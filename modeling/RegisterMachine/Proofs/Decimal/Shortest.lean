import Mathlib.Tactic.GCongr
import Mathlib.Tactic.Ring
import RegisterMachine.Decimal.Shortest
import RegisterMachine.Proofs.Binary64.Rounding

/-!
# Shortest digits

The digits that are chosen for a finite positive number are in the interval around it: read
exactly, they are rounded to the number again. There always are such digits among the powers of
ten that are tried, and they fit a 64-bit word.
-/

namespace RegisterMachine.Decimal

open Binary64 (gapAbove gapBelow unitsPerOne unitsPerOne_pos)

/-! ### One grid -/

theorem ten_pow_pos (k : Nat) : 0 < 10 ^ k := Nat.pow_pos (by decide)

theorem grid_pos (k : Nat) : 0 < 10 ^ k * unitsPerOne := Nat.mul_pos (ten_pow_pos k) unitsPerOne_pos

section
variable {tie : Tie} {x : Binary64} {k : Int} {d : Nat}

/-- Whether a gap stays within half the way to a neighbour; for an odd number, within less. -/
def isInside (x : Binary64) (gap half : Nat) : Bool :=
  if x.significand % 2 = 0 then gap ≤ half else gap < half

theorem isInside_iff {gap half : Nat} :
    isInside x gap half = true ↔ gap ≤ half ∧ (x.significand % 2 = 1 → gap < half) := by
  by_cases even : x.significand % 2 = 0
  · simp [isInside, even]
  · have odd : x.significand % 2 = 1 := by omega
    simpa [isInside, odd] using Nat.le_of_lt

/-- The choice on a grid, with the gaps around the number by name. -/
theorem onGrid?_eq (tie : Tie) (x : Binary64) (k : Int) :
    onGrid? tie x k =
      let den := 10 ^ (-k).toNat
      let value := 4 * (x.units * den)
      let grid := 4 * (10 ^ k.toNat * unitsPerOne)
      let down := value % grid
      let up := grid - down
      let floorReads := isInside x down (x.gapBelow * den)
      let nextReads := isInside x up (x.gapAbove * den)
      if floorReads && nextReads then
        some (if down < up ∨ (down = up ∧ tie = .toEven ∧ value / grid % 2 = 0) then value / grid
          else value / grid + 1)
      else if floorReads then some (value / grid)
      else if nextReads then some (value / grid + 1)
      else none := by
  have grid : Nat.pow 10 k.toNat <<< 1076 = 4 * (10 ^ k.toNat * unitsPerOne) := by
    rw [Binary64.shiftLeft_quarters, Nat.pow_eq]
  have value (den : Nat) : 4 * x.units * den = 4 * (x.units * den) := Nat.mul_assoc ..
  have below (den : Nat) : (if x.fractionField = 0 ∧ 1 < x.exponentField then
      Nat.pow 2 (x.spacing + 1) * den / 2 else Nat.pow 2 (x.spacing + 1) * den) =
      x.gapBelow * den := by
    rw [gapBelow, Nat.pow_eq]
    split
    · rw [Nat.pow_succ, Nat.mul_right_comm, Nat.mul_div_cancel _ (by decide)]
    · rfl
  unfold onGrid?
  dsimp only
  rw [grid, value, below]
  rfl

theorem attracts_of_below {num den gap : Nat} (h : 0 < den)
    (value : 4 * (num * unitsPerOne) + gap = 4 * (x.units * den))
    (inside : isInside x gap (x.gapBelow * den) = true) : x.Attracts num den := by
  obtain ⟨le, odd⟩ := isInside_iff.mp inside
  have above : 0 < x.gapAbove * den := Nat.mul_pos (Nat.two_pow_pos _) h
  constructor
  · omega
  · omega
  · intro isOdd
    have := odd isOdd
    omega

theorem attracts_of_above {num den gap : Nat} (h : 0 < den)
    (value : 4 * (num * unitsPerOne) = 4 * (x.units * den) + gap)
    (inside : isInside x gap (x.gapAbove * den) = true) : x.Attracts num den := by
  obtain ⟨le, odd⟩ := isInside_iff.mp inside
  have below : 0 < x.gapBelow * den := Nat.mul_pos x.gapBelow_pos h
  constructor
  · omega
  · omega
  · intro isOdd
    have := odd isOdd
    omega

/-- The steps of a grid, in quarters of a unit. -/
private theorem grid_mul (n k : Nat) :
    n * (4 * (10 ^ k * unitsPerOne)) = 4 * (n * 10 ^ k * unitsPerOne) := by
  rw [Nat.mul_left_comm, Nat.mul_assoc n]

/-- The choice between two neighbours, each of which may read back. -/
private theorem choice_eq {floorReads nextReads : Bool} {nearer : Prop} [Decidable nearer]
    {n d : Nat} (h : (if floorReads && nextReads then some (if nearer then n else n + 1)
      else if floorReads then some n else if nextReads then some (n + 1) else none) = some d) :
    (floorReads = true ∧ d = n) ∨ (nextReads = true ∧ d = n + 1) := by
  by_cases near : nearer <;> cases floorReads <;> cases nextReads <;> simp [near] at h ⊢ <;> omega

/-- Digits on a grid that are chosen are in the interval around the number. -/
theorem attracts_of_onGrid? (h : onGrid? tie x k = some d) :
    x.Attracts (d * 10 ^ k.toNat) (10 ^ (-k).toNat) := by
  have den := ten_pow_pos (-k).toNat
  have grid : 0 < 4 * (10 ^ k.toNat * unitsPerOne) :=
    Nat.mul_pos (by decide) (grid_pos k.toNat)
  have whole := Nat.div_add_mod (4 * (x.units * 10 ^ (-k).toNat)) (4 * (10 ^ k.toNat * unitsPerOne))
  have rest := Nat.mod_lt (4 * (x.units * 10 ^ (-k).toNat)) grid
  rw [Nat.mul_comm] at whole
  rw [onGrid?_eq] at h
  dsimp only at h
  rcases choice_eq h with ⟨reads, rfl⟩ | ⟨reads, rfl⟩
  · refine attracts_of_below den ?_ reads
    rw [← grid_mul]
    exact whole
  · refine attracts_of_above den ?_ reads
    rw [← grid_mul, Nat.add_one_mul]
    omega

/-- No digits for zero are in the interval around a positive number. -/
theorem pos_of_attracts {num den : Nat} (positive : 0 < x.units) (h : 0 < den)
    (near : x.Attracts (d * num) den) : 0 < d := by
  refine Nat.pos_of_ne_zero fun zero ↦ ?_
  have lower := near.lower
  have below := x.gapBelow_mul_le den
  have significand : 1 ≤ x.significand :=
    Nat.pos_of_ne_zero fun none ↦ by rw [Binary64.units, none, Nat.zero_mul] at positive; omega
  have step : 0 < den * 2 ^ x.spacing := Nat.mul_pos h (Nat.two_pow_pos _)
  have least := Nat.mul_le_mul_right (den * 2 ^ x.spacing) significand
  simp only [zero, Nat.zero_mul, Binary64.units_mul] at lower
  omega

theorem le_of_not_isInside {gap half : Nat} (h : isInside x gap half = false) : half ≤ gap := by
  refine Nat.not_lt.mp fun less ↦ ?_
  rw [isInside_iff.mpr ⟨Nat.le_of_lt less, fun _ ↦ less⟩] at h
  cases h

/-- A grid that is finer than the interval around the number has digits inside. -/
theorem onGrid?_isSome (tie : Tie)
    (fine : 4 * (10 ^ k.toNat * unitsPerOne) < (x.gapBelow + x.gapAbove) * 10 ^ (-k).toNat) :
    (onGrid? tie x k).isSome = true := by
  have grid : 0 < 4 * (10 ^ k.toNat * unitsPerOne) :=
    Nat.mul_pos (by decide) (grid_pos k.toNat)
  have rest := Nat.mod_lt (4 * (x.units * 10 ^ (-k).toNat)) grid
  rw [Nat.add_mul] at fine
  rw [onGrid?_eq]
  dsimp only
  generalize 4 * (x.units * 10 ^ (-k).toNat) % (4 * (10 ^ k.toNat * unitsPerOne)) = down at *
  cases floorReads : isInside x down (x.gapBelow * 10 ^ (-k).toNat) with
  | true => split <;> rfl
  | false =>
    cases nextReads : isInside x (4 * (10 ^ k.toNat * unitsPerOne) - down)
      (x.gapAbove * 10 ^ (-k).toNat) with
    | true => rfl
    | false =>
      have := le_of_not_isInside floorReads
      have := le_of_not_isInside nextReads
      omega

end

/-! ### The grids that are tried -/

/-- A power of ten above numbers with this binary logarithm, in units. -/
def powerAboveLog (l : Nat) : Int := (((l : Int) - 1073) * 30103) / 100000 + 1

/-- Whether the finest grid that is tried is finer than the least interval around a number with
this logarithm, and its digits below the next power of two fit a 64-bit word. -/
private def isFitting (l : Nat) : Bool :=
  let k := powerAboveLog l - 19
  Nat.blt (4 * (10 ^ k.toNat * unitsPerOne)) (3 * 2 ^ (l - 52) * 10 ^ (-k).toNat) &&
    Nat.blt (2 ^ (l + 1) * 10 ^ (-k).toNat) (2 ^ 64 * (10 ^ k.toNat * unitsPerOne))

/-- The constant `30103 / 100000` is close enough to `log 2 / log 10` for all finite numbers. -/
private theorem isFitting_of_mem : ∀ l ∈ List.range 2098, isFitting l = true := by decide +kernel

section
variable {tie : Tie} {x : Binary64} {k : Int} {d : Nat}

theorem powerAbove_eq (x : Binary64) : powerAbove x = powerAboveLog x.units.log2 := rfl

/-- The size of the steps is known from the logarithm. -/
theorem spacing_eq (positive : 0 < x.units) : x.spacing = x.units.log2 - 52 := by
  have normal := x.spacing_eq_zero_or
  have bound := x.significand_lt
  have nonzero : x.units ≠ 0 := by omega
  rw [Binary64.units, Nat.pow_eq] at *
  rcases Nat.eq_zero_or_pos x.spacing with least | more
  · have less : x.significand * 2 ^ x.spacing < 2 ^ 53 := by
      rwa [least, Nat.pow_zero, Nat.mul_one]
    have := (Nat.log2_lt nonzero).mpr less
    omega
  · have less : x.significand * 2 ^ x.spacing < 2 ^ (53 + x.spacing) := by
      rw [Nat.pow_add]
      exact Nat.mul_lt_mul_of_pos_right bound (Nat.two_pow_pos _)
    have many : 2 ^ (52 + x.spacing) ≤ x.significand * 2 ^ x.spacing := by
      rw [Nat.pow_add]
      exact Nat.mul_le_mul_right _ (normal.resolve_left (by omega))
    have := (Nat.log2_lt nonzero).mpr less
    have := (Nat.le_log2 nonzero).mpr many
    omega

theorem log2_units_lt (positive : 0 < x.units) (finite : x.isFinite = true) :
    x.units.log2 < 2098 := by
  have finite : x.magnitude < Binary64.infinityMagnitude := of_decide_eq_true finite
  have whole := x.magnitude_eq
  have normal := x.spacing_eq_zero_or
  have spacing := spacing_eq positive
  rw [Binary64.infinityMagnitude] at finite
  omega

/-- What is in the interval around a number is not above the next power of two. -/
theorem units_le_of_attracts {num den : Nat} (positive : 0 < x.units)
    (near : x.Attracts num den) : num * unitsPerOne ≤ 2 ^ (x.units.log2 + 1) * den := by
  have upper := near.upper
  have spacing := spacing_eq positive
  have less := Nat.lt_log2_self (n := x.units)
  have next : x.units + 2 ^ x.spacing ≤ 2 ^ (x.units.log2 + 1) := by
    have apart : x.units + 2 ^ x.spacing = (x.significand + 1) * 2 ^ x.spacing := by
      rw [Nat.add_one_mul, Binary64.units, Nat.pow_eq]
    rcases Nat.eq_zero_or_pos x.spacing with least | more
    · rw [least, Nat.pow_zero]
      omega
    · rw [apart, show x.units.log2 + 1 = 53 + x.spacing by omega, Nat.pow_add]
      exact Nat.mul_le_mul_right _ x.significand_lt
  have := Nat.mul_le_mul_right den next
  rw [Binary64.gapAbove_mul, Nat.mul_comm den] at upper
  rw [Nat.add_mul] at this
  omega

end

/-! ### The choice -/

/-- The digits are those of the coarsest grid that has some, out of the twenty that are tried. -/
structure IsShortest (tie : Tie) (x : Binary64) (d : Nat) (k : Int) : Prop where
  chosen : onGrid? tie x k = some d
  le_powerAbove : k ≤ powerAbove x
  finest_le : powerAbove x - 19 ≤ k
  coarsest : ∀ j ≤ powerAbove x, k < j → onGrid? tie x j = none

section
variable {tie : Tie} {x : Binary64} {k : Int} {d : Nat}

/-- The finest grid that is tried has digits. -/
theorem onGrid?_finest (tie : Tie) (positive : 0 < x.units) (finite : x.isFinite = true) :
    (onGrid? tie x (powerAbove x - 19)).isSome = true := by
  have fitting := isFitting_of_mem _ (List.mem_range.mpr (log2_units_lt positive finite))
  simp only [isFitting, Bool.and_eq_true, Nat.blt_eq] at fitting
  apply onGrid?_isSome
  rw [powerAbove_eq]
  refine Nat.lt_of_lt_of_le fitting.1 (Nat.mul_le_mul_right _ ?_)
  rw [← spacing_eq positive, gapBelow, gapAbove, Nat.pow_succ]
  split <;> omega

/-- A finite positive number has shortest digits. -/
theorem isShortest_shortest (tie : Tie) (positive : 0 < x.units) (finite : x.isFinite = true) :
    IsShortest tie x (shortest tie x).1 (shortest tie x).2 := by
  obtain ⟨finest, chosen⟩ := Option.isSome_iff_exists.mp (onGrid?_finest tie positive finite)
  cases found : (List.range 20).findSome? fun i : Nat ↦
    (onGrid? tie x (powerAbove x - i)).map fun digits ↦ (digits, powerAbove x - (i : Int)) with
  | none =>
    have none := List.findSome?_eq_none_iff.mp found 19 (by decide)
    rw [show powerAbove x - ((19 : Nat) : Int) = powerAbove x - 19 from rfl, chosen] at none
    cases none
  | some found' =>
    have value : shortest tie x = found' := by
      simp only [shortest, found, Option.getD_some]
    obtain ⟨before, i, after, split, first, none⟩ := List.findSome?_eq_some_iff.mp found
    rw [List.range_eq_range'] at split
    obtain ⟨least, le, rfl, rest⟩ := List.range'_eq_append_iff.mp split
    obtain ⟨rfl, few, -⟩ := List.range'_eq_cons_iff.mp rest.symm
    obtain ⟨digits, drawn, rfl⟩ := Option.map_eq_some_iff.mp first
    rw [value]
    refine ⟨drawn, ?_, ?_, fun j le more ↦ ?_⟩
    · dsimp only
      omega
    · dsimp only
      omega
    · dsimp only at more
      have none := none (powerAbove x - j).toNat (List.mem_range'_1.mpr (by omega))
      rw [show powerAbove x - ((powerAbove x - j).toNat : Int) = j by omega] at none
      exact Option.map_eq_none_iff.mp none

theorem powerAbove_bounds (positive : 0 < x.units) (finite : x.isFinite = true) :
    -323 ≤ powerAbove x ∧ powerAbove x ≤ 309 := by
  have := log2_units_lt positive finite
  rw [powerAbove_eq, powerAboveLog]
  omega

/-- Were the digits on one grid too large for a word, then those on a finer grid all the more. The
grids are `a / b` and `a' / b'`. -/
private theorem grid_lt_of_large {size one d next a b a' b' : Nat} (large : size ≤ d)
    (value : d * a * one ≤ next * b) (fitting : next * b' < size * (a' * one)) (positive : 0 < b) :
    a * b' < a' * b := by
  refine Nat.lt_of_mul_lt_mul_left (a := size * one) ?_
  calc size * one * (a * b')
    _ = size * (a * one) * b' := by ring
    _ ≤ d * (a * one) * b' := by gcongr
    _ ≤ next * b * b' := by rw [← Nat.mul_assoc d]; gcongr
    _ = next * b' * b := Nat.mul_right_comm ..
    _ < size * (a' * one) * b := Nat.mul_lt_mul_of_pos_right fitting positive
    _ = size * one * (a' * b) := by ring

namespace IsShortest

variable (h : IsShortest tie x d k)
include h

theorem attracts : x.Attracts (d * 10 ^ k.toNat) (10 ^ (-k).toNat) := attracts_of_onGrid? h.chosen

theorem pos (positive : 0 < x.units) : 0 < d :=
  pos_of_attracts positive (ten_pow_pos _) h.attracts

/-- The digits are not above the next power of two. -/
theorem units_le (positive : 0 < x.units) :
    d * 10 ^ k.toNat * unitsPerOne ≤ 2 ^ (x.units.log2 + 1) * 10 ^ (-k).toNat :=
  units_le_of_attracts positive h.attracts

/-- No grid that has digits is coarser. -/
theorem le_of_isSome {j : Int} (le : j ≤ powerAbove x) (some : (onGrid? tie x j).isSome = true) :
    j ≤ k := by
  refine Int.not_lt.mp fun coarser ↦ ?_
  rw [h.coarsest j le coarser] at some
  cases some

/-- The digits fit a 64-bit word. -/
theorem lt_size (positive : 0 < x.units) (finite : x.isFinite = true) : d < UInt64.size := by
  have fitting := isFitting_of_mem _ (List.mem_range.mpr (log2_units_lt positive finite))
  simp only [isFitting, Bool.and_eq_true, Nat.blt_eq] at fitting
  have words := fitting.2
  rw [← powerAbove_eq] at words
  have finest := h.finest_le
  have value := h.units_le positive
  generalize powerAbove x - 19 = least at *
  generalize 2 ^ (x.units.log2 + 1) = next at *
  refine Nat.not_le.mp fun large ↦ ?_
  have grids := grid_lt_of_large large value words (ten_pow_pos _)
  rw [← Nat.pow_add, ← Nat.pow_add] at grids
  have := (Nat.pow_lt_pow_iff_right (by decide)).mp grids
  omega

end IsShortest

end

end RegisterMachine.Decimal
