import RegisterMachine.Proofs.Decimal.Scaling

/-!
# Written numbers read with several roundings

Every finite number is read as a finite number of the same sign, at most four steps away. It is the
number that was written if its digits and their power of ten are binary64 numbers themselves.
-/

namespace RegisterMachine.Decimal

open Binary64 (unitsPerOne unitsPerOne_pos overflow infinityMagnitude)
open Numeral (powerOfTen)

/-! ### Bounds on the last digit -/

section
variable {tie : Tie} {x : Binary64} {d : Nat} {k : Int}

/-- The digits of the largest finite number. -/
theorem shortest_largest (tie : Tie) (negative : Bool) :
    shortest tie (.ofMagnitude negative (infinityMagnitude - 1)) = (17976931348623157, 292) := by
  cases tie <;> cases negative <;> decide +kernel

/-- The most digits on a grid of what is in the interval around a number below the largest. -/
def mostDigits (k : Nat) : Nat := (2 ^ 54 - 3) * Nat.pow 2 2044 / (10 ^ k * unitsPerOne)

theorem le_mostDigits {t k : Nat} (top : t = 2044)
    (h : d * 10 ^ k * unitsPerOne ≤ (2 ^ 54 - 3) * 2 ^ t) : d ≤ mostDigits k := by
  unfold mostDigits
  generalize 2044 = s at *
  subst top
  rw [Nat.mul_assoc] at h
  exact (Nat.le_div_iff_mul_le (grid_pos k)).mpr h

/-- The most digits, on each grid that numbers from `2 ^ 1023` on can have, are still few enough. -/
private theorem isFinite_mostDigits_of_mem : ∀ i ∈ List.range 17, ((Binary64.ofInt
    (mostDigits (292 + i))).mul (powerOfTen (292 + i))).isFinite = true := by
  decide +kernel

-- In the comparisons below, exponents are bound, so that no power is computed where one is used.

/-- All finite numbers are below `10 ^ 309`. -/
private theorem two_pow_lt_of_mem : ∀ l ∈ List.range 2098, ∀ m ∈ [309],
    Nat.blt (2 ^ (l + 1)) (10 ^ m * unitsPerOne) = true := by
  decide +kernel

/-- The grid of `10 ^ 292` is finer than the intervals around numbers from `2 ^ 1023` on. -/
private theorem fine_of_mem : ∀ m ∈ [292], ∀ l ∈ [2045],
    Nat.blt (4 * (10 ^ m * unitsPerOne)) (3 * 2 ^ l) = true := by
  decide +kernel

/-- The grid of `10 ^ -324` is finer than the intervals around all numbers. -/
private theorem finest_of_mem : ∀ m ∈ [324],
    Nat.blt (4 * (10 ^ 0 * unitsPerOne)) (3 * 10 ^ m) = true := by decide +kernel

namespace IsShortest

/-- No digits of a finite number stand for a power of ten that is infinite. -/
theorem le_308 (h : IsShortest tie x d k) (positive : 0 < x.units) (finite : x.isFinite = true) :
    k ≤ 308 := by
  obtain ⟨m, next⟩ : ∃ m, m = 309 := ⟨_, rfl⟩
  have log := List.mem_range.mpr (log2_units_lt positive finite)
  have small := Nat.blt_eq.mp (two_pow_lt_of_mem _ log m (List.mem_singleton.mpr next))
  have value := h.units_le positive
  refine Int.not_lt.mp fun large ↦ ?_
  have power : 10 ^ m ≤ 10 ^ k.toNat := Nat.pow_le_pow_right (by decide) (by omega)
  have whole : (-k).toNat = 0 := by omega
  rw [whole, Nat.pow_zero, Nat.mul_one] at value
  refine Nat.lt_irrefl _ (Nat.lt_of_lt_of_le small (Nat.le_trans ?_ value))
  exact Nat.mul_le_mul_right _ (power.trans (Nat.le_mul_of_pos_left _ (h.pos positive)))

/-- The last digit of a number does not stand for less than `10 ^ -324`. -/
theorem neg_324_le (h : IsShortest tie x d k) (positive : 0 < x.units)
    (finite : x.isFinite = true) : -324 ≤ k := by
  obtain ⟨m, fine⟩ : ∃ m, m = 324 := ⟨_, rfl⟩
  have bounds := powerAbove_bounds positive finite
  have some : (onGrid? tie x (-(m : Int))).isSome = true := by
    apply onGrid?_isSome
    have whole : (-(m : Int)).toNat = 0 := by omega
    rw [whole, Int.neg_neg, Int.toNat_natCast]
    refine (Nat.blt_eq.mp (finest_of_mem m (List.mem_singleton.mpr fine))).trans_le ?_
    have below := x.gapBelow_pos
    have above : 2 ≤ x.gapAbove := Nat.le_self_pow (by omega) 2
    exact Nat.mul_le_mul_right _ (by omega)
  have least := h.le_of_isSome (by omega) some
  omega

/-- The last digit of a number from `2 ^ 1023` on stands for `10 ^ 292` at least. -/
theorem le_of_log2 (h : IsShortest tie x d k) (log : x.units.log2 = 2097) : 292 ≤ k := by
  obtain ⟨m, coarse⟩ : ∃ m, m = 292 := ⟨_, rfl⟩
  have positive : 0 < x.units := Nat.pos_of_ne_zero fun zero ↦ by simp [zero] at log
  have spacing : x.spacing = 2045 := by rw [spacing_eq positive, log]
  have fine := Nat.blt_eq.mp (fine_of_mem m (List.mem_singleton.mpr coarse) x.spacing
    (List.mem_singleton.mpr spacing))
  have some : (onGrid? tie x (m : Int)).isSome = true := by
    apply onGrid?_isSome
    have whole : (-(m : Int)).toNat = 0 := by omega
    rw [whole, Int.toNat_natCast, Nat.pow_zero, Nat.mul_one]
    refine fine.trans_le ?_
    rw [Binary64.gapBelow, Binary64.gapAbove, Nat.pow_succ]
    split <;> omega
  have powers : (m : Int) ≤ powerAbove x := by
    rw [powerAbove_eq, log, coarse]
    decide
  have least := h.le_of_isSome powers some
  omega

/-- What is in the interval around a number from `2 ^ 1023` on, but below the largest. -/
theorem value_le {t : Nat} (top : t = 2044) (h : IsShortest tie x d k)
    (log : x.units.log2 = 2097) (less : x.magnitude < infinityMagnitude - 1) :
    d * 10 ^ k.toNat * unitsPerOne ≤ (2 ^ 54 - 3) * 2 ^ t := by
  have positive : 0 < x.units := Nat.pos_of_ne_zero fun zero ↦ by simp [zero] at log
  have spacing : x.spacing = t + 1 := by rw [spacing_eq positive, log, top]
  have least := h.le_of_log2 log
  have upper := h.attracts.upper
  have steps := x.magnitude_eq
  have whole : (-k).toNat = 0 := by omega
  have significand : x.significand ≤ 2 ^ 53 - 2 := by
    rw [infinityMagnitude] at less
    omega
  have units : x.units ≤ (2 ^ 53 - 2) * (2 * 2 ^ t) := by
    rw [Binary64.units, Nat.pow_eq, spacing, Nat.pow_succ']
    exact Nat.mul_le_mul_right _ significand
  rw [whole, Nat.pow_zero, Nat.mul_one, Nat.mul_one, Binary64.gapAbove, spacing,
    Nat.pow_succ', Nat.pow_succ'] at upper
  omega

/-- The product that stands for the digits stays finite when it is rounded. -/
theorem isFinite_mul (h : IsShortest tie x d k) (finite : x.isFinite = true)
    (positive : 0 < x.units) (chosen : shortest tie x = (d, k)) (nonneg : 0 ≤ k) :
    ((Binary64.ofInt d).mul (powerOfTen k.natAbs)).isFinite = true := by
  obtain ⟨t, top⟩ : ∃ t, t = 2044 := ⟨_, rfl⟩
  have few := h.le_308 positive finite
  have size : k.natAbs = k.toNat := by omega
  have bound := log2_units_lt positive finite
  have largest : x.magnitude < infinityMagnitude := of_decide_eq_true finite
  rw [size]
  by_cases last : x.magnitude = infinityMagnitude - 1
  · -- The bounds below do not hold for the largest number.
    rw [← x.ofMagnitude_magnitude, last, shortest_largest] at chosen
    cases chosen
    decide +kernel
  · by_cases log : x.units.log2 = 2097
    · have least := h.le_of_log2 log
      have finite := isFinite_mostDigits_of_mem (k.toNat - 292) (List.mem_range.mpr (by omega))
      rw [show 292 + (k.toNat - 292) = k.toNat by omega] at finite
      exact Binary64.isFinite_ofInt_mul_of_le
        (le_mostDigits top (h.value_le top log (by omega))) finite
    · apply Numeral.isFinite_mul_powerOfTen top (by omega) (h.lt_size positive finite)
      have value := h.units_le positive
      have whole : (-k).toNat = 0 := by omega
      rw [whole, Nat.pow_zero, Nat.mul_one] at value
      rw [← Nat.pow_add]
      exact value.trans (Nat.pow_le_pow_right (by decide) (by omega))

end IsShortest

end

/-! ### Rereading -/

section
variable {style : FloatStyle} {x : Binary64}

namespace Numeral

/-- The number that is nearest to a numeral is the number that it was written for. -/
theorem nearestMagnitude_ofBinary64 (sign : style.exponentSign ≠ .minus) (nonzero : x.magnitude ≠ 0)
    (finite : x.isFinite = true) : (ofBinary64 style x).nearestMagnitude = x.magnitude := by
  rw [nearestMagnitude_eq]
  exact Binary64.roundMagnitude_eq finite (ten_pow_pos _)
    (attracts_ofBinary64 sign nonzero finite)

/-- The digits stand for a power of ten that is not beyond those of finite numbers, and where they
are multiplied with it, the product is finite. -/
structure IsScalable (n : Numeral) : Prop where
  least : -324 ≤ n.power
  most : n.power ≤ 308
  product : 0 ≤ n.power → ((Binary64.ofInt n.word).mul (powerOfTen n.power.natAbs)).isFinite = true

theorem isScalable_ofBinary64 (sign : style.exponentSign ≠ .minus) (finite : x.isFinite = true) :
    IsScalable (ofBinary64 style x) := by
  by_cases zero : x.magnitude = 0
  · rw [ofBinary64_zero style zero]
    exact ⟨(by decide : (-324 : Int) ≤ -1), (by decide : (-1 : Int) ≤ 308),
      fun nonneg : (0 : Int) ≤ -1 ↦ absurd nonneg (by decide)⟩
  · obtain ⟨positive, d, k, chosen, shortest, layout⟩ := exists_layout style zero finite
    have least := shortest.neg_324_le positive finite
    have most := shortest.le_308 positive finite
    rcases layout.word_power sign with ⟨word, power⟩ | ⟨-, -, power, -⟩
    · constructor <;> rw [power]
      · exact least
      · exact most
      · rw [word]
        exact shortest.isFinite_mul finite positive chosen
    · constructor <;> rw [power]
      · decide
      · decide
      · exact fun nonneg ↦ absurd nonneg (by decide)

theorem isFinite_approximate (sign : style.exponentSign ≠ .minus) (finite : x.isFinite = true) :
    (ofBinary64 style x).approximate.isFinite = true := by
  unfold approximate
  split
  · exact isFinite_scaleDown (isFinite_word (word_ofBinary64_lt sign finite)) _
  · next nonneg => exact (isScalable_ofBinary64 sign finite).product (Int.not_lt.mp nonneg)

end Numeral

/-- The number that is read where a finite number was written. -/
def reread (style : FloatStyle) (x : Binary64) : Binary64 :=
  .ofMagnitude x.isNegative (Numeral.ofBinary64 style x).approximate.magnitude

theorem isNegative_reread (style : FloatStyle) (x : Binary64) :
    (reread style x).isNegative = x.isNegative :=
  Binary64.isNegative_ofMagnitude _ (Nat.mod_lt _ (by decide))

theorem magnitude_reread (style : FloatStyle) (x : Binary64) :
    (reread style x).magnitude = (Numeral.ofBinary64 style x).approximate.magnitude :=
  Binary64.magnitude_ofMagnitude _ (Nat.mod_lt _ (by decide))

/-- The numeral of a finite number is always read. -/
theorem binary64?_ofBinary64 (sign : style.exponentSign ≠ .minus) (finite : x.isFinite = true) :
    (Numeral.ofBinary64 style x).binary64? = some (reread style x) := by
  rw [Numeral.binary64?_eq (Numeral.word_ofBinary64_lt sign finite) fun e member ↦
      (Numeral.exponent_ofBinary64_lt style finite e member).trans (by decide),
    Numeral.scale?_word (Numeral.isScalable_ofBinary64 sign finite).most
      (Numeral.isFinite_approximate sign finite),
    Numeral.negative_ofBinary64 style finite]
  rfl

/-- A finite number is read as a finite number. -/
theorem isFinite_reread (sign : style.exponentSign ≠ .minus) (finite : x.isFinite = true) :
    (reread style x).isFinite = true := by
  rw [Binary64.isFinite, magnitude_reread]
  exact Numeral.isFinite_approximate sign finite

/-- Zero is read as itself, with its sign. -/
theorem reread_zero (style : FloatStyle) (zero : x.magnitude = 0) : reread style x = x := by
  apply Binary64.ext_magnitude (isNegative_reread style x)
  rw [magnitude_reread, zero, Numeral.ofBinary64_zero style zero]
  cases x.isNegative <;> decide +kernel

/-- A number whose digits and power of ten are binary64 numbers is read as itself. -/
theorem reread_eq (sign : style.exponentSign ≠ .minus) (finite : x.isFinite = true)
    (exact : (Numeral.ofBinary64 style x).IsExact) : reread style x = x := by
  by_cases zero : x.magnitude = 0
  · exact reread_zero style zero
  · apply Binary64.ext_magnitude (isNegative_reread style x)
    rw [magnitude_reread, Numeral.magnitude_approximate exact,
      Numeral.nearestMagnitude_ofBinary64 sign zero finite]

/-- The number that is read is at most four steps away. -/
theorem steps_reread (sign : style.exponentSign ≠ .minus) (finite : x.isFinite = true) :
    (reread style x).magnitude ≤ x.magnitude + 4 ∧
      x.magnitude ≤ (reread style x).magnitude + 4 := by
  by_cases zero : x.magnitude = 0
  · rw [reread_zero style zero]
    omega
  · have scalable := Numeral.isScalable_ofBinary64 sign finite
    rw [magnitude_reread, ← Numeral.nearestMagnitude_ofBinary64 sign zero finite]
    exact Numeral.steps_approximate (Numeral.word_ofBinary64_pos sign zero finite)
      (Numeral.word_ofBinary64_lt sign finite)
      (Int.le_trans (by decide) scalable.least) scalable.most

end

end RegisterMachine.Decimal
