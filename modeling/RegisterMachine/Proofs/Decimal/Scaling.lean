import Mathlib.Tactic.GCongr
import Mathlib.Tactic.Linarith
import Mathlib.Tactic.Ring
import RegisterMachine.Proofs.Binary64.Precision
import RegisterMachine.Proofs.Decimal.Numeral

/-!
# Numerals scaled with several roundings

A word is rounded before it is scaled, so is the power of ten, and the scaled number is rounded
again. If the word and the power are binary64 numbers themselves, only the last rounding counts;
otherwise the result may be a few steps away from the number that is nearest to the numeral.
-/

namespace RegisterMachine.Decimal.Numeral

open Binary64 (unitsPerOne unitsPerOne_pos overflow roundMagnitude Near Close)

/-! ### Powers of ten -/

section
variable {k : Nat}

private theorem pow_units_lt_of_mem :
    ∀ k ∈ List.range 309, Nat.blt (10 ^ k * unitsPerOne) overflow = true := by decide +kernel

theorem isFinite_powerOfTen (h : k ≤ 308) : (powerOfTen k).isFinite = true :=
  Binary64.isFinite_ofInt (n := 10 ^ k)
    (Nat.blt_eq.mp (pow_units_lt_of_mem k (List.mem_range.mpr (by omega))))

theorem near_powerOfTen (h : k ≤ 308) :
    Binary64.Near 1 (powerOfTen k).units (10 ^ k * unitsPerOne) :=
  Binary64.near_units_ofInt (n := 10 ^ k) (isFinite_powerOfTen h)

theorem unitsPerOne_le_units_powerOfTen (k : Nat) : unitsPerOne ≤ (powerOfTen k).units :=
  Binary64.unitsPerOne_le_units_ofInt (n := 10 ^ k) (ten_pow_pos k)

theorem units_powerOfTen_pos (k : Nat) : 0 < (powerOfTen k).units :=
  unitsPerOne_pos.trans_le (unitsPerOne_le_units_powerOfTen k)

private theorem units_powerOfTen_of_mem :
    ∀ k ∈ List.range 23, ((powerOfTen k).units == 10 ^ k * unitsPerOne) = true := by decide +kernel

/-- The powers of ten that are binary64 numbers. -/
theorem units_powerOfTen (h : k ≤ 22) : (powerOfTen k).units = 10 ^ k * unitsPerOne :=
  beq_iff_eq.mp (units_powerOfTen_of_mem k (List.mem_range.mpr (by omega)))

end

/-- A word is far from being infinite. -/
theorem isFinite_word {word : Nat} (h : word < UInt64.size) :
    (Binary64.ofInt word).isFinite = true := by
  have least := pow_units_lt_of_mem 20 (by decide)
  refine Binary64.isFinite_ofInt (Nat.lt_of_le_of_lt ?_ (Nat.blt_eq.mp least))
  exact Nat.mul_le_mul_right _ (Nat.le_trans (Nat.le_of_lt h) (by decide))

theorem near_word {word : Nat} (h : word < UInt64.size) :
    Binary64.Near 1 (Binary64.ofInt word).units (word * unitsPerOne) :=
  Binary64.near_units_ofInt (isFinite_word h)

/-! ### Scaling -/

/-- A division by powers of ten stays finite. -/
theorem isFinite_scaleDown {x : Binary64} (finite : x.isFinite = true) (k : Nat) :
    (scaleDown x k).isFinite = true := by
  induction x, k using scaleDown.induct with
  | case1 x k few =>
    rw [scaleDown, if_pos few]
    exact Binary64.isFinite_div finite (unitsPerOne_le_units_powerOfTen k)
  | case2 x k many zero =>
    rw [scaleDown, if_neg many, if_pos zero]
    exact finite
  | case3 x k many nonzero ih =>
    rw [scaleDown, if_neg many, if_neg nonzero]
    exact ih (Binary64.isFinite_div finite (unitsPerOne_le_units_powerOfTen 308))

/-- Rounding the factors does not make a product infinite that is below `2 ^ 1023`. -/
theorem isFinite_mul_powerOfTen {d t k : Nat} (top : t = 2044) (few : k ≤ 308)
    (word : d < UInt64.size) (small : d * 10 ^ k * unitsPerOne ≤ 2 ^ 53 * 2 ^ t) :
    ((Binary64.ofInt d).mul (powerOfTen k)).isFinite = true := by
  have near := ((near_word word).mul (near_powerOfTen few)).le
  have positive : 0 < 2 ^ t * unitsPerOne := Nat.mul_pos (Nat.two_pow_pos t) unitsPerOne_pos
  apply Binary64.isFinite_mul
  rw [Binary64.overflow_eq top]
  refine Nat.lt_of_mul_lt_mul_left (a := (2 ^ 53 - 1) ^ 2) ?_
  calc (2 ^ 53 - 1) ^ 2 * ((Binary64.ofInt d).units * (powerOfTen k).units)
    _ ≤ (2 ^ 53) ^ 2 * ((d * unitsPerOne) * (10 ^ k * unitsPerOne)) := near
    _ = (2 ^ 53) ^ 2 * (d * 10 ^ k * unitsPerOne * unitsPerOne) := by ring
    _ ≤ (2 ^ 53) ^ 2 * (2 ^ 53 * 2 ^ t * unitsPerOne) := by gcongr
    _ = ((2 ^ 53) ^ 2 * 2 ^ 53) * (2 ^ t * unitsPerOne) := by ring
    _ < ((2 ^ 53 - 1) ^ 2 * (2 ^ 54 - 1)) * (2 ^ t * unitsPerOne) :=
        Nat.mul_lt_mul_of_pos_right (by decide) positive
    _ = (2 ^ 53 - 1) ^ 2 * ((2 ^ 54 - 1) * 2 ^ t * unitsPerOne) := by ring

/-! ### The two values of a numeral -/

/-- The word, rounded, times its power of ten, rounded again. -/
def approximate (n : Numeral) : Binary64 :=
  if n.power < 0 then scaleDown (.ofInt n.word) n.power.natAbs
  else (Binary64.ofInt n.word).mul (powerOfTen n.power.natAbs)

/-- The magnitude that is nearest to what is written. -/
def nearestMagnitude (n : Numeral) : Nat :=
  if n.power < 0 then roundMagnitude n.word (10 ^ n.power.natAbs)
  else roundMagnitude (n.word * 10 ^ n.power.natAbs) 1

/-- The word and the power of ten are binary64 numbers. -/
def IsExact (n : Numeral) : Prop := n.word < 2 ^ 53 ∧ n.power.natAbs ≤ 22

instance (n : Numeral) : Decidable n.IsExact :=
  inferInstanceAs (Decidable (n.word < 2 ^ 53 ∧ n.power.natAbs ≤ 22))

section
variable {n : Numeral}

theorem scale?_word (few : n.power ≤ 308) (finite : n.approximate.isFinite = true) :
    scale? (.ofInt n.word) n.power = some n.approximate := by
  unfold approximate at *
  unfold scale?
  split
  · rfl
  · next nonneg =>
    rw [if_neg nonneg] at finite
    rw [scaleUp?, if_pos (by omega)]
    exact Option.filter_eq_some_iff.mpr ⟨rfl, finite⟩

theorem nearestMagnitude_eq (n : Numeral) : n.nearestMagnitude =
    roundMagnitude (n.word * 10 ^ n.power.toNat) (10 ^ (-n.power).toNat) := by
  unfold nearestMagnitude
  split
  · rw [show n.power.toNat = 0 by omega, show (-n.power).toNat = n.power.natAbs by omega,
      Nat.pow_zero, Nat.mul_one]
  · rw [show n.power.toNat = n.power.natAbs by omega, show (-n.power).toNat = 0 by omega,
      Nat.pow_zero]

/-- Without an error in the word and in the power of ten, the value is rounded only once. -/
theorem magnitude_approximate (exact : n.IsExact) :
    n.approximate.magnitude = n.nearestMagnitude := by
  obtain ⟨word, power⟩ := exact
  unfold approximate nearestMagnitude
  split
  · rw [scaleDown, if_pos (by omega), Binary64.magnitude_div, Binary64.units_ofInt word,
      units_powerOfTen power, Binary64.roundMagnitude_mul_right _ _ unitsPerOne_pos]
  · have square := Nat.mul_pos unitsPerOne_pos unitsPerOne_pos
    rw [Binary64.magnitude_mul, Binary64.units_ofInt word, units_powerOfTen power,
      Nat.mul_mul_mul_comm, ← Binary64.roundMagnitude_mul_right _ 1 square, Nat.one_mul]

end

/-! ### Errors -/

section
variable {word k : Nat}

theorem close_mul (small : word < UInt64.size) (few : k ≤ 308) :
    Close ((Binary64.ofInt word).units * (powerOfTen k).units) (unitsPerOne * unitsPerOne)
      (word * 10 ^ k) 1 := by
  have near := ((near_word small).mul (near_powerOfTen few)).mul (.refl unitsPerOne)
  refine near.close ?_ ?_ <;> ring

theorem close_div (small : word < UInt64.size) (few : k ≤ 308) :
    Close (Binary64.ofInt word).units (powerOfTen k).units word (10 ^ k) := by
  have near := (near_word small).mul (near_powerOfTen few).symm
  refine near.close ?_ ?_ <;> ring

/-- Two divisions one after the other. The first quotient may be as small as half a unit, but the
second division makes the error of half a unit as small as it makes the quotient. -/
private theorem close_of_parts {a b p w one z t : Nat} (h : 0 < b) (many : 10 ≤ t)
    (near : Near 2 (a * p) (w * b))
    (error : 2 ^ 53 * (z * b) ≤ (2 ^ 53 + 1) * (a * one) + 2 ^ 52 * b ∧
      (2 ^ 53 - 1) * (a * one) ≤ 2 ^ 53 * (z * b) + 2 ^ 52 * b) :
    2 ^ 56 * (z * p) ≤ (2 ^ 56 + 26) * (w * one) + 2 ^ 54 * (p * t) ∧
      2 ^ 56 * (w * one) ≤ (2 ^ 56 + 26) * (z * p) + 2 ^ 54 * (p * t) := by
  have least : p * b * 10 ≤ p * t * b := by
    rw [Nat.mul_right_comm p t]
    exact Nat.mul_le_mul_left _ many
  have below := Nat.mul_le_mul_right one near.le
  have above := Nat.mul_le_mul_right one near.ge
  have left := Nat.mul_le_mul_right p error.1
  have right := Nat.mul_le_mul_right p error.2
  rw [show 2 ^ 53 - 1 = 9007199254740991 from rfl] at *
  constructor <;> refine Nat.le_of_mul_le_mul_right ?_ h
  · linarith only [least, below, left, Nat.zero_le (w * one * b), Nat.zero_le (p * b)]
  · linarith only [least, above, right, Nat.zero_le (z * p * b), Nat.zero_le (p * b)]

/-- A division by a power of ten beyond `10 ^ 308` is made in two parts. -/
theorem close_div_div {m j : Nat} (small : word < UInt64.size) (part : m = 308) (some : 0 < j)
    (few : j ≤ 22) : Close ((Binary64.ofInt word).div (powerOfTen m)).units (powerOfTen j).units
      word (10 ^ (m + j)) := by
  have finite := Binary64.isFinite_div (isFinite_word small) (unitsPerOne_le_units_powerOfTen m)
  have error := Binary64.units_div_error (units_powerOfTen_pos m) finite
  have near := (near_word small).mul (near_powerOfTen (k := m) (by omega)).symm
  have many : 10 ≤ 10 ^ j := Nat.le_self_pow (by omega) 10
  obtain ⟨le, ge⟩ := close_of_parts (units_powerOfTen_pos m) many near error
  have le := Nat.mul_le_mul_left (10 ^ j) le
  have ge := Nat.mul_le_mul_left (10 ^ j) ge
  constructor <;> rw [units_powerOfTen few, Nat.pow_add]
  · linarith only [le]
  · linarith only [ge]

/-- What a short word is scaled to is at most four steps away from the number that is nearest. -/
theorem steps_approximate {n : Numeral} (some : 0 < n.word) (small : n.word < UInt64.size)
    (least : -330 ≤ n.power) (most : n.power ≤ 308) :
    n.approximate.magnitude ≤ n.nearestMagnitude + 4 ∧
      n.nearestMagnitude ≤ n.approximate.magnitude + 4 := by
  unfold approximate nearestMagnitude
  split
  · by_cases few : n.power.natAbs ≤ 308
    · rw [scaleDown, if_pos few, Binary64.magnitude_div]
      exact (close_div small few).steps (units_powerOfTen_pos _) (ten_pow_pos _)
    · obtain ⟨m, part⟩ : ∃ m, m = 308 := ⟨_, rfl⟩
      obtain ⟨j, rest⟩ : ∃ j, n.power.natAbs = m + j := Nat.exists_eq_add_of_le (by omega)
      have nonzero : (Binary64.ofInt n.word).units ≠ 0 :=
        Nat.pos_iff_ne_zero.mp (unitsPerOne_pos.trans_le (Binary64.unitsPerOne_le_units_ofInt some))
      rw [rest, scaleDown, if_neg (by omega), if_neg nonzero, ← part, Nat.add_sub_cancel_left,
        scaleDown, if_pos (by omega), Binary64.magnitude_div]
      exact (close_div_div small part (by omega) (by omega)).steps (units_powerOfTen_pos j)
        (ten_pow_pos _)
  · rw [Binary64.magnitude_mul]
    exact (close_mul small (by omega)).steps (Nat.mul_pos unitsPerOne_pos unitsPerOne_pos)
      Nat.one_pos

end

end RegisterMachine.Decimal.Numeral
