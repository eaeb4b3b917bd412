import RegisterMachine.Proofs.Binary64.Nearest

/-!
# The total order of numbers

The total order puts binary64 numbers in the order of their values, and of the two zeros the
negative one first (`totalCompare_eq`). A whole number of at most 53 binary digits keeps its value
as a binary64 number (`scaled_ofInt`).
-/

namespace RegisterMachine.Binary64

/-- Whether the number is the zero with the sign bit set. -/
def isNegativeZero (x : Binary64) : Bool := x.isNegative && x.magnitude == 0

variable {x y : Binary64}

theorem units_eq_zero_iff : x.units = 0 ↔ x.magnitude = 0 := by
  constructor
  · intro none
    exact Decidable.byContradiction fun nonzero ↦ Nat.ne_of_gt (x.units_pos nonzero) none
  · intro zero
    have none : x.units = 0 * 2 ^ 0 := units_of_magnitude_eq zero (Nat.zero_le _) (.inl rfl)
    rw [none, Nat.zero_mul]

theorem units_lt_units_iff : x.units < y.units ↔ x.magnitude < y.magnitude := by
  refine ⟨fun less ↦ Nat.not_le.mp fun le ↦ ?_, units_lt_of_magnitude_lt⟩
  exact Nat.not_lt.mpr (units_le_of_magnitude_le le) less

/-- A smaller value comes first, and so does the negative one of the two zeros. -/
theorem orderKey_lt_iff : x.orderKey < y.orderKey ↔ x.scaled < y.scaled ∨
    x.scaled = y.scaled ∧ x.isNegative = true ∧ y.isNegative = false := by
  have up := units_lt_units_iff (x := x) (y := y)
  have down := units_lt_units_iff (x := y) (y := x)
  rw [orderKey, orderKey, scaled, scaled]
  cases x.isNegative <;> cases y.isNegative <;>
    simp only [Bool.false_eq_true, reduceCtorEq, ↓reduceIte, and_true, and_false, or_false] <;>
    omega

/-- Numbers of one value are the same number, or the two zeros. -/
theorem eq_or_of_scaled_eq (h : x.scaled = y.scaled) :
    x = y ∨ x.isNegative ≠ y.isNegative ∧ x.magnitude = 0 ∧ y.magnitude = 0 := by
  by_cases sign : x.isNegative = y.isNegative
  · rw [scaled, scaled, sign] at h
    have units : x.units = y.units := by split at h <;> omega
    exact .inl (ext_magnitude sign (units_inj.mp units))
  · have none : x.units = 0 ∧ y.units = 0 := by
      rw [scaled, scaled] at h
      cases hx : x.isNegative <;> cases hy : y.isNegative <;>
        simp only [hx, hy, not_true_eq_false, Bool.false_eq_true, ↓reduceIte] at sign h <;> omega
    exact .inr ⟨sign, units_eq_zero_iff.mp none.1, units_eq_zero_iff.mp none.2⟩

/-- Numbers are in the order of their values, and of the two zeros the negative one is first. -/
theorem totalCompare_eq (x y : Binary64) : x.totalCompare y =
    (compare x.scaled y.scaled).then (compare y.isNegativeZero x.isNegativeZero) := by
  rw [totalCompare]
  rcases Int.lt_trichotomy x.scaled y.scaled with less | same | more
  · rw [Int.compare_eq_lt.mpr less, Int.compare_eq_lt.mpr (orderKey_lt_iff.mpr (.inl less))]
    rfl
  · rw [Int.compare_eq_eq.mpr same, Ordering.eq_then]
    rcases eq_or_of_scaled_eq same with rfl | ⟨apart, zeroX, zeroY⟩
    · rw [Int.compare_eq_eq.mpr rfl]
      cases x.isNegativeZero <;> rfl
    · rw [orderKey, orderKey, isNegativeZero, isNegativeZero, zeroX, zeroY]
      cases hx : x.isNegative <;> cases hy : y.isNegative
      · exact absurd (hx.trans hy.symm) apart
      · rfl
      · rfl
      · exact absurd (hx.trans hy.symm) apart
  · rw [Int.compare_eq_gt.mpr more, Int.compare_eq_gt.mpr (orderKey_lt_iff.mpr (.inl more))]
    rfl

/-! ### Whole numbers -/

theorem isNegative_ofInt (i : Int) : (ofInt i).isNegative = decide (i < 0) :=
  isNegative_ofMagnitude _ (Nat.lt_of_le_of_lt (roundMagnitude_le _ _) (by decide))

/-- A whole number of at most 53 binary digits keeps its value. -/
theorem scaled_ofInt {i : Int} (h : i.natAbs < 2 ^ 53) : (ofInt i).scaled = i * unitsPerOne := by
  have same : (ofInt i).magnitude = (ofInt i.natAbs).magnitude := by
    rw [magnitude_ofInt]
    exact magnitude_ofRatio ..
  have units : (ofInt i).units = i.natAbs * unitsPerOne :=
    (units_inj.mpr same).trans (units_ofInt h)
  rw [scaled, isNegative_ofInt, units, Int.natCast_mul]
  by_cases negative : i < 0
  · have size : ((i.natAbs : Nat) : Int) = -i := by omega
    simp only [negative, decide_true, ↓reduceIte, size, Int.neg_mul, Int.neg_neg]
  · have size : ((i.natAbs : Nat) : Int) = i := by omega
    simp only [negative, decide_false, Bool.false_eq_true, ↓reduceIte, size]

/-- No whole number is the negative zero. -/
theorem isNegativeZero_ofInt {i : Int} (h : i.natAbs < 2 ^ 53) :
    (ofInt i).isNegativeZero = false := by
  rw [isNegativeZero, isNegative_ofInt]
  by_cases negative : i < 0
  · have value := scaled_ofInt h
    have positive := unitsPerOne_pos
    have nonzero : (ofInt i).magnitude ≠ 0 := by
      intro zero
      rw [scaled, units_eq_zero_iff.mpr zero] at value
      have none : i * unitsPerOne = 0 := by rw [← value]; split <;> rfl
      rcases Int.mul_eq_zero.mp none with zero | zero <;> omega
    rw [beq_eq_false_iff_ne.mpr nonzero, Bool.and_false]
  · simp only [negative, decide_false, Bool.false_and]

end RegisterMachine.Binary64
