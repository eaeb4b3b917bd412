import Mathlib.Algebra.Order.Ring.Rat
import Mathlib.Algebra.Order.Ring.Cast
import Mathlib.Data.Nat.Cast.Order.Ring
import Mathlib.Order.Compare
import RegisterMachine.Proofs.Machine.Cycle
import RegisterMachine.Proofs.Value.Order

/-!
# Comparing numbers

The number that a value stands for, and the order of values against the order of these numbers.
They agree but for the zeros: the negative one comes before the positive one and before the
integer, although all three stand for the same number (`execute_cmp_of_number?`).
-/

namespace RegisterMachine

namespace Value

/-- The number that a value stands for; infinities and NaNs stand for none. -/
def number? : Value → Option ℚ
  | int n => some n.toInt
  | float x => if x.isFinite then some (x.scaled / Binary64.unitsPerOne) else none

/-- Whether the value is the zero with the sign bit set. -/
def isNegativeZero : Value → Bool
  | int _ => false
  | float x => x.isNegativeZero

variable {a b : Value} {s t : ℚ}

theorem isNegativeZero_toBinary64 (v : Value) :
    v.toBinary64.isNegativeZero = v.isNegativeZero := by
  cases v with
  | int n => exact Binary64.isNegativeZero_ofInt (natAbs_toInt_lt n)
  | float x => rfl

/-- A value that stands for a number has this number as a binary64 number. -/
theorem scaled_toBinary64 (h : a.number? = some s) :
    (a.toBinary64.scaled : ℚ) = s * Binary64.unitsPerOne := by
  have unit : (Binary64.unitsPerOne : ℚ) ≠ 0 := Nat.cast_ne_zero.mpr Binary64.unitsPerOne_pos.ne'
  cases a with
  | int n =>
    obtain rfl := Option.some.inj h
    rw [toBinary64, Binary64.scaled_ofInt (natAbs_toInt_lt n), Int.cast_mul, Int.cast_natCast]
  | float x =>
    rw [number?] at h
    split at h
    · obtain rfl := Option.some.inj h
      exact (div_mul_cancel₀ _ unit).symm
    · cases h

/-- Binary64 numbers of two values are in the order of the numbers that these stand for. -/
theorem compare_scaled (ha : a.number? = some s) (hb : b.number? = some t) :
    Ord.compare a.toBinary64.scaled b.toBinary64.scaled = Ord.compare s t := by
  have unit : (0 : ℚ) < Binary64.unitsPerOne := Nat.cast_pos.mpr Binary64.unitsPerOne_pos
  calc Ord.compare a.toBinary64.scaled b.toBinary64.scaled
    _ = cmp a.toBinary64.scaled b.toBinary64.scaled := (cmp_eq_compare ..).symm
    _ = cmp (a.toBinary64.scaled : ℚ) b.toBinary64.scaled :=
        (Int.cast_strictMono.cmp_map_eq ..).symm
    _ = cmp (s * Binary64.unitsPerOne) (t * Binary64.unitsPerOne) := by
        rw [scaled_toBinary64 ha, scaled_toBinary64 hb]
    _ = cmp s t := cmp_mul_pos_right unit s t
    _ = Ord.compare s t := cmp_eq_compare s t

/-- Values are in the order of the numbers they stand for, the negative zero before the other
zeros. -/
theorem compare_of_number? (ha : a.number? = some s) (hb : b.number? = some t) :
    a.compare b =
      (Ord.compare s t).then (Ord.compare b.isNegativeZero a.isNegativeZero) := by
  rw [compare_eq_totalCompare, Binary64.totalCompare_eq, compare_scaled ha hb,
    isNegativeZero_toBinary64, isNegativeZero_toBinary64]

/-- Values are found equal if they stand for the same number and both or none are the negative
zero. -/
theorem compare_eq_eq_iff (ha : a.number? = some s) (hb : b.number? = some t) :
    a.compare b = .eq ↔ s = t ∧ a.isNegativeZero = b.isNegativeZero := by
  rw [compare_of_number? ha hb, Ordering.then_eq_eq, compare_eq_iff_eq, compare_eq_iff_eq,
    Eq.comm (a := b.isNegativeZero)]

end Value

namespace Machine

/-- A branch on equality is taken after a comparison exactly if it has found equality. -/
theorem apply_branch_execute_cmp (m : Machine) (lhs rhs : Operand) (target : Nat) :
    ((m.execute (.cmp lhs rhs)).apply (.branch .eq target)).1 = .jumped ↔
      (m.read lhs).compare (m.read rhs) = .eq := by
  have flag : (m.execute (.cmp lhs rhs)).flag =
      .ofOrdering ((m.read lhs).compare (m.read rhs)) := rfl
  rw [apply, Condition.holds, flag]
  cases (m.read lhs).compare (m.read rhs) with
  | eq => exact iff_of_true rfl rfl
  | lt | gt => exact iff_of_false (fun h ↦ by cases h) (fun h ↦ by cases h)

end Machine

/-- Two values that stand for numbers are compared by these numbers, where the negative zero comes
before the other zeros. Whatever machine compares operands of these values, its flag tells this
order, and a branch on equality behind the comparison is taken exactly if the numbers are equal and
both or none of the values are the negative zero. -/
theorem execute_cmp_of_number? {a b : Value} {s t : ℚ} (ha : a.number? = some s)
    (hb : b.number? = some t) :
    let order := (compare s t).then (compare b.isNegativeZero a.isNegativeZero)
    a.compare b = order ∧
      ∀ (m : Machine) (lhs rhs : Operand) (target : Nat), m.read lhs = a → m.read rhs = b →
        (m.execute (.cmp lhs rhs)).flag = .ofOrdering order ∧
          (((m.execute (.cmp lhs rhs)).apply (.branch .eq target)).1 = .jumped ↔
            s = t ∧ a.isNegativeZero = b.isNegativeZero) := by
  intro order
  have ordered : a.compare b = order := Value.compare_of_number? ha hb
  refine ⟨ordered, ?_⟩
  rintro m lhs rhs target rfl rfl
  constructor
  · exact congrArg Flag.ofOrdering ordered
  · rw [Machine.apply_branch_execute_cmp, Value.compare_eq_eq_iff ha hb]

/-- The number `2.0` and the integer `2` are found equal. -/
theorem execute_cmp_two :
    let a : Value := .float ⟨0x4000000000000000⟩
    let b : Value := .int 2
    let after := Machine.fresh.execute (.cmp (.literal a) (.literal b))
    a.number? = some 2 ∧ b.number? = some 2 ∧ a.compare b = .eq ∧ after.flag = .eq ∧
      (after.apply (.branch .eq 1)).1 = .jumped := by
  intro a b after
  have ha : a.number? = some 2 := by decide +kernel
  have hb : b.number? = some 2 := rfl
  obtain ⟨order, runs⟩ := execute_cmp_of_number? ha hb
  obtain ⟨flag, taken⟩ := runs Machine.fresh (.literal a) (.literal b) 1 rfl rfl
  exact ⟨ha, hb, order, flag, taken.mpr ⟨rfl, by decide⟩⟩

/-- The negative zero and the integer zero stand for the same number and are not found equal. -/
theorem not_compare_eq_compare_number : ¬ ∀ (a b : Value) (s t : ℚ), a.number? = some s →
    b.number? = some t → a.compare b = compare s t := by
  intro numeric
  have zero : Value.number? (.float ⟨0x8000000000000000⟩) = some 0 := by decide +kernel
  have less : Value.compare (.float ⟨0x8000000000000000⟩) (.int 0) = .lt := by decide +kernel
  have equal := numeric _ (.int 0) 0 0 zero rfl
  rw [less, compare_eq_iff_eq.mpr rfl] at equal
  cases equal

end RegisterMachine
