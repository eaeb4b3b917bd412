import Mathlib.Algebra.Order.Ring.Int
import Mathlib.Algebra.Order.Ring.Unbundled.Basic
import RegisterMachine.Proofs.Binary64.Order
import RegisterMachine.Value

/-!
# The order of values

Comparing two values compares their places in the total order of binary64 numbers, also if both are
integers: as a binary64 number every 32-bit integer keeps its value. So there is one order on all
values, in which an integer and the number it converts to have the same place.
-/

namespace RegisterMachine.Value

theorem natAbs_toInt_lt (n : Int32) : n.toInt.natAbs < 2 ^ 53 := by
  have low := n.le_toInt
  have high := n.toInt_lt
  omega

/-- Integers are ordered as the binary64 numbers they convert to. -/
theorem totalCompare_ofInt (m n : Int32) :
    (Binary64.ofInt m.toInt).totalCompare (Binary64.ofInt n.toInt) =
      Ord.compare m.toInt n.toInt := by
  have hm := natAbs_toInt_lt m
  have hn := natAbs_toInt_lt n
  have unit : (0 : Int) < Binary64.unitsPerOne := Int.natCast_pos.mpr Binary64.unitsPerOne_pos
  rw [Binary64.totalCompare_eq, Binary64.isNegativeZero_ofInt hm, Binary64.isNegativeZero_ofInt hn,
    Binary64.scaled_ofInt hm, Binary64.scaled_ofInt hn]
  rw [← cmp_eq_compare, cmp_mul_pos_right unit, cmp_eq_compare]
  exact Ordering.then_eq

/-- Values are ordered as binary64 numbers, also if both are integers. -/
theorem compare_eq_totalCompare (a b : Value) :
    a.compare b = a.toBinary64.totalCompare b.toBinary64 := by
  cases a with
  | float x => rfl
  | int m =>
    cases b with
    | float y => rfl
    | int n => exact (totalCompare_ofInt m n).symm

instance : Std.TransCmp Value.compare where
  eq_swap := by
    intro a b
    rw [compare_eq_totalCompare, compare_eq_totalCompare]
    exact Std.OrientedOrd.eq_swap
  isLE_trans := by
    intro a b c hab hbc
    rw [compare_eq_totalCompare] at hab hbc ⊢
    exact Std.TransOrd.isLE_trans hab hbc

/-- There is one order on all values, infinities and NaNs included. Comparing the other way round
reverses the outcome, and what is not greater than a value that is not greater than a third one is
not greater than that. Two integers compare as if one or both were converted to binary64 numbers.
Values that are found equal compare alike with every other one. -/
theorem compare_consistent (a b c : Value) (m n : Int32) :
    a.compare b = (b.compare a).swap ∧
      (a.compare b ≠ .gt → b.compare c ≠ .gt → a.compare c ≠ .gt) ∧
      ((int m).compare (int n) = (int m).compare (float (.ofInt n.toInt)) ∧
        (int m).compare (int n) = (float (.ofInt m.toInt)).compare (int n) ∧
        (int m).compare (int n) =
          (Binary64.ofInt m.toInt).totalCompare (Binary64.ofInt n.toInt)) ∧
      (a.compare b = .eq → a.compare c = b.compare c ∧ c.compare a = c.compare b) := by
  have converted := (totalCompare_ofInt m n).symm
  refine ⟨Std.OrientedCmp.eq_swap, ?_, ⟨converted, converted, converted⟩, ?_⟩
  · intro hab hbc
    apply Ordering.isLE_iff_ne_gt.mp
    have first := Ordering.isLE_iff_ne_gt.mpr hab
    have second := Ordering.isLE_iff_ne_gt.mpr hbc
    exact Std.TransCmp.isLE_trans first second
  · intro same
    exact ⟨Std.TransCmp.congr_left same, Std.TransCmp.congr_right same⟩

/-- The integer `-3` and the number `-3.0` have one place, before the positive NaN. -/
theorem compare_neg_three :
    let a := int (-3)
    let b := float ⟨0xC008000000000000⟩
    let c := float (.nan false)
    (a.compare b ≠ .gt ∧ b.compare c ≠ .gt ∧ a.compare c ≠ .gt) ∧
      a.compare b = .eq ∧ a.compare c = b.compare c ∧ c.compare a = c.compare b := by
  intro a b c
  obtain ⟨-, transitive, -, alike⟩ := compare_consistent a b c 0 0
  have same : a.compare b = .eq := by decide +kernel
  have notGreater : a.compare b ≠ .gt := by
    rw [same]
    decide
  have before : b.compare c ≠ .gt := by decide +kernel
  exact ⟨⟨notGreater, before, transitive notGreater before⟩, same, alike same⟩

end RegisterMachine.Value
