import Mathlib.Data.Nat.Dist
import RegisterMachine.Proofs.Binary64.Precision

/-!
# The nearest number

A quotient is rounded to the finite number that no other is nearer to, and of two that are equally
near to the one with the even significand (`ofRatio_eq_iff`). Only a quotient from the middle
between the largest finite number and `2 ^ 1024` on is not rounded to a finite number.
-/

namespace RegisterMachine.Binary64

/-- How far a number without its sign is from a quotient, in parts of a unit, `den` to each. -/
def distance (x : Binary64) (num den : Nat) : Nat := (x.units * den).dist (num * unitsPerOne)

/-- The number is the nearest one to a quotient, signs apart. The quotient is in the range of finite
numbers, none of them is nearer to it, and if another one is as near then the number is the one
with the even significand. -/
structure IsNearest (x : Binary64) (num den : Nat) : Prop where
  finite : x.isFinite = true
  inRange : num * unitsPerOne < den * overflow
  least : ∀ y : Binary64, y.isFinite = true → x.distance num den ≤ y.distance num den
  even : ∀ y : Binary64, y.isFinite = true → y.magnitude ≠ x.magnitude →
    y.distance num den = x.distance num den → x.significand % 2 = 0

variable {x y : Binary64} {num den : Nat}

/-! ### Multiples of a step -/

/-- A quotient half way between two whole numbers has the even one for its nearest. -/
theorem nearest_even {step : Nat} (units : Nat) (h : 0 < step)
    (tie : 2 * units = 2 * (nearest units step * step) + step ∨
      2 * (nearest units step * step) = 2 * units + step) : nearest units step % 2 = 0 := by
  have whole := Nat.div_add_mod units step
  have rest := Nat.mod_lt units h
  rw [Nat.mul_comm] at whole
  simp only [nearest] at tie ⊢
  split
  · next up =>
    rw [if_pos up, Nat.add_one_mul (units / step) step] at tie
    omega
  · next down =>
    rw [if_neg down] at tie
    omega

/-- No multiple of a step is nearer than the nearest one, and only an even one is as near as
another. -/
theorem dist_nearest {step : Nat} (units : Nat) (h : 0 < step) (k : Nat) :
    (nearest units step * step).dist units ≤ (k * step).dist units ∧
      (k ≠ nearest units step →
        (k * step).dist units = (nearest units step * step).dist units →
          nearest units step % 2 = 0) := by
  obtain ⟨upper, lower⟩ := nearest_bounds units h
  have tie := nearest_even units h
  generalize nearest units step = n at *
  rcases Nat.lt_trichotomy k n with less | rfl | more
  · have apart := Nat.mul_le_mul_right step (Nat.succ_le_of_lt less)
    rw [Nat.succ_mul] at apart
    simp only [Nat.dist]
    exact ⟨by omega, fun _ same ↦ tie (.inr (by omega))⟩
  · exact ⟨Nat.le_refl _, fun other ↦ absurd rfl other⟩
  · have apart := Nat.mul_le_mul_right step (Nat.succ_le_of_lt more)
    rw [Nat.succ_mul] at apart
    simp only [Nat.dist]
    exact ⟨by omega, fun _ same ↦ tie (.inl (by omega))⟩

/-- A number is a multiple of `2 ^ e` units, or it is less than `2 ^ 52` of them. -/
theorem units_cases (x : Binary64) (e : Nat) :
    (∃ k, x.units = k * 2 ^ e) ∨ 0 < e ∧ x.units < 2 ^ 52 * 2 ^ e := by
  rcases Nat.lt_or_ge x.spacing e with finer | coarser
  · have powers : 2 ^ (x.spacing + 1) ≤ 2 ^ e := Nat.pow_le_pow_right Nat.two_pos finer
    have most := Nat.mul_lt_mul_of_pos_right x.significand_lt (Nat.two_pow_pos x.spacing)
    rw [Nat.pow_succ] at powers
    rw [units, Nat.pow_eq]
    exact .inr ⟨by omega, by omega⟩
  · refine .inl ⟨x.significand * 2 ^ (x.spacing - e), ?_⟩
    rw [Nat.mul_assoc, ← Nat.pow_add, Nat.sub_add_cancel coarser]
    rfl

/-! ### Numbers by their units -/

/-- The number with the larger magnitude is the larger one. -/
theorem units_lt_of_magnitude_lt (h : x.magnitude < y.magnitude) : x.units < y.units := by
  have bound : y.magnitude < 2 ^ 63 := Nat.mod_lt _ (by decide)
  obtain ⟨n, more⟩ := Nat.exists_eq_add_of_lt h
  have apart := le_units_of_magnitude_add (x := x) (y := y) (n := n + 1) (by omega) more
  have positive : 0 < (n + 1) * 2 ^ x.spacing := Nat.mul_pos (by omega) (Nat.two_pow_pos _)
  omega

theorem units_inj : x.units = y.units ↔ x.magnitude = y.magnitude := by
  constructor
  · intro same
    rcases Nat.lt_trichotomy x.magnitude y.magnitude with less | equal | more
    · exact absurd same (Nat.ne_of_lt (units_lt_of_magnitude_lt less))
    · exact equal
    · exact absurd same.symm (Nat.ne_of_lt (units_lt_of_magnitude_lt more))
  · intro same
    exact Nat.le_antisymm (units_le_of_magnitude_le (Nat.le_of_eq same))
      (units_le_of_magnitude_le (Nat.le_of_eq same.symm))

/-! ### What rounding gives -/

/-- A quotient from the middle between the largest finite number and `2 ^ 1024` on is infinite. -/
theorem infinityMagnitude_le_roundMagnitude (h : 0 < den)
    (large : den * overflow ≤ num * unitsPerOne) :
    infinityMagnitude ≤ roundMagnitude num den :=
  calc infinityMagnitude
    _ = roundMagnitude overflow unitsPerOne := by decide +kernel
    _ = roundMagnitude (den * overflow) (den * unitsPerOne) := by
        rw [Nat.mul_comm den, Nat.mul_comm den, roundMagnitude_mul_right _ _ h]
    _ ≤ roundMagnitude (num * unitsPerOne) (den * unitsPerOne) :=
        roundMagnitude_le_roundMagnitude (Nat.mul_pos h unitsPerOne_pos) large
    _ = roundMagnitude num den := roundMagnitude_mul_right num den unitsPerOne_pos

/-- The number that a quotient is rounded to is the nearest one, if it is finite. -/
theorem isNearest_of_roundMagnitude (h : 0 < den) (finite : x.isFinite = true)
    (rounded : roundMagnitude num den = x.magnitude) : x.IsNearest num den := by
  have small : x.magnitude < infinityMagnitude := of_decide_eq_true finite
  have steps := le_nearest_steps num h
  have most := nearest_steps_le num h
  have whole : x.magnitude = excess num den * 2 ^ 52 +
      nearest (num * unitsPerOne) (den * 2 ^ excess num den) := by
    rw [roundMagnitude_eq_min] at rounded
    omega
  have value := units_of_magnitude_eq whole most steps
  have parity := x.magnitude_eq
  have normal := mul_step_le num h
  generalize excess num den = e at *
  have step : 0 < den * 2 ^ e := Nat.mul_pos h (Nat.two_pow_pos _)
  have grid (k : Nat) : k * 2 ^ e * den = k * (den * 2 ^ e) := by
    rw [Nat.mul_assoc, Nat.mul_comm (2 ^ e)]
  have nearest := dist_nearest (num * unitsPerOne) step
  have away (y : Binary64) : x.distance num den ≤ y.distance num den ∧
      (y.magnitude ≠ x.magnitude → y.distance num den = x.distance num den →
        x.significand % 2 = 0) := by
    rw [distance, distance, value, grid]
    rcases y.units_cases e with ⟨k, multiple⟩ | ⟨positive, finer⟩
    · rw [multiple, grid]
      refine ⟨(nearest k).1, fun other tie ↦ ?_⟩
      have even := (nearest k).2 (fun same ↦ other (units_inj.mp (by rw [multiple, value, same]))) tie
      omega
    · -- The number is less than the multiple at `2 ^ 52`, which is not above the quotient.
      have below := Nat.mul_lt_mul_of_pos_right finer h
      have between := (nearest (2 ^ 52)).1
      rw [grid] at below
      have power : 2 ≤ 2 ^ e := Nat.le_pow positive
      have least : 2 ^ 52 * (den * 2 ^ e) ≤ num * unitsPerOne := by
        refine normal.resolve_left fun same ↦ ?_
        have := Nat.mul_le_mul_left den power
        omega
      simp only [Nat.dist] at between ⊢
      exact ⟨by omega, fun _ tie ↦ by omega⟩
  exact {
    finite := finite
    inRange := Nat.not_le.mp fun large ↦ by
      have := infinityMagnitude_le_roundMagnitude h large
      omega
    least := fun y _ ↦ (away y).1
    even := fun y _ ↦ (away y).2 }

/-- A quotient has no two nearest numbers, signs apart. -/
theorem IsNearest.magnitude_le (hx : x.IsNearest num den) (hy : y.IsNearest num den)
    (h : 0 < den) : y.magnitude ≤ x.magnitude := by
  refine Nat.not_lt.mp fun less ↦ ?_
  have small : y.magnitude < infinityMagnitude := of_decide_eq_true hy.finite
  have tie := Nat.le_antisymm (hx.least y hy.finite) (hy.least x hx.finite)
  have evenX := hx.even y hy.finite (Nat.ne_of_gt less) tie.symm
  have evenY := hy.even x hx.finite (Nat.ne_of_lt less) tie
  have parityX := x.magnitude_eq
  have parityY := y.magnitude_eq
  -- Two even numbers have one between them, and it is nearer.
  have between : (ofMagnitude false (x.magnitude + 1)).magnitude = x.magnitude + 1 :=
    magnitude_ofMagnitude _ (Nat.lt_of_lt_of_le (by omega) (by decide : infinityMagnitude ≤ 2 ^ 63))
  generalize ofMagnitude false (x.magnitude + 1) = z at between
  have finite : z.isFinite = true := decide_eq_true (by omega)
  have above := units_lt_of_magnitude_lt (x := x) (y := z) (by omega)
  have below := units_lt_of_magnitude_lt (x := z) (y := y) (by omega)
  have above := Nat.mul_lt_mul_of_pos_right above h
  have below := Nat.mul_lt_mul_of_pos_right below h
  have least := hx.least z finite
  simp only [distance, Nat.dist] at tie least
  omega

/-- A quotient is rounded to a finite number exactly if this is the nearest one and has the sign of
the quotient. -/
theorem ofRatio_eq_iff (negative : Bool) (h : 0 < den) :
    ofRatio negative num den = x ∧ x.isFinite = true ↔
      x.isNegative = negative ∧ x.IsNearest num den := by
  have sign : (ofRatio negative num den).isNegative = negative :=
    isNegative_ofMagnitude _ (Nat.lt_of_le_of_lt (roundMagnitude_le num den) (by decide))
  constructor
  · rintro ⟨rfl, finite⟩
    exact ⟨sign, isNearest_of_roundMagnitude h finite (magnitude_ofRatio ..).symm⟩
  · rintro ⟨rfl, near⟩
    have finite := isFinite_ofRatio x.isNegative h near.inRange
    have rounded := isNearest_of_roundMagnitude h finite (magnitude_ofRatio ..).symm
    have same := Nat.le_antisymm (near.magnitude_le rounded h) (rounded.magnitude_le near h)
    exact ⟨ext_magnitude sign same, near.finite⟩

end RegisterMachine.Binary64
