import Mathlib.Tactic.GCongr
import Mathlib.Tactic.Ring
import RegisterMachine.Proofs.Binary64.Rounding

/-!
# The errors of several roundings

A rounding changes a number by at most its part of `2 ^ 53`, or by half a unit. The errors of
roundings one after another multiply, and what is rounded in the end is not many steps away from
what would have been rounded without them.
-/

namespace RegisterMachine.Binary64

/-! ### Relative errors -/

/-- The numbers differ by no more than `n` roundings can change them. -/
structure Near (n a b : Nat) : Prop where
  le : (2 ^ 53 - 1) ^ n * a ≤ (2 ^ 53) ^ n * b
  ge : (2 ^ 53 - 1) ^ n * b ≤ (2 ^ 53) ^ n * a

namespace Near

variable {m n a b c d : Nat}

theorem refl (a : Nat) : Near 0 a a := ⟨Nat.le_refl _, Nat.le_refl _⟩

theorem symm (h : Near n a b) : Near n b a := ⟨h.ge, h.le⟩

private theorem mul_le {u v : Nat} (left : u ^ m * a ≤ v ^ m * b) (right : u ^ n * c ≤ v ^ n * d) :
    u ^ (m + n) * (a * c) ≤ v ^ (m + n) * (b * d) :=
  calc u ^ (m + n) * (a * c) = (u ^ m * a) * (u ^ n * c) := by ring
    _ ≤ (v ^ m * b) * (v ^ n * d) := Nat.mul_le_mul left right
    _ = v ^ (m + n) * (b * d) := by ring

/-- The errors of factors add up to that of the product. -/
theorem mul (left : Near m a b) (right : Near n c d) : Near (m + n) (a * c) (b * d) :=
  ⟨mul_le left.le right.le, mul_le left.ge right.ge⟩

end Near

/-! ### One rounding -/

section
variable {num den : Nat} {negative : Bool}

/-- The magnitude of a finite rounded quotient, by the steps of the quotient. -/
theorem magnitude_ofRatio_of_isFinite (finite : (ofRatio negative num den).isFinite = true) :
    (ofRatio negative num den).magnitude = excess num den * 2 ^ 52 +
      nearest (num * unitsPerOne) (den * 2 ^ excess num den) := by
  have finite : (ofRatio negative num den).magnitude < infinityMagnitude := of_decide_eq_true finite
  have whole := magnitude_ofRatio negative num den
  rw [roundMagnitude_eq_min] at whole
  omega

/-- A finite result is at most half a step of the quotient away from it. -/
theorem units_ofRatio_bounds (h : 0 < den) (finite : (ofRatio negative num den).isFinite = true) :
    2 * (num * unitsPerOne) ≤ 2 * ((ofRatio negative num den).units * den) +
        den * 2 ^ excess num den ∧
      2 * ((ofRatio negative num den).units * den) ≤ 2 * (num * unitsPerOne) +
        den * 2 ^ excess num den := by
  have step : 0 < den * 2 ^ excess num den := Nat.mul_pos h (Nat.two_pow_pos _)
  have value := units_of_magnitude_eq (magnitude_ofRatio_of_isFinite finite)
    (nearest_steps_le num h) (le_nearest_steps num h)
  rw [value, Nat.mul_assoc, Nat.mul_comm (2 ^ _)]
  exact nearest_bounds _ step

/-- The steps of a finite result are not smaller than those of the quotient. -/
theorem excess_le_spacing (h : 0 < den) (finite : (ofRatio negative num den).isFinite = true) :
    excess num den ≤ (ofRatio negative num den).spacing := by
  have whole := magnitude_ofRatio_of_isFinite finite
  have many := le_nearest_steps num h
  simp only [spacing, exponentField, Nat.pow_eq]
  omega

/-- The steps of a quotient are its part of `2 ^ 52`, or less, unless they are units. -/
theorem mul_step_le (num : Nat) {den : Nat} (h : 0 < den) : den * 2 ^ excess num den = den ∨
    2 ^ 52 * (den * 2 ^ excess num den) ≤ num * unitsPerOne := by
  rcases excess_le num h with zero | least
  · exact .inl (by rw [zero, Nat.pow_zero, Nat.mul_one])
  · rw [Nat.pow_add, ← Nat.mul_assoc, Nat.mul_comm] at least
    exact .inr least

/-- A rounding changes a quotient by its part of `2 ^ 53` and half a unit at most. -/
theorem units_div_error {x y : Binary64} (h : 0 < y.units) (finite : (x.div y).isFinite = true) :
    2 ^ 53 * ((x.div y).units * y.units) ≤
        (2 ^ 53 + 1) * (x.units * unitsPerOne) + 2 ^ 52 * y.units ∧
      (2 ^ 53 - 1) * (x.units * unitsPerOne) ≤
        2 ^ 53 * ((x.div y).units * y.units) + 2 ^ 52 * y.units := by
  have bounds := units_ofRatio_bounds h finite
  have step := mul_step_le x.units h
  rw [← div] at bounds
  omega

/-- A rounding changes a quotient of at least `2 ^ 52` units by its part of `2 ^ 53` at most. -/
theorem near_units_ofRatio (h : 0 < den) (finite : (ofRatio negative num den).isFinite = true)
    (normal : 2 ^ 52 * den ≤ num * unitsPerOne) :
    Near 1 ((ofRatio negative num den).units * den) (num * unitsPerOne) := by
  have bounds := units_ofRatio_bounds h finite
  have step := mul_step_le num h
  constructor <;> rw [Nat.pow_one, Nat.pow_one] <;> omega

theorem near_units_ofInt {n : Nat} (finite : (ofInt n).isFinite = true) :
    Near 1 (ofInt n).units (n * unitsPerOne) := by
  rcases Nat.eq_zero_or_pos n with rfl | positive
  · rw [units_ofInt (by decide), Nat.zero_mul]
    exact ⟨Nat.le_refl _, Nat.le_refl _⟩
  · have normal : 2 ^ 52 * 1 ≤ n * unitsPerOne := by
      rw [Nat.mul_one]
      exact le_unitsPerOne.trans (Nat.le_mul_of_pos_left _ positive)
    rw [ofInt_natCast] at finite ⊢
    simpa using near_units_ofRatio Nat.one_pos finite normal

end

/-! ### Steps -/

section
variable {x y : Binary64} {num den : Nat}

theorem spacing_le_spacing (h : x.magnitude ≤ y.magnitude) : x.spacing ≤ y.spacing := by
  simp only [spacing, exponentField, Nat.pow_eq]
  omega

/-- The next number is one step away. -/
theorem units_of_magnitude_succ (h : y.magnitude = x.magnitude + 1) :
    y.units = x.units + 2 ^ x.spacing := by
  have whole := x.magnitude_eq
  have normal := x.spacing_eq_zero_or
  have next : y.magnitude = x.spacing * 2 ^ 52 + (x.significand + 1) := by omega
  rw [units_of_magnitude_eq next x.significand_lt (normal.imp_right fun many ↦ by omega),
    Nat.add_one_mul, units, Nat.pow_eq]

/-- Numbers above are so many steps away, or more. -/
theorem le_units_of_magnitude_add {n : Nat} (bound : x.magnitude + n < 2 ^ 63)
    (h : y.magnitude = x.magnitude + n) : x.units + n * 2 ^ x.spacing ≤ y.units := by
  induction n generalizing y with
  | zero =>
    rw [Nat.zero_mul]
    exact units_le_of_magnitude_le (Nat.le_of_eq h.symm)
  | succ n ih =>
    have before := magnitude_ofMagnitude false (m := x.magnitude + n) (by omega)
    have value := ih (by omega) before
    have next := units_of_magnitude_succ (x := ofMagnitude false (x.magnitude + n)) (y := y)
      (by omega)
    have step : 2 ^ x.spacing ≤ 2 ^ (ofMagnitude false (x.magnitude + n)).spacing :=
      Nat.pow_le_pow_right Nat.two_pos (spacing_le_spacing (by omega))
    rw [next, Nat.add_one_mul]
    omega

/-- Finite numbers are rounded to themselves. -/
theorem roundMagnitude_units (finite : x.isFinite = true) :
    roundMagnitude x.units unitsPerOne = x.magnitude := by
  have above : 0 < x.gapAbove * unitsPerOne := Nat.mul_pos (Nat.two_pow_pos _) unitsPerOne_pos
  have below : 0 < x.gapBelow * unitsPerOne := Nat.mul_pos x.gapBelow_pos unitsPerOne_pos
  apply roundMagnitude_eq finite unitsPerOne_pos
  exact ⟨Nat.le_add_right _ _, Nat.le_add_right _ _,
    fun _ ↦ ⟨Nat.lt_add_of_pos_right above, Nat.lt_add_of_pos_right below⟩⟩

/-- A quotient that is not above a finite number is not rounded to one above it. -/
theorem roundMagnitude_le_magnitude (finite : x.isFinite = true) (h : 0 < den)
    (le : num * unitsPerOne ≤ x.units * den) : roundMagnitude num den ≤ x.magnitude :=
  calc roundMagnitude num den
    _ = roundMagnitude (num * unitsPerOne) (den * unitsPerOne) :=
        (roundMagnitude_mul_right num den unitsPerOne_pos).symm
    _ ≤ roundMagnitude (x.units * den) (den * unitsPerOne) :=
        roundMagnitude_le_roundMagnitude (Nat.mul_pos h unitsPerOne_pos) le
    _ = roundMagnitude (x.units * den) (unitsPerOne * den) := by rw [Nat.mul_comm den unitsPerOne]
    _ = roundMagnitude x.units unitsPerOne := roundMagnitude_mul_right x.units unitsPerOne h
    _ = x.magnitude := roundMagnitude_units finite

/-- What the quotients make is at most 26 parts of `2 ^ 56` and a quarter of a unit apart. -/
structure Close (num den num' den' : Nat) : Prop where
  le : 2 ^ 56 * (num * unitsPerOne * den') ≤
    (2 ^ 56 + 26) * (num' * unitsPerOne * den) + 2 ^ 54 * (den * den')
  ge : 2 ^ 56 * (num' * unitsPerOne * den) ≤
    (2 ^ 56 + 26) * (num * unitsPerOne * den') + 2 ^ 54 * (den * den')

/-- Two roundings do not put quotients further apart than that. -/
theorem Near.close {num' den' a b : Nat} (h : Near 2 a b) (left : num * unitsPerOne * den' = a)
    (right : num' * unitsPerOne * den = b) : Close num den num' den' := by
  obtain ⟨le, ge⟩ := h
  constructor <;> rw [left, right] <;> omega

/-- The greater one is less than four and a half steps above the number that the other one is
rounded to. -/
private theorem le_of_close {value value' den den' units step : Nat} (h' : 0 < den')
    (close : 2 ^ 56 * (value * den') ≤ (2 ^ 56 + 26) * (value' * den) + 2 ^ 54 * (den * den'))
    (rounded : 2 * value' ≤ 2 * (units * den') + den' * step)
    (most : units ≤ (2 ^ 53 - 1) * step) (positive : 0 < step) :
    value ≤ (units + 4 * step) * den := by
  refine Nat.le_of_mul_le_mul_left (c := 2 ^ 57 * den') ?_ (Nat.mul_pos (by decide) h')
  calc 2 ^ 57 * den' * value
    _ = 2 * (2 ^ 56 * (value * den')) := by ring
    _ ≤ 2 * ((2 ^ 56 + 26) * (value' * den) + 2 ^ 54 * (den * den')) := by gcongr
    _ = (2 ^ 56 + 26) * (2 * value') * den + 2 ^ 55 * (den * den') := by ring
    _ ≤ (2 ^ 56 + 26) * (2 * (units * den') + den' * step) * den + 2 ^ 55 * (den * den') := by
        gcongr
    _ = ((2 ^ 56 + 26) * (2 * units + step) + 2 ^ 55) * (den * den') := by ring
    _ ≤ (2 ^ 57 * (units + 4 * step)) * (den * den') := Nat.mul_le_mul_right _ (by omega)
    _ = 2 ^ 57 * den' * ((units + 4 * step) * den) := by ring

private theorem roundMagnitude_le_add_four {num' den' : Nat} (h : 0 < den) (h' : 0 < den')
    (close : 2 ^ 56 * (num * unitsPerOne * den') ≤
      (2 ^ 56 + 26) * (num' * unitsPerOne * den) + 2 ^ 54 * (den * den')) :
    roundMagnitude num den ≤ roundMagnitude num' den' + 4 := by
  rw [← magnitude_ofRatio false num' den']
  by_cases below : (ofRatio false num' den').magnitude + 4 < infinityMagnitude
  · have finite : (ofRatio false num' den').isFinite = true := decide_eq_true (by omega)
    have bound : (ofRatio false num' den').magnitude + 4 < 2 ^ 63 := below.trans (by decide)
    have size := magnitude_ofMagnitude false bound
    rw [← size]
    apply roundMagnitude_le_magnitude (decide_eq_true (size.trans_lt below)) h
    have rounded := (units_ofRatio_bounds h' finite).1
    have step : den' * 2 ^ excess num' den' ≤ den' * 2 ^ (ofRatio false num' den').spacing :=
      Nat.mul_le_mul_left _ (Nat.pow_le_pow_right Nat.two_pos (excess_le_spacing h' finite))
    refine (le_of_close h' close (rounded.trans (Nat.add_le_add_left step _)) ?_
      (Nat.two_pow_pos _)).trans (Nat.mul_le_mul_right _ (le_units_of_magnitude_add bound size))
    rw [units, Nat.pow_eq]
    exact Nat.mul_le_mul_right _ (Nat.le_pred_of_lt (significand_lt _))
  · exact (roundMagnitude_le num den).trans (Nat.not_lt.mp below)

/-- Close quotients are rounded to numbers that are at most four steps apart. -/
theorem Close.steps {num' den' : Nat} (close : Close num den num' den') (h : 0 < den)
    (h' : 0 < den') : roundMagnitude num den ≤ roundMagnitude num' den' + 4 ∧
      roundMagnitude num' den' ≤ roundMagnitude num den + 4 := by
  refine ⟨roundMagnitude_le_add_four h h' close.le, roundMagnitude_le_add_four h' h ?_⟩
  rw [Nat.mul_comm den' den]
  exact close.ge

end

end RegisterMachine.Binary64
