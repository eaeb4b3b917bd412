import Mathlib.Tactic.GCongr
import Mathlib.Tactic.Ring
import RegisterMachine.Binary64.Rounding

/-!
# Rounding to the nearest number

A quotient is rounded to a number exactly if it lies in the interval around the number that
reaches half way to its neighbours. What is known of the result of a rounding follows: it is at
most half a step away, and it is finite below the middle between the largest finite number and the
power of two above it.
-/

namespace RegisterMachine.Binary64

/-- One, in units. -/
def unitsPerOne : Nat := Nat.pow 2 1074

theorem shiftLeft_units (n : Nat) : n <<< 1074 = n * unitsPerOne := by
  unfold unitsPerOne
  -- The power is far too large to be computed.
  generalize 1074 = k
  exact Nat.shiftLeft_eq n k

/-- In quarters of a unit. -/
theorem shiftLeft_quarters (n : Nat) : n <<< 1076 = 4 * (n * unitsPerOne) := by
  unfold unitsPerOne
  rw [show 1076 = 1074 + 2 from rfl]
  generalize 1074 = k
  rw [Nat.shiftLeft_add, Nat.shiftLeft_eq n, Nat.shiftLeft_eq _ 2, Nat.mul_comm]
  rfl

theorem unitsPerOne_pos : 0 < unitsPerOne := by
  unfold unitsPerOne
  generalize 1074 = k
  exact Nat.two_pow_pos k

theorem one_shiftLeft_square : 1 <<< 2148 = unitsPerOne * unitsPerOne := by
  unfold unitsPerOne
  rw [show 2148 = 1074 + 1074 from rfl]
  generalize 1074 = k
  rw [Nat.one_shiftLeft]
  exact Nat.pow_add 2 k k

theorem pow_mul_pow_eq_units {m n : Nat} (h : m + n = 1074) : 2 ^ m * 2 ^ n = unitsPerOne := by
  unfold unitsPerOne
  generalize 1074 = k at *
  subst h
  exact (Nat.pow_add 2 m n).symm

theorem le_unitsPerOne : 2 ^ 52 ≤ unitsPerOne := by
  rw [← pow_mul_pow_eq_units (show 52 + 1022 = 1074 from rfl)]
  generalize 1022 = k
  exact Nat.le_mul_of_pos_right _ (Nat.two_pow_pos k)

/-- The middle between the largest finite number and `2 ^ 1024`, in units. -/
def overflow : Nat := (2 ^ 54 - 1) * Nat.pow 2 2044

/-- With a name for the exponent, the power stays a power. -/
theorem overflow_eq {t : Nat} (h : t = 2044) : overflow = (2 ^ 54 - 1) * 2 ^ t := by
  unfold overflow
  generalize 2044 = k at *
  subst h
  rfl

/-! ### Fields -/

section
variable {x : Binary64} {m : Nat}

theorem magnitude_ofMagnitude (negative : Bool) (h : m < 2 ^ 63) :
    (ofMagnitude negative m).magnitude = m := by
  simp only [magnitude, ofMagnitude, UInt64.toNat_ofNat', Nat.pow_eq]
  cases negative <;> simp only [Bool.false_eq_true, ↓reduceIte] <;> omega

theorem isNegative_ofMagnitude (negative : Bool) (h : m < 2 ^ 63) :
    (ofMagnitude negative m).isNegative = negative := by
  simp only [isNegative, ofMagnitude, UInt64.toNat_ofNat', Nat.pow_eq]
  cases negative <;> simp only [Bool.false_eq_true, ↓reduceIte, decide_eq_true_eq,
    decide_eq_false_iff_not] <;> omega

/-- A number is its sign and its magnitude. -/
theorem ofMagnitude_magnitude (x : Binary64) : ofMagnitude x.isNegative x.magnitude = x := by
  have bound : x.magnitude < 2 ^ 63 := Nat.mod_lt _ (by decide)
  exact ext_magnitude (isNegative_ofMagnitude _ bound) (magnitude_ofMagnitude _ bound)

/-- The magnitude counts the steps below the number, `2 ^ 52` of each size but twice as many of
the smallest. -/
theorem magnitude_eq (x : Binary64) : x.magnitude = x.spacing * 2 ^ 52 + x.significand := by
  simp only [spacing, significand, exponentField, fractionField, Nat.pow_eq]
  by_cases least : x.magnitude / 2 ^ 52 = 0 <;> simp only [least, ↓reduceIte] <;> omega

theorem significand_lt (x : Binary64) : x.significand < 2 ^ 53 := by
  simp only [significand, exponentField, fractionField, Nat.pow_eq]
  by_cases least : x.magnitude / 2 ^ 52 = 0 <;> simp only [least, ↓reduceIte] <;> omega

/-- Only steps of the smallest size have significands of fewer than 53 digits. -/
theorem spacing_eq_zero_or (x : Binary64) : x.spacing = 0 ∨ 2 ^ 52 ≤ x.significand := by
  simp only [spacing, significand]
  by_cases least : x.exponentField = 0
  · exact .inl (by omega)
  · exact .inr (by rw [if_neg least, Nat.pow_eq]; omega)

theorem units_pos (x : Binary64) (nonzero : x.magnitude ≠ 0) : 0 < x.units := by
  have whole := x.magnitude_eq
  have normal := x.spacing_eq_zero_or
  exact Nat.mul_pos (by omega) (Nat.two_pow_pos _)

/-- The number of so many steps of one size. -/
theorem units_of_magnitude_eq {steps e : Nat} (h : x.magnitude = e * 2 ^ 52 + steps)
    (le : steps ≤ 2 ^ 53) (normal : e = 0 ∨ 2 ^ 52 ≤ steps) : x.units = steps * 2 ^ e := by
  have whole := x.magnitude_eq
  have bound := x.significand_lt
  have least := x.spacing_eq_zero_or
  rw [units, Nat.pow_eq]
  by_cases carry : steps = 2 ^ 53
  · have spacing : x.spacing = e + 1 := by omega
    have significand : x.significand = 2 ^ 52 := by omega
    rw [spacing, significand, carry, Nat.pow_succ]
    omega
  · have spacing : x.spacing = e := by omega
    have significand : x.significand = steps := by omega
    rw [spacing, significand]

end

section
variable {x y : Binary64}

/-- Of two numbers the one with the larger magnitude has more units. -/
theorem units_le_of_magnitude_le (h : x.magnitude ≤ y.magnitude) : x.units ≤ y.units := by
  have left := x.magnitude_eq
  have right := y.magnitude_eq
  have bound := x.significand_lt
  have bound' := y.significand_lt
  have normal := x.spacing_eq_zero_or
  have normal' := y.spacing_eq_zero_or
  rw [units, units, Nat.pow_eq, Nat.pow_eq]
  by_cases same : x.spacing = y.spacing
  · rw [same]
    exact Nat.mul_le_mul_right _ (by omega)
  · have powers : 2 ^ (x.spacing + 1) ≤ 2 ^ y.spacing :=
      Nat.pow_le_pow_right Nat.two_pos (by omega)
    have most : x.significand * 2 ^ x.spacing ≤ 2 ^ 53 * 2 ^ x.spacing :=
      Nat.mul_le_mul_right _ (by omega)
    have least : 2 ^ 52 * 2 ^ y.spacing ≤ y.significand * 2 ^ y.spacing :=
      Nat.mul_le_mul_right _ (by omega)
    rw [Nat.pow_succ] at powers
    omega

end

/-! ### The nearest whole number -/

section
variable {num den : Nat}

/-- Multiples of a number are as far apart as their factors are. -/
private theorem multiples_apart (m n den : Nat) :
    m * den + den ≤ n * den ∨ m = n ∨ m = n + 1 ∨ n * den + 2 * den ≤ m * den := by
  rcases Nat.lt_or_ge m n with less | ge
  · exact .inl (by have := Nat.mul_le_mul_right den less; rwa [Nat.add_one_mul] at this)
  · rcases Nat.lt_or_ge (n + 1) m with more | le
    · refine .inr (.inr (.inr ?_))
      have := Nat.mul_le_mul_right den more
      rw [Nat.add_one_mul, Nat.add_one_mul] at this
      omega
    · omega

/-- The nearest whole number is at most one half away. -/
theorem nearest_bounds (num : Nat) {den : Nat} (h : 0 < den) :
    2 * num ≤ 2 * (nearest num den * den) + den ∧
      2 * (nearest num den * den) ≤ 2 * num + den := by
  have whole := Nat.div_add_mod num den
  have rest := Nat.mod_lt num h
  rw [Nat.mul_comm] at whole
  simp only [nearest]
  split
  · rw [Nat.add_one_mul (num / den) den]
    omega
  · omega

/-- The nearest whole number does not go down when the quotient goes up. -/
theorem nearest_le_nearest {num' : Nat} (h : 0 < den) (le : num ≤ num') :
    nearest num den ≤ nearest num' den := by
  have upper := (nearest_bounds num h).2
  have lower := (nearest_bounds num' h).1
  by_cases same : num = num'
  · exact Nat.le_of_eq (by rw [same])
  · refine Nat.not_lt.mp fun more ↦ ?_
    have := Nat.mul_le_mul_right den (Nat.succ_le_of_lt more)
    rw [Nat.succ_mul] at this
    omega

theorem nearest_mul_right (num den : Nat) {c : Nat} (h : 0 < c) :
    nearest (num * c) (den * c) = nearest num den := by
  simp only [nearest, Nat.mul_div_mul_right _ _ h, Nat.mul_mod_mul_right, ← Nat.mul_assoc 2,
    Nat.mul_lt_mul_right h, Nat.mul_right_cancel_iff h]

/-- A whole number that is at most one half away is the nearest, and if it is odd it has to be
nearer than that. -/
theorem nearest_eq {n : Nat} (h : 0 < den) (upper : 2 * num ≤ 2 * (n * den) + den)
    (lower : 2 * (n * den) ≤ 2 * num + den)
    (odd : n % 2 = 1 → 2 * num < 2 * (n * den) + den ∧ 2 * (n * den) < 2 * num + den) :
    nearest num den = n := by
  have whole := Nat.div_add_mod num den
  have rest := Nat.mod_lt num h
  rw [Nat.mul_comm] at whole
  have apart := multiples_apart n (num / den) den
  simp only [nearest]
  generalize num / den = floor at *
  generalize num % den = rest at *
  rcases apart with apart | rfl | rfl | apart
  · omega
  · exact if_neg (by omega)
  · rw [Nat.add_one_mul floor den] at *
    exact if_pos (by omega)
  · omega

end

/-! ### Steps -/

section
variable {num den : Nat}

/-- The binary logarithm of the size of the steps between numbers around a quotient, in units. -/
def excess (num den : Nat) : Nat := (num * unitsPerOne / den).log2 - 52

theorem roundMagnitude_eq_min (num den : Nat) : roundMagnitude num den =
    min (excess num den * 2 ^ 52 + nearest (num * unitsPerOne) (den * 2 ^ excess num den))
      infinityMagnitude := by
  unfold roundMagnitude excess
  dsimp only
  rw [shiftLeft_units, Nat.shiftLeft_eq]
  rfl

/-- What is rounded is the value, whatever quotient gives it. -/
theorem roundMagnitude_mul_right (num den : Nat) {c : Nat} (h : 0 < c) :
    roundMagnitude (num * c) (den * c) = roundMagnitude num den := by
  have size : excess (num * c) (den * c) = excess num den := by
    rw [excess, excess, Nat.mul_right_comm, Nat.mul_div_mul_right _ _ h]
  rw [roundMagnitude_eq_min, roundMagnitude_eq_min, size, Nat.mul_right_comm num,
    Nat.mul_right_comm den, nearest_mul_right _ _ h]

/-- A quotient is less than `2 ^ 53` steps. -/
theorem lt_excess (num : Nat) {den : Nat} (h : 0 < den) :
    num * unitsPerOne < den * 2 ^ (excess num den + 53) := by
  rw [excess]
  generalize num * unitsPerOne = units
  have bound : units / den < 2 ^ ((units / den).log2 - 52 + 53) :=
    Nat.lt_of_lt_of_le Nat.lt_log2_self (Nat.pow_le_pow_right Nat.two_pos (by omega))
  rw [Nat.mul_comm]
  exact (Nat.div_lt_iff_lt_mul h).mp bound

/-- A quotient has at least `2 ^ 52` steps, unless they are the smallest ones. -/
theorem excess_le (num : Nat) {den : Nat} (h : 0 < den) :
    excess num den = 0 ∨ den * 2 ^ (excess num den + 52) ≤ num * unitsPerOne := by
  rw [excess]
  generalize num * unitsPerOne = units
  rcases Nat.eq_zero_or_pos ((units / den).log2 - 52) with zero | positive
  · exact .inl zero
  · have some : units / den ≠ 0 := by
      intro none
      rw [none, Nat.log2_zero] at positive
      omega
    have bound : 2 ^ ((units / den).log2 - 52 + 52) ≤ units / den := by
      rw [Nat.sub_add_cancel (by omega)]
      exact Nat.log2_self_le some
    rw [Nat.mul_comm]
    exact .inr ((Nat.le_div_iff_mul_le h).mp bound)

/-- The steps of a size `2 ^ e` against those of a smaller one. -/
private theorem steps_mul_le {m e n t : Nat} (h : m + t ≤ e + n) (den : Nat) :
    2 ^ m * (den * 2 ^ t) ≤ den * 2 ^ (e + n) := by
  rw [Nat.mul_comm, Nat.mul_assoc, ← Nat.pow_add]
  exact Nat.mul_le_mul_left den (Nat.pow_le_pow_right Nat.two_pos (by omega))

private theorem steps_succ {e t : Nat} (h : e = t + 1) (den : Nat) :
    den * 2 ^ e = 2 * (den * 2 ^ t) := by
  rw [h, Nat.pow_succ, ← Nat.mul_assoc, Nat.mul_comm]

/-- Steps that a quotient has enough of are no larger than those that it has few of. -/
private theorem steps_le {units a b : Nat} (least : a = 0 ∨ den * 2 ^ (a + 52) ≤ units)
    (most : units < den * 2 ^ (b + 53)) : a ≤ b := by
  rcases least with rfl | least
  · exact Nat.zero_le b
  · have powers : 2 ^ (a + 52) < 2 ^ (b + 53) :=
      Nat.lt_of_mul_lt_mul_left (Nat.lt_of_le_of_lt least most)
    have := (Nat.pow_lt_pow_iff_right Nat.one_lt_two).mp powers
    omega

/-- There is one size of steps between these bounds. -/
theorem excess_eq {e : Nat} (h : 0 < den) (lt : num * unitsPerOne < den * 2 ^ (e + 53))
    (le : e = 0 ∨ den * 2 ^ (e + 52) ≤ num * unitsPerOne) : excess num den = e :=
  Nat.le_antisymm (steps_le (excess_le num h) lt) (steps_le le (lt_excess num h))

/-- The steps do not get smaller when the quotient goes up. -/
theorem excess_le_excess {num' : Nat} (h : 0 < den) (le : num ≤ num') :
    excess num den ≤ excess num' den :=
  steps_le ((excess_le num h).imp_right fun least ↦ Nat.le_trans least (Nat.mul_le_mul_right _ le))
    (lt_excess num' h)

end

/-! ### The interval around a number -/

/-- Half the way to the number above, in quarters of a unit. -/
def gapAbove (x : Binary64) : Nat := 2 ^ (x.spacing + 1)

/-- Half the way to the number below, in quarters of a unit. The steps below a power of two are
half as large as those above it. -/
def gapBelow (x : Binary64) : Nat :=
  if x.fractionField = 0 ∧ 1 < x.exponentField then 2 ^ x.spacing else 2 ^ (x.spacing + 1)

/-- The quotient is at most half way to a neighbour of the number, and less if the number is odd. -/
structure Attracts (x : Binary64) (num den : Nat) : Prop where
  upper : 4 * (num * unitsPerOne) ≤ 4 * (x.units * den) + x.gapAbove * den
  lower : 4 * (x.units * den) ≤ 4 * (num * unitsPerOne) + x.gapBelow * den
  odd : x.significand % 2 = 1 →
    4 * (num * unitsPerOne) < 4 * (x.units * den) + x.gapAbove * den ∧
      4 * (x.units * den) < 4 * (num * unitsPerOne) + x.gapBelow * den

section
variable {x : Binary64} {num den : Nat}

theorem gapAbove_mul (x : Binary64) (den : Nat) :
    x.gapAbove * den = 2 * (den * 2 ^ x.spacing) := by
  rw [gapAbove, Nat.pow_succ, Nat.mul_comm (2 ^ x.spacing) 2, Nat.mul_assoc,
    Nat.mul_comm (2 ^ x.spacing)]

theorem gapBelow_pos (x : Binary64) : 0 < x.gapBelow := by
  rw [gapBelow]
  split <;> exact Nat.two_pow_pos _

theorem gapBelow_mul_le (x : Binary64) (den : Nat) :
    x.gapBelow * den ≤ 2 * (den * 2 ^ x.spacing) := by
  rw [← gapAbove_mul]
  refine Nat.mul_le_mul_right den ?_
  rw [gapBelow, gapAbove]
  split
  · exact Nat.pow_le_pow_right Nat.two_pos (Nat.le_succ _)
  · exact Nat.le_refl _

/-- A number above the smallest steps that has the least significand is a power of two. -/
theorem gapBelow_mul_of_power (h : 0 < x.spacing) (power : x.significand = 2 ^ 52) (den : Nat) :
    x.gapBelow * den = den * 2 ^ x.spacing := by
  have exponent : 1 < x.exponentField := by
    rw [spacing] at h
    omega
  have fraction : x.fractionField = 0 := by
    rw [significand, if_neg (by omega), Nat.pow_eq] at power
    omega
  rw [gapBelow, if_pos ⟨fraction, exponent⟩, Nat.mul_comm]

theorem units_mul (x : Binary64) (den : Nat) :
    x.units * den = x.significand * (den * 2 ^ x.spacing) := by
  rw [units, Nat.pow_eq, Nat.mul_assoc, Nat.mul_comm (2 ^ x.spacing)]

/-- The steps of a quotient and the nearest number of them make its magnitude. -/
theorem roundMagnitude_of_steps {e n : Nat} (h : 0 < den)
    (normal : e = 0 ∨ 2 ^ 52 * (den * 2 ^ e) ≤ num * unitsPerOne)
    (less : num * unitsPerOne < 2 ^ 53 * (den * 2 ^ e))
    (steps : nearest (num * unitsPerOne) (den * 2 ^ e) = n) :
    roundMagnitude num den = min (e * 2 ^ 52 + n) infinityMagnitude := by
  have scale (k : Nat) : den * 2 ^ (e + k) = 2 ^ k * (den * 2 ^ e) := by
    rw [Nat.pow_add, ← Nat.mul_assoc, Nat.mul_comm]
  have size : excess num den = e :=
    excess_eq h (by rwa [scale]) (by rwa [scale])
  rw [roundMagnitude_eq_min, size, steps]

/-- Only the least significand has quotients with smaller steps than its own in its interval. -/
private theorem significand_of_less {significand units step gap : Nat}
    (less : units < 2 ^ 52 * step) (normal : 2 ^ 52 ≤ significand) (small : gap ≤ 2 * step)
    (lower : 4 * (significand * step) ≤ 4 * units + gap) : significand = 2 ^ 52 := by
  refine Nat.le_antisymm (Nat.not_lt.mp fun more ↦ ?_) normal
  have := Nat.mul_le_mul_right step (Nat.succ_le_of_lt more)
  omega

/-- A quotient in the interval around a finite number is rounded to that number. -/
theorem roundMagnitude_eq (finite : x.isFinite = true) (h : 0 < den)
    (near : x.Attracts num den) : roundMagnitude num den = x.magnitude := by
  obtain ⟨upper, lower, odd⟩ := near
  rw [units_mul, gapAbove_mul] at *
  have step : 0 < den * 2 ^ x.spacing := Nat.mul_pos h (Nat.two_pow_pos _)
  have below := gapBelow_mul_le x den
  have whole : roundMagnitude num den = min x.magnitude infinityMagnitude := by
    rw [magnitude_eq]
    by_cases inside : x.spacing = 0 ∨ 2 ^ 52 * (den * 2 ^ x.spacing) ≤ num * unitsPerOne
    · -- The quotient has steps of the same size as the number.
      have most : x.significand * (den * 2 ^ x.spacing) ≤ (2 ^ 53 - 1) * (den * 2 ^ x.spacing) :=
        Nat.mul_le_mul_right _ (Nat.le_pred_of_lt x.significand_lt)
      apply roundMagnitude_of_steps h inside
      · omega
      · apply nearest_eq step <;> omega
    · -- The number is a power of two and the quotient has the smaller steps below it.
      obtain ⟨positive, less⟩ := not_or.mp inside
      have less := Nat.not_le.mp less
      have least : x.significand = 2 ^ 52 :=
        significand_of_less less (x.spacing_eq_zero_or.resolve_left positive) below lower
      rw [gapBelow_mul_of_power (Nat.pos_of_ne_zero positive) least, least] at lower
      obtain ⟨e, spacing⟩ := Nat.exists_eq_succ_of_ne_zero positive
      rw [steps_succ spacing den] at less lower step
      rw [spacing, least, show (e + 1) * 2 ^ 52 + 2 ^ 52 = e * 2 ^ 52 + 2 ^ 53 by omega]
      apply roundMagnitude_of_steps h (.inr ?_)
      · omega
      · apply nearest_eq <;> omega
      · omega
  have largest : x.magnitude < infinityMagnitude := of_decide_eq_true finite
  rw [whole, Nat.min_eq_left (Nat.le_of_lt largest)]

/-- The interval around a number is one of values, whatever quotient gives them. -/
theorem Attracts.scale (near : x.Attracts num den) {c : Nat} (h : 0 < c) :
    x.Attracts (num * c) (den * c) := by
  obtain ⟨upper, lower, odd⟩ := near
  have point : 4 * (num * c * unitsPerOne) = 4 * (num * unitsPerOne) * c := by
    rw [Nat.mul_right_comm num, Nat.mul_assoc 4]
  have value : 4 * (x.units * (den * c)) = 4 * (x.units * den) * c := by
    rw [← Nat.mul_assoc x.units, Nat.mul_assoc 4]
  have gap (g : Nat) : g * (den * c) = g * den * c := (Nat.mul_assoc ..).symm
  refine ⟨?_, ?_, fun isOdd ↦ ⟨?_, ?_⟩⟩
  · rw [point, value, gap, ← Nat.add_mul]
    exact Nat.mul_le_mul_right c upper
  · rw [point, value, gap, ← Nat.add_mul]
    exact Nat.mul_le_mul_right c lower
  · rw [point, value, gap, ← Nat.add_mul]
    exact Nat.mul_lt_mul_of_pos_right (odd isOdd).1 h
  · rw [point, value, gap, ← Nat.add_mul]
    exact Nat.mul_lt_mul_of_pos_right (odd isOdd).2 h

/-! ### Rounded quotients -/

/-- No quotient has more than `2 ^ 53` of its steps. -/
theorem nearest_steps_le (num : Nat) {den : Nat} (h : 0 < den) :
    nearest (num * unitsPerOne) (den * 2 ^ excess num den) ≤ 2 ^ 53 := by
  have step : 0 < den * 2 ^ excess num den := Nat.mul_pos h (Nat.two_pow_pos _)
  have near := (nearest_bounds (num * unitsPerOne) step).2
  have less := lt_excess num h
  refine Nat.not_lt.mp fun more ↦ ?_
  have := Nat.mul_le_mul_right (den * 2 ^ excess num den) more
  rw [Nat.pow_add, ← Nat.mul_assoc] at less
  omega

/-- A quotient has `2 ^ 52` of its steps, unless they are the smallest ones. -/
theorem le_nearest_steps (num : Nat) {den : Nat} (h : 0 < den) : excess num den = 0 ∨
    2 ^ 52 ≤ nearest (num * unitsPerOne) (den * 2 ^ excess num den) := by
  have step : 0 < den * 2 ^ excess num den := Nat.mul_pos h (Nat.two_pow_pos _)
  have near := (nearest_bounds (num * unitsPerOne) step).1
  refine (excess_le num h).imp_right fun least ↦ Nat.not_lt.mp fun fewer ↦ ?_
  have fewer : nearest (num * unitsPerOne) (den * 2 ^ excess num den) ≤ 2 ^ 52 - 1 := by omega
  have := Nat.mul_le_mul_right (den * 2 ^ excess num den) fewer
  rw [Nat.pow_add, ← Nat.mul_assoc] at least
  omega

/-- A quotient below the middle between the largest finite number and `2 ^ 1024` is rounded to a
finite number. -/
theorem roundMagnitude_lt (h : 0 < den)
    (small : num * unitsPerOne < den * overflow) :
    roundMagnitude num den < infinityMagnitude := by
  obtain ⟨t, top⟩ : ∃ t, t = 2044 := ⟨_, rfl⟩
  rw [overflow_eq top, Nat.mul_left_comm] at small
  have step : 0 < den * 2 ^ excess num den := Nat.mul_pos h (Nat.two_pow_pos _)
  have near := (nearest_bounds (num * unitsPerOne) step).2
  have less := lt_excess num h
  have least := excess_le num h
  have most := nearest_steps_le num h
  rw [roundMagnitude_eq_min, infinityMagnitude]
  generalize excess num den = e at *
  have size : e ≤ 2045 := by
    refine Nat.not_lt.mp fun large ↦ ?_
    have := steps_mul_le (m := 54) (t := t) (e := e) (n := 52) (by omega) den
    have := least.resolve_left (by omega)
    omega
  by_cases last : e = t + 1
  · have last := steps_succ last den
    have fewer : nearest (num * unitsPerOne) (den * 2 ^ e) < 2 ^ 53 := by
      refine Nat.not_le.mp fun more ↦ ?_
      have := Nat.mul_le_mul_right (den * 2 ^ e) more
      omega
    omega
  · omega

/-- Rounding keeps the order of quotients. -/
theorem roundMagnitude_le_roundMagnitude {num' : Nat} (h : 0 < den) (le : num ≤ num') :
    roundMagnitude num den ≤ roundMagnitude num' den := by
  have units : num * unitsPerOne ≤ num' * unitsPerOne := Nat.mul_le_mul_right _ le
  have size := excess_le_excess h le
  have most := nearest_steps_le num h
  have many := le_nearest_steps num' h
  rw [roundMagnitude_eq_min, roundMagnitude_eq_min]
  have whole : excess num den * 2 ^ 52 + nearest (num * unitsPerOne) (den * 2 ^ excess num den) ≤
      excess num' den * 2 ^ 52 + nearest (num' * unitsPerOne) (den * 2 ^ excess num' den) := by
    by_cases same : excess num den = excess num' den
    · rw [same]
      exact Nat.add_le_add_left
        (nearest_le_nearest (Nat.mul_pos h (Nat.two_pow_pos _)) units) _
    · have := many.resolve_left (by omega)
      omega
  exact min_le_min_right _ whole

theorem roundMagnitude_le (num den : Nat) : roundMagnitude num den ≤ infinityMagnitude :=
  Nat.min_le_right _ _

theorem magnitude_ofRatio (negative : Bool) (num den : Nat) :
    (ofRatio negative num den).magnitude = roundMagnitude num den :=
  magnitude_ofMagnitude _ (Nat.lt_of_le_of_lt (roundMagnitude_le num den) (by decide))

theorem isFinite_ofRatio (negative : Bool) (h : 0 < den)
    (small : num * unitsPerOne < den * overflow) :
    (ofRatio negative num den).isFinite = true := by
  rw [isFinite, magnitude_ofRatio]
  exact decide_eq_true (roundMagnitude_lt h small)

/-- A quotient that is a whole number of steps, and not too many, is rounded to itself. -/
theorem units_ofRatio_of_steps {e steps : Nat} (negative : Bool) (h : 0 < den)
    (exact : num * unitsPerOne = steps * (den * 2 ^ e)) (few : steps < 2 ^ 53)
    (normal : e = 0 ∨ 2 ^ 52 ≤ steps) (top : e ≤ 2045) :
    (ofRatio negative num den).units = steps * 2 ^ e := by
  have step : 0 < den * 2 ^ e := Nat.mul_pos h (Nat.two_pow_pos _)
  have whole : roundMagnitude num den = min (e * 2 ^ 52 + steps) infinityMagnitude := by
    apply roundMagnitude_of_steps h
    · rw [exact]
      exact normal.imp_right fun many ↦ Nat.mul_le_mul_right _ many
    · rw [exact]
      exact Nat.mul_lt_mul_of_pos_right few step
    · rw [exact]
      apply nearest_eq step <;> omega
  have finite : e * 2 ^ 52 + steps ≤ infinityMagnitude := by
    rw [infinityMagnitude]
    omega
  refine units_of_magnitude_eq ?_ (Nat.le_of_lt few) normal
  rw [magnitude_ofRatio, whole, Nat.min_eq_left finite]

/-! ### Whole numbers -/

theorem ofInt_natCast (n : Nat) : ofInt n = ofRatio false n 1 := by
  rw [ofInt, Int.natAbs_natCast, decide_eq_false (Int.not_lt.mpr (Int.natCast_nonneg n))]

/-- A whole number of at most 53 binary digits is a binary64 number. -/
theorem units_ofInt {n : Nat} (h : n < 2 ^ 53) : (ofInt n).units = n * unitsPerOne := by
  rw [ofInt_natCast]
  rcases Nat.eq_zero_or_pos n with rfl | positive
  · decide +kernel
  · have digits : n.log2 ≤ 52 := Nat.le_of_lt_succ ((Nat.log2_lt (by omega)).mpr h)
    have value : n * unitsPerOne = n * 2 ^ (52 - n.log2) * 2 ^ (n.log2 + 1022) := by
      rw [Nat.mul_assoc, pow_mul_pow_eq_units (by omega)]
    have many : 2 ^ 52 ≤ n * 2 ^ (52 - n.log2) := by
      rw [← Nat.add_sub_cancel' digits, Nat.pow_add, Nat.add_sub_cancel_left]
      exact Nat.mul_le_mul_right _ (Nat.log2_self_le (by omega))
    have few : n * 2 ^ (52 - n.log2) < 2 ^ 53 := by
      rw [show 53 = n.log2 + 1 + (52 - n.log2) by omega, Nat.pow_add]
      exact Nat.mul_lt_mul_of_pos_right Nat.lt_log2_self (Nat.two_pow_pos _)
    rw [value]
    exact units_ofRatio_of_steps false Nat.one_pos (by rw [value, Nat.one_mul]) few (.inr many)
      (by omega)

theorem magnitude_ofInt (n : Nat) : (ofInt n).magnitude = roundMagnitude n 1 := by
  rw [ofInt_natCast, magnitude_ofRatio]

theorem units_ofInt_le_units_ofInt {m n : Nat} (h : m ≤ n) : (ofInt m).units ≤ (ofInt n).units := by
  apply units_le_of_magnitude_le
  rw [magnitude_ofInt, magnitude_ofInt]
  exact roundMagnitude_le_roundMagnitude Nat.one_pos h

/-- Positive whole numbers do not become less than one. -/
theorem unitsPerOne_le_units_ofInt {n : Nat} (h : 0 < n) : unitsPerOne ≤ (ofInt n).units :=
  calc unitsPerOne = 1 * unitsPerOne := (Nat.one_mul _).symm
    _ = (ofInt 1).units := (units_ofInt (n := 1) (by decide)).symm
    _ ≤ (ofInt n).units := units_ofInt_le_units_ofInt h

theorem isFinite_ofInt {n : Nat} (small : n * unitsPerOne < overflow) :
    (ofInt n).isFinite = true := by
  rw [ofInt_natCast]
  exact isFinite_ofRatio false Nat.one_pos (by rwa [Nat.one_mul])

/-! ### Products and quotients -/

/-- Every finite number is less than the middle between the largest one and `2 ^ 1024`. -/
theorem units_lt_overflow (finite : x.isFinite = true) : x.units < overflow := by
  have finite : x.magnitude < infinityMagnitude := of_decide_eq_true finite
  have whole := x.magnitude_eq
  have bound := x.significand_lt
  have normal := x.spacing_eq_zero_or
  obtain ⟨t, top⟩ : ∃ t, t = 2044 := ⟨_, rfl⟩
  rw [infinityMagnitude] at finite
  have powers : 2 ^ x.spacing ≤ 2 * 2 ^ t := by
    rw [← Nat.pow_succ']
    exact Nat.pow_le_pow_right Nat.two_pos (by omega)
  have most : x.significand * 2 ^ x.spacing ≤ (2 ^ 53 - 1) * (2 * 2 ^ t) :=
    Nat.mul_le_mul (by omega) powers
  have step := Nat.two_pow_pos t
  rw [units, Nat.pow_eq, overflow_eq top]
  omega

/-- A finite number divided by a number that is not less than one is finite. -/
theorem isFinite_div {y : Binary64} (finite : x.isFinite = true) (h : unitsPerOne ≤ y.units) :
    (x.div y).isFinite = true := by
  apply isFinite_ofRatio _ (unitsPerOne_pos.trans_le h)
  calc x.units * unitsPerOne < overflow * unitsPerOne :=
        Nat.mul_lt_mul_of_pos_right (units_lt_overflow finite) unitsPerOne_pos
    _ ≤ overflow * y.units := Nat.mul_le_mul_left _ h
    _ = y.units * overflow := Nat.mul_comm ..

theorem magnitude_div (x y : Binary64) : (x.div y).magnitude = roundMagnitude x.units y.units :=
  magnitude_ofRatio ..

theorem magnitude_mul (x y : Binary64) :
    (x.mul y).magnitude = roundMagnitude (x.units * y.units) (unitsPerOne * unitsPerOne) := by
  rw [mul, magnitude_ofRatio, one_shiftLeft_square]

theorem isFinite_mul {y : Binary64} (small : x.units * y.units < overflow * unitsPerOne) :
    (x.mul y).isFinite = true := by
  rw [isFinite, magnitude_mul]
  apply decide_eq_true
  apply roundMagnitude_lt (Nat.mul_pos unitsPerOne_pos unitsPerOne_pos)
  calc x.units * y.units * unitsPerOne < overflow * unitsPerOne * unitsPerOne :=
        Nat.mul_lt_mul_of_pos_right small unitsPerOne_pos
    _ = unitsPerOne * unitsPerOne * overflow := by rw [Nat.mul_assoc, Nat.mul_comm]

/-- A whole number in the place of a larger factor keeps a product finite. -/
theorem isFinite_ofInt_mul_of_le {m n : Nat} (le : m ≤ n) {y : Binary64}
    (finite : ((ofInt n).mul y).isFinite = true) : ((ofInt m).mul y).isFinite = true := by
  rw [isFinite, magnitude_mul, decide_eq_true_iff] at *
  refine Nat.lt_of_le_of_lt (roundMagnitude_le_roundMagnitude
    (Nat.mul_pos unitsPerOne_pos unitsPerOne_pos) ?_) finite
  exact Nat.mul_le_mul_right _ (units_ofInt_le_units_ofInt le)

end

end RegisterMachine.Binary64
