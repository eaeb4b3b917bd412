import RegisterMachine.Decimal.Reading
import RegisterMachine.Proofs.Binary64.Nearest
import RegisterMachine.Proofs.Text.Pieces

/-!
# Numbers without an exponent

Digits, perhaps after a minus sign, are read as the integer that they write. Digits with a point
among them are read as the nearest binary64 number, where only the places behind the point are
required.
-/

namespace RegisterMachine.Decimal

open Binary64 (unitsPerOne)

variable {cs digits places : List Char}

/-! ### Whole numbers -/

/-- A natural number is read from digits, of which there is at least one. -/
theorem natural?_eq_some_iff {n : Nat} :
    natural? cs = some n ↔
      cs ≠ [] ∧ (∀ c ∈ cs, c.isDigit = true) ∧ Nat.ofDigitChars 10 cs 0 = n := by
  rw [natural?]
  split
  · next h =>
    rw [Bool.and_eq_true, Bool.not_eq_true', List.isEmpty_eq_false_iff, List.all_eq_true] at h
    rw [Option.some.injEq]
    exact ⟨fun value ↦ ⟨h.1, h.2, value⟩, fun parts ↦ parts.2.2⟩
  · next h =>
    rw [Bool.and_eq_true, Bool.not_eq_true', List.isEmpty_eq_false_iff, List.all_eq_true] at h
    simp only [reduceCtorEq, false_iff]
    exact fun parts ↦ h ⟨parts.1, parts.2.1⟩

/-- Without a plus sign a natural number is read. -/
theorem unsigned?_of_head? (h : cs.head? ≠ some '+') : unsigned? cs = natural? cs := by
  unfold unsigned?
  split
  · exact absurd rfl h
  · rfl

/-- A minus sign makes an integer of what is read as a natural number. -/
theorem integer?_sign (negative : Bool) (h : ∀ c ∈ cs, c.isDigit = true) :
    integer? (if negative then '-' :: cs else cs) =
      (natural? cs).map fun n : Nat ↦ if negative then -(n : Int) else n := by
  cases negative with
  | true =>
    rw [if_pos rfl, integer?]
    cases natural? cs <;> rfl
  | false =>
    have head {c : Char} (hc : c.isDigit = false) : cs.head? ≠ some c := by
      intro first
      rw [h c (List.mem_of_head? first)] at hc
      cases hc
    rw [if_neg Bool.false_ne_true, integer?]
    · rw [unsigned?_of_head? (head (by decide))]
      cases natural? cs <;> rfl
    · rintro rest rfl
      exact head (by decide) rfl

/-! ### Fractions -/

/-- A word with so many places is read as the nearest number. -/
theorem toBinary64_places (negative : Bool) (word places : Nat) :
    toBinary64 ⟨negative, word, -(places : Int)⟩ = .ofRatio negative word (10 ^ places) := by
  have den : 0 < 10 ^ places := Nat.pow_pos (by decide)
  -- A value of at most half a unit is rounded to zero.
  have zero (small : 2 * (word * unitsPerOne) ≤ 10 ^ places) :
      Binary64.ofMagnitude negative 0 = .ofRatio negative word (10 ^ places) := by
    have step : 10 ^ places * 2 ^ 0 = 10 ^ places := by rw [Nat.pow_zero, Nat.mul_one]
    have rounded : Binary64.roundMagnitude word (10 ^ places) =
        min (0 * 2 ^ 52 + 0) Binary64.infinityMagnitude := by
      apply Binary64.roundMagnitude_of_steps den (.inl rfl)
      · rw [step]
        omega
      · rw [step]
        exact Binary64.nearest_eq den (by omega) (by omega) fun odd ↦ nomatch odd
    rw [Binary64.ofRatio, rounded]
    rfl
  simp only [toBinary64]
  split
  · next none =>
    rw [none, Nat.zero_mul] at zero
    rw [none]
    exact zero (Nat.zero_le _)
  split
  · next whole =>
    obtain rfl : places = 0 := by omega
    rw [if_neg (by decide)]
    exact congrArg (Binary64.ofRatio negative · 1) (Nat.mul_one word)
  split
  · next tiny =>
    apply zero
    obtain ⟨k, hk⟩ : ∃ k, k = 1074 := ⟨_, rfl⟩
    have units := Binary64.pow_mul_pow_eq_units (m := 0) (n := k) (by omega)
    have powers : 2 ^ (word.log2 + 1 + 1 + k) ≤ 2 ^ (3 * places) :=
      Nat.pow_le_pow_right Nat.two_pos (by omega)
    calc 2 * (word * unitsPerOne)
      _ ≤ 2 * (2 ^ (word.log2 + 1) * unitsPerOne) := by
          gcongr
          exact Nat.le_of_lt Nat.lt_log2_self
      _ = 2 ^ (word.log2 + 1 + 1 + k) := by rw [← units]; ring
      _ ≤ 2 ^ (3 * places) := powers
      _ = 8 ^ places := Nat.pow_mul 2 3 places
      _ ≤ 10 ^ places := Nat.pow_le_pow_left (by decide) places
  · rw [Int.neg_neg, Int.toNat_natCast]
    rfl

/-- Digits, a point and at least one place have all digits for their word. -/
theorem unsignedDecimal?_fraction (negative : Bool) (hd : ∀ c ∈ digits, c.isDigit = true)
    (nonempty : places ≠ []) (hp : ∀ c ∈ places, c.isDigit = true) :
    unsignedDecimal? negative (digits ++ '.' :: places) =
      some ⟨negative, Nat.ofDigitChars 10 (digits ++ places) 0, -(places.length : Int)⟩ := by
  have point : ∀ c ∈ ('.' :: places).head?, c.isDigit = false := by
    intro c hc
    rw [← Option.some.inj hc]
    decide
  have whole := Text.takeWhile_dropWhile_append hd point
  have fraction := Text.takeWhile_dropWhile_append (b := []) hp fun c hc ↦ nomatch hc
  rw [List.append_nil, Prod.mk.injEq] at fraction
  rw [Prod.mk.injEq] at whole
  have notEmpty : places.isEmpty = false := List.isEmpty_eq_false_iff.mpr nonempty
  simp only [unsignedDecimal?, whole, fraction, notEmpty, Bool.and_false, exponent?,
    Bool.false_eq_true, ↓reduceIte, Option.map_some, Int.zero_sub]

/-- A minus sign is that of the number which is read behind it. -/
theorem binary64?_sign (negative : Bool) (h : ∀ c ∈ cs.head?, c ≠ '+' ∧ c ≠ '-') :
    binary64? (if negative then '-' :: cs else cs) = unsignedBinary64? negative cs := by
  cases negative with
  | true => rfl
  | false =>
    rw [if_neg Bool.false_ne_true, binary64?]
    · rintro rest rfl
      exact (h '+' rfl).1 rfl
    · rintro rest rfl
      exact (h '-' rfl).2 rfl

/-- Digits, a point and at least one place are read as the nearest number. -/
theorem binary64?_fraction (negative : Bool) (hd : ∀ c ∈ digits, c.isDigit = true)
    (nonempty : places ≠ []) (hp : ∀ c ∈ places, c.isDigit = true) :
    binary64? (if negative then '-' :: (digits ++ '.' :: places) else digits ++ '.' :: places) =
      some (.ofRatio negative (Nat.ofDigitChars 10 (digits ++ places) 0)
        (10 ^ places.length)) := by
  have unsigned : ∀ c ∈ (digits ++ '.' :: places).head?, c ≠ '+' ∧ c ≠ '-' := by
    have first : ∀ c ∈ (digits ++ '.' :: places).head?, c = '.' ∨ c.isDigit = true := by
      intro c hc
      cases digits with
      | nil => exact .inl (Option.some.inj hc).symm
      | cons d ds => exact .inr (hd c (Option.some.inj hc ▸ List.mem_cons_self))
    intro c hc
    rcases first c hc with rfl | digit
    · decide
    · constructor
      · rintro rfl
        exact absurd digit (by decide)
      · rintro rfl
        exact absurd digit (by decide)
  rw [binary64?_sign negative unsigned, unsignedBinary64?,
    unsignedDecimal?_fraction negative hd nonempty hp]
  exact congrArg some (toBinary64_places negative _ _)

end RegisterMachine.Decimal
