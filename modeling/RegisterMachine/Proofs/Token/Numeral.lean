import RegisterMachine.Proofs.Text.Pieces
import RegisterMachine.Token.Lexer

/-!
# The number of a literal

The longest number at the start of a text is a sign, digits and a fraction, and such a text is a
number to its end.
-/

namespace RegisterMachine.Token

open RegisterMachine.Text

/-- A sign, if there is one. -/
def IsSign (cs : List Char) : Prop := cs = [] ∨ cs = ['+'] ∨ cs = ['-']

/-- A row of digits, as long as it may be. -/
def IsDigits (cs : List Char) : Prop := ∀ c ∈ cs, c.isDigit = true

/-- A point and at least one digit, if there is a point. -/
def IsFraction (cs : List Char) : Prop :=
  cs = [] ∨ ∃ places, cs = '.' :: places ∧ places ≠ [] ∧ IsDigits places

/-- A sign, digits and a fraction, all of which may be missing. -/
def IsNumeral (cs : List Char) : Prop :=
  ∃ sign digits fraction, cs = sign ++ digits ++ fraction ∧
    IsSign sign ∧ IsDigits digits ∧ IsFraction fraction

/-- The characters of a number are signs, points and digits. -/
theorem IsNumeral.eq_or_isDigit {cs : List Char} (h : IsNumeral cs) {c : Char} (hc : c ∈ cs) :
    c = '+' ∨ c = '-' ∨ c = '.' ∨ c.isDigit = true := by
  obtain ⟨sign, digits, fraction, rfl, hs, hd, hf⟩ := h
  rw [List.mem_append, List.mem_append] at hc
  rcases hc with (hc | hc) | hc
  · rcases hs with rfl | rfl | rfl
    · cases hc
    · exact .inl (List.mem_singleton.mp hc)
    · exact .inr (.inl (List.mem_singleton.mp hc))
  · exact .inr (.inr (.inr (hd c hc)))
  · rcases hf with rfl | ⟨places, rfl, -, hp⟩
    · cases hc
    · rcases List.mem_cons.mp hc with point | hc
      · exact .inr (.inr (.inl point))
      · exact .inr (.inr (.inr (hp c hc)))

/-! ### What is split off -/

theorem isSign_splitSign (cs : List Char) : IsSign (splitSign cs).1 := by
  unfold splitSign
  split
  · split
    · next h =>
      rcases h with rfl | rfl
      · exact .inr (.inl rfl)
      · exact .inr (.inr rfl)
    · exact .inl rfl
  · exact .inl rfl

theorem isDigits_splitDigits (cs : List Char) : IsDigits (splitDigits cs).1 :=
  fun c hc ↦ List.all_eq_true.mp List.all_takeWhile c hc

theorem isFraction_splitFraction (cs : List Char) : IsFraction (splitFraction cs).1 := by
  unfold splitFraction
  split
  · next d ds =>
    split
    · next hd =>
      refine .inr ⟨_, rfl, ?_, isDigits_splitDigits _⟩
      rw [splitDigits, List.takeWhile_cons, hd]
      exact List.cons_ne_nil _ _
    · exact .inl rfl
  · exact .inl rfl

/-- The number that is split off a text has the form of one. -/
theorem isNumeral_splitNumber (cs : List Char) : IsNumeral (splitNumber cs).1 :=
  ⟨_, _, _, rfl, isSign_splitSign _, isDigits_splitDigits _, isFraction_splitFraction _⟩

/-! ### Nothing else is left of a number -/

/-- Digits are split off up to a fraction. -/
theorem splitDigits_append_fraction {digits fraction : List Char} (hd : IsDigits digits)
    (hf : IsFraction fraction) : splitDigits (digits ++ fraction) = (digits, fraction) := by
  have first : ∀ c ∈ fraction.head?, c.isDigit = false := by
    rcases hf with rfl | ⟨places, rfl, -, -⟩
    · intro c hc
      cases hc
    · intro c hc
      cases hc
      rfl
  exact takeWhile_dropWhile_append hd first

/-- A fraction is split off to its end. -/
theorem splitFraction_of_isFraction {fraction : List Char} (hf : IsFraction fraction) :
    splitFraction fraction = (fraction, []) := by
  rcases hf with rfl | ⟨places, rfl, some, hp⟩
  · rfl
  · have parts := splitDigits_append_fraction hp (.inl rfl)
    obtain ⟨c, cs, rfl⟩ := List.exists_cons_of_ne_nil some
    rw [List.append_nil] at parts
    simp only [splitFraction, hp c List.mem_cons_self, ↓reduceIte, parts]

/-- A sign is split off before digits and a fraction. -/
theorem splitSign_append_digits {sign digits fraction : List Char} (hs : IsSign sign)
    (hd : IsDigits digits) (hf : IsFraction fraction) :
    splitSign (sign ++ (digits ++ fraction)) = (sign, digits ++ fraction) := by
  rcases hs with rfl | rfl | rfl
  · have unsigned : ∀ c ∈ (digits ++ fraction).head?, ¬ (c = '+' ∨ c = '-') := by
      intro c hc
      cases digits with
      | nil =>
        rcases hf with rfl | ⟨places, rfl, -, -⟩
        · cases hc
        · cases hc
          decide
      | cons d ds =>
        cases hc
        have isDigit := hd c List.mem_cons_self
        rintro (rfl | rfl)
        · exact absurd isDigit (by decide)
        · exact absurd isDigit (by decide)
    rw [List.nil_append]
    cases whole : digits ++ fraction with
    | nil => rfl
    | cons c cs =>
      rw [whole] at unsigned
      rw [splitSign, if_neg (unsigned c rfl)]
  · rfl
  · rfl

/-- A text of the form of a number is one to its end. -/
theorem splitNumber_of_isNumeral {cs : List Char} (h : IsNumeral cs) :
    splitNumber cs = (cs, []) := by
  obtain ⟨sign, digits, fraction, rfl, hs, hd, hf⟩ := h
  simp only [splitNumber, List.append_assoc, splitSign_append_digits hs hd hf,
    splitDigits_append_fraction hd hf, splitFraction_of_isFraction hf]

end RegisterMachine.Token
