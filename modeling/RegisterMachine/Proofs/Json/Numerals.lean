import RegisterMachine.Json.Numbers
import RegisterMachine.Json.Reader
import RegisterMachine.Proofs.Text.Pieces

/-!
# Written numbers read back

The numerals that JSON has, and that their texts are read up to the last character: a number goes
on for as long as it can, so what follows it matters.
-/

namespace RegisterMachine

open Decimal (Numeral Exponent)

namespace Json

/-- Whether the character cannot be a further character of a number. -/
def endsNumber (c : Char) : Bool := !c.isDigit && c != '.' && c != 'e' && c != 'E'

/-- A text that no number before it extends into. -/
def EndsNumber (rest : List Char) : Prop := ∀ c ∈ rest.head?, endsNumber c = true

theorem endsNumber_nil : EndsNumber [] := by simp [EndsNumber]

theorem endsNumber_cons {c : Char} (h : endsNumber c = true) (rest : List Char) :
    EndsNumber (c :: rest) := by simp [EndsNumber, h]

/-- A numeral that the rules for numbers allow: digits everywhere, no leading zero, and at least
one digit before the point and in the exponent. -/
structure IsNumber (n : Numeral) : Prop where
  whole_digits : ∀ c ∈ n.whole, c.isDigit = true
  whole_ne_nil : n.whole ≠ []
  no_leading_zero : ∀ cs, n.whole = '0' :: cs → cs = []
  fraction_digits : ∀ c ∈ n.fraction, c.isDigit = true
  exponent_digits : ∀ e ∈ n.exponent, ∀ c ∈ e.digits, c.isDigit = true
  exponent_ne_nil : ∀ e ∈ n.exponent, e.digits ≠ []

/-! ### The parts of a number -/

theorem ne_of_isDigit {c d : Char} (digit : c.isDigit = true) (other : d.isDigit = false) :
    c ≠ d := by
  rintro rfl
  rw [digit] at other
  cases other

/-- Digits are a run up to what is no digit. -/
theorem digitRun_append {ds rest : List Char} (digits : ∀ c ∈ ds, c.isDigit = true)
    (ends : ∀ c ∈ rest.head?, c.isDigit = false) : digitRun (ds ++ rest) = (ds, rest) :=
  Text.takeWhile_dropWhile_append digits ends

theorem wholePart?_append {ds rest : List Char} (digits : ∀ c ∈ ds, c.isDigit = true)
    (nonempty : ds ≠ []) (zero : ∀ cs, ds = '0' :: cs → cs = [])
    (ends : ∀ c ∈ rest.head?, c.isDigit = false) :
    wholePart? (ds ++ rest) = some (ds, rest) := by
  rw [wholePart?, digitRun_append digits ends]
  split
  · next e => exact absurd (Prod.mk.inj e).1 nonempty
  · next c cs _ e => exact absurd (zero _ (Prod.mk.inj e).1) (List.cons_ne_nil c cs)
  · rfl

theorem fractionPart?_append {ds rest : List Char} (digits : ∀ c ∈ ds, c.isDigit = true)
    (ends : ∀ c ∈ rest.head?, c.isDigit = false ∧ c ≠ '.') :
    fractionPart? ((if ds.isEmpty then [] else '.' :: ds) ++ rest) = some (ds, rest) := by
  cases ds with
  | nil =>
    cases rest with
    | nil => rfl
    | cons c rest =>
      have := (ends c rfl).2
      simp [fractionPart?, this]
  | cons d ds =>
    have run := digitRun_append digits fun c h ↦ (ends c h).1
    simp only [List.isEmpty_cons, Bool.false_eq_true, ↓reduceIte, List.cons_append] at run ⊢
    simp only [fractionPart?, run]

theorem exponentSign_append (s : Decimal.ExponentSign) {ds : List Char}
    (digits : ∀ c ∈ ds, c.isDigit = true) (nonempty : ds ≠ []) (rest : List Char) :
    exponentSign (s.chars ++ (ds ++ rest)) = (s, ds ++ rest) := by
  cases s with
  | plus => rfl
  | minus => rfl
  | bare =>
    obtain ⟨d, ds, rfl⟩ := List.exists_cons_of_ne_nil nonempty
    have digit : d.isDigit = true := digits d List.mem_cons_self
    have plus : d ≠ '+' := ne_of_isDigit digit (by decide)
    have minus : d ≠ '-' := ne_of_isDigit digit (by decide)
    simp [exponentSign, Decimal.ExponentSign.chars, plus, minus]

theorem exponentPart?_append {e : Option Exponent} {rest : List Char}
    (digits : ∀ e' ∈ e, ∀ c ∈ e'.digits, c.isDigit = true) (nonempty : ∀ e' ∈ e, e'.digits ≠ [])
    (ends : EndsNumber rest) :
    exponentPart? ((e.map Exponent.chars).getD [] ++ rest) = some (e, rest) := by
  cases e with
  | none =>
    cases rest with
    | nil => rfl
    | cons c rest =>
      have : endsNumber c = true := ends c rfl
      simp_all [exponentPart?, endsNumber]
  | some e =>
    have stop : ∀ c ∈ rest.head?, c.isDigit = false := fun c h ↦ by
      have := ends c h
      simp_all [endsNumber]
    have run := digitRun_append (digits e rfl) stop
    simp only [Option.map_some, Option.getD_some, Exponent.chars, List.cons_append,
      List.append_assoc, exponentPart?, true_or, ↓reduceIte,
      exponentSign_append e.sign (digits e rfl) (nonempty e rfl), run]
    split
    · next found => exact absurd (Prod.mk.inj found).1 (nonempty e rfl)
    · next found =>
      obtain ⟨rfl, rfl⟩ := Prod.mk.inj found
      rfl

/-! ### Numbers -/

/-- An exponent, or what follows a number, continues no fraction. -/
theorem head_exponent (e : Option Exponent) {rest : List Char} (ends : EndsNumber rest) :
    ∀ c ∈ ((e.map Exponent.chars).getD [] ++ rest).head?, c.isDigit = false ∧ c ≠ '.' := by
  cases e with
  | none =>
    intro c h
    have := ends c h
    simp_all [endsNumber]
  | some e => simp [Exponent.chars]

/-- A fraction, or what continues no fraction, continues no digits. -/
theorem head_fraction (ds : List Char) {rest : List Char}
    (ends : ∀ c ∈ rest.head?, c.isDigit = false ∧ c ≠ '.') :
    ∀ c ∈ ((if ds.isEmpty then [] else '.' :: ds) ++ rest).head?, c.isDigit = false := by
  cases ds with
  | nil => exact fun c h ↦ (ends c h).1
  | cons d ds => simp

/-- A number without its sign reads back before anything that does not continue it. -/
theorem unsignedNumber?_append {n : Numeral} (valid : IsNumber n) {rest : List Char}
    (ends : EndsNumber rest) :
    unsignedNumber? n.negative
      (n.whole ++ ((if n.fraction.isEmpty then [] else '.' :: n.fraction) ++
        ((n.exponent.map Exponent.chars).getD [] ++ rest))) = some (n, rest) := by
  have exponent := exponentPart?_append valid.exponent_digits valid.exponent_ne_nil ends
  have fraction := fractionPart?_append valid.fraction_digits (head_exponent n.exponent ends)
  have whole := wholePart?_append valid.whole_digits valid.whole_ne_nil valid.no_leading_zero
    (head_fraction n.fraction (head_exponent n.exponent ends))
  simp only [unsignedNumber?, whole, fraction, exponent, Option.bind_some, Option.map_some]

/-- A number reads back before anything that does not continue it. -/
theorem number?_chars {n : Numeral} (valid : IsNumber n) {rest : List Char}
    (ends : EndsNumber rest) : number? (n.chars ++ rest) = some (n, rest) := by
  have unsigned := unsignedNumber?_append valid ends
  simp only [Numeral.chars, List.append_assoc]
  by_cases negative : n.negative = true
  · rw [negative] at unsigned
    rw [if_pos negative, List.cons_append, List.nil_append, number?, unsigned]
  · obtain ⟨d, ds, e⟩ := List.exists_cons_of_ne_nil valid.whole_ne_nil
    have digit : d.isDigit = true := valid.whole_digits d (by simp [e])
    have minus : d ≠ '-' := ne_of_isDigit digit (by decide)
    rw [if_neg negative, List.nil_append, ← unsigned, e, List.cons_append, number?,
      Bool.eq_false_iff.mpr negative]
    exact fun _ same ↦ minus (List.cons.inj same).1

end Json

/-! ### Integers -/

/-- Only zero starts with a zero. -/
theorem Decimal.eq_zero_of_digits_eq {n : Nat} {cs : List Char} (h : digits n = '0' :: cs) :
    n = 0 := by
  induction n using Nat.strongRecOn generalizing cs with
  | ind n ih =>
    rw [digits, Nat.toDigits_eq_if (by decide)] at h
    split at h
    · exact Nat.digitChar_eq_zero.mp (List.cons.inj h).1
    · next large =>
      obtain ⟨d, ds, e⟩ := List.exists_cons_of_ne_nil (digits_ne_nil (n / 10))
      rw [← digits, e, List.cons_append] at h
      have := ih (n / 10) (by omega) (e.trans (congrArg (· :: ds) (List.cons.inj h).1))
      omega

/-- An integer is written as a number. -/
theorem Json.isNumber_ofInt (i : Int) : IsNumber (.ofInt i) where
  whole_digits _ := Decimal.isDigit_of_mem_digits
  whole_ne_nil := Decimal.digits_ne_nil _
  no_leading_zero cs e := by
    have zero : i.natAbs = 0 := Decimal.eq_zero_of_digits_eq e
    rw [Numeral.ofInt, zero] at e
    exact (List.cons.inj e).2.symm
  fraction_digits := by simp [Numeral.ofInt]
  exponent_digits := by simp [Numeral.ofInt]
  exponent_ne_nil := by simp [Numeral.ofInt]

/-- A written integer has the value that it was written for. -/
theorem Decimal.Numeral.integer?_ofInt (i : Int) : (ofInt i).integer? = some i := by
  have magnitude : Nat.ofDigitChars 10 (digits i.natAbs) 0 = i.natAbs := by
    simp [digits]
  simp only [integer?, ofInt, magnitude]
  by_cases h : i < 0
  · have nonzero : (i.natAbs : Int) ≠ 0 := by omega
    have magnitude : -(i.natAbs : Int) = i := by omega
    simp only [h, nonzero, magnitude, ne_eq, not_true_eq_false, or_self, ↓reduceIte, decide_true]
  · have magnitude : (i.natAbs : Int) = i := by omega
    simp only [h, magnitude, ne_eq, not_true_eq_false, or_self, ↓reduceIte, decide_false,
      Bool.false_eq_true]

end RegisterMachine
