import RegisterMachine.Proofs.Token.Scan

/-!
# Separators between tokens

No token reaches over a separator, and no comment starts with one, so what follows a separator makes
no difference to the tokens before it. White space in particular is nothing but separators.
-/

namespace RegisterMachine

namespace Token

open RegisterMachine.Text RegisterMachine.Source

/-- A text is separated from what stands before it if it is empty or starts with a separator. -/
def Separated (cs : List Char) : Prop := ∀ c ∈ cs.head?, isSeparator c = true

theorem separated_nil : Separated [] := by
  intro c hc
  cases hc

theorem separated_cons {c : Char} (hc : isSeparator c = true) (cs : List Char) :
    Separated (c :: cs) := by
  intro d hd
  rw [← Option.some.inj hd]
  exact hc

/-- White space is separated from anything. -/
theorem separated_of_isSpace {cs : List Char} (h : ∀ c ∈ cs, isSpace c = true) :
    Separated cs := by
  cases cs with
  | nil => exact separated_nil
  | cons c cs =>
    exact separated_cons (Bool.or_eq_true_iff.mpr (.inr (h c List.mem_cons_self))) cs

theorem Separated.head?_ne {b : List Char} (hb : Separated b) {c : Char}
    (hc : isTokenChar c = true) : b.head? ≠ some c := by
  intro h
  rw [isTokenChar_of_isSeparator (hb c h)] at hc
  cases hc

/-! ### Reading up to a separator -/

variable {b : List Char}

/-- A separator ends a row of digits. -/
theorem splitDigits_append_separated (hb : Separated b) (a : List Char) :
    splitDigits (a ++ b) = ((splitDigits a).1, (splitDigits a).2 ++ b) := by
  have ends : ∀ c ∈ b.head?, c.isDigit = false := by
    intro c hc
    apply Bool.eq_false_iff.mpr
    intro digit
    exact hb.head?_ne (by simp [isTokenChar, digit]) hc
  rw [splitDigits, takeWhile_append_of_head? ends, dropWhile_append_of_head? ends]
  rfl

/-- A separator is no sign. -/
theorem splitSign_append_separated (hb : Separated b) (a : List Char) :
    splitSign (a ++ b) = ((splitSign a).1, (splitSign a).2 ++ b) := by
  cases a with
  | nil =>
    cases b with
    | nil => rfl
    | cons c cs =>
      have hc : ¬ (c = '+' ∨ c = '-') := by
        rintro (rfl | rfl)
        · exact hb.head?_ne (c := '+') (by decide) rfl
        · exact hb.head?_ne (c := '-') (by decide) rfl
      simp only [List.nil_append, splitSign, hc, ↓reduceIte]
  | cons c cs =>
    simp only [List.cons_append, splitSign]
    split <;> rfl

/-- A point and a digit start a fraction. -/
theorem splitFraction_of_isDigit {d : Char} (hd : d.isDigit = true) (cs : List Char) :
    splitFraction ('.' :: d :: cs) =
      ('.' :: (splitDigits (d :: cs)).1, (splitDigits (d :: cs)).2) := by
  simp only [splitFraction, hd, ↓reduceIte]

/-- Nothing else starts a fraction. -/
theorem splitFraction_of_forall {a : List Char}
    (h : ∀ d cs, a = '.' :: d :: cs → d.isDigit = false) : splitFraction a = ([], a) := by
  unfold splitFraction
  split
  · next d cs =>
    rw [h d cs rfl]
    rfl
  · rfl

/-- A separator ends a fraction, and takes no part in starting one. -/
theorem splitFraction_append_separated (hb : Separated b) (a : List Char) :
    splitFraction (a ++ b) = ((splitFraction a).1, (splitFraction a).2 ++ b) := by
  by_cases starts : ∃ d cs, a = '.' :: d :: cs ∧ d.isDigit = true
  · obtain ⟨d, cs, rfl, hd⟩ := starts
    have parts := splitDigits_append_separated hb (d :: cs)
    rw [List.cons_append, List.cons_append, splitFraction_of_isDigit hd,
      splitFraction_of_isDigit hd, ← List.cons_append, parts]
  · have none : ∀ d cs, a ++ b = '.' :: d :: cs → d.isDigit = false := by
      intro d cs e
      apply Bool.eq_false_iff.mpr
      intro hd
      match a, e with
      | [], e =>
        rw [List.nil_append] at e
        exact hb.head?_ne (c := '.') (by decide) (e ▸ rfl)
      | [c], e =>
        rw [List.singleton_append] at e
        exact hb.head?_ne (c := d) (by simp [isTokenChar, hd]) ((List.cons.inj e).2 ▸ rfl)
      | c :: c' :: rest, e =>
        have heads : c = '.' ∧ c' = d ∧ rest ++ b = cs := by simpa using e
        exact starts ⟨c', rest, by rw [heads.1], heads.2.1 ▸ hd⟩
    rw [splitFraction_of_forall none, splitFraction_of_forall]
    intro d cs e
    exact Bool.eq_false_iff.mpr fun hd ↦ starts ⟨d, cs, e, hd⟩

/-- A separator ends a number. -/
theorem splitNumber_append_separated (hb : Separated b) (a : List Char) :
    splitNumber (a ++ b) = ((splitNumber a).1, (splitNumber a).2 ++ b) := by
  simp only [splitNumber, splitSign_append_separated hb, splitDigits_append_separated hb,
    splitFraction_append_separated hb]

/-- A separator ends a word. -/
theorem endsWord_append (hb : Separated b) {a : List Char} (ha : EndsWord a) :
    EndsWord (a ++ b) := by
  cases a with
  | nil =>
    intro c hc
    have noTokenChar := isTokenChar_of_isSeparator (hb c hc)
    constructor
    · apply Bool.eq_false_iff.mpr
      intro nameChar
      simp [isTokenChar, nameChar] at noTokenChar
    · rintro rfl
      exact absurd noTokenChar (by decide)
  | cons c cs => exact ha

theorem Separated.endsWord (hb : Separated b) : EndsWord b :=
  endsWord_append (a := []) hb fun _ hc ↦ nomatch hc

/-- No comment starts with a separator and the character before it. -/
theorem not_startsComment_append (hb : Separated b) {c : Char} {cs : List Char}
    (h : ¬ StartsComment (c :: cs)) : ¬ StartsComment (c :: (cs ++ b)) := by
  cases cs with
  | nil =>
    intro starts
    rcases startsComment_cons.mp starts with semicolon | ⟨-, slash⟩
    · exact h (startsComment_cons.mpr (.inl semicolon))
    · exact hb.head?_ne (c := '/') (by decide) slash
  | cons d ds => exact h ∘ startsComment_cons.mpr ∘ startsComment_cons.mp

/-- A separated text without tokens can stand behind any other. -/
theorem scan_append_of_scan_eq_nil (hb : Separated b) (none : scan b = []) (a : List Char) :
    scan (a ++ b) = scan a := by
  induction a using scan_induction with
  | nil => rw [List.nil_append, none, scan_nil]
  | comment a starts => rw [scan_of_startsComment starts, scan_of_startsComment (starts.append b)]
  | separator c cs hc ih => rw [List.cons_append, scan_separator hc, scan_separator hc, ih]
  | literal number rest longest ih =>
    have longest' : splitNumber (number ++ (rest ++ b)) = (number, rest ++ b) := by
      rw [← List.append_assoc, splitNumber_append_separated hb, longest]
    rw [List.cons_append, List.append_assoc, scan_append_number longest',
      scan_append_number longest, ih]
  | label name rest isName ih =>
    rw [List.append_assoc, List.cons_append, scan_append_colon isName, scan_append_colon isName,
      ih]
  | word name rest isName ends ih =>
    rw [List.append_assoc, scan_append_name isName (endsWord_append hb ends),
      scan_append_name isName ends, ih]
  | other c cs isOther noComment ih =>
    rw [List.cons_append, scan_other isOther (not_startsComment_append hb noComment),
      scan_other isOther noComment, ih]

end Token

end RegisterMachine
