import RegisterMachine.Proofs.Source.Comment
import RegisterMachine.Proofs.Text.Pieces
import RegisterMachine.Proofs.Text.Uppercase
import RegisterMachine.Token.Lexer

/-!
# Reading token by token

What `scan` reads next, a comment or a token of each kind, and the induction along it
(`scan_induction`).
-/

namespace RegisterMachine.Token

open RegisterMachine.Text RegisterMachine.Source

/-- The characters that a token can be made of, or that end one together with it. -/
def isTokenChar (c : Char) : Bool :=
  isNameChar c || c.isDigit || c == '#' || c == '+' || c == '-' || c == '.' || c == ':' ||
    c == ';' || c == '/'

/-- No separator is part of a token. -/
theorem isTokenChar_of_isSeparator {c : Char} (hc : isSeparator c = true) :
    isTokenChar c = false := by
  rcases Bool.or_eq_true_iff.mp hc with h | h
  · rw [beq_iff_eq.mp h]
    decide
  · exact forall_inRanges (P := fun c ↦ isTokenChar c = false) (by decide +kernel) h

theorem isSeparator_of_isNameChar {c : Char} (hc : isNameChar c = true) :
    isSeparator c = false := by
  apply Bool.eq_false_iff.mpr
  intro hs
  have := isTokenChar_of_isSeparator hs
  simp [isTokenChar, hc] at this

/-- No comment starts with a separator. -/
theorem isMark_of_isSeparator {c : Char} (hc : isSeparator c = true) : isMark c = false :=
  isMark_eq_false_of (by decide) (by decide) hc

/-- No comment starts with a character of names. -/
theorem isMark_of_isNameChar {c : Char} (hc : isNameChar c = true) : isMark c = false :=
  isMark_eq_false_of (by decide) (by decide) hc

/-- A row of at least one character of names. -/
def IsName (cs : List Char) : Prop := cs ≠ [] ∧ ∀ c ∈ cs, isNameChar c = true

/-- A character that is neither white space nor a comma nor part of a name or a mark. -/
def IsOther (c : Char) : Prop :=
  isSeparator c = false ∧ isNameChar c = false ∧ c ≠ '#' ∧ c ≠ ';'

/-- A text that no name before it extends into, and that makes no label of it. -/
def EndsWord (cs : List Char) : Prop := ∀ c ∈ cs.head?, isNameChar c = false ∧ c ≠ ':'

/-- A text that starts with a character of names starts with a longest name. -/
theorem exists_name {c : Char} (hc : isNameChar c = true) (cs : List Char) :
    ∃ name rest, c :: cs = name ++ rest ∧ IsName name ∧
      ∀ d ∈ rest.head?, isNameChar d = false := by
  refine ⟨(splitName (c :: cs)).1, (splitName (c :: cs)).2, (splitName_append _).symm,
    ⟨?_, ?_⟩, ?_⟩
  · rw [splitName, List.takeWhile_cons, hc]
    exact List.cons_ne_nil _ _
  · intro d hd
    exact List.all_eq_true.mp List.all_takeWhile d hd
  · intro d hd
    have ends := List.head?_dropWhile_not isNameChar (c :: cs)
    rw [splitName, Option.mem_def] at hd
    rw [hd] at ends
    exact ends

/-! ### What is read next -/

@[simp] theorem scan_nil : scan [] = [] := by rw [scan]

/-- A comment has no tokens. -/
theorem scan_of_startsComment {cs : List Char} (h : StartsComment cs) : scan cs = [] := by
  cases cs with
  | nil => exact scan_nil
  | cons c cs => rw [scan, if_pos (startsComment_cons.mp h)]

/-- A separator stands for nothing. -/
theorem scan_separator {c : Char} (hc : isSeparator c = true) (cs : List Char) :
    scan (c :: cs) = scan cs := by
  have noComment := not_startsComment (isMark_of_isSeparator hc) cs
  rw [scan, if_neg (mt startsComment_cons.mpr noComment), if_pos hc]

/-- A hash and the longest number after it are a literal. -/
theorem scan_append_number {number rest : List Char}
    (longest : splitNumber (number ++ rest) = (number, rest)) :
    scan ('#' :: (number ++ rest)) =
      ⟨.literal, String.ofList ('#' :: number)⟩ :: scan rest := by
  have noComment := not_startsComment (c := '#') rfl (number ++ rest)
  rw [scan, if_neg (mt startsComment_cons.mpr noComment), if_neg (by decide), if_pos rfl, longest]

private theorem ne_hash_of_isNameChar {c : Char} (hc : isNameChar c = true) : c ≠ '#' := by
  rintro rfl
  exact absurd hc (by decide)

/-- A name and a colon are a label. -/
theorem scan_append_colon {name : List Char} (isName : IsName name) (rest : List Char) :
    scan (name ++ ':' :: rest) = ⟨.label, String.ofList name⟩ :: scan rest := by
  have parts : splitName (name ++ ':' :: rest) = (name, ':' :: rest) := by
    apply takeWhile_dropWhile_append isName.2
    intro c hc
    rw [← Option.some.inj hc]
    decide
  obtain ⟨c, cs, rfl⟩ := List.exists_cons_of_ne_nil isName.1
  have hc := isName.2 c List.mem_cons_self
  have noComment := not_startsComment (isMark_of_isNameChar hc) (cs ++ ':' :: rest)
  rw [List.cons_append] at parts ⊢
  rw [scan, if_neg (mt startsComment_cons.mpr noComment)]
  simp only [isSeparator_of_isNameChar hc, ne_hash_of_isNameChar hc, hc, Bool.false_eq_true,
    ↓reduceIte, ↓reduceDIte]
  split
  · next r e =>
    rw [parts] at e ⊢
    cases e
    rfl
  · next h => exact absurd (congrArg Prod.snd parts) (h rest)

/-- A name that neither a character of names nor a colon follows is a word. -/
theorem scan_append_name {name rest : List Char} (isName : IsName name) (ends : EndsWord rest) :
    scan (name ++ rest) = ofName name :: scan rest := by
  have parts : splitName (name ++ rest) = (name, rest) :=
    takeWhile_dropWhile_append isName.2 fun c hc ↦ (ends c hc).1
  obtain ⟨c, cs, rfl⟩ := List.exists_cons_of_ne_nil isName.1
  have hc := isName.2 c List.mem_cons_self
  have noComment := not_startsComment (isMark_of_isNameChar hc) (cs ++ rest)
  rw [List.cons_append] at parts ⊢
  rw [scan, if_neg (mt startsComment_cons.mpr noComment)]
  simp only [isSeparator_of_isNameChar hc, ne_hash_of_isNameChar hc, hc, Bool.false_eq_true,
    ↓reduceIte, ↓reduceDIte]
  split
  · next r e =>
    rw [parts] at e
    rw [show rest = ':' :: r from e] at ends
    exact absurd rfl (ends ':' rfl).2
  · rw [parts]

/-- Any other character is a token of its own, unless a comment starts with it. -/
theorem scan_other {c : Char} {cs : List Char} (isOther : IsOther c)
    (noComment : ¬ StartsComment (c :: cs)) :
    scan (c :: cs) = ⟨.unknown, String.singleton c⟩ :: scan cs := by
  obtain ⟨noSeparator, noName, noHash, -⟩ := isOther
  rw [scan, if_neg (mt startsComment_cons.mpr noComment)]
  simp only [noSeparator, noName, noHash, Bool.false_eq_true, ↓reduceIte, ↓reduceDIte]

/-- Induction on a text, token by token up to its comment. -/
@[elab_as_elim]
theorem scan_induction {motive : List Char → Prop}
    (nil : motive [])
    (comment : ∀ cs, StartsComment cs → motive cs)
    (separator : ∀ c cs, isSeparator c = true → motive cs → motive (c :: cs))
    (literal : ∀ number rest, splitNumber (number ++ rest) = (number, rest) → motive rest →
      motive ('#' :: (number ++ rest)))
    (label : ∀ name rest, IsName name → motive rest → motive (name ++ ':' :: rest))
    (word : ∀ name rest, IsName name → EndsWord rest → motive rest → motive (name ++ rest))
    (other : ∀ c cs, IsOther c → ¬ StartsComment (c :: cs) → motive cs → motive (c :: cs))
    (cs : List Char) : motive cs := by
  induction hl : cs.length using Nat.strongRecOn generalizing cs with
  | ind n ih =>
    subst hl
    cases cs with
    | nil => exact nil
    | cons c cs =>
      by_cases hc : StartsComment (c :: cs)
      · exact comment _ hc
      by_cases hs : isSeparator c = true
      · exact separator c cs hs (ih cs.length (Nat.lt_succ_self _) cs rfl)
      by_cases hh : c = '#'
      · subst hh
        have shorter := Nat.lt_succ_of_le (length_splitNumber_le cs)
        have step := literal (splitNumber cs).1 (splitNumber cs).2
        rw [splitNumber_append] at step
        exact step rfl (ih _ shorter _ rfl)
      by_cases hn : isNameChar c = true
      · obtain ⟨name, rest, whole, isName, ends⟩ := exists_name hn cs
        have nonempty := List.length_pos_iff.mpr isName.1
        rw [whole, List.length_append] at ih
        rw [whole]
        by_cases colon : rest.head? = some ':'
        · obtain ⟨tail, rfl⟩ := List.head?_eq_some_iff.mp colon
          rw [List.length_cons] at ih
          exact label name tail isName (ih tail.length (by omega) tail rfl)
        · have endsWord : EndsWord rest := by
            refine fun d hd ↦ ⟨ends d hd, ?_⟩
            rintro rfl
            exact colon hd
          exact word name rest isName endsWord (ih rest.length (by omega) rest rfl)
      · rw [Bool.not_eq_true] at hs hn
        have isOther : IsOther c := ⟨hs, hn, hh, fun e ↦ hc (startsComment_cons.mpr (.inl e))⟩
        exact other c cs isOther hc (ih cs.length (Nat.lt_succ_self _) cs rfl)

end RegisterMachine.Token
