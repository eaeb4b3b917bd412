import RegisterMachine.Proofs.Token.Numeral
import RegisterMachine.Proofs.Token.Scan

/-!
# The forms of tokens

Reading a text up to its comment loses nothing but separators and adds nothing, and every token has
the form of its kind (`text_ofLine`).
-/

namespace RegisterMachine.Token

open RegisterMachine.Text RegisterMachine.Source

/-- The form of the tokens of each kind. -/
inductive IsWellFormed : Token → Prop
  | branch : IsWellFormed ⟨.branch, "B"⟩
  | label {name : List Char} (isName : IsName name) : IsWellFormed ⟨.label, String.ofList name⟩
  | word {name : List Char} (isName : IsName name) (other : name ≠ ['B']) :
    IsWellFormed ⟨.word, String.ofList name⟩
  | literal {number : List Char} (isNumeral : IsNumeral number) :
    IsWellFormed ⟨.literal, String.ofList ('#' :: number)⟩
  | unknown {c : Char} (isOther : IsOther c) : IsWellFormed ⟨.unknown, String.singleton c⟩

/-- The text of a token; that of a label ends with its colon. -/
def text (t : Token) : List Char :=
  if t.kind = .label then t.literal.toList ++ [':'] else t.literal.toList

/-! ### Nothing is lost -/

@[simp] theorem text_branch : text ⟨.branch, "B"⟩ = ['B'] := rfl

@[simp] theorem text_label (name : List Char) :
    text ⟨.label, String.ofList name⟩ = name ++ [':'] := congrArg (· ++ [':']) String.toList_ofList

@[simp] theorem text_word (name : List Char) : text ⟨.word, String.ofList name⟩ = name :=
  String.toList_ofList

@[simp] theorem text_literal (cs : List Char) : text ⟨.literal, String.ofList cs⟩ = cs :=
  String.toList_ofList

@[simp] theorem text_unknown (c : Char) : text ⟨.unknown, String.singleton c⟩ = [c] :=
  String.toList_singleton c

/-- A name without a colon is the branch word or another word. -/
theorem ofName_eq (name : List Char) :
    ofName name = if name = ['B'] then ⟨.branch, "B"⟩ else ⟨.word, String.ofList name⟩ := by
  rw [ofName]
  split
  · next h => rw [h]
  · rfl

@[simp] theorem text_ofName (name : List Char) : text (ofName name) = name := by
  rw [ofName_eq]
  split
  · next h =>
    rw [h]
    rfl
  · exact text_word name

/-- Characters of tokens are no separators. -/
theorem filter_of_isTokenChar {cs : List Char} (h : ∀ c ∈ cs, isTokenChar c = true) :
    cs.filter (fun c ↦ !isSeparator c) = cs := by
  apply List.filter_eq_self.mpr
  intro c hc
  cases hs : isSeparator c with
  | false => rfl
  | true =>
    have noTokenChar := isTokenChar_of_isSeparator hs
    rw [h c hc] at noTokenChar
    cases noTokenChar

theorem isTokenChar_of_isName {name : List Char} (h : IsName name) :
    ∀ c ∈ name, isTokenChar c = true := by
  intro c hc
  simp only [isTokenChar, h.2 c hc, Bool.true_or]

theorem isTokenChar_of_isNumeral {number : List Char} (h : IsNumeral number) :
    ∀ c ∈ number, isTokenChar c = true := by
  intro c hc
  rcases h.eq_or_isDigit hc with rfl | rfl | rfl | digit
  · decide
  · decide
  · decide
  · simp only [isTokenChar, digit, Bool.true_or, Bool.or_true]

/-- No comment starts in a name. -/
theorem isMark_of_isName {name : List Char} (h : IsName name) : ∀ c ∈ name, isMark c = false :=
  fun c hc ↦ isMark_of_isNameChar (h.2 c hc)

/-- No comment starts in a number. -/
theorem isMark_of_isNumeral {number : List Char} (h : IsNumeral number) :
    ∀ c ∈ number, isMark c = false := by
  intro c hc
  rcases h.eq_or_isDigit hc with rfl | rfl | rfl | digit
  · rfl
  · rfl
  · rfl
  · exact isMark_eq_false_of (by decide) (by decide) digit

/-- The tokens of a text have all of its characters before the comment but the separators. -/
theorem flatMap_text_scan (cs : List Char) :
    (scan cs).flatMap text = (cutComment cs).filter fun c ↦ !isSeparator c := by
  induction cs using scan_induction with
  | nil => rw [scan_nil, List.flatMap_nil, cutComment, List.filter_nil]
  | comment cs starts =>
    rw [scan_of_startsComment starts, cutComment_of_startsComment starts, List.flatMap_nil,
      List.filter_nil]
  | separator c cs hc ih =>
    have noComment := not_startsComment (isMark_of_isSeparator hc) cs
    rw [scan_separator hc, cutComment_cons noComment, ih,
      List.filter_cons_of_neg (by rw [hc]; decide)]
  | literal number rest longest ih =>
    have isNumeral := isNumeral_splitNumber (number ++ rest)
    rw [longest] at isNumeral
    have noComment := not_startsComment (c := '#') rfl (number ++ rest)
    rw [scan_append_number longest, cutComment_cons noComment,
      cutComment_append (isMark_of_isNumeral isNumeral), List.flatMap_cons, ih, text_literal,
      List.filter_cons_of_pos (by decide), List.filter_append,
      filter_of_isTokenChar (isTokenChar_of_isNumeral isNumeral), List.cons_append]
  | label name rest isName ih =>
    have noComment := not_startsComment (c := ':') rfl rest
    rw [scan_append_colon isName, cutComment_append (isMark_of_isName isName),
      cutComment_cons noComment, List.flatMap_cons, ih, text_label, List.filter_append,
      filter_of_isTokenChar (isTokenChar_of_isName isName),
      List.filter_cons_of_pos (by decide), List.append_assoc, List.singleton_append]
  | word name rest isName ends ih =>
    rw [scan_append_name isName ends, cutComment_append (isMark_of_isName isName),
      List.flatMap_cons, ih, text_ofName, List.filter_append,
      filter_of_isTokenChar (isTokenChar_of_isName isName)]
  | other c cs isOther noComment ih =>
    rw [scan_other isOther noComment, cutComment_cons noComment, List.flatMap_cons, ih,
      text_unknown, List.filter_cons_of_pos (by rw [isOther.1]; rfl), List.singleton_append]

/-! ### Every token has its form -/

theorem isWellFormed_ofName {name : List Char} (h : IsName name) : IsWellFormed (ofName name) := by
  rw [ofName_eq]
  split
  · exact .branch
  · next other => exact .word h other

/-- The tokens of a text have the form of their kind. -/
theorem isWellFormed_of_mem_scan (cs : List Char) : ∀ t ∈ scan cs, IsWellFormed t := by
  induction cs using scan_induction with
  | nil =>
    rw [scan_nil]
    intro t ht
    cases ht
  | comment cs starts =>
    rw [scan_of_startsComment starts]
    intro t ht
    cases ht
  | separator c cs hc ih =>
    rw [scan_separator hc]
    exact ih
  | literal number rest longest ih =>
    have isNumeral := isNumeral_splitNumber (number ++ rest)
    rw [longest] at isNumeral
    rw [scan_append_number longest, List.forall_mem_cons]
    exact ⟨.literal isNumeral, ih⟩
  | label name rest isName ih =>
    rw [scan_append_colon isName, List.forall_mem_cons]
    exact ⟨.label isName, ih⟩
  | word name rest isName ends ih =>
    rw [scan_append_name isName ends, List.forall_mem_cons]
    exact ⟨isWellFormed_ofName isName, ih⟩
  | other c cs isOther noComment ih =>
    rw [scan_other isOther noComment, List.forall_mem_cons]
    exact ⟨.unknown isOther, ih⟩

/-- Every token has a text. -/
theorem text_ne_nil {t : Token} (h : IsWellFormed t) : t.text ≠ [] := by
  cases h with
  | branch => exact List.cons_ne_nil _ _
  | label isName =>
    rw [text_label]
    exact List.append_ne_nil_of_right_ne_nil _ (List.cons_ne_nil _ _)
  | word isName other =>
    rw [text_word]
    exact isName.1
  | literal isNumeral =>
    rw [text_literal]
    exact List.cons_ne_nil _ _
  | unknown isOther =>
    rw [text_unknown]
    exact List.cons_ne_nil _ _

/-- The tokens of a line have all characters that its upper case has before the comment but the
separators, and have the form of their kind. -/
theorem text_ofLine (line : String) :
    ∃ kept, (∀ part, IsBeforeComment (upper line.toList) part ↔ part = kept) ∧
      (ofLine line).flatMap text = kept.filter (fun c ↦ !isSeparator c) ∧
      ∀ t ∈ ofLine line, IsWellFormed t := by
  refine ⟨cutComment (upper line.toList), fun part ↦ isBeforeComment_iff, ?_, ?_⟩
  · exact flatMap_text_scan _
  · exact isWellFormed_of_mem_scan _

end RegisterMachine.Token
