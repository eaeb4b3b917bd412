import RegisterMachine.Proofs.Token.Blank

/-!
# Lines without their comment

A comment is found at the same place whether it is cut from the line as it is written or met while
the tokens of its upper case are read. So a line, the line without its comment and the line without
the white space at its end have the same tokens (`ofLine_cutComment`).
-/

namespace RegisterMachine.Token

open RegisterMachine.Text RegisterMachine.Source

/-- What is left of a text starts as the text does, unless nothing is left. -/
theorem mem_head?_of_cutComment {cs : List Char} {c : Char} (h : c ∈ (cutComment cs).head?) :
    c ∈ cs.head? := by
  obtain ⟨comment, whole⟩ := cutComment_isPrefix cs
  rw [← whole, List.head?_append, Option.mem_def.mp h]
  rfl

/-! ### Numbers before a comment -/

/-- A comment ends a row of digits and takes no part in it. -/
theorem splitDigits_cutComment (cs : List Char) :
    splitDigits (cutComment cs) = ((splitDigits cs).1, cutComment (splitDigits cs).2) := by
  have noMark : ∀ c ∈ cs.takeWhile Char.isDigit, isMark c = false := by
    intro c hc
    exact isMark_eq_false_of (by decide) (by decide) (isDigits_splitDigits cs c hc)
  have ends : ∀ c ∈ (cutComment (cs.dropWhile Char.isDigit)).head?, c.isDigit = false := by
    intro c hc
    have first := List.head?_dropWhile_not Char.isDigit cs
    rw [Option.mem_def.mp (mem_head?_of_cutComment hc)] at first
    exact first
  have whole : cutComment cs =
      cs.takeWhile Char.isDigit ++ cutComment (cs.dropWhile Char.isDigit) := by
    rw [← cutComment_append noMark, List.takeWhile_append_dropWhile]
  rw [whole]
  exact takeWhile_dropWhile_append (isDigits_splitDigits cs) ends

/-- A comment starts with no sign. -/
theorem splitSign_cutComment (cs : List Char) :
    splitSign (cutComment cs) = ((splitSign cs).1, cutComment (splitSign cs).2) := by
  cases cs with
  | nil => rfl
  | cons c cs =>
    by_cases starts : StartsComment (c :: cs)
    · have unsigned : ¬ (c = '+' ∨ c = '-') := by
        rintro (rfl | rfl)
        · exact not_startsComment rfl cs starts
        · exact not_startsComment rfl cs starts
      rw [splitSign, if_neg unsigned, cutComment_of_startsComment starts]
      rfl
    · rw [cutComment_cons starts, splitSign, splitSign]
      split
      · rfl
      · rw [cutComment_cons starts]

/-- A comment ends a fraction, and takes no part in starting one. -/
theorem splitFraction_cutComment (cs : List Char) :
    splitFraction (cutComment cs) = ((splitFraction cs).1, cutComment (splitFraction cs).2) := by
  by_cases starts : ∃ d ds, cs = '.' :: d :: ds ∧ d.isDigit = true
  · obtain ⟨d, ds, rfl, hd⟩ := starts
    have digit : isMark d = false := isMark_eq_false_of (by decide) (by decide) hd
    have parts := splitDigits_cutComment (d :: ds)
    rw [cutComment_cons (not_startsComment digit ds)] at parts
    rw [cutComment_cons (not_startsComment rfl _), cutComment_cons (not_startsComment digit ds),
      splitFraction_of_isDigit hd, splitFraction_of_isDigit hd, parts]
  · have none : ∀ d ds, cs = '.' :: d :: ds → d.isDigit = false := by
      intro d ds whole
      exact Bool.eq_false_iff.mpr fun hd ↦ starts ⟨d, ds, whole, hd⟩
    rw [splitFraction_of_forall none, splitFraction_of_forall]
    intro d ds left
    obtain ⟨comment, whole⟩ := cutComment_isPrefix cs
    rw [left] at whole
    exact none d (ds ++ comment) whole.symm

/-- A comment ends a number. -/
theorem splitNumber_cutComment (cs : List Char) :
    splitNumber (cutComment cs) = ((splitNumber cs).1, cutComment (splitNumber cs).2) := by
  simp only [splitNumber, splitSign_cutComment, splitDigits_cutComment, splitFraction_cutComment]

/-! ### Tokens before a comment -/

/-- What ends a word still ends it without the comment. -/
theorem endsWord_cutComment {cs : List Char} (h : EndsWord cs) : EndsWord (cutComment cs) :=
  fun c hc ↦ h c (mem_head?_of_cutComment hc)

/-- The tokens of a text are those of what stands before its comment. -/
theorem scan_cutComment (cs : List Char) : scan (cutComment cs) = scan cs := by
  induction cs using scan_induction with
  | nil => rfl
  | comment cs starts =>
    rw [cutComment_of_startsComment starts, scan_of_startsComment starts, scan_nil]
  | separator c cs hc ih =>
    rw [cutComment_cons (not_startsComment (isMark_of_isSeparator hc) cs), scan_separator hc,
      scan_separator hc, ih]
  | literal number rest longest ih =>
    have isNumeral := isNumeral_splitNumber (number ++ rest)
    rw [longest] at isNumeral
    have longest' : splitNumber (number ++ cutComment rest) = (number, cutComment rest) := by
      rw [← cutComment_append (isMark_of_isNumeral isNumeral), splitNumber_cutComment, longest]
    rw [cutComment_cons (not_startsComment rfl _),
      cutComment_append (isMark_of_isNumeral isNumeral), scan_append_number longest',
      scan_append_number longest, ih]
  | label name rest isName ih =>
    rw [cutComment_append (isMark_of_isName isName), cutComment_cons (not_startsComment rfl rest),
      scan_append_colon isName, scan_append_colon isName, ih]
  | word name rest isName ends ih =>
    rw [cutComment_append (isMark_of_isName isName),
      scan_append_name isName (endsWord_cutComment ends), scan_append_name isName ends, ih]
  | other c cs isOther noComment ih =>
    have noComment' : ¬ StartsComment (c :: cutComment cs) := by
      rw [startsComment_cons]
      rintro (semicolon | ⟨slash, second⟩)
      · exact isOther.2.2.2 semicolon
      · exact noComment (startsComment_cons.mpr (.inr ⟨slash, mem_head?_of_cutComment second⟩))
    rw [cutComment_cons noComment, scan_other isOther noComment', scan_other isOther noComment, ih]

/-- A line has the tokens of what stands before its comment, and those of what stands before the
white space at its end; so both say what the line says. A blank line has no tokens. -/
theorem ofLine_cutComment (line : String) :
    (ofLine (String.ofList (cutComment line.toList)) = ofLine line ∧
      Statement.ofLine (String.ofList (cutComment line.toList)) = Statement.ofLine line) ∧
    (ofLine (String.ofList (trimEnd line.toList)) = ofLine line ∧
      Statement.ofLine (String.ofList (trimEnd line.toList)) = Statement.ofLine line) ∧
    (isBlank line = true → ofLine line = []) := by
  have cut : ofLine (String.ofList (cutComment line.toList)) = ofLine line := by
    rw [ofLine, ofLine, String.toList_ofList, ← cutComment_upper, scan_cutComment]
  refine ⟨⟨cut, ?_⟩, ⟨ofLine_trimEnd line, Statement.ofLine_trimEnd line⟩, ofLine_of_isBlank⟩
  rw [Statement.ofLine, cut]
  rfl

/-- Before a comment with both marks there is nothing but white space. -/
theorem ofLine_cutComment_note :
    isBlank "\t //; MOV R0, #1" = true ∧ ofLine "\t //; MOV R0, #1" = [] := by
  have blank : isBlank "\t //; MOV R0, #1" = true := by decide
  exact ⟨blank, (ofLine_cutComment "\t //; MOV R0, #1").2.2 blank⟩

end RegisterMachine.Token
