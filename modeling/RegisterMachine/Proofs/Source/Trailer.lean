import RegisterMachine.Proofs.Token.Blank

/-!
# What can follow a line

White space at the end of a line, with or without a comment behind it, is no part of what the line
says: the line has the same tokens without it, and is blank exactly if it is blank without it.
-/

namespace RegisterMachine

namespace Text

/-- Trimming drops what is appended if it is white space. -/
theorem trimEnd_append {b : List Char} (space : ∀ c ∈ b, isSpace c = true) (a : List Char) :
    trimEnd (a ++ b) = trimEnd a := by
  have all : ∀ c ∈ b.reverse, isSpace c = true := fun c hc ↦ space c (List.mem_reverse.mp hc)
  rw [trimEnd, trimEnd, List.reverse_append, List.dropWhile_append_of_pos all]

end Text

namespace Source

open RegisterMachine.Text RegisterMachine.Token

/-- Whether a text is a comment or nothing. -/
def IsNote (cs : List Char) : Prop := cs = [] ∨ StartsComment cs

theorem IsNote.cutComment_eq {cs : List Char} (h : IsNote cs) : cutComment cs = [] := by
  rcases h with rfl | starts
  · rfl
  · exact cutComment_of_startsComment starts

/-- A text that starts apart from what stands before it, and has nothing but white space before its
comment. -/
structure IsTrailer (cs : List Char) : Prop where
  separated : Separated cs
  blank : ∀ c ∈ cutComment cs, isSpace c = true

/-- White space can follow a line. -/
theorem isTrailer_of_isSpace {cs : List Char} (space : ∀ c ∈ cs, isSpace c = true) :
    IsTrailer cs where
  separated := separated_of_isSpace space
  blank c hc := space c ((cutComment_isPrefix cs).mem hc)

/-- White space and a comment can follow a line. -/
theorem isTrailer_cons {space : Char} (hspace : isSpace space = true) {note : List Char}
    (hnote : IsNote note) : IsTrailer (space :: note) where
  separated := separated_cons (isSeparator_of_isSpace hspace) note
  blank c hc := by
    have noComment := not_startsComment (isMark_of_isSeparator (isSeparator_of_isSpace hspace)) note
    rw [cutComment_cons noComment, hnote.cutComment_eq, List.mem_singleton] at hc
    rw [hc]
    exact hspace

variable {b : List Char}

/-- What stands before the comment of a line is white space exactly if it is without the
trailer. -/
theorem IsTrailer.forall_mem_cutComment (h : IsTrailer b) (a : List Char) :
    (∀ c ∈ cutComment (a ++ b), isSpace c = true) ↔ ∀ c ∈ cutComment a, isSpace c = true := by
  induction a with
  | nil => exact iff_of_true h.blank fun c hc ↦ nomatch hc
  | cons c cs ih =>
    by_cases starts : StartsComment (c :: cs)
    · rw [cutComment_of_startsComment starts, cutComment_of_startsComment (starts.append b)]
    · rw [List.cons_append, cutComment_cons starts,
        cutComment_cons (not_startsComment_append h.separated starts), List.forall_mem_cons,
        List.forall_mem_cons, ih]

/-- A line is blank exactly if it is without its trailer. -/
theorem IsTrailer.isBlank_append (h : IsTrailer b) (a : List Char) :
    isBlank (String.ofList (a ++ b)) = isBlank (String.ofList a) := by
  rw [Bool.eq_iff_iff, isBlank, isBlank, String.toList_ofList, String.toList_ofList,
    List.all_eq_true, List.all_eq_true]
  exact h.forall_mem_cutComment a

/-- A trailer has no tokens. -/
theorem IsTrailer.scan_upper (h : IsTrailer b) : scan (upper b) = [] := by
  have separators : ∀ c ∈ cutComment b, isSeparator c = true :=
    fun c hc ↦ isSeparator_of_isSpace (h.blank c hc)
  rw [scan_eq_nil_iff, cutComment_upper, forall_mem_upper_iff fun _ ↦ isCaseless_of_isSeparator]
  exact separators

/-- A trailer stands apart in upper case too. -/
theorem IsTrailer.separated_upper (h : IsTrailer b) : Separated (upper b) := by
  cases b with
  | nil => exact separated_nil
  | cons c cs =>
    have hc := h.separated c rfl
    rw [upper_cons, upperChar_of_isCaseless (isCaseless_of_isSeparator hc)]
    exact separated_cons hc _

/-- A line says the same without its trailer. -/
theorem IsTrailer.ofLine_append (h : IsTrailer b) (a : List Char) :
    Statement.ofLine (String.ofList (a ++ b)) = Statement.ofLine (String.ofList a) := by
  have tokens : Token.ofLine (String.ofList (a ++ b)) = Token.ofLine (String.ofList a) := by
    rw [Token.ofLine, Token.ofLine, String.toList_ofList, String.toList_ofList, upper_append,
      scan_append_of_scan_eq_nil h.separated_upper h.scan_upper]
  rw [Statement.ofLine, tokens]
  rfl

end Source

end RegisterMachine
