import RegisterMachine.Proofs.Token.Separator
import RegisterMachine.Proofs.Token.Shape
import RegisterMachine.Statement.Parser

/-!
# Blank text

White space, before a comment or at the end of a line, makes no difference to the tokens of the
line: a line without the white space at its end has the same ones, and a line has none exactly if
nothing but separators stands before its comment, as on a blank line.
-/

namespace RegisterMachine

namespace Source

open RegisterMachine.Text

/-- A comment starts where it does in upper case. -/
theorem cutComment_upper (cs : List Char) : cutComment (upper cs) = upper (cutComment cs) := by
  have caseless {d : Char} (mark : isMark d = true) : isCaseless d = true := by
    rcases Bool.or_eq_true_iff.mp mark with h | h
    · rw [beq_iff_eq.mp h]
      decide
    · rw [beq_iff_eq.mp h]
      decide
  induction cs with
  | nil => rfl
  | cons c cs ih =>
    rw [upper_cons]
    by_cases mark : isMark c = true
    · have same : StartsComment (c :: upper cs) ↔ StartsComment (c :: cs) := by
        rw [startsComment_cons, startsComment_cons, head?_upper_eq_some_iff (caseless rfl)]
      rw [upperChar_of_isCaseless (caseless mark), List.singleton_append]
      by_cases starts : StartsComment (c :: cs)
      · rw [cutComment_of_startsComment starts, cutComment_of_startsComment (same.mpr starts)]
        rfl
      · rw [cutComment_cons starts, cutComment_cons (mt same.mp starts), ih, upper_cons,
          upperChar_of_isCaseless (caseless mark), List.singleton_append]
    · have plain : ∀ d ∈ upperChar c, isMark d = false := by
        intro d hd
        apply Bool.eq_false_iff.mpr
        intro h
        rw [eq_of_mem_upperChar hd (caseless h)] at mark
        exact mark h
      rw [Bool.not_eq_true] at mark
      rw [cutComment_append plain, ih, cutComment_cons (not_startsComment mark cs), upper_cons]

end Source

namespace Token

open RegisterMachine.Text RegisterMachine.Source

/-- A text has no tokens exactly if nothing but separators stands before its comment. -/
theorem scan_eq_nil_iff {cs : List Char} :
    scan cs = [] ↔ ∀ c ∈ cutComment cs, isSeparator c = true := by
  have texts := flatMap_text_scan cs
  constructor
  · intro none
    rw [none, List.flatMap_nil] at texts
    intro c hc
    have kept := List.filter_eq_nil_iff.mp texts.symm c hc
    rw [Bool.not_eq_true, Bool.not_eq_false'] at kept
    exact kept
  · intro all
    have none : (cutComment cs).filter (fun c ↦ !isSeparator c) = [] := by
      apply List.filter_eq_nil_iff.mpr
      intro c hc
      rw [all c hc]
      decide
    rw [none, List.flatMap_eq_nil_iff] at texts
    apply List.eq_nil_iff_forall_not_mem.mpr
    intro t ht
    exact text_ne_nil (isWellFormed_of_mem_scan cs t ht) (texts t ht)

theorem isSeparator_of_isSpace {c : Char} (h : isSpace c = true) : isSeparator c = true :=
  Bool.or_eq_true_iff.mpr (.inr h)

/-- White space has no tokens. -/
theorem scan_of_isSpace {cs : List Char} (h : ∀ c ∈ cs, isSpace c = true) : scan cs = [] :=
  scan_eq_nil_iff.mpr fun c hc ↦ isSeparator_of_isSpace (h c ((cutComment_isPrefix cs).mem hc))

/-- The white space at the end of a line makes no token. -/
theorem ofLine_trimEnd (line : String) :
    ofLine (String.ofList (trimEnd line.toList)) = ofLine line := by
  obtain ⟨tail, whole, space⟩ := exists_trimEnd_append line.toList
  have same : upper line.toList = upper (trimEnd line.toList) ++ tail := by
    calc upper line.toList
      _ = upper (trimEnd line.toList ++ tail) := by rw [← whole]
      _ = upper (trimEnd line.toList) ++ tail := by rw [upper_append, upper_of_isSpace space]
  rw [ofLine, ofLine, String.toList_ofList, same,
    scan_append_of_scan_eq_nil (separated_of_isSpace space) (scan_of_isSpace space)]

theorem isCaseless_of_isSeparator {c : Char} (h : isSeparator c = true) : isCaseless c = true := by
  rcases Bool.or_eq_true_iff.mp h with h | h
  · rw [beq_iff_eq.mp h]
    decide
  · exact isCaseless_of_isSpace h

/-- A line has no tokens exactly if nothing but separators stands before its comment. -/
theorem ofLine_eq_nil_iff {line : String} :
    ofLine line = [] ↔ ∀ c ∈ cutComment line.toList, isSeparator c = true := by
  rw [ofLine, scan_eq_nil_iff, cutComment_upper,
    forall_mem_upper_iff fun _ ↦ isCaseless_of_isSeparator]

/-- A blank line has no tokens. -/
theorem ofLine_of_isBlank {line : String} (h : isBlank line = true) : ofLine line = [] :=
  ofLine_eq_nil_iff.mpr fun c hc ↦ isSeparator_of_isSpace (List.all_eq_true.mp h c hc)

end Token

namespace Statement

open RegisterMachine.Text RegisterMachine.Source

/-- The white space at the end of a line makes no difference to what the line says. -/
theorem ofLine_trimEnd (line : String) :
    ofLine (String.ofList (trimEnd line.toList)) = ofLine line := by
  rw [ofLine, Token.ofLine_trimEnd]
  rfl

theorem atEnd_ne_none (s : Statement) (fault : Token → Fault) (ts : List Token) :
    (atEnd s fault ts).1 ≠ .ok none := by
  cases ts <;> simp [atEnd]

theorem parseTarget_ne_none (condition : Condition) (target : Token) (rest : List Token) :
    (parseTarget condition target rest).1 ≠ .ok none := by
  unfold parseTarget
  split
  · exact atEnd_ne_none _ _ _
  · simp

theorem parseBranch_ne_none (ts : List Token) : (parseBranch ts).1 ≠ .ok none := by
  unfold parseBranch
  split
  · simp
  · split
    · split <;> exact parseTarget_ne_none _ _ _
    · simp

theorem parseOperation_ne_none (word : Token) (rest : List Token) :
    (parseOperation word rest).1 ≠ .ok none := by
  unfold parseOperation
  split
  · simp
  · split <;> simp

/-- Tokens say something or are at fault, if there are any. -/
theorem parse_eq_none_iff {ts : List Token} : (parse ts).1 = .ok none ↔ ts = [] := by
  cases ts with
  | nil => simp [parse]
  | cons t ts =>
    refine iff_of_false ?_ (List.cons_ne_nil t ts)
    rw [parse]
    split
    · exact atEnd_ne_none _ _ _
    · exact parseBranch_ne_none ts
    · exact parseOperation_ne_none t ts

/-- A line says nothing exactly if nothing but separators stands before its comment. -/
theorem ofLine_eq_none_iff {line : String} :
    ofLine line = .ok none ↔ ∀ c ∈ cutComment line.toList, Token.isSeparator c = true := by
  rw [ofLine, parse_eq_none_iff, Token.ofLine_eq_nil_iff]

/-- A blank line says nothing. -/
theorem ofLine_of_isBlank {line : String} (h : isBlank line = true) : ofLine line = .ok none := by
  rw [ofLine, Token.ofLine_of_isBlank h]
  rfl

end Statement

end RegisterMachine
