import RegisterMachine.Text.Uppercase
import RegisterMachine.Token.Basic

/-!
# From a line to its tokens

A line is put in upper case and read from left to right up to its comment: names take as many
characters as they can, so do literals, and separators stand for nothing.
-/

namespace RegisterMachine.Token

open RegisterMachine.Text

/-- Splits a sign off, if there is one. -/
def splitSign : List Char → List Char × List Char
  | c :: cs => if c = '+' ∨ c = '-' then ([c], cs) else ([], c :: cs)
  | [] => ([], [])

/-- Splits digits off, as many as there are. -/
def splitDigits (cs : List Char) : List Char × List Char :=
  (cs.takeWhile Char.isDigit, cs.dropWhile Char.isDigit)

/-- Splits a point and the digits after it off, if there is a point with a digit after it. -/
def splitFraction : List Char → List Char × List Char
  | '.' :: c :: cs =>
    if c.isDigit then ('.' :: (splitDigits (c :: cs)).1, (splitDigits (c :: cs)).2)
    else ([], '.' :: c :: cs)
  | cs => ([], cs)

/-- Splits the longest number off: a sign, digits and a fraction, all of which may be missing. -/
def splitNumber (cs : List Char) : List Char × List Char :=
  let (sign, cs) := splitSign cs
  let (digits, cs) := splitDigits cs
  let (fraction, cs) := splitFraction cs
  (sign ++ digits ++ fraction, cs)

/-- Splits the longest name off. -/
def splitName (cs : List Char) : List Char × List Char :=
  (cs.takeWhile isNameChar, cs.dropWhile isNameChar)

theorem splitSign_append (cs : List Char) : (splitSign cs).1 ++ (splitSign cs).2 = cs := by
  unfold splitSign
  split
  · split <;> rfl
  · rfl

theorem splitDigits_append (cs : List Char) : (splitDigits cs).1 ++ (splitDigits cs).2 = cs :=
  List.takeWhile_append_dropWhile

theorem splitFraction_append (cs : List Char) :
    (splitFraction cs).1 ++ (splitFraction cs).2 = cs := by
  unfold splitFraction
  split
  · split
    · exact congrArg ('.' :: ·) (splitDigits_append _)
    · rfl
  · rfl

theorem splitName_append (cs : List Char) : (splitName cs).1 ++ (splitName cs).2 = cs :=
  List.takeWhile_append_dropWhile

/-- A number and what follows it are the text they were split from. -/
theorem splitNumber_append (cs : List Char) :
    (splitNumber cs).1 ++ (splitNumber cs).2 = cs := by
  simp only [splitNumber, List.append_assoc, splitFraction_append, splitDigits_append,
    splitSign_append]

/-- What follows a number is not longer than the text. -/
theorem length_splitNumber_le (cs : List Char) : (splitNumber cs).2.length ≤ cs.length := by
  have := congrArg List.length (splitNumber_append cs)
  rw [List.length_append] at this
  omega

/-- What follows a name is shorter than the text the name starts. -/
theorem length_splitName_lt {c : Char} (h : isNameChar c = true) (cs : List Char) :
    (splitName (c :: cs)).2.length < (c :: cs).length := by
  have := congrArg List.length (splitName_append (c :: cs))
  simp only [splitName, List.takeWhile_cons, h, ↓reduceIte, List.length_append,
    List.length_cons] at this ⊢
  omega

/-- The tokens of an upper-case text, up to its comment. -/
def scan : List Char → List Token
  | [] => []
  | c :: cs =>
    if c = ';' ∨ (c = '/' ∧ cs.head? = some '/') then []
    else if isSeparator c then scan cs
    else if c = '#' then
      ⟨.literal, String.ofList ('#' :: (splitNumber cs).1)⟩ :: scan (splitNumber cs).2
    else if _name : isNameChar c then
      match _rest : (splitName (c :: cs)).2 with
      | ':' :: rest => ⟨.label, String.ofList (splitName (c :: cs)).1⟩ :: scan rest
      | rest => ofName (splitName (c :: cs)).1 :: scan rest
    else ⟨.unknown, String.singleton c⟩ :: scan cs
termination_by cs => cs.length
decreasing_by
  · exact Nat.lt_succ_self _
  · exact Nat.lt_succ_of_le (length_splitNumber_le cs)
  · have := length_splitName_lt _name cs
    rw [_rest, List.length_cons] at this
    omega
  · rw [← _rest]
    exact length_splitName_lt _name cs
  · exact Nat.lt_succ_self _

/-- The tokens of a line. -/
def ofLine (line : String) : List Token := scan (upper line.toList)

end RegisterMachine.Token
