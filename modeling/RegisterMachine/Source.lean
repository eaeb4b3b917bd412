import RegisterMachine.Text.Space

/-!
# Source text

A source is a list of lines. A text is cut into lines at its newlines; of those, the assembler
keeps the ones that hold more than white space and a comment, each with its position.
-/

namespace RegisterMachine

/-- A line of the source with its position, counted from 1. -/
structure SourceLine where
  number : Nat
  text : String
  deriving DecidableEq, Repr

namespace Source

open RegisterMachine.Text

/-- The characters before the first comment, which starts with `;` or `//`. -/
def cutComment : List Char → List Char
  | [] => []
  | c :: cs =>
    if c = ';' ∨ (c = '/' ∧ cs.head? = some '/') then [] else c :: cutComment cs

/-- Whether the line holds nothing but white space and a comment. -/
def isBlank (line : String) : Bool := (cutComment line.toList).all isSpace

/-- The line without the carriage return that is its last character, if it is. -/
def dropReturn (line : List Char) : List Char :=
  if line.getLast? = some '\r' then line.dropLast else line

/-- The lines of a text. A newline ends a line together with the carriage return before it; what
follows the last newline is a line only if it is not empty, and keeps its carriage return. -/
def splitLines (cs : List Char) : List (List Char) :=
  match _rest : cs.dropWhile (· != '\n') with
  | [] => if cs.isEmpty then [] else [cs]
  | _ :: more => dropReturn (cs.takeWhile (· != '\n')) :: splitLines more
termination_by cs.length
decreasing_by
  have := (List.dropWhile_suffix (p := (· != '\n')) (l := cs)).length_le
  simp only [_rest, List.length_cons] at this
  omega

/-- The lines of a text. -/
def lines (text : String) : List String := (splitLines text.toList).map String.ofList

/-- The lines that are not blank, each with its position in the list and without the white space
at its end. -/
def numbered (source : List String) : List SourceLine :=
  (source.zipIdx 1).filterMap fun (line, number) ↦
    if isBlank line then none
    else some ⟨number, String.ofList (trimEnd line.toList)⟩

/-- Cutting a comment leaves a beginning of the line. -/
theorem cutComment_isPrefix (cs : List Char) : cutComment cs <+: cs := by
  induction cs with
  | nil => exact List.nil_prefix
  | cons c cs ih =>
    rw [cutComment]
    split
    · exact List.nil_prefix
    · exact List.prefix_cons_inj c |>.mpr ih

/-- A text without a newline is one line, unless it is empty. -/
theorem splitLines_of_not_mem {cs : List Char} (h : '\n' ∉ cs) :
    splitLines cs = if cs.isEmpty then [] else [cs] := by
  have all : ∀ c ∈ cs, (c != '\n') = true := by
    intro c hc
    simpa using fun e : c = '\n' ↦ h (e ▸ hc)
  have drop : cs.dropWhile (· != '\n') = [] := by
    have := @List.dropWhile_append_of_pos Char (· != '\n') cs [] all
    simpa using this
  rw [splitLines]
  split
  · rfl
  · simp_all

/-- A newline ends the first line of a text. -/
theorem splitLines_append_newline {line : List Char} (h : '\n' ∉ line) (rest : List Char) :
    splitLines (line ++ '\n' :: rest) = dropReturn line :: splitLines rest := by
  have all : ∀ c ∈ line, (c != '\n') = true := by
    intro c hc
    simpa using fun e : c = '\n' ↦ h (e ▸ hc)
  have take : (line ++ '\n' :: rest).takeWhile (· != '\n') = line := by
    rw [List.takeWhile_append_of_pos all]
    simp
  have drop : (line ++ '\n' :: rest).dropWhile (· != '\n') = '\n' :: rest := by
    rw [List.dropWhile_append_of_pos all]
    simp
  rw [splitLines]
  split
  · simp_all
  · rename_i c tail e
    rw [drop] at e
    cases e
    rw [take]

end Source

end RegisterMachine
