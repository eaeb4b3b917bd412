import Mathlib.Data.List.Induction
import RegisterMachine.Proofs.Source.Context

/-!
# Positions in a source

The lines that are kept carry the positions they have in the source, and the lines that are dropped
take no slot. So the slots that the kept lines above a line take are those that all lines above it
take.
-/

namespace RegisterMachine.Source

/-- The line at an index of the source, as it is kept. -/
def lineAt (index : Nat) (text : String) : SourceLine :=
  ⟨index + 1, String.ofList (Text.trimEnd text.toList)⟩

/-- Whether a line takes a slot. A line at fault takes one to keep its place. -/
def takesSlot (text : String) : Bool :=
  match Statement.ofLine text with
  | .ok (some statement) => statement.takesSlot
  | .ok none => false
  | .error _ => true

/-- A blank line takes no slot. -/
theorem takesSlot_of_isBlank {text : String} (h : isBlank text = true) :
    takesSlot text = false := by
  rw [takesSlot, Statement.ofLine_of_isBlank h]

/-- A line reads as it does when it is kept. -/
@[simp] theorem ofLine_lineAt (index : Nat) (text : String) :
    Statement.ofLine (lineAt index text).text = Statement.ofLine text :=
  Statement.ofLine_trimEnd text

/-- A line takes a slot exactly if it does as it is kept. -/
@[simp] theorem takesSlot_lineAt (index : Nat) (text : String) :
    (lineAt index text).takesSlot = takesSlot text := by
  cases reads : Statement.ofLine text using Statement.reading_cases with
  | error fault | empty | label name | branch condition target | operation op operands =>
    simp only [SourceLine.takesSlot, takesSlot, ofLine_lineAt, reads]

/-- A line says what it says as it is kept. -/
@[simp] theorem says?_lineAt (index : Nat) (text : String) :
    says? (lineAt index text) = statement? text :=
  statement?_trimEnd text

/-- A line declares a label exactly if it says so. -/
theorem declares_lineAt {index : Nat} {text name : String} :
    (lineAt index text).declares name = true ↔ statement? text = some (.label name) := by
  rw [SourceLine.declares_iff, ← says?_eq_some_iff, says?_lineAt]

@[simp] theorem numbered_nil : numbered [] = [] := rfl

/-- A further line is kept with its position, unless it is blank. -/
theorem numbered_append_singleton (source : List String) (text : String) :
    numbered (source ++ [text]) =
      numbered source ++ if isBlank text then [] else [lineAt source.length text] := by
  rw [numbered, List.zipIdx_append, List.filterMap_append, ← numbered, Nat.add_comm]
  congr 1
  cases blank : isBlank text <;> simp [blank, lineAt]

/-- The lines that are kept take the slots of the source. -/
theorem slotAfter_numbered (source : List String) :
    slotAfter (numbered source) = source.countP takesSlot + 1 := by
  rw [slotAfter]
  congr 1
  induction source using List.reverseRecOn with
  | nil => rfl
  | append_singleton source text ih =>
    rw [numbered_append_singleton, List.countP_append, List.countP_append, ih]
    cases blank : isBlank text with
    | true => simp [takesSlot_of_isBlank blank]
    | false => simp [List.countP_cons]

end RegisterMachine.Source
