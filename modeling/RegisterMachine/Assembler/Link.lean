import Std.Data.ExtTreeMap
import RegisterMachine.Diagnostic

/-!
# Linking

A branch names a label and waits for the slot of that label. Linking finds the slots of all
branches, or reports every branch whose label was never declared.
-/

namespace RegisterMachine

/-- Where a label points, and the line that declares it. -/
structure LabelEntry where
  index : Nat
  line : Nat
  deriving DecidableEq, Repr

/-- The declared labels. -/
abbrev LabelTable := Std.ExtTreeMap String LabelEntry

/-- A branch at a slot that waits for the slot of its label. -/
structure PendingJump where
  index : Nat
  condition : Condition
  label : String
  source : SourceLine
  deriving DecidableEq, Repr

namespace PendingJump

/-- The branch with its target, if the label is declared. -/
def resolve? (labels : LabelTable) (jump : PendingJump) : Option Instruction :=
  labels[jump.label]?.map fun entry ↦ .branch jump.condition entry.index

/-- The report of a branch whose label is not declared. -/
def unresolved (jump : PendingJump) : Diagnostic := ⟨jump.source, .unresolvedLabel jump.label⟩

end PendingJump

/-- The branches whose label is not declared. -/
def unresolvedJumps (labels : LabelTable) (jumps : List PendingJump) : List PendingJump :=
  jumps.filter fun jump ↦ !labels.contains jump.label

/-- The instruction of every pending branch by its slot, the last one of a slot that is named
twice; or a report of every branch whose label is not declared, in the order of the branches. -/
def link (labels : LabelTable) (jumps : List PendingJump) :
    Except (List Diagnostic) (Std.ExtTreeMap Nat Instruction) :=
  match unresolvedJumps labels jumps with
  | [] =>
    .ok (jumps.foldl (fun resolved jump ↦
      match jump.resolve? labels with
      | some branch => resolved.insert jump.index branch
      | none => resolved) ∅)
  | missing => .error (missing.map PendingJump.unresolved)

end RegisterMachine
