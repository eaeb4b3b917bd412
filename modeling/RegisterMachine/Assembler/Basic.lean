import RegisterMachine.Assembler.Link
import RegisterMachine.Typing
import RegisterMachine.Program
import RegisterMachine.Statement.Parser

/-!
# Assembling

One pass over the lines gives every line that is not a label a slot: an instruction, a branch that
waits for its label, or nothing if the line is at fault. Labels point to the slot of the line that
follows them. Then the branches are linked. There is a program if nothing is at fault.
-/

namespace RegisterMachine

/-- What the pass leaves in a slot. -/
inductive Slot
  | ready (i : Instruction)
  | pending
  /-- Kept for a line at fault, so that the slots after it stay in place. -/
  | rejected
  deriving DecidableEq, Repr

/-- The state of the pass: labels, waiting branches, slots from 1 on, the faults of single lines,
and the checker with the faults of operands. -/
structure Assembler where
  labels : LabelTable
  jumps : List PendingJump
  slots : Array Slot
  faults : List Diagnostic
  checker : TypeChecker

namespace Assembler

/-- An assembler before its first line. -/
def empty : Assembler := ⟨∅, [], #[], [], .empty⟩

/-- The slot that the next line takes. -/
def nextIndex (a : Assembler) : Nat := a.slots.size + 1

/-- Takes a slot. -/
def push (a : Assembler) (slot : Slot) : Assembler := { a with slots := a.slots.push slot }

/-- Reports a fault of a line. -/
def report (a : Assembler) (line : SourceLine) (fault : Fault) : Assembler :=
  { a with faults := a.faults ++ [⟨line, fault⟩] }

/-- A label points to the next slot, unless it is declared already. -/
def visitLabel (a : Assembler) (line : SourceLine) (name : String) : Assembler :=
  match a.labels[name]? with
  | some first => a.report line (.duplicateLabel name first.line)
  | none => { a with labels := a.labels.insert name ⟨a.nextIndex, line.number⟩ }

/-- A branch takes a slot and waits for its label. -/
def visitBranch (a : Assembler) (line : SourceLine) (condition : Condition) (target : String) :
    Assembler :=
  let jump : PendingJump := ⟨a.nextIndex, condition, target, line⟩
  { a with jumps := a.jumps ++ [jump] }.push .pending

/-- An operation takes a slot, with its instruction if it is well typed. -/
def visitOperation (a : Assembler) (line : SourceLine) (op : Opcode) (operands : List Operand) :
    Assembler :=
  match a.checker.check line op operands with
  | (false, checker) => { a with checker := checker }.push .rejected
  | (true, checker) =>
    match op.build? operands with
    | some i => { a with checker := checker }.push (.ready i)
    | none => ({ a with checker := checker }.report line (.operandShape op)).push .rejected

/-- The state after a further line. A line at fault takes a slot; one without tokens does not. -/
def visit (a : Assembler) (line : SourceLine) : Assembler :=
  match Statement.ofLine line.text with
  | .ok (some (.label name)) => a.visitLabel line name
  | .ok (some (.branch condition target)) => a.visitBranch line condition target
  | .ok (some (.operation op operands)) => a.visitOperation line op operands
  | .ok none => a
  | .error fault => (a.report line fault).push .rejected

/-- The state after the lines that are not blank. -/
def visitAll (a : Assembler) (source : List String) : Assembler :=
  (Source.numbered source).foldl visit a

/-- The branches of the waiting slots; none if a label is missing. -/
def resolved (a : Assembler) : Std.ExtTreeMap Nat Instruction :=
  match link a.labels a.jumps with
  | .ok branches => branches
  | .error _ => ∅

/-- The reports of branches whose label is missing. -/
def unresolved (a : Assembler) : List Diagnostic :=
  match link a.labels a.jumps with
  | .ok _ => []
  | .error missing => missing

/-- The instruction that a slot ends up with, given those of the waiting ones. -/
def finish? (branches : Std.ExtTreeMap Nat Instruction) (index : Nat) :
    Slot → Option Instruction
  | .ready i => some i
  | .pending => branches[index]?
  | .rejected => none

/-- The instructions of all slots, if every slot has one. -/
def body? (a : Assembler) : Option (List Instruction) :=
  let branches := a.resolved
  (a.slots.toList.zipIdx 1).mapM fun (slot, index) ↦ finish? branches index slot

/-- All that was found at fault, in the order of the lines: on one line first the faults of the
line itself, then those of its operands. -/
def diagnostics (a : Assembler) : List Diagnostic :=
  (a.faults ++ a.unresolved ++ a.checker.diagnostics).mergeSort
    fun d e ↦ d.line.number ≤ e.line.number

/-- The program, if nothing is at fault. -/
def result (a : Assembler) : Except Rejection Program :=
  match a.body?, a.diagnostics with
  | some body, [] => .ok ⟨body.toArray⟩
  | _, diagnostics => .error ⟨diagnostics⟩

/-- The assembler with everything of an earlier source forgotten. -/
def reset (a : Assembler) : Assembler :=
  { a with labels := ∅, jumps := [], slots := #[], faults := [], checker := .empty }

/-- Assembles a source, whatever the assembler was used for before: the outcome, and the assembler
with the labels and branches that it found. -/
def assemble (a : Assembler) (source : List String) : Except Rejection Program × Assembler :=
  let after := a.reset.visitAll source
  (after.result, after)

/-- Assembles the lines of a text. -/
def assembleText (a : Assembler) (text : String) : Except Rejection Program × Assembler :=
  a.assemble (Source.lines text)

end Assembler

/-- The program of a source, given as lines. -/
def assemble (source : List String) : Except Rejection Program :=
  (Assembler.empty.assemble source).1

/-- The program of a source, given as a text. -/
def assembleText (text : String) : Except Rejection Program :=
  (Assembler.empty.assembleText text).1

end RegisterMachine
