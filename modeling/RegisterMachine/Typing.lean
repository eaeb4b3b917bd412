import RegisterMachine.Diagnostic

/-!
# Type checking

An operation is well typed if every operand's class is in the set at its position, every position
that takes an operand has one, and there is none beyond the positions. The checker collects a
diagnostic for each position at fault.
-/

namespace RegisterMachine

namespace Opcode

/-- The set that a position takes; there is nothing to take beyond the signature. -/
def expectedAt (op : Opcode) (index : Nat) : ClassSet := op.signature[index]?.getD .none

/-- The number of positions that are checked. -/
def positions (op : Opcode) (operands : List Operand) : Nat :=
  max op.signature.length operands.length

/-- The set of the operand's class at a position; a missing operand has none. -/
def actualAt (operands : List Operand) (index : Nat) : ClassSet :=
  (operands[index]?.map fun operand ↦ (OperandClass.of operand).set).getD .none

/-- Whether what stands at a position fits it. A missing operand only fits a position that takes
none. -/
def fits (expected actual : ClassSet) : Bool :=
  expected.includes actual && (actual != .none || expected == .none)

/-- The positions at fault, in ascending order. -/
def misfits (op : Opcode) (operands : List Operand) : List Nat :=
  (List.range (op.positions operands)).filter fun index ↦
    !fits (op.expectedAt index) (actualAt operands index)

/-- The fault of a position. -/
def misfit (op : Opcode) (operands : List Operand) (index : Nat) : Fault :=
  .invalidArgument index (actualAt operands index).describe op (op.expectedAt index).describe

end Opcode

/-- A type checker with what it has found so far. -/
structure TypeChecker where
  diagnostics : List Diagnostic
  deriving DecidableEq, Repr

namespace TypeChecker

/-- A checker that has found nothing. -/
def empty : TypeChecker := ⟨[]⟩

/-- Checks an operation: whether it is well typed, and the checker with a diagnostic for every
position at fault. -/
def check (checker : TypeChecker) (line : SourceLine) (op : Opcode) (operands : List Operand) :
    Bool × TypeChecker :=
  let misfits := op.misfits operands
  (misfits.isEmpty,
    ⟨checker.diagnostics ++ misfits.map fun index ↦ ⟨line, op.misfit operands index⟩⟩)

end TypeChecker

end RegisterMachine
