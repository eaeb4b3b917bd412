import RegisterMachine.Program

/-!
# Literals and targets

What the instructions of a program contain: the registers that they write, their operands, whether
they compare these, and whether the numbers in them are integers and 64-bit words.
-/

namespace RegisterMachine

/-- Whether the operand is no binary64 literal. -/
def Operand.isIntegral : Operand → Bool
  | .literal (.float _) => false
  | _ => true

namespace Instruction

/-- The register that an instruction writes. -/
def destination? : Instruction → Option Register
  | add dst _ _ | sub dst _ _ | mov dst _ => some dst
  | nop | cmp _ _ | halt | branch _ _ => none

/-- The operands of an instruction that are read. -/
def operands : Instruction → List Operand
  | add _ lhs rhs | sub _ lhs rhs | cmp lhs rhs => [lhs, rhs]
  | mov _ src => [src]
  | nop | halt | branch _ _ => []

/-- Whether no operand is a binary64 literal. -/
def isIntegral (i : Instruction) : Bool := i.operands.all Operand.isIntegral

/-- Whether the instruction compares two values. -/
def isComparison : Instruction → Bool
  | cmp _ _ => true
  | _ => false

/-- Whether a branch goes to a slot that a 64-bit word can name. -/
def hasWordTarget : Instruction → Bool
  | branch _ target => target < UInt64.size
  | _ => true

end Instruction

end RegisterMachine
