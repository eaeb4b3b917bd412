import RegisterMachine.Operand.Class

/-!
# Opcodes

The operations a source line can name, the classes of operands that each takes, and the
instruction that an operation and its operands make.
-/

namespace RegisterMachine

/-- An operation of the assembly language, other than a branch. -/
inductive Opcode
  | add
  | sub
  | cmp
  | mov
  | halt
  deriving DecidableEq, Repr

namespace Opcode

/-- The word for the operation. -/
def mnemonic : Opcode → String
  | add => "ADD"
  | sub => "SUB"
  | cmp => "CMP"
  | mov => "MOV"
  | halt => "HALT"

/-- The operation with the given word. -/
def ofMnemonic? (name : String) : Option Opcode :=
  if name = "ADD" then some add
  else if name = "SUB" then some sub
  else if name = "CMP" then some cmp
  else if name = "MOV" then some mov
  else if name = "HALT" then some halt
  else none

/-- The classes that each position takes. -/
def signature : Opcode → List ClassSet
  | add | sub => [.register, .union .register .integer, .union .register .integer]
  | cmp => [.union .register .numeric, .union .register .numeric]
  | mov => [.register, .union .register .numeric]
  | halt => [.none]

/-- The instruction of the operation on its operands, if they have its shape. -/
def build? : Opcode → List Operand → Option Instruction
  | add, [.register dst, lhs, rhs] => some (.add dst lhs rhs)
  | sub, [.register dst, lhs, rhs] => some (.sub dst lhs rhs)
  | cmp, [lhs, rhs] => some (.cmp lhs rhs)
  | mov, [.register dst, src] => some (.mov dst src)
  | halt, [] => some .halt
  | _, _ => none

/-- A word names an operation exactly if it is that operation's word. -/
theorem ofMnemonic?_eq_some_iff {name : String} {op : Opcode} :
    ofMnemonic? name = some op ↔ op.mnemonic = name := by
  unfold ofMnemonic?
  cases op <;> simp only [mnemonic] <;> grind

end Opcode

end RegisterMachine
