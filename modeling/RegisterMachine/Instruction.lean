import RegisterMachine.Value

/-!
# Instructions

The instructions of the machine, with operands that are already known to fit, and their texts.
Branches name their target by its slot.
-/

namespace RegisterMachine

/-- A register, `R0` to `R15`. -/
abbrev Register := Fin 16

namespace Register

/-- A register number of 16 or more. -/
structure OutOfRange where
  index : Nat
  deriving DecidableEq, Repr

/-- What is said of a register number that is too large. -/
def OutOfRange.message (e : OutOfRange) : String :=
  "register index " ++ String.ofList (Decimal.digits e.index) ++ " out of range"

/-- The register with the given number. -/
def ofIndex (index : Nat) : Except OutOfRange Register :=
  if h : index < 16 then .ok ⟨index, h⟩ else .error ⟨index⟩

/-- The text of a register. -/
def text (r : Register) : String := "R" ++ String.ofList (Decimal.digits r.val)

/-- The number of a register gives that register. -/
theorem ofIndex_val (r : Register) : ofIndex r.val = .ok r := by
  simp [ofIndex, r.isLt]

end Register

/-- An operand: a register, for what it holds, or a literal. -/
inductive Operand
  | register (r : Register)
  | literal (v : Value)
  deriving DecidableEq, Repr

namespace Operand

/-- The text of an operand. -/
def text : Operand → String
  | register r => Register.text r
  | literal v => "#" ++ v.text

end Operand

/-- When a branch is taken. -/
inductive Condition
  | always
  | eq
  | ne
  | lt
  | gt
  deriving DecidableEq, Repr

namespace Condition

/-- The word for the condition after `B`; there is none for `always`. -/
def mnemonic? : Condition → Option String
  | always => none
  | eq => some "EQ"
  | ne => some "NE"
  | lt => some "LT"
  | gt => some "GT"

/-- The condition with the given word. -/
def ofMnemonic? (name : String) : Option Condition :=
  if name = "EQ" then some eq
  else if name = "NE" then some ne
  else if name = "GT" then some gt
  else if name = "LT" then some lt
  else none

/-- A word names a condition exactly if it is that condition's word. -/
theorem ofMnemonic?_eq_some_iff {name : String} {c : Condition} :
    ofMnemonic? name = some c ↔ c.mnemonic? = some name := by
  unfold ofMnemonic?
  cases c <;> simp only [mnemonic?] <;> grind

end Condition

/-- An instruction. -/
inductive Instruction
  /-- Does nothing; it fills slot 0 of every program. -/
  | nop
  | add (dst : Register) (lhs rhs : Operand)
  | sub (dst : Register) (lhs rhs : Operand)
  | cmp (lhs rhs : Operand)
  | mov (dst : Register) (src : Operand)
  | halt
  | branch (condition : Condition) (target : Nat)
  deriving DecidableEq, Repr

namespace Instruction

/-- The text of an instruction. -/
def text : Instruction → String
  | nop => "NOP"
  | add dst lhs rhs => "ADD " ++ Register.text dst ++ ", " ++ lhs.text ++ ", " ++ rhs.text
  | sub dst lhs rhs => "SUB " ++ Register.text dst ++ ", " ++ lhs.text ++ ", " ++ rhs.text
  | cmp lhs rhs => "CMP " ++ lhs.text ++ ", " ++ rhs.text
  | mov dst src => "MOV " ++ Register.text dst ++ ", " ++ src.text
  | halt => "HALT"
  | branch condition target =>
    "B " ++ (condition.mnemonic?.map (· ++ " ")).getD "" ++ "@" ++
      String.ofList (Decimal.digits target)

end Instruction

end RegisterMachine
