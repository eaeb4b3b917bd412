import RegisterMachine.Json.Printer
import RegisterMachine.Machine.Basic

/-!
# Programs and summaries as JSON

A value with alternatives is an object with the alternative's name as its one key, or just the
name if there is nothing more to say. Registers are their numbers.
-/

namespace RegisterMachine.Image

/-- Binary64 numbers have ties rounded to even, at least five places positionally, and a plus sign
before a positive exponent. -/
def floatStyle : Decimal.FloatStyle := ⟨.toEven, -5, .plus⟩

/-- The document of a binary64 number; only finite ones have a numeral. -/
def ofBinary64 (x : Binary64) : Json :=
  if x.isFinite then .number (.ofBinary64 floatStyle x) else .null

/-- The document of a value. -/
def ofValue : Value → Json
  | .int n => .tagged "Int" (.integer n.toInt)
  | .float x => .tagged "Float" (ofBinary64 x)

/-- The document of a register. -/
def ofRegister (r : Register) : Json := .integer r.val

/-- The document of an operand. -/
def ofOperand : Operand → Json
  | .register r => .tagged "Register" (ofRegister r)
  | .literal v => .tagged "Literal" (ofValue v)

/-- The name of a condition. -/
def conditionName : Condition → String
  | .always => "Always"
  | .eq => "Eq"
  | .ne => "Ne"
  | .lt => "Lt"
  | .gt => "Gt"

/-- The document of an instruction. -/
def ofInstruction : Instruction → Json
  | .nop => .text "Nop"
  | .add dst lhs rhs =>
    .tagged "Add" (.fields [("dst", ofRegister dst), ("lhs", ofOperand lhs),
      ("rhs", ofOperand rhs)])
  | .sub dst lhs rhs =>
    .tagged "Sub" (.fields [("dst", ofRegister dst), ("lhs", ofOperand lhs),
      ("rhs", ofOperand rhs)])
  | .cmp lhs rhs => .tagged "Cmp" (.fields [("lhs", ofOperand lhs), ("rhs", ofOperand rhs)])
  | .mov dst src => .tagged "Mov" (.fields [("dst", ofRegister dst), ("src", ofOperand src)])
  | .halt => .text "Halt"
  | .branch condition target =>
    .tagged "Branch" (.fields [("condition", .text (conditionName condition)),
      ("target", .integer target)])

/-- The document of a program, with slot 0. -/
def ofProgram (p : Program) : Json :=
  .fields [("instructions", .array (p.instructions.map ofInstruction))]

/-- The document of a summary. -/
def ofSummary (s : Summary) : Json :=
  .fields [("steps", .integer s.steps), ("flag", .text s.flag.text),
    ("registers", .array (s.registers.toList.map ofValue))]

end RegisterMachine.Image
