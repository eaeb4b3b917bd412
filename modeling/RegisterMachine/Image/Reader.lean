import RegisterMachine.Image.Record
import RegisterMachine.Image.Writer

/-!
# Programs from JSON

Reads what the writer writes, and other texts of the same content. Register numbers are checked
where they stand; that slot 0 does nothing is checked once all instructions are read.
-/

namespace RegisterMachine.Image

/-- Reads a register: a byte, and a register's number. -/
def readRegister : Reader Register := fun document ↦
  (readInteger 0 256 document).bind fun i ↦
    (Register.ofIndex i.toNat).mapError ReadError.registerOutOfRange

/-- Reads a 32-bit integer. -/
def readInt32 : Reader Int32 := fun document ↦
  (readInteger (-Int.pow 2 31) (Int.pow 2 31) document).map Int32.ofInt

/-- Reads a branch target, a 64-bit word. -/
def readTarget : Reader Nat := fun document ↦
  (readInteger 0 UInt64.size document).map Int.toNat

/-- Reads a binary64 number. -/
def readBinary64 : Reader Binary64
  | .number n =>
    match n.binary64? with
    | some x => .ok x
    | none => .error .malformed
  | _ => .error .malformed

/-- Reads a value. -/
def readValue : Reader Value :=
  readVariant fun name ↦
    if name = "Int" then some (.holding fun content ↦ (readInt32 content).map .int)
    else if name = "Float" then some (.holding fun content ↦ (readBinary64 content).map .float)
    else none

/-- Reads an operand. -/
def readOperand : Reader Operand :=
  readVariant fun name ↦
    if name = "Register" then
      some (.holding fun content ↦ (readRegister content).map .register)
    else if name = "Literal" then
      some (.holding fun content ↦ (readValue content).map .literal)
    else none

/-- Reads a condition. -/
def readCondition : Reader Condition :=
  readVariant fun name ↦
    ([.always, .eq, .ne, .lt, .gt].find? fun c ↦ conditionName c == name).map .bare

/-- The fields of an addition or subtraction. -/
def arithmeticFields : Fields (Register × Operand × Operand) :=
  (Fields.field "dst" readRegister).and
    ((Fields.field "lhs" readOperand).and (Fields.field "rhs" readOperand))

/-- The fields of a comparison. -/
def comparisonFields : Fields (Operand × Operand) :=
  (Fields.field "lhs" readOperand).and (Fields.field "rhs" readOperand)

/-- The fields of a move. -/
def moveFields : Fields (Register × Operand) :=
  (Fields.field "dst" readRegister).and (Fields.field "src" readOperand)

/-- The fields of a branch. -/
def branchFields : Fields (Condition × Nat) :=
  (Fields.field "condition" readCondition).and (Fields.field "target" readTarget)

/-- Reads an instruction. -/
def readInstruction : Reader Instruction :=
  readVariant fun name ↦
    if name = "Nop" then some (.bare .nop)
    else if name = "Add" then
      some (.holding fun content ↦
        (arithmeticFields.read content).map fun (dst, lhs, rhs) ↦ .add dst lhs rhs)
    else if name = "Sub" then
      some (.holding fun content ↦
        (arithmeticFields.read content).map fun (dst, lhs, rhs) ↦ .sub dst lhs rhs)
    else if name = "Cmp" then
      some (.holding fun content ↦
        (comparisonFields.read content).map fun (lhs, rhs) ↦ .cmp lhs rhs)
    else if name = "Mov" then
      some (.holding fun content ↦
        (moveFields.read content).map fun (dst, src) ↦ .mov dst src)
    else if name = "Halt" then some (.bare .halt)
    else if name = "Branch" then
      some (.holding fun content ↦
        (branchFields.read content).map fun (condition, target) ↦ .branch condition target)
    else none

/-- The program with the given slots. -/
def programOf : List Instruction → Except ReadError Program
  | [] => .error .missingSlotZero
  | first :: rest =>
    match Program.ofInstructions? (first :: rest) with
    | some p => .ok p
    | none => .error (.slotZeroTaken first)

/-- Reads a program. -/
def readProgram : Reader Program := fun document ↦
  ((Fields.field "instructions" (readArray readInstruction)).read document).bind programOf

/-- The program that a text describes; nothing but blanks may follow it. -/
def ofText (text : String) : Except ReadError Program :=
  let (document, rest) := Json.read text
  (readProgram document).bind fun p ↦
    if (Json.skipBlanks rest).isEmpty then .ok p else .error .malformed

end RegisterMachine.Image
