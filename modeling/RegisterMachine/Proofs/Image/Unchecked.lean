import Mathlib.Tactic.SplitIfs
import RegisterMachine.Image.Reader
import RegisterMachine.Proofs.Image.Narrowing

/-!
# Programs read without checks

What a text says before it is known to be a program: a register is any byte, and slot 0 holds
anything. Reading a program is reading such slots and checking them (`narrows_readProgram`).
-/

namespace RegisterMachine.Image.Unchecked

/-- An operand; a register is a byte. -/
inductive Operand
  | register (index : UInt8)
  | literal (v : Value)
  deriving DecidableEq, Repr

/-- An instruction; registers are bytes, and targets words. -/
inductive Instruction
  | nop
  | add (dst : UInt8) (lhs rhs : Operand)
  | sub (dst : UInt8) (lhs rhs : Operand)
  | cmp (lhs rhs : Operand)
  | mov (dst : UInt8) (src : Operand)
  | halt
  | branch (condition : Condition) (target : UInt64)
  deriving DecidableEq, Repr

/-! ### Reading -/

/-- Reads a byte for a register. -/
def readRegister : Reader UInt8 := fun document ↦
  (readInteger 0 256 document).map fun i ↦ UInt8.ofNat i.toNat

/-- Reads a branch target, a 64-bit word. -/
def readTarget : Reader UInt64 := fun document ↦
  (readInteger 0 UInt64.size document).map fun i ↦ UInt64.ofNat i.toNat

/-- Reads an operand. -/
def readOperand : Reader Operand :=
  readVariant fun name ↦
    if name = "Register" then
      some (.holding fun content ↦ (readRegister content).map .register)
    else if name = "Literal" then
      some (.holding fun content ↦ (readValue content).map .literal)
    else none

/-- The fields of an addition or subtraction. -/
def arithmeticFields : Fields (UInt8 × Operand × Operand) :=
  (Fields.field "dst" readRegister).and
    ((Fields.field "lhs" readOperand).and (Fields.field "rhs" readOperand))

/-- The fields of a comparison. -/
def comparisonFields : Fields (Operand × Operand) :=
  (Fields.field "lhs" readOperand).and (Fields.field "rhs" readOperand)

/-- The fields of a move. -/
def moveFields : Fields (UInt8 × Operand) :=
  (Fields.field "dst" readRegister).and (Fields.field "src" readOperand)

/-- The fields of a branch. -/
def branchFields : Fields (Condition × UInt64) :=
  (Fields.field "condition" readCondition).and (Fields.field "target" readTarget)

/-- Reads an instruction. -/
def readInstruction : Reader Instruction :=
  readVariant fun name ↦
    if name = "Nop" then some (.bare .nop)
    else if name = "Add" then
      some (.holding fun content ↦
        (arithmeticFields.read content).map fun (dst, lhs, rhs) ↦ .add dst lhs rhs)
    else if name = "Sub" then
      some (.holding fun content ↦
        (arithmeticFields.read content).map fun (dst, lhs, rhs) ↦ .sub dst lhs rhs)
    else if name = "Cmp" then
      some (.holding fun content ↦
        (comparisonFields.read content).map fun (lhs, rhs) ↦ .cmp lhs rhs)
    else if name = "Mov" then
      some (.holding fun content ↦
        (moveFields.read content).map fun (dst, src) ↦ .mov dst src)
    else if name = "Halt" then some (.bare .halt)
    else if name = "Branch" then
      some (.holding fun content ↦
        (branchFields.read content).map fun (condition, target) ↦ .branch condition target)
    else none

/-- Reads the slots of a program. -/
def readSlots : Reader (List Instruction) :=
  (Fields.field "instructions" (readArray readInstruction)).read

/-- The slots that a text describes; nothing but blanks may follow. -/
def ofText (text : String) : Except ReadError (List Instruction) :=
  let (document, rest) := Json.read text
  (readSlots document).bind fun slots ↦
    if (Json.skipBlanks rest).isEmpty then .ok slots else .error .malformed

/-! ### Checking -/

/-- The register that a byte names. -/
def checkRegister? (index : UInt8) : Option Register := (Register.ofIndex index.toNat).toOption

/-- The operand, if its register exists. -/
def Operand.check? : Operand → Option RegisterMachine.Operand
  | register index => (checkRegister? index).map .register
  | literal v => some (.literal v)

/-- The instruction, if all its registers exist. -/
def Instruction.check? : Instruction → Option RegisterMachine.Instruction
  | nop => some .nop
  | add dst lhs rhs =>
    (pair? (checkRegister? dst) (pair? lhs.check? rhs.check?)).map
      fun (dst, lhs, rhs) ↦ .add dst lhs rhs
  | sub dst lhs rhs =>
    (pair? (checkRegister? dst) (pair? lhs.check? rhs.check?)).map
      fun (dst, lhs, rhs) ↦ .sub dst lhs rhs
  | cmp lhs rhs => (pair? lhs.check? rhs.check?).map fun (lhs, rhs) ↦ .cmp lhs rhs
  | mov dst src => (pair? (checkRegister? dst) src.check?).map fun (dst, src) ↦ .mov dst src
  | halt => some .halt
  | branch condition target => some (.branch condition target.toNat)

/-- The program that slots are, if all registers exist and slot 0 does nothing. -/
def check? (slots : List Instruction) : Option Program :=
  (slots.mapM Instruction.check?).bind Program.ofInstructions?

/-- What is read of an integer is in its range. -/
theorem bounds_of_readInteger_eq_ok {low high i : Int} {document : Json}
    (h : readInteger low high document = .ok i) : low ≤ i ∧ i < high := by
  unfold readInteger at h
  split at h
  · split at h
    · split at h
      · next bounds => exact Except.ok.inj h ▸ bounds
      · cases h
    · cases h
  · cases h

theorem narrows_readRegister : Narrows checkRegister? Image.readRegister readRegister := by
  intro document
  rw [Image.readRegister, readRegister, toOption_map, toOption_bind]
  cases read : readInteger 0 256 document with
  | error e => rfl
  | ok i =>
    have bounds := bounds_of_readInteger_eq_ok read
    have byte : (UInt8.ofNat i.toNat).toNat = i.toNat := UInt8.toNat_ofNat_of_lt (by
      show i.toNat < 256
      omega)
    show ((Register.ofIndex i.toNat).mapError _).toOption = checkRegister? (UInt8.ofNat i.toNat)
    rw [checkRegister?, byte]
    cases Register.ofIndex i.toNat <;> rfl

theorem narrows_readTarget :
    Narrows (fun target ↦ some target.toNat) Image.readTarget readTarget := by
  intro document
  rw [Image.readTarget, readTarget, toOption_map, toOption_map]
  cases read : readInteger 0 UInt64.size document with
  | error e => rfl
  | ok i =>
    have bounds := bounds_of_readInteger_eq_ok read
    have word : (UInt64.ofNat i.toNat).toNat = i.toNat := UInt64.toNat_ofNat_of_lt (by omega)
    exact congrArg some word.symm

theorem narrows_readOperand : Narrows Operand.check? Image.readOperand readOperand := by
  apply narrows_readVariant
  intro name
  split_ifs
  · exact .holding (narrows_readRegister.map fun index ↦ rfl)
  · exact .holding ((narrows_some readValue).map fun v ↦ rfl)
  · exact .unknown

theorem narrows_readInstruction :
    Narrows Instruction.check? Image.readInstruction readInstruction := by
  have arithmetic := ((Fields.narrows_field "dst" narrows_readRegister).and
    ((Fields.narrows_field "lhs" narrows_readOperand).and
      (Fields.narrows_field "rhs" narrows_readOperand))).read
  have comparison := ((Fields.narrows_field "lhs" narrows_readOperand).and
    (Fields.narrows_field "rhs" narrows_readOperand)).read
  have move := ((Fields.narrows_field "dst" narrows_readRegister).and
    (Fields.narrows_field "src" narrows_readOperand)).read
  have branch := ((Fields.narrows_field "condition" (narrows_some readCondition)).and
    (Fields.narrows_field "target" narrows_readTarget)).read
  apply narrows_readVariant
  intro name
  split_ifs
  · exact .bare rfl
  · exact .holding (arithmetic.map fun e ↦ rfl)
  · exact .holding (arithmetic.map fun e ↦ rfl)
  · exact .holding (comparison.map fun e ↦ rfl)
  · exact .holding (move.map fun e ↦ rfl)
  · exact .bare rfl
  · exact .holding (branch.map fun e ↦ rfl)
  · exact .unknown

/-- A program is read as slots, with their registers checked and what is in slot 0. -/
theorem narrows_readProgram : Narrows check? readProgram readSlots := by
  intro document
  have slots := (Fields.narrows_field "instructions"
    (narrows_readArray narrows_readInstruction)).read document
  have programs (slots : List RegisterMachine.Instruction) :
      (programOf slots).toOption = Program.ofInstructions? slots := by
    cases slots with
    | nil => rfl
    | cons first rest =>
      rw [programOf]
      cases Program.ofInstructions? (first :: rest) <;> rfl
  rw [readProgram, toOption_bind, slots, Option.bind_assoc]
  simp only [programs]
  rfl

/-- A text is read as slots, with their registers checked and what is in slot 0. -/
theorem toOption_ofText (text : String) :
    (Image.ofText text).toOption = (ofText text).toOption.bind check? := by
  have read := narrows_readProgram (Json.read text).1
  simp only [Image.ofText, ofText, toOption_bind, read]
  split
  · show Option.bind _ some = (Option.bind _ some).bind _
    rw [Option.bind_fun_some, Option.bind_fun_some]
  · show Option.bind _ (fun _ ↦ none) = (Option.bind _ fun _ ↦ none).bind _
    rw [Option.bind_fun_none, Option.bind_fun_none]
    rfl

end RegisterMachine.Image.Unchecked
