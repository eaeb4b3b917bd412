import RegisterMachine.Image.Reader
import RegisterMachine.Proofs.Image.Record
import RegisterMachine.Proofs.Json.RoundTrip
import RegisterMachine.Proofs.Program.Literals

/-!
# Written programs read back

Each kind of document that a program is written with reads back, and with them the whole program,
from either layout of its text.
-/

namespace RegisterMachine.Image

/-! ### Numbers -/

theorem readInteger_integer {low high i : Int} (h : low ≤ i ∧ i < high) :
    readInteger low high (.integer i) = .ok i := by
  simp only [Json.integer, readInteger, Decimal.Numeral.integer?_ofInt, h, and_self, ↓reduceIte]

theorem readRegister_ofRegister (r : Register) : readRegister (ofRegister r) = .ok r := by
  have bounds : (0 : Int) ≤ r.val ∧ (r.val : Int) < 256 := by omega
  rw [readRegister, ofRegister, readInteger_integer bounds]
  simp only [Except.bind, Int.toNat_natCast, Register.ofIndex_val]
  rfl

theorem readInt32_integer (n : Int32) : readInt32 (.integer n.toInt) = .ok n := by
  have bounds : -Int.pow 2 31 ≤ n.toInt ∧ n.toInt < Int.pow 2 31 := ⟨n.le_toInt, n.toInt_lt⟩
  rw [readInt32, readInteger_integer bounds]
  simp [Except.map]

theorem readTarget_integer {target : Nat} (h : target < UInt64.size) :
    readTarget (.integer target) = .ok target := by
  have bounds : (0 : Int) ≤ target ∧ (target : Int) < UInt64.size := by omega
  rw [readTarget, readInteger_integer bounds]
  rfl

/-! ### Operands and conditions -/

theorem readValue_ofValue (n : Int32) : readValue (ofValue (.int n)) = .ok (.int n) :=
  readVariant_tagged rfl (by rw [readInt32_integer]; rfl)

/-- An operand reads back, unless it is a binary64 literal. -/
theorem readOperand_ofOperand {o : Operand} (h : o.isIntegral = true) :
    readOperand (ofOperand o) = .ok o := by
  cases o with
  | register r => exact readVariant_tagged rfl (by rw [readRegister_ofRegister]; rfl)
  | literal v => cases v with
    | int n => exact readVariant_tagged rfl (by rw [readValue_ofValue]; rfl)
    | float x => exact absurd h (by simp [Operand.isIntegral])

theorem readCondition_text (c : Condition) : readCondition (.text (conditionName c)) = .ok c := by
  cases c <;> exact readVariant_text rfl

/-! ### Records -/

section
open Fields

variable {lhs rhs : Operand}

theorem reads_comparison (left : lhs.isIntegral = true) (right : rhs.isIntegral = true) :
    comparisonFields.Reads [("lhs", ofOperand lhs), ("rhs", ofOperand rhs)] (lhs, rhs) :=
  (reads_field (readOperand_ofOperand left)).and (reads_field (readOperand_ofOperand right))
    (by simp [field])

theorem reads_arithmetic (dst : Register) (left : lhs.isIntegral = true)
    (right : rhs.isIntegral = true) :
    arithmeticFields.Reads
      [("dst", ofRegister dst), ("lhs", ofOperand lhs), ("rhs", ofOperand rhs)] (dst, lhs, rhs) :=
  (reads_field (readRegister_ofRegister dst)).and (reads_comparison left right) (by simp [field])

theorem reads_move (dst : Register) {src : Operand} (h : src.isIntegral = true) :
    moveFields.Reads [("dst", ofRegister dst), ("src", ofOperand src)] (dst, src) :=
  (reads_field (readRegister_ofRegister dst)).and (reads_field (readOperand_ofOperand h))
    (by simp [field])

theorem reads_branch (condition : Condition) {target : Nat} (h : target < UInt64.size) :
    branchFields.Reads
      [("condition", .text (conditionName condition)), ("target", .integer target)]
      (condition, target) :=
  (reads_field (readCondition_text condition)).and (reads_field (readTarget_integer h))
    (by simp [field])

end

/-! ### Instructions and programs -/

/-- An instruction reads back. -/
theorem readInstruction_ofInstruction {i : Instruction} (integral : i.isIntegral = true)
    (word : i.hasWordTarget = true) : readInstruction (ofInstruction i) = .ok i := by
  have operand : ∀ o ∈ i.operands, o.isIntegral = true := List.all_eq_true.mp integral
  cases i with
  | nop => exact readVariant_text rfl
  | halt => exact readVariant_text rfl
  | add dst lhs rhs =>
    have fields := reads_arithmetic dst (operand lhs (by simp [Instruction.operands]))
      (operand rhs (by simp [Instruction.operands]))
    exact readVariant_tagged rfl (by rw [fields.read_eq]; rfl)
  | sub dst lhs rhs =>
    have fields := reads_arithmetic dst (operand lhs (by simp [Instruction.operands]))
      (operand rhs (by simp [Instruction.operands]))
    exact readVariant_tagged rfl (by rw [fields.read_eq]; rfl)
  | cmp lhs rhs =>
    have fields := reads_comparison (operand lhs (by simp [Instruction.operands]))
      (operand rhs (by simp [Instruction.operands]))
    exact readVariant_tagged rfl (by rw [fields.read_eq]; rfl)
  | mov dst src =>
    have fields := reads_move dst (operand src (by simp [Instruction.operands]))
    exact readVariant_tagged rfl (by rw [fields.read_eq]; rfl)
  | branch condition target =>
    have fields := reads_branch condition (of_decide_eq_true word)
    exact readVariant_tagged rfl (by rw [fields.read_eq]; rfl)

variable {p : Program}

/-- The slots of a program read back. -/
theorem readProgram_ofProgram (integral : ∀ i ∈ p.body, i.isIntegral = true)
    (word : ∀ i ∈ p.body, i.hasWordTarget = true) : readProgram (ofProgram p) = .ok p := by
  have slots : readArray readInstruction (.array (p.instructions.map ofInstruction)) =
      .ok p.instructions := readArray_map fun i member ↦ by
    rcases List.mem_cons.mp member with rfl | member
    · exact readInstruction_ofInstruction rfl rfl
    · have body := Array.mem_toList_iff.mp member
      exact readInstruction_ofInstruction (integral i body) (word i body)
  rw [readProgram, ofProgram, (Fields.reads_field slots).read_eq]
  simp only [Except.bind, Program.instructions, programOf]
  rw [← Program.instructions, Program.ofInstructions?_instructions]

/-! ### Texts -/

open Json

theorem printable_ofOperand {o : Operand} (h : o.isIntegral = true) : Printable (ofOperand o) := by
  cases o with
  | register r => exact printable_tagged (printable_integer r.val)
  | literal v => cases v with
    | int n => exact printable_tagged (printable_tagged (printable_integer n.toInt))
    | float x => exact absurd h (by simp [Operand.isIntegral])

theorem printable_ofInstruction {i : Instruction} (integral : i.isIntegral = true) :
    Printable (ofInstruction i) := by
  have operand : ∀ o ∈ i.operands, Printable (ofOperand o) := fun o member ↦
    printable_ofOperand (List.all_eq_true.mp integral o member)
  cases i <;> simp only [Instruction.operands, List.forall_mem_cons] at operand
  case nop => exact .text "Nop"
  case halt => exact .text "Halt"
  all_goals
    refine printable_tagged (printable_fields ?_)
    simp [operand, ofRegister, printable_integer, Printable.text]

/-- The document of a program can be written. -/
theorem printable_ofProgram (integral : ∀ i ∈ p.body, i.isIntegral = true) :
    Printable (ofProgram p) := by
  refine printable_tagged (.array fun j member ↦ ?_)
  obtain ⟨i, slot, rfl⟩ := List.mem_map.mp member
  rcases List.mem_cons.mp slot with rfl | body
  · exact .text "Nop"
  · exact printable_ofInstruction (integral i (Array.mem_toList_iff.mp body))

theorem ofText_of_read {text : String} (document : Json.read text = (ofProgram p, []))
    (read : readProgram (ofProgram p) = .ok p) : ofText text = .ok p := by
  simp only [ofText, document, read]
  rfl

/-- A program reads back from either layout of its text, if its literals are integers and its
branches go to slots that a 64-bit word can name. -/
theorem ofText_ofProgram (p : Program) (integral : ∀ i ∈ p.body, i.isIntegral = true)
    (word : ∀ i ∈ p.body, i.hasWordTarget = true) :
    ofText (ofProgram p).compactText = .ok p ∧ ofText (ofProgram p).prettyText = .ok p := by
  have document := printable_ofProgram integral
  have program := readProgram_ofProgram integral word
  exact ⟨ofText_of_read document.read_compactText program,
    ofText_of_read document.read_prettyText program⟩

/-- A program of every kind of instruction. -/
def everyKind (r : Register) (n : Int32) (target : Nat) : Program where
  body := #[.mov r (.literal (.int n)), .add r (.register r) (.literal (.int n)),
    .sub r (.literal (.int n)) (.register r), .cmp (.register r) (.literal (.int n)),
    .branch .lt target, .branch .always target, .nop, .halt]

/-- The last register, the least integer and the largest word read back. -/
theorem ofText_everyKind :
    let p := everyKind 15 (-2147483648) 18446744073709551615
    (∀ i ∈ p.body, i.isIntegral = true) ∧ (∀ i ∈ p.body, i.hasWordTarget = true) ∧
      ofText (ofProgram p).compactText = .ok p ∧ ofText (ofProgram p).prettyText = .ok p := by
  intro p
  have integral : ∀ i ∈ p.body, i.isIntegral = true := by decide
  have word : ∀ i ∈ p.body, i.hasWordTarget = true := by decide
  exact ⟨integral, word, ofText_ofProgram p integral word⟩

end RegisterMachine.Image
