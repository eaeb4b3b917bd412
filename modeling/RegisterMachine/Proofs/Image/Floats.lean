import RegisterMachine.Proofs.Decimal.Rereading
import RegisterMachine.Proofs.Image.RoundTrip

/-!
# Written binary64 literals read back

A finite literal is read back as a finite literal of the same sign, at most four steps away. It is
the same literal if its digits and their power of ten are binary64 numbers; other digits are
rounded once too often, and some literals of sixteen or seventeen digits come back as a neighbour.
-/

namespace RegisterMachine.Image

open Decimal (reread)

section
variable {x : Binary64} (finite : x.isFinite = true)
include finite

/-! ### Reading -/

theorem readBinary64_ofBinary64 : readBinary64 (ofBinary64 x) = .ok (reread floatStyle x) := by
  have sign : floatStyle.exponentSign ≠ .minus := by decide
  rw [ofBinary64, if_pos finite, readBinary64, Decimal.binary64?_ofBinary64 sign finite]

theorem readOperand_float : readOperand (ofOperand (.literal (.float x))) =
    .ok (.literal (.float (reread floatStyle x))) := by
  have value : readValue (ofValue (.float x)) = .ok (.float (reread floatStyle x)) :=
    readVariant_tagged rfl (by rw [readBinary64_ofBinary64 finite]; rfl)
  exact readVariant_tagged rfl (by rw [value]; rfl)

theorem readInstruction_mov_float (r : Register) :
    readInstruction (ofInstruction (.mov r (.literal (.float x)))) =
      .ok (.mov r (.literal (.float (reread floatStyle x)))) := by
  have fields : moveFields.Reads
      [("dst", ofRegister r), ("src", ofOperand (.literal (.float x)))]
      (r, .literal (.float (reread floatStyle x))) :=
    (Fields.reads_field (readRegister_ofRegister r)).and
      (Fields.reads_field (readOperand_float finite)) (by simp [Fields.field])
  exact readVariant_tagged rfl (by rw [fields.read_eq]; rfl)

end

/-! ### Programs -/

/-- The program that moves a binary64 number to a register. -/
def loading (r : Register) (x : Binary64) : Program where
  body := #[.mov r (.literal (.float x))]

section
variable {x : Binary64} (finite : x.isFinite = true) (r : Register)
include finite

theorem readProgram_loading :
    readProgram (ofProgram (loading r x)) = .ok (loading r (reread floatStyle x)) := by
  have slots : readArray readInstruction
      (.array [ofInstruction .nop, ofInstruction (.mov r (.literal (.float x)))]) =
        .ok [.nop, .mov r (.literal (.float (reread floatStyle x)))] := by
    have nop := readInstruction_ofInstruction (i := .nop) rfl rfl
    simp only [readArray, List.mapM_cons, List.mapM_nil, nop,
      readInstruction_mov_float finite r]
    rfl
  rw [readProgram, show ofProgram (loading r x) = .fields [("instructions", .array
      [ofInstruction .nop, ofInstruction (.mov r (.literal (.float x)))])] from rfl,
    (Fields.reads_field slots).read_eq]
  rfl

open Json in
theorem printable_loading : Printable (ofProgram (loading r x)) := by
  have literal : Printable (ofBinary64 x) := by
    rw [ofBinary64, if_pos finite]
    exact .number (Decimal.Numeral.isNumber_ofBinary64 floatStyle finite)
  refine printable_tagged (.array fun j member ↦ ?_)
  obtain rfl | rfl : j = ofInstruction .nop ∨
      j = ofInstruction (.mov r (.literal (.float x))) := by
    simpa [loading, Program.instructions] using member
  · exact .text "Nop"
  · refine printable_tagged (printable_fields ?_)
    simp [ofRegister, printable_integer, ofOperand, ofValue, printable_tagged, literal]

/-- Either layout is read as the program with its literal read again. -/
theorem ofText_loading_eq :
    ofText (ofProgram (loading r x)).compactText = .ok (loading r (reread floatStyle x)) ∧
      ofText (ofProgram (loading r x)).prettyText = .ok (loading r (reread floatStyle x)) := by
  have document := printable_loading finite r
  have program := readProgram_loading finite r
  simp only [ofText, document.read_compactText, document.read_prettyText, program]
  exact ⟨rfl, rfl⟩

end

/-- A program with a finite binary64 literal is read back from either layout of its text with a
finite literal of the same sign that is at most four steps away, and with the same literal if the
numeral is exact. -/
theorem ofText_loading (r : Register) (x : Binary64) (finite : x.isFinite = true) :
    ∃ y : Binary64,
      ofText (ofProgram (loading r x)).compactText = .ok (loading r y) ∧
      ofText (ofProgram (loading r x)).prettyText = .ok (loading r y) ∧
      y.isFinite = true ∧ y.isNegative = x.isNegative ∧
      y.magnitude ≤ x.magnitude + 4 ∧ x.magnitude ≤ y.magnitude + 4 ∧
      ((Decimal.Numeral.ofBinary64 floatStyle x).IsExact → y = x) := by
  have sign : floatStyle.exponentSign ≠ .minus := by decide
  obtain ⟨compact, pretty⟩ := ofText_loading_eq finite r
  obtain ⟨above, below⟩ := Decimal.steps_reread sign finite
  exact ⟨reread floatStyle x, compact, pretty, Decimal.isFinite_reread sign finite,
    Decimal.isNegative_reread floatStyle x, above, below,
    fun exact ↦ Decimal.reread_eq sign finite exact⟩

/-- The numeral `1.5` is exact. -/
theorem ofText_loading_onePointFive :
    let x : Binary64 := ⟨0x3FF8000000000000⟩
    x.isFinite = true ∧ (Decimal.Numeral.ofBinary64 floatStyle x).IsExact ∧
      ofText (ofProgram (loading 1 x)).compactText = .ok (loading 1 x) ∧
      ofText (ofProgram (loading 1 x)).prettyText = .ok (loading 1 x) := by
  intro x
  have finite : x.isFinite = true := by decide
  have exact : (Decimal.Numeral.ofBinary64 floatStyle x).IsExact := by decide +kernel
  obtain ⟨y, compact, pretty, -, -, -, -, same⟩ := ofText_loading 1 x finite
  obtain rfl := same exact
  exact ⟨finite, exact, compact, pretty⟩

/-- The number `123456789.12345679` is read back as `123456789.1234568`. -/
theorem not_ofText_loading : ¬ ∀ (r : Register) (x : Binary64), x.isFinite = true →
    ofText (ofProgram (loading r x)).compactText = .ok (loading r x) ∧
      ofText (ofProgram (loading r x)).prettyText = .ok (loading r x) := by
  intro same
  have finite : Binary64.isFinite ⟨0x419D6F34547E6B75⟩ = true := by decide
  obtain ⟨compact, -⟩ := same 1 ⟨0x419D6F34547E6B75⟩ finite
  obtain ⟨read, -⟩ := ofText_loading_eq finite 1
  have programs := Except.ok.inj (read.symm.trans compact)
  simp only [loading, Program.mk.injEq, Array.mk.injEq, List.cons.injEq, Instruction.mov.injEq,
    Operand.literal.injEq, Value.float.injEq, true_and, and_true] at programs
  exact absurd programs (by decide +kernel)

end RegisterMachine.Image
