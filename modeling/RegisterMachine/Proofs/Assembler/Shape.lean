import RegisterMachine.Proofs.Assembler.Diagnostics
import RegisterMachine.Proofs.Instruction.Text

/-!
# Checked operands make an instruction

What the type checker accepts has the shape that the instruction is built from: the operation and
its operands are those of the instruction (`build?_of_check`). A line that is not accepted is told
of by what cannot be read, by its label or by the classes of its operands, so that no source is
rejected for the shape of its operands.
-/

namespace RegisterMachine

open Source

/-! ### Faults of lines -/

/-- A token that is no operand is a fault of syntax. -/
theorem Operand.category_of_ofToken_eq_error {t : Token} {fault : Fault}
    (h : ofToken t = .error fault) : fault.category = "Syntax" := by
  rcases ofToken_cases t with ⟨operand, ok⟩ | error
  · rw [ok] at h
    cases h
  · rw [error] at h
    rw [← Except.error.inj h, misread]
    split <;> rfl

/-- What is wrong with the tokens of a line is a fault of syntax. -/
theorem Statement.Faulty.category_eq {ts : List Token} {fault : Fault} (h : Faulty ts fault) :
    fault.category = "Syntax" := by
  cases h with
  | operand op read bad rest => exact Operand.category_of_ofToken_eq_error bad
  | _ => rfl

/-- A line that cannot be read has a fault of syntax. -/
theorem Statement.category_of_ofLine_eq_error {line : String} {fault : Fault}
    (h : ofLine line = .error fault) : fault.category = "Syntax" :=
  Faulty.category_eq (((parse_eq_iff (Token.ofLine line)).2 fault).mp h)

/-- No line of a source is at fault for the shape of its operands. -/
theorem SourceLine.operandShape_notMem_faults (lines : List SourceLine) (line : SourceLine)
    (op : Opcode) : .operandShape op ∉ line.faults lines := by
  cases reads : Statement.ofLine line.text using Statement.reading_cases with
  | error fault =>
    simp only [faults, reads, List.mem_singleton]
    rintro rfl
    have syntactic := Statement.category_of_ofLine_eq_error reads
    simp only [Fault.category, String.reduceEq] at syntactic
  | empty => simp only [faults, reads, List.not_mem_nil, not_false_eq_true]
  | label name =>
    simp only [faults, reads, List.mem_map, reduceCtorEq, and_false, exists_false,
      not_false_eq_true]
  | branch condition target =>
    simp only [faults, reads]
    split
    · exact List.not_mem_nil
    · simp only [List.mem_singleton, reduceCtorEq, not_false_eq_true]
  | operation op' operands =>
    simp only [faults, reads, Opcode.mistakes, List.mem_map, reduceCtorEq, and_false, exists_false,
      not_false_eq_true]

/-- No source is rejected for the shape of operands. -/
theorem fault_ne_operandShape {source : List String} {r : Rejection}
    (rejected : assemble source = .error r) {d : Diagnostic} (hd : d ∈ r.diagnostics)
    (op : Opcode) : d.fault ≠ .operandShape op := by
  rcases assemble_cases source with ⟨-, p, ok⟩ | ⟨-, error⟩
  · rw [ok] at rejected
    cases rejected
  · rw [error] at rejected
    rw [← Except.error.inj rejected, diagnosed_eq, allReports] at hd
    obtain ⟨line, -, told⟩ := List.mem_flatMap.mp hd
    obtain ⟨fault, hfault, rfl⟩ := List.mem_map.mp told
    rintro rfl
    exact SourceLine.operandShape_notMem_faults _ line op hfault

/-! ### Accepted operands -/

/-- A checker accepts exactly the well-typed operations, whatever it has found before. -/
theorem TypeChecker.check_eq_true_iff {checker : TypeChecker} {line : SourceLine} {op : Opcode}
    {operands : List Operand} :
    (checker.check line op operands).1 = true ↔ op.misfits operands = [] :=
  List.isEmpty_iff

/-- Operands that a checker accepts make an instruction of the operation with just these operands,
in order. So no source is rejected for the shape of its operands. -/
theorem build?_of_check :
    (∀ (checker : TypeChecker) (line : SourceLine) (op : Opcode) (operands : List Operand),
      (checker.check line op operands).1 = true →
        ∃ i, op.build? operands = some i ∧ i.operation? = some (op, operands)) ∧
    ∀ (source : List String) (r : Rejection), assemble source = .error r →
      ∀ d ∈ r.diagnostics, ∀ op, d.fault ≠ .operandShape op := by
  constructor
  · intro checker line op operands accepted
    obtain ⟨i, built⟩ :=
      Opcode.exists_build?_of_misfits_eq_nil (TypeChecker.check_eq_true_iff.mp accepted)
    exact ⟨i, built, Instruction.operation?_eq_some_iff.mpr built⟩
  · intro source r rejected d hd op
    exact fault_ne_operandShape rejected hd op

/-- `SUB` of three operands is accepted and built, and `HALT` of one is rejected for its class. -/
theorem build?_of_check_sub :
    let operands : List Operand := [.register 3, .register 3, .literal (.int (-1))]
    let extra : Diagnostic := ⟨⟨1, "HALT R3"⟩, .invalidArgument 0 "REGISTER" .halt "NONE"⟩
    (TypeChecker.empty.check ⟨1, "SUB R3, R3, #-1"⟩ .sub operands).1 = true ∧
      (∃ i, Opcode.sub.build? operands = some i ∧ i.operation? = some (.sub, operands)) ∧
      assemble ["HALT R3"] = .error ⟨[extra]⟩ ∧ ∀ op, extra.fault ≠ .operandShape op := by
  intro operands extra
  have accepted : (TypeChecker.empty.check ⟨1, "SUB R3, R3, #-1"⟩ .sub operands).1 = true := by
    decide
  have rejected : assemble ["HALT R3"] = .error ⟨[extra]⟩ := by decide +kernel
  exact ⟨accepted, build?_of_check.1 .empty _ .sub operands accepted, rejected,
    build?_of_check.2 _ _ rejected extra (List.mem_singleton_self extra)⟩

end RegisterMachine
