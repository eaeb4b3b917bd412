import RegisterMachine.Proofs.Assembler.Concatenation
import RegisterMachine.Proofs.Instruction.Text

/-!
# Assembling the texts of instructions

A line that says a well-typed operation puts the instruction of it before the program of the lines
below. The text of an operation whose numbers are integers is such a line, so the texts of these
instructions have the program of just these (`assemble_map_text`).
-/

namespace RegisterMachine

namespace Source

/-- The line says an operation that stands for the instruction. -/
def SaysOperation (text : String) (i : Instruction) : Prop :=
  ∃ op operands, Statement.ofLine text = .ok (some (.operation op operands)) ∧
    op.instruction? operands = some i

/-- The text of an operation without binary64 literals says it. -/
theorem saysOperation_text {i : Instruction} (operation : i.operation?.isSome = true)
    (integral : i.isIntegral = true) : SaysOperation i.text i := by
  obtain ⟨⟨op, operands⟩, found⟩ := Option.isSome_iff_exists.mp operation
  exact ⟨op, operands, Instruction.ofLine_text found integral,
    Instruction.instruction?_eq found integral⟩

/-- An instruction that a line says is no branch. -/
theorem SaysOperation.relocate_eq {text : String} {i : Instruction} (h : SaysOperation text i)
    (slots : Nat) : i.relocate slots = i := by
  obtain ⟨op, operands, -, stands⟩ := h
  exact Instruction.relocate_of_build? (Opcode.instruction?_eq_some_iff.mp stands).2 slots

end Source

open Source

/-- An operation alone is realized by its instruction. -/
theorem Program.realizes_singleton {op : Opcode} {operands : List Operand} {i : Instruction}
    (stands : op.instruction? operands = some i) :
    Program.Realizes ⟨#[i]⟩ [.operation op operands] where
  body := congrArg (fun found ↦ [found]) stands
  labels := by
    intro before after name split
    have member : .label name ∈ [Statement.operation op operands] := by
      rw [split]
      exact List.mem_append_right _ List.mem_cons_self
    cases List.mem_singleton.mp member

/-- The program of a line that says an operation and of the lines below it. -/
theorem assemble_cons_of_saysOperation {text : String} {i : Instruction} {source : List String}
    {q : Program} (first : SaysOperation text i) (rest : assemble source = .ok q) :
    assemble (text :: source) = .ok ⟨#[i] ++ q.body.map (Instruction.relocate 1)⟩ := by
  obtain ⟨op, operands, reads, stands⟩ := first
  obtain ⟨readable, realizes⟩ := assemble_eq_ok_iff.mp rest
  have said : statement? text = some (.operation op operands) := by rw [statement?, reads]
  refine assemble_eq_ok_iff.mpr ⟨List.forall_mem_cons.mpr ⟨⟨_, reads⟩, readable⟩, ?_⟩
  rw [statements, List.filterMap_cons_some said]
  apply (Program.realizes_singleton stands).append realizes
  intro name declared
  cases List.mem_singleton.mp declared

/-- The texts of operations without binary64 literals, one a line, have the program of just these
instructions. -/
theorem assemble_map_text {body : List Instruction}
    (h : ∀ i ∈ body, i.operation?.isSome = true ∧ i.isIntegral = true) :
    assemble (body.map Instruction.text) = .ok ⟨body.toArray⟩ := by
  induction body with
  | nil => exact assemble_eq_ok_iff.mpr ⟨by simp, rfl, by simp [statements]⟩
  | cons i body ih =>
    obtain ⟨⟨operation, integral⟩, others⟩ := List.forall_mem_cons.mp h
    have unmoved : body.map (Instruction.relocate 1) = body.map id := by
      apply List.map_congr_left
      intro j hj
      exact (saysOperation_text (others j hj).1 (others j hj).2).relocate_eq 1
    have program := assemble_cons_of_saysOperation (saysOperation_text operation integral) (ih others)
    rw [List.map_toArray, unmoved, List.map_id, List.append_toArray, List.singleton_append] at program
    exact program

/-- All five operations, with the least and the greatest integer among their operands. -/
theorem assemble_map_text_extremes :
    let body : List Instruction :=
      [.mov 15 (.literal (.int (-2147483648))), .add 0 (.register 15) (.literal (.int 2147483647)),
        .sub 9 (.literal (.int 0)) (.register 0), .cmp (.register 9) (.literal (.int (-1))), .halt]
    (∀ i ∈ body, i.operation?.isSome = true ∧ i.isIntegral = true) ∧
      body.map Instruction.text = ["MOV R15, #-2147483648", "ADD R0, R15, #2147483647",
        "SUB R9, #0, R0", "CMP R9, #-1", "HALT"] ∧
      assemble (body.map Instruction.text) = .ok ⟨body.toArray⟩ := by
  intro body
  have operations : ∀ i ∈ body, i.operation?.isSome = true ∧ i.isIntegral = true := by decide
  exact ⟨operations, by decide, assemble_map_text operations⟩

end RegisterMachine
