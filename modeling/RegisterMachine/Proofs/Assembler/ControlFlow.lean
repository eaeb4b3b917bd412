import RegisterMachine.Proofs.Assembler.Program
import RegisterMachine.Proofs.Machine.ControlFlow

/-!
# Control flow of assembled programs

The labels of a source point to slots of its program, or to its end. So a machine on an assembled
program only ever halts there or at an instruction to halt.
-/

namespace RegisterMachine

open Source Machine

/-- The instruction of an operation is no branch. -/
theorem Opcode.build?_ne_branch (op : Opcode) (operands : List Operand) (condition : Condition)
    (target : Nat) : op.build? operands ≠ some (.branch condition target) := by
  intro h
  unfold build? at h
  split at h <;> cases h

/-- A label behind which no line takes a slot. -/
def Source.Trailing (source : List String) (name : String) : Prop :=
  ∃ above line below, source = above ++ line :: below ∧
    statement? line = some (.label name) ∧ code below = []

namespace Program.Realizes

variable {p : Program} {statements : List Statement} {source : List String}

/-- A slot of the body holds the instruction of a statement. -/
theorem exists_statement (h : p.Realizes statements) {k : Nat} {i : Instruction}
    (held : p.get? (k + 1) = some i) :
    ∃ s ∈ statements.filter Statement.takesSlot, s.instruction? statements = some i := by
  have here := congrArg (·[k]?) h.body
  have body : p.body[k]? = some i := held
  simp only [List.getElem?_map, Array.getElem?_toList, body, Option.map_some] at here
  obtain ⟨s, hs, stands⟩ := Option.map_eq_some_iff.mp here
  exact ⟨s, List.mem_of_getElem? hs, stands⟩

/-- A branch in a slot goes where the label of its statement points. -/
theorem exists_branch (h : p.Realizes statements) {k : Nat} {condition : Condition}
    {target : Nat} (held : p.get? k = some (.branch condition target)) :
    ∃ name, .branch condition name ∈ statements.filter Statement.takesSlot ∧
      .label name ∈ statements ∧ Statement.slotOf statements name = target := by
  cases k with
  | zero => cases held
  | succ k =>
    obtain ⟨s, hs, stands⟩ := h.exists_statement held
    cases s with
    | label name => cases stands
    | operation op operands =>
      exact absurd (Opcode.instruction?_eq_some_iff.mp stands).2 (op.build?_ne_branch _ _ _)
    | branch condition' name =>
      rw [Statement.instruction?] at stands
      split_ifs at stands with declared
      cases stands
      exact ⟨name, hs, declared, rfl⟩

/-- Realized branches stay inside. -/
theorem closed (h : p.Realizes statements) : p.Closed := by
  intro k condition target held
  obtain ⟨name, -, -, rfl⟩ := h.exists_branch held
  have fewer : (statements.takeWhile (· ≠ .label name)).countP Statement.takesSlot ≤
      statements.countP Statement.takesSlot :=
    (List.takeWhile_prefix _).sublist.countP_le
  rw [h.size_eq, ← List.countP_eq_length_filter, Statement.slotOf]
  omega

/-- Behind a label that points to the end there is no slot. -/
theorem trailing (h : p.Realizes (Source.statements source)) {name : String}
    (declared : .label name ∈ Source.statements source)
    (atEnd : Statement.slotOf (Source.statements source) name = p.size) :
    Trailing source name := by
  obtain ⟨above, line, below, rfl, said, -, slot⟩ := h.exists_declaration declared
  have parts : code (above ++ line :: below) = code above ++ code below := by
    simp [code, Source.statements, said, Statement.takesSlot]
  have size := h.size_eq
  rw [← code, parts, List.length_append] at size
  exact ⟨above, line, below, rfl, said, List.eq_nil_of_length_eq_zero (by omega)⟩

end Program.Realizes

/-- A machine on an assembled program, after any number of cycles and under any limit or none. Its
counter is stopped, at a slot from 1 on, or at the end. Moving on never passes the end, so that the
counter fits a word whenever the size of the program does. The machine has halted exactly at the
end or when stopped. It is stopped only by an instruction to halt. It is at the end only if the
last slot moved on, or a branch went to a label behind which there is no slot, unless there are no
slots to run at all. -/
theorem counter_cycles_of_assemble {source : List String} {p : Program}
    (h : assemble source = .ok p) (limit : Option Nat) (n : Nat) :
    let start : Machine := { fresh with limit := limit }
    let m := start.cycles p n
    (m.counter = .stopped ∨ ∃ i, m.counter = .slot i ∧ 1 ≤ i ∧ i ≤ p.size) ∧
      (∀ i, p.fetch m.counter = some i → (m.apply i).1 = .advance →
        (m.execute i).counter.toNat = m.counter.toNat + 1 ∧ m.counter.toNat + 1 ≤ p.size) ∧
      (m.isHalted p = true ↔ m.counter = .slot p.size ∨ m.counter = .stopped) ∧
      (m.counter = .stopped → ∃ k < n, (start.cycles p k).executes? p = some .halt) ∧
      (m.counter = .slot p.size → p.size = 1 ∨
        ∃ k < n, ∃ i, (start.cycles p k).executes? p = some i ∧
          ((start.cycles p k).counter.next = .slot p.size ∨
            ∃ condition name, i = .branch condition p.size ∧
              .branch condition name ∈ code source ∧ Trailing source name)) := by
  intro start m
  have realizes := realizes_of_assemble_eq_ok h
  have inRange : m.counter.InRange p := by
    refine inRange_cycles realizes.closed (.inr ⟨1, rfl, Nat.le_refl 1, ?_⟩) n
    exact Nat.le_add_left 1 p.body.size
  refine ⟨inRange, fun i ↦ toNat_counter_execute_of_advance, isHalted_iff_of_inRange inRange,
    ?_, ?_⟩
  · exact exists_halt_of_stopped fun stopped ↦ by cases stopped
  · intro atEnd
    rcases exists_step_of_counter_eq atEnd with first | ⟨k, hk, i, executed, next | branches⟩
    · exact .inl (Counter.slot.inj first).symm
    · exact .inr ⟨k, hk, i, executed, .inl next⟩
    · obtain ⟨condition, rfl⟩ := branches
      obtain ⟨slot, -, -, held⟩ := Program.exists_slot_of_fetch (fetch_of_executes? executed)
      obtain ⟨name, said, declared, target⟩ := realizes.exists_branch held
      exact .inr ⟨k, hk, _, executed,
        .inr ⟨condition, name, rfl, said, realizes.trailing declared target⟩⟩

/-- The loop of `countdown` leaves through the branch to the label in its last line. -/
theorem counter_cycles_countdown :
    assemble countdown = .ok countdownProgram ∧
      (fresh.cycles countdownProgram 11).counter = .slot countdownProgram.size ∧
      ((fresh.cycles countdownProgram 11).isHalted countdownProgram = true ↔
        (fresh.cycles countdownProgram 11).counter = .slot countdownProgram.size ∨
          (fresh.cycles countdownProgram 11).counter = .stopped) ∧
      (countdownProgram.size = 1 ∨
        ∃ k < 11, ∃ i, (fresh.cycles countdownProgram k).executes? countdownProgram = some i ∧
          ((fresh.cycles countdownProgram k).counter.next = .slot countdownProgram.size ∨
            ∃ condition name, i = .branch condition countdownProgram.size ∧
              .branch condition name ∈ code countdown ∧ Trailing countdown name)) := by
  have atEnd : (fresh.cycles countdownProgram 11).counter = .slot countdownProgram.size := by decide
  obtain ⟨-, -, halted, -, left⟩ := counter_cycles_of_assemble assemble_countdown none 11
  exact ⟨assemble_countdown, atEnd, halted, left atEnd⟩

end RegisterMachine
