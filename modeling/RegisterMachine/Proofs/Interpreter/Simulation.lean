import RegisterMachine.Proofs.Assembler.Program
import RegisterMachine.Proofs.Interpreter.Basic
import RegisterMachine.Proofs.Machine.StepLimit

/-!
# A program runs like its source

The machine on the program of a source goes with the interpreter on the source. Its counter is at
the slot after those of the statements that are behind the interpreter. Every step of one is a step
of the other, so that they end together.
-/

namespace RegisterMachine

open Machine

/-! ### Instructions of operations -/

/-- An operation halts the machine or leaves the counter to move on. -/
theorem Opcode.apply_of_build? {op : Opcode} {operands : List Operand} {i : Instruction}
    (h : op.build? operands = some i) (m : Machine) :
    op = .halt ∧ (m.apply i).1 = .jumped ∧ (m.apply i).2.counter = .stopped ∨
      op ≠ .halt ∧ (m.apply i).1 = .advance ∧ (m.apply i).2.counter = m.counter := by
  unfold Opcode.build? at h
  split at h <;> cases h
  case h_5 => exact .inl ⟨rfl, rfl, rfl⟩
  all_goals exact .inr ⟨by decide, rfl, rfl⟩

namespace Interpreter

variable {p : Program} {source : List Statement} {m : Machine} {s : Interpreter}

/-- The machine has come as far as the interpreter. It is at the slot after those of the statements
before, or both have halted. -/
structure Follows (source : List Statement) (m : Machine) (s : Interpreter) : Prop where
  flag : m.flag = s.flag
  registers : m.registers = s.registers
  steps : m.steps = s.steps
  counter : m.counter = .stopped ∧ s.ahead = [] ∨
    ∃ before, source = before ++ s.ahead ∧
      m.counter = .slot (before.countP Statement.takesSlot + 1)

/-- At the start both are before the first statement. -/
theorem follows_start (source : List Statement) (limit : Nat) :
    Follows source (fresh.withLimit limit) (start source) where
  flag := rfl
  registers := rfl
  steps := rfl
  counter := .inr ⟨[], rfl, rfl⟩

/-- The labels that are passed before the next step take no slot. -/
theorem exists_labels_append (ahead : List Statement) :
    ∃ labels, ahead = labels ++ ahead.dropWhile (!·.takesSlot) ∧
      labels.countP Statement.takesSlot = 0 := by
  refine ⟨ahead.takeWhile (!·.takesSlot), List.takeWhile_append_dropWhile.symm, ?_⟩
  rw [List.countP_eq_zero]
  intro statement hs
  simpa using List.all_eq_true.mp List.all_takeWhile statement hs

/-- The next step is that of a statement that takes a slot. -/
theorem takesSlot_of_dropWhile_eq_cons {ahead next : List Statement} {statement : Statement}
    (h : ahead.dropWhile (!·.takesSlot) = statement :: next) : statement.takesSlot = true := by
  have head := List.head?_dropWhile_not (!·.takesSlot) ahead
  rw [h] at head
  simpa using head

/-- With only labels ahead the machine has halted. -/
theorem Follows.fetch_eq_none (h : Follows source m s) (realizes : p.Realizes source)
    (done : s.ahead.dropWhile (!·.takesSlot) = []) : p.fetch m.counter = none := by
  rcases h.counter with ⟨stopped, -⟩ | ⟨before, split, slot⟩
  · rw [stopped]
    rfl
  · obtain ⟨labels, ahead, free⟩ := exists_labels_append s.ahead
    rw [done, List.append_nil] at ahead
    have size : p.size = before.countP Statement.takesSlot + 1 := by
      rw [realizes.size_eq, ← List.countP_eq_length_filter, split, List.countP_append, ahead, free]
    rw [slot]
    exact Program.get?_eq_none_iff.mpr (Nat.le_of_eq size)

/-- Before a statement that takes a slot the machine is at that slot, which holds the instruction of
the statement. -/
theorem Follows.fetch_eq_some (h : Follows source m s) (realizes : p.Realizes source)
    {statement : Statement} {next : List Statement}
    (ahead : s.ahead.dropWhile (!·.takesSlot) = statement :: next) :
    ∃ before i, source = before ++ statement :: next ∧
      m.counter = .slot (before.countP Statement.takesSlot + 1) ∧
      p.fetch m.counter = some i ∧ statement.instruction? source = some i := by
  rcases h.counter with ⟨-, none⟩ | ⟨before, split, slot⟩
  · rw [none] at ahead
    cases ahead
  · obtain ⟨labels, passed, free⟩ := exists_labels_append s.ahead
    rw [ahead] at passed
    have whole : source = (before ++ labels) ++ statement :: next := by
      rw [split, passed, List.append_assoc]
    have count : (before ++ labels).countP Statement.takesSlot =
        before.countP Statement.takesSlot := by
      rw [List.countP_append, free, Nat.add_zero]
    have code : (source.filter Statement.takesSlot)[before.countP Statement.takesSlot]? =
        some statement := by
      rw [← count, whole, List.countP_eq_length_filter, List.filter_append,
        List.getElem?_append_right (Nat.le_refl _), Nat.sub_self,
        List.filter_cons_of_pos (takesSlot_of_dropWhile_eq_cons ahead)]
      rfl
    obtain ⟨i, stands, held⟩ := realizes.get?_succ code
    refine ⟨before ++ labels, i, whole, ?_, ?_, stands⟩
    · rw [slot, count]
    · rw [slot]
      exact held

/-- An instruction has the same effect on both. -/
theorem Follows.effect (h : Follows source m s) (i : Instruction) :
    (m.apply i).2.flag = (s.effect i).flag ∧
      (m.apply i).2.registers = (s.effect i).registers := by
  rw [Interpreter.effect]
  exact apply_congr h.flag h.registers i

/-- Behind a label that is declared once stand the statements after its declaration. -/
theorem afterLabel?_eq {before after : List Statement} {name : String}
    (unseen : .label name ∉ before) :
    afterLabel? (before ++ .label name :: after) name = some after := by
  rw [afterLabel?, List.dropWhile_append_of_pos (Statement.forall_ne_label unseen),
    List.dropWhile_cons_of_neg (by simp)]

/-- The slot after a statement that takes one. -/
theorem next_slot (before : List Statement) (statement : Statement)
    (takes : statement.takesSlot = true) :
    Counter.next (.slot (before.countP Statement.takesSlot + 1)) =
      .slot ((before ++ [statement]).countP Statement.takesSlot + 1) := by
  rw [List.countP_append, List.countP_cons_of_pos takes]
  rfl

/-- A step of an operation is a step of the interpreter. -/
theorem Follows.execute_operation (h : Follows source m s) {before next : List Statement}
    {op : Opcode} {operands : List Operand} {i : Instruction}
    (split : source = before ++ .operation op operands :: next)
    (slot : m.counter = .slot (before.countP Statement.takesSlot + 1))
    (built : op.build? operands = some i) :
    ∃ s', s.execute? source next (.operation op operands) = some s' ∧
      Follows source (m.execute i) s' := by
  obtain ⟨flag, registers⟩ := h.effect i
  refine ⟨_, by rw [Interpreter.execute?, built]; rfl, ?_⟩
  constructor
  · rw [flag_execute, flag]
  · rw [registers_execute, registers]
  · rw [steps_execute, h.steps]
  · rcases Opcode.apply_of_build? built m with ⟨halts, jumped, stopped⟩ | ⟨goesOn, advance, counter⟩
    · left
      rw [counter_execute_of_jumped jumped, stopped, if_pos halts]
      exact ⟨rfl, rfl⟩
    · right
      refine ⟨before ++ [.operation op operands], ?_, ?_⟩
      · rw [if_neg goesOn, split, List.append_assoc, List.singleton_append]
      · rw [counter_execute_of_advance advance, counter, slot,
          next_slot before (.operation op operands) rfl]

/-- A step of a branch is a step of the interpreter. -/
theorem Follows.execute_branch (h : Follows source m s) (realizes : p.Realizes source)
    {before next : List Statement} {condition : Condition} {target : String}
    (split : source = before ++ .branch condition target :: next)
    (slot : m.counter = .slot (before.countP Statement.takesSlot + 1))
    (declared : .label target ∈ source) :
    ∃ s', s.execute? source next (.branch condition target) = some s' ∧
      Follows source (m.execute (.branch condition (Statement.slotOf source target))) s' := by
  rw [Interpreter.execute?]
  by_cases taken : condition.holds m.flag = true
  · obtain ⟨above, after, rfl⟩ := List.append_of_mem declared
    have unseen := realizes.labels above after target rfl
    rw [if_pos (h.flag ▸ taken), afterLabel?_eq unseen, Statement.slotOf_eq unseen,
      execute_branch_of_holds taken]
    refine ⟨_, rfl, h.flag, h.registers, congrArg (· + 1) h.steps, .inr ?_⟩
    -- The label itself takes no slot, so its slot is that of the statements behind it.
    refine ⟨above ++ [.label target], ?_, ?_⟩
    · rw [List.append_assoc, List.singleton_append]
    · rw [List.countP_append]
      rfl
  · rw [if_neg (h.flag ▸ taken), execute_branch_of_not_holds taken, slot,
      next_slot before (.branch condition target) rfl]
    refine ⟨_, rfl, h.flag, h.registers, congrArg (· + 1) h.steps, .inr ⟨_, ?_, rfl⟩⟩
    rw [split, List.append_assoc, List.singleton_append]

/-- A step of the machine is a step of the interpreter. -/
theorem Follows.execute (h : Follows source m s) (realizes : p.Realizes source)
    {before next : List Statement} {statement : Statement} {i : Instruction}
    (split : source = before ++ statement :: next)
    (slot : m.counter = .slot (before.countP Statement.takesSlot + 1))
    (stands : statement.instruction? source = some i) :
    ∃ s', s.execute? source next statement = some s' ∧ Follows source (m.execute i) s' := by
  cases statement with
  | label name => cases stands
  | operation op operands =>
    exact h.execute_operation split slot (Opcode.instruction?_eq_some_iff.mp stands).2
  | branch condition target =>
    rw [Statement.instruction?] at stands
    split_ifs at stands with declared
    cases stands
    exact h.execute_branch realizes split slot declared

/-- With only labels ahead both have finished with the same result. -/
theorem Follows.run_of_done (h : Follows source m s) (realizes : p.Realizes source) {limit : Nat}
    (limited : m.limit = some limit) (steps : Nat)
    (done : s.ahead.dropWhile (!·.takesSlot) = []) :
    run source steps s = .finished m.summary ∧ m.run p = some (.ok m.summary) := by
  constructor
  · rw [run_of_dropWhile_eq_nil done, summary, h.steps, h.flag, h.registers]
  · exact run_of_halted (h.fetch_eq_none realizes done) limited

/-- From where both have come they go on to the same end. -/
theorem Follows.run (h : Follows source m s) (realizes : p.Realizes source) {limit : Nat}
    (limited : m.limit = some limit) {steps : Nat} (room : m.steps + steps = limit) :
    (∃ summary, run source steps s = .finished summary ∧ m.run p = some (.ok summary)) ∨
      ∃ before ahead, source = before ++ ahead ∧ run source steps s = .outOfSteps ahead ∧
        m.run p = some (.error ⟨limit, before.countP Statement.takesSlot + 1⟩) := by
  -- The steps that are left are the same for both, so the induction is on them.
  induction steps generalizing m s with
  | zero =>
    cases ahead : s.ahead.dropWhile (!·.takesSlot) with
    | nil => exact .inl ⟨_, h.run_of_done realizes limited 0 ahead⟩
    | cons statement next =>
      obtain ⟨before, i, split, slot, fetched, -⟩ := h.fetch_eq_some realizes ahead
      refine .inr ⟨before, statement :: next, split, ?_, ?_⟩
      · exact run_zero_of_dropWhile_eq_cons ahead
      · rw [run_of_le fetched limited (by omega), slot]
        rfl
  | succ steps ih =>
    cases ahead : s.ahead.dropWhile (!·.takesSlot) with
    | nil => exact .inl ⟨_, h.run_of_done realizes limited (steps + 1) ahead⟩
    | cons statement next =>
      obtain ⟨before, i, split, slot, fetched, stands⟩ := h.fetch_eq_some realizes ahead
      obtain ⟨s', executed, follows⟩ := h.execute realizes split slot stands
      rw [run_succ_of_dropWhile_eq_cons ahead executed, run_of_lt fetched limited (by omega)]
      apply ih follows
      · rw [limit_execute, limited]
      · rw [steps_execute]
        omega

end Interpreter

/-- Running the program of a source and interpreting the source agree under every step limit. Both
halt after as many steps with the same flag and registers; or both run out of steps, and the machine
stops at the slot after those of the statements that the interpreter has behind it. -/
theorem run_eq_interpret {source : List String} {p : Program} (h : assemble source = .ok p)
    (limit : Nat) :
    (∃ summary, Interpreter.interpret source limit = .finished summary ∧
      (fresh.withLimit limit).run p = some (.ok summary)) ∨
    ∃ before ahead, Source.statements source = before ++ ahead ∧
      Interpreter.interpret source limit = .outOfSteps ahead ∧
      (fresh.withLimit limit).run p =
        some (.error ⟨limit, before.countP Statement.takesSlot + 1⟩) := by
  exact (Interpreter.follows_start _ limit).run (realizes_of_assemble_eq_ok h) limit_withLimit
    (by rw [steps_withLimit, steps_fresh, Nat.zero_add])

/-- The loop of `countdown` ends with step 11. After four steps it is at slot 5, in front of the
branch back. -/
theorem run_countdown :
    assemble countdown = .ok countdownProgram ∧
      (∃ summary, Interpreter.interpret countdown 11 = .finished summary ∧
        (fresh.withLimit 11).run countdownProgram = some (.ok summary)) ∧
      ∃ before ahead, Source.statements countdown = before ++ ahead ∧
        Interpreter.interpret countdown 4 = .outOfSteps ahead ∧
        (fresh.withLimit 4).run countdownProgram =
          some (.error ⟨4, before.countP Statement.takesSlot + 1⟩) := by
  refine ⟨assemble_countdown, ?_, ?_⟩
  · have ends : Interpreter.interpret countdown 11 =
        .finished ⟨11, .eq, Vector.replicate 16 (.int 0)⟩ := by decide +kernel
    rcases run_eq_interpret assemble_countdown 11 with finished | ⟨before, ahead, -, out, -⟩
    · exact finished
    · rw [ends] at out
      cases out
  · have stops : Interpreter.interpret countdown 4 =
        .outOfSteps [.branch .always "AGAIN", .label "DONE"] := by decide +kernel
    rcases run_eq_interpret assemble_countdown 4 with ⟨summary, finished, -⟩ | out
    · rw [stops] at finished
      cases finished
    · exact out

end RegisterMachine
