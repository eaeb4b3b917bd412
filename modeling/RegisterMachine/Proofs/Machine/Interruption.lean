import RegisterMachine.Proofs.Machine.ControlFlow
import RegisterMachine.Proofs.Machine.StepLimit

/-!
# Interrupted runs

A cycle executes one instruction or leaves the machine as it is, so a run that is interrupted
between two cycles goes on where it was, also under a greater limit than before the interruption.
-/

namespace RegisterMachine

/-- Whether the counter is at a slot of the program. -/
def Counter.isInside (p : Program) : Counter → Bool
  | .slot k => k < p.size
  | .stopped => false

/-- There is an instruction to fetch exactly inside the program. -/
theorem Counter.isInside_eq (p : Program) (counter : Counter) :
    counter.isInside p = (p.fetch counter).isSome := by
  cases counter with
  | stopped => rfl
  | slot k =>
    rw [isInside, Program.fetch, Bool.eq_iff_iff, decide_eq_true_iff, ← Option.not_isNone,
      Bool.not_eq_true', ← Bool.not_eq_true, Option.isNone_iff_eq_none, Program.get?_eq_none_iff,
      Nat.not_le]

namespace Machine

variable {p : Program} {m : Machine} {i : Instruction} {limit low high : Nat}

/-! ### One cycle -/

/-- The machine after one executed instruction: flag and registers are those that the instruction
leaves, and so is the counter if the instruction moved it. -/
structure StepsTo (m : Machine) (i : Instruction) (after : Machine) : Prop where
  flag : after.flag = (m.apply i).2.flag
  registers : after.registers = (m.apply i).2.registers
  counter : after.counter =
    if (m.apply i).1 = .jumped then (m.apply i).2.counter else m.counter.next
  steps : after.steps = m.steps + 1
  limit : after.limit = m.limit

theorem stepsTo_execute (m : Machine) (i : Instruction) : m.StepsTo i (m.execute i) where
  flag := flag_execute m i
  registers := registers_execute m i
  counter := by
    cases flow : (m.apply i).1 with
    | jumped => rw [if_pos rfl, counter_execute_of_jumped flow]
    | advance =>
      rw [if_neg (by decide), counter_execute_of_advance flow, counter_apply_of_advance flow]
  steps := steps_execute m i
  limit := limit_execute m i

/-- Outside the program a cycle does nothing, whatever the limit. -/
theorem cycle_of_outside (outside : m.counter.isInside p = false) : m.cycle p = (.ok false, m) := by
  rw [Counter.isInside_eq, Option.isSome_eq_false_iff, Option.isNone_iff_eq_none] at outside
  exact cycle_of_halted outside

/-- Inside the program a cycle does nothing but fail if the steps are used up. -/
theorem cycle_of_spent (inside : m.counter.isInside p = true) (limited : m.limit = some limit)
    (spent : limit ≤ m.steps) : m.cycle p = (.error ⟨limit, m.counter.toNat⟩, m) := by
  rw [Counter.isInside_eq, Option.isSome_iff_exists] at inside
  obtain ⟨i, fetched⟩ := inside
  exact cycle_of_overLimit fetched (overLimit?_of_le limited spent)

/-- Any other cycle is a step, and tells whether the counter is still inside the program. -/
theorem cycle_of_room (inside : m.counter.isInside p = true)
    (room : ∀ limit ∈ m.limit, m.steps < limit) :
    ∃ i after, p.fetch m.counter = some i ∧ m.StepsTo i after ∧
      m.cycle p = (.ok (after.counter.isInside p), after) := by
  rw [Counter.isInside_eq, Option.isSome_iff_exists] at inside
  obtain ⟨i, fetched⟩ := inside
  have further : m.overLimit? = none := by
    cases limited : m.limit with
    | none => exact overLimit?_of_limit_none limited
    | some limit => exact overLimit?_of_lt limited (room limit limited)
  refine ⟨i, m.execute i, fetched, stepsTo_execute m i, ?_⟩
  rw [cycle_of_fetch fetched further, Counter.isInside_eq, isHalted, Option.not_isNone]

/-! ### Runs -/

/-- A run with a limit ends, as each step leaves one less until the limit. -/
theorem exists_run_eq_some {m : Machine} (p : Program) (limited : m.limit = some limit) :
    ∃ outcome, m.run p = some outcome := by
  cases fetched : p.fetch m.counter with
  | none => exact ⟨_, run_of_halted fetched limited⟩
  | some i =>
    by_cases spent : limit ≤ m.steps
    · exact ⟨_, run_of_le fetched limited spent⟩
    · rw [run_of_lt fetched limited (Nat.not_le.mp spent)]
      exact exists_run_eq_some p ((limit_execute m i).trans limited)
termination_by limit - m.steps
decreasing_by
  rw [steps_execute]
  omega

/-- A limit can be set again. -/
theorem withLimit_of_limit_eq (limited : m.limit = some limit) : m.withLimit limit = m := by
  cases m
  cases limited
  rfl

/-- A run under a greater limit can start with a cycle under the smaller one. -/
theorem run_withLimit_cycle (limited : m.limit = some low) (le : low ≤ high) :
    ((m.cycle p).2.withLimit high).run p = (m.withLimit high).run p := by
  rcases cycle_cases p m with stays | ⟨i, fetched, room, after⟩
  · rw [stays]
  · have below := lt_of_overLimit?_eq_none limited room
    rw [after, run_withLimit_of_lt fetched (Nat.lt_of_lt_of_le below le)]

/-- A run under a greater limit can start with any number of cycles under the smaller one. -/
theorem run_withLimit_cycles (limited : m.limit = some low) (le : low ≤ high) (n : Nat) :
    ((m.cycles p n).withLimit high).run p = (m.withLimit high).run p := by
  induction n generalizing m with
  | zero => rfl
  | succ n ih =>
    rw [cycles_succ, ih (by rw [limit_cycle, limited]), run_withLimit_cycle limited le]

/-- A run with a limit can start with any number of cycles. -/
theorem run_cycles (limited : m.limit = some limit) (n : Nat) :
    (m.cycles p n).run p = m.run p := by
  have resumed := run_withLimit_cycles (p := p) limited (Nat.le_refl limit) n
  rwa [withLimit_of_limit_eq limited,
    withLimit_of_limit_eq (by rw [limit_cycles, limited])] at resumed

/-- A cycle leaves the machine as it is outside the program, also when the steps are used up, and
inside it when they are, and otherwise executes the instruction it fetches. So a run with a limit
ends as it does after any number of cycles, and a run under a greater limit as it does after any
number of cycles under the smaller one. -/
theorem cycle_eq_and_run_cycles_eq (p : Program) (m : Machine) :
    (m.counter.isInside p = false → m.cycle p = (.ok false, m)) ∧
    (m.counter.isInside p = true → ∀ limit ∈ m.limit, limit ≤ m.steps →
      m.cycle p = (.error ⟨limit, m.counter.toNat⟩, m)) ∧
    (m.counter.isInside p = true → (∀ limit ∈ m.limit, m.steps < limit) →
      ∃ i after, p.fetch m.counter = some i ∧ m.StepsTo i after ∧
        m.cycle p = (.ok (after.counter.isInside p), after)) ∧
    (∀ limit ∈ m.limit, ∃ outcome, m.run p = some outcome ∧
      ∀ n, (m.cycles p n).run p = some outcome) ∧
    ∀ high, ∃ outcome, (m.withLimit high).run p = some outcome ∧
      ∀ low ≤ high, ∀ n, (((m.withLimit low).cycles p n).withLimit high).run p = some outcome := by
  refine ⟨cycle_of_outside, ?_, cycle_of_room, ?_, ?_⟩
  · intro inside limit limited spent
    exact cycle_of_spent inside limited spent
  · intro limit limited
    obtain ⟨outcome, ended⟩ := exists_run_eq_some p limited
    refine ⟨outcome, ended, fun n ↦ ?_⟩
    rw [run_cycles limited, ended]
  · intro high
    obtain ⟨outcome, ended⟩ := exists_run_eq_some (m := m.withLimit high) p limit_withLimit
    refine ⟨outcome, ended, fun low le n ↦ ?_⟩
    rw [run_withLimit_cycles limit_withLimit le]
    exact ended

/-- A program of two steps, cycled outside its slots, out of steps and with steps to spare, and run
under a limit of two steps after any number of cycles under that limit or a limit of one step. -/
theorem cycle_jumpOut_and_run_cycles_jumpOut :
    let spent := fresh.withLimit 0
    let stopped : Machine := { spent with counter := .stopped }
    let halted : Option (Except StepLimitExceeded Summary) := some (.ok ⟨2, .eq, fresh.registers⟩)
    (stopped.counter.isInside jumpOut = false ∧ stopped.cycle jumpOut = (.ok false, stopped)) ∧
    (spent.counter.isInside jumpOut = true ∧ 0 ≤ spent.steps ∧
      spent.cycle jumpOut = (.error ⟨0, 1⟩, spent)) ∧
    (fresh.counter.isInside jumpOut = true ∧
      ∃ i after, jumpOut.fetch fresh.counter = some i ∧ fresh.StepsTo i after ∧
        fresh.cycle jumpOut = (.ok (after.counter.isInside jumpOut), after)) ∧
    (∀ n, ((fresh.withLimit 2).cycles jumpOut n).run jumpOut = halted) ∧
    (1 ≤ 2 ∧ ∀ n, (((fresh.withLimit 1).cycles jumpOut n).withLimit 2).run jumpOut = halted) := by
  intro spent stopped halted
  have ended : (fresh.withLimit 2).run jumpOut = halted := by decide
  obtain ⟨-, -, step, -, raised⟩ := cycle_eq_and_run_cycles_eq jumpOut fresh
  obtain ⟨-, -, -, resumed, -⟩ := cycle_eq_and_run_cycles_eq jumpOut (fresh.withLimit 2)
  obtain ⟨outside, -⟩ := cycle_eq_and_run_cycles_eq jumpOut stopped
  obtain ⟨-, usedUp, -⟩ := cycle_eq_and_run_cycles_eq jumpOut spent
  refine ⟨⟨rfl, outside rfl⟩, ⟨rfl, Nat.le_refl 0, usedUp rfl 0 rfl (Nat.le_refl 0)⟩,
    ⟨rfl, step rfl ?_⟩, ?_, by decide, ?_⟩
  · intro limit limited
    cases limited
  · obtain ⟨outcome, direct, same⟩ := resumed 2 rfl
    rw [← ended, direct]
    exact same
  · obtain ⟨outcome, direct, same⟩ := raised 2
    rw [← ended, direct]
    exact same 1 (by decide)

end Machine

end RegisterMachine
