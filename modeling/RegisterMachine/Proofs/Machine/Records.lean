import RegisterMachine.Machine.Records
import RegisterMachine.Proofs.Listing.Registers
import RegisterMachine.Proofs.Machine.ControlFlow
import RegisterMachine.Proofs.Machine.Interruption

/-!
# What a run reports

A run that ends has taken a number of steps, one with each cycle, and then takes no further one. It
reports three records for each of these steps: the instruction that is executed, the state after it,
and the registers after it.
-/

namespace RegisterMachine.Machine

open Log

variable {p : Program} {m : Machine} {i : Instruction} {n : Nat}
  {outcome : Except StepLimitExceeded Summary}

/-! ### Texts -/

/-- What is reported before a run: the size of the program. -/
def announcement (p : Program) : Record :=
  ⟨.debug, "aqa_vm::runtime::machine", "running program of " ++ toString p.size ++ " slots"⟩

/-- What is reported of a step: the text of the slot that is executed, then counter, flag and steps
after it, then the registers after it. -/
def stepReports (text : String) (after : Machine) : List Record :=
  [⟨.trace, "aqa_vm::runtime::machine", text⟩,
    ⟨.trace, "aqa_vm::runtime::machine",
      "pc: " ++ toString after.counter.toNat ++ "\tflag: " ++ after.flag.word ++ "\tsteps: " ++
        toString after.steps⟩,
    ⟨.trace, "aqa_vm::runtime::machine", after.registers.table⟩]

/-- What is reported after a run: the number of steps, if it halted. -/
def closingReports : Except StepLimitExceeded Summary → List Record
  | .ok s =>
    [⟨.debug, "aqa_vm::runtime::machine", "halted after " ++ toString s.steps ++ " steps"⟩]
  | .error _ => []

theorem startRecord_eq (p : Program) : startRecord p = announcement p := rfl

theorem stepReports_eq (counter : Counter) (i : Instruction) (after : Machine) :
    [fetchRecord counter i, after.stateRecord, after.registerRecord] =
      stepReports (listingLine counter.toNat i) after := by
  rw [stateRecord, registerRecord, RegisterTable.text_eq, Flag.text_eq]
  rfl

theorem haltRecords_eq (outcome : Except StepLimitExceeded Summary) :
    haltRecords (some outcome) = closingReports outcome := by
  cases outcome <;> rfl

/-! ### Steps -/

/-- A cycle that executes an instruction leaves the machine after it. -/
theorem cycle_of_executes? (h : m.executes? p = some i) :
    m.cycle p = (.ok !(m.execute i).isHalted p, m.execute i) := by
  obtain ⟨fetched, room⟩ := executes?_eq_some_iff.mp h
  exact cycle_of_fetch fetched room

/-- A cycle reports nothing if it executes no instruction. -/
theorem cycleRecords_of_executes?_eq_none (h : m.executes? p = none) : m.cycleRecords p = [] := by
  rw [cycleRecords]
  split
  · next i fetched room =>
    rw [executes?_eq_some_iff.mpr ⟨fetched, room⟩] at h
    cases h
  · rfl

/-- A cycle reports the instruction that it executes, then the state and the registers after it. -/
theorem cycleRecords_of_executes? (h : m.executes? p = some i) :
    m.cycleRecords p = stepReports (listingLine m.counter.toNat i) (m.cycle p).2 := by
  obtain ⟨fetched, room⟩ := executes?_eq_some_iff.mp h
  rw [cycle_of_executes? h, ← stepReports_eq]
  simp only [cycleRecords, fetched, room]

/-- The steps are used up where the machine has reached its limit. -/
theorem exists_limit_of_overLimit? {failure : StepLimitExceeded}
    (spent : m.overLimit? = some failure) :
    ∃ limit, m.limit = some limit ∧ limit ≤ m.steps ∧ failure = ⟨limit, m.counter.toNat⟩ := by
  rw [overLimit?] at spent
  cases limited : m.limit with
  | none =>
    rw [limited] at spent
    cases spent
  | some limit =>
    simp only [limited, Option.ite_none_right_eq_some, Option.some.injEq] at spent
    exact ⟨limit, rfl, spent.1, spent.2.symm⟩

/-! ### Runs -/

/-- The machine takes `n` steps, one with each of its first cycles, and then no further one. -/
structure Takes (p : Program) (m : Machine) (n : Nat) : Prop where
  executes : ∀ k < n, ∃ i, (m.cycles p k).executes? p = some i
  stays : (m.cycles p n).executes? p = none

/-- What a run comes to where it ends: the machine has halted, or its steps are used up. -/
def EndsWith (p : Program) (m : Machine) (outcome : Except StepLimitExceeded Summary) : Prop :=
  p.fetch m.counter = none ∧ outcome = .ok m.summary ∨
    ∃ failure, m.overLimit? = some failure ∧ outcome = .error failure

/-- A machine that executes no instruction takes no step. -/
theorem takes_zero (h : m.executes? p = none) : Takes p m 0 :=
  ⟨fun k hk ↦ absurd hk (Nat.not_lt_zero k), h⟩

/-- A machine that executes an instruction takes one step more than it does after it. -/
theorem Takes.succ (executed : m.executes? p = some i) (h : Takes p (m.execute i) n) :
    Takes p m (n + 1) := by
  have after (k : Nat) : m.cycles p (k + 1) = (m.execute i).cycles p k := by
    rw [cycles_succ, cycle_of_executes? executed]
  constructor
  · intro k hk
    cases k with
    | zero => exact ⟨i, executed⟩
    | succ k =>
      rw [after]
      exact h.executes k (Nat.lt_of_succ_lt_succ hk)
  · rw [after]
    exact h.stays

/-- Every step is counted. -/
theorem Takes.steps_cycles (h : Takes p m n) {k : Nat} (hk : k ≤ n) :
    (m.cycles p k).steps = m.steps + k := by
  induction k with
  | zero => rfl
  | succ k ih =>
    obtain ⟨i, executed⟩ := h.executes k hk
    rw [cycles_succ_last, cycle_of_executes? executed, steps_execute, ih (Nat.le_of_succ_le hk),
      Nat.add_assoc]

/-- The records of the first cycles start with those of the first one. -/
theorem flatMap_cycleRecords_succ (p : Program) (m : Machine) (n : Nat) :
    ((List.range (n + 1)).flatMap fun k ↦ (m.cycles p k).cycleRecords p) =
      m.cycleRecords p ++
        (List.range n).flatMap fun k ↦ ((m.cycle p).2.cycles p k).cycleRecords p := by
  rw [List.range_succ_eq_map, List.flatMap_cons, List.flatMap_map]
  rfl

/-- A machine that executes no instruction ends its run and reports nothing. -/
theorem endsWith_of_executes?_eq_none {fuel : Nat} (stays : m.executes? p = none)
    (h : runWithin (fuel + 1) p m = some outcome) :
    EndsWith p m outcome ∧ cycleRecordsWithin (fuel + 1) p m = [] := by
  have silent := cycleRecords_of_executes?_eq_none stays
  cases fetched : p.fetch m.counter with
  | none =>
    rw [runWithin_of_halted fetched] at h
    rw [cycleRecordsWithin, cycle_of_halted fetched, silent]
    exact ⟨.inl ⟨fetched, (Option.some.inj h).symm⟩, rfl⟩
  | some i =>
    cases spent : m.overLimit? with
    | none =>
      rw [executes?_eq_some_iff.mpr ⟨fetched, spent⟩] at stays
      cases stays
    | some failure =>
      rw [runWithin_of_overLimit fetched spent] at h
      rw [cycleRecordsWithin, cycle_of_overLimit fetched spent, silent]
      exact ⟨.inr ⟨failure, spent, (Option.some.inj h).symm⟩, rfl⟩

/-- A run that ends reports the steps that it takes, each once and in order. -/
theorem exists_takes_of_runWithin {fuel : Nat} (h : runWithin fuel p m = some outcome) :
    ∃ n, Takes p m n ∧ EndsWith p (m.cycles p n) outcome ∧
      cycleRecordsWithin fuel p m =
        (List.range n).flatMap fun k ↦ (m.cycles p k).cycleRecords p := by
  induction fuel generalizing m with
  | zero => cases h
  | succ fuel ih =>
    cases executed : m.executes? p with
    | none => exact ⟨0, takes_zero executed, endsWith_of_executes?_eq_none executed h⟩
    | some i =>
      have cycled := cycle_of_executes? executed
      rw [runWithin, cycled] at h
      rw [cycleRecordsWithin, cycled]
      cases halted : (m.execute i).isHalted p with
      | true =>
        -- The instruction has ended the run, which is seen without a further cycle.
        rw [halted] at h
        have nothing := isHalted_iff.mp halted
        have last : Takes p (m.execute i) 0 := takes_zero (by rw [executes?, nothing, ite_self])
        refine ⟨1, last.succ executed, ?_, ?_⟩
        · rw [cycles_succ, cycled]
          exact .inl ⟨nothing, (Option.some.inj h).symm⟩
        · rw [flatMap_cycleRecords_succ, List.range_zero, List.flatMap_nil, List.append_nil]
          rfl
      | false =>
        rw [halted] at h
        obtain ⟨n, rest, ended, records⟩ := ih h
        refine ⟨n + 1, rest.succ executed, ?_, ?_⟩
        · rw [cycles_succ, cycled]
          exact ended
        · rw [flatMap_cycleRecords_succ, cycled, ← records]
          rfl

/-- Every record passes the threshold `trace`, and the cycles are followed. -/
theorem records_trace (h : m.run p = some outcome) :
    ∃ n, Takes p m n ∧ EndsWith p (m.cycles p n) outcome ∧
      m.records .trace p =
        announcement p :: (((List.range n).flatMap fun k ↦ (m.cycles p k).cycleRecords p) ++
          closingReports outcome) := by
  obtain ⟨n, takes, ended, records⟩ := exists_takes_of_runWithin h
  refine ⟨n, takes, ended, ?_⟩
  rw [← records, ← startRecord_eq, ← haltRecords_eq, ← h]
  rfl

end RegisterMachine.Machine
