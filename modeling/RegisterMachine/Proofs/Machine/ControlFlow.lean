import RegisterMachine.Proofs.Machine.Cycle
import RegisterMachine.Proofs.Program.Slots

/-!
# Where the counter goes

An executed instruction moves the counter to the following slot, to the target of a branch, or stops
it. In a program whose branches stay inside, a machine that starts at slot 1 never comes back to
slot 0 and never passes the end.
-/

namespace RegisterMachine

/-- Every branch goes to a slot from 1 on, or to the end behind the last slot. -/
def Program.Closed (p : Program) : Prop :=
  ∀ i condition target, p.get? i = some (.branch condition target) → 1 ≤ target ∧ target ≤ p.size

/-- The counter is stopped, at a slot from 1 on, or at the end behind the last slot. -/
def Counter.InRange (p : Program) (counter : Counter) : Prop :=
  counter = .stopped ∨ ∃ i, counter = .slot i ∧ 1 ≤ i ∧ i ≤ p.size

/-- What is fetched stands in the slot of the counter. -/
theorem Program.exists_slot_of_fetch {p : Program} {counter : Counter} {i : Instruction}
    (h : p.fetch counter = some i) :
    ∃ k, counter = .slot k ∧ k < p.size ∧ p.get? k = some i := by
  cases counter with
  | stopped => cases h
  | slot k => exact ⟨k, rfl, lt_size_iff.mpr ⟨i, h⟩, h⟩

/-- What holds of the instruction in slot 0 and of those of the body holds of what is fetched. -/
theorem Program.forall_fetch {p : Program} {P : Instruction → Prop} (nop : P .nop)
    (body : ∀ i ∈ p.body, P i) {counter : Counter} {i : Instruction}
    (fetched : p.fetch counter = some i) : P i := by
  obtain ⟨k, -, -, held⟩ := exists_slot_of_fetch fetched
  exact forall_get? nop body held

namespace Machine

variable {p : Program} {m : Machine} {i : Instruction}

/-! ### One step -/

/-- An instruction that leaves the counter to move on does not move it itself. -/
theorem counter_apply_of_advance (h : (m.apply i).1 = .advance) :
    (m.apply i).2.counter = m.counter := by
  cases i with
  | halt => cases h
  | branch condition target =>
    rw [apply] at h ⊢
    split at h
    · cases h
    · rw [if_neg ‹_›]
  | nop | add | sub | cmp | mov => rfl

/-- Where an executed instruction leaves the counter. -/
theorem counter_execute_cases (m : Machine) (i : Instruction) :
    i = .halt ∧ (m.execute i).counter = .stopped ∨
      (∃ condition target, i = .branch condition target ∧
        (m.execute i).counter = .slot target) ∨
      (m.apply i).1 = .advance ∧ (m.execute i).counter = m.counter.next := by
  cases i with
  | halt => exact .inl ⟨rfl, rfl⟩
  | branch condition target =>
    by_cases taken : condition.holds m.flag = true
    · refine .inr (.inl ⟨condition, target, rfl, ?_⟩)
      rw [execute_branch_of_holds taken]
    · refine .inr (.inr ⟨?_, ?_⟩)
      · rw [apply, if_neg taken]
      · rw [execute_branch_of_not_holds taken]
  | nop | add | sub | cmp | mov => exact .inr (.inr ⟨rfl, rfl⟩)

/-- An executed instruction leaves the counter in range. -/
theorem inRange_execute (closed : p.Closed) (h : p.fetch m.counter = some i) :
    (m.execute i).counter.InRange p := by
  obtain ⟨k, slot, inside, held⟩ := Program.exists_slot_of_fetch h
  rcases counter_execute_cases m i with
    ⟨-, stopped⟩ | ⟨condition, target, rfl, jumped⟩ | ⟨-, next⟩
  · exact .inl stopped
  · exact .inr ⟨target, jumped, closed k condition target held⟩
  · rw [slot] at next
    exact .inr ⟨k + 1, next, Nat.succ_pos k, inside⟩

/-- Moving on from a slot does not pass the end. -/
theorem toNat_counter_execute_of_advance (h : p.fetch m.counter = some i)
    (advance : (m.apply i).1 = .advance) :
    (m.execute i).counter.toNat = m.counter.toNat + 1 ∧ m.counter.toNat + 1 ≤ p.size := by
  obtain ⟨k, slot, inside, -⟩ := Program.exists_slot_of_fetch h
  rw [counter_execute_of_advance advance, counter_apply_of_advance advance, slot]
  exact ⟨rfl, inside⟩

/-- In range only a counter at the end or a stopped one has nothing to fetch. -/
theorem isHalted_iff_of_inRange (h : m.counter.InRange p) :
    m.isHalted p = true ↔ m.counter = .slot p.size ∨ m.counter = .stopped := by
  rw [isHalted_iff]
  rcases h with stopped | ⟨k, slot, -, inside⟩
  · simp [stopped, Program.fetch]
  · simp only [slot, Program.fetch, Program.get?_eq_none_iff, Counter.slot.injEq, reduceCtorEq,
      or_false]
    omega

/-! ### Several cycles -/

/-- The instruction that the next cycle executes, if it takes a step. -/
def executes? (p : Program) (m : Machine) : Option Instruction :=
  if m.overLimit?.isNone then p.fetch m.counter else none

/-- A cycle executes an instruction if it is fetched and the steps are not used up. -/
theorem executes?_eq_some_iff :
    m.executes? p = some i ↔ p.fetch m.counter = some i ∧ m.overLimit? = none := by
  rw [executes?]
  cases m.overLimit? with
  | none => simp
  | some failure => simp

/-- What the next cycle executes is fetched. -/
theorem fetch_of_executes? (h : m.executes? p = some i) : p.fetch m.counter = some i :=
  (executes?_eq_some_iff.mp h).1

/-- A cycle executes an instruction, or leaves the machine as it is. -/
theorem cycle_eq_or (p : Program) (m : Machine) :
    (m.cycle p).2 = m ∨ ∃ i, m.executes? p = some i ∧ (m.cycle p).2 = m.execute i := by
  rcases cycle_cases p m with stays | ⟨i, fetched, room, after⟩
  · exact .inl stays
  · exact .inr ⟨i, executes?_eq_some_iff.mpr ⟨fetched, room⟩, after⟩

/-- The last cycle comes after the others. -/
theorem cycles_succ_last (p : Program) (m : Machine) (n : Nat) :
    m.cycles p (n + 1) = ((m.cycles p n).cycle p).2 := by
  induction n generalizing m with
  | zero => rfl
  | succ n ih => rw [cycles_succ, ih, cycles_succ]

/-- What every executed instruction keeps holds after any number of cycles. -/
theorem cycles_invariant {P : Machine → Prop} (start : P m)
    (step : ∀ m i, P m → m.executes? p = some i → P (m.execute i)) (n : Nat) :
    P (m.cycles p n) := by
  induction n with
  | zero => exact start
  | succ n ih =>
    rw [cycles_succ_last]
    rcases cycle_eq_or p (m.cycles p n) with stays | ⟨i, executed, after⟩
    · rw [stays]
      exact ih
    · rw [after]
      exact step _ i ih executed

/-- A machine is what the last cycle that took a step has left, or as it was at first. -/
theorem cycles_eq_or (p : Program) (m : Machine) (n : Nat) :
    m.cycles p n = m ∨
      ∃ k < n, ∃ i, (m.cycles p k).executes? p = some i ∧
        m.cycles p n = (m.cycles p k).execute i := by
  induction n with
  | zero => exact .inl rfl
  | succ n ih =>
    rw [cycles_succ_last]
    rcases cycle_eq_or p (m.cycles p n) with stays | ⟨i, executed, after⟩
    · rw [stays]
      rcases ih with first | ⟨k, hk, i, executed, after⟩
      · exact .inl first
      · exact .inr ⟨k, by omega, i, executed, after⟩
    · exact .inr ⟨n, by omega, i, executed, after⟩

/-- The counter stays in range, however often the machine is cycled. -/
theorem inRange_cycles (closed : p.Closed) (h : m.counter.InRange p) (n : Nat) :
    (m.cycles p n).counter.InRange p := by
  rcases cycles_eq_or p m n with first | ⟨k, -, i, executed, after⟩
  · rw [first]
    exact h
  · rw [after]
    exact inRange_execute closed (fetch_of_executes? executed)

/-- A machine is only stopped by an instruction to halt. -/
theorem exists_halt_of_stopped (running : m.counter ≠ .stopped) {n : Nat}
    (stopped : (m.cycles p n).counter = .stopped) :
    ∃ k < n, (m.cycles p k).executes? p = some .halt := by
  rcases cycles_eq_or p m n with first | ⟨k, hk, i, executed, after⟩
  · rw [first] at stopped
    exact absurd stopped running
  · obtain ⟨slot, place, -, -⟩ := Program.exists_slot_of_fetch (fetch_of_executes? executed)
    rw [after] at stopped
    rcases counter_execute_cases (m.cycles p k) i with
      ⟨rfl, -⟩ | ⟨condition, target, -, jumped⟩ | ⟨-, next⟩
    · exact ⟨k, hk, executed⟩
    · rw [jumped] at stopped
      cases stopped
    · rw [next, place] at stopped
      cases stopped

/-- A machine comes to a slot from the slot before or by a branch, unless it starts there. -/
theorem exists_step_of_counter_eq {n slot : Nat} (arrived : (m.cycles p n).counter = .slot slot) :
    m.counter = .slot slot ∨
      ∃ k < n, ∃ i, (m.cycles p k).executes? p = some i ∧
        ((m.cycles p k).counter.next = .slot slot ∨ ∃ condition, i = .branch condition slot) := by
  rcases cycles_eq_or p m n with first | ⟨k, hk, i, executed, after⟩
  · rw [first] at arrived
    exact .inl arrived
  · rw [after] at arrived
    refine .inr ⟨k, hk, i, executed, ?_⟩
    rcases counter_execute_cases (m.cycles p k) i with
      ⟨-, stopped⟩ | ⟨condition, target, rfl, jumped⟩ | ⟨-, next⟩
    · rw [stopped] at arrived
      cases arrived
    · rw [jumped] at arrived
      cases arrived
      exact .inr ⟨condition, rfl⟩
    · rw [next] at arrived
      exact .inl arrived

end Machine

end RegisterMachine
