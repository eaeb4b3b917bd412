import Mathlib.Data.Nat.Find
import RegisterMachine.Proofs.Machine.Cycle

/-!
# Runs under a step limit

A run with a step limit is the run without one, cut off after that many steps: it halts where the
other halts, or it stops at the slot that the other has reached.
-/

namespace RegisterMachine.Machine

variable {p : Program} {m : Machine} {i : Instruction} {limit : Nat}

/-- The machine has an instruction to fetch in each of its first `n` cycles. -/
def RunsFor (p : Program) (m : Machine) (n : Nat) : Prop :=
  ∀ k < n, (m.cycles p k).isHalted p = false

/-- The machine has halted after `n` cycles, and not before. -/
def HaltsAfter (p : Program) (m : Machine) (n : Nat) : Prop :=
  (m.cycles p n).isHalted p = true ∧ RunsFor p m n

instance (p : Program) (m : Machine) (n : Nat) : Decidable (RunsFor p m n) :=
  inferInstanceAs (Decidable (∀ k < n, (m.cycles p k).isHalted p = false))

instance (p : Program) (m : Machine) (n : Nat) : Decidable (HaltsAfter p m n) :=
  inferInstanceAs (Decidable ((m.cycles p n).isHalted p = true ∧ RunsFor p m n))

/-! ### One cycle of a run -/

/-- A halted machine ends its run at once. -/
theorem runWithin_of_halted (h : p.fetch m.counter = none) (n : Nat) :
    runWithin (n + 1) p m = some (.ok m.summary) := by
  simp only [runWithin, cycle_of_halted h]

/-- A machine whose steps are used up fails. -/
theorem runWithin_of_overLimit {failure : StepLimitExceeded} (h : p.fetch m.counter = some i)
    (spent : m.overLimit? = some failure) (n : Nat) :
    runWithin (n + 1) p m = some (.error failure) := by
  simp only [runWithin, cycle_of_overLimit h spent]

/-- Any other machine executes the instruction it fetches, and its run goes on. -/
theorem runWithin_of_fetch (h : p.fetch m.counter = some i) (room : m.overLimit? = none)
    (n : Nat) : runWithin (n + 2) p m = runWithin (n + 1) p (m.execute i) := by
  rw [runWithin, cycle_of_fetch h room]
  cases ended : (m.execute i).isHalted p with
  | true => exact (runWithin_of_halted (isHalted_iff.mp ended) n).symm
  | false => rfl

/-! ### Runs with a limit -/

/-- A halted machine ends its run at once. -/
theorem run_of_halted (h : p.fetch m.counter = none) (limited : m.limit = some limit) :
    m.run p = some (.ok m.summary) := by
  simp only [run, horizon, limited]
  exact runWithin_of_halted h _

/-- A machine that goes on at its limit fails. -/
theorem run_of_le (h : p.fetch m.counter = some i) (limited : m.limit = some limit)
    (spent : limit ≤ m.steps) : m.run p = some (.error ⟨limit, m.counter.toNat⟩) := by
  simp only [run, horizon, limited]
  exact runWithin_of_overLimit h (overLimit?_of_le limited spent) _

/-- Below its limit a machine executes the instruction it fetches, and its run goes on. -/
theorem run_of_lt (h : p.fetch m.counter = some i) (limited : m.limit = some limit)
    (room : m.steps < limit) : m.run p = (m.execute i).run p := by
  simp only [run, horizon, limited, limit_execute, steps_execute]
  rw [show limit - m.steps + 1 = limit - (m.steps + 1) + 2 by omega]
  exact runWithin_of_fetch h (overLimit?_of_lt limited room) _

/-- A limit that is not reached yet is carried over a step. -/
theorem run_withLimit_of_lt (h : p.fetch m.counter = some i) (room : m.steps < limit) :
    (m.withLimit limit).run p = ((m.execute i).withLimit limit).run p := by
  rw [← execute_withLimit]
  exact run_of_lt (m := m.withLimit limit) h limit_withLimit room

/-! ### Against the machine without a limit -/

/-- A machine that runs for one cycle or more fetches an instruction and then runs for the cycles
that are left. -/
theorem RunsFor.succ {n : Nat} (unlimited : m.limit = none) (h : RunsFor p m (n + 1)) :
    ∃ i, p.fetch m.counter = some i ∧ RunsFor p (m.execute i) n := by
  obtain ⟨i, hi⟩ := isHalted_eq_false_iff.mp (h 0 (by omega))
  refine ⟨i, hi, ?_⟩
  intro k hk
  rw [← cycles_succ_of_fetch unlimited hi]
  exact h (k + 1) (by omega)

/-- A machine that halts after one cycle or more fetches an instruction and halts one cycle
earlier once that is executed. -/
theorem HaltsAfter.succ {n : Nat} (unlimited : m.limit = none) (h : HaltsAfter p m (n + 1)) :
    ∃ i, p.fetch m.counter = some i ∧ HaltsAfter p (m.execute i) n := by
  obtain ⟨i, hi, rest⟩ := h.2.succ unlimited
  refine ⟨i, hi, ?_, rest⟩
  rw [← cycles_succ_of_fetch unlimited hi]
  exact h.1

/-- A machine that halts does so for a first time. -/
theorem exists_haltsAfter {n : Nat} (h : (m.cycles p n).isHalted p = true) :
    ∃ k ≤ n, HaltsAfter p m k := by
  have ever : ∃ k, (m.cycles p k).isHalted p = true := ⟨n, h⟩
  refine ⟨Nat.find ever, Nat.find_min' ever h, Nat.find_spec ever, ?_⟩
  intro k hk
  exact Bool.eq_false_iff.mpr (Nat.find_min ever hk)

/-- Up to any number of cycles a machine either halts or keeps running. -/
theorem haltsAfter_or_runsFor (p : Program) (m : Machine) (n : Nat) :
    (∃ k ≤ n, HaltsAfter p m k) ∨ RunsFor p m (n + 1) := by
  by_cases ever : ∃ k ≤ n, (m.cycles p k).isHalted p = true
  · obtain ⟨k, hk, halted⟩ := ever
    obtain ⟨first, hle, h⟩ := exists_haltsAfter halted
    exact .inl ⟨first, by omega, h⟩
  · refine .inr fun k hk ↦ Bool.eq_false_iff.mpr ?_
    intro halted
    exact ever ⟨k, by omega, halted⟩

/-- Every cycle before the machine halts is a step. -/
theorem RunsFor.steps_cycles (unlimited : m.limit = none) {n : Nat} (h : RunsFor p m n) :
    (m.cycles p n).steps = m.steps + n := by
  induction n generalizing m with
  | zero => rfl
  | succ n ih =>
    obtain ⟨i, hi, rest⟩ := h.succ unlimited
    rw [cycles_succ_of_fetch unlimited hi, ih (by rw [limit_execute, unlimited]) rest,
      steps_execute]
    omega

/-- Under a limit that it can keep a machine halts as without one. -/
theorem HaltsAfter.run_withLimit (unlimited : m.limit = none) {n : Nat} (h : HaltsAfter p m n)
    (within : m.steps + n ≤ limit) :
    (m.withLimit limit).run p = some (.ok (m.cycles p n).summary) := by
  induction n generalizing m with
  | zero => exact run_of_halted (isHalted_iff.mp h.1) limit_withLimit
  | succ n ih =>
    obtain ⟨i, hi, rest⟩ := h.succ unlimited
    rw [run_withLimit_of_lt hi (by omega), cycles_succ_of_fetch unlimited hi]
    apply ih
    · rw [limit_execute, unlimited]
    · exact rest
    · rw [steps_execute]; omega

/-- Under a limit that it cannot keep a machine fails where it is once its steps are used up. -/
theorem RunsFor.run_withLimit (unlimited : m.limit = none) {n : Nat} (h : RunsFor p m (n + 1))
    (spent : m.steps + n = limit) :
    (m.withLimit limit).run p = some (.error ⟨limit, (m.cycles p n).counter.toNat⟩) := by
  induction n generalizing m with
  | zero =>
    obtain ⟨i, hi, -⟩ := h.succ unlimited
    exact run_of_le (m := m.withLimit limit) hi limit_withLimit (by rw [steps_withLimit]; omega)
  | succ n ih =>
    obtain ⟨i, hi, rest⟩ := h.succ unlimited
    rw [run_withLimit_of_lt hi (by omega), cycles_succ_of_fetch unlimited hi]
    apply ih
    · rw [limit_execute, unlimited]
    · exact rest
    · rw [steps_execute]; omega

/-- A machine without a limit is followed until it halts, if it halts in time. -/
theorem HaltsAfter.runWithin (unlimited : m.limit = none) {n horizon : Nat}
    (h : HaltsAfter p m n) (followed : n < horizon) :
    Machine.runWithin horizon p m = some (.ok (m.cycles p n).summary) := by
  induction n generalizing m horizon with
  | zero =>
    obtain ⟨later, rfl⟩ := Nat.exists_eq_add_of_lt followed
    rw [Nat.zero_add]
    exact runWithin_of_halted (isHalted_iff.mp h.1) later
  | succ n ih =>
    obtain ⟨i, hi, rest⟩ := h.succ unlimited
    obtain ⟨later, rfl⟩ := Nat.exists_eq_add_of_lt followed
    rw [cycles_succ_of_fetch unlimited hi, show n + 1 + later + 1 = n + later + 2 by omega,
      runWithin_of_fetch hi (overLimit?_of_limit_none unlimited)]
    apply ih
    · rw [limit_execute, unlimited]
    · exact rest
    · omega

/-- A machine without a limit that halts in fewer cycles than there are 64-bit words has run to its
end. -/
theorem HaltsAfter.run (unlimited : m.limit = none) {n : Nat} (h : HaltsAfter p m n)
    (followed : n < UInt64.size) : m.run p = some (.ok (m.cycles p n).summary) := by
  rw [Machine.run, horizon, unlimited]
  exact h.runWithin unlimited followed

/-! ### The fresh machine -/

/-- A fresh machine that halts has taken a step in each cycle. -/
theorem HaltsAfter.summary_fresh {n : Nat} (h : HaltsAfter p fresh n) :
    (fresh.cycles p n).summary =
      ⟨n, (fresh.cycles p n).flag, (fresh.cycles p n).registers⟩ := by
  have counted : (fresh.cycles p n).steps = fresh.steps + n := h.2.steps_cycles rfl
  rw [summary, counted, steps_fresh, Nat.zero_add]

/-- Under a limit that it can keep a fresh machine halts as without one. -/
theorem HaltsAfter.run_withLimit_fresh {n : Nat} (h : HaltsAfter p fresh n) (hn : n ≤ limit) :
    (fresh.withLimit limit).run p = some (.ok (fresh.cycles p n).summary) :=
  h.run_withLimit rfl (by rw [steps_fresh]; omega)

/-- Under a limit that it cannot keep a fresh machine fails where it is then. -/
theorem RunsFor.run_withLimit_fresh (h : RunsFor p fresh (limit + 1)) :
    (fresh.withLimit limit).run p =
      some (.error ⟨limit, (fresh.cycles p limit).counter.toNat⟩) :=
  h.run_withLimit rfl (by rw [steps_fresh]; omega)

/-- A run with a limit ends. If the machine without a limit halts within as many cycles, both
agree on steps, flag and registers; otherwise the run fails at the slot that the other has
reached. It never takes more steps than the limit, and a run that halts is the same under every
greater limit, and without a limit. -/
theorem run_fresh_withLimit (p : Program) (limit : Nat) :
    (∀ n ≤ limit, HaltsAfter p fresh n →
      (fresh.withLimit limit).run p =
        some (.ok ⟨n, (fresh.cycles p n).flag, (fresh.cycles p n).registers⟩)) ∧
    ((∀ n ≤ limit, (fresh.cycles p n).isHalted p = false) →
      (fresh.withLimit limit).run p =
        some (.error ⟨limit, (fresh.cycles p limit).counter.toNat⟩)) ∧
    ((fresh.withLimit limit).run p).isSome = true ∧
    (∀ n, ((fresh.withLimit limit).cycles p n).steps ≤ limit) ∧
    (∀ s, (fresh.withLimit limit).run p = some (.ok s) →
      (∀ further ≥ limit, (fresh.withLimit further).run p = some (.ok s)) ∧
      (limit < UInt64.size → fresh.run p = some (.ok s))) := by
  refine ⟨?_, ?_, ?_, ?_, ?_⟩
  · intro n hn h
    rw [h.run_withLimit_fresh hn, h.summary_fresh]
  · intro running
    exact RunsFor.run_withLimit_fresh fun n hn ↦ running n (by omega)
  · rcases haltsAfter_or_runsFor p fresh limit with ⟨n, hn, h⟩ | h
    · rw [h.run_withLimit_fresh hn]; rfl
    · rw [h.run_withLimit_fresh]; rfl
  · exact steps_cycles_le limit_withLimit (Nat.zero_le limit)
  · intro s hs
    rcases haltsAfter_or_runsFor p fresh limit with ⟨n, hn, h⟩ | h
    · rw [h.run_withLimit_fresh hn] at hs
      rw [← hs]
      refine ⟨fun further hle ↦ h.run_withLimit_fresh (by omega), ?_⟩
      intro bounded
      exact h.run rfl (by omega)
    · rw [h.run_withLimit_fresh] at hs
      cases hs

/-- A program that jumps out of its slots with the second step. -/
def jumpOut : Program := ⟨#[.cmp (.literal (.int 7)) (.literal (.int 7)), .branch .always 9]⟩

/-- Two steps are enough for a program that leaves its slots with the second one, and one step is
too few. -/
theorem run_jumpOut_withLimit :
    (2 ≤ 2 ∧ HaltsAfter jumpOut fresh 2 ∧ (fresh.withLimit 2).run jumpOut =
      some (.ok ⟨2, .eq, fresh.registers⟩)) ∧
    ((∀ n ≤ 1, (fresh.cycles jumpOut n).isHalted jumpOut = false) ∧
      (fresh.withLimit 1).run jumpOut = some (.error ⟨1, 2⟩)) ∧
    (2 ≤ 5 ∧ 2 < UInt64.size ∧ (fresh.withLimit 5).run jumpOut = fresh.run jumpOut) := by
  have two := run_fresh_withLimit jumpOut 2
  have one := run_fresh_withLimit jumpOut 1
  have halts : HaltsAfter jumpOut fresh 2 := by decide
  have running : ∀ n ≤ 1, (fresh.cycles jumpOut n).isHalted jumpOut = false := by decide
  have ended := two.1 2 (by decide) halts
  have same := two.2.2.2.2 _ ended
  refine ⟨⟨by decide, halts, ended⟩, ⟨running, one.2.1 running⟩, by decide, by decide, ?_⟩
  rw [same.1 5 (by decide), same.2 (by decide)]

end RegisterMachine.Machine
