import RegisterMachine.Proofs.Machine.StepLimit

/-!
# Runs in parts

Executing one instruction after the other leads from one state of the machine to another. Such runs
are put together, and a run that leads out of the program halts after as many cycles.
-/

namespace RegisterMachine.Machine

variable {p : Program} {m m' m'' : Machine} {i : Instruction} {n k : Nat}

/-- Executing what is fetched, `n` times, leads from one state to the other. -/
def Reaches (p : Program) : Nat → Machine → Machine → Prop
  | 0, m, m' => m = m'
  | n + 1, m, m' => ∃ i, p.fetch m.counter = some i ∧ Reaches p n (m.execute i) m'

namespace Reaches

/-- An instruction is executed first. -/
theorem step (fetched : p.fetch m.counter = some i) (rest : Reaches p n (m.execute i) m') :
    Reaches p (n + 1) m m' :=
  ⟨i, fetched, rest⟩

/-- One run after the other. -/
theorem trans (first : Reaches p n m m') (second : Reaches p k m' m'') :
    Reaches p (n + k) m m'' := by
  induction n generalizing m with
  | zero =>
    obtain rfl := first
    rw [Nat.zero_add]
    exact second
  | succ n ih =>
    obtain ⟨i, fetched, rest⟩ := first
    rw [Nat.succ_add]
    exact step fetched (ih rest)

/-- Without a limit the cycles are those of the run. -/
theorem cycles_eq (h : Reaches p n m m') (unlimited : m.limit = none) : m.cycles p n = m' := by
  induction n generalizing m with
  | zero => exact h
  | succ n ih =>
    obtain ⟨i, fetched, rest⟩ := h
    rw [cycles_succ_of_fetch unlimited fetched]
    exact ih rest (by rw [limit_execute, unlimited])

/-- Without a limit the machine does not halt during the run. -/
theorem runsFor (h : Reaches p n m m') (unlimited : m.limit = none) : RunsFor p m n := by
  induction n generalizing m with
  | zero => exact fun k hk ↦ absurd hk (Nat.not_lt_zero k)
  | succ n ih =>
    obtain ⟨i, fetched, rest⟩ := h
    intro k hk
    cases k with
    | zero => exact isHalted_eq_false_iff.mpr ⟨i, fetched⟩
    | succ k =>
      rw [cycles_succ_of_fetch unlimited fetched]
      exact ih rest (by rw [limit_execute, unlimited]) k (Nat.lt_of_succ_lt_succ hk)

/-- Without a limit the machine has halted when the run leads out of the program. -/
theorem haltsAfter (h : Reaches p n m m') (unlimited : m.limit = none)
    (ended : p.fetch m'.counter = none) : HaltsAfter p m n := by
  refine ⟨?_, h.runsFor unlimited⟩
  rw [h.cycles_eq unlimited]
  exact isHalted_iff.mpr ended

end Reaches

end RegisterMachine.Machine
