import RegisterMachine.Proofs.Machine.Records
import RegisterMachine.Proofs.Machine.Registers
import RegisterMachine.Proofs.Program.Literals

/-!
# Where registers and flag come from

An instruction writes no register but its destination, and only a comparison sets the flag. So what
a register holds goes back to the last executed instruction with that destination, and the flag to
the last executed comparison, whatever was executed since (`Machine.observe_cycles`).
-/

namespace RegisterMachine

/-- A comparison has two operands. -/
theorem Instruction.exists_eq_cmp {i : Instruction} (comparison : i.isComparison = true) :
    ∃ lhs rhs, i = .cmp lhs rhs := by
  cases i with
  | cmp lhs rhs => exact ⟨lhs, rhs, rfl⟩
  | _ => cases comparison

/-- No comparison gives `ne`. -/
theorem Flag.ofOrdering_ne_ne (o : Ordering) : ofOrdering o ≠ .ne := by
  cases o <;> decide

namespace Machine

variable {p : Program} {m : Machine} {i : Instruction} {n k : Nat} {P : Instruction → Prop}

/-! ### One step -/

/-- A step writes no register but the destination of its instruction. -/
theorem get_execute_of_ne {r : Register} (other : i.destination? ≠ some r) (m : Machine) :
    (m.execute i).registers.get r = m.registers.get r := by
  have elsewhere {dst : Register} (v : Value) (h : some dst ≠ some r) :
      (m.write dst v).registers.get r = m.registers.get r := by
    rw [get_write, if_neg fun same ↦ h (congrArg some same)]
  rw [registers_execute]
  cases i with
  | add dst lhs rhs | sub dst lhs rhs | mov dst src => exact elsewhere _ other
  | nop | cmp lhs rhs | halt => rfl
  | branch condition target =>
    rw [apply]
    split <;> rfl

/-- Only a comparison sets the flag. -/
theorem flag_execute_of_not_isComparison (other : ¬i.isComparison = true) (m : Machine) :
    (m.execute i).flag = m.flag := by
  rw [flag_execute]
  cases i with
  | cmp lhs rhs => exact absurd rfl other
  | nop | add dst lhs rhs | sub dst lhs rhs | mov dst src | halt => rfl
  | branch condition target =>
    rw [apply]
    split <;> rfl

/-- A comparison sets the flag to its outcome. -/
theorem flag_execute_cmp (m : Machine) (lhs rhs : Operand) :
    (m.execute (.cmp lhs rhs)).flag = .ofOrdering ((m.read lhs).compare (m.read rhs)) := rfl

/-! ### Several steps -/

/-- None of the first `n` cycles executes an instruction of the kind. -/
def NeverExecutes (p : Program) (m : Machine) (n : Nat) (P : Instruction → Prop) : Prop :=
  ∀ k < n, ∀ i, (m.cycles p k).executes? p = some i → ¬P i

/-- Cycle `k` executes the instruction, which is of the kind, and no other of the first `n` cycles
after it does so. -/
structure LastExecutes (p : Program) (m : Machine) (n : Nat) (P : Instruction → Prop) (k : Nat)
    (i : Instruction) : Prop where
  lt : k < n
  executes : (m.cycles p k).executes? p = some i
  kind : P i
  last : ∀ j, k < j → j < n → ∀ i', (m.cycles p j).executes? p = some i' → ¬P i'

/-- A further cycle that executes no instruction of the kind. -/
theorem NeverExecutes.succ (h : NeverExecutes p m n P)
    (quiet : ∀ i, (m.cycles p n).executes? p = some i → ¬P i) : NeverExecutes p m (n + 1) P := by
  intro k hk
  rcases Nat.lt_succ_iff_lt_or_eq.mp hk with before | rfl
  · exact h k before
  · exact quiet

/-- A further cycle that executes no instruction of the kind leaves the last one the last. -/
theorem LastExecutes.succ (h : LastExecutes p m n P k i)
    (quiet : ∀ i, (m.cycles p n).executes? p = some i → ¬P i) :
    LastExecutes p m (n + 1) P k i where
  lt := Nat.lt_succ_of_lt h.lt
  executes := h.executes
  kind := h.kind
  last j after hj := by
    rcases Nat.lt_succ_iff_lt_or_eq.mp hj with before | rfl
    · exact h.last j after before
    · exact quiet

/-- What only instructions of one kind change is as it was at first if none of them was executed,
and else what the last of them left. -/
theorem observe_cycles {α : Type} (observe : Machine → α)
    (keeps : ∀ (m : Machine) i, ¬P i → observe (m.execute i) = observe m) (p : Program)
    (m : Machine) (n : Nat) :
    NeverExecutes p m n P ∧ observe (m.cycles p n) = observe m ∨
      ∃ k i, LastExecutes p m n P k i ∧
        observe (m.cycles p n) = observe ((m.cycles p k).execute i) := by
  induction n with
  | zero => exact .inl ⟨fun k hk ↦ absurd hk (Nat.not_lt_zero k), rfl⟩
  | succ n ih =>
    -- Either the last cycle is the one asked for, or both outcomes pass through it.
    by_cases decisive : ∃ i, (m.cycles p n).executes? p = some i ∧ P i
    · obtain ⟨i, executed, kind⟩ := decisive
      refine .inr ⟨n, i, ⟨Nat.lt_succ_self n, executed, kind, ?_⟩, ?_⟩
      · intro j after before
        omega
      · rw [cycles_succ_last, cycle_of_executes? executed]
    · have quiet : ∀ i, (m.cycles p n).executes? p = some i → ¬P i :=
        fun i executed kind ↦ decisive ⟨i, executed, kind⟩
      have same : observe (m.cycles p (n + 1)) = observe (m.cycles p n) := by
        rw [cycles_succ_last]
        rcases cycle_eq_or p (m.cycles p n) with stays | ⟨i, executed, after⟩
        · rw [stays]
        · rw [after, keeps _ i (quiet i executed)]
      rcases ih with ⟨never, first⟩ | ⟨k, i, last, left⟩
      · exact .inl ⟨never.succ quiet, same.trans first⟩
      · exact .inr ⟨k, i, last.succ quiet, same.trans left⟩

/-- What is executed stands in the program. -/
theorem mem_instructions_of_executes? (executed : m.executes? p = some i) :
    i ∈ p.instructions := by
  obtain ⟨k, -, -, held⟩ := Program.exists_slot_of_fetch (fetch_of_executes? executed)
  rw [← Program.getElem?_instructions] at held
  exact List.mem_of_getElem? held

/-- A register that no instruction of the program writes holds what it held. -/
theorem get_cycles_of_unwritten {r : Register}
    (unwritten : ∀ i ∈ p.instructions, i.destination? ≠ some r) (m : Machine) (n : Nat) :
    (m.cycles p n).registers.get r = m.registers.get r := by
  rcases observe_cycles (fun m ↦ m.registers.get r) (fun m _ other ↦ get_execute_of_ne other m)
    p m n with ⟨-, first⟩ | ⟨k, i, last, -⟩
  · exact first
  · exact absurd last.kind (unwritten i (mem_instructions_of_executes? last.executes))

/-- The flag is what it was until a comparison is executed, and then the outcome of the last one, on
what its operands were when it was executed. -/
theorem flag_cycles (p : Program) (m : Machine) (n : Nat) :
    NeverExecutes p m n (·.isComparison) ∧ (m.cycles p n).flag = m.flag ∨
      ∃ k lhs rhs, LastExecutes p m n (·.isComparison) k (.cmp lhs rhs) ∧
        (m.cycles p n).flag =
          .ofOrdering (((m.cycles p k).read lhs).compare ((m.cycles p k).read rhs)) := by
  rcases observe_cycles flag (fun m _ other ↦ flag_execute_of_not_isComparison other m)
    p m n with never | ⟨k, i, last, left⟩
  · exact .inl never
  · obtain ⟨lhs, rhs, rfl⟩ := Instruction.exists_eq_cmp last.kind
    exact .inr ⟨k, lhs, rhs, last, left.trans (flag_execute_cmp _ lhs rhs)⟩

/-- A fresh machine under any limit, after any number of cycles. A register that no instruction of
the program writes still holds zero. The flag is never `ne`: it is `null` as long as no comparison
was executed, and then the outcome of the last executed one, on what its operands were when it was
executed. -/
theorem registers_and_flag_cycles_fresh (p : Program) (limit : Option Nat) (n : Nat) :
    let start : Machine := { fresh with limit := limit }
    let m := start.cycles p n
    (∀ r : Register, (∀ i ∈ p.instructions, i.destination? ≠ some r) →
      m.registers.get r = .int 0) ∧
    m.flag ≠ .ne ∧
    (NeverExecutes p start n (·.isComparison) ∧ m.flag = .null ∨
      ∃ k lhs rhs, LastExecutes p start n (·.isComparison) k (.cmp lhs rhs) ∧
        m.flag =
          .ofOrdering (((start.cycles p k).read lhs).compare ((start.cycles p k).read rhs))) := by
  intro start m
  refine ⟨?_, ?_, flag_cycles p start n⟩
  · intro r unwritten
    exact (get_cycles_of_unwritten unwritten start n).trans (get_fresh r)
  · rcases flag_cycles p start n with ⟨-, first⟩ | ⟨k, lhs, rhs, -, compared⟩
    · rw [first]
      show Flag.null ≠ .ne
      decide
    · rw [compared]
      exact Flag.ofOrdering_ne_ne _

/-- The register of a comparison is overwritten before the branch that asks for its outcome, and
register 3 is only read. -/
theorem registers_and_flag_cycles_overwritten :
    let p : Program := ⟨#[.mov 0 (.literal (.int 5)), .cmp (.register 0) (.literal (.int 7)),
      .mov 0 (.register 3), .branch .lt 1]⟩
    let m := fresh.cycles p 4
    (∀ i ∈ p.instructions, i.destination? ≠ some 3) ∧ m.registers.get 3 = .int 0 ∧
      (m.counter = .slot 1 ∧ m.flag = .lt ∧ m.registers.get 0 = .int 0) ∧
      (NeverExecutes p fresh 4 (·.isComparison) ∧ m.flag = .null ∨
        ∃ k lhs rhs, LastExecutes p fresh 4 (·.isComparison) k (.cmp lhs rhs) ∧
          m.flag =
            .ofOrdering (((fresh.cycles p k).read lhs).compare ((fresh.cycles p k).read rhs))) := by
  intro p m
  have unwritten : ∀ i ∈ p.instructions, i.destination? ≠ some 3 := by decide
  obtain ⟨registers, -, flag⟩ := registers_and_flag_cycles_fresh p none 4
  exact ⟨unwritten, registers 3 unwritten, by decide, flag⟩

end Machine

end RegisterMachine
