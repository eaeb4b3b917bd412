import RegisterMachine.Proofs.Machine.ControlFlow
import RegisterMachine.Proofs.Machine.Registers
import RegisterMachine.Proofs.Program.Literals

/-!
# Machines that hold integers

Binary64 numbers only come from literals: copying keeps an integer what it is, and sums and
differences of integers are integers. So a program without binary64 literals leaves integers in all
registers, wherever it goes.
-/

namespace RegisterMachine.Machine

/-- All registers hold integers. -/
def IsIntegral (m : Machine) : Prop := ∀ r : Register, ∃ n : Int32, m.registers.get r = .int n

variable {p : Program} {m : Machine} {i : Instruction}

/-- A fresh machine holds zeros. -/
theorem isIntegral_fresh : fresh.IsIntegral := fun r ↦ ⟨0, get_fresh r⟩

namespace IsIntegral

/-- Operands are integers if they are no binary64 literals. -/
theorem read (h : m.IsIntegral) {x : Operand} (integral : x.isIntegral = true) :
    ∃ n : Int32, m.read x = .int n := by
  cases x with
  | register r => exact h r
  | literal v =>
    cases v with
    | int n => exact ⟨n, rfl⟩
    | float x => cases integral

/-- One more integer may be written. -/
theorem write (h : m.IsIntegral) (r : Register) (n : Int32) : (m.write r (.int n)).IsIntegral := by
  intro s
  rw [get_write]
  split
  · exact ⟨n, rfl⟩
  · exact h s

/-- Nothing but the registers matters. -/
theorem congr {m' : Machine} (h : m.IsIntegral) (same : m'.registers = m.registers) :
    m'.IsIntegral := by
  intro r
  rw [same]
  exact h r

/-- The effect of an instruction without binary64 literals leaves integers. -/
theorem apply (h : m.IsIntegral) (integral : i.isIntegral = true) :
    (m.apply i).2.IsIntegral := by
  rw [Instruction.isIntegral, List.all_eq_true] at integral
  cases i with
  | nop | halt | cmp lhs rhs => exact h
  | branch condition target =>
    rw [Machine.apply]
    split
    · exact h
    · exact h
  | mov dst src =>
    obtain ⟨n, value⟩ := h.read (integral src (by simp [Instruction.operands]))
    rw [Machine.apply, value]
    exact h.write dst n
  | add dst lhs rhs | sub dst lhs rhs =>
    obtain ⟨a, left⟩ := h.read (integral lhs (by simp [Instruction.operands]))
    obtain ⟨b, right⟩ := h.read (integral rhs (by simp [Instruction.operands]))
    rw [Machine.apply, left, right]
    exact h.write dst _

/-- A step of an instruction without binary64 literals leaves integers. -/
theorem execute (h : m.IsIntegral) (integral : i.isIntegral = true) :
    (m.execute i).IsIntegral :=
  (h.apply integral).congr (registers_execute m i)

/-- Any number of cycles of a program without binary64 literals leaves integers. -/
theorem cycles (h : m.IsIntegral) (body : ∀ i ∈ p.body, i.isIntegral = true) (n : Nat) :
    (m.cycles p n).IsIntegral := by
  apply cycles_invariant h
  intro m i integers executed
  have fetched := fetch_of_executes? executed
  exact integers.execute (Program.forall_fetch (P := fun i ↦ i.isIntegral = true) rfl body fetched)

end IsIntegral

end RegisterMachine.Machine
