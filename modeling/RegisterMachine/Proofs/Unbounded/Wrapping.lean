import RegisterMachine.Proofs.Machine.ControlFlow
import RegisterMachine.Proofs.Machine.Registers
import RegisterMachine.Proofs.Program.Literals
import RegisterMachine.Proofs.Unbounded.Machine

/-!
# Wrapping is arithmetic modulo `2 ^ 32`

Reducing all integers of the machine with unbounded integers gives the machine with 32-bit integers.
As long as only integers are held, every instruction but a comparison commutes with this reduction,
so that a program without comparisons runs alike on both machines (`wrap_cycles`).
-/

namespace RegisterMachine

namespace Unbounded

namespace Value

/-- The value with an integer reduced modulo `2 ^ 32`. -/
def wrap : Value → RegisterMachine.Value
  | int n => .int (Int32.ofInt n)
  | float x => .float x

/-- A literal is a value of 32 bits already. -/
theorem wrap_ofLiteral (v : RegisterMachine.Value) : (ofLiteral v).wrap = v := by
  cases v with
  | int n => exact congrArg RegisterMachine.Value.int (Int32.ofInt_toInt n)
  | float x => rfl

/-- The sum of reduced integers is their reduced sum. -/
theorem wrap_add (m n : Int) : ((int m).add (int n)).wrap = (int m).wrap.add (int n).wrap :=
  congrArg RegisterMachine.Value.int (Int32.ofInt_add m n)

/-- The difference of reduced integers is their reduced difference. -/
theorem wrap_sub (m n : Int) : ((int m).sub (int n)).wrap = (int m).wrap.sub (int n).wrap :=
  congrArg RegisterMachine.Value.int (Int32.ofInt_sub m n)

end Value

namespace Machine

/-- The machine with all integers reduced modulo `2 ^ 32`. -/
def wrap (m : Machine) : RegisterMachine.Machine :=
  ⟨m.counter, m.flag, Vector.ofFn fun r ↦ (m.registers r).wrap, m.steps, m.limit⟩

/-- All registers hold integers. -/
def HoldsIntegers (m : Machine) : Prop := ∀ r : Register, ∃ n, m.registers r = .int n

variable {m : Machine} {p : Program} {i : Instruction}

theorem get_wrap (m : Machine) (r : Register) :
    m.wrap.registers.get r = (m.registers r).wrap := Registers.get_ofFn _ r

/-- Operands have the reduced values. -/
theorem read_wrap (m : Machine) (operand : Operand) :
    m.wrap.read operand = (m.read operand).wrap := by
  cases operand with
  | register r => exact get_wrap m r
  | literal v => exact (Value.wrap_ofLiteral v).symm

/-- A reduced value is written where the value is. -/
theorem write_wrap (m : Machine) (r : Register) (v : Value) :
    m.wrap.write r v.wrap = (m.write r v).wrap := by
  have same : (m.wrap.write r v.wrap).registers = (m.write r v).wrap.registers := by
    apply Registers.ext_get
    intro s
    rw [get_wrap, RegisterMachine.Machine.get_write, get_wrap]
    exact (apply_ite Value.wrap (r = s) v (m.registers s)).symm
  exact congrArg (RegisterMachine.Machine.mk m.counter m.flag · m.steps m.limit) same

/-- Operands without binary64 literals are integers. -/
theorem HoldsIntegers.read (h : m.HoldsIntegers) {operand : Operand}
    (integral : operand.isIntegral = true) : ∃ n, m.read operand = .int n := by
  cases operand with
  | register r => exact h r
  | literal v =>
    cases v with
    | int n => exact ⟨n.toInt, rfl⟩
    | float x => cases integral

/-- Integers are held after one more was written. -/
theorem HoldsIntegers.write (h : m.HoldsIntegers) (r : Register) (n : Int) :
    (m.write r (.int n)).HoldsIntegers := by
  intro s
  by_cases same : r = s
  · exact ⟨n, if_pos same⟩
  · obtain ⟨k, held⟩ := h s
    exact ⟨k, (if_neg same).trans held⟩

theorem holdsIntegers_fresh : fresh.HoldsIntegers := fun _ ↦ ⟨0, rfl⟩

theorem wrap_fresh : fresh.wrap = RegisterMachine.Machine.fresh := by
  have same : fresh.wrap.registers = RegisterMachine.Machine.fresh.registers := by decide
  exact congrArg (RegisterMachine.Machine.mk (.slot 1) .null · 0 none) same

/-- An instruction that is no comparison commutes with the reduction, and leaves integers. -/
theorem apply_wrap (h : m.HoldsIntegers) (integral : i.isIntegral = true)
    (noComparison : i.isComparison = false) :
    m.wrap.apply i = ((m.apply i).1, (m.apply i).2.wrap) ∧ (m.apply i).2.HoldsIntegers := by
  rw [Instruction.isIntegral, List.all_eq_true] at integral
  cases i with
  | nop | halt => exact ⟨rfl, h⟩
  | cmp lhs rhs => cases noComparison
  | mov dst src =>
    obtain ⟨n, value⟩ := h.read (integral src (by simp [Instruction.operands]))
    simp only [apply, RegisterMachine.Machine.apply, read_wrap, write_wrap, value, true_and]
    exact h.write dst n
  | add dst lhs rhs | sub dst lhs rhs =>
    obtain ⟨a, left⟩ := h.read (integral lhs (by simp [Instruction.operands]))
    obtain ⟨b, right⟩ := h.read (integral rhs (by simp [Instruction.operands]))
    simp only [apply, RegisterMachine.Machine.apply, read_wrap, left, right, ← Value.wrap_add,
      ← Value.wrap_sub, write_wrap, true_and]
    exact h.write dst _
  | branch condition target =>
    simp only [apply, RegisterMachine.Machine.apply]
    by_cases taken : condition.holds m.flag = true
    · rw [if_pos taken, if_pos (show condition.holds m.wrap.flag = true from taken)]
      exact ⟨rfl, h⟩
    · rw [if_neg taken, if_neg (show ¬condition.holds m.wrap.flag = true from taken)]
      exact ⟨rfl, h⟩

/-- A step that is no comparison commutes with the reduction, and leaves integers. -/
theorem execute_wrap (h : m.HoldsIntegers) (integral : i.isIntegral = true)
    (noComparison : i.isComparison = false) :
    m.wrap.execute i = (m.execute i).wrap ∧ (m.execute i).HoldsIntegers := by
  obtain ⟨effect, integers⟩ := apply_wrap h integral noComparison
  rw [RegisterMachine.Machine.execute, effect, execute]
  -- Both sides move the counter by the same flow, so only the flow has to be known.
  revert integers
  rcases m.apply i with ⟨flow, after⟩
  intro integers
  cases flow with
  | advance | jumped => exact ⟨rfl, integers⟩

/-- A cycle that fetches no comparison commutes with the reduction, answers the same and leaves
integers. -/
theorem cycle_wrap (h : m.HoldsIntegers)
    (body : ∀ i ∈ p.body, i.isIntegral = true ∧ i.isComparison = false) :
    m.wrap.cycle p = ((m.cycle p).1, (m.cycle p).2.wrap) ∧ (m.cycle p).2.HoldsIntegers := by
  cases fetched : p.fetch m.counter with
  | none =>
    rw [RegisterMachine.Machine.cycle_of_halted (m := m.wrap) fetched]
    simp only [cycle, fetched, true_and]
    exact h
  | some i =>
    cases room : m.overLimit? with
    | some failure =>
      rw [RegisterMachine.Machine.cycle_of_overLimit (m := m.wrap) fetched room]
      simp only [cycle, fetched, room, true_and]
      exact h
    | none =>
      obtain ⟨integral, noComparison⟩ := Program.forall_fetch
        (P := fun i ↦ i.isIntegral = true ∧ i.isComparison = false) ⟨rfl, rfl⟩ body fetched
      obtain ⟨after, integers⟩ := execute_wrap h integral noComparison
      rw [RegisterMachine.Machine.cycle_of_fetch (m := m.wrap) fetched room, after]
      simp only [cycle, fetched, room]
      exact ⟨rfl, integers⟩

/-- A run without comparisons commutes with the reduction, and leaves integers. -/
theorem wrap_cycles (h : m.HoldsIntegers)
    (body : ∀ i ∈ p.body, i.isIntegral = true ∧ i.isComparison = false) (n : Nat) :
    m.wrap.cycles p n = (m.cycles p n).wrap ∧ (m.cycles p n).HoldsIntegers := by
  induction n generalizing m with
  | zero => exact ⟨rfl, h⟩
  | succ n ih =>
    obtain ⟨after, integers⟩ := cycle_wrap h body
    rw [RegisterMachine.Machine.cycles_succ, after, cycles]
    exact ih integers

end Machine

/-- A program without binary64 literals and comparisons runs alike on both machines: after any
number of cycles counter, flag, steps and whether the machine has halted are the same, and each
register holds the 32-bit integer that is congruent to the exact one. -/
theorem cycles_fresh_of_noComparison {p : Program}
    (body : ∀ i ∈ p.body, i.isIntegral = true ∧ i.isComparison = false) (n : Nat) :
    let real := RegisterMachine.Machine.fresh.cycles p n
    let ideal := Machine.fresh.cycles p n
    real.counter = ideal.counter ∧ real.flag = ideal.flag ∧ real.steps = ideal.steps ∧
      real.isHalted p = ideal.isHalted p ∧
      ∀ r : Register, ∃ (k : Int32) (v : Int), real.registers.get r = .int k ∧
        ideal.registers r = .int v ∧ k.toInt = v.bmod Int32.size := by
  intro real ideal
  obtain ⟨same, integers⟩ := Machine.wrap_cycles Machine.holdsIntegers_fresh body n
  rw [Machine.wrap_fresh] at same
  have same : real = ideal.wrap := same
  rw [same]
  refine ⟨rfl, rfl, rfl, rfl, ?_⟩
  intro r
  obtain ⟨v, held⟩ := integers r
  refine ⟨Int32.ofInt v, v, ?_, held, ?_⟩
  · exact (Machine.get_wrap ideal r).trans (congrArg Value.wrap held)
  · exact Int32.toInt_ofInt

/-- Four additions' worth of the greatest integer overflow more than once: exactly they come to
`8589934588`, and in 32 bits to `-4`. -/
theorem cycles_fresh_of_overflow :
    let p : Program :=
      ⟨#[.mov 0 (.literal (.int 2147483647)),
        .add 0 (.register 0) (.literal (.int 2147483647)), .branch .always 2]⟩
    let real := RegisterMachine.Machine.fresh.cycles p 6
    let ideal := Machine.fresh.cycles p 6
    (∀ i ∈ p.body, i.isIntegral = true ∧ i.isComparison = false) ∧
      (real.counter = ideal.counter ∧ real.flag = ideal.flag ∧ real.steps = ideal.steps ∧
        real.isHalted p = ideal.isHalted p ∧
        ∀ r : Register, ∃ (k : Int32) (v : Int), real.registers.get r = .int k ∧
          ideal.registers r = .int v ∧ k.toInt = v.bmod Int32.size) ∧
      ideal.registers 0 = .int 8589934588 ∧ real.registers.get 0 = .int (-4) := by
  intro p real ideal
  have body : ∀ i ∈ p.body, i.isIntegral = true ∧ i.isComparison = false := by decide
  exact ⟨body, cycles_fresh_of_noComparison body 6, by decide, by decide⟩

end Unbounded

end RegisterMachine
