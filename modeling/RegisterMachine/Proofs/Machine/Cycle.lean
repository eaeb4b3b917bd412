import RegisterMachine.Machine.Run

/-!
# Single cycles

A cycle leaves a halted machine and one that is out of steps as they are, and otherwise executes
one instruction. A step limit has no part in what an instruction does.
-/

namespace RegisterMachine.Machine

variable {p : Program} {m : Machine} {i : Instruction} {limit : Nat}

/-! ### Instructions -/

@[simp] theorem counter_withLimit : (m.withLimit limit).counter = m.counter := rfl

@[simp] theorem flag_withLimit : (m.withLimit limit).flag = m.flag := rfl

@[simp] theorem registers_withLimit : (m.withLimit limit).registers = m.registers := rfl

@[simp] theorem steps_withLimit : (m.withLimit limit).steps = m.steps := rfl

@[simp] theorem limit_withLimit : (m.withLimit limit).limit = some limit := rfl

@[simp] theorem steps_fresh : fresh.steps = 0 := rfl

/-- A limit takes no part in the value of an operand. -/
@[simp] theorem read_withLimit (operand : Operand) :
    (m.withLimit limit).read operand = m.read operand := by
  cases operand <;> rfl

/-- A limit takes no part in the effect of an instruction. -/
theorem apply_withLimit (m : Machine) (limit : Nat) (i : Instruction) :
    (m.withLimit limit).apply i = ((m.apply i).1, (m.apply i).2.withLimit limit) := by
  cases i with
  | branch condition target =>
    by_cases taken : condition.holds m.flag
    · simp only [apply, flag_withLimit, taken, ↓reduceIte]; rfl
    · simp only [apply, flag_withLimit, taken]; rfl
  | nop => rfl
  | halt => rfl
  | _ => simp only [apply, read_withLimit]; rfl

/-- A limit takes no part in a step. -/
theorem execute_withLimit (m : Machine) (limit : Nat) (i : Instruction) :
    (m.withLimit limit).execute i = (m.execute i).withLimit limit := by
  unfold execute
  rw [apply_withLimit]
  rcases m.apply i with ⟨flow, after⟩
  cases flow <;> rfl

/-- Applying an instruction counts no step. -/
@[simp] theorem steps_apply (m : Machine) (i : Instruction) : (m.apply i).2.steps = m.steps := by
  cases i with
  | branch condition target => simp only [apply]; split <;> rfl
  | _ => rfl

/-- Applying an instruction keeps the limit. -/
@[simp] theorem limit_apply (m : Machine) (i : Instruction) : (m.apply i).2.limit = m.limit := by
  cases i with
  | branch condition target => simp only [apply]; split <;> rfl
  | _ => rfl

/-- A step is counted. -/
@[simp] theorem steps_execute (m : Machine) (i : Instruction) :
    (m.execute i).steps = m.steps + 1 := by
  rw [← steps_apply m i, execute]
  split <;> next e => rw [e]

/-- A step keeps the limit. -/
@[simp] theorem limit_execute (m : Machine) (i : Instruction) :
    (m.execute i).limit = m.limit := by
  rw [← limit_apply m i, execute]
  split <;> next e => rw [e]

/-- A step leaves the flag as the instruction does. -/
theorem flag_execute (m : Machine) (i : Instruction) : (m.execute i).flag = (m.apply i).2.flag := by
  rw [execute]
  split <;> next e => rw [e]

/-- A step leaves the registers as the instruction does. -/
theorem registers_execute (m : Machine) (i : Instruction) :
    (m.execute i).registers = (m.apply i).2.registers := by
  rw [execute]
  split <;> next e => rw [e]

/-- The counter moves on after an instruction that leaves it to do so. -/
theorem counter_execute_of_advance (h : (m.apply i).1 = .advance) :
    (m.execute i).counter = (m.apply i).2.counter.next := by
  rw [execute]
  split
  · next e => rw [e]
  · next e =>
    rw [e] at h
    cases h

/-- The counter stays where a jump left it. -/
theorem counter_execute_of_jumped (h : (m.apply i).1 = .jumped) :
    (m.execute i).counter = (m.apply i).2.counter := by
  rw [execute]
  split
  · next e =>
    rw [e] at h
    cases h
  · next e => rw [e]

/-- A branch whose condition holds goes to its target. -/
theorem execute_branch_of_holds {condition : Condition} (h : condition.holds m.flag = true)
    (target : Nat) : m.execute (.branch condition target) =
      { m with counter := .slot target, steps := m.steps + 1 } := by
  rw [execute, apply, if_pos h]

/-- Any other branch does nothing but take a step. -/
theorem execute_branch_of_not_holds {condition : Condition} (h : ¬condition.holds m.flag = true)
    (target : Nat) : m.execute (.branch condition target) =
      { m with counter := m.counter.next, steps := m.steps + 1 } := by
  rw [execute, apply, if_neg h]

/-- The effect of an instruction on flag and registers depends on nothing else. -/
theorem apply_congr {m' : Machine} (flag : m.flag = m'.flag)
    (registers : m.registers = m'.registers) (i : Instruction) :
    (m.apply i).2.flag = (m'.apply i).2.flag ∧
      (m.apply i).2.registers = (m'.apply i).2.registers := by
  have read (operand : Operand) : m.read operand = m'.read operand := by
    cases operand with
    | register r => simp only [Machine.read, registers]
    | literal v => rfl
  cases i with
  | nop | halt => exact ⟨flag, registers⟩
  | branch condition target =>
    simp only [apply]
    split <;> split <;> exact ⟨flag, registers⟩
  | cmp lhs rhs => simp only [apply, read, registers, and_self]
  | add | sub | mov => simp only [apply, write, read, flag, registers, and_self]

/-! ### Cycles -/

/-- A machine has halted exactly if there is nothing to fetch. -/
theorem isHalted_iff : m.isHalted p = true ↔ p.fetch m.counter = none := by
  simp [isHalted]

/-- A machine has not halted exactly if there is an instruction to fetch. -/
theorem isHalted_eq_false_iff : m.isHalted p = false ↔ ∃ i, p.fetch m.counter = some i := by
  rw [← Bool.not_eq_true, isHalted_iff, ← Ne, Option.ne_none_iff_exists']

/-- Without a limit there is always a further step. -/
theorem overLimit?_of_limit_none (h : m.limit = none) : m.overLimit? = none := by
  simp only [overLimit?, h]

/-- Below its limit a machine may take a further step. -/
theorem overLimit?_of_lt (h : m.limit = some limit) (room : m.steps < limit) :
    m.overLimit? = none := by
  simp only [overLimit?, h, ite_eq_right_iff]
  omega

/-- At its limit a machine may take no further step. -/
theorem overLimit?_of_le (h : m.limit = some limit) (spent : limit ≤ m.steps) :
    m.overLimit? = some ⟨limit, m.counter.toNat⟩ := by
  simp only [overLimit?, h, spent, ↓reduceIte]

/-- A machine that may take a further step is below its limit. -/
theorem lt_of_overLimit?_eq_none (h : m.limit = some limit) (room : m.overLimit? = none) :
    m.steps < limit := by
  rw [← Nat.not_le]
  intro spent
  rw [overLimit?_of_le h spent] at room
  cases room

/-- A halted machine stays as it is, also when its steps are used up. -/
theorem cycle_of_halted (h : p.fetch m.counter = none) : m.cycle p = (.ok false, m) := by
  simp only [cycle, h]

/-- A machine whose steps are used up stays as it is. -/
theorem cycle_of_overLimit {failure : StepLimitExceeded} (h : p.fetch m.counter = some i)
    (spent : m.overLimit? = some failure) : m.cycle p = (.error failure, m) := by
  simp only [cycle, h, spent]

/-- Any other machine executes the instruction it fetches. -/
theorem cycle_of_fetch (h : p.fetch m.counter = some i) (room : m.overLimit? = none) :
    m.cycle p = (.ok !(m.execute i).isHalted p, m.execute i) := by
  simp only [cycle, h, room]

/-- What a cycle leaves: the machine itself, or the machine after the instruction it fetched with
steps to spare. -/
theorem cycle_cases (p : Program) (m : Machine) :
    (m.cycle p).2 = m ∨
      ∃ i, p.fetch m.counter = some i ∧ m.overLimit? = none ∧ (m.cycle p).2 = m.execute i := by
  cases hf : p.fetch m.counter with
  | none => exact .inl (by rw [cycle_of_halted hf])
  | some i =>
    cases ho : m.overLimit? with
    | some failure => exact .inl (by rw [cycle_of_overLimit hf ho])
    | none => exact .inr ⟨i, rfl, rfl, by rw [cycle_of_fetch hf ho]⟩

/-- Cycling keeps the limit. -/
theorem limit_cycle (p : Program) (m : Machine) : (m.cycle p).2.limit = m.limit := by
  rcases cycle_cases p m with h | ⟨i, -, -, h⟩
  · rw [h]
  · rw [h, limit_execute]

/-- Within its limit a machine stays within it. -/
theorem steps_cycle_le (h : m.limit = some limit) (within : m.steps ≤ limit) :
    (m.cycle p).2.steps ≤ limit := by
  rcases cycle_cases p m with e | ⟨i, -, room, e⟩
  · rw [e]; exact within
  · rw [e, steps_execute]
    exact lt_of_overLimit?_eq_none h room

/-! ### Several cycles -/

@[simp] theorem cycles_zero : m.cycles p 0 = m := rfl

/-- The first cycle comes before the others. -/
theorem cycles_succ (n : Nat) : m.cycles p (n + 1) = (m.cycle p).2.cycles p n := rfl

/-- Cycling keeps the limit, however often. -/
theorem limit_cycles (n : Nat) : (m.cycles p n).limit = m.limit := by
  induction n generalizing m with
  | zero => rfl
  | succ n ih => rw [cycles_succ, ih, limit_cycle]

/-- Within its limit a machine stays within it, however often it is cycled. -/
theorem steps_cycles_le (h : m.limit = some limit) (within : m.steps ≤ limit) (n : Nat) :
    (m.cycles p n).steps ≤ limit := by
  induction n generalizing m with
  | zero => exact within
  | succ n ih => exact ih ((limit_cycle p m).trans h) (steps_cycle_le h within)

/-- A machine without a limit executes what it fetches, then goes on. -/
theorem cycles_succ_of_fetch (unlimited : m.limit = none) (h : p.fetch m.counter = some i)
    (n : Nat) : m.cycles p (n + 1) = (m.execute i).cycles p n := by
  rw [cycles_succ, cycle_of_fetch h (overLimit?_of_limit_none unlimited)]

end RegisterMachine.Machine
