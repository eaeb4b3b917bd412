import RegisterMachine.Typing

/-!
# Well-typed operations

An operation is well typed if it has as many operands as its signature has places for, each of a
class that its place admits. Such operands always make an instruction.
-/

namespace RegisterMachine.Opcode

/-- The number of operands that the operation takes; the only place of `halt` takes none. -/
def arity : Opcode → Nat
  | add | sub => 3
  | cmp | mov => 2
  | halt => 0

/-- An operation takes operands at exactly the places below its arity. -/
theorem expectedAt_eq_none_iff (op : Opcode) (index : Nat) :
    op.expectedAt index = .none ↔ op.arity ≤ index := by
  by_cases h : index < 3
  · obtain rfl | rfl | rfl : index = 0 ∨ index = 1 ∨ index = 2 := by omega
    all_goals cases op <;> decide
  · have beyond : op.signature[index]? = none := by
      apply List.getElem?_eq_none
      cases op <;> simp only [signature, List.length_cons, List.length_nil] <;> omega
    have small : op.arity ≤ 3 := by cases op <;> decide
    simp only [expectedAt, beyond, Option.getD_none, true_iff]
    omega

/-- An operand does not fit where none is expected. -/
theorem fits_none (c : OperandClass) : fits .none c.set = false := by
  cases c <;> decide

/-- A missing operand only fits where none is expected. -/
theorem fits_missing {expected : ClassSet} (h : fits expected .none = true) :
    expected = .none := by
  simpa [fits] using (Bool.and_eq_true_iff.mp h).2

/-- Well typed means that every place that is checked fits. -/
theorem misfits_eq_nil_iff {op : Opcode} {operands : List Operand} :
    op.misfits operands = [] ↔
      ∀ index < op.positions operands,
        fits (op.expectedAt index) (actualAt operands index) = true := by
  simp [misfits, List.filter_eq_nil_iff]

/-- Every place with an operand is checked. -/
theorem lt_positions_of_lt_length {op : Opcode} {operands : List Operand} {index : Nat}
    (h : index < operands.length) : index < op.positions operands := by
  rw [positions]
  omega

/-- Every place that takes an operand is checked. -/
theorem lt_positions_of_lt_arity {op : Opcode} {operands : List Operand} {index : Nat}
    (h : index < op.arity) : index < op.positions operands := by
  have small : op.arity ≤ op.signature.length := by cases op <;> decide
  rw [positions]
  omega

theorem actualAt_of_lt {operands : List Operand} {index : Nat} (h : index < operands.length) :
    actualAt operands index = (OperandClass.of operands[index]).set := by
  simp [actualAt, h]

theorem actualAt_of_le {operands : List Operand} {index : Nat} (h : operands.length ≤ index) :
    actualAt operands index = .none := by
  simp [actualAt, h]

/-- A well-typed operation has exactly the operands that it takes. -/
theorem length_of_misfits_eq_nil {op : Opcode} {operands : List Operand}
    (h : op.misfits operands = []) : operands.length = op.arity := by
  have fit := misfits_eq_nil_iff.mp h
  apply Nat.le_antisymm
  · apply Nat.le_of_not_lt
    intro extra
    have extraFits := fit op.arity (lt_positions_of_lt_length extra)
    rw [(expectedAt_eq_none_iff op op.arity).mpr (Nat.le_refl _), actualAt_of_lt extra,
      fits_none] at extraFits
    cases extraFits
  · apply Nat.le_of_not_lt
    intro missing
    have missingFits := fit operands.length (lt_positions_of_lt_arity missing)
    rw [actualAt_of_le (Nat.le_refl _)] at missingFits
    have beyond := (expectedAt_eq_none_iff op operands.length).mp (fits_missing missingFits)
    omega

/-- Only a register fits where a register is expected. -/
theorem exists_register_of_fits {operand : Operand}
    (h : fits .register (OperandClass.of operand).set = true) :
    ∃ r, operand = .register r := by
  have onlyRegister (c : OperandClass) (hc : fits .register c.set = true) :
      c = .register := by
    cases c with
    | register => rfl
    | positiveInteger | negativeInteger | float => exact absurd hc (by decide)
  cases operand with
  | register r => exact ⟨r, rfl⟩
  | literal v =>
    have hc := onlyRegister _ h
    cases v with
    | int n =>
      simp only [OperandClass.of] at hc
      split at hc <;> cases hc
    | float x => cases hc

/-- The operands of a well-typed operation make an instruction. -/
theorem exists_build?_of_misfits_eq_nil {op : Opcode} {operands : List Operand}
    (h : op.misfits operands = []) : ∃ i, op.build? operands = some i := by
  have arity := length_of_misfits_eq_nil h
  have first (a : Operand) (rest : List Operand) (e : operands = a :: rest)
      (he : op.expectedAt 0 = .register) : ∃ r, a = .register r := by
    subst e
    have fit := misfits_eq_nil_iff.mp h 0 (lt_positions_of_lt_length (Nat.succ_pos _))
    rw [he, actualAt_of_lt (Nat.succ_pos _)] at fit
    exact exists_register_of_fits fit
  match op, operands, arity with
  | add, [a, lhs, rhs], _ | sub, [a, lhs, rhs], _ =>
    obtain ⟨r, rfl⟩ := first _ _ rfl rfl
    exact ⟨_, rfl⟩
  | cmp, [lhs, rhs], _ => exact ⟨_, rfl⟩
  | mov, [a, src], _ =>
    obtain ⟨r, rfl⟩ := first _ _ rfl rfl
    exact ⟨_, rfl⟩
  | halt, [], _ => exact ⟨_, rfl⟩

/-- The instruction of an operation on its operands, if it is well typed. -/
def instruction? (op : Opcode) (operands : List Operand) : Option Instruction :=
  if op.misfits operands = [] then op.build? operands else none

/-- A well-typed operation stands for the instruction that its operands make. -/
theorem instruction?_eq_some_iff {op : Opcode} {operands : List Operand} {i : Instruction} :
    op.instruction? operands = some i ↔
      op.misfits operands = [] ∧ op.build? operands = some i := by
  rw [instruction?]
  split
  · next h => simp only [h, true_and]
  · next h => simp only [h, false_and, reduceCtorEq]

/-- Exactly the well-typed operations stand for an instruction. -/
theorem instruction?_eq_none_iff {op : Opcode} {operands : List Operand} :
    op.instruction? operands = none ↔ op.misfits operands ≠ [] := by
  constructor
  · intro none wellTyped
    obtain ⟨i, built⟩ := exists_build?_of_misfits_eq_nil wellTyped
    rw [instruction?_eq_some_iff.mpr ⟨wellTyped, built⟩] at none
    cases none
  · intro misfits
    rw [instruction?, if_neg misfits]

end RegisterMachine.Opcode
