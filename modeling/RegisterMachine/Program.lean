import RegisterMachine.Instruction

/-!
# Programs

A program is a row of slots with an instruction each. Slot 0 always does nothing, so a program
is determined by its body, the slots from 1 on.
-/

namespace RegisterMachine

/-- A program, by the instructions after slot 0. -/
structure Program where
  body : Array Instruction
  deriving DecidableEq, Repr

namespace Program

/-- The instructions of all slots. -/
def instructions (p : Program) : List Instruction := .nop :: p.body.toList

/-- The number of slots. -/
def size (p : Program) : Nat := p.body.size + 1

/-- The instruction in a slot. -/
def get? (p : Program) : Nat → Option Instruction
  | 0 => some .nop
  | i + 1 => p.body[i]?

/-- The program with the given slots, the first of which must do nothing. -/
def ofInstructions? : List Instruction → Option Program
  | .nop :: body => some ⟨body.toArray⟩
  | _ => none

@[simp] theorem length_instructions (p : Program) : p.instructions.length = p.size := by
  simp [instructions, size]

/-- A slot holds what stands at its place among all instructions. -/
theorem getElem?_instructions (p : Program) (i : Nat) : p.instructions[i]? = p.get? i := by
  cases i <;> simp [instructions, get?]

/-- There is an instruction in every slot below the size, and in no other. -/
theorem get?_eq_none_iff {p : Program} {i : Nat} : p.get? i = none ↔ p.size ≤ i := by
  rw [← getElem?_instructions, List.getElem?_eq_none_iff, length_instructions]

/-- The slots below the size are those that hold an instruction. -/
theorem lt_size_iff {p : Program} {i : Nat} : i < p.size ↔ ∃ held, p.get? i = some held := by
  rw [← Nat.not_le, ← get?_eq_none_iff, ← Ne, Option.ne_none_iff_exists']

/-- The slots of a program give that program. -/
theorem ofInstructions?_instructions (p : Program) : ofInstructions? p.instructions = some p := by
  simp [ofInstructions?, instructions]

end Program

end RegisterMachine
