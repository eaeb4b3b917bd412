import RegisterMachine.Machine.Basic

/-!
# Contents of registers

What the registers hold after some of them were written.
-/

namespace RegisterMachine

/-- Registers are the same if they hold the same. -/
theorem Registers.ext_get {registers registers' : Registers}
    (h : ∀ r : Register, registers.get r = registers'.get r) : registers = registers' :=
  Vector.ext fun k hk ↦ h ⟨k, hk⟩

/-- Registers that are given one by one hold what is given. -/
theorem Registers.get_ofFn (f : Register → Value) (r : Register) :
    (Vector.ofFn f).get r = f r :=
  Vector.getElem_ofFn r.isLt

namespace Machine

variable {r s : Register} {v w : Value}

/-- Every register of a fresh machine holds zero. -/
theorem get_fresh (r : Register) : fresh.registers.get r = .zero :=
  Vector.getElem_replicate r.isLt

/-- A written register holds what was written, and the others what they held. -/
theorem get_write (m : Machine) (r s : Register) (v : Value) :
    (m.write r v).registers.get s = if r = s then v else m.registers.get s := by
  have place : (m.write r v).registers[s.val] =
      if r.val = s.val then v else m.registers[s.val] := Vector.getElem_set r.isLt s.isLt
  simp only [← Fin.ext_iff] at place
  exact place

/-- Only the last of two values is left in a register. -/
theorem write_write (m : Machine) : (m.write r v).write r w = m.write r w := by
  simp only [write, Vector.set_set]

/-- Different registers can be written in any order. -/
theorem write_comm (m : Machine) (apart : r ≠ s) :
    (m.write r v).write s w = (m.write s w).write r v := by
  have places : r.val ≠ s.val := fun same ↦ apart (Fin.ext same)
  simp only [write, Vector.set_comm _ _ places]

end Machine

end RegisterMachine
