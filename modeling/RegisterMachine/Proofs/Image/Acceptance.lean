import RegisterMachine.Proofs.Image.Unchecked
import RegisterMachine.Proofs.Program.Literals
import RegisterMachine.Proofs.Program.Slots

/-!
# Which texts are programs

Of the texts that describe slots, with any bytes for registers, just those are programs that have a
slot 0 which does nothing and no register from 16 on. Nothing else can come of a text.
-/

namespace RegisterMachine

/-- Registers, integers and targets are all in the range that the machine has for them. -/
structure Instruction.InRange (i : Instruction) : Prop where
  destination : ∀ r ∈ i.destination?, r.val ≤ 15
  registers : ∀ r, .register r ∈ i.operands → r.val ≤ 15
  integers : ∀ n, .literal (.int n) ∈ i.operands →
    Int32.minValue.toInt ≤ n.toInt ∧ n.toInt ≤ Int32.maxValue.toInt
  target : ∀ condition target, i = .branch condition target → target < UInt64.size

namespace Image.Unchecked

/-- The registers that are named, as bytes. -/
def Operand.indices : Operand → List UInt8
  | register index => [index]
  | literal _ => []

/-- The registers that are named, as bytes. -/
def Instruction.indices : Instruction → List UInt8
  | add dst lhs rhs | sub dst lhs rhs => dst :: (lhs.indices ++ rhs.indices)
  | cmp lhs rhs => lhs.indices ++ rhs.indices
  | mov dst src => dst :: src.indices
  | nop | halt | branch _ _ => []

/-! ### One slot -/

/-- There is no register from 16 on. -/
theorem checkRegister?_eq_none_iff {index : UInt8} : checkRegister? index = none ↔ 16 ≤ index := by
  rw [checkRegister?, Register.ofIndex, UInt8.le_iff_toNat_le]
  split
  · next exists' => exact iff_of_false (fun none ↦ by cases none) (Nat.not_le.mpr exists')
  · next missing => exact iff_of_true rfl (Nat.not_lt.mp missing)

theorem Operand.check?_eq_none_iff {o : Operand} :
    o.check? = none ↔ ∃ index ∈ o.indices, 16 ≤ index := by
  cases o with
  | register index => simp [check?, indices, checkRegister?_eq_none_iff]
  | literal v => simp [check?, indices]

/-- An instruction fails its check exactly if it names a register from 16 on. -/
theorem Instruction.check?_eq_none_iff {i : Instruction} :
    i.check? = none ↔ ∃ index ∈ i.indices, 16 ≤ index := by
  cases i <;> simp [check?, indices, pair?_eq_none_iff, checkRegister?_eq_none_iff,
    Operand.check?_eq_none_iff, or_and_right, exists_or]

/-- Nothing but what does nothing passes as that. -/
theorem Instruction.check?_eq_nop_iff {i : Instruction} : i.check? = some .nop ↔ i = .nop := by
  cases i <;> simp [check?]

/-- An instruction that passes its check is in range. -/
theorem Instruction.inRange_of_check? {i : Instruction} {j : RegisterMachine.Instruction}
    (h : i.check? = some j) : j.InRange where
  destination r _ := Nat.le_of_lt_succ r.isLt
  registers r _ := Nat.le_of_lt_succ r.isLt
  integers n _ := ⟨n.minValue_le_toInt, n.toInt_le⟩
  target condition target branch := by
    subst branch
    cases i with
    | branch condition word =>
      simp only [check?, Option.some.injEq, RegisterMachine.Instruction.branch.injEq] at h
      exact h.2 ▸ word.toNat_lt
    | _ => simp [check?] at h

/-! ### All slots -/

variable {slots : List Instruction} {p : Program}

/-- Slots are a program exactly if each of them is the instruction there. -/
theorem check?_eq_some_iff :
    check? slots = some p ↔ slots.map Instruction.check? = p.instructions.map some := by
  rw [check?, ← mapM_eq_some_iff, Option.bind_eq_some_iff]
  simp only [Program.ofInstructions?_eq_some_iff, exists_eq_right]

/-- Slots are no program exactly if there is none, the first one does something, or a register from
16 on is named. -/
theorem check?_eq_none_iff :
    check? slots = none ↔ slots = [] ∨ (∃ first ∈ slots.head?, first ≠ .nop) ∨
      ∃ slot ∈ slots, ∃ index ∈ slot.indices, 16 ≤ index := by
  rw [check?]
  cases checked : slots.mapM Instruction.check? with
  | none =>
    obtain ⟨slot, hslot, fails⟩ := mapM_eq_none_iff.mp checked
    exact iff_of_true rfl (.inr (.inr ⟨slot, hslot, Instruction.check?_eq_none_iff.mp fails⟩))
  | some passed =>
    -- All registers exist here, so that only slot 0 can fail.
    have inRange : ¬∃ slot ∈ slots, ∃ index ∈ slot.indices, 16 ≤ index := by
      rintro ⟨slot, hslot, fails⟩
      have failed := mapM_eq_none_iff.mpr ⟨slot, hslot, Instruction.check?_eq_none_iff.mpr fails⟩
      rw [checked] at failed
      cases failed
    have same := mapM_eq_some_iff.mp checked
    rw [Option.bind_some, Program.ofInstructions?_eq_none_iff, ← or_assoc, or_iff_left inRange]
    cases slots with
    | nil =>
      cases passed with
      | nil => simp
      | cons i rest => cases same
    | cons first slots =>
      cases passed with
      | nil => cases same
      | cons i rest =>
        rw [List.map_cons, List.map_cons, List.cons.injEq] at same
        simp [← Instruction.check?_eq_nop_iff, same.1]

/-! ### Texts -/

theorem toOption_eq_some_iff {α : Type} {result : Except ReadError α} {a : α} :
    result.toOption = some a ↔ result = .ok a := by
  cases result <;> simp [Except.toOption]

theorem toOption_eq_none_iff {α : Type} {result : Except ReadError α} :
    result.toOption = none ↔ ∃ e, result = .error e := by
  cases result <;> simp [Except.toOption]

/-- A text is a program exactly if the slots that it describes are. -/
theorem ofText_eq_ok_iff {text : String} :
    Image.ofText text = .ok p ↔ ∃ slots, ofText text = .ok slots ∧ check? slots = some p := by
  rw [← toOption_eq_some_iff, toOption_ofText, Option.bind_eq_some_iff]
  simp only [toOption_eq_some_iff]

/-- A text that describes slots is no program exactly if they are none. -/
theorem exists_ofText_eq_error_iff {text : String} (read : ofText text = .ok slots) :
    (∃ e, Image.ofText text = .error e) ↔ check? slots = none := by
  rw [← toOption_eq_none_iff, toOption_ofText, read]
  rfl

/-- A text that is a program describes slots of which the first does nothing and none names a
register from 16 on, and the program holds just what the slots say, with all of it in range. A text
that describes slots, with any bytes for registers, is no program exactly if there are none of them,
the first one does something, or a register from 16 on is named. -/
theorem ofText_ok_and_error (text : String) :
    (∀ p, Image.ofText text = .ok p → ∃ slots, ofText text = .ok slots ∧
      slots.map Instruction.check? = p.instructions.map some ∧
      (slots.head? = some .nop ∧ p.get? 0 = some .nop) ∧
      (∀ slot ∈ slots, ∀ index ∈ slot.indices, index ≤ 15) ∧
      ∀ i ∈ p.instructions, i.InRange) ∧
    ∀ slots, ofText text = .ok slots →
      ((∃ e, Image.ofText text = .error e) ↔
        slots = [] ∨ (∃ first ∈ slots.head?, first ≠ .nop) ∨
          ∃ slot ∈ slots, ∃ index ∈ slot.indices, 16 ≤ index) := by
  constructor
  · intro p accepted
    obtain ⟨slots, read, checked⟩ := ofText_eq_ok_iff.mp accepted
    have same := check?_eq_some_iff.mp checked
    refine ⟨slots, read, same, ⟨?_, rfl⟩, ?_, ?_⟩
    · cases slots with
      | nil => cases same
      | cons first rest =>
        rw [Instruction.check?_eq_nop_iff.mp (List.cons.inj same).1]
        rfl
    · intro slot hslot index hindex
      by_contra beyond
      have failed : check? slots = none := by
        refine check?_eq_none_iff.mpr (.inr (.inr ⟨slot, hslot, index, hindex, ?_⟩))
        rw [UInt8.le_iff_toNat_le] at beyond ⊢
        exact Nat.not_le.mp beyond
      rw [checked] at failed
      cases failed
    · intro i hi
      obtain ⟨slot, -, passed⟩ := List.mem_map.mp (same ▸ List.mem_map_of_mem hi)
      exact Instruction.inRange_of_check? passed
  · intro slots read
    rw [exists_ofText_eq_error_iff read, check?_eq_none_iff]

/-- Records as arrays, with the last register and the largest numbers, and the same text with a
register that does not exist. -/
theorem ofText_ok_and_error_sixteen :
    let text (register : String) :=
      "\x7b\"instructions\":[\"Nop\"," ++
        "\x7b\"Mov\":[15,\x7b\"Literal\":\x7b\"Int\":-2147483648\x7d\x7d]\x7d," ++
        "\x7b\"Cmp\":[\x7b\"Register\":" ++ register ++ "\x7d,\x7b\"Register\":0\x7d]\x7d," ++
        "\x7b\"Branch\":[\"Lt\",18446744073709551615]\x7d]\x7d"
    let p : Program := ⟨#[.mov 15 (.literal (.int (-2147483648))),
      .cmp (.register 15) (.register 0), .branch .lt 18446744073709551615]⟩
    let slots : List Instruction := [.nop, .mov 15 (.literal (.int (-2147483648))),
      .cmp (.register 16) (.register 0), .branch .lt 18446744073709551615]
    (Image.ofText (text "15") = .ok p ∧ ∀ i ∈ p.instructions, i.InRange) ∧
      ofText (text "16") = .ok slots ∧ (∃ slot ∈ slots, ∃ index ∈ slot.indices, 16 ≤ index) ∧
        ∃ e, Image.ofText (text "16") = .error e := by
  intro text p slots
  have accepted : Image.ofText (text "15") = .ok p := by decide +kernel
  have read : ofText (text "16") = .ok slots := by decide +kernel
  have beyond : ∃ slot ∈ slots, ∃ index ∈ slot.indices, 16 ≤ index := by decide
  obtain ⟨-, -, -, -, -, inRange⟩ := (ofText_ok_and_error (text "15")).1 p accepted
  exact ⟨⟨accepted, inRange⟩, read, beyond,
    ((ofText_ok_and_error (text "16")).2 slots read).mpr (.inr (.inr beyond))⟩

end Image.Unchecked

end RegisterMachine
