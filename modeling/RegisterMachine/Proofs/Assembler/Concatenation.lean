import RegisterMachine.Proofs.Assembler.Acceptance
import RegisterMachine.Proofs.Assembler.Program

/-!
# One source after another

The program of two sources, one after the other, is the program of the first followed by that of the
second, with the branches of the second moved behind the first. Nothing else changes, as long as the
two declare no common label.
-/

namespace RegisterMachine

open Source

namespace Instruction

/-- The instruction with the target of a branch moved by some slots. -/
def relocate (slots : Nat) : Instruction → Instruction
  | branch condition target => branch condition (target + slots)
  | i => i

/-- The instruction of an operation has no target to move. -/
theorem relocate_of_build? {op : Opcode} {operands : List Operand} {i : Instruction}
    (h : op.build? operands = some i) (slots : Nat) : i.relocate slots = i := by
  unfold Opcode.build? at h
  split at h <;> cases h <;> rfl

end Instruction

namespace Statement

variable {before after : List Statement} {s : Statement} {i : Instruction}

/-- A label that is declared before points to the same slot. -/
theorem slotOf_append_of_mem {name : String} (declared : .label name ∈ before) :
    slotOf (before ++ after) name = slotOf before name := by
  obtain ⟨start, rest, rfl, unseen⟩ := List.eq_append_cons_of_mem declared
  rw [List.append_assoc, List.cons_append, slotOf_eq unseen, slotOf_eq unseen]

/-- A label that is only declared after points behind the slots of the statements before. -/
theorem slotOf_append_of_notMem {name : String} (unseen : .label name ∉ before) :
    slotOf (before ++ after) name = slotOf after name + before.countP takesSlot := by
  rw [slotOf, slotOf, List.takeWhile_append_of_pos (forall_ne_label unseen), List.countP_append]
  omega

/-- Further statements after change no instruction. -/
theorem instruction?_append_left (h : s.instruction? before = some i) :
    s.instruction? (before ++ after) = some i := by
  cases s with
  | label name => cases h
  | operation op operands => exact h
  | branch condition target =>
    rw [instruction?] at h ⊢
    split_ifs at h with declared
    rw [if_pos (List.mem_append_left _ declared), slotOf_append_of_mem declared, h]

/-- Further statements before move an instruction behind their slots, unless they declare one of
the labels. -/
theorem instruction?_append_right (apart : ∀ name, .label name ∈ before → .label name ∉ after)
    (h : s.instruction? after = some i) :
    s.instruction? (before ++ after) = some (i.relocate (before.countP takesSlot)) := by
  cases s with
  | label name => cases h
  | operation op operands =>
    rw [Instruction.relocate_of_build? (Opcode.instruction?_eq_some_iff.mp h).2]
    exact h
  | branch condition target =>
    rw [instruction?] at h ⊢
    split_ifs at h with declared
    have unseen : .label target ∉ before := fun again ↦ apart target again declared
    rw [if_pos (List.mem_append_right _ declared), slotOf_append_of_notMem unseen,
      ← Option.some.inj h]
    rfl

/-- A label that stands at most once does not stand before its declaration. -/
theorem label_notMem_of_count_le {name : String} (once : (before ++ .label name :: after).count
    (.label name) ≤ 1) : .label name ∉ before := by
  intro declared
  have := List.count_pos_iff.mpr declared
  rw [List.count_append, List.count_cons_self] at once
  omega

end Statement

namespace Program.Realizes

variable {p q : Program} {before after : List Statement}

/-- A label stands at most once among realized statements. -/
theorem count_label_le (h : p.Realizes before) (name : String) :
    before.count (.label name) ≤ 1 := by
  by_cases declared : .label name ∈ before
  · obtain ⟨start, rest, split⟩ := List.append_of_mem declared
    have left : start.count (.label name) = 0 :=
      List.count_eq_zero.mpr (h.labels start rest name split)
    have right : rest.count (.label name) = 0 := List.count_eq_zero.mpr (h.notMem_after split)
    have all := congrArg (List.count (.label name)) split
    rw [List.count_append, List.count_cons_self] at all
    omega
  · rw [List.count_eq_zero.mpr declared]
    exact Nat.zero_le 1

/-- As many statements take a slot as there are slots in the body. -/
theorem countP_takesSlot (h : p.Realizes before) :
    before.countP Statement.takesSlot = p.body.size := by
  have size := h.size_eq
  rw [← List.countP_eq_length_filter, Program.size] at size
  omega

/-- The program of statements without a common label, one after the other. -/
theorem append (hp : p.Realizes before) (hq : q.Realizes after)
    (apart : ∀ name, .label name ∈ before → .label name ∉ after) :
    Program.Realizes ⟨p.body ++ q.body.map (Instruction.relocate p.body.size)⟩
      (before ++ after) where
  body := by
    have first : (before.filter Statement.takesSlot).map (·.instruction? (before ++ after)) =
        p.body.toList.map some := by
      rw [← hp.body]
      apply List.map_congr_left
      intro s hs
      obtain ⟨hs, takes⟩ := List.mem_filter.mp hs
      obtain ⟨i, stands⟩ := hp.exists_instruction? hs takes
      rw [stands, Statement.instruction?_append_left stands]
    have second : (after.filter Statement.takesSlot).map (·.instruction? (before ++ after)) =
        (q.body.toList.map (Instruction.relocate p.body.size)).map some := by
      calc (after.filter Statement.takesSlot).map (·.instruction? (before ++ after))
        _ = (after.filter Statement.takesSlot).map fun s ↦
            (s.instruction? after).map (Instruction.relocate p.body.size) := by
          apply List.map_congr_left
          intro s hs
          obtain ⟨hs, takes⟩ := List.mem_filter.mp hs
          obtain ⟨i, stands⟩ := hq.exists_instruction? hs takes
          rw [stands, Statement.instruction?_append_right apart stands, hp.countP_takesSlot]
          rfl
        _ = ((after.filter Statement.takesSlot).map (·.instruction? after)).map
            (Option.map (Instruction.relocate p.body.size)) := by
          rw [List.map_map]
          rfl
        _ = (q.body.toList.map (Instruction.relocate p.body.size)).map some := by
          rw [hq.body, List.map_map, List.map_map]
          rfl
    simp only [List.filter_append, List.map_append, Array.toList_append, Array.toList_map, first,
      second]
  labels start rest name split := by
    apply Statement.label_notMem_of_count_le
    rw [← split, List.count_append]
    by_cases declared : .label name ∈ before
    · rw [List.count_eq_zero.mpr (apart name declared)]
      exact hp.count_label_le name
    · rw [List.count_eq_zero.mpr declared, Nat.zero_add]
      exact hq.count_label_le name

end Program.Realizes

/-- Two sources without a common label, one after the other, have the programs of both, with the
branches of the second one moved behind the first. -/
theorem assemble_append {above below : List String} {p q : Program} (hp : assemble above = .ok p)
    (hq : assemble below = .ok q)
    (apart : ∀ name, .label name ∈ statements above → .label name ∉ statements below) :
    assemble (above ++ below) =
      .ok ⟨p.body ++ q.body.map (Instruction.relocate p.body.size)⟩ := by
  obtain ⟨readableAbove, realizesAbove⟩ := assemble_eq_ok_iff.mp hp
  obtain ⟨readableBelow, realizesBelow⟩ := assemble_eq_ok_iff.mp hq
  apply assemble_eq_ok_iff.mpr
  constructor
  · exact List.forall_mem_append.mpr ⟨readableAbove, readableBelow⟩
  · rw [statements, List.filterMap_append]
    exact realizesAbove.append realizesBelow apart

/-- A loop that counts up to three. -/
def countUp : List String := ["next:", "add r1, r1, #1", "cmp r1, #3", "b lt next"]

/-- The program of `countUp` with its counter in `r`, from a slot on. -/
def countUpProgram (r : Register) (slot : Nat) : Program :=
  ⟨#[.add r (.register r) (.literal (.int 1)), .cmp (.register r) (.literal (.int 3)),
    .branch .lt slot]⟩

/-- Behind `countdown`, which ends with a label, the loop goes back to slot 6. -/
theorem assemble_countdown_append_countUp :
    assemble countdown = .ok countdownProgram ∧ assemble countUp = .ok (countUpProgram 1 1) ∧
      (∀ name, .label name ∈ statements countdown → .label name ∉ statements countUp) ∧
      assemble (countdown ++ countUp) =
        .ok ⟨countdownProgram.body ++ (countUpProgram 1 6).body⟩ := by
  have countUp_ok : assemble countUp = .ok (countUpProgram 1 1) := by decide +kernel
  have apart : ∀ name, .label name ∈ statements countdown → .label name ∉ statements countUp := by
    have labels : statements countUp =
        [.label "NEXT", .operation .add [.register 1, .register 1, .literal (.int 1)],
          .operation .cmp [.register 1, .literal (.int 3)], .branch .lt "NEXT"] := by
      decide +kernel
    have unseen : .label "NEXT" ∉ statements countdown := by decide +kernel
    intro name declared again
    rw [labels] at again
    simp only [List.mem_cons, reduceCtorEq, Statement.label.injEq, List.not_mem_nil, or_self,
      or_false] at again
    exact unseen (again ▸ declared)
  have moved : (countUpProgram 1 1).body.map (Instruction.relocate countdownProgram.body.size) =
      (countUpProgram 1 6).body := by
    simp [countUpProgram, countdownProgram, Instruction.relocate]
  refine ⟨assemble_countdown, countUp_ok, apart, ?_⟩
  rw [← moved]
  exact assemble_append assemble_countdown countUp_ok apart

end RegisterMachine
