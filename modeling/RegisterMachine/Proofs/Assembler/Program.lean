import RegisterMachine.Proofs.Assembler.Realizes

/-!
# The program of a source

A program has one slot for each branch and operation of its source, in order. An operation becomes
the instruction that its operands make, and a branch points to the slot of what follows its label.
-/

namespace RegisterMachine

open Source

/-- A label that a realized branch names is declared on one line, and the slot it points to is the
one after those of the lines above. -/
theorem Program.Realizes.exists_declaration {p : Program} {source : List String} {name : String}
    (h : p.Realizes (statements source)) (declared : .label name ∈ statements source) :
    ∃ above line below, source = above ++ line :: below ∧
      statement? line = some (.label name) ∧
      (∀ other ∈ above ++ below, statement? other ≠ some (.label name)) ∧
      Statement.slotOf (statements source) name = (code above).length + 1 := by
  obtain ⟨before, after, split⟩ := List.append_of_mem declared
  have new := h.labels before after name split
  have notAgain := h.notMem_after split
  have slot : Statement.slotOf (before ++ .label name :: after) name =
      before.countP Statement.takesSlot + 1 := Statement.slotOf_eq new
  rw [← split] at slot
  obtain ⟨above, line, below, rfl, rfl, said, rfl⟩ := exists_line_of_filterMap_eq split
  refine ⟨above, line, below, rfl, said, ?_, ?_⟩
  · intro other hother same
    rcases List.mem_append.mp hother with hother | hother
    · exact new (List.mem_filterMap.mpr ⟨other, hother, same⟩)
    · exact notAgain (List.mem_filterMap.mpr ⟨other, hother, same⟩)
  · rw [slot, code, statements, List.countP_eq_length_filter]

/-- The slots of a program hold what its source says. The statements that take a slot take the
slots from 1 on, in order. There an operation has become the instruction that its operands make. A
branch points to the slot after those of the lines above its label, which is declared on one line
only. -/
theorem get?_of_assemble_eq_ok {source : List String} {p : Program}
    (h : assemble source = .ok p) :
    p.size = (code source).length + 1 ∧ p.get? 0 = some .nop ∧
      ∀ k,
        (∀ op operands, (code source)[k]? = some (.operation op operands) →
          ∃ i, op.build? operands = some i ∧ p.get? (k + 1) = some i) ∧
        (∀ condition target, (code source)[k]? = some (.branch condition target) →
          ∃ above line below, source = above ++ line :: below ∧
            statement? line = some (.label target) ∧
            (∀ other ∈ above ++ below, statement? other ≠ some (.label target)) ∧
            p.get? (k + 1) = some (.branch condition ((code above).length + 1))) := by
  have realizes := realizes_of_assemble_eq_ok h
  refine ⟨realizes.size_eq, rfl, ?_⟩
  intro k
  constructor
  · intro op operands hs
    obtain ⟨i, stands, held⟩ := realizes.get?_succ hs
    exact ⟨i, (Opcode.instruction?_eq_some_iff.mp stands).2, held⟩
  · intro condition target hs
    obtain ⟨i, stands, held⟩ := realizes.get?_succ hs
    rw [Statement.instruction?] at stands
    split_ifs at stands with declared
    obtain ⟨above, line, below, split, said, once, index⟩ := realizes.exists_declaration declared
    refine ⟨above, line, below, split, said, once, ?_⟩
    rw [held, ← stands, index]

/-- A loop that counts down, with one branch ahead and one back. -/
def countdown : List String :=
  ["mov r0, #2", "again: ; until zero", "", "cmp r0, #0", "b eq done", "sub r0, r0, #1", "b again",
    "done:"]

/-- The program of `countdown`. -/
def countdownProgram : Program :=
  ⟨#[.mov 0 (.literal (.int 2)), .cmp (.register 0) (.literal (.int 0)), .branch .eq 6,
    .sub 0 (.register 0) (.literal (.int 1)), .branch .always 2]⟩

theorem assemble_countdown : assemble countdown = .ok countdownProgram := by decide +kernel

/-- The branch at slot 3 goes ahead to slot 6, after the slots of all lines above its label. -/
theorem get?_countdownProgram :
    assemble countdown = .ok countdownProgram ∧
      countdownProgram.size = (code countdown).length + 1 ∧
      (∃ i, Opcode.cmp.build? [.register 0, .literal (.int 0)] = some i ∧
        countdownProgram.get? 2 = some i) ∧
      ∃ above line below, countdown = above ++ line :: below ∧
        statement? line = some (.label "DONE") ∧
        (∀ other ∈ above ++ below, statement? other ≠ some (.label "DONE")) ∧
        countdownProgram.get? 3 = some (.branch .eq ((code above).length + 1)) := by
  obtain ⟨size, -, slots⟩ := get?_of_assemble_eq_ok assemble_countdown
  refine ⟨assemble_countdown, size, ?_, ?_⟩
  · exact (slots 1).1 .cmp [.register 0, .literal (.int 0)] (by decide +kernel)
  · exact (slots 2).2 .eq "DONE" (by decide +kernel)

end RegisterMachine
