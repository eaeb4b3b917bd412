import RegisterMachine.Proofs.Assembler.Realizes
import RegisterMachine.Proofs.Source.Positions

/-!
# Sources that have a program

A source has a program exactly if all its lines can be read and the program realizes what they say.
So the statements of a readable source decide both whether it has a program and which one.
-/

namespace RegisterMachine

open Source

namespace Program.Realizes

variable {p q : Program} {statements : List Statement}

/-- Statements are realized by one program only. -/
theorem eq (hp : p.Realizes statements) (hq : q.Realizes statements) : p = q := by
  have bodies : p.body.toList.map some = q.body.toList.map some := hp.body.symm.trans hq.body
  have same : p.body = q.body :=
    Array.toList_inj.mp ((List.map_inj_right fun _ _ ↦ Option.some.inj).mp bodies)
  cases p
  cases q
  exact congrArg Program.mk same

/-- A realized statement that takes a slot stands for an instruction. -/
theorem exists_instruction? (h : p.Realizes statements) {s : Statement} (hs : s ∈ statements)
    (takes : s.takesSlot = true) : ∃ i, s.instruction? statements = some i := by
  have stands : s.instruction? statements ∈ p.body.toList.map some := by
    rw [← h.body]
    exact List.mem_map_of_mem (List.mem_filter.mpr ⟨hs, takes⟩)
  obtain ⟨i, -, same⟩ := List.mem_map.mp stands
  exact ⟨i, same.symm⟩

/-- The label of a realized branch is declared. -/
theorem label_mem (h : p.Realizes statements) {condition : Condition} {target : String}
    (hs : .branch condition target ∈ statements) : .label target ∈ statements := by
  obtain ⟨i, stands⟩ := h.exists_instruction? hs rfl
  rw [Statement.instruction?] at stands
  split_ifs at stands with declared
  exact declared

/-- A realized operation is well typed. -/
theorem misfits_eq_nil (h : p.Realizes statements) {op : Opcode} {operands : List Operand}
    (hs : .operation op operands ∈ statements) : op.misfits operands = [] := by
  obtain ⟨i, stands⟩ := h.exists_instruction? hs rfl
  exact (Opcode.instruction?_eq_some_iff.mp stands).1

/-- A line of a readable source has no fault if its statements are realized. -/
theorem faults_eq_nil {lines : List SourceLine} {line : SourceLine}
    (h : p.Realizes (lines.filterMap says?)) (readable : Readable lines)
    (ascending : Ascending lines) (hline : line ∈ lines) : line.faults lines = [] := by
  obtain ⟨statement, reads⟩ := readable line hline
  cases statement with
  | none => simp only [SourceLine.faults, reads]
  | some s =>
    have said : says? line = some s := says?_eq_some_iff.mpr reads
    have hs : s ∈ lines.filterMap says? := List.mem_filterMap.mpr ⟨line, hline, said⟩
    cases s with
    | label name =>
      obtain ⟨before, after, rfl⟩ := List.append_of_mem hline
      have unseen : .label name ∉ before.filterMap says? := by
        apply h.labels _ (after.filterMap says?) name
        rw [List.filterMap_append, List.filterMap_cons_some said]
      have new : before.find? (·.declares name) = none := by
        rw [List.find?_eq_none]
        intro other hother declares
        exact unseen (label_mem_iff.mpr ⟨other, hother, declares⟩)
      simp [SourceLine.faults, reads, ascending.above_eq, new]
    | branch condition target =>
      have declared : lines.any (·.declares target) = true :=
        List.any_eq_true.mpr (label_mem_iff.mp (h.label_mem hs))
      simp [SourceLine.faults, reads, declared]
    | operation op operands =>
      simp only [SourceLine.faults, reads, Opcode.mistakes_eq_nil_iff, h.misfits_eq_nil hs]

end Program.Realizes

namespace Source

/-- The kept lines can be read exactly if all lines of the source can. -/
theorem readable_numbered_iff (source : List String) :
    Readable (numbered source) ↔
      ∀ text ∈ source, ∃ statement, Statement.ofLine text = .ok statement := by
  induction source using List.reverseRecOn with
  | nil => simp [Readable]
  | append_singleton source text ih =>
    rw [numbered_append_singleton, Readable, List.forall_mem_append, List.forall_mem_append,
      ← Readable, ih]
    cases blank : isBlank text with
    | true => simp [Statement.ofLine_of_isBlank blank]
    | false => simp

/-- Nothing is wrong with a source exactly if no kept line has a fault. -/
theorem diagnosed_eq_nil_iff {source : List String} :
    diagnosed source = [] ↔ ∀ line ∈ numbered source, line.faults (numbered source) = [] := by
  rw [diagnosed_eq, allReports_eq_nil_iff]

end Source

/-- A source has the program that realizes its statements, provided that all its lines can be
read. -/
theorem assemble_eq_ok_iff {source : List String} {p : Program} :
    assemble source = .ok p ↔
      (∀ text ∈ source, ∃ statement, Statement.ofLine text = .ok statement) ∧
        p.Realizes (statements source) := by
  constructor
  · intro h
    refine ⟨?_, realizes_of_assemble_eq_ok h⟩
    rcases assemble_cases source with ⟨clean, -⟩ | ⟨-, error⟩
    · rw [← readable_numbered_iff]
      exact readable_of_faults_eq_nil (diagnosed_eq_nil_iff.mp clean)
    · rw [error] at h
      cases h
  · rintro ⟨readable, realizes⟩
    have clean : diagnosed source = [] := by
      rw [← filterMap_numbered] at realizes
      rw [diagnosed_eq_nil_iff]
      intro line hline
      exact realizes.faults_eq_nil ((readable_numbered_iff source).mpr readable)
        (ascending_numbered source) hline
    rcases assemble_cases source with ⟨-, q, ok⟩ | ⟨faulty, -⟩
    · rw [ok, realizes.eq (realizes_of_assemble_eq_ok ok)]
    · exact absurd clean faulty

end RegisterMachine
