import RegisterMachine.Proofs.Assembler.Diagnostics

/-!
# Instructions of statements

A program realizes statements if it has the instruction of each that takes a slot, in order, and
no label stands twice. The assembler only makes programs that realize what their source says.
-/

namespace RegisterMachine

open Source

namespace Statement

/-- The slot that a label points to. -/
def slotOf (statements : List Statement) (name : String) : Nat :=
  (statements.takeWhile (· ≠ .label name)).countP takesSlot + 1

/-- The instruction that a statement stands for. -/
def instruction? (statements : List Statement) : Statement → Option Instruction
  | .label _ => none
  | .branch condition target =>
    if .label target ∈ statements then some (.branch condition (slotOf statements target))
    else none
  | .operation op operands => op.instruction? operands

/-- Statements without a label are all different from it. -/
theorem forall_ne_label {before : List Statement} {name : String}
    (unseen : .label name ∉ before) : ∀ s ∈ before, decide (s ≠ .label name) = true := by
  intro s hs
  rw [decide_eq_true_iff]
  rintro rfl
  exact unseen hs

/-- The slot of a label is the one after the slots of the statements before it. -/
theorem slotOf_eq {before after : List Statement} {name : String}
    (unseen : .label name ∉ before) :
    slotOf (before ++ .label name :: after) name = before.countP takesSlot + 1 := by
  rw [slotOf, List.takeWhile_append_of_pos (forall_ne_label unseen),
    List.takeWhile_cons_of_neg (by simp), List.append_nil]

end Statement

namespace Source

variable {lines : List SourceLine} {line : SourceLine}

/-- All lines can be read. -/
def Readable (lines : List SourceLine) : Prop :=
  ∀ line ∈ lines, ∃ statement, Statement.ofLine line.text = .ok statement

/-- Of lines that can be read, the first ones can. -/
theorem Readable.of_append {more : List SourceLine} (h : Readable (lines ++ more)) :
    Readable lines :=
  fun line hline ↦ h line (List.mem_append_left more hline)

/-- A line that declares a label says just that. -/
theorem says?_eq_label_iff {name : String} :
    says? line = some (.label name) ↔ line.declares name = true := by
  rw [SourceLine.declares_iff, says?_eq_some_iff]

/-- A label is among the statements exactly if a line declares it. -/
theorem label_mem_iff {name : String} :
    .label name ∈ lines.filterMap says? ↔ ∃ line ∈ lines, line.declares name = true := by
  simp only [List.mem_filterMap, says?_eq_label_iff]

/-- The lines that take a slot are those whose statements take one. -/
theorem Readable.map_filter_takesSlot {β : Type} {f : SourceLine → β} {g : Statement → β}
    (h : Readable lines)
    (agree : ∀ line ∈ lines, ∀ s, says? line = some s → f line = g s) :
    (lines.filter SourceLine.takesSlot).map f =
      ((lines.filterMap says?).filter Statement.takesSlot).map g := by
  induction lines with
  | nil => rfl
  | cons line lines ih =>
    obtain ⟨here, rest⟩ := List.forall_mem_cons.mp h
    obtain ⟨agreeHere, agreeRest⟩ := List.forall_mem_cons.mp agree
    obtain ⟨statement, reads⟩ := here
    have same := ih rest agreeRest
    cases statement with
    | none =>
      have silent : line.takesSlot = false := by rw [SourceLine.takesSlot, reads]
      have nothing : says? line = none := by rw [says?, statement?, reads]
      rw [List.filter_cons_of_neg (by simp [silent]), List.filterMap_cons_none nothing, same]
    | some s =>
      have slot : line.takesSlot = s.takesSlot := by rw [SourceLine.takesSlot, reads]
      have said : says? line = some s := says?_eq_some_iff.mpr reads
      rw [List.filterMap_cons_some said, List.filter_cons, List.filter_cons, slot]
      by_cases takes : s.takesSlot = true
      · rw [if_pos takes, if_pos takes, List.map_cons, List.map_cons, same, agreeHere s said]
      · rw [if_neg takes, if_neg takes, same]

/-- As many lines take a slot as statements do. -/
theorem Readable.countP_takesSlot (h : Readable lines) :
    lines.countP SourceLine.takesSlot = (lines.filterMap says?).countP Statement.takesSlot := by
  have same := congrArg List.length
    (h.map_filter_takesSlot (f := fun _ ↦ ()) (g := fun _ ↦ ()) fun _ _ _ _ ↦ rfl)
  rwa [List.length_map, List.length_map, ← List.countP_eq_length_filter,
    ← List.countP_eq_length_filter] at same

/-- A label points to the slot of what follows the statement that declares it. -/
theorem Readable.pointsTo?_eq (h : Readable lines) (ascending : Ascending lines) (name : String) :
    (pointsTo? lines name).map LabelEntry.index =
      if .label name ∈ lines.filterMap says? then
        some (Statement.slotOf (lines.filterMap says?) name)
      else none := by
  rw [pointsTo?]
  cases found : lines.find? (·.declares name) with
  | none =>
    have absent : .label name ∉ lines.filterMap says? := by
      rw [label_mem_iff]
      rintro ⟨line, hline, declares⟩
      exact List.find?_eq_none.mp found line hline declares
    rw [if_neg absent]
    rfl
  | some first =>
    obtain ⟨declares, before, after, rfl, new⟩ := List.find?_eq_some_iff_append.mp found
    have unseen : .label name ∉ before.filterMap says? := by
      rw [label_mem_iff]
      rintro ⟨line, hline, declares⟩
      have other := new line hline
      rw [declares] at other
      cases other
    have split : (before ++ first :: after).filterMap says? =
        before.filterMap says? ++ .label name :: after.filterMap says? := by
      rw [List.filterMap_append, List.filterMap_cons_some (says?_eq_label_iff.mpr declares)]
    rw [split, if_pos (List.mem_append_right _ List.mem_cons_self), Statement.slotOf_eq unseen,
      ← h.of_append.countP_takesSlot]
    simp only [Option.map_some, ascending.above_eq, slotAfter]

/-- A line that can be read stands for the instruction of its statement. -/
theorem Readable.instruction?_eq (h : Readable lines) (ascending : Ascending lines)
    {s : Statement} (said : says? line = some s) :
    line.instruction? lines = s.instruction? (lines.filterMap says?) := by
  have reads := says?_eq_some_iff.mp said
  cases s with
  | label name => simp only [SourceLine.instruction?, Statement.instruction?, reads]
  | operation op operands => simp only [SourceLine.instruction?, Statement.instruction?, reads]
  | branch condition target =>
    have index := h.pointsTo?_eq ascending target
    have linked : line.instruction? lines =
        ((pointsTo? lines target).map LabelEntry.index).map (.branch condition) := by
      simp only [SourceLine.instruction?, reads, Option.map_map]
      rfl
    rw [linked, index, Statement.instruction?, apply_ite (Option.map _)]
    rfl

/-- Lines without faults can be read. -/
theorem readable_of_faults_eq_nil (clean : ∀ line ∈ lines, line.faults lines = []) :
    Readable lines := by
  intro line hline
  have noFault := clean line hline
  cases reads : Statement.ofLine line.text with
  | error fault =>
    rw [SourceLine.faults, reads] at noFault
    cases noFault
  | ok statement => exact ⟨statement, rfl⟩

/-- Lines without faults declare no label that is declared above. -/
theorem label_notMem_of_faults_eq_nil (ascending : Ascending lines)
    (clean : ∀ line ∈ lines, line.faults lines = []) {before after : List Statement}
    {name : String} (split : lines.filterMap says? = before ++ .label name :: after) :
    .label name ∉ before := by
  obtain ⟨start, line, below, rfl, rfl, said, -⟩ := exists_line_of_filterMap_eq split
  have noFault := clean line (List.mem_append_right _ List.mem_cons_self)
  simp only [SourceLine.faults, says?_eq_some_iff.mp said, ascending.above_eq,
    List.map_eq_nil_iff, Option.toList_eq_nil_iff, List.find?_eq_none] at noFault
  rw [label_mem_iff]
  rintro ⟨other, hother, declares⟩
  exact noFault other hother declares

end Source

/-- A program realizes statements if its slots hold their instructions and no label is declared
twice. -/
structure Program.Realizes (p : Program) (statements : List Statement) : Prop where
  body : (statements.filter Statement.takesSlot).map (·.instruction? statements) =
    p.body.toList.map some
  labels : ∀ before after name, statements = before ++ .label name :: after →
    .label name ∉ before

namespace Program.Realizes

variable {p : Program} {statements : List Statement}

/-- No label is declared again after its declaration. -/
theorem notMem_after (h : p.Realizes statements) {before after : List Statement} {name : String}
    (split : statements = before ++ .label name :: after) : .label name ∉ after := by
  intro again
  obtain ⟨between, rest, rfl⟩ := List.append_of_mem again
  apply h.labels (before ++ .label name :: between) rest name
  · rw [split, List.append_assoc, List.cons_append]
  · exact List.mem_append_right _ List.mem_cons_self

/-- The slots are as many as the statements that take one, and slot 0. -/
theorem size_eq (h : p.Realizes statements) :
    p.size = (statements.filter Statement.takesSlot).length + 1 := by
  have length := congrArg List.length h.body
  rw [List.length_map, List.length_map] at length
  rw [Program.size, length, Array.length_toList]

/-- A statement that takes a slot has its instruction there. -/
theorem get?_succ (h : p.Realizes statements) {k : Nat} {s : Statement}
    (hs : (statements.filter Statement.takesSlot)[k]? = some s) :
    ∃ i, s.instruction? statements = some i ∧ p.get? (k + 1) = some i := by
  have here := congrArg (·[k]?) h.body
  simp only [List.getElem?_map, hs, Option.map_some, Array.getElem?_toList] at here
  obtain ⟨i, held, stands⟩ := Option.map_eq_some_iff.mp here.symm
  exact ⟨i, stands.symm, held⟩

end Program.Realizes

/-- The program of a source realizes what the source says. -/
theorem realizes_of_assemble_eq_ok {source : List String} {p : Program}
    (h : assemble source = .ok p) : p.Realizes (statements source) := by
  have ascending := ascending_numbered source
  have passed := Assembler.passed_visitAll .empty source
  have assembled : (Assembler.empty.reset.visitAll source).result = .ok p := h
  rcases passed.result_cases ascending with ⟨clean, body, hbody, ok⟩ | ⟨-, error⟩
  · rw [ok] at assembled
    cases assembled
    have linked := passed.unresolved_eq_nil ascending clean
    rw [passed.diagnostics_eq ascending, allReports_eq_nil_iff] at clean
    have readable := readable_of_faults_eq_nil clean
    rw [passed.body?_eq_some_iff ascending linked, readable.map_filter_takesSlot
      fun line hline s said ↦ readable.instruction?_eq ascending said] at hbody
    rw [← filterMap_numbered]
    exact ⟨hbody, fun before after name split ↦
      label_notMem_of_faults_eq_nil ascending clean split⟩
  · rw [error] at assembled
    cases assembled

end RegisterMachine
