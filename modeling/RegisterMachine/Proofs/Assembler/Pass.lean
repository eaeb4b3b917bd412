import RegisterMachine.Assembler.Basic
import RegisterMachine.Proofs.Opcode.WellTyped
import RegisterMachine.Proofs.Source.Context

/-!
# The pass over a source

The labels, waiting branches, slots and faults after some lines are what each of these lines says
in its context. This holds before the first line, and every visit of a further line keeps it.
-/

namespace RegisterMachine

open Source

namespace SourceLine

/-- What the pass leaves in the slot of the line. -/
def slot (line : SourceLine) : Slot :=
  match Statement.ofLine line.text with
  | .ok (some (.operation op operands)) =>
    match op.instruction? operands with
    | some i => .ready i
    | none => .rejected
  | .ok (some (.branch ..)) => .pending
  | _ => .rejected

/-- The branch of the line, which waits at the first slot that the lines above it leave. -/
def jump? (above : List SourceLine) (line : SourceLine) : Option PendingJump :=
  match Statement.ofLine line.text with
  | .ok (some (.branch condition target)) => some ⟨slotAfter above, condition, target, line⟩
  | _ => none

/-- The fault of a line that cannot be read, or that declares a label which is declared above. -/
def ownFaults (above : List SourceLine) (line : SourceLine) : List Fault :=
  match Statement.ofLine line.text with
  | .error fault => [fault]
  | .ok (some (.label name)) =>
    (above.find? (·.declares name)).toList.map fun first ↦ .duplicateLabel name first.number
  | _ => []

/-- The faults of the operands on the line, in the order of their positions. -/
def operandFaults (line : SourceLine) : List Fault :=
  match Statement.ofLine line.text with
  | .ok (some (.operation op operands)) => (op.misfits operands).map (op.misfit operands)
  | _ => []

/-- The reports of faults on the line. -/
def reports (line : SourceLine) (faults : List Fault) : List Diagnostic := faults.map (⟨line, ·⟩)

@[simp] theorem reports_nil (line : SourceLine) : line.reports [] = [] := rfl

end SourceLine

namespace Source

variable {lines : List SourceLine} {line : SourceLine}

/-- Where a label points: to the first slot that the lines above its first declaration leave. -/
def pointsTo? (lines : List SourceLine) (name : String) : Option LabelEntry :=
  (lines.find? (·.declares name)).map fun first ↦ ⟨slotAfter (above lines first), first.number⟩

/-- A further line only declares a label that is not declared yet. -/
theorem Ascending.pointsTo?_append (h : Ascending (lines ++ [line])) (name : String) :
    pointsTo? (lines ++ [line]) name =
      (pointsTo? lines name).or
        (if line.declares name then some ⟨slotAfter lines, line.number⟩ else none) := by
  rw [pointsTo?, pointsTo?, List.find?_append]
  cases first : lines.find? (·.declares name) with
  | some first =>
    simp only [Option.some_or, Option.map_some, h.above_append (List.mem_of_find?_eq_some first)]
  | none =>
    by_cases declares : line.declares name = true
    · simp only [List.find?_singleton, declares, ↓reduceIte, Option.none_or, Option.map_some,
        Option.map_none, h.above_eq]
    · simp only [List.find?_singleton, declares, Option.none_or, Option.map_none]
      rfl

end Source

namespace Assembler

variable {a : Assembler} {lines : List SourceLine} {line : SourceLine}

/-- The state after a pass over some lines, described line by line. -/
structure Passed (a : Assembler) (lines : List SourceLine) : Prop where
  slots : a.slots.toList = (lines.filter SourceLine.takesSlot).map SourceLine.slot
  labels : ∀ name, a.labels[name]? = pointsTo? lines name
  jumps : a.jumps = (inContext lines).filterMap fun entry ↦ entry.2.jump? entry.1
  faults : a.faults =
    (inContext lines).flatMap fun entry ↦ entry.2.reports (entry.2.ownFaults entry.1)
  misfits : a.checker.diagnostics = lines.flatMap fun line ↦ line.reports line.operandFaults

/-- An assembler that is reset has passed over no line. -/
theorem passed_reset (a : Assembler) : Passed a.reset [] where
  slots := rfl
  labels _ := Std.ExtTreeMap.getElem?_empty
  jumps := rfl
  faults := rfl
  misfits := rfl

/-- The next index is the first slot that the lines so far leave. -/
theorem Passed.nextIndex (h : Passed a lines) : a.nextIndex = slotAfter lines := by
  rw [Assembler.nextIndex, slotAfter, ← Array.length_toList, h.slots, List.length_map,
    List.countP_eq_length_filter]

/-- The state describes a further line if each part grows by what that line says. -/
theorem Passed.append {b : Assembler} (h : Passed a lines) (ascending : Ascending (lines ++ [line]))
    (slots : b.slots.toList =
      a.slots.toList ++ ([line].filter SourceLine.takesSlot).map SourceLine.slot)
    (labels : ∀ name, b.labels[name]? = a.labels[name]?.or
      (if line.declares name then some ⟨slotAfter lines, line.number⟩ else none))
    (jumps : b.jumps = a.jumps ++ (line.jump? lines).toList)
    (faults : b.faults = a.faults ++ line.reports (line.ownFaults lines))
    (misfits : b.checker.diagnostics =
      a.checker.diagnostics ++ line.reports line.operandFaults) :
    Passed b (lines ++ [line]) where
  slots := by rw [slots, h.slots, List.filter_append, List.map_append]
  labels name := by rw [labels, h.labels, ascending.pointsTo?_append]
  jumps := by
    rw [jumps, h.jumps, ascending.inContext_append, List.filterMap_append]
    rfl
  faults := by
    rw [faults, h.faults, ascending.inContext_append, List.flatMap_append, List.flatMap_singleton]
  misfits := by rw [misfits, h.misfits, List.flatMap_append, List.flatMap_singleton]

/-! ### Visits -/

/-- A line without tokens changes nothing. -/
theorem Passed.visit_none (h : Passed a lines) (ascending : Ascending (lines ++ [line]))
    (reads : Statement.ofLine line.text = .ok none) : Passed (a.visit line) (lines ++ [line]) := by
  have stays : a.visit line = a := by simp only [visit, reads]
  rw [stays]
  apply h.append ascending
  · simp [SourceLine.takesSlot, reads]
  · simp [SourceLine.declares, reads]
  · simp [SourceLine.jump?, reads]
  · simp [SourceLine.ownFaults, reads]
  · simp [SourceLine.operandFaults, reads]

/-- A line that cannot be read keeps a slot and is reported. -/
theorem Passed.visit_error (h : Passed a lines) (ascending : Ascending (lines ++ [line]))
    {fault : Fault} (reads : Statement.ofLine line.text = .error fault) :
    Passed (a.visit line) (lines ++ [line]) := by
  have rejects : a.visit line = (a.report line fault).push .rejected := by
    simp only [visit, reads]
  rw [rejects]
  apply h.append ascending
  · simp [push, report, SourceLine.takesSlot, SourceLine.slot, reads]
  · simp [push, report, SourceLine.declares, reads]
  · simp [push, report, SourceLine.jump?, reads]
  · simp [push, report, SourceLine.ownFaults, SourceLine.reports, reads]
  · simp [push, report, SourceLine.operandFaults, reads]

/-- A branch takes a slot and waits. -/
theorem Passed.visit_branch (h : Passed a lines) (ascending : Ascending (lines ++ [line]))
    {condition : Condition} {target : String}
    (reads : Statement.ofLine line.text = .ok (some (.branch condition target))) :
    Passed (a.visit line) (lines ++ [line]) := by
  have waits : a.visit line = a.visitBranch line condition target := by
    simp only [visit, reads]
  rw [waits]
  apply h.append ascending
  · simp [visitBranch, push, SourceLine.takesSlot, Statement.takesSlot, SourceLine.slot, reads]
  · simp [visitBranch, push, SourceLine.declares, reads]
  · simp [visitBranch, push, SourceLine.jump?, reads, h.nextIndex]
  · simp [visitBranch, push, SourceLine.ownFaults, reads]
  · simp [visitBranch, push, SourceLine.operandFaults, reads]

/-- An operation takes a slot, and its operands are checked. A well-typed one makes an
instruction. -/
theorem Passed.visit_operation (h : Passed a lines) (ascending : Ascending (lines ++ [line]))
    {op : Opcode} {operands : List Operand}
    (reads : Statement.ofLine line.text = .ok (some (.operation op operands))) :
    Passed (a.visit line) (lines ++ [line]) := by
  have taken : a.visit line = { a with
      slots := a.slots.push line.slot,
      checker := ⟨a.checker.diagnostics ++ line.reports line.operandFaults⟩ } := by
    simp only [visit, reads, visitOperation, TypeChecker.check, SourceLine.slot,
      SourceLine.operandFaults, SourceLine.reports, List.map_map]
    cases checked : op.instruction? operands with
    | some i =>
      obtain ⟨wellTyped, built⟩ := Opcode.instruction?_eq_some_iff.mp checked
      simp only [wellTyped, built]
      rfl
    | none =>
      rw [List.isEmpty_eq_false_iff.mpr (Opcode.instruction?_eq_none_iff.mp checked)]
      rfl
  rw [taken]
  apply h.append ascending
  · simp [SourceLine.takesSlot, Statement.takesSlot, reads]
  · simp [SourceLine.declares, reads]
  · simp [SourceLine.jump?, reads]
  · simp [SourceLine.ownFaults, reads]
  · rfl

/-- A label is declared, unless it is declared above. -/
theorem Passed.visit_label (h : Passed a lines) (ascending : Ascending (lines ++ [line]))
    {name : String} (reads : Statement.ofLine line.text = .ok (some (.label name))) :
    Passed (a.visit line) (lines ++ [line]) := by
  have visits : a.visit line = a.visitLabel line name := by simp only [visit, reads]
  have declares (other : String) : line.declares other = (name == other) := by
    simp [SourceLine.declares, reads]
  rw [visits, visitLabel]
  cases declared : a.labels[name]? with
  | some entry =>
    -- The label is found among the lines so far, so nothing is declared anew.
    obtain ⟨first, hfirst, rfl⟩ : ∃ first, lines.find? (·.declares name) = some first ∧
        ⟨slotAfter (above lines first), first.number⟩ = entry := by
      rw [h.labels, pointsTo?] at declared
      exact Option.map_eq_some_iff.mp declared
    apply h.append ascending
    · simp [report, SourceLine.takesSlot, Statement.takesSlot, reads]
    · intro other
      rw [declares]
      by_cases same : name = other
      · subst same
        simp [report, declared]
      · simp [report, same]
    · simp [report, SourceLine.jump?, reads]
    · simp [report, SourceLine.ownFaults, SourceLine.reports, reads, hfirst]
    · simp [report, SourceLine.operandFaults, reads]
  | none =>
    have new : lines.find? (·.declares name) = none := by
      rw [h.labels, pointsTo?] at declared
      exact Option.map_eq_none_iff.mp declared
    apply h.append ascending
    · simp [SourceLine.takesSlot, Statement.takesSlot, reads]
    · intro other
      rw [declares, Std.ExtTreeMap.getElem?_insert, h.nextIndex]
      by_cases same : name = other
      · subst same
        simp [declared]
      · simp [same]
    · simp [SourceLine.jump?, reads]
    · simp [SourceLine.ownFaults, reads, new]
    · simp [SourceLine.operandFaults, reads]

/-- Every visit keeps the description of the state, extended by the line that is visited. -/
theorem Passed.visit (h : Passed a lines) (ascending : Ascending (lines ++ [line])) :
    Passed (a.visit line) (lines ++ [line]) := by
  cases reads : Statement.ofLine line.text using Statement.reading_cases with
  | error fault => exact h.visit_error ascending reads
  | empty => exact h.visit_none ascending reads
  | label name => exact h.visit_label ascending reads
  | branch condition target => exact h.visit_branch ascending reads
  | operation op operands => exact h.visit_operation ascending reads

/-- The state after a pass over a source describes the source. -/
theorem passed_visitAll (a : Assembler) (source : List String) :
    Passed (a.reset.visitAll source) (numbered source) := by
  rw [visitAll]
  have ascending := ascending_numbered source
  generalize numbered source = lines at ascending
  induction lines using List.reverseRecOn with
  | nil => exact passed_reset a
  | append_singleton lines line ih =>
    rw [List.foldl_append]
    exact (ih ascending.of_append).visit ascending

end Assembler

end RegisterMachine
