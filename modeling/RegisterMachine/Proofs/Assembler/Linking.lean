import Mathlib.Data.List.Basic
import RegisterMachine.Proofs.Assembler.Pass
import RegisterMachine.Proofs.Assembler.Resolution
import RegisterMachine.Proofs.Program.Slots

/-!
# Linking after a pass

No two branches wait at one slot, so every branch is linked to the slot of its own label. If no
label is missing, each slot ends up with what its line says.
-/

namespace RegisterMachine

open Source

/-! ### Waiting branches -/

/-- If no label is missing, every waiting branch is linked to its own label, provided that no two
wait at one slot. -/
theorem getElem?_of_link_eq_ok {labels : LabelTable} {jumps : List PendingJump}
    {branches : Std.ExtTreeMap Nat Instruction} (h : link labels jumps = .ok branches)
    (ascending : jumps.Pairwise (·.index < ·.index)) :
    ∀ jump ∈ jumps, branches[jump.index]? = jump.resolve? labels := by
  intro jump hjump
  have covers := Linkage.covers_foldl labels jumps
  rw [Linkage.link_eq_outcome, Linkage.outcome_eq_ok_iff] at h
  obtain ⟨complete, rfl⟩ := h
  have declared := covers.reports_eq_nil_iff.mp complete jump hjump
  rw [covers.branches]
  obtain ⟨before, after, rfl⟩ := List.append_of_mem hjump
  obtain ⟨-, below, -⟩ := List.pairwise_append.mp ascending
  have last : ∀ later ∈ after, later.index ≠ jump.index := fun later hlater ↦
    Nat.ne_of_gt ((List.pairwise_cons.mp below).1 later hlater)
  apply Linkage.lastBranch?_of_last last
  rw [PendingJump.isSome_resolve?]
  exact Std.ExtTreeMap.mem_iff_contains.mp declared

namespace SourceLine

/-- The fault of a branch whose label is declared nowhere. -/
def linkFaults (lines : List SourceLine) (line : SourceLine) : List Fault :=
  match Statement.ofLine line.text with
  | .ok (some (.branch _ target)) =>
    if lines.any (·.declares target) then [] else [.unresolvedLabel target]
  | _ => []

/-- The instruction that a line of a source without faults stands for. -/
def instruction? (lines : List SourceLine) (line : SourceLine) : Option Instruction :=
  match Statement.ofLine line.text with
  | .ok (some (.operation op operands)) => op.instruction? operands
  | .ok (some (.branch condition target)) =>
    (pointsTo? lines target).map fun entry ↦ .branch condition entry.index
  | _ => none

end SourceLine

namespace Assembler

variable {a : Assembler} {lines : List SourceLine} {line : SourceLine}

/-- Of two lines that take slots, the one below takes a later slot. -/
theorem pairwise_slotAfter (h : Ascending lines) :
    (inContext lines).Pairwise fun entry entry' ↦
      entry.2.takesSlot = true → slotAfter entry.1 < slotAfter entry'.1 := by
  induction lines using List.reverseRecOn with
  | nil => exact .nil
  | append_singleton lines line ih =>
    rw [h.inContext_append, List.pairwise_append]
    refine ⟨ih h.of_append, List.pairwise_singleton _ _, ?_⟩
    rintro ⟨before, other⟩ hother last hlast takes
    obtain ⟨after, rfl⟩ := h.of_append.mem_inContext.mp hother
    rw [List.mem_singleton.mp hlast]
    show slotAfter before < slotAfter (before ++ other :: after)
    have counted : slotAfter (before ++ other :: after) =
        slotAfter before + 1 + after.countP SourceLine.takesSlot := by
      rw [slotAfter, slotAfter, List.countP_append, List.countP_cons_of_pos takes]
      omega
    omega

/-- A branch takes the first slot that is left. -/
theorem takesSlot_of_jump?_eq_some {above : List SourceLine} {jump : PendingJump}
    (h : line.jump? above = some jump) :
    line.takesSlot = true ∧ jump.index = slotAfter above := by
  rw [SourceLine.jump?] at h
  split at h
  · next reads =>
    rw [← Option.some.inj h, SourceLine.takesSlot, reads]
    exact ⟨rfl, rfl⟩
  · cases h

/-- The waiting branches stand at ascending slots. -/
theorem Passed.pairwise_index (h : Passed a lines) (ascending : Ascending lines) :
    a.jumps.Pairwise (·.index < ·.index) := by
  rw [h.jumps]
  refine (pairwise_slotAfter ascending).filterMap _ ?_
  intro entry entry' earlier jump hjump jump' hjump'
  obtain ⟨takes, index⟩ := takesSlot_of_jump?_eq_some hjump
  obtain ⟨-, index'⟩ := takesSlot_of_jump?_eq_some hjump'
  rw [index, index']
  exact earlier takes

/-- A label is declared in the table exactly if a line declares it. -/
theorem Passed.contains_labels (h : Passed a lines) (name : String) :
    a.labels.contains name = lines.any (·.declares name) := by
  rw [Std.ExtTreeMap.contains_eq_isSome_getElem?, h.labels, pointsTo?, Option.isSome_map,
    List.isSome_find?]

/-- Linking reports every waiting branch whose label is not declared. -/
theorem unresolved_eq (a : Assembler) :
    a.unresolved = (unresolvedJumps a.labels a.jumps).map PendingJump.unresolved := by
  rw [unresolved, link]
  cases unresolvedJumps a.labels a.jumps <;> rfl

/-- The reports of linking are those of each branch whose label is declared nowhere. -/
theorem Passed.unresolved (h : Passed a lines) :
    a.unresolved = lines.flatMap fun line ↦ line.reports (line.linkFaults lines) := by
  have reported (above : List SourceLine) (line : SourceLine) :
      (((line.jump? above).filter fun jump ↦ !a.labels.contains jump.label).map
        PendingJump.unresolved).toList = line.reports (line.linkFaults lines) := by
    cases reads : Statement.ofLine line.text using Statement.reading_cases with
    | branch condition target =>
      simp only [SourceLine.jump?, SourceLine.linkFaults, reads, Option.filter_some,
        h.contains_labels]
      cases lines.any (·.declares target) <;> rfl
    | _ =>
      simp only [SourceLine.jump?, SourceLine.linkFaults, reads]
      rfl
  rw [unresolved_eq, unresolvedJumps, h.jumps, List.filter_filterMap, List.map_filterMap,
    List.filterMap_eq_flatMap_toList]
  simp only [reported, inContext, List.flatMap_map]

/-- With all labels declared, every waiting branch is linked to its own label. -/
theorem Passed.getElem?_resolved (h : Passed a lines) (ascending : Ascending lines)
    (linked : a.unresolved = []) :
    ∀ jump ∈ a.jumps, a.resolved[jump.index]? = jump.resolve? a.labels := by
  have all : unresolvedJumps a.labels a.jumps = [] := by
    rw [unresolved_eq] at linked
    exact List.map_eq_nil_iff.mp linked
  cases linking : link a.labels a.jumps with
  | ok branches =>
    have resolved : a.resolved = branches := by rw [Assembler.resolved, linking]
    rw [resolved]
    exact getElem?_of_link_eq_ok linking (h.pairwise_index ascending)
  | error missing =>
    rw [link, all] at linking
    cases linking

/-- With all labels declared, the slot of a line ends up with what the line stands for. -/
theorem Passed.finish?_slot (h : Passed a lines) (ascending : Ascending lines)
    (linked : a.unresolved = []) (hline : line ∈ lines) :
    finish? a.resolved (slotAfter (above lines line)) line.slot = line.instruction? lines := by
  cases reads : Statement.ofLine line.text using Statement.reading_cases with
  | error fault | empty | label name =>
    simp only [SourceLine.slot, SourceLine.instruction?, reads]
    rfl
  | operation op operands =>
    simp only [SourceLine.slot, SourceLine.instruction?, reads]
    cases op.instruction? operands <;> rfl
  | branch condition target =>
    have waits : (⟨slotAfter (above lines line), condition, target, line⟩ : PendingJump) ∈
        a.jumps := by
      rw [h.jumps, List.mem_filterMap]
      refine ⟨(above lines line, line), List.mem_map_of_mem hline, ?_⟩
      simp only [SourceLine.jump?, reads]
    have linked := h.getElem?_resolved ascending linked _ waits
    rw [PendingJump.resolve?, h.labels] at linked
    simp only [SourceLine.slot, SourceLine.instruction?, reads]
    exact linked

/-- With all labels declared, the slots end up with what their lines stand for. -/
theorem Passed.body?_eq_some_iff (h : Passed a lines) (ascending : Ascending lines)
    (linked : a.unresolved = []) {body : List Instruction} :
    a.body? = some body ↔
      (lines.filter SourceLine.takesSlot).map (·.instruction? lines) = body.map some := by
  rw [body?, mapM_eq_some_iff, h.slots, List.zipIdx_map, ascending.zipIdx_filter_takesSlot,
    List.map_map, List.map_map]
  have finished : (lines.filter SourceLine.takesSlot).map
      (((fun entry ↦ finish? a.resolved entry.2 entry.1) ∘ Prod.map SourceLine.slot id) ∘
        fun line ↦ (line, slotAfter (above lines line))) =
      (lines.filter SourceLine.takesSlot).map (·.instruction? lines) := by
    apply List.map_congr_left
    intro line hline
    exact h.finish?_slot ascending linked (List.mem_filter.mp hline).1
  rw [← finished]

end Assembler

end RegisterMachine
