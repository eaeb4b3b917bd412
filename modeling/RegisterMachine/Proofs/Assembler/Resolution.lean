import Mathlib.Data.List.Induction
import RegisterMachine.Assembler.Link

/-!
# Linking in one pass

Linking can be done branch by branch, with the table of those that are linked and the list of those
that are not (`link_eq_outcome`). The table always holds the last linked branch of each slot, and
the list one report for each branch without a label. In the end only one of the two is given out.
-/

namespace RegisterMachine

/-- A branch has a target exactly if its label is declared. -/
theorem PendingJump.isSome_resolve? (labels : LabelTable) (jump : PendingJump) :
    (jump.resolve? labels).isSome = labels.contains jump.label := by
  rw [resolve?, Option.isSome_map, Std.ExtTreeMap.contains_eq_isSome_getElem?]

/-- The branches that cannot be linked are those whose label is not in the table. -/
theorem unresolvedJumps_eq_filter (labels : LabelTable) (jumps : List PendingJump) :
    unresolvedJumps labels jumps = jumps.filter (·.label ∉ labels) := by
  apply List.filter_congr
  intro jump _
  rw [Bool.eq_iff_iff, decide_eq_true_iff, Std.ExtTreeMap.mem_iff_contains, Bool.not_eq_true',
    Bool.not_eq_true]

/-- The branches that are linked, by their slots, and the reports of those that cannot be. -/
structure Linkage where
  branches : Std.ExtTreeMap Nat Instruction
  reports : List Diagnostic

namespace Linkage

/-- Nothing is linked and nothing reported. -/
def empty : Linkage := ⟨∅, []⟩

/-- A further branch is linked, or reported. -/
def take (labels : LabelTable) (linkage : Linkage) (jump : PendingJump) : Linkage :=
  match jump.resolve? labels with
  | some branch => { linkage with branches := linkage.branches.insert jump.index branch }
  | none => { linkage with reports := linkage.reports ++ [jump.unresolved] }

/-- The linked branches if nothing was reported, and else the reports. -/
def outcome (linkage : Linkage) : Except (List Diagnostic) (Std.ExtTreeMap Nat Instruction) :=
  if linkage.reports = [] then .ok linkage.branches else .error linkage.reports

variable {labels : LabelTable} {jumps : List PendingJump} {linkage : Linkage}

/-- The last branch of a slot whose label is declared, with its target. -/
def lastBranch? (labels : LabelTable) (jumps : List PendingJump) (index : Nat) :
    Option Instruction :=
  jumps.reverse.findSome? fun jump ↦ if jump.index = index then jump.resolve? labels else none

/-- All branches of a list are linked or reported. -/
structure Covers (labels : LabelTable) (jumps : List PendingJump) (linkage : Linkage) : Prop where
  branches : ∀ index, linkage.branches[index]? = lastBranch? labels jumps index
  reports : linkage.reports = (unresolvedJumps labels jumps).map PendingJump.unresolved

theorem covers_empty (labels : LabelTable) : Covers labels [] empty where
  branches _ := Std.ExtTreeMap.getElem?_empty
  reports := rfl

theorem lastBranch?_append_singleton (labels : LabelTable) (jumps : List PendingJump)
    (jump : PendingJump) (index : Nat) :
    lastBranch? labels (jumps ++ [jump]) index =
      (if jump.index = index then jump.resolve? labels else none).or
        (lastBranch? labels jumps index) := by
  rw [lastBranch?, List.reverse_append, List.reverse_singleton, List.singleton_append,
    List.findSome?_cons]
  split <;> simp_all [lastBranch?]

/-- A further branch replaces that of its slot, or is one report more. -/
theorem Covers.take (h : Covers labels jumps linkage) (jump : PendingJump) :
    Covers labels (jumps ++ [jump]) (linkage.take labels jump) := by
  have declared := jump.isSome_resolve? labels
  rw [Linkage.take]
  cases resolved : jump.resolve? labels with
  | some branch =>
    rw [resolved, Option.isSome_some] at declared
    constructor
    · intro index
      rw [lastBranch?_append_singleton, resolved, Std.ExtTreeMap.getElem?_insert, ← h.branches]
      simp only [Nat.compare_eq_eq]
      split <;> rfl
    · rw [unresolvedJumps, List.filter_append, ← unresolvedJumps, List.map_append, ← h.reports]
      simp [← declared]
  | none =>
    rw [resolved, Option.isSome_none] at declared
    constructor
    · intro index
      rw [lastBranch?_append_singleton, resolved, ite_self, Option.none_or]
      exact h.branches index
    · rw [unresolvedJumps, List.filter_append, ← unresolvedJumps, List.map_append, ← h.reports]
      simp [← declared]

/-- Taking all branches of a list covers them. -/
theorem covers_foldl (labels : LabelTable) (jumps : List PendingJump) :
    Covers labels jumps (jumps.foldl (Linkage.take labels) empty) := by
  -- From the end: the last branch of a slot is the one that counts.
  induction jumps using List.reverseRecOn with
  | nil => exact covers_empty labels
  | append_singleton jumps jump ih =>
    rw [List.foldl_append, List.foldl_cons, List.foldl_nil]
    exact ih.take jump

/-- Linking gives out what comes of taking the branches one by one. -/
theorem link_eq_outcome (labels : LabelTable) (jumps : List PendingJump) :
    link labels jumps = (jumps.foldl (Linkage.take labels) empty).outcome := by
  have branches : jumps.foldl (fun resolved jump ↦
      match jump.resolve? labels with
      | some branch => resolved.insert jump.index branch
      | none => resolved) empty.branches = (jumps.foldl (Linkage.take labels) empty).branches := by
    apply List.foldl_hom Linkage.branches
    intro linkage jump
    rw [Linkage.take]
    split <;> rfl
  have reports := (covers_foldl labels jumps).reports
  rw [link, outcome, reports, ← branches]
  cases unresolvedJumps labels jumps with
  | nil => rfl
  | cons jump missing => rfl

/-- The linked branches are given out exactly if nothing was reported. -/
theorem outcome_eq_ok_iff {branches : Std.ExtTreeMap Nat Instruction} :
    linkage.outcome = .ok branches ↔ linkage.reports = [] ∧ linkage.branches = branches := by
  rw [outcome]
  split
  · next complete => simp [complete]
  · next incomplete => simp [incomplete]

/-- Nothing is reported exactly if every label is declared. -/
theorem Covers.reports_eq_nil_iff (h : Covers labels jumps linkage) :
    linkage.reports = [] ↔ ∀ jump ∈ jumps, jump.label ∈ labels := by
  rw [h.reports, List.map_eq_nil_iff, unresolvedJumps_eq_filter, List.filter_eq_nil_iff]
  simp only [decide_eq_true_eq, not_not]

/-- The last branch of a slot, if its label is declared. -/
theorem lastBranch?_of_last {before after : List PendingJump} {jump : PendingJump}
    (last : ∀ later ∈ after, later.index ≠ jump.index)
    (declared : (jump.resolve? labels).isSome = true) :
    lastBranch? labels (before ++ jump :: after) jump.index = jump.resolve? labels := by
  have others : after.reverse.findSome?
      (fun later ↦ if later.index = jump.index then later.resolve? labels else none) = none := by
    rw [List.findSome?_eq_none_iff]
    intro later hlater
    exact if_neg (last later (List.mem_reverse.mp hlater))
  obtain ⟨branch, resolved⟩ := Option.isSome_iff_exists.mp declared
  rw [lastBranch?, List.reverse_append, List.reverse_cons, List.append_assoc,
    List.findSome?_append, others, Option.none_or, List.singleton_append, List.findSome?_cons,
    if_pos rfl, resolved]

/-- If all labels are declared, a slot has a last branch exactly if a branch waits at it. -/
theorem isSome_lastBranch? (declared : ∀ jump ∈ jumps, jump.label ∈ labels) (index : Nat) :
    (lastBranch? labels jumps index).isSome = true ↔ ∃ jump ∈ jumps, jump.index = index := by
  rw [lastBranch?, List.findSome?_isSome_iff]
  constructor
  · rintro ⟨jump, hjump, found⟩
    refine ⟨jump, List.mem_reverse.mp hjump, ?_⟩
    by_contra other
    rw [if_neg other] at found
    cases found
  · rintro ⟨jump, hjump, rfl⟩
    refine ⟨jump, List.mem_reverse.mpr hjump, ?_⟩
    rw [if_pos rfl, PendingJump.isSome_resolve?]
    exact Std.ExtTreeMap.mem_iff_contains.mp (declared jump hjump)

end Linkage

open Linkage

/-- The table holds the branches of a list, with the slots of their labels: it has an entry at every
slot that a branch waits at and at no other, and the last branch of a slot is what it holds. -/
structure Links (labels : LabelTable) (jumps : List PendingJump)
    (branches : Std.ExtTreeMap Nat Instruction) : Prop where
  mem_iff : ∀ index, index ∈ branches ↔ ∃ jump ∈ jumps, jump.index = index
  last : ∀ before jump after, jumps = before ++ jump :: after →
    (∀ later ∈ after, later.index ≠ jump.index) →
      ∃ entry, labels[jump.label]? = some entry ∧
        branches[jump.index]? = some (.branch jump.condition entry.index)

/-- Branches that are covered without a report are linked. -/
theorem Linkage.Covers.links {labels : LabelTable} {jumps : List PendingJump} {linkage : Linkage}
    (h : Covers labels jumps linkage) (declared : ∀ jump ∈ jumps, jump.label ∈ labels) :
    Links labels jumps linkage.branches where
  mem_iff index := by
    rw [Std.ExtTreeMap.mem_iff_isSome_getElem?, h.branches]
    exact isSome_lastBranch? declared index
  last before jump after split last := by
    have label : jump.label ∈ labels := declared jump (by rw [split]; simp)
    have target : (jump.resolve? labels).isSome = true := by
      rw [PendingJump.isSome_resolve?]
      exact Std.ExtTreeMap.mem_iff_contains.mp label
    obtain ⟨entry, found⟩ := Option.isSome_iff_exists.mp
      (Std.ExtTreeMap.mem_iff_isSome_getElem?.mp label)
    refine ⟨entry, found, ?_⟩
    rw [h.branches, split, lastBranch?_of_last last target, PendingJump.resolve?, found,
      Option.map_some]

/-- Branches are linked exactly if every one of their labels is declared. Of several branches at one
slot the last one is in the table. Otherwise there is a report for each branch whose label is
missing, on its own line and in the order of the branches, and for no other. -/
theorem link_eq_ok_or_error (labels : LabelTable) (jumps : List PendingJump) :
    ((∃ branches, link labels jumps = .ok branches) ↔ ∀ jump ∈ jumps, jump.label ∈ labels) ∧
    (∀ branches, link labels jumps = .ok branches → Links labels jumps branches) ∧
    ((∃ jump ∈ jumps, jump.label ∉ labels) → link labels jumps =
      .error ((jumps.filter (·.label ∉ labels)).map fun jump ↦
        ⟨jump.source, .unresolvedLabel jump.label⟩)) := by
  have covers := covers_foldl labels jumps
  rw [link_eq_outcome]
  refine ⟨?_, ?_, ?_⟩
  · simp only [outcome_eq_ok_iff, exists_and_left, exists_eq', and_true, covers.reports_eq_nil_iff]
  · intro branches linked
    obtain ⟨complete, rfl⟩ := outcome_eq_ok_iff.mp linked
    exact covers.links (covers.reports_eq_nil_iff.mp complete)
  · rintro ⟨jump, hjump, undeclared⟩
    have incomplete : (jumps.foldl (Linkage.take labels) empty).reports ≠ [] := fun complete ↦
      undeclared (covers.reports_eq_nil_iff.mp complete jump hjump)
    rw [outcome, if_neg incomplete, covers.reports, unresolvedJumps_eq_filter]
    rfl

/-- Two branches at one slot, alone and with a third one to a label that is not declared. -/
theorem link_twice_at_five :
    let labels : LabelTable := (∅ : LabelTable).insert "LOOP" ⟨3, 1⟩
    let twice : List PendingJump :=
      [⟨5, .eq, "LOOP", ⟨6, "B EQ LOOP"⟩⟩, ⟨5, .gt, "LOOP", ⟨7, "B GT LOOP"⟩⟩]
    let stray : PendingJump := ⟨6, .always, "END", ⟨8, "B END"⟩⟩
    ((∀ jump ∈ twice, jump.label ∈ labels) ∧ (∀ later ∈ ([] : List PendingJump), later.index ≠ 5) ∧
      ∃ branches, link labels twice = .ok branches ∧ branches[5]? = some (.branch .gt 3)) ∧
    (∃ jump ∈ twice ++ [stray], jump.label ∉ labels) ∧
      link labels (twice ++ [stray]) = .error [⟨⟨8, "B END"⟩, .unresolvedLabel "END"⟩] := by
  intro labels twice stray
  have declared : ∀ jump ∈ twice, jump.label ∈ labels := by simp [labels, twice]
  have undeclared : "END" ∉ labels := by simp [labels]
  have nothing : ∀ later ∈ ([] : List PendingJump), later.index ≠ 5 := by simp
  obtain ⟨ends, links, -⟩ := link_eq_ok_or_error labels twice
  obtain ⟨-, -, reports⟩ := link_eq_ok_or_error labels (twice ++ [stray])
  obtain ⟨branches, linked⟩ := ends.mpr declared
  obtain ⟨entry, found, held⟩ := (links branches linked).last [twice[0]] twice[1] [] rfl nothing
  obtain rfl : ⟨3, 1⟩ = entry := by simpa [labels, twice] using found
  refine ⟨⟨declared, nothing, branches, linked, held⟩, ⟨stray, by simp, undeclared⟩, ?_⟩
  rw [reports ⟨stray, by simp, undeclared⟩]
  simp [labels, twice, stray]

end RegisterMachine
