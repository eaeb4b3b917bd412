import Mathlib.Data.List.Induction
import RegisterMachine.Proofs.Source.Statements

/-!
# Lines in context

What a line does in a source depends on the lines above it: they settle which slot it takes, and
whether a label that it declares is new. In a list of lines with ascending positions the lines
above a line are those before it.
-/

namespace RegisterMachine

namespace SourceLine

/-- Whether the line takes a slot. A line at fault takes one to keep its place. -/
def takesSlot (line : SourceLine) : Bool :=
  match Statement.ofLine line.text with
  | .ok (some statement) => statement.takesSlot
  | .ok none => false
  | .error _ => true

/-- Whether the line declares the label. -/
def declares (name : String) (line : SourceLine) : Bool :=
  match Statement.ofLine line.text with
  | .ok (some (.label declared)) => declared == name
  | _ => false

/-- A line declares a label exactly if that is all it says. -/
theorem declares_iff {name : String} {line : SourceLine} :
    line.declares name = true ↔ Statement.ofLine line.text = .ok (some (.label name)) := by
  rw [declares]
  split
  · next declared h =>
    rw [h, beq_iff_eq]
    constructor
    · rintro rfl
      rfl
    · intro e
      cases e
      rfl
  · next h =>
    constructor
    · intro e
      cases e
    · intro e
      exact absurd e (h name)

end SourceLine

namespace Source

variable {lines : List SourceLine} {line : SourceLine}

/-- The lines that stand above a line. -/
def above (lines : List SourceLine) (line : SourceLine) : List SourceLine :=
  lines.filter (·.number < line.number)

/-- The first slot that is left after some lines. -/
def slotAfter (lines : List SourceLine) : Nat := lines.countP SourceLine.takesSlot + 1

/-- Every line, together with the lines above it. -/
def inContext (lines : List SourceLine) : List (List SourceLine × SourceLine) :=
  lines.map fun line ↦ (above lines line, line)

/-- Ascending positions of more lines are ascending positions of fewer. -/
theorem Ascending.of_append {more : List SourceLine} (h : Ascending (lines ++ more)) :
    Ascending lines :=
  (List.pairwise_append.mp h).1

/-- With ascending positions the last line comes below all others. -/
theorem Ascending.number_lt (h : Ascending (lines ++ [line])) :
    ∀ other ∈ lines, other.number < line.number := by
  intro other hother
  exact (List.pairwise_append.mp h).2.2 other hother line List.mem_cons_self

/-- With ascending positions the lines above a line are those before it. -/
theorem Ascending.above_eq {before after : List SourceLine}
    (h : Ascending (before ++ line :: after)) : above (before ++ line :: after) line = before := by
  obtain ⟨-, rest, across⟩ := List.pairwise_append.mp h
  have earlier : before.filter (·.number < line.number) = before := by
    rw [List.filter_eq_self]
    intro other hother
    exact decide_eq_true (across other hother line List.mem_cons_self)
  have later : (line :: after).filter (·.number < line.number) = [] := by
    rw [List.filter_eq_nil_iff]
    intro other hother
    rw [decide_eq_true_iff, Nat.not_lt]
    rcases List.mem_cons.mp hother with rfl | hother
    · exact Nat.le_refl _
    · exact Nat.le_of_lt ((List.pairwise_cons.mp rest).1 other hother)
  rw [above, List.filter_append, earlier, later, List.append_nil]

/-- A further line is above none of the lines so far. -/
theorem Ascending.above_append (h : Ascending (lines ++ [line])) {other : SourceLine}
    (hother : other ∈ lines) : above (lines ++ [line]) other = above lines other := by
  have below : ([line].filter (·.number < other.number)) = [] := by
    have := h.number_lt other hother
    rw [List.filter_eq_nil_iff]
    intro last hlast
    rw [List.mem_singleton.mp hlast, decide_eq_true_iff]
    omega
  rw [above, List.filter_append, below, List.append_nil, above]

/-- A further line has all lines so far above it, and changes nothing for them. -/
theorem Ascending.inContext_append (h : Ascending (lines ++ [line])) :
    inContext (lines ++ [line]) = inContext lines ++ [(lines, line)] := by
  have old : lines.map (fun other ↦ (above (lines ++ [line]) other, other)) = inContext lines :=
    List.map_congr_left fun other hother ↦ by rw [h.above_append hother]
  rw [inContext, List.map_append, old, List.map_singleton, h.above_eq]

/-- A line in its context, by where it stands. -/
theorem Ascending.mem_inContext (h : Ascending lines) {before : List SourceLine} :
    (before, line) ∈ inContext lines ↔ ∃ after, lines = before ++ line :: after := by
  rw [inContext, List.mem_map]
  constructor
  · rintro ⟨other, hother, e⟩
    obtain ⟨start, rest, rfl⟩ := List.append_of_mem hother
    rw [h.above_eq] at e
    cases e
    exact ⟨rest, rfl⟩
  · rintro ⟨after, rfl⟩
    exact ⟨line, List.mem_append_right _ List.mem_cons_self, by rw [h.above_eq]⟩

/-- The lines that take a slot take the slots from 1 on, each the one after those above it. -/
theorem Ascending.zipIdx_filter_takesSlot (h : Ascending lines) :
    (lines.filter SourceLine.takesSlot).zipIdx 1 =
      (lines.filter SourceLine.takesSlot).map fun line ↦
        (line, slotAfter (above lines line)) := by
  induction lines using List.reverseRecOn with
  | nil => rfl
  | append_singleton lines line ih =>
    have old : (lines.filter SourceLine.takesSlot).map
        (fun other ↦ (other, slotAfter (above (lines ++ [line]) other))) =
          (lines.filter SourceLine.takesSlot).zipIdx 1 := by
      rw [ih h.of_append]
      apply List.map_congr_left
      intro other hother
      rw [h.above_append (List.mem_filter.mp hother |>.1)]
    have last : ([line].filter SourceLine.takesSlot).map
        (fun other ↦ (other, slotAfter (above (lines ++ [line]) other))) =
          ([line].filter SourceLine.takesSlot).zipIdx
            (1 + (lines.filter SourceLine.takesSlot).length) := by
      by_cases takes : line.takesSlot = true
      · rw [List.filter_cons_of_pos takes, List.filter_nil, List.map_singleton, h.above_eq,
          slotAfter, List.countP_eq_length_filter, Nat.add_comm]
        rfl
      · rw [List.filter_cons_of_neg takes]
        rfl
    rw [List.filter_append, List.zipIdx_append, List.map_append, old, last]

end Source

end RegisterMachine
