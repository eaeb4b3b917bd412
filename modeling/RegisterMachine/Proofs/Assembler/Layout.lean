import RegisterMachine.Proofs.Assembler.Acceptance
import RegisterMachine.Proofs.Assembler.Shape
import RegisterMachine.Proofs.Source.Layout

/-!
# Layout does not matter

A source with another layout has the same program, or it is rejected with the same faults of the
same lines, told of their new positions (`assemble_relaid`). Both rest on the lines that are kept:
they read the same in the same order, so that the labels above a line are the same, on lines that
have moved with it.
-/

namespace RegisterMachine

open Source

namespace Fault

/-- The fault after lines have moved. Only a label that is declared again names another line. -/
def renumber (move : Nat → Nat) : Fault → Fault
  | duplicateLabel name firstLine => duplicateLabel name (move firstLine)
  | fault => fault

/-- A fault that is not found among labels names no other line. -/
theorem renumber_of_category_ne {fault : Fault} (h : fault.category ≠ "Link") (move : Nat → Nat) :
    fault.renumber move = fault := by
  cases fault with
  | duplicateLabel name firstLine => exact absurd rfl h
  | _ => rfl

end Fault

/-- A diagnostic and what has become of it: the fault of the line that was moved. -/
structure Diagnostic.MovesTo (move : Nat → Nat) (d d' : Diagnostic) : Prop where
  line : d.line.MovesTo move d'.line
  fault : d'.fault = d.fault.renumber move

section Moved

variable {move : Nat → Nat} {lines lines' : List SourceLine} {line line' : SourceLine}

namespace SourceLine

/-- A line declares the label that it declared where it stood. -/
theorem MovesTo.declares_eq (h : line.MovesTo move line') (name : String) :
    line'.declares name = line.declares name := by
  rw [declares, declares, h.ofLine_eq]

/-- A line says what it said where it stood. -/
theorem MovesTo.says?_eq (h : line.MovesTo move line') : says? line' = says? line := by
  rw [says?, says?, statement?, statement?, h.ofLine_eq]

end SourceLine

namespace Source

/-- The lines above a line move with it. -/
theorem forall₂_above (mono : StrictMono move)
    (moved : List.Forall₂ (SourceLine.MovesTo move) lines lines') (h : line.MovesTo move line') :
    List.Forall₂ (SourceLine.MovesTo move) (above lines line) (above lines' line') := by
  refine List.rel_filter (fun other other' hother ↦ ?_) moved
  have order : other.number < line.number ↔ other'.number < line'.number := by
    rw [h.number, hother.number, mono.lt_iff_lt]
  exact (decide_eq_true_iff.trans order).trans decide_eq_true_iff.symm

/-- The line that declares a label first has moved. -/
theorem map_number_find?_declares
    (moved : List.Forall₂ (SourceLine.MovesTo move) lines lines') (name : String) :
    (lines'.find? (·.declares name)).map (·.number) =
      (lines.find? (·.declares name)).map fun first ↦ move first.number := by
  induction moved with
  | nil => rfl
  | cons first rest ih =>
    rw [List.find?_cons, List.find?_cons, first.declares_eq]
    split
    · exact congrArg some first.number
    · exact ih

/-- A label is declared after lines have moved exactly if it was. -/
theorem any_declares_eq (moved : List.Forall₂ (SourceLine.MovesTo move) lines lines')
    (name : String) : lines'.any (·.declares name) = lines.any (·.declares name) := by
  have declared := congrArg Option.isSome (map_number_find?_declares moved name)
  rw [Option.isSome_map, Option.isSome_map, List.isSome_find?, List.isSome_find?] at declared
  exact declared

/-- Lines that have moved say the same. -/
theorem filterMap_says?_eq (moved : List.Forall₂ (SourceLine.MovesTo move) lines lines') :
    lines'.filterMap says? = lines.filterMap says? := by
  induction moved with
  | nil => rfl
  | cons first rest ih => rw [List.filterMap_cons, List.filterMap_cons, first.says?_eq, ih]

end Source

/-- A line has the faults that it had where it stood. -/
theorem SourceLine.MovesTo.faults_eq (mono : StrictMono move)
    (moved : List.Forall₂ (MovesTo move) lines lines') (h : line.MovesTo move line') :
    line'.faults lines' = (line.faults lines).map (Fault.renumber move) := by
  cases reads : Statement.ofLine line.text using Statement.reading_cases with
  | error fault =>
    have syntactic := Statement.category_of_ofLine_eq_error reads
    have same := Fault.renumber_of_category_ne (by rw [syntactic]; decide) move
    simp only [faults, h.ofLine_eq, reads, List.map_singleton, same]
  | empty => simp only [faults, h.ofLine_eq, reads, List.map_nil]
  | label name =>
    -- The line above that declares the label first has moved too.
    have first := map_number_find?_declares (forall₂_above mono moved h) name
    have told := congrArg (fun number ↦ (number.map (Fault.duplicateLabel name)).toList) first
    simp only [Option.map_map] at told
    simp only [faults, h.ofLine_eq, reads, Option.toList_map, List.map_map] at told ⊢
    exact told
  | branch condition target =>
    simp only [faults, h.ofLine_eq, reads, any_declares_eq moved]
    split <;> rfl
  | operation op operands =>
    simp only [faults, h.ofLine_eq, reads, Opcode.mistakes, List.map_map]
    rfl

namespace Source

/-- What is told of a line is told of it at its new position. -/
theorem forall₂_reports (h : line.MovesTo move line') (faults : List Fault) :
    List.Forall₂ (Diagnostic.MovesTo move) (line.reports faults)
      (line'.reports (faults.map (Fault.renumber move))) := by
  rw [SourceLine.reports, SourceLine.reports, List.map_map, List.forall₂_map_left_iff,
    List.forall₂_map_right_iff, List.forall₂_same]
  exact fun _ _ ↦ ⟨h, rfl⟩

end Source

end Moved

/-- What is wrong with a source is wrong with it after a change of layout, in the same order. -/
theorem forall₂_diagnosed {source source' : List String} {move : Nat → Nat}
    (h : Relaid source source' move) :
    List.Forall₂ (Diagnostic.MovesTo move) (diagnosed source) (diagnosed source') := by
  rw [diagnosed_eq, diagnosed_eq]
  refine List.rel_flatMap h.forall₂_movesTo fun line line' moved ↦ ?_
  have told := forall₂_reports moved (line.faults (numbered source))
  rw [← moved.faults_eq h.strictMono h.forall₂_movesTo] at told
  exact told

/-- A change of layout leaves the statements of a source. -/
theorem statements_relaid {source source' : List String} {move : Nat → Nat}
    (h : Relaid source source' move) : statements source' = statements source := by
  rw [← filterMap_numbered, ← filterMap_numbered, filterMap_says?_eq h.forall₂_movesTo]

/-- A source that has a program before and after a change of layout has the same one. -/
theorem eq_of_assemble_relaid {source source' : List String} {move : Nat → Nat}
    (h : Relaid source source' move) {p p' : Program} (ok : assemble source = .ok p)
    (ok' : assemble source' = .ok p') : p' = p := by
  have realizes := realizes_of_assemble_eq_ok ok
  rw [← statements_relaid h] at realizes
  exact (realizes_of_assemble_eq_ok ok').eq realizes

/-- Layout does not matter. Blank lines and comments can be put in, white space and comments can
be put behind lines, and the case of ASCII letters can be changed, all of them any number of times:
a source that has a program has the same one afterwards, and one that is rejected is rejected with
the same faults in the same order, each on the line that it was on at its new position. -/
theorem assemble_relaid {source source' : List String} {move : Nat → Nat}
    (h : Relaid source source' move) :
    (∀ p, assemble source = .ok p → assemble source' = .ok p) ∧
      ∀ r, assemble source = .error r → ∃ r', assemble source' = .error r' ∧
        List.Forall₂ (Diagnostic.MovesTo move) r.diagnostics r'.diagnostics := by
  -- What is told of both sources is equally long, so that both have a program or neither has.
  have moved := forall₂_diagnosed h
  rcases assemble_cases source with ⟨clean, q, ok⟩ | ⟨faulty, error⟩
  · rw [clean, List.forall₂_nil_left_iff] at moved
    rcases assemble_cases source' with ⟨-, q', ok'⟩ | ⟨faulty', -⟩
    · constructor
      · intro p hp
        rw [ok', eq_of_assemble_relaid h hp ok']
      · intro r hr
        rw [ok] at hr
        cases hr
    · exact absurd moved faulty'
  · have faulty' : diagnosed source' ≠ [] := by
      intro clean'
      rw [clean', List.forall₂_nil_right_iff] at moved
      exact faulty moved
    constructor
    · intro p hp
      rw [error] at hp
      cases hp
    · intro r hr
      rw [error] at hr
      cases hr
      exact ⟨_, assemble_of_diagnosed_eq rfl faulty', moved⟩

/-- A comment is put on top, a label is written in upper case and a comment is put behind a branch:
the label that is declared again and the missing one are told of one line further down. -/
theorem assemble_relaid_comment :
    let source := ["a:", "a:", "b x"]
    let source' := ["; note", "A:", "a:", "b x // again"]
    let found : List Diagnostic :=
      [⟨⟨2, "a:"⟩, .duplicateLabel "A" 1⟩, ⟨⟨3, "b x"⟩, .unresolvedLabel "X"⟩]
    let found' : List Diagnostic :=
      [⟨⟨3, "a:"⟩, .duplicateLabel "A" 2⟩, ⟨⟨4, "b x // again"⟩, .unresolvedLabel "X"⟩]
    ∃ move, Relaid source source' move ∧ assemble source = .error ⟨found⟩ ∧
      assemble source' = .error ⟨found'⟩ ∧
      List.Forall₂ (Diagnostic.MovesTo move) found found' := by
  intro source source' found found'
  have noted : Edit source ["; note", "a:", "a:", "b x"] _ :=
    .insert [] source (List.forall_mem_nil _) (.inr (.inl (List.prefix_append _ _))) rfl
  have recased : Edit ["; note", "a:", "a:", "b x"] ["; note", "A:", "a:", "b x"] _ :=
    .change ["; note"] ["a:", "b x"] (.recase (by decide))
  have again : Edit ["; note", "A:", "a:", "b x"] source' _ :=
    .change ["; note", "A:", "a:"] [] (.append rfl (.inr (.inr (List.prefix_append _ _))) rfl)
  have relaid := ((Relaid.refl.tail noted).tail recased).tail again
  have rejected : assemble source = .error ⟨found⟩ :=
    assemble_of_diagnosed_eq (by decide +kernel) (List.cons_ne_nil _ _)
  have rejected' : assemble source' = .error ⟨found'⟩ :=
    assemble_of_diagnosed_eq (by decide +kernel) (List.cons_ne_nil _ _)
  obtain ⟨r', error', moved⟩ := (assemble_relaid relaid).2 ⟨found⟩ rejected
  rw [rejected'] at error'
  cases error'
  exact ⟨_, relaid, rejected, rejected', moved⟩

end RegisterMachine
