import Mathlib.Data.List.Basic
import RegisterMachine.Proofs.Token.Blank

/-!
# The statements of a source

What the lines of a source say, in order. The lines that are kept with their positions say the
same, and their positions ascend.
-/

namespace RegisterMachine

/-- Whether a statement takes a slot of the program. Labels only point to one. -/
def Statement.takesSlot : Statement → Bool
  | .label _ => false
  | .branch .. | .operation .. => true

/-- A line cannot be read, is empty, or says one of the three statements. -/
@[elab_as_elim]
theorem Statement.reading_cases {motive : Except Fault (Option Statement) → Prop}
    (reading : Except Fault (Option Statement))
    (error : ∀ fault, motive (.error fault))
    (empty : motive (.ok none))
    (label : ∀ name, motive (.ok (some (.label name))))
    (branch : ∀ condition target, motive (.ok (some (.branch condition target))))
    (operation : ∀ op operands, motive (.ok (some (.operation op operands)))) :
    motive reading := by
  cases reading with
  | error fault => exact error fault
  | ok statement =>
    cases statement with
    | none => exact empty
    | some s =>
      cases s with
      | label name => exact label name
      | branch condition target => exact branch condition target
      | operation op operands => exact operation op operands

namespace Source

/-- The statement of a line, if it has tokens and no fault. -/
def statement? (line : String) : Option Statement :=
  match Statement.ofLine line with
  | .ok statement => statement
  | .error _ => none

/-- The statements of all lines. -/
def statements (source : List String) : List Statement := source.filterMap statement?

/-- A statement that lines have stands on one of them, and the statements before and after it on
those above and below. -/
theorem exists_line_of_filterMap_eq {α : Type} {f : α → Option Statement} {lines : List α}
    {before after : List Statement} {s : Statement}
    (h : lines.filterMap f = before ++ s :: after) :
    ∃ above line below, lines = above ++ line :: below ∧ above.filterMap f = before ∧
      f line = some s ∧ below.filterMap f = after := by
  obtain ⟨start, rest, rfl, hstart, hrest⟩ := List.filterMap_eq_append_iff.mp h
  obtain ⟨silent, line, below, rfl, nothing, said, hbelow⟩ := List.filterMap_eq_cons_iff.mp hrest
  refine ⟨start ++ silent, line, below, ?_, ?_, said, hbelow⟩
  · rw [List.append_assoc]
  · rw [List.filterMap_append, hstart, List.filterMap_eq_nil_iff.mpr nothing, List.append_nil]

/-- The statements of all lines that take a slot. -/
def code (source : List String) : List Statement := (statements source).filter Statement.takesSlot

/-- The statement of a line that is kept. -/
def says? (line : SourceLine) : Option Statement := statement? line.text

/-- A line says something if it can be read and has tokens. -/
theorem says?_eq_some_iff {line : SourceLine} {s : Statement} :
    says? line = some s ↔ Statement.ofLine line.text = .ok (some s) := by
  rw [says?, statement?]
  cases Statement.ofLine line.text with
  | error fault => simp only [reduceCtorEq]
  | ok statement => simp only [Except.ok.injEq]

/-- The white space at the end of a line makes no difference to its statement. -/
theorem statement?_trimEnd (line : String) :
    statement? (String.ofList (Text.trimEnd line.toList)) = statement? line := by
  rw [statement?, Statement.ofLine_trimEnd]
  rfl

/-- A blank line has no statement. -/
theorem statement?_of_isBlank {line : String} (h : isBlank line = true) :
    statement? line = none := by
  rw [statement?, Statement.ofLine_of_isBlank h]

/-- The lines that are kept have all statements of the source. -/
theorem filterMap_numbered (source : List String) :
    (numbered source).filterMap says? = statements source := by
  have kept (line : String) (number : Nat) :
      (if isBlank line then none
        else some (⟨number, String.ofList (Text.trimEnd line.toList)⟩ : SourceLine)).bind
          says? = statement? line := by
    split
    · next h => rw [statement?_of_isBlank h]; rfl
    · exact statement?_trimEnd line
  rw [numbered, List.filterMap_filterMap]
  simp only [kept]
  calc (source.zipIdx 1).filterMap (fun entry ↦ statement? entry.1)
    _ = ((source.zipIdx 1).map Prod.fst).filterMap statement? := by
      rw [List.filterMap_map]
      rfl
    _ = statements source := by rw [List.zipIdx_map_fst, statements]

/-- What is collected from the lines that are kept is what the lines give that are not blank. -/
theorem flatMap_numbered {α : Type} (source : List String) (tell : SourceLine → List α) :
    (numbered source).flatMap tell =
      (source.zipIdx 1).flatMap fun (text, number) ↦
        if isBlank text then []
        else tell ⟨number, String.ofList (Text.trimEnd text.toList)⟩ := by
  rw [numbered, List.filterMap_eq_flatMap_toList, List.flatMap_assoc]
  congr 1
  funext entry
  cases blank : isBlank entry.1 with
  | true => simp only [blank, ↓reduceIte, Option.toList_none, List.flatMap_nil]
  | false =>
    simp only [blank, Bool.false_eq_true, ↓reduceIte, Option.toList_some, List.flatMap_singleton]

/-- Positions ascend from line to line. -/
def Ascending (lines : List SourceLine) : Prop := lines.Pairwise (·.number < ·.number)

/-- The lines that are kept have ascending positions. -/
theorem ascending_numbered (source : List String) : Ascending (numbered source) := by
  have ascending : (source.zipIdx 1).Pairwise (·.2 < ·.2) := by
    rw [← List.pairwise_map (f := Prod.snd) (R := (· < ·)), List.zipIdx_map_snd]
    exact List.pairwise_lt_range'
  refine ascending.filterMap _ ?_
  intro entry entry' before line hline line' hline'
  have number {entry : String × Nat} {line : SourceLine}
      (h : (if isBlank entry.1 then none
        else some (⟨entry.2, String.ofList (Text.trimEnd entry.1.toList)⟩ : SourceLine)) =
          some line) : line.number = entry.2 := by
    split at h
    · cases h
    · cases h
      rfl
  rw [number hline, number hline']
  exact before

end Source

end RegisterMachine
