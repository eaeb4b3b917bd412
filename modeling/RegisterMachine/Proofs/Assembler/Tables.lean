import RegisterMachine.Proofs.Assembler.Linking
import RegisterMachine.Proofs.Source.Positions

/-!
# The tables of labels and branches

After a pass over any source, with or without faults, the label table holds the first declaration of
every label, and the waiting branches are those of the source in order. Both point to slots by
counting the lines above that take one, so a fault on another line moves nothing.
-/

namespace RegisterMachine

/-- A branch waits with its line. -/
theorem SourceLine.source_of_jump?_eq_some {above : List SourceLine} {line : SourceLine}
    {jump : PendingJump} (h : line.jump? above = some jump) : jump.source = line := by
  rw [jump?] at h
  split at h
  · rw [← Option.some.inj h]
  · cases h

namespace Source

/-- The first declaration of a label. It points to the first slot that the lines above it leave. -/
def declaration? (source : List String) (name : String) : Option LabelEntry :=
  (source.findIdx? (statement? · = some (.label name))).map fun index ↦
    ⟨(source.take index).countP takesSlot + 1, index + 1⟩

/-- The branch of a line, at the first slot that the lines above it leave. -/
def branch? (above : List String) (text : String) : Option PendingJump :=
  match statement? text with
  | some (.branch condition target) =>
    some ⟨above.countP takesSlot + 1, condition, target, lineAt above.length text⟩
  | _ => none

/-- The branches of a source, in order. -/
def branches (source : List String) : List PendingJump :=
  source.zipIdx.filterMap fun (text, index) ↦ branch? (source.take index) text

/-- A label has a declaration exactly if a line says so. -/
theorem isSome_declaration? (source : List String) (name : String) :
    (declaration? source name).isSome = true ↔ .label name ∈ statements source := by
  rw [declaration?, Option.isSome_map, List.findIdx?_isSome, List.any_eq_true, statements,
    List.mem_filterMap]
  simp only [decide_eq_true_iff]

/-- A further line only declares a label that is not declared yet. -/
theorem declaration?_append_singleton (source : List String) (text name : String) :
    declaration? (source ++ [text]) name =
      (declaration? source name).or
        (if statement? text = some (.label name) then
          some ⟨source.countP takesSlot + 1, source.length + 1⟩
        else none) := by
  rw [declaration?, declaration?, List.findIdx?_append]
  cases first : source.findIdx? (statement? · = some (.label name)) with
  | some index =>
    obtain ⟨inside, -, -⟩ := List.findIdx?_eq_some_iff_getElem.mp first
    simp [List.take_append_of_le_length (Nat.le_of_lt inside)]
  | none =>
    by_cases declares : statement? text = some (.label name) <;> simp [declares]

/-- The branch of a further line comes last. -/
theorem branches_append_singleton (source : List String) (text : String) :
    branches (source ++ [text]) = branches source ++ (branch? source text).toList := by
  have earlier : source.zipIdx.filterMap
      (fun (text', index) ↦ branch? ((source ++ [text]).take index) text') = branches source := by
    apply List.filterMap_congr
    rintro ⟨text', index⟩ member
    have inside : index < source.length := by simpa using List.snd_lt_of_mem_zipIdx member
    simp only [List.take_append_of_le_length (Nat.le_of_lt inside)]
  rw [branches, List.zipIdx_append, List.filterMap_append, earlier]
  cases h : branch? source text <;> simp [h]

/-- The kept lines declare the labels that the source declares, at the same places. -/
theorem pointsTo?_numbered (source : List String) (name : String) :
    pointsTo? (numbered source) name = declaration? source name := by
  induction source using List.reverseRecOn with
  | nil => rfl
  | append_singleton source text ih =>
    have ascending := ascending_numbered (source ++ [text])
    rw [numbered_append_singleton] at ascending ⊢
    rw [declaration?_append_singleton]
    cases blank : isBlank text with
    | true => simp [ih, statement?_of_isBlank blank]
    | false =>
      simp only [blank, Bool.false_eq_true, ↓reduceIte] at ascending ⊢
      rw [ascending.pointsTo?_append, ih, slotAfter_numbered]
      simp only [declares_lineAt]
      rfl

/-- A kept line waits with the branch that its text says. -/
theorem jump?_lineAt (source : List String) (text : String) :
    (lineAt source.length text).jump? (numbered source) = branch? source text := by
  cases reads : Statement.ofLine text using Statement.reading_cases with
  | error fault | empty | label name | branch condition target | operation op operands =>
    simp only [SourceLine.jump?, branch?, statement?, ofLine_lineAt, reads,
      slotAfter_numbered]

/-- The kept lines wait with the branches of the source. -/
theorem filterMap_jump?_numbered (source : List String) :
    (inContext (numbered source)).filterMap (fun entry ↦ entry.2.jump? entry.1) =
      branches source := by
  induction source using List.reverseRecOn with
  | nil => rfl
  | append_singleton source text ih =>
    have ascending := ascending_numbered (source ++ [text])
    rw [numbered_append_singleton] at ascending ⊢
    rw [branches_append_singleton]
    cases blank : isBlank text with
    | true => simp [ih, branch?, statement?_of_isBlank blank]
    | false =>
      simp only [blank, Bool.false_eq_true, ↓reduceIte] at ascending ⊢
      rw [ascending.inContext_append, List.filterMap_append, ih, ← jump?_lineAt]
      rfl

end Source

namespace Assembler

open Source

variable {a : Assembler} {lines : List SourceLine}

/-- The waiting branches stand on ascending lines. -/
theorem Passed.pairwise_number (h : Passed a lines) (ascending : Ascending lines) :
    a.jumps.Pairwise (·.source.number < ·.source.number) := by
  have below : (inContext lines).Pairwise (·.2.number < ·.2.number) :=
    List.pairwise_map.mpr ascending
  rw [h.jumps]
  refine below.filterMap _ ?_
  intro entry entry' earlier jump hjump jump' hjump'
  rw [SourceLine.source_of_jump?_eq_some hjump, SourceLine.source_of_jump?_eq_some hjump']
  exact earlier

/-- What assembling leaves behind, whether the source has a program or not. The labels are those
that the source declares, each with its first declaration. The waiting branches are the branches of
the source, at ascending slots and on ascending lines. -/
theorem tables_assemble (a : Assembler) (source : List String) :
    (∀ name, name ∈ (a.assemble source).2.labels ↔ .label name ∈ statements source) ∧
      (∀ name, (a.assemble source).2.labels[name]? = declaration? source name) ∧
      (a.assemble source).2.jumps = branches source ∧
      (a.assemble source).2.jumps.Pairwise fun jump later ↦
        jump.index < later.index ∧ jump.source.number < later.source.number := by
  have ascending := ascending_numbered source
  have passed : Passed (a.assemble source).2 (numbered source) := passed_visitAll a source
  have labels (name : String) :
      (a.assemble source).2.labels[name]? = declaration? source name := by
    rw [passed.labels, pointsTo?_numbered]
  refine ⟨?_, labels, ?_, ?_⟩
  · intro name
    rw [Std.ExtTreeMap.mem_iff_isSome_getElem?, labels, isSome_declaration?]
  · rw [passed.jumps, filterMap_jump?_numbered]
  · exact (passed.pairwise_index ascending).and (passed.pairwise_number ascending)

/-- A line at fault keeps its slot, and a label that is declared again points to where it did. -/
example : branches ["b x", "a:", "foo", "a:", "b ne a", "x:"] =
      [⟨1, .always, "X", ⟨1, "b x"⟩⟩, ⟨3, .ne, "A", ⟨5, "b ne a"⟩⟩] ∧
    declaration? ["b x", "a:", "foo", "a:", "b ne a", "x:"] "A" = some ⟨2, 2⟩ ∧
    declaration? ["b x", "a:", "foo", "a:", "b ne a", "x:"] "X" = some ⟨4, 6⟩ := by
  decide +kernel

end Assembler

end RegisterMachine
