import RegisterMachine.Proofs.Assembler.Acceptance

/-!
# The length of a program

A program has slot 0 and a slot for every kept line that is no label, but for idle lines. A line is
kept if more than white space stands before its comment, and it has tokens if more than white space
and commas does: a line with commas alone is kept and takes no slot.
-/

namespace RegisterMachine

open Source

namespace SourceLine

/-- Whether the line declares a label. -/
def isLabel (line : SourceLine) : Bool :=
  match Statement.ofLine line.text with
  | .ok (some (.label _)) => true
  | _ => false

/-- Whether nothing but white space and commas stands before the line's comment. -/
def isIdle (line : SourceLine) : Bool := (cutComment line.text.toList).all Token.isSeparator

/-- An idle line is one that says nothing. -/
theorem isIdle_iff {line : SourceLine} :
    line.isIdle = true ↔ Statement.ofLine line.text = .ok none := by
  rw [isIdle, List.all_eq_true, Statement.ofLine_eq_none_iff]

/-- Of a label, an idle line and a line that takes a slot, every line is exactly one. -/
theorem takesSlot_eq (line : SourceLine) : line.takesSlot = (!line.isLabel && !line.isIdle) := by
  have idle : line.isIdle = decide (Statement.ofLine line.text = .ok none) := by
    rw [Bool.eq_iff_iff, isIdle_iff, decide_eq_true_iff]
  rw [idle, takesSlot, isLabel]
  cases Statement.ofLine line.text using Statement.reading_cases with
  | error fault | empty | label name | branch condition target | operation op operands => rfl

/-- An idle line declares no label. -/
theorem isLabel_of_isIdle {line : SourceLine} (h : line.isIdle = true) : line.isLabel = false := by
  rw [isLabel, isIdle_iff.mp h]

/-- Among any lines, those that take a slot and the idle ones are those that declare no label. -/
theorem countP_takesSlot_add_isIdle (lines : List SourceLine) :
    lines.countP takesSlot + lines.countP isIdle = lines.countP fun line ↦ !line.isLabel := by
  induction lines with
  | nil => rfl
  | cons line lines ih =>
    have one : (if line.takesSlot then 1 else 0) + (if line.isIdle then 1 else 0) =
        if !line.isLabel then 1 else 0 := by
      rw [takesSlot_eq]
      cases idle : line.isIdle with
      | true => rw [isLabel_of_isIdle idle]; rfl
      | false => cases line.isLabel <;> rfl
    rw [List.countP_cons, List.countP_cons, List.countP_cons]
    omega

end SourceLine

/-- The slots of a program are slot 0 and those that the kept lines take. -/
theorem Program.Realizes.size_eq_countP {source : List String} {p : Program}
    (h : p.Realizes (statements source)) (readable : Readable (numbered source)) :
    p.size = (numbered source).countP SourceLine.takesSlot + 1 := by
  rw [h.size_eq, ← List.countP_eq_length_filter, readable.countP_takesSlot, filterMap_numbered]

/-- The slots of a program and the idle lines of its source are together one more than the kept
lines that declare no label. So there is a slot for each of those lines, besides slot 0, exactly if
no kept line is idle. -/
theorem size_of_assemble_eq_ok {source : List String} {p : Program}
    (h : assemble source = .ok p) :
    p.size + (numbered source).countP SourceLine.isIdle =
        (numbered source).countP (fun line ↦ !line.isLabel) + 1 ∧
      (p.size = (numbered source).countP (fun line ↦ !line.isLabel) + 1 ↔
        ∀ line ∈ numbered source, line.isIdle = false) := by
  obtain ⟨readable, realizes⟩ := assemble_eq_ok_iff.mp h
  have slots := realizes.size_eq_countP ((readable_numbered_iff source).mpr readable)
  have lines := SourceLine.countP_takesSlot_add_isIdle (numbered source)
  have none : (∀ line ∈ numbered source, line.isIdle = false) ↔
      (numbered source).countP SourceLine.isIdle = 0 := by
    simp only [List.countP_eq_zero, Bool.not_eq_true]
  rw [none]
  omega

/-- A program of two slots from five kept lines: one declares a label, and two hold commas. -/
theorem size_assemble_idle :
    let source := ["start:", ",", "mov r0, #1,", "", " , ; aside", "b start"]
    let p : Program := ⟨#[.mov 0 (.literal (.int 1)), .branch .always 1]⟩
    assemble source = .ok p ∧ (numbered source).countP SourceLine.isIdle = 2 ∧
      (numbered source).countP (fun line ↦ !line.isLabel) = 4 ∧ p.size + 2 = 4 + 1 := by
  intro source p
  have ok : assemble source = .ok p := by decide +kernel
  have idle : (numbered source).countP SourceLine.isIdle = 2 := by decide +kernel
  have unlabelled : (numbered source).countP (fun line ↦ !line.isLabel) = 4 := by decide +kernel
  have slots := (size_of_assemble_eq_ok ok).1
  rw [idle, unlabelled] at slots
  exact ⟨ok, idle, unlabelled, slots⟩

/-- A line with a comma alone is kept and is no label, and its program has slot 0 only. -/
theorem not_size_eq_of_comma :
    ¬ ∀ source p, assemble source = .ok p →
      p.size = (numbered source).countP (fun line ↦ !line.isLabel) + 1 := by
  intro law
  have ok : assemble [","] = .ok ⟨#[]⟩ := by decide +kernel
  have kept : (numbered [","]).countP (fun line ↦ !line.isLabel) = 1 := by decide +kernel
  have size := law [","] ⟨#[]⟩ ok
  rw [kept] at size
  cases size

end RegisterMachine
