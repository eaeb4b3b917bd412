import RegisterMachine.Proofs.Assembler.Linking
import RegisterMachine.Proofs.Diagnostic.Order
import RegisterMachine.Proofs.Opcode.Checking

/-!
# The diagnostics of a source

Each line has its own faults, which depend on the labels of the other lines. A source has a program
exactly if no line has a fault; otherwise it is rejected with the faults of all lines, in order.
-/

namespace RegisterMachine

open Source

namespace SourceLine

/-- The faults of a line of a source. -/
def faults (lines : List SourceLine) (line : SourceLine) : List Fault :=
  match Statement.ofLine line.text with
  | .error fault => [fault]
  | .ok none => []
  | .ok (some (.label name)) =>
    ((above lines line).find? (·.declares name)).toList.map fun first ↦
      .duplicateLabel name first.number
  | .ok (some (.branch _ target)) =>
    if lines.any (·.declares target) then [] else [.unresolvedLabel target]
  | .ok (some (.operation op operands)) => op.mistakes operands

variable {lines : List SourceLine} {line : SourceLine}

/-- A line is at fault by itself, by its label or by its operands. -/
theorem faults_eq (lines : List SourceLine) (line : SourceLine) :
    line.faults lines =
      line.ownFaults (above lines line) ++ line.linkFaults lines ++ line.operandFaults := by
  cases reads : Statement.ofLine line.text using Statement.reading_cases with
  | error fault | empty | label name | branch condition target | operation op operands =>
    simp only [faults, ownFaults, linkFaults, operandFaults, reads, List.append_nil,
      List.nil_append, Opcode.map_misfit_misfits]

/-- A line that takes a slot and has no fault stands for an instruction. -/
theorem exists_instruction?_of_faults_eq_nil (h : line.faults lines = [])
    (takes : line.takesSlot = true) : ∃ i, line.instruction? lines = some i := by
  cases reads : Statement.ofLine line.text using Statement.reading_cases with
  | error fault => simp [faults, reads] at h
  | empty => simp [takesSlot, reads] at takes
  | label name => simp [takesSlot, Statement.takesSlot, reads] at takes
  | branch condition target =>
    simp only [faults, reads, ite_eq_left_iff, reduceCtorEq, imp_false, not_not] at h
    simp only [instruction?, reads, pointsTo?, Option.map_map]
    rw [← Option.isSome_iff_exists, Option.isSome_map, List.isSome_find?]
    exact h
  | operation op operands =>
    simp only [faults, reads, Opcode.mistakes_eq_nil_iff] at h
    simp only [instruction?, reads]
    obtain ⟨i, built⟩ := Opcode.exists_build?_of_misfits_eq_nil h
    exact ⟨i, Opcode.instruction?_eq_some_iff.mpr ⟨h, built⟩⟩

end SourceLine

namespace Source

open Diagnostic

variable {lines : List SourceLine} {line : SourceLine}

/-- What is told of all lines, one after the other. -/
def allReports (lines : List SourceLine) (faults : SourceLine → List Fault) : List Diagnostic :=
  lines.flatMap fun line ↦ line.reports (faults line)

/-- Nothing is told exactly if there is nothing to tell of any line. -/
theorem allReports_eq_nil_iff {faults : SourceLine → List Fault} :
    allReports lines faults = [] ↔ ∀ line ∈ lines, faults line = [] := by
  simp only [allReports, SourceLine.reports, List.flatMap_eq_nil_iff, List.map_eq_nil_iff]

/-- The reports of a line are on that line. -/
theorem line_of_mem_reports {faults : List Fault} {d : Diagnostic}
    (h : d ∈ line.reports faults) : d.line = line := by
  obtain ⟨fault, -, rfl⟩ := List.mem_map.mp h
  rfl

/-- The reports of a line are all that it tells, and it tells nothing of other lines. -/
theorem onLine_reports (number : Nat) (line : SourceLine) (faults : List Fault) :
    onLine number (line.reports faults) =
      if line.number = number then line.reports faults else [] := by
  rw [onLine, SourceLine.reports]
  split
  · next here =>
    rw [List.filter_eq_self]
    intro d hd
    rw [line_of_mem_reports hd]
    exact decide_eq_true here
  · next elsewhere =>
    rw [List.filter_eq_nil_iff]
    intro d hd
    rw [line_of_mem_reports hd]
    exact mt of_decide_eq_true elsewhere

/-- With ascending positions at most one line has something to tell of a position. -/
theorem Ascending.onLine_allReports (h : Ascending lines) (faults : SourceLine → List Fault)
    (number : Nat) :
    onLine number (allReports lines faults) =
      (lines.find? (·.number = number)).elim [] fun line ↦ line.reports (faults line) := by
  induction lines with
  | nil => rfl
  | cons line lines ih =>
    obtain ⟨below, rest⟩ := List.pairwise_cons.mp h
    rw [allReports, List.flatMap_cons, onLine, List.filter_append, ← onLine, ← onLine,
      onLine_reports, ← allReports, ih rest]
    by_cases here : line.number = number
    · have none : lines.find? (·.number = number) = none := by
        rw [List.find?_eq_none]
        intro other hother
        have := below other hother
        rw [decide_eq_true_iff]
        omega
      simp only [List.find?_cons, here, none, decide_true, ↓reduceIte, Option.elim_none,
        Option.elim_some, List.append_nil]
    · simp only [List.find?_cons, here, decide_false, ↓reduceIte, List.nil_append]

/-- With ascending positions the reports are in the order of their lines. -/
theorem Ascending.sorted_allReports (h : Ascending lines) (faults : SourceLine → List Fault) :
    Sorted (allReports lines faults) := by
  rw [Sorted, allReports, List.pairwise_flatMap]
  constructor
  · intro line hline
    apply List.pairwise_of_forall_mem_list
    intro d hd e he
    have same : d.line.number = e.line.number := by
      rw [line_of_mem_reports hd, line_of_mem_reports he]
    omega
  · refine h.imp ?_
    intro line line' above d hd e he
    rw [line_of_mem_reports hd, line_of_mem_reports he]
    omega

/-- Sorting reports that were collected apart puts those of each line together. -/
theorem Ascending.mergeSort_allReports (h : Ascending lines) (f g k : SourceLine → List Fault) :
    (allReports lines f ++ allReports lines g ++ allReports lines k).mergeSort byLine =
      allReports lines fun line ↦ f line ++ g line ++ k line := by
  apply mergeSort_eq_of_onLine_eq (h.sorted_allReports _)
  intro number
  rw [onLine, List.filter_append, List.filter_append, ← onLine, ← onLine, ← onLine,
    h.onLine_allReports, h.onLine_allReports, h.onLine_allReports, h.onLine_allReports]
  cases lines.find? (·.number = number) with
  | none => rfl
  | some line =>
    simp only [Option.elim_some, SourceLine.reports, List.map_append]

end Source

namespace Assembler

variable {a : Assembler} {lines : List SourceLine}

/-- After a pass the diagnostics are the faults of all lines, in the order of the lines. -/
theorem Passed.diagnostics_eq (h : Passed a lines) (ascending : Ascending lines) :
    a.diagnostics = allReports lines (·.faults lines) := by
  have own : a.faults = allReports lines fun line ↦ line.ownFaults (above lines line) := by
    rw [h.faults, inContext, List.flatMap_map]
    rfl
  have together := ascending.mergeSort_allReports
    (fun line ↦ line.ownFaults (above lines line)) (·.linkFaults lines) (·.operandFaults)
  simp only [← SourceLine.faults_eq] at together
  rw [← together, own.symm, diagnostics, h.unresolved, h.misfits]
  rfl

/-- After a pass without diagnostics no label is missing. -/
theorem Passed.unresolved_eq_nil (h : Passed a lines) (ascending : Ascending lines)
    (clean : a.diagnostics = []) : a.unresolved = [] := by
  rw [h.diagnostics_eq ascending, allReports_eq_nil_iff] at clean
  rw [h.unresolved, ← allReports, allReports_eq_nil_iff]
  intro line hline
  have noFault := clean line hline
  rw [SourceLine.faults_eq, List.append_eq_nil_iff, List.append_eq_nil_iff] at noFault
  exact noFault.1.2

/-- After a pass without diagnostics every slot has an instruction. -/
theorem Passed.exists_body?_of_diagnostics_eq_nil (h : Passed a lines) (ascending : Ascending lines)
    (clean : a.diagnostics = []) : ∃ body, a.body? = some body := by
  have linked := h.unresolved_eq_nil ascending clean
  rw [h.diagnostics_eq ascending, allReports_eq_nil_iff] at clean
  have stands : ∀ line ∈ lines.filter SourceLine.takesSlot,
      ∃ i, line.instruction? lines = some i := by
    intro line hline
    obtain ⟨hline, takes⟩ := List.mem_filter.mp hline
    exact SourceLine.exists_instruction?_of_faults_eq_nil (clean line hline) takes
  obtain ⟨body, hbody⟩ := exists_map_eq_map_some stands
  exact ⟨body, (h.body?_eq_some_iff ascending linked).mpr hbody⟩

/-- After a pass there is a program exactly if there are no diagnostics. -/
theorem Passed.result_cases (h : Passed a lines) (ascending : Ascending lines) :
    (a.diagnostics = [] ∧ ∃ body, a.body? = some body ∧ a.result = .ok ⟨body.toArray⟩) ∨
      (a.diagnostics ≠ [] ∧ a.result = .error ⟨a.diagnostics⟩) := by
  by_cases clean : a.diagnostics = []
  · obtain ⟨body, hbody⟩ := h.exists_body?_of_diagnostics_eq_nil ascending clean
    refine .inl ⟨clean, body, hbody, ?_⟩
    simp only [result, hbody, clean]
  · refine .inr ⟨clean, ?_⟩
    rw [result]
    split
    · next none => exact absurd none clean
    · rfl

end Assembler

/-- What is wrong with a source, line by line. Each report carries the position of its line,
counted from 1, and the text of the line without the white space at its end. -/
def diagnosed (source : List String) : List Diagnostic :=
  (source.zipIdx 1).flatMap fun (text, number) ↦
    if isBlank text then []
    else
      let line : SourceLine := ⟨number, String.ofList (Text.trimEnd text.toList)⟩
      line.reports (line.faults (numbered source))

/-- What is wrong with a source is wrong with the lines that are kept. -/
theorem diagnosed_eq (source : List String) :
    diagnosed source = allReports (numbered source) (·.faults (numbered source)) := by
  rw [allReports, flatMap_numbered]
  rfl

/-- Either nothing is wrong with a source and it has a program, or it is rejected with what is
wrong with it. -/
theorem assemble_cases (source : List String) :
    (diagnosed source = [] ∧ ∃ p, assemble source = .ok p) ∨
      (diagnosed source ≠ [] ∧ assemble source = .error ⟨diagnosed source⟩) := by
  have ascending := ascending_numbered source
  have passed := Assembler.passed_visitAll .empty source
  have told : (Assembler.empty.reset.visitAll source).diagnostics = diagnosed source := by
    rw [passed.diagnostics_eq ascending, diagnosed_eq]
  have assembled : assemble source = (Assembler.empty.reset.visitAll source).result := rfl
  rw [assembled, ← told]
  rcases passed.result_cases ascending with ⟨clean, body, -, ok⟩ | rejected
  · exact .inl ⟨clean, _, ok⟩
  · exact .inr rejected

/-- A source with anything wrong is rejected with all of it. -/
theorem assemble_of_diagnosed_eq {source : List String} {found : List Diagnostic}
    (h : diagnosed source = found) (faulty : found ≠ []) : assemble source = .error ⟨found⟩ := by
  subst h
  rcases assemble_cases source with ⟨clean, -⟩ | ⟨-, error⟩
  · exact absurd clean faulty
  · exact error

/-- A source has a program exactly if nothing is wrong with it. Otherwise it is rejected with all
that is wrong with it, line by line. -/
theorem assemble_eq_ok_or_error (source : List String) :
    (diagnosed source = [] ↔ ∃ p, assemble source = .ok p) ∧
      ∀ r, assemble source = .error r ↔
        diagnosed source ≠ [] ∧ r.diagnostics = diagnosed source := by
  rcases assemble_cases source with ⟨clean, p, ok⟩ | ⟨faulty, error⟩
  · refine ⟨⟨fun _ ↦ ⟨p, ok⟩, fun _ ↦ clean⟩, ?_⟩
    intro r
    rw [ok]
    constructor
    · intro rejected
      cases rejected
    · intro faulty
      exact absurd clean faulty.1
  · rw [error]
    refine ⟨⟨fun clean ↦ absurd clean faulty, ?_⟩, ?_⟩
    · rintro ⟨p, ok⟩
      cases ok
    · intro r
      constructor
      · intro rejected
        cases rejected
        exact ⟨faulty, rfl⟩
      · rintro ⟨-, same⟩
        rw [← same]

/-- A missing label, a missing and an unfit operand, and a label that is declared again: all are
told in the order of the lines. -/
example : (diagnosed ["b x", "a:", "add r0, #1.5", "", "a:"]).map (fun d ↦ (d.line.number, d.fault)) =
    [(1, .unresolvedLabel "X"), (3, .invalidArgument 1 "FLOAT" .add "REGISTER OR INT"),
      (3, .invalidArgument 2 "NONE" .add "REGISTER OR INT"), (5, .duplicateLabel "A" 2)] := by
  decide +kernel

end RegisterMachine
