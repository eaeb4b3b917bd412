import RegisterMachine.Assembler.Basic
import RegisterMachine.Proofs.Source.Numbering

/-!
# Lines and texts

A text is assembled like the list of its lines, whether a newline or a carriage return and a newline
stands between them, and whether the last line is ended too (`assembleText_intercalate`). Splitting
the text may leave a carriage return at the end of a line or drop the one that was there, and may
drop an empty last line; neither changes what is kept of the lines.
-/

namespace RegisterMachine

namespace Source

/-- The ends of lines. -/
def IsNewline (cs : List Char) : Prop := cs = ['\n'] ∨ cs = ['\r', '\n']

variable {line : String} {newline final : List Char}

/-- A carriage return at the end of a line makes no difference to how the line is kept. -/
theorem keptAt_dropReturn (index : Nat) (cs : List Char) :
    keptAt index (String.ofList (dropReturn cs)) = keptAt index (String.ofList cs) := by
  rw [dropReturn]
  split
  · next last =>
    have space : ∀ c ∈ ['\r'], Text.isSpace c = true := List.forall_mem_singleton.mpr (by decide)
    rw [← keptAt_append space, List.dropLast_append_getLast? '\r' last]
  · rfl

/-- The first line of a text is kept as it is without its end, before those of the rest. -/
theorem numberedFrom_splitLines_append (oneLine : '\n' ∉ line.toList) (ends : IsNewline newline)
    (index : Nat) (rest : List Char) :
    numberedFrom index ((splitLines (line.toList ++ (newline ++ rest))).map String.ofList) =
      keptAt index line ++ numberedFrom (index + 1) ((splitLines rest).map String.ofList) := by
  rcases ends with rfl | rfl
  · rw [List.singleton_append, splitLines_append_newline oneLine, List.map_cons,
      numberedFrom_cons, keptAt_dropReturn, String.ofList_toList]
  · have oneLine' : '\n' ∉ line.toList ++ ['\r'] := by
      rw [List.mem_append, List.mem_singleton]
      rintro (inside | same)
      · exact oneLine inside
      · exact absurd same (by decide)
    have space : ∀ c ∈ ['\r'], Text.isSpace c = true := List.forall_mem_singleton.mpr (by decide)
    have whole : line.toList ++ (['\r', '\n'] ++ rest) =
        (line.toList ++ ['\r']) ++ '\n' :: rest := by
      rw [List.append_assoc]
      rfl
    rw [whole, splitLines_append_newline oneLine', List.map_cons, numberedFrom_cons,
      keptAt_dropReturn, keptAt_append space, String.ofList_toList]

/-- A text that is one line is kept as this line; the empty text has none, and the empty line is
blank. -/
theorem numberedFrom_splitLines (oneLine : '\n' ∉ line.toList) (index : Nat) :
    numberedFrom index ((splitLines line.toList).map String.ofList) = keptAt index line := by
  rw [splitLines_of_not_mem oneLine]
  split
  · next empty =>
    have same : line = "" := String.toList_eq_nil_iff.mp (List.isEmpty_iff.mp empty)
    rw [same, keptAt_of_isBlank (by decide)]
    rfl
  · rw [List.map_singleton, numberedFrom_cons, numberedFrom_nil, List.append_nil,
      String.ofList_toList]

/-- A last line is kept whether it is ended or not. -/
theorem numberedFrom_splitLines_last (oneLine : '\n' ∉ line.toList)
    (ends : final = [] ∨ IsNewline final) (index : Nat) :
    numberedFrom index ((splitLines (line.toList ++ final)).map String.ofList) =
      keptAt index line := by
  rcases ends with rfl | ends
  · rw [List.append_nil, numberedFrom_splitLines oneLine]
  · have first := numberedFrom_splitLines_append oneLine ends index []
    have noRest : splitLines [] = [] := splitLines_of_not_mem List.not_mem_nil
    rw [List.append_nil] at first
    rw [first, noRest, List.map_nil, numberedFrom_nil, List.append_nil]

/-- The lines of a text are kept like the lines that were put together to it. -/
theorem numberedFrom_splitLines_intercalate {source : List String}
    (oneLine : ∀ line ∈ source, '\n' ∉ line.toList) (between : IsNewline newline)
    (ends : final = [] ∨ IsNewline final) (index : Nat) :
    numberedFrom index ((splitLines
      (newline.intercalate (source.map String.toList) ++ final)).map String.ofList) =
        numberedFrom index source := by
  induction source generalizing index with
  | nil =>
    -- No line and an end are one empty line, which is blank.
    have oneEmpty : '\n' ∉ "".toList := by decide
    have empty := numberedFrom_splitLines_last oneEmpty ends index
    rw [keptAt_of_isBlank (by decide)] at empty
    exact empty
  | cons line source ih =>
    obtain ⟨first, others⟩ := List.forall_mem_cons.mp oneLine
    cases source with
    | nil =>
      rw [List.map_singleton, List.intercalate_singleton,
        numberedFrom_splitLines_last first ends, numberedFrom_cons, numberedFrom_nil,
        List.append_nil]
    | cons line' source =>
      rw [List.map_cons, List.map_cons, List.intercalate_cons_cons, ← List.map_cons,
        List.append_assoc, List.append_assoc, numberedFrom_splitLines_append first between,
        ih others, ← numberedFrom_cons]

end Source

open Source

/-- The lines of a text are kept like the lines that were put together to it. -/
theorem numbered_lines_intercalate {source : List String}
    (oneLine : ∀ line ∈ source, '\n' ∉ line.toList) {newline final : String}
    (between : newline = "\n" ∨ newline = "\r\n")
    (ends : final = "" ∨ final = "\n" ∨ final = "\r\n") :
    numbered (lines (newline.intercalate source ++ final)) = numbered source := by
  have between' : IsNewline newline.toList :=
    between.imp (congrArg String.toList) (congrArg String.toList)
  have ends' : final.toList = [] ∨ IsNewline final.toList :=
    ends.imp (congrArg String.toList)
      (.imp (congrArg String.toList) (congrArg String.toList))
  rw [numbered_eq, numbered_eq, lines, String.toList_append, String.toList_intercalate,
    numberedFrom_splitLines_intercalate oneLine between' ends']

/-- An assembler sees nothing of a source but the lines that are kept. -/
theorem Assembler.assemble_congr {source source' : List String}
    (same : numbered source = numbered source') (a : Assembler) :
    a.assemble source = a.assemble source' := by
  simp only [assemble, visitAll, same]

/-- Lines that are put together to a text, with either kind of newline between them and with or
without one at the end, are assembled like the list of these lines: to the same program or with the
same diagnostics, and whatever the assembler was used for before. -/
theorem assembleText_intercalate {source : List String}
    (oneLine : ∀ line ∈ source, '\n' ∉ line.toList) {newline final : String}
    (between : newline = "\n" ∨ newline = "\r\n")
    (ends : final = "" ∨ final = "\n" ∨ final = "\r\n") :
    assembleText (newline.intercalate source ++ final) = assemble source ∧
      ∀ a : Assembler,
        a.assembleText (newline.intercalate source ++ final) = a.assemble source := by
  have alike (a : Assembler) :
      a.assembleText (newline.intercalate source ++ final) = a.assemble source :=
    a.assemble_congr (numbered_lines_intercalate oneLine between ends)
  exact ⟨congrArg Prod.fst (alike .empty), alike⟩

/-- Lines that end with a carriage return, an empty last line, and an end behind it: the fault on
the third line is told of the third line. -/
theorem assembleText_intercalate_returns :
    let source := ["mov r0, #1\r", "\r", "add r0, r0\r\r", ""]
    (∀ line ∈ source, '\n' ∉ line.toList) ∧
      "\r\n".intercalate source ++ "\n" = "mov r0, #1\r\r\n\r\r\nadd r0, r0\r\r\r\n\n" ∧
      assembleText ("\r\n".intercalate source ++ "\n") = assemble source ∧
      assemble source =
        .error ⟨[⟨⟨3, "add r0, r0"⟩, .invalidArgument 2 "NONE" .add "REGISTER OR INT"⟩]⟩ := by
  intro source
  have oneLine : ∀ line ∈ source, '\n' ∉ line.toList := by decide
  exact ⟨oneLine, by decide,
    (assembleText_intercalate oneLine (.inr rfl) (.inr (.inl rfl))).1, by decide +kernel⟩

end RegisterMachine
