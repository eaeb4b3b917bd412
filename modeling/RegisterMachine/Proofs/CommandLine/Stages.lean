import RegisterMachine.Proofs.CommandLine.Files
import RegisterMachine.Proofs.CommandLine.Result
import RegisterMachine.Proofs.Image.Summary
import RegisterMachine.Proofs.Machine.StepLimit

/-!
# The stages of the command

In a directory that holds a source file, the command assembles it, lists the program, writes it to
a file and runs it. What the stages before a failure have printed and written stays, and those
after it leave nothing behind.
-/

namespace RegisterMachine.CommandLine

open Machine (HaltsAfter RunsFor fresh)

/-- A directory that holds the source file `input.asm` and nothing else. -/
def Directory.ofSource (content : ByteArray) : Directory := ⟨[("input.asm", content)]⟩

/-- The program of a source file, if the file is text and the text has a program. -/
def programOf? (content : ByteArray) : Option Program :=
  (String.fromUTF8? content).bind fun source ↦ (assembleText source).toOption

theorem programOf?_toUTF8 (source : String) :
    programOf? source.toUTF8 = (assembleText source).toOption := by
  have text : String.fromUTF8? source.toUTF8 = some source := dif_pos (String.isValidUTF8 _)
  rw [programOf?, text, Option.bind_some]

/-- What is printed of a program before it is run. -/
def Options.preface (o : Options) (p : Program) : String :=
  (if o.listing then p.listing else "") ++
    (if o.emitJson.isSome then "Program written to out.json\n" else "")

/-- The directory once the program is written to the file that it is to be written to. -/
def Options.emitted (o : Options) (p : Program) (d : Directory) : Directory :=
  match o.emitJson with
  | some path => d.put path (Image.ofProgram p).prettyText.toUTF8
  | none => d

theorem isName_input : Directory.IsName "input.asm" :=
  ⟨by decide +kernel, by decide, by decide, by decide⟩

theorem isName_out : Directory.IsName "out.json" :=
  ⟨by decide +kernel, by decide, by decide, by decide⟩

section
variable {o : Options} {p : Program} {content : ByteArray}

/-- The source file is read and assembled, and only a program is processed further. -/
theorem resultAfter_process_ofSource (input : o.input = "input.asm") :
    (process o).resultAfter "" (.ofSource content) =
      match programOf? content with
      | some p => (listStage o p).resultAfter "" (.ofSource content)
      | none => ⟨1, "", .ofSource content⟩ := by
  have read : (Directory.ofSource content).read o.input = .ok content := by
    rw [input]
    exact isName_input.read_eq rfl
  rw [resultAfter_process, read, programOf?]
  dsimp only
  cases String.fromUTF8? content with
  | none => rfl
  | some source =>
    dsimp only
    rw [resultAfter_assembleStage, Option.bind_some]
    cases assembleText source <;> rfl

/-- Before it is run a program is listed and written. -/
theorem resultAfter_listStage_eq (emit : ∀ path ∈ o.emitJson, path = "out.json") (d : Directory) :
    (listStage o p).resultAfter "" d =
      (runStage o p).resultAfter (o.preface p) (o.emitted p d) := by
  have listed : (if o.listing then "" ++ p.listing else "") =
      if o.listing then p.listing else "" := by rw [String.empty_append]
  rw [resultAfter_listStage, resultAfter_emitStage, Options.preface, Options.emitted, listed]
  cases given : o.emitJson with
  | none => rw [Option.isSome_none, if_neg Bool.false_ne_true, String.append_empty]
  | some path =>
    obtain rfl := emit path given
    simp only [isName_out.write_eq, Option.isSome_some, ↓reduceIte]
    rfl

/-- A program is in the file that it is to be written to, and in no other case is there such a
file. -/
theorem get?_emitted (emit : ∀ path ∈ o.emitJson, path = "out.json") :
    (o.emitted p (.ofSource content)).get? "out.json" =
      o.emitJson.map fun _ ↦ (Image.ofProgram p).prettyText.toUTF8 := by
  rw [Options.emitted]
  cases given : o.emitJson with
  | none => rfl
  | some path =>
    obtain rfl := emit path given
    exact Directory.get?_put_self _ _ _

/-- Whatever comes of a run, the files are as the stages before it left them. -/
theorem directory_resultAfter_runStage (output : String) (d : Directory) :
    ((runStage o p).resultAfter output d).directory = d := by
  rw [resultAfter_runStage]
  split
  · cases o.machine.run p with
    | none => rfl
    | some outcome => cases outcome <;> rfl
  · rfl

/-- What is printed of a run that halted: the summary as JSON, or the registers and the count of
steps. -/
theorem summaryText_eq (json : Bool) (s : Summary) :
    summaryText json s =
      if json then s.shown ++ "\n"
      else s.registers.table ++ "\nHalted after " ++ toString s.steps ++ " steps\n" := by
  rw [summaryText, Image.prettyText_ofSummary, RegisterTable.text_eq, Decimal.ofList_digits]

/-- A run that halts within the limit is told of on the output. -/
theorem resultAfter_runStage_of_haltsAfter (run : o.run = true) {n : Nat}
    (halts : HaltsAfter p fresh n) (within : ∀ limit ∈ o.maxSteps, n ≤ limit)
    (followed : o.maxSteps = none → n < UInt64.size) (output : String) (d : Directory) :
    (runStage o p).resultAfter output d =
      ⟨0, output ++ summaryText o.json ⟨n, (fresh.cycles p n).flag, (fresh.cycles p n).registers⟩,
        d⟩ := by
  have ends : o.machine.run p = some (.ok (fresh.cycles p n).summary) := by
    cases limited : o.maxSteps with
    | none =>
      rw [show o.machine = fresh by rw [Options.machine, limited]; rfl]
      exact halts.run rfl (followed limited)
    | some limit =>
      rw [show o.machine = fresh.withLimit limit by rw [Options.machine, limited]; rfl]
      exact halts.run_withLimit_fresh (within limit limited)
  rw [resultAfter_runStage, if_pos run, ends, halts.summary_fresh]

/-- A run that exceeds the limit fails, and nothing is printed of it. -/
theorem resultAfter_runStage_of_runsFor (run : o.run = true) {limit : Nat}
    (limited : o.maxSteps = some limit) (goesOn : RunsFor p fresh (limit + 1)) (output : String)
    (d : Directory) : (runStage o p).resultAfter output d = ⟨1, output, d⟩ := by
  have fails : o.machine.run p =
      some (.error ⟨limit, (fresh.cycles p limit).counter.toNat⟩) := by
    rw [show o.machine = fresh.withLimit limit by rw [Options.machine, limited]; rfl]
    exact goesOn.run_withLimit_fresh
  rw [resultAfter_runStage, if_pos run, fails]

/-- Without a run its options make no difference. -/
theorem process_of_not_run (h : o.run = false) (limit : Option Nat) (json : Bool) :
    process { o with maxSteps := limit, json := json } = process o := by
  have idle (p : Program) :
      runStage { o with maxSteps := limit, json := json } p = runStage o p := by
    simp only [runStage, h]
    rfl
  simp only [process, assembleStage, rejectStage, listStage, emitStage, idle]

end

section
variable {arguments : List String} {o : Options} {p : Program} {content : ByteArray}

/-- Accepted arguments leave what processing the file leaves. -/
theorem result_command_ofSource (accepted : parse arguments = .ok (.process o))
    (input : o.input = "input.asm") :
    ((command arguments).runIn (.ofSource content)).result =
      match programOf? content with
      | some p => (listStage o p).resultAfter "" (.ofSource content)
      | none => ⟨1, "", .ofSource content⟩ := by
  rw [Script.result_runIn, ← resultAfter_process_ofSource input, command, accepted]

/-- What the command leaves in a directory with the source file `input.asm` alone.

A file that is not text, or a text that has no program, leaves the status 1, no output and no
`out.json`. The program of any other file is listed if that is asked for; it is in `out.json`, and
the output says so, exactly if that is asked for, whatever comes of a run. Then, if a run is asked
for, one that halts within the limit is told of on the output, with the summary as JSON or with the
table of the registers and the count of steps, and one that exceeds the limit has the status 1 and
prints nothing; in all other cases the status is 0. Without a limit the run
must end before the counter of steps overflows. If no run is asked for, neither the limit nor the
format of the report makes any difference. -/
theorem runIn_command_ofSource (accepted : parse arguments = .ok (.process o))
    (input : o.input = "input.asm") (emit : ∀ path ∈ o.emitJson, path = "out.json")
    (content : ByteArray) :
    let outcome := (command arguments).runIn (.ofSource content)
    (programOf? content = none →
      outcome.status = 1 ∧ outcome.output = "" ∧ outcome.directory.get? "out.json" = none) ∧
    (∀ p, programOf? content = some p →
      outcome.directory.get? "out.json" =
        o.emitJson.map (fun _ ↦ (Image.ofProgram p).prettyText.toUTF8) ∧
      (o.run = false → outcome.status = 0 ∧ outcome.output = o.preface p) ∧
      (o.run = true → ∀ n, HaltsAfter p fresh n → (∀ limit ∈ o.maxSteps, n ≤ limit) →
        (o.maxSteps = none → n < UInt64.size) →
        let halted := fresh.cycles p n
        outcome.status = 0 ∧ outcome.output = o.preface p ++
          if o.json then Summary.shown ⟨n, halted.flag, halted.registers⟩ ++ "\n"
          else halted.registers.table ++ "\nHalted after " ++ toString n ++ " steps\n") ∧
      (o.run = true → ∀ limit ∈ o.maxSteps,
        (∀ n ≤ limit, (fresh.cycles p n).isHalted p = false) →
        outcome.status = 1 ∧ outcome.output = o.preface p)) ∧
    (o.run = false → ∀ others limit json,
      parse others = .ok (.process { o with maxSteps := limit, json := json }) →
      (command others).runIn (.ofSource content) = outcome) := by
  intro outcome
  have left : outcome.result = _ := result_command_ofSource accepted input
  refine ⟨fun rejected ↦ ?_, fun p assembled ↦ ?_, fun idle others limit json given ↦ ?_⟩
  · rw [rejected] at left
    exact ⟨congrArg Result.status left, congrArg Result.output left,
      congrArg (·.directory.get? "out.json") left⟩
  · rw [assembled] at left
    dsimp only at left
    rw [resultAfter_listStage_eq emit] at left
    have files : outcome.directory = o.emitted p (.ofSource content) :=
      (congrArg Result.directory left).trans (directory_resultAfter_runStage _ _)
    refine ⟨by rw [files, get?_emitted emit], fun idle ↦ ?_, fun run n halts within followed ↦ ?_,
      fun run limit limited goesOn ↦ ?_⟩
    · rw [resultAfter_runStage, if_neg (by rw [idle]; exact Bool.false_ne_true)] at left
      exact ⟨congrArg Result.status left, congrArg Result.output left⟩
    · rw [resultAfter_runStage_of_haltsAfter run halts within followed, summaryText_eq] at left
      exact ⟨congrArg Result.status left, congrArg Result.output left⟩
    · rw [resultAfter_runStage_of_runsFor run limited
        fun n hn ↦ goesOn n (Nat.le_of_lt_succ hn)] at left
      exact ⟨congrArg Result.status left, congrArg Result.output left⟩
  · have same : command others = command arguments := by
      rw [command, command, given, accepted]
      exact process_of_not_run idle limit json
    rw [same]

end

/-- A source file with a loop that never ends. -/
def endless : ByteArray := "again:\nb again\n".toUTF8

/-- The program of `endless`. -/
def endlessProgram : Program := ⟨#[.branch .always 1]⟩

/-- A source file with a program that halts after three steps. -/
def brief : ByteArray := "mov r0, #5\nmov r1, #-2.5\ncmp r0, #7\n".toUTF8

/-- Arguments that ask for every stage, and for two steps at most. -/
def everyStage : List String :=
  ["-rlv", "--max-steps=2", "--emit-json", "out.json", "--json", "input.asm"]

/-- A run that exceeds its limit comes after the listing and the file, and leaves both. A run that
halts is told of with the registers and the count of steps, or as JSON. -/
theorem runIn_command_endings :
    let briefProgram : Program := ⟨#[.mov 0 (.literal (.int 5)),
      .mov 1 (.literal (.float ⟨0xC004000000000000⟩)), .cmp (.register 0) (.literal (.int 7))]⟩
    (parse everyStage =
        .ok (.process ⟨"input.asm", true, some 2, some "out.json", true, true, 1⟩) ∧
      programOf? endless = some endlessProgram ∧
      ((command everyStage).runIn (.ofSource endless)).status = 1 ∧
      ((command everyStage).runIn (.ofSource endless)).output =
        "0000: NOP\n0001: B @1\nProgram written to out.json\n" ∧
      ((command everyStage).runIn (.ofSource endless)).directory.get? "out.json" = some
        ("\x7b\n  \"instructions\": [\n    \"Nop\",\n    \x7b\n      \"Branch\": \x7b\n" ++
          "        \"condition\": \"Always\",\n        \"target\": 1\n      \x7d\n    \x7d\n" ++
          "  ]\n\x7d").toUTF8) ∧
    programOf? brief = some briefProgram ∧
    (parse ["--run", "input.asm"] =
        .ok (.process ⟨"input.asm", true, none, none, false, false, 0⟩) ∧
      ((command ["--run", "input.asm"]).runIn (.ofSource brief)).status = 0 ∧
      ((command ["--run", "input.asm"]).runIn (.ofSource brief)).output =
        "R0  =           5  R1  =       -2.5f  R2  =           0  R3  =           0\n" ++
        "R4  =           0  R5  =           0  R6  =           0  R7  =           0\n" ++
        "R8  =           0  R9  =           0  R10 =           0  R11 =           0\n" ++
        "R12 =           0  R13 =           0  R14 =           0  R15 =           0\n" ++
        "Halted after 3 steps\n") ∧
    (parse ["-r", "--json", "input.asm"] =
        .ok (.process ⟨"input.asm", true, none, none, false, true, 0⟩) ∧
      ((command ["-r", "--json", "input.asm"]).runIn (.ofSource brief)).status = 0 ∧
      ((command ["-r", "--json", "input.asm"]).runIn (.ofSource brief)).output =
        "\x7b\n  \"steps\": 3,\n  \"flag\": \"Lt\",\n  \"registers\": [\n" ++
        "    \x7b\n      \"Int\": 5\n    \x7d,\n    \x7b\n      \"Float\": -2.5\n    \x7d" ++
        String.join (List.replicate 14 ",\n    \x7b\n      \"Int\": 0\n    \x7d") ++
        "\n  ]\n\x7d\n") := by
  intro briefProgram
  constructor
  · have accepted : parse everyStage =
        .ok (.process ⟨"input.asm", true, some 2, some "out.json", true, true, 1⟩) := by
      decide +kernel
    have assembled : programOf? endless = some endlessProgram := by
      rw [endless, programOf?_toUTF8]
      decide +kernel
    have stages := (runIn_command_ofSource accepted rfl (fun _ h ↦ (Option.some.inj h).symm)
      endless).2.1 endlessProgram assembled
    obtain ⟨status, output⟩ := stages.2.2.2 rfl 2 rfl (by decide)
    refine ⟨accepted, assembled, status, output.trans (by decide +kernel), stages.1.trans ?_⟩
    refine congrArg some (congrArg String.toUTF8 ?_)
    decide +kernel
  · have assembled : programOf? brief = some briefProgram := by
      rw [brief, programOf?_toUTF8]
      decide +kernel
    have halts : HaltsAfter briefProgram fresh 3 := by decide
    have table : parse ["--run", "input.asm"] =
        .ok (.process ⟨"input.asm", true, none, none, false, false, 0⟩) := by decide +kernel
    have json : parse ["-r", "--json", "input.asm"] =
        .ok (.process ⟨"input.asm", true, none, none, false, true, 0⟩) := by decide +kernel
    refine ⟨assembled, ⟨table, ?_⟩, json, ?_⟩
    · have stages := (runIn_command_ofSource table rfl (by simp) brief).2.1 briefProgram assembled
      obtain ⟨status, output⟩ := stages.2.2.1 rfl 3 halts (by simp) (by decide)
      exact ⟨status, output.trans (by decide +kernel)⟩
    · have stages := (runIn_command_ofSource json rfl (by simp) brief).2.1 briefProgram assembled
      obtain ⟨status, output⟩ := stages.2.2.1 rfl 3 halts (by simp) (by decide)
      exact ⟨status, output.trans (by decide +kernel)⟩

end RegisterMachine.CommandLine
