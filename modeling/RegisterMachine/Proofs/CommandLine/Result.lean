import RegisterMachine.CommandLine.Command

/-!
# Results of scripts

What a script leaves behind apart from what it complains of: its status, what it prints, and the
directory. Complaints, and so log records, come and go without any effect on these.
-/

namespace RegisterMachine.CommandLine

/-- What is left behind apart from complaints. -/
structure Result where
  status : Nat
  output : String
  directory : Directory

/-- The outcome without its complaints. -/
def Outcome.result (o : Outcome) : Result := ⟨o.status, o.output, o.directory⟩

namespace Script

/-- What the script leaves behind in a directory, after what is printed already. -/
def resultAfter : Script → String → Directory → Result
  | exit status, output, d => ⟨status, output, d⟩
  | print text next, output, d => next.resultAfter (output ++ text) d
  | complain _ next, output, d => next.resultAfter output d
  | readFile path next, output, d => (next (d.read path)).resultAfter output d
  | writeFile path content next, output, d =>
    match d.write path content.toUTF8 with
    | .ok d => (next (.ok ())).resultAfter output d
    | .error e => (next (.error e)).resultAfter output d

/-- A script that is run has this result, whatever was complained of before. -/
theorem result_runAfter (s : Script) (output complaints : String) (d : Directory) :
    (s.runAfter output complaints d).result = s.resultAfter output d := by
  induction s generalizing output complaints d with
  | exit status => rfl
  | print text next ih => exact ih (output ++ text) complaints d
  | complain text next ih => exact ih output (complaints ++ text) d
  | readFile path next ih => exact ih (d.read path) output complaints d
  | writeFile path content next ih =>
    unfold runAfter resultAfter
    cases d.write path content.toUTF8 with
    | ok d => exact ih (.ok ()) output complaints d
    | error e => exact ih (.error e) output complaints d

/-- What a script leaves behind in a directory. -/
theorem result_runIn (s : Script) (d : Directory) : (s.runIn d).result = s.resultAfter "" d :=
  result_runAfter s "" "" d

variable {output : String} {d : Directory}

@[simp] theorem resultAfter_exit (status : Nat) :
    (exit status).resultAfter output d = ⟨status, output, d⟩ := rfl

@[simp] theorem resultAfter_print (text : String) (next : Script) :
    (print text next).resultAfter output d = next.resultAfter (output ++ text) d := rfl

@[simp] theorem resultAfter_complain (text : String) (next : Script) :
    (complain text next).resultAfter output d = next.resultAfter output d := rfl

@[simp] theorem resultAfter_complainAll (texts : List String) (next : Script) :
    (complainAll texts next).resultAfter output d = next.resultAfter output d := by
  induction texts with
  | nil => rfl
  | cons text texts ih => exact ih

end Script

open Script

variable {output : String} {d : Directory}

/-- Log records have no effect on the result. -/
@[simp] theorem resultAfter_reportAll (records : List Log.Record) (next : Script) :
    (reportAll records next).resultAfter output d = next.resultAfter output d :=
  resultAfter_complainAll _ next

/-- A failure has the status 1 and leaves all else as it is. -/
@[simp] theorem resultAfter_fail (failure : String) :
    (fail failure).resultAfter output d = ⟨1, output, d⟩ := rfl

/-! ### Stages

Each stage gives its result by those of the stages after it. -/

/-- The machine that a program is run on. -/
def Options.machine (o : Options) : Machine := { Machine.fresh with limit := o.maxSteps }

/-- A run that halts is told of on the output; a run that fails has the status 1. -/
theorem resultAfter_runStage (o : Options) (p : Program) :
    (runStage o p).resultAfter output d =
      if o.run then
        match o.machine.run p with
        | some (.ok s) => ⟨0, output ++ summaryText o.json s, d⟩
        | some (.error _) | none => ⟨1, output, d⟩
      else ⟨0, output, d⟩ := by
  unfold runStage
  split
  · rw [resultAfter_reportAll, ← Options.machine]
    cases o.machine.run p with
    | none => rfl
    | some outcome => cases outcome <;> rfl
  · rfl

/-- A program that is emitted is written before it is run, and not run if that fails. -/
theorem resultAfter_emitStage (o : Options) (p : Program) :
    (emitStage o p).resultAfter output d =
      match o.emitJson with
      | some path =>
        match d.write path (Image.ofProgram p).prettyText.toUTF8 with
        | .ok d => (runStage o p).resultAfter (output ++ ("Program written to " ++ path ++ "\n")) d
        | .error _ => ⟨1, output, d⟩
      | none => (runStage o p).resultAfter output d := by
  unfold emitStage
  cases o.emitJson with
  | none => rfl
  | some path =>
    simp only [resultAfter]
    cases d.write path (Image.ofProgram p).prettyText.toUTF8 <;> rfl

/-- A listing is printed first. -/
theorem resultAfter_listStage (o : Options) (p : Program) :
    (listStage o p).resultAfter output d =
      (emitStage o p).resultAfter (if o.listing then output ++ p.listing else output) d := by
  unfold listStage
  split <;> rfl

/-- A source that is rejected leaves all as it is. -/
theorem resultAfter_assembleStage (o : Options) (source : String) :
    (assembleStage o source).resultAfter output d =
      match assembleText source with
      | .ok p => (listStage o p).resultAfter output d
      | .error _ => ⟨1, output, d⟩ := by
  unfold assembleStage
  rw [resultAfter_reportAll]
  cases assembleText source with
  | ok p => exact resultAfter_reportAll _ _
  | error r => simp only [rejectStage, resultAfter_reportAll, resultAfter_complainAll,
      resultAfter_exit]

/-- A file that cannot be read, or is not text, leaves all as it is. -/
theorem resultAfter_process (o : Options) :
    (process o).resultAfter output d =
      match d.read o.input with
      | .ok content =>
        match String.fromUTF8? content with
        | some source => (assembleStage o source).resultAfter output d
        | none => ⟨1, output, d⟩
      | .error _ => ⟨1, output, d⟩ := by
  simp only [process, resultAfter]
  cases d.read o.input with
  | error e => rfl
  | ok content =>
    dsimp only
    cases String.fromUTF8? content <;> rfl

end RegisterMachine.CommandLine
