import RegisterMachine.Proofs.CommandLine.Result

/-!
# Verbosity

A request to say more, added before the arguments, changes what is logged and nothing else: the
arguments are accepted or refused as before, and the command ends with the same status, the same
output and the same files.
-/

namespace RegisterMachine.CommandLine

/-! ### Arguments -/

/-- The options with one more request to say more. -/
def Options.louder (o : Options) : Options := { o with verbosity := o.verbosity + 1 }

/-- The request with one more request to say more. -/
def Request.louder : Request → Request
  | process o => process o.louder
  | version => version
  | help => help

namespace Draft

/-- The draft with one more request to say more. -/
def louder (d : Draft) : Draft := { d with verbosity := d.verbosity + 1 }

/-- A step with one more request to say more, whether it goes on or stops with a request. -/
def louderStep : Step Draft → Step Draft
  | .ok d => .ok d.louder
  | .error stopped => .error (stopped.map Request.louder)

/-- What is refused stays refused. -/
theorem louderStep_unless (c : Prop) [Decidable c] (e : UsageError) (step : Step Draft) :
    louderStep (if c then refuse e else step) = if c then refuse e else louderStep step := by
  split <;> rfl

theorem takeFlag_louder (d : Draft) (written : String) (flag : Flag) :
    d.louder.takeFlag written flag = louderStep (d.takeFlag written flag) := by
  cases flag with
  | run | listing | json =>
    simp only [takeFlag, louderStep_unless]
    rfl
  | verbose | version | help => rfl

theorem takeSetting_louder (d : Draft) (value : String) (setting : Setting) :
    d.louder.takeSetting value setting = louderStep (d.takeSetting value setting) := by
  cases setting with
  | maxSteps =>
    simp only [takeSetting, louderStep_unless]
    cases (Decimal.unsigned? value.toList).filter (· < UInt64.size) <;> rfl
  | emitJson =>
    simp only [takeSetting, louderStep_unless]
    rfl

theorem takePath_louder (d : Draft) (path : String) :
    d.louder.takePath path = louderStep (d.takePath path) := by
  simp only [takePath, louderStep_unless]
  rfl

/-- A step that is the same but louder goes on the same but louder. -/
theorem bind_louder {step : Step Draft} {f : Draft → Step Draft}
    (h : ∀ d, f d.louder = louderStep (f d)) :
    (louderStep step).bind f = louderStep (step.bind f) := by
  cases step with
  | error stopped => rfl
  | ok d => exact h d

theorem takeShort_louder (d : Draft) (written : String) (cs : List Char) :
    d.louder.takeShort written cs = louderStep (d.takeShort written cs) := by
  induction cs generalizing d with
  | nil => rfl
  | cons c cs ih =>
    simp only [takeShort]
    cases Flag.ofShort? c with
    | none => rfl
    | some flag =>
      simp only [takeFlag_louder]
      exact bind_louder ih

theorem takePaths_louder (d : Draft) (paths : List String) :
    d.louder.takePaths paths = louderStep (d.takePaths paths) := by
  induction paths generalizing d with
  | nil => rfl
  | cons path paths ih =>
    simp only [takePaths, takePath_louder]
    exact bind_louder ih

/-- What the arguments come to does not depend on how often more was asked for before them. -/
theorem takeAll_louder (d : Draft) (arguments : List String) :
    d.louder.takeAll arguments = louderStep (d.takeAll arguments) := by
  -- An option may take the next argument for its value, so the induction is on the length.
  induction hl : arguments.length using Nat.strongRecOn generalizing arguments d with
  | ind n ih =>
    subst hl
    cases arguments with
    | nil => rfl
    | cons argument rest =>
      have later (d : Draft) : d.louder.takeAll rest = louderStep (d.takeAll rest) :=
        ih rest.length (by simp) d rest rfl
      simp only [takeAll]
      generalize argument.toList = cs
      split
      · exact takePaths_louder d rest
      · next long _ =>
        generalize Flag.ofLong? (String.ofList (long.takeWhile (· != '='))) = flag?
        generalize Setting.ofLong? (String.ofList (long.takeWhile (· != '='))) = setting?
        generalize long.dropWhile (· != '=') = assignment
        cases flag? with
        | some flag => cases assignment with
          | nil =>
            dsimp only
            rw [takeFlag_louder]
            exact bind_louder later
          | cons => rfl
        | none => cases setting? with
          | none => rfl
          | some setting => cases assignment with
            | cons _ value =>
              dsimp only
              rw [takeSetting_louder]
              exact bind_louder later
            | nil => cases rest with
              | nil => rfl
              | cons value rest =>
                have last (d : Draft) : d.louder.takeAll rest = louderStep (d.takeAll rest) :=
                  ih rest.length (by simp only [List.length_cons]; omega) d rest rfl
                dsimp only
                split
                · rw [takeSetting_louder]
                  exact bind_louder last
                · rfl
      · rw [takeShort_louder]
        exact bind_louder later
      · rw [takePath_louder]
        exact bind_louder later

theorem finish_louder (d : Draft) : d.louder.finish = d.finish.map Request.louder := by
  cases h : d.input <;> simp [finish, louder, h, Except.map, Request.louder, Options.louder]

end Draft

/-- A further `-v` before the arguments asks for the same, but to say more. -/
theorem parse_verbose (arguments : List String) :
    parse ("-v" :: arguments) = (parse arguments).map Request.louder := by
  have first : Draft.empty.takeAll ("-v" :: arguments) = Draft.empty.louder.takeAll arguments := rfl
  rw [parse, parse, first, Draft.takeAll_louder]
  cases Draft.empty.takeAll arguments with
  | ok draft => exact draft.finish_louder
  | error stopped => rfl

/-- A request to say more has no effect on the result of processing a file. -/
theorem resultAfter_process_louder (o : Options) (output : String) (d : Directory) :
    (process o.louder).resultAfter output d = (process o).resultAfter output d := by
  simp only [resultAfter_process, resultAfter_assembleStage, resultAfter_listStage,
    resultAfter_emitStage, resultAfter_runStage, Options.machine, Options.louder]

/-- One more `-v` before the arguments, whatever they are, leaves the status, the output and the
files of the command as they are. -/
theorem result_command_verbose (arguments : List String) (d : Directory) :
    ((command ("-v" :: arguments)).runIn d).status = ((command arguments).runIn d).status ∧
      ((command ("-v" :: arguments)).runIn d).output = ((command arguments).runIn d).output ∧
      ((command ("-v" :: arguments)).runIn d).directory =
        ((command arguments).runIn d).directory := by
  have same : ((command ("-v" :: arguments)).runIn d).result =
      ((command arguments).runIn d).result := by
    rw [Script.result_runIn, Script.result_runIn, command, command, parse_verbose]
    cases parse arguments with
    | error e => rfl
    | ok request =>
      cases request with
      | process o => exact resultAfter_process_louder o "" d
      | version => rfl
      | help => rfl
  exact ⟨congrArg Result.status same, congrArg Result.output same, congrArg Result.directory same⟩

end RegisterMachine.CommandLine
