import RegisterMachine.Assembler.Records
import RegisterMachine.CommandLine.Arguments
import RegisterMachine.CommandLine.Script
import RegisterMachine.Image.Writer
import RegisterMachine.Machine.Records

/-!
# The command

Reads a source file and assembles it, lists and emits the program, and runs it, each as the
options say. The first failure ends the command.

Left out: the environment, which could set another threshold for records (`RUST_LOG`); arguments and
paths that are no text; a run that never ends, which has no outcome here and from which the program
does not come back; the wording of the usage, and the times of records.
-/

namespace RegisterMachine.CommandLine

open Log

/-- The name of the command, which is also the part of the program that reports for it. -/
def commandName : String := "aqas"

/-- What the command says of its version. -/
def versionText : String := commandName ++ " 0.1.0\n"

/-- How the command is used. -/
def helpText : String :=
  "Assembler and register machine\n\n" ++
  "Usage: aqas [OPTIONS] <INPUT>\n\n" ++
  "  <INPUT>                  the assembly file\n" ++
  "  -r, --run                run the program after assembling it\n" ++
  "      --max-steps <N>      stop a run after this many steps\n" ++
  "      --emit-json <PATH>   write the assembled program as JSON\n" ++
  "  -l, --listing            print the assembled program\n" ++
  "      --json               print the final registers as JSON\n" ++
  "  -v, --verbose            report more, and twice for everything\n" ++
  "  -h, --help               print this text\n" ++
  "  -V, --version            print the version\n"

/-- The text with its lines after the first set in by four blanks. -/
def indentLines (text : String) : String :=
  String.ofList (text.toList.flatMap fun c ↦
    if c = '\n' then ['\n', ' ', ' ', ' ', ' '] else [c])

/-- The line of a record. -/
def recordLine (r : Record) : String :=
  "[" ++ String.ofList (List.rightpad 5 ' ' r.level.name.toList) ++ " " ++ r.target ++ "] " ++
    indentLines r.message ++ "\n"

/-- The threshold for a number of requests to say more. -/
def threshold : Nat → Level
  | 0 => .error
  | 1 => .debug
  | _ => .trace

/-- Reports records and goes on. -/
def reportAll (records : List Record) (next : Script) : Script :=
  .complainAll (records.map recordLine) next

/-- Ends with a failure. -/
def fail (failure : String) : Script := .complain ("Error: " ++ failure ++ "\n") (.exit 1)

/-- The failure of a file that is not UTF-8. -/
def notText : String :=
  "Error \x7b kind: InvalidData, message: \"stream did not contain valid UTF-8\" \x7d"

/-- The failure of an exceeded step limit. -/
def limitText (e : StepLimitExceeded) : String :=
  "StepLimitExceeded \x7b limit: " ++ String.ofList (Decimal.digits e.limit) ++ ", pc: " ++
    String.ofList (Decimal.digits e.slot) ++ " \x7d"

/-- What is printed of a run that halted. -/
def summaryText (json : Bool) (s : Summary) : String :=
  if json then (Image.ofSummary s).prettyText ++ "\n"
  else RegisterTable.text s.registers.toList ++ "\nHalted after " ++
    String.ofList (Decimal.digits s.steps) ++ " steps\n"

/-- Runs the program, if that is asked for. A run without a limit that has not ended before its
steps overflow their counter has no outcome; such a run does not come back, and the status 1 only
stands in for it. -/
def runStage (o : Options) (p : Program) : Script :=
  if o.run then
    let m := { Machine.fresh with limit := o.maxSteps }
    reportAll (m.records (threshold o.verbosity) p)
      (match m.run p with
      | some (.ok s) => .print (summaryText o.json s) (.exit 0)
      | some (.error e) => fail (limitText e)
      | none => .exit 1)
  else .exit 0

/-- Writes the program to a file, if that is asked for. -/
def emitStage (o : Options) (p : Program) : Script :=
  match o.emitJson with
  | some path =>
    .writeFile path (Image.ofProgram p).prettyText fun
      | .ok () => .print ("Program written to " ++ path ++ "\n") (runStage o p)
      | .error e => fail e.text
  | none => runStage o p

/-- Lists the program, if that is asked for. -/
def listStage (o : Options) (p : Program) : Script :=
  if o.listing then .print p.listing (emitStage o p) else emitStage o p

/-- Reports a rejected source. -/
def rejectStage (o : Options) (r : Rejection) : Script :=
  reportAll [⟨.error, commandName, o.input ++ ": " ++ r.message⟩]
    (.complainAll (r.diagnostics.map fun d ↦ d.text ++ "\n") (.exit 1))

/-- Assembles the text of the source file. -/
def assembleStage (o : Options) (source : String) : Script :=
  reportAll (Assembler.empty.records (threshold o.verbosity) (Source.lines source))
    (match assembleText source with
    | .error r => rejectStage o r
    | .ok p =>
      reportAll
        (select (threshold o.verbosity) [⟨.info, commandName,
          "assembled " ++ o.input ++ " into " ++ String.ofList (Decimal.digits p.size) ++
            " slots"⟩])
        (listStage o p))

/-- Reads and processes the source file. -/
def process (o : Options) : Script :=
  .readFile o.input fun
    | .error e => fail e.text
    | .ok content =>
      match String.fromUTF8? content with
      | some source => assembleStage o source
      | none => fail notText

/-- What the command does when it is given the arguments. Refused arguments have the status 2. -/
def command (arguments : List String) : Script :=
  match parse arguments with
  | .error e => .complain ("error: " ++ e.message ++ "\n") (.exit 2)
  | .ok .version => .print versionText (.exit 0)
  | .ok .help => .print helpText (.exit 0)
  | .ok (.process o) => process o

end RegisterMachine.CommandLine
