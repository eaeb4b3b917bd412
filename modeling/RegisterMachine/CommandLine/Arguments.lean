import RegisterMachine.Decimal.Whole

/-!
# Arguments

The arguments of the command are read from left to right, and the first that is wrong, or that
asks for the version or for help, decides. Flags may be given once, `-v` any number of times, and
short flags may share a dash. After `--` everything is a path.
-/

namespace RegisterMachine.CommandLine

/-- What the command is to do with a source file. -/
structure Options where
  input : String
  run : Bool
  maxSteps : Option Nat
  emitJson : Option String
  listing : Bool
  json : Bool
  verbosity : Nat
  deriving DecidableEq, Repr

/-- What the arguments ask for. -/
inductive Request
  | process (options : Options)
  | version
  | help
  deriving DecidableEq, Repr

/-- Why arguments are refused. -/
inductive UsageError
  | unknown (argument : String)
  | repeated (option : String)
  | missingValue (option : String)
  | unexpectedValue (option : String)
  | invalidValue (option value : String)
  | missingPath
  | extraPath (path : String)
  deriving DecidableEq, Repr

namespace UsageError

/-- What is said of refused arguments. -/
def message : UsageError → String
  | unknown argument => "unexpected argument '" ++ argument ++ "'"
  | repeated option => "'" ++ option ++ "' was given twice"
  | missingValue option => "'" ++ option ++ "' needs a value"
  | unexpectedValue option => "'" ++ option ++ "' takes no value"
  | invalidValue option value => "'" ++ value ++ "' is no value for '" ++ option ++ "'"
  | missingPath => "the path to the assembly file is missing"
  | extraPath path => "unexpected argument '" ++ path ++ "'"

end UsageError

/-- The options without values. -/
inductive Flag
  | run
  | listing
  | json
  | verbose
  | version
  | help
  deriving DecidableEq, Repr

/-- The options with a value. -/
inductive Setting
  | maxSteps
  | emitJson
  deriving DecidableEq, Repr

namespace Flag

/-- The flag with a long name. -/
def ofLong? (name : String) : Option Flag :=
  if name = "run" then some run
  else if name = "listing" then some listing
  else if name = "json" then some json
  else if name = "verbose" then some verbose
  else if name = "version" then some version
  else if name = "help" then some help
  else none

/-- The flag with a short name. -/
def ofShort? (c : Char) : Option Flag :=
  if c = 'r' then some run
  else if c = 'l' then some listing
  else if c = 'v' then some verbose
  else if c = 'V' then some version
  else if c = 'h' then some help
  else none

end Flag

namespace Setting

/-- The option with a long name. -/
def ofLong? (name : String) : Option Setting :=
  if name = "max-steps" then some maxSteps
  else if name = "emit-json" then some emitJson
  else none

/-- How the option is written. -/
def text : Setting → String
  | maxSteps => "--max-steps"
  | emitJson => "--emit-json"

end Setting

/-- What has been read of the arguments. -/
structure Draft where
  input : Option String
  run : Bool
  maxSteps : Option Nat
  emitJson : Option String
  listing : Bool
  json : Bool
  verbosity : Nat
  deriving DecidableEq, Repr

/-- What a reader of arguments stops with: an error, or a request that needs no further ones. -/
abbrev Step (α : Type) := Except (Except UsageError Request) α

namespace Draft

/-- Before the first argument. -/
def empty : Draft := ⟨none, false, none, none, false, false, 0⟩

/-- Stops with an error. -/
def refuse {α : Type} (e : UsageError) : Step α := .error (.error e)

/-- Takes a flag. -/
def takeFlag (d : Draft) (written : String) : Flag → Step Draft
  | .run => if d.run then refuse (.repeated written) else .ok { d with run := true }
  | .listing =>
    if d.listing then refuse (.repeated written) else .ok { d with listing := true }
  | .json => if d.json then refuse (.repeated written) else .ok { d with json := true }
  | .verbose => .ok { d with verbosity := d.verbosity + 1 }
  | .version => .error (.ok .version)
  | .help => .error (.ok .help)

/-- Takes an option with its value. -/
def takeSetting (d : Draft) (value : String) : Setting → Step Draft
  | .maxSteps =>
    if d.maxSteps.isSome then refuse (.repeated Setting.maxSteps.text)
    else
      match (Decimal.unsigned? value.toList).filter (· < UInt64.size) with
      | some limit => .ok { d with maxSteps := some limit }
      | none => refuse (.invalidValue Setting.maxSteps.text value)
  | .emitJson =>
    if d.emitJson.isSome then refuse (.repeated Setting.emitJson.text)
    else if value.isEmpty then refuse (.missingValue Setting.emitJson.text)
    else .ok { d with emitJson := some value }

/-- Takes a path. -/
def takePath (d : Draft) (path : String) : Step Draft :=
  if d.input.isSome then refuse (.extraPath path)
  else if path.isEmpty then refuse .missingPath
  else .ok { d with input := some path }

/-- Takes short flags that share a dash. -/
def takeShort (d : Draft) (written : String) : List Char → Step Draft
  | [] => .ok d
  | c :: cs =>
    match Flag.ofShort? c with
    | some flag => (d.takeFlag written flag).bind fun d ↦ d.takeShort written cs
    | none => refuse (.unknown written)

/-- Takes paths. -/
def takePaths (d : Draft) : List String → Step Draft
  | [] => .ok d
  | path :: paths => (d.takePath path).bind fun d ↦ d.takePaths paths

/-- Whether an argument can be the value of the option before it. -/
def isValue (argument : String) : Bool :=
  match argument.toList with
  | '-' :: _ :: _ => false
  | _ => true

/-- Takes all arguments. -/
def takeAll (d : Draft) : List String → Step Draft
  | [] => .ok d
  | argument :: rest =>
    match argument.toList with
    | ['-', '-'] => d.takePaths rest
    | '-' :: '-' :: long =>
      let name := String.ofList (long.takeWhile (· != '='))
      let value? := match long.dropWhile (· != '=') with
        | _ :: value => some (String.ofList value)
        | [] => none
      match Flag.ofLong? name, Setting.ofLong? name, value? with
      | some flag, _, none => (d.takeFlag argument flag).bind fun d ↦ d.takeAll rest
      | some _, _, some _ => refuse (.unexpectedValue argument)
      | none, some setting, some value =>
        (d.takeSetting value setting).bind fun d ↦ d.takeAll rest
      | none, some setting, none =>
        match rest with
        | value :: rest =>
          if isValue value then (d.takeSetting value setting).bind fun d ↦ d.takeAll rest
          else refuse (.missingValue argument)
        | [] => refuse (.missingValue argument)
      | none, none, _ => refuse (.unknown argument)
    | '-' :: c :: cs => (d.takeShort argument (c :: cs)).bind fun d ↦ d.takeAll rest
    | _ => (d.takePath argument).bind fun d ↦ d.takeAll rest

/-- The request of all arguments taken. -/
def finish (d : Draft) : Except UsageError Request :=
  match d.input with
  | some input =>
    .ok (.process ⟨input, d.run, d.maxSteps, d.emitJson, d.listing, d.json, d.verbosity⟩)
  | none => .error .missingPath

end Draft

/-- The request that the arguments make. -/
def parse (arguments : List String) : Except UsageError Request :=
  match Draft.empty.takeAll arguments with
  | .ok draft => draft.finish
  | .error stopped => stopped

end RegisterMachine.CommandLine
