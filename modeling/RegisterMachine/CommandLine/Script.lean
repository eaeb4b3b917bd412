import RegisterMachine.CommandLine.Files

/-!
# Scripts

What the command does to the world around it, as a value: a script is a tree of effects that ends
with an exit status. It can be run in a directory, without any input or output.
-/

namespace RegisterMachine.CommandLine

/-- Effects one after the other. -/
inductive Script
  | exit (status : Nat)
  | print (text : String) (next : Script)
  | complain (text : String) (next : Script)
  | readFile (path : String) (next : Except FileError ByteArray → Script)
  | writeFile (path : String) (content : String) (next : Except FileError Unit → Script)

/-- What a script leaves behind. -/
structure Outcome where
  status : Nat
  output : String
  complaints : String
  directory : Directory

namespace Script

/-- Complains about several texts in turn. -/
def complainAll (texts : List String) (next : Script) : Script := texts.foldr complain next

/-- Runs the script in a directory, after what is printed and complained of already. -/
def runAfter : Script → String → String → Directory → Outcome
  | exit status, output, complaints, d => ⟨status, output, complaints, d⟩
  | print text next, output, complaints, d => next.runAfter (output ++ text) complaints d
  | complain text next, output, complaints, d => next.runAfter output (complaints ++ text) d
  | readFile path next, output, complaints, d =>
    (next (d.read path)).runAfter output complaints d
  | writeFile path content next, output, complaints, d =>
    match d.write path content.toUTF8 with
    | .ok d => (next (.ok ())).runAfter output complaints d
    | .error e => (next (.error e)).runAfter output complaints d

/-- What the script leaves behind when it is run in a directory. -/
def runIn (s : Script) (d : Directory) : Outcome := s.runAfter "" "" d

end Script

end RegisterMachine.CommandLine
