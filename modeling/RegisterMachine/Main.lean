import RegisterMachine.CommandLine.Command

/-!
# The program

Runs the command's script with the arguments, files and streams of the process.
-/

namespace RegisterMachine.CommandLine

/-- The code of a failure; some come as the complement of the code. -/
def errorCode (word : UInt32) : Nat :=
  if Nat.pow 2 31 ≤ word.toNat then UInt32.size - word.toNat else word.toNat

/-- The failure that an exception of the file system stands for. -/
def FileError.ofException : IO.Error → FileError
  | .noFileOrDirectory _ code details | .permissionDenied _ code details
  | .inappropriateType _ code details | .invalidArgument _ code details
  | .resourceExhausted _ code details | .noSuchThing _ code details
  | .alreadyExists _ code details => .ofCode (errorCode code) details
  | .otherError code details | .resourceBusy code details => .ofCode (errorCode code) details
  | e => .ofCode 0 (toString e)

/-- Runs a script with the effects it names. -/
def Script.perform : Script → IO UInt32
  | exit status => return status.toUInt32
  | print text next => do
    IO.print text
    next.perform
  | complain text next => do
    IO.eprint text
    next.perform
  | readFile path next => do
    let content ← EIO.toBaseIO (IO.FS.readBinFile path)
    (next (content.mapError FileError.ofException)).perform
  | writeFile path content next => do
    let done ← EIO.toBaseIO (IO.FS.writeFile path content)
    (next (done.mapError FileError.ofException)).perform

end RegisterMachine.CommandLine

/-- Runs the command. -/
def main (arguments : List String) : IO UInt32 :=
  (RegisterMachine.CommandLine.command arguments).perform
