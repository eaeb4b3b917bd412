import RegisterMachine.Decimal.Whole

/-!
# Files

Failures of the file system as the command tells them, and a directory of files in which the
command can be run without a file system.
-/

namespace RegisterMachine.CommandLine

/-- A failure of the operating system. -/
structure FileError where
  code : Nat
  kind : String
  message : String
  deriving DecidableEq, Repr

namespace FileError

/-- There is nothing of that name. -/
def notFound : FileError := ⟨2, "NotFound", "No such file or directory"⟩

/-- A file stands where the path needs a directory. -/
def notADirectory : FileError := ⟨20, "NotADirectory", "Not a directory"⟩

/-- A directory stands where the path needs a file. -/
def isADirectory : FileError := ⟨21, "IsADirectory", "Is a directory"⟩

/-- A name of the path is too long. -/
def nameTooLong : FileError := ⟨36, "InvalidFilename", "File name too long"⟩

/-- The user may not do that. -/
def permissionDenied : FileError := ⟨13, "PermissionDenied", "Permission denied"⟩

/-- The failure with a given code. -/
def ofCode (code : Nat) (details : String) : FileError :=
  match [notFound, permissionDenied, notADirectory, isADirectory, nameTooLong].find?
      (·.code == code) with
  | some e => e
  | none => ⟨code, "Uncategorized", details⟩

/-- The failure in full. -/
def text (e : FileError) : String :=
  "Os \x7b code: " ++ String.ofList (Decimal.digits e.code) ++ ", kind: " ++ e.kind ++
    ", message: \"" ++ e.message ++ "\" \x7d"

end FileError

/-- A directory that holds files and nothing else. -/
structure Directory where
  files : List (String × ByteArray)

namespace Directory

/-- The content of a file. -/
def get? (d : Directory) (name : String) : Option ByteArray := d.files.lookup name

/-- The directory with a further file, or with another content of a file. -/
def put (d : Directory) (name : String) (content : ByteArray) : Directory :=
  ⟨(name, content) :: d.files.filter fun file ↦ file.1 != name⟩

/-- Where a path leads, seen from the directory. -/
inductive Place
  | here
  /-- A directory outside, of which no name is known. -/
  | outside
  | file (name : String)
  | nothing (name : String)
  /-- A name in a directory outside. -/
  | elsewhere
  deriving DecidableEq, Repr

/-- The longest name that a file may have, in bytes. -/
def longestName : Nat := 255

/-- The longest path, in bytes. -/
def longestPath : Nat := 4095

namespace Place

/-- Only a directory can be looked into. -/
def enter : Place → Except FileError Unit
  | here | outside => .ok ()
  | file _ => .error .notADirectory
  | nothing _ | elsewhere => .error .notFound

/-- Where a path starts. An absolute path starts outside. -/
def start (path : String) : Place :=
  if path.toList.head? = some '/' then outside else here

end Place

/-- Whether the name is a directory's name for itself or for the directory it is in. -/
def isDots (name : String) : Bool := name == "." || name == ".."

/-- Follows one further name of a path; going up leads outside. -/
def follow (d : Directory) (place : Place) (name : String) : Except FileError Place :=
  place.enter.bind fun () ↦
    if name = "" ∨ name = "." then .ok place
    else if name = ".." then .ok .outside
    else if longestName < name.utf8ByteSize then .error .nameTooLong
    else if place = .outside then .ok .elsewhere
    else if (d.get? name).isSome then .ok (.file name)
    else .ok (.nothing name)

/-- A path must not be empty, nor too long as a whole. -/
def checkPath (path : String) : Except FileError Unit :=
  if path.isEmpty then .error .notFound
  else if longestPath < path.utf8ByteSize then .error .nameTooLong
  else .ok ()

/-- The texts between the slashes of a text, of which there is always one more than slashes. -/
def splitSlashes : List Char → List (List Char)
  | [] => [[]]
  | c :: cs =>
    if c = '/' then [] :: splitSlashes cs
    else
      match splitSlashes cs with
      | [] => [[c]]
      | name :: names => (c :: name) :: names

/-- The names of a path. -/
def names (path : String) : List String := (splitSlashes path.toList).map String.ofList

/-- Where a path leads. -/
def resolve (d : Directory) (path : String) : Except FileError Place :=
  (checkPath path).bind fun () ↦ (names path).foldlM d.follow (Place.start path)

/-- Reads a file. -/
def read (d : Directory) (path : String) : Except FileError ByteArray :=
  (d.resolve path).bind fun
    | .file name =>
      match d.get? name with
      | some content => .ok content
      | none => .error .notFound
    | .nothing _ | .elsewhere => .error .notFound
    | .here | .outside => .error .isADirectory

/-- The names of a path up to its last one, the last one, and whether slashes follow it; nothing
if the path has slashes only. -/
def splitLast? (path : String) : Option (List String × String × Bool) :=
  let all := names path
  let trimmed := (all.reverse.dropWhile (·.isEmpty)).reverse
  trimmed.getLast?.map fun last ↦ (trimmed.dropLast, last, trimmed.length != all.length)

/-- Writes a file, anew if there is one. Once the directories before the last name are found, a
last name of dots, or with slashes after it, can only be a directory's, and is not looked at any
further. A file outside is written and not kept. -/
def write (d : Directory) (path : String) (content : ByteArray) :
    Except FileError Directory :=
  (checkPath path).bind fun () ↦
    match splitLast? path with
    | none => .error .isADirectory
    | some (folders, last, slashed) =>
      (folders.foldlM d.follow (Place.start path)).bind fun place ↦
        place.enter.bind fun () ↦
          if slashed || isDots last then .error .isADirectory
          else (d.follow place last).bind fun
            | .file name | .nothing name => .ok (d.put name content)
            | .elsewhere => .ok d
            | .here | .outside => .error .isADirectory

end Directory

end RegisterMachine.CommandLine
