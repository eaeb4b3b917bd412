import RegisterMachine.Instruction
import RegisterMachine.Json.Numbers
import RegisterMachine.Json.Reader

/-!
# Records in documents

How parts of a document are read. The parts are looked at in the order of the text, and the first
that is wrong decides what is said. A record is an object with its fields in any order, other keys
ignored, or an array of exactly its fields; a variant is a name, or an object with the name as its
one key.
-/

namespace RegisterMachine.Image

/-- Why a document is no program. -/
inductive ReadError
  /-- The text is no JSON, or a part has not the form it must have. -/
  | malformed
  | registerOutOfRange (e : Register.OutOfRange)
  | missingSlotZero
  | slotZeroTaken (found : Instruction)
  deriving DecidableEq, Repr

namespace ReadError

/-- What is said of the error, apart from the wording for malformed documents. -/
def message? : ReadError → Option String
  | malformed => none
  | registerOutOfRange e => some e.message
  | missingSlotZero => some "program is missing slot 0"
  | slotZeroTaken found => some ("slot 0 must be NOP, found " ++ found.text)

end ReadError

/-- Reads a part of a document. -/
abbrev Reader (α : Type) := Json → Except ReadError α

/-- The fields of a record that stands for `α`: what has been read of them so far, how a key goes
on, and how a list of items is read in their place. -/
structure Fields (α : Type) where
  State : Type
  start : State
  /-- The reader for the value of a key, if the key is a field. -/
  step : State → String → Option (Reader State)
  finish : State → Option α
  takeItems : List Json → Except ReadError (α × List Json)

namespace Fields

variable {α β : Type}

/-- A record of one field. The field must not be given twice. -/
def field (name : String) (read : Reader α) : Fields α where
  State := Option α
  start := none
  step state key :=
    if key = name then
      some fun value ↦
        match state with
        | some _ => .error .malformed
        | none => (read value).map some
    else none
  finish := id
  takeItems
    | [] => .error .malformed
    | item :: items => (read item).map fun a ↦ (a, items)

/-- A record of the fields of both. -/
def and (f : Fields α) (g : Fields β) : Fields (α × β) where
  State := f.State × g.State
  start := (f.start, g.start)
  step state key :=
    match f.step state.1 key with
    | some read => some fun value ↦ (read value).map fun s ↦ (s, state.2)
    | none => (g.step state.2 key).map fun read value ↦ (read value).map fun s ↦ (state.1, s)
  finish state := (f.finish state.1).bind fun a ↦ (g.finish state.2).map fun b ↦ (a, b)
  takeItems items :=
    (f.takeItems items).bind fun (a, items) ↦
      (g.takeItems items).map fun (b, items) ↦ ((a, b), items)

/-- What is known of the fields after further entries. The value of a key that is no field may be
anything that is whole. -/
def takeEntries (f : Fields α) : f.State → List (Option String × Json) → Except ReadError f.State
  | state, [] => .ok state
  | _, (none, _) :: _ => .error .malformed
  | state, (some key, value) :: entries =>
    match f.step state key with
    | some read => (read value).bind fun state ↦ takeEntries f state entries
    | none => if value.isWhole then takeEntries f state entries else .error .malformed

/-- Reads a record. -/
def read (f : Fields α) : Reader α
  | .object entries =>
    (f.takeEntries f.start entries).bind fun state ↦
      match f.finish state with
      | some a => .ok a
      | none => .error .malformed
  | .array items =>
    (f.takeItems items).bind fun
      | (a, []) => .ok a
      | (_, _ :: _) => .error .malformed
  | _ => .error .malformed

end Fields

/-- What a variant holds: nothing, or a content. -/
inductive Variant (α : Type)
  | bare (a : α)
  | holding (read : Reader α)

/-- Reads one of several variants. A variant that holds nothing is its name, or an object with a
null under the name; any other is an object with its content under the name. Nothing else may
stand in the object. -/
def readVariant {α : Type} (variants : String → Option (Variant α)) : Reader α
  | .string (some name) =>
    match variants name with
    | some (.bare a) => .ok a
    | _ => .error .malformed
  | .object ((some name, content) :: more) =>
    let inner : Except ReadError α :=
      match variants name, content with
      | some (.bare a), .null => .ok a
      | some (.holding read), content => read content
      | _, _ => .error .malformed
    inner.bind fun a ↦ if more.isEmpty then .ok a else .error .malformed
  | _ => .error .malformed

/-- Reads all items of an array. -/
def readArray {α : Type} (read : Reader α) : Reader (List α)
  | .array items => items.mapM read
  | _ => .error .malformed

/-- Reads an integer that is at least `low` and less than `high`. -/
def readInteger (low high : Int) : Reader Int
  | .number n =>
    match n.integer? with
    | some i => if low ≤ i ∧ i < high then .ok i else .error .malformed
    | none => .error .malformed
  | _ => .error .malformed

end RegisterMachine.Image
