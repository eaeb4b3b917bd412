import RegisterMachine.Json.Strings

/-!
# Reading JSON

The tree of a text and what follows it. Blanks may stand around every part; numbers have no
leading zeros, and lists no trailing comma. Where the text breaks the rules the tree has a hole,
and nothing after it is read.
-/

namespace RegisterMachine.Json

/-- The characters that may stand between the parts of a document. -/
def isBlank (c : Char) : Bool := c == ' ' || c == '\n' || c == '\t' || c == '\r'

/-- The text without blanks at its start. -/
def skipBlanks (cs : List Char) : List Char := cs.dropWhile isBlank

/-- A hole, after which nothing is read. -/
def stop : Json × List Char := (hole, [])

/-- The digits at the start of a text, and what follows them. -/
def digitRun (cs : List Char) : List Char × List Char :=
  (cs.takeWhile Char.isDigit, cs.dropWhile Char.isDigit)

/-- The whole part of a number: a zero, or digits that do not start with one. -/
def wholePart? (cs : List Char) : Option (List Char × List Char) :=
  match digitRun cs with
  | ([], _) => none
  | ('0' :: _ :: _, _) => none
  | run => some run

/-- The fraction of a number, if there is a point: at least one digit. -/
def fractionPart? : List Char → Option (List Char × List Char)
  | '.' :: cs =>
    match digitRun cs with
    | ([], _) => none
    | run => some run
  | cs => some ([], cs)

/-- The sign of an exponent. -/
def exponentSign : List Char → Decimal.ExponentSign × List Char
  | '+' :: cs => (.plus, cs)
  | '-' :: cs => (.minus, cs)
  | cs => (.bare, cs)

/-- The exponent of a number, if there is one: a sign and at least one digit. -/
def exponentPart? : List Char → Option (Option Decimal.Exponent × List Char)
  | c :: cs =>
    if c = 'e' ∨ c = 'E' then
      match digitRun (exponentSign cs).2 with
      | ([], _) => none
      | (digits, rest) => some (some ⟨(exponentSign cs).1, digits⟩, rest)
    else some (none, c :: cs)
  | [] => some (none, [])

/-- The number after its minus sign. -/
def unsignedNumber? (negative : Bool) (cs : List Char) :
    Option (Decimal.Numeral × List Char) :=
  (wholePart? cs).bind fun (whole, cs) ↦
    (fractionPart? cs).bind fun (fraction, cs) ↦
      (exponentPart? cs).map fun (exponent, cs) ↦ (⟨negative, whole, fraction, exponent⟩, cs)

/-- The number at the start of a text. -/
def number? : List Char → Option (Decimal.Numeral × List Char)
  | '-' :: cs => unsignedNumber? true cs
  | cs => unsignedNumber? false cs

/-- The document of a number. -/
def readNumber (cs : List Char) : Json × List Char :=
  match number? cs with
  | some (n, rest) => (number n, rest)
  | none => stop

/-- The document of a string after its opening quote. -/
def readString (cs : List Char) : Json × List Char :=
  match stringUnits? cs with
  | some (units, rest) => (string (unitString? units), rest)
  | none => stop

mutual

/-- The document at the start of a text, and what follows it; at most the given depth of calls is
used. -/
def readValue : Nat → List Char → Json × List Char
  | 0, _ => stop
  | n + 1, cs =>
    match skipBlanks cs with
    | 'n' :: 'u' :: 'l' :: 'l' :: rest => (null, rest)
    | 't' :: 'r' :: 'u' :: 'e' :: rest => (bool true, rest)
    | 'f' :: 'a' :: 'l' :: 's' :: 'e' :: rest => (bool false, rest)
    | '"' :: rest => readString rest
    | '[' :: rest =>
      match skipBlanks rest with
      | ']' :: rest => (array [], rest)
      | rest =>
        let (items, rest) := readItems n rest
        (array items, rest)
    | '\x7b' :: rest =>
      match skipBlanks rest with
      | '\x7d' :: rest => (object [], rest)
      | rest =>
        let (entries, rest) := readEntries n rest
        (object entries, rest)
    | cs => readNumber cs

/-- One or more items up to the closing bracket. -/
def readItems : Nat → List Char → List Json × List Char
  | 0, _ => ([hole], [])
  | n + 1, cs =>
    let (item, rest) := readValue n cs
    match skipBlanks rest with
    | ']' :: rest => ([item], rest)
    | ',' :: rest =>
      let (items, rest) := readItems n rest
      (item :: items, rest)
    | _ => ([item, hole], [])

/-- One or more entries up to the closing brace. -/
def readEntries : Nat → List Char → List (Option String × Json) × List Char
  | 0, _ => ([(none, hole)], [])
  | n + 1, cs =>
    match skipBlanks cs with
    | '"' :: rest =>
      match stringUnits? rest with
      | none => ([(none, hole)], [])
      | some (units, rest) =>
        let key := unitString? units
        match skipBlanks rest with
        | ':' :: rest =>
          let (value, rest) := readValue n rest
          match skipBlanks rest with
          | '\x7d' :: rest => ([(key, value)], rest)
          | ',' :: rest =>
            let (entries, rest) := readEntries n rest
            ((key, value) :: entries, rest)
          | _ => ([(key, value), (none, hole)], [])
        | _ => ([(key, hole)], [])
    | _ => ([(none, hole)], [])

end

/-- The document at the start of a text, and what follows it. Two calls may go by before a
character is read, so the depth suffices for any text. -/
def read (text : String) : Json × List Char :=
  let cs := text.toList
  readValue (2 * cs.length + 2) cs

end RegisterMachine.Json
