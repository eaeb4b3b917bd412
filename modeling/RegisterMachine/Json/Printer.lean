import RegisterMachine.Json.Basic

/-!
# Writing JSON

A document is written without any blanks, or over several lines with two blanks of indentation
for each level.
-/

namespace RegisterMachine.Json

/-- The hexadecimal digit of a number below 16. -/
def hexDigit (n : Nat) : Char := Nat.digitChar n

/-- A character of a string as it is written: quotes, backslashes and control characters are
escaped. -/
def escape (c : Char) : List Char :=
  if c = '"' then ['\\', '"']
  else if c = '\\' then ['\\', '\\']
  else if c = '\n' then ['\\', 'n']
  else if c = '\r' then ['\\', 'r']
  else if c = '\t' then ['\\', 't']
  else if c = '\x08' then ['\\', 'b']
  else if c = '\x0c' then ['\\', 'f']
  else if c.toNat < 0x20 then
    ['\\', 'u', '0', '0', hexDigit (c.toNat / 16), hexDigit (c.toNat % 16)]
  else [c]

/-- A string in quotes. -/
def quote (s : String) : List Char := '"' :: (s.toList.flatMap escape ++ ['"'])

/-- A key or string as it is written. -/
def quoted (s : Option String) : List Char := (s.map quote).getD []

mutual

/-- The document without blanks. -/
def compact : Json → List Char
  | null => ['n', 'u', 'l', 'l']
  | bool true => ['t', 'r', 'u', 'e']
  | bool false => ['f', 'a', 'l', 's', 'e']
  | number n => n.chars
  | string s => quoted s
  | array [] => ['[', ']']
  | array (item :: items) => '[' :: (compact item ++ compactItems items ++ [']'])
  | object [] => ['\x7b', '\x7d']
  | object ((key, value) :: entries) =>
    '\x7b' :: (quoted key ++ ':' :: (compact value ++ compactEntries entries ++ ['\x7d']))
  | hole => []

/-- Further items, each after a comma. -/
def compactItems : List Json → List Char
  | [] => []
  | item :: items => ',' :: (compact item ++ compactItems items)

/-- Further entries, each after a comma. -/
def compactEntries : List (Option String × Json) → List Char
  | [] => []
  | (key, value) :: entries =>
    ',' :: (quoted key ++ ':' :: (compact value ++ compactEntries entries))

end

/-- A new line at a level of indentation. -/
def newLine (level : Nat) : List Char := '\n' :: List.replicate (2 * level) ' '

mutual

/-- The document over several lines, its inner lines one level deeper than the given one. -/
def prettyAt (level : Nat) : Json → List Char
  | null => ['n', 'u', 'l', 'l']
  | bool true => ['t', 'r', 'u', 'e']
  | bool false => ['f', 'a', 'l', 's', 'e']
  | number n => n.chars
  | string s => quoted s
  | array [] => ['[', ']']
  | array (item :: items) =>
    '[' :: (newLine (level + 1) ++ prettyAt (level + 1) item ++ prettyItems (level + 1) items ++
      newLine level ++ [']'])
  | object [] => ['\x7b', '\x7d']
  | object ((key, value) :: entries) =>
    '\x7b' :: (newLine (level + 1) ++ quoted key ++ ':' :: ' ' :: prettyAt (level + 1) value ++
      prettyEntries (level + 1) entries ++ newLine level ++ ['\x7d'])
  | hole => []

/-- Further items, each on a new line after a comma. -/
def prettyItems (level : Nat) : List Json → List Char
  | [] => []
  | item :: items => ',' :: (newLine level ++ prettyAt level item ++ prettyItems level items)

/-- Further entries, each on a new line after a comma. -/
def prettyEntries (level : Nat) : List (Option String × Json) → List Char
  | [] => []
  | (key, value) :: entries =>
    ',' :: (newLine level ++ quoted key ++ ':' :: ' ' :: prettyAt level value ++
      prettyEntries level entries)

end

/-- The text of a document without blanks. -/
def compactText (j : Json) : String := String.ofList j.compact

/-- The text of a document over several lines. -/
def prettyText (j : Json) : String := String.ofList (j.prettyAt 0)

end RegisterMachine.Json
