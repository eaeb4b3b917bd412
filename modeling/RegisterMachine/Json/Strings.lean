import RegisterMachine.Json.Basic

/-!
# Reading JSON strings

The characters of a string up to its closing quote, with escapes resolved. An escape names a
16-bit unit; two units that form a surrogate pair are one character, and half of a pair alone
makes the string no Unicode text.
-/

namespace RegisterMachine.Json

/-- The value of a hexadecimal digit. -/
def hexValue? (c : Char) : Option Nat :=
  if c.isDigit then some (c.toNat - 48)
  else if 'a' ≤ c ∧ c ≤ 'f' then some (c.toNat - 87)
  else if 'A' ≤ c ∧ c ≤ 'F' then some (c.toNat - 55)
  else none

/-- The unit named by four hexadecimal digits. -/
def unit? (digits : List Char) : Option Nat :=
  (digits.mapM hexValue?).map fun values ↦ values.foldl (fun n v ↦ 16 * n + v) 0

/-- The character that a letter after a backslash stands for. -/
def escaped? (c : Char) : Option Char :=
  if c = '"' ∨ c = '\\' ∨ c = '/' then some c
  else if c = 'b' then some '\x08'
  else if c = 'f' then some '\x0c'
  else if c = 'n' then some '\n'
  else if c = 'r' then some '\r'
  else if c = 't' then some '\t'
  else none

/-- The code points and units of a string up to its closing quote, and what follows the quote;
nothing if the string is not closed, holds a control character or a bad escape. -/
def stringUnits? : List Char → Option (List Nat × List Char)
  | '"' :: rest => some ([], rest)
  | '\\' :: 'u' :: a :: b :: c :: d :: rest =>
    (unit? [a, b, c, d]).bind fun unit ↦
      (stringUnits? rest).map fun (units, rest) ↦ (unit :: units, rest)
  | '\\' :: e :: rest =>
    (escaped? e).bind fun c ↦
      (stringUnits? rest).map fun (units, rest) ↦ (c.toNat :: units, rest)
  | c :: rest =>
    if c.toNat < 0x20 then none
    else (stringUnits? rest).map fun (units, rest) ↦ (c.toNat :: units, rest)
  | [] => none

/-- Whether the unit is the first half of a surrogate pair. -/
def isHighSurrogate (n : Nat) : Bool := 0xD800 ≤ n && n < 0xDC00

/-- Whether the unit is the second half of a surrogate pair. -/
def isLowSurrogate (n : Nat) : Bool := 0xDC00 ≤ n && n < 0xE000

/-- The characters of code points and units, if every half of a surrogate pair has its other
half. -/
def unitChars? : List Nat → Option (List Char)
  | [] => some []
  | high :: low :: rest =>
    if isHighSurrogate high && isLowSurrogate low then
      (unitChars? rest).map
        (Char.ofNat (0x10000 + (high - 0xD800) * 0x400 + (low - 0xDC00)) :: ·)
    else if isHighSurrogate high || isLowSurrogate high then none
    else (unitChars? (low :: rest)).map (Char.ofNat high :: ·)
  | [n] => if isHighSurrogate n || isLowSurrogate n then none else some [Char.ofNat n]

/-- The string of code points and units, if it is Unicode text. -/
def unitString? (units : List Nat) : Option String := (unitChars? units).map String.ofList

end RegisterMachine.Json
