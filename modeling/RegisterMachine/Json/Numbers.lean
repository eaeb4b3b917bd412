import RegisterMachine.Json.Basic

/-!
# The values of JSON numbers

A number without fraction and exponent is an integer. As a binary64 number, a numeral has the
first digits that fit a 64-bit word, rounded once, then multiplied or divided by a power of ten,
rounded again: fast, and not always the number nearest to the written value.
-/

namespace RegisterMachine.Decimal.Numeral

/-- The value of a digit. -/
def digitValue (c : Char) : Nat := c.toNat - 48

/-- The integer that is written; minus zero is none. -/
def integer? (n : Numeral) : Option Int :=
  let magnitude : Int := Nat.ofDigitChars 10 n.whole 0
  if n.fraction ≠ [] ∨ n.exponent ≠ none then none
  else if n.negative then if magnitude = 0 then none else some (-magnitude)
  else some magnitude

/-- The word that digits extend a word to, and the digits from the first one that does not fit. -/
def extendWord (word : Nat) : List Char → Nat × List Char
  | [] => (word, [])
  | c :: cs =>
    let longer := 10 * word + digitValue c
    if longer < UInt64.size then extendWord longer cs else (word, c :: cs)

/-- A power of ten as a binary64 number. -/
def powerOfTen (k : Nat) : Binary64 := .ofInt (Nat.pow 10 k)

/-- The number divided by a power of ten, in parts of at most `10 ^ 308`; zero stays zero. -/
def scaleDown (x : Binary64) (k : Nat) : Binary64 :=
  if k ≤ 308 then x.div (powerOfTen k)
  else if x.units = 0 then x
  else scaleDown (x.div (powerOfTen 308)) (k - 308)
termination_by k

/-- The number times a power of ten, if that is finite; zero stays zero. -/
def scaleUp? (x : Binary64) (k : Nat) : Option Binary64 :=
  if k ≤ 308 then (x.mul (powerOfTen k)) |> Option.some |>.filter Binary64.isFinite
  else if x.units = 0 then some x
  else none

/-- The number times ten to a power of either sign, if that is finite. -/
def scale? (x : Binary64) (k : Int) : Option Binary64 :=
  if k < 0 then some (scaleDown x k.natAbs) else scaleUp? x k.natAbs

/-- The absolute value that a significand and an exponent give, if it is finite. An exponent that
does not fit a 32-bit word is as good as infinite. -/
def assemble? (word : Nat) (shift : Int) : Option Exponent → Option Binary64
  | none => scale? (.ofInt word) shift
  | some e =>
    let size := Nat.ofDigitChars 10 e.digits 0
    if size < Nat.pow 2 31 then
      scale? (.ofInt word) (if e.sign = .minus then shift - size else shift + size)
    else if word = 0 ∨ e.sign = .minus then some (.ofInt 0)
    else none

/-- The binary64 number that is written, if it is finite. -/
def binary64? (n : Numeral) : Option Binary64 :=
  let (start, dropped) := extendWord 0 n.whole
  let (word, unread) := extendWord start n.fraction
  let shift : Int := dropped.length - (n.fraction.length - unread.length)
  (assemble? word shift n.exponent).map fun x ↦ .ofMagnitude n.negative x.magnitude

end RegisterMachine.Decimal.Numeral
