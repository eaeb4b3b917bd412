import RegisterMachine.Decimal.Shortest

/-!
# Values

What a register holds: a 32-bit integer or a binary64 number. Integers wrap, and a number on
either side makes the operation one on binary64 numbers.
-/

namespace RegisterMachine

/-- A register's content. -/
inductive Value
  | int (n : Int32)
  | float (x : Binary64)
  deriving DecidableEq, Repr

namespace Value

/-- The integer zero, which every register holds at first. -/
def zero : Value := int 0

/-- The value as a binary64 number. -/
def toBinary64 : Value → Binary64
  | int n => .ofInt n.toInt
  | float x => x

/-- The sum; of two integers, modulo `2 ^ 32`. -/
def add : Value → Value → Value
  | int m, int n => int (m + n)
  | a, b => float (a.toBinary64.add b.toBinary64)

/-- The difference; of two integers, modulo `2 ^ 32`. -/
def sub : Value → Value → Value
  | int m, int n => int (m - n)
  | a, b => float (a.toBinary64.sub b.toBinary64)

/-- The order of two integers, or the total order of both values as binary64 numbers. -/
def compare : Value → Value → Ordering
  | int m, int n => Ord.compare m.toInt n.toInt
  | a, b => a.toBinary64.totalCompare b.toBinary64

/-- Values show ties rounded up, at least four places positionally, and no plus sign. -/
def floatStyle : Decimal.FloatStyle := ⟨.up, -4, .bare⟩

/-- The text of a binary64 number; a NaN shows no sign. -/
def floatText (x : Binary64) : String :=
  if x.isNaN then "NaN"
  else if x.isInfinite then if x.isNegative then "-inf" else "inf"
  else (Decimal.Numeral.ofBinary64 floatStyle x).text

/-- The text of a value. -/
def text : Value → String
  | int n => String.ofList (Decimal.integerDigits n.toInt)
  | float x => floatText x

end Value

end RegisterMachine
