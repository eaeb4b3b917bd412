import RegisterMachine.Binary64.Rounding
import RegisterMachine.Decimal.Whole

/-!
# Written numbers

A numeral is a number as it is written: digits, perhaps a fraction, perhaps an exponent. Two
texts of one number are two numerals.
-/

namespace RegisterMachine.Decimal

/-- How the sign of an exponent is written. -/
inductive ExponentSign
  | bare
  | plus
  | minus
  deriving DecidableEq, Repr

/-- The exponent of a numeral. -/
structure Exponent where
  sign : ExponentSign
  digits : List Char
  deriving DecidableEq, Repr

/-- A written number; without digits in the fraction, no point is written. -/
structure Numeral where
  negative : Bool
  whole : List Char
  fraction : List Char
  exponent : Option Exponent
  deriving DecidableEq, Repr

namespace ExponentSign

/-- The text of the sign. -/
def chars : ExponentSign → List Char
  | bare => []
  | plus => ['+']
  | minus => ['-']

end ExponentSign

namespace Exponent

/-- The text of the exponent. -/
def chars (e : Exponent) : List Char := 'e' :: (e.sign.chars ++ e.digits)

end Exponent

namespace Numeral

/-- The numeral of an integer. -/
def ofInt (i : Int) : Numeral := ⟨i < 0, Decimal.digits i.natAbs, [], none⟩

/-- The text of the numeral. -/
def chars (n : Numeral) : List Char :=
  (if n.negative then ['-'] else []) ++ n.whole ++
    (if n.fraction.isEmpty then [] else '.' :: n.fraction) ++
    (n.exponent.map Exponent.chars).getD []

/-- The text of the numeral. -/
def text (n : Numeral) : String := String.ofList n.chars

/-- The numeral of an integer is the integer as it is written. -/
theorem chars_ofInt (i : Int) : (ofInt i).chars = integerDigits i := by
  by_cases h : i < 0 <;> simp [chars, ofInt, integerDigits, h]

end Numeral

end RegisterMachine.Decimal
