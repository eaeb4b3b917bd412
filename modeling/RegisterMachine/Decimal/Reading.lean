import RegisterMachine.Binary64.Rounding
import RegisterMachine.Decimal.Whole

/-!
# Reading binary64 numbers

A decimal text is read as the binary64 number nearest to its exact value. Digits may stand on
either side of the point, an exponent may follow, and infinities and NaNs are spelled out.
-/

namespace RegisterMachine

/-- The exact value `± significand * 10 ^ exponent` of a decimal text. -/
structure Decimal where
  negative : Bool
  significand : Nat
  exponent : Int
  deriving DecidableEq, Repr

namespace Decimal

/-- The nearest binary64 number. Exponents above 400 are infinite and values that stay below
`2 ^ -1075` are zero, so no greater power of ten is ever computed. -/
def toBinary64 (d : Decimal) : Binary64 :=
  if d.significand = 0 then .ofMagnitude d.negative 0
  else if 0 ≤ d.exponent then
    if 400 < d.exponent then .infinity d.negative
    else .ofRatio d.negative (d.significand * Nat.pow 10 d.exponent.toNat) 1
  else if (d.significand.log2 : Int) + 1100 < -3 * d.exponent then .ofMagnitude d.negative 0
  else .ofRatio d.negative d.significand (Nat.pow 10 (-d.exponent).toNat)

/-- The value of an exponent: nothing, or a signed integer after `e` or `E`. -/
def exponent? : List Char → Option Int
  | [] => some 0
  | c :: cs => if c = 'e' ∨ c = 'E' then integer? cs else none

/-- The value of a text of digits, perhaps with a point among them and with an exponent. -/
def unsignedDecimal? (negative : Bool) (cs : List Char) : Option Decimal :=
  let whole := cs.takeWhile Char.isDigit
  let afterWhole := cs.dropWhile Char.isDigit
  let (fraction, rest) := match afterWhole with
    | '.' :: r => (r.takeWhile Char.isDigit, r.dropWhile Char.isDigit)
    | _ => ([], afterWhole)
  if whole.isEmpty && fraction.isEmpty then none
  else (exponent? rest).map fun e ↦
    ⟨negative, Nat.ofDigitChars 10 (whole ++ fraction) 0, e - fraction.length⟩

/-- The binary64 number that an unsigned text stands for. -/
def unsignedBinary64? (negative : Bool) (cs : List Char) : Option Binary64 :=
  match unsignedDecimal? negative cs with
  | some d => some d.toBinary64
  | none =>
    let word := String.ofList (cs.map Char.toLower)
    if word = "inf" ∨ word = "infinity" then some (.infinity negative)
    else if word = "nan" then some (.nan negative)
    else none

/-- The binary64 number that a text stands for, with or without a sign. -/
def binary64? : List Char → Option Binary64
  | '+' :: cs => unsignedBinary64? false cs
  | '-' :: cs => unsignedBinary64? true cs
  | cs => unsignedBinary64? false cs

end Decimal

end RegisterMachine
