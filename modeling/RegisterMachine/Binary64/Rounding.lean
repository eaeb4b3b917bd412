import RegisterMachine.Binary64.Basic

/-!
# Rounding and arithmetic

Every operation gives the binary64 number nearest to the exact result, and of two equally near
ones the one with the even significand. The exact result is a quotient of whole numbers, so one
function rounds for all of them.
-/

namespace RegisterMachine.Binary64

/-- The whole number nearest to `num / den`, the even one of two equally near. -/
def nearest (num den : Nat) : Nat :=
  let floor := num / den
  let double := 2 * (num % den)
  if den < double ∨ (den = double ∧ floor % 2 = 1) then floor + 1 else floor

/-- The magnitude nearest to `num / den`. With `e` the excess of its whole units over 53 binary
digits, the significand counts steps of `2 ^ e` units; a significand that rounds up to `2 ^ 53`
carries into the exponent field by itself, and one beyond the largest finite number is infinite. -/
def roundMagnitude (num den : Nat) : Nat :=
  let scaledNum := num <<< 1074
  let e := (scaledNum / den).log2 - 52
  min (e * Nat.pow 2 52 + nearest scaledNum (den <<< e)) infinityMagnitude

/-- The number nearest to `num / den`, with the given sign. -/
def ofRatio (negative : Bool) (num den : Nat) : Binary64 :=
  ofMagnitude negative (roundMagnitude num den)

/-- The number nearest to a whole number. -/
def ofInt (i : Int) : Binary64 := ofRatio (i < 0) i.natAbs 1

/-- The number nearest to a whole number of units. -/
def ofScaled (i : Int) : Binary64 := ofRatio (i < 0) i.natAbs (1 <<< 1074)

/-- The sum. A NaN, or infinities of both signs, give a NaN; an exact sum of zero is negative only
if both summands are.

The format leaves the sign of a NaN that arithmetic gives open, and processors differ: some give a
negative one, or that of an operand. The choice here is the positive NaN without payload, whatever
the operands are. The total order shows the choice, as this NaN comes after all numbers in it and a
negative one would come before them; a NaN as text does not. -/
def add (x y : Binary64) : Binary64 :=
  if x.isNaN || y.isNaN then nan false
  else if x.isInfinite then
    if y.isInfinite && x.isNegative != y.isNegative then nan false else x
  else if y.isInfinite then y
  else if x.scaled + y.scaled = 0 then ofMagnitude (x.isNegative && y.isNegative) 0
  else ofScaled (x.scaled + y.scaled)

/-- The difference: the sum with the second number's sign changed. A NaN is positive here too, as
for `add`. -/
def sub (x y : Binary64) : Binary64 := add x y.neg

/-- The product of two finite numbers. -/
def mul (x y : Binary64) : Binary64 :=
  ofRatio (x.isNegative != y.isNegative) (x.units * y.units) (1 <<< 2148)

/-- The quotient of two finite numbers, the second of which is not zero. -/
def div (x y : Binary64) : Binary64 :=
  ofRatio (x.isNegative != y.isNegative) x.units y.units

end RegisterMachine.Binary64
