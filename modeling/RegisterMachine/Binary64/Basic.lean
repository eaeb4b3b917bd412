/-!
# Binary64 numbers

The numbers of the IEEE 754 format binary64, kept by their bits, so that zeros of both signs and
all NaNs are told apart. A finite number is a whole number of units of `2 ^ -1074`, its smallest
positive member; `units` and `scaled` give it exactly.
-/

namespace RegisterMachine

/-- A binary64 number by its bits: the sign, eleven bits of exponent, 52 bits of fraction. -/
structure Binary64 where
  bits : UInt64
  deriving DecidableEq, Repr

namespace Binary64

/-- The magnitude of the infinities; larger ones are NaNs. -/
def infinityMagnitude : Nat := 0x7FF0000000000000

/-- Whether the sign bit is set. -/
def isNegative (x : Binary64) : Bool := Nat.pow 2 63 ≤ x.bits.toNat

/-- The bits without the sign, as a number. -/
def magnitude (x : Binary64) : Nat := x.bits.toNat % Nat.pow 2 63

/-- The number with the given sign and remaining bits. -/
def ofMagnitude (negative : Bool) (magnitude : Nat) : Binary64 :=
  ⟨UInt64.ofNat (if negative then Nat.pow 2 63 + magnitude else magnitude)⟩

/-- The positive and the negative infinity. -/
def infinity (negative : Bool) : Binary64 := ofMagnitude negative infinityMagnitude

/-- The quiet NaN without payload. -/
def nan (negative : Bool) : Binary64 := ofMagnitude negative 0x7FF8000000000000

/-- Whether the number is neither an infinity nor a NaN. -/
def isFinite (x : Binary64) : Bool := x.magnitude < infinityMagnitude

/-- Whether the number is an infinity. -/
def isInfinite (x : Binary64) : Bool := x.magnitude == infinityMagnitude

/-- Whether the number is a NaN. -/
def isNaN (x : Binary64) : Bool := infinityMagnitude < x.magnitude

/-- What is neither a NaN nor an infinity is finite. -/
theorem isFinite_iff {x : Binary64} :
    x.isFinite = true ↔ x.isNaN = false ∧ x.isInfinite = false := by
  simp only [isFinite, isNaN, isInfinite, decide_eq_true_eq, decide_eq_false_iff_not,
    beq_eq_false_iff_ne]
  omega

/-- The number with the other sign. -/
def neg (x : Binary64) : Binary64 := ofMagnitude (!x.isNegative) x.magnitude

/-- The exponent field. -/
def exponentField (x : Binary64) : Nat := x.magnitude / Nat.pow 2 52

/-- The fraction field. -/
def fractionField (x : Binary64) : Nat := x.magnitude % Nat.pow 2 52

/-- The distance from the number to the next larger magnitude is `2 ^ x.spacing` units. -/
def spacing (x : Binary64) : Nat := x.exponentField - 1

/-- The whole number that, times `2 ^ x.spacing` units, is the absolute value. -/
def significand (x : Binary64) : Nat :=
  if x.exponentField = 0 then x.fractionField else Nat.pow 2 52 + x.fractionField

/-- The absolute value of a finite number, in units of `2 ^ -1074`. -/
def units (x : Binary64) : Nat := x.significand * Nat.pow 2 x.spacing

/-- A finite number in units of `2 ^ -1074`; both zeros give zero. -/
def scaled (x : Binary64) : Int := if x.isNegative then -x.units else x.units

/-- The place in the total order: ascending magnitudes above zero, descending ones below. -/
def orderKey (x : Binary64) : Int :=
  if x.isNegative then -x.magnitude - 1 else x.magnitude

/-- The total order of all binary64 numbers: negative NaNs, negative numbers with `-0.0` last,
positive numbers with `0.0` first, positive NaNs. -/
def totalCompare (x y : Binary64) : Ordering := compare x.orderKey y.orderKey

/-- The sign and the magnitude determine a number. -/
theorem ext_magnitude {x y : Binary64} (sign : x.isNegative = y.isNegative)
    (size : x.magnitude = y.magnitude) : x = y := by
  cases x with | mk a => cases y with | mk b =>
  simp only [isNegative, magnitude, Nat.pow_eq] at sign size
  have ha := a.toNat_lt
  have hb := b.toNat_lt
  congr
  apply UInt64.toNat_inj.mp
  simp only [decide_eq_decide] at sign
  omega

end Binary64

end RegisterMachine
