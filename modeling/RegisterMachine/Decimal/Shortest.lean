import RegisterMachine.Decimal.Numeral

/-!
# The fewest digits that read back

A binary64 number is written with the fewest decimal digits that are nearer to it than to any
other binary64 number, and of two such digit strings with the nearer one. All comparisons are
exact, in quarters of the unit `2 ^ -1074`, multiplied by a power of ten where the digits end
behind the point.

A `FloatStyle` says how the digits are laid out.
-/

namespace RegisterMachine.Decimal

/-- The choice between two digit strings that are equally near. -/
inductive Tie
  | up
  | toEven
  deriving DecidableEq, Repr

/-- What a writer of binary64 numbers decides: which way a tie goes, the smallest power of ten
that is still written positionally, and whether a positive exponent has a plus sign. -/
structure FloatStyle where
  tie : Tie
  leastPositional : Int
  exponentSign : ExponentSign
  deriving DecidableEq, Repr

/-- Whole numbers of `10 ^ k` that read back as `x`: the one below, the one above, the nearer of
both, or none. -/
def onGrid? (tie : Tie) (x : Binary64) (k : Int) : Option Nat :=
  let lift := Nat.pow 10 (-k).toNat
  let value := 4 * x.units * lift
  let above := Nat.pow 2 (x.spacing + 1) * lift
  let below := if x.fractionField = 0 ∧ 1 < x.exponentField then above / 2 else above
  let grid := Nat.pow 10 k.toNat <<< 1076
  let inside (gap half : Nat) : Bool :=
    if x.significand % 2 = 0 then gap ≤ half else gap < half
  let floor := value / grid
  let down := value % grid
  let up := grid - down
  let floorReads := inside down below
  let nextReads := inside up above
  if floorReads && nextReads then
    some (if down < up ∨ (down = up ∧ tie = .toEven ∧ floor % 2 = 0) then floor else floor + 1)
  else if floorReads then some floor
  else if nextReads then some (floor + 1)
  else none

/-- A power of ten above the number: the binary logarithm, rounded up, times `log 2 / log 10`. -/
def powerAbove (x : Binary64) : Int := (((x.units.log2 : Int) - 1073) * 30103) / 100000 + 1

/-- The shortest decimal that reads back as a finite positive number: its digits and the power of
ten of the last digit. The coarsest grid with a decimal that reads back has the fewest digits. -/
def shortest (tie : Tie) (x : Binary64) : Nat × Int :=
  let top := powerAbove x
  ((List.range 20).findSome? fun i : Nat ↦
    let k := top - i
    (onGrid? tie x k).map fun digits ↦ (digits, k)).getD (0, 0)

namespace Numeral

/-- The numeral of digits whose last one stands for `10 ^ k`: positional, with at least one digit
on either side of the point, while the first digit stands for a power of ten from the style's
least one up to `10 ^ 15`; otherwise one digit, the others as its fraction, and an exponent. -/
def ofDigits (style : FloatStyle) (negative : Bool) (value : Nat) (k : Int) : Numeral :=
  let ds := Decimal.digits value
  let power : Int := k + ds.length - 1
  if style.leastPositional ≤ power ∧ power < 16 then
    if 0 ≤ k then ⟨negative, ds ++ List.replicate k.toNat '0', ['0'], none⟩
    else if 0 ≤ power then
      let point := (power + 1).toNat
      ⟨negative, ds.take point, ds.drop point, none⟩
    else ⟨negative, ['0'], List.replicate (-power - 1).toNat '0' ++ ds, none⟩
  else
    ⟨negative, ds.take 1, ds.drop 1,
      some ⟨if power < 0 then .minus else style.exponentSign, Decimal.digits power.natAbs⟩⟩

/-- The numeral of a finite number. -/
def ofBinary64 (style : FloatStyle) (x : Binary64) : Numeral :=
  if x.magnitude = 0 then ⟨x.isNegative, ['0'], ['0'], none⟩
  else
    let (value, k) := shortest style.tie x
    ofDigits style x.isNegative value k

end Numeral

end RegisterMachine.Decimal
