import RegisterMachine.Instruction

/-!
# Operand classes

Every operand has one class, and a position of an instruction admits a set of classes. A set has
a description that names its largest groups first.
-/

namespace RegisterMachine

/-- The class of an operand. -/
inductive OperandClass
  | register
  | positiveInteger
  | negativeInteger
  | float
  deriving DecidableEq, Repr

/-- A set of operand classes, a bit for each; further bits have no meaning but are kept. -/
structure ClassSet where
  bits : UInt8
  deriving DecidableEq, Repr

namespace ClassSet

/-- The set of no class, for a position that takes no operand. -/
def none : ClassSet := ⟨0⟩

/-- The set of registers. -/
def register : ClassSet := ⟨1⟩

/-- The set of integers from zero on. -/
def positiveInteger : ClassSet := ⟨2⟩

/-- The set of integers below zero. -/
def negativeInteger : ClassSet := ⟨4⟩

/-- The set of binary64 numbers. -/
def float : ClassSet := ⟨8⟩

/-- The classes of either set. -/
def union (a b : ClassSet) : ClassSet := ⟨a.bits ||| b.bits⟩

/-- The classes of both sets. -/
def inter (a b : ClassSet) : ClassSet := ⟨a.bits &&& b.bits⟩

/-- The classes of the first set that are not in the second. -/
def diff (a b : ClassSet) : ClassSet := ⟨a.bits &&& ~~~b.bits⟩

/-- Whether all classes of the second set are in the first. -/
def includes (a b : ClassSet) : Bool := a.inter b == b

/-- The set of integers. -/
def integer : ClassSet := positiveInteger.union negativeInteger

/-- The set of literals. -/
def numeric : ClassSet := integer.union float

/-- The set of all operands. -/
def any : ClassSet := register.union numeric

/-- The groups with a name, larger ones first. -/
def groups : List (ClassSet × String) :=
  [(any, "ANY"), (register, "REGISTER"), (numeric, "NUMERIC"), (integer, "INT"),
    (positiveInteger, "POSITIVE INTEGER"), (negativeInteger, "NEGATIVE INTEGER"),
    (float, "FLOAT")]

/-- The names of the groups that cover the set, each group taken out before the next is tried. -/
def cover : ClassSet → List (ClassSet × String) → List String
  | _, [] => []
  | set, (group, name) :: more =>
    if set.includes group then name :: cover (set.diff group) more else cover set more

/-- The description of a set of classes. -/
def describe (set : ClassSet) : String :=
  if set = none then "NONE" else " OR ".intercalate (set.cover groups)

/-- The classes with the names of their bits. -/
def flags : List (ClassSet × String) :=
  [(register, "REGISTER"), (positiveInteger, "POSITIVE_INT"), (negativeInteger, "NEGATIVE_INT"),
    (float, "FLOAT")]

/-- The text of a set of known classes, by the names of its bits. -/
def flagText (set : ClassSet) : String :=
  let names := (flags.filter fun flag ↦ set.includes flag.1).map (·.2)
  "ClassSet(" ++ (if names.isEmpty then "0x0" else " | ".intercalate names) ++ ")"

end ClassSet

namespace OperandClass

/-- The class of an operand. -/
def of : Operand → OperandClass
  | .register _ => register
  | .literal (.int n) => if 0 ≤ n.toInt then positiveInteger else negativeInteger
  | .literal (.float _) => float

/-- The set of one class. -/
def set : OperandClass → ClassSet
  | register => .register
  | positiveInteger => .positiveInteger
  | negativeInteger => .negativeInteger
  | float => .float

/-- The name of a class. -/
def name : OperandClass → String
  | register => "Register"
  | positiveInteger => "PositiveInteger"
  | negativeInteger => "NegativeInteger"
  | float => "Float"

end OperandClass

end RegisterMachine
