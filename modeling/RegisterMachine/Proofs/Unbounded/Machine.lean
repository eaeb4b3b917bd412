import RegisterMachine.Machine.Basic

/-!
# The machine with unbounded integers

The machine again, but with integers of any size in its registers and literals, whose sums and
differences are exact. Everything else is as in the machine with 32-bit integers.
-/

namespace RegisterMachine.Unbounded

/-- A register's content. -/
inductive Value
  | int (n : Int)
  | float (x : Binary64)
  deriving DecidableEq, Repr

namespace Value

/-- The integer zero, which every register holds at first. -/
def zero : Value := int 0

/-- The value that a literal of a program stands for. -/
def ofLiteral : RegisterMachine.Value → Value
  | .int n => int n.toInt
  | .float x => float x

/-- The value as a binary64 number. -/
def toBinary64 : Value → Binary64
  | int n => .ofInt n
  | float x => x

/-- The sum. -/
def add : Value → Value → Value
  | int m, int n => int (m + n)
  | a, b => float (a.toBinary64.add b.toBinary64)

/-- The difference. -/
def sub : Value → Value → Value
  | int m, int n => int (m - n)
  | a, b => float (a.toBinary64.sub b.toBinary64)

/-- The order of two integers, or the total order of both values as binary64 numbers. -/
def compare : Value → Value → Ordering
  | int m, int n => Ord.compare m n
  | a, b => a.toBinary64.totalCompare b.toBinary64

end Value

/-- The state of a machine, with the content of each register. -/
structure Machine where
  counter : Counter
  flag : Flag
  registers : Register → Value
  steps : Nat
  limit : Option Nat

namespace Machine

/-- A machine before its first step, at slot 1. -/
def fresh : Machine := ⟨.slot 1, .null, fun _ ↦ .zero, 0, none⟩

/-- The value of an operand. -/
def read (m : Machine) : Operand → Value
  | .register r => m.registers r
  | .literal v => .ofLiteral v

/-- The machine with another content of a register. -/
def write (m : Machine) (r : Register) (v : Value) : Machine :=
  { m with registers := fun s ↦ if r = s then v else m.registers s }

/-- The effect of an instruction, and whether the counter still has to move on. -/
def apply (m : Machine) : Instruction → Flow × Machine
  | .nop => (.advance, m)
  | .add dst lhs rhs => (.advance, m.write dst ((m.read lhs).add (m.read rhs)))
  | .sub dst lhs rhs => (.advance, m.write dst ((m.read lhs).sub (m.read rhs)))
  | .cmp lhs rhs =>
    (.advance, { m with flag := .ofOrdering ((m.read lhs).compare (m.read rhs)) })
  | .mov dst src => (.advance, m.write dst (m.read src))
  | .halt => (.jumped, { m with counter := .stopped })
  | .branch condition target =>
    if condition.holds m.flag then (.jumped, { m with counter := .slot target })
    else (.advance, m)

/-- One step: the effect of the instruction, the counter moved on unless it jumped. -/
def execute (m : Machine) (i : Instruction) : Machine :=
  match m.apply i with
  | (.advance, m') => { m' with counter := m'.counter.next, steps := m'.steps + 1 }
  | (.jumped, m') => { m' with steps := m'.steps + 1 }

/-- Whether the counter is outside the program. -/
def isHalted (p : Program) (m : Machine) : Bool := (p.fetch m.counter).isNone

/-- The failure that a further step would be, if the steps are used up. -/
def overLimit? (m : Machine) : Option StepLimitExceeded :=
  match m.limit with
  | some limit => if limit ≤ m.steps then some ⟨limit, m.counter.toNat⟩ else none
  | none => none

/-- One cycle, and whether the program goes on after it. -/
def cycle (p : Program) (m : Machine) : Except StepLimitExceeded Bool × Machine :=
  match p.fetch m.counter with
  | none => (.ok false, m)
  | some i =>
    match m.overLimit? with
    | some failure => (.error failure, m)
    | none =>
      let after := m.execute i
      (.ok !after.isHalted p, after)

/-- The machine after a number of cycles. -/
def cycles (p : Program) : Nat → Machine → Machine
  | 0, m => m
  | n + 1, m => cycles p n (m.cycle p).2

end Machine

end RegisterMachine.Unbounded
