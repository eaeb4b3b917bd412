import RegisterMachine.Program

/-!
# The machine

Sixteen registers, the flag of the last comparison, a program counter and a count of steps. A
cycle fetches the instruction at the counter, applies it, and moves on unless the instruction
moved the counter itself. The machine has halted once the counter is outside the program.
-/

namespace RegisterMachine

/-- The program counter: at a slot, or stopped by an instruction to halt. -/
inductive Counter
  | slot (i : Nat)
  | stopped
  deriving DecidableEq, Repr

namespace Counter

/-- The counter as a number; stopped is the largest 64-bit word. -/
def toNat : Counter → Nat
  | slot i => i
  | stopped => UInt64.size - 1

/-- The counter of the following slot. -/
def next : Counter → Counter
  | slot i => slot (i + 1)
  | stopped => stopped

end Counter

/-- What the last comparison found; no comparison gives `ne`, which only answers to the branch
condition of that name. -/
inductive Flag
  | eq
  | ne
  | lt
  | gt
  | null
  deriving DecidableEq, Repr

namespace Flag

/-- The flag for the outcome of a comparison. -/
def ofOrdering : Ordering → Flag
  | .lt => lt
  | .eq => eq
  | .gt => gt

/-- The name of the flag. -/
def text : Flag → String
  | eq => "Eq"
  | ne => "Ne"
  | lt => "Lt"
  | gt => "Gt"
  | null => "Null"

end Flag

/-- Whether a branch with the condition is taken under the flag. -/
def Condition.holds : Condition → Flag → Bool
  | always, _ => true
  | eq, flag => flag == .eq
  | ne, flag => flag != .eq
  | lt, flag => flag == .lt
  | gt, flag => flag == .gt

/-- The sixteen registers. -/
abbrev Registers := Vector Value 16

/-- The state of a machine; without a limit it takes any number of steps. -/
structure Machine where
  counter : Counter
  flag : Flag
  registers : Registers
  steps : Nat
  limit : Option Nat
  deriving DecidableEq, Repr

/-- Whether an applied instruction left the counter to move on. -/
inductive Flow
  | advance
  | jumped
  deriving DecidableEq, Repr

/-- The steps are used up and the program goes on at a slot. -/
structure StepLimitExceeded where
  limit : Nat
  slot : Nat
  deriving DecidableEq, Repr

namespace StepLimitExceeded

/-- What is said of an exceeded step limit. -/
def message (e : StepLimitExceeded) : String :=
  "step limit of " ++ String.ofList (Decimal.digits e.limit) ++ " exceeded at pc " ++
    String.ofList (Decimal.digits e.slot)

end StepLimitExceeded

/-- What remains of a run that halted. -/
structure Summary where
  steps : Nat
  flag : Flag
  registers : Registers
  deriving DecidableEq, Repr

/-- The instruction at the counter, if it is inside the program. -/
def Program.fetch (p : Program) : Counter → Option Instruction
  | .slot i => p.get? i
  | .stopped => none

namespace Machine

/-- A machine before its first step, at slot 1. -/
def fresh : Machine := ⟨.slot 1, .null, Vector.replicate 16 Value.zero, 0, none⟩

/-- The machine with a step limit. -/
def withLimit (m : Machine) (limit : Nat) : Machine := { m with limit := some limit }

/-- The value of an operand. -/
def read (m : Machine) : Operand → Value
  | .register r => m.registers.get r
  | .literal v => v

/-- The machine with another content of a register. -/
def write (m : Machine) (r : Register) (v : Value) : Machine :=
  { m with registers := m.registers.set r v r.isLt }

/-- The effect of an instruction, and whether the counter still has to move on. -/
def apply (m : Machine) : Instruction → Flow × Machine
  | .nop => (.advance, m)
  | .add dst lhs rhs => (.advance, m.write dst ((m.read lhs).add (m.read rhs)))
  | .sub dst lhs rhs => (.advance, m.write dst ((m.read lhs).sub (m.read rhs)))
  | .cmp lhs rhs =>
    (.advance, { m with flag := .ofOrdering ((m.read lhs).compare (m.read rhs)) })
  | .mov dst src => (.advance, m.write dst (m.read src))
  | .halt => (.jumped, { m with counter := .stopped })
  | .branch condition target =>
    if condition.holds m.flag then (.jumped, { m with counter := .slot target })
    else (.advance, m)

/-- One step: the effect of the instruction, the counter moved on unless it jumped. -/
def execute (m : Machine) (i : Instruction) : Machine :=
  match m.apply i with
  | (.advance, m') => { m' with counter := m'.counter.next, steps := m'.steps + 1 }
  | (.jumped, m') => { m' with steps := m'.steps + 1 }

/-- Whether the counter is outside the program. -/
def isHalted (p : Program) (m : Machine) : Bool := (p.fetch m.counter).isNone

/-- The failure that a further step would be, if the steps are used up. -/
def overLimit? (m : Machine) : Option StepLimitExceeded :=
  match m.limit with
  | some limit => if limit ≤ m.steps then some ⟨limit, m.counter.toNat⟩ else none
  | none => none

/-- One cycle, and whether the program goes on after it. A halted machine stays as it is even
when its steps are used up, and so does one that may take no further step. -/
def cycle (p : Program) (m : Machine) : Except StepLimitExceeded Bool × Machine :=
  match p.fetch m.counter with
  | none => (.ok false, m)
  | some i =>
    match m.overLimit? with
    | some failure => (.error failure, m)
    | none =>
      let after := m.execute i
      (.ok !after.isHalted p, after)

/-- The machine after a number of cycles, whatever they answer. -/
def cycles (p : Program) : Nat → Machine → Machine
  | 0, m => m
  | n + 1, m => cycles p n (m.cycle p).2

/-- What remains of the machine once it has halted. -/
def summary (m : Machine) : Summary := ⟨m.steps, m.flag, m.registers⟩

end Machine

end RegisterMachine
