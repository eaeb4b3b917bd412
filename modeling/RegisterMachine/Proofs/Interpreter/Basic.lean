import RegisterMachine.Machine.Basic
import RegisterMachine.Proofs.Source.Statements

/-!
# Interpreting a source

A source can be run without a program. The interpreter goes from statement to statement: a label
costs nothing, and a branch that is taken continues behind the label that it names.
-/

namespace RegisterMachine

/-- An interpreter during a run, with the statements that are ahead of it. -/
structure Interpreter where
  ahead : List Statement
  flag : Flag
  registers : Registers
  steps : Nat
  deriving DecidableEq, Repr

namespace Interpreter

/-- How a run of the interpreter ends. -/
inductive Outcome
  | finished (s : Summary)
  /-- The steps are used up, and the run would go on with the first of the statements ahead. -/
  | outOfSteps (ahead : List Statement)
  /-- A statement has no meaning. -/
  | stuck
  deriving DecidableEq, Repr

/-- An interpreter before the first statement. -/
def start (source : List Statement) : Interpreter :=
  ⟨source, .null, Vector.replicate 16 Value.zero, 0⟩

/-- The statements behind a label. -/
def afterLabel? (source : List Statement) (name : String) : Option (List Statement) :=
  match source.dropWhile (· ≠ .label name) with
  | [] => none
  | _ :: after => some after

/-- A machine with the flag and the registers of the interpreter, after an instruction. -/
def effect (s : Interpreter) (i : Instruction) : Machine :=
  (({ Machine.fresh with flag := s.flag, registers := s.registers } : Machine).apply i).2

/-- The interpreter after it executed a statement and before the statements that follow. Halting
leaves nothing ahead. A label is not executed. -/
def execute? (source : List Statement) (s : Interpreter) (next : List Statement) :
    Statement → Option Interpreter
  | .label _ => none
  | .branch condition target =>
    if condition.holds s.flag then
      (afterLabel? source target).map fun after ↦
        { s with ahead := after, steps := s.steps + 1 }
    else some { s with ahead := next, steps := s.steps + 1 }
  | .operation op operands =>
    (op.build? operands).map fun i ↦
      { ahead := if op = .halt then [] else next
        flag := (s.effect i).flag
        registers := (s.effect i).registers
        steps := s.steps + 1 }

/-- The outcome of at most the given number of steps. Labels are passed first. -/
def run (source : List Statement) : Nat → Interpreter → Outcome
  | steps, s =>
    match s.ahead.dropWhile (!·.takesSlot) with
    | [] => .finished ⟨s.steps, s.flag, s.registers⟩
    | statement :: next =>
      match steps with
      | 0 => .outOfSteps (statement :: next)
      | steps + 1 =>
        match s.execute? source next statement with
        | some s' => run source steps s'
        | none => .stuck

variable {source next : List Statement} {statement : Statement} {s s' : Interpreter}

/-- A run with only labels ahead has finished. -/
theorem run_of_dropWhile_eq_nil (h : s.ahead.dropWhile (!·.takesSlot) = []) (steps : Nat) :
    run source steps s = .finished ⟨s.steps, s.flag, s.registers⟩ := by
  cases steps <;> simp only [run, h]

/-- A run without steps goes no further than the next statement that is not a label. -/
theorem run_zero_of_dropWhile_eq_cons
    (h : s.ahead.dropWhile (!·.takesSlot) = statement :: next) :
    run source 0 s = .outOfSteps (statement :: next) := by
  simp only [run, h]

/-- A run with steps executes that statement and goes on. -/
theorem run_succ_of_dropWhile_eq_cons
    (h : s.ahead.dropWhile (!·.takesSlot) = statement :: next)
    (executed : s.execute? source next statement = some s') (steps : Nat) :
    run source (steps + 1) s = run source steps s' := by
  rw [run, h]
  simp only [executed]

/-- The outcome of a source within a number of steps. -/
def interpret (source : List String) (steps : Nat) : Outcome :=
  run (Source.statements source) steps (start (Source.statements source))

end Interpreter

end RegisterMachine
