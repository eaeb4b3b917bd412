import RegisterMachine.Machine.Basic

/-!
# Runs

A run repeats cycles until the program ends or the step limit is exceeded. A machine with a limit
always ends. One without a limit is followed for `2 ^ 64` cycles, more than its counter of steps
can hold; a run that has not ended by then has no outcome.
-/

namespace RegisterMachine.Machine

/-- The outcome of at most the given number of cycles, if the run ends within them. -/
def runWithin : Nat → Program → Machine → Option (Except StepLimitExceeded Summary)
  | 0, _, _ => none
  | n + 1, p, m =>
    match m.cycle p with
    | (.error failure, _) => some (.error failure)
    | (.ok true, m') => runWithin n p m'
    | (.ok false, m') => some (.ok m'.summary)

/-- Enough cycles to end any run with a limit: its steps, and one more to find it exceeded. -/
def horizon (m : Machine) : Nat :=
  match m.limit with
  | some limit => limit - m.steps + 1
  | none => UInt64.size

/-- The outcome of a run. -/
def run (p : Program) (m : Machine) : Option (Except StepLimitExceeded Summary) :=
  runWithin m.horizon p m

end RegisterMachine.Machine
