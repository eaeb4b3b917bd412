import RegisterMachine.Listing
import RegisterMachine.Log
import RegisterMachine.Machine.Run

/-!
# What the machine reports

The records of a run: each instruction as it is fetched, the state after it, and a summary before
and after.
-/

namespace RegisterMachine.Machine

open Log

/-- The part of the program that reports runs. -/
def logTarget : String := "aqa_vm::runtime::machine"

/-- The record of an instruction that is fetched from a slot. -/
def fetchRecord (counter : Counter) (i : Instruction) : Record :=
  ⟨.trace, logTarget, listingLine counter.toNat i⟩

/-- The record of counter, flag and steps. -/
def stateRecord (m : Machine) : Record :=
  ⟨.trace, logTarget,
    "pc: " ++ String.ofList (Decimal.digits m.counter.toNat) ++ "\tflag: " ++ m.flag.text ++
      "\tsteps: " ++ String.ofList (Decimal.digits m.steps)⟩

/-- The record of the registers. -/
def registerRecord (m : Machine) : Record :=
  ⟨.trace, logTarget, RegisterTable.text m.registers.toList⟩

/-- The records of a cycle; there are none if it takes no step. -/
def cycleRecords (p : Program) (m : Machine) : List Record :=
  match p.fetch m.counter, m.overLimit? with
  | some i, none =>
    let after := m.execute i
    [fetchRecord m.counter i, after.stateRecord, after.registerRecord]
  | _, _ => []

/-- The records of at most the given number of cycles of a run. -/
def cycleRecordsWithin : Nat → Program → Machine → List Record
  | 0, _, _ => []
  | n + 1, p, m =>
    match m.cycle p with
    | (.ok true, m') => m.cycleRecords p ++ cycleRecordsWithin n p m'
    | _ => m.cycleRecords p

/-- The summary before a run. -/
def startRecord (p : Program) : Record :=
  ⟨.debug, logTarget, "running program of " ++ String.ofList (Decimal.digits p.size) ++ " slots"⟩

/-- The summary after a run that halted. -/
def haltRecord (s : Summary) : Record :=
  ⟨.debug, logTarget, "halted after " ++ String.ofList (Decimal.digits s.steps) ++ " steps"⟩

/-- The summary after a run, if it halted. -/
def haltRecords : Option (Except StepLimitExceeded Summary) → List Record
  | some (.ok s) => [haltRecord s]
  | _ => []

/-- The records of a run. -/
def allRecords (p : Program) (m : Machine) : List Record :=
  startRecord p :: (cycleRecordsWithin m.horizon p m ++ haltRecords (m.run p))

/-- The records of a run that pass the threshold. The cycles, all of level `trace`, are followed
only if theirs do; no record is more severe than `debug`. -/
def records (threshold : Level) (p : Program) (m : Machine) : List Record :=
  if Level.trace.passes threshold then allRecords p m
  else if Level.debug.passes threshold then startRecord p :: haltRecords (m.run p)
  else []

end RegisterMachine.Machine
