/-!
# Log records

What the assembler and the machine report while they work: a level, the part that reports, and a
message. A reader chooses a threshold and sees the records of at least that severity.
-/

namespace RegisterMachine.Log

/-- The severity of a record, the most severe first. -/
inductive Level
  | error
  | info
  | debug
  | trace
  deriving DecidableEq, Repr

namespace Level

/-- The rank of a level, lower for the more severe. -/
def rank : Level → Nat
  | error => 0
  | info => 1
  | debug => 2
  | trace => 3

/-- The name of a level. -/
def name : Level → String
  | error => "ERROR"
  | info => "INFO"
  | debug => "DEBUG"
  | trace => "TRACE"

/-- Whether records of the level pass the threshold. -/
def passes (level threshold : Level) : Bool := level.rank ≤ threshold.rank

end Level

/-- A record; the target names the part of the program that reports. -/
structure Record where
  level : Level
  target : String
  message : String
  deriving DecidableEq, Repr

/-- The records that pass the threshold. -/
def select (threshold : Level) (records : List Record) : List Record :=
  records.filter fun r ↦ r.level.passes threshold

end RegisterMachine.Log
