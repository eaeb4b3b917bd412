import RegisterMachine.Assembler.Basic
import RegisterMachine.Listing
import RegisterMachine.Log

/-!
# What the assembler reports

The records of the pass over a source: each label as it is declared, each instruction with its
address, each operand of a wrong class, and a summary before and after.
-/

namespace RegisterMachine

open Log

/-- The part of the program that reports type checks. -/
def checkerTarget : String := "aqa_asm::checker"

/-- The part of the program that reports the pass. -/
def assemblerTarget : String := "aqa_asm::assembler"

/-- The record of an operand that does not fit its position. -/
def misfitRecord (line : SourceLine) (op : Opcode) (operands : List Operand) (index : Nat) :
    Record :=
  ⟨.trace, checkerTarget,
    "line " ++ String.ofList (Decimal.digits line.number) ++ ": " ++ op.mnemonic ++ " arg " ++
      String.ofList (Decimal.digits index) ++ " is " ++
      (Opcode.actualAt operands index).flagText ++ ", expected " ++
      (op.expectedAt index).flagText⟩

/-- The record of a label that points to a slot. -/
def labelRecord (name : String) (index : Nat) : Record :=
  ⟨.trace, assemblerTarget, "label " ++ name ++ " -> " ++ String.ofList (Decimal.digits index)⟩

/-- The record of an instruction that takes a slot. -/
def slotRecord (index : Nat) (i : Instruction) : Record :=
  ⟨.trace, assemblerTarget, listingLine index i⟩

namespace Assembler

/-- The records of an operation: its operands at fault, or its instruction. -/
def operationRecords (a : Assembler) (line : SourceLine) (op : Opcode)
    (operands : List Operand) : List Record :=
  match op.misfits operands, op.build? operands with
  | [], some i => [slotRecord a.nextIndex i]
  | [], none => []
  | misfits, _ => misfits.map (misfitRecord line op operands)

/-- The records of a line. -/
def lineRecords (a : Assembler) (line : SourceLine) : List Record :=
  match Statement.ofLine line.text with
  | .ok (some (.label name)) =>
    if a.labels.contains name then [] else [labelRecord name a.nextIndex]
  | .ok (some (.operation op operands)) => a.operationRecords line op operands
  | _ => []

/-- The records of several lines, one after the other. -/
def passRecords (a : Assembler) : List SourceLine → List Record
  | [] => []
  | line :: lines => a.lineRecords line ++ (a.visit line).passRecords lines

/-- The summary before the pass. -/
def startRecord (source : List String) : Record :=
  ⟨.debug, assemblerTarget,
    "assembler: first pass over " ++
      String.ofList (Decimal.digits (Source.numbered source).length) ++ " lines"⟩

/-- The summary after the pass. -/
def passedRecord (a : Assembler) : Record :=
  ⟨.debug, assemblerTarget,
    "assembler: " ++ String.ofList (Decimal.digits a.slots.size) ++ " slots, " ++
      String.ofList (Decimal.digits a.labels.size) ++ " labels, " ++
      String.ofList (Decimal.digits a.jumps.length) ++ " branches"⟩

/-- The summary of a rejection. -/
def rejectionRecord (r : Rejection) : Record :=
  ⟨.debug, assemblerTarget,
    "assembler: rejected with " ++ String.ofList (Decimal.digits r.diagnostics.length) ++
      " diagnostics"⟩

/-- The records of assembling a source. -/
def allRecords (a : Assembler) (source : List String) : List Record :=
  let after := (a.assemble source).2
  let rejection := match after.result with
    | .ok _ => []
    | .error r => [rejectionRecord r]
  startRecord source :: (a.reset.passRecords (Source.numbered source) ++
    passedRecord after :: rejection)

/-- The records of assembling a source that pass the threshold; none are more severe than
`debug`. -/
def records (a : Assembler) (threshold : Level) (source : List String) : List Record :=
  if Level.debug.passes threshold then select threshold (a.allRecords source) else []

end Assembler

end RegisterMachine
