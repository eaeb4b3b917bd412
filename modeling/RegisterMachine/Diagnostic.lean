import RegisterMachine.Opcode
import RegisterMachine.Source

/-!
# Diagnostics

What can be wrong with a source, and how it is told: the fault of one line, the line, and the
list of all that stands in the way of a program.
-/

namespace RegisterMachine

/-- What is wrong with a line. -/
inductive Fault
  | malformedOperand (text : String)
  | invalidRegister (text : String)
  | unknownOpcode (text : String)
  /-- An operand of a class that its position does not take, both described. -/
  | invalidArgument (index : Nat) (actual : String) (opcode : Opcode) (expected : String)
  /-- Operands of the right classes that make no instruction. -/
  | operandShape (opcode : Opcode)
  | malformedBranch (reason : String)
  | trailingTokens (text : String)
  | duplicateLabel (name : String) (firstLine : Nat)
  | unresolvedLabel (name : String)
  deriving DecidableEq, Repr

namespace Fault

/-- The name of the kind of fault. -/
def name : Fault → String
  | malformedOperand _ => "MalformedOperand"
  | invalidRegister _ => "InvalidRegister"
  | unknownOpcode _ => "UnknownOpcode"
  | invalidArgument .. => "InvalidArgument"
  | operandShape _ => "OperandShape"
  | malformedBranch _ => "MalformedBranch"
  | trailingTokens _ => "TrailingTokens"
  | duplicateLabel .. => "DuplicateLabel"
  | unresolvedLabel _ => "UnresolvedLabel"

/-- The stage of assembly that the fault belongs to. -/
def category : Fault → String
  | invalidArgument .. | operandShape _ => "InvalidArgument"
  | duplicateLabel .. | unresolvedLabel _ => "Link"
  | _ => "Syntax"

/-- What is said of the fault. -/
def message : Fault → String
  | malformedOperand text => "malformed operand '" ++ text ++ "'"
  | invalidRegister text => "invalid register '" ++ text ++ "', expected R0-R15"
  | unknownOpcode text => "unknown opcode '" ++ text ++ "'"
  | invalidArgument index actual opcode expected =>
    "ARG [" ++ String.ofList (Decimal.digits index) ++ "] was " ++ actual ++ " but " ++
      opcode.mnemonic ++ " takes " ++ expected
  | operandShape opcode => "operands do not form a " ++ opcode.mnemonic ++ " instruction"
  | malformedBranch reason => "malformed branch: " ++ reason
  | trailingTokens text => "unexpected '" ++ text ++ "' after label"
  | duplicateLabel name firstLine =>
    "label '" ++ name ++ "' already declared at line " ++
      String.ofList (Decimal.digits firstLine)
  | unresolvedLabel name => "undefined label '" ++ name ++ "'"

end Fault

/-- A fault and the line it was found on. -/
structure Diagnostic where
  line : SourceLine
  fault : Fault
  deriving DecidableEq, Repr

namespace Diagnostic

/-- The diagnostic in full: its category and line, then what is said of the fault. -/
def text (d : Diagnostic) : String :=
  d.fault.category ++ " Error found at line " ++ String.ofList (Decimal.digits d.line.number) ++
    ": " ++ d.line.text ++ "\n" ++ d.fault.message

end Diagnostic

/-- The source was rejected, for reasons given in the order of the lines. -/
structure Rejection where
  diagnostics : List Diagnostic
  deriving DecidableEq, Repr

namespace Rejection

/-- What is said of a rejected source. -/
def message (r : Rejection) : String :=
  "assembly failed with " ++ String.ofList (Decimal.digits r.diagnostics.length) ++ " error(s)"

end Rejection

end RegisterMachine
