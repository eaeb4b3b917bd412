import RegisterMachine.Diagnostic
import RegisterMachine.Decimal.Reading
import RegisterMachine.Token.Basic

/-!
# Statements

A line with tokens is one statement: a label, a branch or an operation with its operands. An
operand token stands for a register or a literal.
-/

namespace RegisterMachine

/-- What a line says. -/
inductive Statement
  | label (name : String)
  | branch (condition : Condition) (target : String)
  | operation (opcode : Opcode) (operands : List Operand)
  deriving DecidableEq, Repr

namespace Operand

/-- The 32-bit integer that a text stands for. -/
def int32? (cs : List Char) : Option Int32 :=
  (Decimal.integer? cs).bind fun i ↦
    if -Int.pow 2 31 ≤ i ∧ i < Int.pow 2 31 then some (Int32.ofInt i) else none

/-- The finite binary64 number that a text stands for. -/
def finite? (cs : List Char) : Option Binary64 := (Decimal.binary64? cs).filter Binary64.isFinite

/-- The literal of a text after its hash and one plus sign. A point makes it a binary64 number. -/
def literal? : List Char → Option Value
  | '#' :: cs =>
    let body := if cs.head? = some '+' then cs.tail else cs
    if '.' ∈ body then (finite? body).map .float else (int32? body).map .int
  | _ => none

/-- The register that a number stands for. -/
def register? (cs : List Char) : Option Register :=
  (Decimal.unsigned? cs).bind fun n ↦ (Register.ofIndex n).toOption

/-- The operand that a token stands for. -/
def ofToken (t : Token) : Except Fault Operand :=
  match t.kind, t.literal.toList with
  | .literal, cs =>
    match literal? cs with
    | some v => .ok (.literal v)
    | none => .error (.malformedOperand t.literal)
  | .word, 'R' :: cs =>
    match register? cs with
    | some r => .ok (.register r)
    | none => .error (.invalidRegister t.literal)
  | _, _ => .error (.malformedOperand t.literal)

/-- The operands of all tokens, or the fault of the first that is none; the tokens after the one
at fault are left over. -/
def ofTokens : List Token → Except Fault (List Operand) × List Token
  | [] => (.ok [], [])
  | t :: ts =>
    match ofToken t with
    | .error fault => (.error fault, ts)
    | .ok operand =>
      match ofTokens ts with
      | (.error fault, rest) => (.error fault, rest)
      | (.ok operands, rest) => (.ok (operand :: operands), rest)

end Operand

end RegisterMachine
