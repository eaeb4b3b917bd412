import RegisterMachine.Statement.Basic
import RegisterMachine.Token.Lexer

/-!
# From tokens to statements

A statement takes all tokens of its line. Where it fails, the tokens up to the one at fault are
taken and the rest are left over, so that reading can go on behind a fault.
-/

namespace RegisterMachine.Statement

/-- The statement, if no token is left; else the fault of the first one. -/
def atEnd (s : Statement) (fault : Token → Fault) :
    List Token → Except Fault (Option Statement) × List Token
  | [] => (.ok (some s), [])
  | extra :: rest => (.error (fault extra), rest)

/-- The fault of a token that follows a complete branch. -/
def extraAfterBranch (extra : Token) : Fault :=
  .malformedBranch ("unexpected '" ++ extra.literal ++ "'")

/-- The fault of a token where a branch names its target. -/
def notALabel (t : Token) : Fault := .malformedBranch ("'" ++ t.literal ++ "' is not a label")

/-- The branch to the target that the token names. -/
def parseTarget (condition : Condition) (target : Token) (rest : List Token) :
    Except Fault (Option Statement) × List Token :=
  if target.kind = .word then atEnd (.branch condition target.literal) extraAfterBranch rest
  else (.error (notALabel target), rest)

/-- The statement after the word `B`: a target, or a condition and a target. The word for a
condition with nothing after it is a target. -/
def parseBranch : List Token → Except Fault (Option Statement) × List Token
  | [] => (.error (.malformedBranch "missing target label"), [])
  | first :: rest =>
    if first.kind = .word then
      match Condition.ofMnemonic? first.literal, rest with
      | some condition, target :: rest => parseTarget condition target rest
      | _, rest => parseTarget .always first rest
    else (.error (notALabel first), rest)

/-- The statement of an operation: its word, then its operands. -/
def parseOperation (word : Token) (rest : List Token) :
    Except Fault (Option Statement) × List Token :=
  match if word.kind = .word then Opcode.ofMnemonic? word.literal else none with
  | none => (.error (.unknownOpcode word.literal), rest)
  | some opcode =>
    match Operand.ofTokens rest with
    | (.error fault, rest) => (.error fault, rest)
    | (.ok operands, rest) => (.ok (some (.operation opcode operands)), rest)

/-- The statement of a line's tokens, if there are any, and the tokens left over. -/
def parse : List Token → Except Fault (Option Statement) × List Token
  | [] => (.ok none, [])
  | t :: ts =>
    match t.kind with
    | .label => atEnd (.label t.literal) (fun extra ↦ .trailingTokens extra.literal) ts
    | .branch => parseBranch ts
    | _ => parseOperation t ts

/-- The statement of a line, if it has tokens. -/
def ofLine (line : String) : Except Fault (Option Statement) := (parse (Token.ofLine line)).1

end RegisterMachine.Statement
