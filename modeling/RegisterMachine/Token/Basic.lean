import RegisterMachine.Text.Alphanumeric

/-!
# Tokens

The words of a source line: names, labels with their colon, literals after a hash, and single
characters that are nothing else.
-/

namespace RegisterMachine

/-- What a token is. -/
inductive TokenKind
  /-- The word `B`. -/
  | branch
  /-- A name that a colon follows. -/
  | label
  /-- Any other name. -/
  | word
  /-- A hash and a number, or what stands in the place of one. -/
  | literal
  /-- A character that starts no token. -/
  | unknown
  deriving DecidableEq, Repr

/-- A token with its text, a label without its colon. -/
structure Token where
  kind : TokenKind
  literal : String
  deriving DecidableEq, Repr

namespace Token

open RegisterMachine.Text

/-- The characters of names. -/
def isNameChar (c : Char) : Bool := isAlphanumeric c || c == '_'

/-- The characters between tokens. -/
def isSeparator (c : Char) : Bool := c == ',' || isSpace c

/-- The token of a name without a colon. -/
def ofName (name : List Char) : Token :=
  ⟨if name = ['B'] then .branch else .word, String.ofList name⟩

end Token

end RegisterMachine
