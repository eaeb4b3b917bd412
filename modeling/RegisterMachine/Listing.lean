import RegisterMachine.Program

/-!
# Listings

The listing of a program, a line for each slot, and the table of registers, four to a row.
-/

namespace RegisterMachine

/-- An address, of at least four digits. -/
def addressText (address : Nat) : String :=
  String.ofList (List.leftpad 4 '0' (Decimal.digits address))

/-- The line for an instruction at an address. -/
def listingLine (address : Nat) (i : Instruction) : String :=
  addressText address ++ ": " ++ i.text

namespace Program

/-- The listing: every slot's line, each ended by a newline. -/
def listing (p : Program) : String :=
  String.join (p.instructions.zipIdx.map fun (i, address) ↦ listingLine address i ++ "\n")

end Program

namespace RegisterTable

/-- The text of a register's content; a binary64 number is marked. -/
def valueText : Value → String
  | .int n => (Value.int n).text
  | .float x => (Value.float x).text ++ "f"

/-- The cell of a register: its number in two places, its content in eleven. -/
def cell (v : Value) (index : Nat) : String :=
  "R" ++ String.ofList (List.rightpad 2 ' ' (Decimal.digits index)) ++ " = " ++
    String.ofList (List.leftpad 11 ' ' (valueText v).toList)

/-- A list cut into rows of four; the last row may be shorter. -/
def rows {α : Type} : List α → List (List α)
  | [] => []
  | a :: b :: c :: d :: rest => [a, b, c, d] :: rows rest
  | short => [short]

/-- The table of the given contents, from `R0` on: cells two blanks apart, rows on lines of their
own. -/
def text (values : List Value) : String :=
  "\n".intercalate ((rows (values.zipIdx.map fun (v, i) ↦ cell v i)).map ("  ".intercalate ·))

end RegisterTable

end RegisterMachine
