import RegisterMachine.Listing
import RegisterMachine.Machine.Basic

/-!
# The state of a machine in words

The flag, the content of a register and the table of all sixteen, written out. The texts that are
printed of a state are these (`Flag.text_eq`, `RegisterTable.text_eq`).
-/

namespace RegisterMachine

/-! ### Numbers -/

theorem Decimal.ofList_digits (n : Nat) : String.ofList (digits n) = toString n := rfl

theorem Decimal.ofList_integerDigits (i : Int) : String.ofList (integerDigits i) = toString i := by
  cases i with
  | ofNat n => rfl
  | negSucc n =>
    rw [integerDigits, if_pos (Int.negSucc_lt_zero n), Int.natAbs_negSucc, ← String.toList_inj]
    simp [toString, Int.repr, digits]

/-! ### Flags -/

/-- The flag as a word. -/
def Flag.word : Flag → String
  | .eq => "Eq"
  | .ne => "Ne"
  | .lt => "Lt"
  | .gt => "Gt"
  | .null => "Null"

theorem Flag.text_eq (flag : Flag) : flag.text = flag.word := by cases flag <;> rfl

/-! ### Contents -/

/-- The content of a register as the table shows it: an integer in decimal, a binary64 number with
an `f` behind it. The digits of finite ones are positional from `0.0001` on, below `10 ^ 16`. -/
def Value.shown : Value → String
  | .int n => toString n.toInt
  | .float x =>
    if x.isFinite then (Decimal.Numeral.ofBinary64 ⟨.up, -4, .bare⟩ x).text ++ "f"
    else if x.isNaN then "NaNf"
    else if x.isNegative then "-inff"
    else "inff"

theorem RegisterTable.valueText_eq (v : Value) : valueText v = v.shown := by
  cases v with
  | int n => exact Decimal.ofList_integerDigits n.toInt
  | float x =>
    simp only [valueText, Value.text, Value.floatText, Value.shown, Binary64.isFinite_iff]
    cases x.isNaN with
    | true => rfl
    | false =>
      cases x.isInfinite with
      | true => cases x.isNegative <;> rfl
      | false => rfl

/-! ### The table -/

/-- So many blanks. -/
def blanks (count : Nat) : String := String.ofList (List.replicate count ' ')

/-- The cell of a register: `R` and its number in two places, at the left, then its content in
eleven places, at the right. A longer content is not cut. -/
def Register.cell (r : Register) (content : String) : String :=
  "R" ++ toString r.val ++ blanks (2 - (toString r.val).length) ++ " = " ++
    blanks (11 - content.length) ++ content

/-- The table of the registers: cells two blanks apart, four to a line. -/
def Registers.table (registers : Registers) : String :=
  let cells := List.ofFn fun r : Register ↦ r.cell (registers.get r).shown
  let line (row : Nat) := "  ".intercalate ((cells.drop (4 * row)).take 4)
  line 0 ++ "\n" ++ line 1 ++ "\n" ++ line 2 ++ "\n" ++ line 3

namespace RegisterTable

theorem cell_eq (v : Value) (r : Register) : cell v r.val = r.cell v.shown := by
  have number : String.ofList (List.rightpad 2 ' ' (Decimal.digits r.val)) =
      toString r.val ++ blanks (2 - (toString r.val).length) := by
    rw [← Decimal.ofList_digits, blanks, ← String.ofList_append, String.length_ofList]
    rfl
  have content : String.ofList (List.leftpad 11 ' ' (valueText v).toList) =
      blanks (11 - v.shown.length) ++ v.shown := by
    rw [valueText_eq, List.leftpad, String.ofList_append, String.ofList_toList, blanks,
      String.length_toList]
  rw [cell, number, content, Register.cell]
  simp only [String.append_assoc]

theorem text_eq_intercalate (values : List Value) :
    text values = "\n".intercalate ((rows (values.zipIdx.map fun entry ↦ cell entry.1 entry.2)).map
      ("  ".intercalate ·)) := rfl

/-- The table that is printed of the registers is theirs. -/
theorem text_eq (registers : Registers) : text registers.toList = registers.table := by
  have contents : registers.toList = List.ofFn registers.get := by
    rw [← Vector.toList_ofFn]
    exact congrArg Vector.toList Vector.ofFn_getElem.symm
  have numbered (f : Register → Value) :
      (List.ofFn f).zipIdx.map (fun entry ↦ cell entry.1 entry.2) =
        List.ofFn fun r : Register ↦ cell (f r) r.val := rfl
  have fours (f : Register → String) : rows (List.ofFn f) =
      [(List.ofFn f).take 4, ((List.ofFn f).drop 4).take 4, ((List.ofFn f).drop 8).take 4,
        ((List.ofFn f).drop 12).take 4] := rfl
  rw [text_eq_intercalate, contents, numbered, fours]
  simp only [List.map_cons, List.map_nil, String.intercalate_cons_cons,
    String.intercalate_singleton, cell_eq, Registers.table, String.append_assoc]
  rfl

end RegisterTable

end RegisterMachine
