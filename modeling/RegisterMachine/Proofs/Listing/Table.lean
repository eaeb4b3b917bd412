import RegisterMachine.Proofs.Listing.Lines
import RegisterMachine.Proofs.Listing.Registers
import RegisterMachine.Proofs.Text.Columns

/-!
# The table of registers

A cell is 17 characters wide as long as its content has no more than eleven. Then all cells stand
in columns, four to a line (`RegisterTable.isGrid_text`). The longest integer has exactly eleven
characters, so a table of integers is such a grid, and tells them
(`RegisterTable.isGrid_text_integers`).
-/

namespace RegisterMachine

open Text (IsOneLine IsLeftAligned IsRightAligned isOneLine_append isOneLine_cons
  isOneLine_intercalate isOneLine_replicate)

/-! ### Integers in decimal -/

namespace Decimal

theorem length_digits_le_two {n : Nat} (h : n < 100) : (digits n).length ≤ 2 :=
  (Nat.length_toDigits_le_iff (by decide) (by decide)).mpr h

/-- The least integer of 32 bits has ten digits and a sign, and no other is longer. -/
theorem length_integerDigits_le (n : Int32) : (integerDigits n.toInt).length ≤ 11 := by
  have lower := n.le_toInt
  have upper := n.toInt_lt
  have few : (digits n.toInt.natAbs).length ≤ 10 :=
    (Nat.length_toDigits_le_iff (by decide) (by decide)).mpr (by omega)
  rw [integerDigits]
  split
  · rw [List.length_cons]
    omega
  · omega

theorem blank_notMem_integerDigits (i : Int) : ' ' ∉ integerDigits i := by
  have noDigit : ' ' ∉ digits i.natAbs := fun blank ↦
    absurd (isDigit_of_mem_digits blank) (by decide)
  rw [integerDigits]
  split
  · rw [List.mem_cons, not_or]
    exact ⟨by decide, noDigit⟩
  · exact noDigit

/-- Different integers are written differently. -/
theorem integerDigits_injective {i j : Int} (h : integerDigits i = integerDigits j) : i = j := by
  have read := integer?_integerDigits i
  rw [h, integer?_integerDigits] at read
  exact (Option.some.inj read).symm

end Decimal

namespace RegisterTable

/-! ### Rows -/

section
variable {α β : Type} {l : List α}

/-- A list that is neither empty nor starts with four members has one, two or three. -/
theorem short_cases (nonempty : l = [] → False)
    (few : ∀ a b c d rest, l = a :: b :: c :: d :: rest → False) :
    (∃ a, l = [a]) ∨ (∃ a b, l = [a, b]) ∨ ∃ a b c, l = [a, b, c] := by
  rcases l with _ | ⟨a, _ | ⟨b, _ | ⟨c, _ | ⟨d, rest⟩⟩⟩⟩
  · exact (nonempty rfl).elim
  · exact .inl ⟨a, rfl⟩
  · exact .inr (.inl ⟨a, b, rfl⟩)
  · exact .inr (.inr ⟨a, b, c, rfl⟩)
  · exact (few a b c d rest rfl).elim

theorem length_short (nonempty : l = [] → False)
    (few : ∀ a b c d rest, l = a :: b :: c :: d :: rest → False) :
    0 < l.length ∧ l.length < 4 := by
  rcases short_cases nonempty few with ⟨a, rfl⟩ | ⟨a, b, rfl⟩ | ⟨a, b, c, rfl⟩ <;> simp

/-- Rows may be cut before their members are changed or after it. -/
theorem rows_map (f : α → β) (l : List α) : rows (l.map f) = (rows l).map (·.map f) := by
  fun_induction rows l with
  | case1 => rfl
  | case2 a b c d rest ih => simp only [List.map_cons, List.map_nil, rows, ih]
  | case3 short nonempty few =>
    rcases short_cases nonempty few with ⟨a, rfl⟩ | ⟨a, b, rfl⟩ | ⟨a, b, c, rfl⟩ <;> rfl

/-- Rows put together are the whole. -/
theorem flatten_rows (l : List α) : (rows l).flatten = l := by
  fun_induction rows l with
  | case1 => rfl
  | case2 a b c d rest ih =>
    rw [List.flatten_cons, ih]
    rfl
  | case3 short => exact List.flatten_singleton

theorem mem_of_mem_rows {row : List α} (hrow : row ∈ rows l) : ∀ a ∈ row, a ∈ l := by
  intro a ha
  rw [← flatten_rows l]
  exact List.mem_flatten_of_mem hrow ha

theorem length_rows (l : List α) : (rows l).length = (l.length + 3) / 4 := by
  fun_induction rows l with
  | case1 => simp
  | case2 a b c d rest ih =>
    simp only [List.length_cons, ih]
    omega
  | case3 short nonempty few =>
    have size := length_short nonempty few
    rw [List.length_singleton]
    omega

/-- Of a list that fills its rows, each row has four members. -/
theorem length_of_mem_rows (full : 4 ∣ l.length) : ∀ row ∈ rows l, row.length = 4 := by
  fun_induction rows l with
  | case1 => exact List.forall_mem_nil _
  | case2 a b c d rest ih =>
    refine List.forall_mem_cons.mpr ⟨rfl, ih ?_⟩
    simp only [List.length_cons] at full
    omega
  | case3 short nonempty few =>
    have size := length_short nonempty few
    omega

/-- The place of a member in the list tells its row and its place in the row. -/
theorem getElem?_rows (l : List α) (k : Nat) :
    (rows l)[k / 4]?.bind (fun row ↦ row[k % 4]?) = l[k]? := by
  fun_induction rows l generalizing k with
  | case1 => rfl
  | case2 a b c d rest ih =>
    -- The first four places are the first row, and behind it the rest counts from its own start.
    rcases k with _ | _ | _ | _ | k
    · rfl
    · rfl
    · rfl
    · rfl
    · rw [show k + 1 + 1 + 1 + 1 = k + 4 from rfl, Nat.add_div_right k (by decide),
        Nat.add_mod_right]
      exact ih k
  | case3 short nonempty few =>
    have size := length_short nonempty few
    by_cases inside : k < 4
    · rw [Nat.div_eq_of_lt inside, Nat.mod_eq_of_lt inside]
      rfl
    · have noMember : short[k]? = none := List.getElem?_eq_none (by omega)
      have noRow : [short][k / 4]? = none := List.getElem?_eq_none (by
        rw [List.length_singleton]
        omega)
      rw [noMember, noRow]
      rfl

end

/-! ### Cells -/

/-- A cell of the table: `R` and the register's number in three places, an equals sign between
blanks, and the content at the right end of the last eleven of 17 characters. -/
structure IsCell (number : Nat) (content cs : List Char) : Prop where
  length_eq : cs.length = 17
  name : IsLeftAligned ('R' :: Decimal.digits number) (cs.take 3)
  equals : (cs.drop 3).take 3 = [' ', '=', ' ']
  content : IsRightAligned content (cs.drop 6)

theorem toList_cell (v : Value) (number : Nat) :
    (cell v number).toList = 'R' :: List.rightpad 2 ' ' (Decimal.digits number) ++
      ([' ', '=', ' '] ++ List.leftpad 11 ' ' (valueText v).toList) := by
  simp [cell]

/-- A content of at most eleven characters has a cell of this form. -/
theorem isCell_cell {v : Value} {number : Nat} (small : number < 100)
    (fits : (valueText v).toList.length ≤ 11) :
    IsCell number (valueText v).toList (cell v number).toList := by
  have name : ('R' :: List.rightpad 2 ' ' (Decimal.digits number)).length = 3 := by
    rw [List.length_cons, List.length_rightpad,
      Nat.max_eq_left (Decimal.length_digits_le_two small)]
  have equals : [' ', '=', ' '].length = 3 := rfl
  have content : (List.leftpad 11 ' ' (valueText v).toList).length = 11 := by
    rw [List.length_leftpad, Nat.max_eq_left fits]
  rw [toList_cell]
  constructor
  · rw [List.length_append, List.length_append, name, equals, content]
  · rw [List.take_left' name]
    exact ⟨_, rfl⟩
  · rw [List.drop_left' name, List.take_left' equals]
  · rw [show 6 = 3 + 3 from rfl, ← List.drop_drop, List.drop_left' name, List.drop_left' equals]
    exact ⟨_, rfl⟩

/-- The least integer leaves no blank before it. -/
example : cell (.int (-2147483648)) 15 = "R15 = -2147483648" := by decide

theorem isOneLine_valueText (v : Value) : IsOneLine (valueText v).toList := by
  cases v with
  | int n => exact (Value.int n).isOneLine_text
  | float x =>
    rw [valueText, String.toList_append, isOneLine_append]
    exact ⟨(Value.float x).isOneLine_text, by decide⟩

theorem isOneLine_cell (v : Value) (number : Nat) : IsOneLine (cell v number).toList := by
  have blanks := isOneLine_replicate (c := ' ') (by decide)
  have equals : IsOneLine [' ', '=', ' '] := by decide
  rw [toList_cell, isOneLine_append, isOneLine_append, isOneLine_cons]
  refine ⟨⟨by decide, ?_⟩, equals, ?_⟩
  · exact isOneLine_append.mpr ⟨Decimal.isOneLine_digits number, blanks _⟩
  · exact isOneLine_append.mpr ⟨blanks _, isOneLine_valueText v⟩

/-- The cells of the contents, from `R0` on. -/
def cells (values : List Value) : List (List Char) :=
  values.zipIdx.map fun entry ↦ (cell entry.1 entry.2).toList

theorem length_cells (values : List Value) : (cells values).length = values.length := by
  rw [cells, List.length_map, List.length_zipIdx]

theorem getElem?_cells (values : List Value) (k : Nat) :
    (cells values)[k]? = values[k]?.map fun v ↦ (cell v k).toList := by
  rw [cells, List.getElem?_map, List.getElem?_zipIdx, Option.map_map, Nat.zero_add]
  rfl

theorem isOneLine_of_mem_cells {values : List Value} : ∀ cs ∈ cells values, IsOneLine cs := by
  intro cs hcs
  obtain ⟨entry, -, rfl⟩ := List.mem_map.mp hcs
  exact isOneLine_cell entry.1 entry.2

/-! ### Lines -/

/-- The lines of the table: the rows of its cells, two blanks between cells. -/
def lines (values : List Value) : List (List Char) :=
  (rows (cells values)).map ([' ', ' '].intercalate ·)

theorem toList_text (values : List Value) :
    (text values).toList = ['\n'].intercalate (lines values) := by
  have newline : "\n".toList = ['\n'] := by decide
  have blanks : "  ".toList = [' ', ' '] := by decide
  have characters : cells values =
      (values.zipIdx.map fun entry ↦ cell entry.1 entry.2).map String.toList := by
    rw [cells, List.map_map]
    rfl
  have joined (row : List String) :
      ("  ".intercalate row).toList = [' ', ' '].intercalate (row.map String.toList) := by
    rw [String.toList_intercalate, blanks]
  rw [text_eq_intercalate, lines, characters, rows_map String.toList, String.toList_intercalate, newline,
    List.map_map, List.map_map]
  exact congrArg _ (List.map_congr_left fun row _ ↦ joined row)

/-- The newlines of the table stand between its lines and nowhere else. -/
theorem splitOn_text {values : List Value} (nonempty : values ≠ []) :
    (text values).toList.splitOn '\n' = lines values := by
  rw [toList_text]
  apply List.splitOn_intercalate
  · intro line hline
    obtain ⟨row, hrow, rfl⟩ := List.mem_map.mp hline
    refine (isOneLine_intercalate (by decide) fun cs hcs ↦ ?_).newline_notMem
    exact isOneLine_of_mem_cells cs (mem_of_mem_rows hrow cs hcs)
  · intro none
    have count := congrArg List.length none
    have := List.length_pos_iff.mpr nonempty
    rw [lines, List.length_map, length_rows, length_cells, List.length_nil] at count
    omega

/-! ### The grid -/

/-- A table of sixteen registers in columns: four lines of 74 characters, and the cell of a register
starts 19 columns behind the one before it. -/
structure IsGrid (content : Register → List Char) (lines : List (List Char)) : Prop where
  height : lines.length = 4
  width : ∀ line ∈ lines, line.length = 74
  cell : ∀ r : Register, ∃ line, lines[r.val / 4]? = some line ∧
    IsCell r.val (content r) ((line.drop (19 * (r.val % 4))).take 17)

section
variable {values : List Value}

/-- At the place of a content stands its cell. -/
theorem exists_cell (few : values.length ≤ 100)
    (fits : ∀ v ∈ values, (valueText v).toList.length ≤ 11) {k : Nat} {v : Value}
    (held : values[k]? = some v) :
    ∃ cs, (cells values)[k]? = some cs ∧ IsCell k (valueText v).toList cs := by
  have inside := (List.getElem?_eq_some_iff.mp held).1
  refine ⟨(cell v k).toList, ?_, isCell_cell (by omega) (fits v (List.mem_of_getElem? held))⟩
  rw [getElem?_cells, held, Option.map_some]

theorem length_of_mem_cells (few : values.length ≤ 100)
    (fits : ∀ v ∈ values, (valueText v).toList.length ≤ 11) :
    ∀ cs ∈ cells values, cs.length = 17 := by
  intro cs hcs
  obtain ⟨k, stands⟩ := List.mem_iff_getElem?.mp hcs
  have inside := (List.getElem?_eq_some_iff.mp stands).1
  rw [length_cells] at inside
  obtain ⟨cs', stands', isCell⟩ := exists_cell few fits (List.getElem?_eq_getElem inside)
  obtain rfl : cs = cs' := Option.some.inj (stands.symm.trans stands')
  exact isCell.length_eq

end

/-- Registers whose contents have at most eleven characters each are shown as a grid. -/
theorem isGrid_text (registers : Registers)
    (fits : ∀ v ∈ registers.toList, (valueText v).toList.length ≤ 11) :
    IsGrid (fun r ↦ (valueText (registers.get r)).toList)
      ((text registers.toList).toList.splitOn '\n') := by
  have count : registers.toList.length = 16 := Vector.length_toList
  have widths {row : List (List Char)} (hrow : row ∈ rows (cells registers.toList)) :
      ∀ cs ∈ row, cs.length = 17 := fun cs hcs ↦
    length_of_mem_cells (by omega) fits cs (mem_of_mem_rows hrow cs hcs)
  rw [splitOn_text (List.length_pos_iff.mp (by omega)), lines]
  constructor
  · rw [List.length_map, length_rows, length_cells, count]
  · intro line hline
    obtain ⟨row, hrow, rfl⟩ := List.mem_map.mp hline
    have four : row.length = 4 :=
      length_of_mem_rows (by rw [length_cells, count]; decide) row hrow
    have shares := Text.length_intercalate_add_length [' ', ' '] (widths hrow)
      (List.length_pos_iff.mp (by omega))
    -- Four shares of 19 columns, without the gap behind the last cell.
    rw [four, show [' ', ' '].length = 2 from rfl] at shares
    omega
  · intro r
    have held : registers.toList[r.val]? = some (registers.get r) := by
      rw [Vector.getElem?_toList]
      exact Vector.getElem?_eq_getElem r.isLt
    obtain ⟨cs, stands, isCell⟩ := exists_cell (by omega) fits held
    rw [← getElem?_rows, Option.bind_eq_some_iff] at stands
    obtain ⟨row, hrow, place⟩ := stands
    refine ⟨[' ', ' '].intercalate row, by rw [List.getElem?_map, hrow, Option.map_some], ?_⟩
    have column : (([' ', ' '].intercalate row).drop (19 * (r.val % 4))).take 17 = cs :=
      Text.take_drop_intercalate [' ', ' '] (widths (List.mem_of_getElem? hrow)) place
    rwa [column]

/-- A grid tells a content that starts with no blank. -/
theorem IsGrid.content_eq {content content' : Register → List Char} {lines : List (List Char)}
    (h : IsGrid content lines) (h' : IsGrid content' lines) {r : Register}
    (starts : ∀ c ∈ (content r).head?, c ≠ ' ') (starts' : ∀ c ∈ (content' r).head?, c ≠ ' ') :
    content r = content' r := by
  obtain ⟨line, stands, isCell⟩ := h.cell r
  obtain ⟨line', stands', isCell'⟩ := h'.cell r
  obtain rfl : line = line' := Option.some.inj (stands.symm.trans stands')
  exact isCell.content.text_eq isCell'.content starts starts'

/-! ### Integers -/

/-- Sixteen integers are shown as a grid. -/
theorem isGrid_integers (ns : Vector Int32 16) :
    IsGrid (fun r ↦ Decimal.integerDigits (ns.get r).toInt)
      ((text (ns.map Value.int).toList).toList.splitOn '\n') := by
  have content (n : Int32) : (valueText (.int n)).toList = Decimal.integerDigits n.toInt := by
    rw [valueText, Value.text, String.toList_ofList]
  have fits : ∀ v ∈ (ns.map Value.int).toList, (valueText v).toList.length ≤ 11 := by
    intro v hv
    rw [Vector.toList_map] at hv
    obtain ⟨n, -, rfl⟩ := List.mem_map.mp hv
    rw [content]
    exact Decimal.length_integerDigits_le n
  have held (r : Register) : (ns.map Value.int).get r = .int (ns.get r) :=
    Vector.getElem_map Value.int r.isLt
  have grid := isGrid_text (ns.map Value.int) fits
  simp only [held, content] at grid
  exact grid

/-- A table of integers tells them. -/
theorem eq_of_text_eq {ms ns : Vector Int32 16}
    (h : text (ms.map Value.int).toList = text (ns.map Value.int).toList) : ms = ns := by
  have starts (i : Int) : ∀ c ∈ (Decimal.integerDigits i).head?, c ≠ ' ' := fun c hc same ↦
    Decimal.blank_notMem_integerDigits i (same ▸ List.mem_of_mem_head? hc)
  have grid := isGrid_integers ms
  rw [h] at grid
  refine Vector.ext fun k hk ↦ Int32.toInt_inj.mp (Decimal.integerDigits_injective ?_)
  exact grid.content_eq (isGrid_integers ns) (r := ⟨k, hk⟩) (starts _) (starts _)

/-- The table of sixteen integers is a grid, with the integers in decimal as the contents of its
cells, and no other integers have the same table. -/
theorem isGrid_text_integers (ns : Vector Int32 16) :
    IsGrid (fun r ↦ Decimal.integerDigits (ns.get r).toInt)
      ((text (ns.map Value.int).toList).toList.splitOn '\n') ∧
    ∀ ms : Vector Int32 16,
      text (ms.map Value.int).toList = text (ns.map Value.int).toList ↔ ms = ns :=
  ⟨isGrid_integers ns, fun _ ↦ ⟨eq_of_text_eq, fun same ↦ by rw [same]⟩⟩

end RegisterTable

end RegisterMachine
