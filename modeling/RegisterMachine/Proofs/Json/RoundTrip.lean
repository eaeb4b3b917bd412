import RegisterMachine.Proofs.Json.Texts

/-!
# Written documents read back

Both layouts of a document have the same parts, with other blanks between them, so that each is a
text of the document.
-/

namespace RegisterMachine.Json

/-- A document that can be written: it has no hole, its keys and strings are Unicode text, and its
numbers are ones that a text can have. -/
inductive Printable : Json → Prop
  | null : Printable null
  | bool (b : Bool) : Printable (bool b)
  | number {n : Decimal.Numeral} (valid : IsNumber n) : Printable (number n)
  | text (s : String) : Printable (text s)
  | array {items : List Json} (values : ∀ j ∈ items, Printable j) : Printable (array items)
  | object {entries : List (Option String × Json)} (keys : ∀ e ∈ entries, e.1.isSome = true)
      (values : ∀ e ∈ entries, Printable e.2) : Printable (object entries)

/-- The items of an array read back if each of them does. -/
theorem readsMembers_items {write : Json → List Char} {before after : List Char}
    (left : Blanks before) (right : Blanks after) {item : Json} {items : List Json}
    (h : ∀ j ∈ item :: items, Reads (write j) j) :
    ReadsMembers readItems ']'
      (before ++ write item ++ (items.flatMap fun j ↦ ',' :: (before ++ write j)) ++ after ++ [']'])
      (item :: items) :=
  readsMembers_flatMap (fun j ↦ before ++ write j)
    (fun j member ↦ readsMembers_item_last left right (h j member))
    fun j member _ _ more ↦ readsMembers_item_more left (h j member) more

/-- An entry of an object as it is written. -/
def entryChars (pad : List Char) (write : Json → List Char) (e : Option String × Json) :
    List Char :=
  quoted e.1 ++ ':' :: (pad ++ write e.2)

/-- The entries of an object read back if each of their documents does. -/
theorem readsMembers_entries {write : Json → List Char} {before pad after : List Char}
    (left : Blanks before) (middle : Blanks pad) (right : Blanks after)
    {entry : Option String × Json} {entries : List (Option String × Json)}
    (keys : ∀ e ∈ entry :: entries, e.1.isSome = true)
    (h : ∀ e ∈ entry :: entries, Reads (write e.2) e.2) :
    ReadsMembers readEntries '\x7d'
      (before ++ entryChars pad write entry ++
        (entries.flatMap fun e ↦ ',' :: (before ++ entryChars pad write e)) ++ after ++ ['\x7d'])
      (entry :: entries) := by
  apply readsMembers_flatMap fun e ↦ before ++ entryChars pad write e
  · rintro ⟨key, j⟩ member
    obtain ⟨key, rfl⟩ := Option.isSome_iff_exists.mp (keys _ member)
    have last := readsMembers_entry_last key left middle right (h _ member)
    simpa [entryChars, quoted] using last
  · rintro ⟨key, j⟩ member cs es more
    obtain ⟨key, rfl⟩ := Option.isSome_iff_exists.mp (keys _ member)
    have more := readsMembers_entry_more key left middle (h _ member) more
    simpa [entryChars, quoted] using more

theorem compactItems_eq_flatMap (items : List Json) :
    compactItems items = items.flatMap fun j ↦ ',' :: compact j := by
  induction items with
  | nil => rfl
  | cons item items ih => simp [compactItems, ih]

theorem compactEntries_eq_flatMap (entries : List (Option String × Json)) :
    compactEntries entries = entries.flatMap fun e ↦ ',' :: entryChars [] compact e := by
  induction entries with
  | nil => rfl
  | cons entry entries ih => simp [compactEntries, entryChars, ih]

theorem prettyItems_eq_flatMap (level : Nat) (items : List Json) :
    prettyItems level items = items.flatMap fun j ↦ ',' :: (newLine level ++ prettyAt level j) := by
  induction items with
  | nil => rfl
  | cons item items ih => simp [prettyItems, ih]

theorem prettyEntries_eq_flatMap (level : Nat) (entries : List (Option String × Json)) :
    prettyEntries level entries =
      entries.flatMap fun e ↦ ',' :: (newLine level ++ entryChars [' '] (prettyAt level) e) := by
  induction entries with
  | nil => rfl
  | cons entry entries ih => simp [prettyEntries, entryChars, ih]

namespace Printable

/-- A document that is written without blanks reads back. -/
theorem reads_compact {j : Json} (h : Printable j) : Reads j.compact j := by
  induction h with
  | null => exact reads_null
  | bool b => cases b with
    | true => exact reads_true
    | false => exact reads_false
  | number valid => exact reads_number valid
  | text s => exact reads_quote s
  | @array items _ ih => cases items with
    | nil => exact reads_array_nil
    | cons item items =>
      have all := reads_array (readsMembers_items blanks_nil blanks_nil ih)
      simpa [compact, compactItems_eq_flatMap] using all
  | @object entries keys _ ih => cases entries with
    | nil => exact reads_object_nil
    | cons entry entries =>
      have all := reads_object (readsMembers_entries blanks_nil blanks_nil blanks_nil keys ih)
      simpa [compact, compactEntries_eq_flatMap, entryChars] using all

/-- A document that is written over several lines reads back. -/
theorem reads_prettyAt {j : Json} (h : Printable j) (level : Nat) : Reads (j.prettyAt level) j := by
  induction h generalizing level with
  | null => exact reads_null
  | bool b => cases b with
    | true => exact reads_true
    | false => exact reads_false
  | number valid => exact reads_number valid
  | text s => exact reads_quote s
  | @array items _ ih => cases items with
    | nil => exact reads_array_nil
    | cons item items =>
      have all := reads_array (readsMembers_items (blanks_newLine (level + 1))
        (blanks_newLine level) fun j member ↦ ih j member (level + 1))
      simpa [prettyAt, prettyItems_eq_flatMap] using all
  | @object entries keys _ ih => cases entries with
    | nil => exact reads_object_nil
    | cons entry entries =>
      have all := reads_object (readsMembers_entries (blanks_newLine (level + 1)) blanks_space
        (blanks_newLine level) keys fun e member ↦ ih e member (level + 1))
      simpa [prettyAt, prettyEntries_eq_flatMap, entryChars] using all

theorem read_compactText {j : Json} (h : Printable j) : read j.compactText = (j, []) :=
  h.reads_compact.read_eq

theorem read_prettyText {j : Json} (h : Printable j) : read j.prettyText = (j, []) :=
  (h.reads_prettyAt 0).read_eq

end Printable

/-! ### Built documents -/

theorem printable_integer (i : Int) : Printable (integer i) := .number (isNumber_ofInt i)

theorem printable_fields {entries : List (String × Json)}
    (values : ∀ e ∈ entries, Printable e.2) : Printable (fields entries) := by
  refine .object ?_ ?_ <;> intro e h <;> obtain ⟨e, member, rfl⟩ := List.mem_map.mp h
  · rfl
  · exact values e member

theorem printable_tagged {tag : String} {content : Json} (h : Printable content) :
    Printable (tagged tag content) := printable_fields (by simpa using h)

end RegisterMachine.Json
