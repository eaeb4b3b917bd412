import RegisterMachine.Proofs.Json.Numerals
import RegisterMachine.Proofs.Json.Strings

/-!
# Texts of documents

When a text is read as a document wherever it stands, with one lemma for each kind of document and
any blanks between its parts.
-/

namespace RegisterMachine.Json

/-! ### Blanks -/

/-- Characters that may stand between the parts of a document. -/
def Blanks (ws : List Char) : Prop := ∀ c ∈ ws, isBlank c = true

theorem blanks_nil : Blanks [] := by simp [Blanks]

theorem blanks_space : Blanks [' '] := by simp [Blanks, isBlank]

theorem blanks_newLine (level : Nat) : Blanks (newLine level) := by
  intro c h
  simp only [newLine, List.mem_cons, List.mem_replicate] at h
  rcases h with rfl | ⟨-, rfl⟩ <;> decide

theorem skipBlanks_append {ws : List Char} (h : Blanks ws) (cs : List Char) :
    skipBlanks (ws ++ cs) = skipBlanks cs := List.dropWhile_append_of_pos h

theorem skipBlanks_cons {c : Char} (h : isBlank c = false) (cs : List Char) :
    skipBlanks (c :: cs) = c :: cs := by
  simp [skipBlanks, h]

theorem skipBlanks_skipBlanks (cs : List Char) : skipBlanks (skipBlanks cs) = skipBlanks cs := by
  induction cs with
  | nil => rfl
  | cons c cs ih => by_cases h : isBlank c = true <;> simp_all [skipBlanks]

/-- Blanks end a number. -/
theorem endsNumber_append {ws rest : List Char} (blank : Blanks ws) (ends : EndsNumber rest) :
    EndsNumber (ws ++ rest) := by
  cases ws with
  | nil => exact ends
  | cons c ws =>
    have : isBlank c = true := blank c List.mem_cons_self
    simp only [isBlank, Bool.or_eq_true, beq_iff_eq] at this
    refine endsNumber_cons ?_ (ws ++ rest)
    rcases this with ((rfl | rfl) | rfl) | rfl <;> decide

/-- Blanks before a document change nothing. -/
theorem readValue_congr {cs ds : List Char} (h : skipBlanks cs = skipBlanks ds) (n : Nat) :
    readValue n cs = readValue n ds := by
  cases n with
  | zero => rfl
  | succ n => simp only [readValue, h]

theorem readItems_congr {cs ds : List Char} (h : skipBlanks cs = skipBlanks ds) (n : Nat) :
    readItems n cs = readItems n ds := by
  cases n with
  | zero => rfl
  | succ n => simp only [readItems, readValue_congr h]

theorem readEntries_congr {cs ds : List Char} (h : skipBlanks cs = skipBlanks ds) (n : Nat) :
    readEntries n cs = readEntries n ds := by
  cases n with
  | zero => rfl
  | succ n => simp only [readEntries, h]

/-! ### Texts of one document -/

/-- The text is read as the document, before anything that does not continue a number. A depth of
two calls for each character suffices. -/
structure Reads (cs : List Char) (j : Json) : Prop where
  starts : ∃ c ∈ cs.head?, isBlank c = false ∧ c ≠ ']'
  reads : ∀ n rest, 2 * cs.length ≤ n + 1 → EndsNumber rest →
    readValue (n + 1) (cs ++ rest) = (j, rest)

/-- Blanks may stand before the text of a document. -/
theorem Reads.readValue_append {cs : List Char} {j : Json} (h : Reads cs j) {ws : List Char}
    (blank : Blanks ws) {n : Nat} (depth : 2 * cs.length ≤ n) {rest : List Char}
    (ends : EndsNumber rest) : readValue n (ws ++ (cs ++ rest)) = (j, rest) := by
  obtain ⟨c, first, -⟩ := h.starts
  have : 0 < cs.length := List.length_pos_of_mem (List.mem_of_head? first)
  obtain ⟨m, rfl⟩ := Nat.exists_eq_add_one.mpr (show 0 < n by omega)
  rw [readValue_congr (skipBlanks_append blank _), h.reads m rest depth ends]

theorem reads_null : Reads ['n', 'u', 'l', 'l'] null where
  starts := ⟨'n', rfl, by decide⟩
  reads n rest _ _ := by simp [readValue, skipBlanks, isBlank]

theorem reads_true : Reads ['t', 'r', 'u', 'e'] (bool true) where
  starts := ⟨'t', rfl, by decide⟩
  reads n rest _ _ := by simp [readValue, skipBlanks, isBlank]

theorem reads_false : Reads ['f', 'a', 'l', 's', 'e'] (bool false) where
  starts := ⟨'f', rfl, by decide⟩
  reads n rest _ _ := by simp [readValue, skipBlanks, isBlank]

theorem reads_quote (s : String) : Reads (quote s) (text s) where
  starts := ⟨'"', rfl, by decide⟩
  reads n rest _ _ := by
    simp (disch := decide) only [quote, List.cons_append, List.append_assoc, List.nil_append,
      readValue, skipBlanks_cons, readString_quote]

/-- A number starts with a minus sign or a digit. -/
theorem head_chars {n : Decimal.Numeral} (valid : IsNumber n) :
    ∃ c ∈ n.chars.head?, c = '-' ∨ c.isDigit = true := by
  obtain ⟨d, ds, e⟩ := List.exists_cons_of_ne_nil valid.whole_ne_nil
  have digit : d.isDigit = true := valid.whole_digits d (by simp [e])
  by_cases negative : n.negative = true
  · exact ⟨'-', by simp [Decimal.Numeral.chars, negative], .inl rfl⟩
  · exact ⟨d, by simp [Decimal.Numeral.chars, negative, e], .inr digit⟩

theorem isBlank_eq_false_of_starts {c : Char} (start : c = '-' ∨ c.isDigit = true) :
    isBlank c = false ∧ c ≠ ']' := by
  simp only [isBlank, Bool.or_eq_false_iff, beq_eq_false_iff_ne]
  refine ⟨⟨⟨⟨?_, ?_⟩, ?_⟩, ?_⟩, ?_⟩ <;> (intro e; subst e; simp at start)

/-- A text that starts like a number is read as a number. -/
theorem readValue_eq_readNumber {c : Char} (start : c = '-' ∨ c.isDigit = true) (n : Nat)
    (cs : List Char) : readValue (n + 1) (c :: cs) = readNumber (c :: cs) := by
  rw [readValue, skipBlanks_cons (isBlank_eq_false_of_starts start).1]
  split
  case h_7 => rfl
  all_goals next e => obtain ⟨rfl, -⟩ := List.cons.inj e; simp at start

theorem reads_number {n : Decimal.Numeral} (valid : IsNumber n) : Reads n.chars (number n) where
  starts := by
    obtain ⟨c, first, start⟩ := head_chars valid
    exact ⟨c, first, isBlank_eq_false_of_starts start⟩
  reads k rest _ ends := by
    obtain ⟨c, first, start⟩ := head_chars valid
    obtain ⟨tail, e⟩ := List.head?_eq_some_iff.mp first
    have number := number?_chars valid ends
    rw [e, List.cons_append] at number ⊢
    rw [readValue_eq_readNumber start, readNumber, number]

/-! ### Texts of many documents -/

/-- The text, which goes on to the closing character, is read as the members of a list. -/
structure ReadsMembers {α : Type} (read : Nat → List Char → List α × List Char) (close : Char)
    (cs : List Char) (members : List α) : Prop where
  starts : ∃ c ∈ (skipBlanks cs).head?, c ≠ close
  reads : ∀ n rest, 2 * cs.length ≤ n → read n (cs ++ rest) = (members, rest)

/-- Members are read one after the other, with a comma before each but the first. -/
theorem readsMembers_flatMap {α : Type} {read : Nat → List Char → List α × List Char}
    {close : Char} (write : α → List Char) {after : List Char} {a : α} {as : List α}
    (last : ∀ b ∈ a :: as, ReadsMembers read close (write b ++ after ++ [close]) [b])
    (more : ∀ b ∈ a :: as, ∀ cs bs, ReadsMembers read close cs bs →
      ReadsMembers read close (write b ++ ',' :: cs) (b :: bs)) :
    ReadsMembers read close
      (write a ++ (as.flatMap fun b ↦ ',' :: write b) ++ after ++ [close]) (a :: as) := by
  induction as generalizing a with
  | nil => simpa using last a (by simp)
  | cons b bs ih =>
    have tail := ih (fun c h ↦ last c (List.mem_cons_of_mem a h))
      fun c h ↦ more c (List.mem_cons_of_mem a h)
    simpa [List.append_assoc] using more a List.mem_cons_self _ _ tail

/-- The first character of a text that is no blank, if there is one, is the same with more text. -/
theorem exists_skipBlanks_append {cs : List Char} {c : Char} (h : c ∈ (skipBlanks cs).head?)
    (rest : List Char) : ∃ tail, skipBlanks (cs ++ rest) = c :: tail := by
  obtain ⟨tail, e⟩ := List.head?_eq_some_iff.mp h
  exact ⟨tail ++ rest, by
    rw [skipBlanks] at e
    simp [skipBlanks, List.dropWhile_append, e]⟩

theorem reads_array {cs : List Char} {items : List Json}
    (h : ReadsMembers readItems ']' cs items) : Reads ('[' :: cs) (array items) where
  starts := ⟨'[', rfl, by decide⟩
  reads n rest depth _ := by
    obtain ⟨c, first, other⟩ := h.starts
    obtain ⟨tail, e⟩ := exists_skipBlanks_append first rest
    have all : readItems n (c :: tail) = (items, rest) := by
      rw [← e, readItems_congr (skipBlanks_skipBlanks _)]
      exact h.reads n rest (by rw [List.length_cons] at depth; omega)
    rw [List.cons_append, readValue, skipBlanks_cons (by decide)]
    simp only [e]
    split
    · next e => exact absurd (List.cons.inj e).1 other
    · rw [all]

theorem reads_object {cs : List Char} {entries : List (Option String × Json)}
    (h : ReadsMembers readEntries '\x7d' cs entries) : Reads ('\x7b' :: cs) (object entries) where
  starts := ⟨'\x7b', rfl, by decide⟩
  reads n rest depth _ := by
    obtain ⟨c, first, other⟩ := h.starts
    obtain ⟨tail, e⟩ := exists_skipBlanks_append first rest
    have all : readEntries n (c :: tail) = (entries, rest) := by
      rw [← e, readEntries_congr (skipBlanks_skipBlanks _)]
      exact h.reads n rest (by rw [List.length_cons] at depth; omega)
    rw [List.cons_append, readValue, skipBlanks_cons (by decide)]
    simp only [e]
    split
    · next e => exact absurd (List.cons.inj e).1 other
    · rw [all]

theorem reads_array_nil : Reads ['[', ']'] (array []) where
  starts := ⟨'[', rfl, by decide⟩
  reads n rest _ _ := by simp [readValue, skipBlanks, isBlank]

theorem reads_object_nil : Reads ['\x7b', '\x7d'] (object []) where
  starts := ⟨'\x7b', rfl, by decide⟩
  reads n rest _ _ := by simp [readValue, skipBlanks, isBlank]

/-! ### Items and entries -/

/-- The text of a first item starts with no closing bracket. -/
theorem starts_item {before cs : List Char} {j : Json} (blank : Blanks before) (h : Reads cs j)
    (rest : List Char) : ∃ c ∈ (skipBlanks (before ++ (cs ++ rest))).head?, c ≠ ']' := by
  obtain ⟨c, first, solid, other⟩ := h.starts
  obtain ⟨tail, rfl⟩ := List.head?_eq_some_iff.mp first
  exact ⟨c, by rw [skipBlanks_append blank, List.cons_append, skipBlanks_cons solid]; rfl, other⟩

theorem readsMembers_item_last {before after cs : List Char} {j : Json} (left : Blanks before)
    (right : Blanks after) (h : Reads cs j) :
    ReadsMembers readItems ']' (before ++ cs ++ after ++ [']']) [j] where
  starts := by simpa [List.append_assoc] using starts_item left h (after ++ [']'])
  reads n rest depth := by
    simp only [List.length_append, List.length_cons, List.length_nil] at depth
    obtain ⟨m, rfl⟩ := Nat.exists_eq_add_one.mpr (show 0 < n by omega)
    have item := h.readValue_append left (n := m) (by omega)
      (endsNumber_append right (endsNumber_cons (c := ']') (by decide) rest))
    simp (disch := decide) only [List.append_assoc, List.cons_append, List.nil_append, readItems,
      item, skipBlanks_append right, skipBlanks_cons]

theorem readsMembers_item_more {before cs ds : List Char} {j : Json} {items : List Json}
    (left : Blanks before) (h : Reads cs j) (more : ReadsMembers readItems ']' ds items) :
    ReadsMembers readItems ']' (before ++ cs ++ ',' :: ds) (j :: items) where
  starts := by simpa [List.append_assoc] using starts_item left h (',' :: ds)
  reads n rest depth := by
    simp only [List.length_append, List.length_cons] at depth
    obtain ⟨m, rfl⟩ := Nat.exists_eq_add_one.mpr (show 0 < n by omega)
    have item := h.readValue_append left (n := m) (by omega)
      (endsNumber_cons (c := ',') (by decide) (ds ++ rest))
    have others := more.reads m rest (by omega)
    simp (disch := decide) only [List.append_assoc, List.cons_append, readItems, item,
      skipBlanks_cons, others]

/-- The text of a first entry starts with a quote. -/
theorem starts_entry {before : List Char} (blank : Blanks before) (key : String)
    (rest : List Char) : ∃ c ∈ (skipBlanks (before ++ (quote key ++ rest))).head?, c ≠ '\x7d' :=
  ⟨'"', by rw [skipBlanks_append blank]; rfl, by decide⟩

theorem readsMembers_entry_last {before pad after cs : List Char} (key : String) {j : Json}
    (left : Blanks before) (middle : Blanks pad) (right : Blanks after) (h : Reads cs j) :
    ReadsMembers readEntries '\x7d' (before ++ quote key ++ ':' :: (pad ++ cs) ++ after ++ ['\x7d'])
      [(some key, j)] where
  starts := by
    simpa [List.append_assoc] using starts_entry left key (':' :: (pad ++ (cs ++ (after ++ _))))
  reads n rest depth := by
    simp only [List.length_append, List.length_cons, List.length_nil] at depth
    obtain ⟨m, rfl⟩ := Nat.exists_eq_add_one.mpr (show 0 < n by omega)
    have value := h.readValue_append middle (n := m) (by omega)
      (endsNumber_append right (endsNumber_cons (c := '\x7d') (by decide) rest))
    simp (disch := decide) only [List.append_assoc, List.cons_append, List.nil_append, readEntries,
      quote, skipBlanks_append left, skipBlanks_append right, skipBlanks_cons,
      stringUnits?_flatMap_escape, unitString?_map_toNat, value]

theorem readsMembers_entry_more {before pad cs ds : List Char} (key : String) {j : Json}
    {entries : List (Option String × Json)} (left : Blanks before) (middle : Blanks pad)
    (h : Reads cs j) (more : ReadsMembers readEntries '\x7d' ds entries) :
    ReadsMembers readEntries '\x7d' (before ++ quote key ++ ':' :: (pad ++ cs) ++ ',' :: ds)
      ((some key, j) :: entries) where
  starts := by
    simpa [List.append_assoc] using starts_entry left key (':' :: (pad ++ (cs ++ ',' :: ds)))
  reads n rest depth := by
    simp only [List.length_append, List.length_cons] at depth
    obtain ⟨m, rfl⟩ := Nat.exists_eq_add_one.mpr (show 0 < n by omega)
    have value := h.readValue_append middle (n := m) (by omega)
      (endsNumber_cons (c := ',') (by decide) (ds ++ rest))
    have others := more.reads m rest (by omega)
    simp (disch := decide) only [List.append_assoc, List.cons_append, List.nil_append, readEntries,
      quote, skipBlanks_append left, skipBlanks_cons, stringUnits?_flatMap_escape,
      unitString?_map_toNat, value, others]

/-- The text of a document reads back as the document, with nothing left. -/
theorem Reads.read_eq {cs : List Char} {j : Json} (h : Reads cs j) :
    read (String.ofList cs) = (j, []) := by
  have all := h.reads (2 * cs.length + 1) [] (by omega) endsNumber_nil
  simp only [read, String.toList_ofList]
  rwa [List.append_nil] at all

end RegisterMachine.Json
