import RegisterMachine.Listing
import RegisterMachine.Proofs.Decimal.Numeral
import RegisterMachine.Source

/-!
# The lines of a listing

No instruction is written with a character that would end a line. So the lines of a listing are
those of the slots, one for each, in order (`Program.getElem?_lines_listing`).
-/

namespace RegisterMachine

/-- The characters stand on one line: none of them is a control character of ASCII. -/
def Text.IsOneLine (cs : List Char) : Prop := ∀ c ∈ cs, 32 ≤ c.toNat

namespace Text

variable {cs ds : List Char}

instance (cs : List Char) : Decidable (IsOneLine cs) :=
  List.decidableBAll (fun c : Char ↦ 32 ≤ c.toNat) cs

@[simp] theorem isOneLine_append : IsOneLine (cs ++ ds) ↔ IsOneLine cs ∧ IsOneLine ds :=
  List.forall_mem_append

@[simp] theorem isOneLine_cons {c : Char} : IsOneLine (c :: cs) ↔ 32 ≤ c.toNat ∧ IsOneLine cs :=
  List.forall_mem_cons

theorem isOneLine_replicate {c : Char} (h : 32 ≤ c.toNat) (n : Nat) :
    IsOneLine (List.replicate n c) := fun _ hd ↦ List.eq_of_mem_replicate hd ▸ h

theorem isOneLine_intercalate {gap : List Char} {texts : List (List Char)} (between : IsOneLine gap)
    (oneLine : ∀ cs ∈ texts, IsOneLine cs) : IsOneLine (gap.intercalate texts) := by
  induction texts with
  | nil => exact List.forall_mem_nil _
  | cons first texts ih =>
    obtain ⟨first', rest⟩ := List.forall_mem_cons.mp oneLine
    cases texts with
    | nil => rwa [List.intercalate_singleton]
    | cons second texts =>
      rw [List.intercalate_cons_cons, isOneLine_append, isOneLine_append]
      exact ⟨⟨first', between⟩, ih rest⟩

theorem isOneLine_of_isDigit (digits : ∀ c ∈ cs, c.isDigit = true) : IsOneLine cs :=
  fun c hc ↦ Nat.le_trans (by decide) (Char.isDigit_iff_toNat.mp (digits c hc)).1

theorem IsOneLine.newline_notMem (h : IsOneLine cs) : '\n' ∉ cs :=
  fun hc ↦ absurd (h '\n' hc) (by decide)

theorem IsOneLine.dropReturn_eq (h : IsOneLine cs) : Source.dropReturn cs = cs := by
  rw [Source.dropReturn, if_neg]
  intro last
  exact absurd (h '\r' (List.mem_of_getLast? last)) (by decide)

/-- Texts of one line each, with a newline after each of them, are the lines of the whole. -/
theorem splitLines_flatMap {texts : List (List Char)} (oneLine : ∀ cs ∈ texts, IsOneLine cs) :
    Source.splitLines (texts.flatMap (· ++ ['\n'])) = texts := by
  induction texts with
  | nil => exact Source.splitLines_of_not_mem List.not_mem_nil
  | cons cs texts ih =>
    obtain ⟨first, rest⟩ := List.forall_mem_cons.mp oneLine
    rw [List.flatMap_cons, List.append_assoc, List.singleton_append,
      Source.splitLines_append_newline first.newline_notMem, first.dropReturn_eq, ih rest]

end Text

open Text (IsOneLine isOneLine_append isOneLine_cons isOneLine_of_isDigit isOneLine_replicate)

/-! ### Texts of one line -/

theorem Decimal.isOneLine_digits (n : Nat) : IsOneLine (digits n) :=
  isOneLine_of_isDigit fun _ ↦ isDigit_of_mem_digits

theorem Decimal.isOneLine_integerDigits (i : Int) : IsOneLine (integerDigits i) := by
  rw [integerDigits]
  split
  · exact isOneLine_cons.mpr ⟨by decide, isOneLine_digits i.natAbs⟩
  · exact isOneLine_digits i.natAbs

/-- A number is written on one line. -/
theorem Json.IsNumber.isOneLine {n : Decimal.Numeral} (h : IsNumber n) : IsOneLine n.chars := by
  have whole := isOneLine_of_isDigit h.whole_digits
  have fraction := isOneLine_of_isDigit h.fraction_digits
  simp only [Decimal.Numeral.chars, isOneLine_append]
  refine ⟨⟨⟨?_, whole⟩, ?_⟩, ?_⟩
  · split <;> decide
  · split
    · decide
    · exact isOneLine_cons.mpr ⟨by decide, fraction⟩
  · cases written : n.exponent with
    | none => decide
    | some e =>
      have digits := isOneLine_of_isDigit (h.exponent_digits e written)
      have sign : IsOneLine e.sign.chars := by cases e.sign <;> decide
      exact isOneLine_cons.mpr ⟨by decide, isOneLine_append.mpr ⟨sign, digits⟩⟩

theorem Value.isOneLine_text (v : Value) : IsOneLine v.text.toList := by
  cases v with
  | int n =>
    rw [text, String.toList_ofList]
    exact Decimal.isOneLine_integerDigits n.toInt
  | float x =>
    rw [text, floatText]
    split
    · decide
    · next notNaN =>
      split
      · split <;> decide
      · next notInfinite =>
        have finite : x.isFinite = true :=
          Binary64.isFinite_iff.mpr ⟨Bool.eq_false_of_not_eq_true notNaN,
            Bool.eq_false_of_not_eq_true notInfinite⟩
        rw [Decimal.Numeral.text, String.toList_ofList]
        exact (Decimal.Numeral.isNumber_ofBinary64 floatStyle finite).isOneLine

theorem Register.isOneLine_text (r : Register) : IsOneLine (Register.text r).toList := by
  simp only [text, String.toList_append, String.toList_ofList, isOneLine_append]
  exact ⟨by decide, Decimal.isOneLine_digits r.val⟩

theorem Operand.isOneLine_text (x : Operand) : IsOneLine x.text.toList := by
  cases x with
  | register r => exact r.isOneLine_text
  | literal v =>
    rw [text, String.toList_append, isOneLine_append]
    exact ⟨by decide, v.isOneLine_text⟩

/-- An instruction is written on one line. -/
theorem Instruction.isOneLine_text (i : Instruction) : IsOneLine i.text.toList := by
  have comma : IsOneLine ", ".toList := by decide
  cases i with
  | nop | halt => decide
  | add dst lhs rhs | sub dst lhs rhs =>
    simp only [text, String.toList_append, isOneLine_append]
    exact ⟨⟨⟨⟨⟨by decide, dst.isOneLine_text⟩, comma⟩, lhs.isOneLine_text⟩, comma⟩,
      rhs.isOneLine_text⟩
  | cmp lhs rhs =>
    simp only [text, String.toList_append, isOneLine_append]
    exact ⟨⟨⟨by decide, lhs.isOneLine_text⟩, comma⟩, rhs.isOneLine_text⟩
  | mov dst src =>
    simp only [text, String.toList_append, isOneLine_append]
    exact ⟨⟨⟨by decide, dst.isOneLine_text⟩, comma⟩, src.isOneLine_text⟩
  | branch condition target =>
    simp only [text, String.toList_append, String.toList_ofList, isOneLine_append]
    exact ⟨⟨⟨by decide, by cases condition <;> decide⟩, by decide⟩,
      Decimal.isOneLine_digits target⟩

/-- An address and its instruction are written on one line. -/
theorem isOneLine_listingLine (address : Nat) (i : Instruction) :
    IsOneLine (listingLine address i).toList := by
  have padding := isOneLine_replicate (c := '0') (by decide) (4 - (Decimal.digits address).length)
  simp only [listingLine, addressText, String.toList_append, String.toList_ofList, List.leftpad,
    isOneLine_append]
  exact ⟨⟨⟨padding, Decimal.isOneLine_digits address⟩, by decide⟩, i.isOneLine_text⟩

/-! ### The listing -/

namespace Program

/-- The lines of a listing are those of the slots. -/
theorem lines_listing (p : Program) :
    Source.lines p.listing =
      p.instructions.zipIdx.map fun (i, address) ↦ listingLine address i := by
  have characters : p.listing.toList =
      (p.instructions.zipIdx.map fun entry ↦ (listingLine entry.2 entry.1).toList).flatMap
        (· ++ ['\n']) := by
    have newline : "\n".toList = ['\n'] := by decide
    simp only [listing, String.toList_join, List.flatMap_map, String.toList_append, newline]
  rw [Source.lines, characters, Text.splitLines_flatMap]
  · simp only [List.map_map, Function.comp_def, String.ofList_toList]
  · intro cs hcs
    obtain ⟨entry, -, rfl⟩ := List.mem_map.mp hcs
    exact isOneLine_listingLine entry.2 entry.1

/-- At the place of a slot stands its line. -/
theorem getElem?_lines_listing (p : Program) (slot : Nat) :
    (Source.lines p.listing)[slot]? = (p.get? slot).map (listingLine slot) := by
  rw [lines_listing, List.getElem?_map, List.getElem?_zipIdx, getElem?_instructions,
    Option.map_map, Nat.zero_add]
  rfl

end Program

end RegisterMachine
