import RegisterMachine.Proofs.Text.Pieces

/-!
# Columns

Texts of one width with the same gap between them stand in columns: each starts a width and a gap
behind the one before it (`take_drop_intercalate`). A field is filled from one of its ends, the rest
of it with blanks.
-/

namespace RegisterMachine.Text

/-! ### Texts of one width -/

section
variable {texts : List (List Char)} {width : Nat}

/-- With a gap behind the last of them too, texts of one width have equal shares. -/
theorem length_intercalate_add_length (gap : List Char)
    (widths : ∀ cs ∈ texts, cs.length = width) (nonempty : texts ≠ []) :
    (gap.intercalate texts).length + gap.length = texts.length * (width + gap.length) := by
  induction texts with
  | nil => exact absurd rfl nonempty
  | cons first texts ih =>
    obtain ⟨wide, rest⟩ := List.forall_mem_cons.mp widths
    cases texts with
    | nil => rw [List.intercalate_singleton, List.length_singleton, wide, Nat.one_mul]
    | cons second texts =>
      have behind := ih rest (List.cons_ne_nil _ _)
      rw [List.intercalate_cons_cons, List.length_append, List.length_append, wide,
        List.length_cons, Nat.add_one_mul, ← behind]
      omega

/-- Where a width and a gap for each text before it end, a text stands. -/
theorem take_drop_intercalate (gap : List Char) (widths : ∀ cs ∈ texts, cs.length = width) {k : Nat}
    {cs : List Char} (h : texts[k]? = some cs) :
    ((gap.intercalate texts).drop ((width + gap.length) * k)).take width = cs := by
  induction texts generalizing k with
  | nil => cases h
  | cons first texts ih =>
    obtain ⟨wide, rest⟩ := List.forall_mem_cons.mp widths
    cases k with
    | zero =>
      obtain rfl : first = cs := Option.some.inj h
      rw [Nat.mul_zero, List.drop_zero]
      cases texts with
      | nil => rw [List.intercalate_singleton, ← wide, List.take_length]
      | cons second texts =>
        rw [List.intercalate_cons_cons, List.append_assoc, List.take_left' wide]
    | succ k =>
      cases texts with
      | nil => cases h
      | cons second texts =>
        have share : (first ++ gap).length = width + gap.length := by
          rw [List.length_append, wide]
        rw [List.intercalate_cons_cons, Nat.mul_add_one, Nat.add_comm, ← share,
          List.drop_length_add_append, share]
        exact ih rest h

end

/-! ### Fields -/

/-- The field starts with the text, and has nothing but blanks behind it. -/
def IsLeftAligned (text field : List Char) : Prop :=
  ∃ blanks, field = text ++ List.replicate blanks ' '

/-- The field ends with the text, and has nothing but blanks before it. -/
def IsRightAligned (text field : List Char) : Prop :=
  ∃ blanks, field = List.replicate blanks ' ' ++ text

variable {text text' field : List Char}

/-- A field tells the text that ends it, if this starts with no blank. -/
theorem IsRightAligned.text_eq (h : IsRightAligned text field) (h' : IsRightAligned text' field)
    (starts : ∀ c ∈ text.head?, c ≠ ' ') (starts' : ∀ c ∈ text'.head?, c ≠ ' ') : text = text' := by
  have read {blanks : Nat} {cs : List Char} (starts : ∀ c ∈ cs.head?, c ≠ ' ') :
      (List.replicate blanks ' ' ++ cs).dropWhile (· == ' ') = cs :=
    (Prod.mk.inj (takeWhile_dropWhile_append
      (fun c hc ↦ beq_iff_eq.mpr (List.eq_of_mem_replicate hc))
      (fun c hc ↦ beq_eq_false_iff_ne.mpr (starts c hc)))).2
  obtain ⟨blanks, rfl⟩ := h
  obtain ⟨blanks', same⟩ := h'
  rw [← read starts, same, read starts']

end RegisterMachine.Text
