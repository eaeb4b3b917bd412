import RegisterMachine.Text.Space

/-!
# The longest piece of a text

Where the characters of one kind end does not depend on what is appended, provided that it starts
with no character of the kind.
-/

namespace RegisterMachine.Text

variable {p : Char → Bool} {b : List Char}

/-- A longest piece ends where no character of its kind follows. -/
theorem takeWhile_append_of_head? (ends : ∀ c ∈ b.head?, p c = false) (a : List Char) :
    (a ++ b).takeWhile p = a.takeWhile p := by
  induction a with
  | nil =>
    cases b with
    | nil => rfl
    | cons c cs =>
      rw [List.nil_append, List.takeWhile_cons, ends c rfl]
      rfl
  | cons c cs ih => rw [List.cons_append, List.takeWhile_cons, List.takeWhile_cons, ih]

/-- What follows a longest piece keeps what is appended. -/
theorem dropWhile_append_of_head? (ends : ∀ c ∈ b.head?, p c = false) (a : List Char) :
    (a ++ b).dropWhile p = a.dropWhile p ++ b := by
  have whole := List.takeWhile_append_dropWhile (p := p) (l := a ++ b)
  rw [takeWhile_append_of_head? ends] at whole
  apply (List.append_right_inj (a.takeWhile p)).mp
  rw [whole, ← List.append_assoc, List.takeWhile_append_dropWhile]

/-- Characters of one kind are a longest piece if none of the kind follows. -/
theorem takeWhile_dropWhile_append {a : List Char} (all : ∀ c ∈ a, p c = true)
    (ends : ∀ c ∈ b.head?, p c = false) :
    ((a ++ b).takeWhile p, (a ++ b).dropWhile p) = (a, b) := by
  have piece : b.takeWhile p = [] := takeWhile_append_of_head? ends []
  have rest : b.dropWhile p = b := dropWhile_append_of_head? ends []
  rw [List.takeWhile_append_of_pos all, List.dropWhile_append_of_pos all, piece, rest,
    List.append_nil]

end RegisterMachine.Text
