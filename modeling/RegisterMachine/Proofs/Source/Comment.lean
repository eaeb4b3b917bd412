import RegisterMachine.Source

/-!
# The part of a line before its comment

Exactly one part of a text ends where its first comment starts, or with the text if it has no
comment. Cutting the comment leaves this part.
-/

namespace RegisterMachine.Source

/-- Whether a comment starts with the first character. -/
def StartsComment (cs : List Char) : Prop := [';'] <+: cs ∨ ['/', '/'] <+: cs

/-- What is appended to a comment belongs to it. -/
theorem StartsComment.append {cs : List Char} (h : StartsComment cs) (more : List Char) :
    StartsComment (cs ++ more) :=
  h.imp (·.trans (List.prefix_append cs more)) (·.trans (List.prefix_append cs more))

/-- Whether a part of a text is what stands before its first comment: a comment or nothing
follows the part, and no comment starts in it. -/
def IsBeforeComment (cs part : List Char) : Prop :=
  ∃ rest, cs = part ++ rest ∧ (rest = [] ∨ StartsComment rest) ∧
    ∀ a b, part = a ++ b → b ≠ [] → ¬ StartsComment (b ++ rest)

theorem not_startsComment_nil : ¬ StartsComment [] := by
  rintro (h | h)
  · exact List.cons_ne_nil _ _ (List.prefix_nil.mp h)
  · exact List.cons_ne_nil _ _ (List.prefix_nil.mp h)

theorem startsComment_cons {c : Char} {cs : List Char} :
    StartsComment (c :: cs) ↔ c = ';' ∨ c = '/' ∧ cs.head? = some '/' := by
  rw [StartsComment, List.cons_prefix_cons, List.cons_prefix_cons]
  cases cs with
  | nil => simp [eq_comm]
  | cons d ds => simp [eq_comm]

/-! ### Cutting a comment -/

/-- Nothing is left of a text that is a comment. -/
theorem cutComment_of_startsComment {cs : List Char} (h : StartsComment cs) :
    cutComment cs = [] := by
  cases cs with
  | nil => exact absurd h not_startsComment_nil
  | cons c cs => rw [cutComment, if_pos (startsComment_cons.mp h)]

/-- A character that starts no comment stays. -/
theorem cutComment_cons {c : Char} {cs : List Char} (h : ¬ StartsComment (c :: cs)) :
    cutComment (c :: cs) = c :: cutComment cs := by
  rw [cutComment, if_neg (mt startsComment_cons.mpr h)]

/-- The characters with which comments start. -/
def isMark (c : Char) : Bool := c == ';' || c == '/'

theorem isMark_eq_false_iff {c : Char} : isMark c = false ↔ c ≠ ';' ∧ c ≠ '/' := by
  simp [isMark]

/-- A kind of characters to which neither mark belongs has none. -/
theorem isMark_eq_false_of {p : Char → Bool} (semicolon : p ';' = false) (slash : p '/' = false)
    {c : Char} (hc : p c = true) : isMark c = false := by
  rw [isMark_eq_false_iff]
  constructor
  · rintro rfl
    rw [semicolon] at hc
    cases hc
  · rintro rfl
    rw [slash] at hc
    cases hc

theorem not_startsComment {c : Char} (hc : isMark c = false) (cs : List Char) :
    ¬ StartsComment (c :: cs) := by
  intro h
  rcases startsComment_cons.mp h with rfl | ⟨rfl, -⟩
  · cases hc
  · cases hc

/-- A text without marks is left as it is. -/
theorem cutComment_append {a : List Char} (plain : ∀ c ∈ a, isMark c = false) (b : List Char) :
    cutComment (a ++ b) = a ++ cutComment b := by
  induction a with
  | nil => rfl
  | cons c cs ih =>
    obtain ⟨hc, rest⟩ := List.forall_mem_cons.mp plain
    rw [List.cons_append, cutComment_cons (not_startsComment hc _), ih rest, List.cons_append]

/-! ### What stands before the first comment -/

/-- What stands before the first comment is left by cutting it. -/
theorem isBeforeComment_cutComment (cs : List Char) : IsBeforeComment cs (cutComment cs) := by
  induction cs with
  | nil =>
    refine ⟨[], rfl, .inl rfl, ?_⟩
    intro a b whole some
    exact absurd (List.append_eq_nil_iff.mp whole.symm).2 some
  | cons c cs ih =>
    by_cases starts : StartsComment (c :: cs)
    · rw [cutComment_of_startsComment starts]
      refine ⟨c :: cs, rfl, .inr starts, ?_⟩
      intro a b whole some
      exact absurd (List.append_eq_nil_iff.mp whole.symm).2 some
    · rw [cutComment_cons starts]
      obtain ⟨rest, whole, ends, noneInside⟩ := ih
      refine ⟨rest, by rw [List.cons_append, ← whole], ends, ?_⟩
      intro a b parts some
      cases a with
      | nil =>
        rw [List.nil_append] at parts
        rw [← parts, List.cons_append, ← whole]
        exact starts
      | cons d a => exact noneInside a b (List.cons.inj parts).2 some

/-- A part before the first comment does not go on to another one. -/
private theorem eq_nil_of_isBeforeComment {part more rest : List Char}
    (ends : more ++ rest = [] ∨ StartsComment (more ++ rest))
    (noneInside : ∀ a b, part ++ more = a ++ b → b ≠ [] → ¬ StartsComment (b ++ rest)) :
    more = [] := by
  rcases ends with none | starts
  · exact (List.append_eq_nil_iff.mp none).1
  · apply Decidable.byContradiction
    intro some
    exact noneInside part more rfl some starts

/-- Only one part of a text is what stands before its first comment. -/
theorem IsBeforeComment.eq {cs part part' : List Char} (h : IsBeforeComment cs part)
    (h' : IsBeforeComment cs part') : part = part' := by
  obtain ⟨rest, rfl, ends, noneInside⟩ := h
  obtain ⟨rest', whole, ends', noneInside'⟩ := h'
  rcases List.append_eq_append_iff.mp whole with ⟨more, rfl, rfl⟩ | ⟨more, rfl, rfl⟩
  · rw [eq_nil_of_isBeforeComment ends noneInside', List.append_nil]
  · rw [eq_nil_of_isBeforeComment ends' noneInside, List.append_nil]

/-- Cutting the comment of a text leaves what stands before it, and nothing else is that part. -/
theorem isBeforeComment_iff {cs part : List Char} :
    IsBeforeComment cs part ↔ part = cutComment cs := by
  constructor
  · intro h
    exact h.eq (isBeforeComment_cutComment cs)
  · rintro rfl
    exact isBeforeComment_cutComment cs

end RegisterMachine.Source
