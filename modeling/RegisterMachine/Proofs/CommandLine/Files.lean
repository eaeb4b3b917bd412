import RegisterMachine.CommandLine.Files

/-!
# Files by name

A path that is just a name leads to the file of that name in the directory: reading finds what the
directory holds, and writing puts a file there.
-/

namespace RegisterMachine.CommandLine.Directory

/-- A path of one name that a file can have. -/
structure IsName (path : String) : Prop where
  names_eq : names path = [path]
  not_empty : path.isEmpty = false
  not_dots : isDots path = false
  short : path.utf8ByteSize ≤ longestName

namespace IsName

variable {path : String}

theorem ne_empty (h : IsName path) : path ≠ "" := by
  rintro rfl
  exact absurd h.not_empty (by decide)

/-- A name does not start with a slash. -/
theorem start_eq (h : IsName path) : Place.start path = .here := by
  refine if_neg fun slash ↦ ?_
  obtain ⟨rest, e⟩ := List.head?_eq_some_iff.mp slash
  have first := congrArg List.head? h.names_eq
  rw [names, e, splitSlashes] at first
  exact h.ne_empty (Option.some.inj first).symm

theorem checkPath_eq (h : IsName path) : checkPath path = .ok () := by
  have short : ¬ longestPath < path.utf8ByteSize := by
    have := h.short
    simp only [longestName] at this
    simp only [longestPath]
    omega
  simp only [checkPath, h.not_empty, short, Bool.false_eq_true, ↓reduceIte]

/-- A name leads to the file of that name, or to nothing. -/
theorem follow_here (h : IsName path) (d : Directory) :
    d.follow .here path = .ok (if (d.get? path).isSome then .file path else .nothing path) := by
  have dots := h.not_dots
  simp only [isDots, Bool.or_eq_false_iff, beq_eq_false_iff_ne] at dots
  have short : ¬ longestName < path.utf8ByteSize := Nat.not_lt.mpr h.short
  simp only [follow, Place.enter, Except.bind, h.ne_empty, dots.1, dots.2, short, or_self,
    reduceCtorEq, ↓reduceIte]
  split <;> rfl

theorem resolve_eq (h : IsName path) (d : Directory) :
    d.resolve path = .ok (if (d.get? path).isSome then .file path else .nothing path) := by
  rw [resolve, h.checkPath_eq, h.names_eq, h.start_eq]
  simp only [Except.bind, List.foldlM_cons, List.foldlM_nil, h.follow_here]
  rfl

/-- A file is read by its name. -/
theorem read_eq (h : IsName path) {d : Directory} {content : ByteArray}
    (held : d.get? path = some content) : d.read path = .ok content := by
  simp only [read, h.resolve_eq, held, Option.isSome_some, ↓reduceIte, Except.bind]

/-- A file is written by its name. -/
theorem write_eq (h : IsName path) (d : Directory) (content : ByteArray) :
    d.write path content = .ok (d.put path content) := by
  have last : splitLast? path = some ([], path, false) := by
    simp [splitLast?, h.names_eq, h.not_empty]
  simp only [write, h.checkPath_eq, last, h.start_eq, Except.bind, List.foldlM_nil, pure,
    Except.pure, Place.enter, h.not_dots, Bool.or_self, Bool.false_eq_true, ↓reduceIte,
    h.follow_here]
  cases (d.get? path).isSome <;> rfl

end IsName

/-- A file that was put in a directory is there. -/
theorem get?_put_self (d : Directory) (name : String) (content : ByteArray) :
    (d.put name content).get? name = some content := by
  simp [get?, put]

end RegisterMachine.CommandLine.Directory
