import RegisterMachine.Text.Space
import RegisterMachine.Text.Uppercase

/-!
# Characters without case

White space and the ASCII characters that are no letters are their own upper case, and no other
character has one of them in its upper case. So a text can be searched for them before it is put
in upper case or after.
-/

namespace RegisterMachine.Text

/-- What holds of each character of some ranges holds of all characters in them. -/
theorem forall_inRanges {ranges : List (Nat × Nat)} {P : Char → Prop}
    (h : ∀ r ∈ ranges, ∀ k ≤ r.2 - r.1, P (Char.ofNat (r.1 + k))) {c : Char}
    (hc : inRanges ranges c.toNat = true) : P c := by
  obtain ⟨r, hr, low, high⟩ := inRanges_iff.mp hc
  have hp := h r hr (c.toNat - r.1) (by omega)
  rw [show r.1 + (c.toNat - r.1) = c.toNat by omega, Char.ofNat_toNat] at hp
  exact hp

/-- What holds of each character of ASCII by its code point holds of all of them. -/
theorem forall_ascii {P : Char → Prop} (h : ∀ n < 128, P (Char.ofNat n)) {c : Char}
    (ascii : c.toNat < 128) : P c := by
  have hp := h c.toNat ascii
  rw [Char.ofNat_toNat] at hp
  exact hp

/-- The code point ranges of white space and of ASCII without letters and NUL. -/
def caselessRanges : List (Nat × Nat) := [(0x1, 0x40), (0x5B, 0x60), (0x7B, 0x7F)] ++ spaceRanges

/-- Whether the character is white space, or of ASCII and no letter. -/
def isCaseless (c : Char) : Bool := inRanges caselessRanges c.toNat

theorem isCaseless_of_isSpace {c : Char} (h : isSpace c = true) : isCaseless c = true := by
  simp only [isCaseless, caselessRanges, inRanges, List.any_append, Bool.or_eq_true]
  exact .inr h

/-- A character without case is its own upper case. -/
theorem upperChar_of_isCaseless {c : Char} (h : isCaseless c = true) : upperChar c = [c] :=
  forall_inRanges (P := fun c ↦ upperChar c = [c]) (by decide +kernel) h

/-- The code point of a numbered character, if it is none of those for NUL. -/
theorem toNat_ofNat_eq_or (n : Nat) : (Char.ofNat n).toNat = n ∨ (Char.ofNat n).toNat = 0 := by
  by_cases valid : n.isValidChar
  · rw [Char.ofNat, dif_pos valid]
    exact .inl rfl
  · rw [Char.ofNat, dif_neg valid]
    exact .inr rfl

/-- A character whose code point lies in none of the ranges has a case. -/
theorem isCaseless_ofNat_eq_false {n : Nat} (h : ∀ r ∈ caselessRanges, n < r.1 ∨ r.2 < n) :
    isCaseless (Char.ofNat n) = false := by
  apply Bool.eq_false_iff.mpr
  intro inside
  obtain ⟨r, hr, low, high⟩ := inRanges_iff.mp inside
  have positive : ∀ r ∈ caselessRanges, 0 < r.1 := by decide
  have := h r hr
  have := positive r hr
  rcases toNat_ofNat_eq_or n with e | e <;> omega

/-- The upper case of ASCII letters is letters. -/
theorem eq_of_isCaseless_toUpper {c : Char} (ascii : c.toNat < 128) :
    isCaseless c.toUpper = true → c = c.toUpper :=
  forall_ascii (P := fun c ↦ isCaseless c.toUpper = true → c = c.toUpper) (by decide) ascii

/-- Letters with an expansion expand to letters. -/
theorem isCaseless_expansion : ∀ e ∈ caseExpansions, ∀ image ∈ e.2,
    isCaseless (Char.ofNat image) = false := by decide

/-- The letters of a run have letters for their upper case: each range without case lies before
the images of the run or after them. -/
theorem isCaseless_upper_run {run : CaseRun} (hrun : run ∈ caseRuns) {n : Nat}
    (h : run.contains n = true) : isCaseless (Char.ofNat (run.upper n)) = false := by
  have apart : ∀ run ∈ caseRuns, ∀ r ∈ caselessRanges,
      run.image + (run.last - run.first) < r.1 ∨ r.2 < run.image := by decide +kernel
  simp only [CaseRun.contains, Bool.and_eq_true, decide_eq_true_eq] at h
  apply isCaseless_ofNat_eq_false
  intro r hr
  have := apart run hrun r hr
  unfold CaseRun.upper
  omega

/-- A character is of ASCII, has an expansion, is in a run, or is its own upper case. -/
theorem upperChar_cases (c : Char) :
    (c.toNat < 128 ∧ upperChar c = [c.toUpper]) ∨
      (∃ images, (c.toNat, images) ∈ caseExpansions ∧ upperChar c = images.map Char.ofNat) ∨
      (∃ run ∈ caseRuns, run.contains c.toNat = true ∧
        upperChar c = [Char.ofNat (run.upper c.toNat)]) ∨
      upperChar c = [c] := by
  by_cases ascii : c.toNat < 128
  · exact .inl ⟨ascii, upperChar_of_ascii ascii⟩
  cases expanded : caseExpansions.lookup c.toNat with
  | some images =>
    obtain ⟨before, after, whole, -⟩ := List.lookup_eq_some_iff.mp expanded
    have entry : (c.toNat, images) ∈ caseExpansions := by simp [whole]
    refine .inr (.inl ⟨images, entry, ?_⟩)
    simp only [upperChar, ascii, expanded, ↓reduceIte]
  | none =>
    cases found : caseRuns.find? (·.contains c.toNat) with
    | some run =>
      refine .inr (.inr (.inl ⟨run, List.mem_of_find?_eq_some found, ?_, ?_⟩))
      · exact List.find?_some (p := fun run : CaseRun ↦ run.contains c.toNat) found
      · simp only [upperChar, ascii, expanded, found, ↓reduceIte]
    | none =>
      refine .inr (.inr (.inr ?_))
      simp only [upperChar, ascii, expanded, found, ↓reduceIte]

/-- A character without case is in no other character's upper case. -/
theorem eq_of_mem_upperChar {c d : Char} (h : d ∈ upperChar c) (hd : isCaseless d = true) :
    c = d := by
  rcases upperChar_cases c with
    ⟨ascii, e⟩ | ⟨images, entry, e⟩ | ⟨run, hrun, inside, e⟩ | e
  · rw [e] at h
    rw [List.mem_singleton.mp h] at hd ⊢
    exact eq_of_isCaseless_toUpper ascii hd
  · rw [e] at h
    obtain ⟨image, himage, rfl⟩ := List.mem_map.mp h
    rw [isCaseless_expansion _ entry image himage] at hd
    cases hd
  · rw [e] at h
    rw [List.mem_singleton.mp h, isCaseless_upper_run hrun inside] at hd
    cases hd
  · rw [e] at h
    exact (List.mem_singleton.mp h).symm

/-- Every character has an upper case. -/
theorem upperChar_ne_nil (c : Char) : upperChar c ≠ [] := by
  have nonempty : ∀ e ∈ caseExpansions, e.2 ≠ [] := by decide
  rcases upperChar_cases c with ⟨-, e⟩ | ⟨images, entry, e⟩ | ⟨run, -, -, e⟩ | e
  · rw [e]
    exact List.cons_ne_nil _ _
  · rw [e]
    exact fun none ↦ nonempty _ entry (List.map_eq_nil_iff.mp none)
  · rw [e]
    exact List.cons_ne_nil _ _
  · rw [e]
    exact List.cons_ne_nil _ _

/-- A text starts with a character without case exactly if it does in upper case. -/
theorem head?_upper_eq_some_iff {cs : List Char} {d : Char} (hd : isCaseless d = true) :
    (upper cs).head? = some d ↔ cs.head? = some d := by
  cases cs with
  | nil => rfl
  | cons c cs =>
    obtain ⟨first, more, e⟩ := List.exists_cons_of_ne_nil (upperChar_ne_nil c)
    rw [upper_cons, e, List.cons_append, List.head?_cons, List.head?_cons, Option.some.injEq,
      Option.some.injEq]
    constructor
    · rintro rfl
      exact eq_of_mem_upperChar (by rw [e]; exact List.mem_cons_self) hd
    · rintro rfl
      rw [upperChar_of_isCaseless hd] at e
      exact (List.cons.inj e).1.symm

/-- White space is its own upper case. -/
theorem upper_of_isSpace {cs : List Char} (h : ∀ c ∈ cs, isSpace c = true) : upper cs = cs :=
  upper_of_forall fun c hc ↦ upperChar_of_isCaseless (isCaseless_of_isSpace (h c hc))

/-- A text consists of certain characters without case exactly if it does in upper case. -/
theorem forall_mem_upper_iff {p : Char → Bool} (caseless : ∀ c, p c = true → isCaseless c = true)
    (cs : List Char) : (∀ d ∈ upper cs, p d = true) ↔ ∀ c ∈ cs, p c = true := by
  induction cs with
  | nil => rfl
  | cons c cs ih =>
    rw [upper_cons, List.forall_mem_append, List.forall_mem_cons, ih]
    refine and_congr_left fun _ ↦ ⟨?_, ?_⟩
    · intro all
      obtain ⟨d, ds, e⟩ := List.exists_cons_of_ne_nil (upperChar_ne_nil c)
      have member : d ∈ upperChar c := by rw [e]; exact List.mem_cons_self
      have same : c = d := eq_of_mem_upperChar member (caseless d (all d member))
      rw [same]
      exact all d member
    · intro hc d hd
      rw [upperChar_of_isCaseless (caseless c hc), List.mem_singleton] at hd
      rw [hd]
      exact hc

end RegisterMachine.Text
