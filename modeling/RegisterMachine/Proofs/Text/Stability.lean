import Mathlib.Data.List.Chain
import RegisterMachine.Proofs.Text.Uppercase

/-!
# Upper case of upper case

A text in upper case is left as it is by upper-casing (`upper_upper`): an upper-case letter has
no expansion and is in no run. Both tables ascend, so that for the upper-case letters of a whole
run only one entry of each has to be looked at.
-/

namespace RegisterMachine.Text

/-- The letters of ASCII with an upper case. -/
def asciiRun : CaseRun := ⟨0x61, 0x7A, 1, 0x41⟩

/-- All letters with one upper-case letter, ascending. -/
def letterRuns : List CaseRun := asciiRun :: caseRuns

/-- Whether evenly spaced code points lie before the run, or between the letters of a run that
has every other code point. -/
def CaseRun.clears (r : CaseRun) (first last step : Nat) : Bool :=
  last.blt r.first ||
    last.ble r.last && r.step.beq 2 && (step.beq 2 || first.beq last) &&
      ((first + r.first) % 2).beq 1

/-- Whether evenly spaced code points are in no run and have no expansion. -/
def areSettled (first last step : Nat) : Bool :=
  (letterRuns.find? fun r ↦ first.ble r.last).all (·.clears first last step) &&
    (caseExpansions.find? fun e ↦ first.ble e.1).all fun e ↦ last.blt e.1

/-! ### The tables ascend -/

/-- Whether a run ends before another one starts. -/
def CaseRun.Precedes (r r' : CaseRun) : Prop :=
  r.first ≤ r.last ∧ r.last < r'.first ∧ r'.first ≤ r'.last

instance : Trans CaseRun.Precedes CaseRun.Precedes CaseRun.Precedes where
  trans h h' := by
    simp only [CaseRun.Precedes] at h h' ⊢
    omega

theorem pairwise_letterRuns : letterRuns.Pairwise CaseRun.Precedes := by
  apply List.isChain_iff_pairwise.mp
  unfold CaseRun.Precedes
  decide +kernel

theorem pairwise_caseExpansions : caseExpansions.Pairwise fun e e' ↦ e.1 < e'.1 := by
  apply List.pairwise_map.mp
  apply List.isChain_iff_pairwise.mp
  decide +kernel

/-- What is in an ascending list ends before a code point, or it is the first that does not, or it
comes after that one. -/
private theorem mem_cases {α : Type} (stop : α → Nat) {precedes : α → α → Prop} {l : List α}
    (ascending : l.Pairwise precedes) (first : Nat) {a : α} (ha : a ∈ l) :
    stop a < first ∨
      ∃ next, l.find? (fun b ↦ first.ble (stop b)) = some next ∧ (a = next ∨ precedes next a) := by
  cases found : l.find? fun b ↦ first.ble (stop b) with
  | none =>
    have ended := List.find?_eq_none.mp found a ha
    rw [Nat.ble_eq] at ended
    exact .inl (by omega)
  | some next =>
    obtain ⟨-, before, after, rfl, ended⟩ := List.find?_eq_some_iff_append.mp found
    rcases List.mem_append.mp ha with ha | ha
    · have ended := ended a ha
      rw [Bool.not_eq_true', ← Bool.not_eq_true, Nat.ble_eq] at ended
      exact .inl (by omega)
    · refine .inr ⟨next, rfl, ?_⟩
      rcases List.mem_cons.mp ha with same | ha
      · exact .inl same
      · exact .inr ((List.pairwise_cons.mp (List.pairwise_append.mp ascending).2.1).1 a ha)

/-! ### Settled code points -/

theorem CaseRun.contains_iff {r : CaseRun} {n : Nat} :
    r.contains n = true ↔ r.first ≤ n ∧ n ≤ r.last ∧ (n - r.first) % r.step = 0 := by
  simp only [contains, Bool.and_eq_true, decide_eq_true_eq, beq_iff_eq, and_assoc]

/-- Code points that are cleared by a run end before the run does. -/
theorem CaseRun.le_of_clears {r : CaseRun} {first last step : Nat} (ordered : r.first ≤ r.last)
    (h : r.clears first last step = true) : last ≤ r.last := by
  simp only [clears, Bool.or_eq_true, Bool.and_eq_true, Nat.blt_eq, Nat.ble_eq] at h
  omega

/-- A run that is cleared has none of the code points. -/
theorem CaseRun.contains_eq_false_of_clears {r : CaseRun} {first last step n : Nat}
    (h : r.clears first last step = true) (low : first ≤ n) (high : n ≤ last)
    (spaced : (n - first) % step = 0) : r.contains n = false := by
  apply Bool.eq_false_iff.mpr
  intro inside
  obtain ⟨start, stop, aligned⟩ := contains_iff.mp inside
  simp only [clears, Bool.or_eq_true, Bool.and_eq_true, Nat.blt_eq, Nat.ble_eq,
    Nat.beq_eq] at h
  rcases h with before | ⟨⟨⟨-, even⟩, even' | single⟩, odd⟩
  · omega
  · rw [even] at aligned
    rw [even'] at spaced
    omega
  · rw [even] at aligned
    omega

/-- No run has settled code points. -/
theorem contains_eq_false_of_areSettled {first last step n : Nat}
    (h : areSettled first last step = true) (low : first ≤ n) (high : n ≤ last)
    (spaced : (n - first) % step = 0) {r : CaseRun} (hr : r ∈ letterRuns) :
    r.contains n = false := by
  apply Bool.eq_false_iff.mpr
  intro inside
  obtain ⟨start, stop, -⟩ := CaseRun.contains_iff.mp inside
  have cleared := (Bool.and_eq_true_iff.mp h).1
  rcases mem_cases CaseRun.last pairwise_letterRuns first hr with ended | ⟨next, found, place⟩
  · omega
  rw [found, Option.all_some] at cleared
  rcases place with rfl | ⟨ordered, behind, -⟩
  · rw [CaseRun.contains_eq_false_of_clears cleared low high spaced] at inside
    cases inside
  · have := CaseRun.le_of_clears ordered cleared
    omega

/-- No expansion is that of a settled code point. -/
theorem ne_of_areSettled {first last step n : Nat} (h : areSettled first last step = true)
    (low : first ≤ n) (high : n ≤ last) {e : Nat × List Nat} (he : e ∈ caseExpansions) :
    e.1 ≠ n := by
  have cleared := (Bool.and_eq_true_iff.mp h).2
  rcases mem_cases Prod.fst pairwise_caseExpansions first he with ended | ⟨next, found, place⟩
  · omega
  rw [found, Option.all_some, Nat.blt_eq] at cleared
  rcases place with rfl | behind
  · omega
  · omega

/-- Any other character of ASCII than a small letter is its own upper case. -/
theorem toUpper_of_contains_eq_false {c : Char} (ascii : c.toNat < 128) :
    asciiRun.contains c.toNat = false → c.toUpper = c :=
  forall_ascii (P := fun c ↦ asciiRun.contains c.toNat = false → c.toUpper = c) (by decide) ascii

/-- A character with a settled code point is its own upper case. -/
theorem upperChar_of_areSettled {first last step : Nat} {c : Char}
    (h : areSettled first last step = true) (low : first ≤ c.toNat) (high : c.toNat ≤ last)
    (spaced : (c.toNat - first) % step = 0) : upperChar c = [c] := by
  have outside {r : CaseRun} (hr : r ∈ letterRuns) : r.contains c.toNat = false :=
    contains_eq_false_of_areSettled h low high spaced hr
  rcases upperChar_cases c with
    ⟨ascii, e⟩ | ⟨images, entry, -⟩ | ⟨run, hrun, inside, -⟩ | e
  · rw [e, toUpper_of_contains_eq_false ascii (outside List.mem_cons_self)]
  · exact absurd rfl (ne_of_areSettled h low high entry)
  · rw [outside (List.mem_cons_of_mem _ hrun)] at inside
    cases inside
  · exact e

/-- A settled code point is that of a character which is its own upper case. -/
theorem upperChar_ofNat {first last step n : Nat} (h : areSettled first last step = true)
    (low : first ≤ n) (high : n ≤ last) (spaced : (n - first) % step = 0) :
    upperChar (Char.ofNat n) = [Char.ofNat n] := by
  rcases toNat_ofNat_eq_or n with valid | nul
  · apply upperChar_of_areSettled h
    · rw [valid]
      exact low
    · rw [valid]
      exact high
    · rw [valid]
      exact spaced
  · rw [← Char.ofNat_toNat (Char.ofNat n), nul]
    decide

/-- The upper case of ASCII is in upper case. -/
theorem upperChar_toUpper {c : Char} (ascii : c.toNat < 128) :
    upperChar c.toUpper = [c.toUpper] :=
  forall_ascii (P := fun c ↦ upperChar c.toUpper = [c.toUpper]) (by decide) ascii

/-- Expansions are in upper case. -/
theorem areSettled_expansion : ∀ e ∈ caseExpansions, ∀ image ∈ e.2,
    areSettled image image 1 = true := by decide +kernel

/-- The upper case of a run is in upper case. -/
theorem areSettled_run : ∀ r ∈ caseRuns,
    areSettled r.image (r.image + (r.last - r.first)) r.step = true := by decide +kernel

/-- The upper case of a character is in upper case. -/
theorem upperChar_of_mem_upperChar {c d : Char} (h : d ∈ upperChar c) : upperChar d = [d] := by
  rcases upperChar_cases c with
    ⟨ascii, e⟩ | ⟨images, entry, e⟩ | ⟨run, hrun, inside, e⟩ | e
  · rw [e] at h
    rw [List.mem_singleton.mp h]
    exact upperChar_toUpper ascii
  · rw [e] at h
    obtain ⟨image, himage, rfl⟩ := List.mem_map.mp h
    exact upperChar_ofNat (areSettled_expansion _ entry image himage) (Nat.le_refl _)
      (Nat.le_refl _) (by rw [Nat.sub_self, Nat.zero_mod])
  · rw [e] at h
    rw [List.mem_singleton.mp h]
    obtain ⟨start, stop, aligned⟩ := CaseRun.contains_iff.mp inside
    apply upperChar_ofNat (areSettled_run run hrun)
    · exact Nat.le_add_right _ _
    · exact Nat.add_le_add_left (by omega) _
    · rw [CaseRun.upper, Nat.add_sub_cancel_left]
      exact aligned
  · rw [e] at h
    rw [List.mem_singleton.mp h]
    exact e

/-- The characters of an upper-case text are in upper case. -/
theorem upperChar_of_mem_upper {cs : List Char} {d : Char} (h : d ∈ upper cs) :
    upperChar d = [d] := by
  obtain ⟨c, -, hd⟩ := List.mem_flatMap.mp h
  exact upperChar_of_mem_upperChar hd

/-- Upper-casing twice is upper-casing once. -/
theorem upper_upper (cs : List Char) : upper (upper cs) = upper cs :=
  upper_of_forall fun _ ↦ upperChar_of_mem_upper

/-- The ASCII upper case of a character has the same upper case. -/
theorem upperChar_toUpper_eq (c : Char) : upperChar c.toUpper = upperChar c := by
  by_cases ascii : c.toNat < 128
  · rw [upperChar_toUpper ascii, upperChar_of_ascii ascii]
  · have noLetter : ¬ ('a'.val ≤ c.val ∧ c.val ≤ 'z'.val) := by
      rintro ⟨-, high⟩
      exact ascii (Nat.lt_of_le_of_lt (UInt32.le_iff_toNat_le.mp high) (by decide))
    have same : c.toUpper = c := dif_neg noLetter
    rw [same]

/-- The ASCII upper case of a text has the same upper case. -/
theorem upper_map_toUpper (cs : List Char) : upper (cs.map Char.toUpper) = upper cs := by
  rw [upper, List.flatMap_map]
  exact List.flatMap_congr fun c _ ↦ upperChar_toUpper_eq c

end RegisterMachine.Text
