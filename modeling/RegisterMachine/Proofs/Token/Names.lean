import RegisterMachine.Proofs.Token.Blank
import RegisterMachine.Proofs.Token.Spaced

/-!
# Names on a line

A name is read in upper case: as a label before a colon, and as a word or the branch word where
spaces are around it. Names of ASCII letters, digits and underscores are names in upper case too.
-/

namespace RegisterMachine.Token

open RegisterMachine.Text

instance (cs : List Char) : Decidable (IsName cs) :=
  decidable_of_iff (cs ≠ [] ∧ cs.all isNameChar = true) (and_congr_right' List.all_eq_true)

/-- A name and a colon are a label. -/
theorem ofLine_append_colon {name : String} (isName : IsName (upper name.toList)) :
    ofLine (name ++ ":") = [⟨.label, String.ofList (upper name.toList)⟩] := by
  have colon : upper ":".toList = [':'] := by decide
  rw [ofLine, String.toList_append, upper_append, colon, scan_append_colon isName, scan_nil]

/-- Names with a space between two of them are read one by one. -/
theorem ofLine_intercalate {names : List String}
    (areNames : ∀ name ∈ names, IsName (upper name.toList)) :
    ofLine (" ".intercalate names) = names.map fun name ↦ ofName (upper name.toList) := by
  have space : upper " ".toList = [' '] := by decide
  have written : upper (" ".intercalate names).toList =
      spaced (names.map fun name ↦ ofName (upper name.toList)) := by
    rw [String.toList_intercalate, upper_intercalate, space, spaced, List.map_map, List.map_map]
    congr 1
    apply List.map_congr_left
    intro name _
    exact (text_ofName (upper name.toList)).symm
  rw [ofLine, written, scan_spaced]
  intro t ht
  obtain ⟨name, hname, rfl⟩ := List.mem_map.mp ht
  exact isWellFormed_ofName (areNames name hname)

/-- What is a name in upper case does not end in white space. -/
theorem exists_concat_of_isName {cs : List Char} (isName : IsName (upper cs)) :
    ∃ letters c, cs = letters ++ [c] ∧ isSpace c = false := by
  rcases List.eq_nil_or_concat' cs with rfl | ⟨letters, c, rfl⟩
  · exact absurd rfl isName.1
  · refine ⟨letters, c, rfl, Bool.eq_false_iff.mpr fun space ↦ ?_⟩
    -- White space has no case, so it would be in the name.
    have kept : upper [c] = [c] :=
      upper_of_isSpace (List.forall_mem_singleton.mpr space)
    have among : c ∈ upper (letters ++ [c]) := by
      rw [upper_append, kept]
      exact List.mem_append_right _ List.mem_cons_self
    have separates := isSeparator_of_isSpace space
    rw [isSeparator_of_isNameChar (isName.2 c among)] at separates
    cases separates

/-! ### Names of ASCII characters -/

/-- A name of ASCII letters, digits and underscores. -/
def IsAsciiName (name : String) : Prop :=
  name ≠ "" ∧ ∀ c ∈ name.toList, c.isAlphanum = true ∨ c = '_'

instance (name : String) : Decidable (IsAsciiName name) :=
  decidable_of_iff (name ≠ "" ∧ name.toList.all (fun c ↦ c.isAlphanum || c == '_') = true) <| by
    simp only [IsAsciiName, List.all_eq_true, Bool.or_eq_true, beq_iff_eq]

theorem ascii_of_isAlphanum {c : Char} (h : c.isAlphanum = true) : c.toNat < 128 := by
  rcases Bool.or_eq_true_iff.mp h with letter | digit
  · rcases Bool.or_eq_true_iff.mp letter with upper | lower
    · exact Nat.lt_of_le_of_lt (of_decide_eq_true upper).2 (by decide)
    · have le := of_decide_eq_true (Bool.and_eq_true_iff.mp lower).2
      exact Nat.lt_of_le_of_lt le (by decide)
  · exact Nat.lt_of_le_of_lt (Char.isDigit_iff_toNat.mp digit).2 (by decide)

variable {name : String}

theorem IsAsciiName.ascii (h : IsAsciiName name) : ∀ c ∈ name.toList, c.toNat < 128 := by
  intro c hc
  rcases h.2 c hc with alphanum | rfl
  · exact ascii_of_isAlphanum alphanum
  · decide

/-- A name of ASCII characters is one in upper case. -/
theorem IsAsciiName.isName (h : IsAsciiName name) : IsName (upper name.toList) := by
  rw [upper_of_ascii h.ascii]
  refine ⟨?_, ?_⟩
  · rw [Ne, List.map_eq_nil_iff, String.toList_eq_nil_iff]
    exact h.1
  · intro d hd
    obtain ⟨c, hc, rfl⟩ := List.mem_map.mp hd
    exact forall_ascii
      (P := fun c ↦ (c.isAlphanum = true ∨ c = '_') → isNameChar c.toUpper = true) (by decide)
      (h.ascii c hc) (h.2 c hc)

/-- Only `B` and `b` are the branch word. -/
theorem IsAsciiName.upper_eq_iff (h : IsAsciiName name) :
    upper name.toList = ['B'] ↔ name = "B" ∨ name = "b" := by
  constructor
  · intro same
    rw [upper_of_ascii h.ascii, List.map_eq_singleton_iff] at same
    obtain ⟨c, whole, same⟩ := same
    have ascii : c.toNat < 128 := h.ascii c (by rw [whole]; exact List.mem_singleton_self c)
    have either : c = 'B' ∨ c = 'b' :=
      forall_ascii (P := fun c ↦ c.toUpper = 'B' → c = 'B' ∨ c = 'b') (by decide) ascii same
    rw [← String.ofList_toList (s := name), whole]
    exact either.imp (congrArg fun c ↦ String.ofList [c]) (congrArg fun c ↦ String.ofList [c])
  · rintro (rfl | rfl)
    · decide
    · decide

end RegisterMachine.Token
