import RegisterMachine.Proofs.Text.Stability
import RegisterMachine.Proofs.Token.Separator
import RegisterMachine.Proofs.Token.Shape

/-!
# Tokens written with spaces

Tokens of their forms that are in upper case can be written on a line, one space between two of
them, and are read back from it (`ofLine_spaced`). The tokens of a line are such tokens.
-/

namespace RegisterMachine.Token

open RegisterMachine.Text RegisterMachine.Source

/-- The texts of tokens with a space between two of them. -/
def spaced (ts : List Token) : List Char := [' '].intercalate (ts.map text)

theorem spaced_nil : spaced [] = [] := rfl

theorem spaced_singleton (t : Token) : spaced [t] = t.text := List.intercalate_singleton

theorem spaced_cons_cons (t t' : Token) (ts : List Token) :
    spaced (t :: t' :: ts) = t.text ++ ' ' :: spaced (t' :: ts) := by
  simp only [spaced, List.map_cons, List.intercalate_cons_cons, List.append_assoc,
    List.singleton_append]

theorem separated_space (cs : List Char) : Separated (' ' :: cs) :=
  separated_cons (by decide) cs

/-- The text of a token before a separator is read as the token. -/
theorem scan_text_append {t : Token} (h : IsWellFormed t) {b : List Char} (hb : Separated b) :
    scan (t.text ++ b) = t :: scan b := by
  cases h with
  | branch =>
    have isName : IsName ['B'] :=
      ⟨List.cons_ne_nil _ _, List.forall_mem_singleton.mpr (by decide)⟩
    exact scan_append_name isName hb.endsWord
  | @label name isName =>
    rw [text_label, List.append_assoc, List.singleton_append, scan_append_colon isName]
  | @word name isName other =>
    rw [text_word, scan_append_name isName hb.endsWord, ofName_eq, if_neg other]
  | @literal number isNumeral =>
    have longest : splitNumber (number ++ b) = (number, b) := by
      rw [splitNumber_append_separated hb, splitNumber_of_isNumeral isNumeral, List.nil_append]
    rw [text_literal, List.cons_append, scan_append_number longest]
  | @unknown c isOther =>
    have noComment : ¬ StartsComment (c :: b) := by
      rw [startsComment_cons]
      rintro (semicolon | ⟨-, slash⟩)
      · exact isOther.2.2.2 semicolon
      · exact hb.head?_ne (c := '/') (by decide) slash
    rw [text_unknown, List.singleton_append, scan_other isOther noComment]

/-- Tokens that are written with spaces are read one by one. -/
theorem scan_spaced {ts : List Token} (h : ∀ t ∈ ts, IsWellFormed t) : scan (spaced ts) = ts := by
  induction ts with
  | nil => rw [spaced_nil, scan_nil]
  | cons t ts ih =>
    obtain ⟨ht, hts⟩ := List.forall_mem_cons.mp h
    cases ts with
    | nil =>
      have read := scan_text_append ht separated_nil
      rw [List.append_nil, scan_nil] at read
      rw [spaced_singleton, read]
    | cons t' ts =>
      rw [spaced_cons_cons, scan_text_append ht (separated_space _), scan_separator (by decide),
        ih hts]

/-- Tokens in upper case are in upper case when they are written with spaces. -/
theorem upper_spaced {ts : List Token} (h : ∀ t ∈ ts, upper t.text = t.text) :
    upper (spaced ts) = spaced ts := by
  have space : upper [' '] = [' '] := by decide
  have same : ts.map (upper ∘ text) = ts.map text := List.map_congr_left h
  rw [spaced, upper_intercalate, space, List.map_map, same]

/-- Tokens in upper case that are written with spaces are the tokens of the line. -/
theorem ofLine_spaced {ts : List Token} (wellFormed : ∀ t ∈ ts, IsWellFormed t)
    (inUpper : ∀ t ∈ ts, upper t.text = t.text) : ofLine (String.ofList (spaced ts)) = ts := by
  rw [ofLine, String.toList_ofList, upper_spaced inUpper, scan_spaced wellFormed]

/-- The tokens of a line are in upper case. -/
theorem upper_text_of_mem_ofLine {line : String} : ∀ t ∈ ofLine line, upper t.text = t.text := by
  intro t ht
  apply upper_of_forall
  intro c hc
  have kept : c ∈ (ofLine line).flatMap text := List.mem_flatMap.mpr ⟨t, ht, hc⟩
  rw [ofLine, flatMap_text_scan] at kept
  have whole := (cutComment_isPrefix _).mem (List.mem_of_mem_filter kept)
  exact upperChar_of_mem_upper whole

/-- The tokens of a line are read back when they are written with spaces. -/
theorem ofLine_spaced_ofLine (line : String) :
    ofLine (String.ofList (spaced (ofLine line))) = ofLine line :=
  ofLine_spaced (isWellFormed_of_mem_scan _) upper_text_of_mem_ofLine

end RegisterMachine.Token
