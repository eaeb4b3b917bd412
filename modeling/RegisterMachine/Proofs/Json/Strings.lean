import RegisterMachine.Json.Printer
import RegisterMachine.Json.Reader

/-!
# Written strings

A string that is written in quotes reads back: every character is found again behind its escape, and
no character is half of a surrogate pair.
-/

namespace RegisterMachine.Json

/-! ### Escapes -/

theorem hexValue?_hexDigit : ∀ n < 16, hexValue? (hexDigit n) = some n := by decide

/-- Two hexadecimal digits name the unit that they were written for. -/
theorem unit?_hexDigits {n : Nat} (h : n < 256) :
    unit? ['0', '0', hexDigit (n / 16), hexDigit (n % 16)] = some n := by
  have high := hexValue?_hexDigit (n / 16) (by omega)
  have low := hexValue?_hexDigit (n % 16) (by omega)
  have zero : hexValue? '0' = some 0 := by decide
  simp only [unit?, List.mapM_cons, List.mapM_nil, zero, high, low, Option.pure_def,
    Option.bind_eq_bind, Option.bind_some, Option.map_some, List.foldl_cons, List.foldl_nil]
  congr 1
  omega

/-- A character is written with one letter behind a backslash, by its number, or as it is. -/
theorem escape_cases (c : Char) :
    (∃ letter, escape c = ['\\', letter] ∧ letter ≠ 'u' ∧ escaped? letter = some c) ∨
      (c.toNat < 256 ∧
        escape c = ['\\', 'u', '0', '0', hexDigit (c.toNat / 16), hexDigit (c.toNat % 16)]) ∨
      (c ≠ '"' ∧ c ≠ '\\' ∧ 0x20 ≤ c.toNat ∧ escape c = [c]) := by
  by_cases short : c = '"' ∨ c = '\\' ∨ c = '\n' ∨ c = '\r' ∨ c = '\t' ∨ c = '\x08' ∨ c = '\x0c'
  · left
    rcases short with rfl | rfl | rfl | rfl | rfl | rfl | rfl <;>
      exact ⟨_, rfl, by decide, by decide⟩
  · right
    have quote : c ≠ '"' := fun e ↦ short (.inl e)
    have backslash : c ≠ '\\' := fun e ↦ short (.inr (.inl e))
    have same : escape c = if c.toNat < 0x20 then
        ['\\', 'u', '0', '0', hexDigit (c.toNat / 16), hexDigit (c.toNat % 16)] else [c] := by
      simp only [not_or] at short
      simp only [escape, short, ↓reduceIte]
    by_cases control : c.toNat < 0x20
    · exact .inl ⟨by omega, by rw [same, if_pos control]⟩
    · exact .inr ⟨quote, backslash, by omega, by rw [same, if_neg control]⟩

/-- A character reads back from how it is written. -/
theorem stringUnits?_escape (c : Char) (rest : List Char) :
    stringUnits? (escape c ++ rest) =
      (stringUnits? rest).map fun (units, rest) ↦ (c.toNat :: units, rest) := by
  rcases escape_cases c with
    ⟨letter, written, short, means⟩ | ⟨small, written⟩ | ⟨quote, backslash, printable, written⟩
  · rw [written, List.cons_append, List.cons_append, List.nil_append, stringUnits?, means]
    · rfl
    · intro a b c d rest e
      exact absurd e short
  · simp only [written, List.cons_append, List.nil_append, stringUnits?, unit?_hexDigits small,
      Option.bind_some]
  · rw [written, List.cons_append, List.nil_append, stringUnits?]
    · rw [if_neg (by omega)]
    all_goals simp_all

/-- What is written between quotes reads back up to the closing quote. -/
theorem stringUnits?_flatMap_escape (cs rest : List Char) :
    stringUnits? (cs.flatMap escape ++ '"' :: rest) = some (cs.map Char.toNat, rest) := by
  induction cs with
  | nil => rw [List.flatMap_nil, List.nil_append, stringUnits?]; rfl
  | cons c cs ih =>
    rw [List.flatMap_cons, List.append_assoc, stringUnits?_escape, ih]
    rfl

/-! ### Code points -/

/-- A character is no half of a surrogate pair. -/
theorem not_surrogate (c : Char) :
    isHighSurrogate c.toNat = false ∧ isLowSurrogate c.toNat = false := by
  have valid : c.toNat < 0xD800 ∨ 0xDFFF < c.toNat ∧ c.toNat < 0x110000 := c.valid
  simp only [isHighSurrogate, isLowSurrogate, Bool.and_eq_false_iff, decide_eq_false_iff_not]
  omega

/-- Characters are found again by their code points. -/
theorem unitChars?_map_toNat (cs : List Char) : unitChars? (cs.map Char.toNat) = some cs := by
  induction cs with
  | nil => rfl
  | cons c cs ih =>
    obtain ⟨high, low⟩ := not_surrogate c
    cases cs with
    | nil => simp [unitChars?, high, low]
    | cons d ds =>
      rw [List.map_cons, List.map_cons] at *
      simp [unitChars?, high, low, ih]

/-- A string is found again by its code points. -/
theorem unitString?_map_toNat (s : String) :
    unitString? (s.toList.map Char.toNat) = some s := by
  rw [unitString?, unitChars?_map_toNat, Option.map_some, String.ofList_toList]

/-- A string that is written in quotes reads back. -/
theorem readString_quote (s : String) (rest : List Char) :
    readString (s.toList.flatMap escape ++ '"' :: rest) = (text s, rest) := by
  simp only [readString, stringUnits?_flatMap_escape, unitString?_map_toNat]
  rfl

end RegisterMachine.Json
