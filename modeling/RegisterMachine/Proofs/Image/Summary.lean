import RegisterMachine.Image.Writer
import RegisterMachine.Proofs.Listing.Registers

/-!
# Summaries as JSON

The text of a summary over several lines, written out (`Image.prettyText_ofSummary`).
-/

namespace RegisterMachine

/-- A number under the name of its kind, on lines of their own. -/
def taggedEntry (kind number : String) : String :=
  "    \x7b\n      \"" ++ kind ++ "\": " ++ number ++ "\n    \x7d"

/-- The content of a register in a summary. The digits of finite binary64 numbers are positional
from `0.00001` on, below `10 ^ 16`. -/
def Value.entry : Value → String
  | .int n => taggedEntry "Int" (toString n.toInt)
  | .float x => taggedEntry "Float"
    (if x.isFinite then (Decimal.Numeral.ofBinary64 ⟨.toEven, -5, .plus⟩ x).text else "null")

/-- The text of a summary: steps, flag, and the contents of the registers from `R0` on. -/
def Summary.shown (s : Summary) : String :=
  "\x7b\n  \"steps\": " ++ toString s.steps ++ ",\n  \"flag\": \"" ++ s.flag.word ++
    "\",\n  \"registers\": [\n" ++ ",\n".intercalate (s.registers.toList.map Value.entry) ++
    "\n  ]\n\x7d"

namespace Json

/-- Items stand on lines of their own, each but the last with a comma behind it. -/
theorem prettyItems_eq (level : Nat) (item : Json) (items : List Json) :
    List.replicate (2 * level) ' ' ++ prettyAt level item ++ prettyItems level items =
      [',', '\n'].intercalate
        ((item :: items).map (List.replicate (2 * level) ' ' ++ prettyAt level ·)) := by
  induction items generalizing item with
  | nil => simp [prettyItems]
  | cons next items ih =>
    have rest := ih next
    rw [List.map_cons] at rest ⊢
    rw [List.map_cons, List.intercalate_cons_cons, ← rest, prettyItems, newLine]
    simp

theorem prettyAt_array (level : Nat) {items : List Json} (nonempty : items ≠ []) :
    (array items).prettyAt level =
      ['[', '\n'] ++ [',', '\n'].intercalate
        (items.map (List.replicate (2 * (level + 1)) ' ' ++ prettyAt (level + 1) ·)) ++
        newLine level ++ [']'] := by
  cases items with
  | nil => exact absurd rfl nonempty
  | cons item items =>
    rw [← prettyItems_eq, prettyAt]
    simp [newLine]

/-- The one entry of an object stands on a line of its own. -/
theorem prettyAt_tagged (level : Nat) (tag : String) (content : Json) :
    (tagged tag content).prettyAt level =
      '\x7b' :: (newLine (level + 1) ++ quote tag ++ [':', ' '] ++ content.prettyAt (level + 1) ++
        newLine level ++ ['\x7d']) := by
  simp [tagged, fields, prettyAt, prettyEntries, quoted]

theorem toList_toString (i : Int) (level : Nat) :
    (toString i).toList = (integer i).prettyAt level := by
  rw [← Decimal.ofList_integerDigits, String.toList_ofList, ← Decimal.Numeral.chars_ofInt]
  rfl

end Json

namespace Image

open Json (prettyAt_tagged prettyAt_array)

theorem toList_taggedEntry {kind number : String} {content : Json}
    (plain : Json.quote kind = '"' :: (kind.toList ++ ['"']))
    (written : number.toList = content.prettyAt 3) :
    (taggedEntry kind number).toList =
      List.replicate 4 ' ' ++ (Json.tagged kind content).prettyAt 2 := by
  have opening : "    \x7b\n      \"".toList =
      List.replicate 4 ' ' ++ '\x7b' :: (Json.newLine 3 ++ ['"']) := by decide
  have middle : "\": ".toList = ['"', ':', ' '] := by decide
  have closing : "\n    \x7d".toList = Json.newLine 2 ++ ['\x7d'] := by decide
  rw [prettyAt_tagged, plain, ← written]
  unfold taggedEntry
  simp only [String.toList_append, opening, middle, closing]
  simp only [List.append_assoc, List.cons_append, List.nil_append]

theorem toList_entry (v : Value) :
    v.entry.toList = List.replicate 4 ' ' ++ (ofValue v).prettyAt 2 := by
  cases v with
  | int n => exact toList_taggedEntry (by decide) (Json.toList_toString n.toInt 3)
  | float x =>
    refine toList_taggedEntry (by decide) ?_
    rw [ofBinary64]
    split
    · exact String.toList_ofList
    · decide

theorem quote_flag (flag : Flag) : Json.quote flag.text = '"' :: (flag.word.toList ++ ['"']) := by
  cases flag <;> decide

theorem toList_entries (registers : Registers) :
    (",\n".intercalate (registers.toList.map Value.entry)).toList =
      [',', '\n'].intercalate
        ((registers.toList.map ofValue).map (List.replicate 4 ' ' ++ ·.prettyAt 2)) := by
  have between : ",\n".toList = [',', '\n'] := by decide
  rw [String.toList_intercalate, between, List.map_map, List.map_map]
  exact congrArg _ (List.map_congr_left fun v _ ↦ toList_entry v)

theorem toList_shown (s : Summary) : s.shown.toList = (ofSummary s).prettyAt 0 := by
  have filled : s.registers.toList.map ofValue ≠ [] := by
    rw [← List.length_pos_iff, List.length_map, Vector.length_toList]
    decide
  have registers := prettyAt_array 1 filled
  rw [← toList_entries] at registers
  have count : (toString s.steps).toList = (Json.integer s.steps).prettyAt 1 :=
    Json.toList_toString s.steps 1
  have steps : "\x7b\n  \"steps\": ".toList =
      '\x7b' :: (Json.newLine 1 ++ Json.quote "steps" ++ [':', ' ']) := by decide
  have flag : ",\n  \"flag\": \"".toList =
      ',' :: (Json.newLine 1 ++ Json.quote "flag" ++ [':', ' ', '"']) := by decide
  have contents : "\",\n  \"registers\": [\n".toList =
      '"' :: ',' :: (Json.newLine 1 ++ Json.quote "registers" ++ [':', ' ', '[', '\n']) := by decide
  have closing : "\n  ]\n\x7d".toList =
      Json.newLine 1 ++ ']' :: (Json.newLine 0 ++ ['\x7d']) := by decide
  unfold Summary.shown
  simp only [String.toList_append, count, steps, flag, contents, closing]
  simp only [ofSummary, Json.fields, Json.text, List.map_cons, List.map_nil, Json.prettyAt,
    Json.prettyEntries, Json.quoted, Option.map_some, Option.getD_some, quote_flag, registers]
  simp only [List.append_assoc, List.cons_append, List.nil_append]

/-- The text of a summary's document is the summary written out. -/
theorem prettyText_ofSummary (s : Summary) : (ofSummary s).prettyText = s.shown := by
  rw [Json.prettyText, ← toList_shown, String.ofList_toList]

end Image

end RegisterMachine
