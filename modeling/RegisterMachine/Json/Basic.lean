import RegisterMachine.Decimal.Numeral

/-!
# JSON documents

A document as a tree. The tree of a text that stops being JSON has a hole where it does, so that
everything before the hole can still be looked at.
-/

namespace RegisterMachine

/-- A JSON document. A key or string that is not Unicode text, because it names half of a
surrogate pair, is `none`. -/
inductive Json
  | null
  | bool (b : Bool)
  | number (n : Decimal.Numeral)
  | string (s : Option String)
  | array (items : List Json)
  | object (entries : List (Option String × Json))
  /-- The place where the text is no JSON. -/
  | hole
  deriving Repr

namespace Json

/-- The document of a text. -/
def text (s : String) : Json := string (some s)

/-- The document of an integer. -/
def integer (i : Int) : Json := number (.ofInt i)

/-- The object with the given entries, in this order. -/
def fields (entries : List (String × Json)) : Json :=
  object (entries.map fun (key, value) ↦ (some key, value))

/-- The object with one entry. -/
def tagged (tag : String) (content : Json) : Json := fields [(tag, content)]

mutual

/-- Whether the document has no hole. -/
def isWhole : Json → Bool
  | array items => itemsWhole items
  | object entries => entriesWhole entries
  | hole => false
  | _ => true

/-- Whether no item has a hole. -/
def itemsWhole : List Json → Bool
  | [] => true
  | item :: items => isWhole item && itemsWhole items

/-- Whether no entry has a hole. -/
def entriesWhole : List (Option String × Json) → Bool
  | [] => true
  | (_, value) :: entries => isWhole value && entriesWhole entries

end

end Json

end RegisterMachine
