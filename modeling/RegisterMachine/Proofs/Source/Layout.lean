import Mathlib.Data.List.Forall2
import Mathlib.Order.Monotone.Basic
import RegisterMachine.Proofs.Source.Numbering
import RegisterMachine.Proofs.Text.Stability

/-!
# Layout

Blank lines and comments, white space behind a line and the case of ASCII letters are the layout of
a source. A change of layout moves the lines to new positions, in the same order, and every line
that is kept reads as it did at its old position (`Relaid.forall₂_movesTo`).
-/

namespace RegisterMachine

/-- A line and what it was moved to: a line at the new position that reads the same. -/
structure SourceLine.MovesTo (move : Nat → Nat) (line line' : SourceLine) : Prop where
  number : line'.number = move line.number
  ofLine_eq : Statement.ofLine line'.text = Statement.ofLine line.text

namespace Source

open RegisterMachine.Text

/-- What can be done to a line without a change of what it says. -/
inductive LineEdit : String → String → Prop
  /-- White space and a comment, or white space only, is put behind the line. -/
  | append {line line' : String} {space : Char} {note : List Char} (hspace : isSpace space = true)
      (hnote : IsNote note) (h : line'.toList = line.toList ++ space :: note) : LineEdit line line'
  /-- Letters of ASCII are put in upper or lower case. -/
  | recase {line line' : String} (h : line'.toList.map Char.toUpper = line.toList.map Char.toUpper) :
      LineEdit line line'

/-- One change of the layout of a source, with the new position of each line. -/
inductive Edit : List String → List String → (Nat → Nat) → Prop
  /-- White space and a comment, or one of them, or nothing, is put in as a line of its own. -/
  | insert (above below : List String) {line : String} {spaces note : List Char}
      (hspaces : ∀ c ∈ spaces, isSpace c = true) (hnote : IsNote note)
      (h : line.toList = spaces ++ note) :
      Edit (above ++ below) (above ++ line :: below)
        fun number ↦ if number ≤ above.length then number else number + 1
  /-- A line is changed where it stands. -/
  | change (above below : List String) {line line' : String} (h : LineEdit line line') :
      Edit (above ++ line :: below) (above ++ line' :: below) id

/-- Any number of changes of the layout, one after the other, with the new position of each
line. -/
inductive Relaid (source : List String) : List String → (Nat → Nat) → Prop
  | refl : Relaid source source id
  | tail {source' source'' : List String} {move next : Nat → Nat} (h : Relaid source source' move)
      (edit : Edit source' source'' next) : Relaid source source'' (next ∘ move)

/-! ### One line -/

/-- What a line says depends on its upper case only. -/
theorem ofLine_eq_of_upper_eq {line line' : String}
    (h : upper line'.toList = upper line.toList) :
    Statement.ofLine line' = Statement.ofLine line := by
  rw [Statement.ofLine, Token.ofLine, h]
  rfl

/-- Whether a line is blank depends on its upper case only. -/
theorem isBlank_eq_of_upper_eq {line line' : String}
    (h : upper line'.toList = upper line.toList) : isBlank line' = isBlank line := by
  have inUpper (text : String) :
      isBlank text = true ↔ ∀ c ∈ cutComment (upper text.toList), isSpace c = true := by
    rw [cutComment_upper, forall_mem_upper_iff fun _ ↦ isCaseless_of_isSpace]
    exact List.all_eq_true
  rw [Bool.eq_iff_iff, inUpper, inUpper, h]

/-- The case of the letters of ASCII is lost in upper case. -/
theorem upper_eq_of_map_toUpper_eq {cs cs' : List Char}
    (h : cs'.map Char.toUpper = cs.map Char.toUpper) : upper cs' = upper cs := by
  rw [← upper_map_toUpper cs', h, upper_map_toUpper]

namespace LineEdit

variable {line line' : String}

/-- A changed line says the same. -/
theorem ofLine_eq (h : LineEdit line line') : Statement.ofLine line' = Statement.ofLine line := by
  cases h with
  | append hspace hnote h =>
    have same := (isTrailer_cons hspace hnote).ofLine_append line.toList
    rw [← h, String.ofList_toList, String.ofList_toList] at same
    exact same
  | recase h => exact ofLine_eq_of_upper_eq (upper_eq_of_map_toUpper_eq h)

/-- A changed line is blank exactly if it was. -/
theorem isBlank_eq (h : LineEdit line line') : isBlank line' = isBlank line := by
  cases h with
  | append hspace hnote h =>
    have same := (isTrailer_cons hspace hnote).isBlank_append line.toList
    rw [← h, String.ofList_toList, String.ofList_toList] at same
    exact same
  | recase h => exact isBlank_eq_of_upper_eq (upper_eq_of_map_toUpper_eq h)

end LineEdit

/-- A line of white space and a comment is blank. -/
theorem isBlank_of_isNote {line : String} {spaces note : List Char}
    (hspaces : ∀ c ∈ spaces, isSpace c = true) (hnote : IsNote note)
    (h : line.toList = spaces ++ note) : isBlank line = true := by
  have plain : ∀ c ∈ spaces, isMark c = false :=
    fun c hc ↦ Token.isMark_of_isSeparator (Token.isSeparator_of_isSpace (hspaces c hc))
  rw [isBlank, h, cutComment_append plain, hnote.cutComment_eq, List.append_nil]
  exact List.all_eq_true.mpr hspaces

/-! ### All lines -/

variable {move next : Nat → Nat}

/-- A line is kept at its new position if it reads the same and is not blank. -/
theorem forall₂_keptAt {index index' : Nat} {text text' : String}
    (moved : index' + 1 = move (index + 1)) (blank : isBlank text' = isBlank text)
    (same : Statement.ofLine text' = Statement.ofLine text) :
    List.Forall₂ (SourceLine.MovesTo move) (keptAt index text) (keptAt index' text') := by
  rw [keptAt, keptAt, blank]
  split
  · exact .nil
  · refine .cons ⟨moved, ?_⟩ .nil
    rw [ofLine_lineAt, ofLine_lineAt, same]

/-- Lines that stay together and move down are kept there. -/
theorem forall₂_numberedFrom {index : Nat} {source : List String} (shift : Nat)
    (moved : ∀ number, index < number → number ≤ index + source.length →
      move number = number + shift) :
    List.Forall₂ (SourceLine.MovesTo move) (numberedFrom index source)
      (numberedFrom (index + shift) source) := by
  induction source generalizing index with
  | nil => exact .nil
  | cons text source ih =>
    rw [List.length_cons] at moved
    have first : index + shift + 1 = move (index + 1) := by
      rw [moved (index + 1) (by omega) (by omega)]
      omega
    have rest : List.Forall₂ (SourceLine.MovesTo move) (numberedFrom (index + 1) source)
        (numberedFrom (index + 1 + shift) source) :=
      ih fun number low high ↦ moved number (by omega) (by omega)
    rw [Nat.add_right_comm] at rest
    exact List.rel_append (forall₂_keptAt first rfl rfl) rest

namespace Edit

variable {source source' : List String}

/-- A change of layout keeps the order of the lines. -/
theorem strictMono (h : Edit source source' move) : StrictMono move := by
  cases h with
  | insert above below hspaces hnote h =>
    intro number number' less
    dsimp only
    split <;> split <;> omega
  | change above below h => exact strictMono_id

/-- After a change of layout the lines that are kept stand at their new positions. -/
theorem forall₂_movesTo (h : Edit source source' move) :
    List.Forall₂ (SourceLine.MovesTo move) (numbered source) (numbered source') := by
  cases h with
  | insert above below hspaces hnote h =>
    -- The new line is not kept; those above it stay, and those below it move down by one.
    rw [numbered_eq, numbered_eq, numberedFrom_append, numberedFrom_append, numberedFrom_cons,
      keptAt_of_isBlank (isBlank_of_isNote hspaces hnote h), List.nil_append]
    apply List.rel_append
    · refine forall₂_numberedFrom 0 fun number low high ↦ ?_
      rw [if_pos (by omega)]
      rfl
    · refine forall₂_numberedFrom 1 fun number low high ↦ ?_
      rw [if_neg (by omega)]
  | @change above below line line' h =>
    rw [numbered_eq, numbered_eq, numberedFrom_append, numberedFrom_append, numberedFrom_cons,
      numberedFrom_cons]
    have stays {index : Nat} {source : List String} :
        List.Forall₂ (SourceLine.MovesTo id) (numberedFrom index source)
          (numberedFrom index source) :=
      forall₂_numberedFrom 0 fun _ _ _ ↦ rfl
    have changed (index : Nat) :
        List.Forall₂ (SourceLine.MovesTo id) (keptAt index line) (keptAt index line') :=
      forall₂_keptAt rfl h.isBlank_eq h.ofLine_eq
    exact List.rel_append stays (List.rel_append (changed _) stays)

end Edit

/-- Lines that are moved twice are moved. -/
theorem forall₂_movesTo_comp {lines lines' lines'' : List SourceLine}
    (h : List.Forall₂ (SourceLine.MovesTo move) lines lines')
    (h' : List.Forall₂ (SourceLine.MovesTo next) lines' lines'') :
    List.Forall₂ (SourceLine.MovesTo (next ∘ move)) lines lines'' := by
  induction h generalizing lines'' with
  | nil =>
    cases h'
    exact .nil
  | cons first rest ih =>
    cases h' with
    | cons first' rest' =>
      refine .cons ⟨?_, first'.ofLine_eq.trans first.ofLine_eq⟩ (ih rest')
      rw [first'.number, first.number]
      rfl

namespace Relaid

variable {source source' : List String}

/-- Changes of layout keep the order of the lines. -/
theorem strictMono (h : Relaid source source' move) : StrictMono move := by
  induction h with
  | refl => exact strictMono_id
  | tail _ edit ih => exact edit.strictMono.comp ih

/-- After changes of layout the lines that are kept stand at their new positions. -/
theorem forall₂_movesTo (h : Relaid source source' move) :
    List.Forall₂ (SourceLine.MovesTo move) (numbered source) (numbered source') := by
  induction h with
  | refl => exact List.forall₂_same.mpr fun line _ ↦ ⟨rfl, rfl⟩
  | tail _ edit ih => exact forall₂_movesTo_comp ih edit.forall₂_movesTo

end Relaid

end Source

end RegisterMachine
