import RegisterMachine.Proofs.Source.Positions
import RegisterMachine.Proofs.Source.Trailer

/-!
# Lines kept one by one

The lines of a source are kept one after the other, each at its own position. So the kept lines of
two sources, one after the other, are those of the first, and those of the second behind its lines.
-/

namespace RegisterMachine.Source

open RegisterMachine.Text

/-- The line at an index as it is kept, unless it is blank. -/
def keptAt (index : Nat) (text : String) : List SourceLine :=
  if isBlank text then [] else [lineAt index text]

/-- The lines that are kept of a part of a source that starts at an index. -/
def numberedFrom : Nat → List String → List SourceLine
  | _, [] => []
  | index, text :: source => keptAt index text ++ numberedFrom (index + 1) source

theorem numberedFrom_nil (index : Nat) : numberedFrom index [] = [] := rfl

theorem numberedFrom_cons (index : Nat) (text : String) (source : List String) :
    numberedFrom index (text :: source) = keptAt index text ++ numberedFrom (index + 1) source :=
  rfl

/-- The lines of a further part are kept behind those before it. -/
theorem numberedFrom_append (index : Nat) (above below : List String) :
    numberedFrom index (above ++ below) =
      numberedFrom index above ++ numberedFrom (index + above.length) below := by
  induction above generalizing index with
  | nil => rfl
  | cons text above ih =>
    rw [List.cons_append, numberedFrom_cons, ih, numberedFrom_cons, List.append_assoc,
      List.length_cons, Nat.add_right_comm, Nat.add_assoc]

/-- A source is kept from its start. -/
theorem numbered_eq (source : List String) : numbered source = numberedFrom 0 source := by
  induction source using List.reverseRecOn with
  | nil => rfl
  | append_singleton source text ih =>
    rw [numbered_append_singleton, ih, numberedFrom_append, numberedFrom_cons, numberedFrom_nil,
      List.append_nil, Nat.zero_add]
    rfl

/-- A blank line is not kept. -/
theorem keptAt_of_isBlank {text : String} (blank : isBlank text = true) (index : Nat) :
    keptAt index text = [] := by
  rw [keptAt, if_pos blank]

/-- A line is kept without the white space at its end. -/
theorem keptAt_append {space : List Char} (hspace : ∀ c ∈ space, isSpace c = true) (index : Nat)
    (cs : List Char) :
    keptAt index (String.ofList (cs ++ space)) = keptAt index (String.ofList cs) := by
  rw [keptAt, keptAt, (isTrailer_of_isSpace hspace).isBlank_append, lineAt, lineAt,
    String.toList_ofList, String.toList_ofList, trimEnd_append hspace]

end RegisterMachine.Source
