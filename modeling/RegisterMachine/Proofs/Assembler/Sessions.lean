import RegisterMachine.Assembler.Records

/-!
# An assembler used again

An assembler is reset before every source, and nothing tells an assembler that is reset from a new
one. So the answers to any sequence of calls are those of new assemblers, one for each call, and so
are the labels and branches that each call leaves.
-/

namespace RegisterMachine.Assembler

/-- What an assembler is called with: the lines of a source, or a source as one text. -/
inductive Call
  | lines (source : List String)
  | text (source : String)
  deriving DecidableEq, Repr

/-- The answer to a call, and the assembler after it. -/
def answer (a : Assembler) : Call → Except Rejection Program × Assembler
  | .lines source => a.assemble source
  | .text source => a.assembleText source

/-- The answers to calls one after the other, each with the assembler that the next call finds. -/
def answers : Assembler → List Call → List (Except Rejection Program × Assembler)
  | _, [] => []
  | a, call :: calls => a.answer call :: (a.answer call).2.answers calls

/-- Nothing is kept of an earlier source. -/
theorem reset_eq_empty (a : Assembler) : a.reset = empty := rfl

/-- A source is assembled as by a new assembler. -/
theorem assemble_eq_empty (a : Assembler) (source : List String) :
    a.assemble source = empty.assemble source := by
  simp only [assemble, reset_eq_empty]

/-- The records of a source are those of a new assembler. -/
theorem records_eq_empty (a : Assembler) (threshold : Log.Level) (source : List String) :
    a.records threshold source = empty.records threshold source := by
  simp only [records, allRecords, reset_eq_empty, a.assemble_eq_empty source]

/-- A call is answered as by a new assembler. -/
theorem answer_eq_empty (a : Assembler) (call : Call) : a.answer call = empty.answer call := by
  cases call with
  | lines source => exact a.assemble_eq_empty source
  | text source => exact a.assemble_eq_empty (Source.lines source)

/-- An assembler answers calls one after the other as new assemblers would, one for each call: with
the same outcomes and the same labels and branches after each of them, whatever it was used for
before. -/
theorem answers_eq_map (a : Assembler) (calls : List Call) :
    a.answers calls = calls.map empty.answer := by
  induction calls generalizing a with
  | nil => rfl
  | cons call calls ih => rw [answers, ih, answer_eq_empty, List.map_cons]

/-- A label of a rejected source is gone, and a branch to it is at the first slot again. -/
example : (empty.answers [.lines ["a:", "mul"], .text "b a\n"]).map
      (fun answer ↦ (answer.1.toOption, answer.2.labels.toList, answer.2.jumps)) =
    [(none, [("A", ⟨1, 1⟩)], []), (none, [], [⟨1, .always, "A", ⟨1, "b a"⟩⟩])] := by
  decide +kernel

end RegisterMachine.Assembler
