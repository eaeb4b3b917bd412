import RegisterMachine.Proofs.Assembler.Acceptance
import RegisterMachine.Proofs.Statement.Grammar
import RegisterMachine.Proofs.Token.Names

/-!
# Branches to labels

A branch finds the label of its name, also where the name is that of an operation, a condition or
a register (`assemble_label_branch`). Only the branch word itself can be declared and not be
branched to.
-/

namespace RegisterMachine

open Text (upper)
open Token (IsName IsAsciiName)

/-- The line of a branch: the branch word, the word of the condition if it has one, the target. -/
def branchLine (condition : Condition) (target : String) : String :=
  " ".intercalate ("B" :: (condition.mnemonic?.toList ++ [target]))

/-- Only what is always taken has no word. -/
theorem Condition.mnemonic?_eq_none_iff {condition : Condition} :
    condition.mnemonic? = none ↔ condition = .always := by
  cases condition <;> decide

namespace Statement

variable {name : String}

/-- A name and a colon declare the label of the name. -/
theorem ofLine_append_colon (isName : IsName (upper name.toList)) :
    ofLine (name ++ ":") = .ok (some (.label (String.ofList (upper name.toList)))) := by
  rw [ofLine, Token.ofLine_append_colon isName, (Spells.label _).parse_eq]

/-- The tokens of the line of a branch. -/
theorem tokens_branchLine (isName : IsName (upper name.toList)) (condition : Condition) :
    Token.ofLine (branchLine condition name) =
      ⟨.branch, "B"⟩ :: (condition.mnemonic?.toList.map (Token.mk .word) ++
        [Token.ofName (upper name.toList)]) := by
  have branch : IsName (upper "B".toList) ∧ Token.ofName (upper "B".toList) = ⟨.branch, "B"⟩ := by
    decide
  have word : ∀ word ∈ condition.mnemonic?.toList,
      IsName (upper word.toList) ∧ Token.ofName (upper word.toList) = ⟨.word, word⟩ := by
    cases condition <;> decide
  have areNames : ∀ name' ∈ "B" :: (condition.mnemonic?.toList ++ [name]),
      IsName (upper name'.toList) := by
    rw [List.forall_mem_cons, List.forall_mem_append, List.forall_mem_singleton]
    exact ⟨branch.1, fun w hw ↦ (word w hw).1, isName⟩
  rw [branchLine, Token.ofLine_intercalate areNames, List.map_cons, branch.2, List.map_append,
    List.map_congr_left fun w hw ↦ (word w hw).2, List.map_singleton]

/-- The line of a branch says the branch, unless its target is the branch word. -/
theorem ofLine_branchLine (isName : IsName (upper name.toList))
    (other : upper name.toList ≠ ['B']) (condition : Condition) :
    ofLine (branchLine condition name) =
      .ok (some (.branch condition (String.ofList (upper name.toList)))) := by
  rw [ofLine, tokens_branchLine isName, Token.ofName_eq, if_neg other]
  cases named : condition.mnemonic? with
  | none =>
    rw [Condition.mnemonic?_eq_none_iff.mp named]
    exact congrArg Prod.fst (Spells.branch "B" _).parse_eq
  | some word => exact congrArg Prod.fst (Spells.conditional named "B" _).parse_eq

/-- The branch word is no target. -/
theorem ofLine_branchLine_branch (same : upper name.toList = ['B']) (condition : Condition) :
    ofLine (branchLine condition name) = .error (.malformedBranch "'B' is not a label") := by
  have isName : IsName (upper name.toList) := by
    rw [same]
    decide
  rw [ofLine, tokens_branchLine isName, Token.ofName_eq, if_pos same]
  cases named : condition.mnemonic? with
  | none => exact (Faulty.target "B" (by decide) []).parse_eq
  | some word => exact (Faulty.targetAfterCondition "B" named (by decide) []).parse_eq

end Statement

/-- A label and a branch to it are realized by the branch to slot 1. -/
theorem Program.realizes_label_branch (name : String) (condition : Condition) :
    Program.Realizes ⟨#[.branch condition 1]⟩ [.label name, .branch condition name] where
  body := by
    have slot : Statement.slotOf ([] ++ .label name :: [.branch condition name]) name = 1 :=
      Statement.slotOf_eq List.not_mem_nil
    have stands : (Statement.branch condition name).instruction?
        [.label name, .branch condition name] = some (.branch condition 1) := by
      rw [List.nil_append] at slot
      rw [Statement.instruction?, if_pos List.mem_cons_self, slot]
    exact congrArg (fun found ↦ [found]) stands
  labels := by
    intro before after other split
    cases before with
    | nil => exact List.not_mem_nil
    | cons s before =>
      have again : .label other ∈ [Statement.branch condition name] := by
        rw [(List.cons.inj split).2]
        exact List.mem_append_right _ List.mem_cons_self
      cases List.mem_singleton.mp again

/-- A label can be branched to unless its name is the branch word. -/
theorem assemble_label_branch_of_ne {name : String} (isName : IsName (upper name.toList))
    (other : upper name.toList ≠ ['B']) (condition : Condition) :
    assemble [name ++ ":", branchLine condition name] = .ok ⟨#[.branch condition 1]⟩ := by
  have label := Statement.ofLine_append_colon isName
  have branch := Statement.ofLine_branchLine isName other condition
  have said : Source.statements [name ++ ":", branchLine condition name] =
      [.label (String.ofList (upper name.toList)),
        .branch condition (String.ofList (upper name.toList))] := by
    simp only [Source.statements, List.filterMap_cons, Source.statement?, label, branch,
      List.filterMap_nil]
  rw [assemble_eq_ok_iff, said]
  refine ⟨?_, Program.realizes_label_branch _ condition⟩
  rw [List.forall_mem_cons, List.forall_mem_singleton]
  exact ⟨⟨_, label⟩, ⟨_, branch⟩⟩

/-- No white space stands at the end of the line of a branch. -/
theorem trimEnd_branchLine {name : String} (isName : IsName (upper name.toList))
    (condition : Condition) :
    Text.trimEnd (branchLine condition name).toList = (branchLine condition name).toList := by
  have written : branchLine condition name =
      " ".intercalate ("B" :: condition.mnemonic?.toList) ++ " " ++ name := by
    rw [branchLine, ← List.cons_append,
      String.intercalate_append_of_ne_nil (List.cons_ne_nil _ _) (List.cons_ne_nil _ _),
      String.intercalate_singleton]
  obtain ⟨letters, c, ends, solid⟩ := Token.exists_concat_of_isName isName
  rw [written, String.toList_append, ends, ← List.append_assoc]
  simp [Text.trimEnd, solid]

/-- What is wrong with a label and a line below it that cannot be read is what is wrong with that
line. -/
theorem diagnosed_label_error {first second name : String} {fault : Fault}
    (label : Statement.ofLine first = .ok (some (.label name)))
    (unread : Statement.ofLine second = .error fault) :
    diagnosed [first, second] = [⟨Source.lineAt 1 second, fault⟩] := by
  have solid {text : String} (said : Statement.ofLine text ≠ .ok none) :
      Source.isBlank text = false :=
    Bool.eq_false_iff.mpr fun blank ↦ said (Statement.ofLine_of_isBlank blank)
  have kept : Source.numbered [first, second] =
      [Source.lineAt 0 first, Source.lineAt 1 second] := by
    have above : Source.isBlank first = false := solid (by simp [label])
    have below : Source.isBlank second = false := solid (by simp [unread])
    rw [show [first, second] = [] ++ [first] ++ [second] from rfl,
      Source.numbered_append_singleton, Source.numbered_append_singleton]
    simp [above, below]
  have topmost : Source.above [Source.lineAt 0 first, Source.lineAt 1 second]
      (Source.lineAt 0 first) = [] := rfl
  have clean : (Source.lineAt 0 first).faults [Source.lineAt 0 first, Source.lineAt 1 second] =
      [] := by
    simp only [SourceLine.faults, Source.ofLine_lineAt, label, topmost, List.find?_nil,
      Option.toList_none, List.map_nil]
  have faulty : (Source.lineAt 1 second).faults [Source.lineAt 0 first, Source.lineAt 1 second] =
      [fault] := by
    simp only [SourceLine.faults, Source.ofLine_lineAt, unread]
  rw [diagnosed_eq, kept, Source.allReports, List.flatMap_cons, List.flatMap_singleton, clean,
    faulty]
  rfl

/-- A label whose name is the branch word cannot be branched to: the target is malformed, which is
all that is wrong. -/
theorem assemble_label_branch_of_eq {name : String} (same : upper name.toList = ['B'])
    (condition : Condition) :
    assemble [name ++ ":", branchLine condition name] =
      .error ⟨[⟨⟨2, branchLine condition name⟩, .malformedBranch "'B' is not a label"⟩]⟩ := by
  have isName : IsName (upper name.toList) := by
    rw [same]
    decide
  have label := Statement.ofLine_append_colon isName
  have branch := Statement.ofLine_branchLine_branch same condition
  have line : Source.lineAt 1 (branchLine condition name) = ⟨2, branchLine condition name⟩ := by
    rw [Source.lineAt, trimEnd_branchLine isName, String.ofList_toList]
  have found := diagnosed_label_error label branch
  rw [line] at found
  exact assemble_of_diagnosed_eq found (List.cons_ne_nil _ _)

/-- A label whose name is made of ASCII letters, digits and underscores can be branched to under
every condition: the program is the branch to slot 1. Only a label `B` cannot, as this word is read
as the start of a branch. -/
theorem assemble_label_branch {name : String} (isName : IsAsciiName name) (condition : Condition) :
    assemble [name ++ ":", branchLine condition name] =
      if name = "B" ∨ name = "b" then
        .error ⟨[⟨⟨2, branchLine condition name⟩, .malformedBranch "'B' is not a label"⟩]⟩
      else .ok ⟨#[.branch condition 1]⟩ := by
  split
  · next reserved =>
    exact assemble_label_branch_of_eq (isName.upper_eq_iff.mpr reserved) condition
  · next other =>
    have noBranch := mt isName.upper_eq_iff.mp other
    exact assemble_label_branch_of_ne isName.isName noBranch condition

/-- A label with the word of a condition for its name, in mixed case, is branched to under that
condition. -/
theorem assemble_label_branch_eq :
    IsAsciiName "Eq" ∧ branchLine .eq "Eq" = "B EQ Eq" ∧
      assemble ["Eq:", "B EQ Eq"] = .ok ⟨#[.branch .eq 1]⟩ := by
  have isName : IsAsciiName "Eq" := by decide
  have written : branchLine .eq "Eq" = "B EQ Eq" := by decide
  refine ⟨isName, written, ?_⟩
  rw [← written]
  exact assemble_label_branch isName .eq

/-- Not every label that can be declared can be branched to. -/
theorem not_assemble_label_branch :
    ¬ ∀ name, IsAsciiName name → ∀ condition,
      assemble [name ++ ":", branchLine condition name] = .ok ⟨#[.branch condition 1]⟩ := by
  intro all
  have branched := all "B" (by decide) .always
  have rejected : assemble ["B:", "B B"] ≠ .ok ⟨#[.branch .always 1]⟩ := by decide +kernel
  exact rejected branched

end RegisterMachine
