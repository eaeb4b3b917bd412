import RegisterMachine.Proofs.Assembler.Acceptance
import RegisterMachine.Proofs.Assembler.ControlFlow
import RegisterMachine.Proofs.Assembler.Sessions
import RegisterMachine.Proofs.Listing.Registers

/-!
# What assembling reports

The pass over a source that has a program reports, line by line, each label with the slot that it
points to and each operation with the slot that it takes. The slots are those of the program: the
reported instructions stand there, and the branches to a label go there.
-/

namespace RegisterMachine

open Log Source

/-! ### Slots -/

namespace Statement

variable {slot k : Nat} {s : Statement} {ss : List Statement}

/-- Whether a statement is an operation. -/
def isOperation : Statement → Bool
  | .operation .. => true
  | .label _ | .branch .. => false

/-- Whether a statement is a branch. -/
def isBranch : Statement → Bool
  | .branch .. => true
  | .label _ | .operation .. => false

/-- The label that a statement declares. -/
def declared? : Statement → Option String
  | .label name => some name
  | .branch .. | .operation .. => none

theorem mem_declared_iff {name : String} : name ∈ ss.filterMap declared? ↔ .label name ∈ ss := by
  rw [List.mem_filterMap]
  constructor
  · rintro ⟨s, hs, declares⟩
    cases s with
    | label other =>
      cases declares
      exact hs
    | branch condition target | operation op operands => cases declares
  · exact fun hs ↦ ⟨_, hs, rfl⟩

/-- Labels that are each declared once are different. -/
theorem nodup_declared
    (once : ∀ before after name, ss = before ++ .label name :: after → .label name ∉ before) :
    (ss.filterMap declared?).Nodup := by
  induction ss using List.reverseRecOn with
  | nil => exact List.Pairwise.nil
  | append_singleton ss s ih =>
    have earlier := ih fun before after name split ↦
      once before (after ++ [s]) name (by rw [split, List.append_assoc, List.cons_append])
    cases s with
    | branch condition target | operation op operands =>
      rw [List.filterMap_append]
      exact (List.append_nil _).symm ▸ earlier
    | label name =>
      have unseen := mt mem_declared_iff.mp (once ss [] name rfl)
      have last : [label name].filterMap declared? = [name] := rfl
      rw [List.filterMap_append, last, List.nodup_append]
      refine ⟨earlier, List.pairwise_singleton _ _, fun seen hseen other hother same ↦ unseen ?_⟩
      rwa [← List.mem_singleton.mp hother, ← same]

/-- Statements with their slots, from the first free slot on. A label points to the slot of what
follows it. -/
def placed : Nat → List Statement → List (Statement × Nat)
  | _, [] => []
  | slot, s :: ss => (s, slot) :: placed (slot + if s.takesSlot then 1 else 0) ss

/-- Every statement has a slot, in order. -/
theorem map_fst_placed (slot : Nat) (ss : List Statement) : (placed slot ss).map Prod.fst = ss := by
  induction ss generalizing slot with
  | nil => rfl
  | cons s ss ih => rw [placed, List.map_cons, ih]

/-- The slot of a statement comes after those of the statements before it. -/
theorem mem_placed_iff :
    (s, k) ∈ placed slot ss ↔
      ∃ before after, ss = before ++ s :: after ∧ k = slot + before.countP takesSlot := by
  induction ss generalizing slot with
  | nil => simp [placed]
  | cons first ss ih =>
    rw [placed, List.mem_cons, ih]
    constructor
    · rintro (same | ⟨before, after, rfl, rfl⟩)
      · cases same
        exact ⟨[], ss, rfl, rfl⟩
      · refine ⟨first :: before, after, rfl, ?_⟩
        rw [List.countP_cons, Nat.add_right_comm, Nat.add_assoc]
    · rintro ⟨before, after, split, rfl⟩
      cases before with
      | nil =>
        cases split
        exact .inl rfl
      | cons first before =>
        cases split
        refine .inr ⟨before, after, rfl, ?_⟩
        rw [List.countP_cons, Nat.add_right_comm, Nat.add_assoc]

/-- The statements that take a slot take the slots from the first free one on. -/
theorem filter_placed (slot : Nat) (ss : List Statement) :
    (placed slot ss).filter (·.1.takesSlot) = (ss.filter takesSlot).zipIdx slot := by
  induction ss generalizing slot with
  | nil => rfl
  | cons s ss ih =>
    rw [placed, List.filter_cons, List.filter_cons, ih]
    cases s.takesSlot with
    | true => rfl
    | false => rfl

/-- The slots of operations ascend. -/
theorem pairwise_placed (slot : Nat) (ss : List Statement) :
    (((placed slot ss).filter (·.1.isOperation)).map Prod.snd).Pairwise (· < ·) := by
  have ascending : (((ss.filter takesSlot).zipIdx slot).map Prod.snd).Pairwise (· < ·) := by
    rw [List.zipIdx_map_snd]
    exact List.pairwise_lt_range'
  rw [← filter_placed] at ascending
  refine ascending.sublist (List.Sublist.map _ ?_)
  apply List.monotone_filter_right
  rintro ⟨s, k⟩ operation
  cases s with
  | operation op operands => rfl
  | label name | branch condition target => cases operation

end Statement

open Statement (placed mem_placed_iff filter_placed)

/-- Whether an instruction is a branch. -/
def Instruction.isBranch : Instruction → Bool
  | .branch .. => true
  | _ => false

/-- What an operation builds is no branch. -/
theorem Instruction.isBranch_of_build? {i : Instruction} {op : Opcode} {operands : List Operand}
    (built : op.build? operands = some i) : i.isBranch = false := by
  cases i with
  | branch condition target => exact absurd built (op.build?_ne_branch _ _ _)
  | nop | add | sub | cmp | mov | halt => rfl

namespace Program.Realizes

variable {p : Program} {ss : List Statement} {slot : Nat}

/-- What a realized statement stands for is in its slot. -/
theorem get?_of_mem_placed (h : p.Realizes ss) {s : Statement} (takes : s.takesSlot = true)
    (hs : (s, slot) ∈ placed 1 ss) : ∃ i, s.instruction? ss = some i ∧ p.get? slot = some i := by
  have among : (s, slot) ∈ (ss.filter Statement.takesSlot).zipIdx 1 := by
    rw [← filter_placed]
    exact List.mem_filter.mpr ⟨hs, takes⟩
  obtain ⟨first, here⟩ := List.mk_mem_zipIdx_iff_le_and_getElem?_sub.mp among
  obtain ⟨i, stands, held⟩ := h.get?_succ here
  rw [Nat.sub_add_cancel first] at held
  exact ⟨i, stands, held⟩

/-- What a realized operation has built is in its slot. -/
theorem build?_of_mem_placed (h : p.Realizes ss) {op : Opcode} {operands : List Operand}
    (hs : (.operation op operands, slot) ∈ placed 1 ss) :
    ∃ i, op.build? operands = some i ∧ p.get? slot = some i := by
  obtain ⟨i, stands, held⟩ := h.get?_of_mem_placed rfl hs
  exact ⟨i, (Opcode.instruction?_eq_some_iff.mp stands).2, held⟩

/-- A branch goes to the slot of its label. -/
theorem get?_of_label_mem_placed (h : p.Realizes ss) {name : String}
    (hs : (.label name, slot) ∈ placed 1 ss) {k : Nat} {condition : Condition}
    (branch : (ss.filter Statement.takesSlot)[k]? = some (.branch condition name)) :
    p.get? (k + 1) = some (.branch condition slot) := by
  obtain ⟨before, after, split, rfl⟩ := mem_placed_iff.mp hs
  obtain ⟨i, stands, held⟩ := h.get?_succ branch
  have pointsHere : Statement.slotOf (before ++ .label name :: after) name =
      before.countP Statement.takesSlot + 1 :=
    Statement.slotOf_eq (h.labels before after name split)
  rw [← split] at pointsHere
  rw [Statement.instruction?] at stands
  split_ifs at stands with declared
  rw [held, ← stands, pointsHere, Nat.add_comm]

/-- What is in a slot of the body is what the statement in that slot stands for. -/
theorem exists_mem_placed (h : p.Realizes ss) {i : Instruction} (first : 1 ≤ slot)
    (held : p.get? slot = some i) :
    ∃ s, (s, slot) ∈ placed 1 ss ∧ s.instruction? ss = some i := by
  have within : slot < p.size := Program.lt_size_iff.mpr ⟨i, held⟩
  have inside : slot - 1 < (ss.filter Statement.takesSlot).length := by
    have := h.size_eq
    omega
  have here := List.getElem?_eq_getElem inside
  have among := List.mk_mem_zipIdx_iff_le_and_getElem?_sub.mpr ⟨first, here⟩
  rw [← filter_placed] at among
  obtain ⟨i', stands, held'⟩ := h.get?_succ here
  rw [Nat.sub_add_cancel first, held] at held'
  cases held'
  exact ⟨_, (List.mem_filter.mp among).1, stands⟩

/-- The operations take the slots after slot 0 that hold no branch. -/
theorem mem_slots_iff (h : p.Realizes ss) :
    slot ∈ ((placed 1 ss).filter (·.1.isOperation)).map Prod.snd ↔
      1 ≤ slot ∧ ∃ i, p.get? slot = some i ∧ i.isBranch = false := by
  simp only [List.mem_map, List.mem_filter, Prod.exists, exists_eq_right]
  constructor
  · rintro ⟨s, hs, operation⟩
    obtain ⟨before, -, -, rfl⟩ := mem_placed_iff.mp hs
    cases s with
    | label name | branch condition target => cases operation
    | operation op operands =>
      obtain ⟨i, built, held⟩ := h.build?_of_mem_placed hs
      exact ⟨Nat.le_add_right _ _, i, held, Instruction.isBranch_of_build? built⟩
  · rintro ⟨first, i, held, noBranch⟩
    obtain ⟨s, hs, stands⟩ := h.exists_mem_placed first held
    refine ⟨s, hs, ?_⟩
    cases s with
    | label name => cases stands
    | operation op operands => rfl
    | branch condition target =>
      rw [Statement.instruction?] at stands
      split_ifs at stands
      cases stands
      cases noBranch

end Program.Realizes

/-! ### Records -/

/-- Every record passes the threshold `trace`. -/
theorem Log.select_trace (records : List Record) : select .trace records = records := by
  rw [select, List.filter_eq_self]
  rintro ⟨level, target, message⟩ -
  cases level <;> rfl

namespace Assembler

variable {a : Assembler} {p : Program} {above below lines : List SourceLine} {line : SourceLine}
  {text : Nat → String}

/-- What is reported of a statement and its slot, where the slots of the program are listed with
the given texts: a label with its slot, an operation with the text of its slot. -/
def announced (text : Nat → String) : Statement × Nat → List Record
  | (.label name, slot) =>
    [⟨.trace, "aqa_asm::assembler", "label " ++ name ++ " -> " ++ toString slot⟩]
  | (.branch .., _) => []
  | (.operation .., slot) => [⟨.trace, "aqa_asm::assembler", text slot⟩]

/-- The first slot that lines leave comes after those of their statements. -/
theorem slotAfter_eq (readable : Readable lines) :
    slotAfter lines = 1 + (lines.filterMap says?).countP Statement.takesSlot := by
  rw [slotAfter, readable.countP_takesSlot, Nat.add_comm]

/-- A line is reported with the slot that it takes or points to. -/
theorem Passed.lineRecords_eq (h : Passed a above) (readable : Readable (above ++ line :: below))
    (realizes : p.Realizes ((above ++ line :: below).filterMap says?))
    (listed : ∀ slot i, p.get? slot = some i → text slot = listingLine slot i) :
    a.lineRecords line =
      (says? line).toList.flatMap fun s ↦ announced text (s, slotAfter above) := by
  have split {s : Statement} (said : says? line = some s) :
      (above ++ line :: below).filterMap says? =
        above.filterMap says? ++ s :: below.filterMap says? := by
    rw [List.filterMap_append, List.filterMap_cons_some said]
  cases reads : Statement.ofLine line.text using Statement.reading_cases with
  | error fault =>
    obtain ⟨statement, reads'⟩ := readable line (List.mem_append_right _ List.mem_cons_self)
    rw [reads] at reads'
    cases reads'
  | empty => simp [lineRecords, says?, statement?, reads]
  | branch condition target => simp [lineRecords, says?, statement?, reads, announced]
  | label name =>
    have said : says? line = some (.label name) := says?_eq_some_iff.mpr reads
    have unseen := realizes.labels _ _ name (split said)
    -- No line above declares the label, so it is not in the table yet.
    have new : a.labels.contains name = false := by
      have absent : above.find? (·.declares name) = none := by
        rw [List.find?_eq_none]
        intro other hother declares
        exact unseen (label_mem_iff.mpr ⟨other, hother, declares⟩)
      rw [Std.ExtTreeMap.contains_eq_isSome_getElem?, h.labels, pointsTo?, absent]
      rfl
    simp [lineRecords, said, reads, new, announced, labelRecord, assemblerTarget,
      Decimal.ofList_digits, h.nextIndex]
  | operation op operands =>
    have said : says? line = some (.operation op operands) := says?_eq_some_iff.mpr reads
    have among := mem_placed_iff.mpr ⟨_, _, split said, slotAfter_eq readable.of_append⟩
    obtain ⟨i, built, held⟩ := realizes.build?_of_mem_placed among
    have said' : .operation op operands ∈ (above ++ line :: below).filterMap says? := by
      rw [split said]
      exact List.mem_append_right _ List.mem_cons_self
    have wellTyped := realizes.misfits_eq_nil said'
    simp [lineRecords, operationRecords, said, reads, wellTyped, built, announced, slotRecord,
      assemblerTarget, h.nextIndex, listed _ i held]

/-- The pass reports the statements of the lines with their slots, in order. -/
theorem Passed.passRecords_eq (h : Passed a above) (ascending : Ascending (above ++ lines))
    (readable : Readable (above ++ lines))
    (realizes : p.Realizes ((above ++ lines).filterMap says?))
    (listed : ∀ slot i, p.get? slot = some i → text slot = listingLine slot i) :
    a.passRecords lines =
      (placed (slotAfter above) (lines.filterMap says?)).flatMap (announced text) := by
  -- The lines above are those that the assembler has passed, so they grow with each line.
  induction lines generalizing a above with
  | nil => rfl
  | cons line lines ih =>
    have here := h.lineRecords_eq readable realizes listed
    rw [List.append_cons] at ascending readable realizes
    have readableHere := readable.of_append
    have slot : slotAfter (above ++ [line]) =
        slotAfter above + (says? line).toList.countP Statement.takesSlot := by
      rw [slotAfter_eq readableHere, slotAfter_eq readableHere.of_append, List.filterMap_append,
        List.countP_append, Nat.add_assoc]
      cases said : says? line <;> simp [said]
    rw [passRecords, here, ih (h.visit ascending.of_append) ascending readable realizes, slot]
    cases said : says? line with
    | none => simp [said]
    | some s => simp [said, placed]

/-- Every branch waits. -/
theorem Passed.length_jumps (h : Passed a lines) :
    a.jumps.length = (lines.filterMap says?).countP Statement.isBranch := by
  rw [h.jumps, inContext, List.filterMap_map, List.length_filterMap_eq_countP,
    List.countP_filterMap]
  apply List.countP_congr
  intro line _
  cases reads : Statement.ofLine line.text using Statement.reading_cases with
  | error fault | empty | label name | branch condition target | operation op operands =>
    simp [SourceLine.jump?, says?, statement?, reads, Statement.isBranch]

/-- Every label is in the table. -/
theorem Passed.size_labels (h : Passed a lines) (realizes : p.Realizes (lines.filterMap says?)) :
    a.labels.size = ((lines.filterMap says?).filterMap Statement.declared?).length := by
  rw [← Std.ExtTreeMap.length_keys]
  refine List.Perm.length_eq ((List.perm_ext_iff_of_nodup Std.ExtTreeMap.nodup_keys
    (Statement.nodup_declared realizes.labels)).mpr fun name ↦ ?_)
  rw [Std.ExtTreeMap.mem_keys, Std.ExtTreeMap.mem_iff_isSome_getElem?, h.labels, pointsTo?,
    Option.isSome_map, List.find?_isSome, Statement.mem_declared_iff, label_mem_iff]

/-- What is reported before a pass: how many lines are not blank. -/
def announcement (source : List String) : Record :=
  ⟨.debug, "aqa_asm::assembler",
    "assembler: first pass over " ++ toString (source.countP (!isBlank ·)) ++ " lines"⟩

/-- What is reported after a pass: how many statements take a slot, how many labels there are and
how many branches. -/
def account (source : List String) : Record :=
  ⟨.debug, "aqa_asm::assembler",
    "assembler: " ++ toString (code source).length ++ " slots, " ++
      toString ((statements source).filterMap Statement.declared?).length ++ " labels, " ++
      toString ((statements source).countP Statement.isBranch) ++ " branches"⟩

theorem startRecord_eq (source : List String) : startRecord source = announcement source := by
  have count : (numbered source).length = source.countP (!isBlank ·) := by
    induction source using List.reverseRecOn with
    | nil => rfl
    | append_singleton source text ih =>
      rw [numbered_append_singleton, List.length_append, List.countP_append, ih]
      cases blank : isBlank text <;> simp [blank]
  rw [startRecord, announcement, count, Decimal.ofList_digits]
  rfl

/-- After a pass over a source that has a program every statement is counted. -/
theorem Passed.passedRecord_eq {source : List String} (h : Passed a (numbered source))
    (realizes : p.Realizes (statements source)) (readable : Readable (numbered source)) :
    a.passedRecord = account source := by
  rw [← filterMap_numbered] at realizes
  have slots : a.slots.size = (code source).length := by
    rw [← Array.length_toList, h.slots, List.length_map, ← List.countP_eq_length_filter,
      readable.countP_takesSlot, filterMap_numbered, List.countP_eq_length_filter, code]
  rw [passedRecord, account, slots, h.size_labels realizes, h.length_jumps, filterMap_numbered]
  rfl

/-- Assembling a source that has a program reports its statements with their slots, in order, after
one summary and before another. -/
theorem records_trace (a : Assembler) {source : List String}
    (h : RegisterMachine.assemble source = .ok p)
    (listed : ∀ slot i, p.get? slot = some i → text slot = listingLine slot i) :
    a.records .trace source =
      announcement source ::
        ((placed 1 (statements source)).flatMap (announced text) ++ [account source]) := by
  have readable := (readable_numbered_iff source).mpr (assemble_eq_ok_iff.mp h).1
  have realizes := realizes_of_assemble_eq_ok h
  have closing := (passed_visitAll empty source).passedRecord_eq realizes readable
  rw [← filterMap_numbered] at realizes ⊢
  have pass : empty.reset.passRecords (numbered source) =
      (placed 1 ((numbered source).filterMap says?)).flatMap (announced text) :=
    (passed_reset empty).passRecords_eq (ascending_numbered source) readable realizes listed
  have accepted : (empty.assemble source).2.result = .ok p := h
  rw [a.records_eq_empty, records, if_pos (by decide), select_trace, allRecords, accepted, pass,
    startRecord_eq, ← closing]
  rfl

end Assembler

end RegisterMachine
