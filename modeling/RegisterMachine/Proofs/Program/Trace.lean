import RegisterMachine.Proofs.Assembler.Records
import RegisterMachine.Proofs.Listing.Lines
import RegisterMachine.Proofs.Machine.Records

/-!
# Reports and listings

Assembler and machine report instructions by address while they work, and the listing shows the
program by address afterwards. For the program of a source all three agree
(`records_of_assemble`).
-/

namespace RegisterMachine

open Log Source Machine
open Statement (placed)

/-- What an assembler reports of a source with the program, where the slots are listed with the
given texts. -/
structure Assembler.Reports (p : Program) (text : Nat → String) (source : List String)
    (a : Assembler) : Prop where
  /-- Between two summaries, what is to be said of each statement and its slot. -/
  records : a.records .trace source =
    announcement source ::
      ((placed 1 (statements source)).flatMap (announced text) ++ [account source])
  /-- The statements are those of the source, in order. -/
  inOrder : (placed 1 (statements source)).map Prod.fst = statements source
  /-- Every branch to a label goes to the slot that is reported with the label. -/
  labels : ∀ name slot, (.label name, slot) ∈ placed 1 (statements source) →
    ∀ k condition, (code source)[k]? = some (.branch condition name) →
      p.get? (k + 1) = some (.branch condition slot)
  /-- What an operation has built is in the slot whose text is reported for it. -/
  operations : ∀ op operands slot, (.operation op operands, slot) ∈ placed 1 (statements source) →
    ∃ i, op.build? operands = some i ∧ p.get? slot = some i
  /-- The slots that are reported for operations ascend. -/
  ascending :
    (((placed 1 (statements source)).filter (·.1.isOperation)).map Prod.snd).Pairwise (· < ·)
  /-- They are the slots after slot 0 that hold no branch. -/
  slots : ∀ slot, slot ∈ ((placed 1 (statements source)).filter (·.1.isOperation)).map Prod.snd ↔
    1 ≤ slot ∧ ∃ i, p.get? slot = some i ∧ i.isBranch = false

/-- What a machine reports of a run of `n` steps with an outcome, where the slots are listed with
the given texts. -/
structure Machine.Reports (p : Program) (text : Nat → String) (m : Machine)
    (outcome : Except StepLimitExceeded Summary) (n : Nat) : Prop where
  /-- Each of the first `n` cycles executes the instruction in the slot of the counter. -/
  executes : ∀ k < n, ∃ slot i, (m.cycles p k).counter = .slot slot ∧ p.get? slot = some i ∧
    (m.cycles p k).executes? p = some i
  /-- No instruction is executed after them. -/
  stays : (m.cycles p n).executes? p = none
  /-- Every step is counted. -/
  steps : ∀ k ≤ n, (m.cycles p k).steps = k
  /-- A run that halts sums up the machine after the last step. -/
  halted : ∀ s, outcome = .ok s → s = (m.cycles p n).summary
  /-- Any other run is cut by the limit, at the slot of the counter then. -/
  cut : ∀ failure, outcome = .error failure →
    m.limit = some n ∧ failure = ⟨n, (m.cycles p n).counter.toNat⟩
  /-- Between two summaries, three records for each step: the text of the slot that is executed,
  then counter, flag and steps after it, then the registers. -/
  records : m.records .trace p =
    Machine.announcement p :: (((List.range n).flatMap fun k ↦
      stepReports (text (m.cycles p k).counter.toNat) (m.cycles p (k + 1))) ++
      closingReports outcome)

/-- What is reported of a run that ends, step by step. -/
theorem Machine.reports_of_run_eq_some {p : Program} {text : Nat → String} {m : Machine}
    {outcome : Except StepLimitExceeded Summary}
    (listed : ∀ slot i, p.get? slot = some i → text slot = listingLine slot i)
    (start : m.steps = 0) (h : m.run p = some outcome) : ∃ n, m.Reports p text outcome n := by
  obtain ⟨n, takes, ended, records⟩ := records_trace h
  have steps (k : Nat) (hk : k ≤ n) : (m.cycles p k).steps = k := by
    rw [takes.steps_cycles hk, start, Nat.zero_add]
  have executes (k : Nat) (hk : k < n) : ∃ slot i, (m.cycles p k).counter = .slot slot ∧
      p.get? slot = some i ∧ (m.cycles p k).executes? p = some i := by
    obtain ⟨i, executed⟩ := takes.executes k hk
    obtain ⟨slot, place, -, held⟩ := Program.exists_slot_of_fetch (fetch_of_executes? executed)
    exact ⟨slot, i, place, held, executed⟩
  refine ⟨n, executes, takes.stays, steps, ?_, ?_, ?_⟩
  · rintro s rfl
    rcases ended with ⟨-, same⟩ | ⟨failure, -, other⟩
    · exact Except.ok.inj same
    · cases other
  · rintro failure rfl
    rcases ended with ⟨-, other⟩ | ⟨failure', spent, same⟩
    · cases other
    · cases same
      obtain ⟨limit, limited, reached, rfl⟩ := exists_limit_of_overLimit? spent
      rw [limit_cycles] at limited
      have within := steps_cycles_le (p := p) limited (by rw [start]; exact Nat.zero_le limit) n
      rw [steps n (Nat.le_refl n)] at reached within
      rw [Nat.le_antisymm within reached]
      exact ⟨limited, rfl⟩
  · rw [records]
    congr 2
    apply List.flatMap_congr
    intro k hk
    obtain ⟨slot, i, place, held, executed⟩ := executes k (List.mem_range.mp hk)
    rw [cycleRecords_of_executes? executed, cycles_succ_last, place, Counter.toNat,
      listed slot i held]

/-- The records of assembling a source and of running its program show instructions as the listing
of the program does, at the same addresses. The assembler reports each label with the slot that all
branches to it go to, and each operation with the line of its slot; these are all slots after slot 0
without a branch, each once. A run under any limit, or without one, reports for each of its steps
the line of the slot that is executed, and the state and the registers after it. -/
theorem records_of_assemble {source : List String} {p : Program} (h : assemble source = .ok p) :
    ∃ text : Nat → String,
      (∀ slot < p.size, (Source.lines p.listing)[slot]? = some (text slot)) ∧
      (∀ a : Assembler, a.Reports p text source) ∧
      (∀ limit, ∃ outcome, (fresh.withLimit limit).run p = some outcome) ∧
      ∀ (limit : Option Nat) (outcome : Except StepLimitExceeded Summary),
        ({ fresh with limit := limit } : Machine).run p = some outcome →
          ∃ n, Machine.Reports p text { fresh with limit := limit } outcome n := by
  have realizes := realizes_of_assemble_eq_ok h
  obtain ⟨text, listed⟩ : ∃ text : Nat → String,
      ∀ slot i, p.get? slot = some i → text slot = listingLine slot i :=
    ⟨fun slot ↦ ((p.get? slot).map (listingLine slot)).getD "",
      fun slot i held ↦ by simp only [held, Option.map_some, Option.getD_some]⟩
  refine ⟨text, ?_, ?_, ?_, ?_⟩
  · intro slot inside
    obtain ⟨i, held⟩ := Program.lt_size_iff.mp inside
    rw [p.getElem?_lines_listing, held, listed slot i held]
    rfl
  · intro a
    exact {
      records := Assembler.records_trace a h listed
      inOrder := Statement.map_fst_placed 1 (statements source)
      labels := fun _ _ hs _ _ branch ↦ realizes.get?_of_label_mem_placed hs branch
      operations := fun _ _ _ hs ↦ realizes.build?_of_mem_placed hs
      ascending := Statement.pairwise_placed 1 (statements source)
      slots := fun _ ↦ realizes.mem_slots_iff }
  · exact fun limit ↦ exists_run_eq_some p limit_withLimit
  · exact fun limit outcome ended ↦ reports_of_run_eq_some listed rfl ended

/-- All records of `countdown`: while it is assembled, and in a run that is cut after two steps. -/
theorem records_of_assemble_countdown :
    assemble countdown = .ok countdownProgram ∧
    Assembler.empty.records .trace countdown =
      [⟨.debug, "aqa_asm::assembler", "assembler: first pass over 7 lines"⟩,
        ⟨.trace, "aqa_asm::assembler", "0001: MOV R0, #2"⟩,
        ⟨.trace, "aqa_asm::assembler", "label AGAIN -> 2"⟩,
        ⟨.trace, "aqa_asm::assembler", "0002: CMP R0, #0"⟩,
        ⟨.trace, "aqa_asm::assembler", "0004: SUB R0, R0, #1"⟩,
        ⟨.trace, "aqa_asm::assembler", "label DONE -> 6"⟩,
        ⟨.debug, "aqa_asm::assembler", "assembler: 5 slots, 2 labels, 2 branches"⟩] ∧
    (fresh.withLimit 2).run countdownProgram = some (.error ⟨2, 3⟩) ∧
    let table :=
      "R0  =           2  R1  =           0  R2  =           0  R3  =           0\n" ++
      "R4  =           0  R5  =           0  R6  =           0  R7  =           0\n" ++
      "R8  =           0  R9  =           0  R10 =           0  R11 =           0\n" ++
      "R12 =           0  R13 =           0  R14 =           0  R15 =           0"
    (fresh.withLimit 2).records .trace countdownProgram =
      [⟨.debug, "aqa_vm::runtime::machine", "running program of 6 slots"⟩,
        ⟨.trace, "aqa_vm::runtime::machine", "0001: MOV R0, #2"⟩,
        ⟨.trace, "aqa_vm::runtime::machine", "pc: 2\tflag: Null\tsteps: 1"⟩,
        ⟨.trace, "aqa_vm::runtime::machine", table⟩,
        ⟨.trace, "aqa_vm::runtime::machine", "0002: CMP R0, #0"⟩,
        ⟨.trace, "aqa_vm::runtime::machine", "pc: 3\tflag: Gt\tsteps: 2"⟩,
        ⟨.trace, "aqa_vm::runtime::machine", table⟩] := by
  obtain ⟨text, listed, assembler, -, machine⟩ := records_of_assemble assemble_countdown
  have ended : (fresh.withLimit 2).run countdownProgram = some (.error ⟨2, 3⟩) := by
    decide +kernel
  have line {slot : Nat} (inside : slot < countdownProgram.size) {shown : String}
      (h : (Source.lines countdownProgram.listing)[slot]? = some shown) : text slot = shown :=
    Option.some.inj ((listed slot inside).symm.trans h)
  have first : text 1 = "0001: MOV R0, #2" := line (by decide) (by decide +kernel)
  have second : text 2 = "0002: CMP R0, #0" := line (by decide) (by decide +kernel)
  have fourth : text 4 = "0004: SUB R0, R0, #1" := line (by decide) (by decide +kernel)
  refine ⟨assemble_countdown, ?_, ended, ?_⟩
  · have places : placed 1 (statements countdown) =
        [(.operation .mov [.register 0, .literal (.int 2)], 1), (.label "AGAIN", 2),
          (.operation .cmp [.register 0, .literal (.int 0)], 2), (.branch .eq "DONE", 3),
          (.operation .sub [.register 0, .register 0, .literal (.int 1)], 4),
          (.branch .always "AGAIN", 5), (.label "DONE", 6)] := by decide +kernel
    rw [(assembler .empty).records, places]
    simp only [List.flatMap_cons, List.flatMap_nil, Assembler.announced, first, second, fourth]
    decide +kernel
  · obtain ⟨n, reports⟩ : ∃ n, (fresh.withLimit 2).Reports countdownProgram text _ n :=
      machine (some 2) _ ended
    obtain rfl : 2 = n := Option.some.inj (reports.cut _ rfl).1
    have steps (f : Nat → List Record) : (List.range 2).flatMap f = f 0 ++ (f 1 ++ []) := rfl
    have started : ((fresh.withLimit 2).cycles countdownProgram 0).counter.toNat = 1 := by decide
    have moved : ((fresh.withLimit 2).cycles countdownProgram 1).counter.toNat = 2 := by decide
    rw [reports.records, steps, started, moved, first, second]
    decide +kernel

end RegisterMachine
