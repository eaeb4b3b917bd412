import RegisterMachine.Proofs.Opcode.WellTyped

/-!
# What the type checker reports

A place is at fault if its operand is of no class that the place takes, or if it takes an operand
and has none. A checker answers each of its calls by whether all places are without fault, and
adds a diagnostic for each place at fault, whatever it has found before (`checkAll_eq`).
-/

namespace RegisterMachine

/-- The bit that stands for a class. -/
def OperandClass.bit : OperandClass → Nat
  | register => 0
  | positiveInteger => 1
  | negativeInteger => 2
  | float => 3

namespace ClassSet

/-- A class is in a set if its bit is set. -/
instance : Membership OperandClass ClassSet where
  mem set c := set.bits.toNat.testBit c.bit = true

instance (c : OperandClass) (set : ClassSet) : Decidable (c ∈ set) :=
  inferInstanceAs (Decidable (set.bits.toNat.testBit c.bit = true))

/-- A set includes the set of one class exactly if the class is in it. -/
theorem includes_set_iff {set : ClassSet} {c : OperandClass} :
    set.includes c.set = true ↔ c ∈ set := by
  obtain ⟨⟨bits⟩⟩ := set
  cases c with
  | register | positiveInteger | negativeInteger | float =>
    revert bits
    decide +kernel

end ClassSet

namespace Opcode

/-- An operand fits exactly where its class is taken. -/
theorem fits_set (expected : ClassSet) (c : OperandClass) :
    fits expected c.set = decide (c ∈ expected) := by
  have some : (c.set != .none) = true := by cases c <;> rfl
  rw [fits, some, Bool.true_or, Bool.and_true, Bool.eq_iff_iff, decide_eq_true_iff]
  exact ClassSet.includes_set_iff

/-- A missing operand fits exactly where none is expected. -/
theorem fits_none_right (expected : ClassSet) :
    fits expected .none = decide (expected = .none) := by
  rw [Bool.eq_iff_iff, decide_eq_true_iff]
  refine ⟨fits_missing, ?_⟩
  rintro rfl
  rfl

/-- Whether a place is at fault: its operand is of a class that it does not take, or it takes an
operand and has none. No class is taken beyond the signature. -/
def isAtFault (op : Opcode) (operands : List Operand) (index : Nat) : Bool :=
  match operands[index]?, op.signature[index]? with
  | some operand, some set => OperandClass.of operand ∉ set
  | some _, none => true
  | none, some set => set ≠ .none
  | none, none => false

/-- The description of what stands at a place. -/
def actualText (operands : List Operand) (index : Nat) : String :=
  match operands[index]? with
  | some operand => (OperandClass.of operand).set.describe
  | none => "NONE"

/-- The description of what a place takes. -/
def expectedText (op : Opcode) (index : Nat) : String :=
  match op.signature[index]? with
  | some set => set.describe
  | none => "NONE"

/-- The faults of an operation's operands, one for each place at fault, in ascending order. -/
def mistakes (op : Opcode) (operands : List Operand) : List Fault :=
  ((List.range (max op.signature.length operands.length)).filter (op.isAtFault operands)).map
    fun index ↦ .invalidArgument index (actualText operands index) op (op.expectedText index)

/-- The places at fault are those where the operand does not fit. -/
theorem isAtFault_eq (op : Opcode) (operands : List Operand) (index : Nat) :
    op.isAtFault operands index = !fits (op.expectedAt index) (actualAt operands index) := by
  unfold isAtFault expectedAt actualAt
  cases operands[index]? with
  | some operand =>
    cases op.signature[index]? with
    | some set =>
      simp only [Option.map_some, Option.getD_some, fits_set, decide_not]
    | none =>
      simp only [Option.map_some, Option.getD_some, Option.getD_none, fits_none, Bool.not_false]
  | none =>
    cases op.signature[index]? with
    | some set =>
      simp only [Option.map_none, Option.getD_some, Option.getD_none, fits_none_right, ne_eq,
        decide_not]
    | none => rfl

theorem describe_actualAt (operands : List Operand) (index : Nat) :
    (actualAt operands index).describe = actualText operands index := by
  unfold actualAt actualText
  cases operands[index]? <;> rfl

theorem describe_expectedAt (op : Opcode) (index : Nat) :
    (op.expectedAt index).describe = op.expectedText index := by
  unfold expectedAt expectedText
  cases op.signature[index]? <;> rfl

/-- What is said of the misfits are the mistakes. -/
theorem map_misfit_misfits (op : Opcode) (operands : List Operand) :
    (op.misfits operands).map (op.misfit operands) = op.mistakes operands := by
  have atFault : op.isAtFault operands =
      fun index ↦ !fits (op.expectedAt index) (actualAt operands index) :=
    funext (op.isAtFault_eq operands)
  rw [mistakes, misfits, positions, atFault]
  apply List.map_congr_left
  intro index _
  rw [misfit, describe_actualAt, describe_expectedAt]

theorem mistakes_eq_nil_iff {op : Opcode} {operands : List Operand} :
    op.mistakes operands = [] ↔ op.misfits operands = [] := by
  rw [← map_misfit_misfits, List.map_eq_nil_iff]

/-- The only operation without operands is at fault with any. -/
theorem mistakes_halt_eq_nil_iff {operands : List Operand} :
    halt.mistakes operands = [] ↔ operands = [] := by
  rw [mistakes_eq_nil_iff]
  constructor
  · intro none
    exact List.eq_nil_of_length_eq_zero (length_of_misfits_eq_nil none)
  · rintro rfl
    decide

end Opcode

namespace TypeChecker

/-- A call of a checker. -/
structure Call where
  line : SourceLine
  op : Opcode
  operands : List Operand

/-- The diagnostics that a call is for. -/
def Call.diagnostics (call : Call) : List Diagnostic :=
  (call.op.mistakes call.operands).map fun mistake ↦ ⟨call.line, mistake⟩

/-- The answers to calls one after the other, and the checker after the last one. -/
def checkAll : TypeChecker → List Call → List Bool × TypeChecker
  | checker, [] => ([], checker)
  | checker, call :: calls =>
    let (answer, checker) := checker.check call.line call.op call.operands
    let (answers, checker) := checkAll checker calls
    (answer :: answers, checker)

/-- A call is answered by whether it is without diagnostics, which are added to the others. -/
theorem check_eq (checker : TypeChecker) (call : Call) :
    checker.check call.line call.op call.operands =
      (call.diagnostics.isEmpty, ⟨checker.diagnostics ++ call.diagnostics⟩) := by
  have same : call.diagnostics =
      (call.op.misfits call.operands).map fun index ↦
        ⟨call.line, call.op.misfit call.operands index⟩ := by
    rw [Call.diagnostics, ← Opcode.map_misfit_misfits, List.map_map]
    rfl
  rw [check, same, List.isEmpty_map]

/-- What a checker has found before makes no difference to its answers and to what it adds. -/
theorem checkAll_eq (checker : TypeChecker) (calls : List Call) :
    checker.checkAll calls =
        (calls.map fun call ↦ call.diagnostics.isEmpty,
          ⟨checker.diagnostics ++ calls.flatMap Call.diagnostics⟩) ∧
      ∀ line operands, (checker.check line .halt operands).1 = true ↔ operands = [] := by
  constructor
  · induction calls generalizing checker with
    | nil => rw [checkAll, List.flatMap_nil, List.append_nil, List.map_nil]
    | cons call calls ih =>
      simp only [checkAll, check_eq, ih, List.map_cons, List.flatMap_cons, List.append_assoc]
  · intro line operands
    have answer := checker.check_eq ⟨line, .halt, operands⟩
    rw [answer, List.isEmpty_iff, Call.diagnostics, List.map_eq_nil_iff]
    exact Opcode.mistakes_halt_eq_nil_iff

end TypeChecker

end RegisterMachine
