import Mathlib.Data.List.Forall2
import RegisterMachine.Proofs.Opcode.Checking
import RegisterMachine.Proofs.Operand.Denotation
import RegisterMachine.Proofs.Program.Literals
import RegisterMachine.Proofs.Statement.Grammar
import RegisterMachine.Proofs.Token.Spaced

/-!
# Instructions as lines

The text of an operation whose numbers are integers is a line that says this operation
(`Instruction.ofLine_text`), and such an operation is always well typed.
-/

namespace RegisterMachine

open Text (upper upperChar upper_of_forall forall_ascii)
open Token (IsWellFormed Separated isNameChar isSeparator scan)

/-! ### Operands -/

theorem ascii_of_isDigit {c : Char} (h : c.isDigit = true) : c.toNat < 128 :=
  Nat.lt_of_le_of_lt (Char.isDigit_iff_toNat.mp h).2 (by decide)

theorem isNameChar_of_isDigit {c : Char} (h : c.isDigit = true) : isNameChar c = true :=
  forall_ascii (P := fun c ↦ c.isDigit = true → isNameChar c = true) (by decide)
    (ascii_of_isDigit h) h

theorem upperChar_of_isDigit {c : Char} (h : c.isDigit = true) : upperChar c = [c] :=
  forall_ascii (P := fun c ↦ c.isDigit = true → upperChar c = [c]) (by decide)
    (ascii_of_isDigit h) h

namespace Operand

variable {t : Token} {x : Operand} {xs : List Operand}

/-- A token that stands for an operand has the form of its kind. -/
theorem Denotes.isWellFormed (h : Denotes t x) : IsWellFormed t := by
  cases h with
  | @register digits nonempty isDigits r value =>
    have isName : Token.IsName ('R' :: digits) := by
      refine ⟨List.cons_ne_nil _ _, List.forall_mem_cons.mpr ⟨by decide, ?_⟩⟩
      exact fun c hc ↦ isNameChar_of_isDigit (isDigits c hc)
    exact .word isName fun same ↦ absurd (List.cons.inj same).1 (by decide)
  | int isSign nonempty isDigits value =>
    exact .literal ⟨_, _, [], (List.append_nil _).symm, isSign, isDigits, .inl rfl⟩
  | float isSign isDigits nonempty arePlaces negative nearest =>
    exact .literal ⟨_, _, _, rfl, isSign, isDigits, .inr ⟨_, rfl, nonempty, arePlaces⟩⟩

/-- The token that an operand is written as. -/
def token (x : Operand) : Token :=
  match x with
  | register _ => ⟨.word, x.text⟩
  | literal _ => ⟨.literal, x.text⟩

theorem text_token (x : Operand) : x.token.text = x.text.toList := by
  cases x <;> rfl

theorem toList_text_register (r : Register) :
    (register r).text.toList = 'R' :: Decimal.digits r.val := by
  simp only [text, Register.text, String.toList_append, String.toList_ofList]
  rfl

/-- The sign that an integer is written with. -/
def writtenSign (i : Int) : List Char := if i < 0 then ['-'] else []

theorem isSign_writtenSign (i : Int) : Token.IsSign (writtenSign i) := by
  unfold writtenSign
  split
  · exact .inr (.inr rfl)
  · exact .inl rfl

theorem signed_writtenSign (i : Int) : signed (writtenSign i) i.natAbs = i := by
  unfold writtenSign signed
  split <;> simp only [↓reduceIte, reduceCtorEq] <;> omega

theorem toList_text_int (n : Int32) : (literal (.int n)).text.toList =
    '#' :: (writtenSign n.toInt ++ Decimal.digits n.toInt.natAbs) := by
  simp only [text, Value.text, String.toList_append, String.toList_ofList, Decimal.integerDigits,
    writtenSign]
  split <;> rfl

/-- A register or an integer is written as a token that stands for it. -/
theorem denotes_token (h : x.isIntegral = true) : Denotes x.token x := by
  cases x with
  | register r =>
    obtain ⟨nonempty, isDigits, value⟩ :=
      Decimal.natural?_eq_some_iff.mp (Decimal.natural?_digits r.val)
    rw [token, ← String.ofList_toList (s := (register r).text), toList_text_register]
    exact .register nonempty isDigits value
  | literal v =>
    cases v with
    | float x => cases h
    | int n =>
      obtain ⟨nonempty, isDigits, value⟩ :=
        Decimal.natural?_eq_some_iff.mp (Decimal.natural?_digits n.toInt.natAbs)
      rw [token, ← String.ofList_toList (s := (literal (.int n)).text), toList_text_int]
      refine .int (isSign_writtenSign _) nonempty isDigits ?_
      rw [value, signed_writtenSign]

/-- The texts of registers and integers are in upper case. -/
theorem upper_text (h : x.isIntegral = true) : upper x.text.toList = x.text.toList := by
  have digits (n : Nat) : upper (Decimal.digits n) = Decimal.digits n :=
    upper_of_forall fun _ hc ↦ upperChar_of_isDigit (Decimal.isDigit_of_mem_digits hc)
  cases x with
  | register r =>
    rw [toList_text_register, Text.upper_cons, digits]
    rfl
  | literal v =>
    cases v with
    | float x => cases h
    | int n =>
      have sign : upper (writtenSign n.toInt) = writtenSign n.toInt := by
        unfold writtenSign
        split <;> rfl
      rw [toList_text_int, Text.upper_cons, Text.upper_append, sign, digits]
      rfl

/-- Operands as they stand behind another one: each after a comma and a space. -/
def continued (xs : List Operand) : List Char := xs.flatMap fun x ↦ ',' :: ' ' :: x.text.toList

/-- Operands as they stand behind their operation: a space before the first of them. -/
def listed : List Operand → List Char
  | [] => []
  | x :: xs => ' ' :: (x.text.toList ++ continued xs)

theorem separated_continued (xs : List Operand) : Separated (continued xs) := by
  cases xs with
  | nil => exact Token.separated_nil
  | cons x xs => exact Token.separated_cons (by decide) _

theorem separated_listed (xs : List Operand) : Separated (listed xs) := by
  cases xs with
  | nil => exact Token.separated_nil
  | cons x xs => exact Token.separated_cons (by decide) _

/-- An operand is read before others that continue it. -/
theorem scan_text_append_continued (h : x.isIntegral = true) (xs : List Operand) :
    scan (x.text.toList ++ continued xs) = x.token :: scan (continued xs) := by
  rw [← text_token]
  exact Token.scan_text_append (denotes_token h).isWellFormed (separated_continued xs)

/-- Operands behind another one are read one by one. -/
theorem scan_continued (h : ∀ x ∈ xs, x.isIntegral = true) :
    scan (continued xs) = xs.map token := by
  induction xs with
  | nil => exact Token.scan_nil
  | cons x xs ih =>
    obtain ⟨hx, hxs⟩ := List.forall_mem_cons.mp h
    have split : continued (x :: xs) = ',' :: ' ' :: (x.text.toList ++ continued xs) := rfl
    rw [split, Token.scan_separator (by decide), Token.scan_separator (by decide),
      scan_text_append_continued hx, ih hxs, List.map_cons]

/-- Operands behind their operation are read one by one. -/
theorem scan_listed (h : ∀ x ∈ xs, x.isIntegral = true) : scan (listed xs) = xs.map token := by
  cases xs with
  | nil => exact Token.scan_nil
  | cons x xs =>
    obtain ⟨hx, hxs⟩ := List.forall_mem_cons.mp h
    rw [listed, Token.scan_separator (by decide), scan_text_append_continued hx,
      scan_continued hxs, List.map_cons]

theorem upper_continued (h : ∀ x ∈ xs, x.isIntegral = true) :
    upper (continued xs) = continued xs := by
  rw [upper, continued, List.flatMap_assoc]
  apply List.flatMap_congr
  intro x hx
  exact congrArg (',' :: ' ' :: ·) (upper_text (h x hx))

theorem upper_listed (h : ∀ x ∈ xs, x.isIntegral = true) : upper (listed xs) = listed xs := by
  cases xs with
  | nil => rfl
  | cons x xs =>
    obtain ⟨hx, hxs⟩ := List.forall_mem_cons.mp h
    rw [listed, Text.upper_cons, Text.upper_append, upper_text hx, upper_continued hxs]
    rfl

/-- Registers and integers are taken wherever the second operand of an operation stands. -/
theorem class_of_isIntegral (h : x.isIntegral = true) :
    OperandClass.of x ∈ ClassSet.union .register .integer ∧
      OperandClass.of x ∈ ClassSet.union .register .numeric := by
  have either : OperandClass.of x = .register ∨ OperandClass.of x = .positiveInteger ∨
      OperandClass.of x = .negativeInteger := by
    cases x with
    | register r => exact .inl rfl
    | literal v =>
      cases v with
      | float x => cases h
      | int n =>
        rw [OperandClass.of]
        split
        · exact .inr (.inl rfl)
        · exact .inr (.inr rfl)
  rcases either with e | e | e
  all_goals
    rw [e]
    decide

end Operand

namespace Opcode

/-- An operation is well typed if each place has an operand of a class that it takes. -/
theorem misfits_eq_nil_of_forall₂ {op : Opcode} {xs : List Operand}
    (h : List.Forall₂ (fun set x ↦ OperandClass.of x ∈ set) op.signature xs) :
    op.misfits xs = [] := by
  obtain ⟨length, taken⟩ := List.forall₂_iff_get.mp h
  rw [misfits_eq_nil_iff]
  intro index bound
  have bound : index < xs.length := by
    rw [positions, length, Nat.max_self] at bound
    exact bound
  have place : index < op.signature.length := by omega
  rw [actualAt_of_lt bound, expectedAt, List.getElem?_eq_getElem place, Option.getD_some, fits_set,
    decide_eq_true_iff]
  exact taken index place bound

/-- The word of an operation has the form of a word. -/
theorem isWellFormed_mnemonic (op : Opcode) : IsWellFormed ⟨.word, op.mnemonic⟩ := by
  have nonempty : op.mnemonic.toList ≠ [] := by cases op <;> decide
  have names : op.mnemonic.toList.all isNameChar = true := by cases op <;> rfl
  have noBranch : op.mnemonic.toList ≠ ['B'] := by cases op <;> decide
  rw [← String.ofList_toList (s := op.mnemonic)]
  exact .word ⟨nonempty, List.all_eq_true.mp names⟩ noBranch

theorem upper_mnemonic (op : Opcode) : upper op.mnemonic.toList = op.mnemonic.toList := by
  cases op <;> rfl

end Opcode

namespace Instruction

variable {i : Instruction} {op : Opcode} {xs : List Operand}

/-- The operation of an instruction with its operands; a branch is none, nor is what fills
slot 0. -/
def operation? : Instruction → Option (Opcode × List Operand)
  | add dst lhs rhs => some (.add, [.register dst, lhs, rhs])
  | sub dst lhs rhs => some (.sub, [.register dst, lhs, rhs])
  | cmp lhs rhs => some (.cmp, [lhs, rhs])
  | mov dst src => some (.mov, [.register dst, src])
  | halt => some (.halt, [])
  | nop | branch _ _ => none

/-- An instruction is the one that its operation and operands make. -/
theorem operation?_eq_some_iff : i.operation? = some (op, xs) ↔ op.build? xs = some i := by
  constructor
  · intro h
    cases i <;> cases h <;> rfl
  · intro h
    unfold Opcode.build? at h
    split at h <;> cases h <;> rfl

/-- The text of an operation is its word and its operands behind that. -/
theorem toList_text (h : i.operation? = some (op, xs)) :
    i.text.toList = op.mnemonic.toList ++ Operand.listed xs := by
  cases i <;> cases h <;>
    simp [text, Operand.listed, Operand.continued, Operand.text, Opcode.mnemonic]

/-- An instruction without binary64 literals has none among the operands of its operation. -/
theorem isIntegral_of_mem (h : i.operation? = some (op, xs)) (integral : i.isIntegral = true) :
    ∀ x ∈ xs, x.isIntegral = true := by
  rw [isIntegral, List.all_eq_true] at integral
  cases i <;> cases h <;> simp_all [operands, Operand.isIntegral]

/-- An instruction without binary64 literals is well typed. -/
theorem misfits_eq_nil (h : i.operation? = some (op, xs)) (integral : i.isIntegral = true) :
    op.misfits xs = [] := by
  have register (r : Register) : OperandClass.of (.register r) ∈ ClassSet.register :=
    show OperandClass.register ∈ ClassSet.register by decide
  have taken := fun x hx ↦ Operand.class_of_isIntegral (isIntegral_of_mem h integral x hx)
  cases i with
  | nop | branch condition target => cases h
  | halt =>
    cases h
    decide
  | mov dst src =>
    cases h
    refine Opcode.misfits_eq_nil_of_forall₂ (.cons ?_ (.cons ?_ .nil))
    · exact register dst
    · exact (taken src (by simp)).2
  | cmp lhs rhs =>
    cases h
    refine Opcode.misfits_eq_nil_of_forall₂ (.cons ?_ (.cons ?_ .nil))
    · exact (taken lhs (by simp)).2
    · exact (taken rhs (by simp)).2
  | add dst lhs rhs | sub dst lhs rhs =>
    cases h
    refine Opcode.misfits_eq_nil_of_forall₂ (.cons ?_ (.cons ?_ (.cons ?_ .nil)))
    · exact register dst
    · exact (taken lhs (by simp)).1
    · exact (taken rhs (by simp)).1

/-- The tokens of the text are the word of the operation and a token for each operand. -/
theorem tokens_text (h : i.operation? = some (op, xs)) (integral : i.isIntegral = true) :
    Token.ofLine i.text = ⟨.word, op.mnemonic⟩ :: xs.map Operand.token := by
  have integral := isIntegral_of_mem h integral
  have word := Token.scan_text_append op.isWellFormed_mnemonic (Operand.separated_listed xs)
  rw [Token.ofLine, toList_text h, Text.upper_append, op.upper_mnemonic,
    Operand.upper_listed integral, ← Operand.scan_listed integral, ← word]
  rfl

/-- The text of an operation says the operation. -/
theorem ofLine_text (h : i.operation? = some (op, xs)) (integral : i.isIntegral = true) :
    Statement.ofLine i.text = .ok (some (.operation op xs)) := by
  have read : (xs.map Operand.token).map Operand.ofToken = xs.map .ok := by
    rw [List.map_map]
    apply List.map_congr_left
    intro x hx
    exact (Operand.denotes_token (isIntegral_of_mem h integral x hx)).ofToken_eq
  rw [Statement.ofLine, tokens_text h integral, (Statement.Spells.operation op read).parse_eq]

/-- An operation without binary64 literals is what it and its operands stand for. -/
theorem instruction?_eq (h : i.operation? = some (op, xs)) (integral : i.isIntegral = true) :
    op.instruction? xs = some i :=
  Opcode.instruction?_eq_some_iff.mpr ⟨misfits_eq_nil h integral, operation?_eq_some_iff.mp h⟩

end Instruction

end RegisterMachine
