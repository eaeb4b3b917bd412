import RegisterMachine.Proofs.Decimal.Reading
import RegisterMachine.Proofs.Token.Shape
import RegisterMachine.Statement.Basic

/-!
# What operand tokens stand for

Registers, integers and binary64 numbers each have a form of token, with a value. Reading a token of
a line gives the operand of this form and value, and a token of no such form is told of by its text
(`ofToken_of_mem_ofLine`).
-/

namespace RegisterMachine.Operand

open Token (IsSign IsDigits IsFraction IsNumeral IsName IsWellFormed)

/-- The integer with an absolute value and a written sign. -/
def signed (sign : List Char) (n : Nat) : Int := if sign = ['-'] then -n else n

/-- The operands that tokens stand for. -/
inductive Denotes : Token → Operand → Prop
  /-- A register is the letter and its number, with any zeros before that. -/
  | register {digits : List Char} (nonempty : digits ≠ []) (isDigits : IsDigits digits) {r : Register}
    (value : Nat.ofDigitChars 10 digits 0 = r.val) :
    Denotes ⟨.word, String.ofList ('R' :: digits)⟩ (.register r)
  /-- An integer has at least one digit, and its value is one of 32 bits. -/
  | int {sign digits : List Char} (isSign : IsSign sign) (nonempty : digits ≠ [])
    (isDigits : IsDigits digits) {n : Int32}
    (value : signed sign (Nat.ofDigitChars 10 digits 0) = n.toInt) :
    Denotes ⟨.literal, String.ofList ('#' :: (sign ++ digits))⟩ (.literal (.int n))
  /-- A binary64 number has a point and at least one place behind it, and is the nearest to the
  value of all digits. -/
  | float {sign digits places : List Char} (isSign : IsSign sign) (isDigits : IsDigits digits)
    (nonempty : places ≠ []) (arePlaces : IsDigits places) {x : Binary64}
    (negative : x.isNegative = decide (sign = ['-']))
    (nearest : x.IsNearest (Nat.ofDigitChars 10 (digits ++ places) 0) (10 ^ places.length)) :
    Denotes ⟨.literal, String.ofList ('#' :: (sign ++ digits ++ '.' :: places))⟩
      (.literal (.float x))

/-- What is told of a token that stands for no operand. -/
def misread (t : Token) : Fault :=
  if t.kind = .word ∧ t.literal.toList.head? = some 'R' then .invalidRegister t.literal
  else .malformedOperand t.literal

variable {t : Token} {cs sign digits places : List Char} {operand : Operand}

/-! ### Numbers -/

/-- The integers of 32 bits are those in their range. -/
theorem int32?_eq_some_iff {n : Int32} :
    int32? cs = some n ↔ Decimal.integer? cs = some n.toInt := by
  rw [int32?, Option.bind_eq_some_iff]
  constructor
  · rintro ⟨i, read, inRange⟩
    split at inRange
    · next bounds =>
      rw [read, ← Option.some.inj inRange, Int32.toInt_ofInt_of_le bounds.1 bounds.2]
    · cases inRange
  · intro read
    refine ⟨_, read, ?_⟩
    rw [if_pos ⟨n.le_toInt, n.toInt_lt⟩, Int32.ofInt_toInt]

/-- The registers are the numbers below 16. -/
theorem register?_eq_some_iff (unsigned : cs.head? ≠ some '+') {r : Register} :
    register? cs = some r ↔ Decimal.natural? cs = some r.val := by
  rw [register?, Decimal.unsigned?_of_head? unsigned, Option.bind_eq_some_iff]
  constructor
  · rintro ⟨n, read, found⟩
    rw [Register.ofIndex] at found
    split at found
    · rw [read, ← Option.some.inj found]
    · cases found
  · intro read
    exact ⟨r.val, read, by rw [Register.ofIndex_val]; rfl⟩

/-- A literal is read behind its hash and plus sign, if it has one. -/
theorem literal?_sign (isSign : IsSign sign) (unsigned : cs.head? ≠ some '+') :
    literal? ('#' :: (sign ++ cs)) =
      if '.' ∈ cs then
        (finite? (if sign = ['-'] then '-' :: cs else cs)).map .float
      else (int32? (if sign = ['-'] then '-' :: cs else cs)).map .int := by
  rcases isSign with rfl | rfl | rfl
  · rw [List.nil_append, if_neg (List.cons_ne_nil _ _).symm, literal?]
    simp only [unsigned, ↓reduceIte]
  · rw [if_neg (show ¬ ['+'] = ['-'] by decide), literal?]
    simp only [List.cons_append, List.nil_append, List.head?_cons, ↓reduceIte, List.tail_cons]
  · have member : '.' ∈ '-' :: cs ↔ '.' ∈ cs := by
      rw [List.mem_cons]
      exact or_iff_right (by decide)
    rw [if_pos rfl, literal?]
    simp only [List.cons_append, List.nil_append, List.head?_cons, Option.some.injEq, member,
      show ¬ '-' = '+' by decide, ↓reduceIte]

private theorem head?_ne_plus {p : Char → Prop} (h : ∀ c ∈ cs, p c) (plus : ¬ p '+') :
    cs.head? ≠ some '+' :=
  fun first ↦ plus (h '+' (List.mem_of_head? first))

/-- A literal without a point is the integer that its digits write. -/
theorem literal?_digits (isSign : IsSign sign) (isDigits : IsDigits digits) {v : Value} :
    literal? ('#' :: (sign ++ digits)) = some v ↔
      digits ≠ [] ∧ ∃ n : Int32, signed sign (Nat.ofDigitChars 10 digits 0) = n.toInt ∧
        v = .int n := by
  have noPoint : '.' ∉ digits := fun point ↦ absurd (isDigits '.' point) (by decide)
  have read := Decimal.integer?_sign (decide (sign = ['-'])) isDigits
  simp only [decide_eq_true_eq] at read
  rw [literal?_sign isSign (head?_ne_plus isDigits (by decide)), if_neg noPoint,
    Option.map_eq_some_iff]
  simp only [int32?_eq_some_iff, read, Option.map_eq_some_iff, Decimal.natural?_eq_some_iff]
  constructor
  · rintro ⟨n, ⟨m, ⟨nonempty, -, rfl⟩, value⟩, rfl⟩
    exact ⟨nonempty, n, value, rfl⟩
  · rintro ⟨nonempty, n, value, rfl⟩
    exact ⟨n, ⟨_, ⟨nonempty, isDigits, rfl⟩, value⟩, rfl⟩

/-- A literal with a point is the binary64 number that is nearest to what its digits write. -/
theorem literal?_fraction (isSign : IsSign sign) (isDigits : IsDigits digits)
    (nonempty : places ≠ []) (arePlaces : IsDigits places) {v : Value} :
    literal? ('#' :: (sign ++ digits ++ '.' :: places)) = some v ↔
      ∃ x : Binary64, (x.isNegative = decide (sign = ['-']) ∧
        x.IsNearest (Nat.ofDigitChars 10 (digits ++ places) 0) (10 ^ places.length)) ∧
          v = .float x := by
  have characters : ∀ c ∈ digits ++ '.' :: places, c = '.' ∨ c.isDigit = true := by
    intro c hc
    rcases List.mem_append.mp hc with hc | hc
    · exact .inr (isDigits c hc)
    · rcases List.mem_cons.mp hc with rfl | hc
      · exact .inl rfl
      · exact .inr (arePlaces c hc)
  have point : '.' ∈ digits ++ '.' :: places := List.mem_append_right _ List.mem_cons_self
  have read := Decimal.binary64?_fraction (decide (sign = ['-'])) isDigits nonempty arePlaces
  simp only [decide_eq_true_eq] at read
  have den : 0 < 10 ^ places.length := Nat.pow_pos (by decide)
  rw [List.append_assoc, literal?_sign isSign (head?_ne_plus characters (by decide)),
    if_pos point, Option.map_eq_some_iff]
  simp only [finite?, read, Option.filter_eq_some_iff, Option.some.injEq,
    Binary64.ofRatio_eq_iff _ den, eq_comm (a := v)]

/-! ### Tokens -/

/-- A literal token stands for its value. -/
theorem ofToken_literal_iff :
    ofToken ⟨.literal, String.ofList cs⟩ = .ok operand ↔
      ∃ v, literal? cs = some v ∧ operand = .literal v := by
  simp only [ofToken, String.toList_ofList]
  cases literal? cs with
  | none => simp only [reduceCtorEq, false_and, exists_false]
  | some v => simp only [Except.ok.injEq, Option.some.injEq, exists_eq_left', eq_comm]

/-- A word that starts with the letter of registers stands for the register of its number. -/
theorem ofToken_word_iff :
    ofToken ⟨.word, String.ofList ('R' :: cs)⟩ = .ok operand ↔
      ∃ r, register? cs = some r ∧ operand = .register r := by
  simp only [ofToken, String.toList_ofList]
  cases register? cs with
  | none => simp only [reduceCtorEq, false_and, exists_false]
  | some r => simp only [Except.ok.injEq, Option.some.injEq, exists_eq_left', eq_comm]

/-- A token stands for an operand, or is told of by its text. -/
theorem ofToken_cases (t : Token) :
    (∃ operand, ofToken t = .ok operand) ∨ ofToken t = .error (misread t) := by
  unfold ofToken misread
  split
  · next isLiteral =>
    split
    · exact .inl ⟨_, rfl⟩
    · exact .inr (by rw [if_neg (by rw [isLiteral]; exact fun h ↦ nomatch h.1)])
  · next isWord spelled =>
    split
    · exact .inl ⟨_, rfl⟩
    · exact .inr (by rw [if_pos ⟨isWord, by rw [spelled]; rfl⟩])
  · next notLiteral notRegister =>
    refine .inr (congrArg Except.error (if_neg ?_).symm)
    rintro ⟨isWord, first⟩
    obtain ⟨rest, spelled⟩ := List.head?_eq_some_iff.mp first
    exact notRegister rest isWord spelled

/-- A token is read as the operand that it stands for. -/
theorem Denotes.ofToken_eq (h : Denotes t operand) : ofToken t = .ok operand := by
  cases h with
  | register nonempty isDigits value =>
    apply ofToken_word_iff.mpr
    refine ⟨_, ?_, rfl⟩
    rw [register?_eq_some_iff (head?_ne_plus isDigits (by decide)), Decimal.natural?_eq_some_iff]
    exact ⟨nonempty, isDigits, value⟩
  | int isSign nonempty isDigits value =>
    exact ofToken_literal_iff.mpr
      ⟨_, (literal?_digits isSign isDigits).mpr ⟨nonempty, _, value, rfl⟩, rfl⟩
  | float isSign isDigits nonempty arePlaces negative nearest =>
    exact ofToken_literal_iff.mpr
      ⟨_, (literal?_fraction isSign isDigits nonempty arePlaces).mpr ⟨_, ⟨negative, nearest⟩, rfl⟩, rfl⟩

/-- What is read of a number is what it stands for. -/
private theorem denotes_of_isNumeral {number : List Char} (isNumeral : IsNumeral number)
    (read : ofToken ⟨.literal, String.ofList ('#' :: number)⟩ = .ok operand) :
    Denotes ⟨.literal, String.ofList ('#' :: number)⟩ operand := by
  obtain ⟨v, found, rfl⟩ := ofToken_literal_iff.mp read
  obtain ⟨sign, digits, fraction, rfl, isSign, isDigits, isFraction⟩ := isNumeral
  rcases isFraction with rfl | ⟨places, rfl, nonempty, arePlaces⟩
  · rw [List.append_nil] at found ⊢
    obtain ⟨nonempty, n, value, rfl⟩ := (literal?_digits isSign isDigits).mp found
    exact .int isSign nonempty isDigits value
  · obtain ⟨x, ⟨negative, nearest⟩, rfl⟩ :=
      (literal?_fraction isSign isDigits nonempty arePlaces).mp found
    exact .float isSign isDigits nonempty arePlaces negative nearest

/-- What is read of a word is what it stands for. -/
private theorem denotes_of_isName {name : List Char} (isName : IsName name)
    (read : ofToken ⟨.word, String.ofList name⟩ = .ok operand) :
    Denotes ⟨.word, String.ofList name⟩ operand := by
  obtain ⟨c, cs, rfl⟩ := List.exists_cons_of_ne_nil isName.1
  by_cases isRegister : c = 'R'
  · subst isRegister
    obtain ⟨r, found, rfl⟩ := ofToken_word_iff.mp read
    have unsigned := head?_ne_plus (List.forall_mem_cons.mp isName.2).2 (by decide)
    rw [register?_eq_some_iff unsigned, Decimal.natural?_eq_some_iff] at found
    exact .register found.1 found.2.1 found.2.2
  · simp [ofToken, isRegister] at read

/-- What is read of a token of a line is what it stands for. -/
theorem denotes_of_ofToken_eq (h : IsWellFormed t) (read : ofToken t = .ok operand) :
    Denotes t operand := by
  cases h with
  | branch | label | unknown => cases read
  | word isName => exact denotes_of_isName isName read
  | literal isNumeral => exact denotes_of_isNumeral isNumeral read

/-- A token of a line is read as exactly the operand that it stands for. If it stands for none, it
is told of as an invalid register if it is a word with the letter of registers at its start, and
as a malformed operand otherwise, by its text. -/
theorem ofToken_of_mem_ofLine {line : String} {t : Token} (h : t ∈ Token.ofLine line) :
    (∀ operand, ofToken t = .ok operand ↔ Denotes t operand) ∧
      ∀ fault, ofToken t = .error fault ↔
        (∀ operand, ¬ Denotes t operand) ∧ fault = misread t := by
  have wellFormed := Token.isWellFormed_of_mem_scan _ t h
  refine ⟨fun operand ↦ ⟨denotes_of_ofToken_eq wellFormed, Denotes.ofToken_eq⟩, ?_⟩
  intro fault
  rcases ofToken_cases t with ⟨operand, read⟩ | told
  · rw [read]
    refine iff_of_false (fun e ↦ nomatch e) ?_
    rintro ⟨none, -⟩
    exact none operand (denotes_of_ofToken_eq wellFormed read)
  · rw [told, Except.error.injEq]
    constructor
    · intro same
      refine ⟨fun operand denotes ↦ ?_, same.symm⟩
      rw [denotes.ofToken_eq] at told
      cases told
    · rintro ⟨-, same⟩
      exact same.symm

/-- On one line a register with zeros before its number, the number nearest to one tenth, and an
integer that is one too large. -/
theorem ofToken_of_mem_oneTenth :
    let tokens := Token.ofLine "mov r0015, #+.1 #2147483648"
    let register : Token := ⟨.word, "R0015"⟩
    let tenth : Token := ⟨.literal, "#+.1"⟩
    let large : Token := ⟨.literal, "#2147483648"⟩
    (register ∈ tokens ∧ Denotes register (.register 15)) ∧
      (tenth ∈ tokens ∧ Denotes tenth (.literal (.float ⟨0x3FB999999999999A⟩))) ∧
      large ∈ tokens ∧ ∀ operand, ¬ Denotes large operand := by
  intro tokens register tenth large
  have line : tokens = [⟨.word, "MOV"⟩, register, tenth, large] := by decide +kernel
  have first : register ∈ tokens := by simp [line]
  have second : tenth ∈ tokens := by simp [line]
  have third : large ∈ tokens := by simp [line]
  refine ⟨⟨first, ?_⟩, ⟨second, ?_⟩, third, ?_⟩
  · exact ((ofToken_of_mem_ofLine first).1 _).mp (by decide)
  · exact ((ofToken_of_mem_ofLine second).1 _).mp (by decide +kernel)
  · exact (((ofToken_of_mem_ofLine third).2 (.malformedOperand "#2147483648")).mp (by decide)).1

end RegisterMachine.Operand
