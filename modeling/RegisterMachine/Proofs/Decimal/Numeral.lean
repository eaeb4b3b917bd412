import RegisterMachine.Json.Numbers
import RegisterMachine.Proofs.Decimal.Shortest
import RegisterMachine.Proofs.Json.Numerals

/-!
# The words and powers of numerals

The digits of a numeral are one whole number, its word, and the last of them stands for a power of
ten. A reader that rounds has just these two to go by, so it does not matter where the point is.
-/

namespace RegisterMachine.Decimal

/-- The power of ten that an exponent is. -/
def Exponent.value (e : Exponent) : Int :=
  if e.sign = .minus then -(Nat.ofDigitChars 10 e.digits 0 : Int)
  else Nat.ofDigitChars 10 e.digits 0

namespace Numeral

/-- All digits of the numeral, as one whole number. -/
def word (n : Numeral) : Nat := Nat.ofDigitChars 10 (n.whole ++ n.fraction) 0

/-- The power of ten that the last digit stands for. -/
def power (n : Numeral) : Int := (n.exponent.map Exponent.value).getD 0 - n.fraction.length

/-! ### Reading -/

theorem le_ofDigitChars (cs : List Char) (word : Nat) : word ≤ Nat.ofDigitChars 10 cs word := by
  have longer : 10 ^ 0 ≤ 10 ^ cs.length := Nat.pow_le_pow_right (by decide) (Nat.zero_le _)
  rw [Nat.ofDigitChars_eq_ofDigitChars_zero]
  calc word = 10 ^ 0 * word := by rw [Nat.pow_zero, Nat.one_mul]
    _ ≤ 10 ^ cs.length * word := Nat.mul_le_mul_right word longer
    _ ≤ _ := Nat.le_add_right _ _

/-- Digits are all taken if the word that they make is small enough. -/
theorem extendWord_of_lt {cs : List Char} {word : Nat}
    (h : Nat.ofDigitChars 10 cs word < UInt64.size) :
    extendWord word cs = (Nat.ofDigitChars 10 cs word, []) := by
  induction cs generalizing word with
  | nil => rfl
  | cons c cs ih =>
    rw [Nat.ofDigitChars_cons] at h ⊢
    have small := Nat.lt_of_le_of_lt (le_ofDigitChars cs _) h
    rw [extendWord, digitValue]
    exact (if_pos small).trans (ih h)

/-- A numeral with a small word is read as its word, rounded, times its power of ten. -/
theorem binary64?_eq {n : Numeral} (small : n.word < UInt64.size)
    (near : ∀ e ∈ n.exponent, Nat.ofDigitChars 10 e.digits 0 < 2 ^ 31) :
    n.binary64? = (scale? (.ofInt n.word) n.power).map fun x ↦
      .ofMagnitude n.negative x.magnitude := by
  have all := small
  rw [word, Nat.ofDigitChars_append] at all
  have whole := extendWord_of_lt (Nat.lt_of_le_of_lt (le_ofDigitChars n.fraction _) all)
  have fraction := extendWord_of_lt all
  rw [binary64?, whole]
  dsimp only
  rw [fraction, ← Nat.ofDigitChars_append, ← word]
  congr 1
  cases exponent : n.exponent with
  | none => simp [assemble?, power, exponent]
  | some e =>
    simp only [assemble?, power, exponent, Option.map_some, Option.getD_some, List.length_nil]
    refine (if_pos (near e exponent)).trans (congrArg (scale? _) ?_)
    rw [Exponent.value]
    split <;> omega

/-! ### Layouts -/

section
variable {style : FloatStyle} {negative : Bool} {d : Nat} {k : Int}

theorem ofDigitChars_digits (n : Nat) : Nat.ofDigitChars 10 (digits n) 0 = n :=
  Nat.ofDigitChars_toDigits (by decide) (by decide)

theorem length_digits_pos (n : Nat) : 0 < (digits n).length := Nat.length_toDigits_pos

/-- The layouts of digits: at least one zero behind the point, digits on either side of it, zeros
before the first digit, or an exponent. -/
inductive Layout (style : FloatStyle) (negative : Bool) (d : Nat) (k : Int) : Numeral → Prop
  | whole (h : 0 ≤ k) (small : k + (digits d).length ≤ 16) : Layout style negative d k
      ⟨negative, digits d ++ List.replicate k.toNat '0', ['0'], none⟩
  | mixed (h : k < 0) (large : 0 < k + (digits d).length) : Layout style negative d k
      ⟨negative, (digits d).take (k + (digits d).length).toNat,
        (digits d).drop (k + (digits d).length).toNat, none⟩
  | fraction (h : k + (digits d).length ≤ 0) : Layout style negative d k
      ⟨negative, ['0'], List.replicate (-(k + (digits d).length)).toNat '0' ++ digits d, none⟩
  | exponent : Layout style negative d k
      ⟨negative, (digits d).take 1, (digits d).drop 1,
        some ⟨if k + (digits d).length - 1 < 0 then .minus else style.exponentSign,
          digits (k + (digits d).length - 1).natAbs⟩⟩

theorem layout_ofDigits (style : FloatStyle) (negative : Bool) (d : Nat) (k : Int) :
    Layout style negative d k (ofDigits style negative d k) := by
  simp only [ofDigits]
  split
  · next positional =>
    split
    · next h => exact .whole h (by omega)
    · next h =>
      split
      · next large =>
        rw [Int.sub_add_cancel]
        exact .mixed (by omega) (by omega)
      · next small =>
        rw [show -(k + (digits d).length - 1) - 1 = -(k + (digits d).length) by omega]
        exact .fraction (by omega)
  · exact .exponent

namespace Layout

variable {n : Numeral} (h : Layout style negative d k n)
include h

theorem negative_eq : n.negative = negative := by cases h <;> rfl

/-- An exponent is the power of ten of the first digit. -/
theorem exponent_eq {e : Exponent} (member : e ∈ n.exponent) :
    Nat.ofDigitChars 10 e.digits 0 = (k + (digits d).length - 1).natAbs := by
  cases h with
  | whole | mixed | fraction => cases member
  | exponent =>
    obtain rfl := Option.some.inj member
    exact ofDigitChars_digits _

/-- The digits and their power of ten are those that are laid out, unless a zero was added behind
the point. -/
theorem word_power (sign : style.exponentSign ≠ .minus) :
    (n.word = d ∧ n.power = k) ∨
      (0 ≤ k ∧ n.word = d * 10 ^ (k.toNat + 1) ∧ n.power = -1 ∧ n.word < 10 ^ 17) := by
  cases h with
  | whole h small =>
    have word : Nat.ofDigitChars 10 (digits d ++ List.replicate k.toNat '0' ++ ['0']) 0 =
        d * 10 ^ (k.toNat + 1) := by
      rw [List.append_assoc, ← List.replicate_succ', Nat.ofDigitChars_append,
        ofDigitChars_digits, Nat.ofDigitChars_replicate_zero, Nat.mul_comm]
    have less : d < 10 ^ (digits d).length :=
      (Nat.length_toDigits_le_iff (by decide) (length_digits_pos d)).mp (Nat.le_refl _)
    refine .inr ⟨h, word, rfl, word.trans_lt ?_⟩
    calc d * 10 ^ (k.toNat + 1)
      _ < 10 ^ (digits d).length * 10 ^ (k.toNat + 1) :=
          Nat.mul_lt_mul_of_pos_right less (ten_pow_pos _)
      _ = 10 ^ ((digits d).length + (k.toNat + 1)) := (Nat.pow_add ..).symm
      _ ≤ 10 ^ 17 := Nat.pow_le_pow_right (by decide) (by omega)
  | mixed h large =>
    refine .inl ⟨?_, ?_⟩
    · rw [word, List.take_append_drop, ofDigitChars_digits]
    · simp only [power, Option.map_none, Option.getD_none, List.length_drop]
      omega
  | fraction h =>
    refine .inl ⟨?_, ?_⟩
    · change Nat.ofDigitChars 10 (List.replicate (_ + 1) '0' ++ digits d) 0 = d
      rw [Nat.ofDigitChars_append, Nat.ofDigitChars_replicate_zero, Nat.mul_zero,
        ofDigitChars_digits]
    · simp only [power, Option.map_none, Option.getD_none, List.length_append,
        List.length_replicate]
      omega
  | exponent =>
    have some := length_digits_pos d
    refine .inl ⟨?_, ?_⟩
    · rw [word, List.take_append_drop, ofDigitChars_digits]
    · simp only [power, Option.map_some, Option.getD_some, List.length_drop, Exponent.value,
        ofDigitChars_digits]
      by_cases small : k + (digits d).length - 1 < 0
      · rw [if_pos small, if_pos rfl]
        omega
      · rw [if_neg small, if_neg sign]
        omega

/-- What is laid out is a number that a text can have. -/
theorem isNumber (positive : 0 < d) : Json.IsNumber n := by
  have digit : ∀ c ∈ digits d, c.isDigit = true := fun _ ↦ isDigit_of_mem_digits
  have zeros (n : Nat) : ∀ c ∈ List.replicate n '0', c.isDigit = true := fun c member ↦ by
    rw [List.eq_of_mem_replicate member]
    decide
  have some := digits_ne_nil d
  have lead {ds : List Char} (same : ds.head? = (digits d).head?) (cs : List Char)
      (e : ds = '0' :: cs) : cs = [] := by
    rw [e] at same
    obtain ⟨rest, first⟩ := List.head?_eq_some_iff.mp same.symm
    have := eq_zero_of_digits_eq first
    omega
  cases h with
  | whole h small =>
    exact {
      whole_digits := fun c member ↦ (List.mem_append.mp member).elim (digit c) (zeros _ c)
      whole_ne_nil := by simp [some]
      no_leading_zero := lead (by rw [List.head?_append, List.head?_eq_some_head some]; rfl)
      fraction_digits := by simp
      exponent_digits := by simp
      exponent_ne_nil := by simp }
  | mixed h large =>
    exact {
      whole_digits := fun c member ↦ digit c (List.mem_of_mem_take member)
      whole_ne_nil := by simp [some]; omega
      no_leading_zero := lead (by rw [List.head?_take, if_neg (by omega)])
      fraction_digits := fun c member ↦ digit c (List.mem_of_mem_drop member)
      exponent_digits := by simp
      exponent_ne_nil := by simp }
  | fraction h =>
    exact {
      whole_digits := by simp
      whole_ne_nil := by simp
      no_leading_zero := fun cs e ↦ (List.cons.inj e).2.symm
      fraction_digits := fun c member ↦ (List.mem_append.mp member).elim (zeros _ c) (digit c)
      exponent_digits := by simp
      exponent_ne_nil := by simp }
  | exponent =>
    exact {
      whole_digits := fun c member ↦ digit c (List.mem_of_mem_take member)
      whole_ne_nil := by simp [some]
      no_leading_zero := lead (by rw [List.head?_take, if_neg (by decide)])
      fraction_digits := fun c member ↦ digit c (List.mem_of_mem_drop member)
      exponent_digits := fun e member ↦ by
        obtain rfl := Option.some.inj member
        exact fun _ ↦ isDigit_of_mem_digits
      exponent_ne_nil := fun e member ↦ by
        obtain rfl := Option.some.inj member
        exact digits_ne_nil _ }

end Layout

end

/-! ### Binary64 numbers -/

section
variable {style : FloatStyle} {x : Binary64}

theorem ofBinary64_zero (style : FloatStyle) (zero : x.magnitude = 0) :
    ofBinary64 style x = ⟨x.isNegative, ['0'], ['0'], none⟩ := if_pos zero

/-- A numeral of a number that is not zero is a layout of its shortest digits. -/
theorem exists_layout (style : FloatStyle) (nonzero : x.magnitude ≠ 0)
    (finite : x.isFinite = true) : 0 < x.units ∧ ∃ d k, shortest style.tie x = (d, k) ∧
      IsShortest style.tie x d k ∧ Layout style x.isNegative d k (ofBinary64 style x) := by
  have positive : 0 < x.units := x.units_pos nonzero
  refine ⟨positive, _, _, rfl, isShortest_shortest style.tie positive finite, ?_⟩
  rw [ofBinary64, if_neg nonzero]
  exact layout_ofDigits ..

theorem negative_ofBinary64 (style : FloatStyle) (finite : x.isFinite = true) :
    (ofBinary64 style x).negative = x.isNegative := by
  by_cases zero : x.magnitude = 0
  · rw [ofBinary64_zero style zero]
  · obtain ⟨-, d, k, -, -, layout⟩ := exists_layout style zero finite
    exact layout.negative_eq

/-- A finite number is written as a number that a text can have. -/
theorem isNumber_ofBinary64 (style : FloatStyle) (finite : x.isFinite = true) :
    Json.IsNumber (ofBinary64 style x) := by
  by_cases zero : x.magnitude = 0
  · rw [ofBinary64_zero style zero]
    constructor <;> simp
  · obtain ⟨positive, d, k, -, shortest, layout⟩ := exists_layout style zero finite
    exact layout.isNumber (shortest.pos positive)

/-- All digits that a finite number is written with fit a 64-bit word. -/
theorem word_ofBinary64_lt (sign : style.exponentSign ≠ .minus) (finite : x.isFinite = true) :
    (ofBinary64 style x).word < UInt64.size := by
  by_cases zero : x.magnitude = 0
  · rw [ofBinary64_zero style zero]
    exact (by decide : 0 < UInt64.size)
  · obtain ⟨positive, d, k, -, shortest, layout⟩ := exists_layout style zero finite
    rcases layout.word_power sign with ⟨word, -⟩ | ⟨-, -, -, small⟩
    · rw [word]
      exact shortest.lt_size positive finite
    · exact small.trans (by decide)

theorem word_ofBinary64_pos (sign : style.exponentSign ≠ .minus) (nonzero : x.magnitude ≠ 0)
    (finite : x.isFinite = true) : 0 < (ofBinary64 style x).word := by
  obtain ⟨positive, d, k, -, shortest, layout⟩ := exists_layout style nonzero finite
  have some := shortest.pos positive
  rcases layout.word_power sign with ⟨word, -⟩ | ⟨-, word, -, -⟩
  · rwa [word]
  · rw [word]
    exact Nat.mul_pos some (ten_pow_pos _)

/-- The exponents of finite numbers have three digits at most. -/
theorem exponent_ofBinary64_lt (style : FloatStyle) (finite : x.isFinite = true) :
    ∀ e ∈ (ofBinary64 style x).exponent, Nat.ofDigitChars 10 e.digits 0 < 1000 := by
  intro e member
  by_cases zero : x.magnitude = 0
  · rw [ofBinary64_zero style zero] at member
    cases member
  · obtain ⟨positive, d, k, -, shortest, layout⟩ := exists_layout style zero finite
    have few : (digits d).length ≤ 20 :=
      (Nat.length_toDigits_le_iff (by decide) (by decide)).mpr
        ((shortest.lt_size positive finite).trans (by decide))
    have some := length_digits_pos d
    have bounds := powerAbove_bounds positive finite
    have := shortest.le_powerAbove
    have := shortest.finest_le
    rw [layout.exponent_eq member]
    omega

/-- The written number is in the interval around the number that it is written for. -/
theorem attracts_ofBinary64 (sign : style.exponentSign ≠ .minus) (nonzero : x.magnitude ≠ 0)
    (finite : x.isFinite = true) :
    x.Attracts ((ofBinary64 style x).word * 10 ^ (ofBinary64 style x).power.toNat)
      (10 ^ (-(ofBinary64 style x).power).toNat) := by
  obtain ⟨positive, d, k, -, shortest, layout⟩ := exists_layout style nonzero finite
  have near := shortest.attracts
  rcases layout.word_power sign with ⟨word, power⟩ | ⟨h, word, power, -⟩
  · rwa [word, power]
  · -- One more zero has been added to digits without a point.
    rw [word, power]
    have longer := near.scale (c := 10) (by decide)
    rw [Nat.mul_assoc, ← Nat.pow_succ, show (-k).toNat = 0 by omega] at longer
    simpa using longer

end

end Numeral

end RegisterMachine.Decimal
