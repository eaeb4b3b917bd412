/-!
# Whole numbers in decimal

Reading and writing whole numbers. What is written reads back: `natural?_digits` and
`integer?_integerDigits`.
-/

namespace RegisterMachine.Decimal

/-- The decimal digits of a natural number. -/
def digits (n : Nat) : List Char := Nat.toDigits 10 n

/-- The decimal digits of an integer, after a minus sign if it is negative. -/
def integerDigits (i : Int) : List Char :=
  if i < 0 then '-' :: digits i.natAbs else digits i.natAbs

/-- The natural number written by one or more digits and nothing else. -/
def natural? (cs : List Char) : Option Nat :=
  if !cs.isEmpty && cs.all Char.isDigit then some (Nat.ofDigitChars 10 cs 0) else none

/-- The natural number written by digits, with or without a plus sign before them. -/
def unsigned? : List Char → Option Nat
  | '+' :: cs => natural? cs
  | cs => natural? cs

/-- The integer written by digits, with or without a sign before them. -/
def integer? : List Char → Option Int
  | '-' :: cs => (natural? cs).map fun n ↦ -(n : Int)
  | cs => (unsigned? cs).map fun n ↦ (n : Int)

/-- All characters of a written natural number are digits. -/
theorem isDigit_of_mem_digits {n : Nat} {c : Char} (h : c ∈ digits n) : c.isDigit = true :=
  Nat.isDigit_of_mem_toDigits (by decide) (by decide) h

/-- A natural number is written by at least one digit. -/
theorem digits_ne_nil (n : Nat) : digits n ≠ [] := Nat.toDigits_ne_nil

/-- A written natural number reads back. -/
theorem natural?_digits (n : Nat) : natural? (digits n) = some n := by
  have all : (digits n).all Char.isDigit = true :=
    List.all_eq_true.mpr fun _ ↦ isDigit_of_mem_digits
  have some : (digits n).isEmpty = false := by simpa using digits_ne_nil n
  rw [natural?, all, some]
  simp [digits]

/-- A text that starts with a digit has no sign. -/
theorem unsigned?_eq_natural? {cs : List Char} (h : ∀ c ∈ cs, c.isDigit = true) :
    unsigned? cs = natural? cs := by
  cases cs with
  | nil => rfl
  | cons c cs =>
    have := h c List.mem_cons_self
    by_cases e : c = '+'
    · subst e; simp at this
    · simp [unsigned?, e]

/-- A written integer reads back. -/
theorem integer?_integerDigits (i : Int) : integer? (integerDigits i) = some i := by
  unfold integerDigits
  split
  · rw [integer?, natural?_digits]
    exact congrArg some (by dsimp only; omega)
  · have : ∀ c ∈ digits i.natAbs, c.isDigit = true := fun _ ↦ isDigit_of_mem_digits
    have read := (unsigned?_eq_natural? this).trans (natural?_digits i.natAbs)
    unfold integer?
    split
    · rename_i e
      have := this '-' (e ▸ List.mem_cons_self)
      simp at this
    · rw [read]
      exact congrArg some (by dsimp only; omega)

end RegisterMachine.Decimal
