import RegisterMachine.Proofs.Instruction.Text
import RegisterMachine.Proofs.Listing.Lines
import RegisterMachine.Proofs.Program.Slots

/-!
# Programs from their listings

The text of an instruction without binary64 literals tells the instruction: an operation is read off
it, and what is no operation starts with another letter. The lines of a listing tell the slots, so
that a listing belongs to one program only (`Program.eq_of_listing_eq`).
-/

namespace RegisterMachine

/-- Different numbers have different digits. -/
theorem Decimal.digits_injective {m n : Nat} (h : digits m = digits n) : m = n := by
  have read := natural?_digits m
  rw [h, natural?_digits] at read
  exact (Option.some.inj read).symm

namespace Instruction

variable {i j : Instruction} {op op' : Opcode} {xs xs' : List Operand}

/-! ### Branches -/

/-- The condition of a branch as it stands before the target. -/
def spelled (c : Condition) : List Char := ((c.mnemonic?.map (· ++ " ")).getD "").toList

theorem spelled_injective {c c' : Condition} (h : spelled c = spelled c') : c = c' := by
  revert h
  cases c <;> cases c' <;> decide

theorem toList_text_branch (c : Condition) (target : Nat) :
    (branch c target).text.toList = 'B' :: ' ' :: (spelled c ++ '@' :: Decimal.digits target) := by
  simp [text, spelled]

/-- The mark stands between the condition and the target, and in neither of them. -/
theorem branch_text_injective {c c' : Condition} {target target' : Nat}
    (h : (branch c target).text = (branch c' target').text) : c = c' ∧ target = target' := by
  have noMark : '@' ∉ spelled c := by cases c <;> decide
  have noMark' : '@' ∉ Decimal.digits target := fun mark ↦
    absurd (Decimal.isDigit_of_mem_digits mark) (by decide)
  have characters := congrArg String.toList h
  rw [toList_text_branch, toList_text_branch, List.cons.injEq, List.cons.injEq] at characters
  obtain ⟨condition, -, digits⟩ :=
    (List.append_cons_inj_of_notMem noMark noMark').mp characters.2.2
  exact ⟨spelled_injective condition, Decimal.digits_injective digits⟩

/-! ### Operations -/

/-- The operation and the operands are read off the text. -/
theorem eq_of_text_eq_of_operation? (hi : i.operation? = some (op, xs))
    (hj : j.operation? = some (op', xs')) (integral : i.isIntegral = true)
    (integral' : j.isIntegral = true) (h : i.text = j.text) : i = j := by
  have read := ofLine_text hi integral
  rw [h, ofLine_text hj integral'] at read
  simp only [Except.ok.injEq, Option.some.injEq, Statement.operation.injEq] at read
  obtain ⟨rfl, rfl⟩ := read
  have built := operation?_eq_some_iff.mp hi
  rw [operation?_eq_some_iff.mp hj] at built
  exact (Option.some.inj built).symm

/-- An operation starts with another letter than a branch or what fills slot 0. -/
theorem text_ne_of_operation? (hi : i.operation? = some (op, xs)) (hj : j.operation? = none) :
    i.text ≠ j.text := by
  intro h
  have first := congrArg (fun s ↦ s.toList.head?) h
  simp only [toList_text hi] at first
  cases j with
  | nop => cases op <;> cases first
  | branch c target =>
    rw [toList_text_branch] at first
    cases op <;> cases first
  | add | sub | cmp | mov | halt => cases hj

/-- What is no operation is told by its text. -/
theorem eq_of_text_eq_of_operation?_eq_none (hi : i.operation? = none) (hj : j.operation? = none)
    (h : i.text = j.text) : i = j := by
  have first := congrArg (fun s ↦ s.toList.head?) h
  cases i with
  | nop =>
    cases j with
    | nop => rfl
    | branch c' target' =>
      rw [toList_text_branch] at first
      cases first
    | add | sub | cmp | mov | halt => cases hj
  | branch c target =>
    cases j with
    | nop =>
      rw [toList_text_branch] at first
      cases first
    | branch c' target' =>
      obtain ⟨rfl, rfl⟩ := branch_text_injective h
      rfl
    | add | sub | cmp | mov | halt => cases hj
  | add | sub | cmp | mov | halt => cases hi

/-- The text of an instruction without binary64 literals tells the instruction. -/
theorem text_injective (integral : i.isIntegral = true) (integral' : j.isIntegral = true)
    (h : i.text = j.text) : i = j := by
  cases hi : i.operation? with
  | some said =>
    cases hj : j.operation? with
    | some said' => exact eq_of_text_eq_of_operation? hi hj integral integral' h
    | none => exact absurd h (text_ne_of_operation? hi hj)
  | none =>
    cases hj : j.operation? with
    | some said' => exact absurd h.symm (text_ne_of_operation? hj hi)
    | none => exact eq_of_text_eq_of_operation?_eq_none hi hj h

end Instruction

/-- At one address, the line of a listing tells the instruction. -/
theorem listingLine_injective {address : Nat} {i j : Instruction} (integral : i.isIntegral = true)
    (integral' : j.isIntegral = true) (h : listingLine address i = listingLine address j) :
    i = j := by
  rw [listingLine, listingLine] at h
  exact Instruction.text_injective integral integral' ((String.append_right_inj _).mp h)

namespace Program

variable {p q : Program}

/-- Programs without binary64 literals that have the same listing are the same. -/
theorem eq_of_listing_eq (integral : ∀ i ∈ p.body, i.isIntegral = true)
    (integral' : ∀ i ∈ q.body, i.isIntegral = true) (h : p.listing = q.listing) : p = q := by
  apply ext_get?
  intro slot
  have inAll {r : Program} (body : ∀ i ∈ r.body, i.isIntegral = true) {i : Instruction}
      (held : r.get? slot = some i) : i.isIntegral = true :=
    forall_get? (P := fun i ↦ i.isIntegral = true) rfl body held
  have lines : (p.get? slot).map (listingLine slot) = (q.get? slot).map (listingLine slot) := by
    rw [← getElem?_lines_listing, ← getElem?_lines_listing, h]
  cases held : p.get? slot with
  | none =>
    rw [held, Option.map_none] at lines
    exact (Option.map_eq_none_iff.mp lines.symm).symm
  | some i =>
    cases held' : q.get? slot with
    | none =>
      rw [held, held'] at lines
      cases lines
    | some j =>
      rw [held, held', Option.map_some, Option.map_some, Option.some.injEq] at lines
      exact congrArg some (listingLine_injective (inAll integral held)
        (inAll integral' held') lines)

/-- The least integer, an instruction that does nothing behind slot 0, and a target of five digits;
one program is put together from two parts. -/
theorem eq_of_listing_eq_parts :
    let p : Program := ⟨#[.mov 15 (.literal (.int (-2147483648))), .nop, .branch .lt 10000]⟩
    let q : Program :=
      ⟨#[.mov 15 (.literal (.int (-2147483648))), .nop] ++ #[.branch .lt 10000]⟩
    let listing := "0000: NOP\n0001: MOV R15, #-2147483648\n0002: NOP\n0003: B LT @10000\n"
    (∀ i ∈ p.body, i.isIntegral = true) ∧ (∀ i ∈ q.body, i.isIntegral = true) ∧
      p.listing = listing ∧ q.listing = listing ∧ p = q := by
  intro p q listing
  have integral : ∀ i ∈ p.body, i.isIntegral = true := by decide
  have integral' : ∀ i ∈ q.body, i.isIntegral = true := by decide
  have written : p.listing = listing := by decide
  have written' : q.listing = listing := by decide
  exact ⟨integral, integral', written, written',
    eq_of_listing_eq integral integral' (written.trans written'.symm)⟩

end Program

end RegisterMachine
