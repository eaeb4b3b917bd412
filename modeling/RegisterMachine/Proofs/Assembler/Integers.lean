import RegisterMachine.Proofs.Assembler.Program
import RegisterMachine.Proofs.Assembler.ControlFlow
import RegisterMachine.Proofs.Instruction.Text
import RegisterMachine.Proofs.Machine.Integers

/-!
# Sources without points

Only a literal with a point is read as a binary64 number. So a source without such literals has a
program without binary64 literals, and its machine holds integers forever.
-/

namespace RegisterMachine

open Source Machine

/-- A literal without a point is no binary64 number. -/
theorem Operand.point_mem_of_literal?_eq_float {cs : List Char} {x : Binary64}
    (h : literal? cs = some (.float x)) : '.' ∈ cs := by
  unfold literal? at h
  split at h
  · next cs =>
    have within : ∀ c ∈ (if cs.head? = some '+' then cs.tail else cs), c ∈ '#' :: cs := by
      intro c hc
      split at hc
      · exact List.mem_cons_of_mem _ (List.mem_of_mem_tail hc)
      · exact List.mem_cons_of_mem _ hc
    dsimp only at h
    generalize (if cs.head? = some '+' then cs.tail else cs) = body at h within
    split at h
    · next point => exact within '.' point
    · obtain ⟨n, -, same⟩ := Option.map_eq_some_iff.mp h
      cases same
  · cases h

/-- A token is read as no binary64 literal if it is no literal with a point. -/
theorem Operand.isIntegral_of_ofToken_eq {t : Token} {x : Operand}
    (noPoint : t.kind = .literal → '.' ∉ t.literal.toList) (h : ofToken t = .ok x) :
    x.isIntegral = true := by
  unfold ofToken at h
  split at h
  · next isLiteral =>
    split at h
    · next v found =>
      cases h
      cases v with
      | int n => rfl
      | float y => exact absurd (point_mem_of_literal?_eq_float found) (noPoint isLiteral)
    · cases h
  · split at h
    · cases h
      rfl
    · cases h
  · cases h

/-- An operation on a line is its word, and then a token for each operand. -/
theorem Statement.exists_tokens_of_ofLine_eq {line : String} {op : Opcode} {operands : List Operand}
    (h : ofLine line = .ok (some (.operation op operands))) :
    ∃ ts, Token.ofLine line = ⟨.word, op.mnemonic⟩ :: ts ∧
      ts.map Operand.ofToken = operands.map .ok := by
  rw [ofLine] at h
  rcases exists_spells_or_faulty (Token.ofLine line) with ⟨s, spelled⟩ | ⟨fault, faulty⟩
  · rw [spelled.parse_eq] at h
    cases h
    generalize Token.ofLine line = tokens at spelled
    cases spelled with
    | operation op read => exact ⟨_, rfl, read⟩
  · rw [faulty.parse_eq] at h
    cases h

/-- The operands of a line without points are no binary64 literals. -/
theorem Statement.isIntegral_of_ofLine_eq {line : String} {op : Opcode} {operands : List Operand}
    (noPoint : ∀ t ∈ Token.ofLine line, t.kind = .literal → '.' ∉ t.literal.toList)
    (h : ofLine line = .ok (some (.operation op operands))) :
    ∀ x ∈ operands, x.isIntegral = true := by
  obtain ⟨ts, same, read⟩ := exists_tokens_of_ofLine_eq h
  intro x hx
  have among : (.ok x : Except Fault Operand) ∈ ts.map Operand.ofToken := by
    rw [read]
    exact List.mem_map_of_mem hx
  obtain ⟨t, ht, reads⟩ := List.mem_map.mp among
  apply Operand.isIntegral_of_ofToken_eq (noPoint t _) reads
  rw [same]
  exact List.mem_cons_of_mem _ ht

/-- An instruction reads no operands but those that it was built from. -/
theorem Instruction.isIntegral_of_build? {i : Instruction} {op : Opcode} {operands : List Operand}
    (h : op.build? operands = some i) (integral : ∀ x ∈ operands, x.isIntegral = true) :
    i.isIntegral = true := by
  have built := operation?_eq_some_iff.mpr h
  rw [isIntegral, List.all_eq_true]
  intro x hx
  apply integral
  cases i <;> cases built <;> simp_all [Instruction.operands]

/-- A source without points has a program without binary64 literals. -/
theorem isIntegral_of_assemble {source : List String} {p : Program}
    (h : assemble source = .ok p)
    (noPoint : ∀ line ∈ source, ∀ t ∈ Token.ofLine line,
      t.kind = .literal → '.' ∉ t.literal.toList) :
    ∀ i ∈ p.body, i.isIntegral = true := by
  intro i hi
  obtain ⟨k, held⟩ := Array.mem_iff_getElem?.mp hi
  obtain ⟨s, hs, stands⟩ := (realizes_of_assemble_eq_ok h).exists_statement (k := k) held
  obtain ⟨line, hline, said⟩ := List.mem_filterMap.mp (List.mem_filter.mp hs).1
  cases s with
  | label name => cases stands
  | branch condition target =>
    rw [Statement.instruction?] at stands
    split_ifs at stands
    cases stands
    rfl
  | operation op operands =>
    have built := (Opcode.instruction?_eq_some_iff.mp stands).2
    have said : says? ⟨1, line⟩ = some (.operation op operands) := said
    have reads := says?_eq_some_iff.mp said
    exact Instruction.isIntegral_of_build? built
      (Statement.isIntegral_of_ofLine_eq (noPoint line hline) reads)

/-- A program without binary64 literals leaves integers in all registers after any number of cycles
of a fresh machine, under any limit, and so does the program of a source whose literals have no
point. -/
theorem isIntegral_cycles_fresh :
    (∀ p : Program, (∀ i ∈ p.body, i.isIntegral = true) →
      ∀ (limit : Option Nat) (n : Nat),
        (({ fresh with limit := limit } : Machine).cycles p n).IsIntegral) ∧
    ∀ (source : List String) (p : Program), assemble source = .ok p →
      (∀ line ∈ source, ∀ t ∈ Token.ofLine line,
        t.kind = .literal → '.' ∉ t.literal.toList) →
      ∀ (limit : Option Nat) (n : Nat),
        (({ fresh with limit := limit } : Machine).cycles p n).IsIntegral := by
  have start (limit : Option Nat) : ({ fresh with limit := limit } : Machine).IsIntegral :=
    isIntegral_fresh
  constructor
  · intro p body limit n
    exact (start limit).cycles body n
  · intro source p h noPoint limit n
    exact (start limit).cycles (isIntegral_of_assemble h noPoint) n

/-- A point in a comment is in no literal. The loop overflows, and copies what it has. -/
theorem isIntegral_cycles_fresh_overflow :
    let source := ["mov r1, #2147483647 ; 2.5", "loop:", "add r1, r1, #+1", "mov r2, r1", "b loop"]
    let p : Program := ⟨#[.mov 1 (.literal (.int 2147483647)),
      .add 1 (.register 1) (.literal (.int 1)), .mov 2 (.register 1), .branch .always 2]⟩
    (∀ i ∈ p.body, i.isIntegral = true) ∧ assemble source = .ok p ∧
      (∀ line ∈ source, ∀ t ∈ Token.ofLine line, t.kind = .literal → '.' ∉ t.literal.toList) ∧
      (fresh.cycles p 4).IsIntegral ∧ ((fresh.withLimit 2).cycles p 9).IsIntegral ∧
      (fresh.cycles p 4).registers.get 2 = .int (-2147483648) := by
  intro source p
  have body : ∀ i ∈ p.body, i.isIntegral = true := by decide
  have assembled : assemble source = .ok p := by decide +kernel
  have noPoint : ∀ line ∈ source, ∀ t ∈ Token.ofLine line,
      t.kind = .literal → '.' ∉ t.literal.toList := by decide +kernel
  exact ⟨body, assembled, noPoint, isIntegral_cycles_fresh.2 source p assembled noPoint none 4,
    isIntegral_cycles_fresh.1 p body (some 2) 9, by decide⟩

end RegisterMachine
