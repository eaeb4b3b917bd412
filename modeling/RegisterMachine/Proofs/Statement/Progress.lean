import RegisterMachine.Proofs.Statement.Grammar

/-!
# Reading on behind a fault

A reader of tokens can be called again after a fault, and goes on with the tokens that are left
over. Each call that finds a fault takes at least one token, and the fault is that of the tokens it
takes. So calls one after the other pass over the tokens once and end, with one statement at most
(`parseTimes_progress`).
-/

namespace RegisterMachine.Statement

variable {ts : List Token} {n k : Nat} {fault : Fault} {s : Statement}

/-! ### One call -/

/-- A call that finds a fault takes a part of the tokens from their start, and these alone have the
fault. -/
theorem Faulty.exists_taken (h : Faulty ts fault) :
    ∃ taken rest, taken ≠ [] ∧ ts = taken ++ rest ∧ parse taken = (.error fault, []) ∧
      parse ts = (.error fault, rest) := by
  -- What is taken does not depend on what follows, except where nothing may follow.
  suffices part : (∃ taken rest, taken ≠ [] ∧ ts = taken ++ rest ∧
      ∀ rest', parse (taken ++ rest') = (.error fault, rest')) ∨
        ts ≠ [] ∧ parse ts = (.error fault, []) by
    rcases part with ⟨taken, rest, some, rfl, reads⟩ | ⟨some, reads⟩
    · have alone := reads []
      rw [List.append_nil] at alone
      exact ⟨taken, rest, some, rfl, alone, reads rest⟩
    · exact ⟨ts, [], some, (List.append_nil ts).symm, reads, reads⟩
  cases h with
  | trailing name extra rest =>
    exact .inl ⟨[⟨.label, name⟩, extra], rest, List.cons_ne_nil _ _, rfl, fun _ ↦ rfl⟩
  | noTarget b => exact .inr ⟨List.cons_ne_nil _ _, rfl⟩
  | @target b t notWord rest =>
    refine .inl ⟨[⟨.branch, b⟩, t], rest, List.cons_ne_nil _ _, rfl, fun rest' ↦ ?_⟩
    simp only [List.cons_append, List.nil_append, parse, parseBranch, notWord, ↓reduceIte, notALabel]
  | @targetAfterCondition b condition word named t notWord rest =>
    refine .inl ⟨[⟨.branch, b⟩, ⟨.word, word⟩, t], rest, List.cons_ne_nil _ _, rfl, fun rest' ↦ ?_⟩
    simp only [List.cons_append, List.nil_append, parse, parseBranch_condition named, parseTarget,
      notWord, ↓reduceIte, notALabel]
  | @extra b target unnamed extra rest =>
    refine .inl ⟨[⟨.branch, b⟩, ⟨.word, target⟩, extra], rest, List.cons_ne_nil _ _, rfl,
      fun rest' ↦ ?_⟩
    simp only [List.cons_append, List.nil_append, parse, parseBranch_target (.inr unnamed), atEnd,
      extraAfterBranch]
  | @extraAfterCondition b condition word named target extra rest =>
    refine .inl ⟨[⟨.branch, b⟩, ⟨.word, word⟩, ⟨.word, target⟩, extra], rest,
      List.cons_ne_nil _ _, rfl, fun rest' ↦ ?_⟩
    simp only [List.cons_append, List.nil_append, parse, parseBranch_condition named, parseTarget,
      ↓reduceIte, atEnd, extraAfterBranch]
  | @unknown t notLabel notBranch unnamed rest =>
    refine .inl ⟨[t], rest, List.cons_ne_nil _ _, rfl, fun rest' ↦ ?_⟩
    rw [List.singleton_append, parse_eq_parseOperation notLabel notBranch,
      parseOperation_of_forall_ne unnamed]
  | @operand op before operands read t fault bad rest =>
    refine .inl ⟨⟨.word, op.mnemonic⟩ :: (before ++ [t]), rest, List.cons_ne_nil _ _, ?_,
      fun rest' ↦ ?_⟩
    · rw [List.cons_append, List.append_assoc, List.singleton_append]
    · rw [List.cons_append, List.append_assoc, List.singleton_append,
        parse_mnemonic op (Operand.ofTokens_of_map_append read bad)]
      rfl

/-- What a call answers and leaves: it takes all tokens if it finds no fault, and some of them
otherwise. -/
theorem parse_cases (ts : List Token) :
    (∃ s, Spells ts s ∧ parse ts = (.ok s, [])) ∨
      ∃ taken fault rest, taken ≠ [] ∧ ts = taken ++ rest ∧ parse taken = (.error fault, []) ∧
        parse ts = (.error fault, rest) := by
  rcases exists_spells_or_faulty ts with ⟨s, spelled⟩ | ⟨fault, faulty⟩
  · exact .inl ⟨s, spelled, spelled.parse_eq⟩
  · obtain ⟨taken, rest, parts⟩ := faulty.exists_taken
    exact .inr ⟨taken, fault, rest, parts⟩

/-- A call that reads a statement takes all tokens. -/
theorem left_of_parse_eq_ok {answer : Option Statement} (h : (parse ts).1 = .ok answer) :
    (parse ts).2 = [] := by
  rcases parse_cases ts with ⟨s, -, reads⟩ | ⟨taken, fault, rest, -, -, -, reads⟩
  · rw [reads]
  · rw [reads] at h
    cases h

/-- A call takes at least one token, if there is one. -/
theorem length_left_parse_le (ts : List Token) : (parse ts).2.length ≤ ts.length - 1 := by
  rcases parse_cases ts with ⟨s, -, reads⟩ | ⟨taken, fault, rest, some, rfl, -, reads⟩
  · rw [reads]
    exact Nat.zero_le _
  · have := List.length_pos_iff.mpr some
    rw [reads, List.length_append]
    show rest.length ≤ _
    omega

/-! ### Several calls -/

/-- The answers to a number of calls one after the other, and the tokens that are left over. -/
def parseTimes : Nat → List Token → List (Except Fault (Option Statement)) × List Token
  | 0, ts => ([], ts)
  | n + 1, ts =>
    let (answer, rest) := parse ts
    let (answers, rest) := parseTimes n rest
    (answer :: answers, rest)

/-- There is an answer to each call. -/
theorem length_parseTimes (n : Nat) (ts : List Token) : (parseTimes n ts).1.length = n := by
  induction n generalizing ts with
  | zero => rfl
  | succ n ih => exact congrArg Nat.succ (ih (parse ts).2)

/-- A further call finds what the calls before it have left. -/
theorem left_parseTimes_succ (n : Nat) (ts : List Token) :
    (parseTimes (n + 1) ts).2 = (parse (parseTimes n ts).2).2 := by
  induction n generalizing ts with
  | zero => rfl
  | succ n ih => exact ih (parse ts).2

/-- A call answers as the first one would on the tokens that the calls before it have left. -/
theorem getElem?_parseTimes (h : k < n) (ts : List Token) :
    (parseTimes n ts).1[k]? = some (parse (parseTimes k ts).2).1 := by
  induction n generalizing k ts with
  | zero => exact absurd h (Nat.not_lt_zero k)
  | succ n ih =>
    cases k with
    | zero => rfl
    | succ k => exact ih (Nat.lt_of_succ_lt_succ h) (parse ts).2

/-- An answer is the one to a call. -/
theorem exists_parse_of_getElem? {answer : Except Fault (Option Statement)}
    (h : (parseTimes n ts).1[k]? = some answer) :
    k < n ∧ (parse (parseTimes k ts).2).1 = answer := by
  obtain ⟨inside, -⟩ := List.getElem?_eq_some_iff.mp h
  rw [length_parseTimes] at inside
  rw [getElem?_parseTimes inside] at h
  exact ⟨inside, Option.some.inj h⟩

/-- Every call takes a token, as long as there is one. -/
theorem length_left_parseTimes_le (n : Nat) (ts : List Token) :
    (parseTimes n ts).2.length ≤ ts.length - n := by
  induction n with
  | zero => exact Nat.le_refl _
  | succ n ih =>
    have further := length_left_parse_le (parseTimes n ts).2
    rw [left_parseTimes_succ]
    omega

/-- Once no token is left, none is left later. -/
theorem left_parseTimes_of_le {j : Nat} (h : k ≤ j) (none : (parseTimes k ts).2 = []) :
    (parseTimes j ts).2 = [] := by
  induction h with
  | refl => exact none
  | step _ ih => rw [left_parseTimes_succ, ih, parse]

/-- Once no token is left, every later call finds nothing. -/
theorem getElem?_parseTimes_of_left {j : Nat} (h : k ≤ j) (none : (parseTimes k ts).2 = [])
    (inside : j < n) : (parseTimes n ts).1[j]? = some (.ok Option.none) := by
  rw [getElem?_parseTimes inside, left_parseTimes_of_le h none, parse]

/-- A call beyond the number of tokens finds nothing. -/
theorem getElem?_parseTimes_of_le (h : ts.length ≤ k) (inside : k < n) :
    (parseTimes n ts).1[k]? = some (.ok none) := by
  have short := length_left_parseTimes_le k ts
  have left : (parseTimes k ts).2 = [] := List.eq_nil_of_length_eq_zero (by omega)
  exact getElem?_parseTimes_of_left (Nat.le_refl k) left inside

/-- A call that reads a statement leaves nothing. -/
theorem left_parseTimes_of_statement (read : (parseTimes n ts).1[k]? = some (.ok (some s))) :
    (parseTimes (k + 1) ts).2 = [] := by
  rw [left_parseTimes_succ]
  exact left_of_parse_eq_ok (exists_parse_of_getElem? read).2

/-- A statement is read by one call only. -/
theorem not_lt_of_statements {j : Nat} {s' : Statement}
    (read : (parseTimes n ts).1[j]? = some (.ok (some s)))
    (read' : (parseTimes n ts).1[k]? = some (.ok (some s'))) : ¬ j < k := by
  intro later
  have left := left_parseTimes_of_statement read
  have inside := (exists_parse_of_getElem? read').1
  rw [getElem?_parseTimes_of_left later left inside] at read'
  cases read'

/-- A call that finds a fault takes some of the tokens it finds, which alone have the fault. -/
theorem exists_taken_of_fault (told : (parseTimes n ts).1[k]? = some (.error fault)) :
    ∃ taken, taken ≠ [] ∧ (parseTimes k ts).2 = taken ++ (parseTimes (k + 1) ts).2 ∧
      parse taken = (.error fault, []) := by
  have answered := (exists_parse_of_getElem? told).2
  rw [left_parseTimes_succ]
  rcases parse_cases (parseTimes k ts).2 with
    ⟨s, -, reads⟩ | ⟨taken, found, rest, some, parts, alone, reads⟩
  · rw [reads] at answered
    cases answered
  · rw [reads] at answered ⊢
    cases answered
    exact ⟨taken, some, parts, alone⟩

/-- The answers to calls one after the other on a list of tokens. Each call answers as the first one
would on the tokens that are left to it. A call that reads a statement takes all of them, and every
later one finds nothing, so that there is one statement at most. A call that finds a fault takes
some of them from the start, and these alone have the fault. Calls beyond the number of tokens find
nothing. -/
theorem parseTimes_progress (n : Nat) (ts : List Token) :
    let answers := (parseTimes n ts).1
    let left (k : Nat) := (parseTimes k ts).2
    (∀ k < n, answers[k]? = some (parse (left k)).1 ∧ left (k + 1) = (parse (left k)).2) ∧
      (∀ (k : Nat) (s : Statement), answers[k]? = some (.ok (some s)) →
        left (k + 1) = [] ∧ ∀ j < n, k < j → answers[j]? = some (.ok none)) ∧
      (∀ (k : Nat) (fault : Fault), answers[k]? = some (.error fault) →
        ∃ taken, taken ≠ [] ∧ left k = taken ++ left (k + 1) ∧
          parse taken = (.error fault, [])) ∧
      (∀ (j k : Nat) (s s' : Statement), answers[j]? = some (.ok (some s)) →
        answers[k]? = some (.ok (some s')) → j = k) ∧
      ∀ k < n, ts.length ≤ k → answers[k]? = some (.ok none) := by
  intro answers left
  refine ⟨?_, ?_, ?_, ?_, ?_⟩
  · intro k inside
    exact ⟨getElem?_parseTimes inside ts, left_parseTimes_succ k ts⟩
  · intro k s read
    have nothing : left (k + 1) = [] := left_parseTimes_of_statement read
    exact ⟨nothing, fun j inside later ↦ getElem?_parseTimes_of_left later nothing inside⟩
  · intro k fault told
    exact exists_taken_of_fault told
  · intro j k s s' read read'
    have notBefore := not_lt_of_statements read read'
    have notAfter := not_lt_of_statements read' read
    omega
  · intro k inside beyond
    exact getElem?_parseTimes_of_le beyond inside

/-- Two faults, the second of a branch that follows the first on the same tokens. -/
theorem parseTimes_progress_label_branch :
    let ts : List Token := [⟨.label, "A"⟩, ⟨.word, "X"⟩, ⟨.branch, "B"⟩, ⟨.word, "EQ"⟩]
    let answers := (parseTimes 5 ts).1
    answers[0]? = some (.error (.trailingTokens "X")) ∧
      answers[1]? = some (.ok (some (.branch .always "EQ"))) ∧
      (parseTimes 2 ts).2 = [] ∧ answers[2]? = some (.ok none) ∧ answers[4]? = some (.ok none) ∧
      ∃ taken, taken ≠ [] ∧ ts = taken ++ (parseTimes 1 ts).2 ∧
        parse taken = (.error (.trailingTokens "X"), []) := by
  intro ts answers
  obtain ⟨-, statement, error, -, beyond⟩ := parseTimes_progress 5 ts
  obtain ⟨taken, later⟩ := statement 1 (.branch .always "EQ") rfl
  exact ⟨rfl, rfl, taken, later 2 (by decide) (by decide), beyond 4 (by decide) (by decide),
    error 0 (.trailingTokens "X") rfl⟩

end RegisterMachine.Statement
