import RegisterMachine.Statement.Parser

/-!
# The grammar of a line

What the tokens of a line say, and what is wrong with them if they say nothing that a line can
say. Every list of tokens is of exactly one of these kinds, and reading tells which
(`parse_eq_iff`).
-/

namespace RegisterMachine

namespace Operand

/-- Tokens that all stand for operands are read to the end. -/
theorem ofTokens_of_map_eq {tokens : List Token} {operands : List Operand}
    (read : tokens.map ofToken = operands.map .ok) : ofTokens tokens = (.ok operands, []) := by
  induction tokens generalizing operands with
  | nil =>
    rw [List.map_eq_nil_iff.mp read.symm]
    rfl
  | cons t ts ih =>
    cases operands with
    | nil => cases read
    | cons x xs =>
      obtain ⟨first, others⟩ := List.cons.inj read
      simp only [ofTokens, first, ih others]

/-- The first token that stands for no operand is the fault, and what follows it is left over. -/
theorem ofTokens_of_map_append {before rest : List Token} {operands : List Operand} {t : Token}
    {fault : Fault} (read : before.map ofToken = operands.map .ok)
    (bad : ofToken t = .error fault) :
    ofTokens (before ++ t :: rest) = (.error fault, rest) := by
  induction before generalizing operands with
  | nil => simp only [List.nil_append, ofTokens, bad]
  | cons s before ih =>
    cases operands with
    | nil => cases read
    | cons x xs =>
      obtain ⟨first, others⟩ := List.cons.inj read
      simp only [List.cons_append, ofTokens, first, ih others]

/-- Tokens all stand for operands, or one of them is the first that does not. -/
theorem exists_operands_or_fault (tokens : List Token) :
    (∃ operands : List Operand, tokens.map ofToken = operands.map .ok) ∨
      ∃ (before : List Token) (operands : List Operand) (t : Token) (fault : Fault)
        (rest : List Token), tokens = before ++ t :: rest ∧
          before.map ofToken = operands.map .ok ∧ ofToken t = .error fault := by
  induction tokens with
  | nil => exact .inl ⟨[], rfl⟩
  | cons t ts ih =>
    cases first : ofToken t with
    | error fault => exact .inr ⟨[], [], t, fault, ts, rfl, rfl, first⟩
    | ok x =>
      rcases ih with ⟨xs, read⟩ | ⟨before, xs, bad, fault, rest, rfl, read, isBad⟩
      · refine .inl ⟨x :: xs, ?_⟩
        rw [List.map_cons, List.map_cons, first, read]
      · refine .inr ⟨t :: before, x :: xs, bad, fault, rest, rfl, ?_, isBad⟩
        rw [List.map_cons, List.map_cons, first, read]

end Operand

namespace Statement

/-- What the tokens of a line say. -/
inductive Spells : List Token → Option Statement → Prop
  /-- A line without tokens says nothing. -/
  | nothing : Spells [] none
  /-- A label stands alone. -/
  | label (name : String) : Spells [⟨.label, name⟩] (some (.label name))
  /-- A branch names its target, whatever the target is called. -/
  | branch (b target : String) :
    Spells [⟨.branch, b⟩, ⟨.word, target⟩] (some (.branch .always target))
  /-- A conditional branch names its condition and its target. -/
  | conditional {condition : Condition} {word : String}
    (named : condition.mnemonic? = some word) (b target : String) :
    Spells [⟨.branch, b⟩, ⟨.word, word⟩, ⟨.word, target⟩] (some (.branch condition target))
  /-- An operation is named before its operands, a token for each. -/
  | operation (op : Opcode) {tokens : List Token} {operands : List Operand}
    (read : tokens.map Operand.ofToken = operands.map .ok) :
    Spells (⟨.word, op.mnemonic⟩ :: tokens) (some (.operation op operands))

/-- What is wrong with the tokens of a line. -/
inductive Faulty : List Token → Fault → Prop
  /-- A token follows a label. -/
  | trailing (name : String) (extra : Token) (rest : List Token) :
    Faulty (⟨.label, name⟩ :: extra :: rest) (.trailingTokens extra.literal)
  /-- A branch is all there is. -/
  | noTarget (b : String) : Faulty [⟨.branch, b⟩] (.malformedBranch "missing target label")
  /-- What follows a branch is no word. -/
  | target (b : String) {t : Token} (notWord : t.kind ≠ .word) (rest : List Token) :
    Faulty (⟨.branch, b⟩ :: t :: rest) (.malformedBranch ("'" ++ t.literal ++ "' is not a label"))
  /-- What follows a branch and its condition is no word. -/
  | targetAfterCondition (b : String) {condition : Condition} {word : String}
    (named : condition.mnemonic? = some word) {t : Token} (notWord : t.kind ≠ .word)
    (rest : List Token) :
    Faulty (⟨.branch, b⟩ :: ⟨.word, word⟩ :: t :: rest)
      (.malformedBranch ("'" ++ t.literal ++ "' is not a label"))
  /-- A token follows a branch and its target, which names no condition. -/
  | extra (b : String) {target : String}
    (unnamed : ∀ condition : Condition, condition.mnemonic? ≠ some target) (extra : Token)
    (rest : List Token) :
    Faulty (⟨.branch, b⟩ :: ⟨.word, target⟩ :: extra :: rest)
      (.malformedBranch ("unexpected '" ++ extra.literal ++ "'"))
  /-- A token follows a branch, its condition and its target. -/
  | extraAfterCondition (b : String) {condition : Condition} {word : String}
    (named : condition.mnemonic? = some word) (target : String) (extra : Token)
    (rest : List Token) :
    Faulty (⟨.branch, b⟩ :: ⟨.word, word⟩ :: ⟨.word, target⟩ :: extra :: rest)
      (.malformedBranch ("unexpected '" ++ extra.literal ++ "'"))
  /-- The first token is no label, no branch and names no operation. -/
  | unknown {t : Token} (notLabel : t.kind ≠ .label) (notBranch : t.kind ≠ .branch)
    (unnamed : ∀ op : Opcode, t ≠ ⟨.word, op.mnemonic⟩) (rest : List Token) :
    Faulty (t :: rest) (.unknownOpcode t.literal)
  /-- A token among the operands of an operation, the first one, is none. -/
  | operand (op : Opcode) {before : List Token} {operands : List Operand}
    (read : before.map Operand.ofToken = operands.map .ok) {t : Token} {fault : Fault}
    (bad : Operand.ofToken t = .error fault) (rest : List Token) :
    Faulty (⟨.word, op.mnemonic⟩ :: (before ++ t :: rest)) fault

/-- The word after a branch names its target if nothing follows or if it names no condition. -/
theorem parseBranch_target {target : String} {rest : List Token}
    (free : rest = [] ∨ ∀ condition : Condition, condition.mnemonic? ≠ some target) :
    parseBranch (⟨.word, target⟩ :: rest) =
      atEnd (.branch .always target) extraAfterBranch rest := by
  cases named : Condition.ofMnemonic? target with
  | none => simp only [parseBranch, named, parseTarget, ↓reduceIte]
  | some condition =>
    have last : rest = [] := by
      apply free.resolve_right
      intro unnamed
      exact unnamed condition (Condition.ofMnemonic?_eq_some_iff.mp named)
    simp only [last, parseBranch, named, parseTarget, ↓reduceIte]

/-- The word after a branch names its condition if there is one of that name and more follows. -/
theorem parseBranch_condition {condition : Condition} {word : String}
    (named : condition.mnemonic? = some word) (target : Token) (rest : List Token) :
    parseBranch (⟨.word, word⟩ :: target :: rest) = parseTarget condition target rest := by
  simp only [parseBranch, Condition.ofMnemonic?_eq_some_iff.mpr named, ↓reduceIte]

/-- Any token but a label and a branch starts an operation. -/
theorem parse_eq_parseOperation {t : Token} (notLabel : t.kind ≠ .label)
    (notBranch : t.kind ≠ .branch) (ts : List Token) : parse (t :: ts) = parseOperation t ts := by
  obtain ⟨kind, literal⟩ := t
  cases kind with
  | label => exact absurd rfl notLabel
  | branch => exact absurd rfl notBranch
  | word | literal | unknown => rfl

/-- A token that names no operation is the fault, and what follows it is left over. -/
theorem parseOperation_of_forall_ne {t : Token} (unnamed : ∀ op : Opcode, t ≠ ⟨.word, op.mnemonic⟩)
    (ts : List Token) : parseOperation t ts = (.error (.unknownOpcode t.literal), ts) := by
  have none : (if t.kind = .word then Opcode.ofMnemonic? t.literal else none) = none := by
    apply Option.eq_none_iff_forall_ne_some.mpr
    intro op found
    obtain ⟨isWord, found⟩ := Option.ite_none_right_eq_some.mp found
    obtain ⟨kind, literal⟩ := t
    apply unnamed op
    rw [Opcode.ofMnemonic?_eq_some_iff.mp found]
    exact congrArg (Token.mk · literal) isWord
  simp only [parseOperation, none]

/-- The word of an operation names it. -/
theorem parse_mnemonic (op : Opcode) {ts rest : List Token}
    {operands : Except Fault (List Operand)} (read : Operand.ofTokens ts = (operands, rest)) :
    parse (⟨.word, op.mnemonic⟩ :: ts) = (operands.map (some ∘ .operation op), rest) := by
  simp only [parse, parseOperation, ↓reduceIte, Opcode.ofMnemonic?_eq_some_iff.mpr rfl, read]
  cases operands <;> rfl

/-- What the tokens of a line say is read, and no token is left over. -/
theorem Spells.parse_eq {ts : List Token} {s : Option Statement} (h : Spells ts s) :
    parse ts = (.ok s, []) := by
  cases h with
  | nothing => rfl
  | label name => rfl
  | branch b target => exact parseBranch_target (.inl rfl)
  | conditional named b target => exact parseBranch_condition named _ []
  | operation op read =>
    rw [parse_mnemonic op (Operand.ofTokens_of_map_eq read)]
    rfl

/-- What is wrong with the tokens of a line is told. -/
theorem Faulty.parse_eq {ts : List Token} {fault : Fault} (h : Faulty ts fault) :
    (parse ts).1 = .error fault := by
  cases h with
  | trailing name extra rest => rfl
  | noTarget b => rfl
  | target b notWord rest => simp only [parse, parseBranch, notWord, ↓reduceIte, notALabel]
  | targetAfterCondition b named notWord rest =>
    simp only [parse, parseBranch_condition named, parseTarget, notWord, ↓reduceIte, notALabel]
  | extra b unnamed extra rest =>
    simp only [parse, parseBranch_target (.inr unnamed), atEnd, extraAfterBranch]
  | extraAfterCondition b named target extra rest =>
    simp only [parse, parseBranch_condition named, parseTarget, ↓reduceIte, atEnd,
      extraAfterBranch]
  | unknown notLabel notBranch unnamed rest =>
    rw [parse_eq_parseOperation notLabel notBranch, parseOperation_of_forall_ne unnamed]
  | operand op read bad rest =>
    rw [parse_mnemonic op (Operand.ofTokens_of_map_append read bad)]
    rfl

/-- The tokens after a branch name a target, or something is wrong with them. -/
private theorem exists_spells_or_faulty_branch (b : String) (ts : List Token) :
    (∃ s, Spells (⟨.branch, b⟩ :: ts) s) ∨ ∃ fault, Faulty (⟨.branch, b⟩ :: ts) fault := by
  cases ts with
  | nil => exact .inr ⟨_, .noTarget b⟩
  | cons t ts =>
    obtain ⟨kind, word⟩ := t
    by_cases notWord : kind ≠ .word
    · exact .inr ⟨_, .target b notWord ts⟩
    obtain rfl := Decidable.not_not.mp notWord
    cases ts with
    | nil => exact .inl ⟨_, .branch b word⟩
    | cons next ts =>
      cases found : Condition.ofMnemonic? word with
      | none =>
        refine .inr ⟨_, .extra b ?_ next ts⟩
        intro condition named
        rw [Condition.ofMnemonic?_eq_some_iff.mpr named] at found
        cases found
      | some condition =>
        have named := Condition.ofMnemonic?_eq_some_iff.mp found
        obtain ⟨kind, target⟩ := next
        by_cases notWord : kind ≠ .word
        · exact .inr ⟨_, .targetAfterCondition b named notWord ts⟩
        obtain rfl := Decidable.not_not.mp notWord
        cases ts with
        | nil => exact .inl ⟨_, .conditional named b target⟩
        | cons extra ts => exact .inr ⟨_, .extraAfterCondition b named target extra ts⟩

/-- The tokens of a line say something, or something is wrong with them. -/
theorem exists_spells_or_faulty (ts : List Token) :
    (∃ s, Spells ts s) ∨ ∃ fault, Faulty ts fault := by
  cases ts with
  | nil => exact .inl ⟨none, .nothing⟩
  | cons t ts =>
    by_cases isLabel : t.kind = .label
    · obtain ⟨kind, name⟩ := t
      subst isLabel
      cases ts with
      | nil => exact .inl ⟨_, .label name⟩
      | cons extra ts => exact .inr ⟨_, .trailing name extra ts⟩
    by_cases isBranch : t.kind = .branch
    · obtain ⟨kind, b⟩ := t
      subst isBranch
      exact exists_spells_or_faulty_branch b ts
    by_cases named : ∃ op : Opcode, t = ⟨.word, op.mnemonic⟩
    · obtain ⟨op, rfl⟩ := named
      rcases Operand.exists_operands_or_fault ts with
        ⟨xs, read⟩ | ⟨before, xs, bad, fault, rest, rfl, read, isBad⟩
      · exact .inl ⟨_, .operation op read⟩
      · exact .inr ⟨fault, .operand op read isBad rest⟩
    · exact .inr ⟨_, .unknown isLabel isBranch (fun op e ↦ named ⟨op, e⟩) ts⟩

/-- Reading accepts exactly what the grammar has, and tells exactly what is wrong with the rest. -/
theorem parse_eq_iff (ts : List Token) :
    (∀ s, (parse ts).1 = .ok s ↔ Spells ts s) ∧
      ∀ fault, (parse ts).1 = .error fault ↔ Faulty ts fault := by
  constructor
  · intro s
    refine ⟨?_, fun spelled ↦ congrArg Prod.fst spelled.parse_eq⟩
    intro read
    rcases exists_spells_or_faulty ts with ⟨s', spelled⟩ | ⟨fault, faulty⟩
    · rw [spelled.parse_eq] at read
      exact Except.ok.inj read ▸ spelled
    · rw [faulty.parse_eq] at read
      cases read
  · intro fault
    refine ⟨?_, Faulty.parse_eq⟩
    intro told
    rcases exists_spells_or_faulty ts with ⟨s, spelled⟩ | ⟨fault', faulty⟩
    · rw [spelled.parse_eq] at told
      cases told
    · rw [faulty.parse_eq] at told
      exact Except.error.inj told ▸ faulty

end Statement

end RegisterMachine
