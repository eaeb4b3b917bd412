import RegisterMachine.Proofs.Image.Record

/-!
# Readers that check

A reader narrows another one if it reads just those documents that the other one reads and whose
content then passes a check. Narrowing goes through variants, arrays and records: where a part of a
document is checked when it is read, the whole may as well be checked in the end.
-/

namespace RegisterMachine.Image

variable {α β γ δ : Type} {check : β → Option α} {narrow : Reader α} {wide : Reader β}

theorem toOption_map (f : α → β) (result : Except ReadError α) :
    (result.map f).toOption = result.toOption.map f := by
  cases result <;> rfl

theorem toOption_bind (result : Except ReadError α) (f : α → Except ReadError β) :
    (result.bind f).toOption = result.toOption.bind fun a ↦ (f a).toOption := by
  cases result <;> rfl

/-- Both results, if there are both. -/
def pair? (x : Option α) (y : Option β) : Option (α × β) := x.bind fun a ↦ y.map fun b ↦ (a, b)

theorem pair?_none (x : Option α) : pair? x (none : Option β) = none := Option.bind_fun_none _

/-- Two results are taken further one by one. -/
theorem pair?_bind (x : Option α) (y : Option β) (f : α → Option γ) (g : β → Option δ) :
    ((pair? x y).bind fun both ↦ pair? (f both.1) (g both.2)) = pair? (x.bind f) (y.bind g) := by
  cases x with
  | none => rfl
  | some a =>
    cases y with
    | none => exact (Option.bind_fun_none _).symm
    | some b => rfl

theorem pair?_eq_none_iff {x : Option α} {y : Option β} :
    pair? x y = none ↔ x = none ∨ y = none := by
  cases x <;> simp [pair?]

section
variable {σ τ σ' τ' : Type} {known : τ → Option σ} {known' : τ' → Option σ'} {t : τ} {t' : τ'}

/-- More is learned of the first of two results, and checked. -/
theorem pair?_bind_left {narrow : σ → Except ReadError σ} {wide : Except ReadError τ}
    (checked : ((known t).bind fun s ↦ (narrow s).toOption) = wide.toOption.bind known) :
    ((pair? (known t) (known' t')).bind fun s ↦
        ((narrow s.1).map fun s₁ ↦ (s₁, s.2)).toOption) =
      (wide.map fun t₁ ↦ (t₁, t')).toOption.bind fun t ↦ pair? (known t.1) (known' t.2) := by
  simp only [toOption_map]
  calc ((pair? (known t) (known' t')).bind fun s ↦ (narrow s.1).toOption.map fun s₁ ↦ (s₁, s.2))
    _ = pair? ((known t).bind fun s ↦ (narrow s).toOption) (known' t') := by
        cases known t with
        | none => rfl
        | some s =>
          cases known' t' with
          | none => exact (pair?_none _).symm
          | some s' => exact Option.map_eq_bind
    _ = (wide.toOption.map fun t₁ ↦ (t₁, t')).bind fun t ↦ pair? (known t.1) (known' t.2) := by
        rw [checked]
        cases wide <;> rfl

/-- More is learned of the second of two results, and checked. -/
theorem pair?_bind_right {narrow : σ' → Except ReadError σ'} {wide : Except ReadError τ'}
    (checked : ((known' t').bind fun s ↦ (narrow s).toOption) = wide.toOption.bind known') :
    ((pair? (known t) (known' t')).bind fun s ↦
        ((narrow s.2).map fun s₂ ↦ (s.1, s₂)).toOption) =
      (wide.map fun t₂ ↦ (t, t₂)).toOption.bind fun t ↦ pair? (known t.1) (known' t.2) := by
  simp only [toOption_map]
  calc ((pair? (known t) (known' t')).bind fun s ↦ (narrow s.2).toOption.map fun s₂ ↦ (s.1, s₂))
    _ = pair? (known t) ((known' t').bind fun s ↦ (narrow s).toOption) := by
        cases known t with
        | none => rfl
        | some s => cases known' t' <;> rfl
    _ = (wide.toOption.map fun t₂ ↦ (t, t₂)).bind fun t ↦ pair? (known t.1) (known' t.2) := by
        rw [checked]
        cases wide with
        | error e => exact pair?_none _
        | ok t₂ => rfl

end

/-- The first reader reads what the second one reads, if it passes the check. -/
def Narrows (check : β → Option α) (narrow : Reader α) (wide : Reader β) : Prop :=
  ∀ document, (narrow document).toOption = (wide document).toOption.bind check

/-- Nothing is checked. -/
theorem narrows_some (read : Reader α) : Narrows some read read :=
  fun _ ↦ (Option.bind_fun_some _).symm

/-- What is read is part of something larger. -/
theorem Narrows.map (h : Narrows check narrow wide) {f : α → γ} {g : β → δ} {check' : δ → Option γ}
    (commutes : ∀ b, check' (g b) = (check b).map f) :
    Narrows check' (fun document ↦ (narrow document).map f)
      fun document ↦ (wide document).map g := by
  intro document
  rw [toOption_map, toOption_map, h document, Option.map_bind, Option.bind_map]
  exact Option.bind_congr fun b _ ↦ (commutes b).symm

/-! ### Variants -/

/-- A variant narrows another one of the same form. -/
inductive NarrowsVariant (check : β → Option α) : Option (Variant α) → Option (Variant β) → Prop
  | unknown : NarrowsVariant check none none
  | bare {a : α} {b : β} (passes : check b = some a) :
    NarrowsVariant check (some (.bare a)) (some (.bare b))
  | holding {narrow : Reader α} {wide : Reader β} (h : Narrows check narrow wide) :
    NarrowsVariant check (some (.holding narrow)) (some (.holding wide))

/-- Variants are narrowed one by one. -/
theorem narrows_readVariant {variants : String → Option (Variant α)}
    {variants' : String → Option (Variant β)}
    (h : ∀ name, NarrowsVariant check (variants name) (variants' name)) :
    Narrows check (readVariant variants) (readVariant variants') := by
  intro document
  cases document with
  | string s =>
    cases s with
    | none => rfl
    | some name =>
      have own := h name
      simp only [readVariant]
      generalize variants name = variant at own ⊢
      generalize variants' name = variant' at own ⊢
      cases own with
      | unknown | holding h => rfl
      | bare passes => exact passes.symm
  | object entries =>
    rcases entries with - | ⟨⟨- | name, content⟩, more⟩
    · rfl
    · rfl
    · have own := h name
      simp only [readVariant, toOption_bind]
      generalize variants name = variant at own ⊢
      generalize variants' name = variant' at own ⊢
      cases more with
      | cons entry more => simp [Except.toOption]
      | nil =>
        simp only [List.isEmpty_nil, ↓reduceIte]
        show Option.bind _ some = (Option.bind _ some).bind check
        rw [Option.bind_fun_some, Option.bind_fun_some]
        cases own with
        | unknown => rfl
        | holding h => exact h content
        | bare passes =>
          -- A variant without content may be written as one that holds `null`.
          cases content with
          | null => exact passes.symm
          | _ => rfl
  | _ => rfl

/-! ### Arrays -/

theorem toOption_mapM_cons (read : Reader α) (item : Json) (items : List Json) :
    ((item :: items).mapM read).toOption =
      (read item).toOption.bind fun a ↦ (items.mapM read).toOption.map (a :: ·) := by
  rw [List.mapM_cons]
  cases read item with
  | error e => rfl
  | ok a => cases items.mapM read <;> rfl

/-- The items of an array are checked one by one. -/
theorem narrows_readArray (h : Narrows check narrow wide) :
    Narrows (fun bs ↦ bs.mapM check) (readArray narrow) (readArray wide) := by
  intro document
  cases document with
  | array items =>
    simp only [readArray]
    induction items with
    | nil => rfl
    | cons item items ih =>
      rw [toOption_mapM_cons, toOption_mapM_cons, h item, ih]
      cases (wide item).toOption with
      | none => rfl
      | some b =>
        cases (items.mapM wide).toOption with
        | none => exact Option.bind_fun_none _
        | some bs =>
          simp only [Option.bind_some, Option.map_some, List.mapM_cons, Option.pure_def,
            Option.bind_eq_bind]
          exact Option.bind_congr fun a _ ↦ Option.map_eq_bind
  | _ => rfl

/-! ### Records -/

namespace Fields

/-- A record is read from an object if all entries are, and no field is missing then. -/
theorem toOption_read_object (f : Fields α) (entries : List (Option String × Json)) :
    (f.read (.object entries)).toOption =
      (f.takeEntries f.start entries).toOption.bind f.finish := by
  simp only [read, toOption_bind]
  apply Option.bind_congr
  intro s _
  cases f.finish s <;> rfl

/-- A record is read from an array if all fields are, and no item is left then. -/
theorem toOption_read_array (f : Fields α) (items : List Json) :
    (f.read (.array items)).toOption =
      (f.takeItems items).toOption.bind fun (a, rest) ↦ if rest.isEmpty then some a else none := by
  simp only [read, toOption_bind]
  apply Option.bind_congr
  rintro ⟨a, rest⟩ _
  cases rest <;> rfl

/-- What is known of one record is what is known of another one and has passed the checks so far.
Both have the same keys, and read the same of them but for the checks. -/
structure Narrows (check : β → Option α) (f : Fields α) (g : Fields β)
    (known : g.State → Option f.State) : Prop where
  start : known g.start = some f.start
  finish : ∀ t, (known t).bind f.finish = (g.finish t).bind check
  step : ∀ key, (∀ s, f.step s key = none) ∧ (∀ t, g.step t key = none) ∨
    ∃ (narrow : f.State → Reader f.State) (wide : g.State → Reader g.State),
      (∀ s, f.step s key = some (narrow s)) ∧ (∀ t, g.step t key = some (wide t)) ∧
        ∀ t value, ((known t).bind fun s ↦ (narrow s value).toOption) =
          (wide t value).toOption.bind known
  items : ∀ items, (f.takeItems items).toOption =
    (g.takeItems items).toOption.bind fun taken ↦ (check taken.1).map fun a ↦ (a, taken.2)

namespace Narrows

variable {f : Fields α} {g : Fields β} {known : g.State → Option f.State}

/-- A further entry is read by both, and checked. -/
theorem takeEntry (h : Narrows check f g known) (t : g.State) (entry : Option String × Json) :
    ((known t).bind fun s ↦ (f.takeEntry s entry).toOption) =
      (g.takeEntry t entry).toOption.bind known := by
  obtain ⟨- | key, value⟩ := entry
  · exact Option.bind_fun_none _
  · rcases h.step key with ⟨other, other'⟩ | ⟨narrow, wide, steps, steps', checked⟩
    · simp only [Fields.takeEntry, other, other']
      split
      · exact Option.bind_fun_some _
      · exact Option.bind_fun_none _
    · simp only [Fields.takeEntry, steps, steps']
      exact checked t value

/-- Further entries are read by both, and checked. -/
theorem takeEntries (h : Narrows check f g known) (t : g.State)
    (entries : List (Option String × Json)) :
    ((known t).bind fun s ↦ (f.takeEntries s entries).toOption) =
      (g.takeEntries t entries).toOption.bind known := by
  induction entries generalizing t with
  | nil => exact Option.bind_fun_some _
  | cons entry entries ih =>
    simp only [takeEntries_cons, toOption_bind]
    calc ((known t).bind fun s ↦ (f.takeEntry s entry).toOption.bind fun s ↦
          (f.takeEntries s entries).toOption)
      _ = ((g.takeEntry t entry).toOption.bind known).bind fun s ↦
            (f.takeEntries s entries).toOption := by
          rw [← h.takeEntry, Option.bind_assoc]
      _ = (g.takeEntry t entry).toOption.bind fun t ↦
            (g.takeEntries t entries).toOption.bind known := by
          rw [Option.bind_assoc]
          exact Option.bind_congr fun t _ ↦ ih t
      _ = _ := (Option.bind_assoc _ _ _).symm

/-- A record is checked field by field, or as a whole when it is read. -/
theorem read (h : Fields.Narrows check f g known) : Image.Narrows check f.read g.read := by
  intro document
  cases document with
  | object entries =>
    rw [toOption_read_object, toOption_read_object]
    calc ((f.takeEntries f.start entries).toOption.bind f.finish)
      _ = ((known g.start).bind fun s ↦ (f.takeEntries s entries).toOption).bind f.finish := by
          rw [h.start, Option.bind_some]
      _ = (g.takeEntries g.start entries).toOption.bind fun t ↦ (known t).bind f.finish := by
          rw [h.takeEntries, Option.bind_assoc]
      _ = ((g.takeEntries g.start entries).toOption.bind g.finish).bind check := by
          simp only [h.finish, Option.bind_assoc]
  | array items =>
    rw [toOption_read_array, toOption_read_array, h.items items, Option.bind_assoc,
      Option.bind_assoc]
    apply Option.bind_congr
    rintro ⟨b, rest⟩ _
    rw [Option.bind_map]
    cases rest with
    | nil => exact Option.bind_fun_some _
    | cons item rest => exact Option.bind_fun_none _
  | _ => rfl

end Narrows

/-- What is known of a record of one field. -/
def knownField (check : β → Option α) : Option β → Option (Option α)
  | none => some none
  | some b => (check b).map some

/-- A record of one field is narrowed by its field. -/
theorem narrows_field (name : String) (h : Image.Narrows check narrow wide) :
    Narrows check (field name narrow) (field name wide) (knownField check) where
  start := rfl
  finish t := by
    cases t with
    | none => rfl
    | some b => cases passes : check b <;> simp [knownField, field, passes]
  step key := by
    by_cases own : key = name
    · refine .inr ⟨_, _, fun s ↦ if_pos own, fun t ↦ if_pos own, ?_⟩
      intro t value
      cases t with
      | none =>
        show ((narrow value).map some).toOption =
          ((wide value).map some).toOption.bind (knownField check)
        rw [toOption_map, toOption_map, h value, Option.map_bind, Option.bind_map]
        rfl
      | some b =>
        show ((check b).map some).bind _ = none
        cases check b <;> rfl
    · exact .inl ⟨fun s ↦ if_neg own, fun t ↦ if_neg own⟩
  items items := by
    cases items with
    | nil => rfl
    | cons item items =>
      show ((narrow item).map fun a ↦ (a, items)).toOption =
        ((wide item).map fun b ↦ (b, items)).toOption.bind _
      rw [toOption_map, toOption_map, h item, Option.map_bind, Option.bind_map]
      rfl

/-- What is known of the fields of two records. -/
def knownBoth {f : Fields α} {g : Fields β} {f' : Fields γ} {g' : Fields δ}
    (known : g.State → Option f.State) (known' : g'.State → Option f'.State)
    (t : (g.and g').State) : Option (f.and f').State :=
  pair? (known t.1) (known' t.2)

/-- A record of the fields of two records is narrowed by both. -/
theorem Narrows.and {f : Fields α} {g : Fields β} {f' : Fields γ} {g' : Fields δ}
    {known : g.State → Option f.State} {known' : g'.State → Option f'.State}
    {check' : δ → Option γ} (h : Narrows check f g known) (h' : Narrows check' f' g' known') :
    Narrows (fun both ↦ pair? (check both.1) (check' both.2)) (f.and f') (g.and g')
      (knownBoth known known') where
  start := by
    show pair? (known g.start) (known' g'.start) = _
    rw [h.start, h'.start]
    rfl
  finish t := by
    show ((pair? (known t.1) (known' t.2)).bind fun s ↦ pair? (f.finish s.1) (f'.finish s.2)) =
      (pair? (g.finish t.1) (g'.finish t.2)).bind fun both ↦
        pair? (check both.1) (check' both.2)
    rw [pair?_bind, pair?_bind, h.finish, h'.finish]
  step key := by
    rcases h.step key with ⟨other, other'⟩ | ⟨narrow, wide, steps, steps', checked⟩
    · rcases h'.step key with ⟨last, last'⟩ | ⟨narrow, wide, steps, steps', checked⟩
      · left
        simp [Fields.and, other, other', last, last']
      · refine .inr ⟨fun s value ↦ (narrow s.2 value).map fun s' ↦ (s.1, s'),
          fun t value ↦ (wide t.2 value).map fun t' ↦ (t.1, t'), ?_, ?_, ?_⟩
        · simp [Fields.and, other, steps]
        · simp [Fields.and, other', steps']
        · exact fun t value ↦ pair?_bind_right (checked t.2 value)
    · refine .inr ⟨fun s value ↦ (narrow s.1 value).map fun s' ↦ (s', s.2),
        fun t value ↦ (wide t.1 value).map fun t' ↦ (t', t.2), ?_, ?_, ?_⟩
      · simp [Fields.and, steps]
      · simp [Fields.and, steps']
      · exact fun t value ↦ pair?_bind_left (checked t.1 value)
  items items := by
    simp only [Fields.and, toOption_bind, toOption_map, h.items items, h'.items, Option.bind_assoc,
      Option.bind_map, Option.map_bind, Function.comp_def]
    apply Option.bind_congr
    rintro ⟨b, rest⟩ _
    cases (g'.takeItems rest).toOption with
    | none => exact Option.bind_fun_none _
    | some taken =>
      obtain ⟨d, rest⟩ := taken
      cases check b with
      | none => simp [pair?]
      | some a => cases passes : check' d <;> simp [passes, pair?]

end Fields

end RegisterMachine.Image
