import RegisterMachine.Image.Record

/-!
# Written records read back

An object that lists the fields of a record in their order is read field by field: records compose
from their fields, and so do the objects that they are read from.
-/

namespace RegisterMachine.Image

variable {α β : Type}

/-! ### Variants -/

theorem readVariant_text {variants : String → Option (Variant α)} {name : String} {a : α}
    (h : variants name = some (.bare a)) : readVariant variants (.text name) = .ok a := by
  simp only [Json.text, readVariant, h]

theorem readVariant_tagged {variants : String → Option (Variant α)} {name : String}
    {read : Reader α} {content : Json} {a : α} (h : variants name = some (.holding read))
    (holds : read content = .ok a) : readVariant variants (.tagged name content) = .ok a := by
  simp only [Json.tagged, Json.fields, List.map_cons, List.map_nil, readVariant, h, holds]
  rfl

/-! ### Arrays -/

/-- An array of written items reads back if each item does. -/
theorem readArray_map {read : Reader α} {write : α → Json} {as : List α}
    (h : ∀ a ∈ as, read (write a) = .ok a) : readArray read (.array (as.map write)) = .ok as := by
  simp only [readArray]
  induction as with
  | nil => rfl
  | cons a as ih =>
    have first := h a List.mem_cons_self
    have others := ih fun b member ↦ h b (List.mem_cons_of_mem a member)
    simp only [List.map_cons, List.mapM_cons, first, others]
    rfl

/-! ### Records -/

namespace Fields

/-- Entries with text keys. -/
def keyed (entries : List (String × Json)) : List (Option String × Json) :=
  entries.map fun (key, value) ↦ (some key, value)

theorem keyed_append (es ds : List (String × Json)) :
    keyed (es ++ ds) = keyed es ++ keyed ds := List.map_append

/-- The entries are fields of the record and give it this value. -/
structure Reads (f : Fields α) (entries : List (String × Json)) (a : α) : Prop where
  takes : ∃ s, f.takeEntries f.start (keyed entries) = .ok s ∧ f.finish s = some a
  own : ∀ e ∈ entries, ∀ s, (f.step s e.1).isSome = true

/-- A record is read from an object of its fields. -/
theorem Reads.read_eq {f : Fields α} {entries : List (String × Json)} {a : α}
    (h : f.Reads entries a) : f.read (.fields entries) = .ok a := by
  obtain ⟨s, taken, finished⟩ := h.takes
  simp only [keyed] at taken
  simp only [Json.fields, read, taken, Except.bind, finished]

theorem reads_field {name : String} {read : Reader α} {value : Json} {a : α}
    (h : read value = .ok a) : (field name read).Reads [(name, value)] a where
  takes := ⟨some a, by simp [keyed, takeEntries, field, h, Except.bind, Except.map], rfl⟩
  own := by simp [field]

/-- What is known of the fields after one more entry. -/
def takeEntry (f : Fields α) (s : f.State) : Option String × Json → Except ReadError f.State
  | (none, _) => .error .malformed
  | (some key, value) =>
    match f.step s key with
    | some read => read value
    | none => if value.isWhole then .ok s else .error .malformed

theorem takeEntries_cons (f : Fields α) (s : f.State) (e : Option String × Json)
    (es : List (Option String × Json)) :
    f.takeEntries s (e :: es) = (f.takeEntry s e).bind fun s ↦ f.takeEntries s es := by
  obtain ⟨key, value⟩ := e
  cases key with
  | none => rfl
  | some key =>
    simp only [takeEntries, takeEntry]
    cases f.step s key with
    | some read => rfl
    | none => by_cases whole : value.isWhole = true <;> simp [whole, Except.bind]

theorem takeEntries_append (f : Fields α) (s : f.State) (es ds : List (Option String × Json)) :
    f.takeEntries s (es ++ ds) = (f.takeEntries s es).bind fun s ↦ f.takeEntries s ds := by
  induction es generalizing s with
  | nil => rfl
  | cons e es ih =>
    rw [List.cons_append, takeEntries_cons, takeEntries_cons]
    cases f.takeEntry s e with
    | error e => rfl
    | ok s => exact ih s

/-- Entries that each leave the rest of what is known as it is do so together. -/
theorem takeEntries_lift {f : Fields α} {g : Fields β} (lift : f.State → g.State)
    {es : List (Option String × Json)}
    (entry : ∀ e ∈ es, ∀ s, g.takeEntry (lift s) e = (f.takeEntry s e).map lift) (s : f.State) :
    g.takeEntries (lift s) es = (f.takeEntries s es).map lift := by
  induction es generalizing s with
  | nil => rfl
  | cons e es ih =>
    rw [takeEntries_cons, takeEntries_cons, entry e List.mem_cons_self]
    cases f.takeEntry s e with
    | error e => rfl
    | ok s => exact ih (fun d member ↦ entry d (List.mem_cons_of_mem e member)) s

/-- What is known of the fields of both records. -/
def both {f : Fields α} {g : Fields β} (s : f.State) (t : g.State) : (f.and g).State := (s, t)

/-- Fields of the first of two records leave what is known of the second as it is. -/
theorem takeEntries_and_left {f : Fields α} {es : List (String × Json)}
    (own : ∀ e ∈ es, ∀ s, (f.step s e.1).isSome = true) (g : Fields β) (s : f.State) (t : g.State) :
    (f.and g).takeEntries (both s t) (keyed es) =
      (f.takeEntries s (keyed es)).map fun s ↦ both s t := by
  apply takeEntries_lift fun s ↦ both s t
  intro entry member s
  obtain ⟨e, inside, rfl⟩ := List.mem_map.mp member
  obtain ⟨read, step⟩ := Option.isSome_iff_exists.mp (own e inside s)
  simp only [takeEntry, and, both, step]

/-- Fields of the second of two records alone leave what is known of the first as it is. -/
theorem takeEntries_and_right {f : Fields α} {g : Fields β} {es : List (String × Json)}
    (other : ∀ e ∈ es, ∀ s, f.step s e.1 = none)
    (own : ∀ e ∈ es, ∀ t, (g.step t e.1).isSome = true) (s : f.State) (t : g.State) :
    (f.and g).takeEntries (both s t) (keyed es) =
      (g.takeEntries t (keyed es)).map fun t ↦ both s t := by
  apply takeEntries_lift fun t ↦ both s t
  intro entry member t
  obtain ⟨e, inside, rfl⟩ := List.mem_map.mp member
  obtain ⟨read, step⟩ := Option.isSome_iff_exists.mp (own e inside t)
  simp only [takeEntry, and, both, other e inside s, step, Option.map_some]

/-- The fields of two records, one after the other, give both. -/
theorem Reads.and {f : Fields α} {g : Fields β} {es ds : List (String × Json)} {a : α} {b : β}
    (hf : f.Reads es a) (hg : g.Reads ds b) (other : ∀ e ∈ ds, ∀ s, f.step s e.1 = none) :
    (f.and g).Reads (es ++ ds) (a, b) where
  takes := by
    obtain ⟨s, left, first⟩ := hf.takes
    obtain ⟨t, right, second⟩ := hg.takes
    have finished : (f.and g).finish (both s t) = some (a, b) := by
      simp only [Fields.and, both, first, second, Option.bind_some, Option.map_some]
    refine ⟨both s t, ?_, finished⟩
    calc (f.and g).takeEntries (both f.start g.start) (keyed (es ++ ds))
      _ = ((f.and g).takeEntries (both f.start g.start) (keyed es)).bind fun s ↦
            (f.and g).takeEntries s (keyed ds) := by
          rw [keyed_append, takeEntries_append]
      _ = (f.and g).takeEntries (both s g.start) (keyed ds) := by
          rw [takeEntries_and_left hf.own, left]
          rfl
      _ = .ok (both s t) := by
          rw [takeEntries_and_right other hg.own, right]
          rfl
  own e member s := by
    rcases List.mem_append.mp member with member | member
    · obtain ⟨read, step⟩ := Option.isSome_iff_exists.mp (hf.own e member s.1)
      simp [Fields.and, step]
    · have own := hg.own e member s.2
      simp [Fields.and, other e member s.1, own]

end Fields

end RegisterMachine.Image
