import Mathlib.Data.List.Basic
import RegisterMachine.Program

/-!
# Slots

A program is told by what its slots hold. Where each slot is filled on its own, the whole is filled
exactly if every slot is.
-/

namespace RegisterMachine

/-! ### Partial maps of lists -/

section
variable {α β : Type} {f : α → Option β} {xs : List α}

/-- A partial map of a list succeeds exactly if it does so on every element. -/
theorem mapM_eq_some_iff {ys : List β} : xs.mapM f = some ys ↔ xs.map f = ys.map some := by
  induction xs generalizing ys with
  | nil => cases ys <;> simp
  | cons x xs ih =>
    rw [List.mapM_cons, List.map_cons]
    cases f x with
    | none => cases ys <;> simp
    | some y =>
      cases ys with
      | nil => simp [Option.bind_eq_some_iff]
      | cons y' ys => simp [Option.bind_eq_some_iff, ih, and_comm]

/-- If every element has an outcome, so does the list. -/
theorem exists_map_eq_map_some (h : ∀ x ∈ xs, ∃ y, f x = some y) :
    ∃ ys : List β, xs.map f = ys.map some := by
  induction xs with
  | nil => exact ⟨[], rfl⟩
  | cons x xs ih =>
    obtain ⟨y, hy⟩ := h x List.mem_cons_self
    obtain ⟨ys, hys⟩ := ih fun x' hx' ↦ h x' (List.mem_cons_of_mem x hx')
    exact ⟨y :: ys, by rw [List.map_cons, List.map_cons, hy, hys]⟩

/-- A partial map of a list fails exactly if it does so on an element. -/
theorem mapM_eq_none_iff : xs.mapM f = none ↔ ∃ x ∈ xs, f x = none := by
  constructor
  · intro failed
    by_contra none
    have all : ∀ x ∈ xs, ∃ y, f x = some y := fun x hx ↦
      Option.ne_none_iff_exists'.mp fun fails ↦ none ⟨x, hx, fails⟩
    obtain ⟨ys, hys⟩ := exists_map_eq_map_some all
    rw [mapM_eq_some_iff.mpr hys] at failed
    cases failed
  · rintro ⟨x, hx, fails⟩
    rw [Option.eq_none_iff_forall_ne_some]
    intro ys hys
    have some : f x ∈ ys.map some := mapM_eq_some_iff.mp hys ▸ List.mem_map_of_mem hx
    rw [fails] at some
    simp at some

end

/-! ### Programs -/

namespace Program

variable {p q : Program}

/-- A program is told by what its slots hold. -/
theorem ext_get? (h : ∀ slot, p.get? slot = q.get? slot) : p = q := by
  obtain ⟨body⟩ := p
  obtain ⟨body'⟩ := q
  exact congrArg mk (Array.ext_getElem? fun k ↦ h (k + 1))

/-- What holds of the instruction in slot 0 and of those of the body holds in every slot. -/
theorem forall_get? {P : Instruction → Prop} (nop : P .nop) (body : ∀ i ∈ p.body, P i) {slot : Nat}
    {i : Instruction} (held : p.get? slot = some i) : P i := by
  cases slot with
  | zero => exact Option.some.inj held ▸ nop
  | succ k => exact body i (Array.mem_of_getElem? held)

/-- A program has the given slots exactly if these are all its instructions. -/
theorem ofInstructions?_eq_some_iff {slots : List Instruction} :
    ofInstructions? slots = some p ↔ slots = p.instructions := by
  constructor
  · intro h
    unfold ofInstructions? at h
    split at h
    · cases h
      simp [instructions]
    · cases h
  · rintro rfl
    exact ofInstructions?_instructions p

/-- Slots are those of a program exactly if there is a first one and it does nothing. -/
theorem ofInstructions?_eq_none_iff {slots : List Instruction} :
    ofInstructions? slots = none ↔ slots.head? ≠ some .nop := by
  unfold ofInstructions?
  split
  · simp
  · next other =>
    refine iff_of_true rfl fun first ↦ ?_
    cases slots with
    | nil => cases first
    | cons i body => exact other body (by rw [Option.some.inj first])

end Program

end RegisterMachine
