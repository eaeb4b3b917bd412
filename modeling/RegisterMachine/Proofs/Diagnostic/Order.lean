import RegisterMachine.Proofs.Source.Context
import RegisterMachine.Diagnostic

/-!
# Diagnostics in the order of the lines

Sorting by the line keeps the order of what is told of one line. So the sorted list is known by
what it tells of each line alone.
-/

namespace RegisterMachine

namespace Diagnostic

/-- Diagnostics in the order of their lines. -/
def Sorted (ds : List Diagnostic) : Prop := ds.Pairwise (·.line.number ≤ ·.line.number)

/-- The diagnostics of one line, by its position. -/
def onLine (number : Nat) (ds : List Diagnostic) : List Diagnostic :=
  ds.filter (·.line.number = number)

/-- Diagnostics by the order of their lines, as a computation. -/
def byLine (d e : Diagnostic) : Bool := d.line.number ≤ e.line.number

theorem byLine_trans (d e f : Diagnostic) (h : byLine d e = true) (h' : byLine e f = true) :
    byLine d f = true := by
  simp only [byLine, decide_eq_true_iff] at *
  omega

theorem byLine_total (d e : Diagnostic) : (byLine d e || byLine e d) = true := by
  simp only [byLine, Bool.or_eq_true, decide_eq_true_iff]
  omega

/-- Sorting puts the diagnostics in the order of their lines. -/
theorem sorted_mergeSort (ds : List Diagnostic) : Sorted (ds.mergeSort byLine) := by
  refine (List.pairwise_mergeSort byLine_trans byLine_total ds).imp ?_
  intro d e h
  exact of_decide_eq_true h

/-- Exactly the diagnostics of the line are on it. -/
theorem mem_onLine {number : Nat} {d : Diagnostic} {ds : List Diagnostic} :
    d ∈ onLine number ds ↔ d ∈ ds ∧ d.line.number = number := by
  rw [onLine, List.mem_filter, decide_eq_true_iff]

/-- A diagnostic is on its own line. -/
theorem mem_onLine_self {d : Diagnostic} {ds : List Diagnostic} :
    d ∈ onLine d.line.number ds ↔ d ∈ ds := by
  rw [mem_onLine, and_iff_left rfl]

theorem onLine_cons_of_eq {number : Nat} {d : Diagnostic} {ds : List Diagnostic}
    (h : d.line.number = number) : onLine number (d :: ds) = d :: onLine number ds := by
  exact List.filter_cons_of_pos (decide_eq_true h)

theorem onLine_cons_of_ne {number : Nat} {d : Diagnostic} {ds : List Diagnostic}
    (h : d.line.number ≠ number) : onLine number (d :: ds) = onLine number ds := by
  exact List.filter_cons_of_neg (mt of_decide_eq_true h)

/-- Sorting keeps the order of the diagnostics of one line. -/
theorem onLine_mergeSort (number : Nat) (ds : List Diagnostic) :
    onLine number (ds.mergeSort byLine) = onLine number ds := by
  have sorted : (onLine number ds).Pairwise fun d e ↦ byLine d e = true := by
    apply List.pairwise_of_forall_mem_list
    intro d hd e he
    have hd := (mem_onLine.mp hd).2
    have he := (mem_onLine.mp he).2
    exact decide_eq_true (by omega)
  have kept : (onLine number ds).Sublist (ds.mergeSort byLine) :=
    List.sublist_mergeSort byLine_trans byLine_total sorted List.filter_sublist
  -- Both lists are parts of the sorted one with nothing but the line's diagnostics, and they have
  -- the same length.
  have shared : (onLine number ds).Sublist (onLine number (ds.mergeSort byLine)) := by
    have := kept.filter (·.line.number = number)
    rw [onLine, List.filter_filter] at this
    simp only [Bool.and_self] at this
    exact this
  have length : (onLine number ds).length = (onLine number (ds.mergeSort byLine)).length :=
    ((List.mergeSort_perm ds byLine).filter _).length_eq.symm
  exact (shared.eq_of_length length).symm

theorem Sorted.of_cons {d : Diagnostic} {ds : List Diagnostic} (h : Sorted (d :: ds)) :
    Sorted ds :=
  (List.pairwise_cons.mp h).2

/-- No diagnostic comes before the first one. -/
theorem Sorted.head_le {d e : Diagnostic} {ds : List Diagnostic} (h : Sorted (d :: ds))
    (he : e ∈ d :: ds) : d.line.number ≤ e.line.number := by
  rcases List.mem_cons.mp he with rfl | he
  · exact Nat.le_refl _
  · exact (List.pairwise_cons.mp h).1 e he

/-- Lists that tell the same of each line have the same diagnostics. -/
theorem mem_iff_of_onLine_eq {ds es : List Diagnostic}
    (h : ∀ number, onLine number ds = onLine number es) (d : Diagnostic) : d ∈ ds ↔ d ∈ es := by
  rw [← mem_onLine_self, h, mem_onLine_self]

/-- Diagnostics in the order of their lines are known by what they tell of each line. -/
theorem Sorted.eq_of_onLine_eq {ds es : List Diagnostic} (hd : Sorted ds) (he : Sorted es)
    (h : ∀ number, onLine number ds = onLine number es) : ds = es := by
  have mem := mem_iff_of_onLine_eq h
  induction ds generalizing es with
  | nil =>
    cases es with
    | nil => rfl
    | cons e es => exact absurd ((mem e).mpr List.mem_cons_self) List.not_mem_nil
  | cons d ds ih =>
    cases es with
    | nil => exact absurd ((mem d).mp List.mem_cons_self) List.not_mem_nil
    | cons e es =>
      have first : d.line.number = e.line.number :=
        Nat.le_antisymm (hd.head_le ((mem e).mpr List.mem_cons_self))
          (he.head_le ((mem d).mp List.mem_cons_self))
      have heads := h d.line.number
      rw [onLine_cons_of_eq rfl, onLine_cons_of_eq first.symm] at heads
      obtain ⟨rfl, rest⟩ := List.cons.inj heads
      have tails (number : Nat) : onLine number ds = onLine number es := by
        by_cases here : d.line.number = number
        · rw [← here]
          exact rest
        · have others := h number
          rwa [onLine_cons_of_ne here, onLine_cons_of_ne here] at others
      rw [ih hd.of_cons he.of_cons tails (mem_iff_of_onLine_eq tails)]

/-- The sorted list is the only one in the order of the lines that tells the same of each line. -/
theorem mergeSort_eq_of_onLine_eq {ds es : List Diagnostic} (sorted : Sorted es)
    (h : ∀ number, onLine number ds = onLine number es) : ds.mergeSort byLine = es := by
  apply (sorted_mergeSort ds).eq_of_onLine_eq sorted
  intro number
  rw [onLine_mergeSort, h]

end Diagnostic

end RegisterMachine
