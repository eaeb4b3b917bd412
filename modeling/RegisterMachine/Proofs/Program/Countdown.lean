import RegisterMachine.Proofs.Assembler.Disassembly
import RegisterMachine.Proofs.Machine.Reaches
import RegisterMachine.Proofs.Machine.Registers

/-!
# Counting down

A loop that counts one register down to zero and another one up. It is passed until the first is
zero, for a number that is not positive only after counting around all 32-bit integers
(`run_source`).
-/

namespace RegisterMachine.Countdown

open Machine

/-- The source of the loop, for a number to count down from. -/
def source (n : Int32) : List String :=
  ["MOV R0, #" ++ String.ofList (Decimal.integerDigits n.toInt), "MOV R1, #0", "LOOP:",
    "SUB R0, R0, #1", "ADD R1, R1, #1", "CMP R0, #0", "B NE LOOP", "HALT"]

/-- The program of the loop, for any two registers. -/
def program (down up : Register) (n : Int32) : Program :=
  ⟨#[.mov down (.literal (.int n)), .mov up (.literal (.int 0)),
    .sub down (.register down) (.literal (.int 1)), .add up (.register up) (.literal (.int 1)),
    .cmp (.register down) (.literal (.int 0)), .branch .ne 3, .halt]⟩

/-- The source has this program. -/
theorem assemble_source (n : Int32) : assemble (source n) = .ok (program 0 1 n) := by
  have first : Source.SaysOperation
      ("MOV R0, #" ++ String.ofList (Decimal.integerDigits n.toInt))
      (.mov 0 (.literal (.int n))) := by
    have text : "MOV R0, #" ++ String.ofList (Decimal.integerDigits n.toInt) =
        Instruction.text (.mov 0 (.literal (.int n))) := by
      have start : "MOV R0, #" = "MOV " ++ Register.text 0 ++ ", " ++ "#" := by decide
      rw [start, String.append_assoc]
      rfl
    rw [text]
    exact Source.saysOperation_text rfl rfl
  have rest : assemble ["MOV R1, #0", "LOOP:", "SUB R0, R0, #1", "ADD R1, R1, #1", "CMP R0, #0",
      "B NE LOOP", "HALT"] =
      .ok ⟨#[.mov 1 (.literal (.int 0)), .sub 0 (.register 0) (.literal (.int 1)),
        .add 1 (.register 1) (.literal (.int 1)), .cmp (.register 0) (.literal (.int 0)),
        .branch .ne 2, .halt]⟩ := by decide +kernel
  rw [source, assemble_cons_of_saysOperation first rest]
  simp [program, Instruction.relocate]

section
variable {down up : Register} {n x y : Int32} {k : Nat}

/-! ### States of a run -/

/-- The machine with the contents of the two registers; all others are zero. -/
def state (down up : Register) (counter : Counter) (flag : Flag) (x y : Int32) (steps : Nat) :
    Machine :=
  ((Machine.mk counter flag fresh.registers steps none).write down (.int x)).write up (.int y)

variable {counter : Counter} {flag : Flag} {steps : Nat}

theorem get_up : (state down up counter flag x y steps).registers.get up = .int y := by
  rw [state, get_write, if_pos rfl]

theorem get_down (apart : down ≠ up) :
    (state down up counter flag x y steps).registers.get down = .int x := by
  rw [state, get_write, if_neg apart.symm, get_write, if_pos rfl]

theorem get_of_ne {r : Register} (hd : r ≠ down) (hu : r ≠ up) :
    (state down up counter flag x y steps).registers.get r = .int 0 := by
  rw [state, get_write, if_neg hu.symm, get_write, if_neg hd.symm]
  exact get_fresh r

theorem write_up (y' : Int32) : (state down up counter flag x y steps).write up (.int y') =
    state down up counter flag x y' steps := by
  rw [state, write_write, state]

theorem write_down (apart : down ≠ up) (x' : Int32) :
    (state down up counter flag x y steps).write down (.int x') =
      state down up counter flag x' y steps := by
  rw [state, write_comm _ apart.symm, write_write, state]

/-! ### Passes of the loop -/

/-- The first two steps lead to the loop. -/
theorem reaches_loop : Reaches (program down up n) 2 fresh (state down up (.slot 3) .null n 0 2) :=
  .step rfl (.step rfl rfl)

/-- One pass up to its branch counts once. -/
theorem reaches_branch (apart : down ≠ up) (flag : Flag) (x y : Int32) (steps : Nat) :
    Reaches (program down up n) 3 (state down up (.slot 3) flag x y steps)
      (state down up (.slot 6) (.ofOrdering (compare (x - 1).toInt 0)) (x - 1) (y + 1)
        (steps + 3)) := by
  refine .step (i := .sub down (.register down) (.literal (.int 1))) rfl ?_
  have sub : (state down up (.slot 3) flag x y steps).execute
      (.sub down (.register down) (.literal (.int 1))) =
      state down up (.slot 4) flag (x - 1) y (steps + 1) := by
    simp only [execute, apply, Machine.read, get_down apart, Value.sub, write_down apart]
    rfl
  rw [sub]
  refine .step (i := .add up (.register up) (.literal (.int 1))) rfl ?_
  have add : (state down up (.slot 4) flag (x - 1) y (steps + 1)).execute
      (.add up (.register up) (.literal (.int 1))) =
      state down up (.slot 5) flag (x - 1) (y + 1) (steps + 2) := by
    simp only [execute, apply, Machine.read, get_up, Value.add, write_up]
    rfl
  rw [add]
  refine .step (i := .cmp (.register down) (.literal (.int 0))) rfl ?_
  simp only [Reaches, execute, apply, Machine.read, get_down apart]
  rfl

/-- Comparing with zero finds equality exactly for zero. -/
theorem ofOrdering_compare_eq_iff :
    Flag.ofOrdering (compare x.toInt 0) = .eq ↔ x = 0 := by
  have zero : x = 0 ↔ compare x.toInt 0 = .eq := by
    rw [compare_eq_iff_eq, ← Int32.toInt_inj]
    rfl
  rw [zero]
  cases compare x.toInt 0 <;> simp [Flag.ofOrdering]

/-- A pass that does not come to zero leads to the next one. -/
theorem reaches_again (apart : down ≠ up) (more : x - 1 ≠ 0) (flag : Flag) (y : Int32)
    (steps : Nat) : ∃ flag', Reaches (program down up n) 4 (state down up (.slot 3) flag x y steps)
      (state down up (.slot 3) flag' (x - 1) (y + 1) (steps + 4)) := by
  refine ⟨.ofOrdering (compare (x - 1).toInt 0), ?_⟩
  refine (reaches_branch apart flag x y steps).trans (k := 1) (.step (i := .branch .ne 3) rfl ?_)
  rw [execute_branch_of_holds]
  · rfl
  · exact bne_iff_ne.mpr (mt ofOrdering_compare_eq_iff.mp more)

/-- A pass that comes to zero leads out of the loop. -/
theorem reaches_out (apart : down ≠ up) (last : x - 1 = 0) (flag : Flag) (y : Int32) (steps : Nat) :
    Reaches (program down up n) 4 (state down up (.slot 3) flag x y steps)
      (state down up (.slot 7) .eq 0 (y + 1) (steps + 4)) := by
  have equal := ofOrdering_compare_eq_iff.mpr last
  have pass := reaches_branch (n := n) apart flag x y steps
  rw [equal, last] at pass
  refine pass.trans (k := 1) (.step (i := .branch .ne 3) rfl ?_)
  rw [execute_branch_of_not_holds]
  · rfl
  · exact fun holds ↦ nomatch holds

/-- No positive number below the count of all 32-bit integers wraps to zero. -/
theorem ofNat_ne_zero (positive : 0 < k) (small : k < Int32.size) : Int32.ofNat k ≠ 0 := by
  intro zero
  have residue := congrArg Int32.toInt zero
  rw [Int32.toInt_ofNat'] at residue
  have divides := Int.natCast_dvd_natCast.mp (Int.dvd_of_bmod_eq_zero residue)
  exact absurd (Nat.le_of_dvd positive divides) (Nat.not_le_of_lt small)

/-- From a positive number, written as one of those that wrap to it, as many passes lead out of the
loop. -/
theorem reaches_out_of_pos (apart : down ≠ up) (positive : 0 < k) (le : k ≤ Int32.size)
    (flag : Flag) (y : Int32) (steps : Nat) :
    Reaches (program down up n) (4 * k) (state down up (.slot 3) flag (Int32.ofNat k) y steps)
      (state down up (.slot 7) .eq 0 (y + Int32.ofNat k) (steps + 4 * k)) := by
  -- Induction on the passes that are left. The bound keeps every count but the last from wrapping
  -- to zero, which would leave the loop early.
  induction k generalizing flag y steps with
  | zero => exact absurd positive (Nat.lt_irrefl 0)
  | succ k ih =>
    have less : Int32.ofNat (k + 1) - 1 = Int32.ofNat k := by
      rw [Int32.ofNat_add]
      exact Int32.add_sub_cancel _ _
    by_cases last : k = 0
    · subst last
      exact reaches_out apart less flag y steps
    · have further : Int32.ofNat (k + 1) - 1 ≠ 0 := by
        rw [less]
        exact ofNat_ne_zero (Nat.pos_of_ne_zero last) le
      obtain ⟨flag', pass⟩ := reaches_again (n := n) apart further flag y steps
      have passes := ih (Nat.pos_of_ne_zero last) (Nat.le_of_succ_le le) flag' (y + 1) (steps + 4)
      have total : y + 1 + Int32.ofNat k = y + Int32.ofNat (k + 1) := by
        rw [Int32.ofNat_add, Int32.add_assoc, Int32.add_comm 1]
        rfl
      rw [less] at pass
      rw [total, Nat.add_assoc] at passes
      rw [Nat.mul_succ, Nat.add_comm (4 * k)]
      exact pass.trans passes

/-- The whole run: two steps to the loop, four for each pass, and one to stop. -/
theorem reaches_stopped (apart : down ≠ up) (positive : 0 < k) (le : k ≤ Int32.size) :
    Reaches (program down up (Int32.ofNat k)) (4 * k + 3) fresh
      (state down up .stopped .eq 0 (Int32.ofNat k) (4 * k + 3)) := by
  have passes := reaches_out_of_pos (n := Int32.ofNat k) apart positive le .null 0 2
  rw [Int32.zero_add] at passes
  have run := (reaches_loop.trans passes).trans (k := 1) (.step (i := .halt) rfl rfl)
  rw [Nat.add_comm 2, Nat.add_assoc] at run
  exact run

end

/-- A positive number is counted down to zero in as many passes, and any other in so many more as
there are 32-bit integers. -/
theorem exists_passes (n : Int32) : ∃ k : Nat,
    (k : Int) = (if 0 < n.toInt then n.toInt else n.toInt + Int32.size) ∧ 0 < k ∧
      k ≤ Int32.size ∧ Int32.ofNat k = n := by
  have low := n.le_toInt
  have high := n.toInt_lt
  have size : Int32.size = 4294967296 := rfl
  obtain ⟨k, passes⟩ := Int.eq_ofNat_of_zero_le
    (a := if 0 < n.toInt then n.toInt else n.toInt + Int32.size) (by split <;> omega)
  have residue : Int32.ofInt (if 0 < n.toInt then n.toInt else n.toInt + Int32.size) = n := by
    split
    · exact Int32.ofInt_toInt n
    · have around : Int32.ofInt Int32.size = 0 := by decide
      rw [Int32.ofInt_add, Int32.ofInt_toInt, around, Int32.add_zero]
  rw [passes] at residue
  refine ⟨k, passes.symm, ?_, ?_, residue⟩
  · split at passes <;> omega
  · split at passes <;> omega

/-- The loop has a program, which halts after four steps for each pass and three more, with the
registers counted to the end. It does so under every limit of so many steps, and fails under every
smaller one. -/
theorem run_source (n : Int32) :
    ∃ (p : Program) (k : Nat) (s : Summary), assemble (source n) = .ok p ∧
      (k : Int) = (if 0 < n.toInt then n.toInt else n.toInt + Int32.size) ∧
      HaltsAfter p fresh (4 * k + 3) ∧ fresh.run p = some (.ok s) ∧
      (∀ limit, 4 * k + 3 ≤ limit → (fresh.withLimit limit).run p = some (.ok s)) ∧
      s.steps = 4 * k + 3 ∧ s.flag = .eq ∧ s.registers.get 0 = .int 0 ∧
      s.registers.get 1 = .int n ∧ (∀ r, r ≠ 0 → r ≠ 1 → s.registers.get r = .int 0) ∧
      ∀ limit, limit < 4 * k + 3 →
        ∃ slot, (fresh.withLimit limit).run p = some (.error ⟨limit, slot⟩) := by
  obtain ⟨k, passes, positive, le, rfl⟩ := exists_passes n
  have apart : (0 : Register) ≠ 1 := by decide
  have run := reaches_stopped apart positive le
  have halts := run.haltsAfter rfl rfl
  have followed : 4 * k + 3 < UInt64.size := by
    have : Int32.size = 4294967296 := rfl
    have : UInt64.size = 18446744073709551616 := rfl
    omega
  refine ⟨program 0 1 (Int32.ofNat k), k, _, assemble_source _, passes, halts,
    halts.run rfl followed, fun limit within ↦ halts.run_withLimit_fresh within, ?_⟩
  rw [run.cycles_eq rfl]
  refine ⟨rfl, rfl, get_down apart, get_up, fun r h0 h1 ↦ get_of_ne h0 h1, ?_⟩
  intro limit short
  refine ⟨_, RunsFor.run_withLimit_fresh ?_⟩
  intro k hk
  exact halts.2 k (by omega)

end RegisterMachine.Countdown
