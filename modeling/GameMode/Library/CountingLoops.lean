import Mathlib.Data.List.Basic
import Mathlib.Data.Int.Notation
import Mathlib.Tactic.Common

/-!
# Counting loops over machine integers

A loop `for (x = first; test; x++) body` whose counter has a type with a largest value. The test and
the body are computations in a monad, so that each may overflow or leave the loop. The increment
overflows at the largest value of the type; what happens then is a parameter.

The loop is by recursion on how often the counter can still be incremented.

## Main definitions

* `CountingLoops.countingLoop`: the loop.
* `CountingLoops.ascending`: integers in a row.

## Main results

* `CountingLoops.countingLoop_eq`: a loop whose test holds for some integers in a row, and fails
  after them, is the fold of the body over these integers.
* `CountingLoops.countingLoop_of_forall`: a loop whose test never fails overflows.
* `CountingLoops.foldlM_flatMap`: a loop of such loops is the fold over all their integers.
-/

namespace CountingLoops

universe v

variable {m : Type → Type v} {σ α β : Type}

section Loop

variable [Monad m] (overflow : m σ) (test : ℤ → m Bool) (body : σ → ℤ → m σ)

/-- `for (; test; x++) body`, where `x` can be incremented `room` times before `x++` overflows. -/
def countingLoop : ℕ → ℤ → σ → m σ
  | 0, x, s => do
    if ← test x then
      let _ ← body s x
      overflow
    else pure s
  | room + 1, x, s => do
    if ← test x then
      let s ← body s x
      countingLoop room (x + 1) s
    else pure s

end Loop

/-- The `n` integers from `x` on. -/
def ascending (x : ℤ) (n : ℕ) : List ℤ := (List.range n).map fun i : ℕ => x + i

theorem ascending_succ (x : ℤ) (n : ℕ) : ascending x (n + 1) = x :: ascending (x + 1) n := by
  rw [ascending, List.range_succ_eq_map, List.map_cons, List.map_map, ascending]
  refine congrArg₂ List.cons (by omega) (List.map_congr_left fun i _ => ?_)
  rw [Function.comp_apply]
  omega

theorem ascending_concat (x : ℤ) (n : ℕ) : ascending x (n + 1) = ascending x n ++ [x + n] := by
  rw [ascending, List.range_succ, List.map_append, List.map_singleton, ascending]

theorem mem_ascending {x y : ℤ} {n : ℕ} : y ∈ ascending x n ↔ x ≤ y ∧ y < x + n := by
  simp only [ascending, List.mem_map, List.mem_range]
  constructor
  · rintro ⟨i, hi, rfl⟩
    omega
  · rintro ⟨hle, hlt⟩
    exact ⟨(y - x).toNat, by omega, by omega⟩

section Rules

variable [Monad m] [LawfulMonad m] {overflow : m σ} {test : ℤ → m Bool} {body : σ → ℤ → m σ}

/-- A loop whose test fails at once does nothing. -/
theorem countingLoop_of_false {x : ℤ} (h : test x = pure false) (room : ℕ) (s : σ) :
    countingLoop overflow test body room x s = pure s := by
  cases room with
  | zero => simp [countingLoop, h]
  | succ room => simp [countingLoop, h]

/-- **Counting loops.** A loop whose test holds for the `n` integers from `x` on and fails after
them, none of which is beyond the type, is the fold of the body over these integers. -/
theorem countingLoop_eq {n : ℕ} : ∀ {room : ℕ} {x : ℤ}, n ≤ room →
    (∀ y ∈ ascending x n, test y = pure true) → test (x + n) = pure false →
    ∀ s, countingLoop overflow test body room x s = (ascending x n).foldlM body s := by
  induction n with
  | zero =>
    intro room x _ _ hfalse s
    have hstart : x + (0 : ℕ) = x := by omega
    rw [hstart] at hfalse
    exact countingLoop_of_false hfalse room s
  | succ n ih =>
    intro room x hroom htrue hfalse s
    obtain ⟨room, rfl⟩ : ∃ room', room = room' + 1 := ⟨room - 1, by omega⟩
    rw [ascending_succ] at htrue ⊢
    obtain ⟨hfirst, hrest⟩ := List.forall_mem_cons.1 htrue
    have hend : x + (n + 1 : ℕ) = x + 1 + n := by omega
    rw [hend] at hfalse
    rw [countingLoop, hfirst, pure_bind, if_pos rfl, List.foldlM_cons]
    exact bind_congr fun t => ih (Nat.le_of_succ_le_succ hroom) hrest hfalse t

/-- **Overflow.** A loop whose test holds up to the end of the type overflows there. -/
theorem countingLoop_of_forall : ∀ {room : ℕ} {x : ℤ},
    (∀ y ∈ ascending x (room + 1), test y = pure true) →
    ∀ s, countingLoop overflow test body room x s =
      (ascending x (room + 1)).foldlM body s >>= fun _ => overflow
  | 0, x, htrue, s => by
    rw [ascending_succ] at htrue ⊢
    rw [countingLoop, htrue x List.mem_cons_self, pure_bind, if_pos rfl]
    simp [ascending]
  | room + 1, x, htrue, s => by
    rw [ascending_succ] at htrue ⊢
    obtain ⟨hfirst, hrest⟩ := List.forall_mem_cons.1 htrue
    rw [countingLoop, hfirst, pure_bind, if_pos rfl, List.foldlM_cons, bind_assoc]
    exact bind_congr fun t => countingLoop_of_forall hrest t

omit [LawfulMonad m] in
/-- Folds whose bodies agree on the elements. -/
theorem foldlM_congr {f g : σ → α → m σ} : ∀ {as : List α}, (∀ a ∈ as, ∀ s, f s a = g s a) →
    ∀ s, as.foldlM f s = as.foldlM g s
  | [], _, s => rfl
  | a :: as, h, s => by
    obtain ⟨hfirst, hrest⟩ := List.forall_mem_cons.1 h
    rw [List.foldlM_cons, List.foldlM_cons, hfirst]
    exact bind_congr fun t => foldlM_congr hrest t

/-- A fold whose body always goes on goes on. -/
theorem exists_foldlM_eq_pure {f : σ → α → m σ} (h : ∀ s a, ∃ t, f s a = pure t) :
    ∀ (as : List α) (s : σ), ∃ t, as.foldlM f s = pure t
  | [], s => ⟨s, rfl⟩
  | a :: as, s => by
    obtain ⟨t, ht⟩ := h s a
    rw [List.foldlM_cons, ht, pure_bind]
    exact exists_foldlM_eq_pure h as t

/-- A loop of folds is the fold over all their elements. -/
theorem foldlM_flatMap {f : α → List β} {g : σ → β → m σ} : ∀ (as : List α) (s : σ),
    (as.flatMap f).foldlM g s = as.foldlM (fun s a => (f a).foldlM g s) s
  | [], s => rfl
  | a :: as, s => by
    rw [List.flatMap_cons, List.foldlM_append, List.foldlM_cons]
    exact bind_congr fun t => foldlM_flatMap as t

end Rules

end CountingLoops
