import Mathlib.Data.List.Infix
import Mathlib.Tactic.Common

/-!
# Runs of labelled transition systems

A labelled transition system is given by its step function `step : σ → α → Option σ`: the label
`a` carries every choice of the environment, and `none` says that `a` cannot be taken in the
state. A run from `s` is a list of labels, and `exec step s as` is the state in which it ends.

Two properties of a run are distinguished: what holds in every state that the run reaches
(`Along`), and what holds of every step that the run takes, seen from the state before it
(`StepsAlong`). An invariant that only guarded steps preserve holds along the runs all of whose
steps meet the guard.

## Main definitions

* `Runs.exec`, `Runs.Along`, `Runs.Sometime`, `Runs.StepsAlong`.
* `Runs.expandRun`: the labels of a finer system that a run stands for.

## Main results

* `Runs.exec_invariant`: an invariant of the step function holds where a run ends.
* `Runs.along_of_stepsAlong`: an invariant of the guarded steps holds along guarded runs.
* `Runs.stepsAlong_of_along`: a property that every step outside of the guard breaks holds along
  guarded runs only.
* `Runs.exec_expandRun`, `Runs.StepsAlong.of_expandRun`: a system whose steps are runs of a finer
  system.
* `Runs.forall_mem_expandRun_iff`: what holds of all labels that a run stands for.
* `Runs.decidableStepsAlong`: whether a guard holds along a given run can be computed.
-/

namespace Runs

variable {σ α : Type*} {step : σ → α → Option σ}

/-- The state in which the run `as` from `s` ends. -/
def exec (step : σ → α → Option σ) (s : σ) (as : List α) : Option σ := as.foldlM step s

@[simp] theorem exec_nil (s : σ) : exec step s [] = some s := rfl

@[simp] theorem exec_cons (s : σ) (a : α) (as : List α) :
    exec step s (a :: as) = (step s a).bind fun t => exec step t as := rfl

theorem exec_append (s : σ) (as bs : List α) :
    exec step s (as ++ bs) = (exec step s as).bind fun t => exec step t bs := by
  simp only [exec, List.foldlM_append]
  rfl

theorem exec_concat (s : σ) (as : List α) (a : α) :
    exec step s (as ++ [a]) = (exec step s as).bind fun t => step t a := by
  rw [exec_append]
  cases exec step s as with
  | none => rfl
  | some t => simp

/-- The step that ends a run, with the state before it. -/
theorem exec_concat_eq_some {s t : σ} {as : List α} {a : α} :
    exec step s (as ++ [a]) = some t ↔ ∃ u, exec step s as = some u ∧ step u a = some t := by
  rw [exec_concat, Option.bind_eq_some_iff]

/-- The state between two parts of a run. -/
theorem exec_append_eq_some {s t : σ} {as bs : List α} :
    exec step s (as ++ bs) = some t ↔ ∃ u, exec step s as = some u ∧ exec step u bs = some t := by
  rw [exec_append, Option.bind_eq_some_iff]

/-- **Invariants.** What the step function preserves holds where a run ends. -/
theorem exec_invariant {I : σ → Prop} (hstep : ∀ s a t, I s → step s a = some t → I t) :
    ∀ {as : List α} {s t : σ}, I s → exec step s as = some t → I t
  | [], s, t, hs, h => by
    rw [exec_nil, Option.some.injEq] at h
    exact h ▸ hs
  | a :: as, s, t, hs, h => by
    rw [exec_cons, Option.bind_eq_some_iff] at h
    obtain ⟨u, hu, ht⟩ := h
    exact exec_invariant hstep (hstep s a u hs hu) ht

/-- `P` holds in every state that the run `as` from `s` reaches. -/
def Along (step : σ → α → Option σ) (s : σ) (as : List α) (P : σ → Prop) : Prop :=
  ∀ bs, bs <+: as → ∀ t, exec step s bs = some t → P t

/-- `P` holds in some state that the run `as` from `s` reaches. -/
def Sometime (step : σ → α → Option σ) (s : σ) (as : List α) (P : σ → Prop) : Prop :=
  ∃ bs, bs <+: as ∧ ∃ t, exec step s bs = some t ∧ P t

/-- `G` holds of every step that the run `as` from `s` takes, seen from the state before it. -/
def StepsAlong (step : σ → α → Option σ) (s : σ) (as : List α) (G : σ → α → Prop) : Prop :=
  ∀ bs a, bs ++ [a] <+: as → ∀ t, exec step s bs = some t → G t a

theorem StepsAlong.of_prefix {s : σ} {as bs : List α} {G : σ → α → Prop}
    (h : StepsAlong step s as G) (hb : bs <+: as) : StepsAlong step s bs G :=
  fun cs a hc t ht => h cs a (hc.trans hb) t ht

/-- A guard that holds along a run holds along the rest of it. -/
theorem StepsAlong.of_append {s u : σ} {as bs : List α} {G : σ → α → Prop}
    (h : StepsAlong step s (as ++ bs) G) (hu : exec step s as = some u) :
    StepsAlong step u bs G := by
  intro cs a hc t ht
  refine h (as ++ cs) a ?_ t (exec_append_eq_some.2 ⟨u, hu, ht⟩)
  rw [List.append_assoc]
  exact (List.prefix_append_right_inj as).2 hc

theorem Along.of_prefix {s : σ} {as bs : List α} {P : σ → Prop}
    (h : Along step s as P) (hb : bs <+: as) : Along step s bs P :=
  fun cs hc t ht => h cs (hc.trans hb) t ht

theorem Sometime.mono {s : σ} {as bs : List α} {P : σ → Prop}
    (h : Sometime step s bs P) (hb : bs <+: as) : Sometime step s as P := by
  obtain ⟨cs, hc, t, ht, hP⟩ := h
  exact ⟨cs, hc.trans hb, t, ht, hP⟩

theorem sometime_of_exec {s t : σ} {as : List α} {P : σ → Prop} (ht : exec step s as = some t)
    (hP : P t) : Sometime step s as P :=
  ⟨as, List.prefix_rfl, t, ht, hP⟩

/-- What holds of every label of a run holds along it. -/
theorem StepsAlong.of_forall_mem {s : σ} {as : List α} {G : σ → α → Prop}
    (h : ∀ a ∈ as, ∀ t, G t a) : StepsAlong step s as G :=
  fun bs a hb t _ => h a (hb.subset (List.mem_append_right bs List.mem_cons_self)) t

theorem StepsAlong.and {s : σ} {as : List α} {G H : σ → α → Prop} (hG : StepsAlong step s as G)
    (hH : StepsAlong step s as H) : StepsAlong step s as fun t a => G t a ∧ H t a :=
  fun bs a hb t ht => ⟨hG bs a hb t ht, hH bs a hb t ht⟩

/-- The run of a list of labels reaches its own end. -/
theorem Along.exec {s t : σ} {as : List α} {P : σ → Prop} (h : Along step s as P)
    (ht : exec step s as = some t) : P t :=
  h as List.prefix_rfl t ht

/-- An invariant of the steps that meet the guard `G` holds where a guarded run ends. -/
theorem exec_invariant_of_stepsAlong {I : σ → Prop} {G : σ → α → Prop}
    (hstep : ∀ s a t, I s → G s a → step s a = some t → I t) {s : σ} (hs : I s) (as : List α) :
    ∀ {t : σ}, StepsAlong step s as G → exec step s as = some t → I t := by
  induction as using List.reverseRecOn with
  | nil =>
    intro t _ h
    rw [exec_nil, Option.some.injEq] at h
    exact h ▸ hs
  | append_singleton as a ih =>
    intro t hG h
    obtain ⟨u, hu, ht⟩ := exec_concat_eq_some.1 h
    have hI : I u := ih (hG.of_prefix (List.prefix_append _ _)) hu
    exact hstep u a t hI (hG as a List.prefix_rfl u hu) ht

/-- **Guarded invariants.** An invariant of the steps that meet the guard `G` holds in every state
that a guarded run reaches. -/
theorem along_of_stepsAlong {I : σ → Prop} {G : σ → α → Prop}
    (hstep : ∀ s a t, I s → G s a → step s a = some t → I t) {s : σ} (hs : I s) {as : List α}
    (hG : StepsAlong step s as G) : Along step s as I :=
  fun bs hb _ ht => exec_invariant_of_stepsAlong hstep hs bs (hG.of_prefix hb) ht

/-- What the invariant and the guard say of a step holds of every step of a guarded run. -/
theorem StepsAlong.of_invariant {I : σ → Prop} {G H : σ → α → Prop}
    (hstep : ∀ s a t, I s → G s a → step s a = some t → I t)
    (himp : ∀ s a, I s → G s a → H s a) {s : σ} (hs : I s) {as : List α}
    (hG : StepsAlong step s as G) : StepsAlong step s as H := by
  intro bs a hb t ht
  have hbefore : bs <+: as := (List.prefix_append bs [a]).trans hb
  exact himp t a (along_of_stepsAlong hstep hs hG bs hbefore t ht) (hG bs a hb t ht)

/-- A prefix of a list that is extended by one label, by its own last label. -/
theorem concat_prefix_concat_iff {as bs : List α} {a b : α} :
    bs ++ [b] <+: as ++ [a] ↔ bs = as ∧ b = a ∨ bs ++ [b] <+: as := by
  rw [List.prefix_concat_iff, ← List.concat_eq_append, ← List.concat_eq_append, List.concat_inj]

theorem stepsAlong_nil (s : σ) (G : σ → α → Prop) : StepsAlong step s [] G :=
  fun _ _ h => absurd (List.prefix_nil.1 h) (List.append_ne_nil_of_right_ne_nil _ (by simp))

/-- The guard holds along a run that is extended by a step of which it holds. -/
theorem StepsAlong.concat {s : σ} {as : List α} {a : α} {G : σ → α → Prop}
    (h : StepsAlong step s as G) (ha : ∀ t, exec step s as = some t → G t a) :
    StepsAlong step s (as ++ [a]) G := by
  intro bs b hbefore t ht
  rcases concat_prefix_concat_iff.1 hbefore with ⟨rfl, rfl⟩ | hbefore
  · exact ha t ht
  · exact h bs b hbefore t ht

/-- **Exact guards.** When every step that misses the guard can be taken and breaks `P`, a run along
which `P` holds is a guarded one. -/
theorem stepsAlong_of_along {I P : σ → Prop} {G : σ → α → Prop}
    (hstep : ∀ s a t, I s → G s a → step s a = some t → I t)
    (hexact : ∀ s a, I s → ¬G s a → ∃ t, step s a = some t ∧ ¬P t) {s : σ} (hs : I s)
    (as : List α) : Along step s as P → StepsAlong step s as G := by
  induction as using List.reverseRecOn with
  | nil => exact fun _ => stepsAlong_nil s G
  | append_singleton as a ih =>
    intro h
    have hG : StepsAlong step s as G := ih (h.of_prefix (List.prefix_append _ _))
    refine hG.concat fun t ht => ?_
    by_contra hmiss
    obtain ⟨u, hu, hbroken⟩ := hexact t a (exec_invariant_of_stepsAlong hstep hs as hG ht) hmiss
    exact hbroken (h.exec (exec_concat_eq_some.2 ⟨t, ht, hu⟩))

/-! ### Finer systems -/

section Expansion

variable {τ β : Type*} {fine : τ → β → Option τ}

/-- The labels of the finer system that a run stands for, when `expand s a` are those of the step
`a` from `s`. -/
def expandRun (step : σ → α → Option σ) (expand : σ → α → List β) : σ → List α → List β
  | _, [] => []
  | s, a :: as =>
    expand s a ++
      match step s a with
      | none => []
      | some t => expandRun step expand t as

variable {abs : σ → τ} {expand : σ → α → List β} {I : σ → Prop}
  (hstep : ∀ s a t, I s → step s a = some t → I t)
  (hfine : ∀ s a t, I s → step s a = some t → Runs.exec fine (abs s) (expand s a) = some (abs t))

include hstep hfine

/-- **Refinement.** A run of the coarse system is the run of the finer system that it stands for. -/
theorem exec_expandRun : ∀ {as : List α} {s t : σ}, I s → exec step s as = some t →
    exec fine (abs s) (expandRun step expand s as) = some (abs t)
  | [], s, t, _, h => by
    rw [exec_nil, Option.some.injEq] at h
    rw [expandRun, h, exec_nil]
  | a :: as, s, t, hs, h => by
    rw [exec_cons, Option.bind_eq_some_iff] at h
    obtain ⟨u, hu, ht⟩ := h
    rw [expandRun, hu, exec_append, hfine s a u hs hu, Option.bind_some]
    exact exec_expandRun (hstep s a u hs hu) ht

omit hstep hfine in
/-- A prefix of a run stands for a prefix of its labels. -/
theorem prefix_expandRun : ∀ {as bs : List α} (s : σ), bs <+: as →
    expandRun step expand s bs <+: expandRun step expand s as
  | _, [], _, _ => List.nil_prefix
  | [], b :: bs, _, h => absurd (List.prefix_nil.1 h) (List.cons_ne_nil b bs)
  | a :: as, b :: bs, s, h => by
    obtain ⟨rfl, hbs⟩ := List.cons_prefix_cons.1 h
    rw [expandRun, expandRun, List.prefix_append_right_inj]
    split
    · exact List.prefix_rfl
    · exact prefix_expandRun _ hbs

omit hstep hfine in
/-- The labels of a run are those of its steps. -/
theorem mem_expandRun : ∀ {as : List α} {s : σ} {b : β}, b ∈ expandRun step expand s as →
    ∃ a ∈ as, ∃ t, b ∈ expand t a
  | [], _, _, h => absurd h List.not_mem_nil
  | a :: as, s, b, h => by
    rw [expandRun, List.mem_append] at h
    rcases h with h | h
    · exact ⟨a, List.mem_cons_self, s, h⟩
    · split at h
      · exact absurd h List.not_mem_nil
      · obtain ⟨a', ha', t, ht⟩ := mem_expandRun h
        exact ⟨a', List.mem_cons_of_mem a ha', t, ht⟩

omit hstep hfine in
theorem expandRun_append : ∀ {as : List α} {s t : σ} (bs : List α), exec step s as = some t →
    expandRun step expand s (as ++ bs) = expandRun step expand s as ++ expandRun step expand t bs
  | [], s, t, bs, h => by
    rw [exec_nil, Option.some.injEq] at h
    rw [h, expandRun, List.nil_append, List.nil_append]
  | a :: as, s, t, bs, h => by
    rw [exec_cons, Option.bind_eq_some_iff] at h
    obtain ⟨u, hu, ht⟩ := h
    rw [List.cons_append, expandRun, expandRun, hu, List.append_assoc]
    exact congrArg (expand s a ++ ·) (expandRun_append bs ht)

/-- What holds of every step of the finer run holds of the finer steps that each step of the coarse
run stands for. -/
theorem StepsAlong.of_expandRun {s : σ} {as : List α} {G : τ → β → Prop} (hs : I s)
    (h : StepsAlong fine (abs s) (expandRun step expand s as) G) :
    StepsAlong step s as fun t a => StepsAlong fine (abs t) (expand t a) G := by
  intro bs a hb t ht cs b hc u hu
  refine h (expandRun step expand s bs ++ cs) b ?_ u ?_
  · refine List.IsPrefix.trans ?_ (prefix_expandRun s hb)
    rw [expandRun_append [a] ht, List.append_assoc, List.prefix_append_right_inj]
    exact hc.trans (List.prefix_append _ _)
  · rw [exec_append, exec_expandRun hstep hfine hs ht, Option.bind_some, hu]

end Expansion

/-! ### Properties of a given run -/

/-- The guard holds along a run when it holds of the first step and along the rest. -/
theorem stepsAlong_cons_iff {s : σ} {a : α} {as : List α} {G : σ → α → Prop} :
    StepsAlong step s (a :: as) G ↔ G s a ∧ ∀ t ∈ step s a, StepsAlong step t as G := by
  constructor
  · intro h
    refine ⟨h [] a ⟨as, rfl⟩ s rfl, fun t ht bs b hb u hu => ?_⟩
    refine h (a :: bs) b (List.cons_prefix_cons.2 ⟨rfl, hb⟩) u ?_
    rw [exec_cons, Option.mem_def.1 ht, Option.bind_some, hu]
  · rintro ⟨hG, hrest⟩ bs b hb u hu
    cases bs with
    | nil =>
      obtain ⟨rfl, -⟩ := List.cons_prefix_cons.1 hb
      rw [exec_nil, Option.some.injEq] at hu
      exact hu ▸ hG
    | cons c bs =>
      obtain ⟨rfl, hbs⟩ := List.cons_prefix_cons.1 hb
      rw [exec_cons, Option.bind_eq_some_iff] at hu
      obtain ⟨t, ht, hu⟩ := hu
      exact hrest t ht bs b hbs u hu

/-- What holds of all labels that a run stands for holds of those that each of its steps stands for,
and conversely. -/
theorem forall_mem_expandRun_iff {β : Type*} {expand : σ → α → List β} {P : β → Prop} :
    ∀ {as : List α} {s : σ}, (∀ b ∈ expandRun step expand s as, P b) ↔
      StepsAlong step s as fun t a => ∀ b ∈ expand t a, P b
  | [], s => iff_of_true (by simp [expandRun]) (stepsAlong_nil s _)
  | a :: as, s => by
    rw [expandRun, List.forall_mem_append, stepsAlong_cons_iff]
    refine and_congr_right fun _ => ?_
    cases step s a with
    | none => simp
    | some t => simpa using forall_mem_expandRun_iff

/-- Whether a guard holds along a given run can be computed. -/
instance decidableStepsAlong (G : σ → α → Prop) [∀ s a, Decidable (G s a)] :
    (s : σ) → (as : List α) → Decidable (StepsAlong step s as G)
  | s, [] => isTrue (stepsAlong_nil s G)
  | s, a :: as =>
    have : Decidable (∀ t ∈ step s a, StepsAlong step t as G) :=
      match step s a with
      | none => isTrue nofun
      | some t =>
        match decidableStepsAlong G t as with
        | isTrue h => isTrue fun _ hu => Option.mem_some_iff.1 hu ▸ h
        | isFalse h => isFalse fun hu => h (hu t rfl)
    decidable_of_iff _ stepsAlong_cons_iff.symm

end Runs
