import GameMode.Library.Runs

/-!
# Refinement of guarded steps

A system refines a finer one when each of its steps stands for a run of the finer system. Often this
is true of some steps only: an invariant `I` of the states and a guard `G` of the steps say of
which. Every run whose steps meet the guard then is a run of the finer system, and what holds along
that run holds along the run of the coarse system, too.

## Main definitions

* `Runs.Refines`: the steps within the invariant and the guard stand for runs of the finer system.

## Main results

* `Runs.Refines.exec`: a guarded run is the finer run that it stands for.
* `Runs.Refines.stepsAlong`: what holds of every step of the finer run.
* `Runs.Refines.along`: an invariant of the finer system holds along the coarse run.
-/

namespace Runs

variable {σ α τ β : Type*} {step : σ → α → Option σ} {fine : τ → β → Option τ}
  {abs : σ → τ} {expand : σ → α → List β} {I : σ → Prop} {G : σ → α → Prop}

/-- The steps that meet the guard, from states in which the invariant holds, stand for runs of the
finer system, and they keep the invariant. -/
structure Refines (step : σ → α → Option σ) (fine : τ → β → Option τ) (abs : σ → τ)
    (expand : σ → α → List β) (I : σ → Prop) (G : σ → α → Prop) : Prop where
  invariant : ∀ s a t, I s → G s a → step s a = some t → I t
  simulates : ∀ s a t, I s → G s a → step s a = some t →
    Runs.exec fine (abs s) (expand s a) = some (abs t)

/-- The guard holds of the first step of a guarded run, and along the rest of it. -/
theorem StepsAlong.cons {s t : σ} {a : α} {as : List α} (h : StepsAlong step s (a :: as) G)
    (hstep : step s a = some t) : G s a ∧ StepsAlong step t as G := by
  obtain ⟨ha, hrest⟩ := stepsAlong_cons_iff.1 h
  exact ⟨ha, hrest t hstep⟩

namespace Refines

variable (h : Refines step fine abs expand I G)
include h

/-- **Refinement.** A guarded run is the run of the finer system that it stands for. -/
theorem exec : ∀ {as : List α} {s t : σ}, I s → StepsAlong step s as G →
    Runs.exec step s as = some t →
    Runs.exec fine (abs s) (expandRun step expand s as) = some (abs t)
  | [], s, t, _, _, hexec => by
    rw [exec_nil, Option.some.injEq] at hexec
    rw [expandRun, hexec, exec_nil]
  | a :: as, s, t, hs, hG, hexec => by
    rw [exec_cons, Option.bind_eq_some_iff] at hexec
    obtain ⟨u, hu, ht⟩ := hexec
    obtain ⟨ha, hrest⟩ := hG.cons hu
    rw [expandRun, hu, exec_append, h.simulates s a u hs ha hu, Option.bind_some]
    exact exec (h.invariant s a u hs ha hu) hrest ht

/-- What holds of every step of the finer run holds of the finer steps that each step of the coarse
run stands for. -/
theorem stepsAlong {s : σ} {as : List α} (hs : I s) (hG : StepsAlong step s as G)
    {H : τ → β → Prop} (hH : StepsAlong fine (abs s) (expandRun step expand s as) H) :
    StepsAlong step s as fun t a => StepsAlong fine (abs t) (expand t a) H := by
  intro bs a hb t ht cs b hc u hu
  have hbs : StepsAlong step s bs G := hG.of_prefix ((List.prefix_append bs [a]).trans hb)
  refine hH (expandRun step expand s bs ++ cs) b ?_ u ?_
  · refine List.IsPrefix.trans ?_ (prefix_expandRun s hb)
    rw [expandRun_append [a] ht, List.append_assoc, List.prefix_append_right_inj]
    exact hc.trans (List.prefix_append _ _)
  · rw [exec_append, h.exec hs hbs ht, Option.bind_some, hu]

/-- **Invariants.** What the finer steps keep under a guard of their own holds in every state that
the coarse run reaches, if the finer run meets that guard. -/
theorem along {s : σ} {as : List α} (hs : I s) (hG : StepsAlong step s as G) {J : τ → Prop}
    {H : τ → β → Prop} (hJ : ∀ u b v, J u → H u b → fine u b = some v → J v) (hstart : J (abs s))
    (hH : StepsAlong fine (abs s) (expandRun step expand s as) H) :
    Along step s as fun t => J (abs t) := by
  intro bs hb t ht
  exact exec_invariant_of_stepsAlong hJ hstart _ (hH.of_prefix (prefix_expandRun s hb))
    (h.exec hs (hG.of_prefix hb) ht)

end Refines

end Runs
