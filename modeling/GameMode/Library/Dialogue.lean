import GameMode.Library.Runs

/-!
# Programs that ask a shared server

A dialogue is a program that sends requests and goes on with the answers. Its server has other
clients: between two requests the state of the server changes by steps that the dialogue does not
see.

A specification of a dialogue is proved against two relations, the *rely* that the steps of the
others keep to and what the server may answer; the rule `Dialogue.exists_post_of_exec` carries it
over to the runs of the dialogue together with the others.

## Main definitions

* `Dialogue`, `Dialogue.bind`: programs and their composition.
* `Dialogue.eval`: the result when nobody else is there.
* `Dialogue.step`: a dialogue among the other clients of its server.
* `Dialogue.Ensures`: the weakest precondition.

## Main results

* `Dialogue.ensures_bind`, `Dialogue.Ensures.mono`: how specifications compose.
* `Dialogue.exists_post_of_exec`: what is ensured holds of every run that comes to its end.
-/

/-- A program that asks for `Q`, is answered with `A` and ends with `R`. -/
inductive Dialogue (Q A R : Type*)
  | done (result : R)
  | ask (request : Q) (next : A → Dialogue Q A R)

namespace Dialogue

variable {Q A R S σ β ρ : Type*}

/-- One dialogue after the other. -/
def bind : Dialogue Q A R → (R → Dialogue Q A S) → Dialogue Q A S
  | done result, f => f result
  | ask request next, f => ask request fun answer => (next answer).bind f

theorem bind_assoc {T : Type*} (f : R → Dialogue Q A S) (g : S → Dialogue Q A T) :
    ∀ program : Dialogue Q A R, (program.bind f).bind g = program.bind fun r => (f r).bind g
  | done _ => rfl
  | ask request next => congrArg (ask request) (funext fun answer => bind_assoc f g (next answer))

/-- The result, where `answer` answers the requests. -/
def eval (answer : Q → A) : Dialogue Q A R → R
  | done result => result
  | ask request next => (next (answer request)).eval answer

/-! ### Runs -/

/-- A dialogue in the middle of its run, and the server. -/
structure State (Q A R σ : Type*) where
  /-- What is left of the dialogue. -/
  program : Dialogue Q A R
  /-- The server. -/
  server : σ

/-- What happens next: a step of the others, or a round of the dialogue. -/
inductive Label (β ρ : Type*)
  | other (b : β)
  | round (l : ρ)

/-- A step of the others, or the next request is answered. -/
def step (other : σ → β → Option σ) (round : Q → σ → ρ → A × σ) (s : State Q A R σ) :
    Label β ρ → Option (State Q A R σ)
  | .other b => (other s.server b).map fun server => { s with server := server }
  | .round l =>
    match s.program with
    | done _ => none
    | ask request next =>
      some ⟨next (round request s.server l).1, (round request s.server l).2⟩

/-! ### Specifications -/

section Ensures

variable (rely : σ → σ → Prop) (serves : Q → σ → A → σ → Prop)

/-- However the others and the server behave, the dialogue ends with a result and a server that
meet `post`. -/
def Ensures (post : R → σ → Prop) : Dialogue Q A R → σ → Prop
  | done result, s => post result s
  | ask request next, s =>
    ∀ t, rely s t → ∀ answer u, serves request t answer u → (next answer).Ensures post u

variable {rely serves}

theorem Ensures.mono {post post' : R → σ → Prop} (h : ∀ result s, post result s → post' result s) :
    ∀ {program : Dialogue Q A R} {s : σ}, program.Ensures rely serves post s →
      program.Ensures rely serves post' s
  | done result, s, hensures => h result s hensures
  | ask _ _, _, hensures => fun t hrely answer u hserves =>
    Ensures.mono h (hensures t hrely answer u hserves)

theorem Ensures.of_forall {post : R → σ → Prop} (h : ∀ result s, post result s) :
    ∀ {program : Dialogue Q A R} {s : σ}, program.Ensures rely serves post s
  | done result, s => h result s
  | ask _ _, _ => fun _ _ _ _ _ => Ensures.of_forall h

theorem ensures_bind {post : S → σ → Prop} {f : R → Dialogue Q A S} :
    ∀ {program : Dialogue Q A R} {s : σ},
      (program.bind f).Ensures rely serves post s ↔
        program.Ensures rely serves (fun result t => (f result).Ensures rely serves post t) s
  | done _, _ => Iff.rfl
  | ask _ _, _ => by
    simp only [bind, Ensures, ensures_bind]

variable {other : σ → β → Option σ} {round : Q → σ → ρ → A × σ}
  {G : State Q A R σ → Label β ρ → Prop}

/-- Along a guarded run the rest of the dialogue still ensures what the whole does, up to what the
others have done since the last answer. -/
theorem ensures_of_exec (hrefl : ∀ s, rely s s) (htrans : ∀ s t u, rely s t → rely t u → rely s u)
    (hother : ∀ s b t, G s (.other b) → other s.server b = some t → rely s.server t)
    (hround : ∀ s request next l, G s (.round l) → s.program = ask request next →
      serves request s.server (round request s.server l).1 (round request s.server l).2)
    {post : R → σ → Prop} {s t : State Q A R σ} {as : List (Label β ρ)}
    (hensures : s.program.Ensures rely serves post s.server)
    (hguard : Runs.StepsAlong (step other round) s as G)
    (hexec : Runs.exec (step other round) s as = some t) :
    ∃ u, rely u t.server ∧ t.program.Ensures rely serves post u := by
  refine Runs.exec_invariant_of_stepsAlong
    (I := fun t : State Q A R σ => ∃ u, rely u t.server ∧ t.program.Ensures rely serves post u)
    ?_ ⟨s.server, hrefl _, hensures⟩ as hguard hexec
  rintro t l t' ⟨u, hrely, hprogram⟩ hG hstep
  cases l with
  | other b =>
    obtain ⟨server, hserver, rfl⟩ := Option.map_eq_some_iff.1 hstep
    exact ⟨u, htrans _ _ _ hrely (hother t b server hG hserver), hprogram⟩
  | round l =>
    cases hpc : t.program with
    | done result => simp [step, hpc] at hstep
    | ask request next =>
      simp only [step, hpc, Option.some.injEq] at hstep
      subst hstep
      rw [hpc] at hprogram
      exact ⟨_, hrefl _, hprogram _ hrely _ _ (hround t request next l hG hpc)⟩

/-- **Specifications hold of runs.** Where the others keep to the rely and the server to what it may
answer, a run that comes to its end meets the postcondition, up to what the others have done since.
-/
theorem exists_post_of_exec (hrefl : ∀ s, rely s s)
    (htrans : ∀ s t u, rely s t → rely t u → rely s u)
    (hother : ∀ s b t, G s (.other b) → other s.server b = some t → rely s.server t)
    (hround : ∀ s request next l, G s (.round l) → s.program = ask request next →
      serves request s.server (round request s.server l).1 (round request s.server l).2)
    {post : R → σ → Prop} {s t : State Q A R σ} {as : List (Label β ρ)} {result : R}
    (hensures : s.program.Ensures rely serves post s.server)
    (hguard : Runs.StepsAlong (step other round) s as G)
    (hexec : Runs.exec (step other round) s as = some t) (hdone : t.program = done result) :
    ∃ u, rely u t.server ∧ post result u := by
  obtain ⟨u, hrely, hend⟩ := ensures_of_exec hrefl htrans hother hround hensures hguard hexec
  rw [hdone] at hend
  exact ⟨u, hrely, hend⟩

end Ensures

end Dialogue
