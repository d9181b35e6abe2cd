import GameMode.Library.Runs

/-!
# How long a run can stay

A thread that waits for others stays in a set of states while they take their steps. It waits for a
bounded time when some measure goes down with every step that stays in the set, and it may wait for
ever when some of the states in the set can always be left for another one of them.

## Main definitions

* `Runs.Stays`: a run that stays in a set of states.
* `Runs.Ends`: the runs that stay in it are of bounded length.

## Main results

* `Runs.length_add_le`, `Runs.ends_of_measure`: a measure bounds the runs that stay.
* `Runs.exists_stays`, `Runs.not_ends_of_forever`: runs of any length that stay.
-/

namespace Runs

variable {σ α : Type*} {step : σ → α → Option σ} {P I C : σ → Prop}

/-- The run `as` from `s` can be taken, and `P` holds in all its states. -/
def Stays (step : σ → α → Option σ) (P : σ → Prop) : σ → List α → Prop
  | s, [] => P s
  | s, a :: as => P s ∧ ∃ t, step s a = some t ∧ Stays step P t as

/-- The runs from `s` in whose states `P` holds are of bounded length. -/
def Ends (step : σ → α → Option σ) (P : σ → Prop) (s : σ) : Prop :=
  ∃ bound, ∀ as, Stays step P s as → as.length ≤ bound

theorem Stays.start : ∀ {s : σ} {as : List α}, Stays step P s as → P s
  | _, [], h => h
  | _, _ :: _, h => h.1

theorem Stays.mono {Q : σ → Prop} (hPQ : ∀ s, P s → Q s) : ∀ {s : σ} {as : List α},
    Stays step P s as → Stays step Q s as
  | s, [], h => hPQ s h
  | s, _ :: _, ⟨hs, t, ht, hrest⟩ => ⟨hPQ s hs, t, ht, hrest.mono hPQ⟩

/-- A run stays in a set just when it can be taken and does not leave the set. -/
theorem stays_iff : ∀ {s : σ} {as : List α}, Stays step P s as ↔
    (∃ t, exec step s as = some t) ∧ Along step s as P
  | s, [] => by
    constructor
    · intro hs
      refine ⟨⟨s, rfl⟩, fun bs hb t ht => ?_⟩
      rw [List.prefix_nil.1 hb, exec_nil, Option.some.injEq] at ht
      exact ht ▸ hs
    · exact fun h => h.2.exec rfl
  | s, a :: as => by
    rw [Stays]
    constructor
    · rintro ⟨hs, t, ht, hrest⟩
      obtain ⟨⟨u, hu⟩, halong⟩ := stays_iff.1 hrest
      refine ⟨⟨u, by rw [exec_cons, ht, Option.bind_some, hu]⟩, fun bs hb v hv => ?_⟩
      cases bs with
      | nil =>
        rw [exec_nil, Option.some.injEq] at hv
        exact hv ▸ hs
      | cons b bs =>
        obtain ⟨rfl, hbs⟩ := List.cons_prefix_cons.1 hb
        rw [exec_cons, ht, Option.bind_some] at hv
        exact halong bs hbs v hv
    · rintro ⟨⟨u, hu⟩, halong⟩
      rw [exec_cons, Option.bind_eq_some_iff] at hu
      obtain ⟨t, ht, hu⟩ := hu
      refine ⟨halong [] List.nil_prefix s rfl, t, ht, stays_iff.2 ⟨⟨u, hu⟩, ?_⟩⟩
      intro bs hb v hv
      refine halong (a :: bs) (List.cons_prefix_cons.2 ⟨rfl, hb⟩) v ?_
      rw [exec_cons, ht, Option.bind_some, hv]

/-- **Measures.** A measure that every step within `P` lowers bounds the length of a run that stays,
if the steps keep the invariant. -/
theorem length_add_le {m : σ → ℕ}
    (hstep : ∀ s a t, I s → P s → step s a = some t → P t → I t ∧ m t < m s) :
    ∀ {s t : σ} {as : List α}, I s → Stays step P s as → exec step s as = some t →
      as.length + m t ≤ m s
  | s, t, [], _, _, ht => by
    rw [exec_nil, Option.some.injEq] at ht
    rw [ht, List.length_nil, Nat.zero_add]
  | s, t, a :: as, hs, ⟨hP, u, hu, hrest⟩, ht => by
    rw [exec_cons, hu, Option.bind_some] at ht
    obtain ⟨hI, hlt⟩ := hstep s a u hs hP hu hrest.start
    have hle := length_add_le hstep hI hrest ht
    rw [List.length_cons]
    omega

theorem ends_of_measure {m : σ → ℕ}
    (hstep : ∀ s a t, I s → P s → step s a = some t → P t → I t ∧ m t < m s) {s : σ} (hs : I s) :
    Ends step P s := by
  refine ⟨m s, fun as has => ?_⟩
  obtain ⟨⟨t, ht⟩, -⟩ := stays_iff.1 has
  have hle := length_add_le hstep hs has ht
  omega

/-- Where some state of `C` can always be left for another one, there are runs of any length that
stay in `C`. -/
theorem exists_stays (hstep : ∀ s, C s → ∃ a t, step s a = some t ∧ C t) :
    ∀ (n : ℕ) {s : σ}, C s → ∃ as, as.length = n ∧ Stays step C s as
  | 0, _, hs => ⟨[], rfl, hs⟩
  | n + 1, s, hs => by
    obtain ⟨a, t, ht, hC⟩ := hstep s hs
    obtain ⟨as, hlength, has⟩ := exists_stays hstep n hC
    exact ⟨a :: as, by rw [List.length_cons, hlength], hs, t, ht, has⟩

/-- **Waiting for ever.** Runs from a state of `C` are not bounded. -/
theorem not_ends_of_forever (hCP : ∀ s, C s → P s)
    (hstep : ∀ s, C s → ∃ a t, step s a = some t ∧ C t) {s : σ} (hs : C s) :
    ¬Ends step P s := by
  rintro ⟨bound, hbound⟩
  obtain ⟨as, hlength, has⟩ := exists_stays hstep (bound + 1) hs
  have hle := hbound as (has.mono hCP)
  omega

end Runs
