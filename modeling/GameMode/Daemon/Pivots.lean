import GameMode.Daemon.Registry
import GameMode.Daemon.Reload
import GameMode.Library.Runs

/-!
# Pivoting into and out of game mode

The operations change the settings of the system in four ways only: they enter game mode, they leave
it, they read the configuration again while game mode is left, and they check the energy of the
integrated GPU. Here a run of the operations is seen as the run of these pivots. Between two
operations game mode is active exactly when a client is registered.

## Main definitions

* `Phase`: the settings, and whether game mode is active.
* `Pivot`, `pivotStep`: the four ways as steps.
* `pivots`, `runPivots`: the pivots of an operation, and of a run.

## Main results

* `World.Consistent.contextStep`: the registry stays consistent.
* `exec_pivots`, `exec_runPivots`: an operation, and a run, is the run of its pivots.
* `stepsAlong_pivots`, `pivots_of_last`: the pivots of each operation of a run, and those of an
  operation that removes the last client.

Source: `daemon/gamemode-context.c`.
-/

namespace GameMode

/-- The settings, and whether game mode is active. -/
structure Phase where
  /-- Whether game mode is active. -/
  active : Bool
  /-- The context without the registry, the threads and the log. -/
  settings : World

/-- The phase of the context. -/
def Phase.of (w : World) : Phase := ⟨w.refcount ≠ 0, w.settings⟩

/-- What the operations do to the settings. -/
inductive Pivot
  | enter (o : Outcomes)
  | leave (o : Outcomes)
  | reread (env : Env)
  | energy (env : Env)

variable (files : CpuSysfs)

/-- A pivot as a step. -/
def pivotStep (s : Phase) : Pivot → Option Phase
  | .enter o =>
    if s.active then none else some ⟨true, (contextEnter files o s.settings).settings⟩
  | .leave o => if s.active then some ⟨false, (contextLeave o s.settings).settings⟩ else none
  | .reread env =>
    if s.active then none else some ⟨false, (rereadConfig files env s.settings).settings⟩
  | .energy env => some ⟨s.active, (contextCheckIgpuEnergy env s.settings).settings⟩

/-- What a pivot does, and when it can be taken. -/
theorem pivotStep_cases {s t : Phase} {p : Pivot} (h : pivotStep files s p = some t) :
    (∃ o, p = .enter o ∧ s.active = false ∧
        t = ⟨true, (contextEnter files o s.settings).settings⟩) ∨
      (∃ o, p = .leave o ∧ s.active = true ∧
        t = ⟨false, (contextLeave o s.settings).settings⟩) ∨
      (∃ env, p = .reread env ∧ s.active = false ∧
        t = ⟨false, (rereadConfig files env s.settings).settings⟩) ∨
      ∃ env, p = .energy env ∧
        t = ⟨s.active, (contextCheckIgpuEnergy env s.settings).settings⟩ := by
  cases p with
  | enter o =>
    simp only [pivotStep, Option.ite_none_left_eq_some, Option.some_inj] at h
    exact Or.inl ⟨o, rfl, Bool.eq_false_of_not_eq_true h.1, h.2.symm⟩
  | leave o =>
    simp only [pivotStep, Option.ite_none_right_eq_some, Option.some_inj] at h
    exact Or.inr (Or.inl ⟨o, rfl, h.1, h.2.symm⟩)
  | reread env =>
    simp only [pivotStep, Option.ite_none_left_eq_some, Option.some_inj] at h
    exact Or.inr (Or.inr (Or.inl ⟨env, rfl, Bool.eq_false_of_not_eq_true h.1, h.2.symm⟩))
  | energy env =>
    cases h
    exact Or.inr (Or.inr (Or.inr ⟨env, rfl, rfl⟩))

/-- The pivot of the removal of a client: the last client leaves game mode. -/
def unregisterPivots (env : Env) (client requester : Pid) (w : World) : List Pivot :=
  if (contextUnregister env client requester w).1 = 0 ∧ w.refcount = 1 then [.leave env.leave]
  else []

/-- The pivots of an operation, in order. -/
def pivots (w : World) : ContextOp × Env → List Pivot
  | (.register client requester, env) =>
    if (contextRegister files env client requester w).1 = 0 ∧ w.refcount = 0 then
      [.enter env.enter]
    else []
  | (.unregister client requester, env) => unregisterPivots env client requester w
  | (.restart requester, env) =>
    if (contextRestart files env requester w).1 = 0 then [.leave env.leave, .enter env.enter]
    else []
  | (.autoExpireRound, env) =>
    match deadClient env w with
    | none => []
    | some cl => unregisterPivots env cl.pid cl.pid w
  | (.checkIgpuEnergy, env) => [.energy env]
  | (.reapplyCorePinning, _) => []
  | (.reloadConfig, env) =>
    if w.refcount ≠ 0 then [.leave env.leave, .reread env, .enter env.enter] else [.reread env]

/-- The pivots of a run of the operations. -/
def runPivots (w : World) (run : List (ContextOp × Env)) : List Pivot :=
  Runs.expandRun (contextStep files) (pivots files) w run

/-- The pivots of an operation carry what the operation asks of the system. -/
theorem mem_pivots {w : World} {op : ContextOp} {env : Env} {p : Pivot}
    (h : p ∈ pivots files w (op, env)) :
    p = .enter env.enter ∨ p = .leave env.leave ∨ p = .reread env ∧ op = .reloadConfig ∨
      p = .energy env ∧ op = .checkIgpuEnergy := by
  have hunregister : ∀ client requester, p ∈ unregisterPivots env client requester w →
      p = .leave env.leave := by
    intro client requester hp
    rw [unregisterPivots, List.mem_ite_nil_right, List.mem_singleton] at hp
    exact hp.2
  cases op with
  | register client requester =>
    rw [pivots, List.mem_ite_nil_right, List.mem_singleton] at h
    exact Or.inl h.2
  | unregister client requester => exact Or.inr (Or.inl (hunregister client requester h))
  | restart requester =>
    rw [pivots, List.mem_ite_nil_right] at h
    simp only [List.mem_cons, List.not_mem_nil, or_false] at h
    tauto
  | autoExpireRound =>
    rw [pivots] at h
    split at h
    · cases h
    · exact Or.inr (Or.inl (hunregister _ _ h))
  | checkIgpuEnergy =>
    rw [pivots, List.mem_singleton] at h
    exact Or.inr (Or.inr (Or.inr ⟨h, rfl⟩))
  | reapplyCorePinning => cases h
  | reloadConfig =>
    rw [pivots] at h
    split_ifs at h <;> simp only [List.mem_cons, List.not_mem_nil, or_false] at h <;> tauto

theorem mem_runPivots {w : World} {run : List (ContextOp × Env)} {p : Pivot}
    (h : p ∈ runPivots files w run) :
    ∃ a ∈ run, p = .enter a.2.enter ∨ p = .leave a.2.leave ∨ p = .reread a.2 ∨
      p = .energy a.2 := by
  obtain ⟨a, ha, w', hp⟩ := Runs.mem_expandRun h
  have hmem := mem_pivots files hp
  exact ⟨a, ha, by tauto⟩

/-- The phase that the daemon starts in. -/
def startPhase (allocated : Finset ℕ) (config : Config) (system : OriginalSystem) : Phase :=
  .of (contextInit files allocated config system)

/-! ### The registry -/

namespace World.Consistent

variable {w w' : World} (h : w.Consistent)
include h

theorem contextUnregister (env : Env) (client requester : Pid) :
    (contextUnregister env client requester w).2.Consistent := by
  rcases contextUnregister_cases env client requester w with ⟨-, heq⟩ | ⟨w', hremove, heq⟩
  · rwa [heq]
  · rw [heq]
    exact ⟨(h.removeClient hremove).refcount, (h.removeClient hremove).nodup⟩

/-- Every operation keeps the registry consistent. -/
theorem contextStep {a : ContextOp × Env} (hstep : contextStep files w a = some w') :
    w'.Consistent := by
  obtain ⟨op, env⟩ := a
  cases op with
  | register client requester =>
    cases hstep
    rcases contextRegister_cases files env client requester w with ⟨-, heq⟩ | ⟨cl, rfl, hnew, heq⟩
    · rwa [heq]
    · rw [heq]
      exact ⟨(h.insertClient files env hnew).refcount, (h.insertClient files env hnew).nodup⟩
  | unregister client requester =>
    cases hstep
    exact h.contextUnregister env client requester
  | restart requester =>
    cases hstep
    rcases contextRestart_cases files env requester w with ⟨-, heq⟩ | ⟨-, heq⟩
    · rwa [heq]
    · rw [heq]
      exact ⟨h.refcount, h.nodup⟩
  | autoExpireRound =>
    cases hstep
    rw [contextAutoExpireRound]
    split
    · exact h
    · exact h.contextUnregister env _ _
  | checkIgpuEnergy =>
    cases hstep
    exact ⟨h.refcount, h.nodup⟩
  | reapplyCorePinning =>
    cases hstep
    rw [reapplyCorePinningInternal]
    split_ifs
    · exact ⟨h.refcount, h.nodup⟩
    · exact h
  | reloadConfig =>
    cases hstep
    obtain ⟨hclients, hrefcount⟩ := reloadConfigInternal_clients files env w
    refine ⟨?_, ?_⟩
    · rw [hrefcount, hclients]
      exact h.refcount
    · rw [World.pids, hclients]
      exact h.nodup

end World.Consistent

/-! ### Operations as runs of pivots -/

section Pivots

variable {w w' : World}

theorem Phase.of_eq_inactive (h : w.refcount = 0) : Phase.of w = ⟨false, w.settings⟩ := by
  simp [Phase.of, h]

theorem Phase.of_eq_active (h : w.refcount ≠ 0) : Phase.of w = ⟨true, w.settings⟩ := by
  simp [Phase.of, h]

private theorem exec_unregisterPivots (h : w.Consistent) (env : Env) (client requester : Pid) :
    Runs.exec (pivotStep files) (Phase.of w) (unregisterPivots env client requester w) =
      some (Phase.of (contextUnregister env client requester w).2) := by
  rw [unregisterPivots]
  rcases contextUnregister_cases env client requester w with ⟨hne, heq⟩ | ⟨w', hremove, heq⟩
  · rw [if_neg fun hzero => hne hzero.1, heq, Runs.exec_nil]
  · have hregistered : w.IsRegistered client :=
      (removeClient_isSome_iff env client w).1 (hremove ▸ rfl)
    have hcount : (w'.say (.signal false client)).refcount = w.refcount - 1 :=
      (removeClient_clients hremove).2
    rw [removeClient, if_pos hregistered, Option.some_inj] at hremove
    obtain ⟨cl, hcl, -⟩ := hregistered
    have hpos : 0 < w.clients.length := List.length_pos_of_mem hcl
    have hrefcount := h.refcount
    rw [heq]
    by_cases hlast : w.refcount = 1
    · rw [if_pos ⟨rfl, hlast⟩, Phase.of_eq_active (by omega : w.refcount ≠ 0),
        Phase.of_eq_inactive (hcount.trans (by omega)), ← hremove, if_pos hlast]
      rfl
    · rw [if_neg fun hzero => hlast hzero.2, Phase.of_eq_active (by omega : w.refcount ≠ 0),
        Phase.of_eq_active (hcount.trans_ne (by omega)), ← hremove, if_neg hlast]
      rfl

/-- An operation is the run of its pivots. -/
theorem exec_pivots (h : w.Consistent) {a : ContextOp × Env}
    (hstep : contextStep files w a = some w') :
    Runs.exec (pivotStep files) (Phase.of w) (pivots files w a) = some (Phase.of w') := by
  obtain ⟨op, env⟩ := a
  cases op with
  | register client requester =>
    cases hstep
    rw [pivots]
    rcases contextRegister_cases files env client requester w with ⟨hne, heq⟩ | ⟨cl, -, -, heq⟩
    · rw [if_neg fun hzero => hne hzero.1, heq, Runs.exec_nil]
    · have hcount : ((insertClient files env cl w).say (.signal true client)).refcount =
          w.refcount + 1 := (insertClient_clients files env cl w).2
      rw [heq]
      by_cases hfirst : w.refcount = 0
      · rw [if_pos ⟨rfl, hfirst⟩, Phase.of_eq_inactive hfirst,
          Phase.of_eq_active (hcount.trans_ne (by omega)), insertClient, if_pos hfirst]
        rfl
      · have hrefcount := h.refcount
        rw [if_neg fun hzero => hfirst hzero.2, Phase.of_eq_active hfirst,
          Phase.of_eq_active (hcount.trans_ne (by omega)), insertClient, if_neg hfirst]
        rfl
  | unregister client requester =>
    cases hstep
    exact exec_unregisterPivots files h env client requester
  | restart requester =>
    cases hstep
    rw [pivots]
    rcases contextRestart_cases files env requester w with ⟨hne, heq⟩ | ⟨hcount, heq⟩
    · rw [if_neg hne, heq, Runs.exec_nil]
    · have hcount' : (restartSection files env w).refcount ≠ 0 := hcount
      rw [heq, if_pos rfl, Phase.of_eq_active hcount, Phase.of_eq_active hcount']
      rfl
  | autoExpireRound =>
    cases hstep
    rw [pivots, contextAutoExpireRound]
    cases deadClient env w with
    | none => rfl
    | some cl => exact exec_unregisterPivots files h env _ _
  | checkIgpuEnergy =>
    cases hstep
    rfl
  | reapplyCorePinning =>
    cases hstep
    rw [pivots, reapplyCorePinningInternal]
    split_ifs <;> rfl
  | reloadConfig =>
    cases hstep
    obtain ⟨-, hrefcount⟩ := reloadConfigInternal_clients files env w
    rw [pivots]
    by_cases hcount : w.refcount = 0
    · rw [if_neg (not_not.2 hcount), Phase.of_eq_inactive hcount,
        Phase.of_eq_inactive (hrefcount.trans hcount)]
      have hreread : ¬(rereadConfig files env w).refcount ≠ 0 := not_not.2 hcount
      rw [reloadConfigInternal, tearDown, if_neg (not_not.2 hcount), regrow, if_neg hreread]
      rfl
    · rw [if_pos hcount, Phase.of_eq_active hcount,
        Phase.of_eq_active (hrefcount.trans_ne hcount),
        settings_reloadConfigInternal files env hcount]
      rfl

theorem contextStep_of_pivots (h : w.Consistent) {a : ContextOp × Env}
    (hstep : contextStep files w a = some w') {J : Phase → Prop} {G : Phase → Pivot → Prop}
    (hpivot : ∀ s p t, J s → G s p → pivotStep files s p = some t → J t)
    (hguard : Runs.StepsAlong (pivotStep files) (Phase.of w) (pivots files w a) G)
    (hJ : J (Phase.of w)) : J (Phase.of w') :=
  Runs.exec_invariant_of_stepsAlong hpivot hJ (pivots files w a) hguard
    (exec_pivots files h hstep)

theorem stepsAlong_reloaded {C : Config → Prop} {a : ContextOp × Env} (h : C a.2.reloaded)
    (w : World) (s : Phase) :
    Runs.StepsAlong (pivotStep files) s (pivots files w a)
      fun _ p => ∀ env, p = .reread env → C env.reloaded := by
  refine Runs.StepsAlong.of_forall_mem fun p hp _ => ?_
  obtain ⟨op, env⟩ := a
  intro env' henv
  rcases mem_pivots files hp with rfl | rfl | ⟨rfl, -⟩ | ⟨rfl, -⟩ <;> cases henv
  exact h

theorem config_contextStep (h : w.Consistent) {C : Config → Prop} {a : ContextOp × Env}
    (hreloaded : C a.2.reloaded) (hstep : contextStep files w a = some w') (hconfig : C w.config) :
    C w'.config := by
  refine contextStep_of_pivots files h hstep (J := fun s => C s.settings.config) ?_
    (stepsAlong_reloaded files hreloaded w _) hconfig
  intro s p t hs hp hpivot
  rcases pivotStep_cases files hpivot with
    ⟨o, -, -, rfl⟩ | ⟨o, -, -, rfl⟩ | ⟨env, rfl, -, rfl⟩ | ⟨env, -, rfl⟩
  · exact hs
  · exact hs
  · exact hp env rfl
  · exact hs

/-- A run of the operations is the run of its pivots. -/
theorem exec_runPivots (h : w.Consistent) {run : List (ContextOp × Env)}
    (hexec : Runs.exec (contextStep files) w run = some w') :
    Runs.exec (pivotStep files) (Phase.of w) (runPivots files w run) = some (Phase.of w') :=
  Runs.exec_expandRun (fun _ _ _ hs hstep => hs.contextStep files hstep)
    (fun _ _ _ hs hstep => exec_pivots files hs hstep) h hexec

/-- What holds of every pivot of a run holds of the pivots of each operation. -/
theorem stepsAlong_pivots (h : w.Consistent) {run : List (ContextOp × Env)}
    {G : Phase → Pivot → Prop}
    (hpivots : Runs.StepsAlong (pivotStep files) (Phase.of w) (runPivots files w run) G) :
    Runs.StepsAlong (contextStep files) w run fun w' a =>
      Runs.StepsAlong (pivotStep files) (Phase.of w') (pivots files w' a) G :=
  Runs.StepsAlong.of_expandRun (fun _ _ _ hs hstep => hs.contextStep files hstep)
    (fun _ _ _ hs hstep => exec_pivots files hs hstep) h hpivots

/-- An operation that removes the last client leaves game mode, and does nothing else. -/
theorem pivots_of_last (h : w.Consistent) {a : ContextOp × Env} (hcount : w.refcount ≠ 0)
    (hstep : contextStep files w a = some w') (hlast : w'.refcount = 0) :
    pivots files w a = [.leave a.2.leave] := by
  have hexec := exec_pivots files h hstep
  rw [Phase.of_eq_active hcount, Phase.of_eq_inactive hlast] at hexec
  have hunregister : ∀ client requester,
      Runs.exec (pivotStep files) ⟨true, w.settings⟩ (unregisterPivots a.2 client requester w) =
        some ⟨false, w'.settings⟩ →
      unregisterPivots a.2 client requester w = [.leave a.2.leave] := by
    intro client requester hexec
    rw [unregisterPivots] at hexec ⊢
    split_ifs at hexec ⊢ with hremoved
    · rfl
    · simp at hexec
  obtain ⟨op, env⟩ := a
  cases op with
  | register client requester => simp [pivots, hcount] at hexec
  | unregister client requester => exact hunregister client requester hexec
  | restart requester =>
    rw [pivots] at hexec
    split_ifs at hexec <;> simp [pivotStep] at hexec
  | autoExpireRound =>
    rw [pivots] at hexec ⊢
    split at hexec
    · simp at hexec
    · exact hunregister _ _ hexec
  | checkIgpuEnergy => simp [pivots, pivotStep] at hexec
  | reapplyCorePinning => simp [pivots] at hexec
  | reloadConfig => simp [pivots, pivotStep, hcount] at hexec

end Pivots

end GameMode
