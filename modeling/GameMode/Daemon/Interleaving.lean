import GameMode.Daemon.ActiveRuns
import GameMode.Daemon.GpuRuns
import GameMode.Daemon.Restore
import GameMode.Library.Refinement

/-!
# What the two threads do to the settings

The critical sections of the two threads change the settings by pivots: by entering and leaving game
mode, by reading the configuration again, and by checking the energies. So a run of the two threads,
in whatever order their steps come, is a run of pivots. The pivots alternate as long as every
restart finds a client, and what holds along runs of pivots holds in every interleaving.

## Main definitions

* `applyPivot`, `settingsStep`: a pivot on the settings, whether or not game mode is active.
* `Action.pivots`, `threadPivots`: the pivots of a step and of a run of the two threads.

## Main results

* `refines_settings`, `refines_pivots`: the two threads refine the pivots.
* `interleaving_refines_pivots`: the settings after a run of the two threads.
* `restorable_interleaved`: governor and profile can be restored in every interleaving.
* `gpuPutBack_interleaved`: the settings of the GPU are put back in every interleaving.

Source: `daemon/gamemode-context.c`, `daemon/gamemode-dbus.c`.
-/

namespace GameMode

/-! ### Pivots on the settings -/

variable (files : CpuSysfs)

/-- What a pivot does to the settings. -/
def applyPivot (settings : World) : Pivot → World
  | .enter o => (contextEnter files o settings).settings
  | .leave o => (contextLeave o settings).settings
  | .reread env => (rereadConfig files env settings).settings
  | .energy env => (contextCheckIgpuEnergy env settings).settings

/-- A pivot as a step of the settings, which it can always take. -/
def settingsStep (settings : World) (p : Pivot) : Option World := some (applyPivot files settings p)

theorem exec_settingsStep (settings : World) (ps : List Pivot) :
    Runs.exec (settingsStep files) settings ps = some (ps.foldl (applyPivot files) settings) := by
  induction ps generalizing settings with
  | nil => rfl
  | cons p ps ih =>
    rw [Runs.exec_cons, settingsStep, Option.bind_some, ih]
    rfl

theorem pivotStep_settings {s t : Phase} {p : Pivot} (h : pivotStep files s p = some t) :
    t.settings = applyPivot files s.settings p := by
  rcases pivotStep_cases files h with
    ⟨o, rfl, -, rfl⟩ | ⟨o, rfl, -, rfl⟩ | ⟨env, rfl, -, rfl⟩ | ⟨env, rfl, rfl⟩ <;> rfl

theorem exec_pivotStep_settings {ps : List Pivot} : ∀ {s t : Phase},
    Runs.exec (pivotStep files) s ps = some t →
      t.settings = ps.foldl (applyPivot files) s.settings := by
  induction ps with
  | nil =>
    intro s t h
    rw [Runs.exec_nil, Option.some_inj] at h
    rw [← h, List.foldl_nil]
  | cons p ps ih =>
    intro s t h
    rw [Runs.exec_cons, Option.bind_eq_some_iff] at h
    obtain ⟨u, hu, ht⟩ := h
    rw [ih ht, pivotStep_settings files hu, List.foldl_cons]

theorem exists_pivotStep (settings : World) (p : Pivot) :
    ∃ active t, pivotStep files ⟨active, settings⟩ p = some t ∧
      t.settings = applyPivot files settings p := by
  cases p with
  | enter o => exact ⟨false, _, rfl, rfl⟩
  | leave o => exact ⟨true, _, rfl, rfl⟩
  | reread env => exact ⟨false, _, rfl, rfl⟩
  | energy env => exact ⟨false, _, rfl, rfl⟩

/-! ### The pivots of the threads -/

/-- The pivot of a removal, if the client is registered: the last one leaves game mode. -/
def removePivots (env : Env) (client : Pid) (w : World) : List Pivot :=
  if w.IsRegistered client ∧ w.refcount = 1 then [.leave env.leave] else []

/-- The pivots of a reload. -/
def reloadPivots (env : Env) (w : World) : List Pivot :=
  if w.refcount ≠ 0 then [.leave env.leave, .reread env, .enter env.enter] else [.reread env]

/-- The pivots of a step. -/
def Action.pivots (s : Sys) : Action → List Pivot
  | .receive _ => []
  | .dbus env =>
    match s.dbus with
    | .insert _ => if s.world.refcount = 0 then [.enter env.enter] else []
    | .unregister client => removePivots env client s.world
    | .restart => [.leave env.leave, .enter env.enter]
    | .reload => reloadPivots env s.world
    | _ => []
  | .reaper env =>
    match s.reaper with
    | .checkIgpu => [.energy env]
    | .unregister client => removePivots env client s.world
    | .reload => reloadPivots env s.world
    | _ => []

/-- The pivots of a run of the two threads. -/
def threadPivots (s : Sys) (actions : List Action) : List Pivot :=
  Runs.expandRun (step files) (fun s a => a.pivots s) s actions

/-- What a step asks of the system. -/
def Action.env : Action → Option Env
  | .receive _ => none
  | .dbus env | .reaper env => some env

theorem mem_removePivots {env : Env} {client : Pid} {w : World} {p : Pivot}
    (h : p ∈ removePivots env client w) : p = .leave env.leave := by
  rw [removePivots, List.mem_ite_nil_right, List.mem_singleton] at h
  exact h.2

theorem mem_reloadPivots {env : Env} {w : World} {p : Pivot} (h : p ∈ reloadPivots env w) :
    p = .leave env.leave ∨ p = .reread env ∨ p = .enter env.enter := by
  rw [reloadPivots] at h
  split_ifs at h <;> simp only [List.mem_cons, List.not_mem_nil, or_false] at h <;> tauto

/-- The configuration that the pivots of a step read is the one that the step reads. -/
theorem reloaded_of_mem_pivots {s : Sys} {a : Action} {env : Env}
    (h : .reread env ∈ a.pivots s) : a.env = some env := by
  cases a with
  | receive request => cases h
  | dbus env' =>
    simp only [Action.pivots] at h
    split at h
    · rw [List.mem_ite_nil_right, List.mem_singleton] at h
      cases h.2
    · cases mem_removePivots h
    · simp only [List.mem_cons, List.not_mem_nil, or_false, reduceCtorEq] at h
    · rcases mem_reloadPivots h with h | h | h <;> cases h
      rfl
    · cases h
  | reaper env' =>
    simp only [Action.pivots] at h
    split at h
    · rw [List.mem_singleton] at h
      cases h
    · cases mem_removePivots h
    · rcases mem_reloadPivots h with h | h | h <;> cases h
      rfl
    · cases h

/-! ### The critical sections -/

section Sections

variable {w w' : World} (h : w.Consistent) (env : Env)
include h

/-- The insertion of a client enters game mode for the first one. -/
theorem exec_insertClient (cl : Client) :
    Runs.exec (pivotStep files) (Phase.of w) (if w.refcount = 0 then [.enter env.enter] else []) =
      some (Phase.of (insertClient files env cl w)) := by
  have hcount := (insertClient_clients files env cl w).2
  have hrefcount := h.refcount
  have hne : (insertClient files env cl w).refcount ≠ 0 := by omega
  by_cases hfirst : w.refcount = 0
  · rw [if_pos hfirst, Phase.of_eq_inactive hfirst, Phase.of_eq_active hne, insertClient,
      if_pos hfirst]
    rfl
  · rw [if_neg hfirst, Phase.of_eq_active hfirst, Phase.of_eq_active hne, insertClient,
      if_neg hfirst]
    rfl

omit files in
/-- The removal of a client leaves game mode after the last one. -/
theorem exec_removeClient (files : CpuSysfs) {client : Pid}
    (hremove : removeClient env client w = some w') :
    Runs.exec (pivotStep files) (Phase.of w) (removePivots env client w) =
      some (Phase.of w') := by
  have hregistered : w.IsRegistered client :=
    (removeClient_isSome_iff env client w).1 (hremove ▸ rfl)
  have hcount := (removeClient_clients hremove).2
  obtain ⟨cl, hcl, -⟩ := id hregistered
  have hpos : 0 < w.clients.length := List.length_pos_of_mem hcl
  have hrefcount := h.refcount
  have hne : w.refcount ≠ 0 := by omega
  rw [removeClient, if_pos hregistered, Option.some_inj] at hremove
  rw [removePivots]
  by_cases hlast : w.refcount = 1
  · rw [if_pos ⟨hregistered, hlast⟩, Phase.of_eq_active hne,
      Phase.of_eq_inactive (by omega : w'.refcount = 0), ← hremove, if_pos hlast]
    rfl
  · rw [if_neg fun hand => hlast hand.2, Phase.of_eq_active hne,
      Phase.of_eq_active (by omega : w'.refcount ≠ 0), ← hremove, if_neg hlast]
    rfl

omit h

theorem removePivots_of_none {client : Pid} (hremove : removeClient env client w = none) :
    removePivots env client w = [] := by
  have hnot : ¬w.IsRegistered client := by
    rw [← removeClient_isSome_iff env client w, hremove]
    exact Bool.false_ne_true
  rw [removePivots, if_neg fun hand => hnot hand.1]

theorem exec_restartSection (hactive : w.refcount ≠ 0) :
    Runs.exec (pivotStep files) (Phase.of w) [.leave env.leave, .enter env.enter] =
      some (Phase.of (restartSection files env w)) := by
  have hcount : (restartSection files env w).refcount ≠ 0 := hactive
  rw [Phase.of_eq_active hactive, Phase.of_eq_active hcount]
  rfl

/-- A reload is the run of its pivots. -/
theorem exec_reloadConfigInternal :
    Runs.exec (pivotStep files) (Phase.of w) (reloadPivots env w) =
      some (Phase.of (reloadConfigInternal files env w)) := by
  obtain ⟨-, hrefcount⟩ := reloadConfigInternal_clients files env w
  rw [reloadPivots]
  by_cases hcount : w.refcount = 0
  · have hreread : ¬(rereadConfig files env w).refcount ≠ 0 := not_not.2 hcount
    rw [if_neg (not_not.2 hcount), Phase.of_eq_inactive hcount,
      Phase.of_eq_inactive (hrefcount.trans hcount), reloadConfigInternal, tearDown,
      if_neg (not_not.2 hcount), regrow, if_neg hreread]
    rfl
  · rw [if_pos hcount, Phase.of_eq_active hcount, Phase.of_eq_active (hrefcount.trans_ne hcount),
      settings_reloadConfigInternal files env hcount]
    rfl

end Sections

/-! ### The steps -/

@[simp] theorem phase_proceed (next : DbusNext) (s : Sys) :
    Phase.of (s.proceed next).world = Phase.of s.world := by
  cases next <;> rfl

variable {files} in
/-- A step of the D-Bus thread is the run of its pivots, unless it is a restart that finds game mode
left. -/
theorem exec_pivots_dbusStep {env : Env} {s s' : Sys} (h : s.world.Consistent)
    (hrestart : s.dbus = .restart → s.world.refcount ≠ 0)
    (hstep : dbusStep files env s = some s') :
    Runs.exec (pivotStep files) (Phase.of s.world) ((Action.dbus env).pivots s) =
      some (Phase.of s'.world) := by
  cases hpc : s.dbus <;>
    simp only [dbusStep, hpc, reduceCtorEq, Option.some.injEq] at hstep <;>
    simp only [Action.pivots, hpc]
  case insert cl =>
    subst hstep
    exact exec_insertClient files h env cl
  case unregister client =>
    cases hremove : removeClient env client s.world with
    | none =>
      rw [hremove, Option.some.injEq] at hstep
      rw [removePivots_of_none env hremove, ← hstep, phase_proceed, Runs.exec_nil]
    | some w =>
      rw [hremove, Option.some.injEq] at hstep
      rw [← hstep]
      exact exec_removeClient h env files hremove
  case restart =>
    subst hstep
    exact exec_restartSection files env (hrestart hpc)
  case reload =>
    subst hstep
    exact exec_reloadConfigInternal files env
  case listClients =>
    split at hstep <;> (cases hstep; rfl)
  case joinReaper =>
    rw [Option.ite_none_right_eq_some, Option.some.injEq] at hstep
    rw [← hstep.2, Runs.exec_nil]
  case signalRegistered | signalUnregistered | numClients | endReaper | startReaper =>
    subst hstep
    rfl
  all_goals
    subst hstep
    rw [Runs.exec_nil, phase_proceed]

variable {files} in
/-- A step of the reaper is the run of its pivots. -/
theorem exec_pivots_reaperStep {env : Env} {s s' : Sys} (h : s.world.Consistent)
    (hstep : reaperStep files env s = some s') :
    Runs.exec (pivotStep files) (Phase.of s.world) ((Action.reaper env).pivots s) =
      some (Phase.of s'.world) := by
  cases hpc : s.reaper <;>
    simp only [reaperStep, hpc, reduceCtorEq, Option.some.injEq] at hstep <;>
    simp only [Action.pivots, hpc]
  case unregister client =>
    cases hremove : removeClient env client s.world with
    | none =>
      rw [hremove, Option.some.injEq] at hstep
      rw [removePivots_of_none env hremove, ← hstep, Runs.exec_nil]
    | some w =>
      rw [hremove, Option.some.injEq] at hstep
      rw [← hstep]
      exact exec_removeClient h env files hremove
  case reload =>
    subst hstep
    exact exec_reloadConfigInternal files env
  case reapplyCorePinning =>
    subst hstep
    rw [Runs.exec_nil]
    simp only [reapplyCorePinningInternal]
    split_ifs <;> rfl
  all_goals
    subst hstep
    rfl

section Steps

variable {files} {s s' : Sys} {a : Action} (h : s.world.Consistent)
  (hstep : step files s a = some s')
include h hstep

theorem exec_pivots_step (ha : a.RestartsRegistered s) :
    Runs.exec (pivotStep files) (Phase.of s.world) (a.pivots s) = some (Phase.of s'.world) := by
  rcases (step_cases hstep).2 with ⟨request, rfl, -, rfl⟩ | ⟨env, rfl, hdbus⟩ | ⟨env, rfl, hreaper⟩
  · rfl
  · refine exec_pivots_dbusStep h (fun hpc hzero => ha hpc ?_) hdbus
    have hrefcount := h.refcount
    exact List.length_eq_zero_iff.1 (by omega)
  · exact exec_pivots_reaperStep h hreaper

/-- The settings after a step, also after a restart that finds no client. -/
theorem settings_step :
    s'.world.settings = (a.pivots s).foldl (applyPivot files) s.world.settings := by
  by_cases ha : a.RestartsRegistered s
  · exact exec_pivotStep_settings files (exec_pivots_step h hstep ha)
  · cases a with
    | receive request => exact absurd trivial ha
    | reaper env => exact absurd trivial ha
    | dbus env =>
      simp only [Action.RestartsRegistered, Classical.not_imp] at ha
      rcases (step_cases hstep).2 with ⟨request, hreceive, -⟩ | ⟨env', henv, hdbus⟩ |
        ⟨env', henv, -⟩
      · cases hreceive
      · cases henv
        simp only [dbusStep, ha.1, Option.some.injEq] at hdbus
        simp only [Action.pivots, ha.1, ← hdbus]
        rfl
      · cases henv

end Steps

/-! ### Runs -/

/-- The two threads refine the pivots on the settings. -/
theorem refines_settings :
    Runs.Refines (step files) (settingsStep files) (fun s => s.world.settings)
      (fun s a => a.pivots s) Sys.RegistryInvariant fun _ _ => True where
  invariant s a s' h _ hstep := registryInvariant_step s a s' h hstep
  simulates s a s' h _ hstep := by
    rw [exec_settingsStep, settings_step h.consistent hstep]

/-- The two threads refine the pivots that alternate, as long as every restart finds a client. -/
theorem refines_pivots :
    Runs.Refines (step files) (pivotStep files) (fun s => Phase.of s.world)
      (fun s a => a.pivots s) Sys.RegistryInvariant fun s a => a.RestartsRegistered s where
  invariant s a s' h _ hstep := registryInvariant_step s a s' h hstep
  simulates _ _ _ h ha hstep := exec_pivots_step h.consistent hstep ha

/-- The system when the daemon starts. -/
def startSys (allocated : Finset ℕ) (config : Config) (system : OriginalSystem) : Sys :=
  Sys.start (contextInit files allocated config system)

theorem registryInvariant_startSys (allocated : Finset ℕ) (config : Config)
    (system : OriginalSystem) : (startSys files allocated config system).RegistryInvariant :=
  ⟨consistent_contextInit files allocated config system, nofun, rfl⟩

/-- A game that is registered and removed on the bus, with every command succeeding. -/
def gameComesAndGoes (config : Config) : List Action :=
  [.receive (.call ⟨.register, 5, 5⟩)] ++ List.replicate 7 (.dbus (.succeeding config)) ++
    [.receive (.call ⟨.unregister, 5, 5⟩)] ++ List.replicate 3 (.dbus (.succeeding config))

/-- **Interleavings.** After a run of the two threads, in whatever order their steps came, the
settings are those after the pivots of the run. These alternate between entering and leaving if
every restart of the run found a client, and then they end in the phase of the context: game mode is
active just when there are clients. -/
theorem interleaving_refines_pivots (allocated : Finset ℕ) (config : Config)
    (system : OriginalSystem) {actions : List Action} {s : Sys}
    (hexec : Runs.exec (step files) (startSys files allocated config system) actions = some s) :
    s.world.settings =
        (threadPivots files (startSys files allocated config system) actions).foldl
          (applyPivot files) (contextInit files allocated config system).settings ∧
      (Runs.StepsAlong (step files) (startSys files allocated config system) actions
          (fun s a => a.RestartsRegistered s) →
        Runs.exec (pivotStep files) (startPhase files allocated config system)
            (threadPivots files (startSys files allocated config system) actions) =
          some (Phase.of s.world)) := by
  have hstart := registryInvariant_startSys files allocated config system
  constructor
  · have hsettings := (refines_settings files).exec hstart
      (Runs.StepsAlong.of_forall_mem fun _ _ _ => trivial) hexec
    rw [exec_settingsStep, Option.some_inj] at hsettings
    exact hsettings.symm
  · exact fun hrestarts => (refines_pivots files).exec hstart hrestarts hexec

/-- The pivots of a game that comes and goes. -/
theorem interleaving_of_one_game :
    let start := startSys .unreadable ∅ Config.initial
      (.plain "powersave".toList "balanced".toList ∅ [])
    ∃ s, Runs.exec (step .unreadable) start (gameComesAndGoes Config.initial) = some s ∧
      s.world.settings =
        [.enter .succeeding, .leave .succeeding].foldl (applyPivot .unreadable)
          start.world.settings := by
  refine ⟨_, rfl, ?_⟩
  exact (@interleaving_refines_pivots .unreadable ∅ Config.initial
    (.plain "powersave".toList "balanced".toList ∅ []) (gameComesAndGoes Config.initial) _ rfl).1

/-! ### Governor and profile -/

section Restore

variable {governor profile : SettingName} (hgovernor : governor.name.length < modeSize)
  (hprofile : profile.name.length < modeSize)
include hgovernor hprofile

theorem World.Kept.applyPivot {settings : World} (h : settings.Kept governor profile) {p : Pivot}
    (hreread : ∀ env, p = .reread env → env.reloaded.RestoresSaved) :
    (applyPivot files settings p).Kept governor profile := by
  obtain ⟨active, t, hstep, hsettings⟩ := exists_pivotStep files settings p
  rw [← hsettings]
  exact h.pivotStep (s := ⟨active, settings⟩) files hgovernor hprofile hreread hstep

/-- **Governor and profile are restorable in every interleaving.** In every state that a run of the
two threads reaches, also through restarts that find no client, both values are the ones of the
start while they are in the default mode, the ones of the start are saved in any other mode, and
leaving game mode with two commands that succeed restores both. -/
theorem restorable_interleaved {system : OriginalSystem} {config : Config} (allocated : Finset ℕ)
    (hgovernors : AllGovernors governor.name system.governors)
    (hprof : system.profile = some profile.name) (hconfig : config.RestoresSaved)
    {actions : List Action}
    (hactions : ∀ a ∈ actions, ∀ env ∈ a.env, env.reloaded.RestoresSaved) :
    Runs.Along (step files) (startSys files allocated config system) actions fun s =>
      (s.world.governor.current = .default →
          AllGovernors governor.name s.world.governor.system) ∧
        (s.world.governor.current ≠ .default → s.world.governor.saved = governor.name) ∧
        (s.world.profile.current = .default → s.world.profile.system = some profile.name) ∧
        (s.world.profile.current ≠ .default → s.world.profile.saved = profile.name) ∧
        ∀ o : Outcomes, o.governorSet = true → o.profileSet = true →
          (contextLeave o s.world).IsRestored governor profile := by
  have hkept : Runs.Along (step files) (startSys files allocated config system) actions
      fun s => s.world.settings.Kept governor profile := by
    refine (refines_settings files).along (J := fun w => w.Kept governor profile)
      (H := fun _ p => ∀ env, p = .reread env → env.reloaded.RestoresSaved)
      (registryInvariant_startSys files allocated config system)
      (Runs.StepsAlong.of_forall_mem fun _ _ _ => trivial) ?_ ?_ ?_
    · intro w p w' hw hp hstep
      rw [settingsStep, Option.some_inj] at hstep
      exact hstep ▸ hw.applyPivot files hgovernor hprofile hp
    · exact (World.Kept.init files allocated hconfig hgovernors hprof).congr rfl rfl rfl
    · refine Runs.StepsAlong.of_forall_mem fun p hp _ env henv => ?_
      obtain ⟨a, ha, t, hmem⟩ := Runs.mem_expandRun hp
      exact hactions a ha env (reloaded_of_mem_pivots (henv ▸ hmem))
  intro before hbefore s hexec
  have hs := hkept before hbefore s hexec
  refine ⟨hs.governor.restorable.system_of_eq, hs.governor.restorable.saved_of_ne,
    hs.profile.restorable.system_of_eq, hs.profile.restorable.saved_of_ne, fun o hg hp => ?_⟩
  have hworld : s.world.Kept governor profile := hs.congr rfl rfl rfl
  exact hworld.isRestored_contextLeave hg hp

end Restore

/-- The governor after a game that comes and goes. -/
theorem restorable_interleaved_of_one_game :
    ∃ s, Runs.exec (step .unreadable)
        (startSys .unreadable ∅ Config.initial
          (.plain "powersave".toList "balanced".toList ∅ [])) (gameComesAndGoes Config.initial) =
          some s ∧
      AllGovernors "powersave".toList s.world.governor.system := by
  have h := @restorable_interleaved .unreadable ⟨"powersave".toList, by decide, by decide⟩
    ⟨"balanced".toList, by decide, by decide⟩ (by decide) (by decide)
    (.plain "powersave".toList "balanced".toList ∅ []) Config.initial ∅
    ⟨by decide, by decide⟩ rfl ⟨rfl, rfl⟩ (gameComesAndGoes Config.initial)
    (by
      intro a ha env henv
      simp only [gameComesAndGoes, List.mem_append, List.mem_singleton, List.mem_replicate] at ha
      rcases ha with ((rfl | ⟨-, rfl⟩) | rfl) | ⟨-, rfl⟩ <;> cases henv <;> exact ⟨rfl, rfl⟩)
  exact ⟨_, rfl, (h.exec rfl).1 rfl⟩

/-! ### The settings of the GPU -/

instance (s : Sys) : (a : Action) → Decidable (a.RestartsRegistered s)
  | .receive _ | .reaper _ => isTrue trivial
  | .dbus _ => inferInstanceAs (Decidable (s.dbus = .restart → s.world.clients ≠ []))

/-- The pivots of a step: none, those of a single pivot, those of a restart, or those of a reload
while game mode is active. -/
theorem Action.pivots_cases (s : Sys) (a : Action) :
    a.pivots s = [] ∨ ∃ env ∈ a.env, a.pivots s = [.enter env.enter] ∨
      a.pivots s = [.leave env.leave] ∨ a.pivots s = [.energy env] ∨ a.pivots s = [.reread env] ∨
      a.pivots s = [.leave env.leave, .enter env.enter] ∨
      a.pivots s = [.leave env.leave, .reread env, .enter env.enter] := by
  have hremove : ∀ env client, removePivots env client s.world = [] ∨
      removePivots env client s.world = [.leave env.leave] := by
    intro env client
    rw [removePivots]
    split_ifs <;> simp
  have hreload : ∀ env, reloadPivots env s.world = [.reread env] ∨
      reloadPivots env s.world = [.leave env.leave, .reread env, .enter env.enter] := by
    intro env
    rw [reloadPivots]
    split_ifs <;> simp
  cases a with
  | receive request => exact Or.inl rfl
  | dbus env =>
    simp only [Action.pivots, Action.env, Option.mem_def, Option.some.injEq, exists_eq_left']
    split
    · split_ifs <;> simp
    · rcases hremove env _ with heq | heq <;> rw [heq] <;> simp
    · simp
    · rcases hreload env with heq | heq <;> rw [heq] <;> simp
    · simp
  | reaper env =>
    simp only [Action.pivots, Action.env, Option.mem_def, Option.some.injEq, exists_eq_left']
    split
    · simp
    · rcases hremove env _ with heq | heq <;> rw [heq] <;> simp
    · rcases hreload env with heq | heq <;> rw [heq] <;> simp
    · simp

/-- A step that removes the last client leaves game mode, and does nothing else. -/
theorem Action.pivots_of_last {s : Sys} {a : Action} {settings settings' : World}
    (hexec : Runs.exec (pivotStep files) ⟨true, settings⟩ (a.pivots s) =
      some ⟨false, settings'⟩) : ∃ env ∈ a.env, a.pivots s = [.leave env.leave] := by
  rcases a.pivots_cases s with heq | ⟨env, henv, heq | heq | heq | heq | heq | heq⟩
  · rw [heq] at hexec
    simp at hexec
  · rw [heq] at hexec
    simp [pivotStep] at hexec
  · exact ⟨env, henv, heq⟩
  · rw [heq] at hexec
    simp [pivotStep] at hexec
  · rw [heq] at hexec
    simp [pivotStep] at hexec
  · rw [heq] at hexec
    simp [pivotStep] at hexec
  · rw [heq] at hexec
    simp [pivotStep] at hexec

/-- A step of one of the threads that removes the last game puts the GPU settings back if its set
command succeeds. -/
def GpuPutBackByThread (original : GpuSystem) (s : Sys) (a : Action) : Prop :=
  s.world.refcount ≠ 0 → (∀ env ∈ a.env, env.leave.gpuSet = true) →
    ∀ s', step files s a = some s' → s'.world.refcount = 0 → s'.world.gpu = original

/-- **The GPU is put back in every interleaving.** When the settings of the card can be changed and
put back, every step of a run of the two threads that removes the last game puts them back if its
set command succeeds, provided that every restart finds a client and no entering is disturbed. -/
theorem gpuPutBack_interleaved {allocated : Finset ℕ} {config : Config} {system : OriginalSystem}
    {target : GameModeGPUInfo}
    (htarget : (initialiseGpu system.gpu.vendorFile config).2 = some target)
    (hreversible : target.Reversible system.gpu) {actions : List Action}
    (hrestarts : Runs.StepsAlong (step files) (startSys files allocated config system) actions
      fun s a => a.RestartsRegistered s)
    (hundisturbed : Runs.StepsAlong (pivotStep files) (startPhase files allocated config system)
      (threadPivots files (startSys files allocated config system) actions)
      (GpuUndisturbed system.gpu)) :
    Runs.StepsAlong (step files) (startSys files allocated config system) actions
      (GpuPutBackByThread files system.gpu) := by
  have hlevel := (initialiseGpu_spec htarget).2.2
  have hstart : (startPhase files allocated config system).GpuKept target system.gpu :=
    ⟨htarget, ⟨false, (applyGpu_false _ _).symm⟩, target, htarget, .refl target,
      fun hactive => absurd hactive (by simp [startPhase, Phase.of, contextInit])⟩
  have hregistry := registryInvariant_startSys files allocated config system
  have hput : Runs.StepsAlong (pivotStep files) (startPhase files allocated config system)
      (threadPivots files (startSys files allocated config system) actions)
      (GpuPutBack files system.gpu) :=
    Runs.StepsAlong.of_invariant
      (fun _ _ _ hs hG hstep => hs.pivotStep files hreversible hlevel hG hstep)
      (fun _ p hs _ => hs.putBack files hreversible hlevel p) hstart hundisturbed
  have hsteps := (refines_pivots files).stepsAlong hregistry hrestarts hput
  intro bs a hb s hexec hcount hset s' hstep hlast
  have hs : s.RegistryInvariant := Runs.exec_invariant registryInvariant_step hregistry hexec
  have hpivots := exec_pivots_step hs.consistent hstep (hrestarts bs a hb s hexec)
  have hguard := hsteps bs a hb s hexec
  rw [Phase.of_eq_active hcount, Phase.of_eq_inactive hlast] at hpivots
  rw [Phase.of_eq_active hcount] at hguard
  obtain ⟨env, henv, heq⟩ := Action.pivots_of_last files hpivots
  rw [heq, Runs.exec_cons, Option.bind_eq_some_iff] at hpivots
  rw [heq] at hguard
  obtain ⟨t, hleave, ht⟩ := hpivots
  have hgpu := (Runs.stepsAlong_cons_iff.1 hguard).1 env.leave rfl (hset env henv) t hleave
  rw [Runs.exec_nil, Option.some_inj] at ht
  rw [ht] at hgpu
  exact hgpu

private def configWithLevel : Config :=
  { Config.initial with
    string := fun option =>
      match option with
      | .applyGpuOptimisations => "accept-responsibility".toList
      | .amdPerformanceLevel => "high".toList
      | option => Config.initial.string option
    long := fun option => if option = .gpuDevice then 0 else Config.initial.long option }

private def systemWithAmd : OriginalSystem :=
  { OriginalSystem.plain "powersave".toList "balanced".toList ∅ [] with
    gpu := ⟨fun device => if device = 0 then some GPUVendor.amd.id else none, fun _ => -1,
      fun _ _ => 0, fun _ => "auto".toList⟩ }

/-- The performance level after a game that comes and goes. -/
theorem gpuPutBack_interleaved_of_one_game :
    Runs.StepsAlong (step .unreadable) (startSys .unreadable ∅ configWithLevel systemWithAmd)
      (gameComesAndGoes configWithLevel)
      (GpuPutBackByThread .unreadable systemWithAmd.gpu) := by
  refine gpuPutBack_interleaved .unreadable rfl ⟨?_, ?_, ?_⟩ ?_ ?_
  · intro hvendor
    cases hvendor
  · intro device _
    have hlevel : "auto".toList ≠ [] ∧ '\n' ∉ "auto".toList ∧
        "auto".toList.length + 1 < configValueMax := by decide
    exact hlevel
  · intro device _ hvendor
    cases hvendor
  · decide
  · change Runs.StepsAlong _ _ [Pivot.enter .succeeding, .leave .succeeding] _
    rw [Runs.stepsAlong_cons_iff]
    refine ⟨fun o ho => ?_, fun s _ => ?_⟩
    · cases ho
      rfl
    · rw [Runs.stepsAlong_cons_iff]
      exact ⟨fun o ho => absurd ho (by simp), fun _ _ => Runs.stepsAlong_nil _ _⟩

end GameMode
