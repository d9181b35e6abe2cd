import GameMode.Daemon.Refresh
import GameMode.Library.Locks

/-!
# The locks of the daemon

The two threads of the daemon share a read-write lock of the context, a read-write lock of the
configuration, and a mutex for the condition that wakes up the reaper. A function that reads a value
of the configuration takes the second lock for a moment. Most of the time this happens within a
section of the context, but the checks of a request read the configuration on their own.

Three places are out of the ordinary. A registration holds the lock of the context for reading when
it calls `game_mode_context_has_client`, which takes it for reading once more. A restart leaves and
enters game mode while it holds the lock of the context for reading only. And a reload destroys the
lock of the configuration and initialises it again.

## Main definitions

* `DaemonThread`, `DaemonLock`, `dbusBlock`, `reaperBlock`: what the threads do with the locks
  around their steps.
* `LockedSys`, `lockStep`: the threads of the daemon with their locks.

## Main results

* `lockStep_refines`: with its locks the daemon takes no other steps than before.
* `threadsProceed_iff`: the threads never wait for each other if and only if readers are let in.
* `section_isolated`: within a section the other thread leaves the context as it is.
* `lockDestroyed_iff`: when the lock of the configuration is destroyed while it is held.

Source: `daemon/gamemode-context.c`, `daemon/gamemode-config.c`.
-/

namespace GameMode

open Locks

/-! ### What the threads do with the locks -/

/-- The threads of the daemon. -/
inductive DaemonThread
  | dbus
  | reaper
  deriving DecidableEq

instance : Fintype DaemonThread := ⟨{.dbus, .reaper}, fun t => by cases t <;> decide⟩

/-- The locks of the daemon: `reaper.mutex`, and the locks of the context and of the
configuration. -/
inductive DaemonLock
  | reaperMutex
  | context
  | config
  deriving DecidableEq

instance : Fintype DaemonLock :=
  ⟨{.reaperMutex, .context, .config}, fun l => by cases l <;> decide⟩

/-- The order of the locks. -/
def DaemonLock.rank : DaemonLock → ℕ
  | reaperMutex => 0
  | context => 1
  | config => 2

/-- A place in a thread, with the operations on the locks around it. -/
abbrev DaemonBlock := Block DaemonLock.rank

/-- No lock is held. -/
def noLocks : DaemonLock → Mode := fun _ => .reading 0

/-- A step outside of all locks. -/
def unlocked : DaemonBlock where
  before := []
  held := noLocks
  after := []

/-- A section that reads the configuration: `config_get_require_supervisor` and its like, and
`config_needs_reload`. -/
def configRead : DaemonBlock where
  before := [.rdlock .config]
  held := Function.update noLocks .config (.reading 1)
  after := [.unlock .config]

/-- A section that reads the context. -/
def contextRead : DaemonBlock where
  before := [.rdlock .context]
  held := Function.update noLocks .context (.reading 1)
  after := [.unlock .context]

/-- A section that writes the context; the functions that it calls read values of the
configuration. -/
def contextWrite : DaemonBlock where
  before := [.wrlock .context, .reads .config]
  held := Function.update noLocks .context .writing
  after := [.unlock .context]

/-- The first section of a registration: `game_mode_context_has_client` is called within a section
that reads the context, and is such a section itself. -/
def hasClientSections : DaemonBlock where
  before := [.rdlock .context, .rdlock .context]
  held := Function.update noLocks .context (.reading 2)
  after := [.unlock .context, .unlock .context]

/-- The section of `game_mode_context_restart`, which leaves and enters game mode. -/
def restartSections : DaemonBlock where
  before := [.rdlock .context, .reads .config]
  held := Function.update noLocks .context (.reading 1)
  after := [.unlock .context]

/-- `game_mode_reload_config_internal`: `config_reload` destroys the lock of the configuration and
initialises it again, and `load_config_files` writes the configuration. -/
def reloadSections : DaemonBlock where
  before := [.wrlock .context, .reads .config, .renew .config, .wrlock .config]
  held := Function.update (Function.update noLocks .context .writing) .config .writing
  after := [.unlock .config, .reads .config, .unlock .context]

/-- `config_get_reaper_frequency`, which the reaper calls when it starts and after a reload. -/
def readFrequency : List (Op DaemonLock) := [.rdlock .config, .unlock .config]

/-- The reload of the reaper, which then reads how often it should run. -/
def reaperReload : DaemonBlock where
  before := reloadSections.before
  held := reloadSections.held
  after := reloadSections.after ++ readFrequency

/-- The end of the reaper is signalled under the mutex, after `reaper.running` was set. -/
def signalReaper : DaemonBlock where
  before := []
  held := noLocks
  after := [.wrlock .reaperMutex, .unlock .reaperMutex]

/-- `end_reaper_thread` destroys the mutex once the reaper was joined, and `start_reaper_thread`
initialises it. -/
def renewMutex : DaemonBlock where
  before := [.renew .reaperMutex]
  held := noLocks
  after := []

/-- `pthread_cond_timedwait` releases the mutex, and takes it again when the condition is signalled
or the time is over. -/
def timedWait : DaemonBlock where
  before := [.wrlock .reaperMutex, .unlock .reaperMutex, .wrlock .reaperMutex, .unlock .reaperMutex]
  held := noLocks
  after := []

/-- What the D-Bus thread does with the locks around a step. -/
def dbusBlock : DbusPc → DaemonBlock
  | .check call =>
    match call.operation with
    | .register | .unregister => if call.requester ≠ call.client then unlocked else configRead
    | .queryStatus | .restart => unlocked
  | .supervisorWhitelist _ _ | .supervisorBlacklist _ _ | .clientWhitelist _ _ _
  | .clientBlacklist _ _ _ => configRead
  | .hasClient _ _ => hasClientSections
  | .insert _ | .unregister _ => contextWrite
  | .queryList _ | .listClients => contextRead
  | .restart => restartSections
  | .endReaper => signalReaper
  | .reload => reloadSections
  | .startReaper => renewMutex
  | .idle | .findClient _ _ | .signalRegistered _ | .signalUnregistered _ | .queryRefcount _
  | .restartRefcount | .numClients | .joinReaper => unlocked

/-- What the reaper does with the locks around a step. -/
def reaperBlock : ReaperPc → DaemonBlock
  | .wait => timedWait
  | .checkIgpu | .unregister _ | .reapplyCorePinning => contextWrite
  | .pick => contextRead
  | .check _ | .needsReload => configRead
  | .reload => reaperReload
  | .loop | .signalUnregistered _ | .exited => unlocked

/-! ### The daemon with its locks -/

/-- The daemon with its locks. -/
structure LockedSys where
  /-- The daemon. -/
  sys : Sys
  /-- The operations that the threads have still to do, and the locks. -/
  threads : Threads DaemonThread DaemonLock
  /-- A lock was used outside of its specification. -/
  undefined : Bool

/-- The daemon when the context has been initialised. -/
def LockedSys.start (s : Sys) : LockedSys where
  sys := s
  threads :=
    { todo := fun t =>
        match t with
        | .dbus => (dbusBlock s.dbus).ops
        | .reaper => readFrequency ++ (reaperBlock s.reaper).ops
      locks := fun _ => .free }
  undefined := false

/-- A step of the daemon with its locks: the bus delivers a request, a thread goes on, or it reads
one more value of the configuration. -/
inductive LockAction
  | receive (request : BusRequest)
  | run (t : DaemonThread) (env : Env)
  | getter (t : DaemonThread)

/-- The thread that takes the step. -/
def LockAction.thread : LockAction → DaemonThread
  | receive _ => .dbus
  | run t _ | getter t => t

variable (files : CpuSysfs)

/-- A step of a thread itself; `rest` is left of the operations of its last place. The D-Bus thread
starts the reaper. -/
def actStep (t : DaemonThread) (env : Env) (rest : List (Op DaemonLock)) (s : LockedSys) :
    Option LockedSys :=
  match t with
  | .dbus =>
    (dbusStep files env s.sys).map fun s' =>
      let threads := s.threads.goto .dbus (rest ++ (dbusBlock s'.dbus).ops)
      { s with
        sys := s'
        threads :=
          if s.sys.dbus = .startReaper then
            threads.goto .reaper (readFrequency ++ (reaperBlock s'.reaper).ops)
          else threads }
  | .reaper =>
    (reaperStep files env s.sys).map fun s' =>
      { s with
        sys := s'
        threads := s.threads.goto .reaper (rest ++ (reaperBlock s'.reaper).ops) }

/-- The next operation of a thread. -/
def runStep (pref : Preference) (t : DaemonThread) (env : Env) (s : LockedSys) : Option LockedSys :=
  match s.threads.todo t with
  | .act :: rest => actStep files t env rest s
  | _ =>
    match s.threads.step pref t with
    | .blocked => none
    | .undefined => some { s with undefined := true }
    | .done threads => some { s with threads := threads }

/-- The step function. The D-Bus thread takes a request when it has finished the last one, and
nothing is said about what happens after a lock was used outside of its specification. -/
def lockStep (pref : Preference) (s : LockedSys) (a : LockAction) : Option LockedSys :=
  if s.sys.aborted ∨ s.undefined then none
  else
    match a with
    | .receive request =>
      if s.sys.dbus = .idle ∧ s.threads.todo .dbus = [.act] then
        some { s with
          sys := { s.sys with dbus := request.start }
          threads := s.threads.goto .dbus (dbusBlock request.start).ops }
      else none
    | .run t env => runStep files pref t env s
    | .getter t => (s.threads.again t).map fun threads => { s with threads := threads }

variable {files} {pref : Preference}

/-- A thread takes a step itself, or it does something with the locks. -/
theorem runStep_cases {t : DaemonThread} {env : Env} {s s' : LockedSys}
    (h : runStep files pref t env s = some s') :
    (∃ rest, s.threads.todo t = .act :: rest ∧ actStep files t env rest s = some s') ∨
      (s.threads.todo t).head? ≠ some .act ∧
        (s.threads.step pref t = .undefined ∧ s' = { s with undefined := true } ∨
          ∃ threads, s.threads.step pref t = .done threads ∧
            s' = { s with threads := threads }) := by
  unfold runStep at h
  split at h
  · rename_i rest htodo
    exact Or.inl ⟨rest, htodo, h⟩
  · rename_i hnot
    have hhead : (s.threads.todo t).head? ≠ some .act := by
      intro hact
      obtain ⟨rest, hrest⟩ := List.head?_eq_some_iff.1 hact
      exact hnot rest hrest
    refine Or.inr ⟨hhead, ?_⟩
    split at h
    · cases h
    · rename_i hundefined
      exact Or.inl ⟨hundefined, (Option.some.inj h).symm⟩
    · rename_i threads hdone
      exact Or.inr ⟨threads, hdone, (Option.some.inj h).symm⟩

/-- What a step is. -/
theorem lockStep_cases {s s' : LockedSys} {a : LockAction}
    (h : lockStep files pref s a = some s') :
    (s.sys.aborted = false ∧ s.undefined = false) ∧
      ((∃ request, a = .receive request ∧ s.sys.dbus = .idle ∧ s.threads.todo .dbus = [.act] ∧
          s' = { s with
            sys := { s.sys with dbus := request.start }
            threads := s.threads.goto .dbus (dbusBlock request.start).ops }) ∨
        (∃ t threads, a = .getter t ∧ s.threads.again t = some threads ∧
          s' = { s with threads := threads }) ∨
        ∃ t env, a = .run t env ∧ runStep files pref t env s = some s') := by
  unfold lockStep at h
  rw [Option.ite_none_left_eq_some, not_or, Bool.not_eq_true, Bool.not_eq_true] at h
  refine ⟨h.1, ?_⟩
  cases a with
  | receive request =>
    obtain ⟨⟨hidle, htodo⟩, hnext⟩ := Option.ite_none_right_eq_some.1 h.2
    exact Or.inl ⟨request, rfl, hidle, htodo, (Option.some_inj.1 hnext).symm⟩
  | getter t =>
    obtain ⟨threads, hagain, hnext⟩ := Option.map_eq_some_iff.1 h.2
    exact Or.inr (Or.inl ⟨t, threads, rfl, hagain, hnext.symm⟩)
  | run t env => exact Or.inr (Or.inr ⟨t, env, rfl, h.2⟩)

/-! ### The daemon of before -/

/-- The step of the daemon that a step with its locks stands for, if any. -/
def LockAction.expand (s : LockedSys) : LockAction → List Action
  | .receive request => [.receive request]
  | .run t env =>
    if (s.threads.todo t).head? = some .act then
      match t with
      | .dbus => [.dbus env]
      | .reaper => [.reaper env]
    else []
  | .getter _ => []

theorem sys_actStep {t : DaemonThread} {env : Env} {rest : List (Op DaemonLock)}
    {s s' : LockedSys} (h : actStep files t env rest s = some s') :
    match t with
    | .dbus => dbusStep files env s.sys = some s'.sys
    | .reaper => reaperStep files env s.sys = some s'.sys := by
  cases t <;> simp only [actStep, Option.map_eq_some_iff] at h <;>
    (obtain ⟨next, hnext, rfl⟩ := h; exact hnext)

/-- **Refinement.** With its locks the daemon takes no other steps than without them. -/
theorem lockStep_refines :
    Runs.Refines (lockStep files pref) (step files) LockedSys.sys (fun s a => a.expand s)
      (fun _ => True) fun _ _ => True := by
  refine ⟨fun _ _ _ _ _ _ => trivial, fun s a s' _ _ h => ?_⟩
  obtain ⟨⟨haborted, -⟩, hcases⟩ := lockStep_cases h
  rcases hcases with ⟨request, rfl, hidle, -, rfl⟩ | ⟨t, threads, rfl, -, rfl⟩ | ⟨t, env, rfl, hrun⟩
  · simp [LockAction.expand, step, haborted, hidle]
  · rfl
  · rcases runStep_cases hrun with ⟨rest, htodo, hact⟩ | ⟨hhead, ⟨-, rfl⟩ | ⟨threads, -, rfl⟩⟩
    · have hsys := sys_actStep hact
      cases t <;> simpa [LockAction.expand, htodo, step, haborted] using hsys
    · simp [LockAction.expand, hhead]
    · simp [LockAction.expand, hhead]

/-! ### The discipline of the threads -/

/-- Before its first place the reaper reads how often it should run. -/
def reaperStart : DaemonBlock where
  before := []
  held := noLocks
  after := readFrequency

/-- Both threads keep to the operations of their places, and a reaper that has ended has nothing
left to do. -/
structure LockedSys.Disciplined (s : LockedSys) : Prop where
  handover : s.sys.Handover
  dbus : s.threads.At .dbus (dbusBlock s.sys.dbus)
  reaper : s.threads.At .reaper (reaperBlock s.sys.reaper)
  exited : s.sys.reaper = .exited → s.threads.todo .reaper = [.act]

/-- The reaper holds nothing when it ends. -/
theorem after_of_exited {env : Env} {s s' : Sys} (h : reaperStep files env s = some s')
    (hexited : s'.reaper = .exited) : (reaperBlock s.reaper).after = [] := by
  cases hpc : s.reaper <;> simp only [reaperStep, hpc, reduceCtorEq, Option.some.injEq] at h
  case loop | wait => rfl
  case unregister client =>
    split at h <;> (cases h; cases hexited)
  case pick =>
    subst h
    simp only at hexited
    split at hexited <;> cases hexited
  case check client | needsReload =>
    subst h
    simp only at hexited
    split_ifs at hexited
  all_goals
    subst h
    cases hexited

theorem reaper_dbusStep {env : Env} {s s' : Sys} (h : dbusStep files env s = some s')
    (hpc : s.dbus ≠ .startReaper) : s'.reaper = s.reaper := by
  rcases dbusStep_handover h with ⟨-, -, -, hr⟩ | ⟨-, -, -, hr⟩ | ⟨-, -, rfl⟩ | ⟨-, -, -, hr⟩ |
    ⟨hstart, -⟩
  · exact hr
  · exact hr
  · rfl
  · exact hr
  · exact absurd hstart hpc

theorem disciplined_actStep_dbus {env : Env} {rest : List (Op DaemonLock)} {s s' : LockedSys}
    (hs : s.Disciplined) (hhandover : s'.sys.Handover) (htodo : s.threads.todo .dbus = .act :: rest)
    (h : actStep files .dbus env rest s = some s') : s'.Disciplined := by
  obtain ⟨hrest, hmode⟩ := hs.dbus.of_act htodo
  simp only [actStep, Option.map_eq_some_iff] at h
  obtain ⟨next, hnext, rfl⟩ := h
  by_cases hstart : s.sys.dbus = .startReaper
  · -- The reaper has ended, and a new one is started.
    have hexited : s.sys.reaper = .exited :=
      hs.handover.exited_of_joined (by rw [hstart]; rfl)
    have hfree : s.threads.mode .reaper = noLocks := by
      have hreaper := hs.reaper
      rw [hexited] at hreaper
      exact (hreaper.of_act (hs.exited hexited)).2
    simp only [hstart, if_true]
    refine ⟨hhandover, Threads.at_of_after (b := dbusBlock s.sys.dbus) ?_ hmode,
      Threads.at_of_after (b := reaperStart) ?_ hfree, fun hended => ?_⟩
    · rw [← hrest]
      rfl
    · rfl
    · have hloop : next.reaper = .loop := by
        rw [dbusStep, hstart, Option.some.injEq] at hnext
        exact hnext ▸ rfl
      rw [hloop] at hended
      cases hended
  · have hreaper : next.reaper = s.sys.reaper := reaper_dbusStep hnext hstart
    simp only [hstart, if_false]
    refine ⟨hhandover, Threads.at_of_after (b := dbusBlock s.sys.dbus) ?_ hmode, ?_,
      fun hended => ?_⟩
    · rw [← hrest]
      rfl
    · rw [hreaper]
      exact hs.reaper.congr rfl rfl
    · exact hs.exited (hreaper ▸ hended)

theorem disciplined_actStep_reaper {env : Env} {rest : List (Op DaemonLock)} {s s' : LockedSys}
    (hs : s.Disciplined) (hhandover : s'.sys.Handover)
    (htodo : s.threads.todo .reaper = .act :: rest)
    (h : actStep files .reaper env rest s = some s') : s'.Disciplined := by
  obtain ⟨hrest, hmode⟩ := hs.reaper.of_act htodo
  simp only [actStep, Option.map_eq_some_iff] at h
  obtain ⟨next, hnext, rfl⟩ := h
  refine ⟨hhandover, ?_, Threads.at_of_after (b := reaperBlock s.sys.reaper) ?_ hmode,
    fun hended => ?_⟩
  · rw [(reaperStep_frame hnext).1]
    exact hs.dbus.congr rfl rfl
  · rw [← hrest]
    rfl
  · show rest ++ (reaperBlock next.reaper).ops = [.act]
    rw [hrest, after_of_exited hnext hended, show next.reaper = .exited from hended]
    rfl

/-- **The discipline.** Every step keeps it. -/
theorem disciplined_lockStep {s s' : LockedSys} {a : LockAction} (hs : s.Disciplined)
    (h : lockStep files pref s a = some s') : s'.Disciplined := by
  have hhandover : s'.sys.Handover :=
    Runs.exec_invariant handover_step hs.handover
      (lockStep_refines.simulates s a s' trivial trivial h)
  rcases (lockStep_cases h).2 with ⟨request, rfl, hidle, htodo, rfl⟩ |
    ⟨t, threads, rfl, hagain, rfl⟩ | ⟨t, env, rfl, hrun⟩
  · have hdbus := hs.dbus
    rw [hidle] at hdbus
    obtain ⟨hafter, hmode⟩ := hdbus.of_act htodo
    refine ⟨hhandover, Threads.at_of_after (b := unlocked) ?_ hmode, hs.reaper.congr rfl rfl,
      hs.exited⟩
    rfl
  · cases t with
    | dbus =>
      obtain ⟨hat, hframe⟩ := hs.dbus.again hagain
      obtain ⟨htodo, hmode⟩ := hframe .reaper (by decide)
      exact ⟨hhandover, hat, hs.reaper.congr htodo hmode, fun hended => htodo ▸ hs.exited hended⟩
    | reaper =>
      obtain ⟨hat, hframe⟩ := hs.reaper.again hagain
      obtain ⟨htodo, hmode⟩ := hframe .dbus (by decide)
      refine ⟨hhandover, hs.dbus.congr htodo hmode, hat, fun hended => ?_⟩
      rw [Threads.again, hs.exited hended] at hagain
      cases hagain
  · rcases runStep_cases hrun with ⟨rest, htodo, hact⟩ | ⟨hhead, ⟨-, rfl⟩ | ⟨threads, hdone, rfl⟩⟩
    · cases t with
      | dbus => exact disciplined_actStep_dbus hs hhandover htodo hact
      | reaper => exact disciplined_actStep_reaper hs hhandover htodo hact
    · exact ⟨hhandover, hs.dbus, hs.reaper, hs.exited⟩
    · cases t with
      | dbus =>
        obtain ⟨hat, hframe⟩ := hs.dbus.step hhead hdone
        obtain ⟨htodo, hmode⟩ := hframe .reaper (by decide)
        exact ⟨hhandover, hat, hs.reaper.congr htodo hmode, fun hended => htodo ▸ hs.exited hended⟩
      | reaper =>
        obtain ⟨hat, hframe⟩ := hs.reaper.step hhead hdone
        obtain ⟨htodo, hmode⟩ := hframe .dbus (by decide)
        refine ⟨hhandover, hs.dbus.congr htodo hmode, hat, fun hended => ?_⟩
        exact absurd (by rw [hs.exited hended]; rfl) hhead

theorem disciplined_start (allocated : Finset ℕ) (config : Config) (system : OriginalSystem) :
    (LockedSys.start (startSys files allocated config system)).Disciplined := by
  have hexec : Runs.exec (step files) (startSys files allocated config system) [] =
      some (startSys files allocated config system) := rfl
  refine ⟨handover_of_exec hexec, ?_, ?_, nofun⟩
  · exact Threads.at_of_after (b := unlocked) rfl rfl
  · exact Threads.at_of_after (b := reaperStart) rfl rfl

theorem disciplined_of_exec {allocated : Finset ℕ} {config : Config} {system : OriginalSystem}
    {actions : List LockAction} {s : LockedSys}
    (hexec : Runs.exec (lockStep files pref) (.start (startSys files allocated config system))
      actions = some s) : s.Disciplined :=
  Runs.exec_invariant (fun _ _ _ => disciplined_lockStep)
    (disciplined_start allocated config system) hexec

/-! ### Waiting for each other -/

theorem dbusStep_isSome (env : Env) {s : Sys} (hidle : s.dbus ≠ .idle)
    (hjoin : s.dbus = .joinReaper → s.reaper = .exited) : (dbusStep files env s).isSome = true := by
  cases hpc : s.dbus <;> simp only [dbusStep, hpc]
  case idle => exact absurd hpc hidle
  case joinReaper =>
    rw [if_pos (hjoin hpc)]
    rfl
  case unregister client | listClients => split <;> rfl
  all_goals rfl

/-- A thread that no lock keeps waiting goes on, if it can take its step when it is at it. -/
theorem runStep_isSome {t : DaemonThread} {env : Env} {s : LockedSys}
    (hblocked : s.threads.step pref t ≠ .blocked)
    (hact : ∀ rest, s.threads.todo t = .act :: rest → (actStep files t env rest s).isSome = true) :
    (runStep files pref t env s).isSome = true := by
  unfold runStep
  split
  · rename_i rest htodo
    exact hact rest htodo
  · split
    · rename_i hstep
      exact absurd hstep hblocked
    · rfl
    · rfl

/-- **Progress.** Where readers are let in, one of the threads can always go on. -/
theorem exists_runStep (env : Env) {s : LockedSys} (hs : s.Disciplined) :
    ∃ t, (runStep files .readers t env s).isSome = true := by
  have hat : ∀ u, ∃ b : DaemonBlock, s.threads.At u b := by
    intro u
    cases u with
    | dbus => exact ⟨_, hs.dbus⟩
    | reaper => exact ⟨_, hs.reaper⟩
  have hdbus : s.threads.step .readers .dbus ≠ .blocked →
      (s.threads.todo .dbus = .act :: (dbusBlock s.sys.dbus).after → s.sys.dbus ≠ .idle ∧
        (s.sys.dbus = .joinReaper → s.sys.reaper = .exited)) →
      (runStep files .readers .dbus env s).isSome = true := by
    intro hblocked hplace
    refine runStep_isSome hblocked fun rest htodo => ?_
    obtain ⟨hidle, hjoin⟩ := hplace ((hs.dbus.of_act htodo).1 ▸ htodo)
    rw [actStep, Option.isSome_map]
    exact dbusStep_isSome env hidle hjoin
  by_cases hexited : s.sys.reaper = .exited
  · -- The reaper has ended, and holds no lock.
    have hfree : s.threads.mode .reaper = noLocks := by
      have hreaper := hs.reaper
      rw [hexited] at hreaper
      exact (hreaper.of_act (hs.exited hexited)).2
    have hrefreshing := hs.handover.refreshing_of_exited hexited
    refine ⟨.dbus, hdbus (fun hblocked => ?_) fun _ => ⟨fun hidle => ?_, fun _ => hexited⟩⟩
    · obtain ⟨u, ⟨l, hl⟩, hu⟩ := Threads.exists_proceeds hat hblocked
      cases u with
      | dbus => exact hu hblocked
      | reaper => exact hl (congrFun hfree l)
    · rw [hidle] at hrefreshing
      cases hrefreshing
  · by_cases hblocked : s.threads.step .readers .reaper = .blocked
    · -- The D-Bus thread holds a lock, so that it is in the middle of a request.
      obtain ⟨u, ⟨l, hl⟩, hu⟩ := Threads.exists_proceeds hat hblocked
      cases u with
      | reaper => exact absurd hblocked hu
      | dbus =>
        refine ⟨.dbus, hdbus hu fun htodo => ?_⟩
        have hheld : (dbusBlock s.sys.dbus).held l ≠ .reading 0 :=
          (hs.dbus.of_act htodo).2 ▸ hl
        refine ⟨fun hidle => ?_, fun hjoin => ?_⟩
        · rw [hidle] at hheld
          exact absurd rfl hheld
        · rw [hjoin] at hheld
          exact absurd rfl hheld
    · refine ⟨.reaper, runStep_isSome hblocked fun rest _ => ?_⟩
      rw [actStep, Option.isSome_map]
      exact reaperStep_isSome env hexited

private def ownRequest (env : Env) : List LockAction :=
  .receive (.call ⟨.register, 5, 5⟩) :: List.replicate 4 (.run .dbus env)

private def untilEnergyCheck (env : Env) : List LockAction := List.replicate 11 (.run .reaper env)

/-- Where writers go first, the second read of a registration waits for the reaper, which waits for
the first one. -/
private theorem exists_waiting_writers (env : Env) :
    ∃ s, Runs.exec (lockStep .unreadable .writers)
        (.start (startSys .unreadable ∅ Config.initial
          (.plain "powersave".toList "balanced".toList ∅ [])))
        (ownRequest (.succeeding Config.initial) ++
          untilEnergyCheck (.succeeding Config.initial)) = some s ∧
      s.sys.aborted = false ∧ s.undefined = false ∧
      ∀ t, (lockStep .unreadable .writers s (.run t env)).isSome = false := by
  refine ⟨_, rfl, rfl, rfl, fun t => ?_⟩
  cases t <;> rfl

/-- **Deadlocks.** The two threads never wait for each other, in any run from any start, if and only
if a reader is let in while a writer waits: a registration reads the context within a section in
which it reads the context already. -/
theorem threadsProceed_iff (pref : Preference) :
    (∀ (files : CpuSysfs) (allocated : Finset ℕ) (config : Config) (system : OriginalSystem)
        (actions : List LockAction) (s : LockedSys),
        Runs.exec (lockStep files pref) (.start (startSys files allocated config system)) actions =
            some s → s.sys.aborted = false → s.undefined = false →
          ∀ env, ∃ t, (lockStep files pref s (.run t env)).isSome = true) ↔
      pref = .readers := by
  constructor
  · intro hproceed
    cases pref with
    | readers => rfl
    | writers =>
      let env : Env := .succeeding Config.initial
      obtain ⟨s, hexec, haborted, hundefined, hwait⟩ := exists_waiting_writers env
      obtain ⟨t, ht⟩ := hproceed _ _ _ _ _ s hexec haborted hundefined env
      rw [hwait t] at ht
      cases ht
  · rintro rfl files allocated config system actions s hexec haborted hundefined env
    obtain ⟨t, ht⟩ := @exists_runStep files env s (disciplined_of_exec hexec)
    refine ⟨t, ?_⟩
    simpa [lockStep, haborted, hundefined] using ht

/-! ### Sections -/

/-- The context is as before, but for what was logged. -/
def World.Logs (w w' : World) : Prop := ∃ events, w' = { w with log := w.log ++ events }

theorem World.Logs.refl (w : World) : w.Logs w := ⟨[], by rw [List.append_nil]⟩

theorem World.Logs.say (w : World) (e : Event) : w.Logs (w.say e) := ⟨[e], rfl⟩

theorem World.Logs.trans {w w' w'' : World} (h : w.Logs w') (h' : w'.Logs w'') : w.Logs w'' := by
  obtain ⟨events, rfl⟩ := h
  obtain ⟨events', rfl⟩ := h'
  exact ⟨events ++ events', by rw [List.append_assoc]⟩

theorem logs_proceed (next : DbusNext) (s : Sys) : s.world.Logs (s.proceed next).world := by
  cases next with
  | goto pc => exact .refl _
  | reply result => exact .say _ _

/-- The D-Bus thread changes the context while it writes it, and when it restarts game mode. -/
theorem logs_dbusStep {env : Env} {s s' : Sys} (h : dbusStep files env s = some s')
    (hheld : (dbusBlock s.dbus).held .context ≠ .writing) (hrestart : s.dbus ≠ .restart) :
    s.world.Logs s'.world := by
  cases hpc : s.dbus <;> simp only [dbusStep, hpc, reduceCtorEq, Option.some.injEq] at h
  case insert cl | unregister client | reload =>
    rw [hpc] at hheld
    exact absurd rfl hheld
  case restart => exact absurd hpc hrestart
  case signalRegistered client | signalUnregistered client =>
    subst h
    exact (World.Logs.say s.world _).trans (logs_proceed _ _)
  case listClients =>
    split at h <;> cases h
    · exact .refl _
    · exact .say _ _
  case joinReaper =>
    rw [Option.ite_none_right_eq_some, Option.some.injEq] at h
    exact h.2 ▸ .refl _
  case numClients =>
    subst h
    exact .say _ _
  case endReaper =>
    subst h
    exact .refl _
  case startReaper =>
    subst h
    exact .say _ _
  all_goals
    subst h
    exact logs_proceed _ _

theorem logs_reaperStep {env : Env} {s s' : Sys} (h : reaperStep files env s = some s')
    (hheld : (reaperBlock s.reaper).held .context ≠ .writing) : s.world.Logs s'.world := by
  cases hpc : s.reaper <;> simp only [reaperStep, hpc, reduceCtorEq, Option.some.injEq] at h
  case checkIgpu | unregister client | reapplyCorePinning | reload =>
    rw [hpc] at hheld
    exact absurd rfl hheld
  case signalUnregistered client =>
    subst h
    exact .say _ _
  all_goals
    subst h
    exact .refl _

theorem held_ne_writing {s : LockedSys} {t u : DaemonThread} (hne : t ≠ u)
    (ht : s.threads.mode t .context ≠ .reading 0) : s.threads.mode u .context ≠ .writing :=
  fun hwriting => ht (RwLock.mode_eq_of_writing hwriting hne)

/-- **Sections.** In every run, while a thread holds the lock of the context, a step of the other
thread leaves the context as it is, but for the log. The only exception is a restart, which may come
while the reaper reads the context: the clients and their number stay as they are. -/
theorem section_isolated (pref : Preference) (files : CpuSysfs) (allocated : Finset ℕ)
    (config : Config) (system : OriginalSystem) (actions : List LockAction) :
    Runs.StepsAlong (lockStep files pref) (.start (startSys files allocated config system)) actions
      fun s a => ∀ s', lockStep files pref s a = some s' →
        ∀ t, t ≠ a.thread → s.threads.mode t .context ≠ .reading 0 →
          s.sys.world.Logs s'.sys.world ∨
            t = .reaper ∧ s.threads.mode t .context ≠ .writing ∧ s.sys.dbus = .restart ∧
              s'.sys.world.clients = s.sys.world.clients ∧
              s'.sys.world.refcount = s.sys.world.refcount := by
  intro before a _ s hexec s' hstep t hne ht
  have hs : s.Disciplined := disciplined_of_exec hexec
  rcases (lockStep_cases hstep).2 with ⟨request, rfl, -, -, rfl⟩ | ⟨u, threads, rfl, -, rfl⟩ |
    ⟨u, env, rfl, hrun⟩
  · exact Or.inl (.refl _)
  · exact Or.inl (.refl _)
  rcases runStep_cases hrun with ⟨rest, htodo, hact⟩ | ⟨-, ⟨-, rfl⟩ | ⟨threads, -, rfl⟩⟩
  · have hwriting := held_ne_writing hne ht
    have hsys := sys_actStep hact
    cases u with
    | dbus =>
      have hreaper : t = .reaper := by
        cases t with
        | dbus => exact absurd rfl hne
        | reaper => rfl
      have hmode := (hs.dbus.of_act htodo).2
      by_cases hrestart : s.sys.dbus = .restart
      · refine Or.inr ⟨hreaper, fun hw => ?_, hrestart, ?_⟩
        · -- The D-Bus thread reads the context in a restart, so that the reaper does not write it.
          have hreading : s.threads.mode .dbus .context = .reading 1 := by
            rw [hmode, hrestart]
            rfl
          have hfree := RwLock.mode_eq_of_writing (u := .dbus) hw (hreaper ▸ by decide)
          rw [show (s.threads.locks .context).mode .dbus = .reading 1 from hreading] at hfree
          cases hfree
        · simp only [dbusStep, hrestart, Option.some.injEq] at hsys
          rw [← hsys]
          exact ⟨rfl, rfl⟩
      · exact Or.inl (logs_dbusStep hsys (hmode ▸ hwriting) hrestart)
    | reaper =>
      have hmode := (hs.reaper.of_act htodo).2
      exact Or.inl (logs_reaperStep hsys (hmode ▸ hwriting))
  · exact Or.inl (.refl _)
  · exact Or.inl (.refl _)

/-! ### The lock of the configuration -/

/-- The places where a lock is destroyed. -/
theorem eq_of_renew_mem_dbus {pc : DbusPc} {l : DaemonLock} (h : .renew l ∈ (dbusBlock pc).before) :
    pc.joined = true := by
  cases pc with
  | check call =>
    rw [dbusBlock] at h
    split at h
    · split_ifs at h <;> simp [unlocked, configRead] at h
    · split_ifs at h <;> simp [unlocked, configRead] at h
    · simp [unlocked] at h
    · simp [unlocked] at h
  | reload | startReaper => rfl
  | _ =>
    simp [dbusBlock, unlocked, configRead, contextRead, contextWrite, hasClientSections,
      restartSections, signalReaper] at h

theorem eq_of_renew_mem_reaper {pc : ReaperPc} {l : DaemonLock}
    (h : .renew l ∈ (reaperBlock pc).before) : pc = .reload ∧ l = .config := by
  cases pc with
  | reload => simpa [reaperBlock, reaperReload, reloadSections] using h
  | _ =>
    simp [reaperBlock, unlocked, configRead, contextRead, contextWrite, timedWait] at h

/-- **The reload of the reaper.** A lock is used outside of its specification only when the reaper
reloads the configuration while the D-Bus thread reads it. -/
theorem reload_of_undefined {s : LockedSys} {t : DaemonThread} (hs : s.Disciplined)
    (h : s.threads.step pref t = .undefined) :
    t = .reaper ∧ s.sys.reaper = .reload ∧ s.threads.mode .dbus .config ≠ .reading 0 := by
  cases t with
  | dbus =>
    -- The reaper was joined, so that it holds no lock.
    obtain ⟨l, u, hl, hne, hu⟩ := hs.dbus.exists_of_undefined h
    have hexited := hs.handover.exited_of_joined (eq_of_renew_mem_dbus hl)
    have hreaper := hs.reaper
    rw [hexited] at hreaper
    cases u with
    | dbus => exact absurd rfl hne
    | reaper => exact absurd (congrFun (hreaper.of_act (hs.exited hexited)).2 l) hu
  | reaper =>
    obtain ⟨l, u, hl, hne, hu⟩ := hs.reaper.exists_of_undefined h
    obtain ⟨hreload, rfl⟩ := eq_of_renew_mem_reaper hl
    cases u with
    | dbus => exact ⟨rfl, hreload, hu⟩
    | reaper => exact absurd rfl hne

/-- The reaper reloads the configuration when a file of it has changed. -/
theorem needsReload_of_reload {env : Env} {s s' : Sys} (h : reaperStep files env s = some s')
    (hreload : s'.reaper = .reload) : env.configNeedsReload = true := by
  cases hpc : s.reaper <;> simp only [reaperStep, hpc, reduceCtorEq, Option.some.injEq] at h
  case needsReload =>
    subst h
    simp only at hreload
    split_ifs at hreload with hneeds
    exact hneeds
  case unregister client =>
    split at h <;> (cases h; cases hreload)
  case pick =>
    subst h
    simp only at hreload
    split at hreload <;> cases hreload
  case loop | wait | check client =>
    subst h
    simp only at hreload
    split_ifs at hreload
  all_goals
    subst h
    cases hreload

/-- The step of a thread itself sees one of the environments `E`. -/
def LockAction.Within (E : Set Env) : LockAction → Prop
  | run _ env => env ∈ E
  | receive _ | getter _ => True

/-- The files of the configuration have changed before the reaper reloads it. -/
structure LockedSys.Reloads (E : Set Env) (s : LockedSys) : Prop where
  disciplined : s.Disciplined
  reload : s.sys.reaper = .reload → ∃ env ∈ E, env.configNeedsReload = true
  undefined : s.undefined = true → ∃ env ∈ E, env.configNeedsReload = true

theorem reloads_lockStep {E : Set Env} {s s' : LockedSys} {a : LockAction} (hs : s.Reloads E)
    (ha : a.Within E) (h : lockStep files pref s a = some s') : s'.Reloads E := by
  have hdisciplined := disciplined_lockStep hs.disciplined h
  rcases (lockStep_cases h).2 with ⟨request, rfl, -, -, rfl⟩ | ⟨t, threads, rfl, -, rfl⟩ |
    ⟨t, env, rfl, hrun⟩
  · exact ⟨hdisciplined, hs.reload, hs.undefined⟩
  · exact ⟨hdisciplined, hs.reload, hs.undefined⟩
  rcases runStep_cases hrun with ⟨rest, -, hact⟩ | ⟨-, ⟨hundefined, rfl⟩ | ⟨threads, -, rfl⟩⟩
  · have hsys := sys_actStep hact
    have hflag : s'.undefined = s.undefined := by
      cases t <;> simp only [actStep, Option.map_eq_some_iff] at hact <;>
        obtain ⟨next, -, rfl⟩ := hact <;> rfl
    refine ⟨hdisciplined, fun hreload => ?_, hflag ▸ hs.undefined⟩
    cases t with
    | dbus =>
      by_cases hstart : s.sys.dbus = .startReaper
      · rw [dbusStep, hstart, Option.some.injEq] at hsys
        rw [← hsys] at hreload
        cases hreload
      · exact hs.reload (reaper_dbusStep hsys hstart ▸ hreload)
    | reaper => exact ⟨env, ha, needsReload_of_reload hsys hreload⟩
  · obtain ⟨-, hreload, -⟩ := reload_of_undefined hs.disciplined hundefined
    exact ⟨hdisciplined, hs.reload, fun _ => hs.reload hreload⟩
  · exact ⟨hdisciplined, hs.reload, hs.undefined⟩

/-- The D-Bus thread reads for a request whether there has to be a supervisor, and meanwhile the
reaper comes to a reload. -/
private theorem exists_undefined (pref : Preference) (files : CpuSysfs) (allocated : Finset ℕ)
    (config : Config) (system : OriginalSystem) {env : Env} (h : env.configNeedsReload = true) :
    ∃ s, Runs.exec (lockStep files pref) (.start (startSys files allocated config system))
        (.receive (.call ⟨.register, 5, 5⟩) :: .run .dbus env ::
          List.replicate 30 (.run .reaper env)) = some s ∧ s.undefined = true := by
  obtain ⟨findExe, alive, now, leave, enter, removeCalls, applyCalls, energies, igpuGovernorSet,
    configNeedsReload, reloaded, reconfigCorectl, fast⟩ := env
  obtain rfl : configNeedsReload = true := h
  cases pref
  · exact ⟨_, rfl, rfl⟩
  · exact ⟨_, rfl, rfl⟩

/-- **Destroyed locks.** Whatever the threads and the bus do, a lock is used outside of its
specification in some run if and only if the files of the configuration may change while the daemon
runs: a refresh on request always is in order, but the reaper may reload the configuration, and
destroy its lock, while the D-Bus thread holds that lock. -/
theorem lockDestroyed_iff (pref : Preference) (files : CpuSysfs) (allocated : Finset ℕ)
    (config : Config) (system : OriginalSystem) (E : Set Env) :
    (∃ actions s, (∀ a ∈ actions, LockAction.Within E a) ∧
        Runs.exec (lockStep files pref) (.start (startSys files allocated config system)) actions =
          some s ∧ s.undefined = true) ↔
      ∃ env ∈ E, env.configNeedsReload = true := by
  constructor
  · rintro ⟨actions, s, hwithin, hexec, hundefined⟩
    have hstart : (LockedSys.start (startSys files allocated config system)).Reloads E :=
      ⟨disciplined_start allocated config system, nofun, nofun⟩
    have hs : s.Reloads E :=
      Runs.exec_invariant_of_stepsAlong (fun _ _ _ => reloads_lockStep) hstart actions
        (Runs.StepsAlong.of_forall_mem fun a ha _ => hwithin a ha) hexec
    exact hs.undefined hundefined
  · rintro ⟨env, henv, hneeds⟩
    obtain ⟨s, hexec, hundefined⟩ :=
      exists_undefined pref files allocated config system hneeds
    refine ⟨_, s, fun a ha => ?_, hexec, hundefined⟩
    rcases List.mem_cons.1 ha with rfl | ha
    · trivial
    · rcases List.mem_cons.1 ha with rfl | ha
      · exact henv
      · rw [List.eq_of_mem_replicate ha]
        exact henv

end GameMode
