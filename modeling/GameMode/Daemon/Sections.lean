import GameMode.Daemon.Bus
import GameMode.Daemon.Registry

/-!
# The two threads of the daemon

The daemon serves the bus on one thread and expires dead games, applies the core pinning again and
reloads the configuration on another, the reaper. They share the context. A step of the system is a
critical section of one of the threads, or one of the reads and checks that it makes between two
critical sections; steps of the two threads come in any order. The lock excludes everything else
while a section changes the list of the clients.

The D-Bus thread serves one request after the other. What is still to be done for a request is the
place of the thread: a registration, for example, has looked for the client in the list, and inserts
it only after further checks. The reaper is stopped and joined before the configuration is refreshed
on request, and started again afterwards.

## Main definitions

* `BusRequest`, `DbusPc`, `ReaperPc`: the requests, and the places of the threads.
* `Sys`, `dbusStep`, `reaperStep`, `step`: the system and its steps.
* `Quiet`, `Effect`: what a step does to the context.

## Main results

* `step_effect`: what a step can do.
* `step_pending`: a client is looked for in the list before it is inserted.
* `insertClient_log`, `removeClient_log`, `restartSection_log`, `reloadConfigInternal_log`: what the
  critical sections log.

Source: `daemon/gamemode-context.c`, `daemon/gamemode-dbus.c`.
-/

namespace GameMode

/-! ### The threads -/

/-- A request on the bus: the call of an operation, `ListGames`, the property `ClientCount`, or
`RefreshConfig`. -/
inductive BusRequest
  | call (call : DaemonCall)
  | listGames
  | clientCount
  | refreshConfig
  deriving DecidableEq

/-- The place of the D-Bus thread: what it does next. -/
inductive DbusPc
  | idle
  /-- The check whether there is a supervisor, and the lookup of its executable. -/
  | check (call : DaemonCall)
  | supervisorWhitelist (call : DaemonCall) (executable : CString)
  | supervisorBlacklist (call : DaemonCall) (executable : CString)
  /-- The first critical section of a registration. -/
  | hasClient (client requester : Pid)
  | findClient (client requester : Pid)
  | clientWhitelist (client requester : Pid) (executable : CString)
  | clientBlacklist (client requester : Pid) (executable : CString)
  /-- The second critical section of a registration. -/
  | insert (cl : Client)
  | signalRegistered (client : Pid)
  /-- The critical section of a removal. -/
  | unregister (client : Pid)
  | signalUnregistered (client : Pid)
  /-- The read of the count, outside of the lock, and the critical section of a query. -/
  | queryRefcount (client : Pid)
  | queryList (client : Pid)
  /-- The read of the count, outside of the lock, and the critical section of a restart. -/
  | restartRefcount
  | restart
  | listClients
  | numClients
  | endReaper
  | joinReaper
  | reload
  | startReaper
  deriving DecidableEq

/-- The place of the reaper: what it does next. -/
inductive ReaperPc
  /-- The test of the loop. -/
  | loop
  /-- The wait, and the test after it. -/
  | wait
  | checkIgpu
  /-- The search for a dead client, in a critical section. -/
  | pick
  /-- The check of `game_mode_context_unregister` for the dead client. -/
  | check (client : Pid)
  /-- The critical section of its removal. -/
  | unregister (client : Pid)
  | signalUnregistered (client : Pid)
  | reapplyCorePinning
  | needsReload
  | reload
  | exited
  deriving DecidableEq

/-- The context and its two threads. -/
structure Sys where
  /-- The context. -/
  world : World
  /-- The place of the D-Bus thread. -/
  dbus : DbusPc
  /-- The place of the reaper. -/
  reaper : ReaperPc
  /-- `reaper.running`. -/
  running : Bool
  /-- An assertion failed, and the process is gone. -/
  aborted : Bool

/-- The system when the context has been initialised. -/
def Sys.start (w : World) : Sys := ⟨w, .idle, .loop, true, false⟩

/-- What a thread does next for a request: it goes to another place, or it replies. -/
inductive DbusNext
  | goto (pc : DbusPc)
  | reply (result : ℤ)

/-- The D-Bus thread proceeds with a request. -/
def Sys.proceed : DbusNext → Sys → Sys
  | .goto pc, s => { s with dbus := pc }
  | .reply result, s => { s with dbus := .idle, world := s.world.say (.replied result) }

/-- The place where a request starts. -/
def BusRequest.start : BusRequest → DbusPc
  | call c => .check c
  | listGames => .listClients
  | clientCount => .numClients
  | refreshConfig => .endReaper

/-- The place where an operation starts once its requester is let through. -/
def DaemonCall.admitted (call : DaemonCall) : DbusPc :=
  match call.operation with
  | .register => .hasClient call.client call.requester
  | .unregister => .unregister call.client
  | .queryStatus => .queryRefcount call.client
  | .restart => .restartRefcount

/-- The executable of the requester is looked up. -/
def checkExecutable (env : Env) (call : DaemonCall) : DbusNext :=
  match env.findExe call.requester with
  | none => .reply (-1)
  | some executable => .goto (.supervisorWhitelist call executable)

/-- The first check of an operation. A query for the requester itself is never rejected, and a
restart is always for another process. -/
def checkCall (env : Env) (config : Config) (call : DaemonCall) : DbusNext :=
  match call.operation with
  | .register | .unregister =>
    if call.requester ≠ call.client then checkExecutable env call
    else if config.getRequireSupervisor ≠ 0 then .reply (-2)
    else .goto call.admitted
  | .queryStatus =>
    if call.client ≠ call.requester then checkExecutable env call else .goto call.admitted
  | .restart => checkExecutable env call

variable (files : CpuSysfs)

/-- The steps of the D-Bus thread. -/
def dbusStep (env : Env) (s : Sys) : Option Sys :=
  match s.dbus with
  | .idle => none
  | .check call => some (s.proceed (checkCall env s.world.config call))
  | .supervisorWhitelist call executable =>
    some (s.proceed (if ¬s.world.config.getSupervisorWhitelisted executable then .reply (-2)
      else .goto (.supervisorBlacklist call executable)))
  | .supervisorBlacklist call executable =>
    some (s.proceed (if s.world.config.getSupervisorBlacklisted executable then .reply (-2)
      else .goto call.admitted))
  | .hasClient client requester =>
    some (s.proceed (if contextHasClient s.world client then .reply (-1)
      else .goto (.findClient client requester)))
  | .findClient client requester =>
    some (s.proceed (match env.findExe client with
      | none => .reply (-1)
      | some executable => .goto (.clientWhitelist client requester executable)))
  | .clientWhitelist client requester executable =>
    some (s.proceed (if ¬s.world.config.getClientWhitelisted executable then .reply (-1)
      else .goto (.clientBlacklist client requester executable)))
  | .clientBlacklist client requester executable =>
    some (s.proceed (if s.world.config.getClientBlacklisted executable then .reply (-1)
      else .goto (.insert (clientNew client executable requester env.now))))
  | .insert cl =>
    some { s with world := insertClient files env cl s.world, dbus := .signalRegistered cl.pid }
  | .signalRegistered client =>
    some ({ s with world := s.world.say (.signal true client) }.proceed (.reply 0))
  | .unregister client =>
    match removeClient env client s.world with
    | none => some (s.proceed (.reply (-1)))
    | some w => some { s with world := w, dbus := .signalUnregistered client }
  | .signalUnregistered client =>
    some ({ s with world := s.world.say (.signal false client) }.proceed (.reply 0))
  | .queryRefcount client =>
    some (s.proceed (if s.world.refcount ≠ 0 then .goto (.queryList client) else .reply 0))
  | .queryList client =>
    some (s.proceed (.reply (if contextHasClient s.world client then 2 else 1)))
  | .restartRefcount =>
    some (s.proceed (if s.world.refcount = 0 then .reply 1 else .goto .restart))
  | .restart => some ({ s with world := restartSection files env s.world }.proceed (.reply 0))
  | .listClients =>
    match contextListClients s.world with
    | none => some { s with aborted := true }
    | some pids => some { s with world := s.world.say (.listed pids), dbus := .idle }
  | .numClients =>
    some { s with world := s.world.say (.counted (contextNumClients s.world)), dbus := .idle }
  | .endReaper => some { s with running := false, dbus := .joinReaper }
  | .joinReaper => if s.reaper = .exited then some { s with dbus := .reload } else none
  | .reload =>
    some { s with world := reloadConfigInternal files env s.world, dbus := .startReaper }
  | .startReaper => some ({ s with running := true, reaper := .loop }.proceed (.reply 0))

/-- The steps of the reaper. -/
def reaperStep (env : Env) (s : Sys) : Option Sys :=
  match s.reaper with
  | .loop => some { s with reaper := if s.running then .wait else .exited }
  | .wait => some { s with reaper := if s.running then .checkIgpu else .exited }
  | .checkIgpu => some { s with world := contextCheckIgpuEnergy env s.world, reaper := .pick }
  | .pick =>
    some { s with reaper :=
      match deadClient env s.world with
      | none => .reapplyCorePinning
      | some cl => .check cl.pid }
  | .check client =>
    some { s with reaper :=
      if s.world.config.getRequireSupervisor ≠ 0 then .pick else .unregister client }
  | .unregister client =>
    match removeClient env client s.world with
    | none => some { s with reaper := .pick }
    | some w => some { s with world := w, reaper := .signalUnregistered client }
  | .signalUnregistered client =>
    some { s with world := s.world.say (.signal false client), reaper := .pick }
  | .reapplyCorePinning =>
    some { s with world := reapplyCorePinningInternal env s.world, reaper := .needsReload }
  | .needsReload => some { s with reaper := if env.configNeedsReload then .reload else .loop }
  | .reload => some { s with world := reloadConfigInternal files env s.world, reaper := .loop }
  | .exited => none

/-- A step of the system: the bus delivers a request, or one of the threads goes on. -/
inductive Action
  | receive (request : BusRequest)
  | dbus (env : Env)
  | reaper (env : Env)

/-- The step function. The D-Bus thread takes a request when it has none, and nothing happens after
a failed assertion. -/
def step (s : Sys) (a : Action) : Option Sys :=
  if s.aborted then none
  else
    match a with
    | .receive request => if s.dbus = .idle then some { s with dbus := request.start } else none
    | .dbus env => dbusStep files env s
    | .reaper env => reaperStep files env s

variable {files} in
/-- What a step is: a request is received, or one of the threads takes a step. -/
theorem step_cases {s s' : Sys} {a : Action} (h : step files s a = some s') :
    s.aborted = false ∧
      ((∃ request, a = .receive request ∧ s.dbus = .idle ∧ s' = { s with dbus := request.start }) ∨
        (∃ env, a = .dbus env ∧ dbusStep files env s = some s') ∨
        ∃ env, a = .reaper env ∧ reaperStep files env s = some s') := by
  unfold step at h
  rw [Option.ite_none_left_eq_some, Bool.not_eq_true] at h
  refine ⟨h.1, ?_⟩
  cases a with
  | receive request =>
    obtain ⟨hidle, hnext⟩ := Option.ite_none_right_eq_some.1 h.2
    exact Or.inl ⟨request, rfl, hidle, (Option.some_inj.1 hnext).symm⟩
  | dbus env => exact Or.inr (Or.inl ⟨env, rfl, h.2⟩)
  | reaper env => exact Or.inr (Or.inr ⟨env, rfl, h.2⟩)

/-! ### What the critical sections log -/

theorem insertClient_log (env : Env) (cl : Client) (w : World) :
    (insertClient files env cl w).log = w.log ++ .adding cl.pid ::
      (if w.refcount = 0 then .entering :: executeScripts w.config.getGamemodeStartScripts
        else []) := by
  rw [insertClient, World.applyOptimisations, World.withThreads]
  split_ifs
  · exact List.append_assoc w.log [.adding cl.pid] _
  · rfl

theorem removeClient_log {env : Env} {client : Pid} {w w' : World}
    (h : removeClient env client w = some w') :
    w'.log = w.log ++ .removing client ::
      (if w.refcount = 1 then .leaving :: executeScripts w.config.getGamemodeEndScripts
        else []) := by
  rw [removeClient, World.removeOptimisations, World.withThreads] at h
  split_ifs at h ⊢ with _ hrefcount
  · rw [← Option.some.inj h]
    exact List.append_assoc w.log [.removing client] _
  · rw [← Option.some.inj h]
    rfl

theorem restartSection_log (env : Env) (w : World) :
    (restartSection files env w).log =
      w.log ++ (.leaving :: executeScripts w.config.getGamemodeEndScripts ++
        .entering :: executeScripts w.config.getGamemodeStartScripts) :=
  List.append_assoc _ _ _

theorem reloadConfigInternal_log (env : Env) (w : World) :
    (reloadConfigInternal files env w).log = w.log ++
      if w.refcount ≠ 0 then
        .leaving :: executeScripts w.config.getGamemodeEndScripts ++
          .entering :: executeScripts env.reloaded.getGamemodeStartScripts
      else [] := by
  have htear : (tearDown env w).log = w.log ++
      if w.refcount ≠ 0 then .leaving :: executeScripts w.config.getGamemodeEndScripts
      else [] := by
    rw [tearDown]
    rw [foldl_removeOptimisations]
    split_ifs
    · rfl
    · exact (List.append_nil _).symm
  have hregrow : (reloadConfigInternal files env w).log = (tearDown env w).log ++
      if w.refcount ≠ 0 then .entering :: executeScripts env.reloaded.getGamemodeStartScripts
      else [] := by
    rw [← (tearDown_clients env w).2]
    rw [reloadConfigInternal, regrow]
    rw [foldl_applyOptimisations]
    split_ifs with h h' h'
    · rfl
    · exact absurd h h'
    · exact absurd h' h
    · exact (List.append_nil _).symm
  rw [hregrow, htear]
  split_ifs <;> simp

/-! ### What a step can do -/

/-- The signals and the replies to method calls. -/
def Event.IsMessage : Event → Prop
  | .signal _ _ | .replied _ => True
  | _ => False

/-- Nothing changes of the registry, and only messages are logged. -/
structure Quiet (w w' : World) : Prop where
  clients : w'.clients = w.clients
  refcount : w'.refcount = w.refcount
  log : ∃ events : List Event, w'.log = w.log ++ events ∧ ∀ e ∈ events, e.IsMessage

theorem Quiet.refl (w : World) : Quiet w w := ⟨rfl, rfl, [], (List.append_nil _).symm, nofun⟩

theorem Quiet.say (w : World) (e : Event) (he : e.IsMessage) : Quiet w (w.say e) :=
  ⟨rfl, rfl, [e], rfl, by simpa using he⟩

theorem Quiet.trans {w w' w'' : World} (h : Quiet w w') (h' : Quiet w' w'') : Quiet w w'' := by
  obtain ⟨events, hlog, hevents⟩ := h.log
  obtain ⟨events', hlog', hevents'⟩ := h'.log
  refine ⟨h'.clients.trans h.clients, h'.refcount.trans h.refcount, events ++ events', ?_, ?_⟩
  · rw [hlog', hlog, List.append_assoc]
  · rw [List.forall_mem_append]
    exact ⟨hevents, hevents'⟩

theorem quiet_proceed (next : DbusNext) (s : Sys) : Quiet s.world (s.proceed next).world := by
  cases next with
  | goto pc => exact .refl _
  | reply result => exact .say _ _ trivial

theorem quiet_reapplyCorePinningInternal (env : Env) (w : World) :
    Quiet w (reapplyCorePinningInternal env w) := by
  rw [reapplyCorePinningInternal]
  split_ifs
  · exact ⟨rfl, rfl, [], (List.append_nil _).symm, nofun⟩
  · exact .refl w

theorem quiet_contextCheckIgpuEnergy (env : Env) (w : World) :
    Quiet w (contextCheckIgpuEnergy env w) := ⟨rfl, rfl, [], (List.append_nil _).symm, nofun⟩

/-- What a step does to the context: nothing of the registry, an answer, or a critical section that
changes the registry or the mode. -/
inductive Effect (s : Sys) : Action → World → Prop
  | quiet {a : Action} {w : World} (h : Quiet s.world w) : Effect s a w
  | listed {a : Action} {pids : List Pid} (h : contextListClients s.world = some pids) :
      Effect s a (s.world.say (.listed pids))
  | counted {a : Action} : Effect s a (s.world.say (.counted (contextNumClients s.world)))
  | insert {env : Env} {cl : Client} (h : s.dbus = .insert cl) :
      Effect s (.dbus env) (insertClient files env cl s.world)
  | remove {a : Action} {env : Env} {client : Pid} {w : World}
      (h : removeClient env client s.world = some w) : Effect s a w
  | restart {env : Env} (h : s.dbus = .restart) :
      Effect s (.dbus env) ((restartSection files env s.world).say (.replied 0))
  | reload {a : Action} (env : Env) : Effect s a (reloadConfigInternal files env s.world)

variable {files}

theorem dbusStep_effect {env : Env} {s s' : Sys} (h : dbusStep files env s = some s') :
    Effect files s (.dbus env) s'.world := by
  cases hpc : s.dbus <;> simp only [dbusStep, hpc, reduceCtorEq, Option.some.injEq] at h
  case insert cl =>
    subst h
    exact .insert hpc
  case signalRegistered client | signalUnregistered client =>
    subst h
    exact .quiet (Quiet.trans (.say s.world (.signal _ client) trivial) (.say _ _ trivial))
  case unregister client =>
    cases hremove : removeClient env client s.world with
    | none =>
      rw [hremove, Option.some.injEq] at h
      exact h ▸ .quiet (quiet_proceed _ _)
    | some w =>
      rw [hremove, Option.some.injEq] at h
      exact h ▸ .remove hremove
  case restart =>
    subst h
    exact .restart hpc
  case listClients =>
    cases hlist : contextListClients s.world with
    | none =>
      rw [hlist, Option.some.injEq] at h
      exact h ▸ .quiet (.refl _)
    | some pids =>
      rw [hlist, Option.some.injEq] at h
      exact h ▸ .listed hlist
  case numClients =>
    subst h
    exact .counted
  case endReaper =>
    subst h
    exact .quiet (.refl _)
  case joinReaper =>
    rw [Option.ite_none_right_eq_some, Option.some.injEq] at h
    exact h.2 ▸ .quiet (.refl _)
  case reload =>
    subst h
    exact .reload env
  case startReaper =>
    subst h
    exact .quiet (.say _ _ trivial)
  all_goals
    subst h
    exact .quiet (quiet_proceed _ _)

theorem reaperStep_effect {env : Env} {s s' : Sys} (h : reaperStep files env s = some s') :
    Effect files s (.reaper env) s'.world := by
  cases hpc : s.reaper <;> simp only [reaperStep, hpc, reduceCtorEq, Option.some.injEq] at h
  case checkIgpu =>
    subst h
    exact .quiet (quiet_contextCheckIgpuEnergy env _)
  case unregister client =>
    cases hremove : removeClient env client s.world with
    | none =>
      rw [hremove, Option.some.injEq] at h
      exact h ▸ .quiet (.refl _)
    | some w =>
      rw [hremove, Option.some.injEq] at h
      exact h ▸ .remove hremove
  case signalUnregistered client =>
    subst h
    exact .quiet (.say _ _ trivial)
  case reapplyCorePinning =>
    subst h
    exact .quiet (quiet_reapplyCorePinningInternal env _)
  case reload =>
    subst h
    exact .reload env
  all_goals
    subst h
    exact .quiet (.refl _)

/-- **Steps.** What a step can do to the context. -/
theorem step_effect {s s' : Sys} {a : Action} (h : step files s a = some s') :
    Effect files s a s'.world := by
  rcases (step_cases h).2 with ⟨request, rfl, -, rfl⟩ | ⟨env, rfl, hdbus⟩ | ⟨env, rfl, hreaper⟩
  · exact .quiet (.refl _)
  · exact dbusStep_effect hdbus
  · exact reaperStep_effect hreaper

/-! ### The client that is to be inserted -/

/-- The client of a registration that has not found it in the list. -/
def DbusPc.pending : DbusPc → Option Pid
  | .findClient client _ | .clientWhitelist client _ _ | .clientBlacklist client _ _ => some client
  | .insert cl => some cl.pid
  | _ => none

/-- The client of a registration that goes to such a place. -/
def DbusNext.pending : DbusNext → Option Pid
  | .goto pc => pc.pending
  | .reply _ => none

@[simp] theorem pending_proceed (next : DbusNext) (s : Sys) :
    (s.proceed next).dbus.pending = next.pending := by
  cases next <;> rfl

theorem pending_admitted (call : DaemonCall) : call.admitted.pending = none := by
  rw [DaemonCall.admitted]
  split <;> rfl

theorem pending_checkCall (env : Env) (config : Config) (call : DaemonCall) :
    (checkCall env config call).pending = none := by
  have hexe : (checkExecutable env call).pending = none := by
    rw [checkExecutable]
    split <;> rfl
  have hadmitted : (DbusNext.goto call.admitted).pending = none := pending_admitted call
  rw [checkCall]
  cases call.operation <;> simp only [apply_ite DbusNext.pending, hexe, hadmitted] <;>
    simp [DbusNext.pending]

theorem world_proceed {next : DbusNext} {client : Pid} (h : next.pending = some client) (s : Sys) :
    (s.proceed next).world = s.world := by
  cases next with
  | goto pc => rfl
  | reply result => cases h

/-- A client becomes one that is to be inserted when it is not found in the list. -/
theorem dbusStep_pending {env : Env} {s s' : Sys} (h : dbusStep files env s = some s')
    {client : Pid} (hclient : s'.dbus.pending = some client) :
    s'.world = s.world ∧ (s.dbus.pending = some client ∨ ¬s.world.IsRegistered client) := by
  have hproceed : ∀ next : DbusNext, s' = s.proceed next →
      s'.world = s.world ∧ next.pending = some client := by
    rintro next rfl
    rw [pending_proceed] at hclient
    exact ⟨world_proceed hclient s, hclient⟩
  cases hpc : s.dbus <;> simp only [dbusStep, hpc, reduceCtorEq, Option.some.injEq] at h
  case check call =>
    obtain ⟨-, hnext⟩ := hproceed _ h.symm
    rw [pending_checkCall] at hnext
    cases hnext
  case hasClient c requester =>
    obtain ⟨hworld, hnext⟩ := hproceed _ h.symm
    split_ifs at hnext with hhas
    · cases hnext
    · obtain rfl : c = client := Option.some.inj hnext
      rw [contextHasClient_iff] at hhas
      exact ⟨hworld, Or.inr hhas⟩
  case findClient c requester =>
    obtain ⟨hworld, hnext⟩ := hproceed _ h.symm
    split at hnext
    · cases hnext
    · exact ⟨hworld, Or.inl hnext⟩
  case clientWhitelist c requester executable =>
    obtain ⟨hworld, hnext⟩ := hproceed _ h.symm
    split_ifs at hnext
    · exact ⟨hworld, Or.inl hnext⟩
    · cases hnext
  case clientBlacklist c requester executable =>
    obtain ⟨hworld, hnext⟩ := hproceed _ h.symm
    split_ifs at hnext
    · cases hnext
    · exact ⟨hworld, Or.inl hnext⟩
  case supervisorBlacklist call executable =>
    obtain ⟨-, hnext⟩ := hproceed _ h.symm
    split_ifs at hnext
    · cases hnext
    · rw [DbusNext.pending, pending_admitted] at hnext
      cases hnext
  case supervisorWhitelist | queryRefcount | restartRefcount =>
    obtain ⟨-, hnext⟩ := hproceed _ h.symm
    split_ifs at hnext <;> cases hnext
  case unregister c | listClients =>
    split at h <;> (cases h; cases hclient)
  case joinReaper =>
    rw [Option.ite_none_right_eq_some, Option.some.injEq] at h
    obtain ⟨-, rfl⟩ := h
    cases hclient
  all_goals
    subst h
    cases hclient

theorem reaperStep_frame {env : Env} {s s' : Sys} (h : reaperStep files env s = some s') :
    s'.dbus = s.dbus ∧ s'.aborted = s.aborted := by
  cases hpc : s.reaper <;> simp only [reaperStep, hpc, reduceCtorEq, Option.some.injEq] at h
  case unregister client =>
    split at h <;> (cases h; exact ⟨rfl, rfl⟩)
  all_goals
    subst h
    exact ⟨rfl, rfl⟩

theorem Effect.clients_subset {s : Sys} {env : Env} {w : World}
    (h : Effect files s (.reaper env) w) :
    w.clients ⊆ s.world.clients := by
  cases h with
  | quiet h => exact h.clients ▸ List.Subset.refl _
  | listed _ | counted => exact List.Subset.refl _
  | remove h => exact (removeClient_clients h).1 ▸ List.eraseP_subset
  | reload env => exact (reloadConfigInternal_clients files env s.world).1 ▸ List.Subset.refl _

/-- **Registrations.** The client that is to be inserted is not in the list: the reaper only takes
clients out between the two critical sections of a registration. -/
theorem step_pending {s s' : Sys} {a : Action} (h : step files s a = some s')
    (hpending : ∀ client ∈ s.dbus.pending, ¬s.world.IsRegistered client) :
    ∀ client ∈ s'.dbus.pending, ¬s'.world.IsRegistered client := by
  intro client hclient
  rcases (step_cases h).2 with ⟨request, rfl, -, rfl⟩ | ⟨env, rfl, hdbus⟩ | ⟨env, rfl, hreaper⟩
  · cases request <;> cases hclient
  · obtain ⟨hworld, hold | hnew⟩ := dbusStep_pending hdbus hclient
    · exact hworld ▸ hpending client hold
    · exact hworld ▸ hnew
  · rintro ⟨cl, hcl, hpid⟩
    rw [(reaperStep_frame hreaper).1] at hclient
    exact hpending client hclient ⟨cl, (reaperStep_effect hreaper).clients_subset hcl, hpid⟩

@[simp] theorem aborted_proceed (next : DbusNext) (s : Sys) :
    (s.proceed next).aborted = s.aborted := by
  cases next <;> rfl

theorem dbusStep_aborted {env : Env} {s s' : Sys} (h : dbusStep files env s = some s')
    (hlist : contextListClients s.world ≠ none) : s'.aborted = s.aborted := by
  cases hpc : s.dbus <;> simp only [dbusStep, hpc, reduceCtorEq, Option.some.injEq] at h
  case unregister client =>
    split at h <;> (cases h; simp)
  case listClients =>
    split at h
    · contradiction
    · cases h
      rfl
  case joinReaper =>
    rw [Option.ite_none_right_eq_some, Option.some.injEq] at h
    exact h.2 ▸ rfl
  all_goals
    subst h
    simp only [aborted_proceed]

theorem step_aborted {s s' : Sys} {a : Action} (h : step files s a = some s')
    (hlist : contextListClients s.world ≠ none) : s'.aborted = false := by
  obtain ⟨hrunning, hcases⟩ := step_cases h
  rcases hcases with ⟨request, rfl, -, rfl⟩ | ⟨env, rfl, hdbus⟩ | ⟨env, rfl, hreaper⟩
  · exact hrunning
  · exact (dbusStep_aborted hdbus hlist).trans hrunning
  · exact (reaperStep_frame hreaper).2.trans hrunning

end GameMode
