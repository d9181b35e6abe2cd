import GameMode.Daemon.Requests

/-!
# The history of the registry

What is registered is read off the course of a run: a registration that is answered with zero brings
its game to the front, a request to unregister that is answered with zero takes its game out, and so
does the reaper when it finds it dead. The others stay in their order. A change takes effect in the
critical section before the announcement and the answer, so one answer can still be to come.

The list of the context is this list at every point between two steps of a run, whatever the order
of the steps of the two threads, and it is what `ListGames` and `ClientCount` answer at that point.

## Main definitions

* `registered`: the games that are registered after some changes.
* `Sys.RegistryExact`: what holds of the registry.

## Main results

* `step_registered`: a step changes the list as the change that it makes says.
* `registryExact_along`: the registry is exact in every reachable state.

Source: `daemon/gamemode-context.c`, `daemon/gamemode-dbus.c`.
-/

namespace GameMode

/-! ### Changes of the list -/

/-- The registered games after a change: the one that is registered comes first. -/
def Change.apply (pids : List Pid) : Change → List Pid
  | .registered client => client :: pids
  | .unregistered client | .expired client => pids.erase client

/-- The games that are registered after some changes, the latest one first. -/
def registered (changes : List Change) : List Pid := changes.foldl Change.apply []

variable {files : CpuSysfs}

private theorem pids_proceed_of_fits {r : BusRequest} {next : DbusNext} (h : next.Fits r)
    (s : Sys) : (s.proceed next).world.pids =
      (s.proceed next).dbus.made.toList.foldl Change.apply s.world.pids := by
  cases next with
  | goto pc =>
    rw [Sys.proceed, h.2]
    rfl
  | reply result => rfl

private theorem pids_reload (env : Env) (w : World) :
    (reloadConfigInternal files env w).pids = w.pids :=
  congrArg (List.map Client.pid) (reloadConfigInternal_clients files env w).1

/-- The D-Bus thread changes the list as the change that it makes says. -/
theorem dbusStep_registered {env : Env} {s s' : Sys} (h : dbusStep files env s = some s') :
    s'.world.pids = s'.dbus.made.toList.foldl Change.apply s.world.pids := by
  cases hpc : s.dbus <;> simp only [dbusStep, hpc, reduceCtorEq, Option.some.injEq] at h
  case check call =>
    subst h
    exact pids_proceed_of_fits (fits_checkCall env _ call) s
  case insert cl =>
    subst h
    exact insertClient_pids files env cl s.world
  case unregister client =>
    cases hremove : removeClient env client s.world with
    | none =>
      rw [hremove, Option.some.injEq] at h
      subst h
      rfl
    | some w =>
      rw [hremove, Option.some.injEq] at h
      subst h
      exact removeClient_pids hremove
  case findClient client requester =>
    subst h
    split <;> rfl
  case listClients =>
    split at h <;> (cases h; rfl)
  case joinReaper =>
    rw [Option.ite_none_right_eq_some, Option.some.injEq] at h
    obtain ⟨-, rfl⟩ := h
    rfl
  case reload =>
    subst h
    exact pids_reload env s.world
  case supervisorBlacklist call executable =>
    subst h
    split_ifs
    · rfl
    · exact pids_proceed_of_fits (fits_admitted call) s
  case signalRegistered | signalUnregistered | restart | numClients | endReaper | startReaper =>
    subst h
    rfl
  all_goals
    subst h
    split_ifs <;> rfl

/-- The reaper changes the list as the change that it makes says. -/
theorem reaperStep_registered {env : Env} {s s' : Sys} (h : reaperStep files env s = some s') :
    s'.world.pids = s'.reaper.made.toList.foldl Change.apply s.world.pids := by
  cases hpc : s.reaper <;> simp only [reaperStep, hpc, reduceCtorEq, Option.some.injEq] at h
  case unregister client =>
    cases hremove : removeClient env client s.world with
    | none =>
      rw [hremove, Option.some.injEq] at h
      subst h
      rfl
    | some w =>
      rw [hremove, Option.some.injEq] at h
      subst h
      exact removeClient_pids hremove
  case pick =>
    subst h
    simp only
    split <;> rfl
  case reapplyCorePinning =>
    subst h
    exact congrArg (List.map Client.pid) (quiet_reapplyCorePinningInternal env s.world).clients
  case reload =>
    subst h
    exact pids_reload env s.world
  case checkIgpu | signalUnregistered =>
    subst h
    rfl
  all_goals
    subst h
    simp only
    split_ifs <;> rfl

/-- **Changes.** A step changes the list of the clients as the change that it makes says. -/
theorem step_registered {s s' : Sys} {a : Action} (hstep : step files s a = some s') :
    s'.world.pids = (a.change s').toList.foldl Change.apply s.world.pids := by
  rcases (step_cases hstep).2 with ⟨request, rfl, -, rfl⟩ | ⟨env, rfl, hdbus⟩ |
    ⟨env, rfl, hreaper⟩
  · rfl
  · exact dbusStep_registered hdbus
  · exact reaperStep_registered hreaper

/-! ### Runs -/

/-- What holds of the registry after a run `actions` from `start` that ends in `s`. The count is the
length of the list, the games in it are distinct, and they are those whose registrations were
accepted and that were not removed since. The changes that are not removals by the reaper are those
of the requests that were answered with zero, in this order, with one at most whose answer is still
to come. `ListGames` and `ClientCount` are answered with the registered games and their number, and
no assertion has failed. -/
structure RegistryExact (files : CpuSysfs) (start : Sys) (actions : List Action) (s : Sys) :
    Prop where
  refcount : s.world.refcount = s.world.clients.length
  nodup : s.world.pids.Nodup
  registered : s.world.pids = registered (changes files start actions)
  accepted : (changes files start actions).filter Change.isRequested =
    (exchanges actions s).filterMap accepted ++ s.dbus.made.toList
  listed : ∀ env s', s.dbus = .listClients → step files s (.dbus env) = some s' →
    s'.world = s.world.say (.listed (GameMode.registered (changes files start actions)))
  counted : ∀ env s', s.dbus = .numClients → step files s (.dbus env) = some s' →
    s'.world = s.world.say (.counted (GameMode.registered (changes files start actions)).length)
  asserted : s.aborted = false

section Runs

variable {allocated : Finset ℕ} {config : Config} {system : OriginalSystem} {actions : List Action}
  {s : Sys}
  (hexec : Runs.exec (step files) (startSys files allocated config system) actions = some s)
include hexec

theorem pids_eq_registered :
    s.world.pids = registered (changes files (startSys files allocated config system) actions) := by
  induction actions using List.reverseRecOn generalizing s with
  | nil =>
    rw [Runs.exec_nil, Option.some.injEq] at hexec
    subst hexec
    rfl
  | append_singleton actions a ih =>
    obtain ⟨t, ht, hstep⟩ := Runs.exec_concat_eq_some.1 hexec
    rw [changes_concat ht hstep, registered, List.foldl_append, step_registered hstep, ih ht,
      registered]

/-- **The registry.** In every state that a run of the two threads reaches, the list of the clients
is the list of the games whose registrations were accepted and that were not removed since, without
duplicates, and the count is its length. Accepted are the requests that are answered with zero. No
assertion has failed, and every answer to a request for the list or its length is right. -/
theorem registryExact_along :
    RegistryExact files (startSys files allocated config system) actions s := by
  have hregistry : s.RegistryInvariant := Runs.exec_invariant registryInvariant_step
    (registryInvariant_startSys files allocated config system) hexec
  have hpids := pids_eq_registered hexec
  obtain ⟨exchanges, pending, htranscript⟩ := exists_transcribes hexec
  refine ⟨hregistry.consistent.refcount, hregistry.consistent.nodup, hpids, ?_, ?_, ?_,
    hregistry.asserted⟩
  · rw [GameMode.exchanges, htranscript.exchanges_eq]
    exact htranscript.changed
  · intro env s' hpc hstep
    simp only [step, hregistry.asserted, Bool.false_eq_true, if_false, dbusStep, hpc,
      contextListClients_of_consistent hregistry.consistent, Option.some.injEq] at hstep
    rw [← hstep, ← hpids]
  · intro env s' hpc hstep
    simp only [step, hregistry.asserted, Bool.false_eq_true, if_false, dbusStep, hpc,
      Option.some.injEq] at hstep
    rw [← hstep, ← hpids, World.pids, List.length_map]
    exact congrArg (fun count => s.world.say (.counted count)) hregistry.consistent.refcount

end Runs

/-- A game that comes and goes: both requests are answered with zero. -/
theorem registryExact_of_one_game :
    ∃ s, Runs.exec (step .unreadable) (startSys .unreadable ∅ Config.initial
        (.plain "powersave".toList "balanced".toList ∅ [])) (gameComesAndGoes Config.initial) =
          some s ∧
      changes .unreadable (startSys .unreadable ∅ Config.initial
        (.plain "powersave".toList "balanced".toList ∅ [])) (gameComesAndGoes Config.initial) =
          [.registered 5, .unregistered 5] ∧
      RegistryExact .unreadable (startSys .unreadable ∅ Config.initial
        (.plain "powersave".toList "balanced".toList ∅ [])) (gameComesAndGoes Config.initial) s :=
  ⟨_, rfl, rfl, @registryExact_along .unreadable ∅ Config.initial
    (.plain "powersave".toList "balanced".toList ∅ []) (gameComesAndGoes Config.initial) _ rfl⟩

end GameMode
