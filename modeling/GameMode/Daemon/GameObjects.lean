import GameMode.Daemon.GamePaths
import GameMode.Daemon.Interleaving

/-!
# The objects of registered games

The daemon has an object on the bus for every game in the list, with the data of its registration as
properties. A property is looked up anew each time: the path gives a process identifier, and the
first client with it in the list gives the value, or there is no such object.

From the moment in which a game is added to the list until it is removed, its object answers with
the data of its registration, whatever the two threads do in between; and the lists of the games
have it under the path of the object.

## Main definitions

* `contextLookupClient`, `readProperty`: the properties of an object.
* `ShowsGame`: an object shows the data of a client.

## Main results

* `mem_clients_step`: a client stays in the list until it is removed.
* `gameObject_of_registration`: the object of a game while it is registered.

Source: `daemon/gamemode-dbus.c`, `method_list_games` and `game_object_find` to `game_vtable`;
`daemon/gamemode-context.c`, `game_mode_context_lookup_client` and the functions that read a client.
-/

namespace GameMode

/-! ### Properties -/

/-- `game_mode_context_lookup_client`. -/
def contextLookupClient (w : World) (client : Pid) : Option Client :=
  w.clients.find? fun cl => cl.pid = client

/-- The properties of `game_vtable`. -/
inductive GameProperty
  | processId | executable | requester | timestamp
  deriving DecidableEq

/-- The value of a property, by its type on the bus. -/
inductive PropertyValue
  | int32 (value : ℤ)
  | string (value : CString)
  | uint64 (value : ℤ)
  deriving DecidableEq

/-- What the getter of a property reads from a client. -/
def Client.property (cl : Client) : GameProperty → PropertyValue
  | .processId => .int32 cl.pid
  | .executable => .string cl.executable
  | .requester => .int32 cl.requester
  | .timestamp => .uint64 (cl.timestamp % 2 ^ 64)

/-- The handlers of the properties, `game_object_get_process_id` and its siblings, for the object at
a path: `none` when there is no object or no client is registered with its identifier. -/
def readProperty (w : World) (path : CString) (property : GameProperty) : Option PropertyValue :=
  (findGame path).bind fun pid =>
    (contextLookupClient w pid).map fun cl => cl.property property

/-- The object at the path of a client shows its data, and the lists of the games have it. -/
structure ShowsGame (w : World) (cl : Client) : Prop where
  property : ∀ property, readProperty w (gameObjectBusPath cl.pid) property =
    some (cl.property property)
  listed : ∃ pids, contextListClients w = some pids ∧
    (cl.pid, gameObjectBusPath cl.pid) ∈ methodListGames pids ∧
    gameObjectBusPath cl.pid ∈ gameNodeEnumerator pids
  counted : 0 < contextNumClients w

theorem contextLookupClient_of_mem {w : World} {cl : Client} (h : w.Consistent)
    (hcl : cl ∈ w.clients) : contextLookupClient w cl.pid = some cl := by
  have hsome : (contextLookupClient w cl.pid).isSome = true := by
    rw [contextLookupClient, List.find?_isSome]
    exact ⟨cl, hcl, by simp⟩
  obtain ⟨cl', hcl'⟩ := Option.isSome_iff_exists.1 hsome
  have hmem : cl' ∈ w.clients := List.mem_of_find?_eq_some hcl'
  have hpid : cl'.pid = cl.pid := by simpa using List.find?_some hcl'
  rw [hcl', List.inj_on_of_nodup_map h.nodup hmem hcl hpid]

theorem showsGame_of_mem {w : World} {cl : Client} (h : w.Consistent) (hcl : cl ∈ w.clients)
    (hpid : IsPid cl.pid) : ShowsGame w cl := by
  have hmem : cl.pid ∈ w.pids := List.mem_map_of_mem hcl
  refine ⟨fun property => ?_, ⟨w.pids, contextListClients_of_consistent h, ?_, ?_⟩, ?_⟩
  · rw [readProperty, findGame_gameObjectBusPath hpid, Option.bind_some,
      contextLookupClient_of_mem h hcl, Option.map_some]
  · exact List.mem_map.2 ⟨cl.pid, hmem, rfl⟩
  · exact List.mem_map_of_mem hmem
  · have hlength := List.length_pos_of_mem hcl
    have hrefcount := h.refcount
    rw [contextNumClients]
    omega

/-! ### Runs -/

variable {files : CpuSysfs}

/-- The log only grows. -/
theorem log_prefix_step {s s' : Sys} {a : Action} (hstep : step files s a = some s') :
    s.world.log <+: s'.world.log := by
  have heffect := step_effect hstep
  generalize s'.world = w at heffect
  cases heffect with
  | quiet hquiet =>
    obtain ⟨events, hlog, -⟩ := hquiet.log
    exact ⟨events, hlog.symm⟩
  | listed _ | counted => exact List.prefix_append _ _
  | insert _ => exact ⟨_, (insertClient_log files _ _ _).symm⟩
  | remove hremove => exact ⟨_, (removeClient_log hremove).symm⟩
  | restart _ =>
    refine List.IsPrefix.trans ?_ (List.prefix_append _ _)
    exact ⟨_, (restartSection_log files _ _).symm⟩
  | reload env => exact ⟨_, (reloadConfigInternal_log files env _).symm⟩

theorem log_prefix_exec {actions : List Action} {s s' : Sys}
    (hexec : Runs.exec (step files) s actions = some s') : s.world.log <+: s'.world.log :=
  Runs.exec_invariant (I := fun t : Sys => s.world.log <+: t.world.log)
    (fun _ _ _ hI hstep => hI.trans (log_prefix_step hstep)) List.prefix_rfl hexec

/-- A client stays in the list until it is removed. -/
theorem mem_clients_step {s s' : Sys} {a : Action} {cl : Client} (hcl : cl ∈ s.world.clients)
    (hstep : step files s a = some s')
    (hkept : .removing cl.pid ∉ s'.world.log.drop s.world.log.length) : cl ∈ s'.world.clients := by
  have heffect := step_effect hstep
  generalize s'.world = w at heffect hkept
  cases heffect with
  | quiet hquiet => exact hquiet.clients ▸ hcl
  | listed _ | counted | restart _ => exact hcl
  | insert _ =>
    rw [(insertClient_clients files _ _ _).1]
    exact List.mem_cons_of_mem _ hcl
  | @remove _ env client w hremove =>
    have hne : cl.pid ≠ client := by
      rintro rfl
      rw [removeClient_log hremove, List.drop_left] at hkept
      exact hkept List.mem_cons_self
    rw [(removeClient_clients hremove).1]
    exact (List.mem_eraseP_of_neg (by simpa using hne)).2 hcl
  | reload env =>
    rw [(reloadConfigInternal_clients files env _).1]
    exact hcl

/-- A client stays in the list over a run in which it is not removed. -/
theorem mem_clients_exec {cl : Client} {actions : List Action} {s s' : Sys}
    (hcl : cl ∈ s.world.clients) (hexec : Runs.exec (step files) s actions = some s')
    (hkept : .removing cl.pid ∉ s'.world.log.drop s.world.log.length) :
    cl ∈ s'.world.clients := by
  induction actions generalizing s with
  | nil =>
    rw [Runs.exec_nil, Option.some.injEq] at hexec
    exact hexec ▸ hcl
  | cons a actions ih =>
    rw [Runs.exec_cons, Option.bind_eq_some_iff] at hexec
    obtain ⟨t, hstep, hrest⟩ := hexec
    obtain ⟨events, hlog⟩ := log_prefix_step hstep
    obtain ⟨events', hlog'⟩ := log_prefix_exec hrest
    rw [← hlog', ← hlog, List.append_assoc, List.drop_left, List.mem_append, not_or] at hkept
    refine ih (mem_clients_step hcl hstep ?_) hrest ?_
    · rw [← hlog, List.drop_left]
      exact hkept.1
    · rw [← hlog', List.drop_left]
      exact hkept.2

/-- **Objects of games.** Let a game be added to the list in a run of the two threads. In every
later state its object shows the data with which it was added, and the lists of the games have it,
as long as the log does not say that it was removed since. -/
theorem gameObject_of_registration {allocated : Finset ℕ} {config : Config}
    {system : OriginalSystem} {actions more : List Action} {s t s' : Sys} {cl : Client} {env : Env}
    (hexec : Runs.exec (step files) (startSys files allocated config system) actions = some s)
    (hinsert : s.dbus = .insert cl) (hpid : IsPid cl.pid)
    (hstep : step files s (.dbus env) = some t) (hmore : Runs.exec (step files) t more = some s')
    (hkept : .removing cl.pid ∉ s'.world.log.drop t.world.log.length) :
    ShowsGame s'.world cl := by
  have hregistry : t.RegistryInvariant :=
    registryInvariant_step s (.dbus env) t (Runs.exec_invariant registryInvariant_step
      (registryInvariant_startSys files allocated config system) hexec) hstep
  have hregistry' : s'.RegistryInvariant :=
    Runs.exec_invariant registryInvariant_step hregistry hmore
  have hadded : cl ∈ t.world.clients := by
    rcases (step_cases hstep).2 with ⟨request, hreceive, -⟩ | ⟨env', -, hdbus⟩ | ⟨env', hreaper, -⟩
    · cases hreceive
    · simp only [dbusStep, hinsert, Option.some.injEq] at hdbus
      rw [← hdbus, (insertClient_clients files env' cl s.world).1]
      exact List.mem_cons_self
    · cases hreaper
  exact showsGame_of_mem hregistry'.consistent (mem_clients_exec hadded hmore hkept) hpid

/-- A second game comes while the first one is registered. -/
theorem gameObject_of_two_games :
    ∃ s', Runs.exec (step .unreadable)
        (startSys .unreadable ∅ Config.initial
          (.plain "powersave".toList "balanced".toList ∅ []))
        ([.receive (.call ⟨.register, 5, 5⟩)] ++
          List.replicate 7 (.dbus (.succeeding Config.initial)) ++
          [.receive (.call ⟨.register, 6, 6⟩)] ++
          List.replicate 7 (.dbus (.succeeding Config.initial))) = some s' ∧
      ShowsGame s'.world ⟨5, 5, "/usr/bin/game".toList, 0⟩ := by
  refine ⟨_, rfl, ?_⟩
  exact @gameObject_of_registration .unreadable ∅ Config.initial
    (.plain "powersave".toList "balanced".toList ∅ [])
    ([.receive (.call ⟨.register, 5, 5⟩)] ++ List.replicate 5 (.dbus (.succeeding Config.initial)))
    ([.dbus (.succeeding Config.initial), .receive (.call ⟨.register, 6, 6⟩)] ++
      List.replicate 7 (.dbus (.succeeding Config.initial)))
    _ _ _ ⟨5, 5, "/usr/bin/game".toList, 0⟩ (.succeeding Config.initial) rfl rfl
    ⟨by decide, by decide⟩ rfl rfl (by decide)

end GameMode
