import GameMode.Daemon.Registry

/-!
# The threads of a game from its registration to its end

A game is registered, it creates threads, each with the values of the thread that creates it, and
then it is unregistered, or the configuration is reloaded to one whose features for threads are off.
The question is whether all its threads are back at the values that threads start with.

The removal restores the nice value, the IO priority and the affinity, and not the scheduling
policy, so the game must not have been made soft real-time. After a reload the IO priority is not
restored either: the value that stands for the feature being off is clamped into the range of the
priorities.

## Main definitions

* `Thread.AtDefaults`: the values that a thread starts with.
* `spawnAll`: the threads that a game creates.
* `Ending`: how a registration ends.

## Main results

* `restore_optimise_atDefaults`: without soft real-time the removal undoes the registration.
* `ioLevel_of_reload`: after a reload to a configuration with the features off the IO priority is
  not the one of the start.
* `atDefaults_iff`: when every thread is back at the values of the start.

Source: `daemon/gamemode-context.c`, `game_mode_apply_client_optimisations` and
`game_mode_remove_client_optimisations`; `daemon/gamemode-sched.c`, `daemon/gamemode-ioprio.c`,
`daemon/gamemode-cpu.c`.
-/

namespace GameMode

/-! ### Threads of a game -/

/-- The values that a thread starts with. -/
structure Thread.AtDefaults (online : Finset ℕ) (t : Thread) : Prop where
  nice : t.nice = 0
  ioClass : t.ioClass = .be
  ioLevel : t.ioLevel = ioprioDefault
  policy : t.policy = .other
  affinity : t.affinity = online

/-- A thread as it starts. -/
def Thread.fresh (owner tid : Pid) (online : Finset ℕ) : Thread :=
  ⟨owner, tid, 0, .be, ioprioDefault, .other, online⟩

theorem Thread.atDefaults_fresh (owner tid : Pid) (online : Finset ℕ) :
    (Thread.fresh owner tid online).AtDefaults online :=
  ⟨rfl, rfl, rfl, rfl, rfl⟩

/-- A thread of the game creates another one, which inherits its values. -/
def spawn (client : Pid) (threads : List Thread) (creator child : Pid) : List Thread :=
  match threads.find? fun t => t.owner = client ∧ t.tid = creator with
  | none => threads
  | some t => threads ++ [{ t with tid := child }]

/-- The threads after some were created, each by the thread named first. -/
def spawnAll (client : Pid) (spawns : List (Pid × Pid)) (threads : List Thread) : List Thread :=
  spawns.foldl (fun threads pair => spawn client threads pair.1 pair.2) threads

theorem mem_spawnAll_of_mem (client : Pid) {t : Thread} :
    (spawns : List (Pid × Pid)) → {threads : List Thread} → t ∈ threads →
      t ∈ spawnAll client spawns threads
  | [], _, h => h
  | pair :: spawns, threads, h => by
    refine @mem_spawnAll_of_mem client t spawns (spawn client threads pair.1 pair.2) ?_
    rw [spawn]
    split
    · exact h
    · exact List.mem_append_left _ h

/-- What holds of the threads of the game whatever their identifiers holds of the threads that they
create. -/
theorem forall_mem_spawnAll {client : Pid} {P : Thread → Prop}
    (hP : ∀ t tid, P t → P { t with tid := tid }) :
    (spawns : List (Pid × Pid)) → {threads : List Thread} →
      (∀ t ∈ threads, t.owner = client → P t) →
      ∀ t ∈ spawnAll client spawns threads, t.owner = client → P t
  | [], _, h => h
  | pair :: spawns, threads, h => by
    refine @forall_mem_spawnAll client P hP spawns (spawn client threads pair.1 pair.2) ?_
    rw [spawn]
    split
    · exact h
    · rename_i creator hfind
      have howner := List.find?_some hfind
      rw [decide_eq_true_eq] at howner
      intro t ht howned
      rcases List.mem_append.1 ht with hold | hnew
      · exact h t hold howned
      · rw [List.mem_singleton.1 hnew]
        exact hP creator pair.2 (h creator (List.mem_of_find?_eq_some hfind) howner.1)

/-! ### Registering and unregistering -/

variable (files : CpuSysfs)

theorem removeClient_threads {env : Env} (henv : env.AllSucceed) {client : Pid} {w w' : World}
    (h : removeClient env client w = some w') :
    ∃ cpu : CpuState, cpu.info = w.cpu.info ∧
      w'.threads = w.threads.map (Thread.restore w.config cpu client) := by
  rw [removeClient, World.removeOptimisations] at h
  split_ifs at h
  · rw [Option.some.injEq, henv.removeCalls, removeClientOptimisations_eq_map] at h
    exact ⟨unparkCpu env.leave.corectl w.cpu, unparkCpu_info _ _, h ▸ rfl⟩
  · rw [Option.some.injEq, henv.removeCalls, removeClientOptimisations_eq_map] at h
    exact ⟨w.cpu, rfl, h ▸ rfl⟩

theorem restore_congr {config : Config} {cpu cpu' : CpuState} (h : cpu'.info = cpu.info)
    (client : Pid) (t : Thread) : t.restore config cpu' client = t.restore config cpu client := by
  simp only [Thread.restore, h]

theorem contextUnregister_threads {env : Env} (henv : env.AllSucceed) {client requester : Pid}
    {w w' : World} (h : contextUnregister env client requester w = (0, w')) :
    w'.threads = w.threads.map (Thread.restore w.config w.cpu client) := by
  rcases contextUnregister_cases env client requester w with ⟨hne, -⟩ | ⟨w₀, hremove, heq⟩
  · rw [h] at hne
    exact absurd rfl hne
  · rw [h, Prod.mk.injEq] at heq
    obtain ⟨-, rfl⟩ := heq
    obtain ⟨cpu, hinfo, hthreads⟩ := removeClient_threads henv hremove
    exact hthreads.trans (List.map_congr_left fun t _ => restore_congr hinfo client t)

/-- Without soft real-time the removal undoes the registration. -/
theorem restore_optimise_atDefaults {config : Config} {cpu : CpuState} {online : Finset ℕ}
    {t : Thread} (ht : t.AtDefaults online) (hpolicy : config.enableSoftrealtime cpu.online.card =
      false) (hinfo : ∀ info ∈ cpu.info, info.online = online) :
    ((t.optimise config cpu t.owner).restore config cpu t.owner).AtDefaults online where
  nice := by
    by_cases hr : config.getReniceValue = 0 <;> simp [Thread.restore, Thread.optimise, ht.nice, hr]
  ioClass := by simp [Thread.restore, Thread.optimise, ht.ioLevel]
  ioLevel := by simp [Thread.restore, Thread.optimise, ht.ioLevel]
  policy := by simp [Thread.restore, Thread.optimise, hpolicy, ht.policy]
  affinity := by
    cases hcpu : cpu.info with
    | none => simp [Thread.restore, Thread.optimise, hcpu, ht.affinity]
    | some info =>
      have honline := hinfo info hcpu
      cases hmode : info.parkOrPin <;>
        simp [Thread.restore, Thread.optimise, hcpu, hmode, ht.affinity, honline]

/-! ### How a registration ends -/

/-- The features that change the threads of a client are off. -/
structure Config.FeaturesOff (config : Config) : Prop where
  renice : config.getReniceValue = 0
  ioprio : config.string .ioprio = "off".toList
  softrealtime : config.string .softrealtime = "off".toList
  pinCores : isNo (config.string .cpuPinCores) = true

/-- How a registration ends. -/
inductive Ending
  | unregister (requester : Pid)
  | reload

/-- The registration of the client ends, in a removal that succeeds or in a reload to a
configuration with the features off. -/
def Ending.Leads (env : Env) (client : Pid) : Ending → World → World → Prop
  | .unregister requester, w, w' => contextUnregister env client requester w = (0, w')
  | .reload, w, w' => env.reloaded.FeaturesOff ∧ reloadConfigInternal files env w = w'

theorem Config.FeaturesOff.getIoprioValue {config : Config} (h : config.FeaturesOff) :
    config.getIoprioValue = 0 := by
  simp only [Config.getIoprioValue, h.ioprio]
  rfl

/-- After a reload to a configuration with the features off, the IO priority of a thread that had
the one of the start before its registration is another one. -/
theorem ioLevel_of_reload {config config' : Config} {cpu cpu' : CpuState} {clients : List Pid}
    (hnodup : clients.Nodup) (hoff : config'.FeaturesOff) {t : Thread} (hmem : t.owner ∈ clients)
    (hlevel : t.ioLevel = config.getIoprioValue) :
    let t' := clients.foldl (fun t client => t.optimise config' cpu' client)
      (clients.foldl (fun t client => t.restore config cpu client) t)
    t'.owner = t.owner ∧ t'.ioLevel = 0 := by
  rw [Thread.foldl_restore config cpu hnodup, if_pos hmem,
    Thread.foldl_optimise config' cpu' hnodup, Thread.restore_owner, if_pos hmem]
  refine ⟨rfl, ?_⟩
  simp [Thread.optimise, Thread.restore, hlevel, hoff.getIoprioValue]

/-- After such a reload a game does not have all its threads at the values of the start. -/
theorem not_atDefaults_of_reload {env : Env} (henv : env.AllSucceed) {w : World}
    (hw : w.Consistent) (hoff : env.reloaded.FeaturesOff) {client : Pid}
    (hclient : w.IsRegistered client) {t : Thread} (ht : t ∈ w.threads) (howner : t.owner = client)
    (hlevel : t.ioLevel = w.config.getIoprioValue) (online : Finset ℕ) :
    ¬∀ t ∈ (reloadConfigInternal files env w).threads, t.owner = client → t.AtDefaults online := by
  obtain ⟨cl, hcl, -⟩ := id hclient
  have hrefcount : w.refcount ≠ 0 := by
    have hpos : 0 < w.clients.length := List.length_pos_of_mem hcl
    have hcount := hw.refcount
    omega
  have howned : t.owner ∈ w.pids := howner ▸ World.mem_pids_iff.2 hclient
  obtain ⟨howner', hzero⟩ := @ioLevel_of_reload _ _ w.cpu (coresAtReload files env w) _ hw.nodup
    hoff _ howned hlevel
  rw [reloadConfigInternal_threads files henv w hrefcount]
  intro h
  have hdefault := (h _ (List.mem_map_of_mem ht) (howner'.trans howner)).ioLevel
  rw [hzero] at hdefault
  exact absurd hdefault (by decide)

/-- The threads of a game that is registered, creates threads and is removed are at the values of
the start exactly when it was not made soft real-time. -/
theorem forall_restore_iff {config : Config} {cpu : CpuState} {client : Pid} {online : Finset ℕ}
    {threads : List Thread} (hinfo : ∀ info ∈ cpu.info, info.online = online)
    (hstart : ∀ t ∈ threads, t.owner = client → t.AtDefaults online)
    (hmain : ∃ t ∈ threads, t.owner = client ∧ t.tid = client) (spawns : List (Pid × Pid)) :
    (∀ t ∈ spawnAll client spawns (threads.map (Thread.optimise config cpu client)),
        t.owner = client → (t.restore config cpu client).AtDefaults online) ↔
      config.enableSoftrealtime cpu.online.card = false := by
  constructor
  · intro h
    obtain ⟨t, ht, howner, htid⟩ := hmain
    have hmem := mem_spawnAll_of_mem client spawns
      (List.mem_map_of_mem (f := Thread.optimise config cpu client) ht)
    have hpolicy := (h _ hmem howner).policy
    rw [← Bool.not_eq_true]
    intro hsoft
    simp [Thread.restore, Thread.optimise, htid, hsoft] at hpolicy
  · intro hsoft
    refine forall_mem_spawnAll
      (P := fun t => (t.restore config cpu client).AtDefaults online) ?_ spawns ?_
    · exact fun t tid h => ⟨h.nice, h.ioClass, h.ioLevel, h.policy, h.affinity⟩
    · rw [List.forall_mem_map]
      intro t ht howner
      rw [Thread.optimise_owner] at howner
      subst howner
      exact restore_optimise_atDefaults (hstart t ht rfl) hsoft hinfo

private theorem registered_of_contextRegister {w w₁ : World} {env : Env} (henv : env.AllSucceed)
    (hw : w.Consistent) {client requester : Pid}
    (hregister : contextRegister files env client requester w = (0, w₁)) :
    w₁.threads = w.threads.map (Thread.optimise w.config (coresAtRegister files w) client) ∧
      w₁.config = w.config ∧ w₁.cpu = coresAtRegister files w ∧ w₁.Consistent ∧
      w₁.IsRegistered client := by
  rcases contextRegister_cases files env client requester w with
    ⟨hne, -⟩ | ⟨cl, rfl, hnew, heq⟩
  · rw [hregister] at hne
    exact absurd rfl hne
  · rw [hregister, Prod.mk.injEq] at heq
    obtain ⟨-, rfl⟩ := heq
    obtain ⟨hthreads, hconfig, hcpu⟩ := insertClient_threads files henv w cl
    have hconsistent := hw.insertClient files env hnew
    have hmem : cl.pid ∈ (insertClient files env cl w).pids :=
      insertClient_pids files env cl w ▸ List.mem_cons_self
    exact ⟨hthreads, hconfig, hcpu, ⟨hconsistent.refcount, hconsistent.nodup⟩,
      World.mem_pids_iff.1 hmem⟩

/-- **When the threads are back.** Every thread of a game is back at the values that its threads
started with exactly when the registration ends in a removal, not in a reload, and the game was not
made soft real-time. -/
theorem atDefaults_iff {w w₁ w₂ w₃ : World} {env env' : Env} (henv : env.AllSucceed)
    (henv' : env'.AllSucceed) {client requester : Pid} {online allocated : Finset ℕ}
    (hw : w.Consistent) (hfiles : files.ListsOnline online)
    (hinfo : w.cpu.info = (initialiseCpu files online allocated w.config).2)
    (hstart : ∀ t ∈ w.threads, t.owner = client → t.AtDefaults online)
    (hmain : ∃ t ∈ w.threads, t.owner = client ∧ t.tid = client)
    (hregister : contextRegister files env client requester w = (0, w₁))
    {spawns : List (Pid × Pid)} (hspawn : w₂ = w₁.withThreads (spawnAll client spawns w₁.threads))
    {ending : Ending} (hending : ending.Leads files env' client w₂ w₃) :
    (∀ t ∈ w₃.threads, t.owner = client → t.AtDefaults online) ↔
      (∃ requester', ending = .unregister requester') ∧
        w.config.enableSoftrealtime (coresAtRegister files w).online.card = false := by
  obtain ⟨hthreads, hconfig, hcpu, hconsistent, hclient⟩ :=
    registered_of_contextRegister files henv hw hregister
  have hthreads₂ : w₂.threads = spawnAll client spawns
      (w.threads.map (Thread.optimise w.config (coresAtRegister files w) client)) := by
    rw [hspawn, ← hthreads]
    rfl
  have hconfig₂ : w₂.config = w.config := hspawn ▸ hconfig
  have hcpu₂ : w₂.cpu = coresAtRegister files w := hspawn ▸ hcpu
  cases ending with
  | unregister requester' =>
    have honline : ∀ info ∈ (coresAtRegister files w).info, info.online = online := by
      intro info hmem
      rw [coresAtRegister_info, hinfo] at hmem
      exact online_of_initialiseCpu hfiles hmem
    rw [contextUnregister_threads henv' hending, List.forall_mem_map, hthreads₂, hconfig₂, hcpu₂]
    simpa using forall_restore_iff honline hstart hmain spawns
  | reload =>
    obtain ⟨hoff, rfl⟩ := hending
    obtain ⟨t, ht, howner, -⟩ := hmain
    have hmem : t.optimise w.config (coresAtRegister files w) client ∈ w₂.threads := by
      rw [hthreads₂]
      exact mem_spawnAll_of_mem client spawns (List.mem_map_of_mem ht)
    have hlevel : (t.optimise w.config (coresAtRegister files w) client).ioLevel =
        w₂.config.getIoprioValue := by
      rw [hconfig₂]
      simp [Thread.optimise, howner, (hstart t ht howner).ioLevel]
    have hconsistent₂ : w₂.Consistent := hspawn ▸ ⟨hconsistent.refcount, hconsistent.nodup⟩
    have hclient₂ : w₂.IsRegistered client := hspawn ▸ hclient
    refine iff_of_false ?_ ?_
    · exact not_atDefaults_of_reload files henv' hconsistent₂ hoff hclient₂ hmem
        ((Thread.optimise_owner ..).trans howner) hlevel online
    · rintro ⟨⟨requester', hne⟩, -⟩
      cases hne

/-- A game that creates a thread and is unregistered, without any feature. -/
theorem atDefaults_of_spawn :
    ∃ w₁ w₃, contextRegister .unreadable (.succeeding Config.initial) 5 5
        (contextInit .unreadable ∅ Config.initial
          (.plain "powersave".toList "balanced".toList {0, 1} [.fresh 5 5 {0, 1}])) = (0, w₁) ∧
      contextUnregister (.succeeding Config.initial) 5 5
        (w₁.withThreads (spawnAll 5 [(5, 6)] w₁.threads)) = (0, w₃) ∧
      ∀ t ∈ w₃.threads, t.owner = 5 → t.AtDefaults {0, 1} :=
  ⟨_, _, rfl, rfl, (@atDefaults_iff .unreadable
    (contextInit .unreadable ∅ Config.initial
      (.plain "powersave".toList "balanced".toList {0, 1} [.fresh 5 5 {0, 1}])) _ _ _
    (.succeeding Config.initial) (.succeeding Config.initial)
    (Env.allSucceed_succeeding _) (Env.allSucceed_succeeding _) 5 5 {0, 1} ∅
    (consistent_contextInit _ _ _ _) nofun rfl
    (fun _ ht _ => List.mem_singleton.1 ht ▸ Thread.atDefaults_fresh 5 5 {0, 1})
    ⟨_, List.mem_singleton_self _, rfl, rfl⟩ rfl [(5, 6)] rfl (.unregister 5) rfl).2
    ⟨⟨5, rfl⟩, rfl⟩⟩

/-- A game that is made soft real-time keeps the policy when it is unregistered. -/
theorem not_atDefaults_of_softrealtime :
    let config := Config.initial.set (.string .softrealtime) "on".toList
    ∃ w₁ w₃, contextRegister .unreadable (.succeeding config) 5 5
        (contextInit .unreadable ∅ config
          (.plain "powersave".toList "balanced".toList {0, 1} [.fresh 5 5 {0, 1}])) = (0, w₁) ∧
      contextUnregister (.succeeding config) 5 5 w₁ = (0, w₃) ∧
      ¬∀ t ∈ w₃.threads, t.owner = 5 → t.AtDefaults {0, 1} := by
  refine ⟨_, _, rfl, rfl, fun h => ?_⟩
  have hpolicy := (h _ List.mem_cons_self rfl).policy
  exact absurd hpolicy (by decide)

end GameMode
