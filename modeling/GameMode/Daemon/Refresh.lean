import GameMode.Daemon.Interleaving
import GameMode.Daemon.Expire
import GameMode.Library.Progress

/-!
# Refreshing the configuration on request

When a refresh is requested on the bus, the D-Bus thread tells the reaper to end, joins it, reloads
the configuration, and starts a new reaper. In between it serves nothing else. The reaper ends at
the next test of its loop, after the pass that it is in.

No two threads ever reload at once, and outside of a refresh the reaper is always there. A refresh
waits for a bounded time, except where a supervisor is required and the reaper is in a sweep that
has clients left to look at: these may be dead, and then the sweep never ends.

## Main definitions

* `Sys.Handover`: who may reload.
* `Sys.reaperWork`: how many steps the reaper has still to take once it was told to end.
* `Sys.SweepCanEnd`, `RefreshEnds`.

## Main results

* `handover_along`: who may reload, in every interleaving.
* `reaperStep_work`: the reaper comes nearer to its end with every step.
* `refreshEnds_iff`: when a refresh waits for a bounded time.

Source: `daemon/gamemode-context.c`, `game_mode_reload_config`, `end_reaper_thread`,
`start_reaper_thread` and `game_mode_context_reaper`.
-/

namespace GameMode

/-! ### One thread at a time -/

/-- The reaper was told to end, and no new one was started yet. -/
def DbusPc.refreshing : DbusPc → Bool
  | .joinReaper | .reload | .startReaper => true
  | _ => false

/-- The reaper was joined, and no new one was started yet. -/
def DbusPc.joined : DbusPc → Bool
  | .reload | .startReaper => true
  | _ => false

/-- The reaper is told to end just while the configuration is refreshed on request; it has ended
once it was joined, and it ends at no other time. -/
structure Sys.Handover (s : Sys) : Prop where
  running : s.running = !s.dbus.refreshing
  exited_of_joined : s.dbus.joined = true → s.reaper = .exited
  refreshing_of_exited : s.reaper = .exited → s.dbus.refreshing = true

theorem Sys.Handover.not_both {s : Sys} (h : s.Handover) :
    ¬(s.dbus = .reload ∧ s.reaper = .reload) := by
  rintro ⟨hdbus, hreaper⟩
  have hexited := h.exited_of_joined (by rw [hdbus]; rfl)
  rw [hreaper] at hexited
  cases hexited

/-- Where a thread goes next is no place of a refresh. -/
def DbusNext.refreshing : DbusNext → Bool
  | .goto pc => pc.refreshing
  | .reply _ => false

@[simp] theorem refreshing_proceed (next : DbusNext) (s : Sys) :
    (s.proceed next).dbus.refreshing = next.refreshing := by
  cases next <;> rfl

@[simp] theorem running_proceed (next : DbusNext) (s : Sys) :
    (s.proceed next).running = s.running := by
  cases next <;> rfl

theorem refreshing_admitted (call : DaemonCall) : call.admitted.refreshing = false := by
  rw [DaemonCall.admitted]
  split <;> rfl

theorem refreshing_checkCall (env : Env) (config : Config) (call : DaemonCall) :
    (checkCall env config call).refreshing = false := by
  have hexe : (checkExecutable env call).refreshing = false := by
    rw [checkExecutable]
    split <;> rfl
  have hadmitted : (DbusNext.goto call.admitted).refreshing = false := refreshing_admitted call
  rw [checkCall]
  cases call.operation <;> simp only [apply_ite DbusNext.refreshing, hexe, hadmitted] <;>
    simp [DbusNext.refreshing]

variable {files : CpuSysfs}

/-- What a step of the D-Bus thread does to the reaper: nothing, or it is the next step of a
refresh. -/
theorem dbusStep_handover {env : Env} {s s' : Sys} (h : dbusStep files env s = some s') :
    s.dbus.refreshing = false ∧ s'.dbus.refreshing = false ∧ s'.running = s.running ∧
        s'.reaper = s.reaper ∨
      s.dbus = .endReaper ∧ s'.dbus = .joinReaper ∧ s'.running = false ∧ s'.reaper = s.reaper ∨
      s.dbus = .joinReaper ∧ s.reaper = .exited ∧ s' = { s with dbus := .reload } ∨
      s.dbus = .reload ∧ s'.dbus = .startReaper ∧ s'.running = s.running ∧ s'.reaper = s.reaper ∨
      s.dbus = .startReaper ∧ s'.dbus = .idle ∧ s'.running = true ∧ s'.reaper = .loop := by
  have hproceed : ∀ next : DbusNext, next.refreshing = false →
      (s.proceed next).dbus.refreshing = false ∧ (s.proceed next).running = s.running ∧
        (s.proceed next).reaper = s.reaper := by
    intro next hnext
    exact ⟨(refreshing_proceed next s).trans hnext, running_proceed next s, reaper_proceed next s⟩
  cases hpc : s.dbus <;> simp only [dbusStep, hpc, reduceCtorEq, Option.some.injEq] at h
  case endReaper =>
    subst h
    exact Or.inr (Or.inl ⟨rfl, rfl, rfl, rfl⟩)
  case joinReaper =>
    rw [Option.ite_none_right_eq_some, Option.some.injEq] at h
    exact Or.inr (Or.inr (Or.inl ⟨rfl, h.1, h.2.symm⟩))
  case reload =>
    subst h
    exact Or.inr (Or.inr (Or.inr (Or.inl ⟨rfl, rfl, rfl, rfl⟩)))
  case startReaper =>
    subst h
    exact Or.inr (Or.inr (Or.inr (Or.inr ⟨rfl, rfl, rfl, rfl⟩)))
  case check call =>
    subst h
    exact Or.inl ⟨rfl, hproceed _ (refreshing_checkCall env _ call)⟩
  case supervisorBlacklist call executable =>
    subst h
    refine Or.inl ⟨rfl, hproceed _ ?_⟩
    rw [apply_ite DbusNext.refreshing, DbusNext.refreshing, DbusNext.refreshing,
      refreshing_admitted, ite_self]
  case unregister client | listClients =>
    split at h <;> (cases h; exact Or.inl ⟨rfl, rfl, rfl, rfl⟩)
  case insert cl | signalRegistered client | signalUnregistered client | restart | numClients =>
    subst h
    exact Or.inl ⟨rfl, rfl, rfl, rfl⟩
  case findClient client requester =>
    subst h
    refine Or.inl ⟨rfl, hproceed _ ?_⟩
    split <;> rfl
  all_goals
    subst h
    refine Or.inl ⟨rfl, hproceed _ ?_⟩
    split_ifs <;> rfl

/-- What a step of the reaper does to the reaper. -/
theorem reaperStep_handover {env : Env} {s s' : Sys} (h : reaperStep files env s = some s') :
    s.reaper ≠ .exited ∧ s'.dbus = s.dbus ∧ s'.running = s.running ∧
      (s'.reaper = .exited → s.running = false) := by
  cases hpc : s.reaper <;> simp only [reaperStep, hpc, reduceCtorEq, Option.some.injEq] at h
  case loop | wait =>
    subst h
    refine ⟨by simp, rfl, rfl, fun hexited => ?_⟩
    cases hrunning : s.running <;> simp [hrunning] at hexited ⊢
  case pick =>
    subst h
    refine ⟨by simp, rfl, rfl, fun hexited => ?_⟩
    simp only at hexited
    split at hexited <;> cases hexited
  case check client =>
    subst h
    refine ⟨by simp, rfl, rfl, fun hexited => ?_⟩
    simp only at hexited
    split_ifs at hexited
  case unregister client =>
    split at h <;> (cases h; exact ⟨by simp, rfl, rfl, fun hexited => by cases hexited⟩)
  case needsReload =>
    subst h
    refine ⟨by simp, rfl, rfl, fun hexited => ?_⟩
    simp only at hexited
    split_ifs at hexited
  all_goals
    subst h
    exact ⟨by simp, rfl, rfl, fun hexited => by cases hexited⟩

theorem handover_step (s : Sys) (a : Action) (s' : Sys) (h : s.Handover)
    (hstep : step files s a = some s') : s'.Handover := by
  obtain ⟨hrunning, hjoined, hexited⟩ := h
  rcases (step_cases hstep).2 with ⟨request, rfl, hidle, rfl⟩ | ⟨env, rfl, hdbus⟩ |
    ⟨env, rfl, hreaper⟩
  · rw [hidle] at hrunning hexited
    refine ⟨?_, fun hstart => ?_, fun hreaper => absurd (hexited hreaper) Bool.false_ne_true⟩
    · cases request <;> exact hrunning
    · cases request <;> cases hstart
  · rcases dbusStep_handover hdbus with ⟨hbefore, hafter, hrun, hr⟩ | ⟨hpc, hpc', hrun, hr⟩ |
      ⟨hpc, hr, rfl⟩ | ⟨hpc, hpc', hrun, hr⟩ | ⟨hpc, hpc', hrun, hr⟩
    · refine ⟨?_, fun hj => ?_, fun hx => ?_⟩
      · rw [hrun, hrunning, hbefore, hafter]
      · have himp : s'.dbus.joined = true → s'.dbus.refreshing = true := by
          cases s'.dbus <;> simp [DbusPc.joined, DbusPc.refreshing]
        rw [himp hj] at hafter
        cases hafter
      · rw [hr] at hx
        rw [hexited hx] at hbefore
        cases hbefore
    · refine ⟨?_, fun hj => ?_, fun _ => ?_⟩
      · rw [hrun, hpc']
        rfl
      · rw [hpc'] at hj
        cases hj
      · rw [hpc']
        rfl
    · refine ⟨?_, fun _ => hr, fun _ => rfl⟩
      rw [hpc] at hrunning
      exact hrunning
    · refine ⟨?_, fun _ => ?_, fun _ => ?_⟩
      · rw [hrun, hrunning, hpc, hpc']
        rfl
      · rw [hr]
        exact hjoined (by rw [hpc]; rfl)
      · rw [hpc']
        rfl
    · refine ⟨?_, fun hj => ?_, fun hx => ?_⟩
      · rw [hrun, hpc']
        rfl
      · rw [hpc'] at hj
        cases hj
      · rw [hr] at hx
        cases hx
  · obtain ⟨hne, hd, hrun, hexit⟩ := reaperStep_handover hreaper
    refine ⟨?_, fun hj => ?_, fun hx => ?_⟩
    · rw [hrun, hd, hrunning]
    · rw [hd] at hj
      exact absurd (hjoined hj) hne
    · have hstopped := hexit hx
      rw [hrunning] at hstopped
      rw [hd]
      simpa using hstopped

theorem handover_of_exec {allocated : Finset ℕ} {config : Config} {system : OriginalSystem}
    {actions : List Action} {s : Sys}
    (hexec : Runs.exec (step files) (startSys files allocated config system) actions = some s) :
    s.Handover := by
  have hstart : (startSys files allocated config system).Handover := by
    refine ⟨rfl, fun hj => ?_, fun hx => ?_⟩
    · cases hj
    · cases hx
  exact Runs.exec_invariant handover_step hstart hexec

/-- **One thread at a time.** In every interleaving the reaper is told to end just while the
configuration is refreshed on request, it has ended before the D-Bus thread reloads, and outside of
a refresh it is always there; so two threads never reload at once. -/
theorem handover_along (allocated : Finset ℕ) (config : Config) (system : OriginalSystem)
    (actions : List Action) :
    Runs.Along (step files) (startSys files allocated config system) actions fun s =>
      s.Handover ∧ ¬(s.dbus = .reload ∧ s.reaper = .reload) := by
  intro before _ s hexec
  have hs := handover_of_exec hexec
  exact ⟨hs, hs.not_both⟩

/-! ### Waiting for the reaper -/

/-- The reaper looks for dead clients, or is about to. -/
def ReaperPc.sweeping : ReaperPc → Bool
  | .checkIgpu | .pick | .check _ | .unregister _ | .signalUnregistered _ => true
  | _ => false

/-- The clients that the reaper has still to look at: one that it is about to remove is none of
them. -/
def ReaperPc.remaining (w : World) : ReaperPc → List Pid
  | .check client => if w.config.getRequireSupervisor ≠ 0 then w.pids else w.pids.erase client
  | .unregister client => w.pids.erase client
  | _ => w.pids

/-- How many steps the reaper has still to take once it was told to end: a pass over `n` clients has
at most four steps for each of them. -/
def ReaperPc.work (w : World) : ReaperPc → ℕ
  | .exited => 0
  | .loop | .wait => 1
  | .reload => 2
  | .needsReload => 3
  | .reapplyCorePinning => 4
  | .pick => 5 + 4 * w.pids.length
  | .checkIgpu | .signalUnregistered _ => 6 + 4 * w.pids.length
  | .unregister client =>
    if client ∈ w.pids then 3 + 4 * w.pids.length else 6 + 4 * w.pids.length
  | .check client => if client ∈ w.pids then 4 + 4 * w.pids.length else 7 + 4 * w.pids.length

/-- What the reaper of the system has still to do. -/
def Sys.reaperWork (s : Sys) : ℕ := s.reaper.work s.world

/-- No supervisor is required, or the reaper has no clients to look at. -/
def Sys.SweepCanEnd (s : Sys) : Prop :=
  s.world.config.getRequireSupervisor = 0 ∨ s.reaper.sweeping = false ∨
    s.reaper.remaining s.world = []

theorem deadClient_mem {env : Env} {w : World} {cl : Client} (h : deadClient env w = some cl) :
    cl.pid ∈ w.pids :=
  List.mem_map_of_mem (List.mem_of_find?_eq_some h)

theorem deadClient_eq_none {env : Env} {w : World} (h : w.pids = []) : deadClient env w = none := by
  rw [deadClient, List.map_eq_nil_iff.1 h, List.find?_nil]

theorem length_of_removeClient {env : Env} {client : Pid} {w w' : World}
    (h : removeClient env client w = some w') :
    client ∈ w.pids ∧ w'.pids = w.pids.erase client ∧ w'.pids.length + 1 = w.pids.length ∧
      w'.config = w.config := by
  have hmem : client ∈ w.pids :=
    World.mem_pids_iff.2 ((removeClient_isSome_iff env client w).1 (h ▸ rfl))
  have hpids := removeClient_pids h
  refine ⟨hmem, hpids, ?_, removeClient_config h⟩
  rw [hpids]
  exact List.length_erase_add_one hmem

theorem notMem_of_removeClient {env : Env} {client : Pid} {w : World}
    (h : removeClient env client w = none) : client ∉ w.pids := by
  rw [World.mem_pids_iff, ← removeClient_isSome_iff env client w, h]
  exact Bool.false_ne_true

/-- **The end of the reaper.** Once it was told to end, the reaper comes nearer to its end with
every step, provided that its sweep can end. -/
theorem reaperStep_work {env : Env} {s s' : Sys} (hrunning : s.running = false)
    (h : s.SweepCanEnd) (hstep : reaperStep files env s = some s') :
    s'.SweepCanEnd ∧ s'.reaperWork < s.reaperWork := by
  rw [Sys.SweepCanEnd] at h
  rw [Sys.SweepCanEnd, Sys.reaperWork, Sys.reaperWork]
  cases hpc : s.reaper <;>
    simp only [reaperStep, hpc, reduceCtorEq, Option.some.injEq] at hstep <;>
    simp only [hpc, ReaperPc.remaining] at h
  case loop | wait =>
    subst hstep
    rw [hrunning]
    exact ⟨Or.inr (Or.inl rfl), Nat.zero_lt_one⟩
  case checkIgpu | signalUnregistered client =>
    subst hstep
    refine ⟨h, ?_⟩
    exact Nat.add_lt_add_right (by decide : 5 < 6) _
  case pick =>
    subst hstep
    cases hdead : deadClient env s.world with
    | none =>
      refine ⟨Or.inr (Or.inl rfl), ?_⟩
      simp only [ReaperPc.work]
      omega
    | some cl =>
      rcases h with hrequire | hsweeping | hnil
      · refine ⟨Or.inl hrequire, ?_⟩
        simp only [ReaperPc.work, if_pos (deadClient_mem hdead)]
        omega
      · cases hsweeping
      · rw [deadClient_eq_none hnil] at hdead
        cases hdead
  case check client =>
    subst hstep
    by_cases hrequire : s.world.config.getRequireSupervisor = 0
    · refine ⟨Or.inl hrequire, ?_⟩
      simp only [ReaperPc.work, hrequire, ne_eq, not_true_eq_false, if_false]
      split_ifs <;> omega
    · simp only [hrequire, ne_eq, not_false_eq_true, if_true, false_or] at h ⊢
      rcases h with hsweeping | hnil
      · cases hsweeping
      · refine ⟨Or.inr hnil, ?_⟩
        simp only [ReaperPc.work, hnil, List.not_mem_nil, if_false]
        decide
  case unregister client =>
    cases hremove : removeClient env client s.world with
    | none =>
      have hnot := notMem_of_removeClient hremove
      rw [hremove, Option.some.injEq] at hstep
      subst hstep
      rw [List.erase_of_not_mem hnot] at h
      refine ⟨h, ?_⟩
      simp only [ReaperPc.work, if_neg hnot]
      omega
    | some w =>
      obtain ⟨hmem, hpids, hlength, hconfig⟩ := length_of_removeClient hremove
      rw [hremove, Option.some.injEq] at hstep
      subst hstep
      rw [← hpids, ← hconfig] at h
      refine ⟨h, ?_⟩
      simp only [ReaperPc.work, if_pos hmem]
      omega
  case needsReload =>
    subst hstep
    split_ifs
    · exact ⟨Or.inr (Or.inl rfl), (by decide : 2 < 3)⟩
    · exact ⟨Or.inr (Or.inl rfl), (by decide : 1 < 3)⟩
  case reapplyCorePinning =>
    subst hstep
    exact ⟨Or.inr (Or.inl rfl), (by decide : 3 < 4)⟩
  case reload =>
    subst hstep
    exact ⟨Or.inr (Or.inl rfl), (by decide : 1 < 2)⟩

theorem reaperStep_isSome (env : Env) {s : Sys} (h : s.reaper ≠ .exited) :
    (reaperStep files env s).isSome = true := by
  cases hpc : s.reaper <;> simp only [reaperStep, hpc]
  case unregister client =>
    split <;> rfl
  case exited => exact absurd hpc h
  all_goals rfl

/-- A reaper in a sweep that may never end: a supervisor is required, and there are clients to look
at. -/
structure Sys.SweepsOn (s : Sys) : Prop where
  require : s.world.config.getRequireSupervisor ≠ 0
  sweeping : s.reaper.sweeping = true
  remaining : s.reaper.remaining s.world ≠ []

theorem not_sweepCanEnd_iff {s : Sys} : ¬s.SweepCanEnd ↔ s.SweepsOn := by
  rw [Sys.SweepCanEnd, not_or, not_or, Bool.not_eq_false]
  exact ⟨fun ⟨h, h', h''⟩ => ⟨h, h', h''⟩, fun h => ⟨h.require, h.sweeping, h.remaining⟩⟩

/-- When every client is dead, the reaper stays in such a sweep. -/
theorem Sys.SweepsOn.exists_step {env : Env} (hdead : ∀ pid, env.alive pid = false) {s : Sys}
    (h : s.SweepsOn) : ∃ s', reaperStep files env s = some s' ∧ s'.SweepsOn := by
  obtain ⟨hrequire, hsweeping, hremaining⟩ := h
  cases hpc : s.reaper <;> rw [hpc] at hsweeping hremaining
  case checkIgpu =>
    exact ⟨{ s with world := contextCheckIgpuEnergy env s.world, reaper := .pick },
      by simp only [reaperStep, hpc], hrequire, rfl, hremaining⟩
  case signalUnregistered client =>
    exact ⟨{ s with world := s.world.say (.signal false client), reaper := .pick },
      by simp only [reaperStep, hpc], hrequire, rfl, hremaining⟩
  case pick =>
    have hne : s.world.clients ≠ [] := fun hnil => hremaining (List.map_eq_nil_iff.2 hnil)
    obtain ⟨cl, hcl⟩ := List.exists_mem_of_ne_nil _ hne
    have hfound : (deadClient env s.world).isSome = true := by
      rw [deadClient, List.find?_isSome]
      exact ⟨cl, hcl, by simp [hdead]⟩
    obtain ⟨cl, hfound⟩ := Option.isSome_iff_exists.1 hfound
    refine ⟨{ s with reaper := .check cl.pid }, by simp only [reaperStep, hpc, hfound], hrequire,
      rfl, ?_⟩
    rw [ReaperPc.remaining, if_pos hrequire]
    exact hremaining
  case check client =>
    rw [ReaperPc.remaining, if_pos hrequire] at hremaining
    exact ⟨{ s with reaper := .pick }, by simp only [reaperStep, hpc, if_pos hrequire], hrequire,
      rfl, hremaining⟩
  case unregister client =>
    rw [ReaperPc.remaining] at hremaining
    cases hremove : removeClient env client s.world with
    | none =>
      rw [List.erase_of_not_mem (notMem_of_removeClient hremove)] at hremaining
      exact ⟨{ s with reaper := .pick }, by simp only [reaperStep, hpc, hremove], hrequire, rfl,
        hremaining⟩
    | some w =>
      obtain ⟨-, hpids, -, hconfig⟩ := length_of_removeClient hremove
      rw [← hpids] at hremaining
      exact ⟨{ s with world := w, reaper := .signalUnregistered client },
        by simp only [reaperStep, hpc, hremove], hconfig ▸ hrequire, rfl, hremaining⟩
  all_goals cases hsweeping

/-! ### Refreshes -/

/-- The D-Bus thread waits for the reaper. -/
def Sys.Joining (s : Sys) : Prop := s.dbus = .joinReaper

/-- A refresh waits for a bounded time: however the steps of the threads come, only so many can be
taken while the D-Bus thread waits, and one can always be taken. -/
def RefreshEnds (files : CpuSysfs) (s : Sys) : Prop :=
  Runs.Ends (step files) Sys.Joining s ∧
    ∀ actions t, Runs.Stays (step files) Sys.Joining s actions →
      Runs.exec (step files) s actions = some t → ∃ a, (step files t a).isSome = true

theorem reaperStep_of_joining {s s' : Sys} {a : Action} (hs : s.Joining)
    (hstep : step files s a = some s') (hs' : s'.Joining) :
    ∃ env, a = .reaper env ∧ reaperStep files env s = some s' := by
  rcases (step_cases hstep).2 with ⟨request, -, hidle, -⟩ | ⟨env, -, hdbus⟩ | ⟨env, rfl, hreaper⟩
  · rw [Sys.Joining, hidle] at hs
    cases hs
  · simp only [dbusStep, show s.dbus = .joinReaper from hs, Option.ite_none_right_eq_some,
      Option.some.injEq] at hdbus
    rw [← hdbus.2] at hs'
    cases hs'
  · exact ⟨env, rfl, hreaper⟩

theorem exists_step_of_joining {s : Sys} (hs : s.Joining) (haborted : s.aborted = false)
    (env : Env) : ∃ a, (step files s a).isSome = true := by
  by_cases hexited : s.reaper = .exited
  · refine ⟨.dbus env, ?_⟩
    simp only [step, haborted, dbusStep, show s.dbus = .joinReaper from hs, hexited,
      Bool.false_eq_true, if_false, if_true, Option.isSome_some]
  · refine ⟨.reaper env, ?_⟩
    simp only [step, haborted, Bool.false_eq_true, if_false]
    exact reaperStep_isSome env hexited

/-- **Refreshes.** In every state of a run in which the D-Bus thread waits for the reaper, the wait
is bounded just when no supervisor is required, or the reaper is not in a sweep, or it has no client
to look at. -/
theorem refreshEnds_iff {allocated : Finset ℕ} {config : Config} {system : OriginalSystem}
    {actions : List Action} {s : Sys}
    (hexec : Runs.exec (step files) (startSys files allocated config system) actions = some s)
    (hs : s.Joining) : RefreshEnds files s ↔ s.SweepCanEnd := by
  have hregistry : s.RegistryInvariant := Runs.exec_invariant registryInvariant_step
    (registryInvariant_startSys files allocated config system) hexec
  have hhandover := handover_of_exec hexec
  have hrunning : s.running = false := by
    rw [hhandover.running, show s.dbus = .joinReaper from hs]
    rfl
  constructor
  · rintro ⟨hends, -⟩
    by_contra hsweep
    refine Runs.not_ends_of_forever
      (C := fun t : Sys => t.Joining ∧ t.aborted = false ∧ t.SweepsOn) (fun _ ht => ht.1) ?_
      ⟨hs, hregistry.asserted, not_sweepCanEnd_iff.1 hsweep⟩ hends
    rintro t ⟨ht, haborted, hsweeps⟩
    -- every client is dead
    let env := { Env.succeeding config with alive := fun _ => false }
    obtain ⟨t', hreaper, hsweeps'⟩ :=
      @Sys.SweepsOn.exists_step files env (fun _ => rfl) t hsweeps
    obtain ⟨hdbus, habort⟩ := reaperStep_frame hreaper
    refine ⟨.reaper env, t', ?_, hdbus.trans ht, habort.trans haborted, hsweeps'⟩
    simp only [step, haborted, Bool.false_eq_true, if_false]
    exact hreaper
  · intro hsweep
    refine ⟨?_, fun actions' t hstays ht => ?_⟩
    · refine Runs.ends_of_measure (I := fun t : Sys => t.running = false ∧ t.SweepCanEnd)
        (m := Sys.reaperWork) ?_ ⟨hrunning, hsweep⟩
      rintro t a t' ⟨hrun, hcan⟩ ht hstep ht'
      obtain ⟨env, -, hreaper⟩ := reaperStep_of_joining ht hstep ht'
      obtain ⟨hcan', hlt⟩ := reaperStep_work hrun hcan hreaper
      exact ⟨⟨(reaperStep_handover hreaper).2.2.1.trans hrun, hcan'⟩, hlt⟩
    · have hregistry' := Runs.exec_invariant registryInvariant_step hregistry ht
      have hjoining := (Runs.stays_iff.1 hstays).2.exec ht
      exact exists_step_of_joining hjoining hregistry'.asserted (.succeeding config)

private def refreshWithGame (config : Config) : List Action :=
  [.receive (.call ⟨.register, 5, 5⟩)] ++ List.replicate 7 (.dbus (.succeeding config)) ++
    [.receive .refreshConfig, .dbus (.succeeding config)]

/-- The refresh ends. -/
theorem refreshEnds_of_game :
    ∃ s, Runs.exec (step .unreadable)
        (startSys .unreadable ∅ Config.initial
          (.plain "powersave".toList "balanced".toList ∅ [])) (refreshWithGame Config.initial) =
          some s ∧
      s.world.pids = [5] ∧ RefreshEnds .unreadable s := by
  refine ⟨_, rfl, rfl, ?_⟩
  exact (@refreshEnds_iff .unreadable ∅ Config.initial
    (.plain "powersave".toList "balanced".toList ∅ []) (refreshWithGame Config.initial) _ rfl
    rfl).2 (Or.inl rfl)

end GameMode
