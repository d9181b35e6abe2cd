import GameMode.Daemon.ActiveRuns
import Mathlib.Data.Finset.Basic

/-!
# The signals of the registry

The daemon announces every change of the registry by a signal, which it sends after it has given up
the lock. A listener that adds the game of every `GameRegistered` and removes the game of every
`GameUnregistered` follows the registry as long as the signals about one game come in the order of
the changes.

Each of the two threads has at most one signal to send. When both have one about the same game, the
changes were made in one order, and nothing keeps the threads from sending the signals in the other
one. So the listener is right along exactly the runs in which this does not happen.

## Main definitions

* `World.signals`, `announced`, `listener`: the signals, and what a listener makes of them.
* `Sys.unsent`, `Sys.history`: the signals about a game that are still to be sent, and all of them.
* `Sys.SignalsTruthful`: the signals tell the truth about the registry.
* `Action.InOrder`: a signal is sent in the order of the changes.

## Main results

* `mem_listener`: the listener holds the games whose last signal is `GameRegistered`.
* `step_notice`: what a step does to the registry and its signals.
* `signalsTruthful_along_iff`: the runs along which the signals tell the truth.

Source: `daemon/gamemode-context.c`; `daemon/gamemode-dbus.c`,
`game_mode_client_send_game_signal`.
-/

namespace GameMode

/-! ### Signals and listeners -/

/-- The signal that an event is: `true` for `GameRegistered`, `false` for `GameUnregistered`. -/
def Event.signalled : Event → Option (Bool × Pid)
  | .signal registered client => some (registered, client)
  | _ => none

/-- The signals that were sent, in order. -/
def World.signals (w : World) : List (Bool × Pid) := w.log.filterMap Event.signalled

/-- The signals about one game. -/
def announced (client : Pid) (signals : List (Bool × Pid)) : List Bool :=
  (signals.filter fun signal => signal.2 = client).map Prod.fst

/-- The games that a listener holds after a signal. -/
def hear (held : Finset Pid) (signal : Bool × Pid) : Finset Pid :=
  if signal.1 then insert signal.2 held else held.erase signal.2

/-- The games that a listener holds that started with none. -/
def listener (signals : List (Bool × Pid)) : Finset Pid := signals.foldl hear ∅

theorem Alternates.left {turns turns' : List Bool} (h : Alternates (turns ++ turns')) :
    Alternates turns := by
  rw [Alternates, ← List.cons_append] at h
  exact h.left_of_append

theorem announced_concat (client : Pid) (signals : List (Bool × Pid)) (signal : Bool × Pid) :
    announced client (signals ++ [signal]) =
      announced client signals ++ if signal.2 = client then [signal.1] else [] := by
  rw [announced, List.filter_append, List.map_append, announced]
  by_cases h : signal.2 = client <;> simp [h]

/-- The listener holds the games whose last signal is `GameRegistered`. -/
theorem mem_listener (client : Pid) (signals : List (Bool × Pid)) :
    client ∈ listener signals ↔ (announced client signals).getLast?.getD false = true := by
  induction signals using List.reverseRecOn with
  | nil => simp [listener, announced]
  | append_singleton signals signal ih =>
    obtain ⟨registered, other⟩ := signal
    have hhear : listener (signals ++ [(registered, other)]) =
        hear (listener signals) (registered, other) := by
      rw [listener, List.foldl_append]
      rfl
    rw [hhear, announced_concat]
    by_cases hother : other = client
    · subst hother
      cases registered <;> simp [hear]
    · have hne : client ≠ other := Ne.symm hother
      cases registered <;> simp [hear, hother, hne, ih]

theorem signals_of_log {w w' : World} {events : List Event} (hlog : w'.log = w.log ++ events) :
    w'.signals = w.signals ++ events.filterMap Event.signalled := by
  rw [World.signals, hlog, List.filterMap_append]
  rfl

theorem signals_of_forall {w w' : World} {events : List Event} (hlog : w'.log = w.log ++ events)
    (hevents : ∀ e ∈ events, e.signalled = none) : w'.signals = w.signals := by
  rw [signals_of_log hlog, List.filterMap_eq_nil_iff.2 hevents, List.append_nil]

theorem signalled_executeScripts (scripts : StringList) :
    ∀ e ∈ executeScripts scripts, e.signalled = none := by
  intro e he
  obtain ⟨text, -, rfl⟩ := List.mem_map.1 he
  rfl

theorem signalled_cons_executeScripts {e : Event} (he : e.signalled = none)
    (scripts : StringList) : ∀ e' ∈ e :: executeScripts scripts, e'.signalled = none :=
  List.forall_mem_cons.2 ⟨he, signalled_executeScripts scripts⟩

variable {files : CpuSysfs}

theorem signals_insertClient (env : Env) (cl : Client) (w : World) :
    (insertClient files env cl w).signals = w.signals := by
  refine signals_of_forall (insertClient_log files env cl w) (List.forall_mem_cons.2 ⟨rfl, ?_⟩)
  split_ifs
  · exact signalled_cons_executeScripts rfl _
  · exact List.forall_mem_nil _

theorem signals_removeClient {env : Env} {client : Pid} {w w' : World}
    (h : removeClient env client w = some w') : w'.signals = w.signals := by
  refine signals_of_forall (removeClient_log h) (List.forall_mem_cons.2 ⟨rfl, ?_⟩)
  split_ifs
  · exact signalled_cons_executeScripts rfl _
  · exact List.forall_mem_nil _

theorem signals_restartSection (env : Env) (w : World) :
    (restartSection files env w).signals = w.signals := by
  refine signals_of_forall (restartSection_log files env w) ?_
  rw [List.forall_mem_append]
  exact ⟨signalled_cons_executeScripts rfl _, signalled_cons_executeScripts rfl _⟩

theorem signals_reloadConfigInternal (env : Env) (w : World) :
    (reloadConfigInternal files env w).signals = w.signals := by
  refine signals_of_forall (reloadConfigInternal_log files env w) ?_
  split_ifs
  · rw [List.forall_mem_append]
    exact ⟨signalled_cons_executeScripts rfl _, signalled_cons_executeScripts rfl _⟩
  · exact List.forall_mem_nil _

theorem signals_reapplyCorePinningInternal (env : Env) (w : World) :
    (reapplyCorePinningInternal env w).signals = w.signals := by
  rw [reapplyCorePinningInternal]
  split_ifs <;> rfl

theorem signals_say {e : Event} (he : e.signalled = none) (w : World) :
    (w.say e).signals = w.signals :=
  signals_of_forall (rfl : (w.say e).log = w.log ++ [e]) (by simpa using he)

theorem signals_say_signal (registered : Bool) (client : Pid) (w : World) :
    (w.say (.signal registered client)).signals = w.signals ++ [(registered, client)] :=
  signals_of_log (rfl : (w.say (.signal registered client)).log = w.log ++ _)

/-! ### Signals that are still to be sent -/

/-- The signal that the D-Bus thread sends next. -/
def DbusPc.unsent : DbusPc → Option (Bool × Pid)
  | .signalRegistered client => some (true, client)
  | .signalUnregistered client => some (false, client)
  | _ => none

/-- The game whose `GameUnregistered` the reaper sends next. -/
def ReaperPc.unsent : ReaperPc → Option Pid
  | .signalUnregistered client => some client
  | _ => none

/-- The signals about a game that are still to be sent, in the order of the changes: that of the
D-Bus thread, and the one of the reaper if it has one. When both are there, the change made last is
the one that the registry shows. -/
def unsentInOrder (registered : Bool) : Option Bool → Bool → List Bool
  | none, false => []
  | none, true => [false]
  | some signal, false => [signal]
  | some signal, true => if registered then [false, signal] else [signal, false]

/-- What the D-Bus thread has to send about a game. -/
def Sys.dbusUnsent (s : Sys) (client : Pid) : Option Bool :=
  (s.dbus.unsent.filter fun signal => signal.2 = client).map Prod.fst

/-- The signals about a game that are still to be sent. -/
def Sys.unsent (s : Sys) (client : Pid) : List Bool :=
  unsentInOrder (client ∈ s.world.pids) (s.dbusUnsent client) (s.reaper.unsent = some client)

/-- All signals about a game, in the order of the changes. -/
def Sys.history (s : Sys) (client : Pid) : List Bool :=
  announced client s.world.signals ++ s.unsent client

/-- No request and no expiry is in progress. -/
def Sys.NoChangeInProgress (s : Sys) : Prop :=
  s.dbus = .idle ∧
    match s.reaper with
    | .pick | .check _ | .unregister _ | .signalUnregistered _ => False
    | _ => True

/-- The signals tell the truth about the registry: those about one game alternate, starting with
`GameRegistered`, and a listener holds exactly the registered games whenever no request and no
expiry is in progress. -/
structure Sys.SignalsTruthful (s : Sys) : Prop where
  alternates : ∀ client, Alternates (announced client s.world.signals)
  listener_eq : s.NoChangeInProgress → listener s.world.signals = s.world.pids.toFinset

/-- A signal is sent in the order of the changes: when both threads have one about a game, the
D-Bus thread comes first unless the game is registered again, and the reaper comes first if it
is. -/
def Action.InOrder (s : Sys) : Action → Prop
  | .receive _ => True
  | .dbus _ => ∀ client, s.dbus = .signalRegistered client →
      s.reaper = .signalUnregistered client → ¬s.world.IsRegistered client
  | .reaper _ => ∀ client, s.reaper = .signalUnregistered client →
      s.dbus = .signalRegistered client → s.world.IsRegistered client

/-! ### What a step does -/

/-- The places without a signal to send and without a reaper that is joined. -/
def DbusPc.IsPlain : DbusPc → Prop
  | .signalRegistered _ | .signalUnregistered _ | .reload | .startReaper => False
  | _ => True

/-- A request proceeds to such a place, or it is replied to. -/
def DbusNext.IsPlain : DbusNext → Prop
  | .goto pc => pc.IsPlain
  | .reply _ => True

theorem DbusPc.IsPlain.unsent : {pc : DbusPc} → pc.IsPlain → pc.unsent = none
  | .idle, _ | .check _, _ | .supervisorWhitelist _ _, _ | .supervisorBlacklist _ _, _
  | .hasClient _ _, _ | .findClient _ _, _ | .clientWhitelist _ _ _, _ | .clientBlacklist _ _ _, _
  | .insert _, _ | .unregister _, _ | .queryRefcount _, _ | .queryList _, _ | .restartRefcount, _
  | .restart, _ | .listClients, _ | .numClients, _ | .endReaper, _ | .joinReaper, _ => rfl

theorem isPlain_admitted (call : DaemonCall) : call.admitted.IsPlain := by
  rw [DaemonCall.admitted]
  cases call.operation <;> trivial

theorem isPlain_checkCall (env : Env) (config : Config) (call : DaemonCall) :
    (checkCall env config call).IsPlain := by
  have hexe : (checkExecutable env call).IsPlain := by
    rw [checkExecutable]
    split <;> trivial
  have hadmitted : (DbusNext.goto call.admitted).IsPlain := isPlain_admitted call
  rw [checkCall]
  cases call.operation with
  | register | unregister =>
    simp only
    split_ifs
    · exact hexe
    · trivial
    · exact hadmitted
  | queryStatus =>
    simp only
    split_ifs
    · exact hexe
    · exact hadmitted
  | restart => exact hexe

theorem isPlain_proceed {next : DbusNext} (h : next.IsPlain) (s : Sys) :
    (s.proceed next).dbus.IsPlain := by
  cases next with
  | goto pc => exact h
  | reply result => trivial

theorem pids_proceed (next : DbusNext) (s : Sys) : (s.proceed next).world.pids = s.world.pids := by
  cases next <;> rfl

theorem signals_proceed (next : DbusNext) (s : Sys) :
    (s.proceed next).world.signals = s.world.signals := by
  cases next with
  | goto pc => rfl
  | reply result => exact signals_say rfl _

theorem reaper_proceed (next : DbusNext) (s : Sys) : (s.proceed next).reaper = s.reaper := by
  cases next <;> rfl

/-- What a step does to the registry and its signals: nothing, or it changes the registry and owes
the signal, or it sends the signal that a thread owes. -/
inductive Notice (s : Sys) : Action → Sys → Prop
  | quiet {a : Action} {s' : Sys} (hpids : s'.world.pids = s.world.pids)
      (hsignals : s'.world.signals = s.world.signals) (hdbus : s'.dbus.unsent = s.dbus.unsent)
      (hreaper : s'.reaper.unsent = s.reaper.unsent) : Notice s a s'
  | registered {env : Env} {s' : Sys} {client : Pid} (hidle : s.dbus.unsent = none)
      (hnew : client ∉ s.world.pids) (hpids : s'.world.pids = client :: s.world.pids)
      (hsignals : s'.world.signals = s.world.signals)
      (hdbus : s'.dbus.unsent = some (true, client))
      (hreaper : s'.reaper.unsent = s.reaper.unsent) : Notice s (.dbus env) s'
  | removed {env : Env} {s' : Sys} {client : Pid} (hidle : s.dbus.unsent = none)
      (hmem : client ∈ s.world.pids) (hpids : s'.world.pids = s.world.pids.erase client)
      (hsignals : s'.world.signals = s.world.signals)
      (hdbus : s'.dbus.unsent = some (false, client))
      (hreaper : s'.reaper.unsent = s.reaper.unsent) : Notice s (.dbus env) s'
  | expired {env : Env} {s' : Sys} {client : Pid} (hidle : s.reaper.unsent = none)
      (hmem : client ∈ s.world.pids) (hpids : s'.world.pids = s.world.pids.erase client)
      (hsignals : s'.world.signals = s.world.signals) (hdbus : s'.dbus.unsent = s.dbus.unsent)
      (hreaper : s'.reaper.unsent = some client) : Notice s (.reaper env) s'
  | sent {env : Env} {s' : Sys} {signal : Bool × Pid} (howed : s.dbus.unsent = some signal)
      (hpids : s'.world.pids = s.world.pids)
      (hsignals : s'.world.signals = s.world.signals ++ [signal])
      (hdbus : s'.dbus.unsent = none) (hreaper : s'.reaper.unsent = s.reaper.unsent) :
      Notice s (.dbus env) s'
  | sentExpiry {env : Env} {s' : Sys} {client : Pid} (howed : s.reaper.unsent = some client)
      (hpids : s'.world.pids = s.world.pids)
      (hsignals : s'.world.signals = s.world.signals ++ [(false, client)])
      (hdbus : s'.dbus.unsent = s.dbus.unsent) (hreaper : s'.reaper.unsent = none) :
      Notice s (.reaper env) s'

theorem pids_reloadConfigInternal (env : Env) (w : World) :
    (reloadConfigInternal files env w).pids = w.pids :=
  congrArg (List.map Client.pid) (reloadConfigInternal_clients files env w).1

theorem mem_pids_of_removeClient {env : Env} {client : Pid} {w w' : World}
    (h : removeClient env client w = some w') : client ∈ w.pids :=
  World.mem_pids_iff.2 ((removeClient_isSome_iff env client w).1 (h ▸ rfl))

/-- While the D-Bus thread reloads the configuration, the reaper has exited. -/
def Sys.Joined (s : Sys) : Prop := s.dbus = .reload ∨ s.dbus = .startReaper → s.reaper = .exited

theorem joined_of_ne {s : Sys} (hreload : s.dbus ≠ .reload) (hstart : s.dbus ≠ .startReaper) :
    s.Joined := fun h => (h.elim hreload hstart).elim

theorem DbusPc.IsPlain.joined {s : Sys} (h : s.dbus.IsPlain) : s.Joined := by
  refine joined_of_ne (fun hpc => ?_) fun hpc => ?_
  · rwa [hpc] at h
  · rwa [hpc] at h

theorem dbusStep_notice {env : Env} {s s' : Sys} (h : dbusStep files env s = some s')
    (hpending : ∀ client ∈ s.dbus.pending, ¬s.world.IsRegistered client) (hjoined : s.Joined) :
    Notice s (.dbus env) s' ∧ s'.Joined := by
  have hplain : ∀ next : DbusNext, next.IsPlain → s.proceed next = s' → s.dbus.unsent = none →
      Notice s (.dbus env) s' ∧ s'.Joined := by
    rintro next hnext rfl hidle
    have hpc := isPlain_proceed hnext s
    exact ⟨.quiet (pids_proceed next s) (signals_proceed next s) (hpc.unsent.trans hidle.symm)
      (by rw [reaper_proceed]), hpc.joined⟩
  cases hpc : s.dbus <;> simp only [dbusStep, hpc, reduceCtorEq, Option.some.injEq] at h
  case check call => exact hplain _ (isPlain_checkCall _ _ _) h (hpc ▸ rfl)
  case supervisorBlacklist call executable =>
    refine hplain _ ?_ h (hpc ▸ rfl)
    split_ifs
    · trivial
    · exact isPlain_admitted call
  case insert cl =>
    subst h
    refine ⟨.registered (hpc ▸ rfl) ?_ (insertClient_pids files env cl s.world)
      (signals_insertClient env cl s.world) rfl rfl, joined_of_ne (by simp) (by simp)⟩
    exact fun hmem => hpending cl.pid (hpc ▸ rfl) (World.mem_pids_iff.1 hmem)
  case signalRegistered client =>
    subst h
    exact ⟨.sent (hpc ▸ rfl) rfl
      ((signals_say rfl _).trans (signals_say_signal true client s.world)) rfl rfl,
      DbusPc.IsPlain.joined trivial⟩
  case signalUnregistered client =>
    subst h
    exact ⟨.sent (hpc ▸ rfl) rfl
      ((signals_say rfl _).trans (signals_say_signal false client s.world)) rfl rfl,
      DbusPc.IsPlain.joined trivial⟩
  case unregister client =>
    cases hremove : removeClient env client s.world with
    | none =>
      rw [hremove, Option.some.injEq] at h
      exact hplain (.reply (-1)) trivial h (hpc ▸ rfl)
    | some w =>
      rw [hremove, Option.some.injEq] at h
      subst h
      exact ⟨.removed (hpc ▸ rfl) (mem_pids_of_removeClient hremove)
        (removeClient_pids hremove) (signals_removeClient hremove) rfl rfl,
        joined_of_ne (by simp) (by simp)⟩
  case restart =>
    have hidle : s.dbus.unsent = none := hpc ▸ rfl
    subst h
    exact ⟨.quiet rfl ((signals_say rfl _).trans (signals_restartSection env s.world)) hidle.symm
      rfl, DbusPc.IsPlain.joined trivial⟩
  case listClients =>
    have hidle : s.dbus.unsent = none := hpc ▸ rfl
    split at h <;> cases h
    · exact ⟨.quiet rfl rfl hidle.symm rfl, joined_of_ne (by simp) (by simp)⟩
    · exact ⟨.quiet rfl (signals_say rfl _) hidle.symm rfl, DbusPc.IsPlain.joined trivial⟩
  case numClients =>
    have hidle : s.dbus.unsent = none := hpc ▸ rfl
    subst h
    exact ⟨.quiet rfl (signals_say rfl _) hidle.symm rfl, DbusPc.IsPlain.joined trivial⟩
  case endReaper =>
    have hidle : s.dbus.unsent = none := hpc ▸ rfl
    subst h
    exact ⟨.quiet rfl rfl hidle.symm rfl, DbusPc.IsPlain.joined trivial⟩
  case joinReaper =>
    have hidle : s.dbus.unsent = none := hpc ▸ rfl
    rw [Option.ite_none_right_eq_some, Option.some.injEq] at h
    obtain ⟨hexited, rfl⟩ := h
    exact ⟨.quiet rfl rfl hidle.symm rfl, fun _ => hexited⟩
  case reload =>
    have hidle : s.dbus.unsent = none := hpc ▸ rfl
    have hexited : s.reaper = .exited := hjoined (Or.inl hpc)
    subst h
    exact ⟨.quiet (pids_reloadConfigInternal env _) (signals_reloadConfigInternal env _) hidle.symm
      rfl, fun _ => hexited⟩
  case startReaper =>
    have hidle : s.dbus.unsent = none := hpc ▸ rfl
    have hexited : s.reaper = .exited := hjoined (Or.inr hpc)
    subst h
    exact ⟨.quiet rfl (signals_say rfl _) hidle.symm (hexited ▸ rfl),
      DbusPc.IsPlain.joined trivial⟩
  case findClient client requester =>
    refine hplain _ ?_ h (hpc ▸ rfl)
    split <;> trivial
  all_goals
    refine hplain _ ?_ h (hpc ▸ rfl)
    split_ifs <;> trivial

theorem reaperStep_notice {env : Env} {s s' : Sys} (h : reaperStep files env s = some s') :
    Notice s (.reaper env) s' := by
  cases hpc : s.reaper <;> simp only [reaperStep, hpc, reduceCtorEq, Option.some.injEq] at h
  case loop | wait =>
    subst h
    refine .quiet rfl rfl rfl ?_
    split_ifs <;> exact hpc ▸ rfl
  case checkIgpu =>
    subst h
    exact .quiet rfl rfl rfl (hpc ▸ rfl)
  case pick =>
    subst h
    refine .quiet rfl rfl rfl ?_
    cases deadClient env s.world <;> exact hpc ▸ rfl
  case check client =>
    subst h
    refine .quiet rfl rfl rfl ?_
    split_ifs <;> exact hpc ▸ rfl
  case unregister client =>
    cases hremove : removeClient env client s.world with
    | none =>
      rw [hremove, Option.some.injEq] at h
      exact h ▸ .quiet rfl rfl rfl (hpc ▸ rfl)
    | some w =>
      rw [hremove, Option.some.injEq] at h
      subst h
      exact .expired (hpc ▸ rfl) (mem_pids_of_removeClient hremove)
        (removeClient_pids hremove) (signals_removeClient hremove) rfl rfl
  case signalUnregistered client =>
    subst h
    exact .sentExpiry (hpc ▸ rfl) rfl (signals_say_signal false client s.world) rfl rfl
  case reapplyCorePinning =>
    subst h
    refine .quiet ?_ (signals_reapplyCorePinningInternal env s.world) rfl (hpc ▸ rfl)
    exact congrArg (List.map Client.pid) (quiet_reapplyCorePinningInternal env s.world).clients
  case needsReload =>
    subst h
    refine .quiet rfl rfl rfl ?_
    split_ifs <;> exact hpc ▸ rfl
  case reload =>
    subst h
    exact .quiet (pids_reloadConfigInternal env _) (signals_reloadConfigInternal env _) rfl
      (hpc ▸ rfl)

theorem reaperStep_joined {env : Env} {s s' : Sys} (h : reaperStep files env s = some s')
    (hjoined : s.Joined) : s'.Joined := by
  intro hpc
  rw [(reaperStep_frame h).1] at hpc
  have hexited := hjoined hpc
  simp only [reaperStep, hexited, reduceCtorEq] at h

/-- **Steps.** What a step does to the registry and its signals. -/
theorem step_notice {s s' : Sys} {a : Action} (h : step files s a = some s')
    (hpending : ∀ client ∈ s.dbus.pending, ¬s.world.IsRegistered client) (hjoined : s.Joined) :
    Notice s a s' ∧ s'.Joined := by
  rcases (step_cases h).2 with ⟨request, rfl, hpc, rfl⟩ | ⟨env, rfl, hdbus⟩ | ⟨env, rfl, hreaper⟩
  · refine ⟨.quiet rfl rfl ?_ rfl, ?_⟩
    · rw [hpc]
      cases request <;> rfl
    · cases request <;> exact DbusPc.IsPlain.joined trivial
  · exact dbusStep_notice hdbus hpending hjoined
  · exact ⟨reaperStep_notice hreaper, reaperStep_joined hreaper hjoined⟩

/-! ### The history of a game -/

/-- All signals about a game, sent and unsent, alternate, and the last one is what the registry
shows. -/
structure Sys.AnnouncesAll (s : Sys) (client : Pid) : Prop where
  alternates : Alternates (s.history client)
  last_iff : (s.history client).getLast?.getD false = true ↔ client ∈ s.world.pids

theorem dbusUnsent_of_none {s : Sys} (h : s.dbus.unsent = none) (client : Pid) :
    s.dbusUnsent client = none := by
  simp [Sys.dbusUnsent, h]

theorem dbusUnsent_self {s : Sys} {signal : Bool} {client : Pid}
    (h : s.dbus.unsent = some (signal, client)) : s.dbusUnsent client = some signal := by
  simp [Sys.dbusUnsent, h]

theorem dbusUnsent_of_ne {s : Sys} {signal : Bool} {client other : Pid}
    (h : s.dbus.unsent = some (signal, other)) (hne : client ≠ other) :
    s.dbusUnsent client = none := by
  simp [Sys.dbusUnsent, h, Ne.symm hne]

theorem dbusUnsent_congr {s s' : Sys} (h : s'.dbus.unsent = s.dbus.unsent) (client : Pid) :
    s'.dbusUnsent client = s.dbusUnsent client := by
  rw [Sys.dbusUnsent, h]
  rfl

theorem unsent_of_both {s : Sys} {signal : Bool} {client : Pid}
    (hdbus : s.dbusUnsent client = some signal) (hreaper : s.reaper.unsent = some client) :
    s.unsent client = if client ∈ s.world.pids then [false, signal] else [signal, false] := by
  simp [Sys.unsent, unsentInOrder, hdbus, hreaper]

theorem DbusPc.eq_signalRegistered {pc : DbusPc} {client : Pid}
    (h : pc.unsent = some (true, client)) : pc = .signalRegistered client := by
  cases pc <;> simp_all [DbusPc.unsent]

theorem ReaperPc.eq_signalUnregistered {pc : ReaperPc} {client : Pid}
    (h : pc.unsent = some client) : pc = .signalUnregistered client := by
  cases pc <;> simp_all [ReaperPc.unsent]

section History

variable {s s' : Sys} {client : Pid} (h : s.AnnouncesAll client)
include h

theorem Sys.AnnouncesAll.of_history_eq (hhistory : s'.history client = s.history client)
    (hmem : client ∈ s'.world.pids ↔ client ∈ s.world.pids) : s'.AnnouncesAll client := by
  constructor
  · rw [hhistory]
    exact h.alternates
  · rw [hhistory, hmem]
    exact h.last_iff

theorem Sys.AnnouncesAll.of_history_concat (signal : Bool)
    (hhistory : s'.history client = s.history client ++ [signal])
    (hbefore : client ∈ s.world.pids ↔ signal = false)
    (hafter : client ∈ s'.world.pids ↔ signal = true) : s'.AnnouncesAll client := by
  constructor
  · rw [hhistory, alternates_concat]
    refine ⟨h.alternates, fun hlast => ?_⟩
    have hiff := h.last_iff.trans hbefore
    rw [hlast] at hiff
    cases signal <;> simp at hiff
  · rw [hhistory, List.getLast?_concat, Option.getD_some]
    exact hafter.symm

theorem Sys.AnnouncesAll.of_same
    (hsignals : announced client s'.world.signals = announced client s.world.signals)
    (hmem : client ∈ s'.world.pids ↔ client ∈ s.world.pids)
    (hdbus : s'.dbusUnsent client = s.dbusUnsent client)
    (hreaper : s'.reaper.unsent = some client ↔ s.reaper.unsent = some client) :
    s'.AnnouncesAll client := by
  refine h.of_history_eq ?_ hmem
  rw [Sys.history, Sys.history, hsignals, Sys.unsent, Sys.unsent, hdbus]
  simp only [hmem, hreaper]

theorem Sys.AnnouncesAll.last_unsent {signal : Bool} {before : List Bool}
    (hunsent : s.unsent client = before ++ [signal]) : signal = true ↔ client ∈ s.world.pids := by
  have hlast := h.last_iff
  rw [Sys.history, hunsent, ← List.append_assoc, List.getLast?_concat, Option.getD_some] at hlast
  exact hlast

theorem Sys.AnnouncesAll.eq_true_of_both {signal : Bool}
    (hdbus : s.dbusUnsent client = some signal) (hreaper : s.reaper.unsent = some client) :
    signal = true := by
  by_contra hsignal
  rw [Bool.not_eq_true] at hsignal
  subst hsignal
  have hunsent : s.unsent client = [false, false] := by
    rw [unsent_of_both hdbus hreaper, ite_self]
  have halternates := h.alternates
  rw [Sys.history, hunsent, List.append_cons, alternates_concat,
    List.getLast?_concat] at halternates
  exact halternates.2 rfl

theorem Sys.AnnouncesAll.registered (hidle : s.dbus.unsent = none) (hnew : client ∉ s.world.pids)
    (hmem : client ∈ s'.world.pids) (hsignals : s'.world.signals = s.world.signals)
    (hdbus : s'.dbus.unsent = some (true, client)) (hreaper : s'.reaper.unsent = s.reaper.unsent) :
    s'.AnnouncesAll client := by
  refine h.of_history_concat true ?_ (by simp [hnew]) (by simp [hmem])
  rw [Sys.history, Sys.history, hsignals, Sys.unsent, Sys.unsent, hreaper,
    dbusUnsent_of_none hidle, dbusUnsent_self hdbus, List.append_assoc]
  by_cases hboth : s.reaper.unsent = some client <;> simp [unsentInOrder, hboth, hmem]

theorem Sys.AnnouncesAll.removed (hidle : s.dbus.unsent = none) (hmem : client ∈ s.world.pids)
    (hmem' : client ∉ s'.world.pids) (hsignals : s'.world.signals = s.world.signals)
    (hdbus : s'.dbus.unsent = some (false, client))
    (hreaper : s'.reaper.unsent = s.reaper.unsent) : s'.AnnouncesAll client := by
  -- the reaper owes nothing about a game that is registered
  have halone : s.reaper.unsent ≠ some client := by
    intro hboth
    have hunsent : s.unsent client = [] ++ [false] := by
      simp [Sys.unsent, dbusUnsent_of_none hidle, hboth, unsentInOrder]
    exact absurd ((h.last_unsent hunsent).2 hmem) Bool.false_ne_true
  refine h.of_history_concat false ?_ (by simp [hmem]) (by simp [hmem'])
  rw [Sys.history, Sys.history, hsignals, Sys.unsent, Sys.unsent, hreaper,
    dbusUnsent_of_none hidle, dbusUnsent_self hdbus, List.append_assoc]
  simp [unsentInOrder, halone]

theorem Sys.AnnouncesAll.expired (hidle : s.reaper.unsent = none) (hmem : client ∈ s.world.pids)
    (hmem' : client ∉ s'.world.pids) (hsignals : s'.world.signals = s.world.signals)
    (hdbus : s'.dbus.unsent = s.dbus.unsent) (hreaper : s'.reaper.unsent = some client) :
    s'.AnnouncesAll client := by
  refine h.of_history_concat false ?_ (by simp [hmem]) (by simp [hmem'])
  rw [Sys.history, Sys.history, hsignals, Sys.unsent, Sys.unsent, dbusUnsent_congr hdbus, hreaper,
    hidle, List.append_assoc]
  cases s.dbusUnsent client <;> simp [unsentInOrder, hmem']

theorem Sys.AnnouncesAll.sent {signal : Bool} (howed : s.dbus.unsent = some (signal, client))
    (hmem : client ∈ s'.world.pids ↔ client ∈ s.world.pids)
    (hsignals : s'.world.signals = s.world.signals ++ [(signal, client)])
    (hdbus : s'.dbus.unsent = none) (hreaper : s'.reaper.unsent = s.reaper.unsent)
    (horder : signal = true → s.reaper.unsent = some client → client ∉ s.world.pids) :
    s'.AnnouncesAll client := by
  refine h.of_history_eq ?_ hmem
  rw [Sys.history, Sys.history, hsignals, announced_concat, if_pos rfl, List.append_assoc,
    Sys.unsent, Sys.unsent, hreaper, dbusUnsent_of_none hdbus, dbusUnsent_self howed]
  by_cases hboth : s.reaper.unsent = some client
  · have hsignal := h.eq_true_of_both (dbusUnsent_self howed) hboth
    have hgone := horder hsignal hboth
    simp [unsentInOrder, hboth, hgone]
  · simp [unsentInOrder, hboth]

theorem Sys.AnnouncesAll.sentExpiry (howed : s.reaper.unsent = some client)
    (hmem : client ∈ s'.world.pids ↔ client ∈ s.world.pids)
    (hsignals : s'.world.signals = s.world.signals ++ [(false, client)])
    (hdbus : s'.dbus.unsent = s.dbus.unsent) (hreaper : s'.reaper.unsent = none)
    (horder : s.dbus.unsent = some (true, client) → client ∈ s.world.pids) :
    s'.AnnouncesAll client := by
  refine h.of_history_eq ?_ hmem
  rw [Sys.history, Sys.history, hsignals, announced_concat, if_pos rfl, List.append_assoc,
    Sys.unsent, Sys.unsent, dbusUnsent_congr hdbus, hreaper, howed]
  cases hboth : s.dbusUnsent client with
  | none => simp [unsentInOrder]
  | some signal =>
    have hsignal := h.eq_true_of_both hboth howed
    have hagain : client ∈ s.world.pids := by
      refine horder ?_
      rw [Sys.dbusUnsent, Option.map_eq_some_iff] at hboth
      obtain ⟨⟨_, other⟩, hfilter, rfl⟩ := hboth
      rw [Option.filter_eq_some_iff, decide_eq_true_eq] at hfilter
      obtain ⟨hsome, rfl⟩ := hfilter
      rw [hsome, ← hsignal]
    simp [unsentInOrder, hagain]

end History

/-- A step that sends its signal in order, or none, keeps the histories right. -/
theorem announcesAll_of_notice {s s' : Sys} {a : Action} (hnotice : Notice s a s')
    (hnodup : s.world.pids.Nodup) (ha : a.InOrder s) (h : ∀ client, s.AnnouncesAll client)
    (client : Pid) : s'.AnnouncesAll client := by
  cases hnotice with
  | quiet hpids hsignals hdbus hreaper =>
    exact (h client).of_same (by rw [hsignals]) (by rw [hpids]) (dbusUnsent_congr hdbus client)
      (by rw [hreaper])
  | @registered env s' other hidle hnew hpids hsignals hdbus hreaper =>
    by_cases hother : client = other
    · subst hother
      exact (h client).registered hidle hnew (hpids ▸ List.mem_cons_self) hsignals hdbus hreaper
    · exact (h client).of_same (by rw [hsignals]) (by simp [hpids, hother])
        ((dbusUnsent_of_ne hdbus hother).trans (dbusUnsent_of_none hidle client).symm)
        (by rw [hreaper])
  | @removed env s' other hidle hmem hpids hsignals hdbus hreaper =>
    by_cases hother : client = other
    · subst hother
      exact (h client).removed hidle hmem (hpids ▸ hnodup.not_mem_erase) hsignals hdbus hreaper
    · exact (h client).of_same (by rw [hsignals]) (by rw [hpids, List.mem_erase_of_ne hother])
        ((dbusUnsent_of_ne hdbus hother).trans (dbusUnsent_of_none hidle client).symm)
        (by rw [hreaper])
  | @expired env s' other hidle hmem hpids hsignals hdbus hreaper =>
    by_cases hother : client = other
    · subst hother
      exact (h client).expired hidle hmem (hpids ▸ hnodup.not_mem_erase) hsignals hdbus hreaper
    · exact (h client).of_same (by rw [hsignals]) (by rw [hpids, List.mem_erase_of_ne hother])
        (dbusUnsent_congr hdbus client) (by simp [hreaper, hidle, Ne.symm hother])
  | @sent env s' signal howed hpids hsignals hdbus hreaper =>
    obtain ⟨signal, other⟩ := signal
    by_cases hother : client = other
    · subst hother
      refine (h client).sent howed (by rw [hpids]) hsignals hdbus hreaper fun hsignal hboth => ?_
      rw [World.mem_pids_iff]
      exact ha client (DbusPc.eq_signalRegistered (hsignal ▸ howed))
        (ReaperPc.eq_signalUnregistered hboth)
    · exact (h client).of_same (by simp [hsignals, announced_concat, Ne.symm hother])
        (by rw [hpids])
        ((dbusUnsent_of_none hdbus client).trans (dbusUnsent_of_ne howed hother).symm)
        (by rw [hreaper])
  | @sentExpiry env s' other howed hpids hsignals hdbus hreaper =>
    by_cases hother : client = other
    · subst hother
      refine (h client).sentExpiry howed (by rw [hpids]) hsignals hdbus hreaper fun hboth => ?_
      rw [World.mem_pids_iff]
      exact ha client (ReaperPc.eq_signalUnregistered howed) (DbusPc.eq_signalRegistered hboth)
    · exact (h client).of_same (by simp [hsignals, announced_concat, Ne.symm hother])
        (by rw [hpids]) (dbusUnsent_congr hdbus client) (by simp [hreaper, howed, Ne.symm hother])

/-! ### Runs -/

/-- The invariant of the system when all signals are sent in order. -/
structure Sys.SignalInvariant (s : Sys) : Prop where
  registry : s.RegistryInvariant
  joined : s.Joined
  announcesAll : ∀ client, s.AnnouncesAll client

theorem signalInvariant_start (allocated : Finset ℕ) (config : Config) (system : OriginalSystem) :
    (Sys.start (contextInit files allocated config system)).SignalInvariant where
  registry := ⟨consistent_contextInit files allocated config system, nofun, rfl⟩
  joined := DbusPc.IsPlain.joined trivial
  announcesAll client := ⟨(by decide : Alternates []), iff_of_false Bool.false_ne_true (by
    simp [Sys.start, World.pids, contextInit])⟩

theorem unsent_of_noChangeInProgress {s : Sys} (h : s.NoChangeInProgress) (client : Pid) :
    s.unsent client = [] := by
  obtain ⟨hdbus, hreaper⟩ := h
  have hnone : s.reaper.unsent = none := by
    cases hpc : s.reaper <;> rw [hpc] at hreaper <;> first | rfl | exact hreaper.elim
  simp [Sys.unsent, Sys.dbusUnsent, hdbus, hnone, DbusPc.unsent, unsentInOrder]

theorem Sys.SignalInvariant.truthful {s : Sys} (h : s.SignalInvariant) : s.SignalsTruthful where
  alternates client := (h.announcesAll client).alternates.left
  listener_eq hrest := by
    ext client
    rw [mem_listener, List.mem_toFinset, ← (h.announcesAll client).last_iff, Sys.history,
      unsent_of_noChangeInProgress hrest, List.append_nil]

theorem signalInvariant_step (s : Sys) (a : Action) (s' : Sys) (h : s.SignalInvariant)
    (ha : a.InOrder s) (hstep : step files s a = some s') : s'.SignalInvariant := by
  obtain ⟨hnotice, hjoined⟩ := step_notice hstep h.registry.pending h.joined
  exact ⟨registryInvariant_step s a s' h.registry hstep, hjoined,
    announcesAll_of_notice hnotice h.registry.consistent.nodup ha h.announcesAll⟩

theorem not_alternates_of_swap {signals : List Bool} {signal : Bool}
    (h : Alternates (signals ++ [!signal, signal])) : ¬Alternates (signals ++ [signal]) := by
  rw [List.append_cons, alternates_concat, alternates_concat] at h
  rw [alternates_concat]
  rintro ⟨-, hlast⟩
  have hother := h.1.2
  cases signal <;> simp_all

/-- A signal that is sent out of order can be sent, and does not tell the truth. -/
theorem exists_step_not_truthful (s : Sys) (a : Action) (h : s.SignalInvariant)
    (ha : ¬a.InOrder s) : ∃ s', step files s a = some s' ∧ ¬s'.SignalsTruthful := by
  cases a with
  | receive request => exact absurd trivial ha
  | dbus env =>
    simp only [Action.InOrder, not_forall, not_not] at ha
    obtain ⟨client, hdbus, hreaper, hmem⟩ := ha
    have hhistory : Alternates (announced client s.world.signals ++ [false, true]) := by
      have howed : s.dbus.unsent = some (true, client) := hdbus ▸ rfl
      have halternates := (h.announcesAll client).alternates
      rwa [Sys.history, unsent_of_both (dbusUnsent_self howed) (hreaper ▸ rfl),
        if_pos (World.mem_pids_iff.2 hmem)] at halternates
    refine ⟨({ s with world := s.world.say (.signal true client) }).proceed (.reply 0), ?_, ?_⟩
    · simp only [step, h.registry.asserted, dbusStep, hdbus, Bool.false_eq_true, if_false]
    · intro htruth
      have hsignals : (({ s with world := s.world.say (.signal true client) }).proceed
          (.reply 0)).world.signals = s.world.signals ++ [(true, client)] :=
        (signals_say rfl _).trans (signals_say_signal true client s.world)
      have halternates := htruth.alternates client
      rw [hsignals, announced_concat, if_pos rfl] at halternates
      exact not_alternates_of_swap hhistory halternates
  | reaper env =>
    simp only [Action.InOrder, not_forall] at ha
    obtain ⟨client, hreaper, hdbus, hmem⟩ := ha
    have hhistory : Alternates (announced client s.world.signals ++ [true, false]) := by
      have howed : s.dbus.unsent = some (true, client) := hdbus ▸ rfl
      have halternates := (h.announcesAll client).alternates
      rwa [Sys.history, unsent_of_both (dbusUnsent_self howed) (hreaper ▸ rfl),
        if_neg (mt World.mem_pids_iff.1 hmem)] at halternates
    refine ⟨{ s with world := s.world.say (.signal false client), reaper := .pick }, ?_, ?_⟩
    · simp only [step, h.registry.asserted, reaperStep, hreaper, Bool.false_eq_true, if_false]
    · intro htruth
      have halternates := htruth.alternates client
      rw [signals_say_signal false client s.world, announced_concat, if_pos rfl] at halternates
      exact not_alternates_of_swap hhistory halternates

/-- **Signals.** The signals tell the truth about the registry along a run exactly when every step
of it that sends a signal sends it in the order of the changes. -/
theorem signalsTruthful_along_iff (allocated : Finset ℕ) (config : Config)
    (system : OriginalSystem) (actions : List Action) :
    Runs.Along (step files) (Sys.start (contextInit files allocated config system)) actions
        Sys.SignalsTruthful ↔
      Runs.StepsAlong (step files) (Sys.start (contextInit files allocated config system)) actions
        fun s a => a.InOrder s := by
  have hstart := @signalInvariant_start files allocated config system
  constructor
  · exact Runs.stepsAlong_of_along signalInvariant_step exists_step_not_truthful hstart actions
  · intro h before hbefore s hrun
    exact (Runs.along_of_stepsAlong signalInvariant_step hstart h before hbefore s hrun).truthful

/-- A game that dies while it is registered: the reaper removes it, and sends its signal, before the
D-Bus thread sends the signal of the registration. -/
private def expiryBeforeSignal : List Action :=
  [.receive (.call ⟨.register, 5, 5⟩)] ++ List.replicate 6 (.dbus (.succeeding Config.initial)) ++
    List.replicate 7 (.reaper { Env.succeeding Config.initial with alive := fun _ => false }) ++
    [.dbus (.succeeding Config.initial)] ++
    List.replicate 3 (.reaper (.succeeding Config.initial))

/-- At the end no request and no expiry is in progress, and the listener holds a game that is not
registered. -/
theorem not_signalsTruthful_of_expiry :
    ¬Runs.Along (step .unreadable)
        (Sys.start (contextInit .unreadable ∅ Config.initial
          (.plain "powersave".toList "balanced".toList ∅ [])))
        expiryBeforeSignal Sys.SignalsTruthful ∧
      ∃ s, Runs.exec (step .unreadable)
          (Sys.start (contextInit .unreadable ∅ Config.initial
            (.plain "powersave".toList "balanced".toList ∅ []))) expiryBeforeSignal = some s ∧
        s.NoChangeInProgress ∧ s.world.signals = [(false, 5), (true, 5)] ∧
        listener s.world.signals = {5} ∧ s.world.pids = [] := by
  refine ⟨fun h => ?_, _, rfl, ⟨rfl, trivial⟩, rfl, by decide, rfl⟩
  exact absurd ((h.exec rfl).alternates 5) (by decide)

end GameMode
