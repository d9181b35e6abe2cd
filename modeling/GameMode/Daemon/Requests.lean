import GameMode.Daemon.Interleaving

/-!
# Requests and answers

The D-Bus thread takes one request at a time and answers it before it takes the next. The answers in
the log are those of the D-Bus thread only: the reaper adds events of its own in between. So the
answers belong to the requests in the order in which these were received. Each is of the kind of its
request, and a game is added to the list once for each registration that was answered with zero. The
changes that the D-Bus thread makes are those that its answers accept.

## Main definitions

* `Answers`: an answer that a request can get.
* `DbusPc.Serves`: the request that a place of the D-Bus thread belongs to.
* `changes`: the changes of the registry that a run makes.
* `Sys.Transcribes`: the requests so far, each with its answer.

## Main results

* `reaperStep_background`: the reaper answers nothing and adds nothing.
* `dbusStep_serves`: the D-Bus thread goes on with its request, or answers it.
* `requests_answered`: the transcript of a run.

Source: `daemon/gamemode-dbus.c`, the method handlers; `daemon/gamemode-context.c`.
-/

namespace GameMode

/-! ### Answers -/

/-- The results of an operation. -/
def Operation.results : Operation → List ℤ
  | .register | .unregister => [0, -1, -2]
  | .queryStatus => [0, 1, 2, -1, -2]
  | .restart => [0, 1, -1, -2]

/-- The answers to a request. -/
def Answers : BusRequest → Event → Prop
  | .call call, .replied result => result ∈ call.operation.results
  | .listGames, .listed _ => True
  | .clientCount, .counted _ => True
  | .refreshConfig, .replied result => result = 0
  | _, _ => False

/-- The events that answer a request. -/
def Event.isAnswer : Event → Bool
  | .replied _ | .listed _ | .counted _ => true
  | _ => false

/-- A registration of the game that was answered with zero. -/
def Registers (client : Pid) (exchange : BusRequest × Event) : Bool :=
  match exchange with
  | (.call ⟨.register, client', _⟩, .replied result) => client' = client ∧ result = 0
  | _ => false

/-- The request that a place of the D-Bus thread belongs to. -/
def DbusPc.Serves : DbusPc → BusRequest → Prop
  | .idle, _ => False
  | .check call, r | .supervisorWhitelist call _, r | .supervisorBlacklist call _, r =>
    r = .call call
  | .hasClient client requester, r | .findClient client requester, r
  | .clientWhitelist client requester _, r | .clientBlacklist client requester _, r =>
    r = .call ⟨.register, client, requester⟩
  | .insert cl, r => ∃ requester, r = .call ⟨.register, cl.pid, requester⟩
  | .signalRegistered client, r => ∃ requester, r = .call ⟨.register, client, requester⟩
  | .unregister client, r | .signalUnregistered client, r =>
    ∃ requester, r = .call ⟨.unregister, client, requester⟩
  | .queryRefcount client, r | .queryList client, r =>
    ∃ requester, r = .call ⟨.queryStatus, client, requester⟩
  | .restartRefcount, r | .restart, r => ∃ client requester, r = .call ⟨.restart, client, requester⟩
  | .listClients, r => r = .listGames
  | .numClients, r => r = .clientCount
  | .endReaper, r | .joinReaper, r | .reload, r | .startReaper, r => r = .refreshConfig

/-- A change of what is registered. -/
inductive Change
  /-- A registration was accepted. -/
  | registered (client : Pid)
  /-- A request to unregister was accepted. -/
  | unregistered (client : Pid)
  /-- The reaper removed the game. -/
  | expired (client : Pid)
  deriving DecidableEq

/-- The change that a request asked for, if it was answered with zero. -/
def accepted (exchange : BusRequest × Event) : Option Change :=
  match exchange with
  | (.call ⟨.register, client, _⟩, .replied result) =>
    if result = 0 then some (.registered client) else none
  | (.call ⟨.unregister, client, _⟩, .replied result) =>
    if result = 0 then some (.unregistered client) else none
  | _ => none

/-- The change that the D-Bus thread has made and is next to announce and to answer. -/
def DbusPc.made : DbusPc → Option Change
  | .signalRegistered client => some (.registered client)
  | .signalUnregistered client => some (.unregistered client)
  | _ => none

/-- The change that the reaper has made and is next to announce. -/
def ReaperPc.made : ReaperPc → Option Change
  | .signalUnregistered client => some (.expired client)
  | _ => none

/-- A change that a request asked for. -/
def Change.isRequested : Change → Bool
  | .registered _ | .unregistered _ => true
  | .expired _ => false

/-- The change that a step makes. A critical section that changes the registry brings its thread to
the place where it announces the change, and no other step does. -/
def Action.change (s' : Sys) : Action → Option Change
  | .receive _ => none
  | .dbus _ => s'.dbus.made
  | .reaper _ => s'.reaper.made

/-- The changes that a run makes, in order. -/
def changes (files : CpuSysfs) : Sys → List Action → List Change :=
  Runs.expandRun (step files) fun s a =>
    match step files s a with
    | none => []
    | some s' => (a.change s').toList

theorem changes_concat {files : CpuSysfs} {s t t' : Sys} {actions : List Action} {a : Action}
    (hexec : Runs.exec (step files) s actions = some t) (hstep : step files t a = some t') :
    changes files s (actions ++ [a]) = changes files s actions ++ (a.change t').toList := by
  rw [changes, Runs.expandRun_append [a] hexec, Runs.expandRun, hstep]
  simp only [Runs.expandRun, List.append_nil]

/-- The D-Bus thread has still to say that the game was registered. -/
def DbusPc.announces (client : Pid) : DbusPc → ℕ
  | .signalRegistered client' => if client' = client then 1 else 0
  | _ => 0

theorem registers_eq (client : Pid) (exchange : BusRequest × Event) :
    Registers client exchange = decide (accepted exchange = some (.registered client)) := by
  unfold Registers
  split
  · simp only [accepted, Option.ite_none_right_eq_some, Option.some.injEq, Change.registered.injEq,
      and_comm, Bool.decide_and]
  · unfold accepted
    split <;> simp_all

theorem DbusPc.announces_eq (client : Pid) (pc : DbusPc) :
    pc.announces client = if pc.made = some (.registered client) then 1 else 0 := by
  cases pc <;> simp [DbusPc.announces, DbusPc.made]

/-! ### The log -/

/-- Events that answer nothing and add nothing. -/
def Event.Background (e : Event) : Prop := e.isAnswer = false ∧ ∀ client, e ≠ .adding client

/-- The answers in the log. -/
def World.answers (w : World) : List Event := w.log.filter Event.isAnswer

theorem background_executeScripts (scripts : StringList) :
    ∀ e ∈ executeScripts scripts, e.Background := by
  intro e he
  obtain ⟨text, -, rfl⟩ := List.mem_map.1 he
  exact ⟨rfl, by simp⟩

theorem background_cons_executeScripts {e : Event} (he : e.Background) (scripts : StringList) :
    ∀ e' ∈ e :: executeScripts scripts, e'.Background :=
  List.forall_mem_cons.2 ⟨he, background_executeScripts scripts⟩

theorem background_entering : Event.Background .entering := ⟨rfl, by simp⟩

theorem background_leaving : Event.Background .leaving := ⟨rfl, by simp⟩

section Background

variable {events : List Event} (h : ∀ e ∈ events, e.Background)
include h

theorem filter_isAnswer_of_background : events.filter Event.isAnswer = [] :=
  List.filter_eq_nil_iff.2 fun e he => by simp [(h e he).1]

theorem count_adding_of_background (client : Pid) : events.count (.adding client) = 0 :=
  List.count_eq_zero.2 fun hmem => (h _ hmem).2 client rfl

end Background

/-- What is logged answers nothing and adds nothing. -/
structure Unanswered (w w' : World) : Prop where
  answers : w'.answers = w.answers
  added : ∀ client, w'.log.count (.adding client) = w.log.count (.adding client)

theorem Unanswered.of_log {w w' : World} {events : List Event} (hlog : w'.log = w.log ++ events)
    (h : ∀ e ∈ events, e.Background) : Unanswered w w' where
  answers := by
    rw [World.answers, hlog, List.filter_append, filter_isAnswer_of_background h, List.append_nil]
    rfl
  added client := by
    rw [hlog, List.count_append, count_adding_of_background h, Nat.add_zero]

theorem Unanswered.refl (w : World) : Unanswered w w := ⟨rfl, fun _ => rfl⟩

theorem unanswered_removeClient {env : Env} {client : Pid} {w w' : World}
    (h : removeClient env client w = some w') : Unanswered w w' := by
  refine .of_log (removeClient_log h) (List.forall_mem_cons.2 ⟨⟨rfl, by simp⟩, ?_⟩)
  split_ifs
  · exact background_cons_executeScripts background_leaving _
  · exact fun e he => absurd he List.not_mem_nil

theorem background_leave_enter (leaveScripts enterScripts : StringList) :
    ∀ e ∈ (.leaving :: executeScripts leaveScripts ++ .entering :: executeScripts enterScripts :
      List Event), e.Background :=
  List.forall_mem_append.2 ⟨background_cons_executeScripts background_leaving _,
    background_cons_executeScripts background_entering _⟩

theorem unanswered_reloadConfigInternal (files : CpuSysfs) (env : Env) (w : World) :
    Unanswered w (reloadConfigInternal files env w) := by
  refine .of_log (reloadConfigInternal_log files env w) ?_
  split_ifs
  · exact background_leave_enter _ _
  · exact fun e he => absurd he List.not_mem_nil

variable {files : CpuSysfs}

/-- The reaper answers nothing and adds nothing. -/
theorem reaperStep_background {env : Env} {s s' : Sys} (h : reaperStep files env s = some s') :
    Unanswered s.world s'.world := by
  cases hpc : s.reaper <;> simp only [reaperStep, hpc, reduceCtorEq, Option.some.injEq] at h
  case unregister client =>
    cases hremove : removeClient env client s.world with
    | none =>
      rw [hremove, Option.some.injEq] at h
      exact h ▸ .refl _
    | some w =>
      rw [hremove, Option.some.injEq] at h
      exact h ▸ unanswered_removeClient hremove
  case signalUnregistered client =>
    subst h
    exact .of_log rfl (List.forall_mem_singleton.2 ⟨rfl, by simp⟩)
  case reapplyCorePinning =>
    subst h
    simp only [reapplyCorePinningInternal]
    split_ifs
    · exact .of_log (List.append_nil _).symm fun e he => absurd he List.not_mem_nil
    · exact .refl _
  case reload =>
    subst h
    exact unanswered_reloadConfigInternal files env _
  all_goals
    subst h
    exact .of_log (List.append_nil _).symm fun e he => absurd he List.not_mem_nil

/-! ### The D-Bus thread -/

/-- A step of the D-Bus thread that serves `r`: it goes on, having added the game if that is next to
be announced, or it gives an answer of its kind, which is zero for a change just when this was to be
announced. -/
structure ServesOn (r : BusRequest) (s s' : Sys) : Prop where
  serves : s'.dbus.Serves r
  made : s.dbus.made = none
  answers : s'.world.answers = s.world.answers
  added : ∀ client, s'.world.log.count (.adding client) + s.dbus.announces client =
    s.world.log.count (.adding client) + s'.dbus.announces client

/-- The request is answered. -/
structure ServesLast (r : BusRequest) (s s' : Sys) (answer : Event) : Prop where
  idle : s'.dbus = .idle
  answers : s'.world.answers = s.world.answers ++ [answer]
  kind : Answers r answer
  added : ∀ client, s'.world.log.count (.adding client) = s.world.log.count (.adding client)
  made : s.dbus.made = accepted (r, answer)

theorem ServesLast.announces {r : BusRequest} {s s' : Sys} {answer : Event}
    (h : ServesLast r s s' answer) (client : Pid) :
    s.dbus.announces client = if Registers client (r, answer) then 1 else 0 := by
  simp only [DbusPc.announces_eq, h.made, registers_eq, decide_eq_true_eq]

/-- The answer is the last event. -/
theorem ServesLast.of_say {r : BusRequest} {s s' : Sys} {w : World} {answer : Event}
    (h : Unanswered s.world w) (hidle : s'.dbus = .idle) (hworld : s'.world = w.say answer)
    (hanswer : answer.isAnswer = true) (hkind : Answers r answer)
    (hmade : s.dbus.made = accepted (r, answer)) : ServesLast r s s' answer := by
  refine ⟨hidle, ?_, hkind, fun client => ?_, hmade⟩
  · rw [← h.answers, hworld, World.answers, World.say, List.filter_append,
      List.filter_singleton, hanswer]
    rfl
  · have hne : ¬answer = .adding client := by
      rintro rfl
      cases hanswer
    rw [← h.added client, hworld, World.say, List.count_append, List.count_singleton,
      if_neg (by simpa using hne), Nat.add_zero]

/-- Where a thread goes next fits the request that it serves. -/
def DbusNext.Fits (r : BusRequest) : DbusNext → Prop
  | .goto pc => pc.Serves r ∧ pc.made = none
  | .reply result => Answers r (.replied result) ∧ accepted (r, .replied result) = none

/-- A thread that had nothing to announce goes on. -/
theorem servesOn_or_last_proceed {r : BusRequest} {s : Sys} {next : DbusNext} (hnext : next.Fits r)
    (hs : s.dbus.made = none) :
    ServesOn r s (s.proceed next) ∨ ∃ answer, ServesLast r s (s.proceed next) answer := by
  cases next with
  | goto pc =>
    obtain ⟨hserves, hpc⟩ := hnext
    refine Or.inl ⟨hserves, hs, rfl, fun client => ?_⟩
    have hnone : pc.announces client = s.dbus.announces client := by
      rw [DbusPc.announces_eq, DbusPc.announces_eq, hpc, hs]
    exact congrArg (s.world.log.count (.adding client) + ·) hnone.symm
  | reply result =>
    obtain ⟨hkind, haccepted⟩ := hnext
    exact Or.inr ⟨.replied result, .of_say (.refl _) rfl rfl rfl hkind (hs.trans haccepted.symm)⟩

theorem DbusNext.Fits.ite {r : BusRequest} {p : Prop} [Decidable p] {next next' : DbusNext}
    (h : next.Fits r) (h' : next'.Fits r) : (if p then next else next').Fits r := by
  split_ifs
  · exact h
  · exact h'

theorem fits_refused (call : DaemonCall) {result : ℤ} (h : result = -1 ∨ result = -2) :
    (DbusNext.reply result).Fits (.call call) := by
  obtain ⟨operation, client, requester⟩ := call
  refine ⟨?_, ?_⟩
  · rcases h with rfl | rfl <;> cases operation <;> simp [Answers, Operation.results]
  · rcases h with rfl | rfl <;> cases operation <;> simp [accepted]

theorem fits_admitted (call : DaemonCall) : (DbusNext.goto call.admitted).Fits (.call call) := by
  obtain ⟨operation, client, requester⟩ := call
  cases operation <;> simp [DbusNext.Fits, DaemonCall.admitted, DbusPc.Serves, DbusPc.made]

theorem fits_checkCall (env : Env) (config : Config) (call : DaemonCall) :
    (checkCall env config call).Fits (.call call) := by
  have hexecutable : (checkExecutable env call).Fits (.call call) := by
    rw [checkExecutable]
    split
    · exact fits_refused call (Or.inl rfl)
    · exact ⟨rfl, rfl⟩
  have hadmitted := fits_admitted call
  have hrefused : (DbusNext.reply (-2)).Fits (.call call) := fits_refused call (Or.inr rfl)
  rw [checkCall]
  cases call.operation
  case restart => exact hexecutable
  case queryStatus => exact hexecutable.ite hadmitted
  all_goals exact hexecutable.ite (hrefused.ite hadmitted)

/-- **The D-Bus thread.** It goes on with the request that it serves, or answers it. -/
theorem dbusStep_serves {env : Env} {s s' : Sys} {r : BusRequest} (hr : s.dbus.Serves r)
    (hasserted : s'.aborted = false) (h : dbusStep files env s = some s') :
    ServesOn r s s' ∨ ∃ answer, ServesLast r s s' answer := by
  cases hpc : s.dbus <;>
    simp only [dbusStep, hpc, reduceCtorEq, Option.some.injEq] at h <;>
    simp only [hpc, DbusPc.Serves] at hr
  case check call =>
    subst hr h
    exact servesOn_or_last_proceed (fits_checkCall env _ call) (congrArg DbusPc.made hpc)
  case supervisorWhitelist call executable =>
    subst hr h
    exact servesOn_or_last_proceed
      ((fits_refused call (Or.inr rfl)).ite ⟨rfl, rfl⟩) (congrArg DbusPc.made hpc)
  case supervisorBlacklist call executable =>
    subst hr h
    exact servesOn_or_last_proceed
      ((fits_refused call (Or.inr rfl)).ite (fits_admitted call)) (congrArg DbusPc.made hpc)
  case hasClient client requester | clientWhitelist client requester executable =>
    subst hr h
    exact servesOn_or_last_proceed
      ((fits_refused _ (Or.inl rfl)).ite ⟨rfl, rfl⟩) (congrArg DbusPc.made hpc)
  case clientBlacklist client requester executable =>
    subst hr h
    exact servesOn_or_last_proceed
      ((fits_refused _ (Or.inl rfl)).ite ⟨⟨requester, rfl⟩, rfl⟩) (congrArg DbusPc.made hpc)
  case findClient client requester =>
    subst hr h
    refine servesOn_or_last_proceed ?_ (congrArg DbusPc.made hpc)
    split
    · exact fits_refused _ (Or.inl rfl)
    · exact ⟨rfl, rfl⟩
  case insert cl =>
    subst h
    have hlog := insertClient_log files env cl s.world
    have hevents : ∀ e ∈ (if s.world.refcount = 0 then
        .entering :: executeScripts s.world.config.getGamemodeStartScripts else [] : List Event),
        e.Background := by
      split_ifs
      · exact background_cons_executeScripts background_entering _
      · exact fun e he => absurd he List.not_mem_nil
    refine Or.inl ⟨hr, congrArg DbusPc.made hpc, ?_, fun client => ?_⟩
    · simp only [World.answers, hlog, List.filter_append, List.filter_cons, Event.isAnswer,
        Bool.false_eq_true, if_false, filter_isAnswer_of_background hevents, List.append_nil]
    · simp only [hlog, List.count_append, List.count_cons, count_adding_of_background hevents,
        DbusPc.announces, hpc, beq_iff_eq, Event.adding.injEq, Nat.zero_add, Nat.add_zero]
  case signalRegistered client =>
    subst h
    obtain ⟨requester, rfl⟩ := hr
    have hsignal : Unanswered s.world (s.world.say (.signal true client)) :=
      .of_log rfl (List.forall_mem_singleton.2 ⟨rfl, by simp⟩)
    refine Or.inr ⟨.replied 0, .of_say hsignal rfl rfl rfl (by simp [Answers, Operation.results])
      ?_⟩
    simp [DbusPc.made, hpc, accepted]
  case unregister client =>
    obtain ⟨requester, rfl⟩ := hr
    cases hremove : removeClient env client s.world with
    | none =>
      rw [hremove, Option.some.injEq] at h
      subst h
      exact servesOn_or_last_proceed (fits_refused _ (Or.inl rfl)) (congrArg DbusPc.made hpc)
    | some w =>
      rw [hremove, Option.some.injEq] at h
      subst h
      obtain ⟨hanswers, hadded⟩ := unanswered_removeClient hremove
      exact Or.inl ⟨⟨requester, rfl⟩, congrArg DbusPc.made hpc, hanswers,
        fun client' => by rw [hpc, hadded client']; rfl⟩
  case signalUnregistered client =>
    subst h
    obtain ⟨requester, rfl⟩ := hr
    have hsignal : Unanswered s.world (s.world.say (.signal false client)) :=
      .of_log rfl (List.forall_mem_singleton.2 ⟨rfl, by simp⟩)
    refine Or.inr ⟨.replied 0, .of_say hsignal rfl rfl rfl (by simp [Answers, Operation.results])
      ?_⟩
    simp [DbusPc.made, hpc, accepted]
  case queryRefcount client =>
    subst h
    obtain ⟨requester, rfl⟩ := hr
    refine servesOn_or_last_proceed (DbusNext.Fits.ite ⟨⟨requester, rfl⟩, rfl⟩
      ⟨by simp [Answers, Operation.results], rfl⟩) (congrArg DbusPc.made hpc)
  case queryList client =>
    subst h
    obtain ⟨requester, rfl⟩ := hr
    refine servesOn_or_last_proceed ⟨?_, rfl⟩ (congrArg DbusPc.made hpc)
    split_ifs <;> simp [Answers, Operation.results]
  case restartRefcount =>
    subst h
    obtain ⟨client, requester, rfl⟩ := hr
    refine servesOn_or_last_proceed (DbusNext.Fits.ite
      ⟨by simp [Answers, Operation.results], rfl⟩ ⟨⟨client, requester, rfl⟩, rfl⟩)
      (congrArg DbusPc.made hpc)
  case restart =>
    subst h
    obtain ⟨client, requester, rfl⟩ := hr
    have hrestart := Unanswered.of_log (restartSection_log files env s.world)
      (background_leave_enter _ _)
    refine Or.inr ⟨.replied 0, .of_say hrestart rfl rfl rfl (by simp [Answers, Operation.results])
      ?_⟩
    simp [DbusPc.made, hpc, accepted]
  case listClients =>
    subst hr
    split at h
    · cases h
      cases hasserted
    · cases h
      refine Or.inr ⟨.listed _, .of_say (.refl _) rfl rfl rfl trivial (congrArg DbusPc.made hpc)⟩
  case numClients =>
    subst hr h
    refine Or.inr ⟨.counted _, .of_say (.refl _) rfl rfl rfl trivial (congrArg DbusPc.made hpc)⟩
  case endReaper =>
    subst hr h
    exact Or.inl ⟨rfl, congrArg DbusPc.made hpc, rfl, fun _ => by rw [hpc]; rfl⟩
  case joinReaper =>
    rw [Option.ite_none_right_eq_some, Option.some.injEq] at h
    obtain ⟨-, rfl⟩ := h
    exact Or.inl ⟨hr, congrArg DbusPc.made hpc, rfl, fun _ => by rw [hpc]; rfl⟩
  case reload =>
    subst h
    obtain ⟨hanswers, hadded⟩ := unanswered_reloadConfigInternal files env s.world
    exact Or.inl ⟨hr, congrArg DbusPc.made hpc, hanswers,
      fun client' => by rw [hpc, hadded client']; rfl⟩
  case startReaper =>
    subst hr h
    refine Or.inr ⟨.replied 0, .of_say (.refl _) rfl rfl rfl rfl (congrArg DbusPc.made hpc)⟩

/-! ### Transcripts -/

/-- The request that a step receives. -/
def Action.request : Action → Option BusRequest
  | .receive request => some request
  | .dbus _ | .reaper _ => none

/-- The requests that a run receives. -/
def requests (actions : List Action) : List BusRequest := actions.filterMap Action.request

/-- The requests that were answered, each with its answer. -/
def exchanges (actions : List Action) (s : Sys) : List (BusRequest × Event) :=
  (requests actions).zip s.world.answers

/-- The transcript `exchanges` of the requests that were answered, and the one that is served, if
any. The changes that were made are those that the answers accepted, and one more when its answer is
still to come. -/
structure Sys.Transcribes (received : List BusRequest) (changes : List Change)
    (exchanges : List (BusRequest × Event)) (pending : Option BusRequest) (s : Sys) : Prop where
  received : exchanges.map Prod.fst ++ pending.toList = received
  answers : exchanges.map Prod.snd = s.world.answers
  kinds : ∀ exchange ∈ exchanges, Answers exchange.1 exchange.2
  idle_of_none : pending = none → s.dbus = .idle
  serves_of_some : ∀ r ∈ pending, s.dbus.Serves r
  added : ∀ client, s.world.log.count (.adding client) =
    exchanges.countP (Registers client) + s.dbus.announces client
  changed : changes.filter Change.isRequested =
    exchanges.filterMap accepted ++ s.dbus.made.toList

theorem Sys.Transcribes.exchanges_eq {received : List BusRequest} {changes : List Change}
    {exchanges : List (BusRequest × Event)} {pending : Option BusRequest} {s : Sys}
    (h : s.Transcribes received changes exchanges pending) :
    received.zip s.world.answers = exchanges := by
  rw [← h.received, ← h.answers]
  clear h
  induction exchanges with
  | nil => simp
  | cons exchange exchanges ih => simpa using ih

theorem DbusPc.filter_made (pc : DbusPc) :
    pc.made.toList.filter Change.isRequested = pc.made.toList := by
  cases pc <;> rfl

theorem ReaperPc.filter_made (pc : ReaperPc) :
    pc.made.toList.filter Change.isRequested = [] := by
  cases pc <;> rfl

theorem start_serves (request : BusRequest) :
    request.start.Serves request ∧ request.start.made = none := by
  cases request <;> exact ⟨rfl, rfl⟩

/-- The transcript after a step. -/
theorem Sys.Transcribes.step {received : List BusRequest} {changes : List Change}
    {exchanges : List (BusRequest × Event)} {pending : Option BusRequest} {s s' : Sys} {a : Action}
    (h : s.Transcribes received changes exchanges pending) (hasserted : s'.aborted = false)
    (hstep : step files s a = some s') :
    ∃ exchanges' pending', s'.Transcribes (received ++ a.request.toList)
      (changes ++ (a.change s').toList) exchanges' pending' := by
  obtain ⟨hreceived, hanswers, hkinds, hidle, hserves, hadded, hchanged⟩ := h
  rcases (step_cases hstep).2 with ⟨request, rfl, hdbus, rfl⟩ | ⟨env, rfl, hdbus⟩ |
    ⟨env, rfl, hreaper⟩
  · have hnone : pending = none := by
      cases hpending : pending with
      | none => rfl
      | some r =>
        have hr := hserves r hpending
        rw [hdbus] at hr
        cases hr
    obtain ⟨hstart, hmade⟩ := start_serves request
    refine ⟨exchanges, some request, ?_, hanswers, hkinds, by simp, by simpa using hstart, ?_, ?_⟩
    · rw [hnone, Option.toList_none, List.append_nil] at hreceived
      rw [hreceived]
      rfl
    · intro client
      rw [hadded client, DbusPc.announces_eq, DbusPc.announces_eq, hmade, hdbus]
      rfl
    · rw [hdbus] at hchanged
      rw [hmade]
      simpa [Action.change, DbusPc.made] using hchanged
  · have hreq : (Action.dbus env).request.toList = [] := rfl
    rw [hreq, List.append_nil]
    cases hpending : pending with
    | none =>
      rw [dbusStep, hidle hpending] at hdbus
      cases hdbus
    | some r =>
      rw [hpending] at hreceived
      have hfilter : (changes ++ s'.dbus.made.toList).filter Change.isRequested =
          exchanges.filterMap accepted ++ s.dbus.made.toList ++ s'.dbus.made.toList := by
        rw [List.filter_append, hchanged, DbusPc.filter_made]
      rcases dbusStep_serves (hserves r hpending) hasserted hdbus with
        ⟨hserves', hmade, hanswers', hadded'⟩ | ⟨answer, hlast⟩
      · refine ⟨exchanges, some r, hreceived, hanswers.trans hanswers'.symm, hkinds, by simp,
          by simpa using hserves', fun client => ?_, ?_⟩
        · have hbefore := hadded client
          have hafter := hadded' client
          omega
        · rw [hmade, Option.toList_none, List.append_nil] at hfilter
          exact hfilter
      · have hannounces := hlast.announces
        obtain ⟨hidle', hanswers', hkind, hadded', hmade⟩ := hlast
        refine ⟨exchanges ++ [(r, answer)], none, ?_, ?_, ?_, fun _ => hidle', by simp, ?_, ?_⟩
        · rw [List.map_append, Option.toList_none, List.append_nil]
          exact hreceived
        · rw [List.map_append, hanswers, hanswers']
          rfl
        · exact List.forall_mem_append.2 ⟨hkinds, List.forall_mem_singleton.2 hkind⟩
        · intro client
          rw [hadded' client, hadded client, hannounces client, hidle', List.countP_append,
            List.countP_singleton]
          rfl
        · rw [hmade] at hfilter
          rw [List.filterMap_append]
          refine hfilter.trans (congrArg (· ++ _) (congrArg (_ ++ ·) ?_))
          cases haccepted : accepted (r, answer) <;> simp [haccepted]
  · obtain ⟨hsame, -⟩ := reaperStep_frame hreaper
    obtain ⟨hanswers', hadded'⟩ := reaperStep_background hreaper
    refine ⟨exchanges, pending, ?_, hanswers.trans hanswers'.symm, hkinds, ?_, ?_, ?_, ?_⟩
    · exact hreceived.trans (List.append_nil _).symm
    · exact fun hnone => hsame.trans (hidle hnone)
    · exact fun r hr => hsame ▸ hserves r hr
    · intro client
      rw [hadded' client, hadded client, hsame]
    · rw [Action.change, List.filter_append, ReaperPc.filter_made, List.append_nil, hchanged, hsame]

/-- The transcript of a run. -/
theorem exists_transcribes {allocated : Finset ℕ} {config : Config} {system : OriginalSystem}
    {actions : List Action} {s : Sys}
    (hexec : Runs.exec (GameMode.step files) (startSys files allocated config system) actions =
      some s) :
    ∃ exchanges pending, s.Transcribes (requests actions)
      (changes files (startSys files allocated config system) actions) exchanges pending := by
  induction actions using List.reverseRecOn generalizing s with
  | nil =>
    rw [Runs.exec_nil, Option.some.injEq] at hexec
    subst hexec
    exact ⟨[], none, rfl, rfl, by simp, fun _ => rfl, by simp, fun _ => rfl, rfl⟩
  | append_singleton actions a ih =>
    obtain ⟨t, ht, hstep⟩ := Runs.exec_concat_eq_some.1 hexec
    obtain ⟨exchanges, pending, hbefore⟩ := ih ht
    have hregistry := Runs.exec_invariant registryInvariant_step
      (registryInvariant_startSys files allocated config system) hexec
    have hconcat : [a].filterMap Action.request = a.request.toList := by
      cases a <;> rfl
    rw [requests, List.filterMap_append, hconcat, changes_concat ht hstep]
    exact hbefore.step hregistry.asserted hstep

/-- **Every request is answered once.** In every run of the two threads the answers belong to the
requests in the order in which these were received: all of them when the D-Bus thread is idle, and
otherwise all but the last one. Each answer is of the kind of its request, and a game has been added
to the list once for each registration of it that was answered with zero, and once more when that
answer is still to come. -/
theorem requests_answered (allocated : Finset ℕ) (config : Config) (system : OriginalSystem)
    {actions : List Action} {s : Sys}
    (hexec : Runs.exec (step files) (startSys files allocated config system) actions = some s) :
    ∃ exchanges : List (BusRequest × Event),
      exchanges.map Prod.snd = s.world.answers ∧
      exchanges.map Prod.fst <+: requests actions ∧
      (requests actions).length = exchanges.length + (if s.dbus = .idle then 0 else 1) ∧
      (∀ exchange ∈ exchanges, Answers exchange.1 exchange.2) ∧
      ∀ client, s.world.log.count (.adding client) =
        exchanges.countP (Registers client) + s.dbus.announces client := by
  obtain ⟨exchanges, pending, hreceived, hanswers, hkinds, hidle, hserves, hadded, -⟩ :=
    exists_transcribes hexec
  refine ⟨exchanges, hanswers, ⟨pending.toList, hreceived⟩, ?_, hkinds, hadded⟩
  rw [← hreceived, List.length_append, List.length_map]
  cases hpending : pending with
  | none => rw [if_pos (hidle hpending), Option.toList_none, List.length_nil]
  | some r =>
    have hbusy : s.dbus ≠ .idle := by
      intro heq
      have hr := hserves r hpending
      rw [heq] at hr
      cases hr
    rw [if_neg hbusy, Option.toList_some, List.length_singleton]

/-- A game that comes and goes is answered twice. -/
theorem requests_answered_of_one_game :
    ∃ (s : Sys) (exchanges : List (BusRequest × Event)), Runs.exec (step .unreadable)
        (startSys .unreadable ∅ Config.initial
          (.plain "powersave".toList "balanced".toList ∅ [])) (gameComesAndGoes Config.initial) =
          some s ∧
      exchanges.map Prod.snd = s.world.answers ∧
      (∀ exchange ∈ exchanges, Answers exchange.1 exchange.2) ∧
      exchanges.countP (Registers 5) = 1 := by
  obtain ⟨exchanges, hanswers, -, -, hkinds, hadded⟩ :=
    @requests_answered .unreadable ∅ Config.initial
      (.plain "powersave".toList "balanced".toList ∅ []) (gameComesAndGoes Config.initial) _ rfl
  exact ⟨_, exchanges, rfl, hanswers, hkinds, (hadded 5).symm⟩

end GameMode
