import GameMode.Client.Delivery
import GameMode.Daemon.Pivots
import GameMode.Library.Dialogue

/-!
# The command line of `gamemoded`

Besides starting the daemon, `gamemoded` is a client of it: it asks for the status, toggles game
mode for a process, holds game mode for itself until it is interrupted, or resets the daemon. Each
of these is a dialogue over the rounds of `make_request`, and other clients use the daemon between
two rounds.

## Main definitions

* `request`: `gamemode_request` as a dialogue over its rounds.
* `toolStatus`, `toolToggle`, `toolSession`, `toolReset`: what the options ask for.
* `gamemodedMain`: what the options of a command line come to.
* `toolStep`: a tool among the other clients of the daemon.

## Main results

* `request_eval`: the dialogue is the request of `GameMode.Client.Request`.
* `toggle_iff`: whose registration a toggle changes.
* `session_iff`: when holding game mode leaves its process registered.

Source: `daemon/gamemoded.c`, `main`, and `lib/client_impl.c`, `gamemode_request`.
-/

namespace GameMode

/-! ### Requests -/

/-- A tool asks with a round of `make_request`, given the flag `use_pidfds` and the call; the answer
is the result and whether the error is set. -/
abbrev Asks (R : Type) := Dialogue (Bool × ApiCall) (ℤ × Bool) R

/-- `gamemode_request`: the result, and the flag `use_pidfds` afterwards. -/
def request (call : ApiCall) (usePidfds : Bool) : Asks (ℤ × Bool) :=
  .ask (usePidfds, call) fun first =>
    if first.1 = -1 ∧ usePidfds ∧ first.2 then
      .ask (false, call) fun second => .done (second.1, false)
    else .done (first.1, usePidfds)

/-- The processes of a round. -/
def callPids (caller : Pid) (usePidfds : Bool) (call : ApiCall) : List Pid :=
  [call.game caller, caller].take (npids call.forPid usePidfds)

/-- The dialogue comes to what the request of the library comes to. -/
theorem request_eval (host : Host) (serve : DaemonCall → ℤ) (call : ApiCall)
    (bus : Bool → BusDelivery) (usePidfds : Bool) :
    (request call usePidfds).eval (fun message =>
        let round := attempt host serve (bus message.1) message.1 message.2.method
          (callPids host.caller message.1 message.2)
        (round.res, round.error)) =
      ((call.run host serve bus usePidfds).res, (call.run host serve bus usePidfds).usePidfs) := by
  simp only [request, ApiCall.run, gamemodeRequest, ApiCall.game, callPids, Dialogue.eval]
  split_ifs with hpid <;> simp [Dialogue.eval, hpid]

/-! ### The tools -/

/-- What the tool reports when it exits. -/
inductive Report
  | inactive
  | active
  | notRegistered (pid : Pid)
  | registered (pid : Pid)
  | queryFailed
  | queryUnexpected (ret : ℤ)
  | requestSucceeded
  | requestFailed
  | registrationFailed
  | notActive
  | restartSucceeded
  | alreadyDeactivated
  | restartFailed
  | restartUnexpected (ret : ℤ)
  deriving DecidableEq, Repr

/-- The report and the exit status. -/
structure Exit where
  /-- The report. -/
  report : Report
  /-- The exit status. -/
  status : ℕ
  deriving DecidableEq, Repr

/-- `exit(EXIT_SUCCESS)`. -/
def Exit.success (report : Report) : Exit := ⟨report, 0⟩

/-- `exit(EXIT_FAILURE)`. -/
def Exit.failure (report : Report) : Exit := ⟨report, 1⟩

/-- `gamemoded -s`, or `gamemoded -sPID`. -/
def toolStatus (pid : Option Pid) (usePidfds : Bool) : Asks Exit :=
  match pid with
  | some pid =>
    (request (.queryStatusFor pid) usePidfds).bind fun answer => .done <|
      match answer.1 with
      | 0 => .success .inactive
      | 1 => .success (.notRegistered pid)
      | 2 => .success (.registered pid)
      | -1 => .failure .queryFailed
      | ret => .failure (.queryUnexpected ret)
  | none =>
    (request .queryStatus usePidfds).bind fun answer => .done <|
      match answer.1 with
      | 0 => .success .inactive
      | 1 => .success .active
      | -1 => .failure .queryFailed
      | ret => .failure (.queryUnexpected ret)

/-- The request that a toggle makes after the status. -/
def requestOf (call : ApiCall) (usePidfds : Bool) : Asks Exit :=
  (request call usePidfds).bind fun answer => .done <|
    if answer.1 < 0 then .failure .requestFailed else .success .requestSucceeded

/-- `gamemoded -rPID`: the game is registered, or unregistered when it is. -/
def toolToggle (pid : Pid) (usePidfds : Bool) : Asks Exit :=
  (request (.queryStatusFor pid) usePidfds).bind fun answer =>
    match answer.1 with
    | 0 | 1 => requestOf (.requestStartFor pid) answer.2
    | 2 => requestOf (.requestEndFor pid) answer.2
    | -1 => .done (.failure .queryFailed)
    | ret => .done (.failure (.queryUnexpected ret))

/-- `gamemoded -r`: the tool registers itself and pauses until it is interrupted. The pause is
between two rounds. -/
def toolSession (usePidfds : Bool) : Asks Exit :=
  (request .requestStart usePidfds).bind fun start =>
    if start.1 < 0 then .done (.failure .requestFailed)
    else
      (request .queryStatus start.2).bind fun status =>
        match status.1 with
        | 2 => requestOf .requestEnd status.2
        | 1 => .done (.failure .registrationFailed)
        | 0 => .done (.failure .notActive)
        | -1 => .done (.failure .queryFailed)
        | ret => .done (.failure (.queryUnexpected ret))

/-- `gamemoded -R`. -/
def toolReset (usePidfds : Bool) : Asks Exit :=
  (request .requestRestart usePidfds).bind fun answer => .done <|
    match answer.1 with
    | 0 => .success .restartSucceeded
    | 1 => .failure .alreadyDeactivated
    | -1 => .failure .restartFailed
    | ret => .failure (.restartUnexpected ret)

/-! ### The options -/

/-- An option as `getopt_long` returns it. -/
inductive CommandOption
  | daemonize | logToSyslog | test | reset | help | version
  | request (arg : Option CString)
  | status (arg : Option CString)
  | unknown
  deriving DecidableEq, Repr

/-- What a command line comes to. -/
inductive Command
  | serve (daemonize useSyslog : Bool)
  | tool (program : Bool → Asks Exit)
  | tests
  | versionText
  | usageText (status : ℕ)

/-- The loop of `main` over the options: the first one that is not for the daemon decides. -/
def gamemodedMain : List CommandOption → (daemonize useSyslog : Bool) → Command
  | [], daemonize, useSyslog => .serve daemonize useSyslog
  | .daemonize :: opts, _, useSyslog => gamemodedMain opts true useSyslog
  | .logToSyslog :: opts, daemonize, _ => gamemodedMain opts daemonize true
  | .status arg :: _, _, _ => .tool (toolStatus (arg.map CString.atoi))
  | .request (some arg) :: _, _, _ => .tool (toolToggle arg.atoi)
  | .request none :: _, _, _ => .tool toolSession
  | .reset :: _, _, _ => .tool toolReset
  | .test :: _, _, _ => .tests
  | .version :: _, _, _ => .versionText
  | .help :: _, _, _ => .usageText 0
  | .unknown :: _, _, _ => .usageText 1

/-- The daemon is started just when every option is for it. -/
theorem gamemodedMain_eq_serve_iff {opts : List CommandOption} {daemonize useSyslog d l : Bool} :
    gamemodedMain opts daemonize useSyslog = .serve d l ↔
      (∀ opt ∈ opts, opt = .daemonize ∨ opt = .logToSyslog) ∧
        d = (daemonize || decide (.daemonize ∈ opts)) ∧
        l = (useSyslog || decide (.logToSyslog ∈ opts)) := by
  induction opts generalizing daemonize useSyslog with
  | nil => simp [gamemodedMain, eq_comm]
  | cons opt opts ih =>
    cases opt with
    | daemonize => simp [gamemodedMain, ih]
    | logToSyslog => simp [gamemodedMain, ih]
    | request arg => cases arg <;> simp [gamemodedMain]
    | _ => simp [gamemodedMain]

/-! ### A tool and the daemon -/

/-- An operation that the daemon served for a tool. -/
structure Served where
  /-- The message had descriptors. -/
  usePidfds : Bool
  /-- The operation. -/
  call : DaemonCall
  /-- The context when the message arrived. -/
  before : World
  /-- The result and the context afterwards. -/
  answer : ℤ × World

/-- The operation changed the list of the clients. -/
def Served.Changes (r : Served) : Prop := r.answer.2.clients ≠ r.before.clients

/-- The daemon, and what it has served for the tool. -/
structure Peer where
  /-- The context. -/
  world : World
  /-- The operations that it served, in order. -/
  served : List Served

section Runs

variable (files : CpuSysfs) (host : Host)

/-- A round of `make_request`: what the daemon asks of the system, and what the bus does with the
message. -/
def Peer.round (message : Bool × ApiCall) (peer : Peer) (l : Env × BusDelivery) :
    (ℤ × Bool) × Peer :=
  let serve := fun call => serveCall files l.1 call peer.world
  let round := attempt host (fun call => (serve call).1) l.2 message.1 message.2.method
    (callPids host.caller message.1 message.2)
  ((round.res, round.error),
    match round.call with
    | none => peer
    | some call =>
      ⟨(serve call).2, peer.served ++ [⟨message.1, call, peer.world, serve call⟩]⟩)

/-- An operation of somebody else. -/
def Peer.other (peer : Peer) (b : ContextOp × Env) : Option Peer :=
  (contextStep files peer.world b).map fun world => { peer with world := world }

/-- A tool among the other clients of the daemon. -/
abbrev ToolState (R : Type) := Dialogue.State (Bool × ApiCall) (ℤ × Bool) R Peer

/-- What happens next: an operation of somebody else, or a round of the tool. -/
abbrev ToolLabel := Dialogue.Label (ContextOp × Env) (Env × BusDelivery)

/-- A tool among the other clients of the daemon. -/
def toolStep {R : Type} : ToolState R → ToolLabel → Option (ToolState R) :=
  Dialogue.step (Peer.other files) (Peer.round files host)

/-- A tool that starts. -/
def ToolState.start {R : Type} (program : Asks R) (w : World) : ToolState R := ⟨program, ⟨w, []⟩⟩

end Runs

/-! ### What a round comes to -/

section Rounds

variable {files : CpuSysfs} {host : Host} {call : ApiCall}

/-- The operation that a round asks for. -/
def ApiCall.sent (call : ApiCall) (usePidfds : Bool) (caller : Pid) : DaemonCall :=
  if usePidfds then call.intended caller else call.plainCall caller

theorem sent_operation (call : ApiCall) (usePidfds : Bool) (caller : Pid) :
    (call.sent usePidfds caller).operation = call.operation := by
  cases usePidfds with
  | true => rfl
  | false => exact plainCall_operation call caller

/-- What the daemon served for a call: the operation that its message asks for. -/
structure Served.IsFor (files : CpuSysfs) (host : Host) (call : ApiCall) (r : Served) : Prop where
  call_eq : r.call = call.sent r.usePidfds host.caller
  plain : r.usePidfds = false → call.IsAboutGame
  answer : ∃ env, r.answer = serveCall files env r.call r.before

/-- A round of `make_request` is not served, or it is served and its answer arrives or is lost. -/
theorem attempt_cases (host : Host) (h : call ≠ .requestRestart) (serve : DaemonCall → ℤ)
    (delivery : BusDelivery) (usePidfds : Bool) :
    let round := attempt host serve delivery usePidfds call.method
      (callPids host.caller usePidfds call)
    round.call = none ∧ round.res = -1 ∨
      round.call = some (call.sent usePidfds host.caller) ∧
        (usePidfds = false → call.IsAboutGame) ∧
        (round.res = serve (call.sent usePidfds host.caller) ∧ round.error = false ∨
          delivery = .delivered true ∧ round.res = -1 ∧ round.error = true) := by
  classical
  intro round
  cases usePidfds with
  | true =>
    have hround : round = pidfdAttempt host serve call fun _ => delivery := by
      simp only [round, callPids, npids, or_true, if_true]
      rfl
    rw [hround, pidfdAttempt_eq host serve h]
    by_cases hdelivered : PidfdDelivered host call fun _ => delivery
    · by_cases hlives : GameLives host call
      · have hlost : delivery ≠ .lost := hdelivered.2.2
        refine Or.inr ⟨by simp [hdelivered, hlives, ApiCall.sent], Bool.noConfusion, ?_⟩
        cases delivery with
        | lost => exact absurd rfl hlost
        | delivered replyLost => cases replyLost <;> simp [hdelivered, hlives, ApiCall.sent]
      · exact Or.inl (by simp [hdelivered, hlives])
    · exact Or.inl (by simp [hdelivered])
  | false =>
    have hround : round = plainAttempt host serve call fun _ => delivery := rfl
    rw [hround, plainAttempt_cases host h]
    by_cases habout : call.IsAboutGame
    · cases delivery with
      | lost => exact Or.inl (by simp [habout])
      | delivered replyLost =>
        refine Or.inr ⟨by simp [habout, ApiCall.sent], fun _ => habout, ?_⟩
        cases replyLost <;> simp [habout, ApiCall.sent]
    · exact Or.inl (by simp [habout])

/-- A round is not served, or it is served and its answer arrives or is lost. -/
theorem round_cases (files : CpuSysfs) (host : Host) (h : call ≠ .requestRestart) (usePidfds : Bool)
    (peer : Peer) (l : Env × BusDelivery) :
    let round := peer.round files host (usePidfds, call) l
    round.1.1 = -1 ∧ round.2 = peer ∨
      ∃ r : Served, r.IsFor files host call ∧ r.usePidfds = usePidfds ∧ r.before = peer.world ∧
        round.2 = ⟨r.answer.2, peer.served ++ [r]⟩ ∧
        (round.1 = (r.answer.1, false) ∨ l.2 = .delivered true ∧ round.1 = (-1, true)) := by
  intro round
  rcases attempt_cases host h (fun c => (serveCall files l.1 c peer.world).1) l.2
    usePidfds with ⟨hcall, hres⟩ | ⟨hcall, habout, hanswer⟩
  · refine Or.inl ⟨hres, ?_⟩
    simp only [round, Peer.round, hcall]
  · refine Or.inr ⟨⟨usePidfds, call.sent usePidfds host.caller, peer.world,
      serveCall files l.1 (call.sent usePidfds host.caller) peer.world⟩,
      ⟨rfl, habout, l.1, rfl⟩, rfl, rfl, by simp only [round, Peer.round, hcall], ?_⟩
    exact hanswer.imp (fun ⟨hres, herror⟩ => Prod.ext hres herror)
      fun ⟨hlost, hres, herror⟩ => ⟨hlost, Prod.ext hres herror⟩

end Rounds

/-! ### Requests among other clients -/

section Requests

variable (files : CpuSysfs) (host : Host)

/-- What the daemon may answer to a round, where `allowed` says what the bus may do. -/
def Peer.Serves (allowed : BusDelivery → Prop) (message : Bool × ApiCall) (peer : Peer)
    (answer : ℤ × Bool) (peer' : Peer) : Prop :=
  ∃ l, allowed l.2 ∧ Peer.round files host message peer l = (answer, peer')

/-- The others serve nothing for the tool, and keep to `keeps` with the context. -/
def Peer.Rely (keeps : World → World → Prop) (peer peer' : Peer) : Prop :=
  peer'.served = peer.served ∧ keeps peer.world peer'.world

/-- What a request leaves behind: the operations that were served for it are its own, and the last
one gave the result; it was the only one when its message had descriptors. -/
def Requested (call : ApiCall) (before : List Served) (ret : ℤ × Bool) (after : List Served) :
    Prop :=
  ∃ rounds, after = before ++ rounds ∧ (∀ r ∈ rounds, r.IsFor files host call) ∧
    (ret.1 ≠ -1 → ∃ earlier r, rounds = earlier ++ [r] ∧ ret = (r.answer.1, r.usePidfds) ∧
      (r.usePidfds = true → earlier = []))

variable {files host} {keeps : World → World → Prop} {allowed : BusDelivery → Prop}
  {call : ApiCall} (h : call ≠ .requestRestart)
include h

private theorem ensures_second {before rounds : List Served} {peer : Peer}
    (hserved : peer.served = before ++ rounds) (hrounds : ∀ r ∈ rounds, r.IsFor files host call) :
    (Dialogue.ask (false, call) fun second => .done (second.1, false) :
        Asks (ℤ × Bool)).Ensures (Peer.Rely keeps) (Peer.Serves files host allowed)
      (fun ret after => Requested files host call before ret after.served) peer := by
  rintro t ⟨ht, -⟩ second u ⟨l, -, hround⟩
  have hcases := round_cases files host h false t l
  simp only [hround] at hcases
  rcases hcases with ⟨hres, rfl⟩ | ⟨r, hr, hplain, -, rfl, hanswer⟩
  · exact ⟨rounds, ht.trans hserved, hrounds, fun hne => absurd hres hne⟩
  · refine ⟨rounds ++ [r], ?_, ?_, fun hne => ⟨rounds, r, rfl, ?_, ?_⟩⟩
    · rw [ht, hserved, List.append_assoc]
    · rintro r' hr'
      rcases List.mem_append.1 hr' with hr' | hr'
      · exact hrounds r' hr'
      · exact List.mem_singleton.1 hr' ▸ hr
    · rcases hanswer with rfl | ⟨-, rfl⟩
      · rw [hplain]
      · exact absurd rfl hne
    · rw [hplain]
      exact Bool.noConfusion

/-- What a request leaves behind, whatever the others and the bus do. -/
theorem ensures_request (usePidfds : Bool) (peer : Peer) :
    (request call usePidfds).Ensures (Peer.Rely keeps) (Peer.Serves files host allowed)
      (fun ret after => Requested files host call peer.served ret after.served) peer := by
  rintro t ⟨ht, -⟩ first u ⟨l, -, hround⟩
  have hcases := round_cases files host h usePidfds t l
  simp only [hround] at hcases
  rcases hcases with ⟨hres, rfl⟩ | ⟨r, hr, hflag, -, rfl, hanswer⟩
  · have hserved : u.served = peer.served ++ [] := by rw [ht, List.append_nil]
    beta_reduce
    split_ifs
    · exact ensures_second h hserved (List.forall_mem_nil _)
    · exact ⟨[], hserved, List.forall_mem_nil _, fun hne => absurd hres hne⟩
  · have hserved : t.served ++ [r] = peer.served ++ [r] := by rw [ht]
    have hrounds : ∀ r' ∈ [r], r'.IsFor files host call := List.forall_mem_singleton.2 hr
    beta_reduce
    split_ifs with hfail
    · exact ensures_second h hserved hrounds
    · refine ⟨[r], hserved, hrounds, fun hne => ⟨[], r, rfl, ?_, fun _ => rfl⟩⟩
      rcases hanswer with rfl | ⟨-, rfl⟩
      · rw [hflag]
      · exact absurd rfl hne

/-- A request over a bus that loses no reply: nothing was served for it and it fails, or one
operation was served and gave the result. -/
theorem ensures_request_of_answered (hallowed : ¬allowed (.delivered true))
    (htrans : ∀ w w' w'', keeps w w' → keeps w' w'' → keeps w w'') (usePidfds : Bool)
    (peer : Peer) :
    (request call usePidfds).Ensures (Peer.Rely keeps) (Peer.Serves files host allowed)
      (fun ret after =>
        ret.1 = -1 ∧ after.served = peer.served ∧ keeps peer.world after.world ∨
          ∃ r, after.served = peer.served ++ [r] ∧ ret.1 = r.answer.1 ∧
            r.IsFor files host call ∧ keeps peer.world r.before ∧ after.world = r.answer.2)
      peer := by
  have hround : ∀ usePidfds {t : Peer} {answer : ℤ × Bool} {u : Peer},
      t.served = peer.served → keeps peer.world t.world →
      Peer.Serves files host allowed (usePidfds, call) t answer u →
        answer.1 = -1 ∧ u.served = peer.served ∧ keeps peer.world u.world ∨
          answer.2 = false ∧ ∃ r, u.served = peer.served ++ [r] ∧ answer.1 = r.answer.1 ∧
            r.IsFor files host call ∧ keeps peer.world r.before ∧ u.world = r.answer.2 := by
    rintro usePidfds t answer u ht hkeeps ⟨l, hl, hround⟩
    have hcases := round_cases files host h usePidfds t l
    simp only [hround] at hcases
    rcases hcases with ⟨hres, rfl⟩ | ⟨r, hr, -, hbefore, rfl, rfl | ⟨hlost, -⟩⟩
    · exact Or.inl ⟨hres, ht, hkeeps⟩
    · exact Or.inr ⟨rfl, r, by rw [ht], rfl, hr, hbefore ▸ hkeeps, rfl⟩
    · exact absurd (hlost ▸ hl) hallowed
  rintro t ⟨ht, hkeeps⟩ first u hfirst
  beta_reduce
  rcases hround usePidfds ht hkeeps hfirst with ⟨hres, hu, hkeeps'⟩ | ⟨herror, hserved⟩
  · split_ifs
    · rintro t' ⟨ht', hkeeps''⟩ second u' hsecond
      rcases hround false (ht'.trans hu) (htrans _ _ _ hkeeps' hkeeps'') hsecond with
        hnone | ⟨-, hserved⟩
      · exact Or.inl hnone
      · exact Or.inr hserved
    · exact Or.inl ⟨hres, hu, hkeeps'⟩
  · rw [if_neg (by simp [herror])]
    exact Or.inr hserved

end Requests

/-! ### Toggles -/

theorem Exact.eq_zero_of_nonneg {accepted rejected : Prop} {effect : World → Prop} {w : World}
    {result : ℤ × World} (h : Exact accepted rejected effect w result) (hle : 0 ≤ result.1) :
    result.1 = 0 := by
  by_contra hne
  have haccepted : ¬accepted := mt h.zero_iff.2 hne
  by_cases hrejected : rejected
  · have hres := h.neg_two_iff.2 hrejected
    omega
  · have hres := h.neg_one_iff.2 ⟨haccepted, hrejected⟩
    omega

section Toggles

variable {files : CpuSysfs} {host : Host} {call : ApiCall}

theorem Served.IsFor.operation {r : Served} (hr : r.IsFor files host call) :
    r.call.operation = call.operation := by
  rw [hr.call_eq, sent_operation]

theorem Served.IsFor.client_pidfd {r : Served} (hr : r.IsFor files host call)
    (hflag : r.usePidfds = true) : r.call.client = call.game host.caller := by
  rw [hr.call_eq, hflag]
  rfl

theorem Served.IsFor.client_plain {r : Served} (hr : r.IsFor files host call)
    (hflag : r.usePidfds = false) :
    r.call.client = call.game host.caller ↔ call.IsOwn host.caller := by
  rw [hr.call_eq, hflag]
  exact plainCall_client_eq_iff call host.caller

/-- A request changes the list exactly when its result is not an error. -/
theorem Served.IsFor.changes_iff {r : Served} (hr : r.IsFor files host call)
    (hrequest : call.IsRequest) : r.Changes ↔ 0 ≤ r.answer.1 := by
  obtain ⟨env, hanswer⟩ := hr.answer
  have hoperation : r.call.operation = .register ∨ r.call.operation = .unregister :=
    hr.operation ▸ hrequest
  have hclients := answer_clients_eq_iff files hoperation (env, r.before)
  rw [← answer_eq_zero_iff files hoperation, Moment.answer, ← hanswer] at hclients
  rw [Served.Changes, ne_eq, hclients, not_not]
  refine ⟨fun hzero => hzero.ge, fun hle => ?_⟩
  rw [hanswer, serveCall] at hle ⊢
  rcases hoperation with hop | hop
  · simp only [hop] at hle ⊢
    exact (contextRegister_exact files _ _ _ _).eq_zero_of_nonneg hle
  · simp only [hop] at hle ⊢
    exact (contextUnregister_exact _ _ _ _).eq_zero_of_nonneg hle

theorem Served.IsFor.not_changes {r : Served} (hr : r.IsFor files host call)
    (hquery : call.operation = .queryStatus) : ¬r.Changes := by
  obtain ⟨env, hanswer⟩ := hr.answer
  rw [Served.Changes, hanswer, serveCall, hr.operation, hquery]
  exact not_not.2 rfl

variable {keeps : World → World → Prop} {allowed : BusDelivery → Prop}

/-- A request of a tool that succeeds: the last operation that was served for it is accepted. -/
theorem ensures_requestOf (hrequest : call.IsRequest) (usePidfds : Bool) (peer : Peer) :
    (requestOf call usePidfds).Ensures (Peer.Rely keeps) (Peer.Serves files host allowed)
      (fun exit after => exit.status = 0 → ∃ earlier r,
        after.served = peer.served ++ (earlier ++ [r]) ∧
          (∀ x ∈ earlier ++ [r], x.IsFor files host call) ∧ r.Changes ∧
            (r.usePidfds = true → earlier = [])) peer := by
  rw [requestOf, Dialogue.ensures_bind]
  refine (ensures_request hrequest.ne_restart usePidfds peer).mono ?_
  rintro ret after ⟨rounds, hserved, hrounds, hlast⟩ hstatus
  split_ifs at hstatus with hneg
  · cases hstatus
  · obtain ⟨earlier, r, rfl, rfl, hearlier⟩ := hlast (by omega)
    refine ⟨earlier, r, hserved, hrounds, ?_, hearlier⟩
    exact ((hrounds r (by simp)).changes_iff hrequest).2 (not_lt.1 hneg)

/-- The list changed for a process, and for no other. -/
def ChangedOnlyFor (served : List Served) (client : Pid) : Prop :=
  (∃ r ∈ served, r.Changes) ∧ ∀ r ∈ served, r.Changes → r.call.client = client

/-- What a toggle that succeeds leaves behind: queries, and then the operations of one request, the
last of which is accepted. -/
def Toggled (files : CpuSysfs) (host : Host) (pid : Pid) (served : List Served) : Prop :=
  ∃ queries earlier r call, (call = .requestStartFor pid ∨ call = .requestEndFor pid) ∧
    served = queries ++ (earlier ++ [r]) ∧
      (∀ q ∈ queries, q.IsFor files host (.queryStatusFor pid)) ∧
        (∀ x ∈ earlier ++ [r], x.IsFor files host call) ∧ r.Changes ∧
          (r.usePidfds = true → earlier = [])

theorem ensures_toolToggle (pid : Pid) (usePidfds : Bool) (w : World) :
    (toolToggle pid usePidfds).Ensures (Peer.Rely keeps) (Peer.Serves files host allowed)
      (fun exit after => exit.status = 0 → Toggled files host pid after.served) ⟨w, []⟩ := by
  rw [toolToggle, Dialogue.ensures_bind]
  refine (ensures_request (by simp) usePidfds _).mono ?_
  rintro ret peer ⟨queries, hserved, hqueries, -⟩
  have hrequest : ∀ {call : ApiCall}, (call = .requestStartFor pid ∨ call = .requestEndFor pid) →
      call.IsRequest → (requestOf call ret.2).Ensures (Peer.Rely keeps)
        (Peer.Serves files host allowed)
        (fun exit after => exit.status = 0 → Toggled files host pid after.served) peer := by
    intro call hcall hrequest
    refine (ensures_requestOf hrequest ret.2 peer).mono fun exit after hensures hstatus => ?_
    obtain ⟨earlier, r, hafter, hrounds, hchanges, hearlier⟩ := hensures hstatus
    rw [hserved, List.nil_append] at hafter
    exact ⟨queries, earlier, r, call, hcall, hafter, hqueries, hrounds, hchanges, hearlier⟩
  split
  · exact hrequest (Or.inl rfl) (Or.inl rfl)
  · exact hrequest (Or.inl rfl) (Or.inl rfl)
  · exact hrequest (Or.inr rfl) (Or.inr rfl)
  · exact fun hstatus => absurd hstatus (by decide)
  · exact fun hstatus => absurd hstatus (by decide : (1 : ℕ) ≠ 0)

end Toggles

section ToolRuns

variable {files : CpuSysfs} {host : Host} {keeps : World → World → Prop}
  {allowed : BusDelivery → Prop} {w : World} {as : List ToolLabel}

/-- What a tool ensures holds where its run has come to its end. -/
theorem post_of_exec {R : Type} {program : Asks R} {s : ToolState R} {result : R}
    {G : ToolState R → ToolLabel → Prop} (hrefl : ∀ w, keeps w w)
    (htrans : ∀ w w' w'', keeps w w' → keeps w' w'' → keeps w w'')
    (hother : ∀ t b w', G t (.other b) → contextStep files t.server.world b = some w' →
      keeps t.server.world w')
    (hround : ∀ t l, G t (.round l) → allowed l.2) {post : R → Peer → Prop}
    (hensures : program.Ensures (Peer.Rely keeps) (Peer.Serves files host allowed) post ⟨w, []⟩)
    (hguard : Runs.StepsAlong (toolStep files host) (.start program w) as G)
    (hexec : Runs.exec (toolStep files host) (.start program w) as = some s)
    (hdone : s.program = .done result) : ∃ peer, peer.Rely keeps s.server ∧ post result peer := by
  refine Dialogue.exists_post_of_exec (fun peer => ⟨rfl, hrefl _⟩) ?_ ?_ ?_ hensures hguard hexec
    hdone
  · rintro t u v ⟨hserved, hkeeps⟩ ⟨hserved', hkeeps'⟩
    exact ⟨hserved'.trans hserved, htrans _ _ _ hkeeps hkeeps'⟩
  · intro t b peer hG hpeer
    obtain ⟨w', hw', rfl⟩ := Option.map_eq_some_iff.1 hpeer
    exact ⟨rfl, hother t b w' hG hw'⟩
  · intro t message next l hG _
    exact ⟨l, hround t l hG, rfl⟩

/-- What a tool ensures over a bus that loses no reply, whatever the others do. -/
theorem post_of_answered {R : Type} {program : Asks R} {s : ToolState R} {result : R}
    {post : R → Peer → Prop} (hanswers : ∀ env, .round (env, .delivered true) ∉ as)
    (hensures : program.Ensures (Peer.Rely fun _ _ => True)
      (Peer.Serves files host (· ≠ .delivered true)) post ⟨w, []⟩)
    (hexec : Runs.exec (toolStep files host) (.start program w) as = some s)
    (hdone : s.program = .done result) :
    ∃ peer, s.server.served = peer.served ∧ post result peer := by
  obtain ⟨peer, ⟨hpeer, -⟩, hpost⟩ := post_of_exec
    (G := fun _ l => ∀ env, l ≠ .round (env, .delivered true)) (fun _ => trivial)
    (fun _ _ _ _ _ => trivial) (fun _ _ _ _ _ => trivial)
    (fun _ l hG hlost => hG l.1 (congrArg Dialogue.Label.round (Prod.ext rfl hlost))) hensures
    (.of_forall_mem fun l hl _ env hround => hanswers env (hround ▸ hl)) hexec hdone
  exact ⟨peer, hpeer, hpost⟩

variable {s : ToolState Exit} {exit : Exit}

/-- **What a toggle toggles.** When a toggle exits with success, the list of the daemon has changed
for the given process and no other one just when its last message had descriptors, or when the
process is the tool itself. -/
theorem toggle_iff {pid : Pid} {usePidfds : Bool}
    (hexec : Runs.exec (toolStep files host) (.start (toolToggle pid usePidfds) w) as = some s)
    (hdone : s.program = .done exit) (hsuccess : exit.status = 0) :
    ChangedOnlyFor s.server.served (ApiCall.game (.queryStatusFor pid) host.caller) ↔
      s.server.served.getLast?.map Served.usePidfds = some true ∨ pid = host.caller := by
  obtain ⟨peer, ⟨hpeer, -⟩, hpost⟩ := @post_of_exec files host (fun _ _ => True) (fun _ => True)
    w as _ _ s exit (fun _ _ => True) (fun _ => trivial) (fun _ _ _ _ _ => trivial)
    (fun _ _ _ _ _ => trivial) (fun _ _ _ => trivial) _ (ensures_toolToggle pid usePidfds w)
    (fun _ _ _ _ _ => trivial) hexec hdone
  obtain ⟨queries, earlier, r, call, hcall, hserved, hqueries, hrounds, hchanges, hearlier⟩ :=
    hpost hsuccess
  rw [hpeer, hserved]
  have hforPid : call.forPid = pid := by rcases hcall with rfl | rfl <;> rfl
  have hgame : ApiCall.game (.queryStatusFor pid) host.caller = call.game host.caller := by
    rcases hcall with rfl | rfl <;> rfl
  have hquiet : ∀ q ∈ queries, ¬q.Changes := fun q hq => (hqueries q hq).not_changes rfl
  have hr := hrounds r (by simp)
  rw [hgame]
  constructor
  · rintro ⟨-, honly⟩
    cases hflag : r.usePidfds with
    | true => exact Or.inl (by simp [hflag])
    | false =>
      have hclient := (hr.client_plain hflag).1 (honly r (by simp) hchanges)
      rw [ApiCall.IsOwn, hforPid] at hclient
      refine Or.inr (hclient.resolve_left fun hzero => ?_)
      have habout := hr.plain hflag
      rcases hcall with rfl | rfl <;> exact habout hzero
  · intro hlast
    refine ⟨⟨r, by simp, hchanges⟩, fun x hx hx' => ?_⟩
    rcases List.mem_append.1 hx with hq | hx
    · exact absurd hx' (hquiet x hq)
    cases hflag : x.usePidfds with
    | true => exact (hrounds x hx).client_pidfd hflag
    | false =>
      refine ((hrounds x hx).client_plain hflag).2 (Or.inr ?_)
      rw [hforPid]
      rcases hlast with hlast | hown
      · -- with descriptors the last operation is the only one of its request
        have hrflag : r.usePidfds = true := by simpa using hlast
        rw [hearlier hrflag, List.nil_append, List.mem_singleton] at hx
        rw [hx, hrflag] at hflag
        cases hflag
      · exact hown

private def unusedDaemon : World :=
  contextInit .unreadable ∅ Config.initial (.plain "powersave".toList "balanced".toList ∅ [])

private def answeredRound : ToolLabel := .round (.succeeding Config.initial, .delivered false)

/-- With descriptors, process 100 toggles game mode for process 200 while process 300 is registered
by somebody else. -/
theorem toggle_of_game :
    ∃ s, Runs.exec (toolStep .unreadable (.withPidfds 100))
        (.start (toolToggle 200 true) unusedDaemon)
        [answeredRound, .other (.register 300 300, .succeeding Config.initial), answeredRound] =
          some s ∧ s.server.world.pids = [200, 300] ∧
        ChangedOnlyFor s.server.served 200 := by
  refine ⟨_, rfl, rfl, ?_⟩
  exact (@toggle_iff .unreadable (.withPidfds 100) unusedDaemon
    [answeredRound, .other (.register 300 300, .succeeding Config.initial), answeredRound] _ _ 200
    true rfl rfl rfl).2 (Or.inl rfl)

/-- The list changed with the last operation only. -/
def ChangedLast (served : List Served) : Prop :=
  ∃ earlier r, served = earlier ++ [r] ∧ (∀ x ∈ earlier, ¬x.Changes) ∧ r.Changes

/-- A request of a tool over a bus that loses no reply succeeds exactly when it changes the list. -/
theorem ensures_requestOf_of_answered {call : ApiCall} (hrequest : call.IsRequest)
    (usePidfds : Bool) (peer : Peer) (hquiet : ∀ x ∈ peer.served, ¬x.Changes) :
    (requestOf call usePidfds).Ensures (Peer.Rely fun _ _ => True)
      (Peer.Serves files host (· ≠ .delivered true))
      (fun exit after => exit.status = 0 ∧ ChangedLast after.served ∨
        exit.status ≠ 0 ∧ ∀ x ∈ after.served, ¬x.Changes) peer := by
  rw [requestOf, Dialogue.ensures_bind]
  refine (ensures_request_of_answered hrequest.ne_restart (not_not.2 rfl)
    (fun _ _ _ _ _ => trivial) usePidfds peer).mono ?_
  rintro ret after (⟨hret, hserved, -⟩ | ⟨r, hserved, hret, hr, -⟩)
  · rw [if_pos (by omega)]
    exact Or.inr ⟨by decide, hserved ▸ hquiet⟩
  · have hchanges := hr.changes_iff hrequest
    split_ifs with hneg
    · refine Or.inr ⟨(by decide : (1 : ℕ) ≠ 0), ?_⟩
      rw [hserved]
      rintro x hx
      rcases List.mem_append.1 hx with hx | hx
      · exact hquiet x hx
      · rw [List.mem_singleton.1 hx, hchanges]
        omega
    · exact Or.inl ⟨rfl, peer.served, r, hserved, hquiet, hchanges.2 (by omega)⟩

/-- **The exit status of a toggle.** Over a bus that loses no reply a toggle exits with success just
when the daemon has changed its list for it, and then once only, with the last operation. -/
theorem toggle_exact {pid : Pid} {usePidfds : Bool}
    (hanswers : ∀ env, .round (env, .delivered true) ∉ as)
    (hexec : Runs.exec (toolStep files host) (.start (toolToggle pid usePidfds) w) as = some s)
    (hdone : s.program = .done exit) :
    exit.status = 0 ∧ ChangedLast s.server.served ∨
      exit.status ≠ 0 ∧ ∀ r ∈ s.server.served, ¬r.Changes := by
  have hensures : (toolToggle pid usePidfds).Ensures (Peer.Rely fun _ _ => True)
      (Peer.Serves files host (· ≠ .delivered true))
      (fun exit after => exit.status = 0 ∧ ChangedLast after.served ∨
        exit.status ≠ 0 ∧ ∀ x ∈ after.served, ¬x.Changes) ⟨w, []⟩ := by
    rw [toolToggle, Dialogue.ensures_bind]
    refine (ensures_request (by simp) usePidfds _).mono ?_
    rintro ret peer ⟨queries, hserved, hqueries, -⟩
    have hquiet : ∀ x ∈ peer.served, ¬x.Changes := by
      rw [hserved, List.nil_append]
      exact fun x hx => (hqueries x hx).not_changes rfl
    split
    · exact ensures_requestOf_of_answered (Or.inl rfl) ret.2 peer hquiet
    · exact ensures_requestOf_of_answered (Or.inl rfl) ret.2 peer hquiet
    · exact ensures_requestOf_of_answered (Or.inr rfl) ret.2 peer hquiet
    · exact Or.inr ⟨(by decide : (1 : ℕ) ≠ 0), hquiet⟩
    · exact Or.inr ⟨(by decide : (1 : ℕ) ≠ 0), hquiet⟩
  obtain ⟨peer, hpeer, hpost⟩ := post_of_answered hanswers hensures hexec hdone
  rwa [hpeer]

/-- Process 100 toggles game mode for process 200. -/
theorem toggle_exact_of_game :
    ∃ s, Runs.exec (toolStep .unreadable (.withPidfds 100))
        (.start (toolToggle 200 true) unusedDaemon) [answeredRound, answeredRound] = some s ∧
      ChangedLast s.server.served := by
  refine ⟨_, rfl, ?_⟩
  refine ((@toggle_exact .unreadable (.withPidfds 100) unusedDaemon
    [answeredRound, answeredRound] _ _ 200 true ?_ rfl rfl).resolve_right fun h => h.1 rfl).2
  intro env henv
  simp [answeredRound] at henv

end ToolRuns

/-! ### Sessions -/

section Sessions

variable {files : CpuSysfs} {host : Host}

/-- What an operation of somebody else does for a process: it does not register or unregister it,
and does not find it dead. -/
def ContextOp.Spares (client : Pid) : ContextOp × Env → Prop
  | (.register client' _, _) | (.unregister client' _, _) => client' ≠ client
  | (.autoExpireRound, env) => env.alive client = true
  | _ => True

/-- The registry stays consistent, and the registration of the process as it is. -/
def KeepsRegistration (client : Pid) (w w' : World) : Prop :=
  w.Consistent → w'.Consistent ∧ (w'.IsRegistered client ↔ w.IsRegistered client)

theorem isRegistered_of_pids {w w' : World} {client : Pid} (h : w'.pids = w.pids) :
    w'.IsRegistered client ↔ w.IsRegistered client := by
  rw [← World.mem_pids_iff, h, World.mem_pids_iff]

private theorem isRegistered_unregister {env : Env} {client client' requester : Pid} {w : World}
    (hne : client' ≠ client) :
    (contextUnregister env client' requester w).2.IsRegistered client ↔ w.IsRegistered client := by
  rcases contextUnregister_cases env client' requester w with ⟨-, heq⟩ | ⟨w', hremove, heq⟩
  · rw [heq]
  · have hpids : w'.pids = w.pids.erase client' := removeClient_pids hremove
    rw [heq, ← World.mem_pids_iff, ← World.mem_pids_iff]
    exact hpids ▸ List.mem_erase_of_ne hne.symm

/-- The others spare the tool. -/
theorem keepsRegistration_contextStep {client : Pid} {a : ContextOp × Env} {w w' : World}
    (hspares : ContextOp.Spares client a) (hstep : contextStep files w a = some w') :
    KeepsRegistration client w w' := by
  intro hconsistent
  refine ⟨hconsistent.contextStep files hstep, ?_⟩
  obtain ⟨op, env⟩ := a
  cases op with
  | register client' requester =>
    cases hstep
    rcases contextRegister_cases files env client' requester w with ⟨-, heq⟩ | ⟨cl, rfl, -, heq⟩
    · rw [heq]
    · have hpids : (insertClient files env cl w).pids = cl.pid :: w.pids :=
        insertClient_pids files env cl w
      rw [heq, ← World.mem_pids_iff, ← World.mem_pids_iff]
      change client ∈ (insertClient files env cl w).pids ↔ client ∈ w.pids
      rw [hpids, List.mem_cons, or_iff_right (Ne.symm hspares)]
  | unregister client' requester =>
    cases hstep
    exact isRegistered_unregister hspares
  | restart requester =>
    cases hstep
    rcases contextRestart_cases files env requester w with ⟨-, heq⟩ | ⟨-, heq⟩
    · rw [heq]
    · rw [heq]
      exact Iff.rfl
  | autoExpireRound =>
    cases hstep
    rw [contextAutoExpireRound]
    cases hdead : deadClient env w with
    | none => rfl
    | some cl =>
      refine isRegistered_unregister fun hpid => ?_
      have hcl := List.find?_some hdead
      rw [hpid, show env.alive client = true from hspares] at hcl
      cases hcl
  | checkIgpuEnergy =>
    cases hstep
    exact Iff.rfl
  | reapplyCorePinning =>
    cases hstep
    rw [reapplyCorePinningInternal]
    split_ifs <;> exact Iff.rfl
  | reloadConfig =>
    cases hstep
    exact isRegistered_of_pids (congrArg (List.map Client.pid)
      (reloadConfigInternal_clients files env w).1)

theorem Served.IsFor.call_own {call : ApiCall} (hpid : call.forPid = 0) {r : Served}
    (hr : r.IsFor files host call) : r.call = ⟨call.operation, host.caller, host.caller⟩ := by
  rw [hr.call_eq, ApiCall.sent]
  split_ifs
  · simp [ApiCall.intended, ApiCall.game, hpid]
  · simp [ApiCall.plainCall, hpid]

/-- What an operation for a call of the tool about itself does to its registration: it changes
nothing, or the tool is registered, or it is not any more. -/
theorem Served.IsFor.own_cases {call : ApiCall} (hpid : call.forPid = 0)
    (hrestart : call ≠ .requestRestart) {r : Served} (hr : r.IsFor files host call)
    (hconsistent : r.before.Consistent) :
    r.answer.2.Consistent ∧
      (¬r.Changes ∧ (r.answer.2.IsRegistered host.caller ↔ r.before.IsRegistered host.caller) ∨
        r.Changes ∧ call.operation = .register ∧ r.answer.2.IsRegistered host.caller ∨
          r.Changes ∧ call.operation = .unregister ∧ ¬r.answer.2.IsRegistered host.caller) := by
  obtain ⟨env, hanswer⟩ := hr.answer
  rw [hr.call_own hpid, serveCall] at hanswer
  rw [Served.Changes]
  cases hop : call.operation with
  | register =>
    simp only [hop] at hanswer
    rw [hanswer]
    refine ⟨hconsistent.contextStep files (a := (.register _ _, env)) rfl, ?_⟩
    rcases contextRegister_cases files env host.caller host.caller r.before with
      ⟨-, heq⟩ | ⟨cl, hcl, -, heq⟩
    · exact Or.inl (by rw [heq]; exact ⟨not_not.2 rfl, Iff.rfl⟩)
    · have hclients := (insertClient_clients files env cl r.before).1
      have hinserted : (insertClient files env cl r.before).IsRegistered host.caller :=
        ⟨cl, hclients ▸ List.mem_cons_self, hcl⟩
      refine Or.inr (Or.inl ⟨?_, rfl, by rw [heq]; exact hinserted⟩)
      rw [heq]
      change (insertClient files env cl r.before).clients ≠ _
      rw [hclients]
      exact List.cons_ne_self _ _
  | unregister =>
    simp only [hop] at hanswer
    rw [hanswer]
    refine ⟨hconsistent.contextUnregister env _ _, ?_⟩
    rcases contextUnregister_cases env host.caller host.caller r.before with
      ⟨-, heq⟩ | ⟨w, hremove, heq⟩
    · exact Or.inl (by rw [heq]; exact ⟨not_not.2 rfl, Iff.rfl⟩)
    · have hpids := removeClient_pids hremove
      have hmem : host.caller ∈ r.before.pids :=
        World.mem_pids_iff.2 ((removeClient_isSome_iff env _ _).1 (hremove ▸ rfl))
      have hnot : ¬w.IsRegistered host.caller := by
        rw [← World.mem_pids_iff, hpids]
        exact hconsistent.nodup.not_mem_erase
      refine Or.inr (Or.inr ⟨?_, rfl, by rw [heq]; exact hnot⟩)
      rw [heq]
      intro hclients
      have hsame : w.pids = r.before.pids := congrArg (List.map Client.pid) hclients
      exact hnot (World.mem_pids_iff.1 (hsame ▸ hmem))
  | queryStatus =>
    simp only [hop] at hanswer
    rw [hanswer]
    exact ⟨hconsistent, Or.inl ⟨not_not.2 rfl, Iff.rfl⟩⟩
  | restart =>
    cases call with
    | requestRestart => exact absurd rfl hrestart
    | _ => cases hop

theorem keepsRegistration_trans (client : Pid) (w w' w'' : World)
    (h : KeepsRegistration client w w') (h' : KeepsRegistration client w' w'') :
    KeepsRegistration client w w'' := fun hconsistent =>
  ⟨(h' (h hconsistent).1).1, (h' (h hconsistent).1).2.trans (h hconsistent).2⟩

/-- What a tool ensures over a bus that loses no reply while nobody else acts for it. -/
theorem post_of_spared {R : Type} {program : Asks R} {s : ToolState R} {result : R} {w : World}
    {as : List ToolLabel} {post : R → Peer → Prop}
    (hspares : ∀ b, .other b ∈ as → ContextOp.Spares host.caller b)
    (hanswers : ∀ env, .round (env, .delivered true) ∉ as)
    (hensures : program.Ensures (Peer.Rely (KeepsRegistration host.caller))
      (Peer.Serves files host (· ≠ .delivered true)) post ⟨w, []⟩)
    (hexec : Runs.exec (toolStep files host) (.start program w) as = some s)
    (hdone : s.program = .done result) :
    ∃ peer, peer.Rely (KeepsRegistration host.caller) s.server ∧ post result peer :=
  post_of_exec
    (G := fun _ l => (∀ b, l = .other b → ContextOp.Spares host.caller b) ∧
      ∀ env, l ≠ .round (env, .delivered true)) (fun _ h => ⟨h, Iff.rfl⟩)
    (keepsRegistration_trans host.caller)
    (fun _ b _ hG hstep => keepsRegistration_contextStep (hG.1 b rfl) hstep)
    (fun _ l hG hlost => hG.2 l.1 (congrArg Dialogue.Label.round (Prod.ext rfl hlost))) hensures
    (.of_forall_mem fun _ hl _ => ⟨fun b hb => hspares b (hb ▸ hl),
      fun env hround => hanswers env (hround ▸ hl)⟩) hexec hdone

/-- Where a session is: whether the tool is registered, and whether the list has changed for it. -/
structure SessionAt (host : Host) (registered changed : Prop) (peer : Peer) : Prop where
  consistent : peer.world.Consistent
  registered_iff : peer.world.IsRegistered host.caller ↔ registered
  changed_iff : (∃ r ∈ peer.served, r.Changes) ↔ changed

theorem SessionAt.of_rely {registered changed : Prop} {peer peer' : Peer}
    (h : SessionAt host registered changed peer)
    (hrely : peer.Rely (KeepsRegistration host.caller) peer') :
    SessionAt host registered changed peer' := by
  obtain ⟨hserved, hkeeps⟩ := hrely
  obtain ⟨hconsistent, hregistered⟩ := hkeeps h.consistent
  exact ⟨hconsistent, hregistered.trans h.registered_iff, hserved ▸ h.changed_iff⟩

/-- A request of the tool about itself over a bus that loses no reply: it leaves a session where it
is, or it is accepted. -/
theorem ensures_own {call : ApiCall} (hpid : call.forPid = 0) (hrestart : call ≠ .requestRestart)
    {registered changed : Prop} {peer : Peer} (hat : SessionAt host registered changed peer)
    (usePidfds : Bool) :
    (request call usePidfds).Ensures (Peer.Rely (KeepsRegistration host.caller))
      (Peer.Serves files host (· ≠ .delivered true))
      (fun ret after =>
        (call.IsRequest → ret.1 < 0) ∧ SessionAt host registered changed after ∨
          call.IsRequest ∧ 0 ≤ ret.1 ∧
            SessionAt host (call.operation = .register) True after) peer := by
  refine (ensures_request_of_answered hrestart (not_not.2 rfl)
    (keepsRegistration_trans host.caller) usePidfds peer).mono ?_
  rintro ret after (⟨hret, hserved, hkeeps⟩ | ⟨r, hserved, hret, hr, hkeeps, hworld⟩)
  · exact Or.inl ⟨fun _ => by omega, hat.of_rely ⟨hserved, hkeeps⟩⟩
  · obtain ⟨hbefore, hregistered⟩ := hkeeps hat.consistent
    obtain ⟨hconsistent, hcases⟩ := hr.own_cases hpid hrestart hbefore
    have hexists : (∃ x ∈ after.served, x.Changes) ↔ changed ∨ r.Changes := by
      simp only [hserved, List.mem_append, List.mem_singleton, or_and_right, exists_or,
        exists_eq_left, hat.changed_iff]
    rw [← hworld] at hconsistent hcases
    rcases hcases with ⟨hnot, hsame⟩ | ⟨hchanges, hop, hin⟩ | ⟨hchanges, hop, hout⟩
    · refine Or.inl ⟨fun hrequest => ?_, hconsistent, ?_, ?_⟩
      · rw [hr.changes_iff hrequest] at hnot
        omega
      · rw [hsame, hregistered, hat.registered_iff]
      · rw [hexists, or_iff_left hnot]
    · have hrequest : call.IsRequest := Or.inl hop
      refine Or.inr ⟨hrequest, hret ▸ (hr.changes_iff hrequest).1 hchanges, hconsistent,
        iff_of_true hin hop, iff_of_true (hexists.2 (Or.inr hchanges)) trivial⟩
    · have hrequest : call.IsRequest := Or.inr hop
      refine Or.inr ⟨hrequest, hret ▸ (hr.changes_iff hrequest).1 hchanges, hconsistent,
        iff_of_false hout (by simp [hop]), iff_of_true (hexists.2 (Or.inr hchanges)) trivial⟩

private theorem SessionAt.failed {changed : Prop} {peer : Peer}
    (h : SessionAt host changed changed peer) (report : Report) :
    ∃ changed, SessionAt host ((Exit.failure report).status ≠ 0 ∧ changed) changed peer :=
  ⟨changed, h.consistent, h.registered_iff.trans ⟨fun hc => ⟨Nat.one_ne_zero, hc⟩, And.right⟩,
    h.changed_iff⟩

theorem ensures_toolSession (usePidfds : Bool) {w : World} (hconsistent : w.Consistent)
    (hnew : ¬w.IsRegistered host.caller) :
    (toolSession usePidfds).Ensures (Peer.Rely (KeepsRegistration host.caller))
      (Peer.Serves files host (· ≠ .delivered true))
      (fun exit after => ∃ changed : Prop, SessionAt host (exit.status ≠ 0 ∧ changed) changed after)
      ⟨w, []⟩ := by
  have hstart : SessionAt host False False ⟨w, []⟩ :=
    ⟨hconsistent, iff_false_intro hnew, by simp⟩
  rw [toolSession, Dialogue.ensures_bind]
  refine (ensures_own rfl (by simp) hstart usePidfds).mono ?_
  rintro start peer (⟨hneg, hat⟩ | ⟨-, hle, hat⟩)
  · rw [if_pos (hneg (Or.inl rfl))]
    exact hat.failed .requestFailed
  · have hat' : SessionAt host True True peer := by simpa [ApiCall.operation] using hat
    rw [if_neg (not_lt.2 hle), Dialogue.ensures_bind]
    refine (ensures_own rfl (by simp) hat' start.2).mono fun status peer' hquery => ?_
    have hat'' : SessionAt host True True peer' := by
      rcases hquery with ⟨-, hat⟩ | ⟨hrequest | hrequest, -⟩
      · exact hat
      · cases hrequest
      · cases hrequest
    split
    · rw [requestOf, Dialogue.ensures_bind]
      refine (ensures_own rfl (by simp) hat'' status.2).mono ?_
      rintro ret last (⟨hneg, hend⟩ | ⟨-, hle, hend⟩)
      · rw [if_pos (hneg (Or.inr rfl))]
        exact hend.failed .requestFailed
      · rw [if_neg (not_lt.2 hle)]
        refine ⟨True, hend.consistent, ?_, hend.changed_iff⟩
        rw [hend.registered_iff]
        exact iff_of_false (by simp [ApiCall.operation]) fun h => h.1 rfl
    all_goals exact hat''.failed _

variable {usePidfds : Bool} {w : World} {as : List ToolLabel} {s : ToolState Exit}
  {exit : Exit}

/-- **What a session leaves behind.** Let nobody else act for the tool, and the bus lose no reply.
At the end the tool is registered just when it fails although the daemon has accepted it. -/
theorem session_iff (hconsistent : w.Consistent) (hnew : ¬w.IsRegistered host.caller)
    (hspares : ∀ b, .other b ∈ as → ContextOp.Spares host.caller b)
    (hanswers : ∀ env, .round (env, .delivered true) ∉ as)
    (hexec : Runs.exec (toolStep files host) (.start (toolSession usePidfds) w) as = some s)
    (hdone : s.program = .done exit) :
    s.server.world.IsRegistered host.caller ↔
      exit.status ≠ 0 ∧ ∃ r ∈ s.server.served, r.Changes := by
  obtain ⟨peer, hrely, changed, hat⟩ := post_of_spared hspares hanswers
    (ensures_toolSession usePidfds hconsistent hnew) hexec hdone
  have hend := hat.of_rely hrely
  rw [hend.registered_iff, hend.changed_iff]

/-- Process 100 holds game mode until it is interrupted, while process 300 comes and goes. -/
theorem session_of_interrupt :
    ∃ s, Runs.exec (toolStep .unreadable (.withPidfds 100))
        (.start (toolSession true) unusedDaemon)
        [answeredRound, answeredRound, .other (.register 300 300, .succeeding Config.initial),
          answeredRound] = some s ∧ ¬s.server.world.IsRegistered 100 := by
  refine ⟨_, rfl, fun hregistered => ?_⟩
  refine ((@session_iff .unreadable (.withPidfds 100) true unusedDaemon
    [answeredRound, answeredRound, .other (.register 300 300, .succeeding Config.initial),
      answeredRound] _ _ (consistent_contextInit _ _ _ _) ?_ ?_ ?_ rfl rfl).1 hregistered).1 rfl
  · rintro ⟨cl, hcl, -⟩
    cases hcl
  · intro b hb
    obtain rfl : b = (.register 300 300, .succeeding Config.initial) := by
      simpa [answeredRound] using hb
    exact (by decide : (300 : ℤ) ≠ 100)
  · intro env henv
    simp [answeredRound] at henv

end Sessions

end GameMode
