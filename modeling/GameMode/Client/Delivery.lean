import GameMode.Client.Request
import GameMode.Daemon.Registry

/-!
# What the caller of a request learns

A request of the library that fails with descriptors is sent once more with process identifiers. The
library does not know whether the daemon has served the first message: a reply that comes too late
looks like a message that was lost. So the operation can be called twice, and the answer to the
repetition, that the game is registered already, is what the caller gets.

The daemon may change between the two messages: what it is when either message arrives is data of
the request.

## Main definitions

* `serveCall`: an operation that a message calls.
* `gamemodeRequestServed`: a request with the operations that the daemon served for it.
* `AgreesWithDaemon`: the result of a request is what the daemon did.
* `AnswersArrive`: the replies that the library depends on are not lost.

## Main results

* `runServed_calls`: the request is that of `GameMode.Client.Request`.
* `agreesWithDaemon_iff`: when the result agrees with the daemon.

Source: `lib/client_impl.c`, `make_request` and `gamemode_request`.
-/

namespace GameMode

/-- The requests that register or unregister a game. -/
def ApiCall.IsRequest (call : ApiCall) : Prop :=
  call.operation = .register ∨ call.operation = .unregister

theorem ApiCall.IsRequest.ne_restart {call : ApiCall} (h : call.IsRequest) :
    call ≠ .requestRestart := by
  rintro rfl
  rcases h with h | h <;> cases h

/-- The call acts for the process that makes it. -/
def ApiCall.IsOwn (call : ApiCall) (caller : Pid) : Prop := call.forPid = 0 ∨ call.forPid = caller

/-! ### The daemon -/

section Daemon

variable (files : CpuSysfs)

/-- An operation that a message calls: its result, and the context afterwards. -/
def serveCall (env : Env) (call : DaemonCall) (w : World) : ℤ × World :=
  match call.operation with
  | .register => contextRegister files env call.client call.requester w
  | .unregister => contextUnregister env call.client call.requester w
  | .queryStatus => (contextQueryStatus env call.client call.requester w, w)
  | .restart => contextRestart files env call.requester w

/-- The daemon when a message arrives. -/
abbrev Moment := Env × World

/-- The answer to a message. -/
def Moment.answer (moment : Moment) (call : DaemonCall) : ℤ × World :=
  serveCall files moment.1 call moment.2

/-- The daemon accepts a registration or the removal of a client. -/
def Moment.Accepts (moment : Moment) (call : DaemonCall) : Prop :=
  GatePasses moment.2.config moment.1.findExe call.client call.requester ∧
    match call.operation with
    | .register => ¬moment.2.IsRegistered call.client ∧
        ClientAdmitted moment.2.config moment.1.findExe call.client
    | .unregister => moment.2.IsRegistered call.client
    | .queryStatus | .restart => False

variable {call : DaemonCall} (h : call.operation = .register ∨ call.operation = .unregister)
  (moment : Moment)
include h

theorem answer_eq_zero_iff : (moment.answer files call).1 = 0 ↔ moment.Accepts call := by
  rw [Moment.answer, Moment.Accepts, serveCall]
  rcases h with h | h
  · simp only [h]
    exact (contextRegister_exact files _ _ _ _).zero_iff
  · simp only [h]
    exact (contextUnregister_exact _ _ _ _).zero_iff

/-- The list of the clients changes exactly when the call is accepted. -/
theorem answer_clients_eq_iff :
    (moment.answer files call).2.clients = moment.2.clients ↔ ¬moment.Accepts call := by
  rw [← answer_eq_zero_iff files h, Moment.answer, serveCall]
  constructor
  · intro hclients hzero
    have hlength := congrArg List.length hclients
    rcases h with h | h
    · simp only [h] at hzero hlength
      obtain ⟨cl, -, hcons, -⟩ := (contextRegister_exact files _ _ _ _).effect hzero
      rw [hcons, List.length_cons] at hlength
      omega
    · simp only [h] at hzero hlength
      have hexact := contextUnregister_exact moment.1 call.client call.requester moment.2
      obtain ⟨cl, hcl, hpid⟩ := (hexact.zero_iff.1 hzero).2
      rw [(hexact.effect hzero).1,
        List.length_eraseP_of_mem hcl (decide_eq_true hpid)] at hlength
      have := List.length_pos_of_mem hcl
      omega
  · intro hne
    rcases h with h | h
    · simp only [h] at hne ⊢
      rw [(contextRegister_exact files _ _ _ _).unchanged hne]
    · simp only [h] at hne ⊢
      rw [(contextUnregister_exact _ _ _ _).unchanged hne]

end Daemon

/-! ### Requests that are served -/

/-- What comes of a request: the operations that the daemon served, each with the transport of its
message, and the result. -/
structure ServedRun where
  /-- The operations that the daemon served, in order, each with whether its message had
  descriptors. -/
  served : List (Bool × DaemonCall)
  /-- The result. -/
  res : ℤ

section Requests

variable (host : Host)

/-- `gamemode_request`, where `answers` gives the results of the operations when the message of
either transport arrives. -/
def gamemodeRequestServed (answers : Bool → DaemonCall → ℤ) (bus : Bool → BusDelivery)
    (usePidfs : Bool) (method : CString) (forPid : Pid) : ServedRun :=
  let pids := [if forPid ≠ 0 then forPid else host.caller, host.caller]
  let first := attempt host (answers usePidfs) (bus usePidfs) usePidfs method
    (pids.take (npids forPid usePidfs))
  if first.res = -1 ∧ usePidfs ∧ first.error then
    let second := attempt host (answers false) (bus false) false method
      (pids.take (npids forPid false))
    ⟨first.call.toList.map (usePidfs, ·) ++ second.call.toList.map (false, ·), second.res⟩
  else ⟨first.call.toList.map (usePidfs, ·), first.res⟩

/-- A call of the library with the operations that the daemon served. -/
def ApiCall.runServed (call : ApiCall) (answers : Bool → DaemonCall → ℤ)
    (bus : Bool → BusDelivery) (usePidfs : Bool) : ServedRun :=
  gamemodeRequestServed host answers bus usePidfs call.method call.forPid

/-- The operations that are served are those that are called. -/
theorem runServed_calls (call : ApiCall) (serve : DaemonCall → ℤ) (bus : Bool → BusDelivery)
    (usePidfs : Bool) :
    (call.runServed host (fun _ => serve) bus usePidfs).served.map Prod.snd =
        (call.run host serve bus usePidfs).calls ∧
      (call.runServed host (fun _ => serve) bus usePidfs).res =
        (call.run host serve bus usePidfs).res := by
  simp only [ApiCall.runServed, gamemodeRequestServed, ApiCall.run, gamemodeRequest]
  split_ifs <;> simp [Function.comp_def]

theorem handle_plain_message_zero (fdinfo : Option (Fd → FdInfo)) {call : ApiCall}
    (hrestart : call ≠ .requestRestart) (h : ¬call.IsAboutGame) (caller : Pid) :
    handle fdinfo ⟨call.method,
      ([call.game caller, caller].take (npids call.forPid false)).map .int32⟩ = .error := by
  cases call with
  | requestRestart => exact absurd rfl hrestart
  | requestStart | requestEnd | queryStatus => exact absurd trivial h
  | requestStartFor pid | requestEndFor pid | queryStatusFor pid =>
    obtain rfl : pid = 0 := not_not.1 h
    rfl

/-- Once the message with descriptors is delivered, the request fails exactly when its reply is
lost. -/
theorem pidfdFails_iff_of_delivered {call : ApiCall} {bus : Bool → BusDelivery}
    (h : PidfdDelivered host call bus) :
    PidfdFails host call bus ↔ bus true ≠ .delivered false := by
  have hlost : bus true ≠ .lost := h.2.2
  rw [pidfdFails_iff, iff_false_intro (not_not.2 h), false_or]
  cases hbus : bus true with
  | lost => exact absurd hbus hlost
  | delivered replyLost => cases replyLost <;> simp

variable (answers : Bool → DaemonCall → ℤ) {call : ApiCall} (h : call ≠ .requestRestart)
  (bus : Bool → BusDelivery) (usePidfs : Bool)
include h

open scoped Classical in
/-- The round with process identifiers: a call for process zero is refused by the bus library. -/
theorem plainAttempt_cases (serve : DaemonCall → ℤ) :
    plainAttempt host serve call bus =
      if call.IsAboutGame then
        ⟨if bus false = .lost then none else some (call.plainCall host.caller),
          if bus false = .delivered false then serve (call.plainCall host.caller) else -1,
          bus false ≠ .delivered false⟩
      else ⟨none, -1, true⟩ := by
  by_cases habout : call.IsAboutGame
  · rw [if_pos habout, plainAttempt_eq host serve habout]
    cases hbus : bus false with
    | lost => simp
    | delivered replyLost => cases replyLost <;> simp
  · have hhandle := handle_plain_message_zero (some host.fdinfo) h habout host.caller
    rw [if_neg habout]
    simp only [plainAttempt, attempt, makeMessage, Bool.false_eq_true, if_false]
    cases hbus : bus false with
    | lost => rfl
    | delivered replyLost => simp only [hhandle]

private theorem runServed_rounds :
    call.runServed host answers bus usePidfs =
      if usePidfs → PidfdFails host call bus then
        ⟨(if usePidfs then (pidfdAttempt host (answers true) call bus).call.toList.map (true, ·)
            else []) ++
          (plainAttempt host (answers false) call bus).call.toList.map (false, ·),
          (plainAttempt host (answers false) call bus).res⟩
      else
        ⟨(pidfdAttempt host (answers true) call bus).call.toList.map (true, ·),
          (pidfdAttempt host (answers true) call bus).res⟩ := by
  cases usePidfs with
  | false => simp [ApiCall.runServed, gamemodeRequestServed, plainAttempt, ApiCall.game]
  | true =>
    have hnpids : npids call.forPid true = 2 := if_pos (Or.inr rfl)
    have hrun : call.runServed host answers bus true =
        let first := pidfdAttempt host (answers true) call bus
        let second := plainAttempt host (answers false) call bus
        if first.res = -1 ∧ first.error then
          ⟨first.call.toList.map (true, ·) ++ second.call.toList.map (false, ·), second.res⟩
        else ⟨first.call.toList.map (true, ·), first.res⟩ := by
      simp only [ApiCall.runServed, gamemodeRequestServed, hnpids, true_and]
      rfl
    rw [hrun]
    rcases (pidfdAttempt_cases host (answers true) h bus).1 with
      ⟨hfails, herror, hres⟩ | ⟨hnot, herror⟩
    · simp [hfails, herror, hres]
    · simp [hnot, herror]

open scoped Classical in
/-- The operations that the daemon serves: at most one for each transport. -/
theorem runServed_served :
    (call.runServed host answers bus usePidfs).served =
      (if usePidfs ∧ PidfdDelivered host call bus ∧ GameLives host call then
        [(true, call.intended host.caller)] else []) ++
      if call.IsAboutGame ∧ PlainDelivered host call bus usePidfs then
        [(false, call.plainCall host.caller)] else [] := by
  rw [runServed_rounds host answers h, plainAttempt_cases host h, pidfdAttempt_eq host _ h]
  simp only [PlainDelivered, pidfdFails_iff]
  by_cases hdelivered : PidfdDelivered host call bus <;>
    by_cases hlives : GameLives host call <;>
    by_cases habout : call.IsAboutGame <;>
    by_cases hlost : bus false = .lost <;>
    by_cases hreply : bus true = .delivered true <;>
    cases usePidfs <;> simp [hdelivered, hlives, habout, hlost, hreply]

open scoped Classical in
/-- The result is that of the last round. -/
theorem runServed_res :
    (call.runServed host answers bus usePidfs).res =
      if usePidfs → PidfdFails host call bus then
        if call.IsAboutGame ∧ bus false = .delivered false then
          answers false (call.plainCall host.caller) else -1
      else if GameLives host call then answers true (call.intended host.caller) else -1 := by
  rw [runServed_rounds host answers h]
  by_cases hfails : usePidfs → PidfdFails host call bus
  · rw [if_pos hfails, if_pos hfails, plainAttempt_cases host h]
    by_cases habout : call.IsAboutGame <;> simp [habout]
  · rw [if_neg hfails, if_neg hfails, pidfdAttempt_eq host _ h]
    have hdelivered : PidfdDelivered host call bus := by
      rw [pidfdFails_iff] at hfails
      tauto
    have hreply : bus true = .delivered false := by
      rw [pidfdFails_iff_of_delivered host hdelivered] at hfails
      tauto
    simp [hdelivered, hreply]

end Requests

/-! ### The result of a request -/

section Agreement

variable (files : CpuSysfs) (host : Host) (moments : Bool → Moment)

/-- A call of the library, where `moments` says what the daemon is when the message of either
transport arrives. -/
def ApiCall.runAgainst (call : ApiCall) (bus : Bool → BusDelivery) (usePidfs : Bool) : ServedRun :=
  call.runServed host (fun usePidfds c => ((moments usePidfds).answer files c).1) bus usePidfs

/-- The result of a request agrees with what the daemon did: it served the operation for the game of
the call at most once, it changed its list for no other process, and the result is zero when it
accepted the request. -/
structure AgreesWithDaemon (call : ApiCall) (run : ServedRun) : Prop where
  once : (run.served.countP fun s => s.2.client = call.game host.caller) ≤ 1
  noOther : ∀ s ∈ run.served, s.2.client ≠ call.game host.caller →
    ((moments s.1).answer files s.2).2.clients = (moments s.1).2.clients
  zero : ∀ s ∈ run.served, s.2.client = call.game host.caller →
    ((moments s.1).answer files s.2).1 = 0 → run.res = 0

/-- The library learns what it has to. The reply to a message that the daemon accepts is not lost,
and a plain message that it accepts is about the caller itself; a message about the caller that was
served is not sent again. -/
structure AnswersArrive (call : ApiCall) (bus : Bool → BusDelivery) (usePidfs : Bool) : Prop where
  pidfdReply : usePidfs → PidfdDelivered host call bus → GameLives host call →
    (moments true).Accepts (call.intended host.caller) → bus true = .delivered false
  plainReply : call.IsAboutGame → PlainDelivered host call bus usePidfs →
    (moments false).Accepts (call.plainCall host.caller) →
      call.IsOwn host.caller ∧ bus false = .delivered false
  notRepeated : usePidfs → PidfdDelivered host call bus → GameLives host call →
    call.IsAboutGame → PlainDelivered host call bus usePidfs → ¬call.IsOwn host.caller

variable {call : ApiCall} {bus : Bool → BusDelivery} {usePidfs : Bool} {host}

theorem plainCall_client_eq_iff (call : ApiCall) (caller : Pid) :
    (call.plainCall caller).client = call.game caller ↔ call.IsOwn caller := by
  by_cases h : call.forPid = 0
  · simp [ApiCall.plainCall, ApiCall.game, ApiCall.IsOwn, h]
  · simp [ApiCall.plainCall, ApiCall.game, ApiCall.IsOwn, h, eq_comm]

theorem plainCall_operation (call : ApiCall) (caller : Pid) :
    (call.plainCall caller).operation = call.operation := by
  rw [ApiCall.plainCall]
  split_ifs <;> rfl

section Served

variable (h : call.IsRequest)
include h

theorem mem_served_iff (s : Bool × DaemonCall) :
    s ∈ (call.runAgainst files host moments bus usePidfs).served ↔
      s = (true, call.intended host.caller) ∧
          usePidfs ∧ PidfdDelivered host call bus ∧ GameLives host call ∨
        s = (false, call.plainCall host.caller) ∧
          call.IsAboutGame ∧ PlainDelivered host call bus usePidfs := by
  classical
  rw [ApiCall.runAgainst, runServed_served host _ h.ne_restart, List.mem_append]
  refine or_congr ?_ ?_ <;> rw [List.mem_ite_nil_right, List.mem_singleton, and_comm]

/-- The operation is served twice for the game exactly when both messages are served and the call is
for the caller. -/
theorem once_iff :
    ((call.runAgainst files host moments bus usePidfs).served.countP
        fun s => s.2.client = call.game host.caller) ≤ 1 ↔
      (usePidfs → PidfdDelivered host call bus → GameLives host call →
        call.IsAboutGame → PlainDelivered host call bus usePidfs → ¬call.IsOwn host.caller) := by
  have hgame : (call.intended host.caller).client = call.game host.caller := rfl
  rw [ApiCall.runAgainst, runServed_served host _ h.ne_restart, ← plainCall_client_eq_iff]
  by_cases hclient : (call.plainCall host.caller).client = call.game host.caller <;>
    split_ifs with hpidfd hplain hplain <;> simp [hgame, hclient] <;> tauto

theorem res_of_plain (habout : call.IsAboutGame) (hplain : PlainDelivered host call bus usePidfs)
    (hreply : bus false = .delivered false) :
    (call.runAgainst files host moments bus usePidfs).res =
      ((moments false).answer files (call.plainCall host.caller)).1 := by
  rw [ApiCall.runAgainst, runServed_res host _ h.ne_restart, if_pos hplain.1,
    if_pos ⟨habout, hreply⟩]

theorem isRequest_plainCall (caller : Pid) : (call.plainCall caller).operation = .register ∨
    (call.plainCall caller).operation = .unregister :=
  (plainCall_operation call caller).symm ▸ h

/-- The list changes for no other process exactly when a plain message that is accepted is about the
caller. -/
theorem noOther_iff :
    (∀ s ∈ (call.runAgainst files host moments bus usePidfs).served,
        s.2.client ≠ call.game host.caller →
          ((moments s.1).answer files s.2).2.clients = (moments s.1).2.clients) ↔
      (call.IsAboutGame → PlainDelivered host call bus usePidfs →
        (moments false).Accepts (call.plainCall host.caller) → call.IsOwn host.caller) := by
  have hunchanged := answer_clients_eq_iff files (isRequest_plainCall h host.caller)
  constructor
  · intro hnoOther habout hplain haccepts
    by_contra hother
    have hserved := (mem_served_iff files moments h _).2 (Or.inr ⟨rfl, habout, hplain⟩)
    have hclients := hnoOther _ hserved
      (mt (plainCall_client_eq_iff call host.caller).1 hother)
    exact (hunchanged _).1 hclients haccepts
  · intro hown s hs hclient
    rcases (mem_served_iff files moments h s).1 hs with ⟨rfl, -⟩ | ⟨rfl, habout, hplain⟩
    · exact absurd rfl hclient
    · refine (hunchanged _).2 fun haccepts => hclient ?_
      exact (plainCall_client_eq_iff call host.caller).2 (hown habout hplain haccepts)

/-- **Requests over a bus that loses messages.** The result of a request agrees with what the daemon
did exactly when the answers that the library depends on arrive. -/
theorem agreesWithDaemon_iff :
    AgreesWithDaemon files host moments call (call.runAgainst files host moments bus usePidfs) ↔
      AnswersArrive host moments call bus usePidfs := by
  have hintendedOperation : (call.intended host.caller).operation = .register ∨
      (call.intended host.caller).operation = .unregister := h
  have hplainOperation := isRequest_plainCall h host.caller
  have hmem := @mem_served_iff files host moments call bus usePidfs h
  constructor
  · intro hagrees
    have hnotRepeated := (once_iff files moments h).1 hagrees.once
    have hplainOwn := (noOther_iff files moments h).1 hagrees.noOther
    refine ⟨?_, ?_, hnotRepeated⟩
    · intro hflag hdelivered hlives haccepts
      have hres := hagrees.zero _ ((hmem _).2 (Or.inl ⟨rfl, hflag, hdelivered, hlives⟩)) rfl
        ((answer_eq_zero_iff files hintendedOperation _).2 haccepts)
      by_contra hlost
      -- the library sends the plain message, and its answer must be zero
      have hfails : usePidfs → PidfdFails host call bus := fun _ =>
        (pidfdFails_iff_of_delivered host hdelivered).2 hlost
      rw [ApiCall.runAgainst, runServed_res host _ h.ne_restart, if_pos hfails] at hres
      split_ifs at hres with hsecond
      · obtain ⟨habout, hreply⟩ := hsecond
        have hplain : PlainDelivered host call bus usePidfs := ⟨hfails, by simp [hreply]⟩
        exact hnotRepeated hflag hdelivered hlives habout hplain
          (hplainOwn habout hplain ((answer_eq_zero_iff files hplainOperation _).1 hres))
    · intro habout hplain haccepts
      have hown := hplainOwn habout hplain haccepts
      refine ⟨hown, ?_⟩
      have hres := hagrees.zero _ ((hmem _).2 (Or.inr ⟨rfl, habout, hplain⟩))
        ((plainCall_client_eq_iff call host.caller).2 hown)
        ((answer_eq_zero_iff files hplainOperation _).2 haccepts)
      rw [ApiCall.runAgainst, runServed_res host _ h.ne_restart, if_pos hplain.1] at hres
      split_ifs at hres with hsecond
      exact hsecond.2
  · intro harrive
    have hown := (noOther_iff files moments h).2 fun habout hplain haccepts =>
      (harrive.plainReply habout hplain haccepts).1
    refine ⟨(once_iff files moments h).2 harrive.notRepeated, hown, ?_⟩
    intro s hs hclient hzero
    rcases (hmem s).1 hs with ⟨rfl, hflag, hdelivered, hlives⟩ | ⟨rfl, habout, hplain⟩
    · have hreply := harrive.pidfdReply hflag hdelivered hlives
        ((answer_eq_zero_iff files hintendedOperation _).1 hzero)
      have hnot : ¬(usePidfs → PidfdFails host call bus) := fun hfails =>
        (pidfdFails_iff_of_delivered host hdelivered).1 (hfails hflag) hreply
      rw [ApiCall.runAgainst, runServed_res host _ h.ne_restart, if_neg hnot, if_pos hlives]
      exact hzero
    · have hreply := (harrive.plainReply habout hplain
        ((answer_eq_zero_iff files hplainOperation _).1 hzero)).2
      rw [res_of_plain files moments h habout hplain hreply]
      exact hzero

end Served

end Agreement

private def idleMoment : Moment :=
  (.succeeding Config.initial,
    contextInit .unreadable ∅ Config.initial (.plain "powersave".toList "balanced".toList ∅ []))

/-- Without losses the result of a registration agrees with the daemon. -/
theorem agreesWithDaemon_of_delivered :
    AgreesWithDaemon .unreadable (.withPidfds 100) (fun _ => idleMoment) .requestStart
      (ApiCall.runAgainst .unreadable (.withPidfds 100) (fun _ => idleMoment) .requestStart
        (fun _ => .delivered false) true) := by
  refine (agreesWithDaemon_iff .unreadable (fun _ => idleMoment) (Or.inl rfl)).2 ⟨?_, ?_, ?_⟩
  · intro _ _ _ _
    rfl
  · intro _ hplain _
    exact absurd hplain (by decide)
  · intro _ _ _ _ hplain
    exact absurd hplain (by decide)

private def registeredMoments : Bool → Moment
  | true => idleMoment
  | false => (idleMoment.1, (idleMoment.answer .unreadable ⟨.register, 100, 100⟩).2)

/-- A registration whose reply is lost is sent again and refused: the caller is told that it failed,
while it is registered. -/
theorem not_agreesWithDaemon_of_replyLost :
    ¬AgreesWithDaemon .unreadable (.withPidfds 100) registeredMoments .requestStart
        (ApiCall.runAgainst .unreadable (.withPidfds 100) registeredMoments .requestStart
          (fun usePidfds => .delivered usePidfds) true) ∧
      (ApiCall.runAgainst .unreadable (.withPidfds 100) registeredMoments .requestStart
        (fun usePidfds => .delivered usePidfds) true).res = -1 ∧
      (registeredMoments false).2.pids = [100] := by
  refine ⟨fun h => absurd h.once (by decide), by decide, rfl⟩

end GameMode
