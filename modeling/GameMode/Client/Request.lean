import GameMode.Daemon.Bus

/-!
# Requests of the client library

A request of the library is sent as a method call whose arguments are the game and the calling
process. While a flag of the library is set, both are sent as descriptors and the name of the method
gets a suffix; when such a request fails, the flag is cleared for good and the request is sent again
with process identifiers.

The two transports do not agree on the order of the arguments: with descriptors the game comes first
on both sides, with process identifiers the library still puts the game first but the daemon reads
the caller first.

## Main definitions

* `ApiCall`: the calls of the library.
* `Host`: the kernel as far as process descriptors are concerned.
* `makeMessage`, `attempt`, `gamemodeRequest`: a request.
* `RequestRun.MeansIntended`: the daemon performs what the call asks for and nothing else.

## Main results

* `handle_pidfd_message`, `handle_plain_message`: the composition of the two programs.
* `meansIntended_iff`: when a request means what the call asks for.

Source: `lib/client_impl.c` and `daemon/gamemode-dbus.c`.
-/

namespace GameMode

/-! ### The library -/

/-- The calls of the library. -/
inductive ApiCall
  | requestStart | requestEnd | queryStatus | requestRestart
  | requestStartFor (pid : Pid) | requestEndFor (pid : Pid) | queryStatusFor (pid : Pid)
  deriving DecidableEq, Repr

namespace ApiCall

/-- The method that a call passes to `gamemode_request`. -/
def method : ApiCall → CString
  | requestStart => "RegisterGame".toList
  | requestEnd => "UnregisterGame".toList
  | queryStatus => "QueryStatus".toList
  | requestRestart => "RestartGamemode".toList
  | requestStartFor _ => "RegisterGameByPID".toList
  | requestEndFor _ => "UnregisterGameByPID".toList
  | queryStatusFor _ => "QueryStatusByPID".toList

/-- The process that a call passes to `gamemode_request`, zero for none. -/
def forPid : ApiCall → Pid
  | requestStartFor pid | requestEndFor pid | queryStatusFor pid => pid
  | requestStart | requestEnd | queryStatus | requestRestart => 0

/-- The operation that a call asks for. -/
def operation : ApiCall → Operation
  | requestStart | requestStartFor _ => .register
  | requestEnd | requestEndFor _ => .unregister
  | queryStatus | queryStatusFor _ => .queryStatus
  | requestRestart => .restart

/-- The calls about a game: those without a process, and those for a process other than zero. -/
def IsAboutGame : ApiCall → Prop
  | requestStart | requestEnd | queryStatus => True
  | requestStartFor pid | requestEndFor pid | queryStatusFor pid => pid ≠ 0
  | requestRestart => False

/-- The game of a call: the process given, or the caller itself. -/
def game (call : ApiCall) (caller : Pid) : Pid := if call.forPid ≠ 0 then call.forPid else caller

/-- What a call asks for: the operation, for the game, on behalf of the caller. -/
def intended (call : ApiCall) (caller : Pid) : DaemonCall :=
  ⟨call.operation, call.game caller, caller⟩

end ApiCall

/-- `sizeof(action)`. -/
def actionSize : ℕ := 256

/-- The name of the method that takes descriptors. -/
def pidfdMethod (method : CString) : CString :=
  if "ByPID".toList <:+: method then (method ++ "Fd".toList).truncate actionSize
  else (method ++ "ByPIDFd".toList).truncate actionSize

/-- The message of `make_request`, `none` when a descriptor cannot be opened. -/
def makeMessage (pidfdOpen : Pid → Option Fd) (usePidfds : Bool) (method : CString)
    (pids : List Pid) : Option Message :=
  if usePidfds then
    let fds := openPidfds pidfdOpen pids
    if fds.length ≠ pids.length then none else some ⟨pidfdMethod method, fds.map .unixFd⟩
  else some ⟨method, pids.map .int32⟩

/-- What the bus does with a message: it is lost, or it is delivered and its reply may be replaced
by an error. -/
inductive BusDelivery
  | lost
  | delivered (replyLost : Bool)
  deriving DecidableEq, Repr

/-- What comes of one round of `make_request`: the operation that the daemon called, the result,
and whether the error is set. -/
structure Attempt where
  /-- The operation that the daemon called. -/
  call : Option DaemonCall
  /-- The result. -/
  res : ℤ
  /-- Whether the error is set. -/
  error : Bool
  deriving DecidableEq, Repr

/-- The kernel as far as process descriptors are concerned, with the process that makes the
requests. -/
structure Host where
  /-- `pidfd_open`. -/
  pidfdOpen : Pid → Option Fd
  /-- The files under `/proc/self/fdinfo` of the daemon, for descriptors that it received. -/
  fdinfo : Fd → FdInfo
  /-- The process that makes the requests. -/
  caller : Pid
  /-- Only process identifiers have descriptors. -/
  mem_of_pidfdOpen : ∀ pid fd, pidfdOpen pid = some fd → 0 < pid ∧ pid ≤ pidMax
  /-- The file of a descriptor shows the process, or `-1` once the process is gone. -/
  shows_of_pidfdOpen : ∀ pid fd, pidfdOpen pid = some fd →
    (fdinfo fd).Shows pid ∨ (fdinfo fd).Shows (-1)
  /-- The caller waits for the reply, so it is not gone. -/
  shows_caller : ∀ fd, pidfdOpen caller = some fd → (fdinfo fd).Shows caller

variable (host : Host) (serve : DaemonCall → ℤ)

/-- `make_request`: `serve` gives the results of the operations. -/
def attempt (delivery : BusDelivery) (usePidfds : Bool) (method : CString) (pids : List Pid) :
    Attempt :=
  match makeMessage host.pidfdOpen usePidfds method pids, delivery with
  | none, _ | some _, .lost => ⟨none, -1, true⟩
  | some message, .delivered replyLost =>
    match handle (some host.fdinfo) message with
    | .error => ⟨none, -1, true⟩
    | .reply value => if replyLost then ⟨none, -1, true⟩ else ⟨none, value, false⟩
    | .call call => if replyLost then ⟨some call, -1, true⟩ else ⟨some call, serve call, false⟩

/-- What comes of a request: the operations that the daemon called, the result, and the flag
`use_pidfs` afterwards. -/
structure RequestRun where
  /-- The operations that the daemon called, in order. -/
  calls : List DaemonCall
  /-- The result. -/
  res : ℤ
  /-- The flag afterwards. -/
  usePidfs : Bool
  deriving DecidableEq, Repr

/-- `npids`: both processes are sent with descriptors, and whenever a game is given. -/
def npids (forPid : Pid) (usePidfs : Bool) : ℕ := if forPid ≠ 0 ∨ usePidfs then 2 else 1

/-- `gamemode_request`: `bus` says what happens to the message of either transport. -/
def gamemodeRequest (bus : Bool → BusDelivery) (usePidfs : Bool) (method : CString) (forPid : Pid) :
    RequestRun :=
  let pids := [if forPid ≠ 0 then forPid else host.caller, host.caller]
  let first := attempt host serve (bus usePidfs) usePidfs method (pids.take (npids forPid usePidfs))
  if first.res = -1 ∧ usePidfs ∧ first.error then
    let second := attempt host serve (bus false) false method (pids.take (npids forPid false))
    ⟨first.call.toList ++ second.call.toList, second.res, false⟩
  else ⟨first.call.toList, first.res, usePidfs⟩

/-- A call of the library: `real_gamemode_request_start` and its siblings. -/
def ApiCall.run (call : ApiCall) (bus : Bool → BusDelivery) (usePidfs : Bool) : RequestRun :=
  gamemodeRequest host serve bus usePidfs call.method call.forPid

/-! ### The two transports -/

/-- The file of the game's descriptor shows the game. -/
def GameLives (call : ApiCall) : Prop :=
  ∀ fd, host.pidfdOpen (call.game host.caller) = some fd →
    (host.fdinfo fd).Shows (call.game host.caller)

private theorem makeMessage_pidfd {pidfdOpen : Pid → Option Fd} {game caller : Pid} {f g : Fd}
    (hf : pidfdOpen game = some f) (hg : pidfdOpen caller = some g) (method : CString) :
    makeMessage pidfdOpen true method [game, caller] =
      some ⟨pidfdMethod method, [.unixFd f, .unixFd g]⟩ := by
  simp [makeMessage, openPidfds, hf, hg]

theorem ApiCall.IsAboutGame.ne_restart {call : ApiCall} (h : call.IsAboutGame) :
    call ≠ .requestRestart :=
  fun hrestart => (hrestart ▸ h : ApiCall.IsAboutGame .requestRestart)

private theorem handle_pidfdMethod (fdinfo : Option (Fd → FdInfo)) {call : ApiCall}
    (h : call ≠ .requestRestart) (f g : Fd) :
    handle fdinfo ⟨pidfdMethod call.method, [.unixFd f, .unixFd g]⟩ =
      handleByPidfd call.operation fdinfo [.unixFd f, .unixFd g] := by
  cases call with
  | requestRestart => exact absurd rfl h
  | _ => rfl

/-- With descriptors the daemon performs what the call asks for, or refuses a game that is gone
without performing anything. -/
theorem handle_pidfd_message {call : ApiCall} (h : call ≠ .requestRestart) {message : Message}
    (hmessage : makeMessage host.pidfdOpen true call.method [call.game host.caller, host.caller] =
      some message) :
    handle (some host.fdinfo) message = .call (call.intended host.caller) ∧ GameLives host call ∨
      handle (some host.fdinfo) message = .reply (-1) ∧ ¬GameLives host call := by
  cases hf : host.pidfdOpen (call.game host.caller) with
  | none => simp [makeMessage, openPidfds, hf] at hmessage
  | some f =>
    cases hg : host.pidfdOpen host.caller with
    | none => simp [makeMessage, openPidfds, hf, hg] at hmessage
    | some g =>
      rw [makeMessage_pidfd hf hg, Option.some_inj] at hmessage
      obtain ⟨hpos, hmax⟩ := host.mem_of_pidfdOpen _ _ hf
      obtain ⟨hpos', hmax'⟩ := host.mem_of_pidfdOpen _ _ hg
      have hcaller := pidfdToPid_of_shows (host.shows_caller g hg) hpos' hmax'
      rw [← hmessage, handle_pidfdMethod _ h]
      rcases host.shows_of_pidfdOpen _ _ hf with hshows | hgone
      · refine Or.inl ⟨handleByPidfd_of_ok (pidfdToPid_of_shows hshows hpos hmax) hcaller _, ?_⟩
        intro fd hfd
        rw [hf, Option.some_inj] at hfd
        exact hfd ▸ hshows
      · have herror := pidfdToPid_of_shows_gone hgone
        refine Or.inr ⟨handleByPidfd_of_error herror _ _, fun hlives => ?_⟩
        rw [pidfdToPid_of_shows (hlives f hf) hpos hmax] at herror
        cases herror

/-- The operation that the daemon performs for a plain message: a game that is given and the caller
change places. -/
def ApiCall.plainCall (call : ApiCall) (caller : Pid) : DaemonCall :=
  if call.forPid ≠ 0 then ⟨call.operation, caller, call.forPid⟩
  else ⟨call.operation, caller, caller⟩

private theorem handle_method_self (fdinfo : Option (Fd → FdInfo)) {call : ApiCall}
    (h : call.IsAboutGame) (hpid : call.forPid = 0) (pid : Pid) :
    handle fdinfo ⟨call.method, [.int32 pid]⟩ = .call ⟨call.operation, pid, pid⟩ := by
  cases call with
  | requestStart => rfl
  | requestEnd => rfl
  | queryStatus => rfl
  | requestRestart => exact absurd h id
  | _ => exact absurd hpid h

private theorem handle_method_byPid (fdinfo : Option (Fd → FdInfo)) {call : ApiCall}
    (hpid : call.forPid ≠ 0) (callerpid gamepid : Pid) :
    handle fdinfo ⟨call.method, [.int32 callerpid, .int32 gamepid]⟩ =
      .call ⟨call.operation, gamepid, callerpid⟩ := by
  cases call with
  | requestStartFor pid => rfl
  | requestEndFor pid => rfl
  | queryStatusFor pid => rfl
  | _ => exact absurd rfl hpid

/-- With process identifiers the daemon always performs an operation. -/
theorem handle_plain_message (fdinfo : Option (Fd → FdInfo)) {call : ApiCall}
    (h : call.IsAboutGame) (caller : Pid) :
    handle fdinfo ⟨call.method,
      ([call.game caller, caller].take (npids call.forPid false)).map .int32⟩ =
      .call (call.plainCall caller) := by
  by_cases hpid : call.forPid = 0
  · have hnpids : npids call.forPid false = 1 := by simp [npids, hpid]
    have hgame : call.game caller = caller := by simp [ApiCall.game, hpid]
    have hplain : call.plainCall caller = ⟨call.operation, caller, caller⟩ := by
      simp [ApiCall.plainCall, hpid]
    rw [hnpids, hgame, hplain]
    exact handle_method_self fdinfo h hpid caller
  · have hnpids : npids call.forPid false = 2 := if_pos (Or.inl hpid)
    have hgame : call.game caller = call.forPid := if_pos hpid
    have hplain : call.plainCall caller = ⟨call.operation, caller, call.forPid⟩ := if_pos hpid
    rw [hnpids, hgame, hplain]
    exact handle_method_byPid fdinfo hpid call.forPid caller

theorem plainCall_eq_intended_iff (call : ApiCall) (caller : Pid) :
    call.plainCall caller = call.intended caller ↔ call.forPid = 0 ∨ call.forPid = caller := by
  by_cases h : call.forPid = 0
  · simp [ApiCall.plainCall, ApiCall.intended, ApiCall.game, h]
  · simp [ApiCall.plainCall, ApiCall.intended, ApiCall.game, h, eq_comm]

/-! ### Requests -/

/-- The request with descriptors does not come through: a descriptor cannot be opened, the message
is lost, or the reply is replaced by an error. -/
def PidfdFails (call : ApiCall) (bus : Bool → BusDelivery) : Prop :=
  host.pidfdOpen (call.game host.caller) = none ∨ host.pidfdOpen host.caller = none ∨
    bus true = .lost ∨ bus true = .delivered true

instance (call : ApiCall) (bus : Bool → BusDelivery) : Decidable (PidfdFails host call bus) :=
  inferInstanceAs (Decidable (_ ∨ _ ∨ _ ∨ _))

/-- The plain message is delivered: the library falls back on it, and the bus does not lose it. -/
def PlainDelivered (call : ApiCall) (bus : Bool → BusDelivery) (usePidfs : Bool) : Prop :=
  (usePidfs → PidfdFails host call bus) ∧ bus false ≠ .lost

/-- The round of a request with descriptors. -/
def pidfdAttempt (call : ApiCall) (bus : Bool → BusDelivery) : Attempt :=
  attempt host serve (bus true) true call.method [call.game host.caller, host.caller]

/-- The round of a request with process identifiers. -/
def plainAttempt (call : ApiCall) (bus : Bool → BusDelivery) : Attempt :=
  attempt host serve (bus false) false call.method
    ([call.game host.caller, host.caller].take (npids call.forPid false))

instance (call : ApiCall) (bus : Bool → BusDelivery) (usePidfs : Bool) :
    Decidable (PlainDelivered host call bus usePidfs) :=
  inferInstanceAs (Decidable ((_ → _) ∧ _))

/-- The message with descriptors reaches the daemon: both open, and the bus does not lose it. -/
def PidfdDelivered (call : ApiCall) (bus : Bool → BusDelivery) : Prop :=
  host.pidfdOpen (call.game host.caller) ≠ none ∧ host.pidfdOpen host.caller ≠ none ∧
    bus true ≠ .lost

instance (call : ApiCall) (bus : Bool → BusDelivery) : Decidable (PidfdDelivered host call bus) :=
  inferInstanceAs (Decidable (_ ∧ _ ∧ _))

theorem pidfdFails_iff (call : ApiCall) (bus : Bool → BusDelivery) :
    PidfdFails host call bus ↔ ¬PidfdDelivered host call bus ∨ bus true = .delivered true := by
  rw [PidfdFails, PidfdDelivered]
  tauto

private theorem exists_message_iff {call : ApiCall} :
    (∃ message, makeMessage host.pidfdOpen true call.method
      [call.game host.caller, host.caller] = some message) ↔
      host.pidfdOpen (call.game host.caller) ≠ none ∧ host.pidfdOpen host.caller ≠ none := by
  cases hf : host.pidfdOpen (call.game host.caller) with
  | none => simp [makeMessage, openPidfds, hf]
  | some f =>
    cases hg : host.pidfdOpen host.caller with
    | none => simp [makeMessage, openPidfds, hf, hg]
    | some g => simp [makeMessage_pidfd hf hg]

open scoped Classical in
/-- What a round with descriptors comes to. -/
theorem pidfdAttempt_eq {call : ApiCall} (h : call ≠ .requestRestart) (bus : Bool → BusDelivery) :
    pidfdAttempt host serve call bus =
      if ¬PidfdDelivered host call bus then ⟨none, -1, true⟩
      else
        ⟨if GameLives host call then some (call.intended host.caller) else none,
          if bus true = .delivered false ∧ GameLives host call then
            serve (call.intended host.caller) else -1,
          bus true = .delivered true⟩ := by
  cases hmessage : makeMessage host.pidfdOpen true call.method
      [call.game host.caller, host.caller] with
  | none =>
    have hnot : ¬PidfdDelivered host call bus := by
      rintro ⟨hf, hg, -⟩
      obtain ⟨message, hsome⟩ := (exists_message_iff host).2 ⟨hf, hg⟩
      rw [hmessage] at hsome
      cases hsome
    simp only [if_pos hnot, pidfdAttempt, attempt, hmessage]
  | some message =>
    obtain ⟨hf, hg⟩ := (exists_message_iff host).1 ⟨message, hmessage⟩
    simp only [pidfdAttempt, attempt, hmessage]
    cases hbus : bus true with
    | lost => simp [PidfdDelivered, hbus]
    | delivered replyLost =>
      have hdelivered : PidfdDelivered host call bus := ⟨hf, hg, by simp [hbus]⟩
      rw [if_neg (not_not.2 hdelivered)]
      rcases handle_pidfd_message host h hmessage with ⟨hcall, hlives⟩ | ⟨hreply, hgone⟩
      · cases replyLost <;> simp [hcall, hlives]
      · cases replyLost <;> simp [hreply, hgone]

/-- What a round with process identifiers comes to. -/
theorem plainAttempt_eq {call : ApiCall} (h : call.IsAboutGame) (bus : Bool → BusDelivery) :
    plainAttempt host serve call bus =
      match bus false with
      | .lost => ⟨none, -1, true⟩
      | .delivered replyLost =>
        ⟨some (call.plainCall host.caller),
          if replyLost then -1 else serve (call.plainCall host.caller), replyLost⟩ := by
  have hhandle := handle_plain_message (some host.fdinfo) h host.caller
  simp only [plainAttempt, attempt, makeMessage, Bool.false_eq_true, if_false]
  cases hbus : bus false with
  | lost => rfl
  | delivered replyLost =>
    simp only [hhandle]
    cases replyLost <;> rfl

/-- Where a round with descriptors ends, and what it asked for. -/
theorem pidfdAttempt_cases {call : ApiCall} (h : call ≠ .requestRestart)
    (bus : Bool → BusDelivery) :
    let first := pidfdAttempt host serve call bus
    (PidfdFails host call bus ∧ first.error = true ∧ first.res = -1 ∨
      ¬PidfdFails host call bus ∧ first.error = false) ∧
    (∀ c, first.call = some c → c = call.intended host.caller) ∧
    (¬PidfdFails host call bus → GameLives host call → first.call ≠ none) := by
  classical
  intro first
  rw [pidfdFails_iff, show first = _ from pidfdAttempt_eq host serve h bus]
  by_cases hdelivered : PidfdDelivered host call bus
  · by_cases hlives : GameLives host call <;> by_cases hbus : bus true = .delivered true <;>
      simp [hdelivered, hlives, hbus, eq_comm]
  · simp [hdelivered]

private theorem plainAttempt_call {call : ApiCall} (h : call.IsAboutGame)
    (bus : Bool → BusDelivery) :
    (plainAttempt host serve call bus).call =
      if bus false = .lost then none else some (call.plainCall host.caller) := by
  rw [plainAttempt_eq host serve h]
  cases hbus : bus false with
  | lost => rfl
  | delivered replyLost => rfl

private theorem run_calls {call : ApiCall} (h : call.IsAboutGame) (bus : Bool → BusDelivery)
    (usePidfs : Bool) :
    (call.run host serve bus usePidfs).calls =
      (if usePidfs then (pidfdAttempt host serve call bus).call.toList else []) ++
        if usePidfs → PidfdFails host call bus then (plainAttempt host serve call bus).call.toList
        else [] := by
  cases usePidfs with
  | false => simp [ApiCall.run, gamemodeRequest, plainAttempt, ApiCall.game]
  | true =>
    have hnpids : npids call.forPid true = 2 := if_pos (Or.inr rfl)
    have hrun : call.run host serve bus true =
        let first := pidfdAttempt host serve call bus
        if first.res = -1 ∧ first.error then
          ⟨first.call.toList ++ (plainAttempt host serve call bus).call.toList,
            (plainAttempt host serve call bus).res, false⟩
        else ⟨first.call.toList, first.res, true⟩ := by
      simp only [ApiCall.run, gamemodeRequest, hnpids, true_and]
      rfl
    rw [hrun]
    rcases (pidfdAttempt_cases host serve h.ne_restart bus).1 with
      ⟨hfails, herror, hres⟩ | ⟨hnot, herror⟩
    · simp [hfails, herror, hres]
    · simp [hnot, herror]

/-- The daemon performs what a call asks for and nothing else; and it performs it when the bus
delivers the messages and the game is not gone. -/
structure MeansIntended (call : ApiCall) (bus : Bool → BusDelivery) (usePidfs : Bool) : Prop where
  eq_intended : ∀ c ∈ (call.run host serve bus usePidfs).calls, c = call.intended host.caller
  calls_ne_nil : (∀ usePidfds, bus usePidfds ≠ .lost) → GameLives host call →
    (call.run host serve bus usePidfs).calls ≠ []

/-- **The two transports.** A request means what the call asks for exactly when it gives no process,
or its own, or when the plain message is not delivered. -/
theorem meansIntended_iff {call : ApiCall} (h : call.IsAboutGame) (bus : Bool → BusDelivery)
    (usePidfs : Bool) :
    MeansIntended host serve call bus usePidfs ↔
      call.forPid = 0 ∨ call.forPid = host.caller ∨ ¬PlainDelivered host call bus usePidfs := by
  have hcalls := run_calls host serve h bus usePidfs
  rw [plainAttempt_call host serve h bus] at hcalls
  obtain ⟨-, hpidfd, hlives⟩ := pidfdAttempt_cases host serve h.ne_restart bus
  rw [← or_assoc, ← plainCall_eq_intended_iff]
  constructor
  · intro hmeans
    rw [or_iff_not_imp_right, not_not]
    rintro ⟨hfails, hbus⟩
    refine hmeans.eq_intended _ ?_
    rw [hcalls, if_pos hfails, if_neg hbus]
    exact List.mem_append_right _ (List.mem_singleton_self _)
  · intro hplain
    constructor
    · intro c hc
      rw [hcalls, List.mem_append] at hc
      rcases hc with hc | hc
      · split_ifs at hc
        · exact hpidfd c (Option.mem_toList.1 hc)
        · cases hc
      · split_ifs at hc with hfails hbus
        · cases hc
        · rw [Option.toList_some, List.mem_singleton] at hc
          rw [hc]
          exact hplain.resolve_right fun hnot => hnot ⟨hfails, hbus⟩
        · cases hc
    · intro hbus hlive
      rw [hcalls]
      by_cases hfails : usePidfs → PidfdFails host call bus
      · rw [if_pos hfails, if_neg (hbus false)]
        exact List.append_ne_nil_of_right_ne_nil _ (List.cons_ne_nil _ _)
      · obtain ⟨hflag, hnot⟩ := Classical.not_imp.1 hfails
        obtain ⟨c, hc⟩ := Option.ne_none_iff_exists'.1 (hlives hnot hlive)
        rw [if_pos hflag, hc]
        exact List.append_ne_nil_of_left_ne_nil (List.cons_ne_nil _ _) _

/-- A kernel with process descriptors on which every process lives. -/
def Host.withPidfds (caller : Pid) : Host where
  pidfdOpen pid := if 0 < pid ∧ pid ≤ pidMax then some pid.toNat else none
  fdinfo fd := .ok [("pos:".toList, "\t0\n".toList),
    ("Pid:".toList, '\t' :: (CString.decimal fd ++ ['\n']))]
  caller := caller
  mem_of_pidfdOpen pid fd h := by
    split_ifs at h with hpid
    exact hpid
  shows_of_pidfdOpen pid fd h := by
    split_ifs at h with hpid
    cases h
    refine Or.inl ⟨[("pos:".toList, "\t0\n".toList)], [], ?_, by decide⟩
    rw [Int.toNat_of_nonneg hpid.1.le]
    rfl
  shows_caller fd h := by
    split_ifs at h with hpid
    cases h
    refine ⟨[("pos:".toList, "\t0\n".toList)], [], ?_, by decide⟩
    rw [Int.toNat_of_nonneg hpid.1.le]
    rfl

/-- A kernel without process descriptors. -/
def Host.withoutPidfds (caller : Pid) : Host where
  pidfdOpen _ := none
  fdinfo _ := .error 2
  caller := caller
  mem_of_pidfdOpen _ _ := nofun
  shows_of_pidfdOpen _ _ := nofun
  shows_caller _ := nofun

/-- With descriptors, process 100 registers process 200 on its own behalf. -/
theorem meansIntended_withPidfds :
    MeansIntended (.withPidfds 100) (fun _ => 0) (.requestStartFor 200)
      (fun _ => .delivered false) true :=
  (meansIntended_iff (.withPidfds 100) (fun _ => 0)
    (show ApiCall.IsAboutGame (.requestStartFor 200) from (by decide : (200 : ℤ) ≠ 0))
    (fun _ => .delivered false) true).2 (by decide)

/-- Without descriptors, the daemon registers process 100 for process 200 instead. -/
theorem not_meansIntended_withoutPidfds :
    ¬MeansIntended (.withoutPidfds 100) (fun _ => 0) (.requestStartFor 200)
      (fun _ => .delivered false) true := by
  intro h
  have hcall := h.eq_intended ⟨.register, 100, 200⟩ (by decide)
  exact absurd hcall (by decide)

end GameMode
