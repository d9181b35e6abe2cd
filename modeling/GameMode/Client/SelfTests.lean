import GameMode.Client.CommandLine

/-!
# The self-tests of `gamemoded`

`gamemoded -t` uses the daemon as a game and as a supervisor would, and compares every result with
the one that it expects. Here are its tests that talk to the daemon from one process: that game mode
is not active at first, the basic tests, and the tests of a supervisor with a process that it has
forked.

## Main definitions

* `verifyGamemodeInitial`, `runBasicClientTests`, `runSupervisorTests`: the tests.
* `Conducted`: checks that the daemon has served and answered as expected.

## Main results

* `verifyGamemodeInitial_passed`: what the tests have seen when they start.
* `basicTests_passed`, `supervisorTests_passed`: what the daemon has done when the tests pass.

Source: `daemon/gamemode-tests.c`.
-/

namespace GameMode

/-! ### The tests -/

/-- A query whose result has to be `expected`: `verify_active_and_registered` and its siblings. -/
def verifyStatus (expected : ℤ) (usePidfds : Bool) : Asks (ℤ × Bool) :=
  (request .queryStatus usePidfds).bind fun ret =>
    .done (if ret.1 ≠ expected then -1 else 0, ret.2)

/-- `verify_active_and_registered`. -/
def verifyActiveAndRegistered : Bool → Asks (ℤ × Bool) := verifyStatus 2

/-- `verify_deactivated`. -/
def verifyDeactivated : Bool → Asks (ℤ × Bool) := verifyStatus 0

/-- The loop of `verify_gamemode_initial`: a query after each second. -/
def waitForReaper : ℕ → ℤ → Bool → Asks (ℤ × Bool)
  | 0, status, usePidfds => .done (status, usePidfds)
  | n + 1, _, usePidfds =>
    (request .queryStatus usePidfds).bind fun ret =>
      if ret.1 = 0 then .done (0, ret.2)
      else if ret.1 = -1 then .done (-1, ret.2)
      else waitForReaper n ret.1 ret.2

/-- `verify_gamemode_initial`, given the frequency of the reaper. -/
def verifyGamemodeInitial (reaper : ℤ) (usePidfds : Bool) : Asks (ℤ × Bool) :=
  (request .queryStatus usePidfds).bind fun ret =>
    if ret.1 ≠ 0 ∧ ret.1 ≠ -1 then waitForReaper reaper.toNat ret.1 ret.2
    else if ret.1 = -1 then .done (-1, ret.2)
    else .done (0, ret.2)

/-- `run_basic_client_tests`. -/
def runBasicClientTests (usePidfds : Bool) : Asks (ℤ × Bool) :=
  (request .requestStart usePidfds).bind fun start =>
    if start.1 ≠ 0 then .done (-1, start.2)
    else
      (verifyActiveAndRegistered start.2).bind fun active =>
        if active.1 ≠ 0 then .done (-1, active.2)
        else
          (request .requestEnd active.2).bind fun ending =>
            if ending.1 ≠ 0 then .done (-1, ending.2)
            else
              (verifyDeactivated ending.2).bind fun inactive =>
                .done (if inactive.1 ≠ 0 then -1 else 0, inactive.2)

/-- Requests whose results have to be as expected; all are made, also after one that is not. -/
def runChecks : List (ApiCall × ℤ) → ℤ → Bool → Asks (ℤ × Bool)
  | [], status, usePidfds => .done (status, usePidfds)
  | (call, expected) :: checks, status, usePidfds =>
    (request call usePidfds).bind fun ret =>
      runChecks checks (if ret.1 ≠ expected then -1 else status) ret.2

/-- The checks of `run_supervisor_tests` with a process `pid`. -/
def supervisorChecks (pid : Pid) : List (ApiCall × ℤ) :=
  [(.requestStartFor pid, 0), (.queryStatus, 1), (.queryStatusFor pid, 2), (.requestEndFor pid, 0),
    (.queryStatus, 0)]

/-- `run_supervisor_tests`, where `killed` says whether the process could be woken up at the end. -/
def runSupervisorTests (pid : Pid) (killed usePidfds : Bool) : Asks (ℤ × Bool) :=
  (runChecks (supervisorChecks pid) 0 usePidfds).bind fun ret =>
    .done (if killed then ret.1 else -1, ret.2)

/-! ### What a check comes to -/

section Checks

variable (files : CpuSysfs) (host : Host)

/-- The checks were served, one operation for each, and answered as expected; the others have kept
to `keeps` in between. -/
inductive Conducted (keeps : World → World → Prop) : List (ApiCall × ℤ) → Peer → Peer → Prop
  | nil {peer : Peer} : Conducted keeps [] peer peer
  | cons {call : ApiCall} {expected : ℤ} {checks : List (ApiCall × ℤ)} {peer last : Peer}
      {r : Served} (hr : r.IsFor files host call) (hkeeps : keeps peer.world r.before)
      (hexpected : r.answer.1 = expected)
      (hrest : Conducted keeps checks ⟨r.answer.2, peer.served ++ [r]⟩ last) :
      Conducted keeps ((call, expected) :: checks) peer last

variable {files host} {keeps : World → World → Prop}
  (htrans : ∀ w w' w'', keeps w w' → keeps w' w'' → keeps w w'')
include htrans

/-- A check over a bus that loses no reply: what follows it matters only if it was served and
answered as expected. -/
theorem ensures_check {R : Type} {call : ApiCall} (hrestart : call ≠ .requestRestart)
    (expected : ℤ) (hexpected : expected ≠ -1) {peer : Peer} {usePidfds : Bool}
    {next : ℤ × Bool → Asks R} {post : R → Peer → Prop}
    (hnext : ∀ ret r, ret.1 = expected → r.IsFor files host call → keeps peer.world r.before →
      r.answer.1 = expected → (next ret).Ensures (Peer.Rely keeps)
        (Peer.Serves files host (· ≠ .delivered true)) post ⟨r.answer.2, peer.served ++ [r]⟩)
    (hfail : ∀ ret after, ret.1 ≠ expected → (next ret).Ensures (Peer.Rely keeps)
      (Peer.Serves files host (· ≠ .delivered true)) post after) :
    ((request call usePidfds).bind next).Ensures (Peer.Rely keeps)
      (Peer.Serves files host (· ≠ .delivered true)) post peer := by
  rw [Dialogue.ensures_bind]
  refine (ensures_request_of_answered hrestart (not_not.2 rfl) htrans usePidfds peer).mono ?_
  rintro ret ⟨world, served⟩ (⟨hret, -⟩ | ⟨r, rfl, hret, hr, hkeeps, rfl⟩)
  · exact hfail ret _ (hret.trans_ne hexpected.symm)
  · by_cases heq : ret.1 = expected
    · exact hnext ret r heq hr hkeeps (hret ▸ heq)
    · exact hfail ret _ heq

omit htrans in
theorem ensures_runChecks_of_failed {serves : Bool × ApiCall → Peer → ℤ × Bool → Peer → Prop} :
    ∀ (checks : List (ApiCall × ℤ)) {status : ℤ}, status ≠ 0 → ∀ (usePidfds : Bool) (peer : Peer),
      (runChecks checks status usePidfds).Ensures (Peer.Rely keeps) serves
        (fun ret _ => ret.1 ≠ 0) peer
  | [], _, h, _, _ => h
  | (call, expected) :: checks, status, h, usePidfds, peer => by
    rw [runChecks, Dialogue.ensures_bind]
    refine .of_forall fun (ret : ℤ × Bool) t => ensures_runChecks_of_failed checks ?_ ret.2 t
    split_ifs
    · decide
    · exact h

/-- Checks that pass were conducted. -/
theorem ensures_runChecks :
    ∀ {checks : List (ApiCall × ℤ)}, (∀ c ∈ checks, c.1 ≠ .requestRestart ∧ c.2 ≠ -1) →
      ∀ (usePidfds : Bool) (peer : Peer),
        (runChecks checks 0 usePidfds).Ensures (Peer.Rely keeps)
          (Peer.Serves files host (· ≠ .delivered true))
          (fun ret after => ret.1 = 0 → Conducted files host keeps checks peer after) peer
  | [], _, _, _ => fun _ => .nil
  | (call, expected) :: checks, h, usePidfds, peer => by
    obtain ⟨⟨hrestart, hexpected⟩, hchecks⟩ := List.forall_mem_cons.1 h
    rw [runChecks]
    refine ensures_check htrans hrestart expected hexpected ?_ ?_
    · intro ret r hret hr hkeeps hanswer
      rw [if_neg (not_not.2 hret)]
      refine (ensures_runChecks hchecks ret.2 _).mono fun ret after hpassed hzero => ?_
      exact .cons hr hkeeps hanswer (hpassed hzero)
    · intro ret after hret
      rw [if_pos hret]
      refine (ensures_runChecks_of_failed checks (by decide) ret.2 after).mono ?_
      exact fun ret after hfailed hzero => absurd hzero hfailed

/-- The checks of `run_basic_client_tests`. -/
def basicChecks : List (ApiCall × ℤ) :=
  [(.requestStart, 0), (.queryStatus, 2), (.requestEnd, 0), (.queryStatus, 0)]

theorem ensures_runBasicClientTests (usePidfds : Bool) (peer : Peer) :
    (runBasicClientTests usePidfds).Ensures (Peer.Rely keeps)
      (Peer.Serves files host (· ≠ .delivered true))
      (fun ret after => ret.1 = 0 → Conducted files host keeps basicChecks peer after) peer := by
  have hfailed : ∀ (usePidfds : Bool) (after : Peer), (Dialogue.done (-1, usePidfds) :
      Asks (ℤ × Bool)).Ensures (Peer.Rely keeps) (Peer.Serves files host (· ≠ .delivered true))
      (fun ret last => ret.1 = 0 → Conducted files host keeps basicChecks peer last) after :=
    fun _ _ hzero => absurd (show (-1 : ℤ) = 0 from hzero) (by decide)
  simp only [runBasicClientTests, verifyActiveAndRegistered, verifyDeactivated, verifyStatus,
    Dialogue.bind_assoc]
  refine ensures_check htrans (by simp) 0 (by decide) ?_ fun ret after hret => ?_
  · intro start r₁ hret hr₁ hkeeps₁ hanswer₁
    rw [if_neg (not_not.2 hret)]
    refine ensures_check htrans (by simp) 2 (by decide) ?_ fun ret after hret => ?_
    · intro active r₂ hret hr₂ hkeeps₂ hanswer₂
      simp only [Dialogue.bind, hret, ne_eq, not_true_eq_false, if_false]
      refine ensures_check htrans (by simp) 0 (by decide) ?_ fun ret after hret => ?_
      · intro ending r₃ hret hr₃ hkeeps₃ hanswer₃
        rw [if_neg (not_not.2 hret)]
        refine ensures_check htrans (by simp) 0 (by decide) ?_ fun ret after hret => ?_
        · intro inactive r₄ hret hr₄ hkeeps₄ hanswer₄ _
          exact .cons hr₁ hkeeps₁ hanswer₁ (.cons hr₂ hkeeps₂ hanswer₂
            (.cons hr₃ hkeeps₃ hanswer₃ (.cons hr₄ hkeeps₄ hanswer₄ .nil)))
        · simp only [hret, ne_eq, not_false_eq_true, if_true]
          exact hfailed _ _
      · rw [if_pos hret]
        exact hfailed _ _
    · simp only [Dialogue.bind, hret, ne_eq, not_false_eq_true, if_true]
      exact hfailed _ _
  · rw [if_pos hret]
    exact hfailed _ _

end Checks

/-! ### Tests that pass -/

section Passed

variable {files : CpuSysfs} {host : Host} {call : ApiCall} {r : Served}

/-- A query does not change the context, and it is answered with 2 for registered processes only. -/
theorem Served.IsFor.query (hr : r.IsFor files host call) (hquery : call.operation = .queryStatus) :
    r.answer.2 = r.before ∧ (r.answer.1 = 2 → r.before.IsRegistered r.call.client) := by
  obtain ⟨env, hanswer⟩ := hr.answer
  rw [serveCall, hr.operation, hquery] at hanswer
  rw [hanswer]
  refine ⟨rfl, fun htwo => ?_⟩
  by_contra hnot
  rw [← contextHasClient_iff, Bool.not_eq_true] at hnot
  have herr : ∀ executable, checkSupervisor r.before.config executable ≠ 2 := by
    intro executable
    cases executable with
    | none => exact (by decide : (-1 : ℤ) ≠ 2)
    | some executable =>
      simp only [checkSupervisor]
      split_ifs <;> decide
  simp only [contextQueryStatus, hnot, Bool.false_eq_true, if_false] at htwo
  split_ifs at htwo
  · exact herr _ htwo
  · cases htwo
  · cases htwo
  · exact absurd rfl ‹_›
  · cases htwo
  · cases htwo

theorem Served.IsFor.query_own (hr : r.IsFor files host .queryStatus)
    (hconsistent : r.before.Consistent) (hregistered : r.before.IsRegistered host.caller) :
    r.answer.1 = 2 := by
  obtain ⟨env, hanswer⟩ := hr.answer
  rw [hr.call_own rfl] at hanswer
  have hrefcount : r.before.refcount ≠ 0 := by
    obtain ⟨cl, hcl, -⟩ := hregistered
    have hpos := List.length_pos_of_mem hcl
    have hcount := hconsistent.refcount
    omega
  rw [hanswer, serveCall]
  simp [ApiCall.operation, contextQueryStatus, hrefcount, (contextHasClient_iff _ _).2 hregistered]

theorem Served.IsFor.register (hr : r.IsFor files host call) (hop : call.operation = .register)
    (hzero : r.answer.1 = 0) : r.answer.2.IsRegistered r.call.client := by
  obtain ⟨env, hanswer⟩ := hr.answer
  rw [serveCall, hr.operation, hop] at hanswer
  rw [hanswer] at hzero ⊢
  obtain ⟨cl, hpid, hclients, -⟩ := (contextRegister_exact files _ _ _ _).effect hzero
  exact ⟨cl, hclients ▸ List.mem_cons_self, hpid⟩

theorem Served.IsFor.unregister (hr : r.IsFor files host call) (hop : call.operation = .unregister)
    (hzero : r.answer.1 = 0) : r.before.IsRegistered r.call.client := by
  obtain ⟨env, hanswer⟩ := hr.answer
  rw [serveCall, hr.operation, hop] at hanswer
  rw [hanswer] at hzero
  exact ((contextUnregister_exact _ _ _ _).zero_iff.1 hzero).2

theorem Served.IsFor.call_eq_of_client_ne (hr : r.IsFor files host call)
    (hclient : r.call.client ≠ host.caller) :
    r.call = ⟨call.operation, call.forPid, host.caller⟩ := by
  have hcall := hr.call_eq
  rw [ApiCall.sent, ApiCall.intended, ApiCall.game, ApiCall.plainCall] at hcall
  rw [hcall] at hclient ⊢
  split_ifs at hclient ⊢ with hflag hpid hpid
  · rfl
  · exact absurd rfl hclient
  · exact absurd rfl hclient
  · exact absurd rfl hclient

theorem Served.IsFor.refcount_of_query_own (hr : r.IsFor files host .queryStatus)
    (hzero : r.answer.1 = 0) : r.before.refcount = 0 := by
  obtain ⟨env, hanswer⟩ := hr.answer
  rw [hr.call_own rfl] at hanswer
  by_contra hrefcount
  rw [hanswer, serveCall] at hzero
  simp only [ApiCall.operation, contextQueryStatus, ne_eq, not_true_eq_false, if_false, hrefcount,
    not_false_eq_true, if_true] at hzero
  split_ifs at hzero <;> cases hzero

theorem Served.IsFor.consistent (hr : r.IsFor files host call) (h : r.before.Consistent) :
    r.answer.2.Consistent := by
  obtain ⟨env, hanswer⟩ := hr.answer
  rw [hanswer, serveCall]
  cases r.call.operation with
  | register => exact h.contextStep files (a := (.register _ _, env)) rfl
  | unregister => exact h.contextStep files (a := (.unregister _ _, env)) rfl
  | queryStatus => exact h
  | restart => exact h.contextStep files (a := (.restart _, env)) rfl

/-- Nobody is registered when the daemon is asked last. -/
def QuietLast (served : List Served) : Prop :=
  ∃ earlier r, served = earlier ++ [r] ∧ r.before.refcount = 0

section Initial

variable {keeps : World → World → Prop} {allowed : BusDelivery → Prop}

theorem ensures_query (usePidfds : Bool) (peer : Peer) :
    (request .queryStatus usePidfds).Ensures (Peer.Rely keeps) (Peer.Serves files host allowed)
      (fun ret after => ret.1 = 0 → QuietLast after.served) peer := by
  refine (ensures_request (by simp) usePidfds peer).mono ?_
  rintro ret after ⟨rounds, hserved, hrounds, hlast⟩ hzero
  obtain ⟨earlier, r, rfl, rfl, -⟩ := hlast (by omega)
  refine ⟨peer.served ++ earlier, r, by rw [hserved, List.append_assoc], ?_⟩
  exact (hrounds r (by simp)).refcount_of_query_own hzero

theorem ensures_waitForReaper : ∀ (n : ℕ) {status : ℤ} (usePidfds : Bool) (peer : Peer),
    status ≠ 0 → (waitForReaper n status usePidfds).Ensures (Peer.Rely keeps)
      (Peer.Serves files host allowed) (fun ret after => ret.1 = 0 → QuietLast after.served) peer
  | 0, _, _, _, hstatus => fun hzero => absurd hzero hstatus
  | n + 1, _, usePidfds, peer, _ => by
    rw [waitForReaper, Dialogue.ensures_bind]
    refine (ensures_query usePidfds peer).mono fun ret after hquiet => ?_
    split_ifs with hret hfail
    · exact fun _ => hquiet hret
    · exact fun hzero => absurd (show (-1 : ℤ) = 0 from hzero) (by decide)
    · exact ensures_waitForReaper n ret.2 after hret

/-- Whatever the others and the bus do, the tests start only if nobody is registered when the daemon
is asked last. -/
theorem ensures_verifyGamemodeInitial (reaper : ℤ) (usePidfds : Bool) (peer : Peer) :
    (verifyGamemodeInitial reaper usePidfds).Ensures (Peer.Rely keeps)
      (Peer.Serves files host allowed)
      (fun ret after => ret.1 = 0 → QuietLast after.served) peer := by
  rw [verifyGamemodeInitial, Dialogue.ensures_bind]
  refine (ensures_query usePidfds peer).mono fun ret after hquiet => ?_
  split_ifs with hactive hfail
  · exact ensures_waitForReaper reaper.toNat ret.2 after hactive.1
  · exact fun hzero => absurd (show (-1 : ℤ) = 0 from hzero) (by decide)
  · have hret : ret.1 = 0 := by
      by_contra hne
      exact hactive ⟨hne, hfail⟩
    exact fun _ => hquiet hret

end Initial

variable {pid : Pid} {killed usePidfds flag : Bool} {w : World} {as : List ToolLabel}
  {s : ToolState (ℤ × Bool)}

/-- **The start of the tests.** Whatever others and the bus do, and however often the tests had to
ask again, they start only if nobody was registered when they asked last. -/
theorem verifyGamemodeInitial_passed {reaper : ℤ}
    (hexec : Runs.exec (toolStep files host)
      (.start (verifyGamemodeInitial reaper usePidfds) w) as = some s)
    (hdone : s.program = .done (0, flag)) : QuietLast s.server.served := by
  have hensures : (verifyGamemodeInitial reaper usePidfds).Ensures (Peer.Rely fun _ _ => True)
      (Peer.Serves files host fun _ => True)
      (fun ret after => ret.1 = 0 → QuietLast after.served) ⟨w, []⟩ :=
    ensures_verifyGamemodeInitial reaper usePidfds _
  obtain ⟨peer, ⟨hserved, -⟩, hquiet⟩ := post_of_exec (G := fun _ _ => True) (fun _ => trivial)
    (fun _ _ _ _ _ => trivial) (fun _ _ _ _ _ => trivial) (fun _ _ _ => trivial) hensures
    (Runs.StepsAlong.of_forall_mem fun _ _ _ => trivial) hexec hdone
  rw [hserved]
  exact hquiet rfl

private def testedDaemon : World :=
  contextInit .unreadable ∅ Config.initial (.plain "powersave".toList "balanced".toList ∅ [])

private def testRound : ToolLabel := .round (.succeeding Config.initial, .delivered false)

/-- A game is registered when the tests ask for the first time, and is gone when they ask again. -/
theorem verifyGamemodeInitial_of_game :
    ∃ s, Runs.exec (toolStep .unreadable (.withPidfds 100))
        (.start (verifyGamemodeInitial 5 true) testedDaemon)
        [.other (.register 300 300, .succeeding Config.initial), testRound,
          .other (.unregister 300 300, .succeeding Config.initial), testRound] = some s ∧
      s.server.served.length = 2 ∧ QuietLast s.server.served := by
  refine ⟨_, rfl, rfl, ?_⟩
  exact @verifyGamemodeInitial_passed .unreadable (.withPidfds 100) true true testedDaemon
    [.other (.register 300 300, .succeeding Config.initial), testRound,
      .other (.unregister 300 300, .succeeding Config.initial), testRound] _ 5 rfl rfl

/-- **The basic tests.** Over a bus that loses no reply, and whatever others do, the daemon has
registered and unregistered the tool when the basic tests pass, and nobody was registered when it
was asked last. -/
theorem basicTests_passed (hanswers : ∀ env, .round (env, .delivered true) ∉ as)
    (hexec : Runs.exec (toolStep files host) (.start (runBasicClientTests usePidfds) w) as = some s)
    (hdone : s.program = .done (0, flag)) :
    ∃ r₁ r₂ r₃ r₄, s.server.served = [r₁, r₂, r₃, r₄] ∧
      r₁.Changes ∧ r₁.call = ⟨.register, host.caller, host.caller⟩ ∧
        r₃.Changes ∧ r₃.call = ⟨.unregister, host.caller, host.caller⟩ ∧
          r₄.before.refcount = 0 := by
  obtain ⟨peer, hserved, hpassed⟩ := post_of_answered hanswers
    (ensures_runBasicClientTests (fun _ _ _ _ _ => trivial) usePidfds _) hexec hdone
  rw [hserved]
  cases hpassed rfl with
  | @cons _ _ _ _ _ r₁ hr₁ _ hanswer₁ hrest =>
  cases hrest with
  | @cons _ _ _ _ _ r₂ _ _ _ hrest =>
  cases hrest with
  | @cons _ _ _ _ _ r₃ hr₃ _ hanswer₃ hrest =>
  cases hrest with
  | @cons _ _ _ _ _ r₄ hr₄ _ hanswer₄ hrest =>
  cases hrest
  refine ⟨r₁, r₂, r₃, r₄, rfl, ?_, hr₁.call_own rfl, ?_, hr₃.call_own rfl,
    hr₄.refcount_of_query_own hanswer₄⟩
  · exact (hr₁.changes_iff (Or.inl rfl)).2 hanswer₁.ge
  · exact (hr₃.changes_iff (Or.inr rfl)).2 hanswer₃.ge

private theorem answers_testRounds (n : ℕ) (env : Env) :
    .round (env, .delivered true) ∉ List.replicate n testRound := by
  intro hmem
  cases List.eq_of_mem_replicate hmem

/-- The basic tests pass with process 100. -/
theorem basicTests_of_quiet :
    ∃ s, Runs.exec (toolStep .unreadable (.withPidfds 100))
        (.start (runBasicClientTests true) testedDaemon) (List.replicate 4 testRound) = some s ∧
      s.server.served.length = 4 := by
  refine ⟨_, rfl, ?_⟩
  obtain ⟨r₁, r₂, r₃, r₄, hserved, -⟩ := @basicTests_passed .unreadable (.withPidfds 100) true true
    testedDaemon (List.replicate 4 testRound) _ (answers_testRounds 4) rfl rfl
  exact congrArg List.length hserved

/-- **The supervisor tests.** Let nobody else act for the tool, and the bus lose no reply. The
supervisor tests pass only if every operation was performed for the process that it was meant for.
-/
theorem supervisorTests_passed (hconsistent : w.Consistent)
    (hspares : ∀ b, .other b ∈ as → ContextOp.Spares host.caller b)
    (hanswers : ∀ env, .round (env, .delivered true) ∉ as)
    (hexec : Runs.exec (toolStep files host)
      (.start (runSupervisorTests pid killed usePidfds) w) as = some s)
    (hdone : s.program = .done (0, flag)) :
    s.server.served.map Served.call =
      [⟨.register, pid, host.caller⟩, ⟨.queryStatus, host.caller, host.caller⟩,
        ⟨.queryStatus, pid, host.caller⟩, ⟨.unregister, pid, host.caller⟩,
        ⟨.queryStatus, host.caller, host.caller⟩] := by
  have hchecks : ∀ c ∈ supervisorChecks pid, c.1 ≠ .requestRestart ∧ c.2 ≠ -1 := by
    simp [supervisorChecks]
  have hensures : (runSupervisorTests pid killed usePidfds).Ensures
      (Peer.Rely (KeepsRegistration host.caller)) (Peer.Serves files host (· ≠ .delivered true))
      (fun ret after => ret.1 = 0 → Conducted files host (KeepsRegistration host.caller)
        (supervisorChecks pid) ⟨w, []⟩ after) ⟨w, []⟩ := by
    rw [runSupervisorTests, Dialogue.ensures_bind]
    refine (ensures_runChecks (keepsRegistration_trans host.caller) hchecks usePidfds _).mono ?_
    intro ret after hpassed hzero
    cases killed with
    | true => exact hpassed hzero
    | false => exact absurd (show (-1 : ℤ) = 0 from hzero) (by decide)
  obtain ⟨peer, ⟨hserved, -⟩, hpassed⟩ := post_of_spared hspares hanswers hensures hexec hdone
  rw [hserved]
  cases hpassed rfl with
  | @cons _ _ _ _ _ r₁ hr₁ hkeeps₁ hanswer₁ hrest =>
  cases hrest with
  | @cons _ _ _ _ _ r₂ hr₂ hkeeps₂ hanswer₂ hrest =>
  cases hrest with
  | @cons _ _ _ _ _ r₃ hr₃ hkeeps₃ hanswer₃ hrest =>
  cases hrest with
  | @cons _ _ _ _ _ r₄ hr₄ hkeeps₄ hanswer₄ hrest =>
  cases hrest with
  | @cons _ _ _ _ _ r₅ hr₅ _ _ hrest =>
  cases hrest
  obtain ⟨hbefore₁, -⟩ := hkeeps₁ hconsistent
  obtain ⟨hbefore₂, hsame₂⟩ := hkeeps₂ (hr₁.consistent hbefore₁)
  -- the tool is not registered, or its query would have said so
  have hnot₂ : ¬r₂.before.IsRegistered host.caller := fun hregistered => by
    rw [hr₂.query_own hbefore₂ hregistered] at hanswer₂
    cases hanswer₂
  have hclient₁ : r₁.call.client ≠ host.caller := fun hclient =>
    hnot₂ (hsame₂.2 (hclient ▸ hr₁.register rfl hanswer₁))
  obtain ⟨hbefore₃, hsame₃⟩ := hkeeps₃ (hr₂.consistent hbefore₂)
  rw [(hr₂.query rfl).1] at hsame₃
  have hnot₃ : ¬r₃.before.IsRegistered host.caller := mt hsame₃.1 hnot₂
  have hclient₃ : r₃.call.client ≠ host.caller := fun hclient =>
    hnot₃ (hclient ▸ (hr₃.query rfl).2 hanswer₃)
  obtain ⟨-, hsame₄⟩ := hkeeps₄ (hr₃.consistent hbefore₃)
  rw [(hr₃.query rfl).1] at hsame₄
  have hclient₄ : r₄.call.client ≠ host.caller := fun hclient =>
    hnot₃ (hsame₄.1 (hclient ▸ hr₄.unregister rfl hanswer₄))
  simp [hr₁.call_eq_of_client_ne hclient₁, hr₂.call_own rfl, hr₃.call_eq_of_client_ne hclient₃,
    hr₄.call_eq_of_client_ne hclient₄, hr₅.call_own rfl, ApiCall.operation, ApiCall.forPid]

/-- The supervisor tests pass with process 100 and its child 200. -/
theorem supervisorTests_of_quiet :
    ∃ s, Runs.exec (toolStep .unreadable (.withPidfds 100))
        (.start (runSupervisorTests 200 true true) testedDaemon) (List.replicate 5 testRound) =
          some s ∧
      s.server.served.map Served.call =
        [⟨.register, 200, 100⟩, ⟨.queryStatus, 100, 100⟩, ⟨.queryStatus, 200, 100⟩,
          ⟨.unregister, 200, 100⟩, ⟨.queryStatus, 100, 100⟩] := by
  refine ⟨_, rfl, ?_⟩
  refine @supervisorTests_passed .unreadable (.withPidfds 100) 200 true true true testedDaemon
    (List.replicate 5 testRound) _ (consistent_contextInit _ _ _ _) ?_ (answers_testRounds 5) rfl
    rfl
  intro b hb
  cases List.eq_of_mem_replicate hb

end Passed

end GameMode
