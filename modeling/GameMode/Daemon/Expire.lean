import GameMode.Daemon.Signals

/-!
# The sweep of the reaper

A pass of the sweep looks for the first client that `kill(pid, 0)` fails for, removes it, and starts
again; the sweep ends with a pass that finds none. The removal is a request of the client itself,
and its result is not looked at: where a supervisor is required it is refused, and the next pass
finds the same client. And `kill` fails also for a process that runs under other credentials.

A pass is described by what it asks of the system, so a sweep is given a list of these, one for each
pass, and has no result when they do not suffice.

## Main definitions

* `contextAutoExpire`: the sweep.
* `SweepEnds`: the sweep ends and leaves no dead client.
* `KillResult`, `SweptExactly`: the outcomes of the probe, and a sweep that removes the processes
  that do not exist.

## Main results

* `round_of_deadClient`: what a pass does.
* `exists_swept`: what a sweep does.
* `sweepEnds_iff`: when the sweep ends.
* `sweptExactly_iff`: when it removes the right clients.

Source: `daemon/gamemode-context.c`, `game_mode_context_auto_expire` and
`game_mode_context_unregister`.
-/

namespace GameMode

/-- `game_mode_context_auto_expire`, with what each pass asks of the system. -/
def contextAutoExpire : List Env → World → Option World
  | [], _ => none
  | env :: envs, w =>
    match deadClient env w with
    | none => some w
    | some _ => contextAutoExpire envs (contextAutoExpireRound env w)

variable {alive : Pid → Bool} {env : Env} {envs : List Env} {w w' : World}

/-! ### A pass -/

theorem deadClient_eq_some_iff (halive : env.alive = alive) {cl : Client} :
    deadClient env w = some cl ↔ alive cl.pid = false ∧
      ∃ before after, w.clients = before ++ cl :: after ∧ ∀ cl' ∈ before, alive cl'.pid = true := by
  simp [deadClient, halive, List.find?_eq_some_iff_append]

theorem deadClient_eq_none_iff (halive : env.alive = alive) :
    deadClient env w = none ↔ ∀ cl ∈ w.clients, alive cl.pid = true := by
  simp [deadClient, halive]

/-- A pass that finds a dead client removes it, where no supervisor is required. -/
theorem round_of_deadClient (hrequire : w.config.getRequireSupervisor = 0) {cl : Client}
    (hdead : deadClient env w = some cl) :
    ∃ w', removeClient env cl.pid w = some w' ∧
      contextAutoExpireRound env w = w'.say (.signal false cl.pid) := by
  have hregistered : w.IsRegistered cl.pid := ⟨cl, List.mem_of_find?_eq_some hdead, rfl⟩
  obtain ⟨w', hremove⟩ := Option.isSome_iff_exists.1
    ((removeClient_isSome_iff env cl.pid w).2 hregistered)
  refine ⟨w', hremove, ?_⟩
  simp [contextAutoExpireRound, hdead, contextUnregister, checkRequester, hrequire, hremove]

theorem round_of_requireSupervisor (hrequire : w.config.getRequireSupervisor ≠ 0) :
    contextAutoExpireRound env w = w := by
  rw [contextAutoExpireRound]
  split
  · rfl
  · simp [contextUnregister, checkRequester, hrequire]

theorem removeClient_config {client : Pid} (h : removeClient env client w = some w') :
    w'.config = w.config := by
  rw [removeClient] at h
  split_ifs at h <;> cases h <;> rfl

/-! ### The sweep -/

/-- The clients that are not alive are removed: the others stay in their order, the count goes down
by one for each, the signals are sent in the order of the list, and game mode is left when the last
client is removed. -/
structure Swept (alive : Pid → Bool) (w w' : World) : Prop where
  clients : w'.clients = w.clients.filter fun cl => alive cl.pid
  refcount : w'.refcount = w.refcount - (w.clients.filter fun cl => !alive cl.pid).length
  signals : w'.signals = w.signals ++
    (w.clients.filter fun cl => !alive cl.pid).map fun cl => (false, cl.pid)
  turns : w.refcount = w.clients.length →
    w'.turns = w.turns ++ if w.clients ≠ [] ∧ w'.clients = [] then [false] else []

theorem Swept.of_forall (h : ∀ cl ∈ w.clients, alive cl.pid = true) : Swept alive w w := by
  have halive : (w.clients.filter fun cl => alive cl.pid) = w.clients := List.filter_eq_self.2 h
  have hdead : (w.clients.filter fun cl => !alive cl.pid) = [] := by simpa using h
  refine ⟨halive.symm, by simp [hdead], by simp [hdead], fun _ => ?_⟩
  rw [if_neg fun hempty => hempty.1 hempty.2, List.append_nil]

section Round

variable {cl : Client} {before after : List Client} {removed : World}
  (hdead : alive cl.pid = false) (hclients : w.clients = before ++ cl :: after)
  (hbefore : ∀ cl' ∈ before, alive cl'.pid = true)
  (hremove : removeClient env cl.pid w = some removed)

include hdead hclients hbefore hremove

theorem clients_of_removed : removed.clients = before ++ after := by
  rw [(removeClient_clients hremove).1, hclients, List.eraseP_append_right,
    List.eraseP_cons_of_pos (by simp)]
  intro cl' hcl' hpid
  rw [decide_eq_true_eq] at hpid
  rw [← hpid, hbefore cl' hcl'] at hdead
  cases hdead

theorem filter_of_removed :
    (w.clients.filter fun cl => alive cl.pid) =
        (removed.clients.filter fun cl => alive cl.pid) ∧
      (w.clients.filter fun cl => !alive cl.pid) =
        cl :: removed.clients.filter fun cl => !alive cl.pid := by
  have hremoved := clients_of_removed hdead hclients hbefore hremove
  have hnone : (before.filter fun cl => !alive cl.pid) = [] := by simpa using hbefore
  exact ⟨by simp [hclients, hremoved, hdead], by simp [hclients, hremoved, hdead, hnone]⟩

/-- A pass that removes a client, and a sweep after it. -/
theorem Swept.round (h : Swept alive (removed.say (.signal false cl.pid)) w') :
    Swept alive w w' := by
  have hcount := (removeClient_clients hremove).2
  have hremoved := clients_of_removed hdead hclients hbefore hremove
  obtain ⟨hfilter, hdeadFilter⟩ := filter_of_removed hdead hclients hbefore hremove
  refine ⟨h.clients.trans hfilter.symm, ?_, ?_, fun hrefcount => ?_⟩
  · rw [h.refcount, hdeadFilter]
    simp only [World.say, hcount, List.length_cons]
    omega
  · rw [h.signals, hdeadFilter, signals_say_signal, signals_removeClient hremove]
    simp [World.say]
  · have hlength : w.clients.length = removed.clients.length + 1 := by
      rw [hclients, hremoved, List.length_append, List.length_append, List.length_cons]
      omega
    have hturns := h.turns (by simp only [World.say]; omega)
    have hne : w.clients ≠ [] := by simp [hclients]
    have hsay : (removed.say (.signal false cl.pid)).clients = removed.clients := rfl
    rw [hturns, turns_say _ rfl, turns_removeClient hremove, hsay]
    by_cases hlast : removed.clients = []
    · have hone : w.refcount = 1 := by simp [hrefcount, hlength, hlast]
      have hempty : w'.clients = [] := by rw [h.clients, hsay, hlast, List.filter_nil]
      rw [if_pos hone, if_neg fun hboth => hboth.1 hlast, if_pos ⟨hne, hempty⟩, List.append_nil]
    · have hpos : removed.clients.length ≠ 0 := mt List.length_eq_zero_iff.1 hlast
      have hmore : w.refcount ≠ 1 := by omega
      simp only [if_neg hmore, List.append_nil, ne_eq, hlast, hne, not_false_eq_true, true_and]

end Round

/-- **The sweep.** Where no supervisor is required, one pass for each dead client and one more
suffice. -/
theorem exists_swept : ∀ {envs : List Env} {w : World}, w.config.getRequireSupervisor = 0 →
    (∀ env ∈ envs, env.alive = alive) →
    (w.clients.filter fun cl => !alive cl.pid).length < envs.length →
    ∃ w', contextAutoExpire envs w = some w' ∧ Swept alive w w'
  | [], w, _, _, hlength => absurd hlength (Nat.not_lt_zero _)
  | env :: envs, w, hrequire, halive, hlength => by
    obtain ⟨halive, henvs⟩ := List.forall_mem_cons.1 halive
    rw [contextAutoExpire]
    cases hfound : deadClient env w with
    | none => exact ⟨w, rfl, .of_forall ((deadClient_eq_none_iff halive).1 hfound)⟩
    | some cl =>
      obtain ⟨hdead, before, after, hclients, hbefore⟩ := (deadClient_eq_some_iff halive).1 hfound
      obtain ⟨removed, hremove, hround⟩ := round_of_deadClient hrequire hfound
      have hfilter := filter_of_removed hdead hclients hbefore hremove
      obtain ⟨w', hsweep, hswept⟩ := @exists_swept envs (removed.say (.signal false cl.pid))
        (by rwa [World.say, removeClient_config hremove]) henvs
        (by rw [hfilter.2, List.length_cons, List.length_cons] at hlength
            exact Nat.lt_of_succ_lt_succ hlength)
      exact ⟨w', hround ▸ hsweep, hswept.round hdead hclients hbefore hremove⟩

/-! ### When the sweep ends -/

/-- The sweep ends within the passes given, and no client that is left is dead. -/
def SweepEnds (alive : Pid → Bool) (envs : List Env) (w : World) : Prop :=
  ∃ w', contextAutoExpire envs w = some w' ∧ ∀ cl ∈ w'.clients, alive cl.pid = true

/-- Where a supervisor is required, a sweep that finds a dead client never ends. -/
theorem contextAutoExpire_eq_none (hrequire : w.config.getRequireSupervisor ≠ 0)
    {cl : Client} (hcl : cl ∈ w.clients) (hdead : alive cl.pid = false)
    (halive : ∀ env ∈ envs, env.alive = alive) : contextAutoExpire envs w = none := by
  induction envs with
  | nil => rfl
  | cons env envs ih =>
    obtain ⟨halive, henvs⟩ := List.forall_mem_cons.1 halive
    rw [contextAutoExpire]
    cases hfound : deadClient env w with
    | none =>
      rw [(deadClient_eq_none_iff halive).1 hfound cl hcl] at hdead
      cases hdead
    | some _ =>
      simp only [round_of_requireSupervisor hrequire]
      exact ih henvs

/-- **Termination.** For any clients, with one pass for each dead client and at least one more, the
sweep ends and leaves no dead client exactly when no supervisor is required or no client is dead. -/
theorem sweepEnds_iff (halive : ∀ env ∈ envs, env.alive = alive)
    (hlength : (w.clients.filter fun cl => !alive cl.pid).length < envs.length) :
    SweepEnds alive envs w ↔
      w.config.getRequireSupervisor = 0 ∨ ∀ cl ∈ w.clients, alive cl.pid = true := by
  constructor
  · rintro ⟨w', hsweep, -⟩
    by_contra hnot
    simp only [not_or, not_forall, Bool.not_eq_true] at hnot
    obtain ⟨hrequire, cl, hcl, hdead⟩ := hnot
    rw [contextAutoExpire_eq_none hrequire hcl hdead halive] at hsweep
    cases hsweep
  · rintro (hrequire | hforall)
    · obtain ⟨w', hsweep, hswept⟩ := exists_swept hrequire halive hlength
      refine ⟨w', hsweep, fun cl hcl => ?_⟩
      rw [hswept.clients, List.mem_filter] at hcl
      exact hcl.2
    · cases envs with
      | nil => exact absurd hlength (Nat.not_lt_zero _)
      | cons env envs =>
        have hnone := (deadClient_eq_none_iff (halive env List.mem_cons_self)).2 hforall
        exact ⟨w, by rw [contextAutoExpire, hnone], hforall⟩

private def worldWithGames (config : Config) (games : List Pid) : World :=
  games.foldl (fun w game => (contextRegister .unreadable (.succeeding config) game 1 w).2)
    (contextInit .unreadable ∅ config (.plain "powersave".toList "balanced".toList ∅ []))

private def passWithAlive (config : Config) (games : List Pid) : Env :=
  { Env.succeeding config with alive := fun pid => pid ∈ games }

/-- Of three games one is dead, and two passes suffice. -/
theorem sweepEnds_of_one_dead :
    SweepEnds (fun pid => pid ∈ [5, 7])
      (List.replicate 2 (passWithAlive Config.initial [5, 7]))
      (worldWithGames Config.initial [5, 6, 7]) :=
  (sweepEnds_iff (fun env henv => List.eq_of_mem_replicate henv ▸ rfl) (by decide)).2
    (Or.inl rfl)

private def configWithSupervisor : Config :=
  { Config.initial with
    long := fun option => if option = .requireSupervisor then 1 else Config.initial.long option }

/-- A game that a supervisor has registered dies where a supervisor is required: the sweep ends in
no number of passes. -/
theorem not_sweepEnds_of_requireSupervisor :
    (worldWithGames configWithSupervisor [5]).pids = [5] ∧
      ∀ n, ¬SweepEnds (fun pid => pid ∈ ([] : List Pid))
        (List.replicate n (passWithAlive configWithSupervisor []))
        (worldWithGames configWithSupervisor [5]) := by
  refine ⟨rfl, ?_⟩
  rintro n ⟨w', hsweep, -⟩
  have halive : ∀ env ∈ List.replicate n (passWithAlive configWithSupervisor []),
      env.alive = fun pid => decide (pid ∈ ([] : List Pid)) :=
    fun env henv => List.eq_of_mem_replicate henv ▸ rfl
  rw [contextAutoExpire_eq_none (by decide) List.mem_cons_self rfl halive] at hsweep
  cases hsweep

/-! ### Which clients are removed -/

/-- What `kill(pid, 0)` comes to: success, `ESRCH`, or `EPERM`. -/
inductive KillResult
  | success | esrch | eperm
  deriving DecidableEq

/-- The sweep ends, and it removes exactly the clients that do not exist. The others stay in their
order, the count goes down by one for each client that is removed, one `GameUnregistered` is sent
for each, and game mode is left once if the last client is removed, and not otherwise. -/
def SweptExactly (probe : Pid → KillResult) (envs : List Env) (w : World) : Prop :=
  ∃ w', contextAutoExpire envs w = some w' ∧
    w'.clients = (w.clients.filter fun cl => probe cl.pid ≠ .esrch) ∧
    w'.refcount = w.refcount - (w.clients.filter fun cl => probe cl.pid = .esrch).length ∧
    w'.signals = w.signals ++
      (w.clients.filter fun cl => probe cl.pid = .esrch).map (fun cl => (false, cl.pid)) ∧
    w'.turns = w.turns ++ if w.clients ≠ [] ∧ w'.clients = [] then [false] else []

/-- **The processes that do not exist.** Where no supervisor is required, the sweep removes exactly
the clients that do not exist if and only if `kill` fails for no other one. -/
theorem sweptExactly_iff {probe : Pid → KillResult}
    (hrequire : w.config.getRequireSupervisor = 0) (hrefcount : w.refcount = w.clients.length)
    (hprobe : ∀ env ∈ envs, ∀ pid, env.alive pid = true ↔ probe pid = .success)
    (hlength : w.clients.length < envs.length) :
    SweptExactly probe envs w ↔ ∀ cl ∈ w.clients, probe cl.pid ≠ .eperm := by
  have halive : ∀ env ∈ envs, env.alive = fun pid => decide (probe pid = .success) := by
    intro env henv
    funext pid
    rw [Bool.eq_iff_iff, hprobe env henv, decide_eq_true_eq]
  obtain ⟨w', hsweep, hswept⟩ := exists_swept hrequire halive
    ((List.length_filter_le _ _).trans_lt hlength)
  constructor
  · rintro ⟨w'', hsweep', hclients, -⟩ cl hcl heperm
    obtain rfl : w' = w'' := Option.some_inj.1 (hsweep.symm.trans hsweep')
    have hmem : cl ∈ w'.clients := by
      rw [hclients, List.mem_filter]
      exact ⟨hcl, by simp [heperm]⟩
    rw [hswept.clients, List.mem_filter, heperm] at hmem
    exact absurd hmem.2 (by decide)
  · intro hnot
    have hexists : ∀ cl ∈ w.clients,
        decide (probe cl.pid = .success) = decide (probe cl.pid ≠ .esrch) := by
      intro cl hcl
      have hne := hnot cl hcl
      cases hcase : probe cl.pid with
      | success | esrch => rfl
      | eperm => exact absurd hcase hne
    have hgone : ∀ cl ∈ w.clients,
        (!decide (probe cl.pid = .success)) = decide (probe cl.pid = .esrch) := by
      intro cl hcl
      rw [hexists cl hcl]
      simp
    refine ⟨w', hsweep, ?_, ?_, ?_, hswept.turns hrefcount⟩
    · rw [hswept.clients, List.filter_congr hexists]
    · rw [hswept.refcount, List.filter_congr hgone]
    · rw [hswept.signals, List.filter_congr hgone]

/-- A game that does not exist any more is removed, and one that exists stays. -/
theorem sweptExactly_of_esrch :
    SweptExactly (fun pid => if pid = 6 then .success else .esrch)
      (List.replicate 3 (passWithAlive Config.initial [6]))
      (worldWithGames Config.initial [5, 6]) := by
  refine (sweptExactly_iff rfl rfl ?_ (by decide)).2 (by decide)
  intro env henv pid
  rw [List.eq_of_mem_replicate henv]
  simp [passWithAlive]

/-- A game that runs under other credentials is removed. -/
theorem not_sweptExactly_of_eperm :
    ¬SweptExactly (fun _ => .eperm) (List.replicate 2 (passWithAlive Config.initial []))
        (worldWithGames Config.initial [5]) ∧
      ∃ w', contextAutoExpire (List.replicate 2 (passWithAlive Config.initial []))
          (worldWithGames Config.initial [5]) = some w' ∧ w'.pids = [] := by
  refine ⟨?_, _, rfl, rfl⟩
  rintro ⟨w', hsweep, hclients, -⟩
  obtain rfl := Option.some_inj.1 hsweep
  exact absurd hclients (by decide)

end GameMode
