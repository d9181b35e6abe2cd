import GameMode.Daemon.RegistryRuns

/-!
# Queries over runs

A query of the status reads the count of the clients first and, when it is not zero, looks for the
client in the list. The reaper may take clients out in between. The answer should be the status at
some instant of the query.

It is not when the reaper takes out the client that is asked for after the count has been read, and
no other client is registered: the answer is then that game mode is active for others.

## Main definitions

* `World.statusOf`: the status of a process.
* `QueryRun`: the run of one query.
* `ExpiresOnly`: the reaper takes out the only client, which is the one asked for.

## Main results

* `step_query_cases`: what the steps of a query do.
* `query_sometime`: the answer is the status at some instant, in the guarded runs.
* `answersTruly_iff`: the runs in which it is.

Source: `daemon/gamemode-context.c`, `game_mode_context_query_status`.
-/

namespace GameMode

/-- The status of a process: whether game mode is active, and whether it is registered. -/
def World.statusOf (w : World) (client : Pid) : ℤ :=
  if w.pids = [] then 0 else if client ∈ w.pids then 2 else 1

/-- The places of the D-Bus thread during a query. -/
def DbusPc.Queries (call : DaemonCall) : DbusPc → Prop
  | .check call' | .supervisorWhitelist call' _ | .supervisorBlacklist call' _ => call' = call
  | .queryRefcount client | .queryList client => client = call.client
  | _ => False

variable {files : CpuSysfs} {call : DaemonCall}

theorem checkCall_query (hop : call.operation = .queryStatus) (env : Env) (config : Config) :
    (∃ pc, checkCall env config call = .goto pc ∧ pc.Queries call ∧
        pc ≠ .queryList call.client) ∨ checkCall env config call = .reply (-1) := by
  have hadmitted : call.admitted = .queryRefcount call.client := by
    rw [DaemonCall.admitted, hop]
  simp only [checkCall, hop, checkExecutable, hadmitted]
  split_ifs
  · cases env.findExe call.requester with
    | none => exact Or.inr rfl
    | some executable => exact Or.inl ⟨_, rfl, rfl, by simp⟩
  · exact Or.inl ⟨_, rfl, rfl, by simp⟩

/-- What the steps of a query do: the reaper goes on, the query goes on, or it is answered. -/
theorem step_query_cases (hop : call.operation = .queryStatus) {u u' : Sys} {a : Action}
    (h : step files u a = some u') (hquery : u.dbus.Queries call) :
    (∃ env, a = .reaper env ∧ reaperStep files env u = some u') ∨
    (∃ pc, u' = u.proceed (.goto pc) ∧ pc.Queries call ∧ u.dbus ≠ .queryList call.client ∧
      (pc = .queryList call.client → u.world.refcount ≠ 0)) ∨
    ∃ result, u' = u.proceed (.reply result) ∧
      (u.dbus ≠ .queryList call.client ∧ result < 0 ∨
        u.dbus = .queryRefcount call.client ∧ u.world.refcount = 0 ∧ result = 0 ∨
        u.dbus = .queryList call.client ∧
          result = if contextHasClient u.world call.client then 2 else 1) := by
  have hadmitted : call.admitted = .queryRefcount call.client := by
    rw [DaemonCall.admitted, hop]
  rcases (step_cases h).2 with ⟨request, rfl, hidle, -⟩ | ⟨env, rfl, hdbus⟩ | ⟨env, rfl, hreaper⟩
  · rw [hidle] at hquery
    cases hquery
  · refine Or.inr ?_
    cases hpc : u.dbus <;> rw [hpc] at hquery <;> simp only [DbusPc.Queries] at hquery
    all_goals
      subst hquery
      simp only [dbusStep, hpc, Option.some_inj] at hdbus
    case check =>
      rcases checkCall_query hop env u.world.config with ⟨pc, heq, hpc', hne⟩ | heq
      · exact Or.inl ⟨pc, by rw [← hdbus, heq], hpc', by simp, fun hlist => absurd hlist hne⟩
      · exact Or.inr ⟨-1, by rw [← hdbus, heq], Or.inl ⟨by simp, by decide⟩⟩
    case supervisorWhitelist executable =>
      split_ifs at hdbus
      · exact Or.inl ⟨_, hdbus.symm, rfl, by simp, by simp⟩
      · exact Or.inr ⟨-2, hdbus.symm, Or.inl ⟨by simp, by decide⟩⟩
    case supervisorBlacklist executable =>
      split_ifs at hdbus
      · exact Or.inr ⟨-2, hdbus.symm, Or.inl ⟨by simp, by decide⟩⟩
      · exact Or.inl ⟨_, hdbus.symm, by rw [hadmitted]; rfl, by simp, by simp [hadmitted]⟩
    case queryRefcount =>
      split_ifs at hdbus with hzero
      · exact Or.inl ⟨_, hdbus.symm, rfl, by simp, fun _ => hzero⟩
      · exact Or.inr ⟨0, hdbus.symm, Or.inr (Or.inl ⟨rfl, not_not.1 hzero, rfl⟩)⟩
    case queryList =>
      exact Or.inr ⟨_, hdbus.symm, Or.inr (Or.inr ⟨rfl, rfl⟩)⟩
  · exact Or.inl ⟨env, rfl, hreaper⟩

/-- What the reaper does to the list: it takes one client out, or nothing. -/
theorem reaperStep_pids {env : Env} {u u' : Sys} (h : reaperStep files env u = some u') :
    u'.world.pids = u.world.pids ∨
      ∃ expired, u.reaper = .unregister expired ∧ u'.world.pids = u.world.pids.erase expired := by
  cases hpc : u.reaper <;> simp only [reaperStep, hpc, reduceCtorEq, Option.some_inj] at h
  case unregister expired =>
    cases hremove : removeClient env expired u.world with
    | none =>
      rw [hremove, Option.some_inj] at h
      exact Or.inl (h ▸ rfl)
    | some w =>
      rw [hremove, Option.some_inj] at h
      exact Or.inr ⟨expired, rfl, h ▸ removeClient_pids hremove⟩
  case reapplyCorePinning =>
    exact Or.inl (h ▸ congrArg (List.map Client.pid)
      (quiet_reapplyCorePinningInternal env u.world).clients)
  case reload =>
    exact Or.inl (h ▸ congrArg (List.map Client.pid)
      (reloadConfigInternal_clients files env u.world).1)
  all_goals exact Or.inl (h ▸ rfl)

/-! ### Runs of a query -/

/-- The run of a query: it starts after its delivery, the D-Bus thread serves it until the last
step, and this step replies. -/
structure QueryRun (files : CpuSysfs) (call : DaemonCall) (s : Sys) (run : List Action) (t : Sys)
    (result : ℤ) : Prop where
  start : s.dbus = .check call
  exec : Runs.exec (step files) s run = some t
  busy : Runs.StepsAlong (step files) s run fun u _ => u.dbus ≠ .idle
  idle : t.dbus = .idle
  replied : t.world.log.getLast? = some (.replied result)

/-- Unless the requester is rejected, the answer is the status at some instant of the run. -/
def AnswersTruly (files : CpuSysfs) (client : Pid) (s : Sys) (run : List Action) (result : ℤ) :
    Prop :=
  0 ≤ result → Runs.Sometime (step files) s run fun u => u.world.statusOf client = result

/-- Between the read of the count and the search of the list, the reaper takes out the only client,
which is the one asked for. -/
def ExpiresOnly (client : Pid) (s : Sys) (a : Action) : Prop :=
  s.dbus = .queryList client ∧ (∃ env, a = .reaper env) ∧ s.reaper = .unregister client ∧
    s.world.pids = [client]

section Place

variable (hop : call.operation = .queryStatus)
include hop

theorem query_step {u u' : Sys} {a : Action} (h : step files u a = some u')
    (hquery : u.dbus.Queries call) :
    (u'.dbus = .idle ∨ u'.dbus.Queries call) ∧ u'.world.pids ⊆ u.world.pids := by
  rcases step_query_cases hop h hquery with
    ⟨env, rfl, hreaper⟩ | ⟨pc, rfl, hpc, -⟩ | ⟨result, rfl, -⟩
  · refine ⟨Or.inr ((reaperStep_frame hreaper).1 ▸ hquery), ?_⟩
    exact List.map_subset _ (reaperStep_effect hreaper).clients_subset
  · exact ⟨Or.inr hpc, List.Subset.refl _⟩
  · exact ⟨Or.inl rfl, List.Subset.refl _⟩

theorem query_run {s u : Sys} {as : List Action} (hs : s.dbus = .idle ∨ s.dbus.Queries call)
    (hexec : Runs.exec (step files) s as = some u)
    (hbusy : Runs.StepsAlong (step files) s as fun u _ => u.dbus ≠ .idle) :
    (u.dbus = .idle ∨ u.dbus.Queries call) ∧ u.world.pids ⊆ s.world.pids := by
  refine Runs.exec_invariant_of_stepsAlong
    (I := fun u => (u.dbus = .idle ∨ u.dbus.Queries call) ∧ u.world.pids ⊆ s.world.pids)
    (fun u a u' hu hidle h => ?_) ⟨hs, List.Subset.refl _⟩ as hbusy hexec
  obtain ⟨hplace, hsub⟩ := query_step hop h (hu.1.resolve_left hidle)
  exact ⟨hplace, List.Subset.trans hsub hu.2⟩

theorem queries_of_busy {s v : Sys} {as : List Action} {a : Action} (hstart : s.dbus = .check call)
    (hv : Runs.exec (step files) s as = some v)
    (hbusy : Runs.StepsAlong (step files) s (as ++ [a]) fun u _ => u.dbus ≠ .idle) :
    v.dbus.Queries call := by
  have hpart : as <+: as ++ [a] := List.prefix_append as [a]
  have hplace := (query_run hop (Or.inr (hstart ▸ rfl)) hv (hbusy.of_prefix hpart)).1
  exact hplace.resolve_left (hbusy as a List.prefix_rfl v hv)

end Place

/-- A query that searches an empty list answers that game mode is active for others. -/
theorem replied_one_of_nil (hop : call.operation = .queryStatus) {v t : Sys} {rest : List Action}
    (hlist : v.dbus = .queryList call.client) (hnil : v.world.pids = [])
    (hexec : Runs.exec (step files) v rest = some t)
    (hbusy : Runs.StepsAlong (step files) v rest fun u _ => u.dbus ≠ .idle) :
    t.dbus = .queryList call.client ∨ t.world.log.getLast? = some (.replied 1) := by
  have hend := Runs.exec_invariant_of_stepsAlong
    (I := fun u => u.world.pids = [] ∧ (u.dbus = .queryList call.client ∨
      u.dbus = .idle ∧ u.world.log.getLast? = some (.replied 1)))
    (fun u a u' hu hbusy h => ?_) ⟨hnil, Or.inl hlist⟩ rest hbusy hexec
  · exact hend.2.imp_right And.right
  obtain ⟨hempty, hplace⟩ := hu
  have hat := hplace.resolve_right fun hreplied => hbusy hreplied.1
  have hquery : u.dbus.Queries call := hat ▸ rfl
  refine ⟨List.subset_nil.1 (hempty ▸ (query_step hop h hquery).2), ?_⟩
  rcases step_query_cases hop h hquery with
    ⟨env, -, hreaper⟩ | ⟨pc, -, -, hne, -⟩ | ⟨result, rfl, hanswer⟩
  · exact Or.inl ((reaperStep_frame hreaper).1.trans hat)
  · exact absurd hat hne
  · have hnone : ¬contextHasClient u.world call.client = true := by
      rw [contextHasClient_iff, ← World.mem_pids_iff, hempty]
      exact List.not_mem_nil
    have hone : result = 1 := by
      rcases hanswer with ⟨hne, -⟩ | ⟨hcount, -⟩ | ⟨-, hanswer⟩
      · exact absurd hat hne
      · rw [hat] at hcount
        cases hcount
      · rw [hanswer, if_neg hnone]
    subst hone
    exact Or.inr ⟨rfl, List.getLast?_concat⟩

theorem statusOf_of_mem {w : World} {client : Pid} (h : client ∈ w.pids) :
    w.statusOf client = 2 := by
  rw [World.statusOf, if_neg (List.ne_nil_of_mem h), if_pos h]

theorem statusOf_of_notMem {w : World} {client : Pid} (hne : w.pids ≠ []) (h : client ∉ w.pids) :
    w.statusOf client = 1 := by
  rw [World.statusOf, if_neg hne, if_neg h]

theorem pids_eq_nil_iff {w : World} (h : w.Consistent) : w.pids = [] ↔ w.refcount = 0 := by
  rw [h.refcount, World.pids, List.map_eq_nil_iff, Int.natCast_eq_zero, List.length_eq_zero_iff]

/-! ### The instant of the answer -/

section Query

variable {s t : Sys} {run : List Action} {result : ℤ} (hop : call.operation = .queryStatus)
  (hs : s.RegistryInvariant)
include hop hs

/-- When the list is searched, the client is registered, or at some instant only others were: before
that the count was not zero, and the reaper never takes out the client as the only one. -/
theorem query_sometime (hstart : s.dbus = .check call) {u : Sys} {as : List Action}
    (hexec : Runs.exec (step files) s as = some u)
    (hbusy : Runs.StepsAlong (step files) s as fun u _ => u.dbus ≠ .idle)
    (hguard : Runs.StepsAlong (step files) s as fun u a => ¬ExpiresOnly call.client u a)
    (hlist : u.dbus = .queryList call.client) :
    Runs.Sometime (step files) s as (fun u => u.world.statusOf call.client = 1) ∨
      call.client ∈ u.world.pids := by
  induction as using List.reverseRecOn generalizing u with
  | nil =>
    rw [Runs.exec_nil, Option.some_inj] at hexec
    rw [← hexec, hstart] at hlist
    cases hlist
  | append_singleton as a ih =>
    obtain ⟨v, hv, hstep⟩ := Runs.exec_concat_eq_some.1 hexec
    have hpart : as <+: as ++ [a] := List.prefix_append as [a]
    have hplace := queries_of_busy hop hstart hv hbusy
    by_cases hmem : call.client ∈ u.world.pids
    · exact Or.inr hmem
    refine Or.inl ?_
    rcases step_query_cases hop hstep hplace with
      ⟨env, rfl, hreaper⟩ | ⟨pc, rfl, -, -, hcount⟩ | ⟨_, rfl, -⟩
    · have hlist' : v.dbus = .queryList call.client := (reaperStep_frame hreaper).1.symm.trans hlist
      rcases ih hv (hbusy.of_prefix hpart) (hguard.of_prefix hpart) hlist' with hseen | hbefore
      · exact hseen.mono hpart
      · -- the reaper takes out the client, and others are left
        rcases reaperStep_pids hreaper with hsame | ⟨expired, hpc, herase⟩
        · exact absurd (hsame ▸ hbefore) hmem
        have hexpired : expired = call.client := by
          by_contra hne
          rw [herase, List.mem_erase_of_ne (Ne.symm hne)] at hmem
          exact hmem hbefore
        subst hexpired
        refine Runs.sometime_of_exec hexec (statusOf_of_notMem ?_ hmem)
        rw [herase]
        intro hnil
        rcases List.erase_eq_nil_iff.1 hnil with hempty | honly
        · rw [hempty] at hbefore
          cases hbefore
        · exact hguard as _ List.prefix_rfl v hv ⟨hlist', ⟨env, rfl⟩, hpc, honly⟩
    · refine Runs.sometime_of_exec hexec (statusOf_of_notMem ?_ hmem)
      have hconsistent := (Runs.exec_invariant registryInvariant_step hs hv).consistent
      exact fun hnil => hcount hlist ((pids_eq_nil_iff hconsistent).1 hnil)
    · cases hlist

variable (hrun : QueryRun files call s run t result)
include hrun

/-- **The instant.** Where the reaper does not take out the client as the only one, the answer is
the status at some instant. -/
theorem answersTruly_of_stepsAlong
    (hguard : Runs.StepsAlong (step files) s run fun u a => ¬ExpiresOnly call.client u a) :
    AnswersTruly files call.client s run result := by
  intro hresult
  obtain ⟨hstart, hexec, hbusy, hidle, hreplied⟩ := hrun
  rcases List.eq_nil_or_concat run with rfl | ⟨as, a, rfl⟩
  · rw [Runs.exec_nil, Option.some_inj] at hexec
    rw [← hexec, hstart] at hidle
    cases hidle
  rw [List.concat_eq_append] at hexec hbusy hguard ⊢
  obtain ⟨v, hv, hstep⟩ := Runs.exec_concat_eq_some.1 hexec
  have hpart : as <+: as ++ [a] := List.prefix_append as [a]
  have hplace := queries_of_busy hop hstart hv hbusy
  have hconsistent := (Runs.exec_invariant registryInvariant_step hs hv).consistent
  rcases step_query_cases hop hstep hplace with
    ⟨env, rfl, hreaper⟩ | ⟨pc, rfl, hpc, -⟩ | ⟨result', rfl, hanswer⟩
  · rw [(reaperStep_frame hreaper).1] at hidle
    rw [hidle] at hplace
    cases hplace
  · have hpc' : pc = .idle := hidle
    rw [hpc'] at hpc
    cases hpc
  · have hsame : result' = result := by
      have hlast : (v.world.log ++ [Event.replied result']).getLast? = some (.replied result) :=
        hreplied
      rw [List.getLast?_concat] at hlast
      exact Event.replied.inj (Option.some.inj hlast)
    subst hsame
    rcases hanswer with ⟨-, hnegative⟩ | ⟨-, hzero, rfl⟩ | ⟨hlist, hanswer⟩
    · omega
    · refine Runs.Sometime.mono (Runs.sometime_of_exec hv ?_) hpart
      rw [World.statusOf, if_pos ((pids_eq_nil_iff hconsistent).2 hzero)]
    · by_cases hhas : contextHasClient v.world call.client = true
      · rw [if_pos hhas] at hanswer
        rw [contextHasClient_iff, ← World.mem_pids_iff] at hhas
        subst hanswer
        exact Runs.Sometime.mono (Runs.sometime_of_exec hv (statusOf_of_mem hhas)) hpart
      · rw [if_neg hhas] at hanswer
        rw [contextHasClient_iff, ← World.mem_pids_iff] at hhas
        subst hanswer
        exact ((query_sometime hop hs hstart hv (hbusy.of_prefix hpart)
          (hguard.of_prefix hpart) hlist).resolve_right hhas).mono hpart

omit hs in
/-- Where the reaper takes out the client as the only one, the answer is that game mode is active
for others, and at no instant it was. -/
theorem not_answersTruly_of_expiresOnly {as : List Action} {a : Action}
    (hpart : as ++ [a] <+: run) {v : Sys} (hv : Runs.exec (step files) s as = some v)
    (hexpires : ExpiresOnly call.client v a) :
    ¬AnswersTruly files call.client s run result := by
  obtain ⟨hstart, hexec, hbusy, hidle, hreplied⟩ := hrun
  obtain ⟨hlist, ⟨env, rfl⟩, hpc, honly⟩ := hexpires
  obtain ⟨rest, rfl⟩ := hpart
  obtain ⟨v', hv', hrest⟩ := Runs.exec_append_eq_some.1 hexec
  obtain ⟨w, hw, hstep⟩ := Runs.exec_concat_eq_some.1 hv'
  obtain rfl := Option.some.inj (hv.symm.trans hw)
  have hreaper : reaperStep files env v = some v' := by
    rw [step] at hstep
    exact (Option.ite_none_left_eq_some.1 hstep).2
  have hlist' : v'.dbus = .queryList call.client := (reaperStep_frame hreaper).1.trans hlist
  have hnil : v'.world.pids = [] := by
    have hregistered : v.world.IsRegistered call.client := by
      rw [← World.mem_pids_iff, honly]
      exact List.mem_singleton_self _
    simp only [reaperStep, hpc] at hreaper
    obtain ⟨w, hremove⟩ :=
      Option.isSome_iff_exists.1 ((removeClient_isSome_iff env call.client v.world).2 hregistered)
    rw [hremove, Option.some_inj] at hreaper
    rw [← hreaper]
    simp [removeClient_pids hremove, honly]
  -- the search finds nobody
  have hone : result = 1 := by
    rcases replied_one_of_nil hop hlist' hnil hrest (hbusy.of_append hv') with hplace | hlast
    · rw [hidle] at hplace
      cases hplace
    · rw [hreplied, Option.some_inj] at hlast
      exact Event.replied.inj hlast
  subst hone
  intro htrue
  obtain ⟨before, hbefore, u, hu, hstatus⟩ := htrue (by decide)
  have hplace := (query_run hop (Or.inr (hstart ▸ rfl)) hu (hbusy.of_prefix hbefore)).1
  rcases List.prefix_or_prefix_of_prefix hbefore (List.prefix_append _ rest) with hle | ⟨mid, rfl⟩
  · rcases List.prefix_concat_iff.1 hle with rfl | ⟨mid, rfl⟩
    · -- nobody is registered after the client is taken out
      obtain rfl := Option.some.inj (hv'.symm.trans hu)
      rw [World.statusOf, if_pos hnil] at hstatus
      cases hstatus
    · -- the client is registered before
      obtain ⟨u', hu', hmid⟩ := Runs.exec_append_eq_some.1 hv
      obtain rfl := Option.some.inj (hu.symm.trans hu')
      have hsub := (query_run hop hplace hmid
        ((hbusy.of_prefix ((List.prefix_append _ _).trans (List.prefix_append _ rest))).of_append
          hu)).2
      rw [honly] at hsub
      rw [statusOf_of_mem (hsub (List.mem_singleton_self _))] at hstatus
      cases hstatus
  · obtain ⟨u', hu', hmid⟩ := Runs.exec_append_eq_some.1 hu
    obtain rfl := Option.some.inj (hv'.symm.trans hu')
    have hsub := (query_run hop (Or.inr (hlist' ▸ rfl)) hmid
      ((hbusy.of_prefix hbefore).of_append hv')).2
    rw [hnil, List.subset_nil] at hsub
    rw [World.statusOf, if_pos hsub] at hstatus
    cases hstatus

end Query

/-- **Queries.** From any state that a run of the two threads reaches, a query whose requester is
not rejected answers with the status at some instant exactly when, between the read of the count and
the search of the list, the reaper does not take out the client as the only one. -/
theorem answersTruly_iff {allocated : Finset ℕ} {config : Config} {system : OriginalSystem}
    {past : List Action} {s t : Sys} {run : List Action} {result : ℤ}
    (hpast : Runs.exec (step files) (Sys.start (contextInit files allocated config system)) past =
      some s)
    (hop : call.operation = .queryStatus) (hrun : QueryRun files call s run t result) :
    AnswersTruly files call.client s run result ↔
      Runs.StepsAlong (step files) s run fun u a => ¬ExpiresOnly call.client u a := by
  have hstart : (Sys.start (contextInit files allocated config system)).RegistryInvariant :=
    ⟨consistent_contextInit files allocated config system, nofun, rfl⟩
  constructor
  · intro h as a hpart v hv hexpires
    exact not_answersTruly_of_expiresOnly hop hrun hpart hv hexpires h
  · exact answersTruly_of_stepsAlong hop (Runs.exec_invariant registryInvariant_step hstart hpast)
      hrun

private def plainStart : Sys :=
  Sys.start (contextInit .unreadable ∅ Config.initial
    (.plain "powersave".toList "balanced".toList ∅ []))

private def registerAndAsk : List Action :=
  [.receive (.call ⟨.register, 5, 5⟩)] ++ List.replicate 7 (.dbus (.succeeding Config.initial)) ++
    [.receive (.call ⟨.queryStatus, 5, 5⟩)]

private def serveQuery (alive : Bool) : List Action :=
  List.replicate 2 (.dbus (.succeeding Config.initial)) ++
    List.replicate 6 (.reaper { Env.succeeding Config.initial with alive := fun _ => alive }) ++
    [.dbus (.succeeding Config.initial)]

/-- The game lives: it is answered that it is registered. -/
theorem answersTruly_of_alive :
    ∃ s t, Runs.exec (step .unreadable) plainStart registerAndAsk = some s ∧
      QueryRun .unreadable ⟨.queryStatus, 5, 5⟩ s (serveQuery true) t 2 ∧
      AnswersTruly .unreadable 5 s (serveQuery true) 2 := by
  have hrun : ∃ s t, Runs.exec (step .unreadable) plainStart registerAndAsk = some s ∧
      QueryRun .unreadable ⟨.queryStatus, 5, 5⟩ s (serveQuery true) t 2 ∧
      Runs.StepsAlong (step .unreadable) s (serveQuery true) fun u _ => u.reaper ≠ .unregister 5 :=
    ⟨_, _, rfl, ⟨rfl, rfl, by decide, rfl, rfl⟩, by decide⟩
  obtain ⟨s, t, hpast, hquery, hreaper⟩ := hrun
  refine ⟨s, t, hpast, hquery, (answersTruly_iff hpast rfl hquery).2 ?_⟩
  exact fun as a hpart u hu hexpires => hreaper as a hpart u hu hexpires.2.2.1

/-- The game dies after the count has been read: it is answered that only others are registered,
which was never so. -/
theorem not_answersTruly_of_expiry :
    ∃ s t, Runs.exec (step .unreadable) plainStart registerAndAsk = some s ∧
      QueryRun .unreadable ⟨.queryStatus, 5, 5⟩ s (serveQuery false) t 1 ∧
      ¬AnswersTruly .unreadable 5 s (serveQuery false) 1 := by
  have hrun : ∃ s t v, Runs.exec (step .unreadable) plainStart registerAndAsk = some s ∧
      QueryRun .unreadable ⟨.queryStatus, 5, 5⟩ s (serveQuery false) t 1 ∧
      Runs.exec (step .unreadable) s ((serveQuery false).take 7) = some v ∧
      ExpiresOnly 5 v (.reaper { Env.succeeding Config.initial with alive := fun _ => false }) :=
    ⟨_, _, _, rfl, ⟨rfl, rfl, by decide, rfl, rfl⟩, rfl, rfl, ⟨_, rfl⟩, rfl, rfl⟩
  obtain ⟨s, t, v, hpast, hquery, hv, hexpires⟩ := hrun
  exact ⟨s, t, hpast, hquery, not_answersTruly_of_expiresOnly rfl hquery
    ⟨[.dbus (.succeeding Config.initial)], rfl⟩ hv hexpires⟩

end GameMode
