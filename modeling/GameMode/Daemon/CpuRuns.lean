import GameMode.Daemon.Pivots

/-!
# Parked cores over whole runs

The only record of the cores that are offline is the information about the cores: the next unpark
command names the cores that were online when the information was built and are not for the games.
A reload builds the information again, from the cores that are online at that time. It unparks the
cores before, and goes on whatever that command came to: a core that neither the unpark command of
the leave nor the one before the rebuild brings back is not in the record any more.

## Main definitions

* `CpuState.named`: the cores that the next unpark command names.
* `World.CoresRemembered`: every core that was online at the start and is offline is named.
* `BringsBack`: a reload brings back every core that is offline.

## Main results

* `mem_parkCpu`, `mem_unparkCpu`: what the commands do to a core.
* `coresRemembered_along_iff`: when no core is forgotten.

Source: `daemon/gamemode-cpu.c`, `game_mode_reconfig_cpu` to `game_mode_unpark_cpu`.
-/

namespace GameMode

/-- The cores that the next unpark command names. -/
def CpuState.named (s : CpuState) : Finset ℕ :=
  match s.info with
  | none => ∅
  | some info => if info.parkOrPin = .park then info.listed else ∅

/-- The command changes a core that it names. -/
def CorectlOutcome.Reaches (cpu : ℕ) : CorectlOutcome → Prop
  | .succeeded => True
  | .failed touched => cpu ∈ touched

instance (cpu : ℕ) : (outcome : CorectlOutcome) → Decidable (outcome.Reaches cpu)
  | .succeeded => .isTrue trivial
  | .failed touched => inferInstanceAs (Decidable (cpu ∈ touched))

variable (files : CpuSysfs)

/-! ### The commands -/

section Commands

variable {cpu : ℕ} {s : CpuState}

theorem CpuState.named_of_info {s t : CpuState} (h : t.info = s.info) : t.named = s.named := by
  rw [named, named, h]

theorem mem_parkable {cores : Finset ℕ} (h : cpu ∈ parkable files cores) : cpu ∈ cores := by
  rw [parkable] at h
  split_ifs at h
  · exact h
  · exact Finset.mem_of_mem_erase h

/-- Parking takes cores offline that are named. -/
theorem mem_parkCpu (outcome : CorectlOutcome) :
    cpu ∈ (parkCpu files outcome s).online ↔
      cpu ∈ s.online ∧ ¬(cpu ∈ parkable files s.named ∧ outcome.Reaches cpu) := by
  have hempty : parkable files ∅ = ∅ := by simp [parkable]
  obtain ⟨info, online⟩ := s
  cases info with
  | none => simp [parkCpu, CpuState.named, hempty]
  | some info =>
    cases hmode : info.parkOrPin with
    | pin => simp [parkCpu, CpuState.named, hmode, hempty]
    | park =>
      cases outcome with
      | succeeded => simp [parkCpu, CpuState.named, hmode, CorectlOutcome.Reaches]
      | failed touched =>
        simp only [parkCpu, CpuState.named, hmode, if_true, CorectlOutcome.Reaches,
          Finset.mem_sdiff, Finset.mem_inter]
        tauto

/-- Unparking brings back the named cores that the command reaches. -/
theorem mem_unparkCpu (outcome : CorectlOutcome) :
    cpu ∈ (unparkCpu outcome s).online ↔
      cpu ∈ s.online ∨ cpu ∈ s.named ∧ outcome.Reaches cpu := by
  obtain ⟨info, online⟩ := s
  cases info with
  | none => simp [unparkCpu, CpuState.named]
  | some info =>
    cases hmode : info.parkOrPin with
    | pin => simp [unparkCpu, CpuState.named, hmode]
    | park =>
      cases outcome with
      | succeeded => simp [unparkCpu, CpuState.named, hmode, CorectlOutcome.Reaches]
      | failed touched =>
        simp only [unparkCpu, CpuState.named, hmode, if_true, CorectlOutcome.Reaches,
          Finset.mem_union, Finset.mem_inter]
        tauto

theorem named_subset_online {info : GameModeCPUInfo} (h : s.info = some info) :
    s.named ⊆ info.online := by
  rw [CpuState.named, h]
  simp only
  split_ifs
  · exact fun cpu hcpu => (Finset.mem_filter.1 hcpu).2.1
  · exact Finset.empty_subset _

end Commands

/-! ### The record -/

/-- The record is complete: every core of the start that is offline is named, and no other core was
ever online. -/
structure CpuState.Remembers (original : Finset ℕ) (s : CpuState) : Prop where
  named : ∀ cpu ∈ original, cpu ∉ s.online → cpu ∈ s.named
  online : s.online ⊆ original
  info : ∀ info ∈ s.info, info.online ⊆ original

namespace CpuState.Remembers

variable {original : Finset ℕ} {s : CpuState} (h : s.Remembers original)

include h

theorem parkCpu (outcome : CorectlOutcome) : (parkCpu files outcome s).Remembers original := by
  have hinfo := parkCpu_info files outcome s
  refine ⟨?_, fun cpu hcpu => h.online ((mem_parkCpu files outcome).1 hcpu).1, hinfo ▸ h.info⟩
  intro cpu hcpu hoffline
  rw [CpuState.named_of_info hinfo]
  by_cases honline : cpu ∈ s.online
  · rw [mem_parkCpu, and_iff_right honline, not_not] at hoffline
    exact mem_parkable files hoffline.1
  · exact h.named cpu hcpu honline

theorem named_subset : s.named ⊆ original := by
  cases hinfo : s.info with
  | none => simp [CpuState.named, hinfo]
  | some info => exact (named_subset_online hinfo).trans (h.info info hinfo)

theorem unparkCpu (outcome : CorectlOutcome) : (unparkCpu outcome s).Remembers original := by
  have hinfo := unparkCpu_info outcome s
  refine ⟨?_, ?_, hinfo ▸ h.info⟩
  · intro cpu hcpu hoffline
    rw [mem_unparkCpu, not_or] at hoffline
    rw [CpuState.named_of_info hinfo]
    exact h.named cpu hcpu hoffline.1
  · intro cpu hcpu
    rcases (mem_unparkCpu outcome).1 hcpu with honline | ⟨hnamed, -⟩
    · exact h.online honline
    · exact h.named_subset hnamed

omit h in
theorem initialise (hfiles : files.ListsOnline original) (allocated : Finset ℕ) (config : Config) :
    Remembers original ⟨(initialiseCpu files original allocated config).2, original⟩ :=
  ⟨fun _ hcpu hoffline => absurd hcpu hoffline, subset_rfl,
    fun _ hinfo => (online_of_initialiseCpu hfiles hinfo).subset⟩

variable (hfiles : ∀ online ⊆ original, files.ListsOnline online)

include hfiles

theorem reconfigCpu {outcome : CorectlOutcome} {allocated : Finset ℕ} {config : Config}
    (hback : ∀ cpu ∈ original, cpu ∉ s.online → outcome.Reaches cpu) :
    (reconfigCpu files outcome allocated config s).Remembers original := by
  have honline : (GameMode.unparkCpu outcome s).online = original := by
    refine (h.unparkCpu outcome).online.antisymm fun cpu hcpu => ?_
    rw [mem_unparkCpu, or_iff_not_imp_left]
    exact fun hoffline => ⟨h.named cpu hcpu hoffline, hback cpu hcpu hoffline⟩
  rw [GameMode.reconfigCpu, honline]
  exact initialise files (hfiles original subset_rfl) allocated config

/-- A core that is offline when the record is built again is not in it. -/
theorem notMem_reconfigCpu {outcome : CorectlOutcome} (allocated : Finset ℕ) (config : Config)
    {cpu : ℕ} (hoffline : cpu ∉ s.online) (hmissed : ¬outcome.Reaches cpu) :
    cpu ∉ (GameMode.reconfigCpu files outcome allocated config s).online ∧
      cpu ∉ (GameMode.reconfigCpu files outcome allocated config s).named := by
  have honline : cpu ∉ (GameMode.unparkCpu outcome s).online := by
    rw [mem_unparkCpu]
    tauto
  refine ⟨honline, fun hnamed => ?_⟩
  cases hinfo : (GameMode.reconfigCpu files outcome allocated config s).info with
  | none =>
    rw [CpuState.named, hinfo] at hnamed
    exact Finset.notMem_empty cpu hnamed
  | some info =>
    have hlists := hfiles _ (h.unparkCpu outcome).online
    rw [← online_of_initialiseCpu hlists hinfo] at honline
    exact honline (named_subset_online hinfo hnamed)

end CpuState.Remembers

/-! ### Runs -/

section Runs

variable {w w' : World} {original : Finset ℕ}

/-- No core is forgotten: every core of the start that is offline is named by the next unpark
command, and a leave whose unpark command succeeds brings back every core of the start. -/
structure World.CoresRemembered (original : Finset ℕ) (w : World) : Prop where
  named : ∀ cpu ∈ original, cpu ∉ w.cpu.online → cpu ∈ w.cpu.named
  leave : ∀ o : Outcomes, o.corectl = .succeeded → original ⊆ (contextLeave o w).cpu.online

/-- A reload brings back every core of the start that is offline, with the unpark command of the
leave, if there is one, or with the one before the information about the cores is built again. -/
def BringsBack (original : Finset ℕ) (w : World) (a : ContextOp × Env) : Prop :=
  a.1 = .reloadConfig → ∀ cpu ∈ original, cpu ∉ w.cpu.online →
    w.refcount ≠ 0 ∧ a.2.leave.corectl.Reaches cpu ∨ a.2.reconfigCorectl.Reaches cpu

theorem CpuState.Remembers.coresRemembered (h : w.cpu.Remembers original) :
    w.CoresRemembered original := by
  refine ⟨h.named, fun o ho cpu hcpu => ?_⟩
  rw [contextLeave_cpu, ho, mem_unparkCpu, or_iff_not_imp_left]
  exact fun hoffline => ⟨h.named cpu hcpu hoffline, trivial⟩

/-- A reload leaves game mode, if it is active, builds the information about the cores again, and
enters it again. -/
theorem reloadConfigInternal_cpu (env : Env) (w : World) :
    (reloadConfigInternal files env w).cpu =
      if w.refcount ≠ 0 then
        parkCpu files env.enter.corectl
          (reconfigCpu files env.reconfigCorectl env.allocated env.reloaded
            (unparkCpu env.leave.corectl w.cpu))
      else reconfigCpu files env.reconfigCorectl env.allocated env.reloaded w.cpu := by
  split_ifs with hcount
  · rw [← settings_cpu, settings_reloadConfigInternal files env hcount]
    rfl
  · have hreread : ¬(rereadConfig files env w).refcount ≠ 0 := hcount
    rw [reloadConfigInternal, tearDown, if_neg hcount, regrow, if_neg hreread, rereadConfig_cpu]

variable (hfiles : ∀ online ⊆ original, files.ListsOnline online)

include hfiles

/-- An operation that brings back the cores keeps the record complete. -/
theorem CpuState.Remembers.contextStep (hw : w.Consistent) (h : w.cpu.Remembers original)
    {a : ContextOp × Env} (hback : BringsBack original w a)
    (hstep : contextStep files w a = some w') : w'.cpu.Remembers original := by
  obtain ⟨op, env⟩ := a
  by_cases hop : op = .reloadConfig
  · subst hop
    cases hstep
    have hback := hback rfl
    rw [reloadConfigInternal_cpu]
    split_ifs with hcount
    · refine ((h.unparkCpu env.leave.corectl).reconfigCpu files hfiles ?_).parkCpu files _
      intro cpu hcpu hoffline
      rw [mem_unparkCpu, not_or] at hoffline
      refine (hback cpu hcpu hoffline.1).resolve_left fun hleave => ?_
      exact hoffline.2 ⟨h.named cpu hcpu hoffline.1, hleave.2⟩
    · exact h.reconfigCpu files hfiles fun cpu hcpu hoffline =>
        (hback cpu hcpu hoffline).resolve_left fun hleave => hcount hleave.1
  · refine contextStep_of_pivots files hw hstep
      (J := fun s => s.settings.cpu.Remembers original)
      (G := fun _ p => ∀ env, p ≠ .reread env) ?_ (Runs.StepsAlong.of_forall_mem ?_) h
    · intro s p t hs hp hpivot
      rcases pivotStep_cases files hpivot with
        ⟨o, -, -, rfl⟩ | ⟨o, -, -, rfl⟩ | ⟨env, rfl, -, -⟩ | ⟨env, -, rfl⟩
      · exact hs.parkCpu files o.corectl
      · exact hs.unparkCpu o.corectl
      · exact absurd rfl (hp env)
      · exact hs
    · rintro p hp _ env' rfl
      have hmem := mem_pivots files hp
      simp only [reduceCtorEq, false_and, or_false, false_or] at hmem
      exact hop hmem.2

/-- A reload that does not bring back a core forgets it. -/
theorem not_coresRemembered_of_not_bringsBack (h : w.cpu.Remembers original)
    {a : ContextOp × Env} (hmissed : ¬BringsBack original w a) :
    ∃ w', contextStep files w a = some w' ∧ ¬w'.CoresRemembered original := by
  obtain ⟨op, env⟩ := a
  simp only [BringsBack, not_forall, not_or, not_and] at hmissed
  obtain ⟨hop, cpu, hcpu, hoffline, hleave, hreconfig⟩ := hmissed
  obtain rfl : op = .reloadConfig := hop
  refine ⟨reloadConfigInternal files env w, rfl, fun hremembered => ?_⟩
  have hnamed := hremembered.named cpu hcpu
  rw [reloadConfigInternal_cpu] at hnamed
  split_ifs at hnamed with hcount
  · have hleft : cpu ∉ (unparkCpu env.leave.corectl w.cpu).online := by
      rw [mem_unparkCpu]
      exact not_or.2 ⟨hoffline, fun hreached => hleave hcount hreached.2⟩
    obtain ⟨honline, hnot⟩ := (h.unparkCpu env.leave.corectl).notMem_reconfigCpu files hfiles
      env.allocated env.reloaded hleft hreconfig
    rw [CpuState.named_of_info (parkCpu_info files _ _), mem_parkCpu] at hnamed
    exact hnot (hnamed fun hparked => honline hparked.1)
  · obtain ⟨honline, hnot⟩ := h.notMem_reconfigCpu files hfiles env.allocated env.reloaded hoffline
      hreconfig
    exact hnot (hnamed honline)

omit hfiles in
/-- **Parked cores.** When the kernel lists the online cores, no core is forgotten along a run
exactly when every reload of the run brings back the cores that are offline. -/
theorem coresRemembered_along_iff (allocated : Finset ℕ) (config : Config)
    {system : OriginalSystem}
    (hfiles : ∀ online ⊆ system.online, files.ListsOnline online)
    (run : List (ContextOp × Env)) :
    Runs.Along (contextStep files) (contextInit files allocated config system) run
        (World.CoresRemembered system.online) ↔
      Runs.StepsAlong (contextStep files) (contextInit files allocated config system) run
        (BringsBack system.online) := by
  have hstep : ∀ w a w', w.Consistent ∧ w.cpu.Remembers system.online →
      BringsBack system.online w a → contextStep files w a = some w' →
        w'.Consistent ∧ w'.cpu.Remembers system.online :=
    fun w a w' hw hback hstep => ⟨hw.1.contextStep files hstep,
      hw.2.contextStep files hfiles hw.1 hback hstep⟩
  have hstart : (contextInit files allocated config system).Consistent ∧
      (contextInit files allocated config system).cpu.Remembers system.online :=
    ⟨consistent_contextInit files allocated config system,
      .initialise files (hfiles _ subset_rfl) allocated config⟩
  constructor
  · exact Runs.stepsAlong_of_along hstep
      (fun w a hw => not_coresRemembered_of_not_bringsBack files hfiles hw.2) hstart run
  · intro hrun before hbefore w hexec
    exact (Runs.along_of_stepsAlong hstep hstart hrun before hbefore w hexec).2.coresRemembered

end Runs

private def configWithParking : Config :=
  { Config.initial with
    string := fun option =>
      if option = .cpuParkCores then "4-7".toList else Config.initial.string option }

private def filesWithEightCores : CpuSysfs :=
  { CpuSysfs.unreadable with
    online := fun online =>
      if online = Finset.range 8 then some "0-7\n".toList
      else if online = Finset.range 4 then some "0-3\n".toList
      else none }

private def systemWithEightCores : OriginalSystem :=
  .plain "powersave".toList "balanced".toList (Finset.range 8) []

/-- One game that is registered, a reload, and the removal of the game, with what the two unpark
commands of the reload come to. -/
private def runWithReload (leave reconfig : CorectlOutcome) : List (ContextOp × Env) :=
  [(.register 5 5, .succeeding configWithParking),
    (.reloadConfig, { Env.succeeding configWithParking with
      leave := { Outcomes.succeeding with corectl := leave }
      reconfigCorectl := reconfig }),
    (.unregister 5 5, .succeeding configWithParking)]

private theorem listsOnline_filesWithEightCores (online : Finset ℕ) :
    filesWithEightCores.ListsOnline online := by
  intro text htext cpu
  by_cases height : online = Finset.range 8
  · have hread : readSmallFile (filesWithEightCores.online online) = some "0-7".toList := by
      rw [height]
      decide
    obtain rfl : "0-7".toList = text := Option.some_inj.1 (hread.symm.trans htext)
    rw [height, show cpulistItems "0-7".toList = [(0, 7)] from by decide]
    simp only [Finset.mem_range, List.mem_singleton, exists_eq_left]
    omega
  · by_cases hfour : online = Finset.range 4
    · have hread : readSmallFile (filesWithEightCores.online online) = some "0-3".toList := by
        rw [hfour]
        decide
      obtain rfl : "0-3".toList = text := Option.some_inj.1 (hread.symm.trans htext)
      rw [hfour, show cpulistItems "0-3".toList = [(0, 3)] from by decide]
      simp only [Finset.mem_range, List.mem_singleton, exists_eq_left]
      omega
    · have hread : filesWithEightCores.online online = none := by
        simp [filesWithEightCores, height, hfour]
      rw [hread] at htext
      cases htext

/-- A reload whose first unpark command fails for some cores. -/
theorem coresRemembered_of_reload :
    Runs.Along (contextStep filesWithEightCores)
      (contextInit filesWithEightCores ∅ configWithParking systemWithEightCores)
      (runWithReload (.failed {4, 5}) .succeeded) (World.CoresRemembered (Finset.range 8)) := by
  refine (coresRemembered_along_iff filesWithEightCores ∅ configWithParking
    (fun online _ => listsOnline_filesWithEightCores online) _).2
      (Runs.StepsAlong.of_forall_mem fun a ha w => ?_)
  simp only [runWithReload, List.mem_cons, List.not_mem_nil, or_false] at ha
  rcases ha with rfl | rfl | rfl
  · exact fun hop => by cases hop
  · exact fun _ _ _ _ => Or.inr trivial
  · exact fun hop => by cases hop

/-- A reload both of whose unpark commands fail: the removal of the game leaves four of the cores
offline, for there is nothing left to unpark. -/
theorem not_coresRemembered_of_failing_unparks :
    ¬Runs.Along (contextStep filesWithEightCores)
        (contextInit filesWithEightCores ∅ configWithParking systemWithEightCores)
        (runWithReload (.failed ∅) (.failed ∅)) (World.CoresRemembered (Finset.range 8)) ∧
      ∃ w, Runs.exec (contextStep filesWithEightCores)
          (contextInit filesWithEightCores ∅ configWithParking systemWithEightCores)
          (runWithReload (.failed ∅) (.failed ∅)) = some w ∧
        w.pids = [] ∧ w.cpu.online = Finset.range 4 := by
  refine ⟨fun h => ?_, _, rfl, rfl, by decide⟩
  have hnamed := (h.exec rfl).named 7
  exact absurd hnamed (by decide)

end GameMode
