import GameMode.Daemon.Pivots
import Mathlib.Algebra.Order.Field.Basic
import Mathlib.Algebra.Order.Field.Rat

/-!
# The switches over whole runs

What becomes of the split-lock mitigation, of the governor for the integrated GPU, and of the X3D
mode in a run of the operations, whatever their commands come to.

* The mitigation is written back as it was read on either side, so it never changes.
* A threshold that is meant to disable the check of the integrated GPU is replaced by the number 1,
  so the check goes on.
* The X3D mode is read again whenever game mode is entered with a mode to set, also when the last
  restore failed, and it is written back whether or not it was changed.

## Main definitions

* `World.SplitlockSwitched`, `RegistersGame`: the mitigation is switched, a game is registered.
* `Config.DisablesIgpu`, `SwitchesToIgpu`: the check of the integrated GPU is meant to be disabled,
  an energy check changes the governor.
* `X3dHistory`, `X3dPutBack`, `X3dUndisturbed`: the modes from before each change, what a leave has
  to do, and what entering game mode relies on.

## Main results

* `splitlockSwitched_along_iff`: when the mitigation is switched.
* `igpuUndesired_along_iff`: when the governor for the integrated GPU is never set.
* `x3dPutBack_along`: runs in which the X3D mode is put back.

Source: `daemon/gamemode-context.c`, `game_mode_store_splitlock` to `game_mode_context_leave`.
-/

namespace GameMode

variable (files : CpuSysfs)

/-! ### Split-lock mitigation -/

section Splitlock

/-- The value is the one of the start, and so is what was read of it, if anything was. -/
def Phase.SplitlockKept (m : ℤ) (s : Phase) : Prop :=
  s.settings.splitlock.value = some m ∧
    (s.settings.splitlock.initial = -1 ∨ s.settings.splitlock.initial = m)

theorem disableSplitlock_of_kept {m : ℤ} {s : SplitlockState} (hvalue : s.value = some m)
    (hinitial : s.initial = -1 ∨ s.initial = m) (config : Config) (disable ok : Bool) :
    disableSplitlock config disable ok s = s := by
  rcases hinitial with hunread | hread
  · simp [disableSplitlock, hunread]
  · refine disableSplitlock_value ?_ config disable ok
    rw [hread, SplitlockState.getSplitlockState, hvalue, Option.getD_some]

/-- No pivot changes the value. -/
theorem Phase.SplitlockKept.pivotStep {m : ℤ} {s t : Phase} {p : Pivot} (h : s.SplitlockKept m)
    (hstep : pivotStep files s p = some t) : t.SplitlockKept m := by
  obtain ⟨hvalue, hinitial⟩ := h
  rcases pivotStep_cases files hstep with
    ⟨o, -, -, rfl⟩ | ⟨o, -, -, rfl⟩ | ⟨env, -, -, rfl⟩ | ⟨env, -, rfl⟩
  · have hread : s.settings.splitlock.getSplitlockState = m := by
      rw [SplitlockState.getSplitlockState, hvalue, Option.getD_some]
    have hkept := @disableSplitlock_of_kept m (storeSplitlock s.settings.splitlock) hvalue
      (Or.inr hread) s.settings.config true o.splitlockSet
    simp only [SplitlockKept, settings_splitlock, contextEnter_splitlock, hkept]
    exact ⟨hvalue, Or.inr hread⟩
  · simp only [SplitlockKept, settings_splitlock, contextLeave_splitlock,
      disableSplitlock_of_kept hvalue hinitial]
    exact ⟨hvalue, hinitial⟩
  · exact ⟨hvalue, hinitial⟩
  · exact ⟨hvalue, hinitial⟩

/-- The value is zero while a client is registered, and the one of the start otherwise. -/
def World.SplitlockSwitched (m : ℤ) (w : World) : Prop :=
  w.splitlock.value = some (if w.refcount ≠ 0 then 0 else m)

instance (m : ℤ) (w : World) : Decidable (w.SplitlockSwitched m) :=
  inferInstanceAs (Decidable (w.splitlock.value = _))

/-- The operation registers a game. -/
def RegistersGame (w : World) (a : ContextOp × Env) : Prop :=
  ∃ client requester, a.1 = .register client requester ∧
    GatePasses w.config a.2.findExe client requester ∧ ¬w.IsRegistered client ∧
      ClientAdmitted w.config a.2.findExe client

/-- Nobody is registered, and the value is the one of the start. -/
private structure World.SplitlockUntouched (m : ℤ) (w : World) : Prop where
  consistent : w.Consistent
  refcount : w.refcount = 0
  kept : (Phase.of w).SplitlockKept m

variable {w w' : World} {m : ℤ}

/-- Without a client, an operation that registers no game leaves the list empty. -/
theorem refcount_of_not_registersGame (h : w.Consistent) (hcount : w.refcount = 0)
    {a : ContextOp × Env} (ha : ¬RegistersGame w a) (hstep : contextStep files w a = some w') :
    w'.refcount = 0 := by
  have hclients : w.clients = [] := by
    rw [← List.length_eq_zero_iff, ← Int.natCast_eq_zero, ← h.refcount, hcount]
  obtain ⟨op, env⟩ := a
  cases op with
  | register client requester =>
    cases hstep
    have hexact := contextRegister_exact files env client requester w
    rw [hexact.unchanged fun hzero => ha ⟨client, requester, rfl, hexact.zero_iff.1 hzero⟩]
    exact hcount
  | unregister client requester =>
    cases hstep
    have hexact := contextUnregister_exact env client requester w
    have hnot : ¬w.IsRegistered client := by simp [World.IsRegistered, hclients]
    rw [hexact.unchanged fun hzero => hnot (hexact.zero_iff.1 hzero).2]
    exact hcount
  | restart requester =>
    cases hstep
    rcases contextRestart_cases files env requester w with ⟨-, heq⟩ | ⟨hne, -⟩
    · rw [heq]
      exact hcount
    · exact absurd hcount hne
  | autoExpireRound =>
    cases hstep
    have hnone : deadClient env w = none := by rw [deadClient, hclients, List.find?_nil]
    rw [contextAutoExpireRound, hnone]
    exact hcount
  | checkIgpuEnergy =>
    cases hstep
    exact hcount
  | reapplyCorePinning =>
    cases hstep
    rw [reapplyCorePinningInternal, if_neg (not_not.2 hcount)]
    exact hcount
  | reloadConfig =>
    cases hstep
    exact (reloadConfigInternal_clients files env w).2.trans hcount

theorem refcount_of_registersGame (hcount : w.refcount = 0) {a : ContextOp × Env}
    (ha : RegistersGame w a) : ∃ w', contextStep files w a = some w' ∧ w'.refcount = 1 := by
  obtain ⟨op, env⟩ := a
  obtain ⟨client, requester, rfl, haccepted⟩ := ha
  have hexact := contextRegister_exact files env client requester w
  obtain ⟨cl, -, -, hrefcount⟩ := hexact.effect (hexact.zero_iff.2 haccepted)
  exact ⟨_, rfl, by rw [hrefcount, hcount, zero_add]⟩

theorem Phase.SplitlockKept.contextStep (h : w.Consistent) (hkept : (Phase.of w).SplitlockKept m)
    {a : ContextOp × Env} (hstep : contextStep files w a = some w') :
    (Phase.of w').SplitlockKept m :=
  contextStep_of_pivots files h hstep (G := fun _ _ => True)
    (fun _ _ _ hs _ hpivot => hs.pivotStep files hpivot) (fun _ _ _ _ _ => trivial) hkept

/-- **Split-lock mitigation.** The value is switched along a run exactly when it is zero anyway, or
no game is registered. -/
theorem splitlockSwitched_along_iff (m : ℤ) (allocated : Finset ℕ) (config : Config)
    {system : OriginalSystem} (hsystem : system.splitlock = some m)
    (run : List (ContextOp × Env)) :
    Runs.Along (contextStep files) (contextInit files allocated config system) run
        (World.SplitlockSwitched m) ↔
      m = 0 ∨ Runs.StepsAlong (contextStep files) (contextInit files allocated config system) run
        fun w a => ¬RegistersGame w a := by
  have hconsistent := consistent_contextInit files allocated config system
  have hkept : (Phase.of (contextInit files allocated config system)).SplitlockKept m :=
    ⟨hsystem, Or.inl rfl⟩
  by_cases hm : m = 0
  · refine iff_of_true ?_ (Or.inl hm)
    intro before _ w hexec
    have hw : w.Consistent ∧ (Phase.of w).SplitlockKept m :=
      Runs.exec_invariant (I := fun w => w.Consistent ∧ (Phase.of w).SplitlockKept m)
        (fun w a w' hw hstep => ⟨hw.1.contextStep files hstep, hw.2.contextStep files hw.1 hstep⟩)
        ⟨hconsistent, hkept⟩ hexec
    rw [World.SplitlockSwitched, show w.splitlock.value = some m from hw.2.1, hm, ite_self]
  · have hstep : ∀ w a w', w.SplitlockUntouched m → ¬RegistersGame w a →
        GameMode.contextStep files w a = some w' → w'.SplitlockUntouched m :=
      fun w a w' hw ha hstep => ⟨hw.consistent.contextStep files hstep,
        refcount_of_not_registersGame files hw.consistent hw.refcount ha hstep,
        hw.kept.contextStep files hw.consistent hstep⟩
    have hstart : (contextInit files allocated config system).SplitlockUntouched m :=
      ⟨hconsistent, rfl, hkept⟩
    rw [or_iff_right hm]
    constructor
    · refine Runs.stepsAlong_of_along hstep ?_ hstart run
      intro w a hw ha
      obtain ⟨w', hstep', hcount⟩ := refcount_of_registersGame files hw.refcount (not_not.1 ha)
      refine ⟨w', hstep', fun hswitched => hm ?_⟩
      have hvalue : w'.splitlock.value = some m :=
        (hw.kept.contextStep files hw.consistent hstep').1
      rw [World.SplitlockSwitched, hvalue, hcount] at hswitched
      exact Option.some_inj.1 hswitched
    · intro hrun before hbefore w hexec
      have hw := Runs.along_of_stepsAlong hstep hstart hrun before hbefore w hexec
      have hvalue : w.splitlock.value = some m := hw.kept.1
      rw [World.SplitlockSwitched, hvalue, hw.refcount]
      rfl

private def systemWithSplitlock (m : ℤ) : OriginalSystem :=
  { OriginalSystem.plain "powersave".toList "balanced".toList ∅ [] with splitlock := some m }

private def configWithSplitlock : Config :=
  { Config.initial with
    long := fun option => if option = .disableSplitlock then 1 else Config.initial.long option }

/-- A mitigation that is off at the start stays off. -/
theorem splitlockSwitched_of_zero :
    Runs.Along (contextStep .unreadable)
      (contextInit .unreadable ∅ configWithSplitlock (systemWithSplitlock 0))
      [(.register 5 5, .succeeding configWithSplitlock)] (World.SplitlockSwitched 0) :=
  (splitlockSwitched_along_iff .unreadable 0 ∅ configWithSplitlock rfl _).2 (Or.inl rfl)

/-- While a game is registered the mitigation is still on. -/
theorem not_splitlockSwitched_of_register :
    ¬Runs.Along (contextStep .unreadable)
        (contextInit .unreadable ∅ configWithSplitlock (systemWithSplitlock 1))
        [(.register 5 5, .succeeding configWithSplitlock)] (World.SplitlockSwitched 1) ∧
      ∃ w, Runs.exec (contextStep .unreadable)
          (contextInit .unreadable ∅ configWithSplitlock (systemWithSplitlock 1))
          [(.register 5 5, .succeeding configWithSplitlock)] = some w ∧
        w.config.getDisableSplitlock = true ∧ w.pids = [5] ∧ w.splitlock.value = some 1 :=
  ⟨fun h => absurd (h.exec rfl) (by decide), _, rfl, rfl, rfl, rfl⟩

end Splitlock

/-! ### The integrated GPU -/

section Igpu

/-- The threshold is one that is meant to disable the check of the integrated GPU. -/
def Config.DisablesIgpu (self : Config) : Prop :=
  self.igpuPowerThreshold = .nan ∨ self.igpuPowerThreshold.isNegative = true

/-- The check of the energies sets the governor for the integrated GPU: game mode has set a
governor, both energies can be read again, the integrated GPU used more than the CPU, and the
command succeeds. -/
def SwitchesToIgpu (w : World) (a : ContextOp × Env) : Prop :=
  a.1 = .checkIgpuEnergy ∧ w.governor.current ≠ .default ∧ w.igpu.enabled = true ∧
    ∃ cpu igpu, a.2.energies = ⟨some cpu, some igpu⟩ ∧ cpu ≠ w.igpu.lastCpuEnergyUj ∧
      (cpu - w.igpu.lastCpuEnergyUj).toNat < (igpu - w.igpu.lastIgpuEnergyUj).toNat ∧
        a.2.igpuGovernorSet = true

theorem Config.DisablesIgpu.getIgpuPowerThreshold {self : Config} (h : self.DisablesIgpu) :
    self.getIgpuPowerThreshold = .fin 1 :=
  if_pos h

variable {w w' : World}

theorem setGovernor_current_ne (config : Config) {gov : GameModeGovernor}
    (hgov : gov ≠ .igpuDesired) (ok : Bool) {s : GovernorState} (h : s.current ≠ .igpuDesired) :
    (setGovernor config gov ok s).2.current ≠ .igpuDesired := by
  rcases SavedSetting.set_current_eq_or s gov (cpugovctlSet (governorText config s.saved gov)
    s.system) ok with hset | hset
  · rw [setGovernor, hset]
    exact hgov
  · rw [setGovernor, hset]
    exact h

/-- The ratio of two energies exceeds the number 1 exactly when the first one exceeds the second: a
quotient above 1 is too far above it to be rounded down. -/
theorem isLt_one_energyRatio_iff {igpuDelta cpuDelta : UInt32} (h : cpuDelta ≠ 0) :
    (CFloat.fin 1).isLt (energyRatio igpuDelta cpuDelta) = true ↔
      cpuDelta.toNat < igpuDelta.toNat := by
  have hpos : (0 : ℚ) < cpuDelta.toNat := by
    rw [Nat.cast_pos, Nat.pos_iff_ne_zero]
    exact fun hzero => h (UInt32.toNat_inj.1 hzero)
  have hbound : (cpuDelta.toNat : ℚ) < 2 ^ 32 := by exact_mod_cast cpuDelta.toNat_lt
  have hulp : Rounding.ulp 53 1 / 2 < (1 : ℚ) / 2 ^ 32 := by
    rw [Rounding.ulp, Int.log_one_right]
    norm_num
  have hone : IsFloat 1 := ⟨1, 0, by norm_num, by norm_num⟩
  rw [CFloat.isLt, decide_eq_true_eq, lt_energyRatio_iff hone one_pos]
  constructor
  · intro hlt
    have hhalf := Rounding.ulp_pos 53 1
    have hratio : (1 : ℚ) < igpuDelta.toNat / cpuDelta.toNat := by linarith
    rw [one_lt_div hpos] at hratio
    exact_mod_cast hratio
  · intro hlt
    have hmore : (cpuDelta.toNat : ℚ) + 1 ≤ igpuDelta.toNat := by exact_mod_cast hlt
    calc
      (1 : ℚ) + Rounding.ulp 53 1 / 2 < 1 + 1 / 2 ^ 32 := by linarith
      _ ≤ 1 + 1 / cpuDelta.toNat := by
        rw [add_le_add_iff_left]
        exact one_div_le_one_div_of_le hpos hbound.le
      _ = (cpuDelta.toNat + 1) / cpuDelta.toNat := by rw [add_div, div_self hpos.ne']
      _ ≤ igpuDelta.toNat / cpuDelta.toNat := div_le_div_of_nonneg_right hmore hpos.le

/-- What a check of the energies does to the governor. -/
theorem contextCheckIgpuEnergy_current_iff (hconfig : w.config.DisablesIgpu)
    (hcurrent : w.governor.current ≠ .igpuDesired) (env : Env) :
    (contextCheckIgpuEnergy env w).governor.current = .igpuDesired ↔
      SwitchesToIgpu w (.checkIgpuEnergy, env) := by
  have hboth : ∀ cpu igpu, env.energies = ⟨some cpu, some igpu⟩ ↔
      env.energies.cpu = some cpu ∧ env.energies.igpu = some igpu := by
    intro cpu igpu
    cases env.energies
    simp
  simp only [SwitchesToIgpu, true_and, hboth, contextCheckIgpuEnergy, checkIgpuEnergy,
    hconfig.getIgpuPowerThreshold]
  by_cases hdefault : w.governor.current = .default
  · simp [hdefault]
  by_cases henabled : w.igpu.enabled = true
  · cases hcpu : env.energies.cpu with
    | none => simp [hdefault, henabled, hcurrent]
    | some cpu =>
      cases higpu : env.energies.igpu with
      | none => simp [hdefault, henabled, hcurrent]
      | some igpu =>
        by_cases hdelta : cpu - w.igpu.lastCpuEnergyUj = 0
        · have hsame : cpu = w.igpu.lastCpuEnergyUj := by grind
          simp [hdefault, henabled, hcurrent, hsame]
        · have hother : cpu ≠ w.igpu.lastCpuEnergyUj := by grind
          have hset := SavedSetting.set_current_eq_iff w.governor .igpuDesired
          by_cases hlt : (CFloat.fin 1).isLt (energyRatio (igpu - w.igpu.lastIgpuEnergyUj)
              (cpu - w.igpu.lastCpuEnergyUj)) = true
          · have hmore := (isLt_one_energyRatio_iff hdelta).1 hlt
            simp [hdefault, henabled, hdelta, hother, hlt, hmore, setGovernor, hset _ _ hcurrent]
          · have hless := mt (isLt_one_energyRatio_iff hdelta).2 hlt
            have hdesired := setGovernor_current_ne w.config
              (by decide : GameModeGovernor.desired ≠ .igpuDesired) env.igpuGovernorSet hcurrent
            simp [hdefault, henabled, hdelta, hlt, hless, hdesired]
  · simp [hdefault, henabled, hcurrent]

/-- The threshold disables the check, and the governor is not the one for the integrated GPU. -/
def Phase.IgpuUntouched (s : Phase) : Prop :=
  s.settings.config.DisablesIgpu ∧ s.settings.governor.current ≠ .igpuDesired

/-- Entering, leaving and reading the configuration do not set the governor for the integrated
GPU. -/
theorem Phase.IgpuUntouched.pivotStep {s t : Phase} {p : Pivot} (h : s.IgpuUntouched)
    (hreread : ∀ env, p = .reread env → env.reloaded.DisablesIgpu)
    (henergy : ∀ env, p ≠ .energy env) (hstep : pivotStep files s p = some t) :
    t.IgpuUntouched := by
  obtain ⟨hconfig, hcurrent⟩ := h
  rcases pivotStep_cases files hstep with
    ⟨o, -, -, rfl⟩ | ⟨o, -, -, rfl⟩ | ⟨env, rfl, -, rfl⟩ | ⟨env, rfl, rfl⟩
  · refine ⟨hconfig, setGovernor_current_ne _ (by decide) _ ?_⟩
    exact (SavedSetting.store_current ..).trans_ne hcurrent
  · exact ⟨hconfig, setGovernor_current_ne _ (by decide) _ hcurrent⟩
  · exact ⟨hreread env rfl, hcurrent⟩
  · exact absurd rfl (henergy env)

/-- Every other operation keeps the governor from being the one for the integrated GPU. -/
theorem Phase.IgpuUntouched.contextStep (h : w.Consistent) (huntouched : (Phase.of w).IgpuUntouched)
    {a : ContextOp × Env} (hreloaded : a.2.reloaded.DisablesIgpu) (ha : ¬SwitchesToIgpu w a)
    (hstep : contextStep files w a = some w') : (Phase.of w').IgpuUntouched := by
  obtain ⟨op, env⟩ := a
  by_cases hop : op = .checkIgpuEnergy
  · subst hop
    cases hstep
    obtain ⟨hconfig, hcurrent⟩ := huntouched
    exact ⟨hconfig, mt (contextCheckIgpuEnergy_current_iff hconfig hcurrent env).1 ha⟩
  · refine contextStep_of_pivots files h hstep
      (G := fun _ p => (∀ env, p = .reread env → env.reloaded.DisablesIgpu) ∧
        ∀ env, p ≠ .energy env)
      (fun _ _ _ hs hp hpivot => hs.pivotStep files hp.1 hp.2 hpivot)
      ((stepsAlong_reloaded files hreloaded w _).and ?_) huntouched
    refine Runs.StepsAlong.of_forall_mem ?_
    rintro p hp _ env' rfl
    have hmem := mem_pivots files hp
    simp only [reduceCtorEq, false_and, false_or] at hmem
    exact hop hmem.2

/-- **Integrated GPU.** With thresholds that are meant to disable the check, the governor for the
integrated GPU is never set along a run exactly when no check of the energies sets it. -/
theorem igpuUndesired_along_iff (allocated : Finset ℕ) {config : Config}
    (hconfig : config.DisablesIgpu) (system : OriginalSystem) {run : List (ContextOp × Env)}
    (hrun : ∀ a ∈ run, a.2.reloaded.DisablesIgpu) :
    Runs.Along (contextStep files) (contextInit files allocated config system) run
        (fun w => w.governor.current ≠ .igpuDesired) ↔
      Runs.StepsAlong (contextStep files) (contextInit files allocated config system) run
        fun w a => ¬SwitchesToIgpu w a := by
  have hconsistent := consistent_contextInit files allocated config system
  have hreloaded : Runs.StepsAlong (contextStep files) (contextInit files allocated config system)
      run fun _ a => a.2.reloaded.DisablesIgpu :=
    Runs.StepsAlong.of_forall_mem fun a ha _ => hrun a ha
  constructor
  · intro hnever before a hbefore w hexec hswitches
    have hbefore' : before <+: run := (List.prefix_append _ _).trans hbefore
    obtain ⟨-, hdisables⟩ : w.Consistent ∧ w.config.DisablesIgpu :=
      Runs.exec_invariant_of_stepsAlong (I := fun w => w.Consistent ∧ w.config.DisablesIgpu)
        (fun w a w' hw ha hstep => ⟨hw.1.contextStep files hstep,
          config_contextStep files hw.1 ha hstep hw.2⟩)
        ⟨hconsistent, hconfig⟩ before (hreloaded.of_prefix hbefore') hexec
    obtain ⟨op, env⟩ := a
    obtain rfl : op = .checkIgpuEnergy := hswitches.1
    refine hnever (before ++ [(.checkIgpuEnergy, env)]) hbefore (contextCheckIgpuEnergy env w)
      (Runs.exec_concat_eq_some.2 ⟨w, hexec, rfl⟩) ?_
    exact (contextCheckIgpuEnergy_current_iff hdisables (hnever before hbefore' w hexec) env).2
      hswitches
  · intro hnone before hbefore w hexec
    have huntouched : (Phase.of (contextInit files allocated config system)).IgpuUntouched :=
      ⟨hconfig, (by decide : GameModeGovernor.default ≠ .igpuDesired)⟩
    have hw : w.Consistent ∧ (Phase.of w).IgpuUntouched :=
      Runs.exec_invariant_of_stepsAlong
        (I := fun w => w.Consistent ∧ (Phase.of w).IgpuUntouched)
        (G := fun w a => a.2.reloaded.DisablesIgpu ∧ ¬SwitchesToIgpu w a)
        (fun w a w' hw ha hstep => ⟨hw.1.contextStep files hstep,
          hw.2.contextStep files hw.1 ha.1 ha.2 hstep⟩)
        ⟨hconsistent, huntouched⟩ before
        (fun cs a hcs t ht => ⟨hreloaded.of_prefix hbefore cs a hcs t ht,
          hnone cs a (hcs.trans hbefore) t ht⟩) hexec
    exact hw.2.2

private def configWithoutIgpu : Config := { Config.initial with igpuPowerThreshold := .fin (-1) }

/-- A system on which everything succeeds, with the energies that the first game and the check
read. -/
private def envWithEnergies (cpu igpu : UInt32) : Env :=
  { Env.succeeding configWithoutIgpu with
    enter := { Outcomes.succeeding with energies := ⟨some 0, some 0⟩ }
    energies := ⟨some cpu, some igpu⟩ }

/-- The governor stays when the energies cannot be read again. -/
theorem igpuUndesired_of_unreadable :
    Runs.Along (contextStep .unreadable)
      (contextInit .unreadable ∅ configWithoutIgpu
        (.plain "powersave".toList "balanced".toList ∅ []))
      [(.register 5 5, .succeeding configWithoutIgpu),
        (.checkIgpuEnergy, .succeeding configWithoutIgpu)]
      (fun w => w.governor.current ≠ .igpuDesired) := by
  refine (igpuUndesired_along_iff .unreadable ∅ (Or.inr rfl) _ ?_).2
    (Runs.StepsAlong.of_forall_mem ?_)
  · intro a ha
    simp only [List.mem_cons, List.not_mem_nil, or_false] at ha
    rcases ha with rfl | rfl <;> exact Or.inr rfl
  · rintro a ha w ⟨-, -, -, cpu, igpu, henergies, -⟩
    simp only [List.mem_cons, List.not_mem_nil, or_false] at ha
    rcases ha with rfl | rfl <;> cases henergies

/-- The governor for the integrated GPU is set once it uses more than the CPU. -/
theorem not_igpuUndesired_of_more :
    configWithoutIgpu.DisablesIgpu ∧
      ¬Runs.Along (contextStep .unreadable)
        (contextInit .unreadable ∅ configWithoutIgpu
          (.plain "powersave".toList "balanced".toList ∅ []))
        [(.register 5 5, envWithEnergies 10 20), (.checkIgpuEnergy, envWithEnergies 10 20)]
        (fun w => w.governor.current ≠ .igpuDesired) :=
  ⟨Or.inr rfl, fun h => absurd (h.exec rfl) (by decide +kernel)⟩

end Igpu

/-! ### X3D mode -/

section X3d

/-- The mode that `game_mode_set_x3d_mode` passes to the helper, if it calls the helper at all. -/
def X3dState.asks (config : Config) (desired : Bool) (s : X3dState) : Option X3dMode :=
  if s.helper then getX3dModeValue (s.modeText config desired) else none

theorem setX3dMode_eq (config : Config) (desired ok : Bool) (s : X3dState) :
    setX3dMode config desired ok s =
      match s.asks config desired with
      | none => s
      | some mode => if ok then s.setMode mode else s := by
  simp only [setX3dMode, X3dState.asks]
  by_cases htext : s.modeText config desired = []
  · have hnone : getX3dModeValue [] = none := rfl
    simp [htext, hnone]
  · cases s.helper
    · simp [htext]
    · cases getX3dModeValue (s.modeText config desired) <;> simp [htext]

theorem getX3dModeValue_x3dText (config : Config) (option : X3dOption) :
    getX3dModeValue (config.x3dText option) = config.x3d option := by
  rw [Config.x3dText]
  cases config.x3d option with
  | none => rfl
  | some mode => exact (getX3dModeValue_text mode).1

@[simp] theorem setX3dMode_helper (config : Config) (desired ok : Bool) (s : X3dState) :
    (setX3dMode config desired ok s).helper = s.helper := by
  rcases setX3dMode_cases config desired ok s with heq | ⟨-, mode, heq⟩ <;> rw [heq]
  rfl

theorem X3dState.setMode_mode {s : X3dState} (h : s.mode ≠ none) (mode : X3dMode) :
    (s.setMode mode).mode = some mode := by
  obtain ⟨current, hcurrent⟩ := Option.ne_none_iff_exists'.1 h
  rw [setMode, hcurrent, Option.map_some]

theorem X3dState.asks_true (config : Config) (s : X3dState) :
    s.asks config true = if s.helper then config.x3d .amdX3dModeDesired else none := by
  rw [asks]
  split_ifs
  · exact getX3dModeValue_x3dText config _
  · rfl

theorem X3dState.asks_false {config : Config} (h : config.x3d .amdX3dModeDefault = none)
    {s : X3dState} {original : X3dMode} (hinitial : s.initial = [] ∨ s.initial = original.text) :
    s.asks config false =
      if s.helper = true ∧ s.initial ≠ [] then some original else none := by
  have htext : config.x3dText .amdX3dModeDefault = [] := (config.x3dText_eq_nil_iff _).2 h
  obtain ⟨hvalue, hne, -, htruncate⟩ := getX3dModeValue_text original
  rcases hinitial with hnil | htext'
  · have hnone : getX3dModeValue [] = none := rfl
    simp [asks, modeText, htext, hnil, CString.truncate, hnone]
  · by_cases hhelper : s.helper = true <;>
      simp [asks, modeText, htext, htext', htruncate, hvalue, hne, hhelper]

/-- What entering game mode does: the mode is read when there is one to set, then the one to set is
asked for. -/
theorem x3d_contextEnter (config : Config) (ok : Bool) {s : X3dState} {original : X3dMode}
    (hmode : s.asks config true ≠ none → s.mode = some original) :
    setX3dMode config true ok (storeX3dMode config true s) =
      match s.asks config true with
      | none => s
      | some desired =>
        if ok then { s with initial := original.text }.setMode desired
        else { s with initial := original.text } := by
  obtain ⟨-, -, hline, -⟩ := getX3dModeValue_text original
  have htext := config.x3dText_eq_nil_iff .amdX3dModeDesired
  rw [X3dState.asks_true] at hmode ⊢
  by_cases hhelper : s.helper = true
  · rw [if_pos hhelper] at hmode ⊢
    cases hdesired : config.x3d .amdX3dModeDesired with
    | none =>
      rw [setX3dMode_eq, X3dState.asks_true, hdesired, ite_self]
      simp [storeX3dMode, htext, hdesired]
    | some desired =>
      have hstore : storeX3dMode config true s = { s with initial := original.text } := by
        simp [storeX3dMode, htext, hdesired, hhelper, X3dState.getX3dMode, hmode, hline]
      rw [hstore, setX3dMode_eq, X3dState.asks_true, if_pos hhelper, hdesired]
  · have hstore : storeX3dMode config true s = s := by simp [storeX3dMode, hhelper]
    rw [hstore, setX3dMode_eq, X3dState.asks_true, if_neg hhelper]

theorem x3d_contextLeave {config : Config} (h : config.x3d .amdX3dModeDefault = none) (ok : Bool)
    {s : X3dState} {original : X3dMode} (hinitial : s.initial = [] ∨ s.initial = original.text) :
    setX3dMode config false ok s =
      if (s.helper = true ∧ s.initial ≠ []) ∧ ok = true then s.setMode original else s := by
  rw [setX3dMode_eq, X3dState.asks_false h hinitial]
  by_cases hsaved : s.helper = true ∧ s.initial ≠ [] <;> simp [hsaved]

/-- The mode that leaving game mode puts back is the original one: it is the one saved, or none is
saved and the mode was not changed. -/
structure X3dState.Saved (original : X3dMode) (s : X3dState) : Prop where
  initial_eq_or : s.initial = [] ∨ s.initial = original.text
  mode_ne_none : s.mode ≠ none
  mode_of_nil : s.initial = [] → s.mode = some original

namespace X3dState.Saved

variable {original : X3dMode} {s : X3dState} (h : s.Saved original) {config : Config} (ok : Bool)
include h

theorem enter (hmode : s.asks config true ≠ none → s.mode = some original) :
    (setX3dMode config true ok (storeX3dMode config true s)).Saved original := by
  have htext : original.text ≠ [] := (getX3dModeValue_text original).2.1
  rw [x3d_contextEnter config ok hmode]
  cases s.asks config true with
  | none => exact h
  | some desired =>
    cases ok with
    | false => exact ⟨Or.inr rfl, h.mode_ne_none, fun hnil => absurd hnil htext⟩
    | true =>
      have hset : ({ s with initial := original.text }.setMode desired).mode = some desired :=
        setMode_mode h.mode_ne_none desired
      exact ⟨Or.inr rfl, hset.trans_ne (Option.some_ne_none _), fun hnil => absurd hnil htext⟩

theorem leave (hdefault : config.x3d .amdX3dModeDefault = none) :
    (setX3dMode config false ok s).Saved original := by
  rw [x3d_contextLeave hdefault ok h.initial_eq_or]
  split_ifs
  · have hset := setMode_mode h.mode_ne_none original
    exact ⟨h.initial_eq_or, hset.trans_ne (Option.some_ne_none _), fun _ => hset⟩
  · exact h

end X3dState.Saved

/-- A run of the pivots with a history: the modes from before each change of the mode, since the
mode was last restored. -/
structure X3dHistory where
  /-- The phase. -/
  phase : Phase
  /-- The modes from before each change. -/
  before : List X3dMode

/-- The settings of the X3D mode. -/
def X3dHistory.x3d (h : X3dHistory) : X3dState := h.phase.settings.x3d

/-- The configuration. -/
def X3dHistory.config (h : X3dHistory) : Config := h.phase.settings.config

/-- The modes from before each change after a pivot. Entering game mode changes the mode when the
helper is asked and succeeds; leaving it restores the mode when the helper is asked and succeeds. -/
def X3dHistory.next (h : X3dHistory) : Pivot → List X3dMode
  | .enter o =>
    if o.x3dSet = true ∧ h.x3d.asks h.config true ≠ none then h.x3d.mode.toList ++ h.before
    else h.before
  | .leave o =>
    if o.x3dSet = true ∧ h.x3d.asks h.config false ≠ none then [] else h.before
  | .reread _ | .energy _ => h.before

/-- A pivot as a step with its history. -/
def x3dStep (h : X3dHistory) (p : Pivot) : Option X3dHistory :=
  (pivotStep files h.phase p).map fun t => ⟨t, h.next p⟩

/-- The mode is put back by a leave: when the helper is asked for a mode, an earlier entering has
changed it from that mode since it was last restored; and when the helper succeeds, the mode
afterwards is the original one. -/
def X3dPutBack (original : X3dMode) (h : X3dHistory) (p : Pivot) : Prop :=
  ∀ o, p = .leave o → ∀ mode, h.x3d.asks h.config false = some mode →
    ∀ h', x3dStep files h p = some h' →
      mode ∈ h.before ∧ (o.x3dSet = true → h'.x3d.mode = some original)

/-- Entering game mode finds what it relies on. With a mode to set, the processor is in its original
mode, and setting the mode succeeds unless a change from the original mode is still to be restored;
without one, no mode is saved unless such a change is still to be restored. -/
def X3dUndisturbed (original : X3dMode) (h : X3dHistory) (p : Pivot) : Prop :=
  ∀ o, p = .enter o → h.x3d.helper = true →
    if h.config.x3d .amdX3dModeDesired = none then h.x3d.initial = [] ∨ original ∈ h.before
    else h.x3d.mode = some original ∧ (o.x3dSet = true ∨ original ∈ h.before)

/-- The mode can be restored, and while game mode is active a mode that is saved is one from before
a change. -/
structure X3dHistory.Restorable (original : X3dMode) (h : X3dHistory) : Prop where
  default_eq_none : h.config.x3d .amdX3dModeDefault = none
  saved : h.x3d.Saved original
  mem_before : h.phase.active = true → h.x3d.helper = true →
    h.x3d.initial = [] ∨ original ∈ h.before

section Steps

variable {original : X3dMode} {h h' : X3dHistory} {p : Pivot}

/-- After an undisturbed entering, a mode that is saved is one from before a change. -/
theorem mem_next_enter {o : Outcomes} (hundisturbed : X3dUndisturbed original h (.enter o))
    (hhelper : h.x3d.helper = true) :
    (setX3dMode h.config true o.x3dSet (storeX3dMode h.config true h.x3d)).initial = [] ∨
      original ∈ h.next (.enter o) := by
  have hguard := hundisturbed o rfl hhelper
  have hasks := X3dState.asks_true h.config h.x3d
  rw [if_pos hhelper] at hasks
  by_cases hdesired : h.config.x3d .amdX3dModeDesired = none
  · rw [if_pos hdesired] at hguard
    rw [hdesired] at hasks
    rw [@x3d_contextEnter h.config o.x3dSet h.x3d original fun hne => absurd hasks hne,
      hasks, X3dHistory.next, if_neg fun hchange => hchange.2 hasks]
    exact hguard
  · rw [if_neg hdesired] at hguard
    obtain ⟨hmode, hset | hmem⟩ := hguard
    · right
      rw [X3dHistory.next, if_pos ⟨hset, hasks.trans_ne hdesired⟩, hmode]
      exact List.mem_cons_self
    · right
      rw [X3dHistory.next]
      split_ifs
      · exact List.mem_append_right _ hmem
      · exact hmem

theorem saved_enter (hsaved : h.x3d.Saved original) {o : Outcomes}
    (hundisturbed : X3dUndisturbed original h (.enter o)) :
    (setX3dMode h.config true o.x3dSet (storeX3dMode h.config true h.x3d)).Saved original := by
  refine hsaved.enter o.x3dSet fun hasks => ?_
  rw [X3dState.asks_true, ne_eq, ite_eq_right_iff, Classical.not_imp] at hasks
  have hguard := hundisturbed o rfl hasks.1
  rw [if_neg hasks.2] at hguard
  exact hguard.1

/-- An undisturbed pivot keeps the mode restorable. -/
theorem X3dHistory.Restorable.x3dStep (hrestorable : h.Restorable original)
    (hreread : ∀ env, p = .reread env → env.reloaded.x3d .amdX3dModeDefault = none)
    (hget : ∀ o, p = .enter o → o.x3dGet = true) (hundisturbed : X3dUndisturbed original h p)
    (hstep : x3dStep files h p = some h') : h'.Restorable original := by
  obtain ⟨hdefault, hsaved, hbefore⟩ := hrestorable
  simp only [GameMode.x3dStep, Option.map_eq_some_iff] at hstep
  obtain ⟨t, hpivot, rfl⟩ := hstep
  rcases pivotStep_cases files hpivot with
    ⟨o, rfl, -, rfl⟩ | ⟨o, rfl, -, rfl⟩ | ⟨env, rfl, -, rfl⟩ | ⟨env, rfl, rfl⟩
  · have hx3d : (contextEnter files o h.phase.settings).settings.x3d =
        setX3dMode h.config true o.x3dSet (storeX3dMode h.config true h.x3d) := by
      rw [settings_x3d, contextEnter_x3d, hget o rfl]
      rfl
    refine ⟨hdefault, ?_, fun _ hhelper => ?_⟩
    · rw [X3dHistory.x3d, hx3d]
      exact saved_enter hsaved hundisturbed
    · rw [X3dHistory.x3d, hx3d] at hhelper ⊢
      rw [setX3dMode_helper, (storeX3dMode_mode _ _ _).2] at hhelper
      exact mem_next_enter hundisturbed hhelper
  · exact ⟨hdefault, hsaved.leave o.x3dSet hdefault, fun hactive => absurd hactive (by simp)⟩
  · exact ⟨hreread env rfl, hsaved, fun hactive => absurd hactive (by simp)⟩
  · exact ⟨hdefault, hsaved, hbefore⟩

/-- A leave of game mode puts the mode back. -/
theorem X3dHistory.Restorable.putBack (hrestorable : h.Restorable original) (p : Pivot) :
    X3dPutBack files original h p := by
  rintro o rfl mode hasks h' hstep
  obtain ⟨hdefault, hsaved, hbefore⟩ := hrestorable
  have hleave := x3d_contextLeave hdefault o.x3dSet hsaved.initial_eq_or
  rw [X3dState.asks_false hdefault hsaved.initial_eq_or] at hasks
  split_ifs at hasks with hsome
  cases hasks
  simp only [GameMode.x3dStep, Option.map_eq_some_iff] at hstep
  obtain ⟨t, hpivot, rfl⟩ := hstep
  simp only [pivotStep, Option.ite_none_right_eq_some, Option.some_inj] at hpivot
  obtain ⟨hactive, rfl⟩ := hpivot
  refine ⟨(hbefore hactive hsome.1).resolve_left hsome.2, fun hok => ?_⟩
  rw [if_pos ⟨hsome, hok⟩] at hleave
  exact (congrArg X3dState.mode hleave).trans (X3dState.setMode_mode hsaved.mode_ne_none original)

end Steps

/-- The history that the daemon starts with. -/
def startHistory (allocated : Finset ℕ) (config : Config) (system : OriginalSystem) : X3dHistory :=
  ⟨startPhase files allocated config system, []⟩

/-- **X3D mode.** In a run without a mode for the time after the games, in which the mode can always
be read, every leave puts the mode back when no entering is disturbed. -/
theorem x3dPutBack_along (allocated : Finset ℕ) {config : Config}
    (hconfig : config.x3d .amdX3dModeDefault = none) {system : OriginalSystem}
    {original : X3dMode} (hsystem : system.x3dMode = some original)
    {run : List (ContextOp × Env)}
    (hrun : ∀ a ∈ run, a.2.reloaded.x3d .amdX3dModeDefault = none ∧ a.2.enter.x3dGet = true)
    (hundisturbed : Runs.StepsAlong (x3dStep files) (startHistory files allocated config system)
      (runPivots files (contextInit files allocated config system) run)
      (X3dUndisturbed original)) :
    Runs.StepsAlong (x3dStep files) (startHistory files allocated config system)
      (runPivots files (contextInit files allocated config system) run)
      (X3dPutBack files original) := by
  have hstart : (startHistory files allocated config system).Restorable original :=
    ⟨hconfig, ⟨Or.inl rfl, hsystem.trans_ne (Option.some_ne_none _), fun _ => hsystem⟩,
      fun hactive => absurd hactive (by simp [startHistory, startPhase, Phase.of, contextInit])⟩
  have hpivots : Runs.StepsAlong (x3dStep files) (startHistory files allocated config system)
      (runPivots files (contextInit files allocated config system) run) fun _ p =>
        (∀ env, p = .reread env → env.reloaded.x3d .amdX3dModeDefault = none) ∧
          ∀ o, p = .enter o → o.x3dGet = true := by
    refine Runs.StepsAlong.of_forall_mem fun p hp _ => ?_
    obtain ⟨a, ha, hcases⟩ := mem_runPivots files hp
    obtain ⟨hdefault, hget⟩ := hrun a ha
    rcases hcases with rfl | rfl | rfl | rfl
    · exact ⟨by simp, fun o ho => Pivot.enter.inj ho ▸ hget⟩
    · exact ⟨by simp, by simp⟩
    · exact ⟨fun env henv => Pivot.reread.inj henv ▸ hdefault, by simp⟩
    · exact ⟨by simp, by simp⟩
  exact Runs.StepsAlong.of_invariant
    (fun _ _ _ hs hG hstep => hs.x3dStep files hG.1.1 hG.1.2 hG.2 hstep)
    (fun _ p hs _ => hs.putBack files p) hstart (hpivots.and hundisturbed)

private def configWithX3d : Config :=
  { Config.initial with
    x3d := fun option => if option = .amdX3dModeDesired then some .frequency else none }

private def systemWithX3d : OriginalSystem :=
  { OriginalSystem.plain "powersave".toList "balanced".toList ∅ [] with
    x3dHelper := true
    x3dMode := some .cache }

/-- A game that is registered and removed, with every command succeeding. -/
theorem x3dPutBack_of_succeeding :
    Runs.StepsAlong (x3dStep .unreadable) (startHistory .unreadable ∅ configWithX3d systemWithX3d)
      (runPivots .unreadable (contextInit .unreadable ∅ configWithX3d systemWithX3d)
        [(.register 5 5, .succeeding configWithX3d), (.unregister 5 5, .succeeding configWithX3d)])
      (X3dPutBack .unreadable .cache) := by
  refine x3dPutBack_along .unreadable ∅ rfl rfl ?_ ?_
  · intro a ha
    simp only [List.mem_cons, List.not_mem_nil, or_false] at ha
    rcases ha with rfl | rfl <;> exact ⟨rfl, rfl⟩
  · change Runs.StepsAlong _ _ [Pivot.enter .succeeding, .leave .succeeding] _
    rw [Runs.stepsAlong_cons_iff]
    refine ⟨fun o ho _ => ?_, fun h _ => ?_⟩
    · cases ho
      decide
    · rw [Runs.stepsAlong_cons_iff]
      exact ⟨fun o ho => absurd ho (by simp), fun _ _ => Runs.stepsAlong_nil _ _⟩

/-- One game that is registered, a restart that fails to restore the mode, and the removal of the
game. -/
private def runWithFailingRestore : List (ContextOp × Env) :=
  [(.register 5 5, .succeeding configWithX3d),
    (.restart 5, { Env.succeeding configWithX3d with
      leave := { Outcomes.succeeding with x3dSet := false } }),
    (.unregister 5 5, .succeeding configWithX3d)]

/-- After a restore that failed the mode is read again, and the next leave puts back the mode of the
daemon. -/
theorem not_x3dPutBack_of_failing_restore :
    ¬Runs.StepsAlong (x3dStep .unreadable)
        (startHistory .unreadable ∅ configWithX3d systemWithX3d)
        (runPivots .unreadable (contextInit .unreadable ∅ configWithX3d systemWithX3d)
          runWithFailingRestore) (X3dPutBack .unreadable .cache) ∧
      ∃ w, Runs.exec (contextStep .unreadable)
          (contextInit .unreadable ∅ configWithX3d systemWithX3d) runWithFailingRestore = some w ∧
        w.pids = [] ∧ w.x3d.mode = some .frequency := by
  refine ⟨fun h => ?_, _, rfl, rfl, rfl⟩
  have hleave := h [.enter .succeeding, .leave { Outcomes.succeeding with x3dSet := false },
    .enter .succeeding] (.leave .succeeding) ⟨[], rfl⟩ _ rfl _ rfl .frequency rfl _ rfl
  exact absurd (hleave.2 rfl) (by decide)

end X3d

end GameMode
