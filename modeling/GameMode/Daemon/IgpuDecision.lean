import GameMode.Common.Power
import GameMode.Daemon.Pivots

/-!
# Decisions on the integrated GPU

While a game runs, the reaper compares the energy that the integrated GPU has used since the last
reading with that of the CPU. It takes the differences of readings at 32 bits, where they wrap, but
the counters of the kernel start again at another number: a difference across such a restart is not
the energy used. The ratio of the differences is a `double`, and one that exceeds the threshold by
less than a `double` can show is taken to be equal to it.

Here the energies that were truly used are known beside a run of the pivots, and the readings are
what the counters show of them.

## Main definitions

* `TrueEnergies`, `EnergyMeters`: the energies used, and the counters that show them.
* `MeteredPhase`, `meteredStep`: a run with the energies at the last reading.
* `Sampled`: what is read, and that the commands succeed.
* `KeepsCounts`: no counter starts again between two readings.
* `ClearsThreshold`: the ratio of the energies is not rounded down to the threshold.
* `DecidesTruly`: the decision is the one that the true energies call for.

## Main results

* `checkIgpuEnergy_of_delta`: the decision from the differences.
* `Tracks.meteredStep`: the last readings are those of the last true energies.
* `decidesTruly_of_keepsCounts`: the decisions along a run.

Source: `daemon/gamemode-context.c`, `game_mode_enable_igpu_optimization` and
`game_mode_check_igpu_energy`; `common/common-power.c`.
-/

namespace GameMode

open Runs

/-! ### One decision -/

section Decision

variable {config : Config} {energies : Energies} {gov : GovernorState} {igpu : IgpuState}

/-- A check that reads both energies keeps them, and decides by their differences. -/
theorem checkIgpuEnergy_of_some {cpuEnergy igpuEnergy : UInt32} (ok : Bool)
    (hgov : gov.current ≠ .default) (henabled : igpu.enabled = true)
    (hcpu : energies.cpu = some cpuEnergy) (higpu : energies.igpu = some igpuEnergy) :
    checkIgpuEnergy config energies ok (gov, igpu) =
      (if cpuEnergy - igpu.lastCpuEnergyUj = 0 then gov
        else if config.getIgpuPowerThreshold.isLt
          (energyRatio (igpuEnergy - igpu.lastIgpuEnergyUj)
            (cpuEnergy - igpu.lastCpuEnergyUj)) then
          (setGovernor config .igpuDesired ok gov).2
        else (setGovernor config .desired ok gov).2,
        ⟨true, cpuEnergy, igpuEnergy⟩) := by
  simp only [checkIgpuEnergy, hgov, henabled, hcpu, higpu, if_false, not_true_eq_false]
  split_ifs <;> rfl

theorem checkIgpuEnergy_of_idle (ok : Bool) (h : gov.current = .default ∨ igpu.enabled = false) :
    checkIgpuEnergy config energies ok (gov, igpu) = (gov, igpu) := by
  rcases h with hgov | hdisabled
  · simp [checkIgpuEnergy, hgov]
  · simp [checkIgpuEnergy, hdisabled]

theorem getIgpuPowerThreshold_of_fin {t : ℚ} (h : config.igpuPowerThreshold = .fin t)
    (ht : 0 ≤ t) : config.getIgpuPowerThreshold = .fin t := by
  have hnonneg : (CFloat.fin t).isNegative = false := decide_eq_false (not_lt.2 ht)
  rw [Config.getIgpuPowerThreshold, h, hnonneg, if_neg (by simp)]

/-- The ratio of two differences, as a `double`, exceeds a `float` when their quotient does, unless
the quotient is so close above the `float` that it is rounded down to it. -/
theorem lt_energyRatio_iff_of_clear {igpuDelta cpuDelta : UInt32} {t : ℚ} (ht : IsFloat t)
    (hnonneg : 0 ≤ t) (hpos : 0 < cpuDelta.toNat)
    (hclear : 0 < t → t < (igpuDelta.toNat : ℚ) / cpuDelta.toNat →
      t + Rounding.ulp 53 t / 2 < (igpuDelta.toNat : ℚ) / cpuDelta.toNat) :
    t < energyRatio igpuDelta cpuDelta ↔ t * cpuDelta.toNat < igpuDelta.toNat := by
  rw [← lt_div_iff₀ (Nat.cast_pos.2 hpos : (0 : ℚ) < cpuDelta.toNat)]
  rcases hnonneg.eq_or_lt with rfl | hpositive
  · rcases Nat.eq_zero_or_pos igpuDelta.toNat with hzero | higpu
    · rw [energyRatio_of_eq_zero hzero, hzero, Nat.cast_zero, zero_div]
    · exact iff_of_true (energyRatio_pos hpos higpu)
        (div_pos (Nat.cast_pos.2 higpu) (Nat.cast_pos.2 hpos))
  · rw [lt_energyRatio_iff ht hpositive]
    have hulp := Rounding.ulp_pos 53 t
    exact ⟨fun h => by linarith, hclear hpositive⟩

/-- A quotient that is rounded down to the default threshold. -/
example : (10066330 / 33554432 : ℚ) * 4286578683 < 1285973656 ∧
    energyRatio 1285973656 4286578683 = 10066330 / 33554432 := by
  decide +kernel

/-- The decision from the differences of the readings. -/
theorem checkIgpuEnergy_of_delta {cpuEnergy igpuEnergy : UInt32} {used usedIgpu : ℕ} {t : ℚ}
    (hgov : gov.current ≠ .default) (henabled : igpu.enabled = true)
    (hcpu : energies.cpu = some cpuEnergy) (higpu : energies.igpu = some igpuEnergy)
    (hused : (cpuEnergy - igpu.lastCpuEnergyUj).toNat = used)
    (husedIgpu : (igpuEnergy - igpu.lastIgpuEnergyUj).toNat = usedIgpu)
    (ht : config.igpuPowerThreshold = .fin t) (hfloat : IsFloat t) (hnonneg : 0 ≤ t)
    (hpos : 0 < used)
    (hclear : 0 < t → t < (usedIgpu : ℚ) / used →
      t + Rounding.ulp 53 t / 2 < (usedIgpu : ℚ) / used) :
    (checkIgpuEnergy config energies true (gov, igpu)).1.current =
      if t * used < usedIgpu then .igpuDesired else .desired := by
  have hne : cpuEnergy - igpu.lastCpuEnergyUj ≠ 0 := by
    intro hzero
    rw [hzero] at hused
    exact hpos.ne hused
  have hratio : t < energyRatio (igpuEnergy - igpu.lastIgpuEnergyUj)
      (cpuEnergy - igpu.lastCpuEnergyUj) ↔ t * used < usedIgpu := by
    subst hused husedIgpu
    exact lt_energyRatio_iff_of_clear hfloat hnonneg hpos hclear
  rw [checkIgpuEnergy_of_some true hgov henabled hcpu higpu, if_neg hne,
    getIgpuPowerThreshold_of_fin ht hnonneg]
  simp only [CFloat.isLt, decide_eq_true_eq, hratio]
  split_ifs
  · exact SavedSetting.set_current_of_ok _ _ _ _ (SavedSetting.set_fst_true _ _ _)
  · exact SavedSetting.set_current_of_ok _ _ _ _ (SavedSetting.set_fst_true _ _ _)

end Decision

/-! ### Runs with their energies -/

/-- The energies used so far, in microjoules. -/
structure TrueEnergies where
  /-- By the CPU. -/
  cpu : ℕ
  /-- By the integrated GPU. -/
  igpu : ℕ

/-- Two energies that grow by less than the range of the readings. -/
structure TrueEnergies.Grows (e e' : TrueEnergies) : Prop where
  cpu_le : e.cpu ≤ e'.cpu
  cpu_lt : e'.cpu - e.cpu < 2 ^ 32
  igpu_le : e.igpu ≤ e'.igpu
  igpu_lt : e'.igpu - e.igpu < 2 ^ 32

/-- The counters of the CPU and of the integrated GPU. -/
structure EnergyMeters where
  /-- The counter of the CPU. -/
  cpu : EnergyMeter
  /-- The counter of the integrated GPU. -/
  igpu : EnergyMeter

namespace EnergyMeters

variable (meters : EnergyMeters)

/-- What was read is what the counters show. -/
structure Read (e : TrueEnergies) (energies : Energies) : Prop where
  cpu : ∃ zones, energies.cpu = getCpuEnergyUj zones ∧
    Shows zones "core".toList (meters.cpu.shown e.cpu)
  igpu : ∃ zones, energies.igpu = getIgpuEnergyUj zones ∧
    Shows zones "uncore".toList (meters.igpu.shown e.igpu)

/-- What the counters show fits a `long long`. -/
structure Fit (e : TrueEnergies) : Prop where
  cpu : (meters.cpu.shown e.cpu : ℤ) ≤ CString.longMax
  igpu : (meters.igpu.shown e.igpu : ℤ) ≤ CString.longMax

variable {meters} {e : TrueEnergies} {energies : Energies}

theorem Read.cpu_eq (h : meters.Read e energies) (hfit : meters.Fit e) :
    energies.cpu = some (meters.cpu.reading e.cpu) := by
  obtain ⟨zones, heq, hshows⟩ := h.cpu
  rw [heq, getCpuEnergyUj, getEnergyUj_of_shows hshows (by decide) hfit.cpu]
  rfl

theorem Read.igpu_eq (h : meters.Read e energies) (hfit : meters.Fit e) :
    energies.igpu = some (meters.igpu.reading e.igpu) := by
  obtain ⟨zones, heq, hshows⟩ := h.igpu
  rw [heq, getIgpuEnergyUj, getEnergyUj_of_shows hshows (by decide) hfit.igpu]
  rfl

end EnergyMeters

/-- A phase, and the energies that were used at the last reading. -/
structure MeteredPhase where
  /-- The phase. -/
  phase : Phase
  /-- The energies at the last reading. -/
  last : TrueEnergies

/-- Whether a pivot reads the energies. -/
def Phase.reads (s : Phase) : Pivot → Bool
  | .enter o =>
    (setGovernor s.settings.config .desired o.governorSet (storeGovernor s.settings.governor)).1 &&
      s.settings.config.getIgpuPowerThreshold.isLt 10000
  | .energy _ => s.settings.governor.current ≠ .default && s.settings.igpu.enabled
  | .leave _ | .reread _ => false

variable (files : CpuSysfs)

/-- A pivot as a step, at the time when some energies are used. -/
def meteredStep (s : MeteredPhase) (a : Pivot × TrueEnergies) : Option MeteredPhase :=
  (pivotStep files s.phase a.1).map fun phase =>
    ⟨phase, if s.phase.reads a.1 then a.2 else s.last⟩

section Guards

variable (meters : EnergyMeters) (s : MeteredPhase)

/-- What is read is what the counters show, the energies grow by less than the range of the readings
from one reading to the next, and the commands that set a governor succeed. -/
def Sampled : Pivot × TrueEnergies → Prop
  | (.enter o, e) => meters.Read e o.energies ∧ o.governorSet = true
  | (.energy env, e) =>
    meters.Read e env.energies ∧ (s.phase.reads (.energy env) = true → s.last.Grows e) ∧
      env.igpuGovernorSet = true
  | (.leave o, _) => o.governorSet = true
  | (.reread _, _) => True

/-- No counter starts again since the last reading, unless its range is a multiple of the one of the
readings, and what the counters show fits a `long long`. -/
def KeepsCounts : Pivot × TrueEnergies → Prop
  | (.enter _, e) => meters.Fit e
  | (.energy env, e) =>
    s.phase.reads (.energy env) = true → meters.Fit e ∧
      meters.cpu.KeepsCount s.last.cpu e.cpu ∧ meters.igpu.KeepsCount s.last.igpu e.igpu
  | (.leave _, _) | (.reread _, _) => True

/-- The iGPU energy used since the last reading, in units of the CPU energy. -/
def MeteredPhase.ratio (e : TrueEnergies) : ℚ :=
  ((e.igpu : ℚ) - s.last.igpu) / ((e.cpu : ℚ) - s.last.cpu)

/-- The ratio of the energies that were used since the last reading does not exceed the threshold by
half a unit in the last place of a `double` at most. -/
def ClearsThreshold : Pivot × TrueEnergies → Prop
  | (.energy env, e) =>
    s.phase.reads (.energy env) = true → s.last.cpu < e.cpu →
      ∀ t : ℚ, s.phase.settings.config.igpuPowerThreshold = .fin t → 0 < t → t < s.ratio e →
        t + Rounding.ulp 53 t / 2 < s.ratio e
  | (.enter _, _) | (.leave _, _) | (.reread _, _) => True

/-- The decision of a check, from `s` to `s'`, is the one that the true energies call for. -/
structure DecidesTruly (e : TrueEnergies) (s' : MeteredPhase) : Prop where
  outside : s.phase.active = false → s'.phase.settings.governor = s.phase.settings.governor
  unused : s.phase.settings.igpu.enabled = true → e.cpu = s.last.cpu →
    s'.phase.settings.governor = s.phase.settings.governor
  used : s.phase.active = true → s.phase.settings.igpu.enabled = true → s.last.cpu < e.cpu →
    ∀ t : ℚ, s.phase.settings.config.igpuPowerThreshold = .fin t → IsFloat t → 0 ≤ t →
      s'.phase.settings.governor.current =
        if t * ((e.cpu : ℚ) - s.last.cpu) < (e.igpu : ℚ) - s.last.igpu then .igpuDesired
        else .desired

/-- The last readings are those of the last energies, while the heuristic is enabled. -/
structure Tracks : Prop where
  current_ne : s.phase.active = true → s.phase.settings.governor.current ≠ .default
  disabled : s.phase.active = false → s.phase.settings.igpu.enabled = false
  lastCpu : s.phase.settings.igpu.enabled = true →
    s.phase.settings.igpu.lastCpuEnergyUj = meters.cpu.reading s.last.cpu
  lastIgpu : s.phase.settings.igpu.enabled = true →
    s.phase.settings.igpu.lastIgpuEnergyUj = meters.igpu.reading s.last.igpu

end Guards

section Steps

variable {files} {meters : EnergyMeters} {s s' : MeteredPhase} {e : TrueEnergies}

theorem meteredStep_energy {env : Env} (h : meteredStep files s (.energy env, e) = some s') :
    s'.phase.active = s.phase.active ∧
      (s'.phase.settings.governor, s'.phase.settings.igpu) =
        checkIgpuEnergy s.phase.settings.config env.energies env.igpuGovernorSet
          (s.phase.settings.governor, s.phase.settings.igpu) ∧
      s'.last = if s.phase.reads (.energy env) then e else s.last := by
  cases h
  exact ⟨rfl, rfl, rfl⟩

theorem reads_energy_iff {s : Phase} {env : Env} :
    s.reads (.energy env) = true ↔
      s.settings.governor.current ≠ .default ∧ s.settings.igpu.enabled = true := by
  simp [Phase.reads]

theorem meteredStep_energy_of_idle {env : Env}
    (h : meteredStep files s (.energy env, e) = some s')
    (hidle : ¬s.phase.reads (.energy env) = true) :
    s'.phase.settings.governor = s.phase.settings.governor ∧
      s'.phase.settings.igpu = s.phase.settings.igpu ∧ s'.last = s.last := by
  obtain ⟨-, hcheck, hlast⟩ := meteredStep_energy h
  rw [if_neg hidle] at hlast
  rw [reads_energy_iff, not_and_or, not_not, Bool.not_eq_true] at hidle
  rw [checkIgpuEnergy_of_idle _ hidle, Prod.mk.injEq] at hcheck
  exact ⟨hcheck.1, hcheck.2, hlast⟩

/-- What a check with a reading does. -/
theorem meteredStep_energy_of_reads {env : Env}
    (h : meteredStep files s (.energy env, e) = some s')
    (hreads : s.phase.reads (.energy env) = true) (hsampled : meters.Read e env.energies)
    (hfit : meters.Fit e) :
    s'.phase.settings.igpu = ⟨true, meters.cpu.reading e.cpu, meters.igpu.reading e.igpu⟩ ∧
      s'.phase.settings.governor.current ≠ .default ∧ s'.last = e := by
  obtain ⟨-, hcheck, hlast⟩ := meteredStep_energy h
  rw [if_pos hreads] at hlast
  rw [reads_energy_iff] at hreads
  have hcurrent : ∀ gov : GameModeGovernor, gov ≠ .default →
      (setGovernor s.phase.settings.config gov env.igpuGovernorSet
        s.phase.settings.governor).2.current ≠ .default := by
    intro gov hgov
    rcases SavedSetting.set_current_eq_or s.phase.settings.governor gov _ env.igpuGovernorSet
      with heq | heq
    · exact heq.trans_ne hgov
    · exact heq.trans_ne hreads.1
  rw [checkIgpuEnergy_of_some _ hreads.1 hreads.2 (hsampled.cpu_eq hfit) (hsampled.igpu_eq hfit),
    Prod.mk.injEq] at hcheck
  refine ⟨hcheck.2, ?_, hlast⟩
  rw [hcheck.1]
  split_ifs
  · exact hreads.1
  · exact hcurrent .igpuDesired (by decide)
  · exact hcurrent .desired (by decide)

/-- Entering game mode keeps the readings as the baseline, if it enables the heuristic. -/
theorem tracks_contextEnter {o : Outcomes} (hsampled : Sampled meters s (.enter o, e))
    (hfit : KeepsCounts meters s (.enter o, e))
    (hdisabled : s.phase.settings.igpu.enabled = false) :
    Tracks meters ⟨⟨true, (contextEnter files o s.phase.settings).settings⟩,
      if s.phase.reads (.enter o) then e else s.last⟩ := by
  obtain ⟨hread, hok⟩ := hsampled
  have hset : (setGovernor s.phase.settings.config .desired o.governorSet
      (storeGovernor s.phase.settings.governor)).1 = true := by
    rw [hok]
    exact SavedSetting.set_fst_true _ _ _
  have hcurrent : (contextEnter files o s.phase.settings).governor.current = .desired := by
    rw [contextEnter_governor]
    exact SavedSetting.set_current_of_ok _ _ _ _ hset
  have higpu : (contextEnter files o s.phase.settings).igpu =
      enableIgpuOptimization s.phase.settings.config o.energies s.phase.settings.igpu :=
    if_pos hset
  have hreads : s.phase.reads (.enter o) =
      s.phase.settings.config.getIgpuPowerThreshold.isLt 10000 := by
    rw [Phase.reads, hset, Bool.true_and]
  have hcurrent_ne : (contextEnter files o s.phase.settings).settings.governor.current ≠
      .default := by
    rw [settings_governor, hcurrent]
    decide
  by_cases hlt : s.phase.settings.config.getIgpuPowerThreshold.isLt 10000
  · have henabled : (contextEnter files o s.phase.settings).igpu =
        ⟨true, meters.cpu.reading e.cpu, meters.igpu.reading e.igpu⟩ := by
      rw [higpu, enableIgpuOptimization, if_pos hlt, hread.cpu_eq hfit, hread.igpu_eq hfit]
    rw [hreads, if_pos hlt]
    refine ⟨fun _ => hcurrent_ne, fun h => absurd h (by simp), fun _ => ?_, fun _ => ?_⟩
    · exact congrArg IgpuState.lastCpuEnergyUj henabled
    · exact congrArg IgpuState.lastIgpuEnergyUj henabled
  · have hstill : (contextEnter files o s.phase.settings).settings.igpu.enabled = false := by
      change (contextEnter files o s.phase.settings).igpu.enabled = false
      rw [higpu, enableIgpuOptimization, if_neg hlt]
      exact hdisabled
    refine ⟨fun _ => hcurrent_ne, fun _ => hstill, fun h => ?_, fun h => ?_⟩
    · rw [hstill] at h
      exact absurd h (by decide)
    · rw [hstill] at h
      exact absurd h (by decide)

/-- A step keeps the last readings those of the last energies. -/
theorem Tracks.meteredStep (h : Tracks meters s) {a : Pivot × TrueEnergies}
    (hsampled : Sampled meters s a) (hkeeps : KeepsCounts meters s a)
    (hstep : meteredStep files s a = some s') : Tracks meters s' := by
  obtain ⟨p, e⟩ := a
  have hmetered := hstep
  rw [GameMode.meteredStep, Option.map_eq_some_iff] at hstep
  obtain ⟨phase, hpivot, rfl⟩ := hstep
  rcases pivotStep_cases files hpivot with
    ⟨o, rfl, hactive, rfl⟩ | ⟨o, rfl, hactive, rfl⟩ | ⟨env, rfl, hactive, rfl⟩ | ⟨env, rfl, rfl⟩
  · exact tracks_contextEnter hsampled hkeeps (h.disabled hactive)
  · -- leaving turns the heuristic off
    refine ⟨fun hno => ?_, fun _ => rfl, fun hno => ?_, fun hno => ?_⟩ <;>
      exact absurd hno Bool.false_ne_true
  · exact ⟨fun hno => absurd hno Bool.false_ne_true, fun _ => h.disabled hactive, h.lastCpu,
      h.lastIgpu⟩
  · by_cases hreads : s.phase.reads (.energy env) = true
    · obtain ⟨hread, -, -⟩ := hsampled
      obtain ⟨hfit, -⟩ := hkeeps hreads
      obtain ⟨higpu, hcurrent, -⟩ := meteredStep_energy_of_reads hmetered hreads hread hfit
      have hactive : s.phase.active = true := by
        by_contra hno
        have hdisabled := h.disabled (Bool.eq_false_of_not_eq_true hno)
        exact absurd (hdisabled.symm.trans (reads_energy_iff.1 hreads).2) (by decide)
      refine ⟨fun _ => hcurrent, fun hno => ?_, fun _ => ?_, fun _ => ?_⟩
      · exact absurd (hno.symm.trans hactive) (by decide)
      · rw [if_pos hreads]
        exact congrArg IgpuState.lastCpuEnergyUj higpu
      · rw [if_pos hreads]
        exact congrArg IgpuState.lastIgpuEnergyUj higpu
    · obtain ⟨hgov, higpu, -⟩ := meteredStep_energy_of_idle hmetered hreads
      dsimp only at hgov higpu
      rw [if_neg hreads]
      refine ⟨fun hactive => ?_, fun hactive => ?_, fun henabled => ?_, fun henabled => ?_⟩
      · rw [hgov]
        exact h.current_ne hactive
      · rw [higpu]
        exact h.disabled hactive
      · rw [higpu] at henabled ⊢
        exact h.lastCpu henabled
      · rw [higpu] at henabled ⊢
        exact h.lastIgpu henabled

/-- A check decides as the true energies call for when no counter starts again. -/
theorem Tracks.decidesTruly (h : Tracks meters s)
    (hrange : 2 ^ 32 < meters.cpu.range ∧ 2 ^ 32 < meters.igpu.range) {env : Env}
    (hsampled : Sampled meters s (.energy env, e)) (hkeeps : KeepsCounts meters s (.energy env, e))
    (hclears : ClearsThreshold s (.energy env, e))
    (hstep : GameMode.meteredStep files s (.energy env, e) = some s') : DecidesTruly s e s' := by
  obtain ⟨hread, hgrows, hok⟩ := hsampled
  by_cases hreads : s.phase.reads (.energy env) = true
  · obtain ⟨hcurrent, henabled⟩ := reads_energy_iff.1 hreads
    obtain ⟨hfit, hcpu, higpu⟩ := hkeeps hreads
    have hgrows := hgrows hreads
    have hdelta : (meters.cpu.reading e.cpu - s.phase.settings.igpu.lastCpuEnergyUj).toNat =
        e.cpu - s.last.cpu := by
      rw [h.lastCpu henabled]
      exact (EnergyMeter.delta_eq_iff hrange.1 hgrows.cpu_le hgrows.cpu_lt).2 hcpu
    have hdeltaIgpu : (meters.igpu.reading e.igpu - s.phase.settings.igpu.lastIgpuEnergyUj).toNat =
        e.igpu - s.last.igpu := by
      rw [h.lastIgpu henabled]
      exact (EnergyMeter.delta_eq_iff hrange.2 hgrows.igpu_le hgrows.igpu_lt).2 higpu
    obtain ⟨-, hcheck, -⟩ := meteredStep_energy hstep
    have hgov := congrArg Prod.fst hcheck
    refine ⟨fun hno => ?_, fun _ hunused => ?_, fun _ _ hused t ht hfloat hnonneg => ?_⟩
    · exact absurd ((h.disabled hno).symm.trans henabled) (by decide)
    · have hzero : meters.cpu.reading e.cpu - s.phase.settings.igpu.lastCpuEnergyUj = 0 := by
        rw [← UInt32.toNat_inj, hdelta, hunused, Nat.sub_self]
        rfl
      rw [checkIgpuEnergy_of_some _ hcurrent henabled (hread.cpu_eq hfit) (hread.igpu_eq hfit),
        if_pos hzero] at hgov
      exact hgov
    · have hdecision := checkIgpuEnergy_of_delta hcurrent henabled (hread.cpu_eq hfit)
        (hread.igpu_eq hfit) hdelta hdeltaIgpu ht hfloat hnonneg (Nat.sub_pos_of_lt hused)
      rw [Nat.cast_sub hused.le, Nat.cast_sub hgrows.igpu_le] at hdecision
      have hdecision := hdecision fun hpos => hclears hreads hused t ht hpos
      rw [hok] at hgov
      exact (congrArg SavedSetting.current hgov).trans hdecision
  · obtain ⟨hgov, -, -⟩ := meteredStep_energy_of_idle hstep hreads
    refine ⟨fun _ => hgov, fun _ _ => hgov, fun hactive henabled => ?_⟩
    exact absurd (reads_energy_iff.2 ⟨h.current_ne hactive, henabled⟩) hreads

end Steps

/-- **True decisions.** From a phase outside of game mode, in every run of samples in which no
counter starts again between two readings and no ratio is rounded down to the threshold, every check
decides as the true energies call for. -/
theorem decidesTruly_of_keepsCounts (files : CpuSysfs) {meters : EnergyMeters}
    (hrange : 2 ^ 32 < meters.cpu.range ∧ 2 ^ 32 < meters.igpu.range) {s : MeteredPhase}
    (hoff : s.phase.active = false ∧ s.phase.settings.igpu.enabled = false)
    {run : List (Pivot × TrueEnergies)}
    (hsampled : StepsAlong (meteredStep files) s run (Sampled meters))
    (hkeeps : StepsAlong (meteredStep files) s run (KeepsCounts meters))
    (hclears : StepsAlong (meteredStep files) s run ClearsThreshold) :
    StepsAlong (meteredStep files) s run fun s a =>
      ∀ env s', a.1 = .energy env → meteredStep files s a = some s' → DecidesTruly s a.2 s' := by
  have hstart : Tracks meters s := by
    refine ⟨fun hno => ?_, fun _ => hoff.2, fun hno => ?_, fun hno => ?_⟩
    · exact absurd (hoff.1.symm.trans hno) (by decide)
    · exact absurd (hoff.2.symm.trans hno) (by decide)
    · exact absurd (hoff.2.symm.trans hno) (by decide)
  refine StepsAlong.of_invariant (I := Tracks meters)
    (fun s a s' h hguard hstep => h.meteredStep hguard.1 hguard.2.1 hstep)
    (fun s a h hguard env s' henergy hstep => ?_) hstart (hsampled.and (hkeeps.and hclears))
  obtain ⟨p, e⟩ := a
  dsimp only at henergy
  subst henergy
  exact h.decidesTruly hrange hguard.1 hguard.2.1 hguard.2.2 hstep

/-! ### Two readings -/

section Samples

private def usualMeters : EnergyMeters := ⟨⟨262143328850⟩, ⟨262143328850⟩⟩

private def zonesOf (e : TrueEnergies) : List RaplZone :=
  [⟨some "core\n".toList, some (CString.decimal (usualMeters.cpu.shown e.cpu) ++ ['\n'])⟩,
    ⟨some "uncore\n".toList, some (CString.decimal (usualMeters.igpu.shown e.igpu) ++ ['\n'])⟩]

private def energiesOf (e : TrueEnergies) : Energies :=
  ⟨getCpuEnergyUj (zonesOf e), getIgpuEnergyUj (zonesOf e)⟩

private theorem read_energiesOf (e : TrueEnergies) : usualMeters.Read e (energiesOf e) where
  cpu := ⟨zonesOf e, rfl, [], _, _, rfl, by simp, rfl, rfl⟩
  igpu := by
    refine ⟨zonesOf e, rfl, [_], _, [], rfl, ?_, rfl, rfl⟩
    rw [List.forall_mem_singleton]
    exact ⟨"core".toList, rfl, by decide⟩

private def sampleStart : MeteredPhase :=
  ⟨startPhase .unreadable ∅ Config.initial
    (.plain "powersave".toList "balanced".toList {0, 1} []), ⟨0, 0⟩⟩

private def sampleRun (e e' : TrueEnergies) : List (Pivot × TrueEnergies) :=
  [(.enter { Outcomes.succeeding with energies := energiesOf e }, e),
    (.energy { Env.succeeding Config.initial with energies := energiesOf e' }, e')]

private theorem reads_sampleStart (energies : Energies) :
    sampleStart.phase.reads (.enter { Outcomes.succeeding with energies := energies }) = true := by
  rw [Phase.reads, Bool.and_eq_true]
  exact ⟨SavedSetting.set_fst_true _ _ _, by decide +kernel⟩

private theorem sampled_sampleRun {e e' : TrueEnergies} (h : e.Grows e') :
    StepsAlong (meteredStep .unreadable) sampleStart (sampleRun e e') (Sampled usualMeters) := by
  rw [sampleRun, stepsAlong_cons_iff]
  refine ⟨⟨read_energiesOf e, rfl⟩, fun s hs => ?_⟩
  cases hs
  rw [stepsAlong_cons_iff]
  refine ⟨⟨read_energiesOf e', fun _ => ?_, rfl⟩, fun s _ => stepsAlong_nil s _⟩
  change (if _ then e else sampleStart.last).Grows e'
  rw [if_pos (reads_sampleStart _)]
  exact h

private theorem keepsCounts_sampleRun {e e' : TrueEnergies} (hfit : usualMeters.Fit e)
    (hfit' : usualMeters.Fit e') (hcpu : usualMeters.cpu.KeepsCount e.cpu e'.cpu)
    (higpu : usualMeters.igpu.KeepsCount e.igpu e'.igpu) :
    StepsAlong (meteredStep .unreadable) sampleStart (sampleRun e e')
      (KeepsCounts usualMeters) := by
  rw [sampleRun, stepsAlong_cons_iff]
  refine ⟨hfit, fun s hs => ?_⟩
  cases hs
  rw [stepsAlong_cons_iff]
  refine ⟨fun _ => ?_, fun s _ => stepsAlong_nil s _⟩
  change _ ∧ usualMeters.cpu.KeepsCount (if _ then e else sampleStart.last).cpu e'.cpu ∧
    usualMeters.igpu.KeepsCount (if _ then e else sampleStart.last).igpu e'.igpu
  rw [if_pos (reads_sampleStart _)]
  exact ⟨hfit', hcpu, higpu⟩

private theorem clearsThreshold_sampleRun {e e' : TrueEnergies}
    (hclear : (10066330 / 33554432 : ℚ) + Rounding.ulp 53 (10066330 / 33554432) / 2 <
      ((e'.igpu : ℚ) - e.igpu) / ((e'.cpu : ℚ) - e.cpu)) :
    StepsAlong (meteredStep .unreadable) sampleStart (sampleRun e e') ClearsThreshold := by
  rw [sampleRun, stepsAlong_cons_iff]
  refine ⟨trivial, fun s hs => ?_⟩
  cases hs
  rw [stepsAlong_cons_iff]
  refine ⟨fun _ _ t ht _ _ => ?_, fun s _ => stepsAlong_nil s _⟩
  cases ht
  simpa only [MeteredPhase.ratio, if_pos (reads_sampleStart _)] using hclear

end Samples

/-- Two readings between which no counter starts again. -/
theorem decidesTruly_of_twoReadings :
    StepsAlong (meteredStep .unreadable) sampleStart (sampleRun ⟨0, 0⟩ ⟨100, 1000⟩) fun s a =>
      ∀ env s', a.1 = .energy env → meteredStep .unreadable s a = some s' → DecidesTruly s a.2 s' :=
  @decidesTruly_of_keepsCounts .unreadable usualMeters (by decide) sampleStart ⟨rfl, rfl⟩
    (sampleRun ⟨0, 0⟩ ⟨100, 1000⟩)
    (sampled_sampleRun ⟨by decide, by decide, by decide, by decide⟩)
    (keepsCounts_sampleRun ⟨by decide, by decide⟩ ⟨by decide, by decide⟩ (Or.inl (by decide))
      (Or.inl (by decide)))
    (clearsThreshold_sampleRun (by decide +kernel))

/-- When the counter of the CPU starts again, its energy is taken for a large one: the integrated
GPU used ten times the energy of the CPU, and the governor is not the one for it. -/
theorem not_decidesTruly :
    ∃ (meters : EnergyMeters) (s : MeteredPhase) (run : List (Pivot × TrueEnergies)),
      2 ^ 32 < meters.cpu.range ∧ meters.igpu = meters.cpu ∧
      s.phase.active = false ∧ s.phase.settings.igpu.enabled = false ∧
      StepsAlong (meteredStep .unreadable) s run (Sampled meters) ∧
      ¬StepsAlong (meteredStep .unreadable) s run fun s a => ∀ env s', a.1 = .energy env →
        meteredStep .unreadable s a = some s' → DecidesTruly s a.2 s' := by
  refine ⟨usualMeters, sampleStart, sampleRun ⟨262143328849, 0⟩ ⟨262143328949, 1000⟩, by decide,
    rfl, rfl, rfl, sampled_sampleRun ⟨by decide, by decide, by decide, by decide⟩, fun h => ?_⟩
  rw [sampleRun, stepsAlong_cons_iff] at h
  have hdecides := (stepsAlong_cons_iff.1 (h.2 _ rfl)).1 _ _ rfl rfl
  have hcurrent := hdecides.used rfl (by decide +kernel) (by decide +kernel)
    (10066330 / 33554432) rfl ⟨10066330, -25, by norm_num, by norm_num⟩ (by norm_num)
  exact absurd hcurrent (by decide +kernel)

end GameMode
