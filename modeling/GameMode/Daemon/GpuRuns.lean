import GameMode.Daemon.Pivots

/-!
# GPU settings over whole runs

The daemon holds two descriptions of the GPU: the settings that the configuration asks for, and the
stored ones, which are written back when game mode is left. The stored description starts as a copy
of the other one, and is read again whenever game mode is entered. A read that fails leaves it as it
is, with the settings of the daemon in it when no read succeeded before; and a read after a restore
that failed finds the settings of the daemon.

## Main definitions

* `GameModeGPUInfo.Reversible`: the settings of a card can be read, changed and put back.
* `GpuPutBack`, `GpuPutBackAtEnd`: a leave, and an operation that removes the last game, puts the
  settings back.
* `GpuUndisturbed`: what entering game mode relies on.

## Main results

* `applyGpu_stored`: writing back a description of the card, whether or not it was changed.
* `gpuPutBack_pivots`, `gpuPutBack_along`: runs in which the settings are put back.

Source: `daemon/gamemode-gpu.c`; `daemon/gamemode-context.c`, `game_mode_context_init`,
`game_mode_context_enter` and `game_mode_context_leave`.
-/

namespace GameMode

/-! ### Changing a card and putting it back -/

/-- The helper does not take an AMD card for an NVIDIA GPU that is described. The number of the card
is cut to three characters on its way. -/
def GameModeGPUInfo.Aims (info : GameModeGPUInfo) (vendorFile : ℤ → Option ℤ) : Prop :=
  info.vendor = .nvidia → ∀ device, getDevice (printLong 4 info.device) = some device →
    gamemodeGetGpuVendor vendorFile device ≠ some .amd

/-- The settings of the card can be read, changed to the described ones, and put back. -/
structure GameModeGPUInfo.Reversible (target : GameModeGPUInfo) (sys : GpuSystem) : Prop where
  aims : target.Aims sys.vendorFile
  readable : target.Readable sys
  returns : target.Returns sys

section Apply

variable {target stored : GameModeGPUInfo} {sys : GpuSystem}

/-- The helper changes no card when it addresses none of the vendor described. -/
theorem applyGpu_of_card_eq_none {info : GameModeGPUInfo} (hcard : info.card sys.vendorFile = none)
    (haims : info.Aims sys.vendorFile)
    (hlevel : info.vendor ≠ .amd → info.amdPerformanceLevel = []) (ok : Bool) :
    applyGpu (some info) ok sys = sys := by
  cases ok with
  | false => exact applyGpu_false _ _
  | true =>
    cases hdevice : getDevice (printLong 4 info.device) with
    | none => simp [applyGpu, gpuclockctlSet, hdevice]
    | some device =>
      have hne : gamemodeGetGpuVendor sys.vendorFile device ≠ some info.vendor := by
        intro hvendor
        rw [GameModeGPUInfo.card_eq_some_iff.2 ⟨hdevice, hvendor⟩] at hcard
        cases hcard
      cases hcase : gamemodeGetGpuVendor sys.vendorFile device with
      | none => simp [applyGpu, gpuclockctlSet, hdevice, hcase]
      | some vendor =>
        rw [hcase, Ne, Option.some_inj] at hne
        cases vendor with
        | nvidia =>
          -- one argument is too few for an NVIDIA GPU
          have hargs : info.applyArgs.drop 4 = [info.amdPerformanceLevel] := by
            cases hvendor : info.vendor with
            | nvidia => exact absurd hvendor.symm hne
            | amd | intel => simp [GameModeGPUInfo.applyArgs, hvendor]
          simp [applyGpu, gpuclockctlSet, hdevice, hcase, hargs]
        | amd =>
          have hvendor : info.vendor = .intel := by
            cases hvendor : info.vendor with
            | nvidia => exact absurd hcase (haims hvendor device hdevice)
            | amd => exact absurd hvendor.symm hne
            | intel => rfl
          simp [applyGpu, gpuclockctlSet, hdevice, hcase, GameModeGPUInfo.applyArgs, hvendor,
            hlevel, CString.truncate, GpuSystem.setGpuStateAmd]
        | intel => simp [applyGpu, gpuclockctlSet, hdevice, hcase]

variable (hreversible : target.Reversible sys)
  (hlevel : target.vendor ≠ .amd → target.amdPerformanceLevel = [])

include hreversible hlevel

/-- The settings described are set, or the card is as it was. -/
theorem applyGpu_target (ok ok' : Bool) :
    ∃ ok'', applyGpu (some target) ok' (applyGpu (some target) ok sys) =
      applyGpu (some target) ok'' sys := by
  cases ok' with
  | false => exact ⟨ok, applyGpu_false _ _⟩
  | true =>
    refine ⟨true, ?_⟩
    cases ok with
    | false => rw [applyGpu_false]
    | true =>
      cases hcard : target.card sys.vendorFile with
      | none => simp only [applyGpu_of_card_eq_none hcard hreversible.aims hlevel]
      | some device => exact applyGpu_self hcard

/-- **Writing back.** Writing back a description of the card puts it back, whether or not the
settings were changed. -/
theorem applyGpu_stored (hsame : stored.SameCard target) (hdescribes : stored.Describes sys)
    (ok : Bool) : applyGpu (some stored) true (applyGpu (some target) ok sys) = sys := by
  cases hcard : target.card sys.vendorFile with
  | none =>
    have haims : stored.Aims sys.vendorFile := by
      rw [GameModeGPUInfo.Aims, hsame.vendor, hsame.device]
      exact hreversible.aims
    rw [applyGpu_of_card_eq_none hcard hreversible.aims hlevel,
      applyGpu_of_card_eq_none ((hsame.card _).trans hcard) haims]
    intro hne
    rw [hsame.vendor] at hne
    rw [hsame.amdPerformanceLevel hne, hlevel hne]
  | some device =>
    cases ok with
    | false =>
      rw [applyGpu_false]
      exact applyGpu_of_describes hcard hsame hdescribes hreversible.readable
    | true =>
      exact applyGpu_restore hcard hsame hdescribes hreversible.readable hreversible.returns

end Apply

/-! ### Runs -/

variable (files : CpuSysfs)

/-- A leave whose set command succeeds puts the GPU settings back. -/
def GpuPutBack (original : GpuSystem) (s : Phase) (p : Pivot) : Prop :=
  ∀ o, p = .leave o → o.gpuSet = true →
    ∀ t, pivotStep files s p = some t → t.settings.gpu = original

/-- An operation that removes the last game puts the GPU settings back if its set command
succeeds. -/
def GpuPutBackAtEnd (original : GpuSystem) (w : World) (a : ContextOp × Env) : Prop :=
  w.refcount ≠ 0 → a.2.leave.gpuSet = true →
    ∀ w', contextStep files w a = some w' → w'.refcount = 0 → w'.gpu = original

/-- Entering game mode finds what it relies on: a read that succeeds finds the original settings,
and after one that fails the stored description holds the original settings already. -/
def GpuUndisturbed (original : GpuSystem) (s : Phase) (p : Pivot) : Prop :=
  ∀ o, p = .enter o →
    if o.gpuGet then s.settings.gpu = original
    else ∀ stored ∈ s.settings.storedGpu, stored.Describes original

/-- The settings are the original ones or those of the configuration, and while game mode is active
the stored description holds the original ones. -/
structure Phase.GpuKept (target : GameModeGPUInfo) (original : GpuSystem) (s : Phase) : Prop where
  targetGpu : s.settings.targetGpu = some target
  gpu : ∃ ok, s.settings.gpu = applyGpu (some target) ok original
  storedGpu : ∃ stored, s.settings.storedGpu = some stored ∧ stored.SameCard target ∧
    (s.active = true → stored.Describes original)

section Steps

variable {target : GameModeGPUInfo} {original : GpuSystem} {s t : Phase} {p : Pivot}
  (hreversible : target.Reversible original)
  (hlevel : target.vendor ≠ .amd → target.amdPerformanceLevel = [])

/-- What entering game mode stores is a description of the original settings. -/
theorem Phase.GpuKept.getGpu (h : s.GpuKept target original)
    (hreadable : target.Readable original) {o : Outcomes}
    (hundisturbed : GpuUndisturbed original s (.enter o)) :
    ∃ stored, getGpu s.settings.storedGpu o.gpuGet s.settings.gpu = some stored ∧
      stored.SameCard target ∧ stored.Describes original := by
  obtain ⟨stored, hstored, hsame, -⟩ := h.storedGpu
  have hundisturbed := hundisturbed o rfl
  rw [hstored]
  cases hget : o.gpuGet with
  | false =>
    rw [hget] at hundisturbed
    exact ⟨stored, rfl, hsame, hundisturbed stored hstored⟩
  | true =>
    rw [hget] at hundisturbed
    rw [show s.settings.gpu = original from hundisturbed]
    obtain ⟨stored', hget', hsame', hdescribes⟩ :=
      getGpu_describes (hsame.readable hreadable)
    exact ⟨stored', hget', hsame'.trans hsame, hdescribes⟩

include hreversible hlevel

/-- An undisturbed pivot keeps the stored description. -/
theorem Phase.GpuKept.pivotStep (h : s.GpuKept target original)
    (hundisturbed : GpuUndisturbed original s p) (hstep : pivotStep files s p = some t) :
    t.GpuKept target original := by
  obtain ⟨ok, hgpu⟩ := h.gpu
  rcases pivotStep_cases files hstep with
    ⟨o, rfl, -, rfl⟩ | ⟨o, rfl, hactive, rfl⟩ | ⟨env, -, -, rfl⟩ | ⟨env, -, rfl⟩
  · obtain ⟨stored, hget, hsame, hdescribes⟩ := h.getGpu hreversible.readable hundisturbed
    refine ⟨h.targetGpu, ?_, stored, hget, hsame, fun _ => hdescribes⟩
    simp only [settings_gpu, contextEnter_gpu, h.targetGpu, hgpu]
    exact applyGpu_target hreversible hlevel ok o.gpuSet
  · obtain ⟨stored, hstored, hsame, hdescribes⟩ := h.storedGpu
    refine ⟨h.targetGpu, ?_, stored, hstored, hsame, fun hfalse => absurd hfalse (by simp)⟩
    simp only [settings_gpu, contextLeave_gpu, hstored, hgpu]
    cases o.gpuSet with
    | false => exact ⟨ok, applyGpu_false _ _⟩
    | true =>
      refine ⟨false, ?_⟩
      rw [applyGpu_stored hreversible hlevel hsame (hdescribes hactive), applyGpu_false]
  · obtain ⟨stored, hstored, hsame, -⟩ := h.storedGpu
    exact ⟨h.targetGpu, h.gpu, stored, hstored, hsame, fun hfalse => absurd hfalse (by simp)⟩
  · exact ⟨h.targetGpu, h.gpu, h.storedGpu⟩

theorem Phase.GpuKept.putBack (h : s.GpuKept target original) (p : Pivot) :
    GpuPutBack files original s p := by
  rintro o rfl hset t hstep
  obtain ⟨ok, hgpu⟩ := h.gpu
  obtain ⟨stored, hstored, hsame, hdescribes⟩ := h.storedGpu
  simp only [GameMode.pivotStep, Option.ite_none_right_eq_some, Option.some_inj] at hstep
  obtain ⟨hactive, rfl⟩ := hstep
  simp only [settings_gpu, contextLeave_gpu, hstored, hgpu, hset]
  exact applyGpu_stored hreversible hlevel hsame (hdescribes hactive) ok

end Steps

section Runs

variable {allocated : Finset ℕ} {config : Config} {system : OriginalSystem}
  {target : GameModeGPUInfo}
  (htarget : (initialiseGpu system.gpu.vendorFile config).2 = some target)
  (hreversible : target.Reversible system.gpu) {run : List (ContextOp × Env)}
  (hundisturbed : Runs.StepsAlong (pivotStep files) (startPhase files allocated config system)
    (runPivots files (contextInit files allocated config system) run) (GpuUndisturbed system.gpu))

include htarget hreversible hundisturbed

/-- Every leave of a run puts the settings back, also within a restart or a reload. -/
theorem gpuPutBack_pivots :
    Runs.StepsAlong (pivotStep files) (startPhase files allocated config system)
      (runPivots files (contextInit files allocated config system) run)
      (GpuPutBack files system.gpu) := by
  have hlevel := (initialiseGpu_spec htarget).2.2
  have hstart : (startPhase files allocated config system).GpuKept target system.gpu :=
    ⟨htarget, ⟨false, (applyGpu_false _ _).symm⟩, target, htarget, .refl target,
      fun hactive => absurd hactive (by simp [startPhase, Phase.of, contextInit])⟩
  exact Runs.StepsAlong.of_invariant
    (fun _ _ _ hs hG hstep => hs.pivotStep files hreversible hlevel hG hstep)
    (fun _ p hs _ => hs.putBack files hreversible hlevel p) hstart hundisturbed

/-- **GPU settings.** When the settings of the card can be changed and put back, every operation of
a run that removes the last game puts them back if its set command succeeds, provided that no
entering is disturbed. -/
theorem gpuPutBack_along :
    Runs.StepsAlong (contextStep files) (contextInit files allocated config system) run
      (GpuPutBackAtEnd files system.gpu) := by
  have hconsistent := consistent_contextInit files allocated config system
  have hpivots := stepsAlong_pivots files hconsistent
    (gpuPutBack_pivots files htarget hreversible hundisturbed)
  intro bs a hb w hexec hcount hset w' hstep hlast
  have hw : w.Consistent := Runs.exec_invariant
    (fun _ _ _ hs hstep => hs.contextStep files hstep) hconsistent hexec
  have hput : Runs.StepsAlong (pivotStep files) (Phase.of w) (pivots files w a)
      (GpuPutBack files system.gpu) := hpivots bs a hb w hexec
  have hpivot := exec_pivots files hw hstep
  rw [pivots_of_last files hw hcount hstep hlast] at hput hpivot
  rw [Runs.exec_cons, Option.bind_eq_some_iff] at hpivot
  obtain ⟨t, hleave, ht⟩ := hpivot
  have hgpu := (Runs.stepsAlong_cons_iff.1 hput).1 a.2.leave rfl hset t hleave
  rw [Runs.exec_nil, Option.some_inj] at ht
  rw [ht] at hgpu
  exact hgpu

end Runs

private def configWithOffsets : Config :=
  { Config.initial with
    string := fun option =>
      if option = .applyGpuOptimisations then "accept-responsibility".toList
      else Config.initial.string option
    long := fun option =>
      match option with
      | .gpuDevice => 0
      | .nvCoreClockMhzOffset => 100
      | .nvMemClockMhzOffset => 200
      | .nvPowermizerMode => 1
      | .nvPerProfileEditable => 1
      | option => Config.initial.long option }

private def systemWithNvidia : OriginalSystem :=
  { OriginalSystem.plain "powersave".toList "balanced".toList ∅ [] with
    gpu := ⟨fun device => if device = 0 then some GPUVendor.nvidia.id else none, fun _ => 3,
      fun _ _ => 0, fun _ => []⟩ }

private theorem reversible_systemWithNvidia {target : GameModeGPUInfo}
    (hvendor : target.vendor = .nvidia) : target.Reversible systemWithNvidia.gpu := by
  refine ⟨fun _ device _ => ?_, fun device _ => ?_, fun device _ _ s _ hminus => ?_⟩
  · by_cases hdevice : device = 0
    · simp [gamemodeGetGpuVendor, systemWithNvidia, hdevice, GPUVendor.id]
    · simp [gamemodeGetGpuVendor, systemWithNvidia, hdevice]
  · rw [hvendor]
    have hzero : FitsBuffer 4 0 := ⟨by decide, by decide⟩
    exact fun attr _ => attr.fitsBuffer hzero
  · exact absurd hminus (by decide : (0 : ℤ) ≠ -1)

private def runWithRead (get : Bool) : List (ContextOp × Env) :=
  [(.register 5 5, { Env.succeeding configWithOffsets with
      enter := { Outcomes.succeeding with gpuGet := get } }),
    (.unregister 5 5, .succeeding configWithOffsets)]

/-- A game that is registered and removed, with every command succeeding. -/
theorem gpuPutBack_of_succeeding :
    Runs.StepsAlong (contextStep .unreadable)
      (contextInit .unreadable ∅ configWithOffsets systemWithNvidia) (runWithRead true)
      (GpuPutBackAtEnd .unreadable systemWithNvidia.gpu) := by
  refine gpuPutBack_along .unreadable rfl (reversible_systemWithNvidia rfl) ?_
  change Runs.StepsAlong _ _ [Pivot.enter .succeeding, .leave .succeeding] _
  rw [Runs.stepsAlong_cons_iff]
  refine ⟨fun o ho => ?_, fun s _ => ?_⟩
  · cases ho
    rfl
  · rw [Runs.stepsAlong_cons_iff]
    exact ⟨fun o ho => absurd ho (by simp), fun _ _ => Runs.stepsAlong_nil _ _⟩

/-- When the first read fails, the leave writes the settings of the configuration again, and the
offset stays. -/
theorem not_gpuPutBack_of_failing_read :
    ¬Runs.StepsAlong (contextStep .unreadable)
        (contextInit .unreadable ∅ configWithOffsets systemWithNvidia) (runWithRead false)
        (GpuPutBackAtEnd .unreadable systemWithNvidia.gpu) ∧
      ∃ w, Runs.exec (contextStep .unreadable)
          (contextInit .unreadable ∅ configWithOffsets systemWithNvidia)
          (runWithRead false) = some w ∧
        w.pids = [] ∧ w.gpu.nv 0 (.coreOffset (some 3)) = 100 := by
  refine ⟨fun h => ?_, _, rfl, rfl, by decide⟩
  have hgpu := h [(.register 5 5, { Env.succeeding configWithOffsets with
    enter := { Outcomes.succeeding with gpuGet := false } })]
    (.unregister 5 5, .succeeding configWithOffsets) List.prefix_rfl _ rfl (by decide) rfl _ rfl rfl
  exact absurd (congrArg (fun gpu => gpu.nv 0 (.coreOffset (some 3))) hgpu) (by decide)

end GameMode
