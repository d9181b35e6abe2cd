import GameMode.Config.Load
import GameMode.Daemon.Gpu

/-!
# Unsafe files and the GPU settings

Only the files of `SYSCONFDIR` and `/etc` may set the options of the `[gpu]` section. A load is
compared here with another one that finds the same files there but anything in the home and the
current directory: no entry of an unprotected file reaches a `[gpu]` option, and since the
unprotected files come last, what they do to `errno` comes too late as well.

## Main definitions

* `GpuValues`, `Config.gpuValues`: the values of the `[gpu]` section.

## Main results

* `foldl_loadLocation_get_of_gpu`: unprotected files leave every `[gpu]` option alone.
* `initialiseGpu_eq_of_gpuValues`: the GPU settings depend on the values of the section only.
* `gpu_settings_eq_of_unsafe_files`: the home and current-directory files cannot influence them.

Source: `daemon/gamemode-config.c`, `inih_handler` and `load_config_files`; `daemon/gamemode-gpu.c`.
-/

namespace GameMode

/-- The values of the `[gpu]` section. -/
structure GpuValues where
  /-- `apply_gpu_optimisations`. -/
  applyGpuOptimisations : CString
  /-- `gpu_device`. -/
  gpuDevice : ℤ
  /-- `nv_core_clock_mhz_offset`. -/
  nvCoreClockMhzOffset : ℤ
  /-- `nv_mem_clock_mhz_offset`. -/
  nvMemClockMhzOffset : ℤ
  /-- `nv_powermizer_mode`. -/
  nvPowermizerMode : ℤ
  /-- `nv_per_profile_editable`. -/
  nvPerProfileEditable : ℤ
  /-- `amd_performance_level`. -/
  amdPerformanceLevel : CString
  deriving DecidableEq

/-- The values that a configuration has in the `[gpu]` section. -/
def Config.gpuValues (self : Config) : GpuValues where
  applyGpuOptimisations := self.string .applyGpuOptimisations
  gpuDevice := self.long .gpuDevice
  nvCoreClockMhzOffset := self.long .nvCoreClockMhzOffset
  nvMemClockMhzOffset := self.long .nvMemClockMhzOffset
  nvPowermizerMode := self.long .nvPowermizerMode
  nvPerProfileEditable := self.long .nvPerProfileEditable
  amdPerformanceLevel := self.string .amdPerformanceLevel

theorem Config.gpuValues_eq {self other : Config}
    (h : ∀ option : ScalarOption, option.sectionName = "gpu" →
      self.get option = other.get option) :
    self.gpuValues = other.gpuValues := by
  have hlong (o : LongOption) (ho : (ScalarOption.long o).sectionName = "gpu") :
      self.long o = other.long o := h (.long o) ho
  have hstring (o : StringOption) (ho : (ScalarOption.string o).sectionName = "gpu") :
      self.string o = other.string o := h (.string o) ho
  simp only [gpuValues, hlong .gpuDevice rfl, hlong .nvCoreClockMhzOffset rfl,
    hlong .nvMemClockMhzOffset rfl, hlong .nvPowermizerMode rfl,
    hlong .nvPerProfileEditable rfl, hstring .applyGpuOptimisations rfl,
    hstring .amdPerformanceLevel rfl]

/-- The GPU settings depend on the values of the section only. -/
theorem initialiseGpu_eq_of_gpuValues {config config' : Config}
    (h : config.gpuValues = config'.gpuValues) (vendorFile : ℤ → Option ℤ) :
    initialiseGpu vendorFile config = initialiseGpu vendorFile config' := by
  simp only [Config.gpuValues, GpuValues.mk.injEq] at h
  obtain ⟨happly, hdevice, hcore, hmem, hmode, heditable, hlevel⟩ := h
  simp only [initialiseGpu, happly, hdevice, hcore, hmem, hmode, heditable, hlevel]

variable (strtof : CString → FloatParse)

/-! ### Unprotected files -/

private theorem inihHandler_get_of_gpu {self : LoadState} (hself : self.loadProtected = false)
    (entry : Entry) {option : ScalarOption} (hgpu : option.sectionName = "gpu") :
    (inihHandler strtof entry self).2.config.get option = self.config.get option := by
  by_cases h : ∃ o, admittedTarget self.loadProtected entry = some (.scalar o)
  · obtain ⟨o, ho⟩ := h
    rw [inihHandler_of_scalar strtof ho]
    refine LoadState.store_get_of_ne _ _ _ ?_
    -- an entry of an unprotected file is never for an option of the section
    rintro rfl
    obtain ⟨hsection, -, hprotected⟩ := admittedTarget_eq_scalar_iff.1 ho
    rw [hself] at hprotected
    exact absurd (hprotected (hsection.trans hgpu)) Bool.false_ne_true
  · exact (inihHandler_of_not_scalar strtof (not_exists.1 h)).1 option

private theorem foldl_handle_get_of_gpu {option : ScalarOption}
    (hgpu : option.sectionName = "gpu") :
    (events : List FileEvent) → {self : LoadState} → self.loadProtected = false →
      (events.foldl (LoadState.handle strtof) self).config.get option = self.config.get option
  | [], _, _ => rfl
  | .entry entry :: events, self, hself => by
    rw [List.foldl_cons, LoadState.handle, foldl_handle_get_of_gpu hgpu events
      ((inihHandler_loadProtected strtof entry self).trans hself)]
    exact inihHandler_get_of_gpu strtof hself entry hgpu
  | .callError error :: events, self, hself => by
    rw [List.foldl_cons, LoadState.handle, @foldl_handle_get_of_gpu _ hgpu events
      (self.fail error) hself]
    rfl

theorem loadLocation_get_of_gpu (self : LoadState) {location : ConfigLocation}
    (hlocation : location.isProtected = false) {option : ScalarOption}
    (hgpu : option.sectionName = "gpu") :
    (loadLocation strtof self location).config.get option = self.config.get option := by
  obtain ⟨isProtected, file⟩ := location
  cases file with
  | noPath => rfl
  | missing error => rfl
  | file events =>
    exact @foldl_handle_get_of_gpu strtof option hgpu events
      { self with loadProtected := isProtected } hlocation

/-- Unprotected files leave every `[gpu]` option alone. -/
theorem foldl_loadLocation_get_of_gpu {option : ScalarOption}
    (hgpu : option.sectionName = "gpu") :
    (locations : List ConfigLocation) → (∀ location ∈ locations, location.isProtected = false) →
      (self : LoadState) →
      (locations.foldl (loadLocation strtof) self).config.get option = self.config.get option
  | [], _, _ => rfl
  | location :: locations, h, self => by
    obtain ⟨hlocation, hlocations⟩ := List.forall_mem_cons.1 h
    rw [List.foldl_cons, foldl_loadLocation_get_of_gpu hgpu locations hlocations]
    exact loadLocation_get_of_gpu strtof self hlocation hgpu

theorem loadConfigFiles_get_of_gpu (errno : ℤ) (sysconfdir etc home current : LocationFile)
    {option : ScalarOption} (hgpu : option.sectionName = "gpu") :
    (loadConfigFiles strtof errno sysconfdir etc home current).get option =
      (loadLocations strtof errno [⟨true, sysconfdir⟩, ⟨true, etc⟩]).config.get option :=
  foldl_loadLocation_get_of_gpu strtof hgpu [⟨false, home⟩, ⟨false, current⟩] (by simp)
    (loadLocations strtof errno [⟨true, sysconfdir⟩, ⟨true, etc⟩])

/-- **Unsafe files cannot influence the GPU.** Two loads that find the same protected files and
the same `errno` agree on the values of the `[gpu]` section, on the result of
`game_mode_initialise_gpu`, and on the arguments of the privileged helper, whatever they find in
the home and the current directory. -/
theorem gpu_settings_eq_of_unsafe_files (errno : ℤ)
    (sysconfdir etc home current home' current' : LocationFile) (vendorFile : ℤ → Option ℤ) :
    let config := loadConfigFiles strtof errno sysconfdir etc home current
    let config' := loadConfigFiles strtof errno sysconfdir etc home' current'
    config.gpuValues = config'.gpuValues ∧
      initialiseGpu vendorFile config = initialiseGpu vendorFile config' ∧
      (initialiseGpu vendorFile config).2.map GameModeGPUInfo.applyArgs =
        (initialiseGpu vendorFile config').2.map GameModeGPUInfo.applyArgs := by
  intro config config'
  have hvalues : config.gpuValues = config'.gpuValues := by
    refine Config.gpuValues_eq fun option hgpu => ?_
    calc
      config.get option =
          (loadLocations strtof errno [⟨true, sysconfdir⟩, ⟨true, etc⟩]).config.get option :=
        loadConfigFiles_get_of_gpu strtof errno sysconfdir etc home current hgpu
      _ = config'.get option :=
        (loadConfigFiles_get_of_gpu strtof errno sysconfdir etc home' current' hgpu).symm
  have hinfo := initialiseGpu_eq_of_gpuValues hvalues vendorFile
  exact ⟨hvalues, hinfo, by rw [hinfo]⟩

end GameMode
