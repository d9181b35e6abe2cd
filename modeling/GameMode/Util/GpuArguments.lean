import GameMode.Config.Meaning
import GameMode.Util.Gpuclockctl

/-!
# The arguments of the GPU helper

The daemon prints the numbers of a description into buffers of four and of eight bytes, and the
helper reads the arguments by their positions. A number with more digits than its buffer has room
for arrives as another number, and no check of the daemon excludes such numbers: the offsets are
bounded from above only, and the other numbers not at all.

## Main definitions

* `gpuclockctlInfo`: the description that the helper makes of its arguments.
* `Held`: the descriptions that the daemon holds.
* `ReceivesMeant`: the helper receives what the daemon means.
* `GameModeGPUInfo.FitsArguments`: the numbers fit their buffers.

## Main results

* `readBack_eq_iff`: a number arrives unless digits are cut off.
* `receivesMeant_iff`: when the helper receives what the daemon means.
* `gpuclockctlSet_eq`: what the helper sets is this description.

Source: `daemon/gamemode-gpu.c`; `util/gpuclockctl.c`, `get_device` to `main`.
-/

namespace GameMode

/-! ### The helper -/

/-- The powermizer mode among the optional arguments for an NVIDIA GPU. -/
def optionalMode : List CString → Option ℤ
  | [] => some (-1)
  | nvPowermizerMode :: _ => getGenericValue nvPowermizerMode

/-- The flag for the profiles among the optional arguments for an NVIDIA GPU. -/
def optionalEditable : List CString → Option ℤ
  | [_, nvPerProfileEditable] => getGenericValue nvPerProfileEditable
  | _ => some 1

/-- The `info` of `main` for `gpuclockctl set`, before the device is turned into the index of a GPU.
`none` stands for an exit with a failure, for another command, and for a missing argument. -/
def gpuclockctlInfo (vendorFile : ℤ → Option ℤ) (argv : List CString) : Option GameModeGPUInfo :=
  match argv with
  | _ :: device :: verb :: values =>
    if verb.take 3 = "get".toList then none
    else if 1 ≤ values.length ∧ values.length ≤ 4 ∧ verb.take 3 = "set".toList then do
      let device ← getDevice device
      match ← gamemodeGetGpuVendor vendorFile device with
      | .nvidia =>
        match values with
        | nvCore :: nvMem :: optional =>
          let nvCore ← getGenericValue nvCore
          let nvMem ← getGenericValue nvMem
          let nvPowermizerMode ← optionalMode optional
          let nvPerProfileEditable ← optionalEditable optional
          some
            { vendor := .nvidia
              device := device
              nvCore := nvCore
              nvMem := nvMem
              nvPowermizerMode := nvPowermizerMode
              nvPerProfileEditable := nvPerProfileEditable
              amdPerformanceLevel := [] }
        | _ => none
      | .amd =>
        match values with
        | level :: _ =>
          some
            { vendor := .amd
              device := device
              nvCore := 0
              nvMem := 0
              nvPowermizerMode := 0
              nvPerProfileEditable := 0
              amdPerformanceLevel := level.truncate configValueMax }
        | [] => none
      | .intel => none
    else none
  | _ => none

/-- What the helper sets is the description that it makes of its arguments. -/
theorem gpuclockctlSet_eq (sys : GpuSystem) (name device : CString) {values : List CString}
    (hvalues : 1 ≤ values.length ∧ values.length ≤ 4) :
    gpuclockctlSet sys device values =
      (gpuclockctlInfo sys.vendorFile (name :: device :: "set".toList :: values)).map fun info =>
        match info.vendor with
        | .nvidia => sys.setGpuStateNv (sys.getGpuIndexIdNv info.device.toNat) info.nvCore
            info.nvMem info.nvPowermizerMode info.nvPerProfileEditable
        | .amd => sys.setGpuStateAmd info.device info.amdPerformanceLevel
        | .intel => sys := by
  have hset : "set".toList.take 3 = "set".toList := by decide
  rw [gpuclockctlSet, gpuclockctlInfo]
  simp only [hvalues, hset, and_self, if_true]
  cases getDevice device with
  | none => rfl
  | some device =>
    simp only [Option.bind_eq_bind, Option.bind_some]
    cases gamemodeGetGpuVendor sys.vendorFile device with
    | none => rfl
    | some vendor =>
      cases vendor with
      | intel => rfl
      | amd => cases values <;> rfl
      | nvidia =>
        rcases values with _ | ⟨core, _ | ⟨mem, optional⟩⟩
        · rfl
        · rfl
        · cases hcore : getGenericValue core with
          | none => rcases optional with _ | ⟨mode, _ | ⟨editable, _ | _⟩⟩ <;> simp [hcore]
          | some nvCore =>
            cases hmem : getGenericValue mem with
            | none => rcases optional with _ | ⟨mode, _ | ⟨editable, _ | _⟩⟩ <;> simp [hcore, hmem]
            | some nvMem =>
              rcases optional with _ | ⟨mode, _ | ⟨editable, _ | ⟨e, rest⟩⟩⟩
              · simp [hcore, hmem, optionalMode, optionalEditable]
              · cases hmode : getGenericValue mode <;>
                  simp [hcore, hmem, hmode, optionalMode, optionalEditable]
              · cases hmode : getGenericValue mode <;>
                  cases heditable : getGenericValue editable <;>
                    simp [hcore, hmem, hmode, heditable, optionalMode, optionalEditable]
              · simp only [List.length_cons] at hvalues
                omega

/-! ### Numbers in buffers -/

/-- A number of a `long`. -/
def IsLong (v : ℤ) : Prop := CString.longMin ≤ v ∧ v ≤ CString.longMax

theorem readBack_cases {size : ℕ} (hsize : 3 ≤ size) {v : ℤ} (hv : IsLong v) :
    (CString.decimal v).length < size ∧ readBack size v = v ∨
      ¬(CString.decimal v).length < size ∧ ∃ k : ℕ, k < v.natAbs ∧
        readBack size v = if v < 0 then -(k : ℤ) else k := by
  by_cases hlength : (CString.decimal v).length < size
  · exact Or.inl ⟨hlength, readBack_of_fits ⟨hv, hlength⟩⟩
  · exact Or.inr ⟨hlength,
      CString.exists_strtol_take_decimal hv (n := size - 1) (by omega) (by omega)⟩

/-- A number arrives unless digits are cut off. -/
theorem readBack_eq_iff {size : ℕ} (hsize : 3 ≤ size) {v : ℤ} (hv : IsLong v) :
    readBack size v = v ↔ (CString.decimal v).length < size := by
  rcases readBack_cases hsize hv with ⟨hlength, heq⟩ | ⟨hlength, k, hk, heq⟩
  · exact iff_of_true heq hlength
  · refine iff_of_false ?_ hlength
    rw [heq]
    split_ifs <;> omega

theorem readBack_le {size : ℕ} (hsize : 3 ≤ size) {v : ℤ} (hv : IsLong v) :
    readBack size v ≤ max v 0 := by
  rcases readBack_cases hsize hv with ⟨-, heq⟩ | ⟨-, k, hk, heq⟩
  · exact heq.le.trans (le_max_left v 0)
  · rw [heq]
    split_ifs <;> omega

theorem getDevice_printLong_four (v : ℤ) :
    getDevice (printLong 4 v) = if readBack 4 v < 0 then none else some (readBack 4 v).toNat := by
  rw [getDevice, getGenericValue_eq_readBack (by decide) v]

/-! ### The descriptions of the daemon -/

namespace GameModeGPUInfo

/-- Every field holds a value that it can hold. -/
structure Representable (info : GameModeGPUInfo) : Prop where
  device : IsLong info.device
  nvCore : IsLong info.nvCore
  nvMem : IsLong info.nvMem
  nvPowermizerMode : IsLong info.nvPowermizerMode
  nvPerProfileEditable : IsLong info.nvPerProfileEditable
  amdPerformanceLevel : info.amdPerformanceLevel.length < configValueMax

end GameModeGPUInfo

/-- The descriptions that the daemon holds: those that `game_mode_initialise_gpu` accepts, and those
that `game_mode_get_gpu` fills in from an output of the helper. -/
inductive Held (vendorFile : ℤ → Option ℤ) : GameModeGPUInfo → Prop
  | initialised {config : Config} {info : GameModeGPUInfo} (hconfig : config.Representable)
    (h : (initialiseGpu vendorFile config).2 = some info) : Held vendorFile info
  | filled {info : GameModeGPUInfo} (h : Held vendorFile info) (buffer : CString) :
    Held vendorFile (info.readLine buffer)

section Held

variable {vendorFile : ℤ → Option ℤ} {info : GameModeGPUInfo}

theorem representable_of_initialiseGpu {config : Config} (hconfig : config.Representable)
    (h : (initialiseGpu vendorFile config).2 = some info) : info.Representable := by
  have hlong : ∀ o, IsLong (config.long o) := fun o => hconfig (.long o)
  have hzero : IsLong 0 := (by decide : CString.longMin ≤ 0 ∧ 0 ≤ CString.longMax)
  have hnil : ([] : CString).length < configValueMax := by decide
  simp only [initialiseGpu] at h
  split at h
  · cases h
  split at h
  · cases h
  split at h
  · cases h
  split at h
  · cases h
  · split at h
    · cases h
    · cases h
      exact ⟨hlong _, hlong _, hlong _, hlong _, hlong _, hnil⟩
  · split at h
    · cases h
    · cases h
      exact ⟨hlong _, hzero, hzero, hzero, hzero, hconfig (.string .amdPerformanceLevel)⟩
  · cases h
    exact ⟨hlong _, hzero, hzero, hzero, hzero, hnil⟩

theorem isLong_of_mem_scanLongs {v : ℤ} :
    ∀ (n : ℕ) (s : CString), v ∈ scanLongs n s → IsLong v
  | 0, _, h => by simp [scanLongs] at h
  | n + 1, s, h => by
    simp only [scanLongs] at h
    split_ifs at h
    · simp at h
    · rcases List.mem_cons.1 h with rfl | hmem
      · exact CString.strtol_value_mem s
      · exact isLong_of_mem_scanLongs n _ hmem

theorem representable_readLine (h : info.Representable) (buffer : CString) :
    (info.readLine buffer).Representable := by
  obtain ⟨hdevice, hcore, hmem, hmode, heditable, hlevel⟩ := h
  rw [GameModeGPUInfo.readLine]
  cases info.vendor with
  | nvidia =>
    have hall : ∀ v ∈ scanLongs 3 buffer, IsLong v := fun v => isLong_of_mem_scanLongs 3 buffer
    rcases hscan : scanLongs 3 buffer with _ | ⟨core, _ | ⟨mem, _ | ⟨mode, rest⟩⟩⟩
    · exact ⟨hdevice, hcore, hmem, hmode, heditable, hlevel⟩
    · exact ⟨hdevice, hall core (by simp [hscan]), hmem, hmode, heditable, hlevel⟩
    · exact ⟨hdevice, hall core (by simp [hscan]), hall mem (by simp [hscan]), hmode, heditable,
        hlevel⟩
    · exact ⟨hdevice, hall core (by simp [hscan]), hall mem (by simp [hscan]),
        hall mode (by simp [hscan]), heditable, hlevel⟩
  | amd =>
    exact ⟨hdevice, hcore, hmem, hmode, heditable,
      (List.length_take_le _ _).trans_lt (by decide)⟩
  | intel => exact ⟨hdevice, hcore, hmem, hmode, heditable, hlevel⟩

theorem Held.vendor_representable (h : Held vendorFile info) :
    gamemodeGetGpuVendor vendorFile info.device = some info.vendor ∧ info.Representable := by
  induction h with
  | initialised hconfig h =>
    exact ⟨initialiseGpu_vendor h, representable_of_initialiseGpu hconfig h⟩
  | @filled info h buffer ih =>
    have hcard := info.readLine_sameCard buffer
    rw [hcard.device, hcard.vendor]
    exact ⟨ih.1, representable_readLine ih.2 buffer⟩

end Held

/-! ### From the daemon to the helper -/

section Arguments

variable (vendorFile : ℤ → Option ℤ) (info : GameModeGPUInfo)

/-- The arguments that reach the helper: `pkexec` is not one of them. -/
def helperArgs : List CString := info.applyArgs.drop 1

/-- The helper receives what the daemon means: the device and the four numbers for an NVIDIA GPU,
the device and the performance level for an AMD GPU; and the offsets that a configuration asks for
do not exceed the limits. -/
structure ReceivesMeant : Prop where
  nvidia : info.vendor = .nvidia →
    ∃ received, gpuclockctlInfo vendorFile (helperArgs info) = some received ∧
      received.vendor = .nvidia ∧ received.device = info.device ∧
      received.nvCore = info.nvCore ∧ received.nvMem = info.nvMem ∧
      received.nvPowermizerMode = info.nvPowermizerMode ∧
      received.nvPerProfileEditable = info.nvPerProfileEditable
  amd : info.vendor = .amd →
    ∃ received, gpuclockctlInfo vendorFile (helperArgs info) = some received ∧
      received.vendor = .amd ∧ received.device = info.device ∧
      received.amdPerformanceLevel = info.amdPerformanceLevel
  limited : ∀ config : Config, config.Representable →
    (initialiseGpu vendorFile config).2 = some info →
      ∀ received, gpuclockctlInfo vendorFile (helperArgs info) = some received →
        received.nvCore ≤ nvCoreHardLimit ∧ received.nvMem ≤ nvMemHardLimit

/-- The numbers fit the buffers of the command line, and the device is not negative. -/
def GameModeGPUInfo.FitsArguments : Prop :=
  match info.vendor with
  | .nvidia => 0 ≤ info.device ∧ (CString.decimal info.device).length < 4 ∧
      (CString.decimal info.nvCore).length < 8 ∧ (CString.decimal info.nvMem).length < 8 ∧
      (CString.decimal info.nvPowermizerMode).length < 4 ∧
      (CString.decimal info.nvPerProfileEditable).length < 4
  | .amd => 0 ≤ info.device ∧ (CString.decimal info.device).length < 4
  | .intel => True

/-- The description that the helper makes of the arguments when the device that it finds is of some
vendor. -/
def receivedInfo (vendor : GPUVendor) (device : ℤ) : Option GameModeGPUInfo :=
  match vendor with
  | .nvidia =>
    if info.vendor = .nvidia then
      some
        { vendor := .nvidia
          device := device
          nvCore := readBack 8 info.nvCore
          nvMem := readBack 8 info.nvMem
          nvPowermizerMode := readBack 4 info.nvPowermizerMode
          nvPerProfileEditable := readBack 4 info.nvPerProfileEditable
          amdPerformanceLevel := [] }
    else none
  | .amd =>
    some
      { vendor := .amd
        device := device
        nvCore := 0
        nvMem := 0
        nvPowermizerMode := 0
        nvPerProfileEditable := 0
        amdPerformanceLevel := CString.truncate configValueMax
          (if info.vendor = .nvidia then printLong 8 info.nvCore else info.amdPerformanceLevel) }
  | .intel => none

variable {vendorFile info}

/-- What the helper makes of the arguments. -/
theorem gpuclockctlInfo_helperArgs :
    gpuclockctlInfo vendorFile (helperArgs info) =
      if readBack 4 info.device < 0 then none
      else (gamemodeGetGpuVendor vendorFile (readBack 4 info.device)).bind fun vendor =>
        receivedInfo info vendor (readBack 4 info.device) := by
  have height := @getGenericValue_eq_readBack 8 (by decide)
  have hfour := @getGenericValue_eq_readBack 4 (by decide)
  have hset : "set".toList.take 3 = "set".toList := by decide
  have hdevice := getDevice_printLong_four info.device
  by_cases hneg : readBack 4 info.device < 0
  · rw [if_pos hneg] at hdevice ⊢
    cases hvendor : info.vendor <;>
      simp [gpuclockctlInfo, helperArgs, GameModeGPUInfo.applyArgs, hvendor, hdevice]
  · rw [if_neg hneg] at hdevice ⊢
    have hcast : ((readBack 4 info.device).toNat : ℤ) = readBack 4 info.device :=
      Int.toNat_of_nonneg (not_lt.1 hneg)
    cases hsystem : gamemodeGetGpuVendor vendorFile (readBack 4 info.device) with
    | none =>
      cases hvendor : info.vendor <;>
        simp [gpuclockctlInfo, helperArgs, GameModeGPUInfo.applyArgs, hvendor, hdevice, hcast,
          hsystem]
    | some vendor =>
      cases hvendor : info.vendor <;> cases vendor <;>
        simp [gpuclockctlInfo, helperArgs, GameModeGPUInfo.applyArgs, hvendor, hdevice, hcast,
          hsystem, receivedInfo, height, hfour, optionalMode, optionalEditable]

/-- What arrives of the device and of the offsets. -/
theorem receivedInfo_cases {vendor : GPUVendor} {device : ℤ} {received : GameModeGPUInfo}
    (h : receivedInfo info vendor device = some received) :
    received.device = device ∧
      ((received.nvCore = readBack 8 info.nvCore ∧ received.nvMem = readBack 8 info.nvMem) ∨
        (received.nvCore = 0 ∧ received.nvMem = 0)) := by
  cases vendor with
  | nvidia =>
    rw [receivedInfo] at h
    split_ifs at h
    rw [← Option.some_inj.1 h]
    exact ⟨rfl, Or.inl ⟨rfl, rfl⟩⟩
  | amd =>
    rw [← Option.some_inj.1 h]
    exact ⟨rfl, Or.inr ⟨rfl, rfl⟩⟩
  | intel => cases h

theorem gpuclockctlInfo_of_fits (h : Held vendorFile info) (hnonneg : 0 ≤ info.device)
    (hfits : (CString.decimal info.device).length < 4) :
    gpuclockctlInfo vendorFile (helperArgs info) =
      receivedInfo info info.vendor info.device := by
  obtain ⟨hvendor, hrepresentable⟩ := h.vendor_representable
  have hback := (readBack_eq_iff (by decide : 3 ≤ 4) hrepresentable.device).2 hfits
  rw [gpuclockctlInfo_helperArgs, hback, if_neg (not_lt.2 hnonneg), hvendor, Option.bind_some]

/-- A device arrives only if it fits. -/
theorem fits_of_device_eq (h : Held vendorFile info) {received : GameModeGPUInfo}
    (hreceived : gpuclockctlInfo vendorFile (helperArgs info) = some received)
    (hdevice : received.device = info.device) :
    0 ≤ info.device ∧ (CString.decimal info.device).length < 4 ∧
      receivedInfo info info.vendor info.device = some received := by
  obtain ⟨hvendor, hrepresentable⟩ := h.vendor_representable
  have hinfo := hreceived
  rw [gpuclockctlInfo_helperArgs] at hreceived
  split_ifs at hreceived with hneg
  have hback : readBack 4 info.device = info.device := by
    obtain ⟨vendor, -, heq⟩ := Option.bind_eq_some_iff.1 hreceived
    rw [← (receivedInfo_cases heq).1, hdevice]
  have hfits := (readBack_eq_iff (by decide : 3 ≤ 4) hrepresentable.device).1 hback
  rw [hback] at hneg
  refine ⟨not_lt.1 hneg, hfits, ?_⟩
  rw [← gpuclockctlInfo_of_fits h (not_lt.1 hneg) hfits]
  exact hinfo

/-- The offsets that a configuration asks for do not exceed the limits when they arrive. -/
theorem limited {config : Config} (hconfig : config.Representable)
    (h : (initialiseGpu vendorFile config).2 = some info) {received : GameModeGPUInfo}
    (hreceived : gpuclockctlInfo vendorFile (helperArgs info) = some received) :
    received.nvCore ≤ nvCoreHardLimit ∧ received.nvMem ≤ nvMemHardLimit := by
  have hsane := initialiseGpu_isSane h
  have hrepresentable := representable_of_initialiseGpu hconfig h
  have hcore := readBack_le (by decide : 3 ≤ 8) hrepresentable.nvCore
  have hmem := readBack_le (by decide : 3 ≤ 8) hrepresentable.nvMem
  have hcoreLimit : (0 : ℤ) ≤ nvCoreHardLimit := by decide
  have hmemLimit : (0 : ℤ) ≤ nvMemHardLimit := by decide
  rw [gpuclockctlInfo_helperArgs] at hreceived
  split_ifs at hreceived
  obtain ⟨vendor, -, heq⟩ := Option.bind_eq_some_iff.1 hreceived
  rcases (receivedInfo_cases heq).2 with ⟨hnvCore, hnvMem⟩ | ⟨hnvCore, hnvMem⟩
  · rw [hnvCore, hnvMem]
    exact ⟨hcore.trans (max_le hsane.nvCore_le hcoreLimit),
      hmem.trans (max_le hsane.nvMem_le hmemLimit)⟩
  · rw [hnvCore, hnvMem]
    exact ⟨hcoreLimit, hmemLimit⟩

/-- **Arguments.** The helper receives what the daemon means just when the numbers fit the buffers
of the command line. -/
theorem receivesMeant_iff (h : Held vendorFile info) :
    ReceivesMeant vendorFile info ↔ info.FitsArguments := by
  obtain ⟨-, hrepresentable⟩ := h.vendor_representable
  have height {v : ℤ} (hv : IsLong v) := @readBack_eq_iff 8 (by decide) v hv
  have hfour {v : ℤ} (hv : IsLong v) := @readBack_eq_iff 4 (by decide) v hv
  constructor
  · intro hmeant
    rw [GameModeGPUInfo.FitsArguments]
    cases hvendor : info.vendor with
    | nvidia =>
      obtain ⟨received, hreceived, -, hdevice, hcore, hmem, hmode, heditable⟩ :=
        hmeant.nvidia hvendor
      obtain ⟨hnonneg, hfits, heq⟩ := fits_of_device_eq h hreceived hdevice
      rw [hvendor, receivedInfo, if_pos hvendor, Option.some_inj] at heq
      rw [← heq] at hcore hmem hmode heditable
      exact ⟨hnonneg, hfits, (height hrepresentable.nvCore).1 hcore,
        (height hrepresentable.nvMem).1 hmem, (hfour hrepresentable.nvPowermizerMode).1 hmode,
        (hfour hrepresentable.nvPerProfileEditable).1 heditable⟩
    | amd =>
      obtain ⟨received, hreceived, -, hdevice, -⟩ := hmeant.amd hvendor
      obtain ⟨hnonneg, hfits, -⟩ := fits_of_device_eq h hreceived hdevice
      exact ⟨hnonneg, hfits⟩
    | intel => trivial
  · intro hfits
    rw [GameModeGPUInfo.FitsArguments] at hfits
    refine ⟨fun hvendor => ?_, fun hvendor => ?_, fun config hconfig hinfo received => ?_⟩
    · simp only [hvendor] at hfits
      obtain ⟨hnonneg, hdevice, hcore, hmem, hmode, heditable⟩ := hfits
      have hreceived := gpuclockctlInfo_of_fits h hnonneg hdevice
      simp only [hvendor, receivedInfo, if_true] at hreceived
      refine ⟨_, hreceived, rfl, rfl, ?_, ?_, ?_, ?_⟩
      · exact (height hrepresentable.nvCore).2 hcore
      · exact (height hrepresentable.nvMem).2 hmem
      · exact (hfour hrepresentable.nvPowermizerMode).2 hmode
      · exact (hfour hrepresentable.nvPerProfileEditable).2 heditable
    · simp only [hvendor] at hfits
      have hreceived := gpuclockctlInfo_of_fits h hfits.1 hfits.2
      simp only [hvendor, receivedInfo, reduceCtorEq, if_false] at hreceived
      exact ⟨_, hreceived, rfl, rfl,
        CString.truncate_of_length_lt hrepresentable.amdPerformanceLevel⟩
    · exact limited hconfig hinfo

end Arguments

/-! ### Two configurations -/

private def nvidiaOnly : ℤ → Option ℤ := fun _ => some GPUVendor.nvidia.id

private def withMode (nvPowermizerMode : ℤ) : Config :=
  { Config.initial with
    long := fun
      | .nvPowermizerMode => nvPowermizerMode
      | .nvCoreClockMhzOffset => 100
      | .nvMemClockMhzOffset => 1000
      | o => Config.initial.long o
    string := fun
      | .applyGpuOptimisations => "accept-responsibility".toList
      | _ => [] }

private def infoWithMode (nvPowermizerMode : ℤ) : GameModeGPUInfo where
  vendor := .nvidia
  device := 0
  nvCore := 100
  nvMem := 1000
  nvPowermizerMode := nvPowermizerMode
  nvPerProfileEditable := 1
  amdPerformanceLevel := []

private theorem held_infoWithMode {nvPowermizerMode : ℤ} (h : IsLong nvPowermizerMode) :
    Held nvidiaOnly (infoWithMode nvPowermizerMode) := by
  have hrepresentable : (withMode nvPowermizerMode).Representable := by
    intro option
    have hinitial := representable_initial option
    cases option with
    | long o =>
      cases o
      case nvPowermizerMode => exact h
      case nvCoreClockMhzOffset =>
        exact (by decide : CString.longMin ≤ 100 ∧ 100 ≤ CString.longMax)
      case nvMemClockMhzOffset =>
        exact (by decide : CString.longMin ≤ 1000 ∧ 1000 ≤ CString.longMax)
      all_goals exact hinitial
    | string o =>
      cases o
      case applyGpuOptimisations =>
        exact (by decide : "accept-responsibility".toList.length < configValueMax)
      all_goals exact hinitial
    | x3d o => trivial
    | igpuPowerThreshold => trivial
  exact .initialised hrepresentable rfl

/-- A powermizer mode of one digit arrives. -/
theorem receivesMeant_oneDigit : Held nvidiaOnly (infoWithMode 1) ∧
    (ReceivesMeant nvidiaOnly (infoWithMode 1) ↔ (infoWithMode 1).FitsArguments) ∧
    (infoWithMode 1).FitsArguments :=
  have held := held_infoWithMode (by decide : CString.longMin ≤ 1 ∧ 1 ≤ CString.longMax)
  ⟨held, receivesMeant_iff held, by decide, by decide, by decide, by decide, by decide, by decide⟩

/-- A powermizer mode of 1000 arrives as 100. -/
theorem not_receivesMeant :
    ¬∀ (vendorFile : ℤ → Option ℤ) (info : GameModeGPUInfo),
      Held vendorFile info → ReceivesMeant vendorFile info := by
  intro h
  have held := held_infoWithMode (by decide : CString.longMin ≤ 1000 ∧ 1000 ≤ CString.longMax)
  obtain ⟨received, hreceived, -, -, -, -, hmode, -⟩ := (h _ _ held).nvidia rfl
  have hsent : (gpuclockctlInfo nvidiaOnly (helperArgs (infoWithMode 1000))).map
      GameModeGPUInfo.nvPowermizerMode = some 100 := by decide +kernel
  rw [hreceived, Option.map_some, hmode] at hsent
  exact absurd hsent (by decide)

end GameMode
