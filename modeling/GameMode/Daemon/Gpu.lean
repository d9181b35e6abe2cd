import GameMode.Config.Values

/-!
# GPU optimisations of the daemon

The daemon builds a description of the GPU and of the wanted settings from the `[gpu]` options,
and hands it to the privileged helper `gpuclockctl` as a list of arguments. The numbers pass through
buffers of four or eight bytes, which cut what does not fit.

`vendorFile` stands for the vendor files under `/sys/class/drm`: the number that `strtol` reads at
the start of the file of a card, `none` when the file cannot be read.

## Main definitions

* `GameModeGPUInfo`: the settings of a device.
* `initialiseGpu`: the settings that a configuration asks for.
* `GameModeGPUInfo.applyArgs`: the command line of the helper.

## Main results

* `initialiseGpu_spec`: the settings built from a configuration are for the vendor of the device and
  respect the safety limits.

Source: `daemon/gamemode-gpu.c` and `common/common-gpu.c`.
-/

namespace GameMode

/-- The vendors that `GPUVendorValid` admits. -/
inductive GPUVendor
  | nvidia | amd | intel
  deriving DecidableEq, Repr

/-- The number of a vendor. -/
def GPUVendor.id : GPUVendor → ℤ
  | nvidia => 0x10de
  | amd => 0x1002
  | intel => 0x8086

/-- `gamemode_get_gpu_vendor`: the number read is narrowed to the 32 bits of the enumeration;
`none` is `Vendor_Invalid`. -/
def gamemodeGetGpuVendor (vendorFile : ℤ → Option ℤ) (device : ℤ) : Option GPUVendor :=
  match vendorFile device with
  | none => none
  | some number =>
    let vendor := number % 2 ^ 32
    if vendor = GPUVendor.nvidia.id then some .nvidia
    else if vendor = GPUVendor.amd.id then some .amd
    else if vendor = GPUVendor.intel.id then some .intel
    else none

/-- `struct GameModeGPUInfo`. -/
structure GameModeGPUInfo where
  /-- The vendor of the device. -/
  vendor : GPUVendor
  /-- The index of the card. -/
  device : ℤ
  /-- The offset of the NVIDIA core clock. -/
  nvCore : ℤ
  /-- The offset of the NVIDIA memory clock. -/
  nvMem : ℤ
  /-- The NVIDIA power mode. -/
  nvPowermizerMode : ℤ
  /-- Whether the NVIDIA offsets can be edited for each profile. -/
  nvPerProfileEditable : ℤ
  /-- The AMD performance level. -/
  amdPerformanceLevel : CString
  deriving DecidableEq

/-- The largest NVIDIA core offset that is not refused. -/
def nvCoreHardLimit : ℤ := 200

/-- The largest NVIDIA memory offset that is not refused. -/
def nvMemHardLimit : ℤ := 2000

/-- `game_mode_initialise_gpu`: the result code, and the settings when there are any. -/
def initialiseGpu (vendorFile : ℤ → Option ℤ) (config : Config) : ℤ × Option GameModeGPUInfo :=
  let apply := config.string .applyGpuOptimisations
  if apply = [] then (0, none)
  else if apply ≠ "accept-responsibility".toList then (-1, none)
  else
    let device := config.long .gpuDevice
    if device = -1 then (-1, none)
    else
      match gamemodeGetGpuVendor vendorFile device with
      | none => (-1, none)
      | some .nvidia =>
        let nvCore := config.long .nvCoreClockMhzOffset
        let nvMem := config.long .nvMemClockMhzOffset
        if nvCoreHardLimit < nvCore ∨ nvMemHardLimit < nvMem then (-1, none)
        else
          (0, some
            { vendor := .nvidia
              device := device
              nvCore := nvCore
              nvMem := nvMem
              nvPowermizerMode := config.long .nvPowermizerMode
              nvPerProfileEditable := config.long .nvPerProfileEditable
              amdPerformanceLevel := [] })
      | some .amd =>
        let amdPerformanceLevel := config.string .amdPerformanceLevel
        if amdPerformanceLevel = "manual".toList then (-1, none)
        else
          (0, some
            { vendor := .amd
              device := device
              nvCore := 0
              nvMem := 0
              nvPowermizerMode := 0
              nvPerProfileEditable := 0
              amdPerformanceLevel := amdPerformanceLevel })
      | some .intel =>
        (0, some
          { vendor := .intel
            device := device
            nvCore := 0
            nvMem := 0
            nvPowermizerMode := 0
            nvPerProfileEditable := 0
            amdPerformanceLevel := [] })

/-- What `game_mode_initialise_gpu` checks of the settings it gives back. -/
structure GameModeGPUInfo.IsSane (info : GameModeGPUInfo) : Prop where
  device_ne : info.device ≠ -1
  nvCore_le : info.nvCore ≤ nvCoreHardLimit
  nvMem_le : info.nvMem ≤ nvMemHardLimit
  amdPerformanceLevel_ne : info.amdPerformanceLevel ≠ "manual".toList

/-- The settings that a configuration asks for: they are for the vendor of the device, they respect
the safety limits, and they hold a performance level only for an AMD card. -/
theorem initialiseGpu_spec {vendorFile : ℤ → Option ℤ} {config : Config}
    {info : GameModeGPUInfo} (h : (initialiseGpu vendorFile config).2 = some info) :
    gamemodeGetGpuVendor vendorFile info.device = some info.vendor ∧ info.IsSane ∧
      (info.vendor ≠ .amd → info.amdPerformanceLevel = []) := by
  simp only [initialiseGpu] at h
  split at h
  · cases h
  split at h
  · cases h
  split at h
  · cases h
  rename_i hdevice
  split at h
  · cases h
  · split at h
    · cases h
    · rename_i hvendor hlimit
      rw [not_or, not_lt, not_lt] at hlimit
      cases h
      exact ⟨hvendor, ⟨hdevice, hlimit.1, hlimit.2, (by decide : [] ≠ "manual".toList)⟩,
        fun _ => rfl⟩
  · split at h
    · cases h
    · rename_i hvendor hmanual
      cases h
      exact ⟨hvendor, ⟨hdevice, (by decide : (0 : ℤ) ≤ 200), (by decide : (0 : ℤ) ≤ 2000), hmanual⟩,
        fun hne => absurd rfl hne⟩
  · rename_i hvendor
    cases h
    exact ⟨hvendor, ⟨hdevice, (by decide : (0 : ℤ) ≤ 200), (by decide : (0 : ℤ) ≤ 2000),
      (by decide : [] ≠ "manual".toList)⟩, fun _ => rfl⟩

theorem initialiseGpu_isSane {vendorFile : ℤ → Option ℤ} {config : Config}
    {info : GameModeGPUInfo} (h : (initialiseGpu vendorFile config).2 = some info) :
    info.IsSane :=
  (initialiseGpu_spec h).2.1

theorem initialiseGpu_vendor {vendorFile : ℤ → Option ℤ} {config : Config}
    {info : GameModeGPUInfo} (h : (initialiseGpu vendorFile config).2 = some info) :
    gamemodeGetGpuVendor vendorFile info.device = some info.vendor :=
  (initialiseGpu_spec h).1

/-- `snprintf(buffer, size, "%ld", value)`. -/
def printLong (size : ℕ) (value : ℤ) : CString := (CString.decimal value).truncate size

/-- The command line of `game_mode_apply_gpu`, with the helper named without its directory. -/
def GameModeGPUInfo.applyArgs (info : GameModeGPUInfo) : List CString :=
  ["pkexec".toList, "gpuclockctl".toList, printLong 4 info.device, "set".toList] ++
    match info.vendor with
    | .nvidia =>
      [printLong 8 info.nvCore, printLong 8 info.nvMem, printLong 4 info.nvPowermizerMode,
        printLong 4 info.nvPerProfileEditable]
    | .amd | .intel => [info.amdPerformanceLevel]

end GameMode
