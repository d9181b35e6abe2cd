import GameMode.Library.CString
import Mathlib.Data.Rat.Defs
import Mathlib.Data.List.Infix

/-!
# The configuration values and their getters

The daemon keeps one value for each option of `gamemode.ini`. The options fall into five kinds:
numbers, strings, the two X3D modes, one floating-point threshold, and six lists of strings. An
option is named by a constructor of its kind, so that the struct of the source is a family of
values for each kind.

A list option is an array of `CONFIG_LIST_MAX` slots, each a string of less than
`CONFIG_VALUE_MAX` bytes; a value is stored in the first empty slot, and a scan stops at the first
empty slot.

## Main definitions

* `LongOption`, `StringOption`, `X3dOption`, `ListOption`: the options.
* `StringList`, `appendValueToList`, `configStringListContains`: the list options.
* `Config`: the values, and their getters in the namespace `Config`.

## Main results

* `configStringListContains_iff`: a scan finds exactly the entries before the first empty slot.

Source: `daemon/gamemode-config.c`, `struct GameModeConfig` and the getters.
-/

namespace GameMode

/-- `CONFIG_LIST_MAX`. -/
def configListMax : ℕ := 32

/-- `CONFIG_VALUE_MAX`. -/
def configValueMax : ℕ := 256

/-- `IOPRIO_RESET_DEFAULT`. -/
def ioprioResetDefault : ℤ := -1

/-- `IOPRIO_DONT_SET`. -/
def ioprioDontSet : ℤ := -2

/-- `IOPRIO_DEFAULT`. -/
def ioprioDefault : ℤ := 4

/-- `CLAMP`. -/
def clamp (l u value : ℤ) : ℤ := max (min l u) (min (max l u) value)

/-! ### Options -/

/-- The options that hold a `long`. -/
inductive LongOption
  | reaperFrequency | renice | inhibitScreensaver | disableSplitlock | scriptTimeout
  | gpuDevice | nvCoreClockMhzOffset | nvMemClockMhzOffset | nvPowermizerMode
  | nvPerProfileEditable | requireSupervisor
  deriving DecidableEq, Repr

/-- The options that hold one string. -/
inductive StringOption
  | defaultgov | desiredgov | defaultprof | desiredprof | igpuDesiredgov | softrealtime | ioprio
  | applyGpuOptimisations | amdPerformanceLevel | cpuParkCores | cpuPinCores
  deriving DecidableEq, Repr

/-- The options that hold an X3D mode. -/
inductive X3dOption
  | amdX3dModeDesired | amdX3dModeDefault
  deriving DecidableEq, Repr

/-- The options that hold a list of strings. -/
inductive ListOption
  | whitelist | blacklist | startscripts | endscripts | supervisorWhitelist | supervisorBlacklist
  deriving DecidableEq, Repr

/-- The modes that the X3D options accept. -/
inductive X3dMode
  | frequency | cache
  deriving DecidableEq, Repr

/-- The text of an X3D mode. -/
def X3dMode.text : X3dMode → CString
  | .frequency => "frequency".toList
  | .cache => "cache".toList

/-- A C `float`, as far as the daemon looks at it. -/
inductive CFloat
  | nan
  | inf (negative : Bool)
  | fin (q : ℚ)
  deriving DecidableEq, Repr

/-- `value < bound` for a finite bound. -/
def CFloat.isLt : CFloat → ℚ → Bool
  | .nan, _ => false
  | .inf negative, _ => negative
  | .fin q, bound => q < bound

/-- `value < 0`. -/
def CFloat.isNegative : CFloat → Bool
  | .nan => false
  | .inf negative => negative
  | .fin q => q < 0

/-! ### Lists of strings -/

/-- An array of `CONFIG_LIST_MAX` strings. -/
structure StringList where
  /-- The strings, an empty one for a free slot. -/
  slots : List CString
  length_slots : slots.length = configListMax
  deriving DecidableEq

/-- The array cleared by `memset`. -/
def StringList.cleared : StringList := ⟨List.replicate configListMax [], List.length_replicate⟩

/-- The strings before the first empty slot. -/
def StringList.entries (list : StringList) : List CString := list.slots.takeWhile (· ≠ [])

/-- The array with one slot overwritten. -/
def StringList.set (list : StringList) (i : ℕ) (value : CString) : StringList :=
  ⟨list.slots.set i value, by rw [List.length_set, list.length_slots]⟩

/-- `append_value_to_list`: the value goes into the first empty slot, unless there is none or the
value leaves no room for its NUL, when the slot is cleared again. -/
def appendValueToList (value : CString) (list : StringList) : Bool × StringList :=
  let i := list.slots.findIdx (· = [])
  if i < configListMax then
    if value.length < configValueMax then (true, list.set i value) else (false, list.set i [])
  else (false, list)

/-- The scan of `config_string_list_contains` from one slot on. -/
def containsFrom (needle : CString) : List CString → Bool
  | [] => false
  | entry :: rest =>
    if entry = [] then false else if entry <:+: needle then true else containsFrom needle rest

/-- `config_string_list_contains`: whether an entry of the list occurs in `needle`. -/
def configStringListContains (needle : CString) (haystack : StringList) : Bool :=
  containsFrom needle haystack.slots

private theorem containsFrom_iff (needle : CString) :
    (slots : List CString) → (containsFrom needle slots = true ↔
      ∃ entry ∈ slots.takeWhile (· ≠ []), entry <:+: needle)
  | [] => by simp [containsFrom]
  | entry :: rest => by
    by_cases he : entry = []
    · simp [containsFrom, he]
    · by_cases hi : entry <:+: needle
      · simp [containsFrom, he, hi]
      · simp [containsFrom, he, hi, containsFrom_iff needle rest]

/-- A scan finds exactly the entries before the first empty slot. -/
theorem configStringListContains_iff (needle : CString) (haystack : StringList) :
    configStringListContains needle haystack = true ↔
      ∃ entry ∈ haystack.entries, entry <:+: needle :=
  containsFrom_iff needle haystack.slots

theorem StringList.entries_eq_nil_iff (list : StringList) :
    list.entries = [] ↔ list.slots.head? = some [] := by
  obtain ⟨slots, h⟩ := list
  cases slots with
  | nil => simp [configListMax] at h
  | cons s rest => by_cases hs : s = [] <;> simp [entries, hs]

/-! ### Values and getters -/

/-- The values of all options. -/
structure Config where
  /-- The options that hold a `long`. -/
  long : LongOption → ℤ
  /-- The options that hold a string. -/
  string : StringOption → CString
  /-- The X3D modes, `none` for the empty string. -/
  x3d : X3dOption → Option X3dMode
  /-- The threshold of the integrated GPU. -/
  igpuPowerThreshold : CFloat
  /-- The options that hold a list. -/
  list : ListOption → StringList

/-- `DEFAULT_IGPU_POWER_THRESHOLD`, the `float` nearest to 0.3. -/
def defaultIgpuPowerThreshold : CFloat := .fin (10066330 / 33554432)

/-- The values that `load_config_files` starts from: everything cleared, then the non-zero
defaults. -/
def Config.initial : Config where
  long
    | .inhibitScreensaver => 1
    | .disableSplitlock => 1
    | .reaperFrequency => 5
    | .gpuDevice => 0
    | .nvPowermizerMode => -1
    | .nvPerProfileEditable => 1
    | .nvCoreClockMhzOffset => -1
    | .nvMemClockMhzOffset => -1
    | .scriptTimeout => 10
    | .renice => 0
    | .requireSupervisor => 0
  string _ := []
  x3d _ := none
  igpuPowerThreshold := defaultIgpuPowerThreshold
  list _ := StringList.cleared

namespace Config

variable (self : Config)

/-- The check of the two whitelist getters: an empty list admits everything. -/
def whitelisted (option : ListOption) (executable : CString) : Bool :=
  if (self.list option).slots.head? = some [] then true
  else configStringListContains executable (self.list option)

/-- `config_get_client_whitelisted`. -/
def getClientWhitelisted (client : CString) : Bool := self.whitelisted .whitelist client

/-- `config_get_client_blacklisted`. -/
def getClientBlacklisted (client : CString) : Bool :=
  configStringListContains client (self.list .blacklist)

/-- `config_get_supervisor_whitelisted`. -/
def getSupervisorWhitelisted (supervisor : CString) : Bool :=
  self.whitelisted .supervisorWhitelist supervisor

/-- `config_get_supervisor_blacklisted`. -/
def getSupervisorBlacklisted (supervisor : CString) : Bool :=
  configStringListContains supervisor (self.list .supervisorBlacklist)

/-- `config_get_require_supervisor`. -/
def getRequireSupervisor : ℤ := self.long .requireSupervisor

/-- `config_get_inhibit_screensaver`. -/
def getInhibitScreensaver : Bool := self.long .inhibitScreensaver == 1

/-- `config_get_disable_splitlock`. -/
def getDisableSplitlock : Bool := self.long .disableSplitlock == 1

/-- `config_get_gamemode_start_scripts`. -/
def getGamemodeStartScripts : StringList := self.list .startscripts

/-- `config_get_gamemode_end_scripts`. -/
def getGamemodeEndScripts : StringList := self.list .endscripts

/-- `config_get_igpu_power_threshold`: a negative or undefined threshold is replaced by
`FP_INFINITE`, the constant 1 of `math.h`. -/
def getIgpuPowerThreshold : CFloat :=
  if self.igpuPowerThreshold = .nan ∨ self.igpuPowerThreshold.isNegative then .fin 1
  else self.igpuPowerThreshold

/-- `config_get_renice_value`: a value outside `1..20` counts as zero. -/
def getReniceValue : ℤ :=
  let value := self.long .renice
  if (value < 1 ∨ 20 < value) ∧ value ≠ 0 then 0 else value

/-- `config_get_ioprio_value`: the special values are read first, then everything but the reset is
clamped into `0..7`. -/
def getIoprioValue : ℤ :=
  let text := self.string .ioprio
  let value :=
    if text = "off".toList then ioprioDontSet
    else if text = "default".toList then ioprioResetDefault
    else text.atoi
  if value = ioprioResetDefault then 0 else clamp 0 7 value

theorem getIoprioValue_mem : 0 ≤ self.getIoprioValue ∧ self.getIoprioValue ≤ 7 := by
  simp only [getIoprioValue, clamp]
  split_ifs <;> omega

theorem getReniceValue_mem : 0 ≤ self.getReniceValue ∧ self.getReniceValue ≤ 20 := by
  simp only [getReniceValue]
  split_ifs <;> omega

end Config

end GameMode
