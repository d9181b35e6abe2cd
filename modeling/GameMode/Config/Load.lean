import GameMode.Config.Values
import Mathlib.Logic.Function.Basic

/-!
# Loading the configuration files

The ini parser delivers the entries of a file in order to `inih_handler`, which finds the option
by section and name and stores the value when the validator of the option accepts it. The files of
the locations are read one after the other into the same values.

Two globals pass through the whole load. `load_protected` says whether the current file may set the
`[gpu]` options. `errno` is set by the number validators when a value is out of range, is tested by
them, and is cleared by none of them. Other calls that fail overwrite it: opening a file that does
not exist, reading from one, writing a message, and putting a watch on a file that was parsed.

`strtof` stands for the function of the C library: its value, whether it consumed a non-empty
argument to its end, and whether it reported `ERANGE`.

## Main definitions

* `ScalarOption`, `Config.get`, `Config.set`: the options that hold a single value.
* `Entry`, `target`, `inihHandler`: one entry.
* `FileEvent`, `ConfigLocation`, `loadLocation`, `loadConfigFiles`: the files of all locations.

## Main results

* `target_eq_scalar_iff`: the dispatch of `inih_handler` by section and name.
* `acceptScalar_fst`, `acceptScalar_snd`: what a validator accepts, and how it moves `errno`.

Source: `daemon/gamemode-config.c`, `get_long_value` to `load_config_files`.
-/

namespace GameMode

open Errno

/-! ### Options that hold a single value -/

/-- The options that hold a single value. -/
inductive ScalarOption
  | long (option : LongOption)
  | string (option : StringOption)
  | x3d (option : X3dOption)
  | igpuPowerThreshold
  deriving DecidableEq, Repr

namespace ScalarOption

/-- The type of the value of an option. -/
abbrev Value : ScalarOption → Type
  | long _ => ℤ
  | string _ => CString
  | x3d _ => Option X3dMode
  | igpuPowerThreshold => CFloat

/-- The section that an option is configured in. -/
def sectionName : ScalarOption → String
  | long .reaperFrequency | long .renice | long .inhibitScreensaver | long .disableSplitlock
  | string .defaultgov | string .desiredgov | string .defaultprof | string .desiredprof
  | string .igpuDesiredgov | string .softrealtime | string .ioprio
  | igpuPowerThreshold => "general"
  | long .gpuDevice | long .nvCoreClockMhzOffset | long .nvMemClockMhzOffset
  | long .nvPowermizerMode | long .nvPerProfileEditable
  | string .applyGpuOptimisations | string .amdPerformanceLevel => "gpu"
  | string .cpuParkCores | string .cpuPinCores
  | x3d .amdX3dModeDesired | x3d .amdX3dModeDefault => "cpu"
  | long .requireSupervisor => "supervisor"
  | long .scriptTimeout => "custom"

/-- The name that an option is configured by. -/
def name : ScalarOption → String
  | long .reaperFrequency => "reaper_freq"
  | long .renice => "renice"
  | long .inhibitScreensaver => "inhibit_screensaver"
  | long .disableSplitlock => "disable_splitlock"
  | long .scriptTimeout => "script_timeout"
  | long .gpuDevice => "gpu_device"
  | long .nvCoreClockMhzOffset => "nv_core_clock_mhz_offset"
  | long .nvMemClockMhzOffset => "nv_mem_clock_mhz_offset"
  | long .nvPowermizerMode => "nv_powermizer_mode"
  | long .nvPerProfileEditable => "nv_per_profile_editable"
  | long .requireSupervisor => "require_supervisor"
  | string .defaultgov => "defaultgov"
  | string .desiredgov => "desiredgov"
  | string .defaultprof => "defaultprof"
  | string .desiredprof => "desiredprof"
  | string .igpuDesiredgov => "igpu_desiredgov"
  | string .softrealtime => "softrealtime"
  | string .ioprio => "ioprio"
  | string .applyGpuOptimisations => "apply_gpu_optimisations"
  | string .amdPerformanceLevel => "amd_performance_level"
  | string .cpuParkCores => "park_cores"
  | string .cpuPinCores => "pin_cores"
  | x3d .amdX3dModeDesired => "amd_x3d_mode_desired"
  | x3d .amdX3dModeDefault => "amd_x3d_mode_default"
  | igpuPowerThreshold => "igpu_power_threshold"

/-- The options whose validator tests `errno`. -/
def isNumeric : ScalarOption → Bool
  | long _ | igpuPowerThreshold => true
  | string _ | x3d _ => false

end ScalarOption

/-- The value of an option. -/
def Config.get (self : Config) : (option : ScalarOption) → option.Value
  | .long o => self.long o
  | .string o => self.string o
  | .x3d o => self.x3d o
  | .igpuPowerThreshold => self.igpuPowerThreshold

/-- The values with one option overwritten. -/
def Config.set (self : Config) : (option : ScalarOption) → option.Value → Config
  | .long o, value => { self with long := Function.update self.long o value }
  | .string o, value => { self with string := Function.update self.string o value }
  | .x3d o, value => { self with x3d := Function.update self.x3d o value }
  | .igpuPowerThreshold, value => { self with igpuPowerThreshold := value }

/-- The values with one list option overwritten. -/
def Config.setList (self : Config) (option : ListOption) (value : StringList) : Config :=
  { self with list := Function.update self.list option value }

@[simp] theorem Config.get_set_self (self : Config) :
    (option : ScalarOption) → (value : option.Value) →
      (self.set option value).get option = value
  | .long _, _ | .string _, _ | .x3d _, _ => Function.update_self ..
  | .igpuPowerThreshold, _ => rfl

theorem Config.get_set_of_ne (self : Config) {option option' : ScalarOption}
    (h : option' ≠ option) (value : option.Value) :
    (self.set option value).get option' = self.get option' := by
  cases option <;> cases option' <;>
    first
    | rfl
    | exact Function.update_of_ne (fun he => h (by rw [he])) _ _
    | exact absurd rfl h

@[simp] theorem Config.get_setList (self : Config) (o : ListOption) (value : StringList) :
    (option : ScalarOption) → (self.setList o value).get option = self.get option
  | .long _ | .string _ | .x3d _ | .igpuPowerThreshold => rfl

/-! ### Validators -/

/-- What `strtof` reports about a string. -/
structure FloatParse where
  /-- The value returned. -/
  value : CFloat
  /-- Whether the argument is non-empty and the end pointer is at its NUL. -/
  full : Bool
  /-- Whether `errno` is set to `ERANGE`. -/
  erange : Bool
  deriving DecidableEq

variable (strtof : CString → FloatParse)

/-- `get_long_value`: the value stored, if any, and `errno` afterwards. -/
def getLongValue (errno : ℤ) (value : CString) : Option ℤ × ℤ :=
  let parse := value.strtol
  let errno := if parse.erange then erange else errno
  if errno = erange then (none, errno)
  else if ¬(value ≠ [] ∧ parse.endp = []) then (none, errno)
  else (some parse.value, errno)

/-- `get_float_value`: the value stored, if any, and `errno` afterwards. -/
def getFloatValue (errno : ℤ) (value : CString) : Option CFloat × ℤ :=
  let parse := strtof value
  let errno := if parse.erange then erange else errno
  if errno = erange then (none, errno)
  else if ¬parse.full then (none, errno)
  else (some parse.value, errno)

/-- `get_string_value`. -/
def getStringValue (value : CString) : CString := value.truncate configValueMax

/-- `get_x3d_mode_value`. -/
def getX3dModeValue (value : CString) : Option X3dMode :=
  if value = X3dMode.frequency.text then some .frequency
  else if value = X3dMode.cache.text then some .cache
  else none

/-- The validator of an option: the value stored, if any, and `errno` afterwards. -/
def acceptScalar : (option : ScalarOption) → ℤ → CString → Option option.Value × ℤ
  | .long _, errno, value => getLongValue errno value
  | .string _, errno, value => (some (getStringValue value), errno)
  | .x3d _, errno, value => ((getX3dModeValue value).map some, errno)
  | .igpuPowerThreshold, errno, value => getFloatValue strtof errno value

/-- The value that a text has for an option on its own: a full decimal `long` in range, a full
`float` in range, any string cut to its buffer, or one of the two X3D modes. -/
def ScalarOption.parse : (option : ScalarOption) → CString → Option option.Value
  | .long _, value =>
    if value ≠ [] ∧ value.strtol.endp = [] ∧ ¬value.strtol.erange then some value.strtol.value
    else none
  | .string _, value => some (getStringValue value)
  | .x3d _, value => (getX3dModeValue value).map some
  | .igpuPowerThreshold, value =>
    if (strtof value).full ∧ ¬(strtof value).erange then some (strtof value).value else none

/-- Whether the conversion of a text for a numeric option reports `ERANGE`. -/
def ScalarOption.overflows : ScalarOption → CString → Bool
  | .long _, value => value.strtol.erange
  | .igpuPowerThreshold, value => (strtof value).erange
  | .string _, _ | .x3d _, _ => false

/-- A validator accepts what is valid on its own, unless it is numeric and `errno` already is
`ERANGE`. -/
theorem acceptScalar_fst (option : ScalarOption) (errno : ℤ) (value : CString) :
    (acceptScalar strtof option errno value).1 =
      if option.isNumeric ∧ errno = erange then none else option.parse strtof value := by
  cases option with
  | long o =>
    simp only [acceptScalar, getLongValue, ScalarOption.parse, ScalarOption.isNumeric]
    split_ifs <;> simp_all
  | string o => simp [acceptScalar, ScalarOption.parse, ScalarOption.isNumeric]
  | x3d o => simp [acceptScalar, ScalarOption.parse, ScalarOption.isNumeric]
  | igpuPowerThreshold =>
    simp only [acceptScalar, getFloatValue, ScalarOption.parse, ScalarOption.isNumeric]
    split_ifs <;> simp_all

/-- A validator sets `errno` when the conversion overflows, and never clears it. -/
theorem acceptScalar_snd (option : ScalarOption) (errno : ℤ) (value : CString) :
    (acceptScalar strtof option errno value).2 =
      if option.overflows strtof value then erange else errno := by
  cases option with
  | long o =>
    simp only [acceptScalar, getLongValue, ScalarOption.overflows]
    split_ifs <;> simp_all
  | string o => rfl
  | x3d o => rfl
  | igpuPowerThreshold =>
    simp only [acceptScalar, getFloatValue, ScalarOption.overflows]
    split_ifs <;> simp_all

/-! ### One entry -/

/-- An entry of a file as the ini parser delivers it. -/
structure Entry where
  /-- The section. -/
  sectionName : String
  /-- The name. -/
  name : String
  /-- The text of the value. -/
  value : CString
  deriving DecidableEq

/-- The option that an entry is for. -/
inductive Target
  | scalar (option : ScalarOption)
  | list (option : ListOption)
  deriving DecidableEq

/-- The sections and names that `inih_handler` compares an entry with, in order. -/
def targets : List ((String × String) × Target) :=
  [(("filter", "whitelist"), .list .whitelist),
   (("filter", "blacklist"), .list .blacklist),
   (("general", "reaper_freq"), .scalar (.long .reaperFrequency)),
   (("general", "defaultgov"), .scalar (.string .defaultgov)),
   (("general", "desiredgov"), .scalar (.string .desiredgov)),
   (("general", "defaultprof"), .scalar (.string .defaultprof)),
   (("general", "desiredprof"), .scalar (.string .desiredprof)),
   (("general", "igpu_desiredgov"), .scalar (.string .igpuDesiredgov)),
   (("general", "igpu_power_threshold"), .scalar .igpuPowerThreshold),
   (("general", "softrealtime"), .scalar (.string .softrealtime)),
   (("general", "renice"), .scalar (.long .renice)),
   (("general", "ioprio"), .scalar (.string .ioprio)),
   (("general", "inhibit_screensaver"), .scalar (.long .inhibitScreensaver)),
   (("general", "disable_splitlock"), .scalar (.long .disableSplitlock)),
   (("gpu", "apply_gpu_optimisations"), .scalar (.string .applyGpuOptimisations)),
   (("gpu", "gpu_device"), .scalar (.long .gpuDevice)),
   (("gpu", "nv_core_clock_mhz_offset"), .scalar (.long .nvCoreClockMhzOffset)),
   (("gpu", "nv_mem_clock_mhz_offset"), .scalar (.long .nvMemClockMhzOffset)),
   (("gpu", "nv_powermizer_mode"), .scalar (.long .nvPowermizerMode)),
   (("gpu", "nv_per_profile_editable"), .scalar (.long .nvPerProfileEditable)),
   (("gpu", "amd_performance_level"), .scalar (.string .amdPerformanceLevel)),
   (("cpu", "park_cores"), .scalar (.string .cpuParkCores)),
   (("cpu", "pin_cores"), .scalar (.string .cpuPinCores)),
   (("cpu", "amd_x3d_mode_desired"), .scalar (.x3d .amdX3dModeDesired)),
   (("cpu", "amd_x3d_mode_default"), .scalar (.x3d .amdX3dModeDefault)),
   (("supervisor", "supervisor_whitelist"), .list .supervisorWhitelist),
   (("supervisor", "supervisor_blacklist"), .list .supervisorBlacklist),
   (("supervisor", "require_supervisor"), .scalar (.long .requireSupervisor)),
   (("custom", "start"), .list .startscripts),
   (("custom", "end"), .list .endscripts),
   (("custom", "script_timeout"), .scalar (.long .scriptTimeout))]

/-- The dispatch of `inih_handler`. -/
def target (sectionName name : String) : Option Target := targets.lookup (sectionName, name)

private def Target.isAt (location : String × String) : Target → Bool
  | .scalar option => location == (option.sectionName, option.name)
  | .list _ => true

private theorem isAt_of_mem_targets : ∀ entry ∈ targets, entry.2.isAt entry.1 := by
  decide

/-- The dispatch sends an entry to an option exactly when section and name are the option's. -/
theorem target_eq_scalar_iff {sectionName name : String} {option : ScalarOption} :
    target sectionName name = some (.scalar option) ↔
      sectionName = option.sectionName ∧ name = option.name := by
  constructor
  · intro h
    obtain ⟨l, l', hl, -⟩ := List.lookup_eq_some_iff.1 h
    have hmem : ((sectionName, name), Target.scalar option) ∈ targets := by
      rw [hl]
      exact List.mem_append_right l List.mem_cons_self
    exact Prod.mk.inj (eq_of_beq (isAt_of_mem_targets _ hmem))
  · rintro ⟨rfl, rfl⟩
    cases option with
    | long o => cases o <;> rfl
    | string o => cases o <;> rfl
    | x3d o => cases o <;> rfl
    | igpuPowerThreshold => rfl

/-- The data that a load carries: the values, `errno` and `load_protected`. -/
structure LoadState where
  /-- The values loaded so far. -/
  config : Config
  /-- The error number of the thread. -/
  errno : ℤ
  /-- Whether the `[gpu]` options may be set. -/
  loadProtected : Bool

/-- The value that a validator accepts is stored; `errno` is as the validator leaves it. -/
def LoadState.store (self : LoadState) (option : ScalarOption) :
    Option option.Value × ℤ → Bool × LoadState
  | (some value, errno) =>
    (true, { self with config := self.config.set option value, errno := errno })
  | (none, errno) => (false, { self with errno := errno })

/-- `inih_handler`: whether the entry is valid, and the state afterwards. -/
def inihHandler (entry : Entry) (self : LoadState) : Bool × LoadState :=
  if entry.sectionName = "gpu" ∧ ¬self.loadProtected then (false, self)
  else
    match target entry.sectionName entry.name with
    | none => (false, self)
    | some (.list option) =>
      let (valid, list) := appendValueToList entry.value (self.config.list option)
      (valid, { self with config := self.config.setList option list })
    | some (.scalar option) =>
      self.store option (acceptScalar strtof option self.errno entry.value)

section Store

variable (self : LoadState) (option : ScalarOption) (r : Option option.Value × ℤ)

@[simp] theorem LoadState.store_fst : (self.store option r).1 = r.1.isSome := by
  obtain ⟨_ | _, _⟩ := r <;> rfl

@[simp] theorem LoadState.store_errno : (self.store option r).2.errno = r.2 := by
  obtain ⟨_ | _, _⟩ := r <;> rfl

@[simp] theorem LoadState.store_loadProtected :
    (self.store option r).2.loadProtected = self.loadProtected := by
  obtain ⟨_ | _, _⟩ := r <;> rfl

@[simp] theorem LoadState.store_list (o : ListOption) :
    (self.store option r).2.config.list o = self.config.list o := by
  obtain ⟨_ | _, _⟩ := r
  · rfl
  · cases option <;> rfl

@[simp] theorem LoadState.store_get_self :
    (self.store option r).2.config.get option = r.1.getD (self.config.get option) := by
  obtain ⟨_ | _, _⟩ := r
  · rfl
  · exact Config.get_set_self ..

theorem LoadState.store_get_of_ne {option' : ScalarOption} (h : option' ≠ option) :
    (self.store option r).2.config.get option' = self.config.get option' := by
  obtain ⟨_ | _, _⟩ := r
  · rfl
  · exact Config.get_set_of_ne _ h _

end Store

/-- The option that an entry may set from a file with the given mark. -/
def admittedTarget (isProtected : Bool) (entry : Entry) : Option Target :=
  if entry.sectionName = "gpu" ∧ ¬isProtected then none
  else target entry.sectionName entry.name

theorem admittedTarget_eq_scalar_iff {isProtected : Bool} {entry : Entry}
    {option : ScalarOption} :
    admittedTarget isProtected entry = some (.scalar option) ↔
      entry.sectionName = option.sectionName ∧ entry.name = option.name ∧
        (entry.sectionName = "gpu" → isProtected) := by
  rw [admittedTarget]
  split_ifs with h
  · exact ⟨nofun, fun h' => absurd (h'.2.2 h.1) h.2⟩
  · rw [target_eq_scalar_iff]
    exact ⟨fun h' => ⟨h'.1, h'.2, fun hs => by_contra fun hp => h ⟨hs, hp⟩⟩,
      fun h' => ⟨h'.1, h'.2.1⟩⟩

theorem inihHandler_of_scalar {entry : Entry} {self : LoadState} {option : ScalarOption}
    (h : admittedTarget self.loadProtected entry = some (.scalar option)) :
    inihHandler strtof entry self =
      self.store option (acceptScalar strtof option self.errno entry.value) := by
  rw [admittedTarget] at h
  rw [inihHandler]
  split_ifs at h ⊢
  rw [h]

/-- Any other entry leaves the single-value options and `errno` alone. -/
theorem inihHandler_of_not_scalar {entry : Entry} {self : LoadState}
    (h : ∀ option, admittedTarget self.loadProtected entry ≠ some (.scalar option)) :
    (∀ option, (inihHandler strtof entry self).2.config.get option = self.config.get option) ∧
      (inihHandler strtof entry self).2.errno = self.errno := by
  rw [admittedTarget] at h
  rw [inihHandler]
  split_ifs at h ⊢
  · exact ⟨fun _ => rfl, rfl⟩
  · cases ht : target entry.sectionName entry.name with
    | none => exact ⟨fun _ => rfl, rfl⟩
    | some t =>
      cases t with
      | list o => exact ⟨fun option => Config.get_setList .., rfl⟩
      | scalar o => exact absurd ht (h o)

theorem inihHandler_loadProtected (entry : Entry) (self : LoadState) :
    (inihHandler strtof entry self).2.loadProtected = self.loadProtected := by
  rw [inihHandler]
  split_ifs
  · rfl
  · split
    · rfl
    · rfl
    · exact LoadState.store_loadProtected ..

/-! ### All files -/

/-- The error number of a call that fails, other than a conversion. None of these calls fails with
`ERANGE`. -/
structure CallError where
  /-- What the call leaves in `errno`. -/
  errno : ℤ
  ne_erange : errno ≠ erange
  deriving DecidableEq

/-- `fopen` finds no file. -/
def CallError.noEntry : CallError := ⟨enoent, by decide⟩

/-- What happens while a file is open. The calls that may fail between the entries, before the first
and after the last are those of `LOG_MSG` and `LOG_ERROR`, reading the file, and
`inotify_add_watch`. -/
inductive FileEvent
  | entry (entry : Entry)
  | callError (error : CallError)
  deriving DecidableEq

/-- What `load_config_files` finds at a location: no path at all, a path that `fopen` cannot open,
or a file. -/
inductive LocationFile
  | noPath
  | missing (error : CallError)
  | file (events : List FileEvent)
  deriving DecidableEq

/-- A file whose entries are read and that is watched without an error. -/
def LocationFile.ofEntries (entries : List Entry) : LocationFile := .file (entries.map .entry)

/-- There is no file. -/
def LocationFile.absent : LocationFile := .missing .noEntry

/-- A location with its mark. -/
structure ConfigLocation where
  /-- Whether the file may set the `[gpu]` options. -/
  isProtected : Bool
  /-- What is found there. -/
  file : LocationFile
  deriving DecidableEq

/-- A call fails. -/
def LoadState.fail (self : LoadState) (error : CallError) : LoadState :=
  { self with errno := error.errno }

/-- One event. -/
def LoadState.handle (self : LoadState) : FileEvent → LoadState
  | .entry entry => (inihHandler strtof entry self).2
  | .callError error => self.fail error

/-- The body of the loop of `load_config_files`. -/
def loadLocation (self : LoadState) (location : ConfigLocation) : LoadState :=
  match location.file with
  | .noPath => self
  | .missing error => self.fail error
  | .file events =>
    events.foldl (LoadState.handle strtof) { self with loadProtected := location.isProtected }

/-- The state before the first location. -/
def LoadState.start (errno : ℤ) : LoadState := ⟨Config.initial, errno, false⟩

/-- The loop of `load_config_files` over any list of locations. -/
def loadLocations (errno : ℤ) (locations : List ConfigLocation) : LoadState :=
  locations.foldl (loadLocation strtof) (LoadState.start errno)

/-- The four locations of `load_config_files`, in order. -/
def configLocations (sysconfdir etc home current : LocationFile) : List ConfigLocation :=
  [⟨true, sysconfdir⟩, ⟨true, etc⟩, ⟨false, home⟩, ⟨false, current⟩]

/-- `load_config_files`. -/
def loadConfigFiles (errno : ℤ) (sysconfdir etc home current : LocationFile) : Config :=
  (loadLocations strtof errno (configLocations sysconfdir etc home current)).config

end GameMode
