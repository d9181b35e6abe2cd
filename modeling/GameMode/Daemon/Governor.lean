import GameMode.Config.Values
import GameMode.Library.Rounding
import GameMode.Library.SavedSetting

/-!
# CPU governor, platform profile and integrated GPU

The daemon saves the governor of the CPUs and the platform profile before it changes them, and sets
them through helper commands. A helper that reports failure changes nothing, and one that reports
success has taken effect.

While a game runs, the reaper compares the energy of the integrated GPU with that of the CPU and
switches between two governors.

## Main definitions

* `getGovState`, `storeGovernor`, `setGovernor`: the governor.
* `getProfileState`, `storeProfile`, `setProfile`: the platform profile.
* `enableIgpuOptimization`, `energyRatio`, `checkIgpuEnergy`: the integrated GPU.

## Main results

* `getGovState_of_forall`: files that all hold one short name read as that name.
* `lt_energyRatio_iff`: when the ratio of two energies, as a `double`, exceeds a `float`.

Source: `daemon/gamemode-context.c`, `game_mode_store_governor` to `game_mode_check_igpu_energy`;
`common/common-governors.c`, `common/common-profile.c`.
-/

namespace GameMode

/-! ### Files with one line -/

/-- The name of a setting as the kernel shows it: not empty, and on one line. -/
structure SettingName where
  /-- The name. -/
  name : CString
  ne_nil : name ≠ []
  notMem : '\n' ∉ name

/-- The contents of a file that shows a value on a line. -/
def fileContents (value : CString) : CString := value ++ ['\n']

theorem strtokLine_fileContents (value : SettingName) :
    (fileContents value.name).strtokLine = value.name :=
  CString.strtokLine_append value.ne_nil value.notMem

/-! ### The governor -/

/-- `enum GameModeGovernor`. -/
inductive GameModeGovernor
  | default | desired | igpuDesired
  deriving DecidableEq, Repr

/-- A `scaling_governor` file that `fetch_governors` found. -/
structure GovernorFile where
  /-- The governor. -/
  value : CString
  /-- Whether the file can be read. -/
  readable : Bool
  deriving DecidableEq

/-- `current_govenor`, `initial_cpu_mode`, and the governors of the system. -/
abbrev GovernorState := SavedSetting GameModeGovernor CString (List GovernorFile)

/-- The size of the buffers for a governor or a profile. -/
def modeSize : ℕ := 64

/-- The loop of `get_gov_state`: a file that cannot be read is skipped, and governors that differ
are `malformed`. -/
def getGovStateFrom (governor : CString) : List GovernorFile → CString
  | [] => governor
  | file :: files =>
    if file.readable then
      let contents := (fileContents file.value).strtokLine
      if governor ≠ [] ∧ governor.take modeSize ≠ contents.take modeSize then "malformed".toList
      else getGovStateFrom (contents.truncate modeSize) files
    else getGovStateFrom governor files

/-- `get_gov_state`. -/
def getGovState (files : List GovernorFile) : CString := getGovStateFrom [] files

/-- `game_mode_store_governor`. -/
def storeGovernor (s : GovernorState) : GovernorState :=
  s.store .default fun files => (getGovState files).truncate modeSize

/-- The governor that `game_mode_set_governor` asks for. -/
def governorText (config : Config) (initialCpuMode : CString) : GameModeGovernor → CString
  | .default =>
    let text := config.string .defaultgov
    if text ≠ [] then text else initialCpuMode
  | .desired =>
    let text := config.string .desiredgov
    if text ≠ [] then text else "performance".toList
  | .igpuDesired =>
    let text := config.string .igpuDesiredgov
    if text ≠ [] then text else "powersave".toList

/-- `cpugovctl set`: every file holds the governor. -/
def cpugovctlSet (value : CString) (files : List GovernorFile) : List GovernorFile :=
  files.map fun file => { file with value := value }

/-- `game_mode_set_governor`: whether the result is zero, and the state afterwards. -/
def setGovernor (config : Config) (gov : GameModeGovernor) (ok : Bool) (s : GovernorState) :
    Bool × GovernorState :=
  s.set gov (cpugovctlSet (governorText config s.saved gov) s.system) ok

/-- Every file can be read and holds the governor. -/
def AllGovernors (governor : CString) (files : List GovernorFile) : Prop :=
  files ≠ [] ∧ ∀ file ∈ files, file.value = governor ∧ file.readable = true

private theorem getGovStateFrom_of_forall {governor : SettingName}
    (hlength : governor.name.length < modeSize) :
    (files : List GovernorFile) →
      (∀ file ∈ files, file.value = governor.name ∧ file.readable = true) →
      getGovStateFrom governor.name files = governor.name
  | [], _ => rfl
  | file :: files, h => by
    obtain ⟨⟨hvalue, hread⟩, hfiles⟩ := List.forall_mem_cons.1 h
    have hline := strtokLine_fileContents governor
    rw [getGovStateFrom, if_pos hread, hvalue]
    simp only [hline, ne_eq, not_true_eq_false, and_false, if_false]
    rw [CString.truncate_of_length_lt hlength]
    exact getGovStateFrom_of_forall hlength files hfiles

/-- Files that all hold one short name read as that name. -/
theorem getGovState_of_forall {governor : SettingName}
    (hlength : governor.name.length < modeSize) {files : List GovernorFile}
    (h : AllGovernors governor.name files) : getGovState files = governor.name := by
  obtain ⟨file, files, rfl⟩ := List.exists_cons_of_ne_nil h.1
  obtain ⟨⟨hvalue, hread⟩, hfiles⟩ := List.forall_mem_cons.1 h.2
  rw [getGovState, getGovStateFrom, if_pos hread, hvalue, strtokLine_fileContents]
  simp only [ne_eq, not_true_eq_false, false_and, if_false]
  rw [CString.truncate_of_length_lt hlength]
  exact getGovStateFrom_of_forall hlength files hfiles

theorem allGovernors_cpugovctlSet {governor governor' : CString} {files : List GovernorFile}
    (h : AllGovernors governor files) :
    AllGovernors governor' (cpugovctlSet governor' files) := by
  refine ⟨fun hnil => h.1 (List.map_eq_nil_iff.1 hnil), fun file hfile => ?_⟩
  obtain ⟨file', hfile', rfl⟩ := List.mem_map.1 hfile
  exact ⟨rfl, (h.2 file' hfile').2⟩

/-! ### The platform profile -/

/-- `enum GameModeProfile`. -/
inductive GameModeProfile
  | default | desired
  deriving DecidableEq, Repr

/-- `current_profile`, `initial_profile`, and the profile file, if it exists. -/
abbrev ProfileState := SavedSetting GameModeProfile CString (Option CString)

/-- `get_profile_state`, for a file that opens. -/
def getProfileState (value : CString) : CString :=
  (fileContents value).strtokLine.truncate modeSize

/-- `game_mode_store_profile`. -/
def storeProfile (s : ProfileState) : ProfileState :=
  if s.system = none then s
  else s.store .default fun file => (getProfileState (file.getD [])).truncate modeSize

/-- The profile that `game_mode_set_profile` asks for. -/
def profileText (config : Config) (initialProfile : CString) : GameModeProfile → CString
  | .default =>
    let text := config.string .defaultprof
    if text ≠ [] then text else initialProfile
  | .desired =>
    let text := config.string .desiredprof
    if text ≠ [] then text else "performance".toList

/-- `game_mode_set_profile`: whether the result is zero, and the state afterwards. -/
def setProfile (config : Config) (prof : GameModeProfile) (ok : Bool) (s : ProfileState) :
    Bool × ProfileState :=
  if s.current = prof then (true, s)
  else if s.system = none then (true, s)
  else s.set prof (some (profileText config s.saved prof)) ok

/-! ### The integrated GPU -/

/-- `igpu_optimization_enabled` and the last energies. -/
structure IgpuState where
  /-- `igpu_optimization_enabled`. -/
  enabled : Bool
  /-- `last_cpu_energy_uj`. -/
  lastCpuEnergyUj : UInt32
  /-- `last_igpu_energy_uj`. -/
  lastIgpuEnergyUj : UInt32
  deriving DecidableEq

/-- What `get_cpu_energy_uj` and `get_igpu_energy_uj` read. -/
structure Energies where
  /-- The energy of the CPU, if it can be read. -/
  cpu : Option UInt32
  /-- The energy of the integrated GPU, if it can be read. -/
  igpu : Option UInt32
  deriving DecidableEq

/-- `game_mode_enable_igpu_optimization`: the second energy is read only when the first one is. -/
def enableIgpuOptimization (config : Config) (energies : Energies) (s : IgpuState) : IgpuState :=
  if config.getIgpuPowerThreshold.isLt 10000 then
    match energies.cpu, energies.igpu with
    | none, _ => s
    | some cpu, none => { s with lastCpuEnergyUj := cpu }
    | some cpu, some igpu => ⟨true, cpu, igpu⟩
  else s

/-- `game_mode_disable_igpu_optimization`. -/
def disableIgpuOptimization (s : IgpuState) : IgpuState := { s with enabled := false }

/-- The numbers that a `float` can hold: 24 binary digits. -/
def IsFloat (q : ℚ) : Prop := Rounding.HasDigits 24 q

/-- The ratio of two differences as a `double`: both are exact, and the quotient is rounded. -/
def energyRatio (igpuDelta cpuDelta : UInt32) : ℚ :=
  Rounding.round 53 (igpuDelta.toNat / cpuDelta.toNat)

section EnergyRatio

variable {igpuDelta cpuDelta : UInt32} {t : ℚ}

/-- The ratio exceeds a positive `float` just when the quotient exceeds it by more than half a unit
in the last place of a `double`. -/
theorem lt_energyRatio_iff (ht : IsFloat t) (hpos : 0 < t) :
    t < energyRatio igpuDelta cpuDelta ↔
      t + Rounding.ulp 53 t / 2 < (igpuDelta.toNat : ℚ) / cpuDelta.toNat :=
  Rounding.lt_round_iff (p := 52) (ht.mono (by decide)) hpos
    (div_nonneg (Nat.cast_nonneg _) (Nat.cast_nonneg _))

theorem energyRatio_pos (hcpu : 0 < cpuDelta.toNat) (higpu : 0 < igpuDelta.toNat) :
    0 < energyRatio igpuDelta cpuDelta :=
  Rounding.round_pos (div_pos (Nat.cast_pos.2 higpu) (Nat.cast_pos.2 hcpu))

theorem energyRatio_of_eq_zero (higpu : igpuDelta.toNat = 0) :
    energyRatio igpuDelta cpuDelta = 0 := by
  rw [energyRatio, higpu, Nat.cast_zero, zero_div, Rounding.round_zero]

end EnergyRatio

/-- `game_mode_check_igpu_energy`: the differences wrap at 32 bits, and their ratio is compared with
the threshold. -/
def checkIgpuEnergy (config : Config) (energies : Energies) (ok : Bool)
    (s : GovernorState × IgpuState) : GovernorState × IgpuState :=
  let (gov, igpu) := s
  if gov.current = .default then (gov, igpu)
  else if ¬igpu.enabled then (gov, igpu)
  else
    match energies.cpu, energies.igpu with
    | some cpuEnergy, some igpuEnergy =>
      let cpuDelta := cpuEnergy - igpu.lastCpuEnergyUj
      let igpuDelta := igpuEnergy - igpu.lastIgpuEnergyUj
      let igpu := { igpu with lastCpuEnergyUj := cpuEnergy, lastIgpuEnergyUj := igpuEnergy }
      if cpuDelta = 0 then (gov, igpu)
      else if config.getIgpuPowerThreshold.isLt (energyRatio igpuDelta cpuDelta) then
        ((setGovernor config .igpuDesired ok gov).2, igpu)
      else ((setGovernor config .desired ok gov).2, igpu)
    | _, _ => (gov, { igpu with enabled := false })

/-- What the check of the energies does to the governor: outside of the default mode it may set one
of the other governors. -/
theorem checkIgpuEnergy_governor_cases (config : Config) (energies : Energies) (ok : Bool)
    (s : GovernorState) (igpu : IgpuState) :
    (checkIgpuEnergy config energies ok (s, igpu)).1 = s ∨
      s.current ≠ .default ∧ ∃ gov, gov ≠ .default ∧
        (checkIgpuEnergy config energies ok (s, igpu)).1 = (setGovernor config gov ok s).2 := by
  simp only [checkIgpuEnergy]
  split
  · exact Or.inl rfl
  split
  · exact Or.inl rfl
  rename_i hdefault _
  split
  · split
    · exact Or.inl rfl
    · split
      · exact Or.inr ⟨hdefault, .igpuDesired, by decide, rfl⟩
      · exact Or.inr ⟨hdefault, .desired, by decide, rfl⟩
  · exact Or.inl rfl

end GameMode
