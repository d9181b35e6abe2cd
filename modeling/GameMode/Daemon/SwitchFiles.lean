import GameMode.Daemon.Interleaving
import GameMode.Daemon.SwitchRuns
import GameMode.Util.SettingHelpers

/-!
# The files behind the settings

The platform profile, the split-lock mitigation and the X3D mode are files of the kernel. The daemon
reads them itself or through a helper, and has them written by helpers: what it knows of a write is
the result of running the helper as a child process. Here the daemon is followed down to the texts
that are read, passed on as arguments, and written.

The settings of the daemon are true to the files as long as a helper is reported to succeed just
when the kernel takes its text. A text that is rejected at the very end of a write, when the helper
does not look any more, breaks this, and so does a helper that is killed or never started.

## Main definitions

* `ProfileFile`, `SplitlockFile`, `X3dFile`: a file, with what the daemon remembers.
* `SwitchFiles`, `SwitchPivot`, `SwitchFiles.apply`: all three of them, when game mode is entered
  and left.
* `SwitchFiles.Shows`: the files hold what the settings say.

## Main results

* `ProfileFile.shows_set_iff`, `SplitlockFile.shows_disable_iff`, `X3dFile.shows_set_iff`: what a
  single write does.
* `filesShow_iff`: when the settings are true to the files in a run.
* `profileFile_restored_iff`: when the profile is put back in a run.

Source: `daemon/gamemode-context.c`, `game_mode_store_splitlock` to `game_mode_set_profile`;
`util/platprofctl.c`, `util/x3dmodectl.c`, `util/procsysctl.c`.
-/

namespace GameMode

/-! ### The daemon and its helpers -/

/-- The calls of the helpers. `pkexec` runs those that write as root, or refuses to. -/
structure HelperCalls where
  /-- `pkexec platprofctl set`. -/
  profile : HelperCall
  /-- `pkexec procsysctl split_lock_mitigate`. -/
  splitlock : HelperCall
  /-- `x3dmodectl get`. -/
  x3dGet : HelperCall
  /-- `pkexec x3dmodectl set`. -/
  x3d : HelperCall

/-- `current_profile` and `initial_profile`, and the contents of the file, if it exists. -/
structure ProfileFile where
  /-- `current_profile`. -/
  current : GameModeProfile
  /-- `initial_profile`. -/
  initial : CString
  /-- The contents of `/sys/firmware/acpi/platform_profile`. -/
  file : Option CString

namespace ProfileFile

/-- `game_mode_store_profile`. -/
def store (s : ProfileFile) : ProfileFile :=
  match s.file with
  | none => s
  | some contents =>
    if s.current ≠ .default then s
    else { s with initial := (profileContents contents).truncate modeSize }

/-- The profile that `game_mode_set_profile` passes to the helper, if it calls the helper. -/
def request (config : Config) (prof : GameModeProfile) (s : ProfileFile) : Option CString :=
  if s.current = prof then none
  else if s.file = none then none
  else some (profileText config s.initial prof)

/-- `game_mode_set_profile`. -/
def set (config : Config) (call : HelperCall) (prof : GameModeProfile) (s : ProfileFile) :
    ProfileFile :=
  match s.request config prof with
  | none => s
  | some text =>
    let run := platprofctl true (s.file.getD []) call.write
      ["platprofctl".toList, "set".toList, text]
    { s with
      current := if call.reports run then prof else s.current
      file := call.after run s.file }

end ProfileFile

/-- `initial_split_lock_mitigate`, and the contents of the file, if it can be read. -/
structure SplitlockFile where
  /-- `initial_split_lock_mitigate`. -/
  initial : ℤ
  /-- The contents of `/proc/sys/kernel/split_lock_mitigate`. -/
  file : Option CString

namespace SplitlockFile

/-- `game_mode_store_splitlock`. -/
def store (s : SplitlockFile) : SplitlockFile := { s with initial := splitlockContents s.file }

/-- The text that `game_mode_disable_splitlock` passes to the helper, if it calls the helper. -/
def request (config : Config) (disable : Bool) (s : SplitlockFile) : Option CString :=
  if ¬config.getDisableSplitlock then none
  else if disable ∧ s.initial = 0 then none
  else if s.initial = -1 then none
  else some (CString.decimal s.initial)

/-- `game_mode_disable_splitlock`. -/
def disable (config : Config) (call : HelperCall) (disable : Bool) (s : SplitlockFile) :
    SplitlockFile :=
  match s.request config disable with
  | none => s
  | some text =>
    let run := procsysctl true call.write
      ["procsysctl".toList, "split_lock_mitigate".toList, text]
    { s with file := call.after run s.file }

end SplitlockFile

/-- `initial_x3d_mode`, whether the helper can be executed, and the contents of the file, if the
processor has a mode. -/
structure X3dFile where
  /-- `initial_x3d_mode`. -/
  initial : CString
  /-- Whether the helper can be executed. -/
  helper : Bool
  /-- The contents of `amd_x3d_mode`. -/
  file : Option CString

namespace X3dFile

/-- `game_mode_store_x3d_mode`: the buffer is empty before the helper is run. -/
def store (config : Config) (call : HelperCall) (s : X3dFile) : X3dFile :=
  if config.x3dText .amdX3dModeDesired = [] then s
  else if ¬s.helper then s
  else
    let run := call.result true
      (x3dmodectl false s.file call.write ["x3dmodectl".toList, "get".toList])
    if run.ret ≠ 0 then s
    else
      { s with
        initial := ((run.buffer.getD []).truncate x3dModeSize).takeWhile (· != '\n') }

/-- The text that `game_mode_set_x3d_mode` passes to the helper, if it calls the helper. -/
def request (config : Config) (desired : Bool) (s : X3dFile) : Option CString :=
  let text :=
    if desired then config.x3dText .amdX3dModeDesired
    else if config.x3dText .amdX3dModeDefault = [] then s.initial.truncate configValueMax
    else config.x3dText .amdX3dModeDefault
  if text = [] then none
  else if ¬s.helper then none
  else if getX3dModeValue text = none then none
  else some text

/-- `game_mode_set_x3d_mode`. -/
def set (config : Config) (call : HelperCall) (desired : Bool) (s : X3dFile) : X3dFile :=
  match s.request config desired with
  | none => s
  | some text =>
    let run := x3dmodectl true s.file call.write ["x3dmodectl".toList, "set".toList, text]
    { s with file := call.after run s.file }

end X3dFile

/-- The three files, and the configuration. -/
structure SwitchFiles where
  /-- The configuration. -/
  config : Config
  /-- The platform profile. -/
  profile : ProfileFile
  /-- The split-lock mitigation. -/
  splitlock : SplitlockFile
  /-- The X3D mode. -/
  x3d : X3dFile

/-- Game mode is entered or left, the configuration is read again, or something else happens that
does not touch the files. -/
inductive SwitchPivot
  | enter (o : Outcomes) (calls : HelperCalls)
  | leave (o : Outcomes) (calls : HelperCalls)
  | reread (env : Env)
  | energy (env : Env)

namespace SwitchFiles

/-- `game_mode_context_store_defaults`. -/
def storeDefaults (x3dGet : HelperCall) (s : SwitchFiles) : SwitchFiles :=
  { s with
    profile := s.profile.store
    splitlock := s.splitlock.store
    x3d := s.x3d.store s.config x3dGet }

/-- The three settings that `game_mode_context_enter` changes after saving them, and
`game_mode_context_leave` changes back. -/
def switch (calls : HelperCalls) (enter : Bool) (s : SwitchFiles) : SwitchFiles :=
  { s with
    profile := s.profile.set s.config calls.profile (if enter then .desired else .default)
    splitlock := s.splitlock.disable s.config calls.splitlock enter
    x3d := s.x3d.set s.config calls.x3d enter }

/-- What a pivot does to the files. -/
def apply (s : SwitchFiles) : SwitchPivot → SwitchFiles
  | .enter _ calls => (s.storeDefaults calls.x3dGet).switch calls true
  | .leave _ calls => s.switch calls false
  | .reread env => { s with config := env.reloaded }
  | .energy _ => s

end SwitchFiles

/-- The outcomes with what is reported of the helpers. Where the processor has no mode, its helper
fails, but then there is nothing to change either. -/
def Outcomes.withReports (o : Outcomes) (calls : HelperCalls) : Outcomes :=
  { o with
    profileSet := calls.profile.reportsWrite
    splitlockSet := calls.splitlock.reportsWrite
    x3dGet := calls.x3dGet.reportsRead
    x3dSet := calls.x3d.reportsWrite }

/-- The pivot as the daemon sees it. -/
def SwitchPivot.seen : SwitchPivot → Pivot
  | .enter o calls => .enter (o.withReports calls)
  | .leave o calls => .leave (o.withReports calls)
  | .reread env => .reread env
  | .energy env => .energy env

/-! ### What the files hold -/

@[simp] theorem getLast?_fileContents (value : CString) :
    (fileContents value).getLast? = some '\n' := List.getLast?_concat

@[simp] theorem fileContents_inj {value value' : CString} :
    fileContents value = fileContents value' ↔ value = value' := List.append_left_inj _

namespace ProfileFile

/-- The file holds the profile of the setting. -/
@[mk_iff shows_iff]
structure Shows (s : ProfileFile) (p : ProfileState) : Prop where
  current : p.current = s.current
  saved : p.saved = s.initial
  file : s.file = p.system.map fileContents

variable {s : ProfileFile} {p : ProfileState} {config : Config}

theorem shows_store (h : s.Shows p) : s.store.Shows (storeProfile p) := by
  obtain ⟨current, initial, file⟩ := s
  obtain ⟨current', saved, system⟩ := p
  obtain ⟨rfl, rfl, rfl⟩ := h
  cases system with
  | none => exact ⟨rfl, rfl, rfl⟩
  | some name =>
    have hcontents : fileContents name ≠ [] := List.append_ne_nil_of_right_ne_nil _ (by simp)
    simp only [store, storeProfile, SavedSetting.store, Option.map_some, profileContents,
      getProfileState, hcontents, if_false, Option.getD_some, reduceCtorEq]
    split_ifs
    · exact ⟨rfl, rfl, rfl⟩
    · exact ⟨rfl, rfl, rfl⟩

/-- What is reported of the helper, and the file after it. -/
theorem set_eq (config : Config) (call : HelperCall) (prof : GameModeProfile) (s : ProfileFile) :
    s.set config call prof =
      match s.request config prof with
      | none => s
      | some text =>
        { s with
          current := if call.reportsWrite then prof else s.current
          file := if call.takes then some (fileContents text) else s.file } := by
  rw [set]
  cases s.request config prof with
  | none => rfl
  | some text =>
    have hrun : platprofctl true (s.file.getD []) call.write
        ["platprofctl".toList, "set".toList, text] = writeText (fileContents text) call.write := rfl
    simp only [hrun, HelperCall.reports_writeText, HelperCall.after_writeText,
      getLast?_fileContents, if_true]

/-- A profile stays true to its file if what is reported is what the file takes, or the file held
the text before. -/
theorem shows_set_iff (h : s.Shows p) (call : HelperCall) (prof : GameModeProfile) :
    (s.set config call prof).Shows (setProfile config prof call.reportsWrite p).2 ↔
      ∀ text ∈ s.request config prof, ¬call.Honest → s.file = some (fileContents text) := by
  obtain ⟨current, initial, file⟩ := s
  obtain ⟨current', saved, system⟩ := p
  obtain ⟨rfl, rfl, rfl⟩ := h
  rw [set_eq]
  by_cases hcurrent : current' = prof
  · simp [request, setProfile, hcurrent, shows_iff]
  cases system with
  | none => simp [request, setProfile, hcurrent, shows_iff]
  | some name =>
    have hrequest : request config prof ⟨current', saved, some (fileContents name)⟩ =
        some (profileText config saved prof) := by
      simp [request, hcurrent]
    simp only [Option.map_some, hrequest, setProfile, SavedSetting.set, hcurrent, if_false,
      reduceCtorEq, Option.mem_some_iff, forall_eq', HelperCall.Honest]
    cases call.reportsWrite <;> cases call.takes <;> simp [shows_iff, eq_comm]

end ProfileFile

namespace SplitlockFile

/-- The file holds the value of the setting. -/
@[mk_iff shows_iff]
structure Shows (s : SplitlockFile) (l : SplitlockState) : Prop where
  initial : l.initial = s.initial
  file : s.file = l.value.map fun v => fileContents (CString.decimal v)
  mem_long : CString.longMin ≤ s.initial ∧ s.initial ≤ CString.longMax
  value_mem_long : ∀ v ∈ l.value, CString.longMin ≤ v ∧ v ≤ CString.longMax

variable {s : SplitlockFile} {l : SplitlockState} {config : Config}

theorem shows_store (h : s.Shows l) : s.store.Shows (storeSplitlock l) := by
  obtain ⟨-, hfile, -, hvalue⟩ := h
  refine ⟨?_, hfile, splitlockContents_mem s.file, hvalue⟩
  rw [storeSplitlock, store, SplitlockState.getSplitlockState, hfile]
  cases hl : l.value with
  | none => rfl
  | some v => exact (splitlockContents_decimal (hvalue v hl)).symm

/-- The file after the helper ran. -/
theorem disable_eq (config : Config) (call : HelperCall) (enter : Bool) (s : SplitlockFile) :
    s.disable config call enter =
      match s.request config enter with
      | none => s
      | some text =>
        { s with file := if call.takes then some (fileContents text) else s.file } := by
  rw [disable]
  cases hrequest : s.request config enter with
  | none => rfl
  | some text =>
    have hline : text.getLast? ≠ some '\n' := by
      simp only [request, Option.ite_none_left_eq_some, Option.some.injEq] at hrequest
      rw [← hrequest.2.2.2]
      exact fun hlast => newline_notMem_decimal _ (List.mem_of_getLast? hlast)
    have hrun : procsysctl true call.write
        ["procsysctl".toList, "split_lock_mitigate".toList, text] = writeText text call.write := rfl
    simp only [hrun, HelperCall.after_writeText, hline, if_false]

/-- The mitigation stays true to its file if what is reported is what the file takes, or the file
held the text before. -/
theorem shows_disable_iff (h : s.Shows l) (call : HelperCall) (enter : Bool) :
    (s.disable config call enter).Shows (disableSplitlock config enter call.reportsWrite l) ↔
      ∀ text ∈ s.request config enter, ¬call.Honest → s.file = some (fileContents text) := by
  obtain ⟨saved, file⟩ := s
  obtain ⟨saved', value⟩ := l
  obtain ⟨rfl, rfl, hinitial, hvalue⟩ := h
  have hlong : CString.longMin ≤ saved' ∧ saved' ≤ CString.longMax := hinitial
  have hvalues : ∀ v, value = some v → CString.longMin ≤ v ∧ v ≤ CString.longMax := hvalue
  rw [disable_eq]
  by_cases hrequest : config.getDisableSplitlock ∧ ¬(enter = true ∧ saved' = 0) ∧ saved' ≠ -1
  · obtain ⟨hdisable, hzero, hunreadable⟩ := hrequest
    simp only [request, disableSplitlock, hdisable, hzero, hunreadable, not_true_eq_false, if_false,
      Option.mem_some_iff, forall_eq', HelperCall.Honest]
    cases call.reportsWrite <;> cases call.takes <;>
      simp +contextual [shows_iff, hlong, hvalues, eq_comm]
  · have hnone : request config enter
        ⟨saved', value.map fun v => fileContents (CString.decimal v)⟩ = none := by
      simp only [request]
      split_ifs <;> tauto
    have hsame : disableSplitlock config enter call.reportsWrite ⟨saved', value⟩ =
        ⟨saved', value⟩ := by
      simp only [disableSplitlock]
      split_ifs <;> tauto
    rw [hnone, hsame]
    simp [shows_iff, hlong]
    exact hvalues

end SplitlockFile

namespace X3dFile

/-- The file holds the mode of the setting. -/
@[mk_iff shows_iff]
structure Shows (s : X3dFile) (x : X3dState) : Prop where
  initial : x.initial = s.initial
  helper : x.helper = s.helper
  file : s.file = x.mode.map fun mode => fileContents mode.text

variable {s : X3dFile} {x : X3dState} {config : Config}

theorem x3dContents_mode (x : X3dState) :
    x3dContents (x.mode.map fun mode => fileContents mode.text) = x.getX3dMode := by
  rw [X3dState.getX3dMode]
  cases x.mode with
  | none => rfl
  | some mode => cases mode <;> decide

theorem savedMode_ne_nil (x : X3dState) :
    (x.getX3dMode.truncate x3dModeSize).takeWhile (· != '\n') ≠ [] := by
  rw [X3dState.getX3dMode]
  cases x.mode with
  | none => decide
  | some mode => cases mode <;> decide

/-- The mode that is saved is the one of the setting if the daemon does not ask for it, or is told
of a failure, or gets the text. -/
theorem shows_store_iff (h : s.Shows x) (call : HelperCall) :
    (s.store config call).Shows (storeX3dMode config call.reportsRead x) ↔
      (config.x3dText .amdX3dModeDesired ≠ [] → s.helper = true → call.reportsRead = true →
        call.delivers = true) := by
  have hrun : x3dmodectl false s.file call.write ["x3dmodectl".toList, "get".toList] =
      .print x.getX3dMode := by
    rw [h.file, ← x3dContents_mode]
    rfl
  have hread : (x.getX3dMode.take (externalBufferMax - 1)).take (x3dModeSize - 1) =
      x.getX3dMode.take (x3dModeSize - 1) := List.take_take
  have hne := savedMode_ne_nil x
  simp only [CString.truncate] at hne
  simp only [store, storeX3dMode, hrun, h.helper, HelperCall.result_print_ret_ne_zero_iff,
    HelperCall.result_buffer, CString.truncate]
  by_cases hdesired : config.x3dText .amdX3dModeDesired = []
  · simp [hdesired, h]
  cases hhelper : s.helper with
  | false => simp [hdesired, h]
  | true =>
    cases hreports : call.reportsRead with
    | false => simp [hdesired, h]
    | true =>
      cases hdelivers : call.delivers with
      | false => simp [hdesired, shows_iff, hne]
      | true => simp [hdesired, shows_iff, h.file, HelperRun.print, hread]

/-- Saving the mode changes nothing else. -/
theorem shows_store_of_initial (h : s.Shows x) {call : HelperCall}
    (hinitial : (storeX3dMode config call.reportsRead x).initial = (s.store config call).initial) :
    (s.store config call).Shows (storeX3dMode config call.reportsRead x) := by
  have hkept : (s.store config call).helper = s.helper ∧ (s.store config call).file = s.file := by
    simp only [store]
    split_ifs <;> exact ⟨rfl, rfl⟩
  have hkept' : (storeX3dMode config call.reportsRead x).helper = x.helper ∧
      (storeX3dMode config call.reportsRead x).mode = x.mode := by
    simp only [storeX3dMode]
    split_ifs <;> exact ⟨rfl, rfl⟩
  refine ⟨hinitial, ?_, ?_⟩
  · rw [hkept.1, hkept'.1, h.helper]
  · rw [hkept.2, hkept'.2, h.file]

theorem setX3dMode_initial (config : Config) (desired ok : Bool) (x : X3dState) :
    (setX3dMode config desired ok x).initial = x.initial := by
  rw [setX3dMode_eq]
  cases x.asks config desired <;> cases ok <;> rfl

theorem set_initial (config : Config) (call : HelperCall) (desired : Bool) (s : X3dFile) :
    (s.set config call desired).initial = s.initial := by
  rw [set]
  cases s.request config desired <;> rfl

theorem eq_text_of_getX3dModeValue {text : CString} {mode : X3dMode}
    (h : getX3dModeValue text = some mode) : text = mode.text := by
  rw [getX3dModeValue] at h
  split_ifs at h with hfrequency hcache
  · rw [hfrequency, ← Option.some.inj h]
  · rw [hcache, ← Option.some.inj h]

/-- The helper is asked for the mode of the setting. -/
theorem request_eq (h : s.Shows x) (desired : Bool) :
    s.request config desired = (x.asks config desired).map X3dMode.text := by
  have htext : x.modeText config desired =
      if desired then config.x3dText .amdX3dModeDesired
      else if config.x3dText .amdX3dModeDefault = [] then s.initial.truncate configValueMax
      else config.x3dText .amdX3dModeDefault := by
    rw [X3dState.modeText, h.initial]
  rw [request, X3dState.asks, ← htext, h.helper]
  cases hvalue : getX3dModeValue (x.modeText config desired) with
  | none => simp
  | some mode =>
    have hmode := eq_text_of_getX3dModeValue hvalue
    have hne : mode.text ≠ [] := (getX3dModeValue_text mode).2.1
    cases s.helper
    · simp
    · simp [hne, hmode]

/-- The mode stays true to its file if the processor has none, or what is reported is what the file
takes, or the file held the text before. -/
theorem shows_set_iff (h : s.Shows x) (call : HelperCall) (desired : Bool) :
    (s.set config call desired).Shows (setX3dMode config desired call.reportsWrite x) ↔
      ∀ text ∈ s.request config desired, ¬call.Honest → s.file ≠ none →
        s.file = some (fileContents text) := by
  rw [setX3dMode_eq, set, request_eq h]
  cases x.asks config desired with
  | none => simpa using h
  | some mode =>
    obtain ⟨saved, helper, file⟩ := s
    obtain ⟨hsaved, hhelper, rfl⟩ := h
    have hvalue := (getX3dModeValue_text mode).1
    cases hmode : x.mode with
    | none =>
      cases call.reportsWrite <;>
        simp [x3dmodectl, getOrSet, setX3dModeFile, HelperCall.after, HelperRun.failure,
          HelperRun.after, shows_iff, X3dState.setMode, hsaved, hhelper, hmode]
    | some mode' =>
      have hrun : x3dmodectl true (some (fileContents mode'.text)) call.write
          ["x3dmodectl".toList, "set".toList, mode.text] =
            writeText (fileContents mode.text) call.write := by
        simp [x3dmodectl, getOrSet, setX3dModeFile, hvalue]
      simp only [Option.map_some, hrun, HelperCall.after_writeText, getLast?_fileContents, if_true,
        HelperCall.Honest]
      cases call.reportsWrite <;> cases call.takes <;>
        simp [shows_iff, X3dState.setMode, hsaved, hhelper, hmode, eq_comm]

end X3dFile

/-! ### Runs -/

namespace SwitchFiles

/-- The files hold what the settings say. -/
structure Shows (s : SwitchFiles) (w : World) : Prop where
  config : w.config = s.config
  profile : s.profile.Shows w.profile
  splitlock : s.splitlock.Shows w.splitlock
  x3d : s.x3d.Shows w.x3d

/-- What is reported of the helpers that write is what the files take, or the files held the texts
before. -/
structure Taken (s : SwitchFiles) (calls : HelperCalls) (enter : Bool) : Prop where
  profile : ∀ text ∈ s.profile.request s.config (if enter then .desired else .default),
    ¬calls.profile.Honest → s.profile.file = some (fileContents text)
  splitlock : ∀ text ∈ s.splitlock.request s.config enter,
    ¬calls.splitlock.Honest → s.splitlock.file = some (fileContents text)
  x3d : ∀ text ∈ s.x3d.request s.config enter,
    ¬calls.x3d.Honest → s.x3d.file ≠ none → s.x3d.file = some (fileContents text)

/-- Where the daemon asks for the X3D mode and is told of a success, it gets the text. -/
def ReadsMode (s : SwitchFiles) (call : HelperCall) : Prop :=
  s.config.x3dText .amdX3dModeDesired ≠ [] → s.x3d.helper = true → call.reportsRead = true →
    call.delivers = true

variable {s : SwitchFiles} {w : World}

/-- The files before the daemon starts, and what it remembers then. -/
def start (config : Config) (system : OriginalSystem) : SwitchFiles where
  config := config
  profile := ⟨.default, [], system.profile.map fileContents⟩
  splitlock := ⟨-1, system.splitlock.map fun v => fileContents (CString.decimal v)⟩
  x3d := ⟨[], system.x3dHelper, system.x3dMode.map fun mode => fileContents mode.text⟩

theorem shows_start (files : CpuSysfs) (allocated : Finset ℕ) (config : Config)
    {system : OriginalSystem}
    (hsplitlock : ∀ v ∈ system.splitlock, CString.longMin ≤ v ∧ v ≤ CString.longMax) :
    (start config system).Shows (contextInit files allocated config system).settings :=
  have hunread : CString.longMin ≤ (-1 : ℤ) ∧ (-1 : ℤ) ≤ CString.longMax := by decide
  ⟨rfl, ⟨rfl, rfl, rfl⟩, ⟨rfl, rfl, hunread, hsplitlock⟩, ⟨rfl, rfl, rfl⟩⟩

section StoreDefaults

variable (h : s.Shows w) {o : Outcomes} {call : HelperCall} (ho : o.x3dGet = call.reportsRead)
include h ho

theorem shows_storeDefaults_of_x3d
    (hx : (s.x3d.store s.config call).Shows (storeX3dMode s.config call.reportsRead w.x3d)) :
    (s.storeDefaults call).Shows (contextStoreDefaults o w) := by
  refine ⟨h.config, ProfileFile.shows_store h.profile, SplitlockFile.shows_store h.splitlock, ?_⟩
  show (s.x3d.store s.config call).Shows (storeX3dMode w.config o.x3dGet w.x3d)
  rwa [h.config, ho]

theorem shows_storeDefaults_iff :
    (s.storeDefaults call).Shows (contextStoreDefaults o w) ↔ s.ReadsMode call := by
  have hx := @X3dFile.shows_store_iff s.x3d w.x3d s.config h.x3d call
  refine ⟨fun hshows => hx.1 ?_, fun hreads => shows_storeDefaults_of_x3d h ho (hx.2 hreads)⟩
  have hx3d : (s.x3d.store s.config call).Shows (storeX3dMode w.config o.x3dGet w.x3d) :=
    hshows.x3d
  rwa [h.config, ho] at hx3d

end StoreDefaults

/-- The settings after the helpers ran, if the files are true to them before. -/
theorem shows_switch_iff (h : s.Shows w) (calls : HelperCalls) (enter : Bool) {w' : World}
    (hconfig : w'.config = w.config)
    (hprofile : w'.profile = (setProfile w.config (if enter then .desired else .default)
      calls.profile.reportsWrite w.profile).2)
    (hsplitlock : w'.splitlock = disableSplitlock w.config enter calls.splitlock.reportsWrite
      w.splitlock)
    (hx3d : w'.x3d = setX3dMode w.config enter calls.x3d.reportsWrite w.x3d) :
    (s.switch calls enter).Shows w' ↔ s.Taken calls enter := by
  have hp := @ProfileFile.shows_set_iff s.profile w.profile s.config h.profile calls.profile
    (if enter then .desired else .default)
  have hl := @SplitlockFile.shows_disable_iff s.splitlock w.splitlock s.config h.splitlock
    calls.splitlock enter
  have hx := @X3dFile.shows_set_iff s.x3d w.x3d s.config h.x3d calls.x3d enter
  rw [h.config] at hconfig hprofile hsplitlock hx3d
  constructor
  · intro hshows
    exact ⟨hp.1 (hprofile ▸ hshows.profile), hl.1 (hsplitlock ▸ hshows.splitlock),
      hx.1 (hx3d ▸ hshows.x3d)⟩
  · intro htaken
    exact ⟨hconfig, hprofile ▸ hp.2 htaken.profile, hsplitlock ▸ hl.2 htaken.splitlock,
      hx3d ▸ hx.2 htaken.x3d⟩

end SwitchFiles

/-- What is reported of the helpers is what they do, as far as it makes a difference. -/
def SwitchPivot.Taken (s : SwitchFiles) : SwitchPivot → Prop
  | .enter _ calls =>
    s.ReadsMode calls.x3dGet ∧ (s.storeDefaults calls.x3dGet).Taken calls true
  | .leave _ calls => s.Taken calls false
  | .reread _ | .energy _ => True

variable (files : CpuSysfs)

/-- The files and the settings stay together exactly when what is reported is what the helpers
do. -/
theorem shows_apply_iff {s : SwitchFiles} {w : World} (h : s.Shows w) (a : SwitchPivot) :
    (s.apply a).Shows (applyPivot files w a.seen) ↔ a.Taken s := by
  cases a with
  | enter o calls =>
    let w₁ : World := contextStoreDefaults (o.withReports calls) w
    have hstore : (s.storeDefaults calls.x3dGet).Shows w₁ ↔ s.ReadsMode calls.x3dGet :=
      SwitchFiles.shows_storeDefaults_iff h rfl
    have hswitch : (s.storeDefaults calls.x3dGet).Shows w₁ →
        ((s.apply (.enter o calls)).Shows (applyPivot files w (SwitchPivot.enter o calls).seen) ↔
          (s.storeDefaults calls.x3dGet).Taken calls true) := fun hstored =>
      SwitchFiles.shows_switch_iff hstored calls true rfl rfl rfl rfl
    constructor
    · intro hshows
      -- the mode that is saved stays as it is
      have hinitial : (storeX3dMode s.config calls.x3dGet.reportsRead w.x3d).initial =
          (s.x3d.store s.config calls.x3dGet).initial := by
        have hinitial := hshows.x3d.initial
        have hfile : (s.apply (.enter o calls)).x3d.initial =
            (s.x3d.store s.config calls.x3dGet).initial := X3dFile.set_initial _ _ _ _
        have hsetting : (applyPivot files w (SwitchPivot.enter o calls).seen).x3d.initial =
            (storeX3dMode w.config calls.x3dGet.reportsRead w.x3d).initial :=
          X3dFile.setX3dMode_initial _ _ _ _
        rwa [hfile, hsetting, h.config] at hinitial
      have hstored : (s.storeDefaults calls.x3dGet).Shows w₁ :=
        SwitchFiles.shows_storeDefaults_of_x3d h rfl (X3dFile.shows_store_of_initial h.x3d hinitial)
      exact ⟨hstore.1 hstored, (hswitch hstored).1 hshows⟩
    · rintro ⟨hreads, htaken⟩
      exact (hswitch (hstore.2 hreads)).2 htaken
  | leave o calls => exact SwitchFiles.shows_switch_iff h calls false rfl rfl rfl rfl
  | reread env => exact iff_of_true ⟨rfl, h.profile, h.splitlock, h.x3d⟩ trivial
  | energy env => exact iff_of_true ⟨h.config, h.profile, h.splitlock, h.x3d⟩ trivial

/-- The files and the settings, step by step. -/
def filesStep (s : SwitchFiles × World) (a : SwitchPivot) : Option (SwitchFiles × World) :=
  some (s.1.apply a, applyPivot files s.2 a.seen)

/-- **The files behind the settings.** In every run of enters, leaves, rereads and energy checks the
settings of the daemon are true to the files all the time if and only if each helper that has
something to write is reported to succeed just when the kernel takes its text, or the file held the
text before, and a helper that is asked for the mode does not succeed without an answer. -/
theorem filesShow_iff (allocated : Finset ℕ) (config : Config) {system : OriginalSystem}
    (hsplitlock : ∀ v ∈ system.splitlock, CString.longMin ≤ v ∧ v ≤ CString.longMax)
    (pivots : List SwitchPivot) :
    Runs.Along (filesStep files)
        (.start config system, (contextInit files allocated config system).settings) pivots
        (fun s => s.1.Shows s.2) ↔
      Runs.StepsAlong (filesStep files)
        (.start config system, (contextInit files allocated config system).settings) pivots
        fun s a => a.Taken s.1 := by
  have hstart := SwitchFiles.shows_start files allocated config hsplitlock
  have hstep : ∀ s a t, s.1.Shows s.2 → a.Taken s.1 → filesStep files s a = some t →
      t.1.Shows t.2 := by
    intro s a t hs ha ht
    obtain rfl := Option.some.inj ht
    exact (shows_apply_iff files hs a).2 ha
  refine ⟨Runs.stepsAlong_of_along hstep (fun s a hs ha => ?_) hstart pivots,
    Runs.along_of_stepsAlong hstep hstart⟩
  exact ⟨_, rfl, fun hshows => ha ((shows_apply_iff files hs a).1 hshows)⟩

/-- Helpers that write what they are asked for, but for the one of the profile, which may have
another fate. -/
private def profileCalls (fate : HelperFate) : HelperCalls :=
  ⟨{ HelperCall.written with fate := fate }, .written, .written, .written⟩

/-- The files of a game whose profile `pkexec` refuses to set, on a system whose split locks are
mitigated. -/
theorem filesShow_of_refused :
    Runs.Along (filesStep .unreadable)
      (.start Config.initial
          { OriginalSystem.plain "powersave".toList "balanced".toList ∅ [] with
            splitlock := some 1 },
        (contextInit .unreadable ∅ Config.initial
          { OriginalSystem.plain "powersave".toList "balanced".toList ∅ [] with
            splitlock := some 1 }).settings)
      [.enter .succeeding (profileCalls (.refused 125)),
        .leave .succeeding (profileCalls .ends)] (fun s => s.1.Shows s.2) := by
  have hrefused : (profileCalls (.refused 125)).profile.Honest :=
    HelperCall.honest_iff.2 fun _ => ⟨rfl, trivial⟩
  have hwritten : HelperCall.written.Honest := by decide
  refine (filesShow_iff .unreadable ∅ Config.initial ?_ _).2 (Runs.StepsAlong.of_forall_mem ?_)
  · rintro v hv
    obtain rfl : (1 : ℤ) = v := Option.some.inj hv
    decide
  · intro a ha s
    simp only [List.mem_cons, List.not_mem_nil, or_false] at ha
    rcases ha with rfl | rfl
    · exact ⟨fun _ _ _ => rfl, fun _ _ hnot => absurd hrefused hnot,
        fun _ _ hnot => absurd hwritten hnot, fun _ _ hnot => absurd hwritten hnot⟩
    · exact ⟨fun _ _ hnot => absurd hwritten hnot, fun _ _ hnot => absurd hwritten hnot,
        fun _ _ hnot => absurd hwritten hnot⟩

/-! ### The profile is put back -/

/-- The configuration that is read again names no profile for the time after the games. -/
def SwitchPivot.DefaultUnset : SwitchPivot → Prop
  | .reread env => env.reloaded.string .defaultprof = []
  | _ => True

/-- A pivot after which no profile is named for the time after the games. -/
abbrev UnsetPivot := {a : SwitchPivot // a.DefaultUnset}

/-- A pivot as a step of the files. -/
def unsetStep (s : SwitchFiles) (a : UnsetPivot) : Option SwitchFiles := some (s.apply a.1)

/-- When game mode is left in earnest with success, the kernel takes the profile, or the file holds
the original one. When it is entered, and the kernel takes a profile although a failure is reported,
it is the original one. -/
def SwitchPivot.PutsBack (original : CString) (s : SwitchFiles) : SwitchPivot → Prop
  | .enter _ calls => calls.profile.reportsWrite = false → calls.profile.takes = true →
      ∀ text ∈ s.profile.store.request s.config .desired, text = original
  | .leave _ calls => s.profile.current ≠ .default → calls.profile.reportsWrite = true →
      calls.profile.takes = false → s.profile.file = some (fileContents original)
  | .reread _ | .energy _ => True

/-- The original profile is in the file, or it is the one saved. -/
@[mk_iff restorable_iff]
structure ProfileFile.Restorable (original : CString) (s : ProfileFile) : Prop where
  file_ne : s.file ≠ none
  file_of_default : s.current = .default → s.file = some (fileContents original)
  initial_of_ne : s.current ≠ .default → s.initial = original

namespace ProfileFile.Restorable

variable {original : SettingName} {s : ProfileFile} {config : Config}

/-- Saving the profile of the file, which is read as it is. -/
theorem store (h : s.Restorable original.name) (hlength : original.name.length < modeSize) :
    s.store.Restorable original.name ∧ s.store.initial = original.name := by
  obtain ⟨current, initial, file⟩ := s
  obtain ⟨hfile, hdefault, hinitial⟩ := h
  by_cases hcurrent : current = .default
  · obtain rfl := hdefault hcurrent
    have hread : (profileContents (fileContents original.name)).truncate modeSize =
        original.name := by
      rw [profileContents, if_neg (by simp [fileContents]), strtokLine_fileContents,
        CString.truncate_of_length_lt hlength, CString.truncate_of_length_lt hlength]
    simp only [ProfileFile.store, hcurrent, ne_eq, not_true_eq_false, if_false, hread]
    exact ⟨⟨hfile, fun _ => rfl, fun _ => rfl⟩, trivial⟩
  · have hsame : ProfileFile.store ⟨current, initial, file⟩ = ⟨current, initial, file⟩ := by
      cases file <;> simp [ProfileFile.store, hcurrent]
    rw [hsame]
    exact ⟨⟨hfile, hdefault, hinitial⟩, hinitial hcurrent⟩

/-- Another profile is asked for: it is in the file or not, but the original one is saved. -/
theorem set_desired_iff (h : s.Restorable original.name) (hinitial : s.initial = original.name)
    (call : HelperCall) :
    (s.set config call .desired).Restorable original.name ↔
      (call.reportsWrite = false → call.takes = true →
        ∀ text ∈ s.request config .desired, text = original.name) := by
  rw [set_eq]
  cases hrequest : s.request config .desired with
  | none => exact iff_of_true h (by simp)
  | some text =>
    have hcurrent : s.current = .default := by
      cases hcurrent : s.current with
      | default => rfl
      | desired =>
        rw [request, if_pos hcurrent] at hrequest
        cases hrequest
    have hfile := h.file_of_default hcurrent
    cases call.reportsWrite <;> cases call.takes <;>
      simp [ProfileFile.restorable_iff, hcurrent, hfile, hinitial]

theorem request_default (h : s.Restorable original.name)
    (hunset : config.string .defaultprof = []) :
    s.request config .default =
      if s.current = .default then none else some original.name := by
  rw [ProfileFile.request]
  split_ifs with hcurrent hfile
  · rfl
  · exact absurd hfile h.file_ne
  · rw [profileText, hunset, h.initial_of_ne hcurrent]
    rfl

/-- The profile is put back unless a success is reported and the kernel does not take it. -/
theorem set_default_iff (h : s.Restorable original.name)
    (hunset : config.string .defaultprof = []) (call : HelperCall) :
    (s.set config call .default).Restorable original.name ↔
      (s.current ≠ .default → call.reportsWrite = true → call.takes = false →
        s.file = some (fileContents original.name)) := by
  rw [set_eq, h.request_default hunset]
  by_cases hcurrent : s.current = .default
  · rw [if_pos hcurrent]
    exact iff_of_true h fun hne => absurd hcurrent hne
  · have hfile := h.file_ne
    have hinitial := h.initial_of_ne hcurrent
    rw [if_neg hcurrent]
    cases call.reportsWrite <;> cases call.takes <;>
      simp [ProfileFile.restorable_iff, hcurrent, hfile, hinitial]

/-- Whatever becomes of the helper, the original profile stays saved while another one is set. -/
theorem set_of_default (h : s.Restorable original.name) {call : HelperCall}
    {prof : GameModeProfile} (hinitial : prof ≠ .default → s.initial = original.name)
    (hdefault : (s.set config call prof).current = .default →
      (s.set config call prof).file = some (fileContents original.name)) :
    (s.set config call prof).Restorable original.name := by
  refine ⟨?_, hdefault, ?_⟩
  · rw [set_eq]
    cases s.request config prof with
    | none => exact h.file_ne
    | some text => cases call.takes <;> simp [h.file_ne]
  · rw [set_eq]
    cases s.request config prof with
    | none => exact h.initial_of_ne
    | some text =>
      cases call.reportsWrite with
      | false => exact h.initial_of_ne
      | true => exact hinitial

end ProfileFile.Restorable

section Restored

variable {original : SettingName} {s : SwitchFiles}
  (hlength : original.name.length < modeSize) (h : s.profile.Restorable original.name)
include hlength h

theorem restorable_apply_iff (hunset : s.config.string .defaultprof = []) (a : SwitchPivot) :
    (s.apply a).profile.Restorable original.name ↔ a.PutsBack original.name s := by
  cases a with
  | enter o calls =>
    obtain ⟨hstore, hinitial⟩ := h.store hlength
    exact hstore.set_desired_iff hinitial _
  | leave o calls => exact h.set_default_iff hunset _
  | reread env | energy env => exact iff_of_true h trivial

theorem restorable_apply_of_default {a : SwitchPivot}
    (hdefault : (s.apply a).profile.current = .default →
      (s.apply a).profile.file = some (fileContents original.name)) :
    (s.apply a).profile.Restorable original.name := by
  cases a with
  | enter o calls =>
    obtain ⟨hstore, hinitial⟩ := h.store hlength
    exact hstore.set_of_default (fun _ => hinitial) hdefault
  | leave o calls => exact h.set_of_default (fun hne => absurd rfl hne) hdefault
  | reread env | energy env => exact h

end Restored

/-- **The profile is put back.** Let no configuration name a profile for the time after the games.
In every run, whatever else the helpers come to, the original profile is in the file whenever the
daemon believes itself out of the games if and only if it is taken by the kernel, or is in the file,
at each leave in earnest that is reported as a success, and no other profile is taken at an enter
that is reported as a failure. -/
theorem profileFile_restored_iff {config : Config} {system : OriginalSystem}
    {original : SettingName} (hlength : original.name.length < modeSize)
    (hunset : config.string .defaultprof = []) (hprofile : system.profile = some original.name)
    (pivots : List UnsetPivot) :
    Runs.Along unsetStep (.start config system) pivots
        (fun s => s.profile.current = .default →
          s.profile.file = some (fileContents original.name)) ↔
      Runs.StepsAlong unsetStep (.start config system) pivots
        fun s a => a.1.PutsBack original.name s := by
  let I : SwitchFiles → Prop := fun s =>
    s.config.string .defaultprof = [] ∧ s.profile.Restorable original.name
  have hstart : I (.start config system) := by
    refine ⟨hunset, ?_, fun _ => ?_, fun hne => absurd rfl hne⟩ <;>
      simp [SwitchFiles.start, hprofile]
  have hconfig : ∀ s (a : UnsetPivot), I s → (s.apply a.1).config.string .defaultprof = [] := by
    rintro s ⟨a, ha⟩ hs
    cases a with
    | reread env => exact ha
    | _ => exact hs.1
  have hstep : ∀ s a t, I s → a.1.PutsBack original.name s → unsetStep s a = some t → I t := by
    intro s a t hs ha ht
    obtain rfl := Option.some.inj ht
    exact ⟨hconfig s a hs, (restorable_apply_iff hlength hs.2 hs.1 a.1).2 ha⟩
  constructor
  · refine Runs.stepsAlong_of_along hstep (fun s a hs ha => ⟨_, rfl, fun hdefault => ha ?_⟩) hstart
      pivots
    exact (restorable_apply_iff hlength hs.2 hs.1 a.1).1
      (restorable_apply_of_default hlength hs.2 hdefault)
  · intro hsteps before hbefore s hs
    exact (Runs.along_of_stepsAlong hstep hstart hsteps before hbefore s hs).2.file_of_default

/-- The helper that sets the profile for the games is killed, and the original one is taken. -/
theorem profileFile_restored_of_killed :
    Runs.Along unsetStep
      (.start Config.initial (.plain "powersave".toList "balanced".toList ∅ []))
      [⟨.enter .succeeding (profileCalls (.killed 9 false)), trivial⟩,
        ⟨.leave .succeeding (profileCalls .ends), trivial⟩]
      (fun s => s.profile.current = .default →
        s.profile.file = some (fileContents "balanced".toList)) := by
  refine (@profileFile_restored_iff Config.initial
    (.plain "powersave".toList "balanced".toList ∅ []) ⟨"balanced".toList, by decide, by decide⟩
    (by decide) rfl rfl _).2 (Runs.StepsAlong.of_forall_mem ?_)
  intro a ha s
  simp only [List.mem_cons, List.not_mem_nil, or_false] at ha
  rcases ha with rfl | rfl
  · intro hfailed _ _ _
    exact absurd hfailed (by decide)
  · intro _ _ hrejected
    exact absurd hrejected (by decide)

end GameMode
