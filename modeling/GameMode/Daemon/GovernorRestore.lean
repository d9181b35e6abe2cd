import GameMode.Daemon.Pivots

/-!
# The governor that is restored

On entering, the daemon reads the governor files into one name, which the next leave passes to
`cpugovctl set`. Governors that differ read as `malformed`, and where no file can be read the name
is empty; both are saved and restored like a governor.

## Main definitions

* `requestedGovernor`: the name that `game_mode_set_governor` passes on.
* `RestoresExisting`: the leave that follows an enter passes the governor of a CPU.
* `ReadsAsExisting`: the files read as the governor of a CPU.

## Main results

* `getGovState_eq`: what files with any governors read as.
* `restoresExisting_iff`: when the governor that is restored existed.

Source: `common/common-governors.c`, `get_gov_state`; `daemon/gamemode-context.c`,
`game_mode_store_governor` and `game_mode_set_governor`.
-/

namespace GameMode

/-! ### What the files read as -/

/-- The governors of the files that can be read, in order. -/
def readableGovernors (files : List GovernorFile) : List CString :=
  (files.filter GovernorFile.readable).map GovernorFile.value

/-- Every CPU has a governor. -/
def HaveGovernors (files : List GovernorFile) : Prop :=
  ∀ file ∈ files, file.value ≠ [] ∧ '\n' ∉ file.value

instance (files : List GovernorFile) : Decidable (HaveGovernors files) :=
  inferInstanceAs (Decidable (∀ file ∈ files, file.value ≠ [] ∧ '\n' ∉ file.value))

/-- A governor of some CPU. -/
def IsGovernor (files : List GovernorFile) (name : CString) : Prop :=
  ∃ file ∈ files, file.value = name

instance (files : List GovernorFile) (name : CString) : Decidable (IsGovernor files name) :=
  inferInstanceAs (Decidable (∃ file ∈ files, file.value = name))

theorem readableGovernors_cons (file : GovernorFile) (files : List GovernorFile) :
    readableGovernors (file :: files) =
      if file.readable then file.value :: readableGovernors files else readableGovernors files := by
  rw [readableGovernors, List.filter_cons]
  split_ifs <;> rfl

/-- What the files read as after a governor that is not cut. -/
theorem getGovStateFrom_eq {governor : CString} (hne : governor ≠ [])
    (hlength : governor.length < modeSize) : ∀ {files : List GovernorFile}, HaveGovernors files →
    getGovStateFrom governor files =
      if ∀ name ∈ readableGovernors files, name = governor then governor else "malformed".toList
  | [], _ => by simp [getGovStateFrom, readableGovernors]
  | file :: files, h => by
    obtain ⟨⟨hvalue, hline⟩, hfiles⟩ := List.forall_mem_cons.1 h
    have htok : (fileContents file.value).strtokLine = file.value :=
      strtokLine_fileContents ⟨file.value, hvalue, hline⟩
    have hcompare : governor.take modeSize ≠ file.value.take modeSize ↔ file.value ≠ governor := by
      rw [not_iff_not, List.take_of_length_le hlength.le]
      constructor
      · intro htake
        have hshort := congrArg List.length htake
        rw [List.length_take] at hshort
        rw [htake, List.take_of_length_le (by omega)]
      · rintro rfl
        exact (List.take_of_length_le hlength.le).symm
    have ih := getGovStateFrom_eq hne hlength hfiles
    rw [getGovStateFrom, readableGovernors_cons]
    by_cases hread : file.readable = true
    · simp only [if_pos hread, htok, hne, ne_eq, not_false_eq_true, true_and, List.forall_mem_cons]
      by_cases heq : file.value = governor
      · rw [if_neg fun hdiffers => hcompare.1 hdiffers heq, heq,
          CString.truncate_of_length_lt hlength, ih]
        simp only [true_and]
      · rw [if_pos (hcompare.2 heq), if_neg fun h => heq h.1]
    · rw [if_neg hread, if_neg hread, ih]

/-- **What the files read as.** Where governors differ they are malformed, and where none can be
read there is no name. -/
theorem getGovState_eq {files : List GovernorFile} (h : HaveGovernors files) :
    getGovState files =
      match readableGovernors files with
      | [] => []
      | name :: names =>
        if ∀ name' ∈ names, name' = name.truncate modeSize then name.truncate modeSize
        else "malformed".toList := by
  rw [getGovState]
  induction files with
  | nil => rfl
  | cons file files ih =>
    obtain ⟨⟨hvalue, hline⟩, hfiles⟩ := List.forall_mem_cons.1 h
    have htok : (fileContents file.value).strtokLine = file.value :=
      strtokLine_fileContents ⟨file.value, hvalue, hline⟩
    rw [getGovStateFrom, readableGovernors_cons]
    by_cases hread : file.readable = true
    · have hne : file.value.truncate modeSize ≠ [] := by
        rw [CString.truncate, ne_eq, List.take_eq_nil_iff]
        exact fun hnil => hnil.elim (by decide) hvalue
      have hlength : (file.value.truncate modeSize).length < modeSize :=
        (List.length_take_le _ _).trans_lt (by decide)
      simp only [if_pos hread, htok, ne_eq, not_true_eq_false, false_and, if_false]
      exact getGovStateFrom_eq hne hlength hfiles
    · rw [if_neg hread, if_neg hread]
      exact ih hfiles

theorem truncate_getGovState {files : List GovernorFile} (h : HaveGovernors files) :
    (getGovState files).truncate modeSize = getGovState files := by
  rw [getGovState_eq h]
  cases readableGovernors files with
  | nil => rfl
  | cons name names =>
    simp only
    split_ifs
    · rw [CString.truncate, CString.truncate, List.take_take, min_self]
    · decide

/-- The files that can be read show one governor, and cut to the size of the buffer it is the
governor of a CPU; or they show different ones, and a CPU has the governor `malformed`. -/
def ReadsAsExisting (files : List GovernorFile) : Prop :=
  match readableGovernors files with
  | [] => False
  | name :: names =>
    if ∀ name' ∈ names, name' = name.truncate modeSize then
      IsGovernor files (name.truncate modeSize)
    else IsGovernor files "malformed".toList

theorem isGovernor_getGovState_iff {files : List GovernorFile} (h : HaveGovernors files) :
    IsGovernor files (getGovState files) ↔ ReadsAsExisting files := by
  rw [getGovState_eq h, ReadsAsExisting]
  cases readableGovernors files with
  | nil => exact iff_of_false (fun ⟨file, hfile, hnil⟩ => (h file hfile).1 hnil) not_false
  | cons name names => simp only [apply_ite (IsGovernor files), ite_prop_iff_or]

/-! ### From an enter to the next leave -/

/-- The governor that `game_mode_set_governor` passes to `cpugovctl set`, when it runs it. -/
def requestedGovernor (config : Config) (gov : GameModeGovernor) (s : GovernorState) :
    Option CString :=
  if s.current = gov then none else some (governorText config s.saved gov)

theorem setGovernor_eq (config : Config) (gov : GameModeGovernor) (ok : Bool) (s : GovernorState) :
    setGovernor config gov ok s =
      match requestedGovernor config gov s with
      | none => (true, s)
      | some name =>
        if ok then (true, ⟨gov, s.saved, cpugovctlSet name s.system⟩) else (false, s) := by
  rw [setGovernor, SavedSetting.set, requestedGovernor]
  split_ifs <;> rfl

variable (files : CpuSysfs)

/-- When game mode is entered, and nothing but the energy is checked before it is left, any governor
that the leave passes to `cpugovctl set` is one that a CPU had when it was entered. -/
def RestoresExisting (s : Phase) (o : Outcomes) (checks : List Env) : Prop :=
  ∃ t, Runs.exec (pivotStep files) s (.enter o :: checks.map .energy) = some t ∧
    ∀ name ∈ requestedGovernor t.settings.config .default t.settings.governor,
      IsGovernor s.settings.governor.system name

/-- What the checks of the energy leave as it is. -/
structure SameSession (s t : Phase) : Prop where
  config : t.settings.config = s.settings.config
  saved : t.settings.governor.saved = s.settings.governor.saved
  default_iff : t.settings.governor.current = .default ↔ s.settings.governor.current = .default

theorem sameSession_energy (env : Env) (s : Phase) :
    SameSession s ⟨s.active, (contextCheckIgpuEnergy env s.settings).settings⟩ := by
  rcases checkIgpuEnergy_governor_cases s.settings.config env.energies env.igpuGovernorSet
    s.settings.governor s.settings.igpu with heq | ⟨hdefault, gov, hgov, heq⟩
  · exact ⟨rfl, congrArg SavedSetting.saved heq, by rw [← heq]; rfl⟩
  · refine ⟨rfl, (congrArg SavedSetting.saved heq).trans (SavedSetting.set_saved ..), ?_⟩
    have hcurrent := SavedSetting.set_current_eq_or s.settings.governor gov
      (cpugovctlSet (governorText s.settings.config s.settings.governor.saved gov)
        s.settings.governor.system) env.igpuGovernorSet
    refine iff_of_false (fun hnow => ?_) hdefault
    have hset := (congrArg SavedSetting.current heq).symm.trans hnow
    rcases hcurrent with hgov' | hsame
    · exact hgov (hgov'.symm.trans hset)
    · exact hdefault (hsame.symm.trans hset)

variable {files}

theorem SameSession.trans {s t u : Phase} (h : SameSession s t) (h' : SameSession t u) :
    SameSession s u :=
  ⟨h'.config.trans h.config, h'.saved.trans h.saved, h'.default_iff.trans h.default_iff⟩

variable (files) in
theorem exists_exec_energy (s : Phase) : ∀ checks : List Env,
    ∃ t, Runs.exec (pivotStep files) s (checks.map .energy) = some t ∧ SameSession s t
  | [] => ⟨s, rfl, rfl, rfl, Iff.rfl⟩
  | env :: checks => by
    obtain ⟨t, hexec, hsame⟩ := exists_exec_energy
      ⟨s.active, (contextCheckIgpuEnergy env s.settings).settings⟩ checks
    exact ⟨t, hexec, (sameSession_energy env s).trans hsame⟩

/-- What the enter leaves to restore, and the condition for it to be a governor of a CPU. -/
def RestorableFrom (s : GovernorState) (o : Outcomes) : Prop :=
  if s.current = .default then o.governorSet = false ∨ ReadsAsExisting s.system
  else IsGovernor s.system s.saved

/-- The leave passes the governor that the enter saved, when the enter set another one. -/
theorem restoresExisting_iff_saved {s : Phase} (hactive : s.active = false)
    (hdefault : s.settings.config.string .defaultgov = []) (o : Outcomes) (checks : List Env) :
    RestoresExisting files s o checks ↔
      ((setGovernor s.settings.config .desired o.governorSet
          (storeGovernor s.settings.governor)).2.current ≠ .default →
        IsGovernor s.settings.governor.system (storeGovernor s.settings.governor).saved) := by
  obtain ⟨t, hexec, hsame⟩ := exists_exec_energy files
    ⟨true, (contextEnter files o s.settings).settings⟩ checks
  have hrun : Runs.exec (pivotStep files) s (.enter o :: checks.map .energy) = some t := by
    rw [Runs.exec_cons, pivotStep, hactive]
    exact hexec
  have htext : governorText t.settings.config t.settings.governor.saved .default =
      (storeGovernor s.settings.governor).saved := by
    have hconfig : t.settings.config = s.settings.config := hsame.config
    rw [governorText, hconfig, if_neg (not_not_intro hdefault), hsame.saved]
    exact SavedSetting.set_saved ..
  have hcurrent : t.settings.governor.current = .default ↔
      (setGovernor s.settings.config .desired o.governorSet
        (storeGovernor s.settings.governor)).2.current = .default := hsame.default_iff
  rw [ne_eq, ← hcurrent, RestoresExisting, hrun]
  simp only [Option.some_inj, exists_eq_left', requestedGovernor, htext]
  split_ifs with hnow
  · exact iff_of_true (by simp) fun hne => absurd hnow hne
  · simp [hnow]

/-- **The governor that is restored.** Without a configured governor, the leave that follows an
enter passes one that a CPU had at the enter exactly when, from the default governor, the enter
fails to set another one or the files read as a governor of a CPU and, when an earlier restore is
still outstanding, the governor saved then is one of a CPU again. -/
theorem restoresExisting_iff {s : Phase} (hactive : s.active = false)
    (hdefault : s.settings.config.string .defaultgov = [])
    (hgovernors : HaveGovernors s.settings.governor.system) (o : Outcomes) (checks : List Env) :
    RestoresExisting files s o checks ↔ RestorableFrom s.settings.governor o := by
  rw [restoresExisting_iff_saved hactive hdefault, RestorableFrom]
  split_ifs with hoffset
  · -- the governor is read, and restored if another one is set
    have hsaved : (storeGovernor s.settings.governor).saved =
        getGovState s.settings.governor.system := by
      rw [storeGovernor, SavedSetting.store, if_neg (not_not_intro hoffset)]
      exact truncate_getGovState hgovernors
    have hset : (setGovernor s.settings.config .desired o.governorSet
        (storeGovernor s.settings.governor)).2.current = .default ↔ o.governorSet = false := by
      have hstored : (storeGovernor s.settings.governor).current = .default :=
        (SavedSetting.store_current ..).trans hoffset
      rw [setGovernor, SavedSetting.set, if_neg (by rw [hstored]; decide)]
      cases o.governorSet <;> simp [hstored]
    rw [ne_eq, hset, hsaved, isGovernor_getGovState_iff hgovernors, or_iff_not_imp_left]
  · -- a restore is outstanding, and the governor saved is kept
    have hsaved : (storeGovernor s.settings.governor).saved = s.settings.governor.saved := by
      rw [storeGovernor, SavedSetting.store, if_pos hoffset]
    have hset : (setGovernor s.settings.config .desired o.governorSet
        (storeGovernor s.settings.governor)).2.current ≠ .default := by
      rcases SavedSetting.set_current_eq_or (storeGovernor s.settings.governor) .desired
        (cpugovctlSet (governorText s.settings.config
          (storeGovernor s.settings.governor).saved .desired)
          (storeGovernor s.settings.governor).system) o.governorSet with heq | heq
      · rw [setGovernor, heq]
        decide
      · rw [setGovernor, heq]
        exact fun hstored => hoffset ((SavedSetting.store_current ..).symm.trans hstored)
    rw [hsaved, forall_prop_of_true hset]

private def startWith (governors : List GovernorFile) : Phase :=
  startPhase .unreadable ∅ Config.initial
    { OriginalSystem.plain [] [] ∅ [] with governors := governors }

/-- The governor is restored, also where a file cannot be read. -/
theorem restoresExisting_of_unreadable :
    RestoresExisting .unreadable
      (startWith [⟨"powersave".toList, true⟩, ⟨"schedutil".toList, false⟩]) .succeeding [] := by
  have hgovernors : HaveGovernors (startWith
      [⟨"powersave".toList, true⟩, ⟨"schedutil".toList, false⟩]).settings.governor.system := by
    decide
  refine (restoresExisting_iff rfl rfl hgovernors .succeeding []).2 (Or.inr ?_)
  exact (by decide : IsGovernor [⟨"powersave".toList, true⟩, ⟨"schedutil".toList, false⟩]
    "powersave".toList)

/-- Two CPUs have different governors: the leave restores a governor that is called `malformed`. -/
theorem not_restoresExisting_of_mixed :
    ¬RestoresExisting .unreadable
      (startWith [⟨"powersave".toList, true⟩, ⟨"schedutil".toList, true⟩]) .succeeding [] := by
  rintro ⟨t, hexec, hname⟩
  cases (hexec : some _ = some t)
  exact absurd (hname "malformed".toList rfl) (by decide)

end GameMode
