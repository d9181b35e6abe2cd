import GameMode.Daemon.Pivots

/-!
# The governor and the platform profile can be restored

The daemon saves the governor and the profile when game mode is entered, and sets them when it is
entered, when it is left, and when the energy of the integrated GPU is checked. Any of these
commands may fail. In every run of the operations the saved values stay the ones of the start, so
the first leave whose two commands succeed puts the start values back.

The values fit the buffers of the daemon, which have 64 bytes: a profile with a longer name is cut
when it is saved.

## Main definitions

* `Config.RestoresSaved`: no option replaces a saved value.
* `GovernorState.Kept`, `ProfileState.Kept`, `World.Kept`: the invariant.

## Main results

* `World.Kept.contextEnter`, `World.Kept.contextLeave`: entering and leaving keep the invariant.
* `World.Kept.contextStep`: every operation keeps it.
* `restorable_of_run`: what it says in every run.

Source: `daemon/gamemode-context.c`.
-/

namespace GameMode

/-- No option replaces a saved value. -/
structure Config.RestoresSaved (config : Config) : Prop where
  defaultgov : config.string .defaultgov = []
  defaultprof : config.string .defaultprof = []

/-! ### The governor -/

/-- The governor can be restored, and every governor file takes the governor that is set. -/
structure GovernorState.Kept (governor : CString) (s : GovernorState) : Prop where
  restorable : s.Restorable .default (AllGovernors governor) governor
  exists_governor : ∃ governor', AllGovernors governor' s.system

namespace GovernorState.Kept

variable {governor : SettingName} {s : GovernorState} {config : Config}

theorem store (h : Kept governor.name s) : Kept governor.name (storeGovernor s) := by
  refine ⟨h.restorable.store _, ?_⟩
  rw [storeGovernor, SavedSetting.store_system]
  exact h.exists_governor

theorem saved_store (h : Kept governor.name s) (hlength : governor.name.length < modeSize) :
    (storeGovernor s).saved = governor.name := by
  refine h.restorable.saved_store fun files hfiles => ?_
  rw [getGovState_of_forall hlength hfiles, CString.truncate_of_length_lt hlength]

private theorem exists_governor_set (h : Kept governor.name s) (gov : GameModeGovernor)
    (ok : Bool) : ∃ governor', AllGovernors governor' (setGovernor config gov ok s).2.system := by
  obtain ⟨governor', hall⟩ := h.exists_governor
  rw [setGovernor, SavedSetting.set]
  split_ifs
  · exact ⟨governor', hall⟩
  · exact ⟨_, allGovernors_cpugovctlSet hall⟩
  · exact ⟨governor', hall⟩

private theorem allGovernors_default (h : Kept governor.name s) (hconfig : config.RestoresSaved)
    (hsaved : s.saved = governor.name) :
    AllGovernors governor.name (cpugovctlSet (governorText config s.saved .default) s.system) := by
  obtain ⟨governor', hall⟩ := h.exists_governor
  simp only [governorText, hconfig.defaultgov, ne_eq, not_true_eq_false, if_false, hsaved]
  exact allGovernors_cpugovctlSet hall

theorem set_of_saved (h : Kept governor.name s) (hsaved : s.saved = governor.name)
    {gov : GameModeGovernor} (hgov : gov ≠ .default) (ok : Bool) :
    Kept governor.name (setGovernor config gov ok s).2 :=
  ⟨h.restorable.set_of_saved hsaved hgov _ ok, h.exists_governor_set gov ok⟩

theorem set_default (h : Kept governor.name s) (hconfig : config.RestoresSaved) (ok : Bool) :
    Kept governor.name (setGovernor config .default ok s).2 :=
  ⟨h.restorable.set_default (h.allGovernors_default hconfig) ok, h.exists_governor_set .default ok⟩

theorem allGovernors_set_default (h : Kept governor.name s) (hconfig : config.RestoresSaved) :
    AllGovernors governor.name (setGovernor config .default true s).2.system :=
  h.restorable.isOriginal_of_set_default (h.allGovernors_default hconfig)
    (SavedSetting.set_fst_true ..)

theorem checkIgpuEnergy (h : Kept governor.name s) (energies : Energies) (ok : Bool)
    (igpu : IgpuState) :
    Kept governor.name (checkIgpuEnergy config energies ok (s, igpu)).1 := by
  rcases checkIgpuEnergy_governor_cases config energies ok s igpu with
    heq | ⟨hdefault, gov, hgov, heq⟩
  · rwa [heq]
  · rw [heq]
    exact h.set_of_saved (h.restorable.saved_of_ne hdefault) hgov ok

end GovernorState.Kept

/-! ### The platform profile -/

/-- The profile can be restored, and its file exists. -/
structure ProfileState.Kept (profile : CString) (s : ProfileState) : Prop where
  restorable : s.Restorable .default (· = some profile) profile
  system_ne : s.system ≠ none

namespace ProfileState.Kept

variable {profile : SettingName} {s : ProfileState} {config : Config}

private theorem storeProfile_eq (h : Kept profile.name s) :
    storeProfile s =
      s.store .default fun file => (getProfileState (file.getD [])).truncate modeSize := by
  rw [storeProfile, if_neg h.system_ne]

theorem store (h : Kept profile.name s) : Kept profile.name (storeProfile s) := by
  rw [h.storeProfile_eq]
  refine ⟨h.restorable.store _, ?_⟩
  rw [SavedSetting.store_system]
  exact h.system_ne

theorem saved_store (h : Kept profile.name s) (hlength : profile.name.length < modeSize) :
    (storeProfile s).saved = profile.name := by
  rw [h.storeProfile_eq]
  refine h.restorable.saved_store fun file hfile => ?_
  rw [hfile, Option.getD_some, getProfileState, strtokLine_fileContents,
    CString.truncate_of_length_lt hlength, CString.truncate_of_length_lt hlength]

private theorem setProfile_eq (h : Kept profile.name s) (prof : GameModeProfile) (ok : Bool) :
    setProfile config prof ok s = s.set prof (some (profileText config s.saved prof)) ok := by
  rw [setProfile]
  rw [if_neg h.system_ne]
  rw [SavedSetting.set]
  split_ifs <;> rfl

private theorem system_ne_set (h : Kept profile.name s) (prof : GameModeProfile) (ok : Bool) :
    (setProfile config prof ok s).2.system ≠ none := by
  rw [h.setProfile_eq]
  rw [SavedSetting.set]
  split_ifs
  · exact h.system_ne
  · exact Option.some_ne_none _
  · exact h.system_ne

private theorem profileText_default (hconfig : config.RestoresSaved)
    (hsaved : s.saved = profile.name) :
    some (profileText config s.saved .default) = some profile.name := by
  simp only [profileText, hconfig.defaultprof, ne_eq, not_true_eq_false, if_false, hsaved]

theorem set_desired (h : Kept profile.name s) (hsaved : s.saved = profile.name) (ok : Bool) :
    Kept profile.name (setProfile config .desired ok s).2 := by
  refine ⟨?_, h.system_ne_set .desired ok⟩
  rw [h.setProfile_eq]
  exact h.restorable.set_of_saved hsaved (by decide) _ ok

theorem set_default (h : Kept profile.name s) (hconfig : config.RestoresSaved) (ok : Bool) :
    Kept profile.name (setProfile config .default ok s).2 := by
  refine ⟨?_, h.system_ne_set .default ok⟩
  rw [h.setProfile_eq]
  exact h.restorable.set_default (profileText_default hconfig) ok

theorem system_set_default (h : Kept profile.name s) (hconfig : config.RestoresSaved) :
    (setProfile config .default true s).2.system = some profile.name := by
  rw [h.setProfile_eq]
  exact h.restorable.isOriginal_of_set_default (profileText_default hconfig)
    (SavedSetting.set_fst_true ..)

end ProfileState.Kept

/-! ### Runs -/

/-- Both values can be restored, and the configuration restores them. -/
structure World.Kept (governor profile : SettingName) (w : World) : Prop where
  config : w.config.RestoresSaved
  governor : GovernorState.Kept governor.name w.governor
  profile : ProfileState.Kept profile.name w.profile

/-- Both values are the ones of the start. -/
def World.IsRestored (governor profile : SettingName) (w : World) : Prop :=
  AllGovernors governor.name w.governor.system ∧ w.profile.system = some profile.name

variable (files : CpuSysfs) {governor profile : SettingName}

section Operations

variable (hgovernor : governor.name.length < modeSize) (hprofile : profile.name.length < modeSize)

theorem World.Kept.congr {w w' : World} (h : w.Kept governor profile)
    (hconfig : w'.config = w.config) (hgov : w'.governor = w.governor)
    (hprof : w'.profile = w.profile) :
    w'.Kept governor profile :=
  ⟨hconfig ▸ h.config, hgov ▸ h.governor, hprof ▸ h.profile⟩

theorem World.Kept.contextLeave {w : World} (h : w.Kept governor profile) (o : Outcomes) :
    (contextLeave o w).Kept governor profile where
  config := h.config
  governor := h.governor.set_default h.config _
  profile := h.profile.set_default h.config _

theorem World.Kept.isRestored_contextLeave {w : World} (h : w.Kept governor profile)
    {o : Outcomes} (hgovernorSet : o.governorSet = true) (hprofileSet : o.profileSet = true) :
    (GameMode.contextLeave o w).IsRestored governor profile := by
  simp only [World.IsRestored, GameMode.contextLeave, hgovernorSet, hprofileSet]
  exact ⟨h.governor.allGovernors_set_default h.config, h.profile.system_set_default h.config⟩

theorem World.Kept.init {system : OriginalSystem} {config : Config} (allocated : Finset ℕ)
    (hconfig : config.RestoresSaved) (hgovernors : AllGovernors governor.name system.governors)
    (hprof : system.profile = some profile.name) :
    (contextInit files allocated config system).Kept governor profile where
  config := hconfig
  governor := ⟨⟨fun _ => hgovernors, fun hne => absurd rfl hne⟩, governor.name, hgovernors⟩
  profile := ⟨⟨fun _ => hprof, fun hne => absurd rfl hne⟩,
    show system.profile ≠ none from hprof ▸ Option.some_ne_none _⟩

include hgovernor hprofile

theorem World.Kept.contextEnter {w : World} (h : w.Kept governor profile) (o : Outcomes) :
    (contextEnter files o w).Kept governor profile where
  config := h.config
  governor := h.governor.store.set_of_saved (h.governor.saved_store hgovernor) (by decide) _
  profile := h.profile.store.set_desired (h.profile.saved_store hprofile) _

theorem World.Kept.pivotStep {s t : Phase} {p : Pivot} (h : s.settings.Kept governor profile)
    (hreread : ∀ env, p = .reread env → env.reloaded.RestoresSaved)
    (hstep : pivotStep files s p = some t) : t.settings.Kept governor profile := by
  rcases pivotStep_cases files hstep with
    ⟨o, -, -, rfl⟩ | ⟨o, -, -, rfl⟩ | ⟨env, rfl, -, rfl⟩ | ⟨env, -, rfl⟩
  · exact (h.contextEnter files hgovernor hprofile o).congr rfl rfl rfl
  · exact (h.contextLeave o).congr rfl rfl rfl
  · exact ⟨hreread env rfl, h.governor, h.profile⟩
  · exact ⟨h.config, h.governor.checkIgpuEnergy env.energies env.igpuGovernorSet _, h.profile⟩

/-- Every operation keeps the invariant. -/
theorem World.Kept.contextStep {w w' : World} (h : w.Kept governor profile)
    (hconsistent : w.Consistent) {a : ContextOp × Env} (henv : a.2.reloaded.RestoresSaved)
    (hstep : contextStep files w a = some w') : w'.Kept governor profile := by
  have hsettings : (Phase.of w').settings.Kept governor profile :=
    contextStep_of_pivots files hconsistent hstep (J := fun s => s.settings.Kept governor profile)
      (fun _ _ _ hs hreread hpivot => hs.pivotStep files hgovernor hprofile hreread hpivot)
      (stepsAlong_reloaded files henv w _) (h.congr rfl rfl rfl)
  exact hsettings.congr rfl rfl rfl

end Operations

/-- **Governor and profile are always restorable.** In every run of the operations, whatever their
commands come to, both values are the ones of the start while they are in the default mode, and
the ones of the start are saved in any other mode. So a leave whose two commands succeed restores
both: a leave takes place in a context that differs from a state of the run only in the list of
the clients, its count, the threads, and the log. -/
theorem restorable_of_run (hgovernor : governor.name.length < modeSize)
    (hprofile : profile.name.length < modeSize) {system : OriginalSystem} {config : Config}
    (allocated : Finset ℕ) (hgovernors : AllGovernors governor.name system.governors)
    (hprof : system.profile = some profile.name) (hconfig : config.RestoresSaved)
    {run : List (ContextOp × Env)} (hrun : ∀ a ∈ run, a.2.reloaded.RestoresSaved) {w : World}
    (hexec : Runs.exec (contextStep files) (contextInit files allocated config system) run =
      some w) :
    (w.governor.current = .default → AllGovernors governor.name w.governor.system) ∧
      (w.governor.current ≠ .default → w.governor.saved = governor.name) ∧
      (w.profile.current = .default → w.profile.system = some profile.name) ∧
      (w.profile.current ≠ .default → w.profile.saved = profile.name) ∧
      ∀ (w' : World) (o : Outcomes), w'.config = w.config → w'.governor = w.governor →
        w'.profile = w.profile → o.governorSet = true → o.profileSet = true →
        (contextLeave o w').IsRestored governor profile := by
  have hinit := World.Kept.init files allocated hconfig hgovernors hprof
  obtain ⟨-, hkept⟩ : w.Consistent ∧ w.Kept governor profile := by
    refine Runs.exec_invariant_of_stepsAlong (I := fun w => w.Consistent ∧ w.Kept governor profile)
      (G := fun _ a => a.2.reloaded.RestoresSaved) (fun s a t hs hG hstep => ?_)
      ⟨consistent_contextInit files allocated config system, hinit⟩ run
      (Runs.StepsAlong.of_forall_mem fun a ha _ => hrun a ha) hexec
    exact ⟨hs.1.contextStep files hstep,
      hs.2.contextStep files hgovernor hprofile hs.1 hG hstep⟩
  refine ⟨hkept.governor.restorable.system_of_eq, hkept.governor.restorable.saved_of_ne,
    hkept.profile.restorable.system_of_eq, hkept.profile.restorable.saved_of_ne, ?_⟩
  intro w' o hc hg hp hgovernorSet hprofileSet
  exact (hkept.congr hc hg hp).isRestored_contextLeave hgovernorSet hprofileSet

/-- One game that is registered, a restart whose commands fail, and the removal of the game. -/
theorem restorable_of_failing_restart :
    ∃ w, Runs.exec (contextStep .unreadable)
        (contextInit .unreadable ∅ Config.initial
          (.plain "powersave".toList "balanced".toList ∅ []))
        [(.register 5 5, .succeeding Config.initial),
          (.restart 5, { Env.succeeding Config.initial with
            leave := { Outcomes.succeeding with governorSet := false, profileSet := false } }),
          (.unregister 5 5, .succeeding Config.initial)] = some w ∧
      (w.governor.current = .default → AllGovernors "powersave".toList w.governor.system) ∧
      (w.profile.current = .default → w.profile.system = some "balanced".toList) := by
  refine ⟨_, rfl, ?_⟩
  have h := @restorable_of_run .unreadable ⟨"powersave".toList, by decide, by decide⟩
    ⟨"balanced".toList, by decide, by decide⟩ (by decide) (by decide)
    (.plain "powersave".toList "balanced".toList ∅ []) Config.initial ∅
    ⟨by decide, by decide⟩ rfl ⟨rfl, rfl⟩
    [(.register 5 5, .succeeding Config.initial),
      (.restart 5, { Env.succeeding Config.initial with
        leave := { Outcomes.succeeding with governorSet := false, profileSet := false } }),
      (.unregister 5 5, .succeeding Config.initial)]
    (by
      intro a ha
      simp only [List.mem_cons, List.not_mem_nil, or_false] at ha
      rcases ha with rfl | rfl | rfl <;> exact ⟨rfl, rfl⟩)
    _ rfl
  exact ⟨h.1, h.2.2.1⟩

/-- A profile whose name has 64 bytes is cut when it is saved, so it is not the one that a leave
puts back. -/
theorem not_restorable_of_long_profile :
    ∃ (profile : SettingName) (w : World),
      Runs.exec (contextStep .unreadable)
          (contextInit .unreadable ∅ Config.initial (.plain "powersave".toList profile.name ∅ []))
          [(.register 5 5, .succeeding Config.initial)] = some w ∧
        ¬(w.profile.current ≠ .default → w.profile.saved = profile.name) ∧
        (contextLeave .succeeding w).profile.system ≠ some profile.name :=
  ⟨⟨List.replicate 64 'a', by decide, by decide⟩, _, rfl, by decide, by decide⟩

end GameMode
