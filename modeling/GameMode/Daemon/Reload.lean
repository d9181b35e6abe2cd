import GameMode.Daemon.Context

/-!
# Reloading compared with starting afresh

A reload tears game mode down under the old configuration and grows it again under the new one. Here
its outcome is compared with that of a daemon that is started under the new configuration, on the
system as it was before, with the same clients. Every command succeeds in both.

The governor, the profile, the split-lock mitigation, the cores and the inhibitor always agree. The
other settings agree up to what the old configuration leaves behind on purpose: an X3D mode that it
names for the time after the games, values of threads that it takes for its own, and the affinity
of a thread that was pinned.

## Main definitions

* `withClients`: a daemon that was started, with the clients registered.
* `World.settings`: the context without the registry and the threads.
* `X3dReturns`, `NiceKept`, `IoprioKept`, `AffinityKept`: when the settings agree.

## Main results

* `settings_withClients`, `settings_reloadConfigInternal`: what the settings come to.
* `Thread.nice_reload_iff` and its siblings: when a value of a thread agrees.
* `reload_agrees`: the comparison.

Source: `daemon/gamemode-context.c`, `game_mode_reload_config_internal` and
`game_mode_context_init`.
-/

namespace GameMode

variable (files : CpuSysfs)

/-! ### The two daemons -/

/-- A daemon that was started, with the clients registered from the last one of the list to the
first one. -/
def withClients (env : Env) (allocated : Finset ℕ) (config : Config) (system : OriginalSystem)
    (clients : List Client) : World :=
  clients.foldr (insertClient files env) (contextInit files allocated config system)

/-- The context without the registry, the threads and the log. -/
def World.settings (w : World) : World :=
  { w with refcount := 0, clients := [], threads := [], log := [] }

section Fields

variable (w : World) (env : Env)

@[simp] theorem settings_governor : w.settings.governor = w.governor := rfl

@[simp] theorem settings_profile : w.settings.profile = w.profile := rfl

@[simp] theorem settings_splitlock : w.settings.splitlock = w.splitlock := rfl

@[simp] theorem settings_x3d : w.settings.x3d = w.x3d := rfl

@[simp] theorem settings_storedGpu : w.settings.storedGpu = w.storedGpu := rfl

@[simp] theorem settings_targetGpu : w.settings.targetGpu = w.targetGpu := rfl

@[simp] theorem settings_gpu : w.settings.gpu = w.gpu := rfl

@[simp] theorem settings_inhibitor : w.settings.inhibitor = w.inhibitor := rfl

@[simp] theorem settings_cpu : w.settings.cpu = w.cpu := rfl

@[simp] theorem rereadConfig_governor : (rereadConfig files env w).governor = w.governor := rfl

@[simp] theorem rereadConfig_profile : (rereadConfig files env w).profile = w.profile := rfl

@[simp] theorem rereadConfig_splitlock : (rereadConfig files env w).splitlock = w.splitlock := rfl

@[simp] theorem rereadConfig_x3d : (rereadConfig files env w).x3d = w.x3d := rfl

@[simp] theorem rereadConfig_storedGpu : (rereadConfig files env w).storedGpu = w.storedGpu := rfl

@[simp] theorem rereadConfig_targetGpu : (rereadConfig files env w).targetGpu = w.targetGpu := rfl

@[simp] theorem rereadConfig_gpu : (rereadConfig files env w).gpu = w.gpu := rfl

@[simp] theorem rereadConfig_inhibitor : (rereadConfig files env w).inhibitor = w.inhibitor := rfl

@[simp] theorem rereadConfig_config : (rereadConfig files env w).config = env.reloaded := rfl

@[simp] theorem rereadConfig_cpu :
    (rereadConfig files env w).cpu =
      reconfigCpu files env.reconfigCorectl env.allocated env.reloaded w.cpu := rfl

end Fields

theorem settings_contextEnter (o : Outcomes) (w : World) :
    (contextEnter files o w).settings = (contextEnter files o w.settings).settings := rfl

theorem settings_contextLeave (o : Outcomes) (w : World) :
    (contextLeave o w).settings = (contextLeave o w.settings).settings := rfl

theorem settings_rereadConfig (env : Env) (w : World) :
    (rereadConfig files env w).settings = (rereadConfig files env w.settings).settings := rfl

section WithClients

variable (env : Env) (allocated : Finset ℕ) (config : Config) (system : OriginalSystem)

theorem withClients_clients : (clients : List Client) →
    (withClients files env allocated config system clients).clients = clients ∧
      (withClients files env allocated config system clients).refcount = clients.length
  | [] => ⟨rfl, rfl⟩
  | cl :: clients => by
    obtain ⟨hclients, hrefcount⟩ := withClients_clients clients
    obtain ⟨hinsert, hcount⟩ := insertClient_clients files env cl
      (withClients files env allocated config system clients)
    rw [hclients] at hinsert
    rw [hrefcount] at hcount
    exact ⟨hinsert, hcount⟩

/-- The settings after the clients are registered are those of entering game mode once. -/
theorem settings_withClients : {clients : List Client} → clients ≠ [] →
    (withClients files env allocated config system clients).settings =
      (contextEnter files env.enter (contextInit files allocated config system)).settings
  | [cl], _ => rfl
  | cl :: cl' :: clients, _ => by
    have hsettings := settings_withClients (show cl' :: clients ≠ [] from List.cons_ne_nil _ _)
    obtain ⟨-, hrefcount⟩ := withClients_clients files env allocated config system (cl' :: clients)
    have hne : (withClients files env allocated config system (cl' :: clients)).refcount ≠ 0 := by
      rw [hrefcount, List.length_cons]
      omega
    rw [withClients, List.foldr_cons, insertClient]
    rw [withClients] at hne hsettings
    rw [if_neg hne]
    exact hsettings

end WithClients

/-- The settings after a reload are those of leaving game mode, reading the configuration, and
entering again. -/
theorem settings_reloadConfigInternal (env : Env) {w : World} (hrefcount : w.refcount ≠ 0) :
    (reloadConfigInternal files env w).settings =
      (contextEnter files env.enter
        (rereadConfig files env (contextLeave env.leave w))).settings := by
  have htear : (tearDown env w).settings = (contextLeave env.leave w).settings := by
    rw [tearDown, if_pos hrefcount, foldl_removeOptimisations]
    rfl
  have hreread : (rereadConfig files env (tearDown env w)).settings =
      (rereadConfig files env (contextLeave env.leave w)).settings := by
    rw [settings_rereadConfig, htear, ← settings_rereadConfig]
  have hcount : (rereadConfig files env (tearDown env w)).refcount ≠ 0 :=
    (tearDown_clients env w).2.trans_ne hrefcount
  rw [reloadConfigInternal, regrow, if_pos hcount, foldl_applyOptimisations]
  change (contextEnter files env.enter (rereadConfig files env (tearDown env w))).settings = _
  rw [settings_contextEnter, hreread, ← settings_contextEnter]

/-! ### The settings that always agree -/

section Always

variable (config₁ config₂ : Config)

theorem setGovernor_of_ne (config : Config) {s : GovernorState} {gov : GameModeGovernor}
    (h : s.current ≠ gov) :
    (setGovernor config gov true s).2 =
      ⟨gov, s.saved, cpugovctlSet (governorText config s.saved gov) s.system⟩ := by
  rw [setGovernor, SavedSetting.set_of_ne s gov _ h]

/-- The governor that is set for the games does not depend on the governors before. -/
theorem governor_reload (governors : List GovernorFile) :
    (setGovernor config₂ .desired true (storeGovernor (setGovernor config₁ .default true
        (setGovernor config₁ .desired true
          (storeGovernor ⟨.default, [], governors⟩)).2).2)).2.system =
      (setGovernor config₂ .desired true (storeGovernor ⟨.default, [], governors⟩)).2.system := by
  have hstored : ∀ s : GovernorState, s.current = .default →
      (storeGovernor s).current ≠ .desired := by
    intro s hs
    rw [storeGovernor, SavedSetting.store_current, hs]
    decide
  have hne : GameModeGovernor.desired ≠ .default := by decide
  have hover : ∀ (a b : CString) (files : List GovernorFile),
      cpugovctlSet a (cpugovctlSet b files) = cpugovctlSet a files := by
    intro a b files
    simp [cpugovctlSet]
  have hsystem : ∀ s : GovernorState, (storeGovernor s).system = s.system := fun s =>
    SavedSetting.store_system s _ _
  rw [setGovernor_of_ne config₁ (hstored _ rfl), setGovernor_of_ne config₁ hne,
    setGovernor_of_ne config₂ (hstored _ rfl), setGovernor_of_ne config₂ (hstored _ rfl)]
  simp only [hsystem, hover]
  rfl

theorem setProfile_of_ne (config : Config) {s : ProfileState} {prof : GameModeProfile}
    (h : s.current ≠ prof) (hsystem : s.system ≠ none) :
    (setProfile config prof true s).2 =
      ⟨prof, s.saved, some (profileText config s.saved prof)⟩ := by
  rw [setProfile, if_neg h, if_neg hsystem, SavedSetting.set_of_ne s prof _ h]

/-- The profile that is set for the games does not depend on the profile before. -/
theorem profile_reload (profile : Option CString) :
    (setProfile config₂ .desired true (storeProfile (setProfile config₁ .default true
        (setProfile config₁ .desired true (storeProfile ⟨.default, [], profile⟩)).2).2)).2.system =
      (setProfile config₂ .desired true (storeProfile ⟨.default, [], profile⟩)).2.system := by
  cases profile with
  | none => rfl
  | some profile =>
    have hne : GameModeProfile.desired ≠ .default := by decide
    have hstored : ∀ (config : Config) (saved value : CString),
        (setProfile config .desired true (storeProfile ⟨.default, saved, some value⟩)).2 =
          ⟨.desired, (storeProfile ⟨.default, saved, some value⟩).saved,
            some (profileText config [] .desired)⟩ :=
      fun config _ _ => setProfile_of_ne config hne.symm (Option.some_ne_none _)
    rw [hstored, setProfile_of_ne config₁ hne (Option.some_ne_none _), hstored, hstored]

theorem disableSplitlock_value {s : SplitlockState} (h : s.initial = s.getSplitlockState)
    (config : Config) (disable ok : Bool) : disableSplitlock config disable ok s = s := by
  obtain ⟨initial, value⟩ := s
  change initial = value.getD (-1) at h
  subst h
  cases value with
  | none => simp [disableSplitlock]
  | some v =>
    rw [disableSplitlock]
    split_ifs <;> rfl

theorem splitlock_reload (value : Option ℤ) :
    (disableSplitlock config₂ true true (storeSplitlock (disableSplitlock config₁ false true
        (disableSplitlock config₁ true true (storeSplitlock ⟨-1, value⟩))))).value =
      (disableSplitlock config₂ true true (storeSplitlock ⟨-1, value⟩)).value := by
  have hstore : ∀ s : SplitlockState, (storeSplitlock s).initial =
      (storeSplitlock s).getSplitlockState := fun _ => rfl
  rw [disableSplitlock_value (hstore _), disableSplitlock_value (hstore _),
    disableSplitlock_value (hstore _), disableSplitlock_value (hstore _)]
  rfl

/-- Whether an inhibitor is held, and how many are outstanding. -/
def InhibitorState.holding (s : InhibitorState) : Bool × ℤ :=
  (s.idleInhibitor.isSome, s.outstanding)

theorem inhibitor_reload :
    (((InhibitorState.enter config₁ true ⟨none, 0, []⟩).leave config₁).enter config₂ true).holding =
      (InhibitorState.enter config₂ true ⟨none, 0, []⟩).holding := by
  cases h₁ : config₁.getInhibitScreensaver <;> cases h₂ : config₂.getInhibitScreensaver <;>
    simp [InhibitorState.enter, InhibitorState.leave, InhibitorState.holding,
      InhibitorState.outstanding, InhibitorState.destroyIdleInhibitor,
      InhibitorState.createIdleInhibitor, h₁, h₂]

variable (allocated : Finset ℕ)

theorem cpu_reload {online : Finset ℕ} (hfiles : files.ListsOnline online)
    (allocated' : Finset ℕ) :
    reconfigCpu files .succeeded allocated' config₂ (unparkCpu .succeeded (parkCpu files .succeeded
        ⟨(initialiseCpu files online allocated config₁).2, online⟩)) =
      ⟨(initialiseCpu files online allocated' config₂).2, online⟩ := by
  have hsubset : ∀ info ∈ (initialiseCpu files online allocated config₁).2, info.online ⊆ online :=
    fun info hinfo => (online_of_initialiseCpu hfiles hinfo).subset
  rw [unparkCpu_parkCpu files hsubset, reconfigCpu, unparkCpu_of_subset hsubset]

end Always

/-! ### The X3D mode -/

/-- The X3D mode agrees: no mode can be set, or the new configuration sets one, or the old
configuration names none for the time after the games, or it names the one of the start. -/
def X3dReturns (config₁ config₂ : Config) (helper : Bool) (mode : Option X3dMode) : Prop :=
  helper = false ∨ mode = none ∨ config₂.x3d .amdX3dModeDesired ≠ none ∨
    config₁.x3d .amdX3dModeDefault = none ∨ config₁.x3d .amdX3dModeDefault = mode

theorem getX3dModeValue_text (mode : X3dMode) :
    getX3dModeValue mode.text = some mode ∧ mode.text ≠ [] ∧
      (mode.text.truncate x3dModeSize).takeWhile (· != '\n') = mode.text ∧
      mode.text.truncate configValueMax = mode.text := by
  cases mode <;> decide

theorem Config.x3dText_eq_nil_iff (config : Config) (option : X3dOption) :
    config.x3dText option = [] ↔ config.x3d option = none := by
  rw [Config.x3dText]
  cases config.x3d option with
  | none => simp
  | some mode => simpa using (getX3dModeValue_text mode).2.1

/-- What entering game mode does to the X3D mode. -/
theorem x3d_enter (config : Config) (initial : CString) (mode : X3dMode) :
    setX3dMode config true true (storeX3dMode config true ⟨initial, true, some mode⟩) =
      match config.x3d .amdX3dModeDesired with
      | none => ⟨initial, true, some mode⟩
      | some desired => ⟨mode.text, true, some desired⟩ := by
  cases hdesired : config.x3d .amdX3dModeDesired with
  | none =>
    have htext : config.x3dText .amdX3dModeDesired = [] := by
      rw [config.x3dText_eq_nil_iff, hdesired]
    simp [setX3dMode, storeX3dMode, X3dState.modeText, htext]
  | some desired =>
    obtain ⟨hvalue, hne, -, -⟩ := getX3dModeValue_text desired
    obtain ⟨-, -, hline, -⟩ := getX3dModeValue_text mode
    have htext : config.x3dText .amdX3dModeDesired = desired.text := by
      simp only [Config.x3dText, hdesired]
    simp [setX3dMode, storeX3dMode, X3dState.modeText, X3dState.setMode, X3dState.getX3dMode, htext,
      hvalue, hne, hline]

/-- What leaving game mode does to the X3D mode, when the mode was saved or not changed. -/
theorem x3d_leave (config : Config) {initial : CString} {mode current : X3dMode}
    (h : initial = [] ∧ current = mode ∨ initial = mode.text) :
    ∃ initial', setX3dMode config false true ⟨initial, true, some current⟩ =
      ⟨initial', true, some ((config.x3d .amdX3dModeDefault).getD mode)⟩ := by
  refine ⟨initial, ?_⟩
  cases hdefault : config.x3d .amdX3dModeDefault with
  | none =>
    have htext : config.x3dText .amdX3dModeDefault = [] := by
      rw [config.x3dText_eq_nil_iff, hdefault]
    rcases h with ⟨rfl, rfl⟩ | rfl
    · simp [setX3dMode, X3dState.modeText, htext, CString.truncate]
    · obtain ⟨hvalue, hne, -, htruncate⟩ := getX3dModeValue_text mode
      simp [setX3dMode, X3dState.modeText, X3dState.setMode, htext, htruncate, hvalue, hne]
  | some default =>
    obtain ⟨hvalue, hne, -, -⟩ := getX3dModeValue_text default
    have htext : config.x3dText .amdX3dModeDefault = default.text := by
      simp only [Config.x3dText, hdefault]
    simp [setX3dMode, X3dState.modeText, X3dState.setMode, htext, hvalue, hne]

/-- What the daemon can do to the X3D mode: nothing, or it sets a mode with the helper. -/
theorem setX3dMode_cases (config : Config) (desired ok : Bool) (s : X3dState) :
    setX3dMode config desired ok s = s ∨
      s.helper = true ∧ ∃ mode, setX3dMode config desired ok s = s.setMode mode := by
  simp only [setX3dMode]
  split
  · exact Or.inl rfl
  split
  · exact Or.inl rfl
  rename_i hhelper
  split
  · exact Or.inl rfl
  split
  · exact Or.inr ⟨not_not.1 hhelper, _, rfl⟩
  · exact Or.inl rfl

theorem x3d_mode_of_unavailable {s : X3dState} (h : s.helper = false ∨ s.mode = none)
    (config : Config) (desired ok : Bool) :
    (setX3dMode config desired ok s).mode = s.mode ∧
      (setX3dMode config desired ok s).helper = s.helper := by
  rcases setX3dMode_cases config desired ok s with heq | ⟨hhelper, mode, heq⟩
  · rw [heq]
    exact ⟨rfl, rfl⟩
  · have hmode : s.mode = none := h.resolve_left fun hfalse => by simp [hhelper] at hfalse
    rw [heq]
    exact ⟨by simp [X3dState.setMode, hmode], rfl⟩

theorem storeX3dMode_mode (config : Config) (getOk : Bool) (s : X3dState) :
    (storeX3dMode config getOk s).mode = s.mode ∧
      (storeX3dMode config getOk s).helper = s.helper := by
  rw [storeX3dMode]
  split_ifs <;> exact ⟨rfl, rfl⟩

/-- When the X3D mode agrees. -/
theorem x3d_reload_iff (config₁ config₂ : Config) (helper : Bool) (mode : Option X3dMode) :
    (setX3dMode config₂ true true (storeX3dMode config₂ true (setX3dMode config₁ false true
        (setX3dMode config₁ true true (storeX3dMode config₁ true ⟨[], helper, mode⟩))))).mode =
      (setX3dMode config₂ true true (storeX3dMode config₂ true ⟨[], helper, mode⟩)).mode ↔
    X3dReturns config₁ config₂ helper mode := by
  by_cases h : helper = false ∨ mode = none
  · -- no step changes the mode
    have hstore : ∀ (config : Config) (s : X3dState), s.helper = helper → s.mode = mode →
        (storeX3dMode config true s).helper = helper ∧
          (storeX3dMode config true s).mode = mode := by
      intro config s hs hm
      obtain ⟨hmode, hhelper⟩ := storeX3dMode_mode config true s
      exact ⟨hhelper.trans hs, hmode.trans hm⟩
    have hset : ∀ (config : Config) (desired : Bool) (s : X3dState), s.helper = helper →
        s.mode = mode → (setX3dMode config desired true s).helper = helper ∧
          (setX3dMode config desired true s).mode = mode := by
      intro config desired s hs hm
      obtain ⟨hmode, hhelper⟩ :=
        x3d_mode_of_unavailable (s := s) (by rwa [hs, hm]) config desired true
      exact ⟨hhelper.trans hs, hmode.trans hm⟩
    have h₁ := hstore config₁ ⟨[], helper, mode⟩ rfl rfl
    have h₂ := hset config₁ true _ h₁.1 h₁.2
    have h₃ := hset config₁ false _ h₂.1 h₂.2
    have h₄ := hstore config₂ _ h₃.1 h₃.2
    have h₅ := hset config₂ true _ h₄.1 h₄.2
    have h₆ := hstore config₂ ⟨[], helper, mode⟩ rfl rfl
    have h₇ := hset config₂ true _ h₆.1 h₆.2
    exact iff_of_true (h₅.2.trans h₇.2.symm) (h.imp_right Or.inl)
  · rw [not_or, Bool.not_eq_false] at h
    obtain ⟨rfl, hmode⟩ := h
    obtain ⟨mode, rfl⟩ := Option.ne_none_iff_exists'.1 hmode
    have hleave : ∃ initial, setX3dMode config₁ false true (setX3dMode config₁ true true
        (storeX3dMode config₁ true ⟨[], true, some mode⟩)) =
          ⟨initial, true, some ((config₁.x3d .amdX3dModeDefault).getD mode)⟩ := by
      rw [x3d_enter]
      cases config₁.x3d .amdX3dModeDesired with
      | none => exact x3d_leave config₁ (Or.inl ⟨rfl, rfl⟩)
      | some desired => exact x3d_leave config₁ (Or.inr rfl)
    obtain ⟨initial, heq⟩ := hleave
    rw [heq, x3d_enter, x3d_enter, X3dReturns]
    cases hdesired : config₂.x3d .amdX3dModeDesired with
    | none =>
      cases hdefault : config₁.x3d .amdX3dModeDefault <;> simp
    | some desired => simp

/-! ### The threads -/

section Threads

variable (config₁ config₂ : Config) (cpu₁ cpu₂ : CpuState) {clients : List Pid}

/-- A thread after its client was registered, the configuration reloaded, and the client registered
again. -/
def Thread.reload (clients : List Pid) (t : Thread) : Thread :=
  clients.foldl (fun t client => t.optimise config₂ cpu₂ client)
    (clients.foldl (fun t client => t.restore config₁ cpu₁ client)
      (clients.reverse.foldl (fun t client => t.optimise config₁ cpu₁ client) t))

/-- A thread after its client was registered with a daemon that was started afresh. -/
def Thread.start (clients : List Pid) (t : Thread) : Thread :=
  clients.reverse.foldl (fun t client => t.optimise config₂ cpu₂ client) t

/-- The nice value is not one that the old configuration takes for its own. -/
def NiceKept (t : Thread) : Prop :=
  config₁.getReniceValue = 0 ∨ t.nice ≠ -config₁.getReniceValue ∨
    config₂.getReniceValue = config₁.getReniceValue

/-- The IO priority is not one that the old configuration takes for its own. -/
def IoprioKept (t : Thread) : Prop :=
  t.ioLevel = ioprioDefault ∨ t.ioLevel ≠ config₁.getIoprioValue ∨
    t.ioClass = .be ∧ config₂.getIoprioValue = config₁.getIoprioValue

/-- The threads are pinned to cores. -/
def CpuState.pins (cpu : CpuState) : Prop := ∃ info ∈ cpu.info, info.parkOrPin = .pin

/-- The affinity is set again, or it was not changed, or it was the one of all online cores. -/
def AffinityKept (online : Finset ℕ) (t : Thread) : Prop :=
  cpu₂.pins ∨ ¬cpu₁.pins ∨ t.affinity = online

variable {config₁ config₂ cpu₁ cpu₂} {t : Thread} (hnodup : clients.Nodup)
  (hmem : t.owner ∈ clients)
include hnodup hmem

/-- What the reload does to a thread of a client. -/
theorem Thread.reload_eq :
    t.reload config₁ config₂ cpu₁ cpu₂ clients =
      { ((t.optimise config₁ cpu₁ t.owner).restore config₁ cpu₁ t.owner).optimise config₂ cpu₂
          t.owner with
        policy := if t.tid ∈ clients ∧ config₂.enableSoftrealtime cpu₂.online.card then .iso
          else if t.tid ∈ clients ∧ config₁.enableSoftrealtime cpu₁.online.card then .iso
          else t.policy } := by
  have hreverse := List.nodup_reverse.2 hnodup
  rw [Thread.reload, Thread.foldl_optimise config₁ cpu₁ hreverse,
    if_pos (List.mem_reverse.2 hmem), Thread.foldl_restore config₁ cpu₁ hnodup]
  rw [if_pos (by exact hmem), Thread.foldl_optimise config₂ cpu₂ hnodup]
  simp only [List.mem_reverse]
  rw [if_pos (by exact hmem)]
  rfl

theorem Thread.start_eq :
    t.start config₂ cpu₂ clients =
      { t.optimise config₂ cpu₂ t.owner with
        policy := if t.tid ∈ clients ∧ config₂.enableSoftrealtime cpu₂.online.card then .iso
          else t.policy } := by
  have hreverse := List.nodup_reverse.2 hnodup
  rw [Thread.start, Thread.foldl_optimise config₂ cpu₂ hreverse, if_pos (List.mem_reverse.2 hmem)]
  simp only [List.mem_reverse]

/-- When the nice value agrees. -/
theorem Thread.nice_reload_iff :
    (t.reload config₁ config₂ cpu₁ cpu₂ clients).nice = (t.start config₂ cpu₂ clients).nice ↔
      NiceKept config₁ config₂ t := by
  rw [Thread.reload_eq hnodup hmem, Thread.start_eq hnodup hmem, NiceKept]
  have h₁ := config₁.getReniceValue_mem.1
  have h₂ := config₂.getReniceValue_mem.1
  simp only [Thread.optimise, Thread.restore, true_and]
  generalize config₁.getReniceValue = r₁ at *
  generalize config₂.getReniceValue = r₂ at *
  split_ifs <;> omega

/-- When the IO priority agrees. -/
theorem Thread.ioprio_reload_iff :
    (t.reload config₁ config₂ cpu₁ cpu₂ clients).ioLevel = (t.start config₂ cpu₂ clients).ioLevel ∧
        (t.reload config₁ config₂ cpu₁ cpu₂ clients).ioClass =
          (t.start config₂ cpu₂ clients).ioClass ↔
      IoprioKept config₁ config₂ t := by
  rw [Thread.reload_eq hnodup hmem, Thread.start_eq hnodup hmem, IoprioKept]
  simp only [Thread.optimise, Thread.restore, true_and]
  by_cases hdefault : t.ioLevel = ioprioDefault
  · simp [hdefault]
  · by_cases hown : t.ioLevel = config₁.getIoprioValue
    · have hne : config₁.getIoprioValue ≠ ioprioDefault := hown ▸ hdefault
      simp only [hown, hne, if_true, if_false, false_or, not_true_eq_false, ne_eq]
      constructor
      · rintro ⟨hlevel, hclass⟩
        exact ⟨hclass.symm, hlevel⟩
      · rintro ⟨hclass, hlevel⟩
        exact ⟨hlevel, hclass.symm⟩
    · simp [hdefault, hown]

/-- When the affinity agrees. -/
theorem Thread.affinity_reload_iff {online : Finset ℕ}
    (honline : ∀ info ∈ cpu₁.info, info.online = online) :
    (t.reload config₁ config₂ cpu₁ cpu₂ clients).affinity =
        (t.start config₂ cpu₂ clients).affinity ↔
      AffinityKept cpu₁ cpu₂ online t := by
  rw [Thread.reload_eq hnodup hmem, Thread.start_eq hnodup hmem, AffinityKept]
  simp only [Thread.optimise, Thread.restore, CpuState.pins, true_and]
  cases hcpu₂ : cpu₂.info with
  | none =>
    cases hcpu₁ : cpu₁.info with
    | none => simp
    | some info₁ =>
      have := honline info₁ hcpu₁
      cases hmode : info₁.parkOrPin <;> simp [hmode, this, eq_comm]
  | some info₂ =>
    cases hmode₂ : info₂.parkOrPin with
    | pin => simp [hmode₂]
    | park =>
      cases hcpu₁ : cpu₁.info with
      | none => simp
      | some info₁ =>
        have := honline info₁ hcpu₁
        cases hmode : info₁.parkOrPin <;> simp [hmode, hmode₂, this, eq_comm]

/-- The scheduling policy agrees when the old configuration sets it in no case, or the new one in
any. -/
theorem Thread.policy_reload (hsoft : config₁.enableSoftrealtime cpu₁.online.card = false ∨
      config₂.enableSoftrealtime cpu₂.online.card = true) :
    (t.reload config₁ config₂ cpu₁ cpu₂ clients).policy =
      (t.start config₂ cpu₂ clients).policy := by
  rw [Thread.reload_eq hnodup hmem, Thread.start_eq hnodup hmem]
  rcases hsoft with hsoft | hsoft
  · simp [hsoft]
  · by_cases htid : t.tid ∈ clients <;> simp [hsoft, htid]

end Threads

/-! ### The comparison -/

/-- The cores while game mode is active in a daemon that was started on the online cores. -/
def activeCpu (online allocated : Finset ℕ) (config : Config) : CpuState :=
  parkCpu files .succeeded ⟨(initialiseCpu files online allocated config).2, online⟩

/-- The threads after the clients are registered. -/
theorem withClients_threads {env : Env} (henv : env.AllSucceed) (allocated : Finset ℕ)
    (config : Config) (system : OriginalSystem) : (clients : List Client) →
      (withClients files env allocated config system clients).threads =
          system.threads.map (Thread.start config
            (activeCpu files system.online allocated config) (clients.map Client.pid)) ∧
        (withClients files env allocated config system clients).config = config ∧
        coresAtRegister files (withClients files env allocated config system clients) =
          activeCpu files system.online allocated config ∧
        (clients ≠ [] → (withClients files env allocated config system clients).cpu =
          activeCpu files system.online allocated config)
  | [] => by
    refine ⟨?_, rfl, rfl, fun h => absurd rfl h⟩
    exact (List.map_id'' (fun t => rfl) system.threads).symm
  | cl :: clients => by
    obtain ⟨hthreads, hconfig, hcores, -⟩ :=
      withClients_threads henv allocated config system clients
    obtain ⟨hthreads', hconfig', hcpu'⟩ := insertClient_threads files henv
      (withClients files env allocated config system clients) cl
    have hcount := (withClients_clients files env allocated config system (cl :: clients)).2
    have hcpu : (withClients files env allocated config system (cl :: clients)).cpu =
        activeCpu files system.online allocated config := hcpu'.trans hcores
    refine ⟨?_, hconfig'.trans hconfig, ?_, fun _ => hcpu⟩
    · refine hthreads'.trans ?_
      rw [hthreads, hconfig, hcores, List.map_map]
      refine List.map_congr_left fun t _ => ?_
      simp [Thread.start, List.foldl_append]
    · rw [coresAtRegister, hcount, if_neg (by rw [List.length_cons]; omega), hcpu]

/-- The values of a thread of a client after a reload and after a fresh start. -/
structure ThreadAgrees (config₁ config₂ : Config) (cpu₁ cpu₂ : CpuState) (online : Finset ℕ)
    (t u v : Thread) : Prop where
  owner : u.owner = t.owner ∧ v.owner = t.owner
  tid : u.tid = t.tid ∧ v.tid = t.tid
  nice : u.nice = v.nice ↔ NiceKept config₁ config₂ t
  ioprio : u.ioLevel = v.ioLevel ∧ u.ioClass = v.ioClass ↔ IoprioKept config₁ config₂ t
  affinity : u.affinity = v.affinity ↔ AffinityKept cpu₁ cpu₂ online t
  policy : config₁.enableSoftrealtime cpu₁.online.card = false ∨
    config₂.enableSoftrealtime cpu₂.online.card = true → u.policy = v.policy

/-- Two configurations ask for the same GPU settings, and these and the values of the card fit the
command line of the helper. -/
def SameGpu (config₁ config₂ : Config) (gpu : GpuSystem) : Prop :=
  (initialiseGpu gpu.vendorFile config₁).2 = (initialiseGpu gpu.vendorFile config₂).2 ∧
    ∀ info ∈ (initialiseGpu gpu.vendorFile config₁).2, info.Fits gpu

/-- What a reload from one configuration to another one leaves is compared with a fresh start. -/
structure ReloadAgrees (config₁ config₂ : Config) (cpu₁ cpu₂ : CpuState) (system : OriginalSystem)
    (clients : List Client) (a b : World) : Prop where
  clients_eq : a.clients = clients ∧ b.clients = clients
  governor : a.governor.system = b.governor.system
  profile : a.profile.system = b.profile.system
  splitlock : a.splitlock.value = b.splitlock.value
  online : a.cpu.online = b.cpu.online
  inhibitor : a.inhibitor.holding = b.inhibitor.holding
  x3d : a.x3d.mode = b.x3d.mode ↔
    clients = [] ∨ X3dReturns config₁ config₂ system.x3dHelper system.x3dMode
  gpu : clients = [] ∨ SameGpu config₁ config₂ system.gpu → a.gpu = b.gpu
  threads : ∀ (i : ℕ) (t : Thread), system.threads[i]? = some t →
    t.owner ∈ clients.map Client.pid →
    ∃ u ∈ a.threads[i]?, ∃ v ∈ b.threads[i]?,
      ThreadAgrees config₁ config₂ cpu₁ cpu₂ system.online t u v

section Compare

variable {env₁ env env₂ : Env} (henv₁ : env₁.AllSucceed) (henv : env.AllSucceed)
  (henv₂ : env₂.AllSucceed) (allocated : Finset ℕ) (config₁ : Config) (system : OriginalSystem)
  (hfiles : files.ListsOnline system.online)

theorem gpu_reload {config₂ : Config} (h : SameGpu config₁ config₂ system.gpu) :
    let target := (initialiseGpu system.gpu.vendorFile config₁).2
    applyGpu target true (applyGpu (getGpu target true system.gpu) true
        (applyGpu target true system.gpu)) =
      applyGpu (initialiseGpu system.gpu.vendorFile config₂).2 true system.gpu := by
  intro target
  rw [← h.1]
  cases htarget : (initialiseGpu system.gpu.vendorFile config₁).2 with
  | none => simp only [target, htarget, applyGpu, getGpu]
  | some info =>
    simp only [target, htarget]
    exact applyGpu_reload (h.2 info htarget) (initialiseGpu_vendor htarget)

include hfiles

/-- A reload without clients changes no setting of the system. -/
theorem reload_agrees_nil :
    ReloadAgrees config₁ env.reloaded (activeCpu files system.online allocated config₁)
      (activeCpu files system.online env.allocated env.reloaded) system []
      (reloadConfigInternal files env (withClients files env₁ allocated config₁ system []))
      (withClients files env₂ env.allocated env.reloaded system []) where
  clients_eq := ⟨rfl, rfl⟩
  governor := rfl
  profile := rfl
  splitlock := rfl
  online := by
    have hsubset : ∀ info ∈ (initialiseCpu files system.online allocated config₁).2,
        info.online ⊆ system.online :=
      fun info hinfo => (online_of_initialiseCpu hfiles hinfo).subset
    change (unparkCpu env.reconfigCorectl
      ⟨(initialiseCpu files system.online allocated config₁).2, system.online⟩).online =
      system.online
    rw [unparkCpu_of_subset hsubset]
  inhibitor := rfl
  x3d := iff_of_true rfl (Or.inl rfl)
  gpu _ := rfl
  threads _ _ _ howner := absurd howner (by simp)

include henv₁ henv henv₂

/-- What a reload does to a thread of a client. -/
theorem reload_threads {clients : List Client} (hnodup : (clients.map Client.pid).Nodup)
    (hne : clients ≠ []) (i : ℕ) (t : Thread) (ht : system.threads[i]? = some t)
    (howner : t.owner ∈ clients.map Client.pid) :
    ∃ u ∈ (reloadConfigInternal files env
        (withClients files env₁ allocated config₁ system clients)).threads[i]?,
      ∃ v ∈ (withClients files env₂ env.allocated env.reloaded system clients).threads[i]?,
        ThreadAgrees config₁ env.reloaded (activeCpu files system.online allocated config₁)
          (activeCpu files system.online env.allocated env.reloaded) system.online t u v := by
  obtain ⟨hthreads, hconfig, -, hcpu⟩ :=
    withClients_threads files henv₁ allocated config₁ system clients
  obtain ⟨hthreads₂, -, -, -⟩ :=
    withClients_threads files henv₂ env.allocated env.reloaded system clients
  obtain ⟨hclients, hrefcount⟩ := withClients_clients files env₁ allocated config₁ system clients
  have hpids : (withClients files env₁ allocated config₁ system clients).pids =
      clients.map Client.pid := congrArg (List.map Client.pid) hclients
  have hcount : (withClients files env₁ allocated config₁ system clients).refcount ≠ 0 := by
    have := List.length_pos_of_ne_nil hne
    omega
  have hcores : coresAtReload files env (withClients files env₁ allocated config₁ system clients) =
      activeCpu files system.online env.allocated env.reloaded := by
    rw [coresAtReload, hcpu hne, activeCpu, cpu_reload files config₁ env.reloaded allocated hfiles]
    rfl
  have honline : ∀ info ∈ (activeCpu files system.online allocated config₁).info,
      info.online = system.online := by
    intro info hinfo
    rw [activeCpu, parkCpu_info] at hinfo
    exact online_of_initialiseCpu hfiles hinfo
  refine ⟨t.reload config₁ env.reloaded (activeCpu files system.online allocated config₁)
      (activeCpu files system.online env.allocated env.reloaded) (clients.map Client.pid), ?_,
    t.start env.reloaded (activeCpu files system.online env.allocated env.reloaded)
      (clients.map Client.pid), ?_, ?_⟩
  · rw [reloadConfigInternal_threads files henv _ hcount, hpids, hconfig, hcpu hne, hcores,
      hthreads]
    simp [ht, Thread.reload, Thread.start]
  · rw [hthreads₂]
    simp [ht]
  · exact
      { owner := by
          rw [Thread.reload_eq hnodup howner, Thread.start_eq hnodup howner]
          exact ⟨rfl, rfl⟩
        tid := by
          rw [Thread.reload_eq hnodup howner, Thread.start_eq hnodup howner]
          exact ⟨rfl, rfl⟩
        nice := Thread.nice_reload_iff hnodup howner
        ioprio := Thread.ioprio_reload_iff hnodup howner
        affinity := Thread.affinity_reload_iff hnodup howner honline
        policy := Thread.policy_reload hnodup howner }

/-- The comparison of two contexts by their settings: one left game mode and entered it again under
another configuration, the other one entered it afresh. -/
private theorem reloadAgrees_of_settings {clients : List Client} (hne : clients ≠ []) {a b : World}
    (ha : a.settings = (contextEnter files env.enter (rereadConfig files env
      (contextLeave env.leave (contextEnter files env₁.enter
        (contextInit files allocated config₁ system))))).settings)
    (hb : b.settings = (contextEnter files env₂.enter
      (contextInit files env.allocated env.reloaded system)).settings)
    (hclients : a.clients = clients ∧ b.clients = clients)
    (hthreads : ∀ (i : ℕ) (t : Thread), system.threads[i]? = some t →
      t.owner ∈ clients.map Client.pid → ∃ u ∈ a.threads[i]?, ∃ v ∈ b.threads[i]?,
        ThreadAgrees config₁ env.reloaded (activeCpu files system.online allocated config₁)
          (activeCpu files system.online env.allocated env.reloaded) system.online t u v) :
    ReloadAgrees config₁ env.reloaded (activeCpu files system.online allocated config₁)
      (activeCpu files system.online env.allocated env.reloaded) system clients a b where
  clients_eq := hclients
  governor := by
    change a.settings.governor.system = b.settings.governor.system
    simp only [ha, hb, settings_governor, rereadConfig_governor, contextLeave_governor,
      contextEnter_governor, henv₁.enter.governorSet, henv.leave.governorSet,
      henv.enter.governorSet, henv₂.enter.governorSet]
    exact governor_reload config₁ env.reloaded system.governors
  profile := by
    change a.settings.profile.system = b.settings.profile.system
    simp only [ha, hb, settings_profile, rereadConfig_profile, contextLeave_profile,
      contextEnter_profile, henv₁.enter.profileSet, henv.leave.profileSet, henv.enter.profileSet,
      henv₂.enter.profileSet]
    exact profile_reload config₁ env.reloaded system.profile
  splitlock := by
    change a.settings.splitlock.value = b.settings.splitlock.value
    simp only [ha, hb, settings_splitlock, rereadConfig_splitlock, contextLeave_splitlock,
      contextEnter_splitlock, henv₁.enter.splitlockSet, henv.leave.splitlockSet,
      henv.enter.splitlockSet, henv₂.enter.splitlockSet]
    exact splitlock_reload config₁ env.reloaded system.splitlock
  online := by
    change a.settings.cpu.online = b.settings.cpu.online
    simp only [ha, hb, settings_cpu, rereadConfig_cpu, contextLeave_cpu, contextEnter_cpu,
      henv₁.enter.corectl, henv.leave.corectl, henv.enter.corectl, henv₂.enter.corectl,
      henv.reconfigCorectl, contextInit_cpu, cpu_reload files config₁ env.reloaded allocated hfiles]
  inhibitor := by
    change a.settings.inhibitor.holding = b.settings.inhibitor.holding
    simp only [ha, hb, settings_inhibitor, rereadConfig_inhibitor, contextLeave_inhibitor,
      contextEnter_inhibitor, henv₁.enter.inhibit, henv.enter.inhibit, henv₂.enter.inhibit]
    exact inhibitor_reload config₁ env.reloaded
  x3d := by
    rw [or_iff_right hne, ← x3d_reload_iff]
    change a.settings.x3d.mode = b.settings.x3d.mode ↔ _
    simp only [ha, hb, settings_x3d, rereadConfig_x3d, contextLeave_x3d, contextEnter_x3d,
      henv₁.enter.x3dGet, henv₁.enter.x3dSet, henv.leave.x3dSet, henv.enter.x3dGet,
      henv.enter.x3dSet, henv₂.enter.x3dGet, henv₂.enter.x3dSet]
    rfl
  gpu := by
    intro hgpu
    change a.settings.gpu = b.settings.gpu
    simp only [ha, hb, settings_gpu, rereadConfig_gpu, rereadConfig_targetGpu, contextLeave_gpu,
      contextLeave_targetGpu, contextEnter_gpu, contextEnter_targetGpu, contextEnter_storedGpu,
      henv₁.enter.gpuGet, henv₁.enter.gpuSet, henv.leave.gpuSet, henv.enter.gpuSet,
      henv₂.enter.gpuSet]
    exact gpu_reload config₁ system (hgpu.resolve_left hne)
  threads := hthreads

/-- **A reload compared with a fresh start.** After a reload the governor, the profile, the
split-lock mitigation, the cores and the inhibitor are those of a daemon that is started under the
new configuration with the same clients, and so are the GPU settings when both configurations ask
for the same ones. The X3D mode and the values of the threads are so exactly under the conditions
stated. -/
theorem reload_agrees {clients : List Client} (hnodup : (clients.map Client.pid).Nodup) :
    ReloadAgrees config₁ env.reloaded (activeCpu files system.online allocated config₁)
      (activeCpu files system.online env.allocated env.reloaded) system clients
      (reloadConfigInternal files env (withClients files env₁ allocated config₁ system clients))
      (withClients files env₂ env.allocated env.reloaded system clients) := by
  rcases eq_or_ne clients [] with rfl | hne
  · exact reload_agrees_nil files allocated config₁ system hfiles
  obtain ⟨hclients, hrefcount⟩ := withClients_clients files env₁ allocated config₁ system clients
  have hcount : (withClients files env₁ allocated config₁ system clients).refcount ≠ 0 := by
    have := List.length_pos_of_ne_nil hne
    omega
  have ha : (reloadConfigInternal files env
        (withClients files env₁ allocated config₁ system clients)).settings =
      (contextEnter files env.enter (rereadConfig files env (contextLeave env.leave
        (contextEnter files env₁.enter
          (contextInit files allocated config₁ system))))).settings := by
    rw [settings_reloadConfigInternal files env hcount, settings_contextEnter,
      settings_rereadConfig, settings_contextLeave,
      settings_withClients files env₁ allocated config₁ system hne, ← settings_contextLeave,
      ← settings_rereadConfig, ← settings_contextEnter]
  have hb := settings_withClients files env₂ env.allocated env.reloaded system hne
  exact reloadAgrees_of_settings files henv₁ henv henv₂ allocated config₁ system hfiles hne ha hb
    ⟨(reloadConfigInternal_clients files env _).1.trans hclients,
      (withClients_clients files env₂ env.allocated env.reloaded system clients).1⟩
    (reload_threads files henv₁ henv henv₂ allocated config₁ system hfiles hnodup hne)

end Compare

/-- A reload that changes the renice value while a game runs. -/
theorem reload_agrees_of_renice :
    let config₂ := Config.initial.set (.long .renice) 5
    let system := OriginalSystem.plain "powersave".toList "balanced".toList {0, 1}
      [⟨5, 5, 0, .be, 4, .other, {0, 1}⟩]
    let clients := [clientNew 5 "/usr/bin/game".toList 5 0]
    ReloadAgrees Config.initial config₂ (activeCpu .unreadable {0, 1} ∅ Config.initial)
      (activeCpu .unreadable {0, 1} ∅ config₂) system clients
      (reloadConfigInternal .unreadable (.succeeding config₂)
        (withClients .unreadable (.succeeding config₂) ∅ Config.initial system clients))
      (withClients .unreadable (.succeeding config₂) ∅ config₂ system clients) := by
  intro config₂ system clients
  exact reload_agrees .unreadable (Env.allSucceed_succeeding config₂)
    (Env.allSucceed_succeeding config₂) (Env.allSucceed_succeeding config₂) ∅ Config.initial system
    nofun (show (clients.map Client.pid).Nodup by decide)

/-- A configuration with every feature. -/
def Config.everything : Config :=
  (((((Config.initial.set (.long .renice) 5).set (.string .ioprio) "7".toList).set
    (.string .softrealtime) "on".toList).set (.x3d .amdX3dModeDefault) (some .cache)).set
    (.string .applyGpuOptimisations) "accept-responsibility".toList).set
    (.string .amdPerformanceLevel) "high".toList

/-- A configuration with GPU settings only. -/
def Config.gpuOnly : Config :=
  (((Config.initial.set (.string .applyGpuOptimisations) "accept-responsibility".toList).set
    (.string .amdPerformanceLevel) "low".toList).set (.string .cpuPinCores) "no".toList).set
    (.string .cpuParkCores) "no".toList

/-- A kernel with eight cores, four of them fast. -/
def CpuSysfs.hybrid : CpuSysfs where
  online _ := some "0-7\n".toList
  peCores _ := some "0-3\n".toList
  l3Size _ _ := none
  maxFreq _ _ := none
  coreZeroParks := false

/-- A system with an AMD card and an X3D processor, on which a game changed its threads by
itself. -/
def OriginalSystem.tuned : OriginalSystem where
  governors := [⟨"powersave".toList, true⟩]
  profile := some "balanced".toList
  splitlock := some 1
  x3dHelper := true
  x3dMode := some .frequency
  gpu := ⟨fun device => if device = 0 then some GPUVendor.amd.id else none, fun _ => -1,
    fun _ _ => 0, fun _ => "auto".toList⟩
  online := Finset.range 8
  threads := [⟨5, 5, -5, .be, 7, .other, {0}⟩]

/-- A reload leaves an X3D mode, GPU settings, and values of the threads that a fresh start does
not. -/
theorem not_reload_agrees :
    let clients := [clientNew 5 "/usr/bin/game".toList 5 0]
    let a := reloadConfigInternal .hybrid (.succeeding .gpuOnly)
      (withClients .hybrid (.succeeding .gpuOnly) ∅ .everything .tuned clients)
    let b := withClients .hybrid (.succeeding .gpuOnly) ∅ .gpuOnly .tuned clients
    a.x3d.mode ≠ b.x3d.mode ∧ a.gpu.amd 0 ≠ b.gpu.amd 0 ∧
      a.threads.map Thread.nice ≠ b.threads.map Thread.nice ∧
      a.threads.map Thread.ioLevel ≠ b.threads.map Thread.ioLevel ∧
      a.threads.map Thread.policy ≠ b.threads.map Thread.policy ∧
      a.threads.map Thread.affinity ≠ b.threads.map Thread.affinity := by
  decide

end GameMode
