import GameMode.Config.Load

/-!
# Split-lock mitigation, X3D mode and screensaver

Three settings that the daemon switches when game mode is entered and left: the kernel's mitigation
of split locks, the mode of an AMD X3D processor, and the inhibition of the screensaver.

The split-lock mitigation is read when game mode is entered, and what is written on either side is
the value that was read.

## Main definitions

* `storeSplitlock`, `disableSplitlock`: the split-lock mitigation.
* `storeX3dMode`, `setX3dMode`: the X3D mode.
* `InhibitorState.enter`, `InhibitorState.leave`: the idle inhibitor.

Source: `daemon/gamemode-context.c`, `game_mode_store_splitlock` to `game_mode_set_x3d_mode`;
`util/x3dmodectl.c`, `util/procsysctl.c`; `daemon/gamemode-dbus.c`, the idle inhibitor.
-/

namespace GameMode

/-! ### Split-lock mitigation -/

/-- `initial_split_lock_mitigate`, and the value of the kernel, `none` when its file cannot be
read. -/
structure SplitlockState where
  /-- `initial_split_lock_mitigate`. -/
  initial : ℤ
  /-- `/proc/sys/kernel/split_lock_mitigate`. -/
  value : Option ℤ
  deriving DecidableEq

/-- `get_splitlock_state`. -/
def SplitlockState.getSplitlockState (s : SplitlockState) : ℤ := s.value.getD (-1)

/-- `game_mode_store_splitlock`. -/
def storeSplitlock (s : SplitlockState) : SplitlockState :=
  { s with initial := s.getSplitlockState }

/-- `game_mode_disable_splitlock`: the value written does not depend on `disable`. -/
def disableSplitlock (config : Config) (disable ok : Bool) (s : SplitlockState) : SplitlockState :=
  if ¬config.getDisableSplitlock then s
  else if disable ∧ s.initial = 0 then s
  else if s.initial = -1 then s
  else if ok then { s with value := some s.initial }
  else s

/-! ### X3D mode -/

/-- `initial_x3d_mode`, whether the helper `x3dmodectl` can be executed, and the mode of the
processor, `none` when it has none. -/
structure X3dState where
  /-- `initial_x3d_mode`. -/
  initial : CString
  /-- Whether the helper can be executed. -/
  helper : Bool
  /-- The mode of the processor. -/
  mode : Option X3dMode
  deriving DecidableEq

/-- The size of `initial_x3d_mode`. -/
def x3dModeSize : ℕ := 64

/-- The text of an X3D option, empty when it is not set. -/
def Config.x3dText (self : Config) (option : X3dOption) : CString :=
  match self.x3d option with
  | none => []
  | some mode => mode.text

/-- `x3dmodectl get`: what it prints. -/
def X3dState.getX3dMode (s : X3dState) : CString :=
  match s.mode with
  | none => "unavailable".toList
  | some mode => mode.text

/-- `game_mode_store_x3d_mode`. -/
def storeX3dMode (config : Config) (getOk : Bool) (s : X3dState) : X3dState :=
  if config.x3dText .amdX3dModeDesired = [] then s
  else if ¬s.helper then s
  else if ¬getOk then s
  else { s with initial := (s.getX3dMode.truncate x3dModeSize).takeWhile (· != '\n') }

/-- The mode that `game_mode_set_x3d_mode` asks for. -/
def X3dState.modeText (config : Config) (desired : Bool) (s : X3dState) : CString :=
  if desired then config.x3dText .amdX3dModeDesired
  else if config.x3dText .amdX3dModeDefault = [] then s.initial.truncate configValueMax
  else config.x3dText .amdX3dModeDefault

/-- `x3dmodectl set`, on a processor that has a mode. -/
def X3dState.setMode (s : X3dState) (mode : X3dMode) : X3dState :=
  { s with mode := s.mode.map fun _ => mode }

/-- `game_mode_set_x3d_mode`: a text that is no mode is refused. -/
def setX3dMode (config : Config) (desired ok : Bool) (s : X3dState) : X3dState :=
  let text := s.modeText config desired
  if text = [] then s
  else if ¬s.helper then s
  else
    match getX3dModeValue text with
    | none => s
    | some mode => if ok then s.setMode mode else s

/-! ### Idle inhibitor -/

/-- `idle_inhibitor`, with the inhibitors created and destroyed so far: the inhibitors are numbered
in the order in which they are created. -/
structure InhibitorState where
  /-- `idle_inhibitor`. -/
  idleInhibitor : Option ℕ
  /-- How many inhibitors were created. -/
  created : ℕ
  /-- The inhibitors that were destroyed, in order. -/
  destroyed : List ℕ
  deriving DecidableEq

namespace InhibitorState

/-- `game_mode_destroy_idle_inhibitor(self->idle_inhibitor)`. -/
def destroyIdleInhibitor (s : InhibitorState) : InhibitorState :=
  match s.idleInhibitor with
  | none => s
  | some inhibitor => { s with destroyed := s.destroyed ++ [inhibitor] }

/-- `self->idle_inhibitor = game_mode_create_idle_inhibitor()`. -/
def createIdleInhibitor (ok : Bool) (s : InhibitorState) : InhibitorState :=
  if ok then { s with idleInhibitor := some s.created, created := s.created + 1 }
  else { s with idleInhibitor := none }

/-- The inhibitor when game mode is entered. -/
def enter (config : Config) (ok : Bool) (s : InhibitorState) : InhibitorState :=
  if config.getInhibitScreensaver then s.destroyIdleInhibitor.createIdleInhibitor ok else s

/-- The inhibitor when game mode is left. -/
def leave (config : Config) (s : InhibitorState) : InhibitorState :=
  if config.getInhibitScreensaver then { s.destroyIdleInhibitor with idleInhibitor := none } else s

/-- How many inhibitors are outstanding. -/
def outstanding (s : InhibitorState) : ℤ := s.created - s.destroyed.length

end InhibitorState

end GameMode
