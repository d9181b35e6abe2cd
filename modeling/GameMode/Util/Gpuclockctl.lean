import GameMode.Daemon.Gpu
import GameMode.Library.LastWins
import Mathlib.Logic.Function.Basic

/-!
# The GPU helper and the GPUs

The helper `gpuclockctl` reads and sets the clock offsets of an NVIDIA GPU through attributes of its
driver, and the performance level of an AMD GPU through a file. An attribute keeps the number that
it was assigned last, and the file the text that was written last; an empty text is no write.

The daemon keeps two descriptions of the GPU: the settings that the configuration asks for, and the
settings that the GPU had when game mode was last entered.

## Main definitions

* `GpuSystem`: the cards and their settings.
* `gpuclockctlSet`, `gpuclockctlGet`: the helper.
* `applyGpu`, `getGpu`: the calls of the daemon.
* `GameModeGPUInfo.Describes`: the settings of a card are those described.

## Main results

* `scanLongs_nvLine`: the daemon reads back the numbers that the helper prints.
* `getGpu_describes`: what is read of a card describes it.
* `applyGpu_restore`: setting what was read of a card puts it back.
* `applyGpu_reload`: applying settings, putting back what was read before, and applying them again
  comes to applying them once.

Source: `util/gpuclockctl.c`; `daemon/gamemode-gpu.c`, `game_mode_apply_gpu` and
`game_mode_get_gpu`.
-/

namespace GameMode

/-! ### The cards -/

/-- The attributes of the NVIDIA driver that the helper uses. An offset is kept for one performance
level, or for all of them at once. -/
inductive NvAttribute
  | coreOffset (level : Option ℤ)
  | memOffset (level : Option ℤ)
  | powermizerMode
  deriving DecidableEq, Repr

/-- The cards of the system and their settings. -/
structure GpuSystem where
  /-- The numbers in the vendor files. -/
  vendorFile : ℤ → Option ℤ
  /-- The highest performance level of an NVIDIA GPU, `-1` when it cannot be found. -/
  maxPerfLevel : ℤ → ℤ
  /-- The attributes of the NVIDIA GPUs. -/
  nv : ℤ → NvAttribute → ℤ
  /-- The performance levels of the AMD cards. -/
  amd : ℤ → CString

namespace GpuSystem

variable (sys : GpuSystem)

/-- `drm_card_exists`. -/
def drmCardExists (device : ℕ) : Bool := (sys.vendorFile device).isSome

/-- The loop of `get_gpu_index_id_nv` over the cards before `n`. -/
def nvDevice : ℕ → ℤ
  | 0 => -1
  | n + 1 =>
    if sys.drmCardExists n ∧ gamemodeGetGpuVendor sys.vendorFile n = some .nvidia then
      nvDevice n + 1
    else nvDevice n

/-- `get_gpu_index_id_nv`. -/
def getGpuIndexIdNv (device : ℕ) : ℤ := sys.nvDevice (device + 1)

/-- `set_nv_attr` for an attribute of a GPU, unless the value is `-1`. -/
def setNvAttr (index : ℤ) (attr : NvAttribute) (value : ℤ) : GpuSystem :=
  if value ≠ -1 then
    { sys with nv := Function.update sys.nv index (Function.update (sys.nv index) attr value) }
  else sys

/-- `set_gpu_state_nv`. -/
def setGpuStateNv (index nvCore nvMem nvPowermizerMode nvPerProfileEditable : ℤ) : GpuSystem :=
  let perfLevel := sys.maxPerfLevel index
  if nvPerProfileEditable = 1 then
    ((sys.setNvAttr index (.coreOffset (some perfLevel)) nvCore).setNvAttr index
      (.memOffset (some perfLevel)) nvMem).setNvAttr index .powermizerMode nvPowermizerMode
  else if nvPerProfileEditable = 0 then
    (sys.setNvAttr index (.coreOffset none) nvCore).setNvAttr index (.memOffset none) nvMem
  else sys

/-- `set_gpu_state_amd_file` for the performance level. -/
def setGpuStateAmd (device : ℤ) (level : CString) : GpuSystem :=
  if level ≠ [] then { sys with amd := Function.update sys.amd device level } else sys

end GpuSystem

/-! ### The helper -/

/-- `get_generic_value`: the number at the start of an argument, if there is one. -/
def getGenericValue (val : CString) : Option ℤ :=
  let parse := val.strtol
  if parse.endp = val then none else some parse.value

/-- `get_device`. -/
def getDevice (val : CString) : Option ℕ :=
  match getGenericValue val with
  | none => none
  | some device => if device < 0 then none else some device.toNat

/-- The arguments of `gpuclockctl set`: the device, and the values. `none` stands for an exit with
a failure, which changes nothing. -/
def gpuclockctlSet (sys : GpuSystem) (device : CString) (values : List CString) :
    Option GpuSystem := do
  let device ← getDevice device
  match ← gamemodeGetGpuVendor sys.vendorFile device with
  | .nvidia =>
    match values with
    | [nvCore, nvMem, nvPowermizerMode, nvPerProfileEditable] =>
      some (sys.setGpuStateNv (sys.getGpuIndexIdNv device) (← getGenericValue nvCore)
        (← getGenericValue nvMem) (← getGenericValue nvPowermizerMode)
        (← getGenericValue nvPerProfileEditable))
    | [nvCore, nvMem, nvPowermizerMode] =>
      some (sys.setGpuStateNv (sys.getGpuIndexIdNv device) (← getGenericValue nvCore)
        (← getGenericValue nvMem) (← getGenericValue nvPowermizerMode) 1)
    | [nvCore, nvMem] =>
      some (sys.setGpuStateNv (sys.getGpuIndexIdNv device) (← getGenericValue nvCore)
        (← getGenericValue nvMem) (-1) 1)
    | _ => none
  | .amd =>
    match values with
    | level :: _ => some (sys.setGpuStateAmd device (level.truncate configValueMax))
    | [] => none
  | .intel => none

/-- The line that `gpuclockctl get` prints for an NVIDIA GPU. -/
def nvLine (nvCore nvMem nvPowermizerMode : ℤ) : CString :=
  CString.decimal nvCore ++ ' ' :: (CString.decimal nvMem ++ ' ' ::
    CString.decimal nvPowermizerMode)

/-- What `fgets` reads into a buffer of the given size. -/
def fgets (size : ℕ) (contents : CString) : CString :=
  CString.truncate size
    (contents.takeWhile (· != '\n') ++ (contents.dropWhile (· != '\n')).take 1)

/-- `gpuclockctl get`: what it prints. The powermizer mode is read only when the profiles can be
edited. -/
def gpuclockctlGet (sys : GpuSystem) (device nvPerProfileEditable : CString) : Option CString := do
  let device ← getDevice device
  let editable ← getGenericValue nvPerProfileEditable
  match gamemodeGetGpuVendor sys.vendorFile device with
  | some .nvidia =>
    let nv := sys.nv (sys.getGpuIndexIdNv device)
    let perfLevel := sys.maxPerfLevel (sys.getGpuIndexIdNv device)
    if editable = 1 then
      some (nvLine (nv (.coreOffset (some perfLevel))) (nv (.memOffset (some perfLevel)))
        (nv .powermizerMode) ++ ['\n'])
    else if editable = 0 then
      some (nvLine (nv (.coreOffset none)) (nv (.memOffset none)) 0 ++ ['\n'])
    else none
  | some .amd => some (fgets configValueMax (sys.amd device ++ ['\n']) ++ ['\n'])
  | some .intel | none => some []

/-! ### The daemon -/

/-- The numbers that `sscanf` finds for a row of `%ld`. -/
def scanLongs : ℕ → CString → List ℤ
  | 0, _ => []
  | n + 1, s =>
    let parse := s.strtol
    if parse.endp = s then [] else parse.value :: scanLongs n parse.endp

/-- `game_mode_apply_gpu`: the cards afterwards. -/
def applyGpu (info : Option GameModeGPUInfo) (ok : Bool) (sys : GpuSystem) : GpuSystem :=
  match info with
  | none => sys
  | some info =>
    if ok then (gpuclockctlSet sys (printLong 4 info.device) (info.applyArgs.drop 4)).getD sys
    else sys

/-- What `game_mode_get_gpu` makes of the line that the helper printed: numbers are stored as far
as they were found. -/
def GameModeGPUInfo.readLine (info : GameModeGPUInfo) (buffer : CString) : GameModeGPUInfo :=
  match info.vendor with
  | .nvidia =>
    match scanLongs 3 buffer with
    | [] => info
    | [core] => { info with nvCore := core }
    | [core, mem] => { info with nvCore := core, nvMem := mem }
    | core :: mem :: mode :: _ =>
      { info with nvCore := core, nvMem := mem, nvPowermizerMode := mode }
  | .amd => { info with amdPerformanceLevel := buffer.truncate configValueMax }
  | .intel => info

/-- `game_mode_get_gpu`: the description afterwards. -/
def getGpu (info : Option GameModeGPUInfo) (ok : Bool) (sys : GpuSystem) :
    Option GameModeGPUInfo :=
  match info with
  | none => none
  | some info =>
    if ok then
      match gpuclockctlGet sys (printLong 4 info.device)
          (printLong 4 info.nvPerProfileEditable) with
      | none => some info
      | some buffer => some (info.readLine buffer.strtokLine)
    else some info

private theorem scanLongs_decimal (n : ℕ) {v : ℤ} (h : CString.longMin ≤ v ∧ v ≤ CString.longMax)
    {blanks rest : CString} (hblanks : ∀ c ∈ blanks, CString.isSpace c = true)
    (hrest : ∀ c ∈ rest.head?, c.isDigit = false) :
    scanLongs (n + 1) (blanks ++ (CString.decimal v ++ rest)) = v :: scanLongs n rest := by
  have hparse := CString.strtol_decimal_append h hblanks hrest
  have hne : rest ≠ blanks ++ (CString.decimal v ++ rest) := by
    intro heq
    have hlen := congrArg List.length heq
    have hpos : 0 < (CString.decimal v).length := by
      rw [CString.decimal]
      split_ifs
      · exact Nat.succ_pos _
      · exact Nat.length_toDigits_pos
    simp only [List.length_append] at hlen
    omega
  rw [scanLongs, hparse, if_neg hne]

theorem newline_notMem_decimal (v : ℤ) : '\n' ∉ CString.decimal v := by
  intro h
  have hdigits : '\n' ∉ Nat.toDigits 10 v.natAbs := fun hmem =>
    absurd (Nat.isDigit_of_mem_toDigits (by decide) (by decide) hmem) (by decide)
  rw [CString.decimal] at h
  split_ifs at h <;> simp [hdigits] at h

/-- The daemon reads back the numbers that the helper prints. -/
theorem scanLongs_nvLine {a b c : ℤ} (ha : CString.longMin ≤ a ∧ a ≤ CString.longMax)
    (hb : CString.longMin ≤ b ∧ b ≤ CString.longMax)
    (hc : CString.longMin ≤ c ∧ c ≤ CString.longMax) :
    scanLongs 3 (nvLine a b c ++ ['\n']).strtokLine = [a, b, c] := by
  have hspace : ∀ c ∈ [' '], CString.isSpace c = true := fun c hc =>
    List.mem_singleton.1 hc ▸ (by decide : CString.isSpace ' ' = true)
  have hblank : ∀ (s : CString), ∀ c ∈ (' ' :: s).head?, c.isDigit = false := by
    intro s c hc
    cases hc
    decide
  have hne : nvLine a b c ≠ [] := List.append_ne_nil_of_right_ne_nil _ (List.cons_ne_nil _ _)
  have hmem : '\n' ∉ nvLine a b c := by
    simp [nvLine, newline_notMem_decimal]
  have h₁ := @scanLongs_decimal 2 a ha [] _ (by simp)
    (hblank (CString.decimal b ++ ' ' :: CString.decimal c))
  have h₂ := scanLongs_decimal 1 hb hspace (hblank (CString.decimal c))
  have h₃ := @scanLongs_decimal 0 c hc _ [] hspace (by simp)
  rw [List.append_nil] at h₃
  rw [CString.strtokLine_append hne hmem]
  exact h₁.trans (congrArg (a :: ·) (h₂.trans (congrArg (b :: ·) h₃)))

/-! ### Applying settings again -/

/-- A number fits a buffer of the command line. -/
def FitsBuffer (size : ℕ) (v : ℤ) : Prop :=
  (CString.longMin ≤ v ∧ v ≤ CString.longMax) ∧ (CString.decimal v).length < size

/-- The size of the buffer for the value of an attribute. -/
def NvAttribute.bufferSize : NvAttribute → ℕ
  | .coreOffset _ | .memOffset _ => 8
  | .powermizerMode => 4

theorem NvAttribute.fitsBuffer (attr : NvAttribute) {v : ℤ} (h : FitsBuffer 4 v) :
    FitsBuffer attr.bufferSize v := by
  have hfour : 4 ≤ attr.bufferSize := by cases attr <;> simp [bufferSize]
  exact ⟨h.1, h.2.trans_le hfour⟩

/-- The numbers of a description and the values of its card fit the command line of the helper. -/
structure GameModeGPUInfo.Fits (info : GameModeGPUInfo) (sys : GpuSystem) : Prop where
  device_nonneg : 0 ≤ info.device
  device : FitsBuffer 4 info.device
  nvCore : FitsBuffer 8 info.nvCore
  nvMem : FitsBuffer 8 info.nvMem
  nvPowermizerMode : FitsBuffer 4 info.nvPowermizerMode
  nvPerProfileEditable : FitsBuffer 4 info.nvPerProfileEditable
  nv : ∀ index attr, FitsBuffer attr.bufferSize (sys.nv index attr)
  amd : sys.amd info.device ≠ [] ∧ '\n' ∉ sys.amd info.device ∧
    (sys.amd info.device).length + 1 < configValueMax

theorem getGenericValue_printLong {size : ℕ} {v : ℤ} (h : FitsBuffer size v) :
    getGenericValue (printLong size v) = some v := by
  have hne : ([] : CString) ≠ CString.decimal v := (CString.decimal_ne_nil v).symm
  rw [printLong, CString.truncate_of_length_lt h.2, getGenericValue]
  simp only [CString.strtol_decimal h.1, hne, if_false]

/-- The number that the helper finds in a buffer of the given size. -/
def readBack (size : ℕ) (v : ℤ) : ℤ := (printLong size v).strtol.value

theorem getGenericValue_eq_readBack {size : ℕ} (h : 3 ≤ size) (v : ℤ) :
    getGenericValue (printLong size v) = some (readBack size v) := by
  obtain ⟨hend, hne⟩ := CString.strtol_take_decimal v (n := size - 1) (by omega)
  rw [readBack, printLong, CString.truncate, getGenericValue]
  simp only [hend, hne.symm, if_false]

@[simp] theorem readBack_of_fits {size : ℕ} {v : ℤ} (h : FitsBuffer size v) :
    readBack size v = v := by
  rw [readBack, printLong, CString.truncate_of_length_lt h.2, CString.strtol_decimal h.1]

theorem getDevice_printLong {size : ℕ} {v : ℤ} (h : FitsBuffer size v) (hnonneg : 0 ≤ v) :
    getDevice (printLong size v) = some v.toNat := by
  simp only [getDevice, getGenericValue_printLong h, if_neg (not_lt.2 hnonneg)]

namespace GpuSystem

variable (sys : GpuSystem)

theorem getGpuIndexIdNv_congr {sys sys' : GpuSystem} (h : sys'.vendorFile = sys.vendorFile)
    (device : ℕ) : sys'.getGpuIndexIdNv device = sys.getGpuIndexIdNv device := by
  have hnv : ∀ n, sys'.nvDevice n = sys.nvDevice n := by
    intro n
    induction n with
    | zero => rfl
    | succ n ih =>
      rw [nvDevice, nvDevice, ih, drmCardExists, drmCardExists, h]
  exact hnv (device + 1)

/-- The attributes that `set_gpu_state_nv` sets, with their values. -/
def nvSettings (perfLevel nvPerProfileEditable nvCore nvMem nvPowermizerMode : ℤ) :
    List (NvAttribute × ℤ) :=
  if nvPerProfileEditable = 1 then
    [(.coreOffset (some perfLevel), nvCore), (.memOffset (some perfLevel), nvMem),
      (.powermizerMode, nvPowermizerMode)]
  else if nvPerProfileEditable = 0 then [(.coreOffset none, nvCore), (.memOffset none, nvMem)]
  else []

/-- What is written to the attributes when some are set. -/
def nvWrites (settings : List (NvAttribute × ℤ)) (attr : NvAttribute) : Option ℤ :=
  (settings.filterMap fun s => if s.1 = attr ∧ s.2 ≠ -1 then some s.2 else none).getLast?

theorem nvWrites_concat (settings : List (NvAttribute × ℤ)) (s : NvAttribute × ℤ)
    (attr : NvAttribute) :
    nvWrites (settings ++ [s]) attr =
      if s.1 = attr ∧ s.2 ≠ -1 then some s.2 else nvWrites settings attr := by
  rw [nvWrites, nvWrites, List.filterMap_append]
  split_ifs with h <;> simp [h]

theorem mem_of_mem_nvWrites {settings : List (NvAttribute × ℤ)} {attr : NvAttribute} {value : ℤ}
    (h : value ∈ nvWrites settings attr) : (attr, value) ∈ settings := by
  obtain ⟨s, hs, hvalue⟩ := List.mem_filterMap.1 (List.mem_of_getLast? h)
  simp only [Option.ite_none_right_eq_some, Option.some_inj] at hvalue
  obtain ⟨⟨rfl, -⟩, rfl⟩ := hvalue
  exact hs

theorem nvWrites_eq_none_iff {settings : List (NvAttribute × ℤ)} {attr : NvAttribute} :
    nvWrites settings attr = none ↔ ∀ value, (attr, value) ∈ settings → value = -1 := by
  rw [nvWrites, List.getLast?_eq_none_iff, List.filterMap_eq_nil_iff]
  simp only [ite_eq_right_iff, reduceCtorEq, imp_false, not_and, not_not, Prod.forall]
  exact ⟨fun h value hmem => h attr value hmem rfl, fun h a value hmem ha => h value (ha ▸ hmem)⟩

/-- The cards after the attributes of a GPU have changed to the given values. -/
def withNv (index : ℤ) (values : NvAttribute → ℤ) : GpuSystem :=
  { sys with nv := Function.update sys.nv index values }

@[simp] theorem withNv_vendorFile (index : ℤ) (values : NvAttribute → ℤ) :
    (sys.withNv index values).vendorFile = sys.vendorFile := rfl

@[simp] theorem withNv_maxPerfLevel (index : ℤ) (values : NvAttribute → ℤ) :
    (sys.withNv index values).maxPerfLevel = sys.maxPerfLevel := rfl

@[simp] theorem withNv_nv (index : ℤ) (values : NvAttribute → ℤ) :
    (sys.withNv index values).nv index = values := Function.update_self _ _ _

@[simp] theorem withNv_getGpuIndexIdNv (index : ℤ) (values : NvAttribute → ℤ) (device : ℕ) :
    (sys.withNv index values).getGpuIndexIdNv device = sys.getGpuIndexIdNv device :=
  getGpuIndexIdNv_congr (sys.withNv_vendorFile index values) device

@[simp] theorem withNv_withNv (index : ℤ) (values values' : NvAttribute → ℤ) :
    (sys.withNv index values).withNv index values' = sys.withNv index values' := by
  simp only [withNv, Function.update_idem]

@[simp] theorem withNv_self (index : ℤ) : sys.withNv index (sys.nv index) = sys := by
  simp only [withNv, Function.update_eq_self]

/-- Setting attributes one after the other. -/
theorem foldl_setNvAttr (index : ℤ) (settings : List (NvAttribute × ℤ)) :
    settings.foldl (fun sys s => sys.setNvAttr index s.1 s.2) sys =
      sys.withNv index (LastWins.assign (nvWrites settings) (sys.nv index)) := by
  induction settings using List.reverseRecOn with
  | nil => exact (sys.withNv_self index).symm
  | append_singleton settings s ih =>
    rw [List.foldl_append, ih, List.foldl_cons, List.foldl_nil, setNvAttr]
    split_ifs with hvalue
    · have hassign : LastWins.assign (nvWrites (settings ++ [s])) (sys.nv index) =
          Function.update (LastWins.assign (nvWrites settings) (sys.nv index)) s.1 s.2 := by
        funext attr
        rw [LastWins.assign, nvWrites_concat, Function.update_apply, LastWins.assign]
        by_cases hattr : attr = s.1
        · simp [hattr, hvalue]
        · simp [hattr, Ne.symm hattr]
      rw [hassign, withNv_nv]
      exact sys.withNv_withNv index _ _
    · have hassign : nvWrites (settings ++ [s]) = nvWrites settings := by
        funext attr
        rw [nvWrites_concat, if_neg fun h => hvalue h.2]
      rw [hassign]

theorem setGpuStateNv_eq (index nvCore nvMem nvPowermizerMode nvPerProfileEditable : ℤ) :
    sys.setGpuStateNv index nvCore nvMem nvPowermizerMode nvPerProfileEditable =
      sys.withNv index
        (LastWins.assign
          (nvWrites (nvSettings (sys.maxPerfLevel index) nvPerProfileEditable nvCore nvMem
            nvPowermizerMode)) (sys.nv index)) := by
  rw [← foldl_setNvAttr, setGpuStateNv, nvSettings]
  split_ifs <;> rfl

theorem setGpuStateAmd_amd (device : ℤ) : sys.setGpuStateAmd device (sys.amd device) = sys := by
  rw [setGpuStateAmd]
  split_ifs
  · rw [Function.update_eq_self]
  · rfl

theorem setGpuStateAmd_setGpuStateAmd (device : ℤ) (level : CString) {level' : CString}
    (h : level' ≠ []) :
    (sys.setGpuStateAmd device level).setGpuStateAmd device level' =
      sys.setGpuStateAmd device level' := by
  simp only [setGpuStateAmd, if_pos h]
  split_ifs
  · simp only [Function.update_idem]
  · rfl

@[simp] theorem setGpuStateAmd_vendorFile (device : ℤ) (level : CString) :
    (sys.setGpuStateAmd device level).vendorFile = sys.vendorFile := by
  rw [setGpuStateAmd]
  split_ifs <;> rfl

end GpuSystem

/-! ### The card that the helper addresses -/

namespace GameModeGPUInfo

/-- The card that the helper addresses, if it is of the vendor that is described. -/
def card (info : GameModeGPUInfo) (vendorFile : ℤ → Option ℤ) : Option ℕ :=
  (getDevice (printLong 4 info.device)).filter fun device =>
    gamemodeGetGpuVendor vendorFile device = some info.vendor

/-- The attributes that are set for a description, with the values described. -/
def nvSettings (info : GameModeGPUInfo) (perfLevel : ℤ) : List (NvAttribute × ℤ) :=
  GpuSystem.nvSettings perfLevel (readBack 4 info.nvPerProfileEditable) info.nvCore info.nvMem
    info.nvPowermizerMode

/-- What is written to the attributes: the values described, as far as they fit the buffers of the
command line. -/
def nvWrites (info : GameModeGPUInfo) (perfLevel : ℤ) : NvAttribute → Option ℤ :=
  GpuSystem.nvWrites ((info.nvSettings perfLevel).map fun s =>
    (s.1, readBack s.1.bufferSize s.2))

theorem nvWrites_eq (info : GameModeGPUInfo) (perfLevel : ℤ) :
    info.nvWrites perfLevel =
      GpuSystem.nvWrites (GpuSystem.nvSettings perfLevel (readBack 4 info.nvPerProfileEditable)
        (readBack 8 info.nvCore) (readBack 8 info.nvMem) (readBack 4 info.nvPowermizerMode)) := by
  rw [nvWrites, nvSettings, GpuSystem.nvSettings, GpuSystem.nvSettings]
  split_ifs <;> rfl

/-- The attributes that are set for a description. -/
def nvAttributes (info : GameModeGPUInfo) (perfLevel : ℤ) : List NvAttribute :=
  (info.nvSettings perfLevel).map Prod.fst

/-- The settings of the card are those described. -/
def Describes (info : GameModeGPUInfo) (sys : GpuSystem) : Prop :=
  ∀ device, info.card sys.vendorFile = some device →
    match info.vendor with
    | .nvidia =>
      let index := sys.getGpuIndexIdNv device
      ∀ s ∈ info.nvSettings (sys.maxPerfLevel index), s.2 = sys.nv index s.1
    | .amd => info.amdPerformanceLevel = sys.amd device
    | .intel => True

/-- The settings of the card can be read and passed back to the helper: the values of the attributes
fit the buffers of the command line, the performance level is one line that fits. -/
def Readable (info : GameModeGPUInfo) (sys : GpuSystem) : Prop :=
  ∀ device, info.card sys.vendorFile = some device →
    match info.vendor with
    | .nvidia =>
      let index := sys.getGpuIndexIdNv device
      ∀ attr ∈ info.nvAttributes (sys.maxPerfLevel index),
        FitsBuffer attr.bufferSize (sys.nv index attr)
    | .amd => sys.amd device ≠ [] ∧ '\n' ∉ sys.amd device ∧
        (sys.amd device).length + 1 < configValueMax
    | .intel => True

/-- Two descriptions of one card. -/
structure SameCard (info info' : GameModeGPUInfo) : Prop where
  vendor : info.vendor = info'.vendor
  device : info.device = info'.device
  nvPerProfileEditable : info.nvPerProfileEditable = info'.nvPerProfileEditable
  amdPerformanceLevel : info'.vendor ≠ .amd →
    info.amdPerformanceLevel = info'.amdPerformanceLevel

theorem card_eq_some_iff {info : GameModeGPUInfo} {vendorFile : ℤ → Option ℤ} {device : ℕ} :
    info.card vendorFile = some device ↔
      getDevice (printLong 4 info.device) = some device ∧
        gamemodeGetGpuVendor vendorFile device = some info.vendor := by
  simp [card, Option.filter_eq_some_iff]

namespace Fits

variable {info : GameModeGPUInfo} {sys : GpuSystem} (h : info.Fits sys)
  (hsys : gamemodeGetGpuVendor sys.vendorFile info.device = some info.vendor)

include h hsys

theorem card : info.card sys.vendorFile = some info.device.toNat := by
  refine card_eq_some_iff.2 ⟨getDevice_printLong h.device h.device_nonneg, ?_⟩
  rwa [Int.toNat_of_nonneg h.device_nonneg]

theorem readable : info.Readable sys := by
  intro device hcard
  obtain rfl := Option.some_inj.1 ((h.card hsys).symm.trans hcard)
  split
  · exact fun attr _ => h.nv _ attr
  · rw [Int.toNat_of_nonneg h.device_nonneg]
    exact h.amd
  · trivial

end Fits

namespace SameCard

variable {info info' : GameModeGPUInfo} (h : info.SameCard info')

include h

theorem card (vendorFile : ℤ → Option ℤ) : info.card vendorFile = info'.card vendorFile := by
  rw [GameModeGPUInfo.card, GameModeGPUInfo.card, h.device, h.vendor]

omit h in
theorem refl (info : GameModeGPUInfo) : info.SameCard info := ⟨rfl, rfl, rfl, fun _ => rfl⟩

theorem trans {info'' : GameModeGPUInfo} (h' : info'.SameCard info'') : info.SameCard info'' where
  vendor := h.vendor.trans h'.vendor
  device := h.device.trans h'.device
  nvPerProfileEditable := h.nvPerProfileEditable.trans h'.nvPerProfileEditable
  amdPerformanceLevel hne :=
    (h.amdPerformanceLevel (h'.vendor.trans_ne hne)).trans (h'.amdPerformanceLevel hne)

theorem nvAttributes (perfLevel : ℤ) :
    info.nvAttributes perfLevel = info'.nvAttributes perfLevel := by
  simp only [GameModeGPUInfo.nvAttributes, nvSettings, GpuSystem.nvSettings,
    h.nvPerProfileEditable]
  split_ifs <;> rfl

theorem readable {sys : GpuSystem} (hreadable : info'.Readable sys) : info.Readable sys := by
  intro device hcard
  rw [h.card] at hcard
  have hreadable := hreadable device hcard
  rw [← h.vendor] at hreadable
  simp only [h.nvAttributes]
  exact hreadable

end SameCard

theorem readLine_sameCard (info : GameModeGPUInfo) (buffer : CString) :
    (info.readLine buffer).SameCard info := by
  rw [readLine]
  split
  · split <;> exact ⟨rfl, rfl, rfl, fun _ => rfl⟩
  · rename_i hvendor
    exact ⟨rfl, rfl, rfl, fun hne => absurd hvendor hne⟩
  · exact ⟨rfl, rfl, rfl, fun _ => rfl⟩

end GameModeGPUInfo

section Card

variable {info : GameModeGPUInfo} {sys : GpuSystem} {device : ℕ}

theorem getGpu_sameCard (info : GameModeGPUInfo) (ok : Bool) (sys : GpuSystem) :
    ∃ info', getGpu (some info) ok sys = some info' ∧ info'.SameCard info := by
  have hself := GameModeGPUInfo.SameCard.refl info
  simp only [getGpu]
  split_ifs
  · split
    · exact ⟨info, rfl, hself⟩
    · exact ⟨_, rfl, info.readLine_sameCard _⟩
  · exact ⟨info, rfl, hself⟩

@[simp] theorem applyGpu_false (info : Option GameModeGPUInfo) (sys : GpuSystem) :
    applyGpu info false sys = sys := by
  cases info <;> rfl

section Vendors

variable (hcard : info.card sys.vendorFile = some device)

include hcard

/-- The arguments for an NVIDIA GPU reach its attributes, as far as they fit. -/
theorem applyGpu_nvidia (hvendor : info.vendor = .nvidia) :
    let index := sys.getGpuIndexIdNv device
    applyGpu (some info) true sys =
      sys.withNv index
        (LastWins.assign (info.nvWrites (sys.maxPerfLevel index)) (sys.nv index)) := by
  intro index
  obtain ⟨hdevice, hsys⟩ := GameModeGPUInfo.card_eq_some_iff.1 hcard
  have hargs : info.applyArgs.drop 4 = [printLong 8 info.nvCore, printLong 8 info.nvMem,
      printLong 4 info.nvPowermizerMode, printLong 4 info.nvPerProfileEditable] := by
    simp [GameModeGPUInfo.applyArgs, hvendor]
  have height := @getGenericValue_eq_readBack 8 (by decide)
  have hfour := @getGenericValue_eq_readBack 4 (by decide)
  have hset : applyGpu (some info) true sys = sys.setGpuStateNv index (readBack 8 info.nvCore)
      (readBack 8 info.nvMem) (readBack 4 info.nvPowermizerMode)
      (readBack 4 info.nvPerProfileEditable) := by
    simp [applyGpu, hargs, gpuclockctlSet, hdevice, hsys, hvendor, height, hfour, index]
  rw [hset, sys.setGpuStateNv_eq, info.nvWrites_eq]

theorem applyGpu_amd (hvendor : info.vendor = .amd) :
    applyGpu (some info) true sys =
      sys.setGpuStateAmd device (info.amdPerformanceLevel.truncate configValueMax) := by
  obtain ⟨hdevice, hsys⟩ := GameModeGPUInfo.card_eq_some_iff.1 hcard
  have hargs : info.applyArgs.drop 4 = [info.amdPerformanceLevel] := by
    simp [GameModeGPUInfo.applyArgs, hvendor]
  simp [applyGpu, hargs, gpuclockctlSet, hdevice, hsys, hvendor]

theorem applyGpu_intel (hvendor : info.vendor = .intel) : applyGpu (some info) true sys = sys := by
  obtain ⟨hdevice, hsys⟩ := GameModeGPUInfo.card_eq_some_iff.1 hcard
  simp [applyGpu, gpuclockctlSet, hdevice, hsys, hvendor]

omit hcard in
private theorem getGpu_of_line (hvendor : info.vendor = .nvidia) {core mem mode : ℤ}
    (hcore : CString.longMin ≤ core ∧ core ≤ CString.longMax)
    (hmem : CString.longMin ≤ mem ∧ mem ≤ CString.longMax)
    (hmode : CString.longMin ≤ mode ∧ mode ≤ CString.longMax)
    (hget : gpuclockctlGet sys (printLong 4 info.device) (printLong 4 info.nvPerProfileEditable) =
      some (nvLine core mem mode ++ ['\n'])) :
    getGpu (some info) true sys =
      some { info with nvCore := core, nvMem := mem, nvPowermizerMode := mode } := by
  simp only [getGpu, if_true, hget, GameModeGPUInfo.readLine, hvendor,
    scanLongs_nvLine hcore hmem hmode]

/-- What is read from an NVIDIA GPU is what its attributes hold. -/
theorem getGpu_nvidia (hvendor : info.vendor = .nvidia)
    (hreadable : let index := sys.getGpuIndexIdNv device
      ∀ attr ∈ info.nvAttributes (sys.maxPerfLevel index),
        FitsBuffer attr.bufferSize (sys.nv index attr)) :
    ∃ info', getGpu (some info) true sys = some info' ∧
      let index := sys.getGpuIndexIdNv device
      ∀ s ∈ info'.nvSettings (sys.maxPerfLevel index), s.2 = sys.nv index s.1 := by
  obtain ⟨hdevice, hsys⟩ := GameModeGPUInfo.card_eq_some_iff.1 hcard
  have heditable := @getGenericValue_eq_readBack 4 (by decide) info.nvPerProfileEditable
  rw [hvendor] at hsys
  by_cases hone : readBack 4 info.nvPerProfileEditable = 1
  · have hattributes : ∀ perfLevel, info.nvAttributes perfLevel =
        [.coreOffset (some perfLevel), .memOffset (some perfLevel), .powermizerMode] := by
      simp [GameModeGPUInfo.nvAttributes, GameModeGPUInfo.nvSettings, GpuSystem.nvSettings, hone]
    simp only [hattributes, List.forall_mem_cons] at hreadable
    refine ⟨_, getGpu_of_line hvendor hreadable.1.1 hreadable.2.1.1 hreadable.2.2.1.1 ?_, ?_⟩
    · simp [gpuclockctlGet, hdevice, heditable, hone, hsys]
    · simp [GameModeGPUInfo.nvSettings, GpuSystem.nvSettings, hone]
  · by_cases hzero : readBack 4 info.nvPerProfileEditable = 0
    · have hattributes : ∀ perfLevel, info.nvAttributes perfLevel =
          [.coreOffset none, .memOffset none] := by
        simp [GameModeGPUInfo.nvAttributes, GameModeGPUInfo.nvSettings, GpuSystem.nvSettings, hzero]
      simp only [hattributes, List.forall_mem_cons] at hreadable
      have hmode : CString.longMin ≤ 0 ∧ 0 ≤ CString.longMax := by decide
      refine ⟨_, getGpu_of_line hvendor hreadable.1.1 hreadable.2.1.1 hmode ?_, ?_⟩
      · simp [gpuclockctlGet, hdevice, heditable, hzero, hsys]
      · simp [GameModeGPUInfo.nvSettings, GpuSystem.nvSettings, hzero]
    · refine ⟨info, ?_, ?_⟩
      · simp [getGpu, gpuclockctlGet, hdevice, heditable, hone, hzero, hsys]
      · simp [GameModeGPUInfo.nvSettings, GpuSystem.nvSettings, hone, hzero]

/-- What is read from an AMD card is its performance level. -/
theorem getGpu_amd (hvendor : info.vendor = .amd) (hne : sys.amd device ≠ [])
    (hnewline : '\n' ∉ sys.amd device) (hlength : (sys.amd device).length + 1 < configValueMax) :
    getGpu (some info) true sys =
      some { info with amdPerformanceLevel := sys.amd device } := by
  obtain ⟨hdevice, hsys⟩ := GameModeGPUInfo.card_eq_some_iff.1 hcard
  have heditable := @getGenericValue_eq_readBack 4 (by decide) info.nvPerProfileEditable
  have hall : ∀ c ∈ sys.amd device, (c != '\n') = true :=
    fun c hc => bne_iff_ne.2 fun heq => hnewline (heq ▸ hc)
  have hline : fgets configValueMax (sys.amd device ++ ['\n']) = sys.amd device ++ ['\n'] := by
    rw [fgets, List.takeWhile_append_of_pos hall, List.dropWhile_append_of_pos hall]
    change CString.truncate configValueMax (sys.amd device ++ [] ++ ['\n']) = _
    rw [List.append_nil, CString.truncate_of_length_lt (by simpa using hlength)]
  have hget : gpuclockctlGet sys (printLong 4 info.device) (printLong 4 info.nvPerProfileEditable) =
      some (sys.amd device ++ ['\n'] ++ ['\n']) := by
    simp [gpuclockctlGet, hdevice, heditable, hsys, hvendor, hline]
  have hstrtok : (sys.amd device ++ ['\n'] ++ ['\n']).strtokLine = sys.amd device := by
    rw [List.append_assoc]
    exact CString.strtokLine_append hne hnewline
  simp only [getGpu, if_true, hget, GameModeGPUInfo.readLine, hvendor, hstrtok]
  rw [CString.truncate_of_length_lt (by omega)]

end Vendors

/-- **Reading a card.** What is read of a card describes it. -/
theorem getGpu_describes (hreadable : info.Readable sys) :
    ∃ info', getGpu (some info) true sys = some info' ∧ info'.SameCard info ∧
      info'.Describes sys := by
  obtain ⟨info', hget, hsame⟩ := getGpu_sameCard info true sys
  refine ⟨info', hget, hsame, fun device hcard => ?_⟩
  rw [hsame.card] at hcard
  have hreadable := hreadable device hcard
  rw [hsame.vendor]
  cases hvendor : info.vendor with
  | intel => trivial
  | nvidia =>
    rw [hvendor] at hreadable
    obtain ⟨info'', hget', hdescribes⟩ := getGpu_nvidia hcard hvendor hreadable
    obtain rfl : info' = info'' := Option.some_inj.1 (hget.symm.trans hget')
    exact hdescribes
  | amd =>
    rw [hvendor] at hreadable
    have hget' := getGpu_amd hcard hvendor hreadable.1 hreadable.2.1 hreadable.2.2
    obtain rfl := Option.some_inj.1 (hget.symm.trans hget')
    rfl

end Card

/-! ### Putting back what was read -/

namespace GameModeGPUInfo

/-- An attribute that holds `-1`, which is no value for the helper, is not changed. -/
def Returns (target : GameModeGPUInfo) (sys : GpuSystem) : Prop :=
  ∀ device, target.card sys.vendorFile = some device → target.vendor = .nvidia →
    let index := sys.getGpuIndexIdNv device
    ∀ s ∈ target.nvSettings (sys.maxPerfLevel index), sys.nv index s.1 = -1 → s.2 = -1

end GameModeGPUInfo

section Restoring

variable {target stored : GameModeGPUInfo} {sys : GpuSystem} {device : ℕ}

theorem applyGpu_withNv {info : GameModeGPUInfo} (hcard : info.card sys.vendorFile = some device)
    (hvendor : info.vendor = .nvidia) (values : NvAttribute → ℤ) :
    let index := sys.getGpuIndexIdNv device
    applyGpu (some info) true (sys.withNv index values) =
      sys.withNv index (LastWins.assign (info.nvWrites (sys.maxPerfLevel index)) values) := by
  have hset := @applyGpu_nvidia info (sys.withNv (sys.getGpuIndexIdNv device) values) device hcard
    hvendor
  simpa only [GpuSystem.withNv_getGpuIndexIdNv, GpuSystem.withNv_maxPerfLevel,
    GpuSystem.withNv_nv, GpuSystem.withNv_withNv] using hset

variable (hcard : target.card sys.vendorFile = some device)

include hcard

/-- Setting a card twice comes to setting it once. -/
theorem applyGpu_self :
    applyGpu (some target) true (applyGpu (some target) true sys) =
      applyGpu (some target) true sys := by
  cases hvendor : target.vendor with
  | intel => rw [applyGpu_intel hcard hvendor, applyGpu_intel hcard hvendor]
  | nvidia =>
    rw [applyGpu_nvidia hcard hvendor, applyGpu_withNv hcard hvendor, LastWins.assign_assign_self]
  | amd =>
    have hcard' : target.card (sys.setGpuStateAmd device
        (target.amdPerformanceLevel.truncate configValueMax)).vendorFile = some device := by
      rwa [GpuSystem.setGpuStateAmd_vendorFile]
    rw [applyGpu_amd hcard hvendor, applyGpu_amd hcard' hvendor]
    by_cases hlevel : target.amdPerformanceLevel.truncate configValueMax = []
    · simp [GpuSystem.setGpuStateAmd, hlevel]
    · exact sys.setGpuStateAmd_setGpuStateAmd device _ hlevel

variable (hsame : stored.SameCard target) (hdescribes : stored.Describes sys)
  (hreadable : target.Readable sys)

include hsame hdescribes hreadable

private theorem readBack_of_describes (hvendor : target.vendor = .nvidia) :
    let index := sys.getGpuIndexIdNv device
    ∀ s ∈ stored.nvSettings (sys.maxPerfLevel index),
      readBack s.1.bufferSize s.2 = sys.nv index s.1 := by
  intro index s hs
  have hdescribes := hdescribes device (hsame.card _ ▸ hcard)
  have hreadable := hreadable device hcard
  rw [hsame.vendor, hvendor] at hdescribes
  rw [hvendor] at hreadable
  have hattr : s.1 ∈ target.nvAttributes (sys.maxPerfLevel index) :=
    hsame.nvAttributes _ ▸ List.mem_map_of_mem hs
  rw [hdescribes s hs, readBack_of_fits (hreadable s.1 hattr)]

theorem held_of_describes (hvendor : target.vendor = .nvidia) :
    let index := sys.getGpuIndexIdNv device
    ∀ attr, ∀ value ∈ stored.nvWrites (sys.maxPerfLevel index) attr,
      value = sys.nv index attr := by
  intro index attr value hvalue
  obtain ⟨s, hs, heq⟩ := List.mem_map.1 (GpuSystem.mem_of_mem_nvWrites hvalue)
  obtain ⟨rfl, rfl⟩ := Prod.mk.inj heq
  exact readBack_of_describes hcard hsame hdescribes hreadable hvendor s hs

/-- Setting a card that is as described changes nothing. -/
theorem applyGpu_of_describes : applyGpu (some stored) true sys = sys := by
  have hstored : stored.card sys.vendorFile = some device := (hsame.card _).trans hcard
  cases hvendor : target.vendor with
  | intel => exact applyGpu_intel hstored (hsame.vendor.trans hvendor)
  | nvidia =>
    rw [applyGpu_nvidia hstored (hsame.vendor.trans hvendor),
      LastWins.assign_of_held (held_of_describes hcard hsame hdescribes hreadable hvendor),
      GpuSystem.withNv_self]
  | amd =>
    have hlevel := hdescribes device hstored
    have hlength := hreadable device hcard
    rw [hsame.vendor, hvendor] at hlevel
    rw [hvendor] at hlength
    rw [applyGpu_amd hstored (hsame.vendor.trans hvendor), hlevel,
      CString.truncate_of_length_lt (Nat.lt_of_succ_lt hlength.2.2), GpuSystem.setGpuStateAmd_amd]

/-- **Putting back.** Setting what was read of a card before it was set puts the card back. -/
theorem applyGpu_restore (hreturns : target.Returns sys) :
    applyGpu (some stored) true (applyGpu (some target) true sys) = sys := by
  have hstored : stored.card sys.vendorFile = some device := (hsame.card _).trans hcard
  cases hvendor : target.vendor with
  | intel =>
    rw [applyGpu_intel hcard hvendor]
    exact applyGpu_of_describes hcard hsame hdescribes hreadable
  | nvidia =>
    have hheld := held_of_describes hcard hsame hdescribes hreadable hvendor
    rw [applyGpu_nvidia hcard hvendor, applyGpu_withNv hstored (hsame.vendor.trans hvendor),
      LastWins.assign_restore hheld, GpuSystem.withNv_self]
    -- an attribute that is not written again holds `-1`, so it was not written before
    intro attr hnone
    rw [GameModeGPUInfo.nvWrites, GpuSystem.nvWrites_eq_none_iff] at hnone ⊢
    intro value hmem
    obtain ⟨t, ht, heq⟩ := List.mem_map.1 hmem
    obtain ⟨rfl, rfl⟩ := Prod.mk.inj heq
    have hattr : t.1 ∈ stored.nvAttributes (sys.maxPerfLevel (sys.getGpuIndexIdNv device)) :=
      hsame.nvAttributes _ ▸ List.mem_map_of_mem ht
    obtain ⟨s, hs, hst⟩ := List.mem_map.1 hattr
    have hback := readBack_of_describes hcard hsame hdescribes hreadable hvendor s hs
    have hminus := hnone (readBack s.1.bufferSize s.2) (List.mem_map.2 ⟨s, hs, by rw [hst]⟩)
    rw [hback, hst] at hminus
    rw [hreturns device hcard hvendor t ht hminus,
      readBack_of_fits (t.1.fitsBuffer ⟨by decide, by decide⟩)]
  | amd =>
    have hlevel := hdescribes device hstored
    have hreadable := hreadable device hcard
    rw [hsame.vendor, hvendor] at hlevel
    rw [hvendor] at hreadable
    have hcard' : stored.card (sys.setGpuStateAmd device
        (target.amdPerformanceLevel.truncate configValueMax)).vendorFile = some device := by
      rwa [GpuSystem.setGpuStateAmd_vendorFile]
    rw [applyGpu_amd hcard hvendor, applyGpu_amd hcard' (hsame.vendor.trans hvendor), hlevel,
      CString.truncate_of_length_lt (Nat.lt_of_succ_lt hreadable.2.2),
      GpuSystem.setGpuStateAmd_setGpuStateAmd _ _ _ hreadable.1, GpuSystem.setGpuStateAmd_amd]

/-- Setting a card, putting back what was read before, and setting it again comes to setting it
once. -/
theorem applyGpu_again :
    applyGpu (some target) true
        (applyGpu (some stored) true (applyGpu (some target) true sys)) =
      applyGpu (some target) true sys := by
  have hstored : stored.card sys.vendorFile = some device := (hsame.card _).trans hcard
  by_cases hvendor : target.vendor = .nvidia
  · rw [applyGpu_nvidia hcard hvendor, applyGpu_withNv hstored (hsame.vendor.trans hvendor),
      applyGpu_withNv hcard hvendor,
      LastWins.assign_again (held_of_describes hcard hsame hdescribes hreadable hvendor)]
  · rw [applyGpu_restore hcard hsame hdescribes hreadable fun _ _ h => absurd h hvendor]

end Restoring

/-- **Applying settings again.** Applying settings, putting back the values that were read before,
and applying the settings again comes to applying them once. -/
theorem applyGpu_reload {info : GameModeGPUInfo} {sys : GpuSystem} (h : info.Fits sys)
    (hsys : gamemodeGetGpuVendor sys.vendorFile info.device = some info.vendor) :
    applyGpu (some info) true
        (applyGpu (getGpu (some info) true sys) true (applyGpu (some info) true sys)) =
      applyGpu (some info) true sys := by
  obtain ⟨stored, hget, hsame, hdescribes⟩ := getGpu_describes (h.readable hsys)
  rw [hget, applyGpu_again (h.card hsys) hsame hdescribes (h.readable hsys)]

end GameMode
