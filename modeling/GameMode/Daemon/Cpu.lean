import GameMode.Common.Cpulist
import GameMode.Config.Values
import Mathlib.Data.Finset.Card

/-!
# Core parking and core pinning

From the options `park_cores` and `pin_cores` and from files of the kernel the daemon finds out
which cores a game should run on. In park mode it takes the other cores offline while game mode is
active; in pin mode it restricts the threads of the games to those cores.

A set of cores is allocated in whole words for the highest core that is online, and a core that has
no bit in it is left out of every operation. `CPU_ALLOC` does not clear the set that it gives, so
what the set of the fast cores holds at first is an argument here.

## Main definitions

* `CpuSysfs`: the files of the kernel, for a set of online cores.
* `initialiseCpu`: `GameModeCPUInfo` from the options and the files.
* `parkCpu`, `unparkCpu`, `reconfigCpu`: the cores that are online.

## Main results

* `online_of_initialiseCpu`: the cores that the daemon takes for online are those that the kernel
  lists.
* `unparkCpu_parkCpu`: unparking brings back every core that parking took offline.

Source: `daemon/gamemode-cpu.c`; `util/cpucorectl.c`.
-/

namespace GameMode

/-! ### Files of the kernel -/

/-- The files of the kernel about the cores, for a set of online cores; `none` for a file that
cannot be opened. -/
structure CpuSysfs where
  /-- `/sys/devices/system/cpu/online`. -/
  online : Finset ℕ → Option CString
  /-- `/sys/devices/cpu_core/cpus`. -/
  peCores : Finset ℕ → Option CString
  /-- `cache/index3/size` of a core. -/
  l3Size : Finset ℕ → ℤ → Option CString
  /-- `cpufreq/cpuinfo_max_freq` of a core. -/
  maxFreq : Finset ℕ → ℤ → Option CString
  /-- Whether core 0 can be parked. -/
  coreZeroParks : Bool

/-- A kernel that shows nothing about the cores. -/
def CpuSysfs.unreadable : CpuSysfs where
  online _ := none
  peCores _ := none
  l3Size _ _ := none
  maxFreq _ _ := none
  coreZeroParks := false

/-- `read_small_file`: the first line without the characters that end it. -/
def readSmallFile (contents : Option CString) : Option CString :=
  match contents with
  | none | some [] => none
  | some text =>
    some ((text.takeWhile (· != '\n')).reverse.dropWhile (· == '\r')).reverse

/-- The kernel lists the online cores. -/
def CpuSysfs.ListsOnline (files : CpuSysfs) (online : Finset ℕ) : Prop :=
  ∀ text, readSmallFile (files.online online) = some text →
    ∀ cpu : ℕ, cpu ∈ online ↔ ∃ item ∈ cpulistItems text, item.1 ≤ cpu ∧ (cpu : ℤ) ≤ item.2

/-! ### Information about the cores -/

/-- `IS_CPU_PARK` and `IS_CPU_PIN`. -/
inductive ParkOrPin
  | park | pin
  deriving DecidableEq, Repr

/-- `struct GameModeCPUInfo`. -/
structure GameModeCPUInfo where
  /-- The highest online core, plus one. -/
  numCpu : ℕ
  /-- Whether cores are parked or threads are pinned. -/
  parkOrPin : ParkOrPin
  /-- The online cores. -/
  online : Finset ℕ
  /-- The cores for the games. -/
  toKeep : Finset ℕ
  deriving DecidableEq

/-- The texts that switch an option off. -/
def isNo (text : CString) : Bool :=
  text.map Char.toLower = "no".toList ∨ text.map Char.toLower = "false".toList ∨ text = "0".toList

/-- The texts that switch an option on without a list of cores. -/
def isYes (text : CString) : Bool :=
  text.map Char.toLower = "yes".toList ∨ text.map Char.toLower = "true".toList ∨ text = "1".toList

/-- The mode that the options ask for, with the list of cores that goes with it, empty when there is
none; `none` when both options switch it off. -/
def parkOrPinOf (parkCores pinCores : CString) : Option (ParkOrPin × CString) :=
  let pinOff := pinCores ≠ [] ∧ isNo pinCores
  if pinCores ≠ [] ∧ ¬isNo pinCores then
    some (.pin, if isYes pinCores then [] else pinCores)
  else if parkCores ≠ [] then
    if isNo parkCores then if pinOff then none else some (.pin, pinCores)
    else some (.park, if isYes parkCores then [] else parkCores)
  else some (.pin, pinCores)

/-- `walk_string`: the cores to keep, from the list of the option. -/
def walkString (parkOrPin : ParkOrPin) (online : Finset ℕ) (items : List (ℤ × ℤ)) : Finset ℕ :=
  match parkOrPin with
  | .park => online.filter fun cpu => ¬∃ item ∈ items, item.1 ≤ cpu ∧ (cpu : ℤ) ≤ item.2
  | .pin => online.filter fun cpu => ∃ item ∈ items, item.1 ≤ cpu ∧ (cpu : ℤ) ≤ item.2

/-- `CPU_SET_S`. -/
def cpuSet (numCpu : ℕ) (cpu : ℤ) (set : Finset ℕ) : Finset ℕ :=
  if 0 ≤ cpu ∧ cpu < cpusetBits numCpu then insert cpu.toNat set else set

/-- The size of a cache from its text, with a unit; an unknown unit counts as zero. -/
def cacheSizeOf (text : CString) : ℕ :=
  let parse := text.strtoullTen
  let size := parse.value.toNat
  match parse.endp with
  | 'K' :: _ => size * 1024 % 2 ^ 64
  | 'M' :: _ => size * (1024 * 1024) % 2 ^ 64
  | 'G' :: _ => size * (1024 * 1024 * 1024) % 2 ^ 64
  | [] => size
  | _ => 0

/-- What `walk_sysfs` carries from core to core. -/
structure SysfsWalk where
  /-- The largest cache so far. -/
  maxCache : ℕ
  /-- The highest frequency so far. -/
  maxFreq : ℕ
  /-- The cores with the largest cache. -/
  toKeep : Finset ℕ
  /-- The cores with a high frequency. -/
  freqCores : Finset ℕ

/-- The cache of a core. -/
def SysfsWalk.cache (numCpu : ℕ) (walk : SysfsWalk) (cpu : ℤ) (size : ℕ) : SysfsWalk :=
  let walk :=
    if walk.maxCache < size then { walk with maxCache := size, toKeep := ∅ } else walk
  if size = walk.maxCache then { walk with toKeep := cpuSet numCpu cpu walk.toKeep } else walk

/-- The frequency of a core: the set starts again when no earlier core comes near it. -/
def SysfsWalk.freq (numCpu : ℕ) (walk : SysfsWalk) (cpu : ℤ) (freq : ℕ) : SysfsWalk :=
  let cutoff := freq * 10 % 2 ^ 64 / 100
  let walk :=
    if walk.maxFreq < freq then
      { walk with
        freqCores := if walk.maxFreq < freq - cutoff then ∅ else walk.freqCores
        maxFreq := freq }
    else walk
  if walk.maxFreq ≤ (freq + cutoff) % 2 ^ 64 then
    { walk with freqCores := cpuSet numCpu cpu walk.freqCores }
  else walk

/-- The body of the loop of `walk_sysfs`. -/
def SysfsWalk.step (l3Size maxFreq : ℤ → Option CString) (numCpu : ℕ) (walk : SysfsWalk)
    (cpu : ℤ) : SysfsWalk :=
  let walk :=
    match readSmallFile (l3Size cpu) with
    | none => walk
    | some text => walk.cache numCpu cpu (cacheSizeOf text)
  match readSmallFile (maxFreq cpu) with
  | none => walk
  | some text => walk.freq numCpu cpu text.strtoullTen.value.toNat

/-- `walk_sysfs`: the cores to keep. `allocated` is what the set of the fast cores holds at
first. -/
def walkSysfs (l3Size maxFreq : ℤ → Option CString) (numCpu : ℕ) (online allocated : Finset ℕ)
    (items : List (ℤ × ℤ)) : Finset ℕ :=
  let walk := (cpulistCores items).foldl (SysfsWalk.step l3Size maxFreq numCpu)
    ⟨0, 0, ∅, allocated⟩
  if online = walk.toKeep ∨ walk.toKeep = ∅ then walk.freqCores else walk.toKeep

/-- The highest core of the items, zero when there is none above it. -/
def maxCore (items : List (ℤ × ℤ)) : ℤ :=
  items.foldl (fun m item => if m < item.2 then item.2 else m) 0

/-- `game_mode_initialise_cpu`: the result code, and the information when there is any. -/
def initialiseCpu (files : CpuSysfs) (online allocated : Finset ℕ) (config : Config) :
    ℤ × Option GameModeCPUInfo :=
  match parkOrPinOf (config.string .cpuParkCores) (config.string .cpuPinCores) with
  | none => (0, none)
  | some (parkOrPin, cores) =>
    match readSmallFile (files.online online) with
    | none => (-1, none)
    | some text =>
      let items := cpulistItems text
      let max := maxCore items
      if max = 0 then (0, none)
      else
        let numCpu := (max + 1).toNat
        let listed := cpusetOf numCpu items
        let toKeep :=
          if cores ≠ [] then walkString parkOrPin listed (cpulistItems cores)
          else
            match readSmallFile (files.peCores online) with
            | some peCores => cpusetOf numCpu (cpulistItems peCores)
            | none =>
              walkSysfs (files.l3Size online) (files.maxFreq online) numCpu listed allocated items
        if parkOrPin = .park ∧ listed = toKeep then (-1, none)
        else if toKeep.card = 0 then (-1, none)
        else if toKeep.card < 4 then (-1, none)
        else (0, some ⟨numCpu, parkOrPin, listed, toKeep⟩)

private theorem le_maxCore_from (items : List (ℤ × ℤ)) (m : ℤ) :
    m ≤ items.foldl (fun m item => if m < item.2 then item.2 else m) m ∧
      ∀ item ∈ items, item.2 ≤ items.foldl (fun m item => if m < item.2 then item.2 else m) m := by
  induction items generalizing m with
  | nil => exact ⟨le_rfl, nofun⟩
  | cons item items ih =>
    obtain ⟨hm, hitems⟩ := ih (if m < item.2 then item.2 else m)
    have hle : m ≤ (if m < item.2 then item.2 else m) ∧
        item.2 ≤ (if m < item.2 then item.2 else m) := by
      split_ifs <;> constructor <;> omega
    rw [List.foldl_cons]
    refine ⟨hle.1.trans hm, fun item' hitem' => ?_⟩
    rcases List.mem_cons.1 hitem' with rfl | hmem
    · exact hle.2.trans hm
    · exact hitems item' hmem

theorem le_maxCore {items : List (ℤ × ℤ)} {item : ℤ × ℤ} (h : item ∈ items) :
    item.2 ≤ maxCore items :=
  (le_maxCore_from items 0).2 item h

theorem maxCore_nonneg (items : List (ℤ × ℤ)) : 0 ≤ maxCore items := (le_maxCore_from items 0).1

/-- The cores that the daemon takes for online are those that the kernel lists. -/
theorem online_of_initialiseCpu {files : CpuSysfs} {online allocated : Finset ℕ} {config : Config}
    {info : GameModeCPUInfo} (hfiles : files.ListsOnline online)
    (h : (initialiseCpu files online allocated config).2 = some info) : info.online = online := by
  simp only [initialiseCpu] at h
  split at h
  · cases h
  split at h
  · cases h
  rename_i text htext
  split at h
  · cases h
  have hlisted : cpusetOf (maxCore (cpulistItems text) + 1).toNat (cpulistItems text) = online := by
    ext cpu
    rw [mem_cpusetOf, hfiles text htext cpu, and_iff_right_iff_imp]
    rintro ⟨item, hitem, -, hle⟩
    have hmax := hle.trans (le_maxCore hitem)
    rw [cpusetBits]
    omega
  split_ifs at h <;> cases h <;> exact hlisted

/-! ### Parking -/

/-- What `cpucorectl` comes to: it changed all the cores listed, or it failed after changing some of
them. -/
inductive CorectlOutcome
  | succeeded
  | failed (touched : Finset ℕ)
  deriving DecidableEq

/-- The information about the cores, and the cores that are online. -/
structure CpuState where
  /-- `GameModeContext.cpu`. -/
  info : Option GameModeCPUInfo
  /-- The cores that are online. -/
  online : Finset ℕ
  deriving DecidableEq

/-- The cores that `game_mode_park_cpu` and `game_mode_unpark_cpu` list. -/
def GameModeCPUInfo.listed (info : GameModeCPUInfo) : Finset ℕ :=
  (Finset.range info.numCpu).filter fun cpu => cpu ∈ info.online ∧ cpu ∉ info.toKeep

variable (files : CpuSysfs)

/-- The cores of a list that can be parked. -/
def parkable (cores : Finset ℕ) : Finset ℕ := if files.coreZeroParks then cores else cores.erase 0

/-- `game_mode_park_cpu`: in pin mode nothing is parked. -/
def parkCpu (outcome : CorectlOutcome) (s : CpuState) : CpuState :=
  match s.info with
  | none => s
  | some info =>
    match info.parkOrPin, outcome with
    | .pin, _ => s
    | .park, .succeeded => { s with online := s.online \ parkable files info.listed }
    | .park, .failed touched =>
      { s with online := s.online \ (touched ∩ parkable files info.listed) }

/-- `game_mode_unpark_cpu`. -/
def unparkCpu (outcome : CorectlOutcome) (s : CpuState) : CpuState :=
  match s.info with
  | none => s
  | some info =>
    match info.parkOrPin, outcome with
    | .pin, _ => s
    | .park, .succeeded => { s with online := s.online ∪ info.listed }
    | .park, .failed touched => { s with online := s.online ∪ touched ∩ info.listed }

/-- `game_mode_reconfig_cpu`. -/
def reconfigCpu (outcome : CorectlOutcome) (allocated : Finset ℕ) (config : Config)
    (s : CpuState) : CpuState :=
  let s := unparkCpu outcome s
  { s with info := (initialiseCpu files s.online allocated config).2 }

@[simp] theorem parkCpu_info (outcome : CorectlOutcome) (s : CpuState) :
    (parkCpu files outcome s).info = s.info := by
  rw [parkCpu]
  split
  · rfl
  · split <;> rfl

@[simp] theorem unparkCpu_info (outcome : CorectlOutcome) (s : CpuState) :
    (unparkCpu outcome s).info = s.info := by
  rw [unparkCpu]
  split
  · rfl
  · split <;> rfl

/-- Unparking brings back every core that parking took offline, and no other. -/
theorem unparkCpu_parkCpu {s : CpuState} (h : ∀ info ∈ s.info, info.online ⊆ s.online) :
    unparkCpu .succeeded (parkCpu files .succeeded s) = s := by
  obtain ⟨info, online⟩ := s
  cases info with
  | none => rfl
  | some info =>
    cases hmode : info.parkOrPin with
    | pin => simp only [unparkCpu, parkCpu, hmode]
    | park =>
      have hlisted : info.listed ⊆ online := fun cpu hcpu =>
        h info rfl (Finset.mem_filter.1 hcpu).2.1
      have hparkable : parkable files info.listed ⊆ info.listed := by
        rw [parkable]
        split_ifs
        · exact subset_rfl
        · exact Finset.erase_subset _ _
      simp only [unparkCpu, parkCpu, hmode, CpuState.mk.injEq, true_and]
      ext cpu
      simp only [Finset.mem_union, Finset.mem_sdiff]
      constructor
      · rintro (⟨hcpu, -⟩ | hcpu)
        · exact hcpu
        · exact hlisted hcpu
      · intro hcpu
        by_cases hmem : cpu ∈ info.listed
        · exact Or.inr hmem
        · exact Or.inl ⟨hcpu, fun hpark => hmem (hparkable hpark)⟩

/-- Unparking cores that are all online changes nothing. -/
theorem unparkCpu_of_subset {s : CpuState} (h : ∀ info ∈ s.info, info.online ⊆ s.online)
    (outcome : CorectlOutcome) : unparkCpu outcome s = s := by
  obtain ⟨info, online⟩ := s
  cases info with
  | none => rfl
  | some info =>
    have hlisted : info.listed ⊆ online := fun cpu hcpu =>
      h info rfl (Finset.mem_filter.1 hcpu).2.1
    cases hmode : info.parkOrPin with
    | pin => simp only [unparkCpu, hmode]
    | park =>
      cases outcome with
      | succeeded => simp [unparkCpu, hmode, Finset.union_eq_left.2 hlisted]
      | failed touched =>
        have hsub : touched ∩ info.listed ⊆ online := Finset.inter_subset_right.trans hlisted
        simp [unparkCpu, hmode, Finset.union_eq_left.2 hsub]

end GameMode
