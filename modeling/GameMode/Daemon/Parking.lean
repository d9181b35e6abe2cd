import GameMode.Daemon.Detection

/-!
# How many cores parking leaves

Information for parking is installed only when there are four cores to keep. What stays online is
the part of them that is online, which is all of them unless the performance cores that the kernel
names, or what was allocated for the fast cores, go beyond the list of the online cores.

## Main definitions

* `ParksSafely`, `LeavesFour`: at least four of the online cores are left.
* `KeepsOnline`: the cores to keep are online, or too few.

## Main results

* `leavesFour_iff`: when parking leaves four cores.

Source: `daemon/gamemode-cpu.c`, `check_pe_cores`, `game_mode_initialise_cpu` and
`game_mode_park_cpu`.
-/

namespace GameMode

/-- Parking the cores that are not kept leaves four of the online ones. -/
structure ParksSafely (files : CpuSysfs) (info : GameModeCPUInfo) : Prop where
  keeps : info.toKeep ⊆ info.online
  parks : (info.online \ info.toKeep).Nonempty
  leaves : 4 ≤ (parkCpu files .succeeded ⟨some info, info.online⟩).online.card

/-- Whatever is allocated, information for parking that is installed is safe. -/
def LeavesFour (files : CpuSysfs) (online : Finset ℕ) (config : Config) : Prop :=
  ∀ memory, ∃ result, gameModeInitialiseCpu files online memory config = some result ∧
    ∀ info ∈ result.2, info.parkOrPin = .park → ParksSafely files info

/-- Without a list of the user, the cores to keep are online, or too few. -/
def KeepsOnline (files : CpuSysfs) (online : Finset ℕ) (config : Config) : Prop :=
  parkOrPinOf (config.string .cpuParkCores) (config.string .cpuPinCores) = some (.park, []) →
    ∀ buf, readSmallFile (files.online online) = some buf → maxCore (cpulistItems buf) ≠ 0 →
      match readSmallFile (files.peCores online) with
      | some buf2 =>
        cpusetOf (numCpuOf buf) (cpulistItems buf2) ⊆ cpusetOf (numCpuOf buf) (cpulistItems buf) ∨
          (cpusetOf (numCpuOf buf) (cpulistItems buf2)).card < 4
      | none =>
        CachesDiffer (files.l3Size online) (cpulistCores (cpulistItems buf)) ∨
        (∃ c ∈ cpulistCores (cpulistItems buf), ∃ freq,
          freqOf (files.maxFreq online) c = some freq ∧ 0 < freq) ∨
        ∀ cpu < cpusetBits (numCpuOf buf), (cpu : ℤ) ∈ cpulistCores (cpulistItems buf)

section Parking

variable {files : CpuSysfs} {online : Finset ℕ} {config : Config} {buf : CString}

theorem le_card_parkCpu {info : GameModeCPUInfo} (hmode : info.parkOrPin = .park)
    (hsub : info.toKeep ⊆ info.online) :
    info.toKeep.card ≤ (parkCpu files .succeeded ⟨some info, info.online⟩).online.card := by
  have hlisted : parkable files info.listed ⊆ info.listed := by
    rw [parkable]
    split_ifs
    · exact subset_rfl
    · exact Finset.erase_subset _ _
  simp only [parkCpu, hmode]
  refine Finset.card_le_card fun cpu hcpu => Finset.mem_sdiff.2 ⟨hsub hcpu, fun hpark => ?_⟩
  exact (Finset.mem_filter.1 (hlisted hpark)).2.2 hcpu

theorem eq_of_mem_checkCpuInfo {info info' : GameModeCPUInfo} (h : info' ∈ (checkCpuInfo info).2) :
    info' = info := by
  rw [checkCpuInfo_eq] at h
  split_ifs at h
  · exact (Option.mem_some_iff.1 h).symm
  · cases h

/-- What is installed for parking is safe when the cores to keep are online, and it is not installed
when they are too few. -/
theorem checkCpuInfo_safe_iff {numCpu : ℕ} {listed toKeep : Finset ℕ} :
    (∀ info ∈ (checkCpuInfo ⟨numCpu, .park, listed, toKeep⟩).2, info.parkOrPin = .park →
        ParksSafely files info) ↔ toKeep ⊆ listed ∨ toKeep.card < 4 := by
  rw [checkCpuInfo_eq]
  by_cases hinstalled : 4 ≤ toKeep.card ∧ (ParkOrPin.park = .park → toKeep ≠ listed)
  · obtain ⟨hfour, hne⟩ := hinstalled
    rw [if_pos ⟨hfour, hne⟩, or_iff_left (not_lt.2 hfour)]
    constructor
    · exact fun h => (h _ rfl rfl).keeps
    · rintro hsub info hinfo hmode
      obtain rfl := Option.mem_some_iff.1 hinfo
      refine ⟨hsub, ?_, hfour.trans (le_card_parkCpu hmode hsub)⟩
      rw [Finset.sdiff_nonempty]
      exact fun hsup => hne rfl (hsub.antisymm hsup)
  · rw [if_neg hinstalled]
    refine iff_of_true nofun ?_
    by_cases hfour : 4 ≤ toKeep.card
    · refine Or.inl ?_
      rw [not_and, Classical.not_imp, not_not] at hinstalled
      exact (hinstalled hfour).2.subset
    · exact Or.inr (not_le.1 hfour)

/-- The walk keeps cores of the list, or too few, whatever is allocated, exactly when what is
allocated does not matter or has no bit beyond the list. -/
theorem walkKeeps_subset_iff (l3Size maxFreq : ℤ → Option CString) :
    (∀ memory, walkKeeps l3Size maxFreq memory buf ⊆
          cpusetOf (numCpuOf buf) (cpulistItems buf) ∨
        (walkKeeps l3Size maxFreq memory buf).card < 4) ↔
      CachesDiffer l3Size (cpulistCores (cpulistItems buf)) ∨
      (∃ c ∈ cpulistCores (cpulistItems buf), ∃ freq, freqOf maxFreq c = some freq ∧ 0 < freq) ∨
      ∀ cpu < cpusetBits (numCpuOf buf), (cpu : ℤ) ∈ cpulistCores (cpulistItems buf) := by
  by_cases hcaches : CachesDiffer l3Size (cpulistCores (cpulistItems buf))
  · refine iff_of_true (fun memory => Or.inl fun cpu hcpu => ?_) (Or.inl hcaches)
    rw [mem_walkKeeps_of_cachesDiffer hcaches] at hcpu
    exact mem_cpusetOf_iff.2 hcpu.1
  by_cases hpos : ∃ c ∈ cpulistCores (cpulistItems buf), ∃ freq,
      freqOf maxFreq c = some freq ∧ 0 < freq
  · refine iff_of_true (fun memory => Or.inl fun cpu hcpu => ?_) (Or.inr (Or.inl hpos))
    rw [mem_walkKeeps_of_pos hcaches hpos] at hcpu
    obtain ⟨r, hr, hkey⟩ := hcpu.exists_mem
    exact mem_cpusetOf_iff.2 (hkey ▸ (mem_readings.1 hr).1)
  rw [or_iff_right hcaches, or_iff_right hpos]
  constructor
  · intro h
    have hall : walkKeeps l3Size maxFreq (Finset.range (cpusetBits (numCpuOf buf))) buf =
        Finset.range (cpusetBits (numCpuOf buf)) := by
      ext cpu
      rw [mem_walkKeeps_of_not_pos hcaches hpos, Finset.mem_range]
      exact ⟨And.left, fun hcpu => ⟨hcpu, Or.inl hcpu⟩⟩
    have hmany : 4 ≤ cpusetBits (numCpuOf buf) := by
      have hnonneg := maxCore_nonneg (cpulistItems buf)
      rw [cpusetBits, numCpuOf]
      omega
    rcases h (Finset.range (cpusetBits (numCpuOf buf))) with hsub | hfew
    · rw [hall] at hsub
      exact fun cpu hcpu => mem_cpusetOf_iff.1 (hsub (Finset.mem_range.2 hcpu))
    · rw [hall, Finset.card_range] at hfew
      omega
  · refine fun h memory => Or.inl fun cpu hcpu => ?_
    rw [mem_walkKeeps_of_not_pos hcaches hpos] at hcpu
    exact mem_cpusetOf_iff.2 (h cpu hcpu.1)

/-- The cores that `game_mode_initialise_cpu` detects, without a list of the user. -/
def detectedCores (files : CpuSysfs) (online memory : Finset ℕ) (buf : CString) : Finset ℕ :=
  match readSmallFile (files.peCores online) with
  | some buf2 => cpusetOf (numCpuOf buf) (cpulistItems buf2)
  | none => walkKeeps (files.l3Size online) (files.maxFreq online) memory buf

theorem gameModeInitialiseCpu_of_read (memory : CpuMemory) {parkOrPin : ParkOrPin}
    {cores : CString} (hfits : CpuListsFit files online config)
    (hmode : parkOrPinOf (config.string .cpuParkCores) (config.string .cpuPinCores) =
      some (parkOrPin, cores))
    (hread : readSmallFile (files.online online) = some buf)
    (hmax : maxCore (cpulistItems buf) ≠ 0) :
    gameModeInitialiseCpu files online memory config =
      some (checkCpuInfo ⟨numCpuOf buf, parkOrPin, cpusetOf (numCpuOf buf) (cpulistItems buf),
        if cores ≠ [] then
          walkString parkOrPin (cpusetOf (numCpuOf buf) (cpulistItems buf)) (cpulistItems cores)
        else detectedCores files online memory.freqCores buf⟩) := by
  obtain ⟨hbuf, hcores, hpe⟩ := hfits parkOrPin cores hmode buf hread hmax
  rw [gameModeInitialiseCpu_of_fits memory hmode hread hmax hbuf,
    fillCpuInfo_eq memory hbuf hcores hpe, Option.map_some]
  rfl

/-- The cores to keep are online, or too few, exactly when those that are detected are. -/
theorem keepsOnline_iff :
    KeepsOnline files online config ↔
      (parkOrPinOf (config.string .cpuParkCores) (config.string .cpuPinCores) = some (.park, []) →
        ∀ buf, readSmallFile (files.online online) = some buf → maxCore (cpulistItems buf) ≠ 0 →
          ∀ memory, detectedCores files online memory buf ⊆
              cpusetOf (numCpuOf buf) (cpulistItems buf) ∨
            (detectedCores files online memory buf).card < 4) := by
  refine imp_congr_right fun _ => forall₃_congr fun buf _ _ => ?_
  cases hpe : readSmallFile (files.peCores online) with
  | some buf2 =>
    simp only [detectedCores, hpe]
    exact ⟨fun h _ => h, fun h => h ∅⟩
  | none =>
    simp only [detectedCores, hpe]
    exact (walkKeeps_subset_iff _ _).symm

end Parking

/-- **Parking leaves four cores.** It does exactly when no list that is read ends at `LONG_MAX` and,
without a list of the user, the cores to keep are online, or too few. -/
theorem leavesFour_iff (files : CpuSysfs) (online : Finset ℕ) (config : Config) :
    LeavesFour files online config ↔
      CpuListsFit files online config ∧ KeepsOnline files online config := by
  rw [keepsOnline_iff]
  constructor
  · intro h
    have hfits : CpuListsFit files online config := by
      by_contra hnot
      obtain ⟨result, hresult, -⟩ := h ⟨∅, ∅, ∅⟩
      rw [gameModeInitialiseCpu_eq_none _ hnot] at hresult
      cases hresult
    refine ⟨hfits, fun hmode buf hread hmax memory => ?_⟩
    obtain ⟨result, hresult, hsafe⟩ := h ⟨∅, ∅, memory⟩
    rw [gameModeInitialiseCpu_of_read _ hfits hmode hread hmax] at hresult
    rw [← Option.some.inj hresult] at hsafe
    exact checkCpuInfo_safe_iff.1 hsafe
  · rintro ⟨hfits, hkeeps⟩ memory
    cases hmode : parkOrPinOf (config.string .cpuParkCores) (config.string .cpuPinCores) with
    | none => exact ⟨(0, none), by rw [gameModeInitialiseCpu, hmode], by simp⟩
    | some mode =>
      obtain ⟨parkOrPin, cores⟩ := mode
      cases hread : readSmallFile (files.online online) with
      | none => exact ⟨(-1, none), by simp only [gameModeInitialiseCpu, hmode, hread], by simp⟩
      | some buf =>
        by_cases hmax : maxCore (cpulistItems buf) = 0
        · refine ⟨(0, none), ?_, by simp⟩
          simp only [gameModeInitialiseCpu, hmode, hread, if_pos hmax]
        refine ⟨_, gameModeInitialiseCpu_of_read memory hfits hmode hread hmax, ?_⟩
        cases parkOrPin with
        | pin =>
          intro info hinfo hpark
          rw [eq_of_mem_checkCpuInfo hinfo] at hpark
          cases hpark
        | park =>
          rw [checkCpuInfo_safe_iff]
          split_ifs with hne
          · exact Or.inl (Finset.filter_subset _ _)
          · rw [ne_eq, not_not] at hne
            subst hne
            exact hkeeps hmode buf hread hmax memory.freqCores

private def filesWithOffline : CpuSysfs :=
  { CpuSysfs.unreadable with
    online := fun _ => some "0,6-15\n".toList
    peCores := fun _ => some "0-7\n".toList }

private def configParking : Config :=
  { Config.initial with
    string := fun o => if o = .cpuParkCores then "yes".toList else Config.initial.string o }

/-- Performance cores are offline, and the others are parked: three cores are left. -/
theorem not_leavesFour_of_offline :
    (((gameModeInitialiseCpu filesWithOffline ∅ ⟨∅, ∅, ∅⟩ configParking).map fun result =>
        result.2.map fun info => (info.parkOrPin,
          (parkCpu filesWithOffline .succeeded ⟨some info, info.online⟩).online)) =
        some (some (.park, {0, 6, 7}))) ∧
      ¬LeavesFour filesWithOffline ∅ configParking := by
  have hpark : ((gameModeInitialiseCpu filesWithOffline ∅ ⟨∅, ∅, ∅⟩ configParking).map
      fun result => result.2.map fun info => (info.parkOrPin,
        (parkCpu filesWithOffline .succeeded ⟨some info, info.online⟩).online)) =
          some (some (.park, {0, 6, 7})) := by
    decide
  refine ⟨hpark, fun h => ?_⟩
  obtain ⟨⟨code, info⟩, hresult, hsafe⟩ := h ⟨∅, ∅, ∅⟩
  rw [hresult, Option.map_some, Option.some_inj, Option.map_eq_some_iff] at hpark
  obtain ⟨info, rfl, hinfo⟩ := hpark
  obtain ⟨hmode, honline⟩ := Prod.mk.inj hinfo
  have hfour := (hsafe info rfl hmode).leaves
  rw [honline] at hfour
  exact absurd hfour (by decide)

end GameMode
