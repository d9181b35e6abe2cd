import GameMode.Common.CpulistFormat
import GameMode.Daemon.Cpu

/-!
# The loops over the cores

`game_mode_initialise_cpu` fills its sets bit by bit, in loops over the items of lists of cores.
Here it is written with these loops, and compared with the sets that `GameMode.Daemon.Cpu` gives at
once.

The inner loop runs while `cpu < to + 1`. Where an item ends at `LONG_MAX` this overflows, as does
the computation of `num_cpu` from the highest online core; C leaves open what happens then, and the
result here is `none`. What `CPU_ALLOC` gives is not cleared; the contents that it finds are an
argument.

## Main definitions

* `forCpulist`: the loops over a list.
* `gameModeInitialiseCpu`: the function with its loops.
* `CpuListsFit`: no list that is read ends at `LONG_MAX`.
* `KeepsAsListed`: what a list of the user asks for.

## Main results

* `gameModeInitialiseCpu_eq`: the loops compute the sets of `initialiseCpu`.
* `keepsAsListed_iff`: when a list of the user is honoured.

Source: `daemon/gamemode-cpu.c`.
-/

namespace GameMode

/-! ### Loops over a list of cores -/

section Loops

variable {σ : Type*} (body : σ → ℤ → σ)

/-- `for (long cpu = from; cpu < to + 1; cpu++)`, where `to + 1` does not overflow. -/
def forCores (s : σ) (item : ℤ × ℤ) : Option σ :=
  if item.2 = CString.longMax then none else some ((cpulistCores [item]).foldl body s)

/-- The loop over the cores inside of the loop over the items of a list. -/
def forCpulist (cpulist : CString) (s : σ) : Option σ :=
  (cpulistItems cpulist).foldlM (forCores body) s

/-- No item of a list ends at `LONG_MAX`. -/
def CpulistFits (cpulist : CString) : Prop :=
  ∀ item ∈ cpulistItems cpulist, item.2 ≠ CString.longMax

instance (cpulist : CString) : Decidable (CpulistFits cpulist) :=
  inferInstanceAs (Decidable (∀ item ∈ cpulistItems cpulist, item.2 ≠ CString.longMax))

theorem foldlM_forCores : ∀ (items : List (ℤ × ℤ)) (s : σ),
    items.foldlM (forCores body) s =
      if ∀ item ∈ items, item.2 ≠ CString.longMax then some ((cpulistCores items).foldl body s)
      else none
  | [], s => rfl
  | item :: items, s => by
    rw [List.foldlM_cons, forCores]
    by_cases hitem : item.2 = CString.longMax
    · have hnot : ¬∀ item' ∈ item :: items, item'.2 ≠ CString.longMax :=
        fun h => h item List.mem_cons_self hitem
      rw [if_pos hitem, if_neg hnot]
      rfl
    · have hcores : cpulistCores (item :: items) = cpulistCores [item] ++ cpulistCores items := by
        simp [cpulistCores]
      rw [if_neg hitem, Option.bind_eq_bind, Option.bind_some, foldlM_forCores items, hcores,
        List.foldl_append]
      simp only [List.forall_mem_cons, ne_eq, hitem, not_false_eq_true, true_and]

theorem forCpulist_eq (cpulist : CString) (s : σ) :
    forCpulist body cpulist s =
      if CpulistFits cpulist then some ((cpulistCores (cpulistItems cpulist)).foldl body s)
      else none :=
  foldlM_forCores body _ s

end Loops

/-! ### Sets of bits -/

/-- The contents of the memory that `CPU_ALLOC` gives for the sets. -/
structure CpuMemory where
  /-- For the online cores. -/
  online : Finset ℕ
  /-- For the cores to keep. -/
  toKeep : Finset ℕ
  /-- For the fast cores. -/
  freqCores : Finset ℕ

/-- `CPU_ALLOC`: a set with the bits that the memory has. -/
def cpuAlloc (numCpu : ℕ) (memory : Finset ℕ) : Finset ℕ :=
  memory.filter (· < cpusetBits numCpu)

/-- `CPU_ZERO_S`. -/
def cpuZero (_ : Finset ℕ) : Finset ℕ := ∅

/-- `CPU_CLR_S`. -/
def cpuClr (numCpu : ℕ) (cpu : ℤ) (set : Finset ℕ) : Finset ℕ :=
  if 0 ≤ cpu ∧ cpu < cpusetBits numCpu then set.erase cpu.toNat else set

/-- `CPU_ISSET_S`. -/
def cpuIsset (numCpu : ℕ) (cpu : ℤ) (set : Finset ℕ) : Bool :=
  0 ≤ cpu ∧ cpu < cpusetBits numCpu ∧ cpu.toNat ∈ set

/-! ### The function -/

/-- The body of the loops of `set_online_from_list`. -/
def GameModeCPUInfo.setOnline (info : GameModeCPUInfo) (cpu : ℤ) : GameModeCPUInfo :=
  { info with online := cpuSet info.numCpu cpu info.online }

/-- The body of the loops of `check_pe_cores`. -/
def GameModeCPUInfo.setToKeep (info : GameModeCPUInfo) (cpu : ℤ) : GameModeCPUInfo :=
  { info with toKeep := cpuSet info.numCpu cpu info.toKeep }

/-- The body of the first loops of `walk_string`. -/
def GameModeCPUInfo.walkOnline (info : GameModeCPUInfo) (cpu : ℤ) : GameModeCPUInfo :=
  if info.parkOrPin = .park then (info.setOnline cpu).setToKeep cpu else info.setOnline cpu

/-- The body of the second loops of `walk_string`. -/
def GameModeCPUInfo.walkConfig (info : GameModeCPUInfo) (cpu : ℤ) : GameModeCPUInfo :=
  if cpuIsset info.numCpu cpu info.online then
    if info.parkOrPin = .park then { info with toKeep := cpuClr info.numCpu cpu info.toKeep }
    else info.setToKeep cpu
  else info

/-- `walk_string` with its loops. -/
def walkStringLoops (cpulist configCpulist : CString) (info : GameModeCPUInfo) :
    Option GameModeCPUInfo := do
  let info ← forCpulist GameModeCPUInfo.walkOnline cpulist info
  forCpulist GameModeCPUInfo.walkConfig configCpulist info

/-- `walk_sysfs` with its loops. -/
def walkSysfsLoops (l3Size maxFreq : ℤ → Option CString) (memory : Finset ℕ) (cpulist : CString)
    (info : GameModeCPUInfo) : Option GameModeCPUInfo := do
  let walk ← forCpulist (SysfsWalk.step l3Size maxFreq info.numCpu) cpulist
    ⟨0, 0, info.toKeep, cpuAlloc info.numCpu memory⟩
  if info.online = walk.toKeep ∨ walk.toKeep.card = 0 then
    some { info with toKeep := walk.freqCores }
  else some { info with toKeep := walk.toKeep }

variable (files : CpuSysfs) (online : Finset ℕ) (memory : CpuMemory) (config : Config)

/-- The sets of `game_mode_initialise_cpu`, from the list of online cores and the list of the
option. -/
def fillCpuInfo (buf cores : CString) (info : GameModeCPUInfo) : Option GameModeCPUInfo :=
  if cores ≠ [] then walkStringLoops buf cores info
  else do
    let info ← forCpulist GameModeCPUInfo.setOnline buf info
    match readSmallFile (files.peCores online) with
    | some buf2 => forCpulist GameModeCPUInfo.setToKeep buf2 info
    | none =>
      walkSysfsLoops (files.l3Size online) (files.maxFreq online) memory.freqCores buf info

/-- The checks at the end of `game_mode_initialise_cpu`, and its result. -/
def checkCpuInfo (info : GameModeCPUInfo) : ℤ × Option GameModeCPUInfo :=
  if info.parkOrPin = .park ∧ info.online = info.toKeep then (-1, none)
  else if info.toKeep.card = 0 then (-1, none)
  else if info.toKeep.card < 4 then (-1, none)
  else (0, some info)

/-- `game_mode_initialise_cpu` with its loops. -/
def gameModeInitialiseCpu : Option (ℤ × Option GameModeCPUInfo) :=
  match parkOrPinOf (config.string .cpuParkCores) (config.string .cpuPinCores) with
  | none => some (0, none)
  | some (parkOrPin, cores) =>
    match readSmallFile (files.online online) with
    | none => some (-1, none)
    | some buf =>
      let max := maxCore (cpulistItems buf)
      if max = 0 then some (0, none)
      else if max = CString.longMax then none
      else
        let numCpu := (max + 1).toNat
        (fillCpuInfo files online memory buf cores
          ⟨numCpu, parkOrPin, cpuZero (cpuAlloc numCpu memory.online),
            cpuZero (cpuAlloc numCpu memory.toKeep)⟩).map checkCpuInfo

/-! ### What the loops compute -/

theorem mem_cpulistCores {items : List (ℤ × ℤ)} {cpu : ℤ} :
    cpu ∈ cpulistCores items ↔ ∃ item ∈ items, item.1 ≤ cpu ∧ cpu ≤ item.2 := by
  simp only [cpulistCores, List.bind_eq_flatMap, List.pure_def, List.mem_flatMap, List.mem_map,
    List.mem_singleton, List.mem_range]
  refine exists_congr fun item => and_congr_right fun _ => ?_
  constructor
  · rintro ⟨i, ⟨n, hn, rfl⟩, rfl⟩
    omega
  · rintro ⟨hlo, hhi⟩
    exact ⟨cpu - item.1, ⟨(cpu - item.1).toNat, by omega, by omega⟩, by omega⟩

/-- The set that `CPU_SET_S` makes of a set when it is called for some cores. -/
def cpuSets (numCpu : ℕ) (cores : List ℤ) (set : Finset ℕ) : Finset ℕ :=
  cores.foldl (fun set cpu => cpuSet numCpu cpu set) set

theorem mem_cpuSet {numCpu cpu' : ℕ} {cpu : ℤ} {set : Finset ℕ} :
    cpu' ∈ cpuSet numCpu cpu set ↔ cpu' ∈ set ∨ cpu' < cpusetBits numCpu ∧ (cpu' : ℤ) = cpu := by
  rw [cpuSet]
  split_ifs with h
  · rw [Finset.mem_insert, or_comm]
    refine or_congr_right ?_
    omega
  · refine ⟨Or.inl, fun hmem => hmem.resolve_right ?_⟩
    omega

theorem mem_cpuSets {numCpu cpu : ℕ} : ∀ {cores : List ℤ} {set : Finset ℕ},
    cpu ∈ cpuSets numCpu cores set ↔ cpu ∈ set ∨ cpu < cpusetBits numCpu ∧ (cpu : ℤ) ∈ cores
  | [], set => by simp [cpuSets]
  | core :: cores, set => by
    rw [cpuSets, List.foldl_cons, ← cpuSets, mem_cpuSets, mem_cpuSet, List.mem_cons]
    tauto

theorem cpuSets_empty (numCpu : ℕ) (items : List (ℤ × ℤ)) :
    cpuSets numCpu (cpulistCores items) ∅ = cpusetOf numCpu items := by
  ext cpu
  rw [mem_cpuSets, mem_cpusetOf, mem_cpulistCores]
  simp

section Folds

variable {numCpu : ℕ} {parkOrPin : ParkOrPin} {set toKeep : Finset ℕ}

theorem foldl_setOnline : ∀ (cores : List ℤ) (set : Finset ℕ),
    cores.foldl GameModeCPUInfo.setOnline ⟨numCpu, parkOrPin, set, toKeep⟩ =
      ⟨numCpu, parkOrPin, cpuSets numCpu cores set, toKeep⟩
  | [], _ => rfl
  | core :: cores, set => foldl_setOnline cores (cpuSet numCpu core set)

theorem foldl_setToKeep : ∀ (cores : List ℤ) (toKeep : Finset ℕ),
    cores.foldl GameModeCPUInfo.setToKeep ⟨numCpu, parkOrPin, set, toKeep⟩ =
      ⟨numCpu, parkOrPin, set, cpuSets numCpu cores toKeep⟩
  | [], _ => rfl
  | core :: cores, toKeep => foldl_setToKeep cores (cpuSet numCpu core toKeep)

theorem foldl_walkOnline : ∀ (cores : List ℤ) (set toKeep : Finset ℕ),
    cores.foldl GameModeCPUInfo.walkOnline ⟨numCpu, parkOrPin, set, toKeep⟩ =
      ⟨numCpu, parkOrPin, cpuSets numCpu cores set,
        if parkOrPin = .park then cpuSets numCpu cores toKeep else toKeep⟩
  | [], _, _ => by simp [cpuSets]
  | core :: cores, set, toKeep => by
    have ih := foldl_walkOnline cores (cpuSet numCpu core set)
    cases parkOrPin with
    | park => exact ih (cpuSet numCpu core toKeep)
    | pin => exact ih toKeep

theorem filter_eq_core (core : ℤ) :
    (set.filter fun cpu => cpu < cpusetBits numCpu ∧ (cpu : ℤ) = core) =
      if cpuIsset numCpu core set then {core.toNat} else ∅ := by
  ext cpu
  split_ifs with h
  · rw [cpuIsset, decide_eq_true_eq] at h
    rw [Finset.mem_filter, Finset.mem_singleton]
    constructor
    · rintro ⟨-, -, hcpu⟩
      omega
    · rintro rfl
      exact ⟨h.2.2, by omega, by omega⟩
  · refine ⟨fun hmem => absurd ?_ h, fun hmem => absurd hmem (Finset.notMem_empty cpu)⟩
    obtain ⟨hset, hbits, rfl⟩ := Finset.mem_filter.1 hmem
    rw [cpuIsset, decide_eq_true_eq]
    exact ⟨Int.natCast_nonneg cpu, by omega, hset⟩

/-- The second loops of `walk_string`, over the list of the option, touch online cores only. -/
theorem foldl_walkConfig : ∀ (cores : List ℤ) (toKeep : Finset ℕ),
    cores.foldl GameModeCPUInfo.walkConfig ⟨numCpu, parkOrPin, set, toKeep⟩ =
      ⟨numCpu, parkOrPin, set,
        let listed := set.filter fun cpu => cpu < cpusetBits numCpu ∧ (cpu : ℤ) ∈ cores
        if parkOrPin = .park then toKeep \ listed else toKeep ∪ listed⟩
  | [], toKeep => by simp
  | core :: cores, toKeep => by
    have hbody : GameModeCPUInfo.walkConfig ⟨numCpu, parkOrPin, set, toKeep⟩ core =
        ⟨numCpu, parkOrPin, set,
          let listed := set.filter fun cpu => cpu < cpusetBits numCpu ∧ (cpu : ℤ) = core
          if parkOrPin = .park then toKeep \ listed else toKeep ∪ listed⟩ := by
      simp only [filter_eq_core, GameModeCPUInfo.walkConfig]
      split_ifs with hisset hpark hpark
      · rw [cpuIsset, decide_eq_true_eq] at hisset
        simp only [cpuClr, if_pos (And.intro hisset.1 hisset.2.1), Finset.sdiff_singleton_eq_erase]
      · rw [cpuIsset, decide_eq_true_eq] at hisset
        simp only [GameModeCPUInfo.setToKeep, cpuSet, if_pos (And.intro hisset.1 hisset.2.1),
          Finset.union_singleton]
      · simp
      · simp
    rw [List.foldl_cons, hbody, foldl_walkConfig cores]
    simp only [List.mem_cons, and_or_left, Finset.filter_or]
    split_ifs <;> simp [sdiff_sdiff_left, Finset.union_assoc]

end Folds

theorem filter_mem_cpulistCores (numCpu : ℕ) (items items' : List (ℤ × ℤ)) :
    ((cpusetOf numCpu items).filter fun cpu : ℕ =>
        cpu < cpusetBits numCpu ∧ (cpu : ℤ) ∈ cpulistCores items') =
      (cpusetOf numCpu items).filter fun cpu : ℕ =>
        ∃ item ∈ items', item.1 ≤ cpu ∧ (cpu : ℤ) ≤ item.2 := by
  refine Finset.filter_congr fun cpu hcpu => ?_
  rw [mem_cpulistCores, and_iff_right (mem_cpusetOf.1 hcpu).1]

theorem walkStringLoops_eq {cpulist configCpulist : CString} (hfits : CpulistFits cpulist)
    (hfits' : CpulistFits configCpulist) (numCpu : ℕ) (parkOrPin : ParkOrPin) :
    walkStringLoops cpulist configCpulist ⟨numCpu, parkOrPin, ∅, ∅⟩ =
      some ⟨numCpu, parkOrPin, cpusetOf numCpu (cpulistItems cpulist),
        walkString parkOrPin (cpusetOf numCpu (cpulistItems cpulist))
          (cpulistItems configCpulist)⟩ := by
  rw [walkStringLoops, forCpulist_eq, if_pos hfits, Option.bind_eq_bind, Option.bind_some,
    forCpulist_eq, if_pos hfits', foldl_walkOnline, foldl_walkConfig, cpuSets_empty]
  simp only [filter_mem_cpulistCores]
  cases parkOrPin with
  | park => simp only [if_true, walkString, Finset.filter_not]
  | pin => simp [walkString]

theorem walkSysfsLoops_eq {cpulist : CString} (hfits : CpulistFits cpulist)
    (l3Size maxFreq : ℤ → Option CString) (memory : Finset ℕ) (numCpu : ℕ)
    (parkOrPin : ParkOrPin) (listed : Finset ℕ) :
    walkSysfsLoops l3Size maxFreq memory cpulist ⟨numCpu, parkOrPin, listed, ∅⟩ =
      some ⟨numCpu, parkOrPin, listed, walkSysfs l3Size maxFreq numCpu listed
        (cpuAlloc numCpu memory) (cpulistItems cpulist)⟩ := by
  rw [walkSysfsLoops, forCpulist_eq, if_pos hfits, Option.bind_eq_bind, Option.bind_some,
    walkSysfs]
  simp only [Finset.card_eq_zero]
  split_ifs <;> rfl

/-! ### Lists that fit -/

theorem exists_of_mem_cpulistItems {s : CString} {item : ℤ × ℤ} (h : item ∈ cpulistItems s) :
    ∃ cpuItem : CpuItem, cpuItem.bounds = item := by
  induction hlength : s.length using Nat.strong_induction_on generalizing s with
  | _ length ih =>
  rw [cpulistItems_eq] at h
  cases hparse : parseCpulist s with
  | none =>
    rw [hparse] at h
    cases h
  | some parsed =>
    obtain ⟨lo, hi, rest⟩ := parsed
    rw [hparse] at h
    rcases List.mem_cons.1 h with rfl | hrest
    · obtain ⟨entry, -, -, hbounds⟩ := exists_entry hparse
      exact ⟨entry.item, hbounds⟩
    · exact ih rest.length (hlength ▸ length_of_parseCpulist hparse) hrest rfl

theorem le_longMax_of_mem {s : CString} {item : ℤ × ℤ} (h : item ∈ cpulistItems s) :
    item.2 ≤ CString.longMax := by
  obtain ⟨cpuItem, rfl⟩ := exists_of_mem_cpulistItems h
  exact CString.Numeral.long_le _

theorem maxCore_mem (items : List (ℤ × ℤ)) :
    maxCore items = 0 ∨ ∃ item ∈ items, item.2 = maxCore items := by
  have hfrom : ∀ (items : List (ℤ × ℤ)) (m : ℤ),
      items.foldl (fun m item => if m < item.2 then item.2 else m) m = m ∨
        ∃ item ∈ items,
          item.2 = items.foldl (fun m item => if m < item.2 then item.2 else m) m := by
    intro items
    induction items with
    | nil => exact fun m => Or.inl rfl
    | cons item items ih =>
      intro m
      rw [List.foldl_cons]
      rcases ih (if m < item.2 then item.2 else m) with heq | ⟨item', hitem', heq⟩
      · rw [heq]
        split_ifs
        · exact Or.inr ⟨item, List.mem_cons_self, rfl⟩
        · exact Or.inl rfl
      · exact Or.inr ⟨item', List.mem_cons_of_mem item hitem', heq⟩
  exact hfrom items 0

/-- The highest core overflows where the list does not fit. -/
theorem maxCore_eq_longMax_iff {s : CString} :
    maxCore (cpulistItems s) = CString.longMax ↔ ¬CpulistFits s := by
  rw [CpulistFits, not_forall]
  simp only [not_forall, not_not, exists_prop]
  constructor
  · intro hmax
    rcases maxCore_mem (cpulistItems s) with hzero | ⟨item, hitem, heq⟩
    · rw [hzero] at hmax
      exact absurd hmax (by decide)
    · exact ⟨item, hitem, heq.trans hmax⟩
  · rintro ⟨item, hitem, heq⟩
    refine le_antisymm ?_ (heq ▸ le_maxCore hitem)
    rcases maxCore_mem (cpulistItems s) with hzero | ⟨item', hitem', heq'⟩
    · rw [hzero]
      decide
    · exact heq' ▸ le_longMax_of_mem hitem'

/-- No list that the function reads ends at `LONG_MAX`: neither that of the online cores, nor that
of the option that decides or, without one, that of the performance cores. -/
def CpuListsFit (files : CpuSysfs) (online : Finset ℕ) (config : Config) : Prop :=
  ∀ parkOrPin cores,
    parkOrPinOf (config.string .cpuParkCores) (config.string .cpuPinCores) =
      some (parkOrPin, cores) →
    ∀ buf, readSmallFile (files.online online) = some buf → maxCore (cpulistItems buf) ≠ 0 →
      CpulistFits buf ∧ (cores ≠ [] → CpulistFits cores) ∧
        (cores = [] → ∀ buf2, readSmallFile (files.peCores online) = some buf2 →
          CpulistFits buf2)

/-- The number of cores that the sets are allocated for. -/
def CpuSysfs.numCpu (files : CpuSysfs) (online : Finset ℕ) : ℕ :=
  match readSmallFile (files.online online) with
  | none => 0
  | some buf => (maxCore (cpulistItems buf) + 1).toNat

section Initialise

variable {files : CpuSysfs} {online : Finset ℕ} {config : Config} (memory : CpuMemory)

/-- The loops fill the sets. -/
theorem fillCpuInfo_eq {buf cores : CString} (hbuf : CpulistFits buf)
    (hcores : cores ≠ [] → CpulistFits cores)
    (hpe : cores = [] → ∀ buf2, readSmallFile (files.peCores online) = some buf2 →
      CpulistFits buf2) (numCpu : ℕ) (parkOrPin : ParkOrPin) :
    fillCpuInfo files online memory buf cores ⟨numCpu, parkOrPin, ∅, ∅⟩ =
      some ⟨numCpu, parkOrPin, cpusetOf numCpu (cpulistItems buf),
        if cores ≠ [] then
          walkString parkOrPin (cpusetOf numCpu (cpulistItems buf)) (cpulistItems cores)
        else
          match readSmallFile (files.peCores online) with
          | some peCores => cpusetOf numCpu (cpulistItems peCores)
          | none =>
            walkSysfs (files.l3Size online) (files.maxFreq online) numCpu
              (cpusetOf numCpu (cpulistItems buf)) (cpuAlloc numCpu memory.freqCores)
              (cpulistItems buf)⟩ := by
  rw [fillCpuInfo]
  split_ifs with hne
  · exact walkStringLoops_eq hbuf (hcores hne) numCpu parkOrPin
  · rw [ne_eq, not_not] at hne
    rw [forCpulist_eq, if_pos hbuf, Option.bind_eq_bind, Option.bind_some, foldl_setOnline,
      cpuSets_empty]
    cases hread : readSmallFile (files.peCores online) with
    | some buf2 =>
      simp only
      rw [forCpulist_eq, if_pos (hpe hne buf2 hread), foldl_setToKeep, cpuSets_empty]
    | none => exact walkSysfsLoops_eq hbuf _ _ _ numCpu parkOrPin _

theorem gameModeInitialiseCpu_of_fits {parkOrPin : ParkOrPin} {cores buf : CString}
    (hmode : parkOrPinOf (config.string .cpuParkCores) (config.string .cpuPinCores) =
      some (parkOrPin, cores))
    (hread : readSmallFile (files.online online) = some buf)
    (hmax : maxCore (cpulistItems buf) ≠ 0) (hbuf : CpulistFits buf) :
    gameModeInitialiseCpu files online memory config =
      (fillCpuInfo files online memory buf cores
        ⟨(maxCore (cpulistItems buf) + 1).toNat, parkOrPin, ∅, ∅⟩).map checkCpuInfo := by
  have hlong : maxCore (cpulistItems buf) ≠ CString.longMax :=
    fun heq => maxCore_eq_longMax_iff.1 heq hbuf
  rw [gameModeInitialiseCpu, hmode]
  simp only [hread, if_neg hmax, if_neg hlong, cpuZero]

/-- **The loops.** Where every list fits, they compute what `initialiseCpu` gives. -/
theorem gameModeInitialiseCpu_eq (h : CpuListsFit files online config) :
    gameModeInitialiseCpu files online memory config =
      some (initialiseCpu files online (cpuAlloc (files.numCpu online) memory.freqCores)
        config) := by
  rw [initialiseCpu, CpuSysfs.numCpu]
  cases hmode : parkOrPinOf (config.string .cpuParkCores) (config.string .cpuPinCores) with
  | none => rw [gameModeInitialiseCpu, hmode]
  | some mode =>
    obtain ⟨parkOrPin, cores⟩ := mode
    cases hread : readSmallFile (files.online online) with
    | none =>
      rw [gameModeInitialiseCpu, hmode]
      simp only [hread]
    | some buf =>
      by_cases hmax : maxCore (cpulistItems buf) = 0
      · rw [gameModeInitialiseCpu, hmode]
        simp only [hread, hmax, if_true]
      · obtain ⟨hbuf, hcores, hpe⟩ := h parkOrPin cores hmode buf hread hmax
        rw [gameModeInitialiseCpu_of_fits memory hmode hread hmax hbuf,
          fillCpuInfo_eq memory hbuf hcores hpe, Option.map_some]
        cases cores with
        | nil => cases hread' : readSmallFile (files.peCores online) <;> simp [hmax, checkCpuInfo]
        | cons c cs => simp [hmax, checkCpuInfo]

/-- Where a list does not fit, the result is open. -/
theorem gameModeInitialiseCpu_eq_none (h : ¬CpuListsFit files online config) :
    gameModeInitialiseCpu files online memory config = none := by
  simp only [CpuListsFit, not_forall] at h
  obtain ⟨parkOrPin, cores, hmode, buf, hread, hmax, hnot⟩ := h
  have hfill : ∀ info, CpulistFits buf → fillCpuInfo files online memory buf cores info = none := by
    intro info hbuf
    rw [fillCpuInfo]
    split_ifs with hne
    · have hcores : ¬CpulistFits cores := fun hfits =>
        hnot ⟨hbuf, fun _ => hfits, fun hnil => absurd hnil hne⟩
      rw [walkStringLoops, forCpulist_eq, if_pos hbuf, Option.bind_eq_bind, Option.bind_some,
        forCpulist_eq, if_neg hcores]
    · rw [forCpulist_eq, if_pos hbuf, Option.bind_eq_bind, Option.bind_some]
      cases hread' : readSmallFile (files.peCores online) with
      | some buf2 =>
        have hbuf2 : ¬CpulistFits buf2 := by
          refine fun hfits => hnot ⟨hbuf, fun hcores => absurd hcores hne, fun _ buf3 hbuf3 => ?_⟩
          rw [hread', Option.some_inj] at hbuf3
          exact hbuf3 ▸ hfits
        simp only [forCpulist_eq, if_neg hbuf2]
      | none =>
        refine absurd ⟨hbuf, fun hcores => absurd hcores hne, fun _ buf3 hbuf3 => ?_⟩ hnot
        rw [hread'] at hbuf3
        cases hbuf3
  rw [gameModeInitialiseCpu, hmode]
  simp only [hread, if_neg hmax]
  split_ifs with hlong
  · rfl
  · rw [maxCore_eq_longMax_iff, not_not] at hlong
    rw [hfill _ hlong, Option.map_none]

end Initialise

/-! ### Lists of the user -/

/-- The first core of an item of the format. -/
def CpuItem.lo (item : CpuItem) : ℕ := item.first.natValue

/-- The last core of an item of the format. -/
def CpuItem.hi (item : CpuItem) : ℕ := (item.last.getD item.first).natValue

theorem CpuItem.Plain.bounds_eq {item : CpuItem} (h : item.Plain) :
    item.bounds = ((item.lo : ℤ), (item.hi : ℤ)) := by
  have hlast : (item.last.getD item.first).Plain := by
    cases hcase : item.last with
    | none => exact h.first
    | some last => exact h.last last hcase
  rw [CpuItem.bounds, h.first.long_eq, hlast.long_eq]
  rfl

/-- The cores that a list means. -/
def coresOf (items : List CpuItem) : Finset ℕ :=
  (items.flatMap fun item => List.range' item.lo (item.hi + 1 - item.lo)).toFinset

theorem mem_coresOf {items : List CpuItem} {cpu : ℕ} :
    cpu ∈ coresOf items ↔ ∃ item ∈ items, item.lo ≤ cpu ∧ cpu ≤ item.hi := by
  simp only [coresOf, List.mem_toFinset, List.mem_flatMap, List.mem_range'_1]
  refine exists_congr fun item => and_congr_right fun _ => ?_
  omega

section Format

variable {s : CString} {items : List CpuItem} (h : IsCpulist s items)
include h

theorem IsCpulist.exists_mem_iff (cpu : ℕ) :
    (∃ item ∈ cpulistItems s, item.1 ≤ cpu ∧ (cpu : ℤ) ≤ item.2) ↔ cpu ∈ coresOf items := by
  rw [h.readToEnd.2, mem_coresOf]
  constructor
  · rintro ⟨_, hitem, hlo, hhi⟩
    obtain ⟨item, hmem, rfl⟩ := List.mem_map.1 hitem
    rw [(h.plain item hmem).bounds_eq] at hlo hhi
    exact ⟨item, hmem, Int.ofNat_le.1 hlo, Int.ofNat_le.1 hhi⟩
  · rintro ⟨item, hmem, hlo, hhi⟩
    refine ⟨item.bounds, List.mem_map_of_mem hmem, ?_⟩
    rw [(h.plain item hmem).bounds_eq]
    exact ⟨Int.ofNat_le.2 hlo, Int.ofNat_le.2 hhi⟩

theorem IsCpulist.fits_iff :
    CpulistFits s ↔ ∀ item ∈ items, (item.hi : ℤ) ≠ CString.longMax := by
  rw [CpulistFits, h.readToEnd.2, List.forall_mem_map]
  refine forall₂_congr fun item hmem => ?_
  rw [(h.plain item hmem).bounds_eq]

theorem IsCpulist.cpusetOf_eq :
    cpusetOf (maxCore (cpulistItems s) + 1).toNat (cpulistItems s) = coresOf items := by
  ext cpu
  rw [mem_cpusetOf, h.exists_mem_iff, and_iff_right_iff_imp]
  intro hcpu
  obtain ⟨item, hitem, -, hhi⟩ := (h.exists_mem_iff cpu).2 hcpu
  have hmax := hhi.trans (le_maxCore hitem)
  rw [cpusetBits]
  omega

end Format

/-- The option that decides which cores to keep, and its list: `pin_cores`, unless it is empty or
switched off, or else `park_cores`. A text that switches an option on or off is no list. -/
def Decides (config : Config) (parkOrPin : ParkOrPin) (cores : CString) : Prop :=
  isNo cores = false ∧ isYes cores = false ∧
    match parkOrPin with
    | .pin => config.string .cpuPinCores = cores
    | .park => config.string .cpuParkCores = cores ∧
        (config.string .cpuPinCores = [] ∨ isNo (config.string .cpuPinCores) = true)

theorem parkOrPinOf_of_decides {config : Config} {parkOrPin : ParkOrPin} {cores : CString}
    (h : Decides config parkOrPin cores) (hne : cores ≠ []) :
    parkOrPinOf (config.string .cpuParkCores) (config.string .cpuPinCores) =
      some (parkOrPin, cores) := by
  obtain ⟨hno, hyes, hoption⟩ := h
  cases parkOrPin with
  | pin =>
    simp only at hoption
    simp [parkOrPinOf, hoption, hne, hno, hyes]
  | park =>
    obtain ⟨hpark, hpin⟩ := hoption
    have hoff : ¬(config.string .cpuPinCores ≠ [] ∧ ¬isNo (config.string .cpuPinCores)) := by
      rintro ⟨hne', hno'⟩
      exact hpin.elim hne' hno'
    simp only [parkOrPinOf, if_neg hoff, hpark, hne, hno, hyes, ne_eq, not_false_eq_true, if_true,
      Bool.false_eq_true, if_false]

/-- The cores to keep according to the documentation: pinning keeps the online cores that are
listed, and parking those that are not. -/
def keptOf (parkOrPin : ParkOrPin) (online cores : Finset ℕ) : Finset ℕ :=
  match parkOrPin with
  | .pin => online ∩ cores
  | .park => online \ cores

/-- The list of an option is honoured: the cores to keep are those that it asks for, and the
information is installed exactly when there are four of them and, for parking, not all the online
ones. -/
structure KeepsAsListed (files : CpuSysfs) (online : Finset ℕ) (memory : CpuMemory)
    (config : Config) (buf cores : CString) (parkOrPin : ParkOrPin) (listed kept : Finset ℕ) :
    Prop where
  computes : fillCpuInfo files online memory buf cores ⟨files.numCpu online, parkOrPin, ∅, ∅⟩ =
    some ⟨files.numCpu online, parkOrPin, listed, kept⟩
  installs : gameModeInitialiseCpu files online memory config =
    some (if 4 ≤ kept.card ∧ (parkOrPin = .park → kept ≠ listed) then
      (0, some ⟨files.numCpu online, parkOrPin, listed, kept⟩) else (-1, none))

theorem checkCpuInfo_eq (info : GameModeCPUInfo) :
    checkCpuInfo info =
      if 4 ≤ info.toKeep.card ∧ (info.parkOrPin = .park → info.toKeep ≠ info.online) then
        (0, some info)
      else (-1, none) := by
  rw [checkCpuInfo]
  by_cases hpark : info.parkOrPin = .park ∧ info.online = info.toKeep
  · rw [if_pos hpark, if_neg fun h => h.2 hpark.1 hpark.2.symm]
  · have hne : info.parkOrPin = .park → info.toKeep ≠ info.online :=
      fun hmode heq => hpark ⟨hmode, heq.symm⟩
    rw [if_neg hpark]
    by_cases hfour : 4 ≤ info.toKeep.card
    · rw [if_neg (by omega), if_neg (by omega), if_pos ⟨hfour, hne⟩]
    · rw [if_neg fun h : _ ∧ _ => hfour h.1]
      split_ifs
      · rfl
      · rfl
      · omega

theorem walkString_eq {cores : CString} {citems : List CpuItem} (hcores : IsCpulist cores citems)
    (parkOrPin : ParkOrPin) (listed : Finset ℕ) :
    walkString parkOrPin listed (cpulistItems cores) =
      keptOf parkOrPin listed (coresOf citems) := by
  cases parkOrPin with
  | park =>
    ext cpu
    simp only [walkString, keptOf, Finset.mem_filter, Finset.mem_sdiff, hcores.exists_mem_iff]
  | pin =>
    ext cpu
    simp only [walkString, keptOf, Finset.mem_filter, Finset.mem_inter, hcores.exists_mem_iff]

theorem IsCpulist.maxCore_ne_zero {s : CString} {items : List CpuItem} (h : IsCpulist s items)
    (hmore : 1 < (coresOf items).card) : maxCore (cpulistItems s) ≠ 0 := by
  intro hzero
  have hsub : coresOf items ⊆ {0} := by
    intro cpu hcpu
    obtain ⟨item, hitem, -, hhi⟩ := (h.exists_mem_iff cpu).2 hcpu
    have hmax := hhi.trans (le_maxCore hitem)
    rw [Finset.mem_singleton]
    omega
  have hcard := Finset.card_le_card hsub
  rw [Finset.card_singleton] at hcard
  omega

/-- **Lists of the user.** Where more than one core is online, and the list of the online cores is
in the format and ends below `LONG_MAX`, a list of the user in the format is honoured exactly when
it does not end at `LONG_MAX`. -/
theorem keepsAsListed_iff {files : CpuSysfs} {online : Finset ℕ} {config : Config}
    (memory : CpuMemory) {buf cores : CString} {parkOrPin : ParkOrPin} {items citems : List CpuItem}
    (hread : readSmallFile (files.online online) = some buf) (honline : IsCpulist buf items)
    (hmore : 1 < (coresOf items).card)
    (hlong : ∀ item ∈ items, (item.hi : ℤ) < CString.longMax)
    (hcores : IsCpulist cores citems) (hdecides : Decides config parkOrPin cores) :
    KeepsAsListed files online memory config buf cores parkOrPin (coresOf items)
        (keptOf parkOrPin (coresOf items) (coresOf citems)) ↔
      ∀ item ∈ citems, (item.hi : ℤ) ≠ CString.longMax := by
  have hne : cores ≠ [] := fun hnil => hcores.readToEnd.1.1 hnil
  have hfits : CpulistFits buf := honline.fits_iff.2 fun item hitem => (hlong item hitem).ne
  have hmax : maxCore (cpulistItems buf) ≠ 0 := honline.maxCore_ne_zero hmore
  have hnumCpu : files.numCpu online = (maxCore (cpulistItems buf) + 1).toNat := by
    rw [CpuSysfs.numCpu, hread]
  have hgame : gameModeInitialiseCpu files online memory config =
      (fillCpuInfo files online memory buf cores
        ⟨files.numCpu online, parkOrPin, ∅, ∅⟩).map checkCpuInfo := by
    rw [hnumCpu]
    exact gameModeInitialiseCpu_of_fits memory (parkOrPinOf_of_decides hdecides hne) hread hmax
      hfits
  rw [← hcores.fits_iff]
  constructor
  · intro h
    by_contra hnot
    have hcomputes := h.computes
    rw [fillCpuInfo, if_pos hne, walkStringLoops, forCpulist_eq, if_pos hfits,
      Option.bind_eq_bind, Option.bind_some, forCpulist_eq, if_neg hnot] at hcomputes
    cases hcomputes
  · intro hfits'
    have hcomputes : fillCpuInfo files online memory buf cores
        ⟨files.numCpu online, parkOrPin, ∅, ∅⟩ =
          some ⟨files.numCpu online, parkOrPin, coresOf items,
            keptOf parkOrPin (coresOf items) (coresOf citems)⟩ := by
      rw [fillCpuInfo, if_pos hne, walkStringLoops_eq hfits hfits', hnumCpu,
        honline.cpusetOf_eq, walkString_eq hcores]
    refine ⟨hcomputes, ?_⟩
    rw [hgame, hcomputes, Option.map_some, checkCpuInfo_eq]

private def plainRange (first last : CString) (hne : first ≠ [] ∧ last ≠ [])
    (hdigit : (∀ c ∈ first, c.isDigit = true) ∧ ∀ c ∈ last, c.isDigit = true)
    (hle : (⟨[], none, first, nofun, hne.1, hdigit.1⟩ : CString.Numeral).long ≤
      (⟨[], none, last, nofun, hne.2, hdigit.2⟩ : CString.Numeral).long) : CpuItem :=
  ⟨⟨[], none, first, nofun, hne.1, hdigit.1⟩, some ⟨[], none, last, nofun, hne.2, hdigit.2⟩, hle⟩

private theorem isCpulist_plainRange {first last : CString} {hne hdigit hle}
    (hfirst : (Nat.ofDigitChars 10 first 0 : ℤ) ≤ CString.longMax)
    (hlast : (Nat.ofDigitChars 10 last 0 : ℤ) ≤ CString.longMax) {s : CString}
    (htext : s = first ++ '-' :: last) : IsCpulist s [plainRange first last hne hdigit hle] where
  ne_nil := List.cons_ne_nil _ _
  plain := by
    intro item hitem
    obtain rfl := List.mem_singleton.1 hitem
    exact ⟨⟨rfl, rfl, hfirst⟩, fun n hn => Option.mem_some_iff.1 hn ▸ ⟨rfl, rfl, hlast⟩⟩
  text := by
    rw [List.map_singleton, List.intercalate_singleton]
    exact htext

private def eightCores : CpuItem :=
  plainRange ['0'] ['7'] (by decide) (by simp) (by decide)

private def upperCores : CpuItem :=
  plainRange ['4'] ['1', '2'] (by decide) (by simp) (by decide)

private theorem isCpulist_eightCores : IsCpulist "0-7".toList [eightCores] :=
  isCpulist_plainRange (by decide) (by decide) (by decide)

private theorem isCpulist_upperCores : IsCpulist "4-12".toList [upperCores] :=
  isCpulist_plainRange (by decide) (by decide) (by decide)

private def filesWithEight : CpuSysfs :=
  { CpuSysfs.unreadable with online := fun _ => some "0-7\n".toList }

private def configWithCores (option : StringOption) (cores : CString) : Config :=
  { Config.initial with
    string := fun o => if o = option then cores else Config.initial.string o }

private def usedMemory : CpuMemory := ⟨{3}, {70}, {5, 6}⟩

/-- Of eight cores those from core 4 on are parked, also where the list goes beyond them. -/
theorem keepsAsListed_of_park :
    KeepsAsListed filesWithEight ∅ usedMemory (configWithCores .cpuParkCores "4-12".toList)
      "0-7".toList "4-12".toList .park (coresOf [eightCores])
      (keptOf .park (coresOf [eightCores]) (coresOf [upperCores])) := by
  have hdecides : Decides (configWithCores .cpuParkCores "4-12".toList) .park "4-12".toList :=
    ⟨by decide, by decide, rfl, Or.inl rfl⟩
  exact (keepsAsListed_iff usedMemory (by decide) isCpulist_eightCores (by decide) (by decide)
    isCpulist_upperCores hdecides).2 (by decide)

private def allCores : CpuItem :=
  plainRange ['0'] "9223372036854775807".toList (by decide) (by simp) (by decide)

/-- The list `0-9223372036854775807` is in the format, and what it does is open. -/
theorem not_keepsAsListed_of_longMax :
    IsCpulist "0-9223372036854775807".toList [allCores] ∧
      ¬KeepsAsListed filesWithEight ∅ usedMemory
        (configWithCores .cpuPinCores "0-9223372036854775807".toList)
        "0-7".toList "0-9223372036854775807".toList .pin (coresOf [eightCores])
        (keptOf .pin (coresOf [eightCores]) (coresOf [allCores])) ∧
      gameModeInitialiseCpu filesWithEight ∅ usedMemory
        (configWithCores .cpuPinCores "0-9223372036854775807".toList) = none := by
  have hfit : ¬CpuListsFit filesWithEight ∅
      (configWithCores .cpuPinCores "0-9223372036854775807".toList) := by
    intro h
    have hcores := (h .pin "0-9223372036854775807".toList (by decide) "0-7".toList (by decide)
      (by decide)).2.1 (by decide)
    exact absurd hcores (by decide)
  have hnone := gameModeInitialiseCpu_eq_none usedMemory hfit
  refine ⟨isCpulist_plainRange (by decide) (by decide) (by decide), fun h => ?_, hnone⟩
  have hinstalls := h.installs
  rw [hnone] at hinstalls
  cases hinstalls

end GameMode
