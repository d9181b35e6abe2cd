import GameMode.Daemon.CpuLoops
import GameMode.Library.NearMax

/-!
# Detection of the cores for games

Without a list of the user, the daemon takes the performance cores that the kernel names. Where the
kernel names none it reads the size of the cache and the maximum frequency of every core: it keeps
the cores with the largest cache or, when that does not tell cores apart, the fast ones, whose
frequency is within ten percent of the highest. Both sets come out of one pass over the cores.

The set of the fast cores is not cleared when it is allocated. It is cleared at a jump of the
frequencies, and the first positive one is a jump. It is not cleared at a small step, and then cores
stay in it that are slow in the end.

## Main definitions

* `sysfsWalk`: the pass of `walk_sysfs`.
* `LargestCache`, `FastCore`: what the pass looks for.
* `DetectsExactly`, `Renumbers`: it finds that, in any numbering.
* `DetectsReadings`: the result comes of what was read.

## Main results

* `sysfsWalk_eq`: the pass collects what is near a maximum, twice.
* `detectsExactly_iff`: when the fast cores are found, in any numbering.
* `detectsReadings_iff`: when nothing but what was read matters.

Source: `daemon/gamemode-cpu.c`, `walk_sysfs` and `game_mode_initialise_cpu`.
-/

namespace GameMode

/-! ### What is read of a core -/

/-- The size of the cache of a core, if it can be read. -/
def cacheOf (l3Size : ℤ → Option CString) (cpu : ℤ) : Option ℕ :=
  (readSmallFile (l3Size cpu)).map cacheSizeOf

/-- The maximum frequency of a core, if it can be read. -/
def freqOf (maxFreq : ℤ → Option CString) (cpu : ℤ) : Option ℕ :=
  (readSmallFile (maxFreq cpu)).map fun text => text.strtoullTen.value.toNat

/-- The cores of a list that can be read, with what is read. -/
def readings (read : ℤ → Option ℕ) (cores : List ℤ) : List (ℤ × ℕ) :=
  cores.filterMap fun cpu => (read cpu).map (Prod.mk cpu)

theorem mem_readings {read : ℤ → Option ℕ} {cores : List ℤ} {r : ℤ × ℕ} :
    r ∈ readings read cores ↔ r.1 ∈ cores ∧ read r.1 = some r.2 := by
  obtain ⟨cpu, value⟩ := r
  simp only [readings, List.mem_filterMap, Option.map_eq_some_iff, Prod.mk.injEq]
  constructor
  · rintro ⟨c, hc, v, hv, rfl, rfl⟩
    exact ⟨hc, hv⟩
  · rintro ⟨hc, hv⟩
    exact ⟨cpu, hc, value, hv, rfl, rfl⟩

/-! ### The pass -/

/-- Ten percent of a frequency, as the code computes it. -/
def cutoff (freq : ℕ) : ℕ := freq * 10 % 2 ^ 64 / 100

/-- The highest frequency that a core of this frequency is near to. -/
def freqUp (freq : ℕ) : ℕ := (freq + cutoff freq) % 2 ^ 64

/-- Frequencies below this one are left behind by a core of this frequency. -/
def freqDown (freq : ℕ) : ℕ := freq - cutoff freq

theorem lt_freqDown {freq : ℕ} (h : 0 < freq) : 0 < freqDown freq := by
  have hcut : freq * 10 % 2 ^ 64 ≤ freq * 10 := Nat.mod_le _ _
  rw [freqDown, cutoff]
  omega

/-- The bits of some cores. -/
def bitsOf (numCpu : ℕ) (cores : Finset ℤ) : Finset ℕ :=
  (Finset.range (cpusetBits numCpu)).filter fun cpu : ℕ => (cpu : ℤ) ∈ cores

theorem mem_bitsOf {numCpu cpu : ℕ} {cores : Finset ℤ} :
    cpu ∈ bitsOf numCpu cores ↔ cpu < cpusetBits numCpu ∧ (cpu : ℤ) ∈ cores := by
  rw [bitsOf, Finset.mem_filter, Finset.mem_range]

theorem bitsOf_empty (numCpu : ℕ) : bitsOf numCpu ∅ = ∅ := by
  ext cpu
  simp [mem_bitsOf]

theorem bitsOf_insert (numCpu : ℕ) (cpu : ℤ) (cores : Finset ℤ) :
    bitsOf numCpu (insert cpu cores) = cpuSet numCpu cpu (bitsOf numCpu cores) := by
  ext cpu'
  rw [mem_cpuSet, mem_bitsOf, mem_bitsOf, Finset.mem_insert, and_or_left, or_comm]

theorem bitsOf_singleton (numCpu : ℕ) (cpu : ℤ) : bitsOf numCpu {cpu} = cpuSet numCpu cpu ∅ := by
  rw [← bitsOf_empty numCpu, ← bitsOf_insert, insert_empty_eq]

/-- The state of the pass of `walk_sysfs`, from the two that collect cores. -/
def walkOf (numCpu : ℕ) (caches freqs : NearMax ℤ ℕ) : SysfsWalk :=
  ⟨caches.max, freqs.max, bitsOf numCpu caches.kept, bitsOf numCpu freqs.kept⟩

section Steps

variable (numCpu : ℕ) (caches freqs : NearMax ℤ ℕ) (cpu : ℤ)

theorem cache_walkOf (size : ℕ) :
    (walkOf numCpu caches freqs).cache numCpu cpu size =
      walkOf numCpu (caches.step id id (cpu, size)) freqs := by
  rcases lt_or_ge caches.max size with h | h
  · rw [NearMax.step_of_lt h]
    simp [SysfsWalk.cache, walkOf, h, bitsOf_singleton]
  · rw [NearMax.step_of_le h]
    have hlt : ¬caches.max < size := not_lt.2 h
    by_cases heq : size = caches.max
    · simp [SysfsWalk.cache, walkOf, heq, bitsOf_insert]
    · have hle : ¬caches.max ≤ size := fun hle => heq (le_antisymm h hle)
      simp [SysfsWalk.cache, walkOf, hlt, heq, hle]

theorem freq_walkOf (freq : ℕ) :
    (walkOf numCpu caches freqs).freq numCpu cpu freq =
      walkOf numCpu caches (freqs.step freqUp freqDown (cpu, freq)) := by
  have hup : (freq + freq * 10 % 2 ^ 64 / 100) % 2 ^ 64 = freqUp freq := rfl
  have hdown : freq - freq * 10 % 2 ^ 64 / 100 = freqDown freq := rfl
  rcases lt_or_ge freqs.max freq with h | h
  · rw [NearMax.step_of_lt h]
    simp only [SysfsWalk.freq, walkOf, h, hup, hdown, if_true]
    split_ifs <;> simp [bitsOf_insert, bitsOf_empty, bitsOf_singleton]
  · rw [NearMax.step_of_le h]
    simp only [SysfsWalk.freq, walkOf, not_lt.2 h, hup, if_false]
    split_ifs <;> simp [bitsOf_insert]

theorem step_walkOf (l3Size maxFreq : ℤ → Option CString) :
    (walkOf numCpu caches freqs).step l3Size maxFreq numCpu cpu =
      walkOf numCpu (caches.run id id (readings (cacheOf l3Size) [cpu]))
        (freqs.run freqUp freqDown (readings (freqOf maxFreq) [cpu])) := by
  rw [SysfsWalk.step]
  cases hcache : readSmallFile (l3Size cpu) <;> cases hfreq : readSmallFile (maxFreq cpu) <;>
    simp [readings, cacheOf, freqOf, hcache, hfreq, NearMax.run, cache_walkOf, freq_walkOf]

end Steps

/-- The pass of `walk_sysfs` over some cores. -/
def sysfsWalk (l3Size maxFreq : ℤ → Option CString) (numCpu : ℕ) (memory : Finset ℕ)
    (cores : List ℤ) : SysfsWalk :=
  cores.foldl (SysfsWalk.step l3Size maxFreq numCpu) ⟨0, 0, ∅, cpuAlloc numCpu memory⟩

/-- The caches that the pass finds. -/
def cachePass (l3Size : ℤ → Option CString) (cores : List ℤ) : NearMax ℤ ℕ :=
  NearMax.run id id ⟨0, ∅⟩ (readings (cacheOf l3Size) cores)

/-- The frequencies that the pass finds. -/
def freqPass (maxFreq : ℤ → Option CString) (memory : Finset ℕ) (cores : List ℤ) : NearMax ℤ ℕ :=
  NearMax.run freqUp freqDown ⟨0, memory.image Nat.cast⟩ (readings (freqOf maxFreq) cores)

/-- **The pass.** It collects what is near a maximum, for the caches and for the frequencies. -/
theorem sysfsWalk_eq (l3Size maxFreq : ℤ → Option CString) (numCpu : ℕ) (memory : Finset ℕ)
    (cores : List ℤ) :
    sysfsWalk l3Size maxFreq numCpu memory cores =
      walkOf numCpu (cachePass l3Size cores) (freqPass maxFreq memory cores) := by
  have hfold : ∀ (cores : List ℤ) (caches freqs : NearMax ℤ ℕ),
      cores.foldl (SysfsWalk.step l3Size maxFreq numCpu) (walkOf numCpu caches freqs) =
        walkOf numCpu (caches.run id id (readings (cacheOf l3Size) cores))
          (freqs.run freqUp freqDown (readings (freqOf maxFreq) cores)) := by
    intro cores
    induction cores with
    | nil => exact fun _ _ => rfl
    | cons cpu cores ih =>
      intro caches freqs
      have happend : ∀ read : ℤ → Option ℕ,
          readings read (cpu :: cores) = readings read [cpu] ++ readings read cores :=
        fun read => List.filterMap_append (l := [cpu])
      rw [List.foldl_cons, step_walkOf, ih, happend, happend]
      simp only [NearMax.run, List.foldl_append]
  have hstart : (⟨0, 0, ∅, cpuAlloc numCpu memory⟩ : SysfsWalk) =
      walkOf numCpu ⟨0, ∅⟩ ⟨0, memory.image Nat.cast⟩ := by
    have hmemory : cpuAlloc numCpu memory = bitsOf numCpu (memory.image Nat.cast) := by
      ext cpu
      simp [cpuAlloc, mem_bitsOf, and_comm]
    rw [walkOf, bitsOf_empty, hmemory]
  rw [sysfsWalk, hstart, hfold]
  rfl

/-! ### What the pass finds -/

/-- The cache of a core is the largest that can be read. -/
def LargestCache (l3Size : ℤ → Option CString) (cores : List ℤ) (cpu : ℤ) : Prop :=
  cpu ∈ cores ∧ ∃ size, cacheOf l3Size cpu = some size ∧
    ∀ c ∈ cores, ∀ s, cacheOf l3Size c = some s → s ≤ size

/-- The frequency of a core, with ten percent added, reaches the highest that can be read. -/
def FastCore (maxFreq : ℤ → Option CString) (cores : List ℤ) (cpu : ℤ) : Prop :=
  cpu ∈ cores ∧ ∃ freq, freqOf maxFreq cpu = some freq ∧
    ∀ c ∈ cores, ∀ f, freqOf maxFreq c = some f → f ≤ freq + freq * 10 / 100

theorem readings_keys (read : ℤ → Option ℕ) (cores : List ℤ) :
    ∀ r ∈ readings read cores, ∀ r' ∈ readings read cores, r.1 = r'.1 → r.2 = r'.2 := by
  intro r hr r' hr' heq
  have hread := (mem_readings.1 hr).2
  rw [heq, (mem_readings.1 hr').2] at hread
  exact (Option.some.inj hread).symm

theorem forall_readings_iff {read : ℤ → Option ℕ} {cores : List ℤ} {p : ℕ → Prop} :
    (∀ r ∈ readings read cores, p r.2) ↔ ∀ c ∈ cores, ∀ v, read c = some v → p v := by
  constructor
  · exact fun h c hc v hv => h (c, v) (mem_readings.2 ⟨hc, hv⟩)
  · exact fun h r hr => h r.1 (mem_readings.1 hr).1 r.2 (mem_readings.1 hr).2

theorem exists_readings_iff {read : ℤ → Option ℕ} {cores : List ℤ} {p : ℤ → ℕ → Prop} :
    (∃ r ∈ readings read cores, p r.1 r.2) ↔ ∃ c ∈ cores, ∃ v, read c = some v ∧ p c v := by
  constructor
  · rintro ⟨r, hr, hp⟩
    exact ⟨r.1, (mem_readings.1 hr).1, r.2, (mem_readings.1 hr).2, hp⟩
  · rintro ⟨c, hc, v, hv, hp⟩
    exact ⟨(c, v), mem_readings.2 ⟨hc, hv⟩, hp⟩

section Found

variable {l3Size maxFreq : ℤ → Option CString} {numCpu : ℕ} {memory : Finset ℕ} {cores : List ℤ}
  {cpu : ℕ}

theorem mem_kept_cachePass (cpu : ℤ) :
    cpu ∈ (cachePass l3Size cores).kept ↔ LargestCache l3Size cores cpu := by
  have hall : ∀ size, NearMax.maxFrom 0 (readings (cacheOf l3Size) cores) ≤ size ↔
      ∀ c ∈ cores, ∀ s, cacheOf l3Size c = some s → s ≤ size := by
    intro size
    rw [NearMax.maxFrom_le_iff, and_iff_right (Nat.zero_le size),
      forall_readings_iff (p := fun s => s ≤ size)]
  rw [cachePass, NearMax.kept_exact_id (readings_keys _ _) rfl,
    exists_readings_iff (p := fun c v => c = cpu ∧
      NearMax.maxFrom 0 (readings (cacheOf l3Size) cores) ≤ v)]
  simp only [hall]
  constructor
  · rintro ⟨c, hc, size, hsize, rfl, hmax⟩
    exact ⟨hc, size, hsize, hmax⟩
  · rintro ⟨hc, size, hsize, hmax⟩
    exact ⟨cpu, hc, size, hsize, rfl, hmax⟩

theorem mem_toKeep_sysfsWalk :
    cpu ∈ (sysfsWalk l3Size maxFreq numCpu memory cores).toKeep ↔
      cpu < cpusetBits numCpu ∧ LargestCache l3Size cores cpu := by
  rw [sysfsWalk_eq, walkOf, mem_bitsOf, mem_kept_cachePass]

theorem mem_freqCores_sysfsWalk :
    cpu ∈ (sysfsWalk l3Size maxFreq numCpu memory cores).freqCores ↔
      cpu < cpusetBits numCpu ∧ (cpu : ℤ) ∈ (freqPass maxFreq memory cores).kept := by
  rw [sysfsWalk_eq, walkOf, mem_bitsOf]

theorem jumps_readings_iff :
    NearMax.Jumps freqDown 0 (readings (freqOf maxFreq) cores) ↔
      ∃ c ∈ cores, ∃ freq, freqOf maxFreq c = some freq ∧ 0 < freq := by
  rw [NearMax.jumps_iff fun _ => lt_freqDown, exists_readings_iff (p := fun _ v => 0 < v)]

end Found

/-! ### The numbering of the cores -/

/-- The loops of `walk_sysfs`, before it chooses between the two sets. -/
def sysfsLoops (l3Size maxFreq : ℤ → Option CString) (numCpu : ℕ) (memory : Finset ℕ)
    (cpulist : CString) : Option SysfsWalk :=
  forCpulist (SysfsWalk.step l3Size maxFreq numCpu) cpulist ⟨0, 0, ∅, cpuAlloc numCpu memory⟩

/-- The choice of `walk_sysfs` between the two sets. -/
theorem walkSysfsLoops_eq_map (l3Size maxFreq : ℤ → Option CString) (numCpu : ℕ)
    (memory : Finset ℕ) (cpulist : CString) (parkOrPin : ParkOrPin) (listed : Finset ℕ) :
    walkSysfsLoops l3Size maxFreq memory cpulist ⟨numCpu, parkOrPin, listed, ∅⟩ =
      (sysfsLoops l3Size maxFreq numCpu memory cpulist).map fun walk =>
        ⟨numCpu, parkOrPin, listed,
          if listed = walk.toKeep ∨ walk.toKeep = ∅ then walk.freqCores else walk.toKeep⟩ := by
  rw [walkSysfsLoops, ← sysfsLoops]
  cases sysfsLoops l3Size maxFreq numCpu memory cpulist with
  | none => rfl
  | some walk =>
    rw [Option.bind_eq_bind, Option.bind_some, Option.map_some]
    simp only [Finset.card_eq_zero]
    split_ifs <;> rfl

/-- A frequency with ten percent added. -/
def plusTenPercent (freq : ℕ) : ℕ := freq + freq * 10 / 100

/-- A frequency less ten percent. -/
def lessTenPercent (freq : ℕ) : ℕ := freq - freq * 10 / 100

/-- No core is left behind by small steps: when its frequency, with ten percent added, reaches the
highest one read up to it but not the highest of all, a frequency follows that exceeds all those
before it by ten percent. -/
def NoneLeftBehind (maxFreq : ℤ → Option CString) (cores : List ℤ) : Prop :=
  ∀ before r after, readings (freqOf maxFreq) cores = before ++ r :: after →
    NearMax.maxFrom 0 (before ++ [r]) ≤ plusTenPercent r.2 →
    NearMax.maxFrom 0 (before ++ r :: after) ≤ plusTenPercent r.2 ∨
      ∃ between r' rest, after = between ++ r' :: rest ∧
        NearMax.maxFrom 0 (before ++ r :: between) < lessTenPercent r'.2

theorem noneLeftBehind_iff {maxFreq : ℤ → Option CString} {cores : List ℤ} :
    NoneLeftBehind maxFreq cores ↔
      NearMax.Settled plusTenPercent lessTenPercent 0 (readings (freqOf maxFreq) cores) := by
  have hmax : ∀ (before between : List (ℤ × ℕ)) (r : ℤ × ℕ),
      NearMax.maxFrom (NearMax.maxFrom 0 (before ++ [r])) between =
        NearMax.maxFrom 0 (before ++ r :: between) := by
    intro before between r
    simp [NearMax.maxFrom, List.foldl_append]
  have hlt : ∀ {m freq : ℕ}, m < lessTenPercent freq → m < freq :=
    fun h => h.trans_le (Nat.sub_le _ _)
  rw [NearMax.settled_iff]
  refine forall₄_congr fun before r after heq => imp_congr_right fun _ => ?_
  rw [or_comm, NearMax.jumps_iff_append, heq]
  refine or_congr_left (exists₃_congr fun between r' rest => and_congr_right fun _ => ?_)
  rw [hmax]
  exact ⟨fun h => ⟨hlt h, h⟩, And.right⟩

instance (maxFreq : ℤ → Option CString) (cores : List ℤ) :
    Decidable (NoneLeftBehind maxFreq cores) :=
  decidable_of_iff _ noneLeftBehind_iff.symm

section Numbering

variable {l3Size maxFreq : ℤ → Option CString} {cores : List ℤ}

theorem fastCore_iff {cpu : ℤ} :
    FastCore maxFreq cores cpu ↔ ∃ r ∈ readings (freqOf maxFreq) cores, r.1 = cpu ∧
      NearMax.maxFrom 0 (readings (freqOf maxFreq) cores) ≤ plusTenPercent r.2 := by
  have hall : ∀ freq, NearMax.maxFrom 0 (readings (freqOf maxFreq) cores) ≤ plusTenPercent freq ↔
      ∀ c ∈ cores, ∀ f, freqOf maxFreq c = some f → f ≤ freq + freq * 10 / 100 := by
    intro freq
    rw [NearMax.maxFrom_le_iff, and_iff_right (Nat.zero_le _),
      forall_readings_iff (p := fun f => f ≤ plusTenPercent freq)]
    rfl
  rw [exists_readings_iff (p := fun c v => c = cpu ∧
    NearMax.maxFrom 0 (readings (freqOf maxFreq) cores) ≤ plusTenPercent v)]
  simp only [hall, FastCore]
  constructor
  · rintro ⟨hcpu, freq, hfreq, hmax⟩
    exact ⟨cpu, hcpu, freq, hfreq, rfl, hmax⟩
  · rintro ⟨c, hc, freq, hfreq, rfl, hmax⟩
    exact ⟨hc, freq, hfreq, hmax⟩

variable (hpos : ∃ c ∈ cores, ∃ freq, freqOf maxFreq c = some freq ∧ 0 < freq)
  (hsmall : ∀ c ∈ cores, ∀ freq, freqOf maxFreq c = some freq → freq * 10 < 2 ^ 64)
include hpos hsmall

/-- The fast cores are found exactly when none is left behind. -/
theorem mem_kept_freqPass_iff (memory : Finset ℕ) :
    (∀ cpu, cpu ∈ (freqPass maxFreq memory cores).kept ↔ FastCore maxFreq cores cpu) ↔
      NoneLeftBehind maxFreq cores := by
  have hmargin : ∀ r ∈ readings (freqOf maxFreq) cores,
      freqUp r.2 = plusTenPercent r.2 ∧ freqDown r.2 = lessTenPercent r.2 := by
    intro r hr
    have hlt := hsmall r.1 (mem_readings.1 hr).1 r.2 (mem_readings.1 hr).2
    rw [freqUp, freqDown, cutoff, Nat.mod_eq_of_lt hlt]
    exact ⟨Nat.mod_eq_of_lt (by omega), rfl⟩
  have hgap : ∀ {a m b : ℕ}, a ≤ m → m < b → m < lessTenPercent b → plusTenPercent a < b := by
    intro a m b ha hm hless
    rw [lessTenPercent] at hless
    rw [plusTenPercent]
    omega
  have hjumps : NearMax.Jumps lessTenPercent 0 (readings (freqOf maxFreq) cores) := by
    obtain ⟨c, hc, freq, hfreq, hlt⟩ := hpos
    refine (NearMax.jumps_iff fun freq (hfreq : 0 < freq) => ?_).2
      ⟨(c, freq), mem_readings.2 ⟨hc, hfreq⟩, hlt⟩
    rw [lessTenPercent]
    omega
  rw [freqPass, NearMax.run_congr hmargin, noneLeftBehind_iff, ← NearMax.kept_exact_iff
    (s := ⟨0, memory.image Nat.cast⟩) hgap (readings_keys _ _) (Or.inr hjumps)]
  exact forall_congr' fun cpu => by rw [fastCore_iff]

end Numbering

/-- The loops find exactly the fast cores, and exactly the cores with the largest cache. -/
def DetectsExactly (l3Size maxFreq : ℤ → Option CString) (cores : List ℤ)
    (walk : Option SysfsWalk) : Prop :=
  ∃ found, walk = some found ∧
    (∀ cpu : ℕ, cpu ∈ found.freqCores ↔ FastCore maxFreq cores cpu) ∧
    ∀ cpu : ℕ, cpu ∈ found.toKeep ↔ LargestCache l3Size cores cpu

/-- The fast cores of `walk'` are those of `walk`, renumbered. -/
def Renumbers (σ : Equiv.Perm ℤ) (walk walk' : Option SysfsWalk) : Prop :=
  ∃ found found', walk = some found ∧ walk' = some found' ∧
    ∀ cpu cpu' : ℕ, σ cpu = cpu' → (cpu ∈ found'.freqCores ↔ cpu' ∈ found.freqCores)

/-- The number of cores that `walk_sysfs` is called with for a list. -/
def numCpuOf (cpulist : CString) : ℕ := (maxCore (cpulistItems cpulist) + 1).toNat

section Exact

variable {l3Size maxFreq : ℤ → Option CString} {memory : Finset ℕ} {cores : List ℤ}
  {cpulist : CString}

theorem sysfsLoops_eq (hfits : CpulistFits cpulist) (numCpu : ℕ) :
    sysfsLoops l3Size maxFreq numCpu memory cpulist =
      some (sysfsWalk l3Size maxFreq numCpu memory (cpulistCores (cpulistItems cpulist))) := by
  rw [sysfsLoops, forCpulist_eq, if_pos hfits, sysfsWalk]

theorem lt_cpusetBits_of_mem {cpu : ℕ} (h : (cpu : ℤ) ∈ cpulistCores (cpulistItems cpulist)) :
    cpu < cpusetBits (numCpuOf cpulist) := by
  obtain ⟨item, hitem, -, hle⟩ := mem_cpulistCores.1 h
  have hmax := hle.trans (le_maxCore hitem)
  rw [cpusetBits, numCpuOf]
  omega

theorem mem_cores_of_mem_kept
    (hpos : ∃ c ∈ cores, ∃ freq, freqOf maxFreq c = some freq ∧ 0 < freq) {cpu : ℤ}
    (h : cpu ∈ (freqPass maxFreq memory cores).kept) : cpu ∈ cores := by
  rw [freqPass, NearMax.mem_kept_run] at h
  rcases h with ⟨-, hnot⟩ | hcollects
  · exact absurd (jumps_readings_iff.2 hpos) hnot
  · obtain ⟨r, hr, rfl⟩ := hcollects.exists_mem
    exact (mem_readings.1 hr).1

variable (l3Size) in
theorem mem_freqCores_iff (hpos : ∃ c ∈ cpulistCores (cpulistItems cpulist), ∃ freq,
    freqOf maxFreq c = some freq ∧ 0 < freq) {cpu : ℕ} :
    cpu ∈ (sysfsWalk l3Size maxFreq (numCpuOf cpulist) memory
        (cpulistCores (cpulistItems cpulist))).freqCores ↔
      (cpu : ℤ) ∈ (freqPass maxFreq memory (cpulistCores (cpulistItems cpulist))).kept := by
  rw [mem_freqCores_sysfsWalk, and_iff_right_iff_imp]
  exact fun hkept => lt_cpusetBits_of_mem (mem_cores_of_mem_kept hpos hkept)

theorem mem_toKeep_iff {cpu : ℕ} :
    cpu ∈ (sysfsWalk l3Size maxFreq (numCpuOf cpulist) memory
        (cpulistCores (cpulistItems cpulist))).toKeep ↔
      LargestCache l3Size (cpulistCores (cpulistItems cpulist)) cpu := by
  rw [mem_toKeep_sysfsWalk, and_iff_right_iff_imp]
  exact fun hlargest => lt_cpusetBits_of_mem hlargest.1

theorem fastCore_comp_iff {σ : Equiv.Perm ℤ} (hσ : ∀ cpu, σ cpu ∈ cores ↔ cpu ∈ cores) {cpu : ℤ} :
    FastCore (maxFreq ∘ σ) cores cpu ↔ FastCore maxFreq cores (σ cpu) := by
  rw [FastCore, FastCore, hσ]
  refine and_congr_right fun _ => exists_congr fun freq => and_congr_right fun _ => ?_
  constructor
  · intro h c hc f hf
    refine h (σ.symm c) ?_ f ?_
    · rwa [← hσ, Equiv.apply_symm_apply]
    · simpa [freqOf] using hf
  · exact fun h c hc f hf => h (σ c) ((hσ c).2 hc) f hf

/-- What the loops find, for every natural core. -/
theorem detectsExactly_iff_mem (hfits : CpulistFits cpulist)
    (hpos : ∃ c ∈ cpulistCores (cpulistItems cpulist), ∃ freq,
      freqOf maxFreq c = some freq ∧ 0 < freq) :
    DetectsExactly l3Size maxFreq (cpulistCores (cpulistItems cpulist))
        (sysfsLoops l3Size maxFreq (numCpuOf cpulist) memory cpulist) ↔
      ∀ cpu : ℕ, (cpu : ℤ) ∈ (freqPass maxFreq memory (cpulistCores (cpulistItems cpulist))).kept ↔
        FastCore maxFreq (cpulistCores (cpulistItems cpulist)) cpu := by
  rw [DetectsExactly, sysfsLoops_eq hfits]
  constructor
  · rintro ⟨found, heq, hfreq, -⟩ cpu
    rw [← mem_freqCores_iff l3Size hpos, Option.some.inj heq, hfreq]
  · refine fun h => ⟨_, rfl, fun cpu => ?_, fun cpu => mem_toKeep_iff⟩
    rw [mem_freqCores_iff l3Size hpos, h]

variable (l3Size memory) in
/-- Without renumbering, the fast cores are found exactly when none is left behind. -/
theorem detectsExactly_iff_noneLeftBehind (hfits : CpulistFits cpulist)
    (hnat : ∀ cpu ∈ cpulistCores (cpulistItems cpulist), 0 ≤ cpu)
    (hpos : ∃ c ∈ cpulistCores (cpulistItems cpulist), ∃ freq,
      freqOf maxFreq c = some freq ∧ 0 < freq)
    (hsmall : ∀ c ∈ cpulistCores (cpulistItems cpulist), ∀ freq,
      freqOf maxFreq c = some freq → freq * 10 < 2 ^ 64) :
    DetectsExactly l3Size maxFreq (cpulistCores (cpulistItems cpulist))
        (sysfsLoops l3Size maxFreq (numCpuOf cpulist) memory cpulist) ↔
      NoneLeftBehind maxFreq (cpulistCores (cpulistItems cpulist)) := by
  rw [detectsExactly_iff_mem hfits hpos, ← mem_kept_freqPass_iff hpos hsmall memory]
  refine ⟨fun h cpu => ?_, fun h cpu => h cpu⟩
  by_cases hcpu : cpu ∈ cpulistCores (cpulistItems cpulist)
  · obtain ⟨n, rfl⟩ := Int.eq_ofNat_of_zero_le (hnat cpu hcpu)
    exact h n
  · exact iff_of_false (fun hkept => hcpu (mem_cores_of_mem_kept hpos hkept))
      fun hfast => hcpu hfast.1

/-- Where the fast cores are found exactly, they are found exactly for another numbering when the
result is renumbered. -/
theorem renumbers_iff (hfits : CpulistFits cpulist)
    (hnat : ∀ cpu ∈ cpulistCores (cpulistItems cpulist), 0 ≤ cpu)
    {σ : Equiv.Perm ℤ} (hσ : ∀ cpu, σ cpu ∈ cpulistCores (cpulistItems cpulist) ↔
      cpu ∈ cpulistCores (cpulistItems cpulist))
    (hpos : ∃ c ∈ cpulistCores (cpulistItems cpulist), ∃ freq,
      freqOf (maxFreq ∘ σ) c = some freq ∧ 0 < freq)
    (h : DetectsExactly l3Size maxFreq (cpulistCores (cpulistItems cpulist))
      (sysfsLoops l3Size maxFreq (numCpuOf cpulist) memory cpulist)) :
    Renumbers σ (sysfsLoops l3Size maxFreq (numCpuOf cpulist) memory cpulist)
        (sysfsLoops l3Size (maxFreq ∘ σ) (numCpuOf cpulist) memory cpulist) ↔
      DetectsExactly l3Size (maxFreq ∘ σ) (cpulistCores (cpulistItems cpulist))
        (sysfsLoops l3Size (maxFreq ∘ σ) (numCpuOf cpulist) memory cpulist) := by
  obtain ⟨found, hfound, hfreq, -⟩ := h
  constructor
  · rintro ⟨_, found', heq, hfound', hrenumber⟩
    obtain rfl := Option.some.inj (hfound.symm.trans heq)
    rw [detectsExactly_iff_mem hfits hpos]
    intro cpu
    rw [sysfsLoops_eq hfits] at hfound'
    rw [← mem_freqCores_iff l3Size hpos, Option.some.inj hfound']
    by_cases hcpu : (cpu : ℤ) ∈ cpulistCores (cpulistItems cpulist)
    · obtain ⟨cpu', hcpu'⟩ := Int.eq_ofNat_of_zero_le (hnat _ ((hσ cpu).2 hcpu))
      rw [hrenumber cpu cpu' hcpu', hfreq, fastCore_comp_iff hσ, hcpu']
    · refine iff_of_false (fun hmem => hcpu ?_) fun hfast => hcpu hfast.1
      rw [← Option.some.inj hfound', mem_freqCores_iff l3Size hpos] at hmem
      exact mem_cores_of_mem_kept hpos hmem
  · rintro ⟨found', hfound', hfreq', -⟩
    refine ⟨found, found', hfound, hfound', fun cpu cpu' hcpu' => ?_⟩
    rw [hfreq', hfreq, fastCore_comp_iff hσ, hcpu']

end Exact

/-- **The numbering of the cores.** Where a frequency is positive and none overflows, the fast cores
are found exactly, and renumbered when the frequencies are, exactly when the list does not end at
`LONG_MAX` and no core is left behind in either numbering. -/
theorem detectsExactly_iff {cpulist : CString}
    (hnat : ∀ cpu ∈ cpulistCores (cpulistItems cpulist), 0 ≤ cpu)
    (l3Size : ℤ → Option CString) {maxFreq : ℤ → Option CString} (memory : Finset ℕ)
    (hpos : ∃ c ∈ cpulistCores (cpulistItems cpulist), ∃ freq,
      freqOf maxFreq c = some freq ∧ 0 < freq)
    (hsmall : ∀ c ∈ cpulistCores (cpulistItems cpulist), ∀ freq,
      freqOf maxFreq c = some freq → freq * 10 < 2 ^ 64)
    {σ : Equiv.Perm ℤ}
    (hσ : ∀ cpu, σ cpu ∈ cpulistCores (cpulistItems cpulist) ↔
      cpu ∈ cpulistCores (cpulistItems cpulist)) :
    DetectsExactly l3Size maxFreq (cpulistCores (cpulistItems cpulist))
        (sysfsLoops l3Size maxFreq (numCpuOf cpulist) memory cpulist) ∧
      Renumbers σ (sysfsLoops l3Size maxFreq (numCpuOf cpulist) memory cpulist)
        (sysfsLoops l3Size (maxFreq ∘ σ) (numCpuOf cpulist) memory cpulist) ↔
    CpulistFits cpulist ∧ NoneLeftBehind maxFreq (cpulistCores (cpulistItems cpulist)) ∧
      NoneLeftBehind (maxFreq ∘ σ) (cpulistCores (cpulistItems cpulist)) := by
  have hpos' : ∃ c ∈ cpulistCores (cpulistItems cpulist), ∃ freq,
      freqOf (maxFreq ∘ σ) c = some freq ∧ 0 < freq := by
    obtain ⟨c, hc, freq, hfreq, hlt⟩ := hpos
    have hback : σ (σ.symm c) = c := Equiv.apply_symm_apply σ c
    refine ⟨σ.symm c, (hσ _).1 (hback.symm ▸ hc), freq, ?_, hlt⟩
    simpa [freqOf] using hfreq
  have hsmall' : ∀ c ∈ cpulistCores (cpulistItems cpulist), ∀ freq,
      freqOf (maxFreq ∘ σ) c = some freq → freq * 10 < 2 ^ 64 :=
    fun c hc freq hfreq => hsmall (σ c) ((hσ c).2 hc) freq hfreq
  by_cases hfits : CpulistFits cpulist
  · rw [and_iff_right hfits,
      ← detectsExactly_iff_noneLeftBehind l3Size memory hfits hnat hpos hsmall,
      ← detectsExactly_iff_noneLeftBehind l3Size memory hfits hnat hpos' hsmall']
    exact and_congr_right fun h => renumbers_iff hfits hnat hσ hpos' h
  · refine iff_of_false (fun h => ?_) fun h => hfits h.1
    obtain ⟨found, hfound, -⟩ := h.1
    rw [sysfsLoops, forCpulist_eq, if_neg hfits] at hfound
    cases hfound

private def fourFreqs (a b c d : CString) (cpu : ℤ) : Option CString :=
  if cpu = 0 then some a else if cpu = 1 then some b else if cpu = 2 then some c else some d

/-- Two cores are slower; the fast ones are found, also when core 0 is fast and core 2 is not. -/
theorem detectsExactly_of_two_kinds :
    DetectsExactly (fun _ => none) (fourFreqs "20".toList "20".toList "30".toList "30".toList)
        [0, 1, 2, 3] (sysfsLoops (fun _ => none)
          (fourFreqs "20".toList "20".toList "30".toList "30".toList) 4 {9} "0-3".toList) ∧
      Renumbers (Equiv.swap 0 2)
        (sysfsLoops (fun _ => none)
          (fourFreqs "20".toList "20".toList "30".toList "30".toList) 4 {9} "0-3".toList)
        (sysfsLoops (fun _ => none)
          (fourFreqs "20".toList "20".toList "30".toList "30".toList ∘ Equiv.swap 0 2) 4 {9}
          "0-3".toList) := by
  have hcores : cpulistCores (cpulistItems "0-3".toList) = [0, 1, 2, 3] := by decide
  have hσ : ∀ cpu : ℤ, Equiv.swap 0 2 cpu ∈ cpulistCores (cpulistItems "0-3".toList) ↔
      cpu ∈ cpulistCores (cpulistItems "0-3".toList) := by
    intro cpu
    rw [hcores]
    by_cases hzero : cpu = 0
    · subst hzero
      decide
    by_cases htwo : cpu = 2
    · subst htwo
      decide
    rw [Equiv.swap_apply_of_ne_of_ne hzero htwo]
  have hpos : ∃ c ∈ cpulistCores (cpulistItems "0-3".toList), ∃ freq,
      freqOf (fourFreqs "20".toList "20".toList "30".toList "30".toList) c = some freq ∧
        0 < freq :=
    ⟨0, by decide, 20, by decide, by decide⟩
  have hiff := detectsExactly_iff (by decide) (fun _ => none) {9} hpos (by decide) hσ
  rw [hcores] at hiff
  exact hiff.2 ⟨by decide, by decide, by decide⟩

/-- The frequencies of four cores grow in steps of ten percent: the slowest core is taken for a fast
one. -/
theorem not_detectsExactly_of_steps :
    ¬DetectsExactly (fun _ => none) (fourFreqs "100".toList "110".toList "121".toList "133".toList)
      (cpulistCores (cpulistItems "0-3".toList)) (sysfsLoops (fun _ => none)
        (fourFreqs "100".toList "110".toList "121".toList "133".toList) (numCpuOf "0-3".toList) ∅
        "0-3".toList) := by
  rw [detectsExactly_iff_noneLeftBehind _ _ (by decide) (by decide)
    ⟨0, by decide, 100, by decide, by decide⟩ (by decide)]
  decide

/-! ### What is not read -/

/-- The caches tell the cores of a list apart. -/
def CachesDiffer (l3Size : ℤ → Option CString) (cores : List ℤ) : Prop :=
  (∃ cpu : ℕ, LargestCache l3Size cores cpu) ∧
    ∃ cpu : ℕ, (cpu : ℤ) ∈ cores ∧ ¬LargestCache l3Size cores cpu

section Walk

variable {l3Size maxFreq : ℤ → Option CString} {memory : Finset ℕ} {cpulist : CString} {cpu : ℕ}

theorem mem_cpusetOf_iff : cpu ∈ cpusetOf (numCpuOf cpulist) (cpulistItems cpulist) ↔
    (cpu : ℤ) ∈ cpulistCores (cpulistItems cpulist) := by
  rw [mem_cpusetOf, ← mem_cpulistCores, and_iff_right_iff_imp]
  exact lt_cpusetBits_of_mem

/-- The cores that `walk_sysfs` keeps of a list, for what `CPU_ALLOC` gives. -/
def walkKeeps (l3Size maxFreq : ℤ → Option CString) (memory : Finset ℕ) (cpulist : CString) :
    Finset ℕ :=
  walkSysfs l3Size maxFreq (numCpuOf cpulist)
    (cpusetOf (numCpuOf cpulist) (cpulistItems cpulist)) (cpuAlloc (numCpuOf cpulist) memory)
    (cpulistItems cpulist)

variable (l3Size maxFreq memory cpulist) in
/-- The set of the caches is kept when it tells the cores apart. -/
theorem walkKeeps_eq [Decidable (CachesDiffer l3Size (cpulistCores (cpulistItems cpulist)))] :
    walkKeeps l3Size maxFreq memory cpulist =
      let walk := sysfsWalk l3Size maxFreq (numCpuOf cpulist) memory
        (cpulistCores (cpulistItems cpulist))
      if CachesDiffer l3Size (cpulistCores (cpulistItems cpulist)) then walk.toKeep
      else walk.freqCores := by
  have hiff : (cpusetOf (numCpuOf cpulist) (cpulistItems cpulist) =
        (sysfsWalk l3Size maxFreq (numCpuOf cpulist) memory
          (cpulistCores (cpulistItems cpulist))).toKeep ∨
      (sysfsWalk l3Size maxFreq (numCpuOf cpulist) memory
        (cpulistCores (cpulistItems cpulist))).toKeep = ∅) ↔
      ¬CachesDiffer l3Size (cpulistCores (cpulistItems cpulist)) := by
    rw [CachesDiffer, not_and_or, or_comm]
    refine or_congr ?_ ?_
    · simp only [Finset.eq_empty_iff_forall_notMem, mem_toKeep_iff, not_exists]
    · simp only [Finset.ext_iff, mem_cpusetOf_iff, mem_toKeep_iff, not_exists, not_and, not_not]
      exact forall_congr' fun cpu => ⟨Iff.mp, fun h => ⟨h, And.left⟩⟩
  rw [walkKeeps, walkSysfs, ← sysfsWalk]
  simp only [hiff, ite_not]

theorem mem_walkKeeps_of_cachesDiffer
    (h : CachesDiffer l3Size (cpulistCores (cpulistItems cpulist))) :
    cpu ∈ walkKeeps l3Size maxFreq memory cpulist ↔
      LargestCache l3Size (cpulistCores (cpulistItems cpulist)) cpu := by
  classical
  rw [walkKeeps_eq]
  simp only [if_pos h, mem_toKeep_iff]

theorem mem_walkKeeps_of_pos
    (h : ¬CachesDiffer l3Size (cpulistCores (cpulistItems cpulist)))
    (hpos : ∃ c ∈ cpulistCores (cpulistItems cpulist), ∃ freq,
      freqOf maxFreq c = some freq ∧ 0 < freq) :
    cpu ∈ walkKeeps l3Size maxFreq memory cpulist ↔ NearMax.Collects freqUp freqDown 0 (cpu : ℤ)
      (readings (freqOf maxFreq) (cpulistCores (cpulistItems cpulist))) := by
  classical
  rw [walkKeeps_eq]
  simp only [if_neg h]
  rw [mem_freqCores_iff l3Size hpos, freqPass, NearMax.mem_kept_run, or_iff_right]
  exact fun hnot => hnot.2 (jumps_readings_iff.2 hpos)

/-- Nothing decides: what was allocated stays. -/
theorem mem_walkKeeps_of_not_pos
    (h : ¬CachesDiffer l3Size (cpulistCores (cpulistItems cpulist)))
    (hpos : ¬∃ c ∈ cpulistCores (cpulistItems cpulist), ∃ freq,
      freqOf maxFreq c = some freq ∧ 0 < freq) :
    cpu ∈ walkKeeps l3Size maxFreq memory cpulist ↔ cpu < cpusetBits (numCpuOf cpulist) ∧
      (cpu ∈ memory ∨ (cpu : ℤ) ∈ cpulistCores (cpulistItems cpulist) ∧
        ∃ freq, freqOf maxFreq cpu = some freq) := by
  classical
  have hzero : ∀ r ∈ readings (freqOf maxFreq) (cpulistCores (cpulistItems cpulist)),
      r.2 ≤ 0 ∧ 0 ≤ freqUp r.2 := by
    refine fun r hr => ⟨not_lt.1 fun hlt => hpos ?_, Nat.zero_le _⟩
    exact ⟨r.1, (mem_readings.1 hr).1, r.2, (mem_readings.1 hr).2, hlt⟩
  rw [walkKeeps_eq]
  simp only [if_neg h]
  rw [mem_freqCores_sysfsWalk, freqPass, NearMax.mem_kept_run, jumps_readings_iff,
    NearMax.collects_iff_of_le hzero, exists_readings_iff (p := fun c _ => c = (cpu : ℤ))]
  refine and_congr_right fun _ => or_congr ?_ ?_
  · simp [hpos]
  · constructor
    · rintro ⟨c, hc, freq, hfreq, rfl⟩
      exact ⟨hc, freq, hfreq⟩
    · rintro ⟨hcpu, freq, hfreq⟩
      exact ⟨cpu, hcpu, freq, hfreq, rfl⟩

end Walk

/-- What `walk_sysfs` leaves, and what comes of it, does not depend on what was allocated. -/
structure DetectsReadings (files : CpuSysfs) (online : Finset ℕ) : Prop where
  walk : ∀ cpulist, readSmallFile (files.online online) = some cpulist →
    maxCore (cpulistItems cpulist) ≠ 0 → ∀ parkOrPin memory memory',
    walkSysfsLoops (files.l3Size online) (files.maxFreq online) memory cpulist
        ⟨numCpuOf cpulist, parkOrPin, cpusetOf (numCpuOf cpulist) (cpulistItems cpulist), ∅⟩ =
      walkSysfsLoops (files.l3Size online) (files.maxFreq online) memory' cpulist
        ⟨numCpuOf cpulist, parkOrPin, cpusetOf (numCpuOf cpulist) (cpulistItems cpulist), ∅⟩
  initialise : ∀ config memory memory',
    gameModeInitialiseCpu files online memory config =
      gameModeInitialiseCpu files online memory' config

/-- Something clears what was allocated, or hides it. -/
def MemoryUnused (files : CpuSysfs) (online : Finset ℕ) : Prop :=
  ∀ cpulist, readSmallFile (files.online online) = some cpulist →
    maxCore (cpulistItems cpulist) ≠ 0 → CpulistFits cpulist →
    CachesDiffer (files.l3Size online) (cpulistCores (cpulistItems cpulist)) ∨
    (∃ c ∈ cpulistCores (cpulistItems cpulist), ∃ freq,
      freqOf (files.maxFreq online) c = some freq ∧ 0 < freq) ∨
    ∀ cpu < cpusetBits (numCpuOf cpulist), (cpu : ℤ) ∈ cpulistCores (cpulistItems cpulist) ∧
      ∃ freq, freqOf (files.maxFreq online) cpu = some freq

section Readings

variable {files : CpuSysfs} {online : Finset ℕ} {cpulist : CString}

theorem walkKeeps_eq_iff (l3Size maxFreq : ℤ → Option CString) :
    (∀ memory memory', walkKeeps l3Size maxFreq memory cpulist =
        walkKeeps l3Size maxFreq memory' cpulist) ↔
      CachesDiffer l3Size (cpulistCores (cpulistItems cpulist)) ∨
      (∃ c ∈ cpulistCores (cpulistItems cpulist), ∃ freq,
        freqOf maxFreq c = some freq ∧ 0 < freq) ∨
      ∀ cpu < cpusetBits (numCpuOf cpulist), (cpu : ℤ) ∈ cpulistCores (cpulistItems cpulist) ∧
        ∃ freq, freqOf maxFreq cpu = some freq := by
  by_cases hcaches : CachesDiffer l3Size (cpulistCores (cpulistItems cpulist))
  · refine iff_of_true (fun memory memory' => ?_) (Or.inl hcaches)
    ext cpu
    rw [mem_walkKeeps_of_cachesDiffer hcaches, mem_walkKeeps_of_cachesDiffer hcaches]
  by_cases hpos : ∃ c ∈ cpulistCores (cpulistItems cpulist), ∃ freq,
      freqOf maxFreq c = some freq ∧ 0 < freq
  · refine iff_of_true (fun memory memory' => ?_) (Or.inr (Or.inl hpos))
    ext cpu
    rw [mem_walkKeeps_of_pos hcaches hpos, mem_walkKeeps_of_pos hcaches hpos]
  rw [or_iff_right hcaches, or_iff_right hpos]
  simp only [Finset.ext_iff, mem_walkKeeps_of_not_pos hcaches hpos]
  constructor
  · intro h cpu hcpu
    have hboth := (h {cpu} ∅ cpu).1 ⟨hcpu, Or.inl (Finset.mem_singleton_self cpu)⟩
    exact hboth.2.resolve_left (Finset.notMem_empty cpu)
  · intro h memory memory' cpu
    exact and_congr_right fun hcpu => iff_of_true (Or.inr (h cpu hcpu)) (Or.inr (h cpu hcpu))

theorem walkSysfsLoops_eq_walkKeeps (hfits : CpulistFits cpulist)
    (l3Size maxFreq : ℤ → Option CString) (memory : Finset ℕ) (parkOrPin : ParkOrPin) :
    walkSysfsLoops l3Size maxFreq memory cpulist
        ⟨numCpuOf cpulist, parkOrPin, cpusetOf (numCpuOf cpulist) (cpulistItems cpulist), ∅⟩ =
      some ⟨numCpuOf cpulist, parkOrPin, cpusetOf (numCpuOf cpulist) (cpulistItems cpulist),
        walkKeeps l3Size maxFreq memory cpulist⟩ :=
  walkSysfsLoops_eq hfits l3Size maxFreq memory (numCpuOf cpulist) parkOrPin _

/-- Only `walk_sysfs` uses the memory as it is. -/
theorem gameModeInitialiseCpu_congr {config : Config} {memory memory' : CpuMemory}
    (h : ∀ cpulist, readSmallFile (files.online online) = some cpulist →
      maxCore (cpulistItems cpulist) ≠ 0 → CpulistFits cpulist →
      walkKeeps (files.l3Size online) (files.maxFreq online) memory.freqCores cpulist =
        walkKeeps (files.l3Size online) (files.maxFreq online) memory'.freqCores cpulist) :
    gameModeInitialiseCpu files online memory config =
      gameModeInitialiseCpu files online memory' config := by
  by_cases hfit : CpuListsFit files online config
  · rw [gameModeInitialiseCpu_eq memory hfit, gameModeInitialiseCpu_eq memory' hfit,
      initialiseCpu, initialiseCpu, CpuSysfs.numCpu]
    cases hmode : parkOrPinOf (config.string .cpuParkCores) (config.string .cpuPinCores) with
    | none => rfl
    | some mode =>
      obtain ⟨parkOrPin, cores⟩ := mode
      cases hread : readSmallFile (files.online online) with
      | none => rfl
      | some buf =>
        by_cases hmax : maxCore (cpulistItems buf) = 0
        · simp only [hmax, if_true]
        · have hkeeps := h buf hread hmax (hfit parkOrPin cores hmode buf hread hmax).1
          simp only [walkKeeps, numCpuOf] at hkeeps
          simp only [hkeeps]
  · rw [gameModeInitialiseCpu_eq_none memory hfit, gameModeInitialiseCpu_eq_none memory' hfit]

end Readings

/-- **Only what was read.** What was allocated does not matter exactly when the caches differ, a
frequency is positive, or every bit is that of a core with a frequency. -/
theorem detectsReadings_iff (files : CpuSysfs) (online : Finset ℕ) :
    DetectsReadings files online ↔ MemoryUnused files online := by
  constructor
  · intro h cpulist hread hmax hfits
    rw [← walkKeeps_eq_iff]
    intro memory memory'
    have hwalk := h.walk cpulist hread hmax .pin memory memory'
    rw [walkSysfsLoops_eq_walkKeeps hfits, walkSysfsLoops_eq_walkKeeps hfits] at hwalk
    exact (GameModeCPUInfo.mk.inj (Option.some.inj hwalk)).2.2.2
  · intro h
    have hkeeps : ∀ cpulist, readSmallFile (files.online online) = some cpulist →
        maxCore (cpulistItems cpulist) ≠ 0 → CpulistFits cpulist → ∀ memory memory',
        walkKeeps (files.l3Size online) (files.maxFreq online) memory cpulist =
          walkKeeps (files.l3Size online) (files.maxFreq online) memory' cpulist :=
      fun cpulist hread hmax hfits => (walkKeeps_eq_iff _ _).2 (h cpulist hread hmax hfits)
    refine ⟨fun cpulist hread hmax parkOrPin memory memory' => ?_, fun config memory memory' => ?_⟩
    · by_cases hfits : CpulistFits cpulist
      · rw [walkSysfsLoops_eq_walkKeeps hfits, walkSysfsLoops_eq_walkKeeps hfits,
          hkeeps cpulist hread hmax hfits memory memory']
      · rw [walkSysfsLoops_eq_map, walkSysfsLoops_eq_map, sysfsLoops, sysfsLoops, forCpulist_eq,
          forCpulist_eq, if_neg hfits, if_neg hfits]
    · exact gameModeInitialiseCpu_congr fun cpulist hread hmax hfits =>
        hkeeps cpulist hread hmax hfits _ _

private def filesWithoutReadings : CpuSysfs :=
  { CpuSysfs.unreadable with online := fun _ => some "0-7\n".toList }

/-- Nothing can be read of eight cores: the game is pinned to the cores whose bits the memory
happens to have, one of which does not exist, or it is not pinned. -/
theorem not_detectsReadings_of_nothing :
    ((gameModeInitialiseCpu filesWithoutReadings ∅ ⟨∅, ∅, {1, 2, 4, 9}⟩ Config.initial).map
        fun result => (result.1, result.2.map GameModeCPUInfo.toKeep)) =
        some (0, some {1, 2, 4, 9}) ∧
      gameModeInitialiseCpu filesWithoutReadings ∅ ⟨∅, ∅, ∅⟩ Config.initial = some (-1, none) ∧
      ¬DetectsReadings filesWithoutReadings ∅ := by
  have hgarbage : ((gameModeInitialiseCpu filesWithoutReadings ∅ ⟨∅, ∅, {1, 2, 4, 9}⟩
      Config.initial).map fun result => (result.1, result.2.map GameModeCPUInfo.toKeep)) =
        some (0, some {1, 2, 4, 9}) := by
    decide
  have hclear : gameModeInitialiseCpu filesWithoutReadings ∅ ⟨∅, ∅, ∅⟩ Config.initial =
      some (-1, none) := by
    decide
  refine ⟨hgarbage, hclear, fun h => ?_⟩
  rw [h.initialise Config.initial _ ⟨∅, ∅, ∅⟩, hclear] at hgarbage
  cases hgarbage

end GameMode
