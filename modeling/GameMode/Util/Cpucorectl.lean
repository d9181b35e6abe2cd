import GameMode.Daemon.Cpu
import GameMode.Library.Ranges

/-!
# Lists of cores on their way to the helper

The daemon passes the cores that it parks to the helper `cpucorectl` as a text: ranges of
consecutive cores, separated by commas. The loop that writes it carries the range at hand, and a
range is written when the next core does not continue it. The helper reads the text with the parser
of `common-cpu.c` and writes the state of one core after the other.

The buffer has `ARG_MAX` bytes. It is not cleared, and the text ends where the last call of
`snprintf` ends it.

## Main definitions

* `logState`, `parkStep`, `cpulistText`: the text that the daemon writes.
* `parkArgs`, `unparkArgs`: the command lines.
* `setState`: what the helper does with a text.
* `renderCpulist`: the text of a list of ranges.

## Main results

* `cpulistText_eq`: the daemon writes the ranges of the cores to be parked.
* `setState_renderCpulist`: the helper visits the cores of the ranges.

Source: `daemon/gamemode-cpu.c`, `log_state` to `game_mode_unpark_cpu`; `util/cpucorectl.c`.
-/

namespace GameMode

/-! ### The daemon -/

/-- `ARG_MAX`. -/
def argMax : ℕ := 131072

/-- `cpulist` and `pos`: the text in the buffer, and where the next part is written. -/
structure CpulistBuffer where
  /-- The text. -/
  text : CString
  /-- Where the next part is written. -/
  pos : ℕ
  deriving DecidableEq

/-- `snprintf(cpulist + *pos, ARG_MAX - (size_t)*pos, ...)` with the check of its result: a part
that does not fit is cut, and the position stays. -/
def CpulistBuffer.print (part : CString) (buffer : CpulistBuffer) : Bool × CpulistBuffer :=
  let text := buffer.text.take buffer.pos ++ part.truncate (argMax - buffer.pos)
  if part.length < argMax - buffer.pos then (true, ⟨text, buffer.pos + part.length⟩)
  else (false, ⟨text, buffer.pos⟩)

/-- The text of a range. -/
def rangeText (first last : ℤ) : CString :=
  if first = last then CString.decimal first
  else CString.decimal first ++ '-' :: CString.decimal last

/-- `log_state`. -/
def logState (first last : ℤ) (buffer : CpulistBuffer) : Bool × CpulistBuffer :=
  let comma := if buffer.pos ≠ 0 then buffer.print [','] else (true, buffer)
  if ¬comma.1 then (false, comma.2) else comma.2.print (rangeText first last)

/-- What the loop of `game_mode_park_cpu` carries from core to core. -/
structure ParkWalk where
  /-- The first core of the range at hand, `-1` before there is one. -/
  first : ℤ
  /-- The last core of the range at hand. -/
  last : ℤ
  /-- The buffer. -/
  buffer : CpulistBuffer
  deriving DecidableEq

/-- The body of the loop for a core that is listed; `none` when the text does not fit. -/
def ParkWalk.list (walk : ParkWalk) (cpu : ℕ) : Option ParkWalk :=
  if walk.first = -1 then some { walk with first := cpu, last := cpu }
  else if walk.last + 1 = cpu then some { walk with last := cpu }
  else
    let logged := logState walk.first walk.last walk.buffer
    if logged.1 then some ⟨cpu, cpu, logged.2⟩ else none

/-- A core is online and not for the games. -/
def GameModeCPUInfo.isListed (info : GameModeCPUInfo) (cpu : ℕ) : Bool :=
  cpu ∈ info.online ∧ cpu ∉ info.toKeep

/-- The body of the loop. -/
def parkStep (info : GameModeCPUInfo) (walk : ParkWalk) (cpu : ℕ) : Option ParkWalk :=
  if info.isListed cpu then walk.list cpu else some walk

/-- The list of cores that is passed to the helper, `none` when the loop gives up: `garbage` is what
the buffer holds at first. The result of the last call of `log_state` is not looked at. -/
def cpulistText (garbage : CString) (info : GameModeCPUInfo) : Option CString :=
  match (List.range info.numCpu).foldlM (parkStep info) ⟨-1, -1, ⟨garbage, 0⟩⟩ with
  | none => none
  | some walk =>
    some
      (if walk.first ≠ -1 then (logState walk.first walk.last walk.buffer).2.text
      else walk.buffer.text)

/-- The command line of the helper, `none` when it is not called. -/
def corectlArgs (verb garbage : CString) (info : Option GameModeCPUInfo) : Option (List CString) :=
  match info with
  | none => none
  | some info =>
    if info.parkOrPin = .pin then none
    else (cpulistText garbage info).map fun text =>
      ["pkexec".toList, "cpucorectl".toList, verb, text]

/-- The command line of `game_mode_park_cpu`. -/
def parkArgs : CString → Option GameModeCPUInfo → Option (List CString) :=
  corectlArgs "offline".toList

/-- The command line of `game_mode_unpark_cpu`. -/
def unparkArgs : CString → Option GameModeCPUInfo → Option (List CString) :=
  corectlArgs "online".toList

/-! ### The helper -/

/-- What the helper has done: the cores whose files it has tried to write, in order, and the cores
that are online. -/
structure Corectl where
  /-- The cores whose files it has tried to write. -/
  visited : List ℤ
  /-- The cores that are online. -/
  online : Finset ℕ

section Helper

variable (writable : ℕ → Bool) (state : Char)

/-- `write_state` for the file of a core, where `writable` says which files can be written: whether
it succeeded, and what was done. -/
def Corectl.writeState (cpu : ℤ) (c : Corectl) : Bool × Corectl :=
  let visited := c.visited ++ [cpu]
  if 0 ≤ cpu ∧ writable cpu.toNat then
    (true, ⟨visited, if state = '1' then insert cpu.toNat c.online
      else c.online.erase cpu.toNat⟩)
  else (false, ⟨visited, c.online⟩)

/-- The inner loop of `set_state`, `false` when it returns: a core other than core 0 that cannot be
parked ends it. -/
def setCores : List ℤ → Corectl → Bool × Corectl
  | [], c => (true, c)
  | cpu :: cpus, c =>
    let written := c.writeState writable state cpu
    if ¬written.1 ∧ cpu ≠ 0 ∧ state = '0' then (false, written.2) else setCores cpus written.2

/-- The loop of `set_state` in at most `fuel` rounds: the result, the text that is left, and what
was done. -/
def setStateFuel : ℕ → CString → Corectl → ℤ × CString × Corectl
  | 0, list, c => (1, list, c)
  | fuel + 1, list, c =>
    match parseCpulist list with
    | none => (1, list, c)
    | some (lo, hi, rest) =>
      let done := setCores writable state (cpulistCores [(lo, hi)]) c
      if done.1 then setStateFuel fuel rest done.2 else (-1, rest, done.2)

/-- `set_state`: every round consumes at least one character. -/
def setState (cpulist : CString) (c : Corectl) : ℤ × CString × Corectl :=
  setStateFuel writable state cpulist.length cpulist c

end Helper

/-- The state that `main` takes from the first argument. -/
def corectlState (verb : CString) : Option Char :=
  if verb.take 6 = "online".toList then some '1'
  else if verb.take 7 = "offline".toList then some '0'
  else none

/-- `main` with two arguments, for a root user: whether it exits with success, and what was done. -/
def cpucorectl (writable : ℕ → Bool) (verb cpulist : CString) (c : Corectl) : Bool × Corectl :=
  match corectlState verb with
  | none => (false, c)
  | some state =>
    let done := setState writable state cpulist c
    (done.1 ≠ 0, done.2.2)

/-! ### The text of the ranges -/

/-- The text of a list of ranges. -/
def renderCpulist : List (ℕ × ℕ) → CString
  | [] => []
  | range :: ranges =>
    rangeText range.1 range.2 ++ ranges.flatMap fun range => ',' :: rangeText range.1 range.2

/-- The cores that are listed, in order. -/
def GameModeCPUInfo.listedCores (info : GameModeCPUInfo) : List ℕ :=
  (List.range info.numCpu).filter info.isListed

theorem rangeText_ne_nil (first last : ℤ) : rangeText first last ≠ [] := by
  rw [rangeText]
  split_ifs
  · exact CString.decimal_ne_nil first
  · exact List.append_ne_nil_of_left_ne_nil (CString.decimal_ne_nil first) _

theorem renderCpulist_concat {ranges : List (ℕ × ℕ)} (h : ranges ≠ []) (range : ℕ × ℕ) :
    renderCpulist (ranges ++ [range]) =
      renderCpulist ranges ++ ',' :: rangeText range.1 range.2 := by
  obtain ⟨first, ranges, rfl⟩ := List.exists_cons_of_ne_nil h
  simp [renderCpulist]

theorem renderCpulist_eq_nil_iff {ranges : List (ℕ × ℕ)} :
    renderCpulist ranges = [] ↔ ranges = [] := by
  cases ranges with
  | nil => simp [renderCpulist]
  | cons range ranges => simp [renderCpulist, rangeText_ne_nil]

/-- The buffer holds the text of the ranges. -/
structure CpulistBuffer.Holds (ranges : List (ℕ × ℕ)) (buffer : CpulistBuffer) : Prop where
  take_text : buffer.text.take buffer.pos = renderCpulist ranges
  pos : buffer.pos = (renderCpulist ranges).length

namespace CpulistBuffer

variable {ranges : List (ℕ × ℕ)} {buffer : CpulistBuffer}

theorem print_eq {part : CString} (h : part.length < argMax - buffer.pos) :
    buffer.print part =
      (true, ⟨buffer.text.take buffer.pos ++ part, buffer.pos + part.length⟩) := by
  simp only [print, if_pos h, CString.truncate_of_length_lt h]

theorem logState_of_pos_eq_zero (h : buffer.pos = 0) (first last : ℤ) :
    logState first last buffer = buffer.print (rangeText first last) := by
  simp [logState, h]

theorem logState_of_print {comma : CpulistBuffer} (hpos : buffer.pos ≠ 0)
    (h : buffer.print [','] = (true, comma)) (first last : ℤ) :
    logState first last buffer = comma.print (rangeText first last) := by
  simp [logState, hpos, h]

/-- A range that fits is written after the ranges before. -/
theorem Holds.logState (h : buffer.Holds ranges) {range : ℕ × ℕ}
    (hfits : (renderCpulist (ranges ++ [range])).length < argMax) :
    logState range.1 range.2 buffer =
      (true, ⟨renderCpulist (ranges ++ [range]), (renderCpulist (ranges ++ [range])).length⟩) := by
  obtain ⟨htext, hpos⟩ := h
  by_cases hranges : ranges = []
  · subst hranges
    have hzero : buffer.pos = 0 := hpos
    have hrender : renderCpulist ([] ++ [range]) = rangeText range.1 range.2 := by
      simp [renderCpulist]
    rw [hrender] at hfits ⊢
    rw [logState_of_pos_eq_zero hzero, print_eq (by omega), hzero, List.take_zero, List.nil_append,
      zero_add]
  · have hne : buffer.pos ≠ 0 := by
      rw [hpos, Ne, List.length_eq_zero_iff, renderCpulist_eq_nil_iff]
      exact hranges
    rw [renderCpulist_concat hranges] at hfits ⊢
    rw [List.length_append, List.length_cons, ← hpos] at hfits
    have hcomma := @print_eq buffer [','] (by rw [List.length_singleton]; omega)
    rw [htext, List.length_singleton] at hcomma
    have hlength : (renderCpulist ranges ++ [',']).length = buffer.pos + 1 := by
      rw [List.length_append, List.length_singleton, hpos]
    have hrange := @print_eq ⟨renderCpulist ranges ++ [','], buffer.pos + 1⟩
      (rangeText range.1 range.2) (by simp only; omega)
    simp only [← hlength, List.take_length, List.append_assoc] at hrange hcomma
    rw [logState_of_print hne hcomma, hrange]
    simp only [List.cons_append, List.nil_append, List.length_append, List.length_cons,
      List.length_nil, Prod.mk.injEq, CpulistBuffer.mk.injEq, true_and]
    omega

theorem holds_renderCpulist (ranges : List (ℕ × ℕ)) :
    Holds ranges ⟨renderCpulist ranges, (renderCpulist ranges).length⟩ :=
  ⟨List.take_length, rfl⟩

end CpulistBuffer

/-! ### The loop of the daemon -/

theorem list_of_range {first last cpu : ℕ} {buffer : CpulistBuffer} :
    ParkWalk.list ⟨first, last, buffer⟩ cpu =
      if last + 1 = cpu then some ⟨first, cpu, buffer⟩
      else
        let logged := logState first last buffer
        if logged.1 then some ⟨cpu, cpu, logged.2⟩ else none := by
  have hfirst : (first : ℤ) ≠ -1 := by omega
  have hnext : (last : ℤ) + 1 = cpu ↔ last + 1 = cpu := by omega
  simp only [ParkWalk.list, hfirst, if_false, hnext]

theorem renderCpulist_length_le (ranges ranges' : List (ℕ × ℕ)) :
    (renderCpulist ranges).length ≤ (renderCpulist (ranges ++ ranges')).length := by
  cases ranges with
  | nil => exact Nat.zero_le _
  | cons range ranges => simp [renderCpulist]

/-- **The loop.** From a range on, the loop writes the ranges of the cores before the last one, and
keeps the last one at hand. -/
theorem foldlM_list (cpus : List ℕ) :
    ∀ {first last : ℕ} {ranges : List (ℕ × ℕ)} {buffer : CpulistBuffer}, buffer.Holds ranges →
      (renderCpulist (ranges ++ Ranges.ofListFrom (first, last) cpus)).length < argMax →
      ∃ (ranges' : List (ℕ × ℕ)) (range : ℕ × ℕ) (buffer' : CpulistBuffer),
        cpus.foldlM ParkWalk.list ⟨first, last, buffer⟩ =
          some ⟨range.1, range.2, buffer'⟩ ∧ buffer'.Holds ranges' ∧
        ranges' ++ [range] = ranges ++ Ranges.ofListFrom (first, last) cpus := by
  induction cpus with
  | nil =>
    intro first last ranges buffer hbuffer _
    exact ⟨ranges, (first, last), buffer, rfl, hbuffer, rfl⟩
  | cons cpu cpus ih =>
    intro first last ranges buffer hbuffer hfits
    rw [List.foldlM_cons, list_of_range]
    rw [Ranges.ofListFrom] at hfits ⊢
    split_ifs at hfits ⊢ with hnext
    · exact ih hbuffer hfits
    · rw [List.append_cons] at hfits ⊢
      have hrange : (renderCpulist (ranges ++ [(first, last)])).length < argMax :=
        (renderCpulist_length_le _ _).trans_lt hfits
      simp only [hbuffer.logState hrange]
      exact ih (CpulistBuffer.holds_renderCpulist _) hfits

/-- The daemon writes the ranges of the cores that are listed, whatever the buffer held. -/
theorem cpulistText_eq {info : GameModeCPUInfo} (hne : info.listedCores ≠ [])
    (hfits : (renderCpulist (Ranges.ofList info.listedCores)).length < argMax)
    (garbage : CString) :
    cpulistText garbage info = some (renderCpulist (Ranges.ofList info.listedCores)) := by
  obtain ⟨cpu, cpus, hcores⟩ := List.exists_cons_of_ne_nil hne
  have hloop : (List.range info.numCpu).foldlM (parkStep info) ⟨-1, -1, ⟨garbage, 0⟩⟩ =
      info.listedCores.foldlM ParkWalk.list ⟨-1, -1, ⟨garbage, 0⟩⟩ :=
    List.foldlM_filter.symm
  have hfirst : ParkWalk.list ⟨-1, -1, ⟨garbage, 0⟩⟩ cpu = some ⟨cpu, cpu, ⟨garbage, 0⟩⟩ := rfl
  rw [hcores, Ranges.ofList] at hfits
  obtain ⟨ranges, range, buffer, hwalk, hbuffer, hranges⟩ :=
    @foldlM_list cpus cpu cpu [] ⟨garbage, 0⟩ ⟨rfl, rfl⟩ hfits
  rw [List.nil_append] at hranges
  rw [← hranges] at hfits
  have hsome : (range.1 : ℤ) ≠ -1 := by omega
  rw [cpulistText, hloop, hcores, List.foldlM_cons, hfirst]
  simp only [Option.bind_eq_bind, Option.bind_some, hwalk, ne_eq, hsome, not_false_eq_true,
    if_true, hbuffer.logState hfits, Ranges.ofList, hranges]

/-! ### The parser of the helper -/

/-- The parser reads a range, up to the comma after it or to the end. -/
theorem parseCpulist_rangeText {first last : ℕ} (hle : first ≤ last)
    (hmax : (last : ℤ) ≤ CString.longMax) {tail rest : CString}
    (htail : tail = [] ∧ rest = [] ∨ tail = ',' :: rest) :
    parseCpulist (rangeText first last ++ tail) = some ((first : ℤ), (last : ℤ), rest) := by
  have hstrtol : ∀ (n : ℕ) (s : CString), (n : ℤ) ≤ CString.longMax →
      (∀ c ∈ s.head?, c.isDigit = false) →
      (CString.decimal n ++ s).strtol = ⟨n, s, false⟩ := by
    intro n s hn hs
    have hmin : CString.longMin ≤ n := by
      rw [CString.longMin]
      omega
    exact @CString.strtol_decimal_append n ⟨hmin, hn⟩ [] s (List.forall_mem_nil _) hs
  have htailDigit : ∀ c ∈ tail.head?, c.isDigit = false := by
    rcases htail with ⟨rfl, -⟩ | rfl <;> simp
  have hne : ∀ (n : ℕ) (s : CString), s ≠ CString.decimal n ++ s := by
    intro n s heq
    exact CString.decimal_ne_nil n (List.self_eq_append_left.1 heq)
  have hnil : ∀ (n : ℕ) (s : CString), CString.decimal n ++ s ≠ [] := fun n s =>
    List.append_ne_nil_of_left_ne_nil (CString.decimal_ne_nil n) s
  by_cases heq : first = last
  · subst heq
    have hfirst := hstrtol first tail hmax htailDigit
    rw [rangeText, if_pos rfl, parseCpulist, if_neg (hnil first tail)]
    simp only [hfirst, if_neg (hne first tail)]
    rcases htail with ⟨rfl, rfl⟩ | rfl <;> rfl
  · have hlt : ¬(last : ℤ) < first := by omega
    have hfirst := hstrtol first ('-' :: (CString.decimal last ++ tail)) (by omega) (by simp)
    have hlast := hstrtol last tail hmax htailDigit
    rw [rangeText, if_neg (by omega), List.append_assoc, List.cons_append, parseCpulist,
      if_neg (hnil first _)]
    simp only [hfirst, hlast, if_neg (hne first _), if_neg (hne last _), if_neg hlt]
    rcases htail with ⟨rfl, rfl⟩ | rfl <;> rfl

theorem parseCpulist_renderCpulist {range : ℕ × ℕ} (hle : range.1 ≤ range.2)
    (hmax : (range.2 : ℤ) ≤ CString.longMax) (ranges : List (ℕ × ℕ)) :
    parseCpulist (renderCpulist (range :: ranges)) =
      some ((range.1 : ℤ), (range.2 : ℤ), renderCpulist ranges) := by
  refine parseCpulist_rangeText hle hmax ?_
  cases ranges with
  | nil => exact Or.inl ⟨rfl, rfl⟩
  | cons range ranges => exact Or.inr rfl

theorem cpulistCores_range (range : ℕ × ℕ) :
    cpulistCores [((range.1 : ℤ), (range.2 : ℤ))] = (Ranges.expand range).map Nat.cast := by
  have hlength : ((range.2 : ℤ) + 1 - range.1).toNat = range.2 + 1 - range.1 := by omega
  rw [cpulistCores, List.flatMap_singleton, hlength, Ranges.expand, List.range'_eq_map_range,
    List.map_map, List.bind_eq_flatMap, List.map_flatMap, List.map_eq_flatMap]
  simp

/-! ### The loops of the helper -/

section SetState

variable (writable : ℕ → Bool) (state : Char)

/-- What the helper has done after it has written the state of some cores. -/
def Corectl.after (cpus : List ℕ) (c : Corectl) : Corectl where
  visited := c.visited ++ cpus.map Nat.cast
  online :=
    if state = '1' then c.online ∪ (cpus.filter writable).toFinset
    else c.online \ (cpus.filter writable).toFinset

/-- A core that can be written, or whose failure is passed over. -/
def Visits (cpu : ℕ) : Prop := writable cpu = true ∨ cpu = 0 ∨ state ≠ '0'

variable {writable state}

@[simp] theorem Corectl.after_nil (c : Corectl) : c.after writable state [] = c := by
  by_cases hstate : state = '1' <;> simp [after, hstate]

theorem Corectl.after_append (cpus cpus' : List ℕ) (c : Corectl) :
    (c.after writable state cpus).after writable state cpus' =
      c.after writable state (cpus ++ cpus') := by
  by_cases hstate : state = '1'
  · simp [after, hstate, Finset.union_assoc]
  · simp [after, hstate, Finset.sdiff_union_distrib, sdiff_sdiff_left]

theorem Corectl.writeState_eq (cpu : ℕ) (c : Corectl) :
    c.writeState writable state cpu = (writable cpu, c.after writable state [cpu]) := by
  have hnonneg : (0 : ℤ) ≤ cpu := Int.natCast_nonneg cpu
  cases hwritable : writable cpu with
  | false => simp [writeState, after, hwritable]
  | true =>
    by_cases hstate : state = '1'
    · simp [writeState, after, hwritable, hnonneg, hstate]
    · simp [writeState, after, hwritable, hnonneg, hstate, Finset.erase_eq]

theorem setCores_eq (cpus : List ℕ) (c : Corectl) (h : ∀ cpu ∈ cpus, Visits writable state cpu) :
    setCores writable state (cpus.map Nat.cast) c = (true, c.after writable state cpus) := by
  induction cpus generalizing c with
  | nil => rw [Corectl.after_nil, List.map_nil, setCores]
  | cons cpu cpus ih =>
    obtain ⟨hcpu, hcpus⟩ := List.forall_mem_cons.1 h
    have hgoes : ¬(¬(writable cpu = true) ∧ (cpu : ℤ) ≠ 0 ∧ state = '0') := by
      rintro ⟨hnot, hzero, hstate⟩
      rcases hcpu with h | h | h
      · exact hnot h
      · exact hzero (Int.natCast_eq_zero.2 h)
      · exact h hstate
    rw [List.map_cons, setCores]
    simp only [Corectl.writeState_eq, if_neg hgoes]
    rw [ih _ hcpus, Corectl.after_append, List.singleton_append]

private theorem setStateFuel_renderCpulist (ranges : List (ℕ × ℕ)) :
    ∀ (fuel : ℕ) (c : Corectl), (renderCpulist ranges).length ≤ fuel →
      (∀ range ∈ ranges, range.1 ≤ range.2 ∧ (range.2 : ℤ) ≤ CString.longMax) →
      (∀ cpu ∈ ranges.flatMap Ranges.expand, Visits writable state cpu) →
      setStateFuel writable state fuel (renderCpulist ranges) c =
        (1, [], c.after writable state (ranges.flatMap Ranges.expand)) := by
  induction ranges with
  | nil =>
    intro fuel c _ _ _
    rw [List.flatMap_nil, Corectl.after_nil]
    cases fuel <;> rfl
  | cons range ranges ih =>
    intro fuel c hfuel hranges hvisits
    obtain ⟨hrange, hranges⟩ := List.forall_mem_cons.1 hranges
    rw [List.flatMap_cons, List.forall_mem_append] at hvisits
    have hparse := parseCpulist_renderCpulist hrange.1 hrange.2 ranges
    have hlt := length_of_parseCpulist hparse
    obtain ⟨fuel, rfl⟩ : ∃ n, fuel = n + 1 := Nat.exists_eq_add_one.2 (by omega)
    have hcores := setCores_eq (Ranges.expand range) c hvisits.1
    simp only [setStateFuel, hparse, cpulistCores_range, hcores, if_true]
    rw [ih fuel _ (by omega) hranges hvisits.2, Corectl.after_append, List.flatMap_cons]

/-- The inner loop visits the cores in order, all of them unless it returns. -/
theorem setCores_visited (cpus : List ℕ) (c : Corectl) :
    ∃ cpus' done online, cpus' <+: cpus ∧ (done = true → cpus' = cpus) ∧
      setCores writable state (cpus.map Nat.cast) c =
        (done, ⟨c.visited ++ cpus'.map Nat.cast, online⟩) := by
  induction cpus generalizing c with
  | nil => exact ⟨[], true, c.online, List.prefix_rfl, fun _ => rfl, by simp [setCores]⟩
  | cons cpu cpus ih =>
    rw [List.map_cons, setCores]
    simp only [Corectl.writeState_eq]
    split_ifs
    · exact ⟨[cpu], false, _, List.prefix_append [cpu] cpus, by simp, rfl⟩
    · obtain ⟨cpus', done, online, hcpus', hdone, heq⟩ := ih (c.after writable state [cpu])
      refine ⟨cpu :: cpus', done, online, (List.prefix_cons_inj cpu).2 hcpus', fun h => ?_, ?_⟩
      · rw [hdone h]
      · rw [heq]
        simp [Corectl.after]

private theorem setStateFuel_visited (ranges : List (ℕ × ℕ)) :
    ∀ (fuel : ℕ) (c : Corectl),
      (∀ range ∈ ranges, range.1 ≤ range.2 ∧ (range.2 : ℤ) ≤ CString.longMax) →
      ∃ cpus, cpus <+: ranges.flatMap Ranges.expand ∧
        (setStateFuel writable state fuel (renderCpulist ranges) c).2.2.visited =
          c.visited ++ cpus.map Nat.cast := by
  induction ranges with
  | nil =>
    intro fuel c _
    exact ⟨[], List.nil_prefix, by cases fuel <;> simp [setStateFuel, renderCpulist, parseCpulist]⟩
  | cons range ranges ih =>
    intro fuel c hranges
    obtain ⟨hrange, hranges⟩ := List.forall_mem_cons.1 hranges
    cases fuel with
    | zero => exact ⟨[], List.nil_prefix, by simp [setStateFuel]⟩
    | succ fuel =>
      have hparse := parseCpulist_renderCpulist hrange.1 hrange.2 ranges
      obtain ⟨cpus', done, online, hcpus', hdone, heq⟩ :=
        @setCores_visited writable state (Ranges.expand range) c
      simp only [setStateFuel, hparse, cpulistCores_range, heq, List.flatMap_cons]
      cases done with
      | false => exact ⟨cpus', hcpus'.trans (List.prefix_append _ _), rfl⟩
      | true =>
        obtain ⟨cpus, hcpus, hvisited⟩ := ih fuel ⟨c.visited ++ cpus'.map Nat.cast, online⟩ hranges
        refine ⟨cpus' ++ cpus, ?_, ?_⟩
        · rw [hdone rfl, List.prefix_append_right_inj]
          exact hcpus
        · rw [if_pos rfl, hvisited, List.map_append, List.append_assoc]

/-- Whichever files can be written, the helper visits the cores of the ranges in order, and no
other core. -/
theorem setState_visited {ranges : List (ℕ × ℕ)}
    (hranges : ∀ range ∈ ranges, range.1 ≤ range.2 ∧ (range.2 : ℤ) ≤ CString.longMax)
    (c : Corectl) :
    ∃ cpus, cpus <+: ranges.flatMap Ranges.expand ∧
      (setState writable state (renderCpulist ranges) c).2.2.visited =
        c.visited ++ cpus.map Nat.cast :=
  setStateFuel_visited ranges _ c hranges

/-- The helper visits the cores of the ranges, and stops at the end of the text. -/
theorem setState_renderCpulist {ranges : List (ℕ × ℕ)}
    (hranges : ∀ range ∈ ranges, range.1 ≤ range.2 ∧ (range.2 : ℤ) ≤ CString.longMax)
    (hvisits : ∀ cpu ∈ ranges.flatMap Ranges.expand, Visits writable state cpu) (c : Corectl) :
    setState writable state (renderCpulist ranges) c =
      (1, [], c.after writable state (ranges.flatMap Ranges.expand)) :=
  setStateFuel_renderCpulist ranges _ c le_rfl hranges hvisits

end SetState

/-- The parser finds the ranges of a text. -/
theorem cpulistCores_renderCpulist {ranges : List (ℕ × ℕ)}
    (hranges : ∀ range ∈ ranges, range.1 ≤ range.2 ∧ (range.2 : ℤ) ≤ CString.longMax) :
    cpulistCores (cpulistItems (renderCpulist ranges)) =
      (ranges.flatMap Ranges.expand).map Nat.cast := by
  induction ranges with
  | nil => rfl
  | cons range ranges ih =>
    obtain ⟨hrange, hranges⟩ := List.forall_mem_cons.1 hranges
    have hcons : ∀ items : List (ℤ × ℤ), cpulistCores (((range.1 : ℤ), (range.2 : ℤ)) :: items) =
        cpulistCores [((range.1 : ℤ), (range.2 : ℤ))] ++ cpulistCores items := by
      intro items
      rw [← List.singleton_append, cpulistCores, List.flatMap_append]
      rfl
    rw [cpulistItems_eq, parseCpulist_renderCpulist hrange.1 hrange.2 ranges]
    change cpulistCores ((_, _) :: cpulistItems (renderCpulist ranges)) = _
    rw [hcons, cpulistCores_range, ih hranges, List.flatMap_cons, List.map_append]

/-! ### From the daemon to the helper -/

section RoundTrip

variable {info : GameModeCPUInfo}

/-- The text of the cores that are listed. -/
def GameModeCPUInfo.rendering (info : GameModeCPUInfo) : CString :=
  renderCpulist (Ranges.ofList info.listedCores)

theorem mem_listedCores {cpu : ℕ} :
    cpu ∈ info.listedCores ↔ cpu < info.numCpu ∧ cpu ∈ info.online ∧ cpu ∉ info.toKeep := by
  simp [GameModeCPUInfo.listedCores, GameModeCPUInfo.isListed]

theorem toFinset_listedCores : info.listedCores.toFinset = info.listed := by
  ext cpu
  rw [List.mem_toFinset, mem_listedCores, GameModeCPUInfo.listed, Finset.mem_filter,
    Finset.mem_range]

/-- Unparking brings back the cores that were parked, and no other. -/
theorem online_after_after {parks unparks : ℕ → Bool} {cpus : List ℕ} {online : Finset ℕ}
    (hcpus : ∀ cpu ∈ cpus, cpu ∈ online)
    (hunparks : ∀ cpu ∈ cpus, parks cpu = true → unparks cpu = true) :
    (Corectl.after unparks '1' cpus
      ⟨[], (Corectl.after parks '0' cpus ⟨[], online⟩).online⟩).online = online := by
  ext cpu
  simp only [Corectl.after, if_true, (by decide : '0' ≠ '1'), if_false, Finset.mem_union,
    Finset.mem_sdiff, List.mem_toFinset, List.mem_filter]
  constructor
  · rintro (⟨hcpu, -⟩ | ⟨hcpu, -⟩)
    · exact hcpu
    · exact hcpus cpu hcpu
  · intro hcpu
    by_cases hparked : cpu ∈ cpus ∧ parks cpu = true
    · exact Or.inr ⟨hparked.1, hunparks cpu hparked.1 hparked.2⟩
    · exact Or.inl ⟨hcpu, hparked⟩

/-- A list of cores arrives at the helper. Both command lines carry the text of the cores that are
listed; the helper visits these cores in increasing order, each once, and no other; it visits all of
them and stops at the end of the text, unless a core cannot be parked; and when both commands
succeed on every core, except that core 0 may refuse to be parked, the cores are online again. -/
structure ArrivesAtHelper (garbage garbage' : CString) (info : GameModeCPUInfo) : Prop where
  park : parkArgs garbage (some info) =
    some ["pkexec".toList, "cpucorectl".toList, "offline".toList, info.rendering]
  unpark : unparkArgs garbage' (some info) =
    some ["pkexec".toList, "cpucorectl".toList, "online".toList, info.rendering]
  parsed : cpulistCores (cpulistItems info.rendering) = info.listedCores.map Nat.cast
  increasing : info.listedCores.Pairwise (· < ·)
  mem_iff : ∀ cpu, cpu ∈ info.listedCores ↔
    cpu < info.numCpu ∧ cpu ∈ info.online ∧ cpu ∉ info.toKeep
  inOrder : ∀ (writable : ℕ → Bool) (state : Char) (c : Corectl),
    ∃ cpus, cpus <+: info.listedCores ∧
      (setState writable state info.rendering c).2.2.visited = c.visited ++ cpus.map Nat.cast
  visited : ∀ (writable : ℕ → Bool) (state : Char) (c : Corectl),
    (∀ cpu ∈ info.listedCores, Visits writable state cpu) →
      ∃ online, setState writable state info.rendering c =
        (1, [], ⟨c.visited ++ info.listedCores.map Nat.cast, online⟩)
  restored : ∀ (parks unparks : ℕ → Bool) (online : Finset ℕ), info.listed ⊆ online →
    (∀ cpu ∈ info.listedCores, cpu ≠ 0 → parks cpu = true ∧ unparks cpu = true) →
      (parks 0 = true → unparks 0 = true) →
        ∃ parked unparked, cpucorectl parks "offline".toList info.rendering ⟨[], online⟩ =
            (true, parked) ∧
          cpucorectl unparks "online".toList info.rendering ⟨[], parked.online⟩ =
            (true, unparked) ∧
          unparked.online = online

theorem ofList_listedCores (hnum : (info.numCpu : ℤ) ≤ CString.longMax) :
    ∀ range ∈ Ranges.ofList info.listedCores,
      range.1 ≤ range.2 ∧ (range.2 : ℤ) ≤ CString.longMax := by
  intro range hrange
  obtain ⟨hle, hlast⟩ := Ranges.mem_ofList hrange
  have hlt := (mem_listedCores.1 hlast).1
  exact ⟨hle, by omega⟩

/-- What the helper does with the text of the cores that are listed. -/
theorem cpucorectl_rendering (hnum : (info.numCpu : ℤ) ≤ CString.longMax) {writable : ℕ → Bool}
    {state : Char} (hvisits : ∀ cpu ∈ info.listedCores, Visits writable state cpu) (c : Corectl) :
    setState writable state info.rendering c =
        (1, [], c.after writable state info.listedCores) ∧
      ∀ verb, corectlState verb = some state →
        cpucorectl writable verb info.rendering c =
          (true, c.after writable state info.listedCores) := by
  have hexpand := Ranges.flatMap_expand_ofList info.listedCores
  have hset := setState_renderCpulist (ofList_listedCores hnum) (by rwa [hexpand]) c
  rw [hexpand] at hset
  refine ⟨hset, fun verb hverb => ?_⟩
  simp only [cpucorectl, hverb, GameModeCPUInfo.rendering, hset]
  rfl

/-- **Lists of cores.** The list of cores that the daemon writes arrives at the helper. -/
theorem arrivesAtHelper (hpark : info.parkOrPin = .park)
    (hnum : (info.numCpu : ℤ) ≤ CString.longMax) (hne : info.listedCores ≠ [])
    (hfits : info.rendering.length < argMax) (garbage garbage' : CString) :
    ArrivesAtHelper garbage garbage' info := by
  have hpin : info.parkOrPin ≠ .pin := hpark ▸ (by decide : ParkOrPin.park ≠ .pin)
  have hargs : ∀ verb garbage : CString, corectlArgs verb garbage (some info) =
      some ["pkexec".toList, "cpucorectl".toList, verb, info.rendering] := by
    intro verb garbage
    simp only [corectlArgs, if_neg hpin, cpulistText_eq hne hfits garbage, Option.map_some]
    rfl
  have hlisted : ∀ cpu ∈ info.listedCores, cpu ∈ info.listed := fun cpu hcpu =>
    toFinset_listedCores ▸ List.mem_toFinset.2 hcpu
  refine ⟨hargs _ _, hargs _ _, ?_, ?_, fun cpu => mem_listedCores, ?_, ?_, ?_⟩
  · rw [GameModeCPUInfo.rendering, cpulistCores_renderCpulist (ofList_listedCores hnum),
      Ranges.flatMap_expand_ofList]
  · exact List.pairwise_lt_range.filter _
  · intro writable state c
    obtain ⟨cpus, hcpus, hvisited⟩ := setState_visited (ofList_listedCores hnum) c
    exact ⟨cpus, Ranges.flatMap_expand_ofList info.listedCores ▸ hcpus, hvisited⟩
  · intro writable state c hvisits
    exact ⟨_, (cpucorectl_rendering hnum hvisits c).1⟩
  · intro parks unparks online hsubset hcores hzero
    have hparks : ∀ cpu ∈ info.listedCores, Visits parks '0' cpu := fun cpu hcpu =>
      or_iff_not_imp_left.2 fun hnot => Or.inl <| by
        by_contra hne
        exact hnot (hcores cpu hcpu hne).1
    have hunparks : ∀ cpu ∈ info.listedCores, Visits unparks '1' cpu := fun _ _ =>
      Or.inr (Or.inr (by decide))
    refine ⟨Corectl.after parks '0' info.listedCores ⟨[], online⟩,
      Corectl.after unparks '1' info.listedCores
        ⟨[], (Corectl.after parks '0' info.listedCores ⟨[], online⟩).online⟩,
      (cpucorectl_rendering hnum hparks _).2 _ (by decide),
      (cpucorectl_rendering hnum hunparks _).2 _ (by decide), ?_⟩
    refine online_after_after (fun cpu hcpu => hsubset (hlisted cpu hcpu)) ?_
    intro cpu hcpu hparked
    by_cases h : cpu = 0
    · exact h ▸ hzero (h ▸ hparked)
    · exact (hcores cpu hcpu h).2

private def everyOtherPair : GameModeCPUInfo := ⟨8, .park, Finset.range 8, {0, 1, 4, 5}⟩

/-- The other pairs arrive at the helper. -/
theorem arrivesAtHelper_everyOtherPair : ArrivesAtHelper [] ['x'] everyOtherPair :=
  arrivesAtHelper rfl (by decide) (by decide) (by decide) [] ['x']

/-- The helper does what a command that succeeds is taken to do: every core that can be parked is
taken offline. -/
theorem cpucorectl_eq_parkCpu (files : CpuSysfs) (hpark : info.parkOrPin = .park)
    (hnum : (info.numCpu : ℤ) ≤ CString.longMax) {parks : ℕ → Bool}
    (hcores : ∀ cpu ∈ info.listedCores, cpu ≠ 0 → parks cpu = true)
    (hzero : parks 0 = files.coreZeroParks) (online : Finset ℕ) :
    (cpucorectl parks "offline".toList info.rendering ⟨[], online⟩).2.online =
      (parkCpu files .succeeded ⟨some info, online⟩).online := by
  have hparks : ∀ cpu ∈ info.listedCores, Visits parks '0' cpu := fun cpu hcpu =>
    or_iff_not_imp_left.2 fun hnot => Or.inl <| by
      by_contra hne
      exact hnot (hcores cpu hcpu hne)
  rw [(cpucorectl_rendering hnum hparks _).2 _ (by decide)]
  have hparkable : (info.listedCores.filter parks).toFinset = parkable files info.listed := by
    ext cpu
    rw [List.mem_toFinset, List.mem_filter, ← List.mem_toFinset, toFinset_listedCores, parkable]
    by_cases hcpu : cpu = 0
    · subst hcpu
      rw [hzero]
      split_ifs with h <;> simp [h]
    · have hcores' : cpu ∈ info.listed → parks cpu = true := fun hmem =>
        hcores cpu (List.mem_toFinset.1 (toFinset_listedCores ▸ hmem)) hcpu
      split_ifs
      · exact and_iff_left_of_imp hcores'
      · rw [Finset.mem_erase, and_iff_right hcpu, and_iff_left_of_imp hcores']
  simp only [parkCpu, hpark, Corectl.after, (by decide : '0' ≠ '1'), if_false, hparkable]

theorem cpucorectl_eq_unparkCpu (hpark : info.parkOrPin = .park)
    (hnum : (info.numCpu : ℤ) ≤ CString.longMax) {unparks : ℕ → Bool}
    (hcores : ∀ cpu ∈ info.listedCores, unparks cpu = true) (online : Finset ℕ) :
    (cpucorectl unparks "online".toList info.rendering ⟨[], online⟩).2.online =
      (unparkCpu .succeeded ⟨some info, online⟩).online := by
  have hunparks : ∀ cpu ∈ info.listedCores, Visits unparks '1' cpu := fun _ _ =>
    Or.inr (Or.inr (by decide))
  rw [(cpucorectl_rendering hnum hunparks _).2 _ (by decide)]
  simp only [unparkCpu, hpark, Corectl.after, if_true, List.filter_eq_self.2 hcores,
    toFinset_listedCores]

end RoundTrip

end GameMode
