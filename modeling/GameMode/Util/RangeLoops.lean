import GameMode.Library.CountingLoops
import GameMode.Util.CorectlFaults

/-!
# The loops over a range

`walk_string` of the daemon and `set_state` of the helper visit the cores of a list in loops
`for (long cpu = from; cpu < to + 1; cpu++)`. Here these loops are written out, with the overflow of
`to + 1` and of `cpu++`, and with a record of the cores that they visit and of the indices that are
handed to the operations on sets.

Up to `LONG_MAX - 1` the loops visit the integers of a range. At `LONG_MAX` the first test
overflows. A number of a list may have a sign, so an index can be negative; `set_state` has no
index.

## Main definitions

* `forRange`: the loop over a range, with a body in any monad.
* `walkStringRanges`, `setStateRanges`: the two functions.
* `WalksExactly`, `SetsExactly`: each range is visited, and no index is negative.

## Main results

* `forRange_eq`: the loop over a range that ends below `LONG_MAX`.
* `forRange_some`, `setStateRanges_eq`: the loops of `GameMode.Daemon.CpuLoops` and of
  `GameMode.Util.CorectlFaults` are these.
* `rangesExact_iff`: the lists for which the ranges are visited exactly.

Source: `daemon/gamemode-cpu.c`, `walk_string`; `util/cpucorectl.c`, `set_state`.
-/

namespace GameMode

open CountingLoops

/-! ### A range -/

section Range

variable {m : Type → Type} [Monad m] (overflow : (α : Type) → m α) {σ : Type} (body : σ → ℤ → m σ)

/-- `for (long cpu = from; cpu < to + 1; cpu++)`. -/
def forRange (s : σ) (item : ℤ × ℤ) : m σ :=
  countingLoop (overflow σ)
    (fun cpu => if item.2 = CString.longMax then overflow Bool else pure (cpu < item.2 + 1)) body
    (CString.longMax - item.1).toNat item.1 s

/-- The loop over a range inside of the loop over the items of a list. -/
def forRanges (cpulist : CString) (s : σ) : m σ :=
  (cpulistItems cpulist).foldlM (forRange overflow body) s

theorem cpulistCores_singleton (item : ℤ × ℤ) :
    cpulistCores [item] = ascending item.1 (item.2 + 1 - item.1).toNat := by
  simp only [cpulistCores, ascending, List.flatMap_singleton, List.bind_eq_flatMap, List.pure_def,
    ← List.map_eq_flatMap, List.map_map]
  rfl

theorem cpulistCores_eq_flatMap (items : List (ℤ × ℤ)) :
    cpulistCores items = items.flatMap fun item => cpulistCores [item] := by
  simp [cpulistCores]

theorem bounds_of_mem {cpulist : CString} {item : ℤ × ℤ} (h : item ∈ cpulistItems cpulist) :
    item.1 ≤ item.2 ∧ item.2 ≤ CString.longMax := by
  refine ⟨?_, le_longMax_of_mem h⟩
  obtain ⟨cpuItem, rfl⟩ := exists_of_mem_cpulistItems h
  exact cpuItem.le

variable {overflow body} [LawfulMonad m]

theorem fst_mem_cpulistCores {cpulist : CString} {item : ℤ × ℤ}
    (h : item ∈ cpulistItems cpulist) : item.1 ∈ cpulistCores (cpulistItems cpulist) :=
  mem_cpulistCores.2 ⟨item, h, le_rfl, (bounds_of_mem h).1⟩

/-- **A range.** The loop over a range that ends below `LONG_MAX` visits its integers in order. -/
theorem forRange_eq {item : ℤ × ℤ} (hle : item.1 ≤ item.2) (hmax : item.2 < CString.longMax)
    (s : σ) : forRange overflow body s item = (cpulistCores [item]).foldlM body s := by
  rw [cpulistCores_singleton, forRange]
  refine countingLoop_eq (by omega) (fun cpu hcpu => ?_) ?_ s
  · have hlt : cpu < item.2 + 1 := by
      have hlast := (mem_ascending.1 hcpu).2
      omega
    rw [if_neg hmax.ne, decide_eq_true hlt]
  · rw [if_neg hmax.ne, decide_eq_false (by omega)]

theorem forRanges_eq {cpulist : CString} (hfits : CpulistFits cpulist) (s : σ) :
    forRanges overflow body cpulist s = (cpulistCores (cpulistItems cpulist)).foldlM body s := by
  rw [cpulistCores_eq_flatMap, foldlM_flatMap]
  refine foldlM_congr (fun item hitem s => ?_) s
  obtain ⟨hle, hmax⟩ := bounds_of_mem hitem
  exact forRange_eq hle (lt_of_le_of_ne hmax (hfits item hitem)) s

variable (habsorbs : ∀ {α β : Type} (f : α → m β), overflow α >>= f = overflow β)
include habsorbs

omit [LawfulMonad m] in
theorem forRange_of_longMax {item : ℤ × ℤ} (hmax : item.2 = CString.longMax) (s : σ) :
    forRange overflow body s item = overflow σ := by
  rw [forRange]
  cases (CString.longMax - item.1).toNat with
  | zero => rw [countingLoop, if_pos hmax, habsorbs]
  | succ room => rw [countingLoop, if_pos hmax, habsorbs]

/-- With a body that goes on, the loops over items of which one ends at `LONG_MAX` overflow. -/
theorem foldlM_forRange_of_longMax (hbody : ∀ s cpu, ∃ t, body s cpu = pure t) {cpulist : CString} :
    ∀ {items : List (ℤ × ℤ)}, (∀ item ∈ items, item ∈ cpulistItems cpulist) →
      (∃ item ∈ items, item.2 = CString.longMax) → ∀ s,
        items.foldlM (forRange overflow body) s = overflow σ
  | [], _, hmax, _ => by simp at hmax
  | item :: items, hmem, hmax, s => by
    obtain ⟨hitem, hrest⟩ := List.forall_mem_cons.1 hmem
    rw [List.foldlM_cons]
    by_cases heq : item.2 = CString.longMax
    · rw [forRange_of_longMax habsorbs heq, habsorbs]
    · obtain ⟨hle, hlast⟩ := bounds_of_mem hitem
      obtain ⟨t, ht⟩ := exists_foldlM_eq_pure hbody (cpulistCores [item]) s
      have hmax' : ∃ item ∈ items, item.2 = CString.longMax := by
        obtain ⟨item', hitem', heq'⟩ := hmax
        rcases List.mem_cons.1 hitem' with rfl | htail
        · exact absurd heq' heq
        · exact ⟨item', htail, heq'⟩
      rw [forRange_eq hle (lt_of_le_of_ne hlast heq), ht, pure_bind]
      exact foldlM_forRange_of_longMax hbody hrest hmax' t

theorem forRanges_of_not_fits (hbody : ∀ s cpu, ∃ t, body s cpu = pure t) {cpulist : CString}
    (hnot : ¬CpulistFits cpulist) (s : σ) : forRanges overflow body cpulist s = overflow σ := by
  have hmax : ∃ item ∈ cpulistItems cpulist, item.2 = CString.longMax := by
    by_contra hall
    exact hnot fun item hitem heq => hall ⟨item, hitem, heq⟩
  exact foldlM_forRange_of_longMax habsorbs hbody (fun _ h => h) hmax s

end Range

/-! ### The daemon -/

/-- What the loops of `walk_string` have come to. -/
structure Walk where
  info : GameModeCPUInfo
  /-- The cores that were visited. -/
  visited : List ℤ
  /-- The indices that were handed to an operation on sets. -/
  indices : List ℤ

/-- The body of the first loops of `walk_string`: one operation, and another one for parking. -/
def Walk.online (w : Walk) (cpu : ℤ) : Walk where
  info := w.info.walkOnline cpu
  visited := w.visited ++ [cpu]
  indices := w.indices ++ if w.info.parkOrPin = .park then [cpu, cpu] else [cpu]

/-- The body of the second loops of `walk_string`: a test, and another operation for an online
core. -/
def Walk.config (w : Walk) (cpu : ℤ) : Walk where
  info := w.info.walkConfig cpu
  visited := w.visited ++ [cpu]
  indices := w.indices ++ if cpuIsset w.info.numCpu cpu w.info.online then [cpu, cpu] else [cpu]

/-- `walk_string`. -/
def walkStringRanges (cpulist configCpulist : CString) (info : GameModeCPUInfo) : Option Walk := do
  let w ← forRanges (m := Option) (fun _ => none) (fun w cpu => some (w.online cpu)) cpulist
    ⟨info, [], []⟩
  forRanges (m := Option) (fun _ => none) (fun w cpu => some (w.config cpu)) configCpulist w

/-- `walk_string` visits the integers of the ranges of both lists, in order, and every index that it
hands to an operation on sets is not negative. -/
def WalksExactly (cpulist configCpulist : CString) : Prop :=
  ∀ info, ∃ w, walkStringRanges cpulist configCpulist info = some w ∧
    w.visited = cpulistCores (cpulistItems cpulist) ++ cpulistCores (cpulistItems configCpulist) ∧
      ∀ cpu ∈ w.indices, 0 ≤ cpu

/-- For a body that goes on, the loop over a range is the one of `GameMode.Daemon.CpuLoops`. -/
theorem forRange_some {σ : Type} (body : σ → ℤ → σ) {cpulist : CString} {item : ℤ × ℤ}
    (hitem : item ∈ cpulistItems cpulist) (s : σ) :
    forRange (m := Option) (fun _ => none) (fun s cpu => some (body s cpu)) s item =
      forCores body s item := by
  obtain ⟨hle, hmax⟩ := bounds_of_mem hitem
  rw [forCores]
  split_ifs with heq
  · exact forRange_of_longMax (fun _ => rfl) heq s
  · rw [forRange_eq hle (lt_of_le_of_ne hmax heq)]
    exact List.foldlM_pure

theorem forRanges_some {σ : Type} (body : σ → ℤ → σ) (cpulist : CString) (s : σ) :
    forRanges (m := Option) (fun _ => none) (fun s cpu => some (body s cpu)) cpulist s =
      forCpulist body cpulist s :=
  foldlM_congr (fun _ hitem s => forRange_some body hitem s) s

/-- A body that records the core as visited, and as an index. -/
structure Walk.Records (body : Walk → ℤ → Walk) : Prop where
  visited : ∀ w cpu, (body w cpu).visited = w.visited ++ [cpu]
  indices : ∀ w cpu i, i ∈ (body w cpu).indices ↔ i ∈ w.indices ∨ i = cpu

theorem Walk.records_online : Walk.Records Walk.online where
  visited _ _ := rfl
  indices w cpu i := by
    rw [Walk.online, List.mem_append]
    split_ifs <;> simp

theorem Walk.records_config : Walk.Records Walk.config where
  visited _ _ := rfl
  indices w cpu i := by
    rw [Walk.config, List.mem_append]
    split_ifs <;> simp

theorem Walk.Records.foldl {body : Walk → ℤ → Walk} (h : Walk.Records body) :
    ∀ (cpus : List ℤ) (w : Walk), (cpus.foldl body w).visited = w.visited ++ cpus ∧
      ∀ i, i ∈ (cpus.foldl body w).indices ↔ i ∈ w.indices ∨ i ∈ cpus
  | [], w => by simp
  | cpu :: cpus, w => by
    obtain ⟨hvisited, hindices⟩ := h.foldl cpus (body w cpu)
    rw [List.foldl_cons]
    refine ⟨?_, fun i => ?_⟩
    · rw [hvisited, h.visited, List.append_assoc, List.singleton_append]
    · rw [hindices, h.indices, List.mem_cons, or_assoc]

/-- The indices of two lists that fit are the cores that they list. -/
theorem walkStringRanges_of_fits {cpulist configCpulist : CString} (hfits : CpulistFits cpulist)
    (hfits' : CpulistFits configCpulist) (info : GameModeCPUInfo) :
    ∃ w, walkStringRanges cpulist configCpulist info = some w ∧
      w.visited = cpulistCores (cpulistItems cpulist) ++ cpulistCores (cpulistItems configCpulist) ∧
        ∀ i, i ∈ w.indices ↔ i ∈ cpulistCores (cpulistItems cpulist) ∨
          i ∈ cpulistCores (cpulistItems configCpulist) := by
  obtain ⟨hvisited, hindices⟩ :=
    Walk.records_online.foldl (cpulistCores (cpulistItems cpulist)) ⟨info, [], []⟩
  obtain ⟨hvisited', hindices'⟩ :=
    Walk.records_config.foldl (cpulistCores (cpulistItems configCpulist))
      ((cpulistCores (cpulistItems cpulist)).foldl Walk.online ⟨info, [], []⟩)
  refine ⟨_, ?_, hvisited'.trans ?_, fun i => (hindices' i).trans ?_⟩
  · rw [walkStringRanges, forRanges_some, forCpulist_eq, if_pos hfits, Option.bind_eq_bind,
      Option.bind_some, forRanges_some, forCpulist_eq, if_pos hfits']
  · rw [hvisited, List.nil_append]
  · rw [hindices]
    simp

theorem fits_of_walkStringRanges {cpulist configCpulist : CString} {info : GameModeCPUInfo}
    {w : Walk} (h : walkStringRanges cpulist configCpulist info = some w) :
    CpulistFits cpulist ∧ CpulistFits configCpulist := by
  obtain ⟨v, hv, hw⟩ := Option.bind_eq_some_iff.1 h
  rw [forRanges_some, forCpulist_eq, Option.ite_none_right_eq_some] at hv hw
  exact ⟨hv.1, hw.1⟩

/-- `walk_string` visits the ranges of two lists exactly, and handles no negative index, when no
range ends at `LONG_MAX` and none begins with a negative number. -/
theorem walksExactly_iff (cpulist configCpulist : CString) :
    WalksExactly cpulist configCpulist ↔
      ∀ item ∈ cpulistItems cpulist ++ cpulistItems configCpulist,
        0 ≤ item.1 ∧ item.2 ≠ CString.longMax := by
  rw [List.forall_mem_append]
  constructor
  · intro h
    obtain ⟨w, hw, -, hnonneg⟩ := h ⟨0, .park, ∅, ∅⟩
    obtain ⟨hfits, hfits'⟩ := fits_of_walkStringRanges hw
    obtain ⟨w', hw', -, hindices⟩ := walkStringRanges_of_fits hfits hfits' ⟨0, .park, ∅, ∅⟩
    obtain rfl : w = w' := Option.some_inj.1 (hw.symm.trans hw')
    constructor
    · intro item hitem
      have hindex : item.1 ∈ w.indices := (hindices _).2 (Or.inl (fst_mem_cpulistCores hitem))
      exact ⟨hnonneg _ hindex, hfits item hitem⟩
    · intro item hitem
      have hindex : item.1 ∈ w.indices := (hindices _).2 (Or.inr (fst_mem_cpulistCores hitem))
      exact ⟨hnonneg _ hindex, hfits' item hitem⟩
  · rintro ⟨h, h'⟩ info
    obtain ⟨w, hw, hvisited, hindices⟩ := walkStringRanges_of_fits
      (fun item hitem => (h item hitem).2) (fun item hitem => (h' item hitem).2) info
    refine ⟨w, hw, hvisited, fun cpu hcpu => ?_⟩
    rcases (hindices cpu).1 hcpu with hmem | hmem
    · obtain ⟨item, hitem, hle, -⟩ := mem_cpulistCores.1 hmem
      exact (h item hitem).1.trans hle
    · obtain ⟨item, hitem, hle, -⟩ := mem_cpulistCores.1 hmem
      exact (h' item hitem).1.trans hle

/-! ### The helper -/

section Helper

variable (named : ℤ → Bool) (outcome : ℤ → WriteOutcome) (state : Char)

/-- What the loops of `set_state` have come to. -/
structure SetStateWalk where
  online : Finset ℤ
  /-- The cores that were visited. -/
  visited : List ℤ

/-- The body of the loops of `set_state`, which may return a result. -/
def setStateBody (s : SetStateWalk) (cpu : ℤ) : ExceptT (ℤ × SetStateWalk) Option SetStateWalk :=
  if ¬named cpu then throw (0, ⟨s.online, s.visited ++ [cpu]⟩)
  else
    let written := writeCoreState outcome state cpu s.online
    if written.1 = 0 ∧ cpu ≠ 0 ∧ state = '0' then throw (-1, ⟨written.2, s.visited ++ [cpu]⟩)
    else pure ⟨written.2, s.visited ++ [cpu]⟩

/-- The result of `set_state`, from what its loops come to. -/
def setStateResult : Except (ℤ × SetStateWalk) SetStateWalk → ℤ × SetStateWalk
  | .ok s => (1, s)
  | .error done => done

/-- The result where the loops return, and the cores that are online. -/
def setStateCoresOf : Except (ℤ × SetStateWalk) SetStateWalk → Option ℤ × Finset ℤ
  | .ok s => (none, s.online)
  | .error done => (some done.1, done.2.online)

/-- `set_state`. -/
def setStateRanges (cpulist : CString) (online : Finset ℤ) : Option (ℤ × SetStateWalk) :=
  (forRanges (m := ExceptT (ℤ × SetStateWalk) Option) (fun _ => .mk none)
    (setStateBody named outcome state) cpulist ⟨online, []⟩).run.map setStateResult

end Helper

/-- `set_state` visits the integers of the ranges of a list, in order, unless it returns before. -/
def SetsExactly (cpulist : CString) : Prop :=
  ∀ named outcome state online, ∃ done,
    setStateRanges named outcome state cpulist online = some done ∧
      done.2.visited <+: cpulistCores (cpulistItems cpulist) ∧
      (done.1 = 1 → done.2.visited = cpulistCores (cpulistItems cpulist))

section Helper

variable (named : ℤ → Bool) (outcome : ℤ → WriteOutcome) (state : Char)

/-- The loops over some cores visit them, unless they return before, and do to the cores what those
of `GameMode.Util.CorectlFaults` do. -/
theorem foldlM_setStateBody (cpus : List ℤ) : ∀ s : SetStateWalk, ∃ e,
    cpus.foldlM (setStateBody named outcome state) s = ExceptT.mk (some e) ∧
      setStateCoresOf e = setStateCores named outcome state cpus s.online ∧
      ∃ taken, taken <+: cpus ∧ (setStateResult e).2.visited = s.visited ++ taken ∧
        ((setStateResult e).1 = 1 → taken = cpus) := by
  induction cpus with
  | nil =>
    intro s
    exact ⟨.ok s, rfl, rfl, [], List.prefix_rfl, (List.append_nil _).symm, fun _ => rfl⟩
  | cons cpu cpus ih =>
    intro s
    have hfirst : [cpu] <+: cpu :: cpus := ⟨cpus, rfl⟩
    rw [List.foldlM_cons, setStateBody, setStateCores]
    by_cases hname : named cpu = true
    · rw [if_neg (not_not.2 hname), if_neg (not_not.2 hname)]
      by_cases hrefused :
          (writeCoreState outcome state cpu s.online).1 = 0 ∧ cpu ≠ 0 ∧ state = '0'
      · simp only [if_pos hrefused]
        exact ⟨_, rfl, rfl, [cpu], hfirst, rfl, fun h => by cases h⟩
      · simp only [if_neg hrefused]
        obtain ⟨e, he, hcores, taken, htaken, hvisited, hall⟩ :=
          ih ⟨(writeCoreState outcome state cpu s.online).2, s.visited ++ [cpu]⟩
        refine ⟨e, he, hcores, cpu :: taken, List.cons_prefix_cons.2 ⟨rfl, htaken⟩, ?_, ?_⟩
        · rw [hvisited, List.append_assoc, List.singleton_append]
        · exact fun h => congrArg (cpu :: ·) (hall h)
    · rw [if_pos hname, if_pos hname]
      exact ⟨_, rfl, rfl, [cpu], hfirst, rfl, fun h => by cases h⟩

theorem foldlM_forRange_setStateBody {cpulist : CString} : ∀ {items : List (ℤ × ℤ)},
    (∀ item ∈ items, item ∈ cpulistItems cpulist) → ∀ s : SetStateWalk,
      ((items.foldlM (forRange (m := ExceptT (ℤ × SetStateWalk) Option) (fun _ => .mk none)
          (setStateBody named outcome state)) s).run.map setStateResult).map
            (fun done => (done.1, done.2.online)) =
        setStateItems named outcome state items s.online
  | [], _, s => rfl
  | item :: items, hmem, s => by
    obtain ⟨hitem, hrest⟩ := List.forall_mem_cons.1 hmem
    obtain ⟨hle, hmax⟩ := bounds_of_mem hitem
    rw [List.foldlM_cons, setStateItems]
    split_ifs with heq
    · rw [forRange_of_longMax (fun _ => rfl) heq]
      rfl
    · obtain ⟨e, he, hcores, -⟩ := foldlM_setStateBody named outcome state (cpulistCores [item]) s
      rw [forRange_eq hle (lt_of_le_of_ne hmax heq), he, ← hcores]
      cases e with
      | ok t => exact foldlM_forRange_setStateBody hrest t
      | error done => rfl

/-- The loops of `GameMode.Util.CorectlFaults` are these, without the record of the visits. -/
theorem setStateRanges_eq (cpulist : CString) (online : Finset ℤ) :
    (setStateRanges named outcome state cpulist online).map (fun done => (done.1, done.2.online)) =
      setStateItems named outcome state (cpulistItems cpulist) online :=
  foldlM_forRange_setStateBody named outcome state (fun _ h => h) ⟨online, []⟩

end Helper

/-- `set_state` visits the ranges of a list exactly when none ends at `LONG_MAX`. -/
theorem setsExactly_iff (cpulist : CString) :
    SetsExactly cpulist ↔ ∀ item ∈ cpulistItems cpulist, item.2 ≠ CString.longMax := by
  constructor
  · intro h
    by_contra hnot
    have hbody : ∀ s cpu, ∃ t,
        setStateBody (fun _ => true) (fun _ => .written) '1' s cpu = pure t :=
      fun s cpu => ⟨_, rfl⟩
    have hnone : forRanges (m := ExceptT (ℤ × SetStateWalk) Option) (fun _ => .mk none)
        (setStateBody (fun _ => true) (fun _ => .written) '1') cpulist ⟨∅, []⟩ = .mk none :=
      forRanges_of_not_fits (fun _ => rfl) hbody hnot ⟨∅, []⟩
    obtain ⟨done, hdone, -⟩ := h (fun _ => true) (fun _ => .written) '1' ∅
    rw [setStateRanges, hnone] at hdone
    cases hdone
  · intro hfits named outcome state online
    obtain ⟨e, he, -, taken, htaken, hvisited, hall⟩ := foldlM_setStateBody named outcome state
      (cpulistCores (cpulistItems cpulist)) ⟨online, []⟩
    have hvisited' : (setStateResult e).2.visited = taken := hvisited
    refine ⟨setStateResult e, ?_, hvisited' ▸ htaken, fun h => hvisited'.trans (hall h)⟩
    rw [setStateRanges, forRanges_eq hfits, he]
    rfl

/-- **Range loops.** The loops of `walk_string` visit the ranges of two lists exactly, and handle no
negative index, when no range ends at `LONG_MAX` and none begins with a negative number; those of
`set_state` visit the ranges of a list exactly when none ends at `LONG_MAX`. -/
theorem rangesExact_iff (cpulist configCpulist argument : CString) :
    (WalksExactly cpulist configCpulist ↔
      ∀ item ∈ cpulistItems cpulist ++ cpulistItems configCpulist,
        0 ≤ item.1 ∧ item.2 ≠ CString.longMax) ∧
      (SetsExactly argument ↔ ∀ item ∈ cpulistItems argument, item.2 ≠ CString.longMax) :=
  ⟨walksExactly_iff cpulist configCpulist, setsExactly_iff argument⟩

/-- With `pin_cores=-2-1` the index -2 is handed to an operation on sets, and for a range up to
`LONG_MAX` the first test of the loops overflows. -/
theorem not_rangesExact_of_ends :
    cpulistItems "-2-1".toList = [(-2, 1)] ∧ ¬WalksExactly "0-7".toList "-2-1".toList ∧
      cpulistItems "0-9223372036854775807".toList = [(0, CString.longMax)] ∧
      ¬WalksExactly "0-7".toList "0-9223372036854775807".toList ∧
      ¬SetsExactly "0-9223372036854775807".toList := by
  refine ⟨by decide, ?_, by decide, ?_, ?_⟩
  · rw [walksExactly_iff]
    decide
  · rw [walksExactly_iff]
    decide
  · rw [setsExactly_iff]
    decide

end GameMode
