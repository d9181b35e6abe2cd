import GameMode.Util.Cpucorectl
import GameMode.Util.Cpugovctl
import GameMode.Daemon.CpuLoops
import Mathlib.Algebra.Ring.CharZero

/-!
# Failures of the helper for the cores

The helper parks one core after the other. Three things can go wrong with a core: the name of its
file cannot be written, its file cannot be opened or written, or the kernel rejects what was
buffered when the file is closed. The first ends `set_state` with `0`, the second with `-1` unless
the core is core 0, and the third is not noticed. `main` takes every result but `0` for success, and
the cores that were parked before stay parked.

The loop over a range compares with `to + 1`, which overflows for a range that ends at `LONG_MAX`.
A run that gets there has no result.

## Main definitions

* `writeCoreState`, `setStateCores`, `setStateItems`, `corectlMain`: the program.
* `cpulistVisits`: the cores in the order in which the loops get to them.
* `AllOrNothing`: parking is all or nothing, and the exit status tells which.

## Main results

* `setStateItems_eq`: the two loops visit one core after the other.
* `allOrNothing_iff`: when parking is all or nothing.
* `corectlMain_eq_cpucorectl`: the program without the failures that go unnoticed.

Source: `util/cpucorectl.c`.
-/

namespace GameMode

/-! ### The program -/

section Program

variable (named : ℤ → Bool) (outcome : ℤ → WriteOutcome) (state : Char)

/-- `write_state` for the file of a core: its result, and the cores that are online. -/
def writeCoreState (cpu : ℤ) (online : Finset ℤ) : ℤ × Finset ℤ :=
  match outcome cpu with
  | .openFailed => (0, online)
  | .printFailed => (0, online)
  -- the result of `fclose` is not looked at
  | .flushFailed => (1, online)
  | .written => (1, if state = '1' then insert cpu online else online.erase cpu)

/-- The inner loop of `set_state`: the result where it returns, and the cores that are online. -/
def setStateCores : List ℤ → Finset ℤ → Option ℤ × Finset ℤ
  | [], online => (none, online)
  | cpu :: cpus, online =>
    -- `snprintf` fails
    if ¬named cpu then (some 0, online)
    else
      let written := writeCoreState outcome state cpu online
      if written.1 = 0 ∧ cpu ≠ 0 ∧ state = '0' then (some (-1), written.2)
      else setStateCores cpus written.2

/-- The loop of `set_state` over the items of a list, `none` when `to + 1` overflows. -/
def setStateItems : List (ℤ × ℤ) → Finset ℤ → Option (ℤ × Finset ℤ)
  | [], online => some (1, online)
  | item :: items, online =>
    if item.2 = CString.longMax then none
    else
      match setStateCores named outcome state (cpulistCores [item]) online with
      | (some result, online) => some (result, online)
      | (none, online) => setStateItems items online

/-- `main`, for a root user or another one: the exit status, and the cores that are online. -/
def corectlMain (root : Bool) (argv : List CString) (online : Finset ℤ) :
    Option (ℤ × Finset ℤ) :=
  if ¬root then some (exitFailure, online)
  else
    match argv with
    | [_, verb, cpulist] =>
      match corectlState verb with
      | none => some (exitFailure, online)
      | some state =>
        (setStateItems named outcome state (cpulistItems cpulist) online).map fun done =>
          (if done.1 = 0 then exitFailure else exitSuccess, done.2)
    | _ => some (exitFailure, online)

end Program

/-! ### One core after the other -/

/-- The cores of the items in the order in which the loops get to them, where `none` stands for an
item whose loop overflows. -/
def cpulistVisits (items : List (ℤ × ℤ)) : List (Option ℤ) :=
  items.flatMap fun item =>
    if item.2 = CString.longMax then [none] else (cpulistCores [item]).map some

theorem mem_cpulistCores_of_some_mem_cpulistVisits {items : List (ℤ × ℤ)} {cpu : ℤ}
    (h : some cpu ∈ cpulistVisits items) : cpu ∈ cpulistCores items := by
  obtain ⟨item, hitem, hmem⟩ := List.mem_flatMap.1 h
  split_ifs at hmem with hmax
  · simp at hmem
  · obtain ⟨cpu', hcpu', heq⟩ := List.mem_map.1 hmem
    rw [Option.some_inj.1 heq, cpulistCores, List.flatMap_singleton] at hcpu'
    exact List.mem_flatMap.2 ⟨item, hitem, hcpu'⟩

theorem some_mem_cpulistVisits {items : List (ℤ × ℤ)} {cpu : ℤ} (h : cpu ∈ cpulistCores items)
    (hfits : none ∉ cpulistVisits items) : some cpu ∈ cpulistVisits items := by
  obtain ⟨item, hitem, hmem⟩ := List.mem_flatMap.1 h
  refine List.mem_flatMap.2 ⟨item, hitem, ?_⟩
  split_ifs with hmax
  · exact absurd (List.mem_flatMap.2 ⟨item, hitem, by simp [hmax]⟩) hfits
  · rw [cpulistCores, List.flatMap_singleton]
    exact List.mem_map_of_mem hmem

section Visits

variable (named : ℤ → Bool) (outcome : ℤ → WriteOutcome) (state : Char)

/-- The loops over the cores that they get to. -/
def setStateVisits : List (Option ℤ) → Finset ℤ → Option (ℤ × Finset ℤ)
  | [], online => some (1, online)
  | none :: _, _ => none
  | some cpu :: visits, online =>
    if ¬named cpu then some (0, online)
    else
      let written := writeCoreState outcome state cpu online
      if written.1 = 0 ∧ cpu ≠ 0 ∧ state = '0' then some (-1, written.2)
      else setStateVisits visits written.2

variable {named outcome state}

theorem setStateVisits_map_append (cpus : List ℤ) (visits : List (Option ℤ)) :
    ∀ online, setStateVisits named outcome state (cpus.map some ++ visits) online =
      match setStateCores named outcome state cpus online with
      | (some result, online) => some (result, online)
      | (none, online) => setStateVisits named outcome state visits online := by
  induction cpus with
  | nil => exact fun online => rfl
  | cons cpu cpus ih =>
    intro online
    rw [List.map_cons, List.cons_append, setStateVisits, setStateCores]
    split_ifs with hname
    · by_cases hrefused :
          (writeCoreState outcome state cpu online).1 = 0 ∧ cpu ≠ 0 ∧ state = '0'
      · simp only [if_pos hrefused]
      · simp only [if_neg hrefused]
        exact ih _
    · rfl

/-- **The loops.** They visit one core after the other. -/
theorem setStateItems_eq (items : List (ℤ × ℤ)) :
    ∀ online, setStateItems named outcome state items online =
      setStateVisits named outcome state (cpulistVisits items) online := by
  induction items with
  | nil => exact fun online => rfl
  | cons item items ih =>
    intro online
    rw [setStateItems, cpulistVisits, List.flatMap_cons]
    split_ifs
    · rfl
    · rw [setStateVisits_map_append]
      rcases setStateCores named outcome state (cpulistCores [item]) online with ⟨_ | result, after⟩
      · exact ih after
      · rfl

end Visits

/-! ### Parking -/

section Park

variable (named : ℤ → Bool) (outcome : ℤ → WriteOutcome)

/-- A core can be parked: its file is found, and the kernel takes the state. -/
def CanBeParked (cpu : ℤ) : Prop := named cpu = true ∧ outcome cpu = .written

instance (cpu : ℤ) : Decidable (CanBeParked named outcome cpu) :=
  inferInstanceAs (Decidable (named cpu = true ∧ outcome cpu = .written))

/-- The loops go on after a core. -/
def goesOn : Option ℤ → Bool
  | none => false
  | some cpu => named cpu && (cpu = 0 || outcome cpu = .flushFailed || outcome cpu = .written)

/-- The cores that are online after the loops have gone past some cores. -/
def onlineAfter (visits : List (Option ℤ)) (online : Finset ℤ) : Finset ℤ :=
  online.filter fun cpu => ¬(some cpu ∈ visits ∧ outcome cpu = .written)

/-- Some cores are parked, and then the loops come to an item that overflows. -/
def Overflows (cpulist : CString) : Prop :=
  ∃ visits rest, cpulistVisits (cpulistItems cpulist) = visits ++ none :: rest ∧
    ∀ visit ∈ visits, goesOn named outcome visit = true

/-- The helper gives up because the name of a file cannot be written, and no core that was online
has been parked before. -/
def GivesUpInTime (cpulist : CString) (online : Finset ℤ) : Prop :=
  ∃ visits cpu rest, cpulistVisits (cpulistItems cpulist) = visits ++ some cpu :: rest ∧
    (∀ visit ∈ visits, goesOn named outcome visit = true) ∧ named cpu = false ∧
      ∀ cpu' ∈ online, ¬(some cpu' ∈ visits ∧ outcome cpu' = .written)

variable {named outcome}

theorem writeCoreState_park (cpu : ℤ) (online : Finset ℤ) :
    writeCoreState outcome '0' cpu online =
      (if outcome cpu = .flushFailed ∨ outcome cpu = .written then 1 else 0,
        onlineAfter outcome [some cpu] online) := by
  have hkeep : outcome cpu ≠ .written → onlineAfter outcome [some cpu] online = online := by
    intro hnot
    refine Finset.filter_true_of_mem fun cpu' _ h => ?_
    rw [List.mem_singleton, Option.some_inj] at h
    exact hnot (h.1 ▸ h.2)
  rw [writeCoreState]
  cases houtcome : outcome cpu with
  | written =>
    have herase : onlineAfter outcome [some cpu] online = online.erase cpu := by
      ext cpu'
      rw [onlineAfter, Finset.mem_filter, Finset.mem_erase, List.mem_singleton, Option.some_inj]
      constructor
      · rintro ⟨hmem, hnot⟩
        exact ⟨fun h => hnot ⟨h, h ▸ houtcome⟩, hmem⟩
      · rintro ⟨hne, hmem⟩
        exact ⟨hmem, fun h => hne h.1⟩
    simp [herase]
  | openFailed => simp [hkeep (by simp [houtcome])]
  | printFailed => simp [hkeep (by simp [houtcome])]
  | flushFailed => simp [hkeep (by simp [houtcome])]

theorem onlineAfter_onlineAfter (visits visits' : List (Option ℤ)) (online : Finset ℤ) :
    onlineAfter outcome visits' (onlineAfter outcome visits online) =
      onlineAfter outcome (visits ++ visits') online := by
  ext cpu
  simp only [onlineAfter, Finset.mem_filter, List.mem_append]
  tauto

/-- The loops go past the cores after which they go on. -/
theorem setStateVisits_append {visits : List (Option ℤ)}
    (hvisits : ∀ visit ∈ visits, goesOn named outcome visit = true) (rest : List (Option ℤ)) :
    ∀ online, setStateVisits named outcome '0' (visits ++ rest) online =
      setStateVisits named outcome '0' rest (onlineAfter outcome visits online) := by
  induction visits with
  | nil =>
    intro online
    have hnil : onlineAfter outcome [] online = online :=
      Finset.filter_true_of_mem fun cpu _ h => List.not_mem_nil h.1
    rw [hnil, List.nil_append]
  | cons visit visits ih =>
    intro online
    obtain ⟨hvisit, hrest⟩ := List.forall_mem_cons.1 hvisits
    cases visit with
    | none => exact absurd hvisit (by simp [goesOn])
    | some cpu =>
      simp only [goesOn, Bool.and_eq_true, Bool.or_eq_true, decide_eq_true_eq] at hvisit
      have hnot : ¬((writeCoreState outcome '0' cpu online).1 = 0 ∧ cpu ≠ 0) := by
        rintro ⟨hzero, hne⟩
        rw [writeCoreState_park, if_pos (by tauto)] at hzero
        exact one_ne_zero hzero
      rw [List.cons_append, setStateVisits, if_neg (by simp [hvisit.1])]
      simp only [ne_eq, and_true, hnot, if_false]
      rw [writeCoreState_park, ih hrest, onlineAfter_onlineAfter, List.singleton_append]

/-- What the helper does with a list of cores that are to be parked: the loops go past all of them,
or stop at an overflow, at a name that cannot be written, or at a core that cannot be parked. -/
inductive ParkRun (named : ℤ → Bool) (outcome : ℤ → WriteOutcome) (items : List (ℤ × ℤ))
    (online : Finset ℤ) : Option (ℤ × Finset ℤ) → Prop
  | finished (h : ∀ visit ∈ cpulistVisits items, goesOn named outcome visit = true) :
    ParkRun named outcome items online
      (some (1, onlineAfter outcome (cpulistVisits items) online))
  | overflows {visits rest : List (Option ℤ)} (h : cpulistVisits items = visits ++ none :: rest)
    (hvisits : ∀ visit ∈ visits, goesOn named outcome visit = true) :
    ParkRun named outcome items online none
  | unnamed {visits rest : List (Option ℤ)} {cpu : ℤ}
    (h : cpulistVisits items = visits ++ some cpu :: rest)
    (hvisits : ∀ visit ∈ visits, goesOn named outcome visit = true) (hcpu : named cpu = false) :
    ParkRun named outcome items online (some (0, onlineAfter outcome visits online))
  | refused {visits rest : List (Option ℤ)} {cpu : ℤ}
    (h : cpulistVisits items = visits ++ some cpu :: rest) (hne : cpu ≠ 0)
    (hcpu : outcome cpu ≠ .written) (after : Finset ℤ) :
    ParkRun named outcome items online (some (-1, after))

theorem setStateItems_of_overflow {items : List (ℤ × ℤ)} {visits rest : List (Option ℤ)}
    (h : cpulistVisits items = visits ++ none :: rest)
    (hvisits : ∀ visit ∈ visits, goesOn named outcome visit = true) (online : Finset ℤ) :
    setStateItems named outcome '0' items online = none := by
  rw [setStateItems_eq, h, setStateVisits_append hvisits]
  rfl

theorem setStateItems_of_unnamed {items : List (ℤ × ℤ)} {visits rest : List (Option ℤ)} {cpu : ℤ}
    (h : cpulistVisits items = visits ++ some cpu :: rest)
    (hvisits : ∀ visit ∈ visits, goesOn named outcome visit = true) (hcpu : named cpu = false)
    (online : Finset ℤ) :
    setStateItems named outcome '0' items online =
      some (0, onlineAfter outcome visits online) := by
  rw [setStateItems_eq, h, setStateVisits_append hvisits, setStateVisits, if_pos (by simp [hcpu])]

/-- **Parking.** Every run of the helper is one of the four kinds. -/
theorem parkRun_setStateItems (items : List (ℤ × ℤ)) (online : Finset ℤ) :
    ParkRun named outcome items online (setStateItems named outcome '0' items online) := by
  cases hfind : (cpulistVisits items).find? fun visit => !goesOn named outcome visit with
  | none =>
    have hall : ∀ visit ∈ cpulistVisits items, goesOn named outcome visit = true := by
      simpa using hfind
    have happend := setStateVisits_append hall [] online
    rw [List.append_nil] at happend
    rw [setStateItems_eq, happend]
    exact .finished hall
  | some visit =>
    obtain ⟨hvisit, visits, rest, heq, hvisits⟩ := List.find?_eq_some_iff_append.1 hfind
    replace hvisits : ∀ visit ∈ visits, goesOn named outcome visit = true := by
      simpa using hvisits
    cases visit with
    | none =>
      rw [setStateItems_of_overflow heq hvisits]
      exact .overflows heq hvisits
    | some cpu =>
      cases hnamed : named cpu with
      | false =>
        rw [setStateItems_of_unnamed heq hvisits hnamed]
        exact .unnamed heq hvisits hnamed
      | true =>
        simp only [goesOn, hnamed, Bool.true_and, Bool.not_eq_true', Bool.or_eq_false_iff,
          decide_eq_false_iff_not] at hvisit
        obtain ⟨⟨hne, hflush⟩, hwritten⟩ := hvisit
        rw [setStateItems_eq, heq, setStateVisits_append hvisits, setStateVisits,
          if_neg (by simp [hnamed])]
        simp only [writeCoreState_park, hflush, hwritten, or_self, if_false, hne, ne_eq,
          not_false_eq_true, and_self, if_true]
        exact .refused heq hne hwritten _

/-! ### All or nothing -/

variable (named outcome)

/-- `cpucorectl offline LIST`. -/
def corectlOffline (root : Bool) (cpulist : CString) (online : Finset ℤ) :
    Option (ℤ × Finset ℤ) :=
  corectlMain named outcome root ["cpucorectl".toList, "offline".toList, cpulist] online

/-- Parking is all or nothing, and the exit status tells which: the helper exits, with success only
if every listed core other than core 0 is offline; and when such a core cannot be parked, it exits
with failure and every core that was online is online. -/
def AllOrNothing (root : Bool) (cpulist : CString) (online : Finset ℤ) : Prop :=
  ∃ status after, corectlOffline named outcome root cpulist online = some (status, after) ∧
    (status = exitSuccess →
      ∀ cpu ∈ cpulistCores (cpulistItems cpulist), cpu ≠ 0 → cpu ∉ after) ∧
    ((∃ cpu ∈ cpulistCores (cpulistItems cpulist), cpu ≠ 0 ∧ ¬CanBeParked named outcome cpu) →
      status = exitFailure ∧ online ⊆ after)

variable {named outcome}

theorem corectlOffline_root (cpulist : CString) (online : Finset ℤ) :
    corectlOffline named outcome true cpulist online =
      (setStateItems named outcome '0' (cpulistItems cpulist) online).map fun done =>
        (if done.1 = 0 then exitFailure else exitSuccess, done.2) := by
  have hverb : corectlState "offline".toList = some '0' := by decide
  simp only [corectlOffline, corectlMain, hverb, not_true_eq_false, if_false]

theorem corectlOffline_of_not_root (cpulist : CString) (online : Finset ℤ) :
    corectlOffline named outcome false cpulist online = some (exitFailure, online) := by
  simp [corectlOffline, corectlMain]

theorem exitFailure_ne_exitSuccess : exitFailure ≠ exitSuccess := by decide

theorem not_mem_onlineAfter {visits : List (Option ℤ)} {cpu : ℤ} (hcpu : some cpu ∈ visits)
    (hwritten : outcome cpu = .written) (online : Finset ℤ) :
    cpu ∉ onlineAfter outcome visits online := fun h =>
  (Finset.mem_filter.1 h).2 ⟨hcpu, hwritten⟩

theorem subset_onlineAfter_iff {visits : List (Option ℤ)} {online : Finset ℤ} :
    online ⊆ onlineAfter outcome visits online ↔
      ∀ cpu ∈ online, ¬(some cpu ∈ visits ∧ outcome cpu = .written) := by
  rw [onlineAfter]
  constructor
  · exact fun h cpu hcpu => (Finset.mem_filter.1 (h hcpu)).2
  · exact fun h cpu hcpu => Finset.mem_filter.2 ⟨hcpu, h cpu hcpu⟩

theorem not_overflows {cpulist : CString}
    (h : ∀ visit ∈ cpulistVisits (cpulistItems cpulist), goesOn named outcome visit = true) :
    none ∉ cpulistVisits (cpulistItems cpulist) := fun hmem => by
  simpa [goesOn] using h none hmem

/-- Where every listed core can be parked, all of them are, or the helper says that it failed. -/
theorem allOrNothing_of_canBeParked {cpulist : CString} {online : Finset ℤ}
    (hfits : ¬Overflows named outcome cpulist)
    (hpark : ∀ cpu ∈ cpulistCores (cpulistItems cpulist), cpu ≠ 0 →
      CanBeParked named outcome cpu) :
    AllOrNothing named outcome true cpulist online := by
  have hnone : ¬∃ cpu ∈ cpulistCores (cpulistItems cpulist),
      cpu ≠ 0 ∧ ¬CanBeParked named outcome cpu := by
    rintro ⟨cpu, hcpu, hne, hnot⟩
    exact hnot (hpark cpu hcpu hne)
  have hrun := @parkRun_setStateItems named outcome (cpulistItems cpulist) online
  rw [AllOrNothing, corectlOffline_root]
  generalize setStateItems named outcome '0' (cpulistItems cpulist) online = done at hrun ⊢
  cases hrun with
  | finished h =>
    refine ⟨_, _, rfl, fun _ cpu hcpu hne => ?_, fun h => absurd h hnone⟩
    exact not_mem_onlineAfter (some_mem_cpulistVisits hcpu (not_overflows h))
      (hpark cpu hcpu hne).2 online
  | overflows h hvisits => exact absurd ⟨_, _, h, hvisits⟩ hfits
  | unnamed h hvisits hcpu =>
    exact ⟨_, _, rfl, fun h => absurd h exitFailure_ne_exitSuccess, fun h => absurd h hnone⟩
  | refused h hne hcpu after =>
    have hmem := mem_cpulistCores_of_some_mem_cpulistVisits (h ▸ List.mem_append_cons_self)
    exact absurd (hpark _ hmem hne).2 hcpu

theorem allOrNothing_of_givesUpInTime {cpulist : CString} {online : Finset ℤ}
    (h : GivesUpInTime named outcome cpulist online) :
    AllOrNothing named outcome true cpulist online := by
  obtain ⟨visits, cpu, rest, heq, hvisits, hcpu, honline⟩ := h
  rw [AllOrNothing, corectlOffline_root, setStateItems_of_unnamed heq hvisits hcpu]
  exact ⟨_, _, rfl, fun h => absurd h exitFailure_ne_exitSuccess,
    fun _ => ⟨rfl, subset_onlineAfter_iff.2 honline⟩⟩

/-- **All or nothing.** Parking is all or nothing just when the helper does nothing because the user
is not root, when every listed core other than core 0 can be parked, or when the helper gives up in
time. -/
theorem allOrNothing_iff (root : Bool) (cpulist : CString) (online : Finset ℤ) :
    AllOrNothing named outcome root cpulist online ↔
      root = false ∨
        (¬Overflows named outcome cpulist ∧
          ∀ cpu ∈ cpulistCores (cpulistItems cpulist), cpu ≠ 0 →
            CanBeParked named outcome cpu) ∨
        GivesUpInTime named outcome cpulist online := by
  cases root with
  | false =>
    refine iff_of_true ?_ (Or.inl rfl)
    exact ⟨_, _, corectlOffline_of_not_root cpulist online,
      fun h => absurd h exitFailure_ne_exitSuccess, fun _ => ⟨rfl, Finset.Subset.refl online⟩⟩
  | true =>
    rw [or_iff_right (by decide : true ≠ false)]
    refine ⟨fun h => ?_, fun h => h.elim (fun h => allOrNothing_of_canBeParked h.1 h.2)
      allOrNothing_of_givesUpInTime⟩
    obtain ⟨status, after, heq, hsuccess, hfailure⟩ := h
    rw [corectlOffline_root] at heq
    by_cases hpark : ∀ cpu ∈ cpulistCores (cpulistItems cpulist), cpu ≠ 0 →
        CanBeParked named outcome cpu
    · refine Or.inl ⟨?_, hpark⟩
      rintro ⟨visits, rest, hoverflow, hvisits⟩
      simp [setStateItems_of_overflow hoverflow hvisits] at heq
    · push Not at hpark
      obtain ⟨hstatus, hsubset⟩ := hfailure hpark
      have hrun := @parkRun_setStateItems named outcome (cpulistItems cpulist) online
      -- only a name that cannot be written makes the helper fail
      generalize setStateItems named outcome '0' (cpulistItems cpulist) online = done at hrun heq
      cases hrun with
      | finished h =>
        rw [Option.map_some, Option.some_inj, Prod.mk.injEq, if_neg one_ne_zero] at heq
        exact absurd (heq.1.trans hstatus).symm exitFailure_ne_exitSuccess
      | overflows h hvisits => cases heq
      | unnamed h hvisits hcpu =>
        rw [Option.map_some, Option.some_inj, Prod.mk.injEq] at heq
        rw [← heq.2] at hsubset
        exact Or.inr ⟨_, _, _, h, hvisits, hcpu, subset_onlineAfter_iff.1 hsubset⟩
      | refused h hne hcpu after' =>
        rw [Option.map_some, Option.some_inj, Prod.mk.injEq, if_neg (by simp)] at heq
        exact absurd (heq.1.trans hstatus).symm exitFailure_ne_exitSuccess

end Park

/-- Core 2 cannot be parked: the helper exits with success, and core 1 stays parked. -/
theorem not_allOrNothing :
    let outcome : ℤ → WriteOutcome := fun cpu => if cpu = 2 then .openFailed else .written
    corectlOffline (fun _ => true) outcome true "1,2".toList {0, 1, 2} =
        some (exitSuccess, {0, 2}) ∧
      ¬AllOrNothing (fun _ => true) outcome true "1,2".toList {0, 1, 2} := by
  intro outcome
  have hrun : corectlOffline (fun _ => true) outcome true "1,2".toList {0, 1, 2} =
      some (exitSuccess, {0, 2}) := by decide
  refine ⟨hrun, ?_⟩
  rintro ⟨status, after, heq, -, hfailure⟩
  rw [hrun, Option.some_inj, Prod.mk.injEq] at heq
  exact absurd (heq.1.trans (hfailure ⟨2, by decide, by decide, by decide⟩).1)
    exitFailure_ne_exitSuccess.symm

/-! ### Without the failures that go unnoticed -/

section Files

variable {writable : ℕ → Bool} {state : Char}

/-- A file is written, or it cannot be opened. -/
def fileOutcome (writable : ℕ → Bool) (cpu : ℤ) : WriteOutcome :=
  if 0 ≤ cpu ∧ writable cpu.toNat then .written else .openFailed

/-- The cores that are online, as the numbers that the helper reads. -/
def castOnline (online : Finset ℕ) : Finset ℤ := online.map Nat.castEmbedding

theorem writeCoreState_fileOutcome (cpu : ℤ) (c : Corectl) :
    writeCoreState (fileOutcome writable) state cpu (castOnline c.online) =
      (if (c.writeState writable state cpu).1 then 1 else 0,
        castOnline (c.writeState writable state cpu).2.online) := by
  rw [writeCoreState, fileOutcome, Corectl.writeState]
  by_cases hwritable : 0 ≤ cpu ∧ writable cpu.toNat
  · have hcast : (Nat.castEmbedding cpu.toNat : ℤ) = cpu := Int.toNat_of_nonneg hwritable.1
    simp only [if_pos hwritable, if_true]
    by_cases hstate : state = '1'
    · simp only [hstate, if_true]
      rw [castOnline, castOnline, Finset.map_insert, hcast]
    · simp only [hstate, if_false]
      rw [castOnline, castOnline, Finset.map_erase, hcast]
  · simp [if_neg hwritable]

theorem setStateCores_fileOutcome (cpus : List ℤ) :
    ∀ c : Corectl, setStateCores (fun _ => true) (fileOutcome writable) state cpus
        (castOnline c.online) =
      (if (setCores writable state cpus c).1 then none else some (-1),
        castOnline (setCores writable state cpus c).2.online) := by
  induction cpus with
  | nil => exact fun c => rfl
  | cons cpu cpus ih =>
    intro c
    rw [setStateCores, if_neg (by simp), setCores, writeCoreState_fileOutcome]
    rcases hwritten : c.writeState writable state cpu with ⟨success, after⟩
    cases success with
    | true => simp [ih]
    | false =>
      by_cases hrefused : cpu ≠ 0 ∧ state = '0'
      · simp [hrefused]
      · simp [hrefused, ih]

theorem setStateItems_fileOutcome (fuel : ℕ) :
    ∀ {cpulist : CString} (c : Corectl), cpulist.length ≤ fuel → CpulistFits cpulist →
      setStateItems (fun _ => true) (fileOutcome writable) state (cpulistItems cpulist)
          (castOnline c.online) =
        some ((setStateFuel writable state fuel cpulist c).1,
          castOnline (setStateFuel writable state fuel cpulist c).2.2.online) := by
  induction fuel with
  | zero =>
    intro cpulist c hfuel _
    rw [List.length_eq_zero_iff.1 (Nat.le_zero.1 hfuel)]
    rfl
  | succ fuel ih =>
    intro cpulist c hfuel hfits
    rw [CpulistFits, cpulistItems_eq] at hfits
    rw [cpulistItems_eq, setStateFuel]
    cases hparse : parseCpulist cpulist with
    | none => rfl
    | some item =>
      obtain ⟨lo, hi, rest⟩ := item
      have hlt := length_of_parseCpulist hparse
      simp only [hparse, List.forall_mem_cons] at hfits
      simp only [setStateItems, if_neg hfits.1, setStateCores_fileOutcome]
      rcases setCores writable state (cpulistCores [(lo, hi)]) c with ⟨_ | _, after⟩
      · rfl
      · exact ih after (by omega) hfits.2

/-- The program does what is said of the helper elsewhere, where every file is written or cannot be
opened. -/
theorem corectlMain_eq_cpucorectl {cpulist : CString} (hfits : CpulistFits cpulist)
    (name verb : CString) (c : Corectl) :
    corectlMain (fun _ => true) (fileOutcome writable) true [name, verb, cpulist]
        (castOnline c.online) =
      some (if (cpucorectl writable verb cpulist c).1 then exitSuccess else exitFailure,
        castOnline (cpucorectl writable verb cpulist c).2.online) := by
  cases hverb : corectlState verb with
  | none => simp [corectlMain, cpucorectl, hverb]
  | some state =>
    simp only [corectlMain, cpucorectl, hverb, not_true_eq_false, if_false, setState,
      setStateItems_fileOutcome cpulist.length c le_rfl hfits, Option.map_some]
    by_cases hresult : (setStateFuel writable state cpulist.length cpulist c).1 = 0
    · simp [hresult]
    · simp [hresult]

end Files

end GameMode
