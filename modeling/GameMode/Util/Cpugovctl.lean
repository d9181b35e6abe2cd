import GameMode.Common.Governors
import GameMode.Daemon.Governor

/-!
# The helper for the governors

`cpugovctl set` writes the governor to every file that it finds. A write can go wrong in three
places: the file cannot be opened, the formatted write fails, or the kernel rejects what was
buffered when the file is closed. Only the second one makes the helper fail.

## Main definitions

* `WriteOutcome`, `setGovState`: writing the files.
* `cpugovctl`: the program.
* `HandledOnce`: every governor file is written once.

## Main results

* `setGovState_retval_iff`, `mem_setGovState_written`: the result, and what is written.
* `handledOnce_iff`: when every governor file is written once.

Source: `util/cpugovctl.c`; `common/common-governors.c`.
-/

namespace GameMode

/-! ### Writing the files -/

/-- What becomes of writing a file. -/
inductive WriteOutcome
  /-- `fopen` fails. -/
  | openFailed
  /-- `fprintf` fails. -/
  | printFailed
  /-- The kernel rejects the text at `fclose`. -/
  | flushFailed
  | written
  deriving DecidableEq, Repr

/-- What a run of the helper does. -/
structure GovctlRun where
  /-- The exit status. -/
  retval : ℤ
  /-- The text on its standard output. -/
  printed : CString
  /-- The files that took a text, in order. -/
  written : List (CString × CString)
  deriving DecidableEq

/-- `EXIT_SUCCESS`. -/
def exitSuccess : ℤ := 0

/-- `EXIT_FAILURE`. -/
def exitFailure : ℤ := 1

section Set

variable (value : CString) (outcome : ℕ → WriteOutcome)

/-- The loop of `set_gov_state`. -/
def setGovStateFrom : ℕ → GovctlRun → List CString → GovctlRun
  | _, run, [] => run
  | i, run, gov :: govs =>
    match outcome i with
    | .openFailed => setGovStateFrom (i + 1) run govs
    | .printFailed => setGovStateFrom (i + 1) { run with retval := exitFailure } govs
    -- the result of `fclose` is not looked at
    | .flushFailed => setGovStateFrom (i + 1) run govs
    | .written =>
      let written := run.written ++ [(gov, fileContents value)]
      setGovStateFrom (i + 1) { run with written := written } govs

/-- `set_gov_state`, for the files that `fetch_governors` finds. -/
def setGovState (governors : List CString) : GovctlRun :=
  setGovStateFrom value outcome 0 ⟨exitSuccess, [], []⟩ governors

/-- `main`, for a root user or another one: `state` is what `get_gov_state` returns. -/
def cpugovctl (root : Bool) (state : CString) (governors : List CString) :
    List CString → GovctlRun
  | [_, verb] =>
    if verb.take 3 = "get".toList then ⟨exitSuccess, state, []⟩ else ⟨exitFailure, [], []⟩
  | [_, verb, value] =>
    if verb.take 3 = "set".toList then
      if ¬root then ⟨exitFailure, [], []⟩ else setGovState value outcome governors
    else ⟨exitFailure, [], []⟩
  | _ => ⟨exitFailure, [], []⟩

end Set

section Loop

variable {value : CString} {outcome : ℕ → WriteOutcome}

/-- The result is that from before, unless a formatted write fails. -/
theorem setGovStateFrom_retval : ∀ (govs : List CString) (i : ℕ) (run : GovctlRun),
    (setGovStateFrom value outcome i run govs).retval = exitSuccess ↔
      run.retval = exitSuccess ∧ ∀ j < govs.length, outcome (i + j) ≠ .printFailed
  | [], _, _ => by simp [setGovStateFrom]
  | gov :: govs, i, run => by
    have ih := fun run => setGovStateFrom_retval govs (i + 1) run
    have hsplit : (∀ j < (gov :: govs).length, outcome (i + j) ≠ .printFailed) ↔
        outcome i ≠ .printFailed ∧ ∀ j < govs.length, outcome (i + 1 + j) ≠ .printFailed := by
      rw [List.length_cons, Nat.forall_lt_succ_left]
      simp only [Nat.add_assoc, Nat.add_comm 1, Nat.add_zero]
    have hfailure : exitFailure ≠ exitSuccess := by decide
    rw [hsplit, setGovStateFrom]
    cases hfirst : outcome i <;> simp [ih, hfailure]

/-- What is written was written before, or a file takes it. -/
theorem mem_setGovStateFrom_written {file text : CString} :
    ∀ (govs : List CString) (i : ℕ) (run : GovctlRun),
    (file, text) ∈ (setGovStateFrom value outcome i run govs).written ↔
      (file, text) ∈ run.written ∨ text = fileContents value ∧
        ∃ j, govs[j]? = some file ∧ outcome (i + j) = .written
  | [], _, _ => by simp [setGovStateFrom]
  | gov :: govs, i, run => by
    have ih : ∀ run, (file, text) ∈ (setGovStateFrom value outcome (i + 1) run govs).written ↔
        (file, text) ∈ run.written ∨ text = fileContents value ∧
          ∃ j, govs[j]? = some file ∧ outcome (i + 1 + j) = .written :=
      fun run => mem_setGovStateFrom_written govs (i + 1) run
    have hsplit : (∃ j, (gov :: govs)[j]? = some file ∧ outcome (i + j) = .written) ↔
        file = gov ∧ outcome i = .written ∨
          ∃ j, govs[j]? = some file ∧ outcome (i + 1 + j) = .written := by
      rw [← Nat.or_exists_add_one]
      simp only [List.getElem?_cons_zero, List.getElem?_cons_succ, Option.some_inj, Nat.add_zero,
        Nat.add_assoc, Nat.add_comm 1, eq_comm]
    rw [hsplit, setGovStateFrom]
    cases hfirst : outcome i with
    | written =>
      simp only [ih, List.mem_append, List.mem_singleton, Prod.mk.injEq]
      tauto
    | _ => simp [ih]

/-- The helper succeeds unless a formatted write fails. -/
theorem setGovState_retval_iff {governors : List CString} :
    (setGovState value outcome governors).retval = exitSuccess ↔
      ∀ i < governors.length, outcome i ≠ .printFailed := by
  rw [setGovState, setGovStateFrom_retval, and_iff_right rfl]
  simp only [Nat.zero_add]

/-- What the helper writes. -/
theorem mem_setGovState_written {governors : List CString} {file text : CString} :
    (file, text) ∈ (setGovState value outcome governors).written ↔
      text = fileContents value ∧ ∃ i, governors[i]? = some file ∧ outcome i = .written := by
  rw [setGovState, mem_setGovStateFrom_written, or_iff_right List.not_mem_nil]
  simp only [Nat.zero_add]

theorem setGovStateFrom_of_written : ∀ (govs : List CString) (i : ℕ) (run : GovctlRun),
    (setGovStateFrom value (fun _ => .written) i run govs).written =
      run.written ++ govs.map fun gov => (gov, fileContents value)
  | [], _, run => (List.append_nil run.written).symm
  | gov :: govs, i, run => by
    rw [setGovStateFrom, List.map_cons]
    exact (setGovStateFrom_of_written govs _ _).trans (List.append_assoc _ _ _)

theorem setGovState_of_written (governors : List CString) :
    (setGovState value (fun _ => .written) governors).written.map Prod.fst = governors := by
  rw [setGovState, setGovStateFrom_of_written, List.nil_append, List.map_map]
  exact List.map_id governors

end Loop

/-- The arguments of `cpugovctl set`. -/
def govctlSetArgs (value : CString) : List CString := ["cpugovctl".toList, "set".toList, value]

theorem cpugovctl_set (outcome : ℕ → WriteOutcome) (root : Bool) (state value : CString)
    (governors : List CString) :
    cpugovctl outcome root state governors (govctlSetArgs value) =
      if root then setGovState value outcome governors else ⟨exitFailure, [], []⟩ := by
  cases root <;> simp [cpugovctl, govctlSetArgs]

/-! ### Every file once -/

/-- Every governor file is handled once: no file is found twice; where there is room for all of
them, all are found; and then `cpugovctl set` writes each of them once. -/
structure HandledOnce (realpath : CString → Option CString) (paths : List CString) : Prop where
  nodup : (fetchGovernors realpath (some paths)).Nodup
  complete : (governorFiles realpath paths).card ≤ maxGovernors →
    ∀ file ∈ governorFiles realpath paths, file ∈ fetchGovernors realpath (some paths)
  writes : (governorFiles realpath paths).card ≤ maxGovernors →
    ∀ file ∈ governorFiles realpath paths, ∀ state value,
      ((cpugovctl (fun _ => .written) true state (fetchGovernors realpath (some paths))
        (govctlSetArgs value)).written.map Prod.fst).count file = 1

/-- **Every file once.** The governor files are handled once exactly when no two of the first
results of the glob lead to the same file and, where there is room for all files, the other results
lead to files of the first ones. -/
theorem handledOnce_iff (realpath : CString → Option CString) (paths : List CString) :
    HandledOnce realpath paths ↔
      Unshared realpath (paths.take maxGovernors) ∧
        ((governorFiles realpath paths).card ≤ maxGovernors →
          governorFiles realpath (paths.drop maxGovernors) ⊆
            governorFiles realpath (paths.take maxGovernors)) := by
  constructor
  · intro h
    exact ⟨nodup_fetchGovernors_iff.1 h.nodup,
      fun hroom => subset_fetchGovernors_iff.1 (h.complete hroom)⟩
  · rintro ⟨hunshared, hothers⟩
    have hnodup := nodup_fetchGovernors_iff.2 hunshared
    have hcomplete : (governorFiles realpath paths).card ≤ maxGovernors →
        ∀ file ∈ governorFiles realpath paths, file ∈ fetchGovernors realpath (some paths) :=
      fun hroom => subset_fetchGovernors_iff.2 (hothers hroom)
    refine ⟨hnodup, hcomplete, fun hroom file hfile state value => ?_⟩
    rw [cpugovctl_set, if_pos rfl, setGovState_of_written]
    exact List.count_eq_one_of_mem hnodup (hcomplete hroom file hfile)

/-- Two CPUs share a file: it is found and written twice. -/
theorem not_handledOnce_of_shared :
    ¬HandledOnce (fun _ => some "policy0".toList) ["cpu0".toList, "cpu1".toList] ∧
      (cpugovctl (fun _ => .written) true [] (fetchGovernors (fun _ => some "policy0".toList)
        (some ["cpu0".toList, "cpu1".toList])) (govctlSetArgs "powersave".toList)).written =
          [("policy0".toList, "powersave\n".toList), ("policy0".toList, "powersave\n".toList)] := by
  refine ⟨fun h => ?_, by decide⟩
  exact absurd h.nodup (by decide)

end GameMode
