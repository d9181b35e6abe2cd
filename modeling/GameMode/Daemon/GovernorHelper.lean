import GameMode.Common.External
import GameMode.Util.Cpugovctl

/-!
# What a helper command tells the daemon

The daemon believes its helper commands: the mode of the governor and of the platform profile
changes when the result of the command is zero. Here the result comes from the child process, and
for the governor from the program that the child runs.

## Main definitions

* `NeverMisreported`: only a helper that succeeded changes a mode.
* `SuccessReaches`: a helper that succeeded has set every governor file.

## Main results

* `neverMisreported_iff`: when failures are reported.
* `successReaches_iff`: when success means that every CPU has the governor.

Source: `daemon/gamemode-context.c`, `game_mode_set_governor` and `game_mode_set_profile`;
`common/common-external.c`; `util/cpugovctl.c`.
-/

namespace GameMode

/-- Whether the call of a helper that sets the governor or the profile gives zero. -/
def ChildProcess.ok (child : ChildProcess) : Bool := (runExternalProcess child false (-1)).ret = 0

/-! ### Failures -/

/-- A helper command that did not succeed is not reported as success: neither to any caller, nor in
the modes of the governor and of the profile. -/
structure NeverMisreported (child : ChildProcess) : Prop where
  result : ∀ buffer tsec, (runExternalProcess child buffer tsec).ret = 0 → child.Succeeded tsec
  governor : ∀ config gov s, (setGovernor config gov child.ok s).2.current ≠ s.current →
    child.fork = true ∧ child.status defaultTimeout = some (.exited 0)
  profile : ∀ config prof s, (setProfile config prof child.ok s).2.current ≠ s.current →
    child.fork = true ∧ child.status defaultTimeout = some (.exited 0)

theorem ok_of_setGovernor_current_ne {config : Config} {gov : GameModeGovernor} {ok : Bool}
    {s : GovernorState} (h : (setGovernor config gov ok s).2.current ≠ s.current) : ok = true := by
  rw [setGovernor, SavedSetting.set] at h
  split_ifs at h with hcurrent hok
  · exact absurd rfl h
  · exact hok
  · exact absurd rfl h

theorem ok_of_setProfile_current_ne {config : Config} {prof : GameModeProfile} {ok : Bool}
    {s : ProfileState} (h : (setProfile config prof ok s).2.current ≠ s.current) : ok = true := by
  rw [setProfile] at h
  split_ifs at h with hcurrent hsystem
  · exact absurd rfl h
  · exact absurd rfl h
  · rw [SavedSetting.set, if_neg hcurrent] at h
    split_ifs at h with hok
    · exact hok
    · exact absurd rfl h

/-- **Failures.** Every failure is reported exactly when there is no pipe, or there is a child whose
status shows how it ended, and its output ends before any timeout where the status is zero. -/
theorem neverMisreported_iff (child : ChildProcess) :
    NeverMisreported child ↔ ∀ tsec, child.FailsVisibly tsec := by
  constructor
  · exact fun h tsec => (succeeded_of_eq_zero_iff false tsec).1 (h.result false tsec)
  · intro h
    have hresult : ∀ buffer tsec, (runExternalProcess child buffer tsec).ret = 0 →
        child.Succeeded tsec :=
      fun buffer tsec => (succeeded_of_eq_zero_iff buffer tsec).2 (h tsec)
    have hok : child.ok = true →
        child.fork = true ∧ child.status defaultTimeout = some (.exited 0) := by
      intro hok
      have hsucceeded := hresult false (-1) (of_decide_eq_true hok)
      exact ⟨hsucceeded.fork, hsucceeded.status⟩
    exact ⟨hresult, fun config gov s hne => hok (ok_of_setGovernor_current_ne hne),
      fun config prof s hne => hok (ok_of_setProfile_current_ne hne)⟩

private def hangingHelper : ChildProcess := ⟨true, true, fun _ => [], fun _ => some (.signaled 9)⟩

/-- A helper that hangs is killed, and the governor counts as changed. -/
theorem not_neverMisreported_of_hanging :
    runExternalProcess hangingHelper false (-1) = ⟨0, none, true⟩ ∧
      (setGovernor Config.initial .desired hangingHelper.ok ⟨.default, [], []⟩).2.current =
        .desired ∧
      ¬NeverMisreported hangingHelper := by
  have hrun : runExternalProcess hangingHelper false (-1) = ⟨0, none, true⟩ := by
    simp [runExternalProcess, hangingHelper, readChildStdout_eq, outputOf, OutputEnd.result]
  refine ⟨hrun, ?_, fun h => ?_⟩
  · rw [ChildProcess.ok, hrun]
    rfl
  · have hsucceeded := h.result false (-1) (by rw [hrun])
    exact absurd hsucceeded.status (by decide)

/-! ### Success -/

section Machine

variable (realpath : CString → Option CString) (paths : List CString) (outcome : ℕ → WriteOutcome)

/-- What the helper command of `game_mode_set_governor` does. -/
def governorHelper (root : Bool) (state value : CString) : GovctlRun :=
  cpugovctl outcome root state (fetchGovernors realpath (some paths)) (govctlSetArgs value)

/-- Success of `cpugovctl set` means that the governor reached every governor file; and so does the
mode that the daemon is in afterwards. -/
structure SuccessReaches : Prop where
  helper : ∀ value,
    (setGovState value outcome (fetchGovernors realpath (some paths))).retval = exitSuccess →
      ∀ file ∈ governorFiles realpath paths, (file, fileContents value) ∈
        (setGovState value outcome (fetchGovernors realpath (some paths))).written
  daemon : ∀ (config : Config) (root : Bool) (state : CString) (s : GovernorState),
    s.current ≠ .desired →
    (setGovernor config .desired ((governorHelper realpath paths outcome root state
      (governorText config s.saved .desired)).retval = exitSuccess) s).2.current = .desired →
    ∀ file ∈ governorFiles realpath paths,
      (file, fileContents (governorText config s.saved .desired)) ∈
        (governorHelper realpath paths outcome root state
          (governorText config s.saved .desired)).written

end Machine

/-- A file that was found takes the governor. -/
def TakesGovernor (governors : List CString) (outcome : ℕ → WriteOutcome) (file : CString) : Prop :=
  ∃ i, governors[i]? = some file ∧ outcome i = .written

/-- **Success.** It means that the governor reached every file exactly when the formatted write
fails for a file that was found, or every governor file was found and takes the governor. -/
theorem successReaches_iff (realpath : CString → Option CString) (paths : List CString)
    (outcome : ℕ → WriteOutcome) :
    SuccessReaches realpath paths outcome ↔
      (∃ i < ((paths.take maxGovernors).filterMap realpath).length, outcome i = .printFailed) ∨
        ∀ file ∈ governorFiles realpath paths,
          TakesGovernor ((paths.take maxGovernors).filterMap realpath) outcome file := by
  rw [← fetchGovernors_some]
  constructor
  · intro h
    by_cases hprint : ∃ i < (fetchGovernors realpath (some paths)).length,
        outcome i = .printFailed
    · exact Or.inl hprint
    · refine Or.inr fun file hfile => ?_
      simp only [not_exists, not_and] at hprint
      have hwritten := h.helper [] (setGovState_retval_iff.2 hprint) file hfile
      exact (mem_setGovState_written.1 hwritten).2
  · intro h
    have hhelper : ∀ value,
        (setGovState value outcome (fetchGovernors realpath (some paths))).retval = exitSuccess →
          ∀ file ∈ governorFiles realpath paths, (file, fileContents value) ∈
            (setGovState value outcome (fetchGovernors realpath (some paths))).written := by
      intro value hsuccess file hfile
      have hprint := setGovState_retval_iff.1 hsuccess
      rcases h with ⟨i, hi, hfailed⟩ | hall
      · exact absurd hfailed (hprint i hi)
      · exact mem_setGovState_written.2 ⟨rfl, hall file hfile⟩
    refine ⟨hhelper, fun config root state s hne hcurrent => ?_⟩
    have hsuccess := of_decide_eq_true
      ((SavedSetting.set_current_eq_iff s .desired _ _ hne).1 hcurrent)
    rw [governorHelper, cpugovctl_set] at hsuccess ⊢
    split_ifs at hsuccess ⊢ with hroot
    · exact hhelper _ hsuccess
    · exact absurd (hsuccess : exitFailure = exitSuccess) (by decide)

/-- The kernel rejects the governor of the only CPU, and the helper succeeds. -/
theorem not_successReaches_of_rejected :
    setGovState "performance".toList (fun _ => .flushFailed) ["policy0".toList] =
        ⟨exitSuccess, [], []⟩ ∧
      ¬SuccessReaches some ["policy0".toList] fun _ => .flushFailed := by
  have hrun : setGovState "performance".toList (fun _ => .flushFailed)
      (fetchGovernors some (some ["policy0".toList])) = ⟨exitSuccess, [], []⟩ := by
    decide
  refine ⟨by decide, fun h => ?_⟩
  have hwritten := h.helper "performance".toList (by rw [hrun]) "policy0".toList (by decide)
  rw [hrun] at hwritten
  cases hwritten

end GameMode
