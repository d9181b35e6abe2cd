import GameMode.Library.CString
import Mathlib.Data.Finset.Card

/-!
# Finding the governor files

Every CPU has a governor file, and CPUs may share one: the paths of a glob are resolved, and each
file should be found once. The loop looks at a bounded number of results of the glob, and the search
for a path that it found before does not skip it.

## Main definitions

* `fetchGovernors`: the files found.
* `governorFiles`: the files that there are.

## Main results

* `fetchGovernors_some`: the files found are those of the first results.
* `nodup_fetchGovernors_iff`: when each file is found once.
* `subset_fetchGovernors_iff`: when all files are found.

Source: `common/common-governors.c`, `fetch_governors`.
-/

namespace GameMode

/-- `MAX_GOVERNORS`. -/
def maxGovernors : ℕ := 128

variable (realpath : CString → Option CString)

/-- The loop of `fetch_governors` over the results of the glob. -/
def fetchGovernorsFrom : ℕ → List CString → List CString → List CString
  | _, governors, [] => governors
  | i, governors, path :: paths =>
    if maxGovernors ≤ i then governors
    else
      match realpath path with
      | none => fetchGovernorsFrom (i + 1) governors paths
      -- the search for the path continues its own loop, and has no effect
      | some fullpath => fetchGovernorsFrom (i + 1) (governors ++ [fullpath]) paths

/-- `fetch_governors`, for the results of the glob, unless it fails. -/
def fetchGovernors (glob : Option (List CString)) : List CString :=
  match glob with
  | none => []
  | some paths => fetchGovernorsFrom realpath 0 [] paths

/-- The governor files of some results of the glob. -/
def governorFiles (paths : List CString) : Finset CString := (paths.filterMap realpath).toFinset

variable {realpath}

theorem fetchGovernorsFrom_eq : ∀ (paths : List CString) (i : ℕ) (governors : List CString),
    fetchGovernorsFrom realpath i governors paths =
      governors ++ (paths.take (maxGovernors - i)).filterMap realpath
  | [], _, governors => by simp [fetchGovernorsFrom]
  | path :: paths, i, governors => by
    rw [fetchGovernorsFrom]
    split_ifs with hfull
    · rw [Nat.sub_eq_zero_of_le hfull]
      exact (List.append_nil governors).symm
    · have hroom : maxGovernors - i = maxGovernors - (i + 1) + 1 := by omega
      rw [hroom, List.take_succ_cons]
      cases hpath : realpath path with
      | none =>
        rw [List.filterMap_cons_none hpath]
        exact fetchGovernorsFrom_eq paths _ _
      | some fullpath =>
        rw [List.filterMap_cons_some hpath]
        exact (fetchGovernorsFrom_eq paths _ _).trans (List.append_assoc _ _ _)

/-- The files found are those of the first results, in order. -/
theorem fetchGovernors_some (paths : List CString) :
    fetchGovernors realpath (some paths) = (paths.take maxGovernors).filterMap realpath :=
  fetchGovernorsFrom_eq paths 0 []

/-- No two of the results lead to the same file. -/
def Unshared (realpath : CString → Option CString) (paths : List CString) : Prop :=
  paths.Pairwise fun path path' => ∀ file, realpath path = some file → realpath path' ≠ some file

/-- Each file is found once exactly when no two of the first results lead to the same one. -/
theorem nodup_fetchGovernors_iff {paths : List CString} :
    (fetchGovernors realpath (some paths)).Nodup ↔
      Unshared realpath (paths.take maxGovernors) := by
  rw [fetchGovernors_some, List.Nodup, List.pairwise_filterMap, Unshared]
  constructor <;> refine fun h => h.imp fun {path path'} hne => ?_
  · exact fun file hfile hfile' => hne file hfile file hfile' rfl
  · rintro file hfile file' hfile' rfl
    exact hne file hfile hfile'

/-- All files are found exactly when the other results lead to files of the first ones. -/
theorem subset_fetchGovernors_iff {paths : List CString} :
    (∀ file ∈ governorFiles realpath paths, file ∈ fetchGovernors realpath (some paths)) ↔
      governorFiles realpath (paths.drop maxGovernors) ⊆
        governorFiles realpath (paths.take maxGovernors) := by
  have hsplit : governorFiles realpath paths =
      governorFiles realpath (paths.take maxGovernors) ∪
        governorFiles realpath (paths.drop maxGovernors) := by
    rw [governorFiles, governorFiles, governorFiles, ← List.toFinset_append,
      ← List.filterMap_append, List.take_append_drop]
  have hfetch : ∀ file, file ∈ fetchGovernors realpath (some paths) ↔
      file ∈ governorFiles realpath (paths.take maxGovernors) := by
    intro file
    rw [fetchGovernors_some, governorFiles, List.mem_toFinset]
  simp only [hfetch, hsplit, Finset.mem_union]
  constructor
  · exact fun h file hfile => h file (Or.inr hfile)
  · rintro h file (hfile | hfile)
    · exact hfile
    · exact h hfile

end GameMode
