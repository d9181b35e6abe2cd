import GameMode.Library.CString
import GameMode.Library.Occurrences
import Mathlib.Data.List.DropRight

/-!
# Recognising wine

The daemon recognises the loaders and preloaders of wine by the end of the path of the executable.
The test for the end looks at the first occurrence only, so a path in which the name occurs earlier,
as that of `/opt/wine/bin/wine`, is not recognised.

## Main definitions

* `strtail`: the test for the end of a string.
* `detectWineLoader`, `detectWinePreloader`: the two tests of a path.
* `ExePath`: a path with a directory.

## Main results

* `strtail_eq_some_iff`: a string whose end is found.
* `ExePath.occursBefore_iff`: the name occurs earlier when the directory has it.
* `wineDetection_iff`: when the tests are right.

Source: `common/common-helpers.h`; `daemon/gamemode-wine.c`.
-/

namespace GameMode

open Occurrences

/-- `strstr`. -/
def strstr (haystack needle : CString) : Option CString := firstTail needle haystack

/-- `strtail`. -/
def strtail (haystack needle : CString) : Option CString :=
  match strstr haystack needle with
  | none => none
  | some pos => if pos.length = needle.length then some pos else none

/-- `game_mode_detect_wine_preloader`. -/
def detectWinePreloader (exe : CString) : Bool :=
  (strtail exe "/wine-preloader".toList).isSome || (strtail exe "/wine64-preloader".toList).isSome

/-- `game_mode_detect_wine_loader`. -/
def detectWineLoader (exe : CString) : Bool :=
  (strtail exe "/wine".toList).isSome || (strtail exe "/wine64".toList).isSome

/-! ### The end of a string -/

theorem strtail_eq_some_iff {haystack needle pos : CString} :
    strtail haystack needle = some pos ↔
      pos = needle ∧ needle <:+ haystack ∧ ¬OccursBefore needle haystack := by
  rw [← firstTail_eq_self_iff, strtail, strstr]
  cases hfirst : firstTail needle haystack with
  | none => simp
  | some t =>
    rw [Option.ite_none_right_eq_some, Option.some_inj]
    constructor
    · rintro ⟨hlength, rfl⟩
      have heq : needle = t := (firstTail_spec hfirst).2.1.eq_of_length hlength.symm
      exact ⟨heq.symm, congrArg some heq.symm⟩
    · rintro ⟨rfl, heq⟩
      have heq := Option.some_inj.1 heq
      exact ⟨congrArg List.length heq, heq⟩

theorem strtail_isSome_iff (haystack needle : CString) :
    (strtail haystack needle).isSome = true ↔
      needle <:+ haystack ∧ ¬OccursBefore needle haystack := by
  rw [Option.isSome_iff_exists]
  simp only [strtail_eq_some_iff, exists_and_right, exists_eq, true_and]

/-! ### Paths -/

/-- A path with a directory, such as the absolute ones of executables. -/
structure ExePath where
  path : CString
  slash : '/' ∈ path

/-- The part of a path after the last slash. -/
def ExePath.lastComponent (exe : ExePath) : CString := exe.path.rtakeWhile (· != '/')

/-- The part of a path before the last slash. -/
def ExePath.directory (exe : ExePath) : CString := (exe.path.rdropWhile (· != '/')).dropLast

namespace ExePath

variable (exe : ExePath)

theorem slash_notMem_lastComponent : '/' ∉ exe.lastComponent := by
  intro h
  simpa using List.mem_rtakeWhile_imp h

/-- A path is its directory, a slash and its last component. -/
theorem path_eq : exe.path = exe.directory ++ '/' :: exe.lastComponent := by
  have hne : exe.path.rdropWhile (· != '/') ≠ [] := by
    intro hnil
    have hall := (List.rdropWhile_eq_nil_iff.1 hnil) '/' exe.slash
    simp at hall
  have hlast : (exe.path.rdropWhile (· != '/')).getLast hne = '/' := by
    simpa using List.rdropWhile_last_not _ _ hne
  have hdirectory : exe.path.rdropWhile (· != '/') = exe.directory ++ ['/'] :=
    (List.dropLast_append_getLast hne).symm.trans (congrArg (exe.directory ++ [·]) hlast)
  calc exe.path = exe.path.rdropWhile (· != '/') ++ exe.lastComponent :=
        List.rdropWhile_append_rtakeWhile.symm
    _ = (exe.directory ++ ['/']) ++ exe.lastComponent := by
        rw [hdirectory]
    _ = exe.directory ++ '/' :: exe.lastComponent := by
        rw [List.append_assoc, List.singleton_append]

private theorem eq_of_slash_cons_suffix {a b : CString} (h : '/' :: a <:+ '/' :: b)
    (hb : '/' ∉ b) : a = b := by
  rcases List.suffix_cons_iff.1 h with heq | hsuffix
  · exact List.tail_eq_of_cons_eq heq
  · exact absurd (hsuffix.subset List.mem_cons_self) hb

theorem slash_cons_suffix_iff {name : CString} (hname : '/' ∉ name) :
    '/' :: name <:+ exe.path ↔ exe.lastComponent = name := by
  have hlast : '/' :: exe.lastComponent <:+ exe.path :=
    ⟨exe.directory, exe.path_eq.symm⟩
  constructor
  · intro h
    rcases List.suffix_or_suffix_of_suffix h hlast with hsuffix | hsuffix
    · exact (eq_of_slash_cons_suffix hsuffix exe.slash_notMem_lastComponent).symm
    · exact eq_of_slash_cons_suffix hsuffix hname
  · rintro rfl
    exact hlast

/-- The name of an executable occurs earlier in its path when it occurs in the directory. -/
theorem occursBefore_iff {name : CString} (hname : exe.lastComponent = name) :
    OccursBefore ('/' :: name) exe.path ↔ '/' :: name <:+: exe.directory := by
  rw [exe.path_eq, hname]
  exact occursBefore_iff_infix (hname ▸ exe.slash_notMem_lastComponent)

theorem strtail_slash_cons_iff {name : CString} (hname : '/' ∉ name) :
    (strtail exe.path ('/' :: name)).isSome = true ↔
      exe.lastComponent = name ∧ ¬('/' :: name <:+: exe.directory) := by
  rw [strtail_isSome_iff, exe.slash_cons_suffix_iff hname]
  exact and_congr_right fun hlast => not_congr (exe.occursBefore_iff hlast)

/-- A test for one of two names is right when the name that the path has does not occur in its
directory. -/
theorem strtail_or_iff {a b : CString} (ha : '/' ∉ a) (hb : '/' ∉ b) :
    (((strtail exe.path ('/' :: a)).isSome || (strtail exe.path ('/' :: b)).isSome) = true ↔
        exe.lastComponent ∈ [a, b]) ↔
      ∀ name ∈ [a, b], exe.lastComponent = name → ¬('/' :: name <:+: exe.directory) := by
  rw [Bool.or_eq_true, exe.strtail_slash_cons_iff ha, exe.strtail_slash_cons_iff hb]
  simp only [List.mem_cons, List.not_mem_nil, or_false, forall_eq_or_imp, forall_eq]
  constructor
  · intro h
    refine ⟨fun hlast => ?_, fun hlast => ?_⟩
    · rcases h.2 (Or.inl hlast) with ⟨-, hnot⟩ | ⟨heq, hnot⟩
      · exact hnot
      · exact (heq.symm.trans hlast) ▸ hnot
    · rcases h.2 (Or.inr hlast) with ⟨heq, hnot⟩ | ⟨-, hnot⟩
      · exact (heq.symm.trans hlast) ▸ hnot
      · exact hnot
  · rintro ⟨hnot, hnot'⟩
    constructor
    · rintro (⟨heq, -⟩ | ⟨heq, -⟩)
      · exact Or.inl heq
      · exact Or.inr heq
    · rintro (heq | heq)
      · exact Or.inl ⟨heq, hnot heq⟩
      · exact Or.inr ⟨heq, hnot' heq⟩

end ExePath

/-! ### Wine -/

/-- The names of the loaders. -/
def wineLoaders : List CString := ["wine".toList, "wine64".toList]

/-- The names of the preloaders. -/
def winePreloaders : List CString := ["wine-preloader".toList, "wine64-preloader".toList]

/-- The tests of a path are right: they hold exactly for the names of wine. -/
structure RecognisesWine (exe : ExePath) : Prop where
  loader : detectWineLoader exe.path = true ↔ exe.lastComponent ∈ wineLoaders
  preloader : detectWinePreloader exe.path = true ↔ exe.lastComponent ∈ winePreloaders

/-- A path is recognised rightly when the name of wine that it has does not occur, after a slash, in
its directory. -/
theorem recognisesWine_iff (exe : ExePath) :
    RecognisesWine exe ↔ ∀ name ∈ wineLoaders ++ winePreloaders,
      exe.lastComponent = name → ¬('/' :: name <:+: exe.directory) := by
  have hloader := @ExePath.strtail_or_iff exe "wine".toList "wine64".toList (by decide) (by decide)
  have hpreloader := @ExePath.strtail_or_iff exe "wine-preloader".toList "wine64-preloader".toList
    (by decide) (by decide)
  rw [List.forall_mem_append]
  constructor
  · rintro ⟨h, h'⟩
    exact ⟨hloader.1 h, hpreloader.1 h'⟩
  · rintro ⟨h, h'⟩
    exact ⟨hloader.2 h, hpreloader.2 h'⟩

/-- **Recognising wine.** The end of a string is found exactly when it does not occur earlier, and
the tests of a path are right exactly when the name of wine that it has does not occur, after a
slash, in its directory. -/
theorem wineDetection_iff (haystack needle : CString) (exe : ExePath) :
    (((strtail haystack needle).isSome = true ↔ needle <:+ haystack) ↔
        (needle <:+ haystack → ¬OccursBefore needle haystack)) ∧
      (RecognisesWine exe ↔ ∀ name ∈ wineLoaders ++ winePreloaders,
        exe.lastComponent = name → ¬('/' :: name <:+: exe.directory)) := by
  refine ⟨?_, recognisesWine_iff exe⟩
  rw [strtail_isSome_iff]
  tauto

/-- `/opt/wine/bin/wine` ends with `/wine`, and is not recognised. -/
theorem not_recognisesWine_of_earlier :
    strtail "/opt/wine/bin/wine".toList "/wine".toList = none ∧
      "/wine".toList <:+ "/opt/wine/bin/wine".toList ∧
      ¬RecognisesWine ⟨"/opt/wine/bin/wine".toList, by decide⟩ := by
  refine ⟨by decide, by decide, fun h => ?_⟩
  exact absurd (h.loader.2 (by decide)) (by decide)

end GameMode
