import GameMode.Common.Pidfds
import GameMode.Library.Numeral

/-!
# The paths of game objects

The daemon offers an object on the bus for every registered game. Its path ends in the process
identifier, printed as an unsigned 32-bit number; the other way round, the text after the prefix is
read by `strtoul`, narrowed to a process identifier, and carried in a pointer.

`strtoul` skips blanks, takes a sign, takes zeros before the number and stops at the first character
that is no digit, and the narrowing drops what is above 32 bits. So a path of a game is found, but
paths that no game has are found as well.

## Main definitions

* `gameObjectBusPath`, `gameObjectFind`: from a process identifier to a path, and back.
* `gameNodeEnumerator`, `methodListGames`: the paths that are reported.
* `PathsDenoteGames`: paths and games correspond one to one.
* `CanonicalPath`: the path has the form in which paths are printed.

## Main results

* `gameObjectBusPath_eq`, `findGame_gameObjectBusPath`: a path is complete and found.
* `pathsDenoteGames_iff`: for which paths the correspondence holds.

Source: `daemon/gamemode-dbus.c`.
-/

namespace GameMode

open CString

/-! ### Printing and finding -/

/-- `GAME_PATH_PREFIX`. -/
def gamePathPrefix : CString := "/com/feralinteractive/GameMode/Games".toList

/-- `GAME_PATH_MAX`. -/
def gamePathMax : ℕ := gamePathPrefix.length + 1 + 11

/-- `game_object_bus_path`. -/
def gameObjectBusPath (pid : ℤ) : CString :=
  (gamePathPrefix ++ '/' :: CString.decimal (pid % 2 ^ 32)).truncate gamePathMax

/-- `pid_to_pointer`. -/
def pidToPointer (pid : ℤ) : ℕ := (pid % 2 ^ 64).toNat

/-- `pid_from_pointer`. -/
def pidFromPointer (pointer : ℕ) : Pid := (pointer : ℤ).bmod (2 ^ 32)

/-- `game_object_find`: the pointer when an object is found. An `unsigned long` has 64 bits, as an
`unsigned long long` has. -/
def gameObjectFind (path : CString) : Option ℕ :=
  if ¬gamePathPrefix ++ ['/'] <+: path then none
  else
    let start := path.drop (gamePathPrefix ++ ['/']).length
    let n := strtoullTen start
    if start = n.endp ∨ n.erange then none else some (pidToPointer (n.value.bmod (2 ^ 32)))

/-- The process identifier that the handlers of the properties take from the pointer. -/
def findGame (path : CString) : Option Pid := (gameObjectFind path).map pidFromPointer

/-- `game_node_enumerator`, for the processes of the clients. -/
def gameNodeEnumerator (clients : List Pid) : List CString := clients.map gameObjectBusPath

/-- The reply of `method_list_games`. -/
def methodListGames (clients : List Pid) : List (Pid × CString) :=
  clients.map fun pid => (pid, gameObjectBusPath pid)

/-- A value of `pid_t`. -/
def IsPid (pid : ℤ) : Prop := -2 ^ 31 ≤ pid ∧ pid < 2 ^ 31

theorem pidToPointer_cast (pid : ℤ) : (pidToPointer pid : ℤ) = pid % 2 ^ 64 :=
  Int.toNat_of_nonneg (Int.emod_nonneg pid (by norm_num))

theorem IsPid.bmod_eq {pid : ℤ} (h : IsPid pid) : pid.bmod (2 ^ 32) = pid := by
  obtain ⟨hmin, hmax⟩ := h
  rw [Int.bmod_def]
  split_ifs <;> omega

theorem emod_bmod_of_long (pid : ℤ) : (pid % 2 ^ 64).bmod (2 ^ 32) = pid.bmod (2 ^ 32) := by
  have hcast : ((2 ^ 32 : ℕ) : ℤ) = 2 ^ 32 := by norm_num
  have hmod : pid % 2 ^ 64 % 2 ^ 32 = pid % 2 ^ 32 :=
    Int.emod_emod_of_dvd pid (pow_dvd_pow 2 (by decide : 32 ≤ 64))
  rw [Int.bmod_def, Int.bmod_def, hcast, hmod]

theorem pidFromPointer_pidToPointer {pid : ℤ} (h : IsPid pid) :
    pidFromPointer (pidToPointer pid) = pid :=
  calc
    pidFromPointer (pidToPointer pid) = (pidToPointer pid : ℤ).bmod (2 ^ 32) := rfl
    _ = (pid % 2 ^ 64).bmod (2 ^ 32) := congrArg (Int.bmod · (2 ^ 32)) (pidToPointer_cast pid)
    _ = pid.bmod (2 ^ 32) := emod_bmod_of_long pid
    _ = pid := h.bmod_eq

theorem isPid_bmod (n : ℤ) : IsPid (n.bmod (2 ^ 32)) := by
  have hle := @Int.le_bmod n (2 ^ 32) (by norm_num)
  have hlt := @Int.bmod_lt n (2 ^ 32) (by norm_num)
  exact ⟨by omega, by omega⟩

theorem emod_pid (pid : ℤ) : 0 ≤ pid % 2 ^ 32 ∧ pid % 2 ^ 32 < 2 ^ 32 :=
  ⟨Int.emod_nonneg pid (by norm_num), Int.emod_lt_of_pos pid (by norm_num)⟩

theorem length_decimal_le {k : ℤ} (hpos : 0 ≤ k) (hlt : k < 2 ^ 32) :
    (CString.decimal k).length ≤ 10 := by
  have hnat : k.natAbs < 10 ^ 10 := by omega
  rw [CString.decimal, if_neg (by omega)]
  exact (Nat.length_toDigits_le_iff (by decide) (by decide)).2 hnat

/-- The path of a game is complete. -/
theorem gameObjectBusPath_eq (pid : ℤ) :
    gameObjectBusPath pid = gamePathPrefix ++ '/' :: CString.decimal (pid % 2 ^ 32) := by
  refine CString.truncate_of_length_lt ?_
  have hlength := length_decimal_le (emod_pid pid).1 (emod_pid pid).2
  rw [List.length_append, List.length_cons, gamePathMax]
  omega

/-- What the number after the prefix denotes. -/
theorem findGame_numeral (n : Numeral) {rest : CString} (h : NoDigitFirst rest) :
    findGame (gamePathPrefix ++ '/' :: (n.text ++ rest)) =
      if ullongMax < n.natValue then none else some (n.ullong.bmod (2 ^ 32)) := by
  have hstart : gamePathPrefix ++ '/' :: (n.text ++ rest) =
      (gamePathPrefix ++ ['/']) ++ (n.text ++ rest) := by
    rw [List.append_assoc, List.singleton_append]
  have hne : n.text ++ rest ≠ rest := n.text_append_ne rest
  rw [findGame, gameObjectFind, hstart, if_neg (not_not_intro (List.prefix_append _ _)),
    List.drop_left]
  by_cases hmax : ullongMax < (n.natValue : ℤ)
  · simp [strtoullTen_numeral n h, hmax]
  · simp only [strtoullTen_numeral n h, if_neg hmax, hne, Bool.false_eq_true, or_self, if_false,
      Option.map_some, pidFromPointer_pidToPointer (isPid_bmod _)]

/-- A path that is found has a number after the prefix. -/
theorem exists_numeral_of_findGame {path : CString} {pid : Pid} (h : findGame path = some pid) :
    ∃ (n : Numeral) (rest : CString), NoDigitFirst rest ∧
      path = gamePathPrefix ++ '/' :: (n.text ++ rest) := by
  rw [findGame, gameObjectFind] at h
  by_cases hpart : gamePathPrefix ++ ['/'] <+: path
  · obtain ⟨start, rfl⟩ := hpart
    rw [if_neg (not_not_intro (List.prefix_append _ _)), List.drop_left] at h
    by_cases hnone : start = (strtoullTen start).endp
    · simp [← hnone] at h
    · obtain ⟨n, htext, hrest⟩ := exists_numeral_of_strtoullTen (Ne.symm hnone)
      refine ⟨n, _, hrest, ?_⟩
      rw [← htext, List.append_assoc, List.singleton_append]
  · rw [if_pos hpart] at h
    cases h

theorem gameObjectBusPath_eq_ofNat (pid : ℤ) :
    gameObjectBusPath pid =
      gamePathPrefix ++ '/' :: ((Numeral.ofNat (pid % 2 ^ 32).toNat).text ++ []) := by
  have hnonneg := (emod_pid pid).1
  have habs : (pid % 2 ^ 32).natAbs = (pid % 2 ^ 32).toNat := by omega
  rw [gameObjectBusPath_eq, CString.decimal, if_neg (not_lt.2 hnonneg), habs, List.append_nil,
    Numeral.text_ofNat]

/-- The path of a game is found, and yields its process identifier. -/
theorem findGame_gameObjectBusPath {pid : ℤ} (h : IsPid pid) :
    findGame (gameObjectBusPath pid) = some pid := by
  obtain ⟨hnonneg, hlt⟩ := emod_pid pid
  have hfits : ¬ullongMax < ((pid % 2 ^ 32).toNat : ℤ) := by
    rw [Int.toNat_of_nonneg hnonneg]
    exact not_lt.2 (hlt.le.trans (by decide))
  have hmod : (pid % 2 ^ 32).bmod (2 ^ 32) = pid := (Int.emod_bmod pid (2 ^ 32)).trans h.bmod_eq
  rw [gameObjectBusPath_eq_ofNat, findGame_numeral _ noDigitFirst_nil, Numeral.natValue_ofNat,
    if_neg hfits, Numeral.ullong_ofNat, Int.toNat_of_nonneg hnonneg, hmod]

/-! ### One to one -/

section Paths

variable (paths : Set CString)

/-- The paths correspond to the games one to one: the path of every process is complete and yields
the process; a path that is found is the path of the game that it yields; two paths never yield the
same game; and only a path that is reported yields a registered game. -/
structure PathsDenoteGames : Prop where
  complete : ∀ pid, IsPid pid →
    gameObjectBusPath pid = gamePathPrefix ++ '/' :: CString.decimal (pid % 2 ^ 32)
  found : ∀ pid, IsPid pid → findGame (gameObjectBusPath pid) = some pid
  only : ∀ path ∈ paths, ∀ pid, findGame path = some pid → path = gameObjectBusPath pid
  injective : ∀ path ∈ paths, ∀ path' ∈ paths, ∀ pid, findGame path = some pid →
    findGame path' = some pid → path = path'
  reported : ∀ clients : List Pid, ∀ path ∈ paths, ∀ pid ∈ clients, findGame path = some pid →
    path ∈ gameNodeEnumerator clients ∧ (pid, path) ∈ methodListGames clients

/-- Where the prefix is followed by a number that an `unsigned long` can hold, the number has at
most 32 bits and is written as `%u` writes it, and nothing follows. -/
def CanonicalPath (path : CString) : Prop :=
  ∀ (n : Numeral) (rest : CString), NoDigitFirst rest →
    path = gamePathPrefix ++ '/' :: (n.text ++ rest) → (n.natValue : ℤ) ≤ ullongMax →
      n = Numeral.ofNat n.natValue ∧ n.natValue < 2 ^ 32 ∧ rest = []

variable {paths}

/-- A path in the printed form is the path of the game that it yields. -/
theorem CanonicalPath.eq_gameObjectBusPath {path : CString} {pid : ℤ} (h : CanonicalPath path)
    (hfind : findGame path = some pid) : path = gameObjectBusPath pid := by
  obtain ⟨n, rest, hrest, rfl⟩ := exists_numeral_of_findGame hfind
  rw [findGame_numeral n hrest] at hfind
  by_cases hmax : ullongMax < (n.natValue : ℤ)
  · rw [if_pos hmax] at hfind
    cases hfind
  · rw [if_neg hmax] at hfind
    obtain ⟨hn, hlt, rfl⟩ := h n rest hrest rfl (not_lt.1 hmax)
    rw [hn, Numeral.ullong_ofNat, Option.some_inj] at hfind
    have hmod : (n.natValue : ℤ).bmod (2 ^ 32) % 2 ^ 32 = n.natValue := by
      have hbmod : (n.natValue : ℤ).bmod (2 ^ 32) % ((2 ^ 32 : ℕ) : ℤ) =
        (n.natValue : ℤ) % ((2 ^ 32 : ℕ) : ℤ) := Int.bmod_emod
      omega
    rw [← hfind, gameObjectBusPath_eq_ofNat, hmod, Int.toNat_natCast, ← hn]

/-- A path that is the path of the game that it yields is in the printed form. -/
theorem canonicalPath_of_eq {path : CString}
    (h : ∀ pid, findGame path = some pid → path = gameObjectBusPath pid) :
    CanonicalPath path := by
  intro n rest hrest hpath hmax
  have hfind := findGame_numeral n hrest
  rw [if_neg (not_lt.2 hmax), ← hpath] at hfind
  have heq := (h _ hfind).symm
  rw [gameObjectBusPath_eq_ofNat, hpath, List.append_cancel_left_eq, List.cons.injEq] at heq
  obtain ⟨hn, hnil⟩ := Numeral.text_append_inj noDigitFirst_nil hrest heq.2
  have hvalue := congrArg Numeral.natValue hn
  rw [Numeral.natValue_ofNat] at hvalue
  refine ⟨?_, ?_, hnil.symm⟩
  · rw [← hvalue, hn]
  · have hlt := (emod_pid (n.ullong.bmod (2 ^ 32))).2
    omega

/-- **Paths of games.** Paths and games correspond one to one for the paths that are in the printed
form, and for no others. -/
theorem pathsDenoteGames_iff :
    PathsDenoteGames paths ↔ ∀ path ∈ paths, CanonicalPath path := by
  constructor
  · exact fun h path hpath => canonicalPath_of_eq (h.only path hpath)
  · intro h
    have honly : ∀ path ∈ paths, ∀ pid, findGame path = some pid →
        path = gameObjectBusPath pid := fun path hpath pid hfind =>
      (h path hpath).eq_gameObjectBusPath hfind
    refine ⟨fun pid _ => gameObjectBusPath_eq pid, fun pid hpid => findGame_gameObjectBusPath hpid,
      honly, ?_, ?_⟩
    · intro path hpath path' hpath' pid hfind hfind'
      rw [honly path hpath pid hfind, honly path' hpath' pid hfind']
    · intro clients path hpath pid hpid hfind
      rw [honly path hpath pid hfind]
      exact ⟨List.mem_map_of_mem hpid, List.mem_map.2 ⟨pid, hpid, rfl⟩⟩

end Paths

/-- A zero before the number: the path is found, although it is the path of no game. -/
theorem not_pathsDenoteGames :
    findGame (gamePathPrefix ++ "/05".toList) = some 5 ∧
      gameObjectBusPath 5 = gamePathPrefix ++ "/5".toList ∧
      ¬PathsDenoteGames Set.univ := by
  have hfind : findGame (gamePathPrefix ++ "/05".toList) = some 5 := by decide
  have hpath : gameObjectBusPath 5 = gamePathPrefix ++ "/5".toList := by decide
  refine ⟨hfind, hpath, fun h => ?_⟩
  have heq := h.only _ (Set.mem_univ _) 5 hfind
  rw [hpath] at heq
  exact absurd heq (by decide)

end GameMode
