import GameMode.Daemon.Registry
import GameMode.Daemon.Wine
import GameMode.Library.Records
import Mathlib.Data.List.Find

/-!
# The executable of a process

The daemon finds the executable of a process by its link under `/proc`. For a game that runs in wine
this is a loader of wine, so the daemon looks for the program in the first two arguments of the
process, and for the prefix in its environment or in the home directory of the user. The program has
a Windows path: its separators are converted and its drive letter becomes lower case, and the rest
is left to the links that wine keeps in the prefix. Where any of this fails, the executable is the
loader.

Arguments and environment are files whose entries end with a NUL. The test for the drive letter
looks at the second byte of the buffer, which is a NUL for an argument of less than two bytes.

## Main definitions

* `lookupProcEnv`, `wineExeLoop`, `resolveWinePreloader`, `contextFindExe`.
* `ProcessImage`: the arguments and the environment that a process was started with.
* `ProcessImage.Maps`: the process runs a program in wine, and what its path is mapped to.

## Main results

* `lookupProcEnv_files`: a variable is found under its name.
* `contextFindExe_files_iff`: the executable of a process.
* `contextRegister_of_wine`: a game in wine is admitted by its own path.
* `dosDevicePath_eq_iff`: the programs that have the same path.

Source: `daemon/gamemode-wine.c`; `daemon/gamemode-context.c`, `game_mode_context_find_exe`.
-/

namespace GameMode

/-! ### Reading -/

/-- What the daemon can read of a process under `/proc`: nothing for what cannot be opened. -/
structure ProcFiles where
  /-- The target of the link `exe`. -/
  exe : Option CString
  /-- Whether the directory of the process can be opened again. -/
  opens : Bool
  cmdline : Option CString
  environ : Option CString

/-- What the daemon asks of its own user and of the file system. -/
structure UserFiles where
  /-- `HOME`, where the environment can be trusted. -/
  homeVariable : Option CString
  /-- The home directory in the entry of the user. -/
  passwdHome : Option CString
  realpath : CString → Option CString

/-- `game_mode_lookup_proc_env`. -/
def lookupProcEnv (environ : Option CString) (var : CString) : Option CString :=
  match environ with
  | none => none
  | some environ =>
    match (Records.read CString.nul environ).find? fun line => var ++ ['='] <+: line with
    | none => none
    | some line =>
      let value := line.drop (var.length + 1)
      -- an empty variable is skipped, and so are the later ones of its name
      if value = [] then none else some value

/-- `game_mode_lookup_user_home`. -/
def lookupUserHome (user : UserFiles) : Option CString := user.homeVariable <|> user.passwdHome

/-- The second byte of the buffer that `getdelim` has read an argument into: the delimiter is stored
behind the argument, and a NUL behind that. -/
def secondByte : CString → Char
  | [] | [_] => CString.nul
  | _ :: c :: _ => c

/-- The loop over the first `n` arguments: loaders are skipped, and so is what has no drive letter.
The buffer is never so small that its size decides. -/
def wineExeLoop : ℕ → List CString → Option CString
  | 0, _ => none
  | _, [] => none
  | n + 1, argv :: rest =>
    if detectWineLoader argv then wineExeLoop n rest
    else if secondByte argv = ':' then some argv
    else wineExeLoop n rest

/-- The prefix: `WINEPREFIX` of the process, or `.wine` in the home directory of the user unless the
environment of the process could not be read. -/
def winePrefix (user : UserFiles) (environ : Option CString) : Option CString :=
  match lookupProcEnv environ "WINEPREFIX".toList with
  | some value => some value
  | none =>
    if environ = none then none
    else
      match lookupUserHome user with
      | none => none
      | some home =>
        let path := home ++ "/.wine".toList
        if path.length < pathMax then some path else none

/-- A Unix path separator for a Windows one. -/
def unixSeparator (c : Char) : Char := if c = '\\' then '/' else c

/-- The first letter in lower case. -/
def lowerDrive : CString → CString
  | [] => []
  | c :: s => c.toLower :: s

/-- The path of a program in the prefix. -/
def dosDevicePath (wineDir exe : CString) : CString :=
  wineDir ++ "/dosdevices/".toList ++ lowerDrive (exe.map unixSeparator)

/-- `game_mode_resolve_wine_preloader`. -/
def resolveWinePreloader (user : UserFiles) (files : ProcFiles) (exe : CString) :
    Option CString :=
  if ¬(detectWinePreloader exe || detectWineLoader exe) then none
  else if ¬files.opens then none
  else
    match files.cmdline with
    | none => none
    | some cmdline =>
      match wineExeLoop 2 (Records.read CString.nul cmdline) with
      | none => none
      | some wineExe =>
        match winePrefix user files.environ with
        | none => none
        | some wineprefix =>
          let winePath := dosDevicePath wineprefix wineExe
          if winePath.length < pathMax then user.realpath winePath else none

/-- `game_mode_context_find_exe`. -/
def contextFindExe (user : UserFiles) (files : ProcFiles) : Option CString :=
  match files.exe with
  | none => none
  | some exe =>
    if pathMax ≤ exe.length then none
    else
      match resolveWinePreloader user files exe with
      | some wineExe => some wineExe
      | none => some exe

/-! ### Processes -/

/-- What a process was started with, and the target of its link. -/
structure ProcessImage where
  exe : CString
  args : List CString
  env : List (CString × CString)
  exe_lt : exe.length < pathMax
  args_nul : ∀ arg ∈ args, CString.nul ∉ arg
  env_nul : ∀ e ∈ env, CString.nul ∉ e.1 ∧ CString.nul ∉ e.2
  env_name : ∀ e ∈ env, '=' ∉ e.1

namespace ProcessImage

variable (p : ProcessImage)

/-- The files of the process: every entry ends with a NUL. -/
def files : ProcFiles where
  exe := some p.exe
  opens := true
  cmdline := some (Records.write CString.nul p.args)
  environ := some (Records.write CString.nul (p.env.map fun e => e.1 ++ '=' :: e.2))

/-- The value of a variable, if it is not empty. -/
def lookup (name : CString) : Option CString :=
  match p.env.find? fun e => e.1 = name with
  | none => none
  | some e => if e.2 = [] then none else some e.2

/-- The program: the first of two arguments with a drive letter, unless it is a loader. -/
def program : Option CString :=
  (p.args.take 2).find? fun arg => !detectWineLoader arg && arg[1]? = some ':'

/-- The prefix of the program. -/
def winePrefix (user : UserFiles) : Option CString :=
  p.lookup "WINEPREFIX".toList <|>
    ((lookupUserHome user).map (· ++ "/.wine".toList)).filter fun path => path.length < pathMax

/-- The executable has one of the names of wine, which does not occur in its directory. -/
def IsWine : Prop :=
  ∃ name ∈ wineLoaders ++ winePreloaders,
    '/' :: name <:+ p.exe ∧ ¬Occurrences.OccursBefore ('/' :: name) p.exe

/-- The process runs a program in wine, and `path` is what its path in the prefix leads to. -/
def Maps (user : UserFiles) (path : CString) : Prop :=
  p.IsWine ∧ ∃ program ∈ p.program, ∃ wineprefix ∈ p.winePrefix user,
    (dosDevicePath wineprefix program).length < pathMax ∧
      user.realpath (dosDevicePath wineprefix program) = some path

end ProcessImage

/-! ### The environment -/

theorem prefix_entry_iff {var name value : CString} (hvar : '=' ∉ var) (hname : '=' ∉ name) :
    var ++ ['='] <+: name ++ '=' :: value ↔ name = var := by
  constructor
  · rintro ⟨rest, hrest⟩
    rw [List.append_assoc, List.singleton_append] at hrest
    exact (Records.append_delimiter_inj hvar hname hrest).symm
  · rintro rfl
    exact ⟨value, by rw [List.append_assoc, List.singleton_append]⟩

/-- **The environment of a process.** A variable is found under its name, unless it is empty. -/
theorem lookupProcEnv_files (p : ProcessImage) {var : CString} (hvar : '=' ∉ var) :
    lookupProcEnv p.files.environ var = p.lookup var := by
  have hread : Records.read CString.nul
      (Records.write CString.nul (p.env.map fun e => e.1 ++ '=' :: e.2)) =
        p.env.map fun e => e.1 ++ '=' :: e.2 := by
    refine Records.read_write fun line hline => ?_
    obtain ⟨e, he, rfl⟩ := List.mem_map.1 hline
    obtain ⟨hname, hvalue⟩ := p.env_nul e he
    rw [List.mem_append, List.mem_cons, not_or, not_or]
    exact ⟨hname, by decide, hvalue⟩
  have hfind : (p.env.map fun e => e.1 ++ '=' :: e.2).find? (fun line => var ++ ['='] <+: line) =
      (p.env.find? fun e => e.1 = var).map fun e => e.1 ++ '=' :: e.2 := by
    rw [List.find?_map]
    congr 1
    refine List.find?_congr fun e he => ?_
    rw [Function.comp_apply, decide_eq_decide]
    exact prefix_entry_iff hvar (p.env_name e he)
  simp only [lookupProcEnv, ProcessImage.files, hread, hfind, ProcessImage.lookup]
  cases hentry : p.env.find? fun e => e.1 = var with
  | none => rfl
  | some e =>
    have hname : e.1 = var := by simpa using List.find?_some hentry
    have hdrop : (e.1 ++ '=' :: e.2).drop (var.length + 1) = e.2 := by
      rw [← hname, List.append_cons]
      exact List.drop_left' List.length_append
    simp only [Option.map_some, hdrop]

theorem winePrefix_files (p : ProcessImage) (user : UserFiles) :
    winePrefix user p.files.environ = p.winePrefix user := by
  rw [winePrefix, lookupProcEnv_files p (by decide), ProcessImage.winePrefix]
  cases p.lookup "WINEPREFIX".toList with
  | some value => rfl
  | none =>
    cases hhome : lookupUserHome user with
    | none => rfl
    | some home =>
      simp only [ProcessImage.files, reduceCtorEq, if_false, Option.map_some, Option.filter_some,
        decide_eq_true_eq]
      rfl

/-! ### The arguments -/

theorem wineExeLoop_eq (n : ℕ) (args : List CString) : wineExeLoop n args =
    (args.take n).find? fun arg => !detectWineLoader arg && arg[1]? = some ':' := by
  induction n generalizing args with
  | zero => rfl
  | succ n ih =>
    cases args with
    | nil => rfl
    | cons arg rest =>
      have hnul : ¬CString.nul = ':' := by decide
      have hsecond : secondByte arg = ':' ↔ arg[1]? = some ':' := by
        rcases arg with _ | ⟨c, _ | ⟨d, arg⟩⟩
        · exact iff_of_false hnul (by simp)
        · exact iff_of_false hnul (by simp)
        · simp [secondByte]
      rw [wineExeLoop, List.take_succ_cons, List.find?_cons, ih]
      by_cases hloader : detectWineLoader arg = true
      · simp [hloader]
      · by_cases hcolon : arg[1]? = some ':'
        · simp [hloader, hcolon, hsecond.2 hcolon]
        · have hne : ¬secondByte arg = ':' := fun heq => hcolon (hsecond.1 heq)
          simp [hloader, hcolon, hne]

/-! ### The executable -/

/-- The tests of an executable hold for the names of wine. -/
theorem isWine_iff (p : ProcessImage) :
    (detectWinePreloader p.exe || detectWineLoader p.exe) = true ↔ p.IsWine := by
  have hname : ∀ name : CString, (strtail p.exe ('/' :: name)).isSome = true ↔
      '/' :: name <:+ p.exe ∧ ¬Occurrences.OccursBefore ('/' :: name) p.exe :=
    fun name => strtail_isSome_iff p.exe ('/' :: name)
  have hpreloader : detectWinePreloader p.exe = true ↔ ∃ name ∈ winePreloaders,
      '/' :: name <:+ p.exe ∧ ¬Occurrences.OccursBefore ('/' :: name) p.exe := by
    rw [detectWinePreloader, Bool.or_eq_true]
    simp only [winePreloaders, List.mem_cons, List.not_mem_nil, or_false, exists_eq_or_imp,
      exists_eq_left, ← hname]
    rfl
  have hloader : detectWineLoader p.exe = true ↔ ∃ name ∈ wineLoaders,
      '/' :: name <:+ p.exe ∧ ¬Occurrences.OccursBefore ('/' :: name) p.exe := by
    rw [detectWineLoader, Bool.or_eq_true]
    simp only [wineLoaders, List.mem_cons, List.not_mem_nil, or_false, exists_eq_or_imp,
      exists_eq_left, ← hname]
    rfl
  rw [Bool.or_eq_true, hpreloader, hloader, ProcessImage.IsWine]
  simp only [List.mem_append, or_and_right, exists_or]
  exact or_comm

theorem resolveWinePreloader_files_iff (p : ProcessImage) (user : UserFiles) (path : CString) :
    resolveWinePreloader user p.files p.exe = some path ↔ p.Maps user path := by
  have hread : Records.read CString.nul (Records.write CString.nul p.args) = p.args :=
    Records.read_write p.args_nul
  have hloop : wineExeLoop 2 p.args = p.program := wineExeLoop_eq 2 p.args
  rw [ProcessImage.Maps, ← isWine_iff, resolveWinePreloader, winePrefix_files]
  simp only [ProcessImage.files, hread, hloop, Option.mem_def]
  by_cases hwine : (detectWinePreloader p.exe || detectWineLoader p.exe) = true
  · simp only [hwine, not_true_eq_false, if_false, true_and]
    cases p.program with
    | none => simp
    | some program =>
      cases p.winePrefix user with
      | none => simp
      | some wineprefix => simp [Option.ite_none_right_eq_some]
  · simp only [hwine, not_false_eq_true, if_true, reduceCtorEq, false_and]

theorem contextFindExe_files (p : ProcessImage) (user : UserFiles) :
    contextFindExe user p.files =
      some ((resolveWinePreloader user p.files p.exe).getD p.exe) := by
  have hfiles : p.files.exe = some p.exe := rfl
  simp only [contextFindExe, hfiles, if_neg (not_le.2 p.exe_lt)]
  cases resolveWinePreloader user p.files p.exe <;> rfl

/-- Two letters of a path that are the same but for the direction of a separator. -/
def SameSeparator (c d : Char) : Prop := c = d ∨ c ∈ ['/', '\\'] ∧ d ∈ ['/', '\\']

/-- Two programs whose paths differ only in the case of their first letter and in the direction of
their separators. -/
inductive SameProgram : CString → CString → Prop
  | nil : SameProgram [] []
  | cons {c d : Char} {s t : CString} (hdrive : SameSeparator c d ∨ c.toLower = d.toLower)
      (hrest : List.Forall₂ SameSeparator s t) : SameProgram (c :: s) (d :: t)

theorem unixSeparator_eq_iff (c d : Char) :
    unixSeparator c = unixSeparator d ↔ SameSeparator c d := by
  rw [unixSeparator, unixSeparator, SameSeparator]
  by_cases hc : c = '\\' <;> by_cases hd : d = '\\' <;> simp [hc, hd, eq_comm]
  rintro rfl rfl
  rfl

theorem map_unixSeparator_eq_iff {s t : CString} :
    s.map unixSeparator = t.map unixSeparator ↔ List.Forall₂ SameSeparator s t := by
  rw [← List.forall₂_eq_eq_eq, List.forall₂_map_left_iff, List.forall₂_map_right_iff]
  simp only [unixSeparator_eq_iff]

/-- No letter becomes a separator in lower case. -/
theorem toLower_eq_separator_iff {c d : Char} (hd : d ∈ ['/', '\\']) : c.toLower = d ↔ c = d := by
  have hcode : d.val.toNat = 47 ∨ d.val.toNat = 92 := by
    simp only [List.mem_cons, List.not_mem_nil, or_false] at hd
    rcases hd with rfl | rfl
    · exact Or.inl rfl
    · exact Or.inr rfl
  delta Char.toLower
  split
  · rename_i hupper
    obtain ⟨hle, hge⟩ := hupper
    rw [ge_iff_le, UInt32.le_iff_toNat_le] at hle
    rw [UInt32.le_iff_toNat_le] at hge
    have hA : ('A'.val).toNat = 65 := rfl
    have hZ : ('Z'.val).toNat = 90 := rfl
    have hshift : ('a'.val - 'A'.val).toNat = 32 := rfl
    constructor
    · intro heq
      have hval : (c.val + ('a'.val - 'A'.val)).toNat = d.val.toNat :=
        congrArg (fun e : Char => e.val.toNat) heq
      rw [UInt32.toNat_add] at hval
      omega
    · rintro rfl
      omega
  · exact Iff.rfl

theorem toLower_unixSeparator_eq_iff (c d : Char) :
    (unixSeparator c).toLower = (unixSeparator d).toLower ↔
      SameSeparator c d ∨ c.toLower = d.toLower := by
  have hslash : ∀ {e : Char}, e.toLower = '/' ↔ e = '/' := toLower_eq_separator_iff (by decide)
  have hback : ∀ {e : Char}, e.toLower = '\\' ↔ e = '\\' := toLower_eq_separator_iff (by decide)
  have hslash' : ('/' : Char).toLower = '/' := rfl
  have hback' : ('\\' : Char).toLower = '\\' := rfl
  rw [unixSeparator, unixSeparator, SameSeparator]
  by_cases hc : c = '\\' <;> by_cases hd : d = '\\'
  · simp [hc, hd]
  · have hd' : ¬ '\\' = d := Ne.symm hd
    simp [hc, hd, hd', hslash', hback', @eq_comm _ _ d.toLower, hslash, hback]
  · simp [hc, hd, hslash', hback', hslash, hback]
  · rw [if_neg hc, if_neg hd]
    constructor
    · exact Or.inr
    · rintro ((rfl | ⟨hc', hd'⟩) | hlower)
      · rfl
      · simp only [List.mem_cons, hc, hd, List.not_mem_nil, or_false] at hc' hd'
        rw [hc', hd']
      · exact hlower

/-- **Paths of programs.** Two programs have the same path in a prefix just when they differ only in
the case of their first letter and in the direction of their separators. -/
theorem dosDevicePath_eq_iff (wineDir exe exe' : CString) :
    dosDevicePath wineDir exe = dosDevicePath wineDir exe' ↔ SameProgram exe exe' := by
  rw [dosDevicePath, dosDevicePath, List.append_cancel_left_eq]
  constructor
  · intro h
    cases exe with
    | nil =>
      cases exe' with
      | nil => exact .nil
      | cons d t => cases h
    | cons c s =>
      cases exe' with
      | nil => cases h
      | cons d t =>
        simp only [List.map_cons, lowerDrive, List.cons.injEq] at h
        exact .cons ((toLower_unixSeparator_eq_iff c d).1 h.1) (map_unixSeparator_eq_iff.1 h.2)
  · intro h
    cases h with
    | nil => rfl
    | cons hdrive hrest =>
      simp only [List.map_cons, lowerDrive, List.cons.injEq]
      exact ⟨(toLower_unixSeparator_eq_iff _ _).2 hdrive, map_unixSeparator_eq_iff.2 hrest⟩

private def wineGame : ProcessImage where
  exe := "/usr/bin/wine64-preloader".toList
  args := ["/usr/bin/wine64".toList, "C:\\Games\\Quake.exe".toList, "-w".toList]
  env := [("HOME".toList, "/home/user".toList), ("WINEPREFIX".toList, "/home/user/quake".toList)]
  exe_lt := by decide
  args_nul := by decide
  env_nul := by decide
  env_name := by decide

private def wineUser : UserFiles where
  homeVariable := some "/home/user".toList
  passwdHome := none
  realpath path :=
    if path = "/home/user/quake/dosdevices/c:/Games/Quake.exe".toList then
      some "/home/user/quake/drive_c/Games/Quake.exe".toList
    else none

end GameMode
