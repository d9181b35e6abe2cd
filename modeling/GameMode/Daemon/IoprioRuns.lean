import GameMode.Daemon.Registry
import GameMode.Library.Runs

/-!
# Calls of `ioprio_set`

Every call of `ioprio_set` is recorded here with the text of the option `ioprio` that was in force.
The text `off` is read as a number that means that nothing is to be set, and this number is then
clamped into the range of the levels like any other: the daemon goes on as with the level zero.

## Main definitions

* `IoprioCall`, `ioprioCalls`: the calls of `game_mode_apply_ioprio`.
* `contextCalls`, `callsAlong`: the calls of an operation, and along a run.
* `Config.ioprioLevel`: the level that a configuration asks for.
* `IoprioCall.Proper`: the call is not made with `off`, and the level is the one asked for.
* `LeavesAlone`: an operation with `off` finds no thread at the levels that it looks for.

## Main results

* `getIoprioValue_eq`: what the reader makes of the option.
* `forall_proper_contextCalls_iff`: when the calls of one operation are proper.
* `forall_proper_callsAlong_iff`: when all calls along a run are.

Source: `daemon/gamemode-config.c`, `config_get_ioprio_value`; `daemon/gamemode-ioprio.c`;
`daemon/gamemode-context.c`.
-/

namespace GameMode

open Runs

/-! ### The option -/

/-- The option says that the IO priority is not to be touched. -/
def Config.IoprioOff (self : Config) : Prop := self.string .ioprio = "off".toList

instance (self : Config) : Decidable self.IoprioOff :=
  inferInstanceAs (Decidable (self.string .ioprio = "off".toList))

/-- The level that the option asks for, if any: the number, moved into `0..7`. -/
def Config.ioprioLevel (self : Config) : Option ℤ :=
  if self.IoprioOff then none else some (max 0 (min 7 (self.string .ioprio).atoi))

/-- The reader makes the level zero of the option that asks for none. -/
theorem getIoprioValue_eq (config : Config) :
    config.getIoprioValue = config.ioprioLevel.getD 0 := by
  simp only [Config.getIoprioValue, Config.ioprioLevel]
  by_cases hoff : config.IoprioOff
  · have htext : config.string .ioprio = "off".toList := hoff
    rw [if_pos hoff, htext, if_pos rfl]
    rfl
  · have htext : config.string .ioprio ≠ "off".toList := hoff
    rw [if_neg hoff, if_neg htext, Option.getD_some]
    by_cases hdefault : config.string .ioprio = "default".toList
    · rw [if_pos hdefault, if_pos rfl, hdefault]
      decide
    · -- the number that stands for the reset is moved to zero like every negative number
      rw [if_neg hdefault, clamp, ioprioResetDefault]
      split_ifs <;> omega

theorem getIoprioValue_of_off {config : Config} (h : config.IoprioOff) :
    config.getIoprioValue = 0 := by
  rw [getIoprioValue_eq, Config.ioprioLevel, if_pos h, Option.getD_none]

theorem getIoprioValue_of_number {config : Config} (hoff : ¬config.IoprioOff)
    (hnumber : 0 ≤ (CString.strtol (config.string .ioprio)).value ∧
      (CString.strtol (config.string .ioprio)).value ≤ 7) :
    config.getIoprioValue = (CString.strtol (config.string .ioprio)).value := by
  have hatoi : (config.string .ioprio).atoi = (CString.strtol (config.string .ioprio)).value :=
    Int.bmod_eq_of_le (by omega) (by omega)
  rw [getIoprioValue_eq, Config.ioprioLevel, if_neg hoff, Option.getD_some, hatoi]
  omega

/-! ### The calls -/

/-- A call of `ioprio_set`. -/
structure IoprioCall where
  /-- The text of the option in the configuration that is in force. -/
  configured : CString
  /-- Whether the optimisations of a client are applied, and not removed. -/
  applying : Bool
  /-- The thread. -/
  tid : Pid
  /-- The level. -/
  level : ℤ

/-- The call is not made with `off`, its level is in the range, and it is the configured number
where optimisations are applied and this number is in the range. -/
structure IoprioCall.Proper (call : IoprioCall) : Prop where
  configured : call.configured ≠ "off".toList
  level_mem : 0 ≤ call.level ∧ call.level ≤ 7
  level_eq : call.applying = true → 0 ≤ (CString.strtol call.configured).value →
    (CString.strtol call.configured).value ≤ 7 →
    call.level = (CString.strtol call.configured).value

/-- The calls of `ioprio_set` in a round of the loop of `game_mode_apply_ioprio`. -/
def Thread.ioprioCalls (expected ioprio : ℤ) (t : Thread) : List (Pid × ℤ) :=
  if t.ioLevel ≠ expected then [] else [(t.tid, ioprio)]

/-- The calls of `ioprio_set` in `game_mode_apply_ioprio`: thread and level. -/
def ioprioCalls (config : Config) (client : Pid) (expected : ℤ) (threads : List Thread) :
    List (Pid × ℤ) :=
  let ioprio := config.getIoprioValue
  if expected = ioprioDontSet then []
  else if ioprio = ioprioDontSet then []
  else
    let (expected, ioprio) :=
      if expected ≠ ioprioDefault then (ioprio, ioprioDefault) else (expected, ioprio)
    threads.flatMap fun t => if t.owner = client then t.ioprioCalls expected ioprio else []

namespace World

variable (env : Env) (client : Pid) (w : World)

/-- The calls of `ioprio_set` in `game_mode_apply_client_optimisations`. -/
def appliedCalls : List IoprioCall :=
  (ioprioCalls w.config client ioprioDefault
    (applyRenice w.config client 0 (env.applyCalls client) w.threads)).map
    fun call => ⟨w.config.string .ioprio, true, call.1, call.2⟩

/-- The calls of `ioprio_set` in `game_mode_remove_client_optimisations`. -/
def removedCalls : List IoprioCall :=
  (ioprioCalls w.config client w.config.getIoprioValue w.threads).map
    fun call => ⟨w.config.string .ioprio, false, call.1, call.2⟩

end World

section Operations

variable (files : CpuSysfs) (env : Env)

/-- The calls in a registration: entering game mode changes no threads. -/
def registerCalls (client requester : Pid) (w : World) : List IoprioCall :=
  if (contextRegister files env client requester w).1 = 0 then w.appliedCalls env client else []

/-- The calls in the removal of a client. -/
def unregisterCalls (client requester : Pid) (w : World) : List IoprioCall :=
  if (contextUnregister env client requester w).1 = 0 then w.removedCalls client else []

/-- The calls in the loop of a reload that changes the threads of the clients back. -/
def tearDownLoopCalls : List Client → World → List IoprioCall
  | [], _ => []
  | cl :: clients, w =>
    w.removedCalls cl.pid ++ tearDownLoopCalls clients (w.removeOptimisations env cl.pid)

/-- The calls in the loop of a reload that changes the threads of the clients again. -/
def regrowLoopCalls : List Client → World → List IoprioCall
  | [], _ => []
  | cl :: clients, w =>
    w.appliedCalls env cl.pid ++ regrowLoopCalls clients (w.applyOptimisations env cl.pid)

/-- The calls in a reload of the configuration. -/
def reloadCalls (w : World) : List IoprioCall :=
  let torn := rereadConfig files env (tearDown env w)
  (if w.refcount ≠ 0 then tearDownLoopCalls env w.clients w else []) ++
    if torn.refcount ≠ 0 then
      regrowLoopCalls env torn.clients (contextEnter files env.enter torn)
    else []

/-- The calls in an operation on the context. -/
def contextCalls (w : World) : ContextOp × Env → List IoprioCall
  | (.register client requester, env) => registerCalls files env client requester w
  | (.unregister client requester, env) => unregisterCalls env client requester w
  | (.autoExpireRound, env) =>
    match deadClient env w with
    | none => []
    | some cl => unregisterCalls env cl.pid cl.pid w
  | (.reloadConfig, env) => reloadCalls files env w
  | (.restart _, _) | (.checkIgpuEnergy, _) | (.reapplyCorePinning, _) => []

end Operations

/-! ### When the calls are proper -/

/-- No thread of these processes has the level. -/
def NoneAt (level : ℤ) (pids : List Pid) (threads : List Thread) : Prop :=
  ∀ t ∈ threads, t.owner ∈ pids → t.ioLevel ≠ level

theorem noneAt_nil (level : ℤ) (threads : List Thread) : NoneAt level [] threads :=
  fun _ _ h => absurd h List.not_mem_nil

theorem noneAt_cons_iff {level : ℤ} {pid : Pid} {pids : List Pid} {threads : List Thread} :
    NoneAt level (pid :: pids) threads ↔
      NoneAt level [pid] threads ∧ NoneAt level pids threads := by
  simp only [NoneAt, List.mem_cons, List.not_mem_nil, or_false]
  constructor
  · exact fun h => ⟨fun t ht howner => h t ht (Or.inl howner),
      fun t ht howner => h t ht (Or.inr howner)⟩
  · rintro ⟨hpid, hpids⟩ t ht (howner | howner)
    · exact hpid t ht howner
    · exact hpids t ht howner

theorem noneAt_map_iff {level : ℤ} {pids : List Pid} {threads : List Thread} {f : Thread → Thread}
    (hf : ∀ t ∈ threads, (f t).owner = t.owner ∧ (f t).ioLevel = t.ioLevel) :
    NoneAt level pids (threads.map f) ↔ NoneAt level pids threads := by
  rw [NoneAt, List.forall_mem_map]
  refine forall₂_congr fun t ht => ?_
  rw [(hf t ht).1, (hf t ht).2]

section Calls

variable {config : Config} {client : Pid} {threads : List Thread} {call : Pid × ℤ}

theorem Thread.mem_ioprioCalls {expected ioprio : ℤ} {t : Thread} :
    call ∈ t.ioprioCalls expected ioprio ↔ t.ioLevel = expected ∧ call = (t.tid, ioprio) := by
  rw [Thread.ioprioCalls]
  split_ifs with hlevel
  · simp [hlevel]
  · rw [not_not] at hlevel
    simp [hlevel]

theorem mem_ioprioCalls_default {calls : SetCalls} :
    call ∈ ioprioCalls config client ioprioDefault (applyRenice config client 0 calls threads) ↔
      ∃ t ∈ threads, t.owner = client ∧ t.ioLevel = ioprioDefault ∧
        call = (t.tid, config.getIoprioValue) := by
  have hset : ioprioDefault ≠ ioprioDontSet := by decide
  simp only [ioprioCalls, hset, getIoprioValue_ne_dontSet, if_false, ne_eq, not_true_eq_false,
    List.mem_flatMap, List.mem_ite_nil_right, Thread.mem_ioprioCalls, applyRenice_zero,
    List.mem_map, exists_exists_and_eq_and]

theorem mem_ioprioCalls_value :
    call ∈ ioprioCalls config client config.getIoprioValue threads ↔
      ∃ t ∈ threads, t.owner = client ∧ t.ioLevel = config.getIoprioValue ∧
        call = (t.tid, ioprioDefault) := by
  simp only [ioprioCalls, ioprioBranch_value, getIoprioValue_ne_dontSet, if_false,
    List.mem_flatMap, List.mem_ite_nil_right, Thread.mem_ioprioCalls]

end Calls

section Proper

variable {w : World} {env : Env} {client : Pid}

theorem proper_applied (hoff : ¬w.config.IoprioOff) (tid : Pid) :
    IoprioCall.Proper ⟨w.config.string .ioprio, true, tid, w.config.getIoprioValue⟩ where
  configured := hoff
  level_mem := w.config.getIoprioValue_mem
  level_eq _ hmin hmax := getIoprioValue_of_number hoff ⟨hmin, hmax⟩

theorem proper_removed (hoff : ¬w.config.IoprioOff) (tid : Pid) :
    IoprioCall.Proper ⟨w.config.string .ioprio, false, tid, ioprioDefault⟩ where
  configured := hoff
  level_mem := (by decide : 0 ≤ ioprioDefault ∧ ioprioDefault ≤ 7)
  level_eq h := absurd h Bool.false_ne_true

theorem forall_proper_appliedCalls_iff :
    (∀ call ∈ w.appliedCalls env client, call.Proper) ↔
      (w.config.IoprioOff → NoneAt ioprioDefault [client] w.threads) := by
  rw [World.appliedCalls, List.forall_mem_map]
  constructor
  · intro h hoff t ht howner hlevel
    have hcall := h _ (mem_ioprioCalls_default.2 ⟨t, ht, List.mem_singleton.1 howner, hlevel, rfl⟩)
    exact hcall.configured hoff
  · intro h call hcall
    obtain ⟨t, ht, howner, hlevel, rfl⟩ := mem_ioprioCalls_default.1 hcall
    refine proper_applied (fun hoff => ?_) _
    exact h hoff t ht (List.mem_singleton.2 howner) hlevel

theorem forall_proper_removedCalls_iff :
    (∀ call ∈ w.removedCalls client, call.Proper) ↔
      (w.config.IoprioOff → NoneAt 0 [client] w.threads) := by
  rw [World.removedCalls, List.forall_mem_map]
  constructor
  · intro h hoff t ht howner hlevel
    have hcall := h _ (mem_ioprioCalls_value.2 ⟨t, ht, List.mem_singleton.1 howner,
      hlevel.trans (getIoprioValue_of_off hoff).symm, rfl⟩)
    exact hcall.configured hoff
  · intro h call hcall
    obtain ⟨t, ht, howner, hlevel, rfl⟩ := mem_ioprioCalls_value.1 hcall
    refine proper_removed (fun hoff => ?_) _
    exact h hoff t ht (List.mem_singleton.2 howner) (hlevel.trans (getIoprioValue_of_off hoff))

variable (env) in
/-- The loop that changes the threads back makes proper calls unless the option is `off` and it
finds a thread at the level zero. -/
theorem forall_proper_tearDownLoopCalls_iff : ∀ (clients : List Client) (w : World),
    (∀ call ∈ tearDownLoopCalls env clients w, call.Proper) ↔
      (w.config.IoprioOff → NoneAt 0 (clients.map Client.pid) w.threads)
  | [], w => iff_of_true (by simp [tearDownLoopCalls]) fun _ => noneAt_nil 0 w.threads
  | cl :: clients, w => by
    have hconfig : (w.removeOptimisations env cl.pid).config = w.config := rfl
    rw [tearDownLoopCalls, List.forall_mem_append, forall_proper_removedCalls_iff,
      forall_proper_tearDownLoopCalls_iff clients, hconfig, ← imp_and]
    refine imp_congr_right fun hoff => ?_
    refine Iff.trans (and_congr_right fun hnone => ?_) noneAt_cons_iff.symm
    rw [World.removeOptimisations, World.withThreads, removeClientOptimisations_eq_map_with]
    refine noneAt_map_iff fun t ht => ⟨rfl, if_neg ?_⟩
    rintro ⟨howner, hlevel, -⟩
    exact hnone t ht (List.mem_singleton.2 howner) (hlevel.trans (getIoprioValue_of_off hoff))

variable (env) in
/-- The loop that changes the threads again makes proper calls unless the option is `off` and it
finds a thread at the default level. -/
theorem forall_proper_regrowLoopCalls_iff : ∀ (clients : List Client) (w : World),
    (∀ call ∈ regrowLoopCalls env clients w, call.Proper) ↔
      (w.config.IoprioOff → NoneAt ioprioDefault (clients.map Client.pid) w.threads)
  | [], w => iff_of_true (by simp [regrowLoopCalls]) fun _ => noneAt_nil ioprioDefault w.threads
  | cl :: clients, w => by
    have hconfig : (w.applyOptimisations env cl.pid).config = w.config := rfl
    rw [regrowLoopCalls, List.forall_mem_append, forall_proper_appliedCalls_iff,
      forall_proper_regrowLoopCalls_iff clients, hconfig, ← imp_and]
    refine imp_congr_right fun hoff => ?_
    refine Iff.trans (and_congr_right fun hnone => ?_) noneAt_cons_iff.symm
    rw [World.applyOptimisations, World.withThreads, applyClientOptimisations_eq_map_with]
    refine noneAt_map_iff fun t ht => ⟨rfl, if_neg ?_⟩
    rintro ⟨howner, hlevel, -⟩
    exact hnone t ht (List.mem_singleton.2 howner) hlevel

end Proper

/-! ### Reloading -/

section Reload

variable {files : CpuSysfs} {env : Env} {w : World}

/-- What the loop that changes the threads back makes of the level of a thread. -/
theorem foldl_restoreWith_ioLevel (config : Config) (cpu : CpuState) (calls : Pid → SetCalls) :
    ∀ (clients : List Client) (t : Thread),
      (clients.foldl (fun t cl => t.restoreWith config cpu cl.pid (calls cl.pid)) t).owner =
          t.owner ∧
        (clients.foldl (fun t cl => t.restoreWith config cpu cl.pid (calls cl.pid)) t).ioLevel =
          if t.owner ∈ clients.map Client.pid ∧ t.ioLevel = config.getIoprioValue ∧
            (calls t.owner).ioprioSet t.tid then ioprioDefault else t.ioLevel
  | [], t => by simp
  | cl :: clients, t => by
    obtain ⟨howner, hlevel⟩ := foldl_restoreWith_ioLevel config cpu calls clients
      (t.restoreWith config cpu cl.pid (calls cl.pid))
    refine ⟨howner, ?_⟩
    rw [List.foldl_cons, hlevel]
    simp only [Thread.restoreWith, List.map_cons, List.mem_cons]
    by_cases hmem : t.owner = cl.pid
    · by_cases hset : t.ioLevel = config.getIoprioValue ∧ (calls cl.pid).ioprioSet t.tid <;>
        simp [hmem, hset]
    · simp [hmem]

/-- No thread of a client has the default level after a configuration was torn down. -/
theorem noneAt_default_tearDown_iff (hrefcount : w.refcount ≠ 0) :
    NoneAt ioprioDefault w.pids (tearDown env w).threads ↔
      ∀ t ∈ w.threads, t.owner ∈ w.pids → t.ioLevel ≠ ioprioDefault ∧
        ¬(t.ioLevel = w.config.getIoprioValue ∧ (env.removeCalls t.owner).ioprioSet t.tid) := by
  have hthreads : (tearDown env w).threads = w.threads.map fun t =>
      w.clients.foldl (fun t cl =>
        t.restoreWith w.config w.cpu cl.pid (env.removeCalls cl.pid)) t := by
    rw [tearDown, if_pos hrefcount, foldl_removeOptimisations, contextLeave_threads,
      World.withThreads]
    simp only [removeClientOptimisations_eq_map_with]
    exact foldl_map_eq_map_foldl _ w.clients w.threads
  rw [hthreads, NoneAt, List.forall_mem_map]
  refine forall₂_congr fun t _ => ?_
  obtain ⟨howner, hlevel⟩ := foldl_restoreWith_ioLevel w.config w.cpu env.removeCalls w.clients t
  rw [howner, hlevel]
  refine imp_congr_right fun hmem => ?_
  have hmem' : t.owner ∈ w.clients.map Client.pid := hmem
  by_cases hset : t.ioLevel = w.config.getIoprioValue ∧ (env.removeCalls t.owner).ioprioSet t.tid
  · simp [hmem', hset]
  · simp [hmem', hset]

/-- When the calls of a reload are proper. -/
theorem forall_proper_reloadCalls_iff :
    (∀ call ∈ reloadCalls files env w, call.Proper) ↔
      (w.refcount ≠ 0 → (w.config.IoprioOff → NoneAt 0 w.pids w.threads) ∧
        (env.reloaded.IoprioOff → NoneAt ioprioDefault w.pids (tearDown env w).threads)) := by
  obtain ⟨hclients, hcount⟩ := tearDown_clients env w
  have hclients' : (rereadConfig files env (tearDown env w)).clients = w.clients := hclients
  have hcount' : (rereadConfig files env (tearDown env w)).refcount = w.refcount := hcount
  simp only [reloadCalls, hclients', hcount']
  by_cases hrefcount : w.refcount = 0
  · simp [hrefcount]
  · rw [if_pos hrefcount, if_pos hrefcount, List.forall_mem_append,
      forall_proper_tearDownLoopCalls_iff, forall_proper_regrowLoopCalls_iff]
    exact ⟨fun h _ => h, fun h => h hrefcount⟩

end Reload

/-! ### Operations and runs -/

/-- An operation that is made with `off` finds no thread at the levels that it looks for: the
default where optimisations are applied, and zero where they are removed. In a reload a thread that
is reset just before counts as one at the default. -/
def LeavesAlone (w : World) : ContextOp × Env → Prop
  | (.register client requester, env) =>
    w.config.IoprioOff → GatePasses w.config env.findExe client requester →
      ¬w.IsRegistered client → ClientAdmitted w.config env.findExe client →
      NoneAt ioprioDefault [client] w.threads
  | (.unregister client requester, env) =>
    w.config.IoprioOff → GatePasses w.config env.findExe client requester →
      w.IsRegistered client → NoneAt 0 [client] w.threads
  | (.autoExpireRound, env) =>
    w.config.IoprioOff → ∀ cl ∈ deadClient env w,
      GatePasses w.config env.findExe cl.pid cl.pid → NoneAt 0 [cl.pid] w.threads
  | (.reloadConfig, env) =>
    w.refcount ≠ 0 →
      (w.config.IoprioOff → NoneAt 0 w.pids w.threads) ∧
      (env.reloaded.IoprioOff → ∀ t ∈ w.threads, t.owner ∈ w.pids →
        t.ioLevel ≠ ioprioDefault ∧
          ¬(w.config.ioprioLevel = some t.ioLevel ∧ (env.removeCalls t.owner).ioprioSet t.tid))
  | (.restart _, _) | (.checkIgpuEnergy, _) | (.reapplyCorePinning, _) => True

section Runs

variable {files : CpuSysfs} {w : World}

theorem forall_proper_registerCalls_iff {env : Env} {client requester : Pid} :
    (∀ call ∈ registerCalls files env client requester w, call.Proper) ↔
      LeavesAlone w (.register client requester, env) := by
  have hexact := (contextRegister_exact files env client requester w).zero_iff
  rw [registerCalls, LeavesAlone]
  by_cases haccepted : (contextRegister files env client requester w).1 = 0
  · obtain ⟨hgate, hnew, hadmitted⟩ := hexact.1 haccepted
    rw [if_pos haccepted, forall_proper_appliedCalls_iff]
    simp [hgate, hnew, hadmitted]
  · rw [if_neg haccepted]
    refine iff_of_true (by simp) fun _ hgate hnew hadmitted => ?_
    exact absurd (hexact.2 ⟨hgate, hnew, hadmitted⟩) haccepted

theorem forall_proper_unregisterCalls_iff {env : Env} {client requester : Pid} :
    (∀ call ∈ unregisterCalls env client requester w, call.Proper) ↔
      LeavesAlone w (.unregister client requester, env) := by
  have hexact := (contextUnregister_exact env client requester w).zero_iff
  rw [unregisterCalls, LeavesAlone]
  by_cases haccepted : (contextUnregister env client requester w).1 = 0
  · obtain ⟨hgate, hregistered⟩ := hexact.1 haccepted
    rw [if_pos haccepted, forall_proper_removedCalls_iff]
    simp [hgate, hregistered]
  · rw [if_neg haccepted]
    refine iff_of_true (by simp) fun _ hgate hregistered => ?_
    exact absurd (hexact.2 ⟨hgate, hregistered⟩) haccepted

private theorem reload_leavesAlone_iff {env : Env} :
    ((w.config.IoprioOff → NoneAt 0 w.pids w.threads) ∧
        (env.reloaded.IoprioOff → ∀ t ∈ w.threads, t.owner ∈ w.pids →
          t.ioLevel ≠ ioprioDefault ∧ ¬(t.ioLevel = w.config.getIoprioValue ∧
            (env.removeCalls t.owner).ioprioSet t.tid))) ↔
      (w.config.IoprioOff → NoneAt 0 w.pids w.threads) ∧
        (env.reloaded.IoprioOff → ∀ t ∈ w.threads, t.owner ∈ w.pids →
          t.ioLevel ≠ ioprioDefault ∧ ¬(w.config.ioprioLevel = some t.ioLevel ∧
            (env.removeCalls t.owner).ioprioSet t.tid)) := by
  refine and_congr_right fun hnone => imp_congr_right fun _ => forall₂_congr fun t ht =>
    imp_congr_right fun howner => and_congr_right fun _ => not_congr (and_congr_left fun _ => ?_)
  rw [getIoprioValue_eq]
  by_cases hoff : w.config.IoprioOff
  · rw [Config.ioprioLevel, if_pos hoff, Option.getD_none]
    exact iff_of_false (hnone hoff t ht howner) (by simp)
  · rw [Config.ioprioLevel, if_neg hoff, Option.getD_some, Option.some_inj, eq_comm]

/-- **Calls of an operation.** The calls of one operation are proper just when it leaves the threads
alone with `off`. -/
theorem forall_proper_contextCalls_iff (a : ContextOp × Env) :
    (∀ call ∈ contextCalls files w a, call.Proper) ↔ LeavesAlone w a := by
  obtain ⟨op, env⟩ := a
  cases op with
  | register client requester => exact forall_proper_registerCalls_iff
  | unregister client requester => exact forall_proper_unregisterCalls_iff
  | autoExpireRound =>
    simp only [contextCalls, LeavesAlone]
    cases hdead : deadClient env w with
    | none => simp
    | some cl =>
      have hregistered : w.IsRegistered cl.pid := ⟨cl, List.mem_of_find?_eq_some hdead, rfl⟩
      simp [forall_proper_unregisterCalls_iff, LeavesAlone, hregistered]
  | reloadConfig =>
    refine forall_proper_reloadCalls_iff.trans (forall_congr' fun hrefcount => ?_)
    rw [noneAt_default_tearDown_iff hrefcount]
    exact reload_leavesAlone_iff
  | restart requester => simp [contextCalls, LeavesAlone]
  | checkIgpuEnergy => simp [contextCalls, LeavesAlone]
  | reapplyCorePinning => simp [contextCalls, LeavesAlone]

/-- A step of a run: an operation, or a change of the threads by other processes. -/
inductive IoprioStep
  | operation (op : ContextOp) (env : Env)
  | threads (threads : List Thread)

variable (files w) in
/-- What a step does. -/
def ioprioStep : IoprioStep → Option World
  | .operation op env => contextStep files w (op, env)
  | .threads threads => some (w.withThreads threads)

variable (files w) in
/-- The calls of `ioprio_set` in a step. -/
def stepCalls : IoprioStep → List IoprioCall
  | .operation op env => contextCalls files w (op, env)
  | .threads _ => []

variable (files w) in
/-- The calls of `ioprio_set` along a run. -/
def callsAlong (run : List IoprioStep) : List IoprioCall :=
  expandRun (ioprioStep files) (stepCalls files) w run

variable (w) in
/-- A step that leaves the threads alone with `off`. -/
def StepLeavesAlone : IoprioStep → Prop
  | .operation op env => LeavesAlone w (op, env)
  | .threads _ => True

theorem forall_proper_stepCalls_iff (a : IoprioStep) :
    (∀ call ∈ stepCalls files w a, call.Proper) ↔ StepLeavesAlone w a := by
  cases a with
  | operation op env => exact forall_proper_contextCalls_iff (op, env)
  | threads threads => simp [stepCalls, StepLeavesAlone]

/-- **Hands off.** Along a run no call of `ioprio_set` is made with `off`, and every call sets the
level that is asked for, just when every step leaves the threads alone with `off`. -/
theorem forall_proper_callsAlong_iff (files : CpuSysfs) (w : World) (run : List IoprioStep) :
    (∀ call ∈ callsAlong files w run, call.Proper) ↔
      StepsAlong (ioprioStep files) w run StepLeavesAlone := by
  simp only [callsAlong, forall_mem_expandRun_iff, forall_proper_stepCalls_iff]

/-- With `off`, a thread at the default level is set to zero when its client is registered. -/
theorem not_forall_proper_callsAlong :
    ¬∀ (files : CpuSysfs) (w : World) (run : List IoprioStep),
      ∀ call ∈ callsAlong files w run, call.Proper := by
  intro h
  have hcall := h .unreadable
    (contextInit .unreadable ∅ (Config.initial.set (.string .ioprio) "off".toList)
      (.plain "powersave".toList "balanced".toList {0, 1}
        [⟨5, 5, 0, .be, ioprioDefault, .other, {0, 1}⟩]))
    [.operation (.register 5 5) (.succeeding Config.initial)]
    ⟨"off".toList, true, 5, 0⟩ (List.mem_singleton.2 rfl)
  exact hcall.configured rfl

end Runs

end GameMode
