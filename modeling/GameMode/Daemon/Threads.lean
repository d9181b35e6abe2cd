import GameMode.Common.Pidfds
import GameMode.Daemon.Cpu

/-!
# The threads of a client

When a client is registered the daemon changes four settings of its threads: the nice value, the IO
priority, the scheduling policy, and the set of cores. When it is unregistered three of them are
changed back. The nice value and the IO priority of a thread are touched only where they are as
expected, which is the default on the way in and the configured value on the way out.

The functions for the settings go through the directory `/proc/<pid>/task` of the client, except for
the scheduling policy, which is set for the one thread that has the process identifier of the
client.

## Main definitions

* `Thread`, `SetCalls`: the threads of the system, and which system calls succeed.
* `applyRenice`, `applyIoprio`, `applyScheduling`, `applyCorePinning`, `undoCorePinning`.
* `applyClientOptimisations`, `removeClientOptimisations`.

## Main results

* `applyClientOptimisations_eq_map_with`, `removeClientOptimisations_eq_map_with`: both act on every
  thread by itself.
* `foldl_applyClientOptimisations`, `foldl_removeClientOptimisations`: so do the loops over the
  clients.
* `Thread.foldl_optimise`, `Thread.foldl_restore`: what the loops do to a thread.

Source: `daemon/gamemode-sched.c`, `daemon/gamemode-ioprio.c`, `daemon/gamemode-cpu.c`;
`daemon/gamemode-context.c`, `game_mode_apply_client_optimisations` and
`game_mode_remove_client_optimisations`.
-/

namespace GameMode

/-- The classes of an IO priority. -/
inductive IoprioClass
  | none | rt | be | idle
  deriving DecidableEq, Repr

/-- The scheduling policies; `iso` is `SCHED_ISO | SCHED_RESET_ON_FORK`. -/
inductive SchedPolicy
  | other | fifo | rr | batch | idle | iso
  deriving DecidableEq, Repr

/-- A thread of the system. -/
structure Thread where
  /-- The process that the thread belongs to. -/
  owner : Pid
  /-- The identifier of the thread. -/
  tid : Pid
  /-- The nice value. -/
  nice : ℤ
  /-- The class of the IO priority. -/
  ioClass : IoprioClass
  /-- The level of the IO priority. -/
  ioLevel : ℤ
  /-- The scheduling policy. -/
  policy : SchedPolicy
  /-- The cores that the thread may run on. -/
  affinity : Finset ℕ
  deriving DecidableEq

/-- Which of the system calls that change a thread succeed, by the thread. -/
structure SetCalls where
  /-- `setpriority`. -/
  setpriority : Pid → Bool
  /-- `ioprio_set`. -/
  ioprioSet : Pid → Bool
  /-- `sched_setscheduler`. -/
  schedSetscheduler : Pid → Bool
  /-- `sched_setaffinity`. -/
  schedSetaffinity : Pid → Bool

/-- Every call succeeds. -/
def SetCalls.allSucceed : SetCalls := ⟨fun _ => true, fun _ => true, fun _ => true, fun _ => true⟩

/-- `RENICE_INVALID`. -/
def reniceInvalid : ℤ := -128

/-- The threads with one function applied to those that the directory of the client lists. -/
def forTasks (client : Pid) (f : Thread → Thread) (threads : List Thread) : List Thread :=
  threads.map fun t => if t.owner = client then f t else t

/-! ### The four settings -/

/-- The body of the loop of `game_mode_apply_renice`. -/
def Thread.renice (expected renice : ℤ) (ok : Bool) (t : Thread) : Thread :=
  if t.nice ≠ expected then t else if ok then { t with nice := renice } else t

/-- `game_mode_apply_renice`: with an expected value other than zero the renice is removed. -/
def applyRenice (config : Config) (client : Pid) (expected : ℤ) (calls : SetCalls)
    (threads : List Thread) : List Thread :=
  let renice := config.getReniceValue
  if expected = reniceInvalid then threads
  else if renice = 0 then threads
  else
    let (expected, renice) := if expected ≠ 0 then (-renice, 0) else (expected, -renice)
    forTasks client (fun t => t.renice expected renice (calls.setpriority t.tid)) threads

/-- The body of the loop of `game_mode_apply_ioprio`: only the level is compared, and the class is
set to best-effort. -/
def Thread.ioprio (expected ioprio : ℤ) (ok : Bool) (t : Thread) : Thread :=
  if t.ioLevel ≠ expected then t
  else if ok then { t with ioClass := .be, ioLevel := ioprio }
  else t

/-- `game_mode_apply_ioprio`: with an expected value other than the default the default is set. -/
def applyIoprio (config : Config) (client : Pid) (expected : ℤ) (calls : SetCalls)
    (threads : List Thread) : List Thread :=
  let ioprio := config.getIoprioValue
  if expected = ioprioDontSet then threads
  else if ioprio = ioprioDontSet then threads
  else
    let (expected, ioprio) :=
      if expected ≠ ioprioDefault then (ioprio, ioprioDefault) else (expected, ioprio)
    forTasks client (fun t => t.ioprio expected ioprio (calls.ioprioSet t.tid)) threads

/-- `enable_softrealtime`. -/
def Config.enableSoftrealtime (self : Config) (nprocs : ℕ) : Bool :=
  self.string .softrealtime = "on".toList ∨
    self.string .softrealtime = "auto".toList ∧ 3 < nprocs

/-- `game_mode_apply_scheduling`: `nprocs` is the number of online cores. -/
def applyScheduling (config : Config) (client : Pid) (nprocs : ℕ) (calls : SetCalls)
    (threads : List Thread) : List Thread :=
  if config.enableSoftrealtime nprocs then
    threads.map fun t =>
      if t.tid = client ∧ calls.schedSetscheduler client then { t with policy := .iso } else t
  else threads

/-- `apply_affinity_mask`. -/
def applyAffinityMask (client : Pid) (mask : Finset ℕ) (calls : SetCalls)
    (threads : List Thread) : List Thread :=
  forTasks client
    (fun t => if calls.schedSetaffinity t.tid then { t with affinity := mask } else t) threads

/-- `game_mode_apply_core_pinning`. -/
def applyCorePinning (info : Option GameModeCPUInfo) (client : Pid) (calls : SetCalls)
    (threads : List Thread) : List Thread :=
  match info with
  | none => threads
  | some info =>
    if info.parkOrPin = .park then threads
    else applyAffinityMask client info.toKeep calls threads

/-- `game_mode_undo_core_pinning`. -/
def undoCorePinning (info : Option GameModeCPUInfo) (client : Pid) (calls : SetCalls)
    (threads : List Thread) : List Thread :=
  match info with
  | none => threads
  | some info =>
    if info.parkOrPin = .park then threads
    else applyAffinityMask client info.online calls threads

/-! ### All settings of a client -/

/-- `game_mode_apply_client_optimisations`. -/
def applyClientOptimisations (config : Config) (cpu : CpuState) (client : Pid) (calls : SetCalls)
    (threads : List Thread) : List Thread :=
  applyCorePinning cpu.info client calls
    (applyScheduling config client cpu.online.card calls
      (applyIoprio config client ioprioDefault calls (applyRenice config client 0 calls threads)))

/-- `game_mode_remove_client_optimisations`. -/
def removeClientOptimisations (config : Config) (cpu : CpuState) (client : Pid) (calls : SetCalls)
    (threads : List Thread) : List Thread :=
  undoCorePinning cpu.info client calls
    (applyRenice config client config.getReniceValue calls
      (applyIoprio config client config.getIoprioValue calls threads))

/-- What `applyClientOptimisations` does to a thread. -/
def Thread.optimiseWith (config : Config) (cpu : CpuState) (client : Pid) (calls : SetCalls)
    (t : Thread) : Thread where
  owner := t.owner
  tid := t.tid
  nice :=
    if t.owner = client ∧ config.getReniceValue ≠ 0 ∧ t.nice = 0 ∧ calls.setpriority t.tid then
      -config.getReniceValue
    else t.nice
  ioClass :=
    if t.owner = client ∧ t.ioLevel = ioprioDefault ∧ calls.ioprioSet t.tid then .be else t.ioClass
  ioLevel :=
    if t.owner = client ∧ t.ioLevel = ioprioDefault ∧ calls.ioprioSet t.tid then
      config.getIoprioValue
    else t.ioLevel
  policy :=
    if t.tid = client ∧ config.enableSoftrealtime cpu.online.card ∧ calls.schedSetscheduler client
    then .iso else t.policy
  affinity :=
    match cpu.info with
    | none => t.affinity
    | some info =>
      if t.owner = client ∧ info.parkOrPin = .pin ∧ calls.schedSetaffinity t.tid then info.toKeep
      else t.affinity

/-- What `removeClientOptimisations` does to a thread. -/
def Thread.restoreWith (config : Config) (cpu : CpuState) (client : Pid) (calls : SetCalls)
    (t : Thread) : Thread where
  owner := t.owner
  tid := t.tid
  nice :=
    if t.owner = client ∧ config.getReniceValue ≠ 0 ∧ t.nice = -config.getReniceValue ∧
      calls.setpriority t.tid then 0 else t.nice
  ioClass :=
    if t.owner = client ∧ t.ioLevel = config.getIoprioValue ∧ calls.ioprioSet t.tid then .be
    else t.ioClass
  ioLevel :=
    if t.owner = client ∧ t.ioLevel = config.getIoprioValue ∧ calls.ioprioSet t.tid then
      ioprioDefault
    else t.ioLevel
  policy := t.policy
  affinity :=
    match cpu.info with
    | none => t.affinity
    | some info =>
      if t.owner = client ∧ info.parkOrPin = .pin ∧ calls.schedSetaffinity t.tid then info.online
      else t.affinity

/-- What `applyClientOptimisations` does to a thread when every call succeeds. -/
def Thread.optimise (config : Config) (cpu : CpuState) (client : Pid) (t : Thread) : Thread where
  owner := t.owner
  tid := t.tid
  nice :=
    if t.owner = client ∧ config.getReniceValue ≠ 0 ∧ t.nice = 0 then -config.getReniceValue
    else t.nice
  ioClass := if t.owner = client ∧ t.ioLevel = ioprioDefault then .be else t.ioClass
  ioLevel :=
    if t.owner = client ∧ t.ioLevel = ioprioDefault then config.getIoprioValue else t.ioLevel
  policy := if t.tid = client ∧ config.enableSoftrealtime cpu.online.card then .iso else t.policy
  affinity :=
    match cpu.info with
    | none => t.affinity
    | some info =>
      if t.owner = client ∧ info.parkOrPin = .pin then info.toKeep else t.affinity

/-- What `removeClientOptimisations` does to a thread when every call succeeds. -/
def Thread.restore (config : Config) (cpu : CpuState) (client : Pid) (t : Thread) : Thread where
  owner := t.owner
  tid := t.tid
  nice :=
    if t.owner = client ∧ config.getReniceValue ≠ 0 ∧ t.nice = -config.getReniceValue then 0
    else t.nice
  ioClass := if t.owner = client ∧ t.ioLevel = config.getIoprioValue then .be else t.ioClass
  ioLevel :=
    if t.owner = client ∧ t.ioLevel = config.getIoprioValue then ioprioDefault else t.ioLevel
  policy := t.policy
  affinity :=
    match cpu.info with
    | none => t.affinity
    | some info =>
      if t.owner = client ∧ info.parkOrPin = .pin then info.online else t.affinity

theorem forTasks_eq_map (client : Pid) (f : Thread → Thread) (threads : List Thread) :
    forTasks client f threads = threads.map fun t => if t.owner = client then f t else t :=
  rfl

/-- Renicing acts on every thread by itself. -/
theorem applyRenice_zero (config : Config) (client : Pid) (calls : SetCalls)
    (threads : List Thread) :
    applyRenice config client 0 calls threads =
      threads.map fun t => { t with
        nice := if t.owner = client ∧ config.getReniceValue ≠ 0 ∧ t.nice = 0 ∧
          calls.setpriority t.tid then -config.getReniceValue else t.nice } := by
  by_cases h : config.getReniceValue = 0
  · simp [applyRenice, h]
  · simp only [applyRenice, h, forTasks_eq_map, Thread.renice]
    rw [if_neg (by decide), if_false]
    refine List.map_congr_left fun ⟨owner, tid, nice, ioClass, ioLevel, policy, affinity⟩ _ => ?_
    by_cases ho : owner = client <;> by_cases hn : nice = 0 <;>
      cases calls.setpriority tid <;> simp [ho, hn]

private theorem applyRenice_value (config : Config) (client : Pid) (calls : SetCalls)
    (threads : List Thread) :
    applyRenice config client config.getReniceValue calls threads =
      threads.map fun t => { t with
        nice := if t.owner = client ∧ config.getReniceValue ≠ 0 ∧
          t.nice = -config.getReniceValue ∧ calls.setpriority t.tid then 0 else t.nice } := by
  have hinvalid : config.getReniceValue ≠ reniceInvalid := by
    have := config.getReniceValue_mem.1
    rw [reniceInvalid]
    omega
  by_cases h : config.getReniceValue = 0
  · simp [applyRenice, h]
  · simp only [applyRenice, h, hinvalid, forTasks_eq_map, Thread.renice, if_false, if_true, ne_eq,
      not_false_eq_true]
    refine List.map_congr_left fun ⟨owner, tid, nice, ioClass, ioLevel, policy, affinity⟩ _ => ?_
    by_cases ho : owner = client <;> by_cases hn : nice = -config.getReniceValue <;>
      cases calls.setpriority tid <;> simp [ho, hn]

theorem getIoprioValue_ne_dontSet (config : Config) :
    config.getIoprioValue ≠ ioprioDontSet := by
  have := config.getIoprioValue_mem.1
  rw [ioprioDontSet]
  omega

private theorem applyIoprio_default (config : Config) (client : Pid) (calls : SetCalls)
    (threads : List Thread) :
    applyIoprio config client ioprioDefault calls threads =
      threads.map fun t => { t with
        ioClass := if t.owner = client ∧ t.ioLevel = ioprioDefault ∧ calls.ioprioSet t.tid then .be
          else t.ioClass
        ioLevel := if t.owner = client ∧ t.ioLevel = ioprioDefault ∧ calls.ioprioSet t.tid then
          config.getIoprioValue else t.ioLevel } := by
  have hset : ioprioDefault ≠ ioprioDontSet := by decide
  simp only [applyIoprio, hset, getIoprioValue_ne_dontSet, forTasks_eq_map, Thread.ioprio,
    if_false, ne_eq, not_true_eq_false]
  refine List.map_congr_left fun ⟨owner, tid, nice, ioClass, ioLevel, policy, affinity⟩ _ => ?_
  by_cases ho : owner = client <;> by_cases hl : ioLevel = ioprioDefault <;>
    cases calls.ioprioSet tid <;> simp [ho, hl]

/-- The branch of `game_mode_apply_ioprio` on the way out: a configured value that is the default
takes the branch of the way in, with the same outcome. -/
theorem ioprioBranch_value (config : Config) :
    (if config.getIoprioValue ≠ ioprioDefault then (config.getIoprioValue, ioprioDefault)
      else (config.getIoprioValue, config.getIoprioValue)) =
      (config.getIoprioValue, ioprioDefault) := by
  split_ifs with h
  · rfl
  · rw [not_not] at h
    rw [h]

private theorem applyIoprio_value (config : Config) (client : Pid) (calls : SetCalls)
    (threads : List Thread) :
    applyIoprio config client config.getIoprioValue calls threads =
      threads.map fun t => { t with
        ioClass := if t.owner = client ∧ t.ioLevel = config.getIoprioValue ∧
          calls.ioprioSet t.tid then .be else t.ioClass
        ioLevel := if t.owner = client ∧ t.ioLevel = config.getIoprioValue ∧
          calls.ioprioSet t.tid then ioprioDefault else t.ioLevel } := by
  simp only [applyIoprio, ioprioBranch_value, getIoprioValue_ne_dontSet, forTasks_eq_map,
    Thread.ioprio, if_false]
  refine List.map_congr_left fun ⟨owner, tid, nice, ioClass, ioLevel, policy, affinity⟩ _ => ?_
  by_cases ho : owner = client <;> by_cases hl : ioLevel = config.getIoprioValue <;>
    cases calls.ioprioSet tid <;> simp [ho, hl]

private theorem applyScheduling_eq_map (config : Config) (client : Pid) (nprocs : ℕ)
    (calls : SetCalls) (threads : List Thread) :
    applyScheduling config client nprocs calls threads =
      threads.map fun t => { t with
        policy := if t.tid = client ∧ config.enableSoftrealtime nprocs ∧
          calls.schedSetscheduler client then .iso else t.policy } := by
  rw [applyScheduling]
  by_cases h : config.enableSoftrealtime nprocs
  · rw [if_pos h]
    refine List.map_congr_left fun ⟨owner, tid, nice, ioClass, ioLevel, policy, affinity⟩ _ => ?_
    by_cases ht : tid = client <;> cases calls.schedSetscheduler client <;> simp [ht, h]
  · simp [h]

private theorem applyAffinityMask_eq_map (client : Pid) (mask : Finset ℕ) (calls : SetCalls)
    (threads : List Thread) :
    applyAffinityMask client mask calls threads =
      threads.map fun t => { t with
        affinity := if t.owner = client ∧ calls.schedSetaffinity t.tid then mask
          else t.affinity } := by
  rw [applyAffinityMask, forTasks_eq_map]
  refine List.map_congr_left fun ⟨owner, tid, nice, ioClass, ioLevel, policy, affinity⟩ _ => ?_
  by_cases ho : owner = client <;> cases calls.schedSetaffinity tid <;> simp [ho]

private theorem applyCorePinning_eq_map (info : Option GameModeCPUInfo) (client : Pid)
    (calls : SetCalls) (threads : List Thread) :
    applyCorePinning info client calls threads =
      threads.map fun t => { t with
        affinity :=
          match info with
          | none => t.affinity
          | some info =>
            if t.owner = client ∧ info.parkOrPin = .pin ∧ calls.schedSetaffinity t.tid then
              info.toKeep
            else t.affinity } := by
  cases info with
  | none => simp [applyCorePinning]
  | some info =>
    cases hmode : info.parkOrPin with
    | park => simp [applyCorePinning, hmode]
    | pin => simp [applyCorePinning, hmode, applyAffinityMask_eq_map]

private theorem undoCorePinning_eq_map (info : Option GameModeCPUInfo) (client : Pid)
    (calls : SetCalls) (threads : List Thread) :
    undoCorePinning info client calls threads =
      threads.map fun t => { t with
        affinity :=
          match info with
          | none => t.affinity
          | some info =>
            if t.owner = client ∧ info.parkOrPin = .pin ∧ calls.schedSetaffinity t.tid then
              info.online
            else t.affinity } := by
  cases info with
  | none => simp [undoCorePinning]
  | some info =>
    cases hmode : info.parkOrPin with
    | park => simp [undoCorePinning, hmode]
    | pin => simp [undoCorePinning, hmode, applyAffinityMask_eq_map]

/-- Registering a client acts on every thread by itself. -/
theorem applyClientOptimisations_eq_map_with (config : Config) (cpu : CpuState) (client : Pid)
    (calls : SetCalls) (threads : List Thread) :
    applyClientOptimisations config cpu client calls threads =
      threads.map (Thread.optimiseWith config cpu client calls) := by
  rw [applyClientOptimisations, applyRenice_zero, applyIoprio_default, applyScheduling_eq_map,
    applyCorePinning_eq_map, List.map_map, List.map_map, List.map_map]
  rfl

/-- Unregistering a client acts on every thread by itself. -/
theorem removeClientOptimisations_eq_map_with (config : Config) (cpu : CpuState) (client : Pid)
    (calls : SetCalls) (threads : List Thread) :
    removeClientOptimisations config cpu client calls threads =
      threads.map (Thread.restoreWith config cpu client calls) := by
  rw [removeClientOptimisations, applyIoprio_value, applyRenice_value, undoCorePinning_eq_map,
    List.map_map, List.map_map]
  rfl

/-- When every call succeeds, registering a client acts on every thread by itself. -/
theorem applyClientOptimisations_eq_map (config : Config) (cpu : CpuState) (client : Pid)
    (threads : List Thread) :
    applyClientOptimisations config cpu client .allSucceed threads =
      threads.map (Thread.optimise config cpu client) := by
  rw [applyClientOptimisations_eq_map_with]
  refine List.map_congr_left fun t _ => ?_
  simp [Thread.optimiseWith, Thread.optimise, SetCalls.allSucceed]

/-- When every call succeeds, unregistering a client acts on every thread by itself. -/
theorem removeClientOptimisations_eq_map (config : Config) (cpu : CpuState) (client : Pid)
    (threads : List Thread) :
    removeClientOptimisations config cpu client .allSucceed threads =
      threads.map (Thread.restore config cpu client) := by
  rw [removeClientOptimisations_eq_map_with]
  refine List.map_congr_left fun t _ => ?_
  simp [Thread.restoreWith, Thread.restore, SetCalls.allSucceed]

theorem foldl_map_eq_map_foldl {α β : Type*} (f : α → β → β) :
    (as : List α) → (bs : List β) →
      as.foldl (fun bs a => bs.map (f a)) bs = bs.map fun b => as.foldl (fun b a => f a b) b
  | [], bs => by simp
  | a :: as, bs => by
    rw [List.foldl_cons, foldl_map_eq_map_foldl f as, List.map_map]
    rfl

/-- When every call succeeds, registering clients one after the other acts on every thread by
itself. -/
theorem foldl_applyClientOptimisations (config : Config) (cpu : CpuState) (clients : List Pid)
    (threads : List Thread) :
    clients.foldl (fun threads client =>
        applyClientOptimisations config cpu client .allSucceed threads) threads =
      threads.map fun t => clients.foldl (fun t client => t.optimise config cpu client) t := by
  simp only [applyClientOptimisations_eq_map]
  exact foldl_map_eq_map_foldl (Thread.optimise config cpu) clients threads

/-- When every call succeeds, unregistering clients one after the other acts on every thread by
itself. -/
theorem foldl_removeClientOptimisations (config : Config) (cpu : CpuState) (clients : List Pid)
    (threads : List Thread) :
    clients.foldl (fun threads client =>
        removeClientOptimisations config cpu client .allSucceed threads) threads =
      threads.map fun t => clients.foldl (fun t client => t.restore config cpu client) t := by
  simp only [removeClientOptimisations_eq_map]
  exact foldl_map_eq_map_foldl (Thread.restore config cpu) clients threads

@[simp] theorem Thread.optimise_owner (config : Config) (cpu : CpuState) (client : Pid)
    (t : Thread) : (t.optimise config cpu client).owner = t.owner := rfl

@[simp] theorem Thread.optimise_tid (config : Config) (cpu : CpuState) (client : Pid)
    (t : Thread) : (t.optimise config cpu client).tid = t.tid := rfl

@[simp] theorem Thread.restore_owner (config : Config) (cpu : CpuState) (client : Pid)
    (t : Thread) : (t.restore config cpu client).owner = t.owner := rfl

@[simp] theorem Thread.restore_tid (config : Config) (cpu : CpuState) (client : Pid)
    (t : Thread) : (t.restore config cpu client).tid = t.tid := rfl

theorem Thread.restore_of_ne {config : Config} {cpu : CpuState} {client : Pid} {t : Thread}
    (h : t.owner ≠ client) : t.restore config cpu client = t := by
  obtain ⟨owner, tid, nice, ioClass, ioLevel, policy, affinity⟩ := t
  simp only [Thread.restore, Thread.mk.injEq, h, false_and, if_false, true_and]
  cases cpu.info <;> rfl

/-- Registering a client leaves the threads of other processes alone, up to the one whose identifier
is that of the client. -/
theorem Thread.optimise_of_ne {config : Config} {cpu : CpuState} {client : Pid} {t : Thread}
    (h : t.owner ≠ client) :
    t.optimise config cpu client =
      { t with
        policy := if t.tid = client ∧ config.enableSoftrealtime cpu.online.card then .iso
          else t.policy } := by
  obtain ⟨owner, tid, nice, ioClass, ioLevel, policy, affinity⟩ := t
  simp only [Thread.optimise, Thread.mk.injEq, h, false_and, if_false, true_and]
  cases cpu.info <;> rfl

/-- Unregistering different clients acts on a thread once, for the process that it belongs to. -/
theorem Thread.foldl_restore (config : Config) (cpu : CpuState) :
    {clients : List Pid} → clients.Nodup → (t : Thread) →
      clients.foldl (fun t client => t.restore config cpu client) t =
        if t.owner ∈ clients then t.restore config cpu t.owner else t
  | [], _, t => by simp
  | client :: clients, hnodup, t => by
    obtain ⟨hclient, hnodup⟩ := List.nodup_cons.1 hnodup
    rw [List.foldl_cons, Thread.foldl_restore config cpu hnodup]
    by_cases howner : t.owner = client
    · simp [howner, hclient]
    · rw [Thread.restore_of_ne howner]
      simp [howner]

/-- Registering different clients acts on a thread once, for the process that it belongs to, but
for the policy of a thread whose identifier is that of a client. -/
theorem Thread.foldl_optimise (config : Config) (cpu : CpuState) :
    {clients : List Pid} → clients.Nodup → (t : Thread) →
      clients.foldl (fun t client => t.optimise config cpu client) t =
        { (if t.owner ∈ clients then t.optimise config cpu t.owner else t) with
          policy := if t.tid ∈ clients ∧ config.enableSoftrealtime cpu.online.card then .iso
            else t.policy }
  | [], _, t => by simp
  | client :: clients, hnodup, t => by
    obtain ⟨hclient, hnodup⟩ := List.nodup_cons.1 hnodup
    rw [List.foldl_cons, Thread.foldl_optimise config cpu hnodup]
    by_cases howner : t.owner = client
    · subst howner
      by_cases htid : t.tid ∈ clients <;> by_cases hself : t.tid = t.owner <;>
        by_cases hsoft : config.enableSoftrealtime cpu.online.card <;>
        simp [Thread.optimise, hclient, htid, hself, hsoft]
    · rw [Thread.optimise_of_ne howner]
      by_cases hmem : t.owner ∈ clients <;> by_cases htid : t.tid ∈ clients <;>
        by_cases hself : t.tid = client <;>
        by_cases hsoft : config.enableSoftrealtime cpu.online.card <;>
        simp [Thread.optimise, howner, hmem, htid, hself, hsoft]

end GameMode
