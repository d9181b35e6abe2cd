import GameMode.Daemon.Governor
import GameMode.Daemon.Switches
import GameMode.Daemon.Threads
import GameMode.Util.Gpuclockctl

/-!
# The context of the daemon

`World` is the context of the daemon together with the parts of the system that it changes. Game
mode is entered when the first client is registered and left when the last one is removed; in
between the context holds what is needed to put everything back.

What the helper commands and the system calls come to is data: `Outcomes` for the commands of
entering and leaving, `Env` for everything that a critical section asks of the system. The log
records the messages about games and about entering and leaving, the scripts, the signals, and the
replies to callers.

## Main definitions

* `Client`, `World`, `contextInit`: the state.
* `contextEnter`, `contextLeave`: pivoting into and out of game mode.
* `insertClient`, `removeClient`: the critical sections of registering and unregistering.
* `reloadConfigInternal`: the reload of the configuration.

## Main results

* `World.Consistent.insertClient`, `World.Consistent.removeClient`: the registry stays consistent.
* `contextEnter_log`, `contextLeave_log`: what entering and leaving log.
* `tearDown_threads`, `regrow_threads`: the reload acts on every thread by itself.
* `foldl_removeOptimisations`, `foldl_applyOptimisations`: the loops over the clients change their
  threads only.

Source: `daemon/gamemode-context.c`.
-/

namespace GameMode

/-! ### The state -/

/-- `PATH_MAX`. -/
def pathMax : ℕ := 4096

/-- `struct GameModeClient`, a game that is registered. -/
structure Client where
  /-- The process identifier. -/
  pid : Pid
  /-- The process that requested the registration. -/
  requester : Pid
  /-- The path of the executable. -/
  executable : CString
  /-- The time of the registration. -/
  timestamp : ℤ
  deriving DecidableEq

/-- `game_mode_client_new`, when there is memory. -/
def clientNew (pid : Pid) (executable : CString) (requester : Pid) (now : ℤ) : Client :=
  ⟨pid, requester, executable.truncate pathMax, now⟩

/-- What the daemon logs and signals. -/
inductive Event
  /-- `Entering Game Mode...` -/
  | entering
  /-- `Leaving Game Mode...` -/
  | leaving
  /-- `Executing script [%s]` -/
  | script (text : CString)
  /-- `Adding game: %d [%s]` -/
  | adding (pid : Pid)
  /-- `Removing game: %d [%s]` -/
  | removing (pid : Pid)
  /-- The signals `GameRegistered` and `GameUnregistered`. -/
  | signal (registered : Bool) (pid : Pid)
  /-- The games that `game_mode_context_list_clients` returned. -/
  | listed (pids : List Pid)
  /-- The number that `game_mode_context_num_clients` returned for the property `ClientCount`. -/
  | counted (count : ℤ)
  /-- The reply to a method call. -/
  | replied (result : ℤ)
  deriving DecidableEq

/-- `struct GameModeContext`, and what the daemon changes of the system. -/
structure World where
  /-- `refcount`. -/
  refcount : ℤ
  /-- The list that starts at `client`. -/
  clients : List Client
  /-- `config`. -/
  config : Config
  /-- The governor. -/
  governor : GovernorState
  /-- The platform profile. -/
  profile : ProfileState
  /-- The split-lock mitigation. -/
  splitlock : SplitlockState
  /-- The X3D mode. -/
  x3d : X3dState
  /-- `stored_gpu`. -/
  storedGpu : Option GameModeGPUInfo
  /-- `target_gpu`. -/
  targetGpu : Option GameModeGPUInfo
  /-- The cards. -/
  gpu : GpuSystem
  /-- The cores. -/
  cpu : CpuState
  /-- The idle inhibitor. -/
  inhibitor : InhibitorState
  /-- The integrated GPU. -/
  igpu : IgpuState
  /-- The threads of the system. -/
  threads : List Thread
  /-- What was logged so far. -/
  log : List Event

/-- The context with one more event in the log. -/
def World.say (e : Event) (w : World) : World := { w with log := w.log ++ [e] }

/-- The identifiers of the clients. -/
def World.pids (w : World) : List Pid := w.clients.map Client.pid

/-- The registry is consistent: the count is the length of the list, and no identifier is listed
twice. -/
structure World.Consistent (w : World) : Prop where
  refcount : w.refcount = w.clients.length
  nodup : w.pids.Nodup

/-- The system before the daemon starts. -/
structure OriginalSystem where
  /-- The governors. -/
  governors : List GovernorFile
  /-- The platform profile, if there is one. -/
  profile : Option CString
  /-- The split-lock mitigation, if its file can be read. -/
  splitlock : Option ℤ
  /-- Whether `x3dmodectl` can be executed. -/
  x3dHelper : Bool
  /-- The X3D mode, if the processor has one. -/
  x3dMode : Option X3dMode
  /-- The cards. -/
  gpu : GpuSystem
  /-- The online cores. -/
  online : Finset ℕ
  /-- The threads. -/
  threads : List Thread

/-- A system with one governor file, a profile, and none of the other settings. -/
def OriginalSystem.plain (governor profile : CString) (online : Finset ℕ) (threads : List Thread) :
    OriginalSystem where
  governors := [⟨governor, true⟩]
  profile := some profile
  splitlock := none
  x3dHelper := false
  x3dMode := none
  gpu := ⟨fun _ => none, fun _ => -1, fun _ _ => 0, fun _ => []⟩
  online := online
  threads := threads

variable (files : CpuSysfs)

/-- `game_mode_context_init`: `allocated` is what the set of the fast cores holds at first. -/
def contextInit (allocated : Finset ℕ) (config : Config) (system : OriginalSystem) : World where
  refcount := 0
  clients := []
  config := config
  governor := ⟨.default, [], system.governors⟩
  profile := ⟨.default, [], system.profile⟩
  splitlock := ⟨-1, system.splitlock⟩
  x3d := ⟨[], system.x3dHelper, system.x3dMode⟩
  storedGpu := (initialiseGpu system.gpu.vendorFile config).2
  targetGpu := (initialiseGpu system.gpu.vendorFile config).2
  gpu := system.gpu
  cpu := ⟨(initialiseCpu files system.online allocated config).2, system.online⟩
  inhibitor := ⟨none, 0, []⟩
  igpu := ⟨false, 0, 0⟩
  threads := system.threads
  log := []

@[simp] theorem contextInit_cpu (allocated : Finset ℕ) (config : Config) (system : OriginalSystem) :
    (contextInit files allocated config system).cpu =
      ⟨(initialiseCpu files system.online allocated config).2, system.online⟩ := rfl

theorem consistent_contextInit (allocated : Finset ℕ) (config : Config) (system : OriginalSystem) :
    (contextInit files allocated config system).Consistent :=
  ⟨rfl, List.nodup_nil⟩

/-! ### Entering and leaving -/

/-- What the calls of `game_mode_context_enter` and `game_mode_context_leave` come to. -/
structure Outcomes where
  /-- `platprofctl set`. -/
  profileSet : Bool
  /-- `cpugovctl set`. -/
  governorSet : Bool
  /-- What is read of the energies. -/
  energies : Energies
  /-- The creation of an idle inhibitor. -/
  inhibit : Bool
  /-- `procsysctl split_lock_mitigate`. -/
  splitlockSet : Bool
  /-- `x3dmodectl get`. -/
  x3dGet : Bool
  /-- `x3dmodectl set`. -/
  x3dSet : Bool
  /-- `gpuclockctl get`. -/
  gpuGet : Bool
  /-- `gpuclockctl set`. -/
  gpuSet : Bool
  /-- `cpucorectl online` and `cpucorectl offline`. -/
  corectl : CorectlOutcome

/-- Every helper command succeeds. -/
structure Outcomes.AllSucceed (o : Outcomes) : Prop where
  profileSet : o.profileSet = true
  governorSet : o.governorSet = true
  inhibit : o.inhibit = true
  splitlockSet : o.splitlockSet = true
  x3dGet : o.x3dGet = true
  x3dSet : o.x3dSet = true
  gpuGet : o.gpuGet = true
  gpuSet : o.gpuSet = true
  corectl : o.corectl = .succeeded

/-- The outcomes when every helper command succeeds and no energy can be read. -/
def Outcomes.succeeding : Outcomes where
  profileSet := true
  governorSet := true
  energies := ⟨none, none⟩
  inhibit := true
  splitlockSet := true
  x3dGet := true
  x3dSet := true
  gpuGet := true
  gpuSet := true
  corectl := .succeeded

theorem Outcomes.allSucceed_succeeding : Outcomes.succeeding.AllSucceed :=
  ⟨rfl, rfl, rfl, rfl, rfl, rfl, rfl, rfl, rfl⟩

/-- `game_mode_execute_scripts`: a script that fails is not fatal. -/
def executeScripts (scripts : StringList) : List Event := scripts.entries.map Event.script

/-- `game_mode_context_store_defaults`. -/
def contextStoreDefaults (o : Outcomes) (w : World) : World :=
  { w with
    profile := storeProfile w.profile
    governor := storeGovernor w.governor
    splitlock := storeSplitlock w.splitlock
    x3d := storeX3dMode w.config o.x3dGet w.x3d }

/-- `game_mode_context_enter`. -/
def contextEnter (o : Outcomes) (w : World) : World :=
  let w := contextStoreDefaults o w
  let governor := setGovernor w.config .desired o.governorSet w.governor
  { w with
    profile := (setProfile w.config .desired o.profileSet w.profile).2
    governor := governor.2
    -- the governor that is set need not be another one than before
    igpu := if governor.1 then enableIgpuOptimization w.config o.energies w.igpu else w.igpu
    inhibitor := w.inhibitor.enter w.config o.inhibit
    splitlock := disableSplitlock w.config true o.splitlockSet w.splitlock
    x3d := setX3dMode w.config true o.x3dSet w.x3d
    storedGpu := getGpu w.storedGpu o.gpuGet w.gpu
    gpu := applyGpu w.targetGpu o.gpuSet w.gpu
    cpu := parkCpu files o.corectl w.cpu
    log := w.log ++ .entering :: executeScripts w.config.getGamemodeStartScripts }

/-- `game_mode_context_leave`. -/
def contextLeave (o : Outcomes) (w : World) : World :=
  { w with
    profile := (setProfile w.config .default o.profileSet w.profile).2
    gpu := applyGpu w.storedGpu o.gpuSet w.gpu
    cpu := unparkCpu o.corectl w.cpu
    inhibitor := w.inhibitor.leave w.config
    splitlock := disableSplitlock w.config false o.splitlockSet w.splitlock
    x3d := setX3dMode w.config false o.x3dSet w.x3d
    governor := (setGovernor w.config .default o.governorSet w.governor).2
    igpu := disableIgpuOptimization w.igpu
    log := w.log ++ .leaving :: executeScripts w.config.getGamemodeEndScripts }

/-! ### The critical sections -/

/-- What a critical section asks of the system. -/
structure Env where
  /-- `game_mode_context_find_exe`. -/
  findExe : Pid → Option CString
  /-- Whether `kill(pid, 0)` succeeds. -/
  alive : Pid → Bool
  /-- The time. -/
  now : ℤ
  /-- The calls of `game_mode_context_leave`. -/
  leave : Outcomes
  /-- The calls of `game_mode_context_enter`. -/
  enter : Outcomes
  /-- The calls that change the threads of a client back. -/
  removeCalls : Pid → SetCalls
  /-- The calls that change the threads of a client. -/
  applyCalls : Pid → SetCalls
  /-- What `get_cpu_energy_uj` and `get_igpu_energy_uj` read in the check of the reaper. -/
  energies : Energies
  /-- `cpugovctl set` in that check. -/
  igpuGovernorSet : Bool
  /-- `config_needs_reload`. -/
  configNeedsReload : Bool
  /-- The values that `config_reload` reads. -/
  reloaded : Config
  /-- `cpucorectl` when the information about the cores is built again. -/
  reconfigCorectl : CorectlOutcome
  /-- What the set of the fast cores holds at first. -/
  allocated : Finset ℕ

/-- Every helper command and every call that changes a thread succeeds. -/
structure Env.AllSucceed (env : Env) : Prop where
  leave : env.leave.AllSucceed
  enter : env.enter.AllSucceed
  removeCalls : ∀ pid, env.removeCalls pid = .allSucceed
  applyCalls : ∀ pid, env.applyCalls pid = .allSucceed
  reconfigCorectl : env.reconfigCorectl = .succeeded

/-- A system on which everything succeeds: every process has an executable and is alive, and the
configuration that is read again is the one given. -/
def Env.succeeding (reloaded : Config) : Env where
  findExe _ := some "/usr/bin/game".toList
  alive _ := true
  now := 0
  leave := .succeeding
  enter := .succeeding
  removeCalls _ := .allSucceed
  applyCalls _ := .allSucceed
  energies := ⟨none, none⟩
  igpuGovernorSet := true
  configNeedsReload := false
  reloaded := reloaded
  reconfigCorectl := .succeeded
  allocated := ∅

theorem Env.allSucceed_succeeding (reloaded : Config) : (Env.succeeding reloaded).AllSucceed :=
  ⟨Outcomes.allSucceed_succeeding, Outcomes.allSucceed_succeeding, fun _ => rfl, fun _ => rfl, rfl⟩

/-- The context with other threads. -/
def World.withThreads (w : World) (threads : List Thread) : World := { w with threads := threads }

/-- `game_mode_apply_client_optimisations`, on the context. -/
def World.applyOptimisations (env : Env) (client : Pid) (w : World) : World :=
  w.withThreads (applyClientOptimisations w.config w.cpu client (env.applyCalls client) w.threads)

/-- `game_mode_remove_client_optimisations`, on the context. -/
def World.removeOptimisations (env : Env) (client : Pid) (w : World) : World :=
  w.withThreads (removeClientOptimisations w.config w.cpu client (env.removeCalls client) w.threads)

/-- The list and the count with a client added at the front. -/
def World.add (cl : Client) (w : World) : World :=
  { w with
    log := w.log ++ [.adding cl.pid]
    clients := cl :: w.clients
    refcount := w.refcount + 1 }

/-- The list and the count without the first client of the identifier. -/
def World.remove (client : Pid) (w : World) : World :=
  { w with
    log := w.log ++ [.removing client]
    clients := w.clients.eraseP fun cl => cl.pid = client
    refcount := w.refcount - 1 }

/-- The client is in the list. -/
def World.IsRegistered (w : World) (client : Pid) : Prop := ∃ cl ∈ w.clients, cl.pid = client

instance (w : World) (client : Pid) : Decidable (w.IsRegistered client) :=
  inferInstanceAs (Decidable (∃ cl ∈ w.clients, cl.pid = client))

/-- The critical section of `game_mode_context_register`: the first client enters game mode. -/
def insertClient (env : Env) (cl : Client) (w : World) : World :=
  (if w.refcount = 0 then contextEnter files env.enter (w.add cl)
    else w.add cl).applyOptimisations env cl.pid

/-- The critical section of `game_mode_context_unregister`, `none` when the client is not in the
list. The last client leaves game mode. -/
def removeClient (env : Env) (client : Pid) (w : World) : Option World :=
  if w.IsRegistered client then
    some ((if w.refcount = 1 then contextLeave env.leave (w.remove client)
      else w.remove client).removeOptimisations env client)
  else none

/-- The critical section of `game_mode_context_restart`. -/
def restartSection (env : Env) (w : World) : World :=
  contextEnter files env.enter (contextLeave env.leave w)

/-- `game_mode_check_igpu_energy`. -/
def contextCheckIgpuEnergy (env : Env) (w : World) : World :=
  let s := checkIgpuEnergy w.config env.energies env.igpuGovernorSet (w.governor, w.igpu)
  { w with governor := s.1, igpu := s.2 }

/-- `game_mode_reapply_core_pinning_internal`. -/
def reapplyCorePinningInternal (env : Env) (w : World) : World :=
  if w.refcount ≠ 0 then
    w.withThreads (w.clients.foldl (fun threads cl =>
      applyCorePinning w.cpu.info cl.pid (env.applyCalls cl.pid) threads) w.threads)
  else w

/-- The first part of `game_mode_reload_config_internal`, which tears game mode down. -/
def tearDown (env : Env) (w : World) : World :=
  if w.refcount ≠ 0 then
    contextLeave env.leave (w.clients.foldl (fun w cl => w.removeOptimisations env cl.pid) w)
  else w

/-- The middle of `game_mode_reload_config_internal`: the values and the information about the
cores are read again. -/
def rereadConfig (env : Env) (w : World) : World :=
  { w with
    config := env.reloaded
    cpu := reconfigCpu files env.reconfigCorectl env.allocated env.reloaded w.cpu }

/-- The last part of `game_mode_reload_config_internal`, which grows game mode again. -/
def regrow (env : Env) (w : World) : World :=
  if w.refcount ≠ 0 then
    w.clients.foldl (fun w cl => w.applyOptimisations env cl.pid) (contextEnter files env.enter w)
  else w

/-- `game_mode_reload_config_internal`. -/
def reloadConfigInternal (env : Env) (w : World) : World :=
  regrow files env (rereadConfig files env (tearDown env w))

/-- `game_mode_context_num_clients`. -/
def contextNumClients (w : World) : ℤ := w.refcount

/-- `game_mode_context_has_client`. -/
def contextHasClient (w : World) (client : Pid) : Bool := w.clients.any fun cl => cl.pid = client

/-- The loop of `game_mode_context_list_clients` from its counter on: `none` stands for the
assertion that fails. -/
def listClientsFrom (n : ℤ) : ℕ → List Client → Option (List Pid)
  | _, [] => some []
  | i, cl :: clients =>
    if (i : ℤ) < n then (listClientsFrom n (i + 1) clients).map (cl.pid :: ·) else none

/-- `game_mode_context_list_clients`. -/
def contextListClients (w : World) : Option (List Pid) := listClientsFrom w.refcount 0 w.clients

/-! ### What a section leaves alone -/

section Frame

variable (o : Outcomes) (env : Env) (w : World)

@[simp] theorem contextEnter_clients : (contextEnter files o w).clients = w.clients := rfl

@[simp] theorem contextEnter_refcount : (contextEnter files o w).refcount = w.refcount := rfl

@[simp] theorem contextEnter_config : (contextEnter files o w).config = w.config := rfl

@[simp] theorem contextEnter_targetGpu : (contextEnter files o w).targetGpu = w.targetGpu := rfl

@[simp] theorem contextEnter_threads : (contextEnter files o w).threads = w.threads := rfl

@[simp] theorem contextEnter_governor :
    (contextEnter files o w).governor =
      (setGovernor w.config .desired o.governorSet (storeGovernor w.governor)).2 := rfl

@[simp] theorem contextEnter_profile :
    (contextEnter files o w).profile =
      (setProfile w.config .desired o.profileSet (storeProfile w.profile)).2 := rfl

@[simp] theorem contextEnter_splitlock :
    (contextEnter files o w).splitlock =
      disableSplitlock w.config true o.splitlockSet (storeSplitlock w.splitlock) := rfl

@[simp] theorem contextEnter_x3d :
    (contextEnter files o w).x3d =
      setX3dMode w.config true o.x3dSet (storeX3dMode w.config o.x3dGet w.x3d) := rfl

@[simp] theorem contextEnter_storedGpu :
    (contextEnter files o w).storedGpu = getGpu w.storedGpu o.gpuGet w.gpu := rfl

@[simp] theorem contextEnter_gpu :
    (contextEnter files o w).gpu = applyGpu w.targetGpu o.gpuSet w.gpu := rfl

@[simp] theorem contextEnter_inhibitor :
    (contextEnter files o w).inhibitor = w.inhibitor.enter w.config o.inhibit := rfl

@[simp] theorem contextEnter_cpu :
    (contextEnter files o w).cpu = parkCpu files o.corectl w.cpu := rfl

@[simp] theorem contextEnter_log :
    (contextEnter files o w).log =
      w.log ++ .entering :: executeScripts w.config.getGamemodeStartScripts := rfl

@[simp] theorem contextLeave_clients : (contextLeave o w).clients = w.clients := rfl

@[simp] theorem contextLeave_refcount : (contextLeave o w).refcount = w.refcount := rfl

@[simp] theorem contextLeave_config : (contextLeave o w).config = w.config := rfl

@[simp] theorem contextLeave_targetGpu : (contextLeave o w).targetGpu = w.targetGpu := rfl

@[simp] theorem contextLeave_threads : (contextLeave o w).threads = w.threads := rfl

@[simp] theorem contextLeave_governor :
    (contextLeave o w).governor = (setGovernor w.config .default o.governorSet w.governor).2 := rfl

@[simp] theorem contextLeave_profile :
    (contextLeave o w).profile = (setProfile w.config .default o.profileSet w.profile).2 := rfl

@[simp] theorem contextLeave_splitlock :
    (contextLeave o w).splitlock = disableSplitlock w.config false o.splitlockSet w.splitlock := rfl

@[simp] theorem contextLeave_x3d :
    (contextLeave o w).x3d = setX3dMode w.config false o.x3dSet w.x3d := rfl

@[simp] theorem contextLeave_gpu :
    (contextLeave o w).gpu = applyGpu w.storedGpu o.gpuSet w.gpu := rfl

@[simp] theorem contextLeave_inhibitor :
    (contextLeave o w).inhibitor = w.inhibitor.leave w.config := rfl

@[simp] theorem contextLeave_cpu : (contextLeave o w).cpu = unparkCpu o.corectl w.cpu := rfl

@[simp] theorem contextLeave_log :
    (contextLeave o w).log =
      w.log ++ .leaving :: executeScripts w.config.getGamemodeEndScripts := rfl

/-- Changing the threads of clients back one after the other changes nothing else. -/
theorem foldl_removeOptimisations : (clients : List Client) → (w : World) →
    clients.foldl (fun w cl => w.removeOptimisations env cl.pid) w =
      w.withThreads (clients.foldl (fun threads cl =>
        removeClientOptimisations w.config w.cpu cl.pid (env.removeCalls cl.pid) threads)
        w.threads)
  | [], _ => rfl
  | cl :: clients, w => foldl_removeOptimisations clients (w.removeOptimisations env cl.pid)

/-- Changing the threads of clients one after the other changes nothing else. -/
theorem foldl_applyOptimisations : (clients : List Client) → (w : World) →
    clients.foldl (fun w cl => w.applyOptimisations env cl.pid) w =
      w.withThreads (clients.foldl (fun threads cl =>
        applyClientOptimisations w.config w.cpu cl.pid (env.applyCalls cl.pid) threads)
        w.threads)
  | [], _ => rfl
  | cl :: clients, w => foldl_applyOptimisations clients (w.applyOptimisations env cl.pid)

end Frame

theorem insertClient_clients (env : Env) (cl : Client) (w : World) :
    (insertClient files env cl w).clients = cl :: w.clients ∧
      (insertClient files env cl w).refcount = w.refcount + 1 := by
  rw [insertClient]
  split_ifs <;> exact ⟨rfl, rfl⟩

theorem removeClient_isSome_iff (env : Env) (client : Pid) (w : World) :
    (removeClient env client w).isSome ↔ w.IsRegistered client := by
  rw [removeClient]
  split_ifs with h <;> simp [h]

theorem removeClient_clients {env : Env} {client : Pid} {w w' : World}
    (h : removeClient env client w = some w') :
    w'.clients = w.clients.eraseP (fun cl => cl.pid = client) ∧ w'.refcount = w.refcount - 1 := by
  rw [removeClient] at h
  split_ifs at h <;> cases h <;> exact ⟨rfl, rfl⟩

theorem World.mem_pids_iff {w : World} {client : Pid} : client ∈ w.pids ↔ w.IsRegistered client :=
  List.mem_map

theorem insertClient_pids (env : Env) (cl : Client) (w : World) :
    (insertClient files env cl w).pids = cl.pid :: w.pids :=
  congrArg (List.map Client.pid) (insertClient_clients files env cl w).1

theorem removeClient_pids {env : Env} {client : Pid} {w w' : World}
    (h : removeClient env client w = some w') : w'.pids = w.pids.erase client := by
  rw [World.pids, (removeClient_clients h).1, List.erase_eq_eraseP, World.pids, List.eraseP_map]
  congr 2
  funext cl
  simp only [Function.comp_apply, Bool.beq_eq_decide_eq, eq_comm]

/-- The insertion of a new client keeps the registry consistent. -/
theorem World.Consistent.insertClient {w : World} (h : w.Consistent) (env : Env) {cl : Client}
    (hnew : ¬w.IsRegistered cl.pid) : (insertClient files env cl w).Consistent := by
  obtain ⟨hclients, hrefcount⟩ := insertClient_clients files env cl w
  refine ⟨?_, ?_⟩
  · rw [hrefcount, hclients, h.refcount, List.length_cons, Nat.cast_succ]
  · rw [insertClient_pids, List.nodup_cons, World.mem_pids_iff]
    exact ⟨hnew, h.nodup⟩

/-- The removal of a client keeps the registry consistent. -/
theorem World.Consistent.removeClient {w w' : World} (h : w.Consistent) {env : Env} {client : Pid}
    (hremove : removeClient env client w = some w') : w'.Consistent := by
  obtain ⟨hclients, hrefcount⟩ := removeClient_clients hremove
  have hregistered : w.IsRegistered client :=
    (removeClient_isSome_iff env client w).1 (hremove ▸ rfl)
  obtain ⟨cl, hcl, hpid⟩ := hregistered
  refine ⟨?_, ?_⟩
  · have hlength : w'.clients.length = w.clients.length - 1 := by
      rw [hclients]
      exact List.length_eraseP_of_mem hcl (decide_eq_true hpid)
    have hpos : 0 < w.clients.length := List.length_pos_of_mem hcl
    have hcount := h.refcount
    omega
  · rw [removeClient_pids hremove]
    exact h.nodup.erase client

theorem tearDown_clients (env : Env) (w : World) :
    (tearDown env w).clients = w.clients ∧ (tearDown env w).refcount = w.refcount := by
  rw [tearDown]
  rw [foldl_removeOptimisations]
  split_ifs <;> exact ⟨rfl, rfl⟩

theorem reloadConfigInternal_clients (env : Env) (w : World) :
    (reloadConfigInternal files env w).clients = w.clients ∧
      (reloadConfigInternal files env w).refcount = w.refcount := by
  obtain ⟨hclients, hrefcount⟩ := tearDown_clients env w
  rw [reloadConfigInternal, regrow]
  rw [foldl_applyOptimisations]
  split_ifs <;> exact ⟨hclients, hrefcount⟩

/-! ### When everything succeeds -/

/-- The cores while a client is registered: the first client enters game mode before its threads
are changed. -/
def coresAtRegister (w : World) : CpuState :=
  if w.refcount = 0 then parkCpu files .succeeded w.cpu else w.cpu

theorem coresAtRegister_info (w : World) : (coresAtRegister files w).info = w.cpu.info := by
  rw [coresAtRegister]
  split_ifs
  · exact parkCpu_info files _ _
  · rfl

/-- The cores when the threads of the clients are changed in a reload. -/
def coresAtReload (env : Env) (w : World) : CpuState :=
  parkCpu files .succeeded
    (reconfigCpu files .succeeded env.allocated env.reloaded (unparkCpu .succeeded w.cpu))

section AllSucceed

variable {env : Env} (henv : env.AllSucceed) (w : World)
include henv

/-- Tearing down acts on every thread by itself. -/
theorem tearDown_threads (hrefcount : w.refcount ≠ 0) :
    (tearDown env w).threads = w.threads.map fun t =>
      w.pids.foldl (fun t client => t.restore w.config w.cpu client) t := by
  rw [tearDown, if_pos hrefcount, foldl_removeOptimisations, contextLeave_threads,
    World.withThreads, World.pids, ← foldl_removeClientOptimisations, List.foldl_map]
  simp only [henv.removeCalls]

/-- Growing again acts on every thread by itself. -/
theorem regrow_threads (hrefcount : w.refcount ≠ 0) :
    (regrow files env w).threads = w.threads.map fun t =>
      w.pids.foldl (fun t client =>
        t.optimise w.config (parkCpu files .succeeded w.cpu) client) t := by
  rw [regrow, if_pos hrefcount, foldl_applyOptimisations, World.withThreads, World.pids,
    ← foldl_applyClientOptimisations, List.foldl_map]
  simp only [henv.applyCalls, contextEnter_cpu, henv.enter.corectl]
  rfl

theorem insertClient_threads (cl : Client) :
    (insertClient files env cl w).threads =
        w.threads.map (Thread.optimise w.config (coresAtRegister files w) cl.pid) ∧
      (insertClient files env cl w).config = w.config ∧
      (insertClient files env cl w).cpu = coresAtRegister files w := by
  rw [insertClient, coresAtRegister, World.applyOptimisations]
  split_ifs
  · rw [henv.applyCalls, applyClientOptimisations_eq_map, contextEnter_cpu, henv.enter.corectl]
    exact ⟨rfl, rfl, congrArg (parkCpu files · w.cpu) henv.enter.corectl⟩
  · rw [henv.applyCalls, applyClientOptimisations_eq_map]
    exact ⟨rfl, rfl, rfl⟩

/-- What a reload does to the threads. -/
theorem reloadConfigInternal_threads (hrefcount : w.refcount ≠ 0) :
    (reloadConfigInternal files env w).threads = w.threads.map fun t =>
      w.pids.foldl (fun t client => t.optimise env.reloaded (coresAtReload files env w) client)
        (w.pids.foldl (fun t client => t.restore w.config w.cpu client) t) := by
  obtain ⟨hclients, hcount⟩ := tearDown_clients env w
  have hpids : (rereadConfig files env (tearDown env w)).pids = w.pids :=
    congrArg (List.map Client.pid) hclients
  have hcount' : (rereadConfig files env (tearDown env w)).refcount ≠ 0 :=
    hcount.trans_ne hrefcount
  have hthreads : (rereadConfig files env (tearDown env w)).threads = w.threads.map fun t =>
      w.pids.foldl (fun t client => t.restore w.config w.cpu client) t :=
    tearDown_threads henv w hrefcount
  have hcpu : (rereadConfig files env (tearDown env w)).cpu =
      reconfigCpu files .succeeded env.allocated env.reloaded (unparkCpu .succeeded w.cpu) := by
    rw [rereadConfig, tearDown, if_pos hrefcount, foldl_removeOptimisations, contextLeave_cpu,
      henv.leave.corectl, henv.reconfigCorectl]
    rfl
  rw [reloadConfigInternal, regrow_threads files henv _ hcount', hpids, hthreads, hcpu,
    List.map_map]
  rfl

end AllSucceed

end GameMode
