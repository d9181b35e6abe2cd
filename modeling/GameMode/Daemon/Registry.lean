import GameMode.Daemon.Context

/-!
# Requests on the registry

The operations that a method call ends in, each from its first check to its result: registering and
unregistering a game, the query of its status, and the restart of game mode. Here an operation is
atomic; the critical sections that it consists of are those of `GameMode.Daemon.Context`.

A request for another process is admitted by the executable of the requester, and a game by its own
executable. Each is compared with a whitelist, which admits everything when it is empty, and with a
blacklist. An executable is on a list when an entry of the list occurs in it.

## Main definitions

* `checkSupervisor`, `checkRequester`: the checks of the requester.
* `contextRegister`, `contextUnregister`, `contextQueryStatus`, `contextRestart`: the operations.
* `contextAutoExpireRound`: one round of the removal of dead games.
* `ContextOp`, `contextStep`: the operations as the steps of a run.
* `GatePasses`, `GateRejects`, `Config.Admits`: who is admitted.

## Main results

* `checkRequester_eq`: what the check of the requester comes to.
* `contextRegister_cases`, `contextUnregister_cases`, `contextRestart_cases`: what an operation can
  do.
* `contextRegister_contextUnregister_exact`: the result of a request says exactly whether it was
  admitted, and a request that fails changes nothing.

Source: `daemon/gamemode-context.c`, `game_mode_context_auto_expire` to
`game_mode_context_restart`.
-/

namespace GameMode

/-! ### The operations -/

/-- The check of the executable of a requester: zero when it passes. -/
def checkSupervisor (config : Config) (executable : Option CString) : ℤ :=
  match executable with
  | none => -1
  | some executable =>
    if ¬config.getSupervisorWhitelisted executable then -2
    else if config.getSupervisorBlacklisted executable then -2
    else 0

/-- The check of the requester in `game_mode_context_register` and `game_mode_context_unregister`:
zero when it passes. -/
def checkRequester (config : Config) (findExe : Pid → Option CString) (client requester : Pid) :
    ℤ :=
  if requester ≠ client then checkSupervisor config (findExe requester)
  else if config.getRequireSupervisor ≠ 0 then -2
  else 0

variable (files : CpuSysfs)

/-- `game_mode_context_register`: the result, and the context afterwards. -/
def contextRegister (env : Env) (client requester : Pid) (w : World) : ℤ × World :=
  let err := checkRequester w.config env.findExe client requester
  if err ≠ 0 then (err, w)
  else if contextHasClient w client then (-1, w)
  else
    match env.findExe client with
    | none => (-1, w)
    | some executable =>
      if ¬w.config.getClientWhitelisted executable then (-1, w)
      else if w.config.getClientBlacklisted executable then (-1, w)
      else
        let cl := clientNew client executable requester env.now
        (0, (insertClient files env cl w).say (.signal true client))

/-- `game_mode_context_unregister`: the result, and the context afterwards. -/
def contextUnregister (env : Env) (client requester : Pid) (w : World) : ℤ × World :=
  let err := checkRequester w.config env.findExe client requester
  if err ≠ 0 then (err, w)
  else
    match removeClient env client w with
    | none => (-1, w)
    | some w' => (0, w'.say (.signal false client))

/-- `game_mode_context_query_status`. -/
def contextQueryStatus (env : Env) (client requester : Pid) (w : World) : ℤ :=
  let err := if client ≠ requester then checkSupervisor w.config (env.findExe requester) else 0
  if err ≠ 0 then err
  else if w.refcount ≠ 0 then if contextHasClient w client then 2 else 1
  else 0

/-- `game_mode_context_restart`: the result, and the context afterwards. -/
def contextRestart (env : Env) (requester : Pid) (w : World) : ℤ × World :=
  let err := checkSupervisor w.config (env.findExe requester)
  if err ≠ 0 then (err, w)
  else if w.refcount = 0 then (1, w)
  else (0, restartSection files env w)

/-- The client that a round of `game_mode_context_auto_expire` picks. -/
def deadClient (env : Env) (w : World) : Option Client :=
  w.clients.find? fun cl => ¬env.alive cl.pid

/-- A round of the loop of `game_mode_context_auto_expire`, which ends when no client is dead. -/
def contextAutoExpireRound (env : Env) (w : World) : World :=
  match deadClient env w with
  | none => w
  | some cl => (contextUnregister env cl.pid cl.pid w).2

/-- The operations on the context. -/
inductive ContextOp
  | register (client requester : Pid)
  | unregister (client requester : Pid)
  | restart (requester : Pid)
  | autoExpireRound
  | checkIgpuEnergy
  | reapplyCorePinning
  | reloadConfig
  deriving DecidableEq

/-- An operation as a step, with what it asks of the system. -/
def contextStep (w : World) : ContextOp × Env → Option World
  | (.register client requester, env) => some (contextRegister files env client requester w).2
  | (.unregister client requester, env) => some (contextUnregister env client requester w).2
  | (.restart requester, env) => some (contextRestart files env requester w).2
  | (.autoExpireRound, env) => some (contextAutoExpireRound env w)
  | (.checkIgpuEnergy, env) => some (contextCheckIgpuEnergy env w)
  | (.reapplyCorePinning, env) => some (reapplyCorePinningInternal env w)
  | (.reloadConfig, env) => some (reloadConfigInternal files env w)

/-! ### Admission -/

/-- An entry of a list occurs in an executable. -/
def Config.Lists (self : Config) (option : ListOption) (executable : CString) : Prop :=
  ∃ entry ∈ (self.list option).entries, entry <:+: executable

/-- A whitelist and a blacklist admit an executable. -/
def Config.Admits (self : Config) (white black : ListOption) (executable : CString) : Prop :=
  ((self.list white).entries = [] ∨ self.Lists white executable) ∧ ¬self.Lists black executable

/-- The check of the requester passes: a direct request where no supervisor is required, or the
request of a known executable that the lists of the supervisors admit. -/
def GatePasses (config : Config) (findExe : Pid → Option CString) (client requester : Pid) : Prop :=
  requester = client ∧ config.getRequireSupervisor = 0 ∨
    requester ≠ client ∧ ∃ executable, findExe requester = some executable ∧
      config.Admits .supervisorWhitelist .supervisorBlacklist executable

/-- The check of the requester rejects it: a direct request where a supervisor is required, or the
request of a known executable that the lists of the supervisors do not admit. -/
def GateRejects (config : Config) (findExe : Pid → Option CString) (client requester : Pid) :
    Prop :=
  requester = client ∧ config.getRequireSupervisor ≠ 0 ∨
    requester ≠ client ∧ ∃ executable, findExe requester = some executable ∧
      ¬config.Admits .supervisorWhitelist .supervisorBlacklist executable

/-- The executable of a game is known and admitted. -/
def ClientAdmitted (config : Config) (findExe : Pid → Option CString) (client : Pid) : Prop :=
  ∃ executable, findExe client = some executable ∧ config.Admits .whitelist .blacklist executable

/-- What the result of a request says: it is zero exactly when the request is accepted, `-2` exactly
when its requester is rejected, and `-1` otherwise; and the request has its effect in the first case
only. -/
structure Exact (accepted rejected : Prop) (effect : World → Prop) (w : World)
    (result : ℤ × World) : Prop where
  zero_iff : result.1 = 0 ↔ accepted
  effect : result.1 = 0 → effect result.2
  neg_two_iff : result.1 = -2 ↔ rejected
  neg_one_iff : result.1 = -1 ↔ ¬accepted ∧ ¬rejected
  unchanged : result.1 ≠ 0 → result.2 = w

section Lists

variable (config : Config)

theorem whitelisted_iff (option : ListOption) (executable : CString) :
    config.whitelisted option executable = true ↔
      (config.list option).entries = [] ∨ config.Lists option executable := by
  rw [Config.whitelisted, StringList.entries_eq_nil_iff, Config.Lists]
  split_ifs with h
  · simp only [h, true_or]
  · rw [configStringListContains_iff]
    simp only [h, false_or]

theorem admits_iff (white black : ListOption) (executable : CString) :
    config.Admits white black executable ↔
      config.whitelisted white executable = true ∧
        ¬configStringListContains executable (config.list black) = true := by
  rw [Config.Admits, whitelisted_iff, configStringListContains_iff, Config.Lists, Config.Lists]

theorem checkSupervisor_some (executable : CString) [Decidable (config.Admits .supervisorWhitelist
      .supervisorBlacklist executable)] :
    checkSupervisor config (some executable) =
      if config.Admits .supervisorWhitelist .supervisorBlacklist executable then 0 else -2 := by
  simp only [admits_iff, checkSupervisor, Config.getSupervisorWhitelisted,
    Config.getSupervisorBlacklisted]
  by_cases hwhite : config.whitelisted .supervisorWhitelist executable = true <;>
    by_cases hblack :
        configStringListContains executable (config.list .supervisorBlacklist) = true <;>
    simp [hwhite, hblack]

end Lists

section Gate

variable {config : Config} {findExe : Pid → Option CString} {client requester : Pid}

open scoped Classical in
/-- What the check of the requester comes to. -/
theorem checkRequester_eq :
    checkRequester config findExe client requester =
      if GatePasses config findExe client requester then 0
      else if GateRejects config findExe client requester then -2
      else -1 := by
  rw [checkRequester, GatePasses, GateRejects]
  by_cases hdirect : requester = client
  · by_cases hsuper : config.getRequireSupervisor = 0 <;> simp [hdirect, hsuper]
  · rw [if_pos hdirect]
    cases hexe : findExe requester with
    | none => simp [hdirect, checkSupervisor]
    | some executable =>
      rw [checkSupervisor_some]
      by_cases hadmits : config.Admits .supervisorWhitelist .supervisorBlacklist executable <;>
        simp [hdirect, hadmits]

theorem not_gateRejects_of_gatePasses (h : GatePasses config findExe client requester) :
    ¬GateRejects config findExe client requester := by
  rintro (⟨hdirect, hsuper⟩ | ⟨hother, executable, hexe, hnot⟩)
  · rcases h with ⟨-, hzero⟩ | ⟨hother, -⟩
    · exact hsuper hzero
    · exact hother hdirect
  · rcases h with ⟨hdirect, -⟩ | ⟨-, executable', hexe', hadmits⟩
    · exact hother hdirect
    · rw [hexe, Option.some.injEq] at hexe'
      exact hnot (hexe' ▸ hadmits)

end Gate

theorem contextHasClient_iff (w : World) (client : Pid) :
    contextHasClient w client = true ↔ w.IsRegistered client := by
  simp [contextHasClient, World.IsRegistered]

/-- A request that is checked first fails with the result of the check, without any effect. -/
theorem exact_of_checkRequester {w : World} {env : Env} {client requester : Pid}
    {accepted : Prop} {effect : World → Prop} {f : ℤ × World}
    (hcode : f.1 = 0 ↔ accepted) (heffect : f.1 = 0 → effect f.2) (hfail : f.1 ≠ 0 → f = (-1, w)) :
    Exact (GatePasses w.config env.findExe client requester ∧ accepted)
      (GateRejects w.config env.findExe client requester) effect w
      (if checkRequester w.config env.findExe client requester ≠ 0 then
        (checkRequester w.config env.findExe client requester, w) else f) := by
  classical
  rw [checkRequester_eq]
  by_cases hpass : GatePasses w.config env.findExe client requester
  · have hreject := not_gateRejects_of_gatePasses hpass
    by_cases hzero : f.1 = 0
    · have haccepted := hcode.1 hzero
      constructor <;> simp [hpass, hreject, haccepted, hzero, heffect]
    · have haccepted : ¬accepted := fun h => hzero (hcode.2 h)
      have hf := hfail hzero
      constructor <;> simp [hpass, hreject, haccepted, hf]
  · by_cases hreject : GateRejects w.config env.findExe client requester <;>
      constructor <;> simp [hpass, hreject]

private theorem contextRegister_accepted (env : Env) (client requester : Pid) (w : World) :
    ∃ f : ℤ × World,
      contextRegister files env client requester w =
        (if checkRequester w.config env.findExe client requester ≠ 0 then
          (checkRequester w.config env.findExe client requester, w) else f) ∧
      (f.1 = 0 ↔ ¬w.IsRegistered client ∧ ClientAdmitted w.config env.findExe client) ∧
      (f.1 = 0 → ∃ cl, cl.pid = client ∧ f.2.clients = cl :: w.clients ∧
        f.2.refcount = w.refcount + 1) ∧
      (f.1 ≠ 0 → f = (-1, w)) := by
  refine ⟨_, rfl, ?_⟩
  simp only [ClientAdmitted, admits_iff, ← contextHasClient_iff, Config.getClientWhitelisted,
    Config.getClientBlacklisted]
  by_cases hnew : contextHasClient w client = true
  · simp [hnew]
  · cases hexe : env.findExe client with
    | none => simp [hnew]
    | some executable =>
      by_cases hwhite : w.config.whitelisted .whitelist executable = true
      · by_cases hblack : configStringListContains executable (w.config.list .blacklist) = true
        · simp [hnew, hwhite, hblack]
        · obtain ⟨hclients, hrefcount⟩ :=
            insertClient_clients files env (clientNew client executable requester env.now) w
          simp only [hnew, hwhite, hblack, World.say, hclients, hrefcount]
          simp [hwhite, hblack, clientNew]
      · simp [hnew, hwhite]

private theorem contextUnregister_accepted (env : Env) (client requester : Pid) (w : World) :
    ∃ f : ℤ × World,
      contextUnregister env client requester w =
        (if checkRequester w.config env.findExe client requester ≠ 0 then
          (checkRequester w.config env.findExe client requester, w) else f) ∧
      (f.1 = 0 ↔ w.IsRegistered client) ∧
      (f.1 = 0 → f.2.clients = w.clients.eraseP (fun cl => cl.pid = client) ∧
        f.2.refcount = w.refcount - 1) ∧
      (f.1 ≠ 0 → f = (-1, w)) := by
  refine ⟨_, rfl, ?_⟩
  rw [← removeClient_isSome_iff env]
  cases hremove : removeClient env client w with
  | none => simp
  | some w' => simpa [World.say] using removeClient_clients hremove

/-- What a registration comes to: it changes nothing, or it inserts a new client. -/
theorem contextRegister_cases (env : Env) (client requester : Pid) (w : World) :
    (contextRegister files env client requester w).1 ≠ 0 ∧
        (contextRegister files env client requester w).2 = w ∨
      ∃ cl : Client, cl.pid = client ∧ ¬w.IsRegistered client ∧
        contextRegister files env client requester w =
          (0, (insertClient files env cl w).say (.signal true client)) := by
  simp only [contextRegister]
  split
  · rename_i herr
    exact Or.inl ⟨herr, rfl⟩
  split
  · exact Or.inl ⟨(by decide : (-1 : ℤ) ≠ 0), rfl⟩
  rename_i hnew
  rw [contextHasClient_iff] at hnew
  split
  · exact Or.inl ⟨(by decide : (-1 : ℤ) ≠ 0), rfl⟩
  split
  · exact Or.inl ⟨(by decide : (-1 : ℤ) ≠ 0), rfl⟩
  split
  · exact Or.inl ⟨(by decide : (-1 : ℤ) ≠ 0), rfl⟩
  · exact Or.inr ⟨_, rfl, hnew, rfl⟩

/-- What the removal of a client comes to: it changes nothing, or it removes the client. -/
theorem contextUnregister_cases (env : Env) (client requester : Pid) (w : World) :
    (contextUnregister env client requester w).1 ≠ 0 ∧
        (contextUnregister env client requester w).2 = w ∨
      ∃ w', removeClient env client w = some w' ∧
        contextUnregister env client requester w = (0, w'.say (.signal false client)) := by
  simp only [contextUnregister]
  split
  · rename_i herr
    exact Or.inl ⟨herr, rfl⟩
  split
  · exact Or.inl ⟨(by decide : (-1 : ℤ) ≠ 0), rfl⟩
  · rename_i w' hremove
    exact Or.inr ⟨w', hremove, rfl⟩

/-- What a restart comes to: it changes nothing, or it leaves game mode and enters it again. -/
theorem contextRestart_cases (env : Env) (requester : Pid) (w : World) :
    (contextRestart files env requester w).1 ≠ 0 ∧
        (contextRestart files env requester w).2 = w ∨
      w.refcount ≠ 0 ∧ contextRestart files env requester w = (0, restartSection files env w) := by
  simp only [contextRestart]
  split
  · rename_i herr
    exact Or.inl ⟨herr, rfl⟩
  split
  · exact Or.inl ⟨(by decide : (1 : ℤ) ≠ 0), rfl⟩
  · rename_i hrefcount
    exact Or.inr ⟨hrefcount, rfl⟩

theorem contextRegister_exact (env : Env) (client requester : Pid) (w : World) :
    Exact
      (GatePasses w.config env.findExe client requester ∧ ¬w.IsRegistered client ∧
        ClientAdmitted w.config env.findExe client)
      (GateRejects w.config env.findExe client requester)
      (fun w' => ∃ cl, cl.pid = client ∧ w'.clients = cl :: w.clients ∧
        w'.refcount = w.refcount + 1)
      w (contextRegister files env client requester w) := by
  obtain ⟨f, hregister, hcode, heffect, hfail⟩ :=
    contextRegister_accepted files env client requester w
  rw [hregister]
  exact exact_of_checkRequester hcode heffect hfail

/-- The result of the removal of a client says exactly whether it was admitted. -/
theorem contextUnregister_exact (env : Env) (client requester : Pid) (w : World) :
    Exact
      (GatePasses w.config env.findExe client requester ∧ w.IsRegistered client)
      (GateRejects w.config env.findExe client requester)
      (fun w' => w'.clients = w.clients.eraseP (fun cl => cl.pid = client) ∧
        w'.refcount = w.refcount - 1)
      w (contextUnregister env client requester w) := by
  obtain ⟨f, hunregister, hcode, heffect, hfail⟩ :=
    contextUnregister_accepted env client requester w
  rw [hunregister]
  exact exact_of_checkRequester hcode heffect hfail

/-- **Admission control.** A registration succeeds exactly when the requester is let through, the
client is new, and its executable is known and admitted; the removal of a client succeeds exactly
when the requester is let through and the client is in the list. The results tell the cases apart,
and a request that fails changes nothing. -/
theorem contextRegister_contextUnregister_exact (env : Env) (client requester : Pid) (w : World) :
    Exact
        (GatePasses w.config env.findExe client requester ∧ ¬w.IsRegistered client ∧
          ClientAdmitted w.config env.findExe client)
        (GateRejects w.config env.findExe client requester)
        (fun w' => ∃ cl, cl.pid = client ∧ w'.clients = cl :: w.clients ∧
          w'.refcount = w.refcount + 1)
        w (contextRegister files env client requester w) ∧
      Exact
        (GatePasses w.config env.findExe client requester ∧ w.IsRegistered client)
        (GateRejects w.config env.findExe client requester)
        (fun w' => w'.clients = w.clients.eraseP (fun cl => cl.pid = client) ∧
          w'.refcount = w.refcount - 1)
        w (contextUnregister env client requester w) :=
  ⟨contextRegister_exact files env client requester w,
    contextUnregister_exact env client requester w⟩

end GameMode
