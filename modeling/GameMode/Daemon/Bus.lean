import GameMode.Common.Pidfds

/-!
# The method handlers of the daemon

A method call on the bus is a name with a list of arguments, each a 32-bit integer or a file
descriptor. The bus library looks the name up in the table of the daemon and checks the types of
the arguments; the handler reads them and calls an operation for a client on behalf of a requester.

There are three forms of each game operation: for the process that is the single argument, for
two processes given by their identifiers, and for two processes given by descriptors.

## Main definitions

* `Message`, `Handled`: a method call, and what becomes of it.
* `handleSelf`, `handleByPid`, `handleByPidfd`: the three forms of a handler.
* `handle`: the table of the daemon.

Source: `daemon/gamemode-dbus.c`, `method_register_game` to `gamemode_vtable`.
-/

namespace GameMode

/-- The operations on the context that the handlers of this file call. -/
inductive Operation
  | register | unregister | queryStatus | restart
  deriving DecidableEq, Repr

/-- A call of an operation: `game_mode_context_register` and its siblings. `restart` reads its
requester only. -/
structure DaemonCall where
  /-- The operation. -/
  operation : Operation
  /-- The process that the operation is for. -/
  client : Pid
  /-- The process that asks for it. -/
  requester : Pid
  deriving DecidableEq, Repr

/-- An argument of a method call. -/
inductive Arg
  | int32 (value : ℤ)
  | unixFd (fd : Fd)
  deriving DecidableEq, Repr

/-- The letter of an argument in a signature. -/
def Arg.letter : Arg → Char
  | int32 _ => 'i'
  | unixFd _ => 'h'

/-- A method call. -/
structure Message where
  /-- The name of the method. -/
  method : CString
  /-- The arguments. -/
  args : List Arg
  deriving DecidableEq, Repr

/-- What becomes of a method call: an error reply, a reply without any operation, or the call of
an operation, whose result is the reply. -/
inductive Handled
  | error
  | reply (value : ℤ)
  | call (call : DaemonCall)
  deriving DecidableEq, Repr

/-- What a handler has at hand: the files of the descriptors, if `/proc/self/fdinfo` opens. -/
abbrev Handler := Option (Fd → FdInfo) → List Arg → Handled

/-- The handlers that read one process and act for it. -/
def handleSelf (operation : Operation) : Handler
  | _, [.int32 pid] => .call ⟨operation, pid, pid⟩
  | _, _ => .error

/-- The handlers that read two process identifiers, the caller's before the game's. -/
def handleByPid (operation : Operation) : Handler
  | _, [.int32 callerpid, .int32 gamepid] => .call ⟨operation, gamepid, callerpid⟩
  | _, _ => .error

/-- The handlers that read two process descriptors, the game's before the caller's. -/
def handleByPidfd (operation : Operation) : Handler
  | fdinfo, [.unixFd game, .unixFd caller] =>
    match pidfdsToPids fdinfo [game, caller] with
    | (2, [gamepid, callerpid]) => .call ⟨operation, gamepid, callerpid⟩
    | _ => .reply (-1)
  | _, _ => .error

/-- `method_register_game`. -/
def methodRegisterGame : Handler := handleSelf .register

/-- `method_unregister_game`. -/
def methodUnregisterGame : Handler := handleSelf .unregister

/-- `method_query_status`. -/
def methodQueryStatus : Handler := handleSelf .queryStatus

/-- `method_restart_gamemode`. -/
def methodRestartGamemode : Handler := handleSelf .restart

/-- `method_register_game_by_pid`. -/
def methodRegisterGameByPid : Handler := handleByPid .register

/-- `method_unregister_game_by_pid`. -/
def methodUnregisterGameByPid : Handler := handleByPid .unregister

/-- `method_query_status_by_pid`. -/
def methodQueryStatusByPid : Handler := handleByPid .queryStatus

/-- `method_register_game_by_pidfd`. -/
def methodRegisterGameByPidfd : Handler := handleByPidfd .register

/-- `method_unregister_game_by_pidfd`. -/
def methodUnregisterGameByPidfd : Handler := handleByPidfd .unregister

/-- `method_query_status_by_pidfd`. -/
def methodQueryStatusByPidfd : Handler := handleByPidfd .queryStatus

/-- The methods of `gamemode_vtable` that act for a process, with the signatures of their
arguments. -/
def gamemodeVtable : List (CString × CString × Handler) :=
  [("RegisterGame".toList, "i".toList, methodRegisterGame),
   ("UnregisterGame".toList, "i".toList, methodUnregisterGame),
   ("QueryStatus".toList, "i".toList, methodQueryStatus),
   ("RestartGamemode".toList, "i".toList, methodRestartGamemode),
   ("RegisterGameByPID".toList, "ii".toList, methodRegisterGameByPid),
   ("UnregisterGameByPID".toList, "ii".toList, methodUnregisterGameByPid),
   ("QueryStatusByPID".toList, "ii".toList, methodQueryStatusByPid),
   ("RegisterGameByPIDFd".toList, "hh".toList, methodRegisterGameByPidfd),
   ("UnregisterGameByPIDFd".toList, "hh".toList, methodUnregisterGameByPidfd),
   ("QueryStatusByPIDFd".toList, "hh".toList, methodQueryStatusByPidfd)]

/-- The dispatch of a method call: an unknown method or a wrong signature is an error reply. -/
def handle (fdinfo : Option (Fd → FdInfo)) (message : Message) : Handled :=
  match gamemodeVtable.lookup message.method with
  | none => .error
  | some (signature, handler) =>
    if message.args.map Arg.letter = signature then handler fdinfo message.args else .error

theorem handleByPidfd_of_ok {fdinfo : Fd → FdInfo} {game caller : Fd} {gamepid callerpid : Pid}
    (hgame : pidfdToPid (fdinfo game) = .ok gamepid)
    (hcaller : pidfdToPid (fdinfo caller) = .ok callerpid) (operation : Operation) :
    handleByPidfd operation (some fdinfo) [.unixFd game, .unixFd caller] =
      .call ⟨operation, gamepid, callerpid⟩ := by
  simp [handleByPidfd, pidfdsToPids, translatePidfds, hgame, hcaller]

theorem handleByPidfd_of_error {fdinfo : Fd → FdInfo} {game : Fd} {e : ℤ}
    (hgame : pidfdToPid (fdinfo game) = .error e) (caller : Fd) (operation : Operation) :
    handleByPidfd operation (some fdinfo) [.unixFd game, .unixFd caller] = .reply (-1) := by
  simp [handleByPidfd, pidfdsToPids, translatePidfds, hgame]

end GameMode
