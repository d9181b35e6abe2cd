import GameMode.Library.CString

/-!
# Helper commands

A helper command runs as a child process whose output comes through a pipe. The output is read until
it ends, until an error, or until the timeout, when the child is killed; then the child is waited
for. What the system does is data: whether there is a pipe and a child, what the pipe gives, and the
status of the child.

The result is zero when the child exits with status zero. It is zero, too, when there is no child,
or when a signal ends it.

## Main definitions

* `PipeEvent`, `readChildStdout`: reading the output.
* `ChildProcess`, `runExternalProcess`: a helper command.
* `ChildProcess.Succeeded`: the command did what was asked.

## Main results

* `readChildStdout_eq`: the result of reading, and the output that is kept.
* `runExternalProcess_eq_zero_iff`: when the result is zero.
* `succeeded_of_eq_zero_iff`: when a result of zero means success.

Source: `common/common-external.c`.
-/

namespace GameMode

/-! ### The output -/

/-- `EXTERNAL_BUFFER_MAX`. -/
def externalBufferMax : ℕ := 1024

/-- What `select` and `read` meet at the pipe. -/
inductive PipeEvent
  /-- `select` is interrupted by a signal. -/
  | interrupted
  /-- `select` fails otherwise. -/
  | selectFailed
  /-- `read` fails. -/
  | readFailed
  /-- There is output in the pipe; no output is the end of file. -/
  | readable (output : CString)
  deriving DecidableEq

/-- What is left to read of an event. -/
def PipeEvent.size : PipeEvent → ℕ
  | .readable output => output.length + 1
  | _ => 1

/-- How much a `read` asks for: what is left of the buffer, or of the one for output to discard. -/
def readSize (buffer : CString) (bufferFull : Bool) : ℕ :=
  if bufferFull then externalBufferMax - 1 else externalBufferMax - buffer.length - 1

/-- The buffer after a `read`, and whether it is full. -/
def keepRead (buffer : CString) (bufferFull : Bool) (justRead : CString) : CString × Bool :=
  if bufferFull then (buffer, true)
  else (buffer ++ justRead, (buffer ++ justRead).length == externalBufferMax - 1)

/-- The loop of `read_child_stdout`: the result, and the buffer. A `read` that does not take all the
output leaves the rest in the pipe. The timeout passes after the last event. -/
def readChildStdoutFrom (buffer : CString) (bufferFull : Bool) : List PipeEvent → ℤ × CString
  | [] => (-2, buffer)
  | .interrupted :: events => readChildStdoutFrom buffer bufferFull events
  | .selectFailed :: _ => (-1, buffer)
  | .readFailed :: _ => (-1, buffer)
  | .readable output :: events =>
    let justRead := output.take (readSize buffer bufferFull)
    let rest := output.drop (readSize buffer bufferFull)
    if _ : justRead = [] then (0, buffer)
    else
      let kept := keepRead buffer bufferFull justRead
      if rest = [] then readChildStdoutFrom kept.1 kept.2 events
      else readChildStdoutFrom kept.1 kept.2 (.readable rest :: events)
  termination_by events => (events.map PipeEvent.size).sum
  decreasing_by
    · simp [PipeEvent.size]
    · simp only [List.map_cons, List.sum_cons, PipeEvent.size]
      omega
    · rename_i hread _
      have hpos : 0 < justRead.length := List.length_pos_iff.2 hread
      rw [List.length_take] at hpos
      simp only [List.map_cons, List.sum_cons, PipeEvent.size, List.length_drop]
      omega

/-- `read_child_stdout`. -/
def readChildStdout (events : List PipeEvent) : ℤ × CString := readChildStdoutFrom [] false events

/-- How the output ends. -/
inductive OutputEnd
  | eof | failed | timedOut
  deriving DecidableEq, Repr

/-- The result of `read_child_stdout` for the end of the output. -/
def OutputEnd.result : OutputEnd → ℤ
  | .eof => 0
  | .failed => -1
  | .timedOut => -2

/-- How the output of a child ends, and the output before that. -/
def outputOf : List PipeEvent → OutputEnd × CString
  | [] => (.timedOut, [])
  | .interrupted :: events => outputOf events
  | .selectFailed :: _ | .readFailed :: _ => (.failed, [])
  | .readable [] :: _ => (.eof, [])
  | .readable output :: events => ((outputOf events).1, output ++ (outputOf events).2)

theorem outputOf_readable {output : CString} (h : output ≠ []) (events : List PipeEvent) :
    outputOf (.readable output :: events) =
      ((outputOf events).1, output ++ (outputOf events).2) := by
  cases output with
  | nil => exact absurd rfl h
  | cons c cs => rfl

theorem take_take_append (n : ℕ) (text text' : CString) :
    (text.take n ++ text').take n = (text ++ text').take n := by
  rcases le_total text.length n with h | h
  · rw [List.take_of_length_le h]
  · rw [List.take_append_of_le_length h, List.take_append_of_le_length, List.take_take, min_self]
    rw [List.length_take, min_eq_left h]

section Reading

variable {buffer : CString} {bufferFull : Bool}
  (hfull : bufferFull = (buffer.length == externalBufferMax - 1))
  (hlength : buffer.length < externalBufferMax)
include hfull hlength

theorem readSize_pos : 0 < readSize buffer bufferFull := by
  rw [readSize, hfull]
  split_ifs with hmax
  · decide
  · rw [beq_iff_eq] at hmax
    omega

/-- The buffer keeps what there is room for, and is full when there is no more. -/
theorem keepRead_eq {justRead : CString} (hread : justRead.length ≤ readSize buffer bufferFull) :
    (keepRead buffer bufferFull justRead).1 = (buffer ++ justRead).take (externalBufferMax - 1) ∧
      (keepRead buffer bufferFull justRead).2 =
        ((keepRead buffer bufferFull justRead).1.length == externalBufferMax - 1) := by
  rw [readSize, hfull] at hread
  rw [keepRead, hfull]
  split_ifs at hread ⊢ with hmax
  · refine ⟨?_, hmax.symm⟩
    rw [beq_iff_eq] at hmax
    rw [List.take_append_of_le_length hmax.ge, List.take_of_length_le hmax.le]
  · refine ⟨?_, rfl⟩
    rw [List.take_of_length_le]
    rw [List.length_append]
    omega

theorem length_keepRead_lt {justRead : CString}
    (hread : justRead.length ≤ readSize buffer bufferFull) :
    (keepRead buffer bufferFull justRead).1.length < externalBufferMax := by
  rw [(keepRead_eq hfull hlength hread).1, List.length_take]
  exact (min_le_left _ _).trans_lt (by decide)

end Reading

/-- The loop reads all the output, and keeps what there is room for. -/
theorem readChildStdoutFrom_eq (buffer : CString) (bufferFull : Bool) (events : List PipeEvent)
    (hfull : bufferFull = (buffer.length == externalBufferMax - 1))
    (hlength : buffer.length < externalBufferMax) :
    readChildStdoutFrom buffer bufferFull events =
      ((outputOf events).1.result,
        (buffer ++ (outputOf events).2).take (externalBufferMax - 1)) := by
  have hkeep : ∀ buffer : CString, buffer.length < externalBufferMax →
      (buffer ++ []).take (externalBufferMax - 1) = buffer := by
    intro buffer hlength
    rw [List.append_nil, List.take_of_length_le (by omega)]
  induction buffer, bufferFull, events using readChildStdoutFrom.induct with
  | case1 buffer bufferFull =>
    rw [readChildStdoutFrom, outputOf, hkeep buffer hlength]
    rfl
  | case2 buffer bufferFull events ih =>
    rw [readChildStdoutFrom, outputOf]
    exact ih hfull hlength
  | case3 buffer bufferFull events =>
    rw [readChildStdoutFrom, outputOf, hkeep buffer hlength]
    rfl
  | case4 buffer bufferFull events =>
    rw [readChildStdoutFrom, outputOf, hkeep buffer hlength]
    rfl
  | case5 buffer bufferFull output events justRead hread =>
    -- nothing is read only where there is nothing
    have hnil : output = [] := by
      have hpos := readSize_pos hfull hlength
      have hzero := congrArg List.length hread
      rw [List.length_take, List.length_nil] at hzero
      exact List.eq_nil_of_length_eq_zero (by omega)
    subst hnil
    rw [readChildStdoutFrom, dif_pos hread, outputOf, hkeep buffer hlength]
    rfl
  | case6 buffer bufferFull output events justRead rest hread kept hrest ih =>
    have hsize : justRead.length ≤ readSize buffer bufferFull := List.length_take_le _ _
    have hall : output = justRead := by
      rw [← List.take_append_drop (readSize buffer bufferFull) output]
      exact (congrArg _ hrest).trans (List.append_nil _)
    have hne : output ≠ [] := fun hnil => hread (hall ▸ hnil)
    obtain ⟨hkept, hkeptFull⟩ := keepRead_eq hfull hlength hsize
    rw [readChildStdoutFrom, dif_neg hread, if_pos hrest,
      ih hkeptFull (length_keepRead_lt hfull hlength hsize), outputOf_readable hne, hkept,
      take_take_append, ← hall, List.append_assoc]
  | case7 buffer bufferFull output events justRead rest hread kept hrest ih =>
    have hsize : justRead.length ≤ readSize buffer bufferFull := List.length_take_le _ _
    have hall : output = justRead ++ rest := (List.take_append_drop _ _).symm
    have hne : output ≠ [] := fun hnil => hread (List.append_eq_nil_iff.1 (hall ▸ hnil)).1
    obtain ⟨hkept, hkeptFull⟩ := keepRead_eq hfull hlength hsize
    rw [readChildStdoutFrom, dif_neg hread, if_neg hrest,
      ih hkeptFull (length_keepRead_lt hfull hlength hsize), outputOf_readable hne,
      outputOf_readable hrest, hkept, take_take_append, hall]
    simp only [List.append_assoc]

/-- **The output.** Its end decides the result, and the buffer keeps what there is room for, in
whatever pieces the output comes. -/
theorem readChildStdout_eq (events : List PipeEvent) :
    readChildStdout events =
      ((outputOf events).1.result, (outputOf events).2.take (externalBufferMax - 1)) :=
  readChildStdoutFrom_eq [] false events rfl (by decide)

/-! ### The command -/

/-- What `waitpid` says of a child. -/
inductive WaitStatus
  | exited (status : ℕ)
  | signaled (signal : ℕ)
  deriving DecidableEq

/-- What the system does about a helper command. -/
structure ChildProcess where
  /-- Whether there is a pipe. -/
  pipe : Bool
  /-- Whether there is a child. -/
  fork : Bool
  /-- What the pipe gives before a timeout. -/
  output : ℤ → List PipeEvent
  /-- What `waitpid` says when the child had so much time, unless it fails. -/
  status : ℤ → Option WaitStatus

/-- What `run_external_process` does. -/
structure ExternalRun where
  /-- The result. -/
  ret : ℤ
  /-- What is written to the buffer of the caller. -/
  buffer : Option CString
  /-- Whether the child is killed. -/
  killed : Bool
  deriving DecidableEq

/-- `DEFAULT_TIMEOUT`. -/
def defaultTimeout : ℤ := 5

/-- The timeout that `run_external_process` sets. -/
def timeoutOf (tsec : ℤ) : ℤ := if tsec = -1 then defaultTimeout else tsec

/-- `run_external_process`, with a buffer or without one. -/
def runExternalProcess (child : ChildProcess) (buffer : Bool) (tsec : ℤ) : ExternalRun :=
  if ¬child.pipe then ⟨-1, none, false⟩
  -- without a child the result is `false`
  else if ¬child.fork then ⟨0, none, false⟩
  else
    let read := readChildStdout (child.output (timeoutOf tsec))
    let killed := read.1 = -2
    let buffer := if buffer then some (if read.1 ≠ 0 then [] else read.2) else none
    match child.status (timeoutOf tsec) with
    | none => ⟨-1, buffer, killed⟩
    -- a child that a signal ended is only logged
    | some (.signaled _) => ⟨0, buffer, killed⟩
    | some (.exited status) => if status ≠ 0 then ⟨-1, buffer, killed⟩ else ⟨0, buffer, killed⟩

/-- A child was started, its output ended before the timeout, and it exited with status zero. -/
structure ChildProcess.Succeeded (child : ChildProcess) (tsec : ℤ) : Prop where
  pipe : child.pipe = true
  fork : child.fork = true
  eof : (outputOf (child.output (timeoutOf tsec))).1 = .eof
  status : child.status (timeoutOf tsec) = some (.exited 0)

variable {child : ChildProcess}

/-- The result is zero when the child exits with status zero, and when there is no child, or a
signal ends it. -/
theorem runExternalProcess_eq_zero_iff {buffer : Bool} {tsec : ℤ} :
    (runExternalProcess child buffer tsec).ret = 0 ↔
      child.pipe = true ∧ (child.fork = true → child.status (timeoutOf tsec) = some (.exited 0) ∨
        ∃ signal, child.status (timeoutOf tsec) = some (.signaled signal)) := by
  rw [runExternalProcess]
  cases hpipe : child.pipe with
  | false => simp
  | true =>
    cases hfork : child.fork with
    | false => simp
    | true =>
      cases hstatus : child.status (timeoutOf tsec) with
      | none => simp
      | some status =>
        cases status with
        | signaled signal => simp
        | exited status =>
          by_cases hzero : status = 0 <;> simp [hzero]

/-- The caller gets what was read of the output, whatever the status of the child is. -/
theorem runExternalProcess_buffer_eq_some (tsec : ℤ) (hpipe : child.pipe = true)
    (hfork : child.fork = true) :
    (runExternalProcess child true tsec).buffer =
      some (if (readChildStdout (child.output (timeoutOf tsec))).1 ≠ 0 then []
        else (readChildStdout (child.output (timeoutOf tsec))).2) := by
  simp only [runExternalProcess, hpipe, hfork, not_true_eq_false, if_false, if_true]
  cases child.status (timeoutOf tsec) with
  | none => rfl
  | some status =>
    cases status with
    | signaled signal => rfl
    | exited status => by_cases hzero : status = 0 <;> simp [hzero]

/-- The caller that gives an empty buffer gets the output of a child if that ends in time, as far as
there is room for it, and nothing otherwise. -/
theorem runExternalProcess_buffer (child : ChildProcess) (tsec : ℤ) :
    (runExternalProcess child true tsec).buffer.getD [] =
      if child.pipe && child.fork && (outputOf (child.output (timeoutOf tsec))).1 = .eof then
        (outputOf (child.output (timeoutOf tsec))).2.take (externalBufferMax - 1)
      else [] := by
  cases hpipe : child.pipe with
  | false => simp [runExternalProcess, hpipe]
  | true =>
    cases hfork : child.fork with
    | false => simp [runExternalProcess, hpipe, hfork]
    | true =>
      rw [runExternalProcess_buffer_eq_some tsec hpipe hfork, readChildStdout_eq]
      cases (outputOf (child.output (timeoutOf tsec))).1 <;> simp [OutputEnd.result]

/-- The status of a child shows its failure: there is no pipe, or it is not waited for, or it exits
with another status than zero, or it succeeds. -/
def ChildProcess.FailsVisibly (child : ChildProcess) (tsec : ℤ) : Prop :=
  child.pipe = false ∨ child.fork = true ∧
    (child.status (timeoutOf tsec) = none ∨
      (∃ status, status ≠ 0 ∧ child.status (timeoutOf tsec) = some (.exited status)) ∨
      child.status (timeoutOf tsec) = some (.exited 0) ∧
        (outputOf (child.output (timeoutOf tsec))).1 = .eof)

/-- **Success of a helper.** A result of zero means success exactly when there is no pipe, or there
is a child that no signal ends and that does not exit with status zero before its output ends. -/
theorem succeeded_of_eq_zero_iff (buffer : Bool) (tsec : ℤ) :
    ((runExternalProcess child buffer tsec).ret = 0 → child.Succeeded tsec) ↔
      child.FailsVisibly tsec := by
  rw [runExternalProcess_eq_zero_iff, ChildProcess.FailsVisibly]
  constructor
  · intro h
    cases hpipe : child.pipe with
    | false => exact Or.inl rfl
    | true =>
      refine Or.inr ?_
      have hfork : child.fork = true := by
        by_contra hnot
        exact hnot (h ⟨hpipe, fun hfork => absurd hfork hnot⟩).fork
      refine ⟨hfork, ?_⟩
      cases hstatus : child.status (timeoutOf tsec) with
      | none => exact Or.inl rfl
      | some status =>
        cases status with
        | signaled signal =>
          have hsucceeded := h ⟨hpipe, fun _ => Or.inr ⟨signal, hstatus⟩⟩
          rw [hsucceeded.status] at hstatus
          cases hstatus
        | exited status =>
          by_cases hzero : status = 0
          · subst hzero
            exact Or.inr (Or.inr ⟨rfl, (h ⟨hpipe, fun _ => Or.inl hstatus⟩).eof⟩)
          · exact Or.inr (Or.inl ⟨status, hzero, rfl⟩)
  · rintro hvisible ⟨hpipe, hzero⟩
    rcases hvisible with hnone | ⟨hfork, hstatus⟩
    · rw [hpipe] at hnone
      cases hnone
    · rcases hzero hfork with hexit | ⟨signal, hsignal⟩
      · rcases hstatus with hstatus | ⟨status, hne, hstatus⟩ | ⟨-, heof⟩
        · rw [hexit] at hstatus
          cases hstatus
        · rw [hexit] at hstatus
          cases hstatus
          exact absurd rfl hne
        · exact ⟨hpipe, hfork, heof, hexit⟩
      · rcases hstatus with hstatus | ⟨status, -, hstatus⟩ | ⟨hstatus, -⟩ <;>
          · rw [hsignal] at hstatus
            cases hstatus

end GameMode
