import GameMode.Common.External
import GameMode.Config.Load
import GameMode.Util.Cpugovctl

/-!
# The helpers for single settings

Three of the privileged helpers of the daemon write one file of the kernel each: `platprofctl` the
platform profile, `x3dmodectl` the mode of an AMD X3D processor, and `procsysctl` the split-lock
mitigation. Two of them also print what the file holds.

As with the governors, a write can go wrong in three places, and what the kernel rejects only when
the file is closed does not make a helper fail. The daemon runs a helper as a child process, and
what it is told of the run is the result of that: a helper that is killed is reported as a success,
and so is one that was never started.

## Main definitions

* `HelperRun`, `writeText`: a run of a helper, and the write of a file.
* `platprofctl`, `x3dmodectl`, `procsysctl`: the programs.
* `profileContents`, `x3dContents`, `splitlockContents`: what is read from the files.
* `HelperCall`: a helper as a child process, with what is reported of it and what it does.

## Main results

* `splitlockContents_decimal`: the mitigation is read as it was written.
* `HelperCall.honest_iff`: when a success is reported just for a text that the file took.

Source: `util/platprofctl.c`, `util/x3dmodectl.c`, `util/procsysctl.c`; `common/common-profile.c`,
`common/common-splitlock.c`.
-/

namespace GameMode

/-! ### Runs -/

/-- What a run of a helper does. -/
structure HelperRun where
  /-- The exit status. -/
  retval : ℤ
  /-- The text on its standard output. -/
  printed : CString
  /-- The text that the file took, if any. -/
  written : Option CString
  deriving DecidableEq

namespace HelperRun

/-- A run that fails. -/
def failure : HelperRun := ⟨exitFailure, [], none⟩

/-- A run that prints a text. -/
def print (text : CString) : HelperRun := ⟨exitSuccess, text, none⟩

/-- The helper reports success. -/
def succeeded (run : HelperRun) : Bool := run.retval = exitSuccess

/-- What the file holds afterwards: the kernel shows what it took on a line. -/
def after (run : HelperRun) (file : Option CString) : Option CString :=
  match run.written with
  | none => file
  | some text => some (if text.getLast? = some '\n' then text else fileContents text)

end HelperRun

/-- The write of a text: the result of `fclose` is not looked at. -/
def writeText (text : CString) : WriteOutcome → HelperRun
  | .openFailed | .printFailed => .failure
  | .flushFailed => ⟨exitSuccess, [], none⟩
  | .written => ⟨exitSuccess, [], some text⟩

/-! ### The programs -/

/-- `main` of the helpers that get and set: `state` is what they print. -/
def getOrSet (root : Bool) (state : CString) (set : CString → HelperRun) :
    List CString → HelperRun
  | [_, verb] => if verb.take 3 = "get".toList then .print state else .failure
  | [_, verb, value] =>
    if verb.take 3 = "set".toList then if ¬root then .failure else set value else .failure
  | _ => .failure

/-- `get_profile_state`, for a file that opens. -/
def profileContents (contents : CString) : CString :=
  if contents = [] then [] else contents.strtokLine.truncate modeSize

/-- `set_profile_state`. -/
def setProfileState (value : CString) (outcome : WriteOutcome) : HelperRun :=
  writeText (fileContents value) outcome

/-- `platprofctl`. -/
def platprofctl (root : Bool) (contents : CString) (outcome : WriteOutcome) :
    List CString → HelperRun :=
  getOrSet root (profileContents contents) fun value => setProfileState value outcome

/-- The size of the buffer of `get_x3d_mode`. -/
def x3dLineSize : ℕ := 64

/-- `get_x3d_mode`, for a file that opens, if there is one: its first line, as far as `fgets` reads
it. -/
def x3dContents : Option CString → CString
  | none => "unavailable".toList
  | some [] => "error".toList
  | some contents => (contents.truncate x3dLineSize).takeWhile (· != '\n')

/-- `set_x3d_mode`. -/
def setX3dModeFile (file : Option CString) (value : CString) (outcome : WriteOutcome) :
    HelperRun :=
  if file = none then .failure
  else if getX3dModeValue value = none then .failure
  else writeText (fileContents value) outcome

/-- `x3dmodectl`. -/
def x3dmodectl (root : Bool) (file : Option CString) (outcome : WriteOutcome) :
    List CString → HelperRun :=
  getOrSet root (x3dContents file) fun value => setX3dModeFile file value outcome

/-- `get_splitlock_state`: at most 40 bytes are read. -/
def splitlockContents : Option CString → ℤ
  | none => -1
  | some contents => if contents = [] then -1 else (CString.strtol (contents.take 40)).value

/-- `procsysctl`. -/
def procsysctl (root : Bool) (outcome : WriteOutcome) (args : List CString) : HelperRun :=
  if ¬root then .failure
  else
    match args with
    | [_, key, value] =>
      if key = "split_lock_mitigate".toList then writeText value outcome else .failure
    | _ => .failure

/-! ### Calls -/

/-- What becomes of a helper that was started. -/
inductive HelperFate
  /-- It runs to its end. -/
  | ends
  /-- `pkexec` does not run it, and exits with a status above the one of success. -/
  | refused (status : ℕ)
  /-- A signal ends it, as after a timeout, before it acts or when it has acted. -/
  | killed (signal : ℕ) (acted : Bool)
  deriving DecidableEq

/-- What `waitpid` says of a helper. -/
def HelperFate.status (run : HelperRun) : HelperFate → WaitStatus
  | .ends => .exited run.retval.toNat
  | .refused status => .exited (status + 1)
  | .killed signal _ => .signaled signal

/-- The helper does what its run says. -/
def HelperFate.acts : HelperFate → Bool
  | .ends => true
  | .refused _ => false
  | .killed _ acted => acted

/-- What the pipe gives at the end of the output. -/
def OutputEnd.events : OutputEnd → List PipeEvent
  | .eof => [.readable []]
  | .failed => [.readFailed]
  | .timedOut => []

/-- A helper that the daemon runs, as the system treats it. -/
structure HelperCall where
  /-- Whether there is a pipe. -/
  pipe : Bool
  /-- Whether there is a child. -/
  fork : Bool
  /-- What becomes of the child. -/
  fate : HelperFate
  /-- How its output ends. -/
  reading : OutputEnd
  /-- Whether it can be waited for. -/
  waited : Bool
  /-- What becomes of its write, if it gets there. -/
  write : WriteOutcome

namespace HelperCall

/-- A call of a helper that runs to its end and writes its text. -/
def written : HelperCall := ⟨true, true, .ends, .eof, true, .written⟩

variable (call : HelperCall)

/-- The helper does what its run says. -/
def acts : Bool := call.pipe && call.fork && call.fate.acts

/-- The text on the standard output of the child. -/
def printed (run : HelperRun) : CString := if call.fate.acts then run.printed else []

/-- The child process. -/
def child (run : HelperRun) : ChildProcess where
  pipe := call.pipe
  fork := call.fork
  output _ :=
    (if call.printed run = [] then [] else [.readable (call.printed run)]) ++ call.reading.events
  status _ := if call.waited then some (call.fate.status run) else none

/-- The call of `run_external_process`, with the default timeout. -/
def result (buffer : Bool) (run : HelperRun) : ExternalRun :=
  runExternalProcess (call.child run) buffer (-1)

/-- The daemon takes the call for a success. -/
def reports (run : HelperRun) : Bool := (call.result false run).ret = 0

/-- What the file holds after the call. -/
def after (run : HelperRun) (file : Option CString) : Option CString :=
  if call.acts then run.after file else file

/-- The daemon takes the write of a text for a success, whatever the text is. -/
def reportsWrite : Bool := call.reports (writeText [] call.write)

/-- The file takes the text that is written. -/
def takes : Bool := call.acts && call.write = .written

/-- The daemon takes a call that prints for a success. -/
def reportsRead : Bool := call.reports (.print [])

/-- What the helper prints gets to the daemon. -/
def delivers : Bool := call.acts && call.reading = .eof

/-- A success is reported just when the file takes the text. -/
def Honest : Prop := call.reportsWrite = call.takes

instance : Decidable call.Honest := inferInstanceAs (Decidable (_ = _))

variable {call}

theorem result_ret_eq_zero_iff {buffer : Bool} {run : HelperRun} :
    (call.result buffer run).ret = 0 ↔
      call.pipe = true ∧ (call.fork = true → call.waited = true ∧
        match call.fate with
        | .ends => run.retval.toNat = 0
        | .refused _ => False
        | .killed _ _ => True) := by
  rw [result, runExternalProcess_eq_zero_iff]
  refine and_congr_right fun _ => imp_congr_right fun _ => ?_
  cases hwaited : call.waited <;> cases hfate : call.fate <;>
    simp [child, hwaited, hfate, HelperFate.status]

theorem reports_congr {run run' : HelperRun} (h : run.retval = run'.retval) :
    call.reports run = call.reports run' := by
  rw [reports, reports, decide_eq_decide, result_ret_eq_zero_iff, result_ret_eq_zero_iff, h]

theorem reports_writeText (text : CString) :
    call.reports (writeText text call.write) = call.reportsWrite := by
  refine reports_congr ?_
  cases call.write <;> rfl

theorem after_writeText (text : CString) (file : Option CString) :
    call.after (writeText text call.write) file =
      if call.takes then
        some (if text.getLast? = some '\n' then text else fileContents text)
      else file := by
  rw [after, takes]
  cases call.acts <;> cases call.write <;> simp [writeText, HelperRun.failure, HelperRun.after]

theorem result_print_ret_ne_zero_iff {text : CString} :
    (call.result true (.print text)).ret ≠ 0 ↔ call.reportsRead = false := by
  rw [ne_eq, result_ret_eq_zero_iff, reportsRead, reports, decide_eq_false_iff_not,
    result_ret_eq_zero_iff]
  rfl

/-- What the daemon gets of the text that is printed. -/
theorem result_buffer (run : HelperRun) :
    (call.result true run).buffer.getD [] =
      if call.delivers then run.printed.take (externalBufferMax - 1) else [] := by
  have houtput : outputOf ((call.child run).output (timeoutOf (-1))) =
      (call.reading, call.printed run) := by
    have hend : outputOf call.reading.events = (call.reading, []) := by
      cases call.reading <;> rfl
    rw [child]
    by_cases hprinted : call.printed run = []
    · simp [hprinted, hend]
    · simp [hprinted, outputOf_readable, hend]
  rw [result, runExternalProcess_buffer, houtput, child, delivers, acts, printed]
  cases call.fate.acts <;> simp

/-- **Reports.** A success is reported just when the file takes the text if there is a child, which
either runs to its end, is waited for and meets no error as its file is closed, or has written its
text when it is killed, or does not come to write and is not waited for, or is refused; or if there
is not even a pipe. -/
theorem honest_iff : call.Honest ↔ (call.pipe = true → call.fork = true ∧
    match call.fate with
    | .ends => if call.waited then call.write ≠ .flushFailed else call.write ≠ .written
    | .refused _ => True
    | .killed _ acted => call.waited = true ↔ acted = true ∧ call.write = .written) := by
  have hreports : call.reportsWrite = true ↔ _ := decide_eq_true_iff.trans result_ret_eq_zero_iff
  rw [Honest, Bool.eq_iff_iff, hreports, takes, acts]
  cases hpipe : call.pipe <;> cases hfork : call.fork <;> cases hwaited : call.waited <;>
    cases hfate : call.fate <;> cases hwrite : call.write <;>
    simp [writeText, HelperFate.acts, HelperRun.failure, exitFailure, exitSuccess]

end HelperCall

/-! ### Round trips -/

theorem length_decimal_of_long {v : ℤ} (h : CString.longMin ≤ v ∧ v ≤ CString.longMax) :
    (CString.decimal v).length ≤ 21 := by
  have hdigits : (Nat.toDigits 10 v.natAbs).length ≤ 20 := by
    rw [Nat.length_toDigits_le_iff (by decide) (by decide)]
    rw [CString.longMin, CString.longMax] at h
    omega
  rw [CString.decimal]
  split_ifs
  · rw [List.length_cons]
    omega
  · omega

/-- The mitigation is read as it was written. -/
theorem splitlockContents_decimal {v : ℤ} (h : CString.longMin ≤ v ∧ v ≤ CString.longMax) :
    splitlockContents (some (fileContents (CString.decimal v))) = v := by
  have hlength : (fileContents (CString.decimal v)).length ≤ 40 := by
    have hdecimal := length_decimal_of_long h
    rw [fileContents, List.length_append, List.length_singleton]
    omega
  have hread : CString.strtol (fileContents (CString.decimal v)) = ⟨v, ['\n'], false⟩ :=
    @CString.strtol_decimal_append v h [] ['\n'] (by simp) (by simp)
  rw [splitlockContents, if_neg (by simp [fileContents]), List.take_of_length_le hlength, hread]

theorem splitlockContents_mem (file : Option CString) :
    CString.longMin ≤ splitlockContents file ∧ splitlockContents file ≤ CString.longMax := by
  have hunreadable : CString.longMin ≤ -1 ∧ (-1 : ℤ) ≤ CString.longMax := by decide
  rw [splitlockContents.eq_def]
  split
  · exact hunreadable
  · split_ifs
    · exact hunreadable
    · exact CString.strtol_value_mem _

end GameMode
