import GameMode.Library.CString

/-!
# Process identifiers and process descriptors

A client hands processes to the daemon as descriptors (`pidfd`), and the daemon finds the process
identifier of a descriptor in its file under `/proc/self/fdinfo`. A descriptor is identified here
with the open file that it refers to, so it keeps its identity when it is sent over the bus.

The file of a descriptor is given by its fields, each a key up to its colon and the rest of the
line, and is an error number when it cannot be opened.

## Main definitions

* `openPidfds`, `pidfdToPid`, `pidfdsToPids`: the two directions of the translation.
* `FdInfo.Shows`: the kernel prints a process identifier in the file of a descriptor.

## Main results

* `pidfdToPid_of_shows`: a process identifier that the kernel prints is read back.
* `pidfdToPid_of_shows_gone`: a process that is gone is an error.

Source: `common/common-pidfds.c`.
-/

namespace GameMode

open Errno

/-- `pid_t`. -/
abbrev Pid := ℤ

/-- The largest `pid_t`. -/
def pidMax : Pid := 2 ^ 31 - 1

/-- A file descriptor, as the open file that it refers to. -/
abbrev Fd := ℕ

/-- The fields of the file of a descriptor, or the error number of opening it. -/
abbrev FdInfo := Except ℤ (List (CString × CString))

/-- `open_pidfds`: the descriptors opened before the first failure. -/
def openPidfds (pidfdOpen : Pid → Option Fd) : List Pid → List Fd
  | [] => []
  | pid :: pids =>
    match pidfdOpen pid with
    | none => []
    | some fd => fd :: openPidfds pidfdOpen pids

/-- `parse_pid`. -/
def parsePid (str : CString) : Except ℤ Pid :=
  let parse := str.strtoull
  if parse.endp = str then .error (-enoent)
  else if parse.erange then .error (-erange)
  else
    let p := parse.value.bmod (2 ^ 32)
    if p < 1 ∨ p ≠ parse.value then .error (-erange) else .ok p

/-- `parse_status_field_pid`. -/
def parseStatusFieldPid (val : CString) : Except ℤ Pid :=
  match val.strrchr '\t' with
  | none => .error (-enoent)
  | some t => parsePid t

/-- The loop of `pidfd_to_pid` over the fields: the first key that starts with `Pid` decides. -/
def findPid : List (CString × CString) → Except ℤ Pid
  | [] => .error (-enoent)
  | (key, val) :: fields =>
    if "Pid".toList <+: key then parseStatusFieldPid val else findPid fields

/-- `pidfd_to_pid`. -/
def pidfdToPid : FdInfo → Except ℤ Pid
  | .error errno => .error (-errno)
  | .ok fields => findPid fields

/-- The loop of `pidfds_to_pids`: its counter at the end, and the array, whose entries are zero
from the first failure on. The counter has passed the descriptor that failed. -/
def translatePidfds (fdinfo : Fd → FdInfo) : List Fd → ℤ × List Pid
  | [] => (0, [])
  | fd :: fds =>
    match pidfdToPid (fdinfo fd) with
    | .error _ => (1, 0 :: fds.map fun _ => 0)
    | .ok pid =>
      let (i, pids) := translatePidfds fdinfo fds
      (i + 1, pid :: pids)

/-- `pidfds_to_pids`: the result, and the array that starts with zeros. `none` stands for a
directory `/proc/self/fdinfo` that cannot be opened. -/
def pidfdsToPids (fdinfo : Option (Fd → FdInfo)) (fds : List Fd) : ℤ × List Pid :=
  match fdinfo with
  | none => (-1, fds.map fun _ => 0)
  | some fdinfo => translatePidfds fdinfo fds

/-! ### What the kernel prints -/

/-- The file of a descriptor shows a number in its `Pid` field, printed as the kernel does. -/
def FdInfo.Shows (info : FdInfo) (pid : Pid) : Prop :=
  ∃ before after, info = .ok (before ++ ("Pid:".toList, '\t' :: (CString.decimal pid ++ ['\n'])) ::
    after) ∧ ∀ field ∈ before, ¬"Pid".toList <+: field.1

private theorem findPid_append {before : List (CString × CString)}
    (h : ∀ field ∈ before, ¬"Pid".toList <+: field.1) (fields : List (CString × CString)) :
    findPid (before ++ fields) = findPid fields := by
  induction before with
  | nil => rfl
  | cons field before ih =>
    obtain ⟨hfield, hbefore⟩ := List.forall_mem_cons.1 h
    rw [List.cons_append, findPid, if_neg hfield, ih hbefore]

theorem tab_notMem_decimal (v : ℤ) : '\t' ∉ CString.decimal v ++ ['\n'] := by
  intro h
  have hdigits : '\t' ∉ Nat.toDigits 10 v.natAbs := fun hmem =>
    absurd (Nat.isDigit_of_mem_toDigits (by decide) (by decide) hmem) (by decide)
  rw [CString.decimal] at h
  split_ifs at h <;> simp [hdigits] at h

private theorem pidfdToPid_shows {info : FdInfo} {pid : Pid} (h : info.Shows pid) :
    pidfdToPid info = parsePid ('\t' :: (CString.decimal pid ++ ['\n'])) := by
  obtain ⟨before, after, rfl, hbefore⟩ := h
  rw [pidfdToPid, findPid_append hbefore, findPid, if_pos (by decide), parseStatusFieldPid,
    CString.strrchr_cons (tab_notMem_decimal pid)]

/-- A process identifier that the kernel prints is read back. -/
theorem pidfdToPid_of_shows {info : FdInfo} {pid : ℤ} (h : info.Shows pid) (hpos : 0 < pid)
    (hmax : pid ≤ pidMax) : pidfdToPid info = .ok pid := by
  have hparse := @CString.strtoull_decimal pid hpos
    (hmax.trans (by decide : pidMax ≤ CString.ullongMax)) '\t' (by decide) ['\n']
    (by intro c hc; cases hc; decide)
  have hne : ['\n'] ≠ '\t' :: (CString.decimal pid ++ ['\n']) := by simp
  have hmod : pid.bmod (2 ^ 32) = pid := by
    have hlt : pid ≤ 2 ^ 31 - 1 := hmax
    rw [Int.bmod_def]
    split_ifs <;> omega
  rw [pidfdToPid_shows h, parsePid]
  simp only [hparse, if_neg hne, hmod, Bool.false_eq_true, if_false]
  rw [if_neg (by omega)]

/-- A process that is gone is an error: the kernel prints `-1` for it. -/
theorem pidfdToPid_of_shows_gone {info : FdInfo} (h : info.Shows (-1)) :
    pidfdToPid info = .error (-erange) := by
  rw [pidfdToPid_shows h]
  rfl

end GameMode
