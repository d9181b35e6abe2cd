import GameMode.Daemon.Bus

/-!
# Counting the descriptors that were translated

`pidfds_to_pids` translates the descriptors of an array until one fails. Its counter has been
incremented when the failure is noticed, so the result counts the descriptor that failed. The
callers take the length of the array for success, and a failure at the last position is such a
result.

The files of the descriptors are given position by position, with what the array of process
identifiers holds before: a process may end between two descriptors, and the same descriptor may
be given twice.

## Main definitions

* `translateSlots`, `pidfdsToPidsInto`: the loop over any array.
* `CountsTranslated`, `OnlyDenoted`, `TakenBack`: what the callers rely on.
* `TranslatesPidfds`: the three together.

## Main results

* `translateSlots_of_ok`, `translateSlots_of_error`: the result of the loop.
* `translatesPidfds_iff`: when the callers can rely on it.
* `onlyDenoted_iff`: when the handlers call an operation for the right processes only.

Source: `common/common-pidfds.c`, `pidfds_to_pids`; `daemon/gamemode-dbus.c`,
`method_register_game_by_pidfd` to `method_query_status_by_pidfd`.
-/

namespace GameMode

/-! ### The loop -/

/-- The loop of `pidfds_to_pids`, for the files of the descriptors with what the array holds: its
counter at the end, and the array. -/
def translateSlots : List (FdInfo × Pid) → ℤ × List Pid
  | [] => (0, [])
  | (info, _) :: slots =>
    match pidfdToPid info with
    -- `pidfd_to_pid` clears its result at first
    | .error _ => (1, 0 :: slots.map Prod.snd)
    | .ok pid =>
      let (i, pids) := translateSlots slots
      (i + 1, pid :: pids)

/-- `pidfds_to_pids`: the result, and the array. -/
def pidfdsToPidsInto (opens : Bool) (slots : List (FdInfo × Pid)) : ℤ × List Pid :=
  if opens then translateSlots slots else (-1, slots.map Prod.snd)

/-- A descriptor translates. -/
def Translates (info : FdInfo) : Prop := ∃ pid, pidfdToPid info = .ok pid

theorem not_translates_iff {info : FdInfo} :
    ¬Translates info ↔ ∃ e, pidfdToPid info = .error e := by
  rw [Translates]
  cases pidfdToPid info <;> simp

/-- The result for descriptors that all translate. -/
theorem translateSlots_of_ok {slots : List (FdInfo × Pid)} :
    ∀ {pids : List Pid}, slots.map (fun slot => pidfdToPid slot.1) = pids.map Except.ok →
      translateSlots slots = ((pids.length : ℤ), pids) := by
  induction slots with
  | nil =>
    intro pids h
    rw [List.map_eq_nil_iff.1 h.symm]
    rfl
  | cons slot slots ih =>
    intro pids h
    cases pids with
    | nil => simp at h
    | cons pid pids =>
      rw [List.map_cons, List.map_cons, List.cons.injEq] at h
      rw [translateSlots]
      simp only [h.1, ih h.2, List.length_cons, Nat.cast_add, Nat.cast_one]

/-- The result when a descriptor fails after some that translate: it is counted. -/
theorem translateSlots_of_error {info : FdInfo} {e : ℤ} (hinfo : pidfdToPid info = .error e)
    (old : Pid) (rest : List (FdInfo × Pid)) {slots : List (FdInfo × Pid)} :
    ∀ {pids : List Pid}, slots.map (fun slot => pidfdToPid slot.1) = pids.map Except.ok →
      translateSlots (slots ++ (info, old) :: rest) =
        ((pids.length : ℤ) + 1, pids ++ 0 :: rest.map Prod.snd) := by
  induction slots with
  | nil =>
    intro pids h
    rw [List.map_eq_nil_iff.1 h.symm, List.nil_append, translateSlots, hinfo]
    rfl
  | cons slot slots ih =>
    intro pids h
    cases pids with
    | nil => simp at h
    | cons pid pids =>
      rw [List.map_cons, List.map_cons, List.cons.injEq] at h
      rw [List.cons_append, translateSlots]
      simp only [h.1, ih h.2, List.length_cons, Nat.cast_add, Nat.cast_one, List.cons_append]

/-- All descriptors translate, or there is a first one that does not. -/
theorem translates_or_first (slots : List (FdInfo × Pid)) :
    (∃ pids : List Pid, slots.map (fun slot => pidfdToPid slot.1) = pids.map Except.ok) ∨
      ∃ before info old rest e, ∃ pids : List Pid, slots = before ++ (info, old) :: rest ∧
        pidfdToPid info = .error e ∧
          before.map (fun slot => pidfdToPid slot.1) = pids.map Except.ok := by
  induction slots with
  | nil => exact Or.inl ⟨[], rfl⟩
  | cons slot slots ih =>
    obtain ⟨info, old⟩ := slot
    cases hinfo : pidfdToPid info with
    | error e => exact Or.inr ⟨[], info, old, slots, e, [], rfl, hinfo, rfl⟩
    | ok pid =>
      rcases ih with ⟨pids, hpids⟩ | ⟨before, info', old', rest, e, pids, heq, herror, hpids⟩
      · exact Or.inl ⟨pid :: pids, by simp [hinfo, hpids]⟩
      · exact Or.inr ⟨(info, old) :: before, info', old', rest, e, pid :: pids,
          by rw [heq, List.cons_append], herror, by simp [hinfo, hpids]⟩

/-- The loop starts with the zeros of the handlers. -/
theorem pidfdsToPids_eq (fdinfo : Option (Fd → FdInfo)) (fds : List Fd) :
    pidfdsToPids fdinfo fds =
      pidfdsToPidsInto fdinfo.isSome (fds.map fun fd =>
        ((fdinfo.getD fun _ => .error 0) fd, 0)) := by
  cases fdinfo with
  | none => simp [pidfdsToPids, pidfdsToPidsInto]
  | some fdinfo =>
    simp only [pidfdsToPids, pidfdsToPidsInto, Option.isSome_some, if_true, Option.getD_some]
    induction fds with
    | nil => rfl
    | cons fd fds ih =>
      rw [List.map_cons, translatePidfds, translateSlots]
      cases pidfdToPid (fdinfo fd) with
      | error e => simp only [List.map_map, Function.comp_def]
      | ok pid => simp only [ih]

/-! ### What the callers rely on -/

section Callers

variable (opens : Bool) (slots : List (FdInfo × Pid))

/-- The result counts what was translated: it is `-1` when the directory cannot be opened, and the
number of leading descriptors that translate otherwise; their process identifiers are in the array,
and the result is less than the length when a descriptor fails. -/
def CountsTranslated : Prop :=
  (opens = false → (pidfdsToPidsInto opens slots).1 = -1) ∧
  (opens = true → ∃ n : ℕ, (pidfdsToPidsInto opens slots).1 = n ∧
    (∀ i < n, ∃ slot pid, slots[i]? = some slot ∧ pidfdToPid slot.1 = .ok pid ∧
      (pidfdsToPidsInto opens slots).2[i]? = some pid) ∧
    (∀ slot, slots[n]? = some slot → ¬Translates slot.1) ∧
    ((∃ slot ∈ slots, ¬Translates slot.1) → n < slots.length))

/-- The handlers that find their two descriptors in these files call an operation only for the
processes that the descriptors denote. -/
def OnlyDenoted : Prop :=
  ∀ (fdinfo : Fd → FdInfo) (game caller : Fd) (operation : Operation) (call : DaemonCall),
    slots.map Prod.fst = [fdinfo game, fdinfo caller] →
      handleByPidfd operation (if opens then some fdinfo else none)
          [.unixFd game, .unixFd caller] = .call call →
        pidfdToPid (fdinfo game) = .ok call.client ∧
          pidfdToPid (fdinfo caller) = .ok call.requester

/-- The descriptors that `open_pidfds` makes for living processes, whose files show them, translate
back, whatever the array holds. -/
def TakenBack : Prop :=
  ∀ (pidfdOpen : Pid → Option Fd) (fdinfo : Fd → FdInfo) (pids old : List Pid),
    (∀ pid ∈ pids, (0 < pid ∧ pid ≤ pidMax) ∧
      ∃ fd, pidfdOpen pid = some fd ∧ (fdinfo fd).Shows pid) → old.length = pids.length →
        pidfdsToPidsInto true (((openPidfds pidfdOpen pids).map fdinfo).zip old) =
          ((pids.length : ℤ), pids)

/-- What the callers rely on. -/
structure TranslatesPidfds : Prop where
  counts : CountsTranslated opens slots
  only : OnlyDenoted opens slots
  back : TakenBack

end Callers

theorem takenBack : TakenBack := by
  intro pidfdOpen fdinfo pids old hpids hold
  rw [pidfdsToPidsInto, if_pos rfl]
  refine translateSlots_of_ok ?_
  induction pids generalizing old with
  | nil => rfl
  | cons pid pids ih =>
    obtain ⟨⟨⟨hpos, hmax⟩, fd, hfd, hshows⟩, hpids⟩ := List.forall_mem_cons.1 hpids
    obtain ⟨o, old, rfl⟩ := List.exists_cons_of_length_pos
      (Nat.lt_of_lt_of_eq (Nat.succ_pos pids.length) hold.symm)
    have hlength : old.length = pids.length := by simpa using hold
    rw [openPidfds, hfd]
    simp only [List.map_cons, List.zip_cons_cons, pidfdToPid_of_shows hshows hpos hmax,
      ih old hpids hlength]

section Iff

variable {opens : Bool} {slots : List (FdInfo × Pid)}

/-- Where all descriptors translate, the array holds their process identifiers. -/
theorem countsTranslated_of_translates (h : ∀ slot ∈ slots, Translates slot.1) :
    CountsTranslated opens slots := by
  refine ⟨fun hopens => by rw [hopens]; rfl, fun hopens => ?_⟩
  rw [hopens, pidfdsToPidsInto, if_pos rfl]
  rcases translates_or_first slots with ⟨pids, hpids⟩ | ⟨before, info, old, rest, e, _, heq, he, _⟩
  · rw [translateSlots_of_ok hpids]
    have hlength : slots.length = pids.length := by
      simpa using congrArg List.length hpids
    refine ⟨pids.length, rfl, fun i hi => ?_, fun slot hslot => ?_, ?_⟩
    · have hslot : slots[i]? = some slots[i] := List.getElem?_eq_getElem (hlength ▸ hi)
      have hget := congrArg (·[i]?) hpids
      simp only [List.getElem?_map, hslot, List.getElem?_eq_getElem hi, Option.map_some,
        Option.some_inj] at hget
      exact ⟨slots[i], pids[i], hslot, hget, List.getElem?_eq_getElem hi⟩
    · rw [← hlength, List.getElem?_eq_none le_rfl] at hslot
      cases hslot
    · rintro ⟨slot, hslot, hnot⟩
      exact absurd (h slot hslot) hnot
  · have hmem : (info, old) ∈ slots := heq ▸ List.mem_append_cons_self
    exact absurd (h _ hmem) (not_translates_iff.2 ⟨e, he⟩)

/-- A descriptor that fails is counted. -/
theorem not_countsTranslated_of_error (hopens : opens = true)
    (h : ∃ slot ∈ slots, ¬Translates slot.1) : ¬CountsTranslated opens slots := by
  rintro ⟨-, hcounts⟩
  obtain ⟨n, hn, htranslated, -, -⟩ := hcounts hopens
  rw [hopens, pidfdsToPidsInto, if_pos rfl] at hn
  rcases translates_or_first slots with ⟨pids, hpids⟩ | ⟨before, info, old, rest, e, pids, heq, he,
    hpids⟩
  · obtain ⟨slot, hslot, hnot⟩ := h
    have hmem : pidfdToPid slot.1 ∈ slots.map fun slot => pidfdToPid slot.1 :=
      List.mem_map.2 ⟨slot, hslot, rfl⟩
    rw [hpids] at hmem
    obtain ⟨pid, -, hpid⟩ := List.mem_map.1 hmem
    exact hnot ⟨pid, hpid.symm⟩
  · rw [heq, translateSlots_of_error he old rest hpids] at hn
    have hlength : before.length = pids.length := by
      simpa using congrArg List.length hpids
    -- the first descriptor that fails is at a position before the result
    obtain ⟨slot, pid, hslot, hpid, -⟩ := htranslated before.length (by simp only at hn; omega)
    rw [heq, List.getElem?_append_right le_rfl, Nat.sub_self] at hslot
    cases hslot
    rw [he] at hpid
    cases hpid

/-- The handlers call an operation for the right processes only, unless the descriptor of the game
translates and that of the caller does not. -/
theorem onlyDenoted_iff :
    OnlyDenoted opens slots ↔
      ¬(opens = true ∧ ∃ game caller, slots.map Prod.fst = [game, caller] ∧ Translates game ∧
        ¬Translates caller) := by
  constructor
  · rintro honly ⟨hopens, game, caller, hslots, ⟨pid, hpid⟩, hnot⟩
    obtain ⟨e, he⟩ := not_translates_iff.1 hnot
    have hcall : handleByPidfd .register (some fun fd => if fd = 0 then game else caller)
        [.unixFd 0, .unixFd 1] = .call ⟨.register, pid, 0⟩ := by
      simp [handleByPidfd, pidfdsToPids, translatePidfds, hpid, he]
    have hdenoted := honly (fun fd => if fd = 0 then game else caller) 0 1 .register _ hslots
      (by rw [hopens]; exact hcall)
    simp [he] at hdenoted
  · intro h fdinfo game caller operation call hslots hcall
    cases opens with
    | false => simp [handleByPidfd, pidfdsToPids] at hcall
    | true =>
      rw [if_pos rfl] at hcall
      cases hgame : pidfdToPid (fdinfo game) with
      | error e =>
        rw [handleByPidfd_of_error hgame] at hcall
        cases hcall
      | ok pid =>
        cases hcaller : pidfdToPid (fdinfo caller) with
        | error e =>
          exact absurd ⟨rfl, _, _, hslots, ⟨pid, hgame⟩, not_translates_iff.2 ⟨e, hcaller⟩⟩ h
        | ok pid' =>
          rw [handleByPidfd_of_ok hgame hcaller] at hcall
          cases hcall
          exact ⟨rfl, rfl⟩

/-- **Counting.** The callers can rely on the result just when the directory of the descriptors
cannot be opened or every descriptor translates. -/
theorem translatesPidfds_iff :
    TranslatesPidfds opens slots ↔ opens = false ∨ ∀ slot ∈ slots, Translates slot.1 := by
  constructor
  · intro h
    by_contra hnot
    push Not at hnot
    exact not_countsTranslated_of_error (by simpa using hnot.1) hnot.2 h.counts
  · rintro (hopens | hall)
    · refine ⟨⟨fun _ => by rw [hopens]; rfl, fun h => ?_⟩, onlyDenoted_iff.2 ?_, takenBack⟩
      · rw [hopens] at h
        cases h
      · rintro ⟨h, -⟩
        rw [hopens] at h
        cases h
    · refine ⟨countsTranslated_of_translates hall, onlyDenoted_iff.2 ?_, takenBack⟩
      rintro ⟨-, game, caller, hslots, -, hnot⟩
      have hmem : caller ∈ slots.map Prod.fst := by simp [hslots]
      obtain ⟨slot, hslot, rfl⟩ := List.mem_map.1 hmem
      exact hnot (hall slot hslot)

end Iff

private def oneGone : List (FdInfo × Pid) :=
  [(.ok [("Pid:".toList, "\t5\n".toList)], 0), (.ok [("Pid:".toList, "\t-1\n".toList)], 0)]

/-- The caller is gone: two descriptors are counted, and the game is registered on behalf of
process 0. -/
theorem not_translatesPidfds :
    pidfdsToPidsInto true oneGone = (2, [5, 0]) ∧
      handleByPidfd .register (some fun fd => if fd = 0 then .ok [("Pid:".toList, "\t5\n".toList)]
          else .ok [("Pid:".toList, "\t-1\n".toList)]) [.unixFd 0, .unixFd 1] =
        .call ⟨.register, 5, 0⟩ ∧
      ¬TranslatesPidfds true oneGone := by
  have hrun : pidfdsToPidsInto true oneGone = (2, [5, 0]) := rfl
  refine ⟨hrun, rfl, fun h => ?_⟩
  obtain ⟨n, hn, -, -, hlt⟩ := h.counts.2 rfl
  rw [hrun] at hn
  have hlt' : n < 2 := hlt ⟨_, List.mem_cons_of_mem _ List.mem_cons_self,
    not_translates_iff.2 ⟨-Errno.erange, rfl⟩⟩
  simp only at hn
  omega

end GameMode
