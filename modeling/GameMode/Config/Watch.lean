import GameMode.Config.Load
import GameMode.Library.Runs

/-!
# Watching the configuration files

A load visits the places of `gamemode.ini` in order. At each place it opens and parses the file and
then puts a watch on it, or, when the file cannot be opened, puts a watch on the directory. The
reaper polls the events of the watches and starts another load when one of them concerns a
configuration file. An editor changes the files at any time.

An edit that falls between opening a file and watching it is reported by no watch, and the daemon
keeps the values that it read before. In the runs without such an edit, the values are those of the
files whenever nothing is pending.

Directories stand for the locations, so that two locations may share one. A watch is on the file
that is in a directory, until that file is deleted, replaced or moved away, or on the directory.

## Main definitions

* `InotifyEvent`, `configNeedsReload`: the events, and the filter of the poll.
* `Edit`: what an editor does to a file, and what the kernel reports of it.
* `WatchState`, `watchStep`: the daemon's loads and polls, interleaved with the edits.
* `FallsInWindow`: an edit between opening and watching that changes the file unseen.
* `WatchState.IsCurrent`: the values held are the merge of the files as they are.

## Main results

* `watchInvariant_step`: one step.
* `isCurrent_of_no_edit_in_window`: runs without an edit in a window.
* `exists_lost_edit`: an edit in a window is lost.

Source: `daemon/gamemode-config.c`, `load_config_files`, `config_reload` and `config_needs_reload`;
`daemon/gamemode-context.c`, `game_mode_context_reaper`.
-/

namespace GameMode

open Errno

/-! ### Events -/

/-- `struct inotify_event`, as far as the poll looks at it. -/
structure InotifyEvent where
  /-- `IN_ISDIR`. -/
  isDir : Bool
  /-- `IN_DELETE_SELF`. -/
  deleteSelf : Bool
  /-- `IN_MOVE_SELF`. -/
  moveSelf : Bool
  /-- The name, for an event of a watch on a directory. -/
  name : Option CString
  deriving DecidableEq

/-- `CONFIG_NAME`. -/
def configName : CString := "gamemode.ini".toList

/-- `sizeof(struct inotify_event)`. -/
def inotifyEventSize : ℕ := 16

/-- `event->len`: the name with its NUL, padded to a multiple of the size of an event. -/
def InotifyEvent.len (event : InotifyEvent) : ℕ :=
  match event.name with
  | none => 0
  | some name => (name.length + inotifyEventSize) / inotifyEventSize * inotifyEventSize

/-- `buflen`, with `NAME_MAX` 255. -/
def inotifyBuflen : ℕ := inotifyEventSize + 255 + 1

/-- What `read` takes from the queue: the events that fit the buffer, and the events left. -/
def readEvents (room : ℕ) : List InotifyEvent → List InotifyEvent × List InotifyEvent
  | [] => ([], [])
  | event :: events =>
    if inotifyEventSize + event.len ≤ room then
      let (read, rest) := readEvents (room - (inotifyEventSize + event.len)) events
      (event :: read, rest)
    else ([], event :: events)

theorem readEvents_append (room : ℕ) :
    (events : List InotifyEvent) →
      (readEvents room events).1 ++ (readEvents room events).2 = events
  | [] => rfl
  | event :: events => by
    rw [readEvents]
    split_ifs
    · exact congrArg (event :: ·) (readEvents_append _ events)
    · rfl

/-- `basename`: the part of a path after the last slash. -/
def basename (path : CString) : CString :=
  match path.strrchr '/' with
  | some (_ :: name) => name
  | _ => path

/-- The events that make the poll ask for a reload. -/
def InotifyEvent.isRelevant (event : InotifyEvent) : Bool :=
  if event.isDir then event.deleteSelf || event.moveSelf
  else
    match event.name with
    | some name => configName.isPrefixOf (basename name)
    | none => true

/-- The loop of `config_needs_reload` over the events read. -/
def configNeedsReload : List InotifyEvent → Bool
  | [] => false
  | event :: events => if event.isRelevant then true else configNeedsReload events

theorem configNeedsReload_iff :
    (events : List InotifyEvent) →
      (configNeedsReload events = true ↔ ∃ event ∈ events, event.isRelevant)
  | [] => by simp [configNeedsReload]
  | event :: events => by
    by_cases h : event.isRelevant
    · simp [configNeedsReload, h]
    · simp [configNeedsReload, h, configNeedsReload_iff events]

theorem configNeedsReload_append (events events' : List InotifyEvent) :
    configNeedsReload (events ++ events') =
      (configNeedsReload events || configNeedsReload events') := by
  rw [Bool.eq_iff_iff, Bool.or_eq_true]
  simp only [configNeedsReload_iff, List.mem_append, or_and_right, exists_or]

/-! ### Edits -/

/-- What a directory holds as `gamemode.ini`: the entries of the file, if it is there. -/
abbrev FileContent := Option (List Entry)

/-- What an editor does to the file of a directory. -/
inductive Edit
  | create (entries : List Entry)
  | modify (entries : List Entry)
  | renameInto (entries : List Entry)
  | delete
  | moveAway
  deriving DecidableEq

/-- The file after an edit, `none` when the edit is not possible. -/
def Edit.apply : Edit → FileContent → Option FileContent
  | create entries, none => some (some entries)
  | create _, some _ => none
  | modify entries, some _ => some (some entries)
  | modify _, none => none
  | renameInto entries, _ => some (some entries)
  | delete, some _ | moveAway, some _ => some none
  | delete, none | moveAway, none => none

/-- The file of the directory is the same one after the edit. -/
def Edit.keepsFile : Edit → Bool
  | modify _ => true
  | create _ | renameInto _ | delete | moveAway => false

/-- An event of a watch on a file. -/
def fileEvent : InotifyEvent := ⟨false, false, false, none⟩

/-- An event of a watch on a directory, about the configuration file. -/
def directoryEvent : InotifyEvent := ⟨false, false, false, some configName⟩

/-- What the kernel reports of an edit: the watches on files ask for modification, deletion and
moves of the file, those on directories for files created in it or moved to it. A file that is gone
reports the end of its watch as well. -/
def Edit.events (fileWatch dirWatch : Bool) : Edit → List InotifyEvent
  | create _ => if dirWatch then [directoryEvent] else []
  | modify _ => if fileWatch then [fileEvent] else []
  | renameInto _ =>
    (if dirWatch then [directoryEvent] else []) ++
      if fileWatch then [{ fileEvent with deleteSelf := true }, fileEvent] else []
  | delete => if fileWatch then [{ fileEvent with deleteSelf := true }, fileEvent] else []
  | moveAway => if fileWatch then [{ fileEvent with moveSelf := true }] else []

/-- A watch on the file, or on the directory of a missing file, reports every edit. -/
theorem Edit.configNeedsReload_events {edit : Edit} {file file' : FileContent}
    (h : edit.apply file = some file') {fileWatch dirWatch : Bool}
    (hwatch : if file.isSome then fileWatch = true else dirWatch = true) :
    configNeedsReload (edit.events fileWatch dirWatch) = true := by
  cases file with
  | none =>
    obtain rfl : dirWatch = true := hwatch
    cases edit with
    | create entries => rfl
    | renameInto entries => rfl
    | modify _ => cases h
    | delete => cases h
    | moveAway => cases h
  | some entries =>
    obtain rfl : fileWatch = true := hwatch
    cases edit with
    | create _ => cases h
    | modify _ => rfl
    | renameInto _ => cases dirWatch <;> rfl
    | delete => rfl
    | moveAway => rfl

/-! ### Loads and polls -/

variable {Dir : Type*} [DecidableEq Dir]

/-- A place where a load looks for `gamemode.ini`: its mark, and its directory if there is one. -/
structure Place (Dir : Type*) where
  /-- Whether the file may set the `[gpu]` options. -/
  isProtected : Bool
  /-- The directory, `none` for a path that could not be found out. -/
  dir : Option Dir

/-- Whether `fopen` finds a file. -/
def Place.fileExists (place : Place Dir) (disk : Dir → FileContent) : Bool :=
  match place.dir with
  | none => false
  | some d => (disk d).isSome

/-- What a load finds at a place. What becomes of the watch is the next step. -/
def Place.now (place : Place Dir) (disk : Dir → FileContent) : ConfigLocation where
  isProtected := place.isProtected
  file :=
    match place.dir with
    | none => .noPath
    | some d =>
      match disk d with
      | none => .absent
      | some entries => .ofEntries entries

/-- The four places of `load_config_files`, in order. -/
def configPlaces (sysconfdir etc home current : Option Dir) : List (Place Dir) :=
  [⟨true, sysconfdir⟩, ⟨true, etc⟩, ⟨false, home⟩, ⟨false, current⟩]

/-- The state of the files, of the kernel's watches, and of the daemon. -/
structure WatchState (Dir : Type*) where
  /-- The files. -/
  disk : Dir → FileContent
  /-- A watch is on the file that is now in the directory. -/
  fileWatch : Dir → Bool
  /-- A watch is on the directory. -/
  dirWatch : Dir → Bool
  /-- The events not read yet. -/
  queue : List InotifyEvent
  /-- The values, and what passes through a load. -/
  load : LoadState
  /-- `errno` when the load began. -/
  startErrno : ℤ
  /-- The places that the load has still to finish; none when no load is in progress. -/
  todo : List (Place Dir)
  /-- Whether the file of the first of them was found, once that is known. -/
  opened : Option Bool
  /-- The poll has asked for a reload that has not begun. -/
  reloadDue : Bool
  /-- What the last poll returned. -/
  lastPoll : Option Bool

/-- What happens next: an edit, any other event, or a step of the daemon. -/
inductive WatchAction (Dir : Type*)
  | edit (dir : Dir) (edit : Edit)
  | other (event : InotifyEvent)
  | beginLoad (errno : ℤ)
  | openFile
  | addWatch
  | poll

namespace WatchState

/-- The state in which a load begins: there are no watches, and the values are the defaults. -/
def begin (s : WatchState Dir) (places : List (Place Dir)) (errno : ℤ) : WatchState Dir :=
  { s with
    fileWatch := fun _ => false
    dirWatch := fun _ => false
    queue := []
    load := LoadState.start errno
    startErrno := errno
    todo := places
    opened := none
    reloadDue := false }

/-- The daemon starts with a load. -/
def init (places : List (Place Dir)) (disk : Dir → FileContent) (errno : ℤ) : WatchState Dir where
  disk := disk
  fileWatch _ := false
  dirWatch _ := false
  queue := []
  load := LoadState.start errno
  startErrno := errno
  todo := places
  opened := none
  reloadDue := false
  lastPoll := none

/-- The file of a directory changes, and the kernel reports it. -/
def applyEdit (s : WatchState Dir) (d : Dir) (e : Edit) (file : FileContent) : WatchState Dir :=
  { s with
    disk := Function.update s.disk d file
    fileWatch := Function.update s.fileWatch d (s.fileWatch d && e.keepsFile)
    queue := s.queue ++ e.events (s.fileWatch d) (s.dirWatch d) }

/-- The watch of `load_config_files` at a place: on the file when it was opened, which fails when
it is gone again, else on the directory if it opens. -/
def watch (s : WatchState Dir) (dirExists : Dir → Bool) (place : Place Dir) (found : Bool) :
    WatchState Dir :=
  match place.dir with
  | none => s
  | some d =>
    if found then
      if (s.disk d).isSome then { s with fileWatch := Function.update s.fileWatch d true }
      else { s with load := { s.load with errno := enoent } }
    else if dirExists d then { s with dirWatch := Function.update s.dirWatch d true }
    else s

end WatchState

variable (strtof : CString → FloatParse) (places : List (Place Dir)) (dirExists : Dir → Bool)

/-- One step of the system. Edits happen in directories that exist, and a poll does not happen
during a load or while one is due. -/
def watchStep (s : WatchState Dir) : WatchAction Dir → Option (WatchState Dir)
  | .edit d e =>
    if dirExists d then (e.apply (s.disk d)).map (s.applyEdit d e) else none
  | .other event => some { s with queue := s.queue ++ [event] }
  | .beginLoad errno => if s.todo.isEmpty then some (s.begin places errno) else none
  | .openFile =>
    match s.todo, s.opened with
    | place :: _, none =>
      some { s with
        load := loadLocation strtof s.load (place.now s.disk)
        opened := some (place.fileExists s.disk) }
    | _, _ => none
  | .addWatch =>
    match s.todo, s.opened with
    | place :: todo, some found =>
      some { s.watch dirExists place found with todo := todo, opened := none }
    | _, _ => none
  | .poll =>
    if s.todo.isEmpty ∧ ¬s.reloadDue then
      let (read, rest) := readEvents inotifyBuflen s.queue
      let need := configNeedsReload read
      some { s with queue := rest, reloadDue := need, lastPoll := some need }
    else none

/-- The merge of the files as they are now. -/
def mergeNow (s : WatchState Dir) : Config :=
  (loadLocations strtof s.startErrno (places.map (·.now s.disk))).config

/-- When no load is in progress, no event is queued and the last poll returned false, the values
held are the merge of the files as they are now. -/
def WatchState.IsCurrent (s : WatchState Dir) : Prop :=
  s.todo = [] → s.queue = [] → s.lastPoll = some false →
    s.load.config = mergeNow strtof places s

/-- An edit between opening a file and watching it that changes the file and that no watch
reports. -/
def FallsInWindow (s : WatchState Dir) : WatchAction Dir → Prop
  | .edit d e =>
    s.opened.isSome ∧ s.todo.head?.bind Place.dir = some d ∧ e.apply (s.disk d) ≠ some (s.disk d) ∧
      configNeedsReload (e.events (s.fileWatch d) (s.dirWatch d)) = false
  | _ => False

instance (s : WatchState Dir) : (a : WatchAction Dir) → Decidable (FallsInWindow s a)
  | .edit _ _ => inferInstanceAs (Decidable (_ ∧ _ ∧ _ ∧ _))
  | .other _ | .beginLoad _ | .openFile | .addWatch | .poll => isFalse id

/-! ### The invariant -/

namespace WatchState

variable (s : WatchState Dir)

/-- A reload is due, or will be as soon as the queue is read. -/
def Pending : Prop := s.reloadDue = true ∨ configNeedsReload s.queue = true

/-- The next edit of the file of a place is reported. -/
def Watches (dirExists : Dir → Bool) (place : Place Dir) : Prop :=
  ∀ d, place.dir = some d → dirExists d = true →
    if (s.disk d).isSome then s.fileWatch d = true else s.dirWatch d = true

/-- The place whose file is open. -/
def reading : List (Place Dir) := if s.opened.isSome then s.todo.take 1 else []

/-- The load has read the files of `done`, and of the place that is open, as they are now, and
watches those of `done`. -/
structure Fresh (done : List (Place Dir)) : Prop where
  split : places = done ++ s.todo
  load_eq : s.load = (done ++ s.reading).foldl
    (fun load place => loadLocation strtof load (place.now s.disk)) (LoadState.start s.startErrno)
  watches : ∀ place ∈ done, s.Watches dirExists place
  opened_eq : ∀ place ∈ s.reading, s.opened = some (place.fileExists s.disk)

/-- What every run without an edit in a window keeps: a reload is pending, or everything read so far
is as it was read. -/
structure WatchInvariant : Prop where
  lastPoll_of_due : s.reloadDue = true → s.lastPoll = some true
  opened_of_idle : s.todo = [] → s.opened = none
  pending_or_fresh : s.Pending ∨ ∃ done, s.Fresh strtof places dirExists done

end WatchState

section Places

variable {place : Place Dir} {d : Dir}

theorem Place.now_update (h : place.dir ≠ some d) (disk : Dir → FileContent)
    (file : FileContent) : place.now (Function.update disk d file) = place.now disk := by
  obtain ⟨isProtected, _ | d'⟩ := place
  · rfl
  · have hne : d' ≠ d := fun hd => h (congrArg some hd)
    simp only [now, Function.update_of_ne hne]

theorem Place.fileExists_update (h : place.dir ≠ some d) (disk : Dir → FileContent)
    (file : FileContent) :
    place.fileExists (Function.update disk d file) = place.fileExists disk := by
  obtain ⟨isProtected, _ | d'⟩ := place
  · rfl
  · have hne : d' ≠ d := fun hd => h (congrArg some hd)
    simp only [fileExists, Function.update_of_ne hne]

end Places

namespace WatchState

variable {s : WatchState Dir} {strtof places dirExists}

/-! ### Edits -/

omit [DecidableEq Dir] in
theorem Fresh.dir_ne_of_unreported {done : List (Place Dir)}
    (h : s.Fresh strtof places dirExists done) {d : Dir} {e : Edit} {file : FileContent}
    (hd : dirExists d = true) (hfile : e.apply (s.disk d) = some file)
    (hevents : configNeedsReload (e.events (s.fileWatch d) (s.dirWatch d)) = false) :
    ∀ place ∈ done, place.dir ≠ some d := by
  intro place hplace hdir
  have hreported := e.configNeedsReload_events hfile (h.watches place hplace d hdir hd)
  rw [hevents] at hreported
  cases hreported

/-- An edit that no watch reports leaves everything read so far as it was read, unless it falls in
a window. -/
theorem Fresh.applyEdit {done : List (Place Dir)} (h : s.Fresh strtof places dirExists done)
    {d : Dir} {e : Edit} {file : FileContent} (hd : dirExists d = true)
    (hfile : e.apply (s.disk d) = some file)
    (hevents : configNeedsReload (e.events (s.fileWatch d) (s.dirWatch d)) = false)
    (hwindow : ¬FallsInWindow s (.edit d e)) :
    (s.applyEdit d e file).Fresh strtof places dirExists done := by
  have hdone := h.dir_ne_of_unreported hd hfile hevents
  have hreading : ∀ place ∈ s.reading, place.dir = some d → file = s.disk d := by
    intro place hplace hdir
    by_contra hne
    refine hwindow ⟨?_, ?_, fun hsame => hne (Option.some_inj.1 (hfile.symm.trans hsame)), hevents⟩
    · rw [reading] at hplace
      split_ifs at hplace with hopened
      · exact hopened
      · cases hplace
    · rw [reading] at hplace
      split_ifs at hplace
      · cases htodo : s.todo with
        | nil => rw [htodo] at hplace; cases hplace
        | cons p todo =>
          rw [htodo] at hplace
          obtain rfl : place = p := by simpa using hplace
          exact hdir
      · cases hplace
  have hnow : ∀ place ∈ done ++ s.reading,
      place.now (Function.update s.disk d file) = place.now s.disk := by
    intro place hplace
    by_cases hdir : place.dir = some d
    · rcases List.mem_append.1 hplace with hplace | hplace
      · exact absurd hdir (hdone place hplace)
      · rw [hreading place hplace hdir, Function.update_eq_self]
    · exact Place.now_update hdir _ _
  refine ⟨h.split, ?_, ?_, ?_⟩
  · refine h.load_eq.trans (List.foldl_ext _ _ _ fun load place hplace => ?_)
    exact congrArg (loadLocation strtof load) (hnow place hplace).symm
  · intro place hplace d' hdir hd'
    have hne : d' ≠ d := by
      rintro rfl
      exact hdone place hplace hdir
    have hwatches := h.watches place hplace d' hdir hd'
    simpa only [WatchState.applyEdit, Function.update_of_ne hne] using hwatches
  · intro place hplace
    refine (h.opened_eq place hplace).trans (congrArg some ?_)
    by_cases hdir : place.dir = some d
    · simp only [WatchState.applyEdit, hreading place hplace hdir, Function.update_eq_self]
    · exact (Place.fileExists_update hdir _ _).symm

/-! ### Steps of a load -/

section Watch

variable (s : WatchState Dir) (dirExists : Dir → Bool) (place : Place Dir) (found : Bool)

@[simp] theorem watch_disk : (s.watch dirExists place found).disk = s.disk := by
  rw [watch]
  split
  · rfl
  · split_ifs <;> rfl

@[simp] theorem watch_queue : (s.watch dirExists place found).queue = s.queue := by
  rw [watch]
  split
  · rfl
  · split_ifs <;> rfl

@[simp] theorem watch_startErrno :
    (s.watch dirExists place found).startErrno = s.startErrno := by
  rw [watch]
  split
  · rfl
  · split_ifs <;> rfl

@[simp] theorem watch_reloadDue : (s.watch dirExists place found).reloadDue = s.reloadDue := by
  rw [watch]
  split
  · rfl
  · split_ifs <;> rfl

@[simp] theorem watch_lastPoll : (s.watch dirExists place found).lastPoll = s.lastPoll := by
  rw [watch]
  split
  · rfl
  · split_ifs <;> rfl

theorem watch_load : (s.watch dirExists place (place.fileExists s.disk)).load = s.load := by
  obtain ⟨isProtected, _ | d⟩ := place
  · rfl
  · simp only [watch, Place.fileExists]
    split_ifs <;> rfl

theorem fileWatch_watch {s : WatchState Dir} {d : Dir} (h : s.fileWatch d = true) :
    (s.watch dirExists place found).fileWatch d = true := by
  rw [watch]
  split
  · exact h
  · split_ifs <;> simp [Function.update_apply, h]

theorem dirWatch_watch {s : WatchState Dir} {d : Dir} (h : s.dirWatch d = true) :
    (s.watch dirExists place found).dirWatch d = true := by
  rw [watch]
  split
  · exact h
  · split_ifs <;> simp [Function.update_apply, h]

/-- Adding a watch takes none away. -/
theorem Watches.watch {s : WatchState Dir} {other : Place Dir} (h : s.Watches dirExists other) :
    (s.watch dirExists place found).Watches dirExists other := by
  intro d hdir hd
  have hother := h d hdir hd
  rw [watch_disk]
  split_ifs at hother ⊢
  · exact fileWatch_watch dirExists place found hother
  · exact dirWatch_watch dirExists place found hother

theorem watches_watch :
    (s.watch dirExists place (place.fileExists s.disk)).Watches dirExists place := by
  intro d hdir hd
  rw [watch_disk]
  obtain ⟨isProtected, dir⟩ := place
  obtain rfl : dir = some d := hdir
  simp only [watch, Place.fileExists]
  split_ifs with hfile
  · exact Function.update_self ..
  · exact Function.update_self ..

end Watch

omit [DecidableEq Dir] in
theorem reading_of_opened_none (h : s.opened = none) : s.reading = [] := by
  simp [reading, h]

omit [DecidableEq Dir] in
/-- Opening the file of the next place. -/
theorem Fresh.openFile {done : List (Place Dir)} (h : s.Fresh strtof places dirExists done)
    {place : Place Dir} {todo : List (Place Dir)} (htodo : s.todo = place :: todo)
    (hopened : s.opened = none) :
    ({ s with
      load := loadLocation strtof s.load (place.now s.disk)
      opened := some (place.fileExists s.disk) } : WatchState Dir).Fresh strtof places dirExists
        done := by
  have hreading : ({ s with
      load := loadLocation strtof s.load (place.now s.disk)
      opened := some (place.fileExists s.disk) } : WatchState Dir).reading = [place] := by
    simp [reading, htodo]
  refine ⟨h.split, ?_, h.watches, ?_⟩
  · rw [hreading, List.foldl_concat, ← List.append_nil done, ← reading_of_opened_none hopened,
      ← h.load_eq]
  · intro p hp
    rw [hreading, List.mem_singleton] at hp
    rw [hp]

/-- Adding the watch at a place. -/
theorem Fresh.addWatch {done : List (Place Dir)} (h : s.Fresh strtof places dirExists done)
    {place : Place Dir} {todo : List (Place Dir)} (htodo : s.todo = place :: todo) {found : Bool}
    (hopened : s.opened = some found) :
    ({ s.watch dirExists place found with
      todo := todo
      opened := none } : WatchState Dir).Fresh strtof places dirExists (done ++ [place]) := by
  have hreading : s.reading = [place] := by simp [reading, htodo, hopened]
  have hfound : found = place.fileExists s.disk := by
    have := h.opened_eq place (by rw [hreading]; exact List.mem_singleton_self place)
    rw [hopened] at this
    exact Option.some_inj.1 this
  subst hfound
  refine ⟨?_, ?_, ?_, ?_⟩
  · rw [h.split, htodo, List.append_assoc]
    rfl
  · have hload := h.load_eq
    rw [hreading] at hload
    simp only [reading, Option.isSome_none, Bool.false_eq_true, if_false, List.append_nil,
      watch_load, watch_disk, watch_startErrno]
    exact hload
  · intro p hp
    rcases List.mem_append.1 hp with hp | hp
    · exact (h.watches p hp).watch dirExists place _
    · rw [List.mem_singleton.1 hp]
      exact s.watches_watch dirExists place
  · intro p hp
    cases hp

/-! ### Steps and runs -/

omit [DecidableEq Dir] in
theorem pending_of_queue_append {s : WatchState Dir} {events : List InotifyEvent}
    {s' : WatchState Dir} (hqueue : s'.queue = s.queue ++ events)
    (hdue : s'.reloadDue = s.reloadDue) (h : s.Pending ∨ configNeedsReload events = true) :
    s'.Pending := by
  simp only [Pending, hqueue, hdue, configNeedsReload_append, Bool.or_eq_true] at h ⊢
  tauto

end WatchState

open WatchState

/-- One step that is no edit in a window keeps the invariant. -/
theorem watchInvariant_step {s s' : WatchState Dir} {a : WatchAction Dir}
    (h : s.WatchInvariant strtof places dirExists) (hwindow : ¬FallsInWindow s a)
    (hstep : watchStep strtof places dirExists s a = some s') :
    s'.WatchInvariant strtof places dirExists := by
  cases a with
  | edit d e =>
    simp only [watchStep] at hstep
    split_ifs at hstep with hd
    obtain ⟨file, hfile, rfl⟩ := Option.map_eq_some_iff.1 hstep
    refine ⟨h.lastPoll_of_due, h.opened_of_idle, ?_⟩
    by_cases hevents : configNeedsReload (e.events (s.fileWatch d) (s.dirWatch d)) = true
    · exact Or.inl (pending_of_queue_append rfl rfl (Or.inr hevents))
    · rcases h.pending_or_fresh with hpending | ⟨done, hfresh⟩
      · exact Or.inl (pending_of_queue_append rfl rfl (Or.inl hpending))
      · rw [Bool.not_eq_true] at hevents
        exact Or.inr ⟨done, hfresh.applyEdit hd hfile hevents hwindow⟩
  | other event =>
    cases hstep
    refine ⟨h.lastPoll_of_due, h.opened_of_idle, ?_⟩
    rcases h.pending_or_fresh with hpending | ⟨done, hfresh⟩
    · exact Or.inl (pending_of_queue_append rfl rfl (Or.inl hpending))
    · exact Or.inr ⟨done, hfresh.split, hfresh.load_eq, hfresh.watches, hfresh.opened_eq⟩
  | beginLoad errno =>
    simp only [watchStep] at hstep
    split_ifs at hstep
    cases hstep
    refine ⟨nofun, fun _ => rfl, Or.inr ⟨[], rfl, rfl, ?_, ?_⟩⟩
    · intro place hplace
      cases hplace
    · intro place hplace
      cases hplace
  | openFile =>
    simp only [watchStep] at hstep
    split at hstep
    · rename_i place todo htodo hopened
      cases hstep
      refine ⟨h.lastPoll_of_due, fun hidle => ?_, ?_⟩
      · rw [htodo] at hidle
        cases hidle
      · rcases h.pending_or_fresh with hpending | ⟨done, hfresh⟩
        · exact Or.inl hpending
        · exact Or.inr ⟨done, hfresh.openFile htodo hopened⟩
    · cases hstep
  | addWatch =>
    simp only [watchStep] at hstep
    split at hstep
    · rename_i place todo found htodo hopened
      cases hstep
      refine ⟨?_, fun _ => rfl, ?_⟩
      · simpa using h.lastPoll_of_due
      · rcases h.pending_or_fresh with hpending | ⟨done, hfresh⟩
        · exact Or.inl (by simpa [Pending] using hpending)
        · exact Or.inr ⟨done ++ [place], hfresh.addWatch htodo hopened⟩
    · cases hstep
  | poll =>
    simp only [watchStep] at hstep
    split_ifs at hstep with hidle
    cases hstep
    refine ⟨fun hneed => congrArg some hneed, h.opened_of_idle, ?_⟩
    by_cases hneed : configNeedsReload (readEvents inotifyBuflen s.queue).1 = true
    · exact Or.inl (Or.inl hneed)
    · rcases h.pending_or_fresh with hpending | ⟨done, hfresh⟩
      · -- what made the reload pending is among the events left
        refine Or.inl (Or.inr ?_)
        have hqueue := hpending.resolve_left hidle.2
        rw [← readEvents_append inotifyBuflen s.queue, configNeedsReload_append,
          Bool.or_eq_true] at hqueue
        exact hqueue.resolve_left hneed
      · exact Or.inr ⟨done, hfresh.split, hfresh.load_eq, hfresh.watches, hfresh.opened_eq⟩

omit [DecidableEq Dir] in
theorem watchInvariant_init (disk : Dir → FileContent) (errno : ℤ) :
    (WatchState.init places disk errno).WatchInvariant strtof places dirExists := by
  refine ⟨nofun, fun _ => rfl, Or.inr ⟨[], rfl, rfl, ?_, ?_⟩⟩
  · intro place hplace
    cases hplace
  · intro place hplace
    cases hplace

omit [DecidableEq Dir] in
theorem WatchState.WatchInvariant.isCurrent {s : WatchState Dir}
    (h : s.WatchInvariant strtof places dirExists) : s.IsCurrent strtof places := by
  intro htodo hqueue hpoll
  rcases h.pending_or_fresh with hdue | ⟨done, hfresh⟩
  · rcases hdue with hdue | hqueue'
    · rw [h.lastPoll_of_due hdue] at hpoll
      cases hpoll
    · rw [hqueue] at hqueue'
      cases hqueue'
  · have hdone : done = places := by rw [hfresh.split, htodo, List.append_nil]
    rw [hfresh.load_eq, reading_of_opened_none (h.opened_of_idle htodo), List.append_nil, hdone,
      mergeNow, loadLocations, List.foldl_map]

/-- **No change is lost outside the windows.** In every run in which no edit falls between opening
a file and watching it, the values held are those of the files in every state in which no load is in
progress, no event is queued and the last poll returned false. -/
theorem isCurrent_of_no_edit_in_window (disk : Dir → FileContent) (errno : ℤ)
    {as : List (WatchAction Dir)}
    (h : Runs.StepsAlong (watchStep strtof places dirExists) (.init places disk errno) as
      fun s a => ¬FallsInWindow s a) :
    Runs.Along (watchStep strtof places dirExists) (.init places disk errno) as
      (WatchState.IsCurrent strtof places) := by
  intro bs hbs s hs
  have hinv := Runs.along_of_stepsAlong
    (I := fun t => t.WatchInvariant strtof places dirExists)
    (fun s a s' hI hG hstep => watchInvariant_step strtof places dirExists hI hG hstep)
    (watchInvariant_init strtof places dirExists disk errno) h bs hbs s hs
  exact hinv.isCurrent strtof places dirExists

private def fourPlaces : List (Place ℕ) := configPlaces (some 0) (some 1) (some 2) (some 3)

/-- A modification after a load is polled, and the next load reads it. -/
theorem isCurrent_of_polled_edit :
    Runs.Along (watchStep (fun _ => ⟨.nan, false, false⟩) fourPlaces fun _ => true)
      (.init fourPlaces (fun d => if d = 1 then some [] else none) 0)
      [.openFile, .addWatch, .openFile, .addWatch, .openFile, .addWatch, .openFile, .addWatch,
        .edit 1 (.modify [⟨"general", "renice", "5".toList⟩]), .poll, .beginLoad 0,
        .openFile, .addWatch, .openFile, .addWatch, .openFile, .addWatch, .openFile, .addWatch,
        .poll]
      (WatchState.IsCurrent (fun _ => ⟨.nan, false, false⟩) fourPlaces) :=
  isCurrent_of_no_edit_in_window (fun _ => ⟨.nan, false, false⟩) fourPlaces (fun _ => true)
    (fun d => if d = 1 then some [] else none) 0 (by decide)

/-- A modification between reading the file of `/etc` and watching it is lost. -/
theorem exists_lost_edit :
    ¬Runs.Along (watchStep (fun _ => ⟨.nan, false, false⟩) fourPlaces fun _ => true)
      (.init fourPlaces (fun d => if d = 1 then some [] else none) 0)
      [.openFile, .addWatch, .openFile, .edit 1 (.modify [⟨"general", "renice", "5".toList⟩]),
        .addWatch, .openFile, .addWatch, .openFile, .addWatch, .poll]
      (WatchState.IsCurrent (fun _ => ⟨.nan, false, false⟩) fourPlaces) := by
  intro h
  have hconfig := h _ List.prefix_rfl _ rfl rfl rfl rfl
  have hrenice := congrArg (fun config => config.long .renice) hconfig
  exact absurd hrenice (by decide)

end GameMode
