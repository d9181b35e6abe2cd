import GameMode.Daemon.Pivots
import Mathlib.Data.Finset.Option

/-!
# The inhibition of the screensaver over whole runs

The screensaver is inhibited when game mode is entered and released when it is left, each time only
if the configuration says so. The configuration is read again between a leave and an enter only, so
what a leave finds is what the enter before it has used, and at most one inhibitor is held.

An inhibitor is a connection to the session bus together with a cookie. The calls on the bus are
followed as well: whichever of them fails, the connection is closed, and with it goes the
inhibition.

## Main definitions

* `InhibitorState.held`: the inhibitors that were created and not destroyed.
* `World.InhibitsOnce`: at most one inhibitor is held, and only while it is wanted.
* `SessionBus`: the connections, and the inhibitions that the screensaver keeps.
* `busStep`: the pivots with the calls on the session bus.

## Main results

* `inhibitsOnce_along`: at most one inhibitor is held along every run.
* `oneInhibition_along`, `oneInhibition_of_exec`: the screensaver keeps at most one inhibition.

Source: `daemon/gamemode-context.c`, `game_mode_context_enter` and `game_mode_context_leave`;
`daemon/gamemode-dbus.c`, `game_mode_create_idle_inhibitor` and `game_mode_destroy_idle_inhibitor`.
-/

namespace GameMode

/-! ### What is held -/

namespace InhibitorState

/-- The inhibitors that were created and not yet destroyed. -/
def held (s : InhibitorState) : Finset ℕ := (Finset.range s.created).filter (· ∉ s.destroyed)

/-- Every inhibitor was destroyed once, in order, but for the last one if it is in use. -/
def Tidy (s : InhibitorState) : Prop :=
  match s.idleInhibitor with
  | none => s.destroyed = List.range s.created
  | some inhibitor => s.created = inhibitor + 1 ∧ s.destroyed = List.range inhibitor

variable {s : InhibitorState}

theorem Tidy.destroyed_eq (h : s.Tidy) :
    s.destroyed = List.range (s.idleInhibitor.getD s.created) := by
  obtain ⟨_ | inhibitor, created, destroyed⟩ := s
  · exact h
  · exact h.2

theorem Tidy.getD_le_created (h : s.Tidy) : s.idleInhibitor.getD s.created ≤ s.created := by
  obtain ⟨_ | inhibitor, created, destroyed⟩ := s
  · exact le_rfl
  · exact h.1 ▸ Nat.le_succ inhibitor

theorem Tidy.nodup (h : s.Tidy) : s.destroyed.Nodup := by
  rw [h.destroyed_eq]
  exact List.nodup_range

theorem Tidy.lt_created (h : s.Tidy) {inhibitor : ℕ} (hinhibitor : inhibitor ∈ s.destroyed) :
    inhibitor < s.created := by
  rw [h.destroyed_eq, List.mem_range] at hinhibitor
  exact hinhibitor.trans_le h.getD_le_created

theorem Tidy.held_eq (h : s.Tidy) : s.held = s.idleInhibitor.toFinset := by
  obtain ⟨_ | inhibitor, created, destroyed⟩ := s
  · obtain rfl : destroyed = List.range created := h
    ext i
    simp [held]
  · obtain ⟨rfl, rfl⟩ : created = inhibitor + 1 ∧ destroyed = List.range inhibitor := h
    ext i
    simp only [held, Finset.mem_filter, Finset.mem_range, List.mem_range, Option.mem_toFinset,
      Option.mem_some_iff]
    omega

theorem Tidy.card_held (h : s.Tidy) :
    s.held.card = if s.idleInhibitor.isSome then 1 else 0 := by
  rw [h.held_eq, Option.card_toFinset]
  cases s.idleInhibitor with
  | none => rfl
  | some inhibitor => rfl

theorem Tidy.outstanding_eq (h : s.Tidy) : s.outstanding = s.held.card := by
  rw [h.card_held, outstanding, h.destroyed_eq, List.length_range]
  obtain ⟨_ | inhibitor, created, destroyed⟩ := s
  · simp
  · obtain rfl : created = inhibitor + 1 := h.1
    simp

theorem Tidy.destroyIdleInhibitor (h : s.Tidy) :
    s.destroyIdleInhibitor.destroyed = List.range s.created := by
  obtain ⟨_ | inhibitor, created, destroyed⟩ := s
  · exact h
  · obtain ⟨rfl, rfl⟩ : created = inhibitor + 1 ∧ destroyed = List.range inhibitor := h
    exact List.range_succ.symm

theorem destroyIdleInhibitor_created (s : InhibitorState) :
    s.destroyIdleInhibitor.created = s.created := by
  rw [InhibitorState.destroyIdleInhibitor]
  split <;> rfl

theorem Tidy.enter (h : s.Tidy) (config : Config) (ok : Bool) : (s.enter config ok).Tidy := by
  have hdestroyed := h.destroyIdleInhibitor
  rw [InhibitorState.enter]
  split_ifs
  · rw [createIdleInhibitor]
    split_ifs
    · refine ⟨rfl, ?_⟩
      rw [destroyIdleInhibitor_created]
      exact hdestroyed
    · change s.destroyIdleInhibitor.destroyed = List.range s.destroyIdleInhibitor.created
      rw [destroyIdleInhibitor_created]
      exact hdestroyed
  · exact h

theorem Tidy.leave (h : s.Tidy) (config : Config) : (s.leave config).Tidy := by
  rw [InhibitorState.leave]
  split_ifs
  · change s.destroyIdleInhibitor.destroyed = List.range s.destroyIdleInhibitor.created
    rw [destroyIdleInhibitor_created]
    exact h.destroyIdleInhibitor
  · exact h

theorem enter_isSome {config : Config} {ok : Bool} (h : s.idleInhibitor = none)
    (hsome : (s.enter config ok).idleInhibitor.isSome) : config.getInhibitScreensaver = true := by
  by_contra hoff
  rw [InhibitorState.enter, if_neg hoff, h] at hsome
  cases hsome

theorem leave_eq_none {config : Config}
    (h : s.idleInhibitor.isSome → config.getInhibitScreensaver = true) :
    (s.leave config).idleInhibitor = none := by
  rw [InhibitorState.leave]
  split_ifs with hon
  · rfl
  · exact Option.not_isSome_iff_eq_none.1 (mt h hon)

end InhibitorState

/-! ### Runs -/

variable (files : CpuSysfs)

/-- Everything else was destroyed, and an inhibitor is in use in game mode only, and only if the
configuration asks for one. -/
structure Phase.HoldsInhibitor (s : Phase) : Prop where
  tidy : s.settings.inhibitor.Tidy
  active : s.settings.inhibitor.idleInhibitor.isSome → s.active = true
  wanted : s.settings.inhibitor.idleInhibitor.isSome →
    s.settings.config.getInhibitScreensaver = true

namespace Phase.HoldsInhibitor

variable {s t : Phase}

theorem of_none (htidy : s.settings.inhibitor.Tidy)
    (hnone : s.settings.inhibitor.idleInhibitor = none) : s.HoldsInhibitor := by
  have hnot : ¬s.settings.inhibitor.idleInhibitor.isSome := Option.not_isSome_iff_eq_none.2 hnone
  exact ⟨htidy, fun hsome => absurd hsome hnot, fun hsome => absurd hsome hnot⟩

theorem idleInhibitor_eq_none (h : s.HoldsInhibitor) (hs : s.active = false) :
    s.settings.inhibitor.idleInhibitor = none := by
  rw [← Option.not_isSome_iff_eq_none]
  intro hsome
  rw [h.active hsome] at hs
  cases hs

/-- Every pivot preserves this. The configuration is read again outside of game mode only, where no
inhibitor is in use. -/
theorem pivotStep {p : Pivot} (h : s.HoldsInhibitor) (hstep : pivotStep files s p = some t) :
    t.HoldsInhibitor := by
  rcases pivotStep_cases files hstep with
    ⟨o, -, hs, rfl⟩ | ⟨o, -, -, rfl⟩ | ⟨env, -, hs, rfl⟩ | ⟨env, -, rfl⟩
  · have hnone := h.idleInhibitor_eq_none hs
    refine ⟨h.tidy.enter s.settings.config o.inhibit, fun _ => rfl, fun hsome => ?_⟩
    exact InhibitorState.enter_isSome hnone hsome
  · exact of_none (h.tidy.leave s.settings.config) (InhibitorState.leave_eq_none h.wanted)
  · exact of_none h.tidy (h.idleInhibitor_eq_none hs)
  · exact ⟨h.tidy, h.active, h.wanted⟩

end Phase.HoldsInhibitor

variable {w w' : World}

theorem Phase.HoldsInhibitor.contextStep (h : w.Consistent) (hholds : (Phase.of w).HoldsInhibitor)
    {a : ContextOp × Env} (hstep : contextStep files w a = some w') :
    (Phase.of w').HoldsInhibitor :=
  contextStep_of_pivots files h hstep (G := fun _ _ => True)
    (fun _ _ _ hs _ hpivot => hs.pivotStep files hpivot) (fun _ _ _ _ _ => trivial) hholds

/-- At most one inhibitor is held, and only while it is wanted. -/
structure World.InhibitsOnce (w : World) : Prop where
  /-- An inhibitor is held when one is in use, and no other. -/
  card_held : w.inhibitor.held.card = if w.inhibitor.idleInhibitor.isSome then 1 else 0
  /-- None is held without a client. -/
  of_no_client : w.clients = [] → w.inhibitor.held.card = 0
  /-- None is held under a configuration that disables it. -/
  of_disabled : w.config.getInhibitScreensaver = false → w.inhibitor.held.card = 0
  /-- No inhibitor is destroyed twice. -/
  nodup : w.inhibitor.destroyed.Nodup
  /-- Only what was created is destroyed. -/
  created : ∀ inhibitor ∈ w.inhibitor.destroyed, inhibitor < w.inhibitor.created

theorem Phase.HoldsInhibitor.inhibitsOnce (hconsistent : w.Consistent)
    (h : (Phase.of w).HoldsInhibitor) : w.InhibitsOnce := by
  have hcard : w.inhibitor.held.card = if w.inhibitor.idleInhibitor.isSome then 1 else 0 :=
    h.tidy.card_held
  refine ⟨hcard, fun hclients => ?_, fun hoff => ?_, h.tidy.nodup, ?_⟩
  · have hcount : w.refcount = 0 := by rw [hconsistent.refcount, hclients]; rfl
    rw [hcard, if_neg]
    intro hsome
    exact of_decide_eq_true (h.active hsome) hcount
  · rw [hcard, if_neg]
    intro hsome
    rw [show w.config.getInhibitScreensaver = true from h.wanted hsome] at hoff
    cases hoff
  · exact fun inhibitor hinhibitor => h.tidy.lt_created hinhibitor

/-- **One inhibition of the screensaver.** Whatever is configured, registered and removed, and
whichever creations fail, at most one inhibitor is held along a run, and none is destroyed twice. -/
theorem inhibitsOnce_along (allocated : Finset ℕ) (config : Config) (system : OriginalSystem)
    (run : List (ContextOp × Env)) :
    Runs.Along (contextStep files) (contextInit files allocated config system) run
      World.InhibitsOnce := by
  intro before _ w hexec
  have hw : w.Consistent ∧ (Phase.of w).HoldsInhibitor := by
    refine Runs.exec_invariant (I := fun w => w.Consistent ∧ (Phase.of w).HoldsInhibitor)
      ?_ ?_ hexec
    · intro w a w' hw hstep
      exact ⟨hw.1.contextStep files hstep, hw.2.contextStep files hw.1 hstep⟩
    · exact ⟨consistent_contextInit files allocated config system, .of_none rfl rfl⟩
  exact hw.2.inhibitsOnce hw.1

/-! ### The calls on the session bus -/

/-- The connections to the session bus, which are numbered as they are opened, and the inhibitions
that the screensaver keeps, each of a connection. -/
structure SessionBus where
  /-- How many connections were opened. -/
  opened : ℕ
  /-- The connections that are open. -/
  connections : Finset ℕ
  /-- The inhibitions, with their cookies. -/
  inhibitions : List (ℕ × UInt32)

/-- `GameModeIdleInhibitor`. -/
structure IdleInhibitor where
  /-- The connection. -/
  bus : ℕ
  /-- What the screensaver answered. -/
  cookie : UInt32

/-- How the calls that create an inhibitor come out. -/
structure InhibitCalls where
  /-- `sd_bus_open_user`. -/
  opened : Bool
  /-- What the screensaver keeps when `Inhibit` reaches it, also if the call then fails. -/
  kept : Option UInt32
  /-- `sd_bus_call_method`. -/
  called : Bool
  /-- `sd_bus_message_read`. -/
  reply : Option UInt32
  /-- `malloc`. -/
  allocated : Bool

/-- Whether the calls come to an inhibitor. -/
def InhibitCalls.succeed (calls : InhibitCalls) : Bool :=
  calls.opened && calls.called && calls.reply.isSome && calls.allocated

namespace SessionBus

/-- `sd_bus_open_user`. -/
def openUser (b : SessionBus) : SessionBus :=
  { b with opened := b.opened + 1, connections := insert b.opened b.connections }

/-- `Inhibit`, as far as it reaches the screensaver. -/
def inhibit (bus : ℕ) (kept : Option UInt32) (b : SessionBus) : SessionBus :=
  { b with inhibitions := kept.toList.map (bus, ·) ++ b.inhibitions }

/-- `UnInhibit`, when it succeeds. -/
def unInhibit (inhibitor : IdleInhibitor) (b : SessionBus) : SessionBus :=
  { b with inhibitions := b.inhibitions.filter (· ≠ (inhibitor.bus, inhibitor.cookie)) }

/-- `sd_bus_close`: the screensaver drops the inhibitions of the connection. -/
def close (bus : ℕ) (b : SessionBus) : SessionBus :=
  { b with
    connections := b.connections.erase bus
    inhibitions := b.inhibitions.filter (·.1 ≠ bus) }

/-- `game_mode_create_idle_inhibitor`. -/
def createIdleInhibitor (calls : InhibitCalls) (b : SessionBus) :
    Option IdleInhibitor × SessionBus :=
  if ¬calls.opened then (none, b)
  else
    let bus := b.opened
    let b := b.openUser.inhibit bus calls.kept
    if ¬calls.called then (none, b.close bus)
    else
      match calls.reply with
      | none => (none, b.close bus)
      | some cookie => if ¬calls.allocated then (none, b.close bus) else (some ⟨bus, cookie⟩, b)

/-- `game_mode_destroy_idle_inhibitor`: the connection is closed whether or not `UnInhibit`
succeeds. -/
def destroyIdleInhibitor (released : Bool) (inhibitor : Option IdleInhibitor) (b : SessionBus) :
    SessionBus :=
  match inhibitor with
  | none => b
  | some inhibitor => (if released then b.unInhibit inhibitor else b).close inhibitor.bus

/-- The connection of the inhibitor is the only one that is open, and the screensaver keeps at most
one inhibition, for it. -/
structure Keeps (b : SessionBus) (inhibitor : Option IdleInhibitor) : Prop where
  connections : b.connections = (inhibitor.map IdleInhibitor.bus).toFinset
  inhibitions : ∀ inhibition ∈ b.inhibitions, inhibition.1 ∈ b.connections
  length : b.inhibitions.length ≤ 1

variable {b : SessionBus} {inhibitor : Option IdleInhibitor}

theorem Keeps.inhibitions_eq_nil (h : b.Keeps none) : b.inhibitions = [] := by
  rw [List.eq_nil_iff_forall_not_mem]
  intro inhibition hmem
  have hconnection := h.inhibitions inhibition hmem
  rw [h.connections] at hconnection
  simp at hconnection

theorem keeps_close {bus : ℕ} (hconnections : b.connections = {bus})
    (hinhibitions : ∀ inhibition ∈ b.inhibitions, inhibition.1 ∈ b.connections) :
    (b.close bus).Keeps none := by
  have hnone : (b.close bus).inhibitions = [] := by
    refine List.filter_eq_nil_iff.2 fun inhibition hmem => ?_
    have hbus : inhibition.1 = bus := by simpa [hconnections] using hinhibitions inhibition hmem
    simp [hbus]
  have hclosed : (b.close bus).connections = ∅ := by simp [close, hconnections]
  refine ⟨hclosed, ?_, ?_⟩
  · simp [hnone]
  · simp [hnone]

theorem Keeps.destroyIdleInhibitor (h : b.Keeps inhibitor) (released : Bool) :
    (b.destroyIdleInhibitor released inhibitor).Keeps none := by
  cases inhibitor with
  | none => exact h
  | some inhibitor =>
    have hconnections : b.connections = {inhibitor.bus} := h.connections
    rw [SessionBus.destroyIdleInhibitor]
    split_ifs
    · refine keeps_close hconnections fun inhibition hmem => ?_
      exact h.inhibitions inhibition (List.mem_of_mem_filter hmem)
    · exact keeps_close hconnections h.inhibitions

theorem Keeps.openUser (h : b.Keeps none) (kept : Option UInt32) :
    (b.openUser.inhibit b.opened kept).connections = {b.opened} ∧
      (b.openUser.inhibit b.opened kept).inhibitions = kept.toList.map (b.opened, ·) := by
  simp [SessionBus.openUser, inhibit, h.connections, h.inhibitions_eq_nil]

/-- Whichever call fails, what is kept is the inhibition of the inhibitor that is returned. -/
theorem Keeps.createIdleInhibitor (h : b.Keeps none) (calls : InhibitCalls) :
    (b.createIdleInhibitor calls).2.Keeps (b.createIdleInhibitor calls).1 := by
  obtain ⟨hconnections, hinhibitions⟩ := h.openUser calls.kept
  have hown : ∀ inhibition ∈ (b.openUser.inhibit b.opened calls.kept).inhibitions,
      inhibition.1 ∈ (b.openUser.inhibit b.opened calls.kept).connections := by
    rw [hconnections, hinhibitions]
    intro inhibition hmem
    obtain ⟨cookie, -, rfl⟩ := List.mem_map.1 hmem
    exact Finset.mem_singleton_self _
  have hlength : (b.openUser.inhibit b.opened calls.kept).inhibitions.length ≤ 1 := by
    rw [hinhibitions, List.length_map]
    exact Option.length_toList_le
  rw [SessionBus.createIdleInhibitor]
  by_cases hopened : calls.opened = true
  · rw [if_neg (not_not.2 hopened)]
    by_cases hcalled : calls.called = true
    · rw [if_neg (not_not.2 hcalled)]
      cases calls.reply with
      | none => exact keeps_close hconnections hown
      | some cookie =>
        dsimp only
        by_cases hallocated : calls.allocated = true
        · rw [if_neg (not_not.2 hallocated)]
          exact ⟨hconnections, hown, hlength⟩
        · rw [if_pos hallocated]
          exact keeps_close hconnections hown
    · rw [if_pos hcalled]
      exact keeps_close hconnections hown
  · rw [if_pos hopened]
    exact h

theorem createIdleInhibitor_isSome (calls : InhibitCalls) (b : SessionBus) :
    (b.createIdleInhibitor calls).1.isSome = calls.succeed := by
  obtain ⟨opened, kept, called, reply, allocated⟩ := calls
  cases opened <;> cases called <;> cases reply <;> cases allocated <;> rfl

end SessionBus

/-- How the calls of a pivot come out. -/
structure BusCalls where
  /-- The calls that create an inhibitor. -/
  inhibit : InhibitCalls
  /-- `UnInhibit`. -/
  released : Bool

/-- The idle inhibitor with the session bus. -/
structure Inhibition where
  idleInhibitor : Option IdleInhibitor
  bus : SessionBus

namespace Inhibition

/-- No inhibitor, and no connection yet. -/
def start : Inhibition := ⟨none, 0, ∅, []⟩

/-- The inhibitor when game mode is entered. -/
def enter (config : Config) (calls : BusCalls) (s : Inhibition) : Inhibition :=
  if config.getInhibitScreensaver then
    let bus := s.bus.destroyIdleInhibitor calls.released s.idleInhibitor
    let created := bus.createIdleInhibitor calls.inhibit
    ⟨created.1, created.2⟩
  else s

/-- The inhibitor when game mode is left. -/
def leave (config : Config) (calls : BusCalls) (s : Inhibition) : Inhibition :=
  if config.getInhibitScreensaver then
    ⟨none, s.bus.destroyIdleInhibitor calls.released s.idleInhibitor⟩
  else s

end Inhibition

namespace Inhibition

/-- The screensaver keeps what the inhibitor stands for, and there is one when one is in use. -/
structure Refines (t : Inhibition) (s : InhibitorState) : Prop where
  keeps : t.bus.Keeps t.idleInhibitor
  isSome : t.idleInhibitor.isSome = s.idleInhibitor.isSome

variable {t : Inhibition} {s : InhibitorState}

theorem Refines.enter (h : t.Refines s) (config : Config) (calls : BusCalls) :
    (t.enter config calls).Refines (s.enter config calls.inhibit.succeed) := by
  rw [Inhibition.enter, InhibitorState.enter]
  split_ifs
  · have hdestroyed := h.keeps.destroyIdleInhibitor calls.released
    refine ⟨hdestroyed.createIdleInhibitor calls.inhibit, ?_⟩
    rw [SessionBus.createIdleInhibitor_isSome, InhibitorState.createIdleInhibitor]
    cases calls.inhibit.succeed with
    | false => rfl
    | true => rfl
  · exact h

theorem Refines.leave (h : t.Refines s) (config : Config) (calls : BusCalls) :
    (t.leave config calls).Refines (s.leave config) := by
  rw [Inhibition.leave, InhibitorState.leave]
  split_ifs
  · exact ⟨h.keeps.destroyIdleInhibitor calls.released, rfl⟩
  · exact h

theorem Refines.inhibitions_eq_nil (h : t.Refines s) (hnone : ¬s.idleInhibitor.isSome) :
    t.bus.inhibitions = [] := by
  have hkeeps := h.keeps
  rw [← h.isSome, Option.not_isSome_iff_eq_none] at hnone
  rw [hnone] at hkeeps
  exact hkeeps.inhibitions_eq_nil

end Inhibition

/-- The pivot with the creation of the inhibitor coming out as the calls do. -/
def Pivot.calling (calls : BusCalls) : Pivot → Pivot
  | .enter o => .enter { o with inhibit := calls.inhibit.succeed }
  | p => p

/-- What a pivot does to the inhibitor. -/
def Inhibition.follow (config : Config) (a : Pivot × BusCalls) (s : Inhibition) : Inhibition :=
  match a.1 with
  | .enter _ => s.enter config a.2
  | .leave _ => s.leave config a.2
  | _ => s

/-- The pivots with the calls on the session bus. -/
def busStep (s : Phase × Inhibition) (a : Pivot × BusCalls) : Option (Phase × Inhibition) :=
  (pivotStep files s.1 (a.1.calling a.2)).map (·, s.2.follow s.1.settings.config a)

/-- At most one inhibition is kept, and only while it is wanted. -/
structure OneInhibition (s : Phase × Inhibition) : Prop where
  length : s.2.bus.inhibitions.length ≤ 1
  of_inactive : s.1.active = false → s.2.bus.inhibitions = []
  of_disabled : s.1.settings.config.getInhibitScreensaver = false → s.2.bus.inhibitions = []

variable {s t : Phase × Inhibition} {a : Pivot × BusCalls}

/-- A step of the product is a pivot, and the calls follow it. -/
theorem busStep_refines (h : s.2.Refines s.1.settings.inhibitor)
    (hstep : busStep files s a = some t) :
    pivotStep files s.1 (a.1.calling a.2) = some t.1 ∧ t.2.Refines t.1.settings.inhibitor := by
  obtain ⟨p, calls⟩ := a
  obtain ⟨u, hpivot, rfl⟩ := Option.map_eq_some_iff.1 hstep
  refine ⟨hpivot, ?_⟩
  cases p with
  | enter o =>
    simp only [Pivot.calling, pivotStep, Option.ite_none_left_eq_some, Option.some_inj] at hpivot
    rw [← hpivot.2]
    exact h.enter s.1.settings.config calls
  | leave o =>
    simp only [Pivot.calling, pivotStep, Option.ite_none_right_eq_some, Option.some_inj] at hpivot
    rw [← hpivot.2]
    exact h.leave s.1.settings.config calls
  | reread env =>
    simp only [Pivot.calling, pivotStep, Option.ite_none_left_eq_some, Option.some_inj] at hpivot
    rw [← hpivot.2]
    exact h
  | energy env =>
    simp only [Pivot.calling, pivotStep, Option.some_inj] at hpivot
    rw [← hpivot]
    exact h

/-- At most one inhibition is kept along every run of the pivots, whichever calls fail. -/
theorem oneInhibition_along (allocated : Finset ℕ) (config : Config) (system : OriginalSystem)
    (run : List (Pivot × BusCalls)) :
    Runs.Along (busStep files) (startPhase files allocated config system, Inhibition.start) run
      OneInhibition := by
  intro before _ s hexec
  have hs : s.1.HoldsInhibitor ∧ s.2.Refines s.1.settings.inhibitor := by
    refine Runs.exec_invariant
      (I := fun s => s.1.HoldsInhibitor ∧ s.2.Refines s.1.settings.inhibitor) ?_ ?_ hexec
    · intro s a t hs hstep
      obtain ⟨hpivot, hrefines⟩ := busStep_refines files hs.2 hstep
      exact ⟨hs.1.pivotStep files hpivot, hrefines⟩
    · exact ⟨.of_none rfl rfl, ⟨⟨rfl, by simp [Inhibition.start], Nat.zero_le 1⟩, rfl⟩⟩
  obtain ⟨hholds, hrefines⟩ := hs
  refine ⟨hrefines.keeps.length, fun hinactive => ?_, fun hoff => ?_⟩
  · refine hrefines.inhibitions_eq_nil fun hsome => ?_
    rw [hholds.active hsome] at hinactive
    cases hinactive
  · refine hrefines.inhibitions_eq_nil fun hsome => ?_
    rw [hholds.wanted hsome] at hoff
    cases hoff

/-- The pivots of a run of the operations can be taken with any calls that come out as its creations
do. -/
theorem exec_busStep {run : List (Pivot × BusCalls)} :
    ∀ {s : Phase × Inhibition} {t : Phase},
      Runs.exec (pivotStep files) s.1 (run.map fun a => a.1.calling a.2) = some t →
      ∃ u, Runs.exec (busStep files) s run = some (t, u) := by
  induction run with
  | nil =>
    intro s t h
    obtain rfl : s.1 = t := Option.some_inj.1 h
    exact ⟨s.2, rfl⟩
  | cons a run ih =>
    intro s t h
    rw [List.map_cons, Runs.exec_cons, Option.bind_eq_some_iff] at h
    obtain ⟨u, hu, ht⟩ := h
    rw [Runs.exec_cons, busStep, hu]
    exact ih ht

/-- **The screensaver over runs of the operations.** After a run of the operations, with calls that
come out as its creations do, the screensaver keeps at most one inhibition. -/
theorem oneInhibition_of_exec {allocated : Finset ℕ} {config : Config} {system : OriginalSystem}
    {run : List (ContextOp × Env)} {w : World}
    (hexec : Runs.exec (contextStep files) (contextInit files allocated config system) run = some w)
    {calls : List (Pivot × BusCalls)}
    (hcalls : (calls.map fun a => a.1.calling a.2) =
      runPivots files (contextInit files allocated config system) run) :
    ∃ u, Runs.exec (busStep files)
        (startPhase files allocated config system, Inhibition.start) calls =
          some (Phase.of w, u) ∧ OneInhibition (Phase.of w, u) := by
  have hpivots := exec_runPivots files (consistent_contextInit files allocated config system) hexec
  rw [← hcalls] at hpivots
  obtain ⟨u, hu⟩ := exec_busStep files
    (s := (startPhase files allocated config system, Inhibition.start)) hpivots
  exact ⟨u, hu, (oneInhibition_along files allocated config system calls).exec hu⟩

end GameMode
