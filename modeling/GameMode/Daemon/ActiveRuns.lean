import GameMode.Daemon.RegistryRuns
import Mathlib.Data.List.Chain

/-!
# Game mode over runs

Game mode is entered and left in turns. The first game enters it, the last one leaves it, and a
reload of the configuration leaves it and enters it again while games are registered, each in the
critical section that also changes or reads the list of the clients. So game mode is entered exactly
while there are clients.

A restart is the exception: it reads the count before it takes the lock. When the reaper removes the
last client in between, the restart leaves game mode a second time and enters it with no client
registered. Nothing else can go wrong: in every other run the turns alternate.

## Main definitions

* `World.turns`, `Alternates`: the turns in the log, and that they alternate.
* `Sys.ActiveExactly`: game mode is active exactly when there are clients.
* `Action.RestartsRegistered`: the critical section of a restart finds a client.

## Main results

* `activeInvariant_step`: the steps keep the invariant, except for a restart without a client.
* `not_alternates_of_restart`: a restart without a client breaks the turns.
* `activeExactly_along_iff`: the runs in which game mode is active exactly when there are clients.

Source: `daemon/gamemode-context.c`.
-/

namespace GameMode

/-! ### Turns -/

/-- The turn that an event is: `true` for entering, `false` for leaving. -/
def Event.turn : Event → Option Bool
  | .entering => some true
  | .leaving => some false
  | _ => none

/-- The turns in the log. -/
def World.turns (w : World) : List Bool := w.log.filterMap Event.turn

/-- Game mode is entered when that was the last turn. -/
def World.Entered (w : World) : Prop := w.turns.getLast?.getD false = true

/-- The turns alternate, and the first one enters: it is as if game mode had been left before. -/
def Alternates (turns : List Bool) : Prop := (false :: turns).IsChain (· ≠ ·)

instance (turns : List Bool) : Decidable (Alternates turns) :=
  inferInstanceAs (Decidable ((false :: turns).IsChain (· ≠ ·)))

/-- No request and no pass of the reaper is in progress. -/
def Sys.AtRest (s : Sys) : Prop := s.dbus = .idle ∧ (s.reaper = .loop ∨ s.reaper = .wait)

/-- Game mode is active exactly when there are clients: the turns alternate, and when no request
and no pass of the reaper is in progress, game mode is entered if and only if the list of the
clients is not empty. -/
structure Sys.ActiveExactly (s : Sys) : Prop where
  alternates : Alternates s.world.turns
  entered_iff : s.AtRest → (s.world.Entered ↔ s.world.clients ≠ [])

theorem alternates_concat (turns : List Bool) (turn : Bool) :
    Alternates (turns ++ [turn]) ↔ Alternates turns ∧ turns.getLast?.getD false ≠ turn := by
  rw [Alternates, ← List.cons_append, List.isChain_append, Alternates, List.getLast?_cons]
  simp

theorem turn_executeScripts (scripts : StringList) :
    (executeScripts scripts).filterMap Event.turn = [] := by
  rw [executeScripts, List.filterMap_map]
  exact List.filterMap_eq_nil_iff.2 fun _ _ => rfl

theorem turns_of_log {w w' : World} {events : List Event} (hlog : w'.log = w.log ++ events) :
    w'.turns = w.turns ++ events.filterMap Event.turn := by
  rw [World.turns, hlog, List.filterMap_append]
  rfl

theorem turns_say (w : World) {e : Event} (he : e.turn = none) : (w.say e).turns = w.turns := by
  rw [turns_of_log (rfl : (w.say e).log = w.log ++ [e]), List.filterMap_cons_none he]
  exact List.append_nil _

theorem turns_quiet {w w' : World} (h : Quiet w w') : w'.turns = w.turns := by
  obtain ⟨events, hlog, hevents⟩ := h.log
  rw [turns_of_log hlog, List.filterMap_eq_nil_iff.2, List.append_nil]
  intro e he
  cases e <;> first | rfl | exact absurd (hevents _ he) id

theorem turns_insertClient (files : CpuSysfs) (env : Env) (cl : Client) (w : World) :
    (insertClient files env cl w).turns = w.turns ++ if w.refcount = 0 then [true] else [] := by
  rw [turns_of_log (insertClient_log files env cl w)]
  split_ifs
  · exact congrArg (w.turns ++ true :: ·) (turn_executeScripts _)
  · rfl

theorem turns_removeClient {env : Env} {client : Pid} {w w' : World}
    (h : removeClient env client w = some w') :
    w'.turns = w.turns ++ if w.refcount = 1 then [false] else [] := by
  rw [turns_of_log (removeClient_log h)]
  split_ifs
  · exact congrArg (w.turns ++ false :: ·) (turn_executeScripts _)
  · rfl

theorem turns_leave_enter (leaveScripts enterScripts : StringList) :
    (.leaving :: executeScripts leaveScripts ++ .entering :: executeScripts enterScripts :
      List Event).filterMap Event.turn = [false, true] := by
  rw [List.filterMap_append]
  exact congrArg₂ (fun l l' => false :: l ++ true :: l') (turn_executeScripts _)
    (turn_executeScripts _)

theorem turns_restartSection (files : CpuSysfs) (env : Env) (w : World) :
    (restartSection files env w).turns = w.turns ++ [false, true] := by
  rw [turns_of_log (restartSection_log files env w), turns_leave_enter]

theorem turns_reloadConfigInternal (files : CpuSysfs) (env : Env) (w : World) :
    (reloadConfigInternal files env w).turns =
      w.turns ++ if w.refcount ≠ 0 then [false, true] else [] := by
  rw [turns_of_log (reloadConfigInternal_log files env w)]
  split_ifs
  · rw [turns_leave_enter]
  · rfl

/-! ### The critical sections -/

/-- The turns alternate, and game mode is entered exactly when there are clients. -/
structure World.Active (w : World) : Prop where
  alternates : Alternates w.turns
  entered_iff : w.Entered ↔ w.clients ≠ []

theorem active_contextInit (files : CpuSysfs) (allocated : Finset ℕ) (config : Config)
    (system : OriginalSystem) : (contextInit files allocated config system).Active := by
  refine ⟨(by decide : Alternates []), ?_⟩
  simp [World.Entered, World.turns, contextInit]

theorem entered_of_turns {w : World} {turns : List Bool} {turn : Bool}
    (h : w.turns = turns ++ [turn]) : w.Entered ↔ turn = true := by
  rw [World.Entered, h, List.getLast?_concat, Option.getD_some]

section Active

variable {w w' : World} (h : w.Active)
include h

theorem World.Active.last_ne_false (hclients : w.clients ≠ []) :
    w.turns.getLast?.getD false ≠ false := by
  rw [ne_eq, Bool.not_eq_false]
  exact h.entered_iff.2 hclients

theorem World.Active.of_turns_eq (hturns : w'.turns = w.turns)
    (hclients : w'.clients = [] ↔ w.clients = []) : w'.Active := by
  refine ⟨hturns ▸ h.alternates, ?_⟩
  rw [World.Entered, hturns, ne_eq, hclients]
  exact h.entered_iff

theorem World.Active.enter (hturns : w'.turns = w.turns ++ [true]) (hclients : w.clients = [])
    (hclients' : w'.clients ≠ []) : w'.Active := by
  refine ⟨?_, ?_⟩
  · rw [hturns, alternates_concat]
    exact ⟨h.alternates, fun hentered => h.entered_iff.1 hentered hclients⟩
  · rw [entered_of_turns hturns]
    exact ⟨fun _ => hclients', fun _ => rfl⟩

theorem World.Active.leave (hturns : w'.turns = w.turns ++ [false]) (hclients : w.clients ≠ [])
    (hclients' : w'.clients = []) : w'.Active := by
  refine ⟨?_, ?_⟩
  · rw [hturns, alternates_concat]
    exact ⟨h.alternates, h.last_ne_false hclients⟩
  · rw [entered_of_turns hturns]
    exact ⟨nofun, fun hne => absurd hclients' hne⟩

theorem World.Active.reenter (hturns : w'.turns = w.turns ++ [false, true])
    (hclients : w.clients ≠ []) (hclients' : w'.clients = w.clients) : w'.Active := by
  rw [List.append_cons] at hturns
  refine ⟨?_, ?_⟩
  · rw [hturns, alternates_concat, alternates_concat, List.getLast?_concat, Option.getD_some]
    exact ⟨⟨h.alternates, h.last_ne_false hclients⟩, Bool.false_ne_true⟩
  · rw [entered_of_turns hturns, hclients']
    exact ⟨fun _ => hclients, fun _ => rfl⟩

theorem active_insertClient (hconsistent : w.Consistent) (files : CpuSysfs) (env : Env)
    (cl : Client) : (insertClient files env cl w).Active := by
  have hclients := (insertClient_clients files env cl w).1
  have hturns := turns_insertClient files env cl w
  have hcount := hconsistent.refcount
  have hne : (insertClient files env cl w).clients ≠ [] := hclients ▸ List.cons_ne_nil cl _
  by_cases hzero : w.refcount = 0
  · rw [if_pos hzero] at hturns
    exact h.enter hturns (List.length_eq_zero_iff.1 (by omega)) hne
  · rw [if_neg hzero, List.append_nil] at hturns
    refine h.of_turns_eq hturns (iff_of_false hne fun hnil => hzero ?_)
    rw [hcount, hnil]
    rfl

theorem active_removeClient (hconsistent : w.Consistent) (hconsistent' : w'.Consistent) {env : Env}
    {client : Pid} (hremove : removeClient env client w = some w') : w'.Active := by
  obtain ⟨-, hrefcount⟩ := removeClient_clients hremove
  have hturns := turns_removeClient hremove
  have hcount := hconsistent.refcount
  have hcount' := hconsistent'.refcount
  by_cases hone : w.refcount = 1
  · rw [if_pos hone] at hturns
    refine h.leave hturns (List.length_pos_iff.1 (by omega)) (List.length_eq_zero_iff.1 (by omega))
  · rw [if_neg hone, List.append_nil] at hturns
    refine h.of_turns_eq hturns ?_
    rw [← List.length_eq_zero_iff, ← List.length_eq_zero_iff]
    omega

theorem active_restartSection (hclients : w.clients ≠ []) (files : CpuSysfs) (env : Env) :
    (restartSection files env w).Active :=
  h.reenter (turns_restartSection files env w) hclients rfl

theorem active_reloadConfigInternal (hconsistent : w.Consistent) (files : CpuSysfs) (env : Env) :
    (reloadConfigInternal files env w).Active := by
  have hclients := (reloadConfigInternal_clients files env w).1
  have hturns := turns_reloadConfigInternal files env w
  have hcount := hconsistent.refcount
  by_cases hzero : w.refcount = 0
  · rw [if_neg (not_not.2 hzero), List.append_nil] at hturns
    exact h.of_turns_eq hturns (by rw [hclients])
  · rw [if_pos hzero] at hturns
    exact h.reenter hturns (List.length_pos_iff.1 (by omega)) hclients

end Active

/-- **The defect.** A restart that finds no client leaves game mode when it is left already. -/
theorem not_alternates_of_restart {w w' : World} (h : w.Active) (hclients : w.clients = [])
    (hturns : w'.turns = w.turns ++ [false, true]) : ¬Alternates w'.turns := by
  rw [hturns, List.append_cons, alternates_concat, alternates_concat]
  rintro ⟨⟨-, hentered⟩, -⟩
  rw [ne_eq, Bool.not_eq_false] at hentered
  exact h.entered_iff.1 hentered hclients

/-! ### Runs -/

/-- The critical section of a restart finds a client: the step before it may have taken place when
there were clients that the reaper removed since. -/
def Action.RestartsRegistered (s : Sys) : Action → Prop
  | .dbus _ => s.dbus = .restart → s.world.clients ≠ []
  | _ => True

/-- The invariant of the system outside of such restarts. -/
structure Sys.ActiveInvariant (s : Sys) : Prop where
  registry : s.RegistryInvariant
  active : s.world.Active

theorem Sys.ActiveInvariant.activeExactly {s : Sys} (h : s.ActiveInvariant) : s.ActiveExactly :=
  ⟨h.active.alternates, fun _ => h.active.entered_iff⟩

variable {files : CpuSysfs}

/-- The steps keep the invariant, except for a restart without a client. -/
theorem activeInvariant_step (s : Sys) (a : Action) (s' : Sys) (h : s.ActiveInvariant)
    (ha : a.RestartsRegistered s) (hstep : step files s a = some s') : s'.ActiveInvariant := by
  have hregistry := registryInvariant_step s a s' h.registry hstep
  have hconsistent := h.registry.consistent
  refine ⟨hregistry, ?_⟩
  have hconsistent' := hregistry.consistent
  have heffect := step_effect hstep
  generalize s'.world = w at heffect hconsistent'
  cases heffect with
  | quiet hquiet => exact h.active.of_turns_eq (turns_quiet hquiet) (by rw [hquiet.clients])
  | listed hlist => exact h.active.of_turns_eq (turns_say _ rfl) Iff.rfl
  | counted => exact h.active.of_turns_eq (turns_say _ rfl) Iff.rfl
  | insert hpc => exact active_insertClient h.active hconsistent files _ _
  | remove hremove => exact active_removeClient h.active hconsistent hconsistent' hremove
  | restart hpc =>
    exact (active_restartSection h.active (ha hpc) files _).of_turns_eq (turns_say _ rfl) Iff.rfl
  | reload env => exact active_reloadConfigInternal h.active hconsistent files env

/-- A restart without a client can always be taken, and breaks the turns. -/
theorem exists_step_not_activeExactly (s : Sys) (a : Action) (h : s.ActiveInvariant)
    (ha : ¬a.RestartsRegistered s) : ∃ s', step files s a = some s' ∧ ¬s'.ActiveExactly := by
  cases a with
  | receive request => exact absurd trivial ha
  | reaper env => exact absurd trivial ha
  | dbus env =>
    simp only [Action.RestartsRegistered, Classical.not_imp, not_not] at ha
    obtain ⟨hpc, hclients⟩ := ha
    refine ⟨{ s with world := restartSection files env s.world }.proceed (.reply 0), ?_, ?_⟩
    · simp only [step, h.registry.asserted, dbusStep, hpc, Bool.false_eq_true, if_false]
    · intro hactive
      have hturns := (turns_say (restartSection files env s.world) (e := .replied 0) rfl).trans
        (turns_restartSection files env s.world)
      exact not_alternates_of_restart h.active hclients hturns hactive.alternates

/-- **Active exactly when there are clients.** The turns alternate along a run, and game mode is
entered whenever the list of the clients is not empty and nothing is in progress, exactly when every
restart of the run finds a client registered once it holds the lock. -/
theorem activeExactly_along_iff (allocated : Finset ℕ) (config : Config) (system : OriginalSystem)
    (actions : List Action) :
    Runs.Along (step files) (Sys.start (contextInit files allocated config system)) actions
        Sys.ActiveExactly ↔
      Runs.StepsAlong (step files) (Sys.start (contextInit files allocated config system)) actions
        fun s a => a.RestartsRegistered s := by
  have hstart : (Sys.start (contextInit files allocated config system)).ActiveInvariant :=
    ⟨⟨consistent_contextInit files allocated config system, nofun, rfl⟩,
      active_contextInit files allocated config system⟩
  constructor
  · exact Runs.stepsAlong_of_along activeInvariant_step exists_step_not_activeExactly hstart actions
  · intro h before hpart s hrun
    have hactive := Runs.along_of_stepsAlong activeInvariant_step hstart h before hpart s hrun
    exact hactive.activeExactly

/-- One game, and a restart that has read the count when the game dies. The reaper removes the game
before the restart takes the lock, and finishes its pass afterwards. -/
private def expiryInRestart : List Action :=
  [.receive (.call ⟨.register, 5, 5⟩)] ++ List.replicate 7 (.dbus (.succeeding Config.initial)) ++
    [.receive (.call ⟨.restart, 5, 5⟩)] ++ List.replicate 4 (.dbus (.succeeding Config.initial)) ++
    List.replicate 6 (.reaper { Env.succeeding Config.initial with alive := fun _ => false }) ++
    [.dbus (.succeeding Config.initial)] ++
    List.replicate 4 (.reaper (.succeeding Config.initial))

/-- The game expires inside of the restart: at the end game mode is entered without any client, and
nothing is in progress. -/
theorem not_activeExactly_of_expiry :
    ¬Runs.Along (step .unreadable)
        (Sys.start (contextInit .unreadable ∅ Config.initial
          (.plain "powersave".toList "balanced".toList ∅ [])))
        expiryInRestart Sys.ActiveExactly ∧
      ∃ s, Runs.exec (step .unreadable)
          (Sys.start (contextInit .unreadable ∅ Config.initial
            (.plain "powersave".toList "balanced".toList ∅ []))) expiryInRestart = some s ∧
        s.AtRest ∧ s.world.Entered ∧ s.world.clients = [] ∧
        s.world.turns = [true, false, false, true] := by
  refine ⟨fun h => ?_, _, rfl, ⟨rfl, Or.inl rfl⟩, rfl, rfl, rfl⟩
  exact absurd (h.exec rfl).alternates (by decide)

end GameMode
