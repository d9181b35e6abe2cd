import GameMode.Daemon.Sections
import GameMode.Library.Runs

/-!
# The registry over runs

The count of the context is the length of its list, and the list has no duplicates, whatever the
order of the steps of the two threads. The invariant concerns the D-Bus thread too: between the two
critical sections of a registration the game to be inserted is not in the list. Only the D-Bus
thread inserts, and it serves one request at a time.

## Main definitions

* `Sys.RegistryInvariant`: the invariant of the two threads.

## Main results

* `contextListClients_of_consistent`: the assertion of `game_mode_context_list_clients` holds.
* `registryInvariant_step`: the steps keep the invariant.

Source: `daemon/gamemode-context.c`, `daemon/gamemode-dbus.c`.
-/

namespace GameMode

/-! ### The critical sections -/

theorem listClientsFrom_eq_some {n : ℤ} : {i : ℕ} → {cs : List Client} →
    ((i + cs.length : ℕ) : ℤ) ≤ n → listClientsFrom n i cs = some (cs.map Client.pid)
  | _, [], _ => rfl
  | i, cl :: cs, h => by
    rw [List.length_cons] at h
    have hlt : (i : ℤ) < n := by omega
    have hrest : ((i + 1 + cs.length : ℕ) : ℤ) ≤ n := by omega
    rw [listClientsFrom, if_pos hlt, listClientsFrom_eq_some hrest]
    rfl

/-- The assertion of `game_mode_context_list_clients` holds when the registry is consistent. -/
theorem contextListClients_of_consistent {w : World} (h : w.Consistent) :
    contextListClients w = some w.pids :=
  listClientsFrom_eq_some (by rw [h.refcount, Nat.zero_add])

section Consistent

variable {w w' : World} (h : w.Consistent)
include h

theorem World.Consistent.of_same (hclients : w'.clients = w.clients)
    (hrefcount : w'.refcount = w.refcount) : w'.Consistent := by
  have hpids : w'.pids = w.pids := congrArg (List.map Client.pid) hclients
  refine ⟨?_, ?_⟩
  · rw [hrefcount, hclients, h.refcount]
  · rw [hpids]
    exact h.nodup

theorem World.Consistent.say (e : Event) : (w.say e).Consistent := ⟨h.refcount, h.nodup⟩

theorem World.Consistent.reloadConfigInternal (files : CpuSysfs) (env : Env) :
    (reloadConfigInternal files env w).Consistent := by
  obtain ⟨hclients, hrefcount⟩ := reloadConfigInternal_clients files env w
  exact h.of_same hclients hrefcount

end Consistent

/-! ### Runs -/

/-- The invariant of the system: the registry is consistent, the game that a registration is to
insert is not in it, and no assertion has failed. -/
structure Sys.RegistryInvariant (s : Sys) : Prop where
  consistent : s.world.Consistent
  pending : ∀ client ∈ s.dbus.pending, ¬s.world.IsRegistered client
  asserted : s.aborted = false

variable {files : CpuSysfs}

theorem Effect.consistent {s : Sys} {a : Action} {w : World} (heffect : Effect files s a w)
    (h : s.RegistryInvariant) : w.Consistent := by
  cases heffect with
  | quiet hquiet => exact h.consistent.of_same hquiet.clients hquiet.refcount
  | listed _ | counted => exact h.consistent.say _
  | insert hpc => exact h.consistent.insertClient files _ (h.pending _ (hpc ▸ rfl))
  | remove hremove => exact h.consistent.removeClient hremove
  | restart _ => exact h.consistent.of_same rfl rfl
  | reload env => exact h.consistent.reloadConfigInternal files env

/-- The steps keep the invariant. -/
theorem registryInvariant_step (s : Sys) (a : Action) (s' : Sys) (h : s.RegistryInvariant)
    (hstep : step files s a = some s') : s'.RegistryInvariant where
  consistent := (step_effect hstep).consistent h
  pending := step_pending hstep h.pending
  asserted :=
    step_aborted hstep (contextListClients_of_consistent h.consistent ▸ Option.some_ne_none _)

end GameMode
