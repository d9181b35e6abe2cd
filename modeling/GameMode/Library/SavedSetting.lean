import Mathlib.Tactic.Common

/-!
# Settings that are saved and restored

A program that changes a setting of its system and puts it back later keeps three things: the mode
that it believes the setting to be in, one of them being the default; the value that it saved; and,
outside of it, the setting itself. It saves the value of the setting while the mode is the default,
and it changes the mode only when setting the value succeeded.

The setting can be restored at any time as long as it is at its original value in the default mode,
and the original value is the one saved in any other mode. Nothing else is needed, so an attempt to
set the value may fail at any point.

## Main definitions

* `SavedSetting`, `SavedSetting.store`, `SavedSetting.set`.
* `SavedSetting.Restorable`: the invariant.

## Main results

* `SavedSetting.Restorable.store`, `SavedSetting.Restorable.saved_store`: saving.
* `SavedSetting.Restorable.set_default`, `SavedSetting.Restorable.set_of_saved`: setting.
-/

/-- A setting of type `S` whose values are saved as a `V`, in modes `M`. -/
structure SavedSetting (M V S : Type*) where
  /-- The mode that the setting is believed to be in. -/
  current : M
  /-- The value saved. -/
  saved : V
  /-- The setting itself. -/
  system : S
  deriving DecidableEq

namespace SavedSetting

variable {M V S : Type*} [DecidableEq M]

/-- Save the value of the setting, unless it is in another mode than the default. -/
def store (s : SavedSetting M V S) (default : M) (read : S → V) : SavedSetting M V S :=
  if s.current ≠ default then s else { s with saved := read s.system }

/-- Bring the setting to a mode, unless it is in that mode: whether that succeeded, and the state
afterwards. -/
def set (s : SavedSetting M V S) (mode : M) (system : S) (ok : Bool) :
    Bool × SavedSetting M V S :=
  if s.current = mode then (true, s)
  else if ok then (true, { s with current := mode, system := system })
  else (false, s)

/-- The setting is at its original value in the default mode, and the original value is the one
saved in any other mode. -/
structure Restorable (default : M) (IsOriginal : S → Prop) (original : V)
    (s : SavedSetting M V S) : Prop where
  system_of_eq : s.current = default → IsOriginal s.system
  saved_of_ne : s.current ≠ default → s.saved = original

section Store

variable (s : SavedSetting M V S) (default : M) (read : S → V)

@[simp] theorem store_current : (s.store default read).current = s.current := by
  rw [store]
  split_ifs <;> rfl

@[simp] theorem store_system : (s.store default read).system = s.system := by
  rw [store]
  split_ifs <;> rfl

end Store

section Set

variable (s : SavedSetting M V S) (mode : M) (system : S) (ok : Bool)

@[simp] theorem set_saved : (s.set mode system ok).2.saved = s.saved := by
  rw [set]
  split_ifs <;> rfl

/-- A set that succeeds leaves the setting in its mode. -/
theorem set_current_of_ok (h : (s.set mode system ok).1 = true) :
    (s.set mode system ok).2.current = mode := by
  rw [set] at h ⊢
  split_ifs at h ⊢ with hmode
  · exact hmode
  · rfl

/-- The mode afterwards is the one asked for, or the one before. -/
theorem set_current_eq_or :
    (s.set mode system ok).2.current = mode ∨ (s.set mode system ok).2.current = s.current := by
  rw [set]
  split_ifs
  · exact Or.inr rfl
  · exact Or.inl rfl
  · exact Or.inr rfl

/-- Another setting comes to the mode asked for exactly when the command succeeds. -/
theorem set_current_eq_iff (h : s.current ≠ mode) :
    (s.set mode system ok).2.current = mode ↔ ok = true := by
  rw [set, if_neg h]
  cases ok <;> simp [h]

/-- A command that succeeds brings the setting from another mode to the one asked for. -/
theorem set_of_ne (h : s.current ≠ mode) :
    s.set mode system true = (true, ⟨mode, s.saved, system⟩) := by
  rw [set, if_neg h, if_pos rfl]

/-- When the command succeeds, so does the set. -/
theorem set_fst_true : (s.set mode system true).1 = true := by
  rw [set]
  split_ifs with _ h
  · rfl
  · rfl
  · exact absurd rfl h

end Set

variable {default : M} {IsOriginal : S → Prop} {original : V} {s : SavedSetting M V S}

/-- Saving keeps the invariant when the original value is read back. -/
theorem Restorable.store (h : s.Restorable default IsOriginal original) (read : S → V) :
    (s.store default read).Restorable default IsOriginal original := by
  refine ⟨fun hcurrent => ?_, fun hcurrent => ?_⟩
  · rw [store_system]
    exact h.system_of_eq (by rwa [store_current] at hcurrent)
  · rw [store_current] at hcurrent
    rw [SavedSetting.store, if_pos hcurrent]
    exact h.saved_of_ne hcurrent

/-- After saving, the value saved is the original one. -/
theorem Restorable.saved_store (h : s.Restorable default IsOriginal original) {read : S → V}
    (hread : ∀ system, IsOriginal system → read system = original) :
    (s.store default read).saved = original := by
  by_cases hcurrent : s.current = default
  · rw [SavedSetting.store, if_neg (not_not_intro hcurrent)]
    exact hread _ (h.system_of_eq hcurrent)
  · rw [SavedSetting.store, if_pos hcurrent]
    exact h.saved_of_ne hcurrent

/-- Returning to the default mode keeps the invariant when the value set is the original one. -/
theorem Restorable.set_default (h : s.Restorable default IsOriginal original) {system : S}
    (hsystem : s.saved = original → IsOriginal system) (ok : Bool) :
    (s.set default system ok).2.Restorable default IsOriginal original := by
  rw [SavedSetting.set]
  split_ifs with hcurrent
  · exact h
  · exact ⟨fun _ => hsystem (h.saved_of_ne hcurrent), fun hne => absurd rfl hne⟩
  · exact h

/-- Going to any other mode keeps the invariant when the original value is saved. -/
theorem Restorable.set_of_saved (h : s.Restorable default IsOriginal original)
    (hsaved : s.saved = original) {mode : M} (hmode : mode ≠ default) (system : S) (ok : Bool) :
    (s.set mode system ok).2.Restorable default IsOriginal original := by
  rw [SavedSetting.set]
  split_ifs with hcurrent
  · exact h
  · exact ⟨fun heq => absurd heq hmode, fun _ => hsaved⟩
  · exact h

/-- Where the invariant holds, a return to the default mode that succeeds restores the setting. -/
theorem Restorable.isOriginal_of_set_default (h : s.Restorable default IsOriginal original)
    {system : S} (hsystem : s.saved = original → IsOriginal system) {ok : Bool}
    (hok : (s.set default system ok).1 = true) :
    IsOriginal (s.set default system ok).2.system :=
  (h.set_default hsystem ok).system_of_eq (set_current_of_ok s default system ok hok)

end SavedSetting
