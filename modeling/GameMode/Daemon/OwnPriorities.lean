import GameMode.Daemon.Registry

/-!
# Threads with priorities of their own

Registering a game sets the nice value of those of its threads that have the default, and the IO
priority likewise; unregistering it resets the threads that have the configured values. Nothing
records which threads were changed: a thread that has the configured value from the start is taken
for one of them.

## Main definitions

* `LeftAlone`: a registration and its removal leave the priorities of a thread alone.
* `NiceTaken`, `IoTaken`: the removal takes the value of a thread for one that the registration set.

## Main results

* `contextRegister_threads_with`, `contextUnregister_threads_with`: both act on every thread by
  itself, whichever of the calls succeed.
* `leftAlone_iff`: when the priorities of a thread are left alone.

Source: `daemon/gamemode-sched.c`, `game_mode_apply_renice`; `daemon/gamemode-ioprio.c`,
`game_mode_apply_ioprio`; `daemon/gamemode-context.c`, `game_mode_apply_client_optimisations` and
`game_mode_remove_client_optimisations`.
-/

namespace GameMode

/-- The IO priority of a thread. -/
def Thread.io (t : Thread) : IoprioClass × ℤ := (t.ioClass, t.ioLevel)

/-- Nobody changes the priorities of the thread. -/
structure Thread.Kept (t t' : Thread) : Prop where
  owner : t'.owner = t.owner
  tid : t'.tid = t.tid
  nice : t'.nice = t.nice
  io : t'.io = t.io

/-- The priorities of a thread, which is `t` at first, `t₁` after its client was registered and `t₃`
after its client was unregistered, are left alone: both steps leave a value alone that is not the
default, and the second one what the first one left alone. -/
structure LeftAlone (t t₁ t₃ : Thread) : Prop where
  nice : t.nice ≠ 0 → t₁.nice = t.nice ∧ t₃.nice = t.nice
  io : t.ioLevel ≠ ioprioDefault → t₁.io = t.io ∧ t₃.io = t.io
  nice_of_unchanged : t₁.nice = t.nice → t₃.nice = t.nice
  io_of_unchanged : t₁.io = t.io → t₃.io = t.io

section Taken

variable (config : Config) (client : Pid)

/-- The removal resets a nice value that the thread has of its own. -/
def NiceTaken (removeCalls : SetCalls) (t : Thread) : Prop :=
  t.owner = client ∧ config.getReniceValue ≠ 0 ∧ t.nice = -config.getReniceValue ∧
    removeCalls.setpriority t.tid

/-- The removal resets an IO priority that the thread has of its own: one of another level than the
default, or one of another class that the registration failed to change. -/
def IoTaken (applyCalls removeCalls : SetCalls) (t : Thread) : Prop :=
  t.owner = client ∧ t.ioLevel = config.getIoprioValue ∧ removeCalls.ioprioSet t.tid ∧
    (t.ioLevel ≠ ioprioDefault ∨ applyCalls.ioprioSet t.tid = false ∧ t.ioClass ≠ .be)

variable {config client} {cpu cpu' : CpuState} {applyCalls removeCalls : SetCalls} {t t₂ : Thread}

/-- When a nice value is left alone. -/
theorem nice_leftAlone_iff (hkept : (t.optimiseWith config cpu client applyCalls).Kept t₂) :
    ((t.nice ≠ 0 → (t.optimiseWith config cpu client applyCalls).nice = t.nice ∧
          (t₂.restoreWith config cpu' client removeCalls).nice = t.nice) ∧
        ((t.optimiseWith config cpu client applyCalls).nice = t.nice →
          (t₂.restoreWith config cpu' client removeCalls).nice = t.nice)) ↔
      ¬NiceTaken config client removeCalls t := by
  have howner : t₂.owner = t.owner := hkept.owner
  have htid : t₂.tid = t.tid := hkept.tid
  simp only [NiceTaken, Thread.restoreWith, howner, htid, hkept.nice]
  simp only [Thread.optimiseWith]
  by_cases hown : t.owner = client
  · by_cases hrenice : config.getReniceValue = 0
    · simp [hrenice]
    · by_cases hzero : t.nice = 0
      · -- the registration changes a nice value of zero, or the removal leaves it alone
        have hne : (0 : ℤ) ≠ -config.getReniceValue := by omega
        by_cases hset : applyCalls.setpriority t.tid = true <;>
          simp [hown, hrenice, hzero, hne, hset]
      · by_cases hvalue : t.nice = -config.getReniceValue <;>
          by_cases hreset : removeCalls.setpriority t.tid = true <;>
          simp [hown, hrenice, hzero, hvalue, hreset]
  · simp [hown]

/-- When an IO priority is left alone. -/
theorem io_leftAlone_iff (hkept : (t.optimiseWith config cpu client applyCalls).Kept t₂) :
    ((t.ioLevel ≠ ioprioDefault → (t.optimiseWith config cpu client applyCalls).io = t.io ∧
          (t₂.restoreWith config cpu' client removeCalls).io = t.io) ∧
        ((t.optimiseWith config cpu client applyCalls).io = t.io →
          (t₂.restoreWith config cpu' client removeCalls).io = t.io)) ↔
      ¬IoTaken config client applyCalls removeCalls t := by
  have howner : t₂.owner = t.owner := hkept.owner
  have htid : t₂.tid = t.tid := hkept.tid
  obtain ⟨hclass, hlevel⟩ := Prod.mk.inj hkept.io
  simp only [IoTaken, Thread.io, Thread.restoreWith, howner, htid, hclass, hlevel, Prod.mk.injEq]
  simp only [Thread.optimiseWith]
  by_cases hown : t.owner = client
  · by_cases hdefault : t.ioLevel = ioprioDefault
    · by_cases hvalue : ioprioDefault = config.getIoprioValue
      · by_cases hset : applyCalls.ioprioSet t.tid = true <;>
          by_cases hreset : removeCalls.ioprioSet t.tid = true <;>
          by_cases hbe : IoprioClass.be = t.ioClass <;>
          simp [hown, hdefault, ← hvalue, hbe, @eq_comm _ t.ioClass, hset, hreset]
      · by_cases hset : applyCalls.ioprioSet t.tid = true <;>
          simp [hown, hdefault, hvalue, Ne.symm hvalue, hset]
    · by_cases hvalue : t.ioLevel = config.getIoprioValue
      · have hother : config.getIoprioValue ≠ ioprioDefault := hvalue ▸ hdefault
        by_cases hreset : removeCalls.ioprioSet t.tid = true <;>
          simp [hown, hvalue, hother, Ne.symm hother, hreset]
      · simp [hown, hdefault, hvalue]
  · simp [hown]

end Taken

/-! ### Registering and unregistering -/

section Context

variable {files : CpuSysfs} {env : Env} {client requester : Pid} {w w' : World}

/-- A registration that succeeds acts on every thread by itself. -/
theorem contextRegister_threads_with
    (h : contextRegister files env client requester w = (0, w')) :
    ∃ cpu : CpuState, w'.threads =
      w.threads.map (Thread.optimiseWith w.config cpu client (env.applyCalls client)) := by
  rcases contextRegister_cases files env client requester w with ⟨hne, -⟩ | ⟨cl, rfl, -, heq⟩
  · rw [h] at hne
    exact absurd rfl hne
  · rw [h, Prod.mk.injEq] at heq
    rw [heq.2, insertClient]
    split_ifs <;> exact ⟨_, applyClientOptimisations_eq_map_with ..⟩

/-- A removal that succeeds acts on every thread by itself. -/
theorem contextUnregister_threads_with
    (h : contextUnregister env client requester w = (0, w')) :
    ∃ cpu : CpuState, w'.threads =
      w.threads.map (Thread.restoreWith w.config cpu client (env.removeCalls client)) := by
  rcases contextUnregister_cases env client requester w with ⟨hne, -⟩ | ⟨w₀, hremove, heq⟩
  · rw [h] at hne
    exact absurd rfl hne
  · rw [h, Prod.mk.injEq] at heq
    rw [removeClient] at hremove
    split_ifs at hremove <;> cases hremove <;> rw [heq.2] <;>
      exact ⟨_, removeClientOptimisations_eq_map_with ..⟩

end Context

/-- **Own priorities.** A registration and its removal leave the priorities of a thread alone, while
nobody else changes them, just when the removal does not take a value of the thread for one that the
registration set. -/
theorem leftAlone_iff {files : CpuSysfs} {env env' : Env} {client requester requester' : Pid}
    {w w₁ w₂ w₃ : World} (hregister : contextRegister files env client requester w = (0, w₁))
    (hconfig : w₂.config = w.config)
    (hunregister : contextUnregister env' client requester' w₂ = (0, w₃)) {i : ℕ}
    {t t₁ t₂ : Thread} (ht : w.threads[i]? = some t) (ht₁ : w₁.threads[i]? = some t₁)
    (ht₂ : w₂.threads[i]? = some t₂) (hkept : t₁.Kept t₂) :
    (∃ t₃, w₃.threads[i]? = some t₃ ∧ LeftAlone t t₁ t₃) ↔
      ¬NiceTaken w.config client (env'.removeCalls client) t ∧
        ¬IoTaken w.config client (env.applyCalls client) (env'.removeCalls client) t := by
  obtain ⟨cpu, hthreads⟩ := contextRegister_threads_with hregister
  obtain ⟨cpu', hthreads'⟩ := contextUnregister_threads_with hunregister
  have happlied : t₁ = t.optimiseWith w.config cpu client (env.applyCalls client) := by
    rw [hthreads, List.getElem?_map, ht, Option.map_some, Option.some_inj] at ht₁
    exact ht₁.symm
  subst happlied
  rw [hthreads', List.getElem?_map, ht₂, hconfig, Option.map_some,
    ← @nice_leftAlone_iff w.config client cpu cpu' _ _ _ _ hkept,
    ← @io_leftAlone_iff w.config client cpu cpu' _ _ _ _ hkept]
  constructor
  · rintro ⟨t₃, ht₃, hleft⟩
    rw [Option.some_inj] at ht₃
    subst ht₃
    exact ⟨⟨hleft.nice, hleft.nice_of_unchanged⟩, ⟨hleft.io, hleft.io_of_unchanged⟩⟩
  · rintro ⟨⟨hnice, hniceOnly⟩, hio, hioOnly⟩
    exact ⟨_, rfl, hnice, hio, hniceOnly, hioOnly⟩

/-- A system with one thread of a game, which has a nice value of its own, and a configured renice
of ten. -/
private def ownNice (nice : ℤ) : World :=
  contextInit .unreadable ∅ (Config.initial.set (.long .renice) 10)
    (.plain "powersave".toList "balanced".toList {0, 1}
      [⟨5, 5, nice, .be, ioprioDefault, .other, {0, 1}⟩])

private def ownNiceRegistered (nice : ℤ) : World :=
  (contextRegister .unreadable (.succeeding Config.initial) 5 5 (ownNice nice)).2

/-- A nice value of its own that is not the configured one is left alone. -/
theorem leftAlone_of_other : ∃ w₁ w₃ t t₁ t₃,
    contextRegister .unreadable (.succeeding Config.initial) 5 5 (ownNice (-5)) = (0, w₁) ∧
      contextUnregister (.succeeding Config.initial) 5 5 w₁ = (0, w₃) ∧
      (ownNice (-5)).threads[0]? = some t ∧ w₁.threads[0]? = some t₁ ∧
      w₃.threads[0]? = some t₃ ∧ LeftAlone t t₁ t₃ := by
  have htaken : ¬NiceTaken (ownNice (-5)).config 5 .allSucceed
      ⟨5, 5, -5, .be, ioprioDefault, .other, {0, 1}⟩ := by
    rintro ⟨-, -, hnice, -⟩
    exact absurd hnice (by decide)
  have htaken' : ¬IoTaken (ownNice (-5)).config 5 .allSucceed .allSucceed
      ⟨5, 5, -5, .be, ioprioDefault, .other, {0, 1}⟩ := by
    rintro ⟨-, hlevel, -⟩
    exact absurd hlevel (by decide)
  obtain ⟨t₃, ht₃, hleft⟩ := (@leftAlone_iff .unreadable (.succeeding Config.initial)
    (.succeeding Config.initial) 5 5 5 (ownNice (-5)) (ownNiceRegistered (-5))
    (ownNiceRegistered (-5)) _ rfl rfl rfl 0 _ _ _ rfl rfl rfl ⟨rfl, rfl, rfl, rfl⟩).2
    ⟨htaken, htaken'⟩
  exact ⟨ownNiceRegistered (-5), _, _, _, t₃, rfl, rfl, rfl, rfl, ht₃, hleft⟩

/-- A nice value of its own that is the configured one is reset. -/
theorem not_leftAlone :
    ¬∀ (files : CpuSysfs) (env env' : Env) (client requester requester' : Pid)
      (w w₁ w₂ w₃ : World), contextRegister files env client requester w = (0, w₁) →
      w₂.config = w.config → contextUnregister env' client requester' w₂ = (0, w₃) →
      ∀ (i : ℕ) (t t₁ t₂ : Thread), w.threads[i]? = some t → w₁.threads[i]? = some t₁ →
      w₂.threads[i]? = some t₂ → t₁.Kept t₂ →
      ∃ t₃, w₃.threads[i]? = some t₃ ∧ LeftAlone t t₁ t₃ := by
  intro h
  obtain ⟨t₃, ht₃, hleft⟩ := h .unreadable (.succeeding Config.initial) (.succeeding Config.initial)
    5 5 5 (ownNice (-10)) (ownNiceRegistered (-10)) (ownNiceRegistered (-10)) _ rfl rfl rfl 0 _ _ _
    rfl rfl rfl ⟨rfl, rfl, rfl, rfl⟩
  have hreset : t₃.nice = 0 := by
    rw [← Option.some_inj.1 ht₃]
    rfl
  exact absurd ((hleft.nice (by decide)).2.symm.trans hreset) (by decide)

end GameMode
