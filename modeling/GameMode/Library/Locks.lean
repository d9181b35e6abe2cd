import Mathlib.Data.Fintype.Basic
import Mathlib.Data.Set.Finite.Lemmas
import Mathlib.Tactic.Common

/-!
# Threads that take locks

Threads run lists of operations on read-write locks. Between two steps of its own a thread takes
and releases locks, and a list says what it has still to do up to its next step and after it. A lock
is held by one thread for writing, or by any number of threads for reading, by each of them any
number of times. A mutex is a lock that is only taken for writing.

When a thread wants to read a lock that nobody writes, while another thread waits to write it, some
implementations of locks let the reader in and others do not.

The locks are ordered, and a thread takes a lock only while all other locks that it holds come
before it. Then the threads never wait for each other in a circle, provided that readers are let in:
a thread may hold a lock for reading and ask for it once more.

## Main definitions

* `Locks.RwLock`, `Locks.Mode`: the locks, and how a thread holds one.
* `Locks.Op`, `Locks.Threads`, `Locks.Threads.step`: the operations, the threads, and their steps.
* `Locks.Block`: what a thread does with the locks around a step of its own.
* `Locks.Threads.At`: a thread is on its way to the step of a block, or at it.

## Main results

* `Locks.exists_holder_not_waiting`: in the waits of an order somebody does not wait.
* `Locks.Threads.exists_proceeds`: somebody who holds a lock goes on.
* `Locks.Threads.At.exists_of_undefined`: only a lock that is destroyed while another thread holds
  it is used outside of its specification.
-/

namespace Locks

variable {ι L : Type*}

/-! ### Waiting in order -/

/-- **No circular waits.** If every lock that is wanted is held, and who wants a lock holds only
locks that come before it, then some thread that holds a lock wants none. -/
theorem exists_holder_not_waiting [Finite L] {holds wants : ι → L → Prop} {rank : L → ℕ}
    (hheld : ∀ t l, wants t l → ∃ u, holds u l)
    (horder : ∀ t l k, wants t l → holds t k → rank k < rank l) {t : ι} {l : L} (h : wants t l) :
    ∃ u, (∃ k, holds u k) ∧ ∀ k, ¬wants u k := by
  let wanted : Set L := {k | ∃ u, wants u k}
  obtain ⟨top, ⟨u, hu⟩, htop⟩ :=
    Set.exists_max_image wanted rank (Set.toFinite wanted) ⟨l, t, h⟩
  obtain ⟨owner, howner⟩ := hheld u top hu
  refine ⟨owner, ⟨top, howner⟩, fun k hk => ?_⟩
  have hlt : rank top < rank k := horder owner k top hk howner
  exact absurd (htop k ⟨owner, hk⟩) (not_le.2 hlt)

/-! ### Locks -/

/-- How a thread holds a lock: so many times for reading, or for writing. -/
inductive Mode
  | reading (count : ℕ)
  | writing
  deriving DecidableEq

/-- A read-write lock: so many readers in every thread, or one writer. -/
inductive RwLock (ι : Type*)
  | reading (count : ι → ℕ)
  | writing (owner : ι)

namespace RwLock

/-- A lock that nobody holds. -/
def free : RwLock ι := .reading fun _ => 0

variable [DecidableEq ι]

/-- How a thread holds the lock. -/
def mode (lock : RwLock ι) (t : ι) : Mode :=
  match lock with
  | .reading count => .reading (count t)
  | .writing owner => if owner = t then .writing else .reading 0

/-- Nobody holds the lock. -/
def IsFree (lock : RwLock ι) : Prop := ∀ t, lock.mode t = .reading 0

instance [Fintype ι] (lock : RwLock ι) : Decidable lock.IsFree :=
  inferInstanceAs (Decidable (∀ _, _))

/-- The lock with one more reader. -/
def rdlock (t : ι) : RwLock ι → Option (RwLock ι)
  | .reading count => some (.reading (Function.update count t (count t + 1)))
  | .writing _ => none

/-- The lock when a thread has released it once. -/
def unlock (t : ι) : RwLock ι → Option (RwLock ι)
  | .reading count =>
    if count t = 0 then none else some (.reading (Function.update count t (count t - 1)))
  | .writing owner => if owner = t then some free else none

@[simp] theorem mode_free (t : ι) : (free : RwLock ι).mode t = .reading 0 := rfl

/-- Two threads hold a lock together only for reading. -/
theorem mode_eq_of_writing {lock : RwLock ι} {t u : ι} (h : lock.mode t = .writing) (hu : u ≠ t) :
    lock.mode u = .reading 0 := by
  cases lock with
  | reading count => cases h
  | writing owner =>
    have howner : owner = t := by
      by_contra hne
      rw [mode, if_neg hne] at h
      cases h
    rw [mode, howner, if_neg hu.symm]

theorem rdlock_spec {lock lock' : RwLock ι} {t : ι} (h : lock.rdlock t = some lock') :
    (∃ n, lock.mode t = .reading n ∧ lock'.mode t = .reading (n + 1)) ∧
      ∀ u, u ≠ t → lock'.mode u = lock.mode u := by
  cases lock with
  | writing owner => cases h
  | reading count =>
    obtain rfl := Option.some.inj h
    refine ⟨⟨count t, rfl, ?_⟩, fun u hu => ?_⟩
    · rw [mode, Function.update_self]
    · rw [mode, mode, Function.update_of_ne hu]

theorem writing_spec {lock : RwLock ι} {t : ι} (h : lock.IsFree) :
    (writing t).mode t = .writing ∧ ∀ u, u ≠ t → (writing t).mode u = lock.mode u := by
  refine ⟨if_pos rfl, fun u hu => ?_⟩
  rw [h u]
  exact if_neg hu.symm

/-- What is left of a lock that a thread holds when it releases it once. -/
theorem unlock_spec {lock : RwLock ι} {t : ι} :
    (∀ n, lock.mode t = .reading (n + 1) → ∃ lock', lock.unlock t = some lock' ∧
        lock'.mode t = .reading n ∧ ∀ u, u ≠ t → lock'.mode u = lock.mode u) ∧
      (lock.mode t = .writing → ∃ lock', lock.unlock t = some lock' ∧
        lock'.mode t = .reading 0 ∧ ∀ u, u ≠ t → lock'.mode u = lock.mode u) := by
  cases lock with
  | reading count =>
    refine ⟨fun n hn => ?_, nofun⟩
    have hcount : count t = n + 1 := Mode.reading.inj hn
    refine ⟨.reading (Function.update count t n), ?_, ?_, fun u hu => ?_⟩
    · rw [unlock, hcount, if_neg n.succ_ne_zero, Nat.add_sub_cancel]
    · rw [mode, Function.update_self]
    · rw [mode, mode, Function.update_of_ne hu]
  | writing owner =>
    by_cases howner : owner = t
    · refine ⟨fun n hn => ?_, fun _ => ⟨free, if_pos howner, rfl, fun u hu => ?_⟩⟩
      · rw [mode, if_pos howner] at hn
        cases hn
      · rw [mode, howner, if_neg hu.symm]
        rfl
    · refine ⟨fun n hn => ?_, fun hw => ?_⟩
      · rw [mode, if_neg howner] at hn
        cases hn
      · rw [mode, if_neg howner] at hw
        cases hw

end RwLock

/-! ### Operations -/

/-- What a thread does with the locks. To write a lock it calls for it and then acquires it.
`renew` destroys a lock and initialises it again, and `reads` is any number of short sections in
which the lock is read. `act` is a step of the thread itself. -/
inductive Op (L : Type*)
  | rdlock (l : L)
  | wrlock (l : L)
  | acquire (l : L)
  | unlock (l : L)
  | renew (l : L)
  | reads (l : L)
  | act
  deriving DecidableEq

/-- A thread that holds the locks in the modes `h` holds no other lock that comes after `l`. -/
def Below (rank : L → ℕ) (h : L → Mode) (l : L) : Prop :=
  ∀ k, k ≠ l → h k ≠ .reading 0 → rank k < rank l

variable [DecidableEq L]

instance [Fintype L] (rank : L → ℕ) (h : L → Mode) (l : L) : Decidable (Below rank h l) :=
  inferInstanceAs (Decidable (∀ _, _))

section Operations

variable [Fintype L] (rank : L → ℕ)

/-- The modes in which a thread holds the locks after an operation, if the operation is allowed: it
takes locks in their order, it asks only for reading for a lock that it holds already, and it
releases what it holds. -/
def Op.next (h : L → Mode) : Op L → Option (L → Mode)
  | .rdlock l =>
    match h l with
    | .reading n =>
      if Below rank h l then some (Function.update h l (.reading (n + 1))) else none
    | .writing => none
  | .wrlock l | .acquire l =>
    if h l = .reading 0 ∧ Below rank h l then some (Function.update h l .writing) else none
  | .unlock l =>
    match h l with
    | .reading 0 => none
    | .reading (n + 1) => some (Function.update h l (.reading n))
    | .writing => some (Function.update h l (.reading 0))
  | .renew l => if h l = .reading 0 then some h else none
  | .reads l => if h l = .reading 0 ∧ Below rank h l then some h else none
  | .act => some h

/-- The modes in which a thread holds the locks after some operations. -/
def modesAfter (h : L → Mode) (ops : List (Op L)) : Option (L → Mode) := ops.foldlM (Op.next rank) h

variable {rank}

@[simp] theorem modesAfter_nil (h : L → Mode) : modesAfter rank h [] = some h := rfl

theorem modesAfter_cons (h : L → Mode) (op : Op L) (ops : List (Op L)) :
    modesAfter rank h (op :: ops) = (op.next rank h).bind fun h' => modesAfter rank h' ops := rfl

theorem modesAfter_append (h : L → Mode) (ops ops' : List (Op L)) :
    modesAfter rank h (ops ++ ops') =
      (modesAfter rank h ops).bind fun h' => modesAfter rank h' ops' := by
  simp only [modesAfter, List.foldlM_append]
  rfl

/-- A short section in which a lock is read leaves the modes as they were. -/
theorem modesAfter_reads {h : L → Mode} {l : L} (hfree : h l = .reading 0)
    (hbelow : Below rank h l) (ops : List (Op L)) :
    modesAfter rank h (.rdlock l :: .unlock l :: ops) = modesAfter rank h ops := by
  have hback : Function.update (Function.update h l (.reading 1)) l (.reading 0) = h := by
    rw [Function.update_idem, ← hfree, Function.update_eq_self]
  simp [modesAfter_cons, Op.next, hfree, hbelow, hback]

variable (rank) in
/-- What a thread does with the locks before and after a step of its own. -/
structure Block where
  /-- The operations before the step. -/
  before : List (Op L)
  /-- The modes in which the locks are held in the step. -/
  held : L → Mode
  /-- The operations after the step. -/
  after : List (Op L)
  before_held : modesAfter rank (fun _ => .reading 0) before = some held := by decide
  after_held : modesAfter rank held after = some (fun _ => .reading 0) := by decide
  act_notMem_before : Op.act ∉ before := by decide
  act_notMem_after : Op.act ∉ after := by decide
  renew_notMem_after : ∀ l, Op.renew l ∉ after := by decide

/-- The operations of a block. -/
def Block.ops (b : Block rank) : List (Op L) := b.before ++ .act :: b.after

end Operations

/-! ### Threads -/

/-- What the threads have still to do, and the locks. -/
structure Threads (ι L : Type*) where
  /-- The operations that a thread has still to do. -/
  todo : ι → List (Op L)
  /-- The locks. -/
  locks : L → RwLock ι

/-- Who goes first when a thread waits to write a lock and another one wants to read it. -/
inductive Preference
  | readers
  | writers
  deriving DecidableEq

/-- What comes of an operation: the thread waits, it uses a lock outside of its specification, or it
goes on. -/
inductive Result (σ : Type*)
  | blocked
  | undefined
  | done (next : σ)

namespace Threads

variable [DecidableEq ι]

/-- How a thread holds the locks. -/
def mode (s : Threads ι L) (t : ι) (l : L) : Mode := (s.locks l).mode t

/-- A thread with other operations to do. -/
def goto (s : Threads ι L) (t : ι) (ops : List (Op L)) : Threads ι L :=
  { s with todo := Function.update s.todo t ops }

/-- A lock in another state, and the operations that are left. -/
def pass (s : Threads ι L) (t : ι) (l : L) (lock : RwLock ι) (rest : List (Op L)) : Threads ι L :=
  { todo := Function.update s.todo t rest, locks := Function.update s.locks l lock }

omit [DecidableEq L] in
theorem mode_goto (s : Threads ι L) (t : ι) (ops : List (Op L)) : (s.goto t ops).mode = s.mode :=
  rfl

omit [DecidableEq L] in
theorem todo_goto (s : Threads ι L) (t : ι) (ops : List (Op L)) : (s.goto t ops).todo t = ops := by
  show Function.update s.todo t ops t = ops
  rw [Function.update_self]

/-- A lock that changes for one thread only. -/
theorem pass_spec {s : Threads ι L} {t : ι} {l : L} {lock : RwLock ι} (rest : List (Op L))
    (hother : ∀ u, u ≠ t → lock.mode u = (s.locks l).mode u) :
    (∀ u, u ≠ t → (s.pass t l lock rest).todo u = s.todo u ∧
        (s.pass t l lock rest).mode u = s.mode u) ∧
      (s.pass t l lock rest).todo t = rest ∧
      (s.pass t l lock rest).mode t = Function.update (s.mode t) l (lock.mode t) := by
  have hmode : ∀ u, (s.pass t l lock rest).mode u = Function.update (s.mode u) l (lock.mode u) := by
    intro u
    funext k
    by_cases hk : k = l
    · subst hk
      simp [mode, pass]
    · simp [mode, pass, hk]
  refine ⟨fun u hu => ⟨Function.update_of_ne hu _ _, ?_⟩, Function.update_self _ _ _, hmode t⟩
  rw [hmode u, hother u hu]
  exact Function.update_eq_self l (s.mode u)

/-- A lock that nobody writes may be read: always, or only while no thread waits to write it. -/
def MayRead (pref : Preference) (s : Threads ι L) (l : L) : Prop :=
  pref = .readers ∨ ∀ t, (s.todo t).head? ≠ some (.acquire l)

variable [Fintype ι]

instance (pref : Preference) (s : Threads ι L) (l : L) : Decidable (s.MayRead pref l) :=
  inferInstanceAs (Decidable (_ ∨ ∀ _, _))

/-- The next operation of a thread. -/
def step (pref : Preference) (t : ι) (s : Threads ι L) : Result (Threads ι L) :=
  match s.todo t with
  | [] => .blocked
  | .rdlock l :: rest =>
    if s.MayRead pref l then
      match (s.locks l).rdlock t with
      | some lock => .done (s.pass t l lock rest)
      | none => .blocked
    else .blocked
  | .wrlock l :: rest => .done (s.goto t (.acquire l :: rest))
  | .acquire l :: rest =>
    if (s.locks l).IsFree then .done (s.pass t l (.writing t) rest) else .blocked
  | .unlock l :: rest =>
    match (s.locks l).unlock t with
    | some lock => .done (s.pass t l lock rest)
    | none => .undefined
  | .renew l :: rest => if (s.locks l).IsFree then .done (s.pass t l .free rest) else .undefined
  | .reads _ :: rest | .act :: rest => .done (s.goto t rest)

/-- One more of the sections that `reads` stands for. -/
def again (t : ι) (s : Threads ι L) : Option (Threads ι L) :=
  match s.todo t with
  | .reads l :: rest => some (s.goto t (.rdlock l :: .unlock l :: .reads l :: rest))
  | _ => none

variable [Fintype L] {rank : L → ℕ}

/-- **Steps.** An operation that is allowed does to the modes of its thread what it should, and
nothing to the other threads. -/
theorem step_done {pref : Preference} {s s' : Threads ι L} {t : ι} {op : Op L} {rest : List (Op L)}
    {h' : L → Mode} (htodo : s.todo t = op :: rest) (hnext : op.next rank (s.mode t) = some h')
    (h : s.step pref t = .done s') :
    (∀ u, u ≠ t → s'.todo u = s.todo u ∧ s'.mode u = s.mode u) ∧
      (s'.todo t = rest ∧ s'.mode t = h' ∨
        ∃ l, op = .wrlock l ∧ s'.todo t = .acquire l :: rest ∧ s'.mode t = s.mode t) := by
  have hgoto : ∀ ops : List (Op L), ∀ u, u ≠ t →
      (s.goto t ops).todo u = s.todo u ∧ (s.goto t ops).mode u = s.mode u :=
    fun ops u hu => ⟨Function.update_of_ne hu _ _, rfl⟩
  cases op with
  | rdlock l =>
    simp only [step, htodo] at h
    split_ifs at h
    split at h
    · rename_i lock hlock
      obtain ⟨⟨n, hbefore, hafter⟩, hother⟩ := RwLock.rdlock_spec hlock
      obtain ⟨hframe, hrest, hmode⟩ := pass_spec rest hother
      rw [Result.done.injEq] at h
      subst h
      refine ⟨hframe, Or.inl ⟨hrest, ?_⟩⟩
      have hmodel : s.mode t l = .reading n := hbefore
      simp only [Op.next, hmodel, Option.ite_none_right_eq_some, Option.some.injEq] at hnext
      rw [hmode, hafter, hnext.2]
    · cases h
  | wrlock l =>
    simp only [step, htodo, Result.done.injEq] at h
    subst h
    exact ⟨hgoto _, Or.inr ⟨l, rfl, todo_goto _ _ _, rfl⟩⟩
  | acquire l =>
    simp only [step, htodo] at h
    split_ifs at h with hfree
    rw [Result.done.injEq] at h
    subst h
    obtain ⟨hafter, hother⟩ := RwLock.writing_spec (t := t) hfree
    obtain ⟨hframe, hrest, hmode⟩ := pass_spec rest hother
    refine ⟨hframe, Or.inl ⟨hrest, ?_⟩⟩
    simp only [Op.next, Option.ite_none_right_eq_some, Option.some.injEq] at hnext
    rw [hmode, hafter, hnext.2]
  | unlock l =>
    have hpass : ∃ lock, (s.locks l).unlock t = some lock ∧
        (∀ u, u ≠ t → lock.mode u = (s.locks l).mode u) ∧
        Function.update (s.mode t) l (lock.mode t) = h' := by
      simp only [Op.next] at hnext
      split at hnext
      · cases hnext
      · rename_i n hmodel
        obtain ⟨lock, hlock, hafter, hother⟩ := RwLock.unlock_spec.1 n hmodel
        exact ⟨lock, hlock, hother, by rw [hafter]; exact Option.some.inj hnext⟩
      · rename_i hmodel
        obtain ⟨lock, hlock, hafter, hother⟩ := RwLock.unlock_spec.2 hmodel
        exact ⟨lock, hlock, hother, by rw [hafter]; exact Option.some.inj hnext⟩
    obtain ⟨lock, hlock, hother, hmode'⟩ := hpass
    simp only [step, htodo, hlock, Result.done.injEq] at h
    subst h
    obtain ⟨hframe, hrest, hmode⟩ := pass_spec rest hother
    exact ⟨hframe, Or.inl ⟨hrest, hmode.trans hmode'⟩⟩
  | renew l =>
    simp only [step, htodo] at h
    split_ifs at h with hfree
    rw [Result.done.injEq] at h
    subst h
    have hother : ∀ u, u ≠ t → (RwLock.free : RwLock ι).mode u = (s.locks l).mode u :=
      fun u _ => (hfree u).symm
    obtain ⟨hframe, hrest, hmode⟩ := pass_spec rest hother
    refine ⟨hframe, Or.inl ⟨hrest, ?_⟩⟩
    simp only [Op.next, Option.ite_none_right_eq_some, Option.some.injEq] at hnext
    rw [hmode, RwLock.mode_free, ← hnext.1, Function.update_eq_self]
    exact hnext.2
  | reads l =>
    simp only [step, htodo, Result.done.injEq] at h
    subst h
    simp only [Op.next, Option.ite_none_right_eq_some, Option.some.injEq] at hnext
    exact ⟨hgoto _, Or.inl ⟨todo_goto _ _ _, hnext.2⟩⟩
  | act =>
    simp only [step, htodo, Result.done.injEq] at h
    subst h
    exact ⟨hgoto _, Or.inl ⟨todo_goto _ _ _, Option.some.inj hnext⟩⟩

/-- A thread goes outside of the specification of a lock only when it destroys one that somebody
holds. -/
theorem exists_of_undefined {pref : Preference} {s : Threads ι L} {t : ι} {op : Op L}
    {rest : List (Op L)} {h' : L → Mode} (htodo : s.todo t = op :: rest)
    (hnext : op.next rank (s.mode t) = some h') (h : s.step pref t = .undefined) :
    ∃ l u, op = .renew l ∧ u ≠ t ∧ s.mode u l ≠ .reading 0 := by
  cases op <;> simp only [step, htodo, reduceCtorEq] at h
  case rdlock l =>
    split_ifs at h
    split at h <;> cases h
  case acquire l =>
    split_ifs at h
  case unlock l =>
    simp only [Op.next] at hnext
    split at hnext
    · cases hnext
    · rename_i n hmodel
      obtain ⟨lock, hlock, -⟩ := RwLock.unlock_spec.1 n hmodel
      simp only [hlock, reduceCtorEq] at h
    · rename_i hmodel
      obtain ⟨lock, hlock, -⟩ := RwLock.unlock_spec.2 hmodel
      simp only [hlock, reduceCtorEq] at h
  case renew l =>
    split_ifs at h with hfree
    obtain ⟨u, hu⟩ := not_forall.1 hfree
    refine ⟨l, u, rfl, fun hut => ?_, hu⟩
    simp only [Op.next, Option.ite_none_right_eq_some] at hnext
    exact hu (hut ▸ hnext.1)

/-- **Waiting.** Where readers are let in, a thread that waits wants a lock that somebody else
holds, and all locks that it holds come before that lock. -/
theorem wants_of_blocked {s : Threads ι L} {t : ι} {op : Op L} {rest : List (Op L)} {h' : L → Mode}
    (htodo : s.todo t = op :: rest) (hnext : op.next rank (s.mode t) = some h')
    (h : s.step .readers t = .blocked) :
    ∃ l, (∃ u, s.mode u l ≠ .reading 0) ∧ ∀ k, s.mode t k ≠ .reading 0 → rank k < rank l := by
  have hbelow : ∀ l, s.mode t l = .reading 0 → Below rank (s.mode t) l →
      ∀ k, s.mode t k ≠ .reading 0 → rank k < rank l := by
    intro l hfree hl k hk
    refine hl k (fun hkl => ?_) hk
    exact hk (hkl ▸ hfree)
  cases op <;> simp only [step, htodo, reduceCtorEq] at h
  case rdlock l =>
    simp only [MayRead, true_or, if_true] at h
    split at h
    · cases h
    · rename_i hlock
      cases hl : s.locks l with
      | reading count =>
        rw [hl] at hlock
        cases hlock
      | writing owner =>
        -- The thread may read the lock already, but then nobody writes it.
        have howner : s.mode owner l = .writing := by
          rw [mode, hl]
          exact if_pos rfl
        simp only [Op.next] at hnext
        split at hnext
        · rename_i n hmodel
          have hne : t ≠ owner := by
            rintro rfl
            rw [howner] at hmodel
            cases hmodel
          have hfree : s.mode t l = .reading 0 := RwLock.mode_eq_of_writing howner hne
          rw [Option.ite_none_right_eq_some] at hnext
          exact ⟨l, ⟨owner, by simp [howner]⟩, hbelow l hfree hnext.1⟩
        · cases hnext
  case acquire l =>
    split_ifs at h with hfree
    obtain ⟨u, hu⟩ := not_forall.1 hfree
    simp only [Op.next, Option.ite_none_right_eq_some] at hnext
    exact ⟨l, ⟨u, hu⟩, hbelow l hnext.1.1 hnext.1.2⟩
  case unlock l =>
    split at h <;> cases h
  case renew l =>
    split_ifs at h

/-! ### Threads that keep to their blocks -/

/-- A thread is on its way to the step of the block, or at it: it has still to do some operations
before the step and all those after it, and with these it comes to hold the locks as the block says.
The locks that it may still destroy are those of the block. -/
def At (s : Threads ι L) (t : ι) (b : Block rank) : Prop :=
  ∃ pre, s.todo t = pre ++ .act :: b.after ∧ .act ∉ pre ∧
    modesAfter rank (s.mode t) pre = some b.held ∧ ∀ l, .renew l ∈ pre → .renew l ∈ b.before

variable {b : Block rank} {s s' : Threads ι L} {t : ι}

omit [Fintype ι] in
/-- What a thread is at depends on its own operations and modes. -/
theorem At.congr (h : s.At t b) (htodo : s'.todo t = s.todo t) (hmode : s'.mode t = s.mode t) :
    s'.At t b := by
  obtain ⟨pre, hpre, hact, hheld, hrenew⟩ := h
  exact ⟨pre, htodo.trans hpre, hact, hmode ▸ hheld, hrenew⟩

omit [Fintype ι] in
/-- At the step of its block a thread holds the locks as the block says. -/
theorem At.of_act {rest : List (Op L)} (h : s.At t b) (htodo : s.todo t = .act :: rest) :
    rest = b.after ∧ s.mode t = b.held := by
  obtain ⟨pre, hpre, hact, hheld, -⟩ := h
  cases pre with
  | nil =>
    rw [htodo] at hpre
    exact ⟨List.tail_eq_of_cons_eq hpre, Option.some.inj hheld⟩
  | cons op pre =>
    rw [htodo] at hpre
    have hop : op = .act := (List.head_eq_of_cons_eq hpre).symm
    exact absurd (hop ▸ List.mem_cons_self) hact

omit [Fintype ι] in
/-- The next operation of a thread is allowed. -/
theorem At.next (h : s.At t b) :
    ∃ op rest h', s.todo t = op :: rest ∧ op.next rank (s.mode t) = some h' := by
  obtain ⟨pre, hpre, -, hheld, -⟩ := h
  cases pre with
  | nil => exact ⟨_, _, s.mode t, hpre, rfl⟩
  | cons op pre =>
    rw [modesAfter_cons, Option.bind_eq_some_iff] at hheld
    obtain ⟨h', hnext, -⟩ := hheld
    exact ⟨op, _, h', hpre, hnext⟩

omit [Fintype ι] in
/-- After the step of its block a thread is on its way to the step of the next one. -/
theorem at_of_after {b' : Block rank} (htodo : s.todo t = b.after ++ b'.ops)
    (hmode : s.mode t = b.held) : s.At t b' := by
  refine ⟨b.after ++ b'.before, by rw [htodo, Block.ops, List.append_assoc], ?_, ?_, ?_⟩
  · rw [List.mem_append, not_or]
    exact ⟨b.act_notMem_after, b'.act_notMem_before⟩
  · rw [hmode, modesAfter_append, b.after_held, Option.bind_some, b'.before_held]
  · intro l hl
    exact (List.mem_append.1 hl).resolve_left (b.renew_notMem_after l)

/-- A thread stays on its way with every operation before the step. -/
theorem At.step {pref : Preference} (h : s.At t b) (hhead : (s.todo t).head? ≠ some .act)
    (hstep : s.step pref t = .done s') :
    s'.At t b ∧ ∀ u, u ≠ t → s'.todo u = s.todo u ∧ s'.mode u = s.mode u := by
  obtain ⟨pre, hpre, hact, hheld, hrenew⟩ := h
  cases pre with
  | nil => exact absurd (by rw [hpre]; rfl) hhead
  | cons op pre =>
    rw [modesAfter_cons, Option.bind_eq_some_iff] at hheld
    obtain ⟨h', hnext, hheld⟩ := hheld
    rw [List.mem_cons, not_or] at hact
    have hrest : ∀ l, .renew l ∈ pre → .renew l ∈ b.before :=
      fun l hl => hrenew l (List.mem_cons_of_mem op hl)
    obtain ⟨hframe, hdone⟩ := step_done hpre hnext hstep
    refine ⟨?_, hframe⟩
    rcases hdone with ⟨htodo, hmode⟩ | ⟨l, rfl, htodo, hmode⟩
    · exact ⟨pre, htodo, hact.2, hmode ▸ hheld, hrest⟩
    · -- The thread has called for the lock, and has still to acquire it.
      refine ⟨.acquire l :: pre, htodo, ?_, ?_, fun k hk => hrest k ?_⟩
      · rw [List.mem_cons, not_or]
        exact ⟨nofun, hact.2⟩
      · rw [hmode, modesAfter_cons]
        exact Option.bind_eq_some_iff.2 ⟨h', hnext, hheld⟩
      · exact (List.mem_cons.1 hk).resolve_left nofun

omit [Fintype ι] in
/-- A thread stays on its way when it reads a lock once more. -/
theorem At.again (h : s.At t b) (hagain : s.again t = some s') :
    s'.At t b ∧ ∀ u, u ≠ t → s'.todo u = s.todo u ∧ s'.mode u = s.mode u := by
  obtain ⟨pre, hpre, hact, hheld, hrenew⟩ := h
  cases pre with
  | nil =>
    simp only [Threads.again, hpre, List.nil_append, reduceCtorEq] at hagain
  | cons op pre =>
    cases op <;> simp only [Threads.again, hpre, List.cons_append, reduceCtorEq,
      Option.some.injEq] at hagain
    case reads l =>
      subst hagain
      refine ⟨⟨.rdlock l :: .unlock l :: .reads l :: pre, todo_goto _ _ _, ?_, ?_, ?_⟩,
        fun u hu => ⟨Function.update_of_ne hu _ _, rfl⟩⟩
      · simpa using hact
      · have hreads := hheld
        rw [modesAfter_cons, Option.bind_eq_some_iff] at hreads
        obtain ⟨h', hnext, -⟩ := hreads
        simp only [Op.next, Option.ite_none_right_eq_some] at hnext
        rw [mode_goto, modesAfter_reads hnext.1.1 hnext.1.2]
        exact hheld
      · intro k hk
        exact hrenew k (by simpa using hk)

/-- **Lost locks.** A thread goes outside of the specification of a lock only at an operation of its
block that destroys a lock, while another thread holds that lock. -/
theorem At.exists_of_undefined {pref : Preference} (h : s.At t b)
    (hstep : s.step pref t = .undefined) :
    ∃ l u, .renew l ∈ b.before ∧ u ≠ t ∧ s.mode u l ≠ .reading 0 := by
  obtain ⟨op, rest, h', htodo, hnext⟩ := h.next
  obtain ⟨l, u, rfl, hne, hu⟩ := Threads.exists_of_undefined htodo hnext hstep
  obtain ⟨pre, hpre, -, -, hrenew⟩ := h
  refine ⟨l, u, hrenew l ?_, hne, hu⟩
  cases pre with
  | nil =>
    rw [htodo] at hpre
    cases hpre
  | cons op pre =>
    rw [htodo] at hpre
    rw [List.head_eq_of_cons_eq hpre]
    exact List.mem_cons_self

/-- **Nobody waits in a circle.** Where readers are let in and all threads keep to their blocks, a
thread waits only while some thread that holds a lock can go on. -/
theorem exists_proceeds (hat : ∀ u, ∃ b : Block rank, s.At u b)
    (h : s.step .readers t = .blocked) :
    ∃ u, (∃ l, s.mode u l ≠ .reading 0) ∧ s.step .readers u ≠ .blocked := by
  let wants : ι → L → Prop := fun u l =>
    s.step .readers u = .blocked ∧ (∃ v, s.mode v l ≠ .reading 0) ∧
      ∀ k, s.mode u k ≠ .reading 0 → rank k < rank l
  have hwants : ∀ u, s.step .readers u = .blocked → ∃ l, wants u l := by
    intro u hu
    obtain ⟨b, hb⟩ := hat u
    obtain ⟨op, rest, h', htodo, hnext⟩ := hb.next
    obtain ⟨l, hl⟩ := wants_of_blocked htodo hnext hu
    exact ⟨l, hu, hl⟩
  obtain ⟨l, hl⟩ := hwants t h
  obtain ⟨u, hholds, hfree⟩ :=
    exists_holder_not_waiting (fun u l hw => hw.2.1) (fun u l k hw hk => hw.2.2 k hk) hl
  refine ⟨u, hholds, fun hblocked => ?_⟩
  obtain ⟨k, hk⟩ := hwants u hblocked
  exact hfree k hk

end Threads

end Locks
