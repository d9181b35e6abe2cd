import GameMode.Daemon.Context
import GameMode.Library.LinkedList

/-!
# The list of clients in memory

The context holds the pointer to the first client, and every client the pointer to the next one.
The operations below are the loops of the daemon over these pointers. They fail where the source
would follow a pointer to memory that holds no client, and where the loop does not end within the
given number of rounds. On a list of clients that is well formed neither happens, and each loop does
what the corresponding operation of `GameMode.Daemon.Context` does to the list of the clients.

## Main definitions

* `ClientObject`, `ClientList`: a client in memory, and the memory with the pointer to the first
  one.
* `ClientList.insert`, `ClientList.find`, `ClientList.list`, `ClientList.unlink`: the operations.
* `ClientList.Represents`: the clients that the pointers lead through.
* `ClientList.Detached`: an object is taken out, and its reference is given up.

## Main results

* `ClientList.represents_insertClient`: the insertion at the front.
* `ClientList.unlink_cases`: the removal on the objects.
* `ClientList.represents_removeClient`: the removal, of the first client, of one in the middle or of
  the last one.
* `ClientList.find_eq`, `ClientList.list_eq`: the searches of the list.

Source: `daemon/gamemode-context.c`, `game_mode_context_register`, `game_mode_context_unregister`,
`game_mode_context_has_client`, `game_mode_context_list_clients`, `game_mode_client_new` and
`game_mode_client_unref`.
-/

namespace GameMode

open LinkedList

/-- The address of an object. -/
abbrev Addr := ℕ

/-- `struct GameModeClient` in memory. -/
structure ClientObject where
  /-- `refcount`. -/
  refcount : ℤ
  /-- What is known of the game. -/
  client : Client
  /-- `next`, where `none` is the null pointer. -/
  next : Option Addr

/-- The clients in memory. -/
structure ClientList where
  /-- The objects that are allocated. -/
  objects : Addr → Option ClientObject
  /-- `client` of the context: the pointer to the first client. -/
  first : Option Addr

namespace ClientList

/-! ### The operations -/

/-- The memory with another content of one address. -/
def set (a : Addr) (c : Option ClientObject) (s : ClientList) : ClientList :=
  { s with objects := Function.update s.objects a c }

@[simp] theorem set_objects_self (a : Addr) (c : Option ClientObject) (s : ClientList) :
    (s.set a c).objects a = c :=
  Function.update_self _ _ _

theorem set_objects_of_ne {a b : Addr} (h : b ≠ a) (c : Option ClientObject) (s : ClientList) :
    (s.set a c).objects b = s.objects b :=
  Function.update_of_ne h _ _

/-- The write of a `next`. -/
def setNext (a : Addr) (q : Option Addr) (s : ClientList) : Option ClientList :=
  (s.objects a).map fun c => s.set a (some { c with next := q })

/-- `game_mode_client_new`, for the address that is allocated. -/
def new (a : Addr) (cl : Client) (s : ClientList) : ClientList := s.set a (some ⟨1, cl, none⟩)

/-- The insertion of `game_mode_context_register`. -/
def insert (a : Addr) (s : ClientList) : Option ClientList :=
  (s.setNext a s.first).map fun s => { s with first := some a }

/-- The loop of `game_mode_context_has_client` from a pointer on. -/
def findFrom (objects : Addr → Option ClientObject) (client : Pid) :
    ℕ → Option Addr → Option (Option Addr)
  | _, none => some none
  | 0, some _ => none
  | fuel + 1, some cl =>
    match objects cl with
    | none => none
    | some c =>
      if c.client.pid = client then some (some cl) else findFrom objects client fuel c.next

/-- `game_mode_context_has_client`. -/
def find (client : Pid) (fuel : ℕ) (s : ClientList) : Option (Option Addr) :=
  findFrom s.objects client fuel s.first

/-- The loop of `game_mode_context_list_clients` from its counter and a pointer on, for a count `n`
of the clients. A failed assertion fails as well. -/
def listFrom (objects : Addr → Option ClientObject) (n : ℤ) :
    ℕ → ℕ → Option Addr → Option (List Pid)
  | _, _, none => some []
  | 0, _, some _ => none
  | fuel + 1, i, some cl =>
    match objects cl with
    | none => none
    | some c =>
      if (i : ℤ) < n then (listFrom objects n fuel (i + 1) c.next).map (c.client.pid :: ·) else none

/-- `game_mode_context_list_clients`. -/
def list (n : ℤ) (fuel : ℕ) (s : ClientList) : Option (List Pid) :=
  listFrom s.objects n fuel 0 s.first

/-- `game_mode_client_unref`. -/
def unref : ℕ → Option Addr → ClientList → Option ClientList
  | _, none, s => some s
  | 0, some _, _ => none
  | fuel + 1, some client, s =>
    match s.objects client with
    | none => none
    | some c =>
      let s := s.set client (some { c with refcount := c.refcount - 1 })
      if 1 < c.refcount then some s -- the object is still alive
      else (unref fuel c.next s).map fun s => s.set client none

/-- What `game_mode_context_unregister` does with the client `cl` that it found, where `prev` is the
client before it, or `cl` itself when it is the first one. -/
def detach (fuel : ℕ) (prev : Option Addr) (cl : Addr) (s : ClientList) : Option ClientList := do
  let prev ← prev
  let s ← s.setNext prev (← s.objects cl).next
  let c ← s.objects cl
  let s := if s.first = some cl then { s with first := c.next } else s
  let s ← s.setNext cl none
  unref fuel (some cl) s

/-- The loop of `game_mode_context_unregister`: whether the client was found, and the memory. -/
def unlinkFrom (client : Pid) (s : ClientList) :
    ℕ → Option Addr → Option Addr → Option (Bool × ClientList)
  | _, _, none => some (false, s)
  | 0, _, some _ => none
  | fuel + 1, prev, some cl =>
    match s.objects cl with
    | none => none
    | some c =>
      if c.client.pid ≠ client then unlinkFrom client s fuel (some cl) c.next
      else (s.detach (fuel + 1) prev cl).map (true, ·)

/-- The search and the removal of `game_mode_context_unregister`. -/
def unlink (client : Pid) (fuel : ℕ) (s : ClientList) : Option (Bool × ClientList) :=
  unlinkFrom client s fuel s.first s.first

/-! ### The represented list -/

/-- The pointers lead through the objects `l`, which are all in use. -/
structure Linked (s : ClientList) (l : List (Addr × ClientObject)) : Prop where
  segment : Segment ClientObject.next s.objects none s.first l
  refcount : ∀ x ∈ l, 1 ≤ x.2.refcount

/-- The clients of the objects of a list. -/
def clientsOf (l : List (Addr × ClientObject)) : List Client := l.map fun x => x.2.client

/-- The pointers lead through the clients `cs`. -/
def Represents (s : ClientList) (cs : List Client) : Prop := ∃ l, s.Linked l ∧ clientsOf l = cs

@[simp] theorem clientsOf_nil : clientsOf [] = [] := rfl

@[simp] theorem clientsOf_cons (a : Addr) (c : ClientObject) (l : List (Addr × ClientObject)) :
    clientsOf ((a, c) :: l) = c.client :: clientsOf l := rfl

@[simp] theorem length_clientsOf (l : List (Addr × ClientObject)) :
    (clientsOf l).length = l.length := List.length_map _

theorem clientsOf_append (l₁ l₂ : List (Addr × ClientObject)) :
    clientsOf (l₁ ++ l₂) = clientsOf l₁ ++ clientsOf l₂ := List.map_append

/-! ### Insertion -/

theorem new_insert_eq (a : Addr) (cl : Client) (s : ClientList) :
    (s.new a cl).insert a =
      some ⟨Function.update s.objects a (some ⟨1, cl, s.first⟩), some a⟩ := by
  simp [ClientList.insert, setNext, new, set]

theorem segment_insert {s : ClientList} {l : List (Addr × ClientObject)}
    (h : Segment ClientObject.next s.objects none s.first l) {a : Addr} (ha : s.objects a = none)
    (cl : Client) :
    Segment ClientObject.next (Function.update s.objects a (some ⟨1, cl, s.first⟩)) none (some a)
      ((a, ⟨1, cl, s.first⟩) :: l) := by
  have hfree : a ∉ l.map Prod.fst := by
    intro hmem
    obtain ⟨x, hx, rfl⟩ := List.mem_map.1 hmem
    exact absurd (h.get hx) (ha ▸ nofun)
  exact ⟨rfl, Function.update_self _ _ _, h.update_of_notMem hfree _⟩

/-! ### Searches -/

/-- The search for a client finds the first object with the identifier. -/
theorem findFrom_eq {objects : Addr → Option ClientObject} (client : Pid) :
    {l : List (Addr × ClientObject)} → {p : Option Addr} → (fuel : ℕ) →
      Segment ClientObject.next objects none p l → l.length ≤ fuel →
      findFrom objects client fuel p =
        some ((l.find? fun x => x.2.client.pid = client).map Prod.fst)
  | [], _, fuel, rfl, _ => by cases fuel <;> rfl
  | (_, _) :: _, _, 0, _, hfuel => absurd hfuel (Nat.not_succ_le_zero _)
  | (a, c) :: l, p, fuel + 1, ⟨hp, hc, h⟩, hfuel => by
    subst hp
    simp only [findFrom, hc]
    by_cases hpid : c.client.pid = client
    · simp [hpid]
    · rw [if_neg hpid, findFrom_eq client fuel h (Nat.le_of_succ_le_succ hfuel)]
      simp [hpid]

/-- `game_mode_context_has_client` on the pointers is the search of the list. -/
theorem find_eq {s : ClientList} {w : World} (h : s.Represents w.clients) (client : Pid) {fuel : ℕ}
    (hfuel : w.clients.length ≤ fuel) :
    ∃ r, s.find client fuel = some r ∧ r.isSome = contextHasClient w client := by
  obtain ⟨l, hl, hclients⟩ := h
  rw [← hclients, length_clientsOf] at hfuel
  refine ⟨_, findFrom_eq client fuel hl.segment hfuel, ?_⟩
  rw [contextHasClient, ← hclients, clientsOf, Option.isSome_map, List.any_map, Bool.eq_iff_iff,
    List.find?_isSome, List.any_eq_true]
  rfl

theorem listFrom_eq {objects : Addr → Option ClientObject} (n : ℤ) :
    {l : List (Addr × ClientObject)} → {p : Option Addr} → (fuel i : ℕ) →
      Segment ClientObject.next objects none p l → l.length ≤ fuel →
      listFrom objects n fuel i p = listClientsFrom n i (clientsOf l)
  | [], _, fuel, _, rfl, _ => by cases fuel <;> rfl
  | (_, _) :: _, _, 0, _, _, hfuel => absurd hfuel (Nat.not_succ_le_zero _)
  | (a, c) :: l, p, fuel + 1, i, ⟨hp, hc, h⟩, hfuel => by
    subst hp
    simp only [listFrom, hc, clientsOf_cons, listClientsFrom,
      listFrom_eq n fuel (i + 1) h (Nat.le_of_succ_le_succ hfuel)]

/-- `game_mode_context_list_clients` on the pointers is the operation on the list. -/
theorem list_eq {s : ClientList} {w : World} (h : s.Represents w.clients) {fuel : ℕ}
    (hfuel : w.clients.length ≤ fuel) :
    s.list w.refcount fuel = contextListClients w := by
  obtain ⟨l, hl, hclients⟩ := h
  rw [contextListClients, ← hclients]
  exact listFrom_eq _ fuel 0 hl.segment (by rwa [← hclients, length_clientsOf] at hfuel)

/-! ### Removal -/

@[simp] theorem unref_none (fuel : ℕ) (s : ClientList) : unref fuel none s = some s := by
  cases fuel <;> rfl

end ClientList

/-- What is left of an object without a next one when a reference to it is given up. -/
def ClientObject.released (c : ClientObject) : Option ClientObject :=
  if 1 < c.refcount then some { c with refcount := c.refcount - 1 } else none

namespace ClientList

theorem unref_of_next_eq_none {s : ClientList} {a : Addr} {c : ClientObject}
    (hc : s.objects a = some c) (hnext : c.next = none) (fuel : ℕ) :
    unref (fuel + 1) (some a) s = some (s.set a c.released) := by
  simp only [unref, hc, hnext, unref_none, Option.map_some, ClientObject.released]
  split
  · rfl
  · exact congrArg some (congrArg (ClientList.mk · s.first) (Function.update_idem _ _ _))

/-- The object `c` at `a` is taken out from between `pre` and `post`, which leaves the objects
`l'`. -/
structure Detached (s : ClientList) (pre : List (Addr × ClientObject)) (a : Addr)
    (c : ClientObject) (post : List (Addr × ClientObject)) (s' : ClientList)
    (l' : List (Addr × ClientObject)) : Prop where
  segment : Segment ClientObject.next s'.objects none s'.first l'
  clients : clientsOf l' = clientsOf pre ++ clientsOf post
  addresses : l'.map Prod.fst = pre.map Prod.fst ++ post.map Prod.fst
  refcount : ∀ x ∈ l', ∃ y ∈ pre ++ post, y.1 = x.1 ∧ y.2.refcount = x.2.refcount
  object : s'.objects a = { c with next := none }.released
  frame : ∀ b, b ≠ a → b ∉ pre.map Prod.fst → s'.objects b = s.objects b

section Detach

variable {s s' : ClientList} {pre post l' : List (Addr × ClientObject)} {a b : Addr}
  {c : ClientObject}

theorem Detached.mem_iff (h : s.Detached pre a c post s' l') (hb : b ≠ a) :
    b ∈ l'.map Prod.fst ↔ b ∈ (pre ++ (a, c) :: post).map Prod.fst := by
  rw [h.addresses]
  simp [hb]

theorem Detached.notMem (h : s.Detached pre a c post s' l')
    (hs : Segment ClientObject.next s.objects none s.first (pre ++ (a, c) :: post)) :
    a ∉ l'.map Prod.fst := by
  have hnodup := hs.nodup
  simp only [List.map_append, List.map_cons, List.nodup_append, List.nodup_cons, List.mem_cons]
    at hnodup
  rw [h.addresses, List.mem_append, not_or]
  exact ⟨fun hmem => hnodup.2.2 a hmem a (Or.inl rfl) rfl, hnodup.2.1.1⟩

theorem Detached.objects_of_notMem (h : s.Detached pre a c post s' l')
    (hb : b ∉ (pre ++ (a, c) :: post).map Prod.fst) : s'.objects b = s.objects b := by
  rw [List.map_append, List.mem_append, not_or, List.map_cons, List.mem_cons, not_or] at hb
  exact h.frame b hb.2.1 hb.1

theorem Detached.map_refcount (h : s.Detached pre a c post s' l')
    (hs : Segment ClientObject.next s.objects none s.first (pre ++ (a, c) :: post)) (hb : b ≠ a) :
    (s'.objects b).map ClientObject.refcount = (s.objects b).map ClientObject.refcount := by
  by_cases hmem : b ∈ (pre ++ (a, c) :: post).map Prod.fst
  · obtain ⟨x, hx, rfl⟩ := List.mem_map.1 ((h.mem_iff hb).2 hmem)
    obtain ⟨y, hy, haddress, hcount⟩ := h.refcount x hx
    have hy' : y ∈ pre ++ (a, c) :: post := by
      rcases List.mem_append.1 hy with hy | hy
      · exact List.mem_append_left _ hy
      · exact List.mem_append_right _ (List.mem_cons_of_mem _ hy)
    rw [h.segment.get hx, ← haddress, hs.get hy', Option.map_some, Option.map_some, hcount]
  · rw [h.objects_of_notMem hmem]

/-- The first client is removed: `prev` is the client itself. -/
theorem detach_first
    (h : Segment ClientObject.next s.objects none s.first ((a, c) :: post)) (fuel : ℕ) :
    ∃ s' l', s.detach (fuel + 1) (some a) a = some s' ∧ s.Detached [] a c post s' l' := by
  have ha : a ∉ post.map Prod.fst := (List.nodup_cons.1 h.nodup).1
  obtain ⟨hfirst, hc, hpost⟩ := h
  have hunref := unref_of_next_eq_none
    (s := ⟨Function.update s.objects a (some { c with next := none }), c.next⟩)
    (Function.update_self _ _ _) rfl fuel
  simp only [set, Function.update_idem] at hunref
  refine ⟨⟨Function.update s.objects a { c with next := none }.released, c.next⟩, post, ?_,
    hpost.update_of_notMem ha _, rfl, rfl, fun x hx => ⟨x, hx, rfl, rfl⟩,
    Function.update_self _ _ _, fun b hb _ => Function.update_of_ne hb _ _⟩
  simp [detach, setNext, set, hc, hfirst, hunref]

/-- A later client is removed: `prev` is the client before it. -/
theorem detach_later {p : Addr} {d : ClientObject}
    (h : Segment ClientObject.next s.objects none s.first ((pre ++ [(p, d)]) ++ (a, c) :: post))
    (fuel : ℕ) :
    ∃ s' l', s.detach (fuel + 1) (some p) a = some s' ∧
      s.Detached (pre ++ [(p, d)]) a c post s' l' := by
  obtain ⟨m, hpre, -, hc, hpost⟩ := segment_append.1 h
  have hd : s.objects p = some d := hpre.get (x := (p, d)) (by simp)
  -- the removed client is none of those that stay
  have hnodup := h.nodup
  simp only [List.map_append, List.map_cons, List.append_assoc, List.nodup_append,
    List.nodup_cons, List.singleton_append, List.mem_cons, not_or] at hnodup
  obtain ⟨-, ⟨⟨hpa, hppost⟩, hapost, -⟩, hdisjoint⟩ := hnodup
  have hppre : p ∉ pre.map Prod.fst := fun hx => hdisjoint p hx p (Or.inl rfl) rfl
  have hapre : a ∉ pre.map Prod.fst := fun hx => hdisjoint a hx a (Or.inr (Or.inl rfl)) rfl
  have hfirst : s.first ≠ some a := by
    rw [h.first_eq]
    cases pre with
    | nil => simpa using hpa
    | cons x pre =>
      simp only [List.map_cons, List.mem_cons, not_or] at hapre
      simpa using Ne.symm hapre.1
  have hunref := unref_of_next_eq_none
    (s := ⟨Function.update (Function.update s.objects p (some { d with next := c.next })) a
      (some { c with next := none }), s.first⟩)
    (Function.update_self _ _ _) rfl fuel
  simp only [set, Function.update_idem] at hunref
  refine ⟨⟨Function.update (Function.update s.objects p (some { d with next := c.next })) a
      { c with next := none }.released, s.first⟩, (pre ++ [(p, { d with next := c.next })]) ++ post,
    ?_, segment_append.2 ⟨c.next, ?_, ?_⟩, ?_, ?_, ?_, Function.update_self _ _ _, ?_⟩
  · simp [detach, setNext, set, hc, hd, hfirst, hunref, Ne.symm hpa]
  · refine (hpre.update_last hppre).update_of_notMem ?_ _
    simp only [List.map_append, List.mem_append, List.map_cons, List.map_nil, List.mem_singleton,
      not_or]
    exact ⟨hapre, Ne.symm hpa⟩
  · exact (hpost.update_of_notMem hppost _).update_of_notMem hapost _
  · simp [clientsOf_append]
  · simp
  · simp only [List.append_assoc, List.singleton_append, List.mem_append, List.mem_cons]
    rintro x (hx | rfl | hx)
    · exact ⟨x, Or.inl hx, rfl, rfl⟩
    · exact ⟨(p, d), Or.inr (Or.inl rfl), rfl, rfl⟩
    · exact ⟨x, Or.inr (Or.inr hx), rfl, rfl⟩
  · intro b hba hb
    simp only [List.map_append, List.mem_append, List.map_cons, List.map_nil, List.mem_singleton,
      not_or] at hb
    exact (Function.update_of_ne hba _ _).trans (Function.update_of_ne hb.2 _ _)

end Detach

/-- The loop of the removal, which has passed the objects `pre`: it takes out the first client with
the identifier from the rest, or there is none. -/
theorem unlinkFrom_cases {s : ClientList} (client : Pid) :
    (rest : List (Addr × ClientObject)) → {pre : List (Addr × ClientObject)} →
      {prev p : Option Addr} → (fuel : ℕ) →
      Segment ClientObject.next s.objects none s.first (pre ++ rest) →
      Segment ClientObject.next s.objects none p rest →
      (pre = [] → prev = p) → (∀ x ∈ pre.getLast?, prev = some x.1) → rest.length ≤ fuel →
      (∀ x ∈ rest, x.2.client.pid ≠ client) ∧
          unlinkFrom client s fuel prev p = some (false, s) ∨
        ∃ mid a c post s' l', rest = mid ++ (a, c) :: post ∧
          (∀ x ∈ mid, x.2.client.pid ≠ client) ∧ c.client.pid = client ∧
          unlinkFrom client s fuel prev p = some (true, s') ∧
          s.Detached (pre ++ mid) a c post s' l'
  | [], _, _, _, fuel, _, rfl, _, _, _ => Or.inl ⟨by simp, by cases fuel <;> rfl⟩
  | (_, _) :: _, _, _, _, 0, _, _, _, _, hfuel => absurd hfuel (Nat.not_succ_le_zero _)
  | (a, c) :: rest, pre, prev, p, fuel + 1, hs, ⟨hp, hc, hrest⟩, hnil, hlast, hfuel => by
    subst hp
    simp only [unlinkFrom, hc]
    by_cases hpid : c.client.pid = client
    · rw [if_neg (not_not.2 hpid)]
      refine Or.inr ⟨[], a, c, rest, ?_⟩
      rw [List.append_nil]
      rcases List.eq_nil_or_concat pre with rfl | ⟨pre, ⟨q, d⟩, rfl⟩
      · obtain ⟨s', l', hdetach, hdetached⟩ := detach_first hs fuel
        rw [hnil rfl, hdetach]
        exact ⟨s', l', rfl, by simp, hpid, rfl, hdetached⟩
      · rw [List.concat_eq_append] at hs hlast ⊢
        obtain ⟨s', l', hdetach, hdetached⟩ := detach_later hs fuel
        rw [hlast (q, d) (by simp), hdetach]
        exact ⟨s', l', rfl, by simp, hpid, rfl, hdetached⟩
    · rw [if_pos hpid]
      rcases @unlinkFrom_cases s client rest (pre ++ [(a, c)]) (some a) c.next fuel
          (by simpa using hs) hrest (by simp) (by simp) (Nat.le_of_succ_le_succ hfuel) with
        ⟨hnone, hrun⟩ | ⟨mid, a', c', post, s', l', rfl, hmid, hfound, hrun, hdetached⟩
      · exact Or.inl ⟨List.forall_mem_cons.2 ⟨hpid, hnone⟩, hrun⟩
      · refine Or.inr ⟨(a, c) :: mid, a', c', post, s', l', rfl,
          List.forall_mem_cons.2 ⟨hpid, hmid⟩, hfound, hrun, ?_⟩
        rwa [List.append_assoc] at hdetached

/-- The removal takes out the first client with the identifier, or there is none. -/
theorem unlink_cases {s : ClientList} {l : List (Addr × ClientObject)}
    (h : Segment ClientObject.next s.objects none s.first l) (client : Pid) {fuel : ℕ}
    (hfuel : l.length ≤ fuel) :
    (∀ x ∈ l, x.2.client.pid ≠ client) ∧ s.unlink client fuel = some (false, s) ∨
      ∃ pre a c post s' l', l = pre ++ (a, c) :: post ∧ (∀ x ∈ pre, x.2.client.pid ≠ client) ∧
        c.client.pid = client ∧ s.unlink client fuel = some (true, s') ∧
        s.Detached pre a c post s' l' :=
  @unlinkFrom_cases s client l [] s.first s.first fuel h h (fun _ => rfl) (by simp) hfuel

/-! ### The critical sections -/

/-- The insertion of the critical section of `game_mode_context_register`. -/
theorem represents_insertClient {s : ClientList} {w : World} (h : s.Represents w.clients) {a : Addr}
    (ha : s.objects a = none) (files : CpuSysfs) (env : Env) (cl : Client) :
    ∃ s', (s.new a cl).insert a = some s' ∧
      s'.Represents (insertClient files env cl w).clients := by
  obtain ⟨l, hl, hclients⟩ := h
  refine ⟨_, new_insert_eq a cl s, _, ⟨segment_insert hl.segment ha cl, ?_⟩, ?_⟩
  · rintro x (- | ⟨-, hx⟩)
    · exact le_refl _
    · exact hl.refcount x hx
  · rw [(insertClient_clients files env cl w).1, clientsOf_cons, hclients]

/-- **Removal.** The loop of `game_mode_context_unregister` ends, follows no pointer to memory that
holds no client, and finds the client exactly when it is registered. The clients that are left are
those after the critical section, in their order. -/
theorem represents_removeClient {s : ClientList} {w : World} (h : s.Represents w.clients)
    (env : Env) (client : Pid) {fuel : ℕ} (hfuel : w.clients.length ≤ fuel) :
    ∃ found s', s.unlink client fuel = some (found, s') ∧
      (found = true ↔ w.IsRegistered client) ∧
      s'.Represents ((removeClient env client w).getD w).clients := by
  obtain ⟨l, hl, hclients⟩ := h
  have hregistered : w.IsRegistered client ↔ ∃ x ∈ l, x.2.client.pid = client := by
    rw [World.IsRegistered, ← hclients, clientsOf]
    simp
  rw [← hclients, length_clientsOf] at hfuel
  rcases unlink_cases hl.segment client hfuel with
    ⟨hnone, hrun⟩ | ⟨pre, a, c, post, s', l', rfl, hpre, hpid, hrun, hdetached⟩
  · have hnot : ¬w.IsRegistered client := by
      rw [hregistered]
      rintro ⟨x, hx, hxpid⟩
      exact hnone x hx hxpid
    refine ⟨false, s, hrun, iff_of_false Bool.false_ne_true hnot, l, hl, ?_⟩
    rw [removeClient, if_neg hnot, Option.getD_none]
    exact hclients
  · have hmem : w.IsRegistered client := hregistered.2 ⟨(a, c), by simp, hpid⟩
    refine ⟨true, s', hrun, iff_of_true rfl hmem, l', ⟨hdetached.segment, ?_⟩, ?_⟩
    · intro x hx
      obtain ⟨y, hy, -, hcount⟩ := hdetached.refcount x hx
      rw [← hcount]
      refine hl.refcount y ?_
      rcases List.mem_append.1 hy with hy | hy
      · exact List.mem_append_left _ hy
      · exact List.mem_append_right _ (List.mem_cons_of_mem _ hy)
    · obtain ⟨w', hremove⟩ :=
        Option.isSome_iff_exists.1 ((removeClient_isSome_iff env client w).2 hmem)
      have hskip : ∀ cl ∈ clientsOf pre, ¬decide (cl.pid = client) = true := by
        intro cl hcl
        obtain ⟨x, hx, rfl⟩ := List.mem_map.1 hcl
        rw [decide_eq_true_eq]
        exact hpre x hx
      rw [hremove, Option.getD_some, (removeClient_clients hremove).1, ← hclients,
        clientsOf_append, clientsOf_cons, List.eraseP_append_right _ hskip,
        List.eraseP_cons_of_pos (by simpa using hpid), hdetached.clients]

end ClientList

end GameMode
