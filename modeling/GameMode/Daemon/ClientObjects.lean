import GameMode.Daemon.ClientList
import GameMode.Library.Runs

/-!
# The lives of the client objects

A client object is made when its game is registered, and freed when its last reference is given up.
The list of the clients holds one reference, and every lookup of the D-Bus thread holds one until it
is given up. The reaper holds none: it keeps the pointer that its loop has reached, lets go of the
lock, and reads the process identifier through the pointer then.

Here the two threads take turns at the sections that they run under the lock, and at the accesses
that they make without it. The references are counted right along every run, and an object is freed
just when the last one is given up. What a run can break is the pointer of the reaper.

## Main definitions

* `ClientSystem`, `ClientStep`, `clientStep`: the system of the two threads.
* `ClientSystem.Counted`: every object is counted with the references to it.
* `ClientSystem.Sound`: moreover, what the reaper has reached is in use, and no freed object was
  read.
* `ClientSystem.Releases`, `SparesCursor`: a step gives up the last reference to an object, and none
  gives up that to the object that the reaper has reached.

## Main results

* `ClientSystem.Counted.frame`: an operation on one object has to look at this object only.
* `ClientSystem.Tracked.lookup`, `ClientSystem.Tracked.unref`, `ClientSystem.Tracked.unregister`:
  the operations.
* `ClientSystem.Tracked.kept`: a step keeps the counts, and frees what it gives up the last
  reference to.
* `tracked_along`: the references are counted along every run.
* `sound_along_iff`: a run is sound just when its steps spare the object that the reaper has
  reached.

Source: `daemon/gamemode-context.c`, `game_mode_context_auto_expire`,
`game_mode_context_lookup_client`, `game_mode_context_register`, `game_mode_context_unregister`,
`game_mode_client_unref` and `game_mode_client_ref`; `daemon/gamemode-dbus.c`, the properties of the
games.
-/

namespace GameMode

open LinkedList Runs ClientList

/-! ### The system -/

/-- Where the reaper is in `game_mode_context_auto_expire`. -/
inductive ReaperState
  /-- Before the next round. -/
  | idle
  /-- It has reached a dead client, and let go of the lock. -/
  | cursor (client : Addr)
  /-- It is about to unregister a game. -/
  | removing (pid : Pid)
  deriving DecidableEq

/-- The clients in memory, and what the two threads hold of them. -/
structure ClientSystem where
  /-- The memory. -/
  memory : ClientList
  /-- How many clients were made, which bounds the rounds of a loop. -/
  made : ℕ
  /-- The lookups of the D-Bus thread that were not given up yet. -/
  held : List Addr
  /-- The reaper. -/
  reaper : ReaperState
  /-- Whether a field of an object was read that is freed. -/
  fault : Bool

/-- The steps of the D-Bus thread, then those of the reaper. -/
inductive ClientStep
  /-- `game_mode_context_has_client`. -/
  | hasClient (client : Pid)
  /-- The critical section of `game_mode_context_register`, for the address that is allocated. -/
  | insert (a : Addr) (cl : Client)
  /-- The critical section of `game_mode_context_unregister`. -/
  | unregister (client : Pid)
  /-- `game_mode_context_lookup_client`. -/
  | lookup (client : Pid)
  /-- A getter of a field. -/
  | get (client : Addr)
  /-- `game_mode_client_unref`. -/
  | unref (client : Addr)
  /-- The section of a round of `game_mode_context_auto_expire`. -/
  | scan (alive : Pid → Bool)
  /-- The arguments of its call of `game_mode_context_unregister`. -/
  | readCursor
  /-- This call, which may be rejected before the critical section. -/
  | expire (admitted : Bool)

/-- The loop of `game_mode_context_auto_expire` from a pointer on. -/
def deadFrom (objects : Addr → Option ClientObject) (alive : Pid → Bool) :
    ℕ → Option Addr → Option (Option Addr)
  | _, none => some none
  | 0, some _ => none
  | fuel + 1, some client =>
    match objects client with
    | none => none
    | some c =>
      if ¬alive c.client.pid then some (some client) else deadFrom objects alive fuel c.next

namespace ClientSystem

/-- No client was ever registered. -/
def start : ClientSystem := ⟨⟨fun _ => none, none⟩, 0, [], .idle, false⟩

variable (s : ClientSystem)

/-- The system after an access to an object that is freed. -/
def fail : ClientSystem := { s with fault := true }

/-- The critical section of `game_mode_context_unregister`. -/
def unregister (client : Pid) : ClientSystem :=
  match s.memory.unlink client s.made with
  | none => s.fail
  | some (_, memory) => { s with memory := memory }

/-- `game_mode_client_ref`. -/
def ref (client : Addr) : ClientSystem :=
  match s.memory.objects client with
  | none => s.fail
  | some c => { s with memory := s.memory.set client (some { c with refcount := c.refcount + 1 }) }

/-- `game_mode_context_lookup_client`. -/
def lookup (client : Pid) : ClientSystem :=
  match s.memory.find client s.made with
  | none => s.fail
  | some none => s
  | some (some found) => { s.ref found with held := found :: s.held }

/-- `game_mode_client_unref`, for the pointer of a lookup. -/
def unref (client : Addr) : ClientSystem :=
  match ClientList.unref (s.made + 1) (some client) s.memory with
  | none => s.fail
  | some memory => { s with memory := memory, held := s.held.erase client }

/-- The section of a round of `game_mode_context_auto_expire`. -/
def scan (alive : Pid → Bool) : ClientSystem :=
  match deadFrom s.memory.objects alive s.made s.memory.first with
  | none => s.fail
  | some none => s
  | some (some client) => { s with reaper := .cursor client }

end ClientSystem

/-- The system as a step function. -/
def clientStep (s : ClientSystem) : ClientStep → Option ClientSystem
  | .hasClient client =>
    match s.memory.find client s.made with
    | none => some s.fail
    | some _ => some s
  | .insert a cl =>
    if (s.memory.objects a).isSome then none
    else
      match (s.memory.new a cl).insert a with
      | none => some s.fail
      | some memory => some { s with memory := memory, made := s.made + 1 }
  | .unregister client => some (s.unregister client)
  | .lookup client => some (s.lookup client)
  | .get client =>
    if client ∈ s.held then some (if (s.memory.objects client).isSome then s else s.fail) else none
  | .unref client => if client ∈ s.held then some (s.unref client) else none
  | .scan alive => if s.reaper = .idle then some (s.scan alive) else none
  | .readCursor =>
    match s.reaper with
    | .cursor client =>
      match s.memory.objects client with
      | none => some { s.fail with reaper := .idle }
      | some c => some { s with reaper := .removing c.client.pid }
    | _ => none
  | .expire admitted =>
    match s.reaper with
    | .removing pid =>
      some { (if admitted then s.unregister pid else s) with reaper := .idle }
    | _ => none

/-! ### References -/

namespace ClientSystem

variable (s : ClientSystem)

/-- How many lookups of an object are not given up yet. -/
def outstanding (a : Addr) : ℤ := s.held.count a

/-- The list is `l`, and every object is counted with the references to it: in the list with one
more than its lookups, outside of it with its lookups only. There it has no next one. -/
structure Counted (l : List (Addr × ClientObject)) : Prop where
  segment : Segment ClientObject.next s.memory.objects none s.memory.first l
  listed : ∀ x ∈ l, x.2.refcount = 1 + s.outstanding x.1
  removed : ∀ a c, s.memory.objects a = some c → a ∉ l.map Prod.fst →
    a ∈ s.held ∧ c.next = none ∧ c.refcount = s.outstanding a
  held : ∀ a ∈ s.held, s.memory.objects a ≠ none

/-- Every object is counted with the references to it, and the list has not more objects than were
made. -/
def Tracked : Prop := ∃ l, s.Counted l ∧ l.length ≤ s.made

/-- What the reaper has reached is in use. -/
def CursorAlive : Prop := ∀ a, s.reaper = .cursor a → s.memory.objects a ≠ none

/-- Every object is counted with the references to it, what is used is not freed, and no object was
read that is freed. -/
structure Sound : Prop where
  counted : ∃ l, s.Counted l
  cursor : s.CursorAlive
  fault : s.fault = false

/-- A step frees an object. -/
def Frees (s' : ClientSystem) (a : Addr) : Prop :=
  s.memory.objects a ≠ none ∧ s'.memory.objects a = none

/-- One reference to an object is left. -/
def LastReference (a : Addr) : Prop :=
  (s.memory.objects a).map ClientObject.refcount = some 1

/-- A step gives up the last reference to an object. -/
def Releases : ClientStep → Addr → Prop
  | .unregister client, a => s.memory.find client s.made = some (some a) ∧ s.LastReference a
  | .unref client, a => client ∈ s.held ∧ a = client ∧ s.LastReference a
  | .expire admitted, a => admitted = true ∧ ∃ pid, s.reaper = .removing pid ∧
      s.memory.find pid s.made = some (some a) ∧ s.LastReference a
  | _, _ => False

/-- A step keeps the counts and frees the objects that it gives up the last reference to. The reaper
does not reach a freed object, and no other freed object is read than the one that it had reached.
-/
structure Kept (s' : ClientSystem) (releases : Addr → Prop) : Prop where
  tracked : s'.Tracked
  frees : ∀ b, s.Frees s' b ↔ releases b
  cursor : ∀ a, s'.reaper = .cursor a → s.reaper = .cursor a ∨ s'.memory.objects a ≠ none
  fault : s.CursorAlive → s'.fault = s.fault

end ClientSystem

/-- A step frees one object at most, and none that the pointers of the list lead to. -/
structure FreesLocally (s s' : ClientSystem) : Prop where
  not_listed : ∀ a, s.Frees s' a →
    ¬Reaches ClientObject.next s'.memory.objects s'.memory.first a
  unique : ∀ a b, s.Frees s' a → s.Frees s' b → a = b

/-- A step does not give up the last reference to the object that the reaper has reached. -/
def SparesCursor (s : ClientSystem) (step : ClientStep) : Prop :=
  ∀ a, s.reaper = .cursor a → ¬s.Releases step a

/-! ### Loops -/

/-- The loop of the reaper finds the first dead client. -/
theorem deadFrom_eq {objects : Addr → Option ClientObject} (alive : Pid → Bool) :
    {l : List (Addr × ClientObject)} → {p : Option Addr} → (fuel : ℕ) →
      Segment ClientObject.next objects none p l → l.length ≤ fuel →
      deadFrom objects alive fuel p =
        some ((l.find? fun x => ¬alive x.2.client.pid).map Prod.fst)
  | [], _, fuel, rfl, _ => by cases fuel <;> rfl
  | (_, _) :: _, _, 0, _, hfuel => absurd hfuel (Nat.not_succ_le_zero _)
  | (a, c) :: l, p, fuel + 1, ⟨hp, hc, h⟩, hfuel => by
    subst hp
    simp only [deadFrom, hc]
    by_cases halive : alive c.client.pid
    · rw [if_neg (not_not.2 halive), deadFrom_eq alive fuel h (Nat.le_of_succ_le_succ hfuel)]
      simp [halive]
    · simp [halive]

theorem mem_of_find?_map {l : List (Addr × ClientObject)} {P : Addr × ClientObject → Bool}
    {a : Addr} (h : (l.find? P).map Prod.fst = some a) : ∃ c, (a, c) ∈ l := by
  obtain ⟨x, hx, rfl⟩ := Option.map_eq_some_iff.1 h
  exact ⟨x.2, List.mem_of_find?_eq_some hx⟩

/-! ### Counting -/

namespace ClientSystem

section Counted

variable {s s' : ClientSystem} {l : List (Addr × ClientObject)} {a : Addr} {c : ClientObject}

theorem outstanding_nonneg (s : ClientSystem) (a : Addr) : 0 ≤ s.outstanding a :=
  Int.natCast_nonneg _

theorem outstanding_pos (h : a ∈ s.held) : 0 < s.outstanding a :=
  Int.natCast_pos.2 (List.count_pos_iff.2 h)

theorem outstanding_eq_zero (h : a ∉ s.held) : s.outstanding a = 0 :=
  Int.natCast_eq_zero.2 (List.count_eq_zero.2 h)

theorem Counted.objects_eq (h : s.Counted l) (hmem : (a, c) ∈ l) : s.memory.objects a = some c :=
  h.segment.get hmem

theorem Counted.refcount_eq (h : s.Counted l) (hc : s.memory.objects a = some c) :
    (a ∈ l.map Prod.fst ∧ c.refcount = 1 + s.outstanding a) ∨
      (a ∉ l.map Prod.fst ∧ a ∈ s.held ∧ c.next = none ∧ c.refcount = s.outstanding a) := by
  by_cases hmem : a ∈ l.map Prod.fst
  · obtain ⟨x, hx, rfl⟩ := List.mem_map.1 hmem
    have hx' : c = x.2 := Option.some.inj (hc.symm.trans (h.segment.get hx))
    exact Or.inl ⟨hmem, hx' ▸ h.listed x hx⟩
  · exact Or.inr ⟨hmem, h.removed a c hc hmem⟩

/-- An object without a next one that loses a reference is freed just when it is the last one. -/
theorem Counted.released_eq_none_iff (h : s.Counted l) (hc : s.memory.objects a = some c)
    (next : Option Addr) :
    { c with next := next }.released = none ↔ s.LastReference a := by
  have hone : 1 ≤ c.refcount := by
    have hnonneg := outstanding_nonneg s a
    rcases h.refcount_eq hc with ⟨-, hrefcount⟩ | ⟨-, hheld, -, hrefcount⟩
    · omega
    · have hpos := outstanding_pos hheld
      omega
  rw [LastReference, hc, Option.map_some, Option.some_inj, ClientObject.released,
    ite_eq_right_iff]
  simp only [reduceCtorEq, imp_false]
  omega

theorem frees_iff_of_forall_ne (h : ∀ b, b ≠ a → s.memory.objects b ≠ none →
    s'.memory.objects b ≠ none) (b : Addr) : s.Frees s' b ↔ b = a ∧ s.Frees s' a := by
  refine ⟨fun hb => ?_, fun ⟨hba, ha⟩ => hba ▸ ha⟩
  by_cases hba : b = a
  · exact ⟨hba, hba ▸ hb⟩
  · exact absurd hb.2 (h b hba hb.1)

theorem set_objects_ne_none {d : ClientObject} {b : Addr} (h : s.memory.objects b ≠ none) :
    (s.memory.set a (some d)).objects b ≠ none := by
  by_cases hba : b = a
  · rw [hba, set_objects_self]
    exact Option.some_ne_none d
  · rwa [set_objects_of_ne hba]

theorem Tracked.sound (h : s.Tracked) (hcursor : s.CursorAlive) (hfault : s.fault = false) :
    s.Sound := by
  obtain ⟨l, h, -⟩ := h
  exact ⟨⟨l, h⟩, hcursor, hfault⟩

theorem Tracked.of_eq (h : s.Tracked) (hmemory : s'.memory = s.memory) (hmade : s'.made = s.made)
    (hheld : s'.held = s.held) : s'.Tracked := by
  obtain ⟨l, h, hlength⟩ := h
  obtain ⟨memory, made, held, reaper, fault⟩ := s'
  subst hmemory hmade hheld
  exact ⟨l, ⟨h.segment, h.listed, h.removed, h.held⟩, hlength⟩

theorem Kept.of_objects_ne (htracked : s'.Tracked)
    (h : ∀ b, s.memory.objects b ≠ none → s'.memory.objects b ≠ none)
    (hreaper : s'.reaper = s.reaper) (hfault : s'.fault = s.fault) : Kept s s' fun _ => False :=
  ⟨htracked, fun b => iff_of_false (fun hb => h b hb.1 hb.2) not_false,
    fun _ ha => Or.inl (hreaper ▸ ha), fun _ => hfault⟩

theorem Tracked.refl (h : s.Tracked) : Kept s s fun _ => False :=
  Kept.of_objects_ne h (fun _ hb => hb) rfl rfl

theorem Kept.leave {releases : Addr → Prop} (h : Kept s s' releases) {reaper : ReaperState}
    (hreaper : ∀ a, reaper ≠ .cursor a) : Kept s { s' with reaper := reaper } releases :=
  ⟨h.tracked.of_eq rfl rfl rfl, h.frees, fun a ha => absurd ha (hreaper a), h.fault⟩

theorem Kept.congr {releases releases' : Addr → Prop} (h : Kept s s' releases)
    (heq : ∀ b, releases b ↔ releases' b) : Kept s s' releases' :=
  ⟨h.tracked, fun b => (h.frees b).trans (heq b), h.cursor, h.fault⟩

theorem ne_none_of_map_refcount_eq {o o' : Option ClientObject}
    (h : o'.map ClientObject.refcount = o.map ClientObject.refcount) (ho : o ≠ none) :
    o' ≠ none := by
  rintro rfl
  rw [Option.map_none, eq_comm, Option.map_eq_none_iff] at h
  exact ho h

/-- What is counted at one address. -/
structure CountedAt (s : ClientSystem) (l : List (Addr × ClientObject)) (a : Addr) : Prop where
  listed : ∀ c, s.memory.objects a = some c → a ∈ l.map Prod.fst →
    c.refcount = 1 + s.outstanding a
  removed : ∀ c, s.memory.objects a = some c → a ∉ l.map Prod.fst →
    a ∈ s.held ∧ c.next = none ∧ c.refcount = s.outstanding a
  held : a ∈ s.held → s.memory.objects a ≠ none

theorem Counted.at (h : s.Counted l) (a : Addr) : s.CountedAt l a := by
  refine ⟨fun c hc hmem => ?_, h.removed a, h.held a⟩
  obtain ⟨x, hx, rfl⟩ := List.mem_map.1 hmem
  have hxc : x.2 = c := Option.some.inj ((h.segment.get hx).symm.trans hc)
  exact hxc ▸ h.listed x hx

/-- **Framing.** An operation on the object at `a` has to look at this object only, when the others
stay where they are, with their counts and their lookups. -/
theorem Counted.frame (h : s.Counted l) {l' : List (Addr × ClientObject)}
    (hsegment : Segment ClientObject.next s'.memory.objects none s'.memory.first l')
    (hself : s'.CountedAt l' a)
    (hmem : ∀ b, b ≠ a → (b ∈ l'.map Prod.fst ↔ b ∈ l.map Prod.fst))
    (hheld : ∀ b, b ≠ a → s'.held.count b = s.held.count b)
    (hrefcount : ∀ b, b ≠ a → (s'.memory.objects b).map ClientObject.refcount =
      (s.memory.objects b).map ClientObject.refcount)
    (hremoved : ∀ b, b ≠ a → b ∉ l.map Prod.fst → s'.memory.objects b = s.memory.objects b) :
    s'.Counted l' := by
  have houtstanding : ∀ b, b ≠ a → s'.outstanding b = s.outstanding b :=
    fun b hb => congrArg Nat.cast (hheld b hb)
  have hheld' : ∀ b, b ≠ a → (b ∈ s'.held ↔ b ∈ s.held) := by
    intro b hb
    rw [← List.count_pos_iff, ← List.count_pos_iff, hheld b hb]
  refine ⟨hsegment, fun x hx => ?_, fun b c hc hb => ?_, fun b hb => ?_⟩
  · by_cases hxa : x.1 = a
    · rw [hxa]
      exact hself.listed x.2 (hxa ▸ hsegment.get hx) (hxa ▸ List.mem_map_of_mem hx)
    · obtain ⟨y, hy, hyx⟩ := List.mem_map.1 ((hmem x.1 hxa).1 (List.mem_map_of_mem hx))
      have hcount := hrefcount x.1 hxa
      rw [hsegment.get hx, ← hyx, h.segment.get hy, Option.map_some, Option.map_some,
        Option.some_inj] at hcount
      rw [hcount, houtstanding x.1 hxa, ← hyx]
      exact h.listed y hy
  · by_cases hba : b = a
    · subst hba
      exact hself.removed c hc hb
    · have hb' := (hmem b hba).not.1 hb
      rw [hheld' b hba, houtstanding b hba]
      exact h.removed b c (hremoved b hba hb' ▸ hc) hb'
  · by_cases hba : b = a
    · subst hba
      exact hself.held hb
    · exact ne_none_of_map_refcount_eq (hrefcount b hba) (h.held b ((hheld' b hba).1 hb))

/-- A new object at a free address. -/
theorem Counted.insert (h : s.Counted l) (ha : s.memory.objects a = none) (cl : Client) :
    Counted { s with
      memory := ⟨Function.update s.memory.objects a (some ⟨1, cl, s.memory.first⟩), some a⟩
      made := s.made + 1 } ((a, ⟨1, cl, s.memory.first⟩) :: l) := by
  have hunheld : a ∉ s.held := fun hmem => h.held a hmem ha
  have hself : Function.update s.memory.objects a (some ⟨1, cl, s.memory.first⟩) a =
      some ⟨1, cl, s.memory.first⟩ := Function.update_self _ _ _
  have hother : ∀ b, b ≠ a → Function.update s.memory.objects a
      (some ⟨1, cl, s.memory.first⟩) b = s.memory.objects b :=
    fun b hb => Function.update_of_ne hb _ _
  refine h.frame (segment_insert h.segment ha cl) ⟨fun c hc _ => ?_, fun c _ hmem => ?_, ?_⟩
    (fun b hb => ?_) (fun _ _ => rfl) (fun b hb => congrArg _ (hother b hb))
    fun b hb _ => hother b hb
  · obtain rfl := Option.some.inj (hself.symm.trans hc)
    exact (congrArg (1 + ·) (outstanding_eq_zero hunheld)).symm
  · exact absurd List.mem_cons_self hmem
  · exact fun hheld => absurd hheld hunheld
  · rw [List.map_cons, List.mem_cons, or_iff_right hb]

/-- An object whose count changes with the references to it. -/
theorem Counted.setCount (h : s.Counted l) (hc : s.memory.objects a = some c) (c' : ClientObject)
    (hnext : c'.next = c.next) {held : List Addr}
    (hcount : c'.refcount - c.refcount = held.count a - s.outstanding a)
    (hother : ∀ b, b ≠ a → held.count b = s.held.count b)
    (hremoved : a ∉ l.map Prod.fst → a ∈ held) :
    Counted { s with memory := s.memory.set a (some c'), held := held }
      (l.map fun x => if x.1 = a then (a, c') else x) := by
  have haddresses : (l.map fun x => if x.1 = a then (a, c') else x).map Prod.fst =
      l.map Prod.fst := by
    rw [List.map_map]
    refine List.map_congr_left fun x _ => ?_
    rw [Function.comp_apply]
    split_ifs with hx
    · exact hx.symm
    · rfl
  have hself : ∀ d, (s.memory.set a (some c')).objects a = some d → d = c' :=
    fun d hd => Option.some.inj (hd.symm.trans (set_objects_self a (some c') s.memory))
  have hframe : ∀ b, b ≠ a → (s.memory.set a (some c')).objects b = s.memory.objects b :=
    fun b hb => set_objects_of_ne hb _ _
  refine h.frame (h.segment.update_of_next_eq hc hnext)
    ⟨fun d hd hmem => ?_, fun d hd hmem => ?_, fun _ => ?_⟩ (fun b _ => by rw [haddresses])
    hother (fun b hb => congrArg _ (hframe b hb)) fun b hb _ => hframe b hb
  · rw [haddresses] at hmem
    have hlisted := (h.at a).listed c hc hmem
    rw [hself d hd]
    change c'.refcount = 1 + (held.count a : ℤ)
    omega
  · rw [haddresses] at hmem
    obtain ⟨-, hnone, hrefcount⟩ := h.removed a c hc hmem
    rw [hself d hd]
    refine ⟨hremoved hmem, hnext.trans hnone, ?_⟩
    change c'.refcount = (held.count a : ℤ)
    omega
  · exact set_objects_ne_none (hc ▸ Option.some_ne_none c)

/-- The last reference to an object outside of the list is given up, and the object is freed. -/
theorem Counted.free (h : s.Counted l) (hmem : a ∉ l.map Prod.fst) (hlast : s.held.count a = 1) :
    Counted { s with memory := s.memory.set a none, held := s.held.erase a } l := by
  have hself : (s.memory.set a none).objects a = none := set_objects_self a none s.memory
  have hframe : ∀ b, b ≠ a → (s.memory.set a none).objects b = s.memory.objects b :=
    fun b hb => set_objects_of_ne hb none s.memory
  have hunheld : a ∉ s.held.erase a := by
    rw [← List.count_eq_zero, List.count_erase_self, hlast]
  refine h.frame (h.segment.update_of_notMem hmem _)
    ⟨fun c hc => ?_, fun c hc => ?_, fun hheld => absurd hheld hunheld⟩ (fun _ _ => Iff.rfl)
    (fun b hb => List.count_erase_of_ne hb) (fun b hb => congrArg _ (hframe b hb))
    fun b hb _ => hframe b hb
  · exact absurd (hself.symm.trans hc) (by simp)
  · exact absurd (hself.symm.trans hc) (by simp)

/-! ### The operations -/

/-- A lookup takes a reference to the object that it finds. -/
theorem Tracked.lookup (h : s.Tracked) (client : Pid) :
    Kept s (s.lookup client) fun _ => False := by
  obtain ⟨l, h, hlength⟩ := h
  rw [ClientSystem.lookup, ClientList.find, findFrom_eq client _ h.segment hlength]
  cases hfind : (l.find? fun x => x.2.client.pid = client).map Prod.fst with
  | none => exact Tracked.refl ⟨l, h, hlength⟩
  | some a =>
    obtain ⟨c, hmem⟩ := mem_of_find?_map hfind
    have hc := h.objects_eq hmem
    have href : s.ref a =
        { s with memory := s.memory.set a (some { c with refcount := c.refcount + 1 }) } := by
      rw [ClientSystem.ref, hc]
    dsimp only
    rw [href]
    refine Kept.of_objects_ne ⟨_, h.setCount hc { c with refcount := c.refcount + 1 } rfl ?_
      (fun b hb => ?_) fun _ => List.mem_cons_self, ?_⟩ (fun b hb => ?_) rfl rfl
    · rw [List.count_cons_self, outstanding]
      push_cast
      omega
    · exact List.count_cons_of_ne (Ne.symm hb)
    · rwa [List.length_map]
    · exact set_objects_ne_none hb

/-- A lookup is given up. -/
theorem Tracked.unref (h : s.Tracked) (ha : a ∈ s.held) :
    Kept s (s.unref a) fun b => b = a ∧ s.LastReference b := by
  obtain ⟨l, h, hlength⟩ := h
  obtain ⟨c, hc⟩ := Option.ne_none_iff_exists'.1 (h.held a ha)
  have hcount : 0 < s.held.count a := List.count_pos_iff.2 ha
  have herase : (s.held.erase a).count a = s.held.count a - 1 := List.count_erase_self
  have hcases := h.refcount_eq hc
  rw [outstanding] at hcases
  have hunref : s.unref a =
      { s with memory := s.memory.set a c.released, held := s.held.erase a } := by
    by_cases hlast : 1 < c.refcount
    · simp only [ClientSystem.unref, ClientList.unref, hc, if_pos hlast, ClientObject.released]
    · rcases hcases with ⟨-, hrefcount⟩ | ⟨-, -, hnext, -⟩
      · omega
      · simp only [ClientSystem.unref, unref_of_next_eq_none hc hnext]
  rw [hunref]
  refine ⟨?_, fun b => ?_, fun _ => Or.inl, fun _ => rfl⟩
  · by_cases hlast : 1 < c.refcount
    · -- another reference keeps the object
      rw [ClientObject.released, if_pos hlast]
      refine ⟨_, h.setCount hc { c with refcount := c.refcount - 1 } rfl ?_
        (fun b hb => List.count_erase_of_ne hb) fun hmem => ?_, by rwa [List.length_map]⟩
      · rw [herase, outstanding]
        push_cast [Nat.cast_sub hcount]
        omega
      · rcases hcases with ⟨hlisted, -⟩ | ⟨-, -, -, hrefcount⟩
        · exact absurd hlisted hmem
        · rw [← List.count_pos_iff, herase]
          omega
    · -- the list holds no reference, and this is the last lookup
      rw [ClientObject.released, if_neg hlast]
      rcases hcases with ⟨-, hrefcount⟩ | ⟨hmem, -, -, hrefcount⟩
      · omega
      · exact ⟨l, h.free hmem (by omega), hlength⟩
  · rw [frees_iff_of_forall_ne fun b hb hne => ?_]
    · refine and_congr_right fun hba => ?_
      rw [hba, Frees, set_objects_self, ← h.released_eq_none_iff hc c.next]
      simp [hc]
    · rwa [set_objects_of_ne hb]

/-- What the critical section of `game_mode_context_unregister` does. -/
theorem Counted.unregister_cases (h : s.Counted l) (hlength : l.length ≤ s.made) (client : Pid) :
    s.memory.find client s.made = some none ∧ s.unregister client = s ∨
      ∃ pre a c post memory l', l = pre ++ (a, c) :: post ∧
        s.memory.find client s.made = some (some a) ∧
        s.unregister client = { s with memory := memory } ∧
        s.memory.Detached pre a c post memory l' := by
  have hmiss : ∀ k : List (Addr × ClientObject), (∀ x ∈ k, x.2.client.pid ≠ client) →
      k.find? (fun x => decide (x.2.client.pid = client)) = none := by
    intro k hk
    rw [List.find?_eq_none]
    exact fun x hx => by simpa using hk x hx
  rw [ClientList.find, findFrom_eq client _ h.segment hlength]
  rcases unlink_cases h.segment client hlength with
    ⟨hnone, hunlink⟩ | ⟨pre, a, c, post, memory, l', rfl, hpre, hpid, hunlink, hdetached⟩
  · refine Or.inl ⟨?_, by rw [ClientSystem.unregister, hunlink]⟩
    rw [hmiss l hnone, Option.map_none]
  · refine Or.inr ⟨pre, a, c, post, memory, l', rfl, ?_, ?_, hdetached⟩
    · rw [List.find?_append, hmiss pre hpre]
      simp [hpid]
    · rw [ClientSystem.unregister, hunlink]

/-- An object is taken out of the list. -/
theorem Counted.detached {pre post l' : List (Addr × ClientObject)} {memory : ClientList}
    (h : s.Counted (pre ++ (a, c) :: post))
    (hdetached : s.memory.Detached pre a c post memory l') :
    Counted { s with memory := memory } l' := by
  have hrefcount : c.refcount = 1 + s.outstanding a := h.listed (a, c) (by simp)
  have hunlisted := hdetached.notMem h.segment
  -- the object stays in use just when it was looked up
  have hobject : memory.objects a =
      if a ∈ s.held then some { c with refcount := s.outstanding a, next := none } else none := by
    rw [hdetached.object, ClientObject.released]
    by_cases hheld : a ∈ s.held
    · have hpos := outstanding_pos hheld
      rw [if_pos hheld, if_pos (by omega : 1 < c.refcount)]
      simp [hrefcount]
    · have hzero := outstanding_eq_zero hheld
      rw [if_neg hheld, if_neg (by omega : ¬1 < c.refcount)]
  refine h.frame hdetached.segment ⟨fun _ _ hmem => absurd hmem hunlisted, fun d hd _ => ?_,
    fun hheld => ?_⟩ (fun b hb => hdetached.mem_iff hb) (fun _ _ => rfl)
    (fun b hb => hdetached.map_refcount h.segment hb) fun b _ hb => hdetached.objects_of_notMem hb
  · change memory.objects a = some d at hd
    rw [hobject] at hd
    split_ifs at hd with hheld
    rw [← Option.some_inj.1 hd]
    exact ⟨hheld, rfl, rfl⟩
  · change memory.objects a ≠ none
    rw [hobject, if_pos hheld]
    exact Option.some_ne_none _

/-- The reference of the list is given up. -/
theorem Tracked.unregister (h : s.Tracked) (client : Pid) :
    Kept s (s.unregister client) fun b =>
      s.memory.find client s.made = some (some b) ∧ s.LastReference b := by
  obtain ⟨l, h, hlength⟩ := h
  rcases h.unregister_cases hlength client with
    ⟨hfind, hunregister⟩ | ⟨pre, a, c, post, memory, l', rfl, hfind, hunregister, hdetached⟩
  · rw [hunregister, hfind]
    simp only [Option.some_inj, reduceCtorEq, false_and]
    exact Tracked.refl ⟨l, h, hlength⟩
  · have hc : s.memory.objects a = some c := h.objects_eq (by simp)
    have hkeep : ∀ b, b ≠ a → s.memory.objects b ≠ none → memory.objects b ≠ none :=
      fun b hb => ne_none_of_map_refcount_eq (hdetached.map_refcount h.segment hb)
    rw [hunregister, hfind]
    refine ⟨⟨l', h.detached hdetached, ?_⟩, fun b => ?_, fun _ => Or.inl, fun _ => rfl⟩
    · have hlength' := congrArg List.length hdetached.addresses
      simp only [List.length_map, List.length_append] at hlength'
      rw [List.length_append, List.length_cons] at hlength
      change l'.length ≤ s.made
      omega
    · rw [frees_iff_of_forall_ne hkeep, Frees, hdetached.object, h.released_eq_none_iff hc none]
      rw [Option.some_inj, Option.some_inj]
      constructor
      · rintro ⟨rfl, -, hlast⟩
        exact ⟨rfl, hlast⟩
      · rintro ⟨rfl, hlast⟩
        exact ⟨rfl, hc ▸ Option.some_ne_none c, hlast⟩

/-- A round of the reaper reaches an object of the list, or ends. -/
theorem Tracked.scan (h : s.Tracked) (alive : Pid → Bool) :
    Kept s (s.scan alive) fun _ => False := by
  have htracked := h
  obtain ⟨l, h, hlength⟩ := h
  rw [ClientSystem.scan, deadFrom_eq alive _ h.segment hlength]
  cases hfind : (l.find? fun x => ¬alive x.2.client.pid).map Prod.fst with
  | none => exact htracked.refl
  | some a =>
    obtain ⟨c, hmem⟩ := mem_of_find?_map hfind
    have hc : s.memory.objects a ≠ none := h.objects_eq hmem ▸ Option.some_ne_none c
    refine ⟨htracked.of_eq rfl rfl rfl, htracked.refl.frees, fun b hb => Or.inr ?_, fun _ => rfl⟩
    obtain rfl := ReaperState.cursor.inj hb
    exact hc

/-- **Steps.** A step of either thread keeps the counts, and frees the objects that it gives up the
last reference to. -/
theorem Tracked.kept {step : ClientStep} (h : s.Tracked) (hstep : clientStep s step = some s') :
    Kept s s' (s.Releases step) := by
  cases step with
  | hasClient client =>
    obtain ⟨l, hcounted, hlength⟩ := id h
    rw [clientStep, ClientList.find, findFrom_eq client _ hcounted.segment hlength] at hstep
    obtain rfl := Option.some.inj hstep
    exact h.refl
  | insert a cl =>
    simp only [clientStep, new_insert_eq] at hstep
    split_ifs at hstep with ha
    obtain rfl := Option.some.inj hstep
    have hnone := Option.not_isSome_iff_eq_none.1 ha
    obtain ⟨l, hcounted, hlength⟩ := h
    refine Kept.of_objects_ne ⟨_, hcounted.insert hnone cl, Nat.succ_le_succ hlength⟩
      (fun b hb => ?_) rfl rfl
    have hba : b ≠ a := fun heq => hb (heq ▸ hnone)
    exact (Function.update_of_ne hba _ _).trans_ne hb
  | unregister client =>
    obtain rfl := Option.some.inj hstep
    exact h.unregister client
  | lookup client =>
    obtain rfl := Option.some.inj hstep
    exact h.lookup client
  | get client =>
    rw [clientStep] at hstep
    split_ifs at hstep with hheld hsome
    · obtain rfl := Option.some.inj hstep
      exact h.refl
    · obtain ⟨l, hcounted, -⟩ := h
      exact absurd (Option.isSome_iff_ne_none.2 (hcounted.held client hheld)) hsome
  | unref client =>
    rw [clientStep] at hstep
    split_ifs at hstep with hheld
    obtain rfl := Option.some.inj hstep
    exact (h.unref hheld).congr fun b => by simp [Releases, hheld]
  | scan alive =>
    rw [clientStep] at hstep
    split_ifs at hstep
    obtain rfl := Option.some.inj hstep
    exact h.scan alive
  | readCursor =>
    simp only [clientStep] at hstep
    split at hstep
    · next a hreaper =>
      split at hstep
      · next hnone =>
        -- the object is freed, and the read of it is a fault
        obtain rfl := Option.some.inj hstep
        exact ⟨h.of_eq rfl rfl rfl, h.refl.frees, by simp,
          fun halive => absurd hnone (halive a hreaper)⟩
      · obtain rfl := Option.some.inj hstep
        exact h.refl.leave (by simp)
    · simp at hstep
  | expire admitted =>
    simp only [clientStep] at hstep
    split at hstep
    · next pid hreaper =>
      obtain rfl := Option.some.inj hstep
      refine Kept.leave ?_ (by simp)
      by_cases hadmitted : admitted = true
      · rw [if_pos hadmitted]
        exact (h.unregister pid).congr fun b => by simp [Releases, hadmitted, hreaper]
      · rw [if_neg hadmitted]
        exact h.refl.congr fun b => by simp [Releases, hadmitted]
    · simp at hstep

/-! ### Runs -/

theorem start_tracked : start.Tracked :=
  ⟨[], ⟨rfl, by simp, by simp [start], by simp [start]⟩, le_rfl⟩

theorem Releases.unique {step : ClientStep} {a b : Addr} (ha : s.Releases step a)
    (hb : s.Releases step b) : a = b := by
  cases step with
  | unregister client =>
    exact Option.some.inj (Option.some.inj (ha.1.symm.trans hb.1))
  | unref client => exact ha.2.1.trans hb.2.1.symm
  | expire admitted =>
    obtain ⟨-, pid, hreaper, hfind, -⟩ := ha
    obtain ⟨-, pid', hreaper', hfind', -⟩ := hb
    obtain rfl := ReaperState.removing.inj (hreaper.symm.trans hreaper')
    exact Option.some.inj (Option.some.inj (hfind.symm.trans hfind'))
  | _ => exact ha.elim

theorem Tracked.freesLocally {step : ClientStep} (h : s.Tracked)
    (hstep : clientStep s step = some s') : FreesLocally s s' := by
  have hkept := h.kept hstep
  constructor
  · rintro a ⟨-, hnone⟩ hreaches
    obtain ⟨l, hcounted, -⟩ := hkept.tracked
    obtain ⟨x, hx, rfl⟩ := List.mem_map.1 (hcounted.segment.mem_of_reaches hreaches)
    exact absurd (hcounted.segment.get hx) (by simp [hnone])
  · exact fun a b ha hb => Releases.unique ((hkept.frees a).1 ha) ((hkept.frees b).1 hb)

theorem Kept.cursorAlive {step : ClientStep} (h : Kept s s' (s.Releases step))
    (halive : s.CursorAlive) (hspares : SparesCursor s step) : s'.CursorAlive := by
  intro a ha
  rcases h.cursor a ha with hreached | hne
  · intro hnone
    exact hspares a hreached ((h.frees a).1 ⟨halive a hreached, hnone⟩)
  · exact hne

theorem unregister_reaper (s : ClientSystem) (client : Pid) :
    (s.unregister client).reaper = s.reaper := by
  rw [ClientSystem.unregister]
  split <;> rfl

theorem unref_reaper (s : ClientSystem) (client : Addr) : (s.unref client).reaper = s.reaper := by
  rw [ClientSystem.unref]
  split <;> rfl

/-- A step that does not spare the cursor can be taken, and frees what the reaper has reached. -/
theorem Tracked.exists_step_of_not_sparesCursor {step : ClientStep} (h : s.Tracked)
    (hmiss : ¬SparesCursor s step) : ∃ s', clientStep s step = some s' ∧ ¬s'.CursorAlive := by
  simp only [SparesCursor, not_forall, not_not] at hmiss
  obtain ⟨a, hreaper, hreleases⟩ := hmiss
  -- it is a step of the D-Bus thread, so the reaper keeps its pointer
  have hstep : ∃ s', clientStep s step = some s' ∧ s'.reaper = s.reaper := by
    cases step with
    | unregister client => exact ⟨s.unregister client, rfl, unregister_reaper s client⟩
    | unref client => exact ⟨s.unref client, if_pos hreleases.1, unref_reaper s client⟩
    | expire admitted =>
      obtain ⟨-, pid, hremoving, -⟩ := hreleases
      exact absurd (hreaper.symm.trans hremoving) (by simp)
    | _ => exact hreleases.elim
  obtain ⟨s', hs', hkeep⟩ := hstep
  refine ⟨s', hs', fun halive => ?_⟩
  exact halive a (hkeep.trans hreaper) (((h.kept hs').frees a).2 hreleases).2

end Counted

end ClientSystem

/-- The references are counted along every run, and every step frees locally. -/
theorem tracked_along (run : List ClientStep) :
    Along clientStep ClientSystem.start run ClientSystem.Tracked :=
  fun _ _ _ ht => exec_invariant (fun _ _ _ h hstep => (h.kept hstep).tracked)
    ClientSystem.start_tracked ht

/-- **Client objects.** Along a run every object is counted with the references to it, what is used
is not freed, a step frees one object at most and none of the list, and no freed object is read,
just when no step gives up the last reference to the object that the reaper has reached. -/
theorem sound_along_iff (run : List ClientStep) :
    (Along clientStep ClientSystem.start run ClientSystem.Sound ∧
        StepsAlong clientStep ClientSystem.start run fun s step =>
          ∀ s', clientStep s step = some s' → FreesLocally s s') ↔
      StepsAlong clientStep ClientSystem.start run SparesCursor := by
  have hstart : ClientSystem.start.Tracked ∧ ClientSystem.start.Sound :=
    ⟨ClientSystem.start_tracked, ClientSystem.start_tracked.sound
      (by simp [ClientSystem.CursorAlive, ClientSystem.start]) rfl⟩
  have hstep : ∀ s step s', ClientSystem.Tracked s ∧ s.Sound → SparesCursor s step →
      clientStep s step = some s' → ClientSystem.Tracked s' ∧ s'.Sound := by
    rintro s step s' ⟨htracked, hsound⟩ hspares hs'
    have hkept := htracked.kept hs'
    exact ⟨hkept.tracked, hkept.tracked.sound (hkept.cursorAlive hsound.cursor hspares)
      ((hkept.fault hsound.cursor).trans hsound.fault)⟩
  constructor
  · rintro ⟨hsound, -⟩
    refine stepsAlong_of_along hstep (fun s step h hmiss => ?_) hstart run hsound
    obtain ⟨s', hs', hdead⟩ := h.1.exists_step_of_not_sparesCursor hmiss
    exact ⟨s', hs', fun hs => hdead hs.cursor⟩
  · intro hspares
    refine ⟨fun bs hb t ht => (along_of_stepsAlong hstep hstart hspares bs hb t ht).2, ?_⟩
    exact StepsAlong.of_invariant hstep (fun s step h _ s' hs' => h.1.freesLocally hs')
      hstart hspares

/-- The reaper finds that a game has died and lets go of the lock, and the game is unregistered
before the reaper reads its identifier. -/
theorem not_sound_along_expiry : ¬∀ run : List ClientStep,
    Along clientStep ClientSystem.start run ClientSystem.Sound ∧
      StepsAlong clientStep ClientSystem.start run fun s step =>
        ∀ s', clientStep s step = some s' → FreesLocally s s' := by
  intro h
  let run : List ClientStep :=
    [.hasClient 4242, .insert 0 ⟨4242, 4242, "/usr/bin/game".toList, 1700000000⟩,
      .scan fun pid => pid ≠ 4242, .unregister 4242, .readCursor]
  have hfault : (exec clientStep ClientSystem.start run).map ClientSystem.fault = some true := rfl
  obtain ⟨t, ht, hread⟩ := Option.map_eq_some_iff.1 hfault
  have hsound := (h run).1.exec ht
  exact absurd (hread.symm.trans hsound.fault) (by decide)

end GameMode
