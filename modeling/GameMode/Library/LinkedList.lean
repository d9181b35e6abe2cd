import Mathlib.Data.List.Nodup
import Mathlib.Logic.Function.Basic

/-!
# Singly linked lists in memory

A memory is a partial function from addresses to cells, and `next` is the link of a cell. The cells
from a pointer `p` up to a pointer `q` are a list segment; a linked list is a segment that ends at
the null pointer. A linked list is determined by its first pointer, so no address occurs in it
twice, and a write to one of its cells changes that cell only.

## Main definitions

* `LinkedList.Segment`: the cells from one pointer up to another.
* `LinkedList.Reaches`: the addresses that the links lead to, which need not be in use.

## Main results

* `LinkedList.segment_append`: segments compose.
* `LinkedList.Segment.unique`, `LinkedList.Segment.nodup`: a linked list is determined by its first
  pointer, and its addresses are distinct.
* `LinkedList.Segment.mem_of_reaches`: the links of a linked list lead to its cells only.
* `LinkedList.Segment.update_of_notMem`: a write outside of a segment keeps it.
* `LinkedList.Segment.update_last`: a write to the last cell of a segment changes where it ends.
* `LinkedList.Segment.update_of_next_eq`: a write that keeps a link keeps the segment.
-/

namespace LinkedList

variable {α β : Type*} {next : β → Option α} {mem : α → Option β}

/-- The cells `l` lead from the pointer `p` to the pointer `q`. Each cell comes with its address. -/
def Segment (next : β → Option α) (mem : α → Option β) (q : Option α) :
    Option α → List (α × β) → Prop
  | p, [] => p = q
  | p, (a, c) :: l => p = some a ∧ mem a = some c ∧ Segment next mem q (next c) l

@[simp] theorem segment_nil {p q : Option α} : Segment next mem q p [] ↔ p = q := Iff.rfl

@[simp] theorem segment_cons {p q : Option α} {a : α} {c : β} {l : List (α × β)} :
    Segment next mem q p ((a, c) :: l) ↔
      p = some a ∧ mem a = some c ∧ Segment next mem q (next c) l := Iff.rfl

/-- Segments compose. -/
theorem segment_append {q : Option α} : {p : Option α} → {l₁ l₂ : List (α × β)} →
    (Segment next mem q p (l₁ ++ l₂) ↔
      ∃ m, Segment next mem m p l₁ ∧ Segment next mem q m l₂)
  | p, [], l₂ => by simp
  | p, (a, c) :: l₁, l₂ => by
    rw [List.cons_append, segment_cons, segment_append]
    constructor
    · rintro ⟨hp, hc, m, h₁, h₂⟩
      exact ⟨m, ⟨hp, hc, h₁⟩, h₂⟩
    · rintro ⟨m, ⟨hp, hc, h₁⟩, h₂⟩
      exact ⟨hp, hc, m, h₁, h₂⟩

/-- The addresses of a segment hold its cells. -/
theorem Segment.get {q p : Option α} {l : List (α × β)} (h : Segment next mem q p l)
    {x : α × β} (hx : x ∈ l) : mem x.1 = some x.2 := by
  obtain ⟨l₁, l₂, rfl⟩ := List.append_of_mem hx
  obtain ⟨m, -, -, hget, -⟩ := segment_append.1 h
  exact hget

/-- The first pointer of a linked list is the address of its first cell. -/
theorem Segment.first_eq : {p : Option α} → {l : List (α × β)} →
    Segment next mem none p l → p = l.head?.map Prod.fst
  | _, [], h => h
  | _, (_, _) :: _, h => h.1

/-- A segment is read from its own addresses only. -/
theorem Segment.congr {mem' : α → Option β} {q : Option α} :
    {p : Option α} → {l : List (α × β)} → Segment next mem q p l →
      (∀ x ∈ l, mem' x.1 = mem x.1) → Segment next mem' q p l
  | _, [], h, _ => h
  | _, (_, _) :: _, ⟨hp, hc, h⟩, heq =>
    ⟨hp, (heq _ List.mem_cons_self).trans hc,
      h.congr fun x hx => heq x (List.mem_cons_of_mem _ hx)⟩

/-- A linked list is determined by its first pointer. -/
theorem Segment.unique : {p : Option α} → {l l' : List (α × β)} →
    Segment next mem none p l → Segment next mem none p l' → l = l'
  | _, [], [], _, _ => rfl
  | _, [], (_, _) :: _, rfl, ⟨hp, _⟩ => nomatch hp
  | _, (_, _) :: _, [], ⟨hp, _⟩, rfl => nomatch hp
  | _, (a, c) :: l, (a', c') :: l', ⟨hp, hc, h⟩, ⟨hp', hc', h'⟩ => by
    obtain rfl : a = a' := Option.some.inj (hp.symm.trans hp')
    obtain rfl : c = c' := Option.some.inj (hc.symm.trans hc')
    rw [h.unique h']

/-- The addresses of a linked list are distinct: the list cannot come back to a cell that it has
left. -/
theorem Segment.nodup : {p : Option α} → {l : List (α × β)} →
    Segment next mem none p l → (l.map Prod.fst).Nodup
  | _, [], _ => List.nodup_nil
  | p, (a, c) :: l, h => by
    rw [List.map_cons, List.nodup_cons]
    refine ⟨fun hmem => ?_, h.2.2.nodup⟩
    obtain ⟨⟨a', c'⟩, hx, rfl : a' = a⟩ := List.mem_map.1 hmem
    obtain ⟨l₁, l₂, rfl⟩ := List.append_of_mem hx
    obtain ⟨m, -, hm⟩ := segment_append.1 h.2.2
    obtain rfl : m = p := hm.1.trans h.1.symm
    -- the list from the second occurrence on would be the whole list
    have hlength := congrArg List.length (h.unique hm)
    simp only [List.length_cons, List.length_append] at hlength
    omega

/-- The links lead from the pointer `p` to an address, which need not be in use. -/
inductive Reaches (next : β → Option α) (mem : α → Option β) (p : Option α) : α → Prop
  /-- The pointer itself. -/
  | first {a : α} (h : p = some a) : Reaches next mem p a
  /-- The link of a cell. -/
  | link {a b : α} {c : β} (h : Reaches next mem p a) (hc : mem a = some c)
      (hb : next c = some b) : Reaches next mem p b

/-- The links of a linked list lead to its cells only. -/
theorem Segment.mem_of_reaches {p : Option α} {l : List (α × β)} (h : Segment next mem none p l)
    {a : α} (ha : Reaches next mem p a) : a ∈ l.map Prod.fst := by
  induction ha with
  | first hp =>
    rw [h.first_eq, ← List.head?_map] at hp
    exact List.mem_of_head? hp
  | @link a b c _ hc hb ih =>
    obtain ⟨⟨a', c'⟩, hmem, rfl : a' = a⟩ := List.mem_map.1 ih
    obtain rfl : c = c' := Option.some.inj (hc.symm.trans (h.get hmem))
    obtain ⟨l₁, l₂, rfl⟩ := List.append_of_mem hmem
    -- the next cell is the first one of the rest
    obtain ⟨m, -, -, -, hrest⟩ := segment_append.1 h
    have hfirst := hb.symm.trans hrest.first_eq
    rw [← List.head?_map] at hfirst
    rw [List.map_append, List.map_cons]
    exact List.mem_append_right _ (List.mem_cons_of_mem _ (List.mem_of_head? hfirst.symm))

section Update

variable [DecidableEq α]

/-- A write outside of a segment keeps the segment. -/
theorem Segment.update_of_notMem {q p : Option α} {l : List (α × β)} (h : Segment next mem q p l)
    {a : α} (ha : a ∉ l.map Prod.fst) (c : Option β) :
    Segment next (Function.update mem a c) q p l :=
  h.congr fun x hx => Function.update_of_ne
    (fun hxa : x.1 = a => ha (hxa ▸ List.mem_map_of_mem hx)) _ _

/-- A write to the last cell of a segment changes where the segment ends. -/
theorem Segment.update_last {q p : Option α} {l : List (α × β)} {a : α} {c c' : β}
    (h : Segment next mem q p (l ++ [(a, c)])) (ha : a ∉ l.map Prod.fst) :
    Segment next (Function.update mem a (some c')) (next c') p (l ++ [(a, c')]) := by
  obtain ⟨m, hl, hm, -, -⟩ := segment_append.1 h
  exact segment_append.2 ⟨m, hl.update_of_notMem ha _, hm, Function.update_self _ _ _, rfl⟩

/-- A write to a cell that keeps its link keeps the segment, with the new cell in its place. -/
theorem Segment.update_of_next_eq {q : Option α} {a : α} {c c' : β} (ha : mem a = some c)
    (hnext : next c' = next c) : {p : Option α} → {l : List (α × β)} → Segment next mem q p l →
      Segment next (Function.update mem a (some c')) q p
        (l.map fun x => if x.1 = a then (a, c') else x)
  | _, [], h => h
  | _, (b, d) :: l, ⟨hp, hd, h⟩ => by
    rw [List.map_cons]
    by_cases hb : b = a
    · subst hb
      obtain rfl : d = c := Option.some.inj (hd.symm.trans ha)
      rw [if_pos rfl]
      refine ⟨hp, Function.update_self _ _ _, ?_⟩
      rw [hnext]
      exact h.update_of_next_eq ha hnext
    · rw [if_neg hb]
      exact ⟨hp, (Function.update_of_ne hb _ _).trans hd, h.update_of_next_eq ha hnext⟩

end Update

end LinkedList
