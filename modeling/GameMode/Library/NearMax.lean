import Mathlib.Data.Finset.Insert
import Mathlib.Order.Lattice
import Mathlib.Tactic.Common

/-!
# Collecting what is near a maximum in one pass

Readings come one after the other, each with the key of what was read. A pass keeps the highest
reading so far, and the keys of the readings near it: a reading is near a maximum that `up` of it
reaches. A reading above the maximum is the next maximum, and when the maximum before it does not
reach `down` of it, the reading is a jump: what was collected before is dropped.

Nothing is dropped otherwise. A reading that was near the maximum when it came stays, also when the
maximum moves away from it in small steps; so the pass collects what is near the highest of all
readings exactly when there is no such reading.

## Main definitions

* `NearMax`, `NearMax.step`, `NearMax.run`: the pass.
* `NearMax.Jumps`, `NearMax.Collects`: what becomes of what was collected before, and of a reading.
* `NearMax.Settled`: no reading is left behind by small steps.

## Main results

* `NearMax.mem_kept_run`: what the pass collects.
* `NearMax.kept_exact_iff`: when it collects what is near the highest reading.
* `NearMax.kept_exact_id`: without a margin it always does.
-/

/-- The highest reading so far, and the keys that are collected. -/
structure NearMax (ι α : Type*) where
  /-- The highest reading. -/
  max : α
  /-- The keys collected. -/
  kept : Finset ι

namespace NearMax

variable {ι α : Type*} [LinearOrder α] (up down : α → α)

/-- The highest of a value and some readings. -/
def maxFrom (m : α) (rs : List (ι × α)) : α := rs.foldl (fun m r => Max.max m r.2) m

/-- After the maximum `m`, one of the readings is a jump. -/
def Jumps (m : α) : List (ι × α) → Prop
  | [] => False
  | r :: rs => m < r.2 ∧ m < down r.2 ∨ Jumps (Max.max m r.2) rs

/-- After the maximum `m`, a reading of the key is near the maximum when it comes, and no jump
follows it. -/
def Collects (m : α) (i : ι) : List (ι × α) → Prop
  | [] => False
  | r :: rs =>
    r.1 = i ∧ Max.max m r.2 ≤ up r.2 ∧ ¬Jumps down (Max.max m r.2) rs ∨
      Collects (Max.max m r.2) i rs

/-- After the maximum `m`, every reading that is near the maximum when it comes is near the highest
one, or a jump follows it. -/
def Settled (m : α) : List (ι × α) → Prop
  | [] => True
  | r :: rs =>
    (Max.max m r.2 ≤ up r.2 → Jumps down (Max.max m r.2) rs ∨
      maxFrom (Max.max m r.2) rs ≤ up r.2) ∧ Settled (Max.max m r.2) rs

instance decidableJumps : ∀ (m : α) (rs : List (ι × α)), Decidable (Jumps down m rs)
  | _, [] => inferInstanceAs (Decidable False)
  | m, r :: rs =>
    have := decidableJumps (Max.max m r.2) rs
    inferInstanceAs (Decidable (m < r.2 ∧ m < down r.2 ∨ Jumps down (Max.max m r.2) rs))

instance decidableSettled : ∀ (m : α) (rs : List (ι × α)), Decidable (Settled up down m rs)
  | _, [] => inferInstanceAs (Decidable True)
  | m, r :: rs =>
    have := decidableSettled (Max.max m r.2) rs
    inferInstanceAs (Decidable ((Max.max m r.2 ≤ up r.2 → Jumps down (Max.max m r.2) rs ∨
      maxFrom (Max.max m r.2) rs ≤ up r.2) ∧ Settled up down (Max.max m r.2) rs))

section Readings

variable {up down}

theorem le_maxFrom : ∀ {rs : List (ι × α)} {m : α}, m ≤ maxFrom m rs ∧
    ∀ r ∈ rs, r.2 ≤ maxFrom m rs
  | [], _ => ⟨le_rfl, nofun⟩
  | r :: rs, m => by
    obtain ⟨hm, hrs⟩ := @le_maxFrom rs (Max.max m r.2)
    refine ⟨(le_max_left _ _).trans hm, List.forall_mem_cons.2 ⟨?_, hrs⟩⟩
    exact (le_max_right _ _).trans hm

/-- What bounds all readings bounds the highest one. -/
theorem maxFrom_le_iff : ∀ {rs : List (ι × α)} {m b : α},
    maxFrom m rs ≤ b ↔ m ≤ b ∧ ∀ r ∈ rs, r.2 ≤ b
  | [], _, _ => ⟨fun h => ⟨h, nofun⟩, And.left⟩
  | r :: rs, m, b => by
    have ih := @maxFrom_le_iff rs (Max.max m r.2) b
    rw [List.forall_mem_cons, ← and_assoc, ← max_le_iff, ← ih]
    rfl

/-- Where every higher reading is a jump, there is a jump when there is a higher reading. -/
theorem jumps_iff {m : α} (h : ∀ b, m < b → m < down b) : ∀ {rs : List (ι × α)},
    Jumps down m rs ↔ ∃ r ∈ rs, m < r.2
  | [] => ⟨nofun, nofun⟩
  | r :: rs => by
    rw [Jumps, List.exists_mem_cons_iff]
    rcases lt_or_ge m r.2 with hr | hr
    · exact ⟨fun _ => Or.inl hr, fun _ => Or.inl ⟨hr, h _ hr⟩⟩
    · rw [max_eq_left hr, jumps_iff h]
      exact or_congr_left ⟨fun hjump => hjump.1, fun hlt => absurd hlt (not_lt.2 hr)⟩

/-- A jump goes beyond everything before it. -/
theorem jumps_iff_append : ∀ {rs : List (ι × α)} {m : α}, Jumps down m rs ↔
    ∃ before r after, rs = before ++ r :: after ∧ maxFrom m before < r.2 ∧
      maxFrom m before < down r.2
  | [], m => by simp [Jumps]
  | r :: rs, m => by
    rw [Jumps, jumps_iff_append]
    constructor
    · rintro (h | ⟨before, r', after, rfl, h⟩)
      · exact ⟨[], r, rs, rfl, h⟩
      · exact ⟨r :: before, r', after, rfl, h⟩
    · rintro ⟨before, r', after, heq, h⟩
      cases before with
      | nil =>
        obtain ⟨rfl, rfl⟩ := List.cons.inj heq
        exact Or.inl h
      | cons r'' before =>
        obtain ⟨rfl, rfl⟩ := List.cons.inj heq
        exact Or.inr ⟨before, r', after, rfl, h⟩

/-- No reading is left behind: one that is near the maximum when it comes, and not near the highest
reading, is followed by a jump. -/
theorem settled_iff : ∀ {rs : List (ι × α)} {m : α}, Settled up down m rs ↔
    ∀ before r after, rs = before ++ r :: after → maxFrom m (before ++ [r]) ≤ up r.2 →
      Jumps down (maxFrom m (before ++ [r])) after ∨ maxFrom m rs ≤ up r.2
  | [], m => by simp [Settled]
  | r :: rs, m => by
    rw [Settled, settled_iff]
    constructor
    · rintro ⟨hr, hrs⟩ before r' after heq
      cases before with
      | nil =>
        obtain ⟨rfl, rfl⟩ := List.cons.inj heq
        exact hr
      | cons r'' before =>
        obtain ⟨rfl, rfl⟩ := List.cons.inj heq
        exact hrs before r' after rfl
    · refine fun h => ⟨h [] r rs rfl, fun before r' after heq => ?_⟩
      exact h (r :: before) r' after (heq ▸ rfl)

section Margin

variable (hjump : ∀ {a m b : α}, a ≤ m → m < b → m < down b → up a < b)
include hjump

/-- A jump goes beyond everything near the readings before it. -/
theorem lt_maxFrom_of_jumps : ∀ {rs : List (ι × α)} {m a : α}, a ≤ m → Jumps down m rs →
    up a < maxFrom m rs
  | r :: _, _, _, ha, Or.inl h =>
    (hjump ha h.1 h.2).trans_le (le_maxFrom.2 r List.mem_cons_self)
  | r :: rs, m, _, ha, Or.inr h =>
    @lt_maxFrom_of_jumps rs (Max.max m r.2) _ (ha.trans (le_max_left _ _)) h

/-- A reading near the highest one is collected. -/
theorem collects_of_near : ∀ {rs : List (ι × α)} {m : α} {r : ι × α}, r ∈ rs →
    maxFrom m rs ≤ up r.2 → Collects up down m r.1 rs
  | r :: rs, m, r', hr, hnear => by
    rcases List.mem_cons.1 hr with rfl | hmem
    · refine Or.inl ⟨rfl, le_maxFrom.1.trans hnear, fun h => ?_⟩
      exact absurd (lt_maxFrom_of_jumps hjump (le_max_right _ _) h) (not_lt.2 hnear)
    · exact Or.inr (collects_of_near hmem hnear)

end Margin

/-- What is collected is the key of a reading. -/
theorem Collects.exists_mem : ∀ {rs : List (ι × α)} {m : α} {i : ι}, Collects up down m i rs →
    ∃ r ∈ rs, r.1 = i
  | r :: _, _, _, Or.inl h => ⟨r, List.mem_cons_self, h.1⟩
  | r :: rs, _, _, Or.inr h => by
    obtain ⟨r', hr', hkey⟩ := h.exists_mem
    exact ⟨r', List.mem_cons_of_mem r hr', hkey⟩

/-- Where no reading is left behind, what is collected is near the highest reading. -/
theorem Settled.exists_near : ∀ {rs : List (ι × α)} {m : α} {i : ι}, Settled up down m rs →
    Collects up down m i rs → ∃ r ∈ rs, r.1 = i ∧ maxFrom m rs ≤ up r.2
  | r :: _, _, _, hsettled, Or.inl ⟨hkey, hnear, hjump⟩ =>
    ⟨r, List.mem_cons_self, hkey, (hsettled.1 hnear).resolve_left hjump⟩
  | r :: rs, _, _, hsettled, Or.inr h => by
    obtain ⟨r', hr', hkey, hnear⟩ := hsettled.2.exists_near h
    exact ⟨r', List.mem_cons_of_mem r hr', hkey, hnear⟩

/-- A reading that is left behind is collected, and is not near the highest one. -/
theorem exists_left_behind : ∀ {rs : List (ι × α)} {m : α}, ¬Settled up down m rs →
    ∃ r ∈ rs, Collects up down m r.1 rs ∧ ¬maxFrom m rs ≤ up r.2
  | [], _, h => absurd trivial h
  | r :: rs, m, h => by
    by_cases hrest : Settled up down (Max.max m r.2) rs
    · rw [Settled, not_and_or, Classical.not_imp, not_or] at h
      obtain ⟨hnear, hjump, hfar⟩ := h.resolve_right (not_not_intro hrest)
      exact ⟨r, List.mem_cons_self, Or.inl ⟨rfl, hnear, hjump⟩, hfar⟩
    · obtain ⟨r', hr', hcollects, hfar⟩ := exists_left_behind hrest
      exact ⟨r', List.mem_cons_of_mem r hr', Or.inr hcollects, hfar⟩

/-- Where no reading goes beyond the maximum, every reading near it is collected. -/
theorem collects_iff_of_le : ∀ {rs : List (ι × α)} {m : α} {i : ι},
    (∀ r ∈ rs, r.2 ≤ m ∧ m ≤ up r.2) → (Collects up down m i rs ↔ ∃ r ∈ rs, r.1 = i)
  | [], m, i, _ => by simp [Collects]
  | r :: rs, m, i, h => by
    obtain ⟨⟨hle, hnear⟩, hrs⟩ := List.forall_mem_cons.1 h
    have hjump : ¬Jumps down m rs := by
      rw [jumps_iff_append]
      rintro ⟨before, r', after, rfl, hlt, -⟩
      have hle' := (hrs r' (List.mem_append_right before List.mem_cons_self)).1
      exact absurd (le_maxFrom.1.trans_lt hlt) (not_lt.2 hle')
    rw [Collects, max_eq_left hle, collects_iff_of_le hrs, List.exists_mem_cons_iff]
    simp only [hnear, hjump, not_false_eq_true, and_true]

/-- Without a margin no reading is left behind. -/
theorem settled_id : ∀ {rs : List (ι × α)} {m : α}, Settled id id m rs
  | [], _ => trivial
  | r :: rs, m => by
    refine ⟨fun hnear => ?_, settled_id⟩
    by_cases hhigher : ∃ r' ∈ rs, Max.max m r.2 < r'.2
    · exact Or.inl ((jumps_iff fun _ h => h).2 hhigher)
    · simp only [not_exists, not_and, not_lt] at hhigher
      exact Or.inr ((maxFrom_le_iff.2 ⟨le_rfl, hhigher⟩).trans hnear)

end Readings

/-! ### The pass -/

variable [DecidableEq ι]

/-- A reading of the pass. -/
def step (s : NearMax ι α) (r : ι × α) : NearMax ι α :=
  let s := if s.max < r.2 then ⟨r.2, if s.max < down r.2 then ∅ else s.kept⟩ else s
  if s.max ≤ up r.2 then { s with kept := insert r.1 s.kept } else s

/-- The pass over some readings. -/
def run (s : NearMax ι α) (rs : List (ι × α)) : NearMax ι α := rs.foldl (step up down) s

variable {up down}

theorem step_of_lt {s : NearMax ι α} {r : ι × α} (h : s.max < r.2) :
    s.step up down r = ⟨r.2,
      if r.2 ≤ up r.2 then insert r.1 (if s.max < down r.2 then ∅ else s.kept)
      else if s.max < down r.2 then ∅ else s.kept⟩ := by
  simp only [step, if_pos h]
  split_ifs <;> rfl

theorem step_of_le {s : NearMax ι α} {r : ι × α} (h : r.2 ≤ s.max) :
    s.step up down r = ⟨s.max, if s.max ≤ up r.2 then insert r.1 s.kept else s.kept⟩ := by
  simp only [step, if_neg (not_lt.2 h)]
  split_ifs <;> rfl

theorem step_max (s : NearMax ι α) (r : ι × α) :
    (s.step up down r).max = Max.max s.max r.2 := by
  rcases lt_or_ge s.max r.2 with h | h
  · rw [step_of_lt h, max_eq_right h.le]
  · rw [step_of_le h, max_eq_left h]

/-- What a reading leaves of the keys collected before, and adds to them. -/
theorem mem_kept_step {s : NearMax ι α} {r : ι × α} {i : ι} :
    i ∈ (s.step up down r).kept ↔
      i ∈ s.kept ∧ ¬(s.max < r.2 ∧ s.max < down r.2) ∨
        r.1 = i ∧ Max.max s.max r.2 ≤ up r.2 := by
  rcases lt_or_ge s.max r.2 with h | h
  · rw [step_of_lt h, max_eq_right h.le]
    split_ifs with hup hjump hjump <;> simp [h, hup, hjump, or_comm, eq_comm]
  · have hnot : ¬s.max < r.2 := not_lt.2 h
    rw [step_of_le h, max_eq_left h]
    split_ifs with hup <;> simp [hnot, hup, or_comm, eq_comm]

/-- **The pass.** What is collected was there before and no jump drops it, or it is collected. -/
theorem mem_kept_run {i : ι} : ∀ {rs : List (ι × α)} {s : NearMax ι α},
    i ∈ (s.run up down rs).kept ↔
      i ∈ s.kept ∧ ¬Jumps down s.max rs ∨ Collects up down s.max i rs
  | [], s => by simp [run, Jumps, Collects]
  | r :: rs, s => by
    have ih := @mem_kept_run i rs (s.step up down r)
    rw [run, List.foldl_cons, ← run, ih, mem_kept_step, step_max, Jumps, Collects, not_or,
      or_and_right, and_assoc, and_assoc, or_assoc]

/-- The pass depends on the margins of the readings only. -/
theorem run_congr {up' down' : α → α} : ∀ {rs : List (ι × α)} {s : NearMax ι α},
    (∀ r ∈ rs, up r.2 = up' r.2 ∧ down r.2 = down' r.2) → s.run up down rs = s.run up' down' rs
  | [], _, _ => rfl
  | r :: rs, s, h => by
    obtain ⟨⟨hup, hdown⟩, hrs⟩ := List.forall_mem_cons.1 h
    have hstep : s.step up down r = s.step up' down' r := by rw [step, step, hup, hdown]
    rw [run, run, List.foldl_cons, List.foldl_cons, hstep]
    exact run_congr hrs

theorem run_max : ∀ {rs : List (ι × α)} {s : NearMax ι α},
    (s.run up down rs).max = maxFrom s.max rs
  | [], _ => rfl
  | r :: rs, s => by
    rw [run, List.foldl_cons, ← run, run_max, step_max]
    rfl

/-- **What is near the maximum.** When every key has one reading and nothing was collected before
that stays, the pass collects what is near the highest reading exactly when no reading is left
behind. -/
theorem kept_exact_iff (hjump : ∀ {a m b : α}, a ≤ m → m < b → m < down b → up a < b)
    {rs : List (ι × α)} {s : NearMax ι α}
    (hkeys : ∀ r ∈ rs, ∀ r' ∈ rs, r.1 = r'.1 → r.2 = r'.2)
    (hstart : s.kept = ∅ ∨ Jumps down s.max rs) :
    (∀ i, i ∈ (s.run up down rs).kept ↔ ∃ r ∈ rs, r.1 = i ∧ maxFrom s.max rs ≤ up r.2) ↔
      Settled up down s.max rs := by
  have hkept : ∀ i, i ∈ (s.run up down rs).kept ↔ Collects up down s.max i rs := by
    intro i
    rw [mem_kept_run, or_iff_right]
    rintro ⟨hmem, hnot⟩
    rcases hstart with hempty | hdrop
    · rw [hempty] at hmem
      exact absurd hmem (Finset.notMem_empty i)
    · exact hnot hdrop
  constructor
  · intro hexact
    by_contra hsettled
    obtain ⟨r, hr, hcollects, hfar⟩ := exists_left_behind hsettled
    obtain ⟨r', hr', hkey, hnear⟩ := (hexact r.1).1 ((hkept r.1).2 hcollects)
    rw [hkeys r' hr' r hr hkey] at hnear
    exact hfar hnear
  · intro hsettled i
    rw [hkept]
    constructor
    · exact hsettled.exists_near
    · rintro ⟨r, hr, rfl, hnear⟩
      exact collects_of_near hjump hr hnear

/-- Without a margin, the pass collects the keys of the highest readings. -/
theorem kept_exact_id {rs : List (ι × α)} {s : NearMax ι α}
    (hkeys : ∀ r ∈ rs, ∀ r' ∈ rs, r.1 = r'.1 → r.2 = r'.2) (hstart : s.kept = ∅) (i : ι) :
    i ∈ (s.run id id rs).kept ↔ ∃ r ∈ rs, r.1 = i ∧ maxFrom s.max rs ≤ r.2 :=
  (kept_exact_iff (fun ha _ hm => ha.trans_lt hm) hkeys (Or.inl hstart)).2 settled_id i

end NearMax
