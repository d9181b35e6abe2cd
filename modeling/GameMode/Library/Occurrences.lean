import Mathlib.Data.List.Infix
import Mathlib.Tactic.Common

/-!
# First occurrences of a list in a list

The search for the first occurrence of a list gives the rest of the list from there on. Whether the
list ends with what is searched for cannot be told from the first occurrence: it can where there is
no earlier one.

## Main definitions

* `Occurrences.firstTail`: the list from the first occurrence on.
* `Occurrences.OccursBefore`: an occurrence that is not at the end.

## Main results

* `Occurrences.firstTail_spec`: it is the longest tail that begins with what is searched for.
* `Occurrences.firstTail_eq_self_iff`: when the first occurrence is the one at the end.
* `Occurrences.occursBefore_iff_infix`: an earlier occurrence does not overlap with the one at the
  end if the first element occurs only once in what is searched for.
-/

namespace Occurrences

variable {α : Type*}

section Search

variable [DecidableEq α] {needle s t : List α}

/-- The tail of a list from the first occurrence of `needle` on. -/
def firstTail (needle : List α) : List α → Option (List α)
  | [] => if needle <+: [] then some [] else none
  | a :: s => if needle <+: a :: s then some (a :: s) else firstTail needle s

theorem firstTail_of_prefix (h : needle <+: s) : firstTail needle s = some s := by
  cases s with
  | nil => exact if_pos h
  | cons a s => exact if_pos h

/-- The first occurrence is an occurrence, and every other one is further on. -/
theorem firstTail_spec (h : firstTail needle s = some t) :
    t <:+ s ∧ needle <+: t ∧ ∀ u, u <:+ s → needle <+: u → u.length ≤ t.length := by
  induction s with
  | nil =>
    rw [firstTail, Option.ite_none_right_eq_some, Option.some_inj] at h
    obtain ⟨hbegins, rfl⟩ := h
    exact ⟨List.suffix_rfl, hbegins, fun u hu _ => hu.length_le⟩
  | cons a s ih =>
    rw [firstTail] at h
    split_ifs at h with hbegins
    · obtain rfl := Option.some_inj.1 h
      exact ⟨List.suffix_rfl, hbegins, fun u hu _ => hu.length_le⟩
    · obtain ⟨htail, hneedle, hfirst⟩ := ih h
      refine ⟨htail.trans (List.suffix_cons a s), hneedle, fun u hu hneedle' => ?_⟩
      rcases List.suffix_cons_iff.1 hu with rfl | hu
      · exact absurd hneedle' hbegins
      · exact hfirst u hu hneedle'

/-- A list in which there is an occurrence has a first one. -/
theorem exists_firstTail (ht : t <:+ s) (h : needle <+: t) : ∃ u, firstTail needle s = some u := by
  induction s with
  | nil =>
    obtain rfl := List.suffix_nil.1 ht
    exact ⟨[], firstTail_of_prefix h⟩
  | cons a s ih =>
    rw [firstTail]
    split_ifs with hbegins
    · exact ⟨a :: s, rfl⟩
    · rcases List.suffix_cons_iff.1 ht with rfl | ht
      · exact absurd h hbegins
      · exact ih ht

end Search

/-- There is an occurrence of `needle` in `s` that is not at the end. -/
def OccursBefore (needle s : List α) : Prop :=
  ∃ t, t <:+ s ∧ needle <+: t ∧ needle.length < t.length

/-- **First and last occurrence.** The first occurrence is the one at the end when the list ends
with `needle` and there is no earlier occurrence. -/
theorem firstTail_eq_self_iff [DecidableEq α] {needle s : List α} :
    firstTail needle s = some needle ↔ needle <:+ s ∧ ¬OccursBefore needle s := by
  constructor
  · intro h
    obtain ⟨htail, -, hfirst⟩ := firstTail_spec h
    refine ⟨htail, ?_⟩
    rintro ⟨t, ht, hneedle, hlength⟩
    exact absurd (hfirst t ht hneedle) (Nat.not_le.2 hlength)
  · rintro ⟨hsuffix, hbefore⟩
    obtain ⟨t, ht⟩ := exists_firstTail hsuffix List.prefix_rfl
    obtain ⟨htail, hneedle, -⟩ := firstTail_spec ht
    have hlength : t.length ≤ needle.length := by
      by_contra hlonger
      exact hbefore ⟨t, htail, hneedle, Nat.not_le.1 hlonger⟩
    rw [ht, hneedle.eq_of_length_le hlength]

/-- What begins with an element that does not occur again in it cannot overlap with itself: an
occurrence that is not the one at the end is before it. -/
theorem occursBefore_iff_infix {a : α} {name dir : List α} (ha : a ∉ name) :
    OccursBefore (a :: name) (dir ++ a :: name) ↔ a :: name <:+: dir := by
  constructor
  · rintro ⟨t, ht, hneedle, hlength⟩
    obtain ⟨x, rfl⟩ : ∃ x, t = x ++ a :: name := by
      obtain ⟨x, hx⟩ := List.suffix_of_suffix_length_le (List.suffix_append dir (a :: name)) ht
        hlength.le
      exact ⟨x, hx.symm⟩
    have hx : x <:+ dir := List.suffix_append_self_iff.1 ht
    have hbegins : a :: name <+: x := by
      rcases List.prefix_or_prefix_of_prefix hneedle (List.prefix_append x (a :: name)) with h | h
      · exact h
      · obtain ⟨rest, hrest⟩ := h
        rw [← hrest, List.prefix_append_right_inj, hrest] at hneedle
        cases rest with
        | nil => exact (List.append_nil x ▸ hrest) ▸ List.prefix_rfl
        | cons b rest =>
          -- a second `a` inside of what begins with `a`
          obtain ⟨rfl, -⟩ := List.cons_prefix_cons.1 hneedle
          cases x with
          | nil => simp at hlength
          | cons c x =>
            rw [List.cons_append, List.cons.injEq] at hrest
            exact absurd (hrest.2 ▸ List.mem_append_right x List.mem_cons_self) ha
    exact hbegins.isInfix.trans hx.isInfix
  · rintro ⟨before, after, rfl⟩
    refine ⟨a :: name ++ (after ++ a :: name), ⟨before, by simp⟩, List.prefix_append _ _, ?_⟩
    simp only [List.length_append, List.length_cons]
    omega

end Occurrences
