import Mathlib.Data.List.Basic

/-!
# Ranges of consecutive numbers

A list of numbers as a list of ranges: the numbers are taken one after the other into the range at
hand, and a number that does not continue it starts the next one. The ranges give the list back,
whatever the list is.

## Main definitions

* `Ranges.expand`: the numbers of a range.
* `Ranges.ofList`: the ranges of a list.

## Main results

* `Ranges.flatMap_expand_ofList`: the ranges of a list give the list back.
* `Ranges.mem_ofList`: no range is empty, and its last number is one of the list.
-/

namespace Ranges

/-- The numbers of a range, from its first one to its last one. -/
def expand (range : ℕ × ℕ) : List ℕ := List.range' range.1 (range.2 + 1 - range.1)

/-- The ranges of the numbers that follow a range. -/
def ofListFrom : ℕ × ℕ → List ℕ → List (ℕ × ℕ)
  | range, [] => [range]
  | (first, last), n :: ns =>
    if last + 1 = n then ofListFrom (first, n) ns else (first, last) :: ofListFrom (n, n) ns

/-- The ranges of a list. -/
def ofList : List ℕ → List (ℕ × ℕ)
  | [] => []
  | n :: ns => ofListFrom (n, n) ns

@[simp] theorem expand_self (n : ℕ) : expand (n, n) = [n] := by
  rw [expand, Nat.add_sub_cancel_left, List.range'_one]

/-- A range that is continued by a number. -/
theorem expand_succ {first last : ℕ} (h : first ≤ last) :
    expand (first, last + 1) = expand (first, last) ++ [last + 1] := by
  have hlength : last + 1 + 1 - first = last + 1 - first + 1 := by omega
  have hlast : first + (last + 1 - first) = last + 1 := by omega
  simp only [expand, hlength, List.range'_concat, Nat.one_mul, hlast]

theorem flatMap_expand_ofListFrom (ns : List ℕ) :
    ∀ {first last : ℕ}, first ≤ last →
      (ofListFrom (first, last) ns).flatMap expand = expand (first, last) ++ ns := by
  induction ns with
  | nil => simp [ofListFrom]
  | cons n ns ih =>
    intro first last h
    rw [ofListFrom]
    split_ifs with hnext
    · rw [← hnext, ih (Nat.le_succ_of_le h), expand_succ h, List.append_assoc]
      rfl
    · rw [List.flatMap_cons, ih (Nat.le_refl _), expand_self]
      rfl

/-- **Round trip.** The ranges of a list give the list back. -/
theorem flatMap_expand_ofList (ns : List ℕ) : (ofList ns).flatMap expand = ns := by
  cases ns with
  | nil => rfl
  | cons n ns =>
    rw [ofList, flatMap_expand_ofListFrom ns (Nat.le_refl _), expand_self]
    rfl

theorem mem_ofListFrom (ns : List ℕ) :
    ∀ {first last : ℕ} {range : ℕ × ℕ}, first ≤ last → range ∈ ofListFrom (first, last) ns →
      range.1 ≤ range.2 ∧ (range.2 = last ∨ range.2 ∈ ns) := by
  induction ns with
  | nil =>
    intro first last range h hmem
    rw [ofListFrom, List.mem_singleton] at hmem
    exact hmem ▸ ⟨h, Or.inl rfl⟩
  | cons n ns ih =>
    intro first last range h hmem
    rw [ofListFrom] at hmem
    split_ifs at hmem with hnext
    · obtain ⟨hle, hlast⟩ := ih (by omega) hmem
      exact ⟨hle, Or.inr (List.mem_cons.2 hlast)⟩
    · rcases List.mem_cons.1 hmem with rfl | hmem
      · exact ⟨h, Or.inl rfl⟩
      · obtain ⟨hle, hlast⟩ := ih (Nat.le_refl _) hmem
        exact ⟨hle, Or.inr (List.mem_cons.2 hlast)⟩

/-- No range is empty, and its last number is one of the list. -/
theorem mem_ofList {ns : List ℕ} {range : ℕ × ℕ} (h : range ∈ ofList ns) :
    range.1 ≤ range.2 ∧ range.2 ∈ ns := by
  cases ns with
  | nil => cases h
  | cons n ns =>
    obtain ⟨hle, hlast⟩ := mem_ofListFrom ns (Nat.le_refl _) h
    exact ⟨hle, List.mem_cons.2 hlast⟩

end Ranges
