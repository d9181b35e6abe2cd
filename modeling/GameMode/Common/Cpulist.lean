import GameMode.Library.CString
import Mathlib.Data.Finset.Basic
import Mathlib.Data.Finset.Range

/-!
# Lists of CPU cores

A list of cores is a text of items, each a number or a range, separated by commas. The parser gives
the bounds of the first item and the part of the text after it, or nothing where it gives up; a loop
around it visits the items of a list in order.

## Main definitions

* `parseCpulist`: one item.
* `cpulistItems`: the items that the loop visits.
* `cpulistCores`, `cpusetOf`: the cores of the items, in order and as a set of bits.

## Main results

* `cpulistItems_eq`: the loop takes one item after the other.

Source: `common/common-cpu.c`.
-/

namespace GameMode

/-- `parse_cpulist`: the bounds of an item, and the rest of the list. -/
def parseCpulist (cpulist : CString) : Option (ℤ × ℤ × CString) :=
  if cpulist = [] then none
  else
    let first := cpulist.strtol
    if first.endp = cpulist then none
    else
      match first.endp with
      | [] => some (first.value, first.value, [])
      | ',' :: rest => some (first.value, first.value, rest)
      | '-' :: cpulist =>
        let second := CString.strtol cpulist
        if second.endp = cpulist then none
        else if second.value < first.value then none
        else
          match second.endp with
          | [] => some (first.value, second.value, [])
          | _ :: rest => some (first.value, second.value, rest)
      | _ => none

/-- The rest of a list is shorter than the list. -/
theorem length_of_parseCpulist {cpulist rest : CString} {lo hi : ℤ}
    (h : parseCpulist cpulist = some (lo, hi, rest)) :
    rest.length < cpulist.length := by
  have hfirst := (CString.strtol_endp_suffix cpulist).length_le
  simp only [parseCpulist] at h
  split_ifs at h with hnil hend
  have hlt := CString.strtol_endp_length_lt hend
  split at h
  · cases h
    exact List.length_pos_iff.2 hnil
  · rename_i tail heq
    cases h
    rw [heq, List.length_cons] at hlt
    omega
  · rename_i tail heq
    rw [heq, List.length_cons] at hlt
    have hsecond := (CString.strtol_endp_suffix tail).length_le
    split_ifs at h
    split at h
    · cases h
      exact List.length_pos_iff.2 hnil
    · rename_i tail' heq'
      cases h
      rw [heq', List.length_cons] at hsecond
      omega
  · cases h

/-- The items that a loop around `parse_cpulist` visits in at most `fuel` rounds. -/
def cpulistItemsFuel : ℕ → CString → List (ℤ × ℤ)
  | 0, _ => []
  | fuel + 1, cpulist =>
    match parseCpulist cpulist with
    | none => []
    | some (lo, hi, rest) => (lo, hi) :: cpulistItemsFuel fuel rest

/-- The items that `while ((list = parse_cpulist(list, &from, &to)))` visits: every round consumes
at least one character. -/
def cpulistItems (cpulist : CString) : List (ℤ × ℤ) := cpulistItemsFuel cpulist.length cpulist

private theorem cpulistItemsFuel_eq (fuel : ℕ) {cpulist : CString} (h : cpulist.length ≤ fuel) :
    cpulistItemsFuel fuel cpulist = cpulistItems cpulist := by
  induction fuel using Nat.strong_induction_on generalizing cpulist with
  | _ fuel ih =>
  rcases cpulist with _ | ⟨c, cs⟩
  · rw [cpulistItems, List.length_nil]
    cases fuel <;> rfl
  · have hpos : 0 < fuel := Nat.lt_of_lt_of_le (Nat.succ_pos cs.length) h
    obtain ⟨fuel, rfl⟩ := Nat.exists_eq_add_one.2 hpos
    rw [cpulistItems, List.length_cons, cpulistItemsFuel, cpulistItemsFuel]
    cases hparse : parseCpulist (c :: cs) with
    | none => rfl
    | some item =>
      obtain ⟨lo, hi, rest⟩ := item
      have hlt : rest.length < (c :: cs).length := length_of_parseCpulist hparse
      rw [List.length_cons] at hlt h
      simp only [List.cons.injEq, true_and]
      rw [ih fuel (by omega) (by omega), ih cs.length (by omega) (by omega)]

/-- The loop takes one item after the other. -/
theorem cpulistItems_eq (cpulist : CString) :
    cpulistItems cpulist =
      match parseCpulist cpulist with
      | none => []
      | some (lo, hi, rest) => (lo, hi) :: cpulistItems rest := by
  cases cpulist with
  | nil => rfl
  | cons c cs =>
    rw [cpulistItems, List.length_cons, cpulistItemsFuel]
    cases hparse : parseCpulist (c :: cs) with
    | none => rfl
    | some item =>
      obtain ⟨lo, hi, rest⟩ := item
      have hlt : rest.length < (c :: cs).length := length_of_parseCpulist hparse
      rw [List.length_cons] at hlt
      simp only [List.cons.injEq, true_and]
      exact cpulistItemsFuel_eq cs.length (by omega)

/-- The cores that the loop over the items visits, in order. -/
def cpulistCores (items : List (ℤ × ℤ)) : List ℤ :=
  items.flatMap fun item => (List.range (item.2 + 1 - item.1).toNat).map fun i => item.1 + i

/-- The number of bits of a set allocated for `numCpu` cores: whole words of 64 bits. -/
def cpusetBits (numCpu : ℕ) : ℕ := (numCpu + 63) / 64 * 64

/-- The set that `CPU_SET_S` makes of the cores of the items: a core that has no bit is left out. -/
def cpusetOf (numCpu : ℕ) (items : List (ℤ × ℤ)) : Finset ℕ :=
  (Finset.range (cpusetBits numCpu)).filter fun cpu => ∃ item ∈ items, item.1 ≤ cpu ∧ cpu ≤ item.2

theorem mem_cpusetOf {numCpu cpu : ℕ} {items : List (ℤ × ℤ)} :
    cpu ∈ cpusetOf numCpu items ↔
      cpu < cpusetBits numCpu ∧ ∃ item ∈ items, item.1 ≤ cpu ∧ (cpu : ℤ) ≤ item.2 := by
  rw [cpusetOf, Finset.mem_filter, Finset.mem_range]

end GameMode
