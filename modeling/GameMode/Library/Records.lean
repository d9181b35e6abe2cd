import Mathlib.Data.List.Infix
import Mathlib.Tactic.Common

/-!
# Records that end with a delimiter

A file of records is read one record at a time: up to and including the next delimiter, or up to the
end of the file if no delimiter follows. The delimiter is not part of the record. Records that do
not contain the delimiter are read back as they were written.

## Main definitions

* `Records.read`: the records in a file.
* `Records.write`: the file with given records, a delimiter after each.

## Main results

* `Records.read_write`: records are read back as they were written.
* `Records.append_delimiter_inj`: the first record is determined.
-/

namespace Records

variable {α : Type*} {delimiter : α}

/-- An element goes to the front of the first record. -/
def consHead (a : α) : List (List α) → List (List α)
  | [] => [[a]]
  | r :: rs => (a :: r) :: rs

/-- The records in a file. -/
def read [DecidableEq α] (delimiter : α) : List α → List (List α)
  | [] => []
  | a :: s => if a = delimiter then [] :: read delimiter s else consHead a (read delimiter s)

/-- The file with the records `rs`. -/
def write (delimiter : α) (rs : List (List α)) : List α := rs.flatMap (· ++ [delimiter])

@[simp] theorem write_nil : write delimiter [] = [] := rfl

theorem write_cons (r : List α) (rs : List (List α)) :
    write delimiter (r :: rs) = r ++ delimiter :: write delimiter rs := by
  rw [write, List.flatMap_cons, List.append_assoc]
  rfl

variable [DecidableEq α]

/-- The first record ends at the first delimiter. -/
theorem read_append {r : List α} (h : delimiter ∉ r) (s : List α) :
    read delimiter (r ++ delimiter :: s) = r :: read delimiter s := by
  induction r with
  | nil => rw [List.nil_append, read, if_pos rfl]
  | cons a r ih =>
    rw [List.mem_cons, not_or] at h
    rw [List.cons_append, read, if_neg (Ne.symm h.1), ih h.2, consHead]

/-- **Round trip.** Records without the delimiter are read back as they were written. -/
theorem read_write {rs : List (List α)} (h : ∀ r ∈ rs, delimiter ∉ r) :
    read delimiter (write delimiter rs) = rs := by
  induction rs with
  | nil => rfl
  | cons r rs ih =>
    rw [List.forall_mem_cons] at h
    rw [write_cons, read_append h.1, ih h.2]

/-- What is before the first delimiter is determined. -/
theorem append_delimiter_inj {r r' s s' : List α} (h : delimiter ∉ r) (h' : delimiter ∉ r')
    (heq : r ++ delimiter :: s = r' ++ delimiter :: s') : r = r' := by
  have hread := congrArg (read delimiter) heq
  rw [read_append h, read_append h', List.cons.injEq] at hread
  exact hread.1

end Records
