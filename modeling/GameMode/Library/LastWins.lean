import Mathlib.Data.List.Basic
import Mathlib.Tactic.Common

/-!
# Last-writer merges

A sequence of writes to one cell, some of which are refused, leaves the value of the last write
that was not refused, or the value that the cell held at first. `LastWins.lastValue f d l` is that
value: `f a` is the value that the item `a` writes, `none` when `a` writes nothing.

A sequence of writes to many cells comes to a value for some of the cells, `w : α → Option β`, and
`LastWins.assign w f` is what the cells hold afterwards when they held `f` before.

## Main definitions

* `LastWins.lastValue`, `LastWins.assign`.

## Main results

* `LastWins.lastValue_concat`: one more item either overwrites the value or leaves it.
* `LastWins.assign_restore`: writing the values from before puts back what was overwritten.
-/

namespace LastWins

variable {α β : Type*}

/-- The value of the last item of `l` that writes one, or `d`. -/
def lastValue (f : α → Option β) (d : β) (l : List α) : β := (l.filterMap f).getLast?.getD d

@[simp] theorem lastValue_nil (f : α → Option β) (d : β) : lastValue f d [] = d := rfl

/-- One more item overwrites the value, or leaves it when it writes nothing. -/
theorem lastValue_concat (f : α → Option β) (d : β) (l : List α) (a : α) :
    lastValue f d (l ++ [a]) = (f a).getD (lastValue f d l) := by
  cases h : f a with
  | none => simp [lastValue, h]
  | some b => simp [lastValue, h]

/-! ### Many cells -/

/-- What the cells hold after some of them are written. -/
def assign (w : α → Option β) (f : α → β) : α → β := fun a => (w a).getD (f a)

variable {v w : α → Option β} {f : α → β}

/-- Writing values that the cells hold already changes nothing. -/
theorem assign_of_held (h : ∀ a, ∀ b ∈ v a, b = f a) : assign v f = f := by
  funext a
  cases hv : v a with
  | none => simp only [assign, hv, Option.getD_none]
  | some b => simp only [assign, hv, Option.getD_some, h a b hv]

/-- Writing values twice comes to writing them once. -/
theorem assign_assign_self (w : α → Option β) (f : α → β) :
    assign w (assign w f) = assign w f := by
  funext a
  cases hw : w a <;> simp only [assign, hw, Option.getD_none, Option.getD_some]

/-- **Restoring.** Writing the values from before puts back what was overwritten, if every cell that
was written is written again. -/
theorem assign_restore (h : ∀ a, ∀ b ∈ v a, b = f a) (hcells : ∀ a, v a = none → w a = none) :
    assign v (assign w f) = f := by
  funext a
  cases hv : v a with
  | none => simp only [assign, hv, hcells a hv, Option.getD_none]
  | some b => simp only [assign, hv, Option.getD_some, h a b hv]

/-- Writing values, putting back values from before, and writing the values again comes to writing
them once. -/
theorem assign_again (h : ∀ a, ∀ b ∈ v a, b = f a) :
    assign w (assign v (assign w f)) = assign w f := by
  funext a
  cases hw : w a with
  | some b => simp only [assign, hw, Option.getD_some]
  | none =>
    simpa only [assign, hw, Option.getD_none] using congrFun (assign_of_held h) a

end LastWins
