import Mathlib.Algebra.Order.Round
import Mathlib.Data.Int.Log
import Mathlib.Data.Rat.Floor
import Mathlib.Tactic.Linarith

/-!
# Rounding to binary digits

The result of an operation on floating-point numbers is the number with a fixed count of binary
digits that is nearest to the exact result, and of two nearest ones the one whose last digit is
even. The exponents are not bounded here, so this is the rounding of results that neither overflow
nor fall below the normal numbers.

A comparison of a rounded number with a number that has a digit to spare is exact, except right
above it: the numbers that exceed it by half a unit in its last place at most are rounded down to
it.

## Main definitions

* `Rounding.nearestEven`: the nearest integer, and the even one of two.
* `Rounding.ulp`, `Rounding.round`: the unit in the last place, and the rounding.
* `Rounding.HasDigits`: the numbers with a count of binary digits.

## Main results

* `Rounding.round_mono`: rounding keeps the order.
* `Rounding.lt_round_iff`: when a rounded number exceeds a number with a digit to spare.
-/

namespace Rounding

/-! ### The nearest integer -/

/-- The integer that is nearest to a number, and the even one of two. -/
def nearestEven (q : ℚ) : ℤ :=
  if Int.fract q < 1 / 2 then ⌊q⌋
  else if 1 / 2 < Int.fract q then ⌊q⌋ + 1
  else if Even ⌊q⌋ then ⌊q⌋
  else ⌊q⌋ + 1

theorem floor_le_nearestEven (q : ℚ) : ⌊q⌋ ≤ nearestEven q := by
  rw [nearestEven]
  split_ifs <;> omega

theorem nearestEven_le_floor_add_one (q : ℚ) : nearestEven q ≤ ⌊q⌋ + 1 := by
  rw [nearestEven]
  split_ifs <;> omega

@[simp] theorem nearestEven_intCast (n : ℤ) : nearestEven n = n := by
  rw [nearestEven, Int.fract_intCast, if_pos (by norm_num), Int.floor_intCast]

theorem nearestEven_mono {x y : ℚ} (hxy : x ≤ y) : nearestEven x ≤ nearestEven y := by
  rcases Int.lt_or_eq_of_le (Int.floor_mono hxy) with hlt | heq
  · have hxle := nearestEven_le_floor_add_one x
    have hley := floor_le_nearestEven y
    omega
  · -- the same floor, so the fractional parts are in the order of the numbers
    have hfract : Int.fract x ≤ Int.fract y := by
      rw [Int.fract, Int.fract, heq]
      exact sub_le_sub_right hxy _
    by_cases hx : Int.fract x < 1 / 2
    · calc
        nearestEven x = ⌊x⌋ := if_pos hx
        _ = ⌊y⌋ := heq
        _ ≤ nearestEven y := floor_le_nearestEven y
    by_cases hy : 1 / 2 < Int.fract y
    · calc
        nearestEven x ≤ ⌊x⌋ + 1 := nearestEven_le_floor_add_one x
        _ = ⌊y⌋ + 1 := by rw [heq]
        _ = nearestEven y := by rw [nearestEven, if_neg hy.not_gt, if_pos hy]
    · have hsame : Int.fract x = Int.fract y :=
        le_antisymm hfract ((not_lt.1 hy).trans (not_lt.1 hx))
      exact Int.le_of_eq (by rw [nearestEven, nearestEven, heq, hsame])

/-- Above an integer by more than a half, and by less than one. -/
theorem nearestEven_add_of_lt {n : ℤ} {d : ℚ} (hd : 1 / 2 < d) (hone : d < 1) :
    nearestEven (n + d) = n + 1 := by
  have hfract : Int.fract (n + d) = d := by
    rw [Int.fract_intCast_add, Int.fract_eq_self.2 ⟨by linarith, hone⟩]
  have hfloor : ⌊(n : ℚ) + d⌋ = n := by
    rw [Int.floor_intCast_add, Int.floor_eq_zero_iff.2 ⟨by linarith, hone⟩, add_zero]
  rw [nearestEven, hfract, hfloor, if_neg (not_lt.2 hd.le), if_pos hd]

/-- Above an even integer by a half at most. -/
theorem nearestEven_add_of_le {n : ℤ} (hn : Even n) {d : ℚ} (hnonneg : 0 ≤ d) (hd : d ≤ 1 / 2) :
    nearestEven (n + d) = n := by
  have hfract : Int.fract (n + d) = d := by
    rw [Int.fract_intCast_add, Int.fract_eq_self.2 ⟨hnonneg, by linarith⟩]
  have hfloor : ⌊(n : ℚ) + d⌋ = n := by
    rw [Int.floor_intCast_add, Int.floor_eq_zero_iff.2 ⟨hnonneg, by linarith⟩, add_zero]
  rw [nearestEven, hfract, hfloor, if_neg (not_lt.2 hd), if_pos hn]
  split_ifs <;> rfl

/-! ### The rounding -/

/-- The unit in the last of `p` binary digits of a number. -/
def ulp (p : ℕ) (q : ℚ) : ℚ := 2 ^ (Int.log 2 q + 1 - p)

/-- The nearest number with `p` binary digits. -/
def round (p : ℕ) (q : ℚ) : ℚ := nearestEven (q / ulp p q) * ulp p q

/-- A number with `p` binary digits. -/
def HasDigits (p : ℕ) (q : ℚ) : Prop := ∃ (m : ℕ) (e : ℤ), m < 2 ^ p ∧ q = m * 2 ^ e

variable {p : ℕ} {q t : ℚ}

theorem HasDigits.mono {p' : ℕ} (h : HasDigits p q) (hp : p ≤ p') : HasDigits p' q := by
  obtain ⟨m, e, hm, heq⟩ := h
  exact ⟨m, e, hm.trans_le (Nat.pow_le_pow_right two_pos hp), heq⟩

@[simp] theorem round_zero (p : ℕ) : round p 0 = 0 := by
  rw [round, zero_div, ← Int.cast_zero, nearestEven_intCast, Int.cast_zero, zero_mul]

theorem ulp_pos (p : ℕ) (q : ℚ) : 0 < ulp p q := zpow_pos two_pos _

/-! ### Binades -/

section Binade

variable (hq : 0 < q)
include hq

theorem zpow_log_le : (2 : ℚ) ^ Int.log 2 q ≤ q :=
  Int.zpow_log_le_self one_lt_two hq

omit hq in
theorem lt_zpow_log_add_one (q : ℚ) : q < (2 : ℚ) ^ (Int.log 2 q + 1) :=
  Int.lt_zpow_succ_log_self one_lt_two q

omit hq in
/-- The ends of a binade in units of the last place. -/
private theorem zpow_log_eq (p : ℕ) (q : ℚ) :
    (2 : ℚ) ^ Int.log 2 q = ((2 ^ p : ℕ) : ℤ) * ulp (p + 1) q := by
  rw [ulp]
  push_cast
  rw [← zpow_natCast, ← zpow_add₀ two_ne_zero]
  congr 1
  omega

omit hq in
private theorem zpow_log_add_one_eq (p : ℕ) (q : ℚ) :
    (2 : ℚ) ^ (Int.log 2 q + 1) = ((2 ^ p : ℕ) : ℤ) * ulp p q := by
  rw [ulp]
  push_cast
  rw [← zpow_natCast, ← zpow_add₀ two_ne_zero]
  congr 1
  omega

/-- A rounded number is in the binade of the number, or at its end. -/
theorem zpow_log_le_round : (2 : ℚ) ^ Int.log 2 q ≤ round (p + 1) q := by
  have hu := ulp_pos (p + 1) q
  have hle : ((2 ^ p : ℕ) : ℤ) ≤ nearestEven (q / ulp (p + 1) q) := by
    rw [← nearestEven_intCast ((2 ^ p : ℕ) : ℤ)]
    refine nearestEven_mono ?_
    rw [le_div_iff₀ hu, ← zpow_log_eq]
    exact zpow_log_le hq
  rw [zpow_log_eq p q, round]
  exact mul_le_mul_of_nonneg_right (Int.cast_le.2 hle) hu.le

omit hq in
theorem round_le_zpow_log (q : ℚ) : round p q ≤ (2 : ℚ) ^ (Int.log 2 q + 1) := by
  have hu := ulp_pos p q
  have hle : nearestEven (q / ulp p q) ≤ ((2 ^ p : ℕ) : ℤ) := by
    rw [← nearestEven_intCast ((2 ^ p : ℕ) : ℤ)]
    refine nearestEven_mono ?_
    rw [div_le_iff₀ hu, ← zpow_log_add_one_eq]
    exact (lt_zpow_log_add_one q).le
  rw [zpow_log_add_one_eq p q, round]
  exact mul_le_mul_of_nonneg_right (Int.cast_le.2 hle) hu.le

/-- Rounding keeps the order of positive numbers. -/
theorem round_mono {q' : ℚ} (hle : q ≤ q') : round (p + 1) q ≤ round (p + 1) q' := by
  have hq' : 0 < q' := hq.trans_le hle
  rcases (Int.log_mono_right hq hle : Int.log 2 q ≤ Int.log 2 q').lt_or_eq with hlt | heq
  · calc
      round (p + 1) q ≤ 2 ^ (Int.log 2 q + 1) := round_le_zpow_log q
      _ ≤ 2 ^ Int.log 2 q' := zpow_le_zpow_right₀ one_le_two hlt
      _ ≤ round (p + 1) q' := zpow_log_le_round hq'
  · have hulp : ulp (p + 1) q = ulp (p + 1) q' := by
      rw [ulp, ulp, heq]
    have hu := ulp_pos (p + 1) q'
    rw [round, round, hulp]
    refine mul_le_mul_of_nonneg_right (Int.cast_le.2 (nearestEven_mono ?_)) hu.le
    exact div_le_div_of_nonneg_right hle hu.le

theorem round_pos : 0 < round (p + 1) q :=
  (zpow_pos two_pos _).trans_le (zpow_log_le_round hq)

end Binade

/-! ### Comparisons -/

/-- A number with fewer digits is a multiple of the unit, by a number that ends in zeros. -/
private theorem HasDigits.eq_mul_ulp (ht : HasDigits p t) (hpos : 0 < t) {p' : ℕ} (hp : p ≤ p') :
    ∃ m : ℤ, t = (m * 2 ^ (p' - p) : ℤ) * ulp p' t := by
  obtain ⟨m, e, hm, rfl⟩ := ht
  have hlog : Int.log 2 ((m : ℚ) * 2 ^ e) < p + e := by
    refine (Int.lt_zpow_iff_log_lt one_lt_two hpos).1 ?_
    rw [Nat.cast_ofNat, zpow_add₀ two_ne_zero, zpow_natCast]
    exact mul_lt_mul_of_pos_right (by exact_mod_cast hm) (zpow_pos two_pos e)
  obtain ⟨k, hk⟩ : ∃ k : ℕ, (k : ℤ) = e - (Int.log 2 ((m : ℚ) * 2 ^ e) + 1 - p') - (p' - p : ℕ) :=
    ⟨(e - (Int.log 2 ((m : ℚ) * 2 ^ e) + 1 - p') - (p' - p : ℕ)).toNat,
      Int.toNat_of_nonneg (by omega)⟩
  refine ⟨m * 2 ^ k, ?_⟩
  rw [ulp]
  push_cast
  rw [mul_assoc, mul_assoc, ← zpow_natCast, ← zpow_natCast, ← zpow_add₀ two_ne_zero,
    ← zpow_add₀ two_ne_zero]
  congr 2
  omega

/-- Rounding right above a multiple of the unit with an even factor. -/
private theorem round_add {n : ℤ} (hn : Even n) (ht : t = n * ulp p t) (hpos : 0 < t) {d : ℚ}
    (hnonneg : 0 ≤ d) (hone : d < 1) :
    round p (t + d * ulp p t) = if d ≤ 1 / 2 then t else t + ulp p t := by
  have hu := ulp_pos p t
  have hlog : Int.log 2 (t + d * ulp p t) = Int.log 2 t := by
    refine le_antisymm (Int.lt_add_one_iff.1 ((Int.lt_zpow_iff_log_lt one_lt_two ?_).1 ?_))
      (Int.log_mono_right hpos ?_)
    · exact add_pos_of_pos_of_nonneg hpos (mul_nonneg hnonneg hu.le)
    · -- the number before the end of the binade is one unit below it
      have hlast : n + 1 ≤ ((2 ^ p : ℕ) : ℤ) := by
        have hlt := lt_zpow_log_add_one t
        rw [zpow_log_add_one_eq p t] at hlt
        nth_rewrite 1 [ht] at hlt
        exact Int.add_one_le_iff.2 (Int.cast_lt.1 (lt_of_mul_lt_mul_right hlt hu.le))
      calc
        t + d * ulp p t < t + ulp p t := by
          rw [add_lt_add_iff_left]
          exact mul_lt_of_lt_one_left hu hone
        _ = ((n + 1 : ℤ) : ℚ) * ulp p t := by
          nth_rewrite 1 [ht]
          push_cast
          ring
        _ ≤ ((2 ^ p : ℕ) : ℤ) * ulp p t := mul_le_mul_of_nonneg_right (Int.cast_le.2 hlast) hu.le
        _ = ((2 : ℕ) : ℚ) ^ (Int.log 2 t + 1) := (zpow_log_add_one_eq p t).symm
    · exact le_add_of_nonneg_right (mul_nonneg hnonneg hu.le)
  have hulp : ulp p (t + d * ulp p t) = ulp p t := by
    rw [ulp, hlog, ulp]
  have hdiv : (t + d * ulp p t) / ulp p t = n + d := by
    rw [div_eq_iff hu.ne', add_mul, ← ht]
  rw [round, hulp, hdiv]
  split_ifs with hhalf
  · rw [nearestEven_add_of_le hn hnonneg hhalf]
    exact ht.symm
  · rw [nearestEven_add_of_lt (not_le.1 hhalf) hone, Int.cast_add, Int.cast_one, add_mul, one_mul,
      ← ht]

/-- **Comparisons.** A number with a digit to spare is exceeded by a rounded number just when the
number exceeds it by more than half a unit in the last place. -/
theorem lt_round_iff (ht : HasDigits p t) (hpos : 0 < t) (hq : 0 ≤ q) :
    t < round (p + 1) q ↔ t + ulp (p + 1) t / 2 < q := by
  have hu := ulp_pos (p + 1) t
  obtain ⟨m, hm⟩ := ht.eq_mul_ulp hpos (Nat.le_add_right p 1)
  rw [Nat.add_sub_cancel_left, pow_one] at hm
  have hround : ∀ d : ℚ, 0 ≤ d → d < 1 → round (p + 1) (t + d * ulp (p + 1) t) =
      if d ≤ 1 / 2 then t else t + ulp (p + 1) t :=
    fun d hnonneg hone => round_add (even_two.mul_left m) hm hpos hnonneg hone
  rcases lt_or_ge (t + ulp (p + 1) t / 2) q with hlt | hge
  · refine iff_of_true ?_ hlt
    -- a number between half a unit and a unit above is rounded up, and so are those above it
    obtain ⟨d, hhalf, hone, hd⟩ : ∃ d : ℚ, 1 / 2 < d ∧ d < 1 ∧ t + d * ulp (p + 1) t ≤ q := by
      obtain ⟨d, hhalf, hd⟩ := exists_between
        (lt_min ((lt_div_iff₀ hu).2 (by linarith : 1 / 2 * ulp (p + 1) t < q - t))
          (by norm_num : (1 / 2 : ℚ) < 1))
      rw [lt_min_iff, lt_div_iff₀ hu] at hd
      exact ⟨d, hhalf, hd.2, by linarith [hd.1]⟩
    have hnonneg : 0 ≤ d := by linarith
    have hd0 : 0 < t + d * ulp (p + 1) t :=
      add_pos_of_pos_of_nonneg hpos (mul_nonneg hnonneg hu.le)
    calc
      t < t + ulp (p + 1) t := lt_add_of_pos_right t hu
      _ = round (p + 1) (t + d * ulp (p + 1) t) := by
        rw [hround d hnonneg hone, if_neg (not_le.2 hhalf)]
      _ ≤ round (p + 1) q := round_mono hd0 hd
  · refine iff_of_false (not_lt.2 ?_) (not_lt.2 hge)
    rcases hq.eq_or_lt with rfl | hq
    · rw [round_zero]
      exact hpos.le
    · calc
        round (p + 1) q ≤ round (p + 1) (t + 1 / 2 * ulp (p + 1) t) :=
          round_mono hq (by linarith)
        _ = t := by rw [hround (1 / 2) (by norm_num) (by norm_num), if_pos le_rfl]

end Rounding
