import GameMode.Library.CountingLoops
import GameMode.Util.Gpuclockctl
import Mathlib.Data.Nat.Nth

/-!
# The index of an NVIDIA card

The kernel numbers the cards of all vendors, with gaps; the driver of NVIDIA numbers its own cards
from 0 on. The helper counts, among the cards up to the one it is asked for, those that exist and
whose vendor is NVIDIA.

The counter of the loop is an `int`, while the number of the card is a `long`: for a card numbered
`INT_MAX` or higher the counter overflows, and the result is `none`.

## Main definitions

* `DrmCards`: the cards as the kernel shows them.
* `DrmCards.getGpuIndexIdNv`: the index, with the loop of the source.
* `DrmCards.RanksNvidia`: the index is the rank among the NVIDIA cards.

## Main results

* `DrmCards.ranksNvidia`: it is, for all cards below `INT_MAX`.
* `DrmCards.getGpuIndexIdNv_eq_none`: from there on the counter overflows.
* `GpuSystem.some_getGpuIndexIdNv`: the index of `GameMode.Util.Gpuclockctl` is this one.

Source: `util/gpuclockctl.c`, `drm_card_exists` and `get_gpu_index_id_nv`; `common/common-gpu.c`.
-/

namespace GameMode

open CountingLoops

/-- `INT_MAX`. -/
def intMax : ℤ := 2 ^ 31 - 1

/-- The vendor files of the cards. -/
structure DrmCards where
  /-- Whether the file exists and is readable. -/
  readable : ℤ → Bool
  /-- The number in the file, if it can be opened and has a line. -/
  vendorFile : ℤ → Option ℤ

namespace DrmCards

variable (cards : DrmCards)

/-- `drm_card_exists`. -/
def drmCardExists (idx : ℤ) : Bool := cards.readable idx

/-- The body of the loop of `get_gpu_index_id_nv`. -/
def countNvidia (nvDevice device : ℤ) : Option ℤ :=
  if ¬cards.drmCardExists device then some nvDevice
  else if gamemodeGetGpuVendor cards.vendorFile device = some .nvidia then
    if nvDevice = intMax then none else some (nvDevice + 1)
  else some nvDevice

/-- `get_gpu_index_id_nv` for the vendor and the device of `info`. -/
def getGpuIndexIdNv (vendor : Option GPUVendor) (device : ℤ) : Option ℤ :=
  if vendor ≠ some .nvidia then some (-1)
  else countingLoop none (fun x => some (x ≤ device)) cards.countNvidia intMax.toNat 0 (-1)

/-- The index of a card as `main` asks for it, with the vendor of the card. -/
def index (device : ℤ) : Option ℤ :=
  cards.getGpuIndexIdNv (gamemodeGetGpuVendor cards.vendorFile device) device

/-- The card exists, and its vendor is NVIDIA. -/
def IsNvidia (device : ℕ) : Prop :=
  cards.drmCardExists device = true ∧ gamemodeGetGpuVendor cards.vendorFile device = some .nvidia

instance : DecidablePred cards.IsNvidia :=
  fun device => inferInstanceAs (Decidable (cards.drmCardExists device = true ∧ _))

/-- How many NVIDIA cards have a smaller number. -/
def rank (device : ℕ) : ℕ := Nat.count cards.IsNvidia device

/-- The index of an NVIDIA card is its rank among the NVIDIA cards. -/
structure RanksNvidia : Prop where
  /-- The index is the number of NVIDIA cards with a smaller number. -/
  index_eq : ∀ {d : ℕ}, cards.IsNvidia d → d < intMax → cards.index d = some (cards.rank d : ℤ)
  /-- It is strictly increasing. -/
  lt : ∀ {d d' : ℕ}, cards.IsNvidia d → cards.IsNvidia d' → d < d' → d' < intMax →
    ∃ i ∈ cards.index d, ∃ i' ∈ cards.index d', i < i'
  /-- Distinct cards have distinct indices. -/
  injective : ∀ {d d' : ℕ}, cards.IsNvidia d → cards.IsNvidia d' → d < intMax → d' < intMax →
    cards.index d = cards.index d' → d = d'
  /-- The indices are those from 0 on, as many as there are NVIDIA cards. -/
  indices : ∀ i : ℤ, (∃ d : ℕ, cards.IsNvidia d ∧ d < intMax ∧ cards.index d = some i) ↔
    0 ≤ i ∧ i < cards.rank intMax.toNat

variable {cards}

theorem countNvidia_eq {nvDevice : ℤ} {device : ℕ} (h : nvDevice < intMax) :
    cards.countNvidia nvDevice device =
      some (nvDevice + if cards.IsNvidia device then 1 else 0) := by
  rw [countNvidia, if_neg h.ne]
  by_cases hexists : cards.drmCardExists device = true
  · rw [if_neg (not_not.2 hexists)]
    by_cases hvendor : gamemodeGetGpuVendor cards.vendorFile device = some .nvidia
    · rw [if_pos hvendor, if_pos ⟨hexists, hvendor⟩]
    · rw [if_neg hvendor, if_neg fun hnvidia => hvendor hnvidia.2, add_zero]
  · rw [if_pos hexists, if_neg fun hnvidia => hexists hnvidia.1, add_zero]

theorem rank_succ (cards : DrmCards) (n : ℕ) :
    cards.rank (n + 1) = cards.rank n + if cards.IsNvidia n then 1 else 0 :=
  Nat.count_succ _ n

theorem exists_of_lt_rank {k n : ℕ} (h : k < cards.rank n) :
    ∃ d, cards.IsNvidia d ∧ d < n ∧ cards.rank d = k := by
  have hcard : ∀ hf : (Set.ofPred cards.IsNvidia).Finite, k < hf.toFinset.card :=
    fun hf => h.trans_le (Nat.count_le_card hf n)
  exact ⟨Nat.nth cards.IsNvidia k, Nat.nth_mem k hcard, Nat.nth_lt_of_lt_count h,
    Nat.count_nth hcard⟩

theorem foldlM_countNvidia {n : ℕ} (hn : (n : ℤ) ≤ intMax + 1) :
    (ascending 0 n).foldlM cards.countNvidia (-1) = some ((cards.rank n : ℤ) - 1) := by
  induction n with
  | zero => rfl
  | succ n ih =>
    have hrank : (cards.rank n : ℤ) ≤ n := Int.ofNat_le.2 (Nat.count_le _)
    rw [ascending_concat, List.foldlM_append, ih (by omega), zero_add]
    change (cards.countNvidia (cards.rank n - 1) n).bind some = _
    rw [countNvidia_eq (by omega), Option.bind_some, rank_succ]
    split_ifs <;> exact congrArg some (by omega)

/-- The loop ends with the number of NVIDIA cards up to the device, less one. -/
theorem getGpuIndexIdNv_eq (cards : DrmCards) {d : ℕ} (hd : d < intMax) :
    cards.getGpuIndexIdNv (some .nvidia) d = some ((cards.rank (d + 1) : ℤ) - 1) := by
  have htrue : ∀ y ∈ ascending 0 (d + 1), some (decide (y ≤ (d : ℤ))) = pure true := by
    intro y hy
    have hle : y ≤ d := by
      have := (mem_ascending.1 hy).2
      omega
    rw [decide_eq_true hle]
    rfl
  have hfalse : some (decide (0 + ((d + 1 : ℕ) : ℤ) ≤ (d : ℤ))) = pure false := by
    rw [decide_eq_false (by omega)]
    rfl
  rw [getGpuIndexIdNv, if_neg (not_not.2 rfl),
    countingLoop_eq (by omega : d + 1 ≤ intMax.toNat) htrue hfalse, foldlM_countNvidia (by omega)]

/-- For a card numbered `INT_MAX` or higher the counter of the loop overflows. -/
theorem getGpuIndexIdNv_eq_none (cards : DrmCards) {d : ℤ} (hd : intMax ≤ d) :
    cards.getGpuIndexIdNv (some .nvidia) d = none := by
  have htrue : ∀ y ∈ ascending 0 (intMax.toNat + 1), some (decide (y ≤ d)) = pure true := by
    intro y hy
    have hle : y ≤ d := by
      have hlt := (mem_ascending.1 hy).2
      have hmax : (0 : ℤ) ≤ intMax := by decide
      omega
    rw [decide_eq_true hle]
    rfl
  rw [getGpuIndexIdNv, if_neg (not_not.2 rfl), countingLoop_of_forall htrue]
  exact Option.bind_fun_none _

/-- **The index of an NVIDIA card.** Whatever cards there are, of whatever vendors, the index of an
NVIDIA card below `INT_MAX` is its rank among the NVIDIA cards. -/
theorem ranksNvidia (cards : DrmCards) : cards.RanksNvidia := by
  have hindex : ∀ {d : ℕ}, cards.IsNvidia d → d < intMax →
      cards.index d = some (cards.rank d : ℤ) := by
    intro d hnvidia hd
    rw [index, hnvidia.2, getGpuIndexIdNv_eq cards hd, rank_succ, if_pos hnvidia]
    exact congrArg some (by omega)
  refine ⟨hindex, ?_, ?_, ?_⟩
  · intro d d' hnvidia hnvidia' hlt hd'
    have hd : (d : ℤ) < intMax := by omega
    refine ⟨_, hindex hnvidia hd, _, hindex hnvidia' hd', ?_⟩
    exact Int.ofNat_lt.2 (Nat.count_strict_mono hnvidia hlt)
  · intro d d' hnvidia hnvidia' hd hd' heq
    rw [hindex hnvidia hd, hindex hnvidia' hd', Option.some_inj, Int.natCast_inj] at heq
    exact Nat.count_injective hnvidia hnvidia' heq
  · intro i
    constructor
    · rintro ⟨d, hnvidia, hd, hi⟩
      rw [hindex hnvidia hd, Option.some_inj] at hi
      have hlt : cards.rank d < cards.rank intMax.toNat :=
        Nat.count_strict_mono hnvidia (by omega)
      omega
    · rintro ⟨hpos, hlt⟩
      obtain ⟨k, rfl⟩ := Int.eq_ofNat_of_zero_le hpos
      have hk : k < cards.rank intMax.toNat := Int.ofNat_lt.1 hlt
      obtain ⟨d, hnvidia, hd, hrank⟩ := exists_of_lt_rank hk
      exact ⟨d, hnvidia, by omega, by rw [hindex hnvidia (by omega), hrank]⟩

end DrmCards

/-! ### The helper -/

namespace GpuSystem

/-- The cards of a system whose vendor files can be opened when they exist. -/
def drmCards (sys : GpuSystem) : DrmCards where
  readable idx := (sys.vendorFile idx).isSome
  vendorFile := sys.vendorFile

theorem nvDevice_eq (sys : GpuSystem) (n : ℕ) :
    sys.nvDevice n = (sys.drmCards.rank n : ℤ) - 1 := by
  induction n with
  | zero => rfl
  | succ n ih =>
    rw [nvDevice, ih, DrmCards.rank_succ]
    by_cases hnvidia : sys.drmCards.IsNvidia n
    · have hcard : sys.drmCardExists n = true ∧
        gamemodeGetGpuVendor sys.vendorFile n = some .nvidia := hnvidia
      rw [if_pos hcard, if_pos hnvidia]
      omega
    · have hcard : ¬(sys.drmCardExists n = true ∧
        gamemodeGetGpuVendor sys.vendorFile n = some .nvidia) := hnvidia
      rw [if_neg hcard, if_neg hnvidia]
      omega

/-- The index that the helper sets is the one of the loop. -/
theorem some_getGpuIndexIdNv (sys : GpuSystem) {device : ℕ} (hdevice : device < intMax) :
    some (sys.getGpuIndexIdNv device) = sys.drmCards.getGpuIndexIdNv (some .nvidia) device := by
  rw [DrmCards.getGpuIndexIdNv_eq _ hdevice, getGpuIndexIdNv, nvDevice_eq]

end GpuSystem

end GameMode
