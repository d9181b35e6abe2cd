import GameMode.Library.CString
import Mathlib.Data.List.DropRight

/-!
# Energies

The kernel shows the energy that a part of the processor has used as a number of microjoules, which
starts again from zero at a range of its own. The reader finds the directory of the part by its name
and narrows the number to 32 bits.

## Main definitions

* `readFileInDir`, `getEnergyUj`: the reader.
* `RaplZone`, `Shows`: the directories, and what they show.
* `EnergyMeter`: a counter as the kernel shows it.

## Main results

* `getEnergyUj_of_shows`: what the reader makes of a number that fits a `long long`.
* `EnergyMeter.delta_eq_iff`: when the difference of two readings is the energy used between them.

Source: `common/common-power.c`.
-/

namespace GameMode

/-- `read_file_in_dir`, for the contents of the file, if it can be opened. -/
def readFileInDir (contents : Option CString) (n : ℕ) : Option CString :=
  match contents with
  | none => none
  | some contents =>
    let dest := contents.take n
    if dest = [] then none
    else if n ≤ dest.length then none
    else some (dest.rdropWhile CString.isSpace)

/-- A directory that the glob of `get_energy_uj` finds, with the files that can be opened. -/
structure RaplZone where
  /-- The file `name`. -/
  name : Option CString
  /-- The file `energy_uj`. -/
  energyUj : Option CString

/-- `get_energy_uj`, for the directories that the glob finds. -/
def getEnergyUj (raplName : CString) : List RaplZone → Option UInt32
  | [] => none
  | zone :: zones =>
    match readFileInDir zone.name 32 with
    | none => none
    | some name =>
      if name.take 32 ≠ raplName.take 32 then getEnergyUj raplName zones
      else
        match readFileInDir zone.energyUj 32 with
        | none => none
        | some energyUj =>
          let energyUjLl := CString.strtol energyUj
          if energyUjLl.endp = energyUj then none
          else if energyUjLl.value < 0 then none
          else some (UInt32.ofNat energyUjLl.value.toNat)

/-- `get_cpu_energy_uj`. -/
def getCpuEnergyUj (zones : List RaplZone) : Option UInt32 := getEnergyUj "core".toList zones

/-- `get_igpu_energy_uj`. -/
def getIgpuEnergyUj (zones : List RaplZone) : Option UInt32 := getEnergyUj "uncore".toList zones

/-! ### Reading a number -/

theorem readFileInDir_line {line : CString} (hne : line ≠ [])
    (hlast : CString.isSpace (line.getLast hne) = false) {n : ℕ} (hn : line.length + 1 < n) :
    readFileInDir (some (line ++ ['\n'])) n = some line := by
  have htake : (line ++ ['\n']).take n = line ++ ['\n'] := List.take_of_length_le (by simp; omega)
  have hdrop : (line ++ ['\n']).rdropWhile CString.isSpace = line := by
    rw [List.rdropWhile_concat_pos _ _ _ (by decide), List.rdropWhile_eq_self_iff]
    intro _
    rw [hlast]
    decide
  have hlength : ¬n ≤ (line ++ ['\n']).length := by simp; omega
  simp only [readFileInDir, htake, hdrop]
  rw [if_neg (by simp), if_neg hlength]

/-- The first directory of a name shows a number. -/
def Shows (zones : List RaplZone) (raplName : CString) (v : ℕ) : Prop :=
  ∃ pre zone post, zones = pre ++ zone :: post ∧
    (∀ other ∈ pre, ∃ name, readFileInDir other.name 32 = some name ∧
      name.take 32 ≠ raplName.take 32) ∧
    zone.name = some (raplName ++ ['\n']) ∧ zone.energyUj = some (CString.decimal v ++ ['\n'])

theorem readFileInDir_decimal {v : ℕ} (hv : (v : ℤ) ≤ CString.longMax) :
    readFileInDir (some (CString.decimal v ++ ['\n'])) 32 = some (CString.decimal v) := by
  have hdigits : CString.decimal v = Nat.toDigits 10 v := by
    rw [CString.decimal, if_neg (by omega), Int.natAbs_natCast]
  have hlength : (Nat.toDigits 10 v).length ≤ 19 := by
    rw [Nat.length_toDigits_le_iff (by decide) (by decide)]
    have hmax : CString.longMax < 10 ^ 19 := by decide
    omega
  refine readFileInDir_line (CString.decimal_ne_nil v) ?_ ?_
  · refine CString.not_isSpace_of_isDigit ?_
    have hmem := List.getLast_mem (CString.decimal_ne_nil v)
    simp only [hdigits] at hmem ⊢
    exact Nat.isDigit_of_mem_toDigits (by decide) (by decide) hmem
  · rw [hdigits]
    omega

/-- A number that fits a `long long` is narrowed to 32 bits. -/
theorem getEnergyUj_of_shows {zones : List RaplZone} {raplName : CString} {v : ℕ}
    (h : Shows zones raplName v) (hname : readFileInDir (some (raplName ++ ['\n'])) 32 =
      some raplName) (hv : (v : ℤ) ≤ CString.longMax) :
    getEnergyUj raplName zones = some (UInt32.ofNat v) := by
  obtain ⟨pre, zone, post, rfl, hpre, hzone, henergy⟩ := h
  induction pre with
  | nil =>
    have hmin : CString.longMin ≤ v := (by decide : CString.longMin ≤ 0).trans (by omega)
    rw [List.nil_append, getEnergyUj, hzone, hname]
    simp only [henergy, readFileInDir_decimal hv, CString.strtol_decimal ⟨hmin, hv⟩]
    rw [if_neg (not_not.2 rfl), if_neg (CString.decimal_ne_nil v).symm, if_neg (by omega),
      Int.toNat_natCast]
  | cons other pre ih =>
    obtain ⟨⟨name, hread, hne⟩, hpre⟩ := List.forall_mem_cons.1 hpre
    rw [List.cons_append, getEnergyUj, hread]
    simp only [hne, ne_eq, not_false_eq_true, if_true]
    exact ih hpre

/-! ### Counters -/

/-- The range of a counter. -/
structure EnergyMeter where
  /-- `max_energy_range_uj`, where the counter starts again. -/
  range : ℕ

namespace EnergyMeter

variable (meter : EnergyMeter)

/-- What is shown after an energy was used. -/
def shown (energy : ℕ) : ℕ := energy % meter.range

/-- What the reader makes of it. -/
def reading (energy : ℕ) : UInt32 := UInt32.ofNat (meter.shown energy)

/-- Two energies between which the counter does not start again, unless its range is a multiple of
the one of the readings. -/
def KeepsCount (energy energy' : ℕ) : Prop :=
  energy' / meter.range = energy / meter.range ∨ 2 ^ 32 ∣ meter.range

variable {meter}

/-- The difference of two readings is the energy used between them just when the counter does not
start again, unless its range is a multiple of the one of the readings. -/
theorem delta_eq_iff (hrange : 2 ^ 32 < meter.range) {energy energy' : ℕ} (hle : energy ≤ energy')
    (hlt : energy' - energy < 2 ^ 32) :
    (meter.reading energy' - meter.reading energy).toNat = energy' - energy ↔
      meter.KeepsCount energy energy' := by
  have hsplit := Nat.div_add_mod energy meter.range
  have hsplit' := Nat.div_add_mod energy' meter.range
  have hmod := Nat.mod_lt energy (by omega : 0 < meter.range)
  have hmod' := Nat.mod_lt energy' (by omega : 0 < meter.range)
  have hdiv : energy / meter.range ≤ energy' / meter.range := Nat.div_le_div_right hle
  have hdiv' : energy' / meter.range ≤ energy / meter.range + 1 := by
    rw [← Nat.add_div_right _ (by omega : 0 < meter.range)]
    exact Nat.div_le_div_right (by omega)
  rw [KeepsCount, reading, reading, shown, shown, UInt32.toNat_sub, UInt32.toNat_ofNat',
    UInt32.toNat_ofNat']
  rcases Nat.le_iff_lt_or_eq.1 hdiv' with hsame | hnext
  · -- the counter does not start again
    have hsame : energy' / meter.range = energy / meter.range := by omega
    rw [hsame] at hsplit'
    refine iff_of_true ?_ (Or.inl hsame)
    omega
  · -- it starts again once, and the difference is off by the range
    rw [hnext, Nat.mul_succ] at hsplit'
    rw [hnext]
    omega

end EnergyMeter

end GameMode
