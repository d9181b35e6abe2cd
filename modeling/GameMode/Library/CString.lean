import Mathlib.Data.List.Infix
import Mathlib.Data.List.TakeWhile
import Mathlib.Tactic.Linarith

/-!
# C strings and numbers in them

A C string is the list of its bytes before the terminating NUL, one `Char` per byte. This file
gives the parts of the C library that read and write numbers in such strings: `strtol` in base
ten, with its end pointer and its range error, `strtoull` with a base found from the prefix, and
the `%ld` conversion.

The end pointer of a conversion is the suffix of the argument that it did not consume. A number
outside the range of its type saturates and reports `ERANGE`.

## Main definitions

* `CString`: the bytes of a C string.
* `CString.truncate`: what a buffer of a given size keeps of a string.
* `CString.decimal`: the `%ld` conversion.
* `CString.strtol`: `strtol` in base ten.
* `CString.strtoull`, `CString.strtoullTen`: `strtoull` in base zero and in base ten.
* `CString.strtokLine`: what `strtok` leaves of the first line of a buffer.
* `Errno.enoent`, `Errno.erange`: error numbers.

## Main results

* `CString.strtol_decimal`, `CString.strtoull_decimal`: both read back what `%ld` wrote.
* `CString.strtol_endp_suffix`: the end pointer stays inside the argument.
-/

/-- The bytes of a C string before its NUL. -/
abbrev CString := List Char

namespace CString

/-- The byte at the end of a string in memory. -/
def nul : Char := Char.ofNat 0

/-- What a buffer of `size` bytes keeps of `s`: the last byte is the NUL. -/
def truncate (size : ℕ) (s : CString) : CString := s.take (size - 1)

theorem truncate_of_length_lt {size : ℕ} {s : CString} (h : s.length < size) :
    s.truncate size = s :=
  List.take_of_length_le (by omega)

/-- `LONG_MAX` of a 64-bit `long`. -/
def longMax : ℤ := 2 ^ 63 - 1

/-- `LONG_MIN` of a 64-bit `long`. -/
def longMin : ℤ := -2 ^ 63

/-- `isspace` in the C locale. -/
def isSpace (c : Char) : Bool := c == ' ' || (9 ≤ c.toNat && c.toNat ≤ 13)

/-- The `%ld` conversion. -/
def decimal (v : ℤ) : CString :=
  if v < 0 then '-' :: Nat.toDigits 10 v.natAbs else Nat.toDigits 10 v.natAbs

theorem decimal_ne_nil (v : ℤ) : decimal v ≠ [] := by
  rw [decimal]
  split_ifs
  · exact List.cons_ne_nil _ _
  · exact Nat.toDigits_ne_nil

/-- What `strtol` and its end pointer report. -/
structure LongParse where
  /-- The value returned, saturated when it is out of range. -/
  value : ℤ
  /-- The part of the argument that the end pointer points at. -/
  endp : CString
  /-- Whether `errno` is set to `ERANGE`. -/
  erange : Bool
  deriving DecidableEq, Repr

/-- A value out of the range of `long` saturates and reports `ERANGE`. -/
def saturate (v : ℤ) (endp : CString) : LongParse :=
  if v < longMin then ⟨longMin, endp, true⟩
  else if longMax < v then ⟨longMax, endp, true⟩
  else ⟨v, endp, false⟩

/-- The optional sign of a number. -/
def splitSign : CString → Bool × CString
  | '-' :: s => (true, s)
  | '+' :: s => (false, s)
  | s => (false, s)

/-- `strtol(s, &endp, 10)`: blanks, an optional sign and at least one digit; with no digit the end
pointer is the argument itself. -/
def strtol (s : CString) : LongParse :=
  let (negative, u) := splitSign (s.dropWhile isSpace)
  let digits := u.takeWhile Char.isDigit
  if digits = [] then ⟨0, s, false⟩
  else
    let n : ℤ := Nat.ofDigitChars 10 digits 0
    saturate (if negative then -n else n) (u.dropWhile Char.isDigit)

/-- `atoi`: the result of `strtol` narrowed to a 32-bit `int`. -/
def atoi (s : CString) : ℤ := (strtol s).value.bmod (2 ^ 32)

theorem saturate_endp (v : ℤ) (endp : CString) : (saturate v endp).endp = endp := by
  rw [saturate]
  split_ifs <;> rfl

theorem saturate_of_mem {v : ℤ} (endp : CString) (h : longMin ≤ v ∧ v ≤ longMax) :
    saturate v endp = ⟨v, endp, false⟩ := by
  rw [saturate, if_neg (by omega), if_neg (by omega)]

theorem saturate_value_mem (v : ℤ) (endp : CString) :
    longMin ≤ (saturate v endp).value ∧ (saturate v endp).value ≤ longMax := by
  have hle : longMin ≤ longMax := by decide
  rw [saturate]
  split_ifs with hmin hmax
  · exact ⟨le_rfl, hle⟩
  · exact ⟨hle, le_rfl⟩
  · exact ⟨not_lt.1 hmin, not_lt.1 hmax⟩

/-- What `strtol` returns is a `long`. -/
theorem strtol_value_mem (s : CString) :
    longMin ≤ (strtol s).value ∧ (strtol s).value ≤ longMax := by
  simp only [strtol]
  split
  · exact (by decide : longMin ≤ 0 ∧ 0 ≤ longMax)
  · exact saturate_value_mem _ _

theorem splitSign_suffix (s : CString) : (splitSign s).2 <:+ s := by
  unfold splitSign
  split
  · exact List.suffix_cons _ _
  · exact List.suffix_cons _ _
  · exact List.suffix_rfl

/-- The end pointer of `strtol` stays inside its argument. -/
theorem strtol_endp_suffix (s : CString) : (strtol s).endp <:+ s := by
  simp only [strtol]
  split
  · exact List.suffix_rfl
  · rw [saturate_endp]
    exact ((List.dropWhile_suffix _).trans (splitSign_suffix _)).trans (List.dropWhile_suffix _)

/-- `strtol` consumes at least one byte when it converts anything. -/
theorem strtol_endp_length_lt {s : CString} (h : (strtol s).endp ≠ s) :
    (strtol s).endp.length < s.length :=
  lt_of_le_of_ne (strtol_endp_suffix s).length_le
    fun hlen => h ((strtol_endp_suffix s).eq_of_length hlen)

theorem not_isSpace_of_isDigit {c : Char} (h : c.isDigit) : isSpace c = false := by
  simp only [Char.isDigit, Bool.and_eq_true, decide_eq_true_eq, ge_iff_le,
    UInt32.le_iff_toNat_le] at h
  have h48 : 48 ≤ c.toNat := h.1
  have hne : c ≠ ' ' := by
    rintro rfl
    exact absurd h48 (by decide)
  simp only [isSpace, Bool.or_eq_false_iff, beq_eq_false_iff_ne, ne_eq, hne, not_false_eq_true,
    true_and, Bool.and_eq_false_iff, decide_eq_false_iff_not]
  omega

theorem splitSign_of_isDigit {c : Char} (h : c.isDigit) (s : CString) :
    splitSign (c :: s) = (false, c :: s) := by
  have hm : c ≠ '-' := by rintro rfl; exact absurd h (by decide)
  have hp : c ≠ '+' := by rintro rfl; exact absurd h (by decide)
  simp [splitSign, hm, hp]

/-- The digits of a number end where a character that is no digit follows. -/
theorem span_append {p : Char → Bool} {ds rest : CString} (hds : ∀ c ∈ ds, p c = true)
    (hrest : ∀ c ∈ rest.head?, p c = false) :
    (ds ++ rest).takeWhile p = ds ∧ (ds ++ rest).dropWhile p = rest := by
  have htail : rest.takeWhile p = [] ∧ rest.dropWhile p = rest := by
    cases rest with
    | nil => exact ⟨rfl, rfl⟩
    | cons d rest =>
      have hd : ¬p d = true := by rw [hrest d rfl]; exact Bool.false_ne_true
      exact ⟨List.takeWhile_cons_of_neg hd, List.dropWhile_cons_of_neg hd⟩
  rw [List.takeWhile_append_of_pos hds, List.dropWhile_append_of_pos hds, htail.1, htail.2,
    List.append_nil]
  exact ⟨rfl, rfl⟩

/-- `strtol` on digits after blanks and an optional minus sign, up to the first character that is
no digit. -/
theorem strtol_digits {blanks ds rest : CString} (hblanks : ∀ c ∈ blanks, isSpace c = true)
    (hne : ds ≠ []) (hd : ∀ c ∈ ds, c.isDigit) (hrest : ∀ c ∈ rest.head?, c.isDigit = false)
    (negative : Bool) :
    strtol (blanks ++ ((if negative then '-' :: ds else ds) ++ rest)) =
      saturate (if negative then -(Nat.ofDigitChars 10 ds 0 : ℤ) else Nat.ofDigitChars 10 ds 0)
        rest := by
  obtain ⟨htake, hdrop⟩ := span_append (p := Char.isDigit) hd hrest
  obtain ⟨c, cs, rfl⟩ := List.exists_cons_of_ne_nil hne
  have hc : c.isDigit := hd c List.mem_cons_self
  cases negative with
  | true =>
    have hsp : (blanks ++ '-' :: (c :: cs ++ rest)).dropWhile isSpace =
        '-' :: (c :: cs ++ rest) := by
      rw [List.dropWhile_append_of_pos hblanks, List.dropWhile_cons_of_neg (by decide)]
    simp only [strtol, if_true, List.cons_append] at hsp htake hdrop ⊢
    simp only [hsp, splitSign, htake, hdrop, hne, if_false, if_true]
  | false =>
    have hsp : (blanks ++ (c :: cs ++ rest)).dropWhile isSpace = c :: (cs ++ rest) := by
      rw [List.dropWhile_append_of_pos hblanks, List.cons_append,
        List.dropWhile_cons_of_neg (by simp [not_isSpace_of_isDigit hc])]
    rw [List.cons_append] at htake hdrop
    simp only [strtol, Bool.false_eq_true, if_false, hsp, splitSign_of_isDigit hc, htake, hdrop,
      hne]

/-- `strtol` reads back the value that `%ld` wrote after blanks, up to the first character that is
no digit. -/
theorem strtol_decimal_append {v : ℤ} (h : longMin ≤ v ∧ v ≤ longMax) {blanks rest : CString}
    (hblanks : ∀ c ∈ blanks, isSpace c = true) (hrest : ∀ c ∈ rest.head?, c.isDigit = false) :
    strtol (blanks ++ (decimal v ++ rest)) = ⟨v, rest, false⟩ := by
  have hd : ∀ c ∈ Nat.toDigits 10 v.natAbs, c.isDigit :=
    fun c hc => Nat.isDigit_of_mem_toDigits (by decide) (by decide) hc
  have hv := strtol_digits hblanks Nat.toDigits_ne_nil hd hrest (decide (v < 0))
  rw [Nat.ofDigitChars_ten_toDigits] at hv
  simp only [decide_eq_true_eq] at hv
  rw [decimal, hv, show (if v < 0 then -(v.natAbs : ℤ) else v.natAbs) = v by split_ifs <;> omega]
  exact saturate_of_mem rest h

/-- `strtol` reads back the value that `%ld` wrote. -/
theorem strtol_decimal {v : ℤ} (h : longMin ≤ v ∧ v ≤ longMax) :
    strtol (decimal v) = ⟨v, [], false⟩ := by
  have hv := @strtol_decimal_append v h [] [] nofun nofun
  rwa [List.nil_append, List.append_nil] at hv

/-- `strtol` reads all of what `%ld` wrote, also when it was cut after two characters or later. -/
theorem strtol_take_decimal (v : ℤ) {n : ℕ} (hn : 2 ≤ n) :
    (strtol ((decimal v).take n)).endp = [] ∧ (decimal v).take n ≠ [] := by
  have hdigits : ∀ (m : ℕ) (negative : Bool), 0 < m →
      (strtol (if negative then '-' :: (Nat.toDigits 10 v.natAbs).take m
        else (Nat.toDigits 10 v.natAbs).take m)).endp = [] := by
    intro m negative hm
    have hne : (Nat.toDigits 10 v.natAbs).take m ≠ [] := by
      rw [Ne, List.take_eq_nil_iff, not_or]
      exact ⟨hm.ne', Nat.toDigits_ne_nil⟩
    have hparse := @strtol_digits [] ((Nat.toDigits 10 v.natAbs).take m) [] nofun hne
      (fun c hc => Nat.isDigit_of_mem_toDigits (by decide) (by decide) (List.mem_of_mem_take hc))
      nofun negative
    rw [List.append_nil, List.nil_append] at hparse
    rw [hparse, saturate_endp]
  refine ⟨?_, ?_⟩
  · obtain ⟨n, rfl⟩ : ∃ m, n = m + 1 := Nat.exists_eq_add_one.2 (by omega)
    rw [decimal]
    split_ifs
    · exact hdigits n true (by omega)
    · exact hdigits (n + 1) false (by omega)
  · rw [Ne, List.take_eq_nil_iff, not_or]
    exact ⟨by omega, decimal_ne_nil v⟩

theorem ofDigitChars_lt {ds : CString} (h : ∀ c ∈ ds, c.isDigit) :
    Nat.ofDigitChars 10 ds 0 < 10 ^ ds.length := by
  induction ds using List.reverseRecOn with
  | nil => exact Nat.one_pos
  | append_singleton ds c ih =>
    rw [List.forall_mem_append] at h
    have hc : c.isDigit := h.2 c (List.mem_singleton_self c)
    have hle : c.toNat ≤ 57 := by
      simp only [Char.isDigit, Bool.and_eq_true, decide_eq_true_eq, UInt32.le_iff_toNat_le] at hc
      exact hc.2
    have hlt := ih h.1
    rw [Nat.ofDigitChars_append, Nat.ofDigitChars_cons, Nat.ofDigitChars_nil, List.length_append,
      List.length_singleton, pow_succ]
    have hzero : '0'.toNat = 48 := rfl
    omega

/-- What `strtol` reads of a number of which digits were cut off: it has the sign of the number, and
is nearer to zero. -/
theorem exists_strtol_take_decimal {v : ℤ} (hv : longMin ≤ v ∧ v ≤ longMax) {n : ℕ} (hn : 2 ≤ n)
    (hlength : n < (decimal v).length) :
    ∃ k : ℕ, k < v.natAbs ∧
      (strtol ((decimal v).take n)).value = if v < 0 then -(k : ℤ) else k := by
  have hdigits : ∀ (m : ℕ) (negative : Bool), 0 < m → m < (Nat.toDigits 10 v.natAbs).length →
      ∃ k : ℕ, k < v.natAbs ∧ (strtol (if negative then '-' :: (Nat.toDigits 10 v.natAbs).take m
        else (Nat.toDigits 10 v.natAbs).take m)).value = if negative then -(k : ℤ) else k := by
    intro m negative hm hlt
    have hall : ∀ c ∈ (Nat.toDigits 10 v.natAbs).take m, c.isDigit := fun c hc =>
      Nat.isDigit_of_mem_toDigits (by decide) (by decide) (List.mem_of_mem_take hc)
    have hne : (Nat.toDigits 10 v.natAbs).take m ≠ [] := by
      rw [Ne, List.take_eq_nil_iff, not_or]
      exact ⟨hm.ne', Nat.toDigits_ne_nil⟩
    have hparse := @strtol_digits [] ((Nat.toDigits 10 v.natAbs).take m) [] (by simp) hne hall
      (by simp) negative
    rw [List.append_nil, List.nil_append] at hparse
    have hk := ofDigitChars_lt hall
    rw [List.length_take, min_eq_left hlt.le] at hk
    have habs : 10 ^ m ≤ v.natAbs := by
      by_contra hnot
      exact absurd ((Nat.length_toDigits_le_iff (by decide) hm).2 (not_le.1 hnot)) (by omega)
    refine ⟨_, hk.trans_le habs, ?_⟩
    rw [hparse, saturate_of_mem]
    rw [longMin, longMax] at *
    split_ifs <;> omega
  obtain ⟨n, rfl⟩ : ∃ m, n = m + 1 := Nat.exists_eq_add_one.2 (by omega)
  rw [decimal] at hlength ⊢
  by_cases hneg : v < 0
  · rw [if_pos hneg, List.length_cons] at hlength
    obtain ⟨k, hk, hvalue⟩ := hdigits n true (by omega) (by omega)
    exact ⟨k, hk, by rw [if_pos hneg, if_pos hneg]; exact hvalue⟩
  · rw [if_neg hneg] at hlength
    obtain ⟨k, hk, hvalue⟩ := hdigits (n + 1) false (by omega) hlength
    exact ⟨k, hk, by rw [if_neg hneg, if_neg hneg]; exact hvalue⟩

/-! ### Unsigned numbers in any base -/

/-- The value of a digit, 36 for any other character. -/
def digitValue (c : Char) : ℕ :=
  if c.isDigit then c.toNat - '0'.toNat
  else if 'a' ≤ c ∧ c ≤ 'z' then c.toNat - 'a'.toNat + 10
  else if 'A' ≤ c ∧ c ≤ 'Z' then c.toNat - 'A'.toNat + 10
  else 36

/-- The base that the prefix of a number asks for, and the rest of the number. -/
def splitBase : CString → ℕ × CString
  | '0' :: x :: c :: s =>
    if (x = 'x' ∨ x = 'X') ∧ digitValue c < 16 then (16, c :: s) else (8, '0' :: x :: c :: s)
  | '0' :: s => (8, '0' :: s)
  | s => (10, s)

/-- `ULLONG_MAX` of a 64-bit `unsigned long long`. -/
def ullongMax : ℤ := 2 ^ 64 - 1

/-- The digits of an unsigned number in a base: a number with a minus sign is negated in the
unsigned type. `s` is the whole argument, and `u` starts with the digits. -/
def scanUnsigned (s : CString) (negative : Bool) (base : ℕ) (u : CString) : LongParse :=
  let digits := u.takeWhile (digitValue · < base)
  if digits = [] then ⟨0, s, false⟩
  else
    let n : ℤ := (digits.foldl (fun n c => base * n + digitValue c) 0 : ℕ)
    let endp := u.dropWhile (digitValue · < base)
    if ullongMax < n then ⟨ullongMax, endp, true⟩
    else ⟨if negative then -n % 2 ^ 64 else n, endp, false⟩

/-- `strtoull(s, &endp, 0)`. -/
def strtoull (s : CString) : LongParse :=
  let (negative, t) := splitSign (s.dropWhile isSpace)
  let (base, u) := splitBase t
  scanUnsigned s negative base u

/-- `strtoull(s, &endp, 10)`. -/
def strtoullTen (s : CString) : LongParse :=
  let (negative, t) := splitSign (s.dropWhile isSpace)
  scanUnsigned s negative 10 t

theorem digitValue_of_isDigit {c : Char} (h : c.isDigit) :
    digitValue c = c.toNat - '0'.toNat ∧ digitValue c < 10 := by
  have hle : c.toNat ≤ 57 := by
    simp only [Char.isDigit, Bool.and_eq_true, decide_eq_true_eq, UInt32.le_iff_toNat_le] at h
    exact h.2
  have hv : digitValue c = c.toNat - '0'.toNat := if_pos h
  rw [hv]
  exact ⟨rfl, show c.toNat - 48 < 10 by omega⟩

/-- The digits of a positive number do not start with a zero. -/
theorem head?_toDigits_ne_zero {n : ℕ} (h : 0 < n) :
    (Nat.toDigits 10 n).head? ≠ some '0' := by
  induction n using Nat.strongRecOn with
  | ind n ih =>
    rw [Nat.toDigits_eq_if (by decide)]
    split_ifs with hlt
    · rw [List.head?_cons, ne_eq, Option.some_inj]
      have hdigit : ∀ m < 10, 0 < m → m.digitChar ≠ '0' := by decide
      exact hdigit n hlt h
    · have hdiv : 0 < n / 10 := Nat.div_pos (not_lt.1 hlt) (by decide)
      have hhead := ih (n / 10) (Nat.div_lt_self h (by decide)) hdiv
      rwa [List.head?_append_of_ne_nil _ Nat.toDigits_ne_nil]

theorem splitBase_of_head?_ne {s : CString} (h : s.head? ≠ some '0') : splitBase s = (10, s) := by
  unfold splitBase
  split
  · exact absurd rfl h
  · exact absurd rfl h
  · rfl

theorem foldl_digitValue {ds : CString} (hd : ∀ c ∈ ds, c.isDigit) :
    ds.foldl (fun n c => 10 * n + digitValue c) 0 = Nat.ofDigitChars 10 ds 0 := by
  rw [Nat.ofDigitChars_eq_foldl]
  exact List.foldl_ext _ _ _ fun n c hc => by rw [(digitValue_of_isDigit (hd c hc)).1]

/-- `strtoull` reads back the positive number that `%ld` wrote after a blank, up to the first
character that is no digit. -/
theorem strtoull_decimal {v : ℤ} (hpos : 0 < v) (hmax : v ≤ ullongMax) {blank : Char}
    (hblank : isSpace blank) {rest : CString} (hrest : ∀ c ∈ rest.head?, ¬digitValue c < 10) :
    strtoull (blank :: (decimal v ++ rest)) = ⟨v, rest, false⟩ := by
  have hdec : decimal v = Nat.toDigits 10 v.natAbs := if_neg (by omega)
  have hd : ∀ c ∈ Nat.toDigits 10 v.natAbs, c.isDigit :=
    fun c hc => Nat.isDigit_of_mem_toDigits (by decide) (by decide) hc
  have hvalue : ∀ c ∈ Nat.toDigits 10 v.natAbs, decide (digitValue c < 10) = true :=
    fun c hc => decide_eq_true (digitValue_of_isDigit (hd c hc)).2
  obtain ⟨c, cs, hcs⟩ := List.exists_cons_of_ne_nil (Nat.toDigits_ne_nil (n := v.natAbs) (b := 10))
  have hc : c.isDigit := hd c (by rw [hcs]; exact List.mem_cons_self)
  have hsp : (blank :: (c :: cs ++ rest)).dropWhile isSpace = c :: cs ++ rest := by
    rw [List.dropWhile_cons_of_pos hblank, List.cons_append,
      List.dropWhile_cons_of_neg (by simp [not_isSpace_of_isDigit hc])]
  have hbase : splitBase (c :: cs ++ rest) = (10, c :: cs ++ rest) := by
    refine splitBase_of_head?_ne ?_
    have hhead := head?_toDigits_ne_zero (n := v.natAbs) (by omega)
    rwa [hcs] at hhead
  rw [hcs] at hvalue
  obtain ⟨htake, hdrop⟩ := span_append hvalue fun d hd' => decide_eq_false (hrest d hd')
  have hfold := foldl_digitValue hd
  rw [Nat.ofDigitChars_ten_toDigits, hcs] at hfold
  have hle : ¬ullongMax < (v.natAbs : ℤ) := by omega
  have hsign : splitSign (c :: cs ++ rest) = (false, c :: cs ++ rest) :=
    splitSign_of_isDigit hc (cs ++ rest)
  simp only [hdec, hcs, strtoull, scanUnsigned, hsp, hsign, hbase, htake, hdrop, hfold, if_neg hle,
    reduceCtorEq, Bool.false_eq_true, if_false]
  rw [Int.natAbs_of_nonneg hpos.le]

/-- `strrchr`: the part of a string from the last occurrence of a character on. -/
def strrchr (c : Char) : CString → Option CString
  | [] => none
  | a :: s =>
    match strrchr c s with
    | some t => some t
    | none => if a = c then some (a :: s) else none

theorem strrchr_eq_none {c : Char} : {s : CString} → c ∉ s → strrchr c s = none
  | [], _ => rfl
  | a :: s, h => by
    rw [List.mem_cons, not_or] at h
    rw [strrchr, strrchr_eq_none h.2]
    exact if_neg (Ne.symm h.1)

theorem strrchr_cons {c : Char} {s : CString} (h : c ∉ s) : strrchr c (c :: s) = some (c :: s) := by
  rw [strrchr, strrchr_eq_none h]
  exact if_pos rfl

/-! ### Lines -/

/-- What `strtok(contents, "\n")` leaves in a buffer. -/
def strtokLine (contents : CString) : CString :=
  contents.takeWhile (· == '\n') ++ (contents.dropWhile (· == '\n')).takeWhile (· != '\n')

/-- A line that is not empty is left as it is. -/
theorem strtokLine_append {line rest : CString} (hne : line ≠ []) (hmem : '\n' ∉ line) :
    strtokLine (line ++ '\n' :: rest) = line := by
  have hall : ∀ a ∈ line, (a != '\n') = true := fun a ha => bne_iff_ne.2 fun h => hmem (h ▸ ha)
  obtain ⟨c, cs, rfl⟩ := List.exists_cons_of_ne_nil hne
  have hc : (c == '\n') = false := by
    rw [beq_eq_false_iff_ne]
    exact fun h => hmem (h ▸ List.mem_cons_self)
  rw [strtokLine, List.cons_append, List.takeWhile_cons_of_neg (by simp [hc]),
    List.dropWhile_cons_of_neg (by simp [hc]), List.nil_append, ← List.cons_append,
    List.takeWhile_append_of_pos hall]
  simp

end CString

/-! ### Error numbers -/

namespace Errno

/-- `ENOENT`. -/
def enoent : ℤ := 2

/-- `ERANGE`. -/
def erange : ℤ := 34

end Errno
