import GameMode.Library.CString

/-!
# Numerals of the C library

What `strtol` reads of a string is a numeral: blanks, an optional sign and at least one digit, up to
the first character that is no digit. A string starts with a numeral in one way only, so the texts
that a parser built on `strtol` accepts can be described by the numerals in them.

## Main definitions

* `CString.Numeral`, `CString.Numeral.text`, `CString.Numeral.value`.
* `CString.Numeral.Plain`: a numeral without blanks and sign that `long` can represent.
* `CString.Numeral.ofNat`: the numeral that `%u` writes.

## Main results

* `CString.strtol_numeral`, `CString.exists_numeral`: `strtol` reads exactly the numerals.
* `CString.strtoullTen_numeral`, `CString.exists_numeral_of_strtoullTen`: so does `strtoull`.
* `CString.Numeral.text_append_inj`: a string starts with one numeral at most.
-/

namespace CString

/-- The sign of a number. -/
inductive Sign
  | plus | minus
  deriving DecidableEq

/-- The character of a sign. -/
def Sign.char : Sign → Char
  | plus => '+'
  | minus => '-'

/-- The characters of an optional sign. -/
def Sign.text (sign : Option Sign) : CString := (sign.map Sign.char).toList

theorem Sign.text_injective : Function.Injective Sign.text := by
  intro sign sign' h
  rcases sign with _ | _ | _ <;> rcases sign' with _ | _ | _ <;>
    first
      | rfl
      | simp [Sign.text, Sign.char] at h

/-- No digit follows. -/
def NoDigitFirst (s : CString) : Prop := ∀ c ∈ s.head?, c.isDigit = false

theorem noDigitFirst_nil : NoDigitFirst [] := nofun

theorem noDigitFirst_cons {c : Char} {s : CString} (h : c.isDigit = false) :
    NoDigitFirst (c :: s) := by
  intro d hd
  rw [List.head?_cons, Option.mem_some_iff] at hd
  exact hd ▸ h

/-- The characters of a number: blanks, an optional sign, and digits. -/
@[ext] structure Numeral where
  /-- The blanks before the number. -/
  blanks : CString
  /-- The sign. -/
  sign : Option Sign
  /-- The digits. -/
  digits : CString
  isSpace : ∀ c ∈ blanks, isSpace c = true
  ne_nil : digits ≠ []
  isDigit : ∀ c ∈ digits, c.isDigit = true

namespace Numeral

/-- The characters of the sign, and the digits. -/
def signedDigits (n : Numeral) : CString := Sign.text n.sign ++ n.digits

/-- The characters of a numeral. -/
def text (n : Numeral) : CString := n.blanks ++ n.signedDigits

/-- The value of the digits. -/
def natValue (n : Numeral) : ℕ := Nat.ofDigitChars 10 n.digits 0

/-- The number that a numeral denotes. -/
def value (n : Numeral) : ℤ := if n.sign = some .minus then -(n.natValue : ℤ) else n.natValue

/-- What `strtol` returns for a numeral: a number that is out of range saturates. -/
def long (n : Numeral) : ℤ := (saturate n.value []).value

/-- Neither blanks nor a sign, and a number that `long` can represent. -/
structure Plain (n : Numeral) : Prop where
  blanks : n.blanks = []
  sign : n.sign = none
  le : n.value ≤ longMax

theorem text_append_ne (n : Numeral) (rest : CString) : n.text ++ rest ≠ rest := by
  intro h
  have hlength := congrArg List.length h
  have hpos := List.length_pos_iff.2 n.ne_nil
  simp only [text, signedDigits, List.length_append] at hlength
  omega

theorem saturate_value (n : Numeral) (endp : CString) :
    (saturate n.value endp).value = n.long := by
  rw [long, saturate, saturate]
  split_ifs <;> rfl

theorem long_le (n : Numeral) : n.long ≤ longMax := by
  rw [long, saturate]
  split_ifs with hmin hmax
  · exact show longMin ≤ longMax by decide
  · exact le_rfl
  · exact not_lt.1 hmax

variable {n : Numeral}

theorem Plain.value_eq (h : n.Plain) : n.value = n.natValue := by
  rw [value, h.sign, if_neg nofun]

theorem Plain.long_eq (h : n.Plain) : n.long = n.natValue := by
  have hmin : longMin ≤ n.value := by
    rw [h.value_eq]
    exact le_trans (by decide : longMin ≤ 0) (Int.natCast_nonneg _)
  rw [long, saturate_of_mem [] ⟨hmin, h.le⟩]
  exact h.value_eq

theorem Plain.text_eq (h : n.Plain) : n.text = n.digits := by
  rw [text, signedDigits, h.blanks, h.sign]
  rfl

/-- The characters after the blanks do not start with one. -/
theorem span_isSpace (n : Numeral) (rest : CString) :
    (n.text ++ rest).takeWhile CString.isSpace = n.blanks ∧
      (n.text ++ rest).dropWhile CString.isSpace = n.signedDigits ++ rest := by
  have hfirst : ∀ c ∈ (n.signedDigits ++ rest).head?, CString.isSpace c = false := by
    intro c hc
    obtain ⟨d, ds, hds⟩ := List.exists_cons_of_ne_nil n.ne_nil
    cases hsign : n.sign with
    | none =>
      rw [signedDigits, hsign, hds] at hc
      obtain rfl := Option.mem_some_iff.1 hc
      exact not_isSpace_of_isDigit (n.isDigit d (hds ▸ List.mem_cons_self))
    | some sign =>
      rw [signedDigits, hsign] at hc
      obtain rfl := Option.mem_some_iff.1 hc
      cases sign <;> rfl
  rw [text, List.append_assoc]
  exact span_append n.isSpace hfirst

theorem splitSign_signedDigits (n : Numeral) (rest : CString) :
    splitSign (n.signedDigits ++ rest) = (decide (n.sign = some .minus), n.digits ++ rest) := by
  obtain ⟨d, ds, hds⟩ := List.exists_cons_of_ne_nil n.ne_nil
  cases hsign : n.sign with
  | none =>
    have hdigit : d.isDigit = true := n.isDigit d (hds ▸ List.mem_cons_self)
    rw [signedDigits, hsign, hds]
    exact splitSign_of_isDigit hdigit (ds ++ rest)
  | some sign =>
    rw [signedDigits, hsign]
    cases sign <;> rfl

end Numeral

/-- `strtol` on a numeral, up to the first character that is no digit. -/
theorem strtol_numeral (n : Numeral) {rest : CString} (h : NoDigitFirst rest) :
    strtol (n.text ++ rest) = saturate n.value rest := by
  obtain ⟨htake, hdrop⟩ := span_append (p := Char.isDigit) n.isDigit h
  rw [strtol, (n.span_isSpace rest).2, n.splitSign_signedDigits rest]
  simp only [htake, hdrop, n.ne_nil, if_false, decide_eq_true_eq]
  rfl

/-- A string starts with one numeral at most. -/
theorem Numeral.text_append_inj {n n' : Numeral} {rest rest' : CString} (h : NoDigitFirst rest)
    (h' : NoDigitFirst rest') (heq : n.text ++ rest = n'.text ++ rest') :
    n = n' ∧ rest = rest' := by
  obtain ⟨htake, hdrop⟩ := n.span_isSpace rest
  obtain ⟨htake', hdrop'⟩ := n'.span_isSpace rest'
  have hblanks : n.blanks = n'.blanks := by rw [← htake, heq, htake']
  have hsigned : n.signedDigits ++ rest = n'.signedDigits ++ rest' := by rw [← hdrop, heq, hdrop']
  have hdigits : n.digits ++ rest = n'.digits ++ rest' := by
    have hsplit := congrArg (fun s => (splitSign s).2) hsigned
    simpa only [splitSign_signedDigits] using hsplit
  have hsign : n.sign = n'.sign := by
    rw [signedDigits, signedDigits, List.append_assoc, List.append_assoc, hdigits,
      List.append_left_inj] at hsigned
    exact Sign.text_injective hsigned
  obtain ⟨hspan, hspanRest⟩ := span_append (p := Char.isDigit) n.isDigit h
  obtain ⟨hspan', hspanRest'⟩ := span_append (p := Char.isDigit) n'.isDigit h'
  refine ⟨Numeral.ext hblanks hsign ?_, ?_⟩
  · rw [← hspan, hdigits, hspan']
  · rw [← hspanRest, hdigits, hspanRest']

theorem exists_sign (s : CString) : ∃ sign, s = Sign.text sign ++ (splitSign s).2 := by
  unfold splitSign
  split
  · exact ⟨some .minus, rfl⟩
  · exact ⟨some .plus, rfl⟩
  · exact ⟨none, rfl⟩

theorem strtol_endp (s : CString) :
    (strtol s).endp =
      if (splitSign (s.dropWhile isSpace)).2.takeWhile Char.isDigit = [] then s
      else (splitSign (s.dropWhile isSpace)).2.dropWhile Char.isDigit := by
  simp only [strtol, apply_ite LongParse.endp, saturate_endp]

/-- What `strtol` reads is a numeral. -/
theorem exists_numeral {s : CString} (h : (strtol s).endp ≠ s) :
    ∃ n : Numeral, s = n.text ++ (strtol s).endp ∧ NoDigitFirst (strtol s).endp := by
  obtain ⟨sign, hsign⟩ := exists_sign (s.dropWhile isSpace)
  rw [strtol_endp] at h ⊢
  split_ifs at h ⊢ with hdigits
  · exact absurd rfl h
  · refine ⟨⟨s.takeWhile isSpace, sign, _, fun c hc => List.mem_takeWhile_imp hc, hdigits,
      fun c hc => List.mem_takeWhile_imp hc⟩, ?_, fun c hc => ?_⟩
    · rw [Numeral.text, Numeral.signedDigits, List.append_assoc, List.append_assoc,
        List.takeWhile_append_dropWhile, ← hsign, List.takeWhile_append_dropWhile]
    · have hfirst := List.head?_dropWhile_not Char.isDigit
        (splitSign (s.dropWhile isSpace)).2
      rw [Option.mem_def.1 hc] at hfirst
      exact hfirst

/-! ### Unsigned numbers -/

theorem digitValue_lt_ten (c : Char) : decide (digitValue c < 10) = c.isDigit := by
  cases h : c.isDigit with
  | true => exact decide_eq_true (digitValue_of_isDigit h).2
  | false =>
    rw [digitValue, if_neg (by simp [h])]
    split_ifs <;> exact decide_eq_false (by omega)

theorem scanUnsigned_ten (s : CString) (negative : Bool) (u : CString) :
    scanUnsigned s negative 10 u =
      if u.takeWhile Char.isDigit = [] then ⟨0, s, false⟩
      else
        let n : ℤ := (Nat.ofDigitChars 10 (u.takeWhile Char.isDigit) 0 : ℕ)
        let endp := u.dropWhile Char.isDigit
        if ullongMax < n then ⟨ullongMax, endp, true⟩
        else ⟨if negative then -n % 2 ^ 64 else n, endp, false⟩ := by
  have hdigit : (fun c => decide (digitValue c < 10)) = Char.isDigit := funext digitValue_lt_ten
  have hfold := foldl_digitValue fun c hc => List.mem_takeWhile_imp (l := u) (p := Char.isDigit) hc
  simp only [scanUnsigned, hdigit, hfold]

/-- What `strtoull` returns for a numeral: a number with a minus sign is negated in the unsigned
type. -/
def Numeral.ullong (n : Numeral) : ℤ :=
  if n.sign = some .minus then -(n.natValue : ℤ) % 2 ^ 64 else n.natValue

/-- `strtoull` on a numeral, up to the first character that is no digit. -/
theorem strtoullTen_numeral (n : Numeral) {rest : CString} (h : NoDigitFirst rest) :
    strtoullTen (n.text ++ rest) =
      if ullongMax < n.natValue then ⟨ullongMax, rest, true⟩ else ⟨n.ullong, rest, false⟩ := by
  obtain ⟨htake, hdrop⟩ := span_append (p := Char.isDigit) n.isDigit h
  rw [strtoullTen, (n.span_isSpace rest).2, n.splitSign_signedDigits rest]
  simp only [scanUnsigned_ten, htake, hdrop, n.ne_nil, if_false, decide_eq_true_eq]
  rfl

/-- The end pointers of `strtoull` and `strtol` agree. -/
theorem strtoullTen_endp (s : CString) : (strtoullTen s).endp = (strtol s).endp := by
  rw [strtol_endp]
  simp only [strtoullTen, scanUnsigned_ten, apply_ite LongParse.endp, ite_self]

/-- What `strtoull` reads is a numeral. -/
theorem exists_numeral_of_strtoullTen {s : CString} (h : (strtoullTen s).endp ≠ s) :
    ∃ n : Numeral, s = n.text ++ (strtoullTen s).endp ∧ NoDigitFirst (strtoullTen s).endp := by
  rw [strtoullTen_endp] at h ⊢
  exact exists_numeral h

/-- The numeral that `%u` writes. -/
def Numeral.ofNat (k : ℕ) : Numeral :=
  ⟨[], none, Nat.toDigits 10 k, by simp, Nat.toDigits_ne_nil,
    fun _ hc => Nat.isDigit_of_mem_toDigits (by decide) (by decide) hc⟩

@[simp] theorem Numeral.text_ofNat (k : ℕ) : (Numeral.ofNat k).text = Nat.toDigits 10 k := rfl

@[simp] theorem Numeral.natValue_ofNat (k : ℕ) : (Numeral.ofNat k).natValue = k :=
  Nat.ofDigitChars_ten_toDigits

@[simp] theorem Numeral.ullong_ofNat (k : ℕ) : (Numeral.ofNat k).ullong = k := by
  rw [ullong, natValue_ofNat]
  exact if_neg (by simp [ofNat])

end CString
