import GameMode.Common.External
import GameMode.Library.Numeral
import GameMode.Util.Gpuclockctl

/-!
# The performance modes of an NVIDIA GPU

The offsets of an NVIDIA GPU are kept for each performance level, and the helper changes those of
the highest one. It asks `nvidia-settings` for the modes, one after the other in one text, and takes
the number after the last semicolon. The text is read into a buffer, and a text that does not fit is
cut without a word.

## Main definitions

* `PerfMode`, `perfModesText`: the modes, and the text that shows them.
* `getMaxPerfLevelNv`, `perfLevel`: the query, and what the helper finds in its text.

## Main results

* `perfLevel_truncate_iff`, `getMaxPerfLevelNv_iff`: when the highest level is found.

Source: `util/gpuclockctl.c`, `get_max_perf_level_nv`; `common/common-external.c`.
-/

namespace GameMode

/-- `sscanf(ptr, "; perf=%ld", &level)`. -/
def scanPerfLevel : CString → Option ℤ
  | ';' :: s =>
    let s := s.dropWhile CString.isSpace
    if "perf=".toList <+: s then getGenericValue (s.drop 5) else none
  | _ => none

/-- The level that `get_max_perf_level_nv` finds in the answer to its query. -/
def perfLevel (attr : CString) : ℤ := ((CString.strrchr ';' attr).bind scanPerfLevel).getD (-1)

/-- `get_max_perf_level_nv`, whose `query` is the first one that the helper makes, so that the
buffer is empty before it. -/
def getMaxPerfLevelNv (query : ChildProcess) : ℤ :=
  let run := runExternalProcess query true (-1)
  if run.ret ≠ 0 then -1 else perfLevel (run.buffer.getD [])

/-! ### The modes -/

/-- A performance mode, as `nvidia-settings` shows it. -/
structure PerfMode where
  /-- The level. -/
  level : ℕ
  /-- The clocks, and whatever else is shown. -/
  details : CString
  level_le : (level : ℤ) ≤ CString.longMax
  noDigitFirst : CString.NoDigitFirst details
  semicolon_notMem : ';' ∉ details

/-- The text of a mode up to its level. -/
def PerfMode.levelText (mode : PerfMode) : CString := "perf=".toList ++ Nat.toDigits 10 mode.level

/-- The text of a mode. -/
def PerfMode.text (mode : PerfMode) : CString := mode.levelText ++ mode.details

/-- The answer to a query for the modes. -/
def perfModesText : List PerfMode → CString
  | [] => []
  | mode :: modes => mode.text ++ modes.flatMap fun mode => ';' :: ' ' :: mode.text

theorem perfModesText_concat {modes : List PerfMode} (hne : modes ≠ []) (last : PerfMode) :
    perfModesText (modes ++ [last]) = perfModesText modes ++ ';' :: ' ' :: last.text := by
  obtain ⟨mode, modes, rfl⟩ := List.exists_cons_of_ne_nil hne
  simp [perfModesText]

namespace PerfMode

variable (mode : PerfMode)

theorem isDigit_of_mem {c : Char} (h : c ∈ Nat.toDigits 10 mode.level) : c.isDigit :=
  Nat.isDigit_of_mem_toDigits (by decide) (by decide) h

theorem semicolon_notMem_text : ';' ∉ mode.text := by
  have hdigits : ';' ∉ Nat.toDigits 10 mode.level := fun h => absurd (mode.isDigit_of_mem h)
    (by decide)
  simp [text, levelText, hdigits, mode.semicolon_notMem]

theorem isLong_level : CString.longMin ≤ (mode.level : ℤ) ∧ (mode.level : ℤ) ≤ CString.longMax :=
  ⟨le_trans (by decide : CString.longMin ≤ 0) (Int.natCast_nonneg _), mode.level_le⟩

end PerfMode

/-! ### What is found -/

theorem strrchr_append {c : Char} (s : CString) {t : CString} (h : c ∉ t) :
    CString.strrchr c (s ++ c :: t) = some (c :: t) := by
  induction s with
  | nil => exact CString.strrchr_cons h
  | cons a s ih => rw [List.cons_append, CString.strrchr, ih]

theorem decimal_natCast (n : ℕ) : CString.decimal n = Nat.toDigits 10 n := by
  rw [CString.decimal, if_neg (by omega), Int.natAbs_natCast]

/-- Digits that were cut off make a level smaller. -/
theorem exists_getGenericValue_take {n m : ℕ} (hn : (n : ℤ) ≤ CString.longMax) (hpos : 0 < m)
    (hlt : m < (Nat.toDigits 10 n).length) :
    ∃ k < n, getGenericValue ((Nat.toDigits 10 n).take m) = some (k : ℤ) := by
  have hall : ∀ c ∈ (Nat.toDigits 10 n).take m, c.isDigit := fun c hc =>
    Nat.isDigit_of_mem_toDigits (by decide) (by decide) (List.mem_of_mem_take hc)
  have hne : (Nat.toDigits 10 n).take m ≠ [] := by
    rw [Ne, List.take_eq_nil_iff, not_or]
    exact ⟨hpos.ne', Nat.toDigits_ne_nil⟩
  have hk := CString.ofDigitChars_lt hall
  rw [List.length_take, min_eq_left hlt.le] at hk
  have hle : 10 ^ m ≤ n := by
    by_contra hnot
    exact absurd ((Nat.length_toDigits_le_iff (by decide) hpos).2 (not_le.1 hnot)) (by omega)
  have hparse := @CString.strtol_digits [] _ [] (by simp) hne hall (by simp) false
  rw [List.append_nil, List.nil_append, CString.saturate_of_mem] at hparse
  · refine ⟨_, hk.trans_le hle, ?_⟩
    simp only [getGenericValue, Bool.false_eq_true, if_false] at hparse ⊢
    rw [hparse]
    simp [hne.symm]
  · have hmin : CString.longMin ≤ 0 := by decide
    simp only [Bool.false_eq_true, if_false]
    omega

theorem scanPerfLevel_perf (s : CString) :
    scanPerfLevel ("; perf=".toList ++ s) = getGenericValue s := by
  have hblank : CString.isSpace 'p' = false := by decide
  have hspace : CString.isSpace ' ' = true := by decide
  simp [scanPerfLevel, hblank, hspace]

/-- What is found in a mode that was cut: its level, or, when the level is cut, a smaller one or
none. -/
theorem scanPerfLevel_take (mode : PerfMode) (n : ℕ) :
    if mode.levelText.length + 2 ≤ n then
      scanPerfLevel ((';' :: ' ' :: mode.text).take n) = some (mode.level : ℤ)
    else ∀ v, scanPerfLevel ((';' :: ' ' :: mode.text).take n) = some v → v < mode.level := by
  have htext : ';' :: ' ' :: mode.text =
      "; perf=".toList ++ (Nat.toDigits 10 mode.level ++ mode.details) := by
    simp [PerfMode.text, PerfMode.levelText]
  have hlength : mode.levelText.length = 5 + (Nat.toDigits 10 mode.level).length := by
    simp [PerfMode.levelText]
    omega
  have hseven : ("; perf=".toList).length = 7 := by decide
  rw [htext, hlength]
  rw [List.take_append, hseven]
  split_ifs with hn
  · rw [List.take_append, List.take_of_length_le (by omega), List.take_of_length_le (by omega),
      scanPerfLevel_perf]
    have hrest : CString.NoDigitFirst
        (mode.details.take (n - 7 - (Nat.toDigits 10 mode.level).length)) := by
      intro c hc
      rw [List.head?_take] at hc
      split_ifs at hc
      · cases hc
      · exact mode.noDigitFirst c hc
    have hparse := @CString.strtol_decimal_append mode.level mode.isLong_level [] _ (by simp) hrest
    rw [List.nil_append, decimal_natCast] at hparse
    rw [getGenericValue]
    simp [hparse]
  · intro v hv
    by_cases hzero : n ≤ 7
    · have hnone : ∀ n ≤ 7, scanPerfLevel ("; perf=".toList.take n) = none := by decide
      rw [Nat.sub_eq_zero_of_le hzero, List.take_zero, List.append_nil, hnone n hzero] at hv
      cases hv
    · rw [List.take_of_length_le (by omega), scanPerfLevel_perf,
        List.take_append_of_le_length (by omega)] at hv
      obtain ⟨k, hk, hvalue⟩ := exists_getGenericValue_take mode.level_le (by omega : 0 < n - 7)
        (by omega)
      rw [hvalue, Option.some_inj] at hv
      omega

theorem strrchr_take_concat {modes : List PerfMode} (hne : modes ≠ []) (last : PerfMode) {n : ℕ}
    (hn : (perfModesText modes).length < n) :
    CString.strrchr ';' ((perfModesText (modes ++ [last])).take n) =
      some ((';' :: ' ' :: last.text).take (n - (perfModesText modes).length)) := by
  obtain ⟨k, rfl⟩ := Nat.exists_eq_add_of_lt hn
  have hnotMem : ';' ∉ (' ' :: last.text).take k := fun h => by
    simpa [last.semicolon_notMem_text] using List.mem_of_mem_take h
  rw [perfModesText_concat hne, List.take_append, List.take_of_length_le (by omega),
    show (perfModesText modes).length + k + 1 - (perfModesText modes).length = k + 1 by omega,
    List.take_succ_cons]
  exact strrchr_append _ hnotMem

theorem strrchr_take_single (last : PerfMode) (n : ℕ) :
    CString.strrchr ';' ((perfModesText [last]).take n) = none := by
  have htext : perfModesText [last] = last.text := by simp [perfModesText]
  rw [htext]
  exact CString.strrchr_eq_none fun h => last.semicolon_notMem_text (List.mem_of_mem_take h)

/-- What is found in modes that were cut is at most one of their levels. -/
theorem exists_le_of_scan_take {modes : List PerfMode} {n : ℕ} {v : ℤ}
    (h : (CString.strrchr ';' ((perfModesText modes).take n)).bind scanPerfLevel = some v) :
    ∃ mode ∈ modes, v ≤ mode.level := by
  induction modes using List.reverseRecOn with
  | nil => simp [perfModesText, CString.strrchr] at h
  | append_singleton modes last ih =>
    by_cases hne : modes = []
    · rw [hne, List.nil_append, strrchr_take_single] at h
      cases h
    · by_cases hcut : n ≤ (perfModesText modes).length
      · rw [perfModesText_concat hne, List.take_append_of_le_length hcut] at h
        obtain ⟨mode, hmode, hle⟩ := ih h
        exact ⟨mode, List.mem_append_left _ hmode, hle⟩
      · refine ⟨last, by simp, ?_⟩
        rw [strrchr_take_concat hne last (not_le.1 hcut), Option.bind_some] at h
        have hscan := scanPerfLevel_take last (n - (perfModesText modes).length)
        split_ifs at hscan
        · rw [hscan, Option.some_inj] at h
          exact h.ge
        · exact (hscan v h).le

/-- Where the levels of the modes ascend, the highest one is found in what a buffer keeps of their
text if and only if there is another mode before it, and the buffer has room for the text up to the
number. -/
theorem perfLevel_truncate_iff {modes : List PerfMode} {last : PerfMode} (size : ℕ)
    (h : ∀ mode ∈ modes, mode.level < last.level) :
    perfLevel ((perfModesText (modes ++ [last])).truncate size) = last.level ↔
      modes ≠ [] ∧ (perfModesText modes ++ ';' :: ' ' :: last.levelText).length < size := by
  have hlength : (perfModesText modes ++ ';' :: ' ' :: last.levelText).length =
      (perfModesText modes).length + (last.levelText.length + 2) := by
    simp
  rw [perfLevel, CString.truncate, hlength]
  by_cases hne : modes = []
  · rw [hne, List.nil_append, strrchr_take_single]
    simp
  by_cases hcut : size - 1 ≤ (perfModesText modes).length
  · -- what is found is of a mode before
    rw [perfModesText_concat hne, List.take_append_of_le_length hcut]
    refine iff_of_false (fun hfound => ?_) (by omega)
    cases hscan : (CString.strrchr ';' ((perfModesText modes).take (size - 1))).bind
        scanPerfLevel with
    | none =>
      rw [hscan] at hfound
      simp at hfound
    | some v =>
      rw [hscan, Option.getD_some] at hfound
      obtain ⟨mode, hmode, hle⟩ := exists_le_of_scan_take hscan
      have hlt := h mode hmode
      omega
  · rw [strrchr_take_concat hne last (not_le.1 hcut), Option.bind_some]
    have hscan := scanPerfLevel_take last (size - 1 - (perfModesText modes).length)
    split_ifs at hscan with hroom
    · rw [hscan]
      exact iff_of_true rfl ⟨hne, by omega⟩
    · refine iff_of_false (fun hfound => ?_) (by omega)
      cases hvalue : scanPerfLevel ((';' :: ' ' :: last.text).take
          (size - 1 - (perfModesText modes).length)) with
      | none =>
        rw [hvalue] at hfound
        simp at hfound
      | some v =>
        rw [hvalue, Option.getD_some] at hfound
        have hlt := hscan v hvalue
        omega

/-- **The highest level.** Let the levels of the modes ascend, and let the query for them succeed.
The highest one is found if and only if there is another mode before it, and the text up to its
number fits the buffer, in whatever pieces it comes through the pipe. -/
theorem getMaxPerfLevelNv_iff {query : ChildProcess} {modes : List PerfMode} {last : PerfMode}
    (hquery : query.Succeeded (-1))
    (htext : (outputOf (query.output defaultTimeout)).2 = perfModesText (modes ++ [last]))
    (h : ∀ mode ∈ modes, mode.level < last.level) :
    getMaxPerfLevelNv query = last.level ↔
      modes ≠ [] ∧
        (perfModesText modes ++ ';' :: ' ' :: last.levelText).length < externalBufferMax := by
  have hret : (runExternalProcess query true (-1)).ret = 0 :=
    runExternalProcess_eq_zero_iff.2 ⟨hquery.pipe, fun _ => Or.inl hquery.status⟩
  have hbuffer : (runExternalProcess query true (-1)).buffer.getD [] =
      (perfModesText (modes ++ [last])).truncate externalBufferMax := by
    have heof : (outputOf (query.output defaultTimeout)).1 = .eof := hquery.eof
    rw [runExternalProcess_buffer, hquery.pipe, hquery.fork,
      show timeoutOf (-1) = defaultTimeout from rfl, heof, htext]
    rfl
  simp only [getMaxPerfLevelNv, hret, hbuffer, ne_eq, not_true_eq_false, if_false]
  exact perfLevel_truncate_iff externalBufferMax h

private def plainMode (level : ℕ) (h : (level : ℤ) ≤ CString.longMax) : PerfMode :=
  ⟨level, [], h, (fun c hc => by cases hc), List.not_mem_nil⟩

/-- Two modes, whose text comes in two pieces. -/
theorem getMaxPerfLevelNv_of_two :
    getMaxPerfLevelNv
      { pipe := true
        fork := true
        output := fun _ =>
          [.readable "perf=0; pe".toList, .interrupted, .readable "rf=3".toList, .readable []]
        status := fun _ => some (.exited 0) } = 3 :=
  (@getMaxPerfLevelNv_iff _ [plainMode 0 (by decide)] (plainMode 3 (by decide))
    ⟨rfl, rfl, rfl, rfl⟩ rfl (by simp [plainMode])).2 ⟨by simp, by decide⟩

end GameMode
