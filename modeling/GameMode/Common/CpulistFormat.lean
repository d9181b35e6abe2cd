import GameMode.Common.Cpulist
import GameMode.Library.Numeral
import Mathlib.Data.List.Chain

/-!
# The format of lists of CPU cores

The documented format of a list is `a,b-c,d-e,f`: items that are separated by commas, each a number
or a range. The parser reads more than that. Its numbers are those of `strtol`, with blanks, a sign,
and values that saturate; it skips whatever character follows a range; and it does not notice a
separator at the end. Here the texts that the loop around the parser reads to their end are
described by entries, an item with the character that follows it, and compared with the format.

## Main definitions

* `CpuItem`, `IsCpulist`: an item, and the documented format.
* `CpuEntry`: an item with its separator, as the parser takes it.
* `cpulistRest`, `ReadToEnd`: where the loop stops.

## Main results

* `parseCpulist_eq_some_iff`: the parser takes one entry.
* `readToEnd_iff`: the texts that the loop reads to their end.
* `parsedAsDocumented_iff`: which texts are parsed as the format says.

Source: `common/common-cpu.c`, `common/common-cpu.h`.
-/

namespace GameMode

open CString (Numeral NoDigitFirst)

/-! ### Items and entries -/

/-- An item of a list: a number, or two of them with a dash between them. -/
structure CpuItem where
  /-- The number, or the first one of a range. -/
  first : Numeral
  /-- The last number of a range. -/
  last : Option Numeral
  le : first.long ≤ (last.getD first).long

/-- The first and the last core of an item. -/
def CpuItem.bounds (item : CpuItem) : ℤ × ℤ := (item.first.long, (item.last.getD item.first).long)

/-- The dash and the last number of a range. -/
def CpuItem.lastText (item : CpuItem) : CString :=
  match item.last with
  | none => []
  | some last => '-' :: last.text

/-- The characters of an item. -/
def CpuItem.text (item : CpuItem) : CString := item.first.text ++ item.lastText

/-- The numbers of an item are digits only, and `long` can represent them. -/
structure CpuItem.Plain (item : CpuItem) : Prop where
  first : item.first.Plain
  last : ∀ n ∈ item.last, n.Plain

/-- The documented format: at least one item, with commas between the items. -/
structure IsCpulist (s : CString) (items : List CpuItem) : Prop where
  ne_nil : items ≠ []
  plain : ∀ item ∈ items, item.Plain
  text : s = List.intercalate [','] (items.map CpuItem.text)

/-- An item as the parser takes it, with the character that follows it: after a number a comma,
after a range any character that does not continue the number. -/
structure CpuEntry where
  /-- The item. -/
  item : CpuItem
  /-- The character after it. -/
  sep : Option Char
  isComma : item.last = none → ∀ c ∈ sep, c = ','
  isDigit : ∀ c ∈ sep, c.isDigit = false

namespace CpuEntry

/-- The characters of an entry. -/
def text (entry : CpuEntry) : CString := entry.item.text ++ entry.sep.toList

/-- The entry is an item of the format, with a comma where another one follows. -/
structure Documented (entry : CpuEntry) : Prop where
  plain : entry.item.Plain
  comma : ∀ c ∈ entry.sep, c = ','

/-- Only the last entry may lack its separator. -/
def Separated (entries : List CpuEntry) : Prop :=
  entries.IsChain fun entry _ => entry.sep ≠ none

variable {entry entry' : CpuEntry} {rest rest' : CString}

theorem noDigitFirst_sep (hrest : entry.sep = none → rest = []) :
    NoDigitFirst (entry.sep.toList ++ rest) := by
  cases hsep : entry.sep with
  | none =>
    rw [hrest hsep]
    exact CString.noDigitFirst_nil
  | some c => exact CString.noDigitFirst_cons (entry.isDigit c hsep)

/-- Where the separator and what follows it are the same, both are. -/
theorem sep_append_inj (hrest : entry.sep = none → rest = [])
    (hrest' : entry'.sep = none → rest' = [])
    (heq : entry.sep.toList ++ rest = entry'.sep.toList ++ rest') :
    entry.sep = entry'.sep ∧ rest = rest' := by
  cases hsep : entry.sep with
  | none =>
    cases hsep' : entry'.sep with
    | none => exact ⟨rfl, (hrest hsep).trans (hrest' hsep').symm⟩
    | some c =>
      rw [hsep, hsep', hrest hsep] at heq
      cases heq
  | some c =>
    cases hsep' : entry'.sep with
    | none =>
      rw [hsep, hsep', hrest' hsep'] at heq
      cases heq
    | some c' =>
      rw [hsep, hsep'] at heq
      obtain ⟨rfl, hrest⟩ := List.cons.inj heq
      exact ⟨rfl, hrest⟩

theorem noDigitFirst_lastText (hrest : entry.sep = none → rest = []) :
    NoDigitFirst (entry.item.lastText ++ (entry.sep.toList ++ rest)) := by
  rw [CpuItem.lastText]
  split
  · exact noDigitFirst_sep hrest
  · exact CString.noDigitFirst_cons rfl

/-- A text starts with one entry at most. -/
theorem text_append_inj (hrest : entry.sep = none → rest = [])
    (hrest' : entry'.sep = none → rest' = []) (heq : entry.text ++ rest = entry'.text ++ rest') :
    entry = entry' ∧ rest = rest' := by
  have hsep := @sep_append_inj entry entry' rest rest' hrest hrest'
  have hdigit := noDigitFirst_sep hrest
  have hdigit' := noDigitFirst_sep hrest'
  simp only [text, CpuItem.text, List.append_assoc] at heq
  obtain ⟨hfirst, htail⟩ := Numeral.text_append_inj (noDigitFirst_lastText hrest)
    (noDigitFirst_lastText hrest') heq
  obtain ⟨⟨first, last, hle⟩, sep, hcomma, hsepDigit⟩ := entry
  obtain ⟨⟨first', last', hle'⟩, sep', hcomma', hsepDigit'⟩ := entry'
  obtain rfl : first = first' := hfirst
  -- a comma or the end cannot be taken for the dash of a range
  have hdash : ∀ {sep : Option Char} {r s : CString}, (∀ c ∈ sep, c = ',') →
      (sep = none → r = []) → sep.toList ++ r ≠ '-' :: s := by
    intro sep r s hcomma hr heq
    cases hs : sep with
    | none =>
      rw [hs, hr hs] at heq
      cases heq
    | some c =>
      obtain rfl := hcomma c hs
      rw [hs] at heq
      exact absurd (List.cons.inj heq).1 (by decide)
  cases last with
  | none =>
    cases last' with
    | none =>
      obtain ⟨rfl, hrestEq⟩ := hsep htail
      exact ⟨rfl, hrestEq⟩
    | some last' => exact absurd htail (hdash (hcomma rfl) hrest)
  | some last =>
    cases last' with
    | none => exact absurd htail.symm (hdash (hcomma' rfl) hrest')
    | some last' =>
      obtain ⟨rfl, htail⟩ := Numeral.text_append_inj hdigit hdigit' (List.cons.inj htail).2
      obtain ⟨rfl, hrestEq⟩ := hsep htail
      exact ⟨rfl, hrestEq⟩

end CpuEntry

/-! ### The parser -/

/-- The parser takes an entry off the front of a text. -/
theorem parseCpulist_entry (entry : CpuEntry) {rest : CString}
    (hrest : entry.sep = none → rest = []) :
    parseCpulist (entry.text ++ rest) =
      some (entry.item.bounds.1, entry.item.bounds.2, rest) := by
  have hfirst := CString.strtol_numeral entry.item.first (entry.noDigitFirst_lastText hrest)
  have hsep := entry.noDigitFirst_sep hrest
  have htext : entry.text ++ rest =
      entry.item.first.text ++ (entry.item.lastText ++ (entry.sep.toList ++ rest)) := by
    simp only [CpuEntry.text, CpuItem.text, List.append_assoc]
  have hne : ∀ n : Numeral, ∀ s, n.text ++ s ≠ [] := fun n s h =>
    n.text_append_ne s (h.trans (List.append_eq_nil_iff.1 h).2.symm)
  rw [htext]
  obtain ⟨⟨first, last, hle⟩, sep, hcomma, hsepDigit⟩ := entry
  simp only [parseCpulist, hfirst, CString.saturate_endp, Numeral.saturate_value,
    if_neg (hne _ _), if_neg (Ne.symm (Numeral.text_append_ne _ _)), CpuItem.bounds]
  cases last with
  | none =>
    cases sep with
    | none =>
      rw [hrest rfl]
      rfl
    | some c =>
      obtain rfl := hcomma rfl c rfl
      rfl
  | some last =>
    have hlast := CString.strtol_numeral last hsep
    have hle' : ¬last.long < first.long := not_lt.2 hle
    simp only [CpuItem.lastText, List.cons_append, hlast, CString.saturate_endp,
      Numeral.saturate_value, if_neg (Ne.symm (Numeral.text_append_ne _ _)), if_neg hle']
    cases sep with
    | none =>
      rw [hrest rfl]
      rfl
    | some c => rfl

/-- What the parser takes off the front of a text is an entry. -/
theorem exists_entry {s rest : CString} {lo hi : ℤ} (h : parseCpulist s = some (lo, hi, rest)) :
    ∃ entry : CpuEntry, s = entry.text ++ rest ∧ (entry.sep = none → rest = []) ∧
      entry.item.bounds = (lo, hi) := by
  simp only [parseCpulist] at h
  split_ifs at h with hnil hend
  obtain ⟨first, hs, hdigit⟩ := CString.exists_numeral hend
  have hvalue : (CString.strtol s).value = first.long := by
    rw [hs, CString.strtol_numeral first hdigit, Numeral.saturate_value]
  split at h
  · rename_i hendp
    cases h
    refine ⟨⟨⟨first, none, le_rfl⟩, none, fun _ => by simp, by simp⟩, ?_, fun _ => rfl, ?_⟩
    · rw [hs, hendp]
      simp [CpuEntry.text, CpuItem.text, CpuItem.lastText]
    · rw [hvalue]
      rfl
  · rename_i tail hendp
    cases h
    refine ⟨⟨⟨first, none, le_rfl⟩, some ',', ?_, ?_⟩, ?_, by simp, ?_⟩
    · rintro - c hc
      exact (Option.mem_some_iff.1 hc).symm
    · rintro c hc
      rw [← Option.mem_some_iff.1 hc]
      rfl
    · rw [hs, hendp]
      simp [CpuEntry.text, CpuItem.text, CpuItem.lastText]
    · rw [hvalue]
      rfl
  · rename_i tail hendp
    split_ifs at h with hend' hlt
    obtain ⟨last, htail, hdigit'⟩ := CString.exists_numeral hend'
    have hvalue' : (CString.strtol tail).value = last.long := by
      rw [htail, CString.strtol_numeral last hdigit', Numeral.saturate_value]
    rw [hvalue, hvalue'] at hlt
    have hle : first.long ≤ last.long := not_lt.1 hlt
    split at h
    · rename_i hendp'
      cases h
      refine ⟨⟨⟨first, some last, hle⟩, none, by simp, by simp⟩, ?_, fun _ => rfl, ?_⟩
      · rw [hs, hendp, htail, hendp']
        simp [CpuEntry.text, CpuItem.text, CpuItem.lastText]
      · rw [hvalue, hvalue']
        rfl
    · rename_i c tail' hendp'
      cases h
      have hc : c.isDigit = false :=
        hdigit' c (by rw [hendp', List.head?_cons, Option.mem_some_iff])
      have htail' : tail = last.text ++ c :: rest := htail.trans (by rw [hendp'])
      refine ⟨⟨⟨first, some last, hle⟩, some c, by simp, ?_⟩, ?_, by simp, ?_⟩
      · rintro d hd
        rwa [← Option.mem_some_iff.1 hd]
      · rw [hs, hendp, htail']
        simp [CpuEntry.text, CpuItem.text, CpuItem.lastText]
      · rw [hvalue, hvalue']
        rfl
  · cases h

/-- **The parser.** It takes one entry. -/
theorem parseCpulist_eq_some_iff {s rest : CString} {lo hi : ℤ} :
    parseCpulist s = some (lo, hi, rest) ↔
      ∃ entry : CpuEntry, s = entry.text ++ rest ∧ (entry.sep = none → rest = []) ∧
        entry.item.bounds = (lo, hi) := by
  refine ⟨exists_entry, ?_⟩
  rintro ⟨entry, rfl, hrest, hbounds⟩
  rw [parseCpulist_entry entry hrest, hbounds]

/-! ### The loop -/

/-- Where `while ((list = parse_cpulist(list, &from, &to)))` stops: the last value of `list` that is
not `NULL`, or the start of the list when there is none. -/
def cpulistRest (cpulist : CString) : CString :=
  match _h : parseCpulist cpulist with
  | none => cpulist
  | some (_, _, rest) => cpulistRest rest
termination_by cpulist.length
decreasing_by exact length_of_parseCpulist _h

/-- The loop reads the list to its terminating NUL. -/
def ReadToEnd (cpulist : CString) : Prop := cpulist ≠ [] ∧ cpulistRest cpulist = []

theorem cpulistRest_of_none {s : CString} (h : parseCpulist s = none) : cpulistRest s = s := by
  rw [cpulistRest]
  split
  · rfl
  · rename_i heq
    rw [h] at heq
    cases heq

theorem cpulistRest_of_some {s rest : CString} {lo hi : ℤ}
    (h : parseCpulist s = some (lo, hi, rest)) : cpulistRest s = cpulistRest rest := by
  rw [cpulistRest]
  split
  · rename_i heq
    rw [h] at heq
    cases heq
  · rename_i heq
    rw [h] at heq
    cases heq
    rfl

/-- The characters of some entries. -/
def entriesText (entries : List CpuEntry) : CString := entries.flatMap CpuEntry.text

theorem CpuEntry.text_ne_nil (entry : CpuEntry) : entry.text ≠ [] := by
  intro h
  simp only [CpuEntry.text, CpuItem.text, List.append_eq_nil_iff] at h
  exact entry.item.first.text_append_ne [] (by rw [h.1.1]; rfl)

theorem CpuEntry.Separated.rest {entry : CpuEntry} {entries : List CpuEntry}
    (h : CpuEntry.Separated (entry :: entries)) (hsep : entry.sep = none) :
    entriesText entries = [] := by
  cases entries with
  | nil => rfl
  | cons next entries => exact absurd hsep (List.isChain_cons_cons.1 h).1

theorem cpulistRest_entriesText : ∀ {entries : List CpuEntry}, CpuEntry.Separated entries →
    cpulistRest (entriesText entries) = [] ∧
      cpulistItems (entriesText entries) = entries.map fun entry => entry.item.bounds
  | [], _ => ⟨cpulistRest_of_none rfl, rfl⟩
  | entry :: entries, h => by
    have hparse := parseCpulist_entry entry h.rest
    obtain ⟨hend, hitems⟩ := cpulistRest_entriesText h.tail
    rw [entriesText, List.flatMap_cons, ← entriesText]
    refine ⟨(cpulistRest_of_some hparse).trans hend, ?_⟩
    rw [cpulistItems_eq, hparse]
    exact congrArg (entry.item.bounds :: ·) hitems

/-- What the loop reads to the end are entries. -/
theorem exists_entries {s : CString} (hne : s ≠ []) (hend : cpulistRest s = []) :
    ∃ entries, entries ≠ [] ∧ CpuEntry.Separated entries ∧ s = entriesText entries := by
  induction hlength : s.length using Nat.strong_induction_on generalizing s with
  | _ length ih =>
  cases hparse : parseCpulist s with
  | none =>
    rw [cpulistRest_of_none hparse] at hend
    exact absurd hend hne
  | some parsed =>
    obtain ⟨lo, hi, rest⟩ := parsed
    obtain ⟨entry, hs, hsep, -⟩ := exists_entry hparse
    rw [cpulistRest_of_some hparse] at hend
    by_cases hrest : rest = []
    · refine ⟨[entry], List.cons_ne_nil _ _, List.isChain_singleton entry, ?_⟩
      rw [hs, hrest, entriesText, List.flatMap_singleton, List.append_nil]
    · obtain ⟨entries, -, hseparated, htext⟩ :=
        ih rest.length (hlength ▸ length_of_parseCpulist hparse) hrest hend rfl
      refine ⟨entry :: entries, List.cons_ne_nil _ _, ?_, ?_⟩
      · exact hseparated.cons fun _ _ hnone => hrest (hsep hnone)
      · rw [hs, htext]
        rfl

/-- **The loop.** What it reads to the end are the texts of entries. -/
theorem readToEnd_iff {s : CString} :
    ReadToEnd s ↔ ∃ entries, entries ≠ [] ∧ CpuEntry.Separated entries ∧
      s = entriesText entries := by
  constructor
  · rintro ⟨hne, hend⟩
    exact exists_entries hne hend
  · rintro ⟨entries, hne, hseparated, rfl⟩
    refine ⟨fun hnil => ?_, (cpulistRest_entriesText hseparated).1⟩
    obtain ⟨entry, entries, rfl⟩ := List.exists_cons_of_ne_nil hne
    exact entry.text_ne_nil (List.append_eq_nil_iff.1 hnil).1

theorem entriesText_injective : ∀ {entries entries' : List CpuEntry},
    CpuEntry.Separated entries → CpuEntry.Separated entries' →
    entriesText entries = entriesText entries' → entries = entries'
  | [], [], _, _, _ => rfl
  | [], entry :: _, _, _, h => absurd (List.append_eq_nil_iff.1 h.symm).1 entry.text_ne_nil
  | entry :: _, [], _, _, h => absurd (List.append_eq_nil_iff.1 h).1 entry.text_ne_nil
  | entry :: entries, entry' :: entries', hsep, hsep', h => by
    rw [entriesText, entriesText, List.flatMap_cons, List.flatMap_cons] at h
    obtain ⟨rfl, hrest⟩ := CpuEntry.text_append_inj hsep.rest hsep'.rest h
    exact congrArg (entry :: ·) (entriesText_injective hsep.tail hsep'.tail hrest)

/-! ### The format -/

/-- The entries of the items of a list in the documented format. -/
def formatEntries : List CpuItem → List CpuEntry
  | [] => []
  | [item] => [⟨item, none, fun _ => nofun, nofun⟩]
  | item :: next :: items =>
    ⟨item, some ',', fun _ _ hc => (Option.mem_some_iff.1 hc).symm,
      fun _ hc => Option.mem_some_iff.1 hc ▸ rfl⟩ :: formatEntries (next :: items)

/-- The entries of a text follow the documented format: each is an item with a comma after it, and
the last one has no comma. -/
structure FormatOf (entries : List CpuEntry) : Prop where
  documented : ∀ entry ∈ entries, entry.Documented
  last : ∀ entry ∈ entries.getLast?, entry.sep = none

theorem entriesText_formatEntries : ∀ items : List CpuItem,
    entriesText (formatEntries items) = List.intercalate [','] (items.map CpuItem.text)
  | [] => rfl
  | [item] => by simp [formatEntries, entriesText, CpuEntry.text]
  | item :: next :: items => by
    have ih := entriesText_formatEntries (next :: items)
    rw [entriesText] at ih ⊢
    rw [formatEntries, List.flatMap_cons, ih]
    simp only [List.map_cons, List.intercalate_cons_cons, CpuEntry.text]
    rfl

theorem map_item_formatEntries : ∀ items : List CpuItem,
    (formatEntries items).map CpuEntry.item = items
  | [] => rfl
  | [_] => rfl
  | item :: next :: items => by
    rw [formatEntries, List.map_cons, map_item_formatEntries (next :: items)]

theorem separated_formatEntries : ∀ items : List CpuItem,
    CpuEntry.Separated (formatEntries items)
  | [] => List.isChain_nil
  | [_] => List.isChain_singleton _
  | item :: next :: items =>
    (separated_formatEntries (next :: items)).cons fun _ _ => by simp

/-- Items of digits make entries that follow the format. -/
theorem formatOf_formatEntries : ∀ {items : List CpuItem}, (∀ item ∈ items, item.Plain) →
    FormatOf (formatEntries items)
  | [], _ => ⟨nofun, nofun⟩
  | [item], h => by
    have hitem : item.Plain := h item List.mem_cons_self
    refine ⟨fun entry hentry => ?_, fun entry hentry => ?_⟩
    · obtain rfl := List.mem_singleton.1 hentry
      exact ⟨hitem, nofun⟩
    · obtain rfl := Option.mem_some_iff.1 hentry
      rfl
  | item :: next :: items, h => by
    obtain ⟨hitem, hitems⟩ := List.forall_mem_cons.1 h
    have ih := formatOf_formatEntries hitems
    refine ⟨List.forall_mem_cons.2 ⟨⟨hitem, ?_⟩, ih.documented⟩, fun entry hentry => ?_⟩
    · exact fun c hc => (Option.mem_some_iff.1 hc).symm
    · rw [formatEntries, List.getLast?_cons_of_ne_nil] at hentry
      · exact ih.last entry hentry
      · intro hnil
        have hmap := map_item_formatEntries (next :: items)
        rw [hnil] at hmap
        cases hmap

/-- Entries that follow the format are those of their items. -/
theorem FormatOf.eq_formatEntries : ∀ {entries : List CpuEntry}, FormatOf entries →
    CpuEntry.Separated entries → entries = formatEntries (entries.map CpuEntry.item)
  | [], _, _ => rfl
  | [⟨item, sep, hcomma, hdigit⟩], h, _ => by
    obtain rfl : sep = none := h.last _ rfl
    rfl
  | ⟨item, sep, hcomma, hdigit⟩ :: next :: entries, h, hsep => by
    obtain ⟨hentry, hentries⟩ := List.forall_mem_cons.1 h.documented
    have ih := FormatOf.eq_formatEntries ⟨hentries, fun entry hentry => h.last entry hentry⟩
      hsep.tail
    obtain ⟨c, rfl⟩ := Option.ne_none_iff_exists'.1 (List.isChain_cons_cons.1 hsep).1
    obtain rfl : c = ',' := hentry.comma c rfl
    exact congrArg _ ih

/-- The documented format, by the entries of a text. -/
theorem exists_isCpulist_iff {s : CString} :
    (∃ items, IsCpulist s items) ↔ ∃ entries, entries ≠ [] ∧ CpuEntry.Separated entries ∧
      s = entriesText entries ∧ FormatOf entries := by
  constructor
  · rintro ⟨items, hne, hplain, rfl⟩
    refine ⟨formatEntries items, fun hnil => hne ?_, separated_formatEntries items,
      (entriesText_formatEntries items).symm, formatOf_formatEntries hplain⟩
    rw [← map_item_formatEntries items, hnil, List.map_nil]
  · rintro ⟨entries, hne, hseparated, rfl, hformat⟩
    refine ⟨entries.map CpuEntry.item, fun hnil => hne (List.map_eq_nil_iff.1 hnil), ?_, ?_⟩
    · intro item hitem
      obtain ⟨entry, hentry, rfl⟩ := List.mem_map.1 hitem
      exact (hformat.documented entry hentry).plain
    · conv_lhs => rw [hformat.eq_formatEntries hseparated]
      exact entriesText_formatEntries _

/-- A list in the format is read to its end, and yields its items. -/
theorem IsCpulist.readToEnd {s : CString} {items : List CpuItem} (h : IsCpulist s items) :
    ReadToEnd s ∧ cpulistItems s = items.map CpuItem.bounds := by
  have hseparated := separated_formatEntries items
  have htext : s = entriesText (formatEntries items) :=
    h.text.trans (entriesText_formatEntries items).symm
  refine ⟨readToEnd_iff.2 ⟨formatEntries items, fun hnil => h.ne_nil ?_, hseparated, htext⟩, ?_⟩
  · rw [← map_item_formatEntries items, hnil, List.map_nil]
  · rw [htext, (cpulistRest_entriesText hseparated).2]
    conv_rhs => rw [← map_item_formatEntries items, List.map_map]
    rfl

/-- A list in the format has digits, dashes and commas only. -/
theorem IsCpulist.mem_text {s : CString} {items : List CpuItem} (h : IsCpulist s items) :
    ∀ c ∈ s, c.isDigit = true ∨ c = '-' ∨ c = ',' := by
  intro c hc
  have hnumeral : ∀ n : Numeral, n.Plain → c ∈ n.text → c.isDigit = true := by
    intro n hn hmem
    rw [hn.text_eq] at hmem
    exact n.isDigit c hmem
  rw [h.text, ← entriesText_formatEntries, entriesText, List.mem_flatMap] at hc
  obtain ⟨entry, hentry, hmem⟩ := hc
  have hdocumented := (formatOf_formatEntries h.plain).documented entry hentry
  simp only [CpuEntry.text, CpuItem.text, CpuItem.lastText, List.mem_append,
    Option.mem_toList] at hmem
  rcases hmem with (hfirst | hlast) | hsep
  · exact Or.inl (hnumeral _ hdocumented.plain.first hfirst)
  · split at hlast
    · cases hlast
    · rename_i last heq
      rcases List.mem_cons.1 hlast with hdash | hlast
      · exact Or.inr (Or.inl hdash)
      · exact Or.inl (hnumeral last (hdocumented.plain.last last heq) hlast)
  · exact Or.inr (Or.inr (hdocumented.comma c hsep))

/-- A text is parsed as the format says: the loop ends, it reads the text to its end exactly when it
is a list in the format, and it yields the items in order. -/
structure ParsedAsDocumented (s : CString) : Prop where
  terminates : ¬∃ list : ℕ → CString, list 0 = s ∧
    ∀ n, ∃ lo hi, parseCpulist (list n) = some (lo, hi, list (n + 1))
  readToEnd_iff : ReadToEnd s ↔ ∃ items, IsCpulist s items
  items : ∀ items, IsCpulist s items → cpulistItems s = items.map CpuItem.bounds

/-- The loop ends: every round consumes a character. -/
theorem not_exists_forever (s : CString) : ¬∃ list : ℕ → CString, list 0 = s ∧
    ∀ n, ∃ lo hi, parseCpulist (list n) = some (lo, hi, list (n + 1)) := by
  rintro ⟨list, -, hlist⟩
  have hlength : ∀ n, (list n).length + n ≤ (list 0).length := by
    intro n
    induction n with
    | zero => exact le_rfl
    | succ n ih =>
      obtain ⟨lo, hi, hparse⟩ := hlist n
      have hlt := length_of_parseCpulist hparse
      omega
  have hlast := hlength ((list 0).length + 1)
  omega

/-- **The format.** A text is parsed as the format says exactly when it is not read to its end in
spite of a blank or a sign before a number, a number that `long` cannot represent, another character
than a comma after a range, or a separator after the last item. -/
theorem parsedAsDocumented_iff (s : CString) :
    ParsedAsDocumented s ↔ ∀ entries, entries ≠ [] → CpuEntry.Separated entries →
      s = entriesText entries → FormatOf entries := by
  constructor
  · intro h entries hne hseparated htext
    have hread : ReadToEnd s := readToEnd_iff.2 ⟨entries, hne, hseparated, htext⟩
    obtain ⟨entries', -, hseparated', htext', hformat⟩ :=
      exists_isCpulist_iff.1 (h.readToEnd_iff.1 hread)
    rwa [entriesText_injective hseparated hseparated' (htext.symm.trans htext')]
  · intro h
    refine ⟨not_exists_forever s, ⟨fun hread => ?_, ?_⟩, fun items hitems => hitems.readToEnd.2⟩
    · obtain ⟨entries, hne, hseparated, htext⟩ := readToEnd_iff.1 hread
      exact exists_isCpulist_iff.2
        ⟨entries, hne, hseparated, htext, h entries hne hseparated htext⟩
    · rintro ⟨items, hitems⟩
      exact hitems.readToEnd.1

/-- A semicolon after a range is skipped like a comma. -/
theorem not_parsedAsDocumented_of_semicolon :
    ¬ParsedAsDocumented "0-3;5".toList ∧ cpulistItems "0-3;5".toList = [(0, 3), (5, 5)] := by
  refine ⟨fun h => ?_, by decide⟩
  have hread : ReadToEnd "0-3;5".toList := by
    refine ⟨by decide, ?_⟩
    rw [cpulistRest_of_some (by decide : parseCpulist "0-3;5".toList = some (0, 3, ['5'])),
      cpulistRest_of_some (by decide : parseCpulist ['5'] = some (5, 5, [])),
      cpulistRest_of_none rfl]
  obtain ⟨items, hitems⟩ := h.readToEnd_iff.1 hread
  exact absurd (hitems.mem_text ';' (by decide)) (by decide)

end GameMode
