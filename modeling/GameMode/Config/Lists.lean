import GameMode.Config.Meaning
import GameMode.Daemon.Registry

/-!
# The lists of the configuration

A list option is an array of strings in memory. A value is copied into the first row whose first
byte is a NUL, and the row is cleared again when the value has filled it to the last byte, so that
there is no room for its NUL. The readers of a list go from row to row up to the first that is
empty.

Here the rows are bytes, and the values that the loader delivers are merged into them.

## Main definitions

* `ListMemory`, `strncpy`, `appendValueBytes`: a list in memory.
* `listedValues`, `keptValues`: the values of an option, and those that are kept.
* `MergesFaithfully`: what a list holds after a load, and what its readers make of it.

## Main results

* `appendValueBytes_strings`: the rows hold what `appendValueToList` says.
* `appendValueToList_slots`: appending keeps the values in front of the empty slots.
* `mergesFaithfully`: the values are merged.

Source: `daemon/gamemode-config.c`; `daemon/gamemode-context.c`, `game_mode_execute_scripts`.
-/

namespace GameMode

open CString (nul)

/-! ### Memory -/

/-- The string in a row of bytes. -/
def rowString (row : CString) : CString := row.takeWhile (· ≠ nul)

/-- `strncpy`: the first bytes of a row are overwritten, with NULs after the string. -/
def strncpy (value : CString) (n : ℕ) (row : CString) : CString :=
  value.take n ++ List.replicate (n - value.length) nul ++ row.drop n

/-- A row that `memset` has cleared. -/
def clearedRow : CString := List.replicate configValueMax nul

theorem length_strncpy (value : CString) {row : CString} (h : row.length = configValueMax) :
    (strncpy value configValueMax row).length = configValueMax := by
  simp only [strncpy, List.length_append, List.length_take, List.length_replicate,
    List.length_drop]
  omega

/-- `char[CONFIG_LIST_MAX][CONFIG_VALUE_MAX]`. -/
structure ListMemory where
  /-- The rows. -/
  rows : List CString
  length_rows : rows.length = configListMax
  length_row : ∀ row ∈ rows, row.length = configValueMax

namespace ListMemory

/-- The memory that `memset` has cleared. -/
def cleared : ListMemory where
  rows := List.replicate configListMax clearedRow
  length_rows := List.length_replicate
  length_row _ h := (List.eq_of_mem_replicate h) ▸ List.length_replicate

/-- The memory with one row overwritten. -/
def set (list : ListMemory) (i : ℕ) (row : CString) (h : row.length = configValueMax) :
    ListMemory where
  rows := list.rows.set i row
  length_rows := by rw [List.length_set, list.length_rows]
  length_row row' hrow' := by
    rcases List.mem_or_eq_of_mem_set hrow' with hmem | rfl
    · exact list.length_row row' hmem
    · exact h

/-- The strings in the rows. -/
def strings (list : ListMemory) : StringList :=
  ⟨list.rows.map rowString, by rw [List.length_map, list.length_rows]⟩

/-- Every row has a NUL. -/
def Terminated (list : ListMemory) : Prop := ∀ row ∈ list.rows, nul ∈ row

end ListMemory

/-- The loop of `append_value_to_list`, from one row on: the number of rows that are taken. -/
def takenRows : List CString → ℕ
  | [] => 0
  | row :: rows => if row.head? = some nul then 0 else takenRows rows + 1

/-- `append_value_to_list` on memory. -/
def appendValueBytes (value : CString) (list : ListMemory) : Bool × ListMemory :=
  if h : takenRows list.rows < list.rows.length then
    let i := takenRows list.rows
    let row := strncpy value configValueMax (list.rows.get ⟨i, h⟩)
    if row[configValueMax - 1]? ≠ some nul then
      (false, list.set i clearedRow List.length_replicate)
    else (true, list.set i row (length_strncpy value (list.length_row _ (List.get_mem _ _))))
  else (false, list)

/-- The loop of `config_string_list_contains` on memory. -/
def containsRows (needle : CString) : List CString → Bool
  | [] => false
  | row :: rows =>
    if row.head? = some nul then false
    else if rowString row <:+: needle then true else containsRows needle rows

/-- The loop of `game_mode_execute_scripts` on memory. -/
def executeRows : List CString → List Event
  | [] => []
  | row :: rows => if row.head? = some nul then [] else .script (rowString row) :: executeRows rows

/-! ### Rows and strings -/

theorem rowString_eq_nil_iff {row : CString} (h : row.length = configValueMax) :
    rowString row = [] ↔ row.head? = some nul := by
  cases row with
  | nil => simp [configValueMax] at h
  | cons c row => by_cases hc : c = nul <;> simp [rowString, hc]

theorem takenRows_eq {rows : List CString} (h : ∀ row ∈ rows, row.length = configValueMax) :
    takenRows rows = (rows.map rowString).findIdx (· = []) := by
  induction rows with
  | nil => rfl
  | cons row rows ih =>
    obtain ⟨hrow, hrows⟩ := List.forall_mem_cons.1 h
    rw [takenRows, List.map_cons, List.findIdx_cons, ih hrows]
    by_cases hempty : rowString row = []
    · rw [if_pos ((rowString_eq_nil_iff hrow).1 hempty)]
      simp [hempty]
    · rw [if_neg fun hhead => hempty ((rowString_eq_nil_iff hrow).2 hhead)]
      simp [hempty]

theorem containsRows_eq (needle : CString) {rows : List CString}
    (h : ∀ row ∈ rows, row.length = configValueMax) :
    containsRows needle rows = containsFrom needle (rows.map rowString) := by
  induction rows with
  | nil => rfl
  | cons row rows ih =>
    obtain ⟨hrow, hrows⟩ := List.forall_mem_cons.1 h
    rw [containsRows, List.map_cons, containsFrom, ih hrows]
    simp only [rowString_eq_nil_iff hrow]

theorem executeRows_eq {rows : List CString} (h : ∀ row ∈ rows, row.length = configValueMax) :
    executeRows rows = ((rows.map rowString).takeWhile (· ≠ [])).map Event.script := by
  induction rows with
  | nil => rfl
  | cons row rows ih =>
    obtain ⟨hrow, hrows⟩ := List.forall_mem_cons.1 h
    rw [executeRows, List.map_cons, List.takeWhile_cons, ih hrows]
    by_cases hempty : rowString row = []
    · rw [if_pos ((rowString_eq_nil_iff hrow).1 hempty)]
      simp [hempty]
    · rw [if_neg fun hhead => hempty ((rowString_eq_nil_iff hrow).2 hhead)]
      simp [hempty]

section Copy

variable {value : CString} (hvalue : nul ∉ value)
include hvalue

/-- A value with room for its NUL is copied. -/
theorem strncpy_of_lt (hlt : value.length < configValueMax) {row : CString}
    (hrow : row.length = configValueMax) :
    rowString (strncpy value configValueMax row) = value ∧
      nul ∈ strncpy value configValueMax row ∧
      (strncpy value configValueMax row)[configValueMax - 1]? = some nul := by
  have heq : strncpy value configValueMax row =
      value ++ List.replicate (configValueMax - value.length) nul := by
    rw [strncpy, List.take_of_length_le hlt.le, List.drop_eq_nil_of_le hrow.le, List.append_nil]
  have hne : configValueMax - value.length ≠ 0 := by omega
  refine ⟨?_, ?_, ?_⟩
  · have hall : ∀ c ∈ value, decide (c ≠ nul) = true := fun c hc =>
      decide_eq_true fun h => hvalue (h ▸ hc)
    rw [heq, rowString, List.takeWhile_append_of_pos hall, List.takeWhile_replicate]
    simp
  · rw [heq]
    exact List.mem_append_right value (List.mem_replicate.2 ⟨hne, rfl⟩)
  · rw [heq, List.getElem?_append_right (by omega), List.getElem?_replicate, if_pos (by omega)]

theorem strncpy_of_le (hle : configValueMax ≤ value.length) {row : CString}
    (hrow : row.length = configValueMax) :
    (strncpy value configValueMax row)[configValueMax - 1]? ≠ some nul := by
  have heq : strncpy value configValueMax row = value.take configValueMax := by
    rw [strncpy, Nat.sub_eq_zero_of_le hle, List.replicate_zero, List.append_nil,
      List.drop_eq_nil_of_le hrow.le, List.append_nil]
  rw [heq]
  intro h
  exact hvalue (List.mem_of_mem_take (List.mem_of_getElem? h))

end Copy

theorem rowString_clearedRow : rowString clearedRow = [] := by
  rw [rowString, clearedRow, List.takeWhile_replicate]
  simp

theorem nul_mem_clearedRow : nul ∈ clearedRow := List.mem_replicate.2 ⟨by decide, rfl⟩

/-- **Appending to memory.** The rows hold what `appendValueToList` says, and keep their NULs. -/
theorem appendValueBytes_strings {value : CString} (hvalue : nul ∉ value) (list : ListMemory) :
    (appendValueBytes value list).1 = (appendValueToList value list.strings).1 ∧
      (appendValueBytes value list).2.strings = (appendValueToList value list.strings).2 ∧
      (list.Terminated → (appendValueBytes value list).2.Terminated) := by
  have htaken : takenRows list.rows = list.strings.slots.findIdx (· = []) :=
    takenRows_eq list.length_row
  have hset : ∀ i row (h : row.length = configValueMax),
      (list.set i row h).strings = list.strings.set i (rowString row) := by
    intro i row h
    simp only [ListMemory.strings, ListMemory.set, StringList.set, List.map_set]
  have hterminated : ∀ i row (h : row.length = configValueMax), nul ∈ row → list.Terminated →
      (list.set i row h).Terminated := by
    intro i row h hrow hlist row' hrow'
    rcases List.mem_or_eq_of_mem_set hrow' with hmem | rfl
    · exact hlist row' hmem
    · exact hrow
  rw [appendValueBytes, appendValueToList]
  simp only [← htaken, ← list.length_rows]
  by_cases hroom : takenRows list.rows < list.rows.length
  · have hrow := list.length_row _ (List.get_mem list.rows ⟨_, hroom⟩)
    rw [dif_pos hroom, if_pos hroom]
    by_cases hlt : value.length < configValueMax
    · obtain ⟨hstring, hnul, hlast⟩ := strncpy_of_lt hvalue hlt hrow
      rw [if_neg (not_not_intro hlast), if_pos hlt]
      exact ⟨rfl, (hset _ _ (length_strncpy value hrow)).trans (congrArg _ hstring),
        hterminated _ _ (length_strncpy value hrow) hnul⟩
    · rw [if_pos (strncpy_of_le hvalue (not_lt.1 hlt) hrow), if_neg hlt]
      exact ⟨rfl, (hset _ _ List.length_replicate).trans (congrArg _ rowString_clearedRow),
        hterminated _ _ List.length_replicate nul_mem_clearedRow⟩
  · rw [dif_neg hroom, if_neg hroom]
    exact ⟨rfl, rfl, id⟩

/-! ### Merging -/

/-- A value that a list can hold. -/
def Storable (value : CString) : Prop := value ≠ [] ∧ value.length ≤ configValueMax - 1

instance : DecidablePred Storable := fun value =>
  inferInstanceAs (Decidable (value ≠ [] ∧ value.length ≤ configValueMax - 1))

/-- The values that a list keeps: the first ones that it can hold. -/
def keptValues (values : List CString) : List CString :=
  (values.filter (Storable ·)).take configListMax

/-- The values in front of the empty slots. -/
def packed (values : List CString) : List CString :=
  values ++ List.replicate (configListMax - values.length) []

theorem keptValues_concat (values : List CString) (value : CString) :
    keptValues (values ++ [value]) =
      if Storable value ∧ (keptValues values).length < configListMax then
        keptValues values ++ [value]
      else keptValues values := by
  rw [keptValues, List.filter_append, keptValues, List.length_take]
  by_cases hvalue : Storable value
  · rw [List.filter_singleton, decide_eq_true hvalue, Bool.cond_true]
    by_cases hroom : (values.filter (Storable ·)).length < configListMax
    · rw [if_pos ⟨hvalue, (min_le_right _ _).trans_lt hroom⟩, List.take_of_length_le hroom.le,
        List.take_of_length_le]
      rw [List.length_append, List.length_singleton]
      omega
    · rw [if_neg fun h => hroom (by omega), List.take_append_of_le_length (not_lt.1 hroom)]
  · rw [List.filter_singleton, decide_eq_false hvalue, Bool.cond_false, List.append_nil,
      if_neg fun h => hvalue h.1]

theorem ne_nil_of_mem_keptValues {values : List CString} {value : CString}
    (h : value ∈ keptValues values) : value ≠ [] := by
  have hmem := List.mem_of_mem_take h
  rw [List.mem_filter, decide_eq_true_eq] at hmem
  exact hmem.2.1

theorem findIdx_packed {values : List CString} (h : ∀ value ∈ values, value ≠ []) :
    (packed values).findIdx (· = []) = values.length := by
  have hvalues : values.findIdx (· = []) = values.length :=
    List.findIdx_eq_length_of_false fun value hvalue => decide_eq_false (h value hvalue)
  have hempty : ∀ n, (List.replicate n ([] : CString)).findIdx (· = []) = 0 := by
    intro n
    cases n with
    | zero => rfl
    | succ n => rw [List.replicate_succ, List.findIdx_cons]; rfl
  rw [packed, List.findIdx_append, hvalues, if_neg (lt_irrefl _), hempty, Nat.zero_add]

theorem set_packed {values : List CString} (hroom : values.length < configListMax)
    (value : CString) :
    (packed values).set values.length value =
      values ++ value :: List.replicate (configListMax - (values.length + 1)) [] := by
  obtain ⟨n, hn⟩ : ∃ n, configListMax - values.length = n + 1 :=
    Nat.exists_eq_add_one.2 (Nat.sub_pos_of_lt hroom)
  have hn' : configListMax - (values.length + 1) = n := by omega
  rw [packed, List.set_append_right _ _ le_rfl, Nat.sub_self, hn, hn', List.replicate_succ,
    List.set_cons_zero]

theorem slots_set (list : StringList) (i : ℕ) (value : CString) :
    (list.set i value).slots = list.slots.set i value := rfl

/-- **Appending.** The values in front of the empty slots stay there, and a value that the list can
hold comes after them while there is room. -/
theorem appendValueToList_slots {values : List CString} {list : StringList}
    (h : list.slots = packed (keptValues values)) (value : CString) :
    (appendValueToList value list).2.slots = packed (keptValues (values ++ [value])) := by
  have hne : ∀ value ∈ keptValues values, value ≠ [] := fun _ => ne_nil_of_mem_keptValues
  rw [keptValues_concat, appendValueToList, h, findIdx_packed hne]
  by_cases hroom : (keptValues values).length < configListMax
  · have hset : ∀ value, (list.set (keptValues values).length value).slots = keptValues values ++
        value :: List.replicate (configListMax - ((keptValues values).length + 1)) [] := by
      intro value
      rw [slots_set, h, set_packed hroom]
    -- an empty slot that is overwritten with nothing stays empty
    have hnil : (list.set (keptValues values).length []).slots = packed (keptValues values) := by
      rw [hset, packed, ← List.replicate_succ]
      congr 2
      omega
    simp only [if_pos hroom]
    by_cases hlt : value.length < configValueMax
    · rw [if_pos hlt]
      by_cases hvalue : value = []
      · rw [hvalue, if_neg fun h => h.1.1 rfl]
        exact hnil
      · rw [if_pos ⟨⟨hvalue, Nat.le_sub_one_of_lt hlt⟩, hroom⟩, hset, packed, List.length_append,
          List.append_assoc, List.length_singleton, List.singleton_append]
    · have hnot : ¬Storable value := fun h => hlt (Nat.lt_of_le_sub_one (by decide) h.2)
      rw [if_neg hlt, if_neg fun h => hnot h.1]
      exact hnil
  · rw [if_neg hroom, if_neg fun h => hroom h.2]
    exact h

/-! ### Loading -/

/-- The section and the name that a list option is configured by. -/
def ListOption.location : ListOption → String × String
  | .whitelist => ("filter", "whitelist")
  | .blacklist => ("filter", "blacklist")
  | .startscripts => ("custom", "start")
  | .endscripts => ("custom", "end")
  | .supervisorWhitelist => ("supervisor", "supervisor_whitelist")
  | .supervisorBlacklist => ("supervisor", "supervisor_blacklist")

/-- The value that a delivery has for a list option. -/
def listedValue (option : ListOption) : Delivery → Option CString
  | .entry _ e => if (e.sectionName, e.name) = option.location then some e.value else none
  | .callError _ => none

/-- The values that are delivered for a list option, in order. -/
def listedValues (option : ListOption) (ds : List Delivery) : List CString :=
  ds.filterMap (listedValue option)

/-- A list option in memory after the deliveries. -/
def listMemory (option : ListOption) (ds : List Delivery) : ListMemory :=
  (listedValues option ds).foldl (fun list value => (appendValueBytes value list).2)
    ListMemory.cleared

variable (strtof : CString → FloatParse)

private def Target.isListedAt (location : String × String) : Target → Bool
  | .scalar _ => true
  | .list option => location == option.location

private theorem isListedAt_of_mem_targets : ∀ entry ∈ targets, entry.2.isListedAt entry.1 := by
  decide

theorem target_eq_list_iff {sectionName name : String} {option : ListOption} :
    target sectionName name = some (.list option) ↔ (sectionName, name) = option.location := by
  constructor
  · intro h
    obtain ⟨l, l', hl, -⟩ := List.lookup_eq_some_iff.1 h
    have hmem : ((sectionName, name), Target.list option) ∈ targets := by
      rw [hl]
      exact List.mem_append_right l List.mem_cons_self
    exact eq_of_beq (isListedAt_of_mem_targets _ hmem)
  · intro h
    rw [target, h]
    cases option <;> rfl

theorem location_fst_ne_gpu (option : ListOption) : option.location.1 ≠ "gpu" := by
  cases option <;> decide

/-- What one delivery does to a list option. -/
theorem deliver_list (self : LoadState) (d : Delivery) (option : ListOption) :
    (deliver strtof self d).2.config.list option =
      match listedValue option d with
      | some value => (appendValueToList value (self.config.list option)).2
      | none => self.config.list option := by
  cases d with
  | callError error => rfl
  | entry isProtected e =>
    rw [deliver, inihHandler, listedValue]
    by_cases hlocation : (e.sectionName, e.name) = option.location
    · have hgpu : e.sectionName ≠ "gpu" := fun h =>
        location_fst_ne_gpu option ((congrArg Prod.fst hlocation).symm.trans h)
      rw [if_neg fun h => hgpu h.1, target_eq_list_iff.2 hlocation, if_pos hlocation]
      exact Function.update_self ..
    · rw [if_neg hlocation]
      split_ifs
      · rfl
      · cases htarget : target e.sectionName e.name with
        | none => rfl
        | some t =>
          cases t with
          | list o =>
            have hne : option ≠ o := by
              rintro rfl
              exact hlocation (target_eq_list_iff.1 htarget)
            exact Function.update_of_ne hne _ _
          | scalar o => exact LoadState.store_list _ _ _ _

theorem list_deliverAll (errno : ℤ) (option : ListOption) (ds : List Delivery) :
    (deliverAll strtof (LoadState.start errno) ds).config.list option =
      (listedValues option ds).foldl (fun list value => (appendValueToList value list).2)
        StringList.cleared := by
  induction ds using List.reverseRecOn with
  | nil => rfl
  | append_singleton ds d ih =>
    rw [deliverAll_append, listedValues, List.filterMap_append, List.foldl_append, ← listedValues,
      ← ih]
    refine (deliver_list strtof _ d option).trans ?_
    rw [List.filterMap_cons, List.filterMap_nil]
    cases listedValue option d <;> rfl

theorem foldl_appendValueToList_slots (values : List CString) :
    (values.foldl (fun list value => (appendValueToList value list).2)
      StringList.cleared).slots = packed (keptValues values) := by
  induction values using List.reverseRecOn with
  | nil => rfl
  | append_singleton values value ih =>
    rw [List.foldl_concat]
    exact appendValueToList_slots ih value

theorem strings_cleared : ListMemory.cleared.strings = StringList.cleared := by
  simp only [ListMemory.strings, ListMemory.cleared, List.map_replicate, rowString_clearedRow]
  rfl

/-- The memory of a list and its strings, and that every string ends. -/
theorem listMemory_strings {values : List CString} (hvalues : ∀ value ∈ values, nul ∉ value) :
    (values.foldl (fun list value => (appendValueBytes value list).2)
        ListMemory.cleared).strings =
      values.foldl (fun list value => (appendValueToList value list).2) StringList.cleared ∧
    (values.foldl (fun list value => (appendValueBytes value list).2)
        ListMemory.cleared).Terminated := by
  induction values using List.reverseRecOn with
  | nil =>
    refine ⟨strings_cleared, fun row hrow => ?_⟩
    rw [List.eq_of_mem_replicate hrow]
    exact nul_mem_clearedRow
  | append_singleton values value ih =>
    rw [List.forall_mem_append] at hvalues
    obtain ⟨hstrings, hterminated⟩ := ih hvalues.1
    rw [List.foldl_concat, List.foldl_concat, ← hstrings]
    have happend := @appendValueBytes_strings value (hvalues.2 value (List.mem_singleton_self _))
    exact ⟨(happend _).2.1, (happend _).2.2 hterminated⟩

/-! ### Readers -/

theorem takeWhile_packed {values : List CString} (h : ∀ value ∈ values, value ≠ []) :
    (packed values).takeWhile (· ≠ []) = values := by
  have hall : ∀ value ∈ values, decide (value ≠ []) = true := fun value hvalue =>
    decide_eq_true (h value hvalue)
  rw [packed, List.takeWhile_append_of_pos hall, List.takeWhile_replicate]
  simp

/-- The values of a list option are merged. The list holds the first values that it can hold, in
order and in front of its empty slots; its rows in memory hold the same strings, each with its NUL;
a search finds a string just when one of these values occurs in it; an empty list admits every
client; and the scripts that are run are these values in order. -/
structure MergesFaithfully (errno : ℤ) (locations : List ConfigLocation) (option : ListOption) :
    Prop where
  slots : ((loadLocations strtof errno locations).config.list option).slots =
    packed (keptValues (listedValues option (deliveries locations)))
  memory : (listMemory option (deliveries locations)).rows.map rowString =
    packed (keptValues (listedValues option (deliveries locations)))
  terminated : (listMemory option (deliveries locations)).Terminated
  contains : ∀ needle, containsRows needle (listMemory option (deliveries locations)).rows =
      configStringListContains needle ((loadLocations strtof errno locations).config.list option) ∧
    (configStringListContains needle
        ((loadLocations strtof errno locations).config.list option) = true ↔
      ∃ value ∈ keptValues (listedValues option (deliveries locations)), value <:+: needle)
  admits : keptValues (listedValues option (deliveries locations)) = [] → ∀ client,
    (loadLocations strtof errno locations).config.whitelisted option client = true ∧
      configStringListContains client
        ((loadLocations strtof errno locations).config.list option) = false
  scripts : executeRows (listMemory option (deliveries locations)).rows =
      executeScripts ((loadLocations strtof errno locations).config.list option) ∧
    executeScripts ((loadLocations strtof errno locations).config.list option) =
      (keptValues (listedValues option (deliveries locations))).map Event.script

/-- **Merging.** The values of a list option, over all files, are merged. -/
theorem mergesFaithfully (errno : ℤ) (locations : List ConfigLocation) (option : ListOption)
    (hvalues : ∀ value ∈ listedValues option (deliveries locations), nul ∉ value) :
    MergesFaithfully strtof errno locations option := by
  have hne : ∀ value ∈ keptValues (listedValues option (deliveries locations)), value ≠ [] :=
    fun _ => ne_nil_of_mem_keptValues
  have hlist := list_deliverAll strtof errno option (deliveries locations)
  rw [← loadLocations_config] at hlist
  obtain ⟨hstrings, hterminated⟩ := listMemory_strings hvalues
  have hslots : ((loadLocations strtof errno locations).config.list option).slots =
      packed (keptValues (listedValues option (deliveries locations))) := by
    rw [hlist]
    exact foldl_appendValueToList_slots _
  have hmemory : (listMemory option (deliveries locations)).strings =
      (loadLocations strtof errno locations).config.list option := hstrings.trans hlist.symm
  have hentries : ((loadLocations strtof errno locations).config.list option).entries =
      keptValues (listedValues option (deliveries locations)) := by
    rw [StringList.entries, hslots, takeWhile_packed hne]
  have hrows := (listMemory option (deliveries locations)).length_row
  have hstringsSlots : (listMemory option (deliveries locations)).rows.map rowString =
      ((loadLocations strtof errno locations).config.list option).slots :=
    congrArg StringList.slots hmemory
  refine ⟨hslots, hstringsSlots.trans hslots, hterminated, fun needle => ⟨?_, ?_⟩,
    fun hnil client => ⟨?_, ?_⟩, ?_, ?_⟩
  · rw [containsRows_eq needle hrows, hstringsSlots]
    rfl
  · rw [configStringListContains_iff, hentries]
  · rw [whitelisted_iff, hentries]
    exact Or.inl hnil
  · rw [← Bool.not_eq_true, configStringListContains_iff, hentries, hnil]
    simp
  · rw [executeRows_eq hrows, hstringsSlots]
    rfl
  · rw [executeScripts, hentries]

/-- Two files with a value each for the whitelist, and an empty and an over-long one between. -/
theorem mergesFaithfully_two :
    MergesFaithfully (fun _ => ⟨.nan, false, false⟩) 0
      (configLocations
        (.ofEntries [⟨"filter", "whitelist", "foo".toList⟩, ⟨"filter", "whitelist", []⟩])
        (.ofEntries [⟨"filter", "whitelist", List.replicate 300 'x'⟩,
          ⟨"filter", "whitelist", "bar".toList⟩]) .absent .absent) .whitelist :=
  mergesFaithfully _ 0 _ .whitelist (by decide)

end GameMode
