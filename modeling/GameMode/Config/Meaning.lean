import GameMode.Config.Load
import GameMode.Library.LastWins

/-!
# The meaning of a configuration

The intended meaning of a list of configuration files is a last-writer merge: every option holds
the value of its last entry that is valid on its own, or its default. The loader departs from it
through `errno`, which the number validators test without clearing it: after a number out of range,
every later number is refused, until a call that fails overwrites `errno`: the next file cannot be
opened, the file cannot be watched, or a message cannot be written.

A load is flattened here into the sequence of its deliveries, which are the entries with the mark of
their file and the calls that fail between them.

## Main definitions

* `Delivery`, `deliveries`, `deliver`: the flattened load.
* `ownValue`: the value that a delivery has for an option on its own.
* `rangeErrorAfter`: whether `ERANGE` is pending after a sequence of deliveries.
* `MeansLastValid`, `AcceptsOnOwnText`: the intended meaning of a load.
* `NumbersUndisturbed`: no valid number is delivered while `ERANGE` is pending.

## Main results

* `deliver_get`, `deliver_accepts`, `deliver_errno`: what one delivery does.
* `meaning_iff`: a load has its intended meaning exactly when `NumbersUndisturbed`.

Source: `daemon/gamemode-config.c`, `get_long_value`, `get_float_value`, `inih_handler` and
`load_config_files`.
-/

namespace GameMode

open LastWins Errno

/-! ### Deliveries -/

/-- One event of a load. -/
inductive Delivery
  | entry (isProtected : Bool) (entry : Entry)
  | callError (error : CallError)
  deriving DecidableEq

/-- The delivery of an event in a file with the given mark. -/
def FileEvent.delivery (isProtected : Bool) : FileEvent → Delivery
  | .entry e => .entry isProtected e
  | .callError error => .callError error

/-- The deliveries of one location. -/
def ConfigLocation.deliveries (location : ConfigLocation) : List Delivery :=
  match location.file with
  | .noPath => []
  | .missing error => [.callError error]
  | .file events => events.map (FileEvent.delivery location.isProtected)

/-- The deliveries of all locations, in order. -/
def deliveries (locations : List ConfigLocation) : List Delivery :=
  locations.flatMap ConfigLocation.deliveries

variable (strtof : CString → FloatParse)

/-- What one delivery does: whether an entry was valid, and the state afterwards. -/
def deliver (self : LoadState) : Delivery → Bool × LoadState
  | .entry isProtected entry =>
    inihHandler strtof entry { self with loadProtected := isProtected }
  | .callError error => (false, self.fail error)

/-- The state after a sequence of deliveries. -/
def deliverAll (self : LoadState) (ds : List Delivery) : LoadState :=
  ds.foldl (fun s d => (deliver strtof s d).2) self

theorem deliverAll_append (self : LoadState) (ds ds' : List Delivery) :
    deliverAll strtof self (ds ++ ds') = deliverAll strtof (deliverAll strtof self ds) ds' :=
  List.foldl_append

/-- Two states that agree on the values and `errno`: the mark of the current file is set again
before every use. -/
def LoadState.Agree (s t : LoadState) : Prop := s.config = t.config ∧ s.errno = t.errno

/-- An event has the effect of its delivery, and keeps the mark. -/
private theorem agree_handle {isProtected : Bool} {s t : LoadState}
    (hs : s.loadProtected = isProtected) (h : s.Agree t) (event : FileEvent) :
    (s.handle strtof event).loadProtected = isProtected ∧
      (s.handle strtof event).Agree (deliver strtof t (event.delivery isProtected)).2 := by
  cases event with
  | entry entry =>
    have hst : { t with loadProtected := isProtected } = s := by
      obtain ⟨hc, he⟩ := h
      cases s
      simp_all
    refine ⟨(inihHandler_loadProtected strtof entry s).trans hs, ?_⟩
    rw [FileEvent.delivery, deliver, hst]
    exact ⟨rfl, rfl⟩
  | callError error => exact ⟨hs, h.1, rfl⟩

private theorem agree_events (isProtected : Bool) :
    (events : List FileEvent) → {s t : LoadState} → s.loadProtected = isProtected → s.Agree t →
      (events.foldl (LoadState.handle strtof) s).Agree
        (deliverAll strtof t (events.map (FileEvent.delivery isProtected)))
  | [], _, _, _, h => h
  | event :: events, s, t, hs, h => by
    obtain ⟨hs', h'⟩ := agree_handle strtof hs h event
    rw [List.map_cons, List.foldl_cons, deliverAll, List.foldl_cons]
    exact agree_events isProtected events hs' h'

private theorem agree_location (location : ConfigLocation) {s t : LoadState} (h : s.Agree t) :
    (loadLocation strtof s location).Agree (deliverAll strtof t location.deliveries) := by
  obtain ⟨isProtected, file⟩ := location
  cases file with
  | noPath => exact h
  | missing error => exact ⟨h.1, rfl⟩
  | file events =>
    exact @agree_events strtof isProtected events { s with loadProtected := isProtected } t rfl h

private theorem agree_locations :
    (locations : List ConfigLocation) → {s t : LoadState} → s.Agree t →
      (locations.foldl (loadLocation strtof) s).Agree (deliverAll strtof t (deliveries locations))
  | [], _, _, h => h
  | location :: locations, s, t, h => by
    rw [List.foldl_cons, deliveries, List.flatMap_cons, deliverAll_append]
    exact agree_locations locations (agree_location strtof location h)

theorem loadLocations_config (errno : ℤ) (locations : List ConfigLocation) :
    (loadLocations strtof errno locations).config =
      (deliverAll strtof (LoadState.start errno) (deliveries locations)).config :=
  (agree_locations strtof locations ⟨rfl, rfl⟩).1

/-! ### One delivery -/

/-- The delivery is an entry for the option. -/
def Delivery.isFor (option : ScalarOption) : Delivery → Bool
  | .entry _ e => e.sectionName = option.sectionName ∧ e.name = option.name
  | .callError _ => false

/-- The value that a delivery has for an option on its own: its entry is for the option, may set
it from the file that it is in, and has a text that is valid for the option. -/
def ownValue (option : ScalarOption) : Delivery → Option option.Value
  | .entry isProtected e =>
    if e.sectionName = option.sectionName ∧ e.name = option.name ∧
        (e.sectionName = "gpu" → isProtected) then
      option.parse strtof e.value
    else none
  | .callError _ => none

/-- The delivery is a number out of range for an option that it may set. -/
def Delivery.overflows : Delivery → Bool
  | .entry isProtected e =>
    match admittedTarget isProtected e with
    | some (.scalar option) => option.overflows strtof e.value
    | _ => false
  | .callError _ => false

/-- How one delivery changes whether `ERANGE` is pending. -/
def rangeErrorStep (pending : Bool) : Delivery → Bool
  | .callError _ => false
  | d => pending || d.overflows strtof

/-- Whether `ERANGE` is pending after a sequence of deliveries. -/
def rangeErrorAfter (errno : ℤ) (ds : List Delivery) : Bool :=
  ds.foldl (rangeErrorStep strtof) (errno == erange)

theorem isFor_of_ownValue_ne_none {option : ScalarOption} {d : Delivery}
    (h : ownValue strtof option d ≠ none) : d.isFor option := by
  cases d with
  | callError error => exact absurd rfl h
  | entry p e =>
    simp only [ownValue] at h
    split_ifs at h with hc
    · simp [Delivery.isFor, hc.1, hc.2.1]
    · exact absurd rfl h

/-- What one delivery does to an option: an own value is stored, unless the option is numeric and
`errno` is `ERANGE`. -/
theorem deliver_get (self : LoadState) (d : Delivery) (option : ScalarOption) :
    (deliver strtof self d).2.config.get option =
      (if option.isNumeric ∧ self.errno = erange then none
        else ownValue strtof option d).getD (self.config.get option) := by
  cases d with
  | callError error =>
    rw [ownValue, ite_self, Option.getD_none]
    rfl
  | entry p e =>
    simp only [deliver, ownValue, ← admittedTarget_eq_scalar_iff]
    by_cases h : ∃ o, admittedTarget p e = some (.scalar o)
    · obtain ⟨o, ho⟩ := h
      rw [inihHandler_of_scalar strtof ho, ho]
      by_cases heq : o = option
      · subst heq
        rw [LoadState.store_get_self, acceptScalar_fst, if_pos rfl]
      · have hne : some (Target.scalar o) ≠ some (.scalar option) := by simpa using heq
        rw [LoadState.store_get_of_ne _ _ _ (Ne.symm heq), if_neg hne, ite_self, Option.getD_none]
    · rw [not_exists] at h
      rw [(inihHandler_of_not_scalar strtof h).1, if_neg (h option), ite_self, Option.getD_none]

/-- An entry for an option is valid when it has an own value, unless the option is numeric and
`errno` is `ERANGE`. -/
theorem deliver_accepts (self : LoadState) {d : Delivery} {option : ScalarOption}
    (h : d.isFor option) :
    (deliver strtof self d).1 =
      (if option.isNumeric ∧ self.errno = erange then none
        else ownValue strtof option d).isSome := by
  cases d with
  | callError error => simp [Delivery.isFor] at h
  | entry p e =>
    simp only [Delivery.isFor, decide_eq_true_eq] at h
    simp only [deliver, ownValue, ← admittedTarget_eq_scalar_iff]
    by_cases ho : admittedTarget p e = some (.scalar option)
    · rw [inihHandler_of_scalar strtof ho, LoadState.store_fst, acceptScalar_fst, if_pos ho]
    · -- the entry is for the option, so only the mark of its file can keep it out
      have hgpu : e.sectionName = "gpu" ∧ ¬p := by
        by_contra hg
        exact ho (by rw [admittedTarget, if_neg hg, target_eq_scalar_iff.2 h])
      rw [inihHandler, if_pos hgpu, if_neg ho, ite_self, Option.isSome_none]

/-- What one delivery does to `errno`, as far as `ERANGE` is concerned. -/
theorem deliver_errno (self : LoadState) (d : Delivery) :
    ((deliver strtof self d).2.errno == erange) =
      rangeErrorStep strtof (self.errno == erange) d := by
  cases d with
  | callError error => exact beq_eq_false_iff_ne.2 error.ne_erange
  | entry p e =>
    simp only [deliver, rangeErrorStep, Delivery.overflows]
    by_cases h : ∃ o, admittedTarget p e = some (.scalar o)
    · obtain ⟨o, ho⟩ := h
      rw [inihHandler_of_scalar strtof ho, LoadState.store_errno, acceptScalar_snd, ho]
      by_cases hov : o.overflows strtof e.value <;> simp [hov]
    · rw [not_exists] at h
      rw [(inihHandler_of_not_scalar strtof h).2]
      split
      · exact absurd ‹_› (h _)
      · rw [Bool.or_false]

theorem deliverAll_errno (errno : ℤ) (ds : List Delivery) :
    ((deliverAll strtof (LoadState.start errno) ds).errno == erange) =
      rangeErrorAfter strtof errno ds := by
  induction ds using List.reverseRecOn with
  | nil => rfl
  | append_singleton ds d ih =>
    rw [deliverAll_append, rangeErrorAfter, List.foldl_concat, ← rangeErrorAfter, ← ih]
    exact deliver_errno strtof _ d

/-! ### What the fields can hold -/

/-- A value that the field of an option can hold. -/
def ScalarOption.CanHold : (option : ScalarOption) → option.Value → Prop
  | .long _, value => CString.longMin ≤ value ∧ value ≤ CString.longMax
  | .string _, value => value.length < configValueMax
  | .x3d _, _ | .igpuPowerThreshold, _ => True

/-- Every field holds a value that it can hold. -/
def Config.Representable (self : Config) : Prop :=
  ∀ option : ScalarOption, option.CanHold (self.get option)

theorem representable_initial : Config.initial.Representable := by
  intro option
  cases option with
  | long o =>
    change CString.longMin ≤ Config.initial.long o ∧ Config.initial.long o ≤ CString.longMax
    cases o <;> decide
  | string o => exact (by decide : ([] : CString).length < configValueMax)
  | x3d o => trivial
  | igpuPowerThreshold => trivial

/-- A text that is valid for an option is a value that its field can hold. -/
theorem ScalarOption.canHold_parse {option : ScalarOption} {text : CString} {value : option.Value}
    (h : option.parse strtof text = some value) : option.CanHold value := by
  cases option with
  | long o =>
    simp only [parse] at h
    split_ifs at h with hvalid
    · rw [← Option.some_inj.1 h]
      exact CString.strtol_value_mem text
  | string o =>
    rw [← Option.some_inj.1 h]
    exact (List.length_take_le _ _).trans_lt (by decide)
  | x3d o => trivial
  | igpuPowerThreshold => trivial

/-- A delivery leaves values that the fields can hold. -/
theorem representable_deliver {self : LoadState} (h : self.config.Representable) (d : Delivery) :
    (deliver strtof self d).2.config.Representable := by
  intro option
  rw [deliver_get]
  split_ifs with hrefused
  · exact h option
  · cases hown : ownValue strtof option d with
    | none => exact h option
    | some value =>
      cases d with
      | callError error => simp [ownValue] at hown
      | entry p e =>
        rw [ownValue] at hown
        split_ifs at hown
        exact option.canHold_parse strtof hown

theorem representable_loadLocations (errno : ℤ) (locations : List ConfigLocation) :
    (loadLocations strtof errno locations).config.Representable := by
  rw [loadLocations_config]
  generalize deliveries locations = ds
  induction ds using List.reverseRecOn with
  | nil => exact representable_initial
  | append_singleton ds d ih =>
    rw [deliverAll_append]
    exact representable_deliver strtof ih d

/-! ### The meaning of a load -/

/-- Every option holds the value of its last entry that is valid on its own, or its default. -/
def MeansLastValid (errno : ℤ) (locations : List ConfigLocation) : Prop :=
  ∀ option, (loadLocations strtof errno locations).config.get option =
    lastValue (ownValue strtof option) (Config.initial.get option) (deliveries locations)

/-- Every entry for an option is accepted or refused on its own text and location. -/
def AcceptsOnOwnText (errno : ℤ) (locations : List ConfigLocation) : Prop :=
  ∀ pre d post, deliveries locations = pre ++ d :: post → ∀ option, d.isFor option →
    (deliver strtof (deliverAll strtof (LoadState.start errno) pre) d).1 =
      (ownValue strtof option d).isSome

/-- No number that is valid on its own is delivered while `ERANGE` is pending. -/
def NumbersUndisturbed (errno : ℤ) (locations : List ConfigLocation) : Prop :=
  ∀ pre d post, deliveries locations = pre ++ d :: post → ∀ option, option.isNumeric →
    (ownValue strtof option d).isSome → rangeErrorAfter strtof errno pre = false

private theorem get_deliverAll (errno : ℤ) (option : ScalarOption) (ds : List Delivery)
    (h : ∀ pre d post, ds = pre ++ d :: post → option.isNumeric →
      (ownValue strtof option d).isSome → rangeErrorAfter strtof errno pre = false) :
    (deliverAll strtof (LoadState.start errno) ds).config.get option =
      lastValue (ownValue strtof option) (Config.initial.get option) ds := by
  induction ds using List.reverseRecOn with
  | nil => rfl
  | append_singleton ds d ih =>
    have hpre := ih fun pre d' post hds => h pre d' (post ++ [d]) (by rw [hds]; simp)
    rw [deliverAll_append, lastValue_concat, ← hpre]
    refine (deliver_get strtof _ d option).trans ?_
    split_ifs with hnum
    · -- the number is refused, so it has no own value
      have hpend : rangeErrorAfter strtof errno ds = true := by
        rw [← deliverAll_errno, hnum.2, beq_self_eq_true]
      cases hv : ownValue strtof option d with
      | none => rfl
      | some v =>
        have := h ds d [] rfl hnum.1 (by rw [hv]; rfl)
        rw [hpend] at this
        cases this
    · rfl

/-- **The meaning of a configuration.** A load gives every option the value of its last valid
entry, and accepts every entry on its own text and location, exactly when no valid number is
delivered while `ERANGE` is pending. -/
theorem meaning_iff (errno : ℤ) (locations : List ConfigLocation) :
    (MeansLastValid strtof errno locations ∧ AcceptsOnOwnText strtof errno locations) ↔
      NumbersUndisturbed strtof errno locations := by
  constructor
  · rintro ⟨-, haccept⟩ pre d post hds option hnum hown
    have hfor : d.isFor option :=
      isFor_of_ownValue_ne_none strtof (Option.isSome_iff_ne_none.1 hown)
    have hd := haccept pre d post hds option hfor
    rw [deliver_accepts strtof _ hfor, hown] at hd
    rw [← deliverAll_errno]
    by_contra hpend
    rw [Bool.not_eq_false, beq_iff_eq] at hpend
    simp [hnum, hpend] at hd
  · intro h
    constructor
    · intro option
      rw [loadLocations_config]
      exact get_deliverAll strtof errno option _ fun pre d post hds => h pre d post hds option
    · intro pre d post hds option hfor
      rw [deliver_accepts strtof _ hfor]
      split_ifs with hnum
      · cases hv : ownValue strtof option d with
        | none => rfl
        | some v =>
          have := h pre d post hds option hnum.1 (by rw [hv]; rfl)
          rw [← deliverAll_errno, hnum.2, beq_self_eq_true] at this
          cases this
      · rfl

/-- A file that could not be watched hides the number out of range in it. -/
example :
    (loadConfigFiles (fun _ => ⟨.nan, false, false⟩) 0
      (.file [.entry ⟨"general", "reaper_freq", "99999999999999999999".toList⟩,
        .callError .noEntry])
      (.ofEntries [⟨"general", "renice", "5".toList⟩]) .absent .absent).get (.long .renice) =
        (5 : ℤ) := by
  decide

/-- A valid `renice` after a `reaper_freq` out of range is lost. -/
theorem not_meansLastValid_after_overflow :
    ¬MeansLastValid (fun _ => ⟨.nan, false, false⟩) 0
      (configLocations
        (.ofEntries [⟨"general", "reaper_freq", "99999999999999999999".toList⟩,
          ⟨"general", "renice", "5".toList⟩])
        .absent .absent .absent) := by
  intro h
  exact absurd (h (.long .renice)) (by decide)

end GameMode
