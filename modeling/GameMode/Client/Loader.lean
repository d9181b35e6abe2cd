import GameMode.Client.Request

/-!
# Loading the client library

A game does not link `libgamemode`: the header opens it when a function is called for the first
time, looks up all functions at once and remembers how that went. Three functions have to be there;
a call of one of the others that is missing fails. The header has an error string of its own, which
is shown instead of that of the library as soon as something was written to it.

The lazily loaded library is compared with one that was there from the start.

## Main definitions

* `Linker`, `RealLibrary`: the dynamic linker, and the library that it finds.
* `Loader`, `loadLibgamemode`, `Loader.call`, `Loader.gamemodeErrorString`: the header.
* `Linked`: a client of a library that is there, or is not, from the start.

## Main results

* `loader_refines`: the header is such a client, and its assertions hold.
* `errorString_eq`: what the error string says after any calls.

Source: `lib/gamemode_client.h`.
-/

namespace GameMode

/-! ### The linker and the library -/

/-- The functions that the header looks up. -/
inductive Symbol
  | requestStart | requestEnd | queryStatus | requestRestart | errorString
  | requestStartFor | requestEndFor | queryStatusFor
  deriving DecidableEq, Repr

/-- The name of a function in the library. -/
def Symbol.name : Symbol → CString
  | requestStart => "real_gamemode_request_start".toList
  | requestEnd => "real_gamemode_request_end".toList
  | queryStatus => "real_gamemode_query_status".toList
  | requestRestart => "real_gamemode_request_restart".toList
  | errorString => "real_gamemode_error_string".toList
  | requestStartFor => "real_gamemode_request_start_for".toList
  | requestEndFor => "real_gamemode_request_end_for".toList
  | queryStatusFor => "real_gamemode_query_status_for".toList

/-- The functions in the order in which they are bound, each with whether it is required. -/
def bindings : List (Symbol × Bool) :=
  [(.requestStart, true), (.requestEnd, true), (.queryStatus, false), (.requestRestart, false),
    (.errorString, true), (.requestStartFor, false), (.requestEndFor, false),
    (.queryStatusFor, false)]

/-- The names under which the library is opened, in order. -/
def libraryNames : List CString := ["libgamemode.so.0".toList, "libgamemode.so".toList]

/-- What `dlsym` finds, and what `dlerror` says then. -/
inductive Lookup
  | found
  | null
  | error (text : CString)
  deriving DecidableEq, Repr

/-- The dynamic linker. -/
structure Linker where
  /-- Whether `dlopen` finds a library. -/
  dlopen : CString → Bool
  /-- `dlerror` after neither name was found. -/
  dlerror : CString
  /-- `dlsym` in a library that was opened. -/
  dlsym : CString → CString → Lookup

/-- A library: `ρ` is what the system does in a call. -/
structure RealLibrary (ρ σ : Type*) where
  /-- The calls. -/
  call : ApiCall → ρ → σ → ℤ × σ
  /-- `real_gamemode_error_string`. -/
  errorString : σ → CString

/-! ### The header -/

/-- The static variables of the header, and the library. -/
structure Loader (σ : Type*) where
  /-- `internal_libgamemode_loaded`. -/
  loaded : ℤ
  /-- `internal_gamemode_client_error_string`. -/
  errorString : CString
  /-- Whether the pointer to a function is set. -/
  functor : Symbol → Bool
  /-- The library. -/
  real : σ

/-- The variables when the program starts. -/
def Loader.start {σ : Type*} (real : σ) : Loader σ := ⟨1, [], fun _ => false, real⟩

/-- `sizeof(internal_gamemode_client_error_string)`. -/
def clientErrorSize : ℕ := 512

variable {ρ σ : Type*} (linker : Linker)

/-- The error of a lookup: the text of `dlerror`, where there is none that of a null pointer. -/
def Lookup.error? : Lookup → Option CString
  | found => none
  | null => some "(null)".toList
  | error text => some text

/-- The error of a required function that is missing. -/
def dlsymError (text : CString) : CString :=
  CString.truncate clientErrorSize ("dlsym failed - ".toList ++ text)

/-- The error of a library that is missing. -/
def dlopenError (text : CString) : CString :=
  CString.truncate clientErrorSize ("dlopen failed - ".toList ++ text)

/-- `internal_bind_libgamemode_symbol`: whether it fails. -/
def bindSymbol (library : CString) (symbol : Symbol) (required : Bool) (s : Loader σ) :
    Bool × Loader σ :=
  match (linker.dlsym library symbol.name).error? with
  | none => (false, { s with functor := Function.update s.functor symbol true })
  | some text =>
    if required then
      (true, { s with errorString := dlsymError text })
    else (false, { s with functor := Function.update s.functor symbol false })

/-- The loop of `internal_load_libgamemode`: whether a function could not be bound. -/
def bindSymbols (library : CString) : List (Symbol × Bool) → Loader σ → Bool × Loader σ
  | [], s => (false, s)
  | (symbol, required) :: rest, s =>
    match bindSymbol linker library symbol required s with
    | (true, s) => (true, s)
    | (false, s) => bindSymbols library rest s

/-- `internal_load_libgamemode`. -/
def loadLibgamemode (s : Loader σ) : ℤ × Loader σ :=
  if s.loaded ≠ 1 then (s.loaded, s)
  else
    match libraryNames.find? linker.dlopen with
    | none => (-1, { s with errorString := dlopenError linker.dlerror, loaded := -1 })
    | some library =>
      match bindSymbols linker library bindings s with
      | (true, s) => (-1, { s with loaded := -1 })
      | (false, s) => (0, { s with loaded := 0 })

/-- The function of a call. -/
def ApiCall.symbol : ApiCall → Symbol
  | requestStart => .requestStart
  | requestEnd => .requestEnd
  | queryStatus => .queryStatus
  | requestRestart => .requestRestart
  | requestStartFor _ => .requestStartFor
  | requestEndFor _ => .requestEndFor
  | queryStatusFor _ => .queryStatusFor

/-- The error of a call whose function is missing. -/
def Symbol.missingText : Symbol → CString
  | queryStatus => "gamemode_query_status missing (older host?)".toList
  | requestRestart => "gamemode_request_restart missing (older host?)".toList
  | requestStartFor => "gamemode_request_start_for missing (older host?)".toList
  | requestEndFor => "gamemode_request_end_for missing (older host?)".toList
  | queryStatusFor => "gamemode_query_status_for missing (older host?)".toList
  -- these are required
  | requestStart | requestEnd | errorString => []

variable (library : RealLibrary ρ σ)

/-- The calls that report every error as `-1`. -/
def ApiCall.Clamps : ApiCall → Bool
  | requestStart | requestEnd => true
  | _ => false

/-- A call of the header, `none` when its assertion fails: `gamemode_request_start` and its
siblings. -/
def Loader.call (call : ApiCall) (l : ρ) (s : Loader σ) : Option (ℤ × Loader σ) :=
  match loadLibgamemode linker s with
  | (ret, s) =>
    if ret < 0 then some (-1, s)
    else if call.Clamps then
      if ¬s.functor call.symbol then none
      else
        let answer := library.call call l s.real
        some (if answer.1 < 0 then -1 else 0, { s with real := answer.2 })
    else if ¬s.functor call.symbol then some (-1, { s with errorString := call.symbol.missingText })
    else
      let answer := library.call call l s.real
      some (answer.1, { s with real := answer.2 })

/-- `gamemode_error_string`, `none` when its assertion fails. -/
def Loader.gamemodeErrorString (s : Loader σ) : Option (CString × Loader σ) :=
  match loadLibgamemode linker s with
  | (ret, s) =>
    if ret < 0 ∨ s.errorString ≠ [] then some (s.errorString, s)
    else if ¬s.functor .errorString then none
    else some (library.errorString s.real, s)

/-- What a client asks for. -/
inductive ClientOp (ρ : Type*)
  | call (call : ApiCall) (l : ρ)
  | errorString

/-- What a client gets. -/
inductive ClientAnswer
  | result (ret : ℤ)
  | text (text : CString)
  deriving DecidableEq, Repr

/-- What a client asks for, one after the other: what it gets, `none` when an assertion fails. -/
def Loader.run : List (ClientOp ρ) → Loader σ → Option (List ClientAnswer × Loader σ)
  | [], s => some ([], s)
  | .call call l :: ops, s =>
    (s.call linker library call l).bind fun answer =>
      (Loader.run ops answer.2).map fun rest => (.result answer.1 :: rest.1, rest.2)
  | .errorString :: ops, s =>
    (s.gamemodeErrorString linker library).bind fun answer =>
      (Loader.run ops answer.2).map fun rest => (.text answer.1 :: rest.1, rest.2)

/-! ### A library that is there from the start -/

/-- The library that is opened. -/
def Linker.opened : Option CString := libraryNames.find? linker.dlopen

/-- Whether the library has a function. -/
def Linker.has (symbol : Symbol) : Bool :=
  linker.opened.any fun library => (linker.dlsym library symbol.name).error?.isNone

/-- The first required function of a list that is missing, as an error. -/
def Linker.requiredError (library : CString) (bs : List (Symbol × Bool)) : Option CString :=
  bs.findSome? fun b =>
    if b.2 then (linker.dlsym library b.1.name).error?.map dlsymError else none

/-- Why the library cannot be used, if it cannot. -/
def Linker.loadError : Option CString :=
  match linker.opened with
  | none => some (dlopenError linker.dlerror)
  | some library => linker.requiredError library bindings

/-- A client of a library that is there from the start: its own error, and the library. -/
structure Linked (σ : Type*) where
  /-- The error of the last call whose function is missing. -/
  missing : CString
  /-- The library. -/
  real : σ

/-- A call of the client. -/
def Linked.call (call : ApiCall) (l : ρ) (t : Linked σ) : ℤ × Linked σ :=
  if linker.loadError.isSome then (-1, t)
  else if linker.has call.symbol then
    let answer := library.call call l t.real
    (if call.Clamps then if answer.1 < 0 then -1 else 0 else answer.1, { t with real := answer.2 })
  else (-1, { t with missing := call.symbol.missingText })

/-- What its error string says: why there is no library, or which function was missing last, or the
error of the library. -/
def Linked.errorText (t : Linked σ) : CString :=
  linker.loadError.getD (if t.missing = [] then library.errorString t.real else t.missing)

/-- What the client gets. -/
def Linked.run : List (ClientOp ρ) → Linked σ → List ClientAnswer × Linked σ
  | [], t => ([], t)
  | .call call l :: ops, t =>
    let answer := t.call linker library call l
    let rest := Linked.run ops answer.2
    (.result answer.1 :: rest.1, rest.2)
  | .errorString :: ops, t =>
    let rest := Linked.run ops t
    (.text (t.errorText linker library) :: rest.1, rest.2)

/-! ### Refinement -/

section Refinement

variable {linker} {library}

/-- The loop over the functions stops at the first required one that is missing. -/
theorem bindSymbols_of_some {opened text : CString} :
    ∀ {bs : List (Symbol × Bool)} {s : Loader σ}, linker.requiredError opened bs = some text →
      ∃ functor, bindSymbols linker opened bs s =
        (true, { s with errorString := text, functor := functor })
  | [], _, h => by cases h
  | (symbol, required) :: bs, s, h => by
    rw [Linker.requiredError, List.findSome?_cons] at h
    cases hlookup : (linker.dlsym opened symbol.name).error? with
    | none =>
      rw [hlookup, Option.map_none, ite_self] at h
      obtain ⟨functor, hbind⟩ :=
        @bindSymbols_of_some _ _ bs { s with functor := Function.update s.functor symbol true } h
      exact ⟨functor, by simp only [bindSymbols, bindSymbol, hlookup, hbind]⟩
    | some error =>
      cases required with
      | true =>
        obtain rfl : dlsymError error = text := by simpa [hlookup] using h
        exact ⟨s.functor, by simp [bindSymbols, bindSymbol, hlookup]⟩
      | false =>
        have hrest : linker.requiredError opened bs = some text := by
          rw [Linker.requiredError]
          simpa using h
        obtain ⟨functor, hbind⟩ :=
          @bindSymbols_of_some _ _ bs { s with functor := Function.update s.functor symbol false }
            hrest
        exact ⟨functor, by simp [bindSymbols, bindSymbol, hlookup, hbind]⟩

/-- Otherwise it sets the pointers to the functions that are there. -/
theorem bindSymbols_of_none {opened : CString} (hopened : linker.opened = some opened) :
    ∀ {bs : List (Symbol × Bool)} {s : Loader σ}, linker.requiredError opened bs = none →
      ∃ functor, bindSymbols linker opened bs s = (false, { s with functor := functor }) ∧
        ∀ symbol, functor symbol =
          if symbol ∈ bs.map Prod.fst then linker.has symbol else s.functor symbol
  | [], s, _ => ⟨s.functor, rfl, fun symbol => by simp⟩
  | (symbol, required) :: bs, s, h => by
    rw [Linker.requiredError, List.findSome?_cons] at h
    have hhas : linker.has symbol = (linker.dlsym opened symbol.name).error?.isNone := by
      rw [Linker.has, hopened, Option.any_some]
    have hstep : bindSymbol linker opened symbol required s =
        (false, { s with functor := Function.update s.functor symbol (linker.has symbol) }) := by
      rw [bindSymbol, hhas]
      cases hlookup : (linker.dlsym opened symbol.name).error? with
      | none => rfl
      | some error =>
        cases required with
        | true => simp [hlookup] at h
        | false => rfl
    have hrest : linker.requiredError opened bs = none := by
      split at h
      · cases h
      · exact h
    obtain ⟨functor, hbind, hfunctor⟩ := bindSymbols_of_none hopened
      (s := { s with functor := Function.update s.functor symbol (linker.has symbol) }) hrest
    refine ⟨functor, by simp only [bindSymbols, hstep, hbind], fun other => ?_⟩
    simp only [hfunctor, List.map_cons, List.mem_cons]
    by_cases hmem : other ∈ bs.map Prod.fst
    · rw [if_pos hmem, if_pos (Or.inr hmem)]
    · rw [if_neg hmem]
      by_cases hother : other = symbol
      · rw [if_pos (Or.inl hother), hother, Function.update_self]
      · rw [if_neg (not_or.2 ⟨hother, hmem⟩), Function.update_of_ne hother]

/-- The header stands for the client: nothing was tried yet, the library is there and its functions
are bound, or it is not and the error string says why. -/
inductive Loader.StandsFor (linker : Linker) (s : Loader σ) (t : Linked σ) : Prop
  | untried (hreal : s.real = t.real) (hloaded : s.loaded = 1) (herror : s.errorString = [])
      (hmissing : t.missing = [])
  | bound (hreal : s.real = t.real) (hloaded : s.loaded = 0) (herror : s.errorString = t.missing)
      (hlinker : linker.loadError = none) (hfunctor : s.functor = linker.has)
  | failed (hreal : s.real = t.real) (hloaded : s.loaded = -1)
      (hlinker : linker.loadError = some s.errorString)

theorem Loader.StandsFor.real_eq {s : Loader σ} {t : Linked σ} (h : s.StandsFor linker t) :
    s.real = t.real := by
  cases h with
  | untried hreal _ _ _ => exact hreal
  | bound hreal _ _ _ _ => exact hreal
  | failed hreal _ _ => exact hreal

theorem mem_bindings (symbol : Symbol) : symbol ∈ bindings.map Prod.fst := by
  cases symbol <;> decide

/-- After loading, it is known whether the library is there. -/
theorem loadLibgamemode_standsFor {s : Loader σ} {t : Linked σ} (h : s.StandsFor linker t) :
    let loaded := loadLibgamemode linker s
    loaded.1 = loaded.2.loaded ∧ loaded.2.real = t.real ∧
      (loaded.2.loaded = -1 ∧ linker.loadError = some loaded.2.errorString ∨
        loaded.2.loaded = 0 ∧ linker.loadError = none ∧ loaded.2.errorString = t.missing ∧
          loaded.2.functor = linker.has) := by
  intro loaded
  cases h with
  | bound hreal hloaded herror hlinker hfunctor =>
    have heq : loaded = (s.loaded, s) := by simp [loaded, loadLibgamemode, hloaded]
    rw [heq]
    exact ⟨rfl, hreal, Or.inr ⟨hloaded, hlinker, herror, hfunctor⟩⟩
  | failed hreal hloaded hlinker =>
    have heq : loaded = (s.loaded, s) := by simp [loaded, loadLibgamemode, hloaded]
    rw [heq]
    exact ⟨rfl, hreal, Or.inl ⟨hloaded, hlinker⟩⟩
  | untried hreal hloaded herror hmissing =>
    cases hopened : linker.opened with
    | none =>
      have hlinker : linker.loadError = some (dlopenError linker.dlerror) := by
        rw [Linker.loadError, hopened]
      have heq : loaded =
          (-1, { s with errorString := dlopenError linker.dlerror, loaded := -1 }) := by
        rw [Linker.opened] at hopened
        simp [loaded, loadLibgamemode, hloaded, hopened]
      rw [heq]
      exact ⟨rfl, hreal, Or.inl ⟨rfl, hlinker⟩⟩
    | some opened =>
      have hlinker : linker.loadError = linker.requiredError opened bindings := by
        rw [Linker.loadError, hopened]
      have hfind : libraryNames.find? linker.dlopen = some opened := hopened
      cases hrequired : linker.requiredError opened bindings with
      | some text =>
        rw [hrequired] at hlinker
        obtain ⟨functor, hbind⟩ := bindSymbols_of_some (s := s) hrequired
        have heq : loaded =
            (-1, { s with errorString := text, functor := functor, loaded := -1 }) := by
          simp [loaded, loadLibgamemode, hloaded, hfind, hbind]
        rw [heq]
        exact ⟨rfl, hreal, Or.inl ⟨rfl, hlinker⟩⟩
      | none =>
        rw [hrequired] at hlinker
        obtain ⟨functor, hbind, hfunctor⟩ := bindSymbols_of_none (s := s) hopened hrequired
        have hhas : functor = linker.has := by
          funext symbol
          rw [hfunctor, if_pos (mem_bindings symbol)]
        have heq : loaded = (0, { s with functor := functor, loaded := 0 }) := by
          simp [loaded, loadLibgamemode, hloaded, hfind, hbind]
        rw [heq]
        exact ⟨rfl, hreal, Or.inr ⟨rfl, hlinker, herror.trans hmissing.symm, hhas⟩⟩

/-- A library that can be used has every required function. -/
theorem has_of_loadError {symbol : Symbol} (hload : linker.loadError = none)
    (hrequired : (symbol, true) ∈ bindings) : linker.has symbol = true := by
  rw [Linker.loadError] at hload
  cases hopened : linker.opened with
  | none =>
    rw [hopened] at hload
    cases hload
  | some opened =>
    simp only [hopened, Linker.requiredError] at hload
    have hlookup := List.findSome?_eq_none_iff.1 hload _ hrequired
    rw [if_pos rfl, Option.map_eq_none_iff] at hlookup
    rw [Linker.has, hopened, Option.any_some, hlookup]
    rfl

variable (library) {s : Loader σ} {t : Linked σ} (h : s.StandsFor linker t)
include h

/-- The header answers a call as the client does. -/
theorem call_standsFor (call : ApiCall) (l : ρ) :
    ∃ s', s.call linker library call l = some ((t.call linker library call l).1, s') ∧
      s'.StandsFor linker (t.call linker library call l).2 := by
  obtain ⟨hret, hreal, ⟨hloaded, hlinker⟩ | ⟨hloaded, hlinker, herror, hfunctor⟩⟩ :=
    loadLibgamemode_standsFor h
  · have hcall : t.call linker library call l = (-1, t) := by simp [Linked.call, hlinker]
    rw [hcall]
    exact ⟨_, by simp [Loader.call, hret, hloaded], .failed hreal hloaded hlinker⟩
  · cases hhas : linker.has call.symbol with
    | true =>
      have hcall : t.call linker library call l =
          (if call.Clamps then if (library.call call l t.real).1 < 0 then -1 else 0
            else (library.call call l t.real).1,
            { t with real := (library.call call l t.real).2 }) := by
        simp [Linked.call, hlinker, hhas]
      rw [hcall]
      refine ⟨{ (loadLibgamemode linker s).2 with real := (library.call call l t.real).2 }, ?_,
        .bound rfl hloaded herror hlinker hfunctor⟩
      cases hclamps : call.Clamps <;>
        simp [Loader.call, hret, hloaded, hclamps, hfunctor, hhas, hreal]
    | false =>
      have hclamps : call.Clamps = false := by
        by_contra hne
        have hrequired : (call.symbol, true) ∈ bindings := by
          cases call <;> first | exact absurd rfl hne | decide
        rw [has_of_loadError hlinker hrequired] at hhas
        cases hhas
      have hcall : t.call linker library call l =
          (-1, { t with missing := call.symbol.missingText }) := by
        simp [Linked.call, hlinker, hhas]
      rw [hcall]
      refine ⟨{ (loadLibgamemode linker s).2 with errorString := call.symbol.missingText }, ?_,
        .bound hreal hloaded rfl hlinker hfunctor⟩
      simp [Loader.call, hret, hloaded, hclamps, hfunctor, hhas]

theorem gamemodeErrorString_standsFor :
    ∃ s', s.gamemodeErrorString linker library = some (t.errorText linker library, s') ∧
      s'.StandsFor linker t := by
  obtain ⟨hret, hreal, ⟨hloaded, hlinker⟩ | ⟨hloaded, hlinker, herror, hfunctor⟩⟩ :=
    loadLibgamemode_standsFor h
  · refine ⟨_, ?_, .failed hreal hloaded hlinker⟩
    simp [Loader.gamemodeErrorString, hret, hloaded, Linked.errorText, hlinker]
  · refine ⟨_, ?_, .bound hreal hloaded herror hlinker hfunctor⟩
    have hhas : linker.has .errorString = true := has_of_loadError hlinker (by decide)
    by_cases hmissing : t.missing = [] <;>
      simp [Loader.gamemodeErrorString, hret, hloaded, Linked.errorText, hlinker, herror, hmissing,
        hfunctor, hhas, hreal]

omit h in
/-- The header answers as the client does, whatever is asked. -/
theorem run_standsFor : ∀ {ops : List (ClientOp ρ)} {s : Loader σ} {t : Linked σ},
    s.StandsFor linker t → ∃ s', Loader.run linker library ops s =
      some ((Linked.run linker library ops t).1, s') ∧
        s'.StandsFor linker (Linked.run linker library ops t).2
  | [], s, _, h => ⟨s, rfl, h⟩
  | .call call l :: ops, s, t, h => by
    obtain ⟨s', hcall, hstands⟩ := call_standsFor library h call l
    obtain ⟨s'', hrun, hend⟩ := @run_standsFor ops _ _ hstands
    exact ⟨s'', by simp [Loader.run, Linked.run, hcall, hrun], hend⟩
  | .errorString :: ops, s, t, h => by
    obtain ⟨s', htext, hstands⟩ := gamemodeErrorString_standsFor library h
    obtain ⟨s'', hrun, hend⟩ := @run_standsFor ops _ _ hstands
    exact ⟨s'', by simp [Loader.run, Linked.run, htext, hrun], hend⟩

end Refinement

/-! ### Whole runs -/

section Runs

theorem standsFor_start (real : σ) : (Loader.start real).StandsFor linker ⟨[], real⟩ :=
  .untried rfl rfl rfl rfl

/-- **Loading the library lazily.** Whatever a program asks for, no assertion of the header fails,
and it gets what a client of a library that is there from the start would get. -/
theorem loader_refines (ops : List (ClientOp ρ)) (real : σ) :
    ∃ s, Loader.run linker library ops (.start real) =
        some ((Linked.run linker library ops ⟨[], real⟩).1, s) ∧
      s.real = (Linked.run linker library ops ⟨[], real⟩).2.real := by
  obtain ⟨s, hrun, hstands⟩ := run_standsFor library (standsFor_start linker real)
  exact ⟨s, hrun, hstands.real_eq⟩

/-- The function of a call, if it is missing. -/
def ClientOp.missing : ClientOp ρ → Option Symbol
  | .call c _ => if linker.has c.symbol then none else some c.symbol
  | .errorString => none

variable {linker}

/-- The error of the client is that of the last call whose function was missing. -/
theorem run_missing (hload : linker.loadError = none) :
    ∀ (ops : List (ClientOp ρ)) (t : Linked σ), (Linked.run linker library ops t).2.missing =
      ((ops.filterMap (ClientOp.missing linker)).map Symbol.missingText).getLast?.getD t.missing
  | [], t => rfl
  | .errorString :: ops, t => by
    rw [Linked.run, run_missing hload ops t]
    rfl
  | .call call l :: ops, t => by
    rw [Linked.run, run_missing hload ops]
    cases hhas : linker.has call.symbol with
    | true => simp [Linked.call, hload, hhas, ClientOp.missing]
    | false =>
      have hmissing : ClientOp.missing linker (.call call l) = some call.symbol := by
        simp [ClientOp.missing, hhas]
      rw [List.filterMap_cons_some hmissing, List.map_cons, List.getLast?_cons]
      simp [Linked.call, hload, hhas]

/-- A function that can be missing has an error for that. -/
theorem missingText_ne_nil (hload : linker.loadError = none) {op : ClientOp ρ} {symbol : Symbol}
    (h : ClientOp.missing linker op = some symbol) : symbol.missingText ≠ [] := by
  have hhas : linker.has symbol = false := by
    cases op with
    | errorString => cases h
    | call c l =>
      rw [ClientOp.missing, Option.ite_none_left_eq_some, Option.some_inj] at h
      exact h.2 ▸ Bool.eq_false_iff.2 h.1
  have hoptional : (symbol, true) ∉ bindings := fun hrequired => by
    rw [has_of_loadError hload hrequired] at hhas
    cases hhas
  revert hoptional
  cases symbol <;> decide

/-- **The error string.** With a library that can be used, the error string is that of the library
until the first call whose function is missing; from then on it is that of the last such call,
whatever fails later. -/
theorem errorString_eq (hload : linker.loadError = none) (ops : List (ClientOp ρ)) (real : σ) :
    ∃ answers s s', Loader.run linker library ops (.start real) = some (answers, s) ∧
      s.gamemodeErrorString linker library =
        some (((ops.filterMap (ClientOp.missing linker)).getLast?.map
          Symbol.missingText).getD (library.errorString s.real), s') := by
  obtain ⟨s, hrun, hstands⟩ := run_standsFor library (standsFor_start linker real)
  obtain ⟨s', htext, -⟩ := gamemodeErrorString_standsFor library hstands
  refine ⟨_, s, s', hrun, htext.trans ?_⟩
  rw [Linked.errorText, hload, Option.getD_none, run_missing library hload ops, ← hstands.real_eq]
  cases hlast : (ops.filterMap (ClientOp.missing linker)).getLast? with
  | none => simp [List.getLast?_map, hlast]
  | some symbol =>
    obtain ⟨op, -, hop⟩ := List.mem_filterMap.1 (List.mem_of_getLast? hlast)
    simp [List.getLast?_map, hlast, missingText_ne_nil hload hop]

end Runs

private def olderLibrary : Linker where
  dlopen name := name = "libgamemode.so.0".toList
  dlerror := []
  dlsym _ name :=
    if name = Symbol.name .requestStartFor ∨ name = Symbol.name .queryStatusFor then
      .error "undefined symbol".toList
    else .found

private def refusingLibrary : RealLibrary Unit ℕ where
  call _ _ n := (-2, n + 1)
  errorString _ := "D-Bus error: timeout".toList

/-- After a call whose function is missing, a request that the library refuses is shown under the
wrong error. -/
theorem errorString_of_olderLibrary :
    ∃ answers s s', Loader.run olderLibrary refusingLibrary
        [.call (.queryStatusFor 7) (), .call .requestStart ()] (.start 0) = some (answers, s) ∧
      s.gamemodeErrorString olderLibrary refusingLibrary =
        some ("gamemode_query_status_for missing (older host?)".toList, s') := by
  exact errorString_eq refusingLibrary (by decide)
    [.call (.queryStatusFor 7) (), .call .requestStart ()] 0

end GameMode
