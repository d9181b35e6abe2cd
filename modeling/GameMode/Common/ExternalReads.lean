import GameMode.Common.External

/-!
# Reading the output of a child into memory

`read_child_stdout` has a buffer and a running count of the bytes in it. Each `read` asks for what
is left of the buffer, less the byte for the NUL; when the buffer is full, the rest of the output
goes into a second buffer that is thrown away. A `read` of no bytes would look like the end of file.

Here the buffers are memory, with what it held before, and a write outside of it has no result. A
`read` returns between one byte and what it asks for.

## Main definitions

* `ExternalBuffer`, `ExternalBuffer.write`: the memory of a buffer.
* `ReadLoop`, `readRounds`: the loop.
* `ReadsFaithfully`: the loop ends, and the buffer holds the beginning of the output.

## Main results

* `ReadLoop.Holds.read`: what a round keeps.
* `readsFaithfully`: the loop is faithful, however the output arrives.
* `readChildStdout_eq_readRounds`: the text in the buffer is that of `readChildStdout`.

Source: `common/common-external.c`.
-/

namespace GameMode

open CString (nul)

/-! ### Memory -/

/-- The memory of `EXTERNAL_BUFFER_MAX` bytes. -/
structure ExternalBuffer where
  /-- The bytes. -/
  bytes : CString
  length_bytes : bytes.length = externalBufferMax

/-- Writing bytes from an offset on, `none` when they do not fit. -/
def ExternalBuffer.write (offset : ℕ) (text : CString) (buffer : ExternalBuffer) :
    Option ExternalBuffer :=
  if h : offset + text.length ≤ externalBufferMax then
    some ⟨buffer.bytes.take offset ++ (text ++ buffer.bytes.drop (offset + text.length)), by
      have hlength := buffer.length_bytes
      simp only [List.length_append, List.length_take, List.length_drop]
      omega⟩
  else none

theorem ExternalBuffer.write_append {buffer initial : ExternalBuffer} {text : CString}
    (h : buffer.bytes = text ++ initial.bytes.drop text.length) (more : CString)
    (hfits : text.length + more.length ≤ externalBufferMax) :
    ∃ buffer', buffer.write text.length more = some buffer' ∧
      buffer'.bytes = (text ++ more) ++ initial.bytes.drop (text ++ more).length := by
  rw [write, dif_pos hfits]
  refine ⟨_, rfl, ?_⟩
  change buffer.bytes.take text.length ++
    (more ++ buffer.bytes.drop (text.length + more.length)) = _
  rw [h, List.take_left, List.drop_append, List.drop_drop, List.length_append, List.append_assoc,
    List.drop_eq_nil_of_le (by omega : text.length ≤ text.length + more.length), List.nil_append,
    Nat.add_sub_cancel_left]

/-! ### The loop -/

/-- What `select` and `read` do in a round of the loop. -/
inductive PipeRound
  /-- `select` is interrupted by a signal. -/
  | interrupted
  /-- `select` fails otherwise. -/
  | selectFailed
  /-- `read` fails. -/
  | readFailed
  /-- `read` returns so many bytes, or as many as it can. -/
  | ready (size : ℕ)
  deriving DecidableEq

/-- The variables of `read_child_stdout`, with what is left of the output, and what the calls of
`read` have asked for. -/
structure ReadLoop where
  /-- `buffer`. -/
  buffer : ExternalBuffer
  /-- `discard_buffer`. -/
  discard : ExternalBuffer
  /-- `buffer_bytes_read`. -/
  bytesRead : ℕ
  /-- `buffer_full`. -/
  bufferFull : Bool
  /-- What is left of the output. -/
  left : CString
  /-- What the calls of `read` have asked for. -/
  requests : List ℕ

/-- The variables at first. -/
def ReadLoop.start (buffer discard : ExternalBuffer) (stream : CString) : ReadLoop :=
  ⟨buffer, discard, 0, false, stream, []⟩

namespace ReadLoop

/-- How much the next `read` asks for, as a `size_t`. -/
def request (s : ReadLoop) : ℕ :=
  if ¬s.bufferFull then (externalBufferMax + 2 ^ 64 - s.bytesRead - 1) % 2 ^ 64
  else externalBufferMax - 1

/-- What `read` writes to memory. -/
def store (justRead : CString) (s : ReadLoop) : Option ReadLoop :=
  if ¬s.bufferFull then
    (s.buffer.write s.bytesRead justRead).map fun buffer => { s with buffer := buffer }
  else (s.discard.write 0 justRead).map fun discard => { s with discard := discard }

/-- `read`: what was read, and the state after it. -/
def read (size : ℕ) (s : ReadLoop) : Option (CString × ReadLoop) :=
  let justRead := s.left.take (min (max 1 size) s.request)
  (s.store justRead).map fun stored =>
    (justRead, { stored with
      left := s.left.drop justRead.length
      requests := s.requests ++ [s.request] })

/-- The count after a `read`. -/
def keep (justRead : ℕ) (s : ReadLoop) : ReadLoop :=
  if ¬s.bufferFull then
    { s with
      bytesRead := s.bytesRead + justRead
      bufferFull := s.bytesRead + justRead == externalBufferMax - 1 }
  else s

end ReadLoop

/-- The loop of `read_child_stdout`: the result, and the state; `none` when it writes outside of its
buffers. The timeout passes after the last round. -/
def readRounds : List PipeRound → ReadLoop → Option (ℤ × ReadLoop)
  | [], s => some (-2, s)
  | .interrupted :: rounds, s => readRounds rounds s
  | .selectFailed :: _, s => some (-1, s)
  | .readFailed :: _, s => some (-1, s)
  | .ready size :: rounds, s =>
    match s.read size with
    | none => none
    | some (justRead, s) =>
      if justRead = [] then
        (s.buffer.write s.bytesRead [nul]).map fun buffer => (0, { s with buffer := buffer })
      else readRounds rounds (s.keep justRead.length)

/-- The buffer holds what fits of the bytes that were taken from the output, in front of what it
held at first. -/
structure ReadLoop.Holds (initial : ExternalBuffer) (taken stream : CString) (s : ReadLoop) :
    Prop where
  stream : taken ++ s.left = stream
  bytesRead : s.bytesRead = (taken.take (externalBufferMax - 1)).length
  bufferFull : s.bufferFull = (s.bytesRead == externalBufferMax - 1)
  bytes : s.buffer.bytes =
    taken.take (externalBufferMax - 1) ++ initial.bytes.drop s.bytesRead
  requests : ∀ size ∈ s.requests, 0 < size

namespace ReadLoop

variable {initial : ExternalBuffer} {taken stream : CString} {s : ReadLoop}

@[simp] theorem keep_buffer (n : ℕ) (s : ReadLoop) : (s.keep n).buffer = s.buffer := by
  rw [keep]
  split_ifs <;> rfl

@[simp] theorem keep_left (n : ℕ) (s : ReadLoop) : (s.keep n).left = s.left := by
  rw [keep]
  split_ifs <;> rfl

@[simp] theorem keep_requests (n : ℕ) (s : ReadLoop) : (s.keep n).requests = s.requests := by
  rw [keep]
  split_ifs <;> rfl

@[simp] theorem keep_zero_bytesRead (s : ReadLoop) : (s.keep 0).bytesRead = s.bytesRead := by
  rw [keep]
  split_ifs <;> rfl

theorem holds_start (buffer discard : ExternalBuffer) (stream : CString) :
    (start buffer discard stream).Holds buffer [] stream :=
  ⟨rfl, rfl, rfl, rfl, by simp [start]⟩

theorem Holds.bytesRead_le (h : s.Holds initial taken stream) :
    s.bytesRead ≤ externalBufferMax - 1 :=
  h.bytesRead ▸ List.length_take_le _ _

theorem Holds.bufferFull_iff (h : s.Holds initial taken stream) :
    s.bufferFull = true ↔ s.bytesRead = externalBufferMax - 1 := by
  rw [h.bufferFull, beq_iff_eq]

theorem Holds.request_eq (h : s.Holds initial taken stream) :
    s.request = if s.bufferFull then externalBufferMax - 1
      else externalBufferMax - 1 - s.bytesRead := by
  have hle := h.bytesRead_le
  rw [request]
  cases hfull : s.bufferFull with
  | true => rfl
  | false =>
    rw [externalBufferMax] at hle ⊢
    simp only [Bool.false_eq_true, not_false_eq_true, if_true, if_false]
    omega

theorem Holds.request_pos (h : s.Holds initial taken stream) : 0 < s.request := by
  have hle := h.bytesRead_le
  rw [h.request_eq]
  cases hfull : s.bufferFull with
  | true => exact Nat.sub_pos_of_lt (by decide)
  | false =>
    have hne := h.bufferFull_iff.not.1 (by simp [hfull])
    simp only [Bool.false_eq_true, if_false]
    omega

/-- The bytes that are read are stored where there is room for them. -/
theorem Holds.store (h : s.Holds initial taken stream) {justRead rest : CString}
    (hleft : s.left = justRead ++ rest) (hlength : justRead.length ≤ s.request) :
    ∃ stored, s.store justRead = some stored ∧
      ({ stored with
          left := rest
          requests := s.requests ++ [s.request] }.keep justRead.length).Holds initial
        (taken ++ justRead) stream := by
  have hstream : taken ++ justRead ++ rest = stream := by
    rw [List.append_assoc, ← hleft, h.stream]
  have hrequests : ∀ size ∈ s.requests ++ [s.request], 0 < size := by
    intro size hsize
    rcases List.mem_append.1 hsize with hold | hnew
    · exact h.requests size hold
    · exact List.mem_singleton.1 hnew ▸ h.request_pos
  rw [h.request_eq] at hlength
  have hbytesRead := h.bytesRead
  have hbytes := h.bytes
  cases hfull : s.bufferFull with
  | true =>
    rw [hfull, if_pos rfl] at hlength
    have hfits : 0 + justRead.length ≤ externalBufferMax := by omega
    have hmax := h.bufferFull_iff.1 hfull
    -- the buffer has all that it can hold
    have htake : (taken ++ justRead).take (externalBufferMax - 1) =
        taken.take (externalBufferMax - 1) := by
      rw [List.length_take] at hbytesRead
      exact List.take_append_of_le_length (by omega)
    refine ⟨_, by simp only [ReadLoop.store, hfull, ExternalBuffer.write, dif_pos hfits]; rfl, ?_⟩
    simp only [keep, not_true_eq_false, if_false]
    refine ⟨hstream, ?_, ?_, ?_, hrequests⟩
    · rw [htake]
      exact hbytesRead
    · exact hfull ▸ h.bufferFull
    · rw [htake]
      exact hbytes
  | false =>
    have hne := h.bufferFull_iff.not.1 (by simp [hfull])
    rw [hfull, if_neg Bool.false_ne_true] at hlength
    have hshort : taken.length < externalBufferMax - 1 := by
      rw [List.length_take] at hbytesRead
      omega
    rw [List.take_of_length_le hshort.le] at hbytesRead hbytes
    rw [hbytesRead] at hbytes
    have htake : (taken ++ justRead).take (externalBufferMax - 1) = taken ++ justRead :=
      List.take_of_length_le (by rw [List.length_append]; omega)
    obtain ⟨buffer, hwrite, hbuffer⟩ := ExternalBuffer.write_append hbytes justRead (by omega)
    refine ⟨_, by simp only [ReadLoop.store, hfull, hbytesRead, hwrite]; rfl, ?_⟩
    simp only [keep, Bool.false_eq_true, not_false_eq_true, if_true]
    refine ⟨hstream, ?_, rfl, ?_, hrequests⟩
    · rw [htake, List.length_append]
    · rw [htake, ← List.length_append]
      exact hbuffer

/-- **A round.** The bytes that are read are stored, and nothing is read only at the end of the
output. -/
theorem Holds.read (h : s.Holds initial taken stream) (size : ℕ) :
    ∃ justRead s', s.read size = some (justRead, s') ∧
      (s'.keep justRead.length).Holds initial (taken ++ justRead) stream ∧
      (justRead = [] → s.left = []) ∧ justRead.length + s'.left.length = s.left.length := by
  have hleft : s.left = s.left.take (min (max 1 size) s.request) ++
      s.left.drop (s.left.take (min (max 1 size) s.request)).length := by
    rw [List.length_take]
    rcases le_total (min (max 1 size) s.request) s.left.length with hle | hle
    · rw [min_eq_left hle, List.take_append_drop]
    · rw [min_eq_right hle, List.drop_length, List.append_nil, List.take_of_length_le hle]
  obtain ⟨stored, hstored, hholds⟩ := h.store hleft
    ((List.length_take_le _ _).trans (min_le_right _ _))
  refine ⟨_, _, by rw [ReadLoop.read, hstored]; rfl, hholds, fun hnil => ?_, ?_⟩
  · rw [List.take_eq_nil_iff] at hnil
    have hpos := h.request_pos
    exact hnil.resolve_left (by omega)
  · rw [← List.length_append]
    exact congrArg List.length hleft.symm

/-- **The end.** There is room for the NUL. -/
theorem Holds.finish (h : s.Holds initial taken stream) (hleft : s.left = []) :
    s.bytesRead = min stream.length (externalBufferMax - 1) ∧
      ∃ buffer, s.buffer.write s.bytesRead [nul] = some buffer ∧
        buffer.bytes = stream.take (externalBufferMax - 1) ++
          nul :: initial.bytes.drop (min stream.length (externalBufferMax - 1) + 1) := by
  have htaken : taken = stream := by
    rw [← h.stream, hleft, List.append_nil]
  subst htaken
  have hbytesRead := h.bytesRead
  have hbytes := h.bytes
  rw [hbytesRead] at hbytes
  have hlength : (taken.take (externalBufferMax - 1)).length =
      min taken.length (externalBufferMax - 1) := by
    rw [List.length_take, min_comm]
  obtain ⟨buffer, hwrite, hbuffer⟩ := ExternalBuffer.write_append hbytes [nul] (by
    rw [hlength, List.length_singleton]
    exact Nat.add_le_of_le_sub (by decide) (min_le_right _ _))
  rw [← hbytesRead] at hwrite
  refine ⟨hbytesRead.trans hlength, buffer, hwrite, ?_⟩
  rw [hbuffer, List.length_append, hlength, List.append_assoc, List.singleton_append,
    List.length_singleton]

end ReadLoop

/-! ### However the output arrives -/

/-- The rounds in which no call fails: before the `i`-th `read` there are `interrupts i` signals,
and it returns `sizes i` bytes, or as many as it can. -/
def arrivals (interrupts sizes : ℕ → ℕ) (n : ℕ) : List PipeRound :=
  (List.range n).flatMap fun i =>
    List.replicate (interrupts i) .interrupted ++ [.ready (sizes i)]

/-- The loop ends with a result of zero; the buffer holds what fits of the output, a NUL, and then
what it held at first; no `read` has asked for nothing; and there is no output left. -/
def ReadsFaithfully (initial : ExternalBuffer) (stream : CString) (run : Option (ℤ × ReadLoop)) :
    Prop :=
  ∃ s, run = some (0, s) ∧
    s.bytesRead = min stream.length (externalBufferMax - 1) ∧
    s.buffer.bytes = stream.take (externalBufferMax - 1) ++
      nul :: initial.bytes.drop (min stream.length (externalBufferMax - 1) + 1) ∧
    (∀ size ∈ s.requests, 0 < size) ∧ s.left = []

theorem readRounds_interrupted (n : ℕ) (rounds : List PipeRound) (s : ReadLoop) :
    readRounds (List.replicate n .interrupted ++ rounds) s = readRounds rounds s := by
  induction n with
  | zero => rfl
  | succ n ih =>
    rw [List.replicate_succ, List.cons_append, readRounds, ih]

theorem arrivals_succ (interrupts sizes : ℕ → ℕ) (n : ℕ) :
    arrivals interrupts sizes (n + 1) =
      List.replicate (interrupts 0) .interrupted ++
        .ready (sizes 0) :: arrivals (fun i => interrupts (i + 1)) (fun i => sizes (i + 1)) n := by
  rw [arrivals, List.range_succ_eq_map, List.flatMap_cons, List.flatMap_map, List.append_assoc]
  rfl

/-- **The loop.** There is a round for every byte that is left, and one for the end of file. -/
theorem ReadLoop.Holds.faithful {initial : ExternalBuffer} {stream : CString} (n : ℕ) :
    ∀ {taken : CString} {s : ReadLoop} (interrupts sizes : ℕ → ℕ),
      s.Holds initial taken stream → s.left.length < n →
        ReadsFaithfully initial stream (readRounds (arrivals interrupts sizes n) s) := by
  induction n with
  | zero => exact fun _ _ _ hn => absurd hn (Nat.not_lt_zero _)
  | succ n ih =>
    intro taken s interrupts sizes h hn
    obtain ⟨justRead, s', hread, hholds, hend, hleft⟩ := h.read (sizes 0)
    rw [arrivals_succ, readRounds_interrupted, readRounds, hread]
    by_cases hnil : justRead = []
    · subst hnil
      rw [List.append_nil, List.length_nil] at hholds
      have hempty : s'.left = [] := by
        rw [hend rfl, List.length_nil, Nat.zero_add] at hleft
        exact List.eq_nil_of_length_eq_zero hleft
      obtain ⟨hcount, buffer, hwrite, hbytes⟩ := hholds.finish ((keep_left 0 s').trans hempty)
      rw [keep_buffer, keep_zero_bytesRead] at hwrite
      rw [keep_zero_bytesRead] at hcount
      have hrequests := hholds.requests
      rw [keep_requests] at hrequests
      refine ⟨{ s' with buffer := buffer }, ?_, hcount, hbytes, hrequests, hempty⟩
      simp only [if_true, hwrite, Option.map_some]
    · simp only [if_neg hnil]
      refine ih _ _ hholds ?_
      have hpos : 0 < justRead.length := List.length_pos_iff.2 hnil
      rw [keep_left]
      omega

/-- **The output of a child.** Whatever the child writes, whatever the memory holds and however the
output arrives, the buffer holds the beginning of the output, and the output is read to its end. -/
theorem readsFaithfully (interrupts sizes : ℕ → ℕ) (buffer discard : ExternalBuffer)
    (stream : CString) :
    ReadsFaithfully buffer stream
      (readRounds (arrivals interrupts sizes (stream.length + 1))
        (ReadLoop.start buffer discard stream)) :=
  (ReadLoop.holds_start buffer discard stream).faithful _ interrupts sizes
    (Nat.lt_succ_self _)

/-- The text in front of the NUL is what `readChildStdout` keeps. -/
theorem readChildStdout_eq_readRounds {events : List PipeEvent} {stream : CString}
    (hevents : outputOf events = (.eof, stream)) (interrupts sizes : ℕ → ℕ)
    (buffer discard : ExternalBuffer) :
    ∃ s, readRounds (arrivals interrupts sizes (stream.length + 1))
        (ReadLoop.start buffer discard stream) = some (0, s) ∧
      readChildStdout events = (0, s.buffer.bytes.take s.bytesRead) := by
  obtain ⟨s, hrun, hcount, hbytes, -, -⟩ := readsFaithfully interrupts sizes buffer discard stream
  refine ⟨s, hrun, ?_⟩
  have hlength : (stream.take (externalBufferMax - 1)).length = s.bytesRead := by
    rw [hcount, List.length_take, min_comm]
  rw [readChildStdout_eq, hevents, hbytes, ← hlength, List.take_left]
  rfl

end GameMode
