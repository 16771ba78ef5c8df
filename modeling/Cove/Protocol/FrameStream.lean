import Cove.Protocol.Frame

/-!
A stream of frames read through `FrameDecoder` from arbitrary slices. The reference is `scan`, which
parses the whole stream at once; the decoder's pending bytes are the part of the stream after the
last frame boundary, and every turn of `read` keeps the two in step.
-/

namespace Cove.Protocol.FrameStream
open Protocol.Frame List Option ReadLoop

theorem setBytes_append (kept slice rest : Bytes) :
    setBytes (kept ++ rest) kept.length slice = kept ++ slice ++ rest.drop slice.length := by
  simp [setBytes]

variable (start stop : Nat)

private def copied (before : Bytes) : Bytes :=
  before.drop start ++ List.replicate (stop - start - (before.drop start).length) 0

private theorem copied_step (before segment : Bytes) (bounded : before.length ≤ stop) :
    (if start - before.length < min (stop - before.length) segment.length then
        setBytes (copied start stop before) (before.length + (start - before.length) - start)
          ((segment.drop (start - before.length)).take
            (min (stop - before.length) segment.length - (start - before.length))) else copied start stop before) =
      copied start stop ((before ++ segment).take stop) := by
  have position : before.length + (start - before.length) - start = (before.drop start).length := by
    rw [length_drop]
    omega
  have taken : ((before ++ segment).take stop).drop start =
      before.drop start ++ (segment.drop (start - before.length)).take
        (min (stop - before.length) segment.length - (start - before.length)) := by
    rw [take_append, take_of_length_le bounded, drop_append, drop_take]
    congr 1
    rw [← take_length (l := segment.drop (start - before.length)), take_take,
      take_take]
    congr 1
    simp only [length_drop]
    omega
  unfold copied
  rw [taken, position]
  split
  next copies =>
    rw [setBytes_append]
    simp only [drop_replicate, length_append, Nat.sub_sub, Nat.add_assoc]
  next nothing =>
    rw [show min (stop - before.length) segment.length - (start - before.length) = 0 by omega]
    simp

private theorem copyRangeFrom_eq (segments : List Bytes) (before : Bytes)
    (bounded : before.length ≤ stop) (enough : stop ≤ (before ++ segments.flatten).length) :
    copyRangeFrom start stop segments before.length (copied start stop before) =
      ((before ++ segments.flatten).take stop).drop start := by
  induction segments generalizing before with
  | nil =>
    have full : before.length = stop := by
      simp only [flatten_nil, append_nil] at enough
      omega
    simp only [copyRangeFrom, copied, flatten_nil, append_nil, length_drop]
    rw [take_of_length_le bounded, full]
    simp
  | cons segment rest ih =>
    simp only [copyRangeFrom, copied_step start stop before segment bounded]
    split
    next stopped =>
      -- The range ends inside this segment, so later segments do not matter.
      have covered : stop ≤ (before ++ segment).length := by
        rw [length_append]
        omega
      rw [flatten_cons, ← append_assoc, take_append_of_le_length covered]
      simp only [copied, length_drop, length_take, Nat.min_eq_left covered, Nat.sub_self,
        replicate_zero, append_nil]
    next more =>
      have short : (before ++ segment).length ≤ stop := by
        rw [length_append]
        omega
      rw [take_of_length_le short, ← length_append,
        ih (before ++ segment) short (by simpa [Nat.add_assoc] using enough)]
      simp

theorem copyRange_eq (segments : List Bytes) (start stop : Nat) (bound : stop ≤ segments.flatten.length) :
    copyRange segments start stop = (segments.flatten.take stop).drop start := by
  have start_empty := copyRangeFrom_eq start stop segments [] zero_le (by simpa using bound)
  simpa [copyRange, copied] using start_empty

theorem appendBody_flatten (body : List Bytes) (slice : Bytes) :
    (appendBody body slice).flatten = body.flatten ++ slice := by
  simp only [appendBody, flatten_append, flatten_cons, flatten_nil, append_nil,
    ← append_assoc]
  rw [← flatten_append, take_append_drop]

/-- Every header the decoder accepts announces a frame longer than itself and within the limits. -/
theorem inspectHeader_bounds {header : Bytes} {lane : UInt8} {revision : Nat} {fields : HeaderFields}
    (accepted : inspectHeader header lane revision = .ok fields) :
    headerBytes + fields.metadataLength ≤ fields.length ∧ 1 ≤ fields.metadataLength ∧
      fields.length ≤ maxFrameBytes := by
  unfold inspectHeader at accepted
  cases kind : FrameKind.ofCode? (byteAt header 4) with
  | none =>
    simp only [kind, Frame.failure] at accepted
    split_ifs at accepted
  | some kind =>
    simp only [kind, Frame.failure] at accepted
    split_ifs at accepted with format version lengths capacity
    cases accepted
    dsimp only
    omega

/-- The whole stream at once: its complete frames in order, and the failure it ends with, at the
offset after the header that shows it. -/
def scan (lane : UInt8) (revision base : Nat) (stream : Bytes) : List ByteFrame × Option ProtocolFailure :=
  if stream.length < headerBytes then ([], none)
  else
    match _accepted : inspectHeader (stream.take headerBytes) lane revision with
    | .error error => ([], some ⟨error.code, base + headerBytes⟩)
    | .ok fields =>
      if stream.length < fields.length then ([], none)
      else
        let body := (stream.take fields.length).drop headerBytes
        let rest := scan lane revision (base + fields.length) (stream.drop fields.length)
        (⟨fields.kind, body.take fields.metadataLength, body.drop fields.metadataLength⟩ :: rest.1, rest.2)
termination_by stream.length
decreasing_by
  have bounds := inspectHeader_bounds _accepted
  simp only [length_drop, headerBytes] at *
  omega

def prepend (frames : List ByteFrame) (rest : List ByteFrame × Option ProtocolFailure) :
    List ByteFrame × Option ProtocolFailure :=
  (frames ++ rest.1, rest.2)

@[simp] theorem prepend_nil (rest : List ByteFrame × Option ProtocolFailure) : prepend [] rest = rest := rfl

theorem prepend_prepend (frames more : List ByteFrame) (rest : List ByteFrame × Option ProtocolFailure) :
    prepend frames (prepend more rest) = prepend (frames ++ more) rest := by
  simp [prepend]

section
variable {lane : UInt8} {revision : Nat}

theorem scan_short (base : Nat) (stream : Bytes) (short : stream.length < headerBytes) :
    scan lane revision base stream = ([], none) := by
  rw [scan, if_pos short]

theorem scan_malformed (base : Nat) (header rest : Bytes) (error : ProtocolFailure)
    (size : header.length = headerBytes) (refused : inspectHeader header lane revision = .error error) :
    scan lane revision base (header ++ rest) = ([], some ⟨error.code, base + headerBytes⟩) := by
  have long : ¬(header ++ rest).length < headerBytes := by
    rw [length_append]
    omega
  rw [scan, if_neg long]
  have first : (header ++ rest).take headerBytes = header := by
    rw [← size, take_left]
  split
  next found same =>
    rw [first, refused] at same
    cases same
    rfl
  next fields same =>
    rw [first, refused] at same
    cases same

theorem scan_partial (base : Nat) (header body : Bytes) (fields : HeaderFields)
    (size : header.length = headerBytes) (accepted : inspectHeader header lane revision = .ok fields)
    (short : (header ++ body).length < fields.length) : scan lane revision base (header ++ body) = ([], none) := by
  have long : ¬(header ++ body).length < headerBytes := by
    rw [length_append]
    omega
  rw [scan, if_neg long]
  have first : (header ++ body).take headerBytes = header := by
    rw [← size, take_left]
  split
  next error same =>
    rw [first, accepted] at same
    cases same
  next found same =>
    rw [first, accepted] at same
    cases same
    rw [if_pos short]

theorem scan_frame (base : Nat) (header body rest : Bytes) (fields : HeaderFields)
    (size : header.length = headerBytes) (accepted : inspectHeader header lane revision = .ok fields)
    (full : (header ++ body).length = fields.length) : scan lane revision base (header ++ body ++ rest) =
      prepend [⟨fields.kind, body.take fields.metadataLength, body.drop fields.metadataLength⟩]
        (scan lane revision (base + fields.length) rest) := by
  have long : ¬(header ++ body ++ rest).length < headerBytes := by
    simp only [length_append]
    omega
  rw [scan, if_neg long]
  have first : (header ++ body ++ rest).take headerBytes = header := by
    rw [append_assoc, ← size, take_left]
  split
  next error same =>
    rw [first, accepted] at same
    cases same
  next found same =>
    rw [first, accepted] at same
    cases same
    have enough : ¬(header ++ body ++ rest).length < fields.length := by
      rw [length_append]
      omega
    have frame : ((header ++ body ++ rest).take fields.length).drop headerBytes = body := by
      rw [← full, take_left, ← size, drop_left]
    have after : (header ++ body ++ rest).drop fields.length = rest := by
      rw [← full, drop_left]
    rw [if_neg enough, frame, after]
    rfl

end

/-- The decoder holds exactly the bytes `pending`, the stream after the frame boundary at `base`. -/
structure Holding (decoder : FrameDecoder) (base : Nat) (pending : Bytes) : Prop where
  opened : decoder.closed = false
  header_length : decoder.header.length = headerBytes
  filled : decoder.filled = pending.length
  offset : decoder.offset = base + pending.length
  bounded : decoder.expected ≤ maxFrameBytes
  phase : (decoder.expected = headerBytes ∧ decoder.body = [] ∧ decoder.header.take pending.length = pending) ∨
    (inspectHeader decoder.header decoder.lane decoder.revision =
        .ok ⟨decoder.expected, decoder.metadataLength, decoder.kind⟩ ∧
      pending = decoder.header ++ decoder.body.flatten)

/-- Between turns of `read` the frame is never complete: a full one has been emitted. -/
structure Pending (decoder : FrameDecoder) (base : Nat) (pending : Bytes) : Prop
    extends Holding decoder base pending where
  within : pending.length < decoder.expected

variable {decoder : FrameDecoder}

theorem Pending.scan_nothing {base : Nat} {pending : Bytes}
    (held : Pending decoder base pending) : scan decoder.lane decoder.revision base pending = ([], none) := by
  obtain ⟨header, _, _⟩ | ⟨accepted, whole⟩ := held.phase
  · exact scan_short base pending (by have := held.within; omega)
  · subst whole
    exact scan_partial base _ _ _ held.header_length accepted held.within

theorem pending_idle (decoder : FrameDecoder) (opened : decoder.closed = false)
    (size : decoder.header.length = headerBytes) : Pending decoder.resetPending decoder.offset [] where
  opened := opened
  header_length := size
  filled := rfl
  offset := rfl
  bounded := show headerBytes ≤ maxFrameBytes by decide
  phase := .inl ⟨rfl, rfl, rfl⟩
  within := show 0 < headerBytes by decide

variable {result : ReadResult}

section
variable {loop next : ReadLoop} {input pending : Bytes} {base : Nat}

theorem slice_facts (held : Pending loop.decoder base pending)
    (more : loop.consumedBytes < input.length ∧ loop.consumedBytes < maxReadBytes) :
    0 < loop.count input ∧ loop.consumedBytes + loop.count input ≤ input.length ∧
      pending.length + loop.count input ≤ loop.decoder.expected ∧
      ((input.drop loop.consumedBytes).take (loop.count input)).length = loop.count input ∧
      input.drop loop.consumedBytes = (input.drop loop.consumedBytes).take (loop.count input) ++
        input.drop (loop.consumedBytes + loop.count input) := by
  have room := held.within
  have filled := held.filled
  have count : loop.count input = min (min (loop.decoder.expected - loop.decoder.filled)
      (input.length - loop.consumedBytes)) (maxReadBytes - loop.consumedBytes) := rfl
  refine ⟨by omega, by omega, by omega, ?_, ?_⟩
  · rw [length_take, length_drop]
    omega
  · rw [← drop_drop, take_append_drop]

theorem take_holding (held : Pending loop.decoder base pending)
    (more : loop.consumedBytes < input.length ∧ loop.consumedBytes < maxReadBytes) :
    Holding (loop.take input).decoder base (pending ++ (input.drop loop.consumedBytes).take (loop.count input)) := by
  obtain ⟨_, _, room, size, _⟩ := slice_facts held more
  set slice := (input.drop loop.consumedBytes).take (loop.count input) with sliceEq
  have filled := held.filled
  have total : (pending ++ slice).length = pending.length + loop.count input := by
    rw [length_append, size]
  obtain ⟨expected, empty, kept⟩ | ⟨accepted, whole⟩ := held.phase
  · -- The slice fills the header from `filled` on and never passes its end.
    have short : loop.decoder.filled < headerBytes := by
      omega
    have written : setBytes loop.decoder.header loop.decoder.filled slice =
        pending ++ slice ++ loop.decoder.header.drop (pending.length + slice.length) := by
      rw [setBytes, filled, kept]
    refine ⟨held.opened, ?_, ?_, ?_, held.bounded, .inl ⟨expected, ?_, ?_⟩⟩
    · simp only [ReadLoop.take, if_pos short, ← sliceEq, written]
      simp only [length_append, length_drop, held.header_length]
      omega
    · simp only [ReadLoop.take, total, filled]
    · simp only [ReadLoop.take, total, held.offset, Nat.add_assoc]
    · simp only [ReadLoop.take, if_pos short, empty]
    · simp only [ReadLoop.take, if_pos short, ← sliceEq, written, take_left]
  · have long : ¬loop.decoder.filled < headerBytes := by
      rw [filled, whole, length_append, held.header_length]
      omega
    refine ⟨held.opened, ?_, ?_, ?_, held.bounded, .inr ⟨?_, ?_⟩⟩
    · simp only [ReadLoop.take, if_neg long, held.header_length]
    · simp only [ReadLoop.take, total, filled]
    · simp only [ReadLoop.take, total, held.offset, Nat.add_assoc]
    · simpa only [ReadLoop.take, if_neg long] using accepted
    · simp only [ReadLoop.take, if_neg long, appendBody_flatten, ← sliceEq, ← append_assoc, ← whole]

theorem emit_complete (held : Holding loop.decoder base pending)
    (complete : loop.decoder.filled = loop.decoder.expected) (body : loop.decoder.expected ≠ headerBytes) :
    ∃ frame, loop.emit.frames = loop.frames ++ [frame] ∧ Pending loop.emit.decoder (base + pending.length) [] ∧
      ∀ rest, scan loop.decoder.lane loop.decoder.revision base (pending ++ rest) =
        prepend [frame] (scan loop.decoder.lane loop.decoder.revision (base + pending.length) rest) := by
  obtain ⟨expected, _, _⟩ | ⟨accepted, whole⟩ := held.phase
  · exact absurd expected body
  · obtain ⟨room, _, _⟩ := inspectHeader_bounds accepted
    dsimp only at room
    have full : (loop.decoder.header ++ loop.decoder.body.flatten).length = loop.decoder.expected := by
      rw [← whole, ← held.filled, complete]
    have size : loop.decoder.body.flatten.length = loop.decoder.expected - headerBytes := by
      rw [length_append, held.header_length] at full
      omega
    have metadata := copyRange_eq loop.decoder.body 0 loop.decoder.metadataLength (by omega)
    have payload := copyRange_eq loop.decoder.body loop.decoder.metadataLength
      (loop.decoder.expected - headerBytes) (by omega)
    refine ⟨⟨loop.decoder.kind, loop.decoder.body.flatten.take loop.decoder.metadataLength,
      loop.decoder.body.flatten.drop loop.decoder.metadataLength⟩, ?_, ?_, ?_⟩
    · rw [drop_zero] at metadata
      rw [← size, take_length] at payload
      simp only [emit, if_pos complete, metadata, ← size, payload]
    · simp only [emit, if_pos complete, ← held.offset]
      exact pending_idle loop.decoder held.opened held.header_length
    · intro rest
      have step := scan_frame base loop.decoder.header loop.decoder.body.flatten rest _
        held.header_length accepted full
      rw [← whole] at step
      have boundary : base + loop.decoder.expected = base + pending.length := by
        rw [← held.filled, complete]
      simpa only [boundary] using step

/-- One turn that goes on: it takes at least a byte, delivers what it completed, and the rest of the
scan starts at the new pending bytes, whatever arrives later. -/
structure Advances (loop next : ReadLoop) (input : Bytes) (base : Nat) (pending : Bytes) : Prop where
  consumed : loop.consumedBytes < next.consumedBytes
  bounded : next.consumedBytes ≤ input.length
  lane : next.decoder.lane = loop.decoder.lane
  revision : next.decoder.revision = loop.decoder.revision
  scanned : ∃ base' pending' emitted, Pending next.decoder base' pending' ∧
    next.frames = loop.frames ++ emitted ∧
    ∀ future, scan loop.decoder.lane loop.decoder.revision base
        (pending ++ (input.drop loop.consumedBytes ++ future)) =
      prepend emitted (scan loop.decoder.lane loop.decoder.revision base'
        (pending' ++ (input.drop next.consumedBytes ++ future)))

theorem turn_advances (held : Pending loop.decoder base pending) (turned : loop.turn input = .inl next) :
    Advances loop next input base pending := by
  unfold turn at turned
  split at turned
  · cases turned
  rename_i more
  rw [not_not] at more
  split at turned
  · cases turned
  obtain ⟨positive, fits, room, size, split⟩ := slice_facts held more
  have holding := take_holding held more
  set slice := (input.drop loop.consumedBytes).take (loop.count input) with sliceEq
  have consumed : (loop.take input).consumedBytes = loop.consumedBytes + loop.count input := rfl
  have total : (pending ++ slice).length = pending.length + loop.count input := by
    rw [length_append, size]
  have moved (future : Bytes) : pending ++ (input.drop loop.consumedBytes ++ future) =
      pending ++ slice ++ (input.drop (loop.consumedBytes + loop.count input) ++ future) := by
    rw [split]
    simp only [append_assoc]
  dsimp only at turned
  split_ifs at turned with incomplete header
  · -- The frame or its header is still incomplete.
    cases turned
    refine ⟨by omega, by omega, rfl, rfl, base, pending ++ slice, [], ⟨holding, ?_⟩,
      (append_nil _).symm, ?_⟩
    · have := holding.filled
      have : (loop.take input).decoder.expected = loop.decoder.expected := rfl
      omega
    · intro future
      rw [moved, prepend_nil, consumed]
  · -- The header is complete; an accepted one announces a longer frame, so nothing is emitted yet.
    split at turned
    · cases turned
    rename_i fields accepted
    cases turned
    obtain ⟨announced, positiveMetadata, limit⟩ := inspectHeader_bounds accepted
    have filled := holding.filled
    obtain ⟨_, empty, kept⟩ | ⟨earlier, _⟩ := holding.phase
    · have headerEq : (loop.take input).decoder.header = pending ++ slice := by
        rw [← kept, take_of_length_le]
        rw [holding.header_length]
        omega
      have unchanged : ¬(loop.take input).decoder.filled = fields.length := by omega
      simp only [emit, if_neg unchanged]
      refine ⟨by dsimp only; omega, by dsimp only; omega, rfl, rfl, base, pending ++ slice, [], ?_,
        (append_nil _).symm, ?_⟩
      · refine ⟨⟨holding.opened, holding.header_length, filled, holding.offset, limit, .inr ⟨accepted, ?_⟩⟩, ?_⟩
        · simp [empty, headerEq]
        · dsimp only
          omega
      · intro future
        rw [moved, prepend_nil, consumed]
    · have := inspectHeader_bounds earlier
      dsimp only at this
      omega
  · cases turned
    rw [not_not] at incomplete
    obtain ⟨frame, frames, idle, step⟩ := emit_complete holding incomplete header
    have emitted : (loop.take input).emit.consumedBytes = loop.consumedBytes + loop.count input := by
      simp only [emit, if_pos incomplete, consumed]
    refine ⟨by omega, by omega, ?_, ?_, _, [], [frame], idle, frames, ?_⟩
    · simp only [emit, if_pos incomplete]
      rfl
    · simp only [emit, if_pos incomplete]
      rfl
    · intro future
      rw [moved, emitted]
      exact step _

/-- A turn that ends the call because a header is malformed: the scan ends there too. -/
theorem turn_fails (held : Pending loop.decoder base pending)
    (turned : loop.turn input = .inr (decoder, result)) (failed : result.status = .error) :
    decoder.closed = true ∧ result.frames = loop.frames ∧
      loop.consumedBytes < result.consumedBytes ∧ result.consumedBytes ≤ input.length ∧
      ∃ error, result.error = some error ∧ ∀ future, scan loop.decoder.lane loop.decoder.revision base
        (pending ++ (input.drop loop.consumedBytes ++ future)) = ([], some error) := by
  have stops : (loop.finished input).2.status ≠ .error := by
    unfold finished
    dsimp only
    split <;> decide
  unfold turn at turned
  split at turned
  · cases turned
    exact absurd failed stops
  rename_i more
  rw [not_not] at more
  split at turned
  · cases turned
    exact absurd failed stops
  obtain ⟨positive, fits, _, _, split⟩ := slice_facts held more
  have holding := take_holding held more
  set slice := (input.drop loop.consumedBytes).take (loop.count input)
  have consumed : (loop.take input).consumedBytes = loop.consumedBytes + loop.count input := rfl
  dsimp only at turned
  split_ifs at turned with incomplete header
  rw [not_not] at incomplete
  split at turned
  · rename_i error refused
    cases turned
    refine ⟨rfl, rfl, by dsimp only; omega, by dsimp only; omega, _, rfl, ?_⟩
    intro future
    obtain ⟨_, _, kept⟩ | ⟨earlier, _⟩ := holding.phase
    · have full : (pending ++ slice).length = headerBytes := by
        rw [← holding.filled, incomplete, header]
      have headerEq : (loop.take input).decoder.header = pending ++ slice := by
        rw [← kept, take_of_length_le]
        rw [holding.header_length, full]
      rw [headerEq] at refused
      have stopped := scan_malformed base (pending ++ slice)
        (input.drop (loop.consumedBytes + loop.count input) ++ future) error full refused
      rw [split, append_assoc, ← append_assoc pending]
      rw [holding.offset, full]
      exact stopped
    · rw [refused] at earlier
      cases earlier
  · cases turned

def Exhausted (loop : ReadLoop) (input : Bytes) : Prop :=
  ¬(loop.consumedBytes < input.length ∧ loop.consumedBytes < maxReadBytes) ∨
    loop.frames.length ≥ maxReadFrames ∨ loop.emittedBytes + loop.decoder.expected > maxReadBytes

theorem turn_stops (turned : loop.turn input = .inr (decoder, result)) (finished : result.status ≠ .error) :
    decoder = loop.decoder ∧ result.frames = loop.frames ∧ result.consumedBytes = loop.consumedBytes ∧
      result.error = none ∧ Exhausted loop input := by
  unfold turn at turned
  split at turned
  · rename_i ended
    cases turned
    exact ⟨rfl, rfl, rfl, rfl, .inl ended⟩
  split at turned
  · rename_i limited
    cases turned
    exact ⟨rfl, rfl, rfl, rfl, .inr limited⟩
  dsimp only at turned
  split_ifs at turned
  split at turned
  · cases turned
    exact absurd rfl finished
  · cases turned

/-- What one call of `read` returns, as the scan sees it. -/
structure Reads (decoder : FrameDecoder) (unread : Bytes) (base : Nat) (pending : Bytes)
    (after : FrameDecoder) (consumed : Nat) (frames : List ByteFrame) (error : Option ProtocolFailure) : Prop where
  bounded : consumed ≤ unread.length
  lane : after.closed = false → after.lane = decoder.lane ∧ after.revision = decoder.revision
  scanned : (error = none ∧ ∃ base' pending', Pending after base' pending' ∧
      ∀ future, scan decoder.lane decoder.revision base (pending ++ (unread ++ future)) =
        prepend frames (scan decoder.lane decoder.revision base'
          (pending' ++ (unread.drop consumed ++ future)))) ∨
    (after.closed = true ∧ error.isSome ∧
      ∀ future, scan decoder.lane decoder.revision base (pending ++ (unread ++ future)) = (frames, error))

theorem readFrom_reads (fuel : Nat) (input : Bytes) (loop : ReadLoop) (held : Pending loop.decoder base pending)
    (within : loop.consumedBytes ≤ input.length) (enough : input.length - loop.consumedBytes < fuel) :
    ∃ after result emitted, readFrom input fuel loop = some (after, result) ∧
      result.frames = loop.frames ++ emitted ∧ loop.consumedBytes ≤ result.consumedBytes ∧
      (loop.consumedBytes < result.consumedBytes ∨ Exhausted loop input) ∧
      Reads loop.decoder (input.drop loop.consumedBytes) base pending after
        (result.consumedBytes - loop.consumedBytes) emitted result.error := by
  induction fuel generalizing loop base pending with
  | zero => omega
  | succ fuel ih =>
    cases turned : loop.turn input with
    | inl next =>
      have step := turn_advances held turned
      obtain ⟨base', pending', emitted, held', frames, scanned⟩ := step.scanned
      have consumed := step.consumed
      obtain ⟨after, result, more, returned, allFrames, further, _, reads⟩ := ih next held' step.bounded (by
        have := step.bounded
        omega)
      have remaining : (input.drop loop.consumedBytes).drop (result.consumedBytes - loop.consumedBytes) =
          (input.drop next.consumedBytes).drop (result.consumedBytes - next.consumedBytes) := by
        rw [drop_drop, drop_drop]
        congr 1
        omega
      refine ⟨after, result, emitted ++ more, by simp only [readFrom, turned, returned], ?_, by omega,
        .inl (by omega), ?_, ?_, ?_⟩
      · rw [allFrames, frames, append_assoc]
      · have bounded := reads.bounded
        have fits := step.bounded
        simp only [length_drop] at bounded ⊢
        omega
      · intro opened
        rw [← step.lane, ← step.revision]
        exact reads.lane opened
      · obtain ⟨clean, base'', pending'', held'', rest⟩ | ⟨closed, failed, rest⟩ := reads.scanned
        · refine .inl ⟨clean, base'', pending'', held'', ?_⟩
          intro future
          rw [scanned future, ← step.lane, ← step.revision, rest future, prepend_prepend, remaining]
        · refine .inr ⟨closed, failed, ?_⟩
          intro future
          rw [scanned future, ← step.lane, ← step.revision, rest future]
          rfl
    | inr returned =>
      obtain ⟨after, result⟩ := returned
      refine ⟨after, result, [], by simp only [readFrom, turned], ?_⟩
      by_cases failed : result.status = .error
      · obtain ⟨closed, frames, further, fits, error, found, scanned⟩ := turn_fails held turned failed
        refine ⟨by rw [frames, append_nil], by omega, .inl further, ?_, ?_, .inr ⟨closed, by rw [found]; rfl, ?_⟩⟩
        · rw [length_drop]
          omega
        · intro opened
          rw [closed] at opened
          cases opened
        · intro future
          rw [found]
          exact scanned future
      · obtain ⟨same, frames, consumed, clean, exhausted⟩ := turn_stops turned failed
        subst same
        refine ⟨by rw [frames, append_nil], by omega, .inr exhausted, by omega, fun _ => ⟨rfl, rfl⟩,
          .inl ⟨clean, base, pending, held, ?_⟩⟩
        intro future
        rw [consumed, Nat.sub_self, drop_zero, prepend_nil]

end

/-- A call of `read` on an open decoder returns, agrees with the scan and takes something of a
nonempty input. -/
theorem read_reads {base : Nat} {pending : Bytes} (held : Pending decoder base pending) (input : Bytes) :
    ∃ after result, decoder.read input = some (after, result) ∧
      Reads decoder input base pending after result.consumedBytes result.frames result.error ∧
      (input ≠ [] → 0 < result.consumedBytes) := by
  obtain ⟨after, result, emitted, returned, frames, _, progress, reads⟩ :=
    readFrom_reads (input.length + 1) input ⟨decoder, [], 0, 0⟩ held zero_le
      (by omega)
  refine ⟨after, result, ?_, ?_, ?_⟩
  · simp only [FrameDecoder.read, held.opened, Bool.false_eq_true, if_false, returned]
  · rw [nil_append] at frames
    simpa only [frames, drop_zero, Nat.sub_zero] using reads
  · intro some_input
    have long := length_pos_of_ne_nil some_input
    obtain further | ended | many | large := progress
    · exact further
    · exact absurd ⟨long, show 0 < maxReadBytes by decide⟩ ended
    · exact absurd many (show ¬0 ≥ maxReadFrames by decide)
    · have small := held.bounded
      simp only [maxReadBytes, maxFrameBytes, headerBytes, maxMetadataBytes, maxPayloadBytes] at large small
      omega

/-! The caller owns what a call did not take and submits it again in front of the next bytes. -/

structure Caller where
  decoder : FrameDecoder
  unconsumed : Bytes
  frames : List ByteFrame
  error : Option ProtocolFailure

variable (lane : UInt8) (revision : Nat)

def Caller.new : Caller :=
  ⟨FrameDecoder.new lane revision, [], [], none⟩

variable (caller : Caller)

/-- One call of `read` on the unconsumed suffix and the next bytes. The first error is kept. -/
def Caller.submit (bytes : Bytes) : Option Caller := do
  let input := caller.unconsumed ++ bytes
  let (decoder, result) ← caller.decoder.read input
  some ⟨decoder, input.drop result.consumedBytes, caller.frames ++ result.frames,
    caller.error.or result.error⟩

theorem Caller.submit_eq {caller : Caller} {bytes : Bytes}
    (returned : caller.decoder.read (caller.unconsumed ++ bytes) = some (decoder, result)) :
    caller.submit bytes = some ⟨decoder, (caller.unconsumed ++ bytes).drop result.consumedBytes,
      caller.frames ++ result.frames, caller.error.or result.error⟩ := by
  simp only [Caller.submit, returned, bind_eq_bind, bind_some]

def Caller.run (caller : Caller) : List Bytes → Option Caller
  | [] => some caller
  | bytes :: rest => do
      let next ← caller.submit bytes
      next.run rest

theorem Caller.run_append (cuts more : List Bytes) :
    caller.run (cuts ++ more) = (caller.run cuts).bind (fun next => next.run more) := by
  induction cuts generalizing caller with
  | nil => rfl
  | cons bytes rest ih =>
    simp only [cons_append, Caller.run]
    cases caller.submit bytes with
    | none => rfl
    | some next => exact ih next

theorem run_unconsumed {caller last : Caller} {cuts : List Bytes} (ran : caller.run cuts = some last) :
    last.unconsumed.length ≤ caller.unconsumed.length + cuts.flatten.length := by
  induction cuts generalizing caller with
  | nil =>
    cases ran
    simp
  | cons bytes rest ih =>
    simp only [Caller.run, Caller.submit] at ran
    cases returned : caller.decoder.read (caller.unconsumed ++ bytes) with
    | none => simp [returned] at ran
    | some =>
      simp only [returned] at ran
      have bound := ih ran
      simp only [length_drop, length_append, flatten_cons] at bound ⊢
      omega

/-- The caller after submitting `stream`: either the decoder is open and the scan goes on from its
pending bytes, or it has failed exactly where the scan fails. -/
def Follows (stream : Bytes) : Prop :=
  (caller.error = none ∧ caller.decoder.lane = lane ∧ caller.decoder.revision = revision ∧
    ∃ base pending, Pending caller.decoder base pending ∧
      ∀ future, scan lane revision 0 (stream ++ future) =
        prepend caller.frames (scan lane revision base (pending ++ (caller.unconsumed ++ future)))) ∨
  (caller.decoder.closed = true ∧ caller.error.isSome ∧
    ∀ future, scan lane revision 0 (stream ++ future) = (caller.frames, caller.error))

section
variable {lane : UInt8} {revision : Nat} {caller : Caller} {stream : Bytes}

theorem follows_new (lane : UInt8) (revision : Nat) : Follows lane revision (Caller.new lane revision) [] := by
  have idle := pending_idle (FrameDecoder.new lane revision) rfl rfl
  exact .inl ⟨rfl, rfl, rfl, 0, [], idle, fun future => rfl⟩

/-- One submission keeps in step with the scan; it leaves less than it was given, unless the stream
has failed. -/
theorem submit_follows (follows : Follows lane revision caller stream) (bytes : Bytes) :
    ∃ next, caller.submit bytes = some next ∧ Follows lane revision next (stream ++ bytes) ∧
      (next.decoder.closed = true ∨ next.unconsumed.length ≤ (caller.unconsumed ++ bytes).length - 1) := by
  obtain ⟨clean, rfl, rfl, base, pending, held, scanned⟩ | ⟨closed, failed, scanned⟩ := follows
  · obtain ⟨after, result, returned, reads, progress⟩ := read_reads held (caller.unconsumed ++ bytes)
    have joined (future : Bytes) : scan caller.decoder.lane caller.decoder.revision 0 (stream ++ bytes ++ future) =
        prepend caller.frames (scan caller.decoder.lane caller.decoder.revision base
          (pending ++ (caller.unconsumed ++ bytes ++ future))) := by
      rw [append_assoc, scanned, append_assoc caller.unconsumed]
    refine ⟨_, Caller.submit_eq returned, ?_, ?_⟩
    · obtain ⟨fine, base', pending', held', rest⟩ | ⟨closed, failed, rest⟩ := reads.scanned
      · obtain ⟨lane, revision⟩ := reads.lane held'.opened
        refine .inl ⟨by simp [clean, fine], lane, revision, base', pending', held', ?_⟩
        intro future
        rw [joined, rest, prepend_prepend]
      · refine .inr ⟨closed, by simpa [clean] using failed, ?_⟩
        intro future
        rw [joined, rest]
        simp [prepend, clean]
    · rw [length_drop]
      by_cases empty : caller.unconsumed ++ bytes = []
      · rw [empty]
        simp
      · have further := progress empty
        omega
  · -- A closed decoder takes nothing and delivers nothing.
    have refused : caller.decoder.read (caller.unconsumed ++ bytes) = some (caller.decoder,
        ⟨0, [], .error, some ⟨.decoderClosed, caller.decoder.offset⟩⟩) := by
      simp only [FrameDecoder.read, closed, if_true]
    refine ⟨_, Caller.submit_eq refused, .inr ⟨closed, by simp, ?_⟩, .inl closed⟩
    intro future
    rw [append_assoc, scanned]
    obtain ⟨error, found⟩ := isSome_iff_exists.mp failed
    simp [found]

theorem run_follows (follows : Follows lane revision caller stream) (cuts : List Bytes) :
    ∃ next, caller.run cuts = some next ∧ Follows lane revision next (stream ++ cuts.flatten) := by
  induction cuts generalizing caller stream with
  | nil => exact ⟨caller, rfl, by simpa using follows⟩
  | cons bytes rest ih =>
    obtain ⟨next, submitted, follows', _⟩ := submit_follows follows bytes
    obtain ⟨last, ran, final⟩ := ih follows'
    refine ⟨last, by simp only [Caller.run, submitted, bind_eq_bind, bind_some, ran], ?_⟩
    simpa only [flatten_cons, append_assoc] using final

theorem run_resubmits (turns : Nat) (follows : Follows lane revision caller stream)
    (enough : caller.decoder.closed = true ∨ caller.unconsumed.length ≤ turns) :
    ∃ next, caller.run (List.replicate turns []) = some next ∧ Follows lane revision next stream ∧
      (next.decoder.closed = true ∨ next.unconsumed = []) := by
  induction turns generalizing caller with
  | zero =>
    refine ⟨caller, rfl, follows, enough.imp_right ?_⟩
    intro none
    exact eq_nil_of_length_eq_zero (Nat.le_zero.mp none)
  | succ turns ih =>
    obtain ⟨next, submitted, follows', progress⟩ := submit_follows follows []
    rw [append_nil] at follows' progress
    have fewer : next.decoder.closed = true ∨ next.unconsumed.length ≤ turns := by
      obtain closed | short := enough
      · -- A closed decoder stays closed.
        simp only [Caller.submit, FrameDecoder.read, closed, if_true, bind_eq_bind,
          bind_some, Option.some.injEq] at submitted
        subst submitted
        exact .inl closed
      · exact progress.imp_right (fun less => by omega)
    obtain ⟨last, ran, final⟩ := ih follows' fewer
    refine ⟨last, ?_, final⟩
    simp only [replicate_succ, Caller.run, submitted, bind_eq_bind, bind_some, ran]

theorem Follows.settled (follows : Follows lane revision caller stream)
    (ended : caller.decoder.closed = true ∨ caller.unconsumed = []) :
    scan lane revision 0 stream = (caller.frames, caller.error) := by
  obtain ⟨clean, rfl, rfl, base, pending, held, scanned⟩ | ⟨closed, failed, scanned⟩ := follows
  · obtain closed | empty := ended
    · have opened := held.opened
      rw [closed] at opened
      cases opened
    · have whole := scanned []
      rw [empty, append_nil, append_nil, append_nil, held.scan_nothing] at whole
      rw [whole, clean]
      simp [prepend]
  · simpa using scanned []

/-- However far the caller has come, it has delivered a prefix of the stream's frames, and all of
them once it has reported a failure. -/
theorem Follows.delivered (follows : Follows lane revision caller stream) :
    caller.frames <+: (scan lane revision 0 stream).1 ∧
      ∀ error, caller.error = some error → scan lane revision 0 stream = (caller.frames, some error) := by
  obtain ⟨clean, rfl, rfl, base, pending, held, scanned⟩ | ⟨closed, failed, scanned⟩ := follows
  · have whole := scanned []
    rw [append_nil] at whole
    constructor
    · rw [whole]
      exact prefix_append _ _
    · intro error found
      rw [clean] at found
      cases found
  · have whole := scanned []
    rw [append_nil] at whole
    rw [whole]
    exact ⟨prefix_rfl, fun error found => by rw [found]⟩

/-- Any cutting of a stream, with its rest submitted again until nothing is left, delivers the scan. -/
theorem run_scan (lane : UInt8) (revision : Nat) (cuts : List Bytes) (turns : Nat)
    (enough : cuts.flatten.length ≤ turns) :
    ∃ caller, (Caller.new lane revision).run (cuts ++ List.replicate turns []) = some caller ∧
      (caller.decoder.closed = true ∨ caller.unconsumed = []) ∧
      scan lane revision 0 cuts.flatten = (caller.frames, caller.error) := by
  obtain ⟨middle, ran, follows⟩ := run_follows (follows_new lane revision) cuts
  have short : middle.unconsumed.length ≤ cuts.flatten.length := by
    simpa [Caller.new] using run_unconsumed ran
  obtain ⟨last, resubmitted, final, ended⟩ := run_resubmits turns follows (.inr (by omega))
  refine ⟨last, ?_, ended, final.settled ended⟩
  rw [Caller.run_append, ran]
  exact resubmitted

end

/-! The encoder: its frames are what the scan finds. -/

theorem uint32_setUint32 (before after : Bytes) (value : Nat) (bound : value < 2 ^ 32) :
    uint32 (before ++ setUint32 value ++ after) before.length = value := by
  have digit (index : Nat) : byteAt (before ++ setUint32 value ++ after) (before.length + index) =
      byteAt (setUint32 value ++ after) index := by
    simp only [byteAt, append_assoc, getD_eq_getElem?_getD]
    rw [getElem?_append_right (Nat.le_add_right _ _), Nat.add_sub_cancel_left]
  have first := digit 0
  have second := digit 1
  have third := digit 2
  have fourth := digit 3
  rw [Nat.add_zero] at first
  simp only [setUint32, byteAt, cons_append, getD_cons_zero,
    getD_cons_succ, UInt8.toNat_ofNat', Nat.shiftRight_eq_div_pow] at first second third fourth
  simp only [uint32, byteAt, setUint32, Nat.shiftRight_eq_div_pow]
  omega

def encodedHeader (revision kind metadataLength payloadLength : Nat) : Bytes :=
  [0x43, 0x50, lane, UInt8.ofNat revision, UInt8.ofNat kind, 0, 0, 0] ++
    setUint32 metadataLength ++ setUint32 payloadLength

theorem encodedHeader_length (revision kind metadataLength payloadLength : Nat) :
    (encodedHeader lane revision kind metadataLength payloadLength).length = headerBytes := rfl

theorem inspectHeader_encodedHeader (kind : FrameKind)
    (metadataLength payloadLength : Nat) (format : 1 ≤ revision ∧ revision ≤ 255)
    (metadata : 1 ≤ metadataLength ∧ metadataLength ≤ maxMetadataBytes) (payload : payloadLength ≤ maxPayloadBytes) :
    inspectHeader (encodedHeader lane revision kind.code metadataLength payloadLength) lane revision =
      .ok ⟨headerBytes + metadataLength + payloadLength, metadataLength, kind⟩ := by
  have limits : maxMetadataBytes = 4096 ∧ maxPayloadBytes = 65536 := ⟨rfl, rfl⟩
  have metadataField : uint32 (encodedHeader lane revision kind.code metadataLength payloadLength) 8 =
      metadataLength :=
    uint32_setUint32 [0x43, 0x50, lane, UInt8.ofNat revision, UInt8.ofNat kind.code, 0, 0, 0]
      (setUint32 payloadLength) metadataLength (by omega)
  have payloadField : uint32 (encodedHeader lane revision kind.code metadataLength payloadLength) 12 =
      payloadLength := by
    have field := uint32_setUint32 ([0x43, 0x50, lane, UInt8.ofNat revision, UInt8.ofNat kind.code, 0, 0, 0] ++
      setUint32 metadataLength) [] payloadLength (by omega)
    rw [append_nil] at field
    exact field
  have revisionByte : byteAt (encodedHeader lane revision kind.code metadataLength payloadLength) 3 =
      revision := by
    change (UInt8.ofNat revision).toNat = revision
    rw [UInt8.toNat_ofNat']
    omega
  have kindByte : byteAt (encodedHeader lane revision kind.code metadataLength payloadLength) 4 =
      kind.code := by
    change (UInt8.ofNat kind.code).toNat = kind.code
    cases kind <;> rfl
  have fixed : ¬(byteAt (encodedHeader lane revision kind.code metadataLength payloadLength) 0 ≠ 0x43 ∨
      byteAt (encodedHeader lane revision kind.code metadataLength payloadLength) 1 ≠ 0x50 ∨
      byteAt (encodedHeader lane revision kind.code metadataLength payloadLength) 5 ≠ 0 ∨
      byteAt (encodedHeader lane revision kind.code metadataLength payloadLength) 6 ≠ 0 ∨
      byteAt (encodedHeader lane revision kind.code metadataLength payloadLength) 7 ≠ 0) := by
    rintro (h | h | h | h | h) <;> exact h rfl
  have matching : ¬(byteAt (encodedHeader lane revision kind.code metadataLength payloadLength) 2 ≠ lane.toNat ∨
      byteAt (encodedHeader lane revision kind.code metadataLength payloadLength) 3 ≠ revision) := by
    rintro (h | h)
    · exact h rfl
    · exact h revisionByte
  have small : ¬(metadataLength < 1 ∨ metadataLength > maxMetadataBytes ∨ payloadLength > maxPayloadBytes) := by
    omega
  have whole : ¬headerBytes + metadataLength + payloadLength > maxFrameBytes := by
    unfold maxFrameBytes
    omega
  simp only [inspectHeader, if_neg fixed, if_neg matching, kindByte, FrameKind.ofCode_code,
    metadataField, payloadField, if_neg small, if_neg whole]

theorem encodeFrame_ok {lane : UInt8} {revision : Nat} {kind : FrameKind} {metadata payload bytes : Bytes}
    (accepted : encodeFrame lane revision kind.code metadata payload = .ok bytes) :
    (1 ≤ revision ∧ revision ≤ 255) ∧ (1 ≤ metadata.length ∧ metadata.length ≤ maxMetadataBytes) ∧
      payload.length ≤ maxPayloadBytes ∧
      bytes = encodedHeader lane revision kind.code metadata.length payload.length ++ (metadata ++ payload) := by
  simp only [encodeFrame, Frame.failure] at accepted
  split_ifs at accepted with format unknown limits
  cases accepted
  refine ⟨by omega, by omega, by omega, ?_⟩
  simp only [encodedHeader, append_assoc]

def encodeFrames (lane : UInt8) (revision : Nat) : List ByteFrame → ProtocolResult Bytes
  | [] => .ok []
  | frame :: rest => do
      let bytes ← encodeFrame lane revision frame.kind.code frame.metadata frame.payload
      let more ← encodeFrames lane revision rest
      .ok (bytes ++ more)

theorem scan_encodeFrames {lane : UInt8} {revision : Nat} {frames : List ByteFrame} {stream : Bytes}
    (accepted : encodeFrames lane revision frames = .ok stream) (base : Nat) :
    scan lane revision base stream = (frames, none) := by
  induction frames generalizing stream base with
  | nil =>
    cases accepted
    exact scan_short base [] (by decide)
  | cons frame rest ih =>
    simp only [encodeFrames] at accepted
    cases head : encodeFrame lane revision frame.kind.code frame.metadata frame.payload with
    | error =>
      rw [head] at accepted
      cases accepted
    | ok =>
      cases tail : encodeFrames lane revision rest with
      | error =>
        rw [head, tail] at accepted
        cases accepted
      | ok more =>
        rw [head, tail] at accepted
        cases accepted
        obtain ⟨format, metadata, payload, rfl⟩ := encodeFrame_ok head
        have header := inspectHeader_encodedHeader lane revision frame.kind _ _ format metadata payload
        have first := scan_frame base _ (frame.metadata ++ frame.payload) more _ rfl header (by
          rw [length_append, length_append, encodedHeader_length, Nat.add_assoc])
        rw [first, ih tail]
        simp [prepend]

/-- Frames written by `encodeFrame` come back from `FrameDecoder` in order and byte for byte, however
their bytes are cut into reads, once the rest has been submitted again often enough. On any stream at
all, what is delivered is a prefix of the stream's frames, and a malformed header is reported only
with every complete frame in front of it. -/
theorem frame_stream_round_trip (lane : UInt8) (revision : Nat) :
    (∀ (frames : List ByteFrame) (stream : Bytes), encodeFrames lane revision frames = .ok stream →
      ∀ (cuts : List Bytes), cuts.flatten = stream → ∀ turns, stream.length ≤ turns →
        ∃ caller, (Caller.new lane revision).run (cuts ++ List.replicate turns []) = some caller ∧
          caller.frames = frames ∧ caller.unconsumed = [] ∧ caller.error = none) ∧
    (∀ cuts : List Bytes, ∃ caller, (Caller.new lane revision).run cuts = some caller ∧
      caller.frames <+: (scan lane revision 0 cuts.flatten).1 ∧ ∀ error, caller.error = some error →
        scan lane revision 0 cuts.flatten = (caller.frames, some error)) := by
  constructor
  · rintro frames stream accepted cuts rfl turns enough
    obtain ⟨caller, ran, ended, whole⟩ := run_scan lane revision cuts turns enough
    rw [scan_encodeFrames accepted 0, Prod.mk.injEq] at whole
    obtain ⟨delivered, clean⟩ := whole
    refine ⟨caller, ran, delivered.symm, ?_, clean.symm⟩
    obtain ⟨next, ran', follows⟩ := run_follows (follows_new lane revision) (cuts ++ List.replicate turns [])
    rw [ran] at ran'
    cases ran'
    obtain ⟨_, _, _, base, pending, held, _⟩ | ⟨_, failed, _⟩ := follows
    · exact ended.resolve_left (by rw [held.opened]; decide)
    · rw [← clean] at failed
      cases failed
  · intro cuts
    obtain ⟨caller, ran, follows⟩ := run_follows (follows_new lane revision) cuts
    exact ⟨caller, ran, follows.delivered⟩

/-- Two frames, cut inside the first header and inside the second body. -/
theorem frame_stream_round_trip_two : ∃ caller, (Caller.new 4 2).run
        ([[0x43, 0x50, 4], [2, 1, 0, 0, 0, 0, 0, 0, 1, 0, 0, 0, 0, 7, 0x43, 0x50, 4, 2, 3, 0, 0, 0, 0, 0, 0, 1, 0, 0,
          0, 2, 8, 9], [10]] ++ List.replicate 36 []) = some caller ∧
      caller.frames = [⟨.command, [7], []⟩, ⟨.event, [8], [9, 10]⟩] ∧ caller.unconsumed = [] ∧ caller.error = none :=
  (frame_stream_round_trip 4 2).1 [⟨.command, [7], []⟩, ⟨.event, [8], [9, 10]⟩] _ rfl _ rfl 36 (by decide)

end Cove.Protocol.FrameStream
