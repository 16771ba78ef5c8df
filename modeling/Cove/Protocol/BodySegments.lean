import Cove.Protocol.FrameStream

/-!
The segments in which the decoder keeps the body of a frame. A slice absorbs the segments behind it that are at most
twice as long, so that every segment is more than twice the next.
-/

namespace Cove.Protocol.FrameStream
open Protocol.Frame List

def Halving (body : List Bytes) : Prop := body.IsChain (fun segment next => 2 * next.length < segment.length)

variable {body : List Bytes}

/-- The search stops at a segment longer than twice all that is absorbed. -/
theorem mergeFrom_spec {first : Nat} (within : first ≤ body.length) (size : Nat) :
    mergeFrom body first size ≤ first ∧ ∀ last, mergeFrom body first size = last + 1 →
      2 * (((body.take first).drop (last + 1)).flatten.length + size) < (body.getD last []).length := by
  induction first generalizing size with
  | zero => simp [mergeFrom]
  | succ first ih =>
    have split : body.take (first + 1) = body.take first ++ [body.getD first []] := by
      rw [take_add_one, getD_eq_getElem?_getD, getElem?_eq_getElem within]
      rfl
    rw [mergeFrom]
    split_ifs with absorbed
    · obtain ⟨below, stops⟩ := ih (by omega) (size + (body.getD first []).length)
      refine ⟨by omega, fun last found => ?_⟩
      have longer := stops last found
      rw [split, drop_append_of_le_length (by rw [length_take]; omega), flatten_append, length_append]
      simp only [flatten_singleton]
      omega
    · refine ⟨le_rfl, fun last found => ?_⟩
      obtain rfl : first = last := by omega
      rw [drop_of_length_le (by simp)]
      simpa using absorbed

theorem appendBody_halving (halving : Halving body) (slice : Bytes) : Halving (appendBody body slice) := by
  obtain ⟨below, stops⟩ := mergeFrom_spec (le_refl body.length) slice.length
  unfold appendBody Halving
  refine isChain_append.mpr ⟨halving.take _, .singleton _, ?_⟩
  intro segment last merged only
  obtain rfl : _ = merged := by simpa using only
  cases found : mergeFrom body body.length slice.length with
  | zero => simp [found] at last
  | succ index =>
    have longer := stops index found
    rw [take_length, getD_eq_getElem?_getD] at longer
    have known : index < body.length := by omega
    simp only [found, getLast?_take, Nat.add_sub_cancel, getElem?_eq_getElem known] at last longer
    obtain rfl : body[index] = segment := by simpa using last
    simpa using longer

theorem Halving.pow_le {first : Bytes} (halving : Halving (first :: body)) : 2 ^ body.length ≤ first.length + 1 := by
  induction body generalizing first with
  | nil => simp
  | cons next rest ih =>
    obtain ⟨longer, others⟩ := isChain_cons_cons.mp halving
    have bound := ih others
    rw [length_cons, pow_succ]
    omega

theorem Halving.length_le (halving : Halving body) : body.length ≤ Nat.log 2 (body.flatten.length + 1) + 1 := by
  cases body with
  | nil => simp
  | cons first rest =>
    have bound : 2 ^ rest.length ≤ (first :: rest).flatten.length + 1 := by
      rw [flatten_cons, length_append]
      exact halving.pow_le.trans (by omega)
    exact Nat.succ_le_succ (Nat.le_log_of_pow_le (by decide) bound)

/-! Every body the decoder holds has been appended slice by slice. -/

def appended (chunks : List Bytes) : List Bytes := chunks.foldl appendBody []

theorem appended_snoc (chunks : List Bytes) (slice : Bytes) :
    appended (chunks ++ [slice]) = appendBody (appended chunks) slice := by
  simp [appended, foldl_append]

theorem appended_halving (chunks : List Bytes) : Halving (appended chunks) := by
  induction chunks using reverseRecOn with
  | nil => exact .nil
  | append_singleton chunks slice ih =>
    rw [appended_snoc]
    exact appendBody_halving ih slice

theorem appended_flatten (chunks : List Bytes) : (appended chunks).flatten = chunks.flatten := by
  induction chunks using reverseRecOn with
  | nil => rfl
  | append_singleton chunks slice ih => rw [appended_snoc, appendBody_flatten, ih, flatten_append, flatten_singleton]

/-- What a decoder holds of a body are the last bytes it has received. -/
structure Kept (received : Bytes) (decoder : FrameDecoder) : Prop where
  body : ∃ chunks, decoder.body = appended chunks ∧ chunks.flatten <:+ received
  header : decoder.filled < headerBytes → decoder.body = []
  closed : decoder.closed = true → decoder.filled = 0 ∧ decoder.body = []

theorem Kept.empty {received : Bytes} {decoder : FrameDecoder} (filled : decoder.filled = 0) (body : decoder.body = []) :
    Kept received decoder :=
  ⟨⟨[], body, nil_suffix⟩, fun _ => body, fun _ => ⟨filled, body⟩⟩

variable {loop : ReadLoop} {received input : Bytes}

def Reading (received input : Bytes) (loop : ReadLoop) : Prop :=
  Kept (received ++ input.take loop.consumedBytes) loop.decoder ∧ loop.decoder.closed = false

theorem take_reading (reading : Reading received input loop) : Reading received input (loop.take input) := by
  obtain ⟨kept, opened⟩ := reading
  refine ⟨⟨?_, ?_, fun closed => by cases opened.symm.trans closed⟩, opened⟩
  · obtain ⟨chunks, body, last⟩ := kept.body
    simp only [ReadLoop.take]
    split_ifs with header
    · exact ⟨[], kept.header header, nil_suffix⟩
    · refine ⟨chunks ++ [_], by rw [appended_snoc, body], ?_⟩
      rw [take_add, ← append_assoc, flatten_append, flatten_singleton]
      exact suffix_append_self_iff.mpr last
  · intro header
    simp only [ReadLoop.take] at header ⊢
    have before : loop.decoder.filled < headerBytes := by omega
    rw [if_pos before]
    exact kept.header before

theorem emit_reading (reading : Reading received input loop) : Reading received input loop.emit := by
  unfold ReadLoop.emit
  dsimp only
  split
  · exact ⟨.empty rfl rfl, reading.2⟩
  · exact reading

theorem readFrom_kept {fuel : Nat} {decoder : FrameDecoder} {result : ReadResult} (reading : Reading received input loop)
    (returned : readFrom input fuel loop = some (decoder, result)) :
    Kept (received ++ input.take result.consumedBytes) decoder := by
  induction fuel generalizing loop with
  | zero => cases returned
  | succ fuel ih =>
    have taken : Reading received input (loop.take input) := take_reading reading
    simp only [readFrom, ReadLoop.turn] at returned
    split at returned
    · rename_i turned
      split_ifs at turned
      · cases turned
        exact ih taken returned
      · split at turned <;> cases turned
        refine ih (emit_reading ?_) returned
        exact ⟨{ taken.1 with }, taken.2⟩
      · cases turned
        exact ih (emit_reading taken) returned
    · rename_i turned
      cases returned
      split_ifs at turned
      · cases turned
        exact reading.1
      · split at turned <;> cases turned
        exact .empty rfl rfl
      · cases turned
        exact reading.1

theorem run_kept {caller next : Caller} {stream : Bytes} (split : received ++ caller.unconsumed = stream)
    (kept : Kept received caller.decoder) {cuts : List Bytes} (ran : caller.run cuts = some next) :
    ∃ last, last ++ next.unconsumed = stream ++ cuts.flatten ∧ Kept last next.decoder := by
  induction cuts generalizing caller received stream with
  | nil =>
    cases ran
    exact ⟨received, by simpa using split, kept⟩
  | cons bytes rest ih =>
    obtain ⟨middle, submitted, ran⟩ := Option.bind_eq_some_iff.mp ran
    obtain ⟨⟨decoder, result⟩, returned, same⟩ := Option.bind_eq_some_iff.mp submitted
    cases same
    have joined : received ++ (caller.unconsumed ++ bytes).take result.consumedBytes ++
        (caller.unconsumed ++ bytes).drop result.consumedBytes = stream ++ bytes := by
      rw [append_assoc, take_append_drop, ← append_assoc, split]
    rw [flatten_cons, ← append_assoc]
    refine ih joined ?_ ran
    unfold FrameDecoder.read at returned
    split at returned
    · cases returned
      simpa using kept
    next opened =>
      have reading : Reading received (caller.unconsumed ++ bytes) ⟨caller.decoder, [], 0, 0⟩ :=
        ⟨by simpa using kept, by simpa using opened⟩
      exact readFrom_kept reading returned

theorem Pending.filled_eq {decoder : FrameDecoder} {base : Nat} {pending : Bytes} (held : Pending decoder base pending) :
    decoder.body.flatten.length = decoder.filled - headerBytes := by
  have filled := held.filled
  have within := held.within
  obtain ⟨header, body, _⟩ | ⟨_, rfl⟩ := held.phase
  · rw [body, flatten_nil, length_nil]
    omega
  · rw [length_append, held.header_length] at filled
    omega

theorem Pending.storage {decoder : FrameDecoder} {base : Nat} {pending : Bytes} (held : Pending decoder base pending) :
    decoder.storageBytes = (if decoder.filled = 0 then 0 else headerBytes) + decoder.body.flatten.length := by
  rw [held.filled_eq, FrameDecoder.storageBytes]
  split_ifs <;> omega

/-- What a decoder holds of a frame's body, whatever was submitted to it, has been appended in chunks whose bytes are the
last ones it has taken; of any chunks, the segments kept are the bytes of the chunks and few, and the storage reported is
theirs and the header's. -/
theorem body_segments_logarithmic (lane : UInt8) (revision : Nat) :
    (∀ chunks : List Bytes, (appended chunks).flatten = chunks.flatten ∧ Halving (appended chunks) ∧
      (appended chunks).length ≤ Nat.log 2 (chunks.flatten.length + 1) + 1) ∧
    ∀ cuts : List Bytes, ∃ caller chunks, (Caller.new lane revision).run cuts = some caller ∧
      caller.decoder.body = appended chunks ∧ chunks.flatten ++ caller.unconsumed <:+ cuts.flatten ∧
      chunks.flatten.length = caller.decoder.filled - headerBytes ∧ caller.decoder.storageBytes =
        (if caller.decoder.filled = 0 then 0 else headerBytes) + (caller.decoder.body.map length).sum := by
  constructor
  · intro chunks
    have few := (appended_halving chunks).length_le
    rw [appended_flatten] at few
    exact ⟨appended_flatten chunks, appended_halving chunks, few⟩
  · intro cuts
    obtain ⟨caller, ran, follows⟩ := run_follows (follows_new lane revision) cuts
    obtain ⟨received, split, kept⟩ := run_kept (append_nil []) (.empty rfl rfl) ran
    obtain ⟨chunks, body, last⟩ := kept.body
    refine ⟨caller, chunks, ran, body, ?_, ?_⟩
    · rw [nil_append] at split
      rw [← split]
      exact suffix_append_self_iff.mpr last
    rw [← length_flatten, ← appended_flatten, ← body]
    obtain ⟨_, _, _, _, _, held, _⟩ | ⟨closed, _⟩ := follows
    · exact ⟨held.filled_eq, held.storage⟩
    · obtain ⟨filled, empty⟩ := kept.closed closed
      simp [FrameDecoder.storageBytes, filled, empty]

end Cove.Protocol.FrameStream
