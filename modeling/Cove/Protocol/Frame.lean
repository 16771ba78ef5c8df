import Mathlib.Data.List.Basic
import Mathlib.Tactic

/-!
The byte frames both ends of a pipe exchange. A frame is a 16-byte header, its metadata and its
payload; `encodeFrame` writes one and `FrameDecoder` reads a stream of them from arbitrary slices,
within a bounded number of frames and bytes for each call of `read`.
-/

namespace Cove.Protocol.Frame

abbrev Bytes := List UInt8

def headerBytes : Nat := 16
def maxMetadataBytes : Nat := 4096
def maxPayloadBytes : Nat := 65536
def maxFrameBytes : Nat := headerBytes + maxMetadataBytes + maxPayloadBytes
def maxReadBytes : Nat := 256 * 1024
def maxReadFrames : Nat := 32

inductive ProtocolFailureCode where
  | invalidHeader
  | invalidMetadata
  | unsupportedFormat
  | unsupportedKind
  | capacityExceeded
  | identityMismatch
  | truncatedFrame
  | decoderClosed

structure ProtocolFailure where
  code : ProtocolFailureCode
  offset : Nat

abbrev ProtocolResult (α : Type) := Except ProtocolFailure α

def failure {α : Type} (code : ProtocolFailureCode) (offset : Nat) : ProtocolResult α :=
  .error ⟨code, offset⟩

/-- The four frame classes, written on the wire as 1, 2, 3 and 4. -/
inductive FrameKind where
  | command
  | result
  | event
  | error

def FrameKind.code : FrameKind → Nat
  | .command => 1
  | .result => 2
  | .event => 3
  | .error => 4

def FrameKind.ofCode? : Nat → Option FrameKind
  | 1 => some .command
  | 2 => some .result
  | 3 => some .event
  | 4 => some .error
  | _ => none

theorem FrameKind.ofCode_code (kind : FrameKind) : FrameKind.ofCode? kind.code = some kind := by
  cases kind <;> rfl

structure ByteFrame where
  kind : FrameKind
  metadata : Bytes
  payload : Bytes

inductive ReadStatus where
  | needInput
  | budget
  | error
  deriving DecidableEq

structure ReadResult where
  consumedBytes : Nat
  frames : List ByteFrame
  status : ReadStatus
  error : Option ProtocolFailure

/-- `buffer[index]`, zero past the end as in a fresh `Uint8Array`. -/
def byteAt (buffer : Bytes) (index : Nat) : Nat := (buffer.getD index 0).toNat

/-- `output.set(slice, offset)` on a buffer that is long enough for it. -/
def setBytes (output : Bytes) (offset : Nat) (slice : Bytes) : Bytes :=
  output.take offset ++ slice ++ output.drop (offset + slice.length)

def uint32 (input : Bytes) (offset : Nat) : Nat :=
  byteAt input offset * 0x1000000 + byteAt input (offset + 1) <<< 16 +
    byteAt input (offset + 2) <<< 8 + byteAt input (offset + 3)

def setUint32 (value : Nat) : Bytes :=
  [UInt8.ofNat (value / 0x1000000), UInt8.ofNat (value >>> 16 % 256),
    UInt8.ofNat (value >>> 8 % 256), UInt8.ofNat (value % 256)]

structure HeaderFields where
  length : Nat
  metadataLength : Nat
  kind : FrameKind

def inspectHeader (header : Bytes) (lane : UInt8) (revision : Nat) : ProtocolResult HeaderFields :=
  if byteAt header 0 ≠ 0x43 ∨ byteAt header 1 ≠ 0x50 ∨ byteAt header 5 ≠ 0 ∨
      byteAt header 6 ≠ 0 ∨ byteAt header 7 ≠ 0 then
    failure .invalidHeader headerBytes
  else if byteAt header 2 ≠ lane.toNat ∨ byteAt header 3 ≠ revision then
    failure .unsupportedFormat headerBytes
  else
    match FrameKind.ofCode? (byteAt header 4) with
    | none => failure .unsupportedKind headerBytes
    | some kind =>
      let metadataLength := uint32 header 8
      let payloadLength := uint32 header 12
      if metadataLength < 1 ∨ metadataLength > maxMetadataBytes ∨ payloadLength > maxPayloadBytes then
        failure .capacityExceeded headerBytes
      else
        let length := headerBytes + metadataLength + payloadLength
        if length > maxFrameBytes then failure .capacityExceeded headerBytes
        else .ok ⟨length, metadataLength, kind⟩

/-- Nothing checks the lane at run time; a revision outside one byte and a kind outside the four
frame classes are refused. -/
def encodeFrame (lane : UInt8) (revision kind : Nat) (metadata payload : Bytes) : ProtocolResult Bytes :=
  if revision < 1 ∨ revision > 255 then failure .unsupportedFormat 0
  else if (FrameKind.ofCode? kind).isNone then failure .unsupportedKind 0
  else if metadata.length < 1 ∨ metadata.length > maxMetadataBytes ∨
      payload.length > maxPayloadBytes then
    failure .capacityExceeded 0
  else
    .ok ([0x43, 0x50, lane, UInt8.ofNat revision, UInt8.ofNat kind, 0, 0, 0] ++
      setUint32 metadata.length ++ setUint32 payload.length ++ metadata ++ payload)

/-- The loop of `copyRange`: `offset` bytes of earlier segments have been passed. -/
def copyRangeFrom (start stop : Nat) : List Bytes → Nat → Bytes → Bytes
  | [], _, output => output
  | segment :: rest, offset, output =>
      let first := start - offset
      let last := min (stop - offset) segment.length
      let output := if first < last then
          setBytes output (offset + first - start) ((segment.drop first).take (last - first))
        else output
      let offset := offset + segment.length
      if offset ≥ stop then output else copyRangeFrom start stop rest offset output

def copyRange (segments : List Bytes) (start stop : Nat) : Bytes :=
  copyRangeFrom start stop segments 0 (List.replicate (stop - start) 0)

/-- The first segment that a slice of `size` bytes absorbs, searched from the last one down. -/
def mergeFrom (body : List Bytes) : Nat → Nat → Nat
  | 0, _ => 0
  | first + 1, size =>
      if (body.getD first []).length ≤ 2 * size then
        mergeFrom body first (size + (body.getD first []).length)
      else first + 1

def appendBody (body : List Bytes) (slice : Bytes) : List Bytes :=
  let first := mergeFrom body body.length slice.length
  body.take first ++ [(body.drop first).flatten ++ slice]

structure FrameDecoder where
  lane : UInt8
  revision : Nat
  header : Bytes
  body : List Bytes
  filled : Nat
  expected : Nat
  metadataLength : Nat
  kind : FrameKind
  offset : Nat
  closed : Bool

def FrameDecoder.new (lane : UInt8) (revision : Nat) : FrameDecoder where
  lane := lane
  revision := revision
  header := List.replicate headerBytes 0
  body := []
  filled := 0
  expected := headerBytes
  metadataLength := 0
  kind := .command
  offset := 0
  closed := false

variable (decoder : FrameDecoder)

def FrameDecoder.resetPending : FrameDecoder :=
  { decoder with body := [], filled := 0, expected := headerBytes, metadataLength := 0 }

def FrameDecoder.close : FrameDecoder :=
  { decoder with body := [], filled := 0, closed := true }

/-- The header buffer counts once a frame has started. -/
def FrameDecoder.storageBytes : Nat := if decoder.filled = 0 then 0 else max headerBytes decoder.filled

/-- The local variables of one call of `read`. -/
structure ReadLoop where
  decoder : FrameDecoder
  frames : List ByteFrame
  consumedBytes : Nat
  emittedBytes : Nat

variable (loop : ReadLoop)

def ReadLoop.finished (input : Bytes) : FrameDecoder × ReadResult :=
  (loop.decoder, ⟨loop.consumedBytes, loop.frames,
    if loop.consumedBytes < input.length then .budget else .needInput, none⟩)

def ReadLoop.count (input : Bytes) : Nat :=
  min (min (loop.decoder.expected - loop.decoder.filled) (input.length - loop.consumedBytes))
    (maxReadBytes - loop.consumedBytes)

def ReadLoop.take (input : Bytes) : ReadLoop :=
  let count := loop.count input
  let slice := (input.drop loop.consumedBytes).take count
  let decoder := loop.decoder
  { loop with
    decoder := { decoder with
      header := if decoder.filled < headerBytes then setBytes decoder.header decoder.filled slice
        else decoder.header
      body := if decoder.filled < headerBytes then decoder.body else appendBody decoder.body slice
      filled := decoder.filled + count
      offset := decoder.offset + count }
    consumedBytes := loop.consumedBytes + count }

def ReadLoop.emit : ReadLoop :=
  let decoder := loop.decoder
  if decoder.filled = decoder.expected then
    { loop with
      frames := loop.frames ++ [⟨decoder.kind, copyRange decoder.body 0 decoder.metadataLength,
        copyRange decoder.body decoder.metadataLength (decoder.expected - headerBytes)⟩]
      emittedBytes := loop.emittedBytes + decoder.expected
      decoder := decoder.resetPending }
  else loop

/-- One iteration of the loop in `read`: the next loop state, or the result the call returns. -/
def ReadLoop.turn (input : Bytes) : ReadLoop ⊕ FrameDecoder × ReadResult :=
  if ¬(loop.consumedBytes < input.length ∧ loop.consumedBytes < maxReadBytes) then
    .inr (loop.finished input)
  else if loop.frames.length ≥ maxReadFrames ∨
      loop.emittedBytes + loop.decoder.expected > maxReadBytes then
    .inr (loop.finished input)
  else
    let loop := loop.take input
    let decoder := loop.decoder
    if decoder.filled ≠ decoder.expected then .inl loop
    else if decoder.expected = headerBytes then
      match inspectHeader decoder.header decoder.lane decoder.revision with
      | .error error =>
          .inr (decoder.close, ⟨loop.consumedBytes, loop.frames, .error,
            some ⟨error.code, decoder.offset⟩⟩)
      | .ok fields =>
          .inl { loop with decoder := { decoder with
            metadataLength := fields.metadataLength, kind := fields.kind,
            expected := fields.length } }.emit
    else .inl loop.emit

def readFrom (input : Bytes) : Nat → ReadLoop → Option (FrameDecoder × ReadResult)
  | 0, _ => none
  | fuel + 1, loop =>
      match loop.turn input with
      | .inl next => readFrom input fuel next
      | .inr result => some result

/-- A call of `read` takes at least one byte in every turn but the last, so it returns within
`input.length + 1` turns (`FrameStream.read_reads`). -/
def FrameDecoder.read (input : Bytes) : Option (FrameDecoder × ReadResult) :=
  if decoder.closed then
    some (decoder, ⟨0, [], .error, some ⟨.decoderClosed, decoder.offset⟩⟩)
  else readFrom input (input.length + 1) ⟨decoder, [], 0, 0⟩

end Cove.Protocol.Frame
