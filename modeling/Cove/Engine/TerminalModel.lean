import Cove.Base.Numbering
import Cove.Base.Run
import Cove.Protocol.EventFrame

/-!
The terminal model of a run and the baselines it captures. A baseline is a checkpoint of the terminal and the output
since; the checkpoint is replaced, kept or dropped at many points while the tail is reset on its own, and the invariant
ties the two to the facts applied.
-/

namespace Cove.Engine
open Base.Run Protocol.EventFrame Protocol.Identity Protocol.Recovery Protocol.Terminal

/-- The emulator with its query responder. Output does not change its size. -/
structure Xterm (T : Type) where
  write : T → List UInt8 → T
  resize : T → Geometry → T
  setAppearance : T → Appearance → T
  geometry : T → Geometry
  /-- The lines of the normal buffer above the screen. -/
  historyLines : T → Nat
  /-- No escape or UTF-8 sequence is incomplete. -/
  complete : T → Bool
  /-- The setters of the appearance and the logical grid. -/
  serialise : T → List UInt8
  geometry_write : ∀ terminal bytes, geometry (write terminal bytes) = geometry terminal

structure BoundedRecoveryTail where
  bytes : List UInt8
  allocated : Bool
  available : Bool

def BoundedRecoveryTail.empty : BoundedRecoveryTail := ⟨[], false, true⟩

def BoundedRecoveryTail.append (cap : Nat) (leased : Bool) (tail : BoundedRecoveryTail) (bytes : List UInt8) :
    BoundedRecoveryTail :=
  if !tail.available || bytes.length == 0 then tail
  else if bytes.length > cap - tail.bytes.length then ⟨[], false, false⟩
  else if !tail.allocated && !leased then { tail with available := false }
  else { tail with bytes := tail.bytes ++ bytes, allocated := true }

structure Checkpoint where
  vt : List UInt8
  seq : Nat
  geometry : Geometry
  coverage : RecoveryCoverage

/-- What is captured in one turn of the model, after the fact `atSeq`. -/
structure EngineBaseline where
  profile : String
  encoding : String
  checkpointSeq : Nat
  atSeq : Nat
  captureGeometry : Geometry
  currentGeometry : Geometry
  coverage : RecoveryCoverage
  control : BaselineControl
  vt : List UInt8
  tail : List UInt8

inductive Queued where
  | apply (fact : Fact)
  | continueUnpublishedOutput (bytes : List UInt8)
  | captureBaseline

structure Options where
  run : RunRef
  maxCols : Nat
  maxRows : Nat
  historyLines : Nat
  baselineTailBytes : Nat

/-- `applied` and `baselines` record the facts applied and the captures answered ready. -/
structure TerminalModel (T : Type) where
  terminal : T
  tail : BoundedRecoveryTail
  checkpoint : Option Checkpoint
  queue : List Queued
  /-- The operation whose write the emulator has not finished. -/
  writing : Option Queued
  receivedSeq : Nat
  parsedSeq : Nat
  admittedGeometry : Geometry
  control : BaselineControl
  disposed : Bool
  fenced : Bool
  fault : Bool
  privateFailure : Bool
  historyTruncated : Bool
  applied : List Fact
  baselines : List EngineBaseline

inductive Refresh where
  | privateStateChanged
  | failed
  | built

inductive Reservation where
  | granted
  | refused
  | disposed

/-- What the environment answers in one turn of the queue. -/
structure Turn where
  leased : Bool
  refresh : Refresh
  sinkFailed : Bool
  within : Bool
  reserved : Reservation

section Model

variable {T : Type} (x : Xterm T) (options : Options)

variable (m : TerminalModel T)

def dropCheckpoint : TerminalModel T := { m with checkpoint := none, tail := .empty }

def dispose : TerminalModel T :=
  { dropCheckpoint m with disposed := true, queue := [], writing := none }

/-- No fact is accepted any more: the screen will show output that is not one. -/
def fence : TerminalModel T := { dropCheckpoint m with fenced := true }

def capture : Checkpoint where
  vt := x.serialise m.terminal
  seq := m.parsedSeq
  geometry := x.geometry m.terminal
  coverage.normal.historyLines := x.historyLines m.terminal
  coverage.normal.includedHistoryLines := x.historyLines m.terminal
  coverage.normal.trimmedBefore := m.historyTruncated
  coverage.normal.resizeContext := .requiresBaseline
  coverage.alternateResizeContext := .requiresBaseline

def refreshCheckpoint (outcome : Refresh) (m : TerminalModel T) : TerminalModel T :=
  if m.disposed || m.fenced || m.privateFailure then m
  else
    match outcome with
    | .privateStateChanged => { m with privateFailure := true }
    | .failed => m
    | .built =>
      if x.complete m.terminal then { m with checkpoint := some (capture x m), tail := .empty } else m

def applyTo (terminal : T) (fact : Fact) : T :=
  match fact.event with
  | .output .. => x.write terminal fact.bytes
  | .resize _ _ geometry _ => if x.geometry terminal = geometry then terminal else x.resize terminal geometry
  | .appearance _ _ appearance => x.setAppearance terminal appearance
  | .control .. | .exit .. => terminal

def takeFact (leased : Bool) (m : TerminalModel T) (fact : Fact) : TerminalModel T :=
  let next := { m with terminal := applyTo x m.terminal fact }
  match fact.event with
  | .output .. =>
    { next with
      tail := m.tail.append options.baselineTailBytes leased fact.bytes
      historyTruncated := m.historyTruncated || decide (x.historyLines next.terminal ≥ options.historyLines) }
  | .resize _ _ geometry _ => if x.geometry m.terminal = geometry then next else dropCheckpoint next
  | .appearance .. => dropCheckpoint next
  | .control _ _ epoch holder _ => { next with control := ⟨epoch, holder⟩ }
  | .exit .. => next

def performFact (turn : Turn) (m : TerminalModel T) (fact : Fact) : TerminalModel T :=
  let next := { takeFact x options turn.leased m fact with
    parsedSeq := fact.seq
    applied := m.applied ++ [fact]
    fault := m.fault || turn.sinkFailed }
  if !next.fenced && (next.checkpoint.isNone || !next.tail.available ||
      decide (next.tail.bytes.length ≥ max 1 (options.baselineTailBytes / 2))) then
    refreshCheckpoint x turn.refresh next
  else next

def performCapture (turn : Turn) (m : TerminalModel T) : TerminalModel T :=
  let m := if m.checkpoint.map Checkpoint.seq = some m.parsedSeq then m else refreshCheckpoint x turn.refresh m
  match m.checkpoint with
  | none => m
  | some checkpoint =>
    if !m.tail.available || m.privateFailure || !turn.within then m
    else
      match turn.reserved with
      | .refused => m
      | .disposed => dispose m
      | .granted =>
        { m with baselines := m.baselines ++ [⟨profileName, baselineEncoding, checkpoint.seq, m.parsedSeq,
            checkpoint.geometry, x.geometry m.terminal, checkpoint.coverage, m.control, checkpoint.vt, m.tail.bytes⟩] }

def admits (fact : Fact) : Bool :=
  !m.disposed && !m.fault && !m.fenced && sameRunRef (eventRun fact.event) options.run &&
    m.receivedSeq != maxSafeInteger && fact.seq == m.receivedSeq + 1 &&
    match fact.event with
    | .output .. => decide (1 ≤ fact.bytes.length) && decide (fact.bytes.length ≤ 65536)
    | .resize _ _ geometry _ =>
      fact.bytes.isEmpty && decide (geometry.cols ≤ options.maxCols) && decide (geometry.rows ≤ options.maxRows)
    | .control _ _ _ _ geometry => fact.bytes.isEmpty && geometry == m.admittedGeometry
    | .appearance _ _ appearance => fact.bytes.isEmpty && validateAppearance appearance
    | .exit .. => fact.bytes.isEmpty

inductive Event where
  | apply (fact : Fact) (granted : Bool)
  | continueUnpublishedOutput (bytes : List UInt8) (granted : Bool)
  | captureBaseline (granted : Bool)
  /-- The queue takes its next operation, or the emulator has finished the write of the current one. -/
  | drain (turn : Turn)
  | written (turn : Turn)
  | threw
  | dispose

def drain (turn : Turn) (m : TerminalModel T) : TerminalModel T :=
  match m.writing, m.queue with
  | none, item :: rest =>
    let next := { m with queue := rest }
    if m.fault then next
    else
      match item with
      | .captureBaseline => performCapture x turn next
      | .continueUnpublishedOutput _ => { next with writing := some item }
      | .apply fact =>
        match fact.event with
        | .output .. => { next with writing := some item }
        | _ => performFact x options turn next fact
  | _, _ => m

def written (turn : Turn) (m : TerminalModel T) : TerminalModel T :=
  match m.writing with
  | some (.apply fact) => performFact x options turn { m with writing := none } fact
  | some (.continueUnpublishedOutput bytes) =>
    { m with writing := none, terminal := x.write m.terminal bytes, fault := m.fault || turn.sinkFailed }
  | _ => m

def step : Event → TerminalModel T
  | .apply fact granted =>
    if admits options m fact && granted then
      { m with
        queue := m.queue ++ [.apply fact]
        receivedSeq := fact.seq
        admittedGeometry := match fact.event with
          | .resize _ _ geometry _ => geometry
          | _ => m.admittedGeometry }
    else m
  | .continueUnpublishedOutput bytes granted =>
    if !m.disposed && !m.fault && decide (1 ≤ bytes.length) && decide (bytes.length ≤ 65536) && granted then
      { fence m with queue := m.queue ++ [.continueUnpublishedOutput bytes] }
    else m
  | .captureBaseline granted =>
    if !m.disposed && !m.fault && !m.fenced && granted then { m with queue := m.queue ++ [.captureBaseline] } else m
  | .drain turn => drain x options turn m
  | .written turn => written x options turn m
  | .threw => { m with writing := none, queue := m.queue.drop (if m.writing.isSome then 0 else 1), fault := true }
  | .dispose => dispose m

def new (terminal : T) : TerminalModel T :=
  let empty : TerminalModel T :=
    ⟨terminal, .empty, none, [], none, 0, 0, x.geometry terminal, ⟨0, none⟩, false, false, false, false, false, [], []⟩
  { empty with checkpoint := some (capture x empty) }

end Model

end Cove.Engine
