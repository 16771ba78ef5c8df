import Cove.Base.ByteStream
import Cove.Base.Keyed
import Cove.Protocol.Pipe

/-!
The worker's end of its pipe. Commands arrive one frame at a time and are executed, parked, deferred or answered BUSY;
replies, events and heartbeats leave through one queue into a writable stream. A reply is paid for when its command is
admitted, so that whatever else has been queued meanwhile it can be sent. The bytes of a frame are modelled by their
number, and the frames a chunk is read into come from its decoder one by one. Whatever the endpoint does not decide
(the size of an encoded frame, what the execution delivers while it is being called, when a write leaves the stream's
buffer) is in the environment or in the events.
-/

namespace Cove.Worker.PipeEndpoint
open Base.ByteStream Base.Keyed Protocol.Budgets Protocol.Frame Protocol.Identity
open Protocol.Pipe

def maxReplyBytes : Nat := headerBytes + maxMetadataBytes

def ingressLimit (pipeQueuedBytes : Nat) : Nat := pipeQueuedBytes + 2 * pipePrepaidRouteControlBytes

structure WorkerLoad where
  windowMs : Nat
  eventLoopDelayP99Ms : Nat
  eventLoopDelayMaxMs : Nat
  cpuPercent : Option Nat
  parseBacklogBytes : Nat
  executingCommands : Nat

inductive Message where
  | ready (ready : Ready)
  | heartbeat (worker : WorkerRef) (load : WorkerLoad)
  | reply (reply : Reply)

/-- What an outbound frame carries. The metadata and payload of an event are the execution's. -/
inductive Carried where
  | message (message : Message)
  | event

structure OutboundFrame where
  bytes : Nat
  carried : Carried
  token : Option Nat
  request : Option String
  control : Bool
  extra : Bool
  heartbeat : Bool

def OutboundFrame.cleared (frame : OutboundFrame) : OutboundFrame := { frame with request := none }

inductive Role where
  | ordinary
  | status
  | stop
  | route
  | rejection
  deriving DecidableEq

inductive Phase where
  | parked
  | deferred
  | executing
  | response
  deriving DecidableEq

structure RequestRecord where
  command : PipeCommand
  role : Role
  phase : Phase
  deriving DecidableEq

def RequestRecord.requestId (record : RequestRecord) : String := record.command.requestId

/-- A route-control command that arrived while another held the slot, with the bytes of its metadata. -/
structure Parked where
  command : PipeCommand
  metadataBytes : Nat

inductive Reason where
  | nonByteIngress
  | overlappingIngress
  | ingressCapacityExceeded
  | decode
  | invalidMetadataJson
  | invalidFrame
  | commandBeforeHello
  | helloMismatch
  | executionStartFailed
  | readySendFailed
  | unexpectedFrame
  | foreignWorker
  | duplicateResponseCapacity
  | routeControlIngressCapacity
  | rejectionSlotExhausted
  | rejectionByteCapacity
  | invalidExecutionCorrelation
  | responseSendFailed
  | invalidParkedRouteOwner
  | stdoutCapacityExceeded
  | stdoutWriteFailed
  | streamEnded
  | requested
  deriving DecidableEq

/-- A call of the execution into the pipe. -/
inductive Delivery where
  | enqueue (metadataBytes payloadBytes : Nat) (valid : Bool) (token : Nat)
  | cancelUnsent (token : Nat)

structure Env where
  buildVersion : String
  highWaterMark : Nat
  metadataBytes : Message → Nat
  wellFormed : Message → Bool
  throws : Nat → Bool
  /-- What the execution delivers before it returns, by the number of calls before it. -/
  react : Nat → List Delivery

structure WorkerPipe where
  hello : Option Hello
  closed : Option Reason
  outbound : List OutboundFrame
  writable : Writable OutboundFrame
  pending : List RequestRecord
  deferredControl : List RequestRecord
  parkedRouteControl : List Parked
  parkedRouteBytes : Nat
  controlCursor : Nat
  queuedBytes : Nat
  transportFrameBytes : Nat
  reservedReplyBytes : Nat
  extraResponseItems : Nat
  peakAccountedBytes : Nat
  blocked : Bool
  blockedFrameBytes : Nat
  ingressActive : Bool
  /-- The loop over the frames of one read goes on with the next of them. -/
  reading : Bool
  allowCommands : Bool
  heartbeatUnsettled : Bool
  calls : Nat
  wire : List OutboundFrame
  started : List PipeCommand

def WorkerPipe.new (env : Env) : WorkerPipe where
  hello := none
  closed := none
  outbound := []
  writable := Writable.new env.highWaterMark
  pending := []
  deferredControl := []
  parkedRouteControl := []
  parkedRouteBytes := 0
  controlCursor := 0
  queuedBytes := 0
  transportFrameBytes := 0
  reservedReplyBytes := 0
  extraResponseItems := 0
  peakAccountedBytes := 0
  blocked := false
  blockedFrameBytes := 0
  ingressActive := false
  reading := false
  allowCommands := false
  heartbeatUnsettled := false
  calls := 0
  wire := []
  started := []

namespace WorkerPipe

variable (env : Env) (pipe : WorkerPipe)

def ready : Bool := pipe.hello.isSome && pipe.closed.isNone

def budgets : EffectiveBudgets := (pipe.hello.map Hello.effectiveBudgets).getD m0Limits

def unsettledFrames : List OutboundFrame := pipe.writable.waiting ++ pipe.outbound

def shutdown (reason : Reason) : WorkerPipe :=
  if pipe.closed.isSome then pipe
  else
    { pipe with
      closed := some reason
      writable := { pipe.writable with waiting := pipe.writable.waiting.map OutboundFrame.cleared }
      outbound := []
      pending := []
      deferredControl := []
      parkedRouteControl := []
      parkedRouteBytes := 0
      queuedBytes := 0
      extraResponseItems := pipe.extraResponseItems - pipe.outbound.countP OutboundFrame.extra
      reservedReplyBytes := 0
      ingressActive := false }

/-! ### Accounting -/

def transportBytes : Nat :=
  max pipe.writable.length (max pipe.blockedFrameBytes pipe.transportFrameBytes)

def heartbeatOwedBytes : Nat :=
  ((pipe.unsettledFrames.find? OutboundFrame.heartbeat).map OutboundFrame.bytes).getD 0

def accountedBytes : Nat :=
  pipe.reservedReplyBytes + pipe.queuedBytes + pipe.transportBytes - pipe.heartbeatOwedBytes

def recordPeak : WorkerPipe :=
  { pipe with peakAccountedBytes := max pipe.peakAccountedBytes pipe.accountedBytes }

def ordinaryLimit : Nat := pipe.budgets.pipeQueuedBytes - pipe.budgets.reservedControlBytes

def reservedFor (roles : Role → Bool) : Nat :=
  pipe.pending.countP (fun record => roles record.role && record.phase == .executing) * maxReplyBytes

def bytesOf (frames : OutboundFrame → Bool) : Nat :=
  total OutboundFrame.bytes (pipe.unsettledFrames.filter frames)

def ordinaryAccountedBytes : Nat :=
  pipe.reservedFor (· == .ordinary) + pipe.bytesOf (fun frame => !frame.control && !frame.heartbeat) +
    (pipe.writable.length - pipe.transportFrameBytes)

def controlAccountedBytes : Nat :=
  pipe.reservedFor (· != .ordinary) + pipe.bytesOf OutboundFrame.control

variable (command : PipeCommand)

def roleOf : Role :=
  match command.type with
  | .status => .status
  | .stop => .stop
  | .appliedAck => .route
  | .baselineProgress => .route
  | .unsubscribe => .route
  | _ => .ordinary

def slotsTaken (role : Role) : Nat :=
  pipe.pending.countP (fun record => record.role == role && record.phase != .parked)

def slotAvailable (role : Role) : Bool :=
  if role = .ordinary then decide (pipe.slotsTaken role < pipe.budgets.pendingWorkerCommands)
  else pipe.slotsTaken role == 0

def rejecting : Bool := pipe.pending.any (fun record => record.role == .rejection)

def sharedReplySlotAvailable : Bool :=
  pipe.slotAvailable .route && pipe.extraResponseItems == 0 && !pipe.rejecting

variable (record : RequestRecord)

/-- The reply frames of a record have all been handed to the stream. -/
def handedOff : Bool :=
  !pipe.outbound.any (fun frame => frame.request == some record.requestId)

def routeWindowRecords : Nat :=
  pipe.pending.countP
    (fun record => record.role == .route && !(record.phase == .response && pipe.handedOff record))

def replyCapacity (role : Role) : Bool :=
  if pipe.accountedBytes + maxReplyBytes > pipe.budgets.pipeQueuedBytes then false
  else if role = .ordinary then
    decide (pipe.ordinaryAccountedBytes + 2 * maxReplyBytes ≤ pipe.ordinaryLimit)
  else decide (pipe.controlAccountedBytes + maxReplyBytes ≤ pipe.budgets.reservedControlBytes)

/-! ### Sending -/

variable (frame : OutboundFrame)

def hand (rest : List OutboundFrame) : WorkerPipe :=
  let written := pipe.writable.write OutboundFrame.bytes frame
  let handed :=
    { pipe with
      outbound := rest
      queuedBytes := pipe.queuedBytes - frame.bytes
      transportFrameBytes := pipe.transportFrameBytes + frame.bytes
      wire := pipe.wire ++ [frame]
      writable := written.1 }
  if written.2 then handed.recordPeak
  else { handed with blocked := true, blockedFrameBytes := frame.bytes }.recordPeak

/-- Hands the queue to the stream until the stream asks to wait. -/
def flushLoop (pipe : WorkerPipe) : List OutboundFrame → WorkerPipe
  | [] => pipe
  | frame :: rest =>
    let handed := pipe.hand frame rest
    if env.throws pipe.wire.length then handed.shutdown .stdoutWriteFailed
    else if handed.accountedBytes > handed.budgets.pipeQueuedBytes then handed.shutdown .stdoutCapacityExceeded
    else if handed.blocked then handed
    else flushLoop handed rest

def flush : WorkerPipe :=
  if pipe.blocked || pipe.closed.isSome then pipe else pipe.flushLoop env pipe.outbound

def queue : WorkerPipe :=
  ({ pipe with
      outbound := pipe.outbound ++ [frame]
      extraResponseItems := pipe.extraResponseItems + (if frame.extra then 1 else 0)
      queuedBytes := pipe.queuedBytes + frame.bytes } : WorkerPipe).recordPeak

def push : WorkerPipe := (pipe.queue frame).flush env

def encode (message : Message) : Option Nat :=
  if env.wellFormed message ∧ 1 ≤ env.metadataBytes message ∧ env.metadataBytes message ≤ maxMetadataBytes then
    some (headerBytes + env.metadataBytes message)
  else none

/-- Whether the budgets leave room for a frame. The heartbeat's slot is paid for apart. -/
def fits (bytes : Nat) (control heartbeat : Bool) : Bool :=
  if heartbeat then decide (bytes ≤ pipeHeartbeatFrameBytes)
  else
    decide (pipe.accountedBytes + bytes ≤ pipe.budgets.pipeQueuedBytes) &&
      (if control then decide (pipe.controlAccountedBytes + bytes ≤ pipe.budgets.reservedControlBytes)
        else decide (pipe.ordinaryAccountedBytes + bytes ≤ pipe.ordinaryLimit))

def messageFrame (message : Message) (bytes : Nat) (control : Bool) (request : Option String)
    (extra heartbeat : Bool) : OutboundFrame where
  bytes := bytes
  carried := .message message
  token := none
  request := request
  control := control
  extra := extra
  heartbeat := heartbeat

def eventFrame (bytes token : Nat) : OutboundFrame where
  bytes := bytes
  carried := .event
  token := some token
  request := none
  control := false
  extra := false
  heartbeat := false

def enqueue (message : Message) (control : Bool) (request : Option String) (extra heartbeat : Bool) :
    WorkerPipe × Bool :=
  match encode env message with
  | none => (pipe, false)
  | some bytes =>
    if pipe.hello.isNone || !pipe.fits bytes control heartbeat then (pipe, false)
    else (pipe.push env (messageFrame message bytes control request extra heartbeat), true)

def enqueueEvent (metadataBytes payloadBytes : Nat) (valid : Bool) (token : Nat) : WorkerPipe × Option Nat :=
  let bytes := headerBytes + metadataBytes + payloadBytes
  if !pipe.ready || !valid || metadataBytes = 0 || decide (maxMetadataBytes < metadataBytes) ||
      decide (maxPayloadBytes < payloadBytes) || !pipe.fits bytes false false then (pipe, none)
  else (pipe.push env (eventFrame bytes token), some bytes)

def cancelUnsent (token : Nat) : WorkerPipe :=
  { pipe with
    outbound := pipe.outbound.filter (fun frame => frame.token != some token)
    queuedBytes := pipe.queuedBytes -
      total OutboundFrame.bytes (pipe.outbound.filter (fun frame => frame.token == some token)) }

def deliver : Delivery → WorkerPipe
  | .enqueue metadataBytes payloadBytes valid token =>
    (pipe.enqueueEvent env metadataBytes payloadBytes valid token).1
  | .cancelUnsent token => pipe.cancelUnsent token

/-- The execution is called, and may call back before it returns. -/
def call : WorkerPipe :=
  (env.react pipe.calls).foldl (deliver env) { pipe with calls := pipe.calls + 1 }

/-! ### Commands -/

def setPhase (requestId : String) (phase : Phase) : WorkerPipe :=
  { pipe with
    pending := modify RequestRecord.requestId pipe.pending requestId
      (fun record => { record with phase := phase }) }

/-- A reply is reserved for the record, and the execution has its command. -/
def beginExecution : WorkerPipe :=
  { pipe.setPhase record.requestId .executing with
    reservedReplyBytes := pipe.reservedReplyBytes + maxReplyBytes
    started := pipe.started ++ [record.command] }.recordPeak

def startExecution : WorkerPipe := (pipe.beginExecution record).call env

def busyError : Reply :=
  .error (errorFor command.worker command { kind := .busy, acceptance := .notAccepted, input := false })

def conflictError : Reply :=
  .error
    (errorFor command.worker command { kind := .operationIdConflict, acceptance := .notAccepted, input := false })

def unknownError : Reply :=
  .error
    (errorFor command.worker command
      { kind := .resultUnknown, acceptance := .unknown, input := command.type == .input })

def emitBusy : WorkerPipe × Bool :=
  let answered := (pipe.setPhase record.requestId .response).enqueue env
    (.reply (busyError record.command)) true (some record.requestId) true false
  if answered.2 then answered else (answered.1.shutdown .rejectionByteCapacity, false)

def controlRoles : List Role := [.status, .stop, .route, .rejection]

def selectDeferred : Option (RequestRecord × Nat) :=
  (List.range controlRoles.length).findSome? (fun offset =>
    let index := (pipe.controlCursor + offset) % controlRoles.length
    match pipe.deferredControl.find? (fun record => some record.role == controlRoles[index]?) with
    | none => none
    | some record =>
      if pipe.replyCapacity record.role then some (record, (index + 1) % controlRoles.length) else none)

def startDeferred : Nat → WorkerPipe → WorkerPipe
  | 0, pipe => pipe
  | fuel + 1, pipe =>
    match pipe.selectDeferred with
    | none => pipe
    | some (record, cursor) =>
      let taken :=
        { pipe with
          deferredControl := pipe.deferredControl.erase record
          controlCursor := cursor }
      startDeferred fuel
        (if record.role = .rejection then (taken.emitBusy env record).1 else taken.startExecution env record)

/-- Each turn takes one deferred record, so as many turns as there are of them reach the end. -/
def tryStartDeferred : WorkerPipe :=
  if !pipe.ready then pipe else startDeferred env pipe.deferredControl.length pipe

/-- An ordinary command refused for bytes is within the window of ordinary commands. -/
def ordinaryRejectionFits : Bool :=
  roleOf command == .ordinary &&
    decide (pipe.pending.countP (fun record =>
      record.role == .ordinary && record.phase != .parked ||
        record.role == .rejection && roleOf record.command == .ordinary) < pipe.budgets.pendingWorkerCommands)

def rejectBusy : WorkerPipe × Bool :=
  if !pipe.sharedReplySlotAvailable && !pipe.ordinaryRejectionFits command then
    (pipe.shutdown .rejectionSlotExhausted, false)
  else
    let record := { command := command, role := .rejection, phase := .deferred : RequestRecord }
    let kept := { pipe with pending := pipe.pending ++ [record] }
    if !kept.replyCapacity .rejection then ({ kept with deferredControl := kept.deferredControl ++ [record] }, true)
    else kept.emitBusy env record

inductive Incoming where
  | invalidJson
  | invalid
  | hello (hello : Hello)
  | command (command : PipeCommand) (metadataBytes payloadBytes : Nat)
  | foreign

/-! Of each frame, whether the loop over the frames goes on. It may go on after a shutdown: of the reasons to close the
pipe, a duplicate's lost answer and a failed write are not reported to the loop. -/

/-- The first frame. `starts` is whether an execution could be created. -/
def handleHello (hello : Hello) (held : Nat) (starts : Bool) : WorkerPipe × Bool :=
  let answer : Ready :=
    { worker := hello.worker
      pipeVersion := pipeVersion
      buildVersion := env.buildVersion
      effectiveBudgets := hello.effectiveBudgets }
  if !validatePipeReadiness hello answer then (pipe.shutdown .helloMismatch, false)
  else if held + pipe.parkedRouteBytes > ingressLimit hello.effectiveBudgets.pipeQueuedBytes then
    (pipe.shutdown .ingressCapacityExceeded, false)
  else if !starts then (pipe.shutdown .executionStartFailed, false)
  else
    let greeted := { pipe with hello := some hello }.enqueue env (.ready answer) true none false false
    if greeted.2 then greeted else (greeted.1.shutdown .readySendFailed, false)

def handleDuplicate (outstanding : RequestRecord) : WorkerPipe × Bool :=
  let parkedConflictSlot := outstanding.phase == .parked && pipe.extraResponseItems == 0 && !pipe.rejecting
  if !parkedConflictSlot && !pipe.sharedReplySlotAvailable then (pipe.shutdown .duplicateResponseCapacity, false)
  else
    let answered := pipe.enqueue env (.reply (conflictError command)) true (some command.requestId) true false
    (if answered.2 then answered.1 else answered.1.shutdown .duplicateResponseCapacity, true)

/-- Parking owns the ID before any later command can claim it. -/
def park (metadataBytes payloadBytes held : Nat) : WorkerPipe × Bool :=
  if pipe.routeWindowRecords ≥ pipeRouteControlCommands ∨ payloadBytes ≠ 0 ∨
      held + pipe.parkedRouteBytes + metadataBytes > ingressLimit pipe.budgets.pipeQueuedBytes then
    (pipe.shutdown .routeControlIngressCapacity, false)
  else
    ({ pipe with
        pending := pipe.pending ++ [{ command := command, role := .route, phase := .parked }]
        parkedRouteControl := pipe.parkedRouteControl ++ [{ command := command, metadataBytes := metadataBytes }]
        parkedRouteBytes := pipe.parkedRouteBytes + metadataBytes }, true)

def handleCommand (metadataBytes payloadBytes held : Nat) : WorkerPipe × Bool :=
  match get? RequestRecord.requestId pipe.pending command.requestId with
  | some outstanding => pipe.handleDuplicate env command outstanding
  | none =>
    let role := roleOf command
    if role = .route ∧ (pipe.slotAvailable role = false ∨ pipe.parkedRouteControl ≠ []) then
      pipe.park command metadataBytes payloadBytes held
    else if !pipe.slotAvailable role then pipe.rejectBusy env command
    else
      let record := { command := command, role := role, phase := .deferred : RequestRecord }
      let kept := { pipe with pending := pipe.pending ++ [record] }
      if !kept.replyCapacity role then
        if role = .ordinary then pipe.rejectBusy env command
        else ({ kept with deferredControl := kept.deferredControl ++ [record] }, true)
      else (kept.startExecution env record, true)

/-- `held` is what the chunk and its decoder still hold. -/
def handleFrame (incoming : Incoming) (held : Nat) (starts : Bool) : WorkerPipe × Bool :=
  match incoming with
  | .invalidJson => (pipe.shutdown .invalidMetadataJson, false)
  | .invalid => (pipe.shutdown .invalidFrame, false)
  | incoming =>
    match pipe.hello with
    | none =>
      match incoming with
      | .hello hello => pipe.handleHello env hello held starts
      | _ => (pipe.shutdown .commandBeforeHello, false)
    | some hello =>
      match incoming with
      | .command command metadataBytes payloadBytes =>
        if !pipe.allowCommands then (pipe.shutdown .unexpectedFrame, false)
        else if !sameWorkerRef command.worker hello.worker then (pipe.shutdown .foreignWorker, false)
        else pipe.handleCommand env command metadataBytes payloadBytes held
      | _ => (pipe.shutdown .unexpectedFrame, false)

def endExecution (requestId : String) : WorkerPipe :=
  { pipe.setPhase requestId .response with reservedReplyBytes := pipe.reservedReplyBytes - maxReplyBytes }

def completeCommand (requestId : String) (response : Option Reply) : WorkerPipe :=
  match get? RequestRecord.requestId pipe.pending requestId with
  | none => pipe
  | some record =>
    if record.phase ≠ .executing then pipe
    else
      let answer := response.getD (unknownError record.command)
      let answering := pipe.endExecution requestId
      if !pipe.ready then answering
      else if !validatePipeResultForCommand record.command answer then answering.shutdown .invalidExecutionCorrelation
      else
        let sent := answering.enqueue env (.reply answer) (record.role != .ordinary) (some requestId) false false
        if sent.2 then sent.1.call env else sent.1.shutdown .responseSendFailed

/-! ### The stream's callbacks -/

def wake (parked : Parked) (rest : List Parked) (requestId : String) : WorkerPipe :=
  { pipe with
    parkedRouteControl := rest
    parkedRouteBytes := pipe.parkedRouteBytes - parked.metadataBytes }.setPhase requestId .deferred

/-- Only the oldest parked command is admitted: it takes the slot. -/
def admitParkedRoute : WorkerPipe :=
  match pipe.parkedRouteControl with
  | [] => pipe
  | parked :: rest =>
    if !pipe.slotAvailable .route || !pipe.ready then pipe
    else
      let taken :=
        { pipe with
          parkedRouteControl := rest
          parkedRouteBytes := pipe.parkedRouteBytes - parked.metadataBytes }
      match get? RequestRecord.requestId pipe.pending parked.command.requestId with
      | none => taken.shutdown .invalidParkedRouteOwner
      | some record =>
        if record.phase ≠ .parked then taken.shutdown .invalidParkedRouteOwner
        else
          let woken := pipe.wake parked rest record.requestId
          let turned := { record with phase := .deferred }
          if woken.replyCapacity .route then woken.startExecution env turned
          else { woken with deferredControl := woken.deferredControl ++ [turned] }

def settleRecord : WorkerPipe :=
  match frame.request with
  | none => pipe
  | some requestId =>
    match get? RequestRecord.requestId pipe.pending requestId with
    | none => pipe
    | some record =>
      if record.phase = .response ∧ pipe.unsettledFrames.all (fun other => other.request != some requestId) then
        { pipe with pending := erase RequestRecord.requestId pipe.pending requestId }.call env
      else pipe

def settled (after : Writable OutboundFrame) : WorkerPipe :=
  { pipe with
    writable := after
    transportFrameBytes := pipe.transportFrameBytes - frame.bytes
    extraResponseItems := pipe.extraResponseItems - (if frame.extra then 1 else 0)
    heartbeatUnsettled := pipe.heartbeatUnsettled && !frame.heartbeat }

def settleFrame (after : Writable OutboundFrame) : WorkerPipe :=
  let served := (((pipe.settled frame after).settleRecord env frame).tryStartDeferred env).admitParkedRoute env
  if served.ready then served.call env else served

def onDrain : WorkerPipe :=
  let drained := { pipe with writable := pipe.writable.drained }
  if pipe.closed.isSome then drained
  else
    let freed :=
      { drained with
        blocked := false
        blockedFrameBytes := 0
        allowCommands := pipe.allowCommands || (pipe.hello.isSome && !pipe.ingressActive) }
    let flushed := freed.flush env
    if flushed.ready then flushed.call env else flushed

/-- At most one heartbeat is unsettled. -/
def beat (sample : WorkerLoad) : WorkerPipe :=
  match pipe.hello with
  | none => pipe
  | some hello =>
    if pipe.closed.isSome || pipe.heartbeatUnsettled then pipe
    else
      let executing := pipe.pending.countP (fun record => record.phase == .executing)
      let load := { sample with executingCommands := min 65536 executing }
      -- Nothing reads the flag while the frame is queued and flushed.
      let sent := { pipe with heartbeatUnsettled := true }.enqueue env
        (.heartbeat hello.worker load) false none false true
      if sent.2 then sent.1 else pipe

/-! ### Runs -/

inductive Event where
  | data (backing held : Nat)
  | frame (incoming : Incoming) (held : Nat) (starts : Bool)
  | chunkRead
  | decodeFailed
  | complete (requestId : String) (response : Option Reply)
  | deliver (delivery : Delivery)
  | beat (sample : WorkerLoad)
  | left (bytes : Nat)
  | drain
  | written
  | writeFailed
  | streamEnded
  | shutdown

def onData (backing held : Nat) : WorkerPipe :=
  if pipe.ingressActive then pipe.shutdown .overlappingIngress
  else if backing + held + pipe.parkedRouteBytes >
      ingressLimit ((pipe.hello.map Hello.effectiveBudgets).getD m0Limits).pipeQueuedBytes then
    pipe.shutdown .ingressCapacityExceeded
  else { pipe with ingressActive := true }

def chunkRead : WorkerPipe :=
  { pipe with
    ingressActive := false
    allowCommands := pipe.allowCommands || (pipe.hello.isSome && !pipe.blocked) }

/-- A closed pipe reads nothing more, but what is left of the read that was under way is still handled. -/
def readFrame (incoming : Incoming) (held : Nat) (starts : Bool) : WorkerPipe :=
  if pipe.closed.isSome && !pipe.reading || pipe.closed.isNone && !pipe.ingressActive then pipe
  else
    let handled := pipe.handleFrame env incoming held starts
    { handled.1 with reading := handled.2 }

/-- Everything but a frame. -/
def handle (pipe : WorkerPipe) : Event → WorkerPipe
  | .data backing held => if pipe.closed.isSome then pipe else pipe.onData backing held
  | .frame _ _ _ => pipe
  | .chunkRead => if pipe.closed.isSome then pipe else pipe.chunkRead
  | .decodeFailed => pipe.shutdown .decode
  | .complete requestId response => pipe.completeCommand env requestId response
  | .deliver delivery => pipe.deliver env delivery
  | .beat sample => pipe.beat env sample
  | .left bytes => { pipe with writable := pipe.writable.leave bytes }
  | .drain => if pipe.writable.drainDue then pipe.onDrain env else pipe
  | .written =>
    match pipe.writable.callback OutboundFrame.bytes with
    | none => pipe
    | some (frame, after) => pipe.settleFrame env frame after
  | .writeFailed => pipe.shutdown .stdoutWriteFailed
  | .streamEnded => pipe.shutdown .streamEnded
  | .shutdown => pipe.shutdown .requested

/-- The frames of one read are handled without an interruption. -/
def step (pipe : WorkerPipe) : Event → WorkerPipe
  | .frame incoming held starts => pipe.readFrame env incoming held starts
  | event => handle env { pipe with reading := false } event

end WorkerPipe

end Cove.Worker.PipeEndpoint
