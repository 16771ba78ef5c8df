import Cove.Base.Chunks
import Cove.Base.Run
import Cove.Protocol.Budgets
import Cove.Protocol.TabInput
import Cove.Protocol.Terminal

/-!
One run in the worker: output of the PTY, commands and captures enter one queue, and a pump takes them
one at a time through the terminal model. Facts are numbered when they arrive, or, while a command or a
capture waits, when the pump reaches them.

An awaited call of the model or of the native PTY is a state of its own. Whatever may happen before the
call returns, callbacks into the session included, is an event between the two steps around it.
-/

namespace Cove.Worker.RunSession
open Base.Chunks Protocol.Identity Protocol.TabInput Protocol.Terminal Protocol.Budgets

def outputChunkBytes : Nat := 65536

structure NativeExit where
  exitCode : Int
  signal : Option Int

/-- A process ends either by exiting or by a signal; node-pty reports signal 0 for an ordinary exit. -/
def reportedExit (signalNames : Int → Option String) (exit : NativeExit) : Option Int × Option String :=
  match exit.signal with
  | none => (some exit.exitCode, none)
  | some signal =>
      if signal = 0 then (some exit.exitCode, none)
      else (none, some ((signalNames signal).getD (toString signal)))

structure EngineState where
  geometry : Geometry
  appearance : Appearance

inductive EngineOutcome where
  | ok (state : EngineState)
  | failed (code reason : String)
  | threw

inductive RunSessionOperation where
  | status (cached : Bool)
  | stop
  | control (expectedEpoch nextEpoch : Nat) (holder : Option ControlHolder) (geometry : Geometry)
      (appearance : Option Appearance)
  | resize (subscription : SubscriptionRef) (epoch : Nat) (geometry : Geometry)
  | appearance (subscription : SubscriptionRef) (epoch : Nat) (appearance : Appearance)
  | programmaticInput (epoch : Nat) (bytes : List UInt8) (submit : Bool)
  | input (subscription : SubscriptionRef) (epoch inputSeq : Nat) (bytes : List UInt8)
  deriving DecidableEq

inductive RunSessionOperationResult where
  | programmatic (text : InputPartReceipt) (submit : Option InputPartReceipt)
  | stopped
  | settled (atSeq : Nat) (state : EngineState) (controlEpoch : Nat) (controlHolder : Option ControlHolder)
  | written (writtenBytes atSeq : Nat)
  | rejected (reason : String)
  | unknown (reason : String)

inductive Answer where
  | barrier (result : EngineOutcome)
  | capture (status reason : String)
  | captured
  | operation (result : RunSessionOperationResult)

/-- Queue items. Ingress carries the lease its bytes are charged to, the others the promise they answer. -/
inductive Pending where
  | fact (fact : Fact) (lease : Nat)
  | unpublished (bytes : List UInt8) (lease : Nat)
  | deferredOutput (bytes : List UInt8) (lease : Nat)
  | deferredExit (exit : NativeExit) (lease : Nat)
  | barrier (promise : Nat)
  | baseline (promise : Nat)
  | preview (promise : Nat)
  | operation (operation : RunSessionOperation) (promise : Nat)

/-- Output and exits that arrive behind one of these are numbered only when the pump reaches them. -/
def Pending.defers : Pending → Bool
  | .operation .. | .baseline _ | .preview _ | .deferredOutput .. | .deferredExit .. => true
  | _ => false

def Pending.payload : Pending → List UInt8
  | .fact entry _ => entry.bytes
  | .unpublished bytes _ => bytes
  | .deferredOutput bytes _ => bytes
  | _ => []

def Pending.lease? : Pending → Option Nat
  | .fact _ lease | .unpublished _ lease | .deferredOutput _ lease | .deferredExit _ lease => some lease
  | _ => none

def Pending.isStop : Pending → Bool
  | .operation .stop _ => true
  | _ => false

/-- What an operation still has to do once the state it starts from is known. -/
structure Plan where
  geometry : Option Geometry
  appearance : Option Appearance
  control : Bool
  deriving DecidableEq

def Plan.facts (plan : Plan) : Nat := plan.geometry.toList.length + plan.appearance.toList.length + plan.control.toNat

inductive Rest where
  | item
  | resized (operation : RunSessionOperation) (plan : Plan)
  | recolored (operation : RunSessionOperation) (plan : Plan)
  | granted (operation : RunSessionOperation)
  deriving DecidableEq

/-- The call the pump is in: of the model, of the native PTY, or of the observers of a fact. -/
inductive Await where
  | barrier
  | capture
  | unpublished
  | apply (fact : Fact) (rest : Rest)
  | observed (ok : Bool) (rest : Rest)
  | stop
  | status
  | current (operation : RunSessionOperation)
  | resizing (operation : RunSessionOperation) (geometry : Geometry) (plan : Plan)
  | settling (operation : RunSessionOperation)
  | input
  | text (size : Nat) (submit : Bool)
  | submit (text : InputPartReceipt)

structure Running where
  item : Pending
  await : Await

structure InputKey where
  connectionId : String
  generation : Nat
  viewId : String
  subscriptionId : String
  deriving DecidableEq

/-- A call of `submit` on the native PTY, with the control state it was made in. -/
inductive Submission where
  | user (subscription : SubscriptionRef) (epoch inputSeq : Nat) (bytes : List UInt8) (controlEpoch : Nat)
      (controlHolder : Option ControlHolder)
  | programmatic (bytes : List UInt8) (controlEpoch : Nat) (controlHolder : Option ControlHolder)

inductive NativeFault where
  | input (reason : String)
  | automaticOutput (reason : String)
  | io (reason : String)
  | binding (reason : String)
  | observer (reason : String)

inductive RunSessionFault where
  | native (fault : NativeFault)
  | pump (reason : String)
  | consumer

/-- The fields of the session, and after them the trace of what it did: the bytes the PTY produced, the
facts handed to the model, those observed, the native submissions, the leases taken and retired, the faults
reported and the answers given. -/
structure Session where
  native : Bool
  pending : List Pending
  queuedBytes : Nat
  peakQueuedBytes : Nat
  receivedSeq : Nat
  parsedSeq : Nat
  running : Option Running
  scheduled : Bool
  paused : Bool
  pausing : Bool
  resuming : Bool
  exited : Bool
  exitApplied : Bool
  faulted : Bool
  counterExhausted : Bool
  epochCounterExhausted : Bool
  inputCounterExhausted : Bool
  disposed : Bool
  consumerFenced : Bool
  stopStarted : Bool
  stopOperation : Bool
  deferIngress : Bool
  writableFenced : Bool
  geometry : Geometry
  controlEpoch : Nat
  controlHolder : Option ControlHolder
  inputSequences : InputKey → Option Nat
  lastState : EngineState
  arrived : List UInt8
  applied : List Fact
  retained : List Fact
  submitted : List Submission
  leases : List Nat
  retired : List Nat
  reports : List RunSessionFault
  promises : Nat
  stopWaiters : List Nat
  answers : List (Nat × Answer)

structure Options where
  run : RunRef
  geometry : Geometry
  appearance : Appearance
  budgets : EffectiveBudgets
  signalNames : Int → Option String

def itemCap : Nat := m0Limits.pendingWorkerCommands

def itemHigh : Nat := itemCap * 3 / 4

def itemLow : Nat := itemCap / 4

variable (options : Options)

def Session.new : Session where
  native := false
  pending := []
  queuedBytes := 0
  peakQueuedBytes := 0
  receivedSeq := 0
  parsedSeq := 0
  running := none
  scheduled := false
  paused := false
  pausing := false
  resuming := false
  exited := false
  exitApplied := false
  faulted := false
  counterExhausted := false
  epochCounterExhausted := false
  inputCounterExhausted := false
  disposed := false
  consumerFenced := false
  stopStarted := false
  stopOperation := false
  deferIngress := false
  writableFenced := false
  geometry := options.geometry
  controlEpoch := 0
  controlHolder := none
  inputSequences := fun _ => none
  lastState := ⟨options.geometry, options.appearance⟩
  arrived := []
  applied := []
  retained := []
  submitted := []
  leases := []
  retired := []
  reports := []
  promises := 0
  stopWaiters := []
  answers := []

variable (session : Session)

namespace Session

def queuedItems : Nat := session.pending.length + session.running.isSome.toNat

def requestStop : Session :=
  if ¬session.native ∨ session.stopStarted then session else { session with stopStarted := true }

def schedule : Session :=
  if session.scheduled ∨ session.running.isSome ∨ ¬session.native ∨ session.disposed then session
  else { session with scheduled := true }

def reportFault (fault : RunSessionFault) : Session :=
  if session.disposed then session else { session with reports := session.reports ++ [fault] }

variable (reason : String)

def fault : Session :=
  if session.faulted ∨ session.disposed then session
  else ((({ session with faulted := true }).requestStop).reportFault (.pump reason)).schedule

/-- Faults of input, automatic output, resizing and stopping fence only what can be written. -/
def fencesOnly : NativeFault → Bool
  | .input _ | .automaticOutput _ => true
  | .io reason => reason == "resize-failed" || reason == "owned-stop-failed"
  | _ => false

def onFault (fault : NativeFault) : Session :=
  if fencesOnly fault then ({ session with writableFenced := true }).reportFault (.native fault)
  else if session.faulted then session
  else
    let session := ({ session with faulted := true }).requestStop
    if session.disposed then session else (session.reportFault (.native fault)).schedule

/-- The native call is in progress from here until `pauseReturned`. -/
def pause : Session :=
  if ¬session.native ∨ session.paused ∨ session.faulted ∨ session.disposed ∨ session.exited then session
  else { session with paused := true, pausing := true }

def pauseIfHigh (budgets : EffectiveBudgets) (session : Session) : Session :=
  if session.queuedBytes < budgets.parseHighBytes ∧ session.queuedItems < itemHigh then session
  else session.pause

def pauseReturned (threw : Bool) : Session :=
  if ¬session.pausing then session
  else
    let session := { session with pausing := false }
    if threw then ({ session with paused := false }).onFault (.io "pause-threw")
    else if session.faulted ∨ session.disposed ∨ session.exited then { session with paused := false }
    else session

def answer (promise : Nat) (answer : Answer) : Session :=
  { session with answers := session.answers ++ [(promise, answer)] }

def reply (answer : Answer) : Session :=
  { session.answer session.promises answer with promises := session.promises + 1 }

def releasedAnswer : Pending → Option (Nat × Answer)
  | .barrier promise => some (promise, .barrier (.failed "faulted" reason))
  | .baseline promise | .preview promise => some (promise, .capture "disposed" reason)
  | .operation .stop _ => none
  | .operation _ promise => some (promise, .operation (.rejected reason))
  | _ => none

def stopPromise : Pending → Option Nat
  | .operation .stop promise => some promise
  | _ => none

/-- The queue is emptied: ingress is retired, callers are answered, and those that asked for a stop wait
for the disposal. -/
def releaseItems : Session :=
  { session with
    pending := []
    queuedBytes := session.queuedBytes - (session.pending.flatMap Pending.payload).length
    retired := session.retired ++ session.pending.filterMap Pending.lease?
    stopWaiters := session.stopWaiters ++ session.pending.filterMap stopPromise
    answers := session.answers ++ session.pending.filterMap (releasedAnswer reason) }

/-- `fails` when the model's disposal or the retirement of native input throws. -/
def dispose (fails : Bool) : Session :=
  if session.disposed then session
  else
    let session := ({ session with disposed := true }).releaseItems "Run session disposed"
    { ({ session with faulted := session.faulted || fails }).requestStop with native := false }

def releasePending (fails : Bool) : Session :=
  if session.pending.any Pending.isStop then (session.releaseItems reason).dispose fails
  else session.releaseItems reason

def attach (budgets : EffectiveBudgets) (fails : Bool) : Session :=
  if session.native then session
  else
    let session := { session with native := true }
    if session.faulted ∨ session.disposed then
      (session.releasePending "Run session faulted before native attachment" fails).requestStop
    else (session.pauseIfHigh budgets).schedule

variable (bytes : List UInt8)

def chunks : List (List UInt8) := chunksOf outputChunkBytes bytes

/-- The items for the chunks of one callback: deferred, or numbered from the counter on, and unpublished
once the counter is exhausted. -/
def prepare (run : RunRef) (deferIngress : Bool) (lease : Nat) : List (List UInt8) → Nat → List Pending × Nat × Bool
  | [], receivedSeq => ([], receivedSeq, false)
  | owned :: rest, receivedSeq =>
      if deferIngress then
        let (prepared, last, exhausted) := prepare run deferIngress lease rest receivedSeq
        (.deferredOutput owned lease :: prepared, last, exhausted)
      else if receivedSeq = maxSafeInteger then
        let (prepared, last, _) := prepare run deferIngress lease rest receivedSeq
        (.unpublished owned lease :: prepared, last, true)
      else
        let (prepared, last, exhausted) := prepare run deferIngress lease rest (receivedSeq + 1)
        (.fact ⟨.output run (receivedSeq + 1), owned⟩ lease :: prepared, last, exhausted)

/-- What the worker answers to a request for bytes, and whether copying and queueing then succeed. -/
inductive Reservation where
  | refused
  | failed
  | granted

def onData (reservation : Reservation) : Session :=
  if session.disposed ∨ session.faulted ∨ session.exited then session
  else if bytes = [] then session.fault "Native output callback was not a nonempty Buffer"
  else if bytes.length > options.budgets.parseHardBytes - session.queuedBytes ∨
      (chunks bytes).length > itemCap - session.queuedItems then
    session.fault "Native output exceeded the bounded parse queue"
  else match reservation with
    | .refused => session.fault "Native output exceeded the worker byte budget"
    | .failed => session.fault "Native output copy or enqueue failed"
    | .granted =>
        let (prepared, receivedSeq, exhausted) :=
          prepare options.run session.deferIngress session.leases.length (chunks bytes) session.receivedSeq
        let session := { session with
          pending := session.pending ++ prepared
          receivedSeq := receivedSeq
          counterExhausted := session.counterExhausted || exhausted
          queuedBytes := session.queuedBytes + bytes.length
          leases := session.leases ++ [(chunks bytes).length] }
        ((({ session with
          peakQueuedBytes := max session.peakQueuedBytes session.queuedBytes }).pauseIfHigh options.budgets).schedule)

def onExit (exit : Option NativeExit) (reservation : Reservation) : Session :=
  if session.exited then session
  else match exit with
    | none => session.onFault (.binding "exit-event-invalid")
    | some exit =>
        let session := { session with exited := true }
        if session.disposed ∨ session.faulted then session
        else if session.deferIngress then
          match reservation with
          | .refused => session.fault "Run exit exceeded worker retention capacity"
          | .failed => session.fault "Run exit could not enter the bounded parse queue"
          | .granted =>
              ({ session with
                pending := session.pending ++ [Pending.deferredExit exit session.leases.length]
                leases := session.leases ++ [1] }).schedule
        else if session.receivedSeq = maxSafeInteger then { session with counterExhausted := true }
        else if session.queuedItems ≥ itemCap then
          session.fault "Run exit could not enter the bounded parse queue"
        else match reservation with
          | .refused => session.fault "Run exit exceeded worker retention capacity"
          | .failed => session.fault "Run exit could not enter the bounded parse queue"
          | .granted =>
              let (exitCode, signal) := reportedExit options.signalNames exit
              ({ session with
                pending := session.pending ++
                  [Pending.fact ⟨.exit options.run (session.receivedSeq + 1) exitCode signal, []⟩ session.leases.length]
                receivedSeq := session.receivedSeq + 1
                leases := session.leases ++ [1] }).schedule

def enqueue (item : Nat → Pending) : Session :=
  ((({ session with
    pending := session.pending ++ [item session.promises]
    promises := session.promises + 1 }).pauseIfHigh options.budgets).schedule)

def barrier : Session :=
  if session.disposed then session.reply (.barrier (.failed "faulted" "Run session disposed"))
  else if session.faulted then session.reply (.barrier (.failed "faulted" "Run session faulted"))
  else if session.queuedItems ≥ itemCap then session.reply (.barrier (.failed "faulted" "Run service queue full"))
  else session.enqueue options .barrier

/-- `captureBaseline` and `capturePreview` differ in the item they queue. -/
def capture (item : Nat → Pending) : Session :=
  if session.disposed then session.reply (.capture "disposed" "Run session disposed")
  else if session.faulted then session.reply (.capture "faulted" "Run session faulted")
  else if session.queuedItems ≥ itemCap then session.reply (.capture "unavailable" "Run service queue full")
  else ({ session with deferIngress := true }).enqueue options item

def captureBaseline : Session := session.capture options .baseline

def capturePreview : Session := session.capture options .preview

def settledResult (state : EngineState) : RunSessionOperationResult :=
  .settled session.parsedSeq state session.controlEpoch session.controlHolder

def answersFromCache : RunSessionOperation → Bool
  | .status cached => cached || session.disposed || session.faulted || decide (session.queuedItems ≥ itemCap)
  | _ => false

/-- A stop is queued past the capacity, and once; the others only while there is room. -/
def execute (operation : RunSessionOperation) (fails : Bool) : Session :=
  match operation with
  | .stop =>
      if session.stopOperation then session
      else
        let session := { session with stopOperation := true }
        if session.disposed ∨ session.faulted then
          let disposed := session.dispose fails
          { disposed with stopWaiters := disposed.stopWaiters ++ [disposed.promises], promises := disposed.promises + 1 }
        else ({ session with deferIngress := true }).enqueue options (.operation .stop)
  | operation =>
      if session.answersFromCache operation then
        session.reply (.operation (session.settledResult session.lastState))
      else if session.disposed ∨ session.faulted then session.reply (.operation (.rejected "session-fenced"))
      else if session.queuedItems ≥ itemCap then session.reply (.operation (.rejected "queue-full"))
      else ({ session with deferIngress := true }).enqueue options (.operation operation)

variable (item : Pending)

/-- The end of a turn of the pump: the item's ingress is retired, the queue decides anew whether ingress is
deferred, and a paused PTY is resumed when the queue is low. -/
def finish : Session :=
  let session := { session with
    queuedBytes := session.queuedBytes - item.payload.length
    retired := session.retired ++ item.lease?.toList
    running := none
    deferIngress := session.pending.any Pending.defers }
  let session :=
    if session.native ∧ session.paused ∧ ¬session.faulted ∧ ¬session.disposed ∧ ¬session.exited ∧
        session.queuedBytes ≤ options.budgets.parseLowBytes ∧ session.pending.length ≤ itemLow then
      { session with paused := false, resuming := true }
    else session
  session.schedule

def resumeReturned (threw : Bool) : Session :=
  if ¬session.resuming then session
  else if threw then ({ session with resuming := false }).fault "Native resume failed"
  else { session with resuming := false }

def failedAnswer : Pending → Option (Nat × Answer)
  | .barrier promise => some (promise, .barrier (.failed "faulted" "Ordered terminal barrier failed"))
  | .baseline promise => some (promise, .capture "faulted" "Ordered baseline capture failed")
  | .preview promise => some (promise, .capture "faulted" "Ordered preview capture failed")
  | .operation _ promise => some (promise, .operation (.unknown "ordered-operation-failed"))
  | _ => none

/-- The turn threw: its caller is told, and the run is faulted. -/
def caught : Session :=
  (({ session with answers := session.answers ++ (failedAnswer item).toList }).fault
    "Ordered terminal parse failed").finish options item

def await (await : Await) : Session :=
  { session with running := some ⟨item, await⟩ }

def conclude (result : RunSessionOperationResult) : Session :=
  match item with
  | .operation _ promise => (session.answer promise (.operation result)).finish options item
  | _ => session.finish options item

/-- The model is gone once the session is disposed of: calling it throws. -/
def applyFact (fact : Fact) (rest : Rest) : Session :=
  if session.disposed then session.caught options item
  else ({ session with applied := session.applied ++ [fact] }).await item (.apply fact rest)

def applyNext (event : Nat → RunEvent) (bytes : List UInt8) (rest : Rest) : Session :=
  ({ session with receivedSeq := session.receivedSeq + 1 }).applyFact options item
    ⟨event (session.receivedSeq + 1), bytes⟩ rest

variable (subscription : SubscriptionRef)

def inputKey : InputKey where
  connectionId := subscription.connection.connectionId
  generation := subscription.connection.generation
  viewId := subscription.viewId
  subscriptionId := subscription.subscriptionId

def matchesAuthority (epoch : Nat) : Bool :=
  match session.controlHolder with
  | none => false
  | some holder =>
      epoch == session.controlEpoch && sameRunRef subscription.run options.run &&
        holder.connection.connectionId == subscription.connection.connectionId &&
        holder.connection.generation == subscription.connection.generation &&
        holder.viewId == subscription.viewId && holder.subscriptionId == subscription.subscriptionId

/-- What the worker answers to the callbacks of an operation, and whether disposing of the native PTY throws. -/
structure Oracle where
  isSubscriptionInstalled : SubscriptionRef → Bool
  reserveInputIdentity : SubscriptionRef → Bool
  beforeNativeInput : Bool
  fails : Bool

def submitPart : Session :=
  { session with submitted := session.submitted ++
      [Submission.programmatic bytes session.controlEpoch session.controlHolder] }

/-- The refusal of programmatic input names the same reason for both parts. -/
def refuseProgrammatic (submit : Bool) (reason : String) : RunSessionOperationResult :=
  .programmatic (inputPartReceipt bytes.length 0 0 reason)
    (if submit then some (inputPartReceipt 1 0 0 reason) else none)

/-- Programmatic input is written only while no one holds control; without text only the submit is. -/
def programmaticInput (epoch : Nat) (bytes : List UInt8) (submit : Bool) (oracle : Oracle) : Session :=
  if epoch ≠ session.controlEpoch then
    session.conclude options item (refuseProgrammatic bytes submit "stale-control")
  else if session.controlHolder ≠ none then
    session.conclude options item (refuseProgrammatic bytes submit "controller-present")
  else if ¬oracle.beforeNativeInput then
    session.conclude options item (refuseProgrammatic bytes submit "worker-byte-limit")
  else if bytes ≠ [] then (session.submitPart bytes).await item (.text bytes.length submit)
  else if submit then (session.submitPart [13]).await item (.submit (inputPartReceipt 0 0 0 ""))
  else session.conclude options item (.programmatic (inputPartReceipt 0 0 0 "") none)

def input (epoch inputSeq : Nat) (bytes : List UInt8) (oracle : Oracle) : Session :=
  let key := inputKey subscription
  let previous := (session.inputSequences key).getD 0
  if previous = maxSafeInteger then
    ({ session with inputCounterExhausted := true }).conclude options item (.rejected "counter-exhausted")
  else if inputSeq ≤ previous then session.conclude options item (.rejected "input-sequence")
  else if session.inputSequences key = none ∧ ¬oracle.reserveInputIdentity subscription then
    session.conclude options item (.rejected "input-identity-cap")
  else
    let session := { session with inputSequences := Function.update session.inputSequences key (some inputSeq) }
    if ¬oracle.beforeNativeInput then session.conclude options item (.rejected "worker-byte-limit")
    else
      ({ session with submitted := session.submitted ++
        [Submission.user subscription epoch inputSeq bytes session.controlEpoch session.controlHolder] }).await item .input

/-- Whether a control operation may go on: the reason of its refusal, and whether the epoch is exhausted. -/
def refuseControl (expectedEpoch nextEpoch : Nat)
    (holder : Option ControlHolder) (oracle : Oracle) : Option (String × Bool) :=
  if expectedEpoch ≠ session.controlEpoch then some ("stale-control", false)
  else match holder with
    | some holder =>
        if ¬oracle.isSubscriptionInstalled ⟨options.run, holder.connection, holder.subscriptionId, holder.viewId⟩ then
          some ("subscription-not-installed", false)
        else if session.controlEpoch = maxSafeInteger then some ("counter-exhausted", true)
        else if nextCounter session.controlEpoch ≠ some nextEpoch then some ("stale-control", false)
        else none
    | none =>
        if session.controlEpoch = 0 ∨ nextEpoch ≠ session.controlEpoch then some ("stale-control", false) else none

def refuseSubscription (epoch : Nat) (oracle : Oracle) : Option String :=
  if ¬oracle.isSubscriptionInstalled subscription then some "subscription-not-installed"
  else if ¬session.matchesAuthority options subscription epoch then some "stale-control"
  else none

/-- The part of an operation that runs before its first call of the model or of the native PTY. -/
def runOperation (operation : RunSessionOperation) (oracle : Oracle) : Session :=
  match operation with
  | .stop => (session.dispose oracle.fails).await item .stop
  | .status _ =>
      if session.disposed ∨ session.faulted then session.conclude options item (.rejected "session-fenced")
      else session.await item .status
  | operation =>
      if session.disposed ∨ session.faulted then session.conclude options item (.rejected "session-fenced")
      else if session.writableFenced ∨ session.exitApplied then
        session.conclude options item (.rejected "writable-fenced")
      else match operation with
        | .programmaticInput epoch bytes submit => session.programmaticInput options item epoch bytes submit oracle
        | .control expectedEpoch nextEpoch holder _ _ =>
            match session.refuseControl options expectedEpoch nextEpoch holder oracle with
            | some (reason, exhausted) =>
                ({ session with epochCounterExhausted := session.epochCounterExhausted || exhausted }).conclude
                  options item (.rejected reason)
            | none => session.await item (.current operation)
        | .input subscription epoch inputSeq bytes =>
            match session.refuseSubscription options subscription epoch oracle with
            | some reason => session.conclude options item (.rejected reason)
            | none => session.input options item subscription epoch inputSeq bytes oracle
        | .resize subscription epoch _ | .appearance subscription epoch _ =>
            match session.refuseSubscription options subscription epoch oracle with
            | some reason => session.conclude options item (.rejected reason)
            | none => session.await item (.current operation)
        | _ => session

/-- The facts an operation makes of the state the model reports. -/
def plan (operation : RunSessionOperation) (state : EngineState) : Plan where
  geometry :=
    match operation with
    | .control _ _ _ geometry _ | .resize _ _ geometry => if geometry = state.geometry then none else some geometry
    | _ => none
  appearance :=
    match operation with
    | .control _ _ _ _ (some appearance) | .appearance _ _ appearance =>
        if appearance = state.appearance then none else some appearance
    | _ => none
  control :=
    match operation with
    | .control _ _ holder _ _ => holder.isSome || session.controlHolder.isSome
    | _ => false

def settle (operation : RunSessionOperation) : Session :=
  if session.disposed then session.caught options item else session.await item (.settling operation)

def grant (operation : RunSessionOperation) (plan : Plan) : Session :=
  match operation with
  | .control _ nextEpoch holder geometry _ =>
      if plan.control then
        session.applyNext options item (fun seq => .control options.run seq nextEpoch holder geometry) []
          (.granted operation)
      else session.settle options item operation
  | _ => session.settle options item operation

def recolor (operation : RunSessionOperation) (plan : Plan) : Session :=
  match plan.appearance with
  | some appearance =>
      session.applyNext options item (fun seq => .appearance options.run seq appearance) []
        (.recolored operation plan)
  | none => session.grant options item operation plan

def fenceWritable : Session := { session with writableFenced := true }

/-- The native resize has not been called yet; without a native PTY the call throws. -/
def resize (operation : RunSessionOperation) (plan : Plan) : Session :=
  match plan.geometry with
  | some geometry =>
      if session.native then session.await item (.resizing operation geometry plan)
      else session.fenceWritable.conclude options item (.unknown "native-resize-failed")
  | none => session.recolor options item operation plan

def resized (operation : RunSessionOperation) (geometry : Geometry) (plan : Plan) (threw : Bool) : Session :=
  if threw then session.fenceWritable.conclude options item (.unknown "native-resize-failed")
  else if session.faulted ∨ session.disposed ∨ session.writableFenced then
    session.fenceWritable.conclude options item (.unknown "native-resize-faulted")
  else
    session.applyNext options item (fun seq => .resize options.run seq geometry true) [] (.resized operation plan)

def current (operation : RunSessionOperation) (outcome : EngineOutcome) : Session :=
  match outcome with
  | .threw => session.caught options item
  | .failed _ reason => session.conclude options item (.rejected reason)
  | .ok state =>
      let plan := session.plan operation state
      if plan.facts > maxSafeInteger - session.receivedSeq then
        ({ session with counterExhausted := true }).conclude options item (.rejected "counter-exhausted")
      else session.resize options item operation plan

/-- The model has applied a fact. Its observers are called from here on and may call the session. -/
def factApplied (fact : Fact) (rest : Rest) (outcome : EngineOutcome) (consumerFails : Bool) : Session :=
  match outcome with
  | .threw => session.caught options item
  | .failed code reason =>
      (session.fault ("Terminal model " ++ code ++ ": " ++ reason)).await item (.observed false rest)
  | .ok state =>
      if session.disposed ∨ session.faulted then session.await item (.observed true rest)
      else
        let session := { session with
          parsedSeq := fact.seq
          lastState := state
          geometry := state.geometry
          exitApplied := session.exitApplied || fact.event.isExit
          retained := session.retained ++ [fact] }
        if ¬session.consumerFenced ∧ consumerFails then
          (({ session with consumerFenced := true }).reportFault .consumer).await item (.observed true rest)
        else session.await item (.observed true rest)

def unappliedReason : Rest → String
  | .item => ""
  | .resized .. => "model-resize-failed"
  | .recolored .. => "model-appearance-failed"
  | .granted _ => "model-control-failed"

def continueAfter (ok : Bool) (rest : Rest) : Session :=
  match rest with
  | .item => session.finish options item
  | rest =>
      if ¬ok ∨ session.faulted ∨ session.disposed then
        session.fenceWritable.conclude options item (.unknown (unappliedReason rest))
      else match rest with
        | .resized operation plan => session.recolor options item operation plan
        | .recolored operation plan => session.grant options item operation plan
        | .granted operation => session.settle options item operation
        | .item => session

/-- Control changes hands when the last barrier of its operation has settled. -/
def settled (operation : RunSessionOperation) (outcome : EngineOutcome) : Session :=
  match outcome with
  | .threw => session.caught options item
  | .failed _ _ => session.fenceWritable.conclude options item (.unknown "operation-barrier-failed")
  | .ok state =>
      let session := match operation with
        | .control _ nextEpoch holder _ _ => { session with controlEpoch := nextEpoch, controlHolder := holder }
        | _ => session
      session.conclude options item (session.settledResult state)

inductive InputOutcome where
  | threw
  | rejected (reason : String)
  | settledThenRejected
  | unknown (reason : String)
  | written (bytes : Nat)
  | unsettled
  | deadline

def inputSettled (outcome : InputOutcome) : Session :=
  match outcome with
  | .threw => session.fenceWritable.conclude options item (.unknown "native-input-threw")
  | .rejected reason => session.conclude options item (.rejected reason)
  | .settledThenRejected => session.fenceWritable.conclude options item (.unknown "settlement-before-rejection")
  | .unknown reason => session.fenceWritable.conclude options item (.unknown reason)
  | .written bytes =>
      if bytes > 0 then session.conclude options item (.written bytes session.parsedSeq)
      else session.fenceWritable.conclude options item (.unknown "input-settlement-unknown")
  | .unsettled => session.fenceWritable.conclude options item (.unknown "input-settlement-unknown")
  | .deadline => session.fenceWritable.conclude options item (.unknown "input-settlement-deadline")

inductive PartOutcome where
  | written (bytes : Nat)
  | native (status : String) (bytes : Nat)
  | settlementUnknown (bytes remaining : Nat)
  | settlementInvalid
  | rejected (reason : String)
  | unknown (reason : String)
  | deadline
  | threw

def partReceipt (size : Nat) : PartOutcome → InputPartReceipt
  | .written bytes => inputPartReceipt size bytes 0 ""
  | .native status bytes => inputPartReceipt size bytes 0 ("native-" ++ status)
  | .settlementUnknown bytes remaining => inputPartReceipt size bytes remaining "native-settlement-unknown"
  | .settlementInvalid => inputPartReceipt size 0 size "native-settlement-invalid"
  | .rejected reason => inputPartReceipt size 0 0 reason
  | .unknown reason => inputPartReceipt size 0 size reason
  | .deadline => inputPartReceipt size 0 size "input-settlement-deadline"
  | .threw => inputPartReceipt size 0 size "native-input-threw"

def fenceUnwritten (receipt : InputPartReceipt) : Session :=
  if receipt.status = .written then session else session.fenceWritable

def submitSettled (text : InputPartReceipt) (outcome : PartOutcome) : Session :=
  let receipt := partReceipt 1 outcome
  (session.fenceUnwritten receipt).conclude options item (.programmatic text (some receipt))

/-- The submit follows a text that was written whole. -/
def textSettled (size : Nat) (submit : Bool) (outcome : PartOutcome) : Session :=
  let text := partReceipt size outcome
  let session := session.fenceUnwritten text
  if ¬submit then session.conclude options item (.programmatic text none)
  else if text.status ≠ .written then
    session.conclude options item (.programmatic text (some (inputPartReceipt 1 0 0 "text-not-complete")))
  else if ¬session.native then session.submitSettled options item text .threw
  else (session.submitPart [13]).await item (.submit text)

/-- The first part of a turn: the item leaves the queue and runs until it has to wait. -/
def start (oracle : Oracle) : Session :=
  match item with
  | .barrier _ => session.await item .barrier
  | .baseline _ | .preview _ => session.await item .capture
  | .operation operation _ => session.runOperation options item operation oracle
  | .unpublished _ _ => session.await item .unpublished
  | .deferredOutput bytes _ =>
      if session.receivedSeq = maxSafeInteger then ({ session with counterExhausted := true }).await item .unpublished
      else session.applyNext options item (fun seq => .output options.run seq) bytes .item
  | .deferredExit exit _ =>
      if session.receivedSeq = maxSafeInteger then ({ session with counterExhausted := true }).finish options item
      else
        let (exitCode, signal) := reportedExit options.signalNames exit
        session.applyNext options item (fun seq => .exit options.run seq exitCode signal) [] .item
  | .fact fact _ => session.applyFact options item fact .item

def drainOne (oracle : Oracle) : Session :=
  if session.running.isSome ∨ session.disposed ∨ ¬session.native then session
  else if session.faulted then session.releasePending "Run session faulted" oracle.fails
  else match session.pending with
    | [] => session
    | item :: rest => ({ session with pending := rest }).start options item oracle

def engineReturned (outcome : EngineOutcome) (consumerFails : Bool) : Session :=
  match session.running with
  | none => session
  | some ⟨item, await⟩ =>
      match await with
      | .barrier =>
          match outcome, item with
          | .threw, _ => session.caught options item
          | outcome, .barrier promise =>
              let result := if session.disposed then .failed "faulted" "Run session disposed" else outcome
              (session.answer promise (.barrier result)).finish options item
          | _, _ => session
      | .capture =>
          match outcome, item with
          | .threw, _ => session.caught options item
          | _, .baseline promise | _, .preview promise => (session.answer promise .captured).finish options item
          | _, _ => session
      | .unpublished =>
          match outcome with
          | .threw => session.caught options item
          | .failed code reason =>
              (session.fault ("Terminal model " ++ code ++ ": " ++ reason)).finish options item
          | .ok _ => session.finish options item
      | .apply fact rest => session.factApplied options item fact rest outcome consumerFails
      | .status =>
          match outcome with
          | .threw => session.caught options item
          | .failed _ reason => session.conclude options item (.rejected reason)
          | .ok state =>
              ({ session with lastState := state }).conclude options item (session.settledResult state)
      | .current operation => session.current options item operation outcome
      | .settling operation => session.settled options item operation outcome
      | _ => session

def observersReturned : Session :=
  match session.running with
  | some ⟨item, .observed ok rest⟩ => session.continueAfter options item ok rest
  | _ => session

def resizeReturned (threw : Bool) : Session :=
  match session.running with
  | some ⟨item, .resizing operation geometry plan⟩ => session.resized options item operation geometry plan threw
  | _ => session

def inputReturned (outcome : InputOutcome) : Session :=
  match session.running with
  | some ⟨item, .input⟩ => session.inputSettled options item outcome
  | _ => session

def partReturned (outcome : PartOutcome) : Session :=
  match session.running with
  | some ⟨item, .text size submit⟩ => session.textSettled options item size submit outcome
  | some ⟨item, .submit text⟩ => session.submitSettled options item text outcome
  | _ => session

/-- The receipt of the disposal answers everyone who asked for a stop. -/
def disposalSettled : Session :=
  if ¬session.disposed then session
  else
    let session := { session with
      answers := session.answers ++ session.stopWaiters.map (fun promise => (promise, Answer.operation .stopped))
      stopWaiters := [] }
    match session.running with
    | some ⟨item, .stop⟩ => session.conclude options item .stopped
    | _ => session

/-- The native stop has ended; it may report an exit that was not observed before. -/
def stopReturned (exited : Bool) : Session :=
  if session.stopStarted ∧ exited then { session with exited := true } else session

/-- A query reply of the model has to find the native writer. -/
def automaticOutput (atSeq : Option Nat) : Session :=
  if session.disposed ∨ session.faulted then session
  else if ¬session.native ∨ atSeq = none ∧ ¬session.counterExhausted then
    session.fault "Automatic output has no bound native writer"
  else session

/-- The exit is the last the PTY produces: bytes that come after it are neither taken by `onData` nor counted here. -/
def produce : Session :=
  if session.exited then session else { session with arrived := session.arrived ++ bytes }

end Session

open Session

inductive Event where
  | attach (fails : Bool)
  | data (bytes : List UInt8) (reservation : Reservation)
  | exit (exit : Option NativeExit) (reservation : Reservation)
  | nativeFault (fault : NativeFault)
  | automaticOutput (atSeq : Option Nat)
  | barrier
  | captureBaseline
  | capturePreview
  | execute (operation : RunSessionOperation) (fails : Bool)
  | dispose (fails : Bool)
  | drain (oracle : Oracle)
  | engine (outcome : EngineOutcome) (consumerFails : Bool)
  | observed
  | resized (threw : Bool)
  | inputSettled (outcome : InputOutcome)
  | partSettled (outcome : PartOutcome)
  | lateSettlement (written : Bool)
  | paused (threw : Bool)
  | resumed (threw : Bool)
  | stopped (exited : Bool)
  | disposalSettled

def step : Event → Session
  | .attach fails => session.attach options.budgets fails
  | .data bytes reservation => (session.produce bytes).onData options bytes reservation
  | .exit exit reservation => session.onExit options exit reservation
  | .nativeFault fault => session.onFault fault
  | .automaticOutput atSeq => session.automaticOutput atSeq
  | .barrier => session.barrier options
  | .captureBaseline => session.captureBaseline options
  | .capturePreview => session.capturePreview options
  | .execute operation fails => session.execute options operation fails
  | .dispose fails => session.dispose fails
  | .drain oracle =>
      if session.scheduled then ({ session with scheduled := false }).drainOne options oracle else session
  | .engine outcome consumerFails => session.engineReturned options outcome consumerFails
  | .observed => session.observersReturned options
  | .resized threw => session.resizeReturned options threw
  | .inputSettled outcome => session.inputReturned options outcome
  | .partSettled outcome => session.partReturned options outcome
  | .lateSettlement written => if written then session else session.fenceWritable
  | .paused threw => session.pauseReturned threw
  | .resumed threw => session.resumeReturned threw
  | .stopped exited => session.stopReturned exited
  | .disposalSettled => session.disposalSettled options

end Cove.Worker.RunSession
