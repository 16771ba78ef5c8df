import Cove.Base.Run
import Cove.Protocol.EventFrame
import Cove.Protocol.Pipe
import Cove.Protocol.TabInput

/-!
The control arbiter, as one run sees it: the commands of every connection and the programmatic input for the run
enter one queue, and a drain takes them one at a time. When the queue is empty, the drain releases the control
that retired subscriptions still hold.

An awaited call is a state of the drain of its own, and so is the moment between the return of an asynchronous
function and the continuation of its caller. Whatever may happen in between is an event between the two steps.
-/

namespace Cove.Runtime.ControlArbiter
open Protocol.Budgets Protocol.Frame Protocol.Identity Protocol.Pipe Protocol.TabInput
open Protocol.Terminal

inductive ControlCommand where
  | focus (focusSeq : Nat) (geometry : Geometry) (appearance : Option Appearance)
  | blur (epoch : Nat)
  | resize (epoch : Nat) (geometry : Geometry)
  | appearance (epoch : Nat) (appearance : Appearance)
  | input (epoch inputSeq : Nat)

def ControlCommand.isInput : ControlCommand → Bool
  | .input .. => true
  | _ => false

def ControlCommand.geometry? : ControlCommand → Option Geometry
  | .focus _ geometry _ | .resize _ geometry => some geometry
  | _ => none

def ControlCommand.appearance? : ControlCommand → Option Appearance
  | .focus _ _ colours => colours
  | .appearance _ colours => some colours
  | _ => none

def ControlCommand.epoch? : ControlCommand → Option Nat
  | .focus .. => none
  | .blur epoch | .resize epoch _ | .appearance epoch _ | .input epoch _ => some epoch

structure ProgramCommand where
  epoch : Nat
  textBytes : Nat
  submit : Bool
  bounded : textBytes ≤ tabSendTextBytes
  deriving DecidableEq

variable (command : ProgramCommand)

def ProgramCommand.notSent (reason : String) (unknown : Bool) : TabInputReceipt :=
  Cove.Protocol.TabInput.notSent command.textBytes command.submit reason unknown

inductive Cleanup where
  | none
  | pending
  | unknown
  deriving DecidableEq

structure Counter where
  ref : SubscriptionRef
  focus : Nat
  input : Nat
  grantEpoch : Nat
  grantAtSeq : Nat
  retired : Bool
  cleanup : Cleanup
  cleanupEpoch : Nat

structure Boundary where
  epoch : Nat
  holder : Option ControlHolder
  geometry : Geometry
  atSeq : Nat
  deriving DecidableEq

inductive Work where
  | control (command : ControlCommand) (subscription : SubscriptionRef)
  | programmatic (command : ProgramCommand) (cancelled : Option String)

def Work.isProgrammatic : Work → Bool
  | .programmatic .. => true
  | .control .. => false

structure Job where
  id : Nat
  work : Work
  payload : List UInt8
  ready : Bool
  dispatched : Bool

def Job.isProgrammatic (job : Job) : Bool := job.work.isProgrammatic

def Job.isFor (job : Job) (ref : SubscriptionRef) : Bool :=
  match job.work with
  | .control _ subscription => subscription == ref
  | .programmatic .. => false

def Job.inputBytes (job : Job) : Nat :=
  job.payload.length + (match job.work with
    | .programmatic command _ => command.submit.toNat
    | .control .. => 0)

inductive ControlReply where
  | error (error : DomainError)
  | granted (epoch atSeq : Nat)
  | written (epoch inputSeq writtenBytes : Nat)
  deriving DecidableEq

inductive Await where
  | status
  | accept
  | write
  | returned (receipt : TabInputReceipt)
  | boundary
  | bounded (failure : Option DomainError)
  | command (boundary : Boundary)
  | replied (reply : ControlReply)
  | releasing (index : Nat) (boundary : Boundary)
  | cleaned

/-- What the arbiter did, in order: a control command is sent, programmatic input is dispatched. -/
inductive Entry where
  | admitted (id : Nat)
  | sent (id : Nat)
  | dispatched (id : Nat)
  | settled (id : Nat) (command : ProgramCommand) (receipt : TabInputReceipt)
  | replied (id : Nat) (reply : ControlReply)
  deriving DecidableEq

structure Arbiter where
  opened : Bool
  boundary : Option Boundary
  uncertain : Bool
  queue : List Job
  programFailure : Option String
  counters : List Counter
  running : Option Await
  disposed : Bool
  nextId : Nat
  log : List Entry

def Arbiter.new : Arbiter where
  opened := false
  boundary := none
  uncertain := false
  queue := []
  programFailure := none
  counters := []
  running := none
  disposed := false
  nextId := 0
  log := []

/-- What the arbiter reads of its surroundings while it runs: whether the route of a subscription is current and
installed up to a fact, and whether the run is still placed on its worker and registered as not exited. -/
structure Oracle where
  current : SubscriptionRef → Bool
  installed : SubscriptionRef → Option Nat → Bool
  placed : Bool
  registered : Bool

/-- Room outside the run: the jobs other runs have pending, whether bytes can be reserved for a run, for a counter and
for the job itself, and the size of the buffer that backs the bytes of the command. -/
structure Room where
  othersPending : Nat
  run : Bool
  counter : Bool
  job : Bool
  buffer : Nat

inductive StatusAnswer where
  | threw
  | error (error : DomainError)
  | result (accepted : Bool) (status : Option RunStatus)

inductive CommandAnswer where
  | threw
  | error (error : DomainError)
  | result (outcome : Outcome) (atSeq inputSeq writtenBytes : Option Nat)

inductive WriteAnswer where
  | threw
  | error (error : DomainError)
  | result (input : Option TabInputReceipt)

/-- What a programmatic caller's `accept` comes back with. -/
inductive AcceptAnswer where
  | threw
  | answered (accepted : Bool)

inductive RunFact where
  | control (seq epoch : Nat) (holder : Option ControlHolder) (geometry : Geometry)
  | resize (seq : Nat) (geometry : Geometry)
  | exit (seq : Nat)
  | other (seq : Nat)

def RunFact.seq : RunFact → Nat
  | .control seq .. | .resize seq _ | .exit seq | .other seq => seq

def holderOf (ref : SubscriptionRef) : ControlHolder where
  connection := ref.connection
  subscriptionId := ref.subscriptionId
  viewId := ref.viewId

def holds (holder : Option ControlHolder) (ref : SubscriptionRef) : Bool := holder == some (holderOf ref)

def refusal (kind : DomainErrorKind) : DomainError := ⟨kind, .notAccepted, false⟩

def staleConnection : DomainError := refusal (.other "STALE_CONNECTION")
def staleControl : DomainError := refusal (.other "STALE_CONTROL")
def resyncRequired : DomainError := refusal (.other "RESYNC_REQUIRED")
def inputRejected : DomainError := refusal (.other "INPUT_REJECTED")

def resultUnknown (command : ControlCommand) : DomainError := ⟨.resultUnknown, .unknown, command.isInput⟩

def kindName : DomainErrorKind → String
  | .runNotFound => "RUN_NOT_FOUND"
  | .busy => "BUSY"
  | .operationIdConflict => "OPERATION_ID_CONFLICT"
  | .resultUnknown => "RESULT_UNKNOWN"
  | .workerUnavailable => "WORKER_UNAVAILABLE"
  | .counterExhausted => "COUNTER_EXHAUSTED"
  | .capabilityUnavailable => "CAPABILITY_UNAVAILABLE"
  | .other name => name

def truthy (text : Option String) : Bool := text.any (fun value => value != "")

variable (budgets : EffectiveBudgets)

namespace Arbiter

variable (a : Arbiter) (ref : SubscriptionRef)

def counter? : Option Counter := a.counters.find? (fun c => c.ref == ref)

def setCounter (change : Counter → Counter) : Arbiter :=
  { a with counters := a.counters.map (fun c => if c.ref == ref then change c else c) }

def await (stage : Await) : Arbiter := { a with running := some stage }

def record (entry : Entry) : Arbiter := { a with log := a.log ++ [entry] }

def setHead (change : Job → Job) : Arbiter := { a with queue := a.queue.modifyHead change }

def dispatch (entry : Entry) : Arbiter :=
  (a.setHead (fun head => { head with dispatched := true })).record entry

/-- The listener of the runtime's events; facts the boundary already includes are passed over. -/
def onEvent (fact : RunFact) : Arbiter :=
  if !a.opened || a.boundary.any (fun boundary => decide (fact.seq ≤ boundary.atSeq)) then a
  else match fact with
    | .control seq epoch holder geometry => { a with boundary := some ⟨epoch, holder, geometry, seq⟩ }
    | .resize seq geometry =>
      { a with boundary := a.boundary.map (fun boundary => { boundary with geometry := geometry, atSeq := seq }) }
    | .exit _ => { a with uncertain := true }
    | .other _ => a

/-- Subscriptions that are retired, own no release that is pending and no queued job are forgotten. -/
def prune : Arbiter :=
  if a.disposed || !a.opened then a
  else { a with counters := a.counters.filter (fun c =>
    !(c.retired && c.cleanup != .pending && !a.queue.any (fun job => job.isFor c.ref))) }

def headReady : Bool := a.queue.head?.any Job.ready

def runLive (oracle : Oracle) : Bool := !a.disposed && oracle.placed && oracle.registered

variable (command : ProgramCommand)

def beginProgrammatic (cancelled : Option String) (oracle : Oracle) :
    Arbiter :=
  if truthy cancelled || truthy a.programFailure then
    a.await (.returned (command.notSent ((cancelled <|> a.programFailure).getD "") false))
  else if !a.runLive oracle then a.await (.returned (command.notSent "run-not-live" false))
  else a.await .status

def statusAnswered (answer : StatusAnswer) (oracle : Oracle) : Arbiter :=
  let unverifiable := a.await (.returned (command.notSent "control-unverifiable" false))
  match answer with
  | .threw => a.await (.returned (command.notSent "runtime-result-unknown" false))
  | .error _ => unverifiable
  | .result accepted status =>
    if !a.runLive oracle || !accepted then unverifiable
    else match status with
      | none => unverifiable
      | some status =>
        if status.status ≠ .live then unverifiable
        else match status.parsedSeq with
          | none => unverifiable
          | some parsedSeq =>
            if a.boundary.any (fun boundary => decide (boundary.atSeq > parsedSeq)) then unverifiable
            else
              let a := { a with
                boundary := some ⟨status.controlEpoch, status.controlHolder, status.geometry, parsedSeq⟩
                uncertain := false }
              if status.controlHolder.isSome then a.await (.returned (command.notSent "controller-present" false))
              else if status.controlEpoch != command.epoch then
                a.await (.returned (command.notSent "stale-control" false))
              else a.await .accept

def acceptAnswered (job : Job) (command : ProgramCommand) (answer : AcceptAnswer) (oracle : Oracle) :
    Arbiter :=
  match answer with
  | .threw => a.await (.returned (command.notSent "runtime-result-unknown" false))
  | .answered false => a.await (.returned (command.notSent "receipt-not-confirmed" false))
  | .answered true =>
    if !a.runLive oracle then a.await (.returned (command.notSent "run-not-live" false))
    else (a.dispatch (.dispatched job.id)).await .write

/-- What the runtime passes on of a worker's result: one that does not answer the command ends the session. -/
def passedOn : WriteAnswer → WriteAnswer
  | .result (some input) =>
    if input.valid && input.describes command.textBytes command.submit then .result (some input)
    else .error ⟨.resultUnknown, .unknown, false⟩
  | answer => answer

def writtenReceipt : WriteAnswer → TabInputReceipt
  | .threw => command.notSent "runtime-result-unknown" true
  | .result (some input) => input
  | .error error => command.notSent (kindName error.kind) (error.acceptance == .unknown)
  | .result none => command.notSent "runtime-result-unknown" true

def writeAnswered (answer : WriteAnswer) : Arbiter :=
  a.await (.returned (writtenReceipt command (passedOn command answer)))

/-- Why a receipt that is not complete fails the rest of its batch. -/
def failureReason (receipt : TabInputReceipt) : String :=
  (receipt.text.reason <|> receipt.submit.bind InputPartReceipt.reason).getD "earlier-input-not-complete"

def settleProgrammatic (job : Job) (command : ProgramCommand) (receipt : TabInputReceipt) : Arbiter :=
  let failure :=
    if receipt.complete then a.programFailure else a.programFailure <|> some (failureReason receipt)
  let queue := a.queue.tail
  { a with
    queue := queue
    programFailure := if queue.any Job.isProgrammatic then failure else none
    log := a.log ++ [.settled job.id command receipt] }

def current (subscription : SubscriptionRef) (oracle : Oracle) : Bool :=
  !a.disposed && !(a.counter? subscription).any Counter.retired && oracle.current subscription && oracle.placed

def replyError (error : DomainError) : Arbiter := a.await (.replied (.error error))

def failControl (command : ControlCommand) : Arbiter :=
  ({ a with uncertain := true }).replyError (resultUnknown command)

def beginControl (subscription : SubscriptionRef) (oracle : Oracle) : Arbiter :=
  if !a.current subscription oracle then a.replyError staleConnection
  else if !oracle.installed subscription none then a.replyError resyncRequired
  else if a.boundary.isSome && !a.uncertain then a.await (.bounded none)
  else a.await .boundary

def boundaryAnswered (command : ControlCommand) (subscription : SubscriptionRef) (answer : StatusAnswer)
    (oracle : Oracle) : Arbiter :=
  match answer with
  | .threw => a.failControl command
  | answer =>
    if !a.current subscription oracle then a.await (.bounded (some staleConnection))
    else match answer with
      | .error error => a.await (.bounded (some error))
      | .result true (some status) =>
        if status.status ≠ .live then a.await (.bounded (some (refusal .workerUnavailable)))
        else match status.parsedSeq with
          | none => a.await (.bounded (some (refusal .workerUnavailable)))
          | some parsedSeq =>
            if a.boundary.any (fun boundary => decide (boundary.atSeq > parsedSeq)) then
              a.await (.bounded (some staleControl))
            else
              ({ a with
                boundary := some ⟨status.controlEpoch, status.controlHolder, status.geometry, parsedSeq⟩
                uncertain := false }).await (.bounded none)
      | _ => a.await (.bounded (some (refusal .workerUnavailable)))

variable (boundary : Boundary)

def refuseCommand (command : ControlCommand) (subscription : SubscriptionRef) (oracle : Oracle) : Option DomainError :=
  match command.epoch? with
  | none => if boundary.epoch = maxSafeInteger then some (refusal .counterExhausted) else none
  | some epoch =>
    let counter := a.counter? subscription
    if !holds boundary.holder subscription || boundary.epoch != epoch ||
        (counter.map Counter.grantEpoch).getD 0 != epoch then some staleControl
    else match command with
      | .blur _ => none
      | _ =>
        if !oracle.installed subscription (some (max boundary.atSeq ((counter.map Counter.grantAtSeq).getD 0))) then
          some resyncRequired
        else none

/-- The fact up to which the route has to be installed when the command is sent. -/
def installedAt : ControlCommand → Option Nat
  | .focus .. | .blur _ => none
  | _ => some boundary.atSeq

def performBounded (job : Job) (command : ControlCommand) (subscription : SubscriptionRef)
    (failure : Option DomainError) (oracle : Oracle) : Arbiter :=
  match failure with
  | some error => a.replyError error
  | none =>
    if !a.current subscription oracle then a.replyError staleConnection
    else match a.boundary with
      | none => a.failControl command
      | some boundary =>
        match a.refuseCommand boundary command subscription oracle with
        | some error => a.replyError error
        | none =>
          if !oracle.installed subscription (installedAt boundary command) then a.replyError staleConnection
          else (a.dispatch (.sent job.id)).await (.command boundary)

variable (command : ControlCommand)

def failure : CommandAnswer → Option DomainError
  | .threw => none
  | .error error => some error
  | .result .accepted _ _ _ => none
  | .result .unknown _ _ _ => some (resultUnknown command)
  | .result .rejected _ _ _ => some staleControl

def movedBoundary (subscription : SubscriptionRef) (atSeq : Nat) : ControlCommand → Boundary
  | .focus _ geometry _ => ⟨boundary.epoch + 1, some (holderOf subscription), geometry, atSeq⟩
  | .blur _ => { boundary with holder := none, atSeq := atSeq }
  | .resize _ geometry => { boundary with geometry := geometry, atSeq := atSeq }
  | _ => { boundary with atSeq := atSeq }

/-- A focus that succeeded after its subscription was retired has to be released. -/
def grant (epoch atSeq : Nat) (counter : Counter) : Counter :=
  { counter with
    grantEpoch := epoch
    grantAtSeq := atSeq
    cleanup := if counter.retired then .pending else counter.cleanup
    cleanupEpoch := if counter.retired then epoch else counter.cleanupEpoch }

variable (subscription : SubscriptionRef)

def commandAccepted (atSeq : Option Nat) (oracle : Oracle) : Arbiter :=
  match atSeq with
  | none => ({ a with uncertain := true }).replyError ⟨.resultUnknown, .unknown, false⟩
  | some atSeq =>
    if atSeq < boundary.atSeq then ({ a with uncertain := true }).replyError ⟨.resultUnknown, .unknown, false⟩
    else if a.boundary.any (fun known => decide (known.atSeq > atSeq)) then a.replyError staleControl
    else
      let moved := movedBoundary boundary subscription atSeq command
      let a := { a with boundary := some moved }
      let a := match command with
        | .focus .. => a.setCounter subscription (grant moved.epoch atSeq)
        | _ => a
      if !a.current subscription oracle then a.replyError staleConnection
      else a.await (.replied (.granted moved.epoch atSeq))

def commandAnswered (job : Job) (boundary : Boundary) (command : ControlCommand)
    (subscription : SubscriptionRef) (answer : CommandAnswer) (oracle : Oracle) : Arbiter :=
  match answer, failure command answer with
  | .threw, _ => a.failControl command
  | _, some error =>
    let a := if !command.isInput && (error.acceptance == .unknown || error.kind == staleControl.kind) then
        { a with uncertain := true }
      else a
    a.replyError error
  | .result _ atSeq inputSeq writtenBytes, none =>
    match command with
    | .input epoch wanted =>
      if writtenBytes.getD 0 = 0 ∨ writtenBytes.getD 0 > job.payload.length ∨ inputSeq ≠ some wanted then
        a.replyError (resultUnknown command)
      else a.await (.replied (.written epoch wanted (writtenBytes.getD 0)))
    | command => a.commandAccepted boundary command subscription atSeq oracle
  | .error error, none => a.replyError error

def settleControl (job : Job) (reply : ControlReply) : Arbiter :=
  { a with queue := a.queue.tail, log := a.log ++ [.replied job.id reply] }

def cleanupFrom (a : Arbiter) (oracle : Oracle) : Nat → List Counter → Arbiter
  | _, [] => a.await .cleaned
  | index, counter :: rest =>
    if counter.cleanup != .pending then a.cleanupFrom oracle (index + 1) rest
    else match a.boundary with
      | none => (a.setCounter counter.ref (fun c => { c with cleanup := .none })).cleanupFrom oracle (index + 1) rest
      | some boundary =>
        if !holds boundary.holder counter.ref || boundary.epoch != counter.cleanupEpoch then
          (a.setCounter counter.ref (fun c => { c with cleanup := .none })).cleanupFrom oracle (index + 1) rest
        else if a.uncertain || a.disposed || !oracle.placed then a.cleanupFrom oracle (index + 1) rest
        else a.await (.releasing index boundary)

variable (counter : Counter) (answer : CommandAnswer)

def releaseAnswered : Arbiter :=
  let failed := ({ a with uncertain := true }).setCounter counter.ref (fun c => { c with cleanup := .unknown })
  match answer with
  | .error error => if error.acceptance = .notAccepted ∧ error.kind = .busy then a else failed
  | .result .accepted (some atSeq) _ _ =>
    if atSeq ≥ boundary.atSeq then
      let a := a.setCounter counter.ref (fun c => { c with cleanup := .none })
      if a.boundary = some boundary ∨ a.boundary.any (fun known => decide (known.atSeq ≤ atSeq)) then
        { a with boundary := some { boundary with holder := none, atSeq := atSeq } }
      else a
    else failed
  | _ => failed

def begin (oracle : Oracle) : Arbiter :=
  match a.queue.head? with
  | none => a
  | some job =>
    match job.work with
    | .programmatic command cancelled => a.beginProgrammatic command cancelled oracle
    | .control _ subscription => a.beginControl subscription oracle

def finish (oracle : Oracle) : Arbiter :=
  let a := { a with running := none }
  if a.disposed && a.queue.isEmpty then { a with opened := false, counters := [] }
  else if a.headReady then a.begin oracle
  else a.prune

def loop (oracle : Oracle) : Arbiter :=
  if a.headReady then a.begin oracle
  else if a.queue.isEmpty then a.cleanupFrom oracle 0 a.counters
  else a.finish oracle

def drain (oracle : Oracle) : Arbiter :=
  if a.running.isSome || !a.opened then a else a.loop oracle

def resume (oracle : Oracle) : Arbiter :=
  match a.running, a.queue.head? with
  | some .cleaned, _ => a.finish oracle
  | some (.returned receipt), some job =>
    match job.work with
    | .programmatic command _ => (a.settleProgrammatic job command receipt).loop oracle
    | .control .. => a
  | some (.replied reply), some job =>
    match job.work with
    | .control .. => (a.settleControl job reply).loop oracle
    | .programmatic .. => a
  | some (.bounded failure), some job =>
    match job.work with
    | .control command subscription => a.performBounded job command subscription failure oracle
    | .programmatic .. => a
  | _, _ => a

def status (answer : StatusAnswer) (oracle : Oracle) : Arbiter :=
  match a.running, a.queue.head?.map Job.work with
  | some .status, some (.programmatic command _) => a.statusAnswered command answer oracle
  | some .boundary, some (.control command subscription) => a.boundaryAnswered command subscription answer oracle
  | _, _ => a

def accepted (answer : AcceptAnswer) (oracle : Oracle) : Arbiter :=
  match a.running, a.queue.head? with
  | some .accept, some job =>
    match job.work with
    | .programmatic command _ => a.acceptAnswered job command answer oracle
    | .control .. => a
  | _, _ => a

def written (answer : WriteAnswer) : Arbiter :=
  match a.running, a.queue.head?.map Job.work with
  | some .write, some (.programmatic command _) => a.writeAnswered command answer
  | _, _ => a

def commanded (oracle : Oracle) : Arbiter :=
  match a.running, a.queue.head? with
  | some (.command boundary), some job =>
    match job.work with
    | .control command subscription => a.commandAnswered job boundary command subscription answer oracle
    | .programmatic .. => a
  | _, _ => a

def released (oracle : Oracle) : Arbiter :=
  match a.running with
  | some (.releasing index boundary) =>
    match a.counters[index]? with
    | some counter =>
      let a := a.releaseAnswered boundary counter answer
      a.cleanupFrom oracle (index + 1) (a.counters.drop (index + 1))
    | none => a
  | _ => a

def pending (room : Room) : Nat := room.othersPending + a.queue.length

def counterFor (subscription : SubscriptionRef) : Counter :=
  (a.counter? subscription).getD
    { ref := subscription, focus := 0, input := 0, grantEpoch := 0, grantAtSeq := 0, retired := false,
      cleanup := .none, cleanupEpoch := 0 }

def outOfSequence : ControlCommand → Bool
  | .focus focusSeq .. => decide (focusSeq ≤ counter.focus)
  | .input _ inputSeq => decide (inputSeq ≤ counter.input)
  | _ => false

def refuseBytes (bytes : List UInt8) (room : Room) : Bool :=
  if command.isInput then
    decide (bytes.length < 1) || decide (bytes.length > min 65536 budgets.inputQueueBytes) ||
      decide (room.buffer > maxFrameBytes)
  else decide (bytes.length ≠ 0)

def refuseControl (earlierPending : Bool) (bytes : List UInt8) (room : Room) (oracle : Oracle) :
    Option DomainError :=
  if a.disposed || !oracle.current subscription then some staleConnection
  else if !earlierPending && !oracle.installed subscription none then some resyncRequired
  else if command.geometry?.any (fun geometry =>
      decide (geometry.cols > budgets.maxCols) || decide (geometry.rows > budgets.maxRows)) then
    some (refusal (.other "INVALID_SIZE"))
  else if command.appearance?.any (fun appearance => !Cove.Protocol.EventFrame.validateAppearance appearance) then
    some (refusal .capabilityUnavailable)
  else if refuseBytes budgets command bytes room then some inputRejected
  else if a.pending room ≥ budgets.pendingWorkerCommands then some (refusal .busy)
  else if !a.opened && !room.run then some (refusal .busy)
  else if (a.counter? subscription).isNone &&
      (decide (a.counters.length ≥ budgets.authenticatedSockets * budgets.subscriptionsPerConnection) ||
        !room.counter) then some (refusal .busy)
  else if (a.counterFor subscription).retired || outOfSequence (a.counterFor subscription) command then
    some (refusal .counterExhausted)
  else if !room.job then some (refusal .busy)
  else none

def numbered : Counter :=
  match command with
  | .focus focusSeq .. => { counter with focus := focusSeq }
  | .input _ inputSeq => { counter with input := inputSeq }
  | _ => counter

def enqueue (work : Work) (payload : List UInt8) : Arbiter :=
  { a with
    opened := true
    queue := a.queue ++ [⟨a.nextId, work, payload, false, false⟩]
    nextId := a.nextId + 1
    log := a.log ++ [.admitted a.nextId] }

def admitControl (earlierPending : Bool) (bytes : List UInt8) (room : Room) (oracle : Oracle) : Arbiter :=
  match refuseControl budgets a command subscription earlierPending bytes room oracle with
  | some _ => a
  | none =>
    let counters :=
      if (a.counter? subscription).isSome then
        a.counters.map (fun c => if c.ref == subscription then numbered command c else c)
      else a.counters ++ [numbered command (a.counterFor subscription)]
    ({ a with counters := counters }).enqueue (.control command subscription) bytes

def refuseProgrammatic (command : ProgramCommand) (bytes : List UInt8)
    (room : Room) (oracle : Oracle) : Option DomainError :=
  if a.disposed || !oracle.placed then some (refusal .workerUnavailable)
  else if a.pending room ≥ budgets.pendingWorkerCommands ∨
      (a.queue.filter Job.isProgrammatic).length ≥ tabSendPendingPerRun ∨
      bytes.length + command.submit.toNat + (a.queue.map Job.inputBytes).sum > budgets.inputQueueBytes then
    some (refusal .busy)
  else if truthy a.programFailure then some inputRejected
  else if !a.opened && !room.run then some (refusal .busy)
  else if !room.job then some (refusal .busy)
  else none

def admitProgrammatic (command : ProgramCommand) (bytes : List UInt8) (room : Room) (oracle : Oracle) : Arbiter :=
  match refuseProgrammatic budgets a command bytes room oracle with
  | some _ => a
  | none => a.enqueue (.programmatic command none) bytes

def setJob (id : Nat) (change : Job → Job) : Arbiter :=
  { a with queue := a.queue.map (fun job => if job.id = id then change job else job) }

/-- `execute` and `executeProgrammatic`: the caller is ready for the job to run. -/
def execute (id : Nat) (oracle : Oracle) : Arbiter :=
  (a.setJob id (fun job => { job with ready := true })).drain oracle

def cancel (reason : String) (job : Job) : Job :=
  match job.work with
  | .programmatic command _ => { job with work := .programmatic command (some reason), ready := true }
  | .control .. => job

def cancelProgrammatic (id : Nat) (reason : String) (oracle : Oracle) : Arbiter :=
  (a.setJob id (cancel reason)).drain oracle

/-- The subscription has gone: its jobs run out, and control it is known to hold is to be released. -/
def retire (oracle : Oracle) : Arbiter :=
  if !a.opened || (a.counter? ref).isNone then a
  else
    let a := a.setCounter ref (fun c => { c with retired := true })
    let a := { a with queue := a.queue.map (fun job : Job => if job.isFor ref then { job with ready := true } else job) }
    let a := match a.boundary with
      | some boundary =>
        if holds boundary.holder ref then
          a.setCounter ref (fun c => { c with cleanup := .pending, cleanupEpoch := boundary.epoch })
        else a
      | none => a
    a.drain oracle

def dispose (oracle : Oracle) : Arbiter :=
  if a.disposed then a
  else
    let a := { a with disposed := true, queue := a.queue.map (fun job : Job => { job with ready := true }) }
    if a.running.isNone && a.queue.isEmpty then { a with opened := false, counters := [] } else a.drain oracle

end Arbiter

inductive Event where
  | admitControl (command : ControlCommand) (subscription : SubscriptionRef) (earlierPending : Bool) (bytes : List UInt8)
      (room : Room)
  | admitProgrammatic (command : ProgramCommand) (bytes : List UInt8) (room : Room)
  | execute (id : Nat)
  | cancelProgrammatic (id : Nat) (reason : String)
  | retire (ref : SubscriptionRef)
  | status (answer : StatusAnswer)
  | accepted (answer : AcceptAnswer)
  | written (answer : WriteAnswer)
  | commanded (answer : CommandAnswer)
  | released (answer : CommandAnswer)
  | resume
  | fact (fact : RunFact)
  | tick
  | dispose

open Arbiter

/-- One step; the oracle is what the surroundings answer while it runs. -/
def step (a : Arbiter) : Event × Oracle → Arbiter
  | (.admitControl command subscription earlierPending bytes room, oracle) =>
    a.admitControl budgets command subscription earlierPending bytes room oracle
  | (.admitProgrammatic command bytes room, oracle) => a.admitProgrammatic budgets command bytes room oracle
  | (.execute id, oracle) => a.execute id oracle
  | (.cancelProgrammatic id reason, oracle) => a.cancelProgrammatic id reason oracle
  | (.retire ref, oracle) => a.retire ref oracle
  | (.status answer, oracle) => a.status answer oracle
  | (.accepted answer, oracle) => a.accepted answer oracle
  | (.written answer, _) => a.written answer
  | (.commanded answer, oracle) => a.commanded answer oracle
  | (.released answer, oracle) => a.released answer oracle
  | (.resume, oracle) => a.resume oracle
  | (.fact fact, _) => a.onEvent fact
  | (.tick, oracle) => a.drain oracle
  | (.dispose, oracle) => a.dispose oracle

end Cove.Runtime.ControlArbiter
