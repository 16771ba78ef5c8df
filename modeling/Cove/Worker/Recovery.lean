import Cove.Base.Chunks
import Cove.Engine.TerminalModel
import Cove.Worker.ReplayWindow

/-!
Recovery subscriptions of a worker. A route carries one subscription: each attempt on it is given a fresh token and
is served either from the replay window or by a captured baseline; facts applied meanwhile wait in `postN` and follow
once the peer has acknowledged the fact the transfer leads to. What the worker does not decide alone (whether a
reservation is granted, what `enqueue` answers, when a capture ends, when the delivery turn runs, what the clock
reads) is carried by the events.
-/

namespace Cove.Worker.Recovery
open Base.Chunks Protocol.Budgets Protocol.EventFrame Protocol.Frame Protocol.Identity Protocol.Recovery
open Protocol.Terminal Worker.ReplayWindow

inductive Failure where
  | busy
  | resyncRequired
  | recoveryExpired
  | recoveryUnavailable
  | operationIdConflict
  | counterExhausted

inductive Mode where
  | baseline
  | replay
  deriving DecidableEq

inductive RouteState where
  | preparing
  | transfer
  | installed
  | tombstone
  | retiring
  deriving DecidableEq

inductive Outcome where
  | result (recoveryMode : Option Mode) (atSeq : Option Nat)
  | failure (failure : Failure)

inductive OpenKind where
  | subscribe (atSeq : Nat)
  | recover (appliedSeq : Option Nat)

structure OpenCommand where
  requestId : String
  subscription : SubscriptionRef
  kind : OpenKind

inductive RouteCommand where
  | unsubscribe (requestId : String)
  | appliedAck (appliedSeq : Nat)
  | baselineProgress (baselineId : String) (lastParsedOrdinal : Nat)
  deriving DecidableEq

inductive CaptureResult where
  | ready (baseline : Engine.EngineBaseline)
  | unavailable
  | threw

inductive Terminal where
  | baselineStart (run : RunRef) (descriptor : BaselineDescriptor)
  | baselineChunk (run : RunRef) (baselineId : String) (subscription : SubscriptionRef) (ordinal : Nat)
  | baselineEnd (run : RunRef) (baselineId : String) (subscription : SubscriptionRef) (chunkCount totalBytes atSeq : Nat)
  | runEvent (event : RunEvent)
  deriving DecidableEq

structure Frame where
  event : PipeEvent Terminal
  payload : List UInt8
  deriving DecidableEq

structure TransferFrame where
  frame : Frame
  ordinal : Int
  charge : Nat

structure OwnedFact where
  fact : Fact
  charge : Nat

structure Sent where
  seq : Nat
  charge : Nat

/-- What an attempt was opened with: a captured screen, or the facts after a cursor. -/
inductive Transfer where
  | baseline (descriptor : BaselineDescriptor) (vt tail : List UInt8)
  | replay (cursor atSeq : Nat)
  deriving DecidableEq

def Transfer.atSeq : Transfer → Nat
  | .baseline descriptor _ _ => descriptor.atSeq
  | .replay _ atSeq => atSeq

/-- What one attempt has shown its peer: how it was opened, the frames handed out for it, and the progress and
acknowledgements of the peer that were accepted. Nothing the worker decides reads this record. -/
structure Attempt where
  token : Nat
  ref : SubscriptionRef
  run : RunRef
  transfer : Option Transfer
  handed : List Frame
  accepted : List RouteCommand
  deriving DecidableEq

structure Route where
  ref : SubscriptionRef
  run : RunRef
  token : Nat
  mode : Mode
  state : RouteState
  failure : Option Failure
  markerRequestId : Option String
  atSeq : Nat
  appliedSeq : Nat
  sentSeq : Nat
  replay : Option (List Fact)
  captureAttempt : Bool
  baselineId : Option String
  frames : List TransferFrame
  nextFrame : Nat
  parsedOrdinal : Int
  logicalDebt : Int
  sent : List Sent
  postN : List OwnedFact
  postNBytes : Nat
  deadlineAt : Option Nat
  retireRequestId : Option String
  attempt : Attempt

/-- A capture under way for an attempt: `open` waits for its result. -/
structure Capture where
  token : Nat
  ref : SubscriptionRef
  runId : String
  result : Option CaptureResult

structure RunRecord where
  facts : List Fact
  replay : Window

structure Env where
  worker : WorkerRef
  budgets : EffectiveBudgets
  encodedBytes : PipeEvent Terminal → Nat
  units : RunEvent → Nat

structure Subscriptions where
  runs : String → RunRecord
  routes : List Route
  connections : List (ConnectionRef × Nat)
  captures : List Capture
  nextToken : Nat
  nextBaseline : Nat
  deliveryCursor : Nat
  past : List Attempt

def Subscriptions.new (env : Env) : Subscriptions where
  runs := fun _ => { facts := [], replay := Window.new env.budgets.replayBytes env.budgets.replayEvents }
  routes := []
  connections := []
  captures := []
  nextToken := 0
  nextBaseline := 0
  deliveryCursor := 0
  past := []

variable (subscriptions : Subscriptions)

def Subscriptions.attempts : List Attempt :=
  subscriptions.past ++ subscriptions.routes.map Route.attempt

def Subscriptions.factsOf (run : RunRef) : List Fact :=
  (subscriptions.runs run.runId).facts

def framedBytes (env : Env) (frame : Frame) : Nat :=
  headerBytes + env.encodedBytes frame.event + frame.payload.length

/-! ### Routes -/

def Route.new (ref : SubscriptionRef) (run : RunRef) : Route where
  ref := ref
  run := run
  token := 0
  mode := .baseline
  state := .preparing
  failure := none
  markerRequestId := none
  atSeq := 0
  appliedSeq := 0
  sentSeq := 0
  replay := none
  captureAttempt := false
  baselineId := none
  frames := []
  nextFrame := 0
  parsedOrdinal := -1
  logicalDebt := 0
  sent := []
  postN := []
  postNBytes := 0
  deadlineAt := none
  retireRequestId := none
  attempt := { token := 0, ref := ref, run := run, transfer := none, handed := [], accepted := [] }

variable (route : Route)

/-- The attempt is over: nothing of it is sent from here on. -/
def Route.fence : Route :=
  { route with
    captureAttempt := false
    replay := none
    frames := []
    nextFrame := 0
    parsedOrdinal := -1
    logicalDebt := 0
    sent := []
    postN := []
    postNBytes := 0 }

def Route.fail (reason : Failure) : Route :=
  { route.fence with
    state := .tombstone
    failure := some reason
    markerRequestId := none
    deadlineAt := none }

def factFrame (env : Env) (run : RunRef) (ref : SubscriptionRef) (fact : Fact) : Frame where
  event := { worker := env.worker, run := run, subscription := some ref, terminal := .runEvent fact.event }
  payload := fact.bytes

/-- What `#nextFrame` offers: the frame, its charge, whether a ledger record is reserved for it, and the route once
it is handed out. -/
structure Next where
  frame : Frame
  charge : Nat
  ledger : Bool
  commit : Route

def Route.nextFrame? (env : Env) (route : Route) : Option Next :=
  match route.state, route.mode with
  | .transfer, .baseline =>
    match route.frames[route.nextFrame]? with
    | none => none
    | some next => some
        { frame := next.frame
          charge := next.charge
          ledger := false
          commit := { route with nextFrame := route.nextFrame + 1 } }
  | .transfer, .replay =>
    match (route.replay.getD [])[route.nextFrame]? with
    | none => none
    | some fact =>
      let frame := factFrame env route.run route.ref fact
      let charge := framedBytes env frame
      some
        { frame := frame
          charge := charge
          ledger := true
          commit :=
            { route with
              nextFrame := route.nextFrame + 1
              sentSeq := fact.seq
              sent := route.sent ++ [{ seq := fact.seq, charge := charge }] } }
  | .installed, _ =>
    match route.postN with
    | [] => none
    | owned :: rest =>
      let frame := factFrame env route.run route.ref owned.fact
      let charge := framedBytes env frame
      some
        { frame := frame
          charge := charge
          ledger := true
          commit :=
            { route with
              postN := rest
              postNBytes := route.postNBytes - owned.charge
              sentSeq := owned.fact.seq
              sent := route.sent ++ [{ seq := owned.fact.seq, charge := charge }] } }
  | _, _ => none

/-! ### Opening an attempt -/

def Route.begin (env : Env) (route : Route) (command : OpenCommand) (token now : Nat) : Route :=
  let appliedSeq := match command.kind with
    | .subscribe atSeq => atSeq
    | .recover appliedSeq => appliedSeq.getD route.appliedSeq
  { route with
    state := .preparing
    token := token
    markerRequestId := some command.requestId
    deadlineAt := some (now + env.budgets.recoveryDeadlineMs)
    appliedSeq := appliedSeq
    sentSeq := appliedSeq
    attempt :=
      { token := token, ref := route.ref, run := route.run, transfer := none, handed := [], accepted := [] } }

def OpenKind.cursor : OpenKind → Option Nat
  | .subscribe atSeq => some atSeq
  | .recover appliedSeq => appliedSeq

/-- Why the command opens no attempt, given the route its subscription already has. -/
def refusal (command : OpenCommand) (prior : Option Route) : Option Failure :=
  match command.kind, prior with
  | .subscribe _, some _ => some .operationIdConflict
  | .recover _, none => some .operationIdConflict
  | kind, prior =>
    if prior.any (fun route => route.state == .tombstone) then
      some ((prior.bind Route.failure).getD .resyncRequired)
    else if prior.any (fun route => route.state == .retiring) then some .busy
    else if prior.any (fun route => kind.cursor.any
        (fun seq => decide (seq < route.appliedSeq) || decide (seq > route.sentSeq))) then some .resyncRequired
    else if subscriptions.nextToken = maxSafeInteger then some .counterExhausted
    else none

structure OpenLeases where
  connection : Bool
  route : Bool
  references : Bool

/-- The connection counts with one more route, if the limits and the reservations allow it. -/
def admitConnection (env : Env) (subscriptions : Subscriptions) (connection : ConnectionRef) (leases : OpenLeases) :
    Option (List (ConnectionRef × Nat)) :=
  let entry := subscriptions.connections.lookup connection
  if subscriptions.routes.length ≥ env.budgets.authenticatedSockets * env.budgets.subscriptionsPerConnection ∨
      entry.getD 0 ≥ env.budgets.subscriptionsPerConnection ∨
      (entry.isNone ∧ subscriptions.connections.length ≥ env.budgets.authenticatedSockets) then none
  else if entry.isNone ∧ leases.connection = false then none
  else if leases.route = false then none
  else if entry.isSome then
    some (subscriptions.connections.map (fun pair => if pair.1 = connection then (pair.1, pair.2 + 1) else pair))
  else some (subscriptions.connections ++ [(connection, 1)])

def Subscriptions.find (ref : SubscriptionRef) : Option Route :=
  subscriptions.routes.find? (fun route => route.ref == ref)

def Subscriptions.put (next : Route) : Subscriptions :=
  { subscriptions with
    routes := subscriptions.routes.map (fun route => if route.ref = next.ref then next else route) }

def beginCapture : Subscriptions :=
  { subscriptions.put { route with mode := .baseline, captureAttempt := true } with
    captures := subscriptions.captures ++
      [{ token := route.token, ref := route.ref, runId := route.run.runId, result := none }] }

/-- The attempt takes the way that serves its cursor: a refusal when the cursor is ahead of the run, the replay window
when it still holds every fact after the cursor, and a capture otherwise. -/
def beginTransfer (kind : OpenKind) (references : Bool) : Subscriptions × Option Outcome :=
  let record := subscriptions.runs route.run.runId
  let current := record.replay.latestSeq
  if kind.cursor.any (fun cursor => decide (cursor > current)) then
    (subscriptions.put (route.fail .resyncRequired), some (.failure .resyncRequired))
  else
    let cursor := kind.cursor.getD 0
    let (replay, selected) :=
      if cursor > 0 then record.replay.select references cursor current else (record.replay, none)
    match selected with
    | some facts =>
      ({ subscriptions.put
          { route with
            mode := .replay
            replay := some facts
            atSeq := current
            state := .transfer
            attempt := { route.attempt with transfer := some (.replay cursor current) } } with
          runs := Function.update subscriptions.runs route.run.runId { record with replay := replay } },
        some (.result (some .replay) (some current)))
    | none => (beginCapture subscriptions route, none)

/-- The part of `open` before it waits: without an outcome it now waits for a capture. -/
def openRoute (env : Env) (subscriptions : Subscriptions) (command : OpenCommand) (run : RunRef)
    (leases : OpenLeases) (now : Nat) : Subscriptions × Option Outcome :=
  let prior := subscriptions.find command.subscription
  match refusal subscriptions command prior with
  | some reason => (subscriptions, some (.failure reason))
  | none =>
    let token := subscriptions.nextToken + 1
    match prior with
    | some route =>
      let next := route.fence.begin env command token now
      beginTransfer
        ({ subscriptions with nextToken := token, past := subscriptions.past ++ [route.attempt] }.put next)
        next command.kind leases.references
    | none =>
      match admitConnection env subscriptions command.subscription.connection leases with
      | none => (subscriptions, some (.failure .busy))
      | some connections =>
        let next := (Route.new command.subscription run).begin env command token now
        beginTransfer
          { subscriptions with
            nextToken := token, connections := connections, routes := subscriptions.routes ++ [next] }
          next command.kind leases.references

/-! ### The end of a capture -/

def chunkBytes : Nat := 65536

def transferFrame (env : Env) (run : RunRef) (ref : SubscriptionRef) (terminal : Terminal) (payload : List UInt8)
    (ordinal : Int) : TransferFrame :=
  let frame : Frame :=
    { event := { worker := env.worker, run := run, subscription := some ref, terminal := terminal }, payload := payload }
  { frame := frame, ordinal := ordinal, charge := framedBytes env frame }

def baselineChunks (vt tail : List UInt8) : List (List UInt8) := chunksOf chunkBytes vt ++ chunksOf chunkBytes tail

/-- The frames of a captured screen: its start, its chunks in order and its end. -/
def baselineFrames (env : Env) (run : RunRef) (ref : SubscriptionRef) (descriptor : BaselineDescriptor)
    (vt tail : List UInt8) : List TransferFrame :=
  let chunks := baselineChunks vt tail
  [transferFrame env run ref (.baselineStart run descriptor) [] (-1)] ++
    chunks.mapIdx (fun ordinal payload =>
      transferFrame env run ref (.baselineChunk run descriptor.baselineId ref ordinal) payload ordinal) ++
    [transferFrame env run ref
      (.baselineEnd run descriptor.baselineId ref descriptor.chunkCount (vt.length + tail.length) descriptor.atSeq)
      [] chunks.length]

def descriptorOf (baselineId : String) (baseline : Engine.EngineBaseline) (chunkCount : Nat) : BaselineDescriptor where
  baselineId := baselineId
  run := route.run
  subscription := route.ref
  profile := baseline.profile
  encoding := baseline.encoding
  checkpointSeq := baseline.checkpointSeq
  atSeq := baseline.atSeq
  captureGeometry := baseline.captureGeometry
  currentGeometry := baseline.currentGeometry
  coverage := baseline.coverage
  control := baseline.control
  vtBytes := baseline.vt.length
  tailBytes := baseline.tail.length
  chunkCount := chunkCount

/-- The route with the captured screen ready to be sent. Facts the screen already shows are dropped from `postN`. -/
def Route.install (env : Env) (route : Route) (descriptor : BaselineDescriptor) (vt tail : List UInt8) : Route :=
  let shown := route.postN.filter (fun owned => decide (owned.fact.seq ≤ descriptor.atSeq))
  { route with
    captureAttempt := false
    frames := baselineFrames env route.run route.ref descriptor vt tail
    baselineId := some descriptor.baselineId
    atSeq := descriptor.atSeq
    sentSeq := descriptor.atSeq
    postN := route.postN.filter (fun owned => decide (descriptor.atSeq < owned.fact.seq))
    postNBytes := route.postNBytes - (shown.map OwnedFact.charge).sum
    state := .transfer
    attempt := { route.attempt with transfer := some (.baseline descriptor vt tail) } }

/-- A captured screen is turned into the frames of the transfer, unless a limit or a reservation refuses it. -/
def installBaseline (env : Env) (subscriptions : Subscriptions) (route : Route) (baseline : Engine.EngineBaseline)
    (frameLease : Bool) : Subscriptions × Option Outcome :=
  let refuse (subscriptions : Subscriptions) (failure : Failure) :=
    (subscriptions.put (route.fail .resyncRequired), some (Outcome.failure failure))
  if subscriptions.nextBaseline = maxSafeInteger then refuse subscriptions .counterExhausted
  else
    let chunkCount := (baseline.vt.length + chunkBytes - 1) / chunkBytes +
      (baseline.tail.length + chunkBytes - 1) / chunkBytes
    if chunkCount < 1 ∨ chunkCount > env.budgets.baselineChunks then refuse subscriptions .recoveryUnavailable
    else
      let subscriptions := { subscriptions with nextBaseline := subscriptions.nextBaseline + 1 }
      let descriptor := descriptorOf route ("b" ++ toString subscriptions.nextBaseline) baseline chunkCount
      if !validateBaselineDescriptor descriptor then refuse subscriptions .recoveryUnavailable
      else if !frameLease then refuse subscriptions .recoveryUnavailable
      else
        (subscriptions.put (route.install env descriptor baseline.vt baseline.tail),
          some (.result (some .baseline) (some baseline.atSeq)))

/-- The part of `open` after its wait. The deadline may win the race against the capture; a route that was fenced,
replaced or removed meanwhile is left alone. -/
def finishOpen (env : Env) (subscriptions : Subscriptions) (token : Nat) (expired frameLease : Bool) :
    Subscriptions × Option Outcome :=
  match subscriptions.captures.find? (fun capture => capture.token == token) with
  | none => (subscriptions, none)
  | some capture =>
    if capture.result = none ∧ expired = false then (subscriptions, none)
    else
      let waiting := subscriptions.find capture.ref
      let subscriptions :=
        { subscriptions with captures := subscriptions.captures.filter (fun capture => capture.token != token) }
      match waiting with
      | none => (subscriptions, some (.failure .resyncRequired))
      | some route =>
        if route.captureAttempt = false ∨ route.token ≠ token ∨ route.state ≠ .preparing then
          (subscriptions, some (.failure (route.failure.getD .resyncRequired)))
        else
          match (if expired then none else capture.result) with
          | none => (subscriptions.put (route.fail .recoveryExpired), some (.failure .recoveryExpired))
          | some .threw | some .unavailable =>
            (subscriptions.put (route.fail .resyncRequired), some (.failure .recoveryUnavailable))
          | some (.ready baseline) => installBaseline env subscriptions route baseline frameLease

/-! ### Commands of the peer -/

def chargesBetween (frames : List TransferFrame) (low high : Int) : Nat :=
  ((frames.filter (fun frame => decide (low < frame.ordinal) && decide (frame.ordinal ≤ high))).map
    TransferFrame.charge).sum

def Route.record (command : RouteCommand) : Route :=
  { route with attempt := { route.attempt with accepted := route.attempt.accepted ++ [command] } }

/-- The peer has parsed the baseline through an ordinal. The start frame is covered with the first chunk. -/
def Route.progress (command : RouteCommand) (baselineId : String) (lastParsedOrdinal : Nat) : Route × Outcome :=
  if route.mode ≠ .baseline ∨ some baselineId ≠ route.baselineId ∨
      (lastParsedOrdinal : Int) ≥ (route.frames.length : Int) - 2 ∨
      (lastParsedOrdinal : Int) ≥ (route.nextFrame : Int) - 1 then (route, .failure .resyncRequired)
  else
    let route :=
      if (lastParsedOrdinal : Int) > route.parsedOrdinal then
        let started := if route.parsedOrdinal < 0 then ((route.frames[0]?.map TransferFrame.charge).getD 0) else 0
        { route with
          logicalDebt := route.logicalDebt - started -
            chargesBetween route.frames route.parsedOrdinal lastParsedOrdinal
          parsedOrdinal := lastParsedOrdinal }
      else route
    (route.record command, .result none (some route.atSeq))

def sentCharges (sent : List Sent) (low high : Nat) : Nat :=
  ((sent.filter (fun item => decide (low < item.seq) && decide (item.seq ≤ high))).map Sent.charge).sum

/-- The peer has applied the facts through a number: their charges leave the ledger. -/
def Route.advance (appliedSeq : Nat) : Route :=
  if appliedSeq > route.appliedSeq then
    { route with
      logicalDebt := route.logicalDebt - sentCharges route.sent route.appliedSeq appliedSeq
      sent := route.sent.filter (fun item => decide (appliedSeq < item.seq))
      appliedSeq := appliedSeq }
  else route

def Route.unsent : Bool :=
  match route.mode with
  | .baseline => decide (route.nextFrame < route.frames.length)
  | .replay => decide (route.nextFrame < (route.replay.getD []).length)

def Route.acknowledge (command : RouteCommand) (appliedSeq : Nat) : Route × Outcome :=
  if appliedSeq > route.sentSeq ∨ appliedSeq < route.appliedSeq then (route, .failure .resyncRequired)
  else
    let route := route.advance appliedSeq
    if route.state = .transfer ∧ appliedSeq = route.atSeq then
      if route.unsent then (route, .failure .resyncRequired)
      else
        ({ route with state := .installed, deadlineAt := none, logicalDebt := 0, frames := [], replay := none }.record
            command,
          .result none (some route.atSeq))
    else (route.record command, .result none (some route.atSeq))

def Route.command (command : RouteCommand) : Route × Outcome :=
  match command with
  | .unsubscribe requestId =>
    ({ route.fence with state := .retiring, retireRequestId := some requestId }, .result none none)
  | .appliedAck appliedSeq =>
    match route.state with
    | .tombstone | .retiring => (route, .failure (route.failure.getD .resyncRequired))
    | .preparing => (route, .failure .busy)
    | _ => route.acknowledge command appliedSeq
  | .baselineProgress baselineId lastParsedOrdinal =>
    match route.state with
    | .tombstone | .retiring => (route, .failure (route.failure.getD .resyncRequired))
    | .preparing => (route, .failure .busy)
    | _ => route.progress command baselineId lastParsedOrdinal

def Subscriptions.command (ref : SubscriptionRef) (command : RouteCommand) : Subscriptions × Outcome :=
  match subscriptions.find ref with
  | none => (subscriptions, .failure .resyncRequired)
  | some route => (subscriptions.put (route.command command).1, (route.command command).2)

def Route.markerEnqueued (requestId : String) (ref : SubscriptionRef) (route : Route) : Route :=
  if route.ref = ref ∧ route.markerRequestId = some requestId then { route with markerRequestId := none } else route

def Subscriptions.remove : Subscriptions :=
  { subscriptions with
    routes := subscriptions.routes.filter (fun other => other.ref != route.ref)
    connections := (subscriptions.connections.map
      (fun pair => if pair.1 = route.ref.connection then (pair.1, pair.2 - 1) else pair)).filter (fun pair => pair.2 != 0)
    past := subscriptions.past ++ [route.attempt] }

def Subscriptions.removeAll (routes : List Route) : Subscriptions :=
  routes.foldl Subscriptions.remove subscriptions

/-- A fact the run has applied joins `postN`, or ends the attempt when it cannot be kept. -/
def Route.onFact (env : Env) (run : RunRef) (fact : Fact) (leased : SubscriptionRef → Bool) (route : Route) : Route :=
  if route.run.runId ≠ run.runId ∨ route.state = .tombstone ∨ route.state = .retiring then route
  else if fact.seq ≤ route.atSeq then route
  else
    let charge := retainedFactCharge env.units fact
    if route.postN.length ≥ env.budgets.postNEvents ∨ route.postNBytes + charge > env.budgets.postNBytes then
      route.fail .resyncRequired
    else if !leased route.ref then route.fail .resyncRequired
    else
      { route with
        postN := route.postN ++ [{ fact := fact, charge := charge }]
        postNBytes := route.postNBytes + charge }

/-! ### Delivery -/

/-- What `enqueue` does with a frame. Handing it over may also find the pipe closed, which shuts everything down. -/
inductive Enqueue where
  | accepted (bytes : Nat)
  | refused
  | threw
  | closed (bytes : Nat)

structure Turn where
  frames : Nat
  bytes : Nat
  calls : Nat
  closed : Bool

def turnFrames : Nat := 32
def turnBytes : Nat := 256 * 1024

def Route.handOut (next : Next) (bytes : Nat) : Route :=
  { next.commit with
    logicalDebt := route.logicalDebt + bytes
    attempt := { route.attempt with handed := route.attempt.handed ++ [next.frame] } }

/-- The inner loop of `#drain`. It runs while frames are left in the turn, so at most `turnFrames` times. -/
def drainRoute (env : Env) (ledger : Nat → Bool) (enqueue : Nat → Frame → Enqueue) : Nat → Route → Turn → Route × Turn
  | 0, route, turn => (route, turn)
  | fuel + 1, route, turn =>
    if turn.bytes ≥ turnBytes then (route, turn)
    else
      match route.nextFrame? env with
      | none => (route, turn)
      | some next =>
        if route.logicalDebt + next.charge > env.budgets.subscriptionCreditBytes then (route, turn)
        else if turn.bytes + next.charge > turnBytes then (route, turn)
        else
          let offered := { turn with calls := turn.calls + 1 }
          if next.ledger ∧ ledger turn.calls = false then (route.fail .resyncRequired, offered)
          else
            match enqueue turn.calls next.frame with
            | .threw => (route.fail .resyncRequired, offered)
            | .refused => (route, offered)
            | .accepted bytes =>
              drainRoute env ledger enqueue fuel (route.handOut next bytes)
                { offered with frames := turn.frames + 1, bytes := turn.bytes + bytes }
            | .closed bytes => (route.handOut next bytes, { offered with closed := true })

def drainRoutes (env : Env) (ledger : Nat → Bool) (enqueue : Nat → Frame → Enqueue) :
    List Route → Turn → List Route × Turn
  | [], turn => ([], turn)
  | route :: rest, turn =>
    if turn.frames < turnFrames ∧ turn.bytes < turnBytes ∧ turn.closed = false then
      let served :=
        if route.markerRequestId ≠ none ∨ (route.state ≠ .transfer ∧ route.state ≠ .installed) then (route, turn)
        else drainRoute env ledger enqueue (turnFrames - turn.frames) route turn
      let others := drainRoutes env ledger enqueue rest served.2
      (served.1 :: others.1, others.2)
    else (route :: rest, turn)

def shutdown : Subscriptions := subscriptions.removeAll subscriptions.routes

/-- One delivery turn, and whether the pipe was found closed in it. It starts at another route each time, and the
routes keep their places. -/
def deliverTurn (env : Env) (subscriptions : Subscriptions) (ledger : Nat → Bool)
    (enqueue : Nat → Frame → Enqueue) : Subscriptions × Bool :=
  let count := subscriptions.routes.length
  if count = 0 then (subscriptions, false)
  else
    let start := subscriptions.deliveryCursor % count
    let turned := drainRoutes env ledger enqueue (subscriptions.routes.rotate start)
      { frames := 0, bytes := 0, calls := 0, closed := false }
    ({ subscriptions with
        routes := turned.1.rotate (count - start)
        deliveryCursor := (subscriptions.deliveryCursor + 1) % count },
      turned.2.closed)

def drain (env : Env) (subscriptions : Subscriptions) (ledger : Nat → Bool) (enqueue : Nat → Frame → Enqueue) :
    Subscriptions :=
  let delivered := deliverTurn env subscriptions ledger enqueue
  if delivered.2 then shutdown delivered.1 else delivered.1

/-! ### The whole component -/

inductive Event where
  | fact (run : RunRef) (fact : Fact) (grant : Nat → Bool) (leased : SubscriptionRef → Bool)
  | reclaim (runId : String) (index : Nat)
  | openRoute (command : OpenCommand) (run : RunRef) (leases : OpenLeases) (now : Nat)
  | captured (token : Nat) (result : CaptureResult)
  | finishOpen (token : Nat) (expired frameLease : Bool)
  | command (ref : SubscriptionRef) (command : RouteCommand)
  | markerEnqueued (ref : SubscriptionRef) (requestId : String)
  | responseSettled (requestId : String)
  | drain (ledger : Nat → Bool) (enqueue : Nat → Frame → Enqueue)
  | timer (now : Nat)
  | shutdown

def Capture.settle (runs : String → RunRecord) (token : Nat) (result : CaptureResult) (capture : Capture) : Capture :=
  if capture.token ≠ token ∨ capture.result ≠ none then capture
  else match result with
    | .ready baseline =>
      if baseline.atSeq = (runs capture.runId).facts.length then { capture with result := some result } else capture
    | _ => { capture with result := some result }

def Route.expire (now : Nat) (route : Route) : Route :=
  if route.deadlineAt.any (fun deadline => decide (deadline ≤ now)) then route.fail .recoveryExpired else route

/-- A run numbers its facts one after the other, and a fact reaches the window before the routes. -/
def applyFact (env : Env) (subscriptions : Subscriptions) (run : RunRef) (fact : Fact) (grant : Nat → Bool)
    (leased : SubscriptionRef → Bool) : Subscriptions :=
  let record := subscriptions.runs run.runId
  if fact.seq = record.facts.length + 1 then
    { subscriptions with
      runs := Function.update subscriptions.runs run.runId
        { facts := record.facts ++ [fact], replay := record.replay.append env.units grant fact }
      routes := subscriptions.routes.map (Route.onFact env run fact leased) }
  else subscriptions

def step (env : Env) (subscriptions : Subscriptions) : Event → Subscriptions
  | .fact run fact grant leased => applyFact env subscriptions run fact grant leased
  | .reclaim runId index =>
    let record := subscriptions.runs runId
    { subscriptions with
      runs := Function.update subscriptions.runs runId { record with replay := record.replay.evictAt index } }
  | .openRoute command run leases now => (openRoute env subscriptions command run leases now).1
  | .captured token result =>
    { subscriptions with captures := subscriptions.captures.map (Capture.settle subscriptions.runs token result) }
  | .finishOpen token expired frameLease => (finishOpen env subscriptions token expired frameLease).1
  | .command ref command => (subscriptions.command ref command).1
  | .markerEnqueued ref requestId =>
    { subscriptions with routes := subscriptions.routes.map (Route.markerEnqueued requestId ref) }
  | .responseSettled requestId =>
    subscriptions.removeAll (subscriptions.routes.filter
      (fun route => route.state == .retiring && route.retireRequestId == some requestId))
  | .drain ledger enqueue => drain env subscriptions ledger enqueue
  | .timer now => { subscriptions with routes := subscriptions.routes.map (Route.expire now) }
  | .shutdown => shutdown subscriptions

end Cove.Worker.Recovery
