import Cove.Base.Run
import Cove.Base.Sums
import Cove.Worker.PipeEndpoint

/-!
What the worker's end of the pipe can do, as a relation: every handler is a sequence of the moves below. The books of
the endpoint (the counters agree with the queue, the stream and the records; ordinary traffic and control traffic each
keep to their share; each role keeps to its slots; every reply frame has its record) are shown to survive each move
once, and each handler is taken apart once.
-/

namespace Cove.Worker.PipeMoves
open Base.ByteStream Base.Keyed Base.Run Base.Sums Protocol.Budgets List Bool Option
open Protocol.Pipe Worker.PipeEndpoint Worker.PipeEndpoint.WorkerPipe OutboundFrame RequestRecord Writable

variable (pipe : WorkerPipe)

def Room (record : RequestRecord) : Prop :=
  if record.role = .rejection then
    pipe.sharedReplySlotAvailable = true ∨ pipe.ordinaryRejectionFits record.command = true
  else record.role = roleOf record.command ∧ pipe.slotAvailable record.role = true

def Unasked (frame : OutboundFrame) : Prop :=
  frame.request = none ∧ frame.extra = false ∧
    (frame.heartbeat = true ∧ frame.control = false ∧ frame.bytes ≤ pipeHeartbeatFrameBytes ∧
        pipe.unsettledFrames.countP heartbeat = 0 ∧ pipe.heartbeatUnsettled = true ∨
      frame.heartbeat = false ∧ pipe.fits frame.bytes frame.control false = true)

def replyFrame (reply : Reply) (bytes : Nat) (record : RequestRecord) : OutboundFrame :=
  messageFrame (.reply reply) bytes (record.role != .ordinary) (some record.requestId) (record.role == .rejection) false

inductive Move (env : Env) : WorkerPipe → WorkerPipe → Prop where
  | keep {pipe : WorkerPipe} (cursor peak : Nat) (active reading allow : Bool) (calls : Nat) :
    Move env pipe
      { pipe with
        controlCursor := cursor
        peakAccountedBytes := peak
        ingressActive := active
        reading := reading
        allowCommands := allow
        calls := calls }
  | leave {pipe : WorkerPipe} (bytes : Nat) : Move env pipe { pipe with writable := pipe.writable.leave bytes }
  | drainClosed {pipe : WorkerPipe} (closed : pipe.closed ≠ none) : Move env pipe { pipe with writable := pipe.writable.drained }
  | drain {pipe : WorkerPipe} (isOpen : pipe.closed = none) :
    Move env pipe { pipe with writable := pipe.writable.drained, blocked := false, blockedFrameBytes := 0 }
  | close {pipe : WorkerPipe} (reason : Reason) (isOpen : pipe.closed = none)
    (plain : reason ≠ .responseSendFailed ∧ reason ≠ .stdoutCapacityExceeded) : Move env pipe (pipe.shutdown reason)
  | hand {pipe : WorkerPipe} (frame : OutboundFrame) (rest : List OutboundFrame) (isOpen : pipe.closed = none)
    (free : pipe.blocked = false) (queued : pipe.outbound = frame :: rest) : Move env pipe (pipe.hand frame rest)
  | greet {pipe : WorkerPipe} (hello : Hello) (first : pipe.hello = none)
    (valid : (validateEffectiveBudgets hello.effectiveBudgets).isSome) : Move env pipe { pipe with hello := some hello }
  | quicken {pipe : WorkerPipe} (quiet : pipe.heartbeatUnsettled = false) : Move env pipe { pipe with heartbeatUnsettled := true }
  | unasked {pipe : WorkerPipe} (frame : OutboundFrame) (greeted : pipe.hello ≠ none)
    (room : Unasked pipe frame) : Move env pipe (pipe.queue frame)
  | conflict {pipe : WorkerPipe} (command : PipeCommand) (outstanding : RequestRecord) (bytes : Nat)
    (member : outstanding ∈ pipe.pending) (same : outstanding.requestId = command.requestId)
    (alone : pipe.extraResponseItems = 0) (fits : pipe.fits bytes true false = true) :
    Move env pipe
      (pipe.queue (messageFrame (.reply (conflictError command)) bytes true (some command.requestId) true false))
  | cancel {pipe : WorkerPipe} (token : Nat) : Move env pipe (pipe.cancelUnsent token)
  | settle {pipe : WorkerPipe} (frame : OutboundFrame) (after : Writable OutboundFrame)
    (called : pipe.writable.callback bytes = some (frame, after)) :
    Move env pipe (pipe.settled frame after)
  | retire {pipe : WorkerPipe} (record : RequestRecord) (member : record ∈ pipe.pending) (answered : record.phase = .response)
    (last : ∀ frame ∈ pipe.unsettledFrames, frame.request ≠ some record.requestId) :
    Move env pipe { pipe with pending := erase requestId pipe.pending record.requestId }
  | park {pipe : WorkerPipe} (command : PipeCommand) (metadataBytes : Nat)
    (greeted : pipe.hello ≠ none) (fresh : command.requestId ∉ pipe.pending.map requestId)
    (role : roleOf command = .route) (window : pipe.routeWindowRecords < pipeRouteControlCommands) :
    Move env pipe
      { pipe with
        pending := pipe.pending ++ [{ command := command, role := .route, phase := .parked }]
        parkedRouteControl := pipe.parkedRouteControl ++ [{ command := command, metadataBytes := metadataBytes }]
        parkedRouteBytes := pipe.parkedRouteBytes + metadataBytes }
  | enter {pipe : WorkerPipe} (record : RequestRecord) (greeted : pipe.hello ≠ none)
    (fresh : record.requestId ∉ pipe.pending.map requestId) (waits : record.phase = .deferred)
    (room : Room pipe record) : Move env pipe { pipe with pending := pipe.pending ++ [record] }
  | wake {pipe : WorkerPipe} (parked : Parked) (rest : List Parked) (record : RequestRecord)
    (oldest : pipe.parkedRouteControl = parked :: rest) (member : record ∈ pipe.pending)
    (waits : record.phase = .parked) (room : pipe.slotAvailable .route = true) :
    Move env pipe (pipe.wake parked rest record.requestId)
  | defer {pipe : WorkerPipe} (record : RequestRecord) (member : record ∈ pipe.pending) (waits : record.phase = .deferred)
    (control : record.role ≠ .ordinary) (apart : record ∉ pipe.deferredControl) :
    Move env pipe { pipe with deferredControl := pipe.deferredControl ++ [record] }
  | undefer {pipe : WorkerPipe} (record : RequestRecord) (cursor : Nat) :
    Move env pipe
      { pipe with deferredControl := pipe.deferredControl.erase record, controlCursor := cursor }
  | start {pipe : WorkerPipe} (record : RequestRecord) (member : record ∈ pipe.pending)
    (waits : record.phase = .deferred) (accepted : record.role ≠ .rejection) (apart : record ∉ pipe.deferredControl)
    (capacity : pipe.replyCapacity record.role = true) : Move env pipe (pipe.beginExecution record)
  | refuse {pipe : WorkerPipe} (record : RequestRecord) (member : record ∈ pipe.pending)
    (waits : record.phase = .deferred) (apart : record ∉ pipe.deferredControl) :
    Move env pipe (pipe.setPhase record.requestId .response)
  | reject {pipe : WorkerPipe} (record : RequestRecord) (bytes : Nat) (member : record ∈ pipe.pending)
    (waits : record.phase = .deferred) (refused : record.role = .rejection) (apart : record ∉ pipe.deferredControl)
    (fits : (pipe.setPhase record.requestId .response).fits bytes true false = true) :
    Move env pipe
      ((pipe.setPhase record.requestId .response).queue (replyFrame (busyError record.command) bytes record))
  | lapse {pipe : WorkerPipe} (record : RequestRecord) (member : record ∈ pipe.pending) (runs : record.phase = .executing) :
    Move env pipe (pipe.endExecution record.requestId)
  | answer {pipe : WorkerPipe} (record : RequestRecord) (reply : Reply) (bytes : Nat)
    (member : record ∈ pipe.pending) (runs : record.phase = .executing) (small : bytes ≤ maxReplyBytes) :
    Move env pipe ((pipe.endExecution record.requestId).queue (replyFrame reply bytes record))

variable {env : Env} {p after : WorkerPipe} {frame : OutboundFrame} {record : RequestRecord}

/-! ### The books -/

def executing (records : List RequestRecord) : Nat := records.countP (fun record => record.phase == .executing)

variable (frames : List OutboundFrame)

def lastBytes : Nat := (frames.getLast?.map bytes).getD 0

structure Ledger : Prop where
  queued : pipe.queuedBytes = total bytes pipe.outbound
  handed : pipe.transportFrameBytes = total bytes pipe.writable.waiting
  reserved : pipe.reservedReplyBytes = executing pipe.pending * maxReplyBytes
  extras : pipe.extraResponseItems = pipe.unsettledFrames.countP extra
  stream : Sound bytes pipe.writable
  stalled : pipe.closed = none → pipe.blocked = pipe.writable.needDrain ∧
    pipe.blockedFrameBytes = if pipe.blocked then lastBytes pipe.writable.waiting else 0
  beats : pipe.unsettledFrames.countP heartbeat ≤ if pipe.heartbeatUnsettled then 1 else 0
  beat : ∀ frame ∈ pipe.unsettledFrames, frame.heartbeat = true →
    frame.control = false ∧ frame.bytes ≤ pipeHeartbeatFrameBytes
  plain : ∀ frame ∈ pipe.unsettledFrames, frame.extra = true → frame.token = none

structure Records : Prop where
  unique : Unique requestId pipe.pending
  deferred : ∀ record ∈ pipe.deferredControl,
    record ∈ pipe.pending ∧ record.phase = .deferred ∧ record.role ≠ .ordinary
  once : pipe.deferredControl.Nodup
  parked : ∀ record ∈ pipe.pending, record.phase = .parked → record.role = .route
  role : ∀ record ∈ pipe.pending, record.role ≠ .rejection → record.role = roleOf record.command
  runs : ∀ record ∈ pipe.pending, record.phase = .executing → record.role ≠ .rejection
  fresh : pipe.hello = none → pipe.unsettledFrames = [] ∧ pipe.pending = []
  valid : ∀ hello, pipe.hello = some hello → (validateEffectiveBudgets hello.effectiveBudgets).isSome

/-- Replies reserved and frames unsettled, ordinary traffic and control traffic each within its share. -/
structure Shares : Prop where
  ordinary : pipe.reservedFor (· == .ordinary) + pipe.bytesOf (fun frame => !frame.control && !frame.heartbeat) ≤
    pipe.ordinaryLimit
  control : pipe.reservedFor (· != .ordinary) + pipe.bytesOf control ≤ pipe.budgets.reservedControlBytes

def taken (records : List RequestRecord) (role : Role) : Nat :=
  records.countP (fun record => record.role == role && record.phase != .parked)

/-- The records of each kind are within their slots. -/
structure Slots (limit : Nat) (records : List RequestRecord) : Prop where
  ordinary : taken records .ordinary ≤ limit
  status : taken records .status ≤ 1
  stop : taken records .stop ≤ 1
  route : taken records .route ≤ 1
  parked : records.countP (fun record => record.phase == .parked) ≤ pipeRouteControlCommands
  refused : records.countP (fun record => record.role == .rejection && roleOf record.command == .ordinary) ≤ limit
  refusedControl : records.countP (fun record => record.role == .rejection && roleOf record.command != .ordinary) ≤ 1

def conflicting (frame : OutboundFrame) : Bool :=
  frame.extra && match frame.carried with
    | .message (.reply (.error error)) => error.error.kind == .operationIdConflict
    | _ => false

def answering : List String :=
  (frames.filter (fun frame => !conflicting frame)).filterMap request

/-- A record has at most one reply, and only once it has been answered. -/
structure Replies : Prop where
  once : (answering pipe.unsettledFrames).Nodup
  owned : ∀ requestId ∈ answering pipe.unsettledFrames,
    ∃ record ∈ pipe.pending, record.requestId = requestId ∧ record.phase = .response
  conflicts : pipe.unsettledFrames.countP conflicting ≤ 1

structure Books : Prop where
  ledger : Ledger pipe
  records : Records pipe
  shares : Shares pipe
  slots : Slots pipe.budgets.pendingWorkerCommands pipe.pending
  replies : Replies pipe

/-! ### What the moves do to the frames -/

theorem unsettledFrames_queue (p : WorkerPipe) (frame : OutboundFrame) :
    (p.queue frame).unsettledFrames = p.unsettledFrames ++ [frame] := by
  simp [unsettledFrames, queue, recordPeak]

variable {rest : List OutboundFrame}

theorem unsettledFrames_hand (queued : p.outbound = frame :: rest) :
    (p.hand frame rest).unsettledFrames = p.unsettledFrames := by
  simp only [hand]
  split <;> simp [unsettledFrames, recordPeak, write, queued]

variable {stream : Writable OutboundFrame}

theorem unsettledFrames_settled (called : p.writable.callback bytes = some (frame, stream)) :
    p.unsettledFrames = frame :: (p.settled frame stream).unsettledFrames := by
  simp [unsettledFrames, settled, (callback_eq_some called).1]

theorem unsettledFrames_cancelUnsent (p : WorkerPipe) (token : Nat) :
    (p.cancelUnsent token).unsettledFrames.Sublist p.unsettledFrames :=
  List.Sublist.append (.refl _) filter_sublist

theorem unsettledFrames_shutdown (reason : Reason) (isOpen : p.closed = none) :
    (p.shutdown reason).unsettledFrames = p.writable.waiting.map cleared := by
  simp [shutdown, isOpen, unsettledFrames]

theorem total_filter_le_of_sublist {frames all : List OutboundFrame} (part : frames.Sublist all)
    (chosen : OutboundFrame → Bool) : total bytes (frames.filter chosen) ≤ total bytes (all.filter chosen) :=
  (List.Sublist.map bytes (part.filter chosen)).sum_le_sum (fun _ _ => zero_le)

theorem total_cleared : total bytes (frames.map cleared) = total bytes frames := by
  simp only [total, List.map_map]
  rfl

theorem countP_cleared (chosen : OutboundFrame → Bool) (blind : ∀ frame, chosen (cleared frame) = chosen frame) :
    (frames.map cleared).countP chosen = frames.countP chosen := by
  rw [countP_map]
  apply countP_congr
  intro frame _
  simp [blind frame]

theorem waiting_sublist (p : WorkerPipe) : p.writable.waiting.Sublist p.unsettledFrames :=
  sublist_append_left _ _

/-! ### The ledger -/

def transport :=
  (pipe.writable, pipe.outbound, pipe.queuedBytes, pipe.transportFrameBytes, pipe.extraResponseItems, pipe.closed,
    pipe.blocked, pipe.blockedFrameBytes)

theorem Ledger.of_frames (ledger : Ledger p) (same : transport after = transport p)
    (quiet : p.heartbeatUnsettled = true → after.heartbeatUnsettled = true)
    (reserved : after.reservedReplyBytes = executing after.pending * maxReplyBytes) : Ledger after := by
  simp only [transport, Prod.mk.injEq] at same
  obtain ⟨stream, queue, queued, handed, extras, closed, blocked, stalled⟩ := same
  have frames : after.unsettledFrames = p.unsettledFrames := by simp [unsettledFrames, stream, queue]
  refine ⟨by rw [queued, queue]; exact ledger.queued, by rw [handed, stream]; exact ledger.handed, reserved,
    by rw [extras, frames]; exact ledger.extras, stream ▸ ledger.stream, ?_, ?_, frames ▸ ledger.beat,
    frames ▸ ledger.plain⟩
  · intro isOpen
    rw [blocked, stalled, stream]
    exact ledger.stalled (closed ▸ isOpen)
  · rw [frames]
    have before := ledger.beats
    cases flag : p.heartbeatUnsettled with
    | true => simpa [quiet flag, flag] using before
    | false =>
      simp only [flag, false_eq_true, if_false] at before
      omega

theorem Ledger.queue (ledger : Ledger p) (frame : OutboundFrame)
    (beat : frame.heartbeat = true → frame.control = false ∧ frame.bytes ≤ pipeHeartbeatFrameBytes ∧
      p.unsettledFrames.countP heartbeat = 0 ∧ p.heartbeatUnsettled = true)
    (plain : frame.extra = true → frame.token = none) : Ledger (p.queue frame) where
  queued := by
    have before := ledger.queued
    simp [WorkerPipe.queue, recordPeak, before]
  handed := ledger.handed
  reserved := ledger.reserved
  extras := by
    have before := ledger.extras
    rw [unsettledFrames_queue, countP_append, ← before]
    simp [WorkerPipe.queue, recordPeak]
  stream := ledger.stream
  stalled := ledger.stalled
  beats := by
    rw [unsettledFrames_queue, countP_append]
    by_cases isBeat : frame.heartbeat = true
    · obtain ⟨_, _, none, flag⟩ := beat isBeat
      simp [none, flag, isBeat, WorkerPipe.queue, recordPeak]
    · have apart : [frame].countP heartbeat = 0 := by simp [isBeat]
      rw [apart]
      exact ledger.beats
  beat := by
    rw [unsettledFrames_queue]
    intro other member isBeat
    rcases mem_snoc member with old | rfl
    · exact ledger.beat other old isBeat
    · exact ⟨(beat isBeat).1, (beat isBeat).2.1⟩
  plain := by
    rw [unsettledFrames_queue]
    intro other member extra
    rcases mem_snoc member with old | rfl
    · exact ledger.plain other old extra
    · exact plain extra

theorem lastBytes_append (frame : OutboundFrame) : lastBytes (frames ++ [frame]) = frame.bytes := by
  simp [lastBytes]

theorem lastBytes_cons {frames : List OutboundFrame} (frame : OutboundFrame) (more : frames ≠ []) :
    lastBytes (frame :: frames) = lastBytes frames := by
  simp [lastBytes, getLast?_cons, getLast?_eq_some_getLast more]

theorem lastBytes_le : lastBytes frames ≤ total bytes frames := by
  unfold lastBytes
  cases last : frames.getLast? with
  | none => exact zero_le
  | some frame =>
    show frame.bytes ≤ _
    exact size_le_total (mem_of_getLast? last)

theorem Ledger.hand (ledger : Ledger p) (isOpen : p.closed = none)
    (free : p.blocked = false) (queued : p.outbound = frame :: rest) : Ledger (p.hand frame rest) := by
  have frames := unsettledFrames_hand queued
  obtain ⟨drain, stalled⟩ := ledger.stalled isOpen
  have calm : p.writable.needDrain = false := by rw [← drain, free]
  have inQueue := ledger.queued
  rw [queued] at inQueue
  have sound := ledger.stream.write frame
  have extras := ledger.extras
  have beats := ledger.beats
  have beat := ledger.beat
  have plain := ledger.plain
  rw [← frames] at extras beats beat plain
  have inStream := ledger.handed
  simp only [WorkerPipe.hand] at extras beats beat plain ⊢
  split
  · rename_i below
    simp only [below, if_true] at extras beats beat plain
    refine ⟨by simp [recordPeak, inQueue], ?_, ledger.reserved, extras, sound, ?_, beats, beat, plain⟩
    · simp [recordPeak, write, inStream]
    · intro _
      have under : p.writable.length + frame.bytes < p.writable.highWaterMark := by
        simpa [write] using below
      simpa [recordPeak, write, free, calm, under] using stalled
  · rename_i above
    simp only [above] at extras beats beat plain
    refine ⟨by simp [recordPeak, inQueue], ?_, ledger.reserved, extras, sound, ?_, beats, beat, plain⟩
    · simp [recordPeak, write, inStream]
    · have past : ¬p.writable.length + frame.bytes < p.writable.highWaterMark := by
        simpa [write] using above
      simp [recordPeak, write, past, lastBytes_append]

theorem Ledger.settled (ledger : Ledger p) (called : p.writable.callback bytes = some (frame, stream)) : Ledger (p.settled frame stream) := by
  have frames := unsettledFrames_settled called
  obtain ⟨waiting, _, drain, _, owed⟩ := callback_eq_some called
  have handed := ledger.handed
  have extras := ledger.extras
  have beats := ledger.beats
  rw [waiting, total_cons] at handed
  rw [frames, countP_cons] at extras beats
  refine ⟨ledger.queued, ?_, ledger.reserved, ?_, Sound.callback called, ?_, ?_, ?_, ?_⟩
  · simp only [WorkerPipe.settled]
    omega
  · simp only [WorkerPipe.settled] at extras ⊢
    omega
  · intro isOpen
    obtain ⟨blocked, stalled⟩ := ledger.stalled isOpen
    refine ⟨blocked.trans drain.symm, ?_⟩
    change p.blockedFrameBytes = _
    rw [stalled, waiting]
    by_cases held : p.blocked = true
    · have more : stream.waiting ≠ [] := by
        intro none
        rw [blocked, owed none] at held
        cases held
      simp [held, WorkerPipe.settled, lastBytes_cons frame more]
    · simp [held, WorkerPipe.settled]
  · cases isBeat : frame.heartbeat with
    | true =>
      simp only [isBeat, if_true] at beats
      have single : (if p.heartbeatUnsettled = true then 1 else 0) ≤ 1 := by split <;> omega
      omega
    | false => simpa [isBeat, WorkerPipe.settled] using beats
  · intro other member
    exact ledger.beat other (frames ▸ mem_cons_of_mem frame member)
  · intro other member
    exact ledger.plain other (frames ▸ mem_cons_of_mem frame member)

theorem Ledger.cancelUnsent (ledger : Ledger p) (token : Nat) : Ledger (p.cancelUnsent token) := by
  have part := unsettledFrames_cancelUnsent p token
  have split := sum_filter_split bytes (fun _ => true) (fun frame => frame.token != some token)
    (fun frame => frame.token == some token) p.outbound (by simp [bne]) (by simp [bne])
  refine ⟨?_, ledger.handed, ledger.reserved, ?_, ledger.stream, ledger.stalled, ?_, ?_, ?_⟩
  · have queued := ledger.queued
    simp only [filter_true] at split
    simp only [WorkerPipe.cancelUnsent, total] at queued split ⊢
    omega
  · have kept : (p.outbound.filter (fun frame => frame.token != some token)).countP extra =
        p.outbound.countP extra := by
      rw [countP_filter]
      apply countP_congr
      intro frame member
      by_cases extra : frame.extra = true
      · simp [ledger.plain frame (mem_append_right _ member) extra]
      · simp [extra]
    have extras := ledger.extras
    simp only [unsettledFrames, countP_append] at extras
    simp only [WorkerPipe.cancelUnsent, unsettledFrames, countP_append, kept]
    exact extras
  · exact Nat.le_trans part.countP_le ledger.beats
  · intro other member
    exact ledger.beat other (part.subset member)
  · intro other member
    exact ledger.plain other (part.subset member)

theorem Ledger.shutdown (ledger : Ledger p) {reason : Reason} (isOpen : p.closed = none) :
    Ledger (p.shutdown reason) := by
  have frames := unsettledFrames_shutdown reason isOpen
  have extras := ledger.extras
  simp only [unsettledFrames, countP_append] at extras
  refine ⟨?_, ?_, ?_, ?_, ⟨?_, ?_⟩, ?_, ?_, ?_, ?_⟩
  · simp [WorkerPipe.shutdown, isOpen]
  · have same := total_cleared p.writable.waiting
    have handed := ledger.handed
    simp [WorkerPipe.shutdown, isOpen, same, handed]
  · simp [WorkerPipe.shutdown, isOpen, executing]
  · rw [frames, countP_cleared _ _ (fun _ => rfl)]
    simp only [WorkerPipe.shutdown, isOpen, isSome_none, false_eq_true, if_false]
    omega
  · have buffered := ledger.stream.buffered
    rw [← total_cleared] at buffered
    simpa [WorkerPipe.shutdown, isOpen] using buffered
  · intro owed
    have waits := ledger.stream.owed (by simpa [WorkerPipe.shutdown, isOpen] using owed)
    simpa [WorkerPipe.shutdown, isOpen] using waits
  · simp [WorkerPipe.shutdown, isOpen]
  · rw [frames, countP_cleared _ _ (fun _ => rfl)]
    have fewer : p.writable.waiting.countP heartbeat ≤ _ := (waiting_sublist p).countP_le
    have beats := Nat.le_trans fewer ledger.beats
    simpa [WorkerPipe.shutdown, isOpen] using beats
  · rw [frames]
    intro other member isBeat
    obtain ⟨old, inside, rfl⟩ := List.mem_map.mp member
    exact ledger.beat old ((waiting_sublist p).subset inside) isBeat
  · rw [frames]
    intro other member extra
    obtain ⟨old, inside, rfl⟩ := List.mem_map.mp member
    exact ledger.plain old ((waiting_sublist p).subset inside) extra

/-! ### Records that change their phase -/

theorem reservedFor_congr (same : after.pending = p.pending) (roles : Role → Bool) :
    after.reservedFor roles = p.reservedFor roles := by
  unfold reservedFor
  rw [same]

section SetPhase
variable (p : WorkerPipe) (requestId : String) (phase : Phase)

@[simp] theorem budgets_setPhase : (p.setPhase requestId phase).budgets = p.budgets := rfl

@[simp] theorem ordinaryLimit_setPhase : (p.setPhase requestId phase).ordinaryLimit = p.ordinaryLimit := rfl

@[simp] theorem bytesOf_setPhase (chosen : OutboundFrame → Bool) :
    (p.setPhase requestId phase).bytesOf chosen = p.bytesOf chosen := rfl

@[simp] theorem budgets_endExecution : (p.endExecution requestId).budgets = p.budgets := rfl

@[simp] theorem ordinaryLimit_endExecution : (p.endExecution requestId).ordinaryLimit = p.ordinaryLimit := rfl

@[simp] theorem bytesOf_endExecution (chosen : OutboundFrame → Bool) :
    (p.endExecution requestId).bytesOf chosen = p.bytesOf chosen := rfl

theorem reservedFor_endExecution (roles : Role → Bool) :
    (p.endExecution requestId).reservedFor roles = (p.setPhase requestId .response).reservedFor roles := by
  apply reservedFor_congr
  rfl

end SetPhase

theorem setPhase_unique (unique : Unique requestId p.pending) (requestId : String) (phase : Phase) :
    Unique RequestRecord.requestId (p.setPhase requestId phase).pending :=
  unique.modify _ (fun _ same => same)

section Listed
variable (unique : Unique requestId p.pending) (member : record ∈ p.pending) (phase : Phase)
include unique member

theorem countP_setPhase (chosen : RequestRecord → Bool) :
    (p.setPhase record.requestId phase).pending.countP chosen + (if chosen record then 1 else 0) =
      p.pending.countP chosen + (if chosen { record with phase := phase } then 1 else 0) :=
  unique.countP_modify member (fun record => { record with phase := phase }) chosen

theorem countP_setPhase_same (chosen : RequestRecord → Bool) (same : chosen { record with phase := phase } = chosen record) :
    (p.setPhase record.requestId phase).pending.countP chosen = p.pending.countP chosen := by
  have counted := countP_setPhase unique member phase chosen
  rw [same] at counted
  omega

theorem reservedFor_setPhase (roles : Role → Bool) : (p.setPhase record.requestId phase).reservedFor roles +
        (if roles record.role && record.phase == .executing then maxReplyBytes else 0) =
      p.reservedFor roles + (if roles record.role && phase == .executing then maxReplyBytes else 0) := by
  have counted := countP_setPhase unique member phase
    (fun record => roles record.role && record.phase == .executing)
  have scaled := congrArg (· * maxReplyBytes) counted
  simp only [Nat.add_mul, ite_mul] at scaled
  exact scaled

theorem executing_setPhase :
    executing (p.setPhase record.requestId phase).pending + (if record.phase = .executing then 1 else 0) =
      executing p.pending + (if phase = .executing then 1 else 0) := by
  simpa [executing] using countP_setPhase unique member phase (fun record => record.phase == .executing)

end Listed

variable {phase : Phase}

theorem mem_setPhase {changed : RequestRecord} {requestId : String} (member : changed ∈ (p.setPhase requestId phase).pending) : changed ∈ p.pending ∧ changed.requestId ≠ requestId ∨
      ∃ old ∈ p.pending, old.requestId = requestId ∧ changed = { old with phase := phase } :=
  mem_modify _ member

/-! ### The shares -/

theorem bytesOf_queue (p : WorkerPipe) (frame : OutboundFrame) (chosen : OutboundFrame → Bool) :
    (p.queue frame).bytesOf chosen = p.bytesOf chosen + (if chosen frame then frame.bytes else 0) := by
  unfold bytesOf
  rw [unsettledFrames_queue]
  by_cases inside : chosen frame = true
  · simp [inside]
  · simp [inside]

theorem Shares.of_le (shares : Shares p) (budgets : after.budgets = p.budgets)
    (reserved : ∀ roles, after.reservedFor roles ≤ p.reservedFor roles)
    (bytes : ∀ chosen : OutboundFrame → Bool, (∀ frame : OutboundFrame, chosen frame.cleared = chosen frame) →
      after.bytesOf chosen ≤ p.bytesOf chosen) : Shares after where
  ordinary := by
    unfold ordinaryLimit
    rw [budgets]
    exact Nat.le_trans (Nat.add_le_add (reserved _) (bytes _ (fun _ => rfl))) shares.ordinary
  control := by
    rw [budgets]
    exact Nat.le_trans (Nat.add_le_add (reserved _) (bytes _ (fun _ => rfl))) shares.control

theorem Shares.queue (shares : Shares p) (frame : OutboundFrame)
    (ordinary : frame.control = false → frame.heartbeat = false →
      p.reservedFor (· == .ordinary) + p.bytesOf (fun frame => !frame.control && !frame.heartbeat) +
        frame.bytes ≤ p.ordinaryLimit) (control : frame.control = true →
      p.reservedFor (· != .ordinary) + p.bytesOf OutboundFrame.control + frame.bytes ≤
        p.budgets.reservedControlBytes) : Shares (p.queue frame) where
  ordinary := by
    have limit : (p.queue frame).ordinaryLimit = p.ordinaryLimit := rfl
    have reserved : (p.queue frame).reservedFor (· == .ordinary) = p.reservedFor (· == .ordinary) := rfl
    rw [bytesOf_queue, limit, reserved]
    have before := shares.ordinary
    cases isControl : frame.control with
    | true => simpa [isControl] using before
    | false =>
      cases isBeat : frame.heartbeat with
      | true => simpa [isBeat] using before
      | false =>
        have room := ordinary isControl isBeat
        simp only [Bool.not_false, Bool.and_true, if_true]
        omega
  control := by
    have budgets : (p.queue frame).budgets = p.budgets := rfl
    have reserved : (p.queue frame).reservedFor (· != .ordinary) = p.reservedFor (· != .ordinary) := rfl
    rw [bytesOf_queue, budgets, reserved]
    have before := shares.control
    cases isControl : frame.control with
    | true =>
      have room := control isControl
      simp only [if_true]
      omega
    | false => simpa [isControl] using before

variable {bytes : Nat}

/-- What `fits` checks is more than the shares need. -/
theorem fits_ordinary (fits : p.fits bytes false false = true) :
    p.reservedFor (· == .ordinary) + p.bytesOf (fun frame => !frame.control && !frame.heartbeat) + bytes ≤
      p.ordinaryLimit := by
  simp only [WorkerPipe.fits, false_eq_true, if_false, and_eq_true, decide_eq_true_eq] at fits
  have share := fits.2
  unfold ordinaryAccountedBytes at share
  omega

theorem fits_control (fits : p.fits bytes true false = true) :
    p.reservedFor (· != .ordinary) + p.bytesOf control + bytes ≤ p.budgets.reservedControlBytes := by
  simp only [WorkerPipe.fits, false_eq_true, if_false, if_true, and_eq_true, decide_eq_true_eq] at fits
  exact fits.2

theorem Shares.setPhase (shares : Shares p) (unique : Unique requestId p.pending)
    (member : record ∈ p.pending) (idle : phase ≠ .executing) :
    Shares (p.setPhase record.requestId phase) := by
  have budgets : (p.setPhase record.requestId phase).budgets = p.budgets := rfl
  apply shares.of_le budgets
  · intro roles
    have moved := reservedFor_setPhase unique member phase roles
    have none : (phase == .executing) = false := by simpa using idle
    simp only [none, Bool.and_false, false_eq_true, if_false] at moved
    omega
  · intro chosen _
    exact le_rfl

/-! ### The slots -/

variable {limit : Nat} {records : List RequestRecord}

variable {others : List RequestRecord}

theorem Slots.of_le (slots : Slots limit records) (fewer : ∀ chosen, others.countP chosen ≤ records.countP chosen) : Slots limit others where
  ordinary := Nat.le_trans (fewer _) slots.ordinary
  status := Nat.le_trans (fewer _) slots.status
  stop := Nat.le_trans (fewer _) slots.stop
  route := Nat.le_trans (fewer _) slots.route
  parked := Nat.le_trans (fewer _) slots.parked
  refused := Nat.le_trans (fewer _) slots.refused
  refusedControl := Nat.le_trans (fewer _) slots.refusedControl

theorem Slots.of_same (slots : Slots limit records) (same : ∀ role ≠ .rejection, taken others role = taken records role)
    (parked : others.countP (fun record => record.phase == .parked) ≤ pipeRouteControlCommands)
    (refused : others.countP (fun record => record.role == .rejection && roleOf record.command == .ordinary) ≤ limit)
    (refusedControl :
      others.countP (fun record => record.role == .rejection && roleOf record.command != .ordinary) ≤ 1) :
    Slots limit others where
  ordinary := (same .ordinary (by decide)).trans_le slots.ordinary
  status := (same .status (by decide)).trans_le slots.status
  stop := (same .stop (by decide)).trans_le slots.stop
  route := (same .route (by decide)).trans_le slots.route
  parked := parked
  refused := refused
  refusedControl := refusedControl

theorem Slots.setPhase (slots : Slots limit p.pending) (unique : Unique requestId p.pending)
    (member : record ∈ p.pending) (active : record.phase ≠ .parked) (stays : phase ≠ .parked) :
    Slots limit (p.setPhase record.requestId phase).pending := by
  have before : (record.phase == .parked) = false := by simpa using active
  have changed : (phase == .parked) = false := by simpa using stays
  have parked := countP_setPhase_same unique member phase (fun record => record.phase == .parked)
    (by rw [before, changed])
  refine slots.of_same ?_ (parked.trans_le slots.parked) ?_ ?_
  · intro role _
    apply countP_setPhase_same unique member phase (fun record => record.role == role && record.phase != .parked)
    simp [bne, before, changed]
  · exact (countP_setPhase_same unique member phase _ rfl).trans_le slots.refused
  · exact (countP_setPhase_same unique member phase _ rfl).trans_le slots.refusedControl

theorem taken_eq_zero {role : Role} (control : role ≠ .ordinary) (room : p.slotAvailable role = true) :
    taken p.pending role = 0 := by
  have free : p.slotsTaken role = 0 := by simpa [slotAvailable, control] using room
  exact free

theorem Slots.wake (slots : Slots limit p.pending) (unique : Unique requestId p.pending)
    (member : record ∈ p.pending) (role : record.role = .route) (room : p.slotAvailable .route = true) :
    Slots limit (p.setPhase record.requestId .deferred).pending := by
  have free := taken_eq_zero (by decide) room
  have same : ∀ role ≠ .route,
      taken (p.setPhase record.requestId .deferred).pending role = taken p.pending role := by
    intro other apart
    apply countP_setPhase_same unique member .deferred (fun record => record.role == other && record.phase != .parked)
    have differs : (Role.route == other) = false := by simpa using apart.symm
    simp [role, differs]
  have route := countP_setPhase unique member .deferred (fun record => record.role == .route && record.phase != .parked)
  have parked := countP_setPhase unique member .deferred (fun record => record.phase == .parked)
  have bound := slots.parked
  refine ⟨?_, ?_, ?_, ?_, ?_, ?_, ?_⟩
  · exact (same .ordinary (by decide)).trans_le slots.ordinary
  · exact (same .status (by decide)).trans_le slots.status
  · exact (same .stop (by decide)).trans_le slots.stop
  · simp only [role] at route
    unfold taken at free ⊢
    simp at route
    omega
  · simp at parked
    omega
  · exact (countP_setPhase_same unique member .deferred _ rfl).trans_le slots.refused
  · exact (countP_setPhase_same unique member .deferred _ rfl).trans_le slots.refusedControl

theorem taken_append (waits : record.phase = .deferred) (role : Role) :
    taken (records ++ [record]) role = taken records role + (if record.role == role then 1 else 0) := by
  have active : (record.phase != .parked) = true := by simp [waits]
  simp only [taken, countP_append, countP_singleton, active, Bool.and_true]

theorem Slots.accept (slots : Slots p.budgets.pendingWorkerCommands p.pending) (waits : record.phase = .deferred)
    (accepted : record.role ≠ .rejection) (free : p.slotAvailable record.role = true) :
    Slots p.budgets.pendingWorkerCommands (p.pending ++ [record]) := by
  have idle : (record.phase == .parked) = false := by simp [waits]
  have refusals : (record.role == .rejection) = false := by simpa using accepted
  have grown : ∀ role : Role, role ≠ .ordinary → taken p.pending role ≤ 1 →
      taken (p.pending ++ [record]) role ≤ 1 := by
    intro role control bound
    rw [taken_append waits]
    by_cases same : record.role = role
    · rw [same] at free
      rw [taken_eq_zero control free]
      split <;> omega
    · simpa [same] using bound
  refine ⟨?_, ?_, ?_, ?_, ?_, ?_, ?_⟩
  · rw [taken_append waits]
    by_cases same : record.role = .ordinary
    · simp only [slotAvailable, same, if_true, decide_eq_true_eq] at free
      simp only [same]
      exact free
    · simpa [same] using slots.ordinary
  · exact grown .status (by decide) slots.status
  · exact grown .stop (by decide) slots.stop
  · exact grown .route (by decide) slots.route
  · simpa [idle] using slots.parked
  · simpa [refusals] using slots.refused
  · simpa [refusals] using slots.refusedControl

/-- A rejection takes the shared slot, or one in the window of ordinary commands. -/
theorem Slots.refuse (slots : Slots p.budgets.pendingWorkerCommands p.pending)
    (positive : 1 ≤ p.budgets.pendingWorkerCommands) (waits : record.phase = .deferred)
    (refused : record.role = .rejection)
    (room : p.sharedReplySlotAvailable = true ∨ p.ordinaryRejectionFits record.command = true) :
    Slots p.budgets.pendingWorkerCommands (p.pending ++ [record]) := by
  have idle : (record.phase == .parked) = false := by simp [waits]
  have alone : p.sharedReplySlotAvailable = true → ∀ chosen : RequestRecord → Bool,
      p.pending.countP (fun record => record.role == .rejection && chosen record) = 0 := by
    intro shared chosen
    simp only [sharedReplySlotAvailable, and_eq_true, not_eq_true'] at shared
    rw [countP_eq_zero]
    intro other member both
    exact List.any_eq_false.mp shared.2 other member (and_eq_true _ _ ▸ both).1
  have within : p.ordinaryRejectionFits record.command = true → roleOf record.command = .ordinary ∧
      p.pending.countP (fun record => record.role == .rejection && roleOf record.command == .ordinary) <
        p.budgets.pendingWorkerCommands := by
    intro fits
    simp only [ordinaryRejectionFits, and_eq_true, decide_eq_true_eq, beq_iff_eq] at fits
    refine ⟨fits.1, Nat.lt_of_le_of_lt (countP_mono_left ?_) fits.2⟩
    intro other _ both
    simp only [both, Bool.or_true]
  refine slots.of_same ?_ ?_ ?_ ?_
  · intro role other
    have apart : (record.role == role) = false := by simpa [refused] using other.symm
    simp [taken_append waits, apart]
  · simpa [idle] using slots.parked
  · simp only [countP_append, countP_singleton]
    rcases room with shared | fits
    · rw [alone shared]
      split <;> omega
    · have fewer := (within fits).2
      split <;> omega
  · simp only [countP_append, countP_singleton]
    rcases room with shared | fits
    · rw [alone shared]
      split <;> omega
    · simpa [(within fits).1] using slots.refusedControl

theorem Slots.park (slots : Slots limit p.pending) (records : Records p) (command : PipeCommand)
    (window : p.routeWindowRecords < pipeRouteControlCommands) :
    Slots limit (p.pending ++ [{ command := command, role := .route, phase := .parked }]) := by
  have inWindow : p.pending.countP (fun record => record.phase == .parked) ≤ p.routeWindowRecords := by
    apply countP_mono_left
    intro record member parked
    have waits : record.phase = .parked := by simpa using parked
    simp [waits, records.parked record member waits]
  refine slots.of_same (by simp [taken]) ?_ ?_ ?_
  · simp only [countP_append, countP_singleton]
    simp only [BEq.rfl, if_true]
    omega
  · simpa using slots.refused
  · simpa using slots.refusedControl

/-! ### The records -/

theorem Records.apart (records : Records p) {other : RequestRecord} (member : record ∈ p.pending)
    (listed : other ∈ p.pending) (differs : other ≠ record) : other.requestId ≠ record.requestId := by
  intro same
  have found := records.unique.get?_of_mem member
  rw [← same, records.unique.get?_of_mem listed] at found
  exact differs (some.inj found)

theorem Records.greeted (records : Records p) (member : record ∈ p.pending) : p.hello ≠ none := by
  intro none
  rw [(records.fresh none).2] at member
  cases member

theorem Records.setPhase (records : Records p) (member : record ∈ p.pending) (stays : phase ≠ .parked) (apart : record ∉ p.deferredControl)
    (accepted : phase = .executing → record.role ≠ .rejection) : Records (p.setPhase record.requestId phase) where
  unique := setPhase_unique records.unique record.requestId phase
  deferred := by
    intro other held
    obtain ⟨listed, waits, control⟩ := records.deferred other held
    have differs : other ≠ record := by
      rintro rfl
      exact apart held
    exact ⟨mem_modify_of_ne _ listed (records.apart member listed differs), waits, control⟩
  once := records.once
  parked := by
    intro changed inside waits
    rcases mem_setPhase inside with ⟨old, _⟩ | ⟨old, _, _, rfl⟩
    · exact records.parked changed old waits
    · exact absurd waits stays
  role := by
    intro changed inside
    rcases mem_setPhase inside with ⟨old, _⟩ | ⟨old, listed, _, rfl⟩
    · exact records.role changed old
    · exact records.role old listed
  runs := by
    intro changed inside executing
    rcases mem_setPhase inside with ⟨old, _⟩ | ⟨old, listed, same, rfl⟩
    · exact records.runs changed old executing
    by_cases differs : old = record
    · exact differs ▸ accepted executing
    · exact absurd same (records.apart member listed differs)
  fresh := fun none => absurd none (records.greeted member)
  valid := records.valid

theorem Records.append (records : Records p) (greeted : p.hello ≠ none)
    (fresh : record.requestId ∉ p.pending.map requestId) (parked : record.phase = .parked → record.role = .route)
    (role : record.role ≠ .rejection → record.role = roleOf record.command) (waits : record.phase ≠ .executing) :
    Records { p with pending := p.pending ++ [record] } where
  unique := records.unique.append fresh
  deferred := by
    intro other held
    obtain ⟨listed, rest⟩ := records.deferred other held
    exact ⟨mem_append_left _ listed, rest⟩
  once := records.once
  parked := by
    intro other listed
    rcases mem_snoc listed with old | rfl
    · exact records.parked other old
    · exact parked
  role := by
    intro other listed
    rcases mem_snoc listed with old | rfl
    · exact records.role other old
    · exact role
  runs := by
    intro other listed executing
    rcases mem_snoc listed with old | rfl
    · exact records.runs other old executing
    · exact absurd executing waits
  fresh := fun none => absurd none greeted
  valid := records.valid

theorem Records.retire (records : Records p) (member : record ∈ p.pending) (answered : record.phase = .response) :
    Records { p with pending := erase requestId p.pending record.requestId } where
  unique := records.unique.erase record.requestId
  deferred := by
    intro other held
    obtain ⟨listed, waits, control⟩ := records.deferred other held
    have differs : other ≠ record := by
      rintro rfl
      rw [waits] at answered
      cases answered
    refine ⟨?_, waits, control⟩
    simpa [erase] using And.intro listed (records.apart member listed differs)
  once := records.once
  parked := fun other listed => records.parked other (mem_erase listed).1
  role := fun other listed => records.role other (mem_erase listed).1
  runs := fun other listed => records.runs other (mem_erase listed).1
  fresh := fun none => absurd none (records.greeted member)
  valid := records.valid

theorem Records.of_same (records : Records p) (pending : after.pending = p.pending)
    (deferred : after.deferredControl.Sublist p.deferredControl) (hello : after.hello = p.hello)
    (frames : p.hello = none → after.unsettledFrames = []) : Records after where
  unique := pending ▸ records.unique
  deferred := by
    intro other held
    rw [pending]
    exact records.deferred other (deferred.subset held)
  once := deferred.nodup records.once
  parked := pending ▸ records.parked
  role := pending ▸ records.role
  runs := pending ▸ records.runs
  fresh := by
    intro none
    rw [hello] at none
    exact ⟨frames none, pending ▸ (records.fresh none).2⟩
  valid := hello ▸ records.valid

/-! ### The replies -/

theorem answering_append (frame : OutboundFrame) :
    answering (frames ++ [frame]) = answering frames ++ (if conflicting frame then [] else frame.request.toList) := by
  unfold answering
  by_cases conflict : conflicting frame = true
  · simp [conflict]
  · cases request : frame.request <;> simp [conflict, request]

theorem answering_sublist {frames others : List OutboundFrame} (part : frames.Sublist others) :
    (answering frames).Sublist (answering others) :=
  (part.filter _).filterMap _

theorem answering_cleared : answering (frames.map cleared) = [] := by
  unfold answering
  rw [filterMap_eq_nil_iff]
  intro frame member
  obtain ⟨old, _, rfl⟩ := List.mem_map.mp (mem_of_mem_filter member)
  rfl

section

variable (replies : Replies p)
include replies

theorem Replies.not_answering (records : Records p) (member : record ∈ p.pending)
    (idle : record.phase ≠ .response) : record.requestId ∉ answering p.unsettledFrames := by
  intro answered
  obtain ⟨owner, listed, same, response⟩ := replies.owned record.requestId answered
  by_cases differs : owner = record
  · exact idle (differs ▸ response)
  · exact records.apart member listed differs same

theorem Replies.of_sublist (part : after.unsettledFrames.Sublist p.unsettledFrames)
    (pending : ∀ record ∈ p.pending, record.requestId ∈ answering after.unsettledFrames →
      record.phase = .response → record ∈ after.pending) : Replies after where
  once := (answering_sublist part).nodup replies.once
  owned := by
    intro requestId answered
    obtain ⟨record, member, same, response⟩ := replies.owned requestId ((answering_sublist part).subset answered)
    exact ⟨record, pending record member (same ▸ answered) response, same, response⟩
  conflicts := Nat.le_trans part.countP_le replies.conflicts

theorem Replies.setPhase (records : Records p) (member : record ∈ p.pending)
    (idle : record.phase ≠ .response) (phase : Phase) : Replies (p.setPhase record.requestId phase) := by
  have frames : (p.setPhase record.requestId phase).unsettledFrames.Sublist p.unsettledFrames :=
    List.Sublist.refl _
  apply replies.of_sublist frames
  intro other listed _ response
  apply mem_modify_of_ne _ listed
  apply records.apart member listed
  rintro rfl
  exact idle response

theorem Replies.unasked (request : frame.request = none) (plain : frame.extra = false) : Replies (p.queue frame) := by
  have same : answering (p.queue frame).unsettledFrames = answering p.unsettledFrames := by
    rw [unsettledFrames_queue, answering_append]
    simp [request]
  refine ⟨same ▸ replies.once, same ▸ replies.owned, ?_⟩
  rw [unsettledFrames_queue]
  simpa [conflicting, plain] using replies.conflicts

theorem Replies.reply (reply : Reply) (bytes : Nat)
    (first : record.requestId ∉ answering p.unsettledFrames) (proper : record.role = .rejection →
      conflicting (replyFrame reply bytes record) = false)
    (response : ∃ owner ∈ p.pending, owner.requestId = record.requestId ∧ owner.phase = .response) :
    Replies (p.queue (replyFrame reply bytes record)) := by
  have apart : conflicting (replyFrame reply bytes record) = false := by
    by_cases refused : record.role = .rejection
    · exact proper refused
    · simp [conflicting, replyFrame, messageFrame, refused]
  have added : answering (p.queue (replyFrame reply bytes record)).unsettledFrames =
      answering p.unsettledFrames ++ [record.requestId] := by
    rw [unsettledFrames_queue, answering_append, apart]
    rfl
  refine ⟨?_, ?_, ?_⟩
  · rw [added]
    exact replies.once.append (nodup_singleton _) (by simpa using first)
  · rw [added]
    intro requestId answered
    rcases mem_snoc answered with old | rfl
    · exact replies.owned requestId old
    · exact response
  · rw [unsettledFrames_queue]
    simpa [apart] using replies.conflicts

theorem Replies.conflict (command : PipeCommand) (bytes : Nat) (alone : p.unsettledFrames.countP extra = 0) :
    Replies (p.queue
      (messageFrame (.reply (conflictError command)) bytes true (some command.requestId) true false)) := by
  have none : p.unsettledFrames.countP conflicting = 0 := by
    rw [countP_eq_zero] at alone ⊢
    intro frame member conflict
    exact alone frame member (and_eq_true _ _ ▸ conflict).1
  have conflict : conflicting
      (messageFrame (.reply (conflictError command)) bytes true (some command.requestId) true false) = true := rfl
  have same : answering (p.queue (messageFrame (.reply (conflictError command)) bytes true
      (some command.requestId) true false)).unsettledFrames = answering p.unsettledFrames := by
    rw [unsettledFrames_queue, answering_append]
    simp [conflict]
  refine ⟨same ▸ replies.once, same ▸ replies.owned, ?_⟩
  rw [unsettledFrames_queue, countP_append, none]
  simp [conflict]

/-! ### Every move keeps the books -/

end

section

variable (books : Books p)
include books

theorem Books.positive (greeted : p.hello ≠ none) : 1 ≤ p.budgets.pendingWorkerCommands := by
  obtain ⟨hello, some⟩ := ne_none_iff_exists'.mp greeted
  have valid := books.records.valid hello some
  simpa [budgets, some] using (validateEffectiveBudgets_pipe valid).1

theorem Books.queue (greeted : p.hello ≠ none)
    (beat : frame.heartbeat = true → frame.control = false ∧ frame.bytes ≤ pipeHeartbeatFrameBytes ∧
      p.unsettledFrames.countP heartbeat = 0 ∧ p.heartbeatUnsettled = true)
    (plain : frame.extra = true → frame.token = none) (shares : Shares (p.queue frame))
    (replies : Replies (p.queue frame)) : Books (p.queue frame) where
  ledger := books.ledger.queue frame beat plain
  records := books.records.of_same rfl (.refl _) rfl (fun none => absurd none greeted)
  shares := shares
  slots := books.slots
  replies := replies

theorem Books.unasked (greeted : p.hello ≠ none) (room : Unasked p frame) : Books (p.queue frame) := by
  obtain ⟨request, plain, kind⟩ := room
  have replies := books.replies.unasked request plain
  rcases kind with ⟨isBeat, control, small, none, flag⟩ | ⟨notBeat, fits⟩
  · apply books.queue greeted (fun _ => ⟨control, small, none, flag⟩) (by simp [plain]) _ replies
    apply books.shares.queue
    · intro _ notBeat
      rw [isBeat] at notBeat
      cases notBeat
    · intro isControl
      rw [control] at isControl
      cases isControl
  · apply books.queue greeted (by simp [notBeat]) (by simp [plain]) _ replies
    apply books.shares.queue
    · intro ordinary _
      rw [ordinary] at fits
      exact fits_ordinary fits
    · intro control
      rw [control] at fits
      exact fits_control fits

section

variable (member : record ∈ p.pending)
include member

theorem Books.setPhase (apart : record ∉ p.deferredControl) (active : record.phase ≠ .parked) (stays : phase ≠ .parked)
    (idle : record.phase ≠ .response) (accepted : phase = .executing → record.role ≠ .rejection) (reserved : Nat)
    (covers : reserved = executing (p.setPhase record.requestId phase).pending * maxReplyBytes)
    (shares : Shares (p.setPhase record.requestId phase)) :
    Books { p.setPhase record.requestId phase with reservedReplyBytes := reserved } where
  ledger := books.ledger.of_frames rfl id covers
  records := (books.records.setPhase member stays apart accepted).of_same rfl (.refl _) rfl
    (fun none => absurd none (books.records.greeted member))
  shares := shares.of_le rfl (fun _ => le_rfl) (fun _ _ => le_rfl)
  slots := books.slots.setPhase books.records.unique member active stays
  replies := (books.replies.setPhase books.records member idle phase).of_sublist (.refl _)
    (fun _ listed _ _ => listed)

theorem Books.start (waits : record.phase = .deferred)
    (accepted : record.role ≠ .rejection) (apart : record ∉ p.deferredControl) (capacity : p.replyCapacity record.role = true) :
    Books { p.setPhase record.requestId .executing with
      reservedReplyBytes := p.reservedReplyBytes + maxReplyBytes } := by
  have unique := books.records.unique
  have counted := executing_setPhase unique member .executing
  simp only [waits] at counted
  apply books.setPhase member apart (by simp [waits]) (by decide) (by simp [waits]) (fun _ => accepted)
  · rw [books.ledger.reserved]
    have more : executing (p.setPhase record.requestId .executing).pending = executing p.pending + 1 := counted
    rw [more, Nat.add_mul, Nat.one_mul]
  · have reserved : ∀ roles, (p.setPhase record.requestId .executing).reservedFor roles =
        p.reservedFor roles + if roles record.role then maxReplyBytes else 0 := by
      intro roles
      simpa [waits] using reservedFor_setPhase unique member .executing roles
    have ordinary := books.shares.ordinary
    have control := books.shares.control
    unfold replyCapacity at capacity
    split at capacity
    · cases capacity
    split at capacity
    · rename_i isOrdinary
      have room := of_decide_eq_true capacity
      unfold ordinaryAccountedBytes at room
      constructor
      · rw [reserved]
        simp only [isOrdinary, BEq.rfl, if_true, bytesOf_setPhase, ordinaryLimit_setPhase]
        omega
      · rw [reserved]
        simpa [isOrdinary] using control
    · rename_i isControl
      have room := of_decide_eq_true capacity
      unfold controlAccountedBytes at room
      constructor
      · rw [reserved]
        simpa [isControl] using ordinary
      · have other : (record.role != .ordinary) = true := by simpa using isControl
        rw [reserved]
        simp only [other, if_true, bytesOf_setPhase, budgets_setPhase]
        omega

theorem Books.endExecution (runs : record.phase = .executing) : Books (p.endExecution record.requestId) := by
  have unique := books.records.unique
  have apart : record ∉ p.deferredControl := by
    intro held
    have waits := (books.records.deferred record held).2.1
    rw [runs] at waits
    cases waits
  have counted := executing_setPhase unique member .response
  simp only [runs] at counted
  have covered : p.reservedReplyBytes - maxReplyBytes =
      executing (p.setPhase record.requestId .response).pending * maxReplyBytes := by
    have fewer : executing p.pending = executing (p.setPhase record.requestId .response).pending + 1 := counted.symm
    rw [books.ledger.reserved, fewer, Nat.add_mul]
    omega
  exact books.setPhase member apart (by simp [runs]) (by decide) (by simp [runs]) (by simp) _ covered
    (books.shares.setPhase unique member (by decide))

/-- The reply takes the place of its reservation. -/
theorem Books.answer {reply : Reply} (runs : record.phase = .executing) (small : bytes ≤ maxReplyBytes) :
    Books ((p.endExecution record.requestId).queue (replyFrame reply bytes record)) := by
  have released : ∀ roles, (p.setPhase record.requestId .response).reservedFor roles +
      (if roles record.role then maxReplyBytes else 0) = p.reservedFor roles := by
    intro roles
    simpa [runs] using reservedFor_setPhase books.records.unique member .response roles
  have ended := books.endExecution member runs
  have ordinary := books.shares.ordinary
  have control := books.shares.control
  apply ended.queue (books.records.greeted member) (by simp [replyFrame, messageFrame]) (fun _ => rfl)
  · apply ended.shares.queue
    · intro isOrdinary _
      have role : record.role = .ordinary := by simpa [replyFrame, messageFrame] using isOrdinary
      have freed := released (· == .ordinary)
      simp only [role, BEq.rfl, if_true] at freed
      simp only [reservedFor_endExecution, bytesOf_endExecution, ordinaryLimit_endExecution, replyFrame, messageFrame]
      omega
    · intro isControl
      have role : (record.role != .ordinary) = true := isControl
      have freed := released (· != .ordinary)
      simp only [role, if_true] at freed
      simp only [reservedFor_endExecution, bytesOf_endExecution, budgets_endExecution, replyFrame, messageFrame]
      omega
  · apply ended.replies.reply
    · exact books.replies.not_answering books.records member (by simp [runs])
    · exact fun refused => absurd refused (books.records.runs record member runs)
    · exact ⟨{ record with phase := .response }, mem_modify_self _ member, rfl, rfl⟩

theorem Books.covered (before : record.phase ≠ .executing) (idle : phase ≠ .executing) :
    p.reservedReplyBytes = executing (p.setPhase record.requestId phase).pending * maxReplyBytes := by
  have counted := executing_setPhase books.records.unique member phase
  simp only [before, idle, if_false, Nat.add_zero] at counted
  rw [counted]
  exact books.ledger.reserved

theorem Books.refuse (waits : record.phase = .deferred) (apart : record ∉ p.deferredControl) :
    Books (p.setPhase record.requestId .response) :=
  books.setPhase member apart (by simp [waits]) (by decide) (by simp [waits]) (by simp) _
    (books.covered member (by simp [waits]) (by decide)) (books.shares.setPhase books.records.unique member (by decide))

theorem Books.reject (waits : record.phase = .deferred) (refused : record.role = .rejection) (apart : record ∉ p.deferredControl)
    (fits : (p.setPhase record.requestId .response).fits bytes true false = true) :
    Books ((p.setPhase record.requestId .response).queue (replyFrame (busyError record.command) bytes record)) := by
  have changed := books.refuse member waits apart
  apply changed.queue (books.records.greeted member) (by simp [replyFrame, messageFrame]) (fun _ => rfl)
  · apply changed.shares.queue
    · intro ordinary
      simp [replyFrame, messageFrame, refused] at ordinary
    · intro _
      exact fits_control fits
  · apply changed.replies.reply
    · exact books.replies.not_answering books.records member (by simp [waits])
    · simp [conflicting, replyFrame, messageFrame, busyError, errorFor]
    · exact ⟨{ record with phase := .response }, mem_modify_self _ member, rfl, rfl⟩

end

theorem Books.shutdown (reason : Reason) (isOpen : p.closed = none) : Books (p.shutdown reason) := by
  have frames := unsettledFrames_shutdown reason isOpen
  have pending : (p.shutdown reason).pending = [] := by simp [WorkerPipe.shutdown, isOpen]
  have deferred : (p.shutdown reason).deferredControl = [] := by simp [WorkerPipe.shutdown, isOpen]
  have hello : (p.shutdown reason).hello = p.hello := by simp [WorkerPipe.shutdown, isOpen]
  have budgets : (p.shutdown reason).budgets = p.budgets := by
    unfold WorkerPipe.budgets
    rw [hello]
  refine ⟨books.ledger.shutdown isOpen, ⟨?_, ?_, ?_, ?_, ?_, ?_, ?_, ?_⟩, ?_, ?_, ⟨?_, ?_, ?_⟩⟩
  · rw [pending]
    exact nodup_nil
  · simp [deferred]
  · simp [deferred]
  · simp [pending]
  · simp [pending]
  · simp [pending]
  · intro none
    have empty := (books.records.fresh (hello ▸ none)).1
    have waiting : p.writable.waiting = [] := (append_eq_nil_iff.mp empty).1
    exact ⟨by rw [frames, waiting, map_nil], pending⟩
  · rw [hello]
    exact books.records.valid
  · apply books.shares.of_le budgets
    · simp [reservedFor, pending]
    · intro chosen blind
      have same : (p.writable.waiting.map cleared).filter chosen =
          (p.writable.waiting.filter chosen).map cleared := by
        rw [List.filter_map]
        congr 1
        apply filter_congr
        intro frame _
        exact blind frame
      unfold bytesOf
      rw [frames, same, total_cleared]
      exact total_filter_le_of_sublist (waiting_sublist p) chosen
  · rw [budgets, pending]
    exact books.slots.of_le (by simp)
  · rw [frames, answering_cleared]
    exact nodup_nil
  · rw [frames, answering_cleared]
    simp
  · rw [frames, countP_cleared _ _ (fun _ => rfl)]
    exact Nat.le_trans (waiting_sublist p).countP_le books.replies.conflicts

theorem Books.of_same (ledger : Ledger after)
    (frames : after.unsettledFrames.Sublist p.unsettledFrames) (pending : after.pending = p.pending)
    (deferred : after.deferredControl.Sublist p.deferredControl) (hello : after.hello = p.hello) : Books after where
  ledger := ledger
  records := by
    apply books.records.of_same pending deferred hello
    intro none
    rw [(books.records.fresh none).1] at frames
    exact sublist_nil.mp frames
  shares := by
    apply books.shares.of_le (by unfold budgets; rw [hello])
    · exact fun roles => Nat.le_of_eq (reservedFor_congr pending roles)
    · intro chosen _
      exact total_filter_le_of_sublist frames chosen
  slots := by
    unfold budgets
    rw [hello, pending]
    exact books.slots
  replies := by
    apply books.replies.of_sublist frames
    intro record member _ _
    rw [pending]
    exact member

theorem Books.greet {hello : Hello} (first : p.hello = none)
    (valid : (validateEffectiveBudgets hello.effectiveBudgets).isSome) : Books { p with hello := some hello } := by
  obtain ⟨frames, pending⟩ := books.records.fresh first
  obtain ⟨waiting, queued⟩ := append_eq_nil_iff.mp frames
  constructor
  · exact books.ledger.of_frames rfl id books.ledger.reserved
  · refine { books.records with fresh := by simp, valid := ?_ }
    intro other same
    cases same
    exact valid
  · constructor <;> simp [reservedFor, bytesOf, unsettledFrames, waiting, queued, pending]
  · constructor <;> simp [taken, pending]
  · exact books.replies.of_sublist (.refl _) (fun _ listed _ _ => listed)

theorem Books.wake {parked : Parked} {rest : List Parked} (member : record ∈ p.pending)
    (waits : record.phase = .parked) (room : p.slotAvailable .route = true) :
    Books (p.wake parked rest record.requestId) := by
  have unique := books.records.unique
  have apart : record ∉ p.deferredControl := by
    intro held
    have deferred := (books.records.deferred record held).2.1
    rw [waits] at deferred
    cases deferred
  have reserved := books.covered member (by simp [waits]) (show Phase.deferred ≠ .executing by decide)
  have changed : Books (p.setPhase record.requestId .deferred) :=
    { ledger := books.ledger.of_frames rfl id reserved
      records := books.records.setPhase member (by decide) apart (by simp)
      shares := books.shares.setPhase unique member (by decide)
      slots := books.slots.wake unique member (books.records.parked record member waits) room
      replies := books.replies.setPhase books.records member (by simp [waits]) .deferred }
  refine changed.of_same ?_ (.refl _) rfl (.refl _) rfl
  exact changed.ledger.of_frames rfl id reserved

theorem Books.append (greeted : p.hello ≠ none) (fresh : record.requestId ∉ p.pending.map requestId)
    (parked : record.phase = .parked → record.role = .route)
    (role : record.role ≠ .rejection → record.role = roleOf record.command) (waits : record.phase ≠ .executing)
    (slots : Slots p.budgets.pendingWorkerCommands (p.pending ++ [record])) :
    Books { p with pending := p.pending ++ [record] } where
  ledger := by
    refine books.ledger.of_frames rfl id ?_
    have before := books.ledger.reserved
    simpa [executing, waits] using before
  records := books.records.append greeted fresh parked role waits
  shares := by
    refine books.shares.of_le rfl ?_ (fun _ _ => le_rfl)
    simp [reservedFor, waits]
  slots := slots
  replies := books.replies.of_sublist (.refl _) (fun _ listed _ _ => mem_append_left _ listed)

theorem Books.retire (member : record ∈ p.pending) (answered : record.phase = .response)
    (last : ∀ frame ∈ p.unsettledFrames, frame.request ≠ some record.requestId) :
    Books { p with pending := erase requestId p.pending record.requestId } where
  ledger := by
    refine books.ledger.of_frames rfl id ?_
    have counted := books.records.unique.countP_erase member (fun record => record.phase == .executing)
    have idle : (record.phase == .executing) = false := by simp [answered]
    simp only [idle, false_eq_true, if_false, Nat.add_zero] at counted
    unfold executing
    rw [counted]
    exact books.ledger.reserved
  records := books.records.retire member answered
  shares := by
    refine books.shares.of_le rfl ?_ (fun _ _ => le_rfl)
    intro roles
    exact Nat.mul_le_mul_right _ filter_sublist.countP_le
  slots := books.slots.of_le (fun _ => filter_sublist.countP_le)
  replies := by
    refine books.replies.of_sublist (.refl _) ?_
    intro other listed answer _
    have differs : other.requestId ≠ record.requestId := by
      intro same
      obtain ⟨frame, inFrames, request⟩ := mem_filterMap.mp answer
      exact last frame (mem_of_mem_filter inFrames) (request.trans (congrArg some same))
    simpa [erase] using And.intro listed differs

end

theorem Ledger.leave (ledger : Ledger p) (bytes : Nat) : Ledger { p with writable := p.writable.leave bytes } :=
  { ledger with stream := ledger.stream.leave bytes }

theorem Ledger.drainClosed (ledger : Ledger p) (closed : p.closed ≠ none) :
    Ledger { p with writable := p.writable.drained } :=
  { ledger with stream := ledger.stream.drained, stalled := fun isOpen => absurd isOpen closed }

theorem Ledger.drain (ledger : Ledger p) :
    Ledger { p with writable := p.writable.drained, blocked := false, blockedFrameBytes := 0 } :=
  { ledger with stream := ledger.stream.drained, stalled := fun _ => ⟨rfl, rfl⟩ }

theorem hand_records (p : WorkerPipe) (frame : OutboundFrame) (rest : List OutboundFrame) :
    (p.hand frame rest).pending = p.pending ∧ (p.hand frame rest).deferredControl = p.deferredControl ∧
      (p.hand frame rest).hello = p.hello := by
  simp only [hand]
  split <;> exact ⟨rfl, rfl, rfl⟩

theorem Books.defer (books : Books p) (member : record ∈ p.pending) (waits : record.phase = .deferred)
    (control : record.role ≠ .ordinary) (apart : record ∉ p.deferredControl) :
    Books { p with deferredControl := p.deferredControl ++ [record] } := by
  refine { books with ledger := { books.ledger with }, records := ?_, shares := ?_, replies := { books.replies with } }
  · refine { books.records with deferred := ?_, once := ?_ }
    · intro other held
      rcases mem_snoc held with old | rfl
      · exact books.records.deferred other old
      · exact ⟨member, waits, control⟩
    · exact books.records.once.append (nodup_singleton _) (by simpa using apart)
  · exact books.shares.of_le rfl (fun _ => le_rfl) (fun _ _ => le_rfl)

theorem Books.enter (books : Books p) (greeted : p.hello ≠ none)
    (fresh : record.requestId ∉ p.pending.map requestId) (waits : record.phase = .deferred)
    (room : Room p record) : Books { p with pending := p.pending ++ [record] } := by
  have idle : record.phase ≠ .parked := by simp [waits]
  have calm : record.phase ≠ .executing := by simp [waits]
  unfold Room at room
  split at room
  · rename_i refused
    exact books.append greeted fresh (fun parked => absurd parked idle) (fun accepted => absurd refused accepted) calm
      (books.slots.refuse (books.positive greeted) waits refused room)
  · rename_i accepted
    exact books.append greeted fresh (fun parked => absurd parked idle) (fun _ => room.1) calm
      (books.slots.accept waits accepted room.2)

theorem Books.move (books : Books p) (move : Move env p after) : Books after := by
  cases move with
  | keep => exact books.of_same { books.ledger with } (.refl _) rfl (.refl _) rfl
  | leave bytes =>
    exact books.of_same (books.ledger.leave bytes) (.refl _) rfl (.refl _) rfl
  | drainClosed closed =>
    exact books.of_same (books.ledger.drainClosed closed) (.refl _) rfl (.refl _) rfl
  | drain => exact books.of_same books.ledger.drain (.refl _) rfl (.refl _) rfl
  | close reason isOpen => exact books.shutdown reason isOpen
  | hand frame rest isOpen free queued =>
    obtain ⟨pending, deferred, hello⟩ := hand_records p frame rest
    apply books.of_same (books.ledger.hand isOpen free queued) _ pending _ hello
    · rw [unsettledFrames_hand queued]
    · rw [deferred]
  | greet _ first valid => exact books.greet first valid
  | quicken =>
    refine books.of_same ?_ (.refl _) rfl (.refl _) rfl
    exact books.ledger.of_frames rfl (fun _ => rfl) books.ledger.reserved
  | unasked _ greeted room => exact books.unasked greeted room
  | conflict command _ bytes member _ alone fits =>
    have single : p.unsettledFrames.countP extra = 0 := books.ledger.extras.symm.trans alone
    apply books.queue (books.records.greeted member) (by simp [messageFrame]) (fun _ => rfl)
    · exact books.shares.queue _ (by simp [messageFrame]) (fun _ => fits_control fits)
    · exact books.replies.conflict command bytes single
  | cancel token =>
    exact books.of_same (books.ledger.cancelUnsent token) (unsettledFrames_cancelUnsent p token) rfl
      (.refl _) rfl
  | settle _ _ called =>
    refine books.of_same (books.ledger.settled called) ?_ rfl (.refl _) rfl
    rw [unsettledFrames_settled called]
    exact sublist_cons_self _ _
  | retire _ member answered last => exact books.retire member answered last
  | park command _ greeted fresh role window =>
    have slots := books.slots.park books.records command window
    have joined : Books
        { p with pending := p.pending ++ [{ command := command, role := .route, phase := .parked }] } :=
      books.append greeted fresh (fun _ => rfl) (fun _ => role.symm) (by simp) slots
    exact joined.of_same { joined.ledger with } (.refl _) rfl (.refl _) rfl
  | enter _ greeted fresh waits room => exact books.enter greeted fresh waits room
  | wake _ _ _ _ member waits room => exact books.wake member waits room
  | defer _ member waits control apart => exact books.defer member waits control apart
  | undefer =>
    exact books.of_same { books.ledger with } (.refl _) rfl erase_sublist rfl
  | start _ member waits accepted apart capacity =>
    have started := books.start member waits accepted apart capacity
    exact started.of_same { started.ledger with } (.refl _) rfl (.refl _) rfl
  | refuse _ member waits apart => exact books.refuse member waits apart
  | reject _ _ member waits refused apart fits => exact books.reject member waits refused apart fits
  | lapse _ member runs => exact books.endExecution member runs
  | answer _ _ _ member runs small => exact books.answer member runs small

theorem Books.new (env : Env) : Books (WorkerPipe.new env) := by
  have frames : (WorkerPipe.new env).unsettledFrames = [] := rfl
  have pending : (WorkerPipe.new env).pending = [] := rfl
  constructor
  · refine ⟨rfl, rfl, ?_, rfl, Sound.new _, fun _ => ⟨rfl, rfl⟩, ?_, ?_, ?_⟩
    · simp [WorkerPipe.new, executing]
    · simp [frames]
    · simp [frames]
    · simp [frames]
  · refine ⟨nodup_nil, ?_, nodup_nil, ?_, ?_, ?_, fun _ => ⟨frames, pending⟩, ?_⟩ <;>
      simp [WorkerPipe.new]
  · constructor <;> simp [reservedFor, bytesOf, frames, pending]
  · constructor <;> simp [taken, pending]
  · constructor <;> simp [frames, answering]

end Cove.Worker.PipeMoves
