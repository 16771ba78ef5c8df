import Cove.Worker.PipeHandlers

/-!
A reply is paid for when its command is admitted. Over every run of the worker's end of the pipe, whatever else was
queued meanwhile, an admitted command can queue its reply, and the queue and the stream keep to the negotiated budgets.
The heartbeat alone is outside them: its one frame is prepaid.
-/

namespace Cove.Worker.PipeReserve
open Base.ByteStream Base.Keyed Base.Run Protocol.Budgets Protocol.Frame List
open Protocol.Identity Protocol.Pipe Worker.PipeEndpoint Worker.PipeEndpoint.WorkerPipe
open Worker.PipeMoves Relation WorkerPipe

variable {env : Env} {p after : WorkerPipe} {frame : OutboundFrame} {record : RequestRecord}

/-! ### Why the pipe closes -/

theorem move_closed (move : Move env p after) :
    after.closed = p.closed ∨ ∃ reason, after.closed = some reason ∧ reason ≠ .responseSendFailed ∧
      reason ≠ .stdoutCapacityExceeded := by
  cases move with
  | close reason isOpen plain => exact .inr ⟨reason, by simp [shutdown, isOpen], plain⟩
  | hand frame rest => exact .inl (hand_same p frame rest).1
  | _ => exact .inl rfl

theorem steps_closed (steps : Steps env p after) :
    after.closed = p.closed ∨ ∃ reason, after.closed = some reason ∧ reason ≠ .responseSendFailed ∧
      reason ≠ .stdoutCapacityExceeded := by
  induction steps with
  | refl => exact .inl rfl
  | tail _ last ih =>
    rcases move_closed last with same | other
    · rw [same]
      exact ih
    · exact .inr other

theorem books_run (env : Env) (events : List Event) : Books (run (step env) (new env) events) :=
  run_invariant Books (Books.new env) (fun _ event books => books.step event) events

/-- The step that closes the pipe for want of capacity, if there is one, had a reply that cannot be framed. -/
theorem closing_step {events : List Event} {reason : Reason}
    (capacity : reason = .responseSendFailed ∨ reason = .stdoutCapacityExceeded)
    (closed : (run (step env) (new env) events).closed = some reason) :
    reason = .responseSendFailed ∧ ∃ before requestId response rest,
      events = before ++ .complete requestId response :: rest ∧
      ∃ record ∈ (run (step env) (new env) before).pending, record.requestId = requestId ∧
        record.phase = .executing ∧ encode env (.reply (response.getD (unknownError record.command))) = none := by
  obtain ⟨before, event, rest, split, still, now⟩ :=
    run_first (fun p : WorkerPipe => p.closed = some reason) (by simp [new]) closed
  have books := books_run env before
  rcases step_steps books event with steps | ⟨requestId, response, rfl, record, member, named, runs, unframed, isOpen, closes⟩
  · rcases steps_closed steps with same | ⟨other, named, plain⟩
    · rw [same] at now
      exact absurd now still
    · rw [named] at now
      cases now
      rcases capacity with failed | exceeded
      · exact absurd failed plain.1
      · exact absurd exceeded plain.2
  · rw [closes] at now
    have last : reason = .responseSendFailed := by simpa [shutdown, isOpen] using now.symm
    exact ⟨last, before, requestId, response, rest, split, record, member, named, runs, unframed⟩

/-! ### A frame that was queued stays -/

def Sent (pipe : WorkerPipe) (frame : OutboundFrame) : Prop :=
  pipe.closed = some .stdoutWriteFailed ∨ pipe.closed = none ∧ frame ∈ pipe.unsettledFrames

section

variable (books : Books p)
include books

theorem sent_flushLoop (isOpen : p.closed = none) (free : p.blocked = false)
    (queued : frame ∈ p.unsettledFrames) : Sent (p.flushLoop env p.outbound) frame := by
  generalize left : p.outbound = frames
  induction frames generalizing p with
  | nil => exact .inr ⟨isOpen, queued⟩
  | cons first rest ih =>
    have move : Move env p (p.hand first rest) := .hand first rest isOpen free left
    obtain ⟨same, remains⟩ := hand_same p first rest
    have open' : (p.hand first rest).closed = none := same.trans isOpen
    have member : frame ∈ (p.hand first rest).unsettledFrames := by rwa [unsettledFrames_hand left]
    have later := books.move move
    simp only [flushLoop]
    split
    · left
      simp [shutdown, open']
    split
    · have within := later.accounted_le open'
      omega
    split
    · exact .inr ⟨open', member⟩
    · rename_i unblocked
      exact ih later open' (by simpa using unblocked) member remains

theorem sent_flush (isOpen : p.closed = none) (queued : frame ∈ p.unsettledFrames) : Sent (p.flush env) frame := by
  unfold flush
  split
  · exact .inr ⟨isOpen, queued⟩
  rename_i go
  simp only [Bool.or_eq_true, not_or, Bool.not_eq_true] at go
  exact sent_flushLoop books isOpen go.1 queued

theorem sent_deliver (plain : frame.token = none) (sent : Sent p frame) (delivery : Delivery) :
    Sent (p.deliver env delivery) frame := by
  cases delivery with
  | cancelUnsent =>
    refine sent.imp id (And.imp id ?_)
    intro queued
    rcases mem_append.mp queued with handed | waits
    · exact mem_append_left _ handed
    · exact mem_append_right _ (List.mem_filter.mpr ⟨waits, by simp [plain]⟩)
  | enqueue metadataBytes payloadBytes _ token =>
    simp only [deliver, enqueueEvent]
    split
    · exact sent
    rename_i passed
    simp only [Bool.or_eq_true, Bool.not_eq_true', not_or, Bool.not_eq_false] at passed
    obtain ⟨greeted, isOpen⟩ := ready_iff.mp passed.1.1.1.1.1
    have queued : frame ∈ p.unsettledFrames := by
      rcases sent with failed | ⟨_, queued⟩
      · rw [isOpen] at failed
        cases failed
      · exact queued
    have move : Move env p (p.queue (eventFrame (headerBytes + metadataBytes + payloadBytes) token)) :=
      .unasked _ greeted ⟨rfl, rfl, .inr ⟨rfl, passed.2⟩⟩
    apply sent_flush (books.move move) isOpen
    rw [unsettledFrames_queue]
    exact mem_append_left _ queued

theorem sent_call (plain : frame.token = none) (sent : Sent p frame) : Sent (p.call env) frame := by
  have deliveries : ∀ (deliveries : List Delivery) (p : WorkerPipe), Books p → Sent p frame →
      Sent (deliveries.foldl (deliver env) p) frame := by
    intro deliveries
    induction deliveries with
    | nil => exact fun _ _ sent => sent
    | cons delivery rest ih =>
      intro p books sent
      exact ih _ (books.steps (deliver_steps books delivery)) (sent_deliver books plain sent delivery)
  have counted : Move env p { p with calls := p.calls + 1 } :=
    .keep p.controlCursor p.peakAccountedBytes p.ingressActive p.reading p.allowCommands (p.calls + 1)
  exact deliveries (env.react p.calls) _ (books.move counted) sent

/-- An admitted command queues its reply, whatever else the pipe holds. -/
theorem completeCommand_sent (isOpen : p.closed = none) (member : record ∈ p.pending) (runs : record.phase = .executing)
    {response : Option Reply} {bytes : Nat}
    (correlated : validatePipeResultForCommand record.command (response.getD (unknownError record.command)) = true)
    (encoded : encode env (.reply (response.getD (unknownError record.command))) = some bytes) :
    Sent (p.completeCommand env record.requestId response)
      (replyFrame (response.getD (unknownError record.command)) bytes record) := by
  have move : Move env p ((p.endExecution record.requestId).queue
      (replyFrame (response.getD (unknownError record.command)) bytes record)) :=
    .answer record _ bytes member runs (encode_le encoded)
  have later := books.move move
  rw [completeCommand_sends books isOpen member runs correlated encoded]
  apply sent_call (later.steps (flush_steps later)) rfl
  apply sent_flush later isOpen
  rw [unsettledFrames_queue]
  simp

/-! ### The budgets -/

theorem heartbeatOwedBytes_le : p.heartbeatOwedBytes ≤ pipeHeartbeatFrameBytes := by
  unfold heartbeatOwedBytes
  cases found : p.unsettledFrames.find? OutboundFrame.heartbeat with
  | none => exact zero_le
  | some frame =>
    exact (books.ledger.beat frame (mem_of_find?_eq_some found) (find?_some found)).2

theorem frames_le : p.queuedBytes + p.transportFrameBytes ≤ p.budgets.pipeQueuedBytes + p.heartbeatOwedBytes := by
  have frames := books.frames_split
  have whole := books.control_le.2
  have ordinary := books.shares.ordinary
  have control := books.shares.control
  omega

/-- A reply frame has its own record, but for one answer to a duplicate. -/
theorem replies_le : p.unsettledFrames.countP (fun frame => frame.request.isSome) ≤ p.pending.length + 1 := by
  have replies := books.replies
  have owned : answering p.unsettledFrames ⊆ p.pending.map RequestRecord.requestId := by
    intro requestId answered
    obtain ⟨record, member, named, _⟩ := replies.owned requestId answered
    exact List.mem_map.mpr ⟨record, member, named⟩
  have answers := (replies.once.subperm owned).length_le
  rw [length_map] at answers
  have counted : ∀ frames : List OutboundFrame, frames.countP (fun frame => frame.request.isSome) ≤
      (answering frames).length + frames.countP conflicting := by
    intro frames
    induction frames with
    | nil => exact le_rfl
    | cons frame rest ih =>
      simp only [answering, countP_cons, filter_cons] at ih ⊢
      by_cases conflict : conflicting frame = true
      · simp only [conflict, Bool.not_true, Bool.false_eq_true, if_false, if_true]
        split <;> omega
      · cases request : frame.request <;> simp [conflict, request] <;> omega
  have all := counted p.unsettledFrames
  have conflicts := replies.conflicts
  omega

end

/-- An admitted command can always queue its one reply. The pipe is never closed for want of room in the stream, and
closed over a reply only if that reply could not be framed at all. Queued and handed-off frames keep to the budgets of
their class, to the whole budget but for the prepaid heartbeat, and in number to the slots of their commands. -/
theorem reply_sufficiency (env : Env) (events : List Event) :
    (run (step env) (new env) events).closed ≠ some .stdoutCapacityExceeded ∧
    ((run (step env) (new env) events).closed = some .responseSendFailed →
      ∃ before requestId response rest, events = before ++ .complete requestId response :: rest ∧
        ∃ record ∈ (run (step env) (new env) before).pending, record.requestId = requestId ∧ record.phase = .executing ∧
          encode env (.reply (response.getD (unknownError record.command))) = none) ∧
    ((run (step env) (new env) events).closed = none →
      ∀ record ∈ (run (step env) (new env) events).pending, record.phase = .executing → ∀ response bytes,
        validatePipeResultForCommand record.command (response.getD (unknownError record.command)) = true →
        encode env (.reply (response.getD (unknownError record.command))) = some bytes →
        Sent (step env (run (step env) (new env) events) (.complete record.requestId response))
          (replyFrame (response.getD (unknownError record.command)) bytes record)) ∧
    (∀ pipe, pipe = run (step env) (new env) events → pipe.ordinaryAccountedBytes ≤ pipe.ordinaryLimit ∧
      pipe.controlAccountedBytes ≤ pipe.budgets.reservedControlBytes ∧
      (pipe.closed = none → pipe.accountedBytes ≤ pipe.budgets.pipeQueuedBytes) ∧
      pipe.queuedBytes + pipe.transportFrameBytes ≤ pipe.budgets.pipeQueuedBytes + pipe.heartbeatOwedBytes ∧
      pipe.heartbeatOwedBytes ≤ pipeHeartbeatFrameBytes ∧ pipe.unsettledFrames.countP OutboundFrame.heartbeat ≤ 1 ∧
      Slots pipe.budgets.pendingWorkerCommands pipe.pending ∧
      pipe.unsettledFrames.countP (fun frame => frame.request.isSome) ≤ pipe.pending.length + 1) := by
  have books := books_run env events
  refine ⟨?_, ?_, ?_, ?_⟩
  · intro closed
    have failed := (closing_step (.inr rfl) closed).1
    cases failed
  · intro closed
    exact (closing_step (.inl rfl) closed).2
  · intro isOpen record member runs response bytes correlated encoded
    exact completeCommand_sent (books.move (quiet_move env _)) isOpen member runs correlated encoded
  · rintro pipe rfl
    have beats := books.ledger.beats
    refine ⟨books.ordinary_le, books.shares.control, books.accounted_le, frames_le books,
      heartbeatOwedBytes_le books, ?_, books.slots, replies_le books⟩
    split at beats <;> omega

/-! ### The heartbeat is outside the budget -/

def tightBudgets : EffectiveBudgets := { m0Limits with pipeQueuedBytes := 69648, reservedControlBytes := 6112 }

/-- Frames of 2000 bytes for a ready, 2500 for a result, 1300 for an error and 800 for a heartbeat. -/
def tightEnv : Env where
  buildVersion := "1"
  highWaterMark := 16384
  metadataBytes := fun message => match message with
    | .ready _ => 1984
    | .heartbeat _ _ => 784
    | .reply (.result _) => 2484
    | .reply (.error _) => 1284
  wellFormed := fun _ => true
  throws := fun _ => false
  react := fun _ => []

def tightWorker : WorkerRef := ⟨"server", "relay", "worker", "first"⟩

def tightRun : RunRef := ⟨"server", "relay", "run"⟩

def tightStatus : PipeCommand := ⟨tightWorker, tightRun, "status", .status⟩

def tightResult : PipeResult where
  worker := tightWorker
  run := tightRun
  requestId := "status"
  commandType := .status
  outcome := .accepted
  recoveryMode := none
  operationId := none
  atSeq := none
  inputSeq := none
  input := none
  writtenBytes := none
  runStatus := some tightRun

/-- A ready, an answered status, an answered duplicate of it and as much output as fits, none of it written out yet;
then a heartbeat. -/
def tightEvents : List Event :=
  [.data 100 0, .frame (.hello ⟨tightWorker, pipeVersion, "1", tightBudgets⟩) 0 true, .chunkRead, .data 100 0,
    .frame (.command tightStatus 50 0) 0 true, .complete "status" (some (.result tightResult)),
    .frame (.command tightStatus 50 0) 0 true, .deliver (.enqueue 500 63020 true 0), .beat ⟨1000, 0, 0, none, 0, 0⟩]

theorem heartbeat_beyond_budget : (run (step tightEnv) (new tightEnv) tightEvents).budgets.pipeQueuedBytes <
      (run (step tightEnv) (new tightEnv) tightEvents).queuedBytes +
        (run (step tightEnv) (new tightEnv) tightEvents).transportFrameBytes := by
  decide +kernel

/-! ### An idle endpoint -/

structure Idle (pipe : WorkerPipe) : Prop where
  isOpen : pipe.closed = none
  sent : pipe.unsettledFrames = []
  served : pipe.pending = []

/-- Any legal event frame is taken, and any ordinary command is started with room for its reply. -/
structure Usable (env : Env) (pipe : WorkerPipe) : Prop where
  delivers : ∀ metadataBytes payloadBytes token, 1 ≤ metadataBytes → metadataBytes ≤ maxMetadataBytes →
    payloadBytes ≤ maxPayloadBytes →
    (pipe.enqueueEvent env metadataBytes payloadBytes true token).2 = some (headerBytes + metadataBytes + payloadBytes)
  admits : ∀ command metadataBytes payloadBytes held, roleOf command = .ordinary →
    pipe.handleCommand env command metadataBytes payloadBytes held =
      (({ pipe with pending := pipe.pending ++ [{ command := command, role := .ordinary, phase := .deferred }] } :
        WorkerPipe).startExecution env { command := command, role := .ordinary, phase := .deferred }, true)

theorem Idle.accounts (idle : Idle p) (books : Books p) : p.accountedBytes = 0 ∧ p.ordinaryAccountedBytes = 0 := by
  have split := books.accountedBytes_eq idle.isOpen
  have buffered := books.ledger.stream.buffered
  rw [← books.ledger.handed] at buffered
  have control : p.controlAccountedBytes = 0 := by
    simp [controlAccountedBytes, reservedFor, bytesOf, idle.sent, idle.served]
  have ordinary : p.ordinaryAccountedBytes = 0 := by
    simp only [ordinaryAccountedBytes, reservedFor, bytesOf, idle.sent, idle.served, countP_nil, filter_nil, total_nil]
    omega
  omega

theorem Idle.fits_iff (idle : Idle p) (books : Books p) (bytes : Nat) :
    p.fits bytes false false = true ↔ bytes ≤ p.ordinaryLimit := by
  obtain ⟨accounted, ordinary⟩ := idle.accounts books
  have whole := books.control_le.2
  simp only [fits, Bool.false_eq_true, if_false, Bool.and_eq_true,
    decide_eq_true_eq]
  omega

theorem Idle.delivers (idle : Idle p) (books : Books p) (greeted : p.hello ≠ none)
    {metadataBytes payloadBytes : Nat} (token : Nat) (some : 1 ≤ metadataBytes)
    (metadata : metadataBytes ≤ maxMetadataBytes) (payload : payloadBytes ≤ maxPayloadBytes) :
    (p.enqueueEvent env metadataBytes payloadBytes true token).2 = Option.some
        (headerBytes + metadataBytes + payloadBytes) ↔
      headerBytes + metadataBytes + payloadBytes ≤ p.ordinaryLimit := by
  have ready : p.ready = true := ready_iff.mpr ⟨greeted, idle.isOpen⟩
  have nonempty : metadataBytes ≠ 0 := by omega
  have fits := idle.fits_iff books (headerBytes + metadataBytes + payloadBytes)
  simp only [enqueueEvent, ready, nonempty, Nat.not_lt.mpr metadata, Nat.not_lt.mpr payload]
  by_cases room : p.fits (headerBytes + metadataBytes + payloadBytes) false false = true
  · simpa [room] using fits.mp room
  · simp [room, ← fits]

theorem Idle.admits (idle : Idle p) (books : Books p) (greeted : p.hello ≠ none) {command : PipeCommand}
    (role : roleOf command = .ordinary) (room : 2 * maxReplyBytes ≤ p.ordinaryLimit)
    (metadataBytes payloadBytes held : Nat) : p.handleCommand env command metadataBytes payloadBytes held =
      (({ p with pending := p.pending ++ [{ command := command, role := .ordinary, phase := .deferred }] } :
        WorkerPipe).startExecution env { command := command, role := .ordinary, phase := .deferred }, true) := by
  generalize joins : ({ command := command, role := .ordinary, phase := .deferred } : RequestRecord) = record
  have waits : record.phase = .deferred := by rw [← joins]
  have positive := books.positive greeted
  obtain ⟨accounted, ordinary⟩ := idle.accounts books
  have whole := books.control_le.2
  have slot : p.slotAvailable .ordinary = true := by
    simp only [slotAvailable, if_true, slotsTaken, idle.served, countP_nil, decide_eq_true_eq]
    omega
  have absent : get? RequestRecord.requestId p.pending command.requestId = none := by
    rw [idle.served]
    rfl
  have capacity : ({ p with pending := p.pending ++ [record] } : WorkerPipe).replyCapacity .ordinary = true := by
    have total : ({ p with pending := p.pending ++ [record] } : WorkerPipe).accountedBytes = 0 := accounted
    have share : ({ p with pending := p.pending ++ [record] } : WorkerPipe).ordinaryAccountedBytes = 0 := by
      have none : ({ p with pending := p.pending ++ [record] } : WorkerPipe).reservedFor (· == .ordinary) = 0 := by
        simp [reservedFor, idle.served, waits]
      have rest : p.bytesOf (fun frame => !frame.control && !frame.heartbeat) +
          (p.writable.length - p.transportFrameBytes) = 0 := by
        unfold ordinaryAccountedBytes at ordinary
        omega
      unfold ordinaryAccountedBytes
      rw [none, Nat.zero_add]
      exact rest
    have budgets : ({ p with pending := p.pending ++ [record] } : WorkerPipe).budgets = p.budgets := rfl
    have queue : ¬maxReplyBytes > p.budgets.pipeQueuedBytes := by omega
    simp only [replyCapacity, total, share, budgets, Nat.zero_add, if_neg queue]
    exact decide_eq_true room
  simp [handleCommand, absent, role, slot, joins, capacity]

/-- An idle endpoint is usable if a frame of the largest size fits beside the control reserve. The checks of the
budgets ask for the frame and for the reserve, not for both. -/
theorem idle_usable_iff (env : Env) (events : List Event) (hello : Hello)
    (greeted : (run (step env) (new env) events).hello = some hello) (idle : Idle (run (step env) (new env) events)) :
    Usable env (run (step env) (new env) events) ↔
      hello.effectiveBudgets.reservedControlBytes + maxFrameBytes ≤ hello.effectiveBudgets.pipeQueuedBytes := by
  have books := books_run env events
  generalize run (step env) (new env) events = pipe at *
  have negotiated : pipe.budgets = hello.effectiveBudgets := by simp [budgets, greeted]
  have known : pipe.hello ≠ none := by simp [greeted]
  have whole := books.control_le.2
  rw [negotiated] at whole
  have largest : headerBytes + maxMetadataBytes + maxPayloadBytes = maxFrameBytes := by decide
  constructor
  · intro usable
    have taken := usable.delivers maxMetadataBytes maxPayloadBytes 0 (by decide) le_rfl le_rfl
    rw [idle.delivers books known 0 (by decide) le_rfl le_rfl] at taken
    omega
  · intro room
    refine ⟨?_, ?_⟩
    · intro metadataBytes payloadBytes token some metadata payload
      rw [idle.delivers books known token some metadata payload]
      omega
    · intro command metadataBytes payloadBytes held role
      have replies : 2 * maxReplyBytes ≤ maxFrameBytes := by decide
      exact idle.admits books known role (by omega) metadataBytes payloadBytes held

def greeting (budgets : EffectiveBudgets) : List Event :=
  [.data 100 0, .frame (.hello ⟨tightWorker, pipeVersion, "1", budgets⟩) 0 true, .chunkRead, .left 2000, .written]

theorem tight_usable_iff : ¬Usable tightEnv (run (step tightEnv) (new tightEnv) (greeting tightBudgets)) ∧
      Usable tightEnv (run (step tightEnv) (new tightEnv) (greeting m0Limits)) := by
  have tight := idle_usable_iff tightEnv (greeting tightBudgets) ⟨tightWorker, pipeVersion, "1", tightBudgets⟩ rfl
    ⟨rfl, rfl, rfl⟩
  have plain := idle_usable_iff tightEnv (greeting m0Limits) ⟨tightWorker, pipeVersion, "1", m0Limits⟩ rfl
    ⟨rfl, rfl, rfl⟩
  exact ⟨tight.not.mpr (by decide), plain.mpr (by decide)⟩

/-- The smallest queue and the largest reserve that the checks accept. -/
def crampedBudgets : EffectiveBudgets := { m0Limits with pipeQueuedBytes := 69648, reservedControlBytes := 65536 }

def crampedInput : PipeCommand := ⟨tightWorker, tightRun, "input", .input 1⟩

/-- Accepted budgets that leave an idle endpoint without its largest event frame and without any ordinary command. -/
theorem cramped_unusable : (validateEffectiveBudgets crampedBudgets).isSome = true ∧
      Idle (run (step tightEnv) (new tightEnv) (greeting crampedBudgets)) ∧
      ((run (step tightEnv) (new tightEnv) (greeting crampedBudgets)).enqueueEvent tightEnv 4096 65536 true
        0).2 = none ∧
      ((run (step tightEnv) (new tightEnv) (greeting crampedBudgets)).handleCommand tightEnv crampedInput 50 1
        0).1.started = [] := by
  refine ⟨by decide +kernel, ⟨by decide +kernel, rfl, by decide +kernel⟩, by decide +kernel, by decide +kernel⟩

end Cove.Worker.PipeReserve
