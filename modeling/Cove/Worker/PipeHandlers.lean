import Cove.Worker.PipeMoves
import Mathlib.Logic.Relation

/-!
Each handler of the worker's end of the pipe, taken apart into moves. The books say that a queue within its shares is
within the whole budget, so the one shutdown a flush has for itself cannot happen, and that a reply fits in the room
its command reserved.
-/

namespace Cove.Worker.PipeMoves
open Base.ByteStream Base.Keyed Base.Sums Protocol.Budgets Protocol.Frame Protocol.Pipe
open List Option
open Worker.PipeEndpoint Worker.PipeEndpoint.WorkerPipe Relation OutboundFrame

variable {env : Env} {p middle after : WorkerPipe} {frame : OutboundFrame} {record : RequestRecord}

abbrev Steps (env : Env) : WorkerPipe → WorkerPipe → Prop := ReflTransGen (Move env)

theorem Books.steps (books : Books p) (steps : Steps env p after) : Books after := by
  induction steps with
  | refl => exact books
  | tail _ last ih => exact ih.move last

/-! ### The shares add up to the budget -/

theorem Books.control_le (books : Books p) : p.budgets.reservedControlBytes ≤ p.budgets.pipeQueuedBytes ∧
      p.ordinaryLimit + p.budgets.reservedControlBytes = p.budgets.pipeQueuedBytes := by
  have less : p.budgets.reservedControlBytes ≤ p.budgets.pipeQueuedBytes := by
    cases greeting : p.hello with
    | none =>
      simp only [budgets, greeting]
      decide
    | some hello =>
      have valid := validateEffectiveBudgets_pipe (books.records.valid hello greeting)
      have frame : 65536 ≤ maxFrameBytes := by decide
      simp only [budgets, greeting, map_some, getD_some]
      omega
  unfold ordinaryLimit
  omega

theorem Books.reserved_split (books : Books p) :
    p.reservedFor (· == .ordinary) + p.reservedFor (· != .ordinary) = p.reservedReplyBytes := by
  have counted := countP_split (fun record : RequestRecord => record.phase == .executing)
    (fun record => record.role == .ordinary && record.phase == .executing)
    (fun record => record.role != .ordinary && record.phase == .executing) p.pending
    (by
      intro record
      cases equal : record.role == .ordinary <;> simp [bne, equal])
    (by
      intro record
      cases equal : record.role == .ordinary <;> simp [bne, equal])
  rw [books.ledger.reserved]
  unfold reservedFor executing
  rw [← Nat.add_mul, ← counted]

theorem heartbeatOwedBytes_eq {frames : List OutboundFrame} (single : frames.countP heartbeat ≤ 1) :
    ((frames.find? heartbeat).map bytes).getD 0 = total bytes (frames.filter heartbeat) := by
  induction frames with
  | nil => rfl
  | cons frame rest ih =>
    rw [countP_cons] at single
    by_cases isBeat : frame.heartbeat = true
    · have none : rest.filter heartbeat = [] := by
        rw [filter_eq_nil_iff, ← countP_eq_zero]
        simp only [isBeat, if_true] at single
        omega
      simp [isBeat, none]
    · simp only [isBeat] at single
      have tail := ih (by simpa using single)
      simpa [isBeat] using tail

theorem Books.frames_split (books : Books p) :
    p.queuedBytes + p.transportFrameBytes = p.bytesOf (fun frame => !frame.control && !frame.heartbeat) +
      p.bytesOf control + p.heartbeatOwedBytes := by
  have ledger := books.ledger
  have single : p.unsettledFrames.countP heartbeat ≤ 1 := by
    have beats := ledger.beats
    split at beats <;> omega
  have owed : p.heartbeatOwedBytes = p.bytesOf heartbeat := heartbeatOwedBytes_eq single
  have plain : ∀ frame ∈ p.unsettledFrames, (frame.control && frame.heartbeat) = false := by
    intro frame member
    by_cases isBeat : frame.heartbeat = true
    · simp [(ledger.beat frame member isBeat).1]
    · simp [isBeat]
  have parts := sum_filter_split bytes (fun _ => true)
    (fun frame => !frame.control && !frame.heartbeat) (fun frame => frame.control || frame.heartbeat)
    p.unsettledFrames (by intro frame _; cases frame.control <;> cases frame.heartbeat <;> rfl)
    (by intro frame _; cases frame.control <;> cases frame.heartbeat <;> rfl)
  have rest := sum_filter_split bytes (fun frame => frame.control || frame.heartbeat)
    control heartbeat p.unsettledFrames (fun _ _ => rfl) plain
  have whole : total bytes p.unsettledFrames = p.transportFrameBytes + p.queuedBytes := by
    rw [ledger.handed, ledger.queued, ← total_append]
    rfl
  rw [filter_true] at parts
  unfold bytesOf total at *
  omega

theorem Books.transportBytes_eq (books : Books p) (isOpen : p.closed = none) :
    p.transportBytes = p.transportFrameBytes := by
  have ledger := books.ledger
  have buffered := ledger.stream.buffered
  have last := lastBytes_le p.writable.waiting
  have stalled : p.blockedFrameBytes ≤ total bytes p.writable.waiting := by
    rw [(ledger.stalled isOpen).2]
    split <;> omega
  rw [← ledger.handed] at buffered last stalled
  unfold transportBytes
  omega

theorem Books.accountedBytes_eq (books : Books p) (isOpen : p.closed = none) :
    p.accountedBytes = p.ordinaryAccountedBytes + p.controlAccountedBytes := by
  have reserved := books.reserved_split
  have frames := books.frames_split
  have stream := books.transportBytes_eq isOpen
  have buffered := books.ledger.stream.buffered
  rw [← books.ledger.handed] at buffered
  unfold accountedBytes ordinaryAccountedBytes controlAccountedBytes
  omega

theorem Books.ordinary_le (books : Books p) : p.ordinaryAccountedBytes ≤ p.ordinaryLimit := by
  have share := books.shares.ordinary
  have buffered := books.ledger.stream.buffered
  rw [← books.ledger.handed] at buffered
  unfold ordinaryAccountedBytes
  omega

theorem Books.accounted_le (books : Books p) (isOpen : p.closed = none) :
    p.accountedBytes ≤ p.budgets.pipeQueuedBytes := by
  have whole := books.control_le.2
  have ordinary := books.ordinary_le
  have control : p.controlAccountedBytes ≤ p.budgets.reservedControlBytes := books.shares.control
  rw [books.accountedBytes_eq isOpen]
  omega

/-! ### Sending -/

theorem ready_iff : p.ready = true ↔ p.hello ≠ none ∧ p.closed = none := by
  simp [ready, isSome_iff_ne_none]

theorem enqueue_cases (env : Env) (p : WorkerPipe) (message : Message) (control : Bool) (request : Option String)
    (extra heartbeat : Bool) : p.enqueue env message control request extra heartbeat = (p, false) ∧
        (encode env message = none ∨ p.hello = none ∨
          ∃ bytes, encode env message = some bytes ∧ p.fits bytes control heartbeat = false) ∨
      ∃ bytes, encode env message = some bytes ∧ p.hello ≠ none ∧ p.fits bytes control heartbeat = true ∧
        p.enqueue env message control request extra heartbeat =
          (p.push env (messageFrame message bytes control request extra heartbeat), true) := by
  unfold enqueue
  split
  · rename_i unframed
    exact .inl ⟨rfl, .inl unframed⟩
  · rename_i bytes encoded
    split
    · rename_i refused
      simp only [Bool.or_eq_true, isNone_iff_eq_none, Bool.not_eq_true'] at refused
      exact .inl ⟨rfl, .inr (refused.imp id (fun full => ⟨bytes, encoded, full⟩))⟩
    · rename_i passed
      simp only [Bool.or_eq_true, isNone_iff_eq_none, Bool.not_eq_true', not_or, Bool.not_eq_false] at passed
      exact .inr ⟨bytes, encoded, passed.1, passed.2, rfl⟩

theorem shutdown_steps (p : WorkerPipe) {reason : Reason}
    (plain : reason ≠ .responseSendFailed ∧ reason ≠ .stdoutCapacityExceeded) : Steps env p (p.shutdown reason) := by
  by_cases isOpen : p.closed = none
  · exact .single (.close reason isOpen plain)
  · have same : p.shutdown reason = p := by simp [shutdown, isSome_iff_ne_none.mpr isOpen]
    rw [same]

/-- A shutdown does not look at the records. -/
theorem shutdown_congr (isOpen : p.closed = none) (after : WorkerPipe) (same : after = { p with
      pending := after.pending
      parkedRouteControl := after.parkedRouteControl
      parkedRouteBytes := after.parkedRouteBytes
      reservedReplyBytes := after.reservedReplyBytes }) (reason : Reason) :
    after.shutdown reason = p.shutdown reason := by
  rw [same]
  simp [shutdown, isOpen]

theorem hand_same (p : WorkerPipe) (frame : OutboundFrame) (rest : List OutboundFrame) :
    (p.hand frame rest).closed = p.closed ∧ (p.hand frame rest).outbound = rest := by
  simp only [hand]
  split <;> exact ⟨rfl, rfl⟩

section

variable (books : Books p)
include books

theorem flushLoop_steps (isOpen : p.closed = none) (free : p.blocked = false) :
    Steps env p (p.flushLoop env p.outbound) := by
  generalize queued : p.outbound = frames
  induction frames generalizing p with
  | nil => exact .refl
  | cons frame rest ih =>
    have move : Move env p (p.hand frame rest) := .hand frame rest isOpen free queued
    obtain ⟨still, left⟩ := hand_same p frame rest
    have later := books.move move
    simp only [flushLoop]
    split
    · exact .head move (shutdown_steps _ (by decide))
    split
    · have within := later.accounted_le (still.trans isOpen)
      omega
    split
    · exact .single move
    · rename_i unblocked
      exact .head move (ih later (still.trans isOpen) (by simpa using unblocked) left)

theorem flush_steps : Steps env p (p.flush env) := by
  unfold flush
  split
  · exact .refl
  rename_i go
  simp only [Bool.or_eq_true, isSome_iff_ne_none, not_or, Bool.not_eq_true, not_not] at go
  exact flushLoop_steps books go.2 go.1

theorem push_steps (move : Move env p (p.queue frame)) : Steps env p (p.push env frame) :=
  .head move (flush_steps (books.move move))

theorem enqueueEvent_steps (metadataBytes payloadBytes : Nat) (valid : Bool) (token : Nat) :
    Steps env p (p.enqueueEvent env metadataBytes payloadBytes valid token).1 := by
  simp only [enqueueEvent]
  split
  · exact .refl
  rename_i passed
  simp only [Bool.or_eq_true, Bool.not_eq_true', not_or, Bool.not_eq_false] at passed
  obtain ⟨greeted, isOpen⟩ := ready_iff.mp passed.1.1.1.1.1
  apply push_steps books
  exact .unasked _ greeted ⟨rfl, rfl, .inr ⟨rfl, passed.2⟩⟩

theorem deliver_steps (delivery : Delivery) : Steps env p (p.deliver env delivery) := by
  cases delivery with
  | enqueue metadataBytes payloadBytes valid token => exact enqueueEvent_steps books metadataBytes payloadBytes valid token
  | cancelUnsent token => exact .single (.cancel token)

theorem deliveries_steps (deliveries : List Delivery) : Steps env p (deliveries.foldl (deliver env) p) := by
  induction deliveries generalizing p with
  | nil => exact .refl
  | cons delivery rest ih =>
    have first : Steps env p (p.deliver env delivery) := deliver_steps books delivery
    exact first.trans (ih (books.steps first))

theorem call_steps : Steps env p (p.call env) := by
  have counted : Move env p { p with calls := p.calls + 1 } :=
    .keep p.controlCursor p.peakAccountedBytes p.ingressActive p.reading p.allowCommands (p.calls + 1)
  exact .head counted (deliveries_steps (books.move counted) (env.react p.calls))

/-! ### Commands -/

theorem startExecution_steps (member : record ∈ p.pending) (waits : record.phase = .deferred)
    (accepted : record.role ≠ .rejection) (apart : record ∉ p.deferredControl)
    (capacity : p.replyCapacity record.role = true) : Steps env p (p.startExecution env record) := by
  have move : Move env p (p.beginExecution record) :=
    .start record member waits accepted apart capacity
  exact .head move (call_steps (books.move move))

end

variable {bytes : Nat}

theorem encode_le {message : Message} (encoded : encode env message = some bytes) : bytes ≤ maxReplyBytes := by
  unfold encode at encoded
  split at encoded
  · cases encoded
    unfold maxReplyBytes
    omega
  · cases encoded

theorem emitBusy_steps (books : Books p) (member : record ∈ p.pending) (waits : record.phase = .deferred)
    (refused : record.role = .rejection) (apart : record ∉ p.deferredControl) :
    Steps env p (p.emitBusy env record).1 := by
  rcases enqueue_cases env (p.setPhase record.requestId .response) (.reply (busyError record.command)) true
    (some record.requestId) true false with ⟨unsent, _⟩ | ⟨bytes, _, _, fits, sent⟩
  · simp only [emitBusy, unsent]
    exact .head (.refuse record member waits apart) (shutdown_steps _ (by decide))
  · have framed : messageFrame (.reply (busyError record.command)) bytes true (some record.requestId) true false =
        replyFrame (busyError record.command) bytes record := by
      unfold replyFrame
      rw [refused]
      rfl
    have move : Move env p ((p.setPhase record.requestId .response).queue
        (replyFrame (busyError record.command) bytes record)) :=
      .reject record bytes member waits refused apart fits
    simp only [emitBusy, sent, framed]
    exact .head move (flush_steps (books.move move))

theorem selectDeferred_mem {cursor : Nat} (selected : p.selectDeferred = some (record, cursor)) :
    record ∈ p.deferredControl ∧ p.replyCapacity record.role = true := by
  obtain ⟨offset, _, found⟩ := exists_of_findSome?_eq_some selected
  simp only at found
  split at found
  · cases found
  rename_i turn first
  split at found
  · rename_i capacity
    cases found
    exact ⟨mem_of_find?_eq_some first, capacity⟩
  · cases found

theorem startDeferred_steps (books : Books p) (fuel : Nat) : Steps env p (startDeferred env fuel p) := by
  induction fuel generalizing p with
  | zero => exact .refl
  | succ fuel ih =>
    simp only [startDeferred]
    split
    · exact .refl
    rename_i record cursor selected
    obtain ⟨held, capacity⟩ := selectDeferred_mem selected
    obtain ⟨member, waits, _⟩ := books.records.deferred record held
    have freed : Move env p { p with
        deferredControl := p.deferredControl.erase record
        controlCursor := cursor } := .undefer record cursor
    have apart : record ∉ p.deferredControl.erase record :=
      fun again => (List.Nodup.mem_erase_iff books.records.once).mp again |>.1 rfl
    have later := books.move freed
    have served : Steps env p
        (if record.role = .rejection then
          ({ p with
              deferredControl := p.deferredControl.erase record
              controlCursor := cursor } : WorkerPipe).emitBusy env record |>.1
        else
          ({ p with
              deferredControl := p.deferredControl.erase record
              controlCursor := cursor } : WorkerPipe).startExecution env record) := by
      by_cases refused : record.role = .rejection
      · rw [if_pos refused]
        exact .head freed (emitBusy_steps later member waits refused apart)
      · rw [if_neg refused]
        exact .head freed (startExecution_steps later member waits refused apart capacity)
    exact served.trans (ih (books.steps served))

theorem tryStartDeferred_steps (books : Books p) : Steps env p (p.tryStartDeferred env) := by
  unfold tryStartDeferred
  split
  · exact .refl
  · exact startDeferred_steps books _

theorem Books.apart (books : Books p) (fresh : record.requestId ∉ p.pending.map RequestRecord.requestId) :
    record ∉ p.deferredControl :=
  fun held => fresh (List.mem_map_of_mem (books.records.deferred record held).1)

variable {command : PipeCommand}

theorem rejectBusy_steps (books : Books p)
    (greeted : p.hello ≠ none) (fresh : command.requestId ∉ p.pending.map RequestRecord.requestId) :
    Steps env p (p.rejectBusy env command).1 := by
  simp only [rejectBusy]
  split
  · exact shutdown_steps p (by decide)
  rename_i slot
  generalize joins : ({ command := command, role := .rejection, phase := .deferred } : RequestRecord) = record
  have room : Room p record := by
    simp only [Bool.and_eq_true, Bool.not_eq_true', not_and] at slot
    by_cases shared : p.sharedReplySlotAvailable = true
    · simp [Room, ← joins, shared]
    · simp [Room, ← joins, slot (by simpa using shared)]
  have same : record.requestId = command.requestId := by rw [← joins]; rfl
  have refused : record.role = .rejection := by rw [← joins]
  have waits : record.phase = .deferred := by rw [← joins]
  rw [← same] at fresh
  have entered : Move env p { p with pending := p.pending ++ [record] } :=
    .enter record greeted fresh waits room
  have later := books.move entered
  have member : record ∈ p.pending ++ [record] := by simp
  split
  · exact .head entered (.single (.defer record member waits (by simp [refused]) (books.apart fresh)))
  · exact .head entered (emitBusy_steps later member waits refused (books.apart fresh))

theorem handleHello_steps (books : Books p) (hello : Hello) (held : Nat) (starts : Bool) (first : p.hello = none) :
    Steps env p (p.handleHello env hello held starts).1 := by
  simp only [handleHello]
  split
  · exact shutdown_steps p (by decide)
  rename_i ready
  split
  · exact shutdown_steps p (by decide)
  split
  · exact shutdown_steps p (by decide)
  have valid : (validateEffectiveBudgets hello.effectiveBudgets).isSome := by
    simp only [validatePipeReadiness, Bool.not_eq_true', Bool.not_eq_false, Bool.and_eq_true] at ready
    exact ready.1.1.1.1
  have greeted : Move env p { p with hello := some hello } := .greet hello first valid
  have later := books.move greeted
  apply ReflTransGen.head greeted
  generalize Ready.mk hello.worker pipeVersion env.buildVersion hello.effectiveBudgets = answer
  rcases enqueue_cases env { p with hello := some hello } (.ready answer) true none false false with
    ⟨unsent, _⟩ | ⟨bytes, _, _, fits, sent⟩
  · simp only [unsent]
    exact shutdown_steps _ (by decide)
  · simp only [sent]
    apply push_steps later
    exact .unasked _ (by simp) ⟨rfl, rfl, .inr ⟨rfl, fits⟩⟩

theorem alone_of_slot (slot : p.sharedReplySlotAvailable = true) : p.extraResponseItems = 0 := by
  simp only [sharedReplySlotAvailable, Bool.and_eq_true, beq_iff_eq] at slot
  exact slot.1.2

theorem handleDuplicate_steps (books : Books p) {outstanding : RequestRecord}
    (member : outstanding ∈ p.pending) (same : outstanding.requestId = command.requestId) :
    Steps env p (p.handleDuplicate env command outstanding).1 := by
  simp only [handleDuplicate]
  split
  · exact shutdown_steps p (by decide)
  rename_i slot
  have alone : p.extraResponseItems = 0 := by
    simp only [Bool.and_eq_true, Bool.not_eq_true', not_and, Bool.not_eq_false] at slot
    by_cases parked : (outstanding.phase == .parked && p.extraResponseItems == 0 && !p.rejecting) = true
    · simp only [Bool.and_eq_true, beq_iff_eq] at parked
      exact parked.1.2
    · exact alone_of_slot (slot (by simpa using parked))
  rcases enqueue_cases env p (.reply (conflictError command)) true (some command.requestId) true false with
    ⟨unsent, _⟩ | ⟨bytes, _, _, fits, sent⟩
  · simp only [unsent]
    exact shutdown_steps p (by decide)
  · simp only [sent]
    apply push_steps books
    exact .conflict command outstanding bytes member same alone fits

theorem park_steps {metadataBytes payloadBytes held : Nat}
    (greeted : p.hello ≠ none) (fresh : command.requestId ∉ p.pending.map RequestRecord.requestId)
    (role : roleOf command = .route) : Steps env p (p.park command metadataBytes payloadBytes held).1 := by
  unfold park
  split
  · exact shutdown_steps p (by decide)
  · exact .single (.park command metadataBytes greeted fresh role (by omega))

theorem roleOf_accepted (command : PipeCommand) : roleOf command ≠ .rejection := by
  unfold roleOf
  split <;> decide

section

variable (books : Books p)
include books

theorem handleCommand_steps (command : PipeCommand) (metadataBytes payloadBytes held : Nat) (greeted : p.hello ≠ none) :
    Steps env p (p.handleCommand env command metadataBytes payloadBytes held).1 := by
  unfold handleCommand
  split
  · rename_i outstanding found
    exact handleDuplicate_steps books (get?_eq_some_mem found) (get?_eq_some_key found)
  rename_i absent
  have fresh := get?_eq_none absent
  simp only
  split
  · rename_i routed
    exact park_steps greeted fresh routed.1
  split
  · exact rejectBusy_steps books greeted fresh
  rename_i slot
  generalize joins : ({ command := command, role := roleOf command, phase := .deferred } : RequestRecord) = record
  have role : record.role = roleOf record.command := by rw [← joins]
  have named : roleOf command = record.role := by rw [← joins]
  have same : record.requestId = command.requestId := by rw [← joins]; rfl
  have waits : record.phase = .deferred := by rw [← joins]
  have accepted : record.role ≠ .rejection := by
    rw [role]
    exact roleOf_accepted record.command
  have unclaimed : record.requestId ∉ p.pending.map RequestRecord.requestId := same ▸ fresh
  have room : Room p record := by
    rw [named] at slot
    simp only [Bool.not_eq_true', Bool.not_eq_false] at slot
    simp only [Room, if_neg accepted]
    exact ⟨role, slot⟩
  have entered : Move env p { p with pending := p.pending ++ [record] } :=
    .enter record greeted unclaimed waits room
  have later := books.move entered
  have member : record ∈ p.pending ++ [record] := by simp
  split
  · split
    · exact rejectBusy_steps books greeted fresh
    rename_i control
    rw [named] at control
    exact .head entered (.single (.defer record member waits control (books.apart unclaimed)))
  · rename_i capacity
    rw [named] at capacity
    simp only [Bool.not_eq_true', Bool.not_eq_false] at capacity
    exact .head entered (startExecution_steps later member waits accepted (books.apart unclaimed) capacity)

theorem handleFrame_steps (incoming : Incoming) (held : Nat) (starts : Bool) :
    Steps env p (p.handleFrame env incoming held starts).1 := by
  unfold handleFrame
  split
  · exact shutdown_steps p (by decide)
  · exact shutdown_steps p (by decide)
  split
  · rename_i first
    split
    · exact handleHello_steps books _ held starts first
    · exact shutdown_steps p (by decide)
  · rename_i hello greeting
    split
    · split
      · exact shutdown_steps p (by decide)
      split
      · exact shutdown_steps p (by decide)
      · exact handleCommand_steps books _ _ _ held (by simp [greeting])
    · exact shutdown_steps p (by decide)

/-! ### Replies -/

/-- The room a command reserved is room for its reply. -/
theorem Books.fits_reply (isOpen : p.closed = none) (member : record ∈ p.pending) (runs : record.phase = .executing)
    (small : bytes ≤ maxReplyBytes) :
    (p.endExecution record.requestId).fits bytes (record.role != .ordinary) false = true := by
  have unique := books.records.unique
  have released : ∀ roles, (p.endExecution record.requestId).reservedFor roles +
      (if roles record.role then maxReplyBytes else 0) = p.reservedFor roles := by
    intro roles
    rw [reservedFor_endExecution]
    simpa [runs] using reservedFor_setPhase unique member .response roles
  have reserved : maxReplyBytes ≤ p.reservedReplyBytes := by
    have one : 1 ≤ executing p.pending := one_le_countP_iff.mpr ⟨record, member, by simp [runs]⟩
    rw [books.ledger.reserved]
    exact Nat.le_mul_of_pos_left _ one
  have whole : (p.endExecution record.requestId).accountedBytes + bytes ≤ p.budgets.pipeQueuedBytes := by
    have before := books.accounted_le isOpen
    have split := books.frames_split
    have stream := books.transportBytes_eq isOpen
    have ended : (p.endExecution record.requestId).accountedBytes = p.reservedReplyBytes - maxReplyBytes +
        p.queuedBytes + p.transportBytes - p.heartbeatOwedBytes := rfl
    unfold accountedBytes at before
    omega
  have ordinary := books.ordinary_le
  have control : p.controlAccountedBytes ≤ p.budgets.reservedControlBytes := books.shares.control
  unfold ordinaryAccountedBytes at ordinary
  unfold controlAccountedBytes at control
  by_cases role : record.role = .ordinary
  · have freed := released (· == .ordinary)
    simp only [role, BEq.rfl, if_true] at freed
    have share : (p.endExecution record.requestId).ordinaryAccountedBytes + bytes ≤ p.ordinaryLimit := by
      unfold ordinaryAccountedBytes
      rw [bytesOf_endExecution]
      simp only [WorkerPipe.endExecution, WorkerPipe.setPhase] at freed ⊢
      omega
    simp [fits, role, whole, share]
  · have other : (record.role != .ordinary) = true := by simpa using role
    have freed := released (· != .ordinary)
    simp only [other, if_true] at freed
    have share : (p.endExecution record.requestId).controlAccountedBytes + bytes ≤
        p.budgets.reservedControlBytes := by
      unfold controlAccountedBytes
      rw [bytesOf_endExecution]
      omega
    simp [fits, other, whole, share]

/-- An answer of the right command that can be framed is queued; nothing else about the pipe is asked. -/
theorem completeCommand_sends (isOpen : p.closed = none) (member : record ∈ p.pending) (runs : record.phase = .executing) {response : Option Reply}
    (correlated : validatePipeResultForCommand record.command (response.getD (unknownError record.command)) = true)
    (encoded : encode env (.reply (response.getD (unknownError record.command))) = some bytes) :
    p.completeCommand env record.requestId response = ((p.endExecution record.requestId).push env
        (replyFrame (response.getD (unknownError record.command)) bytes record)).call env := by
  have accepted := books.records.runs record member runs
  have framed : messageFrame (.reply (response.getD (unknownError record.command))) bytes (record.role != .ordinary)
      (some record.requestId) false false =
      replyFrame (response.getD (unknownError record.command)) bytes record := by
    have plain : (record.role == .rejection) = false := by simpa using accepted
    unfold replyFrame
    rw [plain]
  have room := books.fits_reply isOpen member runs (encode_le encoded)
  have ready : p.ready = true := ready_iff.mpr ⟨books.records.greeted member, isOpen⟩
  have greeted : (p.endExecution record.requestId).hello ≠ none := books.records.greeted member
  rcases enqueue_cases env (p.endExecution record.requestId)
    (.reply (response.getD (unknownError record.command))) (record.role != .ordinary) (some record.requestId) false
    false with ⟨_, none | first | ⟨size, sized, full⟩⟩ | ⟨size, sized, _, _, sent⟩
  · rw [encoded] at none
    cases none
  · exact absurd first greeted
  · rw [encoded] at sized
    cases sized
    rw [room] at full
    cases full
  · rw [encoded] at sized
    cases sized
    simp only [completeCommand, books.records.unique.get?_of_mem member, runs, ne_eq, not_true, if_false, ready,
      correlated, Bool.not_true, Bool.false_eq_true, sent, if_true, framed]

theorem completeCommand_steps (requestId : String) (response : Option Reply) :
    Steps env p (p.completeCommand env requestId response) ∨
      ∃ record ∈ p.pending, record.requestId = requestId ∧ record.phase = .executing ∧
        encode env (.reply (response.getD (unknownError record.command))) = none ∧ p.closed = none ∧
        p.completeCommand env requestId response = p.shutdown .responseSendFailed := by
  cases found : get? RequestRecord.requestId p.pending requestId with
  | none =>
    left
    simp only [completeCommand, found]
    exact .refl
  | some record =>
    have member := get?_eq_some_mem found
    have named := get?_eq_some_key found
    subst named
    by_cases runs : record.phase = .executing
    · have lapsed : Move env p (p.endExecution record.requestId) := .lapse record member runs
      cases isReady : p.ready with
      | false =>
        left
        simp only [completeCommand, found, runs, isReady]
        exact .single lapsed
      | true =>
      have isOpen := (ready_iff.mp isReady).2
      by_cases correlated :
          validatePipeResultForCommand record.command (response.getD (unknownError record.command)) = true
      · cases encoded : encode env (.reply (response.getD (unknownError record.command))) with
        | none =>
          right
          refine ⟨record, member, rfl, runs, encoded, isOpen, ?_⟩
          have gone : (p.endExecution record.requestId).shutdown .responseSendFailed =
              p.shutdown .responseSendFailed := shutdown_congr isOpen _ rfl _
          simp only [completeCommand, found, runs, ne_eq, not_true, if_false, isReady, correlated, Bool.not_true,
            Bool.false_eq_true, enqueue, encoded, gone]
        | some bytes =>
          left
          rw [completeCommand_sends books isOpen member runs correlated encoded]
          have move : Move env p ((p.endExecution record.requestId).queue
              (replyFrame (response.getD (unknownError record.command)) bytes record)) :=
            .answer record _ bytes member runs (encode_le encoded)
          have pushed := ReflTransGen.head move (flush_steps (books.move move))
          exact pushed.trans (call_steps (books.steps pushed))
      · left
        simp only [completeCommand, found, runs, isReady, correlated]
        exact .head lapsed (shutdown_steps _ (by decide))
    · left
      simp only [completeCommand, found, ne_eq, runs]
      exact .refl

/-! ### The stream's callbacks -/

theorem admitParkedRoute_steps : Steps env p (p.admitParkedRoute env) := by
  unfold admitParkedRoute
  split
  · exact .refl
  rename_i parked rest oldest
  split
  · exact .refl
  rename_i go
  simp only [Bool.or_eq_true, Bool.not_eq_true', not_or, Bool.not_eq_false] at go
  obtain ⟨room, isReady⟩ := go
  have isOpen := (ready_iff.mp isReady).2
  have gone : ({ p with
      parkedRouteControl := rest
      parkedRouteBytes := p.parkedRouteBytes - parked.metadataBytes } : WorkerPipe).shutdown
      .invalidParkedRouteOwner = p.shutdown .invalidParkedRouteOwner := shutdown_congr isOpen _ rfl _
  simp only
  split
  · rw [gone]
    exact shutdown_steps p (by decide)
  rename_i record found
  have member := get?_eq_some_mem found
  split
  · rw [gone]
    exact shutdown_steps p (by decide)
  rename_i waits
  have waits : record.phase = .parked := not_not.mp waits
  have role := books.records.parked record member waits
  have woken : Move env p (p.wake parked rest record.requestId) := .wake parked rest record oldest member waits room
  have later := books.move woken
  generalize turns : ({ record with phase := .deferred } : RequestRecord) = turned
  have inside : turned ∈ (p.wake parked rest record.requestId).pending := by
    rw [← turns]
    exact mem_modify_self _ member
  have calm : turned.phase = .deferred := by rw [← turns]
  have routed : turned.role = .route := by rw [← turns]; exact role
  have apart : turned ∉ (p.wake parked rest record.requestId).deferredControl := by
    intro held
    have listed : turned ∈ p.pending := (books.records.deferred turned held).1
    have differs : turned ≠ record := by
      rintro rfl
      rw [calm] at waits
      cases waits
    apply books.records.apart member listed differs
    rw [← turns]
    rfl
  split
  · rename_i capacity
    rw [← routed] at capacity
    exact .head woken (startExecution_steps later inside calm (by simp [routed]) apart capacity)
  · exact .head woken (.single (.defer turned inside calm (by simp [routed]) apart))

theorem settleRecord_steps (frame : OutboundFrame) : Steps env p (p.settleRecord env frame) := by
  unfold settleRecord
  split
  · exact .refl
  split
  · exact .refl
  rename_i requestId _ record found
  split
  · rename_i last
    have member := get?_eq_some_mem found
    have named := get?_eq_some_key found
    subst named
    have retired : Move env p
        { p with pending := erase RequestRecord.requestId p.pending record.requestId } := by
      apply Move.retire record member last.1
      intro other listed
      simpa using List.all_eq_true.mp last.2 other listed
    exact .head retired (call_steps (books.move retired))
  · exact .refl

theorem settleFrame_steps {stream : Writable OutboundFrame}
    (called : p.writable.callback OutboundFrame.bytes = some (frame, stream)) :
    Steps env p (p.settleFrame env frame stream) := by
  have settled : Steps env p (p.settled frame stream) := .single (.settle frame stream called)
  have retired := settled.trans (settleRecord_steps (books.steps settled) frame)
  have started := retired.trans (tryStartDeferred_steps (books.steps retired))
  have served := started.trans (admitParkedRoute_steps (books.steps started))
  simp only [settleFrame]
  split
  · exact served.trans (call_steps (books.steps served))
  · exact served

theorem onDrain_steps : Steps env p (p.onDrain env) := by
  simp only [onDrain]
  split
  · rename_i closed
    exact .single (.drainClosed (isSome_iff_ne_none.mp closed))
  · rename_i isOpen
    simp only [isSome_iff_ne_none, not_not] at isOpen
    have drained : Steps env p
        { p with
          writable := p.writable.drained
          blocked := false
          blockedFrameBytes := 0
          allowCommands := p.allowCommands || (p.hello.isSome && !p.ingressActive) } :=
      .head (.drain isOpen)
        (.single (.keep p.controlCursor p.peakAccountedBytes p.ingressActive p.reading _ p.calls))
    have flushed := drained.trans (flush_steps (books.steps drained))
    split
    · exact flushed.trans (call_steps (books.steps flushed))
    · exact flushed

theorem beat_steps (sample : WorkerLoad) : Steps env p (p.beat env sample) := by
  unfold beat
  split
  · exact .refl
  rename_i hello greeting
  split
  · exact .refl
  rename_i go
  simp only [Bool.or_eq_true, isSome_iff_ne_none, not_or, not_not, Bool.not_eq_true] at go
  obtain ⟨isOpen, quiet⟩ := go
  have quickened : Move env p { p with heartbeatUnsettled := true } := .quicken quiet
  have later := books.move quickened
  have none : p.unsettledFrames.countP heartbeat = 0 := by
    have beats := books.ledger.beats
    simp only [quiet, Bool.false_eq_true, if_false] at beats
    omega
  simp only
  generalize
    ({ sample with
        executingCommands := min 65536 (p.pending.countP (fun record => record.phase == .executing)) } :
      WorkerLoad) = load
  rcases enqueue_cases env { p with heartbeatUnsettled := true } (.heartbeat hello.worker load) false Option.none
    false true with ⟨unsent, _⟩ | ⟨bytes, _, _, fits, sent⟩
  · simp only [unsent]
    exact .refl
  · simp only [sent]
    have small : bytes ≤ pipeHeartbeatFrameBytes := by simpa [WorkerPipe.fits] using fits
    apply ReflTransGen.head quickened
    apply push_steps later
    exact .unasked _ (by simp [greeting]) ⟨rfl, rfl, .inl ⟨rfl, rfl, small, none, rfl⟩⟩

theorem readFrame_steps (incoming : Incoming) (held : Nat) (starts : Bool) :
    Steps env p (p.readFrame env incoming held starts) := by
  simp only [readFrame]
  split
  · exact .refl
  · exact .tail (handleFrame_steps books incoming held starts) (.keep _ _ _ _ _ _)

/-- Every event is a sequence of moves, but for a reply that cannot be framed. -/
theorem handle_steps (event : Event) : Steps env p (handle env p event) ∨
      ∃ requestId response, event = .complete requestId response ∧ ∃ record ∈ p.pending,
        record.requestId = requestId ∧ record.phase = .executing ∧
        encode env (.reply (response.getD (unknownError record.command))) = none ∧ p.closed = none ∧
        handle env p event = p.shutdown .responseSendFailed := by
  cases event with
  | complete requestId response =>
    rcases completeCommand_steps books requestId response with steps | unframed
    · exact .inl steps
    · exact .inr ⟨requestId, response, rfl, unframed⟩
  | data =>
    left
    simp only [handle]
    split
    · exact .refl
    unfold onData
    split
    · exact shutdown_steps p (by decide)
    split
    · exact shutdown_steps p (by decide)
    · exact .single (.keep p.controlCursor p.peakAccountedBytes true p.reading p.allowCommands p.calls)
  | frame => exact .inl .refl
  | chunkRead =>
    left
    simp only [handle]
    split
    · exact .refl
    · exact .single (.keep p.controlCursor p.peakAccountedBytes false p.reading _ p.calls)
  | decodeFailed | writeFailed | streamEnded | shutdown => exact .inl (shutdown_steps p (by decide))
  | deliver delivery => exact .inl (deliver_steps books delivery)
  | beat sample => exact .inl (beat_steps books sample)
  | left bytes => exact .inl (.single (.leave bytes))
  | drain =>
    left
    simp only [handle]
    split
    · exact onDrain_steps books
    · exact .refl
  | written =>
    left
    simp only [handle]
    split
    · exact .refl
    · rename_i frame stream called
      exact settleFrame_steps books called

omit books in
theorem quiet_move (env : Env) (p : WorkerPipe) : Move env p { p with reading := false } := .keep _ _ _ _ _ _

theorem step_steps (event : Event) : Steps env p (step env p event) ∨
      ∃ requestId response, event = .complete requestId response ∧ ∃ record ∈ p.pending,
        record.requestId = requestId ∧ record.phase = .executing ∧
        encode env (.reply (response.getD (unknownError record.command))) = none ∧ p.closed = none ∧
        step env p event = { p with reading := false }.shutdown .responseSendFailed := by
  rcases handle_steps (books.move (quiet_move env p)) event with steps | unframed
  · cases event with
    | frame incoming held starts => exact .inl (readFrame_steps books incoming held starts)
    | _ => exact .inl (.head (quiet_move env p) steps)
  · obtain ⟨requestId, response, rfl, unframed⟩ := unframed
    exact .inr ⟨requestId, response, rfl, unframed⟩

theorem Books.step (event : Event) : Books (step env p event) := by
  rcases step_steps books event with steps | ⟨_, _, _, record, member, _, _, _, isOpen, closes⟩
  · exact books.steps steps
  · rw [closes]
    exact (books.move (quiet_move env p)).shutdown _ isOpen

end

end Cove.Worker.PipeMoves
