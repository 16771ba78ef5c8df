import Cove.Base.Sums
import Cove.Worker.RecoveryOrder

/-!
The credit of a recovery route. Its debt is released in two ways that change over when the attempt is installed: by
the ordinal the peer has parsed of the baseline, and by the ledger of the facts it was sent. The invariant says for
each phase which frames are still owed, and both agree with what the peer's accepted commands cover.
-/

namespace Cove.Worker.RecoveryCredit
open Base.Numbering Base.Run Base.Sums Protocol.Identity Protocol.Recovery List
open Protocol.Terminal Worker.Recovery Worker.RecoveryOrder TransferFrame

/-- An accepted progress covers the start and the chunks through its ordinal; an accepted acknowledgement covers the
facts through its number and, from `atSeq` on, the frames of the baseline. -/
def covers (atSeq : Nat) (frame : Frame) : RouteCommand → Bool
  | .unsubscribe _ => false
  | .baselineProgress _ lastParsedOrdinal =>
    match frame.event.terminal with
    | .baselineStart .. => true
    | .baselineChunk _ _ _ ordinal => decide (ordinal ≤ lastParsedOrdinal)
    | _ => false
  | .appliedAck appliedSeq =>
    match frame.event.terminal with
    | .runEvent event => decide (event.seq ≤ appliedSeq)
    | _ => decide (atSeq ≤ appliedSeq)

def covered (attempt : Attempt) (frame : Frame) : Bool :=
  attempt.accepted.any (covers ((attempt.transfer.map Transfer.atSeq).getD 0) frame)

variable (env : Env)

/-- The charges of the frames handed out for the attempt and not covered yet. -/
def owed (attempt : Attempt) : Nat :=
  ((attempt.handed.filter (fun frame => !covered attempt frame)).map (framedBytes env)).sum

def unparsed (ordinal : Int) (frame : TransferFrame) : Bool :=
  decide (ordinal < 0) || decide (ordinal < frame.ordinal)

variable (facts : List Fact) (route : Route)

/-- A route that sends a baseline owes the frames handed out and not parsed. -/
structure Sending (descriptor : BaselineDescriptor) (vt tail : List UInt8) : Prop where
  opened : route.attempt.transfer = some (.baseline descriptor vt tail)
  frames : route.frames = baselineFrames env route.run route.ref descriptor vt tail
  point : route.atSeq = descriptor.atSeq
  sentSeq : route.sentSeq = descriptor.atSeq
  inside : descriptor.atSeq ≤ facts.length
  handed : route.attempt.handed = (route.frames.take route.nextFrame).map frame
  sent : route.sent = []
  after : route.postN.map OwnedFact.fact = facts.drop descriptor.atSeq
  low : -1 ≤ route.parsedOrdinal
  high : route.parsedOrdinal < (baselineChunks vt tail).length
  parsed : route.parsedOrdinal < 0 ∨ route.parsedOrdinal < (route.nextFrame : Int) - 1
  progress : ∀ (baselineId : String) (last : Nat), .baselineProgress baselineId last ∈ route.attempt.accepted →
    (last : Int) ≤ route.parsedOrdinal
  latest : 0 ≤ route.parsedOrdinal → ∃ (baselineId : String) (last : Nat),
    .baselineProgress baselineId last ∈ route.attempt.accepted ∧ (last : Int) = route.parsedOrdinal
  acks : ∀ seq, .appliedAck seq ∈ route.attempt.accepted → seq < descriptor.atSeq
  debt : route.logicalDebt = (((route.frames.take route.nextFrame).filter (unparsed route.parsedOrdinal)).map
    charge).sum

def ledgerOf (frame : Frame) : Option Sent :=
  match frame.event.terminal with
  | .runEvent event => some { seq := event.seq, charge := framedBytes env frame }
  | _ => none

/-- A route that sends facts owes those of its ledger, which are the facts handed out past the acknowledged one. -/
structure Following (transfer : Transfer) : Prop where
  opened : route.attempt.transfer = some transfer
  point : route.atSeq = transfer.atSeq
  ahead : rest env route = (facts.drop route.sentSeq).map (factFrame env route.run route.ref)
  inside : route.sentSeq ≤ facts.length
  applied : route.appliedSeq ≤ route.sentSeq
  waiting : route.state = .transfer → route.mode = .replay ∧ transfer.atSeq ≤ facts.length ∧
    route.postN.map OwnedFact.fact = facts.drop transfer.atSeq
  cleared : route.state = .installed → route.frames = []
  sent : route.sent = (route.attempt.handed.filterMap (ledgerOf env)).filter
    (fun item => decide (route.appliedSeq < item.seq))
  bounded : ∀ item ∈ route.sent, item.seq ≤ route.sentSeq
  acks : ∀ seq, .appliedAck seq ∈ route.attempt.accepted → seq ≤ route.appliedSeq
  acked : ∀ frame ∈ route.attempt.handed, ∀ event, frame.event.terminal = .runEvent event →
    event.seq ≤ route.appliedSeq → ∃ seq, .appliedAck seq ∈ route.attempt.accepted ∧ event.seq ≤ seq
  settled : ∀ frame ∈ route.attempt.handed, (∀ event, frame.event.terminal ≠ .runEvent event) →
    ∃ seq, .appliedAck seq ∈ route.attempt.accepted ∧ transfer.atSeq ≤ seq
  debt : route.logicalDebt = ((route.sent.map Sent.charge).sum : Nat)

/-- What a route owes in each of its states. -/
structure Owing : Prop where
  idle : ¬Opened route → route.logicalDebt = 0
  fresh : route.state = .preparing →
    route.attempt.accepted = [] ∧ route.sent = [] ∧ route.parsedOrdinal = -1 ∧ route.sentSeq = route.appliedSeq
  sending : route.state = .transfer → route.mode = .baseline →
    ∃ descriptor vt tail, Sending env facts route descriptor vt tail
  following : route.state = .installed ∨ (route.state = .transfer ∧ route.mode = .replay) →
    ∃ transfer, Following env facts route transfer
  bound : route.logicalDebt ≤ env.budgets.subscriptionCreditBytes

/-! ### The frames of a baseline -/

variable {frame : TransferFrame}

section Frames

variable (env : Env) (run : RunRef) (ref : SubscriptionRef) (descriptor : BaselineDescriptor) (vt tail : List UInt8)

theorem baselineFrames_length :
    (baselineFrames env run ref descriptor vt tail).length = (baselineChunks vt tail).length + 2 := by
  simp [baselineFrames]

theorem baselineFrames_ordinal {index : Nat}
    (found : (baselineFrames env run ref descriptor vt tail)[index]? = some frame) :
    frame.ordinal = (index : Int) - 1 := by
  unfold baselineFrames at found
  simp only [cons_append, nil_append] at found
  cases index with
  | zero =>
    cases found
    rfl
  | succ index =>
    rw [getElem?_cons_succ] at found
    by_cases chunk : index < (baselineChunks vt tail).length
    · rw [getElem?_append_left (by simpa using chunk), getElem?_mapIdx] at found
      obtain ⟨bytes, _, rfl⟩ := Option.map_eq_some_iff.mp found
      simp [transferFrame]
    · rw [getElem?_append_right (by simpa using chunk), length_mapIdx] at found
      obtain ⟨inside, rfl⟩ := List.getElem?_eq_some_iff.mp found
      simp only [length_cons, length_nil] at inside
      have last : index = (baselineChunks vt tail).length := by omega
      simp [transferFrame, last]

theorem baselineFrames_kind (member : frame ∈ baselineFrames env run ref descriptor vt tail) :
    frame.charge = framedBytes env frame.frame ∧
    ((frame.ordinal = -1 ∧ frame.frame.event.terminal = .baselineStart run descriptor) ∨
      (∃ ordinal : Nat, frame.ordinal = ordinal ∧
        frame.frame.event.terminal = .baselineChunk run descriptor.baselineId ref ordinal) ∨
      (frame.ordinal = (baselineChunks vt tail).length ∧
        frame.frame.event.terminal = .baselineEnd run descriptor.baselineId ref descriptor.chunkCount
          (vt.length + tail.length) descriptor.atSeq)) := by
  unfold baselineFrames at member
  simp only [mem_append, mem_singleton] at member
  rcases member with (start | chunk) | finish
  · subst start
    exact ⟨rfl, .inl ⟨rfl, rfl⟩⟩
  · obtain ⟨ordinal, _, rfl⟩ := mem_mapIdx.mp chunk
    exact ⟨rfl, .inr (.inl ⟨ordinal, rfl, rfl⟩)⟩
  · subst finish
    exact ⟨rfl, .inr (.inr ⟨rfl, rfl⟩)⟩

theorem baselineFrames_silent (member : frame ∈ baselineFrames env run ref descriptor vt tail) (event : RunEvent) :
    frame.frame.event.terminal ≠ .runEvent event := by
  rcases (baselineFrames_kind env run ref descriptor vt tail member).2 with
    ⟨_, terminal⟩ | ⟨_, _, terminal⟩ | ⟨_, terminal⟩
  all_goals
    rw [terminal]
    intro same
    cases same

end Frames

/-! ### Both ledgers agree with what is covered -/

variable {env : Env} {facts : List Fact} {route : Route} {descriptor : BaselineDescriptor} {vt tail : List UInt8}
variable {transfer : Transfer}

theorem Sending.covered_eq (sending : Sending env facts route descriptor vt tail) (member : frame ∈ route.frames) :
    (!covered route.attempt frame.frame) = unparsed route.parsedOrdinal frame := by
  rw [sending.frames] at member
  have high := sending.high
  rw [Bool.eq_iff_iff]
  simp only [Bool.not_eq_true', covered, any_eq_false, sending.opened, Option.map_some, Option.getD_some,
    Transfer.atSeq, unparsed, Bool.or_eq_true, decide_eq_true_eq]
  constructor
  · intro uncovered
    by_contra parsed
    obtain ⟨baselineId, last, accepted, same⟩ := sending.latest (by omega)
    have uncovering := uncovered _ accepted
    rcases (baselineFrames_kind env _ _ descriptor vt tail member).2 with
      ⟨ordinal, terminal⟩ | ⟨chunk, ordinal, terminal⟩ | ⟨ordinal, terminal⟩
    · simp [covers, terminal] at uncovering
    · simp only [covers, terminal, decide_eq_true_eq] at uncovering
      omega
    · omega
  · intro unparsed command accepted
    cases command with
    | unsubscribe => simp [covers]
    | baselineProgress baselineId last =>
      have parsed := sending.progress baselineId last accepted
      rcases (baselineFrames_kind env _ _ descriptor vt tail member).2 with
        ⟨ordinal, terminal⟩ | ⟨chunk, ordinal, terminal⟩ | ⟨ordinal, terminal⟩
      · omega
      · simp only [covers, terminal, decide_eq_true_eq]
        omega
      · simp [covers, terminal]
    | appliedAck seq =>
      have early := sending.acks seq accepted
      rcases (baselineFrames_kind env _ _ descriptor vt tail member).2 with
        ⟨ordinal, terminal⟩ | ⟨chunk, ordinal, terminal⟩ | ⟨ordinal, terminal⟩
      all_goals
        simp only [covers, terminal, decide_eq_true_eq]
        omega

theorem Sending.owes (sending : Sending env facts route descriptor vt tail) : route.logicalDebt = owed env route.attempt := by
  rw [sending.debt, owed, sending.handed, filter_map, map_map]
  have same : (route.frames.take route.nextFrame).filter
      ((fun frame => !covered route.attempt frame) ∘ frame) =
      (route.frames.take route.nextFrame).filter (unparsed route.parsedOrdinal) := by
    apply filter_congr
    intro frame member
    exact sending.covered_eq (mem_of_mem_take member)
  rw [same]
  congr 2
  apply map_congr_left
  intro frame member
  have listed := mem_of_mem_take (mem_of_mem_filter member)
  rw [sending.frames] at listed
  exact (baselineFrames_kind env _ _ descriptor vt tail listed).1

theorem covers_baseline {atSeq seq : Nat} {frame : Frame} (other : ∀ event, frame.event.terminal ≠ .runEvent event) :
    covers atSeq frame (.appliedAck seq) = decide (atSeq ≤ seq) := by
  unfold covers
  cases terminal : frame.event.terminal with
  | runEvent event => exact absurd terminal (other event)
  | _ => rfl

theorem Following.owes (following : Following env facts route transfer) :
    route.logicalDebt = owed env route.attempt := by
  rw [following.debt, following.sent]
  congr 1
  symm
  apply sum_filter_eq_filterMap
  · intro frame _ item found
    unfold ledgerOf at found
    split at found
    · cases found
      rfl
    · cases found
  · intro frame handed
    rw [Bool.eq_iff_iff]
    simp only [Bool.not_eq_true', covered, any_eq_false, following.opened, ledgerOf]
    split
    · rename_i event terminal
      simp only [Option.any_some, decide_eq_true_eq]
      constructor
      · intro uncovered
        by_contra early
        obtain ⟨seq, accepted, reached⟩ := following.acked frame handed event terminal (by omega)
        have uncovering := uncovered _ accepted
        simp only [covers, terminal, decide_eq_true_eq] at uncovering
        exact uncovering reached
      · intro later command accepted
        cases command with
        | unsubscribe => simp [covers]
        | baselineProgress => simp [covers, terminal]
        | appliedAck seq =>
          have bound := following.acks seq accepted
          simp only [covers, terminal, decide_eq_true_eq]
          omega
    · rename_i other
      simp only [Option.any_none, Bool.false_eq_true, iff_false, not_forall]
      obtain ⟨seq, accepted, reached⟩ := following.settled frame handed other
      refine ⟨_, accepted, ?_⟩
      rw [covers_baseline other]
      simpa using reached

/-! ### One route -/

variable {captures : List Capture} {nextToken : Nat} {owner : RunRef} {next : Route}

theorem Owing.over (state : next.state = .tombstone ∨ next.state = .retiring) (debt : next.logicalDebt = 0) :
    Owing env facts next := by
  have stopped : ¬Opened next ∧ next.state ≠ .preparing := by
    unfold Opened
    rcases state with ended | ended <;> simp [ended]
  have closed : next.state ≠ .transfer ∧ next.state ≠ .installed := by
    rcases state with ended | ended <;> simp [ended]
  constructor
  · intro _
    exact debt
  · intro preparing
    exact absurd preparing stopped.2
  · intro transfer
    exact absurd transfer closed.1
  · intro opened
    rcases opened with installed | ⟨transfer, _⟩
    · exact absurd installed closed.2
    · exact absurd transfer closed.1
  · rw [debt]
    exact Int.natCast_nonneg _

theorem Owing.fail (route : Route) (reason : Failure) : Owing env facts (route.fail reason) :=
  Owing.over (.inl rfl) rfl

theorem Owing.fails (fenced : route.state = .tombstone ∨ route.state = .retiring) (later : List Fact)
    (owing : Owing env facts route) : Owing env later route := by
  apply Owing.over fenced
  apply owing.idle
  unfold Opened
  rcases fenced with ended | ended <;> simp [ended]

theorem Sending.onFact (sending : Sending env facts route descriptor vt tail) (owned : OwnedFact) (bytes : Nat) :
    Sending env (facts ++ [owned.fact]) { route with postN := route.postN ++ [owned], postNBytes := bytes }
      descriptor vt tail := by
  refine { sending with inside := ?_, after := ?_ }
  · rw [length_append]
    exact sending.inside.trans (Nat.le_add_right _ _)
  · rw [map_append, sending.after, drop_append_of_le_length sending.inside]
    rfl

theorem Following.onFact (following : Following env facts route transfer)
    (opened : Opened route) (owned : OwnedFact) (bytes : Nat) :
    Following env (facts ++ [owned.fact]) { route with postN := route.postN ++ [owned], postNBytes := bytes }
      transfer := by
  refine { following with ahead := ?_, inside := ?_, waiting := ?_ }
  · rw [rest_append owned bytes opened, following.ahead, drop_append_of_le_length following.inside,
      map_append]
    rfl
  · rw [length_append]
    exact following.inside.trans (Nat.le_add_right _ _)
  · intro transfer
    obtain ⟨mode, applied, after⟩ := following.waiting transfer
    refine ⟨mode, ?_, ?_⟩
    · rw [length_append]
      exact applied.trans (Nat.le_add_right _ _)
    · rw [map_append, after, drop_append_of_le_length applied]
      rfl

variable {fact : Fact}

theorem Owing.onFact (owing : Owing env facts route) (held : Held env facts captures nextToken owner route)
    {run : RunRef} (same : route.run.runId = run.runId) (next : fact.seq = facts.length + 1)
    (leased : SubscriptionRef → Bool) : Owing env (facts ++ [fact]) (route.onFact env run fact leased) := by
  unfold Route.onFact
  split
  · rename_i skipped
    exact owing.fails (skipped.resolve_left (not_not.mpr same)) _
  · rename_i running
    have before := held.atSeq_le (fun stopped => running (.inr stopped))
    rw [if_neg (by omega : ¬fact.seq ≤ route.atSeq)]
    simp only
    split
    · exact Owing.fail route _
    split
    · exact Owing.fail route _
    refine ⟨owing.idle, owing.fresh, ?_, ?_, owing.bound⟩
    · intro transfer mode
      obtain ⟨descriptor, vt, tail, sending⟩ := owing.sending transfer mode
      exact ⟨descriptor, vt, tail, sending.onFact ⟨fact, _⟩ _⟩
    · intro phase
      obtain ⟨transfer, following⟩ := owing.following phase
      have opened : Opened route := phase.elim .inr (fun replay => .inl replay.1)
      exact ⟨transfer, following.onFact opened ⟨fact, _⟩ _⟩

theorem Sending.owing (sending : Sending env facts route descriptor vt tail) (state : route.state = .transfer)
    (mode : route.mode = .baseline) (bound : route.logicalDebt ≤ env.budgets.subscriptionCreditBytes) :
    Owing env facts route := by
  have opened : Opened route := .inl state
  refine ⟨fun closed => absurd opened closed, ?_, fun _ _ => ⟨descriptor, vt, tail, sending⟩, ?_, bound⟩
  · intro preparing
    cases state.symm.trans preparing
  · rintro (installed | ⟨_, replay⟩)
    · cases state.symm.trans installed
    · cases mode.symm.trans replay

theorem Following.owing (following : Following env facts route transfer)
    (phase : route.state = .installed ∨ (route.state = .transfer ∧ route.mode = .replay))
    (bound : route.logicalDebt ≤ env.budgets.subscriptionCreditBytes) : Owing env facts route := by
  have opened : Opened route := phase.elim .inr (fun replay => .inl replay.1)
  refine ⟨fun closed => absurd opened closed, ?_, ?_, fun _ => ⟨transfer, following⟩, bound⟩
  · intro preparing
    simp [Opened, preparing] at opened
  · intro state baseline
    rcases phase with installed | ⟨_, replay⟩
    · cases state.symm.trans installed
    · cases baseline.symm.trans replay

/-! ### Handing out -/

theorem Sending.handOut (sending : Sending env facts route descriptor vt tail)
    (found : route.frames[route.nextFrame]? = some frame) : Sending env facts { route with
        nextFrame := route.nextFrame + 1
        logicalDebt := route.logicalDebt + frame.charge
        attempt := { route.attempt with handed := route.attempt.handed ++ [frame.frame] } } descriptor vt tail := by
  have grown : route.frames.take (route.nextFrame + 1) = route.frames.take route.nextFrame ++ [frame] := by
    rw [take_add_one, found]
    rfl
  have ordinal : frame.ordinal = (route.nextFrame : Int) - 1 := by
    rw [sending.frames] at found
    exact baselineFrames_ordinal env _ _ descriptor vt tail found
  have unread : unparsed route.parsedOrdinal frame = true := by
    have parsed := sending.parsed
    simp only [unparsed, Bool.or_eq_true, decide_eq_true_eq]
    omega
  refine { sending with handed := ?_, parsed := ?_, debt := ?_ }
  · rw [grown, map_append, sending.handed]
    rfl
  · have parsed := sending.parsed
    push_cast
    omega
  · rw [grown, filter_append, filter_singleton, unread, sending.debt]
    simp

theorem factFrame_seq {other : Fact} {run : RunRef} {ref : SubscriptionRef}
    (same : factFrame env run ref fact = factFrame env run ref other) : fact.seq = other.seq := by
  have events := congrArg (fun frame : Frame => frame.event.terminal) same
  simp only [factFrame, Terminal.runEvent.injEq] at events
  rw [Fact.seq, events, Fact.seq]

theorem Following.next_seq (following : Following env facts route transfer)
    (numbered : Numbered Fact.seq facts) {others : List Frame}
    (first : rest env route = factFrame env route.run route.ref fact :: others) :
    fact.seq = route.sentSeq + 1 ∧ route.sentSeq + 1 ≤ facts.length ∧
      others = (facts.drop (route.sentSeq + 1)).map (factFrame env route.run route.ref) := by
  have ahead := following.ahead
  rw [first] at ahead
  have more : route.sentSeq < facts.length := by
    by_contra finished
    rw [drop_eq_nil_of_le (by omega)] at ahead
    cases ahead
  rw [drop_eq_getElem_cons more, map_cons, List.cons.injEq] at ahead
  obtain ⟨head, tail⟩ := ahead
  refine ⟨?_, more, tail⟩
  rw [factFrame_seq head]
  exact numbered.number_getElem more

theorem ledgerOf_fact (fact : Fact) (run : RunRef) (ref : SubscriptionRef) : ledgerOf env (factFrame env run ref fact) =
      some { seq := fact.seq, charge := framedBytes env (factFrame env run ref fact) } := rfl

/-- A route that has handed out a fact, of its transfer or of `postN`. -/
def sending (env : Env) (route : Route) (fact : Fact) (nextFrame : Nat) (postN : List OwnedFact) (postNBytes : Nat) : Route :=
  let frame := factFrame env route.run route.ref fact
  { route with
    nextFrame := nextFrame
    postN := postN
    postNBytes := postNBytes
    sentSeq := fact.seq
    sent := route.sent ++ [{ seq := fact.seq, charge := framedBytes env frame }]
    logicalDebt := route.logicalDebt + framedBytes env frame
    attempt := { route.attempt with handed := route.attempt.handed ++ [frame] } }

theorem Following.handOut (following : Following env facts route transfer) (numbered : Numbered Fact.seq facts)
    {nextFrame postNBytes : Nat} {postN : List OwnedFact} (kept : route.state = .transfer → postN = route.postN)
    (first : rest env route = factFrame env route.run route.ref fact ::
      rest env (sending env route fact nextFrame postN postNBytes)) :
    Following env facts (sending env route fact nextFrame postN postNBytes) transfer := by
  obtain ⟨seq, inside, tail⟩ := following.next_seq numbered first
  have applied := following.applied
  rw [← seq] at inside tail
  have ahead : route.appliedSeq < fact.seq := by omega
  refine { following with ahead := tail, inside := inside, applied := ahead.le, waiting := ?_, sent := ?_, bounded := ?_, acked := ?_, settled := ?_, debt := ?_ }
  · intro state
    rw [sending, kept state]
    exact following.waiting state
  · change route.sent ++ _ = ((route.attempt.handed ++ _).filterMap (ledgerOf env)).filter
      (fun item => decide (route.appliedSeq < item.seq))
    rw [filterMap_append, filter_append, ← following.sent]
    simp [ledgerOf_fact, ahead]
  · intro item member
    change item.seq ≤ fact.seq
    rcases mem_snoc member with before | rfl
    · have bound := following.bounded item before
      omega
    · exact le_rfl
  · intro frame member event terminal early
    rcases mem_snoc member with before | last
    · exact following.acked frame before event terminal early
    -- The fact just handed out is past the last one sent, so it is not applied yet.
    have same : event.seq = fact.seq := by
      rw [last] at terminal
      simp only [factFrame, Terminal.runEvent.injEq] at terminal
      rw [← terminal, Fact.seq]
    exact absurd (same.ge.trans early) (not_le.mpr ahead)
  · intro frame member other
    rcases mem_snoc member with before | last
    · exact following.settled frame before other
    · rw [last] at other
      exact absurd rfl (other fact.event)
  · simp [sending, following.debt]

theorem nextFrame_charge {found : Next} (offered : route.nextFrame? env = some found)
    (owing : Owing env facts route) : found.charge = framedBytes env found.frame := by
  unfold Route.nextFrame? at offered
  split at offered
  · rename_i state mode
    split at offered
    · cases offered
    rename_i frame listed
    cases offered
    obtain ⟨descriptor, vt, tail, sending⟩ := owing.sending state mode
    rw [sending.frames] at listed
    exact (baselineFrames_kind env _ _ descriptor vt tail (mem_of_getElem? listed)).1
  · split at offered
    · cases offered
    · cases offered
      rfl
  · split at offered
    · cases offered
    · cases offered
      rfl
  · cases offered

theorem Owing.handOut (owing : Owing env facts route) (numbered : Numbered Fact.seq facts) {found : Next}
    (offered : route.nextFrame? env = some found)
    (room : route.logicalDebt + found.charge ≤ env.budgets.subscriptionCreditBytes) :
    Owing env facts (route.handOut found (framedBytes env found.frame)) := by
  have charge := nextFrame_charge offered owing
  have offers := nextFrame_offers offered
  rw [charge] at room
  unfold Route.nextFrame? at offered
  split at offered
  · rename_i transfer mode
    split at offered
    · cases offered
    rename_i frame listed
    cases offered
    obtain ⟨descriptor, vt, tail, sending⟩ := owing.sending transfer mode
    have handed := sending.handOut listed
    simp only at charge
    rw [charge] at handed
    exact Sending.owing handed transfer mode room
  · rename_i transfer mode
    split at offered
    · cases offered
    rename_i fact listed
    cases offered
    obtain ⟨opening, following⟩ := owing.following (.inr ⟨transfer, mode⟩)
    exact (following.handOut numbered (fun _ => rfl) offers.first).owing (.inr ⟨transfer, mode⟩) room
  · rename_i installed
    split at offered
    · cases offered
    rename_i owned others listed
    cases offered
    obtain ⟨opening, following⟩ := owing.following (.inl installed)
    refine (following.handOut numbered ?_ offers.first).owing (.inl installed) room
    intro transfer
    cases installed.symm.trans transfer
  · cases offered

/-- The enqueue callback reports the framed size of what it accepts. -/
def Reports (env : Env) (enqueue : Nat → Frame → Enqueue) : Prop :=
  ∀ index frame bytes, enqueue index frame = .accepted bytes ∨ enqueue index frame = .closed bytes →
    bytes = framedBytes env frame

variable {enqueue : Nat → Frame → Enqueue}

theorem Owing.drainRoute (numbered : Numbered Fact.seq facts) (ledger : Nat → Bool) (reports : Reports env enqueue) (fuel : Nat) (route : Route) (turn : Turn)
    (owing : Owing env facts route) : Owing env facts (drainRoute env ledger enqueue fuel route turn).1 := by
  induction fuel generalizing route turn with
  | zero => exact owing
  | succ fuel ih =>
    unfold Recovery.drainRoute
    split
    · exact owing
    split
    · exact owing
    rename_i found offered
    split
    · exact owing
    rename_i room
    have handed := owing.handOut numbered offered (not_lt.mp room)
    split
    · exact owing
    split
    · exact Owing.fail route _
    split
    · exact Owing.fail route _
    · exact owing
    · rename_i bytes answer
      rw [reports _ _ bytes (.inl answer)]
      exact ih _ _ handed
    · rename_i bytes answer
      rw [reports _ _ bytes (.inr answer)]
      exact handed

/-! ### Progress -/

/-- Each frame bears its place, counted from the first chunk. -/
def Ordered (frames : List TransferFrame) : Prop :=
  ∀ (index : Nat) (frame : TransferFrame), frames[index]? = some frame → frame.ordinal = (index : Int) - 1

variable {frames : List TransferFrame} {count : Nat}

/-- In frames that bear their ordinals, the frames up to a parsed ordinal are among those handed out past it. -/
theorem chargesBetween_take (ordinals : Ordered frames) {low high : Int} (handed : high < (count : Int) - 1) :
    chargesBetween frames low high = chargesBetween (frames.take count) low high := by
  have beyond : (frames.drop count).filter
      (fun frame => decide (low < frame.ordinal) && decide (frame.ordinal ≤ high)) = [] := by
    rw [filter_eq_nil_iff]
    intro frame member
    obtain ⟨index, found⟩ := mem_iff_getElem?.mp member
    rw [getElem?_drop] at found
    have ordinal := ordinals _ frame found
    simp only [Bool.and_eq_true, decide_eq_true_eq]
    omega
  unfold chargesBetween
  conv_lhs => rw [← take_append_drop count frames]
  rw [filter_append, beyond, append_nil]

theorem sum_negative (ordinals : Ordered frames) (some_handed : 0 < count) :
    (((frames.take count).filter (fun frame => decide (frame.ordinal < 0))).map charge).sum =
      (frames[0]?.map charge).getD 0 := by
  cases frames with
  | nil => simp
  | cons first others =>
    obtain ⟨more, rfl⟩ := Nat.exists_eq_succ_of_ne_zero some_handed.ne'
    have head := ordinals 0 first rfl
    have none_later : (others.take more).filter (fun frame => decide (frame.ordinal < 0)) = [] := by
      rw [filter_eq_nil_iff]
      intro frame member
      obtain ⟨index, found⟩ := mem_iff_getElem?.mp (mem_of_mem_take member)
      have ordinal := ordinals (index + 1) frame found
      simp only [decide_eq_true_eq]
      omega
    have negative : first.ordinal < 0 := by
      rw [head]
      decide
    simp [negative, none_later]

/-- What progress to an ordinal takes off is exactly what it covers of the frames handed out. -/
theorem sum_unparsed (ordinals : Ordered frames)
    {low : Int} {high : Nat} (least : -1 ≤ low) (grows : low < high) (handed : (high : Int) < (count : Int) - 1) :
    (((frames.take count).filter (unparsed low)).map charge).sum =
      (((frames.take count).filter (unparsed high)).map charge).sum +
        (if low < 0 then (frames[0]?.map charge).getD 0 else 0) + chargesBetween frames low high := by
  have between := sum_filter_split charge (fun frame => decide (low < frame.ordinal)) (unparsed high)
    (fun frame => decide (low < frame.ordinal) && decide (frame.ordinal ≤ high)) (frames.take count)
    (by
      intro frame _
      rw [Bool.eq_iff_iff]
      simp only [unparsed, Bool.or_eq_true, Bool.and_eq_true, decide_eq_true_eq]
      omega)
    (by
      intro frame _
      rw [← Bool.not_eq_true]
      simp only [unparsed, Bool.or_eq_true, Bool.and_eq_true, decide_eq_true_eq]
      omega)
  rw [chargesBetween_take ordinals handed]
  by_cases unstarted : low < 0
  · have start := sum_filter_split charge (unparsed low) (fun frame => decide (low < frame.ordinal))
      (fun frame => decide (frame.ordinal < 0)) (frames.take count)
      (by
        intro frame member
        rw [Bool.eq_iff_iff]
        simp only [unparsed, Bool.or_eq_true, decide_eq_true_eq]
        omega)
      (by
        intro frame member
        rw [← Bool.not_eq_true]
        simp only [Bool.and_eq_true, decide_eq_true_eq]
        omega)
    rw [start, sum_negative ordinals (by omega : 0 < count), if_pos unstarted]
    unfold chargesBetween
    omega
  · have started : (frames.take count).filter (unparsed low) =
        (frames.take count).filter (fun frame => decide (low < frame.ordinal)) := by
      apply filter_congr
      simp [unparsed, unstarted]
    rw [started, if_neg unstarted]
    unfold chargesBetween
    omega

theorem mem_record {command other : RouteCommand} (member : other ∈ (route.record command).attempt.accepted) :
    other ∈ route.attempt.accepted ∨ other = command := mem_snoc member

theorem record_mem (command : RouteCommand) : command ∈ (route.record command).attempt.accepted :=
  mem_append_right _ (mem_singleton_self command)

section Baseline

variable (sending : Sending env facts route descriptor vt tail)
include sending

theorem Sending.record {command : RouteCommand}
    (stale : ∀ (baselineId : String) (last : Nat), command = .baselineProgress baselineId last →
      (last : Int) ≤ route.parsedOrdinal) (early : ∀ seq, command = .appliedAck seq → seq < descriptor.atSeq) :
    Sending env facts (route.record command) descriptor vt tail := by
  refine { sending with progress := ?_, latest := ?_, acks := ?_ }
  · intro baselineId last member
    rcases mem_record member with before | same
    · exact sending.progress baselineId last before
    · exact stale baselineId last same.symm
  · intro started
    obtain ⟨baselineId, last, member, reached⟩ := sending.latest started
    exact ⟨baselineId, last, mem_append_left _ member, reached⟩
  · intro seq member
    rcases mem_record member with before | same
    · exact sending.acks seq before
    · exact early seq same.symm

/-- Progress takes off what it covers and becomes the ordinal parsed. -/
theorem Sending.parse (baselineId : String) {last : Nat}
    (grows : route.parsedOrdinal < last) (inside : (last : Int) < (route.frames.length : Int) - 2)
    (handed : (last : Int) < (route.nextFrame : Int) - 1) : Sending env facts ({ route with
          logicalDebt := route.logicalDebt -
            (if route.parsedOrdinal < 0 then (route.frames[0]?.map charge).getD 0 else 0 : Nat) -
            chargesBetween route.frames route.parsedOrdinal last
          parsedOrdinal := last }.record (.baselineProgress baselineId last)) descriptor vt tail := by
  have ordinals : Ordered route.frames := by
    intro index frame found
    rw [sending.frames] at found
    exact baselineFrames_ordinal env _ _ descriptor vt tail found
  have count : (route.frames.length : Int) = (baselineChunks vt tail).length + 2 := by
    rw [sending.frames, baselineFrames_length]
    rfl
  refine { sending with low := ?_, high := ?_, parsed := ?_, progress := ?_, latest := ?_, acks := ?_, debt := ?_ }
  · change -1 ≤ (last : Int)
    omega
  · change (last : Int) < (baselineChunks vt tail).length
    omega
  · exact .inr handed
  · intro other ordinal member
    rcases mem_record member with before | same
    · have older := sending.progress other ordinal before
      change (ordinal : Int) ≤ last
      omega
    · cases same
      exact le_refl _
  · intro _
    exact ⟨baselineId, last, record_mem _, rfl⟩
  · intro seq member
    rcases mem_record member with before | same
    · exact sending.acks seq before
    · cases same
  · have taken := sum_unparsed ordinals sending.low grows handed
    have debt := sending.debt
    simp only [Route.record]
    omega

theorem Sending.advance (appliedSeq : Nat) : Sending env facts (route.advance appliedSeq) descriptor vt tail := by
  unfold Route.advance
  split
  · refine { sending with sent := ?_, debt := ?_ }
    · simp [sending.sent]
    · simp [sending.sent, sentCharges, sending.debt]
  · exact sending

end Baseline

theorem Owing.progress (owing : Owing env facts route) (opened : Opened route) (baselineId : String) (last : Nat) :
    Owing env facts (route.progress (.baselineProgress baselineId last) baselineId last).1 := by
  unfold Route.progress
  split
  · exact owing
  rename_i accepted
  simp only [not_or, not_not, not_le] at accepted
  obtain ⟨mode, _, inside, handed⟩ := accepted
  have transfer : route.state = .transfer := by
    rcases opened with transfer | installed
    · exact transfer
    obtain ⟨_, following⟩ := owing.following (.inl installed)
    rw [following.cleared installed] at inside
    simp only [length_nil] at inside
    omega
  obtain ⟨descriptor, vt, tail, sending⟩ := owing.sending transfer mode
  have bound := owing.bound
  split
  · rename_i grows
    apply (sending.parse baselineId grows inside handed).owing transfer mode
    change route.logicalDebt - _ - _ ≤ _
    omega
  · apply Sending.owing (sending.record _ _) transfer mode bound
    · intro other ordinal same
      cases same
      omega
    · intro seq same
      cases same

/-! ### Acknowledgements -/

section Ack

variable {appliedSeq : Nat}

theorem advance_appliedSeq (reached : route.appliedSeq ≤ appliedSeq) :
    (route.advance appliedSeq).appliedSeq = appliedSeq := by
  unfold Route.advance
  split
  · rfl
  · exact le_antisymm reached (not_lt.mp (by assumption))

/-- An acknowledgement takes the facts through its number off the ledger, and their charges off the debt. -/
theorem Following.advance_ledger (following : Following env facts route transfer)
    (reached : route.appliedSeq ≤ appliedSeq) :
    (route.advance appliedSeq).sent = (route.attempt.handed.filterMap (ledgerOf env)).filter
        (fun item => decide (appliedSeq < item.seq)) ∧
      (route.advance appliedSeq).logicalDebt = (((route.advance appliedSeq).sent.map Sent.charge).sum : Nat) := by
  unfold Route.advance
  split
  · have past : ∀ item ∈ route.sent, route.appliedSeq < item.seq := by
      intro item member
      rw [following.sent] at member
      exact of_decide_eq_true (List.mem_filter.mp member).2
    refine ⟨?_, ?_⟩
    · rw [following.sent, filter_filter]
      apply filter_congr
      intro item _
      rw [Bool.eq_iff_iff]
      simp only [Bool.and_eq_true, decide_eq_true_eq]
      omega
    · have split := sum_filter_split Sent.charge (fun _ => true) (fun item => decide (appliedSeq < item.seq))
        (fun item => decide (route.appliedSeq < item.seq) && decide (item.seq ≤ appliedSeq)) route.sent
        (by
          intro item member
          have later := past item member
          rw [Bool.eq_iff_iff]
          simp only [Bool.or_eq_true, Bool.and_eq_true, decide_eq_true_eq, true_iff]
          omega)
        (by
          intro item _
          rw [← Bool.not_eq_true]
          simp only [Bool.and_eq_true, decide_eq_true_eq]
          omega)
      rw [filter_true] at split
      have debt := following.debt
      simp only [sentCharges]
      omega
  · rename_i same
    have equal : appliedSeq = route.appliedSeq := le_antisymm (not_lt.mp same) reached
    rw [equal]
    exact ⟨following.sent, following.debt⟩

theorem advance_frame (route : Route) (appliedSeq : Nat) : ∃ (debt : Int) (sent : List Sent) (applied : Nat),
    route.advance appliedSeq = { route with logicalDebt := debt, sent := sent, appliedSeq := applied } := by
  unfold Route.advance
  split
  · exact ⟨_, _, _, rfl⟩
  · exact ⟨route.logicalDebt, route.sent, route.appliedSeq, rfl⟩

/-- An accepted acknowledgement leaves the route following the facts. -/
theorem Following.advance (following : Following env facts route transfer)
    (reached : route.appliedSeq ≤ appliedSeq) (sentThrough : appliedSeq ≤ route.sentSeq) :
    Following env facts ((route.advance appliedSeq).record (.appliedAck appliedSeq)) transfer := by
  have applied := advance_appliedSeq reached
  obtain ⟨sent, charged⟩ := following.advance_ledger reached
  obtain ⟨debt, ledger, seq, same⟩ := advance_frame route appliedSeq
  rw [same] at applied sent charged ⊢
  cases applied
  refine { following with applied := sentThrough, sent := sent, bounded := ?_, acks := ?_, acked := ?_, settled := ?_, debt := charged }
  · intro item inside
    apply following.bounded
    rw [following.sent]
    obtain ⟨listed, later⟩ := List.mem_filter.mp (sent ▸ inside)
    refine List.mem_filter.mpr ⟨listed, decide_eq_true ?_⟩
    exact reached.trans_lt (of_decide_eq_true later)
  · intro number accepted
    rcases mem_record accepted with before | same
    · exact (following.acks number before).trans reached
    · cases same
      exact le_refl _
  · intro _ _ _ _ early
    exact ⟨seq, record_mem _, early⟩
  · intro frame handed other
    obtain ⟨number, before, settles⟩ := following.settled frame handed other
    exact ⟨number, mem_append_left _ before, settles⟩

theorem advance_debt_le (route : Route) (appliedSeq : Nat) :
    (route.advance appliedSeq).logicalDebt ≤ route.logicalDebt := by
  unfold Route.advance
  split
  · simp only
    omega
  · exact le_refl _

def installed (route : Route) : Route :=
  { route with state := .installed, deadlineAt := none, logicalDebt := 0, frames := [], replay := none }

/-- Installing after a baseline: all its frames are covered and no fact has been sent yet. -/
theorem Sending.install (sending : Sending env facts route descriptor vt tail) (reached : route.appliedSeq = descriptor.atSeq) :
    Following env facts ((installed route).record (.appliedAck descriptor.atSeq)) (.baseline descriptor vt tail) := by
  have silent : ∀ frame ∈ route.attempt.handed, ∀ event, frame.event.terminal ≠ .runEvent event := by
    intro frame member
    rw [sending.handed] at member
    obtain ⟨listed, inside, rfl⟩ := List.mem_map.mp member
    have known := mem_of_mem_take inside
    rw [sending.frames] at known
    exact baselineFrames_silent env _ _ descriptor vt tail known
  have unledgered : route.attempt.handed.filterMap (ledgerOf env) = [] := by
    rw [filterMap_eq_nil_iff]
    intro frame member
    unfold ledgerOf
    split
    · rename_i event terminal
      exact absurd terminal (silent frame member event)
    · rfl
  constructor
  · exact sending.opened
  · exact sending.point
  · change rest env (installed route) = (facts.drop route.sentSeq).map (factFrame env route.run route.ref)
    rw [sending.sentSeq, ← sending.after, map_map]
    rfl
  · exact sending.sentSeq.le.trans sending.inside
  · exact reached.le.trans sending.sentSeq.ge
  · intro transfer
    cases transfer
  · intro _
    rfl
  · change route.sent = _
    rw [sending.sent]
    simp only [Route.record, installed, unledgered, filter_nil]
  · change ∀ item ∈ route.sent, _
    rw [sending.sent]
    intro item member
    cases member
  · intro seq member
    change seq ≤ route.appliedSeq
    rw [reached]
    rcases mem_record member with before | same
    · exact (sending.acks seq before).le
    · cases same
      exact le_refl _
  · intro frame member event terminal
    exact absurd terminal (silent frame member event)
  · intro frame member _
    exact ⟨descriptor.atSeq, record_mem _, le_refl _⟩
  · change (0 : Int) = ((route.sent.map Sent.charge).sum : Nat)
    rw [sending.sent]
    rfl

/-- In a replay, what is left to send is what lies between the last fact sent and the one the transfer leads to. -/
theorem Following.replaying (following : Following env facts route transfer) (state : route.state = .transfer) :
    route.sentSeq ≤ transfer.atSeq ∧ (route.unsent = true ↔ route.sentSeq < transfer.atSeq) := by
  obtain ⟨mode, applied, after⟩ := following.waiting state
  have inside := following.inside
  have ahead := congrArg List.length following.ahead
  have waiting := congrArg List.length after
  simp only [rest, state, mode, length_append, length_map, length_drop] at ahead waiting
  unfold Route.unsent
  simp only [mode, decide_eq_true_eq]
  omega

theorem Sending.acknowledge (sending : Sending env facts route descriptor vt tail) (owing : Owing env facts route)
    (state : route.state = .transfer) (mode : route.mode = .baseline) (reached : route.appliedSeq ≤ appliedSeq)
    (sentThrough : appliedSeq ≤ route.sentSeq) :
    Owing env facts (route.acknowledge (.appliedAck appliedSeq) appliedSeq).1 := by
  have inside : appliedSeq ≤ descriptor.atSeq := sentThrough.trans sending.sentSeq.le
  have advanced := sending.advance appliedSeq
  have bound := (advance_debt_le route appliedSeq).trans owing.bound
  have applied := advance_appliedSeq reached
  obtain ⟨debt, sent, seq, same⟩ := advance_frame route appliedSeq
  have still : (route.advance appliedSeq).state = .transfer := by rw [same, state]
  have baseline : (route.advance appliedSeq).mode = .baseline := by rw [same, mode]
  have point : (route.advance appliedSeq).atSeq = descriptor.atSeq := advanced.point
  unfold Route.acknowledge
  rw [if_neg (by omega)]
  simp only
  split
  · rename_i last
    have target : appliedSeq = descriptor.atSeq := last.2.trans point
    split
    · exact advanced.owing still baseline bound
    · rw [target] at advanced applied ⊢
      exact (advanced.install applied).owing (.inl rfl) (Int.natCast_nonneg _)
  · rename_i other
    have early : appliedSeq ≠ descriptor.atSeq := fun target => other ⟨still, target.trans point.symm⟩
    apply Sending.owing (advanced.record _ _) still baseline bound
    · intro baselineId last progress
      cases progress
    · intro acknowledged equal
      cases equal
      omega

theorem Following.acknowledged (following : Following env facts route transfer) (owing : Owing env facts route)
    (phase : route.state = .installed ∨ (route.state = .transfer ∧ route.mode = .replay))
    (reached : route.appliedSeq ≤ appliedSeq) (sentThrough : appliedSeq ≤ route.sentSeq) :
    Owing env facts (route.acknowledge (.appliedAck appliedSeq) appliedSeq).1 := by
  have bound := (advance_debt_le route appliedSeq).trans owing.bound
  have seq := advance_appliedSeq reached
  have accepted := following.advance reached sentThrough
  unfold Route.acknowledge
  rw [if_neg (by omega)]
  simp only
  split
  · rename_i last
    have target : appliedSeq = transfer.atSeq := last.2.trans accepted.point
    obtain ⟨notAfter, left⟩ := accepted.replaying last.1
    have applied := accepted.applied
    simp only [Route.record] at notAfter applied
    have finished : (route.advance appliedSeq).unsent = false := by
      rw [← Bool.not_eq_true]
      refine left.not.mpr (not_lt.mpr ?_)
      change transfer.atSeq ≤ (route.advance appliedSeq).sentSeq
      omega
    -- Every fact sent is acknowledged, so the ledger is empty.
    have settled : (route.advance appliedSeq).sent = [] := by
      rw [eq_nil_iff_forall_not_mem]
      intro item listed
      have early : item.seq ≤ (route.advance appliedSeq).sentSeq := accepted.bounded item listed
      rw [(following.advance_ledger reached).1] at listed
      have late := of_decide_eq_true (List.mem_filter.mp listed).2
      omega
    rw [if_neg (by simp [finished])]
    refine Following.owing (?_ : Following env facts _ transfer) (.inl rfl) (Int.natCast_nonneg _)
    refine { accepted with ahead := (rest_sent env last.1 finished).trans accepted.ahead, waiting := ?_, cleared := fun _ => rfl, debt := ?_ }
    · intro again
      cases again
    · change (0 : Int) = (((route.advance appliedSeq).sent.map Sent.charge).sum : Nat)
      rw [settled]
      rfl
  · obtain ⟨_, _, _, same⟩ := advance_frame route appliedSeq
    refine accepted.owing ?_ bound
    rw [same]
    exact phase

theorem Owing.acknowledge (owing : Owing env facts route) (opened : Opened route) (appliedSeq : Nat) :
    Owing env facts (route.acknowledge (.appliedAck appliedSeq) appliedSeq).1 := by
  by_cases refused : appliedSeq > route.sentSeq ∨ appliedSeq < route.appliedSeq
  · unfold Route.acknowledge
    rw [if_pos refused]
    exact owing
  · have sentThrough : appliedSeq ≤ route.sentSeq := by omega
    have reached : route.appliedSeq ≤ appliedSeq := by omega
    have follows : route.state = .installed ∨ (route.state = .transfer ∧ route.mode = .replay) →
        Owing env facts (route.acknowledge (.appliedAck appliedSeq) appliedSeq).1 := by
      intro phase
      obtain ⟨_, following⟩ := owing.following phase
      exact following.acknowledged owing phase reached sentThrough
    rcases opened with transfer | installed
    · cases mode : route.mode with
      | baseline =>
        obtain ⟨_, _, _, sending⟩ := owing.sending transfer mode
        exact sending.acknowledge owing transfer mode reached sentThrough
      | replay => exact follows (.inr ⟨transfer, mode⟩)
    · exact follows (.inl installed)

end Ack

section

variable (owing : Owing env facts route)
include owing

theorem Owing.command (command : RouteCommand) : Owing env facts (route.command command).1 := by
  unfold Route.command
  cases command with
  | unsubscribe => exact Owing.over (.inr rfl) rfl
  | appliedAck appliedSeq =>
    cases state : route.state with
    | preparing | tombstone | retiring => exact owing
    | transfer => exact owing.acknowledge (.inl state) appliedSeq
    | installed => exact owing.acknowledge (.inr state) appliedSeq
  | baselineProgress baselineId last =>
    cases state : route.state with
    | preparing | tombstone | retiring => exact owing
    | transfer => exact owing.progress (.inl state) baselineId last
    | installed => exact owing.progress (.inr state) baselineId last

theorem Owing.markerEnqueued (requestId : String) (ref : SubscriptionRef) :
    Owing env facts (route.markerEnqueued requestId ref) := by
  unfold Route.markerEnqueued
  split
  · refine ⟨owing.idle, owing.fresh, ?_, ?_, owing.bound⟩
    · intro transfer mode
      obtain ⟨descriptor, vt, tail, sending⟩ := owing.sending transfer mode
      exact ⟨descriptor, vt, tail, { sending with }⟩
    · intro phase
      obtain ⟨transfer, following⟩ := owing.following phase
      exact ⟨transfer, { following with }⟩
  · exact owing

/-! ### Opening an attempt -/

theorem Owing.install (held : Held env facts captures nextToken owner route)
    (numbered : Numbered Fact.seq facts) (preparing : route.state = .preparing)
    (attempted : route.captureAttempt = true) (descriptor : BaselineDescriptor) (vt tail : List UInt8)
    (since : facts.length - route.postN.length ≤ descriptor.atSeq) (applied : descriptor.atSeq ≤ facts.length) :
    Owing env facts (route.install env descriptor vt tail) := by
  have waiting := held.waiting preparing
  obtain ⟨accepted, sent, parsed, _⟩ := owing.fresh preparing
  have debt : route.logicalDebt = 0 := by
    apply owing.idle
    simp [Opened, preparing]
  have sending : Sending env facts (route.install env descriptor vt tail) descriptor vt tail := by
    constructor
    · rfl
    · rfl
    · rfl
    · rfl
    · exact applied
    · simp [Route.install, waiting.silent, waiting.first]
    · exact sent
    · exact postN_after numbered waiting.kept since
    · exact parsed.ge
    · change route.parsedOrdinal < _
      omega
    · left
      change route.parsedOrdinal < 0
      rw [parsed]
      decide
    · intro baselineId last member
      simp [Route.install, accepted] at member
    · intro started
      change 0 ≤ route.parsedOrdinal at started
      rw [parsed] at started
      cases started
    · intro seq member
      simp [Route.install, accepted] at member
    · simp [Route.install, debt, waiting.first]
  refine sending.owing rfl (waiting.mode attempted) ?_
  change route.logicalDebt ≤ _
  rw [debt]
  exact Int.natCast_nonneg _

theorem Owing.replay (held : Held env facts captures nextToken owner route)
    (preparing : route.state = .preparing) (empty : route.postN = []) {cursor : Nat} {chosen : List Fact}
    (ordered : cursor ≤ facts.length) (selected : chosen = (facts.drop cursor).take (facts.length - cursor))
    (from_ : route.appliedSeq = cursor) : Owing env facts { route with
        mode := .replay
        replay := some chosen
        atSeq := facts.length
        state := .transfer
        attempt := { route.attempt with transfer := some (.replay cursor facts.length) } } := by
  have waiting := held.waiting preparing
  obtain ⟨accepted, sent, _, sentSeq⟩ := owing.fresh preparing
  have debt : route.logicalDebt = 0 := by
    apply owing.idle
    simp [Opened, preparing]
  have all : chosen = facts.drop cursor := by
    rw [selected]
    apply take_of_length_le
    rw [length_drop]
  refine Following.owing (?_ : Following env facts _ (.replay cursor facts.length)) (.inr ⟨rfl, rfl⟩) ?_
  · constructor
    · rfl
    · rfl
    · simp [rest, waiting.first, empty, all, sentSeq, from_]
    · exact sentSeq.trans from_ ▸ ordered
    · exact sentSeq.ge
    · simp [empty, Transfer.atSeq]
    · intro state
      cases state
    · simp [sent, waiting.silent]
    · intro item member
      rw [sent] at member
      cases member
    · intro seq member
      rw [accepted] at member
      cases member
    · intro frame member
      rw [waiting.silent] at member
      cases member
    · intro frame member
      rw [waiting.silent] at member
      cases member
    · simp [debt, sent]
  · rw [debt]
    exact Int.natCast_nonneg _

/-! ### The whole component -/

end

def Honest (env : Env) : Event → Prop
  | .drain _ enqueue => Reports env enqueue
  | _ => True

theorem Owing.unopened (preparing : route.state = .preparing) (debt : route.logicalDebt = 0)
    (fresh : route.attempt.accepted = [] ∧ route.sent = [] ∧ route.parsedOrdinal = -1 ∧
      route.sentSeq = route.appliedSeq) : Owing env facts route := by
  refine ⟨fun _ => debt, fun _ => fresh, ?_, ?_, ?_⟩
  · intro transfer
    cases preparing.symm.trans transfer
  · rintro (installed | ⟨transfer, _⟩)
    · cases preparing.symm.trans installed
    · cases preparing.symm.trans transfer
  · rw [debt]
    exact Int.natCast_nonneg _

theorem Owing.await (owing : Owing env facts route) (preparing : route.state = .preparing) :
    Owing env facts { route with mode := .baseline, captureAttempt := true } :=
  Owing.unopened preparing (owing.idle (by simp [Opened, preparing])) (owing.fresh preparing)

theorem owingRules (env : Env) : Rules env (Reports env) (Owing env) where
  fail := Owing.fail
  onFact := fun leased owing held same next => owing.onFact held same next leased
  drainRoute := fun ledger fuel route turn reports numbered owing =>
    owing.drainRoute numbered ledger reports fuel route turn
  command := fun command owing => owing.command command
  markerEnqueued := fun requestId ref owing => owing.markerEnqueued requestId ref
  begins := fun _ preparing silent fresh =>
    Owing.unopened preparing fresh.debt ⟨silent, fresh.sent, fresh.parsed, fresh.sentSeq⟩
  await := Owing.await
  replay := fun owing held preparing empty ordered selected cursor =>
    owing.replay held preparing empty ordered selected cursor
  install := fun descriptor vt tail owing held numbered preparing attempted since applied =>
    owing.install held numbered preparing attempted descriptor vt tail since applied

theorem run_owing (env : Env) (events : List Event) (honest : ∀ event ∈ events, Honest env event) :
    Kept env (Owing env) (run (step env) (Subscriptions.new env) events) := by
  apply run_kept (owingRules env) events
  rintro _ member ledger enqueue rfl
  exact honest _ member

/-! ### What a peer owes -/

def Current (route : Route) : Prop :=
  route.state = .preparing ∨ route.state = .transfer ∨ route.state = .installed

theorem Owing.owes (owing : Owing env facts route) (held : Held env facts captures nextToken owner route)
    (current : Current route) : route.logicalDebt = owed env route.attempt := by
  rcases current with preparing | transfer | installed
  · rw [owing.idle (by simp [Opened, preparing]), owed, (held.waiting preparing).silent]
    rfl
  · cases mode : route.mode with
    | baseline =>
      obtain ⟨_, _, _, sending⟩ := owing.sending transfer mode
      exact sending.owes
    | replay =>
      obtain ⟨_, following⟩ := owing.following (.inr ⟨transfer, mode⟩)
      exact following.owes
  · obtain ⟨_, following⟩ := owing.following (.inl installed)
    exact following.owes

/-- What an acknowledgement or progress leaves of an attempt: it is accepted if it is answered with a result. -/
structure Answers (command : RouteCommand) (route : Route) (answer : Route × Outcome) : Prop where
  handed : answer.1.attempt.handed = route.attempt.handed
  transfer : answer.1.attempt.transfer = route.attempt.transfer
  accepted : answer.1.attempt.accepted = route.attempt.accepted ++ match answer.2 with
    | .result .. => [command]
    | .failure _ => []
  current : Current answer.1 ↔ Current route

variable {command : RouteCommand}

theorem Answers.refused (route : Route) (failure : Failure) : Answers command route (route, .failure failure) :=
  ⟨rfl, rfl, (append_nil _).symm, Iff.rfl⟩

theorem acknowledge_answers (opened : Opened route) (appliedSeq : Nat) :
    Answers command route (route.acknowledge command appliedSeq) := by
  obtain ⟨_, _, _, advanced⟩ := advance_frame route appliedSeq
  have current : Current route := .inr opened
  unfold Route.acknowledge
  split
  · exact .refused ..
  simp only [advanced]
  split
  · split
    · exact ⟨rfl, rfl, (append_nil _).symm, Iff.rfl⟩
    · exact ⟨rfl, rfl, rfl, iff_of_true (.inr (.inr rfl)) current⟩
  · exact ⟨rfl, rfl, rfl, Iff.rfl⟩

theorem progress_answers (route : Route) (baselineId : String) (last : Nat) :
    Answers command route (route.progress command baselineId last) := by
  unfold Route.progress
  split
  · exact .refused ..
  split <;> exact ⟨rfl, rfl, rfl, Iff.rfl⟩

theorem command_answers (route : Route) (answered : ∀ requestId, command ≠ .unsubscribe requestId) :
    Answers command route (route.command command) := by
  unfold Route.command
  cases command with
  | unsubscribe requestId => exact absurd rfl (answered requestId)
  | appliedAck appliedSeq =>
    cases state : route.state with
    | preparing | tombstone | retiring => exact .refused ..
    | transfer => exact acknowledge_answers (.inl state) appliedSeq
    | installed => exact acknowledge_answers (.inr state) appliedSeq
  | baselineProgress baselineId last =>
    cases route.state with
    | preparing | tombstone | retiring => exact .refused ..
    | transfer | installed => exact progress_answers route baselineId last

def newlyCovered (env : Env) (before after : Attempt) : Nat :=
  ((before.handed.filter (fun frame => !covered before frame && covered after frame)).map (framedBytes env)).sum

theorem Answers.owed {answer : Route × Outcome} (answers : Answers command route answer) :
    owed env route.attempt = owed env answer.1.attempt + newlyCovered env route.attempt answer.1.attempt := by
  unfold RecoveryCredit.owed newlyCovered
  rw [answers.handed]
  have grows : ∀ frame, covered route.attempt frame = true → covered answer.1.attempt frame = true := by
    intro frame before
    unfold covered at before ⊢
    rw [answers.transfer, answers.accepted, any_append, before, Bool.true_or]
  apply sum_filter_split
  · intro frame _
    cases before : covered route.attempt frame <;> cases after : covered answer.1.attempt frame <;> simp_all
  · intro frame _
    cases covered answer.1.attempt frame <;> simp

/-- A peer that acknowledges the last fact it was sent owes nothing. -/
theorem Following.cleared_by_last (following : Following env facts route transfer) (installed : route.state = .installed) :
    (route.command (.appliedAck route.sentSeq)).1.logicalDebt = 0 := by
  have advanced := following.advance following.applied le_rfl
  have applied := advance_appliedSeq following.applied
  obtain ⟨_, _, _, same⟩ := advance_frame route route.sentSeq
  have answer : (route.command (.appliedAck route.sentSeq)).1 =
      (route.advance route.sentSeq).record (.appliedAck route.sentSeq) := by
    simp [Route.command, installed, Route.acknowledge, same, following.applied.not_gt]
  have nothing : ((route.advance route.sentSeq).record (.appliedAck route.sentSeq)).sent = [] := by
    refine eq_nil_iff_forall_not_mem.mpr fun item member => ?_
    have high := advanced.bounded item member
    rw [advanced.sent, mem_filter, decide_eq_true_eq] at member
    have low := member.2
    simp only [same, Route.record] at applied high low
    omega
  rw [answer, advanced.debt, nothing]
  rfl

/-- Recovery credit is exact: the debt of a route is what its attempt was handed and has not been covered, within the
credit. An acknowledgement or progress that is answered with a result is accepted, and it lowers the debt by exactly the
charges of the frames it is the first to cover; any other lowers nothing. -/
theorem recovery_credit_exact (env : Env) (events : List Event) (honest : ∀ event ∈ events, Honest env event) :
    let subscriptions := run (step env) (Subscriptions.new env) events
    ∀ route ∈ subscriptions.routes,
      0 ≤ route.logicalDebt ∧ route.logicalDebt ≤ env.budgets.subscriptionCreditBytes ∧
      (Current route → route.logicalDebt = owed env route.attempt) ∧
      (¬Current route → route.logicalDebt = 0) ∧
      (route.state = .installed → (route.command (.appliedAck route.sentSeq)).1.logicalDebt = 0) ∧
      ∀ command : RouteCommand, (∀ requestId, command ≠ .unsubscribe requestId) →
        Answers command route (route.command command) ∧
        route.logicalDebt = (route.command command).1.logicalDebt +
          newlyCovered env route.attempt (route.command command).1.attempt := by
  intro subscriptions route member
  have kept := run_owing env events honest
  have held := kept.inv.routes route member
  have owing := kept.each route member
  have settled : ¬Current route → route.logicalDebt = 0 := by
    intro ended
    exact owing.idle (fun opened => ended (.inr opened))
  have nonneg : 0 ≤ route.logicalDebt := by
    by_cases current : Current route
    · rw [owing.owes held current]
      exact Int.natCast_nonneg _
    · rw [settled current]
  refine ⟨nonneg, owing.bound, owing.owes held, settled, ?_, ?_⟩
  · intro installed
    obtain ⟨_, following⟩ := owing.following (.inl installed)
    exact following.cleared_by_last installed
  intro command answered
  have answers := command_answers route answered
  refine ⟨answers, ?_⟩
  by_cases current : Current route
  · have after := (owing.command command).owes (held.command command) (answers.current.mpr current)
    rw [owing.owes held current, after, answers.owed]
    rfl
  · -- A fenced route answers without a change.
    have same : (route.command command).1 = route := by
      unfold Route.command
      cases state : route.state with
      | preparing => exact absurd (.inl state) current
      | transfer => exact absurd (.inr (.inl state)) current
      | installed => exact absurd (.inr (.inr state)) current
      | tombstone | retiring =>
        cases command with
        | unsubscribe requestId => exact absurd rfl (answered requestId)
        | _ => rfl
    rw [same]
    simp [newlyCovered]

/-- The replayed fact is owed until it is acknowledged by its own number. -/
theorem replay_owed :
    let subscriptions := run (step replayEnv) (Subscriptions.new replayEnv) replayEvents
    let acknowledged := subscriptions.routes.map fun route => route.command (.appliedAck 2)
    (∀ event ∈ replayEvents, Honest replayEnv event) ∧ subscriptions.routes.map Route.logicalDebt = [117] ∧
      acknowledged.map (fun answer => (answer.1.logicalDebt, answer.1.attempt.accepted)) = [(0, [.appliedAck 2])] ∧
      ∀ route ∈ subscriptions.routes, route.logicalDebt ≤ replayEnv.budgets.subscriptionCreditBytes ∧
        route.logicalDebt = (route.command (.appliedAck 2)).1.logicalDebt +
          newlyCovered replayEnv route.attempt (route.command (.appliedAck 2)).1.attempt := by
  have honest : ∀ event ∈ replayEvents, Honest replayEnv event := by
    simp only [replayEvents, forall_mem_cons, Honest, not_mem_nil, true_and, and_true, IsEmpty.forall_iff,
      implies_true]
    intro index frame bytes reported
    rcases reported with accepted | closed
    · exact (Enqueue.accepted.inj accepted).symm
    · cases closed
  refine ⟨honest, by decide, by decide, ?_⟩
  intro route member
  obtain ⟨_, bound, _, _, _, released⟩ := recovery_credit_exact replayEnv replayEvents honest route member
  exact ⟨bound, (released (.appliedAck 2) (by simp)).2⟩

end Cove.Worker.RecoveryCredit
