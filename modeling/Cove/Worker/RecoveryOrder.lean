import Cove.Base.Run
import Cove.Worker.Recovery

/-!
The order in which a recovery route hands out frames. While a route is live, what it has handed out for its attempt
and what it still holds make up the whole stream of that attempt, so nothing can be skipped, repeated or reordered;
and what an attempt has handed out stays a beginning of that stream when the route is fenced.
-/

namespace Cove.Worker.RecoveryOrder
open Base.Chunks Base.Numbering Base.Run Protocol.Identity Protocol.Recovery Function List
open Protocol.Terminal Worker.Recovery Worker.ReplayWindow Subscriptions Route

variable (env : Env)

def stream (run : RunRef) (ref : SubscriptionRef) (facts : List Fact) : Transfer → List Frame
  | .baseline descriptor vt tail =>
    (baselineFrames env run ref descriptor vt tail).map TransferFrame.frame ++
      (facts.drop descriptor.atSeq).map (factFrame env run ref)
  | .replay cursor _ => (facts.drop cursor).map (factFrame env run ref)

def rest (route : Route) : List Frame :=
  let waiting := route.postN.map (fun owned => factFrame env route.run route.ref owned.fact)
  match route.state, route.mode with
  | .transfer, .baseline => (route.frames.drop route.nextFrame).map TransferFrame.frame ++ waiting
  | .transfer, .replay =>
    ((route.replay.getD []).drop route.nextFrame).map (factFrame env route.run route.ref) ++ waiting
  | .installed, _ => waiting
  | _, _ => []

def origin : Transfer → Nat
  | .baseline descriptor _ _ => descriptor.atSeq
  | .replay cursor _ => cursor

variable (facts : List Fact)

/-- An attempt opened so leads to a fact its run has applied, and has handed out a beginning of its stream. -/
structure Serves (attempt : Attempt) (transfer : Transfer) : Prop where
  ordered : origin transfer ≤ transfer.atSeq
  applied : transfer.atSeq ≤ facts.length
  begun : attempt.handed <+: stream env attempt.run attempt.ref facts transfer

def Sound (attempt : Attempt) : Prop :=
  match attempt.transfer with
  | none => attempt.handed = []
  | some transfer => Serves env facts attempt transfer

/-- An attempt that waits for its capture keeps every fact applied since some fact before the capture. -/
structure Waiting (captures : List Capture) (route : Route) : Prop where
  unopened : route.attempt.transfer = none
  silent : route.attempt.handed = []
  first : route.nextFrame = 0
  mode : route.captureAttempt = true → route.mode = .baseline
  before : route.atSeq ≤ facts.length
  few : route.postN.length ≤ facts.length
  kept : route.postN.map OwnedFact.fact = facts.drop (facts.length - route.postN.length)
  captured : ∀ capture ∈ captures, capture.token = route.token → capture.runId = route.run.runId ∧
    ∀ baseline, capture.result = some (.ready baseline) →
      facts.length - route.postN.length ≤ baseline.atSeq ∧ baseline.atSeq ≤ facts.length

/-- An opened attempt has handed out or still holds its whole stream. -/
structure Exact (route : Route) (transfer : Transfer) : Prop where
  opened : route.attempt.transfer = some transfer
  point : route.atSeq = transfer.atSeq
  whole : route.attempt.handed ++ rest env route = stream env route.run route.ref facts transfer

def Opened (route : Route) : Prop := route.state = .transfer ∨ route.state = .installed

structure Held (captures : List Capture) (nextToken : Nat) (owner : RunRef) (route : Route) : Prop where
  ref : route.attempt.ref = route.ref
  run : route.attempt.run = route.run
  owned : route.run = owner
  token : route.token ≤ nextToken
  sound : Sound env facts route.attempt
  waiting : route.state = .preparing → Waiting facts captures route
  exact : Opened route → ∃ transfer, Exact env facts route transfer

theorem stream_grows (run : RunRef) (ref : SubscriptionRef) (facts more : List Fact) (transfer : Transfer) :
    stream env run ref facts transfer <+: stream env run ref (facts ++ more) transfer := by
  cases transfer with
  | baseline =>
    apply (prefix_append_right_inj _).mpr
    exact ((prefix_append facts more).drop _).map _
  | replay => exact ((prefix_append facts more).drop _).map _

variable {attempt : Attempt}

variable {facts : List Fact}

theorem Sound.mono {env : Env} (sound : Sound env facts attempt)
    (more : List Fact) : Sound env (facts ++ more) attempt := by
  unfold Sound at sound ⊢
  cases opened : attempt.transfer with
  | none => simpa only [opened] using sound
  | some transfer =>
    simp only [opened] at sound
    constructor
    · exact sound.ordered
    · rw [length_append]
      exact sound.applied.trans (Nat.le_add_right _ _)
    · exact sound.begun.trans (stream_grows env attempt.run attempt.ref facts more transfer)

variable {transfer : Transfer}

theorem Sound.serves {env : Env} (sound : Sound env facts attempt) (opened : attempt.transfer = some transfer) : Serves env facts attempt transfer := by
  simpa only [Sound, opened] using sound

theorem stream_append (env : Env) (run : RunRef) (ref : SubscriptionRef) (fact : Fact) (inside : origin transfer ≤ facts.length) :
    stream env run ref (facts ++ [fact]) transfer =
      stream env run ref facts transfer ++ [factFrame env run ref fact] := by
  cases transfer with
  | baseline =>
    simp only [origin] at inside
    simp only [stream, drop_append_of_le_length inside, map_append, map_cons, map_nil,
      append_assoc]
  | replay =>
    simp only [origin] at inside
    simp only [stream, drop_append_of_le_length inside, map_append, map_cons, map_nil]

/-! ### One route -/

variable {env : Env} {facts later : List Fact} {captures : List Capture} {nextToken : Nat} {owner : RunRef}
variable {route next : Route}

theorem Held.over (held : Held env facts captures nextToken owner route) (sound : Sound env later route.attempt)
    (same : next = { next with attempt := route.attempt, ref := route.ref, run := route.run, token := route.token })
    (state : next.state = .tombstone ∨ next.state = .retiring) : Held env later captures nextToken owner next := by
  rw [same]
  refine ⟨held.ref, held.run, held.owned, held.token, sound, ?_, ?_⟩
  · intro preparing
    rcases state with ended | ended <;> rw [ended] at preparing <;> cases preparing
  · intro opened
    unfold Opened at opened
    rcases state with ended | ended <;> simp [ended] at opened

theorem Held.fail (held : Held env facts captures nextToken owner route) (reason : Failure) :
    Held env facts captures nextToken owner (route.fail reason) :=
  held.over held.sound rfl (.inl rfl)

theorem rest_append (owned : OwnedFact) (bytes : Nat) (opened : Opened route) :
    rest env { route with postN := route.postN ++ [owned], postNBytes := bytes } =
      rest env route ++ [factFrame env route.run route.ref owned.fact] := by
  unfold rest
  rcases opened with transfer | installed
  · cases route.mode <;> simp [transfer]
  · simp [installed]

theorem Waiting.onFact (waiting : Waiting facts captures route) (owned : OwnedFact) (bytes : Nat) :
    Waiting (facts ++ [owned.fact]) captures { route with postN := route.postN ++ [owned], postNBytes := bytes } := by
  have since : (facts ++ [owned.fact]).length - (route.postN ++ [owned]).length =
      facts.length - route.postN.length := by simp
  constructor
  · exact waiting.unopened
  · exact waiting.silent
  · exact waiting.first
  · exact waiting.mode
  · simp only [length_append]
    exact waiting.before.trans (Nat.le_add_right _ _)
  · simpa using waiting.few
  · rw [since, drop_append_of_le_length (Nat.sub_le _ _), map_append, waiting.kept]
    rfl
  · intro capture member same
    obtain ⟨run, ready⟩ := waiting.captured capture member same
    refine ⟨run, ?_⟩
    intro baseline result
    have bounds := ready baseline result
    rw [since, length_append]
    exact ⟨bounds.1, bounds.2.trans (Nat.le_add_right _ _)⟩

theorem Exact.onFact (exact : Exact env facts route transfer)
    (inside : origin transfer ≤ facts.length) (opened : Opened route) (owned : OwnedFact) (bytes : Nat) :
    Exact env (facts ++ [owned.fact]) { route with postN := route.postN ++ [owned], postNBytes := bytes } transfer := by
  constructor
  · exact exact.opened
  · exact exact.point
  · rw [rest_append _ bytes opened, stream_append env _ _ owned.fact inside, ← exact.whole]
    simp

/-- A live route has nothing to skip: its transfer leads to a fact already applied. -/
theorem Held.atSeq_le (held : Held env facts captures nextToken owner route)
    (running : ¬(route.state = .tombstone ∨ route.state = .retiring)) : route.atSeq ≤ facts.length := by
  have opened_le : Opened route → route.atSeq ≤ facts.length := by
    intro opened
    obtain ⟨transfer, exact⟩ := held.exact opened
    rw [exact.point]
    exact (held.sound.serves exact.opened).applied
  cases state : route.state with
  | preparing => exact (held.waiting state).before
  | transfer => exact opened_le (.inl state)
  | installed => exact opened_le (.inr state)
  | tombstone => exact absurd (.inl state) running
  | retiring => exact absurd (.inr state) running

theorem Held.onFact (held : Held env facts captures nextToken owner route) {run : RunRef}
    (same : route.run.runId = run.runId) {fact : Fact} (next : fact.seq = facts.length + 1)
    (leased : SubscriptionRef → Bool) :
    Held env (facts ++ [fact]) captures nextToken owner (route.onFact env run fact leased) := by
  have sound := held.sound.mono [fact]
  unfold Route.onFact
  split
  · rename_i skipped
    exact held.over sound rfl (skipped.resolve_left (not_not.mpr same))
  · rename_i running
    have before := held.atSeq_le (fun stopped => running (.inr stopped))
    rw [if_neg (by omega : ¬fact.seq ≤ route.atSeq)]
    simp only
    split
    · exact held.over sound rfl (.inl rfl)
    split
    · exact held.over sound rfl (.inl rfl)
    refine ⟨held.ref, held.run, held.owned, held.token, sound, ?_, ?_⟩
    · intro preparing
      exact (held.waiting preparing).onFact ⟨fact, _⟩ _
    · intro opened
      obtain ⟨transfer, exact⟩ := held.exact opened
      have serves := held.sound.serves exact.opened
      exact ⟨transfer, exact.onFact (serves.ordered.trans serves.applied) opened ⟨fact, _⟩ _⟩

/-! ### Handing out -/

structure Offers (env : Env) (route : Route) (next : Next) : Prop where
  first : rest env route = next.frame :: rest env next.commit
  opened : Opened route
  state : next.commit.state = route.state
  ref : next.commit.ref = route.ref
  run : next.commit.run = route.run
  token : next.commit.token = route.token
  atSeq : next.commit.atSeq = route.atSeq

theorem nextFrame_offers {next : Next} (found : route.nextFrame? env = some next) : Offers env route next := by
  unfold nextFrame? at found
  split at found
  iterate 2
    · rename_i state mode
      split at found
      · cases found
      rename_i at_
      cases found
      obtain ⟨inside, rfl⟩ := List.getElem?_eq_some_iff.mp at_
      refine ⟨?_, .inl state, rfl, rfl, rfl, rfl, rfl⟩
      simp only [rest, state, mode]
      rw [drop_eq_getElem_cons inside, map_cons, cons_append]
  · rename_i state
    split at found
    · cases found
    rename_i owned others waiting
    cases found
    refine ⟨?_, .inr state, rfl, rfl, rfl, rfl, rfl⟩
    simp only [rest, state, waiting, map_cons]
  · cases found

theorem Held.handOut {next : Next} (held : Held env facts captures nextToken owner route)
    (offers : Offers env route next) (bytes : Nat) :
    Held env facts captures nextToken owner (route.handOut next bytes) := by
  obtain ⟨transfer, exact⟩ := held.exact offers.opened
  have serves := held.sound.serves exact.opened
  have whole : (route.attempt.handed ++ [next.frame]) ++ rest env next.commit =
      stream env route.run route.ref facts transfer := by
    rw [← exact.whole, offers.first]
    simp
  have begun : route.attempt.handed ++ [next.frame] <+:
      stream env route.attempt.run route.attempt.ref facts transfer := by
    rw [held.run, held.ref, ← whole]
    exact prefix_append _ _
  constructor
  · exact held.ref.trans offers.ref.symm
  · exact held.run.trans offers.run.symm
  · exact offers.run.trans held.owned
  · exact offers.token.le.trans held.token
  · simp only [Route.handOut, exact.opened]
    exact ⟨serves.ordered, serves.applied, begun⟩
  · intro preparing
    have state : route.state = .preparing := offers.state.symm.trans preparing
    have opened := offers.opened
    simp [Opened, state] at opened
  · intro _
    refine ⟨transfer, exact.opened, offers.atSeq.trans exact.point, ?_⟩
    change (route.attempt.handed ++ [next.frame]) ++ rest env next.commit =
      stream env next.commit.run next.commit.ref facts transfer
    rw [whole, offers.run, offers.ref]

theorem Held.drainRoute (ledger : Nat → Bool) (enqueue : Nat → Frame → Enqueue) (fuel : Nat) (route : Route)
    (turn : Turn) (held : Held env facts captures nextToken owner route) :
    Held env facts captures nextToken owner (drainRoute env ledger enqueue fuel route turn).1 := by
  induction fuel generalizing route turn with
  | zero => exact held
  | succ fuel ih =>
    unfold Recovery.drainRoute
    split
    · exact held
    split
    · exact held
    rename_i next found
    have offers := nextFrame_offers found
    split
    · exact held
    split
    · exact held
    split
    · exact held.fail _
    split
    · exact held.fail _
    · exact held
    · exact ih _ _ (held.handOut offers _)
    · exact held.handOut offers _

/-- Once all frames of the transfer are handed out, only `postN` is held, before and after installation. -/
theorem rest_sent (env : Env) (state : route.state = .transfer) (sent : route.unsent = false) :
    rest env { route with state := .installed, deadlineAt := none, logicalDebt := 0, frames := [], replay := none } =
      rest env route := by
  unfold unsent at sent
  cases mode : route.mode with
  | baseline | replay =>
    simp only [mode, decide_eq_false_iff_not, not_lt] at sent
    simp [rest, state, mode, drop_eq_nil_of_le sent]

theorem postN_after (numbered : Numbered Fact.seq facts) {postN : List OwnedFact} {since after : Nat}
    (kept : postN.map OwnedFact.fact = facts.drop since) (later : since ≤ after) :
    (postN.filter (fun owned => decide (after < owned.fact.seq))).map OwnedFact.fact = facts.drop after := by
  rw [← numbered.filter_drop later, ← kept, filter_map]
  rfl

/-! ### Commands of the peer -/

section

variable (held : Held env facts captures nextToken owner route)
include held

/-- What an attempt has handed out and still holds is not changed by what is accepted from its peer. -/
theorem Held.alike (waits : next.state = .preparing → route.state = .preparing)
    (holds : Opened next → Opened route ∧ rest env next = rest env route) (same : next = { next with
      ref := route.ref
      run := route.run
      token := route.token
      atSeq := route.atSeq
      postN := route.postN
      nextFrame := route.nextFrame
      mode := route.mode
      captureAttempt := route.captureAttempt
      attempt := { route.attempt with accepted := next.attempt.accepted } }) :
    Held env facts captures nextToken owner next := by
  rw [same]
  refine ⟨held.ref, held.run, held.owned, held.token, ?_, fun preparing => { held.waiting (waits preparing) with }, ?_⟩
  · have sound := held.sound
    unfold Sound at sound ⊢
    cases opened : route.attempt.transfer with
    | none => simpa only [opened] using sound
    | some =>
      simp only [opened] at sound ⊢
      exact ⟨sound.ordered, sound.applied, sound.begun⟩
  · intro opened
    obtain ⟨before, left⟩ := holds opened
    obtain ⟨transfer, exact⟩ := held.exact before
    rw [same] at left
    refine ⟨transfer, exact.opened, exact.point, ?_⟩
    rw [left]
    exact exact.whole

theorem Held.progress (command : RouteCommand) (baselineId : String) (lastParsedOrdinal : Nat) :
    Held env facts captures nextToken owner (route.progress command baselineId lastParsedOrdinal).1 := by
  unfold Route.progress
  split
  · exact held
  split
  · exact held.alike id (fun opened => ⟨opened, rfl⟩) rfl
  · exact held.alike id (fun opened => ⟨opened, rfl⟩) rfl

theorem Held.advance (appliedSeq : Nat) : Held env facts captures nextToken owner (route.advance appliedSeq) := by
  unfold Route.advance
  split
  · exact held.alike id (fun opened => ⟨opened, rfl⟩) rfl
  · exact held

theorem Held.acknowledge (command : RouteCommand) (appliedSeq : Nat) :
    Held env facts captures nextToken owner (route.acknowledge command appliedSeq).1 := by
  unfold Route.acknowledge
  split
  · exact held
  have advanced := held.advance appliedSeq
  simp only
  split
  · rename_i installing
    split
    · exact advanced
    rename_i sent
    have holds := rest_sent env installing.1 (Bool.eq_false_of_not_eq_true sent)
    exact advanced.alike (fun preparing => by cases preparing)
      (fun _ => ⟨.inl installing.1, holds⟩) rfl
  · exact advanced.alike id (fun opened => ⟨opened, rfl⟩) rfl

theorem Held.command (command : RouteCommand) : Held env facts captures nextToken owner (route.command command).1 := by
  unfold Route.command
  cases command with
  | unsubscribe => exact held.over held.sound rfl (.inr rfl)
  | appliedAck =>
    simp only
    split
    · exact held
    · exact held
    · exact held
    · exact held.acknowledge _ _
  | baselineProgress =>
    simp only
    split
    · exact held
    · exact held
    · exact held
    · exact held.progress _ _ _

/-! ### Opening an attempt -/

/-- A capture of the attempt lies between the first fact kept for it and the last fact applied. -/
theorem Held.install (numbered : Numbered Fact.seq facts)
    (preparing : route.state = .preparing) (attempted : route.captureAttempt = true)
    (descriptor : BaselineDescriptor) (vt tail : List UInt8)
    (since : facts.length - route.postN.length ≤ descriptor.atSeq) (applied : descriptor.atSeq ≤ facts.length) :
    Held env facts captures nextToken owner (route.install env descriptor vt tail) := by
  have waiting := held.waiting preparing
  have after := postN_after numbered waiting.kept since
  refine ⟨held.ref, held.run, held.owned, held.token, ?_, ?_, ?_⟩
  · refine ⟨le_refl _, applied, ?_⟩
    simp only [Route.install, waiting.silent]
    exact nil_prefix
  · intro again
    cases again
  · intro _
    refine ⟨.baseline descriptor vt tail, rfl, rfl, ?_⟩
    simp only [Route.install, waiting.silent, waiting.first, waiting.mode attempted, stream, ← after,
      nil_append, map_map]
    rfl

theorem Held.replay (preparing : route.state = .preparing)
    (empty : route.postN = []) {cursor : Nat} {chosen : List Fact} (ordered : cursor ≤ facts.length)
    (selected : chosen = (facts.drop cursor).take (facts.length - cursor)) :
    Held env facts captures nextToken owner { route with
      mode := .replay
      replay := some chosen
      atSeq := facts.length
      state := .transfer
      attempt := { route.attempt with transfer := some (.replay cursor facts.length) } } := by
  have waiting := held.waiting preparing
  have all : chosen = facts.drop cursor := by
    rw [selected]
    apply take_of_length_le
    rw [length_drop]
  refine ⟨held.ref, held.run, held.owned, held.token, ?_, ?_, ?_⟩
  · refine ⟨ordered, le_refl _, ?_⟩
    simp only [waiting.silent]
    exact nil_prefix
  · intro again
    cases again
  · intro _
    refine ⟨.replay cursor facts.length, rfl, rfl, ?_⟩
    simp [waiting.silent, waiting.first, rest, stream, empty, all]

/-- Captures under other tokens do not concern a route. -/
theorem Held.recapture {later : List Capture} {nextLater : Nat} (grown : nextToken ≤ nextLater)
    (known : ∀ capture ∈ later, capture.token = route.token → capture ∈ captures) :
    Held env facts later nextLater owner route := by
  refine ⟨held.ref, held.run, held.owned, held.token.trans grown, held.sound, ?_, held.exact⟩
  intro preparing
  have waiting := held.waiting preparing
  refine { waiting with captured := ?_ }
  intro capture member same
  exact waiting.captured capture (known capture member same) same

/-! ### The whole component -/

end

def HeldIn (env : Env) (subscriptions : Subscriptions) (route : Route) : Prop :=
  Held env (subscriptions.factsOf route.run) subscriptions.captures subscriptions.nextToken route.run route

def Recorded (record : RunRecord) : Prop := Numbered Fact.seq record.facts ∧ Follows record.facts record.replay

structure Inv (env : Env) (subscriptions : Subscriptions) : Prop where
  records : ∀ runId, Recorded (subscriptions.runs runId)
  routes : ∀ route ∈ subscriptions.routes, HeldIn env subscriptions route
  tokens : ∀ capture ∈ subscriptions.captures, capture.token ≤ subscriptions.nextToken
  past : ∀ attempt ∈ subscriptions.past, Sound env (subscriptions.factsOf attempt.run) attempt

variable {s : Subscriptions}

/-- A route at the beginning of an attempt on the command: no frame or command of the attempt is counted yet. -/
structure Fresh (command : OpenCommand) (route : Route) : Prop where
  sent : route.sent = []
  parsed : route.parsedOrdinal = -1
  debt : route.logicalDebt = 0
  sentSeq : route.sentSeq = route.appliedSeq
  cursor : ∀ cursor, command.kind.cursor = some cursor → route.appliedSeq = cursor

/-- What may be kept of every route beside its order, by the facts of its run. `Able` is what is known of the callback
a delivery turn hands its frames to. -/
structure Rules (env : Env) (Able : (Nat → Frame → Enqueue) → Prop) (Q : List Fact → Route → Prop) : Prop where
  fail : ∀ {facts} (route : Route) (reason : Failure), Q facts (route.fail reason)
  onFact : ∀ {facts captures nextToken owner route run fact} (leased : SubscriptionRef → Bool), Q facts route →
    Held env facts captures nextToken owner route → route.run.runId = run.runId → fact.seq = facts.length + 1 →
    Q (facts ++ [fact]) (route.onFact env run fact leased)
  drainRoute : ∀ {facts enqueue} (ledger : Nat → Bool) (fuel : Nat) (route : Route) (turn : Turn), Able enqueue →
    Numbered Fact.seq facts → Q facts route → Q facts (drainRoute env ledger enqueue fuel route turn).1
  command : ∀ {facts route} (command : RouteCommand), Q facts route → Q facts (route.command command).1
  markerEnqueued : ∀ {facts route} (requestId : String) (ref : SubscriptionRef), Q facts route →
    Q facts (route.markerEnqueued requestId ref)
  begins : ∀ {facts route} (command : OpenCommand), route.state = .preparing → route.attempt.accepted = [] →
    Fresh command route → Q facts route
  await : ∀ {facts route}, Q facts route → route.state = .preparing →
    Q facts { route with mode := .baseline, captureAttempt := true }
  replay : ∀ {facts captures nextToken owner route cursor chosen}, Q facts route →
    Held env facts captures nextToken owner route → route.state = .preparing → route.postN = [] →
    cursor ≤ facts.length → chosen = (facts.drop cursor).take (facts.length - cursor) → route.appliedSeq = cursor →
    Q facts
      { route with
        mode := .replay
        replay := some chosen
        atSeq := facts.length
        state := .transfer
        attempt := { route.attempt with transfer := some (.replay cursor facts.length) } }
  install : ∀ {facts captures nextToken owner route} (descriptor : BaselineDescriptor) (vt tail : List UInt8),
    Q facts route → Held env facts captures nextToken owner route → Numbered Fact.seq facts →
    route.state = .preparing → route.captureAttempt = true →
    facts.length - route.postN.length ≤ descriptor.atSeq → descriptor.atSeq ≤ facts.length →
    Q facts (route.install env descriptor vt tail)

structure Kept (env : Env) (Q : List Fact → Route → Prop) (subscriptions : Subscriptions) : Prop where
  inv : Inv env subscriptions
  each : ∀ route ∈ subscriptions.routes, Q (subscriptions.factsOf route.run) route

variable {Able : (Nat → Frame → Enqueue) → Prop} {Q : List Fact → Route → Prop} {enqueue : Nat → Frame → Enqueue}

theorem Kept.new (env : Env) : Kept env Q (new env) := by
  refine ⟨⟨fun _ => ⟨Numbered.nil, Follows.new _ _⟩, ?_, ?_, ?_⟩, ?_⟩ <;>
    · intro _ member
      cases member

theorem Kept.of (records : ∀ runId, Recorded (s.runs runId))
    (routes : ∀ route ∈ s.routes, HeldIn env s route ∧ Q (s.factsOf route.run) route)
    (tokens : ∀ capture ∈ s.captures, capture.token ≤ s.nextToken)
    (past : ∀ attempt ∈ s.past, Sound env (s.factsOf attempt.run) attempt) : Kept env Q s :=
  ⟨⟨records, fun route member => (routes route member).1, tokens, past⟩, fun route member => (routes route member).2⟩

theorem Held.kept (held : Held env (s.factsOf owner) s.captures s.nextToken owner route)
    (q : Q (s.factsOf owner) route) : HeldIn env s route ∧ Q (s.factsOf route.run) route := by
  have same := held.owned
  subst same
  exact ⟨held, q⟩

theorem find_mem {ref : SubscriptionRef} (found : s.find ref = some route) : route ∈ s.routes ∧ route.ref = ref := by
  refine ⟨mem_of_find?_eq_some found, ?_⟩
  have same := find?_some found
  exact eq_of_beq same

section

variable (kept : Kept env Q s)
include kept

theorem Kept.map {change : Route → Route}
    (keeps : ∀ route ∈ s.routes, Held env (s.factsOf route.run) s.captures s.nextToken route.run (change route) ∧
      Q (s.factsOf route.run) (change route)) : Kept env Q { s with routes := s.routes.map change } := by
  refine Kept.of kept.inv.records ?_ kept.inv.tokens kept.inv.past
  intro route member
  obtain ⟨before, inside, rfl⟩ := List.mem_map.mp member
  exact (keeps before inside).1.kept (s := s) (keeps before inside).2

theorem Kept.put (changed : HeldIn env s next ∧ Q (s.factsOf next.run) next) : Kept env Q (s.put next) := by
  refine Kept.of kept.inv.records ?_ kept.inv.tokens kept.inv.past
  intro route member
  obtain ⟨before, inside, rfl⟩ := List.mem_map.mp member
  split
  · exact changed
  · exact ⟨kept.inv.routes before inside, kept.each before inside⟩

theorem Kept.command (rules : Rules env Able Q) (ref : SubscriptionRef) (command : RouteCommand) :
    Kept env Q (s.command ref command).1 := by
  unfold Subscriptions.command
  split
  · exact kept
  rename_i route found
  have member := (find_mem found).1
  exact kept.put (((kept.inv.routes route member).command command).kept (rules.command command (kept.each route member)))

end

theorem Kept.removeAll (routes : List Route) (kept : Kept env Q s) (held : ∀ route ∈ routes, HeldIn env s route) :
    Kept env Q (s.removeAll routes) := by
  induction routes generalizing s with
  | nil => exact kept
  | cons route others ih =>
    have removed : Kept env Q (s.remove route) := by
      refine ⟨⟨kept.inv.records, ?_, kept.inv.tokens, ?_⟩, ?_⟩
      · intro other member
        exact kept.inv.routes other (mem_of_mem_filter member)
      · intro attempt member
        rcases mem_snoc member with before | rfl
        · exact kept.inv.past attempt before
        have gone := held route mem_cons_self
        rw [gone.run]
        exact gone.sound
      · intro other member
        exact kept.each other (mem_of_mem_filter member)
    apply ih removed
    intro other member
    exact held other (mem_cons_of_mem route member)

theorem Kept.shutdown (kept : Kept env Q s) : Kept env Q (shutdown s) := kept.removeAll s.routes kept.inv.routes

/-- What a route keeps while it is served, every route keeps while its turn lasts. -/
theorem drainRoutes_forall {P : Route → Prop} {ledger : Nat → Bool}
    (serves : ∀ budget route turn, P route → P (drainRoute env ledger enqueue budget route turn).1)
    (routes : List Route) (turn : Turn) (all : ∀ route ∈ routes, P route) :
    ∀ route ∈ (drainRoutes env ledger enqueue routes turn).1, P route := by
  induction routes generalizing turn with
  | nil =>
    intro route member
    cases member
  | cons first others ih =>
    unfold drainRoutes
    split
    · intro route member
      rcases mem_cons.mp member with served | later
      · subst served
        have kept := all first mem_cons_self
        split
        · exact kept
        · exact serves _ first turn kept
      · exact ih _ (fun route inside => all route (mem_cons_of_mem first inside)) route later
    · exact all

theorem Kept.drain (kept : Kept env Q s) (rules : Rules env Able Q) (ledger : Nat → Bool) (able : Able enqueue) :
    Kept env Q (drain env s ledger enqueue) := by
  have delivered : Kept env Q (deliverTurn env s ledger enqueue).1 := by
    unfold deliverTurn
    simp only
    split
    · exact kept
    refine Kept.of kept.inv.records ?_ kept.inv.tokens kept.inv.past
    intro route member
    refine drainRoutes_forall (P := fun route => HeldIn env s route ∧ Q (s.factsOf route.run) route) ?_ _ _ ?_ route
      (mem_rotate.mp member)
    · rintro budget route turn ⟨held, q⟩
      exact (Held.drainRoute ledger enqueue budget route turn held).kept
        (rules.drainRoute ledger budget route turn able (kept.inv.records _).1 q)
    · intro other turned
      have inside := mem_rotate.mp turned
      exact ⟨kept.inv.routes other inside, kept.each other inside⟩
  unfold Recovery.drain
  simp only
  split
  · exact delivered.shutdown
  · exact delivered

variable (runs : String → RunRecord)

theorem update_facts (runId other : String) (record : RunRecord) :
    (Function.update runs runId record other).facts = if other = runId then record.facts else (runs other).facts := by
  by_cases equal : other = runId
  · rw [equal, update_self, if_pos rfl]
  · rw [update_of_ne equal, if_neg equal]

theorem update_recorded {runs : String → RunRecord} (recorded : ∀ runId, Recorded (runs runId)) (runId : String)
    {record : RunRecord} (new : Recorded record) (other : String) :
    Recorded (Function.update runs runId record other) := by
  by_cases equal : other = runId
  · rw [equal, update_self]
    exact new
  · rw [update_of_ne equal]
    exact recorded other

theorem Kept.applyFact (kept : Kept env Q s) (rules : Rules env Able Q) (run : RunRef) (fact : Fact)
    (grant : Nat → Bool) (leased : SubscriptionRef → Bool) : Kept env Q (applyFact env s run fact grant leased) := by
  unfold Recovery.applyFact
  simp only
  split
  · rename_i seq
    obtain ⟨numbered, follows⟩ := kept.inv.records run.runId
    refine Kept.of ?_ ?_ kept.inv.tokens ?_
    · exact update_recorded kept.inv.records run.runId ⟨numbered.append seq, follows.append env.units grant seq⟩
    · intro route member
      obtain ⟨before, inside, rfl⟩ := List.mem_map.mp member
      have held := kept.inv.routes before inside
      have q := kept.each before inside
      by_cases equal : before.run.runId = run.runId
      · rw [← equal] at seq
        refine Held.kept (?_ : Held env _ s.captures s.nextToken before.run _) ?_
        · rw [factsOf, update_facts, if_pos equal, ← equal]
          exact held.onFact equal seq leased
        · rw [factsOf, update_facts, if_pos equal, ← equal]
          exact rules.onFact leased q held equal seq
      · unfold onFact
        rw [if_pos (.inl equal)]
        unfold HeldIn
        rw [factsOf, update_facts, if_neg equal]
        exact ⟨held, q⟩
    · intro attempt member
      have sound := kept.inv.past attempt member
      rw [factsOf, update_facts]
      split
      · rename_i equal
        rw [← equal]
        exact sound.mono [fact]
      · exact sound
  · exact kept

/-- A window that changes without its facts changes nothing for the routes. -/
theorem Kept.rewindow (kept : Kept env Q s) (runId : String) {replay : Window}
    (shrinks : Shrinks (s.runs runId).replay replay) : Kept env Q { s with
        runs := Function.update s.runs runId { s.runs runId with replay := replay } } := by
  have facts : ∀ other, (Function.update s.runs runId
      { s.runs runId with replay := replay } other).facts = (s.runs other).facts := by
    intro other
    rw [update_facts]
    split
    · rename_i equal
      rw [equal]
    · rfl
  obtain ⟨numbered, follows⟩ := kept.inv.records runId
  refine Kept.of (update_recorded kept.inv.records runId ⟨numbered, follows.shrink shrinks⟩) ?_ kept.inv.tokens ?_
  · intro route member
    unfold HeldIn factsOf
    rw [facts]
    exact ⟨kept.inv.routes route member, kept.each route member⟩
  · intro attempt member
    unfold factsOf
    rw [facts]
    exact kept.inv.past attempt member

theorem settle_token (token : Nat) (result : CaptureResult) (capture : Capture) :
    (capture.settle runs token result).token = capture.token ∧
      (capture.settle runs token result).runId = capture.runId := by
  unfold Capture.settle
  split
  · exact ⟨rfl, rfl⟩
  split
  · split <;> exact ⟨rfl, rfl⟩
  · exact ⟨rfl, rfl⟩

theorem settle_ready (token : Nat) (result : CaptureResult) (capture : Capture)
    {baseline : Engine.EngineBaseline} (ready : (capture.settle runs token result).result = some (.ready baseline)) :
    capture.result = some (.ready baseline) ∨ baseline.atSeq = (runs capture.runId).facts.length := by
  unfold Capture.settle at ready
  split at ready
  · exact .inl ready
  split at ready
  · split at ready
    · rename_i last
      cases ready
      exact .inr last
    · exact .inl ready
  · rename_i other
    simp only [Option.some.injEq] at ready
    exact absurd ready (other baseline)

theorem Kept.captured (kept : Kept env Q s) (token : Nat) (result : CaptureResult) : Kept env Q { s with
      captures := s.captures.map (Capture.settle s.runs token result) } := by
  refine ⟨⟨kept.inv.records, ?_, ?_, kept.inv.past⟩, kept.each⟩
  · intro route member
    have held := kept.inv.routes route member
    refine ⟨held.ref, held.run, held.owned, held.token, held.sound, ?_, held.exact⟩
    intro preparing
    have waiting := held.waiting preparing
    refine { waiting with captured := ?_ }
    intro capture inside same
    obtain ⟨before, listed, rfl⟩ := List.mem_map.mp inside
    obtain ⟨tokens, runs⟩ := settle_token s.runs token result before
    rw [tokens] at same
    obtain ⟨owner, bounds⟩ := waiting.captured before listed same
    refine ⟨runs.trans owner, ?_⟩
    intro baseline ready
    rcases settle_ready s.runs token result before ready with known | last
    · exact bounds baseline known
    · rw [last, owner]
      exact ⟨Nat.sub_le _ _, le_refl _⟩
  · intro capture inside
    obtain ⟨before, listed, rfl⟩ := List.mem_map.mp inside
    rw [(settle_token s.runs token result before).1]
    exact kept.inv.tokens before listed

/-- The moment an attempt begins: its route keeps nothing yet, and no capture or other route has its token. -/
structure Opening (env : Env) (subscriptions : Subscriptions) (route : Route) : Prop where
  records : ∀ runId, Recorded (subscriptions.runs runId)
  others : ∀ other ∈ subscriptions.routes, other.ref ≠ route.ref →
    HeldIn env subscriptions other ∧ other.token < route.token
  tokens : ∀ capture ∈ subscriptions.captures, capture.token < route.token
  past : ∀ attempt ∈ subscriptions.past, Sound env (subscriptions.factsOf attempt.run) attempt
  token : route.token = subscriptions.nextToken
  preparing : route.state = .preparing
  empty : route.postN = []
  first : route.nextFrame = 0
  idle : route.captureAttempt = false
  before : route.atSeq ≤ (subscriptions.factsOf route.run).length
  attempt : route.attempt =
    { token := route.token, ref := route.ref, run := route.run, transfer := none, handed := [], accepted := [] }

section

variable (opening : Opening env s route)
include opening

theorem Opening.held : HeldIn env s route := by
  constructor
  · rw [opening.attempt]
  · rw [opening.attempt]
  · rfl
  · exact opening.token.le
  · rw [opening.attempt]
    rfl
  · intro _
    constructor
    · rw [opening.attempt]
    · rw [opening.attempt]
    · exact opening.first
    · intro attempted
      rw [opening.idle] at attempted
      cases attempted
    · exact opening.before
    · rw [opening.empty]
      exact zero_le
    · rw [opening.empty]
      simp
    · intro capture member same
      exact absurd same (opening.tokens capture member).ne
  · intro opened
    simp [Opened, opening.preparing] at opened

/-- The route takes its way; a capture that starts for it has its token. -/
theorem Opening.close {later : List Capture}
    (held : Held env (s.factsOf next.run) later s.nextToken next.run next) (q : Q (s.factsOf next.run) next)
    (others : ∀ other ∈ s.routes, other.ref ≠ route.ref → Q (s.factsOf other.run) other) (ref : next.ref = route.ref)
    (own : ∀ capture ∈ later, capture ∈ s.captures ∨ capture.token = route.token) :
    Kept env Q { s.put next with captures := later } := by
  refine Kept.of opening.records ?_ ?_ opening.past
  · intro route member
    obtain ⟨before, inside, rfl⟩ := List.mem_map.mp member
    split
    · exact ⟨held, q⟩
    rename_i different
    rw [ref] at different
    obtain ⟨other, older⟩ := opening.others before inside different
    refine ⟨other.recapture (le_refl _) ?_, others before inside different⟩
    intro capture listed same
    apply (own capture listed).resolve_right
    omega
  · intro capture listed
    have newest := opening.token
    rcases own capture listed with known | new
    · exact ((opening.tokens capture known).le).trans newest.le
    · exact new.le.trans newest.le

/-- While its capture is under way, the attempt waits with nothing kept yet. -/
theorem Opening.await : Held env (s.factsOf route.run) (s.captures ++
        [{ token := route.token, ref := route.ref, runId := route.run.runId, result := none }])
      s.nextToken route.run { route with mode := .baseline, captureAttempt := true } := by
  have held := opening.held
  have waiting := held.waiting opening.preparing
  refine ⟨held.ref, held.run, rfl, held.token, held.sound, ?_, ?_⟩
  · intro _
    refine ⟨waiting.unopened, waiting.silent, waiting.first, fun _ => rfl, waiting.before, waiting.few,
      waiting.kept, ?_⟩
    intro capture listed same
    rcases mem_snoc listed with known | rfl
    · exact absurd same (opening.tokens capture known).ne
    refine ⟨rfl, ?_⟩
    intro baseline ready
    cases ready
  · intro opened
    simp [Opened, opening.preparing] at opened

theorem beginTransfer_kept (rules : Rules env Able Q) {command : OpenCommand} (fresh : Fresh command route)
    (others : ∀ other ∈ s.routes, other.ref ≠ route.ref → Q (s.factsOf other.run) other) (references : Bool) :
    Kept env Q (beginTransfer s route command.kind references).1 := by
  have held := opening.held
  have q : Q (s.factsOf route.run) route := by
    apply rules.begins command opening.preparing _ fresh
    rw [opening.attempt]
  obtain ⟨numbered, follows⟩ := opening.records route.run.runId
  have settle : ∀ {next : Route}, HeldIn env s next ∧ Q (s.factsOf next.run) next → next.ref = route.ref →
      Kept env Q (s.put next) := fun changed ref =>
    opening.close changed.1 changed.2 others ref (fun _ listed => .inl listed)
  have awaits : Kept env Q (beginCapture s route) := by
    apply opening.close opening.await (rules.await q opening.preparing) others rfl
    intro capture listed
    rcases mem_snoc listed with known | rfl
    · exact .inl known
    · exact .inr rfl
  unfold beginTransfer
  simp only
  split
  · exact settle ⟨held.fail _, rules.fail _ _⟩ rfl
  by_cases positive : command.kind.cursor.getD 0 > 0
  · simp only [if_pos positive]
    split
    · rename_i chosen selected
      have stretch := follows.select numbered selected
      have cursor : route.appliedSeq = command.kind.cursor.getD 0 := by
        cases given : command.kind.cursor with
        | none => simp [given] at positive
        | some seq => exact fresh.cursor seq given
      have ordered := stretch.1.trans stretch.2.1
      have all := follows.latest ▸ stretch.2.2
      have served := held.replay opening.preparing opening.empty ordered all
      rw [follows.latest]
      exact (settle (served.kept (rules.replay q held opening.preparing opening.empty ordered all cursor)) rfl).rewindow
        route.run.runId (select_shrinks _ _ _ _)
    · exact awaits
  · simp only [if_neg positive]
    exact awaits

end

theorem refusal_none {command : OpenCommand} (admitted : refusal s command (some route) = none) :
    ¬(route.state = .tombstone ∨ route.state = .retiring) := by
  rintro (tombstone | retiring)
  · cases kind : command.kind <;> simp [refusal, kind, tombstone] at admitted
  · cases kind : command.kind <;> simp [refusal, kind, retiring] at admitted

theorem begin_fresh (command : OpenCommand) (token now : Nat) (sent : route.sent = [])
    (parsed : route.parsedOrdinal = -1) (debt : route.logicalDebt = 0) :
    Fresh command (route.begin env command token now) := by
  refine ⟨sent, parsed, debt, rfl, ?_⟩
  intro cursor given
  cases kind : command.kind with
  | subscribe atSeq | recover appliedSeq =>
    rw [kind] at given
    cases given
    simp [begin, kind]

/-- Either nothing is opened, or an attempt begins on a route of the subscription while the others stay. -/
theorem openRoute_cases (inv : Inv env s) (command : OpenCommand) (run : RunRef) (leases : OpenLeases) (now : Nat) :
    (openRoute env s command run leases now).1 = s ∨ ∃ begun route, (openRoute env s command run leases now).1 =
        (beginTransfer begun route command.kind leases.references).1 ∧
      Opening env begun route ∧ Fresh command route ∧ begun.runs = s.runs ∧
      ∀ other ∈ begun.routes, other.ref ≠ route.ref → other ∈ s.routes := by
  have older : ∀ capture ∈ s.captures, capture.token < s.nextToken + 1 := by
    intro capture listed
    exact Nat.lt_succ_of_le (inv.tokens capture listed)
  have kept : ∀ other ∈ s.routes,
      Held env (s.factsOf other.run) s.captures (s.nextToken + 1) other.run
          other ∧ other.token < s.nextToken + 1 := by
    intro other inside
    have held := inv.routes other inside
    exact ⟨held.recapture (Nat.le_succ _) (fun _ listed _ => listed), Nat.lt_succ_of_le held.token⟩
  unfold openRoute
  simp only
  split
  · exact .inl rfl
  rename_i admitted
  split
  · rename_i route found
    rw [found] at admitted
    have held := inv.routes route (find_mem found).1
    have same : ∀ other ∈ s.routes.map (fun old =>
        if old.ref = (route.fence.begin env command (s.nextToken + 1) now).ref then
          route.fence.begin env command (s.nextToken + 1) now else old),
        other.ref ≠ (route.fence.begin env command (s.nextToken + 1) now).ref →
        other ∈ s.routes := by
      intro other member different
      obtain ⟨before, inside, rfl⟩ := List.mem_map.mp member
      split
      · rename_i equal
        rw [if_pos equal] at different
        exact absurd rfl different
      · exact inside
    refine .inr ⟨_, _, rfl, ?_, begin_fresh command _ now rfl rfl rfl, rfl, same⟩
    refine ⟨inv.records, ?_, older, ?_, rfl, rfl, rfl, rfl, rfl, held.atSeq_le (refusal_none admitted), rfl⟩
    · intro other member different
      exact kept other (same other member different)
    · intro attempt member
      rcases mem_snoc member with before | rfl
      · exact inv.past attempt before
      · rw [held.run]
        exact held.sound
  · split
    · exact .inl rfl
    have same : ∀ other ∈ s.routes ++
        [(new command.subscription run).begin env command (s.nextToken + 1) now],
        other.ref ≠ command.subscription → other ∈ s.routes := by
      intro other member different
      rcases mem_snoc member with inside | rfl
      · exact inside
      · exact absurd rfl different
    refine .inr ⟨_, _, rfl, ?_, begin_fresh command _ now rfl rfl rfl, rfl, same⟩
    refine ⟨inv.records, ?_, older, inv.past, rfl, rfl, rfl, rfl, rfl, zero_le, rfl⟩
    intro other member different
    exact kept other (same other member different)

theorem Kept.openRoute (kept : Kept env Q s) (rules : Rules env Able Q) (command : OpenCommand) (run : RunRef)
    (leases : OpenLeases) (now : Nat) : Kept env Q (openRoute env s command run leases now).1 := by
  rcases openRoute_cases kept.inv command run leases now with
    unchanged | ⟨begun, route, begins, opening, fresh, runs, others⟩
  · rw [unchanged]
    exact kept
  · rw [begins]
    apply beginTransfer_kept opening rules fresh
    intro other member different
    rw [factsOf, runs]
    exact kept.each other (others other member different)

def released (subscriptions : Subscriptions) (token count : Nat) : Subscriptions :=
  { subscriptions with
    captures := subscriptions.captures.filter (fun capture => capture.token != token), nextBaseline := count }

/-- The end of a wait leaves the routes alone, fails the waiting one, or gives it the captured screen. -/
theorem finishOpen_cases (env : Env) (s : Subscriptions) (token : Nat) (expired frameLease : Bool) :
    (finishOpen env s token expired frameLease).1 = s ∨
    ∃ count, (finishOpen env s token expired frameLease).1 = released s token count ∨ ∃ route ∈ s.routes,
        (∃ reason, (finishOpen env s token expired frameLease).1 = (released s token count).put (route.fail reason)) ∨
        ∃ capture ∈ s.captures, ∃ baseline descriptor, route.state = .preparing ∧
          route.captureAttempt = true ∧ capture.token = route.token ∧ capture.result = some (.ready baseline) ∧
          descriptor.atSeq = baseline.atSeq ∧ (finishOpen env s token expired frameLease).1 =
            (released s token count).put (route.install env descriptor baseline.vt baseline.tail) := by
  unfold finishOpen
  split
  · exact .inl rfl
  rename_i capture found
  have listed := mem_of_find?_eq_some found
  have tokens : capture.token = token := by
    have same := find?_some found
    exact eq_of_beq same
  split
  · exact .inl rfl
  right
  simp only
  split
  · exact ⟨s.nextBaseline, .inl rfl⟩
  rename_i route waits
  have member := (find_mem waits).1
  split
  · exact ⟨s.nextBaseline, .inl rfl⟩
  rename_i current
  simp only [not_or, not_not, Bool.not_eq_false] at current
  obtain ⟨attempted, same, preparing⟩ := current
  split
  · exact ⟨s.nextBaseline, .inr ⟨route, member, .inl ⟨_, rfl⟩⟩⟩
  · exact ⟨s.nextBaseline, .inr ⟨route, member, .inl ⟨_, rfl⟩⟩⟩
  · exact ⟨s.nextBaseline, .inr ⟨route, member, .inl ⟨_, rfl⟩⟩⟩
  rename_i baseline result
  have ready : capture.result = some (.ready baseline) := by
    cases expired with
    | true => cases result
    | false => exact result
  unfold installBaseline
  simp only
  split
  · exact ⟨s.nextBaseline, .inr ⟨route, member, .inl ⟨_, rfl⟩⟩⟩
  split
  · exact ⟨s.nextBaseline, .inr ⟨route, member, .inl ⟨_, rfl⟩⟩⟩
  refine ⟨s.nextBaseline + 1, .inr ⟨route, member, ?_⟩⟩
  split
  · exact .inl ⟨_, rfl⟩
  split
  · exact .inl ⟨_, rfl⟩
  · exact .inr ⟨capture, listed, baseline, _, preparing, attempted, tokens.trans same.symm,
      ready, rfl, rfl⟩

theorem Kept.released (kept : Kept env Q s) (token count : Nat) : Kept env Q (released s token count) := by
  refine ⟨⟨kept.inv.records, ?_, ?_, kept.inv.past⟩, kept.each⟩
  · intro route member
    exact (kept.inv.routes route member).recapture (le_refl _) (fun _ inside _ => mem_of_mem_filter inside)
  · intro other member
    exact kept.inv.tokens other (mem_of_mem_filter member)

theorem Kept.finishOpen (kept : Kept env Q s) (rules : Rules env Able Q) (token : Nat) (expired frameLease : Bool) :
    Kept env Q (finishOpen env s token expired frameLease).1 := by
  rcases finishOpen_cases env s token expired frameLease with
    unchanged | ⟨count, left | ⟨route, member, ⟨reason, failed⟩ | ⟨capture, listed, baseline, descriptor, ready⟩⟩⟩
  · rw [unchanged]
    exact kept
  · rw [left]
    exact kept.released token count
  · rw [failed]
    have fewer := kept.released token count
    exact fewer.put ⟨(fewer.inv.routes route member).fail reason, rules.fail route reason⟩
  · obtain ⟨preparing, attempted, tokens, result, point, installs⟩ := ready
    have fewer := kept.released token count
    have held := fewer.inv.routes route member
    have numbered := (kept.inv.records route.run.runId).1
    have waiting := (kept.inv.routes route member).waiting preparing
    obtain ⟨since, applied⟩ := (waiting.captured capture listed tokens).2 baseline result
    rw [installs]
    rw [← point] at since applied
    exact fewer.put ((held.install numbered preparing attempted descriptor _ _ since applied).kept
      (rules.install descriptor _ _ (kept.each route member) held numbered preparing attempted since applied))

theorem Kept.step (kept : Kept env Q s) (rules : Rules env Able Q) (event : Event)
    (able : ∀ ledger enqueue, event = .drain ledger enqueue → Able enqueue) : Kept env Q (step env s event) := by
  cases event with
  | fact run fact grant leased => exact kept.applyFact rules run fact grant leased
  | reclaim runId index => exact kept.rewindow runId (evictAt_shrinks _ index)
  | openRoute command run leases now => exact kept.openRoute rules command run leases now
  | captured token result => exact kept.captured token result
  | finishOpen token expired frameLease => exact kept.finishOpen rules token expired frameLease
  | command ref command => exact kept.command rules ref command
  | markerEnqueued ref requestId =>
    apply kept.map
    intro route member
    refine ⟨?_, rules.markerEnqueued requestId ref (kept.each route member)⟩
    have held := kept.inv.routes route member
    unfold markerEnqueued
    split
    · exact held.alike id (fun opened => ⟨opened, rfl⟩) rfl
    · exact held
  | responseSettled =>
    apply kept.removeAll
    intro route member
    exact kept.inv.routes route (mem_of_mem_filter member)
  | drain ledger enqueue => exact kept.drain rules ledger (able ledger enqueue rfl)
  | timer =>
    apply kept.map
    intro route member
    have held := kept.inv.routes route member
    unfold expire
    split
    · exact ⟨held.fail _, rules.fail route _⟩
    · exact ⟨held, kept.each route member⟩
  | shutdown => exact kept.shutdown

theorem run_kept (rules : Rules env Able Q) (events : List Event)
    (able : ∀ event ∈ events, ∀ ledger enqueue, event = .drain ledger enqueue → Able enqueue) :
    Kept env Q (run (step env) (new env) events) :=
  run_invariant_of (Kept env Q) (Kept.new env) (fun _ event able kept => kept.step rules event able) events able

theorem run_inv (env : Env) (events : List Event) : Inv env (run (step env) (new env) events) := by
  have unruled : Rules env (fun _ => True) (fun _ _ => True) := by
    constructor <;> intros <;> trivial
  exact (run_kept unruled events (fun _ _ _ _ _ => trivial)).inv

/-! ### What a peer is sent -/

def frameOf (env : Env) (attempt : Attempt) (terminal : Terminal) (payload : List UInt8) : Frame where
  event := { worker := env.worker, run := attempt.run, subscription := some attempt.ref, terminal := terminal }
  payload := payload

/-- The frames handed out for an attempt, when its run has applied these facts: a beginning of the start, the chunks,
the end and the facts after the captured one, or of the facts after the cursor through the opening of the attempt and
those after it. -/
def InOrder (env : Env) (facts : List Fact) (attempt : Attempt) : Prop :=
  match attempt.transfer with
  | none => attempt.handed = []
  | some (.baseline descriptor vt tail) =>
    ∃ chunks : List (List UInt8), chunks.flatten = vt ++ tail ∧
      attempt.handed <+:
        [frameOf env attempt (.baselineStart attempt.run descriptor) []] ++
        chunks.mapIdx (fun ordinal bytes =>
          frameOf env attempt (.baselineChunk attempt.run descriptor.baselineId attempt.ref ordinal) bytes) ++
        [frameOf env attempt (.baselineEnd attempt.run descriptor.baselineId attempt.ref descriptor.chunkCount
          (vt.length + tail.length) descriptor.atSeq) []] ++
        (facts.drop descriptor.atSeq).map (factFrame env attempt.run attempt.ref)
  | some (.replay cursor atSeq) =>
    cursor ≤ atSeq ∧ attempt.handed <+:
      ((facts.drop cursor).take (atSeq - cursor)).map (factFrame env attempt.run attempt.ref) ++
        (facts.drop atSeq).map (factFrame env attempt.run attempt.ref)

theorem map_frame_mapIdx (chunks : List (List UInt8)) (frame : Nat → List UInt8 → TransferFrame) :
    (chunks.mapIdx frame).map TransferFrame.frame =
      chunks.mapIdx (fun ordinal bytes => (frame ordinal bytes).frame) := by
  rw [mapIdx_eq_zipIdx_map, mapIdx_eq_zipIdx_map, map_map]
  rfl

theorem Sound.inOrder (sound : Sound env facts attempt) : InOrder env facts attempt := by
  unfold InOrder
  unfold Sound at sound
  split
  · rename_i unopened
    simpa only [unopened] using sound
  · rename_i descriptor vt tail opened
    simp only [opened] at sound
    refine ⟨baselineChunks vt tail, ?_, ?_⟩
    · have positive : 0 < chunkBytes := by decide
      rw [baselineChunks, flatten_append, flatten_chunksOf positive, flatten_chunksOf positive]
    · have begun := sound.begun
      simp only [stream, baselineFrames, map_append, map_frame_mapIdx] at begun
      exact begun
  · rename_i cursor atSeq opened
    simp only [opened] at sound
    have ordered : cursor ≤ atSeq := sound.ordered
    have begun := sound.begun
    refine ⟨ordered, ?_⟩
    rw [stream, ← take_append_drop (atSeq - cursor) (facts.drop cursor), drop_drop, map_append,
      Nat.add_sub_cancel' ordered] at begun
    exact begun

/-- Recovery is gap-free: what an attempt has handed out is always a beginning of its stream, and a route that is not
fenced has handed out or still holds all of it. -/
theorem recovery_gap_free (env : Env) (events : List Event) :
    let subscriptions := run (step env) (new env) events
    (∀ runId, Numbered Fact.seq (subscriptions.runs runId).facts) ∧
    (∀ attempt ∈ subscriptions.attempts, InOrder env (subscriptions.factsOf attempt.run) attempt) ∧
    (∀ route ∈ subscriptions.routes, route.state = .preparing →
      route.attempt.handed = [] ∧
      route.postN.map OwnedFact.fact =
        (subscriptions.factsOf route.run).drop ((subscriptions.factsOf route.run).length - route.postN.length)) ∧
    (∀ route ∈ subscriptions.routes, route.state = .transfer ∨ route.state = .installed →
      ∃ transfer, route.attempt.transfer = some transfer ∧
        route.attempt.handed ++ rest env route =
          stream env route.run route.ref (subscriptions.factsOf route.run) transfer) := by
  intro subscriptions
  have inv : Inv env subscriptions := run_inv env events
  refine ⟨fun runId => (inv.records runId).1, ?_, ?_, ?_⟩
  · intro attempt member
    rcases mem_append.mp member with ended | current
    · exact (inv.past attempt ended).inOrder
    obtain ⟨route, inside, rfl⟩ := List.mem_map.mp current
    have held := inv.routes route inside
    rw [held.run]
    exact held.sound.inOrder
  · intro route inside preparing
    have waiting := (inv.routes route inside).waiting preparing
    exact ⟨waiting.silent, waiting.kept⟩
  · intro route inside opened
    obtain ⟨transfer, exact⟩ := (inv.routes route inside).exact opened
    exact ⟨transfer, exact.opened, exact.whole⟩

/-! ### A replay is not framed -/

section Replay

def worker : WorkerRef := ⟨"s", "i", "w", "n"⟩
def terminalRun : RunRef := ⟨"s", "i", "r"⟩
def subscription : SubscriptionRef := ⟨terminalRun, ⟨"c", 1⟩, "p", "v"⟩

def replayEnv : Env where
  worker := worker
  budgets := Cove.Protocol.Budgets.m0Limits
  encodedBytes := fun _ => 100
  units := fun _ => 50

def replayEvents : List Event :=
  [.fact terminalRun ⟨.output terminalRun 1, [104]⟩ (fun _ => true) (fun _ => true),
    .fact terminalRun ⟨.output terminalRun 2, [105]⟩ (fun _ => true) (fun _ => true),
    .openRoute ⟨"q", subscription, .subscribe 1⟩ terminalRun ⟨true, true, true⟩ 0,
    .markerEnqueued subscription "q",
    .drain (fun _ => true) (fun _ frame => .accepted (framedBytes replayEnv frame))]

def replayAttempt : Attempt where
  token := 1
  ref := subscription
  run := terminalRun
  transfer := some (.replay 1 2)
  handed := [factFrame replayEnv terminalRun subscription ⟨.output terminalRun 2, [105]⟩]
  accepted := []

/-- No frame that is not itself a fact starts or ends a replay. -/
theorem replay_unframed :
    let subscriptions := run (step replayEnv) (new replayEnv) replayEvents
    ¬∀ attempt ∈ subscriptions.attempts, ∀ cursor atSeq, attempt.transfer = some (.replay cursor atSeq) →
      ∃ start finish : Frame, (∀ event, start.event.terminal ≠ .runEvent event) ∧
        (∀ event, finish.event.terminal ≠ .runEvent event) ∧
        attempt.handed <+: [start] ++
          (((subscriptions.factsOf attempt.run).drop cursor).take (atSeq - cursor)).map
            (factFrame replayEnv attempt.run attempt.ref) ++ [finish] ++
          ((subscriptions.factsOf attempt.run).drop atSeq).map (factFrame replayEnv attempt.run attempt.ref) := by
  intro subscriptions claimed
  have member : replayAttempt ∈ subscriptions.attempts := by
    exact mem_singleton_self _
  obtain ⟨start, finish, notFact, _, begun⟩ := claimed replayAttempt member 1 2 rfl
  have first := (cons_prefix_cons.mp begun).1
  apply notFact (.output terminalRun 2)
  rw [← first]
  rfl

end Replay

end Cove.Worker.RecoveryOrder
