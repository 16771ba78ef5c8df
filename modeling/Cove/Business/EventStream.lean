import Cove.Base.Run
import Cove.Protocol.Business
import Cove.Protocol.Identity
import Mathlib.Tactic

/-!
The publication order of business changes. Committed batches are numbered, kept in a window that is
bounded by count and by bytes, and delivered to subscribers that follow the numbering from a cursor
of their own.
-/

namespace Cove.Business.EventStream
open Base.Run Protocol.Business Protocol.Identity Function List

/-- Limits below one are refused by the constructor. -/
structure BusinessWindowLimits where
  bytes : Nat
  items : Nat
  subscriptions : Nat
  bytes_pos : 1 ≤ bytes
  items_pos : 1 ≤ items
  subscriptions_pos : 1 ≤ subscriptions

/-- What the stream is built with: its identity, the identifiers `createId` will hand out, and the
schema and encoding of changes. -/
structure Env (ρ : Type) where
  serverId : String
  relayInstanceId : String
  limits : BusinessWindowLimits
  createId : Nat → String
  parses : BusinessChange ρ → Bool
  encodedBytes : List (BusinessChange ρ) → Nat

structure Batch (ρ : Type) where
  sequence : Nat
  changes : List (BusinessChange ρ)
  bytes : Nat

inductive Frame (ρ : Type) where
  | changes (after cursor : BusinessCursor) (changes : List (BusinessChange ρ))
  | reset (reason : BusinessResetReason)

/-- The identity of a subscriber object, its filter and its cursor. -/
structure Subscriber where
  id : Nat
  filter : BusinessFilter
  cursor : BusinessCursor

/-- What a call of `emit` does besides taking the frame: it may throw, and it may dispose of
subscriptions, as a connection that closes does. -/
structure Outcome where
  throws : Bool
  disposes : List Nat

structure Opening where
  id : Nat
  filter : BusinessFilter
  since : BusinessCursor
  generation : Nat

/-- The fields of the stream, and after them the trace of what happened: the batches published in
each generation, the subscriptions accepted, the frames emitted and the subscribers deleted, by their own
`dispose` or because an emission to them failed. -/
structure Stream (ρ : Type) where
  streamId : String
  sequence : Nat
  bytes : Nat
  window : List (Batch ρ)
  subscribers : List Subscriber
  unavailable : Bool
  generation : Nat
  published : Nat → List (List (BusinessChange ρ))
  openings : List Opening
  emitted : List (Nat × Frame ρ)
  disposed : List Nat

variable {ρ : Type}

variable (env : Env ρ)

def Stream.new : Stream ρ where
  streamId := env.createId 0
  sequence := 0
  bytes := 0
  window := []
  subscribers := []
  unavailable := false
  generation := 0
  published := fun _ => []
  openings := []
  emitted := []
  disposed := []

def selects (filter : BusinessFilter) (change : BusinessChange ρ) : Bool :=
  (normalizedBusinessKinds filter).contains change.kind

variable (stream : Stream ρ)

def Stream.drop (ids : List Nat) : Stream ρ :=
  { stream with
    subscribers := stream.subscribers.filter (fun subscriber => !ids.contains subscriber.id)
    disposed := stream.disposed ++
      (stream.subscribers.filter (fun subscriber => ids.contains subscriber.id)).map Subscriber.id }

variable (id : Nat)

def Stream.setCursor (cursor : BusinessCursor) : Stream ρ :=
  { stream with
    subscribers := stream.subscribers.map (fun subscriber =>
      if subscriber.id = id then { subscriber with cursor := cursor } else subscriber) }

def deliver (subscriber : Subscriber) (batch : Batch ρ) (outcome : Outcome) : Stream ρ :=
  let after := subscriber.cursor
  let cursor := after.at batch.sequence
  let changes := batch.changes.filter (selects subscriber.filter)
  let stream := stream.setCursor subscriber.id cursor
  let stream := { stream with emitted := stream.emitted ++ [(subscriber.id, Frame.changes after cursor changes)] }
  stream.drop (if outcome.throws then outcome.disposes ++ [subscriber.id] else outcome.disposes)

def invalidate (reason : BusinessResetReason) (unavailable : Bool) : Stream ρ :=
  { stream with
    subscribers := []
    window := []
    bytes := 0
    sequence := 0
    streamId := env.createId (stream.generation + 1)
    generation := stream.generation + 1
    unavailable := stream.unavailable || unavailable
    emitted := stream.emitted ++ stream.subscribers.map (fun subscriber => (subscriber.id, Frame.reset reason)) }

/-- Shifts the oldest batches off the window until it is within both of its limits; shifting an empty
window throws. -/
def evict (limits : BusinessWindowLimits) : List (Batch ρ) → Nat → Option (List (Batch ρ) × Nat)
  | [], bytes => if bytes > limits.bytes then none else some ([], bytes)
  | batch :: rest, bytes =>
      if (batch :: rest).length > limits.items ∨ bytes > limits.bytes then
        evict limits rest (bytes - batch.bytes)
      else some (batch :: rest, bytes)

def Stream.push (window : List (Batch ρ)) (bytes : Nat) (input : List (BusinessChange ρ)) : Stream ρ :=
  { stream with
    sequence := stream.sequence + 1
    window := window
    bytes := bytes
    published := Function.update stream.published stream.generation
      (stream.published stream.generation ++ [input]) }

def publish (input : List (BusinessChange ρ)) (outcome : Nat → Outcome) : Stream ρ :=
  if stream.unavailable ∨ input.length = 0 then stream
  else if ¬input.all env.parses then invalidate env stream .publicationUncertain false
  else
    let bytes := env.encodedBytes input
    if input.length > businessLimits.journalItems ∨
        bytes > min env.limits.bytes (businessLimits.frameBytes - 2048) ∨
        stream.sequence = maxSafeInteger then
      invalidate env stream .overflow false
    else
      let batch : Batch ρ := ⟨stream.sequence + 1, input, bytes⟩
      match evict env.limits (stream.window ++ [batch]) (stream.bytes + bytes) with
      | none => invalidate env stream .publicationUncertain false
      | some (window, held) =>
          let stream := stream.push window held input
          stream.subscribers.foldl
            (fun stream subscriber => deliver stream subscriber batch (outcome subscriber.id)) stream

/-- The replay loop of `subscribe`: it stops when an emission has removed the subscriber. -/
def replay (id : Nat) (since : BusinessCursor) (outcome : Nat → Outcome) : List (Batch ρ) → Stream ρ → Stream ρ
  | [], stream => stream
  | batch :: rest, stream =>
      match stream.subscribers.find? (fun subscriber => subscriber.id == id) with
      | none => stream
      | some subscriber =>
          if batch.sequence > since.sequence then
            replay id since outcome rest (deliver stream subscriber batch (outcome batch.sequence))
          else replay id since outcome rest stream

inductive Answer where
  | subscribed (id : Nat)
  | reset (reason : BusinessResetReason)
  | busy

/-- The sequence of the oldest batch the window holds, or the next one to be published. -/
def Stream.oldest : Nat :=
  match stream.window with
  | [] => stream.sequence + 1
  | batch :: _ => batch.sequence

def Stream.accept (filter : BusinessFilter) (since : BusinessCursor) : Stream ρ :=
  { stream with
    subscribers := stream.subscribers ++ [⟨stream.openings.length, filter, since⟩]
    openings := stream.openings ++ [⟨stream.openings.length, filter, since, stream.generation⟩] }

def subscribe (filter : BusinessFilter) (since : BusinessCursor) (outcome : Nat → Outcome) : Answer × Stream ρ :=
  if stream.unavailable then (.reset .unavailable, stream)
  else if since.serverId ≠ env.serverId ∨ since.relayInstanceId ≠ env.relayInstanceId then
    (.reset .identity, stream)
  else if since.streamId ≠ stream.streamId then (.reset .generation, stream)
  else if since.filter ≠ businessFilterIdentity filter then (.reset .filter, stream)
  else if since.sequence > stream.sequence ∨ since.sequence < stream.oldest - 1 then (.reset .gap, stream)
  else if stream.subscribers.length ≥ env.limits.subscriptions then (.busy, stream)
  else
    let id := stream.openings.length
    (.subscribed id, replay id since outcome stream.window (stream.accept filter since))

inductive Event (ρ : Type) where
  | publish (input : List (BusinessChange ρ)) (outcome : Nat → Outcome)
  | subscribe (filter : BusinessFilter) (since : BusinessCursor) (outcome : Nat → Outcome)
  | dispose (id : Nat)
  | invalidate (reason : BusinessResetReason) (unavailable : Bool)
  | close

def step : Event ρ → Stream ρ
  | .publish input outcome => publish env stream input outcome
  | .subscribe filter since outcome => (subscribe env stream filter since outcome).2
  | .dispose id => stream.drop [id]
  | .invalidate reason unavailable => invalidate env stream reason unavailable
  | .close => invalidate env stream .unavailable true

/-! What a subscriber is owed, and the invariant of a run. -/

def frameAt (filter : BusinessFilter) (since : BusinessCursor) (published : List (List (BusinessChange ρ)))
    (index : Nat) : Frame ρ :=
  .changes (since.at (since.sequence + index)) (since.at (since.sequence + index + 1))
    ((published.getD (since.sequence + index) []).filter (selects filter))

def framesOf (emitted : List (Nat × Frame ρ)) : List (Frame ρ) :=
  (emitted.filter (fun entry => entry.1 == id)).map Prod.snd

theorem framesOf_append (emitted more : List (Nat × Frame ρ)) :
    framesOf id (emitted ++ more) = framesOf id emitted ++ framesOf id more := by
  simp [framesOf]

def numbered (env : Env ρ) : Nat → List (List (BusinessChange ρ)) → List (Batch ρ)
  | _, [] => []
  | start, changes :: rest => ⟨start + 1, changes, env.encodedBytes changes⟩ :: numbered env (start + 1) rest

theorem numbered_append (start : Nat) (batches more : List (List (BusinessChange ρ))) :
    numbered env start (batches ++ more) =
      numbered env start batches ++ numbered env (start + batches.length) more := by
  induction batches generalizing start with
  | nil => simp [numbered]
  | cons changes rest ih =>
    simp only [cons_append, numbered, ih]
    rw [Nat.add_right_comm start 1]
    rfl

def Live : Prop := id ∈ stream.subscribers.map Subscriber.id

instance (stream : Stream ρ) (id : Nat) : Decidable (Live stream id) :=
  inferInstanceAs (Decidable (id ∈ stream.subscribers.map Subscriber.id))

/-- The chain a subscription has been sent: the `count` frames after its cursor, and a reset at most
at the end. -/
structure Sent (opening : Opening) (count : Nat) (resets : List (Frame ρ)) : Prop where
  covered : opening.since.sequence + count ≤ (stream.published opening.generation).length
  frames : framesOf opening.id stream.emitted =
    (List.range count).map (frameAt opening.filter opening.since (stream.published opening.generation)) ++ resets
  last : resets = [] ∨ ∃ reason, resets = [.reset reason]
  ended : Live stream opening.id ∨ opening.id ∈ stream.disposed ∨ resets ≠ []

/-- A subscriber that has been sent everything up to `position`, and whose cursor is there. -/
structure Follows (position : Nat) (subscriber : Subscriber) (opening : Opening) : Prop where
  member : opening ∈ stream.openings
  id : opening.id = subscriber.id
  filter : opening.filter = subscriber.filter
  generation : opening.generation = stream.generation
  cursor : subscriber.cursor = opening.since.at position
  reached : opening.since.sequence ≤ position
  sent : Sent stream opening (position - opening.since.sequence) []

def Exceeds (limits : BusinessWindowLimits) (window : List (Batch ρ)) : Prop :=
  window.length > limits.items ∨ (window.map Batch.bytes).sum > limits.bytes

/-- The window is the longest run of newest batches within the limits. -/
def Windowed : Prop :=
  stream.bytes = (stream.window.map Batch.bytes).sum ∧ ¬Exceeds env.limits stream.window ∧
    ∃ start ≤ stream.sequence, stream.window = numbered env start ((stream.published stream.generation).drop start) ∧
      ∀ earlier < start, Exceeds env.limits (numbered env earlier ((stream.published stream.generation).drop earlier))

/-- The invariant while a batch is being delivered: every subscriber, and every one still owed the
batch, has been sent everything up to its position. -/
structure At (position : Nat → Nat) (owed : List Subscriber) : Prop where
  sequence : stream.sequence = (stream.published stream.generation).length
  fresh : ∀ generation, stream.generation < generation → stream.published generation = []
  window : Windowed env stream
  ids : ∀ (index : Nat) (opening : Opening), stream.openings[index]? = some opening → opening.id = index
  unknown : ∀ id, stream.openings.length ≤ id → framesOf id stream.emitted = []
  distinct : (stream.subscribers.map Subscriber.id).Nodup
  live : ∀ subscriber ∈ stream.subscribers, ∃ opening, Follows stream (position subscriber.id) subscriber opening
  owed : ∀ subscriber ∈ owed, ∃ opening, Follows stream (position subscriber.id) subscriber opening
  sent : ∀ opening ∈ stream.openings, ∃ count resets, Sent stream opening count resets

def Inv : Prop := At env stream (fun _ => stream.sequence) []

section
variable {env : Env ρ} {s : Stream ρ} {position : Nat → Nat} {owed : List Subscriber}
  {subscriber : Subscriber} {batch : Batch ρ} {outcome : Outcome}

theorem deliver_mem {other : Subscriber} (found : other ∈ (deliver s subscriber batch outcome).subscribers) :
    ∃ before ∈ s.subscribers, other = if before.id = subscriber.id then
      { before with cursor := subscriber.cursor.at batch.sequence } else before := by
  simp only [deliver, Stream.drop, Stream.setCursor, List.mem_filter, List.mem_map] at found
  obtain ⟨⟨before, member, same⟩, _⟩ := found
  exact ⟨before, member, same.symm⟩

theorem setCursor_ids (s : Stream ρ) (id : Nat) (cursor : BusinessCursor) :
    (s.setCursor id cursor).subscribers.map Subscriber.id = s.subscribers.map Subscriber.id := by
  simp only [Stream.setCursor, map_map]
  apply map_congr_left
  intro other _
  dsimp only [comp]
  split <;> rfl

theorem deliver_ids : ((deliver s subscriber batch outcome).subscribers.map Subscriber.id).Sublist
    (s.subscribers.map Subscriber.id) := by
  rw [← setCursor_ids s subscriber.id (subscriber.cursor.at batch.sequence)]
  exact filter_sublist.map _

theorem deliver_disposed {id : Nat} (gone : id ∈ s.disposed) : id ∈ (deliver s subscriber batch outcome).disposed :=
  mem_append_left _ gone

theorem drop_live {id : Nat} (ids : List Nat) (live : Live s id) :
    Live (s.drop ids) id ∨ id ∈ (s.drop ids).disposed := by
  unfold Live at live ⊢
  rw [List.mem_map] at live
  obtain ⟨before, member, rfl⟩ := live
  by_cases gone : before.id ∈ ids
  · right
    apply mem_append_right
    exact mem_map_of_mem (List.mem_filter.mpr ⟨member, by simpa using gone⟩)
  · left
    exact mem_map_of_mem (List.mem_filter.mpr ⟨member, by simpa using gone⟩)

theorem deliver_live {id : Nat} (live : Live s id) : Live (deliver s subscriber batch outcome) id ∨
      id ∈ (deliver s subscriber batch outcome).disposed := by
  apply drop_live
  unfold Live at live ⊢
  rw [← setCursor_ids s subscriber.id (subscriber.cursor.at batch.sequence)] at live
  exact live

theorem deliver_frames (id : Nat) : framesOf id (deliver s subscriber batch outcome).emitted =
    framesOf id s.emitted ++ (if subscriber.id = id then
      [.changes subscriber.cursor (subscriber.cursor.at batch.sequence)
        (batch.changes.filter (selects subscriber.filter))] else []) := by
  change framesOf id (s.emitted ++ [_]) = _
  by_cases same : subscriber.id = id
  · simp [framesOf, same]
  · simp [framesOf, same]

variable {opening : Opening}

/-- A chain stands while nothing is emitted to its subscription: batches may be published after it, and
its subscriber may be deleted. -/
theorem Sent.mono {later : Stream ρ} {count : Nat} {resets : List (Frame ρ)} (sent : Sent s opening count resets)
    (grows : s.published opening.generation <+: later.published opening.generation)
    (frames : framesOf opening.id later.emitted = framesOf opening.id s.emitted)
    (live : Live s opening.id → Live later opening.id ∨ opening.id ∈ later.disposed)
    (disposed : opening.id ∈ s.disposed → opening.id ∈ later.disposed) : Sent later opening count resets := by
  obtain ⟨more, grown⟩ := grows
  have covered := sent.covered
  refine ⟨?_, ?_, sent.last, ?_⟩
  · rw [← grown, length_append]
    omega
  · rw [frames, sent.frames]
    congr 1
    apply map_congr_left
    intro index inside
    have below : opening.since.sequence + index < (s.published opening.generation).length := by
      have := mem_range.mp inside
      omega
    simp only [frameAt, ← grown, getD_eq_getElem?_getD, getElem?_append_left below]
  · rcases sent.ended with alive | gone | reset
    · exact (live alive).imp_right .inl
    · exact .inr (.inl (disposed gone))
    · exact .inr (.inr reset)

theorem Sent.deliver_other {count : Nat} {resets : List (Frame ρ)}
    (sent : Sent s opening count resets) (other : subscriber.id ≠ opening.id) :
    Sent (deliver s subscriber batch outcome) opening count resets := by
  have frames : framesOf opening.id (deliver s subscriber batch outcome).emitted =
      framesOf opening.id s.emitted := by
    rw [deliver_frames, if_neg other, append_nil]
  exact sent.mono (prefix_refl _) frames deliver_live deliver_disposed

theorem Follows.deliver_self {reached : Nat}
    (follows : Follows s reached subscriber opening) (next : batch.sequence = reached + 1)
    (changes : (s.published s.generation)[reached]? = some batch.changes) :
    Sent (deliver s subscriber batch outcome) opening (reached + 1 - opening.since.sequence) [] := by
  have from_since := follows.reached
  have covered : reached < (s.published s.generation).length :=
    (List.getElem?_eq_some_iff.mp changes).1
  have count : reached + 1 - opening.since.sequence = (reached - opening.since.sequence) + 1 := by omega
  refine ⟨?_, ?_, .inl rfl, ?_⟩
  · rw [follows.generation]
    change opening.since.sequence + (reached + 1 - opening.since.sequence) ≤
      (s.published s.generation).length
    omega
  · have place : opening.since.sequence + (reached - opening.since.sequence) = reached := by omega
    rw [deliver_frames, if_pos follows.id.symm, follows.sent.frames, count, range_succ, map_append,
      append_nil, append_nil]
    simp only [map_cons, frameAt, place, follows.cursor, follows.generation, follows.filter,
      next]
    rw [show (deliver s subscriber batch outcome).published = s.published from rfl,
      getD_eq_getElem?_getD, changes]
    rfl
  · obtain live | gone | reset := follows.sent.ended
    · exact (deliver_live live).imp_right .inl
    · exact .inr (.inl (deliver_disposed gone))
    · exact absurd rfl reset

theorem At.opening_eq (at_ : At env s position owed) {first second : Opening}
    (one : first ∈ s.openings) (two : second ∈ s.openings) (same : first.id = second.id) : first = second := by
  obtain ⟨i, hi⟩ := mem_iff_getElem?.mp one
  obtain ⟨j, hj⟩ := mem_iff_getElem?.mp two
  have index : i = j := by
    rw [← at_.ids i first hi, ← at_.ids j second hj, same]
  subst index
  rw [hi] at hj
  exact Option.some.inj hj

theorem At.live_lt (at_ : At env s position owed) {id : Nat} (live : Live s id) : id < s.openings.length := by
  obtain ⟨subscriber, member, rfl⟩ := List.mem_map.mp live
  obtain ⟨opening, follows⟩ := at_.live subscriber member
  obtain ⟨index, found⟩ := mem_iff_getElem?.mp follows.member
  rw [← follows.id, at_.ids index opening found]
  exact (List.getElem?_eq_some_iff.mp found).1

theorem At.follows (at_ : At env s position owed) (member : opening ∈ s.openings) (live : Live s opening.id) :
    ∃ subscriber, Follows s (position opening.id) subscriber opening := by
  obtain ⟨subscriber, present, named⟩ := List.mem_map.mp live
  obtain ⟨mine, follows⟩ := at_.live subscriber present
  obtain rfl := at_.opening_eq follows.member member (by rw [follows.id, named])
  exact ⟨subscriber, named ▸ follows⟩

theorem deliver_at (at_ : At env s position (subscriber :: owed)) (others : ∀ other ∈ owed, other.id ≠ subscriber.id)
    (next : batch.sequence = position subscriber.id + 1)
    (changes : (s.published s.generation)[position subscriber.id]? = some batch.changes) :
    At env (deliver s subscriber batch outcome)
      (Function.update position subscriber.id (position subscriber.id + 1)) owed := by
  obtain ⟨opening, follows⟩ := at_.owed subscriber mem_cons_self
  have sent : Sent (deliver s subscriber batch outcome) opening
      (position subscriber.id + 1 - opening.since.sequence) [] := follows.deliver_self next changes
  -- A subscriber with another identifier keeps its cursor and its chain.
  have keeps (other : Subscriber) (different : other.id ≠ subscriber.id)
      (known : ∃ opening, Follows s (position other.id) other opening) :
      ∃ opening, Follows (deliver s subscriber batch outcome)
        (update position subscriber.id (position subscriber.id + 1) other.id) other opening := by
    obtain ⟨theirs, before⟩ := known
    rw [update_of_ne different]
    refine ⟨theirs, before.member, before.id, before.filter, before.generation, before.cursor, before.reached, ?_⟩
    exact before.sent.deliver_other (by rw [before.id]; exact different.symm)
  refine ⟨at_.sequence, at_.fresh, at_.window, at_.ids, ?_, deliver_ids.nodup at_.distinct, ?_, ?_, ?_⟩
  · intro id absent
    obtain ⟨index, found⟩ := mem_iff_getElem?.mp follows.member
    have small := (List.getElem?_eq_some_iff.mp found).1
    have named := at_.ids index opening found
    have absent' : s.openings.length ≤ id := absent
    rw [deliver_frames, at_.unknown id absent', if_neg (by rw [← follows.id]; omega)]
    rfl
  · intro other member
    obtain ⟨before, present, same⟩ := deliver_mem member
    by_cases own : before.id = subscriber.id
    · rw [if_pos own] at same
      subst same
      refine ⟨opening, ?_⟩
      obtain ⟨mine, theirs⟩ := at_.live before present
      have one : mine = opening := at_.opening_eq theirs.member follows.member
        (by rw [theirs.id, follows.id, own])
      rw [own, update_self]
      have reached := follows.reached
      refine ⟨follows.member, by rw [follows.id], by rw [← one, theirs.filter], follows.generation, ?_,
        by omega, sent⟩
      rw [follows.cursor, BusinessCursor.at_at, next]
    · rw [if_neg own] at same
      subst same
      exact keeps other own (at_.live other present)
  · intro other member
    exact keeps other (others other member) (at_.owed other (mem_cons_of_mem _ member))
  · intro other member
    by_cases own : subscriber.id = other.id
    · have one : opening = other := at_.opening_eq follows.member member (by rw [follows.id, own])
      subst one
      exact ⟨_, _, sent⟩
    · obtain ⟨count, resets, before⟩ := at_.sent other member
      exact ⟨count, resets, before.deliver_other own⟩

theorem deliver_all_at (batch : Batch ρ) (subscribers : List Subscriber) (outcome : Nat → Outcome) (reached : Nat)
    (at_ : At env s position subscribers) (distinct : (subscribers.map Subscriber.id).Nodup)
    (places : ∀ subscriber ∈ subscribers, position subscriber.id = reached) (next : batch.sequence = reached + 1)
    (changes : (s.published s.generation)[reached]? = some batch.changes) : ∃ position', At env (subscribers.foldl
        (fun s subscriber => deliver s subscriber batch (outcome subscriber.id)) s) position' [] ∧
      (∀ subscriber ∈ subscribers, position' subscriber.id = reached + 1) ∧
      (∀ id, id ∉ subscribers.map Subscriber.id → position' id = position id) := by
  induction subscribers generalizing s position with
  | nil => exact ⟨position, at_, by simp, fun _ _ => rfl⟩
  | cons first rest ih =>
    rw [map_cons, nodup_cons] at distinct
    have apart (other : Subscriber) (member : other ∈ rest) : other.id ≠ first.id := by
      intro same
      exact distinct.1 (same ▸ mem_map_of_mem member)
    have here := places first mem_cons_self
    have step : At env (deliver s first batch (outcome first.id)) _ rest :=
      deliver_at at_ apart (by rw [here, next]) (by rw [here, changes])
    obtain ⟨position', final, moved, kept⟩ := ih step distinct.2
      (fun other member => by
        rw [update_of_ne (apart other member)]
        exact places other (mem_cons_of_mem _ member)) changes
    refine ⟨position', final, ?_, ?_⟩
    · intro other member
      obtain rfl | tail := mem_cons.mp member
      · rw [kept _ distinct.1, update_self, here]
      · exact moved other tail
    · intro id absent
      simp only [map_cons, mem_cons, not_or] at absent
      rw [kept id absent.2, update_of_ne absent.1]

variable (subscribers : List Subscriber)

theorem deliver_all_ids (outcome : Nat → Outcome) (s : Stream ρ) :
    ((subscribers.foldl (fun s subscriber => deliver s subscriber batch (outcome subscriber.id))
      s).subscribers.map Subscriber.id).Sublist (s.subscribers.map Subscriber.id) := by
  induction subscribers generalizing s with
  | nil => exact List.Sublist.refl _
  | cons first rest ih => exact (ih _).trans deliver_ids

variable (batch) in
theorem deliver_all_published (outcome : Nat → Outcome) (s : Stream ρ) :
    let after := subscribers.foldl (fun s subscriber => deliver s subscriber batch (outcome subscriber.id)) s
    after.sequence = s.sequence ∧ after.generation = s.generation ∧ after.published = s.published := by
  induction subscribers generalizing s with
  | nil => exact ⟨rfl, rfl, rfl⟩
  | cons first rest ih => exact ih _

theorem At.congr (at_ : At env s position []) {position' : Nat → Nat}
    (same : ∀ subscriber ∈ s.subscribers, position subscriber.id = position' subscriber.id) :
    At env s position' [] := by
  refine { at_ with live := ?_, owed := by simp }
  intro subscriber member
  rw [← same subscriber member]
  exact at_.live subscriber member

theorem At.owing (at_ : At env s position []) {subscribers : List Subscriber}
    (known : subscribers ⊆ s.subscribers) : At env s position subscribers :=
  { at_ with owed := fun subscriber member => at_.live subscriber (known member) }

/-- Of exact books, eviction leaves the longest end of the window that is within the limits. -/
theorem evict_eq_some (limits : BusinessWindowLimits) (window : List (Batch ρ)) : ∃ kept : List (Batch ρ),
    evict limits window (window.map Batch.bytes).sum = some (kept, (kept.map Batch.bytes).sum) ∧ kept <:+ window ∧
      ¬Exceeds limits kept ∧ ∀ longer, longer <:+ window → kept.length < longer.length → Exceeds limits longer := by
  induction window with
  | nil =>
    refine ⟨[], by simp [evict], suffix_refl _, by simp [Exceeds], ?_⟩
    intro longer suffix more
    rw [suffix_nil.mp suffix] at more
    cases more
  | cons batch rest ih =>
    rw [evict]
    split_ifs with beyond
    · obtain ⟨kept, evicted, suffix, within, longest⟩ := ih
      refine ⟨kept, by simpa using evicted, suffix.trans (suffix_cons batch rest), within, ?_⟩
      intro longer inside more
      rcases suffix_cons_iff.mp inside with rfl | inside
      · exact beyond
      · exact longest longer inside more
    · refine ⟨batch :: rest, rfl, suffix_refl _, beyond, ?_⟩
      intro longer suffix more
      have shorter := suffix.length_le
      omega

theorem numbered_length (env : Env ρ) (start : Nat) (batches : List (List (BusinessChange ρ))) :
    (numbered env start batches).length = batches.length := by
  induction batches generalizing start with
  | nil => rfl
  | cons changes rest ih => simp [numbered, ih]

theorem numbered_drop (env : Env ρ) (start count : Nat) (batches : List (List (BusinessChange ρ))) :
    (numbered env start batches).drop count = numbered env (start + count) (batches.drop count) := by
  induction count generalizing start batches with
  | zero => rfl
  | succ count ih =>
    cases batches with
    | nil => simp [numbered]
    | cons =>
      rw [numbered, drop_succ_cons, ih, Nat.add_right_comm start 1]
      rfl

/-- Identifiers are distinct, so a frame sent to every subscriber reaches each of them once. -/
theorem framesOf_each (frame : Frame ρ) (id : Nat) (distinct : (subscribers.map Subscriber.id).Nodup) :
    framesOf id (subscribers.map (fun subscriber => (subscriber.id, frame))) =
      if id ∈ subscribers.map Subscriber.id then [frame] else [] := by
  induction subscribers with
  | nil => rfl
  | cons first rest ih =>
    rw [map_cons, nodup_cons] at distinct
    have tail := ih distinct.2
    unfold framesOf at tail ⊢
    by_cases same : first.id = id
    · subst same
      rw [if_neg distinct.1] at tail
      rw [map_cons, filter_cons_of_pos (by simp), map_cons, tail]
      simp
    · rw [map_cons, filter_cons_of_neg (by simpa using same), tail]
      simp [Ne.symm same]

/-- An invalidation ends every chain with one reset and starts a generation with nothing published. -/
theorem invalidate_inv (inv : Inv env s) (reason : BusinessResetReason) (unavailable : Bool) :
    Inv env (invalidate env s reason unavailable) := by
  have told (id : Nat) : framesOf id (invalidate env s reason unavailable).emitted =
      framesOf id s.emitted ++ (if Live s id then [Frame.reset reason] else []) := by
    change framesOf id (s.emitted ++ _) = _
    rw [framesOf_append, framesOf_each _ _ _ inv.distinct]
    rfl
  have later : s.published (s.generation + 1) = [] := inv.fresh _ (Nat.lt_succ_self _)
  refine ⟨?_, ?_, ⟨rfl, by simp [Exceeds, invalidate], 0, le_rfl, ?_, by simp⟩, inv.ids, ?_, nodup_nil, by simp [invalidate],
    by simp, ?_⟩
  · change 0 = (s.published (s.generation + 1)).length
    rw [later]
    rfl
  · intro generation after
    exact inv.fresh generation (Nat.lt_of_succ_lt after)
  · change [] = numbered env 0 ((s.published (s.generation + 1)).drop 0)
    rw [later]
    rfl
  · intro id absent
    rw [told, inv.unknown id absent, if_neg]
    · rfl
    · intro live
      exact absurd (inv.live_lt live) (Nat.not_lt.mpr absent)
  · intro opening member
    by_cases live : Live s opening.id
    · obtain ⟨subscriber, follows⟩ := inv.follows member live
      refine ⟨_, [.reset reason], follows.sent.covered, ?_, .inr ⟨reason, rfl⟩, .inr (.inr (by simp))⟩
      rw [told, if_pos live, follows.sent.frames, append_nil]
      rfl
    · obtain ⟨count, resets, sent⟩ := inv.sent opening member
      refine ⟨count, resets, sent.mono (prefix_refl _) ?_ (fun alive => absurd alive live) id⟩
      rw [told, if_neg live, append_nil]

theorem drop_inv (inv : Inv env s) (ids : List Nat) : Inv env (s.drop ids) := by
  have chain {opening : Opening} {count : Nat} {resets : List (Frame ρ)} (sent : Sent s opening count resets) :
      Sent (s.drop ids) opening count resets :=
    sent.mono (prefix_refl _) rfl (drop_live ids) (mem_append_left _)
  refine ⟨inv.sequence, inv.fresh, inv.window, inv.ids, inv.unknown,
    (filter_sublist.map _).nodup inv.distinct, ?_, by simp, ?_⟩
  · intro subscriber member
    obtain ⟨opening, before⟩ := inv.live subscriber (List.mem_filter.mp member).1
    exact ⟨opening, { before with sent := chain before.sent }⟩
  · intro opening member
    obtain ⟨count, resets, sent⟩ := inv.sent opening member
    exact ⟨count, resets, chain sent⟩

theorem push_windowed (inv : Inv env s) (input : List (BusinessChange ρ)) : ∃ kept,
    evict env.limits (s.window ++ [⟨s.sequence + 1, input, env.encodedBytes input⟩]) (s.bytes + env.encodedBytes input) =
      some (kept, (kept.map Batch.bytes).sum) ∧ Windowed env (s.push kept (kept.map Batch.bytes).sum input) := by
  obtain ⟨exact, _, start, within, shape, earlier⟩ := inv.window
  have length := inv.sequence
  have grown (first : Nat) (known : first ≤ s.sequence) :
      numbered env first ((s.published s.generation ++ [input]).drop first) =
        numbered env first ((s.published s.generation).drop first) ++ [⟨s.sequence + 1, input, env.encodedBytes input⟩] := by
    rw [drop_append_of_le_length (by omega), numbered_append]
    simp only [length_drop, numbered]
    rw [show first + ((s.published s.generation).length - first) = s.sequence by omega]
  obtain ⟨kept, evicted, suffix, fits, longest⟩ :=
    evict_eq_some env.limits (s.window ++ [⟨s.sequence + 1, input, env.encodedBytes input⟩])
  rw [shape, ← grown start within] at suffix longest
  have fewer := suffix.length_le
  have left := suffix_iff_eq_drop.mp suffix
  rw [numbered_length, length_drop, length_append, length_singleton] at fewer
  rw [numbered_drop, drop_drop, numbered_length, length_drop, length_append, length_singleton] at left
  obtain ⟨newer, place⟩ : ∃ newer, newer = start + ((s.published s.generation).length + 1 - start - kept.length) := ⟨_, rfl⟩
  rw [← place] at left
  have here : (s.push kept (kept.map Batch.bytes).sum input).published s.generation =
      s.published s.generation ++ [input] := update_self ..
  refine ⟨kept, by simpa [exact] using evicted, rfl, fits, newer, ?_, here ▸ left, ?_⟩
  · show newer ≤ s.sequence + 1
    omega
  · intro first less
    show Exceeds env.limits (numbered env first (((s.push _ _ input).published s.generation).drop first))
    rw [here]
    by_cases old : first < start
    · have beyond := earlier first old
      rw [grown first (by omega)]
      simp only [Exceeds, length_append, map_append, sum_append] at beyond ⊢
      omega
    · apply longest
      · rw [show first = start + (first - start) by omega, ← drop_drop, ← numbered_drop]
        exact drop_suffix _ _
      · rw [numbered_length, length_drop, length_append, length_singleton]
        omega

section Pushed

variable {window : List (Batch ρ)} {held : Nat} {input : List (BusinessChange ρ)}
  (windowed : Windowed env (s.push window held input))
include windowed

theorem push_at (inv : Inv env s) : At env (s.push window held input) (fun _ => s.sequence) s.subscribers := by
  have here : (s.push window held input).published s.generation =
      s.published s.generation ++ [input] := update_self _ _ _
  have grows (generation : Nat) :
      s.published generation <+: (s.push window held input).published generation := by
    by_cases current : generation = s.generation
    · subst current
      rw [here]
      exact prefix_append _ _
    · change _ <+: update s.published s.generation _ generation
      rw [update_of_ne current]
  have chain {opening : Opening} {count : Nat} {resets : List (Frame ρ)} (sent : Sent s opening count resets) :
      Sent (s.push window held input) opening count resets :=
    sent.mono (grows _) rfl .inl id
  have follows (subscriber : Subscriber) (member : subscriber ∈ s.subscribers) :
      ∃ opening, Follows (s.push window held input) s.sequence subscriber opening := by
    obtain ⟨opening, before⟩ := inv.live subscriber member
    exact ⟨opening, { before with sent := chain before.sent }⟩
  refine ⟨?_, ?_, windowed, inv.ids, inv.unknown, inv.distinct, follows, follows, ?_⟩
  · change s.sequence + 1 = ((s.push window held input).published s.generation).length
    rw [here, length_append, ← inv.sequence]
    rfl
  · intro generation later
    have other : generation ≠ s.generation := Nat.ne_of_gt later
    change update s.published s.generation _ generation = []
    rw [update_of_ne other]
    exact inv.fresh generation later
  · intro opening member
    obtain ⟨count, resets, sent⟩ := inv.sent opening member
    exact ⟨count, resets, chain sent⟩

theorem deliver_pushed (inv : Inv env s) (outcome : Nat → Outcome) :
    Inv env (s.subscribers.foldl (fun stream' subscriber => deliver stream' subscriber
      ⟨s.sequence + 1, input, env.encodedBytes input⟩ (outcome subscriber.id)) (s.push window held input)) := by
  have pushed := push_at windowed inv
  have changes : ((s.push window held input).published s.generation)[s.sequence]? = some input := by
    change (update s.published s.generation _ s.generation)[_]? = _
    rw [update_self, inv.sequence, getElem?_append_right le_rfl, Nat.sub_self]
    rfl
  obtain ⟨reached, final, moved, _⟩ :=
    deliver_all_at ⟨s.sequence + 1, input, env.encodedBytes input⟩ s.subscribers outcome
      s.sequence pushed inv.distinct (fun _ _ => rfl) rfl changes
  apply final.congr
  intro subscriber member
  have known := (deliver_all_ids s.subscribers outcome _).subset (mem_map_of_mem member)
  obtain ⟨before, present, same⟩ := List.mem_map.mp known
  rw [← same, moved before present, (deliver_all_published ..).1]
  rfl

end Pushed

variable (env s) in
/-- What the schema and the limits let through. -/
def Publishable (input : List (BusinessChange ρ)) : Prop :=
  input.all env.parses = true ∧ input.length ≤ businessLimits.journalItems ∧
    env.encodedBytes input ≤ min env.limits.bytes (businessLimits.frameBytes - 2048) ∧ s.sequence ≠ maxSafeInteger

/-- A batch is numbered and delivered, or the stream is invalidated; eviction itself never fails. -/
theorem publish_cases (inv : Inv env s) {input : List (BusinessChange ρ)} (outcome : Nat → Outcome)
    (available : s.unavailable = false) (nonempty : input ≠ []) :
    (∃ kept held, Windowed env (s.push kept held input) ∧ publish env s input outcome =
      s.subscribers.foldl (fun stream' subscriber => deliver stream' subscriber
        ⟨s.sequence + 1, input, env.encodedBytes input⟩ (outcome subscriber.id)) (s.push kept held input)) ∨
    ¬Publishable env s input ∧ ∃ reason, publish env s input outcome = invalidate env s reason false := by
  obtain ⟨kept, evicted, windowed⟩ := push_windowed inv input
  rw [publish, if_neg (by simp [available, nonempty])]
  by_cases parsed : input.all env.parses = true
  swap
  · rw [if_pos parsed]
    exact .inr ⟨fun fits => parsed fits.1, _, rfl⟩
  rw [if_neg (not_not.mpr parsed)]
  simp only [evicted]
  split_ifs with refused
  · refine .inr ⟨?_, _, rfl⟩
    rintro ⟨_, items, bytes, numbers⟩
    rcases refused with many | large | last
    · omega
    · omega
    · exact numbers last
  · exact .inl ⟨_, _, windowed, rfl⟩

theorem publish_inv (inv : Inv env s) (input : List (BusinessChange ρ)) (outcome : Nat → Outcome) :
    Inv env (publish env s input outcome) := by
  by_cases idle : s.unavailable = true ∨ input.length = 0
  · rw [publish, if_pos idle]
    exact inv
  simp only [length_eq_zero_iff, not_or, Bool.not_eq_true] at idle
  rcases publish_cases inv outcome idle.1 idle.2 with ⟨_, _, windowed, done⟩ | ⟨_, _, done⟩
  · exact done ▸ deliver_pushed windowed inv outcome
  · exact done ▸ invalidate_inv inv _ _

/-- A publication appends its batch, and only one that is not let through does not. -/
theorem publish_appends (inv : Inv env s) {input : List (BusinessChange ρ)} (outcome : Nat → Outcome)
    (available : s.unavailable = false) (nonempty : input ≠ []) :
    let next := publish env s input outcome
    next.sequence = s.sequence + 1 ∧ next.generation = s.generation ∧
        next.published s.generation = s.published s.generation ++ [input] ∨
      ¬Publishable env s input ∧ ∃ reason, next = invalidate env s reason false := by
  rcases publish_cases inv outcome available nonempty with ⟨kept, held, _, done⟩ | refused
  · obtain ⟨sequence, generation, published⟩ := deliver_all_published ⟨s.sequence + 1, input, env.encodedBytes input⟩
      s.subscribers outcome (s.push kept held input)
    refine .inl ⟨?_, ?_, ?_⟩
    · rw [done, sequence]; rfl
    · rw [done, generation]; rfl
    · rw [done, published]
      exact update_self ..
  · exact .inr refused

/-- What the replay loop may rely on for its subscriber: it has everything up to its cursor, or up to
the batches already passed. -/
def Replayed (position : Nat → Nat) (id start since : Nat) : Prop :=
  Live stream id → position id = max start since

/-- The replay loop brings its subscriber to the end of the window, and moves no one else. -/
theorem replay_at (id : Nat) (since : BusinessCursor) (outcome : Nat → Outcome) (batches : List (List (BusinessChange ρ)))
    (start : Nat) (at_ : At env s position []) (rest : (s.published s.generation).drop start = batches)
    (own : Replayed s position id start since.sequence) :
    ∃ position', At env (replay id since outcome (numbered env start batches) s) position' [] ∧
      Replayed (replay id since outcome (numbered env start batches) s) position' id (start + batches.length)
        since.sequence ∧ (∀ other, other ≠ id → position' other = position other) ∧
      (replay id since outcome (numbered env start batches) s).sequence = s.sequence := by
  induction batches generalizing start s position with
  | nil => exact ⟨position, at_, own, fun _ _ => rfl, rfl⟩
  | cons changes later ih =>
    have next : (s.published s.generation)[start]? = some changes := by
      rw [← head?_drop, rest]
      rfl
    have tail : (s.published s.generation).drop (start + 1) = later := by
      rw [← drop_drop, rest]
      rfl
    have total : start + (changes :: later).length = start + 1 + later.length := by
      rw [length_cons]
      omega
    rw [total]
    simp only [numbered, replay]
    cases found : s.subscribers.find? (fun subscriber => subscriber.id == id) with
    | none =>
      -- An emission removed the subscriber: the loop stops, and nothing is owed.
      have gone : ¬Live s id := by
        intro live
        obtain ⟨subscriber, member, named⟩ := List.mem_map.mp live
        have := find?_eq_none.mp found subscriber member
        simp [named] at this
      exact ⟨position, at_, fun live => absurd live gone, fun _ _ => rfl, rfl⟩
    | some subscriber =>
      have member := mem_of_find?_eq_some found
      have named : subscriber.id = id := by simpa using find?_some found
      subst named
      have place := own (mem_map_of_mem member)
      dsimp only
      by_cases behind : start + 1 > since.sequence
      · rw [if_pos behind]
        have here : position subscriber.id = start := by omega
        have step : At env (deliver s subscriber ⟨start + 1, changes, env.encodedBytes changes⟩
            (outcome (start + 1))) (update position subscriber.id (position subscriber.id + 1)) [] :=
          deliver_at (at_.owing (by simpa using member)) (by simp) (by rw [here]) (by rw [here, next])
        obtain ⟨position', final, moved, kept, sequence⟩ := ih (start + 1) step tail (by
          intro _
          rw [update_self]
          omega)
        refine ⟨position', final, moved, ?_, sequence⟩
        intro other different
        rw [kept other different, update_of_ne different]
      · rw [if_neg behind]
        obtain ⟨position', final, moved, kept, sequence⟩ := ih (start + 1) at_ tail (by
          intro _
          omega)
        exact ⟨position', final, moved, kept, sequence⟩

theorem oldest_eq (at_ : At env s position owed) {start : Nat} (within : start ≤ s.sequence)
    (shape : s.window = numbered env start ((s.published s.generation).drop start)) : s.oldest = start + 1 := by
  have length := at_.sequence
  unfold Stream.oldest
  cases remaining : (s.published s.generation).drop start with
  | nil =>
    have consumed := drop_eq_nil_iff.mp remaining
    rw [shape, remaining]
    simp only [numbered]
    omega
  | cons =>
    rw [shape, remaining]
    rfl

theorem accept_at (inv : Inv env s) {filter : BusinessFilter} {since : BusinessCursor}
    (known : since.sequence ≤ s.sequence) : At env (s.accept filter since)
      (Function.update (fun _ => s.sequence) s.openings.length since.sequence) [] := by
  have live (id : Nat) (alive : Live s id) : Live (s.accept filter since) id := by
    unfold Live Stream.accept
    rw [map_append]
    exact mem_append_left _ alive
  have fresh : Sent (s.accept filter since) ⟨s.openings.length, filter, since, s.generation⟩ 0 [] := by
    refine ⟨?_, inv.unknown _ le_rfl, .inl rfl, .inl ?_⟩
    · change since.sequence ≤ (s.published s.generation).length
      rw [← inv.sequence]
      exact known
    · simp [Live, Stream.accept]
  refine ⟨inv.sequence, inv.fresh, inv.window, ?_, ?_, ?_, ?_, by simp, ?_⟩
  · intro index opening found
    change (s.openings ++ [_])[index]? = some opening at found
    rcases getElem?_snoc found with ⟨_, before⟩ | ⟨last, rfl⟩
    · exact inv.ids index opening before
    · exact last.symm
  · intro id absent
    apply inv.unknown id
    simp only [Stream.accept, length_append] at absent
    omega
  · change ((s.subscribers ++ [_]).map Subscriber.id).Nodup
    rw [map_append, map_singleton, ← concat_eq_append, nodup_concat]
    refine ⟨?_, inv.distinct⟩
    exact fun used => absurd (inv.live_lt used) (lt_irrefl _)
  · intro subscriber member
    rcases mem_append.mp member with before | last
    · obtain ⟨opening, follows⟩ := inv.live subscriber before
      rw [update_of_ne (Nat.ne_of_lt (inv.live_lt (mem_map_of_mem before)))]
      exact ⟨opening, { follows with
        member := mem_append_left _ follows.member
        sent := follows.sent.mono (prefix_refl _) rfl (fun alive => .inl (live _ alive)) id }⟩
    · rw [mem_singleton] at last
      subst last
      rw [update_self]
      refine ⟨_, mem_append_right _ (mem_singleton_self _), rfl, rfl, rfl, rfl, le_rfl, ?_⟩
      rw [Nat.sub_self]
      exact fresh
  · intro opening member
    rcases mem_snoc member with before | rfl
    · obtain ⟨count, resets, sent⟩ := inv.sent opening before
      exact ⟨count, resets, sent.mono (prefix_refl _) rfl (fun alive => .inl (live _ alive)) id⟩
    · exact ⟨0, [], fresh⟩

theorem replay_inv (inv : Inv env s) (filter : BusinessFilter) (since : BusinessCursor)
    (outcome : Nat → Outcome) (covered : ¬(since.sequence > s.sequence ∨ since.sequence < s.oldest - 1)) :
    Inv env (replay s.openings.length since outcome s.window (s.accept filter since)) := by
  obtain ⟨_, _, start, within, shape, _⟩ := inv.window
  have oldest := oldest_eq inv within shape
  have length := inv.sequence
  have known : since.sequence ≤ s.sequence := by omega
  have accepted : At env (s.accept filter since) _ [] := accept_at inv known
  have own : Replayed (s.accept filter since)
      (update (fun _ => s.sequence) s.openings.length since.sequence) s.openings.length start
      since.sequence := by
    intro _
    rw [update_self]
    omega
  obtain ⟨position, final, moved, kept, sequence⟩ :=
    replay_at s.openings.length since outcome _ start accepted rfl own
  have window : numbered env start (((s.accept filter since).published
    (s.accept filter since).generation).drop start) = s.window := shape.symm
  rw [window] at final moved sequence
  apply final.congr
  intro subscriber member
  rw [sequence]
  change _ = s.sequence
  by_cases mine : subscriber.id = s.openings.length
  · have count : (((s.accept filter since).published (s.accept filter since).generation).drop start).length =
        s.sequence - start := by
      rw [length_drop, length]
      rfl
    have live := mem_map_of_mem (f := Subscriber.id) member
    rw [mine] at live
    rw [mine, moved live]
    omega
  · rw [kept _ mine, update_of_ne mine]

theorem subscribe_inv (inv : Inv env s) (filter : BusinessFilter) (since : BusinessCursor)
    (outcome : Nat → Outcome) : Inv env (subscribe env s filter since outcome).2 := by
  unfold subscribe
  split_ifs with _ _ _ _ gap
  any_goals exact inv
  exact replay_inv inv filter since outcome gap

theorem step_inv (event : Event ρ) (inv : Inv env s) : Inv env (step env s event) := by
  cases event with
  | publish input outcome => exact publish_inv inv input outcome
  | subscribe filter since outcome => exact subscribe_inv inv filter since outcome
  | dispose id => exact drop_inv inv [id]
  | invalidate reason unavailable => exact invalidate_inv inv reason unavailable
  | close => exact invalidate_inv inv .unavailable true

theorem new_inv (env : Env ρ) : Inv env (Stream.new env) := by
  refine ⟨rfl, fun _ _ => rfl, ⟨rfl, by simp [Exceeds, Stream.new], 0, le_rfl, rfl, by simp⟩, ?_, fun _ _ => rfl, nodup_nil,
    ?_, ?_, ?_⟩
  · intro index opening found
    simp [Stream.new] at found
  · simp [Stream.new]
  · simp
  · simp [Stream.new]

theorem run_inv (env : Env ρ) (events : List (Event ρ)) : Inv env (run (step env) (Stream.new env) events) :=
  run_invariant (Inv env) (new_inv env) (fun _ event inv => step_inv event inv) events

end

/-- Every batch let through is published under the next number, and the window is always the longest run of newest
batches that is within both limits, with its bytes counted exactly. -/
theorem window_newest (env : Env ρ) (events : List (Event ρ)) : let s := run (step env) (Stream.new env) events
    Windowed env s ∧ ∀ input outcome, s.unavailable = false → input ≠ [] → Publishable env s input →
      (publish env s input outcome).sequence = s.sequence + 1 ∧ (publish env s input outcome).generation = s.generation ∧
        (publish env s input outcome).published s.generation = s.published s.generation ++ [input] := by
  have inv := run_inv env events
  refine ⟨inv.window, fun input outcome available nonempty fits => ?_⟩
  exact (publish_appends inv outcome available nonempty).resolve_right (fun refused => refused.1 fits)

/-- Every batch published after the cursor is still in the window. -/
def Covered (since : BusinessCursor) : Prop :=
  since.sequence ≤ stream.sequence ∧
    ∀ number, since.sequence < number → number ≤ stream.sequence → ∃ batch ∈ stream.window, batch.sequence = number

theorem oldest_covers {env : Env ρ} {s : Stream ρ} {since : BusinessCursor} (inv : Inv env s)
    (known : since.sequence ≤ s.sequence) (served : s.oldest - 1 ≤ since.sequence) : Covered s since := by
  obtain ⟨_, _, start, within, shape, _⟩ := inv.window
  have oldest := oldest_eq inv within shape
  have length := inv.sequence
  refine ⟨known, ?_⟩
  intro number after published
  have inside : number - 1 - start < (numbered env start ((s.published s.generation).drop start)).length := by
    rw [numbered_length, length_drop]
    omega
  refine ⟨(numbered env start ((s.published s.generation).drop start))[number - 1 - start], ?_, ?_⟩
  · rw [shape]
    exact getElem_mem inside
  · have place := numbered_drop env start (number - 1 - start) ((s.published s.generation).drop start)
    rw [drop_eq_getElem_cons inside] at place
    cases rest : ((s.published s.generation).drop start).drop (number - 1 - start) with
    | nil =>
      rw [rest] at place
      cases place
    | cons =>
      rw [rest] at place
      rw [(List.cons.inj place).1]
      dsimp only
      omega

theorem numbered_above {env : Env ρ} {start : Nat} {batches : List (List (BusinessChange ρ))} {batch : Batch ρ}
    (member : batch ∈ numbered env start batches) : start < batch.sequence := by
  induction batches generalizing start with
  | nil => cases member
  | cons changes rest ih =>
    rcases List.mem_cons.mp member with rfl | later
    · exact Nat.lt_succ_self start
    · exact Nat.lt_of_succ_lt (ih later)

theorem Covered.oldest {env : Env ρ} {s : Stream ρ} {since : BusinessCursor} (inv : Inv env s) (covered : Covered s since) :
    s.oldest - 1 ≤ since.sequence := by
  obtain ⟨_, _, start, within, shape, _⟩ := inv.window
  have oldest := oldest_eq inv within shape
  obtain ⟨known, all⟩ := covered
  by_cases last : since.sequence = s.sequence
  · omega
  · obtain ⟨batch, member, next⟩ := all (since.sequence + 1) (by omega) (by omega)
    rw [shape] at member
    have above := numbered_above member
    omega

/-- A cursor of this stream, for this filter, whose next batches the window still holds. -/
def Served (env : Env ρ) (filter : BusinessFilter) (since : BusinessCursor) : Prop :=
  since.serverId = env.serverId ∧ since.relayInstanceId = env.relayInstanceId ∧ since.streamId = stream.streamId ∧
    since.filter = businessFilterIdentity filter ∧ Covered stream since

/-- Every subscriber is told of a reset and deleted, and a new generation begins. -/
def Resets (next : Stream ρ) : Prop :=
  next.subscribers = [] ∧ next.generation = stream.generation + 1 ∧ ∃ reason,
    next.emitted = stream.emitted ++ stream.subscribers.map (fun subscriber => (subscriber.id, Frame.reset reason))

end Cove.Business.EventStream
