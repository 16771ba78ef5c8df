import Cove.Runtime.ControlSystem

/-!
What the arbiter does on its own, without an answer of the worker. The drain, the admission of commands and the
leaving of subscriptions keep the arbiter calm: a holder the worker records is one the arbiter knows, and a holder
that has gone is one the arbiter is about to release.
-/

namespace Cove.Runtime.ControlOwner
open Base.Run Protocol.Budgets Protocol.Frame Protocol.Identity Protocol.Pipe List Option
open Protocol.Terminal Runtime.ControlArbiter Arbiter

/-! ## What the two sides know of each other -/

/-- The boundary tells the control state of the worker, and no control fact still to come tells another. -/
structure Agrees (w : Worker) (boundary : Boundary) : Prop where
  epoch : boundary.epoch = w.epoch
  holder : boundary.holder = w.holder
  latest : ∀ seq epoch holder geometry, .control seq epoch holder geometry ∈ w.history → boundary.atSeq < seq →
    epoch = w.epoch ∧ holder = w.holder

/-- The subscription has a counter; once it is retired, the counter asks for the release of this epoch. -/
structure OwnedBy (ref : SubscriptionRef) (epoch : Nat) (counters : List Counter) : Prop where
  counted : ∃ c ∈ counters, c.ref = ref
  released : ∀ c ∈ counters, c.ref = ref → c.retired = true → c.cleanup = .pending ∧ c.cleanupEpoch = epoch

variable (w : Worker)

def Settled (a : Arbiter) : Prop :=
  ∀ holder, w.holder = some holder → ∃ ref boundary, holder = holderOf ref ∧ a.boundary = some boundary ∧
    Agrees w boundary ∧ OwnedBy ref w.epoch a.counters

/-- What the counters keep on their own. -/
structure Base (gone : List SubscriptionRef) (a : Arbiter) : Prop where
  up : a.disposed = false
  closed : a.opened = false → a.counters = []
  counted : ∀ job ∈ a.queue, ∀ command subscription, job.work = .control command subscription →
    ∃ c ∈ a.counters, c.ref = subscription
  known : ∀ c ∈ a.counters, c.retired = false → c.ref ∉ gone
  pending : ∀ c ∈ a.counters, c.cleanup = .pending → c.retired = true

def Aligned (a : Arbiter) : Prop :=
  ∀ boundary, a.running = some (.command boundary) →
    boundary.atSeq ≤ w.seq ∧ (w.holder.isSome = true → Agrees w boundary)

variable {boundary : Boundary}

theorem Agrees.later {w : Worker} (agrees : Agrees w boundary) {geometry : Geometry} {atSeq : Nat}
    (later : boundary.atSeq ≤ atSeq) : Agrees w { boundary with geometry := geometry, atSeq := atSeq } where
  epoch := agrees.epoch
  holder := agrees.holder
  latest seq epoch holder geometry member past := agrees.latest seq epoch holder geometry member (by
    have : atSeq < seq := past
    omega)

structure SameControl (w w' : Worker) : Prop where
  epoch : w'.epoch = w.epoch
  holder : w'.holder = w.holder
  facts : ∀ seq epoch holder geometry, .control seq epoch holder geometry ∈ w'.history →
    .control seq epoch holder geometry ∈ w.history

variable {w' : Worker}

theorem SameControl.agrees {w : Worker} (same : SameControl w w') (agrees : Agrees w boundary) :
    Agrees w' boundary where
  epoch := agrees.epoch.trans same.epoch.symm
  holder := agrees.holder.trans same.holder.symm
  latest seq epoch holder geometry member past := by
    rw [same.epoch, same.holder]
    exact agrees.latest seq epoch holder geometry (same.facts _ _ _ _ member) past

theorem SameControl.settled {w : Worker} (same : SameControl w w') {a : Arbiter} (settled : Settled w a) :
    Settled w' a := by
  intro holder held
  rw [same.holder] at held
  obtain ⟨ref, boundary, owner, known, agrees, owned⟩ := settled holder held
  refine ⟨ref, boundary, owner, known, same.agrees agrees, ?_⟩
  rw [same.epoch]
  exact owned

theorem SameControl.aligned {w : Worker} (same : SameControl w w') (grows : w.seq ≤ w'.seq) {a : Arbiter}
    (aligned : Aligned w a) : Aligned w' a := by
  intro boundary running
  obtain ⟨bound, agrees⟩ := aligned boundary running
  constructor
  · exact bound.trans grows
  · intro held
    rw [same.holder] at held
    exact same.agrees (agrees held)

/-! ## The worker -/

def Worker.Numbered : Prop := ∀ fact ∈ w.history, fact.seq ≤ w.seq

/-- A step of the worker that appends facts which do not move control. -/
structure Quietly (w w' : Worker) : Prop extends SameControl w w' where
  grows : w.seq ≤ w'.seq
  numbered : w.Numbered → w'.Numbered

theorem Quietly.refl : Quietly w w := ⟨⟨rfl, rfl, fun _ _ _ _ member => member⟩, le_rfl, id⟩

theorem Quietly.trans {first second third : Worker} (one : Quietly first second) (two : Quietly second third) :
    Quietly first third where
  epoch := two.epoch.trans one.epoch
  holder := two.holder.trans one.holder
  facts _ _ _ _ member := one.facts _ _ _ _ (two.facts _ _ _ _ member)
  grows := one.grows.trans two.grows
  numbered := two.numbered ∘ one.numbered

theorem Worker.append_numbered {w : Worker} {fact : Nat → RunFact} (numbers : ∀ seq, (fact seq).seq = seq)
    (numbered : w.Numbered) : (w.append fact).Numbered := by
  intro told member
  rcases mem_snoc member with old | rfl
  · exact (numbered told old).trans (Nat.le_succ _)
  · exact (numbers _).le

theorem Worker.append_quietly {fact : Nat → RunFact} (numbers : ∀ seq, (fact seq).seq = seq)
    (plain : ∀ at_ seq epoch holder geometry, fact at_ ≠ .control seq epoch holder geometry) :
    Quietly w (w.append fact) where
  epoch := rfl
  holder := rfl
  facts seq epoch holder geometry member := by
    rcases mem_snoc member with old | new
    · exact old
    · exact absurd new.symm (plain _ _ _ _ _)
  grows := Nat.le_succ _
  numbered := append_numbered numbers

theorem Worker.resized_quietly (geometry : Geometry) : Quietly w (w.resized geometry) := by
  unfold Worker.resized
  split
  · exact .refl w
  · have told : Quietly w (w.append (fun seq => .resize seq geometry)) := w.append_quietly (fun _ => rfl) (by simp)
    exact ⟨⟨told.epoch, told.holder, told.facts⟩, told.grows, told.numbered⟩

theorem Worker.recolored_quietly (recolors : Bool) : Quietly w (w.recolored recolors) := by
  unfold Worker.recolored
  split
  · have told : Quietly w (w.append .other) := w.append_quietly (fun _ => rfl) (by simp)
    exact told
  · exact .refl w

theorem Worker.mayControl_iff {w : Worker} {expectedEpoch nextEpoch : Nat} {holder : Option ControlHolder} :
    w.mayControl expectedEpoch nextEpoch holder = true ↔
      expectedEpoch = w.epoch ∧ nextEpoch = w.epoch + holder.isSome.toNat ∧ (holder = none → w.epoch ≠ 0) := by
  cases holder <;> simp [Worker.mayControl, and_comm]

inductive Execution (w : Worker) : Order → Worker → Prop where
  | control (expectedEpoch : Nat) (holder : Option ControlHolder) (geometry : Geometry) (w' : Worker)
      (expected : expectedEpoch = w.epoch) (nextEpoch : Nat) (next : nextEpoch = w.epoch + holder.isSome.toNat)
      (moved : w'.epoch = nextEpoch) (held : w'.holder = holder) :
      Execution w (.setControl expectedEpoch nextEpoch holder geometry) w'
  | quiet (order : Order) (w' : Worker) (quietly : Quietly w w')
      (plain : ∀ expectedEpoch nextEpoch holder geometry, order ≠ .setControl expectedEpoch nextEpoch holder geometry) :
      Execution w order w'

theorem Worker.execute_some {w : Worker} {order : Order} {recolors : Bool}
    (executed : w.execute order recolors = some w') :
    Execution w order w' ∧ w.seq ≤ w'.seq ∧ (w.Numbered → w'.Numbered) := by
  have quiet (quietly : Quietly w w') (plain : ∀ expectedEpoch nextEpoch holder geometry,
      order ≠ .setControl expectedEpoch nextEpoch holder geometry) :
      Execution w order w' ∧ w.seq ≤ w'.seq ∧ (w.Numbered → w'.Numbered) :=
    ⟨.quiet order w' quietly plain, quietly.grows, quietly.numbered⟩
  cases order with
  | setControl _ nextEpoch holder geometry =>
    simp only [Worker.execute] at executed
    split at executed
    case isFalse => cases executed
    case isTrue allowed =>
      obtain ⟨expected, next, -⟩ := Worker.mayControl_iff.mp allowed
      have ready := (w.resized_quietly geometry).trans ((w.resized geometry).recolored_quietly recolors)
      obtain rfl := some.inj executed
      refine ⟨.control _ _ _ _ expected _ next rfl rfl, ?_, ?_⟩
      · split
        · exact ready.grows.trans (Nat.le_succ _)
        · exact ready.grows
      · intro numbered
        split
        · have numbers : ∀ seq, (RunFact.control seq nextEpoch holder geometry).seq = seq := fun _ => rfl
          exact Worker.append_numbered numbers (ready.numbered numbered)
        · exact ready.numbered numbered
  | resize _ _ geometry =>
    simp only [Worker.execute, ite_none_right_eq_some, Option.some.injEq] at executed
    obtain ⟨-, rfl⟩ := executed
    exact quiet (w.resized_quietly geometry) (by simp)
  | appearance =>
    simp only [Worker.execute, ite_none_right_eq_some, Option.some.injEq] at executed
    obtain ⟨-, rfl⟩ := executed
    exact quiet (w.recolored_quietly recolors) (by simp)
  | input =>
    simp only [Worker.execute, ite_none_right_eq_some, Option.some.injEq] at executed
    obtain ⟨-, rfl⟩ := executed
    exact quiet (.refl w) (by simp)

/-! ## The drain -/

section Drain
variable {w : Worker} {gone : List SubscriptionRef} {a : Arbiter} {oracle : Oracle}

structure Calm (w : Worker) (gone : List SubscriptionRef) (a : Arbiter) : Prop where
  base : Base gone a
  settled : Settled w a

structure Untouched (before after : Arbiter) : Prop where
  disposed : after.disposed = before.disposed
  opened : after.opened = before.opened
  boundary : after.boundary = before.boundary
  counters : after.counters = before.counters
  queue : ∀ job ∈ after.queue, ∃ known ∈ before.queue, ∀ command subscription,
    job.work = .control command subscription → known.work = .control command subscription

theorem Untouched.refl (a : Arbiter) : Untouched a a :=
  ⟨rfl, rfl, rfl, rfl, fun job member => ⟨job, member, fun _ _ same => same⟩⟩

theorem Untouched.trans {first second third : Arbiter} (one : Untouched first second) (two : Untouched second third) :
    Untouched first third where
  disposed := two.disposed.trans one.disposed
  opened := two.opened.trans one.opened
  boundary := two.boundary.trans one.boundary
  counters := two.counters.trans one.counters
  queue job member := by
    obtain ⟨middle, between, later⟩ := two.queue job member
    obtain ⟨known, queued, earlier⟩ := one.queue middle between
    exact ⟨known, queued, fun command subscription work => earlier _ _ (later _ _ work)⟩

variable {after : Arbiter}

theorem Untouched.base (untouched : Untouched a after) (base : Base gone a) : Base gone after where
  up := untouched.disposed.trans base.up
  closed shut := by
    rw [untouched.counters]
    exact base.closed (untouched.opened ▸ shut)
  counted job member command subscription work := by
    obtain ⟨known, queued, same⟩ := untouched.queue job member
    rw [untouched.counters]
    exact base.counted known queued command subscription (same command subscription work)
  known := untouched.counters ▸ base.known
  pending := untouched.counters ▸ base.pending

theorem Untouched.settled (untouched : Untouched a after) (settled : Settled w a) : Settled w after := by
  unfold Settled
  rw [untouched.boundary, untouched.counters]
  exact settled

theorem Untouched.calm (untouched : Untouched a after) (calm : Calm w gone a) : Calm w gone after :=
  ⟨untouched.base calm.base, untouched.settled calm.settled⟩

theorem await_untouched (a : Arbiter) (stage : Await) : Untouched a (a.await stage) :=
  ⟨rfl, rfl, rfl, rfl, fun job member => ⟨job, member, fun _ _ same => same⟩⟩

theorem uncertain_untouched (a : Arbiter) (uncertain : Bool) : Untouched a { a with uncertain := uncertain } :=
  ⟨rfl, rfl, rfl, rfl, fun job member => ⟨job, member, fun _ _ same => same⟩⟩

theorem replyError_untouched (a : Arbiter) (error : DomainError) : Untouched a (a.replyError error) :=
  await_untouched a _

theorem failControl_untouched (a : Arbiter) (command : ControlCommand) : Untouched a (a.failControl command) :=
  (uncertain_untouched a true).trans (replyError_untouched _ _)

theorem tail_queue {queue : List Job} : ∀ job ∈ queue.tail, ∃ known ∈ queue, ∀ command subscription,
    job.work = .control command subscription → known.work = .control command subscription :=
  fun job member => ⟨job, mem_of_mem_tail member, fun _ _ same => same⟩

theorem dispatch_untouched (a : Arbiter) (entry : Entry) : Untouched a (a.dispatch entry) := by
  refine ⟨rfl, rfl, rfl, rfl, ?_⟩
  intro job member
  change job ∈ a.queue.modifyHead _ at member
  cases queue : a.queue with
  | nil =>
    rw [queue] at member
    simp at member
  | cons head =>
    rw [queue, modifyHead_cons, mem_cons] at member
    rcases member with rfl | later
    · exact ⟨head, mem_cons_self, fun _ _ same => same⟩
    · exact ⟨job, mem_cons_of_mem head later, fun _ _ same => same⟩

theorem begin_untouched (a : Arbiter) (oracle : Oracle) : Untouched a (a.begin oracle) := by
  unfold begin
  split
  · exact .refl a
  split
  · unfold beginProgrammatic
    split_ifs <;> exact await_untouched a _
  · unfold beginControl
    split_ifs <;> first | exact replyError_untouched a _ | exact await_untouched a _

/-- A change of one counter that keeps what the counters keep. -/
structure Change (change : Counter → Counter) : Prop where
  ref : ∀ c, (change c).ref = c.ref
  retired : ∀ c, (change c).retired = false → c.retired = false
  pending : ∀ c, (c.cleanup = .pending → c.retired = true) → (change c).cleanup = .pending → (change c).retired = true

variable {ref : SubscriptionRef} {change : Counter → Counter}

theorem mem_setCounter {c : Counter} :
    c ∈ (a.setCounter ref change).counters ↔ ∃ old ∈ a.counters, c = if old.ref == ref then change old else old := by
  simp only [setCounter, List.mem_map, eq_comm]

theorem setCounter_counted {target : SubscriptionRef} (same : ∀ c, (change c).ref = c.ref)
    (counted : ∃ c ∈ a.counters, c.ref = target) : ∃ c ∈ (a.setCounter ref change).counters, c.ref = target := by
  obtain ⟨c, member, named⟩ := counted
  refine ⟨_, mem_setCounter.mpr ⟨c, member, rfl⟩, ?_⟩
  split
  · exact (same c).trans named
  · exact named

theorem setCounter_base (allowed : Change change) (base : Base gone a) : Base gone (a.setCounter ref change) where
  up := base.up
  closed shut := by
    have none_left : a.counters = [] := base.closed shut
    simp [setCounter, none_left]
  counted job member command subscription work :=
    setCounter_counted allowed.ref (base.counted job member command subscription work)
  known c member fresh := by
    obtain ⟨old, kept, rfl⟩ := mem_setCounter.mp member
    split at fresh
    · rw [if_pos ‹_›, allowed.ref]
      exact base.known old kept (allowed.retired old fresh)
    · rw [if_neg ‹_›]
      exact base.known old kept fresh
  pending c member asks := by
    obtain ⟨old, kept, rfl⟩ := mem_setCounter.mp member
    split at asks
    · rw [if_pos ‹_›]
      exact allowed.pending old (base.pending old kept) asks
    · rw [if_neg ‹_›]
      exact base.pending old kept asks

theorem setCounter_owned {owner : SubscriptionRef} {epoch : Nat}
    (same : ∀ c, (change c).ref = c.ref) (other : ref ≠ owner) (owned : OwnedBy owner epoch a.counters) :
    OwnedBy owner epoch (a.setCounter ref change).counters where
  counted := setCounter_counted same owned.counted
  released c member named retired := by
    obtain ⟨old, kept, rfl⟩ := mem_setCounter.mp member
    by_cases target : old.ref = ref
    · rw [if_pos (beq_iff_eq.mpr target), same, target] at named
      exact absurd named other
    · rw [if_neg (by simpa using target)] at named retired ⊢
      exact owned.released old kept named retired

theorem giveUp_change : Change (fun c : Counter => { c with cleanup := .none }) where
  ref _ := rfl
  retired _ fresh := fresh
  pending _ _ asks := by cases asks

theorem cleanupFrom_boundary (index : Nat) (rest : List Counter) :
    (a.cleanupFrom oracle index rest).boundary = a.boundary := by
  induction rest generalizing a index with
  | nil => rfl
  | cons counter rest ih =>
    unfold cleanupFrom
    split
    · exact ih _
    split
    · exact ih _
    split
    · exact ih _
    split
    · exact ih _
    · rfl

theorem cleanupFrom_base (index : Nat) (rest : List Counter) (base : Base gone a) :
    Base gone (a.cleanupFrom oracle index rest) := by
  induction rest generalizing a index with
  | nil => exact (await_untouched a _).base base
  | cons counter rest ih =>
    unfold cleanupFrom
    split
    · exact ih _ base
    split
    · exact ih _ (setCounter_base giveUp_change base)
    split
    · exact ih _ (setCounter_base giveUp_change base)
    split
    · exact ih _ base
    · exact (await_untouched a _).base base

theorem cleanupFrom_owned {owner : SubscriptionRef} {epoch : Nat} (index : Nat)
    (rest : List Counter) (known : a.boundary = some boundary) (held : holds boundary.holder owner = true)
    (due : ∀ c ∈ rest, c.ref = owner → c.cleanup = .pending → c.cleanupEpoch = boundary.epoch)
    (owned : OwnedBy owner epoch a.counters) : OwnedBy owner epoch (a.cleanupFrom oracle index rest).counters := by
  induction rest generalizing a index with
  | nil => exact owned
  | cons counter rest ih =>
    have later : ∀ c ∈ rest, c.ref = owner → c.cleanup = .pending → c.cleanupEpoch = boundary.epoch :=
      fun c member => due c (mem_cons_of_mem counter member)
    unfold cleanupFrom
    split
    · exact ih _ known later owned
    next asks =>
    rw [known]
    dsimp only
    split
    next stale =>
      refine ih _ ?_ later (setCounter_owned (fun _ => rfl) ?_ owned)
      · exact known
      rintro rfl
      have current := due counter mem_cons_self rfl (by simpa using asks)
      simp [held, current] at stale
    split
    · exact ih _ known later owned
    · exact owned

theorem cleanupFrom_calm (index : Nat) (rest : List Counter) (within : ∀ c ∈ rest, c ∈ a.counters)
    (calm : Calm w gone a) : Calm w gone (a.cleanupFrom oracle index rest) := by
  refine ⟨cleanupFrom_base index rest calm.base, ?_⟩
  intro holder held
  obtain ⟨owner, boundary, rfl, known, agrees, owned⟩ := calm.settled holder held
  refine ⟨owner, boundary, rfl, (cleanupFrom_boundary index rest).trans known, agrees, ?_⟩
  apply cleanupFrom_owned index rest known _ _ owned
  · simp [holds, agrees.holder, held]
  · intro c member named asks
    rw [agrees.epoch]
    exact (owned.released c (within c member) named (calm.base.pending c (within c member) asks)).2

section

variable (calm : Calm w gone a)
include calm

theorem prune_calm : Calm w gone a.prune := by
  unfold prune
  split
  · exact calm
  have kept {c : Counter} (member : c ∈ a.counters.filter (fun c =>
      !(c.retired && c.cleanup != .pending && !a.queue.any (fun job => job.isFor c.ref)))) : c ∈ a.counters :=
    (List.mem_filter.mp member).1
  refine ⟨⟨calm.base.up, ?_, ?_, ?_, ?_⟩, ?_⟩
  · intro shut
    simp [calm.base.closed shut]
  · intro job member command subscription work
    obtain ⟨c, counted, named⟩ := calm.base.counted job member command subscription work
    have needed : a.queue.any (fun job => job.isFor c.ref) = true :=
      List.any_eq_true.mpr ⟨job, member, by simp [Job.isFor, work, named]⟩
    exact ⟨c, List.mem_filter.mpr ⟨counted, by simp [needed]⟩, named⟩
  · intro c member
    exact calm.base.known c (kept member)
  · intro c member
    exact calm.base.pending c (kept member)
  · intro holder held
    obtain ⟨owner, boundary, rfl, known, agrees, owned⟩ := calm.settled holder held
    refine ⟨owner, boundary, rfl, known, agrees, ?_, ?_⟩
    · obtain ⟨c, counted, named⟩ := owned.counted
      refine ⟨c, List.mem_filter.mpr ⟨counted, ?_⟩, named⟩
      by_cases retired : c.retired = true
      · simp [(owned.released c counted named retired).1]
      · simp [retired]
    · intro c member
      exact owned.released c (kept member)

theorem finish_calm : Calm w gone (a.finish oracle) := by
  have untouched : Untouched a { a with running := none } :=
    ⟨rfl, rfl, rfl, rfl, fun job member => ⟨job, member, fun _ _ same => same⟩⟩
  have stopped := untouched.calm calm
  unfold finish
  dsimp only
  split
  next over_ => simp [calm.base.up] at over_
  split
  · exact (begin_untouched _ oracle).calm stopped
  · exact prune_calm stopped

theorem loop_calm : Calm w gone (a.loop oracle) := by
  unfold loop
  split
  · exact (begin_untouched a oracle).calm calm
  split
  · exact cleanupFrom_calm 0 a.counters (fun _ member => member) calm
  · exact finish_calm calm

theorem drain_calm : Calm w gone (a.drain oracle) := by
  unfold drain
  split
  · exact calm
  · exact loop_calm calm

end

theorem cleanupFrom_stage (index : Nat) (rest : List Counter) (boundary : Boundary) :
    (a.cleanupFrom oracle index rest).running ≠ some (.command boundary) := by
  induction rest generalizing a index with
  | nil => simp [cleanupFrom, await]
  | cons counter rest ih =>
    unfold cleanupFrom
    split
    · exact ih _
    split
    · exact ih _
    split
    · exact ih _
    split
    · exact ih _
    · simp [await]

theorem begin_stage (idle : a.running ≠ some (.command boundary)) : (a.begin oracle).running ≠ some (.command boundary) := by
  unfold begin
  split
  · exact idle
  split
  · unfold beginProgrammatic
    split_ifs <;> simp [await]
  · unfold beginControl
    split_ifs <;> simp [await, replyError]

theorem finish_stage (boundary : Boundary) : (a.finish oracle).running ≠ some (.command boundary) := by
  unfold finish
  dsimp only
  split
  · simp
  split
  · exact begin_stage (by simp)
  · unfold prune
    split <;> simp

theorem loop_stage (idle : a.running ≠ some (.command boundary)) : (a.loop oracle).running ≠ some (.command boundary) := by
  unfold loop
  split
  · exact begin_stage idle
  split
  · exact cleanupFrom_stage 0 a.counters boundary
  · exact finish_stage boundary

/-! ## What happens at the server -/

def workerBound : Option Await → Bool
  | some .status | some .boundary | some (.command _) | some (.releasing ..) => true
  | _ => false

/-- A step that takes no answer of the worker: it leaves the boundary alone, sends a command under the boundary it
knows, and leaves a call that waits for the worker as it is. -/
structure Locally (before after : Arbiter) : Prop where
  boundary : after.boundary = before.boundary
  stage : ∀ boundary, after.running = some (.command boundary) →
    before.running = some (.command boundary) ∨ before.boundary = some boundary
  waits : workerBound before.running = true →
    after.running = before.running ∧ ∀ head, headControl before = some head → headControl after = some head

theorem Locally.refl (a : Arbiter) : Locally a a := ⟨rfl, fun _ same => .inl same, fun _ => ⟨rfl, fun _ same => same⟩⟩

theorem Locally.trans {first second third : Arbiter} (one : Locally first second) (two : Locally second third) :
    Locally first third where
  boundary := two.boundary.trans one.boundary
  stage boundary running := by
    rcases two.stage boundary running with before | known
    · exact one.stage boundary before
    · exact .inr (one.boundary ▸ known)
  waits bound := by
    obtain ⟨same, head⟩ := one.waits bound
    obtain ⟨still, kept⟩ := two.waits (same ▸ bound)
    exact ⟨still.trans same, fun x known => kept x (head x known)⟩

theorem Locally.of_head (boundary : after.boundary = a.boundary) (running : after.running = a.running)
    (head : ∀ x, headControl a = some x → headControl after = some x) : Locally a after :=
  ⟨boundary, fun _ same => .inl (running ▸ same), fun _ => ⟨running, head⟩⟩

/-- Such a step keeps a calm arbiter calm, with the subscriptions `left` gone after it. -/
structure Stays (w : Worker) (gone left : List SubscriptionRef) (a after : Arbiter) : Prop where
  locally : Locally a after
  calm : Calm w gone a → Calm w left after

theorem finish_boundary (a : Arbiter) (oracle : Oracle) : (a.finish oracle).boundary = a.boundary := by
  unfold finish
  dsimp only
  split
  · rfl
  split
  · exact (begin_untouched _ oracle).boundary
  · unfold prune
    split <;> rfl

theorem loop_boundary (a : Arbiter) (oracle : Oracle) : (a.loop oracle).boundary = a.boundary := by
  unfold loop
  split
  · exact (begin_untouched a oracle).boundary
  split
  · exact cleanupFrom_boundary 0 a.counters
  · exact finish_boundary a oracle

theorem drain_locally (a : Arbiter) (oracle : Oracle) : Locally a (a.drain oracle) := by
  cases running : a.running with
  | some =>
    have same : a.drain oracle = a := by simp [drain, running]
    rw [same]
    exact .refl a
  | none =>
    have boundary : (a.drain oracle).boundary = a.boundary := by
      unfold drain
      split
      · rfl
      · exact loop_boundary a oracle
    refine ⟨boundary, ?_, fun bound => by simp [running, workerBound] at bound⟩
    intro boundary sent
    unfold drain at sent
    split at sent
    · simp [running] at sent
    · exact absurd sent (loop_stage (by simp [running]))

variable {change : Job → Job}

theorem headControl_map {queue : List Job}
    (same : ∀ job command subscription, job.work = .control command subscription →
      (change job).work = .control command subscription) (before : a.queue = queue)
    (x : ControlCommand × SubscriptionRef) (head : headControl a = some x) :
    headControl { a with queue := queue.map change } = some x := by
  subst before
  cases known : a.queue with
  | nil => simp [headControl, known] at head
  | cons job =>
    cases work : job.work with
    | control => simpa [headControl, known, work, same job _ _ work] using head
    | programmatic => simp [headControl, known, work] at head

theorem headControl_append {a : Arbiter} {more : List Job} (queue : after.queue = a.queue ++ more)
    (x : ControlCommand × SubscriptionRef) (head : headControl a = some x) : headControl after = some x := by
  cases known : a.queue with
  | nil => simp [headControl, known] at head
  | cons =>
    simpa [headControl, known, queue] using head

theorem map_untouched (same : ∀ job command subscription, (change job).work = .control command subscription →
      job.work = .control command subscription) : Untouched a { a with queue := a.queue.map change } := by
  refine ⟨rfl, rfl, rfl, rfl, ?_⟩
  intro job member
  obtain ⟨old, kept, rfl⟩ := List.mem_map.mp member
  exact ⟨old, kept, same old⟩

theorem map_drain (same : ∀ job command subscription,
      (change job).work = .control command subscription ↔ job.work = .control command subscription) :
    Stays w gone gone a ({ a with queue := a.queue.map change }.drain oracle) := by
  constructor
  · have kept : Locally a { a with queue := a.queue.map change } :=
      .of_head rfl rfl (headControl_map (fun job command subscription => (same job command subscription).mpr) rfl)
    exact kept.trans (drain_locally _ oracle)
  · intro calm
    exact drain_calm ((map_untouched fun job command subscription => (same job command subscription).mp).calm calm)

theorem ready_work (condition : Job → Bool) (job : Job) (command : ControlCommand) (subscription : SubscriptionRef) :
    (if condition job then { job with ready := true } else job).work = .control command subscription ↔
      job.work = .control command subscription := by
  split <;> rfl

theorem cancel_work (id : Nat) (reason : String) (job : Job) (command : ControlCommand)
    (subscription : SubscriptionRef) :
    (if job.id = id then cancel reason job else job).work = .control command subscription ↔
      job.work = .control command subscription := by
  split
  · unfold cancel
    split
    next other cancelled work => simp [work]
    · rfl
  · rfl

theorem execute_local (id : Nat) : Stays w gone gone a (a.execute id oracle) := by
  apply map_drain
  intro job command subscription
  split <;> rfl

theorem cancelProgrammatic_local (id : Nat) (reason : String) :
    Stays w gone gone a (a.cancelProgrammatic id reason oracle) :=
  map_drain (cancel_work id reason)

theorem enqueue_locally {counters : List Counter} (work : Work) (payload : List UInt8) :
    Locally a (({ a with counters := counters }).enqueue work payload) :=
  .of_head rfl rfl (headControl_append rfl)

variable {budgets : EffectiveBudgets}

theorem admitProgrammatic_local (command : ProgramCommand) (bytes : List UInt8) (room : Room) :
    Stays w gone gone a (a.admitProgrammatic budgets command bytes room oracle) := by
  unfold admitProgrammatic
  split
  · exact ⟨.refl a, id⟩
  constructor
  · exact enqueue_locally _ _
  · intro calm
    refine ⟨⟨calm.base.up, (by intro shut; cases shut), ?_, calm.base.known, calm.base.pending⟩, calm.settled⟩
    intro job member control subscription work
    rcases mem_snoc member with old | rfl
    · exact calm.base.counted job old control subscription work
    · cases work

theorem admitted_counters {command : ControlCommand} {subscription : SubscriptionRef} {counters : List Counter}
    (made : counters = if (a.counter? subscription).isSome then
        a.counters.map (fun c => if c.ref == subscription then numbered command c else c)
      else a.counters ++ [numbered command (a.counterFor subscription)]) :
    (∀ c ∈ a.counters, ∃ kept ∈ counters, kept.ref = c.ref) ∧ (∃ c ∈ counters, c.ref = subscription) ∧
      ∀ c ∈ counters, (∃ old ∈ a.counters, c.ref = old.ref ∧ c.retired = old.retired ∧ c.cleanup = old.cleanup ∧
        c.cleanupEpoch = old.cleanupEpoch) ∨ (c.ref = subscription ∧ c.retired = false ∧ c.cleanup = .none) := by
  have same (c : Counter) : (numbered command c).ref = c.ref ∧ (numbered command c).retired = c.retired ∧
      (numbered command c).cleanup = c.cleanup ∧ (numbered command c).cleanupEpoch = c.cleanupEpoch := by
    unfold numbered
    split <;> exact ⟨rfl, rfl, rfl, rfl⟩
  cases found : a.counter? subscription with
  | some counter =>
    obtain rfl : counters = a.counters.map (fun c => if c.ref == subscription then numbered command c else c) := by
      simp [made, found]
    have kept (c : Counter) : (if c.ref == subscription then numbered command c else c).ref = c.ref := by
      split
      · exact (same c).1
      · rfl
    have member : counter ∈ a.counters := mem_of_find?_eq_some found
    have named : counter.ref = subscription := by simpa using find?_some found
    refine ⟨fun c within => ⟨_, List.mem_map.mpr ⟨c, within, rfl⟩, kept c⟩,
      ⟨_, List.mem_map.mpr ⟨counter, member, rfl⟩, (kept counter).trans named⟩, ?_⟩
    intro c within
    obtain ⟨old, before, rfl⟩ := List.mem_map.mp within
    refine .inl ⟨old, before, ?_⟩
    split
    · exact same old
    · exact ⟨rfl, rfl, rfl, rfl⟩
  | none =>
    obtain rfl : counters = a.counters ++ [numbered command (a.counterFor subscription)] := by
      simp [made, found]
    have fresh := same (a.counterFor subscription)
    simp only [counterFor, found] at fresh
    refine ⟨fun c within => ⟨c, mem_append_left _ within, rfl⟩,
      ⟨_, mem_append_right _ (mem_singleton_self _), ?_⟩, ?_⟩
    · simpa only [counterFor, found, getD_none] using fresh.1
    · intro c within
      rcases mem_snoc within with old | rfl
      · exact .inl ⟨c, old, rfl, rfl, rfl, rfl⟩
      right
      simp only [counterFor, found]
      exact ⟨fresh.1, fresh.2.1, fresh.2.2.1⟩

theorem refuseControl_current {command : ControlCommand} {subscription : SubscriptionRef}
    {earlierPending : Bool} {bytes : List UInt8} {room : Room}
    (admitted : a.refuseControl budgets command subscription earlierPending bytes room oracle = none) :
    oracle.current subscription = true := by
  unfold refuseControl at admitted
  split at admitted
  · cases admitted
  next live =>
    have both : a.disposed = false ∧ oracle.current subscription = true := by simpa using live
    exact both.2

theorem admitControl_local (command : ControlCommand) (subscription : SubscriptionRef)
    (earlierPending : Bool) (bytes : List UInt8) (room : Room) (present : ∀ ref, oracle.current ref = true → ref ∉ gone) :
    Stays w gone gone a (a.admitControl budgets command subscription earlierPending bytes room oracle) := by
  unfold admitControl
  split
  · exact ⟨.refl a, id⟩
  next admitted =>
  constructor
  · exact enqueue_locally _ _
  intro calm
  obtain ⟨kept, counted, origin⟩ := @admitted_counters a command subscription _ rfl
  have alive := present subscription (refuseControl_current admitted)
  refine ⟨⟨calm.base.up, (by intro shut; cases shut), ?_, ?_, ?_⟩, ?_⟩
  · intro job member control ref work
    rcases mem_snoc member with old | rfl
    · obtain ⟨c, before, named⟩ := calm.base.counted job old control ref work
      obtain ⟨still, within, same⟩ := kept c before
      exact ⟨still, within, same.trans named⟩
    · obtain ⟨rfl, rfl⟩ := Work.control.inj work
      exact counted
  · intro c member fresh
    rcases origin c member with ⟨old, before, ref, retired, -, -⟩ | ⟨ref, -, -⟩
    · rw [ref]
      exact calm.base.known old before (retired ▸ fresh)
    · rw [ref]
      exact alive
  · intro c member asks
    rcases origin c member with ⟨old, before, ref, retired, cleanup, -⟩ | ⟨-, -, cleanup⟩
    · rw [retired]
      exact calm.base.pending old before (cleanup ▸ asks)
    · rw [cleanup] at asks
      cases asks
  · intro holder held
    obtain ⟨owner, boundary, rfl, known, agrees, owned⟩ := calm.settled holder held
    refine ⟨owner, boundary, rfl, known, agrees, ?_, ?_⟩
    · obtain ⟨c, before, named⟩ := owned.counted
      obtain ⟨still, within, same⟩ := kept c before
      exact ⟨still, within, same.trans named⟩
    · intro c member named retired
      rcases origin c member with ⟨old, before, ref, same, cleanup, epoch⟩ | ⟨-, fresh, -⟩
      · rw [cleanup, epoch]
        exact owned.released old before (ref ▸ named) (same ▸ retired)
      · rw [fresh] at retired
        cases retired

theorem Base.leaves (base : Base gone a) (left : ∀ c ∈ a.counters, c.ref = ref → c.retired = true) :
    Base (ref :: gone) a where
  up := base.up
  closed := base.closed
  counted := base.counted
  known c member fresh within := by
    rcases mem_cons.mp within with named | earlier
    · rw [left c member named] at fresh
      cases fresh
    · exact base.known c member fresh earlier
  pending := base.pending

theorem counter?_isNone : (a.counter? ref).isNone = true ↔ ∀ c ∈ a.counters, c.ref ≠ ref := by
  simp [counter?]

/-- A retired counter; its cleanup is pending at the epoch its subscription held control in. -/
def retiring (held : Option Nat) (c : Counter) : Counter :=
  { c with
    retired := true
    cleanup := if held.isSome then .pending else c.cleanup
    cleanupEpoch := held.getD c.cleanupEpoch }

def HeldAt (a : Arbiter) (ref : SubscriptionRef) (held : Option Nat) : Prop :=
  ∀ boundary, a.boundary = some boundary → holds boundary.holder ref = true → held = some boundary.epoch

theorem retiring_named {held : Option Nat} {c : Counter} (member : c ∈ (a.setCounter ref (retiring held)).counters)
    (named : c.ref = ref) : ∃ old, c = retiring held old := by
  obtain ⟨old, -, rfl⟩ := mem_setCounter.mp member
  have same : (retiring held old).ref = old.ref := rfl
  rw [apply_ite Counter.ref, same, ite_self] at named
  exact ⟨old, if_pos (beq_iff_eq.mpr named)⟩

theorem retire_marks (calm : Calm w gone a) {held : Option Nat} (at_ : HeldAt a ref held) :
    Calm w gone (a.setCounter ref (retiring held)) := by
  have allowed : Change (retiring held) := ⟨fun _ => rfl, fun _ fresh => (by cases fresh), fun _ _ _ => rfl⟩
  refine ⟨setCounter_base allowed calm.base, ?_⟩
  intro holder recorded
  obtain ⟨owner, boundary, rfl, known, agrees, owned⟩ := calm.settled holder recorded
  refine ⟨owner, boundary, rfl, known, agrees, ?_⟩
  by_cases same : ref = owner
  · subst same
    obtain rfl := at_ boundary known (by simp [holds, agrees.holder, recorded])
    refine ⟨setCounter_counted allowed.ref owned.counted, ?_⟩
    intro c member named retired
    obtain ⟨old, rfl⟩ := retiring_named member named
    exact ⟨rfl, agrees.epoch⟩
  · exact setCounter_owned allowed.ref same owned

theorem setCounter_setCounter (a : Arbiter) (ref : SubscriptionRef) (first second : Counter → Counter)
    (same : ∀ c, (first c).ref = c.ref) :
    (a.setCounter ref first).setCounter ref second = a.setCounter ref (fun c => second (first c)) := by
  simp only [setCounter, List.map_map]
  congr 2
  funext c
  by_cases named : c.ref = ref <;> simp [named, same]

theorem retire_eq (a : Arbiter) (ref : SubscriptionRef) (oracle : Oracle)
    (counted : (!a.opened || (a.counter? ref).isNone) = false) :
    ∃ held, HeldAt a ref held ∧ a.retire ref oracle = ({ a.setCounter ref (retiring held) with
        queue := a.queue.map (fun job : Job => if job.isFor ref then { job with ready := true } else job) }).drain
          oracle := by
  unfold retire
  rw [counted]
  simp only [Bool.false_eq_true, if_false]
  cases known : a.boundary with
  | none => exact ⟨none, by simp [HeldAt, known], by simp [setCounter, known, retiring]⟩
  | some boundary =>
    by_cases held : holds boundary.holder ref = true
    · refine ⟨some boundary.epoch, ?_, ?_⟩
      · rintro other same -
        rw [some.inj (known.symm.trans same)]
      · have twice := setCounter_setCounter a ref (fun c => { c with retired := true })
          (fun c => { c with cleanup := .pending, cleanupEpoch := boundary.epoch }) (fun _ => rfl)
        simp only [setCounter] at twice
        simp only [setCounter, known, held, if_true]
        rw [mk.injEq] at twice
        simp only [twice]
        rfl
    · refine ⟨none, ?_, ?_⟩
      · rintro other same holding
        obtain rfl := some.inj (known.symm.trans same)
        exact absurd holding held
      · simp [setCounter, known, held, retiring]

theorem retire_local (ref : SubscriptionRef) : Stays w gone (ref :: gone) a (a.retire ref oracle) := by
  by_cases counted : (!a.opened || (a.counter? ref).isNone) = true
  · have same : a.retire ref oracle = a := by
      unfold retire
      rw [if_pos counted]
    rw [same]
    refine ⟨.refl a, fun calm => ⟨calm.base.leaves ?_, calm.settled⟩⟩
    intro c member named
    rcases Bool.or_eq_true_iff.mp counted with shut | absent
    · rw [calm.base.closed (by simpa using shut)] at member
      cases member
    · exact absurd named (counter?_isNone.mp absent c member)
  · obtain ⟨held, at_, same⟩ := retire_eq a ref oracle (Bool.eq_false_iff.mpr counted)
    rw [same]
    have readied := ready_work (fun job => job.isFor ref)
    constructor
    · refine Locally.trans (.of_head ?_ ?_ ?_) (drain_locally _ oracle)
      · rfl
      · rfl
      · exact fun x head => headControl_map (fun job command subscription => (readied job command subscription).mpr) rfl x head
    · intro calm
      apply drain_calm
      have marked := retire_marks calm at_
      have moved := (map_untouched (fun job command subscription => (readied job command subscription).mp)).calm marked
      refine ⟨moved.base.leaves ?_, moved.settled⟩
      intro c member named
      obtain ⟨old, rfl⟩ := retiring_named member named
      rfl

theorem Locally.of_stage (boundary : after.boundary = a.boundary)
    (other : workerBound a.running = false) (unsent : ∀ boundary, after.running ≠ some (.command boundary)) :
    Locally a after where
  boundary := boundary
  stage boundary sent := absurd sent (unsent boundary)
  waits bound := by
    rw [other] at bound
    cases bound

theorem await_local {stage : Await} (other : workerBound a.running = false)
    (unsent : ∀ boundary, stage ≠ .command boundary) : Stays w gone gone a (a.await stage) :=
  ⟨.of_stage rfl other (fun boundary sent => unsent boundary (some.inj sent)), (await_untouched a stage).calm⟩

theorem accepted_local (answer : AcceptAnswer) : Stays w gone gone a (a.accepted answer oracle) := by
  unfold accepted
  split
  next job running queued =>
    have other : workerBound a.running = false := by rw [running]; rfl
    split
    · unfold acceptAnswered
      split
      · exact await_local other (by simp)
      · exact await_local other (by simp)
      split
      · exact await_local other (by simp)
      · exact ⟨.of_stage rfl other (by simp [await]),
          ((dispatch_untouched a _).trans (await_untouched _ _)).calm⟩
    · exact ⟨.refl a, id⟩
  · exact ⟨.refl a, id⟩

theorem written_local (answer : WriteAnswer) : Stays w gone gone a (a.written answer) := by
  unfold written
  split
  next running _ => exact await_local (by rw [running]; rfl) (by simp)
  · exact ⟨.refl a, id⟩

theorem performBounded_local (job : Job) (command : ControlCommand) (subscription : SubscriptionRef)
    (failure : Option DomainError) (other : workerBound a.running = false) :
    Stays w gone gone a (a.performBounded job command subscription failure oracle) := by
  have reply (error : DomainError) :
      Stays w gone gone a (a.replyError error) :=
    await_local other (by simp)
  unfold performBounded
  split
  · exact reply _
  split
  · exact reply _
  split
  · exact ⟨.of_stage rfl other (by simp [failControl, replyError, await]),
      (failControl_untouched a command).calm⟩
  next boundary known =>
  split
  · exact reply _
  split
  · exact reply _
  refine ⟨⟨rfl, ?_, fun bound => by simp [other] at bound⟩,
    ((dispatch_untouched a _).trans (await_untouched _ _)).calm⟩
  intro sent running
  obtain rfl : boundary = sent := by simpa [await] using running
  exact .inr known

theorem settled_local (untouched : Untouched a after) (running : after.running = a.running)
    (other : workerBound a.running = false) : Stays w gone gone a (after.loop oracle) := by
  constructor
  · refine .of_stage ((loop_boundary after oracle).trans untouched.boundary) other ?_
    intro boundary
    apply loop_stage
    rw [running]
    intro sent
    rw [sent] at other
    cases other
  · exact fun calm => loop_calm (untouched.calm calm)

theorem resume_local : Stays w gone gone a (a.resume oracle) := by
  unfold resume
  split
  next _ running =>
    exact ⟨.of_stage (finish_boundary a oracle) (congrArg workerBound running) finish_stage, finish_calm⟩
  next receipt job running queued =>
    split
    · exact settled_local ⟨rfl, rfl, rfl, rfl, tail_queue⟩ rfl (congrArg workerBound running)
    · exact ⟨.refl a, id⟩
  next reply job running queued =>
    split
    · exact settled_local ⟨rfl, rfl, rfl, rfl, tail_queue⟩ rfl (congrArg workerBound running)
    · exact ⟨.refl a, id⟩
  next failure job running queued =>
    split
    · exact performBounded_local job _ _ failure (congrArg workerBound running)
    · exact ⟨.refl a, id⟩
  · exact ⟨.refl a, id⟩

theorem step_local (budgets : EffectiveBudgets) (w : Worker) (s : System) (event : ControlArbiter.Event)
    (oracle : Oracle) (here : isLocal event = true) :
    Stays w s.gone (s.leaving event).gone s.arbiter (ControlArbiter.step budgets s.arbiter (event, (s.leaving event).restrict oracle)) := by
  cases event with
  | admitControl command subscription earlierPending bytes room =>
    have present : ∀ ref, (s.restrict oracle).current ref = true → ref ∉ s.gone := by
      intro ref current
      simp only [System.restrict, Bool.and_eq_true, Bool.not_eq_true', contains_eq_mem, decide_eq_false_iff_not]
        at current
      exact current.2
    exact admitControl_local command subscription earlierPending bytes room present
  | admitProgrammatic command bytes room => exact admitProgrammatic_local command bytes room
  | execute id => exact execute_local id
  | cancelProgrammatic id reason => exact cancelProgrammatic_local id reason
  | retire ref => exact retire_local ref
  | accepted answer => exact accepted_local answer
  | written answer => exact written_local answer
  | resume => exact resume_local
  | tick => exact ⟨drain_locally _ _, drain_calm⟩
  | status answer | commanded answer | released answer | fact fact | dispose => cases here

end Drain

end Cove.Runtime.ControlOwner
