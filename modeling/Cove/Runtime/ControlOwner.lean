import Cove.Runtime.ControlDrain

/-!
Who holds control of a run. As long as no answer of the worker is lost, control that is held is held by a
subscription the server knows; a command that is executed after its answer was given up breaks this.
-/

namespace Cove.Runtime.ControlOwner
open Base.Run Protocol.Budgets Protocol.Frame Protocol.Identity Protocol.Pipe List Bool Option
open Protocol.Terminal Runtime.ControlArbiter Arbiter

/-! ## Answers of the worker -/

variable {boundary : Boundary} {subscription : SubscriptionRef} {answer : CommandAnswer} {command : ControlCommand}
  {atSeq : Nat}

variable {fact : RunFact} {w' : Worker}

section Answers
variable {w : Worker} {gone : List SubscriptionRef} {a : Arbiter} {oracle : Oracle}

theorem headControl_some (head : headControl a = some (command, subscription)) :
    ∃ job, a.queue.head? = some job ∧ job.work = .control command subscription := by
  unfold headControl at head
  split at head
  next other ref work =>
    obtain ⟨job, queued, same⟩ := map_eq_some_iff.mp work
    obtain ⟨rfl, rfl⟩ := Prod.mk.inj (some.inj head)
    exact ⟨job, queued, same⟩
  · cases head

/-- A fact of the history tells the boundary nothing the worker does not know better. -/
theorem onEvent_settled (member : fact ∈ w.history) (settled : Settled w a) : Settled w (a.onEvent fact) := by
  intro holder held
  obtain ⟨owner, boundary, rfl, known, agrees, owned⟩ := settled holder held
  unfold onEvent
  rw [known]
  split
  · exact ⟨owner, boundary, rfl, known, agrees, owned⟩
  next later =>
  have past : boundary.atSeq < fact.seq := by
    have both : a.opened = true ∧ boundary.atSeq < fact.seq := by simpa using later
    exact both.2
  cases fact with
  | control seq epoch told geometry =>
    obtain ⟨sameEpoch, sameHolder⟩ := agrees.latest seq epoch told geometry member past
    refine ⟨owner, _, rfl, rfl, ⟨sameEpoch, sameHolder, ?_⟩, owned⟩
    intro next epoch' holder' geometry' within beyond
    exact agrees.latest next epoch' holder' geometry' within (past.trans beyond)
  | resize => exact ⟨owner, _, rfl, rfl, agrees.later past.le, owned⟩
  | exit => exact ⟨owner, boundary, rfl, rfl, agrees, owned⟩
  | other => exact ⟨owner, boundary, rfl, known, agrees, owned⟩

def moves : RunFact → Bool
  | .control .. | .resize .. => true
  | _ => false

/-- The arbiter's boundary is not beyond this fact. -/
def Bounded (a : Arbiter) (bound : Nat) : Prop := ∀ boundary, a.boundary = some boundary → boundary.atSeq ≤ bound

theorem onEvent_bounded {bound : Nat} (within : moves fact = true → fact.seq ≤ bound) (bounded : Bounded a bound) :
    Bounded (a.onEvent fact) bound := by
  unfold onEvent
  split
  · exact bounded
  cases fact with
  | control =>
    intro boundary moved
    obtain rfl := some.inj moved
    exact within rfl
  | resize =>
    intro boundary moved
    obtain ⟨known, -, rfl⟩ := map_eq_some_iff.mp moved
    exact within rfl
  | exit seq | other seq => exact bounded

theorem onEvent_rest (a : Arbiter) (fact : RunFact) :
    ∃ boundary uncertain, a.onEvent fact = { a with boundary := boundary, uncertain := uncertain } := by
  unfold onEvent
  split
  · exact ⟨_, _, rfl⟩
  · split <;> exact ⟨_, _, rfl⟩

structure Reading (w : Worker) (status : RunStatus) : Prop where
  epoch : status.controlEpoch = w.epoch
  holder : status.controlHolder = w.holder
  parsed : ∀ parsedSeq, status.parsedSeq = some parsedSeq → parsedSeq ≤ w.seq ∧
    ∀ seq epoch holder geometry, .control seq epoch holder geometry ∈ w.history → seq ≤ parsedSeq

variable {status : RunStatus}

theorem Quietly.reading (quietly : Quietly w w') (reading : Reading w status) : Reading w' status where
  epoch := reading.epoch.trans quietly.epoch.symm
  holder := reading.holder.trans quietly.holder.symm
  parsed parsedSeq known := by
    obtain ⟨bound, latest⟩ := reading.parsed parsedSeq known
    exact ⟨bound.trans quietly.grows, fun seq epoch holder geometry member =>
      latest seq epoch holder geometry (quietly.facts _ _ _ _ member)⟩

theorem Reading.calm {parsedSeq : Nat} (reading : Reading w status)
    (known : status.parsedSeq = some parsedSeq) (calm : Calm w gone a) : Calm w gone { a with
      boundary := some ⟨status.controlEpoch, status.controlHolder, status.geometry, parsedSeq⟩
      uncertain := false } := by
  refine ⟨{ calm.base with }, ?_⟩
  intro holder held
  obtain ⟨owner, boundary, rfl, -, -, owned⟩ := calm.settled holder held
  refine ⟨owner, _, rfl, rfl, ⟨reading.epoch, reading.holder, ?_⟩, owned⟩
  intro seq epoch told geometry member beyond
  have past : parsedSeq < seq := beyond
  have bound := (reading.parsed parsedSeq known).2 seq epoch told geometry member
  omega

/-- What an answer of the worker leaves behind: the arbiter is calm, knows nothing from the future and has sent no
further command. -/
structure Answered (w : Worker) (gone : List SubscriptionRef) (a : Arbiter) : Prop where
  calm : Calm w gone a
  bounded : ∀ boundary, a.boundary = some boundary → boundary.atSeq ≤ w.seq
  unsent : ∀ boundary, a.running ≠ some (.command boundary)

theorem Answered.of_untouched {after : Arbiter} (untouched : Untouched a after) (calm : Calm w gone a)
    (bounded : Bounded a w.seq)
    (unsent : ∀ boundary, after.running ≠ some (.command boundary)) : Answered w gone after :=
  ⟨untouched.calm calm, untouched.boundary ▸ bounded, unsent⟩

section Asked
variable (calm : Calm w gone a) (bounded : Bounded a w.seq)
include calm bounded

theorem await_answered {stage : Await} (unsent : ∀ boundary, stage ≠ .command boundary) :
    Answered w gone (a.await stage) :=
  .of_untouched (await_untouched a stage) calm bounded (fun boundary sent => unsent boundary (some.inj sent))

theorem failControl_answered (command : ControlCommand) : Answered w gone (a.failControl command) :=
  .of_untouched (failControl_untouched a command) calm bounded
    (by simp [failControl, replyError, await])

omit bounded in
theorem read_answered {parsedSeq : Nat} (reading : Reading w status)
    (known : status.parsedSeq = some parsedSeq) {stage : Await} (unsent : ∀ boundary, stage ≠ .command boundary) :
    Answered w gone (({ a with
      boundary := some ⟨status.controlEpoch, status.controlHolder, status.geometry, parsedSeq⟩
      uncertain := false }).await stage) := by
  apply await_answered (reading.calm known calm) _ unsent
  intro boundary moved
  obtain rfl := some.inj moved
  exact (reading.parsed parsedSeq known).1

theorem status_answered {answer : StatusAnswer} (asked : asksStatus a.running = true)
    (truthful : ∀ status, answer = .result true (some status) → Reading w status) :
    Answered w gone (a.status answer oracle) := by
  have back {stage : Await} (unsent : ∀ boundary, stage ≠ .command boundary) : Answered w gone (a.await stage) :=
    await_answered calm bounded unsent
  unfold status
  split
  · unfold statusAnswered
    cases answer with
    | threw | error error => exact back (by simp)
    | result accepted status =>
      dsimp only
      split
      · exact back (by simp)
      next live =>
      obtain rfl : accepted = true := by
        have both : a.runLive oracle = true ∧ accepted = true := by simpa using live
        exact both.2
      split
      · exact back (by simp)
      next status =>
      split
      · exact back (by simp)
      split
      · exact back (by simp)
      next parsedSeq known =>
      have reading := truthful status rfl
      split
      · exact back (by simp)
      split
      · exact read_answered calm reading known (by simp)
      split
      · exact read_answered calm reading known (by simp)
      · exact read_answered calm reading known (by simp)
  · next command subscription _ _ =>
    unfold boundaryAnswered
    split
    · exact failControl_answered calm bounded command
    split
    · exact back (by simp)
    split
    · exact back (by simp)
    · next status _ =>
      have reading := truthful status rfl
      split
      · exact back (by simp)
      split
      · exact back (by simp)
      next parsedSeq known =>
      split
      · exact back (by simp)
      · exact read_answered calm reading known (by simp)
    · exact back (by simp)
  · refine ⟨calm, bounded, ?_⟩
    intro boundary sent
    rw [sent] at asked
    cases asked

theorem commandAnswered_refused {job : Job} (refused : refuses answer = true ∨ leavesOpen answer = true) :
    Answered w gone (a.commandAnswered job boundary command subscription answer oracle) := by
  have error (error : DomainError) (uncertain : Bool) :
      Answered w gone (({ a with uncertain := uncertain }).replyError error) :=
    .of_untouched ((uncertain_untouched a uncertain).trans (replyError_untouched _ error)) calm bounded
      (by simp [Arbiter.replyError, Arbiter.await])
  have plain (failure : DomainError) : Answered w gone (a.replyError failure) := error failure a.uncertain
  cases answer with
  | threw => exact failControl_answered calm bounded command
  | error failure =>
    simp only [Arbiter.commandAnswered, Arbiter.failure]
    split
    · exact error failure true
    · exact plain failure
  | result outcome =>
    cases outcome with
    | accepted => simp [refuses, leavesOpen] at refused
    | unknown | rejected =>
      simp only [Arbiter.commandAnswered, Arbiter.failure]
      split
      · exact error _ true
      · exact plain _

end Asked

theorem grant_change (epoch atSeq : Nat) : Change (grant epoch atSeq) where
  ref _ := rfl
  retired _ fresh := fresh
  pending c before asks := by
    by_cases retired : c.retired = true
    · exact retired
    · have cleanup : (grant epoch atSeq c).cleanup = c.cleanup := by simp [grant, retired]
      exact before (cleanup ▸ asks)

theorem commandAccepted_eq (command : ControlCommand) (subscription : SubscriptionRef)
    (oracle : Oracle) (captured : boundary.atSeq ≤ atSeq) (known : Bounded a atSeq) :
    ∃ reply : ControlReply, a.commandAccepted boundary command subscription (some atSeq) oracle = (match command with
        | .focus .. =>
          ({ a with boundary := some (movedBoundary boundary subscription atSeq command) }).setCounter
            subscription (grant (movedBoundary boundary subscription atSeq command).epoch atSeq)
        | _ => { a with boundary := some (movedBoundary boundary subscription atSeq command) }).await
          (.replied reply) := by
  have fresh : ¬atSeq < boundary.atSeq := by omega
  have current : a.boundary.any (fun known => decide (known.atSeq > atSeq)) = false := by
    cases found : a.boundary with
    | none => rfl
    | some boundary =>
      have := known boundary found
      simpa using this
  unfold commandAccepted
  simp only [fresh, current, false_eq_true, if_false]
  -- the reply depends on whether the route is still current
  cases command <;> (dsimp only; split <;> exact ⟨_, rfl⟩)

theorem focus_answered {focusSeq atSeq : Nat} {geometry : Geometry} {appearance : Option Appearance} (base : Base gone a) (counted : ∃ c ∈ a.counters, c.ref = subscription)
    (epoch : w.epoch = boundary.epoch + 1) (holder : w.holder = some (holderOf subscription))
    (facts : ∀ fact ∈ w.history, moves fact = true → fact.seq ≤ atSeq) (past : atSeq ≤ w.seq)
    (captured : boundary.atSeq ≤ atSeq) (known : Bounded a atSeq) : Answered w gone
      (a.commandAccepted boundary (.focus focusSeq geometry appearance) subscription (some atSeq) oracle) := by
  obtain ⟨reply, same⟩ := commandAccepted_eq (.focus focusSeq geometry appearance) subscription oracle captured known
  rw [same]
  apply await_answered _ _ (by simp)
  · refine ⟨setCounter_base (grant_change _ _) { base with }, ?_⟩
    intro held recorded
    rw [holder] at recorded
    obtain rfl := some.inj recorded
    refine ⟨subscription, _, rfl, rfl, ⟨epoch.symm, holder.symm, ?_⟩, ?_, ?_⟩
    · intro seq epoch' holder' geometry' member beyond
      have bound := facts _ member rfl
      have later : atSeq < seq := beyond
      exact absurd bound (by simpa [RunFact.seq] using later)
    · exact setCounter_counted (grant_change _ _).ref counted
    · intro c member named retired
      obtain ⟨old, before, rfl⟩ := mem_setCounter.mp member
      by_cases target : old.ref = subscription
      · rw [if_pos (beq_iff_eq.mpr target)] at retired ⊢
        have gone : old.retired = true := retired
        simp [grant, gone, epoch, movedBoundary]
      · rw [if_neg (by simpa using target)] at named
        exact absurd named target
  · intro moved found
    obtain rfl := some.inj found
    exact past

theorem plain_answered {job : Job} {inputSeq writtenBytes : Option Nat} (calm : Calm w gone a)
    (plain : ∀ focusSeq geometry appearance, command ≠ .focus focusSeq geometry appearance)
    (freed : ∀ epoch, command = .blur epoch → w.holder = none)
    (agrees : w.holder.isSome = true → Agrees w boundary) (past : atSeq ≤ w.seq)
    (captured : boundary.atSeq ≤ atSeq) (known : Bounded a atSeq) :
    Answered w gone (a.commandAnswered job boundary command subscription
      (.result .accepted (some atSeq) inputSeq writtenBytes) oracle) := by
  have bounded : Bounded a w.seq :=
    fun boundary found => (known boundary found).trans past
  have moved {boundary : Boundary} {reply : ControlReply} (seq : boundary.atSeq = atSeq)
      (truthful : w.holder.isSome = true → Agrees w boundary) :
      Answered w gone (({ a with boundary := some boundary }).await (.replied reply)) := by
    apply await_answered _ _ (by simp)
    · refine ⟨{ calm.base with }, ?_⟩
      intro holder held
      obtain ⟨owner, -, rfl, -, -, owned⟩ := calm.settled holder held
      exact ⟨owner, boundary, rfl, rfl, truthful (by simp [held]), owned⟩
    · intro other found
      obtain rfl := some.inj found
      exact seq.trans_le past
  obtain ⟨reply, same⟩ := commandAccepted_eq command subscription oracle captured known
  cases command with
  | focus focusSeq geometry appearance => exact absurd rfl (plain focusSeq geometry appearance)
  | blur epoch =>
    simp only [Arbiter.commandAnswered, Arbiter.failure, same]
    refine moved ?_ ?_
    · rfl
    · simp [freed epoch rfl]
  | resize | appearance =>
    simp only [Arbiter.commandAnswered, Arbiter.failure, same]
    refine moved ?_ ?_
    · rfl
    · exact fun held => (agrees held).later captured
  | input =>
    simp only [Arbiter.commandAnswered, Arbiter.failure]
    split
    · exact await_answered calm bounded (by simp)
    · exact await_answered calm bounded (by simp)

theorem release_answered {counter : Counter} (index : Nat) (base : Base gone a) (free : w.holder = none)
    (bounded : Bounded a w.seq)
    (past : ∀ atSeq inputSeq writtenBytes, answer = .result .accepted (some atSeq) inputSeq writtenBytes → atSeq ≤ w.seq) :
    Answered w gone ((a.releaseAnswered boundary counter answer).cleanupFrom oracle (index + 1)
      ((a.releaseAnswered boundary counter answer).counters.drop (index + 1))) := by
  have unknown : Change (fun c : Counter => { c with cleanup := .unknown }) :=
    ⟨fun _ => rfl, fun _ fresh => fresh, fun _ _ asks => (by cases asks)⟩
  have released : Base gone (a.releaseAnswered boundary counter answer) ∧
      ∀ boundary', (a.releaseAnswered boundary counter answer).boundary = some boundary' → boundary'.atSeq ≤ w.seq := by
    have failed : Base gone (({ a with uncertain := true }).setCounter counter.ref
        (fun c => { c with cleanup := .unknown })) :=
      setCounter_base unknown ((uncertain_untouched a true).base base)
    unfold releaseAnswered
    dsimp only
    split
    · split
      · exact ⟨base, bounded⟩
      · exact ⟨failed, bounded⟩
    · next atSeq inputSeq writtenBytes =>
      have given : Base gone (a.setCounter counter.ref (fun c => { c with cleanup := .none })) :=
        setCounter_base giveUp_change base
      split
      · split
        · refine ⟨{ given with }, ?_⟩
          intro moved found
          obtain rfl := some.inj found
          exact past _ _ _ rfl
        · exact ⟨given, bounded⟩
      · exact ⟨failed, bounded⟩
    · exact ⟨failed, bounded⟩
  refine ⟨⟨cleanupFrom_base _ _ released.1, ?_⟩, ?_, cleanupFrom_stage _ _⟩
  · intro holder held
    rw [free] at held
    cases held
  · rw [cleanupFrom_boundary]
    exact released.2

theorem busy_answered {counter : Counter} (index : Nat) (calm : Calm w gone a) (busy : isBusy answer = true)
    (bounded : Bounded a w.seq) :
    Answered w gone ((a.releaseAnswered boundary counter answer).cleanupFrom oracle (index + 1)
      ((a.releaseAnswered boundary counter answer).counters.drop (index + 1))) := by
  have same : a.releaseAnswered boundary counter answer = a := by
    cases answer with
    | error error =>
      have both : error.acceptance = .notAccepted ∧ error.kind = .busy := by simpa [isBusy] using busy
      simp [releaseAnswered, both]
    | threw | result outcome atSeq inputSeq writtenBytes => cases busy
  rw [same]
  refine ⟨cleanupFrom_calm _ _ (fun c member => mem_of_mem_drop member) calm, ?_, cleanupFrom_stage _ _⟩
  rw [cleanupFrom_boundary]
  exact bounded

end Answers

/-! ## The whole system -/

/-- What an executed command has done, while its answer is on the way. -/
inductive Effect (atSeq : Nat) (w : Worker) (a : Arbiter) : Prop where
  | released (index : Nat) (boundary : Boundary) (running : a.running = some (.releasing index boundary))
      (free : w.holder = none)
  | granted (boundary : Boundary) (focusSeq : Nat) (geometry : Geometry) (appearance : Option Appearance)
      (subscription : SubscriptionRef) (running : a.running = some (.command boundary))
      (head : headControl a = some (.focus focusSeq geometry appearance, subscription))
      (epoch : w.epoch = boundary.epoch + 1) (holder : w.holder = some (holderOf subscription))
      (captured : boundary.atSeq ≤ atSeq)
  | kept (boundary : Boundary) (command : ControlCommand) (subscription : SubscriptionRef)
      (running : a.running = some (.command boundary)) (head : headControl a = some (command, subscription))
      (plain : ∀ focusSeq geometry appearance, command ≠ .focus focusSeq geometry appearance)
      (freed : ∀ epoch, command = .blur epoch → w.holder = none) (settled : Settled w a)
      (agrees : w.holder.isSome = true → Agrees w boundary) (captured : boundary.atSeq ≤ atSeq)

/-- The command was executed at `atSeq`, and control has not moved since. -/
structure Executed (atSeq : Nat) (w : Worker) (a : Arbiter) : Prop where
  past : atSeq ≤ w.seq
  known : ∀ boundary, a.boundary = some boundary → boundary.atSeq ≤ atSeq
  facts : ∀ fact ∈ w.history, moves fact = true → fact.seq ≤ atSeq
  effect : Effect atSeq w a

def Phase (w : Worker) (a : Arbiter) : Option Handled → Prop
  | none => Settled w a ∧ Aligned w a
  | some (.read status) => asksStatus a.running = true ∧ Reading w status ∧ Settled w a
  | some (.executed atSeq) => Executed atSeq w a

variable {w : Worker}

theorem Effect.stays {a a' : Arbiter} (effect : Effect atSeq w a) (waits : workerBound a.running = true →
      a'.running = a.running ∧ ∀ head, headControl a = some head → headControl a' = some head)
    (same : SameControl w w') (settles : Settled w a → Settled w' a') : Effect atSeq w' a' := by
  cases effect with
  | released index boundary running free =>
    obtain ⟨still, -⟩ := waits (by rw [running]; rfl)
    exact .released index boundary (still.trans running) (same.holder.trans free)
  | granted boundary focusSeq geometry appearance subscription running head epoch holder captured =>
    obtain ⟨still, first⟩ := waits (by rw [running]; rfl)
    exact .granted boundary focusSeq geometry appearance subscription (still.trans running) (first _ head)
      (same.epoch.trans epoch) (same.holder.trans holder) captured
  | kept boundary command subscription running head plain freed settled agrees captured =>
    obtain ⟨still, first⟩ := waits (by rw [running]; rfl)
    refine .kept boundary command subscription (still.trans running) (first _ head) plain ?_ (settles settled) ?_ captured
    · exact fun epoch blurs => same.holder.trans (freed epoch blurs)
    · exact fun held => same.agrees (agrees (same.holder ▸ held))

structure Inv (s : System) : Prop where
  base : Base s.gone s.arbiter
  numbered : s.worker.Numbered
  bounded : ∀ boundary, s.arbiter.boundary = some boundary → boundary.atSeq ≤ s.worker.seq
  strays : ∀ order ∈ s.strays, order.isInput = true
  phase : Phase s.worker s.arbiter s.handled

variable {a : Arbiter}

theorem Answered.inv {s : System} {strays : List Order} (answered : Answered s.worker s.gone a)
    (numbered : s.worker.Numbered) (inputs : ∀ order ∈ strays, order.isInput = true) :
    Inv { s with arbiter := a, handled := none, strays := strays } where
  base := answered.calm.base
  numbered := numbered
  bounded := answered.bounded
  strays := inputs
  phase := ⟨answered.calm.settled, fun boundary sent => absurd sent (answered.unsent boundary)⟩

section Steps
variable {s : System} {oracle : Oracle}

theorem workerBound_of_asksStatus {stage : Option Await} (asked : asksStatus stage = true) : workerBound stage = true := by
  unfold asksStatus at asked
  split at asked
  · rfl
  · rfl
  · cases asked

/-- The worker a run without a holder would have: what is left is what the counters keep on their own. -/
theorem base_calm {gone : List SubscriptionRef} (w : Worker) (base : Base gone a) :
    Calm { w with holder := none } gone a :=
  ⟨base, fun _ held => by cases held⟩

variable (budgets : EffectiveBudgets)

theorem server_inv (inv : Inv s) (event : ControlArbiter.Event) : Inv (s.step budgets (.server event, oracle)) := by
  unfold System.step
  dsimp only
  split
  case isFalse => exact inv
  case isTrue here =>
    have same : (s.leaving event).arbiter = s.arbiter ∧ (s.leaving event).worker = s.worker ∧
        (s.leaving event).handled = s.handled ∧ (s.leaving event).strays = s.strays := by
      cases event <;> exact ⟨rfl, rfl, rfl, rfl⟩
    obtain ⟨sameArbiter, sameWorker, sameHandled, sameStrays⟩ := same
    rw [sameArbiter]
    have moved (w : Worker) := step_local budgets w s event oracle here
    generalize ControlArbiter.step budgets s.arbiter (event, (s.leaving event).restrict oracle) = after at moved ⊢
    have locally_ : Locally s.arbiter after := (moved s.worker).1
    have calm {w : Worker} : Calm w s.gone s.arbiter → Calm w (s.leaving event).gone after := (moved w).2
    constructor
    · exact (calm (base_calm s.worker inv.base)).base
    · rw [sameWorker]
      exact inv.numbered
    · rw [sameWorker]
      rw [locally_.boundary]
      exact inv.bounded
    · rw [sameStrays]
      exact inv.strays
    · rw [sameWorker, sameHandled]
      have phase := inv.phase
      revert phase
      cases handled : s.handled with
      | none =>
        rintro ⟨settled, aligned⟩
        have next := (calm ⟨inv.base, settled⟩).settled
        refine ⟨next, ?_⟩
        intro boundary sent
        rcases locally_.stage boundary sent with before | known
        · exact aligned boundary before
        refine ⟨inv.bounded boundary known, fun held => ?_⟩
        obtain ⟨holder, recorded⟩ := isSome_iff_exists.mp held
        obtain ⟨owner, other, -, found, agrees, -⟩ := settled holder recorded
        obtain rfl : boundary = other := some.inj (known.symm.trans found)
        exact agrees
      | some work =>
        cases work with
        | read =>
          rintro ⟨asked, reading, settled⟩
          have waits := locally_.waits (workerBound_of_asksStatus asked)
          exact ⟨waits.1 ▸ asked, reading, (calm ⟨inv.base, settled⟩).settled⟩
        | executed =>
          intro executed
          refine ⟨executed.past, locally_.boundary ▸ executed.known, executed.facts, ?_⟩
          apply executed.effect.stays locally_.waits (Quietly.refl s.worker).toSameControl
          exact fun settled => (calm ⟨inv.base, settled⟩).settled

theorem quietly_inv (quietly : Quietly s.worker w)
    (silent : ∀ fact ∈ w.history, moves fact = true → fact ∈ s.worker.history) (inv : Inv s) :
    Inv { s with worker := w } where
  base := inv.base
  numbered := quietly.numbered inv.numbered
  bounded boundary known := (inv.bounded boundary known).trans quietly.grows
  strays := inv.strays
  phase := by
    have phase := inv.phase
    revert phase
    cases s.handled with
    | none => exact fun ⟨settled, aligned⟩ => ⟨quietly.settled settled, quietly.aligned quietly.grows aligned⟩
    | some work =>
      cases work with
      | read =>
        exact fun ⟨asked, reading, settled⟩ => ⟨asked, quietly.reading reading, quietly.settled settled⟩
      | executed =>
        intro executed
        refine ⟨executed.past.trans quietly.grows, executed.known, ?_, ?_⟩
        · exact fun fact member moving => executed.facts fact (silent fact member moving) moving
        · exact executed.effect.stays (fun _ => ⟨rfl, fun _ head => head⟩) quietly.toSameControl quietly.settled

theorem fact_inv (member : fact ∈ s.worker.history) (inv : Inv s) :
    Inv { s with arbiter := s.arbiter.onEvent fact } := by
  obtain ⟨_, _, rest⟩ := onEvent_rest s.arbiter fact
  have running := congrArg Arbiter.running rest
  have head : headControl (s.arbiter.onEvent fact) = headControl s.arbiter := by
    rw [rest]
    rfl
  refine ⟨?_, inv.numbered, ?_, inv.strays, ?_⟩
  · rw [rest]
    exact { inv.base with }
  · exact onEvent_bounded (fun _ => inv.numbered fact member) inv.bounded
  · have phase := inv.phase
    revert phase
    cases s.handled with
    | none =>
      rintro ⟨settled, aligned⟩
      refine ⟨onEvent_settled member settled, ?_⟩
      unfold Aligned
      rw [running]
      exact aligned
    | some work =>
      cases work with
      | read =>
        rintro ⟨asked, reading, settled⟩
        exact ⟨running ▸ asked, reading, onEvent_settled member settled⟩
      | executed =>
        intro executed
        refine ⟨executed.past, onEvent_bounded (executed.facts fact member) executed.known, executed.facts, ?_⟩
        exact executed.effect.stays (fun _ => ⟨running, fun _ known => head.trans known⟩)
          (Quietly.refl s.worker).toSameControl (onEvent_settled member)

theorem reads_inv (inv : Inv s) (given : RunStatus) (oracle : Oracle) (budgets : EffectiveBudgets) :
    Inv (s.step budgets (.reads given, oracle)) := by
  unfold System.step
  dsimp only
  split
  next asks =>
    obtain ⟨asked, unhandled⟩ := and_eq_true_iff.mp asks
    have phase := inv.phase
    rw [isNone_iff_eq_none.mp unhandled] at phase
    refine ⟨inv.base, inv.numbered, inv.bounded, inv.strays, asked, ⟨rfl, rfl, ?_⟩, phase.1⟩
    intro parsedSeq known
    obtain rfl := some.inj known
    exact ⟨le_rfl, fun seq epoch holder geometry member => inv.numbered _ member⟩
  · exact inv

theorem Inv.settled (inv : Inv s) (otherwise : ∀ atSeq, Effect atSeq s.worker s.arbiter → Settled s.worker s.arbiter) :
    Settled s.worker s.arbiter := by
  have phase := inv.phase
  revert phase
  cases s.handled with
  | none => exact fun phase => phase.1
  | some work =>
    cases work with
    | read => exact fun phase => phase.2.2
    | executed atSeq => exact fun executed => otherwise atSeq executed.effect

theorem Effect.workerBound (effect : Effect atSeq w a) :
    ∃ stage, a.running = some stage ∧ asksStatus a.running = false := by
  cases effect with
  | released index boundary running free | granted boundary focusSeq geometry appearance subscription running
  | kept _ _ _ running => exact ⟨_, running, by rw [running]; rfl⟩

/-- While the arbiter asks for the status, the worker has not executed anything for it. -/
theorem Inv.asked (inv : Inv s) (asked : asksStatus s.arbiter.running = true) : Settled s.worker s.arbiter := by
  apply inv.settled
  intro atSeq effect
  obtain ⟨stage, running, other⟩ := effect.workerBound
  rw [asked] at other
  cases other

theorem status_inv (inv : Inv s) (oracle : Oracle) (budgets : EffectiveBudgets) :
    Inv (s.step budgets (.status, oracle)) := by
  unfold System.step
  dsimp only
  split
  next status handled =>
    have phase := inv.phase
    rw [handled] at phase
    obtain ⟨asked, reading, settled⟩ := phase
    refine (status_answered ⟨inv.base, settled⟩ inv.bounded asked ?_).inv inv.numbered inv.strays
    intro other same
    cases same
    exact reading
  · exact inv

theorem statusFails_inv (inv : Inv s) (answer : StatusAnswer) (oracle : Oracle) (budgets : EffectiveBudgets) :
    Inv (s.step budgets (.statusFails answer, oracle)) := by
  unfold System.step
  dsimp only
  split
  next asks =>
    obtain ⟨asked, fails⟩ := and_eq_true_iff.mp asks
    refine (status_answered ⟨inv.base, inv.asked asked⟩ inv.bounded asked ?_).inv inv.numbered inv.strays
    rintro status rfl
    cases fails
  · exact inv

theorem order?_some {order : Order} (sent : order? a = some order) :
    (∃ boundary command subscription, a.running = some (.command boundary) ∧
      headControl a = some (command, subscription) ∧ order = pipe boundary subscription command) ∨
    ∃ index boundary, a.running = some (.releasing index boundary) ∧
      order = .setControl boundary.epoch boundary.epoch none boundary.geometry := by
  unfold order? at sent
  split at sent
  next boundary command subscription running head =>
    exact .inl ⟨boundary, command, subscription, running, head, (some.inj sent).symm⟩
  next index boundary running => exact .inr ⟨index, boundary, running, (some.inj sent).symm⟩
  · cases sent

theorem execute_effect {order : Order} {recolors : Bool} (sent : order? a = some order)
    (executed : w.execute order recolors = some w') (settled : Settled w a) (aligned : Aligned w a) :
    Effect w'.seq w' a := by
  obtain ⟨execution, grows, -⟩ := Worker.execute_some executed
  rcases order?_some sent with ⟨boundary, command, subscription, running, head, rfl⟩ | ⟨index, boundary, running, rfl⟩
  · obtain ⟨captured, agrees⟩ := aligned boundary running
    have bound : boundary.atSeq ≤ w'.seq := captured.trans grows
    have quiet (quietly : Quietly w w')
        (plain : ∀ focusSeq geometry appearance, command ≠ .focus focusSeq geometry appearance)
        (unblurred : ∀ epoch, command ≠ .blur epoch) : Effect w'.seq w' a := by
      refine .kept boundary command subscription running head plain ?_ (quietly.settled settled) ?_ bound
      · exact fun epoch blurs => absurd blurs (unblurred epoch)
      · exact fun held => quietly.agrees (agrees (quietly.holder ▸ held))
    cases command with
    | focus focusSeq geometry appearance =>
      cases execution with
      | quiet _ _ _ plain => exact absurd rfl (plain _ _ _ _)
      | control _ _ _ _ _ _ _ moved held =>
        exact .granted boundary focusSeq geometry appearance subscription running head moved held bound
    | blur =>
      cases execution with
      | quiet _ _ _ plain => exact absurd rfl (plain _ _ _ _)
      | control _ _ _ _ _ _ _ _ held =>
        refine .kept boundary _ subscription running head (by simp) (fun _ _ => held) ?_ ?_ bound
        · intro holder recorded
          rw [held] at recorded
          cases recorded
        · intro recorded
          rw [held] at recorded
          cases recorded
    | resize epoch geometry | appearance epoch appearance | input epoch inputSeq =>
      cases execution with
      | quiet _ _ quietly => exact quiet quietly (by simp) (by simp)
  · cases execution with
    | quiet _ _ _ plain => exact absurd rfl (plain _ _ _ _)
    | control _ _ _ _ _ _ _ _ held => exact .released index boundary running held

theorem executes_inv (inv : Inv s) (recolors : Bool) (oracle : Oracle) (budgets : EffectiveBudgets) :
    Inv (s.step budgets (.executes recolors, oracle)) := by
  unfold System.step
  dsimp only
  split
  next worker unhandled executed =>
    obtain ⟨order, sent, done⟩ := bind_eq_some_iff.mp executed
    have phase := inv.phase
    rw [unhandled] at phase
    obtain ⟨-, grows, numbers⟩ := Worker.execute_some done
    have numbered := numbers inv.numbered
    have bounded : ∀ boundary, s.arbiter.boundary = some boundary → boundary.atSeq ≤ worker.seq :=
      fun boundary known => (inv.bounded boundary known).trans grows
    refine ⟨inv.base, numbered, bounded, inv.strays, le_rfl, bounded, ?_, ?_⟩
    · exact fun fact member _ => numbered fact member
    · exact execute_effect sent done phase.1 phase.2
  · exact inv

theorem commanded_eq (running : a.running = some (.command boundary)) (head : headControl a = some (command, subscription))
    (answer : CommandAnswer) (oracle : Oracle) : ∃ job ∈ a.queue, job.work = .control command subscription ∧
      a.commanded answer oracle = a.commandAnswered job boundary command subscription answer oracle := by
  obtain ⟨job, first, work⟩ := headControl_some head
  refine ⟨job, mem_of_mem_head? first, work, ?_⟩
  simp only [commanded, running, first, work]

section

variable (inv : Inv s)
include inv

theorem released_answered {index : Nat} (running : s.arbiter.running = some (.releasing index boundary))
    (settled : s.worker.holder = none ∨ isBusy answer = true ∧ Settled s.worker s.arbiter)
    (past : ∀ atSeq inputSeq writtenBytes, answer = .result .accepted (some atSeq) inputSeq writtenBytes →
      atSeq ≤ s.worker.seq) : Answered s.worker s.gone (s.arbiter.released answer oracle) := by
  unfold released
  rw [running]
  dsimp only
  cases s.arbiter.counters[index]? with
  | some =>
    rcases settled with free | ⟨busy, settled⟩
    · exact release_answered index inv.base free inv.bounded past
    · exact busy_answered index ⟨inv.base, settled⟩ busy inv.bounded
  | none =>
    refine ⟨⟨inv.base, ?_⟩, inv.bounded, by simp [running]⟩
    rcases settled with free | ⟨-, settled⟩
    · intro holder held
      rw [free] at held
      cases held
    · exact settled

theorem deliver_inv {strays : List Order} (inputs : ∀ order ∈ strays, order.isInput = true)
    (released : ∀ index boundary, s.arbiter.running = some (.releasing index boundary) →
      Answered s.worker s.gone (s.arbiter.released answer oracle))
    (commanded : (∀ index boundary, s.arbiter.running ≠ some (.releasing index boundary)) →
      Answered s.worker s.gone (s.arbiter.commanded answer oracle)) :
    Inv { s.deliver answer oracle with strays := strays } := by
  unfold System.deliver
  split
  next index boundary running => exact (released index boundary running).inv inv.numbered inputs
  next other => exact (commanded other).inv inv.numbered inputs

theorem answers_inv (inputSeq writtenBytes : Option Nat) (oracle : Oracle) (budgets : EffectiveBudgets) :
    Inv (s.step budgets (.answers inputSeq writtenBytes, oracle)) := by
  unfold System.step
  dsimp only
  split
  next atSeq handled =>
    have executed := inv.phase
    rw [handled] at executed
    apply deliver_inv inv inv.strays
    · intro index boundary running
      apply released_answered inv running
      · cases executed.effect with
        | released _ _ _ free => exact .inl free
        | granted other _ _ _ _ stage | kept other _ _ stage => simp [running] at stage
      · rintro _ _ _ same
        cases same
        exact executed.past
    · intro other
      cases executed.effect with
      | released index boundary running => exact absurd running (other index boundary)
      | granted _ _ _ _ _ running head epoch holder captured =>
        obtain ⟨job, queued, work, same⟩ := commanded_eq running head (.result .accepted (some atSeq) inputSeq
          writtenBytes) (s.restrict oracle)
        rw [same]
        exact focus_answered inv.base (inv.base.counted job queued _ _ work) epoch holder executed.facts executed.past
          captured executed.known
      | kept _ _ _ running head plain freed settled agrees captured =>
        obtain ⟨job, queued, work, same⟩ := commanded_eq running head (.result .accepted (some atSeq) inputSeq
          writtenBytes) (s.restrict oracle)
        rw [same]
        exact plain_answered ⟨inv.base, settled⟩ plain freed agrees executed.past captured executed.known
  · exact inv

theorem refusal_inv (answer : CommandAnswer) (oracle : Oracle) (budgets : EffectiveBudgets)
    (definite : Definite s (.refusal answer, oracle)) : Inv (s.step budgets (.refusal answer, oracle)) := by
  unfold System.step
  dsimp only
  split
  next refused =>
    simp only [and_eq_true, isSome_iff_exists, isNone_iff_eq_none] at refused
    obtain ⟨⟨⟨order, sent⟩, refused⟩, unhandled⟩ := refused
    have phase := inv.phase
    rw [unhandled] at phase
    apply deliver_inv inv inv.strays
    · intro index boundary running
      apply released_answered inv running
      · have allowed : s.worker.holder = none ∨ isBusy answer = true := by
          simpa [Definite, ControlOwner.definite, running] using definite
        exact allowed.imp id (fun busy => ⟨busy, phase.1⟩)
      · rintro _ _ _ rfl
        cases refused
    · intro other
      rcases order?_some sent with ⟨boundary, command, subscription, running, head, -⟩ | ⟨index, boundary, running, -⟩
      · obtain ⟨job, -, -, same⟩ := commanded_eq running head answer (s.restrict oracle)
        rw [same]
        exact commandAnswered_refused ⟨inv.base, phase.1⟩ inv.bounded (.inl refused)
      · exact absurd running (other index boundary)
  · exact inv

theorem Inv.typed {epoch inputSeq : Nat} (running : s.arbiter.running = some (.command boundary))
    (head : headControl s.arbiter = some (.input epoch inputSeq, subscription)) : Settled s.worker s.arbiter := by
  apply inv.settled
  intro atSeq effect
  cases effect with
  | released _ _ stage => simp [running] at stage
  | granted _ _ _ _ _ _ first => simp [head] at first
  | kept _ _ _ _ _ _ _ settled => exact settled

theorem loses_inv (answer : CommandAnswer) (oracle : Oracle) (budgets : EffectiveBudgets)
    (definite : Definite s (.loses answer, oracle)) : Inv (s.step budgets (.loses answer, oracle)) := by
  unfold System.step
  dsimp only
  split
  next order sent =>
    have input : order.isInput = true := by
      simpa only [Definite, ControlOwner.definite, sent, all_some] using definite
    split
    next open_ =>
      apply deliver_inv inv
      · split
        · intro stray member
          rcases mem_snoc member with old | rfl
          · exact inv.strays stray old
          · exact input
        · exact inv.strays
      · intro index boundary running
        rcases order?_some sent with ⟨other, _, _, stage, -⟩ | ⟨_, _, -, rfl⟩
        · simp [running] at stage
        · cases input
      · intro other
        rcases order?_some sent with ⟨boundary, command, subscription, running, head, rfl⟩ | ⟨_, _, -, rfl⟩
        · cases command with
          | input =>
            obtain ⟨job, -, -, same⟩ := commanded_eq running head answer (s.restrict oracle)
            rw [same]
            exact commandAnswered_refused ⟨inv.base, inv.typed running head⟩ inv.bounded (.inr open_)
          | focus focusSeq geometry appearance | blur epoch | resize epoch geometry
          | appearance => cases input
        · cases input
    · exact inv
  · exact inv

theorem strays_inv (index : Nat) (recolors : Bool) (oracle : Oracle) (budgets : EffectiveBudgets) :
    Inv (s.step budgets (.strays index recolors, oracle)) := by
  unfold System.step
  dsimp only
  split
  next order found =>
    have input := inv.strays order (mem_of_getElem? found)
    have same : (s.worker.execute order recolors).getD s.worker = s.worker := by
      cases order with
      | input =>
        unfold Worker.execute
        dsimp only
        split <;> rfl
      | setControl expectedEpoch nextEpoch holder geometry | resize subscription epoch geometry
      | appearance => cases input
    rw [same]
    exact ⟨inv.base, inv.numbered, inv.bounded, fun stray member => inv.strays stray (mem_of_mem_eraseIdx member),
      inv.phase⟩
  · exact inv

end

theorem step_inv (inv : Inv s) (event : Event × Oracle) (definite : Definite s event) : Inv (s.step budgets event) := by
  obtain ⟨event, oracle⟩ := event
  have tells {fact : Nat → RunFact} (numbers : ∀ seq, (fact seq).seq = seq) (still : ∀ seq, moves (fact seq) = false) :
      Inv { s with worker := s.worker.append fact } := by
    apply quietly_inv _ _ inv
    · apply Worker.append_quietly s.worker numbers
      intro at_ seq epoch holder geometry same
      have quiet := still at_
      rw [same] at quiet
      cases quiet
    · intro told member moving
      rcases mem_snoc member with old | rfl
      · exact old
      · rw [still] at moving
        cases moving
  cases event with
  | server event => exact server_inv budgets inv event
  | output | exit => exact tells (fun _ => rfl) (fun _ => rfl)
  | fact =>
    unfold System.step
    dsimp only
    split
    next fact found => exact fact_inv (mem_of_getElem? found) inv
    · exact inv
  | reads given => exact reads_inv inv given oracle budgets
  | status => exact status_inv inv oracle budgets
  | statusFails answer => exact statusFails_inv inv answer oracle budgets
  | executes recolors => exact executes_inv inv recolors oracle budgets
  | answers inputSeq writtenBytes => exact answers_inv inv inputSeq writtenBytes oracle budgets
  | refusal answer => exact refusal_inv inv answer oracle budgets definite
  | loses answer => exact loses_inv inv answer oracle budgets definite
  | strays index recolors => exact strays_inv inv index recolors oracle budgets

theorem new_inv (geometry : Geometry) : Inv (System.new geometry) where
  base := ⟨rfl, fun _ => rfl, by simp [System.new, new], by simp [System.new],
    by simp [System.new, new]⟩
  numbered := by simp [Worker.Numbered, System.new, Worker.new]
  bounded := by simp [System.new, new]
  strays := by simp [System.new]
  phase := ⟨fun _ held => (by cases held), fun _ sent => (by cases sent)⟩

theorem run_inv (geometry : Geometry) (events : List (Event × Oracle))
    (definite : Guarded Definite (System.step budgets) (System.new geometry) events) :
    Inv (run (System.step budgets) (System.new geometry) events) :=
  run_invariant_guarded Inv (new_inv geometry) (fun _ event allowed inv => step_inv budgets inv event allowed) events
    definite

end Steps

/-- As long as every command but input gets a definite answer, and no release of held control is turned away other
than as busy, a run at rest is controlled by nobody or by a subscription the server still knows. -/
theorem control_not_orphaned (budgets : EffectiveBudgets) (geometry : Geometry) (events : List (Event × Oracle))
    (definite : Guarded Definite (System.step budgets) (System.new geometry) events) :
    let s := run (System.step budgets) (System.new geometry) events
    Quiet s.arbiter → s.worker.holder = none ∨
      ∃ c ∈ s.arbiter.counters, s.worker.holder = some (holderOf c.ref) ∧ c.retired = false ∧ c.ref ∉ s.gone := by
  intro s quiet
  have inv : Inv s := run_inv budgets geometry events definite
  obtain ⟨idle, stopped, cleaned⟩ := quiet
  have settled : Settled s.worker s.arbiter := by
    apply inv.settled
    intro atSeq effect
    obtain ⟨stage, running, -⟩ := effect.workerBound
    rw [stopped] at running
    cases running
  cases held : s.worker.holder with
  | none => exact .inl rfl
  | some holder =>
    right
    obtain ⟨owner, boundary, rfl, -, -, owned⟩ := settled holder held
    obtain ⟨c, member, named⟩ := owned.counted
    have fresh : c.retired = false := by
      by_contra retired
      exact cleaned c member (owned.released c member named (by simpa using retired)).1
    exact ⟨c, member, by rw [named], fresh, inv.base.known c member fresh⟩

/-! ## Two runs -/

def viewer (number : Nat) : SubscriptionRef where
  run := ⟨"server", "relay", "run"⟩
  connection := ⟨"connection", number⟩
  subscriptionId := "subscription"
  viewId := "view"

def attached : Oracle := ⟨fun _ => true, fun _ _ => true, true, true⟩

def roomy : Room := ⟨0, true, true, true, 0⟩

def ready : RunStatus := ⟨⟨⟨⟨80, 24⟩, 0, none⟩, .live, .ready, none, none⟩, ⟨"server", "relay", "run"⟩, none, none, none⟩

def focusSent (number job : Nat) : List (Event × Oracle) :=
  [(.server (.admitControl (.focus 1 ⟨80, 24⟩ none) (viewer number) false [] roomy), attached),
    (.server (.execute job), attached), (.reads ready, attached), (.status, attached), (.server .resume, attached)]

def settles : List (Event × Oracle) := [(.server .resume, attached), (.server .resume, attached)]

/-- The first viewer leaves while its focus is under way. The focus is released, and the second viewer takes over. -/
def definiteRun : List (Event × Oracle) :=
  focusSent 1 0 ++ [(.executes false, attached), (.server (.retire (viewer 1)), attached), (.answers none none, attached),
    (.server .resume, attached), (.executes false, attached), (.answers none none, attached), (.server .resume, attached),
    (.server (.admitControl (.focus 1 ⟨80, 24⟩ none) (viewer 2) false [] roomy), attached),
    (.server (.execute 1), attached), (.server .resume, attached), (.executes false, attached),
    (.answers none none, attached)] ++ settles

theorem second_viewer_known :
    ∃ c ∈ (run (System.step m0Limits) (System.new ⟨80, 24⟩) definiteRun).arbiter.counters, c.retired = false ∧
      (run (System.step m0Limits) (System.new ⟨80, 24⟩) definiteRun).worker.holder = some (holderOf c.ref) := by
  have owned := control_not_orphaned m0Limits ⟨80, 24⟩ definiteRun (by decide +kernel) (by decide +kernel)
  rcases owned with nobody | ⟨c, member, held, fresh, -⟩
  · exact absurd nobody (by decide +kernel)
  · exact ⟨c, member, fresh, held⟩

theorem one_byte_bounded : 1 ≤ Protocol.TabInput.tabSendTextBytes := by decide

def typed : ProgramCommand := ⟨1, 1, false, one_byte_bounded⟩

/-- The answer to a focus is lost, its viewer leaves, and only then the worker executes the command. -/
def lostFocus : List (Event × Oracle) :=
  focusSent 1 0 ++ [(.loses (.error ⟨.resultUnknown, .unknown, false⟩), attached)] ++ settles ++
    [(.server (.retire (viewer 1)), attached), (.server .resume, attached), (.strays 0 false, attached)] ++
    [(.server (.admitProgrammatic typed [65] roomy), attached), (.server (.execute 1), attached), (.reads ready, attached),
      (.status, attached)] ++ settles

/-- Control stays with a viewer that has gone, nothing is left to release it, and programmatic input is refused. -/
theorem lost_focus_orphans_control :
    let s := run (System.step m0Limits) (System.new ⟨80, 24⟩) lostFocus
    Quiet s.arbiter ∧ s.worker.holder = some (holderOf (viewer 1)) ∧ viewer 1 ∈ s.gone ∧ s.arbiter.counters = [] ∧
      s.arbiter.log.getLast? = some (.settled 1 typed (typed.notSent "controller-present" false)) := by
  decide +kernel

end Cove.Runtime.ControlOwner
