import Cove.Worker.RunTurns

/-!
Control of a run. A command is checked when the pump starts it, and the calls it then waits for leave the
control state alone, so what was checked still holds when control changes hands or input is submitted.
-/

namespace Cove.Worker.RunControl
open Base.Run Protocol.Identity Protocol.TabInput Protocol.Terminal List Option
open Worker.RunSession Worker.RunSession.Session Worker.RunTurns Session

structure Control where
  epoch : Nat
  holder : Option ControlHolder
  sequences : InputKey → Option Nat
  submitted : List Submission

def control (session : Session) : Control where
  epoch := session.controlEpoch
  holder := session.controlHolder
  sequences := session.inputSequences
  submitted := session.submitted

variable (c : Control)

/-- A grant moves to the next epoch, and a release stays in one that has been granted. The screen and its colours are
changed for the holder of control alone. -/
def Accepted : RunSessionOperation → Prop
  | .control expectedEpoch nextEpoch holder _ _ =>
      expectedEpoch = c.epoch ∧ if holder.isSome then nextEpoch = c.epoch + 1 else c.epoch ≠ 0 ∧ nextEpoch = c.epoch
  | .resize subscription epoch _ | .appearance subscription epoch _ => epoch = c.epoch ∧
      c.holder = some ⟨subscription.connection, subscription.subscriptionId, subscription.viewId⟩
  | _ => True

/-- Control changes hands with the operation that says so. -/
def Control.after : RunSessionOperation → Control
  | .control _ nextEpoch holder _ _ => { c with epoch := nextEpoch, holder := holder }
  | _ => c

def writesText : Await → Bool
  | .text _ _ => true
  | _ => false

/-- What the pump may rely on at a stage: its operation is still acceptable, and no one has taken control
while programmatic input is being written. -/
def Authorised (await : Await) : Prop :=
  (∀ operation ∈ operationOf await, Accepted c operation) ∧ (writesText await = true → c.holder = none)

/-- The state `c` is untouched, and the stage reached is authorised in it. -/
structure Keeps (session : Session) : Prop where
  control : control session = c
  running : ∀ running, session.running = some running → Authorised c running.await

structure Steady (before after : Session) : Prop where
  control : control after = control before
  running : after.running = before.running

theorem Steady.trans {first second third : Session} (one : Steady first second) (two : Steady second third) :
    Steady first third :=
  ⟨two.control.trans one.control, two.running.trans one.running⟩

theorem Steady.after {before touched after : Session} (steady : Steady touched after)
    (same : RunControl.control touched = RunControl.control before) (stage : touched.running = before.running) :
    Steady before after :=
  ⟨steady.control.trans same, steady.running.trans stage⟩

variable {await : Await}

section Keeping
variable {s : Session} {options : Options} {item : Pending} {c : Control}

section

variable (s : Session)

theorem schedule_steady : Steady s s.schedule := by
  unfold schedule
  split <;> exact ⟨rfl, rfl⟩

theorem requestStop_steady : Steady s s.requestStop := by
  unfold requestStop
  split <;> exact ⟨rfl, rfl⟩

theorem reportFault_steady (fault : RunSessionFault) : Steady s (s.reportFault fault) := by
  unfold reportFault
  split <;> exact ⟨rfl, rfl⟩

theorem fault_steady (reason : String) : Steady s (s.fault reason) := by
  unfold fault
  split
  · exact ⟨rfl, rfl⟩
  apply Steady.trans _ (schedule_steady _)
  apply Steady.trans _ (reportFault_steady _ _)
  exact (requestStop_steady _).after rfl rfl

theorem onFault_steady (fault : NativeFault) : Steady s (s.onFault fault) := by
  have faulted : Steady s ({ s with faulted := true }).requestStop :=
    (requestStop_steady _).after rfl rfl
  unfold onFault
  split
  · exact (reportFault_steady _ _).after rfl rfl
  split
  · exact ⟨rfl, rfl⟩
  dsimp only
  split
  · exact faulted
  · exact (faulted.trans (reportFault_steady _ _)).trans (schedule_steady _)

theorem queue_steady (budgets : Cove.Protocol.Budgets.EffectiveBudgets) :
    Steady s (s.pauseIfHigh budgets).schedule := by
  unfold pauseIfHigh pause schedule
  split_ifs <;> exact ⟨rfl, rfl⟩

theorem dispose_steady (fails : Bool) : Steady s (s.dispose fails) := by
  unfold dispose
  split
  · exact ⟨rfl, rfl⟩
  have stopped : Steady s (requestStop
      { ({ s with disposed := true }).releaseItems "Run session disposed" with
        faulted := s.faulted || fails }) := (requestStop_steady _).after rfl rfl
  exact ⟨stopped.control, stopped.running⟩

theorem releasePending_steady (reason : String) (fails : Bool) : Steady s (s.releasePending reason fails) := by
  unfold releasePending
  split
  · exact (dispose_steady _ _).after rfl rfl
  · exact ⟨rfl, rfl⟩

theorem attach_steady (budgets : Cove.Protocol.Budgets.EffectiveBudgets) (fails : Bool) :
    Steady s (s.attach budgets fails) := by
  have attached : Steady s { s with native := true } := ⟨rfl, rfl⟩
  unfold Session.attach
  split
  · exact ⟨rfl, rfl⟩
  dsimp only
  split
  · exact (attached.trans (releasePending_steady _ _ _)).trans (requestStop_steady _)
  · exact attached.trans (queue_steady _ _)

theorem onData_steady (options : Options) (bytes : List UInt8) (reservation : Reservation) :
    Steady s (s.onData options bytes reservation) := by
  unfold onData
  split
  · exact ⟨rfl, rfl⟩
  split
  · exact fault_steady _ _
  split
  · exact fault_steady _ _
  cases reservation with
  | refused | failed => exact fault_steady _ _
  | granted => exact (queue_steady _ _).after rfl rfl

theorem finish_control (options : Options) (item : Pending) :
    control (s.finish options item) = control s ∧ (s.finish options item).running = none := by
  unfold finish
  rw [(schedule_steady _).control, (schedule_steady _).running]
  split <;> exact ⟨rfl, rfl⟩

end

section

variable (same : control s = c)
include same

theorem finish_keeps : Keeps c (s.finish options item) := by
  obtain ⟨kept, idle⟩ := finish_control s options item
  refine ⟨kept.trans same, ?_⟩
  intro running reached
  rw [idle] at reached
  cases reached

theorem await_keeps (authorised : Authorised c await) : Keeps c (s.await item await) := by
  refine ⟨same, ?_⟩
  intro running reached
  obtain rfl := some.inj reached
  exact authorised

end

theorem authorised_of {operation : RunSessionOperation} (accepted : Accepted c operation)
    (stage : operationOf await = some operation) : Authorised c await := by
  refine ⟨?_, ?_⟩
  · intro other member
    rw [stage] at member
    obtain rfl := some.inj member
    exact accepted
  · cases await <;> simp_all [writesText, operationOf]

theorem authorised_plain (stage : operationOf await = none) (silent : writesText await = false) :
    Authorised c await := by
  refine ⟨?_, ?_⟩
  · intro operation member
    rw [stage] at member
    cases member
  · intro writing
    rw [silent] at writing
    cases writing

end Keeping

/-- Within a turn the control state is `c`, whatever its item and however many facts are left. -/
def Within (_ : Pending) (_ : Nat) (s : Session) : Prop := control s = c

variable (options : Options) (c : Control)

theorem keepsRules :
    Rules options (fun _ => True) (Authorised c) (Within c) (Keeps c) where
  idle same := same
  exhaust same := same
  fault reason same := (fault_steady _ reason).control.trans same
  fewer same _ := same
  number same _ _ _ _ := same
  spend same _ := same
  finish same := finish_keeps same
  await same _ _ authorised := await_keeps same authorised
  observed _ := authorised_plain rfl rfl

theorem Keeps.steady {before after : Session} {c : Control} (keeps : Keeps c before) (steady : Steady before after) :
    Keeps c after :=
  ⟨steady.control.trans keeps.control, fun running reached => keeps.running running (steady.running ▸ reached)⟩

theorem between : Between options (Keeps c) where
  still keeps := keeps.steady ⟨rfl, rfl⟩
  fault reason keeps := keeps.steady (fault_steady _ reason)
  onFault fault keeps := keeps.steady (onFault_steady _ fault)
  dispose fails keeps := keeps.steady (dispose_steady _ fails)
  exited keeps := keeps.steady ⟨rfl, rfl⟩
  exhaust keeps := keeps.steady ⟨rfl, rfl⟩
  unpause keeps _ := keeps.steady ⟨rfl, rfl⟩
  enqueue keeps _ _ := keeps.steady ((queue_steady _ _).after rfl rfl)
  exitDeferred keeps _ _ := keeps.steady ((schedule_steady _).after rfl rfl)
  exitNumbered keeps _ _ _ _ _ := keeps.steady ((schedule_steady _).after rfl rfl)

section Stages
variable {s : Session} {options : Options} {item : Pending} {c : Control}

section

variable (same : control s = c)
include same

theorem Within.turn (left : Nat) : Within c item left s := same

theorem conclude_keeps (result : RunSessionOperationResult) : Keeps c (s.conclude options item result) :=
  (keepsRules options c).conclude (Within.turn same 0) result

theorem caught_keeps : Keeps c (s.caught options item) := (keepsRules options c).caught (Within.turn same 0)

theorem applyFact_keeps (fact : Fact) {rest : Rest}
    (authorised : Authorised c (.apply fact rest)) : Keeps c (s.applyFact options item fact rest) := by
  unfold applyFact
  split
  · exact caught_keeps same
  · apply await_keeps _ authorised
    exact same

theorem applyNext_keeps (event : Nat → RunEvent) (bytes : List UInt8) {rest : Rest}
    (authorised : ∀ fact, Authorised c (.apply fact rest)) : Keeps c (s.applyNext options item event bytes rest) := by
  apply applyFact_keeps _ _ (authorised _)
  exact same

end

theorem fenceUnwritten_control (s : Session) (receipt : InputPartReceipt) :
    control (s.fenceUnwritten receipt) = control s := by
  unfold fenceUnwritten
  split <;> rfl

end Stages

def HoldsControl (subscription : SubscriptionRef) : Prop :=
  subscription.run = options.run ∧
    c.holder = some ⟨subscription.connection, subscription.subscriptionId, subscription.viewId⟩

/-- What one step can do to the control state, with the operation it settles. -/
inductive Move (options : Options) (c : Control) : Option RunSessionOperation → Control → Prop where
  | same : Move options c none c
  | attempt (key : InputKey) (inputSeq : Nat) (later : (c.sequences key).getD 0 < inputSeq) :
      Move options c none { c with sequences := Function.update c.sequences key (some inputSeq) }
  | input (subscription : SubscriptionRef) (inputSeq : Nat) (bytes : List UInt8)
      (later : (c.sequences (inputKey subscription)).getD 0 < inputSeq)
      (holds : HoldsControl options c subscription) :
      Move options c none { c with
        sequences := Function.update c.sequences (inputKey subscription) (some inputSeq)
        submitted := c.submitted ++ [.user subscription c.epoch inputSeq bytes c.epoch c.holder] }
  | programmatic (bytes : List UInt8) (free : c.holder = none) :
      Move options c none { c with submitted := c.submitted ++ [.programmatic bytes c.epoch c.holder] }
  | settles (operation : RunSessionOperation) (accepted : Accepted c operation) :
      Move options c (some operation) (c.after operation)

/-- The operation whose last barrier settles in a step. -/
def completed (session : Session) (event : Event) : Option RunSessionOperation :=
  match session.running, event with
  | some ⟨_, .settling operation⟩, .engine (.ok _) _ => some operation
  | _, _ => none

/-- The holder that a step grants control to: the last barrier of its operation settles. -/
def granted (session : Session) (event : Event) : Option ControlHolder :=
  match session.running, event with
  | some ⟨_, .settling (.control _ _ holder _ _)⟩, .engine (.ok _) _ => holder
  | _, _ => none

def Reaches (done : Option RunSessionOperation) (after : Session) : Prop :=
  ∃ c', Move options c done c' ∧ Keeps c' after

theorem Keeps.reaches {options : Options} {c : Control} {after : Session} (keeps : Keeps c after) :
    Reaches options c none after :=
  ⟨c, .same, keeps⟩

section Turns
variable {s : Session} {options : Options} {item : Pending}

theorem concluded (result : RunSessionOperationResult) :
    Reaches options (control s) none (s.conclude options item result) :=
  (conclude_keeps rfl result).reaches

theorem waits (authorised : Authorised (control s) await) :
    Reaches options (control s) none (s.await item await) :=
  (await_keeps rfl authorised).reaches

theorem matchesAuthority_iff {subscription : SubscriptionRef} {epoch : Nat} :
    s.matchesAuthority options subscription epoch = true ↔
      epoch = s.controlEpoch ∧ HoldsControl options (control s) subscription := by
  unfold matchesAuthority HoldsControl control
  cases s.controlHolder with
  | none => simp
  | some holder =>
    obtain ⟨⟨connectionId, generation⟩, subscriptionId, viewId⟩ := holder
    obtain ⟨run, ⟨otherId, otherGeneration⟩, otherSubscription, otherView⟩ := subscription
    simp only [Bool.and_eq_true, beq_iff_eq, sameRunRef_iff, some.injEq, ControlHolder.mk.injEq, ConnectionRef.mk.injEq]
    tauto

theorem input_reaches (subscription : SubscriptionRef) (epoch inputSeq : Nat) (bytes : List UInt8) (oracle : Oracle)
    (current : epoch = s.controlEpoch) (holds : HoldsControl options (control s) subscription) :
    Reaches options (control s) none (s.input options item subscription epoch inputSeq bytes oracle) := by
  unfold input
  dsimp only
  split
  · apply Keeps.reaches
    apply conclude_keeps
    rfl
  split
  · exact concluded _
  rename_i later
  split
  · exact concluded _
  have newer : ((control s).sequences (inputKey subscription)).getD 0 < inputSeq := Nat.lt_of_not_le later
  split
  · refine ⟨_, .attempt (inputKey subscription) inputSeq newer, ?_⟩
    apply conclude_keeps
    rfl
  · refine ⟨_, .input subscription inputSeq bytes newer holds, ?_⟩
    apply await_keeps _ (authorised_plain rfl rfl)
    rw [current]
    rfl

theorem programmaticInput_reaches (epoch : Nat) (bytes : List UInt8) (submit : Bool) (oracle : Oracle) :
    Reaches options (control s) none (s.programmaticInput options item epoch bytes submit oracle) := by
  unfold programmaticInput
  split
  · exact concluded _
  split
  · exact concluded _
  rename_i unheld
  have free : (control s).holder = none := Decidable.not_not.mp unheld
  split
  · exact concluded _
  split
  · refine ⟨_, .programmatic bytes free, ?_⟩
    apply await_keeps
    · rfl
    · exact ⟨by simp [operationOf], fun _ => free⟩
  split
  · refine ⟨_, .programmatic [13] free, ?_⟩
    apply await_keeps _ (authorised_plain rfl rfl)
    rfl
  · exact concluded _

theorem refuseControl_none {expectedEpoch nextEpoch : Nat} {holder : Option ControlHolder} {oracle : Oracle}
    (accepted : s.refuseControl options expectedEpoch nextEpoch holder oracle = none) (geometry : Geometry)
    (appearance : Option Appearance) :
    Accepted (control s) (.control expectedEpoch nextEpoch holder geometry appearance) := by
  unfold refuseControl at accepted
  cases holder with
  | none =>
    dsimp only at accepted
    split_ifs at accepted with stale stays
    push Not at stale stays
    exact ⟨stale, stays⟩
  | some =>
    dsimp only at accepted
    split_ifs at accepted with stale missing room moved
    have same := Decidable.not_not.mp moved
    unfold nextCounter at same
    split at same
    · cases same
    · exact ⟨not_not.mp stale, (some.inj same).symm⟩

theorem refuseSubscription_none {subscription : SubscriptionRef} {epoch : Nat} {oracle : Oracle}
    (allowed : s.refuseSubscription options subscription epoch oracle = none) :
    epoch = s.controlEpoch ∧ HoldsControl options (control s) subscription := by
  unfold refuseSubscription at allowed
  split_ifs at allowed with missing authority
  exact matchesAuthority_iff.mp authority

theorem runOperation_reaches (operation : RunSessionOperation) (oracle : Oracle) :
    Reaches options (control s) none (s.runOperation options item operation oracle) := by
  unfold runOperation
  split
  · apply Keeps.reaches
    exact await_keeps (dispose_steady _ _).control (authorised_plain rfl rfl)
  · split
    · exact concluded _
    · exact waits (authorised_plain rfl rfl)
  · split
    · exact concluded _
    split
    · exact concluded _
    split
    · exact programmaticInput_reaches _ _ _ oracle
    · split
      · apply Keeps.reaches
        apply conclude_keeps
        rfl
      next accepted => exact waits (authorised_of (refuseControl_none accepted _ _) rfl)
    · split
      · exact concluded _
      next allowed =>
        obtain ⟨current, holds⟩ := refuseSubscription_none allowed
        exact input_reaches _ _ _ _ oracle current holds
    iterate 2
      · split
        · exact concluded _
        next allowed =>
          obtain ⟨current, _, holds⟩ := refuseSubscription_none allowed
          refine waits (authorised_of ?_ rfl)
          exact ⟨current, holds⟩
    · cases operation <;> grind

theorem start_reaches (oracle : Oracle) : Reaches options (control s) none (s.start options item oracle) := by
  cases item with
  | barrier promise | baseline promise | preview promise
  | unpublished => exact waits (authorised_plain rfl rfl)
  | operation operation => exact runOperation_reaches operation oracle
  | deferredOutput =>
    unfold start
    dsimp only
    split
    · apply Keeps.reaches
      apply await_keeps _ (authorised_plain rfl rfl)
      rfl
    · exact (applyNext_keeps rfl _ _ (fun _ => authorised_plain rfl rfl)).reaches
  | deferredExit =>
    unfold start
    dsimp only
    split
    · apply Keeps.reaches
      apply finish_keeps
      rfl
    · exact (applyNext_keeps rfl _ _ (fun _ => authorised_plain rfl rfl)).reaches
  | fact => exact (applyFact_keeps rfl _ (authorised_plain rfl rfl)).reaches

theorem drainOne_reaches (oracle : Oracle) (now : Keeps (control s) s) :
    Reaches options (control s) none (s.drainOne options oracle) := by
  have still : Reaches options (control s) none s := now.reaches
  unfold drainOne
  split
  · exact still
  split
  · exact (now.steady (releasePending_steady _ _ _)).reaches
  split
  · exact still
  rename_i item rest _
  have shifted : control { s with pending := rest } = control s := rfl
  rw [← shifted]
  exact start_reaches oracle

theorem textSettled_reaches (size : Nat) (submit : Bool) (outcome : PartOutcome) (free : (control s).holder = none) :
    Reaches options (control s) none (s.textSettled options item size submit outcome) := by
  have same := fenceUnwritten_control s (partReceipt size outcome)
  unfold textSettled
  dsimp only
  split
  · exact (conclude_keeps same _).reaches
  split
  · exact (conclude_keeps same _).reaches
  split
  · exact ((keepsRules options _).submitSettled (Within.turn same 0) _ _).reaches
  refine ⟨_, .programmatic [13] free, ?_⟩
  apply await_keeps _ (authorised_plain rfl rfl)
  rw [← same]
  rfl

/-- Control changes hands here and nowhere else. -/
theorem settled_reaches (operation : RunSessionOperation) (outcome : EngineOutcome) (consumerFails : Bool)
    (running : s.running = some ⟨item, .settling operation⟩) (accepted : Accepted (control s) operation) :
    Reaches options (control s) (completed s (.engine outcome consumerFails))
      (s.settled options item operation outcome) := by
  have fenced : control s.fenceWritable = control s := rfl
  unfold completed
  rw [running]
  cases outcome with
  | threw => exact (caught_keeps rfl).reaches
  | failed => exact (conclude_keeps fenced _).reaches
  | ok =>
    refine ⟨_, .settles operation accepted, conclude_keeps ?_ _⟩
    cases operation <;> rfl

theorem completed_other {event : Event} (other : ∀ outcome consumerFails, event ≠ .engine outcome consumerFails) :
    completed s event = none := by
  unfold completed
  split
  · exact absurd rfl (other _ _)
  · rfl

theorem completed_idle {outcome : EngineOutcome} {consumerFails : Bool}
    (stage : ∀ item operation, s.running ≠ some ⟨item, .settling operation⟩) :
    completed s (.engine outcome consumerFails) = none := by
  unfold completed
  split
  next running _ => exact absurd running (stage _ _)
  next => rfl

theorem engineReturned_reaches (outcome : EngineOutcome) (consumerFails : Bool) (now : Keeps (control s) s) :
    Reaches options (control s) (completed s (.engine outcome consumerFails))
      (s.engineReturned options outcome consumerFails) := by
  cases turn : s.running with
  | none =>
    rw [completed_idle (by simp [turn])]
    unfold engineReturned
    rw [turn]
    exact now.reaches
  | some running =>
    obtain ⟨item, stage⟩ := running
    have allowed := now.running _ turn
    by_cases settling : ∃ operation, stage = .settling operation
    · obtain ⟨operation, rfl⟩ := settling
      unfold engineReturned
      rw [turn]
      exact settled_reaches operation outcome consumerFails turn (allowed.1 operation rfl)
    · push Not at settling
      rw [completed_idle (by
        rintro other operation reached
        rw [turn] at reached
        exact settling operation (congrArg Running.await (some.inj reached)))]
      exact ((keepsRules options _).engineReturned now turn (Within.turn rfl _) (fun _ => trivial)
        (fun operation own _ => authorised_of (allowed.1 operation own)) settling outcome consumerFails).reaches

theorem other_reaches (options : Options) (event : Event) (now : Keeps (control s) s)
    (other : ∀ outcome consumerFails, event ≠ .engine outcome consumerFails) :
    Reaches options (control s) none (step options s event) := by
  have still : Reaches options (control s) none s := now.reaches
  have steady {after : Session} (kept : Steady s after) : Reaches options (control s) none after :=
    (now.steady kept).reaches
  cases event with
  | engine outcome consumerFails => exact absurd rfl (other outcome consumerFails)
  | attach => exact steady (attach_steady _ _ _)
  | data bytes =>
    have produced : Steady s (s.produce bytes) := by
      unfold produce
      split <;> exact ⟨rfl, rfl⟩
    exact steady (produced.trans (onData_steady _ _ _ _))
  | exit | nativeFault | automaticOutput | barrier | captureBaseline | capturePreview | execute | dispose | paused
  | resumed | stopped => exact ((between options _).step now rfl).reaches
  | drain oracle =>
    unfold step
    dsimp only
    split
    · have due : control { s with scheduled := false } = control s := rfl
      rw [← due]
      exact drainOne_reaches oracle { now with }
    · exact still
  | observed =>
    unfold step observersReturned
    dsimp only
    split
    next running =>
      exact ((keepsRules options _).continueAfter (Within.turn rfl _) _ (fun _ => trivial) le_rfl (fun operation stage _ =>
        authorised_of ((now.running _ running).1 operation stage))).reaches
    next => exact still
  | resized threw =>
    unfold step resizeReturned
    dsimp only
    split
    next item operation geometry plan running =>
      have accepted := (now.running _ running).1 operation rfl
      exact ((keepsRules options _).resized (fun _ => authorised_of accepted) trivial (Within.turn rfl _) threw
        le_rfl).reaches
    next => exact still
  | inputSettled outcome =>
    unfold step inputReturned
    dsimp only
    split
    · exact ((keepsRules options _).inputSettled (Within.turn rfl 0) outcome).reaches
    · exact still
  | partSettled outcome =>
    unfold step partReturned
    dsimp only
    split
    next item size submit running => exact textSettled_reaches size submit outcome ((now.running _ running).2 rfl)
    next => exact ((keepsRules options _).submitSettled (Within.turn rfl 0) _ outcome).reaches
    next => exact still
  | lateSettlement =>
    unfold step
    dsimp only
    split
    · exact still
    · exact steady ⟨rfl, rfl⟩
  | disposalSettled =>
    unfold step disposalSettled
    dsimp only
    split
    · exact still
    split
    · apply Keeps.reaches
      apply conclude_keeps
      rfl
    · exact steady ⟨rfl, rfl⟩

theorem step_reaches (options : Options) (event : Event) (now : Keeps (control s) s) :
    Reaches options (control s) (completed s event) (step options s event) := by
  by_cases engine : ∃ outcome consumerFails, event = .engine outcome consumerFails
  · obtain ⟨outcome, consumerFails, rfl⟩ := engine
    exact engineReturned_reaches outcome consumerFails now
  · push Not at engine
    rw [completed_other engine]
    exact other_reaches options event now engine

end Turns

/-- A submission made with the authority it needs: user input for the subscription that held control, at the
epoch that was current, and programmatic input while no one did. -/
def Proper : Submission → Prop
  | .user subscription epoch _ _ controlEpoch controlHolder =>
      epoch = controlEpoch ∧ subscription.run = options.run ∧
        controlHolder = some ⟨subscription.connection, subscription.subscriptionId, subscription.viewId⟩
  | .programmatic _ _ controlHolder => controlHolder = none

variable (key : InputKey)

def inputOf : Submission → Option Nat
  | .user subscription _ inputSeq _ _ _ => if inputKey subscription = key then some inputSeq else none
  | .programmatic .. => none

def inputsOf (submitted : List Submission) : List Nat := submitted.filterMap (inputOf key)

theorem inputsOf_append (submitted : List Submission) (last : Submission) :
    inputsOf key (submitted ++ [last]) = inputsOf key submitted ++ (inputOf key last).toList := by
  unfold inputsOf
  cases found : inputOf key last <;> simp [found]

structure Written (options : Options) (c : Control) : Prop where
  proper : ∀ submission ∈ c.submitted, Proper options submission
  increasing : ∀ key, (inputsOf key c.submitted).Pairwise (· < ·)
  recorded : ∀ key, ∀ inputSeq ∈ inputsOf key c.submitted, inputSeq ≤ (c.sequences key).getD 0

theorem raise_bound {sequences : InputKey → Option Nat} {key other : InputKey} {inputSeq bound : Nat}
    (later : (sequences key).getD 0 < inputSeq) (below : bound ≤ (sequences other).getD 0) :
    bound ≤ (Function.update sequences key (some inputSeq) other).getD 0 := by
  by_cases same : other = key
  · subst same
    rw [Function.update_self]
    exact Nat.le_of_lt (Nat.lt_of_le_of_lt below later)
  · rw [Function.update_of_ne same]
    exact below

theorem Move.written {options : Options} {c c' : Control} {done : Option RunSessionOperation} (move : Move options c done c')
    (written : Written options c) : Written options c' := by
  cases move with
  | same => exact written
  | attempt _ _ later =>
    refine ⟨written.proper, written.increasing, ?_⟩
    intro other earlier member
    exact raise_bound later (written.recorded other earlier member)
  | input subscription _ _ later holds =>
    refine ⟨?_, ?_, ?_⟩
    · intro submission member
      rcases mem_snoc member with before | rfl
      · exact written.proper submission before
      · exact ⟨rfl, holds⟩
    · intro key
      rw [inputsOf_append]
      by_cases same : inputKey subscription = key
      · subst same
        simp only [inputOf]
        refine pairwise_append.mpr ⟨written.increasing _, pairwise_singleton _ _, ?_⟩
        intro earlier before newest last
        obtain rfl := mem_singleton.mp last
        exact Nat.lt_of_le_of_lt (written.recorded _ earlier before) later
      · simp only [inputOf, if_neg same, toList_none, append_nil]
        exact written.increasing key
    · intro key earlier member
      rw [inputsOf_append] at member
      rcases mem_append.mp member with before | last
      · exact raise_bound later (written.recorded key earlier before)
      by_cases same : inputKey subscription = key
      · subst same
        simp only [inputOf, if_true, toList_some, mem_singleton] at last
        subst last
        simp
      · simp [inputOf, same] at last
  | programmatic _ free =>
    refine ⟨?_, ?_, ?_⟩
    · intro submission member
      rcases mem_snoc member with before | rfl
      · exact written.proper submission before
      · exact free
    · intro key
      rw [inputsOf_append]
      simpa [inputOf] using written.increasing key
    · intro key earlier member
      rw [inputsOf_append] at member
      exact written.recorded key earlier (by simpa [inputOf] using member)
  | settles operation =>
    cases operation <;> exact ⟨written.proper, written.increasing, written.recorded⟩

structure Inv (session : Session) : Prop where
  written : Written options (control session)
  authorised : ∀ running, session.running = some running → Authorised (control session) running.await

theorem step_inv {s : Session} (event : Event) (inv : Inv options s) :
    Inv options (step options s event) := by
  obtain ⟨c', move, keeps⟩ := step_reaches options event ⟨rfl, inv.authorised⟩
  refine ⟨?_, ?_⟩
  · rw [keeps.control]
    exact move.written inv.written
  · rw [keeps.control]
    exact keeps.running

theorem new_inv : Inv options (new options) := by
  refine ⟨⟨?_, fun _ => List.Pairwise.nil, ?_⟩, ?_⟩
  · simp [control, new]
  · simp [control, new, inputsOf]
  · simp [new]

theorem run_inv (events : List Event) : Inv options (run (step options) (new options) events) :=
  run_invariant (Inv options) (new_inv options) (fun _ event inv => step_inv options event inv) events

def grantee : RunSessionOperation → Option ControlHolder
  | .control _ _ holder _ _ => holder
  | _ => none

theorem granted_eq (session : Session) (event : Event) : granted session event = (completed session event).bind grantee := by
  unfold completed
  split
  next operation _ _ running =>
    unfold granted
    rw [running]
    cases operation <;> rfl
  next other =>
    unfold granted
    split
    next running => exact (other _ _ _ _ running rfl).elim
    next => rfl

/-- The epoch moves with a grant, by one, and with nothing else. -/
theorem Move.epoch {options : Options} {c c' : Control} {done : Option RunSessionOperation} (move : Move options c done c') :
    c'.epoch = c.epoch + (done.bind grantee).isSome.toNat ∧ ∀ holder, done.bind grantee = some holder → c'.holder = some holder := by
  cases move with
  | settles operation accepted =>
    cases operation with
    | control _ _ holder => 
      refine ⟨?_, fun _ same => same⟩
      cases holder with
      | none => exact accepted.2.2
      | some => exact accepted.2
    | _ => exact ⟨rfl, nofun⟩
  | same | attempt key inputSeq later | input subscription inputSeq bytes later holds | programmatic bytes free =>
    exact ⟨rfl, nofun⟩

/-- In every reachable state, whatever happens next: the control epoch grows by one when control is granted
and stays as it is otherwise. What has been submitted natively was submitted for the subscription that held
control at the epoch then current, with strictly increasing sequence numbers for each subscription. -/
theorem control_authority (options : Options) (events : List Event) :
    let session := run (step options) (new options) events
    (∀ event, (step options session event).controlEpoch =
        session.controlEpoch + (granted session event).isSome.toNat ∧
      ∀ holder, granted session event = some holder → (step options session event).controlHolder = some holder) ∧
    (∀ submission ∈ session.submitted, Proper options submission) ∧
    (∀ key, (inputsOf key session.submitted).Pairwise (· < ·)) := by
  intro session
  have inv : Inv options session := run_inv options events
  refine ⟨?_, inv.written.proper, inv.written.increasing⟩
  intro event
  obtain ⟨c', move, keeps⟩ := step_reaches options event ⟨rfl, inv.authorised⟩
  have moved := move.epoch
  rw [← keeps.control, ← granted_eq] at moved
  exact moved

end Cove.Worker.RunControl
