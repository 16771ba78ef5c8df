import Cove.Worker.RunSession

/-!
The turns of the pump, for any property of a session. Whatever an operation does, a turn goes on with changes of fields
that are local to it, takes numbers for the facts it makes, and ends with its item or waits for a call. A property that
is kept by these is kept by every stage of every operation.
-/

namespace Cove.Worker.RunTurns
open Protocol.Identity Protocol.TabInput Protocol.Terminal List
open Worker.RunSession Worker.RunSession.Session Session

/-- The facts an operation may still number after the one in progress. -/
def restFacts : Rest → Nat
  | .item => 0
  | .resized _ plan => plan.appearance.toList.length + plan.control.toNat
  | .recolored _ plan => plan.control.toNat
  | .granted _ => 0

def planned : Await → Nat
  | .apply _ rest => restFacts rest
  | .observed _ rest => restFacts rest
  | .resizing _ _ plan => 1 + plan.appearance.toList.length + plan.control.toNat
  | _ => 0

def operating : Await → Bool
  | .apply _ rest => rest != .item
  | .observed _ rest => rest != .item
  | .resizing .. => true
  | .current _ => true
  | _ => false

/-- The operation a stage of the pump belongs to, once the operation has been checked. -/
def operationOf : Await → Option RunSessionOperation
  | .current operation => some operation
  | .resizing operation _ _ => some operation
  | .settling operation => some operation
  | .apply _ (.resized operation _) => some operation
  | .apply _ (.recolored operation _) => some operation
  | .apply _ (.granted operation) => some operation
  | .observed _ (.resized operation _) => some operation
  | .observed _ (.recolored operation _) => some operation
  | .observed _ (.granted operation) => some operation
  | _ => none

/-- `In item left` holds within a turn of the item that may still number so many facts, `Out` where it ends or waits
at a stage that is allowed. Only an item that `Defers` may number facts. -/
structure Rules (options : Options) (Defers : Pending → Prop) (Allowed : Await → Prop)
    (In : Pending → Nat → Session → Prop) (Out : Session → Prop) : Prop where
  idle : ∀ {item left s writableFenced epochCounterExhausted parsedSeq lastState geometry exitApplied retained
    consumerFenced reports answers stopWaiters}, In item left s → In item left { s with
      writableFenced := writableFenced, epochCounterExhausted := epochCounterExhausted, parsedSeq := parsedSeq
      lastState := lastState, geometry := geometry, exitApplied := exitApplied, retained := retained
      consumerFenced := consumerFenced, reports := reports, answers := answers, stopWaiters := stopWaiters }
  exhaust : ∀ {item left s}, In item left s → In item left { s with counterExhausted := true }
  fault : ∀ {item left s} reason, In item left s → In item left (s.fault reason)
  fewer : ∀ {item left fewer s}, In item left s → fewer ≤ left ∨ fewer ≤ maxSafeInteger - s.receivedSeq → In item fewer s
  number : ∀ {item left s fact}, In item (left + 1) s → Defers item → s.disposed = false →
    fact.seq = s.receivedSeq + 1 → fact.bytes = [] →
    In item left { s with receivedSeq := s.receivedSeq + 1, applied := s.applied ++ [fact] }
  spend : ∀ {item left s}, In item (left + 1) s → s.disposed = true →
    In item left { s with receivedSeq := s.receivedSeq + 1 }
  finish : ∀ {item left s}, In item left s → Out (s.finish options item)
  await : ∀ {item left s stage}, In item left s → planned stage ≤ left → (operating stage = true → Defers item) →
    Allowed stage → Out (s.await item stage)
  observed : ∀ ok, Allowed (.observed ok .item)

namespace Rules

variable {options : Options} {Defers : Pending → Prop} {Allowed : Await → Prop} {In : Pending → Nat → Session → Prop}
  {Out : Session → Prop} {item : Pending} {left : Nat} {s : Session} {operation : RunSessionOperation}

section

variable (rules : Rules options Defers Allowed In Out) (turn : In item left s)
include rules turn

theorem conclude (result : RunSessionOperationResult) : Out (s.conclude options item result) := by
  unfold Session.conclude
  split
  · exact rules.finish (rules.idle turn)
  · exact rules.finish turn

theorem fenced (result : RunSessionOperationResult) : Out (s.fenceWritable.conclude options item result) :=
  rules.conclude (rules.idle turn) result

theorem caught : Out (s.caught options item) := by
  exact rules.finish (rules.fault _ (rules.idle turn))

theorem inputSettled (outcome : InputOutcome) : Out (s.inputSettled options item outcome) := by
  cases outcome with
  | rejected => exact rules.conclude turn _
  | written =>
    unfold Session.inputSettled
    dsimp only
    split
    · exact rules.conclude turn _
    · exact rules.fenced turn _
  | _ => exact rules.fenced turn _

theorem fenceUnwritten (receipt : InputPartReceipt) : In item left (s.fenceUnwritten receipt) := by
  unfold Session.fenceUnwritten
  split
  · exact turn
  · exact rules.idle turn

theorem submitSettled (text : InputPartReceipt) (outcome : PartOutcome) :
    Out (s.submitSettled options item text outcome) :=
  rules.conclude (rules.fenceUnwritten turn _) _

theorem factApplied {fact : Fact} {rest : Rest} (outcome : EngineOutcome) (consumerFails : Bool)
    (within : restFacts rest ≤ left) (works : rest ≠ .item → Defers item)
    (allowed : ∀ ok, Allowed (.observed ok rest)) :
    Out (s.factApplied options item fact rest outcome consumerFails) := by
  have observed : ∀ {s ok}, In item left s → Out (s.await item (.observed ok rest)) := fun turn =>
    rules.await turn within (fun working => works (by simpa [operating] using working)) (allowed _)
  unfold Session.factApplied
  split
  · exact rules.caught turn
  · exact observed (rules.fault _ turn)
  split
  · exact observed turn
  dsimp only
  split
  · unfold reportFault
    split <;> exact observed (rules.idle (s := s) turn)
  · exact observed (rules.idle (s := s) turn)

end

section

variable (rules : Rules options Defers Allowed In Out) (ok : ∀ stage, operationOf stage = some operation → Allowed stage)
include rules ok

theorem settle (turn : In item left s) : Out (s.settle options item operation) := by
  unfold Session.settle
  split
  · exact rules.caught turn
  · exact rules.await turn zero_le (by simp [operating]) (ok _ rfl)

variable (defers : Defers item)
include defers

theorem applyNext (turn : In item (left + 1) s) {event : Nat → RunEvent} (number : ∀ seq, (event seq).seq = seq)
    {rest : Rest} (within : restFacts rest ≤ left) (own : ∀ fact, operationOf (.apply fact rest) = some operation) :
    Out (s.applyNext options item event [] rest) := by
  unfold Session.applyNext Session.applyFact
  split
  next disposed => exact rules.caught (rules.spend turn disposed)
  next live =>
    exact rules.await (rules.number turn defers (by simpa using live) (number _) rfl) within (fun _ => defers)
      (ok _ (own _))

theorem grant (turn : In item left s) {plan : Plan} (within : plan.control.toNat ≤ left) :
    Out (s.grant options item operation plan) := by
  unfold Session.grant
  split
  · split
    next wanted =>
      rw [wanted] at within
      have one : In item (0 + 1) s := rules.fewer turn (.inl within)
      exact rules.applyNext ok defers one (fun _ => rfl) le_rfl (fun _ => rfl)
    · exact rules.settle ok turn
  · exact rules.settle ok turn

theorem recolor (turn : In item left s) {plan : Plan}
    (within : plan.appearance.toList.length + plan.control.toNat ≤ left) :
    Out (s.recolor options item operation plan) := by
  unfold Session.recolor
  split
  next appearance wanted =>
    rw [wanted] at within
    have more : In item (plan.control.toNat + 1) s := rules.fewer turn (.inl (by simpa [Nat.add_comm] using within))
    exact rules.applyNext ok defers more (fun _ => rfl) le_rfl (fun _ => rfl)
  · exact rules.grant ok defers turn (by omega)

theorem resize (turn : In item left s) {plan : Plan} (within : plan.facts ≤ left) :
    Out (s.resize options item operation plan) := by
  unfold Plan.facts at within
  unfold Session.resize
  split
  next geometry wanted =>
    rw [wanted] at within
    split
    · exact rules.await turn within (fun _ => defers) (ok _ rfl)
    · exact rules.fenced turn _
  · exact rules.recolor ok defers turn (by omega)

theorem current (turn : In item left s) (outcome : EngineOutcome) : Out (s.current options item operation outcome) := by
  unfold Session.current
  split
  · exact rules.caught turn
  · exact rules.conclude turn _
  dsimp only
  split
  · exact rules.conclude (rules.exhaust turn) _
  next room => exact rules.resize ok defers (rules.fewer turn (.inr (by omega))) le_rfl

theorem resized (turn : In item left s) {geometry : Geometry} {plan : Plan} (threw : Bool)
    (within : 1 + plan.appearance.toList.length + plan.control.toNat ≤ left) :
    Out (s.resized options item operation geometry plan threw) := by
  unfold Session.resized
  split
  · exact rules.fenced turn _
  split
  · exact rules.fenced turn _
  have more : In item (plan.appearance.toList.length + plan.control.toNat + 1) s :=
    rules.fewer turn (.inl (by omega))
  exact rules.applyNext ok defers more (fun _ => rfl) le_rfl (fun _ => rfl)

end

theorem continueAfter (rules : Rules options Defers Allowed In Out) (turn : In item left s) (ok : Bool) {rest : Rest}
    (defers : rest ≠ .item → Defers item) (within : restFacts rest ≤ left)
    (allowed : ∀ operation, operationOf (.observed ok rest) = some operation →
      ∀ stage, operationOf stage = some operation → Allowed stage) : Out (s.continueAfter options item ok rest) := by
  cases rest with
  | item => exact rules.finish turn
  | resized =>
    unfold Session.continueAfter
    dsimp only
    split
    · exact rules.fenced turn _
    · exact rules.recolor (allowed _ rfl) (defers (by simp)) turn within
  | recolored =>
    unfold Session.continueAfter
    dsimp only
    split
    · exact rules.fenced turn _
    · exact rules.grant (allowed _ rfl) (defers (by simp)) turn within
  | granted =>
    unfold Session.continueAfter
    dsimp only
    split
    · exact rules.fenced turn _
    · exact rules.settle (allowed _ rfl) turn

theorem engineReturned (rules : Rules options Defers Allowed In Out) (out : Out s) {stage : Await}
    (running : s.running = some ⟨item, stage⟩) (turn : In item (planned stage) s)
    (works : operating stage = true → Defers item) (allowed : ∀ operation, operationOf stage = some operation →
      ∀ later, operationOf later = some operation → Allowed later)
    (unsettled : ∀ operation, stage ≠ .settling operation) (outcome : EngineOutcome) (consumerFails : Bool) :
    Out (s.engineReturned options outcome consumerFails) := by
  unfold Session.engineReturned
  rw [running]
  cases stage with
  | barrier =>
    dsimp only
    split
    · exact rules.caught turn
    · exact rules.finish (rules.idle turn)
    · exact out
  | capture =>
    dsimp only
    split
    · exact rules.caught turn
    · exact rules.finish (rules.idle turn)
    · exact rules.finish (rules.idle turn)
    · exact out
  | unpublished =>
    cases outcome with
    | threw => exact rules.caught turn
    | failed => exact rules.finish (rules.fault _ turn)
    | ok => exact rules.finish turn
  | apply _ rest =>
    refine rules.factApplied turn outcome consumerFails le_rfl (by simpa [operating] using works) (fun ok => ?_)
    cases rest with
    | item => exact rules.observed ok
    | _ => exact allowed _ rfl _ rfl
  | status =>
    cases outcome with
    | threw => exact rules.caught turn
    | failed => exact rules.conclude turn _
    | ok => exact rules.conclude (rules.idle (s := s) turn) _
  | current operation => exact rules.current (allowed operation rfl) (works rfl) turn outcome
  | settling operation => exact absurd rfl (unsettled operation)
  | _ => exact out

end Rules

/-- The rules of a property that has nothing to do with control and input. Where it holds between two steps it holds
within the turn in progress. -/
structure FreeRules (options : Options) (Defers : Pending → Prop) (In : Pending → Nat → Session → Prop)
    (Out : Session → Prop) : Prop extends Rules options Defers (fun _ => True) In Out where
  free : ∀ {item left s inputCounterExhausted inputSequences submitted controlEpoch controlHolder}, In item left s →
    In item left { s with
      inputCounterExhausted := inputCounterExhausted, inputSequences := inputSequences, submitted := submitted
      controlEpoch := controlEpoch, controlHolder := controlHolder }
  dispose : ∀ {item left s} fails, In item left s → s.disposed = false → In item left (s.dispose fails)
  turn : ∀ {item stage s}, Out s → s.running = some ⟨item, stage⟩ →
    In item (planned stage) s ∧ (operating stage = true → Defers item)
  rest : ∀ {s writableFenced answers stopWaiters}, Out s →
    Out { s with writableFenced := writableFenced, answers := answers, stopWaiters := stopWaiters }

namespace FreeRules

variable {options : Options} {Defers : Pending → Prop} {In : Pending → Nat → Session → Prop} {Out : Session → Prop}
  {item : Pending} {left : Nat} {s : Session} (rules : FreeRules options Defers In Out)
include rules

section

variable (turn : In item left s)
include turn

theorem settled (operation : RunSessionOperation) (outcome : EngineOutcome) :
    Out (s.settled options item operation outcome) := by
  cases outcome with
  | threw => exact rules.caught turn
  | failed => exact rules.fenced turn _
  | ok =>
    cases operation with
    | control => exact rules.conclude (rules.free (s := s) turn) _
    | _ => exact rules.conclude turn _

theorem textSettled (size : Nat) (submit : Bool) (outcome : PartOutcome) :
    Out (s.textSettled options item size submit outcome) := by
  have unwritten := rules.fenceUnwritten turn (partReceipt size outcome)
  unfold Session.textSettled
  dsimp only
  split
  · exact rules.conclude unwritten _
  split
  · exact rules.conclude unwritten _
  split
  · exact rules.submitSettled unwritten _ _
  · exact rules.await (rules.free unwritten) zero_le (by simp [operating]) trivial

theorem programmaticInput (epoch : Nat) (bytes : List UInt8) (submit : Bool) (oracle : Oracle) :
    Out (s.programmaticInput options item epoch bytes submit oracle) := by
  unfold Session.programmaticInput
  split_ifs
  any_goals exact rules.conclude turn _
  all_goals exact rules.await (rules.free turn) zero_le (by simp [operating]) trivial

theorem input (subscription : SubscriptionRef) (epoch inputSeq : Nat) (bytes : List UInt8) (oracle : Oracle) :
    Out (s.input options item subscription epoch inputSeq bytes oracle) := by
  unfold Session.input
  dsimp only
  split
  · exact rules.conclude (rules.free turn) _
  split
  · exact rules.conclude turn _
  split
  · exact rules.conclude turn _
  split
  · exact rules.conclude (rules.free turn) _
  · exact rules.await (rules.free (s := s) turn) zero_le (by simp [operating]) trivial

/-- The part of an operation up to its first call hands nothing to the model. -/
theorem runOperation (defers : Defers item) (live : s.disposed = false) (operation : RunSessionOperation)
    (oracle : Oracle) : Out (s.runOperation options item operation oracle) := by
  unfold Session.runOperation
  split
  · exact rules.await (rules.dispose oracle.fails turn live) zero_le (by simp [operating]) trivial
  · split
    · exact rules.conclude turn _
    · exact rules.await turn zero_le (by simp [operating]) trivial
  · split
    · exact rules.conclude turn _
    split
    · exact rules.conclude turn _
    split
    · exact rules.programmaticInput turn _ _ _ _
    · split
      · exact rules.conclude (rules.idle turn) _
      · exact rules.await turn zero_le (fun _ => defers) trivial
    · split
      · exact rules.conclude turn _
      · exact rules.input turn _ _ _ _ _
    iterate 2
      · split
        · exact rules.conclude turn _
        · exact rules.await turn zero_le (fun _ => defers) trivial
    · cases operation <;> grind

end

section

variable (out : Out s)
include out

theorem engineReturned (outcome : EngineOutcome) (consumerFails : Bool) :
    Out (s.engineReturned options outcome consumerFails) := by
  cases running : s.running with
  | none =>
    unfold Session.engineReturned
    rw [running]
    exact out
  | some current =>
    obtain ⟨item, stage⟩ := current
    obtain ⟨turn, works⟩ := rules.turn out running
    by_cases settling : ∃ operation, stage = .settling operation
    · obtain ⟨operation, rfl⟩ := settling
      unfold Session.engineReturned
      rw [running]
      exact rules.settled turn _ _
    · push Not at settling
      exact rules.toRules.engineReturned out running turn works (fun _ _ _ _ => trivial) settling outcome consumerFails

def returns : Event → Bool
  | .engine .. | .observed | .resized _ | .inputSettled _ | .partSettled _ | .lateSettlement _ | .disposalSettled => true
  | _ => false

theorem step {event : Event} (back : returns event = true) : Out (step options s event) := by
  cases event with
  | engine outcome consumerFails => exact rules.engineReturned out outcome consumerFails
  | observed =>
    unfold RunSession.step observersReturned
    dsimp only
    split
    next item ok rest running =>
      obtain ⟨turn, works⟩ := rules.turn out running
      exact rules.continueAfter turn ok (by simpa [operating] using works) le_rfl (fun _ _ _ _ => trivial)
    · exact out
  | resized threw =>
    unfold RunSession.step resizeReturned
    dsimp only
    split
    next item operation geometry plan running =>
      obtain ⟨turn, works⟩ := rules.turn out running
      exact rules.resized (fun _ _ => trivial) (works rfl) turn threw le_rfl
    · exact out
  | inputSettled outcome =>
    unfold RunSession.step inputReturned
    dsimp only
    split
    next running => exact rules.inputSettled (rules.turn out running).1 outcome
    · exact out
  | partSettled outcome =>
    unfold RunSession.step partReturned
    dsimp only
    split
    next running => exact rules.textSettled (rules.turn out running).1 _ _ outcome
    next running => exact rules.submitSettled (rules.turn out running).1 _ outcome
    · exact out
  | lateSettlement =>
    unfold RunSession.step
    dsimp only
    split
    · exact out
    · exact rules.rest out
  | disposalSettled =>
    unfold RunSession.step disposalSettled
    dsimp only
    split
    · exact out
    split
    next running => exact rules.conclude (rules.idle (rules.turn out running).1) _
    · exact rules.rest out
  | _ => cases back

end

end FreeRules

/-- The rules of what reaches the session from outside, while the pump stands where it is. -/
structure Between (options : Options) (Out : Session → Prop) : Prop where
  still : ∀ {s stopOperation resuming answers promises stopWaiters}, Out s → Out { s with
    stopOperation := stopOperation, resuming := resuming, answers := answers, promises := promises
    stopWaiters := stopWaiters }
  fault : ∀ {s} reason, Out s → Out (s.fault reason)
  onFault : ∀ {s} fault, Out s → Out (s.onFault fault)
  dispose : ∀ {s} fails, Out s → Out (s.dispose fails)
  exited : ∀ {s}, Out s → Out { s with exited := true }
  exhaust : ∀ {s}, Out s → Out { s with counterExhausted := true }
  unpause : ∀ {s paused}, Out s → paused = false ∨ paused = s.paused → Out { s with pausing := false, paused := paused }
  enqueue : ∀ {s item deferIngress}, Out s → (∀ promise, (item promise).lease? = none) →
    deferIngress = true ∨ deferIngress = s.deferIngress ∧ (∀ promise, (item promise).defers = false) →
    Out (({ s with deferIngress := deferIngress }).enqueue options item)
  exitDeferred : ∀ {s exit}, Out s → s.exited = true → s.deferIngress = true → Out ({ s with
    pending := s.pending ++ [Pending.deferredExit exit s.leases.length], leases := s.leases ++ [1] }).schedule
  exitNumbered : ∀ {s exitCode signal}, Out s → s.disposed = false → s.faulted = false → s.exited = true →
    s.deferIngress = false → s.receivedSeq ≠ maxSafeInteger → Out ({ s with
      pending := s.pending ++ [Pending.fact ⟨.exit options.run (s.receivedSeq + 1) exitCode signal, []⟩ s.leases.length]
      receivedSeq := s.receivedSeq + 1
      leases := s.leases ++ [1] }).schedule

namespace Between

variable {options : Options} {Out : Session → Prop} {s : Session} (rules : Between options Out) (out : Out s)
include rules out

theorem reply (answer : Answer) : Out (s.reply answer) := rules.still (s := s) out

theorem onExit (exit : Option NativeExit) (reservation : Reservation) : Out (s.onExit options exit reservation) := by
  unfold Session.onExit
  split
  · exact out
  cases exit with
  | none => exact rules.onFault _ out
  | some =>
    have exited := rules.exited out
    dsimp only
    split
    · exact exited
    rename_i closed
    push Not at closed
    split
    next deferring =>
      cases reservation with
      | refused | failed => exact rules.fault _ exited
      | granted => exact rules.exitDeferred exited rfl deferring
    next direct =>
      split
      · exact rules.exhaust exited
      rename_i room
      split
      · exact rules.fault _ exited
      cases reservation with
      | refused | failed => exact rules.fault _ exited
      | granted =>
        exact rules.exitNumbered exited (by simpa using closed.1) (by simpa using closed.2) rfl (by simpa using direct)
          room

theorem capture {item : Nat → Pending} (free : ∀ promise, (item promise).lease? = none) :
    Out (s.capture options item) := by
  unfold Session.capture
  split_ifs
  any_goals exact rules.reply out _
  exact rules.enqueue out free (.inl rfl)

theorem execute (operation : RunSessionOperation) (fails : Bool) : Out (s.execute options operation fails) := by
  unfold Session.execute
  split
  · dsimp only
    split
    · exact out
    split
    · exact rules.still (rules.dispose fails (rules.still out))
    · exact rules.enqueue (s := { s with stopOperation := true }) (rules.still out) (fun _ => rfl) (.inl rfl)
  · split_ifs
    any_goals exact rules.reply out _
    exact rules.enqueue out (fun _ => rfl) (.inl rfl)

def arrives : Event → Bool
  | .exit .. | .nativeFault _ | .automaticOutput _ | .barrier | .captureBaseline | .capturePreview | .execute ..
  | .dispose _ | .paused _ | .resumed _ | .stopped _ => true
  | _ => false

theorem step {event : Event} (outside : arrives event = true) : Out (step options s event) := by
  cases event with
  | exit exit reservation => exact rules.onExit out exit reservation
  | nativeFault fault => exact rules.onFault fault out
  | automaticOutput =>
    unfold RunSession.step automaticOutput
    dsimp only
    split_ifs
    · exact out
    · exact rules.fault _ out
    · exact out
  | barrier =>
    unfold RunSession.step barrier
    dsimp only
    split_ifs
    any_goals exact rules.reply out _
    exact rules.enqueue out (fun _ => rfl) (.inr ⟨rfl, fun _ => rfl⟩)
  | captureBaseline | capturePreview => exact rules.capture out (fun _ => rfl)
  | execute operation fails => exact rules.execute out operation fails
  | dispose fails => exact rules.dispose fails out
  | paused =>
    unfold RunSession.step pauseReturned
    dsimp only
    split
    · exact out
    split
    · exact rules.onFault _ (rules.unpause out (.inl rfl))
    split
    · exact rules.unpause out (.inl rfl)
    · exact rules.unpause out (.inr rfl)
  | resumed =>
    unfold RunSession.step resumeReturned
    dsimp only
    split
    · exact out
    split
    · exact rules.fault _ (rules.still out)
    · exact rules.still out
  | stopped =>
    unfold RunSession.step stopReturned
    dsimp only
    split
    · exact rules.exited out
    · exact out
  | _ => cases outside

end Between

end Cove.Worker.RunTurns
