import Cove.Base.Run
import Cove.Protocol.Terminal
import Mathlib.Order.Monotone.Basic
import Mathlib.Tactic

/-!
The client's view of who controls a run. A focus result travels outside the ordered facts: it is only a candidate grant
until the grant's own control fact has been applied. The facts of the run, the focus results and the authority that a
baseline reports reach the client in any order a stream allows; the client around `TerminalControl` is modelled as far
as it decides what is observed, applied and restored.
-/

namespace Cove.Client.Control
open Base.Run Protocol.Identity Protocol.Terminal Option

structure ControlFact where
  run : RunRef
  seq : Nat
  epoch : Nat
  holder : Option ControlHolder
  geometry : Geometry

def ControlFact.ofEvent : RunEvent → Option ControlFact
  | .control run seq epoch holder geometry => some ⟨run, seq, epoch, holder, geometry⟩
  | _ => none

/-- Who controls, and in which epoch. A baseline reports it as of its own sequence. -/
structure Authority where
  epoch : Nat
  holder : Option ControlHolder
  deriving DecidableEq

def ControlFact.authority (fact : ControlFact) : Authority := ⟨fact.epoch, fact.holder⟩

structure Grant where
  ref : SubscriptionRef
  viewGeneration : Nat
  intent : Nat
  epoch : Nat
  atSeq : Nat
  deriving DecidableEq

variable (ref : SubscriptionRef)

def heldBy (fact : ControlFact) : Bool :=
  match fact.holder with
  | none => false
  | some holder =>
    sameConnectionRef holder.connection ref.connection && holder.viewId == ref.viewId &&
      holder.subscriptionId == ref.subscriptionId

def contradicts (epoch atSeq : Nat) (ref : SubscriptionRef) (fact : ControlFact) : Bool :=
  if fact.epoch > epoch then true
  else if fact.epoch = epoch then !heldBy ref fact
  else decide (fact.seq ≥ atSeq)

structure TerminalControl where
  /-- `none` once the counter is exhausted. -/
  intent : Option Nat
  foreground : Bool
  target : Bool
  pending : Option Nat
  grant : Option Grant
  observed : Option ControlFact
  applied : Option ControlFact
  /-- The facts observed, by the object they arrived as. -/
  canonicalFacts : Nat × Nat → Option ControlFact
  reconnectFocus : Bool
  exited : Bool
  recovering : Bool
  carried : Option Grant
  carriedIntent : Option Nat
  restoredGeneration : Nat
  targetLosses : Nat

namespace TerminalControl

def new : TerminalControl where
  intent := some 0
  foreground := false
  target := false
  pending := none
  grant := none
  observed := none
  applied := none
  canonicalFacts := fun _ => none
  reconnectFocus := false
  exited := false
  recovering := false
  carried := none
  carriedIntent := none
  restoredGeneration := 0
  targetLosses := 0

variable (control : TerminalControl)

def invalidate : TerminalControl :=
  { control with
    intent := control.intent.bind nextCounter
    pending := none
    grant := none
    recovering := false
    carried := none
    carriedIntent := none }

def setTarget (foreground target : Bool) : TerminalControl :=
  let aimed := { control with foreground := foreground, target := foreground && target }
  if !aimed.target then { aimed with targetLosses := aimed.targetLosses + 1 }.invalidate else aimed

def wantsFocus : Bool := control.foreground && control.target

def beginFocus : TerminalControl × Option Nat :=
  if !control.wantsFocus || control.exited then (control, none)
  else
    match control.intent.bind nextCounter with
    | none => (control, none)
    | some next =>
      ({ control with
          intent := some next
          pending := some next
          grant := none
          carried := none
          carriedIntent := none }, some next)

/-- A focus result. The result of a focus sent before a recovery waits for the baseline's verdict, or is bound to the
view the baseline made. -/
def acceptFocus (intent : Nat) (ref : SubscriptionRef) (viewGeneration epoch atSeq : Nat) : TerminalControl × Bool :=
  let carried := control.carriedIntent == some intent
  if (control.pending != some intent && !carried) || !control.wantsFocus || control.exited then (control, false)
  else if control.observed.any (contradicts epoch atSeq ref) then (control, false)
  else if carried then
    let held := { control with carriedIntent := none }
    if control.recovering then ({ held with carried := some ⟨ref, viewGeneration, intent, epoch, atSeq⟩ }, true)
    else ({ held with grant := some ⟨ref, control.restoredGeneration, intent, epoch, atSeq⟩ }, true)
  else ({ control with pending := none, grant := some ⟨ref, viewGeneration, intent, epoch, atSeq⟩ }, true)

def failFocus (intent : Nat) : TerminalControl :=
  { control with
    pending := if control.pending = some intent then none else control.pending
    carriedIntent := if control.carriedIntent = some intent then none else control.carriedIntent }

def stale (previous : Option ControlFact) (fact : ControlFact) : Bool :=
  previous.any (fun known =>
    decide (fact.epoch < known.epoch) || (fact.epoch == known.epoch && decide (fact.seq < known.seq)))

def observe (object : Nat × Nat) (fact : ControlFact) (ref : SubscriptionRef) : TerminalControl :=
  if stale control.observed fact then control
  else
    let revoked := control.grant.any (fun grant => contradicts grant.epoch grant.atSeq ref fact)
    { control with
      canonicalFacts := fun other => if other = object then some fact else control.canonicalFacts other
      observed := some fact
      grant := if revoked then none else control.grant
      pending := if revoked then none else control.pending
      carried := if control.carried.any (fun grant => contradicts grant.epoch grant.atSeq ref fact) then none
        else control.carried }

def apply (object : Nat × Nat) : TerminalControl :=
  match control.canonicalFacts object with
  | none => control
  | some fact =>
    if control.applied.all (fun known => decide (fact.epoch ≥ known.epoch)) then { control with applied := some fact }
    else control

def ready (ref : SubscriptionRef) (viewGeneration appliedSeq : Nat) : Bool :=
  control.wantsFocus && !control.exited &&
    match control.grant, control.applied with
    | some grant, some applied =>
      sameSubscriptionRef grant.ref ref && grant.viewGeneration == viewGeneration && decide (appliedSeq ≥ grant.atSeq) &&
        applied.epoch == grant.epoch && heldBy ref applied &&
        control.observed.all (fun observed => observed.epoch == grant.epoch && heldBy ref observed)
    | _, _ => false

def resetForRecovery : TerminalControl := { control.invalidate with observed := none, applied := none }

/-- A recovery after a change of the grid: the grant, or the focus still without its result, is carried. -/
def suspendForRecovery : TerminalControl :=
  let reset := control.resetForRecovery
  if !reset.wantsFocus || reset.exited then reset
  else
    { reset with
      recovering := true
      carried := control.grant
      carriedIntent := if control.grant.isSome then none else control.pending <|> control.carriedIntent }

/-- Facts after the baseline may already have been observed: the newer authority is kept. -/
def newest (observed : Option ControlFact) (canonical : ControlFact) : ControlFact :=
  match observed with
  | none => canonical
  | some known =>
    if canonical.epoch > known.epoch ∨ canonical.epoch = known.epoch ∧ canonical.seq ≥ known.seq then canonical
    else known

/-- The authority a finished baseline reports at its sequence, and its verdict on a carried grant. -/
def restore (authority : Authority) (atSeq : Nat) (run : RunRef) (geometry : Geometry) (ref : SubscriptionRef)
    (viewGeneration : Nat) : TerminalControl :=
  let canonical : ControlFact := ⟨run, atSeq, authority.epoch, authority.holder, geometry⟩
  let observed := newest control.observed canonical
  let settled :=
    { control with
      observed := some observed
      applied := some canonical
      recovering := false
      carried := none
      restoredGeneration := viewGeneration }
  match control.carried with
  | none => settled
  | some carried =>
    if !control.wantsFocus || control.exited || !sameSubscriptionRef carried.ref ref then settled
    else if contradicts carried.epoch carried.atSeq ref canonical || contradicts carried.epoch carried.atSeq ref observed
    then settled
    else { settled with grant := some { carried with viewGeneration := viewGeneration } }

def finishRecovery : TerminalControl :=
  if !control.recovering then control
  else { control with recovering := false, carried := none, carriedIntent := none }

def connectionLost : TerminalControl := { control with reconnectFocus := control.wantsFocus }.resetForRecovery

def takeReconnectFocus : TerminalControl := { control with reconnectFocus := false }

def replaceView : TerminalControl :=
  { control with foreground := false, target := false, reconnectFocus := false }.resetForRecovery

def exit : TerminalControl := { control with exited := true }.resetForRecovery

end TerminalControl

/-! ### The facts of a run -/

variable (history : List RunEvent)

def authorityAt (seq : Nat) : Authority :=
  (((history.take seq).filterMap ControlFact.ofEvent).getLast?.map ControlFact.authority).getD ⟨0, none⟩

/-- The facts are numbered from one, and the epoch never falls. -/
structure Ordered : Prop where
  numbered : ∀ (index : Nat) (event : RunEvent), history[index]? = some event → event.seq = index + 1
  rises : ∀ seq, (authorityAt history seq).epoch ≤ (authorityAt history (seq + 1)).epoch

def holderOf : ControlHolder := ⟨ref.connection, ref.subscriptionId, ref.viewId⟩

def Granted (ref : SubscriptionRef) (epoch atSeq : Nat) : Prop :=
  authorityAt history atSeq = ⟨epoch, some (holderOf ref)⟩ ∧ ∀ seq < atSeq, (authorityAt history seq).epoch < epoch

instance (history : List RunEvent) (ref : SubscriptionRef) (epoch atSeq : Nat) :
    Decidable (Granted history ref epoch atSeq) :=
  inferInstanceAs (Decidable (_ ∧ ∀ seq < atSeq, _))

/-! ### The client -/

inductive Phase where
  /-- No attempt: what arrives is dropped. -/
  | lost
  | baseline (atSeq : Nat)
  | following
  deriving DecidableEq

structure Viewer where
  control : TerminalControl
  ref : SubscriptionRef
  phase : Phase
  /-- The number of the attempt; a fact's object is known by its attempt and sequence. -/
  attempt : Nat
  arrived : Nat
  appliedSeq : Nat
  viewGeneration : Nat

def Viewer.new : Viewer where
  control := TerminalControl.new
  ref := ref
  phase := .lost
  attempt := 0
  arrived := 0
  appliedSeq := 0
  viewGeneration := 0

inductive Event where
  | setTarget (foreground target : Bool)
  | beginFocus
  | focusResult (intent viewGeneration epoch atSeq : Nat)
  | failFocus (intent : Nat)
  | arrive
  | applyNext
  | openReplay
  | openBaseline (atSeq viewGeneration : Nat)
  | restore (geometry : Geometry)
  | recover (resizeContext : Bool)
  | finishRecovery
  | connectionLost
  | takeReconnectFocus
  | replaceView (viewGeneration : Nat)
  | exit
  | retire (ref : SubscriptionRef)

namespace Viewer

variable (history : List RunEvent) (client : Viewer)

/-- A fact arrives in its turn; a control fact is observed at once, before it is applied. -/
def arrive : Viewer :=
  match client.phase, history[client.arrived]? with
  | .lost, _ => client
  | _, none => client
  | _, some event =>
    let control := match ControlFact.ofEvent event with
      | none => client.control
      | some fact => client.control.observe (client.attempt, event.seq) fact client.ref
    { client with control := control, arrived := client.arrived + 1 }

def applyNext : Viewer :=
  if client.phase = .following ∧ client.appliedSeq < client.arrived then
    match history[client.appliedSeq]? with
    | none => client
    | some event =>
      let control := match ControlFact.ofEvent event with
        | none => client.control
        | some _ => client.control.apply (client.attempt, event.seq)
      { client with control := control, appliedSeq := client.appliedSeq + 1 }
  else client

/-- A baseline is of the run as it is when it is captured, so not before anything that has arrived. -/
def openBaseline (atSeq viewGeneration : Nat) : Viewer :=
  if client.phase = .lost ∧ client.arrived ≤ atSeq ∧ client.appliedSeq ≤ atSeq ∧ atSeq ≤ history.length then
    { client with
      phase := .baseline atSeq
      attempt := client.attempt + 1
      arrived := atSeq
      viewGeneration := viewGeneration }
  else client

def openReplay : Viewer :=
  if client.phase = .lost then
    { client with phase := .following, attempt := client.attempt + 1, arrived := client.appliedSeq }
  else client

def restore (geometry : Geometry) : Viewer :=
  match client.phase with
  | .baseline atSeq =>
    { client with
      control := client.control.restore (authorityAt history atSeq) atSeq client.ref.run geometry client.ref
        client.viewGeneration
      phase := .following
      appliedSeq := atSeq }
  | _ => client

def step : Event → Viewer
  | .setTarget foreground target => { client with control := client.control.setTarget foreground target }
  | .beginFocus => { client with control := client.control.beginFocus.1 }
  | .focusResult intent viewGeneration epoch atSeq =>
    if Granted history client.ref epoch atSeq then
      { client with control := (client.control.acceptFocus intent client.ref viewGeneration epoch atSeq).1 }
    else client
  | .failFocus intent => { client with control := client.control.failFocus intent }
  | .arrive => client.arrive history
  | .applyNext => client.applyNext history
  | .openReplay => client.openReplay
  | .openBaseline atSeq viewGeneration => client.openBaseline history atSeq viewGeneration
  | .restore geometry => client.restore history geometry
  | .recover resizeContext =>
    { client with
      control := if resizeContext then client.control.suspendForRecovery else client.control.resetForRecovery
      phase := .lost }
  | .finishRecovery => { client with control := client.control.finishRecovery }
  | .connectionLost => { client with control := client.control.connectionLost, phase := .lost }
  | .takeReconnectFocus => { client with control := client.control.takeReconnectFocus }
  | .replaceView viewGeneration =>
    { client with control := client.control.replaceView, phase := .lost, viewGeneration := viewGeneration }
  | .exit => { client with control := client.control.exit }
  | .retire ref => { client with control := client.control.resetForRecovery, phase := .lost, ref := ref }

end Viewer

open TerminalControl

/-! ### Authority along the facts -/

section History
variable {history : List RunEvent} {event : RunEvent} {fact : ControlFact} {seq : Nat}

theorem authorityAt_succ (got : history[seq]? = some event) :
    authorityAt history (seq + 1) = match ControlFact.ofEvent event with
      | some fact => fact.authority
      | none => authorityAt history seq := by
  unfold authorityAt
  rw [List.take_add_one, got]
  cases control : ControlFact.ofEvent event with
  | none | some fact => simp [control]

theorem authorityAt_control (got : history[seq]? = some event) (control : ControlFact.ofEvent event = some fact) :
    authorityAt history (seq + 1) = fact.authority := by
  rw [authorityAt_succ got, control]

theorem authorityAt_other (got : history[seq]? = some event) (other : ControlFact.ofEvent event = none) :
    authorityAt history (seq + 1) = authorityAt history seq := by
  rw [authorityAt_succ got, other]

theorem ofEvent_seq (control : ControlFact.ofEvent event = some fact) : fact.seq = event.seq := by
  cases event with
  | control =>
    cases control
    rfl
  | _ => cases control

theorem Ordered.epoch_le (ordered : Ordered history) {first last : Nat} (earlier : first ≤ last) :
    (authorityAt history first).epoch ≤ (authorityAt history last).epoch :=
  monotone_nat_of_le_succ ordered.rises earlier

theorem heldBy_iff (fact : ControlFact) :
    heldBy ref fact = true ↔ fact.holder = some (holderOf ref) := by
  cases holder : fact.holder with
  | none => simp [heldBy, holder]
  | some known =>
    rcases known with ⟨⟨connectionId, generation⟩, subscriptionId, viewId⟩
    rcases ref with ⟨run, ⟨ownId, ownGeneration⟩, ownSubscription, ownView⟩
    simp only [heldBy, holder, sameConnectionRef, holderOf, Bool.and_eq_true, beq_iff_eq, Option.some.injEq,
      ControlHolder.mk.injEq, ConnectionRef.mk.injEq]
    tauto

variable {ref : SubscriptionRef} {epoch atSeq : Nat}

/-- Authority that rules a grant out is not before the grant, and is not this subscription's in the grant's epoch. -/
theorem contradicts_ends (granted : Granted history ref epoch atSeq)
    (known : fact.authority = authorityAt history fact.seq) (against : contradicts epoch atSeq ref fact = true) :
    atSeq ≤ fact.seq ∧ authorityAt history fact.seq ≠ ⟨epoch, some (holderOf ref)⟩ := by
  have same : (authorityAt history fact.seq).epoch = fact.epoch := by rw [← known]; rfl
  have later : fact.epoch ≥ epoch → atSeq ≤ fact.seq := by
    by_contra before
    have less := granted.2 fact.seq (by omega)
    omega
  unfold contradicts at against
  split at against
  · refine ⟨later (by omega), ?_⟩
    intro ours
    rw [ours] at same
    simp only at same
    omega
  split at against
  · refine ⟨later (by omega), ?_⟩
    intro ours
    have holder : fact.holder = some (holderOf ref) := by
      rw [← known] at ours
      exact congrArg Authority.holder ours
    rw [(heldBy_iff ref fact).mpr holder] at against
    cases against
  · refine ⟨of_decide_eq_true against, ?_⟩
    intro ours
    rw [ours] at same
    simp only at same
    omega

end History

/-! ### What the client knows is true of the run -/

/-- The first fact whose object may still be applied. -/
def Viewer.base (client : Viewer) : Nat :=
  match client.phase with
  | .lost => client.arrived
  | .baseline atSeq => atSeq
  | .following => client.appliedSeq

structure Faithful (client : Viewer) : Prop where
  applied : ∀ fact, client.control.applied = some fact → fact.authority = authorityAt history client.appliedSeq
  observed : ∀ fact, client.control.observed = some fact →
    fact.seq ≤ client.arrived ∧ fact.authority = authorityAt history fact.seq
  canonical : ∀ index event fact, client.base ≤ index → index < client.arrived → history[index]? = some event →
    ControlFact.ofEvent event = some fact → client.control.canonicalFacts (client.attempt, event.seq) = some fact
  bounds : client.appliedSeq ≤ client.base ∨ client.phase = .lost
  reached : client.base ≤ client.arrived
  lost : client.phase = .lost → client.control.observed = none ∧ client.control.applied = none
  grant : ∀ grant, client.control.grant = some grant →
    grant.ref = client.ref ∧ Granted history client.ref grant.epoch grant.atSeq
  carried : ∀ grant, client.control.carried = some grant →
    grant.ref = client.ref ∧ Granted history client.ref grant.epoch grant.atSeq ∧ client.control.wantsFocus = true ∧
      client.control.exited = false

variable {history : List RunEvent} {c : Viewer} {control : TerminalControl}

theorem Faithful.new (history : List RunEvent) (ref : SubscriptionRef) : Faithful history (Viewer.new ref) := by
  constructor <;> simp [Viewer.new, TerminalControl.new, Viewer.base]

theorem Faithful.lose (c : Viewer) (control : TerminalControl) (ref : SubscriptionRef) (viewGeneration : Nat)
    (observed : control.observed = none) (applied : control.applied = none)
    (grant : ∀ grant, control.grant = some grant → grant.ref = ref ∧ Granted history ref grant.epoch grant.atSeq)
    (carried : ∀ grant, control.carried = some grant →
      grant.ref = ref ∧ Granted history ref grant.epoch grant.atSeq ∧ control.wantsFocus = true ∧
        control.exited = false) : Faithful history
      { c with control := control, ref := ref, phase := .lost, viewGeneration := viewGeneration } where
  applied := by simp [applied]
  observed := by simp [observed]
  canonical := by
    intro index event fact after before
    exact absurd before (Nat.not_lt.mpr after)
  bounds := .inr rfl
  reached := le_rfl
  lost := fun _ => ⟨observed, applied⟩
  grant := grant
  carried := carried

theorem Faithful.reset (history : List RunEvent) (c : Viewer) (control : TerminalControl) (ref : SubscriptionRef)
    (viewGeneration : Nat) (empty : control.observed = none ∧ control.applied = none ∧ control.grant = none ∧
      control.carried = none) : Faithful history
      { c with control := control, ref := ref, phase := .lost, viewGeneration := viewGeneration } := by
  obtain ⟨observed, applied, grant, carried⟩ := empty
  apply Faithful.lose c control ref viewGeneration observed applied
  · simp [grant]
  · simp [carried]

section

variable (faithful : Faithful history c)
include faithful

theorem Faithful.setTarget (foreground target : Bool) :
    Faithful history { c with control := c.control.setTarget foreground target } := by
  simp only [TerminalControl.setTarget]
  split
  · exact { faithful with grant := nofun, carried := nofun }
  · rename_i aimed
    refine { faithful with carried := ?_ }
    intro grant held
    obtain ⟨same, granted, _, exited⟩ := faithful.carried grant held
    refine ⟨same, granted, ?_, exited⟩
    simp only [Bool.not_eq_true', Bool.not_eq_false, Bool.and_eq_true] at aimed
    simp [TerminalControl.wantsFocus, aimed.1, aimed.2]

theorem Faithful.beginFocus : Faithful history { c with control := c.control.beginFocus.1 } := by
  unfold TerminalControl.beginFocus
  split
  · exact { faithful with }
  split
  · exact { faithful with }
  exact { faithful with grant := nofun, carried := nofun }

theorem Faithful.acceptFocus {epoch atSeq : Nat}
    (granted : Granted history c.ref epoch atSeq) (intent viewGeneration : Nat) : Faithful history
      { c with control := (c.control.acceptFocus intent c.ref viewGeneration epoch atSeq).1 } := by
  simp only [TerminalControl.acceptFocus]
  split
  · exact { faithful with }
  rename_i wanted
  simp only [Bool.or_eq_true, not_or, Bool.not_eq_true] at wanted
  split
  · exact { faithful with }
  split
  · split
    · refine { faithful with carried := ?_ }
      intro grant held
      cases held
      have focused : c.control.wantsFocus = true := by simpa using wanted.1.2
      exact ⟨rfl, granted, focused, wanted.2⟩
    · refine { faithful with grant := ?_ }
      intro grant held
      cases held
      exact ⟨rfl, granted⟩
  · refine { faithful with grant := ?_ }
    intro grant held
    cases held
    exact ⟨rfl, granted⟩

theorem Faithful.fresh (ordered : Ordered history) {event : RunEvent}
    {fact : ControlFact} (got : history[c.arrived]? = some event)
    (isControl : ControlFact.ofEvent event = some fact) : stale c.control.observed fact = false := by
  cases seen : c.control.observed with
  | none => rfl
  | some known =>
    obtain ⟨before, true_⟩ := faithful.observed known seen
    have numbered := ordered.numbered c.arrived event got
    have named := ofEvent_seq isControl
    have rises := ordered.epoch_le (Nat.le_succ_of_le before)
    rw [authorityAt_control got isControl, ← true_] at rises
    have epochs : known.epoch ≤ fact.epoch := rises
    simp only [stale, any_some, Bool.or_eq_false_iff, decide_eq_false_iff_not, Bool.and_eq_false_iff]
    omega

theorem Faithful.arrive (ordered : Ordered history) : Faithful history (c.arrive history) := by
  unfold Viewer.arrive
  split
  · exact faithful
  · exact faithful
  rename_i event got active
  have numbered := ordered.numbered c.arrived event got
  have base : c.base ≤ c.arrived + 1 := Nat.le_succ_of_le faithful.reached
  have same : ∀ control : TerminalControl,
      ({ c with control := control, arrived := c.arrived + 1 } : Viewer).base = c.base := by
    intro control
    unfold Viewer.base
    cases phase : c.phase with
    | lost => exact absurd phase active
    | baseline atSeq | following => rfl
  cases isControl : ControlFact.ofEvent event with
  | none =>
    refine { faithful with observed := ?_, canonical := ?_, bounds := ?_, reached := ?_ }
    · intro fact known
      obtain ⟨before, true_⟩ := faithful.observed fact known
      exact ⟨Nat.le_succ_of_le before, true_⟩
    · intro index other fact after before at_ control
      rw [same] at after
      by_cases last : index = c.arrived
      · subst last
        rw [got] at at_
        cases at_
        rw [isControl] at control
        cases control
      · exact faithful.canonical index other fact after (by simp only at before; omega) at_ control
    · rw [same]
      exact faithful.bounds
    · rw [same]
      exact base
  | some =>
    have fresh := faithful.fresh ordered got isControl
    have named := ofEvent_seq isControl
    simp only [TerminalControl.observe, fresh, Bool.false_eq_true, if_false]
    constructor
    · exact faithful.applied
    · intro known seen
      cases seen
      refine ⟨by simp only; omega, ?_⟩
      rw [named, numbered, authorityAt_control got isControl]
    · intro index other later after before at_ control
      rw [same] at after
      have place := ordered.numbered index other at_
      by_cases last : index = c.arrived
      · subst last
        rw [got] at at_
        cases at_
        rw [isControl] at control
        cases control
        simp
      · have differs : other.seq ≠ event.seq := by omega
        have known := faithful.canonical index other later after (by simp only at before; omega) at_ control
        simpa [differs] using known
    · rw [same]
      exact faithful.bounds
    · rw [same]
      exact base
    · intro lost
      exact absurd lost active
    · intro grant held
      split at held
      · cases held
      · exact faithful.grant grant held
    · intro grant held
      simp only at held
      split at held
      · cases held
      · exact faithful.carried grant held

theorem Faithful.applyNext (ordered : Ordered history) : Faithful history (c.applyNext history) := by
  unfold Viewer.applyNext
  split
  · rename_i turn
    obtain ⟨following, behind⟩ := turn
    split
    · exact faithful
    rename_i event got
    have base : ∀ control : TerminalControl,
        ({ c with control := control, appliedSeq := c.appliedSeq + 1 } : Viewer).base =
          c.appliedSeq + 1 := by
      simp [Viewer.base, following]
    have start : c.base = c.appliedSeq := by simp [Viewer.base, following]
    cases isControl : ControlFact.ofEvent event with
    | none =>
      refine { faithful with applied := ?_, canonical := ?_, bounds := ?_, reached := ?_ }
      · intro fact known
        rw [faithful.applied fact known]
        exact (authorityAt_other got isControl).symm
      · intro index other fact after
        rw [base] at after
        exact faithful.canonical index other fact (by omega)
      · exact .inl (Nat.le_of_eq (base _).symm)
      · rw [base]
        exact behind
    | some fact =>
      have known := faithful.canonical c.appliedSeq event fact (Nat.le_of_eq start) behind got isControl
      have newer : c.control.applied.all (fun applied => decide (fact.epoch ≥ applied.epoch)) = true := by
        cases before : c.control.applied with
        | none => rfl
        | some applied =>
          have rises := ordered.rises c.appliedSeq
          rw [authorityAt_control got isControl, ← faithful.applied applied before] at rises
          exact decide_eq_true rises
      simp only [TerminalControl.apply, known, newer]
      refine { faithful with applied := ?_, canonical := ?_, bounds := ?_, reached := ?_, lost := ?_ }
      · intro applied same
        cases same
        exact (authorityAt_control got isControl).symm
      · intro index other later after
        rw [base] at after
        exact faithful.canonical index other later (by omega)
      · exact .inl (Nat.le_of_eq (base _).symm)
      · rw [base]
        exact behind
      · intro lost
        rw [following] at lost
        cases lost
  · exact faithful

end

theorem newest_cases (observed : Option ControlFact) (canonical : ControlFact) :
    newest observed canonical = canonical ∨ observed = some (newest observed canonical) := by
  cases observed with
  | none => exact .inl rfl
  | some =>
    simp only [newest]
    split
    · exact .inl rfl
    · exact .inr rfl

/-- What a restore leaves: the baseline's authority is applied, the newer of it and what was observed is observed, and
a carried grant is kept unless one of the two rules it out. -/
theorem restore_spec (control : TerminalControl) (authority : Authority) (atSeq : Nat) (run : RunRef)
    (geometry : Geometry) (ref : SubscriptionRef) (viewGeneration : Nat) {canonical : ControlFact} {next : TerminalControl}
    (made : ⟨run, atSeq, authority.epoch, authority.holder, geometry⟩ = canonical)
    (restored : control.restore authority atSeq run geometry ref viewGeneration = next) :
    next.applied = some canonical ∧ next.canonicalFacts = control.canonicalFacts ∧ next.carried = none ∧
      ∃ observed, next.observed = some observed ∧ (observed = canonical ∨ control.observed = some observed) ∧
        (next.grant = control.grant ∧
            (∀ carried, control.carried = some carried → control.wantsFocus = true → control.exited = false →
              sameSubscriptionRef carried.ref ref = true →
              contradicts carried.epoch carried.atSeq ref canonical = true ∨
                contradicts carried.epoch carried.atSeq ref observed = true) ∨
          ∃ carried, control.carried = some carried ∧
            next.grant = some { carried with viewGeneration := viewGeneration }) := by
  subst restored
  have newest := newest_cases control.observed canonical
  generalize which : TerminalControl.newest control.observed canonical = observed at newest
  simp only [TerminalControl.restore, made, which]
  cases carries : control.carried with
  | none =>
    refine ⟨rfl, rfl, rfl, observed, rfl, newest, .inl ⟨rfl, ?_⟩⟩
    intro carried held
    cases held
  | some carried =>
    simp only
    split
    · rename_i unwanted
      refine ⟨rfl, rfl, rfl, observed, rfl, newest, .inl ⟨rfl, ?_⟩⟩
      intro other held focused exited same
      cases held
      simp [focused, exited, same] at unwanted
    split
    · rename_i against
      refine ⟨rfl, rfl, rfl, observed, rfl, newest, .inl ⟨rfl, ?_⟩⟩
      intro other held _ _ _
      cases held
      simpa using against
    · exact ⟨rfl, rfl, rfl, observed, rfl, newest, .inr ⟨carried, rfl, rfl⟩⟩

section

variable (faithful : Faithful history c)
include faithful

theorem Faithful.restore (geometry : Geometry) : Faithful history (c.restore history geometry) := by
  unfold Viewer.restore
  split
  · rename_i atSeq phase
    obtain ⟨applied, objects, carried, observed, seen, newest, grants⟩ := restore_spec c.control
      (authorityAt history atSeq) atSeq c.ref.run geometry c.ref c.viewGeneration rfl rfl
    have reached := faithful.reached
    have start : c.base = atSeq := by simp [Viewer.base, phase]
    rw [start] at reached
    constructor
    · intro fact known
      rw [applied] at known
      cases known
      rfl
    · intro fact known
      rw [seen] at known
      cases known
      rcases newest with rfl | before
      · exact ⟨reached, rfl⟩
      · exact faithful.observed observed before
    · intro index event fact after before got isControl
      rw [objects]
      exact faithful.canonical index event fact (by rw [start]; exact after) before got isControl
    · exact .inl le_rfl
    · exact reached
    · intro lost
      cases lost
    · intro grant held
      rcases grants with ⟨same, _⟩ | ⟨carried, carries, same⟩
      · rw [same] at held
        exact faithful.grant grant held
      · rw [same] at held
        cases held
        obtain ⟨own, granted, _⟩ := faithful.carried carried carries
        exact ⟨own, granted⟩
    · intro grant held
      rw [carried] at held
      cases held
  · exact faithful

theorem Faithful.recover (resizeContext : Bool) : Faithful history { c with
        control := if resizeContext then c.control.suspendForRecovery else c.control.resetForRecovery
        phase := .lost } := by
  cases resizeContext with
  | false => exact Faithful.reset history c _ c.ref c.viewGeneration ⟨rfl, rfl, rfl, rfl⟩
  | true =>
    simp only [if_true, TerminalControl.suspendForRecovery]
    split
    · exact Faithful.reset history c _ c.ref c.viewGeneration ⟨rfl, rfl, rfl, rfl⟩
    rename_i wanted
    simp only [Bool.or_eq_true, Bool.not_eq_true', not_or, Bool.not_eq_false, Bool.not_eq_true] at wanted
    apply Faithful.lose c _ c.ref c.viewGeneration rfl rfl
    · intro grant held
      cases held
    · intro grant held
      obtain ⟨own, granted⟩ := faithful.grant grant held
      exact ⟨own, granted, wanted.1, wanted.2⟩

theorem Faithful.reopen {next : Viewer} (lost : c.phase = .lost) (control : next.control = c.control)
    (ref : next.ref = c.ref) (arrived : next.arrived = next.base) (bounds : next.appliedSeq ≤ next.base)
    (phase : next.phase ≠ .lost) : Faithful history next := by
  obtain ⟨observed, applied⟩ := faithful.lost lost
  constructor
  · simp [control, applied]
  · simp [control, observed]
  · intro index event fact after before
    exact absurd before (Nat.not_lt.mpr (arrived ▸ after))
  · exact .inl bounds
  · exact arrived.ge
  · exact fun lost => absurd lost phase
  · rw [control, ref]
    exact faithful.grant
  · rw [control, ref]
    exact faithful.carried

theorem Faithful.openBaseline (atSeq viewGeneration : Nat) :
    Faithful history (c.openBaseline history atSeq viewGeneration) := by
  unfold Viewer.openBaseline
  split
  · rename_i valid
    exact faithful.reopen valid.1 rfl rfl rfl valid.2.2.1 nofun
  · exact faithful

theorem Faithful.openReplay : Faithful history c.openReplay := by
  unfold Viewer.openReplay
  split
  · rename_i phase
    exact faithful.reopen phase rfl rfl rfl le_rfl nofun
  · exact faithful

theorem Faithful.step (ordered : Ordered history) (event : Event) : Faithful history (Viewer.step history c event) := by
  cases event with
  | setTarget foreground target => exact faithful.setTarget foreground target
  | beginFocus => exact faithful.beginFocus
  | focusResult intent viewGeneration =>
    simp only [Viewer.step]
    split
    · rename_i granted
      exact faithful.acceptFocus granted intent viewGeneration
    · exact faithful
  | failFocus intent
  | takeReconnectFocus => exact { faithful with }
  | arrive => exact faithful.arrive ordered
  | applyNext => exact faithful.applyNext ordered
  | openReplay => exact faithful.openReplay
  | openBaseline atSeq viewGeneration => exact faithful.openBaseline atSeq viewGeneration
  | restore geometry => exact faithful.restore geometry
  | recover resizeContext => exact faithful.recover resizeContext
  | finishRecovery =>
    simp only [Viewer.step, TerminalControl.finishRecovery]
    split
    · exact faithful
    exact { faithful with carried := nofun }
  | connectionLost => exact Faithful.reset history c _ c.ref c.viewGeneration ⟨rfl, rfl, rfl, rfl⟩
  | replaceView viewGeneration => exact Faithful.reset history c _ c.ref viewGeneration ⟨rfl, rfl, rfl, rfl⟩
  | exit =>
    exact { faithful with
      applied := nofun, observed := nofun, lost := fun _ => ⟨rfl, rfl⟩, grant := nofun, carried := nofun }
  | retire ref => exact Faithful.reset history c _ ref c.viewGeneration ⟨rfl, rfl, rfl, rfl⟩

end

theorem faithful_run (ordered : Ordered history) (ref : SubscriptionRef) (events : List Event) :
    Faithful history (run (Viewer.step history) (Viewer.new ref) events) :=
  run_invariant (Faithful history) (Faithful.new history ref) (fun _ event faithful => faithful.step ordered event) events

/-! ### What the view is worth -/

/-- The run itself ended a grant: at or after the grant's own fact, and no later than what has arrived, control was not
this subscription's in the grant's epoch. -/
def Ended (history : List RunEvent) (client : Viewer) (epoch atSeq : Nat) : Prop :=
  ∃ seq, atSeq ≤ seq ∧ seq ≤ client.arrived ∧ authorityAt history seq ≠ ⟨epoch, some (holderOf client.ref)⟩

theorem Faithful.ready (faithful : Faithful history c) {viewGeneration : Nat}
    (ready : c.control.ready c.ref viewGeneration c.appliedSeq = true) :
    ∃ grant, c.control.grant = some grant ∧ grant.ref = c.ref ∧
      Granted history c.ref grant.epoch grant.atSeq ∧ grant.atSeq ≤ c.appliedSeq ∧
      authorityAt history c.appliedSeq = ⟨grant.epoch, some (holderOf c.ref)⟩ := by
  unfold TerminalControl.ready at ready
  cases held : c.control.grant with
  | none => simp [held] at ready
  | some grant =>
    cases known : c.control.applied with
    | none => simp [known] at ready
    | some applied =>
      simp only [held, known, Bool.and_eq_true, decide_eq_true_eq, beq_iff_eq] at ready
      obtain ⟨_, ⟨⟨⟨⟨_, _⟩, reached⟩, epoch⟩, ours⟩, _⟩ := ready
      obtain ⟨own, granted⟩ := faithful.grant grant held
      refine ⟨grant, rfl, own, granted, reached, ?_⟩
      rw [← faithful.applied applied known, ← epoch, ← (heldBy_iff c.ref applied).mp ours]
      rfl

theorem Faithful.arrive_keeps (faithful : Faithful history c) (ordered : Ordered history) (grant : Grant) :
    (c.control.grant = some grant → (c.arrive history).control.grant = some grant ∨
      Ended history (c.arrive history) grant.epoch grant.atSeq) ∧
    (c.control.carried = some grant → (c.arrive history).control.carried = some grant ∨
      Ended history (c.arrive history) grant.epoch grant.atSeq) := by
  unfold Viewer.arrive
  split
  · exact ⟨.inl, .inl⟩
  · exact ⟨.inl, .inl⟩
  rename_i event got _
  cases isControl : ControlFact.ofEvent event with
  | none => exact ⟨.inl, .inl⟩
  | some fact =>
    have fresh := faithful.fresh ordered got isControl
    have named := ofEvent_seq isControl
    have numbered := ordered.numbered c.arrived event got
    have known : fact.authority = authorityAt history fact.seq := by
      rw [named, numbered, authorityAt_control got isControl]
    simp only [TerminalControl.observe, fresh]
    constructor
    · intro held
      by_cases against : contradicts grant.epoch grant.atSeq c.ref fact = true
      · obtain ⟨later, ends⟩ := contradicts_ends (faithful.grant grant held).2 known against
        exact .inr ⟨fact.seq, later, by simp only; omega, ends⟩
      · simp [held, against]
    · intro held
      by_cases against : contradicts grant.epoch grant.atSeq c.ref fact = true
      · obtain ⟨later, ends⟩ := contradicts_ends (faithful.carried grant held).2.1 known against
        exact .inr ⟨fact.seq, later, by simp only; omega, ends⟩
      · simp [held, against]

theorem sameSubscriptionRef_self : sameSubscriptionRef ref ref = true := by
  simp [sameSubscriptionRef, sameRunRef, sameConnectionRef]

theorem Faithful.restore_keeps (faithful : Faithful history c) (geometry : Geometry) {grant : Grant}
    (held : c.control.carried = some grant) {atSeq : Nat} (phase : c.phase = .baseline atSeq) :
    (c.restore history geometry).control.grant = some { grant with viewGeneration := c.viewGeneration } ∨
      Ended history (c.restore history geometry) grant.epoch grant.atSeq := by
  obtain ⟨own, granted, focused, exited⟩ := faithful.carried grant held
  obtain ⟨_, _, _, observed, _, newest, grants⟩ := restore_spec c.control (authorityAt history atSeq) atSeq
    c.ref.run geometry c.ref c.viewGeneration rfl rfl
  have reached := faithful.reached
  have start : c.base = atSeq := by simp [Viewer.base, phase]
  rw [start] at reached
  simp only [Viewer.restore, phase]
  rcases grants with ⟨_, refused⟩ | ⟨carried, carries, same⟩
  · right
    have against := refused grant held focused exited (by rw [own]; exact sameSubscriptionRef_self c.ref)
    have true_ : observed.seq ≤ c.arrived ∧ observed.authority = authorityAt history observed.seq := by
      rcases newest with rfl | before
      · exact ⟨reached, rfl⟩
      · exact faithful.observed observed before
    rcases against with baseline | seen
    · obtain ⟨later, ends⟩ := contradicts_ends granted (by rfl) baseline
      exact ⟨atSeq, later, reached, ends⟩
    · obtain ⟨later, ends⟩ := contradicts_ends granted true_.2 seen
      exact ⟨observed.seq, later, true_.1, ends⟩
  · rw [held] at carries
    cases carries
    exact .inl same

/-- A result that is still waited for is refused only if the run ended its grant. -/
theorem Faithful.accepts (faithful : Faithful history c) {intent viewGeneration epoch atSeq : Nat}
    (granted : Granted history c.ref epoch atSeq)
    (awaited : c.control.pending = some intent ∨ c.control.carriedIntent = some intent)
    (focused : c.control.wantsFocus = true) (live : c.control.exited = false) :
    (c.control.acceptFocus intent c.ref viewGeneration epoch atSeq).2 = true ∨ Ended history c epoch atSeq := by
  by_cases against : c.control.observed.any (contradicts epoch atSeq c.ref) = true
  · right
    cases seen : c.control.observed with
    | none => simp [seen] at against
    | some fact =>
      obtain ⟨before, known⟩ := faithful.observed fact seen
      rw [seen] at against
      obtain ⟨later, ends⟩ := contradicts_ends granted known against
      exact ⟨fact.seq, later, before, ends⟩
  · simp only [TerminalControl.acceptFocus, focused, live, against]
    by_cases carries : c.control.carriedIntent = some intent
    · cases c.control.recovering <;> simp [carries]
    · simp [awaited.resolve_right carries, carries]

theorem Faithful.appliedSeq_le (faithful : Faithful history c) (event : Event) :
    c.appliedSeq ≤ (Viewer.step history c event).appliedSeq := by
  cases event with
  | focusResult =>
    simp only [Viewer.step]
    split <;> exact le_rfl
  | arrive =>
    simp only [Viewer.step, Viewer.arrive]
    split <;> exact le_rfl
  | applyNext =>
    simp only [Viewer.step, Viewer.applyNext]
    split
    · split
      · exact le_rfl
      · exact Nat.le_succ _
    · exact le_rfl
  | openReplay =>
    simp only [Viewer.step, Viewer.openReplay]
    split <;> exact le_rfl
  | openBaseline =>
    simp only [Viewer.step, Viewer.openBaseline]
    split <;> exact le_rfl
  | restore =>
    simp only [Viewer.step, Viewer.restore]
    split
    · rename_i atSeq phase
      have bounds := faithful.bounds
      simpa [Viewer.base, phase] using bounds
    · exact le_rfl
  | _ => exact le_rfl

theorem appliedSeq_run_le (ordered : Ordered history) (ref : SubscriptionRef) (events more : List Event) :
    (run (Viewer.step history) (Viewer.new ref) events).appliedSeq ≤
      (run (Viewer.step history) (Viewer.new ref) (events ++ more)).appliedSeq := by
  rw [run_append]
  have start := faithful_run ordered ref events
  have kept : Faithful history (run (Viewer.step history) (run (Viewer.step history) (Viewer.new ref) events) more) ∧
      (run (Viewer.step history) (Viewer.new ref) events).appliedSeq ≤
        (run (Viewer.step history) (run (Viewer.step history) (Viewer.new ref) events) more).appliedSeq := by
    apply run_invariant (fun c : Viewer => Faithful history c ∧
      (run (Viewer.step history) (Viewer.new ref) events).appliedSeq ≤ c.appliedSeq) ⟨start, le_rfl⟩
    intro c event inv
    exact ⟨inv.1.step ordered event, Nat.le_trans inv.2 (inv.1.appliedSeq_le event)⟩
  exact kept.2

def soleRun : RunRef := ⟨"server", "relay", "run"⟩

def soleRef : SubscriptionRef := ⟨soleRun, ⟨"connection", 1⟩, "subscription", "view"⟩

def soleHistory : List RunEvent := [.control soleRun 1 1 (some (holderOf soleRef)) ⟨80, 24⟩]

theorem soleHistory_ordered : Ordered soleHistory where
  numbered := by
    intro index event got
    cases index with
    | zero =>
      cases got
      rfl
    | succ => cases got
  rises := by
    intro seq
    cases seq with
    | zero => decide
    | succ => simp [authorityAt, soleHistory]

/-- The result comes before its fact: control is ready once the fact is applied. -/
def soleEvents : List Event :=
  [.setTarget true true, .openBaseline 0 1, .restore ⟨80, 24⟩, .beginFocus, .focusResult 1 1 1 1, .arrive, .applyNext]

end Cove.Client.Control
