import Cove.Runtime.ControlArbiter
import Cove.Worker.RunControl

/-!
The control arbiter across from the worker that records who holds control of the run. A command is under way from the
moment it is sent until its answer is read, and one whose answer is lost may still be executed afterwards. The facts
that tell of control reach the arbiter late, repeatedly or not at all.
-/

namespace Cove.Runtime.ControlOwner
open Base.Run Protocol.Budgets Protocol.Identity Protocol.Pipe
open Protocol.Terminal Runtime.ControlArbiter

inductive Order where
  | setControl (expectedEpoch nextEpoch : Nat) (holder : Option ControlHolder) (geometry : Geometry)
  | resize (subscription : SubscriptionRef) (epoch : Nat) (geometry : Geometry)
  | appearance (subscription : SubscriptionRef) (epoch : Nat)
  | input (subscription : SubscriptionRef) (epoch inputSeq : Nat)

def Order.isInput : Order → Bool
  | .input .. => true
  | _ => false

def pipe (boundary : Boundary) (subscription : SubscriptionRef) : ControlCommand → Order
  | .focus _ geometry _ => .setControl boundary.epoch (boundary.epoch + 1) (some (holderOf subscription)) geometry
  | .blur _ => .setControl boundary.epoch boundary.epoch none boundary.geometry
  | .resize epoch geometry => .resize subscription epoch geometry
  | .appearance epoch _ => .appearance subscription epoch
  | .input epoch inputSeq => .input subscription epoch inputSeq

def headControl (a : Arbiter) : Option (ControlCommand × SubscriptionRef) :=
  match a.queue.head?.map Job.work with
  | some (.control command subscription) => some (command, subscription)
  | _ => none

def order? (a : Arbiter) : Option Order :=
  match a.running, headControl a with
  | some (.command boundary), some (command, subscription) => some (pipe boundary subscription command)
  | some (.releasing _ boundary), _ => some (.setControl boundary.epoch boundary.epoch none boundary.geometry)
  | _, _ => none

def asksStatus : Option Await → Bool
  | some .status | some .boundary => true
  | _ => false

structure Worker where
  epoch : Nat
  holder : Option ControlHolder
  geometry : Geometry
  seq : Nat
  history : List RunFact

variable (w : Worker)

variable (geometry : Geometry)

namespace Worker

def new : Worker where
  epoch := 0
  holder := none
  geometry := geometry
  seq := 0
  history := []

def append (fact : Nat → RunFact) : Worker :=
  { w with seq := w.seq + 1, history := w.history ++ [fact (w.seq + 1)] }

def resized : Worker :=
  if geometry = w.geometry then w else { w.append (fun seq => .resize seq geometry) with geometry := geometry }

def recolored (recolors : Bool) : Worker := if recolors then w.append .other else w

/-- A grant takes the next epoch, and a release stays in an epoch that has been granted. -/
def mayControl (expectedEpoch nextEpoch : Nat) (holder : Option ControlHolder) : Bool :=
  decide (expectedEpoch = w.epoch) && match holder with
    | some _ => decide (nextEpoch = w.epoch + 1)
    | none => decide (w.epoch ≠ 0) && decide (nextEpoch = w.epoch)

def hasAuthority (subscription : SubscriptionRef) (epoch : Nat) : Bool :=
  holds w.holder subscription && decide (epoch = w.epoch)

/-- The run after a command, unless the command is refused; `recolors` tells whether its colours are new. The worker also
refuses a command of a subscription it has not installed; a command executed here has passed that check. -/
def execute (order : Order) (recolors : Bool) : Option Worker :=
  match order with
  | .setControl expectedEpoch nextEpoch holder geometry =>
    if w.mayControl expectedEpoch nextEpoch holder then
      let ready := (w.resized geometry).recolored recolors
      let told :=
        if holder.isSome || w.holder.isSome then ready.append (fun seq => .control seq nextEpoch holder geometry)
        else ready
      some { told with epoch := nextEpoch, holder := holder }
    else none
  | .resize subscription epoch geometry =>
    if w.hasAuthority subscription epoch then some (w.resized geometry) else none
  | .appearance subscription epoch => if w.hasAuthority subscription epoch then some (w.recolored recolors) else none
  | .input subscription epoch _ => if w.hasAuthority subscription epoch then some w else none

/-- A status the worker gives; nothing else in it is the arbiter's concern. -/
def status (given : RunStatus) : RunStatus :=
  { given with
    status := .live, geometry := w.geometry, controlEpoch := w.epoch, controlHolder := w.holder
    parsedSeq := some w.seq }

end Worker

/-- What the worker has done about the call the arbiter is in. -/
inductive Handled where
  | read (status : RunStatus)
  | executed (atSeq : Nat)

structure System where
  arbiter : Arbiter
  worker : Worker
  handled : Option Handled
  strays : List Order
  gone : List SubscriptionRef

def System.new : System where
  arbiter := .new
  worker := .new geometry
  handled := none
  strays := []
  gone := []

def refuses : CommandAnswer → Bool
  | .error error => error.acceptance == .notAccepted
  | .result .rejected _ _ _ => true
  | _ => false

def leavesOpen : CommandAnswer → Bool
  | .threw => true
  | .error error => error.acceptance == .unknown
  | .result .unknown _ _ _ => true
  | _ => false

def isBusy : CommandAnswer → Bool
  | .error error => error.acceptance == .notAccepted && error.kind == .busy
  | _ => false

def failsStatus : StatusAnswer → Bool
  | .result true (some _) => false
  | _ => true

def isLocal : ControlArbiter.Event → Bool
  | .status _ | .commanded _ | .released _ | .fact _ | .dispose => false
  | _ => true

inductive Event where
  | server (event : ControlArbiter.Event)
  | output
  | exit
  | fact (index : Nat)
  | reads (given : RunStatus)
  | status
  | statusFails (answer : StatusAnswer)
  | executes (recolors : Bool)
  | answers (inputSeq writtenBytes : Option Nat)
  | refusal (answer : CommandAnswer)
  | loses (answer : CommandAnswer)
  | strays (index : Nat) (recolors : Bool)

variable (s : System)

namespace System

def restrict (oracle : Oracle) : Oracle :=
  { oracle with current := fun ref => oracle.current ref && !s.gone.contains ref }

def deliver (answer : CommandAnswer) (oracle : Oracle) : System :=
  { s with
    arbiter :=
      match s.arbiter.running with
      | some (.releasing ..) => s.arbiter.released answer oracle
      | _ => s.arbiter.commanded answer oracle
    handled := none }

def leaving : ControlArbiter.Event → System
  | .retire ref => { s with gone := ref :: s.gone }
  | _ => s

def step (budgets : EffectiveBudgets) (s : System) : Event × Oracle → System
  | (.server event, oracle) =>
    if isLocal event then
      let s := s.leaving event
      { s with arbiter := ControlArbiter.step budgets s.arbiter (event, s.restrict oracle) }
    else s
  | (.output, _) => { s with worker := s.worker.append .other }
  | (.exit, _) => { s with worker := s.worker.append .exit }
  | (.fact index, _) =>
    match s.worker.history[index]? with
    | some fact => { s with arbiter := s.arbiter.onEvent fact }
    | none => s
  | (.reads given, _) =>
    if asksStatus s.arbiter.running && s.handled.isNone then
      { s with handled := some (.read (s.worker.status given)) }
    else s
  | (.status, oracle) =>
    match s.handled with
    | some (.read status) =>
      { s with arbiter := s.arbiter.status (.result true (some status)) (s.restrict oracle), handled := none }
    | _ => s
  | (.statusFails answer, oracle) =>
    if asksStatus s.arbiter.running && failsStatus answer then
      { s with arbiter := s.arbiter.status answer (s.restrict oracle), handled := none }
    else s
  | (.executes recolors, _) =>
    match s.handled, (order? s.arbiter).bind (s.worker.execute · recolors) with
    | none, some worker => { s with worker := worker, handled := some (.executed worker.seq) }
    | _, _ => s
  | (.answers inputSeq writtenBytes, oracle) =>
    match s.handled with
    | some (.executed atSeq) =>
      s.deliver (.result .accepted (some atSeq) inputSeq writtenBytes) (s.restrict oracle)
    | _ => s
  | (.refusal answer, oracle) =>
    if (order? s.arbiter).isSome && refuses answer && s.handled.isNone then s.deliver answer (s.restrict oracle) else s
  | (.loses answer, oracle) =>
    match order? s.arbiter with
    | some order =>
      if leavesOpen answer then
        { s.deliver answer (s.restrict oracle) with
          strays := if s.handled.isNone then s.strays ++ [order] else s.strays }
      else s
    | none => s
  | (.strays index recolors, _) =>
    match s.strays[index]? with
    | some order =>
      { s with
        worker := (s.worker.execute order recolors).getD s.worker
        strays := s.strays.eraseIdx index }
    | none => s

end System

/-- Every command but input gets a definite answer, and a release of control that is held is turned away as busy or
not at all. -/
def definite : Event × Oracle → Bool
  | (.loses _, _) => (order? s.arbiter).all Order.isInput
  | (.refusal answer, _) =>
    match s.arbiter.running with
    | some (.releasing ..) => s.worker.holder.isNone || isBusy answer
    | _ => true
  | _ => true

/-- A step every command under way is answered in, as far as it matters. -/
def Definite (event : Event × Oracle) : Prop := definite s event = true

instance (s : System) (event : Event × Oracle) : Decidable (Definite s event) :=
  inferInstanceAs (Decidable (_ = true))

def Quiet (a : Arbiter) : Prop :=
  a.queue = [] ∧ a.running = none ∧ ∀ c ∈ a.counters, c.cleanup ≠ .pending

instance (a : Arbiter) : Decidable (Quiet a) :=
  inferInstanceAs (Decidable (a.queue = [] ∧ a.running = none ∧ ∀ c ∈ a.counters, c.cleanup ≠ .pending))

/-! ## The worker's run session -/

section RunSession
open Worker.RunControl
open Worker.RunSession (Options RunSessionOperation Session)

/-- The command of the arbiter that an operation of the session carries out. Input changes nothing but the terminal. -/
def orderOf : RunSessionOperation → Option Order
  | .control expectedEpoch nextEpoch holder geometry _ => some (.setControl expectedEpoch nextEpoch holder geometry)
  | .resize subscription epoch geometry => some (.resize subscription epoch geometry)
  | .appearance subscription epoch _ => some (.appearance subscription epoch)
  | _ => none

/-- The worker of this system has the control state of the run session. -/
def Mirrors (c : Control) : Prop := w.epoch = c.epoch ∧ w.holder = c.holder

/-- The commands a session carries out, in the order their last barriers settle. -/
def carriedOut (options : Options) : Session → List Worker.RunSession.Event → List Order
  | _, [] => []
  | session, event :: rest =>
    ((completed session event).bind orderOf).toList ++ carriedOut options (Worker.RunSession.step options session event) rest

variable {options : Options} {c c' : Control} {w : Worker}

theorem carriedOut_snoc (session : Session) (past : List Worker.RunSession.Event) (event : Worker.RunSession.Event) :
    carriedOut options session (past ++ [event]) = carriedOut options session past ++
      ((completed (run (Worker.RunSession.step options) session past) event).bind orderOf).toList := by
  induction past generalizing session with
  | nil => simp [carriedOut]
  | cons first rest ih => rw [List.cons_append, carriedOut, ih, carriedOut, run_cons, List.append_assoc]

theorem hasAuthority_iff {subscription : SubscriptionRef} {epoch : Nat} : w.hasAuthority subscription epoch = true ↔
    epoch = w.epoch ∧ w.holder = some (holderOf subscription) := by
  simp [Worker.hasAuthority, holds, and_comm]

/-- An operation that settles is a command the worker accepts, and it leaves both with the same control. -/
theorem settles_executed {operation : RunSessionOperation} (accepted : Accepted c operation) (mirrors : Mirrors w c)
    {order : Order} (carries : orderOf operation = some order) (recolors : Bool) :
    ∃ w', w.execute order recolors = some w' ∧ Mirrors w' (c.after operation) := by
  obtain ⟨epoch, holder⟩ := mirrors
  cases operation with
  | control expectedEpoch nextEpoch next geometry =>
    cases carries
    refine ⟨_, if_pos ?_, rfl, rfl⟩
    obtain ⟨expected, moves⟩ := accepted
    cases next <;> simp_all [Worker.mayControl]
  | resize | appearance =>
    cases carries
    obtain ⟨current, held⟩ := accepted
    have authority := hasAuthority_iff.mpr ⟨current.trans epoch.symm, holder.trans held⟩
    refine ⟨_, if_pos authority, ?_⟩
    simp only [Worker.resized, Worker.recolored]
    split <;> exact ⟨epoch, holder⟩
  | _ => cases carries

theorem move_executed {done : Option RunSessionOperation} (move : Move options c done c') (mirrors : Mirrors w c) (recolors : Bool) :
    ∃ w', ((done.bind orderOf).toList).foldlM (·.execute · recolors) w = some w' ∧ Mirrors w' c' := by
  cases move with
  | settles operation accepted =>
    cases carries : orderOf operation with
    | none => cases operation <;> first | exact ⟨w, rfl, mirrors⟩ | cases carries
    | some order =>
      obtain ⟨next, executes, follows⟩ := settles_executed accepted mirrors carries recolors
      exact ⟨next, by simp [carries, executes], follows⟩
  | same | attempt | input | programmatic => exact ⟨w, rfl, mirrors⟩

/-- The session and the worker decide alike about a command that the installed check does not refuse. -/
def Alike (options : Options) (session : Session) (oracle : Session.Oracle) (w : Worker) : Prop :=
  (∀ expectedEpoch nextEpoch holder geometry recolors,
    session.refuseControl options expectedEpoch nextEpoch holder oracle = none ↔
      (w.execute (.setControl expectedEpoch nextEpoch holder geometry) recolors).isSome) ∧
  ∀ subscription epoch, subscription.run = options.run →
    (session.refuseSubscription options subscription epoch oracle = none ↔ w.hasAuthority subscription epoch = true)

theorem decides_alike {session : Session} (mirrors : Mirrors w (control session)) {oracle : Session.Oracle}
    (installed : ∀ ref, oracle.isSubscriptionInstalled ref = true) (room : session.controlEpoch < maxSafeInteger) :
    Alike options session oracle w := by
  obtain ⟨epoch, holder⟩ := mirrors
  change w.epoch = session.controlEpoch at epoch
  change w.holder = session.controlHolder at holder
  constructor
  · intro expectedEpoch nextEpoch next geometry recolors
    have same : (w.execute (.setControl expectedEpoch nextEpoch next geometry) recolors).isSome =
        w.mayControl expectedEpoch nextEpoch next := by
      simp only [Worker.execute]
      split <;> simp_all
    rw [same]
    unfold Session.refuseControl Worker.mayControl nextCounter
    cases next <;> grind
  · intro subscription number own
    have installed := installed subscription
    rw [hasAuthority_iff, Session.refuseSubscription, if_neg (by simpa using installed), ite_eq_right_iff]
    simp only [reduceCtorEq, imp_false, not_not]
    rw [matchesAuthority_iff, HoldsControl, epoch, holder]
    exact and_congr_right fun _ => and_iff_right own

end RunSession

end Cove.Runtime.ControlOwner
