import Cove.Base.Run
import Mathlib.Tactic

/-!
What an admitted HTTP request owns: its admission slot, its byte reservations and its buffers. The body, the response,
the socket and the handler report in any order, and each report may be the one that gives something back.
-/

namespace Cove.Transport.HttpOwner
open Base.Run

inductive Resource where
  | slot
  | buffers
  /-- The reservation for the answers. -/
  | physical
  /-- The reservation of the claim. -/
  | lease
  deriving DecidableEq

structure Owner where
  /-- What the reader has written. -/
  input : List UInt8
  handlerStarted : Bool
  domainPending : Bool
  readerPending : Bool
  readerFailed : Bool
  logicalClosed : Bool
  logicalRetired : Bool
  carrierSettled : Bool
  retired : Bool
  admitted : Bool
  owned : Bool
  given : List Resource

variable (owner : Owner)

def retireAdmission : Owner :=
  if owner.admitted then { owner with admitted := false, given := .slot :: owner.given } else owner

def release : Owner :=
  if owner.owned then
    let left := retireAdmission { owner with owned := false }
    { left with given := .lease :: left.given }
  else owner

def retireLogical : Owner :=
  if !owner.logicalRetired && !owner.domainPending && !owner.readerPending &&
      (owner.handlerStarted || owner.logicalClosed || owner.readerFailed) then
    retireAdmission { owner with logicalRetired := true }
  else owner

def retirePhysical : Owner :=
  if owner.retired || !owner.carrierSettled || owner.domainPending || owner.readerPending then owner
  else release { owner with retired := true, given := .physical :: .buffers :: owner.given }

def retire : Owner := retirePhysical (retireLogical owner)

def settle : Owner := retire { owner with logicalClosed := true, carrierSettled := true }

/-- The framework starts the handler once, and never after a body that failed. -/
def startHandler : Owner :=
  if owner.retired || owner.logicalClosed || owner.handlerStarted || owner.readerFailed then owner
  else { owner with handlerStarted := true, domainPending := true }

/-- The end of the reader; `starts` when its callback starts the handler at once. -/
def finish (failed starts : Bool) : Owner :=
  if owner.readerPending then
    let done := { owner with readerPending := false, readerFailed := failed }
    retire (if starts then startHandler done else done)
  else owner

/-- A request whose head was admitted, with its reader where it has a body. -/
def Owner.new (body : Bool) : Owner :=
  { input := [], handlerStarted := false, domainPending := false, readerPending := body, readerFailed := false
    logicalClosed := false, logicalRetired := false, carrierSettled := false, retired := false, admitted := true
    owned := true, given := [] }

/-! Reports, for a limit of the body and a length its head may name. -/

variable (requestLimit : Nat) (contentLength : Option Nat)

def onRequest (body : Bool) : Owner :=
  if contentLength.any (requestLimit < ·) then finish (.new body) true false else .new body

inductive Event where
  | data (chunk : List UInt8)
  | bodyEnd (starts : Bool)
  /-- An error of the body, or its close before the end. -/
  | bodyError
  | abort
  | socketClose
  | responseFinish
  | responseClose
  | handlerStart
  | handlerEnd

/-- A report of the carrier; nothing listens any more once the owner is retired. -/
def heard (report : Owner → Owner) : Owner := if owner.retired then owner else report owner

def step (owner : Owner) : Event → Owner
  | .data chunk =>
    if !owner.readerPending then owner
    else if requestLimit - owner.input.length < chunk.length then finish owner true false
    else { owner with input := owner.input ++ chunk }
  | .bodyEnd starts => finish owner (contentLength.any (owner.input.length ≠ ·)) starts
  | .bodyError => finish owner true false
  | .abort =>
    heard owner fun owner => retire (if owner.handlerStarted then owner else { owner with logicalClosed := true })
  | .socketClose | .responseFinish => heard owner settle
  | .responseClose => heard owner fun owner => retire { owner with logicalClosed := true }
  | .handlerStart => startHandler owner
  | .handlerEnd => if owner.domainPending then retire { owner with domainPending := false } else owner

/-! Invariants. -/

def Idle : Prop := owner.domainPending = false ∧ owner.readerPending = false

/-- The slot, and with the carrier settled the rest, are given back once, and nothing starts after that. -/
@[grind cases] structure Sound : Prop where
  slot : owner.given.count .slot = owner.logicalRetired.toNat
  others : ∀ resource ≠ .slot, owner.given.count resource = owner.retired.toNat
  admitted : owner.admitted = !owner.logicalRetired
  owned : owner.owned = !owner.retired
  closed : owner.carrierSettled = true → owner.logicalClosed = true
  idle : owner.logicalRetired = true →
    Idle owner ∧ (owner.handlerStarted || owner.logicalClosed || owner.readerFailed) = true
  settled : owner.retired = true → owner.carrierSettled = true ∧ owner.logicalRetired = true

/-- What is due has been given back. -/
structure Inv : Prop extends Sound owner where
  due : owner.carrierSettled = true → Idle owner → owner.retired = true

variable {owner : Owner}

theorem retireLogical_sound (sound : Sound owner) : Sound (retireLogical owner) := by
  unfold retireLogical
  split
  next free =>
    have held : owner.admitted = true := by grind
    simp only [retireAdmission, held, if_true]
    constructor <;> grind [Idle]
  next => exact sound

theorem retireLogical_due (settled : owner.carrierSettled = true) (sound : Sound owner) (idle : Idle owner) :
    (retireLogical owner).logicalRetired = true := by
  unfold retireLogical retireAdmission
  grind [Idle]

theorem retirePhysical_inv (sound : Sound owner)
    (due : owner.carrierSettled = true → Idle owner → owner.logicalRetired = true) : Inv (retirePhysical owner) := by
  unfold retirePhysical
  split
  next stays => exact ⟨sound, by grind [Idle]⟩
  next free =>
    have given : owner.admitted = false ∧ owner.owned = true := by grind [Idle]
    simp only [release, retireAdmission, given, if_true]
    refine ⟨?_, fun _ _ => rfl⟩
    constructor
    case others => intro resource; cases resource <;> grind
    all_goals grind [Idle]

theorem retireLogical_flags (owner : Owner) :
    (retireLogical owner).carrierSettled = owner.carrierSettled ∧ (Idle (retireLogical owner) ↔ Idle owner) := by
  unfold retireLogical retireAdmission Idle
  grind

theorem retire_inv (sound : Sound owner) : Inv (retire owner) := by
  obtain ⟨settled, idle⟩ := retireLogical_flags owner
  apply retirePhysical_inv (retireLogical_sound sound)
  rw [settled, idle]
  exact fun settled idle => retireLogical_due settled sound idle

theorem startHandler_sound (sound : Sound owner) : Sound (startHandler owner) := by
  unfold startHandler
  split
  next => exact sound
  next => constructor <;> grind

theorem finish_inv (inv : Inv owner) (failed starts : Bool) : Inv (finish owner failed starts) := by
  unfold finish
  split
  next pending =>
    have done : Sound { owner with readerPending := false, readerFailed := failed } := by
      obtain ⟨sound, _⟩ := inv
      constructor <;> grind [Idle]
    cases starts with
    | true => exact retire_inv (startHandler_sound done)
    | false => exact retire_inv done
  next => exact inv

theorem onRequest_inv (body : Bool) : Inv (onRequest requestLimit contentLength body) := by
  have fresh : Inv (.new body) := by
    refine ⟨?_, nofun⟩
    constructor <;> simp [Owner.new]
  unfold onRequest
  split
  · exact finish_inv fresh _ _
  · exact fresh

theorem step_inv (owner : Owner) (event : Event) (inv : Inv owner) :
    Inv (step requestLimit contentLength owner event) := by
  have heard_inv {report : Owner → Owner} (reported : Inv (report owner)) : Inv (heard owner report) := by
    unfold heard
    split
    · exact inv
    · exact reported
  obtain ⟨sound, due⟩ := id inv
  cases event with
  | data chunk =>
    simp only [step]
    split
    · exact inv
    split
    · exact finish_inv inv _ _
    · exact ⟨{ sound with }, due⟩
  | bodyEnd => exact finish_inv inv _ _
  | bodyError => exact finish_inv inv _ _
  | abort =>
    apply heard_inv
    apply retire_inv
    split
    · exact sound
    · constructor <;> grind [Idle]
  | socketClose | responseFinish | responseClose =>
    apply heard_inv
    apply retire_inv
    constructor <;> grind [Idle]
  | handlerStart => exact ⟨startHandler_sound sound, by unfold step startHandler; grind [Idle]⟩
  | handlerEnd =>
    simp only [step]
    split
    · apply retire_inv
      constructor <;> grind [Idle]
    · exact inv

theorem retire_keeps (owner : Owner) :
    (retire owner).carrierSettled = owner.carrierSettled ∧ (retire owner).input = owner.input ∧
      (retire owner).readerPending = owner.readerPending ∧ (retire owner).domainPending = owner.domainPending := by
  unfold retire retirePhysical release retireAdmission retireLogical retireAdmission
  grind

variable {requestLimit contentLength}

theorem step_fits (event : Event) (fits : owner.input.length ≤ requestLimit) :
    (step requestLimit contentLength owner event).input.length ≤ requestLimit := by
  have kept (owner : Owner) := (retire_keeps owner).2.1
  cases event <;> grind [step, heard, settle, finish, startHandler]

theorem step_settled (event : Event) (inv : Inv owner) (settles : owner.carrierSettled = true ∨ event = .socketClose) :
    (step requestLimit contentLength owner event).carrierSettled = true := by
  have kept (owner : Owner) := (retire_keeps owner).1
  have settled := inv.settled
  cases event <;> grind [step, heard, settle, finish, startHandler]

theorem run_settled {events : List Event} (inv : Inv owner) (settles : owner.carrierSettled = true ∨ .socketClose ∈ events) :
    (run (step requestLimit contentLength) owner events).carrierSettled = true := by
  induction events generalizing owner with
  | nil => simpa using settles
  | cons event rest ih =>
    apply ih (step_inv _ _ owner event inv)
    rcases settles with already | inside
    · exact .inl (step_settled event inv (.inl already))
    rcases List.mem_cons.mp inside with rfl | later
    · exact .inl (step_settled _ inv (.inr rfl))
    · exact .inr later

/-! What the reports themselves say of the reader and the handler. -/

def received (events : List Event) : List UInt8 := events.flatMap fun event => match event with
  | .data chunk => chunk
  | _ => []

variable (requestLimit contentLength) in
def ReaderEnded (body : Bool) (events : List Event) : Prop :=
  body = false ∨ contentLength.any (requestLimit < ·) = true ∨ (∃ starts, .bodyEnd starts ∈ events) ∨
    .bodyError ∈ events ∨ requestLimit < (received events).length

def Starts (event : Event) : Prop := event = .handlerStart ∨ event = .bodyEnd true

/-- Every call of the handler has returned. -/
def HandlerEnded (events : List Event) : Prop :=
  ∀ before event after, events = before ++ event :: after → Starts event → .handlerEnd ∈ after

theorem finish_reader (owner : Owner) (failed starts : Bool) : (finish owner failed starts).readerPending = false := by
  have kept (owner : Owner) := (retire_keeps owner).2.2.1
  grind [finish, startHandler]

variable (requestLimit contentLength) in
theorem step_reader (owner : Owner) (event : Event) : let next := step requestLimit contentLength owner event
    (next.readerPending = true ↔ owner.readerPending = true ∧ (∀ starts, event ≠ .bodyEnd starts) ∧ event ≠ .bodyError ∧
      (received [event]).length ≤ requestLimit - owner.input.length) ∧
    (next.readerPending = true → next.input = owner.input ++ received [event]) := by
  have kept := retire_keeps
  cases event with
  | data chunk => grind [step, finish_reader, received]
  | bodyEnd | bodyError => simp [step, finish_reader]
  | _ => simp [received]; grind [step, heard, settle, startHandler]

/-- The reader is pending as long as no report has ended it, and has then written all it was given. -/
theorem reader_run (body : Bool) (events : List Event) :
    let owner := run (step requestLimit contentLength) (onRequest requestLimit contentLength body) events
    (owner.readerPending = true ↔ ¬ReaderEnded requestLimit contentLength body events) ∧
      (owner.readerPending = true → owner.input = received events) := by
  refine run_history (fun past (owner : Owner) => (owner.readerPending = true ↔ ¬ReaderEnded requestLimit contentLength
    body past) ∧ (owner.readerPending = true → owner.input = received past)) ?_ ?_ events
  · unfold onRequest
    grind [ReaderEnded, received, finish_reader, Owner.new]
  · rintro past event ⟨pending, input⟩
    obtain ⟨still, written⟩ := step_reader requestLimit contentLength
      (run (step requestLimit contentLength) (onRequest requestLimit contentLength body) past) event
    have more : received (past ++ [event]) = received past ++ received [event] := List.flatMap_append
    rw [more]
    refine ⟨still.trans ?_, fun reads => by rw [written reads, input (still.mp reads).1]⟩
    rw [pending]
    simp only [ReaderEnded, more, List.mem_append, List.mem_singleton, List.length_append]
    grind [ReaderEnded]

/-- A handler that runs was started by a report that no end has followed. -/
theorem handler_run (body : Bool) {events : List Event} (ended : HandlerEnded events) :
    (run (step requestLimit contentLength) (onRequest requestLimit contentLength body) events).domainPending = false := by
  have kept := retire_keeps
  by_contra runs
  suffices started : ∃ before event after, events = before ++ event :: after ∧ Starts event ∧ .handlerEnd ∉ after by
    obtain ⟨before, event, after, split, starts, unended⟩ := started
    exact unended (ended before event after split starts)
  refine run_history (fun past (owner : Owner) => owner.domainPending = true → ∃ before event after,
    past = before ++ event :: after ∧ Starts event ∧ .handlerEnd ∉ after) ?_ ?_ events (by simpa using runs)
  · unfold onRequest
    grind [finish, Owner.new]
  · intro past event ih runs
    generalize run (step requestLimit contentLength) (onRequest requestLimit contentLength body) past = owner at ih runs
    by_cases already : owner.domainPending = true ∧ event ≠ .handlerEnd
    · obtain ⟨before, start, after, rfl, starts, unended⟩ := ih already.1
      exact ⟨before, start, after ++ [event], by simp, starts, by simp [unended, already.2.symm]⟩
    · refine ⟨past, event, [], rfl, ?_, by simp⟩
      cases event <;> grind [step, heard, settle, finish, startHandler, Starts]

end Cove.Transport.HttpOwner
