import Cove.Base.Run
import Cove.Protocol.Pipe
import Mathlib.Tactic

/-!
The fact the business snapshots keep of one run. The registry notifies it of every status it observes, and the worker's
control and resize events reach it directly, so that the two report the same boundaries in no common order.
-/

namespace Cove.Business.Snapshots
open Base.Run Protocol.Pipe Protocol.Terminal List

/-- What is read of a status. -/
structure Report extends RuntimeFact where
  parsedSeq : Option Nat
  deriving DecidableEq

def Report.atSeq (status : Report) : Int := status.parsedSeq.elim (-1) Int.ofNat

structure Observation where
  record : RuntimeFact
  atSeq : Int

def Observation.exited (fact : Observation) : Prop := fact.record.status = .exited

instance (fact : Observation) : Decidable fact.exited := inferInstanceAs (Decidable (_ = _))

/-- An older status never replaces a newer boundary, though it may take contact away or settle the exit. -/
def Observation.observe (previous : Observation) (status : Report) : Observation :=
  if previous.exited ∧ status.status ≠ .exited then previous
  else
    { record :=
        if status.atSeq < previous.atSeq ∨ status.controlEpoch < previous.record.controlEpoch then
          { previous.record with
            status := status.status
            recovery := status.recovery
            exitCode := if status.status = .exited then status.exitCode else previous.record.exitCode
            signal := if status.status = .exited then status.signal else previous.record.signal }
        else status.toRuntimeFact
      atSeq := max status.atSeq previous.atSeq }

structure State where
  entry : Report
  fact : Observation

variable (s : State)

def State.notify (entry : Report) : State := ⟨entry, s.fact.observe entry⟩

def State.observe (status : Report) : State :=
  if s.entry.status = .exited ∧ (status.status ≠ .exited ∨ status.atSeq < s.entry.atSeq) then s
  else s.notify status

def State.observeExit (exitCode : Option Int) (signal : Option String) : State :=
  if s.entry.status = .exited then s
  else s.notify { s.entry with status := .exited, exitCode := exitCode, signal := signal }

def State.contactLost : State :=
  if s.entry.status = .exited then s
  else s.notify { s.entry with status := .unverifiable, recovery := .unavailable }

inductive Terminal where
  | control (seq epoch : Nat) (holder : Option ControlHolder) (geometry : Geometry)
  | resize (seq : Nat) (geometry : Geometry)

def Terminal.seq : Terminal → Nat
  | .control seq _ _ _ => seq
  | .resize seq _ => seq

def boundaryAfter (boundary : RunBoundary) : Terminal → RunBoundary
  | .control _ epoch holder geometry => ⟨geometry, epoch, holder⟩
  | .resize _ geometry => { boundary with geometry := geometry }

/-- The status an event is observed as. -/
def observedAs (fact : RuntimeFact) (terminal : Terminal) : Report :=
  { fact with toRunBoundary := boundaryAfter fact.toRunBoundary terminal, status := .live, parsedSeq := some terminal.seq }

def State.listen (terminal : Terminal) : State :=
  if s.fact.exited ∨ terminal.seq < s.fact.atSeq then s
  else { s with fact := s.fact.observe (observedAs s.fact.record terminal) }

inductive Event where
  | status (status : Report)
  | exit (exitCode : Option Int) (signal : Option String)
  | contactLost
  | terminal (terminal : Terminal)

def step : Event → State
  | .status status => s.observe status
  | .exit exitCode signal => s.observeExit exitCode signal
  | .contactLost => s.contactLost
  | .terminal terminal => s.listen terminal

def new (geometry : Geometry) : State :=
  let record : RuntimeFact := ⟨⟨geometry, 0, none⟩, .unverifiable, .unavailable, none, none⟩
  ⟨⟨record, none⟩, ⟨record, -1⟩⟩

/-- The boundary an event reports; an exit and a lost contact report none of their own. -/
def Event.atSeq : Event → Int
  | .status reply => reply.atSeq
  | .terminal event => event.seq
  | _ => -1

def Event.settled : Event → Bool
  | .status reply => reply.status = .exited
  | _ => false

/-- A resize reports the screen and says nothing of the control. -/
def Event.reportsControl : Event → Bool
  | .status _ | .terminal (.control ..) => true
  | _ => false

def controlOf (boundary : RunBoundary) : Nat × Option ControlHolder := (boundary.controlEpoch, boundary.controlHolder)

/-- Where the worker stands once it has parsed a sequence number. -/
def boundaryAt (geometry : Geometry) (history : List Terminal) (seq : Int) : RunBoundary :=
  (history.filter (fun terminal => decide (terminal.seq ≤ seq))).foldl boundaryAfter ⟨geometry, 0, none⟩

variable {geometry : Geometry} {history : List Terminal} {previous : Observation} {status : Report} {s : State}

/-- An event of the worker is the last of those that make up its own boundary. -/
theorem boundaryAt_mem (ordered : history.Pairwise (fun first second => first.seq < second.seq)) {terminal : Terminal}
    (member : terminal ∈ history) : ∃ before, boundaryAt geometry history terminal.seq = boundaryAfter before terminal := by
  obtain ⟨before, after, rfl⟩ := append_of_mem member
  obtain ⟨-, later, earlier⟩ := pairwise_append.mp ordered
  have later := (pairwise_cons.mp later).1
  refine ⟨before.foldl boundaryAfter ⟨geometry, 0, none⟩, ?_⟩
  rw [boundaryAt, filter_append, filter_eq_self.mpr (by grind), filter_cons, filter_eq_nil_iff.mpr (by grind)]
  simp

theorem observe_atSeq (taken : ¬(previous.exited ∧ status.status ≠ .exited)) :
    (previous.observe status).atSeq = max previous.atSeq status.atSeq ∧
      (previous.observe status).record.status = status.status := by
  simp only [Observation.observe, taken, if_false]
  exact ⟨max_comm _ _, by split <;> rfl⟩

/-- A newer boundary is taken as a whole, and an older one not at all. -/
theorem observe_boundary (taken : ¬(previous.exited ∧ status.status ≠ .exited))
    (epochs : previous.atSeq ≤ status.atSeq → previous.record.controlEpoch ≤ status.controlEpoch) :
    (previous.observe status).record.toRunBoundary =
      if previous.atSeq ≤ status.atSeq then status.toRunBoundary else previous.record.toRunBoundary := by
  simp only [Observation.observe, taken, if_false]
  split <;> grind

/-- No observation takes back the sequence number, the epoch or the exit. -/
theorem observe_advances (previous : Observation) (status : Report) :
    previous.atSeq ≤ (previous.observe status).atSeq ∧
    previous.record.controlEpoch ≤ (previous.observe status).record.controlEpoch ∧
    (previous.exited → (previous.observe status).exited) := by
  by_cases refused : previous.exited ∧ status.status ≠ .exited
  · simp [Observation.observe, refused]
  refine ⟨by simp [observe_atSeq refused], ?_, ?_⟩
  · simp only [Observation.observe, refused, if_false]
    split <;> grind
  · intro exited
    rw [Observation.exited, (observe_atSeq refused).2]
    exact Classical.not_not.mp (not_and.mp refused exited)

theorem step_advances (s : State) (event : Event) : s.fact.atSeq ≤ (step s event).fact.atSeq ∧
    s.fact.record.controlEpoch ≤ (step s event).fact.record.controlEpoch ∧
    (s.fact.exited → (step s event).fact.exited) := by
  have same : s.fact.atSeq ≤ s.fact.atSeq ∧ s.fact.record.controlEpoch ≤ s.fact.record.controlEpoch ∧
      (s.fact.exited → s.fact.exited) := ⟨le_rfl, le_rfl, id⟩
  cases event <;>
    simp only [step, State.observe, State.observeExit, State.contactLost, State.listen, State.notify] <;>
    split <;> first | exact same | exact observe_advances _ _

/-- The fact stands at the screen of its boundary, with a control that is no newer; at the boundary of the last status
it stands altogether. -/
structure Inv (geometry : Geometry) (history : List Terminal) (s : State) : Prop where
  screen : s.fact.record.geometry = (boundaryAt geometry history s.fact.atSeq).geometry
  epoch : s.fact.record.controlEpoch ≤ (boundaryAt geometry history s.fact.atSeq).controlEpoch
  entry : s.entry.toRunBoundary = boundaryAt geometry history s.entry.atSeq
  behind : s.entry.atSeq ≤ s.fact.atSeq
  last : s.entry.atSeq = s.fact.atSeq → s.fact.record.toRunBoundary = s.entry.toRunBoundary
  exited : s.entry.status = .exited ↔ s.fact.exited

/-- The events are the worker's, each any number of times, in any order or not at all, and every status reports the
boundary it was taken at. -/
structure Reported (geometry : Geometry) (history : List Terminal) (events : List Event) : Prop where
  ordered : history.Pairwise (fun first second => first.seq < second.seq)
  epochs : Monotone (fun seq => (boundaryAt geometry history seq).controlEpoch)
  delivered : ∀ terminal, .terminal terminal ∈ events → terminal ∈ history
  statuses : ∀ status, .status status ∈ events → status.toRunBoundary = boundaryAt geometry history status.atSeq

/-- What one event makes of the fact. -/
structure Takes (geometry : Geometry) (history : List Terminal) (event : Event) (before fact : Observation) : Prop where
  atSeq : fact.atSeq = if before.exited ∧ event.settled = false then before.atSeq else max before.atSeq event.atSeq
  control : controlOf fact.record.toRunBoundary =
    if event.reportsControl ∧ before.atSeq ≤ event.atSeq ∧ (before.exited → event.settled) then
      controlOf (boundaryAt geometry history event.atSeq)
    else controlOf before.record.toRunBoundary

section

variable (epochs : Monotone (fun seq => (boundaryAt geometry history seq).controlEpoch)) (inv : Inv geometry history s)
include epochs inv

theorem Inv.notify (reported : status.toRunBoundary = boundaryAt geometry history status.atSeq)
    (taken : ¬(s.fact.exited ∧ status.status ≠ .exited)) : Inv geometry history (s.notify status) ∧
      (s.notify status).fact.atSeq = max s.fact.atSeq status.atSeq ∧ (s.notify status).fact.record.toRunBoundary =
        if s.fact.atSeq ≤ status.atSeq then status.toRunBoundary else s.fact.record.toRunBoundary := by
  obtain ⟨most, phase⟩ := observe_atSeq taken
  have grown (reached : s.fact.atSeq ≤ status.atSeq) : s.fact.record.controlEpoch ≤ status.controlEpoch :=
    inv.epoch.trans ((epochs reached).trans_eq (by rw [reported]))
  have kept := observe_boundary taken grown
  have exited : status.status = .exited ↔ (s.notify status).fact.exited := by
    rw [State.notify, Observation.exited, phase]
  refine ⟨?_, most, kept⟩
  split at kept
  next reached =>
    rw [max_eq_right reached] at most
    have stood : (s.notify status).fact.record.toRunBoundary = boundaryAt geometry history (s.notify status).fact.atSeq := by
      rw [State.notify, kept, most, reported]
    exact ⟨congrArg RunBoundary.geometry stood, (congrArg RunBoundary.controlEpoch stood).le, reported, most.ge, fun _ => kept,
      exited⟩
  next older =>
    rw [max_eq_left (by omega)] at most
    refine ⟨?_, ?_, reported, (not_le.mp older).le.trans most.ge, fun same => ?_, exited⟩
    · rw [State.notify, most]
      exact (congrArg RunBoundary.geometry kept).trans inv.screen
    · rw [State.notify, most]
      exact (congrArg RunBoundary.controlEpoch kept).trans_le inv.epoch
    · rw [State.notify, most] at same
      exact absurd same.ge older

theorem Inv.listen (ordered : history.Pairwise (fun first second => first.seq < second.seq)) {terminal : Terminal}
    (member : terminal ∈ history) : Inv geometry history (s.listen terminal) ∧
      Takes geometry history (.terminal terminal) s.fact (s.listen terminal).fact := by
  obtain ⟨before, stood⟩ : ∃ before, boundaryAt geometry history terminal.seq = boundaryAfter before terminal :=
    boundaryAt_mem ordered member
  unfold State.listen
  split
  next dropped =>
    refine ⟨inv, ?_, ?_⟩
    · split <;> grind [Event.settled, Event.atSeq]
    · rw [if_neg]
      grind [Event.settled, Event.atSeq]
  next taken =>
    obtain ⟨running, reached⟩ := not_or.mp taken
    have reached : s.fact.atSeq ≤ (observedAs s.fact.record terminal).atSeq := not_lt.mp reached
    have live : ¬(s.fact.exited ∧ (observedAs s.fact.record terminal).status ≠ .exited) := fun both => running both.1
    have grown := inv.epoch.trans (epochs reached)
    obtain ⟨most, phase⟩ := observe_atSeq live
    have kept := observe_boundary live fun _ => by
      cases terminal with
      | control => exact grown.trans_eq (congrArg RunBoundary.controlEpoch stood)
      | resize => exact le_rfl
    rw [if_pos reached] at kept
    rw [max_eq_right reached] at most
    refine ⟨⟨?_, ?_, inv.entry, inv.behind.trans (observe_advances _ _).1, fun same => ?_, ?_⟩, ?_, ?_⟩
    · rw [kept, most]
      refine Eq.trans ?_ (congrArg RunBoundary.geometry stood).symm
      cases terminal <;> rfl
    · rw [kept, most]
      cases terminal with
      | control => exact (congrArg RunBoundary.controlEpoch stood).ge
      | resize => exact grown
    · have here : s.fact.atSeq = terminal.seq := le_antisymm reached ((same.trans most).ge.trans inv.behind)
      have whole := inv.last ((same.trans most).trans here.symm)
      have own : s.entry.toRunBoundary = boundaryAfter before terminal := by
        rw [inv.entry, same, most]
        exact stood
      rw [kept, own]
      show boundaryAfter s.fact.record.toRunBoundary terminal = _
      rw [whole, own]
      cases terminal <;> rfl
    · rw [inv.exited, Observation.exited, Observation.exited, phase]
      exact iff_of_false running nofun
    · rw [if_neg (by simp [running])]
      exact most.trans (max_eq_right reached).symm
    · cases terminal with
      | control =>
        rw [if_pos ⟨rfl, reached, fun exited => absurd exited running⟩]
        exact (congrArg controlOf kept).trans (congrArg controlOf stood).symm
      | resize => exact (congrArg controlOf kept).trans rfl

/-- An exit and a lost contact observe the boundary of the last status once more. -/
theorem Inv.again (entry : Report) (same : entry.toRunBoundary = s.entry.toRunBoundary) (seq : entry.atSeq = s.entry.atSeq) :
    let next := if s.entry.status = .exited then s else s.notify entry
    Inv geometry history next ∧ next.fact.atSeq = s.fact.atSeq ∧ next.fact.record.toRunBoundary = s.fact.record.toRunBoundary := by
  dsimp only
  split
  next => exact ⟨inv, rfl, rfl⟩
  next running =>
    obtain ⟨kept, most, boundary⟩ := inv.notify epochs (same.trans (seq ▸ inv.entry)) (by grind [inv.exited])
    refine ⟨kept, most.trans (max_eq_left (seq ▸ inv.behind)), boundary.trans ?_⟩
    split
    next reached => exact same.trans (inv.last (le_antisymm inv.behind (seq ▸ reached))).symm
    next => rfl

end

theorem Inv.step {event : Event} (reported : Reported geometry history [event]) (inv : Inv geometry history s) :
    Inv geometry history (step s event) ∧ Takes geometry history event s.fact (Snapshots.step s event).fact := by
  have least : -1 ≤ s.fact.atSeq := by
    refine le_trans ?_ inv.behind
    simp only [Report.atSeq]
    cases s.entry.parsedSeq <;> simp
  cases event with
  | status reply =>
    simp only [Snapshots.step, State.observe]
    split
    next refused =>
      refine ⟨inv, ?_, ?_⟩
      · simp only [Event.settled, Event.atSeq]
        grind [inv.exited, inv.behind]
      · rw [if_neg]
        simp only [Event.settled, Event.atSeq]
        grind [inv.exited, inv.behind]
    next taken =>
      have own := reported.statuses reply (by simp)
      obtain ⟨kept, most, boundary⟩ := inv.notify reported.epochs own (by grind [inv.exited])
      refine ⟨kept, ?_, ?_⟩
      · simp only [most, Event.settled, Event.atSeq]
        grind [inv.exited]
      · by_cases reached : s.fact.atSeq ≤ reply.atSeq
        · rw [if_pos ⟨rfl, reached, by simp only [Event.settled]; grind [inv.exited]⟩]
          exact congrArg controlOf ((boundary.trans (if_pos reached)).trans own)
        · rw [if_neg fun newer => reached newer.2.1]
          exact congrArg controlOf (boundary.trans (if_neg reached))
  | exit exitCode signal =>
    obtain ⟨kept, seq, boundary⟩ := inv.again reported.epochs
      { s.entry with status := .exited, exitCode := exitCode, signal := signal } rfl rfl
    exact ⟨kept, seq.trans (by simp [Event.atSeq, least]), congrArg controlOf boundary⟩
  | contactLost =>
    obtain ⟨kept, seq, boundary⟩ := inv.again reported.epochs
      { s.entry with status := .unverifiable, recovery := .unavailable } rfl rfl
    exact ⟨kept, seq.trans (by simp [Event.atSeq, least]), congrArg controlOf boundary⟩
  | terminal terminal => exact inv.listen reported.epochs reported.ordered (reported.delivered terminal (by simp))

def lateResize : List Event :=
  [.status ⟨⟨⟨⟨80, 24⟩, 0, none⟩, .exited, .ready, some 0, none⟩, some 0⟩, .terminal (.resize 1 ⟨100, 40⟩)]

theorem lateResize_reported : Reported ⟨80, 24⟩ [.resize 1 ⟨100, 40⟩] lateResize := by
  refine ⟨by simp, ?_, by simp [lateResize], ?_⟩
  · intro seq later _
    simp only [boundaryAt, filter_cons]
    split <;> split <;> simp [boundaryAfter]
  · simp [lateResize]
    decide

def controls : List Terminal := [.control 5 1 none ⟨80, 24⟩, .control 9 2 none ⟨80, 24⟩, .resize 15 ⟨100, 40⟩]

/-- No viewer was attached when the second control event came, and the status that reports it arrives after the resize. -/
def missedControl : List Event :=
  [.terminal (.control 5 1 none ⟨80, 24⟩), .terminal (.resize 15 ⟨100, 40⟩),
    .status ⟨⟨⟨⟨80, 24⟩, 2, none⟩, .live, .ready, none, none⟩, some 12⟩]

theorem missedControl_reported : Reported ⟨80, 24⟩ controls missedControl := by
  have epoch (seq : Int) : (boundaryAt ⟨80, 24⟩ controls seq).controlEpoch =
      if 9 ≤ seq then 2 else if 5 ≤ seq then 1 else 0 := by
    by_cases first : 5 ≤ seq <;> by_cases second : 9 ≤ seq <;> by_cases third : 15 ≤ seq <;>
      simp [controls, boundaryAt, Terminal.seq, first, second, third, boundaryAfter]
  refine ⟨by simp [controls, Terminal.seq], ?_, by simp [missedControl, controls], ?_⟩
  · intro seq later within
    simp only [epoch]
    split_ifs <;> omega
  · simp [missedControl]
    decide

end Cove.Business.Snapshots
