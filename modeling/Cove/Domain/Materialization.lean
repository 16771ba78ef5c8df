import Cove.Base.Run
import Mathlib.Logic.Function.Basic
import Mathlib.Tactic

/-!
The materializations of one workspace's entry. A request joins the one that waits behind the one that runs, and the
callbacks on the end of the running one first make the waiting one the running one and then begin it.
-/

namespace Cove.Domain.Materialization
open Base.Run Function List Materialization Option

/-- What the end of a materialization calls. -/
inductive Callback where
  | promote (run : Nat)
  | once (run : Nat)

/-- Work that is shared by its observers: whether it was begun and has ended, and what its end calls, in order. -/
structure Shared where
  begun : Bool
  settled : Bool
  callbacks : List Callback

structure EntryWrites where
  running : Nat
  waiting : Option Nat

inductive Act where
  | asked (run : Nat)
  | read (run : Nat)
  deriving DecidableEq

structure State where
  entryWrites : Option EntryWrites
  created : Nat
  shared : Nat → Shared
  log : List Act

def State.new : State where
  entryWrites := none
  created := 0
  shared := fun _ => ⟨false, false, []⟩
  log := []

variable (s : State)

def materializeOnce (run : Nat) : State :=
  { s with shared := update s.shared run { s.shared run with begun := true } }

def call : Callback → State
  | .promote run =>
    match s.entryWrites with
    | none => s
    | some state =>
      if state.running ≠ run then s
      else { s with entryWrites := state.waiting.map (fun waiting => ⟨waiting, none⟩) }
  | .once run => materializeOnce s run

def onSettled (run : Nat) (callback : Callback) : State :=
  if (s.shared run).settled then call s callback
  else
    { s with
      shared := update s.shared run { s.shared run with callbacks := (s.shared run).callbacks ++ [callback] } }

def settle (run : Nat) : State :=
  (s.shared run).callbacks.foldl call
    { s with shared := update s.shared run { s.shared run with settled := true, callbacks := [] } }

def materialize : State × Nat :=
  match s.entryWrites with
  | some ⟨_, some waiting⟩ => (s, waiting)
  | some ⟨running, none⟩ =>
    let run := s.created
    let work := onSettled { s with created := run + 1 } running (.once run)
    ({ onSettled work run (.promote run) with entryWrites := some ⟨running, some run⟩ }, run)
  | none =>
    let run := s.created
    let work := materializeOnce { s with created := run + 1 } run
    ({ onSettled work run (.promote run) with entryWrites := some ⟨run, none⟩ }, run)

def State.runs (run : Nat) : Bool := (s.shared run).begun && !(s.shared run).settled

inductive Event where
  | ask
  | read (run : Nat)
  | ended (run : Nat)

def step : Event → State
  | .ask => { (materialize s).1 with log := s.log ++ [.asked (materialize s).2] }
  | .read run => if s.runs run then { s with log := s.log ++ [.read run] } else s
  | .ended run => if s.runs run then settle s run else s

def shape (state : Option EntryWrites) (created run : Nat) : Shared :=
  if created ≤ run then ⟨false, false, []⟩
  else if state.map EntryWrites.running = some run then
    ⟨true, false, .promote run :: ((state.bind EntryWrites.waiting).map Callback.once).toList⟩
  else if state.bind EntryWrites.waiting = some run then ⟨false, false, [.promote run]⟩
  else ⟨true, true, []⟩

def Known (state : EntryWrites) (created : Nat) : Prop :=
  state.running < created ∧ ∀ waiting, state.waiting = some waiting → waiting < created ∧ waiting ≠ state.running

structure Inv : Prop where
  shared : s.shared = shape s.entryWrites s.created
  known : ∀ state, s.entryWrites = some state → Known state s.created
  asked : ∀ run, .asked run ∈ s.log → run < s.created
  read : ∀ run, .read run ∈ s.log → (s.shared run).begun = true
  after : s.log.Pairwise (fun earlier later => ∀ run, earlier = .read run → later ≠ .asked run)

variable {s : State}

/-- A caller is given a materialization that was not begun before it asked. -/
theorem Inv.materialize (inv : Inv s) : ∃ state created run,
    materialize s = ({ s with entryWrites := some state, created := created, shared := shape (some state) created }, run) ∧
      Known state created ∧ run < created ∧ s.created ≤ created ∧ (s.shared run).begun = false ∧
      ∀ other, (s.shared other).begun = true → (shape (some state) created other).begun = true := by
  obtain ⟨entry, created, shared, log⟩ := s
  obtain rfl : shared = shape entry created := inv.shared
  have known := inv.known
  unfold materialize
  rcases entry with _ | ⟨running, _ | waiting⟩
  · refine ⟨⟨created, none⟩, created + 1, created, ?_, by simp [Known], by simp, by simp, by simp [shape], ?_⟩
    · simp only [onSettled, materializeOnce, shape, update_self, le_refl, if_true, Bool.false_eq_true, if_false]
      congr 2
      funext run
      simp only [update, shape]
      grind
    · intro other
      simp only [shape]
      grind
  · have within : running < created := (known _ rfl).1
    have apart : created ≠ running := Nat.ne_of_gt within
    have here : shape (some ⟨running, none⟩) created running = ⟨true, false, [.promote running]⟩ := by
      simp [shape, within]
    have fresh : shape (some ⟨running, none⟩) created created = ⟨false, false, []⟩ := by simp [shape]
    refine ⟨⟨running, some created⟩, created + 1, created, ?_, ?_, by simp, by simp, by simp [shape], ?_⟩
    · simp only [onSettled, here, update_of_ne apart, fresh, Bool.false_eq_true, if_false]
      congr 2
      funext run
      simp only [update, shape]
      grind
    · simp only [Known]
      grind
    · intro other
      simp only [shape]
      grind
  · obtain ⟨within, behind⟩ : Known ⟨running, some waiting⟩ created := known _ rfl
    obtain ⟨less, apart⟩ := behind waiting rfl
    refine ⟨⟨running, some waiting⟩, created, waiting, rfl, ⟨within, behind⟩, less, le_rfl, ?_, fun _ begun => begun⟩
    simp only [shape]
    grind

/-- Only the running materialization ends, and its end begins the one that waits. -/
theorem Inv.settle (inv : Inv s) {run : Nat} (runs : s.runs run = true) : ∃ waiting,
    s.entryWrites = some ⟨run, waiting⟩ ∧ settle s run = { s with
        entryWrites := waiting.map (fun waiting => ⟨waiting, none⟩)
        shared := shape (waiting.map (fun waiting => ⟨waiting, none⟩)) s.created } := by
  obtain ⟨entry, created, shared, log⟩ := s
  obtain rfl : shared = shape entry created := inv.shared
  have known := inv.known
  simp only [State.runs, shape] at runs
  rcases entry with _ | ⟨running, waiting⟩
  · grind
  obtain rfl : running = run := by grind
  obtain ⟨within, behind⟩ : Known ⟨running, waiting⟩ created := known _ rfl
  refine ⟨waiting, rfl, ?_⟩
  have here : shape (some ⟨running, waiting⟩) created running =
      ⟨true, false, .promote running :: (waiting.map Callback.once).toList⟩ := by
    simp [shape, within]
  cases waiting with
  | none =>
    simp only [settle, here, map_none, toList_none, foldl_cons, foldl_nil, call]
    simp
    funext run
    simp only [update, shape]
    grind
  | some waiting =>
    obtain ⟨less, apart⟩ := behind waiting rfl
    simp only [settle, here, map_some, toList_some, foldl_cons, foldl_nil, call]
    simp [materializeOnce]
    funext run
    simp only [update, shape]
    grind

theorem Inv.step (inv : Inv s) (event : Event) : Inv (step s event) := by
  cases event with
  | ask =>
    obtain ⟨state, created, run, given, known, within, more, fresh, begun⟩ := inv.materialize
    simp only [Materialization.step, given]
    refine ⟨rfl, by simpa using known, ?_, ?_, ?_⟩
    · intro other member
      rcases mem_snoc member with old | same
      · exact Nat.lt_of_lt_of_le (inv.asked other old) more
      · cases same
        exact within
    · intro other member
      rcases mem_snoc member with old | same
      · exact begun other (inv.read other old)
      · cases same
    · refine pairwise_append.mpr ⟨inv.after, pairwise_singleton _ _, ?_⟩
      rintro _ old _ single other rfl
      rw [mem_singleton.mp single]
      rintro ⟨⟩
      rw [inv.read run old] at fresh
      cases fresh
  | read =>
    simp only [Materialization.step]
    split
    · rename_i runs
      refine { inv with asked := ?_, read := ?_, after := ?_ }
      · intro other member
        exact inv.asked other (by simpa using member)
      · intro other member
        rcases mem_snoc member with old | same
        · exact inv.read other old
        · cases same
          exact (Bool.and_eq_true _ _ ▸ runs).1
      · refine pairwise_append.mpr ⟨inv.after, pairwise_singleton _ _, ?_⟩
        rintro earlier _ _ single other _
        simp [mem_singleton.mp single]
    · exact inv
  | ended =>
    simp only [Materialization.step]
    split
    · rename_i runs
      obtain ⟨waiting, stood, ended⟩ := inv.settle runs
      rw [ended]
      have known := inv.known _ stood
      refine ⟨rfl, ?_, inv.asked, ?_, inv.after⟩
      · intro state promoted
        obtain ⟨next, rfl, rfl⟩ := map_eq_some_iff.mp promoted
        exact ⟨(known.2 next rfl).1, by simp⟩
      · intro other member
        have begun := inv.read other member
        rw [inv.shared, stood] at begun
        cases waiting <;> simp only [shape, map_none, map_some, bind_none, bind_some] at begun ⊢ <;>
          grind
    · exact inv

theorem Inv.new : Inv .new := by
  refine ⟨?_, by simp [State.new], by simp [State.new], by simp [State.new], by simp [State.new]⟩
  funext run
  simp [State.new, shape]

/-- A materialization that was created and not begun. -/
def State.waits (run : Nat) : Prop := run < s.created ∧ (s.shared run).begun = false

/-- In every run at most one materialization runs and at most one waits; whatever a caller is given reads the record
only after the caller asked; and one that waits has another running ahead of it, whose end begins it. -/
theorem materializations_coalesce (events : List Event) :
    let s := run step .new events
    (∀ first second, s.runs first = true → s.runs second = true → first = second) ∧
    (∀ first second, s.waits first → s.waits second → first = second) ∧
    (∀ run, .asked run ∈ s.log → run < s.created) ∧
    s.log.Pairwise (fun earlier later => ∀ run, earlier = .read run → later ≠ .asked run) ∧
    (∀ run, s.waits run → ∃ ahead, s.runs ahead = true ∧ (step s (.ended ahead)).runs run = true) := by
  intro s
  have inv : Inv s := run_invariant Inv .new (fun _ event inv => inv.step event) events
  have shared := inv.shared
  refine ⟨?_, ?_, inv.asked, inv.after, ?_⟩
  · intro first second
    simp only [State.runs, shared, shape]
    grind
  · intro first second
    simp only [State.waits, shared, shape]
    grind
  · rintro run ⟨within, idle⟩
    obtain ⟨running, stood⟩ : ∃ running, s.entryWrites = some ⟨running, some run⟩ := by
      rw [shared] at idle
      simp only [shape] at idle
      have behind : s.entryWrites.bind EntryWrites.waiting = some run := by grind
      obtain ⟨⟨running, waiting⟩, stood, same⟩ := bind_eq_some_iff.mp behind
      exact ⟨running, same ▸ stood⟩
    have known : ¬s.created ≤ running := Nat.not_le.mpr (inv.known _ stood).1
    have runs : s.runs running = true := by simp [State.runs, shared, shape, stood, known]
    obtain ⟨waiting, same, ended⟩ := inv.settle runs
    obtain rfl : some run = waiting := by simpa using stood.symm.trans same
    refine ⟨running, runs, ?_⟩
    simp only [step, runs, if_true, ended]
    simp [State.runs, shape, Nat.not_le.mpr within]

end Cove.Domain.Materialization
