import Mathlib.Data.List.Basic
import Mathlib.Data.List.Induction

/-!
Runs of a state machine over a list of events. An event carries whatever its environment chose, so a
step is a function and a run is a fold.
-/

namespace Cove.Base.Run

variable {σ ε : Type*}

variable (step : σ → ε → σ)

def run (state : σ) (events : List ε) : σ := events.foldl step state

@[simp] theorem run_nil (state : σ) : run step state [] = state := rfl

@[simp] theorem run_cons (state : σ) (event : ε) (events : List ε) :
    run step state (event :: events) = run step (step state event) events := rfl

theorem run_append (state : σ) (events more : List ε) :
    run step state (events ++ more) = run step (run step state events) more := by
  simp [run]

theorem mem_snoc {x y : ε} {entries : List ε} (member : x ∈ entries ++ [y]) : x ∈ entries ∨ x = y := by
  simpa using member

theorem getElem?_snoc {x y : ε} {entries : List ε} {index : Nat} (found : (entries ++ [y])[index]? = some x) :
    index < entries.length ∧ entries[index]? = some x ∨ index = entries.length ∧ x = y := by
  rw [List.getElem?_append] at found
  split at found
  next old => exact .inl ⟨old, found⟩
  next beyond =>
    rw [List.getElem?_singleton] at found
    split at found
    next zero => exact .inr ⟨by omega, (Option.some.inj found).symm⟩
    next => cases found

variable {step : σ → ε → σ} {state : σ}

/-- What holds at the start and is kept by every step holds after every run. -/
theorem run_invariant (Inv : σ → Prop) (start : Inv state)
    (keeps : ∀ state event, Inv state → Inv (step state event)) (events : List ε) : Inv (run step state events) := by
  induction events generalizing state with
  | nil => exact start
  | cons event rest ih => exact ih (keeps state event start)

theorem run_invariant_of {Kind : ε → Prop} (Inv : σ → Prop) (start : Inv state)
    (keeps : ∀ state event, Kind event → Inv state → Inv (step state event)) (events : List ε)
    (kinds : ∀ event ∈ events, Kind event) : Inv (run step state events) := by
  induction events generalizing state with
  | nil => exact start
  | cons event rest ih =>
    apply ih (keeps state event (kinds event List.mem_cons_self) start)
    intro later member
    exact kinds later (List.mem_cons_of_mem event member)

/-- Every event of the run is allowed in the state it meets. -/
def Guarded (guard : σ → ε → Prop) (step : σ → ε → σ) : σ → List ε → Prop
  | _, [] => True
  | state, event :: rest => guard state event ∧ Guarded guard step (step state event) rest

instance Guarded.decidable (guard : σ → ε → Prop) [∀ state event, Decidable (guard state event)] (step : σ → ε → σ) :
    (state : σ) → (events : List ε) → Decidable (Guarded guard step state events)
  | _, [] => isTrue trivial
  | state, event :: rest =>
    have := Guarded.decidable guard step (step state event) rest
    inferInstanceAs (Decidable (guard state event ∧ Guarded guard step (step state event) rest))

theorem guarded_append {guard : σ → ε → Prop} {events more : List ε} : Guarded guard step state (events ++ more) ↔
      Guarded guard step state events ∧ Guarded guard step (run step state events) more := by
  induction events generalizing state with
  | nil => simp [Guarded]
  | cons event rest ih => simp [Guarded, ih, and_assoc]

theorem run_invariant_guarded {guard : σ → ε → Prop} (Inv : σ → Prop)
    (start : Inv state) (keeps : ∀ state event, guard state event → Inv state → Inv (step state event))
    (events : List ε) (guarded : Guarded guard step state events) : Inv (run step state events) := by
  induction events generalizing state with
  | nil => exact start
  | cons event rest ih => exact ih (keeps state event guarded.1 start) guarded.2

/-- An invariant that also speaks of the events so far. -/
theorem run_history (Inv : List ε → σ → Prop) (start : Inv [] state)
    (keeps : ∀ past event, Inv past (run step state past) → Inv (past ++ [event]) (step (run step state past) event))
    (events : List ε) : Inv events (run step state events) := by
  induction events using List.reverseRecOn with
  | nil => exact start
  | append_singleton past event ih =>
    rw [run_append]
    exact keeps past event ih

/-- What does not hold at the start and holds after a run came about in one of its steps. -/
theorem run_first (P : σ → Prop) (start : ¬P state) {events : List ε} (reached : P (run step state events)) :
    ∃ before event after, events = before ++ event :: after ∧ ¬P (run step state before) ∧
      P (step (run step state before) event) := by
  induction events generalizing state with
  | nil => exact absurd reached start
  | cons event rest ih =>
    by_cases now : P (step state event)
    · exact ⟨[], event, rest, rfl, start, now⟩
    · obtain ⟨before, later, after, split, not, holds⟩ := ih now reached
      exact ⟨event :: before, later, after, by rw [split]; rfl, not, holds⟩

end Cove.Base.Run
