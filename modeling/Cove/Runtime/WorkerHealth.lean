import Cove.Base.Run
import Cove.Worker.PipeEndpoint

/-!
The informational health of a worker. The monitor keeps when each condition began to hold and since when none does;
these timestamps stand for the whole history of samples, which is recorded beside them.
-/

namespace Cove.Runtime.WorkerHealth
open Base.Run List Worker.PipeEndpoint

inductive Reason where
  | eventLoopDelay
  | heartbeatGap
  | commandAge
  deriving DecidableEq

def workerHealthReasons : List Reason := [.eventLoopDelay, .heartbeatGap, .commandAge]

def overloadEnterMs : ℚ := 5000

def overloadLeaveMs : ℚ := 10000

structure HealthSignals where
  heartbeatGapMs : ℚ
  oldestCommandAgeMs : Option ℚ

structure Health where
  overloaded : Bool
  reasons : List Reason

/-- When an evaluation was made, the conditions it found and the state it left. -/
structure Sample where
  now : ℚ
  holding : List Reason
  overloaded : Bool

structure Monitor where
  health : Health
  stateSince : ℚ
  heldSince : Reason → Option ℚ
  clearSince : Option ℚ
  load : Option WorkerLoad
  samples : List Sample

def new (now : ℚ) : Monitor where
  health := { overloaded := false, reasons := [] }
  stateSince := now
  heldSince := fun _ => none
  clearSince := some now
  load := none
  samples := []

def holds (load : Option WorkerLoad) (signals : HealthSignals) : Reason → Bool
  | .eventLoopDelay => decide ((load.map WorkerLoad.eventLoopDelayP99Ms).getD 0 > 200)
  | .heartbeatGap => decide (signals.heartbeatGapMs > 3000)
  | .commandAge => decide (signals.oldestCommandAgeMs.getD 0 > 5000)

/-- The health after a sample, when it changed. While overloaded the reasons accumulate. -/
def judge (health : Health) (sustained : List Reason) (cleared : Bool) : Option Health :=
  if health.overloaded = false then
    if sustained = [] then none else some { overloaded := true, reasons := sustained }
  else if cleared then some { overloaded := false, reasons := [] }
  else
    let added := sustained.filter (fun reason => reason ∉ health.reasons)
    if added = [] then none
    else
      some
        { overloaded := true
          reasons := workerHealthReasons.filter (fun reason => reason ∈ health.reasons ∨ reason ∈ added) }

def evaluate (m : Monitor) (now : ℚ) (signals : HealthSignals) : Monitor × Option Health :=
  let holding := workerHealthReasons.filter (holds m.load signals)
  let heldSince := fun reason => if reason ∈ holding then some ((m.heldSince reason).getD now) else none
  let clearSince := if holding = [] then some (m.clearSince.getD now) else none
  let sustained := workerHealthReasons.filter (fun reason =>
    decide (now - (heldSince reason).getD (now + 1) ≥ overloadEnterMs))
  let answer := judge m.health sustained (clearSince.any (fun since => decide (now - since ≥ overloadLeaveMs)))
  let health := answer.getD m.health
  ({ m with
      health := health
      stateSince := if health.overloaded = m.health.overloaded then m.stateSince else now
      heldSince := heldSince
      clearSince := clearSince
      samples := m.samples ++ [{ now := now, holding := holding, overloaded := health.overloaded }] }, answer)

inductive Event where
  | heartbeat (load : WorkerLoad)
  | evaluate (now : ℚ) (signals : HealthSignals)

def step (m : Monitor) : Event → Monitor
  | .heartbeat load => { m with load := some load }
  | .evaluate now signals => (evaluate m now signals).1

def inOrder (m : Monitor) : Event → Prop
  | .heartbeat _ => True
  | .evaluate now _ => ∀ sample ∈ m.samples, sample.now ≤ now

instance (m : Monitor) : (event : Event) → Decidable (inOrder m event)
  | .heartbeat _ => isTrue trivial
  | .evaluate now _ => inferInstanceAs (Decidable (∀ sample ∈ m.samples, sample.now ≤ now))

/-! ### Stretches of the history -/

section
variable {samples : List Sample} {sample : Sample} {since : ℚ} {all : Sample → Prop}

/-- The samples from one made at `since` on are all of one kind. -/
def Since (samples : List Sample) (since : ℚ) (all : Sample → Prop) : Prop :=
  ∃ earlier first later, samples = earlier ++ first :: later ∧ first.now = since ∧ ∀ sample ∈ first :: later, all sample

theorem Since.extend {stored : Option ℚ} (known : ∀ since, stored = some since → Since samples since all)
    (met : all sample) : Since (samples ++ [sample]) (stored.getD sample.now) all := by
  cases stored with
  | none => exact ⟨samples, sample, [], rfl, rfl, by simpa using met⟩
  | some since =>
    obtain ⟨earlier, first, later, rfl, begun, each⟩ := known since rfl
    refine ⟨earlier, first, later ++ [sample], by simp, begun, ?_⟩
    simp only [← cons_append, mem_append, mem_singleton]
    rintro other (old | rfl)
    · exact each other old
    · exact met

theorem Since.last (stretch : Since (samples ++ [sample]) since all) : all sample := by
  obtain ⟨earlier, first, later, same, _, each⟩ := stretch
  rcases eq_nil_or_concat later with rfl | ⟨rest, final, rfl⟩
  · have ends := append_inj_right' same rfl
    simp_all
  · rw [concat_eq_append, ← cons_append, ← append_assoc] at same
    have ends := append_inj_right' same rfl
    simp_all

/-- A sample of another kind was made no later than the stretch began. -/
theorem Since.after (stretch : Since samples since all) (ordered : samples.Pairwise (fun a b => a.now ≤ b.now))
    (member : sample ∈ samples) (other : ¬all sample) : sample.now ≤ since := by
  obtain ⟨earlier, first, later, rfl, rfl, each⟩ := stretch
  rcases mem_append.mp member with old | inside
  · exact (pairwise_append.mp ordered).2.2 sample old first mem_cons_self
  · exact absurd (each sample inside) other

end

def stateAfter (samples : List Sample) : Bool := (samples.getLast?.map Sample.overloaded).getD false

def Turns (before : List Sample) (sample : Sample) (overloaded : Bool) : Prop :=
  stateAfter before = !overloaded ∧ sample.overloaded = overloaded

/-- What a sample that changes the state was preceded by. -/
structure Change (before : List Sample) (sample : Sample) : Prop where
  enters : Turns before sample true → ∃ reason since, since + overloadEnterMs ≤ sample.now ∧
    Since (before ++ [sample]) since (fun sample => reason ∈ sample.holding)
  leaves : Turns before sample false → ∃ since, since + overloadLeaveMs ≤ sample.now ∧
    Since (before ++ [sample]) since (fun sample => sample.holding = [])

structure Inv (m : Monitor) : Prop where
  held : ∀ reason since, m.heldSince reason = some since → Since m.samples since (fun sample => reason ∈ sample.holding)
  clear : m.health.overloaded = true → ∀ since, m.clearSince = some since →
    Since m.samples since (fun sample => sample.holding = [])
  current : m.health.overloaded = stateAfter m.samples
  named : m.health.reasons = [] ↔ m.health.overloaded = false
  ordered : m.samples.Pairwise (fun a b => a.now ≤ b.now)
  changes : ∀ before sample after, m.samples = before ++ sample :: after → Change before sample

theorem judge_spec {health next : Health} {sustained : List Reason} {cleared : Bool}
    (named : health.reasons = [] ↔ health.overloaded = false)
    (judged : (judge health sustained cleared).getD health = next) : (next.reasons = [] ↔ next.overloaded = false) ∧
    (health.overloaded = false → next.overloaded = true → ∃ reason, reason ∈ sustained) ∧
    (health.overloaded = true → next.overloaded = false → cleared = true) := by
  subst judged
  unfold judge
  split
  · split
    · simp_all
    · rename_i more
      simp [exists_mem_of_ne_nil _ more, *]
  · split
    · simp_all
    dsimp only
    split
    · simp_all
    rename_i more
    obtain ⟨reason, member⟩ := exists_mem_of_ne_nil _ more
    have known : reason ∈ workerHealthReasons := by cases reason <;> decide
    simp only [Option.getD_some, Bool.true_eq_false, false_imp_iff, implies_true, and_true, iff_false]
    refine ⟨?_, by simp_all⟩
    exact ne_nil_of_mem (mem_filter.mpr ⟨known, decide_eq_true (Or.inr member)⟩)

theorem since_of_sustained {stored : Option ℚ} {now : ℚ} (long : now - stored.getD (now + 1) ≥ overloadEnterMs) :
    ∃ since, stored = some since ∧ since + overloadEnterMs ≤ now := by
  cases stored with
  | none =>
    simp only [Option.getD_none, overloadEnterMs] at long
    linarith
  | some since =>
    simp only [Option.getD_some] at long
    exact ⟨since, rfl, by linarith⟩

variable {m : Monitor}

theorem Inv.step (inv : Inv m) {event : Event} (ordered : inOrder m event) : Inv (step m event) := by
  cases event with
  | heartbeat => exact { inv with }
  | evaluate now signals =>
    simp only [WorkerHealth.step, evaluate]
    generalize workerHealthReasons.filter (holds m.load signals) = holding
    generalize judged : (judge m.health _ _).getD m.health = health
    obtain ⟨named, enters, leaves⟩ := judge_spec inv.named judged
    have held : ∀ reason since, (if reason ∈ holding then some ((m.heldSince reason).getD now) else none) = some since →
        Since (m.samples ++ [⟨now, holding, health.overloaded⟩]) since (fun sample => reason ∈ sample.holding) := by
      intro reason since stored
      split at stored
      · rename_i inside
        cases stored
        exact Since.extend (inv.held reason) inside
      · cases stored
    have clear : m.health.overloaded = true → ∀ since, (if holding = [] then some (m.clearSince.getD now) else none) =
        some since → Since (m.samples ++ [⟨now, holding, health.overloaded⟩]) since (fun sample => sample.holding = []) := by
      intro overloaded since stored
      split at stored
      · rename_i nothing
        cases stored
        exact Since.extend (inv.clear overloaded) nothing
      · cases stored
    refine ⟨held, ?_, by simp [stateAfter], named, ?_, ?_⟩
    · intro overloaded
      cases before : m.health.overloaded with
      | true => exact clear before
      | false =>
        -- The condition that is sustained holds now, so nothing is clear.
        obtain ⟨reason, member⟩ := enters before overloaded
        obtain ⟨_, stored, _⟩ := since_of_sustained (of_decide_eq_true (mem_filter.mp member).2)
        have inside : reason ∈ holding := by
          by_contra outside
          simp [outside] at stored
        simp [ne_nil_of_mem inside]
    · refine pairwise_append.mpr ⟨inv.ordered, pairwise_singleton _ _, ?_⟩
      intro earlier member last single
      rw [mem_singleton.mp single]
      exact ordered earlier member
    · intro before sample after whole
      rcases eq_nil_or_concat after with rfl | ⟨rest, final, rfl⟩
      · obtain ⟨rfl, one⟩ := append_inj' whole rfl
        cases one
        constructor
        · rintro ⟨normal, overloaded⟩
          obtain ⟨reason, member⟩ := enters (inv.current.trans normal) overloaded
          obtain ⟨since, stored, long⟩ := since_of_sustained (of_decide_eq_true (mem_filter.mp member).2)
          exact ⟨reason, since, long, held reason since stored⟩
        · rintro ⟨overloaded, normal⟩
          have earlier := inv.current.trans overloaded
          obtain ⟨since, stored, long⟩ := (Option.any_eq_true _ _).mp (leaves earlier normal)
          have late := of_decide_eq_true long
          exact ⟨since, by linarith, clear earlier since stored⟩
      · rw [concat_eq_append, ← cons_append, ← append_assoc] at whole
        exact inv.changes before sample rest (append_inj_left' whole rfl)

theorem Inv.new (start : ℚ) : Inv (new start) := by
  constructor <;> simp [WorkerHealth.new, stateAfter]

/-- Over every run whose samples are taken in order: the monitor turns overloaded only when a condition has held at
every sample for the enter period, and normal only when none has held at any for the leave period; it names no reason
exactly while it is normal; and a change comes a whole period after the one before. -/
theorem health_hysteresis (start : ℚ) (events : List Event) (ordered : Guarded inOrder step (new start) events) :
    let m := run step (new start) events
    (∀ before sample after, m.samples = before ++ sample :: after → Change before sample) ∧
    m.health.overloaded = stateAfter m.samples ∧ (m.health.reasons = [] ↔ m.health.overloaded = false) ∧
    (∀ before first between last after, m.samples = before ++ first :: between ++ last :: after →
      (Turns before first true → Turns (before ++ first :: between) last false →
        first.now + overloadLeaveMs ≤ last.now) ∧
      (Turns before first false → Turns (before ++ first :: between) last true →
        first.now + overloadEnterMs ≤ last.now)) := by
  intro m
  have inv : Inv m := run_invariant_guarded Inv (.new start) (fun _ _ allowed inv => inv.step allowed) events ordered
  refine ⟨inv.changes, inv.current, inv.named, ?_⟩
  intro before first between last after whole
  have early := inv.changes before first (between ++ last :: after) (by simpa using whole)
  have late := inv.changes (before ++ first :: between) last after whole
  have inside : first ∈ before ++ first :: between ++ [last] := by simp
  have timed : (before ++ first :: between ++ [last]).Pairwise (fun a b => a.now ≤ b.now) := by
    refine Pairwise.sublist ?_ inv.ordered
    rw [whole]
    simp
  constructor
  · intro entered left
    obtain ⟨reason, _, _, held⟩ := early.enters entered
    obtain ⟨since, long, clear⟩ := late.leaves left
    have begun := clear.after timed inside (ne_nil_of_mem held.last)
    linarith
  · intro left entered
    obtain ⟨_, _, clear⟩ := early.leaves left
    obtain ⟨reason, since, long, held⟩ := late.enters entered
    have begun := held.after timed inside (by rw [clear.last]; exact not_mem_nil)
    linarith

def slowCommand : List Event :=
  [.evaluate 0 ⟨0, some 6000⟩, .evaluate 5000 ⟨0, some 11000⟩, .evaluate 6000 ⟨0, none⟩, .evaluate 16000 ⟨0, none⟩]

theorem slowCommand_recovers : Guarded inOrder step (new 0) slowCommand ∧
    (run step (new 0) slowCommand).samples.map Sample.overloaded = [false, true, true, false] ∧
    (run step (new 0) slowCommand).health.reasons = [] := by
  have ordered : Guarded inOrder step (new 0) slowCommand := by decide +kernel
  have known := health_hysteresis 0 slowCommand ordered
  refine ⟨ordered, by decide +kernel, known.2.2.1.mpr ?_⟩
  rw [known.2.1]
  decide +kernel

end Cove.Runtime.WorkerHealth
