import Cove.Base.Journal
import Cove.Worker.PtyInput

/-!
What a submission of native input goes through, in every order of the native side's answers and callbacks. It is
reported at most once, what it holds is given back at most once and only after the native side has definitely rejected
or settled it, and a run whose controller has faulted hands nothing more to the native side.
-/

namespace Cove.Worker.PtySettlement
open Base.Journal Base.Ledger Base.Run Worker.PtyInput Function List Option Task Inputs

variable (trace : List Act)

/-- The native call answered with a rejection, and nothing was settled before. -/
def Rejected (id : Nat) : Prop :=
  ∃ before reason after, trace = before ++ .returned id (.rejected reason) :: after ∧ .called id ∉ before

/-- The settlement callback was called, and either it named a ticket or the native call had accepted the input. -/
def Settled (id : Nat) : Prop :=
  ∃ value, .captured id value ∈ trace ∧
    (value.ticket?.isSome = true ∨ ∃ ticket, .returned id (.accepted ticket) ∈ trace)

def Definite (id : Nat) : Prop := Rejected trace id ∨ Settled trace id

theorem Rejected.append {trace : List Act} {id : Nat} (rejected : Rejected trace id) (acts : List Act) :
    Rejected (trace ++ acts) id := by
  obtain ⟨before, reason, after, rfl, early⟩ := rejected
  exact ⟨before, reason, after ++ acts, by simp, early⟩

@[grind ←] theorem Settled.append {trace : List Act} {id : Nat} (settled : Settled trace id) (acts : List Act) :
    Settled (trace ++ acts) id := by
  obtain ⟨value, captured, evidence⟩ := settled
  refine ⟨value, mem_append_left acts captured, ?_⟩
  rcases evidence with named | ⟨ticket, accepted⟩
  · exact .inl named
  · exact .inr ⟨ticket, mem_append_left acts accepted⟩

theorem Definite.append {trace : List Act} {id : Nat} (definite : Definite trace id) (acts : List Act) :
    Definite (trace ++ acts) id :=
  definite.imp (fun rejected => rejected.append acts) (fun settled => settled.append acts)

/-! ## One submission -/

@[simp] def Act.id? : Act → Option Nat
  | .entered _ id | .returned id _ | .called id | .captured id _ | .reported id _ | .released _ id
  | .answered id _ => some id
  | .fault .. | .refused .. => none

@[grind] def Act.reports (id : Nat) : Act → Bool
  | .reported other _ => other == id
  | _ => false

@[simp] def Task.id? : Task → Option Nat
  | .writing id | .parsing id | .capturing id | .handle id _ | .observe id _ | .observing id | .finish id
  | .answer id _ => some id
  | _ => none

@[grind] def Task.opens (id : Nat) : Task → Bool
  | .writing other | .parsing other => other == id
  | _ => false

@[grind] def Task.closes (id : Nat) : Task → Bool
  | .observe other _ | .observing other | .finish other => other == id
  | _ => false

@[grind] def Task.reports (id : Nat) : Task → Bool
  | .observe other _ => other == id
  | _ => false

def Known (id : Nat) (ticket : Int) : Prop :=
  .returned id (.accepted ticket) ∈ trace ∨ ∃ value, .captured id value ∈ trace ∧ value.ticket? = some ticket

structure Holding (id : Nat) (submission : Submission) : Prop where
  given : ∀ account, .released account id ∈ trace → account ∉ submission.held
  definite : submission.released = true → Definite trace id
  whole : submission.released = false →
    submission.localReleased = false ∧ submission.sharedReleased = false ∧ submission.retained ≠ some true

@[grind cases] structure Sound (stack : List Task) (id : Nat) (submission : Submission) : Prop where
  reported : trace.countP (Act.reports id) + stack.countP (Task.reports id) ≤ submission.settlementHandled.toNat
  handled : submission.settlementHandled = true → Settled trace id ∧ submission.admission ≠ none
  holding : Holding trace id submission
  counted : submission.settlementCallbacks ≠ 0 → .called id ∈ trace
  known : ∀ ticket, submission.admission = some ticket → Known trace id ticket
  early : ∀ value, submission.earlySettlement = some value → .captured id value ∈ trace
  handling : ∀ value, .handle id value ∈ stack → .captured id value ∈ trace
  closing : ∀ task ∈ stack, Task.closes id task = true → submission.settlementHandled = true
  opening : ∀ task ∈ stack, Task.opens id task = true →
    submission.admission = none ∧ submission.uncertainCall = false ∧
      (.called id ∈ trace → .capturing id ∈ stack ∨ submission.earlySettlement ≠ none)

variable {trace acts : List Act} {stack after popped pushed rest : List Task} {id other : Nat}
  {submission changed : Submission}

variable {ticket : Int}

@[grind ←] theorem Known.append (known : Known trace id ticket) (acts : List Act) :
    Known (trace ++ acts) id ticket := by
  rcases known with accepted | ⟨value, captured, named⟩
  · exact .inl (mem_append_left acts accepted)
  · exact .inr ⟨value, mem_append_left acts captured, named⟩

theorem reports_id {act : Act} (reports : Act.reports id act = true) : Act.id? act = some id := by
  cases act <;> simp_all [Act.reports]

variable {task : Task}

theorem task_reports_id (reports : Task.reports id task = true) : Task.id? task = some id := by
  cases task <;> simp_all [Task.reports]

theorem opens_id (opens : Task.opens id task = true) : Task.id? task = some id := by
  cases task <;> simp_all [Task.opens]

theorem closes_id (closes : Task.closes id task = true) : Task.id? task = some id := by
  cases task <;> simp_all [Task.closes]

variable {tasks : List Task}

theorem countP_of_aside (aside : ∀ task ∈ tasks, Task.id? task ≠ some id) : tasks.countP (Task.reports id) = 0 := by
  rw [countP_eq_zero]
  exact fun task member reports => aside task member (task_reports_id reports)

@[grind .] theorem Holding.keep (holding : Holding trace id submission) (unreleased : ∀ account, .released account id ∉ acts)
    (released : changed.released = submission.released) (run : changed.localReleased = submission.localReleased)
    (worker : changed.sharedReleased = submission.sharedReleased)
    (retained : changed.retained = submission.retained) : Holding (trace ++ acts) id changed := by
  have held : changed.held = submission.held := by
    unfold Submission.held
    rw [run, worker, retained]
  constructor
  · intro account member
    rw [held]
    rcases mem_append.mp member with old | new
    · exact holding.given account old
    · exact absurd new (unreleased account)
  · rw [released]
    exact fun given => (holding.definite given).append acts
  · rw [released, run, worker, retained]
    exact holding.whole

theorem Sound.beside (sound : Sound trace (popped ++ rest) id submission)
    (acts_aside : ∀ act ∈ acts, Act.id? act ≠ some id) (popped_aside : ∀ task ∈ popped, Task.id? task ≠ some id)
    (pushed_aside : ∀ task ∈ pushed, Task.id? task ≠ some id) :
    Sound (trace ++ acts) (pushed ++ rest) id submission := by
  have unreported : acts.countP (Act.reports id) = 0 := by
    rw [countP_eq_zero]
    exact fun act member reports => acts_aside act member (reports_id reports)
  -- A task about this submission was there before.
  have kept : ∀ task ∈ pushed ++ rest, Task.id? task = some id → task ∈ popped ++ rest := by
    intro task member mine
    rcases mem_append.mp member with new | old
    · exact absurd mine (pushed_aside task new)
    · exact mem_append_right popped old
  constructor
  · have before := sound.reported
    rw [countP_append] at before
    rw [countP_append, countP_append, countP_of_aside pushed_aside]
    omega
  · intro handled
    exact ⟨(sound.handled handled).1.append acts, (sound.handled handled).2⟩
  · exact sound.holding.keep (fun account member => acts_aside _ member rfl) rfl rfl rfl rfl
  · exact fun some_calls => mem_append_left acts (sound.counted some_calls)
  · exact fun ticket admission => (sound.known ticket admission).append acts
  · exact fun value early => mem_append_left acts (sound.early value early)
  · exact fun value handling => mem_append_left acts (sound.handling value (kept _ handling rfl))
  · exact fun task member closes => sound.closing task (kept task member (closes_id closes)) closes
  · intro task member opens
    obtain ⟨admission, certain, settled⟩ := sound.opening task (kept task member (opens_id opens)) opens
    refine ⟨admission, certain, ?_⟩
    intro called
    rcases mem_append.mp called with old | new
    · rcases settled old with capturing | early
      · rcases mem_append.mp capturing with top | below
        · exact absurd rfl (popped_aside _ top)
        · exact .inl (mem_append_right pushed below)
      · exact .inr early
    · exact absurd rfl (acts_aside _ new)

/-! ## All submissions -/

/-- Above a native call lies nothing of the settlement it waits for, and a call is made once. -/
def Task.Above (upper lower : Task) : Prop :=
  ∀ id, Task.opens id upper = true → lower ≠ .capturing id ∧ Task.opens id lower = false

/-- What an act has to meet, judged by the acts before it. -/
def Law (before : List Act) : Act → Prop
  | .reported id _ => before.countP (Act.reports id) = 0
  | .released account id => .released account id ∉ before ∧ Definite before id
  | .entered run _ => ∀ reason, .fault run reason ∉ before
  | _ => True

structure Inv (inputs : Inputs) : Prop where
  sound : ∀ id submission, inputs.submissions[id]? = some submission →
    Sound inputs.trace inputs.stack id submission
  acts_known : ∀ act ∈ inputs.trace, ∀ id, Act.id? act = some id → id < inputs.submissions.length
  tasks_known : ∀ task ∈ inputs.stack, ∀ id, Task.id? task = some id → id < inputs.submissions.length
  order : inputs.stack.Pairwise Task.Above
  lawful : Lawful Law inputs.trace
  fenced : ∀ run reason, .fault run reason ∈ inputs.trace → (inputs.controllers run).fenced = true
  retiring : ∀ run, .retireWriter run ∈ inputs.stack ∨ .disposing run ∈ inputs.stack →
    (inputs.controllers run).fenced = true

variable {s next : Inputs}

/-- A task that a step of this submission may leave. -/
@[simp] def Task.own (id : Nat) : Task → Bool
  | .fault .. => true
  | task => id? task == some id

@[simp] def Act.own (id : Nat) (act : Act) : Bool := Act.id? act == some id

theorem Task.own_cases (own : own id task = true) : (∃ run reason, task = .fault run reason) ∨ id? task = some id := by
  cases task <;> simp_all

theorem Task.own_aside (own : own id task = true) (different : id ≠ other) : id? task ≠ some other := by
  rcases own_cases own with ⟨run, reason, rfl⟩ | mine
  · exact nofun
  · rw [mine]
    exact fun same => different (some.inj same)

theorem Task.own_not_retiring (own : own id task = true) (run : Nat) :
    task ≠ .retireWriter run ∧ task ≠ .disposing run := by
  constructor <;> rintro rfl <;> cases own

theorem Act.own_id {act : Act} (own : Act.own id act = true) : Act.id? act = some id := by
  simpa [Act.own] using own

theorem above_of_quiet {upper : Task} (quiet : ∀ id, Task.opens id upper = false) (lower : Task) :
    Task.Above upper lower := by
  intro id opens
  rw [quiet] at opens
  cases opens

theorem order_push (order : rest.Pairwise Task.Above)
    (quiet : ∀ task ∈ pushed, ∀ id, Task.opens id task = false) : (pushed ++ rest).Pairwise Task.Above := by
  rw [pairwise_append]
  refine ⟨?_, order, ?_⟩
  · exact pairwise_of_forall_mem_list (fun upper member lower _ => above_of_quiet (quiet upper member) lower)
  · exact fun upper member lower _ => above_of_quiet (quiet upper member) lower

theorem Inv.onward (inv : Inv s) (stack_before : s.stack = popped ++ rest)
    (stack_after : next.stack = pushed ++ rest) (trace_after : next.trace = s.trace ++ acts)
    (more : s.submissions.length ≤ next.submissions.length)
    (sound : ∀ other sibling, next.submissions[other]? = some sibling →
      Sound (s.trace ++ acts) (pushed ++ rest) other sibling)
    (acts_known : ∀ act ∈ acts, ∀ id, Act.id? act = some id → id < next.submissions.length)
    (tasks_known : ∀ task ∈ pushed, ∀ id, Task.id? task = some id → id < next.submissions.length)
    (order : (pushed ++ rest).Pairwise Task.Above)
    (lawful : ∀ before act after, acts = before ++ act :: after → Law (s.trace ++ before) act)
    (fenced : ∀ run, (s.controllers run).fenced = true → (next.controllers run).fenced = true)
    (faulted : ∀ run reason, .fault run reason ∈ acts → (next.controllers run).fenced = true)
    (retiring : ∀ run, .retireWriter run ∈ pushed ∨ .disposing run ∈ pushed → (next.controllers run).fenced = true) :
    Inv next := by
  constructor
  · rw [trace_after, stack_after]
    exact sound
  · intro act member about mine
    rw [trace_after] at member
    rcases mem_append.mp member with old | new
    · exact (inv.acts_known act old about mine).trans_le more
    · exact acts_known act new about mine
  · intro task member about mine
    rw [stack_after] at member
    rcases mem_append.mp member with new | old
    · exact tasks_known task new about mine
    · exact (inv.tasks_known task (stack_before ▸ mem_append_right popped old) about mine).trans_le more
  · rw [stack_after]
    exact order
  · rw [trace_after]
    exact inv.lawful.extend lawful
  · intro run reason member
    rw [trace_after] at member
    rcases mem_append.mp member with old | new
    · exact fenced run (inv.fenced run reason old)
    · exact faulted run reason new
  · intro run member
    rw [stack_after] at member
    by_cases new : .retireWriter run ∈ pushed ∨ .disposing run ∈ pushed
    · exact retiring run new
    apply fenced run (inv.retiring run _)
    rw [stack_before]
    rw [not_or] at new
    rcases member with first | second
    · exact .inl (mem_append_right popped ((mem_append.mp first).resolve_left new.1))
    · exact .inr (mem_append_right popped ((mem_append.mp second).resolve_left new.2))

/-- A step that concerns one submission only. -/
structure Own (s next : Inputs) (id : Nat) (submission changed : Submission) (popped pushed rest : List Task)
    (acts : List Act) : Prop where
  found : s.submissions[id]? = some submission
  stack_before : s.stack = popped ++ rest
  stack_after : next.stack = pushed ++ rest
  trace_after : next.trace = s.trace ++ acts
  submissions : next.submissions = s.submissions.set id changed
  popped_own : ∀ task ∈ popped, Task.own id task = true
  pushed_own : ∀ task ∈ pushed, Task.own id task = true
  acts_own : ∀ act ∈ acts, Act.own id act = true
  lawful : ∀ before act after, acts = before ++ act :: after → Law (s.trace ++ before) act
  order : (pushed ++ rest).Pairwise Task.Above
  sound : Sound (s.trace ++ acts) (pushed ++ rest) id changed

theorem Inv.own (inv : Inv s) (own : Own s next id submission changed popped pushed rest acts)
    (fenced : ∀ run, (next.controllers run).fenced = (s.controllers run).fenced) : Inv next := by
  obtain ⟨found, stack_before, stack_after, trace_after, submissions, popped_own, pushed_own, acts_own, lawful, order,
    sound⟩ := own
  obtain ⟨inside, here⟩ := List.getElem?_eq_some_iff.mp found
  have length : next.submissions.length = s.submissions.length := by rw [submissions, length_set]
  refine inv.onward stack_before stack_after trace_after length.ge ?_ ?_ ?_ order lawful
    (fun run => (fenced run).trans) ?_ ?_
  · intro other sibling there
    rw [submissions] at there
    by_cases same : id = other
    · subst same
      rw [getElem?_set_self inside, Option.some.injEq] at there
      exact there ▸ sound
    · rw [getElem?_set_ne same] at there
      have before := inv.sound other sibling there
      rw [stack_before] at before
      apply before.beside
      · intro act member
        rw [Act.own_id (acts_own act member)]
        exact fun mine => same (some.inj mine)
      · exact fun task member => Task.own_aside (popped_own task member) same
      · exact fun task member => Task.own_aside (pushed_own task member) same
  · intro act member about mine
    rw [Act.own_id (acts_own act member)] at mine
    exact length ▸ some.inj mine ▸ inside
  · intro task member about mine
    rcases Task.own_cases (pushed_own task member) with ⟨run, reason, rfl⟩ | same
    · cases mine
    · exact length ▸ some.inj (same.symm.trans mine) ▸ inside
  · intro run reason member
    cases Act.own_id (acts_own _ member)
  · rintro run (retires | disposes)
    · exact absurd rfl (Task.own_not_retiring (pushed_own _ retires) run).1
    · exact absurd rfl (Task.own_not_retiring (pushed_own _ disposes) run).2

theorem Inv.apart (inv : Inv s) (stack_before : s.stack = popped ++ rest)
    (stack_after : next.stack = pushed ++ rest) (trace_after : next.trace = s.trace ++ acts)
    (submissions : next.submissions = s.submissions)
    (popped_apart : ∀ task ∈ popped, Task.id? task = none) (pushed_apart : ∀ task ∈ pushed, Task.id? task = none)
    (acts_apart : ∀ act ∈ acts, Act.id? act = none)
    (fenced : ∀ run, (s.controllers run).fenced = true → (next.controllers run).fenced = true)
    (faulted : ∀ run reason, .fault run reason ∈ acts → (next.controllers run).fenced = true)
    (retiring : ∀ run, .retireWriter run ∈ pushed ∨ .disposing run ∈ pushed → (next.controllers run).fenced = true) :
    Inv next := by
  have order := inv.order
  rw [stack_before] at order
  refine inv.onward stack_before stack_after trace_after (by rw [submissions]) ?_ ?_ ?_
    (order_push (pairwise_append.mp order).2.1 ?_) ?_ fenced faulted retiring
  · intro other sibling there
    rw [submissions] at there
    have before := inv.sound other sibling there
    rw [stack_before] at before
    exact before.beside (fun act member => by rw [acts_apart act member]; exact nofun)
      (fun task member => by rw [popped_apart task member]; exact nofun)
      (fun task member => by rw [pushed_apart task member]; exact nofun)
  · exact fun act member about mine => by cases (acts_apart act member).symm.trans mine
  · exact fun task member about mine => by cases (pushed_apart task member).symm.trans mine
  · intro task member id
    have none := pushed_apart task member
    cases task <;> simp_all [Task.opens]
  · intro before act after split
    have none := acts_apart act (split ▸ by simp)
    cases act <;> simp_all [Law]

theorem Inv.pop (inv : Inv s) (top : s.stack = task :: rest) (apart : Task.id? task = none) :
    Inv { s with stack := rest } :=
  inv.apart (show s.stack = [task] ++ rest from top) (nil_append _).symm (append_nil _).symm rfl (by simpa using apart)
    (by simp) (by simp) (fun _ fenced => fenced) (by simp) (by simp)

/-! ## What the budgets hold -/

/-- A submission as a budget sees it, with what it counts for. -/
def entry (released : Submission → Bool) (weight : Submission → Int) (submission : Submission) : Entry Nat :=
  ⟨submission.controller, weight submission, !released submission⟩

def bytes (submission : Submission) : Int := submission.byteLength

def one (_ : Submission) : Int := 1

/-- A budget has allocated what the submissions that were not given back to it add up to. -/
def Covers (budget : InputBudget) (chosen : Nat → Bool) (released : Submission → Bool)
    (submissions : List Submission) : Prop :=
  budget.allocatedBytes = owed chosen (submissions.map (entry released bytes)) ∧
    budget.tasks = owed chosen (submissions.map (entry released one))

structure Books (inputs : Inputs) : Prop where
  run : ∀ run, Covers (inputs.controllers run).localBudget (· == run) Submission.localReleased inputs.submissions
  worker : Covers inputs.sharedBudget (fun _ => true) Submission.sharedReleased inputs.submissions

variable {budget : InputBudget} {chosen : Nat → Bool} {released : Submission → Bool} {submissions : List Submission}

variable {charged : InputBudget} {retained : Option Bool} {byteLength : Nat}

section

variable (covers : Covers budget chosen released submissions)
include covers

section

variable (found : submissions[id]? = some submission)
include found

theorem Covers.same
    (controller : changed.controller = submission.controller) (length : changed.byteLength = submission.byteLength)
    (given : released changed = released submission) : Covers budget chosen released (submissions.set id changed) := by
  have kept : ∀ weight : Submission → Int, weight changed = weight submission →
      (submissions.set id changed).map (entry released weight) = submissions.map (entry released weight) := by
    intro weight weighs
    obtain ⟨inside, rfl⟩ := List.getElem?_eq_some_iff.mp found
    have alike : entry released weight changed = entry released weight submissions[id] := by
      unfold entry
      rw [controller, weighs, given]
    rw [map_set, alike, ← map_set, set_getElem_self]
  unfold Covers
  rw [kept bytes (by unfold bytes; rw [length]), kept one rfl]
  exact covers

theorem Covers.release (controller : changed.controller = submission.controller)
    (length : changed.byteLength = submission.byteLength) (unreleased : released submission = false)
    (given : released changed = true) (mine : chosen submission.controller = true) :
    Covers (budget.release submission.byteLength false) chosen released (submissions.set id changed) := by
  have closed : ∀ weight : Submission → Int, weight changed = weight submission →
      owed chosen ((submissions.set id changed).map (entry released weight)) =
        owed chosen (submissions.map (entry released weight)) - weight submission := by
    intro weight weighs
    have got : (submissions.map (entry released weight))[id]? = some (entry released weight submission) := by
      rw [getElem?_map, found]
      rfl
    have alike : entry released weight changed = { entry released weight submission with live := false } := by
      simp only [entry, controller, weighs, given, Bool.not_true]
    rw [map_set, alike, owed_close chosen got (by simp [entry, unreleased])]
    simp [entry, mine]
  obtain ⟨allocated, tasks⟩ := covers
  refine ⟨?_, ?_⟩
  · rw [closed bytes (by unfold bytes; rw [length]), ← allocated]
    rfl
  · rw [closed one rfl, ← tasks]
    rfl

theorem Covers.elsewhere (controller : changed.controller = submission.controller)
    (other : chosen submission.controller = false) : Covers budget chosen released (submissions.set id changed) := by
  have kept : ∀ weight : Submission → Int,
      owed chosen ((submissions.set id changed).map (entry released weight)) =
        owed chosen (submissions.map (entry released weight)) := by
    intro weight
    have got : (submissions.map (entry released weight))[id]? = some (entry released weight submission) := by
      rw [getElem?_map, found]
      rfl
    rw [map_set, owed_set chosen got]
    simp [Entry.share, entry, controller, other]
  exact ⟨covers.1.trans (kept bytes).symm, covers.2.trans (kept one).symm⟩

end

theorem Covers.enter (room : budget.reserve changed.byteLength = .ok charged) (fresh : released changed = false)
    (mine : chosen changed.controller = true) : Covers charged chosen released (submissions ++ [changed]) := by
  have opened : ∀ weight : Submission → Int,
      owed chosen ((submissions ++ [changed]).map (entry released weight)) =
        owed chosen (submissions.map (entry released weight)) + weight changed := by
    intro weight
    have alive : entry released weight changed = ⟨changed.controller, weight changed, true⟩ := by
      simp only [entry, fresh, Bool.not_false]
    rw [map_append, map_singleton, alive, owed_open, if_pos mine]
  obtain ⟨allocated, tasks⟩ := covers
  unfold InputBudget.reserve at room
  split at room
  · cases room
  split at room
  · cases room
  obtain rfl := Except.ok.inj room
  exact ⟨by rw [opened, ← allocated]; rfl, by rw [opened, ← tasks]; rfl⟩

theorem Covers.enter_elsewhere
    (other : chosen changed.controller = false) : Covers budget chosen released (submissions ++ [changed]) := by
  have kept : ∀ weight : Submission → Int,
      owed chosen ((submissions ++ [changed]).map (entry released weight)) =
        owed chosen (submissions.map (entry released weight)) := by
    simp [owed, Entry.share, entry, other]
  exact ⟨covers.1.trans (kept bytes).symm, covers.2.trans (kept one).symm⟩

theorem Covers.give_back (room : budget.reserve byteLength = .ok charged) :
    Covers (charged.release byteLength false) chosen released submissions := by
  unfold InputBudget.reserve at room
  split at room
  · cases room
  split at room
  · cases room
  obtain rfl := Except.ok.inj room
  obtain ⟨allocated, tasks⟩ := covers
  refine ⟨?_, ?_⟩
  · rw [← allocated]
    simp [InputBudget.release]
  · rw [← tasks]
    simp [InputBudget.release]

end

theorem Books.record (books : Books s) (acts : List Act) : Books (s.record acts) := ⟨books.run, books.worker⟩

theorem Books.push (books : Books s) (tasks : List Task) : Books (s.push tasks) := ⟨books.run, books.worker⟩

theorem Books.setController (books : Books s) {run : Nat} {controller : Controller}
    (budget : controller.localBudget = (s.controllers run).localBudget) : Books (s.setController run controller) := by
  refine ⟨?_, books.worker⟩
  intro other
  dsimp only [Inputs.setController]
  by_cases here : other = run
  · subst here
    rw [update_self, budget]
    exact books.run other
  · rw [update_of_ne here]
    exact books.run other

def Whole (submission : Submission) : Prop :=
  submission.released = false → submission.localReleased = false ∧ submission.sharedReleased = false

theorem Inv.whole (inv : Inv s) (found : s.submissions[id]? = some submission) : Whole submission := by
  intro unreleased
  obtain ⟨run, worker, -⟩ := (inv.sound id submission found).holding.whole unreleased
  exact ⟨run, worker⟩

section

variable (books : Books s)
include books

theorem release_books (found : s.submissions[id]? = some submission)
    (whole : Whole submission) : Books (s.release id submission) := by
  unfold release
  split
  next => exact books
  rename_i unreleased
  obtain ⟨run, worker⟩ := whole (Bool.eq_false_iff.mpr unreleased)
  constructor
  · intro other
    dsimp only
    by_cases same : other = submission.controller
    · subst same
      rw [update_self, run]
      exact (books.run _).release found rfl rfl run rfl (beq_self_eq_true _)
    · rw [update_of_ne same]
      exact (books.run other).elsewhere found rfl (by simpa using Ne.symm same)
  · rw [worker]
    exact books.worker.release found rfl rfl worker rfl rfl

theorem enter_books {run : Nat} {origin : NativeInputOrigin} {shared : InputBudget} (room : (s.controllers run).localBudget.reserve byteLength = .ok charged)
    (fits : s.sharedBudget.reserve byteLength = .ok shared) :
    Books (s.enter run byteLength origin retained charged shared) := by
  constructor
  · intro other
    dsimp only [enter]
    by_cases same : other = run
    · subst same
      rw [update_self]
      exact (books.run other).enter room rfl (beq_self_eq_true _)
    · rw [update_of_ne same]
      exact (books.run other).enter_elsewhere (by simpa using Ne.symm same)
  · exact books.worker.enter fits rfl rfl

end

structure Good (inputs : Inputs) : Prop where
  inv : Inv inputs
  books : Books inputs

/-! ## The steps of one submission -/

theorem law_single {act : Act} (law : Law trace act) (before : List Act) (entry : Act) (after : List Act)
    (split : [act] = before ++ entry :: after) : Law (trace ++ before) entry := by
  cases before with
  | nil =>
    obtain ⟨rfl, -⟩ := List.cons.inj split
    simpa using law
  | cons => simp at split

/-- The budgets, and what a submission counts for in them. -/
def accounts (s : Inputs) (submission : Submission) :=
  (s.controllers, s.sharedBudget, submission.controller, submission.byteLength, submission.localReleased,
    submission.sharedReleased)

theorem Good.own (good : Good s) (own : Own s next id submission changed popped pushed rest acts)
    (aside : accounts next changed = accounts s submission) : Good next := by
  simp only [accounts, Prod.mk.injEq] at aside
  obtain ⟨controllers, sharedBudget, controller, length, run, worker⟩ := aside
  refine ⟨good.inv.own own (fun run => by rw [controllers]), ?_⟩
  constructor
  · intro other
    rw [controllers, own.submissions]
    exact (good.books.run other).same own.found controller length run
  · rw [sharedBudget, own.submissions]
    exact good.books.worker.same own.found controller length worker

theorem nativeSettlement_good (good : Good s) (id : Nat) : Good (s.nativeSettlement id) := by
  unfold nativeSettlement
  split
  next => exact good
  rename_i submission found
  have sound := good.inv.sound id submission found
  split
  all_goals
    refine good.own ⟨found, (nil_append _).symm, rfl, rfl, rfl, ?_, ?_, ?_, law_single trivial,
      order_push good.inv.order ?_, ?_⟩ rfl
    · simp
    · simp
    · simp
    · simp [Task.opens]
    · constructor <;> grind

theorem Inv.about_top (inv : Inv s) (top : s.stack = task :: rest) (about : Task.id? task = some id) :
    ∃ submission, s.submissions[id]? = some submission ∧ Sound s.trace (task :: rest) id submission := by
  have inside := inv.tasks_known task (by rw [top]; exact mem_cons_self) id about
  have found := getElem?_eq_getElem inside
  exact ⟨_, found, top ▸ inv.sound id _ found⟩

theorem set_unchanged (found : s.submissions[id]? = some submission) :
    s.submissions = s.submissions.set id submission := by
  obtain ⟨inside, rfl⟩ := List.getElem?_eq_some_iff.mp found
  exact (set_getElem_self inside).symm

@[simp] def Task.follows (id : Nat) : Task → Bool
  | .fault .. => true
  | .writing _ | .parsing _ => false
  | task => id? task == some id

theorem Task.follows_own (follows : follows id task = true) : own id task = true := by
  cases task <;> simp_all [Task.own]

theorem Task.follows_quiet (follows : Task.follows id task = true) (other : Nat) : Task.opens other task = false := by
  cases task <;> simp_all [Task.opens]

theorem Good.top (good : Good s) (top : s.stack = task :: rest) (found : s.submissions[id]? = some submission)
    (stack_after : next.stack = pushed ++ rest) (trace_after : next.trace = s.trace ++ acts)
    (submissions : next.submissions = s.submissions.set id changed)
    (aside : accounts next changed = accounts s submission) (about : Task.id? task = some id)
    (follows : ∀ task ∈ pushed, Task.follows id task = true)
    (acts_own : ∀ act ∈ acts, Act.own id act = true)
    (lawful : ∀ before act after, acts = before ++ act :: after → Law (s.trace ++ before) act)
    (sound : Sound (s.trace ++ acts) (pushed ++ rest) id changed) : Good next := by
  refine good.own ⟨found, show s.stack = [task] ++ rest from top, stack_after, trace_after, submissions, ?_,
    fun task member => Task.follows_own (follows task member), acts_own, lawful, ?_, sound⟩ aside
  · intro task' member
    obtain rfl := mem_singleton.mp member
    cases task' <;> simp_all [Task.own]
  · have order := good.inv.order
    rw [top] at order
    exact order_push (pairwise_cons.mp order).2 (fun task member => Task.follows_quiet (follows task member))

theorem captured_good (good : Good s) (top : s.stack = .capturing id :: rest) (raw : RawSettlement) :
    Good ({ s with stack := rest }.captured id raw) := by
  obtain ⟨submission, found, sound⟩ := good.inv.about_top top rfl
  simp only [captured, found]
  split
  next ticket admitted =>
    refine good.top top found rfl rfl (set_unchanged found) rfl rfl (by simp) (by simp) (law_single trivial) ?_
    constructor <;> grind
  next unadmitted =>
    split
    next ticket uncertain named =>
      refine good.top top found rfl rfl rfl rfl rfl (by simp) (by simp) (law_single trivial) ?_
      constructor
      case known =>
        intro other same
        obtain rfl := some.inj same
        exact .inr ⟨_, mem_append_right _ mem_cons_self, named⟩
      all_goals grind
    next =>
      refine good.top top found (nil_append rest).symm rfl rfl rfl rfl (by simp) (by simp) (law_single trivial) ?_
      constructor <;> grind

theorem Good.drop (good : Good s) (top : s.stack = task :: rest)
    (about : Task.id? task = some id) (silent : Task.reports id task = false) (settled : task ≠ .capturing id) :
    Good { s with stack := rest } := by
  obtain ⟨submission, found, sound⟩ := good.inv.about_top top about
  refine good.top top found (nil_append rest).symm (append_nil _).symm (set_unchanged found) rfl about
    (by simp) (by simp) (by simp) ?_
  constructor <;> grind

theorem Known.settled {value : CapturedSettlement} (known : Known trace id ticket)
    (captured : .captured id value ∈ trace) : Settled trace id := by
  rcases known with accepted | ⟨first, seen, named⟩
  · exact ⟨value, captured, .inr ⟨ticket, accepted⟩⟩
  · exact ⟨first, seen, .inl (by rw [named]; rfl)⟩

theorem handleSettlement_good (good : Good s) {value : CapturedSettlement}
    (top : s.stack = .handle id value :: rest) : Good ({ s with stack := rest }.handleSettlement id value) := by
  obtain ⟨submission, found, sound⟩ := good.inv.about_top top rfl
  have ignored : Good { s with stack := rest } := good.drop top rfl rfl nofun
  simp only [handleSettlement, found]
  split
  next => exact ignored
  rename_i ticket admitted
  split
  next => exact ignored
  rename_i unhandled
  have settled := (sound.known ticket admitted).settled (sound.handling value mem_cons_self)
  refine good.top top found rfl (append_nil _).symm rfl rfl rfl ?_ ?_ ?_ ?_
  · cases (settlementResult value ticket submission.byteLength).fault? <;> simp [Task.id?]
  · simp
  · simp
  · constructor
    all_goals cases (settlementResult value ticket submission.byteLength).fault? <;> grind

theorem observe_good (good : Good s) {result : NativeInputSettlement} (top : s.stack = .observe id result :: rest) :
    Good (({ s with stack := rest }.record [.reported id result]).push [.observing id]) := by
  obtain ⟨submission, found, sound⟩ := good.inv.about_top top rfl
  -- The report that waits is the only one, so none was made.
  have first : s.trace.countP (Act.reports id) = 0 := by
    have once : submission.settlementHandled.toNat ≤ 1 := Bool.toNat_le _
    have reported := sound.reported
    rw [countP_cons_of_pos (by simp [Task.reports])] at reported
    omega
  refine good.top top found rfl rfl (set_unchanged found) rfl rfl (by simp) (by simp) (law_single first) ?_
  constructor <;> grind

theorem observed_good (good : Good s) (top : s.stack = .observing id :: rest) (threw : Bool) :
    Good ({ s with stack := rest }.observed id threw) := by
  obtain ⟨submission, found, sound⟩ := good.inv.about_top top rfl
  have told := sound.closing (.observing id) mem_cons_self (by simp [Task.closes])
  simp only [observed, found]
  refine good.top top found rfl (append_nil _).symm (set_unchanged found) rfl rfl ?_ ?_ ?_ ?_
  · cases threw <;> simp [Task.id?]
  · simp
  · simp
  · constructor
    all_goals cases threw <;> grind

@[grind] def Task.ends (id : Nat) : Task → Bool
  | .fault .. => true
  | .answer other _ => other == id
  | _ => false

theorem Task.ends_follows (ends : Task.ends id task = true) : Task.follows id task = true := by
  cases task <;> simp_all [Task.ends]

@[grind →] theorem Task.ends_plain (ends : ends id task = true) :
    reports id task = false ∧ opens id task = false ∧ closes id task = false ∧
      ∀ value, task ≠ .handle id value := by
  cases task <;> simp_all [Task.ends, Task.reports, Task.opens, Task.closes]

@[grind →] theorem Task.opens_plain (opens : Task.opens id task = true) :
    Task.reports id task = false ∧ Task.closes id task = false ∧ ∀ value, task ≠ .handle id value := by
  cases task <;> simp_all [Task.reports, Task.opens, Task.closes]

/-- No other native call of a submission is under way beneath one, and no settlement is being read there. -/
theorem Inv.sole (inv : Inv s) (top : s.stack = task :: rest)
    (opens : Task.opens id task = true) : .capturing id ∉ rest ∧ ∀ lower ∈ rest, Task.opens id lower = false := by
  have order := inv.order
  rw [top] at order
  constructor
  · exact fun member => (rel_of_pairwise_cons order member id opens).1 rfl
  · exact fun lower member => (rel_of_pairwise_cons order member id opens).2

section

variable (good : Good s)
include good

/-- The outcome of the native call is not known, and nothing that came in tells it. -/
theorem uncertain_good (top : s.stack = task :: rest)
    (opens : Task.opens id task = true) (found : s.submissions[id]? = some submission) (outcome : ParsedAdmission) (ends : ∀ later ∈ tasks, Task.ends id later = true) :
    Good ((({ s with stack := rest }.record [.returned id outcome]).setSubmission id
      { submission with uncertainCall := true }).push tasks) := by
  have sound := good.inv.sound id submission found
  obtain ⟨-, last⟩ := good.inv.sole top opens
  have silent : tasks.countP (Task.reports id) = 0 := by
    grind
  refine good.top top found rfl rfl rfl rfl (opens_id opens) ?_ ?_ (law_single trivial) ?_
  · exact fun later member => Task.ends_follows (ends later member)
  · simp [Act.own]
  · constructor <;> grind

/-- The outcome of the native call is not known, but a settlement came in that names a ticket. -/
theorem uncertain_named_good (top : s.stack = task :: rest)
    (opens : Task.opens id task = true) (found : s.submissions[id]? = some submission) (outcome : ParsedAdmission)
    {captured : CapturedSettlement} (seen : submission.earlySettlement = some captured)
    (named : captured.ticket? = some ticket) (ends : ∀ later ∈ tasks, Task.ends id later = true) :
    Good ((({ s with stack := rest }.record [.returned id outcome]).setSubmission id
      { submission with uncertainCall := true, admission := some ticket }).push (.handle id captured :: tasks)) := by
  have sound := good.inv.sound id submission found
  obtain ⟨-, last⟩ := good.inv.sole top opens
  have there := sound.early captured seen
  have silent : tasks.countP (Task.reports id) = 0 := by
    grind
  refine good.top top found rfl rfl rfl rfl (opens_id opens) ?_ ?_ (law_single trivial) ?_
  · intro later member
    rcases mem_cons.mp member with rfl | below
    · simp [Task.follows, Task.id?]
    · exact Task.ends_follows (ends later below)
  · simp [Act.own, Act.id?]
  · constructor
    case known =>
      intro other same
      obtain rfl := some.inj same
      exact .inr ⟨captured, mem_append_left _ there, named⟩
    all_goals grind

theorem writeThrew_good (top : s.stack = .writing id :: rest) : Good ({ s with stack := rest }.writeThrew id) := by
  obtain ⟨submission, found, -⟩ := good.inv.about_top top rfl
  have opens : Task.opens id (.writing id) = true := by simp [Task.opens]
  simp only [writeThrew, found]
  split
  next captured ticket seen named =>
    rw [seen] at named
    exact uncertain_named_good good top opens found .threw seen named (by simp [Task.ends])
  next => exact uncertain_good good top opens found .threw (by simp [Task.ends])

theorem wrote_good (top : s.stack = .writing id :: rest) : Good ({ s with stack := rest }.push [.parsing id]) := by
  obtain ⟨submission, found, sound⟩ := good.inv.about_top top rfl
  have order := good.inv.order
  rw [top] at order
  refine good.own ⟨found, show s.stack = [.writing id] ++ rest from top, rfl, (append_nil _).symm, set_unchanged found,
    ?_, ?_, ?_, ?_, ?_, ?_⟩ rfl
  · simp [Task.id?]
  · simp [Task.id?]
  · simp
  · simp
  · rw [singleton_append, pairwise_cons]
    refine ⟨?_, (pairwise_cons.mp order).2⟩
    intro lower member other opens
    exact rel_of_pairwise_cons order member other (by simpa [Task.opens] using opens)
  · constructor
    case opening =>
      obtain ⟨admission, certain, settled⟩ := sound.opening (.writing id) mem_cons_self (by simp [Task.opens])
      grind
    all_goals grind

theorem answer_good {admission : NativeInputAdmission} (top : s.stack = .answer id admission :: rest) :
    Good ({ s with stack := rest }.record [.answered id admission]) := by
  obtain ⟨submission, found, sound⟩ := good.inv.about_top top rfl
  refine good.top top found (nil_append rest).symm rfl (set_unchanged found) rfl rfl (by simp) (by simp)
    (law_single trivial) ?_
  constructor <;> grind

/-! ## Giving back -/

end

theorem held_nodup (submission : Submission) : submission.held.Nodup := by
  unfold Submission.held
  split <;> split <;> split <;> decide

theorem release_lawful (holding : Holding trace id submission) (definite : Definite trace id)
    (before : List Act) (act : Act) (after : List Act)
    (split : submission.held.map (fun account => Act.released account id) = before ++ act :: after) :
    Law (trace ++ before) act := by
  obtain ⟨earlier, later, accounts, rfl, last⟩ := map_eq_append_iff.mp split
  obtain ⟨account, others, rfl, rfl, -⟩ := map_eq_cons_iff.mp last
  have distinct := held_nodup submission
  rw [accounts] at distinct
  refine ⟨?_, definite.append _⟩
  intro again
  rcases mem_append.mp again with old | now
  · exact holding.given account old (by rw [accounts]; simp)
  obtain ⟨same, inside, eq⟩ := List.mem_map.mp now
  obtain rfl : same = account := by injection eq
  have apart := nodup_append.mp distinct
  exact apart.2.2 same inside same mem_cons_self rfl

theorem release_inv (inv : Inv s) (found : s.submissions[id]? = some submission)
    (definite : Definite s.trace id) : Inv (s.release id submission) := by
  have sound := inv.sound id submission found
  unfold release
  split
  next => exact inv
  rename_i unreleased
  refine inv.own ⟨found, (nil_append _).symm, (nil_append _).symm, rfl, rfl, ?_, ?_, ?_,
    release_lawful sound.holding definite, inv.order, ?_⟩ ?_
  rotate_right
  · intro run
    dsimp only
    by_cases same : run = submission.controller
    · rw [same, update_self]
    · rw [update_of_ne same]
  · simp
  · simp
  · simp [Act.id?]
  · constructor
    case holding =>
      constructor
      · cases submission.retained <;> simp [Submission.held]
      · exact fun _ => definite.append _
      · exact nofun
    case reported =>
      have silent : (submission.held.map (fun account => Act.released account id)).countP (Act.reports id) = 0 := by
        grind
      rw [countP_append, silent]
      exact sound.reported
    all_goals grind

theorem release_good (good : Good s) (found : s.submissions[id]? = some submission)
    (definite : Definite s.trace id) : Good (s.release id submission) :=
  ⟨release_inv good.inv found definite, release_books good.books found (good.inv.whole found)⟩

theorem finish_good (good : Good s) (top : s.stack = .finish id :: rest) :
    Good ({ s with stack := rest }.finish id) := by
  obtain ⟨submission, found, sound⟩ := good.inv.about_top top rfl
  have told := sound.closing (.finish id) mem_cons_self (by simp [Task.closes])
  simp only [Inputs.finish, found]
  obtain ⟨inside, here⟩ := List.getElem?_eq_some_iff.mp found
  refine release_good ?_ (getElem?_set_self inside) (.inr (sound.handled told).1)
  refine good.top top found (nil_append rest).symm (append_nil _).symm rfl rfl rfl (by simp)
    (by simp) (by simp) ?_
  constructor <;> grind

theorem release_push (s : Inputs) (id : Nat) (submission : Submission) (tasks : List Task) :
    (s.release id submission).push tasks = (s.push tasks).release id submission := by
  unfold release
  split <;> rfl

theorem admitted_good (good : Good s) (top : s.stack = .parsing id :: rest) (raw : RawAdmission) :
    Good ({ s with stack := rest }.admitted id raw) := by
  obtain ⟨submission, found, sound⟩ := good.inv.about_top top rfl
  have opens : Task.opens id (.parsing id) = true := by simp [Task.opens]
  obtain ⟨unread, last⟩ := good.inv.sole top opens
  obtain ⟨unadmitted, certain, settled⟩ := sound.opening (.parsing id) mem_cons_self opens
  simp only [admitted, found]
  split
  next threw => exact uncertain_good good top opens found _ (by simp [Task.ends])
  next ticket seen accepted =>
    refine good.top top found rfl rfl rfl rfl rfl ?_ ?_ (law_single trivial) ?_
    · cases submission.earlySettlement <;> simp [Task.follows, Task.id?]
    · simp [Act.own, Act.id?]
    · constructor
      case known =>
        intro other same
        obtain rfl := some.inj same
        rw [accepted]
        exact .inl (mem_append_right _ mem_cons_self)
      all_goals cases seen : submission.earlySettlement <;> grind
  next reason rejected unsettled =>
    -- Whatever settlement came in was read before the answer of the call was.
    have uncalled : .called id ∉ s.trace := by
      intro called
      rcases settled called with reading | early
      · rcases mem_cons.mp reading with same | below
        · cases same
        · exact unread below
      · exact early unsettled
    rw [release_push]
    refine release_good ?_ found (.inl ⟨s.trace, reason, [], by rw [rejected]; rfl, uncalled⟩)
    refine good.top top found rfl rfl (set_unchanged found) rfl rfl ?_ ?_ (law_single trivial) ?_
    · split <;> simp [Task.follows, Task.id?]
    · simp [Act.own, Act.id?]
    · constructor
      all_goals cases reason.unexpected <;> grind
  next =>
    split
    next captured ticket seen named =>
      rw [seen] at named
      exact uncertain_named_good good top opens found _ seen named (by simp [Task.ends])
    next => exact uncertain_good good top opens found _ (by simp [Task.ends])

/-! ## The steps of the controllers -/

theorem refuse_inv (inv : Inv s) {run : Nat} {reason : NativeInputRejectionReason}
    {controllers : Nat → Controller} {sharedBudget : InputBudget}
    (fenced : ∀ run, (controllers run).fenced = (s.controllers run).fenced) :
    Inv ({ s with controllers, sharedBudget }.refuse run reason) := by
  refine inv.apart (nil_append _).symm (nil_append _).symm rfl rfl (by simp) (by simp) (by simp [Act.id?]) ?_ ?_ ?_
  · exact fun other already => (fenced other).trans already
  · simp
  · simp

variable (controllers : Nat → Controller)

theorem fenced_update (run : Nat) (localBudget : InputBudget) (other : Nat) :
    (Function.update controllers run { controllers run with localBudget } other).fenced = (controllers other).fenced := by
  by_cases same : other = run
  · rw [same, update_self]
  · rw [update_of_ne same]

theorem Inv.fresh_sound (inv : Inv s) (run byteLength : Nat) (origin : NativeInputOrigin)
    (unreleased : retained ≠ some true) : Sound (s.trace ++ [.entered run s.submissions.length])
      ([.writing s.submissions.length] ++ s.stack) s.submissions.length
      { controller := run, byteLength, origin, retained, localReleased := false, sharedReleased := false
        released := false, admission := none, earlySettlement := none, uncertainCall := false
        settlementCallbacks := 0, settlementHandled := false } := by
  have acts : ∀ act ∈ s.trace, Act.id? act ≠ some s.submissions.length :=
    fun act member about => Nat.lt_irrefl _ (inv.acts_known act member _ about)
  have tasks : ∀ task ∈ s.stack, Task.id? task ≠ some s.submissions.length :=
    fun task member about => Nat.lt_irrefl _ (inv.tasks_known task member _ about)
  constructor
  case reported =>
    have none : s.trace.countP (Act.reports s.submissions.length) = 0 := by
      rw [countP_eq_zero]
      exact fun act member reports => acts act member (reports_id reports)
    simp [none, countP_of_aside tasks, Act.reports, Task.reports]
  case holding =>
    constructor
    · intro account member
      rcases mem_append.mp member with old | new
      · exact absurd rfl (acts _ old)
      · simp at new
    · exact nofun
    · exact fun _ => ⟨rfl, rfl, unreleased⟩
  case handling =>
    intro value member
    rcases mem_append.mp member with new | old
    · simp at new
    · exact absurd rfl (tasks _ old)
  case closing =>
    intro task member closes
    rcases mem_append.mp member with new | old
    · obtain rfl := mem_singleton.mp new
      cases closes
    · exact absurd (closes_id closes) (tasks task old)
  case opening =>
    refine fun task member opens => ⟨rfl, rfl, ?_⟩
    intro called
    rcases mem_append.mp called with old | new
    · exact absurd rfl (acts _ old)
    · simp at new
  all_goals simp

theorem enter_inv (inv : Inv s) {run : Nat} {origin : NativeInputOrigin}
    {localBudget sharedBudget : InputBudget} (unfenced : (s.controllers run).fenced = false)
    (unreleased : retained ≠ some true) : Inv (s.enter run byteLength origin retained localBudget sharedBudget) := by
  have fenced := fenced_update s.controllers run localBudget
  have tasks : ∀ task ∈ s.stack, Task.id? task ≠ some s.submissions.length :=
    fun task member about => Nat.lt_irrefl _ (inv.tasks_known task member _ about)
  refine inv.onward (nil_append _).symm (show _ = [.writing s.submissions.length] ++ s.stack from rfl) rfl
    ?_ ?_ ?_ ?_ ?_ (law_single ?_) (fun other => (fenced other).trans) ?_ ?_
  · change _ ≤ (s.submissions ++ [_]).length
    simp
  · intro other sibling there
    change (s.submissions ++ _)[other]? = some sibling at there
    rcases getElem?_snoc there with ⟨old, known⟩ | ⟨rfl, rfl⟩
    · have before := inv.sound other sibling known
      rw [← nil_append s.stack] at before
      refine before.beside ?_ (by simp) ?_
      · simpa using Nat.ne_of_gt old
      · simpa using Nat.ne_of_gt old
    · exact inv.fresh_sound run byteLength origin unreleased
  · simp [enter]
  · simp [enter]
  · apply pairwise_cons.mpr ⟨_, inv.order⟩
    intro lower member id opens
    obtain rfl : s.submissions.length = id := by simpa [Task.opens] using opens
    constructor
    · rintro rfl
      exact tasks _ member rfl
    · exact Bool.eq_false_iff.mpr (fun again => tasks lower member (opens_id again))
  · intro reason faulted
    rw [inv.fenced run reason faulted] at unfenced
    cases unfenced
  · simp
  · simp

theorem submit_good (good : Good s) (run : Nat) (request : Request) (grant : Grant) :
    Good (s.submit run request grant) := by
  obtain ⟨inv, books⟩ := good
  have refused : ∀ reason, Good (s.refuse run reason) := fun reason =>
    ⟨refuse_inv inv (fun _ => rfl), books.record _⟩
  unfold submit
  split
  next => exact refused _
  rename_i byteLength given
  by_cases empty : byteLength = 0
  · rw [if_pos empty]
    exact refused _
  by_cases callback : (!request.callback) = true
  · rw [if_neg empty, if_pos callback]
    exact refused _
  by_cases fenced : (s.controllers run).fenced = true
  · rw [if_neg empty, if_neg callback, if_pos fenced]
    exact refused _
  rw [if_neg empty, if_neg callback, if_neg fenced]
  have unfenced := Bool.eq_false_iff.mpr fenced
  split
  next => exact refused _
  next => exact refused _
  rename_i charged room
  have givenBack : ∀ reason sharedBudget, Covers sharedBudget (fun _ => true) Submission.sharedReleased s.submissions →
      Good (({ s with
        controllers := update s.controllers run
          { s.controllers run with localBudget := charged.release byteLength false }
        sharedBudget }).refuse run reason) := by
    intro reason sharedBudget covers
    refine ⟨refuse_inv inv (fenced_update s.controllers run _), fun other => ?_, covers⟩
    dsimp only [refuse, record]
    by_cases same : other = run
    · subst same
      rw [update_self]
      exact (books.run other).give_back room
    · rw [update_of_ne same]
      exact books.run other
  split
  next => exact givenBack _ _ books.worker
  next => exact givenBack _ _ books.worker
  rename_i shared fits
  split
  next => exact givenBack _ _ (books.worker.give_back fits)
  next => exact ⟨enter_inv inv unfenced nofun, enter_books books room fits⟩
  next => exact ⟨enter_inv inv unfenced nofun, enter_books books room fits⟩

theorem fenced_of_fence (run other : Nat) (already : (controllers other).fenced = true) :
    (Function.update controllers run { controllers run with fenced := true } other).fenced = true := by
  by_cases same : other = run
  · rw [same, update_self]
  · rw [update_of_ne same]
    exact already

theorem fenced_now (run : Nat) :
    (Function.update controllers run { controllers run with fenced := true } run).fenced = true := by
  rw [update_self]

section

variable (inv : Inv s)
include inv

theorem retire_inv (run : Nat) : Inv (s.retire run) := by
  refine inv.apart (nil_append _).symm rfl (append_nil _).symm rfl (by simp) (by simp [Task.id?]) (by simp)
    (fenced_of_fence s.controllers run) (by simp) ?_
  intro other member
  obtain rfl : other = run := by simpa using member
  exact fenced_now s.controllers other

theorem markWriterClosed_inv (run : Nat) : Inv (s.markWriterClosed run) :=
  inv.apart (nil_append _).symm (nil_append _).symm (append_nil _).symm rfl (by simp) (by simp) (by simp)
    (fenced_of_fence s.controllers run) (by simp) (by simp)

theorem faultAndFence_inv {run : Nat} {reason : FaultReason} (top : s.stack = .fault run reason :: rest) :
    Inv ({ s with stack := rest }.faultAndFence run reason) := by
  have now := fenced_now s.controllers run
  refine inv.apart (show s.stack = [.fault run reason] ++ rest from top) rfl rfl rfl (by simp [Task.id?])
    (by simp [Task.id?]) (by simp [Act.id?]) (fenced_of_fence s.controllers run) ?_ ?_
  · intro other why member
    obtain ⟨rfl, -⟩ : other = run ∧ why = reason := by simpa using member
    exact now
  · intro other member
    obtain rfl : other = run := by simpa using member
    exact now

theorem retireWriter_inv {run : Nat} (top : s.stack = .retireWriter run :: rest) :
    Inv ({ s with stack := rest }.retireWriter run) := by
  have already := inv.retiring run (.inl (by rw [top]; exact mem_cons_self))
  have same : ∀ other, (s.controllers other).fenced = true →
      (Function.update s.controllers run { s.controllers run with retired := true } other).fenced = true := by
    intro other fenced
    by_cases here : other = run
    · rw [here, update_self]
      exact already
    · rw [update_of_ne here]
      exact fenced
  unfold Inputs.retireWriter
  split
  next => exact inv.pop top rfl
  next =>
    refine inv.apart (show s.stack = [.retireWriter run] ++ rest from top) rfl (append_nil _).symm rfl
      (by simp [Task.id?]) (by simp [Task.id?]) (by simp) same (by simp) ?_
    intro other member
    obtain rfl : other = run := by simpa using member
    exact same other already

theorem disposed_inv {run : Nat} (top : s.stack = .disposing run :: rest)
    (answer : Option Bool) : Inv ({ s with stack := rest }.disposed run answer) := by
  have already := inv.retiring run (.inr (by rw [top]; exact mem_cons_self))
  unfold disposed
  split
  next => exact inv.pop top rfl
  next =>
    refine inv.apart (show s.stack = [.disposing run] ++ rest from top) rfl rfl rfl (by simp [Task.id?])
      (by simp [Task.id?]) (by simp [Act.id?]) (fun _ fenced => fenced) ?_ (by simp)
    intro other why member
    obtain ⟨rfl, -⟩ : other = run ∧ why = .retireInputFailed := by simpa using member
    exact already

end

theorem resume_good (good : Good s) (top : s.stack = task :: rest) (outcome : Return) :
    Good (s.resume task outcome rest) := by
  have popped : Books { s with stack := rest } := ⟨good.books.run, good.books.worker⟩
  unfold resume
  split
  next => exact writeThrew_good good top
  next => exact wrote_good good top
  next => exact admitted_good good top _
  next => exact captured_good good top _
  next => exact observed_good good top _
  next => exact ⟨good.inv.pop top rfl, popped⟩
  next =>
    refine ⟨disposed_inv good.inv top _, ?_⟩
    unfold disposed
    split
    · exact popped
    · exact (popped.record _).push _
  next => exact good

theorem advance_good (good : Good s) (top : s.stack = task :: rest) : Good (s.advance task rest) := by
  have popped : Books { s with stack := rest } := ⟨good.books.run, good.books.worker⟩
  unfold advance
  split
  next =>
    refine ⟨faultAndFence_inv good.inv top, ?_⟩
    apply Books.push
    apply Books.record
    exact popped.setController rfl
  next =>
    refine ⟨retireWriter_inv good.inv top, ?_⟩
    unfold Inputs.retireWriter
    dsimp only
    split
    · exact popped
    · apply Books.push
      exact popped.setController rfl
  next => exact handleSettlement_good good top
  next => exact observe_good good top
  next => exact finish_good good top
  next => exact answer_good good top
  next => exact good

theorem step_good (s : Inputs) (event : Event) (good : Good s) : Good (s.step event) := by
  cases event with
  | submit run request grant =>
    simp only [step]
    split
    · exact submit_good good run request grant
    · exact good
  | settle id =>
    simp only [step]
    split
    · exact nativeSettlement_good good id
    · exact good
  | retire run =>
    simp only [step]
    split
    · refine ⟨retire_inv good.inv run, ?_⟩
      apply Books.push
      exact good.books.setController rfl
    · exact good
  | markWriterClosed run =>
    simp only [step]
    split
    · exact ⟨markWriterClosed_inv good.inv run, good.books.setController rfl⟩
    · exact good
  | returns outcome =>
    simp only [step]
    split
    next => exact good
    next task rest top => exact resume_good good top outcome
  | proceed =>
    simp only [step]
    split
    next => exact good
    next task rest top => exact advance_good good top

theorem run_good (limits : Limits) (events : List Event) : Good (run step (new limits) events) := by
  refine run_invariant Good ⟨?_, ?_⟩ step_good events
  · constructor <;> simp [new, lawful_nil]
  · constructor <;> simp [new, Covers, InputBudget.new]

/-- A controller that has faulted refuses whatever is submitted to it, and nothing else changes. -/
theorem submit_fenced (fenced : (s.controllers id).fenced = true) (request : Request) (grant : Grant) :
    ∃ reason, s.submit id request grant = s.refuse id reason := by
  unfold submit
  split
  · exact ⟨_, rfl⟩
  split
  · exact ⟨_, rfl⟩
  split
  · exact ⟨_, rfl⟩
  exact ⟨.fenced, rfl⟩

theorem native_input_settles_once (limits : Limits) (events : List Event) :
    let inputs := run step (new limits) events
    -- Every submission is reported at most once, and each of the three is given back at most once,
    (∀ id, inputs.trace.countP (Act.reports id) ≤ 1) ∧
    (∀ account id, inputs.trace.count (.released account id) ≤ 1) ∧
    -- and only after the native side has definitely rejected or settled it.
    (∀ before account id after, inputs.trace = before ++ .released account id :: after → Definite before id) ∧
    -- Until then the submission holds all three, and the budgets hold what their submissions do.
    (∀ id submission, inputs.submissions[id]? = some submission → ¬Definite inputs.trace id →
      submission.localReleased = false ∧ submission.sharedReleased = false ∧ submission.retained ≠ some true) ∧
    Books inputs ∧
    -- After a fault nothing more is handed to the native side, and whatever is submitted is refused.
    (∀ before run reason after, inputs.trace = before ++ .fault run reason :: after → ∀ id, .entered run id ∉ after) ∧
    (∀ run reason, .fault run reason ∈ inputs.trace → ∀ request grant,
      ∃ refusal, inputs.submit run request grant = inputs.refuse run refusal) := by
  intro inputs
  obtain ⟨inv, books⟩ : Good inputs := run_good limits events
  refine ⟨?_, ?_, ?_, ?_, books, ?_, ?_⟩
  · intro id
    by_cases known : id < inputs.submissions.length
    · have reported := (inv.sound id _ (getElem?_eq_getElem known)).reported
      have once := Bool.toNat_le (inputs.submissions[id]).settlementHandled
      omega
    · have silent : inputs.trace.countP (Act.reports id) = 0 := by
        rw [countP_eq_zero]
        exact fun act member reports => known (inv.acts_known act member id (reports_id reports))
      omega
  · exact fun account id => inv.lawful.count_le_one (fun before law => law.1)
  · exact fun before account id after split => (inv.lawful before _ after split).2
  · intro id submission found uncertain
    have holding := (inv.sound id submission found).holding
    exact holding.whole (Bool.eq_false_iff.mpr (fun released => uncertain (holding.definite released)))
  · intro before run reason after split id entered
    obtain ⟨front, back, rfl⟩ := append_of_mem entered
    apply inv.lawful (before ++ .fault run reason :: front) (.entered run id) back (by rw [split]; simp) reason
    simp
  · exact fun run reason faulted => submit_fenced (inv.fenced run reason faulted)

end Cove.Worker.PtySettlement
