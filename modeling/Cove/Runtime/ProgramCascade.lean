import Cove.Base.Journal
import Cove.Runtime.ControlArbiter

/-!
The failure of programmatic input. A job that is not written completely fails every programmatic job that was
admitted before its settlement: none of them is dispatched any more, and each settles with nothing written.
-/

namespace Cove.Runtime.ProgramCascade
open Base.Journal Base.Run Protocol.Budgets Protocol.Identity List
open Protocol.Pipe Protocol.TabInput
open Runtime.ControlArbiter Runtime.ControlArbiter.Arbiter Arbiter

/-- An input ended without being written completely after this job was admitted. -/
def FailedSince (log : List Entry) (id : Nat) : Prop :=
  ∃ before other command receipt after, log = before ++ Entry.settled other command receipt :: after ∧
    receipt.complete = false ∧ .admitted id ∈ before

/-- What an entry has to meet: no job is dispatched after an earlier failure, and such a job settles untouched. Every
receipt meets its schema and describes the input it is for. -/
def Cascades (log : List Entry) : Entry → Prop
  | .dispatched id => ¬FailedSince log id
  | .settled id command receipt =>
    receipt.valid = true ∧ receipt.describes command.textBytes command.submit = true ∧
      (FailedSince log id → receipt.untouched = true)
  | _ => True

variable {log : List Entry} {id : Nat}

theorem FailedSince.append (failed : FailedSince log id) (entry : Entry) : FailedSince (log ++ [entry]) id := by
  obtain ⟨before, other, command, receipt, after, rfl, incomplete, admitted⟩ := failed
  exact ⟨before, other, command, receipt, after ++ [entry], by simp, incomplete, admitted⟩

theorem failedSince_append {entry : Entry} (failed : FailedSince (log ++ [entry]) id) : FailedSince log id ∨
      ∃ other command receipt, entry = .settled other command receipt ∧ receipt.complete = false ∧
        .admitted id ∈ log := by
  obtain ⟨before, other, command, receipt, after, split, incomplete, admitted⟩ := failed
  rcases eq_nil_or_concat after with rfl | ⟨rest, last, rfl⟩
  · obtain ⟨rfl, same⟩ := append_inj' split rfl
    exact .inr ⟨other, command, receipt, singleton_inj.mp same, incomplete, admitted⟩
  · rw [concat_eq_append, ← cons_append, ← append_assoc] at split
    obtain ⟨rfl, _⟩ := append_inj' split rfl
    exact .inl ⟨before, other, command, receipt, rest, rfl, incomplete, admitted⟩

theorem FailedSince.admitted (failed : FailedSince log id) : .admitted id ∈ log := by
  obtain ⟨before, other, command, receipt, after, rfl, _, admitted⟩ := failed
  exact mem_append_left _ admitted

def programOf (job : Job) : Option ProgramCommand :=
  match job.work with
  | .programmatic command _ => some command
  | .control .. => none

theorem isProgrammatic_eq (job : Job) : job.isProgrammatic = (programOf job).isSome := by
  unfold Job.isProgrammatic Work.isProgrammatic programOf
  cases job.work <;> rfl

structure View where
  log : List Entry
  jobs : List (Nat × Option ProgramCommand)
  failure : Option String
  nextId : Nat
  opened : Bool

variable (a : Arbiter)

def view : View where
  log := a.log
  jobs := a.queue.map (fun job => (job.id, programOf job))
  failure := a.programFailure
  nextId := a.nextId
  opened := a.opened

/-- What holds between the steps of the drain. The jobs `watched` were programmatic ones of the queue. -/
structure Kept (watched : Nat → Prop) (v : View) : Prop where
  lawful : Lawful Cascades v.log
  numbered : ∀ id, .admitted id ∈ v.log → id < v.nextId
  admitted : ∀ job ∈ v.jobs, .admitted job.1 ∈ v.log
  failing : ∀ job ∈ v.jobs, job.2.isSome = true → (FailedSince v.log job.1 ↔ truthy v.failure = true)
  drained : v.failure.isSome = true → truthy v.failure = true ∧ ∃ job ∈ v.jobs, job.2.isSome = true
  opened : v.jobs ≠ [] → v.opened = true
  leaves : ∀ id, watched id →
    (∃ command, (id, some command) ∈ v.jobs) ∨ ∃ command receipt, .settled id command receipt ∈ v.log

def Staged (v : View) : Option Await → Prop
  | some .status | some .accept | some .write =>
    truthy v.failure = false ∧ ∃ id command rest, v.jobs = (id, some command) :: rest
  | some (.returned receipt) =>
    ∃ id command rest, v.jobs = (id, some command) :: rest ∧ receipt.valid = true ∧
      receipt.describes command.textBytes command.submit = true ∧ (truthy v.failure = true → receipt.untouched = true)
  | _ => True

structure Inv (watched : Nat → Prop) (a : Arbiter) : Prop where
  kept : Kept watched (view a)
  busy : a.running = none → a.headReady = false
  staged : Staged (view a) a.running

theorem Kept.new : Kept (fun _ => False) (view new) where
  lawful := lawful_nil
  numbered := by simp [view, Arbiter.new]
  admitted := by simp [view, Arbiter.new]
  failing := by simp [view, Arbiter.new]
  drained := by simp [view, Arbiter.new]
  opened := by simp [view, Arbiter.new]
  leaves := nofun

variable {watched : Nat → Prop} {v : View}

theorem Kept.record (kept : Kept watched v) {entry : Entry} (plain : ∀ id, entry ≠ .admitted id)
    (unsettled : ∀ id command receipt, entry ≠ .settled id command receipt) (law : Cascades v.log entry) :
    Kept watched { v with log := v.log ++ [entry] } where
  lawful := kept.lawful.append law
  numbered := by
    intro id admitted
    rcases mem_snoc admitted with old | new
    · exact kept.numbered id old
    · exact absurd new.symm (plain id)
  admitted := fun job member => mem_append_left _ (kept.admitted job member)
  failing := by
    intro job member isProgram
    rw [← kept.failing job member isProgram]
    constructor
    · intro failed
      rcases failedSince_append failed with old | ⟨other, command, receipt, same, _⟩
      · exact old
      · exact absurd same (unsettled other command receipt)
    · exact fun failed => failed.append entry
  drained := kept.drained
  opened := kept.opened
  leaves := fun id watches => (kept.leaves id watches).imp_right
    fun ⟨command, receipt, settled⟩ => ⟨command, receipt, mem_append_left _ settled⟩

theorem Kept.admission (kept : Kept watched v) (work : Option ProgramCommand)
    (open_batch : work.isSome = true → truthy v.failure = false) :
    Kept watched { v with log := v.log ++ [.admitted v.nextId], jobs := v.jobs ++ [(v.nextId, work)], nextId := v.nextId + 1, opened := true }
    where
  lawful := kept.lawful.append trivial
  numbered := by
    intro id admitted
    rcases mem_snoc admitted with old | new
    · exact Nat.lt_succ_of_lt (kept.numbered id old)
    · obtain rfl := Entry.admitted.inj new
      exact Nat.lt_succ_self _
  admitted := by
    intro job member
    rcases mem_snoc member with old | rfl
    · exact mem_append_left _ (kept.admitted job old)
    · exact mem_append_right _ mem_cons_self
  failing := by
    intro job member isProgram
    have back : FailedSince (v.log ++ [.admitted v.nextId]) job.1 → FailedSince v.log job.1 := by
      intro failed
      rcases failedSince_append failed with old | ⟨other, command, receipt, same, _⟩
      · exact old
      · exact absurd same (by simp)
    rcases mem_snoc member with old | rfl
    · rw [← kept.failing job old isProgram]
      exact ⟨back, fun failed => failed.append _⟩
    · have fresh : ¬FailedSince v.log v.nextId :=
        fun failed => Nat.lt_irrefl _ (kept.numbered _ failed.admitted)
      have fine := open_batch isProgram
      constructor
      · exact fun failed => absurd (back failed) fresh
      · exact fun failing => absurd failing (by simp [fine])
  drained := by
    intro failing
    obtain ⟨isTruthy, job, member, isProgram⟩ := kept.drained failing
    exact ⟨isTruthy, job, mem_append_left _ member, isProgram⟩
  opened := fun _ => rfl
  leaves := fun id watches => (kept.leaves id watches).imp
    (fun ⟨command, queued⟩ => ⟨command, mem_append_left _ queued⟩)
    fun ⟨command, receipt, settled⟩ => ⟨command, receipt, mem_append_left _ settled⟩

variable {receipt : TabInputReceipt}

/-- A receipt that meets its schema names a reason that is not empty, or none at all. -/
theorem failureReason_truthy (valid : receipt.valid = true) : truthy (some (failureReason receipt)) = true := by
  have nonempty (part : InputPartReceipt) (partValid : part.valid = true) (reason : String)
      (named : part.reason = some reason) : reason ≠ "" := by
    simp only [InputPartReceipt.valid, named, Option.all_some, Bool.and_eq_true] at partValid
    rintro rfl
    exact absurd partValid.1.1.2.1 (by decide)
  simp only [TabInputReceipt.valid, Bool.and_eq_true] at valid
  simp only [truthy, Option.any_some, bne_iff_ne, failureReason]
  cases named : receipt.text.reason with
  | some reason =>
    exact nonempty receipt.text valid.1.1 reason named
  | none =>
    cases sent : receipt.submit with
    | none => decide
    | some submit =>
      rw [sent] at valid
      cases submitReason : submit.reason with
      | none => simp [submitReason]
      | some reason => simpa [submitReason] using nonempty submit valid.1.2 reason submitReason

variable {command : ProgramCommand} {rest : List (Nat × Option ProgramCommand)}

theorem Kept.settle (kept : Kept watched v) (head : v.jobs = (id, some command) :: rest) (valid : receipt.valid = true)
    (described : receipt.describes command.textBytes command.submit = true)
    (untouched : truthy v.failure = true → receipt.untouched = true) : Kept watched { v with
      log := v.log ++ [.settled id command receipt]
      jobs := rest
      failure :=
        if rest.any (fun job => job.2.isSome) then
          if receipt.complete then v.failure else v.failure <|> some (failureReason receipt)
        else none } := by
  have inQueue : ∀ job ∈ rest, job ∈ v.jobs := fun job member => head ▸ mem_cons_of_mem _ member
  have headFailing := kept.failing (id, some command) (head ▸ mem_cons_self) rfl
  have failureTruthy : receipt.complete = false →
      truthy (v.failure <|> some (failureReason receipt)) = true := by
    intro _
    cases failure : v.failure with
    | none => exact failureReason_truthy valid
    | some =>
      have isTruthy := (kept.drained (by rw [failure]; rfl)).1
      rwa [failure] at isTruthy
  constructor
  · exact kept.lawful.append ⟨valid, described, fun failed => untouched (headFailing.mp failed)⟩
  · intro other admitted
    rcases mem_snoc admitted with old | new
    · exact kept.numbered other old
    · cases new
  · exact fun job member => mem_append_left _ (kept.admitted job (inQueue job member))
  · intro job member isProgram
    have some_left : rest.any (fun job => job.2.isSome) = true := any_eq_true.mpr ⟨job, member, isProgram⟩
    have before := kept.failing job (inQueue job member) isProgram
    simp only [if_pos some_left]
    by_cases complete : receipt.complete = true
    · simp only [if_pos complete]
      rw [← before]
      constructor
      · intro failed
        rcases failedSince_append failed with old | ⟨other, otherCommand, otherReceipt, same, incomplete, _⟩
        · exact old
        simp only [Entry.settled.injEq] at same
        rw [← same.2.2, complete] at incomplete
        exact absurd incomplete (by decide)
      · exact fun failed => failed.append _
    · have incomplete : receipt.complete = false := Bool.eq_false_iff.mpr complete
      simp only [if_neg complete, failureTruthy incomplete, iff_true]
      exact ⟨v.log, id, command, receipt, [], rfl, incomplete, kept.admitted job (inQueue job member)⟩
  · intro failing
    split at failing
    next some_left =>
      obtain ⟨job, member, isProgram⟩ := any_eq_true.mp some_left
      rw [if_pos some_left]
      refine ⟨?_, job, member, isProgram⟩
      split at failing
      next complete =>
        rw [if_pos complete]
        exact (kept.drained failing).1
      next complete =>
        rw [if_neg complete]
        exact failureTruthy (Bool.eq_false_iff.mpr complete)
    next => exact absurd failing (by simp)
  · exact fun _ => kept.opened (by simp [head])
  · intro other watches
    rcases kept.leaves other watches with ⟨asked, queued⟩ | ⟨asked, answer, settled⟩
    · rw [head] at queued
      rcases mem_cons.mp queued with same | later
      · obtain ⟨rfl, rfl⟩ := by simpa using same
        exact .inr ⟨_, receipt, mem_append_right _ mem_cons_self⟩
      · exact .inl ⟨asked, later⟩
    · exact .inr ⟨asked, answer, mem_append_left _ settled⟩

def controlStage : Option Await → Bool
  | some .status | some .accept | some .write | some (.returned _) => false
  | _ => true

theorem staged_of_controlStage {stage : Option Await} (control : controlStage stage = true) : Staged v stage := by
  cases stage with
  | none => trivial
  | some stage => cases stage <;> simp_all [controlStage, Staged]

section Stages
variable {a : Arbiter} {oracle : Oracle}

structure Quietly (before after : Arbiter) : Prop where
  view : view after = view before
  stage : controlStage after.running = true
  awaits : after.running ≠ none

theorem Quietly.inv {after : Arbiter} (quiet : Quietly a after) (kept : Kept watched (ProgramCascade.view a)) : Inv watched after :=
  ⟨quiet.view ▸ kept, fun idle => absurd idle quiet.awaits, staged_of_controlStage quiet.stage⟩

theorem replyError_quietly (error : DomainError) : Quietly a (a.replyError error) := ⟨rfl, rfl, nofun⟩

theorem failControl_quietly (command : ControlCommand) : Quietly a (a.failControl command) := ⟨rfl, rfl, nofun⟩

theorem beginControl_quietly (subscription : SubscriptionRef) : Quietly a (a.beginControl subscription oracle) := by
  unfold beginControl
  split_ifs <;> exact ⟨rfl, rfl, nofun⟩

theorem boundaryAnswered_quietly (command : ControlCommand) (subscription : SubscriptionRef) (answer : StatusAnswer) :
    Quietly a (a.boundaryAnswered command subscription answer oracle) := by
  unfold boundaryAnswered
  split
  · exact failControl_quietly command
  split
  · exact ⟨rfl, rfl, nofun⟩
  split
  · exact ⟨rfl, rfl, nofun⟩
  · split
    · exact ⟨rfl, rfl, nofun⟩
    split
    · exact ⟨rfl, rfl, nofun⟩
    split <;> exact ⟨rfl, rfl, nofun⟩
  · exact ⟨rfl, rfl, nofun⟩

theorem commandAccepted_quietly (boundary : Boundary) (command : ControlCommand) (subscription : SubscriptionRef)
    (atSeq : Option Nat) : Quietly a (a.commandAccepted boundary command subscription atSeq oracle) := by
  unfold commandAccepted
  split
  · exact ⟨rfl, rfl, nofun⟩
  split
  · exact ⟨rfl, rfl, nofun⟩
  split
  · exact ⟨rfl, rfl, nofun⟩
  cases command <;> dsimp only <;> split <;> exact ⟨rfl, rfl, nofun⟩

theorem commandAnswered_quietly (job : Job) (boundary : Boundary) (command : ControlCommand)
    (subscription : SubscriptionRef) (answer : CommandAnswer) :
    Quietly a (a.commandAnswered job boundary command subscription answer oracle) := by
  unfold commandAnswered
  split
  · exact failControl_quietly command
  · split <;> exact ⟨rfl, rfl, nofun⟩
  · split
    · split <;> exact ⟨rfl, rfl, nofun⟩
    · exact commandAccepted_quietly boundary _ subscription _
  · exact ⟨rfl, rfl, nofun⟩

theorem releaseAnswered_view (boundary : Boundary) (counter : Counter) (answer : CommandAnswer) :
    view (a.releaseAnswered boundary counter answer) = view a := by
  unfold releaseAnswered
  dsimp only
  split
  · split <;> rfl
  · split
    · split <;> rfl
    · rfl
  · rfl

theorem cleanupFrom_quietly (index : Nat) (rest : List Counter) : Quietly a (a.cleanupFrom oracle index rest) := by
  induction rest generalizing a index with
  | nil => exact ⟨rfl, rfl, nofun⟩
  | cons counter rest ih =>
    unfold cleanupFrom
    split
    · exact ih (index + 1)
    split
    · exact { ih (index + 1) with }
    split
    · exact { ih (index + 1) with }
    split
    · exact ih (index + 1)
    · exact ⟨rfl, rfl, nofun⟩

theorem prune_view (a : Arbiter) : view a.prune = view a := by
  unfold prune
  split <;> rfl

theorem prune_queue (a : Arbiter) : a.prune.queue = a.queue := by
  unfold prune
  split <;> rfl

theorem prune_running (a : Arbiter) : a.prune.running = a.running := by
  unfold prune
  split <;> rfl

/-- A programmatic job that begins while its batch fails returns at once, untouched. -/
theorem beginProgrammatic_inv (kept : Kept watched (view a)) (head : (view a).jobs = (id, some command) :: rest) (cancelled : Option String) :
    Inv watched (a.beginProgrammatic command cancelled oracle) := by
  have returned (reason : String) : Inv watched (a.await (.returned (command.notSent reason false))) :=
    ⟨kept, nofun, id, command, rest, head, notSent_valid command.bounded _ _ _, notSent_describes _ _ _ _,
      fun _ => notSent_untouched _ _ _⟩
  unfold beginProgrammatic
  split
  · exact returned _
  rename_i fine
  split
  · exact returned _
  have steady : truthy a.programFailure = false := by
    simp only [Bool.or_eq_true, not_or, Bool.not_eq_true] at fine
    exact fine.2
  exact ⟨kept, nofun, steady, id, command, rest, head⟩

theorem begin_inv (kept : Kept watched (view a)) (ready : a.headReady = true) : Inv watched (a.begin oracle) := by
  unfold begin
  cases first : a.queue with
  | nil => simp [headReady, first] at ready
  | cons job rest =>
    simp only [head?_cons]
    cases work : job.work with
    | control _ subscription => exact (beginControl_quietly subscription).inv kept
    | programmatic command cancelled =>
      have head : (view a).jobs = (job.id, some command) :: rest.map (fun job => (job.id, programOf job)) := by
        simp only [view, first, map_cons, programOf, work]
      exact beginProgrammatic_inv kept head cancelled

theorem headReady_nil (none : a.queue = []) : a.headReady = false := by
  simp [headReady, none]

theorem finish_inv (kept : Kept watched (view a)) : Inv watched (a.finish oracle) := by
  unfold finish
  dsimp only
  split
  next over_ =>
    have empty : a.queue = [] := by simpa using (Bool.and_eq_true_iff.mp over_).2
    exact ⟨{ kept with opened := fun queued => absurd (by simp [view, empty]) queued }, fun _ => headReady_nil empty, trivial⟩
  split
  next ready => exact begin_inv kept ready
  next idle =>
    refine ⟨?_, ?_, ?_⟩
    · rw [prune_view]
      exact kept
    · intro _
      rw [headReady, prune_queue]
      exact Bool.eq_false_iff.mpr idle
    · rw [prune_running]
      trivial

theorem loop_inv (kept : Kept watched (view a)) : Inv watched (a.loop oracle) := by
  unfold loop
  split
  next ready => exact begin_inv kept ready
  split
  · exact (cleanupFrom_quietly 0 a.counters).inv kept
  · exact finish_inv kept

theorem drain_inv (kept : Kept watched (view a)) (staged : Staged (view a) a.running) :
    Inv watched (a.drain oracle) := by
  unfold drain
  split
  next waits =>
    refine ⟨kept, ?_, staged⟩
    intro idle
    -- A run that is not open has nothing queued.
    have closed : a.opened = false := by simpa [idle] using waits
    have empty : a.queue = [] := by
      by_contra queued
      have opened := kept.opened (by simpa [view] using queued)
      simp [view, closed] at opened
    exact headReady_nil empty
  · exact loop_inv kept

theorem Inv.drain_of_view {after : Arbiter} (inv : Inv watched a) (same : view after = view a)
    (stage : after.running = a.running) : Inv watched (after.drain oracle) := by
  apply drain_inv (same ▸ inv.kept)
  rw [same, stage]
  exact inv.staged

variable {cancelled : Option String}

theorem jobs_of_head {job : Job} (head : a.queue.head? = some job) (work : job.work = .programmatic command cancelled) :
    (view a).jobs = (job.id, some command) :: (a.queue.tail.map (fun job => (job.id, programOf job))) := by
  cases queue : a.queue with
  | nil => simp [queue] at head
  | cons first =>
    rw [queue] at head
    obtain rfl : first = job := Option.some.inj head
    simp only [view, queue, map_cons, programOf, work, tail_cons]

theorem dispatch_view (a : Arbiter) (entry : Entry) :
    view (a.dispatch entry) = { view a with log := a.log ++ [entry] } := by
  simp only [view, dispatch, setHead]
  cases a.queue <;> rfl

theorem performBounded_inv (kept : Kept watched (view a)) (job : Job) (command : ControlCommand)
    (subscription : SubscriptionRef) (failure : Option DomainError) :
    Inv watched (a.performBounded job command subscription failure oracle) := by
  unfold performBounded
  split
  · exact (replyError_quietly _).inv kept
  split
  · exact (replyError_quietly _).inv kept
  split
  · exact (failControl_quietly command).inv kept
  split
  · exact (replyError_quietly _).inv kept
  split
  · exact (replyError_quietly _).inv kept
  refine ⟨?_, nofun, trivial⟩
  have sent : Kept watched (view (a.dispatch (.sent job.id))) := by
    rw [dispatch_view]
    exact kept.record (by simp) (by simp) trivial
  exact sent

section Programmatic
variable {job : Job} {command : ProgramCommand} {rest : List (Nat × Option ProgramCommand)}

theorem returned_inv (kept : Kept watched (view a)) (head : (view a).jobs = (job.id, some command) :: rest)
    (reason : String) : Inv watched (a.await (.returned (command.notSent reason false))) :=
  ⟨kept, nofun, job.id, command, rest, head, notSent_valid command.bounded _ _ _, notSent_describes _ _ _ _,
    fun _ => notSent_untouched _ _ _⟩

theorem statusAnswered_inv (kept : Kept watched (view a)) (head : (view a).jobs = (job.id, some command) :: rest)
    (steady : truthy a.programFailure = false) (answer : StatusAnswer) :
    Inv watched (a.statusAnswered command answer oracle) := by
  have returned (reason : String) := returned_inv kept head reason
  have answered (b : Arbiter) (same : view b = view a) (reason : String) :
      Inv watched (b.await (.returned (command.notSent reason false))) :=
    returned_inv (same ▸ kept) (same ▸ head) reason
  unfold statusAnswered
  split
  · exact returned _
  · exact returned _
  split
  · exact returned _
  split
  · exact returned _
  split
  · exact returned _
  split
  · exact returned _
  split
  · exact returned _
  split
  · apply answered
    rfl
  split
  · apply answered
    rfl
  · exact ⟨kept, nofun, steady, job.id, command, rest, head⟩

theorem acceptAnswered_inv (kept : Kept watched (view a)) (head : (view a).jobs = (job.id, some command) :: rest)
    (steady : truthy a.programFailure = false) (answer : AcceptAnswer) :
    Inv watched (a.acceptAnswered job command answer oracle) := by
  have returned (reason : String) := returned_inv kept head reason
  unfold acceptAnswered
  split
  · exact returned _
  · exact returned _
  split
  · exact returned _
  have member : (job.id, some command) ∈ (view a).jobs := head ▸ mem_cons_self
  have lawful : ¬FailedSince a.log job.id := by
    intro failed
    have failing := (kept.failing _ member rfl).mp failed
    exact absurd failing (by simp [view, steady])
  have same := dispatch_view a (.dispatched job.id)
  have recorded : Kept watched (view (a.dispatch (.dispatched job.id))) := by
    rw [same]
    exact kept.record (by simp) (by simp) lawful
  have jobs : (view (a.dispatch (.dispatched job.id))).jobs = (job.id, some command) :: rest := by
    rw [same]
    exact head
  exact ⟨recorded, nofun, steady, job.id, command, rest, jobs⟩

/-- The runtime passes on only receipts that answer the command. -/
theorem writtenReceipt_answers (command : ProgramCommand) (answer : WriteAnswer) :
    (writtenReceipt command (passedOn command answer)).valid = true ∧
      (writtenReceipt command (passedOn command answer)).describes command.textBytes command.submit = true := by
  have unsent (reason : String) (unknown : Bool) : (command.notSent reason unknown).valid = true ∧
      (command.notSent reason unknown).describes command.textBytes command.submit = true :=
    ⟨notSent_valid command.bounded _ _ _, notSent_describes _ _ _ _⟩
  unfold passedOn
  split
  · split
    next answers =>
      simp only [Bool.and_eq_true] at answers
      exact answers
    next => exact unsent _ _
  next other =>
    cases answer with
    | threw | error error => exact unsent _ _
    | result input =>
      cases input with
      | none => exact unsent _ _
      | some input => exact absurd rfl (other input)

theorem writeAnswered_inv (kept : Kept watched (view a)) (head : (view a).jobs = (job.id, some command) :: rest)
    (steady : truthy a.programFailure = false) (answer : WriteAnswer) : Inv watched (a.writeAnswered command answer) := by
  obtain ⟨valid, described⟩ := writtenReceipt_answers command answer
  refine ⟨kept, nofun, job.id, command, rest, head, valid, described, ?_⟩
  intro failing
  have same : (view (a.writeAnswered command answer)).failure = a.programFailure := rfl
  rw [same, steady] at failing
  exact absurd failing (by decide)

theorem settleProgrammatic_kept (kept : Kept watched (view a))
    (first : a.queue.head? = some job) (work : job.work = .programmatic command cancelled)
    (valid : receipt.valid = true) (described : receipt.describes command.textBytes command.submit = true)
    (untouched : truthy a.programFailure = true → receipt.untouched = true) :
    Kept watched (view (a.settleProgrammatic job command receipt)) := by
  have settled := kept.settle (jobs_of_head first work) valid described untouched
  have left : (a.queue.tail.map (fun job => (job.id, programOf job))).any (fun job => job.2.isSome) =
      a.queue.tail.any Job.isProgrammatic := by
    rw [any_map]
    congr 1
    funext job
    exact (isProgrammatic_eq job).symm
  rw [left] at settled
  exact settled

end Programmatic

theorem settleControl_kept {job : Job} {command : ControlCommand} {subscription : SubscriptionRef}
    (kept : Kept watched (view a)) (first : a.queue.head? = some job) (work : job.work = .control command subscription)
    (reply : ControlReply) : Kept watched (view (a.settleControl job reply)) := by
  have recorded : Kept watched { view a with log := a.log ++ [.replied job.id reply] } :=
    kept.record (by simp) (by simp) trivial
  cases queue : a.queue with
  | nil => simp [queue] at first
  | cons head =>
    rw [queue] at first
    obtain rfl : head = job := Option.some.inj first
    have jobs : (view a).jobs = (head.id, none) :: (view (a.settleControl head reply)).jobs := by
      simp only [view, settleControl, queue, map_cons, tail_cons, programOf, work]
    constructor
    · exact recorded.lawful
    · exact recorded.numbered
    · exact fun job member => recorded.admitted job (jobs ▸ mem_cons_of_mem _ member)
    · exact fun job member => recorded.failing job (jobs ▸ mem_cons_of_mem _ member)
    · intro failing
      obtain ⟨isTruthy, job, member, isProgram⟩ := recorded.drained failing
      refine ⟨isTruthy, job, ?_, isProgram⟩
      have split : job ∈ (head.id, none) :: (view (a.settleControl head reply)).jobs := jobs ▸ member
      rcases mem_cons.mp split with rfl | later
      · exact absurd isProgram (by simp)
      · exact later
    · exact fun _ => recorded.opened (by simp [view, queue])
    · intro id watches
      rcases recorded.leaves id watches with ⟨asked, queued⟩ | settled
      · have split : (id, some asked) ∈ (head.id, none) :: (view (a.settleControl head reply)).jobs := jobs ▸ queued
        exact .inl ⟨asked, by simpa using split⟩
      · exact .inr settled

section

variable (inv : Inv watched a)
include inv

theorem resume_inv : Inv watched (a.resume oracle) := by
  unfold resume
  split
  · exact finish_inv inv.kept
  next receipt job stage first =>
    cases work : job.work with
    | control => exact inv
    | programmatic =>
      have staged := inv.staged
      rw [stage] at staged
      obtain ⟨id, asked, rest, head, valid, described, untouched⟩ := staged
      rw [jobs_of_head first work] at head
      obtain ⟨⟨rfl, rfl⟩, rfl⟩ := by simpa using head
      exact loop_inv (settleProgrammatic_kept inv.kept first work valid described untouched)
  next reply job stage first =>
    cases work : job.work with
    | control => exact loop_inv (settleControl_kept inv.kept first work reply)
    | programmatic => exact inv
  next failure job stage first =>
    cases work : job.work with
    | programmatic => exact inv
    | control command subscription => exact performBounded_inv inv.kept job command subscription failure
  · exact inv

theorem status_inv (answer : StatusAnswer) : Inv watched (a.status answer oracle) := by
  unfold status
  split
  next command cancelled stage work =>
    obtain ⟨job, first, work⟩ := Option.map_eq_some_iff.mp work
    have staged := inv.staged
    rw [stage] at staged
    exact statusAnswered_inv inv.kept (jobs_of_head first work) staged.1 answer
  next command subscription stage work => exact (boundaryAnswered_quietly command subscription answer).inv inv.kept
  · exact inv

theorem accepted_inv (answer : AcceptAnswer) : Inv watched (a.accepted answer oracle) := by
  unfold accepted
  split
  next job stage first =>
    cases work : job.work with
    | control => exact inv
    | programmatic =>
      have staged := inv.staged
      rw [stage] at staged
      exact acceptAnswered_inv inv.kept (jobs_of_head first work) staged.1 answer
  · exact inv

theorem written_inv (answer : WriteAnswer) : Inv watched (a.written answer) := by
  unfold written
  split
  next command cancelled stage work =>
    obtain ⟨job, first, work⟩ := Option.map_eq_some_iff.mp work
    have staged := inv.staged
    rw [stage] at staged
    exact writeAnswered_inv inv.kept (jobs_of_head first work) staged.1 answer
  · exact inv

theorem commanded_inv (answer : CommandAnswer) : Inv watched (a.commanded answer oracle) := by
  unfold commanded
  split
  next boundary job stage first =>
    cases work : job.work with
    | control command subscription =>
      exact (commandAnswered_quietly job boundary command subscription answer).inv inv.kept
    | programmatic => exact inv
  · exact inv

theorem released_inv (answer : CommandAnswer) : Inv watched (a.released answer oracle) := by
  unfold released
  split
  next index boundary stage =>
    split
    next counter found =>
      apply (cleanupFrom_quietly _ _).inv
      rw [releaseAnswered_view]
      exact inv.kept
    next => exact inv
  · exact inv

theorem onEvent_inv (fact : RunFact) : Inv watched (a.onEvent fact) := by
  unfold onEvent
  split
  · exact inv
  · cases fact <;> exact ⟨inv.kept, inv.busy, inv.staged⟩

end

theorem map_view {change : Job → Job} (same : ∀ job, (change job).id = job.id ∧ programOf (change job) = programOf job) :
    view { a with queue := a.queue.map change } = view a := by
  simp only [view, map_map, View.mk.injEq, true_and, and_true]
  refine map_congr_left (fun job _ => ?_)
  simp only [Function.comp_apply, (same job).1, (same job).2]

theorem execute_inv (inv : Inv watched a) (id : Nat) : Inv watched (a.execute id oracle) := by
  refine inv.drain_of_view (map_view ?_) rfl
  intro job
  split <;> exact ⟨rfl, rfl⟩

theorem cancelProgrammatic_inv (inv : Inv watched a) (id : Nat) (reason : String) :
    Inv watched (a.cancelProgrammatic id reason oracle) := by
  refine inv.drain_of_view (map_view ?_) rfl
  intro job
  split
  · unfold cancel
    split
    next command cancelled work => exact ⟨rfl, by simp only [programOf, work]⟩
    next => exact ⟨rfl, rfl⟩
  · exact ⟨rfl, rfl⟩

theorem retire_inv (inv : Inv watched a) (ref : SubscriptionRef) : Inv watched (a.retire ref oracle) := by
  have readied : ∀ job : Job, (if job.isFor ref then { job with ready := true } else job).id = job.id ∧
      programOf (if job.isFor ref then { job with ready := true } else job) = programOf job := by
    intro job
    split <;> exact ⟨rfl, rfl⟩
  have same := map_view (a := a) readied
  unfold retire
  split
  · exact inv
  dsimp only
  split
  · split
    · exact inv.drain_of_view same rfl
    · exact inv.drain_of_view same rfl
  · exact inv.drain_of_view same rfl

theorem dispose_inv (inv : Inv watched a) : Inv watched (a.dispose oracle) := by
  have same : view { a with queue := a.queue.map (fun job : Job => { job with ready := true }) } = view a :=
    map_view (fun job => ⟨rfl, rfl⟩)
  have kept := inv.kept
  have staged := inv.staged
  rw [← same] at kept staged
  unfold dispose
  split
  · exact inv
  dsimp only
  split
  next over_ =>
    have empty : a.queue = [] := by simpa using (Bool.and_eq_true_iff.mp over_).2
    exact ⟨{ kept with opened := fun queued => absurd (by simp [view, empty]) queued },
      fun _ => headReady_nil (by simp [empty]), staged⟩
  · exact inv.drain_of_view same rfl

theorem Staged.push {w : View} {stage : Option Await} (staged : Staged v stage) (failure : w.failure = v.failure)
    {job : Nat × Option ProgramCommand} (jobs : w.jobs = v.jobs ++ [job]) : Staged w stage := by
  have behind {id : Nat} {command : ProgramCommand} {rest : List (Nat × Option ProgramCommand)}
      (head : v.jobs = (id, some command) :: rest) : w.jobs = (id, some command) :: (rest ++ [job]) := by
    rw [jobs, head, cons_append]
  cases stage with
  | none => trivial
  | some stage =>
    cases stage with
    | status | accept | write =>
      obtain ⟨steady, id, command, rest, head⟩ := staged
      exact ⟨failure ▸ steady, id, command, _, behind head⟩
    | returned =>
      obtain ⟨id, command, rest, head, checked⟩ := staged
      exact ⟨id, command, _, behind head, failure ▸ checked⟩
    | _ => trivial

theorem enqueue_inv (inv : Inv watched a) (work : Work) (payload : List UInt8) {counters : List Counter}
    (open_batch : work.isProgrammatic = true → truthy a.programFailure = false) :
    Inv watched (({ a with counters := counters }).enqueue work payload) := by
  have program : (programOf ⟨a.nextId, work, payload, false, false⟩).isSome = work.isProgrammatic := by
    rw [← isProgrammatic_eq]
    rfl
  have kept := inv.kept.admission (programOf ⟨a.nextId, work, payload, false, false⟩)
    (fun isProgram => open_batch (program ▸ isProgram))
  have same : view (({ a with counters := counters }).enqueue work payload) =
      { view a with
        log := a.log ++ [.admitted a.nextId]
        jobs := (view a).jobs ++ [(a.nextId, programOf ⟨a.nextId, work, payload, false, false⟩)]
        nextId := a.nextId + 1
        opened := true } := by
    simp only [view, enqueue, map_append, map_cons, map_nil]
  refine ⟨same ▸ kept, ?_, ?_⟩
  · intro idle
    have before := inv.busy idle
    simp only [headReady, enqueue] at before ⊢
    cases queue : a.queue with
    | nil => rfl
    | cons => simpa [queue] using before
  · rw [same]
    exact inv.staged.push rfl rfl

theorem admitControl_inv (inv : Inv watched a) (budgets : EffectiveBudgets) (command : ControlCommand)
    (subscription : SubscriptionRef) (earlierPending : Bool) (bytes : List UInt8) (room : Room) :
    Inv watched (a.admitControl budgets command subscription earlierPending bytes room oracle) := by
  unfold admitControl
  split
  · exact inv
  · exact enqueue_inv inv _ _ (fun isProgram => absurd isProgram (by simp [Work.isProgrammatic]))

theorem refuseProgrammatic_none {budgets : EffectiveBudgets} {bytes : List UInt8}
    {room : Room} (admitted : a.refuseProgrammatic budgets command bytes room oracle = none) :
    truthy a.programFailure = false := by
  unfold refuseProgrammatic at admitted
  split at admitted
  · exact absurd admitted (by simp)
  split at admitted
  · exact absurd admitted (by simp)
  split at admitted
  · exact absurd admitted (by simp)
  next steady => exact Bool.eq_false_iff.mpr steady

theorem admitProgrammatic_inv (inv : Inv watched a) (budgets : EffectiveBudgets) (command : ProgramCommand)
    (bytes : List UInt8) (room : Room) : Inv watched (a.admitProgrammatic budgets command bytes room oracle) := by
  unfold admitProgrammatic
  split
  · exact inv
  next admitted => exact enqueue_inv inv _ _ (fun _ => refuseProgrammatic_none admitted)

end Stages

variable (budgets : EffectiveBudgets)

theorem step_inv {a : Arbiter} (inv : Inv watched a) (event : Event × Oracle) : Inv watched (step budgets a event) := by
  obtain ⟨event, oracle⟩ := event
  cases event with
  | admitControl command subscription earlierPending bytes room =>
    exact admitControl_inv inv budgets command subscription earlierPending bytes room
  | admitProgrammatic command bytes room => exact admitProgrammatic_inv inv budgets command bytes room
  | execute id => exact execute_inv inv id
  | cancelProgrammatic id reason => exact cancelProgrammatic_inv inv id reason
  | retire ref => exact retire_inv inv ref
  | status answer => exact status_inv inv answer
  | accepted answer => exact accepted_inv inv answer
  | written answer => exact written_inv inv answer
  | commanded answer => exact commanded_inv inv answer
  | released answer => exact released_inv inv answer
  | resume => exact resume_inv inv
  | fact fact => exact onEvent_inv inv fact
  | tick => exact drain_inv inv.kept inv.staged
  | dispose => exact dispose_inv inv

theorem run_inv {a : Arbiter} (inv : Inv watched a) (events : List (Event × Oracle)) :
    Inv watched (run (step budgets) a events) :=
  run_invariant (Inv watched) inv (fun _ event inv => step_inv budgets inv event) events

theorem Inv.new : Inv (fun _ => False) new := ⟨Kept.new, fun _ => rfl, trivial⟩

variable (oracle : Oracle)

theorem begin_log : (a.begin oracle).log = a.log := by
  unfold begin
  split
  · rfl
  split
  · unfold beginProgrammatic
    split_ifs <;> rfl
  · exact congrArg View.log (beginControl_quietly _).view

theorem finish_log : (a.finish oracle).log = a.log := by
  unfold finish
  dsimp only
  split
  · rfl
  split
  · exact begin_log _ oracle
  · exact congrArg View.log (prune_view _)

theorem loop_log : (a.loop oracle).log = a.log := by
  unfold loop
  split
  · exact begin_log a oracle
  split
  · exact congrArg View.log (cleanupFrom_quietly 0 a.counters).view
  · exact finish_log a oracle

/-- The state of the arbiter while a batch fails. The batch is what is left of the programmatic jobs. A head that may run
is in progress; a programmatic one waits for no answer of the worker, and settles untouched with the next continuation.
No job of the batch leaves the queue without settling. -/
structure Draining (budgets : EffectiveBudgets) (a : Arbiter) : Prop where
  batch : ∀ job ∈ a.queue, job.isProgrammatic = true → FailedSince a.log job.id
  some_left : ∃ job ∈ a.queue, job.isProgrammatic = true
  settles : ∀ stage, a.running = some stage → controlStage (some stage) = false →
    ∃ id command receipt, receipt.untouched = true ∧
      ∀ oracle, (a.resume oracle).log = a.log ++ [.settled id command receipt]
  busy : a.headReady = true → a.running ≠ none
  leaves : ∀ events, ∀ job ∈ a.queue, job.isProgrammatic = true →
    (∃ later ∈ (run (step budgets) a events).queue, later.id = job.id ∧ later.isProgrammatic = true) ∨
      ∃ command receipt, .settled job.id command receipt ∈ (run (step budgets) a events).log

/-- Any programmatic job of the queue may be watched. -/
theorem Inv.watch {a : Arbiter} (inv : Inv watched a) :
    Inv (fun id => ∃ job ∈ a.queue, job.id = id ∧ job.isProgrammatic = true) a := by
  refine ⟨{ inv.kept with leaves := ?_ }, inv.busy, inv.staged⟩
  rintro _ ⟨job, queued, rfl, isProgram⟩
  rw [isProgrammatic_eq] at isProgram
  obtain ⟨command, program⟩ := Option.isSome_iff_exists.mp isProgram
  exact .inl ⟨command, List.mem_map.mpr ⟨job, queued, by rw [program]⟩⟩

theorem Inv.draining {a : Arbiter} (inv : Inv watched a) (failing : truthy a.programFailure = true) :
    Draining budgets a := by
  have mapped {job : Job} (member : job ∈ a.queue) : (job.id, programOf job) ∈ (view a).jobs :=
    List.mem_map.mpr ⟨job, member, rfl⟩
  constructor
  · intro job member isProgram
    rw [isProgrammatic_eq] at isProgram
    exact (inv.kept.failing _ (mapped member) isProgram).mpr failing
  · have some_reason : a.programFailure.isSome = true := by
      cases reason : a.programFailure with
      | none => rw [reason] at failing; exact absurd failing (by decide)
      | some => rfl
    obtain ⟨_, entry, member, isProgram⟩ := inv.kept.drained some_reason
    obtain ⟨job, queued, rfl⟩ := List.mem_map.mp member
    exact ⟨job, queued, (isProgrammatic_eq job).trans isProgram⟩
  · intro stage running programmatic
    have staged := inv.staged
    rw [running] at staged
    have steady {P : Prop} (fine : truthy (view a).failure = false) : P :=
      absurd (fine.symm.trans failing) (by decide)
    cases stage with
    | status | accept | write => exact steady staged.1
    | returned receipt =>
      obtain ⟨id, command, rest, head, _, _, untouched⟩ := staged
      cases queue : a.queue with
      | nil => simp [view, queue] at head
      | cons job =>
        have program : programOf job = some command := by
          simp only [view, queue, map_cons, List.cons.injEq, Prod.mk.injEq] at head
          exact head.1.2
        refine ⟨job.id, command, receipt, untouched failing, fun oracle => ?_⟩
        cases work : job.work with
        | control => simp [programOf, work] at program
        | programmatic other =>
          obtain rfl : other = command := by simpa [programOf, work] using program
          simp only [resume, running, queue, head?_cons, work, loop_log, settleProgrammatic]
    | _ => exact absurd programmatic (by simp [controlStage])
  · intro ready idle
    cases (inv.busy idle).symm.trans ready
  · intro events job queued isProgram
    have later := run_inv budgets inv.watch events
    refine (later.kept.leaves job.id ⟨job, queued, rfl, isProgram⟩).imp_left ?_
    rintro ⟨command, member⟩
    obtain ⟨held, there, same⟩ := List.mem_map.mp member
    obtain ⟨id, program⟩ := Prod.mk.inj same
    exact ⟨held, there, id, by rw [isProgrammatic_eq, program, Option.isSome_some]⟩

/-- Once a programmatic job ends without being written completely, no programmatic job admitted before is dispatched,
and each settles untouched, until the batch has drained. Every receipt meets its schema and describes its own input. -/
theorem programmatic_failure_cascades (events : List (Event × Oracle)) :
    Lawful Cascades (run (step budgets) new events).log ∧
      (truthy (run (step budgets) new events).programFailure = true →
        Draining budgets (run (step budgets) new events)) := by
  have inv := run_inv budgets Inv.new events
  exact ⟨inv.kept.lawful, inv.draining budgets⟩

def batchEvents : List (Event × Oracle) :=
  let oracle : Oracle := ⟨fun _ => true, fun _ _ => true, true, true⟩
  let room : Room := ⟨0, true, true, true, 0⟩
  let command : ProgramCommand := ⟨0, 1, true, by decide⟩
  [(.admitProgrammatic command [65] room, oracle), (.admitProgrammatic command [66] room, oracle),
    (.execute 0, oracle), (.execute 1, oracle), (.status (.error (refusal .busy)), oracle), (.resume, oracle)]

theorem second_input_fails : Draining m0Limits (run (step m0Limits) new batchEvents) :=
  (programmatic_failure_cascades m0Limits batchEvents).2 (by decide +kernel)

end Cove.Runtime.ProgramCascade
