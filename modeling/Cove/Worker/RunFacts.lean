import Cove.Worker.RunTurns

/-!
The numbering of a run's facts. Facts that were numbered on arrival are consecutive and stand in the queue
before every item that numbers later, so the facts handed to the model are numbered 1, 2, 3, ... and carry
the bytes of the PTY in order.
-/

namespace Cove.Worker.RunFacts
open Base.Chunks Base.Run Protocol.Identity Protocol.Terminal List Bool Option
open Worker.RunSession Worker.RunSession.Session Worker.RunTurns Session Pending

def factOf : Pending → Option Fact
  | .fact entry _ => some entry
  | _ => none

def isUnpublished : Pending → Bool
  | .unpublished _ _ => true
  | _ => false

def isNumbered (item : Pending) : Bool := (factOf item).isSome || isUnpublished item

def facts (pending : List Pending) : List Fact := pending.filterMap factOf

def payloads (pending : List Pending) : List UInt8 := pending.flatMap Pending.payload

def outputs (applied : List Fact) : List UInt8 := applied.flatMap Fact.bytes

@[simp] theorem facts_append (first second : List Pending) : facts (first ++ second) = facts first ++ facts second :=
  filterMap_append

@[simp] theorem payloads_append (first second : List Pending) :
    payloads (first ++ second) = payloads first ++ payloads second := flatMap_append

theorem facts_eq_nil {pending : List Pending} (none_numbered : ∀ item ∈ pending, isNumbered item = false) :
    facts pending = [] := by
  apply filterMap_eq_nil_iff.mpr
  intro item member
  cases item <;> simp_all [isNumbered]

theorem planned_eq_zero {await : Await} (idle : operating await = false) : planned await = 0 := by
  cases await with
  | apply fact rest | observed ok rest =>
    cases rest <;> simp_all [operating, planned, restFacts]
  | resizing => simp [operating] at idle
  | _ => rfl

structure View where
  pending : List Pending
  applied : List Fact
  arrived : List UInt8
  receivedSeq : Nat
  deferIngress : Bool
  running : Option Running
  faulted : Bool
  disposed : Bool
  counterExhausted : Bool
  native : Bool

def view (session : Session) : View where
  pending := session.pending
  applied := session.applied
  arrived := session.arrived
  receivedSeq := session.receivedSeq
  deferIngress := session.deferIngress
  running := session.running
  faulted := session.faulted
  disposed := session.disposed
  counterExhausted := session.counterExhausted
  native := session.native

def Stopped (v : View) : Prop := v.disposed = true ∨ v.faulted = true ∧ v.running = none

/-- The order of two queue items: what numbers later stands behind what is numbered, and what could not be
numbered any more behind the facts. -/
def Ordered (first later : Pending) : Prop :=
  (first.defers = true → isNumbered later = false) ∧ (isUnpublished first = true → factOf later = none)

/-- The queue while the pump is going, with the item of the turn in progress. -/
structure Queued (v : View) (turn : Option Pending) : Prop where
  counted : v.receivedSeq = v.applied.length + (facts v.pending).length
  numbered : (facts v.pending).map Fact.seq = List.range' (v.applied.length + 1) (facts v.pending).length
  ordered : v.pending.Pairwise Ordered
  deferring : ∀ item ∈ v.pending, item.defers = true → v.deferIngress = true
  inTurn : ∀ item ∈ turn, item.defers = true →
    v.deferIngress = true ∧ ∀ later ∈ v.pending, isNumbered later = false
  unpublished : ∀ item ∈ v.pending, isUnpublished item = true →
    v.counterExhausted = true ∧ v.receivedSeq = maxSafeInteger
  bytes : ∃ lost, outputs v.applied ++ lost ++ payloads v.pending <+: v.arrived ∧
    (v.faulted = false → outputs v.applied ++ lost ++ payloads v.pending = v.arrived) ∧
    (lost ≠ [] → v.counterExhausted = true ∧ v.receivedSeq = maxSafeInteger ∧ facts v.pending = [])

structure Applied (v : View) (left : Nat) : Prop where
  numbers : v.applied.map Fact.seq = List.range' 1 v.applied.length
  heard : outputs v.applied <+: v.arrived
  bound : v.receivedSeq + left ≤ maxSafeInteger

def plannedOf (v : View) : Nat := (v.running.map (fun running => planned running.await)).getD 0

structure Inv (v : View) : Prop where
  applied : Applied v (plannedOf v)
  queued : ¬Stopped v → Queued v (v.running.map Running.item)
  working : ∀ running, v.running = some running → operating running.await = true → running.item.defers = true
  attached : v.running = none ∨ v.native = true ∨ v.disposed = true

/-- The invariant within a turn of `item`, with at most `left` facts still to be numbered by it. -/
structure InTurn (v : View) (item : Pending) (left : Nat) : Prop where
  applied : Applied v left
  queued : v.disposed = false → Queued v (some item)
  attached : v.native = true ∨ v.disposed = true

variable {v : View}

theorem Inv.inTurn {item : Pending} {await : Await} (inv : Inv v) (running : v.running = some ⟨item, await⟩) :
    InTurn v item (planned await) := by
  refine ⟨?_, ?_, ?_⟩
  · have applied := inv.applied
    simpa only [plannedOf, running, map_some, getD_some] using applied
  · intro live
    have going : ¬Stopped v := by
      simp [Stopped, live, running]
    have queued := inv.queued going
    simpa only [running, map_some] using queued
  · rcases inv.attached with idle | ready
    · rw [running] at idle
      cases idle
    · exact ready

section Turn
variable {s : Session} {options : Options} {item : Pending} {left : Nat}

@[simp] theorem view_schedule (s : Session) : view s.schedule = view s := by
  unfold schedule
  split <;> rfl

@[simp] theorem view_requestStop (s : Session) : view s.requestStop = view s := by
  unfold requestStop
  split <;> rfl

@[simp] theorem view_reportFault (s : Session) (fault : RunSessionFault) :
    view (s.reportFault fault) = view s := by
  unfold reportFault
  split <;> rfl

@[simp] theorem view_pauseIfHigh (s : Session) (budgets : Cove.Protocol.Budgets.EffectiveBudgets) :
    view (s.pauseIfHigh budgets) = view s := by
  unfold pauseIfHigh pause
  split
  · rfl
  · split <;> rfl

theorem Queued.fault {turn : Option Pending} (queued : Queued v turn) : Queued { v with faulted := true } turn := by
  obtain ⟨lost, heard, _, exhausted⟩ := queued.bytes
  exact { queued with bytes := ⟨lost, heard, fun live => by simp at live, exhausted⟩ }

theorem Queued.exhaust {turn : Option Pending} (queued : Queued v turn) :
    Queued { v with counterExhausted := true } turn := by
  obtain ⟨lost, heard, whole, last⟩ := queued.bytes
  exact { queued with
    unpublished := fun later member unpublished => ⟨rfl, (queued.unpublished later member unpublished).2⟩
    bytes := ⟨lost, heard, whole, fun nonempty => ⟨rfl, (last nonempty).2⟩⟩ }

theorem view_fault (s : Session) (reason : String) :
    view (s.fault reason) = view s ∨ view (s.fault reason) = { view s with faulted := true } := by
  unfold fault
  split
  · exact .inl rfl
  right
  rw [view_schedule, view_reportFault, view_requestStop]
  rfl

theorem InTurn.fault (turn : InTurn (view s) item left) (reason : String) :
    InTurn (view (s.fault reason)) item left := by
  rcases view_fault s reason with same | faulted
  · rw [same]
    exact turn
  · rw [faulted]
    exact ⟨{ turn.applied with }, fun live => (turn.queued live).fault, turn.attached⟩

theorem Inv.fault (inv : Inv v) : Inv { v with faulted := true } := by
  refine ⟨{ inv.applied with }, ?_, inv.working, inv.attached⟩
  intro going
  have before : ¬Stopped v := by
    intro stopped
    apply going
    rcases stopped with disposed | ⟨_, idle⟩
    · exact .inl disposed
    · exact .inr ⟨rfl, idle⟩
  exact (inv.queued before).fault

theorem inv_fault (inv : Inv (view s)) (reason : String) : Inv (view (s.fault reason)) := by
  rcases view_fault s reason with same | faulted
  · rw [same]
    exact inv
  · rw [faulted]
    exact inv.fault

theorem view_finish (s : Session) (options : Options) (item : Pending) : view (s.finish options item) =
      { view s with running := none, deferIngress := s.pending.any Pending.defers } := by
  unfold finish
  rw [view_schedule]
  split <;> rfl

theorem InTurn.finish (turn : InTurn (view s) item left) : Inv (view (s.finish options item)) := by
  rw [view_finish]
  refine ⟨⟨turn.applied.numbers, turn.applied.heard, ?_⟩, ?_, by simp, .inl rfl⟩
  · have bound := turn.applied.bound
    change (view s).receivedSeq + 0 ≤ maxSafeInteger
    omega
  · intro going
    have live : (view s).disposed = false := by
      by_contra disposed
      exact going (.inl (eq_true_of_not_eq_false disposed))
    have queued := turn.queued live
    refine { queued with deferring := ?_, inTurn := by simp }
    intro waiting member defers
    exact List.any_eq_true.mpr ⟨waiting, member, defers⟩

theorem InTurn.await (turn : InTurn v item left) {await : Await} (within : planned await ≤ left)
    (works : operating await = true → item.defers = true) : Inv { v with running := some ⟨item, await⟩ } := by
  refine ⟨⟨turn.applied.numbers, turn.applied.heard, ?_⟩, ?_, ?_, .inr turn.attached⟩
  · have bound := turn.applied.bound
    change v.receivedSeq + planned await ≤ maxSafeInteger
    omega
  · intro going
    have live : v.disposed = false := by
      by_contra disposed
      exact going (.inl (eq_true_of_not_eq_false disposed))
    exact { turn.queued live with }
  · intro running same working
    obtain rfl := some.inj same
    exact works working

theorem Applied.next (applied : Applied v left) {fact : Fact} (number : fact.seq = v.applied.length + 1) :
    (v.applied ++ [fact]).map Fact.seq = List.range' 1 (v.applied ++ [fact]).length := by
  rw [map_append, applied.numbers, length_append, length_singleton, range'_concat, map_singleton]
  congr 2
  omega

/-- An item that defers ingress takes the next number: no fact that was numbered before it is left. -/
theorem InTurn.next (turn : InTurn v item (left + 1)) (defers : item.defers = true)
    (live : v.disposed = false) (fact : Fact) (number : fact.seq = v.receivedSeq + 1) (silent : fact.bytes = []) :
    InTurn { v with receivedSeq := v.receivedSeq + 1, applied := v.applied ++ [fact] } item left := by
  have queued := turn.queued live
  have bound := turn.applied.bound
  obtain ⟨_, plain⟩ := queued.inTurn item rfl defers
  have none : facts v.pending = [] := facts_eq_nil plain
  have counted : v.receivedSeq = v.applied.length := by
    have count := queued.counted
    rwa [none] at count
  have said : outputs (v.applied ++ [fact]) = outputs v.applied := by
    simp [outputs, silent]
  refine ⟨⟨turn.applied.next (by rw [number, counted]), ?_, ?_⟩,
    fun _ => ⟨?_, ?_, queued.ordered, queued.deferring, queued.inTurn, ?_, ?_⟩, turn.attached⟩
  · rw [said]
    exact turn.applied.heard
  · dsimp only
    omega
  · rw [none, length_append, counted]
    rfl
  · simp [none]
  · -- Nothing unpublished is left, since such an item counts as numbered.
    intro later member unpublished
    have absurdity := plain later member
    simp [isNumbered, unpublished] at absurdity
  · obtain ⟨lost, heard, whole, exhausted⟩ := queued.bytes
    rw [said]
    refine ⟨lost, heard, whole, ?_⟩
    intro nonempty
    have last := (exhausted nonempty).2.1
    omega

theorem view_dispose (s : Session) (fails : Bool) (live : s.disposed = false) : view (s.dispose fails) =
      { view s with pending := [], faulted := s.faulted || fails, disposed := true, native := false } := by
  unfold dispose
  rw [if_neg (by simp [live])]
  change { view (requestStop _) with native := false } = _
  rw [view_requestStop]
  rfl

/-- A disposal keeps what was applied, and nothing is applied after it. -/
theorem InTurn.dispose (turn : InTurn (view s) item left) (live : s.disposed = false) (fails : Bool) :
    InTurn (view (s.dispose fails)) item left := by
  rw [view_dispose s fails live]
  exact ⟨{ turn.applied with }, (fun going => by cases going), .inr rfl⟩

theorem Inv.dispose (inv : Inv (view s)) (fails : Bool) : Inv (view (s.dispose fails)) := by
  by_cases disposed : s.disposed = true
  · unfold Session.dispose
    rw [if_pos disposed]
    exact inv
  · rw [view_dispose s fails (by simpa using disposed)]
    exact ⟨{ inv.applied with }, fun going => absurd (.inl rfl) going,
      inv.working, .inr (.inr rfl)⟩

/-- The numbering is kept in every turn. -/
theorem freeRules (options : Options) :
    FreeRules options (·.defers = true) (fun item left s => InTurn (view s) item left) (fun s => Inv (view s)) where
  idle turn := turn
  exhaust turn := ⟨{ turn.applied with }, fun live => (turn.queued live).exhaust, turn.attached⟩
  fault reason turn := turn.fault reason
  fewer turn fewer := by
    have bound := turn.applied.bound
    refine ⟨⟨turn.applied.numbers, turn.applied.heard, ?_⟩, turn.queued, turn.attached⟩
    simp only [view] at bound ⊢
    omega
  number turn defers live number silent := turn.next defers live _ number silent
  spend turn disposed := by
    have bound := turn.applied.bound
    refine ⟨⟨turn.applied.numbers, turn.applied.heard, ?_⟩, fun live => absurd disposed (eq_false_iff.mp live),
      turn.attached⟩
    simp only [view] at bound ⊢
    omega
  finish turn := turn.finish
  await turn within works _ := turn.await within works
  observed _ := trivial
  free turn := turn
  dispose fails turn live := turn.dispose live fails
  turn inv running := ⟨inv.inTurn running, inv.working _ running⟩
  rest inv := inv

variable {rest : List Pending}

section

variable (queued : Queued v none)
include queued

/-- The item at the head of the queue stands before what is not numbered, if it defers ingress. -/
theorem Queued.headTurn (head : v.pending = item :: rest) (defers : item.defers = true) :
    v.deferIngress = true ∧ ∀ later ∈ rest, isNumbered later = false := by
  have ordered := queued.ordered
  rw [head, pairwise_cons] at ordered
  exact ⟨queued.deferring item (head ▸ mem_cons_self) defers, fun later member => (ordered.1 later member).1 defers⟩

theorem Queued.shift (head : v.pending = item :: rest) (plain : isNumbered item = false) (silent : item.payload = []) :
    Queued { v with pending := rest } (some item) := by
  have kept : facts v.pending = facts rest := by
    rw [head]
    have none : factOf item = none := by
      cases item <;> simp_all [isNumbered]
    simp [facts, none]
  have same : payloads v.pending = payloads rest := by
    rw [head]
    simp [payloads, silent]
  have counted := queued.counted
  have numbered := queued.numbered
  have ordered := queued.ordered
  rw [kept] at counted numbered
  rw [head, pairwise_cons] at ordered
  refine ⟨counted, numbered, ordered.2, ?_, ?_, ?_, ?_⟩
  · exact fun waiting member => queued.deferring waiting (head ▸ mem_cons_of_mem _ member)
  · intro turn same_item
    obtain rfl := some.inj same_item
    exact queued.headTurn head
  · exact fun waiting member => queued.unpublished waiting (head ▸ mem_cons_of_mem _ member)
  · have bytes := queued.bytes
    rw [same, kept] at bytes
    exact bytes

/-- The next fact of the queue is handed to the model: it carries the next number. -/
theorem Queued.applyFact {fact : Fact} {lease : Nat} (head : v.pending = .fact fact lease :: rest) :
    fact.seq = v.applied.length + 1 ∧
      Queued { v with pending := rest, applied := v.applied ++ [fact] } (some (.fact fact lease)) := by
  have front : facts v.pending = fact :: facts rest := by
    rw [head]
    rfl
  have spoken : payloads v.pending = fact.bytes ++ payloads rest := by
    rw [head]
    rfl
  have counted := queued.counted
  have numbered := queued.numbered
  have ordered := queued.ordered
  rw [front, length_cons] at counted numbered
  rw [head, pairwise_cons] at ordered
  obtain ⟨first, others⟩ := List.cons.inj numbered
  refine ⟨first, ?_, ?_, ordered.2, ?_, ?_, ?_, ?_⟩
  · dsimp only
    rw [length_append, length_singleton]
    omega
  · rw [length_append]
    exact others
  · exact fun waiting member => queued.deferring waiting (head ▸ mem_cons_of_mem _ member)
  · intro turn same_item defers
    obtain rfl := some.inj same_item
    cases defers
  · exact fun waiting member => queued.unpublished waiting (head ▸ mem_cons_of_mem _ member)
  · obtain ⟨lost, heard, whole, last⟩ := queued.bytes
    -- A fact is still queued, so no output has been lost.
    have nothing : lost = [] := by
      by_contra some_lost
      have empty := (last some_lost).2.2
      rw [front] at empty
      cases empty
    subst nothing
    rw [spoken] at heard whole
    refine ⟨[], ?_, ?_, fun absurdity => absurd rfl absurdity⟩
    · simpa [outputs] using heard
    · simpa [outputs] using whole

/-- Output or an exit that was deferred takes the next number when its turn comes. -/
theorem Queued.applyDeferred
    (head : v.pending = item :: rest) (defers : item.defers = true) (plain : isNumbered item = false)
    (room : v.receivedSeq ≠ maxSafeInteger) (fact : Fact) (number : fact.seq = v.receivedSeq + 1)
    (bytes : fact.bytes = item.payload) : fact.seq = v.applied.length + 1 ∧
      Queued { v with pending := rest, receivedSeq := v.receivedSeq + 1, applied := v.applied ++ [fact] }
        (some item) := by
  have ordered := queued.ordered
  rw [head, pairwise_cons] at ordered
  obtain ⟨deferring, none_numbered⟩ := queued.headTurn head defers
  have behind : facts rest = [] := facts_eq_nil none_numbered
  have none : facts v.pending = [] := by
    apply facts_eq_nil
    rw [head]
    exact forall_mem_cons.mpr ⟨plain, none_numbered⟩
  have counted : v.receivedSeq = v.applied.length := by
    have count := queued.counted
    rwa [none] at count
  refine ⟨by rw [number, counted], ?_, ?_, ordered.2, ?_, ?_, ?_, ?_⟩
  · rw [behind, length_append, counted]
    rfl
  · simp [behind]
  · intro waiting _ _
    exact deferring
  · intro turn same_item _
    exact ⟨deferring, none_numbered⟩
  · intro waiting member unpublished
    have plain_later := none_numbered waiting member
    simp [isNumbered, unpublished] at plain_later
  · obtain ⟨lost, heard, whole, last⟩ := queued.bytes
    have nothing : lost = [] := by
      by_contra some_lost
      exact room (last some_lost).2.1
    subst nothing
    rw [head] at heard whole
    refine ⟨[], ?_, ?_, fun absurdity => absurd rfl absurdity⟩
    · simpa [outputs, payloads, bytes] using heard
    · simpa [outputs, payloads, bytes] using whole

/-- Output that cannot be numbered any more leaves the queue without becoming a fact. -/
theorem Queued.lose (head : v.pending = item :: rest)
    (late : item.defers = true ∨ isUnpublished item = true) (plain : factOf item = none)
    (last : v.receivedSeq = maxSafeInteger) {exhausted : Bool} (spent : exhausted = true) :
    Queued { v with pending := rest, counterExhausted := exhausted } (some item) := by
  have ordered := queued.ordered
  rw [head, pairwise_cons] at ordered
  have behind : facts rest = [] := by
    apply filterMap_eq_nil_iff.mpr
    intro later member
    rcases late with defers | unpublished
    · have numbered := (queued.headTurn head defers).2 later member
      simp only [isNumbered, or_eq_false_iff] at numbered
      simpa using numbered.1
    · exact (ordered.1 later member).2 unpublished
  have none : facts v.pending = [] := by
    rw [head]
    simp [facts, plain]
    simpa [facts] using behind
  have counted := queued.counted
  rw [none] at counted
  refine ⟨by rw [behind]; exact counted, by simp [behind], ordered.2, ?_, ?_, ?_, ?_⟩
  · exact fun waiting member => queued.deferring waiting (head ▸ mem_cons_of_mem _ member)
  · intro turn same_item
    obtain rfl := some.inj same_item
    exact queued.headTurn head
  · intro waiting member unpublished
    exact ⟨spent, last⟩
  · obtain ⟨lost, heard, whole, _⟩ := queued.bytes
    rw [head] at heard whole
    refine ⟨lost ++ item.payload, ?_, ?_, fun _ => ⟨spent, last, behind⟩⟩
    · simpa [payloads] using heard
    · simpa [payloads] using whole

end

structure Ready (v : View) : Prop where
  inv : Inv v
  idle : v.running = none
  fine : v.faulted = false
  live : v.disposed = false
  native : v.native = true

theorem Ready.queued (ready : Ready v) : Queued v none := by
  have going : ¬Stopped v := by
    simp [Stopped, ready.live, ready.fine]
  have queued := ready.inv.queued going
  rwa [ready.idle] at queued

theorem Ready.bound (ready : Ready v) : v.receivedSeq ≤ maxSafeInteger := by
  have bound := ready.inv.applied.bound
  omega

theorem Ready.turn (ready : Ready v) (head : v.pending = item :: rest)
    (plain : isNumbered item = false) (silent : item.payload = []) : InTurn { v with pending := rest } item 0 := by
  refine ⟨⟨ready.inv.applied.numbers, ready.inv.applied.heard, ready.bound⟩, fun _ => ready.queued.shift head plain silent,
    .inl ready.native⟩

theorem Ready.next {v after : View} (ready : Ready v) {fact : Fact} (queued : Queued after (some item))
    (number : fact.seq = v.applied.length + 1) (applied : after.applied = v.applied ++ [fact])
    (bound : after.receivedSeq ≤ maxSafeInteger) (native : after.native = v.native) : InTurn after item 0 := by
  refine ⟨⟨?_, ?_, bound⟩, fun _ => queued, .inl (native.trans ready.native)⟩
  · rw [applied]
    exact ready.inv.applied.next number
  · obtain ⟨lost, heard, _, _⟩ := queued.bytes
    exact ((prefix_append _ _).trans (prefix_append _ _)).trans heard

theorem Ready.lose (ready : Ready v) (head : v.pending = item :: rest)
    (late : item.defers = true ∨ isUnpublished item = true) (plain : factOf item = none)
    (last : v.receivedSeq = maxSafeInteger) {exhausted : Bool} (spent : exhausted = true) :
    InTurn { v with pending := rest, counterExhausted := exhausted } item 0 :=
  ⟨⟨ready.inv.applied.numbers, ready.inv.applied.heard, ready.bound⟩,
    fun _ => ready.queued.lose head late plain last spent, .inl ready.native⟩

theorem Ready.start (ready : Ready (view s)) (head : s.pending = item :: rest)
    (oracle : Oracle) : Inv (view (({ s with pending := rest }).start options item oracle)) := by
  have live : s.disposed = false := ready.live
  have bound : s.receivedSeq ≤ maxSafeInteger := ready.bound
  cases item with
  | barrier | baseline | preview => exact (ready.turn head rfl rfl).await le_rfl (by simp [operating])
  | operation operation promise =>
    have turn : InTurn (view { s with pending := rest }) (.operation operation promise) 0 :=
      ready.turn head rfl rfl
    exact (freeRules options).runOperation turn rfl live operation oracle
  | unpublished bytes lease =>
    obtain ⟨exhausted, last⟩ := ready.queued.unpublished _ (head ▸ mem_cons_self) rfl
    exact (ready.lose head (.inr rfl) rfl last exhausted).await le_rfl (by simp [operating])
  | deferredOutput bytes lease =>
    unfold start
    dsimp only
    split
    next last => exact (ready.lose head (.inl rfl) rfl last rfl).await le_rfl (by simp [operating])
    rename_i room
    unfold applyNext applyFact
    rw [if_neg (by simp [live])]
    obtain ⟨number, queued⟩ := ready.queued.applyDeferred head rfl rfl room
      ⟨.output options.run (s.receivedSeq + 1), bytes⟩ rfl rfl
    exact (ready.next queued number rfl (Nat.lt_of_le_of_ne bound room) rfl).await le_rfl (by simp [operating])
  | deferredExit exit lease =>
    unfold start
    dsimp only
    split
    next last =>
      have turn : InTurn (view { s with pending := rest, counterExhausted := true })
          (.deferredExit exit lease) 0 := ready.lose head (.inl rfl) rfl last rfl
      exact turn.finish
    next room =>
      unfold applyNext applyFact
      rw [if_neg (by simp [live])]
      obtain ⟨number, queued⟩ := ready.queued.applyDeferred head rfl rfl room
        ⟨.exit options.run (s.receivedSeq + 1) (reportedExit options.signalNames exit).1
          (reportedExit options.signalNames exit).2, []⟩ rfl rfl
      exact (ready.next queued number rfl (Nat.lt_of_le_of_ne bound room) rfl).await le_rfl (by simp [operating])
  | fact fact lease =>
    unfold start applyFact
    dsimp only
    rw [if_neg (by simp [live])]
    obtain ⟨number, queued⟩ := ready.queued.applyFact head
    exact (ready.next queued number rfl bound rfl).await le_rfl (by simp [operating])

theorem Inv.release (inv : Inv v) (stopped : Stopped v) : Inv { v with pending := [] } :=
  ⟨{ inv.applied with }, fun going => absurd stopped going, inv.working, inv.attached⟩

theorem Inv.releasePending (inv : Inv (view s)) (stopped : Stopped (view s)) (reason : String)
    (fails : Bool) : Inv (view (s.releasePending reason fails)) := by
  have released : Inv (view (s.releaseItems reason)) := inv.release stopped
  unfold Session.releasePending
  split
  · exact released.dispose fails
  · exact released

theorem Inv.drainOne (inv : Inv (view s)) (oracle : Oracle) : Inv (view (s.drainOne options oracle)) := by
  unfold Session.drainOne
  split
  · exact inv
  rename_i open_
  push Not at open_
  obtain ⟨idle, live, native⟩ := open_
  have idle : s.running = none := by simpa using idle
  split
  next faulted => exact inv.releasePending (.inr ⟨faulted, idle⟩) _ _
  rename_i fine
  split
  · exact inv
  next item rest head =>
    exact Ready.start ⟨inv, idle, eq_false_of_not_eq_true fine, eq_false_of_not_eq_true live, native⟩
      head oracle

/-- Items that number later, or never, are appended. -/
theorem Queued.append {turn : Option Pending} (queued : Queued v turn) {items : List Pending}
    {deferIngress : Bool} {bytes : List UInt8} (plain : ∀ item ∈ items, isNumbered item = false)
    (raised : v.deferIngress = true → deferIngress = true)
    (defers : ∀ item ∈ items, item.defers = true → deferIngress = true) (carried : payloads items = bytes)
    (fine : bytes = [] ∨ v.faulted = false) : Queued { v with
      pending := v.pending ++ items
      deferIngress := deferIngress
      arrived := v.arrived ++ bytes } turn := by
  have none : facts (v.pending ++ items) = facts v.pending := by
    rw [facts_append, facts_eq_nil plain, append_nil]
  have behind (first later : Pending) (member : later ∈ items) : Ordered first later :=
    ⟨fun _ => plain later member, fun _ => filterMap_eq_nil_iff.mp (facts_eq_nil plain) later member⟩
  refine ⟨none ▸ queued.counted, none ▸ queued.numbered, ?_, ?_, ?_, ?_, ?_⟩
  · exact pairwise_append.mpr ⟨queued.ordered, pairwise_of_forall_mem_list (fun first _ later => behind first later),
      fun first _ later => behind first later⟩
  · exact forall_mem_append.mpr ⟨fun item before later => raised (queued.deferring item before later), defers⟩
  · intro item running later
    obtain ⟨deferring, plain_rest⟩ := queued.inTurn item running later
    exact ⟨raised deferring, forall_mem_append.mpr ⟨plain_rest, plain⟩⟩
  · refine forall_mem_append.mpr ⟨queued.unpublished, fun item after unpublished => ?_⟩
    have numbered := plain item after
    simp [isNumbered, unpublished] at numbered
  · obtain ⟨lost, heard, whole, spent⟩ := queued.bytes
    have extended : outputs v.applied ++ lost ++ payloads (v.pending ++ items) =
        outputs v.applied ++ lost ++ payloads v.pending ++ bytes := by
      rw [payloads_append, carried, append_assoc _ (payloads _)]
    refine ⟨lost, ?_, ?_, none ▸ spent⟩
    · rw [extended]
      rcases fine with rfl | fine
      · simpa using heard
      · rw [whole fine]
    · intro going
      rw [extended, whole going]

theorem Inv.push (inv : Inv v) (item : Pending) (deferIngress : Bool) (plain : isNumbered item = false)
    (silent : item.payload = []) (raised : v.deferIngress = true → deferIngress = true)
    (defers : item.defers = true → deferIngress = true) :
    Inv { v with pending := v.pending ++ [item], deferIngress := deferIngress } := by
  refine ⟨{ inv.applied with }, fun going => ?_, inv.working, inv.attached⟩
  have queued := (inv.queued going).append (forall_mem_singleton.mpr plain) raised (forall_mem_singleton.mpr defers)
    (by simp [payloads, silent]) (.inl rfl)
  rwa [append_nil] at queued

structure Prepared (receivedSeq : Nat) (prepared : List Pending) (last : Nat) (exhausted : Bool) : Prop where
  counted : last = receivedSeq + (facts prepared).length
  numbered : (facts prepared).map Fact.seq = List.range' (receivedSeq + 1) (facts prepared).length
  ordered : prepared.Pairwise Ordered
  plain : ∀ item ∈ prepared, item.defers = false
  bound : last ≤ maxSafeInteger
  unpublished : ∀ item ∈ prepared, isUnpublished item = true → exhausted = true ∧ last = maxSafeInteger
  full : receivedSeq = maxSafeInteger → facts prepared = []

theorem prepare_numbered (run : RunRef) (lease : Nat) (owned : List (List UInt8)) (receivedSeq : Nat)
    (bound : receivedSeq ≤ maxSafeInteger) :
    Prepared receivedSeq (prepare run false lease owned receivedSeq).1 (prepare run false lease owned receivedSeq).2.1
      (prepare run false lease owned receivedSeq).2.2 := by
  induction owned generalizing receivedSeq with
  | nil => exact ⟨rfl, rfl, List.Pairwise.nil, by simp [prepare], bound, by simp [prepare], fun _ => rfl⟩
  | cons chunk rest ih =>
    simp only [prepare, false_eq_true, if_false]
    split
    next last =>
      have tail := ih receivedSeq bound
      have empty := tail.full last
      have total : (prepare run false lease rest receivedSeq).2.1 = maxSafeInteger := by
        have count := tail.counted
        rw [empty] at count
        rw [count, last]
        rfl
      refine ⟨?_, ?_, ?_, ?_, tail.bound, ?_, fun _ => empty⟩
      · exact tail.counted
      · exact tail.numbered
      · refine pairwise_cons.mpr ⟨?_, tail.ordered⟩
        intro later member
        refine ⟨by simp [defers], fun _ => ?_⟩
        exact filterMap_eq_nil_iff.mp empty later member
      · exact forall_mem_cons.mpr ⟨rfl, tail.plain⟩
      · intro item _ _
        exact ⟨rfl, total⟩
    next room =>
      have below : receivedSeq + 1 ≤ maxSafeInteger := Nat.lt_of_le_of_ne bound room
      have tail := ih (receivedSeq + 1) below
      have count := tail.counted
      refine ⟨?_, ?_, ?_, ?_, tail.bound, ?_, fun last => absurd last room⟩
      · change (prepare run false lease rest (receivedSeq + 1)).2.1 =
          receivedSeq + ((facts (prepare run false lease rest (receivedSeq + 1)).1).length + 1)
        omega
      · have numbered := tail.numbered
        simp only [facts, filterMap_cons, factOf, map_cons] at numbered ⊢
        rw [numbered]
        rfl
      · refine pairwise_cons.mpr ⟨?_, tail.ordered⟩
        intro later member
        exact ⟨by simp [defers], by simp [isUnpublished]⟩
      · exact forall_mem_cons.mpr ⟨rfl, tail.plain⟩
      · exact forall_mem_cons.mpr ⟨nofun, tail.unpublished⟩

theorem prepare_payloads (run : RunRef) (deferIngress : Bool) (lease : Nat) (owned : List (List UInt8))
    (receivedSeq : Nat) : payloads (prepare run deferIngress lease owned receivedSeq).1 = owned.flatten := by
  induction owned generalizing receivedSeq with
  | nil => rfl
  | cons chunk rest ih =>
    simp only [prepare]
    split_ifs
    · simpa [payloads, payload] using ih receivedSeq
    · simpa [payloads, payload] using ih receivedSeq
    · simpa [payloads, payload] using ih (receivedSeq + 1)

theorem prepare_deferred (run : RunRef) (lease : Nat) (owned : List (List UInt8)) (receivedSeq : Nat) :
    prepare run true lease owned receivedSeq =
      (owned.map (fun chunk => .deferredOutput chunk lease), receivedSeq, false) := by
  induction owned with
  | nil => rfl
  | cons chunk rest ih => simp [prepare, ih]

theorem Queued.arrive {turn : Option Pending} {prepared : List Pending} {last : Nat} {exhausted : Bool}
    {bytes : List UInt8} (queued : Queued v turn) (fine : v.faulted = false) (direct : v.deferIngress = false)
    (new : Prepared v.receivedSeq prepared last exhausted) (carried : payloads prepared = bytes) : Queued { v with
      pending := v.pending ++ prepared
      receivedSeq := last
      counterExhausted := v.counterExhausted || exhausted
      arrived := v.arrived ++ bytes } turn := by
  have counted := queued.counted
  have count := new.counted
  have none_defers (item : Pending) (member : item ∈ v.pending) : item.defers ≠ true := by
    intro defers
    have deferring := queued.deferring item member defers
    rw [direct] at deferring
    cases deferring
  -- Once the counter is exhausted nothing that arrives is numbered any more.
  have full : v.receivedSeq = maxSafeInteger → last = maxSafeInteger := by
    intro spent
    rw [count, new.full spent, spent]
    rfl
  refine ⟨?_, ?_, ?_, ?_, ?_, ?_, ?_⟩
  · simp only [facts_append, length_append]
    omega
  · simp only [facts_append, map_append, length_append]
    rw [queued.numbered, new.numbered, ← range'_append_1]
    congr 2
    omega
  · refine pairwise_append.mpr ⟨queued.ordered, new.ordered, ?_⟩
    intro first before later after
    refine ⟨fun defers => absurd defers (none_defers first before), fun unpublished => ?_⟩
    have spent := (queued.unpublished first before unpublished).2
    exact filterMap_eq_nil_iff.mp (new.full spent) later after
  · intro item member defers
    rcases mem_append.mp member with before | after
    · exact absurd defers (none_defers item before)
    · rw [new.plain item after] at defers
      cases defers
  · intro item running defers
    have deferring := (queued.inTurn item running defers).1
    rw [direct] at deferring
    cases deferring
  · intro item member unpublished
    rcases mem_append.mp member with before | after
    · obtain ⟨spent, at_last⟩ := queued.unpublished item before unpublished
      exact ⟨by simp [spent], full at_last⟩
    · obtain ⟨spent, at_last⟩ := new.unpublished item after unpublished
      exact ⟨by simp [spent], at_last⟩
  · obtain ⟨lost, heard, whole, spent⟩ := queued.bytes
    have exact_bytes := whole fine
    have extended : outputs v.applied ++ lost ++ payloads (v.pending ++ prepared) = v.arrived ++ bytes := by
      rw [payloads_append, carried, ← exact_bytes]
      simp only [append_assoc]
    refine ⟨lost, ?_, fun _ => extended, ?_⟩
    · rw [extended]
    · intro nonempty
      obtain ⟨flag, at_last, empty⟩ := spent nonempty
      refine ⟨by simp [flag], full at_last, ?_⟩
      rw [facts_append, empty, new.full at_last]
      rfl

theorem Inv.unheard (inv : Inv v) (bytes : List UInt8) (ended : v.faulted = true ∨ v.disposed = true) :
    Inv { v with arrived := v.arrived ++ bytes } := by
  refine ⟨⟨inv.applied.numbers, inv.applied.heard.trans (prefix_append _ _), inv.applied.bound⟩, fun going => ?_,
    inv.working, inv.attached⟩
  have queued := inv.queued going
  obtain ⟨lost, heard, _, spent⟩ := queued.bytes
  refine { queued with bytes := ⟨lost, heard.trans (prefix_append _ _), fun fine => ?_, spent⟩ }
  rcases ended with faulted | disposed
  · rw [faulted] at fine
    cases fine
  · exact absurd (.inl disposed) going

theorem Inv.faultUnheard (inv : Inv (view s)) (bytes : List UInt8) (reason : String) :
    Inv (view (({ s with arrived := s.arrived ++ bytes }).fault reason)) := by
  by_cases ended : s.faulted = true ∨ s.disposed = true
  · exact inv_fault (inv.unheard bytes ended) reason
  have faulted := (inv.fault).unheard bytes (.inl rfl)
  unfold Session.fault
  rw [if_neg ended, view_schedule, view_reportFault, view_requestStop]
  exact faulted

/-- An operation that still has facts to number defers ingress. -/
theorem Inv.unplanned (inv : Inv v) (going : ¬Stopped v) (direct : v.deferIngress = false) : plannedOf v = 0 := by
  unfold plannedOf
  cases running : v.running with
  | none => rfl
  | some turn =>
    apply planned_eq_zero
    by_contra working
    have defers := inv.working turn running (by simpa using working)
    have deferring := ((inv.queued going).inTurn turn.item (by simp [running]) defers).1
    rw [direct] at deferring
    cases deferring

theorem chunks_flatten (bytes : List UInt8) : (chunks bytes).flatten = bytes :=
  flatten_chunksOf (by decide) bytes

theorem Inv.arrive (inv : Inv v) (live : v.disposed = false) (fine : v.faulted = false)
    (direct : v.deferIngress = false) {prepared : List Pending} {last : Nat} {exhausted : Bool} {bytes : List UInt8}
    (new : Prepared v.receivedSeq prepared last exhausted) (carried : payloads prepared = bytes) : Inv { v with
      pending := v.pending ++ prepared
      receivedSeq := last
      counterExhausted := v.counterExhausted || exhausted
      arrived := v.arrived ++ bytes } := by
  have going : ¬Stopped v := by
    simp [Stopped, live, fine]
  refine ⟨⟨inv.applied.numbers, inv.applied.heard.trans (prefix_append _ _), ?_⟩,
    fun _ => (inv.queued going).arrive fine direct new carried, inv.working, inv.attached⟩
  change _ + plannedOf v ≤ maxSafeInteger
  rw [inv.unplanned going direct]
  exact new.bound

theorem Inv.accept (inv : Inv (view s)) (live : s.disposed = false) (fine : s.faulted = false) (bytes : List UInt8) :
    Inv (view { s with
      pending := s.pending ++
        (prepare options.run s.deferIngress s.leases.length (chunks bytes) s.receivedSeq).1
      receivedSeq :=
        (prepare options.run s.deferIngress s.leases.length (chunks bytes) s.receivedSeq).2.1
      counterExhausted := s.counterExhausted ||
        (prepare options.run s.deferIngress s.leases.length (chunks bytes) s.receivedSeq).2.2
      arrived := s.arrived ++ bytes }) := by
  have bound : s.receivedSeq + plannedOf (view s) ≤ maxSafeInteger := inv.applied.bound
  have carried := prepare_payloads options.run s.deferIngress s.leases.length (chunks bytes) s.receivedSeq
  rw [chunks_flatten] at carried
  cases deferred : s.deferIngress with
  | true =>
    rw [deferred, prepare_deferred] at carried
    rw [prepare_deferred]
    refine ⟨⟨inv.applied.numbers, inv.applied.heard.trans (prefix_append _ _), bound⟩, fun going => ?_, inv.working,
      inv.attached⟩
    have queued := (inv.queued going).append (by simp [isNumbered, factOf, isUnpublished]) id (fun _ _ _ => deferred)
      carried (.inr fine)
    simpa [view, deferred] using queued
  | false =>
    have new := prepare_numbered options.run s.leases.length (chunks bytes) s.receivedSeq (by omega)
    rw [deferred] at carried
    simpa [view, deferred] using inv.arrive live fine deferred new carried

theorem Inv.onData (inv : Inv (view s)) (bytes : List UInt8) (reservation : Reservation) :
    Inv (view ((s.produce bytes).onData options bytes reservation)) := by
  unfold produce
  split
  next exited =>
    unfold Session.onData
    rw [if_pos (.inr (.inr exited))]
    exact inv
  next running =>
    unfold Session.onData
    split
    next closed =>
      have ended : s.faulted = true ∨ s.disposed = true := by
        rcases closed with disposed | faulted | exited
        · exact .inr disposed
        · exact .inl faulted
        · exact absurd exited running
      exact inv.unheard bytes ended
    next closed =>
      push Not at closed
      have live : s.disposed = false := by simpa using closed.1
      have fine : s.faulted = false := by simpa using closed.2.1
      split
      · exact inv.faultUnheard bytes _
      split
      · exact inv.faultUnheard bytes _
      cases reservation with
      | refused | failed => exact inv.faultUnheard bytes _
      | granted =>
        dsimp only
        rw [view_schedule, view_pauseIfHigh]
        exact inv.accept live fine bytes

/-- The exit of the PTY is numbered on arrival, or deferred like output. -/
theorem Inv.pushExit (inv : Inv (view s)) (live : s.disposed = false) (fine : s.faulted = false)
    (direct : s.deferIngress = false) (room : s.receivedSeq ≠ maxSafeInteger) (fact : Fact)
    (number : fact.seq = s.receivedSeq + 1) (silent : fact.bytes = []) (lease : Nat) : Inv (view { s with
      pending := s.pending ++ [.fact fact lease]
      receivedSeq := s.receivedSeq + 1 }) := by
  have bound : s.receivedSeq + plannedOf (view s) ≤ maxSafeInteger := inv.applied.bound
  have new : Prepared s.receivedSeq [.fact fact lease] (s.receivedSeq + 1) false := by
    refine ⟨rfl, by simp [facts, factOf, number], pairwise_singleton _ _, by simp [defers], by omega,
      by simp [isUnpublished], fun last => absurd last room⟩
  simpa [view, payloads, payload, silent] using inv.arrive live fine direct new rfl

theorem Inv.onFault (inv : Inv (view s)) (fault : NativeFault) : Inv (view (s.onFault fault)) := by
  unfold Session.onFault
  split
  · rw [view_reportFault]
    exact inv
  split
  · exact inv
  have faulted := inv.fault
  dsimp only
  split
  · rw [view_requestStop]
    exact faulted
  · rw [view_schedule, view_reportFault, view_requestStop]
    exact faulted

theorem Inv.attach (inv : Inv (view s)) (fails : Bool) : Inv (view (s.attach options.budgets fails)) := by
  unfold Session.attach
  split
  · exact inv
  rename_i unattached
  have attached : Inv (view { s with native := true }) :=
    ⟨{ inv.applied with }, fun going => { inv.queued going with }, inv.working,
      .inr (.inl rfl)⟩
  dsimp only
  split
  next ended =>
    -- The pump has not run before: it needs the native PTY.
    have stopped : Stopped (view { s with native := true }) := by
      rcases ended with faulted | disposed
      · rcases inv.attached with idle | native | disposed
        · exact .inr ⟨faulted, idle⟩
        · exact absurd native unattached
        · exact .inl disposed
      · exact .inl disposed
    rw [view_requestStop]
    exact attached.releasePending stopped _ _
  next =>
    rw [view_schedule, view_pauseIfHigh]
    exact attached

theorem payload_of_unleased (free : item.lease? = none) : item.payload = [] := by
  cases item <;> first | rfl | cases free

theorem isNumbered_of_unleased (free : item.lease? = none) : isNumbered item = false := by
  cases item <;> first | rfl | cases free

theorem between (options : Options) : Between options (fun s => Inv (view s)) where
  still inv := inv
  fault reason inv := inv_fault inv reason
  onFault fault inv := inv.onFault fault
  dispose fails inv := inv.dispose fails
  exited inv := inv
  exhaust inv := ⟨{ inv.applied with }, fun going => (inv.queued going).exhaust, inv.working, inv.attached⟩
  unpause inv _ := inv
  enqueue {s item deferIngress} inv free defers := by
    unfold Session.enqueue
    rw [view_schedule, view_pauseIfHigh]
    refine inv.push (item s.promises) deferIngress (isNumbered_of_unleased (free _)) (payload_of_unleased (free _)) ?_ ?_
    · rcases defers with rfl | ⟨rfl, -⟩
      · exact fun _ => rfl
      · exact id
    · rcases defers with rfl | ⟨-, plain⟩
      · exact fun _ => rfl
      · exact fun deferring => absurd deferring (by simp [plain])
  exitDeferred {s exit} inv _ deferring := by
    rw [view_schedule]
    exact inv.push (.deferredExit exit s.leases.length) s.deferIngress rfl rfl id (fun _ => deferring)
  exitNumbered inv live fine _ direct room := by
    rw [view_schedule]
    exact inv.pushExit live fine direct room _ rfl rfl _

theorem step_inv (options : Options) (event : Event) (inv : Inv (view s)) : Inv (view (step options s event)) := by
  cases event with
  | attach fails => exact inv.attach fails
  | data bytes reservation => exact inv.onData bytes reservation
  | drain oracle =>
    unfold step
    dsimp only
    split
    · have due : Inv (view { s with scheduled := false }) := inv
      exact due.drainOne oracle
    · exact inv
  | exit | nativeFault | automaticOutput | barrier | captureBaseline | capturePreview | execute | dispose | paused
  | resumed | stopped => exact (between options).step inv rfl
  | _ => exact (freeRules options).step inv rfl

end Turn

theorem new_inv (options : Options) : Inv (view (new options)) := by
  refine ⟨⟨rfl, prefix_refl _, zero_le⟩, fun _ => ?_, by simp [view, new], .inl rfl⟩
  refine ⟨rfl, rfl, List.Pairwise.nil, by simp [view, new], by simp [view, new],
    by simp [view, new], [], prefix_refl _, fun _ => rfl, fun nonempty => absurd rfl nonempty⟩

theorem run_inv (options : Options) (events : List Event) : Inv (view (run (step options) (new options) events)) :=
  run_invariant (fun s => Inv (view s)) (new_inv options) (fun _ event inv => step_inv options event inv)
    events

/-- In every run the facts handed to the model are numbered 1, 2, 3, ..., and their output is the beginning
of what the PTY produced. Until the run faults, is disposed of or exhausts its counter, that output and what
is still queued are together everything the PTY produced. -/
theorem run_fact_sequencing (options : Options) (events : List Event) :
    let session := run (step options) (new options) events
    session.applied.map Fact.seq = List.range' 1 session.applied.length ∧
    outputs session.applied <+: session.arrived ∧
    (session.faulted = false → session.disposed = false → session.counterExhausted = false →
      outputs session.applied ++ payloads session.pending = session.arrived) := by
  intro session
  have inv : Inv (view session) := run_inv options events
  refine ⟨inv.applied.numbers, inv.applied.heard, ?_⟩
  intro fine live unexhausted
  have going : ¬Stopped (view session) := by
    simp [Stopped, view, fine, live]
  obtain ⟨lost, _, whole, spent⟩ := (inv.queued going).bytes
  have nothing : lost = [] := by
    by_contra some_lost
    have exhausted : session.counterExhausted = true := (spent some_lost).1
    rw [unexhausted] at exhausted
    cases exhausted
  subst nothing
  have total := whole fine
  rw [append_nil] at total
  exact total

end Cove.Worker.RunFacts
