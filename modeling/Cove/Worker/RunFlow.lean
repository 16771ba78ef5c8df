import Cove.Worker.FactFraming
import Cove.Worker.RunFacts

/-!
Flow control of a run. The byte counter and the ingress leases are accounted for by the items queued and the item in
turn, and a PTY that is paused while the run is live has an item ahead of it whose turn will come.
-/

namespace Cove.Worker.RunFlow
open Base.Run Protocol.Budgets Protocol.Terminal Protocol.Identity List
open Worker.RunSession Worker.RunSession.Session Worker.RunTurns Worker.RunFacts Session

def leasesOf (items : List Pending) : List Nat := items.filterMap Pending.lease?

/-- How often a lease has been released: each of its items counts it down once, and the one that reaches zero
releases it. -/
def releases (lease : Nat) : Nat → List Nat → Nat
  | _, [] => 0
  | remaining, item :: retired =>
      if item = lease then (if remaining = 1 then 1 else 0) + releases lease (remaining - 1) retired
      else releases lease remaining retired

theorem releases_eq (lease remaining : Nat) (retired : List Nat) :
    releases lease remaining retired = if 0 < remaining ∧ remaining ≤ retired.count lease then 1 else 0 := by
  induction retired generalizing remaining with
  | nil =>
    rw [if_neg (by simp; omega)]
    rfl
  | cons item retired ih =>
    by_cases same : item = lease
    · subst same
      simp only [releases, ih, count_cons_self]
      split_ifs <;> omega
    · simp [releases, same, ih]

variable (s : Session)

def items : List Pending := (s.running.map Running.item).toList ++ s.pending

structure Account where
  pending : List Pending
  queuedBytes : Nat
  leases : List Nat
  retired : List Nat

def account : Account := ⟨s.pending, s.queuedBytes, s.leases, s.retired⟩

/-- The books of the queue, with the item in turn. The items of a lease are queued or have been retired. -/
structure Books (hard : Nat) (a : Account) (turn : Option Pending) : Prop where
  counted : a.queuedBytes = (payloads (turn.toList ++ a.pending)).length
  bounded : a.queuedBytes ≤ hard
  leases : ∀ i, (leasesOf (turn.toList ++ a.pending)).count i + a.retired.count i = a.leases[i]?.getD 0
  charged : ∀ count ∈ a.leases, 0 < count

def Held : Prop :=
  s.native = true ∧ s.faulted = false ∧ s.disposed = false ∧ s.exited = false ∧ s.paused = true

/-- An item is ahead of a PTY that is held, and the drain of it is due or in progress. -/
def Awake : Prop :=
  Held s → items s ≠ [] ∧ (s.running.isSome = true ∨ s.scheduled = true)

def Unattached : Prop := s.native = false → s.disposed = false → s.paused = false

def Flow (hard : Nat) (s : Session) : Prop :=
  Books hard (account s) (s.running.map Running.item) ∧ Awake s ∧ Unattached s

section Books

variable {hard : Nat} {a : Account} {turn : Option Pending}

theorem Books.push (books : Books hard a turn) (items : List Pending) (bytes : Nat) (leases : List Nat)
    (carried : (payloads items).length = bytes) (room : a.queuedBytes + bytes ≤ hard)
    (taken : ∀ i, (leasesOf items).count i + a.leases[i]?.getD 0 = (a.leases ++ leases)[i]?.getD 0)
    (charged : ∀ count ∈ leases, 0 < count) : Books hard { a with
      pending := a.pending ++ items, queuedBytes := a.queuedBytes + bytes, leases := a.leases ++ leases } turn where
  counted := by
    have counted := books.counted
    simp only [payloads_append, length_append] at counted ⊢
    omega
  bounded := room
  leases := by
    intro i
    have before := books.leases i
    have new := taken i
    simp only [leasesOf, filterMap_append, count_append] at before new ⊢
    omega
  charged := fun count member => (mem_append.mp member).elim (books.charged count) (charged count)

theorem taken_one (leases : List Nat) (count i : Nat) :
    (replicate count leases.length).count i + leases[i]?.getD 0 = (leases ++ [count])[i]?.getD 0 := by
  rcases lt_trichotomy i leases.length with earlier | rfl | later
  · rw [count_eq_zero.mpr (by simp; omega), getElem?_append_left earlier, Nat.zero_add]
  · simp
  · rw [count_eq_zero.mpr (by simp; omega), getElem?_eq_none later.le, getElem?_eq_none (by simpa using later)]
    rfl

theorem Books.retire {item : Pending} (books : Books hard a (some item)) : Books hard { a with
      queuedBytes := a.queuedBytes - item.payload.length, retired := a.retired ++ item.lease?.toList } none where
  counted := by
    have counted := books.counted
    simp only [payloads, Option.toList_some, Option.toList_none, singleton_append, nil_append, flatMap_cons,
      length_append] at counted ⊢
    omega
  bounded := (Nat.sub_le _ _).trans books.bounded
  leases := by
    intro i
    have before := books.leases i
    simp only [leasesOf, filterMap_append, count_append] at before ⊢
    cases found : item.lease? <;> simp [found] at before ⊢ <;> omega
  charged := books.charged

theorem Books.release (books : Books hard a turn) : Books hard { a with
      pending := []
      queuedBytes := a.queuedBytes - (payloads a.pending).length
      retired := a.retired ++ leasesOf a.pending } turn where
  counted := by
    have counted := books.counted
    simp only [payloads_append, length_append, append_nil] at counted ⊢
    omega
  bounded := (Nat.sub_le _ _).trans books.bounded
  leases := by
    intro i
    have before := books.leases i
    simp only [leasesOf, filterMap_append, count_append, append_nil] at before ⊢
    omega
  charged := books.charged

end Books

variable {hard : Nat} {options : Options} {s : Session} {item : Pending} {left : Nat}

theorem flow_schedule (books : Books hard (account s) (s.running.map Running.item)) (ahead : Held s → items s ≠ [])
    (unattached : Unattached s) : Flow hard s.schedule := by
  unfold schedule
  split
  next due =>
    refine ⟨books, fun held => ⟨ahead held, ?_⟩, unattached⟩
    obtain ⟨native, _, live, _⟩ := held
    simp only [native, live, not_true, Bool.false_eq_true, or_false] at due
    exact due.symm
  next => exact ⟨books, fun held => ⟨ahead held, .inr rfl⟩, unattached⟩

/-- The PTY is paused only for what is queued. -/
theorem flow_queue (high : 0 < options.budgets.parseHighBytes)
    (books : Books hard (account s) (s.running.map Running.item)) (ahead : Held s → items s ≠ [])
    (unattached : Unattached s) : Flow hard ((s.pauseIfHigh options.budgets).schedule) := by
  unfold pauseIfHigh
  split
  · exact flow_schedule books ahead unattached
  rename_i full
  unfold pause
  split
  · exact flow_schedule books ahead unattached
  rename_i free
  refine flow_schedule (s := { s with paused := true, pausing := true }) books (fun _ nothing => full ?_) ?_
  · have counted : s.queuedBytes = (payloads (items s)).length := books.counted
    have empty : items s = [] := nothing
    rw [empty] at counted
    obtain ⟨idle, unqueued⟩ := append_eq_nil_iff.mp empty
    have still : s.running = none := by
      cases running : s.running <;> simp_all
    refine ⟨counted ▸ high, ?_⟩
    rw [queuedItems, unqueued, still]
    decide
  · intro bare
    exact absurd (.inl (by simpa using bare)) free

/-- Within a turn of the item, however many facts it may still number. -/
def Turn (hard : Nat) (item : Pending) (_ : Nat) (s : Session) : Prop := Books hard (account s) (some item) ∧ Unattached s

/-- A paused PTY is resumed with the last item, if not before. -/
theorem Turn.finish (turn : Turn hard item left s) : Flow hard (s.finish options item) := by
  have books := turn.1.retire
  unfold Session.finish
  dsimp only
  split
  · exact flow_schedule books (fun held => absurd held.2.2.2.2 (by simp)) (fun _ _ => rfl)
  rename_i low
  refine flow_schedule books (fun held nothing => low ?_) turn.2
  obtain ⟨native, fine, live, going, paused⟩ := held
  have unqueued : s.pending = [] := nothing
  have counted := books.counted
  simp only [account, unqueued] at counted native fine live going paused ⊢
  rw [counted]
  simp [native, fine, live, going, paused, payloads]

theorem Turn.await (turn : Turn hard item left s) (stage : Await) : Flow hard (s.await item stage) :=
  ⟨turn.1, fun _ => ⟨by simp [items, Session.await], .inl rfl⟩, turn.2⟩

theorem account_fault (s : Session) (reason : String) : account (s.fault reason) = account s := by
  unfold fault schedule reportFault requestStop
  split_ifs <;> rfl

theorem unattached_fault (unattached : Unattached s) (reason : String) : Unattached (s.fault reason) := by
  unfold fault schedule reportFault requestStop
  split_ifs <;> exact unattached

theorem Books.dispose {turn : Option Pending} (books : Books hard (account s) turn) (live : s.disposed = false)
    (fails : Bool) : Books hard (account (s.dispose fails)) turn := by
  unfold Session.dispose requestStop
  rw [if_neg (by simp [live])]
  dsimp only
  split <;> exact books.release

theorem disposed_dispose (s : Session) (fails : Bool) : (s.dispose fails).disposed = true := by
  unfold Session.dispose requestStop
  split
  next disposed => exact disposed
  · dsimp only
    split <;> rfl

theorem running_dispose (s : Session) (fails : Bool) : (s.dispose fails).running = s.running := by
  unfold Session.dispose requestStop
  split
  · rfl
  · dsimp only
    split <;> rfl

section Flow

variable (flow : Flow hard s)
include flow

theorem Flow.fault (reason : String) : Flow hard (s.fault reason) := by
  unfold Session.fault
  split
  · exact flow
  · unfold schedule reportFault requestStop
    split_ifs <;> exact ⟨flow.1, fun held => absurd held.2.1 (by simp), flow.2.2⟩

theorem Flow.onFault (fault : NativeFault) : Flow hard (s.onFault fault) := by
  unfold Session.onFault reportFault
  split
  · split <;> exact flow
  split
  · exact flow
  unfold schedule requestStop
  dsimp only
  split_ifs <;> exact ⟨flow.1, fun held => absurd held.2.1 (by simp), flow.2.2⟩

theorem Flow.releaseItems (ended : s.faulted = true ∨ s.disposed = true) (reason : String) :
    Flow hard (s.releaseItems reason) := by
  refine ⟨flow.1.release, ?_, flow.2.2⟩
  rintro ⟨-, fine, live, -⟩
  rcases ended with faulted | disposed
  · exact absurd (faulted.symm.trans fine) (by simp)
  · exact absurd (disposed.symm.trans live) (by simp)

theorem Flow.dispose (fails : Bool) : Flow hard (s.dispose fails) := by
  cases live : s.disposed with
  | true =>
    rw [Session.dispose, if_pos live]
    exact flow
  | false =>
    have books := flow.1.dispose live fails
    have disposed := disposed_dispose s fails
    refine ⟨?_, fun held => absurd (disposed.symm.trans held.2.2.1) (by simp), fun _ live => absurd (disposed.symm.trans live) (by simp)⟩
    rwa [running_dispose]

theorem Flow.releasePending (ended : s.faulted = true ∨ s.disposed = true) (reason : String) (fails : Bool) :
    Flow hard (s.releasePending reason fails) := by
  have released := flow.releaseItems ended reason
  unfold Session.releasePending
  split
  · exact released.dispose fails
  · exact released

theorem Flow.enqueue (high : 0 < options.budgets.parseHighBytes) {item : Nat → Pending} {deferIngress : Bool}
    (free : ∀ promise, (item promise).lease? = none) :
    Flow hard (({ s with deferIngress := deferIngress }).enqueue options item) := by
  have pushed := flow.1.push [item s.promises] 0 []
    (by simp [payloads, payload_of_unleased (free s.promises)]) flow.1.bounded (by simp [leasesOf, free s.promises]) (by simp)
  rw [append_nil] at pushed
  exact flow_queue high pushed (fun _ => by simp [items]) flow.2.2

theorem Flow.attach (high : 0 < options.budgets.parseHighBytes) (fails : Bool) :
    Flow hard (s.attach options.budgets fails) := by
  unfold Session.attach
  split
  · exact flow
  rename_i bare
  have loose : s.disposed = false → s.paused = false := flow.2.2 (by simpa using bare)
  dsimp only
  split
  next ended =>
    have attached : Flow hard { s with native := true } := by
      refine ⟨flow.1, ?_, fun bare => absurd bare (by simp)⟩
      rintro ⟨-, -, live, -, paused⟩
      exact absurd (paused.symm.trans (loose live)) (by simp)
    unfold requestStop
    split <;> exact attached.releasePending ended _ _
  · refine flow_queue (s := { s with native := true }) high flow.1 ?_ (fun bare => absurd bare (by simp))
    rintro ⟨-, -, live, -, paused⟩
    exact absurd (paused.symm.trans (loose live)) (by simp)

theorem Flow.pushExit {item : Pending} (exited : s.exited = true) (lease : item.lease? = some s.leases.length)
    (silent : item.payload = []) :
    Flow hard ({ s with pending := s.pending ++ [item], leases := s.leases ++ [1] }).schedule := by
  have pushed := flow.1.push [item] 0 [1] (by simp [payloads, silent]) flow.1.bounded
    (fun i => by simpa [leasesOf, lease, account] using taken_one s.leases 1 i) (by simp)
  exact flow_schedule pushed (fun held => absurd (exited.symm.trans held.2.2.2.1) (by simp)) flow.2.2

end Flow

theorem prepare_leases (run : RunRef) (deferIngress : Bool) (lease : Nat) (owned : List (List UInt8))
    (receivedSeq : Nat) :
    leasesOf (prepare run deferIngress lease owned receivedSeq).1 = replicate owned.length lease := by
  induction owned generalizing receivedSeq with
  | nil => rfl
  | cons chunk rest ih =>
    simp only [prepare]
    split_ifs
    · simpa [leasesOf, Pending.lease?, replicate_succ] using ih receivedSeq
    · simpa [leasesOf, Pending.lease?, replicate_succ] using ih receivedSeq
    · simpa [leasesOf, Pending.lease?, replicate_succ] using ih (receivedSeq + 1)

theorem Flow.onData (flow : Flow options.budgets.parseHardBytes s) (high : 0 < options.budgets.parseHighBytes)
    (bytes : List UInt8) (reservation : Reservation) :
    Flow options.budgets.parseHardBytes (s.onData options bytes reservation) := by
  unfold Session.onData
  split
  · exact flow
  split
  · exact flow.fault _
  rename_i some_bytes
  split
  · exact flow.fault _
  rename_i room
  cases reservation with
  | refused | failed => exact flow.fault _
  | granted =>
    have carried := prepare_payloads options.run s.deferIngress s.leases.length (chunks bytes) s.receivedSeq
    have leased := prepare_leases options.run s.deferIngress s.leases.length (chunks bytes) s.receivedSeq
    rw [chunks_flatten] at carried
    have bounded : s.queuedBytes ≤ options.budgets.parseHardBytes := flow.1.bounded
    have cut : 0 < (chunks bytes).length := by
      rw [length_pos_iff]
      intro none
      apply some_bytes
      rw [← chunks_flatten bytes, none]
      rfl
    dsimp only
    refine flow_queue high (flow.1.push _ _ _ (congrArg length carried) ?_ ?_ ?_) ?_ flow.2.2
    · change s.queuedBytes + bytes.length ≤ _
      omega
    · intro i
      rw [leased]
      exact taken_one s.leases _ i
    · simpa using cut
    · intro _ nothing
      have unqueued := (append_eq_nil_iff.mp (append_eq_nil_iff.mp nothing).2).2
      rw [unqueued] at leased
      have := congrArg length leased
      simp [leasesOf] at this
      omega

theorem freeRules (options : Options) (hard : Nat) : FreeRules options (fun _ => True) (Turn hard) (Flow hard) where
  idle turn := turn
  exhaust turn := turn
  fault reason turn := ⟨(account_fault _ reason).symm ▸ turn.1, unattached_fault turn.2 reason⟩
  fewer turn _ := turn
  number turn _ _ _ _ := turn
  spend turn _ := turn
  finish turn := turn.finish
  await turn _ _ _ := turn.await _
  observed _ := trivial
  free turn := turn
  dispose fails turn live :=
    ⟨turn.1.dispose live fails, fun _ live => absurd ((disposed_dispose _ _).symm.trans live) (by simp)⟩
  turn flow running := by
    have books := flow.1
    rw [running] at books
    exact ⟨⟨books, flow.2.2⟩, fun _ => trivial⟩
  rest flow := flow

theorem Turn.applyFact (turn : Turn hard item 0 s) (fact : Fact) : Flow hard (s.applyFact options item fact .item) := by
  unfold Session.applyFact
  split
  · exact (freeRules options hard).caught turn
  · exact turn.await _

theorem Turn.start (turn : Turn hard item 0 s) (live : s.disposed = false) (oracle : Oracle) :
    Flow hard (s.start options item oracle) := by
  unfold Session.start
  split
  · exact turn.await _
  · exact turn.await _
  · exact turn.await _
  · exact (freeRules options hard).runOperation turn trivial live _ _
  · exact turn.await _
  · split
    · exact turn.await _
    · exact Turn.applyFact (s := { s with receivedSeq := s.receivedSeq + 1 }) turn _
  · split
    · exact ((freeRules options hard).exhaust turn).finish
    · exact Turn.applyFact (s := { s with receivedSeq := s.receivedSeq + 1 }) turn _
  · exact turn.applyFact _

/-- A drain with nothing to do finds no held PTY. -/
theorem Flow.drain (flow : Flow hard s) (oracle : Oracle) :
    Flow hard (({ s with scheduled := false }).drainOne options oracle) := by
  unfold Session.drainOne
  split
  next busy =>
    refine ⟨flow.1, fun held => ⟨(flow.2.1 held).1, .inl ?_⟩, flow.2.2⟩
    obtain ⟨native, _, live, _⟩ := held
    rcases busy with busy | disposed | bare
    · exact busy
    · exact absurd (disposed.symm.trans live) (by simp)
    · exact absurd native bare
  next idle =>
    push Not at idle
    have live : s.disposed = false := by simpa using idle.2.1
    have none_running : s.running = none := by simpa using idle.1
    have books : Books hard (account s) none := by simpa [none_running] using flow.1
    split
    next faulted =>
      refine Flow.releasePending (s := { s with scheduled := false }) ⟨flow.1, fun held => ?_, flow.2.2⟩ (.inl faulted) _ _
      exact absurd (faulted.symm.trans held.2.1) (by simp)
    split
    next empty =>
      refine ⟨flow.1, fun held => ?_, flow.2.2⟩
      have nothing : items s = [] := by
        rw [items, none_running]
        exact empty
      exact absurd nothing (flow.2.1 held).1
    next first rest head =>
      have shifted : Turn hard first 0 { s with scheduled := false, pending := rest } := by
        refine ⟨⟨?_, books.bounded, ?_, books.charged⟩, flow.2.2⟩
        · have counted := books.counted
          rwa [show (account s).pending = first :: rest from head] at counted
        · have leases := books.leases
          rwa [show (account s).pending = first :: rest from head] at leases
      exact shifted.start live oracle

theorem between (high : 0 < options.budgets.parseHighBytes) (hard : Nat) : Between options (Flow hard) where
  still flow := flow
  fault reason flow := flow.fault reason
  onFault fault flow := flow.onFault fault
  dispose fails flow := flow.dispose fails
  exited flow := ⟨flow.1, fun held => absurd held.2.2.2.1 (by simp), flow.2.2⟩
  exhaust flow := flow
  unpause flow := by
    rintro (rfl | rfl)
    · exact ⟨flow.1, fun held => absurd held.2.2.2.2 (by simp), fun _ _ => rfl⟩
    · exact flow
  enqueue flow free _ := flow.enqueue high free
  exitDeferred flow exited _ := flow.pushExit exited rfl rfl
  exitNumbered {s _ _} flow _ _ exited _ _ :=
    Flow.pushExit (s := { s with receivedSeq := s.receivedSeq + 1 }) flow exited rfl rfl

theorem step_flow (high : 0 < options.budgets.parseHighBytes) (event : Event)
    (flow : Flow options.budgets.parseHardBytes s) : Flow options.budgets.parseHardBytes (step options s event) := by
  cases event with
  | attach fails => exact flow.attach high fails
  | data bytes reservation =>
    unfold step produce
    dsimp only
    split
    · exact flow.onData high bytes reservation
    · exact Flow.onData (s := { s with arrived := s.arrived ++ bytes }) flow high bytes reservation
  | drain oracle =>
    unfold step
    dsimp only
    split
    · exact flow.drain oracle
    · exact flow
  | exit | nativeFault | automaticOutput | barrier | captureBaseline | capturePreview | execute | dispose | paused
  | resumed | stopped => exact (between high _).step flow rfl
  | _ => exact (freeRules options _).step flow rfl

theorem run_flow (high : 0 < options.budgets.parseHighBytes) (events : List Event) :
    Flow options.budgets.parseHardBytes (run (step options) (new options) events) := by
  refine run_invariant (Flow _) ?_ (fun _ event flow => step_flow high event flow) events
  exact ⟨⟨rfl, zero_le, fun _ => rfl, by simp [account, new]⟩, fun held => absurd held.1 (by simp [new]), fun _ _ => rfl⟩

/-- In every run the byte counter is that of the items queued and in turn, within the hard limit; a lease has been
released once where none of its items is left, and not before; and a PTY paused while the run is live has an item
ahead of it, in turn or with its drain scheduled. -/
theorem run_flow_control (options : Options) (valid : (validateEffectiveBudgets options.budgets).isSome)
    (events : List Event) : let session := run (step options) (new options) events
    session.queuedBytes = (payloads (items session)).length ∧
    session.queuedBytes ≤ options.budgets.parseHardBytes ∧
    (∀ lease count, session.leases[lease]? = some count →
      releases lease count session.retired = if lease ∈ leasesOf (items session) then 0 else 1) ∧
    (session.native = true → session.faulted = false → session.disposed = false → session.exited = false →
      session.paused = true → items session ≠ [] ∧ (session.running.isSome = true ∨ session.scheduled = true)) := by
  intro session
  have high : 0 < options.budgets.parseHighBytes := by
    unfold validateEffectiveBudgets at valid
    split at valid
    · cases valid
    split at valid
    · cases valid
    · omega
  obtain ⟨books, awake, _⟩ : Flow options.budgets.parseHardBytes session := run_flow high events
  refine ⟨books.counted, books.bounded, ?_, fun native fine live going paused => awake ⟨native, fine, live, going, paused⟩⟩
  intro lease count taken
  have total : (leasesOf (items session)).count lease + session.retired.count lease = count := by
    have total := books.leases lease
    rwa [show (account session).leases[lease]? = some count from taken] at total
  have charged := books.charged count (mem_of_getElem? taken)
  rw [releases_eq]
  by_cases left : lease ∈ leasesOf (items session)
  · have := count_pos_iff.mpr left
    rw [if_neg (by omega), if_pos left]
  · rw [count_eq_zero.mpr left] at total
    rw [if_pos ⟨charged, by omega⟩, if_neg left]

def crowded : Session := run (step FactFraming.soleOptions) (new FactFraming.soleOptions) (.attach false :: replicate itemHigh .barrier)

theorem crowded_held : crowded.paused = true ∧ items crowded ≠ [] ∧
    (crowded.running.isSome = true ∨ crowded.scheduled = true) := by
  have paused : crowded.paused = true := by decide +kernel
  have flow := run_flow_control FactFraming.soleOptions (by decide +kernel) (.attach false :: replicate itemHigh .barrier)
  exact ⟨paused, flow.2.2.2 (by decide +kernel) (by decide +kernel) (by decide +kernel) (by decide +kernel) paused⟩

end Cove.Worker.RunFlow
