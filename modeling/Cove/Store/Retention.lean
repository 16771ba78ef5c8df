import Cove.Base.Numbering
import Cove.Store.RunMoves

/-!
Retention and run numbers. A new instance continues after the highest number a receipt or a run row names. A retention
pass reads that mark once and then purges in batches between other transactions, so what a batch may remove rests on
the mark only growing: a launch's receipt outlives the run row it names.
-/

namespace Cove.Store.System
open Base Base.Checks Base.Run Base.Numbering Protocol.Identity Protocol.Operations List Option
open Store.Receipts Store.Worktrees Store.Runs Table

/-! Numbers named by rows. -/

theorem mem_namedNumbers {db : Database} {number : Nat} : number ∈ namedNumbers db ↔
    (∃ row ∈ db.runs, runNumber row.run.runId = some number) ∨ ∃ row ∈ db.receipts, receiptNumber row = some number := by
  simp [namedNumbers, Table.mem_def]

theorem le_highestNumber {db : Database} {number : Nat} (named : number ∈ namedNumbers db) :
    number ≤ highestNumber db :=
  (foldl_max_le_iff.mp le_rfl).2 number named

theorem highestNumber_le {db : Database} {bound : Nat} (below : ∀ number ∈ namedNumbers db, number ≤ bound) :
    highestNumber db ≤ bound :=
  foldl_max_le_iff.mpr ⟨Nat.zero_le bound, below⟩

theorem runNumber_runId {number named : Nat} (names : runNumber (runId number) = some named) : named = number := by
  have digits : (toString number).toList = Nat.toDigits 10 number := Nat.toList_repr
  have chars : (runId number).toList = 'r' :: 'u' :: 'n' :: '-' :: Nat.toDigits 10 number := by
    rw [runId, String.toList_append, digits]
    rfl
  cases shape : Nat.toDigits 10 number with
  | nil => exact absurd shape Nat.toDigits_ne_nil
  | cons =>
    rw [runNumber, chars, shape] at names
    simp only [ite_none_right_eq_some, Option.some.injEq] at names
    rw [← names.2, ← shape]
    exact Nat.ofDigitChars_toDigits (by decide) (by decide)

theorem handed_of_named {s : State} {run : RunRef} {number : Nat} (handed : s.handedOut run = true)
    (names : runNumber run.runId = some number) : number ∈ s.handed := by
  simp only [State.handedOut, Bool.and_eq_true, List.any_eq_true, beq_iff_eq] at handed
  obtain ⟨_, given, inside, same⟩ := handed
  rw [same] at names
  rw [runNumber_runId names]
  exact inside

section Calls

variable {server : Server} {s : State} {call : Call} {after : Database} {number : Nat}

theorem named_of_call (inv : Remembered s) (allowed : s.allows server call = true)
    (done : call.transact server s.db = .ok after) (names : number ∈ namedNumbers after) :
    number ∈ namedNumbers s.db ∨ number ∈ s.handed := by
  rcases mem_namedNumbers.mp names with ⟨row, inside, isNumber⟩ | ⟨row, inside, isNumber⟩
  · cases call_runsStep allowed done with
    | kept keeps =>
      obtain ⟨old, there, persists⟩ := keeps row inside
      exact .inl (mem_namedNumbers.mpr (.inl ⟨old, there, by rw [← persists.run, isNumber]⟩))
    | added _ handed _ inserted =>
      rcases (mem_insert inserted).mp inside with old | rfl
      · exact .inl (mem_namedNumbers.mpr (.inl ⟨row, old, isNumber⟩))
      · exact .inr (handed_of_named handed isNumber)
    | dropped _ _ _ _ _ _ left =>
      rw [left, mem_delete] at inside
      exact .inl (mem_namedNumbers.mpr (.inl ⟨row, inside.1, isNumber⟩))
  · have held := find_of_mem inside
    cases call_keyStep inv allowed done row.key with
    | same kept =>
      rw [kept] at held
      exact .inl (mem_namedNumbers.mpr (.inr ⟨row, mem_of_find held, isNumber⟩))
    | inserted _ _ _ present handed =>
      rw [present] at held
      cases held
      obtain ⟨run, named, isRun⟩ := bind_eq_some_iff.mp isNumber
      rw [named] at handed
      exact .inr (handed_of_named handed isRun)
    | moved old _ _ there put succeeds =>
      rw [put] at held
      cases held
      have same : receiptNumber old = some number := by
        rw [← isNumber]
        simp only [receiptNumber, setRecord, succeeds.run]
      exact .inl (mem_namedNumbers.mpr (.inr ⟨old, mem_of_find there, same⟩))
    | purged _ _ _ _ _ gone =>
      rw [gone] at held
      cases held

theorem receipt_keeps_number (inv : Remembered s) (allowed : s.allows server call = true)
    (done : call.transact server s.db = .ok after) {row : ReceiptRow} (inside : row ∈ s.db.receipts)
    (names : receiptNumber row = some number) :
    number ∈ namedNumbers after ∨ ∃ args, call = .purge args ∧ number < args.highestRun := by
  have held := find_of_mem inside
  cases call_keyStep inv allowed done row.key with
  | same kept =>
    rw [← kept] at held
    exact .inl (mem_namedNumbers.mpr (.inr ⟨row, mem_of_find held, names⟩))
  | inserted _ absent =>
    rw [absent] at held
    cases held
  | moved _ _ _ there put succeeds =>
    rw [there] at held
    cases held
    refine .inl (mem_namedNumbers.mpr (.inr ⟨_, mem_of_find put, ?_⟩))
    rw [← names]
    simp only [receiptNumber, setRecord, succeeds.run]
  | purged _ args purges there isDue =>
    rw [there] at held
    cases held
    refine .inr ⟨args, purges, ?_⟩
    simp only [due, names, any_some, Bool.and_eq_true, Bool.not_eq_true', decide_eq_false_iff_not,
      Nat.not_le] at isDue
    exact isDue.2

/-- A run row that is dropped does not alone name the highest number. -/
def keepsHighest (s : State) : Event → Bool
  | .call (.notStarted run) =>
    !s.db.runs.rows.any (fun row => row.run == run && row.lifecycle == .starting) ||
      s.db.receipts.rows.any (fun row => row.record.run == some run) ||
      (runNumber run.runId).all (fun number => decide (number < highestNumber s.db))
  | _ => true

/-- A number stays named, apart from those a purge's mark has passed and lower ones whose run row is dropped. -/
theorem named_kept (inv : Remembered s) (allowed : s.allows server call = true)
    (done : call.transact server s.db = .ok after) (drops : keepsHighest s (.call call) = true)
    (names : number ∈ namedNumbers s.db) :
    (number ∈ namedNumbers after ∨ ∃ args, call = .purge args ∧ number < args.highestRun) ∨
      number < highestNumber s.db := by
  rcases mem_namedNumbers.mp names with ⟨row, inside, isNumber⟩ | ⟨row, inside, isNumber⟩
  swap
  · exact .inl (receipt_keeps_number inv allowed done inside isNumber)
  cases call_runsStep allowed done with
  | kept _ stays =>
    obtain ⟨later, there, same⟩ := stays row inside
    exact .inl (.inl (mem_namedNumbers.mpr (.inl ⟨later, there, by rw [same, isNumber]⟩)))
  | added _ _ _ inserted =>
    exact .inl (.inl (mem_namedNumbers.mpr (.inl ⟨row, (mem_insert inserted).mpr (.inl inside), isNumber⟩)))
  | dropped run gone calls there isRun starting left =>
    by_cases same : row = gone
    · -- The dropped row's run is named by a receipt, which the call leaves as it is, or its number is not the highest.
      subst same calls
      simp only [keepsHighest, Bool.or_eq_true, Bool.not_eq_true', List.any_eq_false, List.any_eq_true, Bool.and_eq_true,
        beq_iff_eq, not_and] at drops
      rcases drops with (none | ⟨receipt, held, named⟩) | lower
      · exact absurd starting (none row there isRun)
      · have kept : receipt ∈ s.db.receipts := held
        refine .inl (receipt_keeps_number inv allowed done kept ?_)
        rw [receiptNumber, named, bind_some, ← isRun, isNumber]
      · rw [← isRun, isNumber] at lower
        exact .inr (by simpa using lower)
    · refine .inl (.inl (mem_namedNumbers.mpr (.inl ⟨row, ?_, isNumber⟩)))
      rw [left, mem_delete]
      exact ⟨inside, fun equal => same (eq_of_key inside there equal)⟩

end Calls

/-! The mark and the counter. -/

/-- How the numbers an instance holds stand to the highest one the database names. -/
structure Counted (s : State) : Prop where
  mark : ∀ mark, s.mark = some mark → mark ≤ highestNumber s.db
  seeded : s.runNumbersSeeded = true → highestNumber s.db ≤ s.runCounter
  reads : ∀ read ∈ s.reads, highestNumber s.db ≤ max read s.runCounter
  handed : ∀ number ∈ s.handed, number ≤ s.runCounter

section Steps

variable {server : Server} {s : State} {call : Call} {after : Database} {number : Nat}

/-- The highest number only grows: what a purge removes is below a mark that was read from it. -/
theorem highestNumber_mono (inv : Remembered s) (counted : Counted s) (allowed : s.allows server call = true)
    (done : call.transact server s.db = .ok after) (drops : keepsHighest s (.call call) = true) :
    highestNumber s.db ≤ highestNumber after := by
  rcases foldl_max_mem (namedNumbers s.db) 0 with none | attained
  · exact (le_of_eq none).trans zero_le
  rcases named_kept inv allowed done drops attained with (kept | ⟨args, rfl, passed⟩) | lower
  · exact le_highestNumber kept
  swap
  · exact absurd lower (lt_irrefl _)
  simp only [State.allows, Bool.and_eq_true, beq_iff_eq] at allowed
  have marked := counted.mark _ allowed.2
  exact absurd (lt_of_lt_of_le passed marked) (lt_irrefl _)

theorem highestNumber_call (inv : Remembered s) (counted : Counted s) (allowed : s.allows server call = true)
    (done : call.transact server s.db = .ok after) : highestNumber after ≤ max (highestNumber s.db) s.runCounter := by
  refine highestNumber_le (fun number names => ?_)
  rcases named_of_call inv allowed done names with old | handed
  · exact le_max_of_le_left (le_highestNumber old)
  · exact le_max_of_le_right (counted.handed number handed)

theorem Counted.of_call (inv : Remembered s) (counted : Counted s) (allowed : s.allows server call = true)
    (done : call.transact server s.db = .ok after) (drops : keepsHighest s (.call call) = true) :
    Counted { s with db := after } := by
  have grows := highestNumber_mono inv counted allowed done drops
  have bounded := highestNumber_call inv counted allowed done
  refine ⟨?_, ?_, ?_, counted.handed⟩
  · intro mark held
    exact (counted.mark mark held).trans grows
  · intro seeded
    have := counted.seeded seeded
    show highestNumber after ≤ s.runCounter
    omega
  · intro read inside
    have := counted.reads read inside
    show highestNumber after ≤ max read s.runCounter
    omega

theorem Counted.hand (counted : Counted s) : Counted s.hand := by
  unfold State.hand
  split
  next =>
    refine ⟨counted.mark, ?_, ?_, ?_⟩
    · intro seeded
      have := counted.seeded seeded
      show highestNumber s.db ≤ s.runCounter + 1
      omega
    · intro read inside
      have := counted.reads read inside
      show highestNumber s.db ≤ max read (s.runCounter + 1)
      omega
    · intro number inside
      show number ≤ s.runCounter + 1
      rcases mem_snoc inside with old | rfl
      · have := counted.handed number old
        omega
      · exact le_rfl
  next => exact counted

def State.seed (s : State) (read : Nat) : State :=
  { s with runCounter := max s.runCounter read, runNumbersSeeded := true, reads := s.reads.erase read }

theorem Counted.seed (counted : Counted s) {read : Nat} (inside : read ∈ s.reads) : Counted (s.seed read) := by
  have reached := counted.reads read inside
  refine ⟨counted.mark, ?_, ?_, ?_⟩
  · intro _
    show highestNumber s.db ≤ max s.runCounter read
    omega
  · intro other _
    show highestNumber s.db ≤ max other (max s.runCounter read)
    omega
  · intro number handed
    have := counted.handed number handed
    show number ≤ max s.runCounter read
    omega

theorem takeNumber_eq (s : State) (read : Option Nat) : s.takeNumber read = s ∨
    (read = none ∧ s.runNumbersSeeded = true ∧ s.takeNumber read = s.hand) ∨
      ∃ value ∈ s.reads, s.takeNumber read = (s.seed value).hand := by
  cases read with
  | none =>
    by_cases seeded : s.runNumbersSeeded = true
    · exact .inr (.inl ⟨rfl, seeded, if_pos seeded⟩)
    · exact .inl (if_neg seeded)
  | some value =>
    by_cases inside : value ∈ s.reads
    · exact .inr (.inr ⟨value, inside, if_pos inside⟩)
    · exact .inl (if_neg inside)

theorem Counted.takeNumber (counted : Counted s) (read : Option Nat) : Counted (s.takeNumber read) := by
  rcases takeNumber_eq s read with same | ⟨_, _, handed⟩ | ⟨value, inside, handed⟩
  · rw [same]
    exact counted
  · rw [handed]
    exact counted.hand
  · rw [handed]
    exact (counted.seed inside).hand

theorem Counted.start (db : Database) (relayInstanceId : String) : Counted (State.start db relayInstanceId) where
  mark := fun _ held => nomatch held
  seeded := fun seeded => nomatch seeded
  reads := fun _ inside => nomatch inside
  handed := fun _ inside => nomatch inside

theorem Counted.step (inv : Remembered s) (counted : Counted s) {event : Event} (drops : keepsHighest s event = true) :
    Counted (step server s event) := by
  cases event with
  | call call =>
    rcases step_call server s call with same | ⟨after, allowed, done, left⟩
    · rw [same]
      exact counted
    · rw [left]
      exact counted.of_call inv allowed done drops
  | read key | serve => exact ⟨counted.mark, counted.seeded, counted.reads, counted.handed⟩
  | readNumber =>
    simp only [System.step]
    split
    next => exact counted
    refine ⟨counted.mark, counted.seeded, ?_, counted.handed⟩
    intro read inside
    rcases mem_cons.mp inside with rfl | old
    · exact le_max_left _ _
    · exact counted.reads read old
  | takeNumber read =>
    simp only [System.step]
    split
    next => exact counted.takeNumber read
    next => exact counted
  | readMark =>
    simp only [System.step]
    split
    next =>
      refine ⟨?_, counted.seeded, counted.reads, counted.handed⟩
      intro mark held
      exact le_of_eq (some.inj held).symm
    next => exact counted
  | restart relayInstanceId => exact Counted.start s.db relayInstanceId

theorem hand_handed (s : State) : s.hand.handed = s.handed ∨ s.hand.handed = s.handed ++ [s.runCounter + 1] := by
  unfold State.hand
  split
  next => exact .inr rfl
  next => exact .inl rfl

theorem handed_above (counted : Counted s) {event : Event}
    (hands : (step server s event).handed = s.handed ++ [number]) : highestNumber s.db < number := by
  by_cases takes : ∃ read, event = .takeNumber read ∧ s.serving = true
  · obtain ⟨read, rfl, serving⟩ := takes
    simp only [step, if_pos serving] at hands
    rcases takeNumber_eq s read with same | ⟨_, seeded, handed⟩ | ⟨value, inside, handed⟩
    · rw [same] at hands
      simp at hands
    · rw [handed] at hands
      have reached := counted.seeded seeded
      rcases hand_handed s with none | next
      · rw [none] at hands
        simp at hands
      · rw [next] at hands
        simp only [append_cancel_left_eq, List.cons.injEq] at hands
        omega
    · rw [handed] at hands
      have reached := (counted.seed inside).seeded rfl
      rcases hand_handed (s.seed value) with none | next
      · rw [none] at hands
        simp [State.seed] at hands
      · rw [next] at hands
        change s.handed ++ [(s.seed value).runCounter + 1] = _ at hands
        simp only [append_cancel_left_eq, List.cons.injEq] at hands
        change highestNumber s.db ≤ (s.seed value).runCounter at reached
        omega
  · have short : (step server s event).handed.length ≤ s.handed.length := by
      cases event with
      | takeNumber read =>
        have idle : s.serving ≠ true := fun serving => takes ⟨read, rfl, serving⟩
        simp [step, idle]
      | call call | readNumber | readMark =>
        simp only [step]
        split <;> exact le_rfl
      | read key | serve => exact le_rfl
      | restart => exact zero_le
    rw [hands, length_append, length_singleton] at short
    omega

theorem highestNumber_step (inv : Remembered s) (counted : Counted s) {event : Event}
    (drops : keepsHighest s event = true) : highestNumber s.db ≤ highestNumber (step server s event).db := by
  rcases step_db server s event with kept | ⟨call, after, rfl, allowed, done, left⟩
  · rw [kept]
  · rw [left]
    exact highestNumber_mono inv counted allowed done drops

theorem batch_spares {args : PurgeArgs} {attempt : AttemptRow} {key : OperationReceiptKey}
    (inside : attempt ∈ s.db.attempts) (current : currentAttempt s.db attempt.attemptId = true)
    (consults : attempt.operation = key ∨ attempt.abandon = some key) :
    key ∉ (batch s.db args).map (fun row => row.key) := by
  intro listed
  obtain ⟨row, member, rfl⟩ := List.mem_map.mp listed
  have isDue := (mem_batch member).2
  simp only [due, Bool.and_eq_true, Bool.not_eq_true', List.any_eq_false, beq_iff_eq, not_and] at isDue
  obtain ⟨⟨⟨⟨_, operations⟩, abandons⟩, _⟩, _⟩ := isDue
  rcases consults with same | same
  · exact operations attempt inside same current
  · exact abandons attempt inside same current

/-- A purge leaves what owns a mount as it is: the receipts its current attempt consults are not due. -/
theorem purge_attemptOperationOpen {args : PurgeArgs} (done : purge server.intentDigest s.db args = .ok after)
    (mountId : String) : attemptOperationOpen after mountId = attemptOperationOpen s.db mountId := by
  have found : ∀ key, after.receipts.find key =
      if key ∈ (batch s.db args).map (fun row => row.key) then none else s.db.receipts.find key := by
    rw [purge_ok done]
    exact find_purged (batch s.db args) s.db
  obtain ⟨receipts, tombstones, processes, rfl⟩ := purge_eq done
  unfold attemptOperationOpen pendingConversion
  cases prepared : (s.db.preparations.find mountId).bind (fun row => s.db.attempts.find row.attemptId) with
  | none => rfl
  | some attempt =>
    obtain ⟨preparation, there, isAttempt⟩ := bind_eq_some_iff.mp prepared
    have current : currentAttempt s.db attempt.attemptId = true := by
      rw [currentAttempt, List.any_eq_true]
      exact ⟨preparation, mem_of_find there, beq_iff_eq.mpr (find_key isAttempt).symm⟩
    have same : ∀ key, attempt.operation = key ∨ attempt.abandon = some key →
        endedReceipt { s.db with receipts, tombstones, processes } key = endedReceipt s.db key := by
      intro key consults
      simp only [endedReceipt, receiptOf]
      rw [found key, if_neg (batch_spares (mem_of_find isAttempt) current consults)]
    cases claim : attempt.abandon with
    | none => simp only [claim, same _ (.inl rfl), any_none]
    | some => simp only [claim, same _ (.inl rfl), same _ (.inr claim), any_some]

end Steps

/-! Runs. -/

section Runs

variable {server : Server} {s : State}

theorem counted_run {events : List Event} (inv : Remembered s) (counted : Counted s)
    (drops : Guarded (fun s event => keepsHighest s event = true) (step server) s events) :
    Remembered (run (step server) s events) ∧ Counted (run (step server) s events) ∧
      highestNumber s.db ≤ highestNumber (run (step server) s events).db := by
  refine run_invariant_guarded (fun t => Remembered t ∧ Counted t ∧ highestNumber s.db ≤ highestNumber t.db)
    ⟨inv, counted, le_rfl⟩ ?_ events drops
  intro t event named ⟨inv, counted, grown⟩
  exact ⟨inv.step event, counted.step inv named, grown.trans (highestNumber_step inv counted named)⟩

/-- In a run that drops no run row which alone names the highest number, a purge removes only receipts that ended a retention
period ago, each to its tombstone, and leaves what owns a mount as it is; the number a new instance continues after
never falls, and no number is handed out after a receipt or a run row has named it. -/
theorem retention_changes_no_answer (server : Server) (relayInstanceId : String) (before : List Event)
    (event : Event)
    (drops : Guarded (fun s event => keepsHighest s event = true) (step server) (State.first relayInstanceId)
      (before ++ [event])) :
    let s := run (step server) (State.first relayInstanceId) before
    let t := step server s event
    (∀ args, event = .call (.purge args) →
      (∀ key row, s.db.receipts.find key = some row → t.db.receipts.find key = some row ∨
        row.record.state.ended = true ∧ row.updatedAtMs ≤ args.now - server.retentionMs ∧
          t.db.receipts.find key = none ∧
          t.db.tombstones.find key = some (tombstoneOf server.intentDigest args.now row)) ∧
      ∀ mountId, attemptOperationOpen t.db mountId = attemptOperationOpen s.db mountId) ∧
    highestNumber s.db ≤ highestNumber t.db ∧
    ∀ number, t.handed = s.handed ++ [number] → ∀ earlier, earlier <+: before →
      number ∉ namedNumbers (run (step server) (State.first relayInstanceId) earlier).db := by
  intro s t
  obtain ⟨guarded, now, _⟩ := guarded_append.mp drops
  obtain ⟨inv, counted, _⟩ := counted_run (.first relayInstanceId) (.start _ _) guarded
  refine ⟨?_, highestNumber_step inv counted now, ?_⟩
  · rintro args rfl
    rcases step_call server s (.purge args) with same | ⟨after, allowed, done, left⟩
    · have kept : t = s := same
      rw [kept]
      exact ⟨fun key row held => .inl held, fun _ => rfl⟩
    · have changed : t = { s with db := after } := left
      rw [changed]
      refine ⟨?_, purge_attemptOperationOpen done⟩
      intro key row held
      rcases purge_key inv done key with kept | ⟨old, there, isDue, gone, tombstone⟩
      · exact .inl (kept.trans held)
      rw [there] at held
      cases held
      simp only [State.allows, Bool.and_eq_true, beq_iff_eq] at allowed
      simp only [due, Bool.and_eq_true, decide_eq_true_eq] at isDue
      rw [allowed.1.2] at isDue
      exact .inr ⟨isDue.1.1.1.1.1, isDue.1.1.1.1.2, gone, tombstone⟩
  · intro number hands earlier starts
    obtain ⟨rest, rfl⟩ := starts
    obtain ⟨first, second⟩ := guarded_append.mp guarded
    obtain ⟨inv', counted', _⟩ := counted_run (.first relayInstanceId) (.start _ _) first
    obtain ⟨_, _, grown⟩ := counted_run inv' counted' second
    intro named
    have above := handed_above counted hands
    have below := le_highestNumber named
    rw [← run_append] at grown
    omega

def sampleKey : OperationReceiptKey := ⟨"server", "alice", "launch-1"⟩

def sampleRun (relayInstanceId : String) (number : Nat) : RunRef := ⟨"server", relayInstanceId, runId number⟩

def sampleRecord (revision : Nat) (state : OperationState) : OperationRecord where
  operationId := "launch-1"
  method := .terminalCreate
  revision
  state
  run := some (sampleRun "first" 1)
  result := none
  progress := none
  error := none

def refusedLaunch : List Event :=
  [.serve, .readNumber, .takeNumber (some 0), .call (.insert ⟨sampleKey, "intent", sampleRecord 0 .accepted⟩ 0),
    .read sampleKey, .call (.update ⟨sampleKey, "intent", sampleRecord 0 .accepted⟩ (sampleRecord 1 .running) 0),
    .read sampleKey, .call (.update ⟨sampleKey, "intent", sampleRecord 1 .running⟩ (sampleRecord 2 .failed) 0)]

def samplePurge (highestRun : Nat) : Event := .call (.purge ⟨2592000000, 2592000000, 100, highestRun⟩)

def purgedLaunch : List Event :=
  refusedLaunch ++ [.takeNumber none, .call (.started (sampleRun "first" 2) "/home" none), .readMark]

/-- A second run has started when the pass reads its mark, and is known from its row when the first launch's receipt is
purged. -/
theorem retention_changes_no_answer_sample :
    let s := run (step .sample) (State.first "first") purgedLaunch
    let t := step .sample s (samplePurge 2)
    (∃ row, s.db.receipts.find sampleKey = some row ∧ t.db.receipts.find sampleKey = none ∧
      t.db.tombstones.find sampleKey = some (tombstoneOf Server.sample.intentDigest 2592000000 row)) ∧
      highestNumber s.db ≤ highestNumber t.db := by
  intro s t
  have holds := retention_changes_no_answer .sample "first" purgedLaunch (samplePurge 2) (by decide +kernel)
  obtain ⟨row, held⟩ : ∃ row, s.db.receipts.find sampleKey = some row := isSome_iff_exists.mp (by decide +kernel)
  have gone : t.db.receipts.find sampleKey = none := isNone_iff_eq_none.mp (by decide +kernel)
  refine ⟨⟨row, held, gone, ?_⟩, holds.2.1⟩
  rcases (holds.1 _ rfl).1 sampleKey row held with kept | ⟨_, _, _, tombstone⟩
  · cases gone.symm.trans kept
  · exact tombstone

/-- The second launch records its run, its receipt is refused and the row is dropped after the pass has read its mark:
the purge takes the receipt of the highest run left, and the next instance hands out its number again. -/
theorem dropped_row_lowers_mark :
    let s := run (step .sample) (State.first "first")
      (purgedLaunch ++ [.call (.notStarted (sampleRun "first" 2))])
    let purged := step .sample s (samplePurge 2)
    let next := run (step .sample) purged [.restart "second", .serve, .readNumber]
    1 ∈ namedNumbers s.db ∧ highestNumber purged.db < highestNumber s.db ∧
      (step .sample next (.takeNumber (some 0))).handed = next.handed ++ [1] := by
  decide +kernel

end Runs

end Cove.Store.System
