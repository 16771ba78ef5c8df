import Cove.Operations.TerminalOperations

/-!
When a launch or a stop keeps its order: the command goes to the runtime only after the store confirmed the run and
the receipt in `running`, and whoever sent it then never hears that the request was not accepted. Neither the answer of
the step to `running` nor a receipt that is gone when the outcome is recorded is looked at, so the order depends on the
store and on when the server is disposed. What it depends on is said exactly.
-/

namespace Cove.Operations.TerminalOperations
open Operations.Receipts Protocol.Budgets Protocol.Identity Protocol.Operations List Act

/-- What the store has to have confirmed before a command is handed over. -/
def Confirmed (key : OperationReceiptKey) (before : List Act) : Command → Prop
  | .spawn run _ _ => .runConfirmed run ∈ before ∧ .receiptConfirmed key .running ∈ before
  | .stop .. => .receiptConfirmed key .running ∈ before

def OperationOutcome.refuses : OperationOutcome → Bool
  | .operation _ => false
  | .error reason => reason.acceptance == .notAccepted

structure Ordered (key : OperationReceiptKey) (journal : List Act) : Prop where
  confirmed : ∀ before command after, journal = before ++ .handed command :: after → Confirmed key before command
  owned : ∀ command outcome, .handed command ∈ journal → .answered outcome ∈ journal → outcome.refuses = false

/-! ## Journals -/

def Act.quiet : Act → Bool
  | .handed _ => false
  | _ => true

def Act.silent : Act → Bool
  | .handed _ | .answered _ => false
  | _ => true

theorem Act.quiet_of_silent {act : Act} (silent : act.silent = true) : act.quiet = true := by
  cases act <;> first | rfl | cases silent

theorem ordered_of_quiet {key : OperationReceiptKey} {journal : List Act} (quiet : ∀ act ∈ journal, act.quiet = true) :
    Ordered key journal where
  confirmed before command after split := by
    have handed : (handed command).quiet = true := quiet _ (by simp [split])
    simp [Act.quiet] at handed
  owned command _ member _ := by
    have handed : (handed command).quiet = true := quiet _ member
    simp [Act.quiet] at handed

theorem split_of_silent {command other : Command} {before rest left right : List Act}
    (silent : ∀ act ∈ before, act.silent = true) (quiet : ∀ act ∈ rest, act.quiet = true)
    (split : before ++ .handed command :: rest = left ++ .handed other :: right) : left = before ∧ other = command := by
  induction before generalizing left with
  | nil =>
    cases left with
    | nil => simp_all
    | cons =>
      simp only [nil_append, cons_append, List.cons.injEq] at split
      have handed : (handed other).quiet = true := quiet _ (by simp [split.2])
      simp [Act.quiet] at handed
  | cons first before hyp =>
    cases left with
    | nil =>
      simp only [nil_append, cons_append, List.cons.injEq] at split
      have handed : (handed other).silent = true := silent _ (by simp [split.1])
      simp [Act.silent] at handed
    | cons =>
      simp only [cons_append, List.cons.injEq] at split
      obtain ⟨same, command⟩ := hyp (fun act member => silent act (mem_cons_of_mem _ member)) split.2
      exact ⟨by rw [same, split.1], command⟩

theorem ordered_handed_iff {key : OperationReceiptKey} {before after : List Act} (command : Command)
    (outcome : OperationOutcome) (silentBefore : ∀ act ∈ before, act.silent = true)
    (silentAfter : ∀ act ∈ after, act.silent = true) :
    Ordered key (before ++ .handed command :: (after ++ [.answered outcome])) ↔
      Confirmed key before command ∧ outcome.refuses = false := by
  have quiet : ∀ act ∈ after ++ [answered outcome], act.quiet = true := by
    intro act member
    rcases mem_append.mp member with inside | last
    · exact quiet_of_silent (silentAfter act inside)
    · simp only [mem_singleton] at last
      simp [last, quiet]
  constructor
  · intro ordered
    exact ⟨ordered.confirmed before command _ rfl, ordered.owned command outcome (by simp) (by simp)⟩
  · rintro ⟨confirmed, owned⟩
    refine ⟨?_, ?_⟩
    · intro left other right split
      obtain ⟨rfl, rfl⟩ := split_of_silent silentBefore quiet split
      exact confirmed
    · intro _ other _ member
      have same : other = outcome := by
        simp only [mem_append, mem_cons, reduceCtorEq, false_or] at member
        rcases member with inside | inside | last
        · simpa [silent] using silentBefore _ inside
        · simpa [silent] using silentAfter _ inside
        · simpa using last
      rw [same, owned]

/-! ## What a receipt's steps depend on -/

variable (c : Composition)

/-- The receipt read is one that `next` follows, and the server is not disposed before the write. -/
def follows (disposed : Bool) (next : OperationRecord) (stored : StoredReceipt) : Bool :=
  isSuccessor stored.record next && !terminalState stored.record.state && checkedReceiptRecord c.limits stored.key next &&
    !disposed

/-- Nothing refuses a step of a receipt: the server is not disposed, and the store fails or finds the receipt and moves
it. -/
structure Unrefused (before between : Bool) (key : OperationReceiptKey) (next : OperationRecord)
    (committed : Except StoreError (Option Found)) (swapped : Except StoreError Bool) : Prop where
  valid : validKey c before key = true
  moves : ∀ found, committed = .ok found →
    ∃ stored, found = some (.receipt stored) ∧ follows c between next stored = true ∧ swapped ≠ .ok false

/-- The store fails within a step of a receipt, in its read or in its write. -/
structure Fails (before between : Bool) (key : OperationReceiptKey) (next : OperationRecord)
    (committed : Except StoreError (Option Found)) (swapped : Except StoreError Bool) : Prop where
  valid : validKey c before key = true
  stops : ∀ found, committed = .ok found →
    ∃ stored error, found = some (.receipt stored) ∧ follows c between next stored = true ∧ swapped = .error error

structure Unmissed (disposed : Bool) (key : OperationReceiptKey)
    (committed : Except StoreError (Option Found)) : Prop where
  valid : validKey c disposed key = true
  finds : ∀ found, committed = .ok found → ∃ stored, found = some (.receipt stored)

section steps
variable {c : Composition} {before between : Bool} {key : OperationReceiptKey} {next : OperationRecord}
  {committed : Except StoreError (Option Found)} {swapped : Except StoreError Bool}

theorem update_invalid (invalid : validKey c before key = false) :
    update c before between key next committed swapped = .ok false := by
  simp only [update, successor, invalid, Bool.not_false, if_true]

section

variable (valid : validKey c before key = true)
include valid

theorem update_error (error : StoreError) : update c before between key next (.error error) swapped = .error error := by
  simp only [update, successor, valid, Bool.not_true, Bool.false_eq_true, if_false]

theorem update_receipt (stored : StoredReceipt) :
    update c before between key next (.ok (some (.receipt stored))) swapped =
      if follows c between next stored then swapped else .ok false := by
  simp only [update, successor, valid]
  cases successor : isSuccessor stored.record next
  · simp [follows, successor]
  · cases terminal : terminalState stored.record.state
    · cases checked : checkedReceiptRecord c.limits stored.key next
      · simp [follows, replace, checked]
      · cases between <;> simp [follows, replace, checked, terminal, successor]
    · simp [follows, terminal]

theorem update_absent {found : Option Found} (absent : ∀ stored, found ≠ some (.receipt stored)) :
    update c before between key next (.ok found) swapped = .ok false := by
  simp only [update, successor, valid, Bool.not_true, Bool.false_eq_true, if_false]

end

/-- A step is refused, confirmed by the store, or failed in it. -/
inductive Stepped (c : Composition) (before between : Bool) (key : OperationReceiptKey) (next : OperationRecord)
    (committed : Except StoreError (Option Found)) (swapped : Except StoreError Bool) : Except StoreError Bool → Prop
  | refused (refused : ¬Unrefused c before between key next committed swapped)
      (whole : ¬Fails c before between key next committed swapped) :
    Stepped c before between key next committed swapped (.ok false)
  | confirmed (unrefused : Unrefused c before between key next committed swapped)
      (whole : ¬Fails c before between key next committed swapped) (found : Option Found)
      (read : committed = .ok found) (wrote : swapped = .ok true) :
    Stepped c before between key next committed swapped (.ok true)
  | failed (error : StoreError) (unrefused : Unrefused c before between key next committed swapped)
      (fails : Fails c before between key next committed swapped)
      (unconfirmed : ∀ found, committed = .ok found → swapped ≠ .ok true) :
    Stepped c before between key next committed swapped (.error error)

theorem update_stepped :
    Stepped c before between key next committed swapped (update c before between key next committed swapped) := by
  cases valid : validKey c before key with
  | false =>
    rw [update_invalid valid]
    refine .refused (fun unrefused => ?_) (fun fails => ?_)
    · exact Bool.false_ne_true (valid.symm.trans unrefused.valid)
    · exact Bool.false_ne_true (valid.symm.trans fails.valid)
  | true =>
    cases committed with
    | error error =>
      rw [update_error valid]
      have unread : ∀ found, (Except.error error : Except StoreError (Option Found)) ≠ .ok found := by
        intro found wrong
        cases wrong
      exact .failed error ⟨valid, fun found read => absurd read (unread found)⟩
        ⟨valid, fun found read => absurd read (unread found)⟩ (fun found read => absurd read (unread found))
    | ok found =>
      by_cases present : ∃ stored, found = some (.receipt stored)
      · obtain ⟨stored, rfl⟩ := present
        rw [update_receipt valid]
        by_cases follow : follows c between next stored = true
        · rw [if_pos follow]
          have only : ∀ other, (Except.ok (some (Found.receipt stored)) : Except StoreError _) = .ok other →
              other = some (.receipt stored) := by
            intro other same
            exact (Except.ok.inj same).symm
          match swapped with
          | .error error =>
            refine .failed error ⟨valid, ?_⟩ ⟨valid, ?_⟩ (fun _ _ wrong => by cases wrong)
            · exact fun other same => ⟨stored, only other same, follow, fun wrong => by cases wrong⟩
            · exact fun other same => ⟨stored, error, only other same, follow, rfl⟩
          | .ok true =>
            refine .confirmed ⟨valid, fun other same => ⟨stored, only other same, follow, fun wrong => by cases wrong⟩⟩ (fun fails => ?_) _ rfl
              rfl
            obtain ⟨_, _, _, _, wrong⟩ := fails.stops _ rfl
            cases wrong
          | .ok false =>
            refine .refused (fun unrefused => ?_) (fun fails => ?_)
            · obtain ⟨_, _, _, swaps⟩ := unrefused.moves _ rfl
              exact swaps rfl
            · obtain ⟨_, _, _, _, wrong⟩ := fails.stops _ rfl
              cases wrong
        · rw [if_neg follow]
          refine .refused (fun unrefused => ?_) (fun fails => ?_)
          · obtain ⟨other, same, follows, _⟩ := unrefused.moves _ rfl
            cases same
            exact follow follows
          · obtain ⟨other, _, same, follows, _⟩ := fails.stops _ rfl
            cases same
            exact follow follows
      · have absent : ∀ stored, found ≠ some (.receipt stored) := fun stored same => present ⟨stored, same⟩
        rw [update_absent valid absent]
        refine .refused (fun unrefused => ?_) (fun fails => ?_)
        · obtain ⟨stored, same, _⟩ := unrefused.moves _ rfl
          exact absent stored same
        · obtain ⟨stored, _, same, _⟩ := fails.stops _ rfl
          exact absent stored same

theorem get_missed (missed : ¬Unmissed c before key committed) : get c before key committed = .ok none := by
  unfold get
  split
  · rfl
  rename_i valid
  have valid : validKey c before key = true := by simpa using valid
  match committed with
  | .error _ => exact absurd ⟨valid, fun _ wrong => by cases wrong⟩ missed
  | .ok (some (.receipt stored)) => exact absurd ⟨valid, fun _ same => ⟨stored, (Except.ok.inj same).symm⟩⟩ missed
  | .ok none => rfl
  | .ok (some (.tombstone _)) => rfl

theorem get_unmissed (unmissed : Unmissed c before key committed) :
    (∃ error, get c before key committed = .error error) ∨
      ∃ stored, committed = .ok (some (.receipt stored)) ∧ get c before key committed = .ok (some stored.record) := by
  unfold get
  rw [unmissed.valid]
  cases read : committed with
  | error error => exact .inl ⟨error, rfl⟩
  | ok found =>
    obtain ⟨stored, rfl⟩ := unmissed.finds found read
    exact .inr ⟨stored, rfl, rfl⟩

theorem readBack_refuses_iff :
    (orUnknown (readBack c before key committed)).refuses = false ↔ Unmissed c before key committed := by
  by_cases unmissed : Unmissed c before key committed
  · refine iff_of_true ?_ unmissed
    rcases get_unmissed unmissed with ⟨error, read⟩ | ⟨stored, _, read⟩
    · simp only [readBack, read]
      rfl
    · simp only [readBack, read]
      rfl
  · refine iff_of_false ?_ unmissed
    simp [readBack, get_missed unmissed, orUnknown, failure, refusal, domainError, OperationOutcome.refuses]

end steps

variable (s : Script)

/-- After the hand-over the server is not disposed before the receipt is found again, or the store fails. -/
structure Answerable (key : OperationReceiptKey) : Prop where
  kept : Unmissed c (s.disposed .runNoted) key s.outcomeRead
  keptAfter : ∀ stored, s.outcomeRead = .ok (some (.receipt stored)) →
    Fails c (s.disposed .outcomeRead) (s.disposed .outcomeReadAgain) key (outcomeRecord stored.record s.result)
        s.outcomeReadAgain s.outcomeReplace ∨
      Unmissed c (s.disposed .outcomeWritten) key s.finalRead

theorem complete_refuses_iff (key : OperationReceiptKey) :
    (complete c s key s.result).refuses = false ↔ Answerable c s key := by
  by_cases kept : Unmissed c (s.disposed .runNoted) key s.outcomeRead
  · rcases get_unmissed kept with ⟨error, read⟩ | ⟨stored, found, read⟩
    · have unfound : ∀ stored, s.outcomeRead ≠ .ok (some (.receipt stored)) := by
        intro stored found
        simp [get, kept.valid, found] at read
      refine iff_of_true ?_ ⟨kept, fun stored found => absurd found (unfound stored)⟩
      simp only [complete, recordOutcome, read]
      rfl
    · have only : Answerable c s key ↔ Fails c (s.disposed .outcomeRead) (s.disposed .outcomeReadAgain) key
          (outcomeRecord stored.record s.result) s.outcomeReadAgain s.outcomeReplace ∨
          Unmissed c (s.disposed .outcomeWritten) key s.finalRead := by
        refine ⟨fun answerable => answerable.keptAfter stored found, fun after => ⟨kept, fun other same => ?_⟩⟩
        rw [found] at same
        cases same
        exact after
      have stepped := @update_stepped c (s.disposed .outcomeRead) (s.disposed .outcomeReadAgain) key
        (outcomeRecord stored.record s.result) s.outcomeReadAgain s.outcomeReplace
      rw [only]
      simp only [complete, recordOutcome, read]
      generalize update c (s.disposed .outcomeRead) (s.disposed .outcomeReadAgain) key
        (outcomeRecord stored.record s.result) s.outcomeReadAgain s.outcomeReplace = answer at stepped ⊢
      -- Only a failed update ends before the record is read back; what it answered does not matter.
      cases stepped with
      | refused _ whole | confirmed _ whole => rw [readBack_refuses_iff, or_iff_right whole]
      | failed _ _ fails => exact iff_of_true rfl (.inl fails)
  · refine iff_of_false ?_ (fun answerable => kept answerable.kept)
    simp [complete, recordOutcome, get_missed kept, orUnknown, failure, refusal, domainError, OperationOutcome.refuses]

/-! ## From the accepted receipt to the answer -/

/-- An accepted operation stays in order: nothing refuses its step to `running`, and once that is confirmed its receipt
is found again. -/
structure Kept (key : OperationReceiptKey) (record : OperationRecord) : Prop where
  advances : Unrefused c (s.disposed .accepted) (s.disposed .progressRead) key
    { record with revision := 1, state := .running } s.progressRead s.progressReplace
  answers : ∀ found, s.progressRead = .ok found → s.progressReplace = .ok true → Answerable c s key

theorem handover_ordered_iff {c : Composition} {s : Script} {key : OperationReceiptKey} {record : OperationRecord}
    {command : Command} {acts unsent notes : List Act} (silent : ∀ act ∈ acts, act.silent = true)
    (unsentSilent : ∀ act ∈ unsent, act.silent = true) (notesSilent : ∀ act ∈ notes, act.silent = true)
    (unconfirmed : receiptConfirmed key .running ∉ acts)
    (enough : Confirmed key (acts ++ [.receiptConfirmed key .running]) command) :
    Ordered key (acts ++ handover c s key record command unsent notes) ↔ Kept c s key record := by
  have stepped := @update_stepped c (s.disposed .accepted) (s.disposed .progressRead) key
    { record with revision := 1, state := .running } s.progressRead s.progressReplace
  unfold handover
  generalize update c (s.disposed .accepted) (s.disposed .progressRead) key
    { record with revision := 1, state := .running } s.progressRead s.progressReplace = answer at stepped ⊢
  cases stepped with
  | refused refused =>
    refine iff_of_false (fun ordered => ?_) (fun kept => refused kept.advances)
    -- The command goes out all the same, and the store has not confirmed `running`.
    have confirmed : Confirmed key acts command := ordered.confirmed acts command _ rfl
    cases command with
    | spawn => exact unconfirmed confirmed.2
    | stop => exact unconfirmed confirmed
  | confirmed unrefused _ found read wrote =>
    have silentBefore : ∀ act ∈ acts ++ [receiptConfirmed key .running], act.silent = true := by
      intro act member
      rcases mem_append.mp member with inside | last
      · exact silent act inside
      · rw [mem_singleton.mp last]
        rfl
    have whole : Ordered key _ ↔ _ :=
      ordered_handed_iff command (complete c s key s.result) silentBefore notesSilent
    simp only [append_assoc, singleton_append] at whole
    simp only [if_true, singleton_append, whole, complete_refuses_iff]
    exact ⟨fun ordered => ⟨unrefused, fun _ _ _ => ordered.2⟩, fun kept => ⟨enough, kept.answers found read wrote⟩⟩
  | failed _ unrefused _ unconfirmed =>
    refine iff_of_true (ordered_of_quiet (fun act member => ?_))
      ⟨unrefused, fun found read wrote => absurd wrote (unconfirmed found read)⟩
    simp only [mem_append, mem_singleton] at member
    rcases member with inside | dropped | rfl
    · exact quiet_of_silent (silent act inside)
    · exact quiet_of_silent (unsentSilent act dropped)
    · rfl

/-! ## Up to the accepted receipt -/

structure Admitted (principalId operationId intent : String) : Prop where
  alive : s.disposed .called = false
  principal : opaqueId principalId = true
  unused : lookup c (s.disposed .called) (c.key principalId operationId) intent s.lookup = .reserve
  allowed : s.precondition = none

section admission
variable {c : Composition} {s : Script} {principalId operationId intent : String} {new : List Act}

theorem admitted_eq (admission : Admitted c s principalId operationId intent) :
    admitted c s principalId operationId intent new = new := by
  have unused := admission.unused
  rw [admission.alive] at unused
  simp [admitted, admission.alive, admission.principal, unused, admission.allowed]

theorem admitted_quiet (refused : ¬Admitted c s principalId operationId intent) :
    ∀ act ∈ admitted c s principalId operationId intent new, act.quiet = true := by
  unfold admitted
  split
  · simp [quiet]
  rename_i open_
  simp only [Bool.or_eq_true, Bool.not_eq_true', not_or, Bool.not_eq_true, Bool.not_eq_false] at open_
  cases found : lookup c (s.disposed .called) (c.key principalId operationId) intent s.lookup with
  | reserve =>
    cases allowed : s.precondition with
    | none => exact absurd ⟨open_.1, open_.2, found, allowed⟩ refused
    | some => simp [quiet]
  | busy | invalid => cases allowed : s.precondition <;> simp [quiet]
  | existing _ | conflict | expired => simp [quiet]

end admission

/-- The store inserted the receipt, and the reservation was this call's to the end. -/
structure Inserted (disposed : Bool) (key : OperationReceiptKey) (record : OperationRecord) : Prop where
  alive : disposed = false
  kept : s.entryKept = true
  checked : checkedReceiptRecord c.limits key record = true
  inserted : s.insert = .ok true
  keptAfter : s.entryKeptAfter = true

theorem commit_eq_true_iff {c : Composition} {s : Script} {disposed : Bool} {key : OperationReceiptKey}
    (operationId : String) (method : WriteMethod) (run : RunRef) (result : Option OperationResult) :
    commit c s disposed key (acceptedRecord operationId method run result) = .ok true ↔
      Inserted c s disposed key (acceptedRecord operationId method run result) := by
  constructor
  · intro committed
    unfold commit at committed
    split at committed
    · cases committed
    rename_i held
    split at committed
    · cases committed
    rename_i checked
    cases inserted : s.insert with
    | error => simp [inserted] at committed
    | ok =>
      simp only [inserted, Except.ok.injEq, Bool.and_eq_true] at committed
      simp only [Bool.or_eq_true, not_or, Bool.not_eq_true, Bool.not_eq_false'] at held checked
      exact ⟨held.1, held.2, checked.1.1, by rw [inserted, committed.1], committed.2⟩
  · intro inserted
    simp [commit, inserted.alive, inserted.kept, inserted.checked, inserted.inserted, inserted.keptAfter]
    exact ⟨rfl, rfl⟩

inductive Recorded (c : Composition) (s : Script) (request : LaunchRequest) (run : RunRef) : OperationRecord → Prop
  | terminal (method : request.method = .terminalCreate) (resolved : s.recordedCwd = .ok ())
      (started : s.started = .ok .recorded)
      (inserted : Inserted c s (s.disposed .runRecorded) (c.key request.principalId request.operationId)
        (acceptedRecord request.operationId .terminalCreate run none)) :
    Recorded c s request run (acceptedRecord request.operationId .terminalCreate run none)
  | tab (record : OperationRecord) (method : request.method ≠ .terminalCreate)
      (launched : s.tabsLaunch = .ok (.accepted record)) : Recorded c s request run record

section acceptance
variable {c : Composition} {s : Script} {request : LaunchRequest} {run : RunRef} {record : OperationRecord}

theorem accept_recorded (recorded : Recorded c s request run record) : accept c s request run =
      ([.runConfirmed run, .receiptConfirmed (c.key request.principalId request.operationId) .accepted],
        .accepted record) := by
  cases recorded with
  | terminal method resolved started inserted =>
    have committed := (commit_eq_true_iff _ _ _ _).mpr inserted
    simp [accept, method, acceptTerminal, resolved, started, committed]
  | tab _ method launched => simp [accept, method, acceptTab, launched]

theorem accept_unrecorded (unrecorded : ∀ record, ¬Recorded c s request run record) :
    ∃ acts outcome runRecorded, accept c s request run = (acts, .notAccepted outcome runRecorded) ∧
      ∀ act ∈ acts, act.silent = true := by
  unfold accept
  by_cases method : request.method = .terminalCreate
  · rw [if_pos method]
    unfold acceptTerminal
    cases resolved : s.recordedCwd with
    | error error => cases error <;> exact ⟨_, _, _, rfl, by simp⟩
    | ok =>
      cases started : s.started with
      | error => exact ⟨_, _, _, rfl, by simp⟩
      | ok answer =>
        cases answer with
        | refused => exact ⟨_, _, _, rfl, by simp⟩
        | recorded =>
          dsimp only
          cases committed : commit c s (s.disposed .runRecorded) (c.key request.principalId request.operationId)
              (acceptedRecord request.operationId .terminalCreate run none) with
          | error error => exact ⟨[.runConfirmed run], _, _, rfl, by simp [silent]⟩
          | ok done =>
            cases done with
            | false => exact ⟨[.runConfirmed run], _, _, rfl, by simp [silent]⟩
            | true =>
              have inserted := (commit_eq_true_iff _ _ _ _).mp committed
              exact absurd (.terminal method resolved started inserted) (unrecorded _)
  · rw [if_neg method]
    unfold acceptTab
    cases launched : s.tabsLaunch with
    | error => exact ⟨_, _, _, rfl, by simp⟩
    | ok answer =>
      cases answer with
      | existing operation | refused error => exact ⟨_, _, _, rfl, by simp⟩
      | accepted operation => exact absurd (.tab operation method launched) (unrecorded _)

end acceptance

structure LaunchAccepted (request : LaunchRequest) (requestId : String) (run : RunRef)
    (record : OperationRecord) : Prop where
  admitted : Admitted c s request.principalId request.operationId request.intent
  requested : nextRequest s = some requestId
  prepared : prepare c s (c.key request.principalId request.operationId) request.intent = true
  alive : s.disposed .prepared = false
  aliveAfter : s.disposed .numbered = false
  numbered : nextRun c s = some run
  reserved : s.reserveRun = true
  recorded : Recorded c s request run record

structure StopAccepted (request : StopRequest) (requestId : String) : Prop where
  admitted : Admitted c s request.principalId request.operationId request.intent
  registered : s.registered = true
  requested : nextRequest s = some requestId
  prepared : prepare c s (c.key request.principalId request.operationId) request.intent = true
  inserted : Inserted c s (s.disposed .prepared) (c.key request.principalId request.operationId)
    (acceptedRecord request.operationId request.method.write request.run request.result)

section whole
variable {c : Composition} {s : Script}

theorem launch_accepted {request : LaunchRequest} {requestId : String} {run : RunRef} {record : OperationRecord}
    (accepted : LaunchAccepted c s request requestId run record) : launch c s request =
      [.runConfirmed run, .receiptConfirmed (c.key request.principalId request.operationId) .accepted] ++
        handover c s (c.key request.principalId request.operationId) record
          (.spawn run requestId request.operationId) (abandon run) (noteRun run s.result) := by
  unfold launch
  rw [admitted_eq accepted.admitted]
  simp [launchNew, accepted.requested, accepted.prepared, accepted.alive, accepted.aliveAfter, accepted.numbered,
    accepted.reserved, accept_recorded accepted.recorded]

theorem launch_unaccepted {request : LaunchRequest}
    (unaccepted : ∀ requestId run record, ¬LaunchAccepted c s request requestId run record) :
    ∀ act ∈ launch c s request, act.quiet = true := by
  by_cases admission : Admitted c s request.principalId request.operationId request.intent
  · unfold launch
    rw [admitted_eq admission]
    unfold launchNew
    cases requested : nextRequest s with
    | none => simp [quiet]
    | some requestId =>
      dsimp only
      split
      · simp [quiet]
      rename_i prepared
      split
      · simp [quiet]
      rename_i alive
      split
      · simp [quiet]
      rename_i aliveAfter
      cases numbered : nextRun c s with
      | none => simp [quiet]
      | some run =>
        dsimp only
        split
        · simp [quiet]
        rename_i reserved
        have unrecorded : ∀ record, ¬Recorded c s request run record := by
          intro record recorded
          exact unaccepted requestId run record ⟨admission, requested, by simpa using prepared,
            by simpa using alive, by simpa using aliveAfter, numbered, by simpa using reserved, recorded⟩
        obtain ⟨acts, outcome, runRecorded, answer, silent⟩ := accept_unrecorded unrecorded
        rw [answer]
        intro act member
        simp only [append_assoc, mem_append, mem_singleton] at member
        rcases member with inside | dropped | rfl
        · exact quiet_of_silent (silent act inside)
        · cases runRecorded <;> simp [abandon] at dropped
          · rw [dropped]
            rfl
          · rcases dropped with rfl | rfl <;> rfl
        · rfl
  · exact admitted_quiet admission

theorem stop_accepted {request : StopRequest} {requestId : String} (accepted : StopAccepted c s request requestId) :
    stopRun c s request = [.receiptConfirmed (c.key request.principalId request.operationId) .accepted] ++
        handover c s (c.key request.principalId request.operationId)
          (acceptedRecord request.operationId request.method.write request.run request.result)
          (.stop request.run requestId request.operationId) [] [] := by
  have committed := (commit_eq_true_iff _ _ _ _).mpr accepted.inserted
  unfold stopRun
  rw [admitted_eq accepted.admitted]
  simp [stopNew, accepted.registered, accepted.requested, accepted.prepared, committed]

theorem stop_unaccepted {request : StopRequest} (unaccepted : ∀ requestId, ¬StopAccepted c s request requestId) :
    ∀ act ∈ stopRun c s request, act.quiet = true := by
  by_cases admission : Admitted c s request.principalId request.operationId request.intent
  · unfold stopRun
    rw [admitted_eq admission]
    unfold stopNew
    split
    · simp [quiet]
    rename_i registered
    cases requested : nextRequest s with
    | none => simp [quiet]
    | some requestId =>
      dsimp only
      split
      · simp [quiet]
      rename_i prepared
      cases committed : commit c s (s.disposed .prepared) (c.key request.principalId request.operationId)
          (acceptedRecord request.operationId request.method.write request.run request.result) with
      | error error => simp [quiet]
      | ok done =>
        cases done with
        | false => simp [quiet]
        | true =>
          have inserted := (commit_eq_true_iff _ _ _ _).mp committed
          exact absurd ⟨admission, by simpa using registered, requested, by simpa using prepared, inserted⟩
            (unaccepted requestId)
  · exact admitted_quiet admission

end whole

/-! ## Launches and stops -/

inductive Request where
  | launch (request : LaunchRequest)
  | stop (request : StopRequest)

def Request.key : Request → OperationReceiptKey
  | .launch request => c.key request.principalId request.operationId
  | .stop request => c.key request.principalId request.operationId

def perform : Request → List Act
  | .launch request => launch c s request
  | .stop request => stopRun c s request

def Steady : Request → Prop
  | .launch request => ∀ requestId run record, LaunchAccepted c s request requestId run record →
      Kept c s (c.key request.principalId request.operationId) record
  | .stop request => ∀ requestId, StopAccepted c s request requestId →
      Kept c s (c.key request.principalId request.operationId)
        (acceptedRecord request.operationId request.method.write request.run request.result)

section order
variable {c : Composition} {s : Script}

theorem noteRun_silent (run : RunRef) (result : RuntimeResult) : ∀ act ∈ noteRun run result, act.silent = true := by
  unfold noteRun
  split
  · simp
  · split <;> simp [silent]

/-- A launch or a stop keeps its order exactly when, once accepted, the server is not disposed and the store does not
refuse or lose its receipt on the way. -/
theorem ordered_iff_steady (request : Request) :
    Ordered (request.key c) (perform c s request) ↔ Steady c s request := by
  cases request with
  | launch request =>
    have each : ∀ requestId run record, LaunchAccepted c s request requestId run record →
        (Ordered (c.key request.principalId request.operationId) (launch c s request) ↔
          Kept c s (c.key request.principalId request.operationId) record) := by
      intro requestId run record accepted
      rw [launch_accepted accepted]
      exact handover_ordered_iff (by simp [silent]) (by simp [abandon, silent]) (noteRun_silent run s.result)
        (by simp) (by simp [Confirmed])
    constructor
    · intro ordered requestId run record accepted
      exact (each requestId run record accepted).mp ordered
    · intro steady
      by_cases accepted : ∃ requestId run record, LaunchAccepted c s request requestId run record
      · obtain ⟨requestId, run, record, accepted⟩ := accepted
        exact (each requestId run record accepted).mpr (steady requestId run record accepted)
      · exact ordered_of_quiet (launch_unaccepted fun requestId run record this => accepted ⟨requestId, run, record, this⟩)
  | stop request =>
    have each : ∀ requestId, StopAccepted c s request requestId →
        (Ordered (c.key request.principalId request.operationId) (stopRun c s request) ↔
          Kept c s (c.key request.principalId request.operationId)
            (acceptedRecord request.operationId request.method.write request.run request.result)) := by
      intro requestId accepted
      rw [stop_accepted accepted]
      exact handover_ordered_iff (by simp [silent]) (by simp) (by simp) (by simp) (by simp [Confirmed])
    constructor
    · intro ordered requestId accepted
      exact (each requestId accepted).mp ordered
    · intro steady
      by_cases accepted : ∃ requestId, StopAccepted c s request requestId
      · obtain ⟨requestId, accepted⟩ := accepted
        exact (each requestId accepted).mpr (steady requestId accepted)
      · exact ordered_of_quiet (stop_unaccepted fun requestId this => accepted ⟨requestId, this⟩)

end order

/-! ## A server disposed on the way -/

def demoComposition : Composition := ⟨"server", "instance", m0Limits, fun _ => true, id⟩

def demoKey : OperationReceiptKey := ⟨"server", "owner", "op-1"⟩

def demoRun : RunRef := ⟨"server", "instance", "run-1"⟩

def demoLaunch : LaunchRequest := ⟨"owner", "op-1", .terminalCreate, "create"⟩

def demoReceipt (revision : Nat) (state : OperationState) : Found :=
  .receipt ⟨demoKey, "create", ⟨"op-1", .terminalCreate, revision, state, some demoRun, none, none, none⟩⟩

def demoScript (disposal : Moment) (result : RuntimeResult) : Script where
  disposal
  lookup := ⟨none, .ok none, none, 0⟩
  precondition := none
  requestCounter := 0
  registered := true
  lookupAgain := ⟨none, .ok none, none, 0⟩
  reservable := true
  runCounter := 0
  runNumbersSeeded := false
  highestNumber := .ok 0
  reserveRun := true
  recordedCwd := .ok ()
  started := .ok .recorded
  entryKept := true
  insert := .ok true
  entryKeptAfter := true
  tabsLaunch := .error .operation
  progressRead := .ok (some (demoReceipt 0 .accepted))
  progressReplace := .ok true
  runtime := some result
  outcomeRead := .ok (some (demoReceipt 1 .running))
  outcomeReadAgain := .ok (some (demoReceipt 1 .running))
  outcomeReplace := .ok true
  finalRead := .ok (some (demoReceipt 2 .succeeded))

/-- The server is disposed as soon as the receipt is accepted: the step to `running` is refused, and the spawn goes to
the runtime all the same. -/
def earlyDisposal : List Act :=
  launch demoComposition (demoScript .accepted (.error (refusal .workerUnavailable))) demoLaunch

/-- The server is disposed while the outcome of a spawned terminal is written. -/
def lateDisposal : List Act := launch demoComposition (demoScript .outcomeWritten (.result .accepted none)) demoLaunch

theorem earlyDisposal_eq : earlyDisposal =
    [.runConfirmed demoRun, .receiptConfirmed demoKey .accepted, .handed (.spawn demoRun "runtime-1" "op-1"),
      .notStarted demoRun, .answered (failure .operationNotFound)] := by
  decide +kernel

theorem lateDisposal_eq : lateDisposal =
    [.runConfirmed demoRun, .receiptConfirmed demoKey .accepted, .receiptConfirmed demoKey .running,
      .handed (.spawn demoRun "runtime-1" "op-1"), .spawned demoRun, .answered (failure .operationNotFound)] := by
  decide +kernel

/-- The first launch hands its spawn over without `running` confirmed; the second, whose terminal runs, answers that
the request was not accepted. -/
theorem disposed_launches_out_of_order : ¬Ordered demoKey earlyDisposal ∧ ¬Ordered demoKey lateDisposal := by
  constructor
  · intro ordered
    have confirmed : Confirmed demoKey [.runConfirmed demoRun, .receiptConfirmed demoKey .accepted]
        (.spawn demoRun "runtime-1" "op-1") := ordered.confirmed _ _ _ earlyDisposal_eq
    simp [Confirmed] at confirmed
  · intro ordered
    have owned := ordered.owned (.spawn demoRun "runtime-1" "op-1") (failure .operationNotFound)
      (by simp [lateDisposal_eq]) (by simp [lateDisposal_eq])
    simp [failure, refusal, domainError, OperationOutcome.refuses] at owned

end Cove.Operations.TerminalOperations
