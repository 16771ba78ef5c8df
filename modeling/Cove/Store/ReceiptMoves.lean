import Cove.Store.CallEffects

/-!
How one store call changes the receipt of a key: not at all, by inserting it where the key was never used, by moving it
to its next revision, or by purging it to a tombstone. What a caller has read stays a former state of the receipt, so a
move made on it is a move of the receipt as it is.
-/

namespace Cove.Store.System
open Base Base.Checks Base.Run Protocol.Identity Protocol.Operations Operations.Receipts
open List Option State
open Store.Receipts Store.Worktrees Store.Workspaces Store.Runs Store.Bindings

structure Succeeds (record next : OperationRecord) : Prop where
  revision : next.revision = record.revision + 1
  method : next.method = record.method
  run : next.run = record.run
  unended : record.state.ended = false

variable {next : OperationRecord}

theorem isSuccessor_iff {record : OperationRecord} : isSuccessor record next = true ↔
    record.revision ≠ maxSafeInteger ∧ next.revision = record.revision + 1 ∧ next.method = record.method ∧
      next.run = record.run := by
  simp [isSuccessor, and_assoc]

theorem Succeeds.of_successor {record : OperationRecord} (successor : isSuccessor record next = true)
    (unended : record.state.ended = false) : Succeeds record next := by
  obtain ⟨_, revision, method, run⟩ := isSuccessor_iff.mp successor
  exact ⟨revision, method, run, unended⟩

theorem ended_of_terminal {state : OperationState} (open_ : terminalState state = false) : state.ended = false := by
  cases state <;> simp_all [terminalState, OperationState.ended]

theorem settledRecord_eq_some {current final : OperationRecord} {attempts : List Attempt} {revision : Option Nat}
    (settled : settledRecord current attempts revision = some final) :
    attempts ≠ [] ∧ (∀ attempt ∈ attempts, attempt.outcome ≠ .pending) ∧ final.revision = current.revision + 1 ∧
      final.method = current.method ∧ final.run = current.run ∧
      final.state = if ∃ attempt ∈ attempts, attempt.outcome = .failed then .failed else .succeeded := by
  unfold settledRecord at settled
  split at settled
  next => cases settled
  rename_i complete
  obtain rfl := some.inj settled
  simp only [anyPending, Bool.or_eq_true, List.isEmpty_iff, List.any_eq_true, beq_iff_eq, not_or, not_exists,
    not_and] at complete
  refine ⟨complete.1, complete.2, rfl, rfl, rfl, ?_⟩
  simp [find?_isSome]

variable (db : Database)

/-- What lets a call move a receipt that requires attention: it names the receipt's revision, or it finishes an abandon
of it. -/
def Leaves (key : OperationReceiptKey) (revision : Nat) : Call → Prop
  | .write _ (.operationContinue target) _ => target.key = key ∧ target.record.revision = revision
  | .write _ (.tabInputAbandon target) _ => target.key = key ∧ target.record.revision = revision
  | .recover current expected _ _ => current.key = key ∧ expected = revision
  | .finishAbandon abandon _ => abandonTarget db abandon = some key
  | _ => False

/-- What one call does to the receipt of a key. -/
inductive KeyStep (server : Server) (s : State) (call : Call) (after : Database) (key : OperationReceiptKey) : Prop
  | same (kept : after.receipts.find key = s.db.receipts.find key)
  | inserted (row : ReceiptRow) (absent : s.db.receipts.find key = none) (unused : s.db.tombstones.find key = none)
      (present : after.receipts.find key = some row) (names : row.record.run.all s.handedOut = true)
  | moved (row : ReceiptRow) (next : OperationRecord) (at_ : Int) (held : s.db.receipts.find key = some row)
      (put : after.receipts.find key = some (setRecord next at_ row)) (succeeds : Succeeds row.record next)
      (leaves : row.record.state = .requiresAttention → Leaves s.db key row.record.revision call)
  | purged (row : ReceiptRow) (args : PurgeArgs) (purges : call = .purge args)
      (held : s.db.receipts.find key = some row) (isDue : due s.db args row = true)
      (gone : after.receipts.find key = none)
      (left : after.tombstones.find key = some (tombstoneOf server.intentDigest args.now row))

structure Remembered (s : State) : Prop where
  apart : ∀ key row, s.db.tombstones.find key = some row → s.db.receipts.find key = none
  seen : ∀ stored ∈ s.seen, (s.db.tombstones.find stored.key).isSome ∨
    ∃ row, s.db.receipts.find stored.key = some row ∧ row.record.method = stored.record.method ∧
      row.record.run = stored.record.run ∧ stored.record.revision ≤ row.record.revision ∧
      (row.record.revision = stored.record.revision → row.record = stored.record)

variable {row : ReceiptRow}

theorem Remembered.current {s : State} (inv : Remembered s) {stored : StoredReceipt} (read : stored ∈ s.seen) (held : s.db.receipts.find stored.key = some row)
    (same : row.record.revision = stored.record.revision) : row.record = stored.record := by
  rcases inv.seen stored read with gone | ⟨found, there, _, _, _, equal⟩
  · obtain ⟨tombstone, left⟩ := isSome_iff_exists.mp gone
    rw [inv.apart _ _ left] at held
    cases held
  · rw [there] at held
    cases held
    exact equal same

section Steps

variable {server : Server} {s : State} {call : Call} {after mid : Database} {at_ : Int}

theorem KeyStep.put {target : OperationReceiptKey}
    (aside : mid.receipts = s.db.receipts) (held : s.db.receipts.find target = some row)
    (succeeds : Succeeds row.record next)
    (leaves : row.record.state = .requiresAttention → Leaves s.db target row.record.revision call)
    (key : OperationReceiptKey) : KeyStep server s call (putRecord mid target next at_) key := by
  by_cases same : key = target
  · subst same
    apply KeyStep.moved row next at_ held _ succeeds leaves
    rw [find_putRecord, if_pos rfl, aside, held]
    rfl
  · apply KeyStep.same
    rw [find_putRecord, if_neg same, aside]

theorem KeyStep.follow (inv : Remembered s) {current : StoredReceipt}
    (read : current ∈ s.seen) (followed : follow server.limits s.db current next at_ = some after)
    (unended : current.record.state.ended = false)
    (leaves : current.record.state = .requiresAttention → Leaves s.db current.key current.record.revision call)
    (key : OperationReceiptKey) : KeyStep server s call after key := by
  obtain ⟨successor, row, held, same, rfl⟩ := follow_ok followed
  have equal := inv.current read held same
  refine KeyStep.put rfl held ?_ ?_ key
  · rw [equal]
    exact .of_successor successor unended
  · rw [equal]
    exact leaves

theorem KeyStep.insert {receipts : Table (fun row : ReceiptRow => row.key)}
    (absent : s.db.receipts.find row.key = none) (unused : s.db.tombstones.find row.key = none)
    (names : row.record.run.all s.handedOut = true) (inserted : s.db.receipts.insert row = some receipts)
    (grown : after.receipts = receipts) (key : OperationReceiptKey) : KeyStep server s call after key := by
  have found := Table.find_insert inserted key
  rw [← grown] at found
  by_cases same : key = row.key
  · subst same
    exact .inserted row absent unused (by rw [found, if_pos rfl]) names
  · exact .same (by rw [found, if_neg same])

end Steps

/-! Purges. -/

section Purge

variable {digest : String → String} {now : Int}

theorem find_purged (rows : List ReceiptRow) (db : Database) (key : OperationReceiptKey) :
    (rows.foldl (purgeRow digest now) db).receipts.find key =
      if key ∈ rows.map (fun row => row.key) then none else db.receipts.find key := by
  induction rows generalizing db with
  | nil => rfl
  | cons row rest ih =>
    rw [foldl_cons, ih]
    have first : (purgeRow digest now db row).receipts.find key =
        if key = row.key then none else db.receipts.find key := Table.find_delete row.key key
    rw [first]
    by_cases same : key = row.key <;> simp [same]

theorem find_tombstone_purged (rows : List ReceiptRow) (db : Database) (key : OperationReceiptKey) :
    (rows.foldl (purgeRow digest now) db).tombstones.find key = (db.tombstones.find key).orElse
        (fun _ => (rows.find? (fun row => row.key = key)).map (tombstoneOf digest now)) := by
  induction rows generalizing db with
  | nil => simp
  | cons row rest ih =>
    rw [foldl_cons, ih]
    have first : (purgeRow digest now db row).tombstones.find key =
        (db.tombstones.find key).orElse (fun _ => if key = row.key then some (tombstoneOf digest now row) else none) :=
      Table.find_insert_getD key
    rw [first]
    cases db.tombstones.find key with
    | some => rfl
    | none => by_cases same : key = row.key <;> simp [same, eq_comm]

theorem purged_eq (rows : List ReceiptRow) (db : Database) : ∃ receipts tombstones processes,
    rows.foldl (purgeRow digest now) db = { db with receipts, tombstones, processes } := by
  induction rows generalizing db with
  | nil => exact ⟨db.receipts, db.tombstones, db.processes, rfl⟩
  | cons row rest ih =>
    obtain ⟨receipts, tombstones, processes, left⟩ := ih (purgeRow digest now db row)
    exact ⟨receipts, tombstones, processes, left⟩

variable {args : PurgeArgs}

theorem mem_batch {db : Database} (inside : row ∈ batch db args) : row ∈ db.receipts ∧ due db args row = true := by
  have sorted := mem_of_mem_take inside
  rw [mem_insertionSort] at sorted
  exact List.mem_filter.mp sorted

theorem purge_ok {db after : Database} (done : purge digest db args = .ok after) :
    after = (batch db args).foldl (purgeRow digest args.now) db := by
  simp only [purge, bind_eq_ok, pure_eq_ok] at done
  obtain ⟨_, _, rfl⟩ := done
  rfl

theorem purge_eq {db after : Database} (done : purge digest db args = .ok after) :
    ∃ receipts tombstones processes, after = { db with receipts, tombstones, processes } := by
  rw [purge_ok done]
  exact purged_eq (batch db args) db

theorem purge_key {s : State} {after : Database} (inv : Remembered s)
    (done : purge digest s.db args = .ok after) (key : OperationReceiptKey) :
    after.receipts.find key = s.db.receipts.find key ∨
      ∃ row, s.db.receipts.find key = some row ∧ due s.db args row = true ∧ after.receipts.find key = none ∧
        after.tombstones.find key = some (tombstoneOf digest args.now row) := by
  obtain rfl := purge_ok done
  by_cases inside : key ∈ (batch s.db args).map (fun row => row.key)
  · obtain ⟨row, member, rfl⟩ := List.mem_map.mp inside
    obtain ⟨present, isDue⟩ := mem_batch member
    have held : s.db.receipts.find row.key = some row := Table.find_of_mem present
    refine .inr ⟨row, held, isDue, by rw [find_purged, if_pos inside], ?_⟩
    have alive : s.db.tombstones.find row.key = none := by
      cases gone : s.db.tombstones.find row.key with
      | none => rfl
      | some =>
        rw [inv.apart _ _ gone] at held
        cases held
    -- The batch holds one row of the key, so its tombstone is that row's.
    have first : (batch s.db args).find? (fun other => other.key = row.key) = some row := by
      obtain ⟨other, chosen⟩ := isSome_iff_exists.mp
        (find?_isSome.mpr ⟨row, member, decide_eq_true rfl⟩ :
          ((batch s.db args).find? (fun other => other.key = row.key)).isSome)
      have same : decide (other.key = row.key) = true :=
        find?_some (p := fun other : ReceiptRow => other.key = row.key) chosen
      have there := (mem_batch (mem_of_find?_eq_some chosen)).1
      rw [chosen, Table.eq_of_key there present (of_decide_eq_true same)]
    rw [find_tombstone_purged, alive, first]
    rfl
  · exact .inl (by rw [find_purged, if_neg inside])

end Purge

/-! Writes. -/

section Writes

variable {server : Server} {operation : OperationReceiptKey} {db : Database} {at_ : Int} {applied : Applied}

/-- A write leaves tombstones alone, run records unless it closes a tab, and receipts unless it is a recovery command. -/
theorem apply_effects {named : Write} (done : named.apply server operation at_ db = .ok applied) :
    applied.db.tombstones = db.tombstones ∧
      (applied.db.runs = db.runs ∨ ∃ tabId, applied.db.runs = db.runs.map (leaveTab tabId) (leaveTab_runSeq tabId)) ∧
      (applied.db.receipts = db.receipts ∨
        (∃ target row, named = .operationContinue target ∧ db.receipts.find target.key = some row ∧
          row.record.state = .requiresAttention ∧ row.record.revision = target.record.revision ∧
          (row.record.method = .operationAbandon ∨ targetClaimed db target.key = false) ∧
          applied.db = putRecord db target.key (continuedRecord target.record) at_) ∨
        ∃ target row, named = .tabInputAbandon target ∧ db.receipts.find target.key = some row ∧
          row.record.method = .tabSend ∧ row.record.state = .requiresAttention ∧
          row.record.revision = target.record.revision ∧ applied.db = putRecord db target.key
            { row.record with revision := row.record.revision + 1, state := .cancelled } at_) := by
  cases named with
  | taskCreate =>
    obtain ⟨tasks, workspaces, _, _, created, _, _⟩ := taskCreate_ok done
    have aside := Aside.insertMounts created
    exact ⟨aside.tombstones, .inl aside.runs, .inl aside.receipts⟩
  | taskUpdate =>
    obtain ⟨_, left, _⟩ := taskUpdate_ok done
    rw [left]
    exact ⟨rfl, .inl rfl, .inl rfl⟩
  | taskArchive =>
    obtain ⟨_, left, _⟩ := taskArchive_ok done
    rw [left]
    exact ⟨rfl, .inl rfl, .inl rfl⟩
  | mountAdd =>
    obtain ⟨_, _, inserted, _, adding, left, _, _⟩ := mountAdd_ok done
    have aside := Aside.insertMount adding
    rw [left]
    exact ⟨aside.tombstones, .inl aside.runs, .inl aside.receipts⟩
  | mountRemove =>
    obtain ⟨_, _, _, _, left, _⟩ := mountRemove_ok done
    rw [left]
    exact ⟨rfl, .inl rfl, .inl rfl⟩
  | mountRetry =>
    obtain ⟨_, _, _, _, _, _, _, _, _, _, left⟩ := mountRetry_ok done
    rw [left]
    exact ⟨rfl, .inl rfl, .inl rfl⟩
  | repoRegister =>
    obtain ⟨_, left, _⟩ := repoRegister_ok done
    rw [left]
    exact ⟨rfl, .inl rfl, .inl rfl⟩
  | repoUpdate =>
    obtain ⟨_, left, _⟩ := repoUpdate_ok done
    rw [left]
    exact ⟨rfl, .inl rfl, .inl rfl⟩
  | repoRemove =>
    obtain ⟨_, left, _⟩ := repoRemove_ok done
    rw [left]
    exact ⟨rfl, .inl rfl, .inl rfl⟩
  | tabCreate =>
    obtain ⟨_, left, _⟩ := tabCreate_ok done
    rw [left]
    exact ⟨rfl, .inl rfl, .inl rfl⟩
  | tabClose tabId =>
    obtain ⟨_, left, _⟩ := tabClose_ok done
    rw [left]
    exact ⟨rfl, .inr ⟨tabId, rfl⟩, .inl rfl⟩
  | bindingConvert =>
    obtain ⟨_, _, _, _, _, _, _, _, _, _, left⟩ := bindingConvert_ok done
    rw [left]
    exact ⟨rfl, .inl rfl, .inl rfl⟩
  | bindingDelete =>
    obtain ⟨_, _, _, _, _, _, _, _, _, _, _, _, _, _, _, left⟩ := bindingDelete_ok done
    rw [left]
    exact ⟨rfl, .inl rfl, .inl rfl⟩
  | operationContinue target =>
    obtain ⟨current, waits, _, free, _, replaced⟩ := operationContinue_ok done
    obtain ⟨row, held, rfl, names, attends⟩ := attentionReceipt_eq_some.mp waits
    obtain ⟨_, _, _, _, left⟩ := replaceReceipt_ok replaced
    exact ⟨by rw [left]; rfl, .inl (by rw [left]; rfl), .inr (.inl ⟨target, row, rfl, held, attends, names, free, left⟩)⟩
  | operationAbandon =>
    obtain ⟨_, _, _, _, rfl⟩ := operationAbandon_ok done
    exact ⟨(Aside.claimAll ..).tombstones, .inl (Aside.claimAll ..).runs, .inl (Aside.claimAll ..).receipts⟩
  | tabInputAbandon target =>
    obtain ⟨row, held, method, waits, names, _, left⟩ := tabInputAbandon_ok done
    exact ⟨by rw [left]; rfl, .inl (by rw [left]; rfl), .inr (.inr ⟨target, row, rfl, held, method, waits, names, left⟩)⟩
  | other =>
    cases done
    exact ⟨rfl, .inl rfl, .inl rfl⟩

end Writes

/-! Calls. -/

section Calls

variable {server : Server} {s : State} {call : Call} {after mid : Database} {at_ : Int}

theorem KeyStep.write (inv : Remembered s) {request : WriteRequest} {named : Write}
    (allowed : s.allows server (.write request named at_) = true)
    (done : (Call.write request named at_).transact server s.db = .ok after) :
    (∀ key, KeyStep server s (.write request named at_) after key) ∧ after.tombstones = s.db.tombstones := by
  rcases write_call_ok done with rfl | ⟨absent, unused, applied, receipts, applies, inserted, rfl⟩
  · exact ⟨fun _ => .same rfl, rfl⟩
  obtain ⟨tombstones, _, moved⟩ := apply_effects applies
  simp only [allows, Bool.and_eq_true] at allowed
  obtain ⟨_, targets⟩ := allowed
  refine ⟨fun key => ?_, tombstones⟩
  have found := Table.find_insert inserted key
  by_cases own : key = request.key
  · subst own
    exact .inserted _ absent unused (by rw [found, if_pos rfl]) rfl
  · rw [if_neg own] at found
    rcases moved with same | ⟨target, row, rfl, held, waits, names, _, left⟩ |
      ⟨target, row, rfl, held, _, waits, names, left⟩
    · exact .same (by rw [found, same])
    · simp only [Write.targets, Bool.and_eq_true, decide_eq_true_eq] at targets
      have equal := inv.current targets.1.1.1 held names
      by_cases same : key = target.key
      · subst same
        refine .moved row (continuedRecord target.record) at_ held ?_ ?_ (fun _ => ⟨rfl, names.symm⟩)
        · rw [found, left, find_putRecord, if_pos rfl, held]
          rfl
        · rw [equal] at waits ⊢
          exact ⟨rfl, rfl, rfl, by rw [waits]; rfl⟩
      · exact .same (by rw [found, left, find_putRecord, if_neg same])
    · by_cases same : key = target.key
      · subst same
        refine .moved row { row.record with revision := row.record.revision + 1, state := .cancelled } at_ held ?_
          ⟨rfl, rfl, rfl, by rw [waits]; rfl⟩ (fun _ => ⟨rfl, names.symm⟩)
        rw [found, left, find_putRecord, if_pos rfl, held]
        rfl
      · exact .same (by rw [found, left, find_putRecord, if_neg same])

theorem KeyStep.running {limits : ReceiptLimits} {target : OperationReceiptKey} {current : OperationRecord}
    (receipts : mid.receipts = s.db.receipts) (tombstones : mid.tombstones = s.db.tombstones)
    (runs : runningReceipt s.db target = some current)
    (replaced : replaceReceipt limits mid target current next at_ = some after) (run : next.run = current.run) :
    (∀ key, KeyStep server s call after key) ∧ after.tombstones = s.db.tombstones := by
  obtain ⟨row, held, rfl, running⟩ := runningReceipt_eq_some.mp runs
  obtain ⟨_, revision, method, _, rfl⟩ := replaceReceipt_ok replaced
  have unended : row.record.state.ended = false := by
    rw [running]
    rfl
  refine ⟨KeyStep.put receipts held ⟨revision, method, run, unended⟩ ?_, tombstones⟩
  intro waits
  rw [running] at waits
  cases waits

theorem KeyStep.finishAbandon {abandon : OperationReceiptKey}
    (done : (Call.finishAbandon abandon at_).transact server s.db = .ok after) :
    (∀ key, KeyStep server s (.finishAbandon abandon at_) after key) ∧ after.tombstones = s.db.tombstones := by
  simp only [Call.transact, bind_eq_ok, found_eq_ok] at done
  obtain ⟨target, names, done⟩ := done
  obtain ⟨own, waiting, half, runs, received, waits, first, second⟩ := finishAbandon_ok done
  obtain ⟨ownRow, ownHeld, rfl, running⟩ := runningReceipt_eq_some.mp runs
  obtain ⟨row, held, rfl⟩ := receiptOf_eq_some.mp received
  obtain ⟨_, revision, method, _, rfl⟩ := replaceReceipt_ok first
  obtain ⟨_, ownRevision, ownMethod, _, rfl⟩ := replaceReceipt_ok second
  have aside := Aside.abandonAttempts s.db (claimedBy s.db abandon)
  -- The abandon runs and its target requires attention, so they are two receipts.
  have apart : target ≠ abandon := by
    rintro rfl
    rw [held] at ownHeld
    cases ownHeld
    rw [running] at waits
    cases waits
  refine ⟨fun key => ?_, aside.tombstones⟩
  by_cases mine : key = abandon
  · subst mine
    refine .moved ownRow _ at_ ownHeld ?_ ⟨ownRevision, ownMethod, rfl, by rw [running]; rfl⟩ ?_
    · rw [find_putRecord, if_pos rfl, find_putRecord, if_neg apart.symm, aside.receipts, ownHeld]
      rfl
    · intro attends
      rw [running] at attends
      cases attends
  by_cases theirs : key = target
  · subst theirs
    refine .moved row _ at_ held ?_ ⟨revision, method, rfl, by rw [waits]; rfl⟩ (fun _ => names)
    rw [find_putRecord, if_neg apart, find_putRecord, if_pos rfl, aside.receipts, held]
    rfl
  · exact .same (by rw [find_putRecord, if_neg mine, find_putRecord, if_neg theirs, aside.receipts])

theorem KeyStep.aside (receipts : after.receipts = s.db.receipts) (tombstones : after.tombstones = s.db.tombstones) :
    (∀ key, KeyStep server s call after key) ∧ after.tombstones = s.db.tombstones :=
  ⟨fun _ => .same (by rw [receipts]), tombstones⟩

theorem endDeletion_receipts (deletion : DeletionRow) (restored : Bool) :
    (endDeletion db deletion restored).receipts = db.receipts := by
  cases restored <;> rfl

theorem endDeletion_tombstones (deletion : DeletionRow) (restored : Bool) :
    (endDeletion db deletion restored).tombstones = db.tombstones := by
  cases restored <;> rfl

theorem notStarted_eq (run : RunRef) : ∃ tabs runs, notStarted db run = { db with tabs, runs } := by
  unfold notStarted
  split
  next => exact ⟨db.tabs, db.runs, rfl⟩
  next row _ => exact ⟨_, _, rfl⟩

section

variable (inv : Remembered s)
include inv

theorem transact_keys (allowed : s.allows server call = true)
    (done : call.transact server s.db = .ok after) (keeps : ∀ args, call ≠ .purge args) :
    (∀ key, KeyStep server s call after key) ∧ after.tombstones = s.db.tombstones := by
  cases call with
  | insert =>
    obtain ⟨unused, receipts, inserted, rfl⟩ := insertReceipt_ok done
    simp only [allows, Bool.and_eq_true] at allowed
    exact ⟨KeyStep.insert (Table.find_of_insert inserted) unused allowed.2 inserted rfl, rfl⟩
  | update =>
    obtain ⟨open_, followed⟩ := update_ok done
    simp only [allows, Bool.and_eq_true, decide_eq_true_eq] at allowed
    refine ⟨KeyStep.follow inv allowed.1.2 followed (ended_of_terminal open_) ?_, ?_⟩
    · intro waits
      rw [waits] at open_
      cases open_
    · obtain ⟨_, _, _, _, rfl⟩ := follow_ok followed
      rfl
  | recover =>
    obtain ⟨waits, names, _, followed⟩ := recover_ok done
    simp only [allows, Bool.and_eq_true, decide_eq_true_eq] at allowed
    refine ⟨KeyStep.follow inv allowed.1.2 followed (by rw [waits]; rfl) (fun _ => ⟨rfl, names.symm⟩), ?_⟩
    obtain ⟨_, _, _, _, rfl⟩ := follow_ok followed
    rfl
  | recoverStart =>
    obtain ⟨row, held, open_, rfl⟩ := recoverStart_ok done
    refine ⟨KeyStep.put rfl held ⟨rfl, rfl, rfl, ended_of_terminal open_⟩ ?_, rfl⟩
    intro waits
    rw [waits] at open_
    cases open_
  | recoverEnd =>
    obtain ⟨row, next, held, recovering, successor, _, rfl⟩ := recoverEnd_ok done
    refine ⟨KeyStep.put rfl held (.of_successor successor (by rw [recovering]; rfl)) ?_, rfl⟩
    intro waits
    rw [recovering] at waits
    cases waits
  | write => exact KeyStep.write inv allowed done
  | launch args =>
    obtain ⟨launched, launches, rfl⟩ := map_eq_ok.mp done
    rcases launch_ok launches with same | ⟨absent, unused, tab, _, _, _, receipts, _, _, _, _, inserted, left⟩
    · exact KeyStep.aside (by rw [same]) (by rw [same])
    simp only [allows, Bool.and_eq_true] at allowed
    have names : (launchRecord args tab).run.all s.handedOut = true := by simpa [launchRecord] using allowed.2
    exact ⟨KeyStep.insert absent unused names inserted (by rw [left]), by rw [left]⟩
  | advance =>
    obtain ⟨attempt, _, ⟨prior, _, _, rfl⟩ | ⟨_, rfl⟩⟩ := advance_ok done
    · exact KeyStep.aside (Aside.advancePrior ..).receipts (Aside.advancePrior ..).tombstones
    · exact KeyStep.aside rfl rfl
  | recordIntent =>
    obtain ⟨_, _, _, _, _, _, _, _, _, _, _, _, _, rfl⟩ := recordIntent_ok done
    exact KeyStep.aside rfl rfl
  | settle =>
    obtain ⟨settled, settles, rfl⟩ := map_eq_ok.mp done
    obtain ⟨row, receipt, ended, _, _, runs, settling, recorded⟩ := settle_ok settles
    have aside := (Aside.settleAttempt settling).trans (Aside.settledAttempt ended (currentAttempt s.db row.attemptId) row)
    rcases recorded with ⟨_, left⟩ | ⟨final, record, replaced⟩
    · exact KeyStep.aside (by rw [left]; exact aside.receipts) (by rw [left]; exact aside.tombstones)
    · exact KeyStep.running aside.receipts aside.tombstones runs replaced (settledRecord_eq_some record).2.2.2.2.1
  | attention =>
    obtain ⟨receipt, runs, replaced⟩ := attention_ok done
    exact KeyStep.running rfl rfl runs replaced rfl
  | finishAbandon => exact KeyStep.finishAbandon done
  | switch =>
    obtain ⟨_, _, receipt, _, _, _, switched, final, _, _, _, _, runs, _, _, _, _, _, _, switching, _, settled,
      replaced⟩ := switch_ok done
    have aside := Aside.switchMount switching
    exact KeyStep.running aside.receipts aside.tombstones runs replaced (settledRecord_eq_some settled).2.2.2.2.1
  | finishDelete =>
    obtain ⟨deletion, receipt, revision, _, _, runs, replaced⟩ := finishDelete_ok done
    exact KeyStep.running (endDeletion_receipts ..) (endDeletion_tombstones ..) runs replaced rfl
  | started =>
    obtain ⟨_, runs, _, rfl⟩ := started_ok done
    exact KeyStep.aside rfl rfl
  | spawned run | exited run | stoppedWithServer relayInstanceId | interruptEarlier relayInstanceId
  | endProcess =>
    cases done
    exact KeyStep.aside rfl rfl
  | notStarted run =>
    cases done
    obtain ⟨tabs, runs, left⟩ := notStarted_eq s.db run
    exact KeyStep.aside (by rw [left]) (by rw [left])
  | purge args => exact absurd rfl (keeps args)
  | recordProcess =>
    obtain ⟨processes, rfl⟩ := recordProcess_ok done
    exact KeyStep.aside rfl rfl

theorem call_keyStep (allowed : s.allows server call = true)
    (done : call.transact server s.db = .ok after) (key : OperationReceiptKey) : KeyStep server s call after key := by
  by_cases purges : ∃ args, call = .purge args
  · obtain ⟨args, rfl⟩ := purges
    rcases purge_key inv done key with same | ⟨row, held, isDue, gone, left⟩
    · exact .same same
    · exact .purged row args rfl held isDue gone left
  · exact (transact_keys inv allowed done (not_exists.mp purges)).1 key

theorem tombstone_kept (allowed : s.allows server call = true)
    (done : call.transact server s.db = .ok after) {key : OperationReceiptKey} {gone : TombstoneRow}
    (there : s.db.tombstones.find key = some gone) : after.tombstones.find key = some gone := by
  by_cases purges : ∃ args, call = .purge args
  · obtain ⟨args, rfl⟩ := purges
    rw [purge_ok done, find_tombstone_purged, there]
    rfl
  · rw [(transact_keys inv allowed done (not_exists.mp purges)).2, there]

theorem tombstone_apart (allowed : s.allows server call = true)
    (done : call.transact server s.db = .ok after) {key : OperationReceiptKey} {gone : TombstoneRow}
    (there : after.tombstones.find key = some gone) : after.receipts.find key = none := by
  by_cases purges : ∃ args, call = .purge args
  · obtain ⟨args, rfl⟩ := purges
    obtain rfl := purge_ok done
    rw [find_purged]
    split
    next => rfl
    rename_i outside
    -- No row of the batch has the key, so the tombstone was there before.
    rw [find_tombstone_purged, find?_eq_none.mpr] at there
    · exact inv.apart key gone (by simpa using there)
    · intro row member same
      exact outside (List.mem_map.mpr ⟨row, member, of_decide_eq_true same⟩)
  · obtain ⟨keys, same⟩ := transact_keys inv allowed done (not_exists.mp purges)
    rw [same] at there
    have absent := inv.apart key gone there
    cases keys key with
    | same kept => rw [kept, absent]
    | inserted _ _ unused =>
      rw [unused] at there
      cases there
    | moved _ _ _ held =>
      rw [absent] at held
      cases held
    | purged _ _ _ _ _ gone => exact gone

theorem Remembered.of_call (allowed : s.allows server call = true)
    (done : call.transact server s.db = .ok after) : Remembered { s with db := after } where
  apart := fun _ _ there => tombstone_apart inv allowed done there
  seen := by
    intro stored read
    rcases inv.seen stored read with gone | ⟨row, held, method, run, reached, equal⟩
    · obtain ⟨tombstone, left⟩ := isSome_iff_exists.mp gone
      exact .inl (isSome_iff_exists.mpr ⟨tombstone, tombstone_kept inv allowed done left⟩)
    cases call_keyStep inv allowed done stored.key with
    | same kept => exact .inr ⟨row, by rw [kept, held], method, run, reached, equal⟩
    | inserted _ absent =>
      rw [absent] at held
      cases held
    | moved _ next time there put succeeds =>
      rw [held] at there
      cases there
      have grown : next.revision = row.record.revision + 1 := succeeds.revision
      refine .inr ⟨setRecord next time row, put, succeeds.method.trans method, succeeds.run.trans run, ?_, ?_⟩
      · show stored.record.revision ≤ next.revision
        omega
      · intro (same : next.revision = stored.record.revision)
        omega
    | purged _ _ _ _ _ _ left => exact .inl (isSome_iff_exists.mpr ⟨_, left⟩)

end

end Calls

/-! Runs. -/

section Runs

variable {server : Server} {s : State}

theorem step_call (server : Server) (s : State) (call : Call) : step server s (.call call) = s ∨
    ∃ after, s.allows server call = true ∧ call.transact server s.db = .ok after ∧
      step server s (.call call) = { s with db := after } := by
  by_cases allowed : s.allows server call = true
  · cases done : call.transact server s.db with
    | error => exact .inl (by simp [step, done, orElse])
    | ok after => exact .inr ⟨after, allowed, rfl, by simp [step, allowed, done, orElse]⟩
  · exact .inl (by simp [step, allowed])

theorem step_db (server : Server) (s : State) (event : Event) : (step server s event).db = s.db ∨
    ∃ call after, event = .call call ∧ s.allows server call = true ∧ call.transact server s.db = .ok after ∧
      step server s event = { s with db := after } := by
  cases event with
  | call call =>
    rcases step_call server s call with same | ⟨after, allowed, done, left⟩
    · exact .inl (by rw [same])
    · exact .inr ⟨call, after, rfl, allowed, done, left⟩
  | read key | serve | restart relayInstanceId => exact .inl rfl
  | readNumber | readMark =>
    refine .inl ?_
    simp only [step]
    split <;> rfl
  | takeNumber read =>
    refine .inl ?_
    simp only [step, takeNumber, hand]
    cases read <;> dsimp only <;> repeat' split
    all_goals rfl

theorem step_seen (event : Event) {stored : StoredReceipt} (read : stored ∈ (step server s event).seen) :
    stored ∈ s.seen ∨ ∃ row, s.db.receipts.find stored.key = some row ∧ row.toStoredReceipt = stored := by
  cases event with
  | call call | readNumber | readMark =>
    refine .inl ?_
    simp only [step] at read
    split at read <;> exact read
  | read =>
    simp only [step, mem_append, mem_toList, map_eq_some_iff] at read
    rcases read with old | ⟨row, held, rfl⟩
    · exact .inl old
    refine .inr ⟨row, ?_, rfl⟩
    rw [key_of_find held]
    exact held
  | takeNumber number =>
    refine .inl ?_
    simp only [step, takeNumber, hand] at read
    cases number <;> dsimp only at read <;> repeat' split at read
    all_goals exact read
  | serve => exact .inl read
  | restart => cases read

theorem Remembered.step (inv : Remembered s) (event : Event) : Remembered (step server s event) := by
  rcases step_db server s event with kept | ⟨call, after, rfl, allowed, done, left⟩
  · refine ⟨?_, ?_⟩
    · rw [kept]
      exact inv.apart
    · intro stored read
      rw [kept]
      rcases step_seen event read with old | ⟨row, held, rfl⟩
      · exact inv.seen stored old
      · exact .inr ⟨row, held, rfl, rfl, le_rfl, fun _ => rfl⟩
  · rw [left]
    exact inv.of_call allowed done

theorem Remembered.first (relayInstanceId : String) : Remembered (State.first relayInstanceId) where
  apart := by
    intro key row there
    cases there
  seen := by
    intro stored read
    cases read

/-- No key ever has both a receipt and a tombstone, and a receipt this instance has read was purged or has the same
method and run at that revision or a later one. -/
theorem receipts_go_forward (server : Server) (relayInstanceId : String) (events : List Event) :
    Remembered (run (step server) (State.first relayInstanceId) events) :=
  run_invariant Remembered (.first relayInstanceId) (fun _ event inv => inv.step event) events

end Runs

end Cove.Store.System
