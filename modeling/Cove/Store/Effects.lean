import Cove.Store.System

/-!
What a transaction that ends has checked and written. One lemma per transaction gives its checks and the database it
leaves; the proofs about runs of the server use only these.
-/

namespace Cove.Store
open Base Base.Checks Protocol.Operations Operations.Receipts
open Option Bool

structure Aside (db after : Database) : Prop where
  receipts : after.receipts = db.receipts
  tombstones : after.tombstones = db.tombstones
  processes : after.processes = db.processes
  runs : after.runs = db.runs
  nextRunSeq : after.nextRunSeq = db.nextRunSeq
  tabs : after.tabs = db.tabs
  repos : after.repos = db.repos
  deletions : after.deletions = db.deletions

namespace Aside

variable (db : Database)

theorem refl : Aside db db := ⟨rfl, rfl, rfl, rfl, rfl, rfl, rfl, rfl⟩

theorem trans {first second third : Database} (left : Aside first second) (right : Aside second third) :
    Aside first third where
  receipts := right.receipts.trans left.receipts
  tombstones := right.tombstones.trans left.tombstones
  processes := right.processes.trans left.processes
  runs := right.runs.trans left.runs
  nextRunSeq := right.nextRunSeq.trans left.nextRunSeq
  tabs := right.tabs.trans left.tabs
  repos := right.repos.trans left.repos
  deletions := right.deletions.trans left.deletions

theorem setMount (mountId : String) (change : MountRow → MountRow)
    (keeps : ∀ row, (change row).mountId = row.mountId) : Aside db (db.setMount mountId change keeps) :=
  ⟨rfl, rfl, rfl, rfl, rfl, rfl, rfl, rfl⟩

theorem setAttempt (attemptId : String) (change : AttemptRow → AttemptRow)
    (keeps : ∀ row, (change row).attemptId = row.attemptId) : Aside db (db.setAttempt attemptId change keeps) :=
  ⟨rfl, rfl, rfl, rfl, rfl, rfl, rfl, rfl⟩

theorem setManaged (worktreeId : String) (change : ManagedRow → ManagedRow)
    (keeps : ∀ row, (change row).path = row.path) : Aside db (db.setManaged worktreeId change keeps) :=
  ⟨rfl, rfl, rfl, rfl, rfl, rfl, rfl, rfl⟩

theorem bumpWorkspace (workspaceId : String) : Aside db (db.bumpWorkspace workspaceId) :=
  ⟨rfl, rfl, rfl, rfl, rfl, rfl, rfl, rfl⟩

theorem foldl {α : Type} {change : Database → α → Database} (each : ∀ db item, Aside db (change db item))
    (items : List α) (db : Database) : Aside db (items.foldl change db) := by
  induction items generalizing db with
  | nil => exact refl db
  | cons item rest ih => exact (each db item).trans (ih (change db item))

end Aside

/-! Receipts. -/

namespace Receipts

variable {limits : ReceiptLimits} {db after : Database} {key : OperationReceiptKey} {at_ : Int}

theorem key_of_find {row : ReceiptRow} (held : db.receipts.find key = some row) : row.key = key := by
  have same := Table.find_key held
  exact same

theorem find_putRecord (record : OperationRecord) (other : OperationReceiptKey) :
    (putRecord db key record at_).receipts.find other =
      if other = key then (db.receipts.find other).map (setRecord record at_) else db.receipts.find other := by
  show (db.receipts.update key (setRecord record at_) (setRecord_key record at_)).find other = _
  rw [Table.find_update]

theorem insert_ok {stored : StoredReceipt} (done : insert db stored at_ = .ok (some after)) :
    db.tombstones.find stored.key = none ∧ ∃ receipts,
      db.receipts.insert { toStoredReceipt := stored, updatedAtMs := at_ } = some receipts ∧
        after = { db with receipts } := by
  simp only [insert, bind_eq_ok, require_eq_ok, pure_eq_ok, isNone_iff_eq_none, map_eq_some_iff] at done
  obtain ⟨_, alive, receipts, inserted, rfl⟩ := done
  exact ⟨alive, receipts, inserted, rfl⟩

variable {record : OperationRecord}

theorem replace_ok {expected : Nat} (done : replace db key expected record at_ = some after) :
    ∃ row, db.receipts.find key = some row ∧ row.record.revision = expected ∧ after = putRecord db key record at_ := by
  unfold replace at done
  cases found : db.receipts.find key with
  | none => simp [found] at done
  | some row =>
    simp only [found, ite_none_right_eq_some, some.injEq] at done
    exact ⟨row, rfl, done.1, done.2.symm⟩

theorem receiptOf_eq_some :
    receiptOf db key = some record ↔ ∃ row, db.receipts.find key = some row ∧ row.record = record := by
  simp [receiptOf]

theorem runningReceipt_eq_some : runningReceipt db key = some record ↔
      ∃ row, db.receipts.find key = some row ∧ row.record = record ∧ record.state = .running := by
  simp only [runningReceipt, filter_eq_some_iff, receiptOf_eq_some, beq_iff_eq]
  tauto

theorem attentionReceipt_eq_some {expected : Nat} : attentionReceipt db key expected = some record ↔
      ∃ row, db.receipts.find key = some row ∧ row.record = record ∧ record.revision = expected ∧
        record.state = .requiresAttention := by
  simp only [attentionReceipt, filter_eq_some_iff, receiptOf_eq_some, and_eq_true, beq_iff_eq]
  tauto

theorem replaceReceipt_ok {current next : OperationRecord}
    (done : replaceReceipt limits db key current next at_ = some after) :
    checkedReceiptRecord limits key next = true ∧ next.revision = current.revision + 1 ∧ next.method = current.method ∧
      (∃ row, db.receipts.find key = some row ∧ row.record.revision = current.revision) ∧
        after = putRecord db key next at_ := by
  simp only [replaceReceipt, ite_none_right_eq_some, and_eq_true, beq_iff_eq] at done
  obtain ⟨⟨⟨checked, revision⟩, method⟩, replaced⟩ := done
  obtain ⟨row, found, same, rfl⟩ := replace_ok replaced
  exact ⟨checked, revision, method, ⟨row, found, same⟩, rfl⟩

theorem insert_putRecord {row : ReceiptRow} {receipts : Table (fun row : ReceiptRow => row.key)}
    (inserted : db.receipts.insert row = some receipts) (record : OperationRecord) :
    db.receipts.insert (setRecord record at_ row) =
      some (receipts.update row.key (setRecord record at_) (setRecord_key record at_)) := by
  obtain ⟨absent, rows⟩ := Table.insert_eq_some.mp inserted
  refine Table.insert_eq_some.mpr ⟨absent, ?_⟩
  have others : ∀ other ∈ db.receipts.rows, other.key ≠ row.key := Table.find_eq_none.mp absent
  show receipts.rows.map _ = _
  rw [rows, List.map_append]
  congr 1
  · conv_rhs => rw [← List.map_id db.receipts.rows]
    apply List.map_congr_left
    intro other inside
    simp [others other inside]
  · simp

theorem write_ok {digest : String → String} {request : WriteRequest} {apply : Database → Except Halt Applied}
    {written : Written} (done : write limits digest db request apply at_ = .ok written) :
    request.key.serverId = limits.serverId ∧ (written.db = db ∨
        db.receipts.find request.key = none ∧ db.tombstones.find request.key = none ∧ ∃ applied receipts,
          apply db = .ok applied ∧ applied.db.tombstones.find request.key = none ∧ applied.db.receipts.insert
            { toStoredReceipt := ⟨request.key, request.canonicalIntent, writtenRecord request applied⟩,
              updatedAtMs := at_ } = some receipts ∧
          written.db = { applied.db with receipts }) := by
  simp only [write, bind_eq_ok, require_eq_ok, beq_iff_eq] at done
  obtain ⟨_, server, done⟩ := done
  refine ⟨server, ?_⟩
  cases held : db.receipts.find request.key with
  | some =>
    simp only [held, bind_eq_ok, pure_eq_ok] at done
    obtain ⟨_, _, rfl⟩ := done
    exact .inl rfl
  | none =>
    cases gone : db.tombstones.find request.key with
    | some => simp [held, gone] at done
    | none =>
      right
      simp only [held, gone, bind_eq_ok, found_eq_ok, pure_eq_ok] at done
      obtain ⟨applied, applies, _, _, inserted, insertion, held', rfl, _, _, _, _, finished, replaced, rfl⟩ := done
      obtain ⟨alive, receipts, grown, rfl⟩ := insert_ok insertion
      obtain ⟨row, _, _, rfl⟩ := replace_ok replaced
      exact ⟨rfl, rfl, applied, _, applies, alive, insert_putRecord grown _, rfl⟩

end Receipts

/-! Worktree preparation. -/

namespace Worktrees
open Store.Receipts

variable {limits : ReceiptLimits} {db after : Database} {at_ : Int}

variable {mountId : String} {operation : OperationReceiptKey}

theorem insertAttempt_ok {attemptId : String} {position : Nat} {options : AttemptOptions} {path : Option String}
    (done : insertAttempt db attemptId mountId operation position options path = .ok after) :
    ∃ mount attempts, db.mounts.find mountId = some mount ∧
      db.attempts.insert (plannedAttempt mount attemptId mountId operation position options path) = some attempts ∧
        after = { db with attempts } := by
  simp only [insertAttempt, bind_eq_ok, found_eq_ok, pure_eq_ok] at done
  obtain ⟨mount, held, attempts, inserted, rfl⟩ := done
  exact ⟨mount, attempts, held, inserted, rfl⟩

theorem insertPreparation_ok {attemptId branch : String} {spec : WorktreeSpec} {position : Nat}
    (done : insertPreparation db attemptId mountId branch spec operation position = .ok after) :
    ∃ mount attempts preparations, db.mounts.find mountId = some mount ∧
      db.attempts.insert (plannedAttempt mount attemptId mountId operation position
        ⟨branch, spec.baseRef, spec.noFetch⟩ none) = some attempts ∧
      db.preparations.insert ⟨mountId, spec, attemptId⟩ = some preparations ∧
        after = { db with attempts, preparations } := by
  simp only [insertPreparation, bind_eq_ok, found_eq_ok, pure_eq_ok] at done
  obtain ⟨planned, planning, preparations, inserted, rfl⟩ := done
  obtain ⟨mount, attempts, held, added, rfl⟩ := insertAttempt_ok planning
  exact ⟨mount, attempts, preparations, held, added, inserted, rfl⟩

theorem advance_ok {args : AdvanceArgs} (done : advance db args = .ok after) :
    ∃ row, actable db args.attemptId args.actor = some row ∧
      ((∃ prior step, priorOf db row = some prior ∧ after = advancePrior db row.path prior step) ∨
        args.prior = false ∧ after = db.setAttempt args.attemptId (advanced args) (advanced_attemptId args)) := by
  simp only [advance, bind_eq_ok, found_eq_ok] at done
  obtain ⟨row, acts, done⟩ := done
  refine ⟨row, acts, ?_⟩
  by_cases prior : args.prior = true
  · left
    simp only [prior, if_true, bind_eq_ok, found_eq_ok, pure_eq_ok] at done
    obtain ⟨earlier, held, step, _, _, _, rfl⟩ := done
    exact ⟨earlier, step, held, rfl⟩
  · right
    simp only [prior, false_eq_true, if_false, pure_eq_ok] at done
    exact ⟨by simpa using prior, done.symm⟩

theorem recordIntent_ok {args : IntentArgs} (done : recordIntent db args = .ok after) :
    ∃ row mount repo taskId baseCommit managed, actable db args.attemptId args.actor = some row ∧
      row.abandon = none ∧ row.phase = .resolved ∧ row.baseCommit = some baseCommit ∧
      intentMount db row = some mount ∧ (∀ existing, db.managed.find row.path = some existing → existing.state.reusable) ∧
      (db.managed.delete row.path).insert (intentRow row mount repo taskId args.worktreeId baseCommit) = some managed ∧
      after = { db with
        managed
        attempts := db.attempts.update args.attemptId (recordedAttempt args.worktreeId)
          (recordedAttempt_attemptId args.worktreeId)
        mounts := if conversionPending db row.attemptId then db.mounts
          else db.mounts.update row.mountId (fun mount => { mount with baseCommit := some baseCommit })
            (fun _ => rfl) } := by
  simp only [recordIntent, bind_eq_ok, found_eq_ok, require_eq_ok, and_eq_true, isNone_iff_eq_none,
    beq_iff_eq, all_eq_true] at done
  obtain ⟨row, acts, _, ⟨free, resolved⟩, baseCommit, base, mount, held, workspace, _, repo, _, _, open_, managed, inserted,
    done⟩ := done
  refine ⟨row, mount, repo, workspace.taskId, baseCommit, managed, acts, free, resolved, base, held, open_, inserted, ?_⟩
  by_cases pending : conversionPending db row.attemptId = true
  · simp only [pending, if_true, pure_eq_ok] at done ⊢
    exact done.symm
  · simp only [pending, false_eq_true, if_false, pure_eq_ok] at done ⊢
    exact done.symm

theorem settleAttempt_ok {row : AttemptRow} {outcome : Option DomainError}
    (done : settleAttempt db row outcome = .ok after) :
    (∃ own, outcome = none ∧ ownManaged db row = some own ∧ own.state = .intent ∧
        currentAttempt db row.attemptId = true ∧ after = settleReady db row own) ∨ ∃ error, outcome = some error ∧
        after = settleFailed db row (ownManaged db row) (currentAttempt db row.attemptId) error := by
  cases outcome with
  | none =>
    left
    simp only [settleAttempt, bind_eq_ok, found_eq_ok, require_eq_ok, and_eq_true, beq_iff_eq, pure_eq_ok] at done
    obtain ⟨own, held, _, ⟨intent, current⟩, rfl⟩ := done
    exact ⟨own, rfl, held, intent, current, rfl⟩
  | some error =>
    right
    simp only [settleAttempt, pure_eq_ok] at done
    exact ⟨error, rfl, done.symm⟩

theorem settle_ok {args : SettleArgs} {settled : Settled} (done : settle limits db args at_ = .ok settled) :
    ∃ row receipt ended, actable db args.attemptId args.actor = some row ∧ row.abandon = none ∧
      runningReceipt db row.operation = some receipt ∧ settleAttempt db row args.outcome = .ok ended ∧
      let bumped := settledAttempt ended (currentAttempt db row.attemptId) row
      let record := settledRecord receipt (attemptsOf bumped row.operation) (bumped.workspaceRevision row.workspaceId)
      (record = none ∧ settled.db = bumped ∨
        ∃ final, record = some final ∧ replaceReceipt limits bumped row.operation receipt final at_ = some settled.db) := by
  simp only [settle, bind_eq_ok, found_eq_ok, require_eq_ok, isNone_iff_eq_none, pure_eq_ok, Prod.exists] at done
  obtain ⟨row, acts, _, free, receipt, running, ended, settling, left, flag, recorded, rfl⟩ := done
  refine ⟨row, receipt, ended, acts, free, running, settling, ?_⟩
  unfold settleReceipt at recorded
  split at recorded
  next unsettled =>
    left
    simp only [pure_eq_ok, Prod.mk.injEq] at recorded
    exact ⟨unsettled, recorded.1.symm⟩
  next final settled =>
    right
    simp only [bind_eq_ok, found_eq_ok] at recorded
    obtain ⟨_, replaced, rfl, _⟩ := recorded
    exact ⟨final, settled, replaced⟩

theorem attention_ok {args : AttentionArgs} (done : attention limits db args at_ = .ok after) :
    ∃ receipt, runningReceipt db args.operation = some receipt ∧ replaceReceipt limits db args.operation receipt
        (attentionRecord receipt (attemptsOf db args.operation) (recordRevision db (attemptsOf db args.operation))
          args.progress args.error) at_ = some after := by
  simp only [attention, bind_eq_ok, found_eq_ok] at done
  exact done

theorem finishAbandon_ok {args : FinishAbandonArgs} (done : finishAbandon limits db args at_ = .ok after) :
    ∃ abandon target half, runningReceipt db args.abandon = some abandon ∧ receiptOf db args.target = some target ∧
      target.state = .requiresAttention ∧
      replaceReceipt limits (abandonAttempts db (claimedBy db args.abandon)) args.target target
        (cancelledTarget db args target) at_ = some half ∧
      replaceReceipt limits half args.abandon abandon (finishedRecord abandon) at_ = some after := by
  simp only [finishAbandon, bind_eq_ok, found_eq_ok, require_eq_ok, beq_iff_eq] at done
  obtain ⟨abandon, running, target, held, _, waits, half, first, second⟩ := done
  exact ⟨abandon, target, half, running, held, waits, first, second⟩

theorem mountOfTask_eq_some {taskId : String} {mount : MountRow} {workspace : WorkspaceRow} {task : TaskRow} :
    mountOfTask db taskId mountId = some (mount, workspace, task) ↔
      db.mounts.find mountId = some mount ∧ db.workspaces.find mount.workspaceId = some workspace ∧
        db.tasks.find workspace.taskId = some task ∧ task.taskId = taskId := by
  simp only [mountOfTask, bind_eq_bind, bind_eq_some_iff, pure_def, some.injEq,
    Prod.mk.injEq]
  constructor
  · rintro ⟨found, held, place, where_, owner, owned, _, same, rfl, rfl, rfl⟩
    refine ⟨held, where_, owned, ?_⟩
    by_contra other
    simp [other] at same
  · rintro ⟨held, where_, owned, same⟩
    exact ⟨mount, held, workspace, where_, task, owned, (), by simp [same], rfl, rfl, rfl⟩

variable {applied : Applied}

theorem mountRetry_ok {args : MountRetryArgs} (done : mountRetry db operation args = .ok applied) :
    ∃ mount attempts workspaces, db.mounts.find args.mountId = some mount ∧ mount.source = .worktree ∧
      mount.state = .failed ∧ (db.preparations.find args.mountId).isSome ∧ attemptOperationOpen db args.mountId = false ∧
      applied.running = true ∧
      db.attempts.insert (plannedAttempt (retriedMount args.options.branch mount) args.attemptId args.mountId operation 0
        args.options none) = some attempts ∧ applied.db = { db with
        mounts := db.mounts.update args.mountId (retriedMount args.options.branch)
          (retriedMount_mountId args.options.branch)
        attempts
        preparations := db.preparations.update args.mountId (fun row => { row with attemptId := args.attemptId })
          (fun _ => rfl)
        workspaces } := by
  simp only [mountRetry, bind_eq_ok, found_eq_ok, require_eq_ok, and_eq_true, beq_iff_eq, not_eq_true',
    pure_eq_ok, Prod.exists, mountOfTask_eq_some] at done
  obtain ⟨mount, workspace, task, ⟨held, _, _, _⟩, _, _, _, ⟨source, failed⟩, _, prepared, _, closed, _, _, planned, planning,
    rfl⟩ := done
  obtain ⟨pending, attempts, held', inserted, rfl⟩ := insertAttempt_ok planning
  have same : pending = retriedMount args.options.branch mount := by
    have : (db.setMount args.mountId (retriedMount args.options.branch)
        (retriedMount_mountId args.options.branch)).mounts.find args.mountId = some pending := held'
    rw [Database.setMount, Table.find_update_self, held] at this
    exact (some.inj this).symm
  subst same
  exact ⟨mount, attempts, _, held, source, failed, prepared, closed, rfl, inserted, rfl⟩

theorem operationContinue_ok {args : ContinueArgs} (done : operationContinue limits db args at_ = .ok applied) :
    ∃ current, attentionReceipt db args.target args.expectedRevision = some current ∧ args.next.state = .running ∧
      (current.method = .operationAbandon ∨ targetClaimed db args.target = false) ∧ applied.running = false ∧
        replaceReceipt limits db args.target current args.next at_ = some applied.db := by
  simp only [operationContinue, bind_eq_ok, found_eq_ok, require_eq_ok, or_eq_true, beq_iff_eq,
    not_eq_true', pure_eq_ok] at done
  obtain ⟨current, waits, _, running, _, free, continued, replaced, rfl⟩ := done
  exact ⟨current, waits, running, free, rfl, replaced⟩

theorem operationAbandon_ok {args : AbandonArgs} (done : operationAbandon db operation args = .ok applied) :
    ∃ current, attentionReceipt db args.target args.expectedRevision = some current ∧
      current.method ≠ .operationAbandon ∧ targetClaimed db args.target = false ∧
        applied = ⟨claimAll db operation (targetAttempts db args.target), targetResult args.target, true⟩ := by
  simp only [operationAbandon, bind_eq_ok, found_eq_ok, require_eq_ok, bne_iff_ne, not_eq_true',
    pure_eq_ok] at done
  obtain ⟨current, waits, _, other, _, free, rfl⟩ := done
  exact ⟨current, waits, other, free, rfl⟩

end Worktrees
end Cove.Store
