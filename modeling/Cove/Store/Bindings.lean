import Cove.Store.Runs
import Cove.Store.Workspaces

/-!
Conversions of a checkout mount to a managed worktree, and deletions of managed worktrees. Both are accepted before any
work outside the database, and each ends in one transaction with its operation's final receipt.
-/

namespace Cove.Store.Bindings
open Base.Checks Protocol.Identity Protocol.Operations Operations.Receipts
open Store Store.Receipts Store.Worktrees Store.Workspaces Store.Runs

variable (db : Database)

def liveRuns (path : String) (exited : List RunRef) (taskId : Option String) : List RunRef :=
  (((liveRunsUsing db path).filter (fun row => taskId.isNone || row.taskId == taskId)).map RunRow.run).filter
    (fun run => decide (run ∉ exited))

def deletable (mount : MountRow) : Option ManagedRow :=
  (managedAt db mount.path).filter (fun managed => managed.mountId == some mount.mountId && !managed.state.reusable)

def pendingDeletion (mountId : String) : Bool :=
  db.deletions.rows.any (fun row => row.mountId == mountId && row.outcome == .pending)

variable (operation : OperationReceiptKey)

def deletionRow : Option DeletionRow :=
  (db.deletions.find operation).filter (fun row =>
    db.managed.rows.any (fun managed => managed.worktreeId == row.worktreeId))

def checkRevision (workspace : WorkspaceRow) (expected : Option Nat) : Except Halt Unit := do
  require (expected.all (fun revision => revision == workspace.revision)) (refuse .revisionConflict)
  require (workspace.revision != maxSafeInteger) (refuse .counterExhausted)

structure ConvertArgs where
  taskId : String
  mountId : String
  expectedWorkspaceRevision : Option Nat
  path : String
  branch : String
  spec : WorktreeSpec
  commonDir : String
  exited : List RunRef
  attemptId : String

def bindingConvert (args : ConvertArgs) : Except Halt Applied := do
  let (mount, workspace, task) ← found (mountOfTask db args.taskId args.mountId) (missingMount db args.taskId)
  checkRevision workspace args.expectedWorkspaceRevision
  require (!task.archived) (refuse .taskArchived)
  require (mount.source == .checkout && mount.state == .ready) (refuse .invalidArgument)
  require (!attemptOperationOpen db args.mountId) (refuse .operationEffectsActive)
  let repo ← found (db.repos.find mount.repoId) (refuse .repoNotFound)
  require (repo.commonDir == args.commonDir) (refuse .repoNotFound)
  let live := liveRuns db mount.path args.exited (some args.taskId)
  require live.isEmpty (liveRunsRefusal live)
  require (!pathHeld db args.path args.mountId) (refuse .mountNameConflict)
  let planned ← insertAttempt db args.attemptId args.mountId operation 0
    ⟨args.branch, args.spec.baseRef, args.spec.noFetch⟩ (some args.path)
  let conversions ← found (planned.conversions.insert
    ⟨args.attemptId, args.mountId, mount.workspaceId, mount.path, args.spec, .pending⟩) .thrown
  return ⟨{ planned with conversions },
    mountResult args.mountId workspace.revision (some [pendingOutcome args.mountId]), true⟩

structure DeleteArgs where
  taskId : String
  mountId : String
  expectedWorkspaceRevision : Option Nat
  worktreeId : String
  exited : List RunRef

def bindingDelete (args : DeleteArgs) : Except Halt Applied := do
  let (mount, workspace, _) ← found (mountOfTask db args.taskId args.mountId) (missingMount db args.taskId)
  checkRevision workspace args.expectedWorkspaceRevision
  require (mount.source == .worktree) (refuse .invalidArgument)
  require (!(mount.state == .pending || attemptOperationOpen db args.mountId || pendingDeletion db args.mountId))
    (refuse .operationEffectsActive)
  let managed ← found (deletable db mount) (refuse .invalidArgument)
  require (managed.worktreeId == args.worktreeId) (refuse .invalidArgument)
  let live := liveRuns db mount.path args.exited none
  require live.isEmpty (liveRunsRefusal live)
  let pending := db.setMount args.mountId (fun row => { row with state := .pending }) (fun _ => rfl)
  let deletions ← found (pending.deletions.insert
    ⟨operation, managed.worktreeId, args.mountId, mount.workspaceId, mount.state, .pending⟩) .thrown
  let accepted := ({ pending with deletions } : Database).bumpWorkspace mount.workspaceId
  return ⟨accepted, mountResult args.mountId ((accepted.workspaceRevision mount.workspaceId).getD 0) none, true⟩

def boundMount (mountId : String) : Option (MountRow × WorkspaceRow × TaskRow) := do
  let mount ← db.mounts.find mountId
  let workspace ← db.workspaces.find mount.workspaceId
  let task ← db.tasks.find workspace.taskId
  return (mount, workspace, task)

structure SwitchArgs where
  attemptId : String
  actor : OperationReceiptKey
  exited : List RunRef
  responseBytes : Nat

theorem ready_attemptId (row : AttemptRow) : { row with outcome := .ready }.attemptId = row.attemptId := rfl

def switchMount (attempt : AttemptRow) (managed : ManagedRow) (conversion : ConversionRow)
    (mount : MountRow) : Except Halt Database := do
  let bound := (db.bumpWorkspace mount.workspaceId).setMount mount.mountId
    (fun row => { row with
      source := .worktree
      path := attempt.path
      entryPath := some attempt.path
      state := .ready
      branch := some attempt.branch
      baseCommit := some managed.baseCommit
      error := none })
    (fun _ => rfl)
  let preparations ← found (bound.preparations.insert ⟨mount.mountId, conversion.spec, attempt.attemptId⟩) .thrown
  let ready := readyManaged { bound with preparations } managed.worktreeId mount.mountId
  let ended := ready.setAttempt attempt.attemptId (fun row => { row with outcome := .ready }) ready_attemptId
  return { ended with
    conversions := ended.conversions.update attempt.attemptId (fun row => { row with outcome := .switched })
      (fun _ => rfl) }

def switch (limits : ReceiptLimits) (db : Database) (args : SwitchArgs) (at_ : Int) : Except Halt Database := do
  let attempt ← found (actable db args.attemptId args.actor) .declined
  require attempt.abandon.isNone .declined
  let conversion ← found ((db.conversions.find args.attemptId).filter (fun row => row.outcome == .pending)) .declined
  let receipt ← found (runningReceipt db attempt.operation) .declined
  let managed ← found (ownManaged db attempt) .declined
  require (managed.state == .intent) .declined
  let (mount, _, task) ← found (boundMount db conversion.mountId) (refuse .mountNotFound)
  require (!task.archived) (refuse .taskArchived)
  require (mount.source == .checkout && mount.state == .ready && mount.path == conversion.sourcePath)
    (refuse .invalidArgument)
  let live := liveRuns db mount.path args.exited (some task.taskId)
  require live.isEmpty (liveRunsRefusal live)
  let switched ← switchMount db attempt managed conversion mount
  require (readable switched task.taskId args.responseBytes) (refuse .invalidArgument)
  let final ← found (settledRecord receipt (attemptsOf switched attempt.operation)
    (switched.workspaceRevision mount.workspaceId)) .declined
  found (replaceReceipt limits switched attempt.operation receipt final at_) .declined

structure FinishDeleteArgs where
  operation : OperationReceiptKey
  restored : Option DomainError

def endDeletion (deletion : DeletionRow) (restored : Bool) : Database :=
  let changed :=
    if restored then
      db.setMount deletion.mountId (fun row => { row with state := deletion.priorState }) (fun _ => rfl)
    else
      (db.deleteMount deletion.mountId).setManaged deletion.worktreeId
        (fun row => { row with state := .deleted, mountId := none }) (fun _ => rfl)
  ({ changed with
    deletions := changed.deletions.update deletion.operation
      (fun row => { row with outcome := if restored then .restored else .deleted }) (fun _ => rfl) } : Database)
    |>.bumpWorkspace deletion.workspaceId

def deletionRecord (receipt : OperationRecord) (deletion : DeletionRow) (revision : Nat)
    (restored : Option DomainError) : OperationRecord :=
  { receipt with
    revision := receipt.revision + 1
    state := if restored.isSome then .failed else .succeeded
    result := some (mountResult deletion.mountId revision none)
    progress := none
    error := restored }

def finishDelete (limits : ReceiptLimits) (db : Database) (args : FinishDeleteArgs) (at_ : Int) :
    Except Halt Database := do
  let deletion ← found (deletionRow db args.operation) .declined
  let receipt ← found (runningReceipt db args.operation) .declined
  require (deletion.outcome == .pending) .declined
  let ended := endDeletion db deletion args.restored.isSome
  let revision := (ended.workspaceRevision deletion.workspaceId).getD 0
  found (replaceReceipt limits ended args.operation receipt
    (deletionRecord receipt deletion revision args.restored) at_) .declined

end Cove.Store.Bindings
