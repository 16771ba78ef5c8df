import Cove.Domain.RecordBounds
import Cove.Store.Worktrees

/-!
Tasks, their single workspace, its mounts and the registrations they mount. The writes are applied inside the
transaction that commits their receipt, so every precondition is checked against the current rows.
-/

namespace Cove.Store.Workspaces
open Base.Checks Protocol.Identity Protocol.Operations Protocol.Workspace
open Domain.RecordBounds Store Store.Worktrees

/-! Reads. -/

variable (db : Database)

def sharedWith (taskId path : String) : List String :=
  let mounting := db.mounts.rows.filter (fun mount => mount.source == .checkout && mount.path == path)
  let tasks := mounting.filterMap (fun mount => (db.workspaces.find mount.workspaceId).map WorkspaceRow.taskId)
  (((tasks.filter (fun other => other != taskId)).dedup).insertionSort (fun left right => ¬right < left)).take
    m1Limits.sharedTasks

variable (taskId : String)

def toMount (mount : MountRow) : MountRecord where
  mountId := mount.mountId
  name := mount.name
  source := mount.source
  repoId := mount.repoId
  path := mount.path
  entryPath := mount.entryPath
  state := .recorded mount.state
  branch := mount.branch
  baseCommit := mount.baseCommit
  sharedWithTaskIds := if mount.source = .checkout then sharedWith db taskId mount.path else []
  error := mount.error

variable (workspaceId : String)

def mountsOf : List MountRow :=
  db.mounts.rows.filter (fun mount => mount.workspaceId == workspaceId)

/-- A task as the database records it; its entry state is decided when it is read. -/
def toTask (task : TaskRow) (workspace : WorkspaceRow) : TaskRecord where
  taskId := task.taskId
  revision := task.revision
  title := task.title
  slug := task.slug
  archived := task.archived
  createdAtMs := task.createdAtMs
  workspace :=
    { workspaceId := workspace.workspaceId, revision := workspace.revision, entryPath := workspace.entryPath,
      entryState := .pending, mounts := (mountsOf db workspace.workspaceId).map (toMount db task.taskId) }

def taskRow : Option (TaskRow × WorkspaceRow) := do
  let task ← db.tasks.find taskId
  let workspace ← db.workspaceOf taskId
  return (task, workspace)

/-- The task as the transaction is about to commit it is taken to be readable in one response. -/
def readable (responseBytes : Nat) : Bool :=
  (taskRow db taskId).any (fun (task, workspace) => taskRecordFits (toTask db task workspace) responseBytes)

/-! Mounts. -/

inductive NewSource where
  | checkout
  /-- The branch it will be created on and what was asked for, with the id of its first attempt. -/
  | worktree (branch : String) (spec : WorktreeSpec) (attemptId : String)

structure NewMount where
  mountId : String
  name : String
  repoId : String
  path : String
  commonDir : String
  source : NewSource

variable (mount : NewMount)

def NewMount.isWorktree : Bool :=
  match mount.source with
  | .checkout => false
  | .worktree .. => true

def manifestName : String := "cove-workspace.json"

def mountRow : MountRow :=
  match mount.source with
  | .checkout =>
    { mountId := mount.mountId, workspaceId, name := mount.name, source := .checkout, repoId := mount.repoId,
      path := mount.path, entryPath := none, state := .ready, branch := none, baseCommit := none, error := none }
  | .worktree branch _ _ =>
    { mountId := mount.mountId, workspaceId, name := mount.name, source := .worktree, repoId := mount.repoId,
      path := mount.path, entryPath := some mount.path, state := .pending, branch := some branch, baseCommit := none,
      error := none }

variable (operation : OperationReceiptKey)

def insertMount (position : Nat) : Except Halt Database := do
  let repo ← found (db.repos.find mount.repoId) (refuse .repoNotFound)
  require (mount.commonDir == repo.commonDir) (refuse .repoNotFound)
  require (mount.isWorktree || (managedAt db mount.path).isNone) (refuse .managedWorktreeNotMountable)
  require (!mount.isWorktree || (managedAt db mount.path).all (fun earlier => earlier.state.reusable))
    (refuse .mountNameConflict)
  require (mount.name != manifestName) (refuse .mountNameConflict)
  require (!(mountsOf db workspaceId).any (fun other => other.name == mount.name)) (refuse .mountNameConflict)
  require (decide ((mountsOf db workspaceId).length < m1Limits.mountsPerWorkspace)) (refuse .invalidArgument)
  let mounts ← found (db.mounts.insert (mountRow workspaceId mount)) .thrown
  match mount.source with
  | .checkout => return { db with mounts }
  | .worktree branch spec attemptId =>
    insertPreparation { db with mounts } attemptId mount.mountId branch spec operation position

def outcomeOf : MountOutcome :=
  ⟨mount.mountId, if mount.isWorktree then .pending else .ready, none, none, none⟩

def insertMounts (db : Database) (workspaceId : String) (operation : OperationReceiptKey) :
    List NewMount → Nat → Except Halt Database
  | [], _ => .ok db
  | mount :: rest, position => do
    let inserted ← insertMount db workspaceId mount operation position
    insertMounts inserted workspaceId operation rest (position + 1)

/-! Writes. -/

structure TaskCreateArgs where
  taskId : String
  workspaceId : String
  title : String
  slug : String
  entryPath : String
  mounts : List NewMount
  responseBytes : Nat
  createdAtMs : Nat

def taskCreate (args : TaskCreateArgs) : Except Halt Applied := do
  require (!db.workspaces.rows.any (fun row => row.entryPath == args.entryPath)) (refuse .busy)
  let tasks ← found (db.tasks.insert ⟨args.taskId, 0, args.title, args.slug, false, args.createdAtMs⟩) .thrown
  require (db.workspaceOf args.taskId).isNone .thrown
  let workspaces ← found (db.workspaces.insert ⟨args.workspaceId, args.taskId, 0, args.entryPath⟩) .thrown
  let created ← insertMounts { db with tasks, workspaces } args.workspaceId operation args.mounts 0
  require (readable created args.taskId args.responseBytes) (refuse .invalidArgument)
  return ⟨created,
    { OperationResult.empty with
      resource := some ⟨.task, args.taskId, 0⟩
      workspaceRevision := some 0
      mounts := some (args.mounts.map outcomeOf) },
    args.mounts.any NewMount.isWorktree⟩

variable (expectedRevision : Option Nat)

def currentWorkspace :
    Except Halt (TaskRow × WorkspaceRow) := do
  let (task, workspace) ← found (taskRow db taskId) (refuse .taskNotFound)
  require (expectedRevision.all (fun expected => expected == workspace.revision)) (refuse .revisionConflict)
  require (workspace.revision != maxSafeInteger) (refuse .counterExhausted)
  return (task, workspace)

structure MountAddArgs where
  taskId : String
  expectedWorkspaceRevision : Option Nat
  mount : NewMount
  responseBytes : Nat

def mountAdd (args : MountAddArgs) : Except Halt Applied := do
  let (task, workspace) ← currentWorkspace db args.taskId args.expectedWorkspaceRevision
  require (!task.archived) (refuse .taskArchived)
  let inserted ← insertMount db workspace.workspaceId args.mount operation 0
  let grown := inserted.setWorkspaceRevision workspace.workspaceId (workspace.revision + 1)
  require (readable grown args.taskId args.responseBytes) (refuse .invalidArgument)
  return ⟨grown, mountResult args.mount.mountId (workspace.revision + 1) (some [outcomeOf args.mount]),
    args.mount.isWorktree⟩

structure MountRemoveArgs where
  taskId : String
  mountId : String
  expectedWorkspaceRevision : Option Nat

/-- Removes one mount from the workspace; nothing on disk is touched. A worktree mount whose preparation has not ended
still belongs to its operation; the source asks this of worktree mounts only. -/
def mountRemove (args : MountRemoveArgs) : Except Halt Applied := do
  let (_, workspace) ← currentWorkspace db args.taskId args.expectedWorkspaceRevision
  let mount ← found ((db.mounts.find args.mountId).filter (fun mount => mount.workspaceId == workspace.workspaceId))
    (refuse .mountNotFound)
  require (!(mount.source == .worktree && (mount.state == .pending || attemptOperationOpen db args.mountId)))
    (refuse .operationEffectsActive)
  let removed := (db.deleteMount args.mountId).setWorkspaceRevision workspace.workspaceId (workspace.revision + 1)
  return ⟨removed, mountResult args.mountId (workspace.revision + 1) none, false⟩

def currentTask : Except Halt TaskRow := do
  let (task, _) ← found (taskRow db taskId) (refuse .taskNotFound)
  require (expectedRevision.all (fun expected => expected == task.revision)) (refuse .revisionConflict)
  require (task.revision != maxSafeInteger) (refuse .counterExhausted)
  return task

def taskResult (revision : Nat) : OperationResult :=
  { OperationResult.empty with resource := some ⟨.task, taskId, revision⟩ }

def taskUpdate (title : String) :
    Except Halt Applied := do
  let task ← currentTask db taskId expectedRevision
  return ⟨{ db with
      tasks := db.tasks.update taskId (fun row => { row with revision := task.revision + 1, title }) (fun _ => rfl) },
    taskResult taskId (task.revision + 1), false⟩

def taskArchive (archived : Bool) :
    Except Halt Applied := do
  let task ← currentTask db taskId expectedRevision
  require (task.archived != archived) (refuse (if archived then .taskArchived else .invalidArgument))
  return ⟨{ db with
      tasks := db.tasks.update taskId (fun row => { row with revision := task.revision + 1, archived })
        (fun _ => rfl) },
    taskResult taskId (task.revision + 1), false⟩

/-! Registrations. -/

variable (repoId : String)

def repoResult (revision : Nat) : OperationResult :=
  { OperationResult.empty with resource := some ⟨.repo, repoId, revision⟩ }

def repoRegister (valid : RepoRow → Bool) (db : Database) (row : RepoRow) : Except Halt Applied := do
  require (!db.repos.rows.any (fun other => other.commonDir == row.commonDir || other.path == row.path))
    (refuse .repoAlreadyRegistered)
  require (valid { row with revision := 0, mainBranch := none }) (refuse .invalidArgument)
  let repos ← found (db.repos.insert { row with revision := 0, mainBranch := none }) .thrown
  return ⟨{ db with repos }, repoResult row.repoId 0, false⟩

def currentRepo (expectedRevision : Option Nat) : Except Halt RepoRow := do
  let row ← found (db.repos.find repoId) (refuse .repoNotFound)
  require (expectedRevision.all (fun expected => expected == row.revision)) (refuse .revisionConflict)
  return row

structure RepoUpdateArgs where
  repoId : String
  expectedRevision : Option Nat
  displayName : Option String
  mainBranch : Option (Option String)

def repoUpdate (args : RepoUpdateArgs) : Except Halt Applied := do
  let row ← currentRepo db args.repoId args.expectedRevision
  require (row.revision != maxSafeInteger) (refuse .counterExhausted)
  return ⟨{ db with
      repos := db.repos.update args.repoId
        (fun row => { row with
          revision := row.revision + 1
          displayName := args.displayName.getD row.displayName
          mainBranch := args.mainBranch.getD row.mainBranch })
        (fun _ => rfl) },
    repoResult args.repoId (row.revision + 1), false⟩

def repoRemove (expectedRevision : Option Nat) : Except Halt Applied := do
  let row ← currentRepo db repoId expectedRevision
  require (!db.mounts.rows.any (fun mount => mount.repoId == repoId)) (refuse .repoInUse)
  return ⟨{ db with repos := db.repos.delete repoId }, repoResult repoId row.revision, false⟩

end Cove.Store.Workspaces
