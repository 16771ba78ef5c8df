import Cove.Base.Table
import Cove.Protocol.Operations
import Cove.Store.Ledger

/-!
The tables of the store. A transaction is a function of the whole database that either returns the database it leaves
or halts, and then nothing it wrote is kept; the store runs them one after another. Times other than a receipt's are
left out, and so is the binding history, which only its listing reads.
-/

namespace Cove.Store
open Base Protocol.Identity Protocol.Operations Store.Ledger

structure ReceiptRow extends StoredReceipt where
  updatedAtMs : Int

structure TombstoneRow where
  key : OperationReceiptKey
  method : WriteMethod
  state : OperationState
  intentDigest : String
  endedAtMs : Int
  purgedAtMs : Int

structure ProcessRow where
  processId : String
  operation : OperationReceiptKey
  endedAtMs : Option Int

inductive RunLifecycle where
  | starting
  | running
  | exited
  | stoppedWithServer
  | interrupted
  deriving DecidableEq

def RunLifecycle.live : RunLifecycle → Bool
  | .starting | .running => true
  | _ => false

structure RunMount where
  name : String
  source : MountSource
  path : String
  deriving DecidableEq

structure RunRow where
  runSeq : Nat
  run : RunRef
  tabId : Option String
  taskId : Option String
  workspaceRevision : Option Nat
  cwd : String
  mounts : List RunMount
  operationId : Option String
  lifecycle : RunLifecycle
  deriving DecidableEq

inductive TabCwd where
  | entry
  | mount (mountId : String)

structure TabRow where
  tabId : String
  taskId : String
  revision : Nat
  name : String
  recipe : String
  cwd : TabCwd
  createdAtMs : Int
  latestRunSeq : Option Nat

structure RepoRow where
  repoId : String
  revision : Nat
  displayName : String
  path : String
  commonDir : String
  mainBranch : Option String
  registeredAtMs : Int

structure TaskRow where
  taskId : String
  revision : Nat
  title : String
  slug : String
  archived : Bool
  createdAtMs : Nat

structure WorkspaceRow where
  workspaceId : String
  taskId : String
  revision : Nat
  entryPath : String

structure MountRow where
  mountId : String
  workspaceId : String
  name : String
  source : MountSource
  repoId : String
  path : String
  entryPath : Option String
  state : MountState
  branch : Option String
  baseCommit : Option String
  error : Option DomainError

structure WorktreeSpec where
  branch : Option String
  baseRef : Option String
  noFetch : Bool

/-- The request of a worktree mount and its current attempt. -/
structure PreparationRow where
  mountId : String
  spec : WorktreeSpec
  attemptId : String

inductive AttemptPhase where
  | planned
  | fetched
  | resolved
  | intent
  deriving DecidableEq

def AttemptPhase.index : AttemptPhase → Nat
  | .planned => 0
  | .fetched => 1
  | .resolved => 2
  | .intent => 3

inductive AttemptOutcome where
  | pending
  | ready
  | failed
  deriving DecidableEq

/-- One attempt at preparing a worktree; it is never deleted. -/
structure AttemptRow where
  attemptId : String
  operation : OperationReceiptKey
  position : Nat
  mountId : String
  workspaceId : String
  path : String
  branch : String
  baseRef : Option String
  noFetch : Bool
  phase : AttemptPhase
  entryIdentity : Option String
  baseCommit : Option String
  worktreeId : Option String
  steps : List StepEntry
  outcome : AttemptOutcome
  error : Option DomainError
  /-- The abandon that claimed the attempt. -/
  abandon : Option OperationReceiptKey

inductive ManagedState where
  | intent
  | ready
  | abandoned
  | deleted
  deriving DecidableEq

/-- Nothing of the attempt that recorded the path is there any more. -/
def ManagedState.reusable : ManagedState → Bool
  | .abandoned | .deleted => true
  | _ => false

structure ManagedRow where
  worktreeId : String
  path : String
  repoId : String
  commonDir : String
  branch : String
  baseCommit : String
  taskId : String
  workspaceId : String
  mountId : Option String
  operation : OperationReceiptKey
  state : ManagedState

inductive ConversionOutcome where
  | pending
  | switched
  | failed
  deriving DecidableEq

structure ConversionRow where
  attemptId : String
  mountId : String
  workspaceId : String
  sourcePath : String
  spec : WorktreeSpec
  outcome : ConversionOutcome

inductive DeletionOutcome where
  | pending
  | deleted
  | restored
  deriving DecidableEq

structure DeletionRow where
  operation : OperationReceiptKey
  worktreeId : String
  mountId : String
  workspaceId : String
  priorState : MountState
  outcome : DeletionOutcome

structure Database where
  receipts : Table (fun row : ReceiptRow => row.key)
  tombstones : Table TombstoneRow.key
  processes : Table ProcessRow.processId
  runs : Table RunRow.runSeq
  /-- The number after the last one a run row was given. -/
  nextRunSeq : Nat
  tabs : Table TabRow.tabId
  repos : Table RepoRow.repoId
  tasks : Table TaskRow.taskId
  workspaces : Table WorkspaceRow.workspaceId
  mounts : Table MountRow.mountId
  preparations : Table PreparationRow.mountId
  attempts : Table AttemptRow.attemptId
  managed : Table ManagedRow.path
  conversions : Table ConversionRow.attemptId
  deletions : Table DeletionRow.operation

def Database.empty : Database where
  receipts := .empty _
  tombstones := .empty _
  processes := .empty _
  runs := .empty _
  nextRunSeq := 1
  tabs := .empty _
  repos := .empty _
  tasks := .empty _
  workspaces := .empty _
  mounts := .empty _
  preparations := .empty _
  attempts := .empty _
  managed := .empty _
  conversions := .empty _
  deletions := .empty _

inductive Halt where
  | refused (error : DomainError)
  | declined
  | taken
  | thrown

def refuse (kind : ErrorKind) : Halt := .refused (refusal kind)

/-- What a receipt-checked write did: the database it leaves, the result of its operation, and whether work outside the
database follows before the operation ends. -/
structure Applied where
  db : Database
  result : OperationResult
  running : Bool

def below (path candidate : String) : Bool :=
  let inside := if path.toList.getLast? = some '/' then path.toList else path.toList ++ ['/']
  candidate == path || inside.isPrefixOf candidate.toList

variable (db : Database)

/-- A mount gone takes its preparation with it, and the worktrees bound to it are bound to none. -/
def Database.deleteMount (mountId : String) : Database :=
  { db with
    mounts := db.mounts.delete mountId
    preparations := db.preparations.delete mountId
    managed := db.managed.map (fun row => if row.mountId = some mountId then { row with mountId := none } else row)
      (fun row => by split <;> rfl) }

def Database.setMount (mountId : String) (change : MountRow → MountRow)
    (keeps : ∀ row, (change row).mountId = row.mountId) : Database :=
  { db with mounts := db.mounts.update mountId change keeps }

def Database.setAttempt (attemptId : String) (change : AttemptRow → AttemptRow)
    (keeps : ∀ row, (change row).attemptId = row.attemptId) : Database :=
  { db with attempts := db.attempts.update attemptId change keeps }

def Database.setManaged (worktreeId : String) (change : ManagedRow → ManagedRow)
    (keeps : ∀ row, (change row).path = row.path) : Database :=
  { db with
    managed := db.managed.map (fun row => if row.worktreeId = worktreeId then change row else row)
      (fun row => by split <;> simp [keeps]) }

def Database.workspaceOf (taskId : String) : Option WorkspaceRow :=
  db.workspaces.rows.find? (fun row => row.taskId == taskId)

/-- Every change of a mount's state advances the workspace revision; at the limit it stays. -/
def Database.bumpWorkspace (workspaceId : String) : Database :=
  { db with
    workspaces := db.workspaces.update workspaceId
      (fun row => { row with revision := if row.revision = maxSafeInteger then row.revision else row.revision + 1 })
      (fun _ => rfl) }

def Database.setWorkspaceRevision (workspaceId : String) (revision : Nat) : Database :=
  { db with workspaces := db.workspaces.update workspaceId (fun row => { row with revision }) (fun _ => rfl) }

def Database.workspaceRevision (workspaceId : String) : Option Nat :=
  (db.workspaces.find workspaceId).map WorkspaceRow.revision

end Cove.Store
