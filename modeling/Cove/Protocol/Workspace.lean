import Cove.Protocol.Errors

/-!
Task records as a read returns them.
-/

namespace Cove.Protocol.Workspace
open Base.Json Protocol.Operations

structure Limits where
  mountsPerWorkspace : Nat
  sharedTasks : Nat
  titleChars : Nat
  refChars : Nat

def m1Limits : Limits where
  mountsPerWorkspace := 16
  sharedTasks := 128
  titleChars := 256
  refChars := 255

/-- A mount as a read reports it: the recorded state, with a ready binding verified when it is read. -/
inductive MountRecordState where
  | recorded (state : MountState)
  | unavailable

def mountStateName : MountState → String
  | .pending => "pending"
  | .ready => "ready"
  | .failed => "failed"
  | .missing => "missing"

def MountRecordState.name : MountRecordState → String
  | .recorded state => mountStateName state
  | .unavailable => "unavailable"

structure MountRecord where
  mountId : String
  name : String
  source : MountSource
  repoId : String
  path : String
  entryPath : Option String
  state : MountRecordState
  branch : Option String
  baseCommit : Option String
  sharedWithTaskIds : List String
  error : Option DomainError

inductive EntryState where
  | ready
  | pending
  | missing
  | unavailable

def EntryState.name : EntryState → String
  | .ready => "ready"
  | .pending => "pending"
  | .missing => "missing"
  | .unavailable => "unavailable"

structure WorkspaceRecord where
  workspaceId : String
  revision : Nat
  entryPath : String
  entryState : EntryState
  mounts : List MountRecord

structure TaskRecord where
  taskId : String
  revision : Nat
  title : String
  slug : String
  archived : Bool
  createdAtMs : Nat
  workspace : WorkspaceRecord

def nullable : Option String → Value
  | some text => .str text
  | none => .null

def sourceName : MountSource → String
  | .checkout => "checkout"
  | .worktree => "worktree"

def MountRecord.json (mount : MountRecord) : Value :=
  .obj ([("mountId", .str mount.mountId), ("name", .str mount.name), ("source", .str (sourceName mount.source)),
    ("repoId", .str mount.repoId), ("path", .str mount.path), ("entryPath", nullable mount.entryPath),
    ("state", .str mount.state.name), ("branch", nullable mount.branch), ("baseCommit", nullable mount.baseCommit),
    ("sharedWithTaskIds", .arr (mount.sharedWithTaskIds.map .str))] ++
      (mount.error.map (fun error => ("error", error.json))).toList)

def WorkspaceRecord.json (workspace : WorkspaceRecord) : Value :=
  .obj [("workspaceId", .str workspace.workspaceId), ("revision", .num workspace.revision),
    ("entryPath", .str workspace.entryPath), ("entryState", .str workspace.entryState.name),
    ("mounts", .arr (workspace.mounts.map MountRecord.json))]

def TaskRecord.json (task : TaskRecord) : Value :=
  .obj [("taskId", .str task.taskId), ("revision", .num task.revision), ("title", .str task.title),
    ("slug", .str task.slug), ("archived", .bool task.archived), ("createdAtMs", .num task.createdAtMs),
    ("workspace", task.workspace.json)]

end Cove.Protocol.Workspace
