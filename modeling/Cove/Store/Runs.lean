import Cove.Store.Worktrees

/-!
Run records and tabs. A run records where it was started and what it saw mounted; a worktree being deleted gets no new
run, neither in its directory nor through the mount mapping of a run started elsewhere.
-/

namespace Cove.Store.Runs
open Base.Checks Protocol.Identity Protocol.Operations Operations.Receipts
open Store Store.Receipts Store.Worktrees

variable (db : Database)

def deleting : List ManagedRow :=
  db.managed.rows.filter (fun managed =>
    db.deletions.rows.any (fun row => row.outcome == .pending && row.worktreeId == managed.worktreeId))

/-- One of the paths is the path of a worktree being deleted or lies below it. -/
def deletionPending (paths : List String) : Bool :=
  (deleting db).any (fun managed => paths.any (below managed.path))

def RunRow.paths (row : RunRow) : List String := row.cwd :: row.mounts.map RunMount.path

def liveRunsUsing (path : String) : List RunRow :=
  db.runs.rows.filter (fun row => row.lifecycle.live && (RunRow.paths row).any (below path))

variable (run : RunRef)

def runRecorded : Bool :=
  db.runs.rows.any (fun row => row.run.relayInstanceId == run.relayInstanceId && row.run.runId == run.runId)

def insertRun (row : RunRow) : Except Halt Database := do
  require (!runRecorded db row.run) .thrown
  let runs ← found (db.runs.insert { row with runSeq := db.nextRunSeq }) .thrown
  return { db with runs, nextRunSeq := db.nextRunSeq + 1 }

def started (cwd : String) (operationId : Option String) : Except Halt Database := do
  require (!deletionPending db [cwd]) (refuse .operationEffectsActive)
  insertRun db
    { runSeq := 0, run, tabId := none, taskId := none, workspaceRevision := none, cwd, mounts := [], operationId,
      lifecycle := .starting }

def setLifecycle (wanted : RunRow → Bool) (lifecycle : RunLifecycle) : Database :=
  { db with
    runs := db.runs.map (fun row => if wanted row then { row with lifecycle } else row)
      (fun row => by split <;> rfl) }

def spawned : Database :=
  setLifecycle db (fun row => row.run == run && row.lifecycle == .starting) .running

def exited : Database :=
  setLifecycle db (fun row => row.run == run && row.lifecycle.live) .exited

def stoppedWithServer (relayInstanceId : String) : Database :=
  setLifecycle db (fun row => row.run.relayInstanceId == relayInstanceId && row.lifecycle.live) .stoppedWithServer

def interruptEarlier (currentRelayInstanceId : String) : Database :=
  setLifecycle db (fun row => row.run.relayInstanceId != currentRelayInstanceId && row.lifecycle.live) .interrupted

variable (tabId : String)

def previousRun (runSeq : Nat) : Option Nat :=
  ((db.runs.rows.filter (fun row => row.tabId == some tabId && row.runSeq != runSeq)).map RunRow.runSeq).max?

/-- No process ever existed for the run, so it leaves no history: its tab points at its previous run again. -/
def notStarted : Database :=
  match db.runs.rows.find? (fun row => row.run == run && row.lifecycle == .starting) with
  | none => db
  | some row =>
    { db with
      tabs := db.tabs.map
        (fun tab => if row.tabId = some tab.tabId ∧ tab.latestRunSeq = some row.runSeq then
            { tab with revision := tab.revision + 1, latestRunSeq := previousRun db tab.tabId row.runSeq }
          else tab)
        (fun tab => by split <;> rfl)
      runs := db.runs.delete row.runSeq }

/-! Tabs. -/

def liveRunsOfTab : List RunRef :=
  ((db.runs.rows.filter (fun row => row.tabId == some tabId && row.lifecycle.live)).map RunRow.run).take 128

def liveRunsRefusal (runs : List RunRef) : Halt := .refused ⟨.liveRunsPresent, .notAccepted, runs.take 128⟩

def launchTask (taskId : String) : Option (TaskRow × WorkspaceRow) := do
  let task ← db.tasks.find taskId
  let workspace ← db.workspaceOf taskId
  return (task, workspace)

/-- The directory a run of the tab starts in: the workspace entry, or one of its mounts, which must be ready. -/
def resolveCwd (workspace : WorkspaceRow) (cwd : TabCwd) : Except Halt String :=
  match cwd with
  | .entry => .ok workspace.entryPath
  | .mount mountId => do
    let mount ← found ((db.mounts.find mountId).filter (fun mount => mount.workspaceId == workspace.workspaceId))
      (refuse .mountNotFound)
    require (mount.state == .ready || !deletionPending db [mount.path]) (refuse .operationEffectsActive)
    require (mount.state == .ready) (refuse .invalidArgument)
    return mount.path

/-- Every mount of the workspace, those not ready included. -/
def mountSnapshot (workspaceId : String) : List RunMount :=
  (db.mounts.rows.filter (fun mount => mount.workspaceId == workspaceId)).map
    (fun mount => ⟨mount.name, mount.source, mount.path⟩)

structure NewTab where
  tabId : String
  taskId : String
  name : String
  recipe : String
  cwd : TabCwd
  createdAtMs : Int

def NewTab.row (tab : NewTab) : TabRow :=
  ⟨tab.tabId, tab.taskId, 0, tab.name, tab.recipe, tab.cwd, tab.createdAtMs, none⟩

inductive Launch where
  | create (tab : NewTab)
  | reopen (tabId : String)

def launchTab : Launch → Except Halt (Database × TabRow)
  | .create tab => do
    let _ ← found (launchTask db tab.taskId) (refuse .taskNotFound)
    let tabs ← found (db.tabs.insert tab.row) .thrown
    return ({ db with tabs }, tab.row)
  | .reopen tabId => do
    let tab ← found (db.tabs.find tabId) (refuse .tabNotFound)
    require (liveRunsOfTab db tabId).isEmpty (liveRunsRefusal (liveRunsOfTab db tabId))
    require (tab.revision != maxSafeInteger) (refuse .counterExhausted)
    return (db, tab)

def Launch.revision (launch : Launch) (tab : TabRow) : Nat :=
  match launch with
  | .create _ => 0
  | .reopen _ => tab.revision + 1

abbrev TabReadFits := TabRow → Option RunRow → Bool

def tabFits (fits : TabReadFits) (db : Database) (tabId : String) : Bool :=
  (db.tabs.find tabId).any (fun tab => fits tab (tab.latestRunSeq.bind db.runs.find))

structure LaunchArgs where
  key : OperationReceiptKey
  canonicalIntent : String
  method : WriteMethod
  run : RunRef
  launch : Launch

structure Launched where
  db : Database
  operation : OperationRecord
  accepted : Bool

def launchRecord (args : LaunchArgs) (tab : TabRow) : OperationRecord where
  operationId := args.key.operationId
  method := args.method
  revision := 0
  state := .accepted
  run := some args.run
  result := some { OperationResult.empty with resource := some ⟨.tab, tab.tabId, args.launch.revision tab⟩ }
  progress := none
  error := none

def launchRun (args : LaunchArgs) (tab : TabRow) : Except Halt Database := do
  let (task, workspace) ← found (launchTask db tab.taskId) (refuse .taskNotFound)
  require (!task.archived) (refuse .taskArchived)
  let cwd ← resolveCwd db workspace tab.cwd
  let mounts := mountSnapshot db workspace.workspaceId
  require (!deletionPending db (cwd :: mounts.map RunMount.path)) (refuse .operationEffectsActive)
  let recorded ← insertRun db
    { runSeq := 0, run := args.run, tabId := some tab.tabId, taskId := some task.taskId,
      workspaceRevision := some workspace.revision, cwd, mounts, operationId := some args.key.operationId,
      lifecycle := .starting }
  return { recorded with
    tabs := recorded.tabs.update tab.tabId
      (fun row => { row with revision := args.launch.revision tab, latestRunSeq := some db.nextRunSeq })
      (fun _ => rfl) }

def launch (limits : ReceiptLimits) (fits : TabReadFits) (db : Database) (args : LaunchArgs) (at_ : Int) :
    Except Halt Launched := do
  require (args.key.serverId == limits.serverId && args.run.serverId == limits.serverId) (refuse .invalidArgument)
  match db.receipts.find args.key with
  | some row =>
    require (row.canonicalIntent == args.canonicalIntent) (refuse .operationIdConflict)
    return ⟨db, row.record, false⟩
  | none =>
    let (opened, tab) ← launchTab db args.launch
    let launched ← launchRun opened args tab
    require (tabFits fits launched tab.tabId) (refuse .invalidArgument)
    require (checkedReceiptRecord limits args.key (launchRecord args tab)) (refuse .invalidArgument)
    let inserted ← insert launched ⟨args.key, args.canonicalIntent, launchRecord args tab⟩ at_
    let done ← found inserted (refuse .busy)
    return ⟨done, launchRecord args tab, true⟩

def tabResult (revision : Nat) : OperationResult :=
  { OperationResult.empty with resource := some ⟨.tab, tabId, revision⟩ }

def tabCreate (fits : TabReadFits) (db : Database) (tab : NewTab) : Except Halt Applied := do
  let (task, workspace) ← found (launchTask db tab.taskId) (refuse .taskNotFound)
  require (!task.archived) (refuse .taskArchived)
  let _ ← resolveCwd db workspace tab.cwd
  let tabs ← found (db.tabs.insert tab.row) .thrown
  let created := { db with tabs }
  require (tabFits fits created tab.tabId) (refuse .invalidArgument)
  return ⟨created, tabResult tab.tabId 0, false⟩

def tabClose : Except Halt Applied := do
  let tab ← found (db.tabs.find tabId) (refuse .tabNotFound)
  require (liveRunsOfTab db tabId).isEmpty (liveRunsRefusal (liveRunsOfTab db tabId))
  require (tab.revision != maxSafeInteger) (refuse .counterExhausted)
  let closed : Database := { db with
    tabs := db.tabs.delete tabId
    runs := db.runs.map (fun row => if row.tabId = some tabId then { row with tabId := none } else row)
      (fun row => by split <;> rfl) }
  return ⟨closed, tabResult tabId (tab.revision + 1), false⟩

/-- Closes the tracking of an input whose end is not known; it neither cancels its effects nor removes anything. -/
def tabInputAbandon (limits : ReceiptLimits) (db : Database) (target : OperationReceiptKey) (expectedRevision : Nat)
    (at_ : Int) : Except Halt Applied := do
  let current ← found (receiptOf db target) (refuse .operationNotFound)
  require (current.method == .tabSend && current.state == .requiresAttention &&
    current.revision == expectedRevision) (refuse .operationNotResumable)
  let next := { current with revision := current.revision + 1, state := .cancelled }
  require (checkedReceiptRecord limits target next) (refuse .invalidArgument)
  let closed ← found (replace db target current.revision next at_) (refuse .operationNotResumable)
  return ⟨closed, targetResult target, false⟩

end Cove.Store.Runs
