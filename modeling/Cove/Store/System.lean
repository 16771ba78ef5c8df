import Cove.Base.Run
import Cove.Store.Bindings

/-!
The server over its database. Every store call is one transaction; between calls a caller holds only what it read. An
instance first verifies the receipts an earlier one left unfinished, then serves requests, and a restart forgets what
was held in memory. Calls come in any order and with any arguments their callers may pass.
-/

namespace Cove.Store.System
open Base.Checks Base.Run Protocol.Identity Protocol.Operations Operations.Receipts
open Store Store.Receipts Store.Worktrees Store.Workspaces Store.Runs Store.Bindings

structure Server where
  limits : ReceiptLimits
  intentDigest : String → String
  retentionMs : Int
  tabReadFits : TabReadFits
  repoValid : RepoRow → Bool

def Server.sample : Server where
  limits := ⟨"server", fun _ => true⟩
  intentDigest := id
  retentionMs := 2592000000
  tabReadFits := fun _ _ => true
  repoValid := fun _ => true

/-! Writes applied with their receipt. -/

inductive Write where
  | taskCreate (args : TaskCreateArgs)
  | taskUpdate (taskId : String) (expectedRevision : Option Nat) (title : String)
  | taskArchive (taskId : String) (expectedRevision : Option Nat) (archived : Bool)
  | mountAdd (args : MountAddArgs)
  | mountRemove (args : MountRemoveArgs)
  | mountRetry (args : MountRetryArgs)
  | repoRegister (row : RepoRow)
  | repoUpdate (args : RepoUpdateArgs)
  | repoRemove (repoId : String) (expectedRevision : Option Nat)
  | tabCreate (tab : NewTab)
  | tabClose (tabId : String)
  | bindingConvert (args : ConvertArgs)
  | bindingDelete (args : DeleteArgs)
  | operationContinue (target : StoredReceipt)
  | operationAbandon (target : StoredReceipt)
  | tabInputAbandon (target : StoredReceipt)
  /-- A write of the configuration, of devices and invitations or of entries: none of the tables here changes. -/
  | other (result : OperationResult)

def worktreeMethod : WriteMethod → Bool
  | .taskCreate | .mountAdd | .mountRetry | .bindingConvert => true
  | _ => false

def Write.serves : Write → WriteMethod → Bool
  | .taskCreate _, method => method == .taskCreate
  | .taskUpdate .., method => method == .taskUpdate
  | .taskArchive _ _ archived, method => method == if archived then .taskArchive else .taskUnarchive
  | .mountAdd _, method => method == .mountAdd
  | .mountRemove _, method => method == .mountRemove
  | .mountRetry _, method => method == .mountRetry
  | .repoRegister _, method => method == .repoRegister
  | .repoUpdate _, method => method == .repoUpdate
  | .repoRemove .., method => method == .repoRemove
  | .tabCreate _, method => method == .tabCreate
  | .tabClose _, method => method == .tabClose
  | .bindingConvert _, method => method == .bindingConvert
  | .bindingDelete _, method => method == .bindingDelete
  | .operationContinue _, method => method == .operationContinue
  | .operationAbandon _, method => method == .operationAbandon
  | .tabInputAbandon _, method => method == .operationAbandon
  | .other _, method => match method with
    | .configSet | .authInviteCreate | .authInviteCancel | .authDeviceRename | .authDeviceRevoke | .authDeviceRotate
    | .entrySet => true
    | _ => false

def continuedRecord (record : OperationRecord) : OperationRecord :=
  { record with revision := record.revision + 1, state := .running, progress := none, error := none }

def continueArgs (target : StoredReceipt) : ContinueArgs :=
  ⟨target.key, target.record.revision, continuedRecord target.record⟩

variable (server : Server)

def Write.apply (operation : OperationReceiptKey) (at_ : Int) : Write → Database → Except Halt Applied
  | .taskCreate args, db => Workspaces.taskCreate db operation args
  | .taskUpdate taskId expected title, db => Workspaces.taskUpdate db taskId expected title
  | .taskArchive taskId expected archived, db => Workspaces.taskArchive db taskId expected archived
  | .mountAdd args, db => Workspaces.mountAdd db operation args
  | .mountRemove args, db => Workspaces.mountRemove db args
  | .mountRetry args, db => Worktrees.mountRetry db operation args
  | .repoRegister row, db => Workspaces.repoRegister server.repoValid db row
  | .repoUpdate args, db => Workspaces.repoUpdate db args
  | .repoRemove repoId expected, db => Workspaces.repoRemove db repoId expected
  | .tabCreate tab, db => Runs.tabCreate server.tabReadFits db tab
  | .tabClose tabId, db => Runs.tabClose db tabId
  | .bindingConvert args, db => Bindings.bindingConvert db operation args
  | .bindingDelete args, db => Bindings.bindingDelete db operation args
  | .operationContinue target, db => Worktrees.operationContinue server.limits db (continueArgs target) at_
  | .operationAbandon target, db => Worktrees.operationAbandon db operation ⟨target.key, target.record.revision⟩
  | .tabInputAbandon target, db => Runs.tabInputAbandon server.limits db target.key target.record.revision at_
  | .other result, db => .ok ⟨db, result, false⟩

/-! Receipts that their own operation drives, and startup verification. -/

def plainMethod : WriteMethod → Bool
  | .terminalCreate | .terminalStop | .tabCreate | .tabReopen | .tabStop | .tabSend | .serverTsnetLogin
  | .serverTsnetLogout => true
  | _ => false

variable (limits : ReceiptLimits)

variable (db : Database) (current : StoredReceipt)

/-- A caller's next record, checked against the receipt as it was read and set on that revision. -/
def follow (next : OperationRecord) (at_ : Int) : Option Database :=
  if isSuccessor current.record next && checkedReceiptRecord limits current.key next then
    replace db current.key current.record.revision next at_
  else none

def update (next : OperationRecord) (at_ : Int) : Except Halt Database := do
  require (!terminalState current.record.state) .declined
  found (follow limits db current next at_) .declined

def recover (expectedRevision : Nat) (next : OperationRecord) (at_ : Int) : Except Halt Database := do
  require (current.record.state == .requiresAttention && current.record.revision == expectedRevision &&
    recoveryState next.state) .declined
  found (follow limits db current next at_) .declined

/-- An unfinished receipt of an earlier instance moves to recovering before its method's verifier runs. -/
def recoverStart (key : OperationReceiptKey) (at_ : Int) : Except Halt Database := do
  let row ← found (db.receipts.find key) .declined
  require (row.record.state != .recovering) .declined
  update limits db row.toStoredReceipt
    { row.record with revision := row.record.revision + 1, state := .recovering } at_

variable (db : Database)

variable (key : OperationReceiptKey)

/-- The operation id is being verified under one principal only. -/
def onlyPrincipal : Bool :=
  (db.receipts.rows.filter (fun row => row.key.serverId == key.serverId && row.key.operationId == key.operationId &&
    row.record.state == .recovering)).length == 1

/-- The outcome a verifier proves from the database. The progress is what it reports of the attempts and of recorded
processes. -/
def verified (record : OperationRecord) (progress : Progress) : Option OperationRecord :=
  if !onlyPrincipal db key then none
  else if record.method == .operationAbandon then some (attentionRecord record [] none progress none)
  else if worktreeMethod record.method then
    let attempts := attemptsOf db key
    let revision := recordRevision db attempts
    if attempts.isEmpty then none
    else (settledRecord record attempts revision).orElse
      (fun _ => some (attentionRecord record attempts revision progress none))
  else if record.method == .bindingDelete then
    if (deletionRow db key).any (fun row => row.outcome == .pending) then
      some (attentionRecord record [] none progress none)
    else none
  else none

/-- Without a verifier or a proof the operation requires attention. -/
def unprovenRecord (record : OperationRecord) : OperationRecord :=
  { record with
    revision := record.revision + 1
    state := .requiresAttention
    error := some (domainError .resultUnknown .unknown) }

def recoverEnd (progress : Progress) (at_ : Int) :
    Except Halt Database := do
  let row ← found (db.receipts.find key) .declined
  require (row.record.state == .recovering) .declined
  let proven := (verified db key row.record progress).bind
    (fun record => follow limits db row.toStoredReceipt record at_)
  match proven with
  | some ended => return ended
  | none => update limits db row.toStoredReceipt (unprovenRecord row.record) at_

/-- The target an abandon's record names, under the abandon's own principal. -/
def abandonTarget (abandon : OperationReceiptKey) : Option OperationReceiptKey := do
  let record ← receiptOf db abandon
  let result ← record.result
  let operationId ← result.targetOperationId
  return { abandon with operationId }

/-! Store calls. -/

inductive Call where
  | insert (stored : StoredReceipt) (at_ : Int)
  | update (current : StoredReceipt) (next : OperationRecord) (at_ : Int)
  | recover (current : StoredReceipt) (expectedRevision : Nat) (next : OperationRecord) (at_ : Int)
  | recoverStart (key : OperationReceiptKey) (at_ : Int)
  | recoverEnd (key : OperationReceiptKey) (progress : Progress) (at_ : Int)
  | write (request : WriteRequest) (named : Write) (at_ : Int)
  | launch (args : LaunchArgs) (at_ : Int)
  | advance (args : AdvanceArgs)
  | recordIntent (args : IntentArgs)
  | settle (args : SettleArgs) (at_ : Int)
  | attention (args : AttentionArgs) (at_ : Int)
  | finishAbandon (abandon : OperationReceiptKey) (at_ : Int)
  | switch (args : SwitchArgs) (at_ : Int)
  | finishDelete (args : FinishDeleteArgs) (at_ : Int)
  | started (run : RunRef) (cwd : String) (operationId : Option String)
  | spawned (run : RunRef)
  | notStarted (run : RunRef)
  | exited (run : RunRef)
  | stoppedWithServer (relayInstanceId : String)
  | interruptEarlier (relayInstanceId : String)
  | purge (args : PurgeArgs)
  | recordProcess (processId : String) (operation : OperationReceiptKey)
  | endProcess (processId : String) (at_ : Int)

def insertReceipt (stored : StoredReceipt) (at_ : Int) : Except Halt Database := do
  let inserted ← Receipts.insert db stored at_
  found inserted .declined

def recordProcess (processId : String) (operation : OperationReceiptKey) : Except Halt Database := do
  let _ ← found (db.receipts.find operation) .thrown
  let processes ← found (db.processes.insert ⟨processId, operation, none⟩) .thrown
  return { db with processes }

def endProcess (processId : String) (at_ : Int) : Database :=
  { db with
    processes := db.processes.update processId
      (fun row => { row with endedAtMs := row.endedAtMs.orElse (fun _ => some at_) }) (fun _ => rfl) }

def Call.transact : Call → Except Halt Database
  | .insert stored at_ => insertReceipt db stored at_
  | .update current next at_ => System.update server.limits db current next at_
  | .recover current expected next at_ => System.recover server.limits db current expected next at_
  | .recoverStart key at_ => System.recoverStart server.limits db key at_
  | .recoverEnd key progress at_ => System.recoverEnd server.limits db key progress at_
  | .write request named at_ =>
    (Receipts.write server.limits server.intentDigest db request (named.apply server request.key at_) at_).map
      Written.db
  | .launch args at_ => (Runs.launch server.limits server.tabReadFits db args at_).map Launched.db
  | .advance args => Worktrees.advance db args
  | .recordIntent args => Worktrees.recordIntent db args
  | .settle args at_ => (Worktrees.settle server.limits db args at_).map Settled.db
  | .attention args at_ => Worktrees.attention server.limits db args at_
  | .finishAbandon abandon at_ => do
    let target ← found (abandonTarget db abandon) .declined
    Worktrees.finishAbandon server.limits db ⟨abandon, target⟩ at_
  | .switch args at_ => Bindings.switch server.limits db args at_
  | .finishDelete args at_ => Bindings.finishDelete server.limits db args at_
  | .started run cwd operationId => Runs.started db run cwd operationId
  | .spawned run => .ok (Runs.spawned db run)
  | .notStarted run => .ok (Runs.notStarted db run)
  | .exited run => .ok (Runs.exited db run)
  | .stoppedWithServer relayInstanceId => .ok (Runs.stoppedWithServer db relayInstanceId)
  | .interruptEarlier relayInstanceId => .ok (Runs.interruptEarlier db relayInstanceId)
  | .purge args => Receipts.purge server.intentDigest db args
  | .recordProcess processId operation => System.recordProcess db processId operation
  | .endProcess processId at_ => .ok (System.endProcess db processId at_)

/-! The server's memory. -/

structure State where
  db : Database
  /-- Receipts as callers of this instance read them. -/
  seen : List StoredReceipt
  /-- Startup verification is done. -/
  serving : Bool
  relayInstanceId : String
  runCounter : Nat
  runNumbersSeeded : Bool
  /-- Highest numbers read by launches that have not used them yet. -/
  reads : List Nat
  /-- The run numbers this instance handed out. -/
  handed : List Nat
  /-- The highest number as the retention pass read it. -/
  mark : Option Nat

def State.start (relayInstanceId : String) : State :=
  { db, seen := [], serving := false, relayInstanceId, runCounter := 0, runNumbersSeeded := false, reads := [],
    handed := [], mark := none }

def runId (number : Nat) : String := "run-" ++ toString number

variable (s : State)

def State.handedOut (run : RunRef) : Bool :=
  run.relayInstanceId == s.relayInstanceId && s.handed.any (fun number => run.runId == runId number)

def unusedMount (mountId : String) : Bool :=
  (db.mounts.find mountId).isNone && !db.attempts.rows.any (fun row => row.mountId == mountId) &&
    !db.conversions.rows.any (fun row => row.mountId == mountId) &&
    !db.deletions.rows.any (fun row => row.mountId == mountId) &&
    !db.managed.rows.any (fun row => row.mountId == some mountId)

def unusedWorktree (worktreeId : String) : Bool :=
  !db.managed.rows.any (fun row => row.worktreeId == worktreeId) &&
    !db.attempts.rows.any (fun row => row.worktreeId == some worktreeId) &&
    !db.deletions.rows.any (fun row => row.worktreeId == worktreeId)

def Write.newMounts : Write → List String
  | .taskCreate args => args.mounts.map NewMount.mountId
  | .mountAdd args => [args.mount.mountId]
  | _ => []

/-- The targets a recovery command acts on: those of its own principal, read as requiring attention. -/
def Write.targets (request : WriteRequest) : Write → Bool
  | .operationContinue target =>
    decide (target ∈ s.seen) && target.record.state == .requiresAttention &&
      target.key == { request.key with operationId := target.key.operationId } &&
      (worktreeMethod target.record.method || target.record.method == .operationAbandon ||
        target.record.method == .bindingDelete)
  | .operationAbandon target =>
    decide (target ∈ s.seen) && target.record.state == .requiresAttention &&
      target.key == { request.key with operationId := target.key.operationId } && worktreeMethod target.record.method
  | .tabInputAbandon target =>
    decide (target ∈ s.seen) && target.record.state == .requiresAttention &&
      target.key == { request.key with operationId := target.key.operationId } && target.record.method == .tabSend
  | _ => true

def State.allows : Call → Bool
  | .recoverStart .. | .recoverEnd .. => !s.serving
  | .interruptEarlier relayInstanceId => !s.serving && relayInstanceId == s.relayInstanceId
  | .insert stored _ =>
    s.serving && stored.key.serverId == server.limits.serverId && plainMethod stored.record.method &&
      stored.record.revision == 0 && stored.record.state == .accepted &&
      checkedReceiptRecord server.limits stored.key stored.record && stored.record.run.all s.handedOut
  | .update current .. => s.serving && decide (current ∈ s.seen) && plainMethod current.record.method
  | .recover current .. => s.serving && decide (current ∈ s.seen) && plainMethod current.record.method
  | .write request named _ =>
    s.serving && named.serves request.method && named.newMounts.all (unusedMount s.db) && named.targets s request
  | .launch args _ =>
    s.serving && (args.method == .tabCreate || args.method == .tabReopen) && s.handedOut args.run
  | .recordIntent args => s.serving && unusedWorktree s.db args.worktreeId
  | .finishAbandon abandon _ =>
    s.serving && (receiptOf s.db abandon).any (fun record => record.method == .operationAbandon)
  | .started run .. => s.serving && s.handedOut run
  | .stoppedWithServer relayInstanceId => s.serving && relayInstanceId == s.relayInstanceId
  | .purge args =>
    s.serving && args.retentionMs == server.retentionMs && s.mark == some args.highestRun
  | _ => s.serving

inductive Event where
  | call (call : Call)
  | read (key : OperationReceiptKey)
  | readNumber
  /-- A launch takes the next number, with the number it read or from the seeded counter. -/
  | takeNumber (read : Option Nat)
  | readMark
  | serve
  | restart (relayInstanceId : String)

def State.hand : State :=
  if s.runCounter < maxSafeInteger then
    { s with runCounter := s.runCounter + 1, handed := s.handed ++ [s.runCounter + 1] }
  else s

def State.takeNumber : Option Nat → State
  | none => if s.runNumbersSeeded then s.hand else s
  | some read =>
    if read ∈ s.reads then
      { s with runCounter := max s.runCounter read, runNumbersSeeded := true, reads := s.reads.erase read }.hand
    else s

def step : Event → State
  | .call call => if s.allows server call then { s with db := orElse s.db (call.transact server s.db) } else s
  | .read key =>
    { s with seen := s.seen ++ ((s.db.receipts.find key).map (fun row => row.toStoredReceipt)).toList }
  | .readNumber => if s.runNumbersSeeded then s else { s with reads := highestNumber s.db :: s.reads }
  | .takeNumber read => if s.serving then s.takeNumber read else s
  | .readMark => if s.serving then { s with mark := some (highestNumber s.db) } else s
  | .serve => { s with serving := true }
  | .restart relayInstanceId => State.start s.db relayInstanceId

def State.first (relayInstanceId : String) : State := State.start .empty relayInstanceId

end Cove.Store.System
