import Cove.Store.Receipts

/-!
Managed worktree preparation in the database. An operation prepares its worktrees by attempts, each with a ledger of
what it did; the transaction that settles an operation's last pending attempt also writes the operation's final receipt.
-/

namespace Cove.Store.Worktrees
open Base.Checks Protocol.Operations Operations.Receipts
open Store Store.Ledger Store.Receipts

/-! Attempts as they are read. -/

structure PriorAttempt where
  attemptId : String
  branch : String
  baseCommit : Option String
  steps : List StepEntry
  /-- The operations that may have recorded processes acting on it. -/
  actors : List OperationReceiptKey

structure Attempt extends AttemptRow where
  repo : Option RepoRow
  managed : Option ManagedRow
  conversion : Bool
  prior : Option PriorAttempt

variable (db : Database)

def managedAt (path : String) : Option ManagedRow := db.managed.find path

/-- The failed attempt whose intent holds the path for the mount. -/
def leftoverHolder (managed : Option ManagedRow) (mountId : String) : Option AttemptRow :=
  managed.bind (fun row =>
    if row.state = .intent ∧ row.mountId = some mountId then
      (db.attempts.rows.find? (fun attempt => attempt.worktreeId == some row.worktreeId)).filter
        (fun attempt => attempt.outcome == .failed && attempt.mountId == mountId)
    else none)

def addOnce {α : Type} [DecidableEq α] (known : List α) (item : α) : List α :=
  if item ∈ known then known else known ++ [item]

variable (row : AttemptRow)

def actorsOf : List OperationReceiptKey :=
  (db.attempts.rows.filter (fun other => other.mountId == row.mountId && other.attemptId != row.attemptId)).foldl
    (fun known other => other.abandon.toList.foldl addOnce (addOnce known other.operation)) []

def priorOf : Option PriorAttempt :=
  let managed := managedAt db row.path
  if managed.any (fun found => some found.worktreeId == row.worktreeId) then none
  else (leftoverHolder db managed row.mountId).bind (fun holder =>
    if holder.attemptId = row.attemptId then none
    else some ⟨holder.attemptId, holder.branch, holder.baseCommit, holder.steps, actorsOf db row⟩)

variable (attemptId : String)

def isConversion : Bool := (db.conversions.find attemptId).isSome

def toAttempt : Attempt where
  toAttemptRow := row
  repo := (db.mounts.find row.mountId).bind (fun mount => db.repos.find mount.repoId)
  managed := managedAt db row.path
  conversion := isConversion db row.attemptId
  prior := priorOf db row

def inOrder (left right : AttemptRow) : Bool :=
  decide (left.position < right.position) ||
    left.position == right.position && !decide (right.mountId < left.mountId)

def selected (wanted : AttemptRow → Bool) : List Attempt :=
  ((db.attempts.rows.filter wanted).insertionSort (fun left right => inOrder left right = true)).map (toAttempt db)

variable (operation : OperationReceiptKey)

def attemptsOf : List Attempt :=
  selected db (fun row => row.operation == operation)

variable (abandon : OperationReceiptKey)

def claimedBy : List Attempt :=
  selected db (fun row => row.abandon == some abandon)

/-- The pending attempt when the actor may act on it: its own operation while no abandon claimed it, or that abandon. -/
def actable (actor : OperationReceiptKey) : Option AttemptRow :=
  (db.attempts.find attemptId).filter
    (fun row => row.outcome == .pending && row.abandon.getD row.operation == actor)

def endedReceipt (key : OperationReceiptKey) : Bool :=
  (receiptOf db key).any (fun record => record.state.ended)

variable (mountId : String)

def pendingConversion : Bool :=
  db.conversions.rows.any (fun row => row.mountId == mountId && row.outcome == .pending)

/-- A pending conversion owns the mount, and so does the operation of its current attempt, or the abandon that claimed
it, until it has ended. -/
def attemptOperationOpen : Bool :=
  pendingConversion db mountId ||
    match (db.preparations.find mountId).bind (fun row => db.attempts.find row.attemptId) with
    | none => false
    | some attempt => !endedReceipt db attempt.operation || attempt.abandon.any (fun key => !endedReceipt db key)

/-! New attempts. -/

structure AttemptOptions where
  branch : String
  baseRef : Option String
  noFetch : Bool

/-- The path is the mount's own, except for a conversion's target. -/
def plannedAttempt (mount : MountRow) (attemptId mountId : String) (operation : OperationReceiptKey) (position : Nat)
    (options : AttemptOptions) (path : Option String) : AttemptRow :=
  { attemptId, operation, position, mountId, workspaceId := mount.workspaceId, path := path.getD mount.path,
    branch := options.branch, baseRef := options.baseRef, noFetch := options.noFetch, phase := .planned,
    entryIdentity := none, baseCommit := none, worktreeId := none, steps := [], outcome := .pending, error := none,
    abandon := none }

def insertAttempt (attemptId mountId : String) (operation : OperationReceiptKey) (position : Nat)
    (options : AttemptOptions) (path : Option String) : Except Halt Database := do
  let mount ← found (db.mounts.find mountId) .thrown
  let attempts ← found (db.attempts.insert (plannedAttempt mount attemptId mountId operation position options path))
    .thrown
  return { db with attempts }

def insertPreparation (attemptId mountId branch : String) (spec : WorktreeSpec)
    (operation : OperationReceiptKey) (position : Nat) : Except Halt Database := do
  let db ← insertAttempt db attemptId mountId operation position ⟨branch, spec.baseRef, spec.noFetch⟩ none
  let preparations ← found (db.preparations.insert ⟨mountId, spec, attemptId⟩) .thrown
  return { db with preparations }

/-! Operation records computed from attempts. -/

def leftOf (steps : List StepEntry) (branch : Option String) : Option MountLeftover × Option String :=
  match remainingArtifacts steps with
  | [] => (none, none)
  | [.worktree] => (some .worktree, none)
  | [.branch] => (some .branch, branch)
  | _ => (some .both, branch)

variable (attempts : List Attempt)

def settledOutcome (single : Bool) (outcome : MountOutcome) : MountOutcome :=
  match attempts.reverse.find? (fun attempt => attempt.mountId == outcome.mountId) with
  | none => outcome
  | some attempt =>
    match attempt.outcome with
    | .pending => ⟨outcome.mountId, .pending, none, none, none⟩
    | .ready => ⟨outcome.mountId, .ready, none, none, none⟩
    | .failed =>
      -- What holds the mount's path: the attempt's own leftovers, or an earlier attempt's that it could not remove.
      let steps := (attempt.prior.map PriorAttempt.steps).getD attempt.steps
      let branch := (attempt.prior.map PriorAttempt.branch).getD attempt.branch
      let left := leftOf steps (if single then some branch else none)
      ⟨outcome.mountId, .failed, attempt.error.map DomainError.kind, left.1, left.2⟩

variable (current : OperationRecord)

def resultWith (attempts : List Attempt) (revision : Option Nat) : OperationResult :=
  let result := current.result.getD .empty
  let single := result.mounts.any (fun mounts => mounts.length == 1)
  { result with
    mounts := result.mounts.map (fun mounts => mounts.map (settledOutcome attempts single))
    workspaceRevision := result.workspaceRevision.map (fun recorded => revision.getD recorded) }

def anyPending : Bool := attempts.any (fun attempt => attempt.outcome == .pending)

/-- The outcome of an operation whose attempts all ended: succeeded only when every one was recorded ready. -/
def settledRecord (attempts : List Attempt) (revision : Option Nat) : Option OperationRecord :=
  if attempts.isEmpty || anyPending attempts then none
  else
    let failed := attempts.find? (fun attempt => attempt.outcome == .failed)
    some { current with
      revision := current.revision + 1
      state := if failed.isSome then .failed else .succeeded
      result := some (resultWith current attempts revision)
      progress := none
      error := failed.map (fun attempt => refusal ((attempt.error.map DomainError.kind).getD .resultUnknown)) }

/-- The error names why the operation stopped when that is known. -/
def attentionRecord (attempts : List Attempt) (revision : Option Nat)
    (progress : Progress) (error : Option DomainError) : OperationRecord :=
  { current with
    revision := current.revision + 1
    state := .requiresAttention
    result := if attempts.isEmpty then current.result else some (resultWith current attempts revision)
    progress := some progress
    error := some (error.elim (domainError .resultUnknown .unknown) (fun error => refusal error.kind)) }

/-! What an actor records of its attempt. -/

structure AdvanceArgs where
  attemptId : String
  actor : OperationReceiptKey
  step : Option StepEntry
  phase : Option AttemptPhase
  baseCommit : Option String
  entryIdentity : Option String
  prior : Bool

/-- The ledger of a leftover; once none of its artifacts remain its intent is abandoned, which frees the path. -/
def advancePrior (path : String) (prior : PriorAttempt) (step : StepEntry) : Database :=
  let steps := appendStep prior.steps step
  let recorded := db.setAttempt prior.attemptId (fun row => { row with steps }) (fun _ => rfl)
  if (remainingArtifacts steps).isEmpty then
    { recorded with
      managed := recorded.managed.update path
        (fun row => if row.state = .intent then { row with state := .abandoned } else row)
        (fun row => by split <;> rfl) }
  else recorded

def laterPhase (recorded : AttemptPhase) : Option AttemptPhase → AttemptPhase
  | some phase => if recorded.index < phase.index then phase else recorded
  | none => recorded

variable (args : AdvanceArgs)

def advanced (row : AttemptRow) : AttemptRow :=
  { row with
    steps := args.step.elim row.steps (appendStep row.steps)
    phase := laterPhase row.phase args.phase
    baseCommit := args.baseCommit.orElse (fun _ => row.baseCommit)
    entryIdentity := args.entryIdentity.orElse (fun _ => row.entryIdentity) }

theorem advanced_attemptId (row : AttemptRow) : (advanced args row).attemptId = row.attemptId := rfl

def advance : Except Halt Database := do
  let row ← found (actable db args.attemptId args.actor) .declined
  if args.prior then
    let prior ← found (priorOf db row) .declined
    let step ← found args.step .declined
    require (args.phase.isNone && args.baseCommit.isNone && args.entryIdentity.isNone) .declined
    return advancePrior db row.path prior step
  else return db.setAttempt args.attemptId (advanced args) (advanced_attemptId args)

def conversionPending : Bool :=
  (db.conversions.find attemptId).any (fun row => row.outcome == .pending)

def intentMount : Option MountRow :=
  (db.mounts.find row.mountId).filter (fun _ =>
    (db.preparations.find row.mountId).any (fun prepared => prepared.attemptId == row.attemptId) ||
      conversionPending db row.attemptId)

structure IntentArgs where
  attemptId : String
  actor : OperationReceiptKey
  worktreeId : String

def intentRow (mount : MountRow) (repo : RepoRow) (taskId worktreeId baseCommit : String) : ManagedRow where
  worktreeId := worktreeId
  path := row.path
  repoId := mount.repoId
  commonDir := repo.commonDir
  branch := row.branch
  baseCommit := baseCommit
  taskId := taskId
  workspaceId := row.workspaceId
  mountId := some row.mountId
  operation := row.operation
  state := .intent

variable (worktreeId : String)

def recordedAttempt (row : AttemptRow) : AttemptRow :=
  { row with phase := .intent, worktreeId := some worktreeId }

theorem recordedAttempt_attemptId (row : AttemptRow) :
    (recordedAttempt worktreeId row).attemptId = row.attemptId := rfl

/-- Records the intent of the Git steps before the first one. A path whose worktree is gone is taken over. -/
def recordIntent (args : IntentArgs) : Except Halt Database := do
  let row ← found (actable db args.attemptId args.actor) .declined
  require (row.abandon.isNone && row.phase == .resolved) .declined
  let baseCommit ← found row.baseCommit .declined
  let mount ← found (intentMount db row) .declined
  let workspace ← found (db.workspaces.find mount.workspaceId) .declined
  let repo ← found (db.repos.find mount.repoId) .declined
  require ((managedAt db row.path).all (fun existing => existing.state.reusable)) .taken
  let managed ← found ((db.managed.delete row.path).insert
    (intentRow row mount repo workspace.taskId args.worktreeId baseCommit)) .thrown
  let recorded := ({ db with managed } : Database).setAttempt args.attemptId (recordedAttempt args.worktreeId)
    (recordedAttempt_attemptId args.worktreeId)
  -- A conversion's mount is still the checkout; its base commit is set when it switches.
  if conversionPending db row.attemptId then return recorded
  else return recorded.setMount row.mountId (fun mount => { mount with baseCommit := some baseCommit }) (fun _ => rfl)

/-! How attempts and their operations end. -/

def failConversion : Database :=
  { db with
    conversions := db.conversions.update attemptId
      (fun row => if row.outcome = .pending then { row with outcome := .failed } else row)
      (fun row => by split <;> rfl) }

def failMount (error : DomainError) : Database :=
  db.setMount mountId (fun row => { row with state := .failed, error := some error }) (fun _ => rfl)

def failAttempt (error : DomainError) : Database :=
  db.setAttempt attemptId (fun row => { row with outcome := .failed, error := some error }) (fun _ => rfl)

def abandonManaged : Database :=
  db.setManaged worktreeId (fun row => { row with state := .abandoned }) (fun _ => rfl)

def readyManaged (worktreeId mountId : String) : Database :=
  db.setManaged worktreeId (fun row => { row with state := .ready, mountId := some mountId }) (fun _ => rfl)

def ownManaged : Option ManagedRow :=
  (managedAt db row.path).filter (fun managed => some managed.worktreeId == row.worktreeId)

def settleReady (own : ManagedRow) : Database :=
  ((readyManaged db own.worktreeId row.mountId).setMount row.mountId
      (fun mount => { mount with state := .ready, error := none, baseCommit := some own.baseCommit })
      (fun _ => rfl)).setAttempt row.attemptId (fun row => { row with outcome := .ready }) (fun _ => rfl)

/-- An intent none of whose artifacts are left becomes abandoned; one with artifacts left keeps holding its path. -/
def releaseIntent (own : Option ManagedRow) : Database :=
  match own with
  | some managed =>
    if managed.state = .intent ∧ remainingArtifacts row.steps = [] then abandonManaged db managed.worktreeId else db
  | none => db

def settleFailed (own : Option ManagedRow) (current : Bool) (error : DomainError) : Database :=
  let released := failAttempt (releaseIntent db row own) row.attemptId error
  failConversion (if current then failMount released row.mountId error else released) row.attemptId

structure SettleArgs where
  attemptId : String
  actor : OperationReceiptKey
  outcome : Option DomainError

structure Settled where
  db : Database
  revision : Option Nat
  settled : Bool

def settleAttempt (outcome : Option DomainError) : Except Halt Database :=
  let own := ownManaged db row
  let current := currentAttempt db row.attemptId
  match outcome with
  | none => do
    let managed ← found own .declined
    require (managed.state == .intent && current) .declined
    return settleReady db row managed
  | some error => return settleFailed db row own current error

variable (limits : ReceiptLimits)

def settleReceipt (db : Database) (owner : OperationReceiptKey) (receipt : OperationRecord)
    (revision : Option Nat) (at_ : Int) : Except Halt (Database × Bool) :=
  match settledRecord receipt (attemptsOf db owner) revision with
  | none => return (db, false)
  | some final => do
    let ended ← found (replaceReceipt limits db owner receipt final at_) .declined
    return (ended, true)

def settledAttempt (ended : Database) (current : Bool) (row : AttemptRow) : Database :=
  if current then ended.bumpWorkspace row.workspaceId else ended

def settle (db : Database) (args : SettleArgs) (at_ : Int) : Except Halt Settled := do
  let row ← found (actable db args.attemptId args.actor) .declined
  require row.abandon.isNone .declined
  let receipt ← found (runningReceipt db row.operation) .declined
  let current := currentAttempt db row.attemptId
  let ended ← settleAttempt db row args.outcome
  let bumped := settledAttempt ended current row
  let revision := bumped.workspaceRevision row.workspaceId
  let (done, settled) ← settleReceipt limits bumped row.operation receipt revision at_
  return ⟨done, if current then revision else none, settled⟩

def recordRevision : Option Nat :=
  attempts.head?.bind (fun attempt => db.workspaceRevision attempt.workspaceId)

structure AttentionArgs where
  operation : OperationReceiptKey
  progress : Progress
  error : Option DomainError

def attention (db : Database) (args : AttentionArgs) (at_ : Int) : Except Halt Database := do
  let receipt ← found (runningReceipt db args.operation) .declined
  let attempts := attemptsOf db args.operation
  let record := attentionRecord receipt attempts (recordRevision db attempts) args.progress args.error
  found (replaceReceipt limits db args.operation receipt record at_) .declined

def notResumable : DomainError := refusal .operationNotResumable

def abandonAttempt (attempt : Attempt) : Database :=
  if attempt.outcome = .pending then
    let own := attempt.managed.filter (fun managed => some managed.worktreeId == attempt.worktreeId)
    let released := releaseIntent db attempt.toAttemptRow own
    let failed := failConversion (failAttempt released attempt.attemptId notResumable) attempt.attemptId
    if currentAttempt db attempt.attemptId then failMount failed attempt.mountId notResumable else failed
  else db

def stepText : StepName → String
  | .fetch => "fetch"
  | .branch => "branch"
  | .worktree => "worktree"
  | .checkout => "checkout"
  | .removeWorktree => "remove-worktree"
  | .deleteBranch => "delete-branch"

def artifactText : Artifact → String
  | .worktree => "worktree"
  | .branch => "branch"

/-- What the pending attempts of an abandon did and what of it stays. -/
def abandonedProgress : Progress :=
  let pending := attempts.filter (fun attempt => attempt.outcome == .pending)
  let done := pending.flatMap (fun attempt =>
    ([.branch, .worktree, .checkout].filter (credited attempt.steps)).map stepText)
  let left := pending.flatMap (fun attempt =>
    (remainingArtifacts attempt.steps ++ (attempt.prior.map (fun prior => remainingArtifacts prior.steps)).getD []).map
      artifactText)
  ⟨(done.foldl addOnce []).take 8, (left.foldl addOnce []).take 8, []⟩

def cancelledRecord (target : OperationRecord) (attempts : List Attempt) (revision : Option Nat)
    (progress : Progress) : OperationRecord :=
  { target with
    revision := target.revision + 1
    state := .cancelled
    result := some (resultWith target attempts revision)
    progress := some progress
    error := none }

def finishedRecord (abandon : OperationRecord) : OperationRecord :=
  { abandon with revision := abandon.revision + 1, state := .succeeded, progress := none, error := none }

def abandonedWorkspaces : List String :=
  ((attempts.filter (fun attempt => attempt.outcome == .pending && currentAttempt db attempt.attemptId)).map
    (fun attempt => attempt.workspaceId)).foldl addOnce []

def abandonAttempts : Database :=
  (abandonedWorkspaces db attempts).foldl Database.bumpWorkspace (attempts.foldl abandonAttempt db)

structure FinishAbandonArgs where
  abandon : OperationReceiptKey
  target : OperationReceiptKey

def cancelledTarget (args : FinishAbandonArgs) (target : OperationRecord) : OperationRecord :=
  let ended := abandonAttempts db (claimedBy db args.abandon)
  let attempts := attemptsOf ended args.target
  cancelledRecord target attempts (recordRevision ended attempts) (abandonedProgress (claimedBy db args.abandon))

def finishAbandon (db : Database) (args : FinishAbandonArgs) (at_ : Int) : Except Halt Database := do
  let abandon ← found (runningReceipt db args.abandon) .declined
  let target ← found (receiptOf db args.target) .declined
  require (target.state == .requiresAttention) .declined
  let ended := abandonAttempts db (claimedBy db args.abandon)
  let half ← found (replaceReceipt limits ended args.target target (cancelledTarget db args target) at_) .declined
  found (replaceReceipt limits half args.abandon abandon (finishedRecord abandon) at_) .declined

/-! Receipt-checked writes. -/

structure MountRetryArgs where
  taskId : String
  mountId : String
  options : AttemptOptions
  attemptId : String

def mountOfTask (taskId mountId : String) : Option (MountRow × WorkspaceRow × TaskRow) := do
  let mount ← db.mounts.find mountId
  let workspace ← db.workspaces.find mount.workspaceId
  let task ← db.tasks.find workspace.taskId
  guard (task.taskId = taskId)
  return (mount, workspace, task)

def missingMount (taskId : String) : Halt :=
  refuse (if (db.tasks.find taskId).isSome then .mountNotFound else .taskNotFound)

/-- A recorded worktree that still holds the path for someone else than a failed attempt of the mount. -/
def pathHeld (path mountId : String) : Bool :=
  (managedAt db path).any (fun managed =>
    !managed.state.reusable && (leftoverHolder db (some managed) mountId).isNone)

def mountResult (revision : Nat) (mounts : Option (List MountOutcome)) : OperationResult :=
  { OperationResult.empty with
    resource := some ⟨.mount, mountId, revision⟩
    workspaceRevision := some revision
    mounts }

def pendingOutcome : MountOutcome := ⟨mountId, .pending, none, none, none⟩

def retriedMount (branch : String) (row : MountRow) : MountRow :=
  { row with state := .pending, branch := some branch, baseCommit := none, error := none }

theorem retriedMount_mountId (branch : String) (row : MountRow) : (retriedMount branch row).mountId = row.mountId := rfl

def mountRetry (args : MountRetryArgs) : Except Halt Applied := do
  let (mount, _, task) ← found (mountOfTask db args.taskId args.mountId) (missingMount db args.taskId)
  require (!task.archived) (refuse .taskArchived)
  require (mount.source == .worktree && mount.state == .failed) (refuse .invalidArgument)
  require (db.preparations.find args.mountId).isSome (refuse .invalidArgument)
  require (!attemptOperationOpen db args.mountId) (refuse .operationEffectsActive)
  require (!pathHeld db mount.path args.mountId) (refuse .mountNameConflict)
  let pending := db.setMount args.mountId (retriedMount args.options.branch)
    (retriedMount_mountId args.options.branch)
  let planned ← insertAttempt pending args.attemptId args.mountId operation 0 args.options none
  let current : Database := { planned with
    preparations := planned.preparations.update args.mountId (fun row => { row with attemptId := args.attemptId })
      (fun _ => rfl) }
  let bumped := current.bumpWorkspace mount.workspaceId
  let revision := (bumped.workspaceRevision mount.workspaceId).getD 0
  return ⟨bumped, mountResult args.mountId revision (some [pendingOutcome args.mountId]), true⟩

variable (target : OperationReceiptKey)

def targetAttempts : List Attempt :=
  (attemptsOf db target).filter (fun attempt => attempt.outcome == .pending)

/-- An abandon claimed one of them; then only that abandon acts on them. -/
def targetClaimed : Bool :=
  (targetAttempts db target).any (fun attempt => attempt.abandon.isSome)

def targetResult : OperationResult :=
  { OperationResult.empty with targetOperationId := some target.operationId }

structure ContinueArgs where
  target : OperationReceiptKey
  expectedRevision : Nat
  next : OperationRecord

def operationContinue (db : Database) (args : ContinueArgs) (at_ : Int) : Except Halt Applied := do
  let current ← found (attentionReceipt db args.target args.expectedRevision) (refuse .operationNotResumable)
  require (args.next.state == .running) (refuse .invalidArgument)
  require (current.method == .operationAbandon || !targetClaimed db args.target) (refuse .operationEffectsActive)
  let continued ← found (replaceReceipt limits db args.target current args.next at_) (refuse .operationNotResumable)
  return ⟨continued, targetResult args.target, false⟩

def claim (row : AttemptRow) : AttemptRow :=
  if row.outcome = .pending ∧ row.abandon = none then { row with abandon := some abandon } else row

theorem claim_attemptId (row : AttemptRow) : (claim abandon row).attemptId = row.attemptId := by
  unfold claim
  split <;> rfl

def claimAll : Database :=
  attempts.foldl (fun db attempt => db.setAttempt attempt.attemptId (claim abandon) (claim_attemptId abandon)) db

structure AbandonArgs where
  target : OperationReceiptKey
  expectedRevision : Nat

/-- Accepts an abandon before anything is removed: it claims every pending attempt of the target, which stays as it is. -/
def operationAbandon (args : AbandonArgs) : Except Halt Applied := do
  let current ← found (attentionReceipt db args.target args.expectedRevision) (refuse .operationNotResumable)
  require (current.method != .operationAbandon) (refuse .operationNotResumable)
  require (!targetClaimed db args.target) (refuse .operationEffectsActive)
  return ⟨claimAll db operation (targetAttempts db args.target), targetResult args.target, true⟩

end Cove.Store.Worktrees
