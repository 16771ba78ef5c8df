import Cove.Operations.Receipts
import Cove.Protocol.Pipe

/-!
Terminal runs as operations. A launch reserves a run, makes its record and the accepted receipt durable, moves the
receipt to `running` and hands the spawn to the runtime; a stop takes the same steps without a run of its own. Between
any two of these steps a store call may fail and the server may be disposed, so both are functions of a script: what
each store call answers, and when the server is disposed. Each returns the journal of what it did, its answer last.
-/

namespace Cove.Operations.TerminalOperations
open Operations.Receipts Protocol Protocol.Budgets Protocol.Identity Protocol.Operations

structure Composition where
  serverId : String
  relayInstanceId : String
  budgets : EffectiveBudgets
  fits : OperationRecord → Bool
  intentDigest : String → String

variable (c : Composition)

def Composition.limits : ReceiptLimits := ⟨c.serverId, c.fits⟩

/-- The places between the awaits of a launch or a stop, in order. -/
inductive Moment where
  | called
  | lookedUp
  | lookedUpAgain
  | prepared
  | numbered
  | cwdResolved
  | runRecorded
  | accepted
  | progressRead
  | progressWritten
  | answered
  | runNoted
  | outcomeRead
  | outcomeReadAgain
  | outcomeWritten
  | returned

inductive Pending where
  | busy
  | conflict

/-- What one lookup of a receipt meets: a reservation before and after its read, the read, and the number of
reservations. -/
structure LookupView where
  pending : Option Pending
  committed : Except StoreError (Option Found)
  reserved : Option Pending
  receiptCount : Nat

inductive CwdError where
  | invalidArgument
  | busy

inductive Started where
  | recorded
  | refused

/-- The answer of the transaction that accepts a tab's launch: its run and its receipt are recorded, an identical
request came first, or nothing was recorded. -/
inductive TabLaunchResult where
  | accepted (operation : OperationRecord)
  | existing (operation : OperationRecord)
  | refused (error : DomainError)

structure ObservedRun where
  exited : Bool
  exit : RunExit

inductive RuntimeResult where
  | error (error : DomainError)
  | result (outcome : Pipe.Outcome) (runStatus : Option ObservedRun)

structure Script where
  /-- The server is disposed from here on; with `returned`, after the answer. -/
  disposal : Moment
  lookup : LookupView
  precondition : Option DomainError
  requestCounter : Nat
  registered : Bool
  lookupAgain : LookupView
  reservable : Bool
  runCounter : Nat
  runNumbersSeeded : Bool
  highestNumber : Except StoreError Nat
  reserveRun : Bool
  recordedCwd : Except CwdError Unit
  started : Except StoreError Started
  entryKept : Bool
  insert : Except StoreError Bool
  entryKeptAfter : Bool
  tabsLaunch : Except StoreError TabLaunchResult
  progressRead : Except StoreError (Option Found)
  progressReplace : Except StoreError Bool
  runtime : Option RuntimeResult
  outcomeRead : Except StoreError (Option Found)
  outcomeReadAgain : Except StoreError (Option Found)
  outcomeReplace : Except StoreError Bool
  finalRead : Except StoreError (Option Found)

variable (s : Script)

def Script.disposed (now : Moment) : Bool := s.disposal.ctorIdx ≤ now.ctorIdx

inductive OperationOutcome where
  | operation (record : OperationRecord)
  | error (error : DomainError)
  deriving DecidableEq

inductive Command where
  | spawn (run : RunRef) (requestId operationId : String)
  | stop (run : RunRef) (requestId operationId : String)
  deriving DecidableEq

inductive Act where
  | runConfirmed (run : RunRef)
  | receiptConfirmed (key : OperationReceiptKey) (state : OperationState)
  | handed (command : Command)
  | reservationCancelled (run : RunRef)
  | notStarted (run : RunRef)
  | spawned (run : RunRef)
  | answered (outcome : OperationOutcome)
  deriving DecidableEq

def failure (kind : ErrorKind) : OperationOutcome := .error (refusal kind)
def resultUnknown : OperationOutcome := .error (domainError .resultUnknown .unknown)

/-! ## Receipts -/

variable (disposed : Bool)

def validKey (key : OperationReceiptKey) : Bool :=
  !disposed && key.valid && key.serverId == c.serverId

def Pending.lookup : Pending → ReceiptLookup
  | .busy => .busy
  | .conflict => .conflict

def lookup (key : OperationReceiptKey) (canonicalIntent : String) (seen : LookupView) : ReceiptLookup :=
  if !validKey c disposed key || c.budgets.canonicalIntentBytes < canonicalIntent.utf8ByteSize then .invalid
  else match seen.pending with
    | some pending => pending.lookup
    | none =>
      match seen.committed with
      | .error _ => .invalid
      | .ok (some (.tombstone digest)) => if digest == c.intentDigest canonicalIntent then .expired else .conflict
      | .ok (some (.receipt stored)) =>
        classifyReceiptAdmission key canonicalIntent (some stored) seen.receiptCount c.budgets.operationReceipts
      | .ok none =>
        match seen.reserved with
        | some reserved => reserved.lookup
        | none => classifyReceiptAdmission key canonicalIntent none seen.receiptCount c.budgets.operationReceipts

def prepare (key : OperationReceiptKey) (canonicalIntent : String) : Bool :=
  lookup c (s.disposed .lookedUp) key canonicalIntent s.lookupAgain == .reserve && !s.disposed .lookedUpAgain &&
    s.reservable

def commit (key : OperationReceiptKey) (record : OperationRecord) : Except StoreError Bool :=
  if disposed || !s.entryKept then .ok false
  else if !checkedReceiptRecord c.limits key record || record.revision != 0 || record.state != .accepted then .ok false
  else match s.insert with
    | .error error => .error error
    | .ok inserted => .ok (inserted && s.entryKeptAfter)

/-- The committed receipt that `next` follows. -/
def successor (key : OperationReceiptKey) (next : OperationRecord)
    (committed : Except StoreError (Option Found)) : Except StoreError (Option StoredReceipt) :=
  if !validKey c disposed key then .ok none
  else match committed with
    | .error error => .error error
    | .ok (some (.receipt stored)) => if isSuccessor stored.record next then .ok (some stored) else .ok none
    | .ok _ => .ok none

def replace (current : StoredReceipt) (next : OperationRecord)
    (swapped : Except StoreError Bool) : Except StoreError Bool :=
  if !checkedReceiptRecord c.limits current.key next || disposed then .ok false else swapped

def update (disposedBefore disposedBetween : Bool) (key : OperationReceiptKey) (next : OperationRecord)
    (committed : Except StoreError (Option Found)) (swapped : Except StoreError Bool) : Except StoreError Bool :=
  match successor c disposedBefore key next committed with
  | .error error => .error error
  | .ok none => .ok false
  | .ok (some current) =>
    if terminalState current.record.state then .ok false else replace c disposedBetween current next swapped

/-- The record of a key; nothing for a tombstone, as for a key never used. -/
def get (key : OperationReceiptKey) (committed : Except StoreError (Option Found)) :
    Except StoreError (Option OperationRecord) :=
  if !validKey c disposed key then .ok none
  else match committed with
    | .error error => .error error
    | .ok (some (.receipt stored)) => .ok (some stored.record)
    | .ok _ => .ok none

/-! ## The runtime's answer -/

def launchMethod : WriteMethod → Bool
  | .terminalCreate | .tabCreate | .tabReopen => true
  | _ => false

def terminalMethod : WriteMethod → Bool
  | .terminalCreate | .terminalStop => true
  | _ => false

def RuntimeResult.uncertain : RuntimeResult → Bool
  | .error reason => reason.acceptance == .unknown
  | .result outcome _ => outcome == .unknown

def RuntimeResult.rejected : RuntimeResult → Bool
  | .error _ => true
  | .result outcome _ => outcome == .rejected

def RuntimeResult.exit : RuntimeResult → Option RunExit
  | .result _ (some status) => if status.exited then some status.exit else none
  | _ => none

/-- The state an answer moves its operation to: a launch succeeds once spawned, a stop once the exit is seen. -/
def outcomeState (method : WriteMethod) (result : RuntimeResult) : OperationState :=
  if result.uncertain then .requiresAttention
  else if result.rejected then .failed
  else if launchMethod method || result.exit.isSome then .succeeded
  else .running

def outcomeRecord (record : OperationRecord) (result : RuntimeResult) : OperationRecord :=
  let state := outcomeState record.method result
  { record with
    revision := record.revision + 1
    state
    error :=
      if result.uncertain then some (domainError .resultUnknown .unknown)
      else match result with
        | .error error => some error
        | .result .. => record.error
    result :=
      if state == .succeeded && terminalMethod record.method then some { OperationResult.empty with run := record.run, exit := result.exit }
      else record.result }

def readBack (key : OperationReceiptKey)
    (committed : Except StoreError (Option Found)) : Except StoreError OperationOutcome :=
  match get c disposed key committed with
  | .error error => .error error
  | .ok none => .ok (failure .operationNotFound)
  | .ok (some stored) => .ok (.operation stored)

/-- Records the answer and reads the record back. The update's own answer is not looked at. -/
def recordOutcome (key : OperationReceiptKey) (result : RuntimeResult) : Except StoreError OperationOutcome :=
  match get c (s.disposed .runNoted) key s.outcomeRead with
  | .error error => .error error
  | .ok none => .ok (failure .operationNotFound)
  | .ok (some record) =>
    match update c (s.disposed .outcomeRead) (s.disposed .outcomeReadAgain) key (outcomeRecord record result)
        s.outcomeReadAgain s.outcomeReplace with
    | .error error => .error error
    | .ok _ => readBack c (s.disposed .outcomeWritten) key s.finalRead

def orUnknown : Except StoreError OperationOutcome → OperationOutcome
  | .error _ => resultUnknown
  | .ok outcome => outcome

def complete (key : OperationReceiptKey) (result : RuntimeResult) : OperationOutcome :=
  orUnknown (recordOutcome c s key result)

def Script.result : RuntimeResult :=
  s.runtime.getD (.error (domainError .resultUnknown .unknown))

/-- The step of an accepted receipt to `running` and what follows: nothing is sent when the store failed, otherwise the
command goes to the runtime, whatever the step answered, and its result is recorded. -/
def handover (key : OperationReceiptKey) (record : OperationRecord) (command : Command)
    (unsent notes : List Act) : List Act :=
  match update c (s.disposed .accepted) (s.disposed .progressRead) key { record with revision := 1, state := .running }
      s.progressRead s.progressReplace with
  | .error _ => unsent ++ [.answered resultUnknown]
  | .ok confirmed =>
    (if confirmed then [.receiptConfirmed key .running] else []) ++
      .handed command :: (notes ++ [.answered (complete c s key s.result)])

/-! ## Launching -/

inductive LaunchMethod where
  | terminalCreate
  | tabCreate
  | tabReopen
  deriving DecidableEq

structure LaunchRequest where
  principalId : String
  operationId : String
  method : LaunchMethod
  intent : String

inductive LaunchAcceptance where
  | accepted (record : OperationRecord)
  | notAccepted (outcome : OperationOutcome) (runRecorded : Bool)

def Composition.key (principalId operationId : String) : OperationReceiptKey :=
  ⟨c.serverId, principalId, operationId⟩

def nextRequest : Option String :=
  if s.requestCounter = maxSafeInteger then none else some ("runtime-" ++ toString (s.requestCounter + 1))

def seededCounter : Option Nat :=
  if s.runNumbersSeeded then some s.runCounter
  else match s.highestNumber with
    | .error _ => none
    | .ok recorded => some (max s.runCounter recorded)

def nextRun : Option RunRef :=
  match seededCounter s with
  | none => none
  | some counter =>
    if maxSafeInteger ≤ counter then none
    else some ⟨c.serverId, c.relayInstanceId, "run-" ++ toString (counter + 1)⟩

def nextRunRefusal : ErrorKind :=
  if maxSafeInteger ≤ (seededCounter s).getD s.runCounter then .counterExhausted else .busy

def acceptedRecord (operationId : String) (method : WriteMethod) (run : RunRef) (result : Option OperationResult) :
    OperationRecord :=
  { operationId, method, revision := 0, state := .accepted, run := some run, result, progress := none, error := none }

variable (request : LaunchRequest)

variable (run : RunRef)

def acceptTerminal : List Act × LaunchAcceptance :=
  match s.recordedCwd with
  | .error .invalidArgument => ([], .notAccepted (failure .invalidArgument) false)
  | .error .busy => ([], .notAccepted (failure .busy) false)
  | .ok () =>
    match s.started with
    | .error _ => ([], .notAccepted (failure .busy) false)
    | .ok .refused => ([], .notAccepted (failure .operationEffectsActive) false)
    | .ok .recorded =>
      let key := c.key request.principalId request.operationId
      let record := acceptedRecord request.operationId .terminalCreate run none
      match commit c s (s.disposed .runRecorded) key record with
      | .error error =>
        ([.runConfirmed run],
          .notAccepted (if uncertainStoreOutcome error then resultUnknown else failure .busy) true)
      | .ok false => ([.runConfirmed run], .notAccepted (failure .busy) true)
      | .ok true => ([.runConfirmed run, .receiptConfirmed key .accepted], .accepted record)

def acceptTab : List Act × LaunchAcceptance :=
  match s.tabsLaunch with
  | .error error =>
    ([], .notAccepted (if uncertainStoreOutcome error then resultUnknown else failure .busy)
      (uncertainStoreOutcome error))
  | .ok (.existing operation) => ([], .notAccepted (.operation operation) false)
  | .ok (.refused error) => ([], .notAccepted (.error error) false)
  | .ok (.accepted operation) =>
    ([.runConfirmed run, .receiptConfirmed (c.key request.principalId request.operationId) .accepted],
      .accepted operation)

def accept : List Act × LaunchAcceptance :=
  if request.method = .terminalCreate then acceptTerminal c s request run else acceptTab c s request run

def abandon : List Act := [.reservationCancelled run, .notStarted run]

/-- Notes on the run's record what became of its spawn; an uncertain one stays `starting`. -/
def noteRun (result : RuntimeResult) : List Act :=
  if result.uncertain then [] else if result.rejected then [.notStarted run] else [.spawned run]

/-- A request without a receipt: reserves its key, a run number and a worker, and has the launch accepted. -/
def launchNew : List Act :=
  match nextRequest s with
  | none => [.answered (failure .counterExhausted)]
  | some requestId =>
    if !prepare c s (c.key request.principalId request.operationId) request.intent then [.answered (failure .busy)]
    else if s.disposed .prepared then [.answered (failure .capabilityUnavailable)]
    else if s.disposed .numbered then [.answered (failure .capabilityUnavailable)]
    else match nextRun c s with
      | none => [.answered (failure (nextRunRefusal s))]
      | some run =>
        if !s.reserveRun then [.answered (failure .busy)]
        else match accept c s request run with
          | (acts, .accepted record) =>
            acts ++ handover c s (c.key request.principalId request.operationId) record
              (.spawn run requestId request.operationId) (abandon run) (noteRun run s.result)
          | (acts, .notAccepted outcome runRecorded) =>
            acts ++ (if runRecorded then abandon run else [.reservationCancelled run]) ++ [.answered outcome]

/-- The part a launch and a stop begin with: what is known of the request, and whether it is new work. -/
def admitted (principalId operationId intent : String) (new : List Act) : List Act :=
  if s.disposed .called || !opaqueId principalId then [.answered (failure .capabilityUnavailable)]
  else
    let found := lookup c (s.disposed .called) (c.key principalId operationId) intent s.lookup
    match found with
    | .existing record => [.answered (.operation record)]
    | .conflict => [.answered (failure .operationIdConflict)]
    | .expired => [.answered (failure .operationHistoryExpired)]
    | _ =>
      match s.precondition with
      | some error => [.answered (.error error)]
      | none => if found != .reserve then [.answered (failure .busy)] else new

def launch : List Act :=
  admitted c s request.principalId request.operationId request.intent (launchNew c s request)

/-! ## Stopping -/

inductive StopMethod where
  | terminalStop
  | tabStop

def StopMethod.write : StopMethod → WriteMethod
  | .terminalStop => .terminalStop
  | .tabStop => .tabStop

structure StopRequest where
  principalId : String
  operationId : String
  method : StopMethod
  intent : String
  run : RunRef
  result : Option OperationResult

def stopNew (request : StopRequest) : List Act :=
  if !s.registered then [.answered (failure .runNotFound)]
  else match nextRequest s with
    | none => [.answered (failure .counterExhausted)]
    | some requestId =>
      let key := c.key request.principalId request.operationId
      let record := acceptedRecord request.operationId request.method.write request.run request.result
      if !prepare c s key request.intent then [.answered (failure .busy)]
      else match commit c s (s.disposed .prepared) key record with
        | .error error => [.answered (if uncertainStoreOutcome error then resultUnknown else failure .busy)]
        | .ok false => [.answered (failure .busy)]
        | .ok true =>
          .receiptConfirmed key .accepted ::
            handover c s key record (.stop request.run requestId request.operationId) [] []

def stopRun (request : StopRequest) : List Act :=
  admitted c s request.principalId request.operationId request.intent (stopNew c s request)

end Cove.Operations.TerminalOperations
