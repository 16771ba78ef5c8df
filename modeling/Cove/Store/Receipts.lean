import Mathlib.Data.List.Sort
import Cove.Base.Checks
import Cove.Operations.Receipts
import Cove.Store.Database

/-!
Receipts in the database: how one is inserted, advanced and purged, and the write whose whole effect is a database
change. A key that was used once stays used, by its receipt or by the tombstone its purge left.
-/

namespace Cove.Store.Receipts
open Base.Checks Protocol.Identity Protocol.Operations Operations.Receipts Store

variable (intentDigest : String → String)

/-- The same request is told that its history expired, another one that the id is taken. -/
def tombstoneRefusal (gone : TombstoneRow) (canonicalIntent : String) : DomainError :=
  refusal (if gone.intentDigest == intentDigest canonicalIntent then .operationHistoryExpired else .operationIdConflict)

variable (db : Database)

def insert (stored : StoredReceipt) (at_ : Int) : Except Halt (Option Database) := do
  require (db.tombstones.find stored.key).isNone .thrown
  return (db.receipts.insert { toStoredReceipt := stored, updatedAtMs := at_ }).map
    (fun receipts => { db with receipts })

def setRecord (record : OperationRecord) (at_ : Int) (row : ReceiptRow) : ReceiptRow :=
  { row with record, updatedAtMs := at_ }

@[simp] theorem setRecord_key (record : OperationRecord) (at_ : Int) (row : ReceiptRow) :
    (setRecord record at_ row).key = row.key := rfl

variable (key : OperationReceiptKey)

def putRecord (record : OperationRecord) (at_ : Int) : Database :=
  { db with receipts := db.receipts.update key (setRecord record at_) (setRecord_key record at_) }

def replace (expectedRevision : Nat) (record : OperationRecord) (at_ : Int) : Option Database :=
  match db.receipts.find key with
  | some row => if row.record.revision = expectedRevision then some (putRecord db key record at_) else none
  | none => none

def receiptOf : Option OperationRecord :=
  (db.receipts.find key).map (fun row => row.record)

def runningReceipt : Option OperationRecord :=
  (receiptOf db key).filter (fun record => record.state == .running)

def attentionReceipt (expectedRevision : Nat) : Option OperationRecord :=
  (receiptOf db key).filter
    (fun record => record.revision == expectedRevision && record.state == .requiresAttention)

def replaceReceipt (limits : ReceiptLimits) (db : Database) (key : OperationReceiptKey)
    (current next : OperationRecord) (at_ : Int) : Option Database :=
  if checkedReceiptRecord limits key next && next.revision == current.revision + 1 && next.method == current.method then
    replace db key current.revision next at_
  else none

structure WriteRequest where
  key : OperationReceiptKey
  canonicalIntent : String
  method : WriteMethod
  holdsSecret : OperationRecord → Bool

structure Written where
  db : Database
  operation : OperationRecord
  committed : Bool

def acceptedRecord (request : WriteRequest) : OperationRecord where
  operationId := request.key.operationId
  method := request.method
  revision := 0
  state := .accepted
  run := none
  result := none
  progress := none
  error := none

/-- The record a write leaves: it ended with its transaction, unless work outside the database follows. -/
def writtenRecord (request : WriteRequest) (applied : Applied) : OperationRecord :=
  { acceptedRecord request with
    revision := 1
    state := if applied.running then .running else .succeeded
    result := some applied.result }

/-- One transaction: the receipt is looked up again, the write checks its preconditions against the current rows and
applies its change, and the receipt is inserted and advanced. -/
def write (limits : ReceiptLimits) (intentDigest : String → String) (db : Database) (request : WriteRequest)
    (apply : Database → Except Halt Applied) (at_ : Int) : Except Halt Written := do
  require (request.key.serverId == limits.serverId) (refuse .invalidArgument)
  match db.receipts.find request.key with
  | some row =>
    require (row.canonicalIntent == request.canonicalIntent) (refuse .operationIdConflict)
    return ⟨db, row.record, false⟩
  | none =>
    match db.tombstones.find request.key with
    | some gone => .error (.refused (tombstoneRefusal intentDigest gone request.canonicalIntent))
    | none =>
      let applied ← apply db
      require (checkedReceiptRecord limits request.key (acceptedRecord request)) (refuse .busy)
      let inserted ← insert applied.db ⟨request.key, request.canonicalIntent, acceptedRecord request⟩ at_
      let held ← found inserted (refuse .busy)
      require (checkedReceiptRecord limits request.key (writtenRecord request applied)) (refuse .busy)
      require (!request.holdsSecret (writtenRecord request applied)) .declined
      let done ← found (replace held request.key 0 (writtenRecord request applied) at_) (refuse .busy)
      return ⟨done, writtenRecord request applied, true⟩

/-! The number of a run id `run-N`, and the highest one a receipt or a run row names. -/

def digitValue (char : Char) : Nat := char.toNat - '0'.toNat

/-- The digits after `run-`, the first of them not zero. -/
def runNumber (runId : String) : Option Nat :=
  match runId.toList with
  | 'r' :: 'u' :: 'n' :: '-' :: first :: rest =>
    if first.isDigit && first != '0' && rest.all Char.isDigit then
      some ((first :: rest).foldl (fun value char => 10 * value + digitValue char) 0)
    else none
  | _ => none

def receiptNumber (row : ReceiptRow) : Option Nat := row.record.run.bind (fun run => runNumber run.runId)

/-- The numbers named by run rows and receipts. -/
def namedNumbers : List Nat :=
  db.runs.rows.filterMap (fun row => runNumber row.run.runId) ++ db.receipts.rows.filterMap receiptNumber

def highestNumber : Nat := (namedNumbers db).foldl max 0

structure PurgeArgs where
  now : Int
  retentionMs : Int
  limit : Nat
  highestRun : Nat

variable (args : PurgeArgs)

def PurgeArgs.valid : Bool :=
  decide (args.now.natAbs ≤ maxSafeInteger) && decide (0 < args.retentionMs) &&
    decide (args.retentionMs.natAbs ≤ maxSafeInteger) && decide (0 < args.limit) && sequence args.limit &&
    sequence args.highestRun

def currentAttempt (attemptId : String) : Bool :=
  db.preparations.rows.any (fun row => row.attemptId == attemptId)

/-- Ended long enough ago, and no live state consults the receipt. -/
def due (row : ReceiptRow) : Bool :=
  row.record.state.ended && decide (row.updatedAtMs ≤ args.now - args.retentionMs) &&
    !db.attempts.rows.any (fun attempt => attempt.operation == row.key && currentAttempt db attempt.attemptId) &&
    !db.attempts.rows.any (fun attempt => attempt.abandon == some row.key && currentAttempt db attempt.attemptId) &&
    !db.processes.rows.any (fun process => process.operation == row.key && process.endedAtMs.isNone) &&
    !(receiptNumber row).any (fun number => decide (args.highestRun ≤ number))

def earlier (left right : ReceiptRow) : Bool :=
  decide (left.updatedAtMs < right.updatedAtMs) || left.updatedAtMs == right.updatedAtMs &&
    (decide (left.key.serverId < right.key.serverId) || left.key.serverId == right.key.serverId &&
      (decide (left.key.principalId < right.key.principalId) || left.key.principalId == right.key.principalId &&
        !decide (right.key.operationId < left.key.operationId)))

def batch : List ReceiptRow :=
  ((db.receipts.rows.filter (due db args)).insertionSort (fun left right => earlier left right = true)).take args.limit

def tombstoneOf (now : Int) (row : ReceiptRow) : TombstoneRow where
  key := row.key
  method := row.record.method
  state := row.record.state
  intentDigest := intentDigest row.canonicalIntent
  endedAtMs := row.updatedAtMs
  purgedAtMs := now

/-- The tombstone, unless one is there, then the receipt and its process attributions. -/
def purgeRow (now : Int) (db : Database) (row : ReceiptRow) : Database :=
  { db with
    tombstones := (db.tombstones.insert (tombstoneOf intentDigest now row)).getD db.tombstones
    processes := db.processes.filter (fun process => process.operation ≠ row.key)
    receipts := db.receipts.delete row.key }

def purge : Except Halt Database := do
  require args.valid .thrown
  return (batch db args).foldl (purgeRow intentDigest args.now) db

end Cove.Store.Receipts
