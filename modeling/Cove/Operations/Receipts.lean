import Cove.Protocol.Budgets
import Cove.Protocol.Operations

/-!
The rules of receipts that hold wherever one is read or written: which request a receipt answers, which record follows
which, and what a failed store call leaves known.
-/

namespace Cove.Operations.Receipts
open Protocol.Budgets Protocol.Identity Protocol.Operations

inductive StoreError where
  | operation
  | notSent
  | unknown
  deriving DecidableEq

/-- The store may have committed the call without the caller learning of it. -/
def uncertainStoreOutcome (error : StoreError) : Bool := error == .unknown

def terminalState : OperationState → Bool
  | .succeeded | .failed | .cancelled | .requiresAttention => true
  | _ => false

def recoveryState : OperationState → Bool
  | .running | .recovering | .cancelled => true
  | _ => false

structure ReceiptLimits where
  serverId : String
  fits : OperationRecord → Bool

def checkedReceiptRecord (limits : ReceiptLimits) (key : OperationReceiptKey) (record : OperationRecord) : Bool :=
  limits.fits record && record.operationId == key.operationId &&
    record.run.all (fun run => run.serverId == limits.serverId)

def isSuccessor (record next : OperationRecord) : Bool :=
  record.revision != maxSafeInteger && next.revision == record.revision + 1 && next.method == record.method &&
    next.run == record.run

/-- What the store holds under a key: the receipt, or what its purge left. -/
inductive Found where
  | receipt (stored : StoredReceipt)
  | tombstone (intentDigest : String)

inductive ReceiptLookup where
  | existing (record : OperationRecord)
  | reserve
  | busy
  | conflict
  | invalid
  | expired
  deriving DecidableEq

def classifyReceiptAdmission (key : OperationReceiptKey) (canonicalIntent : String) (existing : Option StoredReceipt)
    (receiptCount receiptLimit : Nat) : ReceiptLookup :=
  if !key.valid || !sequence receiptCount || receiptLimit < 1 || m0Limits.operationReceipts < receiptLimit ||
      canonicalIntent == "" || m0Limits.canonicalIntentBytes < canonicalIntent.utf8ByteSize then .invalid
  else match existing with
    | some stored =>
      if key != stored.key then .invalid
      else if stored.canonicalIntent == canonicalIntent then .existing stored.record
      else .conflict
    | none => if receiptLimit ≤ receiptCount then .busy else .reserve

end Cove.Operations.Receipts
