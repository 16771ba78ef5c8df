import Mathlib.Data.List.Basic

/-!
Identities of runs, connections and subscriptions, and the counters that number things within them.
-/

namespace Cove.Protocol.Identity

/-- 2^53 - 1, the last value a counter may reach. -/
def maxSafeInteger : Nat := 9007199254740991

structure RunRef where
  serverId : String
  relayInstanceId : String
  runId : String
  deriving DecidableEq

structure ConnectionRef where
  connectionId : String
  generation : Nat
  deriving DecidableEq

structure SubscriptionRef where
  run : RunRef
  connection : ConnectionRef
  subscriptionId : String
  viewId : String
  deriving DecidableEq

structure WorkerRef where
  serverId : String
  relayInstanceId : String
  workerId : String
  workerIncarnationId : String
  deriving DecidableEq

/-- A letter or digit, then at most 127 letters, digits, dots, underscores or hyphens. -/
def opaqueId (text : String) : Bool :=
  match text.toList with
  | [] => false
  | first :: rest =>
    first.isAlphanum && rest.length ≤ 127 &&
      rest.all (fun char => char.isAlphanum || char == '.' || char == '_' || char == '-')

def sequence (value : Nat) : Bool := value ≤ maxSafeInteger

def RunRef.valid (run : RunRef) : Bool :=
  opaqueId run.serverId && opaqueId run.relayInstanceId && opaqueId run.runId

def ConnectionRef.valid (connection : ConnectionRef) : Bool :=
  opaqueId connection.connectionId && sequence connection.generation

def SubscriptionRef.valid (subscription : SubscriptionRef) : Bool :=
  subscription.run.valid && subscription.connection.valid && opaqueId subscription.subscriptionId &&
    opaqueId subscription.viewId

def WorkerRef.valid (worker : WorkerRef) : Bool :=
  opaqueId worker.serverId && opaqueId worker.relayInstanceId && opaqueId worker.workerId &&
    opaqueId worker.workerIncarnationId

def sameRunRef (left right : RunRef) : Bool :=
  left.serverId == right.serverId && left.relayInstanceId == right.relayInstanceId && left.runId == right.runId

theorem sameRunRef_iff (left right : RunRef) : sameRunRef left right = true ↔ left = right := by
  cases left
  cases right
  simp [sameRunRef, and_assoc]

def sameWorkerRef (left right : WorkerRef) : Bool :=
  left.serverId == right.serverId && left.relayInstanceId == right.relayInstanceId &&
    left.workerId == right.workerId && left.workerIncarnationId == right.workerIncarnationId

theorem sameWorkerRef_iff (left right : WorkerRef) : sameWorkerRef left right = true ↔ left = right := by
  cases left
  cases right
  simp [sameWorkerRef, and_assoc]

def workerMatchesRun (worker : WorkerRef) (run : RunRef) : Bool :=
  worker.serverId == run.serverId && worker.relayInstanceId == run.relayInstanceId

def sameConnectionRef (left right : ConnectionRef) : Bool :=
  left.connectionId == right.connectionId && left.generation == right.generation

def sameSubscriptionRef (left right : SubscriptionRef) : Bool :=
  sameRunRef left.run right.run && sameConnectionRef left.connection right.connection &&
    left.subscriptionId == right.subscriptionId && left.viewId == right.viewId

def nextCounter (value : Nat) : Option Nat :=
  if value ≥ maxSafeInteger then none else some (value + 1)

end Cove.Protocol.Identity
