import Cove.Protocol.Budgets
import Cove.Protocol.Terminal

/-!
What a captured screen is announced with: its coverage, the control authority at the fact it was taken at, and
the sizes the transfer that follows has to have.
-/

namespace Cove.Protocol.Recovery
open Protocol.Budgets Protocol.Identity Protocol.Terminal

def profileName : String := "pragmatic-logical-grid-v1"
def baselineEncoding : String := "vt-checkpoint-tail-v1"

inductive ResizeContext where
  | complete
  | requiresBaseline
  deriving DecidableEq

structure NormalCoverage where
  historyLines : Nat
  includedHistoryLines : Nat
  trimmedBefore : Bool
  resizeContext : ResizeContext
  deriving DecidableEq

/-- The alternate screen is always included. -/
structure RecoveryCoverage where
  normal : NormalCoverage
  alternateResizeContext : ResizeContext
  deriving DecidableEq

/-- Control authority as of the baseline's `atSeq`. Epoch 0 means control was never granted. -/
structure BaselineControl where
  epoch : Nat
  holder : Option ControlHolder
  deriving DecidableEq

structure BaselineDescriptor where
  baselineId : String
  run : RunRef
  subscription : SubscriptionRef
  profile : String
  encoding : String
  checkpointSeq : Nat
  atSeq : Nat
  captureGeometry : Geometry
  currentGeometry : Geometry
  coverage : RecoveryCoverage
  control : BaselineControl
  vtBytes : Nat
  tailBytes : Nat
  chunkCount : Nat
  deriving DecidableEq

def validGeometry (geometry : Geometry) : Bool :=
  2 ≤ geometry.cols && geometry.cols ≤ m0Limits.maxCols && 2 ≤ geometry.rows && geometry.rows ≤ m0Limits.maxRows

def validControlHolder (holder : ControlHolder) : Bool :=
  holder.connection.valid && opaqueId holder.viewId && opaqueId holder.subscriptionId

def BaselineDescriptor.wellTyped (value : BaselineDescriptor) : Bool :=
  opaqueId value.baselineId && value.run.valid && value.subscription.valid &&
    value.profile == profileName && value.encoding == baselineEncoding &&
    sequence value.checkpointSeq && sequence value.atSeq &&
    validGeometry value.captureGeometry && validGeometry value.currentGeometry &&
    value.coverage.normal.historyLines ≤ 1000 && value.coverage.normal.includedHistoryLines ≤ 1000 &&
    sequence value.control.epoch && value.control.holder.all validControlHolder &&
    1 ≤ value.vtBytes && value.vtBytes ≤ m0Limits.baselineVtBytes &&
    value.tailBytes ≤ m0Limits.baselineTailBytes &&
    1 ≤ value.chunkCount && value.chunkCount ≤ m0Limits.baselineChunks

/-- With the default history limit, which is the largest one. -/
def validateBaselineDescriptor (value : BaselineDescriptor) : Bool :=
  if !value.wellTyped then false
  else if value.checkpointSeq > value.atSeq ∨ (value.control.epoch = 0 ∧ value.control.holder ≠ none) ∨
      !sameSubscriptionRef value.subscription { value.subscription with run := value.run } then false
  else if value.captureGeometry ≠ value.currentGeometry then false
  else if value.coverage.normal.includedHistoryLines > value.coverage.normal.historyLines ∨
      value.coverage.normal.historyLines > m0Limits.historyLines then false
  else
    let totalBytes := value.vtBytes + value.tailBytes
    !(decide (value.chunkCount > totalBytes) || decide (value.chunkCount * 65536 < totalBytes))

end Cove.Protocol.Recovery
