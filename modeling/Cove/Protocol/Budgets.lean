import Cove.Protocol.Frame

/-!
The limits of one deployment. Every effective budget is at least one and at most the limit of the same name.
-/

namespace Cove.Protocol.Budgets
open Protocol.Frame

structure EffectiveBudgets where
  maxRuns : Nat
  maxCols : Nat
  maxRows : Nat
  historyLines : Nat
  listPage : Nat
  baselineVtBytes : Nat
  baselineTailBytes : Nat
  baselineChunks : Nat
  recoveryDeadlineMs : Nat
  concurrentGenerationsPerWorker : Nat
  replayBytes : Nat
  replayEvents : Nat
  postNBytes : Nat
  postNEvents : Nat
  parseLowBytes : Nat
  parseHighBytes : Nat
  parseHardBytes : Nat
  inputQueueBytes : Nat
  pendingWorkerCommands : Nat
  subscriptionCreditBytes : Nat
  outboundConnectionBytes : Nat
  reservedControlBytes : Nat
  subscriptionsPerConnection : Nat
  authenticatedSockets : Nat
  unauthenticatedSockets : Nat
  pipeQueuedBytes : Nat
  previewBytesPerRun : Nat
  previewGlobalBytes : Nat
  previewRefreshes : Nat
  bootstrapBytes : Nat
  rpcRequestBytes : Nat
  rpcResponseBytes : Nat
  rpcBatch : Nat
  rpcInflight : Nat
  operationReceipts : Nat
  canonicalIntentBytes : Nat
  operationRecordBytes : Nat
  runtimeBytes : Nat
  workerBytes : Nat
  executableBytes : Nat
  cwdBytes : Nat
  argvCount : Nat
  argvBytes : Nat
  capabilityCount : Nat

def m0Limits : EffectiveBudgets where
  maxRuns := 128
  maxCols := 500
  maxRows := 200
  historyLines := 1000
  listPage := 128
  baselineVtBytes := 8 * 1024 * 1024
  baselineTailBytes := 64 * 1024
  baselineChunks := 129
  recoveryDeadlineMs := 15000
  concurrentGenerationsPerWorker := 2
  replayBytes := 1024 * 1024
  replayEvents := 4096
  postNBytes := 1024 * 1024
  postNEvents := 4096
  parseLowBytes := 128 * 1024
  parseHighBytes := 512 * 1024
  parseHardBytes := 1024 * 1024
  inputQueueBytes := 64 * 1024
  pendingWorkerCommands := 256
  subscriptionCreditBytes := 256 * 1024
  outboundConnectionBytes := 1024 * 1024
  reservedControlBytes := 64 * 1024
  subscriptionsPerConnection := 16
  authenticatedSockets := 32
  unauthenticatedSockets := 8
  pipeQueuedBytes := 4 * 1024 * 1024
  previewBytesPerRun := 64 * 1024
  previewGlobalBytes := 8 * 1024 * 1024
  previewRefreshes := 4
  bootstrapBytes := 8 * 1024
  rpcRequestBytes := 64 * 1024
  rpcResponseBytes := 256 * 1024
  rpcBatch := 16
  rpcInflight := 32
  operationReceipts := 4096
  canonicalIntentBytes := 8 * 1024
  operationRecordBytes := 4 * 1024
  runtimeBytes := 256 * 1024 * 1024
  workerBytes := 64 * 1024 * 1024
  executableBytes := 4096
  cwdBytes := 4096
  argvCount := 64
  argvBytes := 8 * 1024
  capabilityCount := 32

variable (value : EffectiveBudgets)

def EffectiveBudgets.entries : List Nat :=
  [value.maxRuns, value.maxCols, value.maxRows, value.historyLines, value.listPage, value.baselineVtBytes,
    value.baselineTailBytes, value.baselineChunks, value.recoveryDeadlineMs,
    value.concurrentGenerationsPerWorker, value.replayBytes, value.replayEvents, value.postNBytes,
    value.postNEvents, value.parseLowBytes, value.parseHighBytes, value.parseHardBytes,
    value.inputQueueBytes, value.pendingWorkerCommands, value.subscriptionCreditBytes,
    value.outboundConnectionBytes, value.reservedControlBytes, value.subscriptionsPerConnection,
    value.authenticatedSockets, value.unauthenticatedSockets, value.pipeQueuedBytes,
    value.previewBytesPerRun, value.previewGlobalBytes, value.previewRefreshes, value.bootstrapBytes,
    value.rpcRequestBytes, value.rpcResponseBytes, value.rpcBatch, value.rpcInflight,
    value.operationReceipts, value.canonicalIntentBytes, value.operationRecordBytes, value.runtimeBytes,
    value.workerBytes, value.executableBytes, value.cwdBytes, value.argvCount, value.argvBytes,
    value.capabilityCount]

/-- Every value is a whole number from one to its limit. -/
def withinLimits : Bool :=
  (value.entries.zip m0Limits.entries).all (fun pair => decide (1 ≤ pair.1 ∧ pair.1 ≤ pair.2))

def validateEffectiveBudgets : Option EffectiveBudgets :=
  if !withinLimits value then none
  else if value.parseLowBytes ≥ value.parseHighBytes ∨ value.parseHighBytes ≥ value.parseHardBytes then none
  else if value.baselineChunks * 65536 < value.baselineVtBytes + value.baselineTailBytes then none
  else if value.subscriptionCreditBytes < maxFrameBytes then none
  else if value.outboundConnectionBytes < value.subscriptionCreditBytes then none
  else if value.reservedControlBytes < headerBytes + maxMetadataBytes then none
  else if value.pipeQueuedBytes < maxFrameBytes then none
  else if value.previewGlobalBytes < value.maxRuns * value.previewBytesPerRun then none
  else if value.maxRuns < 1 ∨ value.listPage > value.maxRuns then none
  else some value

theorem withinLimits_of_valid {value : EffectiveBudgets} (valid : (validateEffectiveBudgets value).isSome) :
    withinLimits value = true := by
  unfold validateEffectiveBudgets at valid
  split at valid
  · cases valid
  next limits => simpa using limits

/-- What accepted budgets leave a pipe: at least one command, and more than the control reserve. -/
theorem validateEffectiveBudgets_pipe {value : EffectiveBudgets} (valid : (validateEffectiveBudgets value).isSome) :
    1 ≤ value.pendingWorkerCommands ∧ headerBytes + maxMetadataBytes ≤ value.reservedControlBytes ∧
      value.reservedControlBytes ≤ 65536 ∧ maxFrameBytes ≤ value.pipeQueuedBytes := by
  have within := withinLimits_of_valid valid
  unfold validateEffectiveBudgets at valid
  split at valid
  · cases valid
  simp only [withinLimits, EffectiveBudgets.entries, m0Limits, List.zip_cons_cons, List.all_cons, Bool.and_eq_true,
    decide_eq_true_eq] at within
  split at valid
  · cases valid
  split at valid
  · cases valid
  split at valid
  · cases valid
  split at valid
  · cases valid
  split at valid
  · cases valid
  split at valid
  · cases valid
  rename_i queue
  omega

example : (validateEffectiveBudgets m0Limits).isSome = true := by decide

end Cove.Protocol.Budgets
