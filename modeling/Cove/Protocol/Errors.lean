import Cove.Base.Json
import Cove.Protocol.Operations

/-!
Domain errors as they are sent and stored. Everything but the acceptance and the blocking runs is read off the kind: its
code is the kind's place in the list of kinds, its message the kind's name with blanks.
-/

namespace Cove.Protocol.Operations
open Base.Json Protocol.Identity

def ErrorKind.name : ErrorKind → String
  | .unauthenticated => "UNAUTHENTICATED"
  | .forbidden => "FORBIDDEN"
  | .bootstrapUnsupported => "BOOTSTRAP_UNSUPPORTED"
  | .protocolMismatch => "PROTOCOL_MISMATCH"
  | .instanceMismatch => "INSTANCE_MISMATCH"
  | .capabilityUnavailable => "CAPABILITY_UNAVAILABLE"
  | .profileUnsupported => "PROFILE_UNSUPPORTED"
  | .runNotFound => "RUN_NOT_FOUND"
  | .staleConnection => "STALE_CONNECTION"
  | .staleControl => "STALE_CONTROL"
  | .invalidSize => "INVALID_SIZE"
  | .resyncRequired => "RESYNC_REQUIRED"
  | .recoveryExpired => "RECOVERY_EXPIRED"
  | .recoveryUnavailable => "RECOVERY_UNAVAILABLE"
  | .busy => "BUSY"
  | .operationIdConflict => "OPERATION_ID_CONFLICT"
  | .operationNotFound => "OPERATION_NOT_FOUND"
  | .inputRejected => "INPUT_REJECTED"
  | .resultUnknown => "RESULT_UNKNOWN"
  | .workerUnavailable => "WORKER_UNAVAILABLE"
  | .counterExhausted => "COUNTER_EXHAUSTED"
  | .invalidArgument => "INVALID_ARGUMENT"
  | .revisionConflict => "REVISION_CONFLICT"
  | .repoNotFound => "REPO_NOT_FOUND"
  | .taskNotFound => "TASK_NOT_FOUND"
  | .mountNotFound => "MOUNT_NOT_FOUND"
  | .tabNotFound => "TAB_NOT_FOUND"
  | .notAGitRepository => "NOT_A_GIT_REPOSITORY"
  | .bareRepository => "BARE_REPOSITORY"
  | .repoAlreadyRegistered => "REPO_ALREADY_REGISTERED"
  | .managedWorktreeNotMountable => "MANAGED_WORKTREE_NOT_MOUNTABLE"
  | .mountNameConflict => "MOUNT_NAME_CONFLICT"
  | .taskArchived => "TASK_ARCHIVED"
  | .branchExists => "BRANCH_EXISTS"
  | .fetchFailed => "FETCH_FAILED"
  | .mainBranchUnresolved => "MAIN_BRANCH_UNRESOLVED"
  | .liveRunsPresent => "LIVE_RUNS_PRESENT"
  | .operationNotResumable => "OPERATION_NOT_RESUMABLE"
  | .operationEffectsActive => "OPERATION_EFFECTS_ACTIVE"
  | .gitUnavailable => "GIT_UNAVAILABLE"
  | .repoInUse => "REPO_IN_USE"
  | .workspaceEntryUnavailable => "WORKSPACE_ENTRY_UNAVAILABLE"
  | .deviceRevoked => "DEVICE_REVOKED"
  | .invitationUnavailable => "INVITATION_UNAVAILABLE"
  | .invitationNotFound => "INVITATION_NOT_FOUND"
  | .deviceNotFound => "DEVICE_NOT_FOUND"
  | .serverIdMismatch => "SERVER_ID_MISMATCH"
  | .peerIdentityMismatch => "PEER_IDENTITY_MISMATCH"
  | .entryUnavailable => "ENTRY_UNAVAILABLE"
  | .operationHistoryExpired => "OPERATION_HISTORY_EXPIRED"
  | .tsnetLoginFailed => "TSNET_LOGIN_FAILED"
  | .tsnetIdentityChanged => "TSNET_IDENTITY_CHANGED"
  | .tsnetLoginUncertain => "TSNET_LOGIN_UNCERTAIN"
  | .controlHeld => "CONTROL_HELD"

/-- A kind's code; kinds are appended, so that every earlier one keeps its code. -/
def ErrorKind.code (kind : ErrorKind) : Nat := 1000 + kind.ctorIdx

/-- The message holds nothing of the request. -/
def ErrorKind.message (kind : ErrorKind) : String := kind.name.map (fun char => if char = '_' then ' ' else char)

inductive NextAction where
  | none
  | reauthenticate
  | renegotiate
  | refreshControl
  | newSubscription
  | queryOperation
  | inspectRun
  | refreshResource
  | fixRequest

def NextAction.name : NextAction → String
  | .none => "none"
  | .reauthenticate => "reauthenticate"
  | .renegotiate => "renegotiate"
  | .refreshControl => "refresh-control"
  | .newSubscription => "new-subscription"
  | .queryOperation => "query-operation"
  | .inspectRun => "inspect-run"
  | .refreshResource => "refresh-resource"
  | .fixRequest => "fix-request"

def ErrorKind.nextAction : ErrorKind → NextAction
  | .unauthenticated | .deviceRevoked => .reauthenticate
  | .forbidden | .invalidSize | .busy | .gitUnavailable | .workspaceEntryUnavailable
  | .invitationUnavailable | .serverIdMismatch | .peerIdentityMismatch | .entryUnavailable
  | .tsnetIdentityChanged | .tsnetLoginUncertain => .none
  | .bootstrapUnsupported | .protocolMismatch | .capabilityUnavailable | .profileUnsupported => .renegotiate
  | .instanceMismatch | .runNotFound | .recoveryUnavailable | .workerUnavailable | .liveRunsPresent => .inspectRun
  | .staleConnection | .resyncRequired | .recoveryExpired | .counterExhausted => .newSubscription
  | .staleControl | .inputRejected | .controlHeld => .refreshControl
  | .operationIdConflict | .operationNotFound | .resultUnknown | .operationNotResumable
  | .operationEffectsActive => .queryOperation
  | .invalidArgument | .notAGitRepository | .bareRepository | .managedWorktreeNotMountable
  | .mountNameConflict | .branchExists | .fetchFailed | .mainBranchUnresolved | .repoInUse
  | .tsnetLoginFailed => .fixRequest
  | .revisionConflict | .repoNotFound | .taskNotFound | .mountNotFound | .tabNotFound
  | .repoAlreadyRegistered | .taskArchived | .invitationNotFound | .deviceNotFound
  | .operationHistoryExpired => .refreshResource

def Acceptance.name : Acceptance → String
  | .notAccepted => "not-accepted"
  | .accepted => "accepted"
  | .unknown => "unknown"

def runRefJson (run : RunRef) : Value :=
  .obj [("serverId", .str run.serverId), ("relayInstanceId", .str run.relayInstanceId), ("runId", .str run.runId)]

def DomainError.json (error : DomainError) : Value :=
  .obj ([("kind", .str error.kind.name), ("code", .num error.kind.code), ("message", .str error.kind.message),
    ("acceptance", .str error.acceptance.name), ("nextAction", .str error.kind.nextAction.name)] ++
      if error.runs = [] then [] else [("details", .obj [("runs", .arr (error.runs.map runRefJson))])])

end Cove.Protocol.Operations
