import Cove.Protocol.Identity

/-!
Operations as a client and the store know them: the errors a request ends with, and the record kept of each write,
with its state, its revision and its result.
-/

namespace Cove.Protocol.Operations
open Protocol.Identity

inductive ErrorKind where
  | unauthenticated
  | forbidden
  | bootstrapUnsupported
  | protocolMismatch
  | instanceMismatch
  | capabilityUnavailable
  | profileUnsupported
  | runNotFound
  | staleConnection
  | staleControl
  | invalidSize
  | resyncRequired
  | recoveryExpired
  | recoveryUnavailable
  | busy
  | operationIdConflict
  | operationNotFound
  | inputRejected
  | resultUnknown
  | workerUnavailable
  | counterExhausted
  | invalidArgument
  | revisionConflict
  | repoNotFound
  | taskNotFound
  | mountNotFound
  | tabNotFound
  | notAGitRepository
  | bareRepository
  | repoAlreadyRegistered
  | managedWorktreeNotMountable
  | mountNameConflict
  | taskArchived
  | branchExists
  | fetchFailed
  | mainBranchUnresolved
  | liveRunsPresent
  | operationNotResumable
  | operationEffectsActive
  | gitUnavailable
  | repoInUse
  | workspaceEntryUnavailable
  | deviceRevoked
  | invitationUnavailable
  | invitationNotFound
  | deviceNotFound
  | serverIdMismatch
  | peerIdentityMismatch
  | entryUnavailable
  | operationHistoryExpired
  | tsnetLoginFailed
  | tsnetIdentityChanged
  | tsnetLoginUncertain
  | controlHeld
  deriving DecidableEq

inductive Acceptance where
  | notAccepted
  | accepted
  | unknown
  deriving DecidableEq

/-- The code, the message and the next action of an error are read off its kind. -/
structure DomainError where
  kind : ErrorKind
  acceptance : Acceptance
  runs : List RunRef
  deriving DecidableEq

def domainError (kind : ErrorKind) (acceptance : Acceptance) : DomainError := ⟨kind, acceptance, []⟩

def refusal (kind : ErrorKind) : DomainError := domainError kind .notAccepted

inductive OperationState where
  | accepted
  | running
  | recovering
  | requiresAttention
  | succeeded
  | failed
  | cancelled
  deriving DecidableEq

/-- An operation that ended keeps its record; one that requires attention waits for an explicit recovery. -/
def OperationState.ended : OperationState → Bool
  | .succeeded | .failed | .cancelled => true
  | _ => false

inductive WriteMethod where
  | terminalCreate
  | terminalStop
  | operationContinue
  | operationAbandon
  | configSet
  | repoRegister
  | repoUpdate
  | repoRemove
  | taskCreate
  | taskUpdate
  | taskArchive
  | taskUnarchive
  | mountAdd
  | mountRemove
  | mountRetry
  | tabCreate
  | tabReopen
  | tabStop
  | tabClose
  | tabSend
  | bindingConvert
  | bindingDelete
  | authInviteCreate
  | authInviteCancel
  | authDeviceRename
  | authDeviceRevoke
  | authDeviceRotate
  | entrySet
  | serverTsnetLogin
  | serverTsnetLogout
  deriving DecidableEq

inductive MountSource where
  | checkout
  | worktree
  deriving DecidableEq

inductive MountState where
  | pending
  | ready
  | failed
  | missing
  deriving DecidableEq

inductive MountLeftover where
  | worktree
  | branch
  | both
  deriving DecidableEq

structure MountOutcome where
  mountId : String
  state : MountState
  errorKind : Option ErrorKind
  left : Option MountLeftover
  branch : Option String
  deriving DecidableEq

structure RunExit where
  exitCode : Option Int
  signal : Option String
  deriving DecidableEq

inductive ResourceKind where
  | repo
  | task
  | mount
  | tab
  | config
  deriving DecidableEq

structure ResourceRef where
  kind : ResourceKind
  id : String
  revision : Nat
  deriving DecidableEq

structure OperationResult where
  run : Option RunRef
  exit : Option RunExit
  resource : Option ResourceRef
  workspaceRevision : Option Nat
  mounts : Option (List MountOutcome)
  targetOperationId : Option String
  deriving DecidableEq

def OperationResult.empty : OperationResult := ⟨none, none, none, none, none, none⟩

inductive RecoveryAction where
  | continue
  | abandon
  deriving DecidableEq

structure Progress where
  completedSteps : List String
  remainingEffects : List String
  recoveryActions : List RecoveryAction
  deriving DecidableEq

structure OperationRecord where
  operationId : String
  method : WriteMethod
  revision : Nat
  state : OperationState
  run : Option RunRef
  result : Option OperationResult
  progress : Option Progress
  error : Option DomainError
  deriving DecidableEq

structure OperationReceiptKey where
  serverId : String
  principalId : String
  operationId : String
  deriving DecidableEq

def OperationReceiptKey.valid (key : OperationReceiptKey) : Bool :=
  opaqueId key.serverId && opaqueId key.principalId && opaqueId key.operationId

structure StoredReceipt where
  key : OperationReceiptKey
  canonicalIntent : String
  record : OperationRecord
  deriving DecidableEq

end Cove.Protocol.Operations
