import Cove.Base.Utf16
import Cove.Protocol.Recovery

/-!
What a runtime and a worker exchange over their pipe: commands one way, replies the other, and which reply answers
which command.
-/

namespace Cove.Protocol.Pipe
open Base.Utf16 Protocol.Budgets Protocol.Frame Protocol.Identity Protocol.Recovery Protocol.Terminal

def pipeVersion : Nat := 2

/-- The route-control commands a runtime may have outstanding on one pipe. -/
def pipeRouteControlCommands : Nat := 4

def pipeRouteControlFrameBytes : Nat := headerBytes + maxMetadataBytes

def pipePrepaidRouteControlBytes : Nat := pipeRouteControlCommands * pipeRouteControlFrameBytes

def pipeHeartbeatFrameBytes : Nat := headerBytes + maxMetadataBytes

structure Hello where
  worker : WorkerRef
  pipeVersion : Nat
  buildVersion : String
  effectiveBudgets : EffectiveBudgets

structure Ready where
  worker : WorkerRef
  pipeVersion : Nat
  buildVersion : String
  effectiveBudgets : EffectiveBudgets

inductive CommandType where
  | spawn
  | stop
  | setControl
  | input
  | programmaticInput
  | resize
  | appearance
  | subscribe
  | recover
  | unsubscribe
  | appliedAck
  | baselineProgress
  | status
  | previewRefresh
  deriving DecidableEq

inductive CommandBody where
  | spawn (operationId : String) (geometry : Geometry) (effectiveBudgets : List Nat)
  | stop (operationId : String)
  | setControl
  | input (inputSeq : Nat)
  | programmaticInput (operationId : String) (textBytes : Nat) (submit : Bool)
  | resize
  | appearance
  | subscribe (subscription : SubscriptionRef) (atSeq : Nat)
  | recover (subscription : SubscriptionRef) (appliedSeq : Option Nat)
  | unsubscribe (subscription : SubscriptionRef)
  | appliedAck (subscription : SubscriptionRef) (appliedSeq : Nat)
  | baselineProgress (subscription : SubscriptionRef) (baselineId : String) (lastParsedOrdinal : Nat)
  | status
  | previewRefresh
  deriving DecidableEq

def CommandBody.type : CommandBody → CommandType
  | .spawn .. => .spawn
  | .stop _ => .stop
  | .setControl => .setControl
  | .input _ => .input
  | .programmaticInput .. => .programmaticInput
  | .resize => .resize
  | .appearance => .appearance
  | .subscribe .. => .subscribe
  | .recover .. => .recover
  | .unsubscribe _ => .unsubscribe
  | .appliedAck .. => .appliedAck
  | .baselineProgress .. => .baselineProgress
  | .status => .status
  | .previewRefresh => .previewRefresh

structure PipeCommand where
  worker : WorkerRef
  run : RunRef
  requestId : String
  body : CommandBody
  deriving DecidableEq

def PipeCommand.type (command : PipeCommand) : CommandType := command.body.type

inductive DomainErrorKind where
  | runNotFound
  | busy
  | operationIdConflict
  | resultUnknown
  | workerUnavailable
  | counterExhausted
  | capabilityUnavailable
  | other (name : String)
  deriving DecidableEq

inductive Acceptance where
  | notAccepted
  | unknown
  deriving DecidableEq

structure DomainError where
  kind : DomainErrorKind
  acceptance : Acceptance
  input : Bool
  deriving DecidableEq

structure PipeError where
  worker : WorkerRef
  run : RunRef
  requestId : String
  commandType : CommandType
  error : DomainError

inductive Outcome where
  | accepted
  | rejected
  | unknown
  deriving DecidableEq

inductive RunPhase where
  | live
  | unverifiable
  | exited
  deriving DecidableEq

inductive RecoveryState where
  | ready
  | waitingCheckpoint
  | unavailable
  deriving DecidableEq

/-- What an event of the worker can change. -/
structure RunBoundary where
  geometry : Geometry
  controlEpoch : Nat
  controlHolder : Option ControlHolder
  deriving DecidableEq

structure RuntimeFact extends RunBoundary where
  status : RunPhase
  recovery : RecoveryState
  exitCode : Option Int
  signal : Option String
  deriving DecidableEq

structure RunStatus extends RuntimeFact where
  run : RunRef
  receivedSeq : Option Nat
  parsedSeq : Option Nat
  reason : Option String
  deriving DecidableEq

def RunStatus.valid (status : RunStatus) : Bool :=
  status.run.valid && validGeometry status.geometry && sequence status.controlEpoch &&
    status.controlHolder.all validControlHolder && status.receivedSeq.all sequence && status.parsedSeq.all sequence &&
    status.reason.all (fun reason => decide (utf16Length reason ≤ 128)) &&
    status.signal.all (fun signal => decide (utf16Length signal ≤ 64))

inductive RecoveryMode where
  | replay
  | baseline
  deriving DecidableEq

inductive PartStatus where
  | written
  | notSent
  | partlyWritten
  | unknown
  deriving DecidableEq

structure InputPart where
  requestedBytes : Nat
  status : PartStatus

structure InputReceipt where
  text : InputPart
  submit : Option InputPart

structure PipeResult where
  worker : WorkerRef
  run : RunRef
  requestId : String
  commandType : CommandType
  outcome : Outcome
  recoveryMode : Option RecoveryMode
  operationId : Option String
  atSeq : Option Nat
  inputSeq : Option Nat
  input : Option InputReceipt
  writtenBytes : Option Nat
  runStatus : Option RunRef

inductive Reply where
  | result (result : PipeResult)
  | error (error : PipeError)

def Reply.worker : Reply → WorkerRef
  | .result value => value.worker
  | .error value => value.worker

def Reply.run : Reply → RunRef
  | .result value => value.run
  | .error value => value.run

def Reply.requestId : Reply → String
  | .result value => value.requestId
  | .error value => value.requestId

def Reply.commandType : Reply → CommandType
  | .result value => value.commandType
  | .error value => value.commandType

def validatePipeReadiness (hello : Hello) (ready : Ready) : Bool :=
  (validateEffectiveBudgets hello.effectiveBudgets).isSome &&
    (validateEffectiveBudgets ready.effectiveBudgets).isSome && sameWorkerRef hello.worker ready.worker &&
    hello.pipeVersion == ready.pipeVersion && hello.effectiveBudgets.entries == ready.effectiveBudgets.entries

def resultFits (command : PipeCommand) (result : PipeResult) : Bool :=
  let accepted := result.outcome == .accepted
  let recovery := command.type == .subscribe || command.type == .recover
  !(recovery && accepted && (result.recoveryMode.isNone || result.atSeq.isNone)) &&
    !(!recovery && result.recoveryMode.isSome) && !(recovery && !accepted && result.recoveryMode.isSome) &&
    (match command.body with
      | .subscribe _ atSeq => !(accepted && decide (result.atSeq.getD 0 < atSeq))
      | .recover _ appliedSeq =>
        !(accepted && (result.recoveryMode == some .replay && appliedSeq.isNone ||
          appliedSeq.any (fun applied => decide (result.atSeq.getD 0 < applied))))
      | .programmaticInput operationId textBytes submit =>
        match result.input with
        | none => false
        | some input =>
          result.operationId == some operationId && input.text.requestedBytes == textBytes &&
            input.submit.isSome == submit &&
            accepted == (input.text.status == .written && input.submit.all (fun part => part.status == .written))
      | .spawn operationId _ _ => result.operationId == some operationId
      | .stop operationId => result.operationId == some operationId
      | .input inputSeq => result.inputSeq == some inputSeq && !(accepted && result.writtenBytes.isNone)
      | .status => !(accepted && result.runStatus.isNone)
      | _ => true) &&
    result.runStatus.all (fun run => sameRunRef command.run run)

def validatePipeResultForCommand (command : PipeCommand) (reply : Reply) : Bool :=
  sameWorkerRef command.worker reply.worker && sameRunRef command.run reply.run &&
    command.requestId == reply.requestId && command.type == reply.commandType &&
    (match reply with
      | .result value => resultFits command value
      | .error _ => true)

def errorFor (worker : WorkerRef) (command : PipeCommand) (error : DomainError) : PipeError where
  worker := worker
  run := command.run
  requestId := command.requestId
  commandType := command.type
  error := error

end Cove.Protocol.Pipe
