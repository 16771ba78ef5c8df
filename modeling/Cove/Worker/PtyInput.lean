import Cove.Worker.RetainedBytes

/-!
The native input of a worker's terminals. Every run has a controller of its own with a budget of its own; a second
budget is shared by all runs of the worker, and a retained-byte lease may be taken as well. The native writer, the
consumer of a settlement and the observer of faults are called from within a controller and may enter any controller
again, so the controllers of a worker are one machine with a stack of what is left to do.
-/

namespace Cove.Worker.PtyInput
open Worker.RetainedBytes

inductive NativeInputOrigin where
  | user
  | query
  | focus
  deriving DecidableEq

inductive BoundedWriteRejectionReason where
  | notEnabled
  | closed
  | error
  | empty
  | invalidData
  | byteLimit
  | taskLimit
  | ticketExhausted
  deriving DecidableEq

inductive NativeInputRejectionReason where
  | empty
  | invalidBytes
  | invalidCallback
  | fenced
  | ptyByteLimit
  | ptyTaskLimit
  | factoryByteLimit
  | factoryTaskLimit
  | workerByteLimit
  | native (reason : BoundedWriteRejectionReason)
  deriving DecidableEq

inductive UnknownAdmission where
  | nativeCallThrew
  | nativeAdmissionInvalid
  deriving DecidableEq

inductive NativeInputAdmission where
  | accepted (ticket : Int) (byteLength : Nat) (origin : NativeInputOrigin)
  | rejected (reason : NativeInputRejectionReason)
  | unknown (reason : UnknownAdmission) (byteLength : Nat)
  deriving DecidableEq

inductive FaultReason where
  | nativeWriteThrew
  | nativeAdmissionInvalid
  | nativeSettlementInvalid
  | nativeSettlementDuplicate
  | nativeSettlementUnknown
  | settlementObserverThrew
  | retireInputFailed
  deriving DecidableEq

/-! ## Budgets -/

inductive BudgetRejection where
  | byteLimit
  | taskLimit

structure InputBudget where
  maxBytes : Int
  maxTasks : Int
  allocatedBytes : Int
  tasks : Int
  peakAllocatedBytes : Int
  peakTasks : Int

namespace InputBudget

def new (maxBytes maxTasks : Int) : InputBudget := ⟨maxBytes, maxTasks, 0, 0, 0, 0⟩

def reserve (budget : InputBudget) (byteLength : Nat) : Except BudgetRejection InputBudget :=
  if budget.tasks ≥ budget.maxTasks then .error .taskLimit
  else if byteLength > budget.maxBytes - budget.allocatedBytes then .error .byteLimit
  else
    .ok { budget with
      allocatedBytes := budget.allocatedBytes + byteLength
      tasks := budget.tasks + 1
      peakAllocatedBytes := max budget.peakAllocatedBytes (budget.allocatedBytes + byteLength)
      peakTasks := max budget.peakTasks (budget.tasks + 1) }

def release (budget : InputBudget) (byteLength : Nat) (released : Bool) : InputBudget :=
  if released then budget
  else { budget with allocatedBytes := budget.allocatedBytes - byteLength, tasks := budget.tasks - 1 }

end InputBudget

/-! ## Values of the native side -/

/-- A JavaScript string, as its UTF-16 code units. -/
abbrev Text := List UInt16

def text (literal : String) : Text := literal.toList.map (fun char => char.toNat.toUInt16)

/-- A value of the native side. Numbers that are not whole are among the others: no check takes them. -/
inductive Value where
  | undefined
  | bool (value : Bool)
  | number (value : Int)
  | string (value : Text)
  | other
  deriving DecidableEq

inductive Read where
  | value (value : Value)
  | threw

def BoundedWriteRejectionReason.text : BoundedWriteRejectionReason → Text
  | .notEnabled => PtyInput.text "not-enabled"
  | .closed => PtyInput.text "closed"
  | .error => PtyInput.text "error"
  | .empty => PtyInput.text "empty"
  | .invalidData => PtyInput.text "invalid-data"
  | .byteLimit => PtyInput.text "byte-limit"
  | .taskLimit => PtyInput.text "task-limit"
  | .ticketExhausted => PtyInput.text "ticket-exhausted"

/-- Only a limit that was reached is a rejection a controller expects. -/
def BoundedWriteRejectionReason.unexpected : BoundedWriteRejectionReason → Bool
  | .byteLimit | .taskLimit => false
  | _ => true

def nativeRejections : List BoundedWriteRejectionReason :=
  [.notEnabled, .closed, .error, .empty, .invalidData, .byteLimit, .taskLimit, .ticketExhausted]

def maxSettlementCodeBytes : Nat := 32
def maxSettlementMessageBytes : Nat := 128

def safeCount? : Value → Option Int
  | .number value => if isSafeInteger value && value ≥ 0 then some value else none
  | _ => none

def safeTicket? : Value → Option Int
  | .number value => if isSafeInteger value && value > 0 then some value else none
  | _ => none

inductive RawAdmission where
  | notObject
  | object (accepted ticket byteLength reason : Read)

inductive ParsedAdmission where
  | accepted (ticket : Int)
  | rejected (reason : BoundedWriteRejectionReason)
  | invalid
  | threw
  deriving DecidableEq

/-- The answer of the native call. Each field is read at most once and only where the fields before it call for it. -/
def parseAdmission (value : RawAdmission) (byteLength : Nat) : ParsedAdmission :=
  match value with
  | .notObject => .invalid
  | .object accepted ticket length reason =>
    match accepted with
    | .threw => .threw
    | .value (.bool true) =>
      match ticket with
      | .threw => .threw
      | .value ticket =>
        match safeTicket? ticket with
        | none => .invalid
        | some ticket =>
          match length with
          | .threw => .threw
          | .value length => if length = .number byteLength then .accepted ticket else .invalid
    | .value (.bool false) =>
      match reason with
      | .threw => .threw
      | .value (.string reason) =>
        match nativeRejections.find? (fun known => known.text = reason) with
        | some reason => .rejected reason
        | none => .invalid
      | .value _ => .invalid
    | .value _ => .invalid

inductive NativeStatus where
  | written
  | error
  | closed
  deriving DecidableEq

def nativeStatus? : Value → Option NativeStatus
  | .string value =>
    if value = text "written" then some .written
    else if value = text "error" then some .error
    else if value = text "closed" then some .closed
    else none
  | _ => none

/-- The first printable ASCII characters of a code, or nothing if one of them is not printable. -/
def asciiLoop : Text → Nat → Option Text
  | [], _ => some []
  | _ :: _, 0 => some []
  | code :: rest, room + 1 =>
    if code < 0x20 || code > 0x7e then none else (asciiLoop rest room).map (code :: ·)

def boundedAsciiCode (value : Text) : Option Text := asciiLoop value maxSettlementCodeBytes

def isHighSurrogate (code : UInt16) : Bool := 0xd800 ≤ code && code ≤ 0xdbff
def isLowSurrogate (code : UInt16) : Bool := 0xdc00 ≤ code && code ≤ 0xdfff

def width (scalar : Nat) : Nat :=
  if scalar < 0x80 then 1 else if scalar < 0x800 then 2 else if scalar < 0x10000 then 3 else 4

/-- A surrogate that stands alone becomes the replacement character. -/
def scalarOf (original : Nat) : Nat := if 0xd800 ≤ original ∧ original ≤ 0xdfff then 0xfffd else original

def pairOf (high low : UInt16) : Nat := 0x10000 + (high.toNat - 0xd800) * 0x400 + (low.toNat - 0xdc00)

/-- The scalars that fit after so many bytes. -/
def messageLoop : Text → Nat → List Nat
  | [], _ => []
  | [code], bytes =>
    let scalar := scalarOf code.toNat
    if bytes + width scalar > maxSettlementMessageBytes then [] else [scalar]
  | code :: next :: rest, bytes =>
    if isHighSurrogate code && isLowSurrogate next then
      let scalar := pairOf code next
      if bytes + width scalar > maxSettlementMessageBytes then []
      else scalar :: messageLoop rest (bytes + width scalar)
    else
      let scalar := scalarOf code.toNat
      if bytes + width scalar > maxSettlementMessageBytes then []
      else scalar :: messageLoop (next :: rest) (bytes + width scalar)

def boundedUtf8Message (value : Text) : List Nat := messageLoop value 0

inductive RawSettlement where
  | notObject
  | object (ticket status originalBytes writtenBytes remainingBytes errorCode errorMessage : Read)

structure Capture where
  ticket : Int
  status : NativeStatus
  originalBytes : Int
  writtenBytes : Int
  remainingBytes : Int
  errorCode : Option Text
  errorMessage : Option (List Nat)
  deriving DecidableEq

inductive CapturedSettlement where
  | invalid (ticket : Option Int)
  | captured (fields : Capture)
  deriving DecidableEq

def CapturedSettlement.ticket? : CapturedSettlement → Option Int
  | .invalid ticket => ticket
  | .captured fields => some fields.ticket

/-- A text field that may be left out; `none` is a field of another type. -/
def optionalText? : Value → Option (Option Text)
  | .undefined => some none
  | .string value => some (some value)
  | _ => none

/-- The fields are read once, in the order of the source; what throws leaves the ticket read before it. -/
def captureSettlement : RawSettlement → CapturedSettlement
  | .notObject => .invalid none
  | .object .threw _ _ _ _ _ _ => .invalid none
  | .object (.value ticket) (.value status) (.value originalBytes) (.value writtenBytes) (.value remainingBytes)
      (.value errorCode) (.value errorMessage) =>
    match safeTicket? ticket, nativeStatus? status, safeCount? originalBytes, safeCount? writtenBytes,
      safeCount? remainingBytes, optionalText? errorCode, optionalText? errorMessage with
    | some ticket, some status, some originalBytes, some writtenBytes, some remainingBytes, some errorCode,
        some errorMessage =>
      .captured
        { ticket, status, originalBytes, writtenBytes, remainingBytes
          errorCode := errorCode.bind boundedAsciiCode
          errorMessage := errorMessage.map boundedUtf8Message }
    | ticket, _, _, _, _, _, _ => .invalid ticket
  | .object (.value ticket) _ _ _ _ _ _ => .invalid (safeTicket? ticket)

inductive SettlementStatus where
  | written
  | error
  | closed
  | invalid
  deriving DecidableEq

def NativeStatus.settlement : NativeStatus → SettlementStatus
  | .written => .written
  | .error => .error
  | .closed => .closed

inductive NativeInputSettlement where
  | written (ticket originalBytes writtenBytes : Int)
  | unknown (ticket : Int) (status : SettlementStatus) (originalBytes writtenBytes remainingBytes : Int)
      (errorCode : Option Text) (errorMessage : Option (List Nat))
  deriving DecidableEq

def invalidSettlement (ticket : Int) (byteLength : Nat) : NativeInputSettlement :=
  .unknown ticket .invalid byteLength 0 byteLength none none

def settlementResult (value : CapturedSettlement) (ticket : Int) (byteLength : Nat) : NativeInputSettlement :=
  match value with
  | .invalid _ => invalidSettlement ticket byteLength
  | .captured fields =>
    let valid := fields.ticket = ticket ∧ fields.originalBytes = byteLength ∧
      fields.writtenBytes ≤ byteLength ∧ fields.remainingBytes ≤ byteLength ∧
      fields.writtenBytes + fields.remainingBytes = byteLength
    if ¬valid then invalidSettlement ticket byteLength
    else if fields.status = .written ∧ fields.writtenBytes = byteLength ∧ fields.remainingBytes = 0 then
      .written ticket byteLength fields.writtenBytes
    else
      .unknown ticket fields.status.settlement byteLength fields.writtenBytes fields.remainingBytes fields.errorCode
        fields.errorMessage

def NativeInputSettlement.fault? : NativeInputSettlement → Option FaultReason
  | .written .. => none
  | .unknown _ .invalid .. => some .nativeSettlementInvalid
  | .unknown .. => some .nativeSettlementUnknown

/-! ## Controllers -/

structure Controller where
  fenced : Bool
  retired : Bool
  localBudget : InputBudget

/-- What a submission holds: the run's budget, the worker's budget, the retained bytes. -/
inductive Account where
  | run
  | worker
  | retained
  deriving DecidableEq

/-- A submission that was handed to the native writer, with the variables its callbacks close over. -/
structure Submission where
  controller : Nat
  byteLength : Nat
  origin : NativeInputOrigin
  localReleased : Bool
  sharedReleased : Bool
  retained : Option Bool
  released : Bool
  admission : Option Int
  earlySettlement : Option CapturedSettlement
  uncertainCall : Bool
  settlementCallbacks : Nat
  settlementHandled : Bool

def Submission.held (submission : Submission) : List Account :=
  (if submission.localReleased then [] else [.run]) ++ (if submission.sharedReleased then [] else [.worker]) ++
    (if submission.retained = some false then [.retained] else [])

/-- What is left to do, topmost first. A call into code outside the controllers is waited for. -/
inductive Task where
  | fault (controller : Nat) (reason : FaultReason)
  | reporting (controller : Nat)
  | retireWriter (controller : Nat)
  | disposing (controller : Nat)
  | writing (id : Nat)
  | parsing (id : Nat)
  | capturing (id : Nat)
  | handle (id : Nat) (value : CapturedSettlement)
  | observe (id : Nat) (result : NativeInputSettlement)
  | observing (id : Nat)
  | finish (id : Nat)
  | answer (id : Nat) (admission : NativeInputAdmission)
  deriving DecidableEq

def Task.waits : Task → Bool
  | .reporting _ | .disposing _ | .writing _ | .parsing _ | .capturing _ | .observing _ => true
  | _ => false

inductive Act where
  | entered (controller id : Nat)
  | returned (id : Nat) (outcome : ParsedAdmission)
  | called (id : Nat)
  | captured (id : Nat) (value : CapturedSettlement)
  | reported (id : Nat) (result : NativeInputSettlement)
  | released (account : Account) (id : Nat)
  | fault (controller : Nat) (reason : FaultReason)
  | answered (id : Nat) (admission : NativeInputAdmission)
  | refused (controller : Nat) (reason : NativeInputRejectionReason)
  deriving DecidableEq

structure Inputs where
  controllers : Nat → Controller
  sharedBudget : InputBudget
  submissions : List Submission
  stack : List Task
  trace : List Act

structure Limits where
  run : Nat → Int × Int
  sharedBytes : Int
  sharedTasks : Int

def Inputs.new (limits : Limits) : Inputs where
  controllers := fun run => ⟨false, false, .new (limits.run run).1 (limits.run run).2⟩
  sharedBudget := .new limits.sharedBytes limits.sharedTasks
  submissions := []
  stack := []
  trace := []

structure Request where
  bytes : Option Nat
  origin : NativeInputOrigin
  callback : Bool

inductive Grant where
  | noAccount
  | refused
  | granted

namespace Inputs
variable (inputs : Inputs)

variable (run : Nat)

def setController (controller : Controller) : Inputs :=
  { inputs with controllers := Function.update inputs.controllers run controller }

variable (id : Nat)

def setSubmission (submission : Submission) : Inputs :=
  { inputs with submissions := inputs.submissions.set id submission }

def push (tasks : List Task) : Inputs := { inputs with stack := tasks ++ inputs.stack }

def record (acts : List Act) : Inputs := { inputs with trace := inputs.trace ++ acts }

def faultAndFence (reason : FaultReason) : Inputs :=
  ((inputs.setController run { inputs.controllers run with fenced := true }).record [.fault run reason]).push
    [.reporting run, .retireWriter run]

def retireWriter : Inputs :=
  if (inputs.controllers run).retired then inputs
  else (inputs.setController run { inputs.controllers run with retired := true }).push [.disposing run]

def disposed (answer : Option Bool) : Inputs :=
  if answer = some true then inputs
  else (inputs.record [.fault run .retireInputFailed]).push [.reporting run]

def retire : Inputs :=
  (inputs.setController run { inputs.controllers run with fenced := true }).push [.retireWriter run]

def markWriterClosed : Inputs := inputs.setController run { inputs.controllers run with fenced := true }

/-- The release of a submission: its own flag first, then each of the three. -/
def release (submission : Submission) : Inputs :=
  if submission.released then inputs
  else
    let run := submission.controller
    let controller := inputs.controllers run
    let localBudget := controller.localBudget.release submission.byteLength submission.localReleased
    { inputs with
      controllers := Function.update inputs.controllers run { controller with localBudget }
      sharedBudget := inputs.sharedBudget.release submission.byteLength submission.sharedReleased
      submissions := inputs.submissions.set id
        { submission with
          released := true, localReleased := true, sharedReleased := true
          retained := submission.retained.map (fun _ => true) }
      trace := inputs.trace ++ submission.held.map (fun account => .released account id) }

def refuse (reason : NativeInputRejectionReason) : Inputs := inputs.record [.refused run reason]

def enter (run byteLength : Nat) (origin : NativeInputOrigin) (retained : Option Bool)
    (localBudget sharedBudget : InputBudget) : Inputs :=
  { inputs with
    controllers := Function.update inputs.controllers run { inputs.controllers run with localBudget }
    sharedBudget
    submissions := inputs.submissions ++
      [{ controller := run, byteLength, origin, retained, localReleased := false, sharedReleased := false
         released := false, admission := none, earlySettlement := none, uncertainCall := false
         settlementCallbacks := 0, settlementHandled := false }]
    stack := .writing inputs.submissions.length :: inputs.stack
    trace := inputs.trace ++ [.entered run inputs.submissions.length] }

def submit (request : Request) (grant : Grant) : Inputs :=
  match request.bytes with
  | none => inputs.refuse run .invalidBytes
  | some byteLength =>
    if byteLength = 0 then inputs.refuse run .empty
    else if !request.callback then inputs.refuse run .invalidCallback
    else if (inputs.controllers run).fenced then inputs.refuse run .fenced
    else
      match (inputs.controllers run).localBudget.reserve byteLength with
      | .error .byteLimit => inputs.refuse run .ptyByteLimit
      | .error .taskLimit => inputs.refuse run .ptyTaskLimit
      | .ok charged =>
        -- A reservation that is given back at once leaves its mark on the peaks.
        let giveBack := inputs.setController run
          { inputs.controllers run with localBudget := charged.release byteLength false }
        match inputs.sharedBudget.reserve byteLength with
        | .error .byteLimit => giveBack.refuse run .factoryByteLimit
        | .error .taskLimit => giveBack.refuse run .factoryTaskLimit
        | .ok shared =>
          match grant with
          | .refused =>
            { giveBack with sharedBudget := shared.release byteLength false }.refuse run .workerByteLimit
          | .noAccount => inputs.enter run byteLength request.origin none charged shared
          | .granted => inputs.enter run byteLength request.origin (some false) charged shared

def nativeSettlement : Inputs :=
  match inputs.submissions[id]? with
  | none => inputs
  | some submission =>
    let called := (inputs.setSubmission id { submission with
      settlementCallbacks := submission.settlementCallbacks + 1 }).record [.called id]
    if submission.settlementCallbacks + 1 ≠ 1 then
      called.push [.fault submission.controller .nativeSettlementDuplicate]
    else called.push [.capturing id]

def captured (raw : RawSettlement) : Inputs :=
  match inputs.submissions[id]? with
  | none => inputs
  | some submission =>
    let value := captureSettlement raw
    let seen := inputs.record [.captured id value]
    match submission.admission with
    | some _ => seen.push [.handle id value]
    | none =>
      match submission.uncertainCall, value.ticket? with
      | true, some ticket =>
        (seen.setSubmission id { submission with earlySettlement := some value, admission := some ticket }).push
          [.handle id value]
      | _, _ => seen.setSubmission id { submission with earlySettlement := some value }

def handleSettlement (value : CapturedSettlement) : Inputs :=
  match inputs.submissions[id]? with
  | none => inputs
  | some submission =>
    match submission.admission with
    | none => inputs
    | some ticket =>
      if submission.settlementHandled then inputs
      else
        let result := settlementResult value ticket submission.byteLength
        (inputs.setSubmission id { submission with settlementHandled := true }).push
          ((result.fault?.map (.fault submission.controller)).toList ++ [.observe id result])

def observed (threw : Bool) : Inputs :=
  match inputs.submissions[id]? with
  | none => inputs
  | some submission =>
    inputs.push ((if threw then [.fault submission.controller .settlementObserverThrew] else []) ++ [.finish id])

def finish : Inputs :=
  match inputs.submissions[id]? with
  | none => inputs
  | some submission =>
    let cleared := { submission with earlySettlement := none }
    (inputs.setSubmission id cleared).release id cleared

def writeThrew : Inputs :=
  match inputs.submissions[id]? with
  | none => inputs
  | some submission =>
    let uncertain := inputs.record [.returned id .threw]
    match submission.earlySettlement, submission.earlySettlement.bind CapturedSettlement.ticket? with
    | some early, some ticket =>
      (uncertain.setSubmission id { submission with uncertainCall := true, admission := some ticket }).push
        [.handle id early, .answer id (.accepted ticket submission.byteLength submission.origin)]
    | _, _ =>
      (uncertain.setSubmission id { submission with uncertainCall := true }).push
        [.fault submission.controller .nativeWriteThrew,
          .answer id (.unknown .nativeCallThrew submission.byteLength)]

def admitted (raw : RawAdmission) : Inputs :=
  match inputs.submissions[id]? with
  | none => inputs
  | some submission =>
    let outcome := parseAdmission raw submission.byteLength
    let parsed := inputs.record [.returned id outcome]
    let invalid := [.fault submission.controller .nativeAdmissionInvalid,
      .answer id (.unknown .nativeAdmissionInvalid submission.byteLength)]
    match outcome, submission.earlySettlement with
    | .threw, _ => (parsed.setSubmission id { submission with uncertainCall := true }).push invalid
    | .accepted ticket, early =>
      (parsed.setSubmission id { submission with admission := some ticket }).push
        ((early.map (.handle id)).toList ++ [.answer id (.accepted ticket submission.byteLength submission.origin)])
    | .rejected reason, none =>
      (parsed.release id submission).push
        ((if reason.unexpected then [.fault submission.controller .nativeAdmissionInvalid] else []) ++
          [.answer id (.rejected (.native reason))])
    | _, early =>
      match early, early.bind CapturedSettlement.ticket? with
      | some early, some ticket =>
        (parsed.setSubmission id { submission with uncertainCall := true, admission := some ticket }).push
          (.handle id early :: invalid)
      | _, _ => (parsed.setSubmission id { submission with uncertainCall := true }).push invalid

end Inputs

inductive Return where
  | wrote (threw : Bool)
  | parsed (raw : RawAdmission)
  | captured (raw : RawSettlement)
  | observed (threw : Bool)
  /-- Whether the observer of a fault threw makes no difference. -/
  | reported
  | disposed (answer : Option Bool)

inductive Event where
  | submit (run : Nat) (request : Request) (grant : Grant)
  | settle (id : Nat)
  | retire (run : Nat)
  | markWriterClosed (run : Nat)
  | returns (outcome : Return)
  | proceed

namespace Inputs
variable (inputs : Inputs)

def outside : Bool :=
  match inputs.stack with
  | [] => true
  | task :: _ => task.waits

def resume (task : Task) (outcome : Return) (rest : List Task) : Inputs :=
  let popped := { inputs with stack := rest }
  match task, outcome with
  | .writing id, .wrote true => popped.writeThrew id
  | .writing id, .wrote false => popped.push [.parsing id]
  | .parsing id, .parsed raw => popped.admitted id raw
  | .capturing id, .captured raw => popped.captured id raw
  | .observing id, .observed threw => popped.observed id threw
  | .reporting _, .reported => popped
  | .disposing run, .disposed answer => popped.disposed run answer
  | _, _ => inputs

def advance (task : Task) (rest : List Task) : Inputs :=
  let popped := { inputs with stack := rest }
  match task with
  | .fault run reason => popped.faultAndFence run reason
  | .retireWriter run => popped.retireWriter run
  | .handle id value => popped.handleSettlement id value
  | .observe id result => (popped.record [.reported id result]).push [.observing id]
  | .finish id => popped.finish id
  | .answer id admission => popped.record [.answered id admission]
  | _ => inputs

/-- An event that cannot happen where the worker stands changes nothing. -/
def step : Event → Inputs
  | .submit run request grant => if inputs.outside then inputs.submit run request grant else inputs
  | .settle id => if inputs.outside then inputs.nativeSettlement id else inputs
  | .retire run => if inputs.outside then inputs.retire run else inputs
  | .markWriterClosed run => if inputs.outside then inputs.markWriterClosed run else inputs
  | .returns outcome =>
    match inputs.stack with
    | [] => inputs
    | task :: rest => inputs.resume task outcome rest
  | .proceed =>
    match inputs.stack with
    | [] => inputs
    | task :: rest => inputs.advance task rest

end Inputs

end Cove.Worker.PtyInput
