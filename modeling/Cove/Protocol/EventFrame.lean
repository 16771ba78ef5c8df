import Cove.Base.Json
import Cove.Base.Utf16
import Cove.Protocol.Recovery

/-!
The frames that carry a run's facts over the pipe, and the commands those facts come from. Metadata is written as
JSON and has to fit into `maxMetadataBytes`.
-/

namespace Cove.Protocol.EventFrame
open Base.Json Base.Utf16 Protocol.Frame Protocol.Identity Protocol.Recovery
open List Bool Option
open Protocol.Terminal

def pipeLane : UInt8 := 4
def pipeRevision : Nat := 2

def isHexDigit (char : Char) : Bool :=
  char.isDigit || (decide ('a' ≤ char) && decide (char ≤ 'f')) || (decide ('A' ≤ char) && decide (char ≤ 'F'))

/-- Three groups of four hexadecimal digits with slashes between them. -/
def rgb16 (text : String) : Bool :=
  match text.toList with
  | [a, b, c, d, first, e, f, g, h, second, i, j, k, l] =>
    first == '/' && second == '/' && [a, b, c, d, e, f, g, h, i, j, k, l].all isHexDigit
  | _ => false

variable (appearance : Appearance)

def appearanceSchema : Bool :=
  appearance.foreground.all rgb16 && appearance.background.all rgb16 && decide (appearance.palette.length ≤ 256) &&
    appearance.palette.all (fun entry => decide (entry.1 ≤ 255) && rgb16 entry.2)

def validateAppearance : Bool :=
  appearanceSchema appearance && decide (appearance.palette.map Prod.fst).Nodup

variable (run : RunRef)

def runJson : Value :=
  .obj [("serverId", .str run.serverId), ("relayInstanceId", .str run.relayInstanceId), ("runId", .str run.runId)]

variable (worker : WorkerRef)

def workerJson : Value :=
  .obj [("serverId", .str worker.serverId), ("relayInstanceId", .str worker.relayInstanceId),
    ("workerId", .str worker.workerId), ("workerIncarnationId", .str worker.workerIncarnationId)]

variable (connection : ConnectionRef)

def connectionJson : Value :=
  .obj [("connectionId", .str connection.connectionId), ("generation", .num connection.generation)]

variable (subscription : SubscriptionRef)

def subscriptionJson : Value :=
  .obj [("run", runJson subscription.run), ("connection", connectionJson subscription.connection),
    ("subscriptionId", .str subscription.subscriptionId), ("viewId", .str subscription.viewId)]

variable (geometry : Geometry)

def geometryJson : Value := .obj [("cols", .num geometry.cols), ("rows", .num geometry.rows)]

def holderJson : Option ControlHolder → Value
  | none => .null
  | some holder =>
    .obj [("connection", connectionJson holder.connection), ("viewId", .str holder.viewId),
      ("subscriptionId", .str holder.subscriptionId)]

def paletteEntryJson (entry : Nat × String) : Value := .obj [("index", .num entry.1), ("rgb", .str entry.2)]

def optionalMember (key : String) (value : Option Value) : List (String × Value) := (value.map (fun json => (key, json))).toList

def appearanceJson : Value :=
  .obj (optionalMember "foreground" (appearance.foreground.map .str) ++
    optionalMember "background" (appearance.background.map .str) ++
    [("palette", .arr (appearance.palette.map paletteEntryJson))])

def runEventJson : RunEvent → Value
  | .output run seq => .obj [("type", .str "output"), ("run", runJson run), ("seq", .num seq)]
  | .resize run seq geometry requiresBaseline =>
    .obj [("type", .str "resize"), ("run", runJson run), ("seq", .num seq), ("geometry", geometryJson geometry),
      ("requiresBaseline", .bool requiresBaseline)]
  | .control run seq epoch holder geometry =>
    .obj [("type", .str "control"), ("run", runJson run), ("seq", .num seq), ("epoch", .num epoch),
      ("holder", holderJson holder), ("geometry", geometryJson geometry)]
  | .appearance run seq appearance =>
    .obj [("type", .str "appearance"), ("run", runJson run), ("seq", .num seq),
      ("appearance", appearanceJson appearance)]
  | .exit run seq exitCode signal =>
    .obj [("type", .str "exit"), ("run", runJson run), ("seq", .num seq),
      ("exitCode", (exitCode.map .num).getD .null), ("signal", (signal.map .str).getD .null)]

def eventRun : RunEvent → RunRef
  | .output run _ | .resize run _ _ _ | .control run _ _ _ _ | .appearance run _ _ | .exit run _ _ _ => run

def runEventSchema (event : RunEvent) : Bool :=
  (eventRun event).valid && decide (1 ≤ event.seq) && sequence event.seq &&
    (match event with
      | .output _ _ => true
      | .resize _ _ geometry _ => validGeometry geometry
      | .control _ _ epoch holder geometry =>
        decide (1 ≤ epoch) && sequence epoch && holder.all validControlHolder && validGeometry geometry
      | .appearance _ _ appearance => appearanceSchema appearance
      | .exit _ _ _ signal => signal.all (fun name => decide (utf16Length name ≤ 64)))

/-- A terminal event and what it carries. Only one that carries a run event is framed here. -/
structure PipeEvent (Terminal : Type) where
  worker : WorkerRef
  run : RunRef
  subscription : Option SubscriptionRef
  terminal : Terminal
  deriving DecidableEq

variable (event : PipeEvent RunEvent)

def pipeEventJson : Value :=
  .obj ([("type", .str "terminal-event"), ("worker", workerJson event.worker), ("run", runJson event.run)] ++
    optionalMember "subscription" (event.subscription.map subscriptionJson) ++
    [("terminal", runEventJson event.terminal)])

/-- At most 4096 tokens, at most 16 levels down. The keys the schemas name are all short. -/
def boundedJsonStructure (value : Value) : Bool := decide (tokens value ≤ 4096) && decide (depth value ≤ 16)

def pipeEventSchema : Bool :=
  event.worker.valid && event.run.valid && event.subscription.all SubscriptionRef.valid &&
    runEventSchema event.terminal

def validPayload (payload : Bytes) : Bool :=
  match event.terminal with
  | .output _ _ => decide (1 ≤ payload.length)
  | _ => decide (payload.length = 0)

/-- Every run event is delivered to one subscription of its own run. -/
def validIdentity : Bool :=
  workerMatchesRun event.worker event.run &&
    event.subscription.all (fun subscription => sameRunRef event.run subscription.run) &&
    sameRunRef event.run (eventRun event.terminal) && event.subscription.isSome &&
    (match event.terminal with
      | .appearance _ _ appearance => validateAppearance appearance
      | _ => true)

def validatePipeFrame (metadata payload : Bytes) : Bool :=
  decide (metadata.length ≤ maxMetadataBytes) && decide (payload.length ≤ maxPayloadBytes) &&
    boundedJsonStructure (pipeEventJson event) && pipeEventSchema event && validPayload event payload &&
    validIdentity event

/-- What the worker does with an event before it looks for room in its queue: nothing is enqueued unless the frame
is valid and can be encoded. -/
def encodeEvent (payload : Bytes) : Option Bytes :=
  let metadata := utf8 (stringify (pipeEventJson event))
  if validatePipeFrame event metadata payload then
    (encodeFrame pipeLane pipeRevision FrameKind.event.code metadata payload).toOption
  else none

/-- The commands that make facts of control, of the screen's size and of its colours. -/
inductive FactCommand where
  | setControl (expectedEpoch nextEpoch : Nat) (holder : Option ControlHolder) (geometry : Geometry)
      (appearance : Option Appearance)
  | resize (subscription : SubscriptionRef) (epoch : Nat) (geometry : Geometry)
  | appearance (subscription : SubscriptionRef) (epoch : Nat) (appearance : Appearance)

structure Addressed where
  worker : WorkerRef
  run : RunRef
  requestId : String
  command : FactCommand

variable (addressed : Addressed)

def addressedJson : Value :=
  let common (type : String) := [("type", .str type), ("worker", workerJson addressed.worker),
    ("run", runJson addressed.run), ("requestId", Value.str addressed.requestId)]
  match addressed.command with
  | .setControl expectedEpoch nextEpoch holder geometry appearance =>
    .obj (common "set-control" ++ [("expectedEpoch", .num expectedEpoch), ("nextEpoch", .num nextEpoch),
      ("holder", holderJson holder), ("geometry", geometryJson geometry)] ++
      optionalMember "appearance" (appearance.map appearanceJson))
  | .resize subscription epoch geometry =>
    .obj (common "resize" ++ [("subscription", subscriptionJson subscription), ("epoch", .num epoch),
      ("geometry", geometryJson geometry)])
  | .appearance subscription epoch appearance =>
    .obj (common "appearance" ++ [("subscription", subscriptionJson subscription), ("epoch", .num epoch),
      ("appearance", appearanceJson appearance)])

def commandSchema : Bool :=
  addressed.worker.valid && addressed.run.valid && opaqueId addressed.requestId &&
    (match addressed.command with
      | .setControl expectedEpoch nextEpoch holder geometry appearance =>
        sequence expectedEpoch && decide (1 ≤ nextEpoch) && sequence nextEpoch && holder.all validControlHolder &&
          validGeometry geometry && appearance.all appearanceSchema
      | .resize subscription epoch geometry =>
        subscription.valid && decide (1 ≤ epoch) && sequence epoch && validGeometry geometry
      | .appearance subscription epoch appearance =>
        subscription.valid && decide (1 ≤ epoch) && sequence epoch && appearanceSchema appearance)

def commandIdentity : Bool :=
  workerMatchesRun addressed.worker addressed.run &&
    (match addressed.command with
      | .setControl expectedEpoch nextEpoch holder _ appearance =>
        (holder.isNone || (decide (expectedEpoch ≠ maxSafeInteger) && decide (nextEpoch = expectedEpoch + 1))) &&
          appearance.all validateAppearance
      | .resize subscription _ _ => sameRunRef addressed.run subscription.run
      | .appearance subscription _ appearance =>
        sameRunRef addressed.run subscription.run && validateAppearance appearance)

/-- The checks on a command in the encoding the runtime gives it. -/
def validateCommandFrame : Bool :=
  decide ((utf8 (stringify (addressedJson addressed))).length ≤ maxMetadataBytes) &&
    boundedJsonStructure (addressedJson addressed) && commandSchema addressed && commandIdentity addressed

/-! No event is deeper than its schemas. -/

theorem depth_runJson : depth (runJson run) = 1 := by
  simp [runJson]

theorem depth_workerJson : depth (workerJson worker) = 1 := by
  simp [workerJson]

theorem depth_connectionJson : depth (connectionJson connection) = 1 := by
  simp [connectionJson]

theorem depth_subscriptionJson : depth (subscriptionJson subscription) = 2 := by
  simp [subscriptionJson, depth_runJson, depth_connectionJson]

theorem depth_geometryJson : depth (geometryJson geometry) = 1 := by
  simp [geometryJson]

theorem depth_holderJson (holder : Option ControlHolder) : depth (holderJson holder) ≤ 2 := by
  cases holder with
  | none => decide
  | some => simp [holderJson, depth_connectionJson]

theorem depth_palette (palette : List (Nat × String)) : depth (.arr (palette.map paletteEntryJson)) ≤ 2 := by
  apply itemDepth_le
  intro item member
  obtain ⟨entry, _, rfl⟩ := List.mem_map.mp member
  simp [paletteEntryJson]

theorem depth_optional_str (key : String) (text : Option String) :
    memberDepths (optionalMember key (text.map .str)) ≤ 1 := by
  cases text <;> simp [optionalMember]

theorem depth_appearanceJson : depth (appearanceJson appearance) ≤ 3 := by
  have palette := depth_palette appearance.palette
  have foreground := depth_optional_str "foreground" appearance.foreground
  have background := depth_optional_str "background" appearance.background
  simp only [appearanceJson, depth_obj, memberDepths_append, memberDepths_cons, memberDepths_nil] at palette ⊢
  omega

theorem depth_runEventJson (event : RunEvent) : depth (runEventJson event) ≤ 4 := by
  cases event with
  | output => simp [runEventJson, depth_runJson]
  | resize =>
    simp [runEventJson, depth_runJson, depth_geometryJson]
  | control _ _ _ holder =>
    have inner := depth_holderJson holder
    simp only [runEventJson, depth_obj, memberDepths_cons, memberDepths_nil, depth_str, depth_num, depth_runJson,
      depth_geometryJson]
    omega
  | appearance _ _ appearance =>
    have inner := depth_appearanceJson appearance
    simp only [runEventJson, depth_obj, memberDepths_cons, memberDepths_nil, depth_str, depth_num, depth_runJson]
    omega
  | exit _ _ exitCode signal =>
    cases exitCode <;> cases signal <;>
      simp [runEventJson, depth_runJson]

theorem depth_pipeEventJson : depth (pipeEventJson event) ≤ 5 := by
  have inner := depth_runEventJson event.terminal
  obtain ⟨worker, run, subscription, terminal⟩ := event
  cases subscription with
  | none =>
    simp only [pipeEventJson, optionalMember, map_none, toList_none, depth_str, depth_obj, memberDepths_append, memberDepths_nil,
      memberDepths_cons, depth_runJson, depth_workerJson] at inner ⊢
    omega
  | some =>
    simp only [pipeEventJson, optionalMember, map_some, toList_some, depth_str, depth_obj, memberDepths_append, memberDepths_nil,
      memberDepths_cons, depth_runJson, depth_workerJson, depth_subscriptionJson] at inner ⊢
    omega

theorem encodeEvent_eq_none {event : PipeEvent RunEvent} {payload : Bytes}
    (large : maxMetadataBytes < size (pipeEventJson event)) : encodeEvent event payload = none := by
  have written : (utf8 (stringify (pipeEventJson event))).length = size (pipeEventJson event) := length_utf8 _
  have invalid : validatePipeFrame event (utf8 (stringify (pipeEventJson event))) payload = false := by
    simp only [validatePipeFrame, written, Nat.not_le.mpr large, decide_false, Bool.false_and]
  unfold encodeEvent
  rw [if_neg (by rw [invalid]; exact Bool.false_ne_true)]

/-- Once the schemas are met, what is left of the checks is the size of the metadata. -/
theorem encodeEvent_isSome_iff {event : PipeEvent RunEvent} {payload : Bytes} (schema : pipeEventSchema event = true)
    (carried : validPayload event payload = true) (identity : validIdentity event = true)
    (small : payload.length ≤ maxPayloadBytes) :
    (encodeEvent event payload).isSome = true ↔ size (pipeEventJson event) ≤ maxMetadataBytes := by
  have shallow := depth_pipeEventJson event
  have few := tokens_le_size (pipeEventJson event)
  have some_byte := size_pos (pipeEventJson event)
  have written : (utf8 (stringify (pipeEventJson event))).length = size (pipeEventJson event) := length_utf8 _
  have limit : maxMetadataBytes = 4096 := rfl
  by_cases fits : size (pipeEventJson event) ≤ maxMetadataBytes
  · have bounded : boundedJsonStructure (pipeEventJson event) = true := by
      simp only [boundedJsonStructure, and_eq_true, decide_eq_true_eq]
      omega
    have valid : validatePipeFrame event (utf8 (stringify (pipeEventJson event))) payload = true := by
      simp only [validatePipeFrame, written, fits, small, bounded, schema, carried, identity, decide_true, Bool.and_self]
    have known : (FrameKind.ofCode? FrameKind.event.code).isNone = false := rfl
    have revision : ¬(pipeRevision < 1 ∨ pipeRevision > 255) := by decide
    have encodable : ¬(size (pipeEventJson event) < 1 ∨ size (pipeEventJson event) > maxMetadataBytes ∨
        payload.length > maxPayloadBytes) := by omega
    unfold encodeEvent
    rw [if_pos valid, encodeFrame, if_neg revision, known, written, if_neg encodable]
    simp [fits, Except.toOption]
  · rw [encodeEvent_eq_none (Nat.not_le.mp fits)]
    simp [fits]

/-! The sizes of the parts of an event. -/

def keySize (key : String) : Nat := byteLength (quote key)

def membersSize : List (String × Value) → Nat
  | [] => 0
  | (key, value) :: rest => keySize key + size value + 2 + membersSize rest

theorem size_members (member : String × Value) (rest : List (String × Value)) :
    size (.obj (member :: rest)) = 1 + membersSize (member :: rest) := by
  rw [size_obj (cons_ne_nil _ _)]
  congr 1
  induction member :: rest with
  | nil => rfl
  | cons head tail ih => rw [map_cons, sum_cons, ih]; rfl

theorem size_runJson :
    size (runJson run) = 41 + size (.str run.serverId) + size (.str run.relayInstanceId) + size (.str run.runId) := by
  simp +ground only [runJson, size_members, membersSize]
  omega

theorem size_workerJson :
    size (workerJson worker) = 67 + size (.str worker.serverId) + size (.str worker.relayInstanceId) +
      size (.str worker.workerId) + size (.str worker.workerIncarnationId) := by
  simp +ground only [workerJson, size_members, membersSize]
  omega

theorem size_connectionJson : size (connectionJson connection) =
      31 + size (.str connection.connectionId) + size (.num connection.generation) := by
  simp +ground only [connectionJson, size_members, membersSize]
  omega

theorem size_subscriptionJson : size (subscriptionJson subscription) =
      50 + size (runJson subscription.run) + size (connectionJson subscription.connection) +
        size (.str subscription.subscriptionId) + size (.str subscription.viewId) := by
  simp +ground only [subscriptionJson, size_members, membersSize]
  omega

theorem size_geometryJson :
    size (geometryJson geometry) = 17 + size (.num geometry.cols) + size (.num geometry.rows) := by
  simp +ground only [geometryJson, size_members, membersSize]
  omega

theorem size_holderJson (holder : ControlHolder) : size (holderJson (some holder)) =
      43 + size (connectionJson holder.connection) + size (.str holder.viewId) + size (.str holder.subscriptionId) := by
  simp +ground only [holderJson, size_members, membersSize]
  omega

theorem size_resizeEvent (seq : Nat) (geometry : Geometry) (requiresBaseline : Bool) :
    size (runEventJson (.resize run seq geometry requiresBaseline)) =
      63 + size (runJson run) + size (.num seq) + size (geometryJson geometry) + size (.bool requiresBaseline) := by
  simp +ground only [runEventJson, size_members, membersSize]
  omega

theorem size_controlEvent (seq epoch : Nat) (holder : Option ControlHolder) (geometry : Geometry) :
    size (runEventJson (.control run seq epoch holder geometry)) =
      63 + size (runJson run) + size (.num seq) + size (.num epoch) + size (holderJson holder) +
        size (geometryJson geometry) := by
  simp +ground only [runEventJson, size_members, membersSize]
  omega

theorem size_appearanceEvent (seq : Nat) (appearance : Appearance) :
    size (runEventJson (.appearance run seq appearance)) =
      49 + size (runJson run) + size (.num seq) + size (appearanceJson appearance) := by
  simp +ground only [runEventJson, size_members, membersSize]
  omega

/-- The envelope repeats the run beside its own copy in the subscription. -/
theorem size_pipeEventJson (run : RunRef) (subscription : SubscriptionRef) (event : RunEvent) :
    size (pipeEventJson ⟨worker, run, some subscription, event⟩) =
      70 + size (workerJson worker) + size (runJson run) + size (subscriptionJson subscription) +
        size (runEventJson event) := by
  simp +ground only [pipeEventJson, optionalMember, map_some, toList_some, cons_append, nil_append,
    size_members, membersSize]
  omega

theorem plain_of_isAlphanum {char : Char} (alphanum : char.isAlphanum = true) : plain char = true := by
  have ranges : (decide (65 ≤ char.val ∧ char.val ≤ 90) || (decide (97 ≤ char.val) && decide (char.val ≤ 122)) ||
      (decide (48 ≤ char.val) && decide (char.val ≤ 57))) = true := alphanum
  simp only [UInt32.le_iff_toNat_le] at ranges
  simp only [plain, and_eq_true, decide_eq_true_eq, bne_iff_ne]
  refine ⟨⟨⟨?_, ?_⟩, ?_⟩, ?_⟩
  · simp at ranges
    omega
  · simp at ranges
    omega
  · rintro rfl
    exact absurd alphanum (by decide)
  · rintro rfl
    exact absurd alphanum (by decide)

theorem plain_of_opaqueId {id : String} (valid : opaqueId id = true) : id.toList.all plain = true := by
  unfold opaqueId at valid
  split at valid
  · exact absurd valid (by decide)
  rename_i first rest chars
  simp only [and_eq_true, List.all_eq_true, or_eq_true, beq_iff_eq] at valid
  rw [chars, all_cons, plain_of_isAlphanum valid.1.1, Bool.true_and, List.all_eq_true]
  intro char member
  rcases valid.2 char member with ((alphanum | rfl) | rfl) | rfl
  · exact plain_of_isAlphanum alphanum
  · decide
  · decide
  · decide

theorem length_of_opaqueId {id : String} (valid : opaqueId id = true) : id.length ≤ 128 := by
  unfold opaqueId at valid
  split at valid
  · exact absurd valid (by decide)
  rename_i first rest chars
  simp only [and_eq_true, decide_eq_true_eq] at valid
  rw [← String.length_toList, chars, length_cons]
  omega

theorem size_id_le {id : String} (valid : opaqueId id = true) : size (.str id) ≤ 130 := by
  have short := length_of_opaqueId valid
  rw [size_str (plain_of_opaqueId valid)]
  omega

theorem size_sequence_le {value : Nat} (valid : sequence value = true) : size (.num value) ≤ 16 := by
  refine size_num_le (by decide) (Nat.lt_of_le_of_lt (of_decide_eq_true valid) ?_)
  decide

theorem size_runJson_le {run : RunRef} (valid : run.valid = true) : size (runJson run) ≤ 431 := by
  simp only [RunRef.valid, and_eq_true] at valid
  have server := size_id_le valid.1.1
  have relay := size_id_le valid.1.2
  have name := size_id_le valid.2
  rw [size_runJson]
  omega

theorem size_workerJson_le {worker : WorkerRef} (valid : worker.valid = true) : size (workerJson worker) ≤ 587 := by
  simp only [WorkerRef.valid, and_eq_true] at valid
  have server := size_id_le valid.1.1.1
  have relay := size_id_le valid.1.1.2
  have name := size_id_le valid.1.2
  have incarnation := size_id_le valid.2
  rw [size_workerJson]
  omega

theorem size_connectionJson_le {connection : ConnectionRef} (valid : connection.valid = true) :
    size (connectionJson connection) ≤ 177 := by
  simp only [ConnectionRef.valid, and_eq_true] at valid
  have name := size_id_le valid.1
  have generation := size_sequence_le valid.2
  rw [size_connectionJson]
  omega

theorem size_subscriptionJson_le {subscription : SubscriptionRef} (valid : subscription.valid = true) :
    size (subscriptionJson subscription) ≤ 487 + size (runJson subscription.run) := by
  simp only [SubscriptionRef.valid, and_eq_true] at valid
  have connection := size_connectionJson_le valid.1.1.2
  have name := size_id_le valid.1.2
  have view := size_id_le valid.2
  rw [size_subscriptionJson]
  omega

theorem size_geometryJson_le {geometry : Geometry} (valid : validGeometry geometry = true) :
    size (geometryJson geometry) ≤ 23 := by
  simp only [validGeometry, and_eq_true, decide_eq_true_eq] at valid
  obtain ⟨⟨⟨_, cols⟩, _⟩, rows⟩ := valid
  have colsSize : size (.num geometry.cols) ≤ 3 :=
    size_num_le (by decide) (Nat.lt_of_le_of_lt cols (by decide))
  have rowsSize : size (.num geometry.rows) ≤ 3 :=
    size_num_le (by decide) (Nat.lt_of_le_of_lt rows (by decide))
  rw [size_geometryJson]
  omega

theorem size_holderJson_le {holder : Option ControlHolder} (valid : holder.all validControlHolder = true) :
    size (holderJson holder) ≤ 480 := by
  cases holder with
  | none => decide +kernel
  | some =>
    simp only [all_some, validControlHolder, and_eq_true] at valid
    have connection := size_connectionJson_le valid.1.1
    have view := size_id_le valid.1.2
    have name := size_id_le valid.2
    rw [size_holderJson]
    omega

end Cove.Protocol.EventFrame
