import Cove.Protocol.EventFrame
import Cove.Worker.RunSession

/-!
Whether the facts of a command can be delivered. A fact is handed to every open route of its run in an envelope
that names the worker, the run and the route; a fact whose envelope does not fit into the metadata of a frame is
never enqueued.
-/

namespace Cove.Worker.FactFraming
open Base.Json Base.Run Protocol.Budgets Protocol.Frame Protocol.Identity Function List
open Protocol.Recovery Protocol.Terminal Protocol.EventFrame
open Worker.RunSession Worker.RunSession.Session Session

def commandGeometry : FactCommand → Option Geometry
  | .setControl _ _ _ geometry _ | .resize _ _ geometry => some geometry
  | .appearance .. => none

def commandAppearance : FactCommand → Option Appearance
  | .setControl _ _ _ _ appearance => appearance
  | .appearance _ _ appearance => some appearance
  | .resize .. => none

variable (worker : WorkerRef)

/-- What a worker demands of a command before it asks the run: the schema and the identities of its frame, and that
it is addressed to this worker and within the sizes this worker allows. -/
def admits (budgets : EffectiveBudgets) (addressed : Addressed) : Bool :=
  commandSchema addressed && commandIdentity addressed && sameWorkerRef addressed.worker worker &&
    (commandGeometry addressed.command).all (fun geometry =>
      decide (geometry.cols ≤ budgets.maxCols) && decide (geometry.rows ≤ budgets.maxRows))

def operationOf : FactCommand → RunSessionOperation
  | .setControl expectedEpoch nextEpoch holder geometry appearance =>
    .control expectedEpoch nextEpoch holder geometry appearance
  | .resize subscription epoch geometry => .resize subscription epoch geometry
  | .appearance subscription epoch appearance => .appearance subscription epoch appearance

def stages (options : Options) (session : Session) (item : Pending) (operation : RunSessionOperation) (plan : Plan) :
    List Session :=
  plan.geometry.toList.map (fun geometry => session.resized options item operation geometry plan false) ++
    [session.recolor options item operation plan, session.grant options item operation plan]

def factEvent (run : RunRef) (subscription : SubscriptionRef) (fact : Fact) : PipeEvent RunEvent where
  worker := worker
  run := run
  subscription := some subscription
  terminal := fact.event

section Stages
variable {options : Options} {s : Session} {item : Pending} {operation : RunSessionOperation} {plan : Plan}

theorem fault_applied (s : Session) (reason : String) : (s.fault reason).applied = s.applied := by
  unfold fault schedule reportFault requestStop
  split_ifs <;> rfl

theorem finish_applied (s : Session) (options : Options) (item : Pending) :
    (s.finish options item).applied = s.applied := by
  unfold finish schedule
  dsimp only
  split_ifs <;> rfl

theorem conclude_applied (s : Session) (options : Options) (item : Pending)
    (result : RunSessionOperationResult) : (s.conclude options item result).applied = s.applied := by
  unfold conclude
  split <;> rw [finish_applied]
  rfl

theorem caught_applied (s : Session) (options : Options) (item : Pending) :
    (s.caught options item).applied = s.applied := by
  unfold caught
  rw [finish_applied, fault_applied]

theorem settle_applied (s : Session) (options : Options) (item : Pending) (operation : RunSessionOperation) :
    (s.settle options item operation).applied = s.applied := by
  unfold settle
  split
  · exact caught_applied s options item
  · rfl

variable {fact : Fact}

/-- The fact that takes the next number is the only one a stage can add. -/
theorem applyNext_fact {event : Nat → RunEvent} {rest : Rest}
    (applies : (s.applyNext options item event [] rest).applied = s.applied ++ [fact]) :
    fact = ⟨event (s.receivedSeq + 1), []⟩ := by
  unfold applyNext applyFact at applies
  split at applies
  · rw [caught_applied] at applies
    exact absurd applies (by simp)
  · exact (singleton_inj.mp (append_cancel_left applies)).symm

theorem not_applies {after : Session} (same : after.applied = s.applied) : after.applied ≠ s.applied ++ [fact] := by
  rw [same]
  simp

inductive Made (run : RunRef) (seq : Nat) (operation : RunSessionOperation) (plan : Plan) : RunEvent → Prop
  | resize {geometry : Geometry} (planned : plan.geometry = some geometry) :
    Made run seq operation plan (.resize run seq geometry true)
  | appearance {appearance : Appearance} (planned : plan.appearance = some appearance) :
    Made run seq operation plan (.appearance run seq appearance)
  | control {expectedEpoch nextEpoch : Nat} {holder : Option ControlHolder} {geometry : Geometry}
    {appearance : Option Appearance}
    (isControl : operation = .control expectedEpoch nextEpoch holder geometry appearance) :
    Made run seq operation plan (.control run seq nextEpoch holder geometry)

theorem grant_made (applies : (s.grant options item operation plan).applied = s.applied ++ [fact]) :
    fact.bytes = [] ∧ Made options.run (s.receivedSeq + 1) operation plan fact.event := by
  unfold grant at applies
  split at applies
  · split at applies
    · obtain rfl := applyNext_fact applies
      exact ⟨rfl, .control rfl⟩
    · exact absurd applies (not_applies (settle_applied _ _ _ _))
  · exact absurd applies (not_applies (settle_applied _ _ _ _))

theorem stages_made {after : Session} (stage : after ∈ stages options s item operation plan)
    (applies : after.applied = s.applied ++ [fact]) :
    fact.bytes = [] ∧ Made options.run (s.receivedSeq + 1) operation plan fact.event := by
  simp only [stages, mem_append, List.mem_map, Option.mem_toList, mem_cons, not_mem_nil,
    or_false] at stage
  rcases stage with ⟨geometry, planned, rfl⟩ | rfl | rfl
  · unfold resized at applies
    split at applies
    · exact absurd applies (not_applies (conclude_applied _ _ _ _))
    split at applies
    · exact absurd applies (not_applies (conclude_applied _ _ _ _))
    · obtain rfl := applyNext_fact applies
      exact ⟨rfl, .resize planned⟩
  · unfold recolor at applies
    split at applies
    next appearance planned =>
      obtain rfl := applyNext_fact applies
      exact ⟨rfl, .appearance planned⟩
    next => exact grant_made applies
  · exact grant_made applies

end Stages

variable {command : FactCommand}

theorem plan_geometry {s : Session} {state : EngineState} {geometry : Geometry}
    (planned : (s.plan (operationOf command) state).geometry = some geometry) :
    commandGeometry command = some geometry := by
  cases command <;> simp only [operationOf, plan] at planned
  case appearance => exact absurd planned (by simp)
  all_goals
    split at planned
    · exact absurd planned (by simp)
    · exact planned

variable {appearance : Appearance}

theorem plan_appearance {s : Session} {state : EngineState}
    (planned : (s.plan (operationOf command) state).appearance = some appearance) :
    commandAppearance command = some appearance := by
  cases command with
  | setControl _ _ _ _ colours =>
    cases colours with
    | none => exact absurd planned (by simp [operationOf, plan])
    | some =>
      simp only [operationOf, plan] at planned
      split at planned
      · exact absurd planned (by simp)
      · exact planned
  | resize => exact absurd planned (by simp [operationOf, plan])
  | appearance =>
    simp only [operationOf, plan] at planned
    split at planned
    · exact absurd planned (by simp)
    · exact planned

/-- What the checks on a command say about the values its facts take from it. -/
structure Admitted (addressed : Addressed) : Prop where
  addressee : addressed.worker = worker
  workerValid : worker.valid = true
  runValid : addressed.run.valid = true
  matched : workerMatchesRun worker addressed.run = true
  geometry : ∀ geometry, commandGeometry addressed.command = some geometry → validGeometry geometry = true
  appearance : ∀ appearance, commandAppearance addressed.command = some appearance →
    validateAppearance appearance = true
  control : ∀ expectedEpoch nextEpoch holder geometry appearance,
    addressed.command = .setControl expectedEpoch nextEpoch holder geometry appearance →
      1 ≤ nextEpoch ∧ sequence nextEpoch = true ∧ holder.all validControlHolder = true

theorem admitted {worker : WorkerRef} {budgets : EffectiveBudgets} {addressed : Addressed}
    (accepted : admits worker budgets addressed = true) : Admitted worker addressed := by
  obtain ⟨addressedWorker, run, requestId, command⟩ := addressed
  simp only [admits, commandSchema, commandIdentity, Bool.and_eq_true] at accepted
  obtain ⟨⟨⟨⟨⟨⟨workerValid, runValid⟩, _⟩, fields⟩, matched, bindings⟩, same⟩, _⟩ := accepted
  obtain rfl := (sameWorkerRef_iff _ _).mp same
  refine ⟨rfl, workerValid, runValid, matched, ?_, ?_, ?_⟩
  · intro geometry named
    cases command <;> simp only [commandGeometry, Option.some.injEq, reduceCtorEq] at named <;> subst named
    · simp only [Bool.and_eq_true] at fields
      exact fields.1.2
    · simp only [Bool.and_eq_true] at fields
      exact fields.2
  · intro appearance named
    cases command <;> simp only [commandAppearance, Option.some.injEq, reduceCtorEq] at named <;> subst named
    · simp only [Bool.and_eq_true] at bindings
      exact bindings.2
    · simp only [Bool.and_eq_true] at bindings
      exact bindings.2
  · intro expectedEpoch nextEpoch holder geometry appearance isControl
    subst isControl
    simp only [Bool.and_eq_true, decide_eq_true_eq] at fields
    exact ⟨fields.1.1.1.1.2, fields.1.1.1.2, fields.1.1.2⟩

theorem valid_appearanceSchema (valid : validateAppearance appearance = true) : appearanceSchema appearance = true := by
  simp only [validateAppearance, Bool.and_eq_true] at valid
  exact valid.1

section Framing
variable {worker : WorkerRef} {addressed : Addressed} {subscription : SubscriptionRef} {event : RunEvent}
variable {seq : Nat} {s : Session} {state : EngineState}

theorem operationOf_control {expected next : Nat} {holder : Option ControlHolder} {geometry : Geometry}
    {appearance : Option Appearance} (is : operationOf command = .control expected next holder geometry appearance) :
    command = .setControl expected next holder geometry appearance := by
  cases command <;> simp_all [operationOf]

theorem Admitted.framable_iff (admitted : Admitted worker addressed)
    (made : Made addressed.run seq (operationOf addressed.command) (s.plan (operationOf addressed.command) state) event)
    (positive : 1 ≤ seq) (counted : sequence seq = true) (routeValid : subscription.valid = true)
    (ownRun : subscription.run = addressed.run) :
    (encodeEvent (factEvent worker addressed.run subscription ⟨event, []⟩) []).isSome = true ↔
      size (pipeEventJson ⟨worker, addressed.run, some subscription, event⟩) ≤ maxMetadataBytes := by
  have same : sameRunRef addressed.run subscription.run = true := (sameRunRef_iff _ _).mpr ownRun.symm
  have itself : sameRunRef addressed.run addressed.run = true := (sameRunRef_iff _ _).mpr rfl
  have schemaOf (checked : runEventSchema event = true) :
      pipeEventSchema (factEvent worker addressed.run subscription ⟨event, []⟩) = true := by
    simp only [pipeEventSchema, factEvent, admitted.workerValid, admitted.runValid, Option.all_some, routeValid,
      checked, Bool.and_self]
  cases made with
  | @resize geometry planned =>
    have sized := admitted.geometry geometry (plan_geometry planned)
    refine encodeEvent_isSome_iff (schemaOf ?_) rfl ?_ (by decide)
    · simp only [runEventSchema, eventRun, RunEvent.seq, admitted.runValid, positive, counted, sized, decide_true,
        Bool.and_self]
    · simp only [validIdentity, factEvent, admitted.matched, Option.all_some, same, eventRun, itself,
        Option.isSome_some, Bool.and_self]
  | @appearance appearance planned =>
    have coloured := admitted.appearance appearance (plan_appearance planned)
    refine encodeEvent_isSome_iff (schemaOf ?_) rfl ?_ (by decide)
    · simp only [runEventSchema, eventRun, RunEvent.seq, admitted.runValid, positive, counted,
        valid_appearanceSchema coloured, decide_true, Bool.and_self]
    · simp only [validIdentity, factEvent, admitted.matched, Option.all_some, same, eventRun, itself,
        Option.isSome_some, coloured, Bool.and_self]
  | @control expectedEpoch nextEpoch holder geometry appearance isControl =>
    have command := operationOf_control isControl
    obtain ⟨started, counts, known⟩ := admitted.control _ _ _ _ _ command
    have sized := admitted.geometry geometry (by rw [command]; rfl)
    refine encodeEvent_isSome_iff (schemaOf ?_) rfl ?_ (by decide)
    · simp only [runEventSchema, eventRun, RunEvent.seq, admitted.runValid, positive, counted, started, counts, known,
        sized, decide_true, Bool.and_self]
    · simp only [validIdentity, factEvent, admitted.matched, Option.all_some, same, eventRun, itself,
        Option.isSome_some, Bool.and_self]

/-- Facts of control and of the screen's size fit whatever the identities are. -/
theorem Admitted.fits (admitted : Admitted worker addressed)
    (made : Made addressed.run seq (operationOf addressed.command) (s.plan (operationOf addressed.command) state) event)
    (counted : sequence seq = true) (routeValid : subscription.valid = true) (ownRun : subscription.run = addressed.run)
    (plainEvent : ∀ appearance, event ≠ .appearance addressed.run seq appearance) :
    size (pipeEventJson ⟨worker, addressed.run, some subscription, event⟩) ≤ maxMetadataBytes := by
  have workerSize := size_workerJson_le admitted.workerValid
  have runSize := size_runJson_le admitted.runValid
  have routeSize := size_subscriptionJson_le routeValid
  have numberSize := size_sequence_le counted
  have limit : maxMetadataBytes = 4096 := rfl
  rw [ownRun] at routeSize
  rw [size_pipeEventJson]
  cases made with
  | @resize geometry planned =>
    have sized := size_geometryJson_le (admitted.geometry geometry (plan_geometry planned))
    have flag : size (.bool true) = 4 := rfl
    rw [size_resizeEvent]
    omega
  | @appearance appearance planned => exact absurd rfl (plainEvent appearance)
  | @control expectedEpoch nextEpoch holder geometry appearance isControl =>
    have command := operationOf_control isControl
    obtain ⟨_, counts, known⟩ := admitted.control _ _ _ _ _ command
    have sized := size_geometryJson_le (admitted.geometry geometry (by rw [command]; rfl))
    have epochSize := size_sequence_le counts
    have holderSize := size_holderJson_le known
    rw [size_controlEvent]
    omega

end Framing

def appearanceRoom (run : RunRef) (seq : Nat) (appearance : Appearance) : Nat :=
  size (appearanceJson appearance) + size (workerJson worker) + 3 * size (runJson run) + size (.num seq) + 606

theorem size_appearanceFact_le {worker : WorkerRef} {run : RunRef} {seq : Nat}
    {subscription : SubscriptionRef} (valid : subscription.valid = true) (ownRun : subscription.run = run) :
    size (pipeEventJson ⟨worker, run, some subscription, .appearance run seq appearance⟩) ≤
      appearanceRoom worker run seq appearance := by
  have routeSize := size_subscriptionJson_le valid
  rw [ownRun] at routeSize
  rw [size_pipeEventJson, size_appearanceEvent, appearanceRoom]
  omega

def longestId : String := String.ofList (List.replicate 128 'x')

def longestRoute (run : RunRef) : SubscriptionRef where
  run := run
  connection := ⟨longestId, maxSafeInteger⟩
  subscriptionId := longestId
  viewId := longestId

theorem longestRoute_valid {run : RunRef} (valid : run.valid = true) : (longestRoute run).valid = true := by
  have id : opaqueId longestId = true := by decide +kernel
  have counter : sequence maxSafeInteger = true := by decide
  simp only [longestRoute, SubscriptionRef.valid, ConnectionRef.valid, valid, id, counter, Bool.and_self]

theorem size_longestRoute (run : RunRef) (seq : Nat) (appearance : Appearance) :
    size (pipeEventJson ⟨worker, run, some (longestRoute run), .appearance run seq appearance⟩) =
      appearanceRoom worker run seq appearance := by
  have idSize : size (.str longestId) = 130 := by decide +kernel
  have counterSize : size (.num maxSafeInteger) = 16 := rfl
  have routeSize : size (subscriptionJson (longestRoute run)) = 487 + size (runJson run) := by
    simp only [size_subscriptionJson, size_connectionJson, longestRoute, idSize, counterSize]
    omega
  rw [size_pipeEventJson, size_appearanceEvent, appearanceRoom]
  omega

/-- A fact of an admitted command can be framed for every route of its run exactly when it is not an appearance, or
the appearance leaves the envelope its room. -/
theorem applied_fact_framable_iff {worker : WorkerRef} {budgets : EffectiveBudgets} {addressed : Addressed}
    {options : Options} {before session after : Session} {state : EngineState} {item : Pending} {fact : Fact}
    (accepted : admits worker budgets addressed = true) (ownRun : options.run = addressed.run)
    (counted : session.receivedSeq < maxSafeInteger)
    (stage : after ∈ stages options session item (operationOf addressed.command)
      (before.plan (operationOf addressed.command) state)) (applies : after.applied = session.applied ++ [fact]) :
    (∀ subscription : SubscriptionRef, subscription.valid = true → subscription.run = addressed.run →
      (encodeEvent (factEvent worker addressed.run subscription fact) fact.bytes).isSome = true) ↔
      ∀ appearance, commandAppearance addressed.command = some appearance →
        fact.event = .appearance addressed.run (session.receivedSeq + 1) appearance →
        appearanceRoom worker addressed.run (session.receivedSeq + 1) appearance ≤ maxMetadataBytes := by
  have admitted := admitted accepted
  obtain ⟨event, bytes⟩ := fact
  obtain ⟨rfl, made⟩ := stages_made stage applies
  rw [ownRun] at made
  have positive : 1 ≤ session.receivedSeq + 1 := Nat.succ_pos _
  have numbered : sequence (session.receivedSeq + 1) = true := decide_eq_true counted
  constructor
  · intro framed appearance _ isAppearance
    subst isAppearance
    have route := longestRoute_valid admitted.runValid
    have fits := (admitted.framable_iff made positive numbered route rfl).mp (framed _ route rfl)
    rwa [size_longestRoute] at fits
  · intro room subscription routeValid routeRun
    apply (admitted.framable_iff made positive numbered routeValid routeRun).mpr
    by_cases plainEvent : ∀ appearance, event ≠ .appearance addressed.run (session.receivedSeq + 1) appearance
    · exact admitted.fits made numbered routeValid routeRun plainEvent
    obtain ⟨appearance, isAppearance⟩ := not_forall_not.mp plainEvent
    subst isAppearance
    have named : commandAppearance addressed.command = some appearance := by
      cases made with
      | appearance planned => exact plan_appearance planned
    exact Nat.le_trans (size_appearanceFact_le routeValid routeRun) (room appearance named rfl)

def paletteOf (entries : Nat) : Appearance where
  foreground := none
  background := none
  palette := (List.range entries).map (fun index => (index, "ffff/ffff/ffff"))

variable {colours : Nat}

theorem paletteOf_valid (few : colours ≤ 256) : validateAppearance (paletteOf colours) = true := by
  have colour : rgb16 "ffff/ffff/ffff" = true := rfl
  have indices : (paletteOf colours).palette.map Prod.fst = List.range colours := by
    simp only [paletteOf, map_map, comp_def, map_id']
  have entries : (paletteOf colours).palette.all (fun entry => decide (entry.1 ≤ 255) && rgb16 entry.2) = true := by
    simp only [paletteOf, all_map, all_eq_true, mem_range, comp_apply, colour, Bool.and_true,
      decide_eq_true_eq]
    omega
  have length : (paletteOf colours).palette.length = colours := by
    simp only [paletteOf, length_map, length_range]
  have noGround : (paletteOf colours).foreground = none ∧ (paletteOf colours).background = none := ⟨rfl, rfl⟩
  simp only [validateAppearance, appearanceSchema, entries, indices, length, few, nodup_range, decide_true,
    noGround, Option.all_none, Bool.and_self]

def soleWorker : WorkerRef := ⟨"server", "relay", "worker", "incarnation"⟩

def soleRun : RunRef := ⟨"server", "relay", "run"⟩

def soleRoute : SubscriptionRef := ⟨soleRun, ⟨"connection", 1⟩, "subscription", "view"⟩

def soleOptions : Options where
  run := soleRun
  geometry := ⟨80, 24⟩
  appearance := paletteOf 0
  budgets := m0Limits
  signalNames := fun _ => none

def focusWith (colours : Nat) : Addressed where
  worker := soleWorker
  run := soleRun
  requestId := "request"
  command := .setControl 0 1 (some ⟨soleRoute.connection, soleRoute.subscriptionId, soleRoute.viewId⟩) ⟨80, 24⟩
    (some (paletteOf colours))

theorem focusWith_checked (few : colours ≤ 256) :
    commandSchema (focusWith colours) = true ∧ commandIdentity (focusWith colours) = true := by
  have coloured := paletteOf_valid few
  constructor
  · simp only [commandSchema, focusWith, Option.all_some, valid_appearanceSchema coloured]
    decide
  · simp only [commandIdentity, focusWith, Option.all_some, coloured]
    decide

theorem focusWith_admitted (few : colours ≤ 256) : admits soleWorker m0Limits (focusWith colours) = true := by
  obtain ⟨schema, identity⟩ := focusWith_checked few
  simp only [admits, schema, identity]
  simp only [focusWith, commandGeometry]
  decide

theorem size_soleWorker : size (workerJson soleWorker) = 103 := rfl

theorem size_soleRun : size (runJson soleRun) = 61 := rfl

/-- The command names its worker and its run once, -/
theorem size_focusWith (colours : Nat) :
    size (addressedJson (focusWith colours)) = 421 + size (appearanceJson (paletteOf colours)) := by
  have holder : size (holderJson (some ⟨soleRoute.connection, soleRoute.subscriptionId, soleRoute.viewId⟩)) = 107 :=
    rfl
  have screen : size (geometryJson ⟨80, 24⟩) = 21 := rfl
  have epochs : size (.num (0 : Nat)) = 1 ∧ size (.num (1 : Nat)) = 1 := ⟨rfl, rfl⟩
  simp only [addressedJson, focusWith, optionalMember, Option.map_some, Option.toList_some, cons_append, nil_append,
    size_members, membersSize, size_soleWorker, size_soleRun, holder, screen, epochs]
  simp +ground only
  omega

/-- and the event its run three times. -/
theorem size_focusEvent (colours : Nat) :
    size (pipeEventJson (factEvent soleWorker soleRun soleRoute ⟨.appearance soleRun 1 (paletteOf colours), []⟩)) =
      520 + size (appearanceJson (paletteOf colours)) := by
  have route : size (subscriptionJson soleRoute) = 175 := by
    rw [size_subscriptionJson, size_connectionJson]
    rfl
  have number : size (.num (1 : Nat)) = 1 := rfl
  simp only [factEvent, size_pipeEventJson, size_appearanceEvent, size_soleWorker, size_soleRun, route, number]
  omega

def focusEvents (colours : Nat) : List Event :=
  let state : EngineState := ⟨⟨80, 24⟩, paletteOf colours⟩
  [.attach false, .execute (operationOf (focusWith colours).command) false,
    .drain ⟨fun _ => true, fun _ => true, true, false⟩, .engine (.ok ⟨⟨80, 24⟩, paletteOf 0⟩) false,
    .engine (.ok state) false, .observed, .engine (.ok state) false, .observed, .engine (.ok state) false]

def focused (colours : Nat) : Session := run (step soleOptions) (new soleOptions) (focusEvents colours)

def recoloured (colours : Nat) : Session :=
  (new soleOptions).recolor soleOptions (.barrier 0) (operationOf (focusWith colours).command)
    ((new soleOptions).plan (operationOf (focusWith colours).command) ⟨⟨80, 24⟩, paletteOf 0⟩)

theorem sixteen_colours_framable :
    (encodeEvent (factEvent soleWorker soleRun soleRoute ⟨.appearance soleRun 1 (paletteOf 16), []⟩) []).isSome
      = true := by
  have accepted := focusWith_admitted (by decide : 16 ≤ 256)
  have ownRun : soleOptions.run = (focusWith 16).run := rfl
  have stage : recoloured 16 ∈ stages soleOptions (new soleOptions) (.barrier 0)
      (operationOf (focusWith 16).command)
      ((new soleOptions).plan (operationOf (focusWith 16).command) ⟨⟨80, 24⟩, paletteOf 0⟩) :=
    mem_append_right _ mem_cons_self
  have applies : (recoloured 16).applied =
      (new soleOptions).applied ++ [⟨.appearance soleRun 1 (paletteOf 16), []⟩] := by decide +kernel
  refine (applied_fact_framable_iff accepted ownRun (by decide) stage applies).mpr ?_ soleRoute (by decide +kernel) rfl
  intro appearance named _
  obtain rfl : paletteOf 16 = appearance := Option.some.inj named
  decide +kernel

/-- A palette of a hundred colours arrives in a frame, is applied and answered, and fits into no event frame. -/
theorem hundred_colours_unframable :
    validateCommandFrame (focusWith 100) = true ∧ admits soleWorker m0Limits (focusWith 100) = true ∧
      (focused 100).applied.head? = some ⟨.appearance soleRun 1 (paletteOf 100), []⟩ ∧
      (focused 100).answers.map Prod.fst = [0] ∧ (focused 100).controlEpoch = 1 ∧ soleRoute.valid = true ∧
      encodeEvent (factEvent soleWorker soleRun soleRoute ⟨.appearance soleRun 1 (paletteOf 100), []⟩) [] = none := by
  obtain ⟨schema, identity⟩ := focusWith_checked (by decide : 100 ≤ 256)
  have colours : size (appearanceJson (paletteOf 100)) = 3603 := by
    decide +kernel
  have limit : maxMetadataBytes = 4096 := rfl
  have bounded : boundedJsonStructure (addressedJson (focusWith 100)) = true := by decide +kernel
  have written : (utf8 (stringify (addressedJson (focusWith 100)))).length = size (addressedJson (focusWith 100)) :=
    length_utf8 _
  have commandSize := size_focusWith 100
  have eventSize := size_focusEvent 100
  have accepted : (utf8 (stringify (addressedJson (focusWith 100)))).length ≤ maxMetadataBytes := by omega
  refine ⟨?_, focusWith_admitted (by decide), ?_, ?_, ?_, ?_, encodeEvent_eq_none (by omega)⟩
  · simp only [validateCommandFrame, accepted, bounded, schema, identity, decide_true, Bool.and_self]
  all_goals decide +kernel

end Cove.Worker.FactFraming
