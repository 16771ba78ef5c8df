import Cove.Base.Keyed
import Cove.Protocol.Pipe

/-!
Where the runs of a runtime are kept: the run registry (`run-registry.ts`), the worker pool with its placement map and
the run set of every worker (`worker-pool.ts`), and the local runtime that moves a run through both
(`local-runtime.ts`). A spawn is followed from its request to the continuation of its promise, so that whatever the
session does between the two can come in between.
-/

namespace Cove.Runtime.Placement
open Base Protocol.Identity Protocol.Pipe Protocol.Recovery Protocol.Terminal

/-- The identity all owners share, and the limits of the registry and of the pool. -/
structure Composition where
  serverId : String
  relayInstanceId : String
  maxRuns : Nat
  registryRuns : Nat
  maxWorkers : Nat
  runsPerWorker : Nat
  maxCols : Nat
  maxRows : Nat

variable (c : Composition)

def Composition.owns (serverId relayInstanceId : String) : Bool :=
  serverId == c.serverId && relayInstanceId == c.relayInstanceId

/-! ### The run registry -/

structure Entry where
  run : RunRef
  worker : WorkerRef
  status : RunStatus
  capacityOwned : Bool
  dispatched : Bool

def Entry.key (entry : Entry) : String := entry.run.runId

abbrev Registry := List Entry

namespace Registry

variable (entries : Registry)

variable (run : RunRef)

variable (worker : WorkerRef)

def find : Option Entry :=
  (Keyed.get? Entry.key entries run.runId).filter
    (fun entry => sameRunRef run entry.run && sameWorkerRef worker entry.worker)

def set (change : Entry → Entry) : Registry :=
  Keyed.modify Entry.key entries run.runId change

def fresh (geometry : Geometry) : RunStatus where
  run := run
  status := .unverifiable
  geometry := geometry
  controlEpoch := 0
  controlHolder := none
  receivedSeq := none
  parsedSeq := none
  recovery := .unavailable
  reason := none
  exitCode := none
  signal := none

def reserve (geometry : Geometry) (granted : Bool) : Option Registry :=
  if !c.owns run.serverId run.relayInstanceId || !c.owns worker.serverId worker.relayInstanceId ||
      (Keyed.get? Entry.key entries run.runId).isSome || entries.length ≥ c.registryRuns then none
  else if !(fresh run geometry).valid then none
  else if !granted then none
  else some (entries ++ [⟨run, worker, fresh run geometry, true, false⟩])

def observe (status : RunStatus) : Option Registry :=
  if !status.valid then none
  else
    match find entries status.run worker with
    | none => none
    | some entry =>
      -- a run cannot be resurrected by a delayed reply, nor its exit be overwritten with older facts
      if entry.status.status = .exited ∧ status.status ≠ .exited then none
      else if entry.status.status = .exited ∧
          ((status.parsedSeq.map Int.ofNat).getD (-1)) < ((entry.status.parsedSeq.map Int.ofNat).getD (-1)) then
        some entries
      else some (set entries status.run (fun entry => { entry with status := status }))

def observeExit (run : RunRef) (exitCode : Option Int) (signal : Option String) : Option Registry :=
  match find entries run worker with
  | none => none
  | some entry =>
    if entry.status.status = .exited then some entries
    else
      let status := { entry.status with status := .exited, exitCode := exitCode, signal := signal }
      if !status.valid then none else some (set entries run (fun entry => { entry with status := status }))

def lose (entry : Entry) : Entry :=
  if entry.status.status = .exited then entry
  else { entry with status := { entry.status with status := .unverifiable, recovery := .unavailable } }

def contactLost : Registry :=
  entries.map (fun entry => if sameWorkerRef entry.worker worker then lose entry else entry)

def markDispatched : Registry :=
  match find entries run worker with
  | none => entries
  | some _ => set entries run (fun entry => { entry with dispatched := true })

def cancelReservation : Option Registry :=
  match find entries run worker with
  | none => none
  | some entry => if entry.dispatched then none else some (Keyed.erase Entry.key entries run.runId)

def retireRefusedSpawn : Option Registry :=
  match find entries run worker with
  | none => none
  | some entry =>
    if !entry.dispatched || entry.status.status ≠ .unverifiable then none
    else some (Keyed.erase Entry.key entries run.runId)

def releaseCapacity : Option Registry :=
  match find entries run worker with
  | none => none
  | some entry =>
    if !entry.capacityOwned then none else some (set entries run (fun entry => { entry with capacityOwned := false }))

end Registry

/-! ### The worker pool -/

/-- Of a pipe session only whether it is ready; a closed one stays closed. -/
inductive Session where
  | hello
  | ready
  | closed
  deriving DecidableEq

structure WorkerEntry where
  worker : WorkerRef
  session : Session
  runs : List String

structure Placed where
  run : RunRef
  worker : WorkerRef

def Placed.key (placed : Placed) : String := placed.run.runId

structure Pool where
  workers : List WorkerEntry
  placements : List Placed

namespace Pool

variable (pool : Pool)

def add (worker : WorkerRef) (session : Session) (granted : Bool) : Option Pool :=
  if !c.owns worker.serverId worker.relayInstanceId || pool.workers.length ≥ c.maxWorkers ||
      pool.workers.any (fun entry => entry.worker.workerId == worker.workerId) then none
  else if !granted then none
  else some { pool with workers := pool.workers ++ [⟨worker, session, []⟩] }

def prefer (run : RunRef) (selected : Option WorkerEntry) (entry : WorkerEntry) : Option WorkerEntry :=
  if entry.session ≠ .ready || entry.worker.serverId != run.serverId ||
      entry.worker.relayInstanceId != run.relayInstanceId || entry.runs.length ≥ c.runsPerWorker then selected
  else
    match selected with
    | none => some entry
    | some chosen => if entry.runs.length < chosen.runs.length then some entry else selected

def addRun (id : String) (entry : WorkerEntry) : WorkerEntry :=
  { entry with runs := if id ∈ entry.runs then entry.runs else entry.runs ++ [id] }

def deleteRun (id : String) (entry : WorkerEntry) : WorkerEntry :=
  { entry with runs := entry.runs.filter (· ≠ id) }

def reserve (run : RunRef) : Option (WorkerRef × Pool) :=
  if (Keyed.get? Placed.key pool.placements run.runId).isSome || pool.placements.length ≥ c.maxRuns then none
  else
    match pool.workers.foldl (prefer c run) none with
    | none => none
    | some selected =>
      some (selected.worker,
        { workers := Keyed.modify WorkerEntry.worker pool.workers selected.worker (addRun run.runId)
          placements := pool.placements ++ [⟨run, selected.worker⟩] })

def get (run : RunRef) : Option Placed :=
  (Keyed.get? Placed.key pool.placements run.runId).filter
    (fun found => found.run.serverId == run.serverId && found.run.relayInstanceId == run.relayInstanceId)

def release (run : RunRef) (worker : WorkerRef) : Option Pool :=
  match pool.get run with
  | none => none
  | some found =>
    if !sameWorkerRef found.worker worker then none
    else some
      { workers := Keyed.modify WorkerEntry.worker pool.workers worker (deleteRun run.runId)
        placements := Keyed.erase Placed.key pool.placements run.runId }

def ready (worker : WorkerRef) : Bool :=
  (Keyed.get? WorkerEntry.worker pool.workers worker).any (fun entry => entry.session == .ready)

def setSession (worker : WorkerRef) (change : Session → Session) : Pool :=
  { pool with
    workers := Keyed.modify WorkerEntry.worker pool.workers worker
      (fun entry => { entry with session := change entry.session }) }

end Pool

/-! ### The local runtime -/

inductive RuntimeResult where
  | error (error : DomainError)
  | result (outcome : Outcome) (runStatus : Option RunStatus)
  deriving DecidableEq

def refusedSpawn : RuntimeResult → Bool
  | .error error => error.acceptance == .notAccepted && error.kind != .operationIdConflict
  | .result outcome _ => outcome == .rejected

def unavailable : RuntimeResult := .error ⟨.workerUnavailable, .notAccepted, false⟩
def busy : RuntimeResult := .error ⟨.busy, .notAccepted, false⟩
def resultUnknown : RuntimeResult := .error ⟨.resultUnknown, .unknown, false⟩

/-- A spawn request. The session holds it until its reply was read or contact is lost; `answer` is what its promise
was resolved with while the continuation has not run. -/
structure Spawn where
  run : RunRef
  worker : WorkerRef
  sent : Bool
  held : Bool
  abandoned : Bool
  answer : Option RuntimeResult

def Spawn.refusalRead (spawn : Spawn) : Bool := spawn.sent && spawn.answer.any refusedSpawn

def Spawn.lost (spawn : Spawn) : Spawn :=
  if !spawn.held then spawn
  else if spawn.abandoned then { spawn with held := false }
  else { spawn with held := false, answer := some (if spawn.sent then resultUnknown else unavailable) }

inductive Act where
  | reserved (run : RunRef)
  | sent (run : RunRef)
  | refused (run : RunRef)
  | observed (run : RunRef) (phase : RunPhase)
  | proved (run : RunRef)
  | freed (run : RunRef)
  | cancelled (run : RunRef)
  | dropped (run : RunRef)
  deriving DecidableEq

def Act.run : Act → RunRef
  | .reserved run | .sent run | .refused run | .observed run _ | .proved run | .freed run | .cancelled run
  | .dropped run => run

/-- `launching` are the reservations a launch still holds, each with the worker it was given: their owner cancels them
or spawns the run, once (`terminal-operations.ts`). -/
structure LocalRuntime where
  disposed : Bool
  registry : Registry
  pool : Pool
  launching : List (RunRef × WorkerRef)
  spawns : List Spawn
  journal : List Act

def LocalRuntime.new : LocalRuntime where
  disposed := false
  registry := []
  pool := ⟨[], []⟩
  launching := []
  spawns := []
  journal := []

namespace LocalRuntime

variable (s : LocalRuntime)

def note (act : Act) : LocalRuntime := { s with journal := s.journal ++ [act] }

def addWorker (worker : WorkerRef) (session : Session) (granted : Bool) : LocalRuntime :=
  if s.disposed then s
  else
    match s.pool.add c worker session granted with
    | none => s
    | some pool => { s with pool := pool }

/-- `registered` is the session's answer to `registerRun`. A reservation that fails is rolled back. -/
def reserveRun (run : RunRef) (geometry : Geometry) (granted registered : Bool) :
    Option WorkerRef × LocalRuntime :=
  if s.disposed || geometry.cols > c.maxCols || geometry.rows > c.maxRows then (none, s)
  else
    match s.pool.reserve c run with
    | none => (none, s)
    | some (worker, pool) =>
      match Registry.reserve c s.registry run worker geometry granted with
      | none => (none, { s with pool := (pool.release run worker).getD pool })
      | some registry =>
        if !registered then
          (none, { s with
            registry := (Registry.cancelReservation registry run worker).getD registry
            pool := (pool.release run worker).getD pool })
        else
          (some worker, { s with
            registry := registry
            pool := pool
            launching := s.launching ++ [(run, worker)]
            journal := s.journal ++ [.reserved run] })

def releaseSlot (run : RunRef) (worker : WorkerRef) : LocalRuntime :=
  match s.pool.release run worker with
  | none => s
  | some pool => { s with pool := pool, journal := s.journal ++ [.freed run] }

def cancelRunReservation (run : RunRef) (worker : WorkerRef) : LocalRuntime :=
  match Registry.cancelReservation s.registry run worker with
  | none => s
  | some registry =>
    ({ s with registry := registry, journal := s.journal ++ [.cancelled run] } : LocalRuntime).releaseSlot run worker

/-- The proof comes from the native adapter: the writer is closed and the leader has exited. -/
def releaseOwnedCapacity (run : RunRef) (worker : WorkerRef) : LocalRuntime :=
  match s.pool.get run with
  | none => s
  | some _ =>
    match Registry.releaseCapacity s.registry run worker with
    | none => s
    | some registry =>
      ({ s with registry := registry, journal := s.journal ++ [.proved run] } : LocalRuntime).releaseSlot run worker

def retireRefusedSpawn (run : RunRef) (worker : WorkerRef) : LocalRuntime :=
  match Registry.retireRefusedSpawn s.registry run worker with
  | none => s
  | some registry =>
    ({ s with registry := registry, journal := s.journal ++ [.dropped run] } : LocalRuntime).releaseSlot run worker

variable (worker : WorkerRef)

def observe (status : RunStatus) : LocalRuntime :=
  match Registry.observe s.registry worker status with
  | none => s
  | some registry => { s with registry := registry, journal := s.journal ++ [.observed status.run status.status] }

def observeExit (run : RunRef) (exitCode : Option Int) (signal : Option String) : LocalRuntime :=
  match Registry.observeExit s.registry worker run exitCode signal with
  | none => s
  | some registry => { s with registry := registry, journal := s.journal ++ [.observed run .exited] }

def checkContact : LocalRuntime :=
  if s.pool.ready worker then s else { s with registry := Registry.contactLost s.registry worker }

def loseContact : LocalRuntime :=
  { s with
    pool := s.pool.setSession worker (fun _ => .closed)
    spawns := s.spawns.map (fun spawn => if spawn.worker = worker then Spawn.lost spawn else spawn)
    registry := Registry.contactLost s.registry worker }

/-- A launch spawns the run it has reserved. `composed` says whether the payload could be composed, `admitted` whether
the session took the command. -/
def spawn (run : RunRef) (worker : WorkerRef) (composed admitted : Bool) : LocalRuntime :=
  if (run, worker) ∉ s.launching then s
  else
    let s := { s with launching := s.launching.filter (fun launch => launch.1 ≠ run) }
    if !composed then s.cancelRunReservation run worker
    else
      match s.pool.get run with
      | none => s
      | some placement =>
        if s.disposed || !sameWorkerRef worker placement.worker then s
        else
          let s := s.checkContact worker
          let held := admitted && s.pool.ready worker
          { s with spawns := s.spawns ++ [⟨run, worker, false, held, false, if held then none else some unavailable⟩] }

def handed (i : Nat) : LocalRuntime :=
  match s.spawns[i]? with
  | none => s
  | some spawn =>
    if !spawn.held || spawn.sent then s
    else
      { s with
        spawns := s.spawns.set i { spawn with sent := true }
        registry := Registry.markDispatched s.registry spawn.run spawn.worker
        journal := s.journal ++ [.sent spawn.run] }

/-- The deadline of a spawn: an unsent one is withdrawn, a sent one keeps its place until the late reply. -/
def expired (i : Nat) : LocalRuntime :=
  match s.spawns[i]? with
  | none => s
  | some spawn =>
    if !spawn.held || spawn.abandoned then s
    else if !spawn.sent then { s with spawns := s.spawns.set i { spawn with held := false, answer := some busy } }
    else { s with spawns := s.spawns.set i { spawn with abandoned := true, answer := some resultUnknown } }

def validForCommand (spawn : Spawn) : RuntimeResult → Bool
  | .result _ (some status) => sameRunRef spawn.run status.run
  | _ => true

/-- The worker's reply to a spawn is read: it resolves the promise, or comes late. -/
def replied (i : Nat) (result : RuntimeResult) : LocalRuntime :=
  match s.spawns[i]? with
  | none => s
  | some spawn =>
    if !spawn.held || !spawn.sent || !validForCommand spawn result then s
    else if spawn.abandoned then
      let s := { s with spawns := s.spawns.set i { spawn with held := false } }
      if refusedSpawn result then (s.note (.refused spawn.run)).retireRefusedSpawn spawn.run spawn.worker else s
    else { s with spawns := s.spawns.set i { spawn with held := false, answer := some result } }

def observeResult : RuntimeResult → LocalRuntime
  | .result _ (some status) => s.observe worker status
  | _ => s

def continued (i : Nat) : LocalRuntime :=
  match s.spawns[i]? with
  | none => s
  | some spawn =>
    match spawn.answer with
    | none => s
    | some answer =>
      let s := { s with spawns := s.spawns.set i { spawn with answer := none } }
      let s :=
        if !spawn.sent then s.cancelRunReservation spawn.run spawn.worker
        else if refusedSpawn answer then
          (s.note (.refused spawn.run)).retireRefusedSpawn spawn.run spawn.worker
        else s
      (s.observeResult spawn.worker answer).checkContact spawn.worker

def request (run : RunRef) (worker : WorkerRef) : LocalRuntime :=
  match s.pool.get run with
  | none => s
  | some placement =>
    if s.disposed || !sameWorkerRef worker placement.worker then s else s.checkContact placement.worker

def returned (runStatus : Option RunStatus) : LocalRuntime :=
  (match runStatus with
    | none => s
    | some status => s.observe worker status).checkContact worker

/-- What is still under way afterwards finds empty maps. -/
def dispose : LocalRuntime :=
  { s with disposed := true, registry := [], pool := ⟨[], []⟩, launching := [], spawns := [] }

end LocalRuntime

inductive Event where
  | addWorker (worker : WorkerRef) (session : Session) (granted : Bool)
  | ready (worker : WorkerRef)
  | lost (worker : WorkerRef)
  | reserveRun (run : RunRef) (geometry : Geometry) (granted registered : Bool)
  | cancelRunReservation (run : RunRef) (worker : WorkerRef)
  | spawn (run : RunRef) (worker : WorkerRef) (composed admitted : Bool)
  | handed (i : Nat)
  | expired (i : Nat)
  | replied (i : Nat) (result : RuntimeResult)
  | continued (i : Nat)
  | request (run : RunRef) (worker : WorkerRef)
  | returned (worker : WorkerRef) (runStatus : Option RunStatus)
  | exit (worker : WorkerRef) (run : RunRef) (exitCode : Option Int) (signal : Option String)
  | releaseOwnedCapacity (run : RunRef) (worker : WorkerRef)
  | dispose

def step (s : LocalRuntime) : Event → LocalRuntime
  | .addWorker worker session granted => s.addWorker c worker session granted
  | .ready worker =>
    { s with pool := s.pool.setSession worker (fun session => if session = .hello then .ready else session) }
  | .lost worker => s.loseContact worker
  | .reserveRun run geometry granted registered => (s.reserveRun c run geometry granted registered).2
  | .cancelRunReservation run worker =>
    -- the launch gives its reservation back before it spawns
    if (run, worker) ∉ s.launching then s
    else ({ s with launching := s.launching.filter (fun launch => launch.1 ≠ run) } : LocalRuntime).cancelRunReservation
      run worker
  | .spawn run worker composed admitted => s.spawn run worker composed admitted
  | .handed i => s.handed i
  | .expired i => s.expired i
  | .replied i result => s.replied i result
  | .continued i => s.continued i
  | .request run worker => s.request run worker
  | .returned worker runStatus => s.returned worker runStatus
  | .exit worker run exitCode signal => if s.disposed then s else s.observeExit worker run exitCode signal
  | .releaseOwnedCapacity run worker => s.releaseOwnedCapacity run worker
  | .dispose => s.dispose

end Cove.Runtime.Placement
