import Cove.Store.Effects

/-!
The same for the writes of tasks, mounts, registrations and tabs, for runs, and for conversions and deletions.
-/

namespace Cove.Store
open Base Base.Checks Protocol.Identity Protocol.Operations Operations.Receipts Bool Option
open Store.Ledger Store.Receipts Store.Worktrees Worktrees

variable {workspaceId : String} {position : Nat}

namespace Workspaces

variable {db after : Database} {operation : OperationReceiptKey} {applied : Applied}

theorem insertMount_ok {mount : NewMount} (done : insertMount db workspaceId mount operation position = .ok after) :
    ∃ mounts, db.mounts.insert (mountRow workspaceId mount) = some mounts ∧
      (mount.source = .checkout ∧ db.managed.find mount.path = none ∧ after = { db with mounts } ∨
        ∃ branch spec attemptId attempts preparations, mount.source = .worktree branch spec attemptId ∧
          db.attempts.insert (plannedAttempt (mountRow workspaceId mount) attemptId mount.mountId operation position
            ⟨branch, spec.baseRef, spec.noFetch⟩ none) = some attempts ∧
          db.preparations.insert ⟨mount.mountId, spec, attemptId⟩ = some preparations ∧
          after = { db with mounts, attempts, preparations }) := by
  simp only [insertMount, bind_eq_ok, found_eq_ok] at done
  obtain ⟨_, _, _, _, _, unmanaged, _, _, _, _, _, _, _, _, mounts, inserted, done⟩ := done
  refine ⟨mounts, inserted, ?_⟩
  have placed := Table.find_insert inserted mount.mountId
  have keyed : (mountRow workspaceId mount).mountId = mount.mountId := by
    unfold mountRow
    split <;> rfl
  rw [keyed, if_pos rfl] at placed
  cases source : mount.source with
  | checkout =>
    left
    simp only [source, pure_eq_ok] at done
    have apart : mount.isWorktree = false := by simp [NewMount.isWorktree, source]
    rw [apart] at unmanaged
    exact ⟨rfl, by simpa [managedAt] using unmanaged, done.symm⟩
  | worktree branch spec attemptId =>
    right
    simp only [source] at done
    obtain ⟨held, attempts, preparations, there, added, prepared, rfl⟩ := insertPreparation_ok done
    have same : held = mountRow workspaceId mount := some.inj (there.symm.trans placed)
    subst same
    exact ⟨branch, spec, attemptId, attempts, preparations, rfl, added, prepared, rfl⟩

/-- What holds before the mounts of a task are inserted and is kept by each of them holds after. -/
theorem insertMounts_keeps {P : Database → Prop} {mounts : List NewMount}
    (step : ∀ db mount position after, mount ∈ mounts →
      insertMount db workspaceId mount operation position = .ok after → P db → P after) (done : insertMounts db workspaceId operation mounts position = .ok after) (start : P db) :
    P after := by
  induction mounts generalizing db position with
  | nil =>
    cases done
    exact start
  | cons mount rest ih =>
    simp only [insertMounts, bind_eq_ok] at done
    obtain ⟨inserted, first, others⟩ := done
    have now := step db mount position inserted List.mem_cons_self first start
    refine ih (fun db other place after inside => step db other place after (List.mem_cons_of_mem _ inside)) others now

theorem taskCreate_ok {args : TaskCreateArgs} (done : taskCreate db operation args = .ok applied) : ∃ tasks workspaces,
      db.tasks.insert ⟨args.taskId, 0, args.title, args.slug, false, args.createdAtMs⟩ = some tasks ∧
      db.workspaces.insert ⟨args.workspaceId, args.taskId, 0, args.entryPath⟩ = some workspaces ∧
      insertMounts { db with tasks, workspaces } args.workspaceId operation args.mounts 0 = .ok applied.db ∧
      readable applied.db args.taskId args.responseBytes = true ∧
      applied.running = args.mounts.any NewMount.isWorktree := by
  simp only [taskCreate, bind_eq_ok, found_eq_ok, require_eq_ok, pure_eq_ok] at done
  obtain ⟨_, _, tasks, added, _, _, workspaces, placed, created, mounting, _, fits, rfl⟩ := done
  exact ⟨tasks, workspaces, added, placed, mounting, fits, rfl⟩

variable {taskId : String} {expected : Option Nat}

theorem currentWorkspace_ok {task : TaskRow} {workspace : WorkspaceRow}
    (done : currentWorkspace db taskId expected = .ok (task, workspace)) :
    taskRow db taskId = some (task, workspace) ∧ workspace.revision ≠ maxSafeInteger := by
  simp only [currentWorkspace, bind_eq_ok, found_eq_ok, require_eq_ok, bne_iff_ne, Prod.exists] at done
  obtain ⟨_, _, held, _, _, _, room, same⟩ := done
  cases same
  exact ⟨held, room⟩

theorem mountAdd_ok {args : MountAddArgs} (done : mountAdd db operation args = .ok applied) :
    ∃ task workspace inserted, taskRow db args.taskId = some (task, workspace) ∧
      insertMount db workspace.workspaceId args.mount operation 0 = .ok inserted ∧
      applied.db = inserted.setWorkspaceRevision workspace.workspaceId (workspace.revision + 1) ∧
      readable applied.db args.taskId args.responseBytes = true ∧ applied.running = args.mount.isWorktree := by
  simp only [mountAdd, bind_eq_ok, require_eq_ok, pure_eq_ok, Prod.exists] at done
  obtain ⟨task, workspace, held, _, _, inserted, adding, _, fits, rfl⟩ := done
  exact ⟨task, workspace, inserted, (currentWorkspace_ok held).1, adding, rfl, fits, rfl⟩

theorem mountRemove_ok {args : MountRemoveArgs} (done : mountRemove db args = .ok applied) :
    ∃ (workspace : WorkspaceRow) (mount : MountRow), db.mounts.find args.mountId = some mount ∧
      (mount.source = .worktree → mount.state ≠ .pending ∧ attemptOperationOpen db args.mountId = false) ∧ applied.db =
        (db.deleteMount args.mountId).setWorkspaceRevision workspace.workspaceId (workspace.revision + 1) ∧
      applied.running = false := by
  simp only [mountRemove, bind_eq_ok, found_eq_ok, pure_eq_ok, Prod.exists,
    filter_eq_some_iff] at done
  obtain ⟨_, workspace, _, mount, ⟨held, _⟩, _, free, rfl⟩ := done
  exact ⟨workspace, mount, held, fun worktree => by simpa [worktree] using free, rfl, rfl⟩

theorem taskUpdate_ok {title : String} (done : taskUpdate db taskId expected title = .ok applied) :
    ∃ tasks, applied.db = { db with tasks } ∧ applied.running = false := by
  simp only [taskUpdate, bind_eq_ok, pure_eq_ok] at done
  obtain ⟨_, _, rfl⟩ := done
  exact ⟨_, rfl, rfl⟩

theorem taskArchive_ok {archived : Bool} (done : taskArchive db taskId expected archived = .ok applied) :
    ∃ tasks, applied.db = { db with tasks } ∧ applied.running = false := by
  simp only [taskArchive, bind_eq_ok, pure_eq_ok] at done
  obtain ⟨_, _, _, _, rfl⟩ := done
  exact ⟨_, rfl, rfl⟩

theorem repoRegister_ok {valid : RepoRow → Bool} {row : RepoRow} (done : repoRegister valid db row = .ok applied) :
    ∃ repos, applied.db = { db with repos } ∧ applied.running = false := by
  simp only [repoRegister, bind_eq_ok, pure_eq_ok] at done
  obtain ⟨_, _, _, _, repos, _, rfl⟩ := done
  exact ⟨repos, rfl, rfl⟩

theorem repoUpdate_ok {args : RepoUpdateArgs} (done : repoUpdate db args = .ok applied) :
    ∃ repos, applied.db = { db with repos } ∧ applied.running = false := by
  simp only [repoUpdate, bind_eq_ok, pure_eq_ok] at done
  obtain ⟨_, _, _, _, rfl⟩ := done
  exact ⟨_, rfl, rfl⟩

theorem repoRemove_ok {repoId : String} (done : repoRemove db repoId expected = .ok applied) :
    ∃ repos, applied.db = { db with repos } ∧ applied.running = false := by
  simp only [repoRemove, bind_eq_ok, pure_eq_ok] at done
  obtain ⟨_, _, _, _, rfl⟩ := done
  exact ⟨_, rfl, rfl⟩

end Workspaces

namespace Runs

variable {limits : ReceiptLimits} {fits : TabReadFits} {db after : Database} {at_ : Int} {applied : Applied}

theorem insertRun_ok {row : RunRow} (done : insertRun db row = .ok after) :
    ∃ runs, db.runs.insert { row with runSeq := db.nextRunSeq } = some runs ∧
      after = { db with runs, nextRunSeq := db.nextRunSeq + 1 } := by
  simp only [insertRun, bind_eq_ok, found_eq_ok, pure_eq_ok] at done
  obtain ⟨_, _, runs, inserted, rfl⟩ := done
  exact ⟨runs, inserted, rfl⟩

theorem started_ok {run : RunRef} {cwd : String} {operationId : Option String}
    (done : started db run cwd operationId = .ok after) : deletionPending db [cwd] = false ∧ ∃ runs, db.runs.insert
        { runSeq := db.nextRunSeq, run, tabId := none, taskId := none, workspaceRevision := none, cwd, mounts := [],
          operationId, lifecycle := .starting } = some runs ∧
      after = { db with runs, nextRunSeq := db.nextRunSeq + 1 } := by
  simp only [started, bind_eq_ok, require_eq_ok, not_eq_true'] at done
  obtain ⟨_, free, inserting⟩ := done
  obtain ⟨runs, inserted, rfl⟩ := insertRun_ok inserting
  exact ⟨free, runs, inserted, rfl⟩

theorem launchTab_ok {launch : Launch} {tab : TabRow} (done : launchTab db launch = .ok (after, tab)) :
    ∃ tabs, after = { db with tabs } := by
  cases launch with
  | create =>
    simp only [launchTab, bind_eq_ok] at done
    obtain ⟨_, _, tabs, _, rfl, _⟩ := done
    exact ⟨tabs, rfl⟩
  | reopen =>
    simp only [launchTab, bind_eq_ok] at done
    obtain ⟨_, _, _, _, _, _, rfl, _⟩ := done
    exact ⟨db.tabs, rfl⟩

theorem launchRun_ok {args : LaunchArgs} {tab : TabRow} (done : launchRun db args tab = .ok after) :
    ∃ row runs tabs, row.run = args.run ∧ row.lifecycle = .starting ∧ deletionPending db (RunRow.paths row) = false ∧
      db.runs.insert row = some runs ∧ after = { db with runs, nextRunSeq := db.nextRunSeq + 1, tabs } := by
  simp only [launchRun, bind_eq_ok, require_eq_ok, not_eq_true', pure_eq_ok, Prod.exists] at done
  obtain ⟨task, workspace, _, _, _, cwd, _, _, free, recorded, inserting, rfl⟩ := done
  obtain ⟨runs, inserted, rfl⟩ := insertRun_ok inserting
  refine ⟨_, runs, _, ?_, ?_, ?_, inserted, rfl⟩
  · rfl
  · rfl
  · exact free

theorem launch_ok {args : LaunchArgs} {launched : Launched} (done : launch limits fits db args at_ = .ok launched) :
    launched.db = db ∨
      db.receipts.find args.key = none ∧ db.tombstones.find args.key = none ∧ ∃ tab row runs tabs receipts,
        row.run = args.run ∧ row.lifecycle = .starting ∧ deletionPending db (RunRow.paths row) = false ∧
        db.runs.insert row = some runs ∧ db.receipts.insert
          { toStoredReceipt := ⟨args.key, args.canonicalIntent, launchRecord args tab⟩, updatedAtMs := at_ } =
            some receipts ∧
        launched.db = { db with runs, nextRunSeq := db.nextRunSeq + 1, tabs, receipts } := by
  simp only [launch, bind_eq_ok] at done
  obtain ⟨_, _, done⟩ := done
  cases held : db.receipts.find args.key with
  | some =>
    simp only [held, bind_eq_ok, pure_eq_ok] at done
    obtain ⟨_, _, rfl⟩ := done
    exact .inl rfl
  | none =>
    right
    simp only [held, bind_eq_ok, found_eq_ok, pure_eq_ok, Prod.exists] at done
    obtain ⟨opened, tab, opening, recorded, recording, _, _, _, _, inserted, insertion, finished, rfl, rfl⟩ := done
    obtain ⟨tabs, rfl⟩ := launchTab_ok opening
    obtain ⟨row, runs, others, names, starts, free, added, rfl⟩ := launchRun_ok recording
    obtain ⟨alive, receipts, grown, rfl⟩ := insert_ok insertion
    exact ⟨rfl, alive, tab, row, runs, others, receipts, names, starts, free, added, grown, rfl⟩

theorem tabCreate_ok {tab : NewTab} (done : tabCreate fits db tab = .ok applied) :
    ∃ tabs, applied.db = { db with tabs } ∧ applied.running = false := by
  simp only [tabCreate, bind_eq_ok, pure_eq_ok, Prod.exists] at done
  obtain ⟨_, _, _, _, _, _, _, tabs, _, _, _, rfl⟩ := done
  exact ⟨tabs, rfl, rfl⟩

def leaveTab (tabId : String) (row : RunRow) : RunRow :=
  if row.tabId = some tabId then { row with tabId := none } else row

theorem leaveTab_runSeq (tabId : String) (row : RunRow) : (leaveTab tabId row).runSeq = row.runSeq := by
  unfold leaveTab
  split <;> rfl

theorem tabClose_ok {tabId : String} (done : tabClose db tabId = .ok applied) :
    ∃ tabs, applied.db = { db with tabs, runs := db.runs.map (leaveTab tabId) (leaveTab_runSeq tabId) } ∧
      applied.running = false := by
  simp only [tabClose, bind_eq_ok, pure_eq_ok] at done
  obtain ⟨_, _, _, _, _, _, rfl⟩ := done
  exact ⟨_, rfl, rfl⟩

theorem tabInputAbandon_ok {target : OperationReceiptKey} {expected : Nat}
    (done : tabInputAbandon limits db target expected at_ = .ok applied) :
    ∃ row, db.receipts.find target = some row ∧ row.record.method = .tabSend ∧
      row.record.state = .requiresAttention ∧ row.record.revision = expected ∧ applied.running = false ∧
      applied.db = putRecord db target
        { row.record with revision := row.record.revision + 1, state := .cancelled } at_ := by
  simp only [tabInputAbandon, bind_eq_ok, found_eq_ok, require_eq_ok, and_eq_true, beq_iff_eq, pure_eq_ok,
    receiptOf_eq_some] at done
  obtain ⟨current, ⟨row, held, rfl⟩, _, ⟨⟨method, waits⟩, names⟩, _, _, closed, replaced, rfl⟩ := done
  obtain ⟨_, _, _, rfl⟩ := replace_ok replaced
  exact ⟨row, held, method, waits, names, rfl, rfl⟩

end Runs

variable {mount : MountRow} {managed : ManagedRow}

namespace Bindings
open Store.Runs Store.Workspaces

variable {limits : ReceiptLimits} {db after : Database} {at_ : Int} {operation : OperationReceiptKey}
  {applied : Applied}

theorem bindingConvert_ok {args : ConvertArgs} (done : bindingConvert db operation args = .ok applied) :
    ∃ mount attempts conversions, db.mounts.find args.mountId = some mount ∧ mount.source = .checkout ∧
      mount.state = .ready ∧ attemptOperationOpen db args.mountId = false ∧ applied.running = true ∧
      db.attempts.insert (plannedAttempt mount args.attemptId args.mountId operation 0
        ⟨args.branch, args.spec.baseRef, args.spec.noFetch⟩ (some args.path)) = some attempts ∧
      db.conversions.insert ⟨args.attemptId, args.mountId, mount.workspaceId, mount.path, args.spec, .pending⟩ =
        some conversions ∧ applied.db = { db with attempts, conversions } := by
  simp only [bindingConvert, bind_eq_ok, found_eq_ok, require_eq_ok, and_eq_true, beq_iff_eq, not_eq_true',
    pure_eq_ok, Prod.exists, mountOfTask_eq_some] at done
  obtain ⟨mount, workspace, task, ⟨held, _⟩, _, _, _, _, _, ⟨source, ready⟩, _, free, repo, _, _, _, _, _, _, _, planned,
    planning, conversions, inserted, rfl⟩ := done
  obtain ⟨same, attempts, there, added, rfl⟩ := insertAttempt_ok planning
  rw [held] at there
  cases there
  exact ⟨mount, attempts, conversions, held, source, ready, free, rfl, added, inserted, rfl⟩

theorem deletable_eq_some : deletable db mount = some managed ↔
    db.managed.find mount.path = some managed ∧ managed.mountId = some mount.mountId ∧
      managed.state.reusable = false := by
  simp [deletable, managedAt]

theorem bindingDelete_ok {args : DeleteArgs} (done : bindingDelete db operation args = .ok applied) :
    ∃ mount managed deletions workspaces, db.mounts.find args.mountId = some mount ∧ mount.source = .worktree ∧
      mount.state ≠ .pending ∧ attemptOperationOpen db args.mountId = false ∧ pendingDeletion db args.mountId = false ∧
      db.managed.find mount.path = some managed ∧ managed.mountId = some mount.mountId ∧
      managed.state.reusable = false ∧ liveRuns db mount.path args.exited none = [] ∧ applied.running = true ∧
      db.deletions.insert
        ⟨operation, managed.worktreeId, args.mountId, mount.workspaceId, mount.state, .pending⟩ = some deletions ∧
      applied.db = { db with
        mounts := db.mounts.update args.mountId (fun row => { row with state := .pending }) (fun _ => rfl)
        deletions
        workspaces } := by
  simp only [bindingDelete, bind_eq_ok, found_eq_ok, require_eq_ok, beq_iff_eq, not_eq_true', or_eq_false_iff,
    beq_eq_false_iff_ne, pure_eq_ok, Prod.exists, mountOfTask_eq_some, deletable_eq_some,
    List.isEmpty_iff] at done
  obtain ⟨mount, workspace, task, ⟨held, _⟩, _, _, _, source, _, ⟨⟨still, free⟩, alone⟩, managed, ⟨place, bound, holds⟩, _, _,
    _, quiet, deletions, inserted, rfl⟩ := done
  exact ⟨mount, managed, deletions, _, held, source, still, free, alone, place, bound, holds, quiet, rfl, inserted, rfl⟩

theorem boundMount_eq_some {mountId : String} {workspace : WorkspaceRow} {task : TaskRow} :
    boundMount db mountId = some (mount, workspace, task) ↔ db.mounts.find mountId = some mount ∧
      db.workspaces.find mount.workspaceId = some workspace ∧ db.tasks.find workspace.taskId = some task := by
  simp only [boundMount, bind_eq_bind, bind_eq_some_iff, pure_def, Option.some.injEq,
    Prod.mk.injEq]
  constructor
  · rintro ⟨_, held, _, place, _, owned, rfl, rfl, rfl⟩
    exact ⟨held, place, owned⟩
  · rintro ⟨held, place, owned⟩
    exact ⟨mount, held, workspace, place, task, owned, rfl, rfl, rfl⟩

def switchedMount (attempt : AttemptRow) (managed : ManagedRow) (row : MountRow) : MountRow :=
  { row with
    source := .worktree
    path := attempt.path
    entryPath := some attempt.path
    state := .ready
    branch := some attempt.branch
    baseCommit := some managed.baseCommit
    error := none }

theorem switchedMount_mountId (attempt : AttemptRow) (managed : ManagedRow) (row : MountRow) :
    (switchedMount attempt managed row).mountId = row.mountId := rfl

theorem switchMount_ok {attempt : AttemptRow} {conversion : ConversionRow}
    (done : switchMount db attempt managed conversion mount = .ok after) : ∃ preparations workspaces,
      db.preparations.insert ⟨mount.mountId, conversion.spec, attempt.attemptId⟩ = some preparations ∧ after = { db with
        workspaces
        mounts := db.mounts.update mount.mountId (switchedMount attempt managed)
          (switchedMount_mountId attempt managed)
        preparations
        managed := (readyManaged db managed.worktreeId mount.mountId).managed
        attempts := db.attempts.update attempt.attemptId (fun row => { row with outcome := .ready }) (fun _ => rfl)
        conversions := db.conversions.update attempt.attemptId (fun row => { row with outcome := .switched })
          (fun _ => rfl) } := by
  simp only [switchMount, bind_eq_ok, found_eq_ok, pure_eq_ok] at done
  obtain ⟨preparations, inserted, rfl⟩ := done
  exact ⟨preparations, _, inserted, rfl⟩

theorem switch_ok {args : SwitchArgs} (done : switch limits db args at_ = .ok after) :
    ∃ attempt conversion receipt managed mount task switched final, actable db args.attemptId args.actor = some attempt ∧
      attempt.abandon = none ∧ db.conversions.find args.attemptId = some conversion ∧ conversion.outcome = .pending ∧
      runningReceipt db attempt.operation = some receipt ∧ ownManaged db attempt = some managed ∧
      managed.state = .intent ∧ db.mounts.find conversion.mountId = some mount ∧ mount.source = .checkout ∧
      mount.state = .ready ∧ mount.path = conversion.sourcePath ∧
      switchMount db attempt managed conversion mount = .ok switched ∧
      readable switched (task : TaskRow).taskId args.responseBytes = true ∧
      settledRecord receipt (attemptsOf switched attempt.operation) (switched.workspaceRevision mount.workspaceId) =
        some final ∧ replaceReceipt limits switched attempt.operation receipt final at_ = some after := by
  simp only [switch, bind_eq_ok, found_eq_ok, require_eq_ok, isNone_iff_eq_none, filter_eq_some_iff,
    beq_iff_eq, and_eq_true, Prod.exists, boundMount_eq_some] at done
  obtain ⟨attempt, acts, _, free, conversion, ⟨converts, pending⟩, receipt, running, managed, owns, _, intent, mount,
    workspace, task, ⟨held, _⟩, _, _, _, ⟨⟨source, ready⟩, same⟩, _, _, switched, switching, _, fits, final, settled,
    replaced⟩ := done
  exact ⟨attempt, conversion, receipt, managed, mount, task, switched, final, acts, free, converts, pending, running,
    owns, intent, held, source, ready, same, switching, fits, settled, replaced⟩

theorem deletionRow_eq_some {deletion : DeletionRow} : deletionRow db operation = some deletion ↔
    db.deletions.find operation = some deletion ∧ ∃ managed ∈ db.managed, managed.worktreeId = deletion.worktreeId := by
  simp [deletionRow, Table.mem_def]

theorem finishDelete_ok {args : FinishDeleteArgs} (done : finishDelete limits db args at_ = .ok after) :
    ∃ deletion receipt revision, db.deletions.find args.operation = some deletion ∧ deletion.outcome = .pending ∧
      runningReceipt db args.operation = some receipt ∧
      replaceReceipt limits (endDeletion db deletion args.restored.isSome) args.operation receipt
        (deletionRecord receipt deletion revision args.restored) at_ = some after := by
  simp only [finishDelete, bind_eq_ok, found_eq_ok, require_eq_ok, beq_iff_eq, deletionRow_eq_some] at done
  obtain ⟨deletion, ⟨held, _⟩, receipt, running, _, pending, replaced⟩ := done
  exact ⟨deletion, receipt, _, held, pending, running, replaced⟩

end Bindings

/-! Effects that leave receipts and runs alone. -/

namespace Aside
open Store.Runs Store.Workspaces Store.Bindings

variable {db after : Database}

theorem insertMount {mount : NewMount} {operation : OperationReceiptKey}
    (done : Workspaces.insertMount db workspaceId mount operation position = .ok after) : Aside db after := by
  obtain ⟨_, _, ⟨_, _, rfl⟩ | ⟨_, _, _, _, _, _, _, _, rfl⟩⟩ := insertMount_ok done <;>
    exact ⟨rfl, rfl, rfl, rfl, rfl, rfl, rfl, rfl⟩

theorem insertMounts {mounts : List NewMount} {operation : OperationReceiptKey}
    (done : Workspaces.insertMounts db workspaceId operation mounts position = .ok after) : Aside db after :=
  insertMounts_keeps (fun _ _ _ _ _ inserted sofar => sofar.trans (insertMount inserted)) done (refl db)

theorem advancePrior (db : Database) (path : String) (prior : PriorAttempt) (step : StepEntry) :
    Aside db (advancePrior db path prior step) := by
  unfold Worktrees.advancePrior
  dsimp only
  split <;> exact ⟨rfl, rfl, rfl, rfl, rfl, rfl, rfl, rfl⟩

theorem releaseIntent (db : Database) (row : AttemptRow) (own : Option ManagedRow) :
    Aside db (releaseIntent db row own) := by
  unfold Worktrees.releaseIntent
  split
  · split
    · exact setManaged ..
    · exact refl db
  · exact refl db

theorem failConversion (db : Database) (attemptId : String) : Aside db (failConversion db attemptId) :=
  ⟨rfl, rfl, rfl, rfl, rfl, rfl, rfl, rfl⟩

theorem settleFailed (db : Database) (row : AttemptRow) (own : Option ManagedRow) (current : Bool)
    (error : DomainError) : Aside db (settleFailed db row own current error) := by
  refine Aside.trans ?_ (failConversion ..)
  have failed := (releaseIntent db row own).trans
    (setAttempt _ row.attemptId (fun row => { row with outcome := .failed, error := some error }) (fun _ => rfl))
  split
  · exact failed.trans (setMount ..)
  · exact failed

theorem settleAttempt {row : AttemptRow} {outcome : Option DomainError}
    (done : settleAttempt db row outcome = .ok after) : Aside db after := by
  obtain ⟨_, _, _, _, _, rfl⟩ | ⟨_, _, rfl⟩ := settleAttempt_ok done
  · exact ⟨rfl, rfl, rfl, rfl, rfl, rfl, rfl, rfl⟩
  · exact settleFailed ..

theorem settledAttempt (db : Database) (current : Bool) (row : AttemptRow) :
    Aside db (settledAttempt db current row) := by
  unfold Worktrees.settledAttempt
  split
  · exact bumpWorkspace ..
  · exact refl db

theorem abandonAttempt (db : Database) (attempt : Attempt) : Aside db (abandonAttempt db attempt) := by
  unfold Worktrees.abandonAttempt
  split
  · have failed := ((releaseIntent db attempt.toAttemptRow
      (attempt.managed.filter (fun managed => some managed.worktreeId == attempt.worktreeId))).trans
        (setAttempt _ attempt.attemptId (fun row => { row with outcome := .failed, error := some notResumable })
          (fun _ => rfl))).trans (failConversion _ attempt.attemptId)
    split
    · exact failed.trans (setMount ..)
    · exact failed
  · exact refl db

theorem abandonAttempts (db : Database) (attempts : List Attempt) : Aside db (abandonAttempts db attempts) :=
  (foldl abandonAttempt attempts db).trans (foldl bumpWorkspace _ _)

theorem claimAll (db : Database) (abandon : OperationReceiptKey) (attempts : List Attempt) :
    Aside db (claimAll db abandon attempts) := by
  exact foldl (fun db attempt => setAttempt db attempt.attemptId (claim abandon) (claim_attemptId abandon)) attempts db

theorem switchMount {attempt : AttemptRow} {conversion : ConversionRow}
    (done : Bindings.switchMount db attempt managed conversion mount = .ok after) : Aside db after := by
  obtain ⟨_, _, _, rfl⟩ := switchMount_ok done
  exact ⟨rfl, rfl, rfl, rfl, rfl, rfl, rfl, rfl⟩

end Aside

namespace System
open Store.Runs Store.Workspaces Store.Bindings

variable {server : Server} {limits : ReceiptLimits} {db after : Database} {at_ : Int}

theorem insertReceipt_ok {stored : StoredReceipt} (done : insertReceipt db stored at_ = .ok after) :
    db.tombstones.find stored.key = none ∧ ∃ receipts,
      db.receipts.insert { toStoredReceipt := stored, updatedAtMs := at_ } = some receipts ∧
        after = { db with receipts } := by
  simp only [insertReceipt, bind_eq_ok, found_eq_ok] at done
  obtain ⟨_, inserted, rfl⟩ := done
  exact insert_ok inserted

variable {current : StoredReceipt} {next : OperationRecord}

theorem follow_ok (done : follow limits db current next at_ = some after) :
    isSuccessor current.record next = true ∧ ∃ row, db.receipts.find current.key = some row ∧
      row.record.revision = current.record.revision ∧ after = putRecord db current.key next at_ := by
  simp only [follow, ite_none_right_eq_some, and_eq_true] at done
  obtain ⟨⟨succeeds, _⟩, replaced⟩ := done
  exact ⟨succeeds, replace_ok replaced⟩

theorem update_ok (done : update limits db current next at_ = .ok after) :
    terminalState current.record.state = false ∧ follow limits db current next at_ = some after := by
  simp only [update, bind_eq_ok, require_eq_ok, found_eq_ok, not_eq_true'] at done
  obtain ⟨_, unended, followed⟩ := done
  exact ⟨unended, followed⟩

theorem recover_ok {expected : Nat} (done : recover limits db current expected next at_ = .ok after) :
    current.record.state = .requiresAttention ∧ current.record.revision = expected ∧
      recoveryState next.state = true ∧ follow limits db current next at_ = some after := by
  simp only [recover, bind_eq_ok, require_eq_ok, found_eq_ok, and_eq_true, beq_iff_eq] at done
  obtain ⟨_, ⟨⟨waits, names⟩, recovers⟩, followed⟩ := done
  exact ⟨waits, names, recovers, followed⟩

theorem recoverStart_ok {key : OperationReceiptKey} (done : recoverStart limits db key at_ = .ok after) :
    ∃ row, db.receipts.find key = some row ∧ terminalState row.record.state = false ∧
      after = putRecord db key { row.record with revision := row.record.revision + 1, state := .recovering } at_ := by
  simp only [recoverStart, bind_eq_ok, found_eq_ok] at done
  obtain ⟨row, held, _, _, updated⟩ := done
  obtain ⟨unended, followed⟩ := update_ok updated
  obtain ⟨_, _, _, _, rfl⟩ := follow_ok followed
  have same := key_of_find held
  rw [← same]
  exact ⟨row, same ▸ held, unended, rfl⟩

theorem recoverEnd_ok {key : OperationReceiptKey} {progress : Progress}
    (done : recoverEnd limits db key progress at_ = .ok after) :
    ∃ row next, db.receipts.find key = some row ∧ row.record.state = .recovering ∧ isSuccessor row.record next = true ∧
      (verified db key row.record progress = some next ∨ next = unprovenRecord row.record) ∧
        after = putRecord db key next at_ := by
  simp only [recoverEnd, bind_eq_ok, require_eq_ok, found_eq_ok, beq_iff_eq] at done
  obtain ⟨row, held, _, recovering, done⟩ := done
  have same := key_of_find held
  split at done
  next ended proven =>
    simp only [pure_eq_ok] at done
    subst done
    obtain ⟨next, proves, followed⟩ := bind_eq_some_iff.mp proven
    obtain ⟨succeeds, _, _, _, rfl⟩ := follow_ok followed
    exact ⟨row, next, held, recovering, succeeds, .inl proves, by rw [same]⟩
  next unproven =>
    obtain ⟨_, followed⟩ := update_ok done
    obtain ⟨succeeds, _, _, _, rfl⟩ := follow_ok followed
    exact ⟨row, _, held, recovering, succeeds, .inr rfl, by rw [same]⟩

theorem recordProcess_ok {processId : String} {operation : OperationReceiptKey}
    (done : recordProcess db processId operation = .ok after) : ∃ processes, after = { db with processes } := by
  simp only [recordProcess, bind_eq_ok, pure_eq_ok] at done
  obtain ⟨_, _, processes, _, rfl⟩ := done
  exact ⟨processes, rfl⟩

theorem write_call_ok {request : WriteRequest} {named : Write}
    (done : (Call.write request named at_).transact server db = .ok after) :
    after = db ∨ db.receipts.find request.key = none ∧ db.tombstones.find request.key = none ∧ ∃ applied receipts,
      named.apply server request.key at_ db = .ok applied ∧ applied.db.receipts.insert
        { toStoredReceipt := ⟨request.key, request.canonicalIntent, writtenRecord request applied⟩,
          updatedAtMs := at_ } = some receipts ∧
      after = { applied.db with receipts } := by
  simp only [Call.transact, Except.map] at done
  split at done
  next => cases done
  rename_i written written_ok
  cases done
  obtain ⟨_, same | ⟨unused, alive, applied, receipts, applies, _, inserted, left⟩⟩ := write_ok written_ok
  · exact .inl same
  · exact .inr ⟨unused, alive, applied, receipts, applies, inserted, left⟩

end System
end Cove.Store
