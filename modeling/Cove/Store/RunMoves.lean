import Cove.Store.ReceiptMoves

/-!
How one store call changes the run records: a launch adds one in directories no pending deletion holds, a refused spawn
drops its own, and every other call keeps them with their directories, ended ones ended.
-/

namespace Cove.Store.System
open Base Base.Checks Protocol.Identity Bool
open Store.Receipts Store.Worktrees Store.Runs Store.Bindings

structure Persists (old row : RunRow) : Prop where
  run : row.run = old.run
  paths : RunRow.paths row = RunRow.paths old
  live : row.lifecycle.live = true → old.lifecycle.live = true

/-- What one call does to the run records. -/
inductive RunsStep (s : State) (call : Call) (after : Database) : Prop
  | kept (keeps : ∀ row ∈ after.runs, ∃ old ∈ s.db.runs, Persists old row)
      (stays : ∀ old ∈ s.db.runs, ∃ row ∈ after.runs, row.run = old.run)
  | added (row : RunRow) (handed : s.handedOut row.run = true)
      (free : deletionPending s.db (RunRow.paths row) = false) (inserted : s.db.runs.insert row = some after.runs)
      (managed : after.managed = s.db.managed) (deletions : after.deletions = s.db.deletions)
  | dropped (run : RunRef) (row : RunRow) (calls : call = .notStarted run) (inside : row ∈ s.db.runs)
      (names : row.run = run) (starting : row.lifecycle = .starting)
      (left : after.runs = s.db.runs.delete row.runSeq)

section Calls

variable {server : Server} {s : State} {call : Call} {after : Database} {at_ : Int}

theorem RunsStep.same (runs : after.runs = s.db.runs) : RunsStep s call after := by
  refine .kept ?_ ?_
  · intro row inside
    rw [runs] at inside
    exact ⟨row, inside, rfl, rfl, id⟩
  · intro old inside
    exact ⟨old, by rw [runs]; exact inside, rfl⟩

theorem RunsStep.map {change : RunRow → RunRow} (persists : ∀ row, Persists row (change row))
    (left : ∀ row, row ∈ after.runs ↔ ∃ old ∈ s.db.runs, change old = row) : RunsStep s call after := by
  refine .kept ?_ ?_
  · intro row inside
    obtain ⟨old, there, rfl⟩ := (left row).mp inside
    exact ⟨old, there, persists old⟩
  · intro old inside
    exact ⟨change old, (left _).mpr ⟨old, inside, rfl⟩, (persists old).run⟩

theorem RunsStep.setLifecycle {wanted : RunRow → Bool} (lifecycle : RunLifecycle)
    (alive : ∀ row, wanted row = true → row.lifecycle.live = true) :
    RunsStep s call (Runs.setLifecycle s.db wanted lifecycle) := by
  refine RunsStep.map (fun row => ?_) (fun row => by rw [Runs.setLifecycle, Table.mem_map])
  by_cases hit : wanted row = true
  · rw [if_pos hit]
    exact ⟨rfl, rfl, fun _ => alive row hit⟩
  · rw [if_neg hit]
    exact ⟨rfl, rfl, id⟩

theorem leaveTab_persists (tabId : String) (row : RunRow) : Persists row (leaveTab tabId row) := by
  unfold leaveTab
  split <;> exact ⟨rfl, rfl, id⟩

theorem live_of_starting {row : RunRow} (starting : row.lifecycle = .starting) : row.lifecycle.live = true := by
  rw [starting]
  rfl

theorem RunsStep.notStarted (s : State) (run : RunRef) : RunsStep s (.notStarted run) (Runs.notStarted s.db run) := by
  unfold Runs.notStarted
  split
  next => exact .same rfl
  rename_i row chosen
  have matching := List.find?_some chosen
  simp only [and_eq_true, beq_iff_eq] at matching
  exact .dropped run row rfl (List.mem_of_find?_eq_some chosen) matching.1 matching.2 rfl

theorem RunsStep.write {request : WriteRequest} {named : Write}
    (done : (Call.write request named at_).transact server s.db = .ok after) : RunsStep s call after := by
  rcases write_call_ok done with rfl | ⟨_, _, applied, receipts, applies, _, rfl⟩
  · exact .same rfl
  obtain ⟨_, same | ⟨tabId, left⟩, _⟩ := apply_effects applies
  · exact .same same
  · exact RunsStep.map (leaveTab_persists tabId) (fun row => by rw [left, Table.mem_map])

theorem call_runsStep (allowed : s.allows server call = true) (done : call.transact server s.db = .ok after) :
    RunsStep s call after := by
  cases call with
  | insert =>
    obtain ⟨_, receipts, _, rfl⟩ := insertReceipt_ok done
    exact .same rfl
  | update =>
    obtain ⟨_, followed⟩ := update_ok done
    obtain ⟨_, _, _, _, rfl⟩ := follow_ok followed
    exact .same rfl
  | recover =>
    obtain ⟨_, _, _, followed⟩ := recover_ok done
    obtain ⟨_, _, _, _, rfl⟩ := follow_ok followed
    exact .same rfl
  | recoverStart =>
    obtain ⟨_, _, _, rfl⟩ := recoverStart_ok done
    exact .same rfl
  | recoverEnd =>
    obtain ⟨_, _, _, _, _, _, rfl⟩ := recoverEnd_ok done
    exact .same rfl
  | write => exact .write done
  | launch =>
    obtain ⟨launched, launches, rfl⟩ := map_eq_ok.mp done
    rcases launch_ok launches with same | ⟨_, _, _, row, runs, tabs, receipts, run, _, free, inserted, _, left⟩
    · exact .same (by rw [same])
    · simp only [State.allows, and_eq_true] at allowed
      exact .added row (by rw [run]; exact allowed.2) free (by rw [left]; exact inserted) (by rw [left]) (by rw [left])
  | advance =>
    obtain ⟨attempt, _, ⟨prior, _, _, rfl⟩ | ⟨_, rfl⟩⟩ := advance_ok done
    · exact .same (Aside.advancePrior ..).runs
    · exact .same rfl
  | recordIntent =>
    obtain ⟨_, _, _, _, _, _, _, _, _, _, _, _, _, rfl⟩ := recordIntent_ok done
    exact .same rfl
  | settle =>
    obtain ⟨settled, settles, rfl⟩ := map_eq_ok.mp done
    obtain ⟨row, receipt, ended, _, _, runs, settling, recorded⟩ := settle_ok settles
    have aside := (Aside.settleAttempt settling).trans (Aside.settledAttempt ended (currentAttempt s.db row.attemptId) row)
    rcases recorded with ⟨_, left⟩ | ⟨final, _, replaced⟩
    · exact .same (by rw [left]; exact aside.runs)
    · obtain ⟨_, _, _, _, left⟩ := replaceReceipt_ok replaced
      exact .same (by rw [left]; exact aside.runs)
  | attention =>
    obtain ⟨receipt, runs, replaced⟩ := attention_ok done
    obtain ⟨_, _, _, _, rfl⟩ := replaceReceipt_ok replaced
    exact .same rfl
  | finishAbandon =>
    simp only [Call.transact, bind_eq_ok, found_eq_ok] at done
    obtain ⟨target, _, done⟩ := done
    obtain ⟨_, _, half, _, _, _, first, second⟩ := finishAbandon_ok done
    obtain ⟨_, _, _, _, rfl⟩ := replaceReceipt_ok first
    obtain ⟨_, _, _, _, rfl⟩ := replaceReceipt_ok second
    exact .same (Aside.abandonAttempts ..).runs
  | switch =>
    obtain ⟨_, _, _, _, _, _, switched, _, _, _, _, _, _, _, _, _, _, _, _, switching, _, _, replaced⟩ := switch_ok done
    obtain ⟨_, _, _, _, rfl⟩ := replaceReceipt_ok replaced
    exact .same (Aside.switchMount switching).runs
  | finishDelete args =>
    obtain ⟨deletion, _, _, _, _, _, replaced⟩ := finishDelete_ok done
    obtain ⟨_, _, _, _, rfl⟩ := replaceReceipt_ok replaced
    refine .same ?_
    cases args.restored.isSome <;> rfl
  | started =>
    obtain ⟨free, runs, inserted, rfl⟩ := started_ok done
    simp only [State.allows, and_eq_true] at allowed
    refine .added _ allowed.2 ?_ inserted rfl rfl
    exact free
  | spawned =>
    cases done
    refine RunsStep.setLifecycle .running (fun row hit => ?_)
    simp only [and_eq_true, beq_iff_eq] at hit
    exact live_of_starting hit.2
  | notStarted run =>
    cases done
    exact RunsStep.notStarted s run
  | exited =>
    cases done
    exact RunsStep.setLifecycle .exited (fun row hit => ((and_eq_true ..).mp hit).2)
  | stoppedWithServer =>
    cases done
    exact RunsStep.setLifecycle .stoppedWithServer (fun row hit => ((and_eq_true ..).mp hit).2)
  | interruptEarlier =>
    cases done
    exact RunsStep.setLifecycle .interrupted (fun row hit => ((and_eq_true ..).mp hit).2)
  | purge =>
    obtain ⟨receipts, tombstones, processes, rfl⟩ := purge_eq done
    exact .same rfl
  | recordProcess =>
    obtain ⟨processes, rfl⟩ := recordProcess_ok done
    exact .same rfl
  | endProcess =>
    cases done
    exact .same rfl

end Calls

end Cove.Store.System
