import Cove.Base.Run
import Cove.Store.Ledger

/-!
Keeping only the last entry of each step loses nothing that is read from a ledger, and what the executor records of an
artifact it created stays listed until its removal is recorded.
-/

namespace Cove.Store.Ledger
open Base.Run List

/-- `appendStep` without its last line. -/
def uncompacted (steps : List StepEntry) (entry : StepEntry) : List StepEntry :=
  match steps.getLast? with
  | some last =>
    if entry.outcome != .started && last.step == entry.step && last.outcome.unresolved then steps.dropLast ++ [entry]
    else steps ++ [entry]
  | none => steps ++ [entry]

def Artifact.creation : Artifact → StepName
  | .worktree => .worktree
  | .branch => .branch

def Artifact.removal : Artifact → StepName
  | .worktree => .removeWorktree
  | .branch => .deleteBranch

/-- What the state may prove about a step that was not seen to end. -/
def verdicts : StepName → List StepOutcome
  | .fetch => [.void]
  | .branch | .worktree | .checkout => [.verified, .void, .unproven]
  | .removeWorktree | .deleteBranch => [.removed, .void]

/-- What the executor records: a step as it starts and as it ends, what the state proves of the last step, and what
became of an artifact that was to be removed. -/
inductive Records (steps : List StepEntry) : StepEntry → Prop where
  | fetch : Records steps ⟨.fetch, .started⟩
  | create (step : StepName) (creates : step ∈ [.branch, .worktree, .checkout]) (missing : credited steps step = false) :
      Records steps ⟨step, .started⟩
  | remove (artifact : Artifact) (own : credited steps artifact.creation = true) :
      Records steps ⟨artifact.removal, .started⟩
  | ended (step : StepName) (outcome : StepOutcome) (last : steps.getLast? = some ⟨step, .started⟩)
      (seen : outcome ∈ [.succeeded, .failed, .uncertain]) : Records steps ⟨step, outcome⟩
  | resolved (last : StepEntry) (verdict : StepOutcome) (known : steps.getLast? = some last)
      (unresolved : last.outcome.unresolved = true) (proved : verdict ∈ verdicts last.step) :
      Records steps ⟨last.step, verdict⟩
  | settled (artifact : Artifact) (outcome : StepOutcome) (left : artifact ∈ remainingArtifacts steps)
      (own : outcome = .preserved ∨ outcome = .removed ∧ credited steps artifact.creation = true) :
      Records steps ⟨artifact.removal, outcome⟩

variable {steps : List StepEntry} {entry : StepEntry} {artifact : Artifact} {step : StepName}

theorem lastRun_append : lastRun (steps ++ [entry]) step = if entry.step = step then some entry else lastRun steps step := by
  simp [lastRun]
  split <;> simp_all

theorem lastRun_cons : lastRun (entry :: steps) step =
    (lastRun steps step).or (if entry.step = step then some entry else none) := by
  simp [lastRun, find?_cons]
  split <;> simp_all

theorem lastRun_last (last : steps.getLast? = some entry) : lastRun steps entry.step = some entry := by
  obtain ⟨earlier, rfl⟩ := getLast?_eq_some_iff.mp last
  simp [lastRun_append]

theorem uncompacted_cases (steps : List StepEntry) (entry : StepEntry) : ∃ earlier,
    uncompacted steps entry = earlier ++ [entry] ∧
      (earlier = steps ∨ ∃ last, steps = earlier ++ [last] ∧ last.step = entry.step) := by
  unfold uncompacted
  split
  · rename_i last known
    obtain ⟨earlier, rfl⟩ := getLast?_eq_some_iff.mp known
    split
    · rename_i replaces
      refine ⟨earlier, by simp, .inr ⟨last, rfl, ?_⟩⟩
      simp at replaces
      exact replaces.1.2
    · exact ⟨_, rfl, .inl rfl⟩
  · exact ⟨_, rfl, .inl rfl⟩

theorem lastRun_uncompacted :
    lastRun (uncompacted steps entry) step = if entry.step = step then some entry else lastRun steps step := by
  obtain ⟨earlier, whole, rfl | ⟨last, rfl, same⟩⟩ := uncompacted_cases steps entry
  · rw [whole, lastRun_append]
  · rw [whole, lastRun_append, lastRun_append, same]
    split <;> rfl

theorem any_step : steps.any (fun other => other.step == step) = (lastRun steps step).isSome := by
  rw [lastRun, Bool.eq_iff_iff]
  simp

theorem lastRun_lastOfEach (steps : List StepEntry) (step : StepName) : lastRun (lastOfEach steps) step = lastRun steps step := by
  induction steps with
  | nil => rfl
  | cons entry later ih =>
    rw [lastRun_cons, lastOfEach, any_step]
    split
    · rename_i again
      rw [ih]
      split
      · rename_i same
        subst same
        obtain ⟨run, found⟩ := Option.isSome_iff_exists.mp again
        simp [found]
      · simp
    · rw [lastRun_cons, ih]

theorem lastOfEach_nodup (steps : List StepEntry) : ((lastOfEach steps).map StepEntry.step).Nodup := by
  induction steps with
  | nil => exact nodup_nil
  | cons entry later ih =>
    rw [lastOfEach]
    split
    · exact ih
    rename_i none_
    refine nodup_cons.mpr ⟨?_, ih⟩
    intro member
    obtain ⟨other, kept, same⟩ := mem_map.mp member
    have found : ((lastOfEach later).any (fun other => other.step == entry.step)) = true :=
      any_eq_true.mpr ⟨other, kept, beq_iff_eq.mpr same⟩
    rw [any_step, lastRun_lastOfEach, ← any_step] at found
    exact none_ found

theorem lastOfEach_append (steps : List StepEntry) (entry : StepEntry) :
    (lastOfEach (steps ++ [entry])).getLast? = some entry := by
  induction steps with
  | nil => rfl
  | cons first later ih =>
    rw [cons_append, lastOfEach]
    split
    · exact ih
    · rw [getLast?_cons, ih]
      rfl

theorem lastRun_appendStep :
    lastRun (appendStep steps entry) step = if entry.step = step then some entry else lastRun steps step :=
  (lastRun_lastOfEach (uncompacted steps entry) step).trans lastRun_uncompacted

theorem credited_appendStep (apart : entry.step ≠ step) : credited (appendStep steps entry) step = credited steps step := by
  simp [credited, lastRun_appendStep, apart]

theorem Artifact.apart (artifact other : Artifact) : artifact.removal ≠ other.creation := by
  cases artifact <;> cases other <;> decide

/-- A step that created its artifact is not run again. -/
theorem Records.missing (records : Records steps entry) (creates : entry.step = artifact.creation) :
    credited steps artifact.creation = false := by
  rw [← creates]
  cases records with
  | fetch => cases artifact <;> cases creates
  | create step _ missing => exact missing
  | remove other => exact absurd creates (other.apart artifact)
  | ended step outcome last => simp [credited, lastRun_last last]
  | resolved last verdict known unresolved =>
    have run := lastRun_last known
    cases outcome : last.outcome <;> simp_all [credited, StepOutcome.unresolved]
  | settled other => exact absurd creates (other.apart artifact)

/-- Whatever was begun to be removed is the attempt's own, unless it was left in place. -/
def Owned (steps : List StepEntry) : Prop := ∀ (artifact : Artifact) run, lastRun steps artifact.removal = some run →
  run.outcome = .preserved ∨ credited steps artifact.creation = true

theorem Owned.appendStep (owned : Owned steps) (records : Records steps entry) : Owned (appendStep steps entry) := by
  intro artifact run found
  rw [lastRun_appendStep] at found
  by_cases removes : entry.step = artifact.removal
  · rw [if_pos removes] at found
    obtain rfl := Option.some.inj found
    rw [credited_appendStep (removes ▸ artifact.apart artifact)]
    cases records with
    | fetch => cases artifact <;> cases removes
    | create step creates => cases artifact <;> simp_all [Artifact.removal]
    | remove other own => exact .inr (by cases other <;> cases artifact <;> first | exact own | cases removes)
    | ended step outcome last =>
      have started := owned artifact _ (removes ▸ lastRun_last last)
      exact .inr (started.resolve_left nofun)
    | resolved last verdict known unresolved =>
      have begun := owned artifact _ (removes ▸ lastRun_last known)
      exact .inr (begun.resolve_left (fun preserved => by simp [preserved, StepOutcome.unresolved] at unresolved))
    | settled other outcome left own =>
      have same : other = artifact := by cases other <;> cases artifact <;> first | rfl | cases removes
      exact own.imp id (fun removed => same ▸ removed.2)
  · rw [if_neg removes] at found
    by_cases creates : entry.step = artifact.creation
    · rcases owned artifact run found with kept | own
      · exact .inl kept
      · rw [records.missing creates] at own
        cases own
    · rw [credited_appendStep creates]
      exact owned artifact run found

theorem listed (after : List StepEntry) (guarded : Guarded Records appendStep steps after)
    (own : credited steps artifact.creation = true) (left : removed steps artifact.removal = false)
    (kept : ∀ later ∈ after, later ≠ ⟨artifact.removal, .removed⟩) :
    artifact ∈ remainingArtifacts (run appendStep steps after) := by
  induction after generalizing steps with
  | nil => cases artifact <;> simp_all [remainingArtifacts, made, Artifact.creation, Artifact.removal]
  | cons entry rest ih =>
    obtain ⟨records, guarded⟩ := guarded
    have apart : entry.step ≠ artifact.creation := by
      intro creates
      rw [records.missing creates] at own
      cases own
    refine ih guarded ((credited_appendStep apart).trans own) ?_ (fun later member => kept later (mem_cons_of_mem _ member))
    rw [removed, lastRun_appendStep]
    split
    · cases entry
      simp_all
    · exact left

/-- The compacted ledger has one entry for each step at most, ends with the same entry and answers every question as
the whole one; and by what the executor records, an artifact that was credited and not removed since is listed. -/
theorem ledger_compaction_sound (entries : List StepEntry) :
    let ledger := run appendStep [] entries
    let whole := run uncompacted [] entries
    (ledger.map StepEntry.step).Nodup ∧ ledger.getLast? = whole.getLast? ∧
    (∀ step, lastRun ledger step = lastRun whole step ∧ credited ledger step = credited whole step) ∧
    remainingArtifacts ledger = remainingArtifacts whole ∧
    (Guarded Records appendStep [] entries → ∀ (artifact : Artifact) before entry after,
      entries = before ++ entry :: after → entry.step = artifact.creation →
      entry.outcome = .succeeded ∨ entry.outcome = .verified →
      (∀ later ∈ after, later ≠ ⟨artifact.removal, .removed⟩) → artifact ∈ remainingArtifacts ledger) := by
  intro ledger whole
  have same : (ledger.map StepEntry.step).Nodup ∧ ledger.getLast? = whole.getLast? ∧ lastRun ledger = lastRun whole := by
    unfold ledger whole
    induction entries using reverseRecOn with
    | nil => exact ⟨nodup_nil, rfl, rfl⟩
    | append_singleton entries entry ih =>
      rw [run_append, run_append]
      obtain ⟨earlier, split, -⟩ := uncompacted_cases (run appendStep [] entries) entry
      obtain ⟨other, ends, -⟩ := uncompacted_cases (run uncompacted [] entries) entry
      refine ⟨lastOfEach_nodup _, ?_, ?_⟩
      · calc (lastOfEach (uncompacted (run appendStep [] entries) entry)).getLast?
            = some entry := by rw [split, lastOfEach_append]
          _ = (uncompacted (run uncompacted [] entries) entry).getLast? := by simp [ends]
      · funext step
        calc lastRun (appendStep (run appendStep [] entries) entry) step
            = if entry.step = step then some entry else lastRun (run appendStep [] entries) step := lastRun_appendStep
          _ = lastRun (uncompacted (run uncompacted [] entries) entry) step := by rw [ih.2.2, lastRun_uncompacted]
  refine ⟨same.1, same.2.1, ?_, ?_, ?_⟩
  · simp [credited, same.2.2]
  · simp [remainingArtifacts, made, removed, credited, same.2.2]
  · rintro guarded artifact before entry after rfl creates own kept
    obtain ⟨guarded, records, rest⟩ := guarded_append.mp guarded
    have owned : Owned (run appendStep [] before) :=
      run_invariant_guarded Owned (by simp [Owned, lastRun]) (fun _ _ records owned => owned.appendStep records) before guarded
    have missing := records.missing creates
    simp only [ledger, run_append]
    apply listed after rest
    · rw [credited, lastRun_appendStep, if_pos creates]
      rcases own with own | own <;> simp [own]
    · rw [removed, lastRun_appendStep, if_neg (creates ▸ (artifact.apart artifact).symm)]
      cases found : lastRun (run appendStep [] before) artifact.removal with
      | none => rfl
      | some run =>
        have preserved := (owned artifact run found).resolve_right (by simp [missing])
        simp [preserved]
    · exact kept

/-- An attempt that creates both artifacts and removes its worktree. -/
def halfCleaned : List StepEntry :=
  [⟨.branch, .started⟩, ⟨.branch, .succeeded⟩, ⟨.worktree, .started⟩, ⟨.worktree, .succeeded⟩, ⟨.removeWorktree, .removed⟩]

theorem halfCleaned_branch_listed : Guarded Records appendStep [] halfCleaned ∧
    .branch ∈ remainingArtifacts (run appendStep [] halfCleaned) := by
  have guarded : Guarded Records appendStep [] halfCleaned :=
    ⟨.create .branch (by decide) rfl, .ended .branch .succeeded rfl (by decide), .create .worktree (by decide) rfl,
      .ended .worktree .succeeded rfl (by decide), .settled .worktree .removed mem_cons_self (.inr ⟨rfl, rfl⟩), trivial⟩
  obtain ⟨_, _, _, _, listed⟩ := ledger_compaction_sound halfCleaned
  exact ⟨guarded, listed guarded .branch [⟨.branch, .started⟩] ⟨.branch, .succeeded⟩ _ rfl rfl (.inl rfl) (by simp [Artifact.removal])⟩

end Cove.Store.Ledger
