import Mathlib.Tactic

/-!
The step ledger of a worktree attempt: every Git or filesystem effect it started, with what was observed of it. Only
the last entry of each step is kept, and every reader decides from a step's last run.
-/

namespace Cove.Store.Ledger

/-- The effects an attempt starts: four that create, two that remove what it created. -/
inductive StepName where
  | fetch
  | branch
  | worktree
  | checkout
  | removeWorktree
  | deleteBranch
  deriving DecidableEq

/-- What is known of one run of a step. -/
inductive StepOutcome where
  /-- Recorded before the command started. -/
  | started
  | succeeded
  /-- It was uncertain, and the state proves that the effect is the attempt's own. -/
  | verified
  /-- It was uncertain, and nothing of its effect exists. -/
  | void
  | failed
  | uncertain
  /-- It was uncertain, and the state proves neither. -/
  | unproven
  | removed
  | preserved
  deriving DecidableEq

structure StepEntry where
  step : StepName
  outcome : StepOutcome

def StepOutcome.unresolved : StepOutcome → Bool
  | .started | .uncertain => true
  | _ => false

def lastOfEach : List StepEntry → List StepEntry
  | [] => []
  | entry :: later =>
    if later.any (fun other => other.step == entry.step) then lastOfEach later else entry :: lastOfEach later

variable (steps : List StepEntry)

/-- An entry that is not `started` is what became of the same step's run when that run comes last and is not resolved;
otherwise it is appended. -/
def appendStep (entry : StepEntry) : List StepEntry :=
  let next := match steps.getLast? with
    | some last =>
      if entry.outcome != .started && last.step == entry.step && last.outcome.unresolved then
        steps.dropLast ++ [entry]
      else steps ++ [entry]
    | none => steps ++ [entry]
  lastOfEach next

variable (step : StepName)

def lastRun : Option StepEntry :=
  steps.reverse.find? (fun entry => entry.step == step)

def credited : Bool :=
  match lastRun steps step with
  | some entry => entry.outcome == .succeeded || entry.outcome == .verified
  | none => false

inductive Artifact where
  | worktree
  | branch

def made : Bool :=
  credited steps step || (lastRun steps step).any (fun entry => entry.outcome == .unproven)

def removed : Bool :=
  (lastRun steps step).any (fun entry => entry.outcome == .removed)

/-- The artifacts an attempt created, or may have created, and has not removed. -/
def remainingArtifacts : List Artifact :=
  (if made steps .worktree && !removed steps .removeWorktree then [.worktree] else []) ++
    (if made steps .branch && !removed steps .deleteBranch then [.branch] else [])

end Cove.Store.Ledger
