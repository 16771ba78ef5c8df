import Cove.Base.Ledger
import Cove.Base.Run
import Cove.Protocol.Identity

/-!
The worker's account of the bytes it retains. A lease is taken for a category, may shrink, and is released; the control
carve-out is inside the limit and no lease takes from it.
-/

namespace Cove.Worker.RetainedBytes
open Base.Ledger Base.Run Protocol.Identity

/-- Numbers that are not whole are refused as unsafe ones are, so only whole ones are modelled. -/
def isSafeInteger (value : Int) : Bool := value.natAbs ≤ maxSafeInteger

inductive RetainedCategory where
  | worker
  | engine
  | nativeInput
  | nativeOutput
  deriving DecidableEq

structure WorkerRetainedBytes where
  limit : Int
  control : Int
  current : RetainedCategory → Int
  used : Int
  peak : Int
  leases : List (Entry RetainedCategory)

variable (limit reservedControlBytes : Int)

namespace WorkerRetainedBytes

def new : WorkerRetainedBytes where
  limit := limit
  control := min limit reservedControlBytes
  current := fun _ => 0
  used := 0
  peak := 0
  leases := []

variable (account : WorkerRetainedBytes)

def charge (category : RetainedCategory) (bytes : Int) : WorkerRetainedBytes :=
  { account with
    current := fun other => if other = category then account.current other + bytes else account.current other
    used := account.used + bytes }

def reserve (category : RetainedCategory) (bytes : Int) : WorkerRetainedBytes × Option Nat :=
  if !isSafeInteger bytes ∨ bytes < 1 ∨ bytes > account.limit - account.control - account.used then (account, none)
  else
    let charged := account.charge category bytes
    ({ charged with
        peak := max charged.peak charged.used
        leases := charged.leases ++ [⟨category, bytes, true⟩] }, some account.leases.length)

def release (lease : Nat) : WorkerRetainedBytes :=
  match account.leases[lease]? with
  | none => account
  | some entry =>
    if !entry.live then account
    else { account.charge entry.kind (-entry.weight) with leases := account.leases.set lease { entry with live := false } }

/-- `none` is the error of a reduction that is none. -/
def shrinkTo (lease : Nat) (next : Int) : Option WorkerRetainedBytes :=
  match account.leases[lease]? with
  | none => none
  | some entry =>
    if !entry.live ∨ !isSafeInteger next ∨ next < 1 ∨ next > entry.weight then none
    else
      some { account.charge entry.kind (-(entry.weight - next)) with
        leases := account.leases.set lease { entry with weight := next } }

def accountedBytes : Int := account.control + account.used

inductive Event where
  | reserve (category : RetainedCategory) (bytes : Int)
  | release (lease : Nat)
  | shrinkTo (lease : Nat) (next : Int)

def step (account : WorkerRetainedBytes) : Event → WorkerRetainedBytes
  | .reserve category bytes => (account.reserve category bytes).1
  | .release lease => account.release lease
  | .shrinkTo lease next => (account.shrinkTo lease next).getD account

end WorkerRetainedBytes

open WorkerRetainedBytes

structure Exact (account : WorkerRetainedBytes) : Prop where
  used : account.used = owed (fun _ => true) account.leases
  current : ∀ category, account.current category = owed (· == category) account.leases
  weights : ∀ entry ∈ account.leases, 0 ≤ entry.weight
  within : account.used ≤ account.limit - account.control
  peak : account.used ≤ account.peak ∧ account.peak ≤ account.limit - account.control

variable {account : WorkerRetainedBytes}

theorem Exact.new : Exact (WorkerRetainedBytes.new limit reservedControlBytes) := by
  refine ⟨rfl, fun _ => rfl, by simp [WorkerRetainedBytes.new], ?_, Int.le_refl _, ?_⟩
  · simp only [WorkerRetainedBytes.new]
    omega
  · simp only [WorkerRetainedBytes.new]
    omega

theorem Exact.reserve (exact : Exact account) (category : RetainedCategory) (bytes : Int) :
    Exact (account.reserve category bytes).1 := by
  simp only [WorkerRetainedBytes.reserve]
  split
  · exact exact
  have peak := exact.peak
  refine ⟨?_, ?_, ?_, ?_, ?_⟩
  · simp [charge, owed_open, exact.used]
  · intro other
    simp only [charge, owed_open, exact.current other]
    by_cases same : other = category
    · simp [same]
    · simp [same, Ne.symm same]
  · intro entry member
    rcases mem_snoc member with old | rfl
    · exact exact.weights entry old
    · show (0 : Int) ≤ bytes
      omega
  · simp only [charge]
    omega
  · simp only [charge]
    omega

theorem Exact.lower (exact : Exact account) {lease : Nat} {entry changed : Entry RetainedCategory} {bytes : Int}
    (lowers : 0 ≤ bytes) (weighs : 0 ≤ changed.weight)
    (owes : ∀ chosen : RetainedCategory → Bool, owed chosen (account.leases.set lease changed) =
      owed chosen account.leases - if chosen entry.kind then bytes else 0) :
    Exact { account.charge entry.kind (-bytes) with leases := account.leases.set lease changed } := by
  have peak := exact.peak
  refine ⟨?_, ?_, weigh_set exact.weights weighs lease, ?_, ?_⟩
  · simp only [charge, owes, if_true, exact.used]
    omega
  · intro other
    simp only [charge, owes, exact.current other]
    by_cases same : other = entry.kind
    · simp only [same, if_true, BEq.rfl]
      omega
    · simp [same, Ne.symm same]
  · simp only [charge]
    omega
  · simp only [charge]
    omega

theorem Exact.release (exact : Exact account) (lease : Nat) : Exact (account.release lease) := by
  unfold WorkerRetainedBytes.release
  split
  · exact exact
  rename_i entry got
  have weighs := exact.weights entry (List.mem_of_getElem? got)
  split
  · exact exact
  rename_i live
  have live : entry.live = true := by simpa using live
  exact exact.lower weighs weighs (fun chosen => owed_close chosen got live)

theorem Exact.shrinkTo (exact : Exact account) {after : WorkerRetainedBytes} {lease : Nat} {next : Int}
    (shrunk : account.shrinkTo lease next = some after) : Exact after := by
  unfold WorkerRetainedBytes.shrinkTo at shrunk
  split at shrunk
  · cases shrunk
  rename_i entry got
  split at shrunk
  · cases shrunk
  rename_i valid
  simp only [not_or, Bool.not_eq_true', Bool.not_eq_false] at valid
  cases shrunk
  apply exact.lower
  · omega
  · show (0 : Int) ≤ next
    omega
  · exact fun chosen => owed_reweigh chosen got valid.1 next

theorem Exact.step (exact : Exact account) (event : Event) : Exact (step account event) := by
  cases event with
  | reserve category bytes => exact exact.reserve category bytes
  | release lease => exact exact.release lease
  | shrinkTo lease next =>
    simp only [WorkerRetainedBytes.step]
    cases shrunk : account.shrinkTo lease next with
    | none => exact exact
    | some => exact exact.shrinkTo shrunk

/-- The leases alone, as the calls open, close and shrink them. -/
def ledger (ordinary : Int) (leases : List (Entry RetainedCategory)) : Event → List (Entry RetainedCategory)
  | .reserve category bytes =>
    if isSafeInteger bytes ∧ 1 ≤ bytes ∧ owed (fun _ => true) leases + bytes ≤ ordinary then
      leases ++ [⟨category, bytes, true⟩]
    else leases
  | .release lease => leases.modify lease fun entry => { entry with live := false }
  | .shrinkTo lease next => leases.modify lease fun entry =>
    if entry.live ∧ isSafeInteger next ∧ 1 ≤ next ∧ next ≤ entry.weight then { entry with weight := next } else entry

theorem Exact.ledger (exact : Exact account) (event : Event) :
    (WorkerRetainedBytes.step account event).leases = ledger (account.limit - account.control) account.leases event := by
  cases event with
  | reserve category bytes =>
    simp only [WorkerRetainedBytes.step, WorkerRetainedBytes.reserve, RetainedBytes.ledger, ← exact.used]
    cases safe : isSafeInteger bytes with
    | false => simp
    | true =>
      split_ifs with refused granted granted
      · simp only [Bool.not_true, Bool.false_eq_true, false_or] at refused
        omega
      · rfl
      · rfl
      · simp only [Bool.not_true, Bool.false_eq_true, false_or, true_and] at refused granted
        omega
  | release lease =>
    simp only [WorkerRetainedBytes.step, WorkerRetainedBytes.release, RetainedBytes.ledger]
    split
    next missing => exact (modify_same fun _ got => by simp [missing] at got).symm
    next entry got =>
      split
      next dead =>
        refine (modify_same fun old same => ?_).symm
        obtain rfl := Option.some.inj (got.symm.trans same)
        cases entry
        simpa using dead
      next => rw [modify_of_some got]
  | shrinkTo lease next =>
    simp only [WorkerRetainedBytes.step, WorkerRetainedBytes.shrinkTo, RetainedBytes.ledger]
    split
    next missing => exact (modify_same fun _ got => by simp [missing] at got).symm
    next entry got =>
      split
      next refused => exact (modify_same fun old same => by grind).symm
      next granted =>
        rw [modify_of_some got]
        simp only [Option.getD_some]
        grind

theorem limits_step (account : WorkerRetainedBytes) (event : Event) :
    (step account event).limit = account.limit ∧ (step account event).control = account.control := by
  cases event with
  | reserve =>
    simp only [WorkerRetainedBytes.step, WorkerRetainedBytes.reserve]
    split <;> exact ⟨rfl, rfl⟩
  | release =>
    simp only [WorkerRetainedBytes.step, WorkerRetainedBytes.release]
    split
    · exact ⟨rfl, rfl⟩
    split <;> exact ⟨rfl, rfl⟩
  | shrinkTo =>
    simp only [WorkerRetainedBytes.step, WorkerRetainedBytes.shrinkTo]
    split
    · exact ⟨rfl, rfl⟩
    split <;> exact ⟨rfl, rfl⟩

/-- The account, within its limits, has the leases of the ledger. -/
structure Kept (events : List Event) (account : WorkerRetainedBytes) : Prop where
  bounded : account.limit = limit
  reserved : account.control = min limit reservedControlBytes
  exact : Exact account
  leases : account.leases = run (ledger (limit - min limit reservedControlBytes)) [] events

theorem kept_run (events : List Event) :
    Kept limit reservedControlBytes events (run step (WorkerRetainedBytes.new limit reservedControlBytes) events) := by
  refine run_history (Kept limit reservedControlBytes) ⟨rfl, rfl, .new .., rfl⟩ ?_ events
  intro past event kept
  obtain ⟨same, control⟩ := limits_step (run step (WorkerRetainedBytes.new limit reservedControlBytes) past) event
  refine ⟨same.trans kept.bounded, control.trans kept.reserved, kept.exact.step event, ?_⟩
  rw [kept.exact.ledger, run_append, kept.leases, kept.bounded, kept.reserved]
  rfl

end Cove.Worker.RetainedBytes
