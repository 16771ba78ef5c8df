import Cove.Auth.Revocation

/-!
The calls of a body that a device sent before its revocation. A body hands its next call to a handler when the previous
one settled, and looks at nothing in between: the credential was verified once for the whole body.
-/

namespace Cove.Auth.Connections
open Auth.Devices State
open Base.Run Session

def routedCount (body : List Item) : Nat := body.countP Item.routed

theorem nextCall_eq_none {body : List Item} : nextCall body = none ↔ routedCount body = 0 := by
  induction body with
  | nil => simp [nextCall, routedCount]
  | cons item rest ih =>
    cases routed : item.routed <;> simp [nextCall, routedCount, routed, ih]

theorem routedCount_nextCall {body later : List Item} (next : nextCall body = some later) :
    routedCount body = routedCount later + 1 := by
  induction body with
  | nil => cases next
  | cons item rest ih =>
    simp only [routedCount] at ih
    cases routed : item.routed with
    | true =>
      obtain rfl : rest = later := by simpa [nextCall, routed] using next
      simp [routedCount, routed]
    | false =>
      have inside : nextCall rest = some later := by simpa [nextCall, routed] using next
      simp [routedCount, routed, ih inside]

def Session.Paced (session : Session) : Prop :=
  ∀ rest, session.phase = .serving rest true → routedCount rest < routedCount session.body

theorem dispatchNext_paced {session : Session} {rest : List Item} (bound : routedCount rest ≤ routedCount session.body) :
    (dispatchNext rest session).Paced := by
  intro later phase
  unfold dispatchNext at phase ⊢
  cases next : nextCall rest with
  | none => simp [next] at phase
  | some left =>
    obtain rfl : left = later := by simpa [next] using phase
    have fewer := routedCount_nextCall next
    simp only
    omega

variable {secretHash : String → String} {s t : State}

def Paced (s : State) : Prop := ∀ (id : Nat) (session : Session), s.sessions[id]? = some session → session.Paced

theorem Paced.move (paced : Paced s) (move : Move secretHash s t) : Paced t := by
  intro id new there
  cases here : s.sessions[id]? with
  | none =>
    intro rest phase
    have waiting := (move.fresh here there).1
    simp [serving, phase] at waiting
  | some old =>
    obtain ⟨_, found, change⟩ := move.session here
    obtain rfl : new = _ := by simpa [there] using found
    cases change with
    | quiet still =>
      intro rest phase
      have same := still.serving (by simp [serving, phase])
      rw [still.body]
      exact paced id old here rest (same.symm.trans phase)
    | admitted =>
      unfold admitted
      split
      next => exact dispatchNext_paced le_rfl
      next => exact fun rest phase => by cases phase
    | continued rest phase => exact dispatchNext_paced (paced id old here rest phase).le
    | finished => exact fun rest phase => by cases phase
    | closed => exact paced id old here

theorem paced_run (events : List Event) : Paced (run (step secretHash) State.empty events) :=
  run_invariant Paced (fun _ _ there => by cases there) (fun _ event paced => paced.move (step_move event)) events

def State.dispatchedOf (s : State) (id : Nat) : Nat := (s.sessions[id]?.map Session.dispatched).getD 0

def Idle (device : String) (first s : State) : Prop :=
  ∀ (id : Nat) (session : Session), s.sessions[id]? = some session → session.device = some device →
    routedCount session.body ≤ 1 → session.dispatched = first.dispatchedOf id

variable {device : String} {first : State} {targets : List Nat}

/-- The states after the step of a revocation, as far as calls go. -/
structure Stopped (device : String) (first s : State) (targets : List Nat) : Prop where
  idle : Idle device first s
  paced : Paced s
  revoked : Revoked device first s targets
  known : ∀ id : Nat, s.sessions[id]? = none → first.sessions[id]? = none

theorem Move.known (move : Move secretHash s t) {id : Nat} (missing : t.sessions[id]? = none) : s.sessions[id]? = none := by
  cases here : s.sessions[id]? with
  | none => rfl
  | some =>
    obtain ⟨new, there, _⟩ := move.session here
    simp [missing] at there

theorem Stopped.proceed (secretHash : String → String) {index : Nat} {revocation : Revocation}
    (consistent : Consistent s) (paced : Paced s) (there : s.revocations[index]? = some revocation)
    (phase : revocation.phase = .committed) :
    Stopped revocation.deviceId s (proceed s index) (targetsOf s revocation) := by
  have move : Move secretHash s _ := .proceeded index revocation there phase
  refine ⟨?_, paced.move move, .proceed consistent there phase, fun id missing => move.known missing⟩
  intro id session here _ _
  rw [proceed_session there phase] at here
  obtain ⟨old, before, rfl⟩ := Option.map_eq_some_iff.mp here
  rw [dispatchedOf, before]
  split <;> rfl

theorem Stopped.move (stopped : Stopped device first s targets) (move : Move secretHash s t) :
    Stopped device first t targets := by
  refine ⟨?_, stopped.paced.move move, stopped.revoked.move move, fun id missing => stopped.known id (move.known missing)⟩
  intro id new there presented single
  cases here : s.sessions[id]? with
  | none =>
    rw [(move.fresh here there).2.1, dispatchedOf, stopped.known id here]
    rfl
  | some old =>
    obtain ⟨_, found, change⟩ := move.session here
    obtain rfl : new = _ := by simpa [there] using found
    cases change with
    | quiet still =>
      rw [still.dispatched]
      rw [device_congr still.credential] at presented
      rw [still.body] at single
      exact stopped.idle id old here presented single
    | admitted _ _ verified =>
      rw [device_congr old.admitted_kept.1] at presented
      exact (verified.not_refused presented stopped.revoked.refused).elim
    | continued rest phase =>
      have kept := dispatchNext_kept rest old
      rw [device_congr kept.1] at presented
      rw [kept.2.1] at single
      have fewer := stopped.paced id old here rest phase
      have last : nextCall rest = none := nextCall_eq_none.mpr (by omega)
      have same : (dispatchNext rest old).dispatched = old.dispatched := by
        simp only [dispatchNext, last]
      rw [same]
      exact stopped.idle id old here presented single
    | finished | closed => exact stopped.idle id old here presented single

/-- A batch of a device, whose first call is handled when the local owner's revocation is written. -/
def batchRun (secretHash : String → String) (body : List Item) : List Event :=
  [.redeem "phone" (secretHash "token"), .answer, .connect .http (.device "phone" "token") body, .arrive 0 true,
    .connect .http .localOwner [.call], .arrive 1 true, .revoke 1 "phone", .answer]

theorem batchRun_reaches (secretHash : String → String) {body rest : List Item} (next : nextCall body = some rest) :
    let s := run (step secretHash) State.empty (batchRun secretHash body)
    s.sessions = [⟨.http, .device "phone" "token", body, .serving rest true, 1, false, false⟩,
        ⟨.http, .localOwner, [.call], .serving [] true, 1, false, false⟩] ∧
      s.revocations = [⟨"phone", none, .committed⟩] ∧ s.connections = [("phone", 0)] := by
  simp [batchRun, step, answerCall, transact, commit, empty, add, arrive, live, authenticate, verify,
    accept, setSession, admitted, dispatchNext, next, nextCall, Item.routed, handling, Option.filter,
    device]

/-- A revocation starts no call of a body, wherever it lands, exactly if at most one item of the body reaches a handler:
the calls of a longer batch go on being dispatched. -/
theorem revocation_starts_no_call (secretHash : String → String) (body : List Item) :
    (∀ (before after : List Event) (index : Nat) (revocation : Revocation),
      (run (step secretHash) State.empty before).revocations[index]? = some revocation → revocation.phase = .committed →
          let first := run (step secretHash) State.empty before
          let s := run (step secretHash) (step secretHash first (.proceed index)) after
          ∀ (id : Nat) (session : Session), s.sessions[id]? = some session →
            session.device = some revocation.deviceId → session.body = body →
              session.dispatched = first.dispatchedOf id) ↔
      routedCount body ≤ 1 := by
  constructor
  · intro never
    by_contra many
    obtain ⟨rest, next⟩ : ∃ rest, nextCall body = some rest := by
      cases next : nextCall body with
      | none => exact (many (by simp [nextCall_eq_none.mp next])).elim
      | some rest => exact ⟨rest, rfl⟩
    obtain ⟨later, second⟩ : ∃ later, nextCall rest = some later := by
      have counts := routedCount_nextCall next
      cases second : nextCall rest with
      | none => exact (many (by rw [counts, nextCall_eq_none.mp second])).elim
      | some later => exact ⟨later, rfl⟩
    obtain ⟨sessions, revocations, connections⟩ := batchRun_reaches secretHash next
    have stays := never (batchRun secretHash body) [.settle 0] 0 ⟨"phone", none, .committed⟩ (by simp [revocations]) rfl 0
      ⟨.http, .device "phone" "token", body, .serving later true, 2, true, false⟩
    simp [dispatchedOf, sessions, step, proceed, revocations, targetsOf, connections, settle, setRevocation,
      setSession, dispatchNext, second, device] at stays
  · intro single before after index revocation there committed first s id session here presented same
    have consistent : Consistent first := consistent_run before
    have stopped : Stopped revocation.deviceId first s (targetsOf first revocation) :=
      run_invariant (fun s => Stopped revocation.deviceId first s (targetsOf first revocation))
        (.proceed secretHash consistent (paced_run before) there committed)
        (fun _ event holds => holds.move (step_move event)) after
    exact stopped.idle id session here presented (same ▸ single)

/-- The second call of a batch starts after its device was refused. -/
theorem batch_goes_on_after_revocation :
    let first := run (step id) State.empty (batchRun id [.call, .call])
    let marked := step id first (.proceed 0)
    verify id marked.entries "phone" "token" = .revoked ∧ marked.isTold 0 = true ∧ marked.dispatchedOf 0 = 1 ∧
      (step id marked (.settle 0)).dispatchedOf 0 = 2 := by
  decide +kernel

end Cove.Auth.Connections
