import Cove.Base.Checks
import Cove.Base.Run
import Cove.Store.Database

/-!
Invitations and the devices they admit, as the store keeps them. Each operation is one transaction. An open invitation
ends by a redemption, a cancellation or its expiry, and the device of a redemption is inserted in the same transaction.
-/

namespace Cove.Auth.Invitations
open Base.Checks Base.Run Protocol.Identity Store Function Option

inductive InvitationState where
  | opened
  | redeemed
  | cancelled
  | expired
  deriving DecidableEq

structure InvitationRow where
  state : InvitationState
  secretHash : Option String
  expiresAtMs : Int
  createdByDeviceId : Option String
  wrongSecrets : Nat
  redeemedDeviceId : Option String

structure DeviceRow where
  revision : Nat
  inviteId : String
  revokedAtMs : Option Int

structure Tables where
  invitations : String → Option InvitationRow
  devices : String → Option DeviceRow

def invitationWrongSecrets : Nat := 5

def InvitationRow.effectiveState (row : InvitationRow) (at_ : Int) : InvitationState :=
  if row.state = .opened ∧ row.expiresAtMs ≤ at_ then .expired else row.state

def InvitationRow.ended (row : InvitationRow) (state : InvitationState) : InvitationRow :=
  { row with state, secretHash := none }

variable (t : Tables)

namespace Tables

def update (which : String → InvitationRow → Bool) (change : InvitationRow → InvitationRow) : Tables :=
  { t with invitations := fun id => (t.invitations id).map fun row => if which id row then change row else row }

/-- Every statement that ends invitations is restricted to open ones. -/
def endWhere (which : String → InvitationRow → Bool) (change : InvitationRow → InvitationRow) : Tables :=
  t.update (fun id row => row.state == .opened && which id row) change

def endInvitation (inviteId : String) (state : InvitationState) (redeemedDeviceId : Option String) : Tables :=
  t.endWhere (fun id _ => id == inviteId) fun row => { row.ended state with redeemedDeviceId }

def setDevice (deviceId : String) (row : DeviceRow) : Tables :=
  { t with devices := Function.update t.devices deviceId (some row) }

section

variable (which : String → InvitationRow → Bool) (change : InvitationRow → InvitationRow) (id : String)

@[simp] theorem update_invitations : (t.update which change).invitations id =
    (t.invitations id).map fun row => if which id row then change row else row := rfl

@[simp] theorem endWhere_invitations : (t.endWhere which change).invitations id =
    (t.invitations id).map fun row => if row.state == .opened && which id row then change row else row := rfl

@[simp] theorem endInvitation_invitations (inviteId : String) (state : InvitationState) (device : Option String) :
    (t.endInvitation inviteId state device).invitations id = (t.invitations id).map fun row =>
      if row.state == .opened && id == inviteId then { row.ended state with redeemedDeviceId := device } else row := rfl

@[simp] theorem setDevice_invitations (deviceId : String) (row : DeviceRow) :
    (t.setDevice deviceId row).invitations = t.invitations := rfl

end

end Tables

structure RedeemArgs where
  inviteId : String
  secretHash : String
  at_ : Int
  deviceId : String

structure CreateArgs where
  inviteId : String
  secretHash : String
  expiresAtMs : Int
  createdByDeviceId : Option String

def invitationsExpire (at_ : Int) : Tables :=
  t.endWhere (fun _ row => row.expiresAtMs ≤ at_) (·.ended .expired)

/-- With whether the invitation was redeemed. A wrong secret is counted and the count is committed. -/
def redeem (args : RedeemArgs) : Except Halt (Tables × Bool) :=
  match t.invitations args.inviteId with
  | none => .ok (t, false)
  | some row =>
    if row.state ≠ .opened ∨ row.secretHash = none then .ok (t, false)
    else if row.effectiveState args.at_ = .expired then
      .ok (t.endInvitation args.inviteId .expired none, false)
    else if row.secretHash ≠ some args.secretHash then
      let wrong := row.wrongSecrets + 1
      let counted := t.update (fun id _ => id == args.inviteId) fun row => { row with wrongSecrets := wrong }
      .ok (if invitationWrongSecrets ≤ wrong then counted.endInvitation args.inviteId .cancelled none
        else counted, false)
    -- The primary key of the devices.
    else if (t.devices args.deviceId).isSome then .error .thrown
    else
      .ok ((t.setDevice args.deviceId ⟨0, args.inviteId, none⟩).endInvitation
        args.inviteId .redeemed (some args.deviceId), true)

def inviteCreate (args : CreateArgs) : Except Halt Tables := do
  require (args.createdByDeviceId.all fun creator => (t.devices creator).any (·.revokedAtMs.isNone))
    (refuse .deviceRevoked)
  require (t.invitations args.inviteId).isNone .thrown
  return { t with invitations := Function.update t.invitations args.inviteId (some
    ⟨.opened, some args.secretHash, args.expiresAtMs, args.createdByDeviceId, 0, none⟩) }

def inviteCancel (inviteId : String) (at_ : Int) : Except Halt Tables := do
  let row ← found (t.invitations inviteId) (refuse .invitationNotFound)
  require (row.effectiveState at_ == .opened) (refuse .invitationUnavailable)
  return t.endInvitation inviteId .cancelled none

def deviceRevoke (deviceId : String) (at_ : Int) : Except Halt Tables := do
  let row ← found (t.devices deviceId) (refuse .deviceNotFound)
  require (row.revokedAtMs.isSome || row.revision < maxSafeInteger) (refuse .counterExhausted)
  let revoked := if row.revokedAtMs.isSome then t
    else t.setDevice deviceId { row with revokedAtMs := some at_, revision := row.revision + 1 }
  return revoked.endWhere (fun _ invitation => invitation.createdByDeviceId == some deviceId) (·.ended .cancelled)

inductive Event where
  | create (args : CreateArgs)
  | cancel (inviteId : String) (at_ : Int)
  | expire (at_ : Int)
  | redeem (args : RedeemArgs)
  | revoke (deviceId : String) (at_ : Int)

/-- A transaction that halts leaves the tables as they were. -/
def step : Event → Tables
  | .create args => orElse t (inviteCreate t args)
  | .cancel inviteId at_ => orElse t (inviteCancel t inviteId at_)
  | .expire at_ => invitationsExpire t at_
  | .redeem args => (orElse (t, false) (redeem t args)).1
  | .revoke deviceId at_ => orElse t (deviceRevoke t deviceId at_)

def Tables.empty : Tables := ⟨fun _ => none, fun _ => none⟩

/-! ### The lifecycle -/

/-- The creator of the invitation is a device that is not revoked, or no device. -/
def Unrevoked (row : InvitationRow) : Prop :=
  ∀ creator, row.createdByDeviceId = some creator → ∃ device, t.devices creator = some device ∧ device.revokedAtMs = none

structure Redeemable (args : RedeemArgs) (row : InvitationRow) : Prop where
  opened : row.state = .opened
  secret : row.secretHash = some args.secretHash
  unexpired : args.at_ < row.expiresAtMs
  wrong : row.wrongSecrets < invitationWrongSecrets
  creator : Unrevoked t row

structure Kept : Prop where
  /-- The hash of a secret is there exactly while its invitation is open. -/
  secret : ∀ id row, t.invitations id = some row → (row.secretHash ≠ none ↔ row.state = .opened)
  opened : ∀ id row, t.invitations id = some row → row.state = .opened → row.wrongSecrets < invitationWrongSecrets ∧
    Unrevoked t row
  /-- The invitation of a device was redeemed and names the device, so it admitted no other. -/
  admitted : ∀ id device, t.devices id = some device → ∃ row, t.invitations device.inviteId = some row ∧
    row.state = .redeemed ∧ row.redeemedDeviceId = some id

def Admitted (event : Event) (t u : Tables) (id : String) (device : DeviceRow) : Prop :=
  ∃ args row, event = .redeem args ∧ args.deviceId = id ∧ device.inviteId = args.inviteId ∧
    t.invitations args.inviteId = some row ∧ Redeemable t args row ∧
    u.invitations args.inviteId = some { row.ended .redeemed with redeemedDeviceId := some id }

def Stays (u : Tables) (id : String) (device : DeviceRow) : Prop :=
  ∃ next, u.devices id = some next ∧ next.inviteId = device.inviteId ∧
    (device.revokedAtMs ≠ none → next.revokedAtMs = device.revokedAtMs)

structure Transacts (event : Event) (t u : Tables) : Prop where
  /-- An invitation that ended never changes again. -/
  final : ∀ id row, t.invitations id = some row →
    ∃ next, u.invitations id = some next ∧ (row.state ≠ .opened → next = row)
  /-- An invitation is created open, and by no device that is revoked. -/
  created : ∀ id row, u.invitations id = some row → t.invitations id = none → row.state = .opened ∧ Unrevoked t row
  stays : ∀ id device, t.devices id = some device → Stays u id device
  admits : ∀ id device, u.devices id = some device → t.devices id = none → Admitted event t u id device

/-- The state and the count of wrong secrets in which the transaction leaves an open invitation. -/
def fate (id : String) (row : InvitationRow) : Event → InvitationState × Nat
  | .create _ => (.opened, row.wrongSecrets)
  | .cancel inviteId at_ => (if id = inviteId ∧ at_ < row.expiresAtMs then .cancelled else .opened, row.wrongSecrets)
  | .expire at_ => (if row.expiresAtMs ≤ at_ then .expired else .opened, row.wrongSecrets)
  | .redeem args =>
    if id ≠ args.inviteId then (.opened, row.wrongSecrets)
    else if row.expiresAtMs ≤ args.at_ then (.expired, row.wrongSecrets)
    else if row.secretHash ≠ some args.secretHash then
      (if invitationWrongSecrets ≤ row.wrongSecrets + 1 then .cancelled else .opened, row.wrongSecrets + 1)
    else (if (t.devices args.deviceId).isSome then .opened else .redeemed, row.wrongSecrets)
  -- The creator of an open invitation is not revoked, so only the revision can refuse.
  | .revoke deviceId _ =>
    (if row.createdByDeviceId = some deviceId ∧ (t.devices deviceId).any (·.revision < maxSafeInteger) then .cancelled
      else .opened, row.wrongSecrets)

structure Effects (event : Event) (t u : Tables) : Prop where
  fate : ∀ id row, t.invitations id = some row → row.state = .opened →
    ∃ next, u.invitations id = some next ∧ (next.state, next.wrongSecrets) = fate t id row event
  created : ∀ args, event = .create args → t.invitations args.inviteId = none →
    let row : InvitationRow := ⟨.opened, some args.secretHash, args.expiresAtMs, args.createdByDeviceId, 0, none⟩
    Unrevoked t row → u.invitations args.inviteId = some row
  admitted : ∀ args row, event = .redeem args → t.invitations args.inviteId = some row → Redeemable t args row →
    t.devices args.deviceId = none → u.devices args.deviceId = some ⟨0, args.inviteId, none⟩
  revoked : ∀ deviceId at_ device, event = .revoke deviceId at_ → t.devices deviceId = some device →
    device.revision < maxSafeInteger →
    ∃ next, u.devices deviceId = some next ∧ next.revokedAtMs = some (device.revokedAtMs.getD at_)

variable {t u : Tables} {event : Event}

inductive Becomes (u : Tables) (row : InvitationRow) : InvitationRow → Prop where
  | final (ended : row.state ≠ .opened) : Becomes u row row
  | ends {next : InvitationRow} (opened : row.state = .opened) (ended : next.state ≠ .opened)
      (secret : next.secretHash = none) : Becomes u row next
  | waits (opened : row.state = .opened) (wrong : Nat) (few : wrong < invitationWrongSecrets)
      (creator : Unrevoked u row) : Becomes u row { row with wrongSecrets := wrong }

theorem Kept.onward (kept : Kept t)
    (created : ∀ id row, u.invitations id = some row → t.invitations id = none → row.state = .opened ∧
      row.secretHash ≠ none ∧ row.wrongSecrets < invitationWrongSecrets ∧ Unrevoked t row ∧ u.devices = t.devices)
    (becomes : ∀ id row, t.invitations id = some row → ∃ next, u.invitations id = some next ∧ Becomes u row next)
    (stays : ∀ id device, t.devices id = some device → Stays u id device)
    (admits : ∀ id device, u.devices id = some device → t.devices id = none → Admitted event t u id device) :
    Kept u ∧ Transacts event t u := by
  have final (id : String) (row : InvitationRow) (there : t.invitations id = some row) :
      ∃ next, u.invitations id = some next ∧ (row.state ≠ .opened → next = row) := by
    obtain ⟨next, after, became⟩ := becomes id row there
    refine ⟨next, after, fun ended => ?_⟩
    cases became with
    | final => rfl
    | ends opened | waits opened => exact absurd opened ended
  refine ⟨⟨?_, ?_, ?_⟩, final, fun id row there fresh => ?_, stays, admits⟩
  · intro id next there
    cases held : t.invitations id with
    | none =>
      obtain ⟨opened, secret, _⟩ := created id next there held
      exact iff_of_true secret opened
    | some row =>
      obtain ⟨_, after, became⟩ := becomes id row held
      obtain rfl := some.inj (there.symm.trans after)
      cases became with
      | final => exact kept.secret id _ held
      | ends _ ended secret => exact iff_of_false (not_not.mpr secret) ended
      | waits => exact kept.secret id row held
  · intro id next there opened
    cases held : t.invitations id with
    | none =>
      obtain ⟨_, _, few, creator, same⟩ := created id next there held
      exact ⟨few, by rwa [Unrevoked, same]⟩
    | some row =>
      obtain ⟨_, after, became⟩ := becomes id row held
      obtain rfl := some.inj (there.symm.trans after)
      cases became with
      | final ended => exact absurd opened ended
      | ends _ ended => exact absurd opened ended
      | waits _ _ few creator => exact ⟨few, creator⟩
  · intro id device there
    cases held : t.devices id with
    | none =>
      obtain ⟨args, row, _, _, invited, _, _, after⟩ := admits id device there held
      exact ⟨_, invited ▸ after, rfl, rfl⟩
    | some old =>
      obtain ⟨_, same, invited, _⟩ := stays id old held
      obtain rfl := some.inj (there.symm.trans same)
      obtain ⟨row, before, redeemed, named⟩ := kept.admitted id old held
      obtain ⟨_, after, unchanged⟩ := final old.inviteId row before
      obtain rfl := unchanged (by simp [redeemed])
      exact ⟨_, invited ▸ after, redeemed, named⟩
  · obtain ⟨opened, _, _, creator, _⟩ := created id row there fresh
    exact ⟨opened, creator⟩

theorem Kept.becomes (kept : Kept t) {id : String} {row : InvitationRow} (there : t.invitations id = some row)
    (unrevoked : Unrevoked t row → Unrevoked u row) : Becomes u row row := by
  by_cases opened : row.state = .opened
  · obtain ⟨few, creator⟩ := kept.opened id row there opened
    exact .waits opened row.wrongSecrets few (unrevoked creator)
  · exact .final opened

theorem stays_of_eq (same : u.devices = t.devices) (id : String) (device : DeviceRow)
    (there : t.devices id = some device) : Stays u id device :=
  ⟨device, by rw [same, there], rfl, fun _ => rfl⟩

theorem revoke_eq {deviceId : String} {at_ : Int} {device : DeviceRow} (known : t.devices deviceId = some device)
    (room : device.revision < maxSafeInteger) : step t (.revoke deviceId at_) =
      (if device.revokedAtMs.isSome then t
        else t.setDevice deviceId { device with revokedAtMs := some at_, revision := device.revision + 1 }).endWhere
        (fun _ invitation => invitation.createdByDeviceId == some deviceId) (·.ended .cancelled) := by
  simp [step, deviceRevoke, found, require, known, room, orElse, bind, Except.bind, pure, Except.pure]

section

variable (kept : Kept t)
include kept

theorem Kept.same : Kept t ∧ Transacts event t t :=
  kept.onward (fun _ _ there fresh => by simp [there] at fresh) (fun _ row there => ⟨row, there, kept.becomes there id⟩)
    (stays_of_eq rfl) (fun _ _ there fresh => by simp [there] at fresh)

theorem Kept.endWhere {which : String → InvitationRow → Bool} {change : InvitationRow → InvitationRow}
    (same : u.invitations = t.invitations) (ends : ∀ row, (change row).state ≠ .opened ∧ (change row).secretHash = none)
    (unrevoked : ∀ id row, which id row = false → Unrevoked t row → Unrevoked u row)
    (stays : ∀ id device, t.devices id = some device → Stays u id device)
    (admits : ∀ id device, u.devices id = some device → t.devices id = none →
      Admitted event t (u.endWhere which change) id device) :
    Kept (u.endWhere which change) ∧ Transacts event t (u.endWhere which change) := by
  refine kept.onward ?_ ?_ stays admits
  · exact fun id row there fresh => by simp [Tables.endWhere, Tables.update, same, fresh] at there
  · intro id row there
    refine ⟨_, by simp only [Tables.endWhere, Tables.update, same, there, map_some]; rfl, ?_⟩
    split
    next chosen =>
      rw [Bool.and_eq_true, beq_iff_eq] at chosen
      exact .ends chosen.1 (ends row).1 (ends row).2
    next other =>
      by_cases opened : row.state = .opened
      · exact kept.becomes there (unrevoked id row (by simpa [opened] using other))
      · exact .final opened

theorem Kept.ends {which : String → InvitationRow → Bool} {change : InvitationRow → InvitationRow}
    (ends : ∀ row, (change row).state ≠ .opened ∧ (change row).secretHash = none) :
    Kept (t.endWhere which change) ∧ Transacts event t (t.endWhere which change) :=
  kept.endWhere rfl ends (fun _ _ _ => id) (stays_of_eq rfl) fun _ _ there fresh => by simp [there] at fresh

theorem create_kept {args : CreateArgs} (done : inviteCreate t args = .ok u) : Kept u ∧ Transacts event t u := by
  simp only [inviteCreate, bind_eq_ok, require_eq_ok, pure_eq_ok, isNone_iff_eq_none] at done
  obtain ⟨_, unrevoked, _, fresh, rfl⟩ := done
  refine kept.onward ?_ ?_ (stays_of_eq rfl) fun _ _ there fresh => absurd there (by simp [fresh])
  · intro id row there unknown
    by_cases self : id = args.inviteId
    · obtain rfl : _ = row := by simpa [self] using there
      refine ⟨rfl, by simp, Nat.zero_lt_succ _, fun creator by_ => ?_, rfl⟩
      simpa [show args.createdByDeviceId = some creator from by_, any_eq_true] using unrevoked
    · simp [self, unknown] at there
  · intro id row there
    have other : id ≠ args.inviteId := by rintro rfl; simp [fresh] at there
    exact ⟨row, by simpa [other] using there, kept.becomes there fun unrevoked => unrevoked⟩

theorem revoke_kept {deviceId : String} {at_ : Int} (done : deviceRevoke t deviceId at_ = .ok u) :
    Kept u ∧ Transacts event t u := by
  simp only [deviceRevoke, bind_eq_ok, found_eq_ok, pure_eq_ok] at done
  obtain ⟨row, there, _, _, rfl⟩ := done
  split
  · exact kept.ends fun row => ⟨by simp [InvitationRow.ended], rfl⟩
  rename_i fresh
  refine kept.endWhere rfl (fun row => ⟨by simp [InvitationRow.ended], rfl⟩) ?_ ?_ ?_
  · intro id invitation other unrevoked creator by_
    obtain ⟨device, known, stands⟩ := unrevoked creator by_
    have apart : creator ≠ deviceId := by rintro rfl; simp [by_] at other
    exact ⟨device, (update_of_ne apart ..).trans known, stands⟩
  · intro id device known
    by_cases self : id = deviceId
    · subst self
      obtain rfl := some.inj (there.symm.trans known)
      exact ⟨_, update_self .., rfl, fun revoked => absurd (by simpa using fresh) revoked⟩
    · exact ⟨device, (update_of_ne self ..).trans known, rfl, fun _ => rfl⟩
  · intro id device now unknown
    by_cases self : id = deviceId
    · simp [self, there] at unknown
    · simp [Tables.setDevice, self, unknown] at now

theorem redeem_kept {args : RedeemArgs} {redeemed : Bool} (done : redeem t args = .ok (u, redeemed)) :
    Kept u ∧ Transacts (.redeem args) t u := by
  unfold redeem at done
  split at done
  · cases done
    exact kept.same
  next row there =>
    split_ifs at done with ended expired wrong taken
    · cases done
      exact kept.same
    · cases done
      exact kept.ends fun row => ⟨by simp [InvitationRow.ended], rfl⟩
    · cases done
      have opened : row.state = .opened := by tauto
      refine kept.onward ?_ ?_ (stays_of_eq ?_) ?_
      · intro id other after fresh
        split_ifs at after <;> simp [Tables.endInvitation, Tables.endWhere, Tables.update, fresh] at after
      · intro id other held
        by_cases self : id = args.inviteId
        · subst self
          obtain rfl := some.inj (there.symm.trans held)
          split_ifs with many
          · refine ⟨_, by simp [Tables.endInvitation, Tables.endWhere, Tables.update, there, opened]; rfl, ?_⟩
            exact .ends opened (by simp [InvitationRow.ended]) rfl
          · refine ⟨_, by simp only [Tables.update, there, map_some, BEq.rfl, if_true]; rfl, ?_⟩
            exact .waits opened _ (Nat.lt_of_not_le many) (kept.opened _ row there opened).2
        · refine ⟨other, ?_, kept.becomes held ?_⟩
          · split_ifs <;> simp [Tables.endInvitation, Tables.endWhere, Tables.update, held, self]
          · split_ifs <;> exact fun unrevoked => unrevoked
      · split_ifs <;> rfl
      · intro id device now unknown
        split_ifs at now <;> exact absurd now (by simp [Tables.endInvitation, Tables.endWhere, Tables.update, unknown])
    · cases done
      have opened : row.state = .opened := by tauto
      have apart (id : String) (device : DeviceRow) (known : t.devices id = some device) : id ≠ args.deviceId := by
        rintro rfl
        simp [known] at taken
      refine kept.endWhere rfl (fun row => ⟨by simp [InvitationRow.ended], rfl⟩) ?_ ?_ ?_
      · intro id invitation _ unrevoked creator by_
        obtain ⟨device, known, stands⟩ := unrevoked creator by_
        exact ⟨device, (update_of_ne (apart creator device known) ..).trans known, stands⟩
      · exact fun id device known =>
          ⟨device, (update_of_ne (apart id device known) ..).trans known, rfl, fun _ => rfl⟩
      · intro id device now unknown
        by_cases self : id = args.deviceId
        · subst self
          obtain rfl : _ = device := by simpa [Tables.setDevice] using now
          obtain ⟨few, creator⟩ := kept.opened _ row there opened
          refine ⟨args, row, rfl, rfl, rfl, there, ⟨opened, not_not.mp wrong, ?_, few, creator⟩, ?_⟩
          · simpa [InvitationRow.effectiveState, opened] using expired
          · simp [Tables.endWhere, Tables.update, Tables.setDevice, there, opened]
        · simp [Tables.setDevice, self, unknown] at now

theorem step_kept (event : Event) : Kept (step t event) ∧ Transacts event t (step t event) := by
  have committed {computed : Except Halt Tables}
      (keeps : ∀ u, computed = .ok u → Kept u ∧ Transacts event t u) :
      Kept (orElse t computed) ∧ Transacts event t (orElse t computed) := by
    cases computed with
    | error => exact kept.same
    | ok u => exact keeps u rfl
  cases event with
  | create => exact committed fun u => create_kept kept
  | cancel =>
    refine committed fun u done => ?_
    simp only [inviteCancel, bind_eq_ok, pure_eq_ok] at done
    obtain ⟨row, _, _, _, rfl⟩ := done
    exact kept.ends fun row => ⟨by simp [InvitationRow.ended], rfl⟩
  | expire => exact kept.ends fun row => ⟨by simp [InvitationRow.ended], rfl⟩
  | redeem args =>
    cases done : redeem t args with
    | error => simpa [step, done, orElse] using kept.same
    | ok => simpa [step, done, orElse] using redeem_kept kept done
  | revoke => exact committed fun u => revoke_kept kept

theorem step_fate {id : String} {row : InvitationRow} (there : t.invitations id = some row) (opened : row.state = .opened) :
    ∃ next, (step t event).invitations id = some next ∧ (next.state, next.wrongSecrets) = fate t id row event := by
  cases event with
  | create args =>
    refine ⟨row, ?_, by simp [fate, opened]⟩
    rw [step]
    cases done : inviteCreate t args with
    | error => exact there
    | ok u =>
      simp only [inviteCreate, bind_eq_ok, require_eq_ok, pure_eq_ok, isNone_iff_eq_none] at done
      obtain ⟨_, _, _, fresh, rfl⟩ := done
      have other : id ≠ args.inviteId := by rintro rfl; simp [there] at fresh
      simpa [orElse, other] using there
  | cancel inviteId at_ =>
    by_cases chosen : id = inviteId ∧ at_ < row.expiresAtMs
    · obtain ⟨rfl, early⟩ := chosen
      have done : inviteCancel t id at_ = .ok (t.endInvitation id .cancelled none) := by
        simp only [inviteCancel, bind_eq_ok, require_eq_ok, found_eq_ok, pure_eq_ok]
        exact ⟨row, there, (), by simp [InvitationRow.effectiveState, opened, early], trivial⟩
      simp [step, done, orElse, there, opened, early, fate, InvitationRow.ended]
    · refine ⟨row, ?_, by rw [fate, if_neg chosen, opened]⟩
      rw [step]
      cases done : inviteCancel t inviteId at_ with
      | error => exact there
      | ok u =>
        simp only [inviteCancel, bind_eq_ok, require_eq_ok, found_eq_ok, pure_eq_ok] at done
        obtain ⟨held, found, _, early, rfl⟩ := done
        have other : id ≠ inviteId := by
          rintro rfl
          obtain rfl := some.inj (there.symm.trans found)
          simp [InvitationRow.effectiveState, opened] at early chosen
          grind
        simp [orElse, there, other]
  | expire at_ =>
    by_cases due : row.expiresAtMs ≤ at_ <;> simp [step, invitationsExpire, there, opened, due, fate, InvitationRow.ended]
  | redeem args =>
    by_cases self : id = args.inviteId
    · subst self
      have hash := (kept.secret _ row there).mpr opened
      by_cases due : row.expiresAtMs ≤ args.at_
      · simp [step, redeem, there, opened, due, fate, hash, InvitationRow.effectiveState, orElse, InvitationRow.ended]
      · by_cases wrong : row.secretHash = some args.secretHash
        · cases taken : t.devices args.deviceId <;>
            simp [step, redeem, there, opened, due, fate, InvitationRow.effectiveState, orElse, wrong, taken,
              InvitationRow.ended]
        · by_cases many : invitationWrongSecrets ≤ row.wrongSecrets + 1 <;>
            simp [step, redeem, there, opened, due, fate, InvitationRow.effectiveState, orElse, wrong, many, hash,
              InvitationRow.ended]
    · refine ⟨row, ?_, by simp [fate, self, opened]⟩
      simp only [step, redeem]
      split
      · exact there
      · split_ifs <;> simp [orElse, there, self]
  | revoke deviceId at_ =>
    obtain ⟨_, unrevoked⟩ := kept.opened id row there opened
    by_cases chosen : row.createdByDeviceId = some deviceId ∧ (t.devices deviceId).any (·.revision < maxSafeInteger)
    · obtain ⟨by_, room⟩ := chosen
      obtain ⟨device, known, stands⟩ := unrevoked deviceId by_
      rw [revoke_eq known (by simpa [known] using room)]
      simp [stands, there, opened, by_, fate, InvitationRow.ended, room]
    · refine ⟨row, ?_, by rw [fate, if_neg chosen, opened]⟩
      rw [step]
      cases done : deviceRevoke t deviceId at_ with
      | error => exact there
      | ok u =>
        simp only [deviceRevoke, bind_eq_ok, require_eq_ok, found_eq_ok, pure_eq_ok] at done
        obtain ⟨device, known, _, room, rfl⟩ := done
        have other : row.createdByDeviceId ≠ some deviceId := by
          intro by_
          obtain ⟨_, same, stands⟩ := unrevoked deviceId by_
          obtain rfl := some.inj (known.symm.trans same)
          exact chosen ⟨by_, by simpa [known, stands] using room⟩
        split_ifs <;> simp [orElse, there, other]

theorem step_effects (event : Event) : Effects event t (step t event) := by
  refine ⟨fun id row => step_fate kept, ?_, ?_, ?_⟩
  · rintro args rfl fresh row unrevoked
    have allowed : args.createdByDeviceId.all fun creator => (t.devices creator).any (·.revokedAtMs.isNone) := by
      rw [all_eq_true]
      intro creator by_
      obtain ⟨device, known, stands⟩ := unrevoked creator by_
      simp [known, stands]
    simp [step, inviteCreate, require, allowed, fresh, orElse, bind, Except.bind, pure, Except.pure, row]
  · rintro args row rfl there redeemable free
    have expired : row.effectiveState args.at_ ≠ .expired := by
      simp [InvitationRow.effectiveState, redeemable.opened, redeemable.unexpired]
    simp [step, redeem, there, redeemable.opened, redeemable.secret, expired, free, orElse, Tables.endInvitation,
      Tables.endWhere, Tables.update, Tables.setDevice]
  · rintro deviceId at_ device rfl known room
    rw [revoke_eq known room]
    cases stands : device.revokedAtMs with
    | none => exact ⟨_, update_self .., rfl⟩
    | some revoked => exact ⟨device, known, stands⟩

theorem ended_unredeemed {args : RedeemArgs} {row : InvitationRow} (there : t.invitations args.inviteId = some row)
    (ended : row.state ≠ .opened) (later : List Event) : let v := run step t later
    redeem v args = .ok (v, false) := by
  have stays : Kept (run step t later) ∧ (run step t later).invitations args.inviteId = some row := by
    refine run_invariant (fun v => Kept v ∧ v.invitations args.inviteId = some row) ⟨kept, there⟩ ?_ later
    intro v event ⟨kept, there⟩
    obtain ⟨kept', transacts⟩ := step_kept kept event
    obtain ⟨next, after, same⟩ := transacts.final _ row there
    exact ⟨kept', by rw [after, same ended]⟩
  simp [redeem, stays.2, ended]

end

/-- In every state a sequence of transactions reaches, whichever comes next, and after whatever comes later. -/
theorem invitations_end_once (events : List Event) (event : Event) :
    let t := run step Tables.empty events
    Kept t ∧ Transacts event t (step t event) ∧ Effects event t (step t event) ∧
      ∀ args row later, t.invitations args.inviteId = some row → row.state ≠ .opened →
        let v := run step t later
        redeem v args = .ok (v, false) := by
  have kept : Kept (run step Tables.empty events) :=
    run_invariant Kept ⟨by simp [Tables.empty], by simp [Tables.empty], by simp [Tables.empty]⟩ (fun t event kept => (step_kept kept event).1) events
  exact ⟨kept, (step_kept kept event).2, step_effects kept event,
    fun args row later there ended => ended_unredeemed kept there ended later⟩

end Cove.Auth.Invitations
