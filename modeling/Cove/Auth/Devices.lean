import Mathlib.Logic.Function.Basic
import Mathlib.Tactic

/-!
Device credentials: the rows of the store and the copy the server verifies against. Every change is made to the store
first and mirrored after it committed; a rotated token is promoted by the store before anything is admitted with it.
-/

namespace Cove.Auth.Devices

structure DeviceRow where
  tokenHash : String
  pendingTokenHash : Option String
  revoked : Bool

abbrev Rows := String → Option DeviceRow

structure Entry where
  tokenHash : String
  pendingTokenHash : Option String
  revoked : Bool
  /-- A promotion failed with an unknown outcome, so every token is confirmed again. -/
  uncertain : Bool
  promoting : Bool

abbrev Entries := String → Option Entry

inductive DeviceVerdict where
  /-- Usable now, or once the store confirmed the hash. -/
  | device (confirm : Option String)
  | revoked
  | unauthenticated
  deriving DecidableEq

inductive ConfirmedVerdict where
  | device
  | revoked
  | unauthenticated
  | unavailable
  deriving DecidableEq

section Verify

variable (secretHash : String → String)

def dummyHash : String := secretHash "cove-unknown-device"

/-- Both hashes are compared whatever the device is. -/
def verify (entries : Entries) (deviceId secret : String) : DeviceVerdict :=
  let hash := secretHash secret
  let current := ((entries deviceId).map Entry.tokenHash).getD (dummyHash secretHash) == hash
  let pending := ((entries deviceId).bind Entry.pendingTokenHash).getD (dummyHash secretHash) == hash
  match entries deviceId with
  | none => .unauthenticated
  | some entry =>
    if !current && !pending then .unauthenticated
    else if entry.revoked then .revoked
    else if entry.uncertain || !current then .device (some hash)
    else .device none

/-- No token of a revoked device is one to use. -/
theorem verify_revoked {entries : Entries} {deviceId : String}
    (revoked : ∀ entry, entries deviceId = some entry → entry.revoked = true) (secret : String)
    (confirm : Option String) : verify secretHash entries deviceId secret ≠ .device confirm := by
  cases held : entries deviceId with
  | none => simp [verify, held]
  | some entry =>
    have gone := revoked entry held
    simp only [verify, held]
    split <;> simp

end Verify

/-! Promotions. -/

inductive Check where
  | device
  | revoked
  | unauthenticated
  | confirm

def check (entry : Entry) (hash : String) : Check :=
  let current := entry.tokenHash == hash
  let pending := entry.pendingTokenHash == some hash
  if !current && !pending then .unauthenticated
  else if entry.revoked then .revoked
  else if current && !entry.uncertain then .device
  else .confirm

def answer : Check → ConfirmedVerdict
  | .device => .device
  | .revoked => .revoked
  | .unauthenticated => .unauthenticated
  | .confirm => .unavailable

def promoteRow (hash : String) (row : DeviceRow) : DeviceRow :=
  if row.pendingTokenHash = some hash ∧ row.revoked = false then { row with tokenHash := hash, pendingTokenHash := none }
  else row

def adopt (entry : Entry) (row : DeviceRow) : Entry :=
  { entry with
    tokenHash := row.tokenHash
    pendingTokenHash := row.pendingTokenHash
    revoked := entry.revoked || row.revoked
    uncertain := false
    promoting := false }

/-! Changes that follow a commit. -/

def add (entries : Entries) (deviceId tokenHash : String) : Entries :=
  Function.update entries deviceId (some ⟨tokenHash, none, false, false, false⟩)

def change (entries : Entries) (deviceId : String) (update : Entry → Entry) : Entries :=
  Function.update entries deviceId ((entries deviceId).map update)

def setPending (entries : Entries) (deviceId hash : String) : Entries :=
  change entries deviceId (fun entry => { entry with pendingTokenHash := some hash })

def markRevoked (entries : Entries) (deviceId : String) : Entries :=
  change entries deviceId (fun entry => { entry with revoked := true, pendingTokenHash := none })

theorem of_change {entries : Entries} {deviceId other : String} {update : Entry → Entry} {entry : Entry}
    (held : change entries deviceId update other = some entry) :
    (other = deviceId ∧ ∃ old, entries other = some old ∧ update old = entry) ∨
      other ≠ deviceId ∧ entries other = some entry := by
  by_cases same : other = deviceId
  · exact .inl ⟨same, by simpa [change, same] using held⟩
  · exact .inr ⟨same, by simpa [change, same] using held⟩

def Refused (entries : Entries) (deviceId : String) : Prop :=
  ∀ entry, entries deviceId = some entry → entry.revoked = true

theorem Refused.change {entries : Entries} {deviceId other : String} {update : Entry → Entry}
    (refused : Refused entries deviceId) (keeps : ∀ entry, entry.revoked = true → (update entry).revoked = true) :
    Refused (change entries other update) deviceId := by
  intro entry held
  rcases of_change held with ⟨rfl, old, there, rfl⟩ | ⟨_, there⟩
  · exact keeps old (refused old there)
  · exact refused entry there

theorem refused_markRevoked (entries : Entries) (deviceId : String) : Refused (markRevoked entries deviceId) deviceId := by
  intro entry held
  rcases of_change held with ⟨_, old, _, rfl⟩ | ⟨apart, _⟩
  · rfl
  · exact absurd rfl apart

end Cove.Auth.Devices
