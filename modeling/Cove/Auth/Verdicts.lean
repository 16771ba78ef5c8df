import Cove.Auth.Connections

/-!
What a presented credential is answered: it is parsed, verified against the copy of the devices and, where its verdict
asks for that, confirmed by the store. A missing hash is compared with a dummy one.
-/

namespace Cove.Auth.Verdicts
open Auth.Devices Connections

/-! Credentials. -/

inductive Parsed where
  | localSecret (secret : String)
  | deviceToken (deviceId secret : String)
  deriving DecidableEq

def Parsed.secret : Parsed → String
  | .localSecret secret => secret
  | .deviceToken _ secret => secret

def secretChar (c : Char) : Bool := c.isAlphanum || c == '_' || c == '-'

def isDeviceId : List Char → Bool
  | [] => false
  | first :: rest => first.isAlphanum && rest.length ≤ 39 && rest.all secretChar

variable (value : String)

/-- A device ID has no dot, so the first dot ends it. -/
def deviceToken : Option Parsed :=
  if "cove_d1_".toList <+: value.toList then
    match (value.toList.drop 8).span (· != '.') with
    | (deviceId, _ :: secret) =>
      if isDeviceId deviceId ∧ secret.length = 43 ∧ secret.all secretChar then
        some (.deviceToken (.ofList deviceId) (.ofList secret))
      else none
    | _ => none
  else none

def isLocalSecret : Bool := 43 ≤ value.length && value.length ≤ 256 && value.toList.all secretChar

def parseCredential : Option Parsed :=
  match deviceToken value with
  | some device => some device
  | none => if isLocalSecret value then some (.localSecret value) else none

theorem parseCredential_long {value : String} {credential : Parsed} (parsed : parseCredential value = some credential) :
    43 ≤ credential.secret.length := by
  unfold parseCredential deviceToken at parsed
  split at parsed
  next device found =>
    split at found <;> [skip; cases found]
    split at found <;> [skip; cases found]
    split at found <;> [skip; cases found]
    rename_i fits
    cases found
    cases parsed
    simp [Parsed.secret, fits.2.1]
  next =>
    split at parsed <;> [skip; cases parsed]
    rename_i fits
    cases parsed
    simp only [isLocalSecret, Bool.and_eq_true, decide_eq_true_eq] at fits
    exact fits.1.1

/-- The credential of a request; a local secret is compared with the one of this start. -/
def presented (localSecret : String) (value : Option String) : Credential :=
  match value.bind parseCredential with
  | none => .none
  | some (.localSecret secret) => if secret = localSecret then .localOwner else .none
  | some (.deviceToken deviceId secret) => .device deviceId secret

/-! Confirmation. -/

/-- The tables and answers one credential meets, whatever happens in between. -/
structure Course where
  verified : Entries
  /-- The device's entry once no promotion of it is in flight, where there is a store. -/
  checked : Option Entry
  /-- The same entry when the store call ended. -/
  settled : Entry
  /-- The device of the store, or a failure. -/
  stored : Option (Option DeviceRow)

def runPromotion (course : Course) (hash : String) : ConfirmedVerdict :=
  match course.stored with
  | none => .unavailable
  | some none => .unauthenticated
  | some (some row) => answer (check (adopt course.settled row) hash)

def promote (course : Course) : Option String → ConfirmedVerdict
  | none => .device
  | some hash =>
    match course.checked with
    | none => .unavailable
    | some entry =>
      match check entry hash with
      | .confirm => runPromotion course hash
      | before => answer before

variable (secretHash : String → String) (localSecret : String)

/-- Authentication followed by confirmation; `none` for the local owner. -/
def finalAnswer (course : Course) (value : Option String) : Option ConfirmedVerdict :=
  match authenticate secretHash course.verified (presented localSecret value) with
  | .localOwner => none
  | .device _ confirm => some (promote course confirm)
  | .revoked => some .revoked
  | .unauthenticated => some .unauthenticated

/-! Verdicts. -/

def Matches (entry : Entry) (hash : String) : Prop := entry.tokenHash = hash ∨ entry.pendingTokenHash = some hash

/-- An entry of the device the course met, in the copy or as the store's answer made it. -/
inductive Course.Met (course : Course) (deviceId : String) : Entry → Prop
  | verified {entry : Entry} : course.verified deviceId = some entry → Met course deviceId entry
  | checked {entry : Entry} : course.checked = some entry → Met course deviceId entry
  | stored {row : DeviceRow} : course.stored = some (some row) → Met course deviceId (adopt course.settled row)

variable {secretHash}

theorem check_unmatched {entry : Entry} {hash : String} (apart : ¬Matches entry hash) :
    check entry hash = .unauthenticated := by
  simp only [Matches, not_or] at apart
  simp [check, apart.1, apart.2]

theorem check_revoked {entry : Entry} {hash : String} (revoked : check entry hash = .revoked) :
    entry.revoked = true ∧ Matches entry hash := by
  refine ⟨?_, by_contra fun apart => by simp [check_unmatched apart] at revoked⟩
  unfold check at revoked
  grind

theorem answer_revoked {result : Check} (revoked : answer result = .revoked) : result = .revoked := by
  cases result <;> simp_all [answer]

section Verify
variable {entries : Entries} {deviceId secret : String} (apart : secretHash secret ≠ dummyHash secretHash)
include apart

/-- The dummy hash changes no verdict of a secret that does not hash to it. -/
theorem verify_unmatched (wrong : ∀ entry, entries deviceId = some entry → ¬Matches entry (secretHash secret)) :
    verify secretHash entries deviceId secret = .unauthenticated := by
  cases held : entries deviceId with
  | none => simp [verify, held]
  | some entry =>
    have differs := wrong entry held
    cases pending : entry.pendingTokenHash <;> simp_all [verify, Matches, Ne.symm apart]

theorem verify_revoked_matches (revoked : verify secretHash entries deviceId secret = .revoked) :
    ∃ entry, entries deviceId = some entry ∧ entry.revoked = true ∧ Matches entry (secretHash secret) := by
  cases held : entries deviceId with
  | none => simp [verify, held] at revoked
  | some entry =>
    refine ⟨entry, rfl, by grind [verify], ?_⟩
    by_contra differs
    have wrong : ∀ other, entries deviceId = some other → ¬Matches other (secretHash secret) := by grind
    rw [verify_unmatched apart wrong] at revoked
    cases revoked

end Verify

theorem promote_revoked {course : Course} {deviceId hash : String} (revoked : promote course (some hash) = .revoked) :
    ∃ entry, course.Met deviceId entry ∧ entry.revoked = true ∧ Matches entry hash := by
  simp only [promote] at revoked
  split at revoked <;> [cases revoked; skip]
  rename_i entry held
  split at revoked
  next =>
    unfold runPromotion at revoked
    split at revoked <;> [cases revoked; cases revoked; skip]
    rename_i row stored
    exact ⟨_, .stored stored, check_revoked (answer_revoked revoked)⟩
  next => exact ⟨entry, .checked held, check_revoked (answer_revoked revoked)⟩

/-- A secret that parses is longer than the text behind the dummy hash. -/
theorem apart_of_parsed (collisionFree : Function.Injective secretHash) {value : String} {credential : Parsed}
    (parsed : parseCredential value = some credential) : secretHash credential.secret ≠ dummyHash secretHash := by
  intro same
  have long := parseCredential_long parsed
  rw [collisionFree same] at long
  exact absurd long (by decide)

theorem verdicts_reveal_no_device (collisionFree : Function.Injective secretHash) (value : String) :
    (∀ deviceId secret, parseCredential value = some (.deviceToken deviceId secret) → ∀ first second : Course,
      (∀ entry, first.verified deviceId = some entry → ¬Matches entry (secretHash secret)) →
      (∀ entry, second.verified deviceId = some entry → ¬Matches entry (secretHash secret)) →
      finalAnswer secretHash localSecret first value = some .unauthenticated ∧
        finalAnswer secretHash localSecret second value = some .unauthenticated) ∧
    (∀ course : Course, finalAnswer secretHash localSecret course value = some .revoked →
      ∃ deviceId secret entry, parseCredential value = some (.deviceToken deviceId secret) ∧
        course.Met deviceId entry ∧ entry.revoked = true ∧ Matches entry (secretHash secret)) ∧
    ∀ credential, parseCredential value = some credential → secretHash credential.secret ≠ dummyHash secretHash := by
  refine ⟨fun deviceId secret parsed first second wrong other => ?_, fun course revoked => ?_,
    fun _ => apart_of_parsed collisionFree⟩
  · have apart : secretHash secret ≠ dummyHash secretHash := apart_of_parsed collisionFree parsed
    simp [finalAnswer, presented, parsed, authenticate, verify_unmatched apart wrong, verify_unmatched apart other]
  · unfold finalAnswer presented at revoked
    cases parsed : parseCredential value with
    | none => simp [parsed, authenticate] at revoked
    | some credential =>
      cases credential with
      | localSecret secret => grind [authenticate]
      | deviceToken deviceId secret =>
        have apart : secretHash secret ≠ dummyHash secretHash := apart_of_parsed collisionFree parsed
        refine ⟨deviceId, secret, ?_⟩
        simp only [Option.bind_some, parsed, authenticate, true_and] at revoked ⊢
        cases verified : verify secretHash course.verified deviceId secret with
        | unauthenticated => simp [verified] at revoked
        | revoked =>
          obtain ⟨entry, held, matched⟩ := verify_revoked_matches apart verified
          exact ⟨entry, .verified held, matched⟩
        | device confirm =>
          simp only [verified, Option.some.injEq] at revoked
          cases confirm with
          | none => cases revoked
          | some hash =>
            have same : hash = secretHash secret := by grind [verify]
            exact promote_revoked (same ▸ revoked)

/-- With one device, revoked or none. -/
def phoneCourse (entry : Option Entry) : Course := ⟨fun _ => entry, entry, ⟨"hash", none, true, false, false⟩, none⟩

theorem verdicts_reveal_no_device_phone : Function.Injective (fun secret : String => secret) ∧
      finalAnswer (fun secret => secret) "" (phoneCourse (some ⟨"hash", none, true, false, false⟩))
        "cove_d1_phone.0123456789012345678901234567890123456789012" = some .unauthenticated := by
  refine ⟨fun _ _ same => same, ?_⟩
  refine ((verdicts_reveal_no_device "" (fun _ _ same => same) _).1 "phone"
    "0123456789012345678901234567890123456789012" (by decide +kernel) _ (phoneCourse none) ?_ (by simp [phoneCourse])).1
  grind [phoneCourse, Matches]

end Cove.Auth.Verdicts
