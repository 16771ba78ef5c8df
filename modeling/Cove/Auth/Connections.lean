import Cove.Auth.Devices
import Cove.Base.Run

/-!
The connections of devices and their revocation. A transport verifies a credential, waits for the store where a rotated
token is used first, verifies again and registers the connection in the same step as its last verification; a revocation
marks the device and tells its connections to close in one step too. Every step below runs without an interruption, and
steps come in any order.
-/

namespace Cove.Auth.Connections
open Auth.Devices

/-! Calls of an HTTP body. -/

inductive Item where
  | error
  | notification (valid : Bool)
  | call
  deriving DecidableEq

def Item.routed : Item → Bool
  | .error => false
  | .notification valid => valid
  | .call => true

def nextCall : List Item → Option (List Item)
  | [] => none
  | item :: rest => if item.routed then some rest else nextCall rest

/-! Sessions. -/

inductive Credential where
  | none
  | localOwner
  | device (deviceId secret : String)
  deriving DecidableEq

inductive Authentication where
  | localOwner
  | device (deviceId : String) (confirm : Option String)
  | revoked
  | unauthenticated

variable (secretHash : String → String)

def authenticate (entries : Entries) : Credential → Authentication
  | .none => .unauthenticated
  | .localOwner => .localOwner
  | .device deviceId secret =>
    match verify secretHash entries deviceId secret with
    | .device confirm => .device deviceId confirm
    | .revoked => .revoked
    | .unauthenticated => .unauthenticated

inductive Kind where
  | http
  | terminal
  | business
  deriving DecidableEq

inductive Phase where
  /-- The body of a request is being read, or the first frame awaited. -/
  | reading
  /-- The store is asked about a token, with what it made of it. -/
  | confirming (outcome : Option ConfirmedVerdict)
  /-- Admitted; of an HTTP body the items after the call being handled, while one is. -/
  | serving (rest : List Item) (handling : Bool)
  | ended
  deriving DecidableEq

structure Session where
  kind : Kind
  credential : Credential
  body : List Item
  phase : Phase
  dispatched : Nat
  told : Bool
  closed : Bool

variable (session : Session)

/-- A request that still waits for its admission; a WebSocket that retired handles no frame. -/
def Session.live : Bool := !session.closed && (session.kind == .http || !session.told)

def Session.device : Option String :=
  match session.credential with
  | .device deviceId _ => some deviceId
  | _ => none

/-! Store calls and revocations. -/

inductive StoreCall where
  | redeem (deviceId tokenHash : String)
  | rotate (session : Nat) (deviceId hash : String)
  | promote (session : Nat) (deviceId hash : String)
  /-- With the request of the device itself that asks for it. -/
  | revoke (self : Option Nat) (deviceId : String)
  deriving DecidableEq

inductive RevocationPhase where
  | committed
  /-- The connections told to close, and how many of them are counted open. -/
  | waiting (targets : List Nat) (count : Nat)
  | answered (targets : List Nat) (unclosed : Nat)
  deriving DecidableEq

structure Revocation where
  deviceId : String
  self : Option Nat
  phase : RevocationPhase
  deriving DecidableEq

structure State where
  rows : Rows
  entries : Entries
  calls : List StoreCall
  rotated : List (String × String)
  sessions : List Session
  connections : List (String × Nat)
  revocations : List Revocation

def State.empty : State := ⟨fun _ => none, fun _ => none, [], [], [], [], []⟩

variable (s : State)

variable (id : Nat)

def State.setSession (change : Session → Session) : State :=
  { s with sessions := s.sessions.modify id change }

def State.setRevocation (index : Nat) (change : Revocation → Revocation) : State :=
  { s with revocations := s.revocations.modify index change }

/-- The dispatch of a body's next call; the loop of `rpcBody` up to its next wait. -/
def dispatchNext (rest : List Item) (session : Session) : Session :=
  match nextCall rest with
  | some later => { session with phase := .serving later true, dispatched := session.dispatched + 1 }
  | none => { session with phase := .serving [] false }

def Session.admitted : Session :=
  match session.kind with
  | .http => dispatchNext session.body session
  | _ => { session with phase := .serving [] false }

def State.accept (deviceId : Option String) : State :=
  let serving := s.setSession id Session.admitted
  match deviceId with
  | some device => { serving with connections := serving.connections ++ [(device, id)] }
  | none => serving

/-- A refused session is over here. The source still reads a first frame of a WebSocket it has answered `UNAVAILABLE`, until
the close it asked for. -/
def State.refuse : State := s.setSession id (fun session => { session with phase := .ended })

def State.forget : State :=
  { s with connections := s.connections.filter (fun entry => entry.2 ≠ id) }

def arrive (fits : Bool) : State :=
  match s.sessions[id]? with
  | none => s
  | some session =>
    if session.phase = .reading ∧ session.live then
      match authenticate secretHash s.entries session.credential with
      | .localOwner => if fits then s.accept id none else s.refuse id
      | .device device none => if fits then s.accept id (some device) else s.refuse id
      | .device _ (some _) =>
        if fits then s.setSession id (fun session => { session with phase := .confirming none }) else s.refuse id
      | .revoked | .unauthenticated => s.refuse id
    else s

/-- `promote` up to its store call: it waits for a promotion in flight, and may find the token settled. -/
def promote : State :=
  match s.sessions[id]? with
  | some { credential := .device device secret, phase := .confirming none, .. } =>
    let settle (outcome : ConfirmedVerdict) : State :=
      s.setSession id (fun session => { session with phase := .confirming (some outcome) })
    match s.entries device with
    | none => settle .unavailable
    | some entry =>
      if entry.promoting then s
      else
        match check entry (secretHash secret) with
        | .confirm =>
          { s with
            entries := change s.entries device (fun entry => { entry with promoting := true })
            calls := s.calls ++ [.promote id device (secretHash secret)] }
        | settled => settle (answer settled)
  | _ => s

def resume (fits : Bool) : State :=
  match s.sessions[id]? with
  | none => s
  | some session =>
    match session.phase with
    | .confirming (some outcome) =>
      if session.live then
        if outcome = .unavailable ∨ session.kind = .http ∧ outcome ≠ .device then s.refuse id
        else
          match authenticate secretHash s.entries session.credential with
          | .localOwner => if fits then s.accept id none else s.refuse id
          | .device device none => if fits then s.accept id (some device) else s.refuse id
          | .device _ (some _) | .revoked | .unauthenticated => s.refuse id
      else s
    | _ => s

def settle : State :=
  match s.sessions[id]? with
  | some { phase := .serving rest true, .. } => s.setSession id (dispatchNext rest)
  | _ => s

/-! The store. -/

def transact (rows : Rows) : StoreCall → Rows × Bool
  | .redeem device hash =>
    if rows device = none then (Function.update rows device (some ⟨hash, none, false⟩), true) else (rows, false)
  | .rotate _ device hash =>
    match rows device with
    | some row =>
      if row.revoked then (rows, false)
      else (Function.update rows device (some { row with pendingTokenHash := some hash }), true)
    | none => (rows, false)
  | .promote _ device hash => (Function.update rows device ((rows device).map (promoteRow hash)), true)
  | .revoke _ device =>
    match rows device with
    | some row => (Function.update rows device (some { row with revoked := true, pendingTokenHash := none }), true)
    | none => (rows, false)

def finishPromotion (device : String) (update : Entry → Entry) (outcome : ConfirmedVerdict) : State :=
  { s.setSession id (fun session =>
      if session.phase = .confirming none then { session with phase := .confirming (some outcome) } else session) with
    entries := change s.entries device update }

/-- The caller of a committed transaction goes on. A redemption's device is added before any later answer arrives. -/
def commit : StoreCall → State
  | .redeem device hash => { s with entries := add s.entries device hash }
  | .rotate _ device hash => { s with rotated := s.rotated ++ [(device, hash)] }
  | .promote id device hash =>
    match s.rows device, s.entries device with
    | some row, some entry =>
      finishPromotion s id device (fun entry => adopt entry row) (answer (check (adopt entry row) hash))
    | _, _ => finishPromotion s id device (fun entry => { entry with promoting := false }) .unauthenticated
  | .revoke self device => { s with revocations := s.revocations ++ [⟨device, self, .committed⟩] }

/-- The caller of a call that was rejected goes on; `unknown` when the store cannot tell what became of it. -/
def reject (unknown : Bool) : StoreCall → State
  | .promote id device _ =>
    finishPromotion s id device
      (fun entry => { entry with promoting := false, uncertain := entry.uncertain || unknown }) .unavailable
  | _ => s

def answerCall : State :=
  match s.calls with
  | [] => s
  | call :: rest =>
    let (rows, ok) := transact s.rows call
    let left := { s with rows, calls := rest }
    if ok then commit left call else reject left false call

def loseCall (ran unknown : Bool) : State :=
  match s.calls with
  | [] => s
  | call :: rest =>
    reject { s with rows := if ran && unknown then (transact s.rows call).1 else s.rows, calls := rest } unknown call

/-! Revocation. -/

def targetsOf (revocation : Revocation) : List Nat :=
  (s.connections.filter (fun entry => entry.1 = revocation.deviceId ∧ some entry.2 ≠ revocation.self)).map Prod.snd

def proceed (index : Nat) : State :=
  match s.revocations[index]? with
  | some revocation =>
    if revocation.phase = .committed then
      let targets := targetsOf s revocation
      let marked : State := { s with
        entries := markRevoked s.entries revocation.deviceId
        sessions := s.sessions.mapIdx
          (fun id session => if id ∈ targets then { session with told := true } else session) }
      marked.setRevocation index (fun revocation => { revocation with phase := .waiting targets targets.length })
    else s
  | none => s

def endWait (index : Nat) : State :=
  s.setRevocation index (fun revocation =>
    match revocation.phase with
    | .waiting targets count => { revocation with phase := .answered targets count }
    | _ => revocation)

def disconnect : State :=
  match s.sessions[id]? with
  | some session =>
    if session.closed then s
    else
      let counted := s.revocations.map (fun revocation =>
        match revocation.phase with
        | .waiting targets count =>
          if id ∈ targets then { revocation with phase := .waiting targets (count - 1) } else revocation
        | _ => revocation)
      { (s.setSession id (fun session => { session with closed := true })).forget id with revocations := counted }
  | none => s

/-- A response is done: the request is forgotten, and one that carried its device's own revocation ends its socket. -/
def finish : State :=
  match s.sessions[id]? with
  | some { kind := .http, phase := .serving _ false, .. } =>
    let carried := s.revocations.any (fun revocation => revocation.self == some id &&
      match revocation.phase with
      | .answered .. => true
      | _ => false)
    (s.setSession id (fun session => { session with phase := .ended, told := session.told || carried })).forget id
  | _ => s

inductive Event where
  | connect (kind : Kind) (credential : Credential) (body : List Item)
  | arrive (id : Nat) (fits : Bool)
  | promote (id : Nat)
  | resume (id : Nat) (fits : Bool)
  | settle (id : Nat)
  | finish (id : Nat)
  | disconnect (id : Nat)
  | retire (id : Nat)
  | answer
  | lose (ran unknown : Bool)
  | redeem (deviceId tokenHash : String)
  | rotate (id : Nat) (hash : String)
  | rotated (deviceId hash : String)
  | revoke (id : Nat) (deviceId : String)
  | proceed (index : Nat)
  | endWait (index : Nat)
  deriving DecidableEq

def handling : Option Session :=
  s.sessions[id]?.filter (fun session => match session.phase with
    | .serving _ true => true
    | _ => false)

def step (s : State) : Event → State
  | .connect kind credential body =>
    { s with sessions := s.sessions ++ [⟨kind, credential, body, .reading, 0, false, false⟩] }
  | .arrive id fits => arrive secretHash s id fits
  | .promote id => promote secretHash s id
  | .resume id fits => resume secretHash s id fits
  | .settle id => settle s id
  | .finish id => finish s id
  | .disconnect id => disconnect s id
  | .retire id => s.setSession id (fun session => { session with told := true })
  | .answer => answerCall s
  | .lose ran unknown => loseCall s ran unknown
  | .redeem device hash => { s with calls := s.calls ++ [.redeem device hash] }
  | .rotate id hash =>
    match (handling s id).bind Session.device with
    | some device => { s with calls := s.calls ++ [.rotate id device hash] }
    | none => s
  | .rotated device hash =>
    if (device, hash) ∈ s.rotated then
      { s with entries := setPending s.entries device hash, rotated := s.rotated.erase (device, hash) }
    else s
  | .revoke id device =>
    match handling s id with
    | some session =>
      { s with calls := s.calls ++ [.revoke (if session.device = some device then some id else none) device] }
    | none => s
  | .proceed index => proceed s index
  | .endWait index => endWait s index

end Cove.Auth.Connections
