import Cove.Auth.Connections

/-!
What one step of the connections can do. Every invariant is proved over these moves and not over the events.
-/

namespace Cove.Auth.Connections
open Auth.Devices List Option Session State

def Session.serving (session : Session) : Bool :=
  match session.phase with
  | .serving .. => true
  | _ => false

structure Quiet (old new : Session) : Prop where
  credential : new.credential = old.credential
  body : new.body = old.body
  closed : new.closed = old.closed
  told : old.told = true → new.told = true
  dispatched : new.dispatched = old.dispatched
  serving : new.serving = true → new.phase = old.phase
  kept : old.serving = true → new.phase = old.phase

theorem Quiet.refl (session : Session) : Quiet session session := ⟨rfl, rfl, rfl, id, rfl, fun _ => rfl, fun _ => rfl⟩

theorem Quiet.phase {session : Session} {phase : Phase} (before : session.serving = false)
    (after : Session.serving { session with phase } = false) : Quiet session { session with phase } :=
  ⟨rfl, rfl, rfl, id, rfl, fun now => by simp [now] at after, fun was => by simp [was] at before⟩

def Verified (secretHash : String → String) (s : State) (session : Session) : Option String → Prop
  | some device => authenticate secretHash s.entries session.credential = .device device none
  | none => session.credential = .localOwner

inductive Move (secretHash : String → String) (s : State) : State → Prop where
  | same : Move secretHash s s
  | connected (kind : Kind) (credential : Credential) (body : List Item) :
      Move secretHash s { s with sessions := s.sessions ++ [⟨kind, credential, body, .reading, 0, false, false⟩] }
  | quiet (id : Nat) (change : Session → Session)
      (still : ∀ session, s.sessions[id]? = some session → Quiet session (change session)) :
      Move secretHash s (s.setSession id change)
  | admitted (id : Nat) (session : Session) (device : Option String) (there : s.sessions[id]? = some session)
      (waiting : session.serving = false) (opened : session.closed = false)
      (verified : Verified secretHash s session device) : Move secretHash s (s.accept id device)
  | continued (id : Nat) (session : Session) (rest : List Item) (there : s.sessions[id]? = some session)
      (phase : session.phase = .serving rest true) : Move secretHash s (s.setSession id (dispatchNext rest))
  | finished (id : Nat) (carried : Bool) :
      Move secretHash s
        ((s.setSession id (fun session => { session with phase := .ended, told := session.told || carried })).forget id)
  | disconnected (id : Nat) (session : Session) (there : s.sessions[id]? = some session)
      (opened : session.closed = false) : Move secretHash s (disconnect s id)
  /-- A call is queued, or a committed rotation mirrored. -/
  | asked (entries : Entries) (more : List StoreCall) (rotated : List (String × String))
      (refused : ∀ device, Refused s.entries device → Refused entries device) :
      Move secretHash s { s with entries, calls := s.calls ++ more, rotated }
  | committed (call : StoreCall) (rest : List StoreCall) (head : s.calls = call :: rest)
      (ran : (transact s.rows call).2 = true) :
      Move secretHash s (commit { s with rows := (transact s.rows call).1, calls := rest } call)
  | rejected (call : StoreCall) (rest : List StoreCall) (unknown : Bool) (rows : Rows) (head : s.calls = call :: rest)
      (kept : rows = s.rows ∨ rows = (transact s.rows call).1) :
      Move secretHash s (reject { s with rows, calls := rest } unknown call)
  | proceeded (index : Nat) (revocation : Revocation) (there : s.revocations[index]? = some revocation)
      (phase : revocation.phase = .committed) : Move secretHash s (proceed s index)
  | waited (index : Nat) : Move secretHash s (endWait s index)

variable {secretHash : String → String} {s : State}

variable {id : Nat}

theorem Move.refuse {session : Session} (there : s.sessions[id]? = some session)
    (waiting : session.serving = false) : Move secretHash s (s.refuse id) := by
  apply Move.quiet id
  intro other same
  obtain rfl : session = other := by simpa [there] using same
  exact Quiet.phase waiting rfl

theorem Move.verified {session : Session} {device : Option String} {fits : Bool}
    (there : s.sessions[id]? = some session) (waiting : session.serving = false) (opened : session.closed = false)
    (verified : Verified secretHash s session device) :
    Move secretHash s (if fits then s.accept id device else s.refuse id) := by
  cases fits with
  | true => exact .admitted id session device there waiting opened verified
  | false => exact .refuse there waiting

theorem authenticate_localOwner {entries : Entries} {credential : Credential}
    (verdict : authenticate secretHash entries credential = .localOwner) : credential = .localOwner := by
  cases credential with
  | none => cases verdict
  | localOwner => rfl
  | device =>
    simp only [authenticate] at verdict
    split at verdict <;> cases verdict

theorem Session.closed_of_live {session : Session} (live : session.live = true) : session.closed = false := by
  simp only [Session.live, Bool.and_eq_true, Bool.not_eq_true'] at live
  exact live.1

theorem Session.serving_of_phase {session : Session} {phase : Phase} (is : session.phase = phase)
    (waiting : serving { session with phase } = false) : session.serving = false := by
  subst is
  exact waiting

theorem arrive_move (id : Nat) (fits : Bool) : Move secretHash s (arrive secretHash s id fits) := by
  unfold arrive
  cases there : s.sessions[id]? with
  | none => exact .same
  | some session =>
    dsimp only
    split
    next ready =>
      have waiting := serving_of_phase ready.1 rfl
      have opened := closed_of_live ready.2
      cases verdict : authenticate secretHash s.entries session.credential with
      | localOwner => exact .verified there waiting opened (authenticate_localOwner verdict)
      | device _ confirm =>
        cases confirm with
        | none => exact .verified there waiting opened verdict
        | some =>
          dsimp only
          split
          next =>
            apply Move.quiet id
            intro other same
            obtain rfl : session = other := by simpa [there] using same
            exact Quiet.phase waiting rfl
          next => exact .refuse there waiting
      | revoked | unauthenticated => exact .refuse there waiting
    next => exact .same

theorem resume_move (id : Nat) (fits : Bool) : Move secretHash s (resume secretHash s id fits) := by
  unfold resume
  cases there : s.sessions[id]? with
  | none => exact .same
  | some session =>
    dsimp only
    split
    next outcome phase =>
      have waiting := serving_of_phase phase rfl
      split
      next live =>
        have opened := closed_of_live live
        split
        next => exact .refuse there waiting
        cases verdict : authenticate secretHash s.entries session.credential with
        | localOwner => exact .verified there waiting opened (authenticate_localOwner verdict)
        | device _ confirm =>
          cases confirm with
          | none => exact .verified there waiting opened verdict
          | some => exact .refuse there waiting
        | revoked | unauthenticated => exact .refuse there waiting
      next => exact .same
    next => exact .same

theorem promote_move (id : Nat) : Move secretHash s (promote secretHash s id) := by
  unfold promote
  split
  next kind device secret body dispatched told closed there =>
    have settled (outcome : ConfirmedVerdict) : Move secretHash s
        (s.setSession id (fun session => { session with phase := .confirming (some outcome) })) := by
      apply Move.quiet id
      intro other same
      rw [there] at same
      cases same
      exact Quiet.phase rfl rfl
    split
    next => exact settled _
    rename_i entry held
    split
    next => exact .same
    split
    next =>
      apply Move.asked _ [.promote id device (secretHash secret)] s.rotated
      exact fun other refused => refused.change fun entry gone => gone
    next => exact settled _
  next => exact .same

theorem answerCall_move : Move secretHash s (answerCall s) := by
  unfold answerCall
  cases head : s.calls with
  | nil => exact .same
  | cons call rest =>
    dsimp only
    cases ran : (transact s.rows call).2 with
    | true => exact .committed call rest head ran
    | false => exact .rejected call rest false _ head (.inr rfl)

theorem loseCall_move (ran unknown : Bool) : Move secretHash s (loseCall s ran unknown) := by
  unfold loseCall
  cases head : s.calls with
  | nil => exact .same
  | cons call rest =>
    apply Move.rejected call rest unknown _ head
    cases ran && unknown with
    | true => exact .inr rfl
    | false => exact .inl rfl

theorem step_move (event : Event) : Move secretHash s (step secretHash s event) := by
  cases event with
  | connect kind credential body => exact .connected kind credential body
  | arrive id fits => exact arrive_move id fits
  | promote id => exact promote_move id
  | resume id fits => exact resume_move id fits
  | settle id =>
    simp only [step, settle]
    split
    next kind credential body rest dispatched told closed there => exact .continued id _ rest there rfl
    next => exact .same
  | finish id =>
    simp only [step, finish]
    split
    next => exact .finished id _
    next => exact .same
  | disconnect id =>
    simp only [step]
    cases there : s.sessions[id]? with
    | none =>
      rw [disconnect, there]
      exact .same
    | some session =>
      cases opened : session.closed with
      | true =>
        rw [disconnect, there]
        simp only [opened]
        exact .same
      | false => exact .disconnected id session there opened
  | retire id =>
    apply Move.quiet id
    intro session _
    exact ⟨rfl, rfl, rfl, fun _ => rfl, rfl, fun _ => rfl, fun _ => rfl⟩
  | answer => exact answerCall_move
  | lose ran unknown => exact loseCall_move ran unknown
  | redeem device hash => exact .asked s.entries [.redeem device hash] s.rotated fun _ refused => refused
  | rotate id hash =>
    simp only [step]
    split
    next device _ => exact .asked s.entries [.rotate id device hash] s.rotated fun _ refused => refused
    next => exact .same
  | rotated device hash =>
    simp only [step]
    split
    next =>
      have moved : Move secretHash s _ := .asked (setPending s.entries device hash) []
        (s.rotated.erase (device, hash)) fun other refused => refused.change fun entry gone => gone
      rwa [append_nil] at moved
    next => exact .same
  | revoke _ device =>
    simp only [step]
    split
    next session _ => exact .asked s.entries [.revoke _ device] s.rotated fun _ refused => refused
    next => exact .same
  | proceed index =>
    simp only [step]
    cases there : s.revocations[index]? with
    | none =>
      rw [proceed, there]
      exact .same
    | some revocation =>
      by_cases phase : revocation.phase = .committed
      · exact .proceeded index revocation there phase
      rw [proceed, there]
      simp only [phase]
      exact .same
  | endWait index => exact .waited index

/-! Sessions by number. -/

def State.isOpen (s : State) (id : Nat) : Bool := s.sessions[id]?.any (fun session => !session.closed)

def State.isTold (s : State) (id : Nat) : Bool := s.sessions[id]?.any told

def State.isServing (s : State) (id : Nat) : Bool := s.sessions[id]?.any serving

def State.openCount (s : State) (targets : List Nat) : Nat := targets.countP s.isOpen

theorem State.session_at (s : State) (id : Nat) (change : Session → Session) (other : Nat) :
    (s.setSession id change).sessions[other]? =
      if id = other then s.sessions[other]?.map change else s.sessions[other]? := by
  simp only [setSession, getElem?_modify]
  split <;> simp

variable {change : Session → Session}

theorem State.isOpen_setSession {s : State}
    (keeps : ∀ session, s.sessions[id]? = some session → (change session).closed = session.closed) (other : Nat) :
    (s.setSession id change).isOpen other = s.isOpen other := by
  simp only [isOpen, session_at]
  split
  next same =>
    subst same
    cases there : s.sessions[id]? with
    | none => rfl
    | some session => simp [keeps session there]
  next => rfl

theorem State.openCount_congr {s t : State} {targets : List Nat}
    (same : ∀ id ∈ targets, t.isOpen id = s.isOpen id) : t.openCount targets = s.openCount targets := by
  apply countP_congr
  intro id member
  rw [same id member]

theorem dispatchNext_kept (rest : List Item) (session : Session) :
    (dispatchNext rest session).credential = session.credential ∧ (dispatchNext rest session).body = session.body ∧
      (dispatchNext rest session).closed = session.closed ∧ (dispatchNext rest session).told = session.told ∧
      (dispatchNext rest session).serving = true := by
  unfold dispatchNext
  split <;> simp [serving]

theorem Session.admitted_kept (session : Session) :
    session.admitted.credential = session.credential ∧ session.admitted.body = session.body ∧
      session.admitted.closed = session.closed ∧ session.admitted.told = session.told ∧
      session.admitted.serving = true := by
  unfold admitted
  split
  next => exact dispatchNext_kept _ session
  next => simp [serving]

theorem accept_sessions (s : State) (id : Nat) (device : Option String) :
    (s.accept id device).sessions = (s.setSession id admitted).sessions := by
  cases device <;> rfl

theorem accept_connections (s : State) (id : Nat) (device : Option String) :
    (s.accept id device).connections = s.connections ++ (device.map fun device => (device, id)).toList := by
  unfold accept
  cases device <;> simp [setSession]

theorem Quiet.outcome (session : Session) (outcome : ConfirmedVerdict) :
    Quiet session (if session.phase = .confirming none then { session with phase := .confirming (some outcome) }
      else session) := by
  split
  next phase => exact Quiet.phase (serving_of_phase phase rfl) rfl
  next => exact Quiet.refl session

theorem commit_quiet (s : State) (call : StoreCall) : (commit s call).connections = s.connections ∧
      ∃ id change, (∀ session, Quiet session (change session)) ∧
        (commit s call).sessions = (s.setSession id change).sessions := by
  have still : s.sessions = (s.setSession 0 id).sessions := by simp [setSession]
  cases call with
  | redeem | rotate | revoke => exact ⟨rfl, 0, id, Quiet.refl, still⟩
  | promote session =>
    simp only [commit]
    split
    next => exact ⟨rfl, session, _, fun old => Quiet.outcome old _, rfl⟩
    next => exact ⟨rfl, session, _, fun old => Quiet.outcome old _, rfl⟩

theorem reject_quiet (s : State) (unknown : Bool) (call : StoreCall) :
    (reject s unknown call).connections = s.connections ∧ ∃ id change, (∀ session, Quiet session (change session)) ∧
        (reject s unknown call).sessions = (s.setSession id change).sessions := by
  have still : s.sessions = (s.setSession 0 id).sessions := by simp [setSession]
  cases call with
  | redeem | rotate | revoke => exact ⟨rfl, 0, id, Quiet.refl, still⟩
  | promote session => exact ⟨rfl, session, _, fun old => Quiet.outcome old _, rfl⟩

theorem disconnect_eq {s : State} {session : Session} (there : s.sessions[id]? = some session)
    (opened : session.closed = false) :
    (disconnect s id).sessions = (s.setSession id (fun session => { session with closed := true })).sessions ∧
      (disconnect s id).connections = s.connections.filter (fun entry => entry.2 ≠ id) := by
  simp [disconnect, there, opened, forget, setSession]

theorem proceed_session {index : Nat} {revocation : Revocation}
    (there : s.revocations[index]? = some revocation) (phase : revocation.phase = .committed) (id : Nat) :
    (proceed s index).sessions[id]? = s.sessions[id]?.map
      (fun session => if id ∈ targetsOf s revocation then { session with told := true } else session) := by
  simp [proceed, there, phase, setRevocation]

theorem proceed_connections (s : State) (index : Nat) : (proceed s index).connections = s.connections := by
  unfold proceed
  split
  next => split <;> rfl
  next => rfl

/-! The effect of a move on one session and on the registrations. -/

variable {t : State}

inductive Change (secretHash : String → String) (s : State) (old : Session) : Session → Prop where
  | quiet {new : Session} (still : Quiet old new) : Change secretHash s old new
  | admitted (device : Option String) (waiting : old.serving = false)
      (verified : Verified secretHash s old device) : Change secretHash s old old.admitted
  | continued (rest : List Item) (phase : old.phase = .serving rest true) :
      Change secretHash s old (dispatchNext rest old)
  | finished (carried : Bool) :
      Change secretHash s old { old with phase := .ended, told := old.told || carried }
  | closed (opened : old.closed = false) : Change secretHash s old { old with closed := true }

theorem Change.refl (old : Session) : Change secretHash s old old := .quiet (Quiet.refl old)

variable {old : Session}

theorem Change.at {other : Nat}
    (there : s.sessions[other]? = some old) (sessions : t.sessions = (s.setSession id change).sessions)
    (changed : id = other → Change secretHash s old (change old)) :
    ∃ new, t.sessions[other]? = some new ∧ Change secretHash s old new := by
  rw [sessions, session_at]
  split
  next same => exact ⟨change old, by rw [there, map_some], changed same⟩
  next => exact ⟨old, there, .refl old⟩

theorem Move.session (move : Move secretHash s t) (there : s.sessions[id]? = some old) :
    ∃ new, t.sessions[id]? = some new ∧ Change secretHash s old new := by
  cases move with
  | same | asked | waited => exact ⟨old, there, .refl old⟩
  | connected =>
    have bound : id < s.sessions.length := (List.getElem?_eq_some_iff.mp there).1
    exact ⟨old, by rw [getElem?_append_left bound, there], .refl old⟩
  | quiet _ _ still =>
    apply Change.at there rfl
    rintro rfl
    exact .quiet (still old there)
  | admitted other session device here waiting _ verified =>
    apply Change.at there (accept_sessions s other device)
    rintro rfl
    obtain rfl : session = old := by simpa [here] using there
    exact .admitted device waiting verified
  | continued _ session rest here phase =>
    apply Change.at there rfl
    rintro rfl
    obtain rfl : session = old := by simpa [here] using there
    exact .continued rest phase
  | finished _ carried => exact Change.at there rfl fun _ => .finished carried
  | disconnected _ session here opened =>
    apply Change.at there (disconnect_eq here opened).1
    rintro rfl
    obtain rfl : session = old := by simpa [here] using there
    exact .closed opened
  | committed call rest =>
    obtain ⟨_, other, change, still, sessions⟩ := commit_quiet { s with rows := (transact s.rows call).1, calls := rest } call
    exact Change.at there sessions fun _ => .quiet (still old)
  | rejected call rest unknown rows =>
    obtain ⟨_, other, change, still, sessions⟩ := reject_quiet { s with rows, calls := rest } unknown call
    exact Change.at there sessions fun _ => .quiet (still old)
  | proceeded _ _ here phase =>
    refine ⟨_, by rw [proceed_session here phase, there, map_some], ?_⟩
    split
    next => exact .quiet ⟨rfl, rfl, rfl, fun _ => rfl, rfl, fun _ => rfl, fun _ => rfl⟩
    next => exact .refl old

theorem Move.fresh (move : Move secretHash s t) {new : Session} (none : s.sessions[id]? = none)
    (there : t.sessions[id]? = some new) : new.serving = false ∧ new.dispatched = 0 ∧ new.told = false ∧ new.closed = false := by
  have untouched {other : Nat} {change : Session → Session}
      (sessions : t.sessions = (s.setSession other change).sessions) : False := by
    rw [sessions, session_at, none] at there
    split at there <;> cases there
  cases move with
  | same | asked => simp [none] at there
  | connected =>
    rw [getElem?_append_right (by simpa using none)] at there
    obtain ⟨_, rfl⟩ := by simpa [getElem?_singleton] using there
    exact ⟨rfl, rfl, rfl, rfl⟩
  | quiet other change still | continued | finished => exact (untouched rfl).elim
  | admitted other _ device => exact (untouched (accept_sessions s other device)).elim
  | disconnected _ _ here opened => exact (untouched (disconnect_eq here opened).1).elim
  | committed call rest =>
    obtain ⟨_, other, change, _, sessions⟩ := commit_quiet { s with rows := (transact s.rows call).1, calls := rest } call
    exact (untouched sessions).elim
  | rejected call rest unknown rows =>
    obtain ⟨_, other, change, _, sessions⟩ := reject_quiet { s with rows, calls := rest } unknown call
    exact (untouched sessions).elim
  | proceeded _ _ here phase => simp [proceed_session here phase, none] at there
  | waited => simp [endWait, setRevocation, none] at there

inductive Registers (secretHash : String → String) (s t : State) : Prop where
  | same (connections : t.connections = s.connections)
      (served : ∀ (id : Nat) (old new : Session), s.sessions[id]? = some old → old.serving = true → t.sessions[id]? = some new →
        new.serving = true ∧ new.closed = old.closed)
      (begun : ∀ (id : Nat) (new : Session), t.sessions[id]? = some new → new.serving = true →
        (∃ old, s.sessions[id]? = some old ∧ old.serving = true) ∨ new.device = none)
  | dropped (id : Nat) (connections : t.connections = s.connections.filter (fun entry => entry.2 ≠ id))
      (others : ∀ other : Nat, other ≠ id → t.sessions[other]? = s.sessions[other]?)
      (left : ∀ session, t.sessions[id]? = some session → session.serving = true → session.closed = true)
  | added (device : String) (id : Nat) (session : Session)
      (connections : t.connections = s.connections ++ [(device, id)])
      (others : ∀ other : Nat, other ≠ id → t.sessions[other]? = s.sessions[other]?)
      (before : s.sessions[id]? = some session) (waiting : session.serving = false) (opened : session.closed = false)
      (verified : Verified secretHash s session (some device)) (after : t.sessions[id]? = some session.admitted)

theorem Registers.quiet (connections : t.connections = s.connections)
    (sessions : t.sessions = (s.setSession id change).sessions)
    (still : ∀ session, s.sessions[id]? = some session → session.serving = true →
      (change session).serving = true ∧ (change session).closed = session.closed)
    (begun : ∀ session, s.sessions[id]? = some session → (change session).serving = true →
      session.serving = true ∨ (change session).device = none) : Registers secretHash s t := by
  apply Registers.same connections
  · intro other old new before serving after
    rw [sessions, session_at] at after
    split at after
    next here =>
      subst here
      obtain rfl : change old = new := by simpa [before] using after
      exact still old before serving
    next =>
      obtain rfl : old = new := by simpa [before] using after
      exact ⟨serving, rfl⟩
  · intro other new after serving
    rw [sessions, session_at] at after
    split at after
    next here =>
      subst here
      obtain ⟨old, before, rfl⟩ := Option.map_eq_some_iff.mp after
      exact (begun old before serving).imp_left fun was => ⟨old, before, was⟩
    next => exact .inl ⟨new, after, serving⟩

theorem Quiet.served {new : Session} (still : Quiet old new) (serving : old.serving = true) :
    new.serving = true ∧ new.closed = old.closed := by
  refine ⟨?_, still.closed⟩
  have phase := still.kept serving
  simpa [Session.serving, phase] using serving

theorem Quiet.begun {new : Session} (still : Quiet old new) (serving : new.serving = true) : old.serving = true := by
  have phase := still.serving serving
  simpa [Session.serving, phase] using serving

theorem Registers.still (connections : t.connections = s.connections)
    (sessions : t.sessions = (s.setSession id change).sessions)
    (still : ∀ session, s.sessions[id]? = some session → Quiet session (change session)) : Registers secretHash s t :=
  .quiet connections sessions (fun session there => (still session there).served)
    fun session there serving => .inl ((still session there).begun serving)

theorem Registers.refl (connections : t.connections = s.connections) (sessions : t.sessions = s.sessions) :
    Registers secretHash s t := by
  refine .same connections ?_ fun id new after serving => .inl ⟨new, sessions ▸ after, serving⟩
  intro id old new before serving after
  obtain rfl : old = new := by simpa [sessions, before] using after
  exact ⟨serving, rfl⟩

theorem Move.registers (move : Move secretHash s t) : Registers secretHash s t := by
  cases move with
  | same | asked | waited => exact .refl rfl rfl
  | connected =>
    refine .same rfl ?_ ?_
    · intro id old new before serving after
      have bound : id < s.sessions.length := (List.getElem?_eq_some_iff.mp before).1
      obtain rfl : old = new := by simpa [getElem?_append_left bound, before] using after
      exact ⟨serving, rfl⟩
    · intro id new after serving
      rcases Base.Run.getElem?_snoc after with ⟨_, before⟩ | ⟨_, rfl⟩
      · exact .inl ⟨new, before, serving⟩
      · cases serving
  | quiet _ _ still => exact .still rfl rfl still
  | admitted id session device there waiting opened verified =>
    cases device with
    | none =>
      refine .quiet rfl (accept_sessions s id none) ?_ ?_
      · intro other here serving
        obtain rfl : session = other := by simpa [there] using here
        simp [waiting] at serving
      · intro other here _
        obtain rfl : session = other := by simpa [there] using here
        have presented := session.admitted_kept.1.trans verified
        exact .inr (by rw [Session.device, presented])
    | some device =>
      have sessions := accept_sessions s id (some device)
      apply Registers.added device id session (accept_connections s id (some device)) _ there waiting opened verified
      · rw [sessions, session_at, if_pos rfl, there, map_some]
      · intro other apart
        rw [sessions, session_at, if_neg (Ne.symm apart)]
  | continued _ session rest there phase =>
    refine .quiet rfl rfl ?_ ?_
    · intro other here serving
      have kept := dispatchNext_kept rest other
      exact ⟨kept.2.2.2.2, kept.2.2.1⟩
    · intro other here _
      obtain rfl : session = other := by simpa [there] using here
      exact .inl (by simp [Session.serving, phase])
  | finished id =>
    refine .dropped id rfl ?_ ?_
    · intro other apart
      change (s.setSession id _).sessions[other]? = _
      rw [session_at, if_neg (Ne.symm apart)]
    · intro session after serving
      change (s.setSession id _).sessions[id]? = _ at after
      rw [session_at, if_pos rfl] at after
      obtain ⟨_, _, rfl⟩ := Option.map_eq_some_iff.mp after
      cases serving
  | disconnected id _ there opened =>
    have effect := disconnect_eq there opened
    apply Registers.dropped id effect.2
    · intro other apart
      rw [effect.1, session_at, if_neg (Ne.symm apart)]
    · intro session after _
      rw [effect.1, session_at, if_pos rfl] at after
      obtain ⟨_, _, rfl⟩ := Option.map_eq_some_iff.mp after
      rfl
  | committed call rest =>
    obtain ⟨connections, other, change, still, sessions⟩ :=
      commit_quiet { s with rows := (transact s.rows call).1, calls := rest } call
    exact .still connections sessions fun session _ => still session
  | rejected call rest unknown rows =>
    obtain ⟨connections, other, change, still, sessions⟩ := reject_quiet { s with rows, calls := rest } unknown call
    exact .still connections sessions fun session _ => still session
  | proceeded index _ here phase =>
    apply Registers.same (proceed_connections s index)
    · intro id old new before serving after
      rw [proceed_session here phase, before] at after
      cases after
      split <;> exact ⟨serving, rfl⟩
    · intro id new after serving
      rw [proceed_session here phase] at after
      obtain ⟨old, before, rfl⟩ := Option.map_eq_some_iff.mp after
      refine .inl ⟨old, before, ?_⟩
      split at serving <;> exact serving

end Cove.Auth.Connections
