import Cove.Auth.Revocation

/-!
Rotations of a device's token. A request is authenticated against the copy in memory, and its rotation is committed later
by the store, which looks at the device but not at the token the request came with.
-/

namespace Cove.Auth.Connections
open Auth.Devices Base.Run List Option

variable (secretHash : String → String)

variable (s : State)

def runs : Event → Option StoreCall
  | .answer | .lose true true => s.calls.head?
  | _ => none

def IsCurrent (device secret : String) : Prop :=
  ∃ row, s.rows device = some row ∧ row.tokenHash = secretHash secret

/-- A rotation that is committed was asked for with a token that is still current. -/
def RotatesCurrent (event : Event) : Prop :=
  ∀ id device hash, runs s event = some (.rotate id device hash) → (transact s.rows (.rotate id device hash)).2 = true →
    ∃ session secret, s.sessions[id]? = some session ∧ session.credential = .device device secret ∧
      IsCurrent secretHash s device secret

def Acts (id : Nat) (device : String) : Prop :=
  (handling s id).isSome ∨ ∃ hash, .rotate id device hash ∈ s.calls

/-- Of the events to come or the calls in the queue, one rotates for a request. -/
def Rotates (later : List Event) (id : Nat) (device : String) : Prop :=
  ∃ hash, .rotate id hash ∈ later ∨ .rotate id device hash ∈ s.calls

/-- A promotion replaces a device's token only while no request that came with another one acts and rotates. -/
def ReplacesUnused (event : Event) (later : List Event) : Prop :=
  ∀ confirmed device hash row, runs s event = some (.promote confirmed device hash) → s.rows device = some row →
    row.pendingTokenHash = some hash → row.revoked = false →
    ∀ (id : Nat) session secret, s.sessions[id]? = some session → session.credential = .device device secret →
      Acts s id device → Rotates s later id device → secretHash secret = hash

def PromotesUnused (s : State) : List Event → Prop
  | [] => True
  | event :: later => ReplacesUnused secretHash s event later ∧ PromotesUnused (step secretHash s event) later

variable {secretHash} {s t : State} {rows : Rows} {entries : Entries}

def Mirrored (rows : Rows) (entries : Entries) : Prop :=
  ∀ device entry, entries device = some entry →
    ∃ row, rows device = some row ∧ (entry.uncertain = false → entry.tokenHash = row.tokenHash)

variable {device : String}

section

variable (mirrored : Mirrored rows entries)
include mirrored

theorem Mirrored.changed {update : Entry → Entry}
    (keeps : ∀ entry, (update entry).uncertain = false → entry.uncertain = false ∧ (update entry).tokenHash = entry.tokenHash) :
    Mirrored rows (change entries device update) := by
  intro other entry held
  rcases of_change held with ⟨rfl, old, there, rfl⟩ | ⟨_, there⟩
  · obtain ⟨row, known, agrees⟩ := mirrored other old there
    refine ⟨row, known, fun certain => ?_⟩
    obtain ⟨before, token⟩ := keeps old certain
    rw [token, agrees before]
  · exact mirrored other entry there

theorem Mirrored.transacted {call : StoreCall} (other : ∀ id device hash, call ≠ .promote id device hash) :
    Mirrored (transact rows call).1 entries := by
  intro device entry held
  obtain ⟨row, there, agrees⟩ := mirrored device entry held
  obtain ⟨next, after, token | ⟨id, promotes, _⟩⟩ := transact_token call there
  · exact ⟨next, after, fun certain => by rw [agrees certain, token]⟩
  · exact absurd promotes (other id device _)

theorem Mirrored.promoted (id : Nat) (device hash : String) {update : Entry → Entry}
    (set : ∀ entry row, entries device = some entry → (transact rows (.promote id device hash)).1 device = some row →
      (update entry).uncertain = false → (update entry).tokenHash = row.tokenHash) :
    Mirrored (transact rows (.promote id device hash)).1 (change entries device update) := by
  intro other entry held
  rcases of_change held with ⟨rfl, old, there, rfl⟩ | ⟨apart, there⟩
  · obtain ⟨row, known, _⟩ := mirrored other old there
    obtain ⟨next, after, _⟩ := transact_token (.promote id other hash) known
    exact ⟨next, after, set old next there after⟩
  · simpa [transact, apart] using mirrored other entry there

end

theorem Mirrored.committed (mirrored : Mirrored s.rows s.entries) {call : StoreCall} {rest : List StoreCall}
    (ran : (transact s.rows call).2 = true) :
    Mirrored (transact s.rows call).1 (commit { s with rows := (transact s.rows call).1, calls := rest } call).entries := by
  cases call with
  | redeem device hash =>
    have after : Mirrored (transact s.rows (.redeem device hash)).1 s.entries := mirrored.transacted (by simp)
    intro other entry held
    by_cases same : other = device
    · subst same
      have free : s.rows other = none := by
        by_contra taken
        simp [transact, taken] at ran
      obtain rfl : Entry.mk hash none false false false = entry := by simpa [commit, add] using held
      exact ⟨⟨hash, none, false⟩, by simp [transact, free], fun _ => rfl⟩
    · exact after other entry (by simpa [commit, add, same] using held)
  | rotate | revoke => exact mirrored.transacted (by simp)
  | promote =>
    simp only [commit]
    split
    next row entry there _ =>
      apply mirrored.promoted
      intro old next _ after _
      obtain rfl : row = next := by simpa [there] using after
      rfl
    next missing =>
      apply mirrored.promoted
      intro old next held after
      exact (missing next old after held).elim

theorem Mirrored.rejected (mirrored : Mirrored s.rows s.entries) (call : StoreCall) {rest : List StoreCall}
    (ran unknown : Bool) : Mirrored (if ran && unknown then (transact s.rows call).1 else s.rows)
      (reject { s with rows := if ran && unknown then (transact s.rows call).1 else s.rows, calls := rest } unknown call).entries := by
  cases call with
  | redeem | rotate | revoke =>
    cases ran && unknown with
    | true => exact mirrored.transacted (by simp)
    | false => exact mirrored
  | promote id device hash =>
    cases unknown with
    | false =>
      rw [Bool.and_false]
      exact mirrored.changed fun entry certain => by simpa using certain
    | true =>
      cases ran with
      | true => exact mirrored.promoted id device hash fun entry row _ _ certain => by simp at certain
      | false => exact mirrored.changed fun entry certain => by simp at certain

/-! What a step does to the rows, to the copy and to the queue. -/

theorem step_rows (event : Event) :
    (step secretHash s event).rows = ((runs s event).map fun call => (transact s.rows call).1).getD s.rows := by
  cases event with
  | answer =>
    cases head : s.calls with
    | nil => simp [step, answerCall, runs, head]
    | cons =>
      simp only [step, answerCall, runs, head, head?_cons, map_some, getD_some]
      split
      next => rw [commit_rows]
      next => rw [reject_rows]
  | lose ran unknown =>
    cases head : s.calls with
    | nil => cases ran <;> cases unknown <;> simp [step, loseCall, runs, head]
    | cons =>
      simp only [step, loseCall, head, reject_rows]
      cases ran <;> cases unknown <;> simp [runs, head]
  | _ =>
    simp only [step, arrive, promote, resume, settle, finish, disconnect, proceed]
    repeat' split
    all_goals rfl

theorem step_mirrored (mirrored : Mirrored s.rows s.entries) (event : Event) :
    Mirrored (step secretHash s event).rows (step secretHash s event).entries := by
  cases event with
  | answer =>
    simp only [step, answerCall]
    split
    next => exact mirrored
    rename_i call rest head
    cases ran : (transact s.rows call).2 with
    | true =>
      rw [if_pos rfl, commit_rows]
      exact mirrored.committed ran
    | false =>
      cases call with
      | promote => simp [transact] at ran
      | _ => exact mirrored.transacted (by simp)
  | lose ran unknown =>
    simp only [step, loseCall]
    split
    next => exact mirrored
    next call rest head =>
      rw [reject_rows]
      exact mirrored.rejected call ran unknown
  | promote | rotated | proceed =>
    simp only [step, promote, proceed]
    repeat' split
    all_goals first | exact mirrored | exact mirrored.changed fun entry certain => ⟨certain, rfl⟩
  | _ =>
    simp only [step, arrive, resume, settle, finish, disconnect]
    repeat' split
    all_goals exact mirrored

theorem commit_calls (call : StoreCall) : (commit s call).calls = s.calls := by
  cases call with
  | promote => simp only [commit]; split <;> rfl
  | _ => rfl

variable {event : Event}

theorem step_asks {id : Nat} {hash : String} (queued : .rotate id device hash ∈ (step secretHash s event).calls) :
    .rotate id device hash ∈ s.calls ∨
      event = .rotate id hash ∧ ∃ session, handling s id = some session ∧ session.device = some device := by
  cases event with
  | answer | lose =>
    left
    simp only [step, answerCall, loseCall] at queued
    split at queued
    next => exact queued
    rename_i call rest head
    rw [head]
    refine mem_cons_of_mem call ?_
    first
      | split at queued
        · rwa [commit_calls] at queued
        · cases call <;> exact queued
      | cases call <;> exact queued
  | rotate other token =>
    simp only [step] at queued
    split at queued
    next owner held =>
      obtain ⟨session, handled, owned⟩ := bind_eq_some_iff.mp held
      rcases mem_append.mp queued with old | new
      · exact .inl old
      · obtain ⟨rfl, rfl, rfl⟩ : id = other ∧ device = owner ∧ hash = token := by simpa using new
        exact .inr ⟨rfl, session, handled, owned⟩
    next => exact .inl queued
  | _ =>
    left
    simp only [step, arrive, promote, resume, settle, finish, disconnect, proceed] at queued
    repeat' split at queued
    all_goals first | exact queued | simpa using queued

theorem handling_eq {id : Nat} {session : Session} (handled : handling s id = some session) :
    s.sessions[id]? = some session ∧ ∃ rest, session.phase = .serving rest true := by
  obtain ⟨there, serving⟩ := filter_eq_some_iff.mp handled
  refine ⟨there, ?_⟩
  split at serving
  next rest phase => exact ⟨rest, phase⟩
  next => cases serving

theorem handling_of {id : Nat} {session : Session} {rest : List Item} (there : s.sessions[id]? = some session)
    (phase : session.phase = .serving rest true) : (handling s id).isSome := by
  simp [handling, there, phase]

theorem Move.handled (move : Move secretHash s t) {id : Nat} (handled : (handling t id).isSome) :
    (handling s id).isSome ∨ t.rows = s.rows ∧
      ∃ old device, s.sessions[id]? = some old ∧ Verified secretHash s old device := by
  obtain ⟨new, now⟩ := isSome_iff_exists.mp handled
  obtain ⟨after, rest, phase⟩ := handling_eq now
  have serving : new.serving = true := by simp [Session.serving, phase]
  cases before : s.sessions[id]? with
  | none => simp [(move.fresh before after).1] at serving
  | some old =>
    obtain ⟨_, here, change⟩ := move.session before
    obtain rfl : _ = new := by simpa [after] using here.symm
    cases change with
    | quiet still => exact .inl (handling_of before ((still.serving serving).symm.trans phase))
    | admitted device waiting verified =>
      rcases move.stores with rows | ⟨_, other, change, still, sessions⟩
      · exact .inr ⟨rows, old, device, rfl, verified⟩
      rw [sessions, State.session_at, before] at after
      split at after
      all_goals
        have quiet : Quiet old old.admitted := by
          obtain same := some.inj after
          first | exact same ▸ still old | exact same ▸ Quiet.refl old
        simp [Session.serving, ← quiet.serving serving, phase] at waiting
    | continued _ was => exact .inl (handling_of before was)
    | finished => cases phase
    | closed => exact .inl (handling_of before phase)

/-! Every run. -/

variable (secretHash s) in
/-- The copy is the store's, and whoever acts and rotates came with its device's current token. -/
structure Current (later : List Event) : Prop where
  mirrored : Mirrored s.rows s.entries
  acting : ∀ (id : Nat) session device secret, s.sessions[id]? = some session →
    session.credential = .device device secret → Acts s id device → Rotates s later id device →
    IsCurrent secretHash s device secret
  asked : ∀ id device hash, .rotate id device hash ∈ s.calls →
    ∃ session secret, s.sessions[id]? = some session ∧ session.credential = .device device secret

theorem IsCurrent.step {secret : String} (current : IsCurrent secretHash s device secret)
    (replaced : ∀ id hash row, runs s event = some (.promote id device hash) → s.rows device = some row →
      row.pendingTokenHash = some hash → row.revoked = false → secretHash secret = hash) :
    IsCurrent secretHash (step secretHash s event) device secret := by
  obtain ⟨row, there, token⟩ := current
  unfold IsCurrent
  rw [step_rows]
  cases ran : runs s event with
  | none => exact ⟨row, there, token⟩
  | some call =>
    obtain ⟨next, after, same | ⟨id, rfl, pending, usable⟩⟩ := transact_token call there
    · exact ⟨next, after, same.trans token⟩
    · exact ⟨next, after, (replaced id _ row ran there pending usable).symm⟩

theorem Verified.current (mirrored : Mirrored s.rows s.entries) {session : Session} {verdict : Option String} {secret : String} (verified : Verified secretHash s session verdict)
    (credential : session.credential = .device device secret) : IsCurrent secretHash s device secret := by
  cases verdict with
  | none => simp [Verified, credential] at verified
  | some =>
    simp only [Verified, credential, authenticate, verify] at verified
    cases held : s.entries device with
    | none => simp [held] at verified
    | some entry =>
      obtain ⟨row, there, agrees⟩ := mirrored device entry held
      refine ⟨row, there, ?_⟩
      grind

theorem Session.device_eq {session : Session} (owned : session.device = some device) :
    ∃ secret, session.credential = .device device secret := by
  unfold Session.device at owned
  split at owned
  next other secret credential => exact ⟨secret, by rw [credential, some.inj owned]⟩
  next => cases owned

section

variable {later : List Event}

theorem Rotates.of_step {id : Nat} (rotates : Rotates (step secretHash s event) later id device) :
    Rotates s (event :: later) id device := by
  obtain ⟨hash, asks | queued⟩ := rotates
  · exact ⟨hash, .inl (mem_cons_of_mem event asks)⟩
  · rcases step_asks queued with before | ⟨rfl, _⟩
    · exact ⟨hash, .inr before⟩
    · exact ⟨hash, .inl mem_cons_self⟩

theorem Rotates.of_runs {id : Nat} (rotates : Rotates s (event :: later) id device) {call : StoreCall}
    (ran : runs s event = some call) : Rotates s later id device := by
  obtain ⟨hash, asks | queued⟩ := rotates
  · rcases mem_cons.mp asks with rfl | asks
    · cases ran
    · exact ⟨hash, .inl asks⟩
  · exact ⟨hash, .inr queued⟩


theorem Current.session (current : Current secretHash s later) {id : Nat} (acts : Acts s id device) :
    ∃ old, s.sessions[id]? = some old := by
  rcases acts with handled | ⟨hash, queued⟩
  · obtain ⟨old, now⟩ := isSome_iff_exists.mp handled
    exact ⟨old, (handling_eq now).1⟩
  · obtain ⟨old, _, there, _⟩ := current.asked id device hash queued
    exact ⟨old, there⟩

theorem Current.keep (current : Current secretHash s (event :: later))
    (unused : ReplacesUnused secretHash s event later) : Current secretHash (step secretHash s event) later := by
  have move : Move secretHash s (step secretHash s event) := step_move event
  refine ⟨step_mirrored current.mirrored event, ?_, ?_⟩
  · intro id new device secret after credential acts rotates
    have acted (before : Acts s id device) : IsCurrent secretHash (step secretHash s event) device secret := by
      obtain ⟨old, there⟩ := current.session before
      obtain ⟨_, here, change⟩ := move.session there
      obtain rfl : _ = new := by simpa [after] using here.symm
      rw [change.credential] at credential
      apply (current.acting id old device secret there credential before rotates.of_step).step
      intro confirmed hash row ran held pending usable
      exact unused confirmed device hash row ran held pending usable id old secret there credential before
        (rotates.of_step.of_runs ran)
    rcases acts with handled | ⟨hash, queued⟩
    · rcases move.handled handled with before | ⟨rows, old, verdict, there, verified⟩
      · exact acted (.inl before)
      obtain ⟨_, here, change⟩ := move.session there
      obtain rfl : _ = new := by simpa [after] using here.symm
      rw [change.credential] at credential
      unfold IsCurrent
      rw [rows]
      exact verified.current current.mirrored credential
    · rcases step_asks queued with before | ⟨_, session, handled, _⟩
      · exact acted (.inr ⟨hash, before⟩)
      · exact acted (.inl (by simp [handled]))
  · intro id device hash queued
    obtain ⟨old, secret, there, credential⟩ : ∃ old secret, s.sessions[id]? = some old ∧
        old.credential = .device device secret := by
      rcases step_asks queued with before | ⟨_, session, handled, owned⟩
      · exact current.asked id device hash before
      · obtain ⟨secret, credential⟩ := Session.device_eq owned
        exact ⟨session, secret, (handling_eq handled).1, credential⟩
    obtain ⟨new, after, change⟩ := move.session there
    exact ⟨new, secret, after, change.credential.trans credential⟩

theorem Current.run (current : Current secretHash s later) (unused : PromotesUnused secretHash s later) :
    Current secretHash (run (step secretHash) s later) [] := by
  induction later generalizing s with
  | nil => exact current
  | cons event later ih => exact ih (current.keep unused.1) unused.2

theorem Current.rotates (current : Current secretHash s []) (event : Event) : RotatesCurrent secretHash s event := by
  intro id device hash ran _
  have queued : .rotate id device hash ∈ s.calls := by
    apply mem_of_mem_head?
    unfold runs at ran
    split at ran <;> simp_all
  obtain ⟨session, secret, there, credential⟩ := current.asked id device hash queued
  exact ⟨session, secret, there, credential,
    current.acting id session device secret there credential (.inr ⟨hash, queued⟩) ⟨hash, .inr queued⟩⟩

end

/-- Where no promotion replaces the token of a request that rotates afterwards, every rotation that is committed was asked
for with a current token. -/
theorem rotations_are_current (secretHash : String → String) (events : List Event)
    (unused : PromotesUnused secretHash State.empty events) (event : Event) :
    RotatesCurrent secretHash (run (step secretHash) State.empty events) event := by
  apply Current.rotates
  refine Current.run ?_ unused
  exact ⟨by simp [Mirrored, State.empty], by simp [State.empty], by simp [State.empty]⟩

/-- The first request is handled until the end. -/
def rotatedOnce : List Event :=
  [.redeem "d" "old", .answer,
    .connect .http (.device "d" "old") [.call], .arrive 0 true, .rotate 0 "new", .answer, .rotated "d" "new",
    .connect .http (.device "d" "new") [.call], .arrive 1 true, .promote 1]

theorem rotations_are_current_after_promotion :
    RotatesCurrent id (run (step id) State.empty (rotatedOnce ++ [.answer, .resume 1 true, .rotate 1 "newer"])) .answer := by
  apply rotations_are_current
  refine ⟨?_, ?_, ?_, ?_, ?_, ?_, ?_, ?_, ?_, ?_, ?_, ?_, ?_, trivial⟩
  all_goals
    intro confirmed device hash row ran
    try cases ran
  -- The promotion finds a request under the old token that does not rotate, and no rotation in the queue.
  rintro _ _ _ number session secret there _ acts ⟨later, asked | queued⟩
  · rcases asked with _ | ⟨_, _ | ⟨_, _ | _⟩⟩
    rcases acts with handled | ⟨hash, queued⟩
    · cases handled
    · rcases queued with _ | ⟨_, _ | _⟩
  · rcases queued with _ | ⟨_, _ | _⟩

/-- A request admitted with the old token rotates after the new one is current. -/
theorem replaced_token_rotates : ¬ RotatesCurrent id (run (step id) State.empty
      (rotatedOnce ++ [.connect .http (.device "d" "old") [.call], .arrive 2 true, .answer, .rotate 2 "newer"])) .answer := by
  intro holds
  obtain ⟨session, secret, there, credential, row, held, token⟩ :=
    holds 2 "d" "newer" (by decide +kernel) (by decide +kernel)
  have came := congrArg (Option.map Session.credential) there
  have now := congrArg (Option.map DeviceRow.tokenHash) held
  rw [map_some, credential] at came
  rw [map_some, token] at now
  have old : "old" = secret := by
    have : some (Credential.device "d" "old") = some (.device "d" secret) := Eq.trans (by decide +kernel) came
    simpa using this
  subst old
  exact absurd now (by decide +kernel)

end Cove.Auth.Connections
