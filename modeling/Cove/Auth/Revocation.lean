import Cove.Auth.Moves

/-!
No connection of a device survives its revocation, whatever the order of the steps.
-/

namespace Cove.Auth.Connections
open Auth.Devices Function List Option
open Base.Run State

variable {secretHash : String → String} {s t : State}

/-- The registered connections are those of the devices' admitted and open sessions, each registered once. -/
structure Registered (s : State) : Prop where
  admitted : ∀ device id, (device, id) ∈ s.connections →
    ∃ session, s.sessions[id]? = some session ∧ session.serving = true ∧ session.closed = false
  registered : ∀ (id : Nat) session device, s.sessions[id]? = some session → session.serving = true →
    session.closed = false → session.device = some device → (device, id) ∈ s.connections
  single : (s.connections.map Prod.snd).Nodup

theorem Verified.device {device : String} (verified : Verified secretHash s session (some device)) :
    session.device = some device := by
  simp only [Verified] at verified
  simp only [Session.device]
  cases credential : session.credential with
  | none | localOwner => simp [credential, authenticate] at verified
  | device =>
    simp only [credential, authenticate] at verified
    split at verified
    next =>
      obtain ⟨rfl, _⟩ := Authentication.device.inj verified
      rfl
    next => cases verified
    next => cases verified

theorem Session.device_congr {old new : Session} (same : new.credential = old.credential) : new.device = old.device := by
  simp only [Session.device, same]

theorem Change.credential {old new : Session} (change : Change secretHash s old new) :
    new.credential = old.credential := by
  cases change with
  | quiet still => exact still.credential
  | admitted => exact old.admitted_kept.1
  | continued rest => exact (dispatchNext_kept rest old).1
  | finished | closed => rfl

theorem Registered.move (registered : Registered s) (move : Move secretHash s t) : Registered t := by
  cases move.registers with
  | same connections served begun =>
    refine ⟨?_, ?_, by rw [connections]; exact registered.single⟩
    · intro device id member
      rw [connections] at member
      obtain ⟨old, before, serving, opened⟩ := registered.admitted device id member
      obtain ⟨new, after, _⟩ := move.session before
      have kept := served id old new before serving after
      exact ⟨new, after, kept.1, kept.2.trans opened⟩
    · intro id new device after serving opened owned
      rcases begun id new after serving with ⟨old, before, was⟩ | nobody
      · obtain ⟨_, here, change⟩ := move.session before
        obtain rfl : new = _ := by simpa [after] using here
        have kept := served id old new before was after
        rw [connections]
        exact registered.registered id old device before was (kept.2.symm.trans opened)
          ((Session.device_congr change.credential).symm.trans owned)
      · cases nobody.symm.trans owned
  | dropped gone connections others left =>
    refine ⟨?_, ?_, ?_⟩
    · intro device id member
      simp only [connections, List.mem_filter, decide_eq_true_eq] at member
      rw [others id member.2]
      exact registered.admitted device id member.1
    · intro id session device after serving opened owned
      have apart : id ≠ gone := by
        rintro rfl
        cases opened.symm.trans (left session after serving)
      rw [others id apart] at after
      rw [connections]
      exact mem_filter.mpr ⟨registered.registered id session device after serving opened owned, by simpa using apart⟩
    · rw [connections]
      exact registered.single.sublist (filter_sublist.map Prod.snd)
  | added _ id session connections others before waiting opened verified after =>
    have apart : ∀ other holder, (holder, other) ∈ s.connections → other ≠ id := by
      rintro other holder member rfl
      obtain ⟨held, here, serving, _⟩ := registered.admitted holder other member
      obtain rfl : session = held := by simpa [before] using here
      simp [waiting] at serving
    have kept := session.admitted_kept
    refine ⟨?_, ?_, ?_⟩
    · intro holder other member
      rw [connections] at member
      rcases mem_snoc member with old | ⟨rfl, rfl⟩
      · rw [others other (apart other holder old)]
        exact registered.admitted holder other old
      · exact ⟨_, after, kept.2.2.2.2, kept.2.2.1.trans opened⟩
    · intro other new device there serving opened owned
      rw [connections]
      by_cases here : other = id
      · subst here
        obtain rfl : session.admitted = new := by simpa [after] using there
        have own := (Session.device_congr kept.1).symm.trans owned
        rw [verified.device] at own
        exact mem_append_right _ (by simpa using own.symm)
      · rw [others other here] at there
        exact mem_append_left _ (registered.registered other new device there serving opened owned)
    · rw [connections, map_append, nodup_append]
      refine ⟨registered.single, nodup_singleton _, ?_⟩
      intro other member new here
      obtain ⟨⟨holder, _⟩, inside, rfl⟩ := List.mem_map.mp member
      obtain rfl : new = id := by simpa using here
      exact apart _ holder inside

/-! The store. -/

theorem transact_token {rows : Rows} (call : StoreCall) {device : String} {row : DeviceRow} (there : rows device = some row) :
    ∃ next, (transact rows call).1 device = some next ∧ (next.tokenHash = row.tokenHash ∨
      ∃ id, call = .promote id device next.tokenHash ∧ row.pendingTokenHash = some next.tokenHash ∧ row.revoked = false) := by
  cases call with
  | redeem other =>
    refine ⟨row, ?_, .inl rfl⟩
    simp only [transact]
    split
    next free =>
      have apart : device ≠ other := by
        rintro rfl
        simp [there] at free
      simpa [apart] using there
    next => exact there
  | rotate _ other hash | revoke _ other =>
    simp only [transact]
    by_cases same : device = other
    · subst same
      simp only [there]
      try split
      all_goals simp [there]
    · cases rows other <;> simp [there, same] <;> split <;> simp [there, same]
  | promote id other =>
    by_cases same : device = other
    · subst same
      simp only [transact, Function.update_self, there, map_some, promoteRow]
      split
      next pending => exact ⟨_, rfl, .inr ⟨id, rfl, pending⟩⟩
      next => exact ⟨row, rfl, .inl rfl⟩
    · exact ⟨row, by simp [transact, same, there], .inl rfl⟩

theorem commit_rows (s : State) (call : StoreCall) : (commit s call).rows = s.rows := by
  cases call with
  | promote =>
    simp only [commit]
    split <;> rfl
  | _ => rfl

theorem reject_rows (s : State) (unknown : Bool) (call : StoreCall) : (reject s unknown call).rows = s.rows := by
  cases call <;> rfl

theorem reject_revocations (s : State) (unknown : Bool) (call : StoreCall) :
    (reject s unknown call).revocations = s.revocations := by
  cases call <;> rfl

theorem commit_revocations (s : State) (call : StoreCall) : (commit s call).revocations = s.revocations ∨
      ∃ self device, call = .revoke self device ∧
        (commit s call).revocations = s.revocations ++ [⟨device, self, .committed⟩] := by
  cases call with
  | promote =>
    simp only [commit]
    split <;> exact .inl rfl
  | redeem | rotate => exact .inl rfl
  | revoke self device => exact .inr ⟨self, device, rfl, rfl⟩

theorem State.revocation_at (s : State) (index : Nat) (change : Revocation → Revocation) (other : Nat) :
    (s.setRevocation index change).revocations[other]? =
      if index = other then s.revocations[other]?.map change else s.revocations[other]? := by
  simp only [setRevocation, getElem?_modify]
  split <;> simp

variable {index : Nat} {revocation : Revocation}

theorem proceed_revocation (there : s.revocations[index]? = some revocation)
    (phase : revocation.phase = .committed) (other : Nat) : (proceed s index).revocations[other]? =
      if index = other then
        some { revocation with phase := .waiting (targetsOf s revocation) (targetsOf s revocation).length }
      else s.revocations[other]? := by
  simp only [proceed, there, phase, if_true, revocation_at]
  split
  next same =>
    subst same
    rw [there, map_some]
  next => rfl

def Stored (s : State) : Prop :=
  ∀ (index : Nat) (revocation : Revocation), s.revocations[index]? = some revocation →
    (s.rows revocation.deviceId).isSome

theorem Move.stores (move : Move secretHash s t) :
    t.rows = s.rows ∨ (∃ call, t.rows = (transact s.rows call).1) ∧ ∃ id change, (∀ session, Quiet session (change session)) ∧
      t.sessions = (s.setSession id change).sessions := by
  cases move with
  | committed call => exact .inr ⟨⟨call, commit_rows _ call⟩, (commit_quiet _ call).2⟩
  | rejected call _ unknown _ _ kept =>
    rw [reject_rows]
    exact kept.imp id fun ran => ⟨⟨call, ran⟩, (reject_quiet _ unknown call).2⟩
  | admitted _ _ device => cases device <;> exact .inl rfl
  | disconnected _ _ there opened => exact .inl (by simp [disconnect, there, opened, forget, setSession])
  | proceeded _ _ there phase => exact .inl (by simp [proceed, there, phase, setRevocation])
  | _ => exact .inl rfl

theorem Move.row (move : Move secretHash s t) {device : String} (there : (s.rows device).isSome) :
    (t.rows device).isSome := by
  rcases move.stores with same | ⟨⟨call, same⟩, _⟩
  · rwa [same]
  obtain ⟨row, here⟩ := isSome_iff_exists.mp there
  obtain ⟨next, after, _⟩ := transact_token call here
  rw [same, after, isSome_some]

theorem Stored.move (stored : Stored s) (move : Move secretHash s t) : Stored t := by
  intro index after there
  -- Its device is that of the same revocation before, unless its write was just committed.
  have before (old : Revocation) (here : s.revocations[index]? = some old) (same : old.deviceId = after.deviceId) :
      (t.rows after.deviceId).isSome := by
    rw [← same]
    exact move.row (stored index old here)
  cases move with
  | admitted _ _ device => cases device <;> exact before after there rfl
  | disconnected _ _ here opened =>
    simp only [disconnect, here, opened, Bool.false_eq_true, if_false, getElem?_map,
      map_eq_some_iff] at there
    obtain ⟨old, found, rfl⟩ := there
    apply before old found
    split
    next => split <;> rfl
    next => rfl
  | committed call rest _ ran =>
    rcases commit_revocations { s with rows := (transact s.rows call).1, calls := rest } call with
      same | ⟨self, device, rfl, added⟩
    · rw [same] at there
      exact before after there rfl
    · rw [added] at there
      rcases getElem?_snoc there with ⟨_, old⟩ | ⟨_, rfl⟩
      · exact before after old rfl
      simp only [transact] at ran
      split at ran
      next row found => simp [commit, transact, found]
      next => cases ran
  | rejected =>
    rw [reject_revocations] at there
    exact before after there rfl
  | proceeded _ revocation here phase =>
    rw [proceed_revocation here phase] at there
    split at there
    next same =>
      subst same
      obtain rfl := some.inj there
      exact before revocation here rfl
    next => exact before after there rfl
  | waited =>
    simp only [endWait, revocation_at] at there
    split at there
    next =>
      obtain ⟨old, found, rfl⟩ := map_eq_some_iff.mp there
      apply before old found
      split <;> rfl
    next => exact before after there rfl
  | _ => exact before after there rfl

/-! The connections a revocation waits for. -/

/-- Every wait counts the connections it told to close that are still open. -/
def Counted (s : State) : Prop :=
  ∀ (index : Nat) (revocation : Revocation) (targets : List Nat) (count : Nat),
    s.revocations[index]? = some revocation → revocation.phase = .waiting targets count →
      targets.Nodup ∧ (∀ id ∈ targets, id < s.sessions.length) ∧ count = s.openCount targets

def KeepsWaits (s t : State) : Prop :=
  ∀ (index : Nat) (after : Revocation) (targets : List Nat) (count : Nat),
    t.revocations[index]? = some after → after.phase = .waiting targets count →
      ∃ before : Revocation, s.revocations[index]? = some before ∧ before.phase = .waiting targets count

theorem KeepsWaits.same (same : t.revocations = s.revocations) : KeepsWaits s t :=
  fun _ after _ _ there phase => ⟨after, same ▸ there, phase⟩

theorem Counted.later (counted : Counted s) (length : s.sessions.length ≤ t.sessions.length)
    (opened : ∀ id < s.sessions.length, t.isOpen id = s.isOpen id) (waits : KeepsWaits s t) : Counted t := by
  intro index after targets count there phase
  obtain ⟨before, here, waiting⟩ := waits index after targets count there phase
  obtain ⟨nodup, bound, exactly⟩ := counted index before targets count here waiting
  refine ⟨nodup, fun id member => (bound id member).trans_le length, ?_⟩
  rw [exactly, openCount_congr fun id member => opened id (bound id member)]

theorem waits_setRevocation {change : Revocation → Revocation}
    (starts : ∀ revocation targets count, (change revocation).phase = .waiting targets count →
      revocation.phase = .waiting targets count) : KeepsWaits s (s.setRevocation index change) := by
  intro other after targets count there phase
  rw [revocation_at] at there
  split at there
  next =>
    obtain ⟨before, here, rfl⟩ := map_eq_some_iff.mp there
    exact ⟨before, here, starts before targets count phase⟩
  next => exact ⟨after, there, phase⟩

theorem Counted.quiet {id : Nat} {change : Session → Session} (counted : Counted s)
    (sessions : t.sessions = (s.setSession id change).sessions)
    (closed : ∀ session, s.sessions[id]? = some session → (change session).closed = session.closed)
    (waits : KeepsWaits s t) : Counted t := by
  apply counted.later (by simp [sessions, setSession]) _ waits
  intro other _
  have same := isOpen_setSession closed other
  simpa only [isOpen, sessions] using same

variable {session : Session}

theorem openCount_disconnect {id : Nat} (there : s.sessions[id]? = some session)
    (opened : session.closed = false) {targets : List Nat} (nodup : targets.Nodup) :
    (disconnect s id).openCount targets = s.openCount targets - if id ∈ targets then 1 else 0 := by
  have isOpen : s.isOpen id = true := by simp [isOpen, there, opened]
  have after : (disconnect s id).isOpen = fun other => s.isOpen other && (other != id) := by
    funext other
    simp only [State.isOpen, (disconnect_eq there opened).1, State.session_at]
    by_cases same : id = other
    · subst same
      simp [there]
    · simp [same, Ne.symm same]
  calc (disconnect s id).openCount targets
      = targets.countP (fun other => s.isOpen other && (other != id)) := by rw [openCount, after]
    _ = (targets.erase id).countP s.isOpen := by rw [nodup.erase_eq_filter, countP_filter]
    _ = s.openCount targets - if id ∈ targets then 1 else 0 := by
      simp [List.countP_erase, isOpen, openCount]

theorem Counted.disconnect {id : Nat} (counted : Counted s)
    (there : s.sessions[id]? = some session) (opened : session.closed = false) : Counted (disconnect s id) := by
  intro index after targets count here phase
  have length : (Connections.disconnect s id).sessions.length = s.sessions.length := by
    rw [(disconnect_eq there opened).1]
    simp [setSession]
  simp only [Connections.disconnect, there, opened, Bool.false_eq_true, if_false, getElem?_map,
    map_eq_some_iff] at here
  obtain ⟨before, found, rfl⟩ := here
  split at phase
  next held number waiting =>
    obtain ⟨nodup, bound, exactly⟩ := counted index before held number found waiting
    have left := openCount_disconnect there opened nodup
    split at phase
    next member =>
      obtain ⟨rfl, rfl⟩ := by simpa using phase
      rw [if_pos member] at left
      exact ⟨nodup, by rwa [length], by rw [exactly, left]⟩
    next other =>
      obtain ⟨rfl, rfl⟩ := by simpa [waiting] using phase
      rw [if_neg other] at left
      exact ⟨nodup, by rwa [length], by rw [exactly, left, Nat.sub_zero]⟩
  next idle => exact (idle targets count phase).elim

theorem waits_commit (s : State) (call : StoreCall) : KeepsWaits s (commit s call) := by
  intro index after targets count there phase
  rcases commit_revocations s call with same | ⟨self, device, rfl, added⟩
  · exact KeepsWaits.same same index after targets count there phase
  rw [added] at there
  rcases getElem?_snoc there with ⟨_, old⟩ | ⟨_, rfl⟩
  · exact ⟨after, old, phase⟩
  · cases phase

theorem mem_targetsOf {id : Nat} :
    id ∈ targetsOf s revocation ↔ (revocation.deviceId, id) ∈ s.connections ∧ revocation.self ≠ some id := by
  simp only [targetsOf, List.mem_map, List.mem_filter, decide_eq_true_eq, Prod.exists, exists_eq_right]
  constructor
  · rintro ⟨device, member, rfl, apart⟩
    exact ⟨member, apart.symm⟩
  · rintro ⟨member, apart⟩
    exact ⟨_, member, rfl, apart.symm⟩

theorem Counted.proceed (counted : Counted s) (registered : Registered s)
    (there : s.revocations[index]? = some revocation) (phase : revocation.phase = .committed) :
    Counted (proceed s index) := by
  have isOpen : ∀ id, (Connections.proceed s index).isOpen id = s.isOpen id := by
    intro id
    simp only [isOpen, proceed_session there phase]
    cases s.sessions[id]? with
    | none => rfl
    | some =>
      split <;> rfl
  have length : (Connections.proceed s index).sessions.length = s.sessions.length := by
    simp [Connections.proceed, there, phase, setRevocation]
  have held : ∀ id ∈ targetsOf s revocation,
      ∃ session, s.sessions[id]? = some session ∧ session.serving = true ∧ session.closed = false :=
    fun id member => registered.admitted _ id (mem_targetsOf.mp member).1
  intro other after targets count here waiting
  simp only [length, openCount_congr fun id _ => isOpen id]
  rw [proceed_revocation there phase] at here
  split at here
  next same =>
    obtain rfl := some.inj here
    obtain ⟨rfl, rfl⟩ := by simpa using waiting
    refine ⟨?_, ?_, ?_⟩
    · exact registered.single.sublist (filter_sublist.map Prod.snd)
    · intro id member
      obtain ⟨session, found, _⟩ := held id member
      exact (List.getElem?_eq_some_iff.mp found).1
    · symm
      apply countP_eq_length.mpr
      intro id member
      obtain ⟨session, found, _, opened⟩ := held id member
      simp [State.isOpen, found, opened]
  next => exact counted other after targets count here waiting

theorem Counted.move (counted : Counted s) (registered : Registered s) (move : Move secretHash s t) : Counted t := by
  cases move with
  | same | asked => exact counted
  | connected =>
    apply counted.later (by simp)
    · intro id bound
      simp [isOpen, getElem?_append_left bound]
    · exact .same rfl
  | quiet _ _ still =>
    exact counted.quiet rfl (fun session there => (still session there).closed) (.same rfl)
  | admitted id session device =>
    apply counted.quiet (accept_sessions s id device) (fun session _ => session.admitted_kept.2.2.1) (.same ?_)
    cases device <;> rfl
  | continued _ session rest =>
    exact counted.quiet rfl (fun session _ => (dispatchNext_kept rest session).2.2.1) (.same rfl)
  | finished =>
    exact counted.quiet rfl (fun session _ => rfl) (.same rfl)
  | disconnected _ _ there opened => exact counted.disconnect there opened
  | committed call rest =>
    obtain ⟨_, other, change, still, sessions⟩ := commit_quiet { s with rows := (transact s.rows call).1, calls := rest } call
    exact counted.quiet sessions (fun session _ => (still session).closed) (waits_commit _ call)
  | rejected call rest unknown rows =>
    obtain ⟨_, other, change, still, sessions⟩ := reject_quiet { s with rows, calls := rest } unknown call
    exact counted.quiet sessions (fun session _ => (still session).closed) (.same (reject_revocations _ unknown call))
  | proceeded _ _ there phase => exact counted.proceed registered there phase
  | waited =>
    refine counted.later le_rfl (fun _ _ => rfl) (waits_setRevocation ?_)
    intro revocation targets count phase
    split at phase
    next => cases phase
    next => exact phase

/-! After the step of a revocation. -/

theorem Verified.not_refused {device : Option String} {deviceId : String}
    (verified : Verified secretHash s session device) (presented : session.device = some deviceId)
    (refused : Refused s.entries deviceId) : False := by
  simp only [Session.device] at presented
  cases credential : session.credential with
  | none | localOwner => simp [credential] at presented
  | device holder secret =>
    obtain rfl : holder = deviceId := by simpa [credential] using presented
    cases device with
    | none => simp [Verified, credential] at verified
    | some =>
      simp only [Verified, credential, authenticate] at verified
      split at verified
      next confirm usable => exact verify_revoked secretHash refused secret confirm usable
      next => cases verified
      next => cases verified

/-- A refused device stays refused: only a device the store did not know is added. -/
theorem Move.refused (move : Move secretHash s t) {device : String} (there : (s.rows device).isSome)
    (refused : Refused s.entries device) : Refused t.entries device := by
  cases move with
  | admitted _ _ device => cases device <;> exact refused
  | disconnected _ _ here opened =>
    simp only [disconnect, here, opened]
    exact refused
  | asked _ _ _ keeps => exact keeps device refused
  | committed call _ _ ran =>
    cases call with
    | redeem other =>
      have apart : device ≠ other := by
        rintro rfl
        simp only [transact] at ran
        split at ran
        next unknown => simp [unknown] at there
        next => cases ran
      intro entry held
      simp only [commit, add, update_of_ne apart] at held
      exact refused entry held
    | promote =>
      simp only [commit]
      split
      next => exact refused.change fun entry gone => by simp [adopt, gone]
      next => exact refused.change fun entry gone => gone
    | rotate | revoke => exact refused
  | rejected call =>
    cases call with
    | promote => exact refused.change fun entry gone => gone
    | _ => exact refused
  | proceeded _ _ here phase =>
    simp only [proceed, here, phase]
    exact refused.change fun entry gone => rfl
  | _ => exact refused

theorem Move.told (move : Move secretHash s t) {id : Nat} (told : s.isTold id = true) : t.isTold id = true := by
  simp only [isTold, Option.any_eq_true] at told ⊢
  obtain ⟨old, there, already⟩ := told
  obtain ⟨new, here, change⟩ := move.session there
  refine ⟨new, here, ?_⟩
  cases change with
  | quiet still => exact still.told already
  | admitted => exact old.admitted_kept.2.2.2.1.trans already
  | continued rest => exact (dispatchNext_kept rest old).2.2.2.1.trans already
  | finished => simp [already]
  | closed => exact already

/-- The states after the step in which a revocation marked the device: `first` is the state of that step. -/
structure Revoked (device : String) (first s : State) (targets : List Nat) : Prop where
  row : (s.rows device).isSome
  refused : Refused s.entries device
  within : ∀ id, (device, id) ∈ s.connections → (device, id) ∈ first.connections
  told : ∀ id ∈ targets, s.isTold id = true
  served : ∀ (id : Nat) (session : Session), s.sessions[id]? = some session → session.device = some device →
    session.serving = true → first.isServing id = true

variable {device : String} {first : State} {targets : List Nat}

theorem Revoked.move (revoked : Revoked device first s targets) (move : Move secretHash s t) :
    Revoked device first t targets := by
  refine ⟨move.row revoked.row, move.refused revoked.row revoked.refused, ?_,
    fun id member => move.told (revoked.told id member), ?_⟩
  · intro id member
    cases move.registers with
    | same connections => exact revoked.within id (connections ▸ member)
    | dropped _ connections =>
      rw [connections] at member
      exact revoked.within id (mem_of_mem_filter member)
    | added _ _ _ connections _ _ _ _ verified =>
      rw [connections] at member
      rcases mem_snoc member with old | ⟨rfl, rfl⟩
      · exact revoked.within id old
      · exact (verified.not_refused verified.device revoked.refused).elim
  · intro id new there presented serving
    cases here : s.sessions[id]? with
    | none => simp [(move.fresh here there).1] at serving
    | some old =>
      obtain ⟨_, found, change⟩ := move.session here
      obtain rfl : new = _ := by simpa [there] using found
      cases change with
      | quiet still =>
        have phase := still.serving serving
        apply revoked.served id old here ((Session.device_congr still.credential).symm.trans presented)
        simpa [Session.serving, phase] using serving
      | admitted _ _ verified =>
        have same := (Session.device_congr old.admitted_kept.1).symm.trans presented
        exact (verified.not_refused same revoked.refused).elim
      | continued rest phase =>
        apply revoked.served id old here ((Session.device_congr (dispatchNext_kept rest old).1).symm.trans presented)
        simp [Session.serving, phase]
      | finished => cases serving
      | closed => exact revoked.served id old here presented serving

structure Consistent (s : State) : Prop where
  registered : Registered s
  stored : Stored s
  counted : Counted s

theorem Consistent.empty : Consistent empty := by
  refine ⟨⟨?_, ?_, nodup_nil⟩, ?_, ?_⟩
  · intro device id member
    cases member
  · intro id session device there
    cases there
  · intro index revocation there
    cases there
  · intro index revocation targets count there
    cases there

theorem Consistent.step (consistent : Consistent s) (event : Event) : Consistent (step secretHash s event) :=
  have move := step_move event
  ⟨consistent.registered.move move, consistent.stored.move move,
    consistent.counted.move consistent.registered move⟩

theorem consistent_run (events : List Event) : Consistent (run (step secretHash) empty events) :=
  run_invariant Consistent Consistent.empty (fun _ event consistent => consistent.step event) events

theorem Revoked.proceed (consistent : Consistent s)
    (there : s.revocations[index]? = some revocation) (phase : revocation.phase = .committed) :
    Revoked revocation.deviceId s (proceed s index) (targetsOf s revocation) := by
  refine ⟨?_, ?_, ?_, ?_, ?_⟩
  · simp only [Connections.proceed, there, phase]
    exact consistent.stored index revocation there
  · simp only [Connections.proceed, there, phase]
    exact refused_markRevoked s.entries revocation.deviceId
  · intro id member
    rwa [proceed_connections] at member
  · intro id member
    obtain ⟨session, here, _⟩ := consistent.registered.admitted _ id (mem_targetsOf.mp member).1
    simp [isTold, proceed_session there phase, here, member]
  · intro id session here presented serving
    rw [proceed_session there phase] at here
    obtain ⟨old, before, rfl⟩ := map_eq_some_iff.mp here
    have served : old.serving = true := by
      split at serving <;> exact serving
    simp [isServing, before, served]

/-! The wait of a revocation. -/

theorem step_waits {event : Event}
    (there : s.revocations[index]? = some revocation) (passed : revocation.phase ≠ .committed)
    (other : event ≠ .endWait index) :
    ∃ after : Revocation, (step secretHash s event).revocations[index]? = some after ∧
      (after = revocation ∨ ∃ targets count now, revocation.phase = .waiting targets count ∧
        after = { revocation with phase := .waiting targets now }) := by
  cases event with
  | disconnect =>
    simp only [step, disconnect]
    split
    next session here =>
      split
      next => exact ⟨revocation, there, .inl rfl⟩
      refine ⟨_, by rw [getElem?_map, there, map_some], ?_⟩
      split
      next targets count phase =>
        split
        next => exact .inr ⟨targets, count, count - 1, phase, rfl⟩
        next => exact .inl rfl
      next => exact .inl rfl
    next => exact ⟨revocation, there, .inl rfl⟩
  | answer =>
    refine ⟨revocation, ?_, .inl rfl⟩
    simp only [step, answerCall]
    cases head : s.calls with
    | nil => exact there
    | cons call rest =>
      dsimp only
      split
      next =>
        rcases commit_revocations { s with rows := (transact s.rows call).1, calls := rest } call with
          same | ⟨self, device, rfl, added⟩
        · rw [same, there]
        · rw [added, getElem?_append_left (List.getElem?_eq_some_iff.mp there).1, there]
      next => rw [reject_revocations, there]
  | lose =>
    refine ⟨revocation, ?_, .inl rfl⟩
    simp only [step, loseCall]
    cases head : s.calls with
    | nil => exact there
    | cons => rw [reject_revocations, there]
  | proceed number =>
    refine ⟨revocation, ?_, .inl rfl⟩
    simp only [step, proceed]
    split
    next found here =>
      split
      next phase =>
        have apart : number ≠ index := by
          rintro rfl
          obtain rfl : revocation = found := by simpa [there] using here
          exact passed phase
        rw [revocation_at, if_neg apart]
        exact there
      next => exact there
    next => exact there
  | endWait number =>
    have apart : number ≠ index := by
      rintro rfl
      exact other rfl
    refine ⟨revocation, ?_, .inl rfl⟩
    simp only [step, endWait]
    rw [revocation_at, if_neg apart, there]
  | _ =>
    refine ⟨revocation, ?_, .inl rfl⟩
    simp only [step, arrive, promote, resume, settle, finish]
    repeat' split
    all_goals exact there

/-- The revocation waits for its connections, or its wait ended when so many of them were open. -/
def Waits (secretHash : String → String) (start : State) (index : Nat) (targets : List Nat) (past : List Event)
    (s : State) : Prop :=
  ∃ revocation : Revocation, s.revocations[index]? = some revocation ∧
    (revocation.phase = .waiting targets (s.openCount targets) ∨
      ∃ during later, past = during ++ .endWait index :: later ∧
        revocation.phase = .answered targets ((run (step secretHash) start during).openCount targets))

theorem Waits.step {start : State} {past : List Event} (consistent : Consistent s)
    (reached : s = run (step secretHash) start past) (waits : Waits secretHash start index targets past s) (event : Event) :
    Waits secretHash start index targets (past ++ [event]) (step secretHash s event) := by
  obtain ⟨revocation, there, phase⟩ := waits
  have passed : revocation.phase ≠ .committed := by
    rcases phase with waiting | ⟨_, _, _, answered⟩
    · simp [waiting]
    · simp [answered]
  by_cases ends : event = .endWait index
  · subst ends
    simp only [Connections.step, endWait]
    refine ⟨_, by rw [revocation_at, if_pos rfl, there, map_some], .inr ?_⟩
    rcases phase with waiting | ⟨during, later, split, answered⟩
    · exact ⟨past, [], rfl, by simp [waiting, reached]⟩
    · exact ⟨during, later ++ [.endWait index], by simp [split], by simp [answered]⟩
  · obtain ⟨after, here, either⟩ := step_waits there passed ends
    refine ⟨after, here, ?_⟩
    rcases phase with waiting | ⟨during, later, split, answered⟩
    · have still : ∃ now, after.phase = .waiting targets now := by
        rcases either with rfl | ⟨held, count, now, was, rfl⟩
        · exact ⟨_, waiting⟩
        · obtain ⟨rfl, _⟩ := by simpa [waiting] using was
          exact ⟨now, rfl⟩
      obtain ⟨now, counts⟩ := still
      have exactly := ((consistent.step event).counted index after targets now here counts).2.2
      exact .inl (by rw [counts, exactly])
    · rcases either with rfl | ⟨held, count, now, was, rfl⟩
      · exact .inr ⟨during, later ++ [event], by simp [split], answered⟩
      · simp [answered] at was

def revokingRun : List Event :=
  [.redeem "phone" "secret", .answer, .connect .http .localOwner [.call], .arrive 0 true,
    .connect .terminal (.device "phone" "secret") [], .arrive 1 true,
    .connect .http (.device "phone" "secret") [.call], .arrive 2 true, .revoke 0 "phone", .answer]

end Cove.Auth.Connections
