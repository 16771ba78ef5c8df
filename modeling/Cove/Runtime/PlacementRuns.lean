import Cove.Runtime.PlacementAgreement

/-!
Runs of the placement model. Whoever still has something to do with a run, its launch or its spawn, finds its entry in
the registry, and no two of them share a run.
-/

namespace Cove.Runtime.Placement
open Base Base.Run Base.Journal Protocol.Identity Protocol.Pipe Protocol.Terminal List Option LocalRuntime Registry
open Keyed Books

/-! ### Launches and spawns -/

/-- The session holds the spawn, or its answer still has to be handled and says something. -/
def Spawn.active (spawn : Spawn) : Bool := spawn.held || spawn.answer.any (· ≠ resultUnknown)

/-- The reply to this spawn was handled, or there is none to come. -/
def Spawn.settled (spawn : Spawn) : Bool := !spawn.held && !spawn.refusalRead

structure Spawn.Sound (spawn : Spawn) : Prop where
  unsent : spawn.sent = false → spawn.answer = none ∨ spawn.answer = some busy ∨ spawn.answer = some unavailable
  answered : ∀ answer, spawn.answer = some answer → answer ≠ resultUnknown → spawn.held = false
  named : ∀ outcome status, spawn.answer = some (.result outcome (some status)) → status.run = spawn.run

/-- A spawn moves on, and not back. One that is not held waits for nothing new. -/
structure Spawn.Follows (old new : Spawn) : Prop where
  run : new.run = old.run
  worker : new.worker = old.worker
  sent : new.sent = old.sent
  active : new.active = true → old.active = true
  held : new.held = true → old.held = true
  sound : new.Sound
  loose : old.held = true ∨ new.settled = true

theorem Spawn.active_of_held {spawn : Spawn} (held : spawn.held = true) : spawn.active = true := by
  simp [Spawn.active, held]

variable {answer : RuntimeResult}

theorem Spawn.active_of_answer {spawn : Spawn} (got : spawn.answer = some answer)
    (meaning : answer ≠ resultUnknown) : spawn.active = true := by
  simp [Spawn.active, got, meaning]

theorem ne_unknown_of_refused (refused : refusedSpawn answer = true) : answer ≠ resultUnknown := by
  rintro rfl
  exact absurd refused (by decide)

structure Held (registry : Registry) (workers : List WorkerEntry) (launching : List (RunRef × WorkerRef))
    (spawns : List Spawn) : Prop where
  launches : ∀ launch ∈ launching, ∃ entry ∈ registry, entry.run = launch.1 ∧ entry.worker = launch.2 ∧
    entry.dispatched = false
  once : (launching.map Prod.fst).Nodup
  spawned : ∀ (i : Nat) spawn, spawns[i]? = some spawn → spawn.active = true → ∃ entry ∈ registry,
    entry.run = spawn.run ∧ entry.worker = spawn.worker ∧ (spawn.sent = false → entry.dispatched = false)
  apart : ∀ (i : Nat) spawn, spawns[i]? = some spawn → spawn.active = true → ∀ launch ∈ launching,
    launch.1 ≠ spawn.run
  distinct : ∀ (i j : Nat) spawn other, spawns[i]? = some spawn → spawns[j]? = some other → spawn.active = true →
    other.active = true → spawn.run = other.run → i = j
  ready : ∀ (i : Nat) spawn, spawns[i]? = some spawn → spawn.held = true → ∀ host ∈ workers,
    host.worker = spawn.worker → host.session = .ready
  sound : ∀ (i : Nat) spawn, spawns[i]? = some spawn → spawn.Sound

variable {i : Nat}

namespace Held

variable {registry registry' : Registry} {workers workers' : List WorkerEntry}
  {launching launching' : List (RunRef × WorkerRef)} {spawns spawns' : List Spawn} {entry : Entry}

theorem empty (workers : List WorkerEntry) : Held [] workers [] [] where
  launches := by simp
  once := nodup_nil
  spawned := by simp
  apart := by simp
  distinct := by simp
  ready := by simp
  sound := by simp

theorem of_set {j : Nat} {new spawn : Spawn} (place : (spawns.set i new)[j]? = some spawn) :
    j = i ∧ spawn = new ∨ j ≠ i ∧ spawns[j]? = some spawn := by
  rw [getElem?_set] at place
  split at place
  next same =>
    split at place
    · exact .inl ⟨same.symm, (some.inj place).symm⟩
    · cases place
  next different => exact .inr ⟨fun same => different same.symm, place⟩

variable (held : Held registry workers launching spawns)
include held

theorem follow (launches : ∀ entry ∈ registry, entry.dispatched = false → (∃ launch ∈ launching, launch.1 = entry.run) →
      ∃ new ∈ registry', new.run = entry.run ∧ new.worker = entry.worker ∧ new.dispatched = false)
    (spawned : ∀ entry ∈ registry, ∀ (i : Nat) spawn, spawns[i]? = some spawn → spawn.active = true → spawn.run = entry.run →
      ∃ new ∈ registry', new.run = entry.run ∧ new.worker = entry.worker ∧
        (spawn.sent = false → new.dispatched = entry.dispatched)) : Held registry' workers launching spawns := by
  refine { held with launches := ?_, spawned := ?_ }
  · intro launch member
    obtain ⟨entry, inside, sameRun, sameWorker, unsent⟩ := held.launches launch member
    obtain ⟨new, newInside, newRun, newWorker, newUnsent⟩ := launches entry inside unsent ⟨launch, member, sameRun.symm⟩
    exact ⟨new, newInside, newRun.trans sameRun, newWorker.trans sameWorker, newUnsent⟩
  · intro i spawn place active
    obtain ⟨entry, inside, sameRun, sameWorker, unsent⟩ := held.spawned i spawn place active
    obtain ⟨new, newInside, newRun, newWorker, same⟩ := spawned entry inside i spawn place active sameRun.symm
    exact ⟨new, newInside, newRun.trans sameRun, newWorker.trans sameWorker, fun none => (same none).trans (unsent none)⟩

theorem rewrite (kept : ∀ entry ∈ registry, ∃ new ∈ registry', new.run = entry.run ∧ new.worker = entry.worker ∧
      new.dispatched = entry.dispatched) : Held registry' workers launching spawns := by
  apply held.follow
  · intro entry member unsent _
    obtain ⟨new, inside, sameRun, sameWorker, same⟩ := kept entry member
    exact ⟨new, inside, sameRun, sameWorker, same.trans unsent⟩
  · intro entry member _ _ _ _ _
    obtain ⟨new, inside, sameRun, sameWorker, same⟩ := kept entry member
    exact ⟨new, inside, sameRun, sameWorker, fun _ => same⟩

theorem erase (unique : Keyed.Unique Entry.key registry)
    (member : entry ∈ registry) (unlaunched : ∀ launch ∈ launching, launch.1 ≠ entry.run)
    (unspawned : ∀ (i : Nat) spawn, spawns[i]? = some spawn → spawn.active = true → spawn.run ≠ entry.run) :
    Held (Keyed.erase Entry.key registry entry.run.runId) workers launching spawns := by
  have stays : ∀ other ∈ registry, other.run ≠ entry.run →
      other ∈ Keyed.erase Entry.key registry entry.run.runId := by
    intro other inside different
    refine Keyed.mem_erase_iff.mpr ⟨inside, fun same => different ?_⟩
    rw [unique.eq_of_key inside member same]
  apply held.follow
  · rintro other inside unsent ⟨launch, launchInside, sameRun⟩
    exact ⟨other, stays other inside (sameRun ▸ unlaunched launch launchInside), rfl, rfl, unsent⟩
  · intro other inside i spawn place active sameRun
    exact ⟨other, stays other inside (sameRun ▸ unspawned i spawn place active), rfl, rfl, fun _ => rfl⟩

theorem fewer (sublist : launching'.Sublist launching) : Held registry workers launching' spawns :=
  { held with
    launches := fun launch member => held.launches launch (sublist.subset member)
    once := held.once.sublist (sublist.map Prod.fst)
    apart := fun i spawn place active launch member => held.apart i spawn place active launch (sublist.subset member) }

theorem proceed (moved : ∀ (i : Nat) spawn, spawns'[i]? = some spawn → ∃ old, spawns[i]? = some old ∧ old.run = spawn.run ∧
      old.worker = spawn.worker ∧ (spawn.sent = false → old.sent = false) ∧ (spawn.active = true → old.active = true) ∧
      spawn.Sound) (ready : ∀ (i : Nat) spawn, spawns'[i]? = some spawn → spawn.held = true → ∀ host ∈ workers',
      host.worker = spawn.worker → host.session = .ready) : Held registry workers' launching spawns' where
  launches := held.launches
  once := held.once
  spawned := by
    intro i spawn place active
    obtain ⟨old, oldAt, sameRun, sameWorker, unsent, was, _⟩ := moved i spawn place
    rw [← sameRun, ← sameWorker]
    obtain ⟨entry, inside, named, seated, waits⟩ := held.spawned i old oldAt (was active)
    exact ⟨entry, inside, named, seated, fun none => waits (unsent none)⟩
  apart := by
    intro i spawn place active
    obtain ⟨old, oldAt, sameRun, _, _, was, _⟩ := moved i spawn place
    rw [← sameRun]
    exact held.apart i old oldAt (was active)
  distinct := by
    intro i j spawn other place otherAt active otherActive same
    obtain ⟨old, oldAt, sameRun, _, _, was, _⟩ := moved i spawn place
    obtain ⟨oldOther, oldOtherAt, sameOther, _, _, otherWas, _⟩ := moved j other otherAt
    exact held.distinct i j old oldOther oldAt oldOtherAt (was active) (otherWas otherActive)
      (by rw [sameRun, sameOther, same])
  ready := ready
  sound := by
    intro i spawn place
    obtain ⟨_, _, _, _, _, _, sound⟩ := moved i spawn place
    exact sound

theorem rehost (ready : ∀ (i : Nat) spawn, spawns[i]? = some spawn → spawn.held = true → ∀ host ∈ workers',
    host.worker = spawn.worker → host.session = .ready) : Held registry workers' launching spawns :=
  { held with ready }

theorem proceed_set {old new : Spawn}
    (place : spawns[i]? = some old) (sameRun : old.run = new.run) (sameWorker : old.worker = new.worker)
    (unsent : new.sent = false → old.sent = false) (was : new.active = true → old.active = true)
    (wasHeld : new.held = true → old.held = true) (sound : new.Sound) :
    Held registry workers launching (spawns.set i new) := by
  apply held.proceed
  · intro j spawn now
    rcases of_set now with ⟨rfl, rfl⟩ | ⟨_, unchanged⟩
    · exact ⟨old, place, sameRun, sameWorker, unsent, was, sound⟩
    · exact ⟨spawn, unchanged, rfl, rfl, id, id, held.sound j spawn unchanged⟩
  · intro j spawn now isHeld host inside same
    rcases of_set now with ⟨rfl, rfl⟩ | ⟨_, unchanged⟩
    · exact held.ready j old place (wasHeld isHeld) host inside (same.trans sameWorker.symm)
    · exact held.ready j spawn unchanged isHeld host inside same

theorem dispatch (unique : Keyed.Unique Entry.key registry)
    {spawn : Spawn} (place : spawns[i]? = some spawn) (isHeld : spawn.held = true) (member : entry ∈ registry)
    (sameRun : entry.run = spawn.run) :
    Held (set registry spawn.run (fun entry => { entry with dispatched := true })) workers launching
      (spawns.set i { spawn with sent := true }) := by
  have active := Spawn.active_of_held isHeld
  have sound := held.sound i spawn place
  have sent : Held registry workers launching (spawns.set i { spawn with sent := true }) :=
    held.proceed_set place rfl rfl (fun unsent => absurd unsent (by simp)) id id
      ⟨fun unsent => absurd unsent (by simp), sound.answered, sound.named⟩
  have elsewhere : ∀ other ∈ registry, other.run ≠ spawn.run →
      other ∈ set registry spawn.run (fun entry => { entry with dispatched := true }) := by
    intro other inside different
    refine mem_modify_of_ne _ inside (fun same => different ?_)
    rw [unique.eq_of_key inside member (by rw [same, Entry.key, sameRun]), sameRun]
  apply sent.follow
  · rintro other inside unsent ⟨launch, launchInside, launchRun⟩
    have different : other.run ≠ spawn.run := launchRun ▸ held.apart i spawn place active launch launchInside
    exact ⟨other, elsewhere other inside different, rfl, rfl, unsent⟩
  · intro found inside j other now otherActive foundRun
    rcases of_set now with ⟨rfl, rfl⟩ | ⟨different, unchanged⟩
    · refine ⟨{ found with dispatched := true }, ?_, rfl, rfl, fun unsent => absurd unsent (by simp)⟩
      have changed : { found with dispatched := true } ∈ modify Entry.key registry found.key
          (fun entry => { entry with dispatched := true }) := mem_modify_self _ inside
      rwa [show found.key = spawn.run.runId from congrArg RunRef.runId foundRun.symm] at changed
    · have apart : found.run ≠ spawn.run := by
        rw [← foundRun]
        exact fun same => different (held.distinct j i other spawn unchanged place otherActive active same)
      exact ⟨found, elsewhere found inside apart, rfl, rfl, fun _ => rfl⟩

theorem push {run : RunRef} {worker : WorkerRef} (launch : (run, worker) ∈ launching) (isHeld : Bool)
    (ready : isHeld = true → ∀ host ∈ workers, host.worker = worker → host.session = .ready) :
    Held registry workers (launching.filter (fun launch => launch.1 ≠ run))
      (spawns ++ [⟨run, worker, false, isHeld, false, if isHeld then none else some unavailable⟩]) := by
  have fewer := held.fewer (filter_sublist (l := launching) (p := fun launch => decide (launch.1 ≠ run)))
  have gone : ∀ other ∈ launching.filter (fun launch => launch.1 ≠ run), other.1 ≠ run := by
    simp
  have unshared : ∀ (i : Nat) spawn, spawns[i]? = some spawn → spawn.active = true → spawn.run ≠ run :=
    fun i spawn place active same => held.apart i spawn place active _ launch same.symm
  refine { fewer with spawned := ?_, apart := ?_, distinct := ?_, ready := ?_, sound := ?_ }
  · intro i spawn place active
    rcases getElem?_snoc place with ⟨_, old⟩ | ⟨_, rfl⟩
    · exact held.spawned i spawn old active
    · obtain ⟨entry, inside, sameRun, sameWorker, unsent⟩ := held.launches _ launch
      exact ⟨entry, inside, sameRun, sameWorker, fun _ => unsent⟩
  · intro i spawn place active other inside
    rcases getElem?_snoc place with ⟨_, old⟩ | ⟨_, rfl⟩
    · exact fewer.apart i spawn old active other inside
    · exact gone other inside
  · intro i j spawn other place otherAt active otherActive same
    rcases getElem?_snoc place with ⟨_, old⟩ | ⟨rfl, rfl⟩
    · rcases getElem?_snoc otherAt with ⟨_, otherOld⟩ | ⟨rfl, rfl⟩
      · exact held.distinct i j spawn other old otherOld active otherActive same
      · exact absurd same (unshared i spawn old active)
    · rcases getElem?_snoc otherAt with ⟨_, otherOld⟩ | ⟨rfl, _⟩
      · exact absurd same.symm (unshared j other otherOld otherActive)
      · rfl
  · intro i spawn place isHeld
    rcases getElem?_snoc place with ⟨_, old⟩ | ⟨_, rfl⟩
    · exact held.ready i spawn old isHeld
    · exact ready isHeld
  · intro i spawn place
    rcases getElem?_snoc place with ⟨_, old⟩ | ⟨_, rfl⟩
    · exact held.sound i spawn old
    cases isHeld with
    | true => exact ⟨fun _ => .inl rfl, fun _ none => absurd none (by simp), fun _ _ none => absurd none (by simp)⟩
    | false => exact ⟨fun _ => .inr (.inr rfl), fun _ _ _ => rfl, fun _ _ none => absurd none (by simp [unavailable])⟩

theorem reserve {run : RunRef} {worker : WorkerRef}
    {geometry : Geometry} (new : ∀ entry ∈ registry, entry.run.runId ≠ run.runId)
    (sessions : ∀ host ∈ workers', ∃ old ∈ workers, old.worker = host.worker ∧ old.session = host.session) :
    Held (registry ++ [⟨run, worker, fresh run geometry, true, false⟩]) workers'
      (launching ++ [(run, worker)]) spawns := by
  have others : ∀ entry ∈ registry, entry.run ≠ run := by
    rintro entry inside rfl
    exact new entry inside rfl
  constructor
  case launches =>
    intro launch member
    rcases mem_snoc member with old | rfl
    · obtain ⟨entry, inside, rest⟩ := held.launches launch old
      exact ⟨entry, mem_append_left _ inside, rest⟩
    · exact ⟨_, mem_append_right _ (mem_singleton_self _), rfl, rfl, rfl⟩
  case once =>
    rw [map_append, nodup_append]
    refine ⟨held.once, by simp, ?_⟩
    intro named old other last
    obtain rfl : other = run := by simpa using last
    obtain ⟨launch, inside, rfl⟩ := List.mem_map.mp old
    obtain ⟨entry, entryInside, same, _⟩ := held.launches launch inside
    rw [← same]
    exact others entry entryInside
  case spawned =>
    intro i spawn place active
    obtain ⟨entry, inside, rest⟩ := held.spawned i spawn place active
    exact ⟨entry, mem_append_left _ inside, rest⟩
  case apart =>
    intro i spawn place active launch member
    rcases mem_snoc member with old | rfl
    · exact held.apart i spawn place active launch old
    obtain ⟨entry, inside, same, _⟩ := held.spawned i spawn place active
    rw [← same]
    exact (others entry inside).symm
  case distinct => exact held.distinct
  case ready =>
    intro i spawn place isHeld host inside same
    obtain ⟨old, oldInside, sameWorker, sameSession⟩ := sessions host inside
    rw [← sameSession]
    exact held.ready i spawn place isHeld old oldInside (sameWorker.trans same)
  case sound => exact held.sound

end Held

/-! ### What single calls do to the registry -/

namespace Registry

variable {entries entries' : Registry} {entry : Entry} {run : RunRef} {worker : WorkerRef} {status : RunStatus}

theorem observe_some (done : observe entries worker status = some entries') :
    ∃ entry ∈ entries, entry.run = status.run ∧ entry.worker = worker ∧
      (entry.status.status = .exited → status.status = .exited) ∧ (entries' = entries ∧ entry.status.status = .exited ∨
        entries' = set entries status.run (fun entry => { entry with status := status })) := by
  unfold observe at done
  split at done
  · cases done
  split at done
  · cases done
  rename_i entry found
  obtain ⟨member, sameRun, sameWorker⟩ := find_some found
  split at done
  · cases done
  rename_i refined
  have exit : entry.status.status = .exited → status.status = .exited := by
    intro exited
    by_contra other
    exact refined ⟨exited, other⟩
  split at done
  next older => exact ⟨entry, member, sameRun, sameWorker, exit, .inl ⟨(some.inj done).symm, older.1⟩⟩
  next => exact ⟨entry, member, sameRun, sameWorker, exit, .inr (some.inj done).symm⟩

theorem observeExit_some {exitCode : Option Int} {signal : Option String}
    (done : observeExit entries worker run exitCode signal = some entries') :
    ∃ entry ∈ entries, entry.run = run ∧ entry.worker = worker ∧ (entries' = entries ∧ entry.status.status = .exited ∨
        ∃ status : RunStatus, status.status = .exited ∧
          entries' = set entries run (fun entry => { entry with status := status })) := by
  unfold observeExit at done
  split at done
  · cases done
  rename_i entry found
  obtain ⟨member, sameRun, sameWorker⟩ := find_some found
  split at done
  next exited => exact ⟨entry, member, sameRun, sameWorker, .inl ⟨(some.inj done).symm, exited⟩⟩
  dsimp only at done
  split at done
  · cases done
  next => exact ⟨entry, member, sameRun, sameWorker, .inr ⟨_, rfl, (some.inj done).symm⟩⟩

theorem mem_set_status (unique : Keyed.Unique Entry.key entries) (member : entry ∈ entries) {other : Entry}
    (inside : other ∈ set entries entry.run (fun entry => { entry with status := status })) :
    other ∈ entries ∧ other.run ≠ entry.run ∨ other = { entry with status := status } := by
  rcases mem_modify _ inside with ⟨old, different⟩ | ⟨old, oldInside, same, rfl⟩
  · exact .inl ⟨old, fun equal => different (congrArg RunRef.runId equal)⟩
  · rw [unique.eq_of_key oldInside member same]
    exact .inr rfl

theorem exists_set {change : Entry → Entry} (rewrite : Rewrite change)
    (sent : ∀ entry, (change entry).dispatched = entry.dispatched) (member : entry ∈ entries) :
    ∃ new ∈ set entries run change, new.run = entry.run ∧ new.worker = entry.worker ∧
      new.dispatched = entry.dispatched := by
  refine ⟨_, List.mem_map.mpr ⟨entry, member, rfl⟩, ?_⟩
  split
  · exact ⟨rewrite.run entry, rewrite.worker entry, sent entry⟩
  · exact ⟨rfl, rfl, rfl⟩

theorem lose_fields (entry : Entry) : (lose entry).run = entry.run ∧ (lose entry).worker = entry.worker ∧
    (lose entry).dispatched = entry.dispatched ∧ (lose entry).status.status ≠ .live ∧
    (entry.status.status = .exited ↔ (lose entry).status.status = .exited) := by
  unfold lose
  split
  next exited => simp [exited]
  next other => simp [other]

theorem exists_contactLost (member : entry ∈ entries) :
    ∃ new ∈ contactLost entries worker, new.run = entry.run ∧ new.worker = entry.worker ∧
      new.dispatched = entry.dispatched := by
  refine ⟨_, List.mem_map.mpr ⟨entry, member, rfl⟩, ?_⟩
  have fields := lose_fields entry
  split
  · exact ⟨fields.1, fields.2.1, fields.2.2.1⟩
  · exact ⟨rfl, rfl, rfl⟩

theorem mem_contactLost (member : entry ∈ contactLost entries worker) :
    entry ∈ entries ∧ entry.worker ≠ worker ∨ ∃ old ∈ entries, old.worker = worker ∧ entry = lose old := by
  obtain ⟨old, inside, rfl⟩ := List.mem_map.mp member
  by_cases same : old.worker = worker
  · rw [if_pos ((sameWorkerRef_iff _ _).mpr same)]
    exact .inr ⟨old, inside, same, rfl⟩
  · have different : ¬sameWorkerRef old.worker worker = true := fun equal => same ((sameWorkerRef_iff _ _).mp equal)
    rw [if_neg different]
    exact .inl ⟨inside, same⟩

end Registry

variable {journal : List Act}

theorem Told.contactLost {registry : Registry} (told : Told registry journal)
    (worker : WorkerRef) : Told (contactLost registry worker) journal := by
  apply told.rewrite
  intro entry inside
  rcases mem_contactLost inside with ⟨old, _⟩ | ⟨old, oldInside, _, rfl⟩
  · exact ⟨entry, old, rfl, rfl, id⟩
  · have fields := lose_fields old
    exact ⟨old, oldInside, fields.1.symm, fields.2.2.1.symm, fields.2.2.2.2.mp⟩

/-! ### The invariant of the runtime -/

structure Core (s : LocalRuntime) : Prop where
  books : Books s.registry s.pool
  told : Told s.registry s.journal
  held : Held s.registry s.pool.workers s.launching s.spawns

/-- No run of a worker whose session is closed is recorded live. -/
def QuietAt (s : LocalRuntime) (worker : WorkerRef) : Prop :=
  ∀ entry ∈ s.registry, entry.worker = worker → ∀ host ∈ s.pool.workers, host.worker = worker →
    host.session = .closed → entry.status.status ≠ .live

structure Inv (s : LocalRuntime) : Prop where
  core : Core s
  quiet : ∀ worker, QuietAt s worker

section Calls

variable {s : LocalRuntime} {entry : Entry} {run : RunRef} {worker : WorkerRef}

variable {host : WorkerEntry}

theorem Core.closed_of_not_ready (core : Core s) (member : entry ∈ s.registry)
    (unready : s.pool.ready entry.worker = false) (inside : host ∈ s.pool.workers)
    (same : host.worker = entry.worker) : host.session = .closed := by
  have got : get? WorkerEntry.worker s.pool.workers entry.worker = some host := by
    rw [← same]
    exact core.books.workers.get?_of_mem inside
  obtain ⟨other, otherInside, otherSame, session⟩ := core.books.hosts entry member
  obtain rfl := core.books.workers.eq_of_key inside otherInside (same.trans otherSame.symm)
  unfold Pool.ready at unready
  rw [got] at unready
  cases state : host.session with
  | hello => exact absurd state session
  | ready => simp [state] at unready
  | closed => rfl

theorem Core.ready_host (core : Core s) (ready : s.pool.ready worker = true)
    (inside : host ∈ s.pool.workers) (same : host.worker = worker) : host.session = .ready := by
  have got : get? WorkerEntry.worker s.pool.workers worker = some host := by
    rw [← same]
    exact core.books.workers.get?_of_mem inside
  unfold Pool.ready at ready
  rw [got] at ready
  simpa using ready

theorem Core.repeated (core : Core s) (member : entry ∈ s.registry) (exited : entry.status.status = .exited) (phase : RunPhase) :
    Core { s with journal := s.journal ++ [.observed entry.run phase] } := by
  refine ⟨core.books, core.told.observed ?_, core.held⟩
  intro other inside
  refine ⟨other, inside, rfl, rfl, ?_⟩
  rintro (already | ⟨equal, _⟩)
  · exact already
  · rwa [core.books.entries.eq_of_key inside member (by rw [Entry.key, Entry.key, equal])]

theorem Core.recorded (core : Core s) (member : entry ∈ s.registry) {status : RunStatus} {phase : RunPhase}
    (exit : entry.status.status = .exited ∨ phase = .exited → status.status = .exited) :
    Core { s with registry := set s.registry entry.run (fun entry => { entry with status := status }),
                  journal := s.journal ++ [.observed entry.run phase] } := by
  constructor
  case books => exact core.books.set (rewrite_status status) entry.run
  case held =>
    apply core.held.rewrite
    intro other inside
    exact exists_set (rewrite_status status) (fun _ => rfl) inside
  case told =>
    apply core.told.observed
    intro other inside
    rcases mem_set_status core.books.entries member inside with ⟨old, different⟩ | rfl
    · refine ⟨other, old, rfl, rfl, ?_⟩
      rintro (already | ⟨equal, _⟩)
      · exact already
      · exact absurd equal.symm different
    · exact ⟨entry, member, rfl, rfl, fun either => exit (either.imp_right And.right)⟩

theorem Core.observe (core : Core s) (worker : WorkerRef) (status : RunStatus) : Core (s.observe worker status) := by
  unfold LocalRuntime.observe
  split
  · exact core
  rename_i registry done
  obtain ⟨entry, member, sameRun, sameWorker, exit, same⟩ := observe_some done
  rcases same with ⟨rfl, exited⟩ | rfl
  · rw [← sameRun]
    exact core.repeated member exited _
  · rw [← sameRun]
    exact core.recorded member fun either => either.elim exit id

theorem Core.observeExit (core : Core s) (worker : WorkerRef) (run : RunRef) (exitCode : Option Int)
    (signal : Option String) : Core (s.observeExit worker run exitCode signal) := by
  unfold LocalRuntime.observeExit
  split
  · exact core
  rename_i registry done
  obtain ⟨entry, member, rfl, sameWorker, same⟩ := observeExit_some done
  rcases same with ⟨rfl, exited⟩ | ⟨status, exited, rfl⟩
  · exact core.repeated member exited _
  · exact core.recorded member fun _ => exited

theorem Core.checkContact (core : Core s) (worker : WorkerRef) : Core (s.checkContact worker) := by
  unfold LocalRuntime.checkContact
  split
  · exact core
  constructor
  case books => exact core.books.rewrite (rewrite_lose worker)
  case held => exact core.held.rewrite (fun entry inside => exists_contactLost inside)
  case told => exact core.told.contactLost worker

/-- A status may be recorded live for a closed session, until the request that brought it checks its contact. -/
theorem QuietAt.observe (quiet : QuietAt s worker) {other : WorkerRef} (different : worker ≠ other)
    (core : Core s) (status : RunStatus) : QuietAt (s.observe other status) worker := by
  unfold LocalRuntime.observe
  split
  · exact quiet
  rename_i registry done
  obtain ⟨entry, member, sameRun, sameWorker, _, same⟩ := observe_some done
  rcases same with ⟨rfl, _⟩ | rfl
  · exact quiet
  intro changed inside sameHost
  rw [← sameRun] at inside
  rcases mem_set_status core.books.entries member inside with ⟨old, _⟩ | rfl
  · exact quiet changed old sameHost
  · exact absurd (sameHost.symm.trans sameWorker) different

theorem Inv.checkContact (core : Core s) (quiet : ∀ other, other ≠ worker → QuietAt s other) :
    Inv (s.checkContact worker) := by
  refine ⟨core.checkContact worker, ?_⟩
  intro other
  unfold LocalRuntime.checkContact
  split
  next ready =>
    by_cases same : other = worker
    · subst same
      intro entry _ _ host hostInside sameHost closed
      rw [core.ready_host ready hostInside sameHost] at closed
      cases closed
    · exact quiet other same
  next =>
    intro entry inside sameWorker
    rcases mem_contactLost inside with ⟨old, different⟩ | ⟨old, _, _, rfl⟩
    · exact quiet other (sameWorker ▸ different) entry old sameWorker
    · exact fun _ _ _ _ => (lose_fields old).2.2.2.1

/-! ### Leaving the books -/

theorem Core.releaseSlot (core : Core s) (member : entry ∈ s.registry) {registry : Registry}
    (books : Books registry (Books.freed s.pool entry)) (told : Told registry journal)
    (held : Held registry s.pool.workers s.launching s.spawns) (slot : slotLaw journal (.freed entry.run)) :
    Core (({ s with registry := registry, journal := journal } : LocalRuntime).releaseSlot entry.run entry.worker) := by
  have workers : ∀ host ∈ (freed s.pool entry).workers, ∃ old ∈ s.pool.workers,
      host.worker = old.worker ∧ host.session = old.session := by
    intro host inside
    obtain ⟨old, oldInside, sameWorker, sameSession, _⟩ := core.books.mem_freed_workers member inside
    exact ⟨old, oldInside, sameWorker, sameSession⟩
  have heldFreed : Held registry (freed s.pool entry).workers s.launching s.spawns := by
    apply held.rehost
    intro i spawn place isHeld host inside same
    obtain ⟨old, oldInside, sameWorker, sameSession⟩ := workers host inside
    rw [sameSession]
    exact held.ready i spawn place isHeld old oldInside (sameWorker.symm.trans same)
  unfold LocalRuntime.releaseSlot freed at *
  split
  next kept =>
    rw [kept] at books
    exact ⟨books, told, held⟩
  next pool released =>
    rw [released] at books heldFreed
    exact ⟨books, told.remark slot (by simp), heldFreed⟩

theorem releaseSlot_sessions (core : Core s) (member : entry ∈ s.registry) {registry : Registry} (inside : host ∈ (({ s with registry := registry, journal := journal } :
      LocalRuntime).releaseSlot entry.run entry.worker).pool.workers) :
    ∃ old ∈ s.pool.workers, host.worker = old.worker ∧ host.session = old.session := by
  unfold releaseSlot at inside
  split at inside
  · exact ⟨host, inside, rfl, rfl⟩
  rename_i pool released
  have freed : freed s.pool entry = pool := by rw [freed, released]; rfl
  obtain ⟨old, oldInside, sameWorker, sameSession, _⟩ := core.books.mem_freed_workers member (freed ▸ inside)
  exact ⟨old, oldInside, sameWorker, sameSession⟩

theorem releaseSlot_fields (s : LocalRuntime) (run : RunRef) (worker : WorkerRef) :
    (s.releaseSlot run worker).registry = s.registry ∧ (s.releaseSlot run worker).launching = s.launching ∧
      (s.releaseSlot run worker).spawns = s.spawns := by
  unfold releaseSlot
  split <;> exact ⟨rfl, rfl, rfl⟩

theorem Inv.leave (inv : Inv s) (member : entry ∈ s.registry) (act : Act) (about : act.run = entry.run)
    (lawful : slotLaw s.journal act) (later : ∀ run, act ≠ .reserved run)
    (slot : slotLaw (s.journal ++ [act]) (.freed entry.run)) (unlaunched : ∀ launch ∈ s.launching, launch.1 ≠ entry.run)
    (unspawned : ∀ (i : Nat) spawn, s.spawns[i]? = some spawn → spawn.active = true → spawn.run ≠ entry.run) :
    Inv (({ s with registry := Keyed.erase Entry.key s.registry entry.run.runId,
                   journal := s.journal ++ [act] } : LocalRuntime).releaseSlot entry.run entry.worker) := by
  constructor
  case core =>
    apply inv.core.releaseSlot member
    · exact inv.core.books.erase member
    · rw [← about]
      exact inv.core.told.erase lawful later
    · exact inv.core.held.erase inv.core.books.entries member unlaunched unspawned
    · exact slot
  case quiet =>
    intro worker other inside sameWorker host hostInside sameHost closed
    rw [(releaseSlot_fields _ _ _).1] at inside
    obtain ⟨old, oldInside, oldWorker, oldSession⟩ := releaseSlot_sessions inv.core member hostInside
    exact inv.quiet worker other (mem_erase_iff.mp inside).1 sameWorker old oldInside
      (oldWorker.symm.trans sameHost) (oldSession.symm.trans closed)

theorem Inv.cancelRunReservation (inv : Inv s) (unlaunched : ∀ launch ∈ s.launching, launch.1 ≠ run)
    (unspawned : ∀ (i : Nat) spawn, s.spawns[i]? = some spawn → spawn.active = true → spawn.run ≠ run) :
    Inv (s.cancelRunReservation run worker) := by
  unfold LocalRuntime.cancelRunReservation
  split
  · exact inv
  rename_i registry done
  obtain ⟨entry, member, rfl, rfl, unsent, rfl⟩ := cancelReservation_some done
  have unsentYet : Act.sent entry.run ∉ story entry.run s.journal := by
    rw [← inv.core.told.dispatched entry member, unsent]
    simp
  apply inv.leave member (.cancelled entry.run) rfl trivial (by simp) _ unlaunched unspawned
  left
  rw [mem_story_append]
  simp [unsentYet]

theorem Inv.retireRefusedSpawn (inv : Inv s) (refused : .refused run ∈ story run s.journal)
    (unlaunched : ∀ launch ∈ s.launching, launch.1 ≠ run)
    (unspawned : ∀ (i : Nat) spawn, s.spawns[i]? = some spawn → spawn.active = true → spawn.run ≠ run) :
    Inv (s.retireRefusedSpawn run worker) := by
  unfold LocalRuntime.retireRefusedSpawn
  split
  · exact inv
  rename_i registry done
  obtain ⟨entry, member, rfl, rfl, _, _, rfl⟩ := retireRefusedSpawn_some done
  apply inv.leave member (.dropped entry.run) rfl trivial (by simp) _ unlaunched unspawned
  right
  left
  rw [mem_story_append]
  exact ⟨by simp, .inl refused⟩

theorem releaseCapacity_some {entries entries' : Registry} (done : releaseCapacity entries run worker = some entries') :
    ∃ entry ∈ entries, entry.run = run ∧ entry.worker = worker ∧
      entries' = set entries run (fun entry => { entry with capacityOwned := false }) := by
  unfold releaseCapacity at done
  split at done
  · cases done
  rename_i entry found
  obtain ⟨member, sameRun, sameWorker⟩ := find_some found
  split at done
  · cases done
  next => exact ⟨entry, member, sameRun, sameWorker, (some.inj done).symm⟩

theorem mem_set_given {entries : Registry}
    (inside : entry ∈ set entries run (fun entry => { entry with capacityOwned := false })) :
    ∃ old ∈ entries, old.run = entry.run ∧ old.worker = entry.worker ∧ old.dispatched = entry.dispatched ∧
      old.status = entry.status := by
  rcases mem_modify _ inside with ⟨old, _⟩ | ⟨old, oldInside, _, rfl⟩
  · exact ⟨entry, old, rfl, rfl, rfl, rfl⟩
  · exact ⟨old, oldInside, rfl, rfl, rfl, rfl⟩

theorem Inv.releaseOwnedCapacity (inv : Inv s) : Inv (s.releaseOwnedCapacity run worker) := by
  unfold LocalRuntime.releaseOwnedCapacity
  split
  · exact inv
  split
  · exact inv
  rename_i registry done
  obtain ⟨entry, member, rfl, rfl, rfl⟩ := releaseCapacity_some done
  constructor
  case core =>
    apply inv.core.releaseSlot member
    · exact inv.core.books.give member
    · have kept : Told (set s.registry entry.run (fun entry => { entry with capacityOwned := false }))
          s.journal := by
        apply inv.core.told.rewrite
        intro other inside
        obtain ⟨old, oldInside, sameRun, _, sameSent, sameStatus⟩ := mem_set_given inside
        exact ⟨old, oldInside, sameRun, sameSent, by rw [sameStatus]; exact id⟩
      have lawful : slotLaw s.journal (.proved entry.run) := trivial
      exact kept.remark lawful (by simp)
    · apply inv.core.held.rewrite
      intro other inside
      refine ⟨_, List.mem_map.mpr ⟨other, inside, rfl⟩, ?_⟩
      split
      · exact ⟨rfl, rfl, rfl⟩
      · exact ⟨rfl, rfl, rfl⟩
    · right
      right
      right
      rw [mem_story_append]
      exact ⟨by simp, .inr ⟨rfl, rfl⟩⟩
  case quiet =>
    intro worker other inside sameWorker host hostInside sameHost closed
    rw [(releaseSlot_fields _ _ _).1] at inside
    obtain ⟨old, oldInside, _, oldWorker, _, sameStatus⟩ := mem_set_given inside
    obtain ⟨seat, seatInside, seatWorker, seatSession⟩ := releaseSlot_sessions inv.core member hostInside
    rw [← sameStatus]
    exact inv.quiet worker old oldInside (oldWorker.trans sameWorker) seat seatInside
      (seatWorker.symm.trans sameHost) (seatSession.symm.trans closed)

/-! ### Sessions -/

theorem mem_setSession {pool : Pool} {change : Session → Session}
    (inside : host ∈ (pool.setSession worker change).workers) : ∃ old ∈ pool.workers, old.worker = host.worker ∧
      host.session = if old.worker = worker then change old.session else old.session := by
  rcases mem_modify _ inside with ⟨old, different⟩ | ⟨old, oldInside, same, rfl⟩
  · exact ⟨host, old, rfl, by rw [if_neg different]⟩
  · exact ⟨old, oldInside, rfl, by rw [if_pos same]⟩

theorem Spawn.lost_fields (spawn : Spawn) (sound : spawn.Sound) :
    spawn.lost.run = spawn.run ∧ spawn.lost.worker = spawn.worker ∧ spawn.lost.sent = spawn.sent ∧
      spawn.lost.held = false ∧ (spawn.lost.active = true → spawn.active = true) ∧ spawn.lost.Sound := by
  unfold Spawn.lost
  by_cases held : spawn.held = true
  · have active := Spawn.active_of_held held
    by_cases late : spawn.abandoned = true
    · simp only [held, late, Bool.not_true, Bool.false_eq_true, if_false, if_true, active]
      exact ⟨trivial, trivial, trivial, trivial, fun _ => trivial, sound.unsent, fun _ _ _ => rfl, sound.named⟩
    · simp only [held, late, Bool.not_true, Bool.false_eq_true, if_false, active]
      refine ⟨trivial, trivial, trivial, trivial, fun _ => trivial, ?_, fun _ _ _ => rfl, ?_⟩
      · intro unsent
        have plain : spawn.sent = false := unsent
        simp [plain]
      intro outcome status got
      have error := some.inj got
      split at error
      · cases error
      · cases error
  · have unheld : spawn.held = false := by simpa using held
    simp only [unheld, Bool.not_false, if_true]
    exact ⟨trivial, trivial, trivial, trivial, id, sound⟩

theorem Inv.loseContact (inv : Inv s) (worker : WorkerRef) : Inv (s.loseContact worker) := by
  constructor
  case core =>
    constructor
    case books =>
      have closed : Books s.registry (s.pool.setSession worker (fun _ => .closed)) :=
        inv.core.books.session worker (by simp)
      exact closed.rewrite (rewrite_lose worker)
    case told => exact inv.core.told.contactLost worker
    case held =>
      apply (inv.core.held.rewrite (fun entry inside => exists_contactLost inside)).proceed
      · intro i spawn place
        obtain ⟨old, oldPlace, rfl⟩ := map_eq_some_iff.mp ((getElem?_map ..).symm.trans place)
        have sound := inv.core.held.sound i old oldPlace
        have fields := old.lost_fields sound
        refine ⟨old, oldPlace, ?_⟩
        split
        · exact ⟨fields.1.symm, fields.2.1.symm, fields.2.2.1.symm.trans, fields.2.2.2.2.1, fields.2.2.2.2.2⟩
        · exact ⟨rfl, rfl, id, id, sound⟩
      · intro i spawn place isHeld host inside same
        obtain ⟨old, oldPlace, rfl⟩ := map_eq_some_iff.mp ((getElem?_map ..).symm.trans place)
        obtain ⟨seat, seatInside, seatWorker, session⟩ := mem_setSession inside
        by_cases here : old.worker = worker
        · rw [if_pos here, (old.lost_fields (inv.core.held.sound i old oldPlace)).2.2.2.1] at isHeld
          cases isHeld
        · rw [if_neg here] at isHeld same
          rw [session, if_neg (by rw [seatWorker, same]; exact here)]
          exact inv.core.held.ready i old oldPlace isHeld seat seatInside (seatWorker.trans same)
  case quiet =>
    intro other entry inside sameWorker host hostInside sameHost closed
    rcases mem_contactLost inside with ⟨old, different⟩ | ⟨old, _, _, rfl⟩
    · obtain ⟨seat, seatInside, seatWorker, session⟩ := mem_setSession hostInside
      have apart : seat.worker ≠ worker := by
        rw [seatWorker, sameHost, ← sameWorker]
        exact different
      rw [session, if_neg apart] at closed
      exact inv.quiet other entry old sameWorker seat seatInside (seatWorker.trans sameHost) closed
    · exact (lose_fields old).2.2.2.1

def greet (session : Session) : Session := if session = .hello then .ready else session

theorem Inv.ready (inv : Inv s) (worker : WorkerRef) : Inv { s with pool := s.pool.setSession worker greet } := by
  constructor
  case core =>
    constructor
    case books =>
      apply inv.core.books.session worker
      intro session notHello
      cases session with
      | hello => exact absurd rfl notHello
      | ready | closed => decide
    case told => exact inv.core.told
    case held =>
      apply inv.core.held.rehost
      intro i spawn place isHeld host inside same
      obtain ⟨seat, seatInside, seatWorker, session⟩ := mem_setSession inside
      have was := inv.core.held.ready i spawn place isHeld seat seatInside (seatWorker.trans same)
      rw [session, was]
      split <;> rfl
  case quiet =>
    intro other entry member sameWorker host inside sameHost closed
    obtain ⟨seat, seatInside, seatWorker, session⟩ := mem_setSession inside
    have was : seat.session = .closed := by
      rw [closed] at session
      split at session
      · cases state : seat.session with
        | hello | ready => rw [state] at session; exact absurd session (by decide)
        | closed => rfl
      · exact session.symm
    exact inv.quiet other entry member sameWorker seat seatInside (seatWorker.trans sameHost) was

theorem Inv.seat (inv : Inv s) {worker : WorkerRef} (session : Session)
    (fresh : ∀ host ∈ s.pool.workers, host.worker ≠ worker) :
    Inv { s with pool := { s.pool with workers := s.pool.workers ++ [⟨worker, session, []⟩] } } := by
  have settled : ∀ entry ∈ s.registry, entry.worker ≠ worker := by
    intro entry member same
    obtain ⟨host, inside, named, _⟩ := inv.core.books.hosts entry member
    exact fresh host inside (named.trans same)
  constructor
  case core =>
    constructor
    case books => exact inv.core.books.addWorker session fresh
    case told => exact inv.core.told
    case held =>
      apply inv.core.held.rehost
      intro i spawn place isHeld host inside same
      rcases mem_snoc inside with old | rfl
      · exact inv.core.held.ready i spawn place isHeld host old same
      obtain ⟨entry, member, _, sameWorker, _⟩ :=
        inv.core.held.spawned i spawn place (Spawn.active_of_held isHeld)
      exact absurd (sameWorker.trans same.symm) (settled entry member)
  case quiet =>
    intro other entry member sameWorker host inside sameHost closed
    rcases mem_snoc inside with old | rfl
    · exact inv.quiet other entry member sameWorker host old sameHost closed
    · exact absurd (sameWorker.trans sameHost.symm) (settled entry member)

/-! ### Reservations and spawns -/

theorem mem_reserved_workers {workers : List WorkerEntry} {id : String}
    (inside : host ∈ Keyed.modify WorkerEntry.worker workers worker (Pool.addRun id)) :
    ∃ old ∈ workers, old.worker = host.worker ∧ old.session = host.session := by
  rcases mem_modify _ inside with ⟨old, _⟩ | ⟨old, oldInside, _, rfl⟩
  · exact ⟨host, old, rfl, rfl⟩
  · exact ⟨old, oldInside, rfl, rfl⟩

theorem Inv.reserve (inv : Inv s) {c : Composition} {pool : Pool} {registry : Registry} {geometry : Geometry}
    {granted : Bool} (placed : s.pool.reserve c run = some (worker, pool))
    (entered : reserve c s.registry run worker geometry granted = some registry) :
    Inv { s with registry := registry, pool := pool, launching := s.launching ++ [(run, worker)],
                 journal := s.journal ++ [.reserved run] } := by
  have books := inv.core.books.reserve placed entered
  obtain ⟨_, ⟨host, hostInside, rfl, ready⟩, rfl⟩ := Pool.reserve_some placed
  obtain ⟨new, rfl⟩ := reserve_inv entered
  constructor
  case core =>
    constructor
    case books => exact books
    case told => exact inv.core.told.reserve new
    case held => exact inv.core.held.reserve new (fun _ inside => mem_reserved_workers inside)
  case quiet =>
    intro other entry member sameWorker seat inside sameHost closed
    obtain ⟨old, oldInside, oldWorker, oldSession⟩ := mem_reserved_workers inside
    rcases mem_snoc member with earlier | rfl
    · exact inv.quiet other entry earlier sameWorker old oldInside (oldWorker.trans sameHost)
        (oldSession.trans closed)
    · show RunPhase.unverifiable ≠ .live
      decide

theorem Inv.unlaunch (inv : Inv s) (run : RunRef) :
    Inv { s with launching := s.launching.filter (fun launch => launch.1 ≠ run) } :=
  ⟨⟨inv.core.books, inv.core.told, inv.core.held.fewer filter_sublist⟩, inv.quiet⟩

section

variable (inv : Inv s)
include inv

theorem Inv.push (launch : (run, worker) ∈ s.launching) (held : Bool) (ready : held = true → s.pool.ready worker = true) :
    Inv { s with
      launching := s.launching.filter (fun launch => launch.1 ≠ run)
      spawns := s.spawns ++ [⟨run, worker, false, held, false, if held then none else some unavailable⟩] } := by
  refine ⟨⟨inv.core.books, inv.core.told, inv.core.held.push launch held ?_⟩, inv.quiet⟩
  intro isHeld host inside same
  exact inv.core.ready_host (ready isHeld) inside same

theorem Inv.note (run : RunRef) : Inv (s.note (.refused run)) := by
  have lawful : slotLaw s.journal (.refused run) := trivial
  exact ⟨⟨inv.core.books, inv.core.told.remark lawful (by simp), inv.core.held⟩, inv.quiet⟩

theorem Inv.proceed {old new : Spawn} (place : s.spawns[i]? = some old) (follows : old.Follows new) :
    Inv { s with spawns := s.spawns.set i new } := by
  refine ⟨⟨inv.core.books, inv.core.told, ?_⟩, inv.quiet⟩
  exact inv.core.held.proceed_set place follows.run.symm follows.worker.symm follows.sent.symm.trans follows.active
    follows.held follows.sound

theorem Inv.hand {spawn : Spawn} (place : s.spawns[i]? = some spawn) (held : spawn.held = true) : Inv { s with
      spawns := s.spawns.set i { spawn with sent := true }
      registry := markDispatched s.registry spawn.run spawn.worker
      journal := s.journal ++ [.sent spawn.run] } := by
  obtain ⟨entry, member, sameRun, sameWorker, _⟩ := inv.core.held.spawned i spawn place (Spawn.active_of_held held)
  have unique := inv.core.books.entries
  have marked : markDispatched s.registry spawn.run spawn.worker =
      set s.registry spawn.run (fun entry => { entry with dispatched := true }) := by
    unfold markDispatched
    rw [← sameRun, ← sameWorker, find_of_mem unique member]
  rw [marked]
  constructor
  case core =>
    constructor
    case books => exact inv.core.books.set rewrite_dispatched spawn.run
    case told =>
      have lawful : slotLaw s.journal (.sent spawn.run) := by
        rw [← sameRun]
        exact inv.core.told.uncancelled entry member
      apply inv.core.told.note lawful (by simp)
      intro other inside
      rcases mem_modify _ inside with ⟨old, different⟩ | ⟨old, oldInside, same, rfl⟩
      · refine ⟨other, old, rfl, ?_, by simp, by simp⟩
        have elsewhere : Act.sent spawn.run ≠ .sent other.run := by
          intro equal
          exact different (congrArg RunRef.runId (Act.sent.inj equal)).symm
        simp [elsewhere]
      · obtain rfl := unique.eq_of_key oldInside member (by rw [same, Entry.key, sameRun])
        exact ⟨old, oldInside, rfl, by simp [sameRun], by simp, by simp⟩
    case held => exact inv.core.held.dispatch unique place held member sameRun
  case quiet =>
    intro worker other inside sameHost
    rcases mem_modify _ inside with ⟨old, _⟩ | ⟨old, oldInside, _, rfl⟩
    · exact inv.quiet worker other old sameHost
    · exact inv.quiet worker old oldInside sameHost

theorem Inv.alone {spawn new : Spawn} (place : s.spawns[i]? = some spawn)
    (active : spawn.active = true) (idle : new.active = false) : (∀ launch ∈ s.launching, launch.1 ≠ spawn.run) ∧
      ∀ (j : Nat) other, (s.spawns.set i new)[j]? = some other → other.active = true → other.run ≠ spawn.run := by
  refine ⟨inv.core.held.apart i spawn place active, ?_⟩
  intro j other now otherActive same
  rcases Held.of_set now with ⟨_, rfl⟩ | ⟨different, unchanged⟩
  · rw [idle] at otherActive
    cases otherActive
  · exact different (inv.core.held.distinct j i other spawn unchanged place otherActive active same)

theorem Inv.refuse {old new : Spawn} (place : s.spawns[i]? = some old) (follows : old.Follows new)
    (active : old.active = true) (idle : new.active = false) :
    Inv (({ s with spawns := s.spawns.set i new }.note (.refused old.run)).retireRefusedSpawn old.run old.worker) := by
  obtain ⟨unlaunched, unspawned⟩ := inv.alone place active idle
  refine ((inv.proceed place follows).note old.run).retireRefusedSpawn ?_ unlaunched unspawned
  rw [LocalRuntime.note, mem_story_append]
  exact ⟨by simp, .inr ⟨rfl, rfl⟩⟩

theorem Inv.report (status : RunStatus) : Inv ((s.observe worker status).checkContact worker) :=
  Inv.checkContact (inv.core.observe worker status) (fun other different => (inv.quiet other).observe different inv.core _)

theorem Inv.observeExit (exitCode : Option Int) (signal : Option String) :
    Inv (s.observeExit worker run exitCode signal) := by
  refine ⟨inv.core.observeExit worker run exitCode signal, ?_⟩
  unfold LocalRuntime.observeExit
  split
  · exact inv.quiet
  rename_i registry done
  obtain ⟨entry, member, rfl, _, ⟨rfl, _⟩ | ⟨status, exited, rfl⟩⟩ := observeExit_some done
  · exact inv.quiet
  · intro other changed inside sameWorker
    rcases mem_set_status inv.core.books.entries member inside with ⟨old, _⟩ | rfl
    · exact inv.quiet other changed old sameWorker
    intro _ _ _ _
    rw [exited]
    decide

end

end Calls

theorem Inv.new : Inv .new where
  core := ⟨empty, Told.empty lawful_nil, Held.empty []⟩
  quiet := by
    intro worker entry member
    cases member

theorem Inv.dispose {s : LocalRuntime} (inv : Inv s) : Inv s.dispose where
  core := ⟨empty, Told.empty inv.core.told.lawful, Held.empty []⟩
  quiet := by
    intro worker entry member
    cases member

end Cove.Runtime.Placement
