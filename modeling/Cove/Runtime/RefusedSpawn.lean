import Cove.Runtime.PlacementRuns
import Mathlib.Logic.Relation

/-!
Which runs are dropped as refused. `retireRefusedSpawn` looks at the recorded status alone, and a report of life is
overwritten when contact is lost or the worker calls the run unverifiable. As long as that does not happen before the
spawn is settled, no run is dropped that was ever reported live or exited.
-/

namespace Cove.Runtime.Placement
open Base Base.Run Base.Journal Protocol.Identity Protocol.Pipe Protocol.Terminal List Registry Relation LocalRuntime
open Spawn

variable (s : LocalRuntime)

/-- Neither is contact with a worker lost while the refusal of a run of it that is recorded or just reported live was
read and is not handled, nor is a live run reported unverifiable before its spawn is settled. -/
def steady : Event → Prop
  | .lost worker =>
    ∀ entry ∈ s.registry, entry.worker = worker → entry.status.status = .live →
      ∀ spawn ∈ s.spawns, spawn.run = entry.run → spawn.refusalRead = false
  | .returned worker (some status) =>
    (status.status = .unverifiable → ∀ entry ∈ s.registry, entry.run = status.run → entry.status.status = .live →
      (∀ launch ∈ s.launching, launch.1 ≠ status.run) ∧
        ∀ spawn ∈ s.spawns, spawn.run = status.run → spawn.settled = true) ∧
    (status.status = .live → s.pool.ready worker = false →
      ∀ spawn ∈ s.spawns, spawn.run = status.run → spawn.refusalRead = false)
  | _ => True

instance steady.decidable (s : LocalRuntime) (event : Event) : Decidable (steady s event) :=
  match event with
  | .lost _ | .returned _ (some _) => by
    dsimp only [steady]
    infer_instance
  | .returned _ none | .addWorker .. | .ready .. | .reserveRun .. | .cancelRunReservation .. | .spawn .. | .handed ..
  | .expired .. | .replied .. | .continued .. | .request .. | .exit .. | .releaseOwnedCapacity .. | .dispose =>
    inferInstanceAs (Decidable True)

/-! ### Overwritten reports -/

def Shaken (entry : Entry) (journal : List Act) : Prop :=
  entry.status.status = .unverifiable ∧ .observed entry.run .live ∈ story entry.run journal

/-- No refusal of the run's spawn can be handled any more. -/
structure Cleared (entry : Entry) : Prop where
  launches : ∀ launch ∈ s.launching, launch.1 = entry.run → ∀ host ∈ s.pool.workers, host.worker = entry.worker →
    host.session = .closed
  spawns : ∀ (i : Nat) spawn, s.spawns[i]? = some spawn → spawn.run = entry.run → spawn.settled = true

structure Calm : Prop where
  cleared : ∀ entry ∈ s.registry, Shaken entry s.journal → Cleared s entry
  lawful : Lawful dropLaw s.journal

theorem Spawn.settled_iff (spawn : Spawn) : spawn.settled = true ↔ spawn.held = false ∧ spawn.refusalRead = false := by
  simp [settled]

variable {spawn : Spawn}

theorem Spawn.settled_of_idle (idle : spawn.active = false) : spawn.settled = true := by
  rw [settled_iff]
  constructor
  · by_contra held
    rw [active_of_held (by simpa using held)] at idle
    cases idle
  · by_contra read
    simp only [refusalRead, Bool.not_eq_false, Bool.and_eq_true, Option.any_eq_true] at read
    obtain ⟨_, answer, got, refused⟩ := read
    rw [active_of_answer got (ne_unknown_of_refused refused)] at idle
    cases idle

theorem Shaken.of_append {entry : Entry} {journal : List Act} {act : Act} (shaken : Shaken entry (journal ++ [act]))
    (other : act ≠ .observed entry.run .live) : Shaken entry journal := by
  refine ⟨shaken.1, ?_⟩
  obtain ⟨_, earlier | ⟨_, now⟩⟩ := mem_story_append.mp shaken.2
  · exact earlier
  · exact absurd now.symm other

section Calls

variable {s s' : LocalRuntime} {entry : Entry} {run : RunRef} {worker : WorkerRef}

theorem Cleared.of_alone (unlaunched : ∀ launch ∈ s.launching, launch.1 ≠ entry.run)
    (unspawned : ∀ (i : Nat) spawn, s.spawns[i]? = some spawn → spawn.active = true → spawn.run ≠ entry.run) :
    Cleared s entry where
  launches := fun launch inside same => absurd same (unlaunched launch inside)
  spawns := by
    intro i spawn place same
    apply settled_of_idle
    by_contra active
    exact unspawned i spawn place (by simpa using active) same

theorem Inv.still (inv : Inv s) (unready : s.pool.ready worker = false) :
    ∀ entry ∈ s.registry, entry.worker = worker → entry.status.status ≠ .live := by
  rintro entry member rfl
  obtain ⟨host, inside, same, _⟩ := inv.core.books.hosts entry member
  exact inv.quiet entry.worker entry member rfl host inside same
    (inv.core.closed_of_not_ready member unready inside same)

theorem Calm.rebook {registry : Registry} {journal : List Act} (lawful : Lawful dropLaw journal)
    (entries : ∀ new ∈ registry, Shaken new journal →
      ∃ old, Cleared s old ∧ new.run = old.run ∧ new.worker = old.worker) :
    Calm { s with registry := registry, journal := journal } where
  cleared := by
    intro new member shaken
    obtain ⟨old, cleared, sameRun, sameWorker⟩ := entries new member shaken
    refine { launches := ?_, spawns := ?_ } <;> rw [sameRun]
    · rw [sameWorker]
      exact cleared.launches
    · exact cleared.spawns
  lawful := lawful

section

variable (calm : Calm s)
include calm

theorem Calm.note (run : RunRef) : Calm (s.note (.refused run)) :=
  Calm.rebook (calm.lawful.append trivial) fun entry member shaken =>
    ⟨entry, calm.cleared entry member (shaken.of_append (by simp)), rfl, rfl⟩

theorem Calm.releaseSlot (hosts : ∀ host ∈ (s.releaseSlot run worker).pool.workers,
      ∃ old ∈ s.pool.workers, host.worker = old.worker ∧ host.session = old.session) :
    Calm (s.releaseSlot run worker) where
  cleared := by
    intro entry member shaken
    rw [(releaseSlot_fields s run worker).1] at member
    have before : Shaken entry s.journal := by
      unfold LocalRuntime.releaseSlot at shaken
      split at shaken
      · exact shaken
      · exact shaken.of_append (by simp)
    obtain ⟨_, launching, spawns⟩ := releaseSlot_fields s run worker
    have cleared := calm.cleared entry member before
    refine { launches := ?_, spawns := spawns ▸ cleared.spawns }
    rw [launching]
    intro launch inside same host seated named
    obtain ⟨old, oldInside, sameHost, session⟩ := hosts host seated
    exact session.trans (cleared.launches launch inside same old oldInside (sameHost.symm.trans named))
  lawful := by
    unfold LocalRuntime.releaseSlot
    split
    · exact calm.lawful
    · exact calm.lawful.append trivial

theorem Calm.leave (core : Core s) (member : entry ∈ s.registry) (act : Act)
    (plain : ∀ run, act ≠ .observed run .live) (lawful : dropLaw s.journal act) :
    Calm (({ s with registry := Keyed.erase Entry.key s.registry entry.run.runId,
                    journal := s.journal ++ [act] } : LocalRuntime).releaseSlot entry.run entry.worker) := by
  refine (Calm.rebook (calm.lawful.append lawful) fun other inside shaken => ⟨other, ?_, rfl, rfl⟩).releaseSlot
    fun host => releaseSlot_sessions core member
  exact calm.cleared other (Keyed.mem_erase_iff.mp inside).1 (shaken.of_append (plain _))

theorem Calm.cancelRunReservation (core : Core s) : Calm (s.cancelRunReservation run worker) := by
  unfold LocalRuntime.cancelRunReservation
  split
  · exact calm
  next registry done =>
    obtain ⟨entry, member, rfl, rfl, _, rfl⟩ := cancelReservation_some done
    exact calm.leave core member (.cancelled entry.run) (by simp) trivial

theorem Calm.retireRefusedSpawn (core : Core s)
    (untouched : ∀ entry ∈ s.registry, entry.run = run → ¬Shaken entry s.journal) :
    Calm (s.retireRefusedSpawn run worker) := by
  unfold LocalRuntime.retireRefusedSpawn
  split
  · exact calm
  rename_i registry done
  obtain ⟨entry, member, rfl, rfl, _, unverifiable, rfl⟩ := retireRefusedSpawn_some done
  apply calm.leave core member (.dropped entry.run) (by simp)
  constructor
  · intro live
    exact untouched entry member rfl ⟨unverifiable, live⟩
  · intro exited
    have final := core.told.final entry member exited
    rw [unverifiable] at final
    cases final

theorem Calm.observe (core : Core s) (status : RunStatus)
    (clear : status.status = .unverifiable → ∀ entry ∈ s.registry, entry.run = status.run → entry.worker = worker →
      entry.status.status = .live → Cleared s entry) : Calm (s.observe worker status) := by
  unfold LocalRuntime.observe
  split
  · exact calm
  rename_i registry done
  obtain ⟨entry, member, sameRun, sameWorker, exit, same⟩ := observe_some done
  have kept : ∀ other ∈ s.registry, Shaken other (s.journal ++ [.observed status.run status.status]) →
      (status.status = .live → other.run ≠ status.run) → Shaken other s.journal := by
    intro other _ shaken elsewhere
    apply shaken.of_append
    intro equal
    obtain ⟨equalRun, live⟩ := Act.observed.inj equal
    exact elsewhere live equalRun.symm
  refine Calm.rebook (calm.lawful.append trivial) ?_
  intro other inside shaken
  rcases same with ⟨rfl, exited⟩ | rfl
  · have before : Shaken other s.journal := by
      apply kept other inside shaken
      intro live
      rw [exit exited] at live
      cases live
    exact ⟨other, calm.cleared other inside before, rfl, rfl⟩
  · rw [← sameRun] at inside
    rcases mem_set_status core.books.entries member inside with ⟨old, different⟩ | rfl
    · have before := kept other old shaken (fun _ equal => different (equal.trans sameRun.symm))
      exact ⟨other, calm.cleared other old before, rfl, rfl⟩
    · have unverifiable : status.status = .unverifiable := shaken.1
      have earlier : .observed entry.run .live ∈ story entry.run s.journal := by
        obtain ⟨_, before | ⟨_, now⟩⟩ := mem_story_append.mp shaken.2
        · exact before
        · rw [unverifiable] at now
          exact absurd (Act.observed.inj now).2 (by decide)
      refine ⟨entry, ?_, rfl, rfl⟩
      cases phase : entry.status.status with
      | live => exact clear unverifiable entry member sameRun sameWorker phase
      | unverifiable => exact calm.cleared entry member ⟨phase, earlier⟩
      | exited =>
        rw [exit phase] at unverifiable
        cases unverifiable

theorem Calm.checkContact
    (clear : s.pool.ready worker = false → ∀ entry ∈ s.registry, entry.worker = worker → entry.status.status = .live →
      Cleared s entry) : Calm (s.checkContact worker) := by
  unfold LocalRuntime.checkContact
  split
  · exact calm
  rename_i unready
  apply Calm.rebook calm.lawful
  intro entry inside shaken
  rcases mem_contactLost inside with ⟨old, _⟩ | ⟨old, oldInside, rfl, rfl⟩
  · exact ⟨entry, calm.cleared entry old shaken, rfl, rfl⟩
  have fields := lose_fields old
  refine ⟨old, ?_, fields.1, fields.2.1⟩
  cases phase : old.status.status with
  | live => exact clear (by simpa using unready) old oldInside rfl phase
  | unverifiable =>
    apply calm.cleared old oldInside ⟨phase, ?_⟩
    rw [← fields.1]
    exact shaken.2
  | exited =>
    have unverifiable := shaken.1
    rw [fields.2.2.2.2.mp phase] at unverifiable
    cases unverifiable

theorem Calm.checkQuiet (inv : Inv s) : Calm (s.checkContact worker) := by
  apply calm.checkContact
  intro unready entry member same live
  exact absurd live (inv.still unready entry member same)

theorem Calm.report (inv : Inv s) (status : RunStatus)
    (clear : ∀ entry ∈ s.registry, entry.run = status.run → entry.worker = worker →
      (status.status = .unverifiable ∧ entry.status.status = .live ∨
        status.status = .live ∧ s.pool.ready worker = false) → Cleared s entry) :
    Calm ((s.observe worker status).checkContact worker) := by
  have observed := calm.observe inv.core status (fun unverifiable entry member same here live =>
    clear entry member same here (.inl ⟨unverifiable, live⟩))
  apply observed.checkContact
  have samePool : (s.observe worker status).pool = s.pool := by
    unfold LocalRuntime.observe
    split <;> rfl
  rw [samePool]
  intro unready
  have quiet := inv.still unready
  unfold LocalRuntime.observe
  split
  · intro entry member sameWorker live
    exact absurd live (quiet entry member sameWorker)
  next registry done =>
    obtain ⟨entry, member, sameRun, sameWorker, _, ⟨rfl, _⟩ | rfl⟩ := observe_some done
    · intro other inside here live
      exact absurd live (quiet other inside here)
    · intro other inside here live
      rw [← sameRun] at inside
      rcases mem_set_status inv.core.books.entries member inside with ⟨old, _⟩ | rfl
      · exact absurd live (quiet other old here)
      · have cleared := clear entry member sameRun sameWorker (.inr ⟨live, unready⟩)
        exact ⟨cleared.launches, cleared.spawns⟩

/-! ### Sessions and reservations -/

theorem Calm.seat (inv : Inv s) {worker : WorkerRef} (session : Session)
    (fresh : ∀ host ∈ s.pool.workers, host.worker ≠ worker) :
    Calm { s with pool := { s.pool with workers := s.pool.workers ++ [⟨worker, session, []⟩] } } := by
  refine ⟨?_, calm.lawful⟩
  intro entry member shaken
  have cleared := calm.cleared entry member shaken
  refine { cleared with launches := ?_ }
  intro launch inside same host seated named
  rcases mem_snoc seated with old | rfl
  · exact cleared.launches launch inside same host old named
  · obtain ⟨seat, seatInside, here, _⟩ := inv.core.books.hosts entry member
    exact absurd (here.trans named.symm) (fresh seat seatInside)

theorem Calm.ready (worker : WorkerRef) : Calm { s with pool := s.pool.setSession worker greet } := by
  refine ⟨?_, calm.lawful⟩
  intro entry member shaken
  have cleared := calm.cleared entry member shaken
  refine { cleared with launches := ?_ }
  intro launch inside same host seated named
  obtain ⟨old, oldInside, sameWorker, session⟩ := mem_setSession seated
  rw [session, cleared.launches launch inside same old oldInside (sameWorker.trans named)]
  split <;> rfl

end

theorem Spawn.Sound.unknown (sound : spawn.Sound) (held : spawn.held = true) {answer : RuntimeResult}
    (got : spawn.answer = some answer) : answer = resultUnknown := by
  by_contra meaning
  rw [sound.answered answer got meaning] at held
  cases held

theorem refusalRead_lost (spawn : Spawn) (sound : spawn.Sound) (held : spawn.held = true) :
    spawn.lost.refusalRead = false := by
  unfold lost refusalRead
  by_cases late : spawn.abandoned = true
  · simp only [held, late]
    cases got : spawn.answer with
    | none => simp
    | some answer =>
      simp [sound.unknown held got, refusedSpawn, resultUnknown]
  · simp only [held, late, Bool.not_true, Bool.false_eq_true, if_false]
    cases spawn.sent with
    | false => rfl
    | true => decide

section

variable (calm : Calm s)
include calm

theorem Calm.loseContact (inv : Inv s) (worker : WorkerRef) (guard : steady s (.lost worker)) :
    Calm (s.loseContact worker) := by
  have spawns : ∀ (i : Nat) (spawn : Spawn), (s.loseContact worker).spawns[i]? = some spawn →
      ∃ old, s.spawns[i]? = some old ∧ old.Sound ∧ (spawn = if old.worker = worker then old.lost else old) ∧
        old.run = spawn.run := by
    intro i spawn place
    obtain ⟨old, oldPlace, same⟩ := Option.map_eq_some_iff.mp ((getElem?_map ..).symm.trans place)
    have sound := inv.core.held.sound i old oldPlace
    refine ⟨old, oldPlace, sound, same.symm, ?_⟩
    rw [← same]
    split
    · exact (old.lost_fields sound).1.symm
    · rfl
  refine ⟨?_, calm.lawful⟩
  intro entry inside shaken
  rcases mem_contactLost inside with ⟨oldInside, different⟩ | ⟨old, oldInside, rfl, rfl⟩
  · -- another worker's run: its spawns were not held, so the loss does not touch them
    have cleared := calm.cleared entry oldInside shaken
    constructor
    · intro launch inside same host seated named
      obtain ⟨seat, seatInside, sameWorker, session⟩ := mem_setSession seated
      rw [session, cleared.launches launch inside same seat seatInside (sameWorker.trans named)]
      split <;> rfl
    · intro i spawn place same
      obtain ⟨prior, priorPlace, _, rfl, priorRun⟩ := spawns i spawn place
      have settled := cleared.spawns i prior priorPlace (priorRun.trans same)
      have unheld := ((settled_iff prior).mp settled).1
      split
      · simpa [lost, unheld] using settled
      · exact settled
  · have fields := lose_fields old
    constructor
    · intro launch _ _ host hostInside sameHost
      obtain ⟨seat, seatInside, sameWorker, session⟩ := mem_setSession hostInside
      rw [session, if_pos (sameWorker.trans (sameHost.trans fields.2.1))]
    · intro i spawn place same
      rw [fields.1] at same
      obtain ⟨prior, priorPlace, sound, rfl, lostRun⟩ := spawns i spawn place
      have priorRun := lostRun.trans same
      -- a spawn that is held is held by the worker of the entry
      have sameWorker : prior.held = true → prior.worker = old.worker := by
        intro held
        obtain ⟨other, otherInside, otherRun, otherWorker, _⟩ :=
          inv.core.held.spawned i prior priorPlace (active_of_held held)
        have equal := inv.core.books.entries.eq_of_key otherInside oldInside
          (congrArg RunRef.runId (otherRun.trans priorRun))
        rw [← otherWorker, equal]
      have read : prior.held = false → prior.refusalRead = false := by
        intro _
        cases phase : old.status.status with
        | live => exact guard old oldInside rfl phase prior (mem_of_getElem? priorPlace) priorRun
        | unverifiable =>
          have earlier : Shaken old s.journal := ⟨phase, fields.1 ▸ shaken.2⟩
          exact ((settled_iff prior).mp ((calm.cleared old oldInside earlier).spawns i prior priorPlace priorRun)).2
        | exited =>
          have unverifiable := shaken.1
          rw [fields.2.2.2.2.mp phase] at unverifiable
          cases unverifiable
      rw [settled_iff]
      cases held : prior.held with
      | true =>
        rw [if_pos (sameWorker held)]
        exact ⟨(prior.lost_fields sound).2.2.2.1, refusalRead_lost prior sound held⟩
      | false =>
        have unchanged : (if prior.worker = old.worker then prior.lost else prior) = prior := by
          split
          · simp [lost, held]
          · rfl
        rw [unchanged]
        exact ⟨held, read held⟩

theorem Calm.reserve {c : Composition} {pool : Pool} {registry : Registry} {geometry : Geometry} {granted : Bool}
    (placed : s.pool.reserve c run = some (worker, pool))
    (entered : Registry.reserve c s.registry run worker geometry granted = some registry) :
    Calm { s with registry := registry, pool := pool, launching := s.launching ++ [(run, worker)],
                  journal := s.journal ++ [.reserved run] } := by
  obtain ⟨_, _, rfl⟩ := Pool.reserve_some placed
  obtain ⟨new, rfl⟩ := Books.reserve_inv entered
  refine ⟨?_, calm.lawful.append trivial⟩
  intro entry member shaken
  rcases mem_snoc member with old | rfl
  · have cleared := calm.cleared entry old (shaken.of_append (by simp))
    refine { cleared with launches := ?_ }
    intro launch inside same host seated named
    rcases mem_snoc inside with earlier | rfl
    · obtain ⟨seat, seatInside, sameWorker, session⟩ := mem_reserved_workers seated
      exact session.symm.trans (cleared.launches launch earlier same seat seatInside (sameWorker.trans named))
    · exact absurd (congrArg RunRef.runId same).symm (new entry old)
  · exact absurd rfl (mem_story_append.mp shaken.2).1

theorem Calm.unlaunch (run : RunRef) :
    Calm { s with launching := s.launching.filter (fun launch => launch.1 ≠ run) } := by
  refine ⟨?_, calm.lawful⟩
  intro entry member shaken
  have cleared := calm.cleared entry member shaken
  exact { cleared with launches := fun launch inside => cleared.launches launch (List.mem_filter.mp inside).1 }

theorem Calm.releaseOwnedCapacity (inv : Inv s) : Calm (s.releaseOwnedCapacity run worker) := by
  unfold LocalRuntime.releaseOwnedCapacity
  split
  · exact calm
  split
  · exact calm
  rename_i registry done
  obtain ⟨entry, member, rfl, rfl, rfl⟩ := releaseCapacity_some done
  have proved : dropLaw s.journal (.proved entry.run) := trivial
  refine (Calm.rebook (calm.lawful.append proved) fun other inside shaken => ?_).releaseSlot
    fun host => releaseSlot_sessions inv.core member
  obtain ⟨old, oldInside, sameRun, sameWorker, _, sameStatus⟩ := mem_set_given inside
  have earlier : Shaken old s.journal := by
    rw [Shaken, sameStatus, sameRun]
    exact shaken.of_append (by simp)
  exact ⟨old, calm.cleared old oldInside earlier, sameRun.symm, sameWorker.symm⟩

/-! ### Spawns -/

theorem Calm.push (core : Core s) (launch : (run, worker) ∈ s.launching) (held : Bool)
    (ready : held = true → s.pool.ready worker = true) : Calm { s with
      launching := s.launching.filter (fun launch => launch.1 ≠ run)
      spawns := s.spawns ++ [⟨run, worker, false, held, false, if held then none else some unavailable⟩] } := by
  refine ⟨?_, calm.lawful⟩
  intro entry member shaken
  have cleared := calm.cleared entry member shaken
  refine ⟨fun other inside => cleared.launches other (List.mem_filter.mp inside).1, ?_⟩
  intro i spawn place same
  rcases getElem?_snoc place with ⟨_, old⟩ | ⟨_, new⟩
  · exact cleared.spawns i spawn old same
  -- the run of the new spawn was launched, so its session is closed and the spawn is not held
  obtain ⟨owner, ownerInside, ownerRun, ownerWorker, _⟩ := core.held.launches _ launch
  have sameRun : run = entry.run := by
    rw [new] at same
    exact same
  have equal := core.books.entries.eq_of_key ownerInside member
    (congrArg RunRef.runId (ownerRun.trans sameRun))
  have unheld : held = false := by
    by_contra isHeld
    obtain ⟨host, hostInside, named, _⟩ := core.books.hosts entry member
    have here : host.worker = worker := by rw [named, ← equal]; exact ownerWorker
    have isReady := core.ready_host (ready (by simpa using isHeld)) hostInside here
    rw [cleared.launches _ launch sameRun host hostInside named] at isReady
    cases isReady
  rw [new, unheld]
  rfl

theorem Calm.proceed {i : Nat} {old new : Spawn} (place : s.spawns[i]? = some old)
    (sameRun : new.run = old.run) (loose : old.held = true ∨ new.settled = true) :
    Calm { s with spawns := s.spawns.set i new } := by
  refine ⟨?_, calm.lawful⟩
  intro entry member shaken
  have cleared := calm.cleared entry member shaken
  refine { cleared with spawns := ?_ }
  intro j spawn now same
  rcases Held.of_set now with ⟨rfl, rfl⟩ | ⟨_, unchanged⟩
  · rcases loose with held | settled
    · have unheld := ((settled_iff old).mp (cleared.spawns j old place (sameRun.symm.trans same))).1
      rw [held] at unheld
      cases unheld
    · exact settled
  · exact cleared.spawns j spawn unchanged same

theorem Calm.hand {i : Nat} (place : s.spawns[i]? = some spawn) (held : spawn.held = true) :
    Calm { s with
      spawns := s.spawns.set i { spawn with sent := true }
      registry := markDispatched s.registry spawn.run spawn.worker
      journal := s.journal ++ [.sent spawn.run] } := by
  have moved : Calm { s with spawns := s.spawns.set i { spawn with sent := true } } :=
    calm.proceed place rfl (.inl held)
  have sent : dropLaw s.journal (.sent spawn.run) := trivial
  refine Calm.rebook (s := { s with spawns := s.spawns.set i { spawn with sent := true } })
    (calm.lawful.append sent) fun entry member shaken => ?_
  have marked : ∃ old ∈ s.registry, old.run = entry.run ∧ old.worker = entry.worker ∧
      old.status = entry.status := by
    unfold markDispatched at member
    split at member
    · exact ⟨entry, member, rfl, rfl, rfl⟩
    rcases Keyed.mem_modify _ member with ⟨old, _⟩ | ⟨old, oldInside, _, rfl⟩
    · exact ⟨entry, old, rfl, rfl, rfl⟩
    · exact ⟨old, oldInside, rfl, rfl, rfl⟩
  obtain ⟨old, oldInside, sameRun, sameWorker, sameStatus⟩ := marked
  have earlier : Shaken old s.journal := by
    rw [Shaken, sameStatus, sameRun]
    exact shaken.of_append (by simp)
  exact ⟨old, moved.cleared old oldInside earlier, sameRun.symm, sameWorker.symm⟩

theorem Calm.refuse (inv : Inv s) {i : Nat} {old new : Spawn} (place : s.spawns[i]? = some old)
    (follows : old.Follows new) (read : old.held = true ∨ old.refusalRead = true) :
    Calm (({ s with spawns := s.spawns.set i new }.note (.refused old.run)).retireRefusedSpawn old.run old.worker) := by
  have moved := (calm.proceed place follows.run follows.loose).note old.run
  apply moved.retireRefusedSpawn ((inv.proceed place follows).note old.run).core
  intro entry member same shaken
  have cleared := calm.cleared entry member (shaken.of_append (by simp))
  obtain ⟨unheld, unread⟩ := (settled_iff old).mp (cleared.spawns i old place same.symm)
  rcases read with isHeld | refused
  · exact absurd (isHeld.symm.trans unheld) (by simp)
  · exact absurd (refused.symm.trans unread) (by simp)

theorem Calm.observeExit (inv : Inv s) (exitCode : Option Int) (signal : Option String) :
    Calm (s.observeExit worker run exitCode signal) := by
  unfold LocalRuntime.observeExit
  split
  · exact calm
  rename_i registry done
  obtain ⟨entry, member, rfl, _, same⟩ := observeExit_some done
  refine Calm.rebook (calm.lawful.append trivial) ?_
  intro other inside shaken
  have before := shaken.of_append (by simp)
  rcases same with ⟨rfl, _⟩ | ⟨status, exited, rfl⟩
  · exact ⟨other, calm.cleared other inside before, rfl, rfl⟩
  rcases mem_set_status inv.core.books.entries member inside with ⟨old, _⟩ | rfl
  · exact ⟨other, calm.cleared other old before, rfl, rfl⟩
  have unverifiable : status.status = .unverifiable := before.1
  rw [exited] at unverifiable
  cases unverifiable

end

end Calls

theorem Calm.new : Calm .new where
  cleared := by
    intro entry member
    cases member
  lawful := lawful_nil

theorem Calm.dispose {s : LocalRuntime} (calm : Calm s) : Calm s.dispose where
  cleared := by
    intro entry member
    cases member
  lawful := calm.lawful

/-! ### The runs that own their slots -/

def Owning : Prop := ∀ entry ∈ s.registry, entry.capacityOwned = true

def releases : Event → Bool
  | .releaseOwnedCapacity .. => true
  | _ => false

section Owning

variable {s : LocalRuntime} {run : RunRef} {worker : WorkerRef}

section

variable (owning : Owning s)
include owning

theorem Owning.rewrite {change : Entry → Entry} (rewrite : Registry.Rewrite change) :
    ∀ entry ∈ s.registry.map change, entry.capacityOwned = true := by
  intro entry member
  obtain ⟨old, inside, rfl⟩ := List.mem_map.mp member
  rw [rewrite.owned]
  exact owning old inside

theorem Owning.releaseSlot : Owning (s.releaseSlot run worker) := by
  intro entry member
  rw [(releaseSlot_fields s run worker).1] at member
  exact owning entry member

theorem Owning.erase (id : String) (journal : List Act) :
    Owning { s with registry := Keyed.erase Entry.key s.registry id, journal := journal } :=
  fun entry member => owning entry (Keyed.mem_erase_iff.mp member).1

theorem Owning.cancelRunReservation : Owning (s.cancelRunReservation run worker) := by
  unfold LocalRuntime.cancelRunReservation
  split
  · exact owning
  next done =>
    obtain ⟨_, _, _, _, _, rfl⟩ := cancelReservation_some done
    exact (owning.erase _ _).releaseSlot

theorem Owning.retireRefusedSpawn : Owning (s.retireRefusedSpawn run worker) := by
  unfold LocalRuntime.retireRefusedSpawn
  split
  · exact owning
  next done =>
    obtain ⟨_, _, _, _, _, _, rfl⟩ := retireRefusedSpawn_some done
    exact (owning.erase _ _).releaseSlot

theorem Owning.observe (status : RunStatus) : Owning (s.observe worker status) := by
  unfold LocalRuntime.observe
  split
  · exact owning
  rename_i done
  obtain ⟨_, _, _, _, _, ⟨rfl, _⟩ | rfl⟩ := observe_some done
  · exact owning
  · exact owning.rewrite (rewrite_set (rewrite_status status) _)

theorem Owning.observeExit (exitCode : Option Int) (signal : Option String) :
    Owning (s.observeExit worker run exitCode signal) := by
  unfold LocalRuntime.observeExit
  split
  · exact owning
  rename_i done
  obtain ⟨_, _, _, _, ⟨rfl, _⟩ | ⟨status, _, rfl⟩⟩ := observeExit_some done
  · exact owning
  · exact owning.rewrite (rewrite_set (rewrite_status status) _)

theorem Owning.checkContact : Owning (s.checkContact worker) := by
  unfold LocalRuntime.checkContact
  split
  · exact owning
  · exact owning.rewrite (rewrite_lose worker)

end

end Owning

/-! ### The moves of a step -/

/-- A piece of handling an event that came in some state. What a loss of contact and a report overwrite is known of
steady events. -/
inductive Move (start : LocalRuntime) (event : Event) (s : LocalRuntime) : LocalRuntime → Prop where
  | seat {worker : WorkerRef} (session : Session) (fresh : ∀ host ∈ s.pool.workers, host.worker ≠ worker) :
      Move start event s { s with pool := { s.pool with workers := s.pool.workers ++ [⟨worker, session, []⟩] } }
  | greet (worker : WorkerRef) : Move start event s { s with pool := s.pool.setSession worker greet }
  | lose (worker : WorkerRef) (guard : steady start event → steady s (.lost worker)) :
      Move start event s (s.loseContact worker)
  | reserve {c : Composition} {run : RunRef} {worker : WorkerRef} {pool : Pool} {registry : Registry}
      {geometry : Geometry} {granted : Bool} (placed : s.pool.reserve c run = some (worker, pool))
      (entered : Registry.reserve c s.registry run worker geometry granted = some registry) :
      Move start event s { s with
        registry := registry
        pool := pool
        launching := s.launching ++ [(run, worker)]
        journal := s.journal ++ [.reserved run] }
  | unlaunch (run : RunRef) :
      Move start event s { s with launching := s.launching.filter (fun launch => launch.1 ≠ run) }
  | cancel {run : RunRef} (worker : WorkerRef) (unlaunched : ∀ launch ∈ s.launching, launch.1 ≠ run)
      (unspawned : ∀ (i : Nat) spawn, s.spawns[i]? = some spawn → spawn.active = true → spawn.run ≠ run) :
      Move start event s (s.cancelRunReservation run worker)
  | push {run : RunRef} {worker : WorkerRef} (launch : (run, worker) ∈ s.launching) (held : Bool)
      (ready : held = true → s.pool.ready worker = true) :
      Move start event s { s with
        launching := s.launching.filter (fun launch => launch.1 ≠ run)
        spawns := s.spawns ++ [⟨run, worker, false, held, false, if held then none else some unavailable⟩] }
  | hand {i : Nat} {spawn : Spawn} (place : s.spawns[i]? = some spawn) (held : spawn.held = true) :
      Move start event s { s with
        spawns := s.spawns.set i { spawn with sent := true }
        registry := markDispatched s.registry spawn.run spawn.worker
        journal := s.journal ++ [.sent spawn.run] }
  | proceed {i : Nat} {old new : Spawn} (place : s.spawns[i]? = some old) (follows : old.Follows new) :
      Move start event s { s with spawns := s.spawns.set i new }
  | refuse {i : Nat} {old new : Spawn} (place : s.spawns[i]? = some old) (follows : old.Follows new)
      (active : old.active = true) (idle : new.active = false) (read : old.held = true ∨ old.refusalRead = true) :
      Move start event s
        (({ s with spawns := s.spawns.set i new }.note (.refused old.run)).retireRefusedSpawn old.run old.worker)
  | check (worker : WorkerRef) : Move start event s (s.checkContact worker)
  | report {worker : WorkerRef} (status : RunStatus)
      (clear : steady start event → ∀ entry ∈ s.registry, entry.run = status.run → entry.worker = worker →
        (status.status = .unverifiable ∧ entry.status.status = .live ∨
          status.status = .live ∧ s.pool.ready worker = false) → Cleared s entry) :
      Move start event s ((s.observe worker status).checkContact worker)
  | exit (worker : WorkerRef) (run : RunRef) (exitCode : Option Int) (signal : Option String) :
      Move start event s (s.observeExit worker run exitCode signal)
  | release (run : RunRef) (worker : WorkerRef) (released : releases event = true) :
      Move start event s (s.releaseOwnedCapacity run worker)
  | dispose : Move start event s s.dispose

abbrev Moves (start : LocalRuntime) (event : Event) : LocalRuntime → LocalRuntime → Prop :=
  ReflTransGen (Move start event)

section Steps

variable {start s t : LocalRuntime} {event : Event} {run : RunRef} {worker : WorkerRef} {i : Nat} {spawn : Spawn}

theorem Inv.move (inv : Inv s) (move : Move start event s t) : Inv t := by
  cases move with
  | seat session fresh => exact inv.seat session fresh
  | greet worker => exact inv.ready worker
  | lose worker => exact inv.loseContact worker
  | reserve placed entered => exact inv.reserve placed entered
  | unlaunch run => exact inv.unlaunch run
  | cancel _ unlaunched unspawned => exact inv.cancelRunReservation unlaunched unspawned
  | push launch held ready => exact inv.push launch held ready
  | hand place held => exact inv.hand place held
  | proceed place follows => exact inv.proceed place follows
  | refuse place follows active idle => exact inv.refuse place follows active idle
  | check => exact Inv.checkContact inv.core (fun other _ => inv.quiet other)
  | report status => exact inv.report status
  | exit _ _ exitCode signal => exact inv.observeExit exitCode signal
  | release => exact inv.releaseOwnedCapacity
  | dispose => exact inv.dispose

theorem Calm.move (calm : Calm s) (inv : Inv s) (guard : steady start event) (move : Move start event s t) :
    Calm t := by
  cases move with
  | seat session fresh => exact calm.seat inv session fresh
  | greet worker => exact calm.ready worker
  | lose worker loses => exact calm.loseContact inv worker (loses guard)
  | reserve placed entered => exact calm.reserve placed entered
  | unlaunch run => exact calm.unlaunch run
  | cancel => exact calm.cancelRunReservation inv.core
  | push launch held ready => exact calm.push inv.core launch held ready
  | hand place held => exact calm.hand place held
  | proceed place follows => exact calm.proceed place follows.run follows.loose
  | refuse place follows _ _ read => exact calm.refuse inv place follows read
  | check => exact calm.checkQuiet inv
  | report status clear => exact calm.report inv status (clear guard)
  | exit _ _ exitCode signal => exact calm.observeExit inv exitCode signal
  | release => exact calm.releaseOwnedCapacity inv
  | dispose => exact calm.dispose

theorem Owning.move (owning : Owning s) (keeps : releases event = false) (move : Move start event s t) : Owning t := by
  cases move with
  | lose worker => exact owning.rewrite (rewrite_lose worker)
  | reserve _ entered =>
    obtain ⟨_, rfl⟩ := Books.reserve_inv entered
    intro entry member
    rcases mem_snoc member with old | rfl
    · exact owning entry old
    · rfl
  | cancel => exact owning.cancelRunReservation
  | hand =>
    unfold markDispatched
    split
    · exact owning
    · exact owning.rewrite (rewrite_set rewrite_dispatched _)
  | refuse => exact Owning.retireRefusedSpawn owning
  | check => exact owning.checkContact
  | report status => exact (owning.observe status).checkContact
  | exit _ _ exitCode signal => exact owning.observeExit exitCode signal
  | release _ _ released => exact absurd (released.symm.trans keeps) (by simp)
  | dispose =>
    intro entry member
    cases member
  | _ => exact owning

theorem Moves.inv (moves : Moves start event s t) (inv : Inv s) : Inv t := by
  induction moves with
  | refl => exact inv
  | tail _ move ih => exact ih.move move

theorem Moves.calm (moves : Moves start event s t) (inv : Inv s) (calm : Calm s) (guard : steady start event) :
    Calm t := by
  induction moves with
  | refl => exact calm
  | tail before move ih => exact ih.move (Moves.inv before inv) guard move

theorem Moves.owning (moves : Moves start event s t) (owning : Owning s) (keeps : releases event = false) :
    Owning t := by
  induction moves with
  | refl => exact owning
  | tail _ move ih => exact ih.move keeps move

theorem checkContact_unlaunch (s : LocalRuntime) (launching : List (RunRef × WorkerRef)) (worker : WorkerRef) :
    ({ s with launching := launching } : LocalRuntime).checkContact worker =
      { s.checkContact worker with launching := launching } := by
  unfold checkContact
  split <;> rfl

@[simp] theorem checkContact_fields (s : LocalRuntime) (worker : WorkerRef) :
    (s.checkContact worker).pool = s.pool ∧ (s.checkContact worker).launching = s.launching ∧
      (s.checkContact worker).spawns = s.spawns := by
  unfold checkContact
  split <;> exact ⟨rfl, rfl, rfl⟩

theorem reserveRun_cases (inv : Inv s) (c : Composition) (run : RunRef) (geometry : Geometry)
    (granted registered : Bool) : (s.reserveRun c run geometry granted registered).2 = s ∨ ∃ worker pool registry,
      s.pool.reserve c run = some (worker, pool) ∧ reserve c s.registry run worker geometry granted = some registry ∧
      (s.reserveRun c run geometry granted registered).2 =
        { s with registry := registry, pool := pool, launching := s.launching ++ [(run, worker)],
                 journal := s.journal ++ [.reserved run] } := by
  cases answer : (s.reserveRun c run geometry granted registered).1 with
  | none => exact .inl (reserveRun_none inv.core.books answer)
  | some =>
    right
    unfold reserveRun at answer ⊢
    split
    next refused => simp [refused] at answer
    rename_i admissible
    rw [if_neg admissible] at answer
    split
    next missing => simp [missing] at answer
    rename_i host pool placed
    rw [placed] at answer
    dsimp only at answer
    split
    next missing => simp [missing] at answer
    rename_i registry entered
    rw [entered] at answer
    split
    next refused => simp [refused] at answer
    next => exact ⟨host, pool, registry, placed, entered, rfl⟩

theorem cancel_moves (inv : Inv s) (launch : (run, worker) ∈ s.launching) : Moves start event s (({ s with
      launching := s.launching.filter (fun launch => launch.1 ≠ run) } : LocalRuntime).cancelRunReservation run worker) := by
  refine (ReflTransGen.single (.unlaunch run)).tail (.cancel worker ?_ ?_)
  · simp
  · intro i spawn place active same
    exact inv.core.held.apart i spawn place active _ launch same.symm

theorem spawn_moves (inv : Inv s) (run : RunRef) (worker : WorkerRef) (composed admitted : Bool) :
    Moves start event s (s.spawn run worker composed admitted) := by
  unfold spawn
  split
  · exact .refl
  rename_i launch
  rw [not_not] at launch
  dsimp only
  split
  · exact cancel_moves inv launch
  split
  · exact .single (.unlaunch run)
  split
  · exact .single (.unlaunch run)
  have launched : (run, worker) ∈ (s.checkContact worker).launching := by simpa using launch
  have pushed : Move start event (s.checkContact worker) _ :=
    .push launched (admitted && (s.checkContact worker).pool.ready worker)
      (fun both => (Bool.and_eq_true_iff.mp both).2)
  rw [checkContact_unlaunch]
  simpa using (ReflTransGen.single (.check worker)).tail pushed

theorem Spawn.Follows.released (sound : spawn.Sound) (held : spawn.held = true) :
    spawn.Follows { spawn with held := false } where
  run := rfl
  worker := rfl
  sent := rfl
  active := fun _ => active_of_held held
  held := fun now => absurd now (by simp)
  sound := ⟨sound.unsent, fun _ _ _ => rfl, sound.named⟩
  loose := .inl held

theorem Spawn.Follows.answered {answer : RuntimeResult} {held abandoned : Bool} (wasHeld : spawn.held = true)
    (sound : ({ spawn with held := held, abandoned := abandoned, answer := some answer } : Spawn).Sound) :
    spawn.Follows { spawn with held := held, abandoned := abandoned, answer := some answer } :=
  ⟨rfl, rfl, rfl, fun _ => active_of_held wasHeld, fun _ => wasHeld, sound, .inl wasHeld⟩

theorem Spawn.Follows.handled (spawn : Spawn) : spawn.Follows { spawn with answer := none } where
  run := rfl
  worker := rfl
  sent := rfl
  active := fun active => Spawn.active_of_held (by simpa [Spawn.active] using active)
  held := id
  sound := ⟨fun _ => .inl rfl, fun _ none => absurd none (by simp), fun _ _ none => absurd none (by simp)⟩
  loose := by
    cases held : spawn.held with
    | true => exact .inl rfl
    | false => simp [Spawn.settled, Spawn.refusalRead]

theorem expired_moves (s : LocalRuntime) (i : Nat) : Moves start event s (s.expired i) := by
  unfold expired
  split
  · exact .refl
  rename_i spawn place
  split
  · exact .refl
  rename_i free
  simp only [Bool.or_eq_true, Bool.not_eq_true', not_or, Bool.not_eq_false] at free
  split
  · refine .single (.proceed place (.answered free.1 ?_))
    exact ⟨fun _ => .inr (.inl rfl), fun _ _ _ => rfl, fun _ _ none => absurd none (by simp [busy])⟩
  next sent =>
    refine .single (.proceed place (.answered free.1 ⟨fun unsent => absurd unsent (by simpa using sent), ?_, ?_⟩))
    · intro answer got meaning
      exact absurd (Option.some.inj got).symm meaning
    · intro outcome status got
      cases Option.some.inj got

theorem replied_moves (inv : Inv s) (i : Nat) (result : RuntimeResult) : Moves start event s (s.replied i result) := by
  unfold replied
  split
  · exact .refl
  rename_i spawn place
  have sound := inv.core.held.sound i spawn place
  split
  · exact .refl
  rename_i free
  simp only [Bool.or_eq_true, Bool.not_eq_true', not_or, Bool.not_eq_false] at free
  obtain ⟨⟨held, sent⟩, valid⟩ := free
  split
  next =>
    have released := Spawn.Follows.released sound held
    -- an abandoned spawn was answered with nothing but `RESULT_UNKNOWN`
    have idle : ({ spawn with held := false } : Spawn).active = false := by
      unfold active
      cases got : spawn.answer with
      | none => simp
      | some answer =>
        simp [sound.unknown held got]
    split
    · exact .single (.refuse place released (active_of_held held) idle (.inl held))
    · exact .single (.proceed place released)
  next =>
    refine .single (.proceed place (.answered held ⟨fun unsent => absurd unsent (by simp [sent]), fun _ _ _ => rfl, ?_⟩))
    intro outcome status got
    obtain rfl := Option.some.inj got
    exact ((sameRunRef_iff _ _).mp valid).symm

theorem retireRefusedSpawn_fields (s : LocalRuntime) (run : RunRef) (worker : WorkerRef) :
    (s.retireRefusedSpawn run worker).launching = s.launching ∧
      (s.retireRefusedSpawn run worker).spawns = s.spawns := by
  unfold LocalRuntime.retireRefusedSpawn
  split
  · exact ⟨rfl, rfl⟩
  · exact (releaseSlot_fields _ _ _).2

theorem continued_moves (inv : Inv s) (i : Nat) : Moves start event s (s.continued i) := by
  unfold continued
  split
  · exact .refl
  rename_i spawn place
  have sound := inv.core.held.sound i spawn place
  split
  · exact .refl
  rename_i answer got
  have handled : Moves start event s { s with spawns := s.spawns.set i { spawn with answer := none } } :=
    .single (.proceed place (.handled spawn))
  -- an answer that says something is the last the spawn was waiting for
  have ends : answer ≠ resultUnknown → spawn.active = true ∧ ({ spawn with answer := none } : Spawn).active = false :=
    fun meaning => ⟨active_of_answer got meaning, by simp [active, sound.answered answer got meaning]⟩
  have reports : ∀ t : LocalRuntime, Moves start event s t → t.launching = s.launching →
      t.spawns = s.spawns.set i { spawn with answer := none } →
      Moves start event s ((t.observeResult spawn.worker answer).checkContact spawn.worker) := by
    intro t moves launching spawns
    unfold observeResult
    split
    next outcome status =>
      obtain ⟨active, idle⟩ := ends (by simp [resultUnknown])
      obtain ⟨unlaunched, unspawned⟩ := inv.alone place active idle
      refine moves.tail (.report status fun _ entry _ same _ _ => Cleared.of_alone ?_ ?_)
      · rw [launching, same, sound.named outcome status got]
        exact unlaunched
      · rw [spawns, same, sound.named outcome status got]
        exact unspawned
    · exact moves.tail (.check spawn.worker)
  split
  next unsent =>
    obtain same | same : answer = busy ∨ answer = unavailable := by
      simpa [got] using sound.unsent (by simpa using unsent)
    all_goals
      subst same
      obtain ⟨active, idle⟩ := ends (by decide)
      obtain ⟨unlaunched, unspawned⟩ := inv.alone place active idle
      exact (handled.tail (.cancel spawn.worker unlaunched unspawned)).tail (.check spawn.worker)
  next sent =>
    split
    next refused =>
      obtain ⟨active, idle⟩ := ends (ne_unknown_of_refused refused)
      have isSent : spawn.sent = true := by simpa using sent
      have read : spawn.refusalRead = true := by simp [refusalRead, isSent, got, refused]
      apply reports _ (.single (.refuse place (.handled spawn) active idle (.inr read)))
      · exact (retireRefusedSpawn_fields _ _ _).1
      · exact (retireRefusedSpawn_fields _ _ _).2
    · exact reports _ handled rfl rfl

theorem returned_moves (inv : Inv s) (runStatus : Option RunStatus) :
    Moves s (.returned worker runStatus) s (s.returned worker runStatus) := by
  cases runStatus with
  | none => exact .single (.check worker)
  | some status =>
    refine .single (.report status ?_)
    rintro guard entry member same rfl (⟨unverifiable, live⟩ | ⟨live, unready⟩)
    · obtain ⟨unlaunched, settled⟩ := guard.1 unverifiable entry member same live
      constructor
      · intro launch inside sameRun
        exact absurd (sameRun.trans same) (unlaunched launch inside)
      · intro i spawn place sameRun
        exact settled spawn (mem_of_getElem? place) (sameRun.trans same)
    · constructor
      · intro launch _ _ host inside sameHost
        exact inv.core.closed_of_not_ready member unready inside sameHost
      · intro i spawn place sameRun
        rw [settled_iff]
        refine ⟨?_, guard.2 live unready spawn (mem_of_getElem? place) (sameRun.trans same)⟩
        by_contra held
        have isHeld : spawn.held = true := by simpa using held
        obtain ⟨other, otherInside, otherRun, otherWorker, _⟩ :=
          inv.core.held.spawned i spawn place (active_of_held isHeld)
        obtain rfl := inv.core.books.entries.eq_of_key otherInside member
          (congrArg RunRef.runId (otherRun.trans sameRun))
        obtain ⟨host, inside, sameHost, _⟩ := inv.core.books.hosts other member
        have ready := inv.core.held.ready i spawn place isHeld host inside (sameHost.trans otherWorker)
        rw [inv.core.closed_of_not_ready member unready inside sameHost] at ready
        cases ready

theorem step_moves (c : Composition) (inv : Inv s) (event : Event) : Moves s event s (step c s event) := by
  cases event with
  | addWorker _ session =>
    unfold step addWorker
    dsimp only
    split
    · exact .refl
    split
    · exact .refl
    next pool added =>
      obtain ⟨fresh, rfl⟩ := Books.add_some added
      exact .single (.seat session fresh)
  | ready worker => exact .single (.greet worker)
  | lost worker => exact .single (.lose worker id)
  | reserveRun run geometry granted registered =>
    unfold step
    dsimp only
    rcases reserveRun_cases inv c run geometry granted registered with same | ⟨_, _, _, placed, entered, same⟩
    · rw [same]
    · rw [same]
      exact .single (.reserve placed entered)
  | cancelRunReservation =>
    unfold step
    dsimp only
    split
    · exact .refl
    next launch => exact cancel_moves inv (not_not.mp launch)
  | spawn run worker composed admitted => exact spawn_moves inv run worker composed admitted
  | handed =>
    unfold step handed
    dsimp only
    split
    · exact .refl
    rename_i spawn place
    split
    · exact .refl
    next free =>
      have held : spawn.held = true ∧ spawn.sent = false := by simpa using free
      exact .single (.hand place held.1)
  | expired i => exact expired_moves s i
  | replied i result => exact replied_moves inv i result
  | continued i => exact continued_moves inv i
  | request =>
    unfold step request
    dsimp only
    split
    · exact .refl
    split
    · exact .refl
    · exact .single (.check _)
  | returned _ runStatus => exact returned_moves inv runStatus
  | exit worker run exitCode signal =>
    unfold step
    dsimp only
    split
    · exact .refl
    · exact .single (.exit worker run exitCode signal)
  | releaseOwnedCapacity run worker => exact .single (.release run worker rfl)
  | dispose => exact .single .dispose

end Steps

variable (c : Composition) (events : List Event)

theorem inv_run : Inv (run (step c) .new events) :=
  run_invariant Inv Inv.new (fun _ event inv => (step_moves c inv event).inv inv) events

theorem calm_run (guarded : Guarded steady (step c) .new events) :
    Calm (run (step c) .new events) := by
  have both : Inv (run (step c) .new events) ∧ Calm (run (step c) .new events) := by
    apply run_invariant_guarded (fun s => Inv s ∧ Calm s) ⟨Inv.new, Calm.new⟩ _ events guarded
    rintro s event guard ⟨inv, calm⟩
    have moves := step_moves c inv event
    exact ⟨moves.inv inv, moves.calm inv calm guard⟩
  exact both.2

theorem owning_run (keeps : ∀ event ∈ events, releases event = false) :
    Owning (run (step c) .new events) := by
  have both : Inv (run (step c) .new events) ∧ Owning (run (step c) .new events) := by
    apply run_invariant_of (fun s => Inv s ∧ Owning s) ⟨Inv.new, fun _ member => by cases member⟩ _ events keeps
    rintro s event kind ⟨inv, owning⟩
    have moves := step_moves c inv event
    exact ⟨moves.inv inv, moves.owning owning kind⟩
  exact both.2

/-! ### Agreement -/

/-- The registry, the placement map and the run sets of the workers name the same runs on the same workers. -/
structure Agrees : Prop where
  registered : ∀ run worker, (⟨run, worker⟩ : Placed) ∈ s.pool.placements ↔
    ∃ entry ∈ s.registry, entry.run = run ∧ entry.worker = worker ∧ entry.capacityOwned = true
  sets : ∀ host ∈ s.pool.workers, ∀ id,
    id ∈ host.runs ↔ ∃ placed ∈ s.pool.placements, placed.run.runId = id ∧ placed.worker = host.worker
  hosts : ∀ placed ∈ s.pool.placements, ∃ host ∈ s.pool.workers, host.worker = placed.worker

theorem Inv.agrees {s : LocalRuntime} (inv : Inv s) : Agrees s where
  registered := inv.core.books.placed
  sets := inv.core.books.sets
  hosts := fun _ inside => inv.core.books.host_of_placed inside

/-- In every run whose steps are all steady: the books agree, and name exactly the same runs unless capacity was given
back by proof of an exit; a reservation that fails changes nothing; a slot is freed before the exit only if the spawn
was not sent or was refused; no run is dropped as refused that was observed live or exited; and an exit is final. -/
theorem placement_agreement (c : Composition) (events : List Event) (guarded : Guarded steady (step c) .new events) :
    Agrees (run (step c) .new events) ∧
      ((∀ event ∈ events, releases event = false) → Owning (run (step c) .new events)) ∧
      (∀ run' geometry granted registered,
        ((run (step c) .new events).reserveRun c run' geometry granted registered).1 = none →
          ((run (step c) .new events).reserveRun c run' geometry granted registered).2 = run (step c) .new events) ∧
      Lawful slotLaw (run (step c) .new events).journal ∧ Lawful dropLaw (run (step c) .new events).journal ∧
      ∀ entry ∈ (run (step c) .new events).registry,
        .observed entry.run .exited ∈ story entry.run (run (step c) .new events).journal →
          entry.status.status = .exited := by
  have inv := inv_run c events
  refine ⟨inv.agrees, owning_run c events, ?_, inv.core.told.lawful, (calm_run c events guarded).lawful,
    inv.core.told.final⟩
  intro run' geometry granted registered failed
  exact reserveRun_none inv.core.books failed

/-- In every run: a run has at most one launch or spawn under way, of the worker it is registered with, which is ready
while the spawn is held; and no run of a worker whose session is closed is recorded live. -/
theorem one_spawn_under_way (c : Composition) (events : List Event) :
    let s := run (step c) .new events
    Held s.registry s.pool.workers s.launching s.spawns ∧ ∀ worker, QuietAt s worker :=
  ⟨(inv_run c events).core.held, (inv_run c events).quiet⟩

/-! ### A worker that contradicts itself -/

def sampleComposition : Composition := ⟨"server", "relay", 8, 8, 2, 4, 500, 200⟩
def sampleRun : RunRef := ⟨"server", "relay", "run-1"⟩
def sampleWorker : WorkerRef := ⟨"server", "relay", "worker-1", "incarnation-1"⟩
def sampleGeometry : Geometry := ⟨80, 24⟩
def sampleReport (status : RunPhase) : RunStatus := { fresh sampleRun sampleGeometry with status := status }

def sampleSpawned : List Event :=
  [.addWorker sampleWorker .ready true, .reserveRun sampleRun sampleGeometry true true,
    .spawn sampleRun sampleWorker true true, .handed 0]

def secondRun : RunRef := ⟨"server", "relay", "run-2"⟩

/-- One spawn is refused; the run of the next is reported live and exited. -/
def sampleRefused : List Event :=
  sampleSpawned ++ [.replied 0 busy, .continued 0, .reserveRun secondRun sampleGeometry true true,
    .spawn secondRun sampleWorker true true, .handed 1,
    .returned sampleWorker (some { sampleReport .live with run := secondRun }),
    .returned sampleWorker (some { sampleReport .exited with run := secondRun })]

theorem placement_agreement_refused :
    (run (step sampleComposition) .new sampleRefused).journal =
      [.reserved sampleRun, .sent sampleRun, .refused sampleRun, .dropped sampleRun, .freed sampleRun,
        .reserved secondRun, .sent secondRun, .observed secondRun .live, .observed secondRun .exited] ∧
      Guarded steady (step sampleComposition) .new sampleRefused ∧
      Lawful dropLaw (run (step sampleComposition) .new sampleRefused).journal := by
  have guarded : Guarded steady (step sampleComposition) .new sampleRefused := by decide +kernel
  exact ⟨by decide +kernel, guarded, (placement_agreement sampleComposition _ guarded).2.2.2.2.1⟩

/-- A status reply reports the run live. Then one chunk brings the refusal of its spawn and a frame that ends the
contact: the run is unverifiable when the refusal is handled, and it is dropped. -/
theorem live_run_dropped : (run (step sampleComposition) .new (sampleSpawned ++
        [.returned sampleWorker (some (sampleReport .live)), .replied 0 busy, .lost sampleWorker, .continued 0])).journal =
      [.reserved sampleRun, .sent sampleRun, .observed sampleRun .live, .refused sampleRun, .dropped sampleRun,
        .freed sampleRun] ∧ ¬Lawful dropLaw (run (step sampleComposition) .new (sampleSpawned ++
        [.returned sampleWorker (some (sampleReport .live)), .replied 0 busy, .lost sampleWorker,
          .continued 0])).journal := by
  have journal : (run (step sampleComposition) .new (sampleSpawned ++
        [.returned sampleWorker (some (sampleReport .live)), .replied 0 busy, .lost sampleWorker, .continued 0])).journal =
      [.reserved sampleRun, .sent sampleRun, .observed sampleRun .live, .refused sampleRun, .dropped sampleRun,
        .freed sampleRun] := by
    decide +kernel
  refine ⟨journal, ?_⟩
  rw [journal]
  intro lawful
  have law := lawful [.reserved sampleRun, .sent sampleRun, .observed sampleRun .live, .refused sampleRun]
    (.dropped sampleRun) [.freed sampleRun] rfl
  exact law.1 (by decide)

end Cove.Runtime.Placement
