import Cove.Base.Journal
import Cove.Base.Run
import Cove.Runtime.Placement

/-!
The registry, the placement map and the run sets of the workers agree in every run of the runtime. A slot is freed
early only for a spawn that was never sent or was refused, and an exit is final. A run that was reported live is not
dropped as refused as long as nothing overwrites that report before its spawn is settled.
-/

namespace Cove.Runtime.Placement
open Base Base.Run Base.Journal Protocol.Identity Protocol.Pipe Protocol.Terminal List Option Keyed Registry WorkerEntry

/-! ### The registry -/

variable {change : Entry → Entry}

namespace Registry

variable {entries entries' : Registry} {entry : Entry} {run : RunRef} {worker : WorkerRef}

theorem find_some (found : find entries run worker = some entry) :
    entry ∈ entries ∧ entry.run = run ∧ entry.worker = worker := by
  obtain ⟨got, same⟩ := filter_eq_some_iff.mp found
  rw [Bool.and_eq_true, sameRunRef_iff, sameWorkerRef_iff] at same
  exact ⟨get?_eq_some_mem got, same.1.symm, same.2.symm⟩

theorem find_of_mem (unique : Keyed.Unique Entry.key entries) (member : entry ∈ entries) :
    find entries entry.run entry.worker = some entry := by
  have got : get? Entry.key entries entry.run.runId = some entry := unique.get?_of_mem member
  unfold find
  rw [got]
  simp [sameRunRef, sameWorkerRef]

theorem cancelReservation_some (done : cancelReservation entries run worker = some entries') :
    ∃ entry ∈ entries, entry.run = run ∧ entry.worker = worker ∧ entry.dispatched = false ∧
      entries' = erase Entry.key entries run.runId := by
  unfold cancelReservation at done
  split at done
  · cases done
  rename_i entry found
  obtain ⟨member, sameRun, sameWorker⟩ := find_some found
  split at done
  · cases done
  next unsent =>
    exact ⟨entry, member, sameRun, sameWorker, by simpa using unsent, (some.inj done).symm⟩

theorem retireRefusedSpawn_some (done : retireRefusedSpawn entries run worker = some entries') :
    ∃ entry ∈ entries, entry.run = run ∧ entry.worker = worker ∧ entry.dispatched = true ∧
      entry.status.status = .unverifiable ∧ entries' = erase Entry.key entries run.runId := by
  unfold retireRefusedSpawn at done
  split at done
  · cases done
  rename_i entry found
  obtain ⟨member, sameRun, sameWorker⟩ := find_some found
  split at done
  · cases done
  rename_i refused
  simp only [Bool.or_eq_true, Bool.not_eq_true', decide_eq_true_eq, not_or, not_not,
    Bool.not_eq_false] at refused
  exact ⟨entry, member, sameRun, sameWorker, refused.1, refused.2, (some.inj done).symm⟩

structure Rewrite (change : Entry → Entry) : Prop where
  run : ∀ entry, (change entry).run = entry.run
  worker : ∀ entry, (change entry).worker = entry.worker
  owned : ∀ entry, (change entry).capacityOwned = entry.capacityOwned

theorem rewrite_set (rewrite : Rewrite change) (k : String) :
    Rewrite (fun entry => if entry.key = k then change entry else entry) where
  run entry := by split <;> simp [rewrite.run]
  worker entry := by split <;> simp [rewrite.worker]
  owned entry := by split <;> simp [rewrite.owned]

theorem rewrite_status (status : RunStatus) : Rewrite (fun entry => { entry with status := status }) :=
  ⟨fun _ => rfl, fun _ => rfl, fun _ => rfl⟩

theorem rewrite_dispatched : Rewrite (fun entry => { entry with dispatched := true }) :=
  ⟨fun _ => rfl, fun _ => rfl, fun _ => rfl⟩

theorem rewrite_lose (worker : WorkerRef) :
    Rewrite (fun entry => if sameWorkerRef entry.worker worker then lose entry else entry) where
  run entry := by unfold lose; repeat' split
                  all_goals rfl
  worker entry := by unfold lose; repeat' split
                     all_goals rfl
  owned entry := by unfold lose; repeat' split
                    all_goals rfl

end Registry

/-! ### The books of the registry and the pool -/

structure Books (registry : Registry) (pool : Pool) : Prop where
  entries : Keyed.Unique Entry.key registry
  placements : Keyed.Unique Placed.key pool.placements
  workers : Keyed.Unique WorkerEntry.worker pool.workers
  sets : ∀ host ∈ pool.workers, ∀ id,
    id ∈ host.runs ↔ ∃ placed ∈ pool.placements, placed.run.runId = id ∧ placed.worker = host.worker
  hosts : ∀ entry ∈ registry, ∃ host ∈ pool.workers, host.worker = entry.worker ∧ host.session ≠ .hello
  placed : ∀ run worker, (⟨run, worker⟩ : Placed) ∈ pool.placements ↔
    ∃ entry ∈ registry, entry.run = run ∧ entry.worker = worker ∧ entry.capacityOwned = true

variable {granted : Bool}

namespace Books

variable {registry : Registry} {pool : Pool} {entry : Entry}

theorem empty : Books [] ⟨[], []⟩ where
  entries := nodup_nil
  placements := nodup_nil
  workers := nodup_nil
  sets := by simp
  hosts := by simp
  placed := by simp

theorem rewrite (books : Books registry pool) (rewrite : Registry.Rewrite change) :
    Books (registry.map change) pool where
  entries := by
    have same : (registry.map change).map Entry.key = registry.map Entry.key := by
      simp [Entry.key, rewrite.run]
    unfold Keyed.Unique
    rw [same]
    exact books.entries
  placements := books.placements
  workers := books.workers
  sets := books.sets
  hosts := by
    intro entry member
    obtain ⟨old, inside, rfl⟩ := List.mem_map.mp member
    simpa [rewrite.worker] using books.hosts old inside
  placed := by
    intro run worker
    rw [books.placed run worker]
    simp [rewrite.run, rewrite.worker, rewrite.owned]

theorem set (books : Books registry pool) (rewrite : Registry.Rewrite change) (run : RunRef) :
    Books (set registry run change) pool :=
  books.rewrite (rewrite_set rewrite run.runId)

theorem placed_eq (books : Books registry pool) (member : entry ∈ registry) {placed : Placed}
    (inside : placed ∈ pool.placements) (same : placed.run.runId = entry.run.runId) :
    placed = ⟨entry.run, entry.worker⟩ ∧ entry.capacityOwned = true := by
  obtain ⟨other, otherInside, sameRun, sameWorker, owned⟩ := (books.placed placed.run placed.worker).mp inside
  have equal : other = entry :=
    books.entries.eq_of_key otherInside member (by rw [Entry.key, Entry.key, sameRun, same])
  subst equal
  rw [sameRun, sameWorker]
  exact ⟨rfl, owned⟩

theorem release_of_owned (books : Books registry pool) (member : entry ∈ registry) (owned : entry.capacityOwned = true) :
    pool.release entry.run entry.worker = some
      { workers := modify WorkerEntry.worker pool.workers entry.worker (Pool.deleteRun entry.run.runId)
        placements := erase Placed.key pool.placements entry.run.runId } := by
  have inside := (books.placed entry.run entry.worker).mpr ⟨entry, member, rfl, rfl, owned⟩
  have got : get? Placed.key pool.placements entry.run.runId = some ⟨entry.run, entry.worker⟩ :=
    books.placements.get?_of_mem inside
  simp [Pool.release, Pool.get, got, Option.filter, sameWorkerRef]

theorem release_of_not_owned (books : Books registry pool) (member : entry ∈ registry)
    (given : entry.capacityOwned = false) : pool.release entry.run entry.worker = none := by
  have missing : get? Placed.key pool.placements entry.run.runId = none := by
    apply eq_none_iff_forall_ne_some.mpr
    intro placed got
    have same : placed.key = entry.run.runId := get?_eq_some_key got
    have owned := (books.placed_eq member (get?_eq_some_mem got) same).2
    rw [given] at owned
    cases owned
  simp [Pool.release, Pool.get, missing]

def freed (pool : Pool) (entry : Entry) : Pool := (pool.release entry.run entry.worker).getD pool

section

variable (books : Books registry pool)
include books

theorem freed_placements (member : entry ∈ registry) :
    (freed pool entry).placements = erase Placed.key pool.placements entry.run.runId := by
  unfold freed
  cases owned : entry.capacityOwned with
  | true => rw [books.release_of_owned member owned]; rfl
  | false =>
    rw [books.release_of_not_owned member owned]
    symm
    apply filter_eq_self.mpr
    intro placed inside
    rw [decide_eq_true_eq]
    intro same
    have held := (books.placed_eq member inside same).2
    rw [owned] at held
    cases held

/-- The workers keep their sessions, and every set loses at most the run of the entry. -/
theorem freed_workers (member : entry ∈ registry) : (freed pool entry).workers =
      pool.workers.map (fun host => if host.worker = entry.worker then Pool.deleteRun entry.run.runId host else host) := by
  unfold freed
  cases owned : entry.capacityOwned with
  | true => rw [books.release_of_owned member owned]; rfl
  | false =>
    rw [books.release_of_not_owned member owned]
    show pool.workers = _
    conv_lhs => rw [← List.map_id pool.workers]
    apply map_congr_left
    intro host inside
    split
    next same =>
      have kept : host.runs.filter (· ≠ entry.run.runId) = host.runs := by
        apply filter_eq_self.mpr
        intro id named
        rw [decide_eq_true_eq]
        rintro rfl
        obtain ⟨placed, placedInside, sameId, _⟩ := (books.sets host inside _).mp named
        have held := (books.placed_eq member placedInside sameId).2
        rw [owned] at held
        cases held
      simp only [Pool.deleteRun, kept, id]
    next => rfl

theorem mem_freed_workers (member : entry ∈ registry) {host : WorkerEntry}
    (inside : host ∈ (freed pool entry).workers) :
    ∃ old ∈ pool.workers, host.worker = old.worker ∧ host.session = old.session ∧
      ∀ id, id ∈ host.runs ↔ id ∈ old.runs ∧ ¬(old.worker = entry.worker ∧ id = entry.run.runId) := by
  rw [books.freed_workers member] at inside
  obtain ⟨old, oldInside, rfl⟩ := List.mem_map.mp inside
  refine ⟨old, oldInside, ?_⟩
  split
  next same => simp [Pool.deleteRun, same]
  next other => simp [other]

theorem free (member : entry ∈ registry) {registry' : Registry} (unique : Keyed.Unique Entry.key registry')
    (kept : ∀ other ∈ registry', ∃ old ∈ registry, old.worker = other.worker) (owners : ∀ run worker,
      (∃ other ∈ registry', other.run = run ∧ other.worker = worker ∧ other.capacityOwned = true) ↔
        (∃ other ∈ registry, other.run = run ∧ other.worker = worker ∧ other.capacityOwned = true) ∧
          run.runId ≠ entry.run.runId) : Books registry' (freed pool entry) where
  entries := unique
  placements := by
    rw [books.freed_placements member]
    exact books.placements.erase _
  workers := by
    have same : (freed pool entry).workers.map worker = pool.workers.map worker := by
      rw [books.freed_workers member, List.map_map]
      apply map_congr_left
      intro host _
      simp only [Function.comp_apply]
      split <;> rfl
    unfold Keyed.Unique
    rw [same]
    exact books.workers
  sets := by
    intro host inside id
    obtain ⟨old, oldInside, sameWorker, _, runs⟩ := books.mem_freed_workers member inside
    rw [runs, books.sets old oldInside, books.freed_placements member]
    constructor
    · rintro ⟨⟨placed, placedInside, rfl, placedWorker⟩, notThis⟩
      refine ⟨placed, mem_erase_iff.mpr ⟨placedInside, ?_⟩, rfl, placedWorker.trans sameWorker.symm⟩
      intro sameId
      have equal := (books.placed_eq member placedInside sameId).1
      exact notThis ⟨by rw [← placedWorker, equal], sameId⟩
    · rintro ⟨placed, placedInside, rfl, placedWorker⟩
      obtain ⟨inPool, other⟩ := mem_erase_iff.mp placedInside
      exact ⟨⟨placed, inPool, rfl, placedWorker.trans sameWorker⟩, fun both => other both.2⟩
  hosts := by
    intro other inside
    obtain ⟨old, oldInside, sameWorker⟩ := kept other inside
    obtain ⟨host, hostInside, named, session⟩ := books.hosts old oldInside
    rw [books.freed_workers member]
    refine ⟨_, List.mem_map.mpr ⟨host, hostInside, rfl⟩, ?_, ?_⟩
    · split <;> exact named.trans sameWorker
    · split <;> exact session
  placed := by
    intro run worker
    rw [owners, books.freed_placements member, mem_erase_iff, books.placed]
    rfl

theorem erase (member : entry ∈ registry) : Books (erase Entry.key registry entry.run.runId) (freed pool entry) := by
  apply books.free member (books.entries.erase _)
  · intro other inside
    exact ⟨other, (mem_erase_iff.mp inside).1, rfl⟩
  · intro run worker
    constructor
    · rintro ⟨other, inside, rfl, rest⟩
      obtain ⟨old, different⟩ := mem_erase_iff.mp inside
      exact ⟨⟨other, old, rfl, rest⟩, different⟩
    · rintro ⟨⟨other, inside, rfl, rest⟩, different⟩
      exact ⟨other, mem_erase_iff.mpr ⟨inside, different⟩, rfl, rest⟩

theorem give (member : entry ∈ registry) :
    Books (Registry.set registry entry.run (fun entry => { entry with capacityOwned := false })) (freed pool entry) := by
  apply books.free member
  · exact books.entries.modify _ (fun _ same => same)
  · intro other inside
    rcases mem_modify _ inside with ⟨old, _⟩ | ⟨old, oldInside, _, rfl⟩
    · exact ⟨other, old, rfl⟩
    · exact ⟨old, oldInside, rfl⟩
  · intro run worker
    constructor
    · rintro ⟨other, inside, rfl, sameWorker, owned⟩
      rcases mem_modify _ inside with ⟨old, different⟩ | ⟨old, _, _, rfl⟩
      · exact ⟨⟨other, old, rfl, sameWorker, owned⟩, different⟩
      · cases owned
    · rintro ⟨⟨other, inside, rfl, rest⟩, different⟩
      exact ⟨other, mem_modify_of_ne _ inside different, rfl, rest⟩

theorem session (worker : WorkerRef) {change : Session → Session}
    (forward : ∀ session, session ≠ .hello → change session ≠ .hello) :
    Books registry (pool.setSession worker change) where
  entries := books.entries
  placements := books.placements
  workers := books.workers.modify _ (fun _ same => same)
  sets := by
    intro host inside id
    rcases mem_modify _ inside with ⟨old, _⟩ | ⟨old, oldInside, _, rfl⟩
    · exact books.sets host old id
    · exact books.sets old oldInside id
  hosts := by
    intro entry member
    obtain ⟨host, inside, named, session⟩ := books.hosts entry member
    by_cases this : host.worker = worker
    · subst this
      exact ⟨_, mem_modify_self _ inside, named, forward _ session⟩
    · exact ⟨host, mem_modify_of_ne _ inside this, named, session⟩
  placed := books.placed

theorem host_of_placed {placed : Placed} (inside : placed ∈ pool.placements) :
    ∃ host ∈ pool.workers, host.worker = placed.worker := by
  obtain ⟨entry, member, _, same, _⟩ := (books.placed placed.run placed.worker).mp inside
  obtain ⟨host, hostInside, named, _⟩ := books.hosts entry member
  exact ⟨host, hostInside, named.trans same⟩

end

theorem add_some {c : Composition} {worker : WorkerRef} {session : Session} {pool' : Pool}
    (added : pool.add c worker session granted = some pool') : (∀ host ∈ pool.workers, host.worker ≠ worker) ∧
      pool' = { pool with workers := pool.workers ++ [⟨worker, session, []⟩] } := by
  unfold Pool.add at added
  split at added
  · cases added
  rename_i room
  split at added
  · cases added
  simp only [Bool.or_eq_true, List.any_eq_true, beq_iff_eq, not_or, not_exists, not_and] at room
  refine ⟨?_, (some.inj added).symm⟩
  rintro host inside rfl
  exact room.2 host inside rfl

theorem addWorker (books : Books registry pool) {worker : WorkerRef} (session : Session)
    (fresh : ∀ host ∈ pool.workers, host.worker ≠ worker) :
    Books registry { pool with workers := pool.workers ++ [⟨worker, session, []⟩] } where
  entries := books.entries
  placements := books.placements
  workers := by
    apply books.workers.append
    intro member
    obtain ⟨host, inside, same⟩ := List.mem_map.mp member
    exact fresh host inside same
  sets := by
    intro host inside id
    rcases mem_snoc inside with old | rfl
    · exact books.sets host old id
    constructor
    · intro named
      cases named
    · rintro ⟨placed, placedInside, _, same⟩
      obtain ⟨other, otherInside, seated⟩ := books.host_of_placed placedInside
      exact absurd (seated.trans same) (fresh other otherInside)
  hosts := by
    intro entry member
    obtain ⟨host, inside, rest⟩ := books.hosts entry member
    exact ⟨host, mem_append_left _ inside, rest⟩
  placed := books.placed

end Books

/-! ### Reservations -/

namespace Pool

variable {c : Composition} {pool pool' : Pool} {run : RunRef} {worker : WorkerRef}

theorem select_mem (workers : List WorkerEntry) (selected : Option WorkerEntry) {chosen : WorkerEntry}
    (done : workers.foldl (prefer c run) selected = some chosen) :
    selected = some chosen ∨ chosen ∈ workers ∧ chosen.session = .ready := by
  induction workers generalizing selected with
  | nil => exact .inl done
  | cons host rest ih =>
    rcases ih (prefer c run selected host) done with now | ⟨inside, ready⟩
    · unfold prefer at now
      split at now
      · exact .inl now
      rename_i fits
      have ready : host.session = .ready := by
        by_contra other
        simp [other] at fits
      split at now
      · obtain rfl := some.inj now
        exact .inr ⟨mem_cons_self, ready⟩
      · split at now
        · obtain rfl := some.inj now
          exact .inr ⟨mem_cons_self, ready⟩
        · exact .inl now
    · exact .inr ⟨mem_cons_of_mem host inside, ready⟩

theorem reserve_some (done : pool.reserve c run = some (worker, pool')) :
    (∀ placed ∈ pool.placements, placed.run.runId ≠ run.runId) ∧
      (∃ host ∈ pool.workers, host.worker = worker ∧ host.session = .ready) ∧
      pool' = { workers := modify WorkerEntry.worker pool.workers worker (addRun run.runId)
                placements := pool.placements ++ [⟨run, worker⟩] } := by
  unfold reserve at done
  split at done
  · cases done
  rename_i room
  have missing : get? Placed.key pool.placements run.runId = none := by
    simp only [Bool.or_eq_true, not_or, Bool.not_eq_true, isSome_eq_false_iff, isNone_iff_eq_none]
      at room
    exact room.1
  split at done
  · cases done
  rename_i selected chosen
  obtain ⟨rfl, rfl⟩ := Prod.mk.inj (some.inj done)
  refine ⟨?_, ?_, rfl⟩
  · intro placed inside same
    exact get?_eq_none missing (List.mem_map.mpr ⟨placed, inside, same⟩)
  · rcases select_mem pool.workers none chosen with none | ⟨inside, ready⟩
    · cases none
    · exact ⟨selected, inside, rfl, ready⟩

end Pool

variable {geometry : Geometry}

namespace Books

variable {c : Composition} {registry registry' : Registry} {pool pool' : Pool} {run : RunRef} {worker : WorkerRef}

theorem release_reserved (books : Books registry pool) (done : pool.reserve c run = some (worker, pool')) :
    pool'.release run worker = some pool := by
  obtain ⟨fresh, ⟨host, hostInside, rfl, _⟩, rfl⟩ := Pool.reserve_some done
  have absent : ∀ other ∈ pool.workers, run.runId ∉ other.runs := by
    intro other inside named
    obtain ⟨placed, placedInside, same, _⟩ := (books.sets other inside run.runId).mp named
    exact fresh placed placedInside same
  have got : get? Placed.key (pool.placements ++ [⟨run, host.worker⟩]) run.runId = some ⟨run, host.worker⟩ := by
    have earlier : pool.placements.find? (fun placed => placed.key = run.runId) = none := by
      apply find?_eq_none.mpr
      intro placed inside
      rw [decide_eq_true_eq]
      exact fresh placed inside
    unfold Keyed.get?
    rw [find?_append, earlier]
    simp [Placed.key]
  have erased : Keyed.erase Placed.key (pool.placements ++ [⟨run, host.worker⟩]) run.runId = pool.placements := by
    have earlier : pool.placements.filter (fun placed => placed.key ≠ run.runId) = pool.placements := by
      apply filter_eq_self.mpr
      intro placed inside
      rw [decide_eq_true_eq]
      exact fresh placed inside
    unfold Keyed.erase
    rw [filter_append, earlier]
    simp [Placed.key]
  have restored : modify worker
      (modify worker pool.workers host.worker (Pool.addRun run.runId)) host.worker
      (Pool.deleteRun run.runId) = pool.workers := by
    unfold Keyed.modify
    rw [List.map_map]
    conv_rhs => rw [← List.map_id pool.workers]
    apply map_congr_left
    intro other inside
    by_cases same : other.worker = host.worker
    · have kept : other.runs.filter (· ≠ run.runId) = other.runs := by
        apply filter_eq_self.mpr
        intro id named
        rw [decide_eq_true_eq]
        rintro rfl
        exact absent other inside named
      simp only [Function.comp_apply, same, if_true, Pool.addRun, absent other inside, if_false, Pool.deleteRun,
        filter_append, kept]
      simp
      rw [← same]
    · simp [same]
  simp only [Pool.release, Pool.get, got, Option.filter, sameWorkerRef, beq_self_eq_true, Bool.and_self, if_true,
    Bool.not_true, Bool.false_eq_true, if_false, erased, restored]

theorem reserve_inv (done : reserve c registry run worker geometry granted = some registry') :
    (∀ entry ∈ registry, entry.run.runId ≠ run.runId) ∧
      registry' = registry ++ [⟨run, worker, fresh run geometry, true, false⟩] := by
  unfold reserve at done
  split at done
  · cases done
  rename_i room
  have missing : get? Entry.key registry run.runId = none := by
    simp only [Bool.or_eq_true, not_or, Bool.not_eq_true, isSome_eq_false_iff, isNone_iff_eq_none]
      at room
    exact room.1.2
  split at done
  · cases done
  split at done
  · cases done
  refine ⟨?_, (some.inj done).symm⟩
  intro entry inside same
  exact get?_eq_none missing (List.mem_map.mpr ⟨entry, inside, same⟩)

theorem reserve (books : Books registry pool) (placed : pool.reserve c run = some (worker, pool'))
    (entered : reserve c registry run worker geometry granted = some registry') : Books registry' pool' := by
  obtain ⟨fresh, ⟨host, hostInside, rfl, ready⟩, rfl⟩ := Pool.reserve_some placed
  obtain ⟨new, rfl⟩ := reserve_inv entered
  constructor
  case entries =>
    apply books.entries.append
    intro member
    obtain ⟨entry, inside, same⟩ := List.mem_map.mp member
    exact new entry inside same
  case placements =>
    apply books.placements.append
    intro member
    obtain ⟨other, inside, same⟩ := List.mem_map.mp member
    exact fresh other inside same
  case workers => exact books.workers.modify _ (fun _ same => same)
  case sets =>
    intro other inside id
    rcases mem_modify _ inside with ⟨old, different⟩ | ⟨old, oldInside, same, rfl⟩
    · rw [books.sets other old]
      constructor
      · rintro ⟨seat, seatInside, rest⟩
        exact ⟨seat, mem_append_left _ seatInside, rest⟩
      · rintro ⟨seat, seatInside, named, seated⟩
        rcases mem_snoc seatInside with earlier | rfl
        · exact ⟨seat, earlier, named, seated⟩
        · exact absurd seated.symm different
    · have added : id ∈ (Pool.addRun run.runId old).runs ↔ id ∈ old.runs ∨ id = run.runId := by
        unfold Pool.addRun
        split
        next known =>
          constructor
          · exact .inl
          · rintro (named | rfl)
            · exact named
            · exact known
        next => simp
      rw [added, books.sets old oldInside]
      constructor
      · rintro (⟨seat, seatInside, rest⟩ | rfl)
        · exact ⟨seat, mem_append_left _ seatInside, rest⟩
        · exact ⟨⟨run, host.worker⟩, by simp, rfl, same.symm⟩
      · rintro ⟨seat, seatInside, named, seated⟩
        rcases mem_snoc seatInside with earlier | rfl
        · exact .inl ⟨seat, earlier, named, seated⟩
        · exact .inr named.symm
  case hosts =>
    have seat : ∀ other ∈ pool.workers, ∃ next ∈ modify worker pool.workers host.worker
        (Pool.addRun run.runId), next.worker = other.worker ∧ next.session = other.session := by
      intro other inside
      exact ⟨_, List.mem_map.mpr ⟨other, inside, rfl⟩, by split <;> rfl, by split <;> rfl⟩
    intro entry member
    rcases mem_snoc member with earlier | rfl
    · obtain ⟨other, inside, named, session⟩ := books.hosts entry earlier
      obtain ⟨next, nextInside, sameWorker, sameSession⟩ := seat other inside
      exact ⟨next, nextInside, sameWorker.trans named, by rw [sameSession]; exact session⟩
    · obtain ⟨next, nextInside, sameWorker, sameSession⟩ := seat host hostInside
      exact ⟨next, nextInside, sameWorker, by rw [sameSession, ready]; decide⟩
  case placed =>
    intro other place
    rw [mem_append, books.placed]
    constructor
    · rintro (⟨entry, inside, rest⟩ | last)
      · exact ⟨entry, mem_append_left _ inside, rest⟩
      · obtain ⟨rfl, rfl⟩ := Placed.mk.inj (mem_singleton.mp last)
        exact ⟨_, mem_append_right _ (mem_singleton_self _), rfl, rfl, rfl⟩
    · rintro ⟨entry, inside, sameRun, sameWorker, owned⟩
      rcases mem_snoc inside with earlier | rfl
      · exact .inl ⟨entry, earlier, sameRun, sameWorker, owned⟩
      · subst sameRun sameWorker
        exact .inr (mem_singleton_self _)

end Books

theorem reserveRun_none {c : Composition} {s : LocalRuntime} (books : Books s.registry s.pool) {run : RunRef} {registered : Bool}
    (failed : (s.reserveRun c run geometry granted registered).1 = none) :
    (s.reserveRun c run geometry granted registered).2 = s := by
  unfold LocalRuntime.reserveRun at failed ⊢
  split
  · rfl
  rename_i admissible
  split
  · rfl
  rename_i worker pool placed
  have undone := books.release_reserved placed
  split
  next => simp [undone]
  rename_i registry entered
  split
  next =>
    obtain ⟨new, rfl⟩ := Books.reserve_inv entered
    have found : find (s.registry ++ [⟨run, worker, fresh run geometry, true, false⟩]) run
        worker = some ⟨run, worker, fresh run geometry, true, false⟩ := by
      have unique := (books.reserve placed entered).entries
      exact find_of_mem unique (mem_append_right _ (mem_singleton_self _))
    have cancelled : cancelReservation
        (s.registry ++ [⟨run, worker, fresh run geometry, true, false⟩]) run worker =
          some s.registry := by
      unfold cancelReservation
      rw [found]
      have kept : erase Entry.key s.registry run.runId = s.registry := by
        apply filter_eq_self.mpr
        intro entry inside
        rw [decide_eq_true_eq]
        exact new entry inside
      unfold erase at kept ⊢
      rw [filter_append, kept]
      simp [Entry.key]
    simp [undone, cancelled]
  next done =>
    rw [if_neg admissible, placed] at failed
    simp only [entered, if_neg done] at failed
    cases failed

/-! ### The story of a run -/

def tell (run : RunRef) (told : List Act) (act : Act) : List Act :=
  if act.run ≠ run then told else if act = .reserved run then [] else told ++ [act]

def story (run : RunRef) (journal : List Act) : List Act := journal.foldl (tell run) []

variable {act : Act}

theorem mem_story_append {run : RunRef} {journal : List Act} {other : Act} : other ∈ story run (journal ++ [act]) ↔
      act ≠ .reserved run ∧ (other ∈ story run journal ∨ act.run = run ∧ other = act) := by
  unfold story
  rw [foldl_append, foldl_cons, tell]
  split
  next elsewhere =>
    have different : act ≠ .reserved run := by
      rintro rfl
      exact elsewhere rfl
    simp [elsewhere, different]
  next here =>
    split
    next again => simp [again]
    next later => simp [later, not_not.mp here]

/-- A slot is freed before the exit only if the spawn was not sent or was refused, and what was cancelled is not sent
any more. -/
def slotLaw (before : List Act) : Act → Prop
  | .sent run => .cancelled run ∉ story run before
  | .freed run =>
    .sent run ∉ story run before ∨ .refused run ∈ story run before ∨ .observed run .exited ∈ story run before ∨
      .proved run ∈ story run before
  | _ => True

/-- No run is dropped as refused that was observed live or exited. -/
def dropLaw (before : List Act) : Act → Prop
  | .dropped run => .observed run .live ∉ story run before ∧ .observed run .exited ∉ story run before
  | _ => True

structure Told (registry : Registry) (journal : List Act) : Prop where
  dispatched : ∀ entry ∈ registry, entry.dispatched = true ↔ .sent entry.run ∈ story entry.run journal
  uncancelled : ∀ entry ∈ registry, .cancelled entry.run ∉ story entry.run journal
  final : ∀ entry ∈ registry, .observed entry.run .exited ∈ story entry.run journal → entry.status.status = .exited
  lawful : Lawful slotLaw journal

namespace Told

variable {registry registry' : Registry} {journal : List Act}

theorem empty (lawful : Lawful slotLaw journal) : Told [] journal where
  dispatched := by simp
  uncancelled := by simp
  final := by simp
  lawful := lawful

theorem rewrite (told : Told registry journal)
    (rewritten : ∀ entry ∈ registry', ∃ old ∈ registry, old.run = entry.run ∧ old.dispatched = entry.dispatched ∧
      (old.status.status = .exited → entry.status.status = .exited)) : Told registry' journal where
  dispatched := by
    intro entry member
    obtain ⟨old, inside, same, kept, _⟩ := rewritten entry member
    rw [← kept, ← same]
    exact told.dispatched old inside
  uncancelled := by
    intro entry member
    obtain ⟨old, inside, same, _⟩ := rewritten entry member
    rw [← same]
    exact told.uncancelled old inside
  final := by
    intro entry member
    obtain ⟨old, inside, same, _, exit⟩ := rewritten entry member
    rw [← same]
    exact fun seen => exit (told.final old inside seen)
  lawful := told.lawful

theorem note (told : Told registry journal) (lawful : slotLaw journal act) (later : ∀ run, act ≠ .reserved run)
    (rewritten : ∀ entry ∈ registry', ∃ old ∈ registry, old.run = entry.run ∧
      (entry.dispatched = true ↔ old.dispatched = true ∨ act = .sent entry.run) ∧ act ≠ .cancelled entry.run ∧
      (old.status.status = .exited ∨ act = .observed entry.run .exited → entry.status.status = .exited)) :
    Told registry' (journal ++ [act]) where
  dispatched := by
    intro entry member
    obtain ⟨old, inside, same, sent, _⟩ := rewritten entry member
    rw [mem_story_append, sent, told.dispatched old inside, same]
    constructor
    · rintro (earlier | rfl)
      · exact ⟨later _, .inl earlier⟩
      · exact ⟨later _, .inr ⟨rfl, rfl⟩⟩
    · rintro ⟨_, earlier | ⟨_, now⟩⟩
      · exact .inl earlier
      · exact .inr now.symm
  uncancelled := by
    intro entry member
    obtain ⟨old, inside, same, _, other, _⟩ := rewritten entry member
    rw [mem_story_append]
    rintro ⟨_, earlier | ⟨_, now⟩⟩
    · exact told.uncancelled old inside (same ▸ earlier)
    · exact other now.symm
  final := by
    intro entry member
    obtain ⟨old, inside, same, _, _, exit⟩ := rewritten entry member
    rw [mem_story_append]
    rintro ⟨_, earlier | ⟨_, now⟩⟩
    · exact exit (.inl (told.final old inside (same ▸ earlier)))
    · exact exit (.inr now.symm)
  lawful := told.lawful.append lawful

theorem observed (told : Told registry journal) {run : RunRef} {phase : RunPhase}
    (rewritten : ∀ entry ∈ registry', ∃ old ∈ registry, old.run = entry.run ∧ old.dispatched = entry.dispatched ∧
      (old.status.status = .exited ∨ run = entry.run ∧ phase = .exited → entry.status.status = .exited)) :
    Told registry' (journal ++ [.observed run phase]) := by
  have lawful : slotLaw journal (.observed run phase) := trivial
  apply told.note lawful (fun _ => by simp)
  intro entry member
  obtain ⟨old, inside, same, sent, exit⟩ := rewritten entry member
  exact ⟨old, inside, same, by simp [sent], by simp, by simpa using exit⟩

theorem remark (told : Told registry journal) (lawful : slotLaw journal act)
    (plain : ∀ run, act ≠ .reserved run ∧ act ≠ .sent run ∧ act ≠ .cancelled run ∧ act ≠ .observed run .exited) :
    Told registry (journal ++ [act]) := by
  apply told.note lawful (fun run => (plain run).1)
  intro entry member
  exact ⟨entry, member, rfl, by simp [(plain entry.run).2.1], (plain entry.run).2.2.1,
    by simp [(plain entry.run).2.2.2]⟩

theorem erase (told : Told registry journal) (lawful : slotLaw journal act) (later : ∀ run, act ≠ .reserved run) :
    Told (erase Entry.key registry act.run.runId) (journal ++ [act]) := by
  apply told.note lawful later
  intro entry member
  obtain ⟨inside, different⟩ := mem_erase_iff.mp member
  refine ⟨entry, inside, rfl, ?_, ?_, ?_⟩
  · have elsewhere : act ≠ .sent entry.run := by
      rintro rfl
      exact different rfl
    simp [elsewhere]
  · rintro rfl
    exact different rfl
  · rintro (exited | rfl)
    · exact exited
    · exact absurd rfl different

theorem reserve (told : Told registry journal) {run : RunRef} {worker : WorkerRef}
    (new : ∀ entry ∈ registry, entry.run.runId ≠ run.runId) :
    Told (registry ++ [⟨run, worker, fresh run geometry, true, false⟩]) (journal ++ [.reserved run]) := by
  have apart : ∀ entry ∈ registry, Act.reserved run ≠ .reserved entry.run := by
    intro entry member same
    have equal : run = entry.run := Act.reserved.inj same
    exact new entry member (by rw [equal])
  have kept : ∀ entry ∈ registry, ∀ act, act ∈ story entry.run (journal ++ [.reserved run]) ↔
      act ∈ story entry.run journal := by
    intro entry member act
    rw [mem_story_append]
    constructor
    · rintro ⟨_, earlier | ⟨same, _⟩⟩
      · exact earlier
      · exact absurd (congrArg Act.reserved same) (apart entry member)
    · exact fun earlier => ⟨apart entry member, .inl earlier⟩
  have begun : ∀ act, act ∉ story run (journal ++ [.reserved run]) := by
    intro act member
    exact (mem_story_append.mp member).1 rfl
  constructor
  case dispatched =>
    intro entry member
    rcases mem_snoc member with old | rfl
    · rw [kept entry old]
      exact told.dispatched entry old
    · simp [begun]
  case uncancelled =>
    intro entry member
    rcases mem_snoc member with old | rfl
    · rw [kept entry old]
      exact told.uncancelled entry old
    · exact begun _
  case final =>
    intro entry member
    rcases mem_snoc member with old | rfl
    · rw [kept entry old]
      exact told.final entry old
    · exact fun seen => absurd seen (begun _)
  case lawful => exact told.lawful.append trivial

end Told

end Cove.Runtime.Placement
