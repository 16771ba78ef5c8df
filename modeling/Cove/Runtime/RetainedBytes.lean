import Cove.Base.Keyed
import Cove.Worker.RetainedBytes

/-!
The runtime's account of the bytes it retains. A lease is for ordinary or for control use, and a buffer that several
holders share has one lease for all of them. Control capacity is part of the total, never additional memory.
-/

namespace Cove.Runtime.RetainedBytes
open Base.Keyed Base.Ledger Base.Run List Option
open Worker.RetainedBytes (isSafeInteger WorkerRetainedBytes)

structure BackingRecord where
  users : Int
  control : Bool
  lease : Nat

inductive Handle where
  | lease (index : Nat)
  | holder (backing record : Nat) (bytes : Int) (owned : Bool)

def Handle.holds (record : Nat) : Handle → Bool
  | .lease _ => false
  | .holder _ held _ owned => held == record && owned

structure RuntimeRetainedBytes where
  limit : Int
  controlReserve : Int
  total : Int
  ordinary : Int
  backings : List (Nat × Nat)
  leases : List (Entry Bool)
  records : List BackingRecord
  handles : List Handle

namespace RuntimeRetainedBytes

def new (limit controlReserve : Int) : Option RuntimeRetainedBytes :=
  if !isSafeInteger limit ∨ limit < 1 ∨ !isSafeInteger controlReserve ∨ controlReserve < 0 ∨ controlReserve > limit then
    none
  else
    some
      { limit := limit
        controlReserve := controlReserve
        total := 0
        ordinary := 0
        backings := []
        leases := []
        records := []
        handles := [] }

variable (account : RuntimeRetainedBytes)

def takeLease (bytes : Int) (control : Bool) : Option (RuntimeRetainedBytes × Nat) :=
  if !isSafeInteger bytes ∨ bytes < 0 ∨ bytes > account.limit - account.total ∨
      (control = false ∧ bytes > account.limit - account.controlReserve - account.ordinary) then none
  else
    some
      ({ account with
          total := account.total + bytes
          ordinary := if control then account.ordinary else account.ordinary + bytes
          leases := account.leases ++ [⟨control, bytes, true⟩] }, account.leases.length)

def releaseLease (lease : Nat) : RuntimeRetainedBytes :=
  match account.leases[lease]? with
  | none => account
  | some entry =>
    if !entry.live then account
    else
      { account with
        total := account.total - entry.weight
        ordinary := if entry.kind then account.ordinary else account.ordinary - entry.weight
        leases := account.leases.set lease { entry with live := false } }

def give (handle : Handle) : RuntimeRetainedBytes := { account with handles := account.handles ++ [handle] }

def reserve (bytes : Int) (control : Bool) : RuntimeRetainedBytes :=
  match account.takeLease bytes control with
  | none => account
  | some (taken, lease) => taken.give (.lease lease)

def hold (backing record : Nat) (known : BackingRecord) (byteLength : Int) : RuntimeRetainedBytes :=
  { account with records := account.records.set record { known with users := known.users + 1 } }.give
    (.holder backing record byteLength true)

def recordOf (backing : Nat) : Option (Nat × BackingRecord) :=
  (get? Prod.fst account.backings backing).bind (fun pair => account.records[pair.2]?.map (pair.2, ·))

def retainBacking (backing : Nat) (byteLength : Int) (control : Bool) : RuntimeRetainedBytes :=
  match account.recordOf backing with
  | some (record, known) =>
    if known.control && !control then account else account.hold backing record known byteLength
  | none =>
    match account.takeLease (byteLength + 256) control with
    | none => account
    | some (taken, lease) =>
      let known : BackingRecord := { users := 0, control := control, lease := lease }
      { taken with
        records := taken.records ++ [known]
        backings := taken.backings ++ [(backing, taken.records.length)] }.hold backing taken.records.length known
          byteLength

def releaseHolder (handle backing record : Nat) (known : BackingRecord) (bytes : Int) : RuntimeRetainedBytes :=
  let left :=
    { account with
      handles := account.handles.set handle (.holder backing record bytes false)
      records := account.records.set record { known with users := known.users - 1 } }
  if known.users - 1 = 0 then { left with backings := erase Prod.fst left.backings backing }.releaseLease known.lease
  else left

def release (handle : Nat) : RuntimeRetainedBytes :=
  match account.handles[handle]? with
  | none => account
  | some (.lease lease) => account.releaseLease lease
  | some (.holder backing record bytes owned) =>
    if !owned then account
    else
      match account.records[record]? with
      | none => account
      | some known => account.releaseHolder handle backing record known bytes

inductive Event where
  | reserve (bytes : Int) (control : Bool)
  | retainBacking (backing : Nat) (byteLength : Int) (control : Bool)
  | release (handle : Nat)

def step (account : RuntimeRetainedBytes) : Event → RuntimeRetainedBytes
  | .reserve bytes control => account.reserve bytes control
  | .retainBacking backing byteLength control => account.retainBacking backing byteLength control
  | .release handle => account.release handle

end RuntimeRetainedBytes

open RuntimeRetainedBytes

variable {a after : RuntimeRetainedBytes} {known : BackingRecord} {record backing lease : Nat}

/-! ### The totals -/

/-- The counters are the sums over the live leases, within the limits. -/
structure Exact (account : RuntimeRetainedBytes) : Prop where
  total : account.total = owed (fun _ => true) account.leases
  ordinary : account.ordinary = owed (fun control => !control) account.leases
  weights : ∀ entry ∈ account.leases, 0 ≤ entry.weight
  within : account.total ≤ account.limit
  share : account.ordinary ≤ account.limit - account.controlReserve

variable {bytes : Int}

theorem takeLease_exact (exact : Exact a) {control : Bool} (taken : a.takeLease bytes control = some (after, lease)) :
    Exact after ∧ lease = a.leases.length ∧ after.leases = a.leases ++ [⟨control, bytes, true⟩] ∧
      after = { a with total := after.total, ordinary := after.ordinary, leases := after.leases } := by
  unfold takeLease at taken
  split at taken
  · cases taken
  rename_i room
  simp only [not_or, not_and] at room
  cases taken
  refine ⟨⟨?_, ?_, ?_, ?_, ?_⟩, rfl, rfl, rfl⟩
  · simp [owed_open, exact.total]
  · cases control <;> simp [owed_open, exact.ordinary]
  · intro entry member
    rcases mem_snoc member with old | rfl
    · exact exact.weights entry old
    · show (0 : Int) ≤ bytes
      omega
  · show a.total + bytes ≤ a.limit
    omega
  · have share := exact.share
    cases control with
    | true => exact share
    | false =>
      have fits := room.2.2.2 rfl
      show a.ordinary + bytes ≤ a.limit - a.controlReserve
      omega

theorem Exact.releaseLease (exact : Exact a) (lease : Nat) : Exact (a.releaseLease lease) := by
  unfold RuntimeRetainedBytes.releaseLease
  split
  · exact exact
  rename_i entry got
  have weighs := exact.weights entry (mem_of_getElem? got)
  split
  · exact exact
  rename_i live
  have live : entry.live = true := by simpa using live
  have within := exact.within
  have share := exact.share
  refine ⟨?_, ?_, ?_, ?_, ?_⟩
  · simp [owed_close _ got live, exact.total]
  · have closed := owed_close (fun control => !control) got live
    rw [closed, ← exact.ordinary]
    cases entry.kind <;> simp
  · apply weigh_set exact.weights
    exact weighs
  · show a.total - entry.weight ≤ a.limit
    omega
  · show (if entry.kind = true then a.ordinary else a.ordinary - entry.weight) ≤
      a.limit - a.controlReserve
    split <;> omega

/-! ### The shared buffers -/

/-- A record has as many users as holders, and its buffer and its lease are kept while it has any. -/
structure Shared (account : RuntimeRetainedBytes) : Prop where
  unique : Unique Prod.fst account.backings
  mapped : ∀ backing record, (backing, record) ∈ account.backings → ∃ known, account.records[record]? = some known
  users : ∀ (record : Nat) (known : BackingRecord), account.records[record]? = some known →
    known.users = (account.handles.countP (Handle.holds record) : Int)
  alive : ∀ (record : Nat) (known : BackingRecord), account.records[record]? = some known →
    (0 < known.users ↔ ∃ backing, (backing, record) ∈ account.backings)
  paid : ∀ (record : Nat) (known : BackingRecord), account.records[record]? = some known →
    ∃ entry : Entry Bool, account.leases[known.lease]? = some entry ∧ (entry.live = true ↔ 0 < known.users)
  held : ∀ backing record bytes, Handle.holder backing record bytes true ∈ account.handles →
    (backing, record) ∈ account.backings
  single : ∀ first second record, (first, record) ∈ account.backings → (second, record) ∈ account.backings →
    first = second
  distinct : ∀ (first second : Nat) (known other : BackingRecord), account.records[first]? = some known →
    account.records[second]? = some other → known.lease = other.lease → first = second
  apart : ∀ (lease record : Nat) (known : BackingRecord), Handle.lease lease ∈ account.handles → account.records[record]? = some known →
    known.lease ≠ lease
  leased : ∀ lease, Handle.lease lease ∈ account.handles → lease < account.leases.length
  plain : ∀ (first second lease : Nat), account.handles[first]? = some (.lease lease) →
    account.handles[second]? = some (.lease lease) → first = second

theorem Shared.lease_lt (shared : Shared a) (found : a.records[record]? = some known) :
    known.lease < a.leases.length := by
  obtain ⟨entry, got, _⟩ := shared.paid record known found
  exact (List.getElem?_eq_some_iff.mp got).1

theorem Shared.reserve (shared : Shared a) {entry : Entry Bool} (same : after = { a with
      total := after.total
      ordinary := after.ordinary
      leases := a.leases ++ [entry]
      handles := a.handles ++ [.lease a.leases.length] }) : Shared after := by
  rw [same]
  refine { shared with users := ?_, paid := ?_, held := ?_, apart := ?_, leased := ?_, plain := ?_ }
  · intro record known found
    have counted := shared.users record known found
    simpa [Handle.holds] using counted
  · intro record known found
    obtain ⟨paid, got, live⟩ := shared.paid record known found
    refine ⟨paid, ?_, live⟩
    rw [getElem?_append_left (shared.lease_lt found)]
    exact got
  · intro backing record bytes member
    rcases mem_append.mp member with old | new
    · exact shared.held backing record bytes old
    · simp at new
  · intro lease record known member found
    rcases mem_append.mp member with old | new
    · exact shared.apart lease record known old found
    have own : lease = a.leases.length := by simpa using new
    have less := shared.lease_lt found
    omega
  · intro lease member
    rw [length_append, length_singleton]
    rcases mem_append.mp member with old | new
    · have less := shared.leased lease old
      omega
    · have own : lease = a.leases.length := by simpa using new
      omega
  · intro first second lease one two
    rcases getElem?_snoc one with ⟨_, oldFirst⟩ | ⟨rfl, ownFirst⟩ <;>
      rcases getElem?_snoc two with ⟨_, oldSecond⟩ | ⟨rfl, ownSecond⟩
    · exact shared.plain first second lease oldFirst oldSecond
    · cases ownSecond
      exact absurd (shared.leased _ (mem_of_getElem? oldFirst)) (Nat.lt_irrefl _)
    · cases ownFirst
      exact absurd (shared.leased _ (mem_of_getElem? oldSecond)) (Nat.lt_irrefl _)
    · rfl

variable {records : List BackingRecord}

theorem getElem?_users (found : records[record]? = some known) {users : Int} {other : Nat} {changed : BackingRecord}
    (got : (records.set record { known with users := users })[other]? = some changed) :
    other = record ∧ changed = { known with users := users } ∨ other ≠ record ∧ records[other]? = some changed := by
  by_cases same : other = record
  · subst same
    have bound := (List.getElem?_eq_some_iff.mp found).1
    rw [getElem?_set_self bound] at got
    exact .inl ⟨rfl, (some.inj got).symm⟩
  · rw [getElem?_set_ne (Ne.symm same)] at got
    exact .inr ⟨same, got⟩

variable {handles : List Handle}

/-- One record's users are counted anew, and with them its buffer and its lease. -/
theorem Shared.recount (shared : Shared a) (found : a.records[record]? = some known) {users : Int}
    {backings : List (Nat × Nat)} {leases : List (Entry Bool)}
    (counted : ∀ other, (handles.countP (Handle.holds other) : Int) =
      a.handles.countP (Handle.holds other) + if other = record then users - known.users else 0)
    (part : backings.Sublist a.backings)
    (others : ∀ backing other, other ≠ record → (backing, other) ∈ a.backings → (backing, other) ∈ backings)
    (alive : 0 < users ↔ ∃ backing, (backing, record) ∈ backings) (length : leases.length = a.leases.length)
    (paid : ∃ entry, leases[known.lease]? = some entry ∧ (entry.live = true ↔ 0 < users))
    (rest : ∀ lease ≠ known.lease, leases[lease]? = a.leases[lease]?)
    (held : ∀ backing record bytes, Handle.holder backing record bytes true ∈ handles → (backing, record) ∈ backings)
    (own : ∀ (index lease : Nat), handles[index]? = some (.lease lease) → a.handles[index]? = some (.lease lease))
    {total ordinary : Int} :
    Shared { a with
      total := total
      ordinary := ordinary
      records := a.records.set record { known with users := users }
      handles := handles
      backings := backings
      leases := leases } := by
  have listed (lease : Nat) (member : Handle.lease lease ∈ handles) : Handle.lease lease ∈ a.handles := by
    obtain ⟨index, got⟩ := mem_iff_getElem?.mp member
    exact mem_of_getElem? (own index lease got)
  constructor
  · exact shared.unique.sublist (part.map Prod.fst)
  · intro backing other member
    obtain ⟨owner, got⟩ := shared.mapped backing other (part.subset member)
    have bound := (List.getElem?_eq_some_iff.mp got).1
    exact ⟨_, getElem?_eq_getElem (by simpa using bound)⟩
  · intro other changed got
    rw [counted]
    rcases getElem?_users found got with ⟨rfl, rfl⟩ | ⟨differs, old⟩
    · have before := shared.users other known found
      simp only [if_true]
      omega
    · have before := shared.users other changed old
      simp [before, differs]
  · intro other changed got
    rcases getElem?_users found got with ⟨rfl, rfl⟩ | ⟨differs, old⟩
    · exact alive
    rw [shared.alive other changed old]
    constructor
    · rintro ⟨backing, member⟩
      exact ⟨backing, others backing other differs member⟩
    · rintro ⟨backing, member⟩
      exact ⟨backing, part.subset member⟩
  · intro other changed got
    rcases getElem?_users found got with ⟨rfl, rfl⟩ | ⟨differs, old⟩
    · exact paid
    obtain ⟨entry, at_, live⟩ := shared.paid other changed old
    refine ⟨entry, ?_, live⟩
    rw [rest]
    · exact at_
    · intro same
      exact differs (shared.distinct other record changed known old found same)
  · exact held
  · intro first second other one two
    exact shared.single first second other (part.subset one) (part.subset two)
  · intro first second one two gotFirst gotSecond
    rcases getElem?_users found gotFirst with ⟨rfl, rfl⟩ | ⟨_, oldFirst⟩ <;>
      rcases getElem?_users found gotSecond with ⟨rfl, rfl⟩ | ⟨_, oldSecond⟩
    · exact fun _ => rfl
    · exact shared.distinct first second known two found oldSecond
    · exact shared.distinct first second one known oldFirst found
    · exact shared.distinct first second one two oldFirst oldSecond
  · intro lease other changed member got
    rcases getElem?_users found got with ⟨rfl, rfl⟩ | ⟨_, old⟩
    · exact shared.apart lease other known (listed lease member) found
    · exact shared.apart lease other changed (listed lease member) old
  · intro lease member
    rw [length]
    exact shared.leased lease (listed lease member)
  · exact fun first second lease one two => shared.plain first second lease (own first lease one) (own second lease two)

theorem Shared.hold (shared : Shared a) (found : a.records[record]? = some known)
    (mapped : (backing, record) ∈ a.backings) (byteLength : Int) : Shared (a.hold backing record known byteLength) := by
  have positive : 0 < known.users := (shared.alive record known found).mpr ⟨backing, mapped⟩
  have more : 0 < known.users + 1 := by omega
  obtain ⟨entry, paid, live⟩ := shared.paid record known found
  apply shared.recount found
  · intro other
    by_cases same : other = record
    · simp [Handle.holds, same]
    · simp [Handle.holds, same, Ne.symm same]
  · exact List.Sublist.refl _
  · exact fun _ _ _ member => member
  · exact ⟨fun _ => ⟨backing, mapped⟩, fun _ => more⟩
  · rfl
  · exact ⟨entry, paid, fun _ => more, fun _ => live.mpr positive⟩
  · exact fun _ _ => rfl
  · intro other index bytes member
    rcases mem_snoc member with old | ⟨rfl, rfl, _⟩
    · exact shared.held other index bytes old
    · exact mapped
  · exact fun index lease got => (getElem?_snoc got).elim (fun old => old.2) fun own => by cases own.2

theorem Shared.fresh (shared : Shared a) (unknown : backing ∉ a.backings.map Prod.fst) {entry : Entry Bool}
    (live : entry.live = true) {byteLength : Int} {control : Bool} (same : after = { a with
      total := after.total
      ordinary := after.ordinary
      leases := a.leases ++ [entry]
      records := a.records ++ [{ users := 1, control := control, lease := a.leases.length }]
      backings := a.backings ++ [(backing, a.records.length)]
      handles := a.handles ++ [.holder backing a.records.length byteLength true] }) : Shared after := by
  have unmapped : ∀ other, (other, a.records.length) ∉ a.backings := by
    intro other member
    obtain ⟨owner, got⟩ := shared.mapped other _ member
    simp at got
  have unheld : a.handles.countP (Handle.holds a.records.length) = 0 := by
    rw [countP_eq_zero]
    intro handle member holds
    cases handle with
    | lease => simp [Handle.holds] at holds
    | holder other _ bytes =>
      simp only [Handle.holds, Bool.and_eq_true, beq_iff_eq] at holds
      obtain ⟨rfl, rfl⟩ := holds
      exact unmapped other (shared.held other _ bytes member)
  rw [same]
  constructor
  · exact shared.unique.append unknown
  · intro other index member
    rcases mem_snoc member with old | ⟨rfl, rfl⟩
    · obtain ⟨owner, got⟩ := shared.mapped other index old
      exact ⟨owner, by rw [getElem?_append_left (List.getElem?_eq_some_iff.mp got).1]; exact got⟩
    · exact ⟨_, getElem?_concat_length⟩
  · intro index changed found
    rcases getElem?_snoc found with ⟨less, old⟩ | ⟨rfl, rfl⟩
    · have counted := shared.users index changed old
      have differs : a.records.length ≠ index := by omega
      simpa [Handle.holds, differs] using counted
    · simp [Handle.holds, unheld]
  · intro index changed found
    rcases getElem?_snoc found with ⟨less, old⟩ | ⟨rfl, rfl⟩
    · rw [shared.alive index changed old]
      constructor
      · rintro ⟨owner, member⟩
        exact ⟨owner, mem_append_left _ member⟩
      · rintro ⟨owner, member⟩
        rcases mem_snoc member with inside | ⟨rfl, rfl⟩
        · exact ⟨owner, inside⟩
        · omega
    · exact ⟨fun _ => ⟨backing, by simp⟩, fun _ => Int.one_pos⟩
  · intro index changed found
    rcases getElem?_snoc found with ⟨less, old⟩ | ⟨rfl, rfl⟩
    · obtain ⟨paid, got, alive⟩ := shared.paid index changed old
      refine ⟨paid, ?_, alive⟩
      rw [getElem?_append_left (shared.lease_lt old)]
      exact got
    · exact ⟨entry, getElem?_concat_length, fun _ => Int.one_pos, fun _ => live⟩
  · intro other index bytes member
    rcases mem_snoc member with old | ⟨rfl, rfl, _⟩
    · exact mem_append_left _ (shared.held other index bytes old)
    · simp
  · intro first second index one two
    rcases mem_snoc one with oldFirst | ⟨rfl, rfl⟩ <;> rcases mem_snoc two with oldSecond | ⟨rfl, rfl⟩
    · exact shared.single first second index oldFirst oldSecond
    · exact absurd oldFirst (unmapped first)
    · exact absurd oldSecond (unmapped second)
    · rfl
  · intro first second one two foundFirst foundSecond pays
    rcases getElem?_snoc foundFirst with ⟨_, oldFirst⟩ | ⟨rfl, rfl⟩ <;>
      rcases getElem?_snoc foundSecond with ⟨_, oldSecond⟩ | ⟨rfl, rfl⟩
    · exact shared.distinct first second one two oldFirst oldSecond pays
    · have less := shared.lease_lt oldFirst
      simp only at pays
      omega
    · have less := shared.lease_lt oldSecond
      simp only at pays
      omega
    · rfl
  · intro own index changed member found
    have listed : Handle.lease own ∈ a.handles := by simpa using member
    rcases getElem?_snoc found with ⟨_, old⟩ | ⟨rfl, rfl⟩
    · exact shared.apart own index changed listed old
    have less := shared.leased own listed
    show a.leases.length ≠ own
    omega
  · intro own member
    have less := shared.leased own (by simpa using member)
    rw [length_append, length_singleton]
    omega
  · have old (index lease : Nat) (got : (a.handles ++ [.holder backing a.records.length byteLength true])[index]? =
        some (.lease lease)) : a.handles[index]? = some (.lease lease) :=
      (getElem?_snoc got).elim (fun old => old.2) fun own => by cases own.2
    exact fun first second lease one two => shared.plain first second lease (old first lease one) (old second lease two)

theorem Shared.releaseLease (shared : Shared a)
    (own : ∀ (record : Nat) (known : BackingRecord), a.records[record]? = some known → known.lease ≠ lease) :
    Shared (a.releaseLease lease) := by
  unfold RuntimeRetainedBytes.releaseLease
  split
  · exact shared
  split
  · exact shared
  refine { shared with paid := ?_, leased := ?_ }
  · intro record known found
    obtain ⟨paid, got, live⟩ := shared.paid record known found
    refine ⟨paid, ?_, live⟩
    rw [getElem?_set_ne (Ne.symm (own record known found))]
    exact got
  · intro other member
    rw [length_set]
    exact shared.leased other member

section ReleaseHolder
variable {handle : Nat} {bytes : Int}

theorem countP_let_go (got : handles[handle]? = some (.holder backing record bytes true)) (other : Nat) :
    (((handles.set handle (.holder backing record bytes false)).countP (Handle.holds other) : Nat) : Int) =
      handles.countP (Handle.holds other) - if other = record then 1 else 0 := by
  obtain ⟨bound, at_⟩ := List.getElem?_eq_some_iff.mp got
  rw [countP_set bound, at_]
  by_cases same : other = record
  · have some : 0 < handles.countP (Handle.holds other) := by
      rw [countP_pos_iff]
      exact ⟨_, mem_of_getElem? got, by simp [Handle.holds, same]⟩
    simp only [Handle.holds, same, BEq.rfl, Bool.and_self, if_true, Bool.and_false, Bool.false_eq_true, if_false] at some ⊢
    omega
  · simp [Handle.holds, same, Ne.symm same]

theorem mem_let_go {other : Handle} (member : other ∈ handles.set handle (.holder backing record bytes false)) :
    other ∈ handles ∨ other = .holder backing record bytes false :=
  mem_or_eq_of_mem_set member

theorem countP_letGo (got : a.handles[handle]? = some (.holder backing record bytes true)) (held : Nat) :
    ((a.handles.set handle (.holder backing record bytes false)).countP (Handle.holds held) : Int) =
      a.handles.countP (Handle.holds held) + if held = record then known.users - 1 - known.users else 0 := by
  rw [countP_let_go got]
  split <;> omega

theorem Shared.releaseHolder (shared : Shared a) (got : a.handles[handle]? = some (.holder backing record bytes true))
    (found : a.records[record]? = some known) : Shared (a.releaseHolder handle backing record known bytes) := by
  have mapped := shared.held backing record bytes (mem_of_getElem? got)
  have positive : 0 < known.users := (shared.alive record known found).mpr ⟨backing, mapped⟩
  have counted := shared.users record known found
  obtain ⟨entry, paid, live⟩ := shared.paid record known found
  have alive := live.mpr positive
  have own : ∀ (index lease : Nat), (a.handles.set handle (.holder backing record bytes false))[index]? =
      some (.lease lease) → a.handles[index]? = some (.lease lease) := by
    intro index lease found
    rw [getElem?_set] at found
    split_ifs at found <;> simp_all
  simp only [RuntimeRetainedBytes.releaseHolder]
  split
  · rename_i last
    -- Every other holder of the buffer would be counted by its record.
    have none : ((a.handles.set handle (.holder backing record bytes false)).countP (Handle.holds record)) = 0 := by
      have left := countP_let_go got record
      omega
    simp only [RuntimeRetainedBytes.releaseLease, paid, alive, Bool.not_true]
    apply shared.recount found
    · exact countP_letGo got
    · exact filter_sublist
    · intro other index differs member
      rw [erase, List.mem_filter]
      refine ⟨member, ?_⟩
      simp only [ne_eq, decide_eq_true_eq]
      rintro rfl
      have same := shared.unique.get?_of_mem member
      rw [shared.unique.get?_of_mem mapped] at same
      exact differs (congrArg Prod.snd (some.inj same)).symm
    · constructor
      · omega
      · rintro ⟨other, member⟩
        have inside := mem_erase member
        exact absurd (shared.single other backing record inside.1 mapped) inside.2
    · rw [length_set]
    · refine ⟨{ entry with live := false }, ?_, ?_⟩
      · rw [getElem?_set_self (List.getElem?_eq_some_iff.mp paid).1]
      · simp [last]
    · intro lease differs
      rw [getElem?_set_ne (Ne.symm differs)]
    · intro other index size member
      have old : Handle.holder other index size true ∈ a.handles := by simpa using mem_let_go member
      rw [erase, List.mem_filter]
      refine ⟨shared.held other index size old, ?_⟩
      simp only [ne_eq, decide_eq_true_eq]
      rintro rfl
      have same := shared.unique.get?_of_mem (shared.held other index size old)
      rw [shared.unique.get?_of_mem mapped] at same
      cases congrArg Prod.snd (some.inj same)
      exact countP_eq_zero.mp none _ member (by simp [Handle.holds])
    · exact own
  · rename_i more
    have left : 0 < known.users - 1 := by omega
    apply shared.recount found
    · exact countP_letGo got
    · exact List.Sublist.refl _
    · exact fun _ _ _ member => member
    · exact ⟨fun _ => ⟨backing, mapped⟩, fun _ => left⟩
    · rfl
    · exact ⟨entry, paid, fun _ => left, fun _ => alive⟩
    · exact fun _ _ => rfl
    · intro other index size member
      have old : Handle.holder other index size true ∈ a.handles := by simpa using mem_let_go member
      exact shared.held other index size old
    · exact own

end ReleaseHolder

/-! ### Runs -/

structure Kept (limit controlReserve : Int) (account : RuntimeRetainedBytes) : Prop where
  limit : account.limit = limit
  reserve : account.controlReserve = controlReserve
  exact : Exact account
  shared : Shared account

variable {limit controlReserve : Int}

theorem Kept.of_new (made : RuntimeRetainedBytes.new limit controlReserve = some a) : Kept limit controlReserve a := by
  unfold RuntimeRetainedBytes.new at made
  split at made
  · cases made
  cases made
  refine ⟨rfl, rfl, ⟨rfl, rfl, by simp, ?_, ?_⟩, ?_⟩
  · show (0 : Int) ≤ limit
    omega
  · show (0 : Int) ≤ limit - controlReserve
    omega
  · refine ⟨nodup_nil, ?_, ?_, ?_, ?_, ?_, ?_, ?_, ?_, ?_, ?_⟩ <;> simp

theorem releaseLease_limits (a : RuntimeRetainedBytes) (lease : Nat) : (a.releaseLease lease).limit = a.limit ∧
      (a.releaseLease lease).controlReserve = a.controlReserve := by
  unfold RuntimeRetainedBytes.releaseLease
  split
  · exact ⟨rfl, rfl⟩
  split <;> exact ⟨rfl, rfl⟩

theorem Kept.reserve_keeps (kept : Kept limit controlReserve a) (bytes : Int) (control : Bool) :
    Kept limit controlReserve (a.reserve bytes control) := by
  unfold RuntimeRetainedBytes.reserve
  split
  · exact kept
  rename_i taken lease took
  obtain ⟨exact, rfl, leases, same⟩ := takeLease_exact kept.exact took
  have given : (taken.give (.lease a.leases.length)) = { a with
      total := taken.total
      ordinary := taken.ordinary
      leases := a.leases ++ [⟨control, bytes, true⟩]
      handles := a.handles ++ [.lease a.leases.length] } := by
    rw [same, leases]
    rfl
  refine ⟨?_, ?_, ?_, kept.shared.reserve given⟩
  · rw [given]
    exact kept.limit
  · rw [given]
    exact kept.reserve
  · exact { exact with }

theorem recordOf_some (recorded : a.recordOf backing = some (record, known)) :
    (backing, record) ∈ a.backings ∧ a.records[record]? = some known := by
  simp only [recordOf, bind_eq_some_iff, map_eq_some_iff] at recorded
  obtain ⟨⟨key, index⟩, got, owner, found, same⟩ := recorded
  cases same
  have named : key = backing := get?_eq_some_key got
  subst named
  exact ⟨get?_eq_some_mem got, found⟩

theorem recordOf_none (shared : Shared a) (unknown : a.recordOf backing = none) :
    backing ∉ a.backings.map Prod.fst := by
  cases got : get? Prod.fst a.backings backing with
  | none => exact get?_eq_none got
  | some pair =>
    obtain ⟨owner, found⟩ := shared.mapped pair.1 pair.2 (get?_eq_some_mem got)
    simp [recordOf, got, found] at unknown

section

variable (kept : Kept limit controlReserve a)
include kept

theorem Kept.retainBacking (backing : Nat) (byteLength : Int)
    (control : Bool) : Kept limit controlReserve (a.retainBacking backing byteLength control) := by
  unfold RuntimeRetainedBytes.retainBacking
  split
  · rename_i record known recorded
    obtain ⟨mapped, found⟩ := recordOf_some recorded
    split
    · exact kept
    · exact ⟨kept.limit, kept.reserve, { kept.exact with },
        kept.shared.hold found mapped byteLength⟩
  · rename_i unknown
    split
    · exact kept
    rename_i taken lease took
    obtain ⟨exact, rfl, leases, same⟩ := takeLease_exact kept.exact took
    generalize given : RuntimeRetainedBytes.hold _ _ _ _ _ = after
    have held : after = { a with
        total := after.total
        ordinary := after.ordinary
        leases := a.leases ++ [⟨control, byteLength + 256, true⟩]
        records := a.records ++ [{ users := 1, control := control, lease := a.leases.length }]
        backings := a.backings ++ [(backing, a.records.length)]
        handles := a.handles ++ [.holder backing a.records.length byteLength true] } := by
      rw [← given, same, leases]
      simp [RuntimeRetainedBytes.hold, give]
    refine ⟨?_, ?_, ?_, kept.shared.fresh (recordOf_none kept.shared unknown) rfl held⟩
    · rw [held]
      exact kept.limit
    · rw [held]
      exact kept.reserve
    · rw [← given]
      exact { exact with }

theorem Kept.release (handle : Nat) : Kept limit controlReserve (a.release handle) := by
  unfold RuntimeRetainedBytes.release
  split
  · exact kept
  · rename_i lease got
    obtain ⟨same, reserve⟩ := releaseLease_limits a lease
    refine ⟨same.trans kept.limit, reserve.trans kept.reserve, kept.exact.releaseLease lease, ?_⟩
    apply kept.shared.releaseLease
    intro record known found
    exact kept.shared.apart lease record known (mem_of_getElem? got) found
  · rename_i backing record bytes owned got
    split
    · exact kept
    rename_i held
    have held : owned = true := by simpa using held
    subst held
    split
    · exact kept
    rename_i known found
    have shared := kept.shared.releaseHolder got found
    simp only [RuntimeRetainedBytes.releaseHolder] at shared ⊢
    split
    · rename_i last
      rw [if_pos last] at shared
      obtain ⟨same, reserve⟩ := releaseLease_limits
        { a with
          handles := a.handles.set handle (.holder backing record bytes false)
          records := a.records.set record { known with users := known.users - 1 }
          backings := erase Prod.fst a.backings backing } known.lease
      refine ⟨same.trans kept.limit, reserve.trans kept.reserve, ?_, shared⟩
      exact ({ kept.exact with } : Exact
        { a with
          handles := a.handles.set handle (.holder backing record bytes false)
          records := a.records.set record { known with users := known.users - 1 }
          backings := erase Prod.fst a.backings backing }).releaseLease known.lease
    · rename_i more
      rw [if_neg more] at shared
      exact ⟨kept.limit, kept.reserve, { kept.exact with }, shared⟩

theorem Kept.step (event : Event) : Kept limit controlReserve (step a event) := by
  cases event with
  | reserve bytes control => exact kept.reserve_keeps bytes control
  | retainBacking backing byteLength control => exact kept.retainBacking backing byteLength control
  | release handle => exact kept.release handle

end

theorem kept_run (made : RuntimeRetainedBytes.new limit controlReserve = some a) (events : List Event) :
    Kept limit controlReserve (run RuntimeRetainedBytes.step a events) :=
  run_invariant (Kept limit controlReserve) (Kept.of_new made) (fun _ event kept => kept.step event) events

/-! ### What the callers have -/

/-- The bytes of a handle, and whether they are still its owner's. -/
def use (account : RuntimeRetainedBytes) : Handle → Int × Bool
  | .lease index => (account.leases[index]?.map fun entry => (entry.weight, entry.live)).getD (0, false)
  | .holder _ _ bytes owned => (bytes, owned)

def uses (account : RuntimeRetainedBytes) : List (Int × Bool) := account.handles.map (use account)

def charges (account : RuntimeRetainedBytes) : List (Bool × Int) := account.leases.map fun entry => (entry.kind, entry.weight)

/-- What a call gives its caller or takes from it. Bytes once charged are only ever released, by their own caller. -/
def Posted (a b : RuntimeRetainedBytes) : Event → Prop
  | .reserve bytes control => b = a ∨ uses b = uses a ++ [(bytes, true)] ∧ b.leases = a.leases ++ [⟨control, bytes, true⟩]
  | .retainBacking backing byteLength control => b = a ∨ uses b = uses a ++ [(byteLength, true)] ∧
    b.leases = a.leases ++ if (a.recordOf backing).isSome then [] else [⟨control, byteLength + 256, true⟩]
  | .release handle => uses b = (uses a).modify handle (fun use => (use.1, false)) ∧ charges b = charges a

theorem uses_append (shared : Shared a) {entry : Entry Bool} {handle : Handle} {given : Int × Bool}
    (leases : after.leases = a.leases ++ [entry]) (handles : after.handles = a.handles ++ [handle])
    (gives : use after handle = given) : uses after = uses a ++ [given] := by
  rw [uses, handles, map_append, map_singleton, uses, gives]
  congr 1
  refine map_congr_left fun other member => ?_
  cases other with
  | holder => rfl
  | lease index => rw [use, use, leases, getElem?_append_left (shared.leased index member)]

def Entry.ended (entry : Entry Bool) : Entry Bool := { entry with live := false }

theorem releaseLease_leases (a : RuntimeRetainedBytes) (lease : Nat) :
    (a.releaseLease lease).leases = a.leases.modify lease Entry.ended := by
  unfold releaseLease
  split
  next missing => exact (modify_same fun _ got => by simp [missing] at got).symm
  next entry got =>
    split
    next dead =>
      refine (modify_same fun old same => ?_).symm
      obtain rfl := some.inj (got.symm.trans same)
      cases entry
      simpa [Entry.ended] using dead
    next =>
      rw [modify_of_some got]
      rfl

theorem releaseLease_handles (a : RuntimeRetainedBytes) (lease : Nat) : (a.releaseLease lease).handles = a.handles := by
  unfold releaseLease
  split
  · rfl
  split <;> rfl

def Handle.letGo : Handle → Handle
  | .lease index => .lease index
  | .holder backing record bytes _ => .holder backing record bytes false

/-- A release ends the lease of its own handle, or one that no handle has. -/
theorem uses_release {handle : Nat} (handles : after.handles = a.handles.modify handle Handle.letGo)
    (leases : after.leases = a.leases.modify lease Entry.ended)
    (own : ∀ index, a.handles[handle]? = some (.lease index) → index = lease)
    (others : ∀ other, other ≠ handle → a.handles[other]? ≠ some (.lease lease)) :
    uses after = (uses a).modify handle (fun use => (use.1, false)) ∧ charges after = charges a := by
  constructor
  · refine ext_getElem? fun index => ?_
    rw [uses, uses, handles, getElem?_map, getElem?_modify, getElem?_modify, getElem?_map]
    cases got : a.handles[index]? with
    | none => simp
    | some found =>
      cases found with
      | holder => split <;> simp [Handle.letGo, use]
      | lease named =>
        by_cases here : handle = index
        · subst here
          obtain rfl := own named got
          cases held : a.leases[named]? <;> simp [Handle.letGo, use, leases, held, Entry.ended]
        · have apart : lease ≠ named := by
            rintro rfl
            exact others index (Ne.symm here) got
          simp [use, leases, here, apart]
  · refine ext_getElem? fun index => ?_
    rw [charges, charges, leases, getElem?_map, getElem?_modify, getElem?_map]
    split <;> cases a.leases[index]? <;> rfl

theorem Kept.posts (kept : Kept limit controlReserve a) (event : Event) :
    Posted a (RuntimeRetainedBytes.step a event) event := by
  cases event with
  | reserve bytes control =>
    simp only [RuntimeRetainedBytes.step, RuntimeRetainedBytes.reserve]
    split
    next => exact .inl rfl
    next taken lease took =>
      obtain ⟨_, rfl, leases, same⟩ := takeLease_exact kept.exact took
      have handles : taken.handles = a.handles := by rw [same]
      refine .inr ⟨?_, leases⟩
      apply uses_append kept.shared
      · exact leases
      · exact congrArg (· ++ [Handle.lease a.leases.length]) handles
      · simp [use, give, leases]
  | retainBacking backing byteLength control =>
    simp only [Posted, RuntimeRetainedBytes.step, RuntimeRetainedBytes.retainBacking]
    cases recorded : a.recordOf backing with
    | some found =>
      dsimp only
      split
      next => exact .inl rfl
      next => exact .inr ⟨map_append, (append_nil _).symm⟩
    | none =>
      dsimp only
      split
      next => exact .inl rfl
      next taken lease took =>
        obtain ⟨_, rfl, leases, same⟩ := takeLease_exact kept.exact took
        have handles : taken.handles = a.handles := by rw [same]
        refine .inr ⟨?_, leases⟩
        apply uses_append kept.shared
        · exact leases
        · exact congrArg (· ++ [Handle.holder backing taken.records.length byteLength true]) handles
        · rfl
  | release handle =>
    simp only [Posted, RuntimeRetainedBytes.step, RuntimeRetainedBytes.release]
    -- A call that changes nothing was made through a handle that had let go before.
    have unchanged (gone : ∀ held, a.handles[handle]? = some held → (use a held).2 = false) :
        uses a = (uses a).modify handle (fun use => (use.1, false)) ∧ charges a = charges a := by
      refine ⟨(modify_same fun old same => ?_).symm, rfl⟩
      rw [uses, getElem?_map, map_eq_some_iff] at same
      obtain ⟨held, got, rfl⟩ := same
      exact Prod.ext rfl (gone held got).symm
    split
    next missing => exact unchanged fun held got => by simp [missing] at got
    next lease got =>
      apply uses_release (by rw [releaseLease_handles]; exact (modify_same fun held same => by simp_all [Handle.letGo]).symm) (releaseLease_leases a lease)
      · exact fun index same => by simp_all
      · exact fun other differs same => differs (kept.shared.plain other handle lease same got)
    next backing record bytes owned got =>
      split
      next gone => exact unchanged fun held same => by simp_all [use]
      next held =>
        obtain rfl : owned = true := by simpa using held
        obtain ⟨known, found⟩ := kept.shared.mapped _ _ (kept.shared.held _ _ _ (mem_of_getElem? got))
        simp only [found, RuntimeRetainedBytes.releaseHolder]
        have handles : a.handles.set handle (.holder backing record bytes false) = a.handles.modify handle Handle.letGo := by
          rw [modify_of_some got]
          rfl
        split
        next last =>
          apply uses_release
          · exact (releaseLease_handles ..).trans handles
          · exact releaseLease_leases ..
          · exact fun index same => by simp [got] at same
          · exact fun other _ same => kept.shared.apart known.lease record known (mem_of_getElem? same) found rfl
        next more =>
          -- No handle has the number of the next lease.
          apply uses_release
          · exact handles
          · show a.leases = a.leases.modify a.leases.length Entry.ended
            exact (modify_same fun _ got => by simp at got).symm
          · exact fun index same => by simp [got] at same
          · exact fun other _ same => (kept.shared.leased _ (mem_of_getElem? same)).ne rfl

theorem Shared.held_iff (shared : Shared a) (found : a.records[record]? = some known) :
    0 < known.users ↔ ∃ handle ∈ a.handles, handle.holds record = true := by
  rw [shared.users record known found, ← countP_pos_iff]
  omega

theorem Shared.recorded (shared : Shared a) (held : Handle.holder backing record bytes true ∈ a.handles) :
    ∃ known, a.recordOf backing = some (record, known) := by
  have mapped := shared.held backing record bytes held
  obtain ⟨known, found⟩ := shared.mapped backing record mapped
  have got : get? Prod.fst a.backings backing = some (backing, record) := shared.unique.get?_of_mem mapped
  exact ⟨known, by simp [recordOf, got, found]⟩

theorem retainBacking_held (shared : Shared a) (held : Handle.holder backing record bytes true ∈ a.handles) (byteLength : Int) (control : Bool) :
    (a.retainBacking backing byteLength control).leases = a.leases := by
  obtain ⟨known, recorded⟩ := shared.recorded held
  simp only [RuntimeRetainedBytes.retainBacking, recorded]
  split <;> rfl

/-- Both accounts are exact after any calls: their totals are the sums over the leases that were not released, ordinary
use leaves the control share alone, the total is within the limit, and a buffer has one lease that lives while anyone
holds it. The leases are those the calls opened and did not close. -/
theorem retained_bytes_exact (limit reservedControlBytes : Int) (workerEvents : List WorkerRetainedBytes.Event)
    (runtimeLimit controlReserve : Int) (start : RuntimeRetainedBytes)
    (made : RuntimeRetainedBytes.new runtimeLimit controlReserve = some start) (runtimeEvents : List Event) :
    (∀ account, account = run WorkerRetainedBytes.step (WorkerRetainedBytes.new limit reservedControlBytes) workerEvents →
      account.leases = run (Worker.RetainedBytes.ledger (limit - min limit reservedControlBytes)) [] workerEvents ∧
      account.used = owed (fun _ => true) account.leases ∧
      (∀ category, account.current category = owed (· == category) account.leases) ∧
      account.used ≤ limit - min limit reservedControlBytes ∧ account.accountedBytes ≤ limit) ∧
    (∀ account, account = run RuntimeRetainedBytes.step start runtimeEvents →
      account.total = owed (fun _ => true) account.leases ∧
      account.ordinary = owed (fun control => !control) account.leases ∧
      account.ordinary ≤ runtimeLimit - controlReserve ∧ account.total ≤ runtimeLimit ∧
      (∀ (record : Nat) (known : BackingRecord), account.records[record]? = some known →
        ∃ entry : Entry Bool, account.leases[known.lease]? = some entry ∧
          (entry.live = true ↔ ∃ handle ∈ account.handles, handle.holds record = true)) ∧
      (∀ backing record bytes, Handle.holder backing record bytes true ∈ account.handles →
        (∃ known, account.recordOf backing = some (record, known)) ∧
        ∀ byteLength control, (account.retainBacking backing byteLength control).leases = account.leases) ∧
      (∀ (first second : Nat) (known other : BackingRecord), account.records[first]? = some known →
        account.records[second]? = some other → known.lease = other.lease → first = second) ∧
      (∀ (lease record : Nat) (known : BackingRecord), Handle.lease lease ∈ account.handles →
        account.records[record]? = some known → known.lease ≠ lease) ∧
      ∀ event, Posted account (RuntimeRetainedBytes.step account event) event) := by
  constructor
  · rintro account rfl
    obtain ⟨bounded, reserved, exact, leases⟩ := Worker.RetainedBytes.kept_run limit reservedControlBytes workerEvents
    have within := exact.within
    rw [bounded, reserved] at within
    refine ⟨leases, exact.used, exact.current, within, ?_⟩
    unfold WorkerRetainedBytes.accountedBytes
    omega
  · rintro account rfl
    have kept := kept_run made runtimeEvents
    have ⟨same, reserve, exact, shared⟩ := kept
    have within := exact.within
    have share := exact.share
    rw [same] at within share
    rw [reserve] at share
    refine ⟨exact.total, exact.ordinary, share, within, ?_, ?_, shared.distinct, shared.apart, kept.posts⟩
    · intro record known found
      obtain ⟨entry, paid, live⟩ := shared.paid record known found
      exact ⟨entry, paid, live.trans (shared.held_iff found)⟩
    · intro backing record bytes held
      exact ⟨shared.recorded held, retainBacking_held shared held⟩

/-- A lease of the worker that shrinks and is released twice, and a buffer of 100 bytes held twice, let go twice by one
holder and then by the other. -/
theorem retained_bytes_exact_shared :
    let worker := run WorkerRetainedBytes.step (WorkerRetainedBytes.new 1000 100)
      [.reserve .worker 300, .reserve .engine 500, .shrinkTo 0 200, .release 1, .release 1]
    let held := [.retainBacking 7 100 false, .retainBacking 7 100 true, .release 0, .release 0]
    worker.used = 200 ∧ worker.accountedBytes ≤ 1000 ∧ worker.leases.map Entry.live = [true, false] ∧
      ∃ start, RuntimeRetainedBytes.new 1000 100 = some start ∧
        (run RuntimeRetainedBytes.step start held).total = 356 ∧
        (run RuntimeRetainedBytes.step start (held ++ [.release 1])).total = 0 ∧
        (run RuntimeRetainedBytes.step start (held ++ [.release 1])).total ≤ 1000 := by
  have exact := retained_bytes_exact 1000 100
    [.reserve .worker 300, .reserve .engine 500, .shrinkTo 0 200, .release 1, .release 1] 1000 100 _ rfl
    [.retainBacking 7 100 false, .retainBacking 7 100 true, .release 0, .release 0, .release 1]
  refine ⟨by decide, (exact.1 _ rfl).2.2.2.2, by decide, _, rfl, by decide, by decide, ?_⟩
  exact (exact.2 _ rfl).2.2.2.1

end Cove.Runtime.RetainedBytes
