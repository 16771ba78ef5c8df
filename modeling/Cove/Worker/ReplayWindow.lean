import Cove.Base.Numbering
import Cove.Protocol.Terminal

/-!
The recent facts of a run, kept so that a subscription can continue from a fact it has already applied. An entry is
owned by the window and by every selection and pin that holds it, and its lease is returned with its last reference.
Whether a reservation is granted is the environment's choice, `grant`.
-/

namespace Cove.Worker.ReplayWindow
open Base.Numbering Protocol.Terminal List

def factRecordBytes : Nat := 256

/-- The bytes a retained copy of the fact is charged. `units` is the code-unit length of an event's JSON text. -/
def retainedFactCharge (units : RunEvent → Nat) (fact : Fact) : Nat :=
  let paletteObjects := match fact.event with
    | .appearance _ _ appearance => 64 * appearance.palette.length
    | _ => 0
  factRecordBytes + 2 * units fact.event + paletteObjects + fact.bytes.length

structure Entry where
  fact : Fact
  charge : Nat
  refs : Nat

/-- `held` are the entries that left the window while referenced, `returned` the numbers of the facts whose leases
were given back. -/
structure Window where
  maxBytes : Nat
  maxEvents : Nat
  entries : List Entry
  held : List Entry
  returned : List Nat
  bytes : Nat
  latestSeq : Nat

def Window.new (maxBytes maxEvents : Nat) : Window where
  maxBytes := maxBytes
  maxEvents := maxEvents
  entries := []
  held := []
  returned := []
  bytes := 0
  latestSeq := 0

variable (window : Window)

def Window.disown (entry : Entry) : Window :=
  if entry.refs - 1 = 0 then
    { window with returned := window.returned ++ [entry.fact.seq] }
  else
    { window with held := window.held ++ [{ entry with refs := entry.refs - 1 }] }

def Window.evict : Window :=
  match window.entries with
  | [] => window
  | entry :: rest => { window with entries := rest, bytes := window.bytes - entry.charge }.disown entry

def Window.clear : Window := Nat.repeat Window.evict window.entries.length window

/-- One entry goes from wherever it stands, and a gap may be left there. -/
def Window.evictAt (index : Nat) : Window :=
  match window.entries[index]? with
  | none => window
  | some entry =>
    { window with entries := window.entries.eraseIdx index, bytes := window.bytes - entry.charge }.disown entry

/-- Entries leave, oldest first, until the new charge fits both limits or none is left. -/
def Window.makeRoom (window : Window) (charge : Nat) : Nat → Window
  | 0 => window
  | fuel + 1 =>
    if window.entries.length ≥ window.maxEvents ∨ window.bytes + charge > window.maxBytes then
      window.evict.makeRoom charge fuel
    else window

/-- Entries leave, oldest first, until the reservation is granted with so many of them left. -/
def Window.reserve (window : Window) (grant : Nat → Bool) : Nat → Window × Bool
  | 0 => (window, grant 0)
  | left + 1 => if grant (left + 1) then (window, true) else window.evict.reserve grant left

def Window.append (units : RunEvent → Nat) (grant : Nat → Bool) (fact : Fact) : Window :=
  if fact.seq ≤ window.latestSeq then window
  else
    let window := { window with latestSeq := fact.seq }
    let charge := retainedFactCharge units fact
    if charge > window.maxBytes then window.clear
    else
      let window := window.makeRoom charge window.entries.length
      let (window, leased) := window.reserve grant window.entries.length
      if leased then
        { window with
          entries := window.entries ++ [{ fact := fact, charge := charge, refs := 1 }]
          bytes := window.bytes + charge }
      else window

def requiresBaseline : RunEvent → Bool
  | .resize _ _ _ requires => requires
  | _ => false

/-- The scan of `select`: the number expected after the entries, unless one is missing or cannot be replayed. -/
def scan (afterSeq throughSeq : Nat) : List Entry → Nat → Option Nat
  | [], expected => some expected
  | entry :: rest, expected =>
    if entry.fact.seq ≤ afterSeq then scan afterSeq throughSeq rest expected
    else if entry.fact.seq > throughSeq then some expected
    else if entry.fact.seq ≠ expected then none
    else if requiresBaseline entry.fact.event then none
    else scan afterSeq throughSeq rest (expected + 1)

def inRange (afterSeq throughSeq : Nat) (entry : Entry) : Bool :=
  decide (afterSeq < entry.fact.seq) && decide (entry.fact.seq ≤ throughSeq)

/-- The facts after one and through another, each with a new reference, or nothing. -/
def Window.select (references : Bool) (afterSeq throughSeq : Nat) : Window × Option (List Fact) :=
  if afterSeq > throughSeq ∨ throughSeq > window.latestSeq then (window, none)
  else if afterSeq = throughSeq then (window, some [])
  else if throughSeq - afterSeq > window.maxEvents then (window, none)
  else if scan afterSeq throughSeq window.entries (afterSeq + 1) ≠ some (throughSeq + 1) then (window, none)
  else if !references then (window, none)
  else
    ({ window with
        entries := window.entries.map
          (fun entry => if inRange afterSeq throughSeq entry then { entry with refs := entry.refs + 1 } else entry) },
      some ((window.entries.filter (inRange afterSeq throughSeq)).map Entry.fact))

/-! ### What the window holds of a run -/

def Window.facts : List Fact := window.entries.map Entry.fact

structure Shrinks (window next : Window) : Prop where
  latest : next.latestSeq = window.latestSeq
  kept : next.facts.Sublist window.facts

theorem Shrinks.refl (w : Window) : Shrinks w w := ⟨rfl, List.Sublist.refl _⟩

theorem Shrinks.trans {w middle next : Window} (first : Shrinks w middle) (second : Shrinks middle next) :
    Shrinks w next :=
  ⟨second.latest.trans first.latest, second.kept.trans first.kept⟩

section

variable (w : Window)

@[simp] theorem disown_facts (entry : Entry) : (w.disown entry).facts = w.facts := by
  unfold Window.disown
  split <;> rfl

@[simp] theorem disown_latest (entry : Entry) : (w.disown entry).latestSeq = w.latestSeq := by
  unfold Window.disown
  split <;> rfl

theorem evict_shrinks : Shrinks w w.evict := by
  unfold Window.evict
  split
  · exact Shrinks.refl w
  rename_i entry rest entries
  constructor
  · rw [disown_latest]
  · rw [disown_facts]
    simp [Window.facts, entries]

theorem clear_shrinks : Shrinks w w.clear := by
  unfold Window.clear
  induction w.entries.length with
  | zero => exact Shrinks.refl w
  | succ count ih => exact ih.trans (evict_shrinks _)

theorem evictAt_shrinks (index : Nat) : Shrinks w (w.evictAt index) := by
  unfold Window.evictAt
  split
  · exact Shrinks.refl w
  constructor
  · rw [disown_latest]
  · rw [disown_facts]
    exact (eraseIdx_sublist w.entries index).map _

theorem map_shrinks (change : Entry → Entry) (same : ∀ entry, (change entry).fact = entry.fact)
    (held : List Entry) (returned : List Nat) :
    Shrinks w { w with entries := w.entries.map change, held := held, returned := returned } := by
  constructor
  · rfl
  · have facts : (w.entries.map change).map Entry.fact = w.entries.map Entry.fact := by
      rw [map_map]
      exact map_congr_left (fun entry _ => same entry)
    simp only [Window.facts, facts]
    exact List.Sublist.refl _

theorem select_shrinks (references : Bool) (afterSeq throughSeq : Nat) :
    Shrinks w (w.select references afterSeq throughSeq).1 := by
  unfold Window.select
  split_ifs
  · exact Shrinks.refl w
  · exact Shrinks.refl w
  · exact Shrinks.refl w
  · exact Shrinks.refl w
  · exact Shrinks.refl w
  · apply map_shrinks
    intro entry
    split <;> rfl

theorem makeRoom_shrinks (charge fuel : Nat) : Shrinks w (w.makeRoom charge fuel) := by
  induction fuel generalizing w with
  | zero => exact Shrinks.refl w
  | succ fuel ih =>
    unfold Window.makeRoom
    split
    · exact (evict_shrinks w).trans (ih w.evict)
    · exact Shrinks.refl w

theorem reserve_shrinks (grant : Nat → Bool) (left : Nat) : Shrinks w (w.reserve grant left).1 := by
  induction left generalizing w with
  | zero => exact Shrinks.refl w
  | succ left ih =>
    unfold Window.reserve
    split
    · exact Shrinks.refl w
    · exact (evict_shrinks w).trans (ih w.evict)

end

/-- The window of a run with these facts: some of them, in their order, up to the last. -/
structure Follows (facts : List Fact) (window : Window) : Prop where
  latest : window.latestSeq = facts.length
  kept : window.facts.Sublist facts

theorem Follows.new (maxBytes maxEvents : Nat) : Follows [] (Window.new maxBytes maxEvents) :=
  ⟨rfl, List.Sublist.refl _⟩

variable {facts : List Fact}

theorem Follows.shrink {w next : Window} (follows : Follows facts w) (shrinks : Shrinks w next) : Follows facts next :=
  ⟨shrinks.latest.trans follows.latest, shrinks.kept.trans follows.kept⟩

theorem Follows.append {w : Window} (follows : Follows facts w)
    (units : RunEvent → Nat) (grant : Nat → Bool) {fact : Fact} (next : fact.seq = facts.length + 1) :
    Follows (facts ++ [fact]) (w.append units grant fact) := by
  have newer : ¬fact.seq ≤ w.latestSeq := by
    rw [follows.latest]
    omega
  -- Without the new fact the window has advanced to its number and holds no more than before.
  have without : ∀ {later : Window}, Shrinks { w with latestSeq := fact.seq } later →
      Follows (facts ++ [fact]) later := by
    intro later shrinks
    constructor
    · rw [shrinks.latest, length_append]
      exact next
    · exact (shrinks.kept.trans follows.kept).trans (sublist_append_left facts [fact])
  unfold Window.append
  rw [if_neg newer]
  simp only
  split
  · exact without (clear_shrinks _)
  have shrinks := (makeRoom_shrinks { w with latestSeq := fact.seq } (retainedFactCharge units fact)
    w.entries.length).trans (reserve_shrinks _ grant
      (({ w with latestSeq := fact.seq }.makeRoom (retainedFactCharge units fact)
        w.entries.length).entries.length))
  split
  · constructor
    · rw [length_append]
      exact shrinks.latest.trans next
    · simp only [Window.facts, map_append]
      exact (shrinks.kept.trans follows.kept).append (List.Sublist.refl [fact])
  · exact without shrinks

/-! ### What a selection is -/

/-- In entries of increasing numbers the scan expects exactly the entries in the range. -/
theorem scan_eq_some {afterSeq throughSeq : Nat} {entries : List Entry} {expected stop : Nat}
    (increasing : (entries.map (fun entry => entry.fact.seq)).Pairwise (· < ·))
    (scanned : scan afterSeq throughSeq entries expected = some stop) :
    expected ≤ stop ∧ ((entries.filter (inRange afterSeq throughSeq)).map Entry.fact).map Fact.seq =
      List.range' expected (stop - expected) := by
  induction entries generalizing expected with
  | nil =>
    simp only [scan, Option.some.injEq] at scanned
    subst scanned
    simp
  | cons entry rest ih =>
    rw [map_cons, pairwise_cons] at increasing
    unfold scan at scanned
    split at scanned
    · rename_i early
      have outside : inRange afterSeq throughSeq entry = false := by simp [inRange, early]
      rw [filter_cons_of_neg (by simp [outside])]
      exact ih increasing.2 scanned
    · split at scanned
      · rename_i beyond
        -- The numbers only grow, so nothing after this entry is in the range either.
        cases scanned
        have none_left : (entry :: rest).filter (inRange afterSeq throughSeq) = [] := by
          rw [filter_eq_nil_iff]
          intro other member
          have high : throughSeq < other.fact.seq := by
            rcases mem_cons.mp member with rfl | inside
            · exact beyond
            · have above := increasing.1 _ (mem_map_of_mem inside)
              omega
          simp [inRange]
          omega
        rw [none_left]
        simp
      · split at scanned
        · cases scanned
        rename_i same
        split at scanned
        · cases scanned
        have inside : inRange afterSeq throughSeq entry = true := by
          simp only [inRange, Bool.and_eq_true, decide_eq_true_eq]
          omega
        obtain ⟨bound, numbers⟩ := ih increasing.2 scanned
        rw [filter_cons_of_pos inside, map_cons, map_cons, numbers]
        have number : entry.fact.seq = expected := not_not.mp same
        have count : stop - expected = stop - (expected + 1) + 1 := by omega
        rw [count, range'_succ]
        exact ⟨by omega, by rw [← number]⟩

theorem Follows.increasing {w : Window} (follows : Follows facts w) (numbered : Numbered Fact.seq facts) :
    (w.entries.map (fun entry => entry.fact.seq)).Pairwise (· < ·) := by
  have numbers : (w.entries.map (fun entry => entry.fact.seq)).Sublist (List.range' 1 facts.length) := by
    have mapped := follows.kept.map Fact.seq
    rw [numbered] at mapped
    simpa [Window.facts, Function.comp_def] using mapped
  exact List.Pairwise.sublist numbers pairwise_lt_range'

/-- A selection is the whole stretch of the run it names, even when the window has gaps. -/
theorem Follows.select {w : Window} (follows : Follows facts w)
    (numbered : Numbered Fact.seq facts) {references : Bool} {afterSeq throughSeq : Nat} {chosen : List Fact}
    (selected : (w.select references afterSeq throughSeq).2 = some chosen) :
    afterSeq ≤ throughSeq ∧ throughSeq ≤ facts.length ∧
      chosen = (facts.drop afterSeq).take (throughSeq - afterSeq) := by
  unfold Window.select at selected
  split at selected
  · cases selected
  rename_i ordered
  rw [follows.latest] at ordered
  refine ⟨by omega, by omega, ?_⟩
  split at selected
  · rename_i same
    cases selected
    simp [same]
  · split at selected
    · cases selected
    split at selected
    · cases selected
    rename_i scanned
    split at selected
    · cases selected
    cases selected
    have found := scan_eq_some (follows.increasing numbered) (not_not.mp scanned)
    have numbers := found.2
    rw [Nat.add_sub_add_right] at numbers
    have count : ((w.entries.filter (inRange afterSeq throughSeq)).map Entry.fact).length =
        throughSeq - afterSeq := by
      have lengths := congrArg List.length numbers
      simpa using lengths
    rw [← count] at numbers ⊢
    apply numbered.stretch _ numbers
    intro fact member
    obtain ⟨entry, inside, rfl⟩ := List.mem_map.mp member
    exact follows.kept.subset (mem_map_of_mem (mem_of_mem_filter inside))

end Cove.Worker.ReplayWindow
