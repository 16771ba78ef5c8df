import Cove.Engine.TerminalModel

/-!
A captured baseline is the emulator after the checkpoint's fact and the output of the facts since.
-/

namespace Cove.Engine
open Base.Numbering Base.Run Protocol.Recovery Protocol.Terminal List TerminalModel BoundedRecoveryTail

def outputOf (fact : Fact) : List UInt8 :=
  match fact.event with
  | .output .. => fact.bytes
  | _ => []

def controlBy (control : BaselineControl) (fact : Fact) : BaselineControl :=
  match fact.event with
  | .control _ _ epoch holder _ => ⟨epoch, holder⟩
  | _ => control

def controlAfter (facts : List Fact) : BaselineControl := facts.foldl controlBy ⟨0, none⟩

def Steady (size : Geometry) (fact : Fact) : Prop :=
  match fact.event with
  | .appearance .. => False
  | .resize _ _ geometry _ => geometry = size
  | _ => True

variable {T : Type} (x : Xterm T) (first : T) (cap : Nat)

def replay (facts : List Fact) : T := facts.foldl (applyTo x) first

/-- What a baseline stands for, with the facts in their order. -/
structure Exact (facts : List Fact) (baseline : EngineBaseline) : Prop where
  range : baseline.checkpointSeq ≤ baseline.atSeq ∧ baseline.atSeq ≤ facts.length
  vt : baseline.vt = x.serialise (replay x first (facts.take baseline.checkpointSeq))
  tail : baseline.tail = ((facts.take baseline.atSeq).drop baseline.checkpointSeq).flatMap outputOf
  bounded : baseline.tail.length ≤ cap
  steady : ∀ fact ∈ (facts.take baseline.atSeq).drop baseline.checkpointSeq, Steady baseline.captureGeometry fact
  captured : baseline.captureGeometry = x.geometry (replay x first (facts.take baseline.checkpointSeq))
  current : baseline.currentGeometry = baseline.captureGeometry
  control : baseline.control = controlAfter (facts.take baseline.atSeq)

variable {x first cap}

theorem Exact.append {facts : List Fact} {baseline : EngineBaseline} (exact : Exact x first cap facts baseline)
    (fact : Fact) : Exact x first cap (facts ++ [fact]) baseline := by
  obtain ⟨⟨inside, length⟩, vt, tail, bounded, steady, captured, current, control⟩ := exact
  have kept (count : Nat) (within : count ≤ facts.length) : (facts ++ [fact]).take count = facts.take count :=
    take_append_of_le_length within
  rw [← kept _ length] at tail steady control
  rw [← kept _ (inside.trans length)] at vt captured
  exact ⟨⟨inside, by simp; omega⟩, vt, tail, bounded, steady, captured, current, control⟩

/-! The tail. -/

theorem append_spec {tail : BoundedRecoveryTail} (small : tail.bytes.length ≤ cap) (leased : Bool) (bytes : List UInt8) :
    (tail.append cap leased bytes).bytes.length ≤ cap ∧ ((tail.append cap leased bytes).available = true →
        tail.available = true ∧ (tail.append cap leased bytes).bytes = tail.bytes ++ bytes) := by
  unfold append
  split
  next skipped =>
    refine ⟨small, fun available => ⟨available, ?_⟩⟩
    have nothing : bytes = [] := by simpa [available] using skipped
    rw [nothing, append_nil]
  next usable =>
    have available : tail.available = true := by
      by_contra unusable
      simp [unusable] at usable
    split
    next => exact ⟨zero_le, nofun⟩
    rename_i fits
    split
    next => exact ⟨small, nofun⟩
    refine ⟨?_, fun _ => ⟨available, rfl⟩⟩
    rw [length_append]
    omega

/-! The checkpoint. -/

/-- A checkpoint and its tail stand for the facts applied. -/
structure Proved (x : Xterm T) (first : T) (facts : List Fact) (checkpoint : Checkpoint)
    (tail : BoundedRecoveryTail) : Prop where
  before : checkpoint.seq ≤ facts.length
  vt : checkpoint.vt = x.serialise (replay x first (facts.take checkpoint.seq))
  captured : checkpoint.geometry = x.geometry (replay x first (facts.take checkpoint.seq))
  current : x.geometry (replay x first facts) = checkpoint.geometry
  steady : ∀ fact ∈ facts.drop checkpoint.seq, Steady checkpoint.geometry fact
  tail : tail.available = true → tail.bytes = (facts.drop checkpoint.seq).flatMap outputOf

theorem Proved.fresh {m : TerminalModel T} (terminal : m.terminal = replay x first m.applied)
    (parsed : m.parsedSeq = m.applied.length) : Proved x first m.applied (capture x m) .empty := by
  have all : m.applied.take (capture x m).seq = m.applied := take_of_length_le parsed.ge
  have rest : m.applied.drop (capture x m).seq = [] := drop_of_length_le parsed.ge
  refine ⟨parsed.le, ?_, ?_, congrArg x.geometry terminal.symm, ?_, ?_⟩
  · rw [all, ← terminal]
    rfl
  · rw [all, ← terminal]
    rfl
  · simp [rest]
  · simp [rest, empty]

variable {facts : List Fact} {checkpoint : Checkpoint} {tail next : BoundedRecoveryTail} {fact : Fact}

theorem Proved.extend (proved : Proved x first facts checkpoint tail)
    (same : x.geometry (applyTo x (replay x first facts) fact) = x.geometry (replay x first facts))
    (steady : Steady checkpoint.geometry fact)
    (grown : next.available = true → tail.available = true ∧ next.bytes = tail.bytes ++ outputOf fact) :
    Proved x first (facts ++ [fact]) checkpoint next := by
  have kept : (facts ++ [fact]).take checkpoint.seq = facts.take checkpoint.seq :=
    take_append_of_le_length proved.before
  have later : (facts ++ [fact]).drop checkpoint.seq = facts.drop checkpoint.seq ++ [fact] :=
    drop_append_of_le_length proved.before
  refine ⟨?_, by rw [kept]; exact proved.vt, by rw [kept]; exact proved.captured, ?_, ?_, ?_⟩
  · rw [length_append]
    exact proved.before.trans (Nat.le_add_right _ _)
  · rw [← proved.current, ← same, replay, foldl_append]
    rfl
  · intro other member
    rw [later] at member
    rcases mem_snoc member with earlier | rfl
    · exact proved.steady other earlier
    · exact steady
  · intro available
    obtain ⟨before, bytes⟩ := grown available
    rw [bytes, proved.tail before, later]
    simp

/-! One operation after the other. -/

def Queued.fact? : Queued → Option Fact
  | .apply fact => some fact
  | _ => none

def TerminalModel.operations (m : TerminalModel T) : List Queued := m.writing.toList ++ m.queue

structure Inv (x : Xterm T) (first : T) (cap : Nat) (m : TerminalModel T) (operations : List Queued) : Prop where
  ordered : Numbered Fact.seq m.applied
  parsed : m.parsedSeq = m.applied.length
  pending : m.fault = false → m.disposed = false →
    Numbered Fact.seq (m.applied ++ operations.filterMap Queued.fact?) ∧
      m.receivedSeq = (m.applied ++ operations.filterMap Queued.fact?).length
  idle : m.disposed = true → operations = []
  running : m.writing.isSome = true → m.fault = false
  unpublished : ∀ bytes, .continueUnpublishedOutput bytes ∈ operations → m.fenced = true
  terminal : m.fenced = false → m.terminal = replay x first m.applied
  control : m.control = controlAfter m.applied
  closed : m.fenced = true ∨ m.disposed = true → m.checkpoint = none
  small : m.tail.bytes.length ≤ cap
  proved : ∀ checkpoint, m.checkpoint = some checkpoint → Proved x first m.applied checkpoint m.tail
  exact : ∀ baseline ∈ m.baselines, Exact x first cap m.applied baseline

variable {m : TerminalModel T} {operations : List Queued} {options : Options}

variable {item : Queued}

theorem Inv.alive (inv : Inv x first cap m (item :: operations)) : m.disposed = false := by
  by_contra ended
  cases inv.idle (by simpa using ended)

theorem Inv.skip (inv : Inv x first cap m (item :: operations)) (other : item.fact? = none) :
    Inv x first cap m operations := by
  refine { inv with pending := ?_, idle := ?_, unpublished := ?_ }
  · rw [← filterMap_cons_none (l := operations) other]
    exact inv.pending
  · intro ended
    cases inv.alive.symm.trans ended
  · exact fun bytes member => inv.unpublished bytes (mem_cons_of_mem item member)

theorem Inv.dispose (inv : Inv x first cap m operations) : Inv x first cap (dispose m) [] := by
  refine
    { inv with
      pending := ?_, idle := fun _ => rfl, running := nofun, unpublished := ?_
      closed := fun _ => rfl, small := zero_le, proved := ?_ }
  · intro _ alive
    cases alive
  · intro bytes member
    cases member
  · intro checkpoint held
    cases held

theorem Inv.refresh (inv : Inv x first cap m operations) (outcome : Refresh) :
    Inv x first cap (refreshCheckpoint x outcome m) operations := by
  unfold refreshCheckpoint
  split
  next => exact inv
  rename_i usable
  simp only [Bool.or_eq_true, not_or, Bool.not_eq_true] at usable
  cases outcome with
  | privateStateChanged => exact { inv with }
  | failed => exact inv
  | built =>
    dsimp only
    split
    next =>
      refine { inv with closed := ?_, small := zero_le, proved := ?_ }
      · rintro (fenced | disposed)
        · simp [usable.1.2] at fenced
        · simp [usable.1.1] at disposed
      · rintro checkpoint ⟨⟩
        exact Proved.fresh (inv.terminal usable.1.2) inv.parsed
    next => exact inv

theorem takeFact_fields (x : Xterm T) (options : Options) (leased : Bool) (m : TerminalModel T) (fact : Fact) :
    let next := takeFact x options leased m fact
    next.terminal = applyTo x m.terminal fact ∧ next.control = controlBy m.control fact ∧ next.fenced = m.fenced ∧
      next.disposed = m.disposed ∧ next.receivedSeq = m.receivedSeq ∧ next.baselines = m.baselines ∧
      next.writing = m.writing ∧ next.queue = m.queue := by
  obtain ⟨event, bytes⟩ := fact
  cases event with
  | resize =>
    simp only [takeFact]
    split <;> exact ⟨rfl, rfl, rfl, rfl, rfl, rfl, rfl, rfl⟩
  | _ => exact ⟨rfl, rfl, rfl, rfl, rfl, rfl, rfl, rfl⟩

theorem takeFact_checkpoint (x : Xterm T) (small : m.tail.bytes.length ≤ options.baselineTailBytes) (leased : Bool) (fact : Fact) :
    let next := takeFact x options leased m fact
    next.tail.bytes.length ≤ options.baselineTailBytes ∧
      (next.checkpoint = none ∨ next.checkpoint = m.checkpoint ∧ Steady (x.geometry m.terminal) fact ∧
        x.geometry (applyTo x m.terminal fact) = x.geometry m.terminal ∧
        (next.tail.available = true → m.tail.available = true ∧ next.tail.bytes = m.tail.bytes ++ outputOf fact)) := by
  obtain ⟨event, bytes⟩ := fact
  cases event with
  | output =>
    obtain ⟨bounded, grown⟩ := append_spec small leased bytes
    exact ⟨bounded, .inr ⟨rfl, trivial, x.geometry_write m.terminal bytes, grown⟩⟩
  | resize _ _ geometry =>
    by_cases same : x.geometry m.terminal = geometry
    · simp [takeFact, Steady, applyTo, outputOf, same, small]
    · simp [takeFact, same, dropCheckpoint, empty]
  | appearance => exact ⟨zero_le, .inl rfl⟩
  | control | exit => simp [takeFact, Steady, applyTo, outputOf, small]

theorem Inv.takeFact (inv : Inv x first options.baselineTailBytes m (.apply fact :: operations))
    (sound : m.fault = false) (idle : m.writing = none) (leased failed : Bool) : Inv x first options.baselineTailBytes
      { takeFact x options leased m fact with
        parsedSeq := fact.seq
        applied := m.applied ++ [fact]
        fault := failed } operations := by
  have alive := inv.alive
  obtain ⟨numbered, received⟩ := inv.pending sound alive
  rw [filterMap_cons_some (by rfl), append_cons] at numbered received
  obtain ⟨terminal, control, fenced, disposed, receivedSeq, baselines, writing, _⟩ := takeFact_fields x options leased m fact
  have place : m.applied.length < (m.applied ++ [fact] ++ operations.filterMap Queued.fact?).length := by simp
  have seq : fact.seq = m.applied.length + 1 := by
    simpa using numbered.number_getElem place
  obtain ⟨small, checked⟩ := takeFact_checkpoint x inv.small leased fact
  refine ⟨inv.ordered.append seq, by simpa using seq, ?_, ?_, ?_, ?_, ?_, ?_, ?_, small, ?_, ?_⟩
  · intro _ _
    exact ⟨numbered, receivedSeq.trans received⟩
  · intro ended
    cases alive.symm.trans (disposed.symm.trans ended)
  · simp [writing, idle]
  · intro bytes member
    exact fenced.trans (inv.unpublished bytes (mem_cons_of_mem _ member))
  · intro open_
    rw [terminal, inv.terminal (fenced.symm.trans open_), replay, replay, foldl_append]
    rfl
  · rw [control, inv.control, controlAfter, controlAfter, foldl_append]
    rfl
  · intro ended
    rw [fenced, disposed] at ended
    rcases checked with none | ⟨kept, _⟩
    · exact none
    · exact kept.trans (inv.closed ended)
  · intro checkpoint held
    rcases checked with none | ⟨kept, steady, same, grown⟩
    · cases none.symm.trans held
    have before := kept.symm.trans held
    have proved := inv.proved checkpoint before
    have open_ : m.fenced = false := by
      by_contra closed
      simp [inv.closed (.inl (by simpa using closed))] at before
    rw [inv.terminal open_] at same steady
    rw [proved.current] at steady
    exact proved.extend same steady grown
  · intro baseline member
    rw [baselines] at member
    exact (inv.exact baseline member).append fact

theorem Inv.performFact (inv : Inv x first options.baselineTailBytes m (.apply fact :: operations))
    (sound : m.fault = false) (idle : m.writing = none) (turn : Turn) :
    Inv x first options.baselineTailBytes (performFact x options turn m fact) operations := by
  have taken := inv.takeFact sound idle turn.leased (m.fault || turn.sinkFailed)
  unfold Engine.performFact
  dsimp only
  split
  next => exact taken.refresh turn.refresh
  next => exact taken

theorem refreshCheckpoint_operations (outcome : Refresh) (m : TerminalModel T) :
    (refreshCheckpoint x outcome m).operations = m.operations := by
  unfold refreshCheckpoint
  repeat' split
  all_goals rfl

section

variable (inv : Inv x first cap m m.operations)
include inv

theorem Inv.performCapture (turn : Turn) :
    Inv x first cap (performCapture x turn m) (performCapture x turn m).operations := by
  unfold Engine.performCapture
  generalize held : (if m.checkpoint.map Checkpoint.seq = some m.parsedSeq then m
    else refreshCheckpoint x turn.refresh m) = next
  have kept : Inv x first cap next next.operations := by
    rw [← held]
    split
    next => exact inv
    next =>
      rw [refreshCheckpoint_operations]
      exact inv.refresh turn.refresh
  dsimp only
  split
  next => exact kept
  rename_i checkpoint found
  split
  next => exact kept
  rename_i usable
  cases turn.reserved with
  | refused => exact kept
  | disposed => exact kept.dispose
  | granted =>
    have proved := kept.proved checkpoint found
    have open_ : next.fenced = false := by
      by_contra closed
      simp [kept.closed (.inl (by simpa using closed))] at found
    have available : next.tail.available = true := by
      by_contra unavailable
      simp [unavailable] at usable
    refine { kept with exact := ?_ }
    intro baseline member
    rcases mem_snoc member with earlier | rfl
    · exact kept.exact baseline earlier
    rw [kept.parsed, kept.terminal open_, kept.control, proved.tail available]
    have all : next.applied.take next.applied.length = next.applied := take_length
    refine ⟨⟨proved.before, le_rfl⟩, proved.vt, ?_, ?_, ?_, proved.captured, proved.current, ?_⟩
    · simp only [all]
    · rw [← proved.tail available]
      exact kept.small
    · simp only [all]
      exact proved.steady
    · simp only [all]

theorem Inv.queue (alive : m.disposed = false)
    (other : item.fact? = none) (allowed : ∀ bytes, item = .continueUnpublishedOutput bytes → m.fenced = true) :
    Inv x first cap m (m.operations ++ [item]) := by
  refine { inv with pending := ?_, idle := ?_, unpublished := ?_ }
  · rw [filterMap_append, filterMap_cons_none other, filterMap_nil, append_nil]
    exact inv.pending
  · intro ended
    cases alive.symm.trans ended
  · intro bytes member
    rcases mem_snoc member with earlier | new
    · exact inv.unpublished bytes earlier
    · exact allowed bytes new.symm

theorem Inv.apply (admitted : admits options m fact = true) (size : Geometry) : Inv x first cap
      { m with queue := m.queue ++ [.apply fact], receivedSeq := fact.seq, admittedGeometry := size }
      (m.operations ++ [.apply fact]) := by
  simp only [admits, Bool.and_eq_true, Bool.not_eq_true', beq_iff_eq] at admitted
  obtain ⟨⟨⟨⟨⟨⟨alive, _⟩, _⟩, _⟩, _⟩, seq⟩, _⟩ := admitted
  refine { inv with pending := ?_, idle := ?_, unpublished := ?_ }
  · intro sound _
    obtain ⟨numbered, received⟩ := inv.pending sound alive
    rw [filterMap_append, filterMap_cons_some (by rfl), ← append_assoc]
    rw [received] at seq
    exact ⟨numbered.append seq, by simpa [Nat.add_assoc] using seq⟩
  · intro ended
    cases alive.symm.trans ended
  · intro bytes member
    rcases mem_snoc member with earlier | new
    · exact inv.unpublished bytes earlier
    · cases new

end

theorem Inv.drop {rest : List Queued} (inv : Inv x first cap m operations) (within : rest ⊆ operations) :
    Inv x first cap { m with writing := none, queue := rest, fault := true } rest := by
  refine { inv with pending := nofun, idle := ?_, running := nofun, unpublished := ?_ }
  · intro ended
    rw [inv.idle ended] at within
    exact subset_nil.mp within
  · exact fun bytes member => inv.unpublished bytes (within member)

theorem performFact_operations (turn : Turn) (m : TerminalModel T) (fact : Fact) :
    (performFact x options turn m fact).operations = m.operations := by
  obtain ⟨_, _, _, _, _, _, writing, queue⟩ := takeFact_fields x options turn.leased m fact
  have taken : (takeFact x options turn.leased m fact).operations = m.operations := by
    rw [operations, writing, queue, operations]
  unfold performFact
  dsimp only
  split
  next => exact (refreshCheckpoint_operations _ _).trans taken
  next => exact taken

section

variable (inv : Inv x first options.baselineTailBytes m m.operations)
include inv

theorem Inv.drain (turn : Turn) :
    Inv x first options.baselineTailBytes (drain x options turn m) (drain x options turn m).operations := by
  unfold Engine.drain
  split
  next item rest idle queued =>
    have operations : m.operations = item :: rest := by simp [TerminalModel.operations, idle, queued]
    have left : TerminalModel.operations { m with queue := rest } = rest := by simp [TerminalModel.operations, idle]
    rw [operations] at inv
    split
    next failed =>
      rw [left]
      have dropped := inv.drop (subset_cons_self item rest)
      rwa [← idle, ← failed] at dropped
    next sound =>
      have sound : m.fault = false := by simpa using sound
      cases item with
      | captureBaseline =>
        apply Inv.performCapture
        rw [left]
        exact { inv.skip rfl with }
      | continueUnpublishedOutput =>
        exact { inv with running := fun _ => sound }
      | apply =>
        dsimp only
        split
        next =>
          exact { inv with running := fun _ => sound }
        next =>
          rw [performFact_operations, left]
          exact Inv.performFact (m := { m with queue := rest }) { inv with } sound idle turn
  next => exact inv

theorem Inv.written (turn : Turn) :
    Inv x first options.baselineTailBytes (written x options turn m) (written x options turn m).operations := by
  unfold Engine.written
  split
  next fact current =>
    have sound := inv.running (by simp [current])
    have operations : m.operations = .apply fact :: m.queue := by simp [operations, current]
    rw [operations] at inv
    rw [performFact_operations]
    exact Inv.performFact (m := { m with writing := none }) { inv with running := nofun } sound rfl turn
  next bytes current =>
    have operations : m.operations = .continueUnpublishedOutput bytes :: m.queue := by
      simp [operations, current]
    have sound := inv.running (by simp [current])
    rw [operations] at inv
    have fenced := inv.unpublished bytes mem_cons_self
    have skipped := inv.skip rfl
    refine { skipped with pending := ?_, running := nofun, terminal := ?_ }
    · intro _ alive
      exact skipped.pending sound alive
    · intro open_
      cases fenced.symm.trans open_
  next => exact inv

theorem Inv.step (event : Event) :
    Inv x first options.baselineTailBytes (step x options m event) (step x options m event).operations := by
  have grown (item : Queued) : m.writing.toList ++ (m.queue ++ [item]) = m.operations ++ [item] :=
    (append_assoc _ _ _).symm
  cases event with
  | apply =>
    simp only [Engine.step]
    split
    next admitted =>
      rw [Bool.and_eq_true] at admitted
      have joined := inv.apply admitted.1
      rw [← grown] at joined
      exact joined _
    next => exact inv
  | continueUnpublishedOutput bytes =>
    simp only [Engine.step]
    split
    next admitted =>
      simp only [Bool.and_eq_true, Bool.not_eq_true'] at admitted
      have fenced : Inv x first options.baselineTailBytes (fence m) (fence m).operations :=
        { inv with
          unpublished := fun _ _ => rfl, terminal := nofun, closed := fun _ => rfl
          small := zero_le, proved := nofun }
      have joined : Inv x first options.baselineTailBytes (fence m)
          (m.operations ++ [.continueUnpublishedOutput bytes]) :=
        fenced.queue admitted.1.1.1.1 rfl fun _ _ => rfl
      rw [← grown] at joined
      exact { joined with }
    next => exact inv
  | captureBaseline =>
    simp only [Engine.step]
    split
    next admitted =>
      simp only [Bool.and_eq_true, Bool.not_eq_true'] at admitted
      have joined : Inv x first options.baselineTailBytes m (m.operations ++ [.captureBaseline]) :=
        inv.queue admitted.1.1.1 rfl fun _ same => by cases same
      rw [← grown] at joined
      exact { joined with }
    next => exact inv
  | drain turn => exact inv.drain turn
  | written turn => exact inv.written turn
  | threw =>
    have within : m.queue.drop (if m.writing.isSome then 0 else 1) ⊆ m.operations :=
      fun item member => mem_append_right _ (mem_of_mem_drop member)
    exact inv.drop within
  | dispose => exact inv.dispose

end

theorem Inv.new (options : Options) : Inv x first options.baselineTailBytes (new x first) [] := by
  refine ⟨.nil, rfl, fun _ _ => ⟨.nil, rfl⟩, fun _ => rfl, nofun, nofun, fun _ => rfl, rfl, ?_, zero_le, ?_, nofun⟩
  · rintro (fenced | disposed)
    · cases fenced
    · cases disposed
  · rintro checkpoint ⟨⟩
    exact Proved.fresh rfl rfl

theorem run_inv (x : Xterm T) (first : T) (options : Options) (events : List Event) :
    let m := run (step x options) (new x first) events
    Inv x first options.baselineTailBytes m m.operations :=
  run_invariant (fun m => Inv x first options.baselineTailBytes m m.operations) (.new options)
    (fun _ event inv => inv.step event) events

/-- Every baseline a model answers is the emulator after the checkpoint's fact and the output of the facts since, with the
size, colours and authority of the last of them; nothing that is not a fact is in it. -/
theorem baseline_is_checkpoint_and_tail (x : Xterm T) (options : Options) (first : T) (events : List Event) :
    let m := run (step x options) (new x first) events
    Numbered Fact.seq m.applied ∧
      ∀ baseline ∈ m.baselines, Exact x first options.baselineTailBytes m.applied baseline := by
  have inv := run_inv x first options events
  exact ⟨inv.ordered, inv.exact⟩

/-- An emulator that shows what is written to it. -/
def paper : Xterm (List UInt8) where
  write := HAppend.hAppend
  resize text _ := text
  setAppearance text _ := text
  geometry _ := ⟨80, 24⟩
  historyLines _ := 0
  complete _ := true
  serialise := id
  geometry_write _ _ := rfl

/-- Three letters, with a checkpoint after the first and a capture after the second. -/
def typed : List Event :=
  let turn (refresh : Refresh) : Turn := ⟨true, refresh, false, true, .granted⟩
  let letter (seq : Nat) (byte : UInt8) (refresh : Refresh) : List Event :=
    [.apply ⟨.output ⟨"", "", ""⟩ seq, [byte]⟩ true, .drain (turn refresh), .written (turn refresh)]
  letter 1 65 .built ++ letter 2 66 .failed ++ [.captureBaseline true, .drain (turn .failed)] ++ letter 3 67 .failed

theorem baseline_is_checkpoint_and_tail_paper :
    let m := run (step paper ⟨⟨"", "", ""⟩, 80, 24, 9, 2⟩) (new paper []) typed
    m.baselines.map (fun baseline => (baseline.vt, baseline.tail)) = [([65], [66])] ∧
      ∀ baseline ∈ m.baselines, Exact paper [] 2 m.applied baseline :=
  ⟨by decide, (baseline_is_checkpoint_and_tail paper ⟨⟨"", "", ""⟩, 80, 24, 9, 2⟩ [] typed).2⟩

/-- Facts are taken in the order of their numbers, none is lost in the queue, and the terminal has taken exactly those
applied until output that is no fact; from then on there is no checkpoint. -/
theorem terminal_replays_facts (x : Xterm T) (options : Options) (first : T) (events : List Event) :
    let m := run (step x options) (new x first) events
    (m.fault = false → m.disposed = false → Numbered Fact.seq (m.applied ++ m.operations.filterMap Queued.fact?) ∧
      m.receivedSeq = (m.applied ++ m.operations.filterMap Queued.fact?).length) ∧
    (m.fenced = false → m.terminal = replay x first m.applied) ∧ m.control = controlAfter m.applied ∧
    (m.fenced = true ∨ m.disposed = true → m.checkpoint = none) := by
  have inv := run_inv x first options events
  exact ⟨inv.pending, inv.terminal, inv.control, inv.closed⟩

/-! A view rebuilt from a baseline, where the emulator takes output in pieces. -/

section View

variable (empty : ∀ terminal, x.write terminal [] = terminal)
  (joined : ∀ terminal bytes more, x.write (x.write terminal bytes) more = x.write terminal (bytes ++ more))
include empty joined

theorem foldl_steady {facts : List Fact} {terminal : T}
    (steady : ∀ fact ∈ facts, Steady (x.geometry terminal) fact) :
    facts.foldl (applyTo x) terminal = x.write terminal (facts.flatMap outputOf) := by
  induction facts generalizing terminal with
  | nil => exact (empty terminal).symm
  | cons fact facts ih =>
    obtain ⟨now, later⟩ := forall_mem_cons.mp steady
    obtain ⟨event, bytes⟩ := fact
    cases event with
    | output =>
      rw [← x.geometry_write terminal bytes] at later
      exact (ih later).trans (joined ..)
    | resize =>
      obtain rfl := now
      simpa [applyTo, outputOf] using ih later
    | appearance => cases now
    | control | exit => exact ih later

/-- A view that restores the terminal its VT was serialised from, writes the tail and applies every later fact has the
terminal of the worker. -/
theorem rebuilt_view_follows (options : Options) (events : List Event) :
    let m := run (step x options) (new x first) events
    m.fenced = false → ∀ baseline ∈ m.baselines, ∀ restore : List UInt8 → T,
      restore baseline.vt = replay x first (m.applied.take baseline.checkpointSeq) →
      (m.applied.drop baseline.atSeq).foldl (applyTo x) (x.write (restore baseline.vt) baseline.tail) = m.terminal := by
  intro m unfenced baseline member restore restored
  have inv := run_inv x first options events
  have exact := inv.exact baseline member
  have steady := exact.steady
  rw [exact.captured] at steady
  have early := take_append_drop baseline.checkpointSeq (m.applied.take baseline.atSeq)
  rw [take_take, min_eq_left exact.range.1] at early
  rw [restored, exact.tail, ← foldl_steady empty joined steady, inv.terminal unfenced, replay, ← foldl_append,
    ← foldl_append, ← append_assoc, early, take_append_drop, replay]

end View

theorem rebuilt_paper : let m := run (step paper ⟨⟨"", "", ""⟩, 80, 24, 9, 2⟩) (new paper []) typed
    m.baselines.map (fun baseline => (baseline.vt, baseline.tail)) = [([65], [66])] ∧ m.terminal = [65, 66, 67] ∧
      ∀ baseline ∈ m.baselines, (m.applied.drop baseline.atSeq).map Fact.bytes = [[67]] ∧
        (m.applied.drop baseline.atSeq).foldl (applyTo paper) (baseline.vt ++ baseline.tail) = m.terminal :=
  ⟨by decide, by decide, fun baseline member => ⟨by revert baseline; decide,
    rebuilt_view_follows append_nil append_assoc _ typed (by decide) baseline member id
      (by revert baseline; decide)⟩⟩

end Cove.Engine
