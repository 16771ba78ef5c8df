import Mathlib.Algebra.BigOperators.Group.List.Basic
import Mathlib.Tactic

/-!
A writable byte stream with a high-water mark. A write is buffered at once; its bytes leave the buffer later and its
callback runs after that, oldest write first. A write that reaches the mark asks its caller to wait for `drain`, which
comes when the buffer is empty and before the callback of the last write.
-/

namespace Cove.Base.ByteStream

variable {α : Type*}

structure Writable (α : Type*) where
  highWaterMark : Nat
  length : Nat
  waiting : List α
  needDrain : Bool

def Writable.new (highWaterMark : Nat) : Writable α where
  highWaterMark := highWaterMark
  length := 0
  waiting := []
  needDrain := false

variable (size : α → Nat)

def total (items : List α) : Nat := (items.map size).sum

@[simp] theorem total_nil : total size [] = 0 := rfl

@[simp] theorem total_cons (item : α) (items : List α) :
    total size (item :: items) = size item + total size items := by
  simp [total]

@[simp] theorem total_append (items more : List α) :
    total size (items ++ more) = total size items + total size more := by
  simp [total]

theorem size_le_total {size : α → Nat} {items : List α} {item : α} (member : item ∈ items) :
    size item ≤ total size items :=
  List.single_le_sum (fun _ _ => zero_le) (size item) (List.mem_map_of_mem member)

variable (size : α → Nat)

variable (stream : Writable α)

def Writable.write (item : α) : Writable α × Bool :=
  let length := stream.length + size item
  let below := decide (length < stream.highWaterMark)
  ({ stream with
      length := length
      waiting := stream.waiting ++ [item]
      needDrain := stream.needDrain || !below },
    below)

def Writable.leave (bytes : Nat) : Writable α :=
  { stream with length := stream.length - bytes }

def Writable.drainDue : Bool := stream.needDrain && stream.length == 0

def Writable.drained : Writable α := { stream with needDrain := false }

/-- The callback of the oldest write, once its bytes have left the buffer. The last write is not called back while a
`drain` is owed. -/
def Writable.callback : Option (α × Writable α) :=
  match stream.waiting with
  | [] => none
  | item :: rest =>
    if stream.length ≤ total size rest ∧ (rest = [] → stream.needDrain = false) then
      some (item, { stream with waiting := rest })
    else none

/-- The buffer never holds more than was handed to it, and a `drain` is owed only to a write still waiting. -/
structure Sound (stream : Writable α) : Prop where
  buffered : stream.length ≤ total size stream.waiting
  owed : stream.needDrain = true → stream.waiting ≠ []

variable {size} {stream : Writable α}

theorem Sound.new (highWaterMark : Nat) : Sound size (Writable.new highWaterMark : Writable α) where
  buffered := zero_le
  owed := by simp [Writable.new]

theorem Sound.write (sound : Sound size stream) (item : α) : Sound size (stream.write size item).1 where
  buffered := by
    have before := sound.buffered
    simp only [Writable.write, total_append, total_cons]
    omega
  owed := by simp [Writable.write]

theorem Sound.leave (sound : Sound size stream) (bytes : Nat) : Sound size (stream.leave bytes) where
  buffered := Nat.le_trans (Nat.sub_le _ _) sound.buffered
  owed := sound.owed

theorem Sound.drained (sound : Sound size stream) : Sound size stream.drained where
  buffered := sound.buffered
  owed := by simp [Writable.drained]

theorem callback_eq_some {item : α} {after : Writable α} (called : stream.callback size = some (item, after)) :
    stream.waiting = item :: after.waiting ∧ after.length = stream.length ∧ after.needDrain = stream.needDrain ∧
      stream.length ≤ total size after.waiting ∧ (after.waiting = [] → stream.needDrain = false) := by
  unfold Writable.callback at called
  split at called
  · cases called
  rename_i first rest waiting
  split at called
  · rename_i due
    cases called
    exact ⟨waiting, rfl, rfl, due.1, due.2⟩
  · cases called

theorem Sound.callback {item : α} {after : Writable α} (called : stream.callback size = some (item, after)) :
    Sound size after := by
  obtain ⟨_, length, needDrain, buffered, last⟩ := callback_eq_some called
  refine ⟨length ▸ buffered, ?_⟩
  intro owed none
  rw [needDrain, last none] at owed
  cases owed

end Cove.Base.ByteStream
