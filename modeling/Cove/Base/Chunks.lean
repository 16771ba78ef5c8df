import Mathlib.Data.List.Basic
import Mathlib.Tactic

/-!
A list cut into consecutive pieces of one size, the last of which may be shorter.
-/

namespace Cove.Base.Chunks

variable {α : Type*}

/-- The number of pieces is the length divided by the size, rounded up. -/
def chunksOf (size : Nat) (items : List α) : List (List α) :=
  (List.range ((items.length + size - 1) / size)).map (fun index => (items.drop (index * size)).take size)

theorem length_chunksOf (size : Nat) (items : List α) :
    (chunksOf size items).length = (items.length + size - 1) / size := by
  simp [chunksOf]

theorem flatten_range (size count : Nat) (items : List α) :
    ((List.range count).map (fun index => (items.drop (index * size)).take size)).flatten =
      items.take (count * size) := by
  induction count with
  | zero => simp
  | succ count ih =>
    rw [List.range_succ, List.map_append, List.flatten_append, ih, Nat.succ_mul, List.take_add]
    simp

theorem flatten_chunksOf {size : Nat} (positive : 0 < size) (items : List α) :
    (chunksOf size items).flatten = items := by
  unfold chunksOf
  rw [flatten_range]
  apply List.take_of_length_le
  have whole := Nat.div_add_mod (items.length + size - 1) size
  have part := Nat.mod_lt (items.length + size - 1) positive
  rw [Nat.mul_comm] at whole
  omega

end Cove.Base.Chunks
