import Mathlib.Data.List.Basic
import Mathlib.Tactic

/-!
Lengths and prefixes of texts as JavaScript counts them, in UTF-16 code units.
-/

namespace Cove.Base.Utf16

def units (char : Char) : Nat := if char.toNat < 65536 then 1 else 2

def utf16Length (text : String) : Nat := (text.toList.map units).sum

/-- The characters that fit into so many code units. -/
def sliceChars : List Char → Nat → List Char
  | [], _ => []
  | char :: rest, limit => if units char ≤ limit then char :: sliceChars rest (limit - units char) else []

/-- `text.slice(0, limit)`. A pair of surrogates that the limit would cut in two is left out. -/
def slice (text : String) (limit : Nat) : String := String.ofList (sliceChars text.toList limit)

theorem sliceChars_le (text : List Char) (limit : Nat) : ((sliceChars text limit).map units).sum ≤ limit := by
  fun_induction sliceChars text limit with
  | case1 => exact zero_le
  | case2 char rest limit fits ih =>
    simp only [List.map_cons, List.sum_cons]
    omega
  | case3 => exact zero_le

theorem utf16Length_slice_le (text : String) (limit : Nat) : utf16Length (slice text limit) ≤ limit := by
  rw [utf16Length, slice, String.toList_ofList]
  exact sliceChars_le text.toList limit

theorem units_pos (char : Char) : 0 < units char := by
  unfold units
  split <;> decide

theorem utf16Length_slice_pos {text : String} {limit : Nat} (nonempty : text ≠ "") (room : 2 ≤ limit) :
    0 < utf16Length (slice text limit) := by
  rw [utf16Length, slice, String.toList_ofList]
  cases chars : text.toList with
  | nil => exact absurd (String.toList_eq_nil_iff.mp chars) nonempty
  | cons char =>
    have small : units char ≤ limit := by
      unfold units
      split <;> omega
    have some_unit := units_pos char
    simp only [sliceChars, if_pos small, List.map_cons, List.sum_cons]
    omega

end Cove.Base.Utf16
