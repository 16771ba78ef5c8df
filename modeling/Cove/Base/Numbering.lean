import Mathlib.Data.List.Basic
import Mathlib.Tactic

/-!
Lists whose items are numbered from one upwards without a gap. The number of an item is its place, so a
part of such a list is known from the numbers it has.
-/

namespace Cove.Base.Numbering
open List

variable {α : Type*} {number : α → Nat}

/-- The items have the numbers 1, 2, 3 and so on. -/
def Numbered (number : α → Nat) (items : List α) : Prop :=
  items.map number = List.range' 1 items.length

theorem Numbered.nil : Numbered number ([] : List α) := rfl

variable {items : List α}

theorem Numbered.number_getElem (numbered : Numbered number items) {index : Nat}
    (inside : index < items.length) : number items[index] = index + 1 := by
  have same : (items.map number)[index]? = (List.range' 1 items.length)[index]? := by rw [numbered]
  rw [getElem?_map, getElem?_eq_getElem inside, getElem?_range' inside] at same
  simp only [Option.map_some, Option.some.injEq] at same
  omega

theorem Numbered.append (numbered : Numbered number items) {item : α}
    (next : number item = items.length + 1) : Numbered number (items ++ [item]) := by
  unfold Numbered at numbered ⊢
  rw [map_append, numbered, length_append, length_singleton, range'_concat]
  simp [next, Nat.add_comm]

theorem Numbered.getElem?_number (numbered : Numbered number items) {item : α}
    (held : item ∈ items) : items[number item - 1]? = some item := by
  obtain ⟨index, inside, rfl⟩ := mem_iff_getElem.mp held
  rw [numbered.number_getElem inside, Nat.add_sub_cancel, getElem?_eq_getElem inside]

/-- Items of the list with consecutive numbers are a stretch of it, wherever they were kept meanwhile. -/
theorem Numbered.stretch {items chosen : List α} (numbered : Numbered number items)
    (held : ∀ item ∈ chosen, item ∈ items) {after : Nat}
    (consecutive : chosen.map number = List.range' (after + 1) chosen.length) :
    chosen = (items.drop after).take chosen.length := by
  have place : ∀ index (inside : index < chosen.length), items[after + index]? = some chosen[index] := by
    intro index inside
    have same : (chosen.map number)[index]? = (List.range' (after + 1) chosen.length)[index]? := by
      rw [consecutive]
    rw [getElem?_map, getElem?_eq_getElem inside, getElem?_range' inside] at same
    simp only [Option.map_some, Option.some.injEq] at same
    have found := numbered.getElem?_number (held _ (getElem_mem inside))
    rw [← found]
    congr 1
    omega
  apply ext_getElem?
  intro index
  by_cases inside : index < chosen.length
  · rw [getElem?_eq_getElem inside, getElem?_take_of_lt inside, getElem?_drop, place index inside]
  rw [getElem?_eq_none (by omega), getElem?_eq_none]
  rw [length_take]
  omega

/-- The items numbered above `after` are those after the first `after`. -/
theorem Numbered.filter_drop (numbered : Numbered number items) {since after : Nat}
    (later : since ≤ after) : (items.drop since).filter (fun item => decide (after < number item)) = items.drop after := by
  have split : items.drop since = (items.drop since).take (after - since) ++ items.drop after := by
    conv_lhs => rw [← take_append_drop (after - since) (items.drop since)]
    rw [drop_drop]
    congr 2
    omega
  rw [split, filter_append]
  have early : ((items.drop since).take (after - since)).filter (fun item => decide (after < number item)) = [] := by
    rw [filter_eq_nil_iff]
    intro item held
    obtain ⟨index, inside, rfl⟩ := mem_iff_getElem.mp held
    rw [length_take] at inside
    rw [getElem_take, getElem_drop, numbered.number_getElem]
    simp only [decide_eq_true_eq]
    omega
  have late : (items.drop after).filter (fun item => decide (after < number item)) = items.drop after := by
    rw [filter_eq_self]
    intro item held
    obtain ⟨index, inside, rfl⟩ := mem_iff_getElem.mp held
    rw [getElem_drop, numbered.number_getElem]
    simp only [decide_eq_true_eq]
    omega
  rw [early, late, nil_append]

/-! The largest of some numbers. -/

theorem foldl_max_le_iff {numbers : List Nat} {least bound : Nat} :
    numbers.foldl max least ≤ bound ↔ least ≤ bound ∧ ∀ value ∈ numbers, value ≤ bound := by
  induction numbers generalizing least with
  | nil => simp
  | cons first rest ih => simp [ih, and_assoc]

theorem foldl_max_mem (numbers : List Nat) (least : Nat) :
    numbers.foldl max least = least ∨ numbers.foldl max least ∈ numbers := by
  induction numbers generalizing least with
  | nil => exact .inl rfl
  | cons first rest ih =>
    rcases ih (max least first) with same | inside
    · rcases max_choice least first with low | high
      · exact .inl (same.trans low)
      · exact .inr (mem_cons.mpr (.inl (same.trans high)))
    · exact .inr (mem_cons_of_mem first inside)

end Cove.Base.Numbering
