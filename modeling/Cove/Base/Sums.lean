import Mathlib.Algebra.BigOperators.Group.List.Basic
import Mathlib.Tactic

/-!
Sums of weights over the parts of a list that predicates select.
-/

namespace Cove.Base.Sums
open List

variable {α β : Type*}

/-- What one predicate selects, two that exclude each other may select between them. -/
theorem sum_filter_split (weight : α → Nat) (whole left right : α → Bool) (items : List α)
    (splits : ∀ item ∈ items, whole item = (left item || right item))
    (excludes : ∀ item ∈ items, (left item && right item) = false) : ((items.filter whole).map weight).sum =
      ((items.filter left).map weight).sum + ((items.filter right).map weight).sum := by
  induction items with
  | nil => rfl
  | cons item rest ih =>
    have tail := ih (fun other member => splits other (mem_cons_of_mem item member))
      (fun other member => excludes other (mem_cons_of_mem item member))
    have head := splits item mem_cons_self
    have apart := excludes item mem_cons_self
    cases inLeft : left item with
    | true =>
      cases inRight : right item with
      | true => simp [inLeft, inRight] at apart
      | false =>
        have inWhole : whole item = true := by simp [head, inLeft]
        simp [inWhole, inLeft, inRight, tail, Nat.add_assoc]
    | false =>
      cases inRight : right item with
      | true =>
        have inWhole : whole item = true := by simp [head, inRight]
        simp [inWhole, inLeft, inRight, tail, Nat.add_left_comm]
      | false =>
        have inWhole : whole item = false := by simp [head, inLeft, inRight]
        simp [inWhole, inLeft, inRight, tail]

theorem countP_split (whole left right : α → Bool) (items : List α)
    (splits : ∀ item, whole item = (left item || right item)) (excludes : ∀ item, (left item && right item) = false) :
    items.countP whole = items.countP left + items.countP right := by
  induction items with
  | nil => rfl
  | cons item rest ih =>
    have apart := excludes item
    rw [countP_cons, countP_cons, countP_cons, splits item]
    cases inLeft : left item with
    | true =>
      have outRight : right item = false := by simpa [inLeft] using apart
      simp only [outRight, Bool.or_false, Bool.false_eq_true, if_false]
      omega
    | false =>
      simp only [Bool.false_or, Bool.false_eq_true, if_false]
      omega

/-- Items that are selected one by one into a record of the same weight have that record's sum. -/
theorem sum_filter_eq_filterMap (weight : α → Nat) (entry : β → Nat) (chosen : α → Bool) (kept : β → Bool)
    (record : α → Option β) (items : List α)
    (weighs : ∀ item ∈ items, ∀ found, record item = some found → entry found = weight item)
    (matched : ∀ item ∈ items, chosen item = (record item).any kept) :
    ((items.filter chosen).map weight).sum = (((items.filterMap record).filter kept).map entry).sum := by
  induction items with
  | nil => rfl
  | cons item rest ih =>
    have tail := ih (fun other member => weighs other (mem_cons_of_mem item member))
      (fun other member => matched other (mem_cons_of_mem item member))
    have head := matched item mem_cons_self
    cases recorded : record item with
    | none =>
      have skipped : chosen item = false := by simp [head, recorded]
      simp [skipped, recorded, tail]
    | some found =>
      have same := weighs item mem_cons_self found recorded
      cases keeps : kept found with
      | true =>
        have taken : chosen item = true := by simp [head, recorded, keeps]
        simp [taken, recorded, keeps, tail, same]
      | false =>
        have skipped : chosen item = false := by simp [head, recorded, keeps]
        simp [skipped, recorded, keeps, tail]

end Cove.Base.Sums
