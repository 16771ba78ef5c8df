import Mathlib.Data.List.Nodup
import Mathlib.Tactic

/-!
Lists of items with unique keys, as an insertion-ordered map has them. An item that is found splits its list in one
way, and what a change or a removal does to a count or a sum is read off that split.
-/

namespace Cove.Base.Keyed
open List

variable {α κ : Type*} (key : α → κ)

def Unique (items : List α) : Prop := (items.map key).Nodup

variable {key} {items : List α} {k : κ} {found : α}

theorem Unique.split (unique : Unique key items) (member : found ∈ items) :
    ∃ before after, items = before ++ found :: after ∧ (∀ item ∈ before, key item ≠ key found) ∧
      ∀ item ∈ after, key item ≠ key found := by
  obtain ⟨before, after, rfl⟩ := append_of_mem member
  refine ⟨before, after, rfl, ?_, ?_⟩
  · intro item inside same
    have apart := disjoint_of_nodup_append (by simpa [Unique] using unique)
    exact apart (mem_map_of_mem inside) (by simp [same])
  · intro item inside same
    have rest := (nodup_append.mp (by simpa [Unique] using unique)).2.1
    exact (nodup_cons.mp rest).1 (List.mem_map.mpr ⟨item, inside, same⟩)

theorem Unique.eq_of_key (unique : Unique key items) {item other : α} (member : item ∈ items) (inside : other ∈ items)
    (same : key item = key other) : item = other :=
  inj_on_of_nodup_map unique member inside same

theorem Unique.append (unique : Unique key items) {item : α} (fresh : key item ∉ items.map key) :
    Unique key (items ++ [item]) := by
  unfold Unique
  rw [map_append]
  exact List.Nodup.append unique (nodup_singleton _) (by simpa using fresh)

variable [DecidableEq κ] (key)

def get? (items : List α) (k : κ) : Option α := items.find? (fun item => key item = k)

def modify (items : List α) (k : κ) (change : α → α) : List α :=
  items.map (fun item => if key item = k then change item else item)

def erase (items : List α) (k : κ) : List α := items.filter (fun item => key item ≠ k)

variable {key}

theorem get?_eq_some_key (got : get? key items k = some found) : key found = k := by
  simpa using find?_some got

theorem get?_eq_some_mem (got : get? key items k = some found) : found ∈ items := mem_of_find?_eq_some got

theorem get?_eq_none (missing : get? key items k = none) : k ∉ items.map key := by
  intro member
  obtain ⟨item, inside, same⟩ := List.mem_map.mp member
  have passed := find?_eq_none.mp missing item inside
  simp [same] at passed

theorem Unique.get?_of_mem (unique : Unique key items) (member : found ∈ items) :
    get? key items (key found) = some found := by
  obtain ⟨before, after, rfl, left, _⟩ := unique.split member
  unfold get?
  rw [find?_append, find?_eq_none.mpr (by simpa using left)]
  simp

variable (change : α → α)

theorem modify_absent (absent : ∀ item ∈ items, key item ≠ k) : modify key items k change = items := by
  conv_rhs => rw [← map_id items]
  apply map_congr_left
  intro item member
  simp [absent item member]

theorem modify_split {before after : List α} (change : α → α) (left : ∀ item ∈ before, key item ≠ key found)
    (right : ∀ item ∈ after, key item ≠ key found) :
    modify key (before ++ found :: after) (key found) change = before ++ change found :: after := by
  have kept := modify_absent change left
  have rest := modify_absent change right
  unfold modify at *
  simp [kept, rest]

theorem erase_split {before after : List α} (left : ∀ item ∈ before, key item ≠ key found)
    (right : ∀ item ∈ after, key item ≠ key found) :
    erase key (before ++ found :: after) (key found) = before ++ after := by
  unfold erase
  rw [filter_append, filter_cons_of_neg (by simp), filter_eq_self.mpr (by simpa using left),
    filter_eq_self.mpr (by simpa using right)]

theorem map_key_modify (keeps : ∀ item, key item = k → key (change item) = k) :
    (modify key items k change).map key = items.map key := by
  unfold modify
  rw [map_map]
  apply map_congr_left
  intro item _
  by_cases same : key item = k
  · simp [same, keeps item same]
  · simp [same]

theorem Unique.modify (unique : Unique key items) (change : α → α)
    (keeps : ∀ item, key item = k → key (change item) = k) : Unique key (modify key items k change) := by
  unfold Unique
  rw [map_key_modify change keeps]
  exact unique

theorem Unique.erase (unique : Unique key items) (k : κ) : Unique key (erase key items k) :=
  unique.sublist (List.Sublist.map key filter_sublist)

theorem mem_modify {item : α} (member : item ∈ Keyed.modify key items k change) :
    item ∈ items ∧ key item ≠ k ∨ ∃ old ∈ items, key old = k ∧ item = change old := by
  obtain ⟨old, inside, rfl⟩ := List.mem_map.mp member
  by_cases same : key old = k
  · right
    exact ⟨old, inside, same, by simp [same]⟩
  · simp [same, inside]

theorem mem_erase {item : α} (member : item ∈ Keyed.erase key items k) : item ∈ items ∧ key item ≠ k := by
  simpa [Keyed.erase] using member

theorem mem_erase_iff {item : α} : item ∈ Keyed.erase key items k ↔ item ∈ items ∧ key item ≠ k := by
  simp [Keyed.erase]

theorem Unique.countP_modify (unique : Unique key items) (member : found ∈ items) (change : α → α) (p : α → Bool) :
    (Keyed.modify key items (key found) change).countP p + (if p found then 1 else 0) =
      items.countP p + (if p (change found) then 1 else 0) := by
  obtain ⟨before, after, rfl, left, right⟩ := unique.split member
  rw [modify_split change left right]
  simp only [countP_append, countP_cons]
  omega

theorem Unique.countP_erase (unique : Unique key items) (member : found ∈ items) (p : α → Bool) :
    (Keyed.erase key items (key found)).countP p + (if p found then 1 else 0) = items.countP p := by
  obtain ⟨before, after, rfl, left, right⟩ := unique.split member
  rw [erase_split left right]
  simp only [countP_append, countP_cons]
  omega

theorem mem_modify_of_ne {item : α} (member : item ∈ items) (other : key item ≠ k) :
    item ∈ Keyed.modify key items k change :=
  List.mem_map.mpr ⟨item, member, by simp [other]⟩

theorem mem_modify_self (member : found ∈ items) : change found ∈ Keyed.modify key items (key found) change :=
  List.mem_map.mpr ⟨found, member, by simp⟩

end Cove.Base.Keyed
