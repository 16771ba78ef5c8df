import Cove.Base.Keyed

/-!
Tables of rows, each row under a key of its own. Two rows of one key cannot be built: an insertion is refused when the
key is taken, a change of rows keeps their keys, and a deletion only takes rows away.
-/

namespace Cove.Base
open Option

structure Table {α κ : Type} (key : α → κ) where
  rows : List α
  unique : Keyed.Unique key rows

namespace Table

variable {α κ : Type} {key : α → κ}

def empty (key : α → κ) : Table key := ⟨[], List.nodup_nil⟩

instance : Membership α (Table key) := ⟨fun table row => row ∈ table.rows⟩

variable {table : Table key} {row : α}

theorem mem_def : row ∈ table ↔ row ∈ table.rows := Iff.rfl

@[ext] theorem ext {left right : Table key} (same : left.rows = right.rows) : left = right := by
  cases left
  cases same
  rfl

def map (table : Table key) (change : α → α) (keeps : ∀ row, key (change row) = key row) : Table key :=
  ⟨table.rows.map change, by
    have same : key ∘ change = key := funext keeps
    unfold Keyed.Unique
    rw [List.map_map, same]
    exact table.unique⟩

def filter (table : Table key) (passes : α → Bool) : Table key :=
  ⟨table.rows.filter passes, table.unique.sublist (List.Sublist.map key List.filter_sublist)⟩

theorem eq_of_key {row other : α} (inside : row ∈ table) (also : other ∈ table)
    (same : key row = key other) : row = other :=
  table.unique.eq_of_key inside also same

theorem mem_map {change : α → α} {keeps : ∀ row, key (change row) = key row} :
    row ∈ table.map change keeps ↔ ∃ old ∈ table, change old = row := List.mem_map

theorem mem_filter {passes : α → Bool} :
    row ∈ table.filter passes ↔ row ∈ table ∧ passes row = true := List.mem_filter

variable [DecidableEq κ]

def find (table : Table key) (k : κ) : Option α := Keyed.get? key table.rows k

def insert (table : Table key) (row : α) : Option (Table key) :=
  if fresh : key row ∉ table.rows.map key then some ⟨table.rows ++ [row], table.unique.append fresh⟩ else none

def update (table : Table key) (k : κ) (change : α → α) (keeps : ∀ row, key (change row) = key row) : Table key :=
  table.map (fun row => if key row = k then change row else row) (fun row => by split <;> simp [keeps])

def delete (table : Table key) (k : κ) : Table key := table.filter (fun row => key row ≠ k)

variable {k : κ}

theorem find_key (found : table.find k = some row) : key row = k :=
  Keyed.get?_eq_some_key found

theorem mem_of_find (found : table.find k = some row) : row ∈ table :=
  Keyed.get?_eq_some_mem found

theorem find_of_mem (inside : row ∈ table) : table.find (key row) = some row :=
  table.unique.get?_of_mem inside

theorem find_eq_some : table.find k = some row ↔ row ∈ table ∧ key row = k := by
  constructor
  · exact fun found => ⟨mem_of_find found, find_key found⟩
  · rintro ⟨inside, rfl⟩
    exact find_of_mem inside

theorem find_eq_none : table.find k = none ↔ ∀ row ∈ table, key row ≠ k := by
  constructor
  · intro missing row inside same
    rw [← same, find_of_mem inside] at missing
    cases missing
  · intro absent
    cases got : table.find k with
    | none => rfl
    | some row => exact absurd (find_key got) (absent row (mem_of_find got))

section Map

variable {table : Table key} {change : α → α} {keeps : ∀ row, key (change row) = key row}

@[simp] theorem find_map (k : κ) : (table.map change keeps).find k = (table.find k).map change := by
  cases got : table.find k with
  | none =>
    rw [find_eq_none] at got
    simp only [map_none, find_eq_none]
    intro row inside
    obtain ⟨old, member, rfl⟩ := mem_map.mp inside
    rw [keeps]
    exact got old member
  | some row =>
    obtain ⟨member, same⟩ := find_eq_some.mp got
    exact find_eq_some.mpr ⟨mem_map.mpr ⟨row, member, rfl⟩, by rw [keeps, same]⟩

theorem find_update (k other : κ) : (table.update k change keeps).find other =
    if other = k then (table.find other).map change else table.find other := by
  unfold update
  rw [find_map]
  cases got : table.find other with
  | none => simp
  | some =>
    have same := find_key got
    by_cases chosen : other = k
    · simp [chosen, same]
    · simp [chosen, same]

@[simp] theorem find_update_self (k : κ) : (table.update k change keeps).find k = (table.find k).map change := by
  rw [find_update, if_pos rfl]

end Map

theorem mem_delete : row ∈ table.delete k ↔ row ∈ table ∧ key row ≠ k := by
  unfold delete
  rw [mem_filter]
  simp

theorem find_filter {passes : α → Bool} (k : κ) :
    (table.filter passes).find k = (table.find k).filter passes := by
  cases got : table.find k with
  | none =>
    rw [find_eq_none] at got
    simp only [filter_none, find_eq_none]
    exact fun row inside => got row (mem_filter.mp inside).1
  | some row =>
    obtain ⟨member, same⟩ := find_eq_some.mp got
    by_cases passed : passes row = true
    · rw [filter_some_pos passed]
      exact find_eq_some.mpr ⟨mem_filter.mpr ⟨member, passed⟩, same⟩
    · rw [filter_some_neg (Bool.not_eq_true _ ▸ passed), find_eq_none]
      intro other inside equal
      obtain ⟨also, kept⟩ := mem_filter.mp inside
      rw [eq_of_key also member (equal.trans same.symm)] at kept
      exact passed kept

theorem find_delete (k other : κ) :
    (table.delete k).find other = if other = k then none else table.find other := by
  unfold delete
  rw [find_filter]
  cases got : table.find other with
  | none => simp
  | some =>
    have same := find_key got
    by_cases chosen : other = k <;> simp [chosen, same]

section Insert

variable {table grown : Table key} {row : α}

theorem insert_eq_some : table.insert row = some grown ↔
    table.find (key row) = none ∧ grown.rows = table.rows ++ [row] := by
  unfold insert
  have fresh_iff : key row ∉ table.rows.map key ↔ table.find (key row) = none := by
    rw [find_eq_none]
    simp [mem_def]
  split
  next fresh =>
    simp only [Option.some.injEq, fresh_iff.mp fresh, true_and]
    constructor
    · rintro rfl
      rfl
    · intro same
      exact ext same.symm
  next taken =>
    simp only [reduceCtorEq, false_iff, not_and]
    intro missing
    exact absurd (fresh_iff.mpr missing) taken

theorem mem_insert (inserted : table.insert row = some grown) {other : α} :
    other ∈ grown ↔ other ∈ table ∨ other = row := by
  rw [mem_def, (insert_eq_some.mp inserted).2]
  simp [mem_def]

theorem find_insert (inserted : table.insert row = some grown) (k : κ) :
    grown.find k = if k = key row then some row else table.find k := by
  by_cases same : k = key row
  · rw [if_pos same]
    exact find_eq_some.mpr ⟨(mem_insert inserted).mpr (.inr rfl), same.symm⟩
  · rw [if_neg same]
    cases got : table.find k with
    | none =>
      rw [find_eq_none] at got ⊢
      intro other inside
      rcases (mem_insert inserted).mp inside with member | rfl
      · exact got other member
      · exact fun equal => same equal.symm
    | some =>
      obtain ⟨member, found⟩ := find_eq_some.mp got
      exact find_eq_some.mpr ⟨(mem_insert inserted).mpr (.inl member), found⟩

theorem insert_eq_none : table.insert row = none ↔ table.find (key row) ≠ none := by
  have fresh_iff : key row ∉ table.rows.map key ↔ table.find (key row) = none := by
    rw [find_eq_none]
    simp [mem_def]
  unfold insert
  split <;> simp_all

theorem find_insert_getD (k : κ) : ((table.insert row).getD table).find k =
    (table.find k).orElse (fun _ => if k = key row then some row else none) := by
  cases inserted : table.insert row with
  | none =>
    rw [getD_none]
    obtain ⟨old, held⟩ := ne_none_iff_exists'.mp (insert_eq_none.mp inserted)
    by_cases same : k = key row
    · simp [same, held]
    · cases table.find k <;> simp [same]
  | some =>
    rw [getD_some, find_insert inserted]
    by_cases same : k = key row
    · simp [same, (insert_eq_some.mp inserted).1]
    · cases table.find k <;> simp [same]

theorem find_of_insert (inserted : table.insert row = some grown) : table.find (key row) = none :=
  (insert_eq_some.mp inserted).1

end Insert

end Table
end Cove.Base
