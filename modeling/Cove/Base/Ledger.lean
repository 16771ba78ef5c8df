import Mathlib.Algebra.BigOperators.Group.List.Basic
import Mathlib.Algebra.Order.BigOperators.Group.List
import Mathlib.Tactic

/-!
Entries that are opened, changed and closed one at a time, each under the index it was opened with, and what the open
ones of a kind add up to.
-/

namespace Cove.Base.Ledger
open List

structure Entry (κ : Type*) where
  kind : κ
  weight : Int
  live : Bool

variable {κ : Type*} (chosen : κ → Bool) {entries : List (Entry κ)} {entry old : Entry κ} {index : Nat}

def Entry.share (entry : Entry κ) : Int := if entry.live && chosen entry.kind then entry.weight else 0

def owed (entries : List (Entry κ)) : Int := (entries.map (Entry.share chosen)).sum

@[simp] theorem owed_nil : owed chosen ([] : List (Entry κ)) = 0 := rfl

theorem owed_open (entries : List (Entry κ)) (kind : κ) (weight : Int) :
    owed chosen (entries ++ [⟨kind, weight, true⟩]) = owed chosen entries + if chosen kind then weight else 0 := by
  simp [owed, Entry.share]

section

variable (got : entries[index]? = some old)
include got

theorem owed_set (entry : Entry κ) :
    owed chosen (entries.set index entry) = owed chosen entries - old.share chosen + entry.share chosen := by
  induction entries generalizing index with
  | nil => simp at got
  | cons head tail ih =>
    cases index with
    | zero =>
      cases got
      simp only [set_cons_zero, owed, map_cons, sum_cons]
      omega
    | succ =>
      have rest := ih got
      simp only [set_cons_succ, owed, map_cons, sum_cons] at rest ⊢
      omega

theorem owed_close (live : old.live = true) : owed chosen (entries.set index { old with live := false }) =
      owed chosen entries - if chosen old.kind then old.weight else 0 := by
  rw [owed_set chosen got]
  simp [Entry.share, live]

theorem owed_reweigh (live : old.live = true) (weight : Int) :
    owed chosen (entries.set index { old with weight := weight }) =
      owed chosen entries - if chosen old.kind then old.weight - weight else 0 := by
  rw [owed_set chosen got]
  by_cases inside : chosen old.kind = true
  · simp only [Entry.share, live, inside, Bool.and_self, if_true]
    omega
  · simp [Entry.share, inside]

end

theorem modify_of_some {α : Type*} {entries : List α} {old : α} (got : entries[index]? = some old) (change : α → α) :
    entries.modify index change = entries.set index (change old) := by
  simp [modify_eq_set_getElem?, got]

theorem modify_same {α : Type*} {entries : List α} {change : α → α}
    (same : ∀ old, entries[index]? = some old → change old = old) : entries.modify index change = entries := by
  refine ext_getElem? fun other => ?_
  rw [getElem?_modify]
  split
  next here =>
    subst here
    cases got : entries[index]? with
    | none => rfl
    | some old => simp [same old got]
  next => simp

theorem weigh_set {P : Entry κ → Prop} (each : ∀ entry ∈ entries, P entry) (replaced : P entry) (index : Nat) :
    ∀ other ∈ entries.set index entry, P other := by
  intro other member
  rcases mem_or_eq_of_mem_set member with kept | rfl
  · exact each other kept
  · exact replaced

end Cove.Base.Ledger
