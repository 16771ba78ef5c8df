import Mathlib.Data.List.Basic
import Mathlib.Tactic

/-!
Append-only journals. A journal is lawful when each entry is in order at its place, judged by the entries before it.
-/

namespace Cove.Base.Journal
open List

variable {ε : Type} {law : List ε → ε → Prop}

def Lawful (law : List ε → ε → Prop) (journal : List ε) : Prop :=
  ∀ before entry after, journal = before ++ entry :: after → law before entry

theorem lawful_nil : Lawful law [] := by
  intro before entry after split
  exact absurd split (by simp)

theorem Lawful.append {journal : List ε} {entry : ε} (lawful : Lawful law journal) (next : law journal entry) :
    Lawful law (journal ++ [entry]) := by
  intro before other after split
  rcases eq_nil_or_concat after with rfl | ⟨rest, last, rfl⟩
  · obtain ⟨rfl, same⟩ := append_inj' split rfl
    obtain rfl : entry = other := singleton_inj.mp same
    exact next
  · rw [concat_eq_append, ← cons_append, ← append_assoc] at split
    obtain ⟨shorter, _⟩ := append_inj' split rfl
    exact lawful before other rest shorter

/-- Several entries at once, each judged by all that stand before it. -/
theorem Lawful.extend {journal entries : List ε} (lawful : Lawful law journal)
    (next : ∀ before entry after, entries = before ++ entry :: after → law (journal ++ before) entry) :
    Lawful law (journal ++ entries) := by
  induction entries using List.reverseRecOn with
  | nil => simpa using lawful
  | append_singleton front last ih =>
    rw [← append_assoc]
    apply (ih _).append (next front last [] rfl)
    intro before entry after split
    exact next before entry (after ++ [last]) (by rw [split, append_assoc, cons_append])

theorem Lawful.of_append {journal more : List ε} (lawful : Lawful law (journal ++ more)) : Lawful law journal := by
  intro before entry after split
  apply lawful before entry (after ++ more)
  rw [split, append_assoc, cons_append]

/-- An entry that the law allows once stands there at most once. -/
theorem Lawful.count_le_one [DecidableEq ε] {journal : List ε} {entry : ε} (lawful : Lawful law journal)
    (once : ∀ before, law before entry → entry ∉ before) : journal.count entry ≤ 1 := by
  induction journal using List.reverseRecOn with
  | nil => exact Nat.zero_le 1
  | append_singleton front last ih =>
    by_cases same : last = entry
    · have absent := once front (same ▸ lawful front last [] rfl)
      rw [count_append, count_eq_zero_of_not_mem absent, same, count_singleton_self]
    · rw [count_append, count_singleton, if_neg (by simpa using same)]
      exact ih lawful.of_append

end Cove.Base.Journal
