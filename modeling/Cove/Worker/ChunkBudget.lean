import Cove.Worker.Recovery

/-!
The chunks of a captured screen against the budgets. The screen and its tail are cut apart, so each of them may leave a
chunk that is not full, while the check of the budgets rounds their sum.
-/

namespace Cove.Worker.ChunkBudget
open Base.Chunks Protocol.Budgets Protocol.Identity Worker.Recovery

theorem length_baselineChunks (vt tail : List UInt8) : (baselineChunks vt tail).length =
    (vt.length + chunkBytes - 1) / chunkBytes + (tail.length + chunkBytes - 1) / chunkBytes := by
  simp only [baselineChunks, List.length_append, length_chunksOf]

/-- The chunks that the largest screen and the largest tail need. -/
def neededChunks (budgets : EffectiveBudgets) : Nat :=
  (budgets.baselineVtBytes + chunkBytes - 1) / chunkBytes + (budgets.baselineTailBytes + chunkBytes - 1) / chunkBytes

/-- Budgets that are accepted may fall short by a chunk. -/
theorem neededChunks_le {budgets : EffectiveBudgets} (valid : (validateEffectiveBudgets budgets).isSome) :
    neededChunks budgets ≤ budgets.baselineChunks + 1 := by
  have checked : ¬budgets.baselineChunks * 65536 < budgets.baselineVtBytes + budgets.baselineTailBytes := by
    intro short
    simp [validateEffectiveBudgets, short] at valid
  unfold neededChunks chunkBytes
  omega

/-- Under accepted budgets every capture within its byte limits needs no more than its chunks exactly when the two
largest parts, each rounded up, need no more; at worst one chunk is missing. -/
theorem chunk_budget_iff {budgets : EffectiveBudgets} (valid : (validateEffectiveBudgets budgets).isSome) :
    ((∀ vt tail : List UInt8, vt.length ≤ budgets.baselineVtBytes → tail.length ≤ budgets.baselineTailBytes →
      (baselineChunks vt tail).length ≤ budgets.baselineChunks) ↔
    neededChunks budgets ≤ budgets.baselineChunks) ∧ neededChunks budgets ≤ budgets.baselineChunks + 1 := by
  refine ⟨⟨?_, ?_⟩, neededChunks_le valid⟩
  · intro fits
    have largest := fits (List.replicate budgets.baselineVtBytes 0) (List.replicate budgets.baselineTailBytes 0)
      (by simp) (by simp)
    simpa [length_baselineChunks, neededChunks] using largest
  · intro enough vt tail screen rest
    have first : (vt.length + chunkBytes - 1) / chunkBytes ≤ (budgets.baselineVtBytes + chunkBytes - 1) / chunkBytes :=
      Nat.div_le_div_right (by omega)
    have second : (tail.length + chunkBytes - 1) / chunkBytes ≤
        (budgets.baselineTailBytes + chunkBytes - 1) / chunkBytes := Nat.div_le_div_right (by omega)
    rw [length_baselineChunks]
    exact (Nat.add_le_add first second).trans enough

theorem chunk_budget_default : (validateEffectiveBudgets m0Limits).isSome ∧
    ∀ vt tail : List UInt8, vt.length ≤ m0Limits.baselineVtBytes → tail.length ≤ m0Limits.baselineTailBytes →
      (baselineChunks vt tail).length ≤ m0Limits.baselineChunks := by
  have accepted : (validateEffectiveBudgets m0Limits).isSome := by decide
  exact ⟨accepted, (chunk_budget_iff accepted).1.mpr (by decide)⟩

def narrowBudgets : EffectiveBudgets :=
  { m0Limits with baselineVtBytes := 65537, baselineTailBytes := 65535, baselineChunks := 2 }

/-- The budgets are accepted, and `open` refuses the largest capture over its three chunks, whatever the route and the
worker. -/
theorem narrow_capture_refused : (validateEffectiveBudgets narrowBudgets).isSome ∧ neededChunks narrowBudgets = 3 ∧
    ∀ (env : Env) (subscriptions : Subscriptions) (route : Route) (baseline : Engine.EngineBaseline),
      env.budgets = narrowBudgets → baseline.vt.length = 65537 → baseline.tail.length = 65535 →
      subscriptions.nextBaseline ≠ maxSafeInteger → (baselineChunks baseline.vt baseline.tail).length = 3 ∧
      (installBaseline env subscriptions route baseline true).2 = some (.failure .recoveryUnavailable) := by
  refine ⟨by decide, by decide, ?_⟩
  intro env subscriptions route baseline budgets screen rest numbered
  refine ⟨?_, ?_⟩
  · simp [length_baselineChunks, screen, rest, chunkBytes]
  · simp [installBaseline, numbered, screen, rest, budgets, narrowBudgets, chunkBytes]

end Cove.Worker.ChunkBudget
