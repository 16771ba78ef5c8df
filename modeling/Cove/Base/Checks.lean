import Mathlib.Tactic

/-!
Checks of a computation that may stop with an error. A computation that ends well has passed every one of its checks,
and these lemmas read them off.
-/

namespace Cove.Base.Checks

universe u v

variable {ε : Type u} {α β : Type v}

def require (condition : Bool) (error : ε) : Except ε Unit := if condition then .ok () else .error error

def found (value : Option α) (error : ε) : Except ε α := value.elim (.error error) .ok

@[simp] theorem require_eq_ok {condition : Bool} {error : ε} {answer : Unit} :
    require condition error = .ok answer ↔ condition = true := by
  cases condition <;> simp [require]

@[simp] theorem found_eq_ok {value : Option α} {error : ε} {answer : α} :
    found value error = .ok answer ↔ value = some answer := by
  cases value <;> simp [found]

@[simp] theorem bind_eq_ok {first : Except ε α} {next : α → Except ε β} {answer : β} :
    first >>= next = .ok answer ↔ ∃ middle, first = .ok middle ∧ next middle = .ok answer := by
  cases first with
  | error stopped | ok middle => simp [bind, Except.bind]

@[simp] theorem pure_eq_ok {value answer : α} : (pure value : Except ε α) = .ok answer ↔ value = answer := by
  simp [pure, Except.pure]

@[simp] theorem map_eq_ok {change : α → β} {computed : Except ε α} {answer : β} :
    computed.map change = .ok answer ↔ ∃ value, computed = .ok value ∧ change value = answer := by
  cases computed <;> simp [Except.map]

/-- What is left of a computation that may have stopped. -/
def orElse (kept : α) : Except ε α → α
  | .ok value => value
  | .error _ => kept

end Cove.Base.Checks
