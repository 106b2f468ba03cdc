import Mathlib.Tactic
import Collabio.Library.Effect

/-!
# Transactions

A computation whose changes are undone where it raises.

* `Eff.transaction`             — the rollback;
* `transaction_eq_ok`           — a transaction that returns is its statements;
* `state_of_transaction_error`  — one that raises has changed nothing.
-/

namespace Eff

variable {ε σ α β : Type}

/-- What `x` has changed is undone if it raises. -/
def transaction (x : Eff ε σ α) : Eff ε σ α := fun s =>
  match x s with
  | (.ok a, s') => (.ok a, s')
  | (.error e, _) => (.error e, s)

theorem transaction_eq_ok {x : Eff ε σ α} {s s' : σ} {a : α} :
    transaction x s = (.ok a, s') ↔ x s = (.ok a, s') := by
  unfold transaction
  rcases x s with ⟨e | b, t⟩
  · exact ⟨fun h => (nomatch h), fun h => (nomatch h)⟩
  · exact Iff.rfl

/-- **Rollback.** -/
theorem state_of_transaction_error {x : Eff ε σ α} {s s' : σ} {e : ε}
    (h : transaction x s = (.error e, s')) : s' = s := by
  unfold transaction at h
  rcases hx : x s with ⟨e' | b, t⟩
  · rw [hx] at h
    exact (congrArg Prod.snd h).symm
  · rw [hx] at h
    cases h

theorem lift_bind_eq_ok {x : Except ε α} {f : α → Eff ε σ β} {s t : σ} {b : β} :
    (lift x >>= f) s = (.ok b, t) ↔ ∃ a, x = .ok a ∧ f a s = (.ok b, t) := by
  rw [lift_bind_apply]
  cases x with
  | error e => exact ⟨fun h => (nomatch h), fun ⟨_, h, _⟩ => (nomatch h)⟩
  | ok a => exact ⟨fun h => ⟨a, rfl, h⟩, fun ⟨_, ha, h⟩ => by cases ha; exact h⟩

end Eff
