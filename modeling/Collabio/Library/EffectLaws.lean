import Mathlib.Tactic
import Collabio.Library.Effect

/-!
# What a computation may raise, and what it looks at

* `RaisesOnly P` — whatever the computation raises is in `P`;
* `Respects R`   — from states that `R` relates it has one result, and leaves related states.

The rules of both follow the sequencing of a computation's parts.
-/

namespace Except

variable {ε α β : Type} {P Q : ε → Prop}

def RaisesOnly (P : ε → Prop) (x : Except ε α) : Prop := ∀ e, x = .error e → P e

theorem raisesOnly_ok (a : α) : (Except.ok a : Except ε α).RaisesOnly P := by
  intro e h
  cases h

theorem raisesOnly_error {e : ε} (h : P e) : (Except.error e : Except ε α).RaisesOnly P := by
  intro e' h'
  cases h'
  exact h

theorem RaisesOnly.mono {x : Except ε α} (h : x.RaisesOnly P) (hPQ : ∀ e, P e → Q e) :
    x.RaisesOnly Q :=
  fun e he => hPQ e (h e he)

theorem ok_bind (a : α) (f : α → Except ε β) : (Except.ok a >>= f) = f a := rfl

theorem error_bind (e : ε) (f : α → Except ε β) : (Except.error e >>= f) = .error e := rfl

/-- A sequence raises what its parts raise. -/
theorem RaisesOnly.bind {x : Except ε α} {f : α → Except ε β} (hx : x.RaisesOnly P)
    (hf : ∀ a, x = .ok a → (f a).RaisesOnly P) : (x >>= f).RaisesOnly P := by
  intro e h
  cases x with
  | error e' =>
    cases h
    exact hx _ rfl
  | ok a => exact hf a rfl e h

end Except

namespace Eff

variable {ε σ α β : Type} {P : ε → Prop} {R : σ → σ → Prop}

def RaisesOnly (P : ε → Prop) (x : Eff ε σ α) : Prop := ∀ s, (x s).1.RaisesOnly P

theorem raisesOnly_lift {x : Except ε α} (h : x.RaisesOnly P) :
    (lift x : Eff ε σ α).RaisesOnly P := fun _ => h

theorem raisesOnly_pure (a : α) : (pure a : Eff ε σ α).RaisesOnly P :=
  fun _ => Except.raisesOnly_ok a

theorem raisesOnly_raise {e : ε} (h : P e) : (raise e : Eff ε σ α).RaisesOnly P :=
  fun _ => Except.raisesOnly_error h

theorem RaisesOnly.bind {x : Eff ε σ α} {f : α → Eff ε σ β} (hx : x.RaisesOnly P)
    (hf : ∀ a, (f a).RaisesOnly P) : (x >>= f).RaisesOnly P := by
  intro s
  rcases hrun : x s with ⟨e | a, s'⟩
  · rw [bind_of_error hrun]
    have hraised := hx s
    rw [hrun] at hraised
    exact Except.raisesOnly_error (hraised e rfl)
  · rw [bind_of_ok hrun]
    exact hf a s'

/-- The computation does not tell related states apart. -/
def Respects (R : σ → σ → Prop) (x : Eff ε σ α) : Prop :=
  ∀ s t, R s t → (x s).1 = (x t).1 ∧ R (x s).2 (x t).2

theorem respects_lift (x : Except ε α) : (lift x : Eff ε σ α).Respects R :=
  fun _ _ h => ⟨rfl, h⟩

theorem respects_pure (a : α) : (pure a : Eff ε σ α).Respects R := fun _ _ h => ⟨rfl, h⟩

theorem respects_raise (e : ε) : (raise e : Eff ε σ α).Respects R := fun _ _ h => ⟨rfl, h⟩

theorem Respects.bind {x : Eff ε σ α} {f : α → Eff ε σ β} (hx : x.Respects R)
    (hf : ∀ a, (f a).Respects R) : (x >>= f).Respects R := by
  intro s t hst
  obtain ⟨hresult, hstates⟩ := hx s t hst
  rcases hs : x s with ⟨e | a, s'⟩
  · rcases ht : x t with ⟨e' | a', t'⟩
    · rw [hs, ht] at hresult hstates
      rw [bind_of_error hs, bind_of_error ht]
      exact ⟨congrArg Except.error (Except.error.inj hresult), hstates⟩
    · rw [hs, ht] at hresult
      cases hresult
  · rcases ht : x t with ⟨e' | a', t'⟩
    · rw [hs, ht] at hresult
      cases hresult
    · rw [hs, ht] at hresult hstates
      rw [bind_of_ok hs, bind_of_ok ht, ← Except.ok.inj hresult]
      exact hf a s' t' hstates

end Eff
