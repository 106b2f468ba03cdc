import Mathlib.Tactic
import Collabio.Library.Histories

/-!
# Programs of one component

A program that reaches a part of the state only, among programs that reach other parts.

* `Prog.within`           — a program over a part, as one over the whole;
* `Does.within`           — its calls do there what they do here, and leave the rest;
* `read_before_change`    — a program that begins with a read changes nothing before that returned;
* `AllDo.stronger`        — between two turns, a smaller guarantee for what is still to come.
-/

namespace Prog

variable {ε ε' σ τ α β : Type}

/-- A program over the part of a state that `get` shows and `put` replaces, with its errors as
`raised` makes them. -/
def within (raised : ε → ε') (get : σ → τ) (put : τ → σ → σ) : Prog ε τ α → Prog ε' σ α
  | done result => done (result.mapError raised)
  | call update next =>
    call (fun s => put (update (get s)) s) fun s => (next (get s)).within raised get put

/-- A program whose value is dropped. -/
theorem run_bind_pure (p : Prog ε σ α) (b : β) (s : σ) :
    ((p >>= fun _ => pure b).run s).2 = (p.run s).2 := by
  rw [run_bind]
  rcases hrun : p.run s with ⟨e | a, s'⟩
  · rw [Eff.bind_of_error hrun]
  · rw [Eff.bind_of_ok hrun]
    rfl

theorem get_run_within {raised : ε → ε'} {get : σ → τ} {put : τ → σ → σ}
    (hget : ∀ t s, get (put t s) = t) (p : Prog ε τ α) (s : σ) :
    get ((p.within raised get put).run s).2 = (p.run (get s)).2 := by
  induction p generalizing s with
  | done result => rfl
  | call update next ih =>
    show get (((next (get s)).within raised get put).run (put (update (get s)) s)).2 =
      ((next (get s)).run (update (get s))).2
    rw [ih, hget]

theorem Does.within {raised : ε → ε'} {get : σ → τ} {put : τ → σ → σ}
    (hget : ∀ t s, get (put t s) = t) {I : τ → Prop} {G : τ → τ → Prop} {Q : α → Prop}
    {p : Prog ε τ α} (h : p.Does I G Q) :
    (p.within raised get put).Does (fun s => I (get s))
      (fun s s' => G (get s) (get s') ∧ s' = put (get s') s) Q := by
  induction p with
  | done result =>
    refine does_done.mpr fun a ha => ?_
    cases result with
    | error e => cases ha
    | ok b =>
      cases ha
      exact does_done.mp h _ rfl
  | call update next ih =>
    refine does_call.mpr fun s hs => ?_
    obtain ⟨hcall, hnext⟩ := does_call.mp h (get s) hs
    refine ⟨⟨?_, ?_⟩, ih (get s) hnext⟩
    · rw [hget]
      exact hcall
    · rw [hget]

end Prog

namespace Pool

variable {ε σ α β : Type} {pool : Pool ε σ α} {i : Nat}

/-- A thread that has had no turn. -/
theorem threads_run_of_notMem {schedule : List Nat} (h : i ∉ schedule) :
    (Runs.run Pool.step pool schedule).threads[i]? = pool.threads[i]? := by
  induction schedule generalizing pool with
  | nil => rfl
  | cons j schedule ih =>
    rw [List.mem_cons, not_or] at h
    rw [Runs.run_cons, ih h.2]
    exact threads_step_of_ne (Ne.symm h.1)

theorem threads_run_of_done {result : Except ε α} (h : pool.threads[i]? = some (.done result))
    (schedule : List Nat) :
    (Runs.run Pool.step pool schedule).threads[i]? = some (.done result) := by
  induction schedule generalizing pool with
  | nil => exact h
  | cons j schedule ih =>
    refine ih ?_
    by_cases hij : j = i
    · subst hij
      rw [step_of_done h]
      exact h
    · exact (threads_step_of_ne hij).trans h

/-! ## Programs that begin with a read -/

section Reads

variable {f : σ → Except ε β} {g : β → Prog ε σ α}

/-- The read is still to come, or it has raised, or it has returned something. -/
theorem read_cases (h : pool.threads[i]? = some (Prog.read f >>= g)) (before : List Nat) :
    (Runs.run Pool.step pool before).threads[i]? = some (Prog.read f >>= g) ∨
      (∃ result, (Runs.run Pool.step pool before).threads[i]? = some (.done result)) ∨
      ∃ earlier b, earlier ++ [i] <+: before ∧
        f (Runs.run Pool.step pool earlier).shared = .ok b := by
  induction before using List.reverseRecOn with
  | nil => exact .inl h
  | append_singleton before j ih =>
    rw [Runs.run_append, Runs.run_cons, Runs.run_nil]
    rcases ih with hwaiting | ⟨result, hended⟩ | ⟨earlier, b, hwithin, hread⟩
    · by_cases hij : j = i
      · subst hij
        have hcall : (Runs.run Pool.step pool before).threads[j]? =
            some (.call id fun s => Prog.done (f s) >>= g) := hwaiting
        cases hread : f (Runs.run Pool.step pool before).shared with
        | error e =>
          refine .inr (.inl ⟨.error e, ?_⟩)
          rw [step_of_call hcall, hread]
          exact getElem?_set_of_call hcall
        | ok b => exact .inr (.inr ⟨before, b, List.prefix_refl _, hread⟩)
      · exact .inl ((threads_step_of_ne hij).trans hwaiting)
    · by_cases hij : j = i
      · subst hij
        rw [step_of_done hended]
        exact .inr (.inl ⟨result, hended⟩)
      · exact .inr (.inl ⟨result, (threads_step_of_ne hij).trans hended⟩)
    · exact .inr (.inr ⟨earlier, b, hwithin.trans (List.prefix_append before [j]), hread⟩)

/-- **Before a change the read has returned.** -/
theorem read_before_change (h : pool.threads[i]? = some (Prog.read f >>= g)) {before : List Nat}
    (hchange : (Runs.run Pool.step pool (before ++ [i])).shared ≠
      (Runs.run Pool.step pool before).shared) :
    ∃ earlier b, earlier ++ [i] <+: before ∧
      f (Runs.run Pool.step pool earlier).shared = .ok b := by
  rw [Runs.run_append, Runs.run_cons, Runs.run_nil] at hchange
  rcases read_cases h before with hwaiting | ⟨result, hended⟩ | hreturned
  · have hcall : (Runs.run Pool.step pool before).threads[i]? =
        some (.call id fun s => Prog.done (f s) >>= g) := hwaiting
    rw [step_of_call hcall] at hchange
    exact absurd rfl hchange
  · rw [step_of_done hended] at hchange
    exact absurd rfl hchange
  · exact hreturned

end Reads

/-! ## What is still to come -/

/-- **From a state of the run on**: a smaller invariant and smaller guarantees, for the threads that
have not begun, those that have ended, and those whose guarantees are small enough. -/
theorem AllDo.stronger {I J : σ → Prop} {G K : Nat → σ → σ → Prop} {Q : Nat → α → Prop}
    (hI : ∀ i s s', I s → G i s s' → I s') (h : AllDo I G Q pool) {before : List Nat}
    (hshared : J (Runs.run Pool.step pool before).shared) (hwithin : ∀ s, J s → I s)
    (hthreads : ∀ i p, pool.threads[i]? = some p →
      (i ∉ before ∧ p.Does J (K i) fun _ => True) ∨
      (∃ result, (Runs.run Pool.step pool before).threads[i]? = some (.done result)) ∨
      ∀ s s', J s → G i s s' → K i s s') :
    AllDo J K (fun _ _ => True) (Runs.run Pool.step pool before) where
  shared := hshared
  threads i p hp := by
    have hreached := h.always hI before before (List.prefix_refl before)
    have hlength : i < pool.threads.length := by
      have hlater := (List.getElem?_eq_some_iff.mp hp).1
      rwa [length_run] at hlater
    rcases hthreads i _ (List.getElem?_eq_getElem hlength) with
      ⟨hidle, hdoes⟩ | ⟨result, hended⟩ | hguarantee
    · rw [threads_run_of_notMem hidle, List.getElem?_eq_getElem hlength, Option.some.injEq] at hp
      rw [← hp]
      exact hdoes
    · rw [hended, Option.some.injEq] at hp
      rw [← hp]
      exact Prog.does_done.mpr fun _ _ => trivial
    · exact (hreached.threads i p hp).mono hwithin hguarantee fun _ _ => trivial

end Pool
