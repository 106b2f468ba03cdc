import Mathlib.Tactic
import Collabio.Library.Program

/-!
# Histories

What one of several programs that take turns does to the state they share: the states before and
after each of its turns, but for turns that changed nothing to be seen.

* `Prog.Leaves`          — what holds of a program's turns at each point, and on return;
* `Leaves.bind`          — its sequence rule, with a rule for each kind of call;
* `Follows`, `Completes` — turns that keep to a script;
* `Pool.Accounts`        — the turns of one thread along a schedule;
* `leaves_run`           — the rule for schedules;
* `exists_step_to`       — who has brought about what is seen at the end.
-/

namespace Prog

variable {ε σ α β ν : Type}

/-- With these turns behind it, and in whatever states that satisfy `I` it makes its calls, the
turns of the program satisfy `T` at each point, and `Q` with a returned value. -/
def Leaves (view : σ → ν) (I : σ → Prop) (T : List (σ × σ) → Prop) (Q : α → List (σ × σ) → Prop) :
    List (σ × σ) → Prog ε σ α → Prop
  | turns, done result => T turns ∧ ∀ a, result = .ok a → Q a turns
  | turns, call update next => T turns ∧ ∀ s, I s →
      (view (update s) = view s ∧ Leaves view I T Q turns (next s)) ∨
        Leaves view I T Q (turns ++ [(s, update s)]) (next s)

section Leaves

variable {view : σ → ν} {I : σ → Prop} {T : List (σ × σ) → Prop} {Q : α → List (σ × σ) → Prop}
variable {R : β → List (σ × σ) → Prop} {turns : List (σ × σ)}

theorem leaves_done {result : Except ε α} : Leaves view I T Q turns (done result) ↔
    T turns ∧ ∀ a, result = .ok a → Q a turns := Iff.rfl

theorem leaves_call {update : σ → σ} {next : σ → Prog ε σ α} :
    Leaves view I T Q turns (call update next) ↔ T turns ∧ ∀ s, I s →
      (view (update s) = view s ∧ Leaves view I T Q turns (next s)) ∨
        Leaves view I T Q (turns ++ [(s, update s)]) (next s) := Iff.rfl

theorem Leaves.at_point {p : Prog ε σ α} (h : p.Leaves view I T Q turns) : T turns := by
  cases p with
  | done result => exact h.1
  | call update next => exact h.1

/-- **The sequence rule.** -/
theorem Leaves.bind {p : Prog ε σ α} {f : α → Prog ε σ β} (hp : p.Leaves view I T Q turns)
    (hf : ∀ a turns, Q a turns → (f a).Leaves view I T R turns) :
    (p >>= f).Leaves view I T R turns := by
  induction p generalizing turns with
  | done result =>
    cases result with
    | error e =>
      refine ⟨hp.1, fun b hb => ?_⟩
      cases hb
    | ok a => exact hf a turns (hp.2 a rfl)
  | call update next ih =>
    refine ⟨hp.1, fun s hs => ?_⟩
    rcases hp.2 s hs with ⟨hsame, hnext⟩ | hnext
    · exact .inl ⟨hsame, ih s hnext⟩
    · exact .inr (ih s hnext)

/-- A part that changes nothing to be seen. -/
theorem Leaves.of_does {G : σ → σ → Prop} {P : α → Prop} {p : Prog ε σ α} (h : p.Does I G P)
    (hG : ∀ s s', I s → G s s' → view s' = view s) (hT : T turns) :
    p.Leaves view I T (fun a turns' => turns' = turns ∧ P a) turns := by
  induction p with
  | done result => exact ⟨hT, fun a ha => ⟨rfl, does_done.mp h a ha⟩⟩
  | call update next ih =>
    refine ⟨hT, fun s hs => ?_⟩
    obtain ⟨hcall, hnext⟩ := does_call.mp h s hs
    exact .inl ⟨hG s _ hs hcall, ih s hnext⟩

/-- And then going on. -/
theorem Leaves.of_keeps_bind {p : Prog ε σ α} {f : α → Prog ε σ β} (h : p.Keeps view)
    (hT : T turns) (hf : ∀ a, (f a).Leaves view I T R turns) :
    (p >>= f).Leaves view I T R turns := by
  have hdoes : p.Does I (fun s s' => view s' = view s) fun _ => True :=
    h.mono (fun _ _ => trivial) (fun _ _ _ hsame => hsame) fun _ hany => hany
  refine (Leaves.of_does hdoes (fun _ _ _ hsame => hsame) hT).bind ?_
  rintro a turns' ⟨rfl, -⟩
  exact hf a

/-- A read that finds something, and then going on. -/
theorem leaves_read_bind {g : σ → Except ε α} {f : α → Prog ε σ β} (hT : T turns)
    (hf : ∀ s a, I s → g s = .ok a → (f a).Leaves view I T R turns) :
    (read g >>= f).Leaves view I T R turns := by
  refine ⟨hT, fun s hs => .inl ⟨rfl, ?_⟩⟩
  show (done (g s) >>= f).Leaves view I T R turns
  cases hread : g s with
  | error e =>
    refine ⟨hT, fun b hb => ?_⟩
    cases hb
  | ok a => exact hf s a hs hread

/-- Pure code, and then going on. -/
theorem leaves_lift_bind {x : Except ε α} {f : α → Prog ε σ β} (hT : T turns)
    (hf : ∀ a, x = .ok a → (f a).Leaves view I T R turns) :
    (lift x >>= f).Leaves view I T R turns := by
  cases x with
  | error e =>
    refine ⟨hT, fun b hb => ?_⟩
    cases hb
  | ok a => exact hf a rfl

/-- **A write**, and then going on: it is the next turn, or it raises and nothing is to be seen. -/
theorem leaves_atomic_bind {x : Eff ε σ α} {f : α → Prog ε σ β} (hT : T turns)
    (hraise : ∀ s e s', x s = (.error e, s') → view s' = view s)
    (hf : ∀ s a s', I s → x s = (.ok a, s') →
      (f a).Leaves view I T R (turns ++ [(s, s')])) :
    (atomic x >>= f).Leaves view I T R turns := by
  refine ⟨hT, fun s hs => ?_⟩
  rcases hx : x s with ⟨e | a, s'⟩
  · refine .inl ⟨?_, ?_⟩
    · exact (congrArg view (congrArg Prod.snd hx)).trans (hraise s e s' hx)
    · show (done (x s).1 >>= f).Leaves view I T R turns
      rw [hx]
      refine ⟨hT, fun b hb => ?_⟩
      cases hb
  · right
    show (done (x s).1 >>= f).Leaves view I T R (turns ++ [(s, (x s).2)])
    rw [hx]
    exact hf s a s' hs hx

theorem Leaves.mono {I' : σ → Prop} {T' : List (σ × σ) → Prop} {Q' : α → List (σ × σ) → Prop}
    (hI : ∀ s, I' s → I s) (hT : ∀ turns, T turns → T' turns)
    (hQ : ∀ a turns, Q a turns → Q' a turns) {p : Prog ε σ α} (h : p.Leaves view I T Q turns) :
    p.Leaves view I' T' Q' turns := by
  induction p generalizing turns with
  | done result => exact ⟨hT turns h.1, fun a ha => hQ a turns (h.2 a ha)⟩
  | call update next ih =>
    refine ⟨hT turns h.1, fun s hs => ?_⟩
    rcases h.2 s (hI s hs) with ⟨hsame, hnext⟩ | hnext
    · exact .inl ⟨hsame, ih s hnext⟩
    · exact .inr (ih s hnext)

end Leaves

-- taken apart by the rules above, as `Does` is
attribute [irreducible] Leaves

/-! ## Scripts -/

/-- The turns are those of the script. -/
def Completes (script : List (σ → σ → Prop)) (turns : List (σ × σ)) : Prop :=
  List.Forall₂ (fun G turn => G turn.1 turn.2) script turns

/-- The turns are as the script has them, as far as they go. -/
def Follows (script : List (σ → σ → Prop)) (turns : List (σ × σ)) : Prop :=
  ∃ past, past <+: script ∧ Completes past turns

theorem completes_nil : Completes ([] : List (σ → σ → Prop)) [] := List.Forall₂.nil

theorem follows_nil (script : List (σ → σ → Prop)) : Follows script [] :=
  ⟨[], List.nil_prefix, completes_nil⟩

theorem Completes.follows {script : List (σ → σ → Prop)} {turns : List (σ × σ)}
    (h : Completes script turns) : Follows script turns :=
  ⟨script, List.prefix_refl script, h⟩

theorem Completes.snoc {script : List (σ → σ → Prop)} {turns : List (σ × σ)}
    (h : Completes script turns) {G : σ → σ → Prop} {s s' : σ} (hG : G s s') :
    Completes (script ++ [G]) (turns ++ [(s, s')]) :=
  List.rel_append h (List.Forall₂.cons hG List.Forall₂.nil)

/-- The last of these turns is one of the script's. -/
theorem follows_concat {script : List (σ → σ → Prop)} {turns : List (σ × σ)} {s s' : σ}
    (h : Follows script (turns ++ [(s, s')])) :
    ∃ past G, past ++ [G] <+: script ∧ Completes past turns ∧ G s s' := by
  obtain ⟨past, hwithin, hcompletes⟩ := h
  have htake := List.forall₂_take_append past turns [(s, s')] hcompletes
  have hdrop := List.forall₂_drop_append past turns [(s, s')] hcompletes
  obtain ⟨G, rest, hG, hrest, hlast⟩ := List.forall₂_cons_right_iff.mp hdrop
  obtain rfl := List.forall₂_nil_right_iff.mp hrest
  refine ⟨past.take turns.length, G, ?_, htake, hG⟩
  rw [← hlast, List.take_append_drop]
  exact hwithin

end Prog

/-- **What is seen at the end** has been so from the beginning, or a step has brought it about. -/
theorem Runs.exists_step_to {S E O : Type*} {step : S → E → S} {s : S} {es : List E} (see : S → O)
    (o : O) (hend : see (Runs.run step s es) = o) (hstart : see s ≠ o) :
    ∃ before e, before ++ [e] <+: es ∧ see (Runs.run step s before) ≠ o ∧
      see (Runs.run step s (before ++ [e])) = o := by
  induction es using List.reverseRecOn with
  | nil => exact absurd hend hstart
  | append_singleton es e ih =>
    by_cases hbefore : see (Runs.run step s es) = o
    · obtain ⟨before, e', hwithin, hne, heq⟩ := ih hbefore
      exact ⟨before, e', hwithin.trans (List.prefix_append es [e]), hne, heq⟩
    · exact ⟨es, e, List.prefix_refl _, hbefore, hend⟩

namespace Pool

variable {ε σ α ν : Type}

/-! ## The turns of a thread -/

/-- Turns of thread `i` along the schedule, all that changed something to be seen among them. -/
inductive Accounts (view : σ → ν) (i : Nat) : Pool ε σ α → List Nat → List (σ × σ) → Prop
  | nil (pool : Pool ε σ α) : Accounts view i pool [] []
  | skip {pool : Pool ε σ α} {j : Nat} {schedule : List Nat} {turns : List (σ × σ)}
      (unseen : j ≠ i ∨ view (pool.step j).shared = view pool.shared)
      (rest : Accounts view i (pool.step j) schedule turns) :
      Accounts view i pool (j :: schedule) turns
  | turn {pool : Pool ε σ α} {schedule : List Nat} {turns : List (σ × σ)}
      (rest : Accounts view i (pool.step i) schedule turns) :
      Accounts view i pool (i :: schedule) ((pool.shared, (pool.step i).shared) :: turns)

section

variable {view : σ → ν} {i : Nat} {pool : Pool ε σ α} {schedule : List Nat}
variable {turns : List (σ × σ)}

/-- A turn is made between two states of the run. -/
theorem Accounts.mem (h : Accounts view i pool schedule turns) {s s' : σ} (hmem : (s, s') ∈ turns) :
    ∃ before, before ++ [i] <+: schedule ∧ (Runs.run Pool.step pool before).shared = s ∧
      (Runs.run Pool.step pool (before ++ [i])).shared = s' := by
  induction h with
  | nil => cases hmem
  | @skip pool j schedule turns unseen rest ih =>
    obtain ⟨before, hwithin, hs, hs'⟩ := ih hmem
    exact ⟨j :: before, List.cons_prefix_cons.mpr ⟨rfl, hwithin⟩, hs, hs'⟩
  | @turn pool schedule turns rest ih =>
    rcases List.mem_cons.mp hmem with hfirst | hlater
    · obtain ⟨rfl, rfl⟩ := Prod.mk.inj hfirst
      exact ⟨[], List.prefix_append [i] schedule, rfl, rfl⟩
    · obtain ⟨before, hwithin, hs, hs'⟩ := ih hlater
      exact ⟨i :: before, List.cons_prefix_cons.mpr ⟨rfl, hwithin⟩, hs, hs'⟩

/-- The last turn of a schedule. -/
theorem Accounts.concat_cases {j : Nat} (h : Accounts view i pool (schedule ++ [j]) turns) :
    ((j ≠ i ∨ view (Runs.run Pool.step pool (schedule ++ [j])).shared =
        view (Runs.run Pool.step pool schedule).shared) ∧
      Accounts view i pool schedule turns) ∨
      ∃ earlier, j = i ∧ Accounts view i pool schedule earlier ∧
        turns = earlier ++ [((Runs.run Pool.step pool schedule).shared,
          (Runs.run Pool.step pool (schedule ++ [j])).shared)] := by
  induction schedule generalizing pool turns with
  | nil =>
    rw [List.nil_append] at h
    cases h with
    | skip unseen rest =>
      cases rest
      exact .inl ⟨unseen, .nil pool⟩
    | turn rest =>
      cases rest
      exact .inr ⟨[], rfl, .nil pool, rfl⟩
  | cons k schedule ih =>
    rw [List.cons_append] at h
    cases h with
    | skip unseen rest =>
      rcases ih rest with ⟨hlast, hearlier⟩ | ⟨earlier, hj, hearlier, hturns⟩
      · exact .inl ⟨hlast, .skip unseen hearlier⟩
      · exact .inr ⟨earlier, hj, .skip unseen hearlier, hturns⟩
    | turn rest =>
      rcases ih rest with ⟨hlast, hearlier⟩ | ⟨earlier, hj, hearlier, hturns⟩
      · exact .inl ⟨hlast, .turn hearlier⟩
      · refine .inr ⟨_ :: earlier, hj, .turn hearlier, ?_⟩
        rw [hturns]
        rfl

/-- **A schedule**: the turns of the thread are accounted for. -/
theorem leaves_run {I : σ → Prop} {T : List (σ × σ) → Prop} {Q : α → List (σ × σ) → Prop}
    {p : Prog ε σ α} {past : List (σ × σ)} (hi : pool.threads[i]? = some p)
    (hI : Runs.Always Pool.step (fun pool => I pool.shared) pool schedule)
    (h : p.Leaves view I T Q past) :
    ∃ turns p', Accounts view i pool schedule turns ∧
      (Runs.run Pool.step pool schedule).threads[i]? = some p' ∧
      p'.Leaves view I T Q (past ++ turns) := by
  induction schedule generalizing pool p past with
  | nil =>
    refine ⟨[], p, .nil pool, hi, ?_⟩
    rw [List.append_nil]
    exact h
  | cons j schedule ih =>
    obtain ⟨hshared, hlater⟩ := Runs.always_cons.mp hI
    by_cases hij : j = i
    · subst hij
      cases p with
      | done result =>
        obtain ⟨turns, p', haccounts, hp', hleaves⟩ :=
          @ih (pool.step j) _ _ (by rw [step_of_done hi]; exact hi) hlater h
        have hsame : view (pool.step j).shared = view pool.shared := by rw [step_of_done hi]
        exact ⟨turns, p', .skip (.inr hsame) haccounts, hp', hleaves⟩
      | call update next =>
        have hstep := step_of_call hi
        have hnext : (pool.step j).threads[j]? = some (next pool.shared) := by
          rw [hstep]
          exact getElem?_set_of_call hi
        have hupdate : (pool.step j).shared = update pool.shared := by rw [hstep]
        rcases (Prog.leaves_call.mp h).2 pool.shared hshared with ⟨hsame, hleaves⟩ | hleaves
        · obtain ⟨turns, p', haccounts, hp', hrest⟩ := ih hnext hlater hleaves
          rw [← hupdate] at hsame
          exact ⟨turns, p', .skip (.inr hsame) haccounts, hp', hrest⟩
        · obtain ⟨turns, p', haccounts, hp', hrest⟩ := ih hnext hlater hleaves
          refine ⟨_, p', .turn haccounts, hp', ?_⟩
          rw [hupdate]
          simpa using hrest
    · obtain ⟨turns, p', haccounts, hp', hrest⟩ :=
        @ih (pool.step j) _ _ ((threads_step_of_ne hij).trans hi) hlater h
      exact ⟨turns, p', .skip (.inl hij) haccounts, hp', hrest⟩

/-! ## The run as a whole -/

theorem length_step (pool : Pool ε σ α) (i : Nat) :
    (pool.step i).threads.length = pool.threads.length := by
  rcases step_cases pool i with h | ⟨update, next, -, h⟩
  · rw [h]
  · rw [h, List.length_set]

theorem length_run (pool : Pool ε σ α) (schedule : List Nat) :
    (Runs.run Pool.step pool schedule).threads.length = pool.threads.length := by
  induction schedule generalizing pool with
  | nil => rfl
  | cons i schedule ih => exact (ih (pool.step i)).trans (length_step pool i)

/-- Only a thread of the pool has turns. -/
theorem step_of_none (h : pool.threads[i]? = none) (before : List Nat) :
    (Runs.run Pool.step pool (before ++ [i])).shared =
      (Runs.run Pool.step pool before).shared := by
  have hnone : (Runs.run Pool.step pool before).threads[i]? = none := by
    rw [List.getElem?_eq_none_iff] at h ⊢
    rw [length_run]
    exact h
  rw [Runs.run_append]
  show ((Runs.run Pool.step pool before).step i).shared = _
  rw [step, hnone]

/-- Later states are in a preorder with earlier ones that every call is in. -/
theorem AllDo.extends {I : σ → Prop} {G : Nat → σ → σ → Prop} {Q : Nat → α → Prop}
    {K : σ → σ → Prop} (hrefl : ∀ s, K s s) (htrans : ∀ s s' s'', K s s' → K s' s'' → K s s'')
    (hG : ∀ i s s', I s → G i s s' → K s s') (hI : ∀ i s s', I s → G i s s' → I s')
    (h : AllDo I G Q pool) (schedule : List Nat) :
    K pool.shared (Runs.run Pool.step pool schedule).shared := by
  induction schedule generalizing pool with
  | nil => exact hrefl _
  | cons i schedule ih =>
    refine htrans _ _ _ ?_ (ih (h.step hI i))
    rcases h.turn i with hsame | hturn
    · rw [hsame]
      exact hrefl _
    · exact hG i _ _ h.shared hturn

end

end Pool
