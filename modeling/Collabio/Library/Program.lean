import Mathlib.Tactic
import Collabio.Library.Effect
import Collabio.Library.Runs

/-!
# Programs over a shared state

A `Prog ε σ α` reaches its state only through calls, each of them atomic, and
is pure code in between. It can be run to its end (`Prog.run`) or take turns
with other programs, call by call (`Pool.step`).

* `run_bind`      — running is a map of monads into `Eff`;
* `Prog.Does`     — what each call does, and what is returned, in whatever states
  that satisfy an invariant the calls are made; `Does.bind` is its sequence rule;
* `Does.run`      — what a whole run does then;
* `Prog.Along`    — what the calls of one run do;
* `Prog.Blind`    — what a program cannot tell apart;
* `Pool.AllDo.always` — what each turn of a pool does.
-/

/-- A program: it has a result, or makes a call and goes on with what it read. -/
inductive Prog (ε σ α : Type) where
  | done (result : Except ε α)
  | call (update : σ → σ) (next : σ → Prog ε σ α)

namespace Prog

variable {ε σ α β γ ν : Type}

/-- Go on with the returned value; a raise ends the program. -/
def bind : Prog ε σ α → (α → Prog ε σ β) → Prog ε σ β
  | done (.ok a), f => f a
  | done (.error e), _ => done (.error e)
  | call update next, f => call update fun s => (next s).bind f

instance : Monad (Prog ε σ) where
  pure a := done (.ok a)
  bind := bind

/-- Pure code between calls. -/
def lift (x : Except ε α) : Prog ε σ α := done x

/-- One atomic call. -/
def atomic (x : Eff ε σ α) : Prog ε σ α := call (fun s => (x s).2) fun s => done (x s).1

/-- A call that only reads. -/
def read (f : σ → Except ε α) : Prog ε σ α := call id fun s => done (f s)

theorem pure_def (a : α) : (pure a : Prog ε σ α) = done (.ok a) := rfl

theorem done_ok_bind (a : α) (f : α → Prog ε σ β) : (done (.ok a) >>= f) = f a := rfl

theorem done_error_bind (e : ε) (f : α → Prog ε σ β) : (done (.error e) >>= f) = done (.error e) :=
  rfl

theorem call_bind (update : σ → σ) (next : σ → Prog ε σ α) (f : α → Prog ε σ β) :
    (call update next >>= f) = call update fun s => next s >>= f := rfl

instance : LawfulMonad (Prog ε σ) := by
  refine LawfulMonad.mk' (Prog ε σ) ?_ ?_ ?_
  · intro α p
    show p.bind (fun a => done (.ok a)) = p
    induction p with
    | done result => cases result <;> rfl
    | call update next ih =>
      rw [bind]
      exact congrArg (call update) (funext ih)
  · intro α β a f
    rfl
  · intro α β γ p f g
    show (p.bind f).bind g = p.bind fun a => (f a).bind g
    induction p with
    | done result => cases result <;> rfl
    | call update next ih =>
      rw [bind, bind, bind]
      exact congrArg (call update) (funext ih)

/-! ## Running alone -/

/-- Run to the end, with nobody else about. -/
def run : Prog ε σ α → Eff ε σ α
  | done result => fun s => (result, s)
  | call update next => fun s => (next s).run (update s)

@[simp] theorem run_done (result : Except ε α) (s : σ) :
    (done result : Prog ε σ α).run s = (result, s) := rfl

@[simp] theorem run_pure (a : α) (s : σ) : (pure a : Prog ε σ α).run s = (.ok a, s) := rfl

@[simp] theorem run_lift (x : Except ε α) (s : σ) : (lift x : Prog ε σ α).run s = (x, s) := rfl

@[simp] theorem run_atomic (x : Eff ε σ α) (s : σ) : (atomic x).run s = x s := rfl

@[simp] theorem run_read (f : σ → Except ε α) (s : σ) : (read f).run s = (f s, s) := rfl

/-- **Running is a map of monads.** -/
theorem run_bind (p : Prog ε σ α) (f : α → Prog ε σ β) (s : σ) :
    (p >>= f).run s = (p.run >>= fun a => (f a).run) s := by
  induction p generalizing s with
  | done result => cases result <;> rfl
  | call update next ih => exact ih s (update s)

theorem run_bind_of_ok {p : Prog ε σ α} {f : α → Prog ε σ β} {s s' : σ} {a : α}
    (h : p.run s = (.ok a, s')) : (p >>= f).run s = (f a).run s' := by
  rw [run_bind, Eff.bind_of_ok h]

theorem run_bind_of_error {p : Prog ε σ α} {f : α → Prog ε σ β} {s s' : σ} {e : ε}
    (h : p.run s = (.error e, s')) : (p >>= f).run s = (.error e, s') := by
  rw [run_bind, Eff.bind_of_error h]

/-- A sequence returns only when both parts do. -/
theorem run_bind_eq_ok {p : Prog ε σ α} {f : α → Prog ε σ β} {s t : σ} {b : β} :
    (p >>= f).run s = (.ok b, t) ↔ ∃ a s', p.run s = (.ok a, s') ∧ (f a).run s' = (.ok b, t) := by
  rw [run_bind, Eff.bind_eq_ok]

/-- Reading and then going on. -/
theorem run_read_bind (g : σ → Except ε α) (f : α → Prog ε σ β) (s : σ) :
    (read g >>= f).run s = match g s with | .ok a => (f a).run s | .error e => (.error e, s) := by
  rw [run_bind, Eff.bind_apply, run_read]
  cases g s <;> rfl

/-- Pure code and then going on. -/
theorem run_lift_bind (x : Except ε α) (f : α → Prog ε σ β) (s : σ) :
    (lift x >>= f).run s = match x with | .ok a => (f a).run s | .error e => (.error e, s) := by
  cases x <;> rfl

/-- A part that leaves the state as it is, and then going on. -/
theorem run_bind_eq_ok_of_run {p : Prog ε σ α} {f : α → Prog ε σ β} {x : Except ε α} {s t : σ}
    {b : β} (hp : p.run s = (x, s)) :
    (p >>= f).run s = (.ok b, t) ↔ ∃ a, x = .ok a ∧ (f a).run s = (.ok b, t) := by
  rw [run_bind_eq_ok, hp]
  constructor
  · rintro ⟨a, s', hx, hf⟩
    obtain ⟨rfl, rfl⟩ := Prod.mk.inj hx
    exact ⟨a, rfl, hf⟩
  · rintro ⟨a, rfl, hf⟩
    exact ⟨a, s, rfl, hf⟩

/-- A sequence raises in its first part or, after that returned, in its second. -/
theorem run_bind_eq_error {p : Prog ε σ α} {f : α → Prog ε σ β} {s t : σ} {e : ε} :
    (p >>= f).run s = (.error e, t) ↔
      p.run s = (.error e, t) ∨ ∃ a s', p.run s = (.ok a, s') ∧ (f a).run s' = (.error e, t) := by
  rw [run_bind, Eff.bind_eq_error]

/-- A loop of parts that leave the state as it is. -/
theorem run_mapM_of_run {f : α → Prog ε σ β} {g : α → Except ε β} {s : σ} {l : List α}
    (hf : ∀ a ∈ l, (f a).run s = (g a, s)) : (l.mapM f).run s = (l.mapM g, s) := by
  induction l with
  | nil => rfl
  | cons a l ih =>
    rw [List.forall_mem_cons] at hf
    have hrest := ih hf.2
    rw [List.mapM_cons, List.mapM_cons]
    cases hg : g a with
    | error e =>
      rw [hg] at hf
      exact run_bind_of_error hf.1
    | ok b =>
      rw [hg] at hf
      rw [run_bind_of_ok hf.1]
      cases hgs : l.mapM g with
      | error e =>
        rw [hgs] at hrest
        exact run_bind_of_error hrest
      | ok bs =>
        rw [hgs] at hrest
        exact run_bind_of_ok hrest

/-! ## What the calls do -/

/-- In states that satisfy `I`, every call does `G` and a returned value satisfies `Q`. -/
def Does (I : σ → Prop) (G : σ → σ → Prop) (Q : α → Prop) : Prog ε σ α → Prop
  | done result => ∀ a, result = .ok a → Q a
  | call update next => ∀ s, I s → G s (update s) ∧ Does I G Q (next s)

section Does

variable {I : σ → Prop} {G : σ → σ → Prop} {Q : α → Prop} {R : β → Prop}

theorem does_done {result : Except ε α} :
    Does I G Q (done result : Prog ε σ α) ↔ ∀ a, result = .ok a → Q a := Iff.rfl

theorem does_call {update : σ → σ} {next : σ → Prog ε σ α} : Does I G Q (call update next) ↔
    ∀ s, I s → G s (update s) ∧ Does I G Q (next s) := Iff.rfl

theorem does_pure {a : α} (h : Q a) : Does I G Q (pure a : Prog ε σ α) := by
  intro b hb
  cases hb
  exact h

theorem does_lift {x : Except ε α} (h : ∀ a, x = .ok a → Q a) :
    Does I G Q (lift x : Prog ε σ α) := h

theorem does_atomic {x : Eff ε σ α}
    (h : ∀ s, I s → G s (x s).2 ∧ ∀ a, (x s).1 = .ok a → Q a) : Does I G Q (atomic x) := h

theorem does_read {f : σ → Except ε α} (hG : ∀ s, I s → G s s)
    (hQ : ∀ s, I s → ∀ a, f s = .ok a → Q a) : Does I G Q (read f) :=
  fun s hs => ⟨hG s hs, hQ s hs⟩

/-- **The sequence rule.** -/
theorem Does.bind {p : Prog ε σ α} {f : α → Prog ε σ β} (hp : Does I G Q p)
    (hf : ∀ a, Q a → Does I G R (f a)) : Does I G R (p >>= f) := by
  induction p with
  | done result =>
    cases result with
    | error e =>
      intro b hb
      cases hb
    | ok a => exact hf a (hp a rfl)
  | call update next ih =>
    intro s hs
    obtain ⟨hG, hnext⟩ := hp s hs
    exact ⟨hG, ih s hnext⟩

/-- **The loop rule.** -/
theorem Does.mapM {f : α → Prog ε σ β} {l : List α} (hf : ∀ a ∈ l, Does I G R (f a)) :
    Does I G (fun l' => ∀ b ∈ l', R b) (l.mapM f) := by
  induction l with
  | nil =>
    rw [List.mapM_nil]
    refine does_pure ?_
    intro b hb
    cases hb
  | cons a l ih =>
    rw [List.forall_mem_cons] at hf
    rw [List.mapM_cons]
    refine hf.1.bind fun b hb => (ih hf.2).bind fun bs hbs => does_pure ?_
    rw [List.forall_mem_cons]
    exact ⟨hb, hbs⟩

theorem Does.mono {I' : σ → Prop} {G' : σ → σ → Prop} {Q' : α → Prop} (hI : ∀ s, I' s → I s)
    (hG : ∀ s s', I' s → G s s' → G' s s') (hQ : ∀ a, Q a → Q' a) {p : Prog ε σ α}
    (h : Does I G Q p) : Does I' G' Q' p := by
  induction p with
  | done result =>
    intro a ha
    exact hQ a (h a ha)
  | call update next ih =>
    intro s hs
    obtain ⟨hcall, hnext⟩ := h s (hI s hs)
    exact ⟨hG s _ hs hcall, ih s hnext⟩

/-- **A whole run** does what its calls do, once the calls keep the invariant. -/
theorem Does.run {K : σ → σ → Prop} (hrefl : ∀ s, K s s)
    (htrans : ∀ s s' s'', G s s' → K s' s'' → K s s'') (hI : ∀ s s', I s → G s s' → I s')
    {p : Prog ε σ α} (h : Does I G Q p) {s : σ} (hs : I s) :
    K s (p.run s).2 ∧ ∀ a, (p.run s).1 = .ok a → Q a := by
  induction p generalizing s with
  | done result => exact ⟨hrefl s, h⟩
  | call update next ih =>
    obtain ⟨hG, hnext⟩ := h s hs
    obtain ⟨hrest, hresult⟩ := ih s hnext (hI s _ hs hG)
    exact ⟨htrans _ _ _ hG hrest, hresult⟩

end Does

/-- No call changes what `view` shows of the state. -/
abbrev Keeps (view : σ → ν) (p : Prog ε σ α) : Prop :=
  Does (fun _ => True) (fun s s' => view s' = view s) (fun _ => True) p

theorem Keeps.bind {view : σ → ν} {p : Prog ε σ α} {f : α → Prog ε σ β} (hp : p.Keeps view)
    (hf : ∀ a, (f a).Keeps view) : (p >>= f).Keeps view :=
  Does.bind hp fun a _ => hf a

theorem Keeps.run {view : σ → ν} {p : Prog ε σ α} (h : p.Keeps view) (s : σ) :
    view (p.run s).2 = view s := by
  refine (Does.run (K := fun s s' => view s' = view s) (fun _ => rfl) ?_ (fun _ _ _ _ => trivial) h
    trivial).1
  intro s s' s'' hs hs'
  exact hs'.trans hs

/-! ## What the calls of one run do -/

/-- Along the run from `s`, each call leads to a state that `R` relates to the one before. -/
def Along (R : σ → σ → Prop) : Prog ε σ α → σ → Prop
  | done _, _ => True
  | call update next, s => R s (update s) ∧ (next s).Along R (update s)

section Along

variable {R : σ → σ → Prop}

theorem along_call {update : σ → σ} {next : σ → Prog ε σ α} {s : σ} :
    (call update next).Along R s ↔ R s (update s) ∧ (next s).Along R (update s) := Iff.rfl

theorem Along.bind {p : Prog ε σ α} {f : α → Prog ε σ β} {s : σ} (hp : p.Along R s)
    (hf : ∀ a s', p.run s = (.ok a, s') → (f a).Along R s') : (p >>= f).Along R s := by
  induction p generalizing s with
  | done result =>
    cases result with
    | error e => trivial
    | ok a => exact hf a s rfl
  | call update next ih => exact ⟨hp.1, ih s hp.2 hf⟩

theorem Along.mono {R' : σ → σ → Prop} (hR : ∀ s s', R s s' → R' s s') {p : Prog ε σ α} {s : σ}
    (h : p.Along R s) : p.Along R' s := by
  induction p generalizing s with
  | done result => trivial
  | call update next ih => exact ⟨hR s _ h.1, ih s h.2⟩

/-- What every call does in states that satisfy an invariant, the calls of a run do. -/
theorem Does.along {I : σ → Prop} {Q : α → Prop} (hI : ∀ s s', I s → R s s' → I s')
    {p : Prog ε σ α} (h : Does I R Q p) {s : σ} (hs : I s) : p.Along R s := by
  induction p generalizing s with
  | done result => trivial
  | call update next ih =>
    obtain ⟨hR, hnext⟩ := h s hs
    exact ⟨hR, ih s hnext (hI s _ hs hR)⟩

end Along

/-! ## What a program sees -/

/-- The program goes on in the same way from states that `view` shows alike. -/
def Blind (view : σ → ν) : Prog ε σ α → Prop
  | done _ => True
  | call update next => ∀ s s', view s = view s' →
      view (update s) = view (update s') ∧ next s = next s' ∧ (next s).Blind view

section Blind

variable {view : σ → ν}

theorem blind_call {update : σ → σ} {next : σ → Prog ε σ α} : (call update next).Blind view ↔
    ∀ s s', view s = view s' →
      view (update s) = view (update s') ∧ next s = next s' ∧ (next s).Blind view := Iff.rfl

theorem blind_lift {x : Except ε α} : (lift x : Prog ε σ α).Blind view := trivial

theorem blind_pure {a : α} : (pure a : Prog ε σ α).Blind view := trivial

theorem blind_read {f : σ → Except ε α} (hf : ∀ s s', view s = view s' → f s = f s') :
    (read f).Blind view := by
  intro s s' hview
  exact ⟨hview, congrArg done (hf s s' hview), trivial⟩

theorem Blind.bind {p : Prog ε σ α} {f : α → Prog ε σ β} (hp : p.Blind view)
    (hf : ∀ a, (f a).Blind view) : (p >>= f).Blind view := by
  induction p with
  | done result =>
    cases result with
    | error e => trivial
    | ok a => exact hf a
  | call update next ih =>
    intro s s' hview
    obtain ⟨hupdate, hnext, hblind⟩ := hp s s' hview
    exact ⟨hupdate, congrArg (· >>= f) hnext, ih s hblind⟩

/-- A call whose result may differ, as long as what follows does not. -/
theorem blind_atomic_bind {x : Eff ε σ α} {f : α → Prog ε σ β}
    (hx : ∀ s s', view s = view s' → view (x s).2 = view (x s').2 ∧
      (lift (x s).1 >>= f) = (lift (x s').1 >>= f))
    (hf : ∀ a, (f a).Blind view) : (atomic x >>= f).Blind view := by
  intro s s' hview
  obtain ⟨hupdate, hnext⟩ := hx s s' hview
  exact ⟨hupdate, hnext, blind_lift.bind hf⟩

theorem blind_atomic {x : Eff ε σ α}
    (hx : ∀ s s', view s = view s' → view (x s).2 = view (x s').2 ∧ (x s).1 = (x s').1) :
    (atomic x).Blind view := by
  intro s s' hview
  obtain ⟨hupdate, hresult⟩ := hx s s' hview
  exact ⟨hupdate, congrArg done hresult, trivial⟩

theorem Blind.mapM {f : α → Prog ε σ β} {l : List α} (hf : ∀ a ∈ l, (f a).Blind view) :
    (l.mapM f).Blind view := by
  induction l with
  | nil => exact blind_pure
  | cons a l ih =>
    rw [List.forall_mem_cons] at hf
    rw [List.mapM_cons]
    exact hf.1.bind fun _ => (ih hf.2).bind fun _ => blind_pure

/-- Such states have the same result. -/
theorem Blind.run {p : Prog ε σ α} (h : p.Blind view) {s s' : σ} (hview : view s = view s') :
    (p.run s).1 = (p.run s').1 := by
  induction p generalizing s s' with
  | done result => rfl
  | call update next ih =>
    obtain ⟨hupdate, hnext, hblind⟩ := h s s' hview
    show ((next s).run (update s)).1 = ((next s').run (update s')).1
    rw [← hnext]
    exact ih s hblind hupdate

/-- And what the calls do to the view, they do from both. -/
theorem Blind.along {R : ν → ν → Prop} {p : Prog ε σ α} (h : p.Blind view) {s s' : σ}
    (hview : view s = view s') (hs : p.Along (fun t t' => R (view t) (view t')) s) :
    p.Along (fun t t' => R (view t) (view t')) s' := by
  induction p generalizing s s' with
  | done result => trivial
  | call update next ih =>
    obtain ⟨hupdate, hnext, hblind⟩ := h s s' hview
    refine ⟨?_, ?_⟩
    · show R (view s') (view (update s'))
      rw [← hview, ← hupdate]
      exact hs.1
    · rw [← hnext]
      exact ih s hblind hupdate hs.2

end Blind

-- programs are taken apart by the rules above, not by evaluating them
attribute [irreducible] Does Along Blind

end Prog

/-! ## Taking turns -/

/-- Programs that share a state. -/
structure Pool (ε σ α : Type) where
  shared  : σ
  threads : List (Prog ε σ α)

namespace Pool

variable {ε σ α : Type}

/-- The turn of thread `i`: its next call, if it has one. -/
def step (pool : Pool ε σ α) (i : Nat) : Pool ε σ α :=
  match pool.threads[i]? with
  | some (.call update next) => ⟨update pool.shared, pool.threads.set i (next pool.shared)⟩
  | _ => pool

variable {pool : Pool ε σ α} {i j : Nat}

theorem step_of_call {update : σ → σ} {next : σ → Prog ε σ α}
    (h : pool.threads[i]? = some (.call update next)) :
    pool.step i = ⟨update pool.shared, pool.threads.set i (next pool.shared)⟩ := by
  rw [step, h]

theorem step_of_done {result : Except ε α} (h : pool.threads[i]? = some (.done result)) :
    pool.step i = pool := by
  rw [step, h]

/-- **A turn**: nothing happens, or the next call of the thread is made. -/
theorem step_cases (pool : Pool ε σ α) (i : Nat) :
    pool.step i = pool ∨ ∃ update next, pool.threads[i]? = some (.call update next) ∧
      pool.step i = ⟨update pool.shared, pool.threads.set i (next pool.shared)⟩ := by
  unfold step
  split
  · rename_i update next h
    exact .inr ⟨update, next, h, rfl⟩
  · exact .inl rfl

/-- The thread whose turn it is. -/
theorem getElem?_set_of_call {update : σ → σ} {next : σ → Prog ε σ α} {p : Prog ε σ α}
    (h : pool.threads[i]? = some (.call update next)) :
    (pool.threads.set i p)[i]? = some p := by
  have hi : i < pool.threads.length := (List.getElem?_eq_some_iff.mp h).1
  rw [List.getElem?_set_self hi]

/-- A turn leaves the other threads. -/
theorem threads_step_of_ne (hne : i ≠ j) : (pool.step i).threads[j]? = pool.threads[j]? := by
  rcases step_cases pool i with h | ⟨update, next, -, h⟩
  · rw [h]
  · rw [h]
    exact List.getElem?_set_ne hne

/-- **A thread may go on alone** to its end. -/
theorem exists_run_alone {p : Prog ε σ α} (h : pool.threads[i]? = some p) :
    ∃ n, Runs.run Pool.step pool (List.replicate n i) =
      ⟨(p.run pool.shared).2, pool.threads.set i (.done (p.run pool.shared).1)⟩ := by
  induction p generalizing pool with
  | done result =>
    refine ⟨0, ?_⟩
    have hsame : pool.threads.set i (.done result) = pool.threads := by
      obtain ⟨hi, hget⟩ := List.getElem?_eq_some_iff.mp h
      rw [← hget, List.set_getElem_self]
    rw [List.replicate_zero, Runs.run_nil, Prog.run_done, hsame]
  | call update next ih =>
    obtain ⟨n, hrun⟩ := @ih pool.shared (pool.step i)
      (by rw [step_of_call h]; exact getElem?_set_of_call h)
    refine ⟨n + 1, ?_⟩
    rw [List.replicate_succ, Runs.run_cons, hrun, step_of_call h, List.set_set]
    rfl

/-! ### What each turn does -/

/-- The invariant holds, and each thread does what it is said to do. -/
structure AllDo (I : σ → Prop) (G : Nat → σ → σ → Prop) (Q : Nat → α → Prop)
    (pool : Pool ε σ α) : Prop where
  shared  : I pool.shared
  threads : ∀ i (p : Prog ε σ α), pool.threads[i]? = some p → p.Does I (G i) (Q i)

variable {I : σ → Prop} {G : Nat → σ → σ → Prop} {Q : Nat → α → Prop}

/-- A turn of thread `i` does nothing or what thread `i` does. -/
theorem AllDo.turn (h : AllDo I G Q pool) (i : Nat) :
    pool.step i = pool ∨ G i pool.shared (pool.step i).shared := by
  rcases step_cases pool i with hstep | ⟨update, next, hcall, hstep⟩
  · exact .inl hstep
  · right
    rw [hstep]
    exact (Prog.does_call.mp (h.threads i _ hcall) pool.shared h.shared).1

theorem AllDo.step (hI : ∀ i s s', I s → G i s s' → I s') (h : AllDo I G Q pool) (i : Nat) :
    AllDo I G Q (pool.step i) := by
  rcases step_cases pool i with hstep | ⟨update, next, hcall, hstep⟩
  · rw [hstep]
    exact h
  · obtain ⟨hG, hnext⟩ := Prog.does_call.mp (h.threads i _ hcall) pool.shared h.shared
    rw [hstep]
    refine { shared := hI i _ _ h.shared hG, threads := ?_ }
    intro j p hp
    by_cases hij : i = j
    · subst hij
      rw [getElem?_set_of_call hcall, Option.some.injEq] at hp
      rw [← hp]
      exact hnext
    · rw [List.getElem?_set_ne hij] at hp
      exact h.threads j p hp

/-- **A schedule**: what holds of the pool at first holds of it throughout. -/
theorem AllDo.always (hI : ∀ i s s', I s → G i s s' → I s') (h : AllDo I G Q pool)
    (schedule : List Nat) : Runs.Always Pool.step (AllDo I G Q) pool schedule :=
  Runs.always_of_invariant (fun _ i hpool => hpool.step hI i) h schedule

end Pool
