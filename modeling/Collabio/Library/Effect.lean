import Mathlib.Tactic

/-!
# Computations that change a state and may raise

`Eff ε σ α` is a computation over a state `σ` that returns an `α` or raises an
`ε`. As in a language with exceptions and mutable objects, raising does **not**
roll the state back: the state at the point of the raise is what the caller is
left with.

* `Eff.bind_eq_ok`, `Eff.bind_eq_error` — inversion of a sequenced computation;
* `Eff.Keeps` — what a computation does to the state, whether it returns or raises;
* `Except.bind_eq_ok` — inversion for pure fallible code.
-/

/-- A stateful computation that may raise; the state survives the raise. -/
def Eff (ε σ α : Type) := σ → Except ε α × σ

namespace Eff

variable {ε σ α β : Type}

instance : Monad (Eff ε σ) where
  pure a := fun s => (.ok a, s)
  bind x f := fun s =>
    match x s with
    | (.ok a, s') => f a s'
    | (.error e, s') => (.error e, s')

/-- Raise `e`, leaving the state as it is. -/
def raise (e : ε) : Eff ε σ α := fun s => (.error e, s)

/-- Read the state. -/
def get : Eff ε σ σ := fun s => (.ok s, s)

/-- Replace the state. -/
def set (s : σ) : Eff ε σ Unit := fun _ => (.ok (), s)

/-- Run pure fallible code. -/
def lift (x : Except ε α) : Eff ε σ α := fun s => (x, s)

@[simp] theorem pure_apply (a : α) (s : σ) : (pure a : Eff ε σ α) s = (.ok a, s) := rfl

@[simp] theorem raise_apply (e : ε) (s : σ) : (raise e : Eff ε σ α) s = (.error e, s) := rfl

@[simp] theorem get_apply (s : σ) : (get : Eff ε σ σ) s = (.ok s, s) := rfl

@[simp] theorem set_apply (s t : σ) : (set t : Eff ε σ Unit) s = (.ok (), t) := rfl

@[simp] theorem lift_apply (x : Except ε α) (s : σ) : (lift x : Eff ε σ α) s = (x, s) := rfl

theorem bind_apply (x : Eff ε σ α) (f : α → Eff ε σ β) (s : σ) :
    (x >>= f) s =
      match x s with
      | (.ok a, s') => f a s'
      | (.error e, s') => (.error e, s') := rfl

theorem bind_of_ok {x : Eff ε σ α} {f : α → Eff ε σ β} {s s' : σ} {a : α}
    (h : x s = (.ok a, s')) : (x >>= f) s = f a s' := by
  rw [bind_apply, h]

theorem bind_of_error {x : Eff ε σ α} {f : α → Eff ε σ β} {s s' : σ} {e : ε}
    (h : x s = (.error e, s')) : (x >>= f) s = (.error e, s') := by
  rw [bind_apply, h]

/-- A sequence returns only when both parts do. -/
theorem bind_eq_ok {x : Eff ε σ α} {f : α → Eff ε σ β} {s t : σ} {b : β} :
    (x >>= f) s = (.ok b, t) ↔ ∃ a s', x s = (.ok a, s') ∧ f a s' = (.ok b, t) := by
  constructor
  · intro h
    rcases hx : x s with ⟨_ | a, s'⟩
    · rw [bind_of_error hx] at h
      cases h
    · rw [bind_of_ok hx] at h
      exact ⟨a, s', rfl, h⟩
  · rintro ⟨a, s', hx, hf⟩
    rw [bind_of_ok hx, hf]

/-- A sequence raises in its first part or, after that returned, in its second. -/
theorem bind_eq_error {x : Eff ε σ α} {f : α → Eff ε σ β} {s t : σ} {e : ε} :
    (x >>= f) s = (.error e, t) ↔
      x s = (.error e, t) ∨ ∃ a s', x s = (.ok a, s') ∧ f a s' = (.error e, t) := by
  constructor
  · intro h
    rcases hx : x s with ⟨e' | a, s'⟩
    · rw [bind_of_error hx] at h
      exact .inl (by simpa using h)
    · rw [bind_of_ok hx] at h
      exact .inr ⟨a, s', rfl, h⟩
  · rintro (hx | ⟨a, s', hx, hf⟩)
    · exact bind_of_error hx
    · rw [bind_of_ok hx, hf]

/-- Sequencing after pure code: its state is untouched. -/
theorem lift_bind_apply (x : Except ε α) (f : α → Eff ε σ β) (s : σ) :
    (lift x >>= f) s = match x with | .ok a => f a s | .error e => (.error e, s) := by
  cases x <;> rfl

/-- Whatever `x` does, it relates the state before it to the state after it by `R`. -/
def Keeps (R : σ → σ → Prop) (x : Eff ε σ α) : Prop := ∀ s, R s (x s).2

theorem keeps_lift {R : σ → σ → Prop} (hrefl : ∀ s, R s s) (x : Except ε α) :
    (lift x).Keeps R := hrefl

theorem keeps_pure {R : σ → σ → Prop} (hrefl : ∀ s, R s s) (a : α) :
    (pure a : Eff ε σ α).Keeps R := hrefl

theorem keeps_raise {R : σ → σ → Prop} (hrefl : ∀ s, R s s) (e : ε) :
    (raise e : Eff ε σ α).Keeps R := hrefl

theorem Keeps.bind {R : σ → σ → Prop} (htrans : ∀ s t u, R s t → R t u → R s u)
    {x : Eff ε σ α} {f : α → Eff ε σ β} (hx : x.Keeps R) (hf : ∀ a, (f a).Keeps R) :
    (x >>= f).Keeps R := by
  intro s
  have hfirst := hx s
  rcases hrun : x s with ⟨e | a, s'⟩
  · rw [bind_of_error hrun]
    rwa [hrun] at hfirst
  · rw [bind_of_ok hrun]
    rw [hrun] at hfirst
    exact htrans _ _ _ hfirst (hf a s')

end Eff

/-- Pure code in sequence returns only when both parts do. -/
theorem Except.bind_eq_ok {ε α β : Type} {x : Except ε α} {f : α → Except ε β} {b : β} :
    (x >>= f) = .ok b ↔ ∃ a, x = .ok a ∧ f a = .ok b := by
  constructor
  · intro h
    cases x with
    | error e => cases h
    | ok a => exact ⟨a, rfl, h⟩
  · rintro ⟨a, rfl, h⟩
    exact h

/-- Pure code mapped over a list, element by element. -/
theorem Except.mapM_eq_ok {ε α β : Type} {f : α → Except ε β} {l : List α} {l' : List β} :
    l.mapM f = .ok l' ↔ List.Forall₂ (fun a b => f a = .ok b) l l' := by
  induction l generalizing l' with
  | nil =>
    rw [List.mapM_nil, List.forall₂_nil_left_iff]
    show Except.ok [] = Except.ok l' ↔ l' = []
    rw [Except.ok.injEq, eq_comm]
  | cons a l ih =>
    rw [List.mapM_cons, List.forall₂_cons_left_iff, Except.bind_eq_ok]
    constructor
    · rintro ⟨b, hb, h⟩
      obtain ⟨bs, hbs, h⟩ := Except.bind_eq_ok.mp h
      cases h
      exact ⟨b, bs, hb, ih.mp hbs, rfl⟩
    · rintro ⟨b, bs, hb, hbs, rfl⟩
      exact ⟨b, hb, Except.bind_eq_ok.mpr ⟨bs, ih.mpr hbs, rfl⟩⟩

/-- Each element has its result in the mapped list. -/
theorem Except.mem_mapM_of_mem {ε α β : Type} {f : α → Except ε β} {l : List α} {l' : List β}
    (h : l.mapM f = .ok l') {a : α} (ha : a ∈ l) : ∃ b ∈ l', f a = .ok b := by
  have hall := Except.mapM_eq_ok.mp h
  clear h
  induction hall with
  | nil => cases ha
  | @cons x y xs ys hxy _ ih =>
    rcases List.mem_cons.mp ha with rfl | ha
    · exact ⟨y, List.mem_cons_self, hxy⟩
    · obtain ⟨b, hb, hab⟩ := ih ha
      exact ⟨b, List.mem_cons_of_mem _ hb, hab⟩

/-- Each result comes from an element. -/
theorem Except.mem_of_mem_mapM {ε α β : Type} {f : α → Except ε β} {l : List α} {l' : List β}
    (h : l.mapM f = .ok l') {b : β} (hb : b ∈ l') : ∃ a ∈ l, f a = .ok b := by
  have hall := Except.mapM_eq_ok.mp h
  clear h
  induction hall with
  | nil => cases hb
  | @cons x y xs ys hxy _ ih =>
    rcases List.mem_cons.mp hb with rfl | hb
    · exact ⟨x, List.mem_cons_self, hxy⟩
    · obtain ⟨a, ha, hab⟩ := ih hb
      exact ⟨a, List.mem_cons_of_mem _ ha, hab⟩

/-- Pure code mapped over a list returns only when it returns on every element. -/
theorem Except.isOk_of_mapM {ε α β : Type} {f : α → Except ε β} {l : List α} {l' : List β}
    (h : l.mapM f = .ok l') : ∀ a ∈ l, ∃ b, f a = .ok b := by
  intro a ha
  obtain ⟨b, -, hb⟩ := Except.mem_mapM_of_mem h ha
  exact ⟨b, hb⟩

/-- The same when the first part is only a check. -/
theorem Except.unit_bind_eq_ok {ε α : Type} {x : Except ε Unit} {f : Unit → Except ε α} {a : α} :
    (x >>= f) = .ok a ↔ x = .ok () ∧ f () = .ok a := by
  constructor
  · intro h
    obtain ⟨_, hx, hf⟩ := Except.bind_eq_ok.mp h
    exact ⟨hx, hf⟩
  · rintro ⟨hx, hf⟩
    exact Except.bind_eq_ok.mpr ⟨(), hx, hf⟩

/-- The checks of a loop pass when each of them does. -/
theorem Except.forM_eq_ok {ε α : Type} {l : List α} {f : α → Except ε Unit} :
    l.forM f = .ok () ↔ ∀ a ∈ l, f a = .ok () := by
  induction l with
  | nil => exact ⟨fun _ a ha => absurd ha List.not_mem_nil, fun _ => rfl⟩
  | cons a l ih =>
    have hunfold : (a :: l).forM f = (f a >>= fun _ => l.forM f) := rfl
    rw [hunfold, Except.unit_bind_eq_ok, ih, List.forall_mem_cons]

/-- Each result of a mapping is one of its function. -/
theorem Except.mem_of_mapM {ε α β : Type} {f : α → Except ε β} {l : List α} {l' : List β}
    (h : l.mapM f = .ok l') : ∀ b ∈ l', ∃ a, f a = .ok b := by
  intro b hb
  obtain ⟨a, -, ha⟩ := Except.mem_of_mem_mapM h hb
  exact ⟨a, ha⟩

/-- What can be read off each result lists the elements again. -/
theorem Except.map_of_mapM {ε α β : Type} {f : α → Except ε β} {g : β → α} {l : List α}
    {l' : List β} (h : l.mapM f = .ok l') (hg : ∀ a b, f a = .ok b → g b = a) :
    l'.map g = l := by
  induction l generalizing l' with
  | nil =>
    cases h
    rfl
  | cons x xs ih =>
    rw [List.mapM_cons] at h
    obtain ⟨b, hb, h⟩ := Except.bind_eq_ok.mp h
    obtain ⟨bs, hbs, h⟩ := Except.bind_eq_ok.mp h
    cases h
    rw [List.map_cons, hg x b hb, ih hbs]

/-- A mapping returns when it returns on every element. -/
theorem Except.mapM_isOk {ε α β : Type} {f : α → Except ε β} {l : List α}
    (h : ∀ a ∈ l, ∃ b, f a = .ok b) : ∃ l', l.mapM f = .ok l' := by
  induction l with
  | nil => exact ⟨[], rfl⟩
  | cons x xs ih =>
    rw [List.forall_mem_cons] at h
    obtain ⟨b, hb⟩ := h.1
    obtain ⟨bs, hbs⟩ := ih h.2
    refine ⟨b :: bs, ?_⟩
    rw [List.mapM_cons]
    exact Except.bind_eq_ok.mpr ⟨b, hb, Except.bind_eq_ok.mpr ⟨bs, hbs, rfl⟩⟩

/-- A mapping keeps the number of elements. -/
theorem Except.length_of_mapM {ε α β : Type} {f : α → Except ε β} {l : List α} {l' : List β}
    (h : l.mapM f = .ok l') : l'.length = l.length :=
  (Except.mapM_eq_ok.mp h).length_eq.symm

/-- A mapping of a prefix begins the mapping of the whole. -/
theorem Except.prefix_of_mapM {ε α β : Type} {f : α → Except ε β} {l m : List α} {l' m' : List β}
    (h : l <+: m) (hl : l.mapM f = .ok l') (hm : m.mapM f = .ok m') : l' <+: m' := by
  obtain ⟨rest, rfl⟩ := h
  rw [List.mapM_append, hl] at hm
  obtain ⟨_, hok, hm⟩ := Except.bind_eq_ok.mp hm
  cases hok
  obtain ⟨rest', hrest, hm⟩ := Except.bind_eq_ok.mp hm
  cases hm
  exact ⟨rest', rfl⟩

/-- Mapping further, over results that are returned. -/
theorem Except.map_mapM {ε α β γ : Type} (f : α → Except ε β) (g : β → γ) (l : List α) :
    (l.mapM f).map (List.map g) = l.mapM fun a => (f a).map g := by
  induction l with
  | nil => rfl
  | cons a l ih =>
    rw [List.mapM_cons, List.mapM_cons, ← ih]
    cases f a with
    | error e => rfl
    | ok b => cases l.mapM f <;> rfl
