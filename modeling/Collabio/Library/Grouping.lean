import Mathlib.Tactic
import Collabio.Library.Dict
import Collabio.Library.Effect

/-!
# Grouping and sorting

Values are collected under their keys, in the order in which they come, and sorted by a key.

* `getD_group`, `get?_ofPairs` — what is found under a key: all its values, or the last one;
* `sorted_items_congr`         — dictionaries with the same lookups are sorted alike;
* `sortBy_congr`               — a sorting by distinct keys forgets the order of what it sorts;
* `List.Forall₂.pairwise`      — what two lists have in common, element by element;
* `Except.filter_mapM`, `Except.mapM_perm` — reading a part, or in another order.
-/

namespace Dict

variable {K V : Type*} [DecidableEq K]

/-- The values under a key, in their order. -/
def valuesOf (k : K) (pairs : List (K × V)) : List V := (pairs.filter (·.1 = k)).map Prod.snd

/-- `d.setdefault(key, []).append(value)` for each pair. -/
def group (pairs : List (K × V)) : Dict K (List V) :=
  pairs.foldl (fun d kv => d.set kv.1 ((d.get? kv.1).getD [] ++ [kv.2])) ∅

/-- `d[key] = value` for each pair. -/
def ofPairs (pairs : List (K × V)) : Dict K V :=
  pairs.foldl (fun d kv => d.set kv.1 kv.2) ∅

theorem valuesOf_concat (k : K) (pairs : List (K × V)) (kv : K × V) :
    valuesOf k (pairs ++ [kv]) = valuesOf k pairs ++ if kv.1 = k then [kv.2] else [] := by
  unfold valuesOf
  rw [List.filter_append, List.map_append]
  by_cases h : kv.1 = k
  · simp [h]
  · simp [h]

theorem mem_valuesOf {k : K} {v : V} {pairs : List (K × V)} :
    v ∈ valuesOf k pairs ↔ (k, v) ∈ pairs := by
  unfold valuesOf
  rw [List.mem_map]
  constructor
  · rintro ⟨⟨k', v'⟩, hmem, rfl⟩
    obtain ⟨hmem, hk⟩ := List.mem_filter.mp hmem
    rw [decide_eq_true_eq] at hk
    rwa [← hk]
  · intro h
    exact ⟨(k, v), List.mem_filter.mpr ⟨h, by simp⟩, rfl⟩

theorem valuesOf_perm {k : K} {pairs pairs' : List (K × V)} (h : pairs.Perm pairs') :
    (valuesOf k pairs).Perm (valuesOf k pairs') := (h.filter _).map _

/-- Assigning new keys one after the other appends the items. -/
theorem items_foldl_set {α : Type*} (k : α → K) (v : α → V) {l : List α}
    (hnodup : (l.map k).Nodup) (d : Dict K V) (hnew : ∀ x ∈ l, d.get? (k x) = none) :
    (l.foldl (fun d x => d.set (k x) (v x)) d).items = d.items ++ l.map fun x => (k x, v x) := by
  induction l generalizing d with
  | nil => simp
  | cons x l ih =>
    rw [List.map_cons, List.nodup_cons] at hnodup
    have hrest : ∀ y ∈ l, (d.set (k x) (v x)).get? (k y) = none := by
      intro y hy
      have hne : k y ≠ k x := fun h => hnodup.1 (h ▸ List.mem_map_of_mem hy)
      rw [get?_set_ne d _ hne]
      exact hnew y (List.mem_cons_of_mem _ hy)
    rw [List.foldl_cons, ih hnodup.2 _ hrest, items_set_new (hnew x List.mem_cons_self),
      List.append_assoc, List.singleton_append, List.map_cons]

theorem group_concat (pairs : List (K × V)) (kv : K × V) :
    group (pairs ++ [kv]) =
      (group pairs).set kv.1 (((group pairs).get? kv.1).getD [] ++ [kv.2]) := by
  unfold group
  rw [List.foldl_append]
  rfl

theorem ofPairs_concat (pairs : List (K × V)) (kv : K × V) :
    ofPairs (pairs ++ [kv]) = (ofPairs pairs).set kv.1 kv.2 := by
  unfold ofPairs
  rw [List.foldl_append]
  rfl

/-- Under each key stand its values. -/
theorem getD_group (pairs : List (K × V)) (k : K) :
    ((group pairs).get? k).getD [] = valuesOf k pairs := by
  induction pairs using List.reverseRecOn with
  | nil => rfl
  | append_singleton pairs kv ih =>
    rw [group_concat, valuesOf_concat, get?_set]
    by_cases h : k = kv.1
    · subst h
      rw [if_pos rfl, if_pos rfl, Option.getD_some, ih]
    · rw [if_neg h, if_neg (Ne.symm h), ih, List.append_nil]

/-- Every key has a value. -/
theorem get?_group_ne_nil {pairs : List (K × V)} {k : K} {values : List V}
    (h : (group pairs).get? k = some values) : values ≠ [] := by
  induction pairs using List.reverseRecOn with
  | nil => cases h
  | append_singleton pairs kv ih =>
    rw [group_concat, get?_set] at h
    by_cases hk : k = kv.1
    · rw [if_pos hk] at h
      cases h
      simp
    · rw [if_neg hk] at h
      exact ih h

theorem get?_group {pairs : List (K × V)} {k : K} {values : List V} :
    (group pairs).get? k = some values ↔ values = valuesOf k pairs ∧ values ≠ [] := by
  have hvalues := getD_group pairs k
  constructor
  · intro h
    rw [h, Option.getD_some] at hvalues
    exact ⟨hvalues, get?_group_ne_nil h⟩
  · rintro ⟨rfl, hne⟩
    cases hget : (group pairs).get? k with
    | none =>
      rw [hget, Option.getD_none] at hvalues
      exact absurd hvalues.symm hne
    | some values =>
      rw [hget, Option.getD_some] at hvalues
      rw [hvalues]

/-- The last value of a key counts. -/
theorem get?_ofPairs (pairs : List (K × V)) (k : K) :
    (ofPairs pairs).get? k = (valuesOf k pairs).getLast? := by
  induction pairs using List.reverseRecOn with
  | nil => rfl
  | append_singleton pairs kv ih =>
    rw [ofPairs_concat, valuesOf_concat, get?_set]
    by_cases h : k = kv.1
    · subst h
      rw [if_pos rfl, if_pos rfl, List.getLast?_concat]
    · rw [if_neg h, if_neg (Ne.symm h), ih, List.append_nil]

theorem get?_mapValues {W : Type*} (d : Dict K V) (f : V → W) (k : K) :
    (d.mapValues f).get? k = (d.get? k).map f := d.get?_mapItems (fun _ => f) k

end Dict

/-! ## Sorting by a key -/

section

variable {A O : Type*} [LinearOrder O]

/-- `sorted(l, key=key)`, which is stable. -/
def sortBy (key : A → O) (l : List A) : List A := l.insertionSort fun a b => key a ≤ key b

instance total_keys (key : A → O) : Std.Total fun a b : A => key a ≤ key b :=
  ⟨fun _ _ => le_total _ _⟩

instance trans_keys (key : A → O) : IsTrans A fun a b : A => key a ≤ key b :=
  ⟨fun _ _ _ => le_trans⟩

@[simp] theorem sortBy_nil (key : A → O) : sortBy key [] = [] := rfl

/-- What no other element precedes stays in front. -/
theorem sortBy_cons_of_forall_le {key : A → O} {a : A} {l : List A}
    (h : ∀ b ∈ l, key a ≤ key b) : sortBy key (a :: l) = a :: sortBy key l :=
  List.insertionSort_cons_of_forall_rel _ h

theorem sortBy_perm (key : A → O) (l : List A) : (sortBy key l).Perm l :=
  List.perm_insertionSort _ l

theorem sortBy_ordered (key : A → O) (l : List A) :
    (sortBy key l).Pairwise fun a b => key a ≤ key b := List.pairwise_insertionSort _ l

/-- Distinct keys stand in their strict order. -/
theorem sortBy_strict {key : A → O} {l : List A} (h : l.Pairwise fun a b => key a ≠ key b) :
    (sortBy key l).Pairwise fun a b => key a < key b := by
  have hdistinct : (sortBy key l).Pairwise fun a b => key a ≠ key b :=
    (sortBy_perm key l).symm.pairwise h fun hab => hab.symm
  exact (sortBy_ordered key l).imp₂ (fun _ _ hle hne => lt_of_le_of_ne hle hne) hdistinct

theorem eq_of_perm_of_strict {key : A → O} {l l' : List A}
    (h : l.Pairwise fun a b => key a < key b) (h' : l'.Pairwise fun a b => key a < key b)
    (hperm : l.Perm l') : l = l' :=
  hperm.eq_of_pairwise (fun _ _ _ _ hab hba => absurd hba (lt_asymm hab)) h h'

/-- What is in strict order is what the sorting gives. -/
theorem sortBy_eq_of_strict {key : A → O} {l l' : List A} (hperm : l'.Perm l)
    (h : l'.Pairwise fun a b => key a < key b) : sortBy key l = l' := by
  have hne : l.Pairwise fun a b => key a ≠ key b :=
    hperm.pairwise (h.imp fun hlt => hlt.ne) fun hab => hab.symm
  exact eq_of_perm_of_strict (sortBy_strict hne) h ((sortBy_perm key l).trans hperm.symm)

/-- A sorting by an injective key forgets it too. -/
theorem sortBy_congr_of_injective {key : A → O} (hkey : key.Injective) {l l' : List A}
    (hperm : l.Perm l') : sortBy key l = sortBy key l' := by
  have hsame := (sortBy_perm key l).trans (hperm.trans (sortBy_perm key l').symm)
  exact hsame.eq_of_pairwise (fun _ _ _ _ hab hba => hkey (le_antisymm hab hba))
    (sortBy_ordered key l) (sortBy_ordered key l')

/-- A sorting by distinct keys forgets the order of what it sorts. -/
theorem sortBy_congr {key : A → O} {l l' : List A} (h : l.Pairwise fun a b => key a ≠ key b)
    (hperm : l.Perm l') : sortBy key l = sortBy key l' := by
  have h' : l'.Pairwise fun a b => key a ≠ key b := hperm.pairwise h fun hab => hab.symm
  exact eq_of_perm_of_strict (sortBy_strict h) (sortBy_strict h')
    ((sortBy_perm key l).trans (hperm.trans (sortBy_perm key l').symm))

end

namespace Dict

variable {K V : Type*} [LinearOrder K]

/-- The keys of a sorted dictionary rise strictly. -/
theorem sorted_items_strict (d : Dict K V) :
    d.sorted.items.Pairwise fun a b => a.1 < b.1 := by
  have hordered : d.sorted.items.Pairwise fun a b => a.1 ≤ b.1 :=
    List.pairwise_mergeSort' (fun a b : K × V => a.1 ≤ b.1) d.items
  have hdistinct : d.sorted.items.Pairwise fun a b => a.1 ≠ b.1 :=
    List.pairwise_map.mp d.sorted.nodup
  exact hordered.imp₂ (fun _ _ hle hne => lt_of_le_of_ne hle hne) hdistinct

/-- Dictionaries with the same lookups are sorted alike. -/
theorem sorted_items_congr {d d' : Dict K V} (h : ∀ k, d.get? k = d'.get? k) :
    d.sorted.items = d'.sorted.items := by
  refine eq_of_perm_of_strict d.sorted_items_strict d'.sorted_items_strict ?_
  rw [List.perm_ext_iff_of_nodup (List.Nodup.of_map _ d.sorted.nodup)
    (List.Nodup.of_map _ d'.sorted.nodup)]
  rintro ⟨k, v⟩
  rw [mem_items_sorted, mem_items_sorted, mem_items, mem_items, h k]

end Dict

/-! ## Lists -/

theorem List.Forall₂.exists_of_mem_left {A B : Type*} {R : A → B → Prop} {l : List A} {m : List B}
    (h : Forall₂ R l m) {a : A} (ha : a ∈ l) : ∃ b ∈ m, R a b := by
  induction h with
  | nil => cases ha
  | cons hab _ ih =>
    rcases List.mem_cons.mp ha with rfl | ha
    · exact ⟨_, List.mem_cons_self, hab⟩
    · obtain ⟨b, hb, hab⟩ := ih ha
      exact ⟨b, List.mem_cons_of_mem _ hb, hab⟩

theorem List.Forall₂.exists_of_mem_right {A B : Type*} {R : A → B → Prop} {l : List A}
    {m : List B} (h : Forall₂ R l m) {b : B} (hb : b ∈ m) : ∃ a ∈ l, R a b :=
  h.flip.exists_of_mem_left hb

/-- A list between two others, element by element. -/
theorem List.Forall₂.exists_between {A B C : Type*} {R : A → B → Prop} {S : A → C → Prop}
    {T : C → B → Prop} {l : List A} {m : List B} (h : Forall₂ R l m)
    (hbetween : ∀ a b, R a b → ∃ c, S a c ∧ T c b) : ∃ n, Forall₂ S l n ∧ Forall₂ T n m := by
  induction h with
  | nil => exact ⟨[], .nil, .nil⟩
  | @cons a b l m hab _ ih =>
    obtain ⟨c, hac, hcb⟩ := hbetween a b hab
    obtain ⟨n, hln, hnm⟩ := ih
    exact ⟨c :: n, .cons hac hln, .cons hcb hnm⟩

/-- Lists of which the second is read of the first are alike in pairs. -/
theorem List.Forall₂.pairwise {A B : Type*} {R : A → B → Prop} {S : A → A → Prop}
    {T : B → B → Prop} {l : List A} {m : List B} (h : Forall₂ R l m)
    (hst : ∀ a a' b b', S a a' → R a b → R a' b' → T b b') (hl : l.Pairwise S) :
    m.Pairwise T := by
  induction h with
  | nil => exact .nil
  | @cons a b l m hab hrest ih =>
    obtain ⟨hfirst, hl⟩ := List.pairwise_cons.mp hl
    refine List.pairwise_cons.mpr ⟨fun b' hb' => ?_, ih hl⟩
    obtain ⟨a', ha', hab'⟩ := hrest.exists_of_mem_right hb'
    exact hst _ _ _ _ (hfirst a' ha') hab hab'

/-- If as many elements pass a narrow test as a wide one, the tests agree. -/
theorem List.of_length_filter_eq {A : Type*} {p q : A → Bool} {l : List A}
    (hpq : ∀ a, p a = true → q a = true) (h : (l.filter p).length = (l.filter q).length) {a : A}
    (ha : a ∈ l) (hq : q a = true) : p a = true := by
  have hsub : (l.filter p).Sublist (l.filter q) := List.monotone_filter_right l hpq
  have hmem : a ∈ l.filter p := by
    rw [hsub.eq_of_length h]
    exact List.mem_filter.mpr ⟨ha, hq⟩
  exact (List.mem_filter.mp hmem).2

/-- The last of values that do not differ stays last in any order. -/
theorem List.Perm.getLast?_eq {A : Type*} {l m : List A} (h : l.Perm m)
    (hsame : ∀ a ∈ l, ∀ b ∈ l, a = b) : l.getLast? = m.getLast? := by
  cases hl : l.getLast? with
  | none =>
    rw [List.getLast?_eq_none_iff] at hl
    subst hl
    rw [List.nil_perm.mp h]
    rfl
  | some a =>
    cases hm : m.getLast? with
    | none =>
      rw [List.getLast?_eq_none_iff] at hm
      subst hm
      rw [List.perm_nil.mp h] at hl
      cases hl
    | some b =>
      have hb : b ∈ l := h.mem_iff.mpr (List.mem_of_getLast? hm)
      rw [hsame a (List.mem_of_getLast? hl) b hb]

theorem List.exists_perm_concat {A : Type*} {l : List A} {a : A} (h : a ∈ l) :
    ∃ m, l.Perm (m ++ [a]) := by
  obtain ⟨s, t, rfl⟩ := List.append_of_mem h
  exact ⟨s ++ t, List.perm_middle.trans (List.perm_append_singleton a _).symm⟩

theorem List.exists_perm_cons {A : Type*} {l : List A} {a : A} (h : a ∈ l) :
    ∃ m, l.Perm (a :: m) := by
  obtain ⟨s, t, rfl⟩ := List.append_of_mem h
  exact ⟨s ++ t, List.perm_middle⟩

/-! ## Reading a part -/

/-- Reading the elements that are kept gives what is kept of what was read. -/
theorem Except.filter_mapM {ε α β : Type} {f : α → Except ε β} {l : List α} {l' : List β}
    (h : l.mapM f = .ok l') {p : α → Bool} {q : β → Bool}
    (hpq : ∀ a ∈ l, ∀ b, f a = .ok b → p a = q b) :
    (l.filter p).mapM f = .ok (l'.filter q) := by
  rw [Except.mapM_eq_ok] at h ⊢
  induction h with
  | nil => exact .nil
  | @cons a b l l' hab _ ih =>
    have hrest := ih fun a ha => hpq a (List.mem_cons_of_mem _ ha)
    have hsame := hpq a List.mem_cons_self b hab
    cases hp : p a with
    | true =>
      rw [List.filter_cons_of_pos hp, List.filter_cons_of_pos (hsame ▸ hp)]
      exact .cons hab hrest
    | false =>
      rw [List.filter_cons_of_neg (by simp [hp]), List.filter_cons_of_neg (by simp [← hsame, hp])]
      exact hrest

/-- Reading in another order gives the same in that order. -/
theorem Except.mapM_perm {ε α β : Type} {f : α → Except ε β} {l m : List α} {l' : List β}
    (h : l.mapM f = .ok l') (hperm : l.Perm m) : ∃ m', m.mapM f = .ok m' ∧ l'.Perm m' := by
  induction hperm generalizing l' with
  | nil => exact ⟨l', h, .refl _⟩
  | cons a _ ih =>
    rw [Except.mapM_eq_ok] at h
    cases h with
    | cons hab hrest =>
      obtain ⟨m', hm', hperm'⟩ := ih (Except.mapM_eq_ok.mpr hrest)
      exact ⟨_, Except.mapM_eq_ok.mpr (.cons hab (Except.mapM_eq_ok.mp hm')), hperm'.cons _⟩
  | swap a a' l =>
    rw [Except.mapM_eq_ok] at h
    cases h with
    | cons hab hrest =>
      cases hrest with
      | cons hab' hrest =>
        exact ⟨_, Except.mapM_eq_ok.mpr (.cons hab' (.cons hab hrest)), .swap _ _ _⟩
  | trans _ _ ih ih' =>
    obtain ⟨m₁, hm₁, hperm₁⟩ := ih h
    obtain ⟨m₂, hm₂, hperm₂⟩ := ih' hm₁
    exact ⟨m₂, hm₂, hperm₁.trans hperm₂⟩

/-- What is read last is the last under its key. -/
theorem Except.getLast?_valuesOf_concat {ε α K V : Type} [DecidableEq K]
    {read : α → Except ε (K × V)} {l : List α} {a : α} {k : K} {v : V} {found : List (K × V)}
    (ha : read a = .ok (k, v)) (h : (l ++ [a]).mapM read = .ok found) :
    (Dict.valuesOf k found).getLast? = some v := by
  rw [List.mapM_append, Except.bind_eq_ok] at h
  obtain ⟨before, -, h⟩ := h
  obtain ⟨last, hlast, h⟩ := Except.bind_eq_ok.mp h
  rw [Except.mapM_eq_ok, List.forall₂_cons_left_iff] at hlast
  obtain ⟨kv, rest, hkv, hrest, rfl⟩ := hlast
  rw [List.forall₂_nil_left_iff] at hrest
  rw [ha] at hkv
  cases hkv
  cases h
  rw [hrest, Dict.valuesOf_concat, if_pos rfl, List.getLast?_concat]
