import Mathlib.Tactic

/-!
# Insertion-ordered dictionaries

A dictionary keeps its items in insertion order and at most one item per key;
the second fact is a field of the structure. Assigning to a key that is present
replaces the value in place, assigning to a new key appends.

* `get?_set`, `get?_erase`, `get?_filter` — how the operations read back;
* `items_set_new`, `set_same` — an assignment to a new key, and of the value that is there;
* `mem_items` — items and lookups agree;
* `mem_keys_update`, `mem_items_update` — merging one dictionary into another;
* `mem_items_sorted` — sorting by key keeps the items;
* `get?_mapItems` — reading back after every value was changed.
-/

/-- A finite map with unique keys whose items keep their insertion order. -/
structure Dict (K V : Type*) where
  items : List (K × V)
  nodup : (items.map Prod.fst).Nodup

namespace Dict

variable {K V : Type*}

instance : EmptyCollection (Dict K V) := ⟨⟨[], List.nodup_nil⟩⟩

/-- The keys, oldest first. -/
def keys (d : Dict K V) : List K := d.items.map Prod.fst

/-- The values, oldest first. -/
def values (d : Dict K V) : List V := d.items.map Prod.snd

/-- Keep the items that satisfy `p`. -/
def filter (d : Dict K V) (p : K → V → Bool) : Dict K V where
  items := d.items.filter fun kv => p kv.1 kv.2
  nodup := d.nodup.sublist (List.filter_sublist.map _)

variable [DecidableEq K]

/-- The value at a key, if the key is present. -/
def get? (d : Dict K V) (k : K) : Option V :=
  (d.items.find? fun kv => decide (kv.1 = k)).map Prod.snd

/-- Is the key present? -/
def contains (d : Dict K V) (k : K) : Bool := (d.get? k).isSome

/-- Overwrite the value at `k` in a list of items. -/
def replaceItem (k : K) (v : V) (items : List (K × V)) : List (K × V) :=
  items.map fun kv => if kv.1 = k then (k, v) else kv

theorem keys_replaceItem (k : K) (v : V) (items : List (K × V)) :
    (replaceItem k v items).map Prod.fst = items.map Prod.fst := by
  rw [replaceItem, List.map_map]
  apply List.map_congr_left
  intro kv _
  by_cases h : kv.1 = k
  · simp [h]
  · simp [h]

/-- `d[k] = v`: replace in place, or append a new item. -/
def set (d : Dict K V) (k : K) (v : V) : Dict K V :=
  if h : k ∈ d.items.map Prod.fst then
    ⟨replaceItem k v d.items, by rw [keys_replaceItem]; exact d.nodup⟩
  else
    ⟨d.items ++ [(k, v)], by
      rw [List.map_append, List.nodup_append]
      refine ⟨d.nodup, by simp, ?_⟩
      rintro a ha b hb rfl
      simp only [List.map_cons, List.map_nil, List.mem_singleton] at hb
      exact h (hb ▸ ha)⟩

/-- `del d[k]`, without the error for a missing key. -/
def erase (d : Dict K V) (k : K) : Dict K V :=
  d.filter fun k' _ => decide (k' ≠ k)

/-! ## Reading back -/

@[simp] theorem get?_empty (k : K) : (∅ : Dict K V).get? k = none := rfl

theorem find?_eq_some_of_mem {items : List (K × V)} (hn : (items.map Prod.fst).Nodup)
    {k : K} {v : V} (h : (k, v) ∈ items) :
    items.find? (fun kv => decide (kv.1 = k)) = some (k, v) := by
  induction items with
  | nil => simp at h
  | cons kv rest ih =>
    rw [List.map_cons, List.nodup_cons] at hn
    rcases List.mem_cons.mp h with rfl | hrest
    · simp
    · have hne : kv.1 ≠ k := by
        rintro rfl
        exact hn.1 (List.mem_map.mpr ⟨(kv.1, v), hrest, rfl⟩)
      rw [List.find?_cons_of_neg (by simp [hne])]
      exact ih hn.2 hrest

/-- Items and lookups agree. -/
theorem mem_items {d : Dict K V} {k : K} {v : V} : (k, v) ∈ d.items ↔ d.get? k = some v := by
  constructor
  · intro h
    rw [get?, find?_eq_some_of_mem d.nodup h]
    rfl
  · intro h
    obtain ⟨⟨k', v'⟩, hfind, rfl⟩ := Option.map_eq_some_iff.mp h
    have hk : k' = k := by simpa using List.find?_some hfind
    subst hk
    exact List.mem_of_find?_eq_some hfind

theorem get?_eq_none {d : Dict K V} {k : K} : d.get? k = none ↔ k ∉ d.items.map Prod.fst := by
  constructor
  · intro h hk
    obtain ⟨⟨k', v⟩, hmem, rfl⟩ := List.mem_map.mp hk
    rw [mem_items.mp hmem] at h
    cases h
  · intro h
    cases hv : d.get? k with
    | none => rfl
    | some v => exact absurd (List.mem_map_of_mem (f := Prod.fst) (mem_items.mpr hv)) h

/-- Two dictionaries that read back the same value at `k` whenever either has one. -/
theorem get?_eq_of_mem_iff {d d' : Dict K V} {k k' : K}
    (h : ∀ v, (k, v) ∈ d.items ↔ (k', v) ∈ d'.items) : d.get? k = d'.get? k' := by
  apply Option.ext
  intro v
  rw [← mem_items, ← mem_items]
  exact h v

theorem get?_filter (d : Dict K V) (p : K → V → Bool) (k : K) :
    (d.filter p).get? k = (d.get? k).filter (p k) := by
  apply Option.ext
  intro v
  rw [← mem_items, Option.filter_eq_some_iff, ← mem_items]
  simp [filter]

theorem get?_erase (d : Dict K V) (k k' : K) :
    (d.erase k).get? k' = if k' = k then none else d.get? k' := by
  rw [erase, get?_filter]
  by_cases h : k' = k
  · cases d.get? k' <;> simp [h]
  · cases d.get? k' <;> simp [h]

/-- A new key goes to the end. -/
theorem items_set_new {d : Dict K V} {k : K} {v : V} (h : d.get? k = none) :
    (d.set k v).items = d.items ++ [(k, v)] := by
  rw [set, dif_neg (get?_eq_none.mp h)]

theorem get?_set_self (d : Dict K V) (k : K) (v : V) : (d.set k v).get? k = some v := by
  rw [← mem_items, set]
  split
  · rename_i h
    obtain ⟨⟨k', w⟩, hmem, rfl⟩ := List.mem_map.mp h
    exact List.mem_map.mpr ⟨(k', w), hmem, by simp⟩
  · simp

theorem get?_set_ne (d : Dict K V) {k k' : K} (v : V) (hne : k' ≠ k) :
    (d.set k v).get? k' = d.get? k' := by
  apply get?_eq_of_mem_iff
  intro w
  rw [set]
  split
  · simp only [replaceItem, List.mem_map]
    constructor
    · rintro ⟨⟨a, b⟩, hmem, heq⟩
      by_cases ha : a = k
      · simp only [ha, if_true, Prod.mk.injEq] at heq
        exact absurd heq.1.symm hne
      · simp only [ha, if_false] at heq
        rw [← heq]
        exact hmem
    · intro hmem
      exact ⟨(k', w), hmem, by simp [hne]⟩
  · simp [hne]

theorem get?_set (d : Dict K V) (k k' : K) (v : V) :
    (d.set k v).get? k' = if k' = k then some v else d.get? k' := by
  by_cases h : k' = k
  · rw [if_pos h, h, get?_set_self]
  · rw [if_neg h, get?_set_ne d v h]

/-! ## Keys -/

theorem mem_keys {d : Dict K V} {k : K} : k ∈ d.keys ↔ ∃ v, d.get? k = some v := by
  constructor
  · intro h
    obtain ⟨⟨k', v⟩, hmem, rfl⟩ := List.mem_map.mp h
    exact ⟨v, mem_items.mp hmem⟩
  · rintro ⟨v, hv⟩
    exact List.mem_map_of_mem (f := Prod.fst) (mem_items.mpr hv)

theorem mem_items_set {d : Dict K V} {k k' : K} {v w : V} :
    (k', w) ∈ (d.set k v).items ↔ (k' = k ∧ w = v) ∨ (k' ≠ k ∧ (k', w) ∈ d.items) := by
  rw [mem_items, get?_set, mem_items]
  by_cases h : k' = k
  · simp [h, eq_comm]
  · simp [h]

theorem mem_keys_set {d : Dict K V} {k k' : K} {v : V} :
    k' ∈ (d.set k v).keys ↔ k' = k ∨ k' ∈ d.keys := by
  rw [mem_keys, mem_keys, get?_set]
  by_cases h : k' = k
  · simp [h]
  · simp [h]

/-! ## Merging, sorting, mapping -/

/-- `{**d, **other}`: the items of `other` are assigned one after the other. -/
def update (d other : Dict K V) : Dict K V :=
  other.items.foldl (fun merged kv => merged.set kv.1 kv.2) d

theorem mem_keys_update {d other : Dict K V} {k : K} :
    k ∈ (d.update other).keys ↔ k ∈ d.keys ∨ k ∈ other.keys := by
  have hfold : ∀ (items : List (K × V)) (d : Dict K V),
      k ∈ (items.foldl (fun merged kv => merged.set kv.1 kv.2) d).keys ↔
        k ∈ d.keys ∨ k ∈ items.map Prod.fst := by
    intro items
    induction items with
    | nil => simp
    | cons kv items ih =>
      intro d
      rw [List.foldl_cons, ih, mem_keys_set, List.map_cons, List.mem_cons]
      tauto
  exact hfold other.items d

/-- Every item of a merged dictionary comes from one of the two. -/
theorem mem_items_update {d other : Dict K V} {kv : K × V} (h : kv ∈ (d.update other).items) :
    kv ∈ d.items ∨ kv ∈ other.items := by
  have hfold : ∀ (items : List (K × V)) (d : Dict K V),
      kv ∈ (items.foldl (fun merged kv => merged.set kv.1 kv.2) d).items →
        kv ∈ d.items ∨ kv ∈ items := by
    intro items
    induction items with
    | nil => exact fun d h => .inl h
    | cons kv' items ih =>
      intro d h
      rw [List.foldl_cons] at h
      rcases ih _ h with hset | hrest
      · rcases mem_items_set.mp hset with ⟨hkey, hvalue⟩ | ⟨-, hold⟩
        · exact .inr (List.mem_cons.mpr (.inl (Prod.ext hkey hvalue)))
        · exact .inl hold
      · exact .inr (List.mem_cons_of_mem _ hrest)
  exact hfold other.items d h

/-- Looking up in a merged dictionary: the second one comes first. -/
theorem get?_update {d other : Dict K V} {k : K} :
    (d.update other).get? k = (other.get? k).or (d.get? k) := by
  have hfold : ∀ (items : List (K × V)) (d : Dict K V), (items.map Prod.fst).Nodup →
      (items.foldl (fun merged kv => merged.set kv.1 kv.2) d).get? k =
        ((items.find? (·.1 = k)).map Prod.snd).or (d.get? k) := by
    intro items
    induction items with
    | nil => simp
    | cons kv items ih =>
      intro d hnodup
      rw [List.map_cons, List.nodup_cons] at hnodup
      rw [List.foldl_cons, ih _ hnodup.2, get?_set, List.find?_cons]
      by_cases hk : k = kv.1
      · -- the key is assigned here and nowhere later
        have hlater : items.find? (·.1 = k) = none := by
          rw [List.find?_eq_none]
          intro kv' hmem hsame
          refine hnodup.1 (List.mem_map.mpr ⟨kv', hmem, ?_⟩)
          rw [← hk]
          simpa using hsame
        subst hk
        simp [hlater]
      · simp [hk, Ne.symm hk]
  exact hfold other.items d other.nodup

/-- `dict(sorted(d.items()))`; the keys are unique, so they alone decide the order. -/
def sorted [LE K] [DecidableLE K] (d : Dict K V) : Dict K V where
  items := d.items.mergeSort fun a b => decide (a.1 ≤ b.1)
  nodup := ((List.mergeSort_perm _ _).map Prod.fst).nodup_iff.mpr d.nodup

omit [DecidableEq K] in
theorem mem_items_sorted [LE K] [DecidableLE K] {d : Dict K V} {kv : K × V} :
    kv ∈ d.sorted.items ↔ kv ∈ d.items := List.mem_mergeSort

omit [DecidableEq K] in
theorem mem_keys_sorted [LE K] [DecidableLE K] {d : Dict K V} {k : K} :
    k ∈ d.sorted.keys ↔ k ∈ d.keys :=
  ((List.mergeSort_perm _ _).map Prod.fst).mem_iff

/-- The same keys in the same order, with new values. -/
def mapValues {W : Type*} (d : Dict K V) (f : V → W) : Dict K W where
  items := d.items.map fun kv => (kv.1, f kv.2)
  nodup := by
    rw [List.map_map]
    exact d.nodup

omit [DecidableEq K] in
@[simp] theorem keys_mapValues {W : Type*} (d : Dict K V) (f : V → W) :
    (d.mapValues f).keys = d.keys := by
  rw [keys, keys, mapValues, List.map_map]
  rfl

omit [DecidableEq K] in
@[simp] theorem values_mapValues {W : Type*} (d : Dict K V) (f : V → W) :
    (d.mapValues f).values = d.values.map f := by
  rw [values, values, mapValues, List.map_map, List.map_map]
  rfl

/-- Apply a function of key and value to every value. -/
def mapItems {W : Type*} (d : Dict K V) (f : K → V → W) : Dict K W where
  items := d.items.map fun kv => (kv.1, f kv.1 kv.2)
  nodup := by
    rw [List.map_map]
    exact d.nodup

theorem get?_mapItems {W : Type*} (d : Dict K V) (f : K → V → W) (k : K) :
    (d.mapItems f).get? k = (d.get? k).map (f k) := by
  cases hget : d.get? k with
  | none =>
    rw [Option.map_none, get?_eq_none]
    rw [get?_eq_none] at hget
    rw [mapItems, List.map_map]
    exact hget
  | some v =>
    rw [Option.map_some, ← mem_items]
    exact List.mem_map.mpr ⟨(k, v), mem_items.mpr hget, rfl⟩

omit [DecidableEq K] in
theorem mapItems_mapItems {W X : Type*} (d : Dict K V) (f : K → V → W) (g : K → W → X) :
    (d.mapItems f).mapItems g = d.mapItems fun k v => g k (f k v) := by
  simp only [mapItems, List.map_map, Function.comp_def]

/-- Changing every value after an assignment, or before it. -/
theorem mapItems_set {W : Type*} (d : Dict K V) (f : K → V → W) (k : K) (v : V) :
    (d.set k v).mapItems f = (d.mapItems f).set k (f k v) := by
  have hkeys : (d.mapItems f).items.map Prod.fst = d.items.map Prod.fst := by
    rw [mapItems, List.map_map]
    rfl
  by_cases h : k ∈ d.items.map Prod.fst
  · have h' : k ∈ (d.mapItems f).items.map Prod.fst := by rwa [hkeys]
    have hitems : (replaceItem k v d.items).map (fun kv => (kv.1, f kv.1 kv.2)) =
        replaceItem k (f k v) (d.items.map fun kv => (kv.1, f kv.1 kv.2)) := by
      rw [replaceItem, replaceItem, List.map_map, List.map_map]
      refine List.map_congr_left fun kv _ => ?_
      by_cases hkv : kv.1 = k <;> simp [hkv]
    rw [set, dif_pos h, set, dif_pos h']
    simp only [mapItems, hitems]
  · have h' : k ∉ (d.mapItems f).items.map Prod.fst := by rwa [hkeys]
    rw [set, dif_neg h, set, dif_neg h']
    simp only [mapItems, List.map_append, List.map_cons, List.map_nil]

end Dict
