import Mathlib.Tactic
import Collabio.Library.Dict
import Collabio.Library.Runs

/-!
# Tables that are written by upserts

An upsert writes one row of a table, at a key, or it writes nothing. A table that only upserts
write is a function of their order.

* `get?_run`         — the row at a key is the last that was written there;
* `filter_write_own`, `filter_write_other` — the rows at some of the keys, after an upsert;
* `Runs.view_run`    — what a view shows of a run is a run of the events that concern it.
-/

namespace Dict

variable {K V : Type*}

theorem eq_of_items {d d' : Dict K V} (h : d.items = d'.items) : d = d' := by
  cases d
  cases d'
  cases h
  rfl

variable [DecidableEq K]

theorem items_set (d : Dict K V) (k : K) (v : V) : (d.set k v).items =
    if k ∈ d.items.map Prod.fst then replaceItem k v d.items else d.items ++ [(k, v)] := by
  unfold set
  by_cases h : k ∈ d.items.map Prod.fst
  · rw [dif_pos h, if_pos h]
  · rw [dif_neg h, if_neg h]

/-- An assignment in place leaves the keys where they are. -/
theorem filter_replaceItem (k : K) (v : V) (items : List (K × V)) (p : K → Bool) :
    (replaceItem k v items).filter (fun kv => p kv.1) =
      replaceItem k v (items.filter fun kv => p kv.1) := by
  unfold replaceItem
  rw [List.filter_map]
  congr 2
  funext kv
  rw [Function.comp_apply]
  split
  · rename_i h
    rw [h]
  · rfl

theorem replaceItem_of_absent {k : K} {items : List (K × V)} (v : V)
    (h : k ∉ items.map Prod.fst) : replaceItem k v items = items := by
  have hsame : ∀ kv ∈ items, (if kv.1 = k then (k, v) else kv) = kv := by
    intro kv hkv
    rw [if_neg]
    rintro rfl
    exact h (List.mem_map_of_mem hkv)
  exact (List.map_congr_left hsame).trans (List.map_id _)

/-- The items at some of the keys, after an assignment. -/
theorem filter_set (d : Dict K V) (k : K) (v : V) (p : K → Bool) :
    (d.set k v).filter (fun k' _ => p k') =
      if p k = true then (d.filter fun k' _ => p k').set k v else d.filter fun k' _ => p k' := by
  have hkeys : k ∈ (d.items.filter fun kv => p kv.1).map Prod.fst ↔
      k ∈ d.items.map Prod.fst ∧ p k = true := by
    simp only [List.mem_map, List.mem_filter]
    constructor
    · rintro ⟨kv, ⟨hmem, hp⟩, rfl⟩
      exact ⟨⟨kv, hmem, rfl⟩, hp⟩
    · rintro ⟨⟨kv, hmem, rfl⟩, hp⟩
      exact ⟨kv, ⟨hmem, hp⟩, rfl⟩
  apply eq_of_items
  by_cases hp : p k = true
  · rw [if_pos hp, items_set]
    show (d.set k v).items.filter (fun kv => p kv.1) =
      if k ∈ (d.items.filter fun kv => p kv.1).map Prod.fst then
        replaceItem k v (d.items.filter fun kv => p kv.1)
      else (d.items.filter fun kv => p kv.1) ++ [(k, v)]
    rw [items_set]
    by_cases hmem : k ∈ d.items.map Prod.fst
    · rw [if_pos hmem, if_pos (hkeys.mpr ⟨hmem, hp⟩), filter_replaceItem]
    · rw [if_neg hmem, if_neg fun h => hmem (hkeys.mp h).1, List.filter_append]
      congr 1
      exact List.filter_cons_of_pos hp
  · rw [if_neg hp]
    show (d.set k v).items.filter (fun kv => p kv.1) = d.items.filter fun kv => p kv.1
    rw [items_set]
    by_cases hmem : k ∈ d.items.map Prod.fst
    · rw [if_pos hmem, filter_replaceItem]
      exact replaceItem_of_absent v fun h => hp (hkeys.mp h).2
    · rw [if_neg hmem, List.filter_append]
      have hnone : [(k, v)].filter (fun kv => p kv.1) = [] := List.filter_cons_of_neg hp
      rw [hnone, List.append_nil]

end Dict

namespace Upserts

variable {C K V : Type*} [DecidableEq K] (upsert? : C → Option (K × V))

/-! ## Upserts -/

/-- What an upsert does to the table. -/
def write (d : Dict K V) (call : C) : Dict K V :=
  match upsert? call with
  | some (k, v) => d.set k v
  | none => d

/-- The row that an upsert writes at a key. -/
def rowAt? (call : C) (k : K) : Option V :=
  match upsert? call with
  | some (k', v) => if k' = k then some v else none
  | none => none

/-- The row that was last written at a key. -/
def last? (calls : List C) (k : K) : Option V := calls.reverse.findSome? (rowAt? upsert? · k)

variable {upsert?}

theorem rowAt?_eq_some {call : C} {k : K} {v : V} :
    rowAt? upsert? call k = some v ↔ upsert? call = some (k, v) := by
  unfold rowAt?
  cases upsert? call with
  | none => simp
  | some entry =>
    obtain ⟨k', v'⟩ := entry
    by_cases hkey : k' = k
    · simp [hkey]
    · simp [hkey]

theorem get?_write (d : Dict K V) (call : C) (k : K) :
    (write upsert? d call).get? k = (rowAt? upsert? call k).or (d.get? k) := by
  unfold write rowAt?
  cases upsert? call with
  | none => rfl
  | some entry =>
    obtain ⟨k', v⟩ := entry
    show (d.set k' v).get? k = (if k' = k then some v else none).or (d.get? k)
    by_cases hkey : k' = k
    · rw [if_pos hkey, hkey]
      exact Dict.get?_set_self d k v
    · rw [if_neg hkey]
      exact Dict.get?_set_ne d v (Ne.symm hkey)

theorem last?_concat (calls : List C) (call : C) (k : K) :
    last? upsert? (calls ++ [call]) k = (rowAt? upsert? call k).or (last? upsert? calls k) := by
  unfold last?
  rw [List.reverse_append, List.reverse_singleton, List.singleton_append, List.findSome?_cons]
  cases rowAt? upsert? call k <;> rfl

/-- **Runs.** The table has, at every key, what was last written there. -/
theorem get?_run (calls : List C) (k : K) :
    (Runs.run (write upsert?) ∅ calls).get? k = last? upsert? calls k := by
  induction calls using List.reverseRecOn with
  | nil => rfl
  | append_singleton calls call ih =>
    rw [Runs.run_append, Runs.run_cons, Runs.run_nil, get?_write, last?_concat, ih]

/-! ## Some of the keys -/

section

variable {p : K → Bool} {call : C} {k : K} {v : V}

theorem filter_write_own (h : ∀ k v, upsert? call = some (k, v) → p k = true) (d : Dict K V) :
    (write upsert? d call).filter (fun k _ => p k) =
      write upsert? (d.filter fun k _ => p k) call := by
  unfold write
  cases hupsert : upsert? call with
  | none => rfl
  | some entry => exact (Dict.filter_set d entry.1 entry.2 p).trans (if_pos (h _ _ hupsert))

theorem filter_write_other (h : ∀ k v, upsert? call = some (k, v) → p k = false) (d : Dict K V) :
    (write upsert? d call).filter (fun k _ => p k) = d.filter fun k _ => p k := by
  unfold write
  cases hupsert : upsert? call with
  | none => rfl
  | some entry =>
    refine (Dict.filter_set d entry.1 entry.2 p).trans (if_neg ?_)
    rw [h _ _ hupsert]
    exact Bool.false_ne_true

end

end Upserts

/-! ## Views -/

/-- **Views.** Where the events of a view act on what it shows as on the whole, and the others do
not change what it shows, it shows of a run the run of its own events. -/
theorem Runs.view_run {S E : Type*} {step : S → E → S} {view : S → S} {own : E → Bool}
    (hown : ∀ s e, own e = true → view (step s e) = step (view s) e)
    (hother : ∀ s e, own e = false → view (step s e) = view s) (s : S) (es : List E) :
    view (Runs.run step s es) = Runs.run step (view s) (es.filter own) := by
  induction es generalizing s with
  | nil => rfl
  | cons e es ih =>
    cases h : own e with
    | true =>
      rw [List.filter_cons_of_pos h, Runs.run_cons, Runs.run_cons, ih, hown s e h]
    | false =>
      rw [List.filter_cons_of_neg (by simp [h]), Runs.run_cons, ih, hother s e h]
