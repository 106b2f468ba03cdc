import Mathlib.Tactic

/-!
# Ranking, cutting off and filtering

Sorting is stable (`insertionSort`): elements that compare equal keep their
order. A search ranks its hits, keeps the first `k` and lets a later step drop
some of those.

* `filterMap_insertionSort` — dropping elements before ranking or after it is
  the same;
* `topK`                    — the ranked elements that come through a filter, of
  the first `k` only;
* `topK_prefix`             — they begin the list of all that come through;
* `topK_eq_iff`             — two lists with the same elements that come through
  give the same result exactly if equally many come through among the first `k`.
-/

namespace Ranking

variable {A B : Type*} {r : A → A → Prop} [DecidableRel r] {s : B → B → Prop} [DecidableRel s]

/-- `s` ranks what `f` keeps as `r` ranks where it came from. -/
def Follows (r : A → A → Prop) (s : B → B → Prop) (f : A → Option B) : Prop :=
  ∀ a b a' b', f a = some a' → f b = some b' → (r a b ↔ s a' b')

theorem filterMap_orderedInsert [IsTrans A r] {f : A → Option B} (hf : Follows r s f) {a : A}
    {l : List A} (hl : l.Pairwise r) :
    (l.orderedInsert r a).filterMap f =
      match f a with
      | none => l.filterMap f
      | some a' => (l.filterMap f).orderedInsert s a' := by
  induction l with
  | nil => cases hfa : f a <;> simp [hfa]
  | cons b l ih =>
    rw [List.pairwise_cons] at hl
    rw [List.orderedInsert_cons]
    by_cases hab : r a b
    · rw [if_pos hab]
      cases hfa : f a with
      | none => rw [List.filterMap_cons_none hfa]
      | some a' =>
        rw [List.filterMap_cons_some hfa]
        -- whatever is kept first of `b :: l` ranks behind `a`
        cases hkept : (b :: l).filterMap f with
        | nil => rfl
        | cons c' rest =>
          obtain ⟨c, hc, hfc⟩ := List.mem_filterMap.mp (by rw [hkept]; exact List.mem_cons_self)
          have hac : r a c := by
            rcases List.mem_cons.mp hc with rfl | hc
            · exact hab
            · exact IsTrans.trans a b c hab (hl.1 c hc)
          exact (List.orderedInsert_cons_of_le s rest ((hf a c a' c' hfa hfc).mp hac)).symm
    · rw [if_neg hab]
      cases hfb : f b with
      | none =>
        rw [List.filterMap_cons_none hfb, ih hl.2, List.filterMap_cons_none hfb]
      | some b' =>
        rw [List.filterMap_cons_some hfb, ih hl.2, List.filterMap_cons_some hfb]
        cases hfa : f a with
        | none => rfl
        | some a' =>
          have hab' : ¬ s a' b' := fun h => hab ((hf a b a' b' hfa hfb).mpr h)
          exact (List.orderedInsert_of_not_le s _ hab').symm

/-- **Dropping and ranking commute.** -/
theorem filterMap_insertionSort [IsTrans A r] [Std.Total r] {f : A → Option B}
    (hf : Follows r s f) (l : List A) :
    (l.insertionSort r).filterMap f = (l.filterMap f).insertionSort s := by
  induction l with
  | nil => rfl
  | cons a l ih =>
    rw [List.insertionSort_cons, filterMap_orderedInsert hf (List.pairwise_insertionSort r l), ih]
    cases hfa : f a with
    | none => rw [List.filterMap_cons_none hfa]
    | some a' => rw [List.filterMap_cons_some hfa, List.insertionSort_cons]

variable (r) in
/-- What comes through `f` of the first `k` ranked elements. -/
def topK (f : A → Option B) (k : Nat) (l : List A) : List B :=
  ((l.insertionSort r).take k).filterMap f

theorem topK_prefix [IsTrans A r] [Std.Total r] {f : A → Option B} (hf : Follows r s f) (k : Nat)
    (l : List A) : topK r f k l <+: (l.filterMap f).insertionSort s := by
  rw [← filterMap_insertionSort hf]
  exact (List.take_prefix k _).filterMap f

/-- Nothing is cut off a list of at most `k` elements. -/
theorem topK_of_length_le [IsTrans A r] [Std.Total r] {f : A → Option B} (hf : Follows r s f)
    {k : Nat} {l : List A} (h : l.length ≤ k) : topK r f k l = (l.filterMap f).insertionSort s := by
  rw [topK, List.take_of_length_le (by rw [List.length_insertionSort]; exact h),
    filterMap_insertionSort hf]

/-- **Cutting off before filtering.** What comes through differs in number or not at all. -/
theorem topK_eq_iff [IsTrans A r] [Std.Total r] {f g : A → Option B} (hf : Follows r s f)
    (hg : Follows r s g) {k : Nat} {l m : List A} (h : l.filterMap f = m.filterMap g) :
    topK r f k l = topK r g k m ↔ (topK r f k l).length = (topK r g k m).length := by
  have hl := topK_prefix hf k l
  have hm := topK_prefix hg k m
  rw [← h] at hm
  constructor
  · intro hsame
    rw [hsame]
  · intro hlength
    rw [List.prefix_iff_eq_take.mp hl, List.prefix_iff_eq_take.mp hm, hlength]

end Ranking
