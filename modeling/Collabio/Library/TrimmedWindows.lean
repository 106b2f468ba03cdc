import Mathlib.Tactic
import Mathlib.Data.List.DropRight

/-!
# Trimmed windows of a list

A list is read in windows of one size, each a step behind the one before it, and what is
blank at the ends of a window is left out; so are windows that are blank throughout.

* `Piece.OfWindow`   — what a window keeps;
* `covered`, `pieces_sorted` — the pieces have every item that is not blank, in order;
* `countP_covers_le` — no position is in more pieces than windows reach over it.
-/

namespace TrimmedWindows

variable {α : Type} (blank : α → Bool) (l : List α) (size step : ℕ)

/-- What is left without the blank ends. -/
def trim (items : List α) : List α := (items.dropWhile blank).rdropWhile blank

/-- Some items of a list, and where they begin. -/
structure Piece (α : Type) where
  start : ℕ
  items : List α

namespace Piece

def stop (piece : Piece α) : ℕ := piece.start + piece.items.length

def Covers (piece : Piece α) (position : ℕ) : Prop :=
  piece.start ≤ position ∧ position < piece.stop

instance (piece : Piece α) (position : ℕ) : Decidable (piece.Covers position) := instDecidableAnd

end Piece

def window (start : ℕ) : List α := (l.drop start).take size

/-- What the window at a position keeps. -/
def piece (start : ℕ) : Piece α where
  start := start + ((window l size start).takeWhile blank).length
  items := trim blank (window l size start)

/-- The pieces of the windows from a position on. -/
def pieces (start : ℕ) : List (Piece α) :=
  if start < l.length ∧ 0 < step then
    (if (piece blank l size start).items = [] then [] else [piece blank l size start]) ++
      pieces (start + step)
  else []
termination_by l.length - start

/-- The trimmed window at a position: it is a part of the list, begins and ends with items
that are not blank, and has all of those of its window. -/
structure Piece.OfWindow (start : ℕ) (piece : Piece α) : Prop where
  items : piece.items = (l.drop piece.start).take piece.items.length
  inside : piece.stop ≤ l.length
  first : start ≤ piece.start
  last : piece.stop ≤ start + size
  ends : ∃ a b, l[piece.start]? = some a ∧ blank a = false ∧
    l[piece.stop - 1]? = some b ∧ blank b = false ∧ piece.start < piece.stop
  all : ∀ position item, start ≤ position → position < start + size →
    l[position]? = some item → blank item = false → piece.Covers position

variable {blank l size step}

/-! ## One window -/

/-- A list is what is blank before, what is left, and what is blank behind. -/
theorem trim_split (items : List α) : ∃ behind, (∀ x ∈ behind, blank x = true) ∧
    items = items.takeWhile blank ++ (trim blank items ++ behind) := by
  refine ⟨(items.dropWhile blank).rtakeWhile blank, fun x hx => List.mem_rtakeWhile_imp hx, ?_⟩
  rw [trim, List.rdropWhile_append_rtakeWhile, List.takeWhile_append_dropWhile]

theorem trim_eq_nil_iff {items : List α} : trim blank items = [] ↔ ∀ x ∈ items, blank x = true := by
  rw [trim, List.rdropWhile_eq_nil_iff]
  constructor
  · intro h x hx
    rw [← List.takeWhile_append_dropWhile (p := blank) (l := items), List.mem_append] at hx
    rcases hx with hbefore | hafter
    · exact List.mem_takeWhile_imp hbefore
    · exact h x hafter
  · exact fun h x hx => h x ((List.dropWhile_sublist _).subset hx)

theorem getElem?_window {start k : ℕ} (h : k < size) : (window l size start)[k]? = l[start + k]? := by
  rw [window, List.getElem?_take_of_lt h, List.getElem?_drop]

theorem head?_trim {items : List α} {x : α} (h : (trim blank items).head? = some x) :
    blank x = false := by
  have hprefix : trim blank items <+: items.dropWhile blank := List.rdropWhile_prefix _ _
  have hhead : (items.dropWhile blank).head? = some x := by
    obtain ⟨rest, hrest⟩ := hprefix
    rw [← hrest, List.head?_append, h, Option.some_or]
  have hnot := List.head?_dropWhile_not blank items
  rw [hhead] at hnot
  simpa using hnot

theorem getLast?_trim {items : List α} {x : α} (h : (trim blank items).getLast? = some x) :
    blank x = false := by
  have hne : trim blank items ≠ [] := by
    intro hnil
    rw [hnil] at h
    cases h
  have hnot := List.rdropWhile_last_not blank (items.dropWhile blank) hne
  rw [List.getLast?_eq_some_getLast hne, Option.some.injEq] at h
  rw [← h]
  exact (Bool.not_eq_true _).mp hnot

/-- The items between the blank ends of a window. -/
theorem ofWindow_of_split {start : ℕ} {before kept behind : List α}
    (hsplit : window l size start = before ++ (kept ++ behind))
    (hbefore : ∀ x ∈ before, blank x = true) (hbehind : ∀ x ∈ behind, blank x = true)
    (hne : kept ≠ []) (hhead : ∀ x, kept.head? = some x → blank x = false)
    (hlast : ∀ x, kept.getLast? = some x → blank x = false) :
    Piece.OfWindow blank l size start ⟨start + before.length, kept⟩ := by
  have hwindow : (window l size start).length = min size (l.length - start) := by
    rw [window, List.length_take, List.length_drop]
  have hlength := congrArg List.length hsplit
  simp only [List.length_append] at hlength
  have hpositive : 0 < kept.length := List.length_pos_iff.mpr hne
  have hitem : ∀ k, k < kept.length → l[start + before.length + k]? = kept[k]? := by
    intro k hk
    have hget := @getElem?_window _ l size start (before.length + k) (by omega)
    rw [hsplit, List.getElem?_append_right (by omega), Nat.add_sub_cancel_left,
      List.getElem?_append_left hk] at hget
    rw [hget, Nat.add_assoc]
  refine ⟨?_, ?_, Nat.le_add_right _ _, ?_, ?_, ?_⟩
  · refine List.ext_getElem? fun k => ?_
    show kept[k]? = ((l.drop (start + before.length)).take kept.length)[k]?
    by_cases hk : k < kept.length
    · rw [List.getElem?_take_of_lt hk, List.getElem?_drop, hitem k hk]
    · rw [List.getElem?_eq_none (not_lt.mp hk), List.getElem?_eq_none]
      rw [List.length_take]
      exact (min_le_left _ _).trans (not_lt.mp hk)
  · show start + before.length + kept.length ≤ l.length
    omega
  · show start + before.length + kept.length ≤ start + size
    omega
  · obtain ⟨a, ha⟩ : ∃ a, kept.head? = some a := Option.isSome_iff_exists.mp (by simpa using hne)
    obtain ⟨b, hb⟩ : ∃ b, kept.getLast? = some b :=
      Option.isSome_iff_exists.mp (by simpa using hne)
    refine ⟨a, b, ?_, hhead a ha, ?_, hlast b hb, ?_⟩
    · rw [List.head?_eq_getElem?, ← hitem 0 hpositive] at ha
      exact ha
    · rw [List.getLast?_eq_getElem?, ← hitem _ (by omega)] at hb
      rw [← hb]
      show l[start + before.length + kept.length - 1]? = _
      congr 1
      omega
    · show start + before.length < start + before.length + kept.length
      omega
  · intro position item hfirst hlast' hget hblank
    obtain ⟨k, rfl⟩ := Nat.exists_eq_add_of_le hfirst
    rw [← @getElem?_window _ l size start k (by omega), hsplit] at hget
    -- an item before or behind what is kept is blank
    constructor
    · show start + before.length ≤ start + k
      by_contra hearly
      rw [List.getElem?_append_left (by omega)] at hget
      rw [hbefore item (List.mem_of_getElem? hget)] at hblank
      cases hblank
    · show start + k < start + before.length + kept.length
      by_contra hlate
      rw [List.getElem?_append_right (by omega), List.getElem?_append_right (by omega)] at hget
      rw [hbehind item (List.mem_of_getElem? hget)] at hblank
      cases hblank

/-- **A window** that keeps something. -/
theorem piece_ofWindow {start : ℕ} (hne : (piece blank l size start).items ≠ []) :
    (piece blank l size start).OfWindow blank l size start := by
  obtain ⟨behind, hbehind, hsplit⟩ := @trim_split _ blank (window l size start)
  exact ofWindow_of_split hsplit (fun x hx => List.mem_takeWhile_imp hx) hbehind hne
    (fun x hx => head?_trim hx) (fun x hx => getLast?_trim hx)

namespace Piece.OfWindow

variable {start : ℕ} {piece : Piece α}

theorem getElem?_items (h : piece.OfWindow blank l size start) {k : ℕ}
    (hk : k < piece.items.length) : piece.items[k]? = l[piece.start + k]? := by
  have hitem : piece.items[k]? = ((l.drop piece.start).take piece.items.length)[k]? := by
    rw [← h.items]
  rw [hitem, List.getElem?_take_of_lt hk, List.getElem?_drop]

/-- The ends of a piece are not blank. -/
theorem trimmed (h : piece.OfWindow blank l size start) :
    piece.items ≠ [] ∧ (∀ x ∈ piece.items.head?, blank x = false) ∧
      ∀ x ∈ piece.items.getLast?, blank x = false := by
  obtain ⟨a, b, ha, haBlank, hb, hbBlank, hlt⟩ := h.ends
  have hstop : piece.stop = piece.start + piece.items.length := rfl
  have hlast : piece.stop - 1 = piece.start + (piece.items.length - 1) := by omega
  refine ⟨?_, ?_, ?_⟩
  · intro hnil
    rw [hnil] at hstop
    simp only [List.length_nil] at hstop
    omega
  · intro x hx
    rw [List.head?_eq_getElem?, h.getElem?_items (by omega), Nat.add_zero, ha] at hx
    rw [← Option.mem_some_iff.mp hx]
    exact haBlank
  · intro x hx
    rw [List.getLast?_eq_getElem?, h.getElem?_items (by omega), ← hlast, hb] at hx
    rw [← Option.mem_some_iff.mp hx]
    exact hbBlank

end Piece.OfWindow

/-- A later window does not begin or end earlier. -/
theorem Piece.OfWindow.le {start start' : ℕ} {piece piece' : Piece α}
    (h : piece.OfWindow blank l size start) (h' : piece'.OfWindow blank l size start')
    (hle : start ≤ start') : piece.start ≤ piece'.start ∧ piece.stop ≤ piece'.stop := by
  obtain ⟨a, b, -, -, hb, hbBlank, hlt⟩ := h.ends
  obtain ⟨a', b', ha', haBlank, -, -, hlt'⟩ := h'.ends
  have hlast := h.last
  have hlast' := h'.last
  have hfirst' := h'.first
  constructor
  · by_cases hinside : piece'.start < start + size
    · exact (h.all _ _ (hle.trans hfirst') hinside ha' haBlank).1
    · omega
  · by_cases hinside : start' ≤ piece.stop - 1
    · have hcovers := h'.all _ _ hinside (by omega) hb hbBlank
      have hstop := hcovers.2
      omega
    · omega

/-! ## All windows -/

/-- Induction along the windows, from each to the one a step behind it. -/
theorem windows_induction {motive : ℕ → Prop} (l : List α) (step : ℕ)
    (inside : ∀ start, start < l.length ∧ 0 < step → motive (start + step) → motive start)
    (outside : ∀ start, ¬ (start < l.length ∧ 0 < step) → motive start) (start : ℕ) :
    motive start := by
  induction start using pieces.induct l step with
  | case1 start hinside ih => exact inside start hinside ih
  | case2 start houtside => exact outside start houtside

theorem mem_pieces {start : ℕ} {found : Piece α} (h : found ∈ pieces blank l size step start) :
    ∃ start', start ≤ start' ∧ found.OfWindow blank l size start' := by
  induction start using windows_induction l step with
  | inside start hinside ih =>
    rw [pieces, if_pos hinside, List.mem_append] at h
    rcases h with hfirst | hlater
    · split at hfirst
      · cases hfirst
      · rename_i hne
        rw [List.mem_singleton.mp hfirst]
        exact ⟨start, le_rfl, piece_ofWindow hne⟩
    · obtain ⟨start', hle, hfound⟩ := ih hlater
      exact ⟨start', by omega, hfound⟩
  | outside start houtside =>
    rw [pieces, if_neg houtside] at h
    cases h

/-- **Order.** The pieces come in the order of the list. -/
theorem pieces_sorted (start : ℕ) : (pieces blank l size step start).Pairwise fun a b =>
    a.start ≤ b.start ∧ a.stop ≤ b.stop := by
  induction start using windows_induction l step with
  | inside start hinside ih =>
    rw [pieces, if_pos hinside]
    split
    · exact ih
    · rename_i hne
      refine List.pairwise_append.mpr ⟨List.pairwise_singleton _ _, ih, fun a ha b hb => ?_⟩
      rw [List.mem_singleton.mp ha]
      obtain ⟨start', hle, hb⟩ := mem_pieces hb
      exact (piece_ofWindow hne).le hb (by omega)
  | outside start houtside =>
    rw [pieces, if_neg houtside]
    exact List.Pairwise.nil

/-- **Coverage.** No item that is not blank is left out. -/
theorem covered {start position : ℕ} {item : α} (hsize : step ≤ size) (hstep : 0 < step)
    (hfrom : start ≤ position) (hget : l[position]? = some item) (hblank : blank item = false) :
    ∃ found ∈ pieces blank l size step start, found.Covers position := by
  induction start using windows_induction l step with
  | inside start hinside ih =>
    rw [pieces, if_pos hinside]
    by_cases hlater : start + step ≤ position
    · obtain ⟨found, hfound, hcovers⟩ := ih hlater
      exact ⟨found, List.mem_append_right _ hfound, hcovers⟩
    · -- the window at hand has the item, so it keeps something
      have hne : (piece blank l size start).items ≠ [] := by
        intro hnil
        have hall := trim_eq_nil_iff.mp hnil
        obtain ⟨k, rfl⟩ := Nat.exists_eq_add_of_le hfrom
        rw [← @getElem?_window _ l size start k (by omega)] at hget
        rw [hall item (List.mem_of_getElem? hget)] at hblank
        cases hblank
      rw [if_neg hne]
      exact ⟨_, List.mem_append_left _ (List.mem_singleton_self _),
        (piece_ofWindow hne).all _ _ hfrom (by omega) hget hblank⟩
  | outside start houtside =>
    have hlt := (List.getElem?_eq_some_iff.mp hget).1
    exact absurd ⟨by omega, hstep⟩ houtside

/-- Before its first window a position is in no piece; from there on, in at most one for each
window that reaches over it. -/
theorem countP_covers_from (start position : ℕ) (hstep : 0 < step) :
    (position < start →
      (pieces blank l size step start).countP (fun found => found.Covers position) = 0) ∧
    (start ≤ position → position < start + size →
      (pieces blank l size step start).countP (fun found => found.Covers position) ≤
        (position - start) / step + 1) ∧
    (pieces blank l size step start).countP (fun found => found.Covers position) ≤
      (size + step - 1) / step := by
  -- later windows have no item before their own start
  have hnone : ∀ {start'}, position < start' →
      (pieces blank l size step start').countP (fun found => found.Covers position) = 0 := by
    intro start' hbefore
    rw [List.countP_eq_zero]
    intro found hfound
    obtain ⟨start'', hle, hfound⟩ := mem_pieces hfound
    have hfirst := hfound.first
    rw [decide_eq_true_eq]
    rintro ⟨hcovers, -⟩
    omega
  induction start using windows_induction l step with
  | inside start hinside ih =>
    obtain ⟨-, hover, hbound⟩ := ih
    -- the pieces from here on are this window's and those one step later
    have hsplit : (pieces blank l size step start).countP (fun found => found.Covers position) =
        (if (piece blank l size start).items = [] then [] else [piece blank l size start]).countP
            (fun found => found.Covers position) +
          (pieces blank l size step (start + step)).countP
            (fun found => found.Covers position) := by
      rw [pieces, if_pos hinside, List.countP_append]
    have hhead : (if (piece blank l size start).items = [] then []
        else [piece blank l size start]).countP (fun found => found.Covers position) ≤
          if start ≤ position ∧ position < start + size then 1 else 0 := by
      split
      · exact Nat.zero_le _
      · rename_i hne
        have hfirst := (piece_ofWindow hne).first
        have hlast := (piece_ofWindow hne).last
        rw [List.countP_singleton]
        -- a trimmed piece covers nothing outside its window
        split
        · rename_i hcovers
          have hcovers' : (piece blank l size start).Covers position := of_decide_eq_true hcovers
          have hwindow : start ≤ position ∧ position < start + size :=
            ⟨hfirst.trans hcovers'.1, hcovers'.2.trans_le hlast⟩
          rw [if_pos hwindow]
        · exact Nat.zero_le _
    have hfrom : start ≤ position → position < start + size →
        (pieces blank l size step start).countP (fun found => found.Covers position) ≤
          (position - start) / step + 1 := by
      intro hle hlt
      have hwindow : start ≤ position ∧ position < start + size := ⟨hle, hlt⟩
      rw [if_pos hwindow] at hhead
      -- a position one step further is covered once more, and its quotient is one more
      by_cases hlater : start + step ≤ position
      · have hrest := hover hlater (by omega)
        have hquotient : (position - start) / step = (position - (start + step)) / step + 1 := by
          rw [← Nat.add_div_right _ hstep]
          congr 1
          omega
        omega
      · have hrest := @hnone (start + step) (by omega)
        have hquotient := Nat.zero_le ((position - start) / step)
        omega
    refine ⟨hnone, hfrom, ?_⟩
    by_cases hwindow : start ≤ position ∧ position < start + size
    · refine (hfrom hwindow.1 hwindow.2).trans ?_
      have hquotient : (size + step - 1) / step = (size - 1) / step + 1 := by
        rw [← Nat.add_div_right _ hstep]
        congr 1
        omega
      rw [hquotient]
      have hle : (position - start) / step ≤ (size - 1) / step :=
        Nat.div_le_div_right (by omega)
      omega
    · rw [if_neg hwindow] at hhead
      omega
  | outside start houtside =>
    rw [pieces, if_neg houtside]
    simp

/-- **Multiplicity.** No position is in more pieces than windows reach over it. -/
theorem countP_covers_le (start position : ℕ) (hstep : 0 < step) :
    (pieces blank l size step start).countP (fun found => found.Covers position) ≤
      (size + step - 1) / step :=
  (countP_covers_from start position hstep).2.2

end TrimmedWindows
