import Mathlib.Tactic

/-!
# First occurrences of a marker

A marker is a list that separates what comes before it from what comes behind it. A text is
cut at the first place where the marker occurs; an occurrence may begin in the part before and
end in the marker itself, if the marker overlaps itself.

* `FirstAt`       — behind a part the marker comes for the first time;
* `first_le`      — no occurrence is earlier than the first;
* `first_unique`  — the first occurrence cuts in one way;
* `exists_first`  — where there is an occurrence, there is a first one.
-/

namespace Markers

variable {α : Type*} {m : List α} {x y x' y' s : List α}

/-- Followed by the marker, the part has no occurrence of it that ends earlier. -/
def FirstAt (m x : List α) : Prop := ¬ m <:+: x ++ m.dropLast

theorem length_dropLast_lt (hm : m ≠ []) : m.dropLast.length < m.length := by
  rw [List.length_dropLast]
  exact Nat.sub_lt (List.length_pos_iff.mpr hm) Nat.one_pos

/-- An occurrence that begins before the first one would end in `x ++ m.dropLast`. -/
theorem first_length_le (hm : m ≠ []) (h : FirstAt m x)
    (heq : x ++ (m ++ y) = x' ++ (m ++ y')) : x.length ≤ x'.length := by
  by_contra hlt
  refine h (List.IsInfix.trans ⟨x', [], by rw [List.append_nil]⟩ (List.IsPrefix.isInfix ?_))
  have hlast := length_dropLast_lt hm
  have hwhole : x ++ m.dropLast <+: x ++ (m ++ y) :=
    List.prefix_append_right_inj x |>.mpr ((List.dropLast_prefix m).trans (List.prefix_append m y))
  have hearly : x' ++ m <+: x ++ (m ++ y) := by
    rw [heq, ← List.append_assoc]
    exact List.prefix_append _ _
  refine List.prefix_of_prefix_length_le hearly hwhole ?_
  rw [List.length_append, List.length_append, List.length_dropLast]
  omega

/-- What comes behind another occurrence is the end of what comes behind the first. -/
theorem first_le (hm : m ≠ []) (h : FirstAt m x) (heq : x ++ (m ++ y) = x' ++ (m ++ y')) :
    ∃ w, y = w ++ y' := by
  have hle := first_length_le hm h heq
  have hlength := congrArg List.length heq
  simp only [List.length_append] at hlength
  have hsuffix : y' <:+ x ++ (m ++ y) := by
    rw [heq, ← List.append_assoc]
    exact List.suffix_append _ _
  have hsuffix' : y <:+ x ++ (m ++ y) := by
    rw [← List.append_assoc]
    exact List.suffix_append _ _
  obtain ⟨w, hw⟩ := List.suffix_of_suffix_length_le hsuffix hsuffix' (by omega)
  exact ⟨w, hw.symm⟩

/-- **One cut.** The first occurrence is in one place. -/
theorem first_unique (hm : m ≠ []) (h : FirstAt m x) (h' : FirstAt m x')
    (heq : x ++ (m ++ y) = x' ++ (m ++ y')) : x = x' ∧ y = y' := by
  have hle := first_length_le hm h heq
  have hle' := first_length_le hm h' heq.symm
  obtain ⟨hx, hrest⟩ := List.append_inj heq (le_antisymm hle hle')
  exact ⟨hx, List.append_cancel_left hrest⟩

theorem exists_first (h : m <:+: s) (hm : m ≠ []) : ∃ x y, s = x ++ (m ++ y) ∧ FirstAt m x := by
  classical
  have hsome : ∃ n x y, s = x ++ (m ++ y) ∧ x.length = n := by
    obtain ⟨x, y, hs⟩ := h
    exact ⟨x.length, x, y, by rw [← hs, List.append_assoc], rfl⟩
  -- the shortest part before an occurrence
  obtain ⟨x, y, hs, hlength⟩ := Nat.find_spec hsome
  refine ⟨x, y, hs, ?_⟩
  rintro ⟨a, b, hab⟩
  have hlast := length_dropLast_lt hm
  have hshort := congrArg List.length hab
  simp only [List.length_append] at hshort
  have hearlier : ∃ x' y', s = x' ++ (m ++ y') ∧ x'.length = a.length := by
    refine ⟨a, b ++ (m.getLast hm :: y), ?_, rfl⟩
    have hcut : m ++ y = m.dropLast ++ (m.getLast hm :: y) := by
      rw [← List.concat_append, List.concat_eq_append, List.dropLast_append_getLast]
    rw [hs, hcut, ← List.append_assoc, ← hab]
    simp only [List.append_assoc]
  have hmin := Nat.find_min' hsome hearlier
  omega

/-- What came behind an occurrence is the end of what comes behind the first. -/
theorem exists_first_before (hm : m ≠ []) (x y : List α) :
    ∃ x' w, FirstAt m x' ∧ x ++ (m ++ y) = x' ++ (m ++ (w ++ y)) := by
  have hinfix : m <:+: x ++ (m ++ y) := ⟨x, y, by rw [List.append_assoc]⟩
  obtain ⟨x', z, heq, hfirst⟩ := exists_first hinfix hm
  obtain ⟨w, rfl⟩ := first_le hm hfirst heq.symm
  exact ⟨x', w, hfirst, heq⟩

end Markers
