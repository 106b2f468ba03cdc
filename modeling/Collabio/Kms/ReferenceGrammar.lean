import Mathlib.Tactic
import Collabio.Kms.KeyReference

/-!
# The grammar of key references

* `KmsKeyReference.parse_isOk_iff` — the texts that parse;
* `reference_grammar`              — these, and the round trip of canonical texts.
-/

namespace Collabio

/-! ## Numerals -/

/-- A positive decimal numeral without leading zero. -/
structure IsNumeral (digits : List Char) : Prop where
  digit   : ∀ c ∈ digits, Text.isAsciiDigit c = true
  nonzero : digits.head? ≠ some '0'
  ne_nil  : digits ≠ []

theorem digitChar_of_isAsciiDigit {c : Char} (h : Text.isAsciiDigit c = true) :
    c.toNat - '0'.toNat < 10 ∧ (c.toNat - '0'.toNat).digitChar = c := by
  have hrange : '0'.toNat ≤ c.toNat ∧ c.toNat ≤ '9'.toNat := by
    simpa [Text.isAsciiDigit] using h
  have h0 : '0'.toNat = 48 := by decide
  have h9 : '9'.toNat = 57 := by decide
  refine ⟨by omega, Char.toNat_inj.mp ?_⟩
  have hvalue : ∀ n < 10, (n.digitChar).toNat = n + 48 := by decide
  rw [hvalue _ (by omega)]
  omega

/-- A numeral is what its value is printed as. -/
theorem IsNumeral.natChars_value {digits : List Char} (h : IsNumeral digits) :
    0 < Nat.ofDigitChars 10 digits 0 ∧ Text.natChars (Nat.ofDigitChars 10 digits 0) = digits := by
  obtain ⟨hdigits, hhead, hne⟩ := h
  induction digits using List.reverseRecOn with
  | nil => exact absurd rfl hne
  | append_singleton digits c ih =>
    obtain ⟨hlt, hchar⟩ := digitChar_of_isAsciiDigit (hdigits c (by simp))
    have hvalue : Nat.ofDigitChars 10 (digits ++ [c]) 0 =
        10 * Nat.ofDigitChars 10 digits 0 + (c.toNat - '0'.toNat) := by
      rw [Nat.ofDigitChars_append, Nat.ofDigitChars_cons, Nat.ofDigitChars_nil]
    rw [hvalue, Text.natChars]
    cases hnil : digits with
    | nil =>
      -- one digit, and not zero
      have hne0 : c ≠ '0' := by
        rintro rfl
        simp [hnil] at hhead
      have hpos : c.toNat - '0'.toNat ≠ 0 := by
        intro hzero
        rw [hzero] at hchar
        exact hne0 hchar.symm
      rw [Nat.ofDigitChars_nil, Nat.mul_zero, Nat.zero_add, Nat.toDigits_of_lt_base hlt, hchar]
      exact ⟨Nat.pos_of_ne_zero hpos, rfl⟩
    | cons first rest =>
      have hhead' : digits.head? ≠ some '0' := by
        rw [hnil] at hhead ⊢
        simpa using hhead
      obtain ⟨hpos, hprinted⟩ := ih (fun d hd => hdigits d (List.mem_append_left _ hd)) hhead'
        (by rw [hnil]; exact List.cons_ne_nil _ _)
      rw [← hnil, Nat.toDigits_of_base_le (by decide) (by omega)]
      have hquotient : (10 * Nat.ofDigitChars 10 digits 0 + (c.toNat - '0'.toNat)) / 10 =
          Nat.ofDigitChars 10 digits 0 := by omega
      have hremainder : (10 * Nat.ofDigitChars 10 digits 0 + (c.toNat - '0'.toNat)) % 10 =
          c.toNat - '0'.toNat := by omega
      rw [hquotient, hremainder, hchar]
      rw [Text.natChars] at hprinted
      rw [hprinted]
      exact ⟨by omega, rfl⟩

theorem isNumeral_natChars {n : Nat} (h : 1 ≤ n) : IsNumeral (Text.natChars n) :=
  ⟨Text.natChars_digits, Text.natChars_head_ne_zero h, Text.natChars_ne_nil n⟩

/-! ## References -/

namespace KmsKeyReference

/-- `kms://T/C/vN`, within the length that Python's integer texts may have. -/
structure IsReferenceText (text tenantId : String) (dataClass : DataClass) (digits : List Char) :
    Prop where
  text     : text = "kms://" ++ tenantId ++ "/" ++ dataClass.value ++ "/v" ++ String.ofList digits
  tenant   : tenantId ≠ "" ∧ '/' ∉ tenantId.toList ∧ Text.strip tenantId = tenantId
  numeral  : IsNumeral digits
  printed  : digits.length ≤ maxStrDigits

/-- **What parses**, up to whitespace around it. -/
theorem parse_isOk_iff {value : String} :
    (∃ ref, parse value = .ok ref) ↔
      ∃ tenantId dataClass digits,
        IsReferenceText (Text.strip value) tenantId dataClass digits := by
  constructor
  · rintro ⟨ref, h⟩
    obtain ⟨hcanonical, hslash⟩ := parse_eq_ok.mp h
    obtain ⟨hlength, htext⟩ := canonicalRef_eq_ok.mp hcanonical
    exact ⟨ref.tenantId, ref.dataClass, Text.natChars ref.keyVersion, htext,
      ⟨ref.nonEmpty, hslash, ref.stripped⟩, isNumeral_natChars ref.positive, hlength⟩
  · rintro ⟨tenantId, dataClass, digits, htext, ⟨hne, hslash, hstrip⟩, hnumeral, hlength⟩
    obtain ⟨hpos, hprinted⟩ := hnumeral.natChars_value
    refine ⟨⟨tenantId, dataClass, Nat.ofDigitChars 10 digits 0, hstrip, hne, hpos⟩,
      parse_eq_ok.mpr ⟨canonicalRef_eq_ok.mpr ⟨?_, ?_⟩, hslash⟩⟩
    · dsimp only
      rw [hprinted]
      exact hlength
    · dsimp only
      rw [hprinted, stem, htext]

/-- The canonical text of a reference, where it has one, gives it back. -/
theorem parse_canonicalRef {ref : KmsKeyReference} {text : String}
    (hslash : '/' ∉ ref.tenantId.toList) (h : ref.canonicalRef = .ok text) :
    parse text = .ok ref :=
  parse_eq_ok.mpr ⟨by rw [strip_canonicalRef h]; exact h, hslash⟩

/-- A reference has a canonical text unless its version is too long to print. -/
theorem canonicalRef_isOk_iff {ref : KmsKeyReference} :
    (∃ text, ref.canonicalRef = .ok text) ↔
      (Text.natChars ref.keyVersion).length ≤ maxStrDigits := by
  constructor
  · rintro ⟨text, h⟩
    exact (canonicalRef_eq_ok.mp h).1
  · exact fun h => ⟨_, canonicalRef_eq_ok.mpr ⟨h, rfl⟩⟩

/-- **The grammar of key references.** A text parses exactly if it is, up to whitespace around
it, of the form `kms://T/C/vN`, and then it is the canonical text of what it gives; canonical
texts of references whose tenants have no slash are read back, so no two have the same. -/
theorem reference_grammar :
    (∀ value, (∃ ref, parse value = .ok ref) ↔
      ∃ tenantId dataClass digits,
        IsReferenceText (Text.strip value) tenantId dataClass digits) ∧
    (∀ value ref, parse value = .ok ref → ref.canonicalRef = .ok (Text.strip value)) ∧
    (∀ ref : KmsKeyReference, '/' ∉ ref.tenantId.toList →
      (Text.natChars ref.keyVersion).length ≤ maxStrDigits →
        ∃ text, ref.canonicalRef = .ok text ∧ parse text = .ok ref) ∧
    ∀ (ref ref' : KmsKeyReference) (text : String), '/' ∉ ref.tenantId.toList →
      '/' ∉ ref'.tenantId.toList → ref.canonicalRef = .ok text → ref'.canonicalRef = .ok text →
        ref = ref' := by
  refine ⟨fun value => parse_isOk_iff, fun value ref h => canonicalRef_of_parse h, ?_, ?_⟩
  · intro ref hslash hlength
    obtain ⟨text, htext⟩ := canonicalRef_isOk_iff.mpr hlength
    exact ⟨text, htext, parse_canonicalRef hslash htext⟩
  · intro ref ref' text hslash hslash' h h'
    have hsame : Except.ok (ε := Exn) ref = .ok ref' :=
      (parse_canonicalRef hslash h).symm.trans (parse_canonicalRef hslash' h')
    exact Except.ok.inj hsame

end KmsKeyReference

end Collabio
