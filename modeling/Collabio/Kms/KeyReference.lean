import Mathlib.Tactic
import Collabio.Platform.Validation
import Collabio.ControlPlane.Models

/-!
# Key references

`kms://<tenant_id>/<data_class>/v<version>`. A `KmsKeyReference` is built only
by the model's constructor, so it carries what the constructor checks.

* `KmsKeyReference.parse_eq_ok` — the texts that parse are exactly the canonical
  texts of references whose tenant contains no slash, up to surrounding
  whitespace.
-/

namespace Collabio

structure KmsKeyReference where
  tenantId   : String
  dataClass  : DataClass
  keyVersion : Nat
  stripped   : Text.strip tenantId = tenantId
  nonEmpty   : tenantId ≠ ""
  positive   : 1 ≤ keyVersion
  deriving DecidableEq

namespace KmsKeyReference

/-- The model's constructor. -/
def make (tenantId : String) (dataClass : DataClass) (keyVersion : Nat) :
    Except Exn KmsKeyReference :=
  if h : Text.strip tenantId ≠ "" ∧ 1 ≤ keyVersion then
    .ok ⟨Text.strip tenantId, dataClass, keyVersion, Text.strip_strip _, h.1, h.2⟩
  else
    .error (.validationError "KmsKeyReference"
      ((if Text.strip tenantId = "" then [⟨"tenant_id", .message "tenant_id must not be empty"⟩]
        else []) ++ requirePositive "key_version" keyVersion))

/-- The text before the version number. -/
def stem (tenantId : String) (dataClass : DataClass) : String :=
  "kms://" ++ tenantId ++ "/" ++ dataClass.value ++ "/v"

/-- `canonical_ref`; an over-long version number has no text. -/
def canonicalRef (ref : KmsKeyReference) : Except Exn String := do
  let version ← strOfNat ref.keyVersion
  return stem ref.tenantId ref.dataClass ++ version

/-- `KEY_VERSION_PATTERN.fullmatch`: the digits after the `v`. -/
def versionDigits? : List Char → Option (List Char)
  | 'v' :: d :: digits =>
    if d ≠ '0' ∧ (d :: digits).all Text.isAsciiDigit then some (d :: digits) else none
  | _ => none

/-- The second half of `parse`, once the three parts are found. -/
def parseParts (normalized : String) (tenantId dataClassValue versionValue : List Char) :
    Except Exn KmsKeyReference := do
  require (Text.strip (String.ofList tenantId) ≠ "")
    (.kmsKeyReferenceError "kms_key_ref tenant_id must not be empty")
  match DataClass.ofValue? (String.ofList dataClassValue) with
  | none =>
    .error (.kmsKeyReferenceError ("unknown kms data class: " ++ String.ofList dataClassValue))
  | some dataClass =>
    match versionDigits? versionValue with
    | none => .error (.kmsKeyReferenceError "kms_key_ref version must be v<positive integer>")
    | some digits =>
      let keyVersion ← natOfStr digits
      let reference ← make (String.ofList tenantId) dataClass keyVersion
      let canonical ← reference.canonicalRef
      require (normalized = canonical) (.kmsKeyReferenceError "kms_key_ref must be canonical")
      return reference

def parse (value : String) : Except Exn KmsKeyReference := do
  let normalized := Text.strip value
  require ("kms://".toList <+: normalized.toList)
    (.kmsKeyReferenceError "kms_key_ref must use kms://")
  match (normalized.toList.drop 6).splitOn '/' with
  | [tenantId, dataClassValue, versionValue] =>
    parseParts normalized tenantId dataClassValue versionValue
  | _ =>
    .error (.kmsKeyReferenceError "kms_key_ref must be kms://<tenant_id>/<data_class>/v<version>")

/-! ## What parses -/

theorem make_eq_ok {tenantId : String} {dataClass : DataClass} {keyVersion : Nat}
    {ref : KmsKeyReference} (h : make tenantId dataClass keyVersion = .ok ref) :
    ref.tenantId = Text.strip tenantId ∧ ref.dataClass = dataClass ∧
      ref.keyVersion = keyVersion := by
  unfold make at h
  split at h
  · cases h
    exact ⟨rfl, rfl, rfl⟩
  · cases h

/-- Building a reference from the fields of one gives it back. -/
theorem make_self (ref : KmsKeyReference) :
    make ref.tenantId ref.dataClass ref.keyVersion = .ok ref := by
  unfold make
  rw [dif_pos ⟨by rw [ref.stripped]; exact ref.nonEmpty, ref.positive⟩]
  cases ref
  simp_all

theorem canonicalRef_eq_ok {ref : KmsKeyReference} {text : String} :
    ref.canonicalRef = .ok text ↔
      (Text.natChars ref.keyVersion).length ≤ maxStrDigits ∧
        text = stem ref.tenantId ref.dataClass ++ String.ofList (Text.natChars ref.keyVersion) := by
  unfold canonicalRef strOfNat
  by_cases hlen : (Text.natChars ref.keyVersion).length ≤ maxStrDigits
  · simp only [hlen, true_and]
    exact ⟨fun h => by cases h; rfl, fun h => by rw [h]; rfl⟩
  · simp only [hlen, false_and, iff_false]
    rintro ⟨⟩

theorem slash_not_mem_value (d : DataClass) : '/' ∉ d.value.toList := by
  cases d <;> decide

theorem slash_not_mem_natChars (n : Nat) : '/' ∉ Text.natChars n := by
  intro h
  exact absurd (Text.natChars_digits _ h) (by decide)

theorem versionDigits?_natChars {n : Nat} (hn : 1 ≤ n) :
    versionDigits? ('v' :: Text.natChars n) = some (Text.natChars n) := by
  have hhead := Text.natChars_head_ne_zero hn
  have hall : (Text.natChars n).all Text.isAsciiDigit = true :=
    List.all_eq_true.mpr Text.natChars_digits
  cases hd : Text.natChars n with
  | nil => exact absurd hd (Text.natChars_ne_nil n)
  | cons d digits =>
    rw [hd] at hhead hall
    have hne : d ≠ '0' := by
      rintro rfl
      exact hhead rfl
    simp only [versionDigits?, ne_eq, hne, not_false_eq_true, hall, and_self, if_true]

theorem natOfStr_natChars {n : Nat} (hlen : (Text.natChars n).length ≤ maxStrDigits) :
    natOfStr (Text.natChars n) = .ok n := by
  rw [natOfStr, if_pos hlen, Text.decimal?_natChars]

/-- A canonical text is not changed by stripping. -/
theorem trimmed_canonical (tenantId : String) (d : DataClass) (n : Nat) :
    Text.Trimmed (stem tenantId d ++ String.ofList (Text.natChars n)).toList := by
  constructor
  · intro c hc
    simp only [stem, String.toList_append] at hc
    have hk : c = 'k' := by simpa using hc.symm
    rw [hk]
    decide
  · intro c hc
    rw [String.toList_append, String.toList_ofList, List.getLast?_append] at hc
    have hlast := List.getLast?_eq_some_getLast (Text.natChars_ne_nil n)
    rw [hlast, Option.some_or, Option.mem_some_iff] at hc
    have hdigit := Text.natChars_digits c (hc ▸ List.getLast_mem _)
    have hrange : '0'.toNat ≤ c.toNat ∧ c.toNat ≤ '9'.toNat := by
      simpa [Text.isAsciiDigit] using hdigit
    have h0 : '0'.toNat = 48 := by decide
    have h9 : '9'.toNat = 57 := by decide
    simp only [Text.isSpace]
    have : ∀ n, 48 ≤ n → n ≤ 57 → ((9 ≤ n && n ≤ 13) || (28 ≤ n && n ≤ 32) || n == 0x85 ||
        n == 0xA0 || n == 0x1680 || (0x2000 ≤ n && n ≤ 0x200A) || n == 0x2028 || n == 0x2029 ||
        n == 0x202F || n == 0x205F || n == 0x3000) = false := by
      intro n hlo hhi
      interval_cases n <;> decide
    exact this c.toNat (by omega) (by omega)

/-- The parts of a canonical text. -/
theorem splitOn_canonical {tenantId : String} (htenant : '/' ∉ tenantId.toList) (d : DataClass)
    (n : Nat) :
    ((stem tenantId d ++ String.ofList (Text.natChars n)).toList.drop 6).splitOn '/' =
      [tenantId.toList, d.value.toList, 'v' :: Text.natChars n] := by
  have hchars : (stem tenantId d ++ String.ofList (Text.natChars n)).toList.drop 6 =
      tenantId.toList ++ '/' :: (d.value.toList ++ '/' :: ('v' :: Text.natChars n)) := by
    simp [stem]
  have hversion : '/' ∉ 'v' :: Text.natChars n := by
    simp [slash_not_mem_natChars]
  rw [hchars, List.splitOn_append_cons_self_of_not_mem htenant,
    List.splitOn_append_cons_self_of_not_mem (slash_not_mem_value d),
    List.splitOn_eq_singleton hversion]

/-- **Grammar.** A text parses exactly when, stripped, it is the canonical text
of the reference, and the tenant contains no slash. -/
theorem parse_eq_ok {value : String} {ref : KmsKeyReference} :
    parse value = .ok ref ↔
      ref.canonicalRef = .ok (Text.strip value) ∧ '/' ∉ ref.tenantId.toList := by
  constructor
  · intro h
    -- at its end the parser compares the stripped text with the canonical one
    unfold parse at h
    obtain ⟨-, h⟩ := require_bind_eq_ok.mp h
    split at h
    · rename_i tenantId dataClassValue versionValue hsplit
      unfold parseParts at h
      obtain ⟨-, h⟩ := require_bind_eq_ok.mp h
      split at h
      · cases h
      · split at h
        · cases h
        · obtain ⟨keyVersion, -, h⟩ := Except.bind_eq_ok.mp h
          obtain ⟨reference, hmake, h⟩ := Except.bind_eq_ok.mp h
          obtain ⟨canonical, hcanonical, h⟩ := Except.bind_eq_ok.mp h
          obtain ⟨heq, h⟩ := require_bind_eq_ok.mp h
          cases h
          refine ⟨heq ▸ hcanonical, fun hmem => ?_⟩
          rw [(make_eq_ok hmake).1] at hmem
          -- the tenant is one part of a text that was split at its slashes
          have hmem' : '/' ∈ tenantId := by
            simpa using Text.mem_of_mem_strip hmem
          exact Text.not_mem_of_mem_splitOn (l := (Text.strip value).toList.drop 6)
            (by rw [hsplit]; simp) hmem'
    · cases h
  · rintro ⟨hcanonical, htenant⟩
    obtain ⟨hlen, htext⟩ := canonicalRef_eq_ok.mp hcanonical
    -- a canonical text is split into its three parts, each of which is read back
    have hstarts : "kms://".toList <+: (Text.strip value).toList := by
      rw [htext, stem]
      simp only [String.toList_append, List.append_assoc]
      exact List.prefix_append _ _
    have hstrip : Text.strip (String.ofList ref.tenantId.toList) ≠ "" := by
      rw [String.ofList_toList, ref.stripped]
      exact ref.nonEmpty
    refine require_bind_eq_ok.mpr ⟨hstarts, ?_⟩
    simp only [htext, splitOn_canonical htenant]
    refine require_bind_eq_ok.mpr ⟨hstrip, ?_⟩
    simp only [String.ofList_toList, DataClass.ofValue?_value,
      versionDigits?_natChars ref.positive]
    refine Except.bind_eq_ok.mpr ⟨ref.keyVersion, natOfStr_natChars hlen, ?_⟩
    refine Except.bind_eq_ok.mpr ⟨ref, make_self ref, ?_⟩
    refine Except.bind_eq_ok.mpr ⟨_, canonicalRef_eq_ok.mpr ⟨hlen, rfl⟩, ?_⟩
    exact require_bind_eq_ok.mpr ⟨rfl, rfl⟩

theorem canonicalRef_of_parse {value : String} {ref : KmsKeyReference}
    (h : parse value = .ok ref) : ref.canonicalRef = .ok (Text.strip value) :=
  (parse_eq_ok.mp h).1

/-- The canonical text of a reference is stripped. -/
theorem strip_canonicalRef {ref : KmsKeyReference} {text : String}
    (h : ref.canonicalRef = .ok text) : Text.strip text = text := by
  rw [(canonicalRef_eq_ok.mp h).2]
  exact Text.strip_eq_self (trimmed_canonical _ _ _)

/-- Parsing reads only the stripped text. -/
@[simp] theorem parse_strip (value : String) : parse (Text.strip value) = parse value := by
  unfold parse
  rw [Text.strip_strip]

end KmsKeyReference

end Collabio
