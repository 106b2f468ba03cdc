import Mathlib.Tactic
import Collabio.Library.Effect
import Collabio.Library.Text
import Collabio.Library.Datetime

/-!
# Exceptions and model validation

* `Exn`      — the exceptions of the modelled code, with their texts;
* `accept`   — the end of a pydantic model's field validation: all field
  errors are collected before the model is rejected;
* `requireNonEmpty`, `requireNamespacedRef`, `requireUtcTimestamp` — the field
  validators that the models share. Each strips its value first, so a model is
  written as a normalisation followed by checks of the normalised value.
-/

namespace Collabio

/-- What a validator complains about: a text of its own, or the ValueError of
`datetime.fromisoformat` on a value. -/
inductive Cause where
  | message (text : String)
  | invalidIsoformat (value : String)
  deriving DecidableEq, Repr

/-- One error of a rejected model; errors of the model as a whole have an empty field. -/
structure FieldError where
  field : String
  cause : Cause
  deriving DecidableEq, Repr

/-- The exceptions the modelled code raises. -/
inductive Exn where
  | validationError (model : String) (errors : List FieldError)
  | valueError (cause : Cause)
  | keyError
  | lookupError (text : String)
  | typeError (text : String)
  | overflowError
  | binasciiError
  | unicodeEncodeError
  | kmsKeyReferenceError (text : String)
  | kmsPolicyViolation (text : String)
  | envelopeEncryptionError (text : String)
  | cryptoshredSimulationError (text : String)
  | legalHoldTransitionError (text : String)
  | sourceObjectWriteDenied (text : String)
  | contentHashVerificationError (text : String)
  | retentionManifestError (text : String)
  | jwtAuthenticationError (text : String)
  | principalResolutionError (text : String)
  | moduleLifecycleError (text : String)
  | policyViolation (text : String)
  | storageManifestError (text : String)
  | storageRestoreVerificationError (text : String)
  | restoreDrillError (text : String)
  | databaseError (text : String)
  deriving DecidableEq, Repr

/-- Raise unless a condition holds. -/
def require (condition : Prop) [Decidable condition] (exn : Exn) : Except Exn Unit :=
  if condition then .ok () else .error exn

@[simp] theorem require_eq_ok {condition : Prop} [Decidable condition] {exn : Exn} :
    require condition exn = .ok () ↔ condition := by
  unfold require
  split <;> simp_all

theorem require_of {condition : Prop} [Decidable condition] (exn : Exn) (h : condition) :
    require condition exn = .ok () := require_eq_ok.mpr h

theorem require_of_not {condition : Prop} [Decidable condition] (exn : Exn)
    (h : ¬ condition) : require condition exn = .error exn := if_neg h

/-- Continuing after a check: the check holds and the rest returns. -/
theorem require_bind_eq_ok {α : Type} {condition : Prop} [Decidable condition] {exn : Exn}
    {f : Unit → Except Exn α} {a : α} :
    (require condition exn >>= f) = .ok a ↔ condition ∧ f () = .ok a := by
  unfold require
  by_cases h : condition
  · simp only [h, true_and]
    rfl
  · simp only [h, false_and, iff_false]
    rintro ⟨⟩

/-! ## Models -/

/-- Accept a normalised model if none of its field validators complained. -/
def accept {α : Type} (model : String) (errors : List FieldError) (value : α) : Except Exn α :=
  if errors = [] then .ok value else .error (.validationError model errors)

theorem accept_eq_ok {α : Type} {model : String} {errors : List FieldError} {value a : α} :
    accept model errors value = .ok a ↔ errors = [] ∧ value = a := by
  unfold accept
  split
  · simp_all
  · simp_all

/-- A check of the whole model, made once all its fields are accepted. -/
def requireModel (model : String) (condition : Prop) [Decidable condition] (text : String) :
    Except Exn Unit :=
  require condition (.validationError model [⟨"", .message text⟩])

/-! ## Field validators -/

def requireNonEmpty (field value : String) : List FieldError :=
  if value = "" then [⟨field, .message "field must not be empty"⟩] else []

@[simp] theorem requireNonEmpty_eq_nil {field value : String} :
    requireNonEmpty field value = [] ↔ value ≠ "" := by
  unfold requireNonEmpty
  split <;> simp_all

def isSchemeChar (c : Char) : Bool :=
  Text.isAsciiLower c || Text.isAsciiDigit c || c == '_' || c == '+' || c == '.' || c == '-'

/-- `NAMESPACED_REF_PATTERN.fullmatch`: a scheme that starts with a letter, a
colon, and at least one more character, none of them a line feed. -/
def isNamespacedRef (value : String) : Bool :=
  let scheme := value.toList.takeWhile isSchemeChar
  scheme.head?.any Text.isAsciiLower &&
    match value.toList.dropWhile isSchemeChar with
    | ':' :: rest => rest != [] && rest.all (· != '\n')
    | _ => false

def requireNamespacedRef (field value : String) : List FieldError :=
  if isNamespacedRef value then []
  else [⟨field, .message (field ++ " must be a namespaced reference")⟩]

@[simp] theorem requireNamespacedRef_eq_nil {field value : String} :
    requireNamespacedRef field value = [] ↔ isNamespacedRef value = true := by
  unfold requireNamespacedRef
  split <;> simp_all

theorem ne_empty_of_isNamespacedRef {value : String} (h : isNamespacedRef value = true) :
    value ≠ "" := by
  rintro rfl
  exact absurd h (by decide)

/-- The timestamp behind a text; one that is not in UTC is refused with the
text `notUtc`, which each caller words itself. -/
def parseUtc (notUtc value : String) : Except Cause Datetime.DateTime :=
  match Datetime.fromisoformat (Text.replaceChar 'Z' "+00:00".toList value.toList) with
  | none => .error (.invalidIsoformat value)
  | some t => if t.utcoffset = some 0 then .ok t else .error (.message notUtc)

/-- Does `parseUtc` return? That does not depend on the caller's wording. -/
def isUtcTimestamp (value : String) : Bool :=
  (Datetime.fromisoformat (Text.replaceChar 'Z' "+00:00".toList value.toList)).any fun t =>
    t.utcoffset == some 0

theorem parseUtc_isOk {notUtc value : String} :
    (∃ t, parseUtc notUtc value = .ok t) ↔ isUtcTimestamp value = true := by
  unfold parseUtc isUtcTimestamp
  cases Datetime.fromisoformat (Text.replaceChar 'Z' "+00:00".toList value.toList) with
  | none => simp
  | some t => by_cases h : t.utcoffset = some 0 <;> simp [h]

/-- The complaint of a validator that only wants `parseUtc` to return. -/
def requireParsedUtc (field notUtc value : String) : List FieldError :=
  match parseUtc notUtc value with
  | .ok _ => []
  | .error cause => [⟨field, cause⟩]

@[simp] theorem requireParsedUtc_eq_nil {field notUtc value : String} :
    requireParsedUtc field notUtc value = [] ↔ isUtcTimestamp value = true := by
  rw [← @parseUtc_isOk notUtc, requireParsedUtc]
  cases parseUtc notUtc value <;> simp

def requireUtcTimestamp (field value : String) : List FieldError :=
  if value = "" then [⟨field, .message "timestamp must not be empty"⟩]
  else requireParsedUtc field "timestamp must be UTC" value

@[simp] theorem requireUtcTimestamp_eq_nil {field value : String} :
    requireUtcTimestamp field value = [] ↔ isUtcTimestamp value = true := by
  unfold requireUtcTimestamp
  by_cases h : value = ""
  · subst h
    have : isUtcTimestamp "" = false := by decide
    simp [this]
  · rw [if_neg h, requireParsedUtc_eq_nil]

/-- Optional fields are checked only when they are set. -/
def requireOptional {α : Type} (validator : α → List FieldError) : Option α → List FieldError
  | none => []
  | some value => validator value

@[simp] theorem requireOptional_none {α : Type} (validator : α → List FieldError) :
    requireOptional validator none = [] := rfl

@[simp] theorem requireOptional_some {α : Type} (validator : α → List FieldError) (value : α) :
    requireOptional validator (some value) = validator value := rfl

/-- `Field(ge=1)`. -/
def requirePositive (field : String) (value : Nat) : List FieldError :=
  if 1 ≤ value then []
  else [⟨field, .message "Input should be greater than or equal to 1"⟩]

@[simp] theorem requirePositive_eq_nil {field : String} {value : Nat} :
    requirePositive field value = [] ↔ 1 ≤ value := by
  unfold requirePositive
  split <;> simp_all

/-! ## Comparisons of records -/

/-- Names whose comparison failed, sorted, as the error texts list them. -/
def mismatchNames (comparisons : List (String × Bool)) : String :=
  ", ".intercalate (((comparisons.filter (!·.2)).map Prod.fst).insertionSort (· ≤ ·))

/-- Raise unless every named comparison holds; the text ends with the names of those that fail. -/
def requireAgreement (exn : String → Exn) (text : String) (comparisons : List (String × Bool)) :
    Except Exn Unit :=
  require (comparisons.all Prod.snd) (exn (text ++ mismatchNames comparisons))

theorem requireAgreement_eq_ok {exn : String → Exn} {text : String}
    {comparisons : List (String × Bool)} :
    requireAgreement exn text comparisons = .ok () ↔ comparisons.all Prod.snd = true :=
  require_eq_ok

/-! ## Numerals -/

/-- Python converts between integers and decimal texts of at most this many digits. -/
def maxStrDigits : Nat := 4300

def digitLimitText : String := "Exceeds the limit (4300 digits) for integer string conversion"

/-- `str(n)`. -/
def strOfNat (n : Nat) : Except Exn String :=
  if (Text.natChars n).length ≤ maxStrDigits then .ok (String.ofList (Text.natChars n))
  else .error (.valueError (.message
    (digitLimitText ++ "; use sys.set_int_max_str_digits() to increase the limit")))

/-- `int(text)` of a nonempty run of ASCII digits. -/
def natOfStr (digits : List Char) : Except Exn Nat :=
  if digits.length ≤ maxStrDigits then
    match Text.decimal? digits with
    | some n => .ok n
    | none => .error (.valueError (.message
        ("invalid literal for int() with base 10: '" ++ String.ofList digits ++ "'")))
  else .error (.valueError (.message
    (digitLimitText ++ ": value has " ++ toString digits.length ++
      " digits; use sys.set_int_max_str_digits() to increase the limit")))

end Collabio
