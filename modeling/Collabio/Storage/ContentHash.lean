import Mathlib.Tactic
import Collabio.Library.JsonCodes
import Collabio.Platform.Validation

/-!
# Content hashes

The digest functions are parameters (`HashFunctions`): nothing below depends on
what SHA-256 computes, except where a theorem asks for injectivity.

* `computeContentHash_injective` — the text form of a digest adds no collisions;
* `hashJson_eq_iff` — under an injective digest, equal manifest hashes mean
  equal payloads, up to the order of object members.
-/

namespace Collabio

abbrev Bytes := List UInt8

/-- The digests of the standard library. An HMAC-SHA256 tag has 32 bytes. -/
structure HashFunctions where
  sha256      : Bytes → Bytes
  hmacSha256  : Bytes → Bytes → Bytes
  hmac_length : ∀ key message, (hmacSha256 key message).length = 32

instance : Inhabited HashFunctions :=
  ⟨⟨id, fun _ _ => List.replicate 32 0, fun _ _ => List.length_replicate⟩⟩

@[simp] theorem sha256_default (content : Bytes) :
    (default : HashFunctions).sha256 content = content := rfl

variable (H : HashFunctions)

/-- `sha256(content).hexdigest()`. -/
def hexdigest (content : Bytes) : String := String.ofList (Text.hexChars (H.sha256 content))

/-- `compute_content_hash`; SHA-256 is the only algorithm. -/
def computeContentHash (content : Bytes) : String := "sha256:" ++ hexdigest H content

/-- `json.dumps(payload, sort_keys=True, separators=(",", ":")).encode("utf-8")`. -/
def jsonBytes (payload : Json) : Bytes := Text.encodeUtf8 (Json.canonical payload)

/-- The hash of a manifest payload. -/
def hashJson (payload : Json) : String := computeContentHash H (jsonBytes payload)

/-- `None` or a text, as JSON. -/
def optionalText : Option String → Json
  | none => .null
  | some text => .str text

/-- The placeholder hash of a draft. -/
def zeroHash : String :=
  "sha256:0000000000000000000000000000000000000000000000000000000000000000"

structure ContentHashVerificationResult where
  expectedHash        : String
  actualHash          : String
  byteLength          : Nat
  verificationContext : String
  verified            : Bool := true
  deriving DecidableEq, Repr

def isHexDigit (c : Char) : Bool :=
  Text.isAsciiDigit c || ('a'.toNat ≤ c.toNat && c.toNat ≤ 'f'.toNat)

/-- `parse_content_hash`: the digest of a well-formed hash text. -/
def parseContentHash (value : String) : Except Exn String := do
  let normalized := (Text.strip value).toList
  let algorithm := normalized.takeWhile (· != ':')
  let digest := (normalized.dropWhile (· != ':')).drop 1
  require (':' ∈ normalized ∧ algorithm ≠ [] ∧ digest ≠ [])
    (.contentHashVerificationError "content_hash must be a namespaced hash")
  require (String.ofList algorithm = "sha256")
    (.contentHashVerificationError
      ("unsupported content hash algorithm: " ++ String.ofList algorithm))
  require (digest.length = 64 ∧ digest.all isHexDigit)
    (.contentHashVerificationError "content_hash must be sha256:<64 lowercase hex chars>")
  return String.ofList digest

/-- `verify_content_hash`. -/
def verifyContentHash (content : Bytes) (expectedHash verificationContext : String) :
    Except Exn ContentHashVerificationResult := do
  let context := Text.strip verificationContext
  require (context ≠ "")
    (.contentHashVerificationError "verification_context must not be empty")
  let _digest ← parseContentHash expectedHash
  let normalizedExpectedHash := Text.strip expectedHash
  let actualHash := computeContentHash H content
  require (actualHash = normalizedExpectedHash)
    (.contentHashVerificationError "content_hash does not match content bytes")
  return {
    expectedHash := normalizedExpectedHash
    actualHash
    byteLength := content.length
    verificationContext := context }

variable {H}

theorem jsonBytes_obj_ne_nil (members : List (String × Json)) : jsonBytes (.obj members) ≠ [] := by
  intro h
  have hempty : Text.encodeUtf8 "" = [] := rfl
  rw [jsonBytes, ← hempty] at h
  exact Json.canonical_obj_ne_empty members (Text.encodeUtf8_injective h)

theorem strip_hashJson_ne_empty (payload : Json) : Text.strip (hashJson H payload) ≠ "" :=
  Text.strip_ne_empty (c := 's')
    (by simp [hashJson, computeContentHash, String.toList_append]) (by decide)

theorem toList_computeContentHash (content : Bytes) :
    (computeContentHash H content).toList =
      "sha256".toList ++ ':' :: Text.hexChars (H.sha256 content) := by
  simp [computeContentHash, hexdigest, String.toList_append]

/-- The characters of a digest. -/
theorem hexDigit_spec : ∀ n < 16, isHexDigit (Text.hexDigit n) = true ∧
    Text.isSpace (Text.hexDigit n) = false ∧ Text.hexDigit n ≠ '\n' := by decide

@[simp] theorem strip_computeContentHash (content : Bytes) :
    Text.strip (computeContentHash H content) = computeContentHash H content := by
  refine Text.strip_eq_self_of_forall fun c hc => ?_
  rw [toList_computeContentHash, List.mem_append, List.mem_cons] at hc
  rcases hc with hc | rfl | hc
  · have hscheme : ("sha256".toList.all fun c => !Text.isSpace c) = true := by decide
    simpa using List.all_eq_true.mp hscheme c hc
  · decide
  · obtain ⟨n, hn, rfl⟩ := Text.mem_hexChars hc
    exact (hexDigit_spec n hn).2.1

theorem isNamespacedRef_computeContentHash {content : Bytes} (h : H.sha256 content ≠ []) :
    isNamespacedRef (computeContentHash H content) = true := by
  have hscheme : ∀ rest, ("sha256".toList ++ ':' :: rest).takeWhile isSchemeChar =
      "sha256".toList ∧ ("sha256".toList ++ ':' :: rest).dropWhile isSchemeChar = ':' :: rest :=
    fun rest => ⟨rfl, rfl⟩
  have hne : Text.hexChars (H.sha256 content) ≠ [] := by
    rw [← List.length_pos_iff, Text.length_hexChars]
    have := List.length_pos_iff.mpr h
    omega
  have hline : ∀ c ∈ Text.hexChars (H.sha256 content), c ≠ '\n' := by
    intro c hc
    obtain ⟨n, hn, rfl⟩ := Text.mem_hexChars hc
    exact (hexDigit_spec n hn).2.2
  unfold isNamespacedRef
  rw [toList_computeContentHash, (hscheme _).1, (hscheme _).2]
  simp only [Bool.and_eq_true, bne_iff_ne, ne_eq, List.all_eq_true]
  exact ⟨by decide, hne, hline⟩

/-- Content that is not empty has a digest that is not empty. -/
def HashFunctions.HasDigests (H : HashFunctions) : Prop :=
  ∀ content, content ≠ [] → H.sha256 content ≠ []

theorem hasDigests_default : (default : HashFunctions).HasDigests :=
  fun _ hcontent => hcontent

/-- The hash of an object payload is a reference. -/
theorem isNamespacedRef_hashJson_obj (hdigests : H.HasDigests) (members : List (String × Json)) :
    isNamespacedRef (hashJson H (.obj members)) = true :=
  isNamespacedRef_computeContentHash (hdigests _ (jsonBytes_obj_ne_nil members))

theorem isNamespacedRef_hashJson (members : List (String × Json)) :
    isNamespacedRef (hashJson default (.obj members)) = true :=
  isNamespacedRef_hashJson_obj hasDigests_default members

/-- A digest of 32 bytes is a well-formed hash text. -/
theorem parseContentHash_computeContentHash {content : Bytes}
    (h : (H.sha256 content).length = 32) :
    parseContentHash (computeContentHash H content) = .ok (hexdigest H content) := by
  have hsplit : ∀ rest, ("sha256".toList ++ ':' :: rest).takeWhile (· != ':') =
      "sha256".toList ∧ ("sha256".toList ++ ':' :: rest).dropWhile (· != ':') = ':' :: rest :=
    fun rest => ⟨rfl, rfl⟩
  have hlength : (Text.hexChars (H.sha256 content)).length = 64 := by simp [h]
  unfold parseContentHash
  simp only [strip_computeContentHash, toList_computeContentHash, (hsplit _).1, (hsplit _).2,
    List.drop_one, List.tail_cons]
  refine require_bind_eq_ok.mpr ⟨⟨by simp, by decide, ?_⟩, require_bind_eq_ok.mpr
    ⟨by decide, require_bind_eq_ok.mpr ⟨⟨hlength, ?_⟩, rfl⟩⟩⟩
  · rw [← List.length_pos_iff, hlength]
    decide
  · rw [List.all_eq_true]
    intro c hc
    obtain ⟨n, hn, rfl⟩ := Text.mem_hexChars hc
    exact (hexDigit_spec n hn).1

/-- Content verifies against its own hash. -/
theorem verifyContentHash_self {content : Bytes} (h : (H.sha256 content).length = 32)
    {verificationContext : String} (hcontext : Text.strip verificationContext ≠ "") :
    ∃ result, verifyContentHash H content (computeContentHash H content) verificationContext =
      .ok result := by
  refine ⟨_, require_bind_eq_ok.mpr ⟨hcontext, Except.bind_eq_ok.mpr
    ⟨_, parseContentHash_computeContentHash h, require_bind_eq_ok.mpr ⟨?_, rfl⟩⟩⟩⟩
  rw [strip_computeContentHash]

/-- The text form of a digest adds no collisions. -/
theorem computeContentHash_eq_iff {a b : Bytes} :
    computeContentHash H a = computeContentHash H b ↔ H.sha256 a = H.sha256 b := by
  constructor
  · intro h
    have htoList : (computeContentHash H a).toList = (computeContentHash H b).toList :=
      congrArg String.toList h
    simp only [computeContentHash, hexdigest, String.toList_append, String.toList_ofList,
      List.append_cancel_left_eq] at htoList
    exact Text.hexChars_injective htoList
  · intro h
    rw [computeContentHash, computeContentHash, hexdigest, hexdigest, h]

theorem computeContentHash_injective (hinj : Function.Injective H.sha256) :
    Function.Injective (computeContentHash H) :=
  fun _ _ h => hinj (computeContentHash_eq_iff.mp h)

/-- Payloads that do not collide. -/
theorem same_of_hashJson_eq {texts : Set Bytes} (hinj : Set.InjOn H.sha256 texts) {x y : Json}
    (hx : jsonBytes x ∈ texts) (hy : jsonBytes y ∈ texts) (h : hashJson H x = hashJson H y) :
    Json.Same x y := by
  have hbytes : jsonBytes x = jsonBytes y := hinj hx hy (computeContentHash_eq_iff.mp h)
  exact Json.canonical_inj.mp (Text.encodeUtf8_injective hbytes)

theorem hashJson_eq_iff (hinj : Function.Injective H.sha256) {x y : Json} :
    hashJson H x = hashJson H y ↔ Json.Same x y := by
  rw [hashJson, hashJson, (computeContentHash_injective hinj).eq_iff, jsonBytes, jsonBytes,
    Text.encodeUtf8_injective.eq_iff, Json.canonical_inj]

end Collabio
