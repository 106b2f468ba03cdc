import Mathlib.Tactic
import Collabio.Library.Base64
import Collabio.Library.Dict
import Collabio.Library.StreamCipher
import Collabio.Kms.Adapter

/-!
# Local envelope encryption

An object is encrypted under a fresh data key; the data key is wrapped under a
stream derived from the provider secret and the **text** of the key reference.
The manifest records hashes of everything and is itself hashed.

The generators of data keys and nonces are outside the code: the bytes they
return are arguments of `encrypt`.
-/

namespace Collabio

def authTagBytes : Nat := 32

def dataKeyBytes : Nat := 32

def nonceBytes : Nat := 12

/-- The only algorithm. -/
inductive EnvelopeEncryptionAlgorithm where
  | localDevHmacSha256StreamV1
  deriving DecidableEq, Repr

def EnvelopeEncryptionAlgorithm.value : EnvelopeEncryptionAlgorithm → String
  | .localDevHmacSha256StreamV1 => "local_dev_hmac_sha256_stream_v1"

/-! ## Models -/

@[ext] structure EnvelopeEncryptionRequest where
  tenantId        : String
  objectId        : String
  sourceVersionId : String
  dataClass       : DataClass
  kmsKeyRef       : String
  plaintext       : Bytes
  aad             : Dict String String
  requestedBy     : String
  auditChainRef   : String
  occurredAtUtc   : String

namespace EnvelopeEncryptionRequest

/-- `kms_key_ref` and `audit_chain_ref` have no validator and stay as they are. -/
def normalized (request : EnvelopeEncryptionRequest) : EnvelopeEncryptionRequest :=
  { request with
    tenantId := Text.strip request.tenantId
    objectId := Text.strip request.objectId
    sourceVersionId := Text.strip request.sourceVersionId
    requestedBy := Text.strip request.requestedBy
    occurredAtUtc := Text.strip request.occurredAtUtc }

def errors (request : EnvelopeEncryptionRequest) : List FieldError :=
  requireNonEmpty "tenant_id" request.tenantId ++
    requireNonEmpty "object_id" request.objectId ++
    requireNonEmpty "source_version_id" request.sourceVersionId ++
    (if request.plaintext = [] then [⟨"plaintext", .message "plaintext must not be empty"⟩]
      else []) ++
    requireNonEmpty "requested_by" request.requestedBy ++
    requireUtcTimestamp "occurred_at_utc" request.occurredAtUtc

def validate (request : EnvelopeEncryptionRequest) : Except Exn EnvelopeEncryptionRequest :=
  accept "EnvelopeEncryptionRequest" request.normalized.errors request.normalized

end EnvelopeEncryptionRequest

structure EnvelopeEncryptionManifest where
  schemaVersion        : String := "envelope_encryption_manifest.v1"
  tenantId             : String
  objectId             : String
  sourceVersionId      : String
  dataClass            : DataClass
  kmsKeyRef            : String
  algorithm            : EnvelopeEncryptionAlgorithm
  keyWrapAlgorithm     : String := "local_dev_kms_ref_wrap_v1"
  nonceB64             : String
  aadHash              : String
  plaintextHash        : String
  ciphertextHash       : String
  ciphertextByteLength : Nat
  wrappedDataKeyB64    : String
  wrappedDataKeyHash   : String
  kmsEvidenceHash      : String
  encryptedAtUtc       : String
  previousManifestHash : Option String := none
  previousKmsKeyRef    : Option String := none
  rotationEvidenceHash : Option String := none
  rotatedAtUtc         : Option String := none
  rotationReason       : Option String := none
  requestedBy          : String
  auditChainRef        : String
  manifestHash         : String := zeroHash
  deriving DecidableEq, Repr

namespace EnvelopeEncryptionManifest

/-- The fields of `model_dump(mode="json")`, without the hash. -/
def payloadFields (manifest : EnvelopeEncryptionManifest) : List (String × Json) :=
  [("schema_version", .str manifest.schemaVersion),
    ("tenant_id", .str manifest.tenantId),
    ("object_id", .str manifest.objectId),
    ("source_version_id", .str manifest.sourceVersionId),
    ("data_class", .str manifest.dataClass.value),
    ("kms_key_ref", .str manifest.kmsKeyRef),
    ("algorithm", .str manifest.algorithm.value),
    ("key_wrap_algorithm", .str manifest.keyWrapAlgorithm),
    ("nonce_b64", .str manifest.nonceB64),
    ("aad_hash", .str manifest.aadHash),
    ("plaintext_hash", .str manifest.plaintextHash),
    ("ciphertext_hash", .str manifest.ciphertextHash),
    ("ciphertext_byte_length", .int manifest.ciphertextByteLength),
    ("wrapped_data_key_b64", .str manifest.wrappedDataKeyB64),
    ("wrapped_data_key_hash", .str manifest.wrappedDataKeyHash),
    ("kms_evidence_hash", .str manifest.kmsEvidenceHash),
    ("encrypted_at_utc", .str manifest.encryptedAtUtc),
    ("previous_manifest_hash", optionalText manifest.previousManifestHash),
    ("previous_kms_key_ref", optionalText manifest.previousKmsKeyRef),
    ("rotation_evidence_hash", optionalText manifest.rotationEvidenceHash),
    ("rotated_at_utc", optionalText manifest.rotatedAtUtc),
    ("rotation_reason", optionalText manifest.rotationReason),
    ("requested_by", .str manifest.requestedBy),
    ("audit_chain_ref", .str manifest.auditChainRef)]

/-- `envelope_encryption_manifest_payload`. -/
def payload (manifest : EnvelopeEncryptionManifest) : Json := .obj manifest.payloadFields

def normalized (manifest : EnvelopeEncryptionManifest) : EnvelopeEncryptionManifest :=
  { manifest with
    tenantId := Text.strip manifest.tenantId
    objectId := Text.strip manifest.objectId
    sourceVersionId := Text.strip manifest.sourceVersionId
    kmsKeyRef := Text.strip manifest.kmsKeyRef
    keyWrapAlgorithm := Text.strip manifest.keyWrapAlgorithm
    nonceB64 := Text.strip manifest.nonceB64
    wrappedDataKeyB64 := Text.strip manifest.wrappedDataKeyB64
    encryptedAtUtc := Text.strip manifest.encryptedAtUtc
    previousManifestHash := manifest.previousManifestHash.map Text.strip
    previousKmsKeyRef := manifest.previousKmsKeyRef.map Text.strip
    rotationEvidenceHash := manifest.rotationEvidenceHash.map Text.strip
    rotatedAtUtc := manifest.rotatedAtUtc.map Text.strip
    rotationReason := manifest.rotationReason.map Text.strip
    requestedBy := Text.strip manifest.requestedBy
    auditChainRef := Text.strip manifest.auditChainRef }

def errors (manifest : EnvelopeEncryptionManifest) : List FieldError :=
  requireNonEmpty "tenant_id" manifest.tenantId ++
    requireNonEmpty "object_id" manifest.objectId ++
    requireNonEmpty "source_version_id" manifest.sourceVersionId ++
    requireNonEmpty "kms_key_ref" manifest.kmsKeyRef ++
    requireNonEmpty "key_wrap_algorithm" manifest.keyWrapAlgorithm ++
    requireNonEmpty "nonce_b64" manifest.nonceB64 ++
    requirePositive "ciphertext_byte_length" manifest.ciphertextByteLength ++
    requireNonEmpty "wrapped_data_key_b64" manifest.wrappedDataKeyB64 ++
    requireUtcTimestamp "encrypted_at_utc" manifest.encryptedAtUtc ++
    requireOptional (requireNonEmpty "previous_manifest_hash") manifest.previousManifestHash ++
    requireOptional (requireNonEmpty "previous_kms_key_ref") manifest.previousKmsKeyRef ++
    requireOptional (requireNonEmpty "rotation_evidence_hash") manifest.rotationEvidenceHash ++
    requireOptional (requireUtcTimestamp "rotated_at_utc") manifest.rotatedAtUtc ++
    requireOptional (requireNonEmpty "rotation_reason") manifest.rotationReason ++
    requireNonEmpty "requested_by" manifest.requestedBy ++
    requireNonEmpty "audit_chain_ref" manifest.auditChainRef

def forbiddenFields : List String := ["data_key", "raw_key", "plaintext_key", "key_material"]

def validate (manifest : EnvelopeEncryptionManifest) : Except Exn EnvelopeEncryptionManifest := do
  let manifest ←
    accept "EnvelopeEncryptionManifest" manifest.normalized.errors manifest.normalized
  requireModel "EnvelopeEncryptionManifest"
    (forbiddenFields.all (· ∉ manifest.payloadFields.map Prod.fst))
    "envelope manifest must not expose raw key material"
  return manifest

end EnvelopeEncryptionManifest

structure EnvelopeEncryptedPayload where
  ciphertext  : Bytes
  manifest    : EnvelopeEncryptionManifest
  kmsEvidence : KmsOperationEvidence
  deriving DecidableEq, Repr

@[ext] structure EnvelopeDecryptionRequest where
  tenantId        : String
  objectId        : String
  sourceVersionId : String
  dataClass       : DataClass
  kmsKeyRef       : String
  ciphertext      : Bytes
  manifest        : EnvelopeEncryptionManifest
  aad             : Dict String String
  requestedBy     : String
  auditChainRef   : String
  occurredAtUtc   : String

/-- `require_ciphertext`. -/
def requireCiphertext (ciphertext : Bytes) : List FieldError :=
  if ciphertext.length ≤ authTagBytes then
    [⟨"ciphertext", .message "ciphertext must include encrypted bytes and auth tag"⟩]
  else []

@[simp] theorem requireCiphertext_eq_nil {ciphertext : Bytes} :
    requireCiphertext ciphertext = [] ↔ authTagBytes < ciphertext.length := by
  unfold requireCiphertext
  split <;> simp_all

namespace EnvelopeDecryptionRequest

def normalized (request : EnvelopeDecryptionRequest) : EnvelopeDecryptionRequest :=
  { request with
    tenantId := Text.strip request.tenantId
    objectId := Text.strip request.objectId
    sourceVersionId := Text.strip request.sourceVersionId
    requestedBy := Text.strip request.requestedBy
    occurredAtUtc := Text.strip request.occurredAtUtc }

def errors (request : EnvelopeDecryptionRequest) : List FieldError :=
  requireNonEmpty "tenant_id" request.tenantId ++
    requireNonEmpty "object_id" request.objectId ++
    requireNonEmpty "source_version_id" request.sourceVersionId ++
    requireCiphertext request.ciphertext ++
    requireNonEmpty "requested_by" request.requestedBy ++
    requireUtcTimestamp "occurred_at_utc" request.occurredAtUtc

def validate (request : EnvelopeDecryptionRequest) : Except Exn EnvelopeDecryptionRequest :=
  accept "EnvelopeDecryptionRequest" request.normalized.errors request.normalized

end EnvelopeDecryptionRequest

structure EnvelopeDecryptionResult where
  plaintext     : Bytes
  plaintextHash : String
  manifestHash  : String
  verified      : Bool := true
  kmsEvidence   : KmsOperationEvidence
  deriving DecidableEq, Repr

@[ext] structure EnvelopeRewrapRequest where
  tenantId         : String
  objectId         : String
  sourceVersionId  : String
  dataClass        : DataClass
  ciphertext       : Bytes
  manifest         : EnvelopeEncryptionManifest
  aad              : Dict String String
  currentKmsKeyRef : String
  newKmsKeyRef     : String
  requestedBy      : String
  approvedBy       : String
  auditChainRef    : String
  occurredAtUtc    : String
  reason           : String

namespace EnvelopeRewrapRequest

def normalized (request : EnvelopeRewrapRequest) : EnvelopeRewrapRequest :=
  { request with
    tenantId := Text.strip request.tenantId
    objectId := Text.strip request.objectId
    sourceVersionId := Text.strip request.sourceVersionId
    currentKmsKeyRef := Text.strip request.currentKmsKeyRef
    newKmsKeyRef := Text.strip request.newKmsKeyRef
    requestedBy := Text.strip request.requestedBy
    approvedBy := Text.strip request.approvedBy
    occurredAtUtc := Text.strip request.occurredAtUtc
    reason := Text.strip request.reason }

def errors (request : EnvelopeRewrapRequest) : List FieldError :=
  requireNonEmpty "tenant_id" request.tenantId ++
    requireNonEmpty "object_id" request.objectId ++
    requireNonEmpty "source_version_id" request.sourceVersionId ++
    requireCiphertext request.ciphertext ++
    requireNonEmpty "current_kms_key_ref" request.currentKmsKeyRef ++
    requireNonEmpty "new_kms_key_ref" request.newKmsKeyRef ++
    requireNonEmpty "requested_by" request.requestedBy ++
    requireNonEmpty "approved_by" request.approvedBy ++
    requireUtcTimestamp "occurred_at_utc" request.occurredAtUtc ++
    requireNonEmpty "reason" request.reason

def validate (request : EnvelopeRewrapRequest) : Except Exn EnvelopeRewrapRequest :=
  accept "EnvelopeRewrapRequest" request.normalized.errors request.normalized

end EnvelopeRewrapRequest

structure EnvelopeRewrapResult where
  manifest             : EnvelopeEncryptionManifest
  previousManifestHash : String
  previousKmsKeyRef    : String
  newKmsKeyRef         : String
  kmsRotationEvidence  : KmsOperationEvidence
  verified             : Bool := true
  deriving DecidableEq, Repr

/-! ## Byte operations -/

/-- The bytes of an ASCII literal or any other text. -/
def encodeText (text : String) : Bytes := Text.encodeUtf8 text

/-- `base64.b64encode(...).decode("ascii")`. -/
def b64encode (bytes : Bytes) : String := String.ofList (Base64.encode bytes)

/-- `base64.b64decode` of a text. -/
def b64decode (text : String) : Except Exn Bytes := do
  require (text.toList.all (·.toNat < 128)) (.valueError
    (.message "string argument should contain only ASCII characters"))
  match Base64.decode text.toList with
  | some bytes => return bytes
  | none => .error .binasciiError

/-- `_xor_bytes`. -/
def xorBytes (left right : Bytes) : Except Exn Bytes := do
  require (left.length = right.length)
    (.envelopeEncryptionError "xor inputs must have the same length")
  return StreamCipher.xor left right

variable (H : HashFunctions)

/-- `canonical_envelope_aad_bytes`. -/
def canonicalEnvelopeAadBytes (tenantId objectId sourceVersionId : String)
    (dataClass : DataClass) (aad : Dict String String) : Bytes :=
  jsonBytes (.obj [
    ("aad", .obj (aad.items.map fun item => (item.1, .str item.2))),
    ("data_class", .str dataClass.value),
    ("object_id", .str objectId),
    ("source_version_id", .str sourceVersionId),
    ("tenant_id", .str tenantId)])

/-- `_keystream`: one HMAC block for each counter value. -/
def keystream (dataKey nonce aadBytes : Bytes) (size : Nat) : Bytes :=
  StreamCipher.keystream (fun counter =>
    H.hmacSha256 dataKey
      (encodeText "enc" ++ nonce ++ H.sha256 aadBytes ++ StreamCipher.bigEndian 8 counter)) size

/-- `_auth_tag`. -/
def authTag (dataKey nonce aadBytes ciphertextBody : Bytes) : Bytes :=
  H.hmacSha256 dataKey (encodeText "tag" ++ nonce ++ aadBytes ++ ciphertextBody)

/-- `_wrap_stream`: keyed by the provider secret and the text of the key reference. -/
def wrapStream (providerSecret : Bytes) (kmsKeyRef : String) (size : Nat) : Bytes :=
  let wrappingKey := H.hmacSha256 providerSecret (encodeText ("wrap:" ++ kmsKeyRef))
  StreamCipher.keystream (fun counter =>
    H.hmacSha256 wrappingKey (StreamCipher.bigEndian 8 counter)) size

def wrapDataKey (providerSecret dataKey : Bytes) (kmsKeyRef : String) : Except Exn Bytes :=
  xorBytes dataKey (wrapStream H providerSecret kmsKeyRef dataKey.length)

def unwrapDataKey (providerSecret wrappedDataKey : Bytes) (kmsKeyRef : String) :
    Except Exn Bytes :=
  xorBytes wrappedDataKey (wrapStream H providerSecret kmsKeyRef wrappedDataKey.length)

/-- `_generate_bytes`, on what the generator returned. -/
def generateBytes (value : Bytes) (size : Nat) (label : String) : Except Exn Bytes := do
  require (value.length = size) (.envelopeEncryptionError
    (label ++ " generator returned " ++ toString value.length ++ " bytes, expected " ++
      toString size))
  return value

/-! ## Checks against the manifest -/

def buildEnvelopeEncryptionManifestHash (manifest : EnvelopeEncryptionManifest) : String :=
  hashJson H manifest.payload

/-- `_require_manifest_hash_match`. -/
def requireManifestHashMatch (manifest : EnvelopeEncryptionManifest) : Except Exn Unit :=
  require (manifest.manifestHash = buildEnvelopeEncryptionManifestHash H manifest)
    (.envelopeEncryptionError "envelope manifest_hash does not match manifest payload")

/-- `_require_wrapped_data_key_hash_match`. -/
def requireWrappedDataKeyHashMatch (manifest : EnvelopeEncryptionManifest) : Except Exn Unit := do
  let wrappedDataKey ← b64decode manifest.wrappedDataKeyB64
  require (computeContentHash H wrappedDataKey = manifest.wrappedDataKeyHash)
    (.envelopeEncryptionError "wrapped data key hash does not match envelope manifest")

/-- The fields, sorted by name, whose two values differ. -/
def mismatches (fields : List (String × Bool)) : List String :=
  (fields.filter fun field => !field.2).map Prod.fst

theorem mismatches_eq_nil {fields : List (String × Bool)} :
    mismatches fields = [] ↔ ∀ field ∈ fields, field.2 = true := by
  simp [mismatches, List.filter_eq_nil_iff]

/-- `_require_request_matches_manifest`. -/
def requireRequestMatchesManifest (request : EnvelopeDecryptionRequest) : Except Exn Unit :=
  let manifest := request.manifest
  let fields := mismatches [
    ("ciphertext_byte_length",
      decide (request.ciphertext.length = manifest.ciphertextByteLength)),
    ("data_class", decide (request.dataClass = manifest.dataClass)),
    ("kms_key_ref", decide (request.kmsKeyRef = manifest.kmsKeyRef)),
    ("object_id", decide (request.objectId = manifest.objectId)),
    ("source_version_id", decide (request.sourceVersionId = manifest.sourceVersionId)),
    ("tenant_id", decide (request.tenantId = manifest.tenantId))]
  require (fields = []) (.envelopeEncryptionError
    ("decrypt request does not match envelope manifest: " ++ ", ".intercalate fields))

/-- `_require_rewrap_request_matches_manifest`. -/
def requireRewrapRequestMatchesManifest (request : EnvelopeRewrapRequest) : Except Exn Unit :=
  let manifest := request.manifest
  let fields := mismatches [
    ("ciphertext_byte_length",
      decide (request.ciphertext.length = manifest.ciphertextByteLength)),
    ("current_kms_key_ref", decide (request.currentKmsKeyRef = manifest.kmsKeyRef)),
    ("data_class", decide (request.dataClass = manifest.dataClass)),
    ("object_id", decide (request.objectId = manifest.objectId)),
    ("source_version_id", decide (request.sourceVersionId = manifest.sourceVersionId)),
    ("tenant_id", decide (request.tenantId = manifest.tenantId))]
  require (fields = []) (.envelopeEncryptionError
    ("rewrap request does not match envelope manifest: " ++ ", ".intercalate fields))

/-! ## The service -/

/-- The provider secret of a service; its KMS adapter is an argument, since it is shared. -/
structure LocalEnvelopeEncryptionService where
  providerSecret : Bytes
  deriving DecidableEq, Repr

namespace LocalEnvelopeEncryptionService

/-- The ciphertext body, its tag, and the two together. -/
def sealPlaintext (dataKey nonce aadBytes plaintext : Bytes) : Except Exn Bytes := do
  let encryptedBody ← xorBytes plaintext (keystream H dataKey nonce aadBytes plaintext.length)
  return encryptedBody ++ authTag H dataKey nonce aadBytes encryptedBody

/-- The data key is wrapped under `kms_key_ref` as the request has it; the
manifest's constructor stores that reference stripped. -/
def encrypt (service : LocalEnvelopeEncryptionService) (kms : LocalKmsAdapter)
    (generatedDataKey generatedNonce : Bytes) (request : EnvelopeEncryptionRequest) :
    Except Exn EnvelopeEncryptedPayload := do
  let kmsRequest ← KmsKeyReferenceRequest.validate {
    tenantId := request.tenantId
    dataClass := request.dataClass
    kmsKeyRef := request.kmsKeyRef
    requestedBy := request.requestedBy
    auditChainRef := request.auditChainRef
    occurredAtUtc := request.occurredAtUtc
    keyUse := .envelopeEncryptionPrep
    objectId := some request.objectId
    sourceVersionId := some request.sourceVersionId }
  let kmsEvidence ← kms.validateKeyReference H kmsRequest
  let dataKey ← generateBytes generatedDataKey dataKeyBytes "data key"
  let nonce ← generateBytes generatedNonce nonceBytes "nonce"
  let aadBytes := canonicalEnvelopeAadBytes request.tenantId request.objectId
    request.sourceVersionId request.dataClass request.aad
  let ciphertext ← sealPlaintext H dataKey nonce aadBytes request.plaintext
  let wrappedDataKey ← wrapDataKey H service.providerSecret dataKey request.kmsKeyRef
  let draft ← EnvelopeEncryptionManifest.validate {
    tenantId := request.tenantId
    objectId := request.objectId
    sourceVersionId := request.sourceVersionId
    dataClass := request.dataClass
    kmsKeyRef := request.kmsKeyRef
    algorithm := .localDevHmacSha256StreamV1
    nonceB64 := b64encode nonce
    aadHash := computeContentHash H aadBytes
    plaintextHash := computeContentHash H request.plaintext
    ciphertextHash := computeContentHash H ciphertext
    ciphertextByteLength := ciphertext.length
    wrappedDataKeyB64 := b64encode wrappedDataKey
    wrappedDataKeyHash := computeContentHash H wrappedDataKey
    kmsEvidenceHash := kmsEvidence.evidenceHash
    encryptedAtUtc := request.occurredAtUtc
    requestedBy := request.requestedBy
    auditChainRef := request.auditChainRef }
  let manifest := { draft with manifestHash := buildEnvelopeEncryptionManifestHash H draft }
  return ⟨ciphertext, manifest, kmsEvidence⟩

/-- The hash checks that `decrypt` and `rewrap` share, before the KMS is asked. -/
def requireHashesMatch (manifest : EnvelopeEncryptionManifest) (aadBytes ciphertext : Bytes) :
    Except Exn Unit := do
  require (computeContentHash H aadBytes = manifest.aadHash)
    (.envelopeEncryptionError "AAD hash does not match envelope manifest")
  require (computeContentHash H ciphertext = manifest.ciphertextHash)
    (.envelopeEncryptionError "ciphertext hash does not match envelope manifest")
  requireWrappedDataKeyHashMatch H manifest

/-- `_unwrap_authenticated_data_key`; `decrypt` repeats the same statements. -/
def unwrapAuthenticatedDataKey (service : LocalEnvelopeEncryptionService) (ciphertext : Bytes)
    (manifest : EnvelopeEncryptionManifest) (aadBytes : Bytes) (kmsKeyRef : String) :
    Except Exn Bytes := do
  let wrappedDataKey ← b64decode manifest.wrappedDataKeyB64
  let dataKey ← unwrapDataKey H service.providerSecret wrappedDataKey kmsKeyRef
  let ciphertextBody := ciphertext.take (ciphertext.length - authTagBytes)
  let suppliedTag := ciphertext.drop (ciphertext.length - authTagBytes)
  let nonce ← b64decode manifest.nonceB64
  require (suppliedTag = authTag H dataKey nonce aadBytes ciphertextBody)
    (.envelopeEncryptionError "ciphertext authentication failed")
  return dataKey

/-- The last part of `decrypt`: the text behind an authenticated ciphertext. -/
def openBody (dataKey : Bytes) (manifest : EnvelopeEncryptionManifest)
    (aadBytes ciphertext : Bytes) : Except Exn Bytes := do
  let ciphertextBody := ciphertext.take (ciphertext.length - authTagBytes)
  let nonce ← b64decode manifest.nonceB64
  let plaintext ← xorBytes ciphertextBody
    (keystream H dataKey nonce aadBytes ciphertextBody.length)
  require (computeContentHash H plaintext = manifest.plaintextHash)
    (.envelopeEncryptionError "plaintext hash does not match envelope manifest")
  return plaintext

def decrypt (service : LocalEnvelopeEncryptionService) (kms : LocalKmsAdapter)
    (request : EnvelopeDecryptionRequest) : Except Exn EnvelopeDecryptionResult := do
  requireManifestHashMatch H request.manifest
  requireRequestMatchesManifest request
  let aadBytes := canonicalEnvelopeAadBytes request.tenantId request.objectId
    request.sourceVersionId request.dataClass request.aad
  requireHashesMatch H request.manifest aadBytes request.ciphertext
  let kmsRequest ← KmsKeyReferenceRequest.validate {
    tenantId := request.tenantId
    dataClass := request.dataClass
    kmsKeyRef := request.kmsKeyRef
    requestedBy := request.requestedBy
    auditChainRef := request.auditChainRef
    occurredAtUtc := request.occurredAtUtc
    keyUse := .envelopeDecryption
    objectId := some request.objectId
    sourceVersionId := some request.sourceVersionId }
  let kmsEvidence ← kms.validateKeyReference H kmsRequest
  let dataKey ← service.unwrapAuthenticatedDataKey H request.ciphertext request.manifest aadBytes
    request.kmsKeyRef
  let plaintext ← openBody H dataKey request.manifest aadBytes request.ciphertext
  return {
    plaintext
    plaintextHash := computeContentHash H plaintext
    manifestHash := request.manifest.manifestHash
    kmsEvidence }

/-- The manifest of a rewrap: `model_copy(update=...)`, which validates nothing. -/
def rewrappedManifest (request : EnvelopeRewrapRequest) (rotation : KmsRotationResult)
    (wrappedDataKey : Bytes) : EnvelopeEncryptionManifest :=
  let draft := { request.manifest with
    kmsKeyRef := rotation.newKmsKeyRef
    wrappedDataKeyB64 := b64encode wrappedDataKey
    wrappedDataKeyHash := computeContentHash H wrappedDataKey
    kmsEvidenceHash := rotation.evidence.evidenceHash
    previousManifestHash := some request.manifest.manifestHash
    previousKmsKeyRef := some rotation.previousKmsKeyRef
    rotationEvidenceHash := some rotation.evidence.evidenceHash
    rotatedAtUtc := some request.occurredAtUtc
    rotationReason := some request.reason
    requestedBy := request.requestedBy
    auditChainRef := request.auditChainRef
    manifestHash := zeroHash }
  { draft with manifestHash := buildEnvelopeEncryptionManifestHash H draft }

def rewrap (service : LocalEnvelopeEncryptionService) (kms : LocalKmsAdapter)
    (request : EnvelopeRewrapRequest) : Except Exn EnvelopeRewrapResult := do
  requireManifestHashMatch H request.manifest
  requireRewrapRequestMatchesManifest request
  let aadBytes := canonicalEnvelopeAadBytes request.tenantId request.objectId
    request.sourceVersionId request.dataClass request.aad
  requireHashesMatch H request.manifest aadBytes request.ciphertext
  let kmsRequest ← KmsKeyReferenceRequest.validate {
    tenantId := request.tenantId
    dataClass := request.dataClass
    kmsKeyRef := request.currentKmsKeyRef
    requestedBy := request.requestedBy
    auditChainRef := request.auditChainRef
    occurredAtUtc := request.occurredAtUtc
    keyUse := .envelopeDecryption
    objectId := some request.objectId
    sourceVersionId := some request.sourceVersionId }
  let _ ← kms.validateKeyReference H kmsRequest
  let dataKey ← service.unwrapAuthenticatedDataKey H request.ciphertext request.manifest aadBytes
    request.currentKmsKeyRef
  let command ← KmsRotateKeyCommand.validate {
    tenantId := request.tenantId
    dataClass := request.dataClass
    currentKmsKeyRef := request.currentKmsKeyRef
    requestedBy := request.requestedBy
    approvedBy := request.approvedBy
    auditChainRef := request.auditChainRef
    occurredAtUtc := request.occurredAtUtc
    reason := request.reason }
  let rotation ← kms.rotateKeyReference H command
  require (rotation.newKmsKeyRef = request.newKmsKeyRef)
    (.envelopeEncryptionError "rotation result does not match requested new_kms_key_ref")
  let wrappedDataKey ← wrapDataKey H service.providerSecret dataKey rotation.newKmsKeyRef
  return {
    manifest := rewrappedManifest H request rotation wrappedDataKey
    previousManifestHash := request.manifest.manifestHash
    previousKmsKeyRef := rotation.previousKmsKeyRef
    newKmsKeyRef := rotation.newKmsKeyRef
    kmsRotationEvidence := rotation.evidence }

end LocalEnvelopeEncryptionService

end Collabio
