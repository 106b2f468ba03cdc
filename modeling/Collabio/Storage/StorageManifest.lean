import Mathlib.Tactic
import Collabio.Storage.Retention

/-!
# Storage object manifests

The manifest of one stored version: what the source record says, what its
retention manifest says, where the bytes lie, and a hash over all of it. The
builder and the restore verification enumerate these fields separately.
-/

namespace Collabio

/-! ## Bucket profiles -/

structure BucketProfile where
  bucketId               : String
  purpose                : String
  sourceObjectTypes      : List String
  lifecycleStates        : List String
  versioningRequired     : Bool := true
  objectLockMode         : ObjectLockMode := .none
  legalHoldSupported     : Bool := false
  defaultRetentionDays   : Nat
  encryptionRequired     : Bool := true
  kmsKeyRefsRequired     : Bool := true
  restoreIntegrityChecks : List String
  deriving DecidableEq, Repr

namespace BucketProfile

def objectLockRequired (profile : BucketProfile) : Bool := profile.objectLockMode != .none

/-- The checks that an object-lock bucket must list, sorted. -/
def requiredRestoreChecks : List String :=
  ["content_hash_check", "retention_policy_check", "source_object_manifest_hash_check"]

/-- The bucket id is asked to be more than whitespace; it is not stripped. -/
def validate (profile : BucketProfile) : Except Exn BucketProfile := do
  let model := "BucketProfile"
  let profile ← accept model
    (KmsAdapterPolicy.requireLength "source_object_types" 1 profile.sourceObjectTypes ++
      KmsAdapterPolicy.requireLength "lifecycle_states" 1 profile.lifecycleStates ++
      KmsAdapterPolicy.requireLength "restore_integrity_checks" 1 profile.restoreIntegrityChecks)
    profile
  requireModel model (Text.strip profile.bucketId ≠ "") "bucket_id must not be empty"
  requireModel model (Text.strip profile.purpose ≠ "") "purpose must not be empty"
  requireModel model profile.versioningRequired "S3-compatible object buckets must require versioning"
  requireModel model profile.encryptionRequired "object buckets must require encryption"
  requireModel model profile.kmsKeyRefsRequired "object buckets must require KMS key references"
  if profile.objectLockRequired then
    requireModel model (1 ≤ profile.defaultRetentionDays)
      "object-lock buckets require a positive default retention"
    requireModel model profile.legalHoldSupported "object-lock buckets must support legal hold"
    let missing := requiredRestoreChecks.filter (· ∉ profile.restoreIntegrityChecks)
    requireModel model (missing = [])
      ("object-lock buckets are missing restore checks: " ++ ", ".intercalate missing)
  return profile

end BucketProfile

/-! ## Manifests -/

@[ext] structure StorageObjectManifest where
  schemaVersion               : String := "storage_object_manifest.v1"
  tenantId                    : String
  objectId                    : String
  objectType                  : SourceObjectType
  sourceVersionId             : String
  bucketId                    : String
  objectKey                   : String
  objectVersionId             : String
  storageProvider             : String := "s3-compatible"
  storedAtUtc                 : String
  classification              : DataClass
  lifecycleState              : SourceLifecycleState
  retentionPolicyId           : String
  legalHoldState              : LegalHoldState
  kmsKeyRef                   : String
  sourceManifestHash          : String
  contentHash                 : String
  contentByteLength           : Nat
  retentionManifestHash       : String
  retentionPolicySnapshotHash : String
  objectLockMode              : ObjectLockMode
  objectLockRetainUntilUtc    : Option String := none
  objectLockLegalHold         : Bool := false
  wormRequired                : Bool
  auditChainRef               : String
  manifestHash                : String
  deriving DecidableEq, Repr

/-- A timestamp validator that names its field. -/
def requireNamedUtcTimestamp (field value : String) : List FieldError :=
  if value = "" then [⟨field, .message (field ++ " must not be empty")⟩]
  else requireParsedUtc field "timestamp must be UTC" value

namespace StorageObjectManifest

def normalized (manifest : StorageObjectManifest) : StorageObjectManifest :=
  { manifest with
    schemaVersion := Text.strip manifest.schemaVersion
    tenantId := Text.strip manifest.tenantId
    objectId := Text.strip manifest.objectId
    sourceVersionId := Text.strip manifest.sourceVersionId
    bucketId := Text.strip manifest.bucketId
    objectKey := Text.strip manifest.objectKey
    objectVersionId := Text.strip manifest.objectVersionId
    storageProvider := Text.strip manifest.storageProvider
    storedAtUtc := Text.strip manifest.storedAtUtc
    retentionPolicyId := Text.strip manifest.retentionPolicyId
    kmsKeyRef := Text.strip manifest.kmsKeyRef
    sourceManifestHash := Text.strip manifest.sourceManifestHash
    contentHash := Text.strip manifest.contentHash
    retentionManifestHash := Text.strip manifest.retentionManifestHash
    retentionPolicySnapshotHash := Text.strip manifest.retentionPolicySnapshotHash
    objectLockRetainUntilUtc := manifest.objectLockRetainUntilUtc.map Text.strip
    auditChainRef := Text.strip manifest.auditChainRef
    manifestHash := Text.strip manifest.manifestHash }

def errors (manifest : StorageObjectManifest) : List FieldError :=
  requireNonEmpty "schema_version" manifest.schemaVersion ++
    requireNonEmpty "tenant_id" manifest.tenantId ++
    requireNonEmpty "object_id" manifest.objectId ++
    requireNonEmpty "source_version_id" manifest.sourceVersionId ++
    requireNonEmpty "bucket_id" manifest.bucketId ++
    requireNonEmpty "object_key" manifest.objectKey ++
    requireNonEmpty "object_version_id" manifest.objectVersionId ++
    requireNonEmpty "storage_provider" manifest.storageProvider ++
    requireNamedUtcTimestamp "stored_at_utc" manifest.storedAtUtc ++
    requireNonEmpty "retention_policy_id" manifest.retentionPolicyId ++
    requireNamespacedRef "kms_key_ref" manifest.kmsKeyRef ++
    requireNamespacedRef "source_manifest_hash" manifest.sourceManifestHash ++
    requireNamespacedRef "content_hash" manifest.contentHash ++
    requireNamespacedRef "retention_manifest_hash" manifest.retentionManifestHash ++
    requireNamespacedRef "retention_policy_snapshot_hash" manifest.retentionPolicySnapshotHash ++
    requireOptional (requireNamedUtcTimestamp "object_lock_retain_until_utc")
      manifest.objectLockRetainUntilUtc ++
    requireNamespacedRef "audit_chain_ref" manifest.auditChainRef ++
    requireNamespacedRef "manifest_hash" manifest.manifestHash

/-- `require_consistent_object_lock`. -/
def requireConsistentObjectLock (manifest : StorageObjectManifest) : Except Exn Unit := do
  let model := "StorageObjectManifest"
  requireModel model (¬ (manifest.wormRequired ∧ manifest.objectLockMode = .none))
    "WORM storage manifests require object lock"
  requireModel model
    (¬ (manifest.objectLockRetainUntilUtc ≠ none ∧ manifest.objectLockMode = .none))
    "object_lock_retain_until_utc requires object lock"
  requireModel model (¬ (manifest.objectLockLegalHold ∧ manifest.objectLockMode = .none))
    "object_lock_legal_hold requires object lock"
  requireModel model
    (¬ (manifest.objectLockMode ≠ .none ∧
      ¬ (manifest.objectLockRetainUntilUtc.getD "" ≠ "" ∨ manifest.objectLockLegalHold)))
    "object-lock manifests require retain-until or legal-hold evidence"

def validate (manifest : StorageObjectManifest) : Except Exn StorageObjectManifest := do
  let manifest ← accept "StorageObjectManifest" manifest.normalized.errors manifest.normalized
  manifest.requireConsistentObjectLock
  return manifest

/-- The fields of `storage_object_manifest_payload`: all but the hash. -/
def payloadMembers (manifest : StorageObjectManifest) : List (String × Json) :=
  [("schema_version", .str manifest.schemaVersion),
    ("tenant_id", .str manifest.tenantId),
    ("object_id", .str manifest.objectId),
    ("object_type", .str manifest.objectType.value),
    ("source_version_id", .str manifest.sourceVersionId),
    ("bucket_id", .str manifest.bucketId),
    ("object_key", .str manifest.objectKey),
    ("object_version_id", .str manifest.objectVersionId),
    ("storage_provider", .str manifest.storageProvider),
    ("stored_at_utc", .str manifest.storedAtUtc),
    ("classification", .str manifest.classification.value),
    ("lifecycle_state", .str manifest.lifecycleState.value),
    ("retention_policy_id", .str manifest.retentionPolicyId),
    ("legal_hold_state", .str manifest.legalHoldState.value),
    ("kms_key_ref", .str manifest.kmsKeyRef),
    ("source_manifest_hash", .str manifest.sourceManifestHash),
    ("content_hash", .str manifest.contentHash),
    ("content_byte_length", .int manifest.contentByteLength),
    ("retention_manifest_hash", .str manifest.retentionManifestHash),
    ("retention_policy_snapshot_hash", .str manifest.retentionPolicySnapshotHash),
    ("object_lock_mode", .str manifest.objectLockMode.value),
    ("object_lock_retain_until_utc", optionalText manifest.objectLockRetainUntilUtc),
    ("object_lock_legal_hold", .bool manifest.objectLockLegalHold),
    ("worm_required", .bool manifest.wormRequired),
    ("audit_chain_ref", .str manifest.auditChainRef)]

/-- `storage_object_manifest_payload`. -/
def payload (manifest : StorageObjectManifest) : Json := .obj manifest.payloadMembers

end StorageObjectManifest

variable (H : HashFunctions)

def buildStorageObjectManifestHash (manifest : StorageObjectManifest) : String :=
  hashJson H manifest.payload

/-- `model_copy(update=...)`: the hash is set without another validation. -/
def StorageObjectManifest.withManifestHash (manifest : StorageObjectManifest) :
    StorageObjectManifest :=
  { manifest with manifestHash := buildStorageObjectManifestHash H manifest }

/-! ## Building -/

def buildStorageObjectKey (record : SourceObjectRecord) : String :=
  record.metadata.tenantId ++ "/" ++ record.metadata.objectType.value ++ "/" ++
    record.metadata.objectId ++ "/" ++ record.metadata.versionId ++ "/content"

/-- `_require_source_matches_retention`. -/
def requireSourceMatchesRetention (record : SourceObjectRecord) (manifest : RetentionManifest) :
    Except Exn Unit := do
  let metadata := record.metadata
  requireAgreement .storageManifestError "retention manifest does not match source object: " [
    ("tenant_id", decide (manifest.tenantId = metadata.tenantId)),
    ("object_id", decide (manifest.objectId = metadata.objectId)),
    ("object_type", decide (manifest.objectType = metadata.objectType)),
    ("version_id", decide (manifest.versionId = metadata.versionId)),
    ("classification", decide (manifest.classification = metadata.classification)),
    ("lifecycle_state", decide (manifest.lifecycleState = metadata.lifecycleState)),
    ("retention_policy_id", decide (manifest.retentionPolicyId = metadata.retentionPolicyId)),
    ("legal_hold_state", decide (manifest.legalHoldState = metadata.legalHoldState))]
  require (manifest.sourceManifestHash = metadata.manifestHash) (.storageManifestError
    "retention manifest source_manifest_hash does not match source object")

/-- `_require_kms_reference_matches_source`: other exceptions of `parse` pass through. -/
def requireKmsReferenceMatchesSource (record : SourceObjectRecord) : Except Exn Unit :=
  match KmsKeyReference.parse record.metadata.kmsKeyRef with
  | .error (.kmsKeyReferenceError text) =>
    .error (.storageManifestError ("kms_key_ref invalid: " ++ text))
  | .error exn => .error exn
  | .ok keyRef => do
    require (keyRef.tenantId = record.metadata.tenantId)
      (.storageManifestError "kms_key_ref tenant_id does not match source object")
    require (keyRef.dataClass = record.metadata.classification)
      (.storageManifestError "kms_key_ref data_class does not match source object")

/-- `_require_bucket_matches_retention`. -/
def requireBucketMatchesRetention (profile : BucketProfile) (manifest : RetentionManifest) :
    Except Exn Unit := do
  require (profile.bucketId = manifest.storageBucketId)
    (.storageManifestError "bucket profile does not match retention manifest storage_bucket_id")
  require (manifest.objectType.value ∈ profile.sourceObjectTypes)
    (.storageManifestError "bucket profile does not allow source object type")
  require (manifest.lifecycleState.value ∈ profile.lifecycleStates)
    (.storageManifestError "bucket profile does not allow lifecycle state")
  require (profile.objectLockMode = manifest.objectLockMode)
    (.storageManifestError "bucket profile object lock mode does not match retention manifest")
  require (¬ (manifest.wormRequired ∧ ¬ profile.objectLockRequired))
    (.storageManifestError "WORM retention requires object-lock bucket profile")
  require (¬ (manifest.legalHoldState = .active ∧ manifest.objectLockMode ≠ .none ∧
      ¬ profile.legalHoldSupported))
    (.storageManifestError "active legal hold requires bucket legal-hold support")

/-- `verify_content_hash`, with its error reworded as `exn`. -/
def requireContentVerified (exn : String → Exn) (content : Bytes)
    (expectedHash verificationContext : String) : Except Exn ContentHashVerificationResult :=
  match verifyContentHash H content expectedHash verificationContext with
  | .error (.contentHashVerificationError text) =>
    .error (exn ("content_hash verification failed: " ++ text))
  | .error other => .error other
  | .ok result => .ok result

/-- The manifest the builder asks the model to accept. -/
def draftStorageObjectManifest (record : SourceObjectRecord)
    (retentionManifest : RetentionManifest) (profile : BucketProfile)
    (objectVersionId storedAtUtc : String) (objectKey : Option String)
    (storageProvider : String) : StorageObjectManifest :=
  let metadata := record.metadata
  { tenantId := metadata.tenantId
    objectId := metadata.objectId
    objectType := metadata.objectType
    sourceVersionId := metadata.versionId
    bucketId := profile.bucketId
    objectKey := if objectKey.getD "" = "" then buildStorageObjectKey record else objectKey.getD ""
    objectVersionId := objectVersionId
    storageProvider := storageProvider
    storedAtUtc := storedAtUtc
    classification := metadata.classification
    lifecycleState := metadata.lifecycleState
    retentionPolicyId := metadata.retentionPolicyId
    legalHoldState := metadata.legalHoldState
    kmsKeyRef := metadata.kmsKeyRef
    sourceManifestHash := metadata.manifestHash
    contentHash := metadata.contentHash
    contentByteLength := metadata.contentByteLength
    retentionManifestHash := buildRetentionManifestHash H retentionManifest
    retentionPolicySnapshotHash := retentionManifest.policySnapshotHash
    objectLockMode := retentionManifest.objectLockMode
    objectLockRetainUntilUtc :=
      if retentionManifest.objectLockMode ≠ .none then retentionManifest.retainUntilUtc else none
    objectLockLegalHold :=
      decide (retentionManifest.legalHoldState = .active) && profile.legalHoldSupported
    wormRequired := retentionManifest.wormRequired
    auditChainRef := metadata.auditChainRef
    manifestHash := zeroHash }

def buildStorageObjectManifest (record : SourceObjectRecord)
    (retentionManifest : RetentionManifest) (profile : BucketProfile)
    (objectVersionId storedAtUtc : String) (objectKey : Option String := none)
    (storageProvider : String := "s3-compatible") : Except Exn StorageObjectManifest := do
  requireSourceMatchesRetention record retentionManifest
  requireKmsReferenceMatchesSource record
  requireBucketMatchesRetention profile retentionManifest
  let _ ← requireContentVerified H .storageManifestError (sourceObjectContentBytes record)
    record.metadata.contentHash "storage_manifest_build"
  let draft ← (draftStorageObjectManifest H record retentionManifest profile objectVersionId
    storedAtUtc objectKey storageProvider).validate
  return draft.withManifestHash H

/-! ## Restore verification -/

structure StorageRestoreVerificationResult where
  verified                : Bool := true
  manifestHash            : String
  sourceManifestHash      : String
  retentionManifestHash   : String
  contentHash             : String
  bucketId                : String
  objectKey               : String
  objectVersionId         : String
  checks                  : List String
  contentHashVerification : ContentHashVerificationResult
  deriving DecidableEq, Repr

/-- `_require_manifest_hash_match`. -/
def requireStorageManifestHashMatch (manifest : StorageObjectManifest) : Except Exn Unit :=
  require (manifest.manifestHash = buildStorageObjectManifestHash H manifest)
    (.storageRestoreVerificationError
      "storage object manifest_hash does not match manifest payload")

/-- `_require_manifest_matches_source`. -/
def requireManifestMatchesSource (manifest : StorageObjectManifest) (record : SourceObjectRecord) :
    Except Exn Unit := do
  let metadata := record.metadata
  require (metadata.manifestHash = buildSourceObjectManifestHash H metadata)
    (.storageRestoreVerificationError
      "source object manifest_hash does not match source metadata")
  requireAgreement .storageRestoreVerificationError
    "storage manifest does not match source object: " [
    ("tenant_id", decide (manifest.tenantId = metadata.tenantId)),
    ("object_id", decide (manifest.objectId = metadata.objectId)),
    ("object_type", decide (manifest.objectType = metadata.objectType)),
    ("source_version_id", decide (manifest.sourceVersionId = metadata.versionId)),
    ("classification", decide (manifest.classification = metadata.classification)),
    ("lifecycle_state", decide (manifest.lifecycleState = metadata.lifecycleState)),
    ("retention_policy_id", decide (manifest.retentionPolicyId = metadata.retentionPolicyId)),
    ("legal_hold_state", decide (manifest.legalHoldState = metadata.legalHoldState)),
    ("kms_key_ref", decide (manifest.kmsKeyRef = metadata.kmsKeyRef)),
    ("source_manifest_hash", decide (manifest.sourceManifestHash = metadata.manifestHash)),
    ("content_hash", decide (manifest.contentHash = metadata.contentHash)),
    ("content_byte_length", decide (manifest.contentByteLength = metadata.contentByteLength)),
    ("audit_chain_ref", decide (manifest.auditChainRef = metadata.auditChainRef))]

/-- `_require_manifest_matches_retention`. -/
def requireManifestMatchesRetention (manifest : StorageObjectManifest)
    (retentionManifest : RetentionManifest) : Except Exn Unit := do
  require (manifest.retentionManifestHash = buildRetentionManifestHash H retentionManifest)
    (.storageRestoreVerificationError "retention_manifest_hash does not match retention manifest")
  requireAgreement .storageRestoreVerificationError
    "storage manifest does not match retention manifest: " [
    ("bucket_id", decide (manifest.bucketId = retentionManifest.storageBucketId)),
    ("retention_policy_snapshot_hash",
      decide (manifest.retentionPolicySnapshotHash = retentionManifest.policySnapshotHash)),
    ("object_lock_mode", decide (manifest.objectLockMode = retentionManifest.objectLockMode)),
    ("object_lock_retain_until_utc", decide (manifest.objectLockRetainUntilUtc =
      if retentionManifest.objectLockMode ≠ .none then retentionManifest.retainUntilUtc
      else none)),
    ("worm_required", decide (manifest.wormRequired = retentionManifest.wormRequired))]
  require (¬ (retentionManifest.legalHoldState = .active ∧ manifest.objectLockMode ≠ .none ∧
      ¬ manifest.objectLockLegalHold))
    (.storageRestoreVerificationError
      "active legal hold requires object-lock legal-hold evidence")

def storageRestoreChecks : List String :=
  ["storage_object_manifest_hash_check", "source_object_manifest_hash_check",
    "retention_manifest_hash_check", "retention_policy_snapshot_hash_check",
    "content_hash_verifier_check", "object_lock_configuration_check", "legal_hold_check"]

def verifyStorageObjectRestore (manifest : StorageObjectManifest) (record : SourceObjectRecord)
    (retentionManifest : RetentionManifest) (restoredContent : Bytes) :
    Except Exn StorageRestoreVerificationResult := do
  requireStorageManifestHashMatch H manifest
  requireManifestMatchesSource H manifest record
  requireManifestMatchesRetention H manifest retentionManifest
  let contentResult ← requireContentVerified H .storageRestoreVerificationError restoredContent
    manifest.contentHash "restore"
  require (manifest.contentByteLength = restoredContent.length)
    (.storageRestoreVerificationError "content_byte_length does not match restored content")
  return {
    manifestHash := manifest.manifestHash
    sourceManifestHash := manifest.sourceManifestHash
    retentionManifestHash := manifest.retentionManifestHash
    contentHash := manifest.contentHash
    bucketId := manifest.bucketId
    objectKey := manifest.objectKey
    objectVersionId := manifest.objectVersionId
    checks := storageRestoreChecks
    contentHashVerification := contentResult }

end Collabio
