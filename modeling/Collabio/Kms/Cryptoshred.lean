import Mathlib.Tactic
import Collabio.Kms.Adapter
import Collabio.Storage.Retention

/-!
# Cryptoshred simulation

Destroying the key reference of a source version stands for destroying its
content. The request names one record and its retention manifest; the checks
look at these two and at nothing else, then the reference is recorded as
destroyed in the KMS adapter.
-/

namespace Collabio

inductive CryptoshredSimulationMode where
  | localDevKeyDestructionEvidence
  deriving DecidableEq, Repr

def CryptoshredSimulationMode.value : CryptoshredSimulationMode → String
  | .localDevKeyDestructionEvidence => "local_dev_key_destruction_evidence"

/-! ## Requests -/

structure CryptoshredSimulationRequest where
  tenantId          : String
  objectId          : String
  sourceVersionId   : String
  record            : SourceObjectRecord
  retentionManifest : RetentionManifest
  requestedBy       : String
  approvedBy        : String
  approvalRef       : String
  auditChainRef     : String
  occurredAtUtc     : String
  reason            : String
  deriving DecidableEq, Repr

namespace CryptoshredSimulationRequest

/-- Record and manifest are instances of their models and are taken as they are. -/
def normalized (request : CryptoshredSimulationRequest) : CryptoshredSimulationRequest :=
  { request with
    tenantId := Text.strip request.tenantId
    objectId := Text.strip request.objectId
    sourceVersionId := Text.strip request.sourceVersionId
    requestedBy := Text.strip request.requestedBy
    approvedBy := Text.strip request.approvedBy
    approvalRef := Text.strip request.approvalRef
    auditChainRef := Text.strip request.auditChainRef
    occurredAtUtc := Text.strip request.occurredAtUtc
    reason := Text.strip request.reason }

def errors (request : CryptoshredSimulationRequest) : List FieldError :=
  requireNonEmpty "tenant_id" request.tenantId ++
    requireNonEmpty "object_id" request.objectId ++
    requireNonEmpty "source_version_id" request.sourceVersionId ++
    requireNonEmpty "requested_by" request.requestedBy ++
    requireNonEmpty "approved_by" request.approvedBy ++
    requireNamespacedRef "approval_ref" request.approvalRef ++
    requireNamespacedRef "audit_chain_ref" request.auditChainRef ++
    requireUtcTimestamp "occurred_at_utc" request.occurredAtUtc ++
    requireNonEmpty "reason" request.reason

def validate (request : CryptoshredSimulationRequest) :
    Except Exn CryptoshredSimulationRequest :=
  accept "CryptoshredSimulationRequest" request.normalized.errors request.normalized

end CryptoshredSimulationRequest

/-! ## Manifests -/

@[ext] structure CryptoshredSimulationManifest where
  schemaVersion               : String := "cryptoshred_simulation_manifest.v1"
  tenantId                    : String
  objectId                    : String
  sourceVersionId             : String
  classification              : DataClass
  retentionPolicyId           : String
  legalHoldState              : LegalHoldState
  sourceLifecycleState        : SourceLifecycleState
  targetLifecycleState        : SourceLifecycleState := .cryptoshredded
  kmsKeyRef                   : String
  sourceManifestHash          : String
  retentionManifestHash       : String
  retentionPolicySnapshotHash : String
  keyDestructionEvidenceHash  : String
  simulationMode              : CryptoshredSimulationMode := .localDevKeyDestructionEvidence
  requiredChecks              : List String
  objectBytesDeleted          : Bool := false
  plaintextKeyExported        : Bool := false
  encryptedContentUnreadable  : Bool := true
  requestedBy                 : String
  approvedBy                  : String
  approvalRef                 : String
  auditChainRef               : String
  occurredAtUtc               : String
  reason                      : String
  manifestHash                : String
  deriving DecidableEq, Repr

namespace CryptoshredSimulationManifest

/-- `cryptoshred_simulation_manifest_payload`. -/
def payload (manifest : CryptoshredSimulationManifest) : Json :=
  .obj [
    ("schema_version", .str manifest.schemaVersion),
    ("tenant_id", .str manifest.tenantId),
    ("object_id", .str manifest.objectId),
    ("source_version_id", .str manifest.sourceVersionId),
    ("classification", .str manifest.classification.value),
    ("retention_policy_id", .str manifest.retentionPolicyId),
    ("legal_hold_state", .str manifest.legalHoldState.value),
    ("source_lifecycle_state", .str manifest.sourceLifecycleState.value),
    ("target_lifecycle_state", .str manifest.targetLifecycleState.value),
    ("kms_key_ref", .str manifest.kmsKeyRef),
    ("source_manifest_hash", .str manifest.sourceManifestHash),
    ("retention_manifest_hash", .str manifest.retentionManifestHash),
    ("retention_policy_snapshot_hash", .str manifest.retentionPolicySnapshotHash),
    ("key_destruction_evidence_hash", .str manifest.keyDestructionEvidenceHash),
    ("simulation_mode", .str manifest.simulationMode.value),
    ("required_checks", .arr (manifest.requiredChecks.map .str)),
    ("object_bytes_deleted", .bool manifest.objectBytesDeleted),
    ("plaintext_key_exported", .bool manifest.plaintextKeyExported),
    ("encrypted_content_unreadable", .bool manifest.encryptedContentUnreadable),
    ("requested_by", .str manifest.requestedBy),
    ("approved_by", .str manifest.approvedBy),
    ("approval_ref", .str manifest.approvalRef),
    ("audit_chain_ref", .str manifest.auditChainRef),
    ("occurred_at_utc", .str manifest.occurredAtUtc),
    ("reason", .str manifest.reason)]

def normalized (manifest : CryptoshredSimulationManifest) : CryptoshredSimulationManifest :=
  { manifest with
    tenantId := Text.strip manifest.tenantId
    objectId := Text.strip manifest.objectId
    sourceVersionId := Text.strip manifest.sourceVersionId
    retentionPolicyId := Text.strip manifest.retentionPolicyId
    kmsKeyRef := Text.strip manifest.kmsKeyRef
    sourceManifestHash := Text.strip manifest.sourceManifestHash
    retentionManifestHash := Text.strip manifest.retentionManifestHash
    retentionPolicySnapshotHash := Text.strip manifest.retentionPolicySnapshotHash
    keyDestructionEvidenceHash := Text.strip manifest.keyDestructionEvidenceHash
    requestedBy := Text.strip manifest.requestedBy
    approvedBy := Text.strip manifest.approvedBy
    approvalRef := Text.strip manifest.approvalRef
    auditChainRef := Text.strip manifest.auditChainRef
    occurredAtUtc := Text.strip manifest.occurredAtUtc
    reason := Text.strip manifest.reason
    manifestHash := Text.strip manifest.manifestHash }

def errors (manifest : CryptoshredSimulationManifest) : List FieldError :=
  requireNonEmpty "tenant_id" manifest.tenantId ++
    requireNonEmpty "object_id" manifest.objectId ++
    requireNonEmpty "source_version_id" manifest.sourceVersionId ++
    requireNonEmpty "retention_policy_id" manifest.retentionPolicyId ++
    requireNamespacedRef "kms_key_ref" manifest.kmsKeyRef ++
    requireNamespacedRef "source_manifest_hash" manifest.sourceManifestHash ++
    requireNamespacedRef "retention_manifest_hash" manifest.retentionManifestHash ++
    requireNamespacedRef "retention_policy_snapshot_hash" manifest.retentionPolicySnapshotHash ++
    requireNamespacedRef "key_destruction_evidence_hash" manifest.keyDestructionEvidenceHash ++
    KmsAdapterPolicy.requireLength "required_checks" 1 manifest.requiredChecks ++
    requireNonEmpty "requested_by" manifest.requestedBy ++
    requireNonEmpty "approved_by" manifest.approvedBy ++
    requireNamespacedRef "approval_ref" manifest.approvalRef ++
    requireNamespacedRef "audit_chain_ref" manifest.auditChainRef ++
    requireUtcTimestamp "occurred_at_utc" manifest.occurredAtUtc ++
    requireNonEmpty "reason" manifest.reason ++
    requireNamespacedRef "manifest_hash" manifest.manifestHash

/-- `require_safe_simulation_claims`. -/
def requireSafeSimulationClaims (manifest : CryptoshredSimulationManifest) :
    Except Exn Unit := do
  let model := "CryptoshredSimulationManifest"
  requireModel model (manifest.targetLifecycleState = .cryptoshredded)
    "cryptoshred target lifecycle must be cryptoshredded"
  requireModel model (¬ manifest.objectBytesDeleted)
    "cryptoshred manifest must not claim object bytes were deleted"
  requireModel model (¬ manifest.plaintextKeyExported)
    "cryptoshred manifest must never expose plaintext key export"
  requireModel model manifest.encryptedContentUnreadable
    "cryptoshred manifest must mark encrypted content unreadable"

def validate (manifest : CryptoshredSimulationManifest) :
    Except Exn CryptoshredSimulationManifest := do
  let manifest ←
    accept "CryptoshredSimulationManifest" manifest.normalized.errors manifest.normalized
  manifest.requireSafeSimulationClaims
  return manifest

end CryptoshredSimulationManifest

structure CryptoshredSimulationResult where
  manifest       : CryptoshredSimulationManifest
  keyDestruction : KmsKeyDestructionResult
  verified       : Bool := true
  deriving DecidableEq, Repr

variable (H : HashFunctions)

def buildCryptoshredSimulationManifestHash (manifest : CryptoshredSimulationManifest) : String :=
  hashJson H manifest.payload

/-! ## Checks -/

namespace CryptoshredSimulationRequest

/-- `_require_request_matches_record`. -/
def requireMatchesRecord (request : CryptoshredSimulationRequest) : Except Exn Unit :=
  let metadata := request.record.metadata
  let comparisons := [
    ("tenant_id", decide (request.tenantId = metadata.tenantId)),
    ("object_id", decide (request.objectId = metadata.objectId)),
    ("source_version_id", decide (request.sourceVersionId = metadata.versionId))]
  require (comparisons.all Prod.snd) (.cryptoshredSimulationError
    ("cryptoshred request does not match source object: " ++ mismatchNames comparisons))

/-- `_require_retention_manifest_matches_record`. -/
def requireRetentionManifestMatchesRecord (request : CryptoshredSimulationRequest) :
    Except Exn Unit :=
  let metadata := request.record.metadata
  let manifest := request.retentionManifest
  let comparisons := [
    ("tenant_id", decide (manifest.tenantId = metadata.tenantId)),
    ("object_id", decide (manifest.objectId = metadata.objectId)),
    ("source_version_id", decide (manifest.versionId = metadata.versionId)),
    ("classification", decide (manifest.classification = metadata.classification)),
    ("retention_policy_id", decide (manifest.retentionPolicyId = metadata.retentionPolicyId)),
    ("legal_hold_state", decide (manifest.legalHoldState = metadata.legalHoldState)),
    ("source_manifest_hash", decide (manifest.sourceManifestHash = metadata.manifestHash))]
  require (comparisons.all Prod.snd) (.cryptoshredSimulationError
    ("retention manifest does not match source object: " ++ mismatchNames comparisons))

/-- `_parse_utc`. -/
def parseTimestamp (value : String) : Except Exn Datetime.DateTime :=
  match parseUtc "timestamp must be UTC" value with
  | .ok t => .ok t
  | .error cause => .error (.valueError cause)

/-- The end of `_require_cryptoshred_allowed`: the retention period must be over. -/
def requireRetentionEnded (request : CryptoshredSimulationRequest) : Except Exn Unit :=
  match request.retentionManifest.retainUntilUtc with
  | none => .error (.cryptoshredSimulationError
      "retention policy does not define a cryptoshred release time")
  | some retainUntilUtc => do
    let occurredAt ← parseTimestamp request.occurredAtUtc
    let retainUntil ← parseTimestamp retainUntilUtc
    require (retainUntil.instant ≤ occurredAt.instant)
      (.cryptoshredSimulationError "retention period has not ended")

/-- `_require_cryptoshred_allowed`. -/
def requireCryptoshredAllowed (request : CryptoshredSimulationRequest) : Except Exn Unit := do
  let metadata := request.record.metadata
  let manifest := request.retentionManifest
  require (¬ (metadata.legalHoldState = .active ∨ manifest.legalHoldState = .active))
    (.cryptoshredSimulationError "active legal hold blocks cryptoshred")
  require (¬ metadata.classification.isRecord)
    (.cryptoshredSimulationError "GoBD and legal-hold data classes block cryptoshred")
  require (¬ metadata.lifecycleState.isRecord)
    (.cryptoshredSimulationError "record lifecycle blocks cryptoshred")
  require (¬ (manifest.deletionBlocked ∨ manifest.wormRequired))
    (.cryptoshredSimulationError "retention manifest blocks cryptoshred")
  if manifest.cryptoshredAllowedBeforeRetentionEnd then return ()
  request.requireRetentionEnded

end CryptoshredSimulationRequest

/-! ## The simulator -/

namespace LocalCryptoshredSimulator

/-- The command `simulate` gives to the KMS adapter. -/
def destroyCommand (request : CryptoshredSimulationRequest) : KmsDestroyKeyCommand where
  tenantId := request.tenantId
  dataClass := request.record.metadata.classification
  kmsKeyRef := request.record.metadata.kmsKeyRef
  retentionPolicyId := request.record.metadata.retentionPolicyId
  legalHoldState := request.record.metadata.legalHoldState.value
  lifecycleState := request.record.metadata.lifecycleState.value
  requestedBy := request.requestedBy
  approvedBy := request.approvedBy
  approvalRef := request.approvalRef
  auditChainRef := request.auditChainRef
  occurredAtUtc := request.occurredAtUtc
  reason := request.reason

def requiredChecks : List String :=
  ["source_manifest_match", "retention_manifest_match", "retention_disposition_allowed",
    "legal_hold_absent", "protected_record_absent", "kms_key_destruction_evidence",
    "no_plaintext_key_export"]

/-- The manifest `simulate` asks its model to accept. -/
def draftManifest (request : CryptoshredSimulationRequest)
    (keyDestruction : KmsKeyDestructionResult) : CryptoshredSimulationManifest where
  tenantId := request.record.metadata.tenantId
  objectId := request.record.metadata.objectId
  sourceVersionId := request.record.metadata.versionId
  classification := request.record.metadata.classification
  retentionPolicyId := request.record.metadata.retentionPolicyId
  legalHoldState := request.record.metadata.legalHoldState
  sourceLifecycleState := request.record.metadata.lifecycleState
  kmsKeyRef := request.record.metadata.kmsKeyRef
  sourceManifestHash := request.record.metadata.manifestHash
  retentionManifestHash := buildRetentionManifestHash H request.retentionManifest
  retentionPolicySnapshotHash := request.retentionManifest.policySnapshotHash
  keyDestructionEvidenceHash := keyDestruction.evidence.evidenceHash
  requiredChecks := requiredChecks
  requestedBy := request.requestedBy
  approvedBy := request.approvedBy
  approvalRef := request.approvalRef
  auditChainRef := request.auditChainRef
  occurredAtUtc := request.occurredAtUtc
  reason := request.reason
  manifestHash := zeroHash

/-- The checks of `simulate` that come before the key is destroyed. -/
def requireShreddable (request : CryptoshredSimulationRequest) :
    Except Exn KmsDestroyKeyCommand := do
  request.requireMatchesRecord
  request.requireRetentionManifestMatchesRecord
  request.requireCryptoshredAllowed
  (destroyCommand request).validate

/-- `simulate`. The key is gone before the manifest is built, whatever becomes of that. -/
@[irreducible] def simulate (request : CryptoshredSimulationRequest) :
    Eff Exn LocalKmsAdapter CryptoshredSimulationResult := do
  let command ← Eff.lift (requireShreddable request)
  let keyDestruction ← LocalKmsAdapter.recordKeyDestruction H command
  let draft ← Eff.lift (draftManifest H request keyDestruction).validate
  let manifest :=
    { draft with manifestHash := buildCryptoshredSimulationManifestHash H draft }
  return { manifest, keyDestruction }

end LocalCryptoshredSimulator

end Collabio
