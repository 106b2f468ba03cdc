import Mathlib.Tactic
import Collabio.Kms.Cryptoshred
import Collabio.Kms.Envelope
import Collabio.Storage.StorageManifest

/-!
# Restore drills

A drill turns a restore into hashed evidence. An encrypted object counts as
restored once record, storage manifest, retention manifest, envelope and
decryption fit together; a shredded object counts as unrecoverable by policy
once its cryptoshred manifest fits the same record and storage manifest.
-/

namespace Collabio

inductive RestoreDrillStatus where
  | restored
  | unrecoverableByPolicy
  deriving DecidableEq, Repr

def RestoreDrillStatus.value : RestoreDrillStatus → String
  | .restored => "restored"
  | .unrecoverableByPolicy => "unrecoverable_by_policy"

/-! ## Commands -/

/-- The fields the two drill commands share. -/
structure RestoreDrillCommandBase where
  tenantId          : String
  objectId          : String
  sourceVersionId   : String
  record            : SourceObjectRecord
  storageManifest   : StorageObjectManifest
  retentionManifest : RetentionManifest
  requestedBy       : String
  auditChainRef     : String
  occurredAtUtc     : String

namespace RestoreDrillCommandBase

/-- Records and manifests are instances of their models and are taken as they are. -/
def normalized (command : RestoreDrillCommandBase) : RestoreDrillCommandBase :=
  { command with
    tenantId := Text.strip command.tenantId
    objectId := Text.strip command.objectId
    sourceVersionId := Text.strip command.sourceVersionId
    requestedBy := Text.strip command.requestedBy
    auditChainRef := Text.strip command.auditChainRef
    occurredAtUtc := Text.strip command.occurredAtUtc }

def idErrors (command : RestoreDrillCommandBase) : List FieldError :=
  requireNonEmpty "tenant_id" command.tenantId ++
    requireNonEmpty "object_id" command.objectId ++
    requireNonEmpty "source_version_id" command.sourceVersionId

def callerErrors (command : RestoreDrillCommandBase) : List FieldError :=
  requireNonEmpty "requested_by" command.requestedBy ++
    requireNamespacedRef "audit_chain_ref" command.auditChainRef ++
    requireUtcTimestamp "occurred_at_utc" command.occurredAtUtc

end RestoreDrillCommandBase

/-- `require_bytes`. -/
def requireRestoreBytes (field : String) (value : Bytes) : List FieldError :=
  if value = [] then [⟨field, .message "restore bytes must not be empty"⟩] else []

structure EncryptedObjectRestoreDrillCommand extends RestoreDrillCommandBase where
  restoredContent    : Bytes
  envelopeCiphertext : Bytes
  envelopeManifest   : EnvelopeEncryptionManifest
  envelopeAad        : Dict String String := ∅

def EncryptedObjectRestoreDrillCommand.validate (command : EncryptedObjectRestoreDrillCommand) :
    Except Exn EncryptedObjectRestoreDrillCommand :=
  let base := command.toRestoreDrillCommandBase.normalized
  accept "EncryptedObjectRestoreDrillCommand"
    (base.idErrors ++ requireRestoreBytes "restored_content" command.restoredContent ++
      requireRestoreBytes "envelope_ciphertext" command.envelopeCiphertext ++ base.callerErrors)
    { command with toRestoreDrillCommandBase := base }

structure CryptoshreddedObjectRestoreDrillCommand extends RestoreDrillCommandBase where
  cryptoshredManifest : CryptoshredSimulationManifest

def CryptoshreddedObjectRestoreDrillCommand.validate
    (command : CryptoshreddedObjectRestoreDrillCommand) :
    Except Exn CryptoshreddedObjectRestoreDrillCommand :=
  let base := command.toRestoreDrillCommandBase.normalized
  accept "CryptoshreddedObjectRestoreDrillCommand" (base.idErrors ++ base.callerErrors)
    { command with toRestoreDrillCommandBase := base }

/-! ## Reports -/

structure RestoreDrillReport where
  schemaVersion               : String := "restore_drill_report.v1"
  status                      : RestoreDrillStatus
  tenantId                    : String
  objectId                    : String
  sourceVersionId             : String
  storageManifestHash         : String
  sourceManifestHash          : String
  retentionManifestHash       : String
  retentionPolicySnapshotHash : String
  contentHash                 : Option String := none
  envelopeManifestHash        : Option String := none
  kmsEvidenceHash             : Option String := none
  cryptoshredManifestHash     : Option String := none
  keyDestructionEvidenceHash  : Option String := none
  checks                      : List String
  restoredContentReleased     : Bool := false
  encryptedContentUnreadable  : Bool := false
  requestedBy                 : String
  auditChainRef               : String
  occurredAtUtc               : String
  reportHash                  : String
  deriving DecidableEq, Repr

namespace RestoreDrillReport

def normalized (report : RestoreDrillReport) : RestoreDrillReport :=
  { report with
    tenantId := Text.strip report.tenantId
    objectId := Text.strip report.objectId
    sourceVersionId := Text.strip report.sourceVersionId
    storageManifestHash := Text.strip report.storageManifestHash
    sourceManifestHash := Text.strip report.sourceManifestHash
    retentionManifestHash := Text.strip report.retentionManifestHash
    retentionPolicySnapshotHash := Text.strip report.retentionPolicySnapshotHash
    contentHash := report.contentHash.map Text.strip
    envelopeManifestHash := report.envelopeManifestHash.map Text.strip
    kmsEvidenceHash := report.kmsEvidenceHash.map Text.strip
    cryptoshredManifestHash := report.cryptoshredManifestHash.map Text.strip
    keyDestructionEvidenceHash := report.keyDestructionEvidenceHash.map Text.strip
    requestedBy := Text.strip report.requestedBy
    auditChainRef := Text.strip report.auditChainRef
    occurredAtUtc := Text.strip report.occurredAtUtc
    reportHash := Text.strip report.reportHash }

def errors (report : RestoreDrillReport) : List FieldError :=
  requireNonEmpty "tenant_id" report.tenantId ++
    requireNonEmpty "object_id" report.objectId ++
    requireNonEmpty "source_version_id" report.sourceVersionId ++
    requireNamespacedRef "storage_manifest_hash" report.storageManifestHash ++
    requireNamespacedRef "source_manifest_hash" report.sourceManifestHash ++
    requireNamespacedRef "retention_manifest_hash" report.retentionManifestHash ++
    requireNamespacedRef "retention_policy_snapshot_hash" report.retentionPolicySnapshotHash ++
    requireOptional (requireNamespacedRef "content_hash") report.contentHash ++
    requireOptional (requireNamespacedRef "envelope_manifest_hash") report.envelopeManifestHash ++
    requireOptional (requireNamespacedRef "kms_evidence_hash") report.kmsEvidenceHash ++
    requireOptional (requireNamespacedRef "cryptoshred_manifest_hash")
      report.cryptoshredManifestHash ++
    requireOptional (requireNamespacedRef "key_destruction_evidence_hash")
      report.keyDestructionEvidenceHash ++
    KmsAdapterPolicy.requireLength "checks" 1 report.checks ++
    requireNonEmpty "requested_by" report.requestedBy ++
    requireNamespacedRef "audit_chain_ref" report.auditChainRef ++
    requireUtcTimestamp "occurred_at_utc" report.occurredAtUtc ++
    requireNamespacedRef "report_hash" report.reportHash

/-- `require_status_consistency`. -/
def requireStatusConsistency (report : RestoreDrillReport) : Except Exn Unit :=
  let model := "RestoreDrillReport"
  match report.status with
  | .restored => do
    requireModel model report.restoredContentReleased
      "restored reports must mark content as released"
    requireModel model (¬ report.encryptedContentUnreadable)
      "restored reports must not mark content unreadable"
    requireModel model (¬ (report.envelopeManifestHash = none ∨ report.kmsEvidenceHash = none))
      "restored encrypted reports require envelope and KMS evidence"
  | .unrecoverableByPolicy => do
    requireModel model (¬ report.restoredContentReleased)
      "unrecoverable reports must not release content"
    requireModel model report.encryptedContentUnreadable
      "unrecoverable reports must mark encrypted content unreadable"
    requireModel model
      (¬ (report.cryptoshredManifestHash = none ∨ report.keyDestructionEvidenceHash = none))
      "unrecoverable reports require cryptoshred and destruction evidence"

def validate (report : RestoreDrillReport) : Except Exn RestoreDrillReport := do
  let report ← accept "RestoreDrillReport" report.normalized.errors report.normalized
  report.requireStatusConsistency
  return report

/-- `restore_drill_report_payload`: every field but the hash. -/
def payload (report : RestoreDrillReport) : Json :=
  .obj [
    ("schema_version", .str report.schemaVersion),
    ("status", .str report.status.value),
    ("tenant_id", .str report.tenantId),
    ("object_id", .str report.objectId),
    ("source_version_id", .str report.sourceVersionId),
    ("storage_manifest_hash", .str report.storageManifestHash),
    ("source_manifest_hash", .str report.sourceManifestHash),
    ("retention_manifest_hash", .str report.retentionManifestHash),
    ("retention_policy_snapshot_hash", .str report.retentionPolicySnapshotHash),
    ("content_hash", optionalText report.contentHash),
    ("envelope_manifest_hash", optionalText report.envelopeManifestHash),
    ("kms_evidence_hash", optionalText report.kmsEvidenceHash),
    ("cryptoshred_manifest_hash", optionalText report.cryptoshredManifestHash),
    ("key_destruction_evidence_hash", optionalText report.keyDestructionEvidenceHash),
    ("checks", .arr (report.checks.map .str)),
    ("restored_content_released", .bool report.restoredContentReleased),
    ("encrypted_content_unreadable", .bool report.encryptedContentUnreadable),
    ("requested_by", .str report.requestedBy),
    ("audit_chain_ref", .str report.auditChainRef),
    ("occurred_at_utc", .str report.occurredAtUtc)]

end RestoreDrillReport

variable (H : HashFunctions)

def buildRestoreDrillReportHash (report : RestoreDrillReport) : String :=
  hashJson H report.payload

/-- `model_copy(update=...)`: the hash is set without another validation. -/
def RestoreDrillReport.withReportHash (report : RestoreDrillReport) : RestoreDrillReport :=
  { report with reportHash := buildRestoreDrillReportHash H report }

/-- `_report_draft`, before its model looks at it: the fields both kinds of report share. -/
def RestoreDrillCommandBase.reportDraft (command : RestoreDrillCommandBase)
    (status : RestoreDrillStatus) (checks : List String) : RestoreDrillReport where
  status := status
  tenantId := command.tenantId
  objectId := command.objectId
  sourceVersionId := command.sourceVersionId
  storageManifestHash := command.storageManifest.manifestHash
  sourceManifestHash := command.storageManifest.sourceManifestHash
  retentionManifestHash := command.storageManifest.retentionManifestHash
  retentionPolicySnapshotHash := command.storageManifest.retentionPolicySnapshotHash
  checks := checks
  requestedBy := command.requestedBy
  auditChainRef := command.auditChainRef
  occurredAtUtc := command.occurredAtUtc
  reportHash := zeroHash

/-- `_unique_checks`. -/
def uniqueChecks (checkGroups : List (List String)) : List String :=
  checkGroups.flatten.foldl (fun checks check =>
    if check ∈ checks then checks else checks ++ [check]) []

/-! ## Checks -/

/-- `_require_command_matches_record`. -/
def RestoreDrillCommandBase.requireMatchesRecord (command : RestoreDrillCommandBase) :
    Except Exn Unit :=
  let metadata := command.record.metadata
  requireAgreement .restoreDrillError "restore drill command does not match source object: " [
    ("tenant_id", decide (command.tenantId = metadata.tenantId)),
    ("object_id", decide (command.objectId = metadata.objectId)),
    ("source_version_id", decide (command.sourceVersionId = metadata.versionId))]

/-- `_require_envelope_manifest_matches_storage`. -/
def requireEnvelopeManifestMatchesStorage (envelopeManifest : EnvelopeEncryptionManifest)
    (storageManifest : StorageObjectManifest) : Except Exn Unit := do
  require (envelopeManifest.manifestHash =
      buildEnvelopeEncryptionManifestHash H envelopeManifest)
    (.restoreDrillError "envelope manifest_hash does not match manifest payload")
  requireAgreement .restoreDrillError "envelope manifest does not match storage manifest: " [
    ("tenant_id", decide (envelopeManifest.tenantId = storageManifest.tenantId)),
    ("object_id", decide (envelopeManifest.objectId = storageManifest.objectId)),
    ("source_version_id",
      decide (envelopeManifest.sourceVersionId = storageManifest.sourceVersionId)),
    ("data_class", decide (envelopeManifest.dataClass = storageManifest.classification)),
    ("kms_key_ref", decide (envelopeManifest.kmsKeyRef = storageManifest.kmsKeyRef)),
    ("plaintext_hash", decide (envelopeManifest.plaintextHash = storageManifest.contentHash))]

/-- `_require_storage_manifest_metadata_matches_record`. -/
def requireStorageManifestMetadataMatchesRecord (storageManifest : StorageObjectManifest)
    (record : SourceObjectRecord) : Except Exn Unit := do
  require (storageManifest.manifestHash = buildStorageObjectManifestHash H storageManifest)
    (.restoreDrillError "storage manifest_hash does not match manifest payload")
  let metadata := record.metadata
  require (metadata.manifestHash = buildSourceObjectManifestHash H metadata)
    (.restoreDrillError "source object manifest_hash does not match source metadata")
  requireAgreement .restoreDrillError "storage manifest does not match source object: " [
    ("tenant_id", decide (storageManifest.tenantId = metadata.tenantId)),
    ("object_id", decide (storageManifest.objectId = metadata.objectId)),
    ("source_version_id", decide (storageManifest.sourceVersionId = metadata.versionId)),
    ("classification", decide (storageManifest.classification = metadata.classification)),
    ("kms_key_ref", decide (storageManifest.kmsKeyRef = metadata.kmsKeyRef)),
    ("source_manifest_hash",
      decide (storageManifest.sourceManifestHash = metadata.manifestHash))]

/-- `_require_storage_manifest_matches_retention`. -/
def requireStorageManifestMatchesRetention (storageManifest : StorageObjectManifest)
    (retentionManifest : RetentionManifest) : Except Exn Unit := do
  require (storageManifest.retentionManifestHash =
      buildRetentionManifestHash H retentionManifest)
    (.restoreDrillError "storage manifest retention hash does not match retention manifest")
  require (storageManifest.retentionPolicySnapshotHash = retentionManifest.policySnapshotHash)
    (.restoreDrillError
      "storage manifest retention policy snapshot does not match retention manifest")

/-- `_require_cryptoshred_manifest_matches_restore`. -/
def requireCryptoshredManifestMatchesRestore
    (command : CryptoshreddedObjectRestoreDrillCommand) : Except Exn Unit := do
  let manifest := command.cryptoshredManifest
  let metadata := command.record.metadata
  require (manifest.manifestHash = buildCryptoshredSimulationManifestHash H manifest)
    (.restoreDrillError "cryptoshred manifest_hash does not match manifest payload")
  requireAgreement .restoreDrillError "cryptoshred manifest does not match restore evidence: " [
    ("tenant_id", decide (manifest.tenantId = metadata.tenantId)),
    ("object_id", decide (manifest.objectId = metadata.objectId)),
    ("source_version_id", decide (manifest.sourceVersionId = metadata.versionId)),
    ("classification", decide (manifest.classification = metadata.classification)),
    ("retention_policy_id", decide (manifest.retentionPolicyId = metadata.retentionPolicyId)),
    ("legal_hold_state", decide (manifest.legalHoldState = metadata.legalHoldState)),
    ("source_lifecycle_state", decide (manifest.sourceLifecycleState = metadata.lifecycleState)),
    ("kms_key_ref", decide (manifest.kmsKeyRef = command.storageManifest.kmsKeyRef)),
    ("source_manifest_hash",
      decide (manifest.sourceManifestHash = command.storageManifest.sourceManifestHash)),
    ("retention_manifest_hash", decide (manifest.retentionManifestHash =
      buildRetentionManifestHash H command.retentionManifest)),
    ("retention_policy_snapshot_hash", decide (manifest.retentionPolicySnapshotHash =
      command.retentionManifest.policySnapshotHash))]
  require (¬ manifest.objectBytesDeleted)
    (.restoreDrillError "cryptoshred restore evidence must not claim object bytes were deleted")
  require (¬ manifest.plaintextKeyExported)
    (.restoreDrillError "cryptoshred restore evidence must not export plaintext keys")
  require manifest.encryptedContentUnreadable
    (.restoreDrillError "cryptoshred restore evidence must mark encrypted content unreadable")

/-! ## The runner -/

structure RestoreDrillRunner where
  envelopeService : Option LocalEnvelopeEncryptionService := none

namespace RestoreDrillRunner

/-- The request `verify_encrypted_object_restore` gives to the envelope service. -/
def decryptionRequest (command : EncryptedObjectRestoreDrillCommand) :
    EnvelopeDecryptionRequest where
  tenantId := command.tenantId
  objectId := command.objectId
  sourceVersionId := command.sourceVersionId
  dataClass := command.storageManifest.classification
  kmsKeyRef := command.storageManifest.kmsKeyRef
  ciphertext := command.envelopeCiphertext
  manifest := command.envelopeManifest
  aad := command.envelopeAad
  requestedBy := command.requestedBy
  auditChainRef := command.auditChainRef
  occurredAtUtc := command.occurredAtUtc

def restoredChecks : List String :=
  ["envelope_encryption_manifest_hash_check", "ciphertext_hash_check", "aad_hash_check",
    "wrapped_data_key_hash_check", "kms_key_reference_check", "kms_evidence_hash_check",
    "plaintext_hash_check", "restore_drill_report_hash_check"]

def restoredDraft (command : EncryptedObjectRestoreDrillCommand)
    (storageResult : StorageRestoreVerificationResult) (decryption : EnvelopeDecryptionResult) :
    RestoreDrillReport :=
  { command.reportDraft .restored (uniqueChecks [storageResult.checks, restoredChecks]) with
    envelopeManifestHash := some command.envelopeManifest.manifestHash
    kmsEvidenceHash := some decryption.kmsEvidence.evidenceHash
    contentHash := some storageResult.contentHash
    restoredContentReleased := true }

/-- `verify_encrypted_object_restore`; the KMS adapter is the one of the envelope service. -/
def verifyEncryptedObjectRestore (runner : RestoreDrillRunner) (kms : LocalKmsAdapter)
    (command : EncryptedObjectRestoreDrillCommand) : Except Exn RestoreDrillReport :=
  match runner.envelopeService with
  | none =>
    .error (.restoreDrillError "encrypted restore drill requires an envelope service")
  | some service => do
    command.requireMatchesRecord
    requireEnvelopeManifestMatchesStorage H command.envelopeManifest command.storageManifest
    let storageResult ← verifyStorageObjectRestore H command.storageManifest command.record
      command.retentionManifest command.restoredContent
    let request ← (decryptionRequest command).validate
    let decryption ← service.decrypt H kms request
    require (decryption.plaintextHash = storageResult.contentHash)
      (.restoreDrillError "decrypted plaintext hash does not match storage restore")
    require (computeContentHash H command.restoredContent = decryption.plaintextHash)
      (.restoreDrillError "restored content hash does not match decrypted plaintext")
    let draft ← (restoredDraft command storageResult decryption).validate
    return draft.withReportHash H

def unrecoverableChecks : List String :=
  ["storage_object_manifest_hash_check", "source_object_manifest_hash_check",
    "retention_manifest_hash_check", "retention_policy_snapshot_hash_check",
    "cryptoshred_manifest_hash_check", "key_destruction_policy_check",
    "no_plaintext_key_export_check", "restore_drill_report_hash_check"]

def unrecoverableDraft (command : CryptoshreddedObjectRestoreDrillCommand) : RestoreDrillReport :=
  { command.reportDraft .unrecoverableByPolicy unrecoverableChecks with
    cryptoshredManifestHash := some command.cryptoshredManifest.manifestHash
    keyDestructionEvidenceHash := some command.cryptoshredManifest.keyDestructionEvidenceHash
    encryptedContentUnreadable := true }

/-- `verify_cryptoshredded_object_restore`; it asks no envelope service. -/
def verifyCryptoshreddedObjectRestore (command : CryptoshreddedObjectRestoreDrillCommand) :
    Except Exn RestoreDrillReport := do
  command.requireMatchesRecord
  requireStorageManifestMetadataMatchesRecord H command.storageManifest command.record
  requireStorageManifestMatchesRetention H command.storageManifest command.retentionManifest
  requireCryptoshredManifestMatchesRestore H command
  let draft ← (unrecoverableDraft command).validate
  return draft.withReportHash H

end RestoreDrillRunner

end Collabio
