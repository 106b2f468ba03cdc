import Mathlib.Tactic
import Collabio.Kms.KeyReference
import Collabio.Storage.ContentHash

/-!
# The local KMS adapter

The adapter keeps no key material: its state is the set of destroyed key
references. Requests and commands are models that normalise and check their
fields (`validate`), and every operation answers with hashed evidence.

* `LocalKmsAdapter.validateKeyRef_eq_ok` — which references an adapter accepts;
* `buildKmsOperationEvidence_eq_ok`      — when evidence can be built;
* `LocalKmsAdapter.recordKeyDestruction_eq_ok` — what a destruction changes.
-/

namespace Collabio

inductive KmsOperation where
  | validateKeyReference | rotateKeyReference | recordKeyDestruction
  deriving DecidableEq, Repr

def KmsOperation.value : KmsOperation → String
  | .validateKeyReference => "validate_key_reference"
  | .rotateKeyReference => "rotate_key_reference"
  | .recordKeyDestruction => "record_key_destruction"

inductive KmsKeyUse where
  | storageWrite | storageRestore | parserArtifact | exportPackage | keyRotation
  | keyDestruction | envelopeEncryptionPrep | envelopeDecryption
  deriving DecidableEq, Repr

def KmsKeyUse.value : KmsKeyUse → String
  | .storageWrite => "storage_write"
  | .storageRestore => "storage_restore"
  | .parserArtifact => "parser_artifact"
  | .exportPackage => "export_package"
  | .keyRotation => "key_rotation"
  | .keyDestruction => "key_destruction"
  | .envelopeEncryptionPrep => "envelope_encryption_prep"
  | .envelopeDecryption => "envelope_decryption"

/-! ## Policy -/

structure KmsDataClassKeyPolicy where
  dataClass                        : DataClass
  keyHierarchyLevel                : String := "data_class_key"
  minKeyVersion                    : Nat := 1
  rotationRequired                 : Bool := true
  rotationPeriodDays               : Nat
  destructionRequiresHumanApproval : Bool := true
  cryptoshredAllowed               : Bool := false
  deriving DecidableEq, Repr

/-- The record classes whose keys are never destroyed. -/
def DataClass.isRecord (d : DataClass) : Bool := d == .gobd || d == .legalHold

def KmsDataClassKeyPolicy.validate (policy : KmsDataClassKeyPolicy) :
    Except Exn KmsDataClassKeyPolicy := do
  let policy ← accept "KmsDataClassKeyPolicy"
    (requirePositive "min_key_version" policy.minKeyVersion ++
      requirePositive "rotation_period_days" policy.rotationPeriodDays) policy
  requireModel "KmsDataClassKeyPolicy" (Text.strip policy.keyHierarchyLevel ≠ "")
    "key_hierarchy_level must not be empty"
  requireModel "KmsDataClassKeyPolicy" (¬ (policy.cryptoshredAllowed ∧ policy.dataClass.isRecord))
    "GoBD and legal-hold data classes cannot allow cryptoshred"
  requireModel "KmsDataClassKeyPolicy"
    (¬ (policy.cryptoshredAllowed ∧ ¬ policy.destructionRequiresHumanApproval))
    "cryptoshred-capable classes require human approval"
  return policy

structure KmsAdapterPolicy where
  schemaVersion          : String
  owner                  : String
  defaultProviderProfile : String
  providerProfiles       : List String
  requiredKeyHierarchy   : List String
  forbiddenOperations    : List String
  requiredEvidenceFields : List String
  dataClassKeyPolicies   : List KmsDataClassKeyPolicy
  deriving DecidableEq, Repr

namespace KmsAdapterPolicy

def requiredHierarchy : List String :=
  ["data_class_key", "object_encryption_key", "tenant_master_key", "version_envelope_key"]

def requiredForbidden : List String :=
  ["destroy_gobd_or_legal_hold_key", "destroy_key_without_human_approval",
    "feature_code_direct_crypto_call", "plaintext_key_backup", "raw_key_material_export"]

/-- `Field(min_length=n)` of a list. -/
def requireLength {α : Type} (field : String) (n : Nat) (items : List α) : List FieldError :=
  if n ≤ items.length then []
  else [⟨field, .message ("List should have at least " ++ toString n ++
    (if n = 1 then " item" else " items") ++ " after validation, not " ++
    toString items.length)⟩]

/-- The data classes in the order of their values. -/
def sortedClasses : List DataClass :=
  [.aiOutput, .aiPrompt, .confidential, .embedding, .gobd, .internal, .legalHold, .personal,
    .publicData, .ragChunk, .voiceTranscript]

/-- The model's validation; of several rejected data class policies the first is reported. -/
def validate (policy : KmsAdapterPolicy) : Except Exn KmsAdapterPolicy := do
  let _ ← policy.dataClassKeyPolicies.mapM KmsDataClassKeyPolicy.validate
  let policy ← accept "KmsAdapterPolicy"
    (requireLength "provider_profiles" 1 policy.providerProfiles ++
      requireLength "required_key_hierarchy" 4 policy.requiredKeyHierarchy ++
      requireLength "forbidden_operations" 1 policy.forbiddenOperations ++
      requireLength "required_evidence_fields" 1 policy.requiredEvidenceFields ++
      requireLength "data_class_key_policies" 1 policy.dataClassKeyPolicies) policy
  requireModel "KmsAdapterPolicy" (policy.defaultProviderProfile ∈ policy.providerProfiles)
    "default_provider_profile must be listed in provider_profiles"
  let missingHierarchy := requiredHierarchy.filter (· ∉ policy.requiredKeyHierarchy)
  requireModel "KmsAdapterPolicy" (missingHierarchy = [])
    ("KMS policy is missing hierarchy levels: " ++ ", ".intercalate missingHierarchy)
  let missingForbidden := requiredForbidden.filter (· ∉ policy.forbiddenOperations)
  requireModel "KmsAdapterPolicy" (missingForbidden = [])
    ("KMS policy is missing forbidden operations: " ++ ", ".intercalate missingForbidden)
  let dataClasses := policy.dataClassKeyPolicies.map (·.dataClass)
  let duplicateClasses := sortedClasses.filter (1 < dataClasses.count ·)
  requireModel "KmsAdapterPolicy" (duplicateClasses = [])
    ("duplicate KMS data class policies: " ++
      ", ".intercalate (duplicateClasses.map DataClass.value))
  let missingClasses := sortedClasses.filter (· ∉ dataClasses)
  requireModel "KmsAdapterPolicy" (missingClasses = [])
    ("KMS policy is missing data classes: " ++
      ", ".intercalate (missingClasses.map DataClass.value))
  return policy

/-- `data_class_policy`. -/
def dataClassPolicy (policy : KmsAdapterPolicy) (dataClass : DataClass) :
    Except Exn KmsDataClassKeyPolicy :=
  match policy.dataClassKeyPolicies.find? (·.dataClass == dataClass) with
  | some found => .ok found
  | none => .error (.lookupError ("Unknown KMS data class policy: " ++ dataClass.value))

end KmsAdapterPolicy

/-! ## Requests and commands -/

structure KmsKeyReferenceRequest where
  tenantId        : String
  dataClass       : DataClass
  kmsKeyRef       : String
  requestedBy     : String
  auditChainRef   : String
  occurredAtUtc   : String
  keyUse          : KmsKeyUse
  objectId        : Option String := none
  sourceVersionId : Option String := none
  deriving DecidableEq, Repr

namespace KmsKeyReferenceRequest

def normalized (request : KmsKeyReferenceRequest) : KmsKeyReferenceRequest :=
  { request with
    tenantId := Text.strip request.tenantId
    kmsKeyRef := Text.strip request.kmsKeyRef
    requestedBy := Text.strip request.requestedBy
    auditChainRef := Text.strip request.auditChainRef
    occurredAtUtc := Text.strip request.occurredAtUtc }

def errors (request : KmsKeyReferenceRequest) : List FieldError :=
  requireNonEmpty "tenant_id" request.tenantId ++
    requireNamespacedRef "kms_key_ref" request.kmsKeyRef ++
    requireNonEmpty "requested_by" request.requestedBy ++
    requireNamespacedRef "audit_chain_ref" request.auditChainRef ++
    requireUtcTimestamp "occurred_at_utc" request.occurredAtUtc

def validate (request : KmsKeyReferenceRequest) : Except Exn KmsKeyReferenceRequest :=
  accept "KmsKeyReferenceRequest" request.normalized.errors request.normalized

end KmsKeyReferenceRequest

structure KmsRotateKeyCommand where
  tenantId         : String
  dataClass        : DataClass
  currentKmsKeyRef : String
  requestedBy      : String
  approvedBy       : String
  auditChainRef    : String
  occurredAtUtc    : String
  reason           : String
  deriving DecidableEq, Repr

namespace KmsRotateKeyCommand

def normalized (command : KmsRotateKeyCommand) : KmsRotateKeyCommand :=
  { command with
    tenantId := Text.strip command.tenantId
    currentKmsKeyRef := Text.strip command.currentKmsKeyRef
    requestedBy := Text.strip command.requestedBy
    approvedBy := Text.strip command.approvedBy
    auditChainRef := Text.strip command.auditChainRef
    occurredAtUtc := Text.strip command.occurredAtUtc
    reason := Text.strip command.reason }

def errors (command : KmsRotateKeyCommand) : List FieldError :=
  requireNonEmpty "tenant_id" command.tenantId ++
    requireNamespacedRef "current_kms_key_ref" command.currentKmsKeyRef ++
    requireNonEmpty "requested_by" command.requestedBy ++
    requireNonEmpty "approved_by" command.approvedBy ++
    requireNamespacedRef "audit_chain_ref" command.auditChainRef ++
    requireUtcTimestamp "occurred_at_utc" command.occurredAtUtc ++
    requireNonEmpty "reason" command.reason

def validate (command : KmsRotateKeyCommand) : Except Exn KmsRotateKeyCommand :=
  accept "KmsRotateKeyCommand" command.normalized.errors command.normalized

end KmsRotateKeyCommand

@[ext] structure KmsDestroyKeyCommand where
  tenantId          : String
  dataClass         : DataClass
  kmsKeyRef         : String
  retentionPolicyId : String
  legalHoldState    : String
  lifecycleState    : String
  requestedBy       : String
  approvedBy        : String
  approvalRef       : String
  auditChainRef     : String
  occurredAtUtc     : String
  reason            : String
  deriving DecidableEq, Repr

namespace KmsDestroyKeyCommand

def normalized (command : KmsDestroyKeyCommand) : KmsDestroyKeyCommand :=
  { command with
    tenantId := Text.strip command.tenantId
    kmsKeyRef := Text.strip command.kmsKeyRef
    retentionPolicyId := Text.strip command.retentionPolicyId
    legalHoldState := Text.strip command.legalHoldState
    lifecycleState := Text.strip command.lifecycleState
    requestedBy := Text.strip command.requestedBy
    approvedBy := Text.strip command.approvedBy
    approvalRef := Text.strip command.approvalRef
    auditChainRef := Text.strip command.auditChainRef
    occurredAtUtc := Text.strip command.occurredAtUtc
    reason := Text.strip command.reason }

def errors (command : KmsDestroyKeyCommand) : List FieldError :=
  requireNonEmpty "tenant_id" command.tenantId ++
    requireNamespacedRef "kms_key_ref" command.kmsKeyRef ++
    requireNonEmpty "retention_policy_id" command.retentionPolicyId ++
    requireNonEmpty "legal_hold_state" command.legalHoldState ++
    requireNonEmpty "lifecycle_state" command.lifecycleState ++
    requireNonEmpty "requested_by" command.requestedBy ++
    requireNonEmpty "approved_by" command.approvedBy ++
    requireNamespacedRef "approval_ref" command.approvalRef ++
    requireNamespacedRef "audit_chain_ref" command.auditChainRef ++
    requireUtcTimestamp "occurred_at_utc" command.occurredAtUtc ++
    requireNonEmpty "reason" command.reason

def validate (command : KmsDestroyKeyCommand) : Except Exn KmsDestroyKeyCommand :=
  accept "KmsDestroyKeyCommand" command.normalized.errors command.normalized

end KmsDestroyKeyCommand

/-! ## Evidence -/

structure KmsOperationEvidence where
  schemaVersion          : String := "kms_operation_evidence.v1"
  operation              : KmsOperation
  tenantId               : String
  dataClass              : DataClass
  kmsKeyRef              : String
  keyVersion             : Nat
  providerProfile        : String
  requestedBy            : String
  auditChainRef          : String
  occurredAtUtc          : String
  keyUse                 : KmsKeyUse
  approvedBy             : Option String := none
  objectId               : Option String := none
  sourceVersionId        : Option String := none
  previousKmsKeyRef      : Option String := none
  newKmsKeyRef           : Option String := none
  approvalRef            : Option String := none
  reason                 : Option String := none
  rawKeyMaterialExposed  : Bool := false
  keyDestroyed           : Bool := false
  evidenceHash           : String := zeroHash
  deriving DecidableEq, Repr

namespace KmsOperationEvidence

def normalized (evidence : KmsOperationEvidence) : KmsOperationEvidence :=
  { evidence with
    kmsKeyRef := Text.strip evidence.kmsKeyRef
    auditChainRef := Text.strip evidence.auditChainRef
    occurredAtUtc := Text.strip evidence.occurredAtUtc
    previousKmsKeyRef := evidence.previousKmsKeyRef.map Text.strip
    newKmsKeyRef := evidence.newKmsKeyRef.map Text.strip
    approvalRef := evidence.approvalRef.map Text.strip
    evidenceHash := Text.strip evidence.evidenceHash }

def errors (evidence : KmsOperationEvidence) : List FieldError :=
  requireNamespacedRef "kms_key_ref" evidence.kmsKeyRef ++
    requirePositive "key_version" evidence.keyVersion ++
    requireNamespacedRef "audit_chain_ref" evidence.auditChainRef ++
    requireUtcTimestamp "occurred_at_utc" evidence.occurredAtUtc ++
    requireOptional (requireNamespacedRef "previous_kms_key_ref") evidence.previousKmsKeyRef ++
    requireOptional (requireNamespacedRef "new_kms_key_ref") evidence.newKmsKeyRef ++
    requireOptional (requireNamespacedRef "approval_ref") evidence.approvalRef ++
    requireNamespacedRef "evidence_hash" evidence.evidenceHash

def validate (evidence : KmsOperationEvidence) : Except Exn KmsOperationEvidence := do
  let evidence ← accept "KmsOperationEvidence" evidence.normalized.errors evidence.normalized
  requireModel "KmsOperationEvidence" (¬ evidence.rawKeyMaterialExposed)
    "KMS evidence must never expose raw key material"
  return evidence

/-- `kms_operation_evidence_payload`: every field but the hash. -/
def payload (evidence : KmsOperationEvidence) : Json :=
  .obj [
    ("schema_version", .str evidence.schemaVersion),
    ("operation", .str evidence.operation.value),
    ("tenant_id", .str evidence.tenantId),
    ("data_class", .str evidence.dataClass.value),
    ("kms_key_ref", .str evidence.kmsKeyRef),
    ("key_version", .int evidence.keyVersion),
    ("provider_profile", .str evidence.providerProfile),
    ("requested_by", .str evidence.requestedBy),
    ("audit_chain_ref", .str evidence.auditChainRef),
    ("occurred_at_utc", .str evidence.occurredAtUtc),
    ("key_use", .str evidence.keyUse.value),
    ("approved_by", optionalText evidence.approvedBy),
    ("object_id", optionalText evidence.objectId),
    ("source_version_id", optionalText evidence.sourceVersionId),
    ("previous_kms_key_ref", optionalText evidence.previousKmsKeyRef),
    ("new_kms_key_ref", optionalText evidence.newKmsKeyRef),
    ("approval_ref", optionalText evidence.approvalRef),
    ("reason", optionalText evidence.reason),
    ("raw_key_material_exposed", .bool evidence.rawKeyMaterialExposed),
    ("key_destroyed", .bool evidence.keyDestroyed)]

end KmsOperationEvidence

variable (H : HashFunctions)

def buildKmsOperationEvidenceHash (evidence : KmsOperationEvidence) : String :=
  hashJson H evidence.payload

/-- `build_kms_operation_evidence`, from a draft with the placeholder hash. -/
def buildKmsOperationEvidence (draft : KmsOperationEvidence) :
    Except Exn KmsOperationEvidence := do
  let draft ← draft.validate
  return { draft with evidenceHash := buildKmsOperationEvidenceHash H draft }

structure KmsRotationResult where
  previousKmsKeyRef : String
  newKmsKeyRef      : String
  evidence          : KmsOperationEvidence
  deriving DecidableEq, Repr

structure KmsKeyDestructionResult where
  kmsKeyRef : String
  evidence  : KmsOperationEvidence
  deriving DecidableEq, Repr

/-! ## The adapter -/

/-- An adapter's policy is one that `KmsAdapterPolicy` accepts. -/
structure LocalKmsAdapter where
  policy           : KmsAdapterPolicy
  providerProfile  : String
  destroyedKeyRefs : Finset String
  policy_valid     : policy.validate = .ok policy

namespace LocalKmsAdapter

/-- The constructor; `production` is `is_production_environment()`. -/
def make (production : Bool) (policy : KmsAdapterPolicy) (providerProfile : Option String)
    (policy_valid : policy.validate = .ok policy) : Except Exn LocalKmsAdapter := do
  require (production = false) (.kmsPolicyViolation "LocalKmsAdapter is disabled in production")
  let profile := match providerProfile with
    | none | some "" => policy.defaultProviderProfile
    | some profile => profile
  require (profile ∈ policy.providerProfiles)
    (.kmsPolicyViolation "provider_profile is not allowed by KMS policy")
  return ⟨policy, profile, ∅, policy_valid⟩

/-- `_validate_key_ref`. -/
def validateKeyRef (kms : LocalKmsAdapter) (tenantId : String) (dataClass : DataClass)
    (kmsKeyRef : String) : Except Exn KmsKeyReference := do
  let keyRef ← KmsKeyReference.parse kmsKeyRef
  require (keyRef.tenantId = tenantId)
    (.kmsPolicyViolation "kms_key_ref tenant_id does not match request tenant")
  require (keyRef.dataClass = dataClass)
    (.kmsPolicyViolation "kms_key_ref data_class does not match request data_class")
  let dataClassPolicy ← kms.policy.dataClassPolicy dataClass
  require (dataClassPolicy.minKeyVersion ≤ keyRef.keyVersion)
    (.kmsPolicyViolation "kms_key_ref version is below policy minimum")
  let canonical ← keyRef.canonicalRef
  require (canonical ∉ kms.destroyedKeyRefs)
    (.kmsPolicyViolation "kms key version is destroyed")
  return keyRef

/-- The evidence of a validation: what the request asked, under the canonical reference. -/
def validationEvidence (providerProfile : String) (request : KmsKeyReferenceRequest)
    (keyRef : KmsKeyReference) : Except Exn KmsOperationEvidence := do
  let canonical ← keyRef.canonicalRef
  buildKmsOperationEvidence H {
    operation := .validateKeyReference
    tenantId := request.tenantId
    dataClass := request.dataClass
    kmsKeyRef := canonical
    keyVersion := keyRef.keyVersion
    providerProfile := providerProfile
    requestedBy := request.requestedBy
    auditChainRef := request.auditChainRef
    occurredAtUtc := request.occurredAtUtc
    keyUse := request.keyUse
    objectId := request.objectId
    sourceVersionId := request.sourceVersionId }

def validateKeyReference (kms : LocalKmsAdapter) (request : KmsKeyReferenceRequest) :
    Except Exn KmsOperationEvidence := do
  let keyRef ← kms.validateKeyRef request.tenantId request.dataClass request.kmsKeyRef
  validationEvidence H kms.providerProfile request keyRef

/-- The new reference is the next version; whether that version was destroyed is not asked. -/
def rotateKeyReference (kms : LocalKmsAdapter) (command : KmsRotateKeyCommand) :
    Except Exn KmsRotationResult := do
  let currentRef ← kms.validateKeyRef command.tenantId command.dataClass command.currentKmsKeyRef
  let newRef ← KmsKeyReference.make currentRef.tenantId currentRef.dataClass
    (currentRef.keyVersion + 1)
  let currentCanonical ← currentRef.canonicalRef
  let newCanonical ← newRef.canonicalRef
  let evidence ← buildKmsOperationEvidence H {
    operation := .rotateKeyReference
    tenantId := command.tenantId
    dataClass := command.dataClass
    kmsKeyRef := currentCanonical
    keyVersion := currentRef.keyVersion
    providerProfile := kms.providerProfile
    requestedBy := command.requestedBy
    approvedBy := some command.approvedBy
    auditChainRef := command.auditChainRef
    occurredAtUtc := command.occurredAtUtc
    keyUse := .keyRotation
    previousKmsKeyRef := some currentCanonical
    newKmsKeyRef := some newCanonical
    reason := some command.reason }
  return ⟨currentCanonical, newCanonical, evidence⟩

/-- `_require_key_destruction_allowed`. -/
def requireKeyDestructionAllowed (dataClassPolicy : KmsDataClassKeyPolicy)
    (command : KmsDestroyKeyCommand) : Except Exn Unit := do
  require (command.legalHoldState ≠ "active")
    (.kmsPolicyViolation "active legal hold blocks key destruction")
  require (command.dataClass.isRecord = false)
    (.kmsPolicyViolation "GoBD and legal-hold data classes block key destruction")
  require (command.lifecycleState ∉ ["business_record", "worm_evidence"])
    (.kmsPolicyViolation "record lifecycle blocks key destruction")
  require (¬ (dataClassPolicy.destructionRequiresHumanApproval ∧ command.approvalRef = ""))
    (.kmsPolicyViolation "key destruction requires human approval reference")
  require (dataClassPolicy.cryptoshredAllowed = true)
    (.kmsPolicyViolation "data class policy does not allow cryptoshred")

/-- `self._destroyed_key_refs.add(ref)`. -/
def destroy (kms : LocalKmsAdapter) (ref : String) : LocalKmsAdapter :=
  { kms with destroyedKeyRefs := insert ref kms.destroyedKeyRefs }

/-- The checks of `record_key_destruction`, made before the key set changes. -/
def destructionTarget (kms : LocalKmsAdapter) (command : KmsDestroyKeyCommand) :
    Except Exn (KmsKeyReference × String) := do
  let keyRef ← kms.validateKeyRef command.tenantId command.dataClass command.kmsKeyRef
  let dataClassPolicy ← kms.policy.dataClassPolicy command.dataClass
  requireKeyDestructionAllowed dataClassPolicy command
  let canonical ← keyRef.canonicalRef
  return (keyRef, canonical)

/-- The reference is recorded as destroyed before the evidence is built. -/
@[irreducible] def recordKeyDestruction (command : KmsDestroyKeyCommand) :
    Eff Exn LocalKmsAdapter KmsKeyDestructionResult := do
  let kms ← Eff.get
  let (keyRef, canonical) ← Eff.lift (kms.destructionTarget command)
  Eff.set (kms.destroy canonical)
  let evidence ← Eff.lift (buildKmsOperationEvidence H {
    operation := .recordKeyDestruction
    tenantId := command.tenantId
    dataClass := command.dataClass
    kmsKeyRef := canonical
    keyVersion := keyRef.keyVersion
    providerProfile := kms.providerProfile
    requestedBy := command.requestedBy
    approvedBy := some command.approvedBy
    auditChainRef := command.auditChainRef
    occurredAtUtc := command.occurredAtUtc
    keyUse := .keyDestruction
    approvalRef := some command.approvalRef
    reason := some command.reason
    keyDestroyed := true })
  return ⟨canonical, evidence⟩

end LocalKmsAdapter

end Collabio
