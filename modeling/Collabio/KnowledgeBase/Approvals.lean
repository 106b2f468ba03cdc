import Mathlib.Tactic
import Collabio.KnowledgeBase.Evidence

/-!
# Write approvals

* `KnowledgeBaseWriteApprovalCommand`, `KnowledgeBaseWriteApprovalTransitionCommand` — what a
  dry run and an approval are asked for;
* `KnowledgeBaseWriteApprovalEvidence`            — what the ledger stores of them;
* `buildWriteApprovalEvidence`, `buildWriteApprovalTransitionEvidence` — how it is made.

A command carries that its model has accepted it.
-/

namespace Collabio

variable (H : HashFunctions)

/-! ## The dry-run command -/

structure KnowledgeBaseWriteApprovalCommandFields where
  approvalReference              : String
  reason                         : String
  operation                      : KnowledgeBaseWriteOperation
  articleObjectId                : String
  articleKey                     : String
  title                          : String
  proposedVersionObjectId        : String
  proposedVersionLabel           : String
  proposedSourceObjectId         : String
  proposedSourceVersionId        : String
  proposedSourceObjectType       : SourceObjectType := .wiki
  proposedSourceManifestHash     : String
  proposedContentHash            : String
  proposedAclVersion             : Nat
  expectedCurrentVersionObjectId : Option String := none
  dataClassification             : DataClass := .internal
  retentionPolicyId              : String := "rp-standard"
  legalHoldState                 : String := "none"
  sourceSystem                   : String := "native"
  deriving DecidableEq, Repr

/-- `reason must not be empty`, for each command. -/
def requireCommandReason (value : String) : List FieldError :=
  requireNotBlank "reason must not be empty" "reason" value

/-- What a failed check of one value reports. -/
def checkField (condition : Prop) [Decidable condition] (field text : String) : List FieldError :=
  if condition then [] else [⟨field, .message text⟩]

/-- A field's second validator runs only once its first has passed. -/
def andThen (first second : List FieldError) : List FieldError :=
  if first = [] then second else first

@[simp] theorem andThen_eq_nil {first second : List FieldError} :
    andThen first second = [] ↔ first = [] ∧ second = [] := by
  unfold andThen
  split <;> simp_all

namespace KnowledgeBaseWriteApprovalCommandFields

def notBlank : (field value : String) → List FieldError :=
  requireNotBlank "knowledge base write approval command fields must not be empty"

def sha256Ref : (field value : String) → List FieldError :=
  requireFullmatch isSha256Ref "proposed source hashes must be sha256 references"

def errors (command : KnowledgeBaseWriteApprovalCommandFields) : List FieldError :=
  andThen (notBlank "approval_reference" command.approvalReference)
      (requireFullmatch isKbRef "approval_reference must be a namespaced reference"
        "approval_reference" command.approvalReference) ++
    requireCommandReason command.reason ++
    notBlank "article_object_id" command.articleObjectId ++
    notBlank "article_key" command.articleKey ++
    notBlank "title" command.title ++
    notBlank "proposed_version_object_id" command.proposedVersionObjectId ++
    notBlank "proposed_version_label" command.proposedVersionLabel ++
    notBlank "proposed_source_object_id" command.proposedSourceObjectId ++
    notBlank "proposed_source_version_id" command.proposedSourceVersionId ++
    sha256Ref "proposed_source_manifest_hash" command.proposedSourceManifestHash ++
    sha256Ref "proposed_content_hash" command.proposedContentHash ++
    requirePositive "proposed_acl_version" command.proposedAclVersion ++
    checkField (command.dataClassification = .internal) "data_classification"
      "knowledge base write dry-run only accepts internal classification" ++
    checkField (command.retentionPolicyId = "rp-standard") "retention_policy_id"
      "knowledge base write dry-run requires rp-standard retention" ++
    checkField (command.legalHoldState = "none" ∨ command.legalHoldState = "active")
      "legal_hold_state" "knowledge base write dry-run legal_hold_state must be none or active" ++
    requireFullmatch isSourceSystem
      "knowledge base write dry-run source_system must be lowercase and non-empty" "source_system"
      command.sourceSystem

/-- `require_write_safety_contract`. -/
def requireWriteSafetyContract (command : KnowledgeBaseWriteApprovalCommandFields) :
    Except Exn Unit := do
  requireModel "KnowledgeBaseWriteApprovalCommand"
    (command.proposedSourceObjectId = command.proposedVersionObjectId)
    "proposed source object must be the proposed kb.article_version object"
  requireModel "KnowledgeBaseWriteApprovalCommand"
    (¬ (command.operation = .edit ∧ command.expectedCurrentVersionObjectId = none))
    "edit dry-run requires expected_current_version_object_id"
  requireModel "KnowledgeBaseWriteApprovalCommand"
    (¬ (command.operation = .create ∧ command.expectedCurrentVersionObjectId ≠ none))
    "create dry-run must not include expected_current_version_object_id"

def validate (command : KnowledgeBaseWriteApprovalCommandFields) : Except Exn Unit := do
  let command ← accept "KnowledgeBaseWriteApprovalCommand" command.errors command
  command.requireWriteSafetyContract

/-- `model_dump(mode="json")`. -/
def dump (command : KnowledgeBaseWriteApprovalCommandFields) : Json :=
  .obj [
    ("approval_reference", .str command.approvalReference),
    ("reason", .str command.reason),
    ("operation", .str command.operation.value),
    ("article_object_id", .str command.articleObjectId),
    ("article_key", .str command.articleKey),
    ("title", .str command.title),
    ("proposed_version_object_id", .str command.proposedVersionObjectId),
    ("proposed_version_label", .str command.proposedVersionLabel),
    ("proposed_source_object_id", .str command.proposedSourceObjectId),
    ("proposed_source_version_id", .str command.proposedSourceVersionId),
    ("proposed_source_object_type", .str command.proposedSourceObjectType.value),
    ("proposed_source_manifest_hash", .str command.proposedSourceManifestHash),
    ("proposed_content_hash", .str command.proposedContentHash),
    ("proposed_acl_version", .int command.proposedAclVersion),
    ("expected_current_version_object_id",
      optionalText command.expectedCurrentVersionObjectId),
    ("data_classification", .str command.dataClassification.value),
    ("retention_policy_id", .str command.retentionPolicyId),
    ("legal_hold_state", .str command.legalHoldState),
    ("source_system", .str command.sourceSystem)]

end KnowledgeBaseWriteApprovalCommandFields

structure KnowledgeBaseWriteApprovalCommand extends KnowledgeBaseWriteApprovalCommandFields where
  accepted : toKnowledgeBaseWriteApprovalCommandFields.validate = .ok ()

def buildWriteApprovalCommandHash (command : KnowledgeBaseWriteApprovalCommand) : String :=
  hashJson H command.dump

def buildProposedSourceVersionEvidence (tenantId : String)
    (command : KnowledgeBaseWriteApprovalCommand) :
    Except Exn KnowledgeBaseSourceVersionEvidence :=
  KnowledgeBaseSourceVersionEvidence.sealed H {
    tenantId := tenantId
    articleObjectId := command.articleObjectId
    articleVersionObjectId := command.proposedVersionObjectId
    sourceObjectId := command.proposedSourceObjectId
    sourceVersionId := command.proposedSourceVersionId
    sourceObjectType := command.proposedSourceObjectType
    sourceManifestHash := command.proposedSourceManifestHash
    contentHash := command.proposedContentHash
    aclVersion := command.proposedAclVersion
    dataClassification := command.dataClassification
    retentionPolicyId := command.retentionPolicyId
    legalHoldState := command.legalHoldState }

/-! ## The approval command -/

structure KnowledgeBaseWriteApprovalTransitionCommandFields where
  dryRunWriteApprovalEvidenceHash : String
  approvalReference               : String
  reason                          : String
  deriving DecidableEq, Repr

namespace KnowledgeBaseWriteApprovalTransitionCommandFields

def errors (command : KnowledgeBaseWriteApprovalTransitionCommandFields) : List FieldError :=
  requireFullmatch isSha256Ref "dry_run_write_approval_evidence_hash must be a sha256 reference"
      "dry_run_write_approval_evidence_hash" command.dryRunWriteApprovalEvidenceHash ++
    requireFullmatch isKbRef "approval_reference must be a namespaced reference"
      "approval_reference" command.approvalReference ++
    requireCommandReason command.reason

def validate (command : KnowledgeBaseWriteApprovalTransitionCommandFields) : Except Exn Unit :=
  accept "KnowledgeBaseWriteApprovalTransitionCommand" command.errors ()

/-- `model_dump(mode="json")`. -/
def dump (command : KnowledgeBaseWriteApprovalTransitionCommandFields) : Json :=
  .obj [
    ("dry_run_write_approval_evidence_hash", .str command.dryRunWriteApprovalEvidenceHash),
    ("approval_reference", .str command.approvalReference),
    ("reason", .str command.reason)]

end KnowledgeBaseWriteApprovalTransitionCommandFields

structure KnowledgeBaseWriteApprovalTransitionCommand extends
    KnowledgeBaseWriteApprovalTransitionCommandFields where
  accepted : toKnowledgeBaseWriteApprovalTransitionCommandFields.validate = .ok ()

/-! ## The evidence -/

/-- The guard reference until a guard has decided. -/
def pendingGuardRef : String := "guard:source-object-write-guard-pending"

structure KnowledgeBaseWriteApprovalEvidence where
  tenantId                          : String
  approvalReference                 : String
  operation                         : KnowledgeBaseWriteOperation
  approvalState                     : KnowledgeBaseWriteApprovalState := .dryRun
  articleObjectId                   : String
  articleKey                        : String
  title                             : String
  expectedCurrentVersionObjectId    : Option String := none
  proposedVersionObjectId           : String
  proposedVersionLabel              : String
  proposedSourceObjectId            : String
  proposedSourceVersionId           : String
  proposedSourceObjectType          : SourceObjectType := .wiki
  proposedSourceManifestHash        : String
  proposedContentHash               : String
  proposedAclVersion                : Nat
  commandHash                       : String
  proposedSourceVersionEvidenceHash : String
  currentRestoreEvidenceHash        : String
  sourceObjectWriteGuardRef         : String
  transitionSourceEvidenceHash      : Option String := none
  requestedBy                       : String
  persistenceAllowed                : Bool := false
  ragIndexingAllowed                : Bool := false
  sourceAuthorityVerified           : Bool := false
  auditEventId                      : String
  auditChainRef                     : String
  sourceSystem                      : String := "native"
  evidenceHash                      : String := zeroHash
  schemaVersion                     : String := "knowledge_base_write_approval_evidence.v1"
  deriving DecidableEq, Repr

namespace KnowledgeBaseWriteApprovalEvidence

def notBlank : (field value : String) → List FieldError :=
  requireNotBlank "knowledge base write approval evidence fields must not be empty"

def namespacedRef : (field value : String) → List FieldError :=
  requireFullmatch isKbRef "knowledge base write approval evidence references must be namespaced"

def sha256Ref : (field value : String) → List FieldError :=
  requireFullmatch isSha256Ref
    "knowledge base write approval evidence hashes must be sha256 references"

def errors (evidence : KnowledgeBaseWriteApprovalEvidence) : List FieldError :=
  notBlank "tenant_id" evidence.tenantId ++
    andThen (notBlank "approval_reference" evidence.approvalReference)
      (namespacedRef "approval_reference" evidence.approvalReference) ++
    notBlank "article_object_id" evidence.articleObjectId ++
    notBlank "article_key" evidence.articleKey ++
    notBlank "title" evidence.title ++
    notBlank "proposed_version_object_id" evidence.proposedVersionObjectId ++
    notBlank "proposed_version_label" evidence.proposedVersionLabel ++
    notBlank "proposed_source_object_id" evidence.proposedSourceObjectId ++
    notBlank "proposed_source_version_id" evidence.proposedSourceVersionId ++
    sha256Ref "proposed_source_manifest_hash" evidence.proposedSourceManifestHash ++
    sha256Ref "proposed_content_hash" evidence.proposedContentHash ++
    requirePositive "proposed_acl_version" evidence.proposedAclVersion ++
    sha256Ref "command_hash" evidence.commandHash ++
    sha256Ref "proposed_source_version_evidence_hash"
      evidence.proposedSourceVersionEvidenceHash ++
    sha256Ref "current_restore_evidence_hash" evidence.currentRestoreEvidenceHash ++
    namespacedRef "source_object_write_guard_ref" evidence.sourceObjectWriteGuardRef ++
    requireOptional (requireFullmatch isSha256Ref
      "transition_source_evidence_hash must be a sha256 reference"
      "transition_source_evidence_hash") evidence.transitionSourceEvidenceHash ++
    notBlank "requested_by" evidence.requestedBy ++
    notBlank "audit_event_id" evidence.auditEventId ++
    namespacedRef "audit_chain_ref" evidence.auditChainRef ++
    requireFullmatch isSourceSystem
      "knowledge base write approval evidence source_system must be lowercase and non-empty"
      "source_system" evidence.sourceSystem ++
    sha256Ref "evidence_hash" evidence.evidenceHash

/-- `require_approval_ledger_safety`. -/
def requireApprovalLedgerSafety (evidence : KnowledgeBaseWriteApprovalEvidence) :
    Except Exn Unit := do
  requireModel "KnowledgeBaseWriteApprovalEvidence"
    (evidence.proposedSourceObjectId = evidence.proposedVersionObjectId)
    "proposed source object must be the proposed kb.article_version object"
  requireModel "KnowledgeBaseWriteApprovalEvidence"
    (¬ (evidence.operation = .edit ∧ evidence.expectedCurrentVersionObjectId = none))
    "edit approval evidence requires expected_current_version_object_id"
  requireModel "KnowledgeBaseWriteApprovalEvidence"
    (¬ (evidence.operation = .create ∧ evidence.expectedCurrentVersionObjectId ≠ none))
    "create approval evidence must not include expected_current_version_object_id"
  requireModel "KnowledgeBaseWriteApprovalEvidence"
    (¬ (evidence.approvalState = .dryRun ∧ evidence.persistenceAllowed = true))
    "dry-run approval evidence cannot allow persistence"
  requireModel "KnowledgeBaseWriteApprovalEvidence"
    (¬ (evidence.approvalState = .dryRun ∧ (evidence.transitionSourceEvidenceHash.getD "") ≠ ""))
    "dry-run approval evidence cannot reference a transition source"
  requireModel "KnowledgeBaseWriteApprovalEvidence"
    (¬ (evidence.approvalState ≠ .dryRun ∧ evidence.transitionSourceEvidenceHash = none))
    "approval state transitions require transition_source_evidence_hash"
  requireModel "KnowledgeBaseWriteApprovalEvidence"
    (evidence.transitionSourceEvidenceHash ≠ some evidence.evidenceHash)
    "transition_source_evidence_hash cannot equal evidence_hash"
  requireModel "KnowledgeBaseWriteApprovalEvidence"
    (¬ (evidence.approvalState ≠ .approvedForWrite ∧ evidence.ragIndexingAllowed = true))
    "RAG indexing cannot be allowed before write approval"

/-- The hashed fields; a transition source is left out where there is none. -/
def payload (evidence : KnowledgeBaseWriteApprovalEvidence) : Json :=
  .obj ([
    ("tenant_id", .str evidence.tenantId),
    ("approval_reference", .str evidence.approvalReference),
    ("operation", .str evidence.operation.value),
    ("approval_state", .str evidence.approvalState.value),
    ("article_object_id", .str evidence.articleObjectId),
    ("article_key", .str evidence.articleKey),
    ("title", .str evidence.title),
    ("expected_current_version_object_id",
      optionalText evidence.expectedCurrentVersionObjectId),
    ("proposed_version_object_id", .str evidence.proposedVersionObjectId),
    ("proposed_version_label", .str evidence.proposedVersionLabel),
    ("proposed_source_object_id", .str evidence.proposedSourceObjectId),
    ("proposed_source_version_id", .str evidence.proposedSourceVersionId),
    ("proposed_source_object_type", .str evidence.proposedSourceObjectType.value),
    ("proposed_source_manifest_hash", .str evidence.proposedSourceManifestHash),
    ("proposed_content_hash", .str evidence.proposedContentHash),
    ("proposed_acl_version", .int evidence.proposedAclVersion),
    ("command_hash", .str evidence.commandHash),
    ("proposed_source_version_evidence_hash", .str evidence.proposedSourceVersionEvidenceHash),
    ("current_restore_evidence_hash", .str evidence.currentRestoreEvidenceHash),
    ("source_object_write_guard_ref", .str evidence.sourceObjectWriteGuardRef)] ++
    (evidence.transitionSourceEvidenceHash.map fun hash =>
      ("transition_source_evidence_hash", Json.str hash)).toList ++
    [("requested_by", .str evidence.requestedBy),
    ("persistence_allowed", .bool evidence.persistenceAllowed),
    ("rag_indexing_allowed", .bool evidence.ragIndexingAllowed),
    ("source_authority_verified", .bool evidence.sourceAuthorityVerified),
    ("audit_event_id", .str evidence.auditEventId),
    ("audit_chain_ref", .str evidence.auditChainRef),
    ("source_system", .str evidence.sourceSystem),
    ("schema_version", .str evidence.schemaVersion)])

end KnowledgeBaseWriteApprovalEvidence

def buildWriteApprovalEvidenceHash (evidence : KnowledgeBaseWriteApprovalEvidence) : String :=
  hashJson H evidence.payload

/-- A checked draft with its hash. -/
def KnowledgeBaseWriteApprovalEvidence.sealed (draft : KnowledgeBaseWriteApprovalEvidence) :
    Except Exn KnowledgeBaseWriteApprovalEvidence := do
  let draft ← accept "KnowledgeBaseWriteApprovalEvidence" draft.errors draft
  draft.requireApprovalLedgerSafety
  return { draft with evidenceHash := buildWriteApprovalEvidenceHash H draft }

/-- The draft of a dry run's evidence. -/
def writeApprovalDraft (tenantId : String) (command : KnowledgeBaseWriteApprovalCommand)
    (commandHash proposedSourceVersionEvidenceHash currentRestoreEvidenceHash requestedBy
      auditEventId auditChainRef : String) : KnowledgeBaseWriteApprovalEvidence where
  tenantId := tenantId
  approvalReference := command.approvalReference
  operation := command.operation
  articleObjectId := command.articleObjectId
  articleKey := command.articleKey
  title := command.title
  expectedCurrentVersionObjectId := command.expectedCurrentVersionObjectId
  proposedVersionObjectId := command.proposedVersionObjectId
  proposedVersionLabel := command.proposedVersionLabel
  proposedSourceObjectId := command.proposedSourceObjectId
  proposedSourceVersionId := command.proposedSourceVersionId
  proposedSourceObjectType := command.proposedSourceObjectType
  proposedSourceManifestHash := command.proposedSourceManifestHash
  proposedContentHash := command.proposedContentHash
  proposedAclVersion := command.proposedAclVersion
  commandHash := commandHash
  proposedSourceVersionEvidenceHash := proposedSourceVersionEvidenceHash
  currentRestoreEvidenceHash := currentRestoreEvidenceHash
  sourceObjectWriteGuardRef := pendingGuardRef
  requestedBy := requestedBy
  auditEventId := auditEventId
  auditChainRef := auditChainRef
  sourceSystem := command.sourceSystem

def buildWriteApprovalEvidence (tenantId : String) (command : KnowledgeBaseWriteApprovalCommand)
    (commandHash proposedSourceVersionEvidenceHash currentRestoreEvidenceHash requestedBy
      auditEventId auditChainRef : String) : Except Exn KnowledgeBaseWriteApprovalEvidence :=
  (writeApprovalDraft tenantId command commandHash proposedSourceVersionEvidenceHash
    currentRestoreEvidenceHash requestedBy auditEventId auditChainRef).sealed H

/-- The draft of an approval: what was run dry, allowed to be persisted. -/
def transitionDraft (sourceEvidence : KnowledgeBaseWriteApprovalEvidence)
    (approvalReference requestedBy auditEventId auditChainRef : String) :
    KnowledgeBaseWriteApprovalEvidence where
  tenantId := sourceEvidence.tenantId
  approvalReference := approvalReference
  operation := sourceEvidence.operation
  approvalState := .approvedForWrite
  articleObjectId := sourceEvidence.articleObjectId
  articleKey := sourceEvidence.articleKey
  title := sourceEvidence.title
  expectedCurrentVersionObjectId := sourceEvidence.expectedCurrentVersionObjectId
  proposedVersionObjectId := sourceEvidence.proposedVersionObjectId
  proposedVersionLabel := sourceEvidence.proposedVersionLabel
  proposedSourceObjectId := sourceEvidence.proposedSourceObjectId
  proposedSourceVersionId := sourceEvidence.proposedSourceVersionId
  proposedSourceObjectType := sourceEvidence.proposedSourceObjectType
  proposedSourceManifestHash := sourceEvidence.proposedSourceManifestHash
  proposedContentHash := sourceEvidence.proposedContentHash
  proposedAclVersion := sourceEvidence.proposedAclVersion
  commandHash := sourceEvidence.commandHash
  proposedSourceVersionEvidenceHash := sourceEvidence.proposedSourceVersionEvidenceHash
  currentRestoreEvidenceHash := sourceEvidence.currentRestoreEvidenceHash
  sourceObjectWriteGuardRef := pendingGuardRef
  transitionSourceEvidenceHash := some sourceEvidence.evidenceHash
  requestedBy := requestedBy
  persistenceAllowed := true
  auditEventId := auditEventId
  auditChainRef := auditChainRef
  sourceSystem := sourceEvidence.sourceSystem

def buildWriteApprovalTransitionEvidence (sourceEvidence : KnowledgeBaseWriteApprovalEvidence)
    (approvalReference requestedBy auditEventId auditChainRef : String) :
    Except Exn KnowledgeBaseWriteApprovalEvidence :=
  (transitionDraft sourceEvidence approvalReference requestedBy auditEventId auditChainRef).sealed H

end Collabio
