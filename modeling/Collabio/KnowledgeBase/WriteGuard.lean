import Mathlib.Tactic
import Collabio.KnowledgeBase.Approvals

/-!
# The write guard of the knowledge base

`KnowledgeBaseSourceObjectWriteGuard.decide` collects every reason against a
proposed source; a decision with none allows the write. Its reference is the hash
of all its other fields.
-/

namespace Collabio

variable (H : HashFunctions)

structure KnowledgeBaseSourceObjectWriteGuardDecision where
  tenantId                          : String
  sourceObjectWriteGuardRef         : String := "guard:pending"
  allowed                           : Bool
  blockingReasons                   : List String
  writeApprovalEvidenceHash         : String
  approvalState                     : KnowledgeBaseWriteApprovalState
  operation                         : KnowledgeBaseWriteOperation
  articleObjectId                   : String
  expectedCurrentVersionObjectId    : Option String := none
  proposedSourceObjectId            : String
  proposedSourceVersionId           : String
  proposedSourceVersionEvidenceHash : String
  currentRestoreEvidenceHash        : String
  persistenceAllowed                : Bool
  ragIndexingAllowed                : Bool
  sourceAuthorityVerified           : Bool
  requiredEvidence                  : List String := [
    "approved_write_approval_ledger_entry", "expected_current_version_match",
    "source_object_metadata_guard", "proposed_source_version_evidence_hash",
    "current_restore_evidence_hash", "retention_policy_evaluation", "legal_hold_evaluation"]
  schemaVersion                     : String := "knowledge_base_source_object_write_guard.v1"
  deriving DecidableEq, Repr

namespace KnowledgeBaseSourceObjectWriteGuardDecision

def notBlank : (field value : String) → List FieldError :=
  requireNotBlank "knowledge base source-object write guard fields must not be empty"

def sha256Ref : (field value : String) → List FieldError :=
  requireFullmatch isSha256Ref
    "knowledge base source-object write guard hashes must be sha256 references"

def validateBlockingReasons (value : List String) : List FieldError :=
  if ¬ value.Nodup then [⟨"blocking_reasons", .message "blocking_reasons must be unique"⟩]
  else if ∃ reason ∈ value, Text.strip reason = "" then
    [⟨"blocking_reasons", .message "blocking_reasons must not contain empty values"⟩]
  else []

def errors (decision : KnowledgeBaseSourceObjectWriteGuardDecision) : List FieldError :=
  notBlank "tenant_id" decision.tenantId ++
    requireFullmatch isKbRef "source_object_write_guard_ref must be namespaced"
      "source_object_write_guard_ref" decision.sourceObjectWriteGuardRef ++
    validateBlockingReasons decision.blockingReasons ++
    sha256Ref "write_approval_evidence_hash" decision.writeApprovalEvidenceHash ++
    notBlank "article_object_id" decision.articleObjectId ++
    notBlank "proposed_source_object_id" decision.proposedSourceObjectId ++
    notBlank "proposed_source_version_id" decision.proposedSourceVersionId ++
    sha256Ref "proposed_source_version_evidence_hash"
      decision.proposedSourceVersionEvidenceHash ++
    sha256Ref "current_restore_evidence_hash" decision.currentRestoreEvidenceHash

/-- `require_decision_alignment`. -/
def requireDecisionAlignment (decision : KnowledgeBaseSourceObjectWriteGuardDecision) :
    Except Exn Unit := do
  requireModel "KnowledgeBaseSourceObjectWriteGuardDecision"
    (¬ (decision.allowed = true ∧ decision.blockingReasons ≠ []))
    "allowed source-object writes must not carry blocking reasons"
  requireModel "KnowledgeBaseSourceObjectWriteGuardDecision"
    (¬ (decision.allowed = false ∧ decision.blockingReasons = []))
    "blocked source-object writes require blocking reasons"
  requireModel "KnowledgeBaseSourceObjectWriteGuardDecision"
    (¬ (decision.allowed = false ∧ decision.persistenceAllowed = true))
    "blocked source-object writes cannot allow persistence"
  requireModel "KnowledgeBaseSourceObjectWriteGuardDecision"
    (¬ (decision.allowed = false ∧ decision.ragIndexingAllowed = true))
    "blocked source-object writes cannot allow RAG indexing"
  requireModel "KnowledgeBaseSourceObjectWriteGuardDecision"
    (¬ (decision.sourceAuthorityVerified = true ∧ decision.allowed = false))
    "source authority is verified only for allowed write decisions"

def validate (decision : KnowledgeBaseSourceObjectWriteGuardDecision) :
    Except Exn KnowledgeBaseSourceObjectWriteGuardDecision := do
  let decision ← accept "KnowledgeBaseSourceObjectWriteGuardDecision" decision.errors decision
  decision.requireDecisionAlignment
  return decision

/-- All fields but the reference, as JSON members. -/
def payloadMembers (decision : KnowledgeBaseSourceObjectWriteGuardDecision) :
    List (String × Json) :=
  [("tenant_id", .str decision.tenantId),
    ("allowed", .bool decision.allowed),
    ("blocking_reasons", .arr (decision.blockingReasons.map .str)),
    ("write_approval_evidence_hash", .str decision.writeApprovalEvidenceHash),
    ("approval_state", .str decision.approvalState.value),
    ("operation", .str decision.operation.value),
    ("article_object_id", .str decision.articleObjectId),
    ("expected_current_version_object_id",
      optionalText decision.expectedCurrentVersionObjectId),
    ("proposed_source_object_id", .str decision.proposedSourceObjectId),
    ("proposed_source_version_id", .str decision.proposedSourceVersionId),
    ("proposed_source_version_evidence_hash", .str decision.proposedSourceVersionEvidenceHash),
    ("current_restore_evidence_hash", .str decision.currentRestoreEvidenceHash),
    ("persistence_allowed", .bool decision.persistenceAllowed),
    ("rag_indexing_allowed", .bool decision.ragIndexingAllowed),
    ("source_authority_verified", .bool decision.sourceAuthorityVerified),
    ("required_evidence", .arr (decision.requiredEvidence.map .str)),
    ("schema_version", .str decision.schemaVersion)]

def payload (decision : KnowledgeBaseSourceObjectWriteGuardDecision) : Json :=
  .obj decision.payloadMembers

/-- `model_dump(mode="json")`. -/
def dump (decision : KnowledgeBaseSourceObjectWriteGuardDecision) : Json :=
  .obj (("source_object_write_guard_ref", .str decision.sourceObjectWriteGuardRef) ::
    decision.payloadMembers)

end KnowledgeBaseSourceObjectWriteGuardDecision

def buildSourceObjectWriteGuardRef (decision : KnowledgeBaseSourceObjectWriteGuardDecision) :
    String :=
  "guard:" ++ hashJson H decision.payload

namespace KnowledgeBaseSourceObjectWriteGuard

/-- `_evaluate_expected_version`. -/
def expectedVersionReasons (tenantId : String) (evidence : KnowledgeBaseWriteApprovalEvidence) :
    Option KnowledgeBaseArticleRecord → List String
  | none => mismatch (evidence.operation = .create) "current_article_missing"
  | some currentArticle =>
    if evidence.operation = .create then ["create_target_already_exists"]
    else
      mismatch (currentArticle.tenantId = tenantId) "current_article_tenant_mismatch" ++
        mismatch (currentArticle.objectId = evidence.articleObjectId)
          "current_article_object_mismatch" ++
        mismatch (some currentArticle.currentVersionObjectId =
          evidence.expectedCurrentVersionObjectId) "expected_current_version_mismatch" ++
        mismatch (currentArticle.legalHoldState ≠ "active") "current_article_legal_hold_active" ++
        mismatch (currentArticle.retentionPolicyId = "rp-standard")
          "current_article_retention_policy_unsupported"

/-- The storage guard's denial as a reason; its other exceptions pass through. -/
def metadataGuardReasons (record : SourceObjectRecord) : Except Exn (List String) :=
  match SourceObjectWriteGuard.validateBeforeWrite H record with
  | .ok () => .ok []
  | .error (.sourceObjectWriteDenied text) =>
    .ok ["source_object_metadata_guard_failed:" ++ text]
  | .error exn => .error exn

theorem metadataGuardReasons_eq_nil {H : HashFunctions} {record : SourceObjectRecord} :
    metadataGuardReasons H record = .ok [] ↔
      SourceObjectWriteGuard.validateBeforeWrite H record = .ok () := by
  unfold metadataGuardReasons
  constructor
  · intro h
    split at h
    · assumption
    · cases h
    · cases h
  · intro h
    rw [h]

/-- The field comparisons of `_evaluate_proposed_source`. -/
def proposedSourceReasons (tenantId : String) (evidence : KnowledgeBaseWriteApprovalEvidence)
    (metadata : SourceObjectMetadata) : List String :=
  mismatch (metadata.tenantId = tenantId) "proposed_source_tenant_mismatch" ++
    mismatch (metadata.objectId = evidence.proposedSourceObjectId)
      "proposed_source_object_mismatch" ++
    mismatch (metadata.versionId = evidence.proposedSourceVersionId)
      "proposed_source_version_mismatch" ++
    mismatch (metadata.objectType = evidence.proposedSourceObjectType)
      "proposed_source_object_type_mismatch" ++
    mismatch (metadata.manifestHash = evidence.proposedSourceManifestHash)
      "proposed_source_manifest_hash_mismatch" ++
    mismatch (metadata.contentHash = evidence.proposedContentHash)
      "proposed_source_content_hash_mismatch" ++
    mismatch (metadata.aclVersion = evidence.proposedAclVersion)
      "proposed_source_acl_version_mismatch" ++
    mismatch (¬ (evidence.operation = .create ∧ metadata.sourceSystem ≠ evidence.sourceSystem))
      "proposed_source_system_mismatch" ++
    mismatch (metadata.classification = .internal)
      "proposed_source_classification_not_internal" ++
    mismatch (metadata.retentionPolicyId = "rp-standard")
      "proposed_source_retention_policy_unsupported" ++
    mismatch (metadata.legalHoldState ≠ .active) "proposed_source_legal_hold_active"

/-- `_evaluate_restore_evidence`. -/
def restoreEvidenceReasons (tenantId : String) (evidence : KnowledgeBaseWriteApprovalEvidence)
    (restore : KnowledgeBaseRestoreEvidence) : List String :=
  mismatch (restore.tenantId = tenantId) "current_restore_evidence_tenant_mismatch" ++
    mismatch (restore.evidenceHash = evidence.currentRestoreEvidenceHash)
      "current_restore_evidence_hash_mismatch" ++
    mismatch (buildRestoreEvidenceHash H restore = restore.evidenceHash)
      "current_restore_evidence_hash_invalid" ++
    mismatch (restore.legalHoldRestoreVerified = true) "legal_hold_restore_not_verified" ++
    mismatch (restore.disabledStateRestoreVerified = true)
      "disabled_state_restore_not_verified" ++
    mismatch (restore.tenantIsolationVerified = true) "tenant_isolation_restore_not_verified"

/-- The reasons that concern the ledger's evidence itself. -/
def evidenceReasons (evidence : KnowledgeBaseWriteApprovalEvidence) : List String :=
  mismatch (buildWriteApprovalEvidenceHash H evidence = evidence.evidenceHash)
      "write_approval_evidence_hash_invalid" ++
    mismatch (evidence.approvalState = .approvedForWrite)
      "approval_state_not_approved_for_write" ++
    mismatch (evidence.persistenceAllowed = true) "persistence_not_allowed_by_approval_evidence"

/-- The draft of a decision with these reasons. -/
def decisionDraft (tenantId : String) (evidence : KnowledgeBaseWriteApprovalEvidence)
    (blockingReasons : List String) : KnowledgeBaseSourceObjectWriteGuardDecision where
  tenantId := tenantId
  allowed := blockingReasons.isEmpty
  blockingReasons := blockingReasons
  writeApprovalEvidenceHash := evidence.evidenceHash
  approvalState := evidence.approvalState
  operation := evidence.operation
  articleObjectId := evidence.articleObjectId
  expectedCurrentVersionObjectId := evidence.expectedCurrentVersionObjectId
  proposedSourceObjectId := evidence.proposedSourceObjectId
  proposedSourceVersionId := evidence.proposedSourceVersionId
  proposedSourceVersionEvidenceHash := evidence.proposedSourceVersionEvidenceHash
  currentRestoreEvidenceHash := evidence.currentRestoreEvidenceHash
  persistenceAllowed := blockingReasons.isEmpty && evidence.persistenceAllowed
  ragIndexingAllowed := blockingReasons.isEmpty && evidence.ragIndexingAllowed
  sourceAuthorityVerified := blockingReasons.isEmpty

/-- All reasons against the proposed source. -/
def blockingReasons (tenantId : String) (evidence : KnowledgeBaseWriteApprovalEvidence)
    (currentArticle : Option KnowledgeBaseArticleRecord) (proposedSourceRecord : SourceObjectRecord)
    (restore : KnowledgeBaseRestoreEvidence) : Except Exn (List String) := do
  let guardReasons ← metadataGuardReasons H proposedSourceRecord
  let proposedSourceEvidence ← buildSourceVersionEvidenceForSourceRecord H tenantId
    evidence.articleObjectId evidence.proposedVersionObjectId proposedSourceRecord
  return evidenceReasons H evidence ++ expectedVersionReasons tenantId evidence currentArticle ++
    guardReasons ++ proposedSourceReasons tenantId evidence proposedSourceRecord.metadata ++
    mismatch (proposedSourceEvidence.evidenceHash = evidence.proposedSourceVersionEvidenceHash)
      "proposed_source_version_evidence_hash_mismatch" ++
    restoreEvidenceReasons H tenantId evidence restore

/-- `evaluate`, once the evidence has been read from the ledger. -/
def decide (tenantId : String) (evidence : KnowledgeBaseWriteApprovalEvidence)
    (currentArticle : Option KnowledgeBaseArticleRecord) (proposedSourceRecord : SourceObjectRecord)
    (restore : KnowledgeBaseRestoreEvidence) :
    Except Exn KnowledgeBaseSourceObjectWriteGuardDecision := do
  let reasons ← blockingReasons H tenantId evidence currentArticle proposedSourceRecord restore
  let draft ← (decisionDraft tenantId evidence reasons).validate
  return { draft with sourceObjectWriteGuardRef := buildSourceObjectWriteGuardRef H draft }

end KnowledgeBaseSourceObjectWriteGuard

end Collabio
