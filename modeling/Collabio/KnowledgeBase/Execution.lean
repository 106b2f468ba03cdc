import Mathlib.Tactic
import Collabio.KnowledgeBase.WriteGuard

/-!
# What an execution is asked for, checks and returns

* `KnowledgeBaseWriteExecutionCommand`         — carries that it was accepted;
* `buildProjectedSourceVersionEvidenceHashes`  — the evidence hashes after the write;
* `buildKnowledgeBaseRestoreEvidencePreviewHash`, `buildWriteExecutionPlanHash` — what
  the command must name;
* `KnowledgeBaseWriteExecutionResponse`        — checked once more before it is returned.
-/

namespace Collabio

variable (H : HashFunctions)

/-! ## The command -/

structure KnowledgeBaseWriteExecutionCommandFields where
  approvedWriteApprovalEvidenceHash   : String
  sourceObjectWriteGuardDecision      : KnowledgeBaseSourceObjectWriteGuardDecision
  refreshPreviewCommandHash           : String
  projectedRestoreEvidencePreviewHash : String
  executionSkeletonCommandHash        : String
  executionPlanHash                   : String
  executionReference                  : String
  humanConfirmationReference          : String
  proposedSourceRecord                : SourceObjectRecord
  reason                              : String
  deriving DecidableEq, Repr

namespace KnowledgeBaseWriteExecutionCommandFields

def sha256Ref : (field value : String) → List FieldError :=
  requireFullmatch isSha256Ref "knowledge base write execution hashes must be sha256 references"

def namespacedRef : (field value : String) → List FieldError :=
  requireFullmatch isKbRef "knowledge base write execution references must be namespaced"

def errors (command : KnowledgeBaseWriteExecutionCommandFields) : List FieldError :=
  sha256Ref "approved_write_approval_evidence_hash" command.approvedWriteApprovalEvidenceHash ++
    sha256Ref "refresh_preview_command_hash" command.refreshPreviewCommandHash ++
    sha256Ref "projected_restore_evidence_preview_hash"
      command.projectedRestoreEvidencePreviewHash ++
    sha256Ref "execution_skeleton_command_hash" command.executionSkeletonCommandHash ++
    sha256Ref "execution_plan_hash" command.executionPlanHash ++
    namespacedRef "execution_reference" command.executionReference ++
    namespacedRef "human_confirmation_reference" command.humanConfirmationReference ++
    requireCommandReason command.reason

/-- `build_write_execution_audit_payload`: of the record, the metadata only. -/
def auditPayload (command : KnowledgeBaseWriteExecutionCommandFields) : Json :=
  .obj [
    ("approved_write_approval_evidence_hash", .str command.approvedWriteApprovalEvidenceHash),
    ("source_object_write_guard_decision", command.sourceObjectWriteGuardDecision.dump),
    ("refresh_preview_command_hash", .str command.refreshPreviewCommandHash),
    ("projected_restore_evidence_preview_hash",
      .str command.projectedRestoreEvidencePreviewHash),
    ("execution_skeleton_command_hash", .str command.executionSkeletonCommandHash),
    ("execution_plan_hash", .str command.executionPlanHash),
    ("execution_reference", .str command.executionReference),
    ("human_confirmation_reference", .str command.humanConfirmationReference),
    ("reason", .str command.reason),
    ("proposed_source_record", .obj [("metadata",
      match command.proposedSourceRecord.metadata.payload with
      | .obj members =>
        .obj (("manifest_hash", .str command.proposedSourceRecord.metadata.manifestHash) :: members)
      | other => other)])]

end KnowledgeBaseWriteExecutionCommandFields

/-- The record's hash may have been set on a checked draft. -/
structure KnowledgeBaseWriteExecutionCommand extends KnowledgeBaseWriteExecutionCommandFields where
  accepted       : toKnowledgeBaseWriteExecutionCommandFields.errors = []
  recordDraft    : proposedSourceRecord.metadata.unhashed.validate =
                     .ok proposedSourceRecord.metadata.unhashed
  recordAccepted : proposedSourceRecord.validate = .ok proposedSourceRecord

def buildWriteExecutionCommandHash (command : KnowledgeBaseWriteExecutionCommand) : String :=
  hashJson H command.auditPayload

/-! ## The projection -/

/-- The evidence hashes by article; of two evidences of one article the later stays. -/
def evidenceHashByArticle (sourceEvidences : List KnowledgeBaseSourceVersionEvidence) :
    Dict String String :=
  (sourceEvidences.insertionSort ByArticle).foldl
    (fun hashes evidence => hashes.set evidence.articleObjectId evidence.evidenceHash) ∅

def requireUniqueProjection (hashes : List String) : Except Exn (List String) := do
  require hashes.Nodup
    (.valueError (.message "projected source version evidence hashes must be unique"))
  return hashes

def buildProjectedSourceVersionEvidenceHashes
    (approvedEvidence : KnowledgeBaseWriteApprovalEvidence)
    (currentSourceEvidences : List KnowledgeBaseSourceVersionEvidence) :
    Except Exn (List String) := do
  let currentByArticle := evidenceHashByArticle currentSourceEvidences
  match approvedEvidence.operation with
  | .edit =>
    require (currentByArticle.contains approvedEvidence.articleObjectId = true)
      (.lookupError ("knowledge base article not found: " ++ approvedEvidence.articleObjectId))
    requireUniqueProjection ((currentByArticle.set approvedEvidence.articleObjectId
      approvedEvidence.proposedSourceVersionEvidenceHash).values.insertionSort (· ≤ ·))
  | .create =>
    require (currentByArticle.contains approvedEvidence.articleObjectId = false)
      (.valueError (.message
        "create refresh preview cannot target an existing knowledge base article"))
    requireUniqueProjection ((currentByArticle.values ++
      [approvedEvidence.proposedSourceVersionEvidenceHash]).insertionSort (· ≤ ·))

/-- `KB_WRITE_REFRESH_PREVIEW_REQUIRED_EVIDENCE`. -/
def refreshPreviewRequiredEvidence : List String := [
  "approved_write_approval_ledger_entry", "expected_current_version_match",
  "current_restore_evidence_hash", "projected_source_version_evidence_hashes",
  "projected_restore_evidence_preview_hash",
  "source_object_write_guard_still_required_before_persistence", "audit_event_hash"]

/-- `KB_WRITE_EXECUTION_SKELETON_REQUIRED_EVIDENCE`. -/
def executionSkeletonRequiredEvidence : List String := [
  "approved_write_approval_ledger_entry", "source_object_write_guard_decision",
  "source_object_write_guard_ref", "restore_evidence_refresh_preview_hash",
  "explicit_human_confirmation_reference", "write_execution_adapter_not_enabled",
  "post_write_source_restore_evidence_refresh_required", "audit_event_hash"]

/-- The counts before a write are those of the records, after it one more if it creates. -/
def buildKnowledgeBaseRestoreEvidencePreviewHash (tenantId : String)
    (approvedEvidence : KnowledgeBaseWriteApprovalEvidence) (previewCommandHash : String)
    (currentHashes projectedHashes : List String) (recordCount evidenceCount countDelta : Nat) :
    String :=
  hashJson H (.obj [
    ("schema_version", .str "knowledge_base_restore_evidence_refresh_preview.v1"),
    ("tenant_id", .str tenantId),
    ("module_id", .str knowledgeBaseModuleId),
    ("feature_id", .str kbArticlesWriteFeatureId),
    ("approved_write_approval_evidence_hash", .str approvedEvidence.evidenceHash),
    ("transition_source_evidence_hash",
      optionalText approvedEvidence.transitionSourceEvidenceHash),
    ("operation", .str approvedEvidence.operation.value),
    ("article_object_id", .str approvedEvidence.articleObjectId),
    ("expected_current_version_object_id",
      optionalText approvedEvidence.expectedCurrentVersionObjectId),
    ("proposed_version_object_id", .str approvedEvidence.proposedVersionObjectId),
    ("proposed_source_object_id", .str approvedEvidence.proposedSourceObjectId),
    ("proposed_source_version_id", .str approvedEvidence.proposedSourceVersionId),
    ("command_hash", .str approvedEvidence.commandHash),
    ("preview_command_hash", .str previewCommandHash),
    ("proposed_source_version_evidence_hash",
      .str approvedEvidence.proposedSourceVersionEvidenceHash),
    ("current_restore_evidence_hash", .str approvedEvidence.currentRestoreEvidenceHash),
    ("current_source_version_evidence_hashes", .arr (currentHashes.map .str)),
    ("projected_source_version_evidence_hashes", .arr (projectedHashes.map .str)),
    ("article_count_before", .int recordCount),
    ("article_count_after", .int (recordCount + countDelta)),
    ("article_version_count_before", .int recordCount),
    ("article_version_count_after", .int (recordCount + countDelta)),
    ("source_version_evidence_count_before", .int evidenceCount),
    ("source_version_evidence_count_after", .int (evidenceCount + countDelta)),
    ("preview_only", .bool true),
    ("article_source_writes_allowed", .bool false),
    ("evidence_persistence_allowed", .bool false),
    ("rag_indexing_allowed", .bool false),
    ("source_authority_verified", .bool false),
    ("required_evidence", .arr (refreshPreviewRequiredEvidence.map .str))])

def buildWriteExecutionPlanHash (tenantId : String)
    (approvedEvidence : KnowledgeBaseWriteApprovalEvidence)
    (command : KnowledgeBaseWriteExecutionCommandFields) (executionCommandHash : String) : String :=
  hashJson H (.obj [
    ("schema_version", .str "knowledge_base_write_execution_plan.v1"),
    ("tenant_id", .str tenantId),
    ("module_id", .str knowledgeBaseModuleId),
    ("feature_id", .str kbArticlesWriteFeatureId),
    ("execution_reference", .str command.executionReference),
    ("human_confirmation_reference", .str command.humanConfirmationReference),
    ("approved_write_approval_evidence_hash", .str approvedEvidence.evidenceHash),
    ("transition_source_evidence_hash",
      optionalText approvedEvidence.transitionSourceEvidenceHash),
    ("source_object_write_guard_ref",
      .str command.sourceObjectWriteGuardDecision.sourceObjectWriteGuardRef),
    ("refresh_preview_command_hash", .str command.refreshPreviewCommandHash),
    ("projected_restore_evidence_preview_hash",
      .str command.projectedRestoreEvidencePreviewHash),
    ("operation", .str approvedEvidence.operation.value),
    ("article_object_id", .str approvedEvidence.articleObjectId),
    ("expected_current_version_object_id",
      optionalText approvedEvidence.expectedCurrentVersionObjectId),
    ("proposed_version_object_id", .str approvedEvidence.proposedVersionObjectId),
    ("proposed_source_object_id", .str approvedEvidence.proposedSourceObjectId),
    ("proposed_source_version_id", .str approvedEvidence.proposedSourceVersionId),
    ("command_hash", .str approvedEvidence.commandHash),
    ("execution_command_hash", .str executionCommandHash),
    ("proposed_source_version_evidence_hash",
      .str approvedEvidence.proposedSourceVersionEvidenceHash),
    ("current_restore_evidence_hash", .str approvedEvidence.currentRestoreEvidenceHash),
    ("preconditions_verified", .bool true),
    ("source_object_write_guard_verified", .bool true),
    ("human_confirmation_verified", .bool true),
    ("source_authority_verified", .bool true),
    ("execution_allowed", .bool false),
    ("article_source_writes_allowed", .bool false),
    ("article_metadata_persistence_allowed", .bool false),
    ("source_object_persistence_allowed", .bool false),
    ("evidence_persistence_allowed", .bool false),
    ("rag_indexing_allowed", .bool false),
    ("blocking_reasons", .arr [.str "write_execution_adapter_not_enabled",
      .str "post_write_source_restore_evidence_refresh_not_connected"]),
    ("required_evidence", .arr (executionSkeletonRequiredEvidence.map .str))])

/-! ## The response -/

structure KnowledgeBaseWriteExecutionResponse where
  tenantId                            : String
  executionReference                  : String
  humanConfirmationReference          : String
  approvedWriteApprovalEvidenceHash   : String
  transitionSourceEvidenceHash        : String
  sourceObjectWriteGuardRef           : String
  sourceObjectWriteReceiptHash        : String
  refreshPreviewCommandHash           : String
  projectedRestoreEvidencePreviewHash : String
  executionSkeletonCommandHash        : String
  executionPlanHash                   : String
  executionCommandHash                : String
  operation                           : KnowledgeBaseWriteOperation
  articleObjectId                     : String
  previousVersionObjectId             : Option String := none
  currentVersionObjectId              : String
  currentSourceObjectId               : String
  currentSourceVersionId              : String
  proposedSourceVersionEvidenceHash   : String
  refreshedSourceVersionEvidenceHash  : String
  previousRestoreEvidenceHash         : String
  refreshedRestoreEvidenceHash        : String
  sourceVersionEvidenceHashesAfter    : List String
  articleCountAfter                   : Nat
  articleVersionCountAfter            : Nat
  sourceVersionEvidenceCountAfter     : Nat
  auditEventId                        : String
  deriving DecidableEq, Repr

namespace KnowledgeBaseWriteExecutionResponse

def notBlank : (field value : String) → List FieldError :=
  requireNotBlank "knowledge base write execution response fields must not be empty"

def namespacedRef : (field value : String) → List FieldError :=
  requireFullmatch isKbRef "knowledge base write execution references must be namespaced"

def sha256Ref : (field value : String) → List FieldError :=
  requireFullmatch isSha256Ref
    "knowledge base write execution response hashes must be sha256 references"

def validateSourceHashes (value : List String) : List FieldError :=
  if ¬ value.Nodup then
    [⟨"source_version_evidence_hashes_after",
      .message "source version evidence hashes must be unique"⟩]
  else if ¬ value.all isSha256Ref = true then
    [⟨"source_version_evidence_hashes_after",
      .message "source version evidence hashes must be sha256 references"⟩]
  else []

def errors (response : KnowledgeBaseWriteExecutionResponse) : List FieldError :=
  notBlank "tenant_id" response.tenantId ++
    namespacedRef "execution_reference" response.executionReference ++
    namespacedRef "human_confirmation_reference" response.humanConfirmationReference ++
    sha256Ref "approved_write_approval_evidence_hash"
      response.approvedWriteApprovalEvidenceHash ++
    sha256Ref "transition_source_evidence_hash" response.transitionSourceEvidenceHash ++
    namespacedRef "source_object_write_guard_ref" response.sourceObjectWriteGuardRef ++
    sha256Ref "source_object_write_receipt_hash" response.sourceObjectWriteReceiptHash ++
    sha256Ref "refresh_preview_command_hash" response.refreshPreviewCommandHash ++
    sha256Ref "projected_restore_evidence_preview_hash"
      response.projectedRestoreEvidencePreviewHash ++
    sha256Ref "execution_skeleton_command_hash" response.executionSkeletonCommandHash ++
    sha256Ref "execution_plan_hash" response.executionPlanHash ++
    sha256Ref "execution_command_hash" response.executionCommandHash ++
    notBlank "article_object_id" response.articleObjectId ++
    notBlank "current_version_object_id" response.currentVersionObjectId ++
    notBlank "current_source_object_id" response.currentSourceObjectId ++
    notBlank "current_source_version_id" response.currentSourceVersionId ++
    sha256Ref "proposed_source_version_evidence_hash"
      response.proposedSourceVersionEvidenceHash ++
    sha256Ref "refreshed_source_version_evidence_hash"
      response.refreshedSourceVersionEvidenceHash ++
    sha256Ref "previous_restore_evidence_hash" response.previousRestoreEvidenceHash ++
    sha256Ref "refreshed_restore_evidence_hash" response.refreshedRestoreEvidenceHash ++
    validateSourceHashes response.sourceVersionEvidenceHashesAfter ++
    notBlank "audit_event_id" response.auditEventId

/-- `require_execution_commit_contract`; its flags keep their defaults. -/
def requireExecutionCommitContract (response : KnowledgeBaseWriteExecutionResponse) :
    Except Exn Unit := do
  requireModel "KnowledgeBaseWriteExecutionResponse"
    (response.refreshedSourceVersionEvidenceHash = response.proposedSourceVersionEvidenceHash)
    "refreshed source-version evidence must match approved proposed evidence"
  requireModel "KnowledgeBaseWriteExecutionResponse"
    (response.sourceVersionEvidenceHashesAfter.length = response.sourceVersionEvidenceCountAfter)
    "source_version_evidence_hashes_after must match source evidence count"

def validate (response : KnowledgeBaseWriteExecutionResponse) :
    Except Exn KnowledgeBaseWriteExecutionResponse := do
  let response ← accept "KnowledgeBaseWriteExecutionResponse" response.errors response
  response.requireExecutionCommitContract
  return response

end KnowledgeBaseWriteExecutionResponse

end Collabio
