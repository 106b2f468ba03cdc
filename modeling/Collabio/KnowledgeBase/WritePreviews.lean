import Mathlib.Tactic
import Collabio.KnowledgeBase.ExecuteWrite

/-!
# What is asked between an approval and its execution

* `evaluateSourceObjectWriteGuard` — whether a record may be written for an approval;
* `previewWriteEvidenceRefresh`    — the evidence hashes that its write would leave;
* `prepareWriteExecutionSkeleton`  — the plan of its execution, for a human to confirm.

None of the three writes: the last two leave an audit event, and what they answer is
named by the command of `executeWrite`.
-/

namespace Collabio

variable (H : HashFunctions)

/-! ## The preview's command -/

structure KnowledgeBaseEvidenceRefreshPreviewCommandFields where
  approvedWriteApprovalEvidenceHash : String
  previewReference                  : String
  reason                            : String
  deriving DecidableEq, Repr

namespace KnowledgeBaseEvidenceRefreshPreviewCommandFields

def errors (command : KnowledgeBaseEvidenceRefreshPreviewCommandFields) : List FieldError :=
  requireFullmatch isSha256Ref "approved_write_approval_evidence_hash must be a sha256 reference"
      "approved_write_approval_evidence_hash" command.approvedWriteApprovalEvidenceHash ++
    requireFullmatch isKbRef "preview_reference must be a namespaced reference"
      "preview_reference" command.previewReference ++
    requireCommandReason command.reason

/-- `model_dump(mode="json")`. -/
def dump (command : KnowledgeBaseEvidenceRefreshPreviewCommandFields) : Json :=
  .obj [
    ("approved_write_approval_evidence_hash", .str command.approvedWriteApprovalEvidenceHash),
    ("preview_reference", .str command.previewReference),
    ("reason", .str command.reason)]

end KnowledgeBaseEvidenceRefreshPreviewCommandFields

structure KnowledgeBaseEvidenceRefreshPreviewCommand extends
    KnowledgeBaseEvidenceRefreshPreviewCommandFields where
  accepted : toKnowledgeBaseEvidenceRefreshPreviewCommandFields.errors = []

def buildEvidenceRefreshPreviewCommandHash
    (command : KnowledgeBaseEvidenceRefreshPreviewCommand) : String :=
  hashJson H command.dump

/-! ## Its response -/

structure KnowledgeBaseEvidenceRefreshPreviewResponse where
  tenantId                             : String
  approvedWriteApprovalEvidenceHash    : String
  transitionSourceEvidenceHash         : String
  operation                            : KnowledgeBaseWriteOperation
  articleObjectId                      : String
  expectedCurrentVersionObjectId       : Option String := none
  proposedVersionObjectId              : String
  proposedSourceObjectId               : String
  proposedSourceVersionId              : String
  commandHash                          : String
  previewCommandHash                   : String
  proposedSourceVersionEvidenceHash    : String
  currentSourceVersionEvidenceHashes   : List String
  projectedSourceVersionEvidenceHashes : List String
  currentRestoreEvidenceHash           : String
  projectedRestoreEvidencePreviewHash  : String
  articleCountBefore                   : Nat
  articleCountAfter                    : Nat
  articleVersionCountBefore            : Nat
  articleVersionCountAfter             : Nat
  sourceVersionEvidenceCountBefore     : Nat
  sourceVersionEvidenceCountAfter      : Nat
  auditEventId                         : String
  deriving DecidableEq, Repr

namespace KnowledgeBaseEvidenceRefreshPreviewResponse

def notBlank : (field value : String) → List FieldError :=
  requireNotBlank "knowledge base refresh preview fields must not be empty"

def sha256Ref : (field value : String) → List FieldError :=
  requireFullmatch isSha256Ref "knowledge base refresh preview hashes must be sha256 references"

def validateSourceHashes (field : String) (value : List String) : List FieldError :=
  if ¬ value.Nodup then
    [⟨field, .message "source version evidence hashes must be unique"⟩]
  else if ¬ value.all isSha256Ref = true then
    [⟨field, .message "source version evidence hashes must be sha256 references"⟩]
  else []

def errors (response : KnowledgeBaseEvidenceRefreshPreviewResponse) : List FieldError :=
  notBlank "tenant_id" response.tenantId ++
    sha256Ref "approved_write_approval_evidence_hash"
      response.approvedWriteApprovalEvidenceHash ++
    sha256Ref "transition_source_evidence_hash" response.transitionSourceEvidenceHash ++
    notBlank "article_object_id" response.articleObjectId ++
    notBlank "proposed_version_object_id" response.proposedVersionObjectId ++
    notBlank "proposed_source_object_id" response.proposedSourceObjectId ++
    notBlank "proposed_source_version_id" response.proposedSourceVersionId ++
    sha256Ref "command_hash" response.commandHash ++
    sha256Ref "preview_command_hash" response.previewCommandHash ++
    sha256Ref "proposed_source_version_evidence_hash"
      response.proposedSourceVersionEvidenceHash ++
    validateSourceHashes "current_source_version_evidence_hashes"
      response.currentSourceVersionEvidenceHashes ++
    validateSourceHashes "projected_source_version_evidence_hashes"
      response.projectedSourceVersionEvidenceHashes ++
    sha256Ref "current_restore_evidence_hash" response.currentRestoreEvidenceHash ++
    sha256Ref "projected_restore_evidence_preview_hash"
      response.projectedRestoreEvidencePreviewHash ++
    notBlank "audit_event_id" response.auditEventId

def requireContract (condition : Prop) [Decidable condition] (text : String) : Except Exn Unit :=
  requireModel "KnowledgeBaseEvidenceRefreshPreviewResponse" condition text

/-- `require_metadata_only_preview`; its flags keep their defaults. -/
def requireMetadataOnlyPreview (response : KnowledgeBaseEvidenceRefreshPreviewResponse) :
    Except Exn Unit := do
  match response.operation with
  | .edit =>
    requireContract (response.articleCountAfter = response.articleCountBefore)
      "edit refresh preview must not change article count"
    requireContract (response.articleVersionCountAfter = response.articleVersionCountBefore)
      "edit refresh preview must not change article version count in preview"
    requireContract
      (response.sourceVersionEvidenceCountAfter = response.sourceVersionEvidenceCountBefore)
      "edit refresh preview must not change source evidence count"
  | .create =>
    requireContract (response.articleCountAfter = response.articleCountBefore + 1)
      "create refresh preview must project one additional article"
    requireContract (response.articleVersionCountAfter = response.articleVersionCountBefore + 1)
      "create refresh preview must project one additional article version"
    requireContract
      (response.sourceVersionEvidenceCountAfter = response.sourceVersionEvidenceCountBefore + 1)
      "create refresh preview must project one additional source evidence"
  requireContract (response.currentSourceVersionEvidenceHashes.length =
      response.sourceVersionEvidenceCountBefore)
    "current source evidence hashes must match before count"
  requireContract (response.projectedSourceVersionEvidenceHashes.length =
      response.sourceVersionEvidenceCountAfter)
    "projected source evidence hashes must match after count"

def validate (response : KnowledgeBaseEvidenceRefreshPreviewResponse) :
    Except Exn KnowledgeBaseEvidenceRefreshPreviewResponse := do
  let response ← accept "KnowledgeBaseEvidenceRefreshPreviewResponse" response.errors response
  response.requireMetadataOnlyPreview
  return response

end KnowledgeBaseEvidenceRefreshPreviewResponse

/-! ## The skeleton's command -/

structure KnowledgeBaseWriteExecutionSkeletonCommandFields where
  approvedWriteApprovalEvidenceHash   : String
  sourceObjectWriteGuardDecision      : KnowledgeBaseSourceObjectWriteGuardDecision
  refreshPreviewCommandHash           : String
  projectedRestoreEvidencePreviewHash : String
  executionReference                  : String
  humanConfirmationReference          : String
  reason                              : String
  deriving DecidableEq, Repr

namespace KnowledgeBaseWriteExecutionSkeletonCommandFields

def sha256Ref : (field value : String) → List FieldError :=
  requireFullmatch isSha256Ref "knowledge base write execution hashes must be sha256 references"

def namespacedRef : (field value : String) → List FieldError :=
  requireFullmatch isKbRef "knowledge base write execution references must be namespaced"

def errors (command : KnowledgeBaseWriteExecutionSkeletonCommandFields) : List FieldError :=
  sha256Ref "approved_write_approval_evidence_hash" command.approvedWriteApprovalEvidenceHash ++
    sha256Ref "refresh_preview_command_hash" command.refreshPreviewCommandHash ++
    sha256Ref "projected_restore_evidence_preview_hash"
      command.projectedRestoreEvidencePreviewHash ++
    namespacedRef "execution_reference" command.executionReference ++
    namespacedRef "human_confirmation_reference" command.humanConfirmationReference ++
    requireCommandReason command.reason

/-- `model_dump(mode="json")`. -/
def dump (command : KnowledgeBaseWriteExecutionSkeletonCommandFields) : Json :=
  .obj [
    ("approved_write_approval_evidence_hash", .str command.approvedWriteApprovalEvidenceHash),
    ("source_object_write_guard_decision", command.sourceObjectWriteGuardDecision.dump),
    ("refresh_preview_command_hash", .str command.refreshPreviewCommandHash),
    ("projected_restore_evidence_preview_hash",
      .str command.projectedRestoreEvidencePreviewHash),
    ("execution_reference", .str command.executionReference),
    ("human_confirmation_reference", .str command.humanConfirmationReference),
    ("reason", .str command.reason)]

end KnowledgeBaseWriteExecutionSkeletonCommandFields

structure KnowledgeBaseWriteExecutionSkeletonCommand extends
    KnowledgeBaseWriteExecutionSkeletonCommandFields where
  accepted : toKnowledgeBaseWriteExecutionSkeletonCommandFields.errors = []

def buildWriteExecutionSkeletonCommandHash
    (command : KnowledgeBaseWriteExecutionSkeletonCommandFields) : String :=
  hashJson H command.dump

/-! ## The plan -/

/-- What a plan says besides its approval; of the command, only what a skeleton and an
execution both have. -/
structure ExecutionPlan where
  tenantId                            : String
  approvedEvidence                    : KnowledgeBaseWriteApprovalEvidence
  executionReference                  : String
  humanConfirmationReference          : String
  sourceObjectWriteGuardRef           : String
  refreshPreviewCommandHash           : String
  projectedRestoreEvidencePreviewHash : String
  executionCommandHash                : String

/-- What `build_write_execution_plan_hash` hashes. -/
def ExecutionPlan.members (plan : ExecutionPlan) : List (String × Json) := [
  ("schema_version", .str "knowledge_base_write_execution_plan.v1"),
  ("tenant_id", .str plan.tenantId),
  ("module_id", .str knowledgeBaseModuleId),
  ("feature_id", .str kbArticlesWriteFeatureId),
  ("execution_reference", .str plan.executionReference),
  ("human_confirmation_reference", .str plan.humanConfirmationReference),
  ("approved_write_approval_evidence_hash", .str plan.approvedEvidence.evidenceHash),
  ("transition_source_evidence_hash",
    optionalText plan.approvedEvidence.transitionSourceEvidenceHash),
  ("source_object_write_guard_ref", .str plan.sourceObjectWriteGuardRef),
  ("refresh_preview_command_hash", .str plan.refreshPreviewCommandHash),
  ("projected_restore_evidence_preview_hash", .str plan.projectedRestoreEvidencePreviewHash),
  ("operation", .str plan.approvedEvidence.operation.value),
  ("article_object_id", .str plan.approvedEvidence.articleObjectId),
  ("expected_current_version_object_id",
    optionalText plan.approvedEvidence.expectedCurrentVersionObjectId),
  ("proposed_version_object_id", .str plan.approvedEvidence.proposedVersionObjectId),
  ("proposed_source_object_id", .str plan.approvedEvidence.proposedSourceObjectId),
  ("proposed_source_version_id", .str plan.approvedEvidence.proposedSourceVersionId),
  ("command_hash", .str plan.approvedEvidence.commandHash),
  ("execution_command_hash", .str plan.executionCommandHash),
  ("proposed_source_version_evidence_hash",
    .str plan.approvedEvidence.proposedSourceVersionEvidenceHash),
  ("current_restore_evidence_hash", .str plan.approvedEvidence.currentRestoreEvidenceHash),
  ("preconditions_verified", .bool true),
  ("source_object_write_guard_verified", .bool true),
  ("human_confirmation_verified", .bool true),
  ("source_authority_verified", .bool true),
  ("execution_allowed", .bool false),
  ("article_source_writes_allowed", .bool false),
  ("article_metadata_persistence_allowed", .bool false),
  ("source_object_persistence_allowed", .bool false),
  ("evidence_persistence_allowed", .bool false),
  ("rag_indexing_allowed", .bool false),
  ("blocking_reasons", .arr [.str "write_execution_adapter_not_enabled",
    .str "post_write_source_restore_evidence_refresh_not_connected"]),
  ("required_evidence", .arr (executionSkeletonRequiredEvidence.map .str))]

def ExecutionPlan.hash (plan : ExecutionPlan) : String := hashJson H (.obj plan.members)

/-- The plan of a skeleton. -/
def KnowledgeBaseWriteExecutionSkeletonCommandFields.plan
    (command : KnowledgeBaseWriteExecutionSkeletonCommandFields) (tenantId : String)
    (approvedEvidence : KnowledgeBaseWriteApprovalEvidence) (executionCommandHash : String) :
    ExecutionPlan where
  tenantId := tenantId
  approvedEvidence := approvedEvidence
  executionReference := command.executionReference
  humanConfirmationReference := command.humanConfirmationReference
  sourceObjectWriteGuardRef := command.sourceObjectWriteGuardDecision.sourceObjectWriteGuardRef
  refreshPreviewCommandHash := command.refreshPreviewCommandHash
  projectedRestoreEvidencePreviewHash := command.projectedRestoreEvidencePreviewHash
  executionCommandHash := executionCommandHash

/-- The plan of an execution. -/
def KnowledgeBaseWriteExecutionCommandFields.plan
    (command : KnowledgeBaseWriteExecutionCommandFields) (tenantId : String)
    (approvedEvidence : KnowledgeBaseWriteApprovalEvidence) (executionCommandHash : String) :
    ExecutionPlan where
  tenantId := tenantId
  approvedEvidence := approvedEvidence
  executionReference := command.executionReference
  humanConfirmationReference := command.humanConfirmationReference
  sourceObjectWriteGuardRef := command.sourceObjectWriteGuardDecision.sourceObjectWriteGuardRef
  refreshPreviewCommandHash := command.refreshPreviewCommandHash
  projectedRestoreEvidencePreviewHash := command.projectedRestoreEvidencePreviewHash
  executionCommandHash := executionCommandHash

/-! ## The skeleton's response -/

structure KnowledgeBaseWriteExecutionSkeletonResponse where
  tenantId                            : String
  executionReference                  : String
  humanConfirmationReference          : String
  approvedWriteApprovalEvidenceHash   : String
  transitionSourceEvidenceHash        : String
  sourceObjectWriteGuardRef           : String
  refreshPreviewCommandHash           : String
  projectedRestoreEvidencePreviewHash : String
  operation                           : KnowledgeBaseWriteOperation
  articleObjectId                     : String
  expectedCurrentVersionObjectId      : Option String := none
  proposedVersionObjectId             : String
  proposedSourceObjectId              : String
  proposedSourceVersionId             : String
  commandHash                         : String
  executionCommandHash                : String
  executionPlanHash                   : String
  proposedSourceVersionEvidenceHash   : String
  currentRestoreEvidenceHash          : String
  blockingReasons                     : List String
  auditEventId                        : String
  deriving DecidableEq, Repr

namespace KnowledgeBaseWriteExecutionSkeletonResponse

def notBlank : (field value : String) → List FieldError :=
  requireNotBlank "knowledge base write execution fields must not be empty"

def namespacedRef : (field value : String) → List FieldError :=
  requireFullmatch isKbRef "knowledge base write execution references must be namespaced"

def sha256Ref : (field value : String) → List FieldError :=
  requireFullmatch isSha256Ref "knowledge base write execution hashes must be sha256 references"

def validateBlockingReasons (value : List String) : List FieldError :=
  if ¬ value.Nodup then [⟨"blocking_reasons", .message "blocking_reasons must be unique"⟩]
  else if ∃ reason ∈ value, Text.strip reason = "" then
    [⟨"blocking_reasons", .message "blocking_reasons must not contain empty values"⟩]
  else []

def errors (response : KnowledgeBaseWriteExecutionSkeletonResponse) : List FieldError :=
  notBlank "tenant_id" response.tenantId ++
    namespacedRef "execution_reference" response.executionReference ++
    namespacedRef "human_confirmation_reference" response.humanConfirmationReference ++
    sha256Ref "approved_write_approval_evidence_hash"
      response.approvedWriteApprovalEvidenceHash ++
    sha256Ref "transition_source_evidence_hash" response.transitionSourceEvidenceHash ++
    namespacedRef "source_object_write_guard_ref" response.sourceObjectWriteGuardRef ++
    sha256Ref "refresh_preview_command_hash" response.refreshPreviewCommandHash ++
    sha256Ref "projected_restore_evidence_preview_hash"
      response.projectedRestoreEvidencePreviewHash ++
    notBlank "article_object_id" response.articleObjectId ++
    notBlank "proposed_version_object_id" response.proposedVersionObjectId ++
    notBlank "proposed_source_object_id" response.proposedSourceObjectId ++
    notBlank "proposed_source_version_id" response.proposedSourceVersionId ++
    sha256Ref "command_hash" response.commandHash ++
    sha256Ref "execution_command_hash" response.executionCommandHash ++
    sha256Ref "execution_plan_hash" response.executionPlanHash ++
    sha256Ref "proposed_source_version_evidence_hash"
      response.proposedSourceVersionEvidenceHash ++
    sha256Ref "current_restore_evidence_hash" response.currentRestoreEvidenceHash ++
    validateBlockingReasons response.blockingReasons ++
    notBlank "audit_event_id" response.auditEventId

/-- `require_skeleton_no_write_contract`; its flags are always the ones it wants. -/
def requireSkeletonNoWriteContract (response : KnowledgeBaseWriteExecutionSkeletonResponse) :
    Except Exn Unit :=
  requireModel "KnowledgeBaseWriteExecutionSkeletonResponse" (response.blockingReasons ≠ [])
    "write execution skeleton must explain why execution remains blocked"

def validate (response : KnowledgeBaseWriteExecutionSkeletonResponse) :
    Except Exn KnowledgeBaseWriteExecutionSkeletonResponse := do
  let response ← accept "KnowledgeBaseWriteExecutionSkeletonResponse" response.errors response
  response.requireSkeletonNoWriteContract
  return response

end KnowledgeBaseWriteExecutionSkeletonResponse

/-! ## The operations -/

open KnowledgeBaseWorld

namespace KnowledgeBaseArticleService

variable (service : KnowledgeBaseArticleService)

/-- The guard reads the evidence from the ledger again. -/
def evaluateSourceObjectWriteGuard (user : UserContext) (writeApprovalEvidenceHash : String)
    (proposedSourceRecord : SourceObjectRecord) :
    KbProg KnowledgeBaseSourceObjectWriteGuardDecision := do
  let records ← service.listRecords user.tenantId
  let (_, restoreEvidence) ← service.currentEvidence user.tenantId records
  let evidence ← ledgerGet user.tenantId writeApprovalEvidenceHash
  let reread ← ledgerGet user.tenantId writeApprovalEvidenceHash
  Prog.lift (KnowledgeBaseSourceObjectWriteGuard.decide service.hashes user.tenantId reread
    (findArticle records evidence.articleObjectId) proposedSourceRecord restoreEvidence)

/-- An approval, and what it still agrees with. -/
structure CurrentApproval where
  approvedEvidence : KnowledgeBaseWriteApprovalEvidence
  records          : List KnowledgeBaseArticleRecord
  sourceEvidences  : List KnowledgeBaseSourceVersionEvidence
  restoreEvidence  : KnowledgeBaseRestoreEvidence

namespace CurrentApproval

def existingArticle (current : CurrentApproval) : Option KnowledgeBaseArticleRecord :=
  findArticle current.records current.approvedEvidence.articleObjectId

/-- By how much the write changes the counts. -/
def delta (current : CurrentApproval) : Nat := countDelta current.approvedEvidence.operation

/-- The hash of the projection, for a preview of this command hash. -/
def projectedRestoreHash (current : CurrentApproval) (tenantId previewCommandHash : String)
    (projectedHashes : List String) : String :=
  buildKnowledgeBaseRestoreEvidencePreviewHash H tenantId current.approvedEvidence
    previewCommandHash (evidenceHashes current.sourceEvidences) projectedHashes
    current.records.length current.sourceEvidences.length current.delta

def targetObjectIds (current : CurrentApproval) : List String :=
  KnowledgeBaseArticleService.targetObjectIds current.approvedEvidence.articleObjectId
    current.approvedEvidence.expectedCurrentVersionObjectId current.existingArticle
    current.approvedEvidence.proposedVersionObjectId
    current.approvedEvidence.proposedSourceObjectId

end CurrentApproval

/-- How a preview and a skeleton begin; each has its own words for an article that is
already there. -/
def currentApproval (existsText tenantId evidenceHash : String) : KbProg CurrentApproval := do
  let approvedEvidence ← ledgerGet tenantId evidenceHash
  Prog.lift (service.requireRefreshPreviewApprovedEvidence approvedEvidence)
  let records ← service.listRecords tenantId
  Prog.lift (requireTarget "expected current article version does not match approved evidence"
    existsText approvedEvidence.operation approvedEvidence.articleObjectId
    approvedEvidence.expectedCurrentVersionObjectId
    (findArticle records approvedEvidence.articleObjectId))
  let (sourceEvidences, restoreEvidence) ← service.currentEvidence tenantId records
  Prog.lift (require (restoreEvidence.evidenceHash = approvedEvidence.currentRestoreEvidenceHash)
    (.valueError (.message "current restore evidence no longer matches approved write evidence")))
  return { approvedEvidence, records, sourceEvidences, restoreEvidence }

/-- The metadata of a preview's audit event. -/
def previewMetadata (command : KnowledgeBaseEvidenceRefreshPreviewCommand)
    (current : CurrentApproval) (previewCommandHash projectedRestoreHash : String)
    (projectedHashes : List String) : Dict String Json where
  items := [("module_id", .str knowledgeBaseModuleId),
    ("feature_id", .str kbArticlesWriteFeatureId),
    ("surface", .str "compliance_api"),
    ("operation", .str current.approvedEvidence.operation.value),
    ("preview_reference", .str command.previewReference),
    ("approval_state", .str current.approvedEvidence.approvalState.value),
    ("approved_write_approval_evidence_hash", .str current.approvedEvidence.evidenceHash),
    ("transition_source_evidence_hash",
      optionalText current.approvedEvidence.transitionSourceEvidenceHash),
    ("command_hash", .str current.approvedEvidence.commandHash),
    ("preview_command_hash", .str previewCommandHash),
    ("proposed_source_version_evidence_hash",
      .str current.approvedEvidence.proposedSourceVersionEvidenceHash),
    ("current_restore_evidence_hash", .str current.restoreEvidence.evidenceHash),
    ("projected_restore_evidence_preview_hash", .str projectedRestoreHash),
    ("current_source_version_evidence_hashes",
      .arr ((evidenceHashes current.sourceEvidences).map .str)),
    ("projected_source_version_evidence_hashes", .arr (projectedHashes.map .str)),
    ("article_count_before", .int current.records.length),
    ("article_count_after", .int (current.records.length + current.delta)),
    ("source_version_evidence_count_before", .int current.sourceEvidences.length),
    ("source_version_evidence_count_after",
      .int (current.sourceEvidences.length + current.delta)),
    ("result_contract", .str "metadata_only"),
    ("preview_only", .bool true),
    ("article_source_writes_allowed", .bool false),
    ("evidence_persistence_allowed", .bool false),
    ("rag_indexing_allowed", .bool false),
    ("source_authority_verified", .bool false),
    ("required_evidence", .arr (refreshPreviewRequiredEvidence.map .str))]
  nodup := by
    show ["module_id", "feature_id", "surface", "operation", "preview_reference",
      "approval_state", "approved_write_approval_evidence_hash",
      "transition_source_evidence_hash", "command_hash", "preview_command_hash",
      "proposed_source_version_evidence_hash", "current_restore_evidence_hash",
      "projected_restore_evidence_preview_hash", "current_source_version_evidence_hashes",
      "projected_source_version_evidence_hashes", "article_count_before", "article_count_after",
      "source_version_evidence_count_before", "source_version_evidence_count_after",
      "result_contract", "preview_only", "article_source_writes_allowed",
      "evidence_persistence_allowed", "rag_indexing_allowed", "source_authority_verified",
      "required_evidence"].Nodup
    decide

/-- The response, before its model checks it; `str(None)` is `None`. -/
def previewResponse (tenantId : String) (current : CurrentApproval)
    (previewCommandHash projectedRestoreHash : String) (projectedHashes : List String)
    (auditEventId : String) : KnowledgeBaseEvidenceRefreshPreviewResponse where
  tenantId := tenantId
  approvedWriteApprovalEvidenceHash := current.approvedEvidence.evidenceHash
  transitionSourceEvidenceHash :=
    current.approvedEvidence.transitionSourceEvidenceHash.getD "None"
  operation := current.approvedEvidence.operation
  articleObjectId := current.approvedEvidence.articleObjectId
  expectedCurrentVersionObjectId := current.approvedEvidence.expectedCurrentVersionObjectId
  proposedVersionObjectId := current.approvedEvidence.proposedVersionObjectId
  proposedSourceObjectId := current.approvedEvidence.proposedSourceObjectId
  proposedSourceVersionId := current.approvedEvidence.proposedSourceVersionId
  commandHash := current.approvedEvidence.commandHash
  previewCommandHash := previewCommandHash
  proposedSourceVersionEvidenceHash := current.approvedEvidence.proposedSourceVersionEvidenceHash
  currentSourceVersionEvidenceHashes := evidenceHashes current.sourceEvidences
  projectedSourceVersionEvidenceHashes := projectedHashes
  currentRestoreEvidenceHash := current.restoreEvidence.evidenceHash
  projectedRestoreEvidencePreviewHash := projectedRestoreHash
  articleCountBefore := current.records.length
  articleCountAfter := current.records.length + current.delta
  articleVersionCountBefore := current.records.length
  articleVersionCountAfter := current.records.length + current.delta
  sourceVersionEvidenceCountBefore := current.sourceEvidences.length
  sourceVersionEvidenceCountAfter := current.sourceEvidences.length + current.delta
  auditEventId := auditEventId

def previewWriteEvidenceRefresh (command : KnowledgeBaseEvidenceRefreshPreviewCommand)
    (user : UserContext) (eventId : EventId) :
    KbProg KnowledgeBaseEvidenceRefreshPreviewResponse := do
  let current ← service.currentApproval
    "create refresh preview cannot target an existing knowledge base article" user.tenantId
    command.approvedWriteApprovalEvidenceHash
  let projectedHashes ← Prog.lift
    (buildProjectedSourceVersionEvidenceHashes current.approvedEvidence current.sourceEvidences)
  let previewCommandHash := buildEvidenceRefreshPreviewCommandHash service.hashes command
  let projectedRestoreHash := current.projectedRestoreHash service.hashes user.tenantId
    previewCommandHash projectedHashes
  let event ← recordAudit service.hashes {
    eventId := eventId.value
    userContext := user
    eventType := "knowledge_base.write_approval.refresh_preview"
    sourceObjectIds := current.targetObjectIds
    inputText := some (Json.canonical command.dump)
    metadata := previewMetadata command current previewCommandHash projectedRestoreHash
      projectedHashes }
  Prog.lift (previewResponse user.tenantId current previewCommandHash projectedRestoreHash
    projectedHashes event.eventId).validate

/-- The reasons every skeleton gives. -/
def skeletonBlockingReasons : List String := ["write_execution_adapter_not_enabled",
  "post_write_source_restore_evidence_refresh_not_connected"]

/-- The metadata of a skeleton's audit event. -/
def skeletonMetadata (command : KnowledgeBaseWriteExecutionSkeletonCommand)
    (current : CurrentApproval) (executionCommandHash executionPlanHash : String) :
    Dict String Json where
  items := [("module_id", .str knowledgeBaseModuleId),
    ("feature_id", .str kbArticlesWriteFeatureId),
    ("surface", .str "compliance_api"),
    ("operation", .str current.approvedEvidence.operation.value),
    ("execution_reference", .str command.executionReference),
    ("human_confirmation_reference", .str command.humanConfirmationReference),
    ("approved_write_approval_evidence_hash", .str current.approvedEvidence.evidenceHash),
    ("transition_source_evidence_hash",
      optionalText current.approvedEvidence.transitionSourceEvidenceHash),
    ("source_object_write_guard_ref",
      .str command.sourceObjectWriteGuardDecision.sourceObjectWriteGuardRef),
    ("refresh_preview_command_hash", .str command.refreshPreviewCommandHash),
    ("projected_restore_evidence_preview_hash",
      .str command.projectedRestoreEvidencePreviewHash),
    ("command_hash", .str current.approvedEvidence.commandHash),
    ("execution_command_hash", .str executionCommandHash),
    ("execution_plan_hash", .str executionPlanHash),
    ("proposed_source_version_evidence_hash",
      .str current.approvedEvidence.proposedSourceVersionEvidenceHash),
    ("current_restore_evidence_hash", .str current.restoreEvidence.evidenceHash),
    ("preconditions_verified", .bool true),
    ("source_object_write_guard_verified", .bool true),
    ("human_confirmation_verified", .bool true),
    ("source_authority_verified", .bool true),
    ("execution_allowed", .bool false),
    ("article_source_writes_allowed", .bool false),
    ("article_metadata_persistence_allowed", .bool false),
    ("source_object_persistence_allowed", .bool false),
    ("evidence_persistence_allowed", .bool false),
    ("rag_indexing_allowed", .bool false),
    ("blocking_reasons", .arr (skeletonBlockingReasons.map .str)),
    ("result_contract", .str "metadata_only"),
    ("required_evidence", .arr (executionSkeletonRequiredEvidence.map .str))]
  nodup := by
    show ["module_id", "feature_id", "surface", "operation", "execution_reference",
      "human_confirmation_reference", "approved_write_approval_evidence_hash",
      "transition_source_evidence_hash", "source_object_write_guard_ref",
      "refresh_preview_command_hash", "projected_restore_evidence_preview_hash",
      "command_hash", "execution_command_hash", "execution_plan_hash",
      "proposed_source_version_evidence_hash", "current_restore_evidence_hash",
      "preconditions_verified", "source_object_write_guard_verified",
      "human_confirmation_verified", "source_authority_verified", "execution_allowed",
      "article_source_writes_allowed", "article_metadata_persistence_allowed",
      "source_object_persistence_allowed", "evidence_persistence_allowed",
      "rag_indexing_allowed", "blocking_reasons", "result_contract", "required_evidence"].Nodup
    decide

/-- The response, before its model checks it. -/
def skeletonResponse (command : KnowledgeBaseWriteExecutionSkeletonCommand) (tenantId : String)
    (current : CurrentApproval) (executionCommandHash executionPlanHash auditEventId : String) :
    KnowledgeBaseWriteExecutionSkeletonResponse where
  tenantId := tenantId
  executionReference := command.executionReference
  humanConfirmationReference := command.humanConfirmationReference
  approvedWriteApprovalEvidenceHash := current.approvedEvidence.evidenceHash
  transitionSourceEvidenceHash :=
    current.approvedEvidence.transitionSourceEvidenceHash.getD "None"
  sourceObjectWriteGuardRef := command.sourceObjectWriteGuardDecision.sourceObjectWriteGuardRef
  refreshPreviewCommandHash := command.refreshPreviewCommandHash
  projectedRestoreEvidencePreviewHash := command.projectedRestoreEvidencePreviewHash
  operation := current.approvedEvidence.operation
  articleObjectId := current.approvedEvidence.articleObjectId
  expectedCurrentVersionObjectId := current.approvedEvidence.expectedCurrentVersionObjectId
  proposedVersionObjectId := current.approvedEvidence.proposedVersionObjectId
  proposedSourceObjectId := current.approvedEvidence.proposedSourceObjectId
  proposedSourceVersionId := current.approvedEvidence.proposedSourceVersionId
  commandHash := current.approvedEvidence.commandHash
  executionCommandHash := executionCommandHash
  executionPlanHash := executionPlanHash
  proposedSourceVersionEvidenceHash := current.approvedEvidence.proposedSourceVersionEvidenceHash
  currentRestoreEvidenceHash := current.restoreEvidence.evidenceHash
  blockingReasons := skeletonBlockingReasons
  auditEventId := auditEventId

def prepareWriteExecutionSkeleton (command : KnowledgeBaseWriteExecutionSkeletonCommand)
    (user : UserContext) (eventId : EventId) :
    KbProg KnowledgeBaseWriteExecutionSkeletonResponse := do
  let current ← service.currentApproval
    "create execution skeleton cannot target an existing knowledge base article" user.tenantId
    command.approvedWriteApprovalEvidenceHash
  Prog.lift (service.requireMatchingGuardDecision current.approvedEvidence
    command.sourceObjectWriteGuardDecision)
  let projectedHashes ← Prog.lift
    (buildProjectedSourceVersionEvidenceHashes current.approvedEvidence current.sourceEvidences)
  Prog.lift (require (current.projectedRestoreHash service.hashes user.tenantId
      command.refreshPreviewCommandHash projectedHashes =
        command.projectedRestoreEvidencePreviewHash)
    (.valueError (.message
      "projected restore evidence preview hash does not match current approved evidence")))
  let executionCommandHash := buildWriteExecutionSkeletonCommandHash service.hashes
    command.toKnowledgeBaseWriteExecutionSkeletonCommandFields
  let executionPlanHash := (command.plan user.tenantId current.approvedEvidence
    executionCommandHash).hash service.hashes
  let event ← recordAudit service.hashes {
    eventId := eventId.value
    userContext := user
    eventType := "knowledge_base.write_approval.execution_skeleton"
    sourceObjectIds := current.targetObjectIds
    inputText := some (Json.canonical command.dump)
    metadata := skeletonMetadata command current executionCommandHash executionPlanHash }
  Prog.lift (skeletonResponse command user.tenantId current executionCommandHash
    executionPlanHash event.eventId).validate

end KnowledgeBaseArticleService

end Collabio
