import Mathlib.Tactic
import Collabio.KnowledgeBase.Service

/-!
# `execute_write`

* `prepareWrite` — every check before the first store is changed, in the order of the source;
* `commitWrite`  — receipt, source and article, the checks of what they have become, and
  the audit event;
* `executeWrite` — the one after the other.
-/

namespace Collabio

open KnowledgeBaseWorld

namespace KnowledgeBaseArticleService

variable (service : KnowledgeBaseArticleService)

/-! ## The checks -/

/-- `_require_refresh_preview_approved_evidence`. -/
def requireRefreshPreviewApprovedEvidence (evidence : KnowledgeBaseWriteApprovalEvidence) :
    Except Exn Unit := do
  require (evidence.approvalState = .approvedForWrite)
    (.valueError (.message
      "only approved write approval evidence can be used for refresh preview"))
  require (buildWriteApprovalEvidenceHash service.hashes evidence = evidence.evidenceHash)
    (.valueError (.message "approved write approval evidence hash is invalid"))
  require (evidence.persistenceAllowed = true)
    (.valueError (.message
      "approved write approval evidence must allow persistence before refresh preview"))
  require (evidence.transitionSourceEvidenceHash ≠ none)
    (.valueError (.message
      "approved write approval evidence must reference transition source evidence"))

/-- Its target, in the words of an execution. -/
def requireExecutionTarget (approvedEvidence : KnowledgeBaseWriteApprovalEvidence)
    (records : List KnowledgeBaseArticleRecord) : Except Exn Unit :=
  requireTarget "expected current article version does not match approved evidence"
    "create execution cannot target an existing knowledge base article"
    approvedEvidence.operation approvedEvidence.articleObjectId
    approvedEvidence.expectedCurrentVersionObjectId
    (findArticle records approvedEvidence.articleObjectId)

/-- `_require_matching_source_object_write_guard_decision`. -/
def requireMatchingGuardDecision (approvedEvidence : KnowledgeBaseWriteApprovalEvidence)
    (decision : KnowledgeBaseSourceObjectWriteGuardDecision) : Except Exn Unit := do
  require (buildSourceObjectWriteGuardRef service.hashes decision =
      decision.sourceObjectWriteGuardRef)
    (.valueError (.message "source-object write guard reference is invalid"))
  require (decision.allowed = true)
    (.valueError (.message
      "source-object write guard decision must allow the proposed source write"))
  require (decision.blockingReasons = [])
    (.valueError (.message
      "source-object write guard decision must not contain blocking reasons"))
  require (decision.persistenceAllowed = true)
    (.valueError (.message "source-object write guard decision must allow persistence"))
  require (decision.ragIndexingAllowed = false)
    (.valueError (.message "source-object write guard decision must not allow RAG indexing"))
  require (decision.sourceAuthorityVerified = true)
    (.valueError (.message "source-object write guard decision must verify source authority"))
  require (decision.writeApprovalEvidenceHash = approvedEvidence.evidenceHash)
    (.valueError (.message
      "source-object write guard decision does not match approved evidence"))
  require (decision.approvalState = approvedEvidence.approvalState)
    (.valueError (.message
      "source-object write guard approval state does not match approved evidence"))
  require (decision.operation = approvedEvidence.operation)
    (.valueError (.message
      "source-object write guard operation does not match approved evidence"))
  require (decision.articleObjectId = approvedEvidence.articleObjectId)
    (.valueError (.message "source-object write guard article does not match approved evidence"))
  require (decision.expectedCurrentVersionObjectId =
      approvedEvidence.expectedCurrentVersionObjectId)
    (.valueError (.message
      "source-object write guard expected version does not match approved evidence"))
  require (decision.proposedSourceObjectId = approvedEvidence.proposedSourceObjectId)
    (.valueError (.message
      "source-object write guard proposed source object does not match approved evidence"))
  require (decision.proposedSourceVersionId = approvedEvidence.proposedSourceVersionId)
    (.valueError (.message
      "source-object write guard proposed source version does not match approved evidence"))
  require (decision.proposedSourceVersionEvidenceHash =
      approvedEvidence.proposedSourceVersionEvidenceHash)
    (.valueError (.message
      "source-object write guard proposed evidence hash does not match approved evidence"))
  require (decision.currentRestoreEvidenceHash = approvedEvidence.currentRestoreEvidenceHash)
    (.valueError (.message
      "source-object write guard restore evidence hash does not match approved evidence"))

/-- `source_object_write_guard.evaluate`: it reads the evidence from the ledger again. -/
def evaluateWriteGuard (tenantId : String) (approvedEvidence : KnowledgeBaseWriteApprovalEvidence)
    (existingArticle : Option KnowledgeBaseArticleRecord) (proposedSourceRecord : SourceObjectRecord)
    (restoreEvidence : KnowledgeBaseRestoreEvidence) :
    KbProg KnowledgeBaseSourceObjectWriteGuardDecision := do
  let evidence ← ledgerGet tenantId approvedEvidence.evidenceHash
  Prog.lift (KnowledgeBaseSourceObjectWriteGuard.decide service.hashes tenantId evidence
    existingArticle proposedSourceRecord restoreEvidence)

/-- `_require_source_object_absent`: only a `KeyError` is caught. -/
def sourceObjectAbsent (sources : InMemorySourceObjectRepository) (tenantId : String)
    (evidence : KnowledgeBaseWriteApprovalEvidence) : Except Exn Unit :=
  match sources.get tenantId evidence.proposedSourceObjectId evidence.proposedSourceVersionId with
  | .ok _ => .error (.valueError (.message "proposed source object version already exists"))
  | .error .keyError => .ok ()
  | .error exn => .error exn

def requireSourceObjectAbsent (tenantId : String)
    (evidence : KnowledgeBaseWriteApprovalEvidence) : KbProg Unit :=
  .read fun world => sourceObjectAbsent world.sources tenantId evidence

/-- A creation adds one article. -/
def countDelta : KnowledgeBaseWriteOperation → Nat
  | .create => 1
  | .edit => 0

/-- The two hashes that the command must name. -/
def requireCommandHashes (tenantId : String) (approvedEvidence : KnowledgeBaseWriteApprovalEvidence)
    (command : KnowledgeBaseWriteExecutionCommand)
    (sourceEvidences : List KnowledgeBaseSourceVersionEvidence) (recordCount : Nat)
    (projectedHashes : List String) : Except Exn Unit := do
  require (buildKnowledgeBaseRestoreEvidencePreviewHash service.hashes tenantId approvedEvidence
      command.refreshPreviewCommandHash (evidenceHashes sourceEvidences) projectedHashes
      recordCount sourceEvidences.length (countDelta approvedEvidence.operation) =
        command.projectedRestoreEvidencePreviewHash)
    (.valueError (.message
      "projected restore evidence preview hash does not match current approved evidence"))
  require (buildWriteExecutionPlanHash service.hashes tenantId approvedEvidence
      command.toKnowledgeBaseWriteExecutionCommandFields command.executionSkeletonCommandHash =
        command.executionPlanHash)
    (.valueError (.message "write execution plan hash does not match approved skeleton"))

/-- What the checks leave for the writes. -/
structure PreparedWrite where
  approvedEvidence : KnowledgeBaseWriteApprovalEvidence
  existingArticle  : Option KnowledgeBaseArticleRecord
  restoreEvidence  : KnowledgeBaseRestoreEvidence
  projectedHashes  : List String
  receipt          : SourceObjectWriteReceipt

/-- The audit reference of an execution. -/
def executionAuditChainRef (command : KnowledgeBaseWriteExecutionCommand) : String :=
  "audit:" ++ command.executionReference

def prepareWrite (command : KnowledgeBaseWriteExecutionCommand) (user : UserContext)
    (now : String) : KbProg PreparedWrite := do
  let approvedEvidence ← ledgerGet user.tenantId command.approvedWriteApprovalEvidenceHash
  Prog.lift (service.requireRefreshPreviewApprovedEvidence approvedEvidence)
  let records ← service.listRecords user.tenantId
  Prog.lift (requireExecutionTarget approvedEvidence records)
  let (sourceEvidences, restoreEvidence) ← service.currentEvidence user.tenantId records
  Prog.lift (require (restoreEvidence.evidenceHash = approvedEvidence.currentRestoreEvidenceHash)
    (.valueError (.message "current restore evidence no longer matches approved write evidence")))
  Prog.lift (service.requireMatchingGuardDecision approvedEvidence
    command.sourceObjectWriteGuardDecision)
  let existingArticle := findArticle records approvedEvidence.articleObjectId
  let reevaluated ← service.evaluateWriteGuard user.tenantId approvedEvidence existingArticle
    command.proposedSourceRecord restoreEvidence
  Prog.lift (require (reevaluated.sourceObjectWriteGuardRef =
      command.sourceObjectWriteGuardDecision.sourceObjectWriteGuardRef)
    (.valueError (.message
      "source-object write guard decision does not match proposed source record")))
  let projectedHashes ← Prog.lift
    (buildProjectedSourceVersionEvidenceHashes approvedEvidence sourceEvidences)
  Prog.lift (service.requireCommandHashes user.tenantId approvedEvidence command sourceEvidences
    records.length projectedHashes)
  requireSourceObjectAbsent user.tenantId approvedEvidence
  let receipt ← Prog.lift (buildSourceObjectWriteReceipt service.hashes
    command.proposedSourceRecord ("receipt:" ++ command.executionReference)
    (executionAuditChainRef command) now)
  return { approvedEvidence, existingArticle, restoreEvidence, projectedHashes, receipt }

/-! ## The writes -/

/-- What is checked once the stores have changed. -/
def requireRefreshed (approvedEvidence : KnowledgeBaseWriteApprovalEvidence)
    (projectedHashes : List String) (sourceEvidences : List KnowledgeBaseSourceVersionEvidence)
    (restoreEvidence : KnowledgeBaseRestoreEvidence) :
    Except Exn KnowledgeBaseSourceVersionEvidence :=
  match sourceEvidences.reverse.find? fun evidence =>
      evidence.articleObjectId = approvedEvidence.articleObjectId with
  | none => .error .keyError
  | some refreshed => do
    require (refreshed.evidenceHash = approvedEvidence.proposedSourceVersionEvidenceHash)
      (.valueError (.message "post-write source-version evidence does not match approved evidence"))
    require (restoreEvidence.sourceVersionEvidenceHashes = projectedHashes)
      (.valueError (.message
        "post-write source-version evidence hashes do not match refresh preview"))
    return refreshed

/-- The metadata of its audit event. -/
def executionMetadata (command : KnowledgeBaseWriteExecutionCommand) (prepared : PreparedWrite)
    (receiptHash : String) (refreshed : KnowledgeBaseSourceVersionEvidence)
    (restoreEvidence : KnowledgeBaseRestoreEvidence) : Dict String Json where
  items := [("module_id", .str knowledgeBaseModuleId),
    ("feature_id", .str kbArticlesWriteFeatureId),
    ("surface", .str "compliance_api"),
    ("operation", .str prepared.approvedEvidence.operation.value),
    ("execution_reference", .str command.executionReference),
    ("human_confirmation_reference", .str command.humanConfirmationReference),
    ("approved_write_approval_evidence_hash", .str prepared.approvedEvidence.evidenceHash),
    ("transition_source_evidence_hash",
      optionalText prepared.approvedEvidence.transitionSourceEvidenceHash),
    ("source_object_write_guard_ref",
      .str command.sourceObjectWriteGuardDecision.sourceObjectWriteGuardRef),
    ("refresh_preview_command_hash", .str command.refreshPreviewCommandHash),
    ("projected_restore_evidence_preview_hash",
      .str command.projectedRestoreEvidencePreviewHash),
    ("execution_skeleton_command_hash", .str command.executionSkeletonCommandHash),
    ("execution_plan_hash", .str command.executionPlanHash),
    ("execution_command_hash", .str (buildWriteExecutionCommandHash service.hashes command)),
    ("source_object_write_receipt_hash", .str receiptHash),
    ("previous_restore_evidence_hash", .str prepared.restoreEvidence.evidenceHash),
    ("refreshed_restore_evidence_hash", .str restoreEvidence.evidenceHash),
    ("refreshed_source_version_evidence_hash", .str refreshed.evidenceHash),
    ("source_version_evidence_hashes_after",
      .arr (restoreEvidence.sourceVersionEvidenceHashes.map .str)),
    ("source_object_persisted", .bool true),
    ("source_object_write_receipt_persisted", .bool true),
    ("article_metadata_persisted", .bool true),
    ("article_version_metadata_persisted", .bool true),
    ("source_version_evidence_refreshed", .bool true),
    ("restore_evidence_refreshed", .bool true),
    ("rag_indexing_allowed", .bool false),
    ("search_indexing_allowed", .bool false),
    ("result_contract", .str "metadata_only"),
    ("required_evidence", .arr [.str "approved_write_approval_ledger_entry",
      .str "source_object_write_guard_decision", .str "source_object_write_guard_ref",
      .str "source_object_write_receipt_hash", .str "restore_evidence_refresh_preview_hash",
      .str "write_execution_plan_hash", .str "explicit_human_confirmation_reference",
      .str "source_object_persisted", .str "article_metadata_persisted",
      .str "source_version_evidence_refreshed", .str "restore_evidence_refreshed",
      .str "rag_indexing_disabled", .str "audit_event_hash"])]
  nodup := by
    show ["module_id", "feature_id", "surface", "operation", "execution_reference",
      "human_confirmation_reference", "approved_write_approval_evidence_hash",
      "transition_source_evidence_hash", "source_object_write_guard_ref",
      "refresh_preview_command_hash", "projected_restore_evidence_preview_hash",
      "execution_skeleton_command_hash", "execution_plan_hash", "execution_command_hash",
      "source_object_write_receipt_hash", "previous_restore_evidence_hash",
      "refreshed_restore_evidence_hash", "refreshed_source_version_evidence_hash",
      "source_version_evidence_hashes_after", "source_object_persisted",
      "source_object_write_receipt_persisted", "article_metadata_persisted",
      "article_version_metadata_persisted", "source_version_evidence_refreshed",
      "restore_evidence_refreshed", "rag_indexing_allowed", "search_indexing_allowed",
      "result_contract", "required_evidence"].Nodup
    decide

/-- The response, before its model checks it; `str(None)` is `None`. -/
def executionResponse (command : KnowledgeBaseWriteExecutionCommand) (user : UserContext)
    (prepared : PreparedWrite) (receiptHash : String) (updatedArticle : KnowledgeBaseArticleRecord)
    (refreshed : KnowledgeBaseSourceVersionEvidence)
    (restoreEvidence : KnowledgeBaseRestoreEvidence) (auditEventId : String) :
    KnowledgeBaseWriteExecutionResponse where
  tenantId := user.tenantId
  executionReference := command.executionReference
  humanConfirmationReference := command.humanConfirmationReference
  approvedWriteApprovalEvidenceHash := prepared.approvedEvidence.evidenceHash
  transitionSourceEvidenceHash :=
    prepared.approvedEvidence.transitionSourceEvidenceHash.getD "None"
  sourceObjectWriteGuardRef := command.sourceObjectWriteGuardDecision.sourceObjectWriteGuardRef
  sourceObjectWriteReceiptHash := receiptHash
  refreshPreviewCommandHash := command.refreshPreviewCommandHash
  projectedRestoreEvidencePreviewHash := command.projectedRestoreEvidencePreviewHash
  executionSkeletonCommandHash := command.executionSkeletonCommandHash
  executionPlanHash := command.executionPlanHash
  executionCommandHash := buildWriteExecutionCommandHash service.hashes command
  operation := prepared.approvedEvidence.operation
  articleObjectId := prepared.approvedEvidence.articleObjectId
  previousVersionObjectId := prepared.existingArticle.map (·.currentVersionObjectId)
  currentVersionObjectId := updatedArticle.currentVersionObjectId
  currentSourceObjectId := updatedArticle.currentSourceObjectId
  currentSourceVersionId := updatedArticle.currentSourceVersionId
  proposedSourceVersionEvidenceHash := prepared.approvedEvidence.proposedSourceVersionEvidenceHash
  refreshedSourceVersionEvidenceHash := refreshed.evidenceHash
  previousRestoreEvidenceHash := prepared.restoreEvidence.evidenceHash
  refreshedRestoreEvidenceHash := restoreEvidence.evidenceHash
  sourceVersionEvidenceHashesAfter := restoreEvidence.sourceVersionEvidenceHashes
  articleCountAfter := restoreEvidence.articleCount
  articleVersionCountAfter := restoreEvidence.articleVersionCount
  sourceVersionEvidenceCountAfter := restoreEvidence.sourceVersionEvidenceCount
  auditEventId := auditEventId

def commitWrite (command : KnowledgeBaseWriteExecutionCommand) (user : UserContext)
    (eventId : EventId) (prepared : PreparedWrite) : KbProg KnowledgeBaseWriteExecutionResponse := do
  let receipt ← appendReceipt service.hashes prepared.receipt
  addSource service.hashes command.proposedSourceRecord
  let updatedArticle ← applyWrite user.tenantId prepared.approvedEvidence
    command.proposedSourceRecord (executionAuditChainRef command)
  let records ← service.listRecords user.tenantId
  let (sourceEvidences, restoreEvidence) ← service.currentEvidence user.tenantId records
  let refreshed ← Prog.lift (requireRefreshed prepared.approvedEvidence prepared.projectedHashes
    sourceEvidences restoreEvidence)
  let event ← recordAudit service.hashes {
    eventId := eventId.value
    userContext := user
    eventType := "knowledge_base.write_approval.executed"
    sourceObjectIds := targetObjectIds prepared.approvedEvidence.articleObjectId
      prepared.approvedEvidence.expectedCurrentVersionObjectId prepared.existingArticle
      prepared.approvedEvidence.proposedVersionObjectId
      prepared.approvedEvidence.proposedSourceObjectId
    inputText := some (Json.canonical command.auditPayload)
    metadata := service.executionMetadata command prepared receipt.receiptHash refreshed
      restoreEvidence }
  Prog.lift (service.executionResponse command user prepared receipt.receiptHash updatedArticle
    refreshed restoreEvidence event.eventId).validate

def executeWrite (command : KnowledgeBaseWriteExecutionCommand) (user : UserContext)
    (eventId : EventId) (now : String) : KbProg KnowledgeBaseWriteExecutionResponse := do
  let prepared ← service.prepareWrite command user now
  service.commitWrite command user eventId prepared

end KnowledgeBaseArticleService

end Collabio
