import Mathlib.Data.Prod.Lex
import Mathlib.Data.String.Basic
import Mathlib.Tactic
import Collabio.Library.Program
import Collabio.KnowledgeBase.Execution
import Collabio.KnowledgeBase.Stores
import Collabio.Rag.Repositories

/-!
# The knowledge base service

Each operation is a program over the stores, one atomic call for every call of a
store or of the audit logger:

* `dryRunWriteApproval`  — what a write would do, as evidence in the ledger;
* `approveWriteApproval` — an approval of such evidence, as further evidence.

The third, `executeWrite`, has a module of its own.
-/

namespace Collabio

/-- The stores of the service, and the log of its audit logger. -/
structure KnowledgeBaseWorld where
  ledger      : InMemoryKnowledgeBaseWriteApprovalLedger := ∅
  receipts    : InMemorySourceObjectWriteReceiptStore := ∅
  sources     : InMemorySourceObjectRepository
  articles    : InMemoryKnowledgeBaseArticleRepository
  auditEvents : List AuditEvent := []

/-- Programs of the service. -/
abbrev KbProg := Prog Exn KnowledgeBaseWorld

namespace KnowledgeBaseWorld

/-! ## Store calls -/

def ledgerGet (tenantId evidenceHash : String) : KbProg KnowledgeBaseWriteApprovalEvidence :=
  .read fun world => InMemoryKnowledgeBaseWriteApprovalLedger.get world.ledger tenantId evidenceHash

def listEvidence (tenantId : String) : KbProg (List KnowledgeBaseWriteApprovalEvidence) :=
  .read fun world => .ok (InMemoryKnowledgeBaseWriteApprovalLedger.listEvidence world.ledger
    tenantId)

def ledgerAppend (evidence : KnowledgeBaseWriteApprovalEvidence) :
    KbProg KnowledgeBaseWriteApprovalEvidence :=
  .atomic fun world =>
    ((InMemoryKnowledgeBaseWriteApprovalLedger.append evidence world.ledger).1,
      { world with
        ledger := (InMemoryKnowledgeBaseWriteApprovalLedger.append evidence world.ledger).2 })

def listArticles (tenantId : String) : KbProg (List KnowledgeBaseArticleRecord) :=
  .read fun world => .ok (world.articles.listArticles tenantId)

def applyWrite (tenantId : String) (evidence : KnowledgeBaseWriteApprovalEvidence)
    (sourceRecord : SourceObjectRecord) (auditChainRef : String) :
    KbProg KnowledgeBaseArticleRecord :=
  .atomic fun world =>
    ((InMemoryKnowledgeBaseArticleRepository.applyWrite tenantId evidence sourceRecord
        auditChainRef world.articles).1,
      { world with
        articles := (InMemoryKnowledgeBaseArticleRepository.applyWrite tenantId evidence
          sourceRecord auditChainRef world.articles).2 })

def getSource (tenantId objectId versionId : String) : KbProg SourceObjectRecord :=
  .read fun world => world.sources.get tenantId objectId versionId

def addSource (H : HashFunctions) (record : SourceObjectRecord) : KbProg Unit :=
  .atomic fun world =>
    ((InMemorySourceObjectRepository.add H record world.sources).1,
      { world with sources := (InMemorySourceObjectRepository.add H record world.sources).2 })

def appendReceipt (H : HashFunctions) (receipt : SourceObjectWriteReceipt) :
    KbProg SourceObjectWriteReceipt :=
  .atomic fun world =>
    ((InMemorySourceObjectWriteReceiptStore.append H receipt world.receipts).1,
      { world with
        receipts := (InMemorySourceObjectWriteReceiptStore.append H receipt world.receipts).2 })

def recordAudit (H : HashFunctions) (call : AuditCall) : KbProg AuditEvent :=
  .atomic fun world =>
    ((record H call world.auditEvents).1,
      { world with auditEvents := (record H call world.auditEvents).2 })

end KnowledgeBaseWorld

open KnowledgeBaseWorld

/-- `str(uuid4())`, as it is drawn for an audit event. -/
structure EventId where
  value    : String
  notBlank : Text.strip value ≠ ""

/-- The service, with its digests and `str.lower`. -/
structure KnowledgeBaseArticleService where
  hashes : HashFunctions
  lower  : String → String

namespace KnowledgeBaseArticleService

variable (service : KnowledgeBaseArticleService)

/-! ## What all operations read -/

/-- `key=lambda record: (record.title.lower(), record.object_id)`. -/
def titleKey (article : KnowledgeBaseArticleRecord) : String ×ₗ String :=
  toLex (service.lower article.title, article.objectId)

def ByTitle (a b : KnowledgeBaseArticleRecord) : Prop := service.titleKey a ≤ service.titleKey b

instance : DecidableRel service.ByTitle :=
  fun a b => inferInstanceAs (Decidable (service.titleKey a ≤ service.titleKey b))

def listRecords (tenantId : String) : KbProg (List KnowledgeBaseArticleRecord) := do
  let articles ← listArticles tenantId
  return articles.insertionSort service.ByTitle

/-- `records_by_object_id.get`: of two records of one id the later is found. -/
def findArticle (records : List KnowledgeBaseArticleRecord) (objectId : String) :
    Option KnowledgeBaseArticleRecord :=
  records.reverse.find? fun article => article.objectId = objectId

def sourceVersionEvidence (article : KnowledgeBaseArticleRecord) :
    KbProg KnowledgeBaseSourceVersionEvidence := do
  let sourceRecord ← getSource article.tenantId article.currentSourceObjectId
    article.currentSourceVersionId
  Prog.lift (buildKnowledgeBaseSourceVersionEvidence service.hashes article sourceRecord)

def restoreDrillReportHash (tenantId : String) : String :=
  stableHash service.hashes (tenantId ++ ":knowledge_base_content:restore-drill")

/-- The source evidences of these records, and the restore evidence over them. -/
def currentEvidence (tenantId : String) (records : List KnowledgeBaseArticleRecord) :
    KbProg (List KnowledgeBaseSourceVersionEvidence × KnowledgeBaseRestoreEvidence) := do
  let sourceEvidences ← records.mapM service.sourceVersionEvidence
  let restoreEvidence ← Prog.lift (buildKnowledgeBaseRestoreEvidence service.hashes tenantId
    records sourceEvidences (service.restoreDrillReportHash tenantId)
    "audit:knowledge-base-restore-evidence")
  return (sourceEvidences, restoreEvidence)

/-- An edit needs its article in the expected version, a creation none; each
operation words its own complaints. -/
def requireTarget (versionText existsText : String) (operation : KnowledgeBaseWriteOperation)
    (articleObjectId : String) (expectedCurrentVersionObjectId : Option String) :
    Option KnowledgeBaseArticleRecord → Except Exn Unit
  | none => require (operation = .create)
      (.lookupError ("knowledge base article not found: " ++ articleObjectId))
  | some existingArticle =>
    match operation with
    | .edit => require
        (some existingArticle.currentVersionObjectId = expectedCurrentVersionObjectId)
        (.valueError (.message versionText))
    | .create => .error (.valueError (.message existsText))

/-- The object ids an operation is about, each once. -/
def targetObjectIds (articleObjectId : String) (expectedCurrentVersionObjectId : Option String)
    (existingArticle : Option KnowledgeBaseArticleRecord)
    (proposedVersionObjectId proposedSourceObjectId : String) : List String :=
  uniqueFrom [] ([some articleObjectId, expectedCurrentVersionObjectId,
    existingArticle.map (·.currentSourceObjectId), some proposedVersionObjectId,
    some proposedSourceObjectId].filterMap id)

/-! ## Dry runs -/

structure KnowledgeBaseWriteDryRunResponse where
  tenantId                          : String
  operation                         : KnowledgeBaseWriteOperation
  articleObjectId                   : String
  proposedVersionObjectId           : String
  proposedSourceObjectId            : String
  proposedSourceVersionId           : String
  approvalReference                 : String
  commandHash                       : String
  proposedSourceVersionEvidenceHash : String
  currentRestoreEvidenceHash        : String
  writeApprovalEvidenceHash         : String
  auditEventId                      : String
  deriving DecidableEq, Repr

/-- The metadata of its audit event. -/
def dryRunMetadata (command : KnowledgeBaseWriteApprovalCommand)
    (commandHash proposedHash restoreHash : String) : Dict String Json where
  items := [("module_id", .str knowledgeBaseModuleId),
    ("feature_id", .str kbArticlesWriteFeatureId),
    ("surface", .str "compliance_api"),
    ("operation", .str command.operation.value),
    ("dry_run", .bool true),
    ("persistence_allowed", .bool false),
    ("rag_indexing_allowed", .bool false),
    ("source_authority_verified", .bool false),
    ("approval_reference", .str command.approvalReference),
    ("command_hash", .str commandHash),
    ("proposed_source_version_evidence_hash", .str proposedHash),
    ("current_restore_evidence_hash", .str restoreHash),
    ("required_evidence", .arr [.str "human_approval_reference",
      .str "write_approval_ledger_entry", .str "source_object_write_guard",
      .str "source_version_evidence_persisted", .str "restore_evidence_refreshed",
      .str "audit_event_hash"])]
  nodup := by
    show ["module_id", "feature_id", "surface", "operation", "dry_run", "persistence_allowed",
      "rag_indexing_allowed", "source_authority_verified", "approval_reference", "command_hash",
      "proposed_source_version_evidence_hash", "current_restore_evidence_hash",
      "required_evidence"].Nodup
    decide

/-- A creation needs a new key, too. -/
def requireDryRunTarget (command : KnowledgeBaseWriteApprovalCommand)
    (records : List KnowledgeBaseArticleRecord) : Except Exn Unit := do
  requireTarget "expected current article version does not match"
    "create dry-run cannot target an existing knowledge base article" command.operation
    command.articleObjectId command.expectedCurrentVersionObjectId
    (findArticle records command.articleObjectId)
  require (¬ (command.operation = .create ∧
      ∃ article ∈ records, article.articleKey = command.articleKey))
    (.valueError (.message "create dry-run cannot target an existing knowledge base article key"))

def dryRunWriteApproval (command : KnowledgeBaseWriteApprovalCommand) (user : UserContext)
    (eventId : EventId) : KbProg KnowledgeBaseWriteDryRunResponse := do
  let records ← service.listRecords user.tenantId
  Prog.lift (requireDryRunTarget command records)
  let (_, restoreEvidence) ← service.currentEvidence user.tenantId records
  let proposedEvidence ← Prog.lift
    (buildProposedSourceVersionEvidence service.hashes user.tenantId command)
  let commandHash := buildWriteApprovalCommandHash service.hashes command
  let event ← recordAudit service.hashes {
    eventId := eventId.value
    userContext := user
    eventType := "knowledge_base.write_approval.dry_run"
    sourceObjectIds := targetObjectIds command.articleObjectId
      command.expectedCurrentVersionObjectId (findArticle records command.articleObjectId)
      command.proposedVersionObjectId command.proposedSourceObjectId
    inputText := some (Json.canonical command.dump)
    metadata := dryRunMetadata command commandHash proposedEvidence.evidenceHash
      restoreEvidence.evidenceHash }
  let writeApprovalEvidence ← Prog.lift (buildWriteApprovalEvidence service.hashes user.tenantId
    command commandHash proposedEvidence.evidenceHash restoreEvidence.evidenceHash user.userId
    event.eventId ("audit:" ++ event.eventId))
  let persisted ← ledgerAppend writeApprovalEvidence
  return {
    tenantId := user.tenantId
    operation := command.operation
    articleObjectId := command.articleObjectId
    proposedVersionObjectId := command.proposedVersionObjectId
    proposedSourceObjectId := command.proposedSourceObjectId
    proposedSourceVersionId := command.proposedSourceVersionId
    approvalReference := command.approvalReference
    commandHash := commandHash
    proposedSourceVersionEvidenceHash := proposedEvidence.evidenceHash
    currentRestoreEvidenceHash := restoreEvidence.evidenceHash
    writeApprovalEvidenceHash := persisted.evidenceHash
    auditEventId := event.eventId }

/-! ## Approvals -/

structure KnowledgeBaseWriteApprovalTransitionResponse where
  tenantId                          : String
  dryRunWriteApprovalEvidenceHash   : String
  approvedWriteApprovalEvidenceHash : String
  approvalState                     : KnowledgeBaseWriteApprovalState
  operation                         : KnowledgeBaseWriteOperation
  articleObjectId                   : String
  proposedVersionObjectId           : String
  proposedSourceObjectId            : String
  proposedSourceVersionId           : String
  persistenceAllowed                : Bool
  ragIndexingAllowed                : Bool
  sourceAuthorityVerified           : Bool
  commandHash                       : String
  proposedSourceVersionEvidenceHash : String
  currentRestoreEvidenceHash        : String
  auditEventId                      : String
  deriving DecidableEq, Repr

/-- `_require_approvable_dry_run_evidence`. -/
def requireApprovableDryRunEvidence (evidence : KnowledgeBaseWriteApprovalEvidence) :
    Except Exn Unit := do
  require (evidence.approvalState = .dryRun)
    (.valueError (.message "only dry-run write approval evidence can be approved"))
  require (buildWriteApprovalEvidenceHash service.hashes evidence = evidence.evidenceHash)
    (.valueError (.message "dry-run write approval evidence hash is invalid"))
  require (¬ (evidence.persistenceAllowed = true ∨ evidence.ragIndexingAllowed = true ∨
      evidence.sourceAuthorityVerified = true))
    (.valueError (.message
      "dry-run write approval evidence must not already allow persistence, RAG, or authority"))

/-- An approval of the dry run with this hash. -/
def IsApprovalOf (dryRunHash : String) (evidence : KnowledgeBaseWriteApprovalEvidence) : Prop :=
  evidence.transitionSourceEvidenceHash = some dryRunHash ∧
    evidence.approvalState = .approvedForWrite

instance (dryRunHash : String) : DecidablePred (IsApprovalOf dryRunHash) :=
  fun evidence => inferInstanceAs (Decidable (evidence.transitionSourceEvidenceHash =
    some dryRunHash ∧ evidence.approvalState = .approvedForWrite))

/-- `_require_not_already_approved`, on what the ledger lists. -/
def requireNotAlreadyApproved (dryRunHash : String)
    (evidences : List KnowledgeBaseWriteApprovalEvidence) : Except Exn Unit :=
  require (∀ evidence ∈ evidences, ¬ IsApprovalOf dryRunHash evidence)
    (.valueError (.message "dry-run write approval evidence is already approved"))

/-- The metadata of its audit event. -/
def approvalMetadata (approvalReference : String)
    (dryRunEvidence : KnowledgeBaseWriteApprovalEvidence) : Dict String Json where
  items := [("module_id", .str knowledgeBaseModuleId),
    ("feature_id", .str kbArticlesWriteFeatureId),
    ("surface", .str "compliance_api"),
    ("operation", .str dryRunEvidence.operation.value),
    ("approval_reference", .str approvalReference),
    ("approval_state", .str KnowledgeBaseWriteApprovalState.approvedForWrite.value),
    ("dry_run_write_approval_evidence_hash", .str dryRunEvidence.evidenceHash),
    ("command_hash", .str dryRunEvidence.commandHash),
    ("proposed_source_version_evidence_hash",
      .str dryRunEvidence.proposedSourceVersionEvidenceHash),
    ("current_restore_evidence_hash", .str dryRunEvidence.currentRestoreEvidenceHash),
    ("persistence_allowed", .bool true),
    ("rag_indexing_allowed", .bool false),
    ("source_authority_verified", .bool false),
    ("required_evidence", .arr [.str "dry_run_write_approval_evidence_hash",
      .str "human_approval_reference", .str "current_restore_evidence_hash",
      .str "expected_current_version_match", .str "approved_write_approval_ledger_entry",
      .str "audit_event_hash"])]
  nodup := by
    show ["module_id", "feature_id", "surface", "operation", "approval_reference",
      "approval_state", "dry_run_write_approval_evidence_hash", "command_hash",
      "proposed_source_version_evidence_hash", "current_restore_evidence_hash",
      "persistence_allowed", "rag_indexing_allowed", "source_authority_verified",
      "required_evidence"].Nodup
    decide

/-- Its target, in the words of an approval. -/
def requireApprovalTarget (dryRunEvidence : KnowledgeBaseWriteApprovalEvidence)
    (records : List KnowledgeBaseArticleRecord) : Except Exn Unit :=
  requireTarget "expected current article version does not match dry-run evidence"
    "create approval cannot target an existing knowledge base article" dryRunEvidence.operation
    dryRunEvidence.articleObjectId dryRunEvidence.expectedCurrentVersionObjectId
    (findArticle records dryRunEvidence.articleObjectId)

def approveWriteApproval (command : KnowledgeBaseWriteApprovalTransitionCommand)
    (user : UserContext) (eventId : EventId) :
    KbProg KnowledgeBaseWriteApprovalTransitionResponse := do
  let dryRunEvidence ← ledgerGet user.tenantId command.dryRunWriteApprovalEvidenceHash
  Prog.lift (service.requireApprovableDryRunEvidence dryRunEvidence)
  let evidences ← listEvidence user.tenantId
  Prog.lift (requireNotAlreadyApproved dryRunEvidence.evidenceHash evidences)
  let records ← service.listRecords user.tenantId
  Prog.lift (requireApprovalTarget dryRunEvidence records)
  let (_, restoreEvidence) ← service.currentEvidence user.tenantId records
  Prog.lift (require (restoreEvidence.evidenceHash = dryRunEvidence.currentRestoreEvidenceHash)
    (.valueError (.message "current restore evidence no longer matches dry-run evidence")))
  let event ← recordAudit service.hashes {
    eventId := eventId.value
    userContext := user
    eventType := "knowledge_base.write_approval.approved"
    sourceObjectIds := targetObjectIds dryRunEvidence.articleObjectId
      dryRunEvidence.expectedCurrentVersionObjectId
      (findArticle records dryRunEvidence.articleObjectId)
      dryRunEvidence.proposedVersionObjectId dryRunEvidence.proposedSourceObjectId
    inputText := some (Json.canonical command.dump)
    metadata := approvalMetadata command.approvalReference dryRunEvidence }
  let approvedEvidence ← Prog.lift (buildWriteApprovalTransitionEvidence service.hashes
    dryRunEvidence command.approvalReference user.userId event.eventId
    ("audit:" ++ event.eventId))
  let persisted ← ledgerAppend approvedEvidence
  return {
    tenantId := user.tenantId
    dryRunWriteApprovalEvidenceHash := dryRunEvidence.evidenceHash
    approvedWriteApprovalEvidenceHash := persisted.evidenceHash
    approvalState := persisted.approvalState
    operation := persisted.operation
    articleObjectId := persisted.articleObjectId
    proposedVersionObjectId := persisted.proposedVersionObjectId
    proposedSourceObjectId := persisted.proposedSourceObjectId
    proposedSourceVersionId := persisted.proposedSourceVersionId
    persistenceAllowed := persisted.persistenceAllowed
    ragIndexingAllowed := persisted.ragIndexingAllowed
    sourceAuthorityVerified := persisted.sourceAuthorityVerified
    commandHash := persisted.commandHash
    proposedSourceVersionEvidenceHash := persisted.proposedSourceVersionEvidenceHash
    currentRestoreEvidenceHash := persisted.currentRestoreEvidenceHash
    auditEventId := event.eventId }

end KnowledgeBaseArticleService

end Collabio
