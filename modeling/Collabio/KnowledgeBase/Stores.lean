import Mathlib.Tactic
import Collabio.KnowledgeBase.Approvals

/-!
# The in-memory stores of the knowledge base

* `InMemoryKnowledgeBaseWriteApprovalLedger` — append-only, by tenant and hash;
* `InMemorySourceObjectWriteReceiptStore`    — append-only, one receipt per object version;
* `InMemoryKnowledgeBaseArticleRepository`   — no two articles of a tenant share an id, which
  is a field of the structure and is kept by `applyWrite`.
-/

namespace Collabio

variable (H : HashFunctions)

/-! ## The ledger -/

/-- The PostgreSQL ledger has the same key and no other. -/
abbrev InMemoryKnowledgeBaseWriteApprovalLedger :=
  Dict (String × String) KnowledgeBaseWriteApprovalEvidence

namespace InMemoryKnowledgeBaseWriteApprovalLedger

def append (evidence : KnowledgeBaseWriteApprovalEvidence) :
    Eff Exn InMemoryKnowledgeBaseWriteApprovalLedger KnowledgeBaseWriteApprovalEvidence :=
  fun ledger =>
    if ledger.contains (evidence.tenantId, evidence.evidenceHash) = true then
      (.error (.valueError (.message
        "knowledge base write approval evidence already exists")), ledger)
    else (.ok evidence, ledger.set (evidence.tenantId, evidence.evidenceHash) evidence)

def get (ledger : InMemoryKnowledgeBaseWriteApprovalLedger) (tenantId evidenceHash : String) :
    Except Exn KnowledgeBaseWriteApprovalEvidence :=
  match ledger.get? (tenantId, evidenceHash) with
  | some evidence => .ok evidence
  | none => .error .keyError

def listEvidence (ledger : InMemoryKnowledgeBaseWriteApprovalLedger) (tenantId : String) :
    List KnowledgeBaseWriteApprovalEvidence :=
  (ledger.items.filter fun item => item.1.1 = tenantId).map Prod.snd

end InMemoryKnowledgeBaseWriteApprovalLedger

/-! ## Write receipts -/

/-- A receipt copies the metadata of a record, but for the audit reference. -/
structure SourceObjectWriteReceipt where
  metadata             : SourceObjectMetadata
  receiptReference     : String
  capturedAtUtc        : String
  receiptHash          : String := zeroHash
  receiptSchemaVersion : String := "source_object_write_receipt.v1"
  deriving DecidableEq, Repr

namespace SourceObjectWriteReceipt

def normalized (receipt : SourceObjectWriteReceipt) : SourceObjectWriteReceipt where
  metadata := receipt.metadata.normalized
  receiptReference := Text.strip receipt.receiptReference
  capturedAtUtc := Text.strip receipt.capturedAtUtc
  receiptHash := Text.strip receipt.receiptHash
  receiptSchemaVersion := Text.strip receipt.receiptSchemaVersion

def sha256Ref (field value : String) : List FieldError :=
  requireFullmatch isSha256Ref (field ++ " must be a sha256 reference") field value

def errors (receipt : SourceObjectWriteReceipt) : List FieldError :=
  requireNonEmpty "tenant_id" receipt.metadata.tenantId ++
    requireNamespacedRef "receipt_reference" receipt.receiptReference ++
    requireNonEmpty "object_id" receipt.metadata.objectId ++
    requireNonEmpty "version_id" receipt.metadata.versionId ++
    requireNonEmpty "title" receipt.metadata.title ++
    requireNonEmpty "owner_principal_id" receipt.metadata.ownerPrincipalId ++
    requireNonEmpty "created_by" receipt.metadata.createdBy ++
    requireUtcTimestamp "created_at_utc" receipt.metadata.createdAtUtc ++
    requireUtcTimestamp "updated_at_utc" receipt.metadata.updatedAtUtc ++
    requireNonEmpty "retention_policy_id" receipt.metadata.retentionPolicyId ++
    requireNamespacedRef "kms_key_ref" receipt.metadata.kmsKeyRef ++
    sha256Ref "manifest_hash" receipt.metadata.manifestHash ++
    requireNamespacedRef "audit_chain_ref" receipt.metadata.auditChainRef ++
    requireNonEmpty "source_system" receipt.metadata.sourceSystem ++
    requireNonEmpty "source_schema_version" receipt.metadata.schemaVersion ++
    requireNonEmpty "mime_type" receipt.metadata.mimeType ++
    requireNamespacedRef "acl_hash" receipt.metadata.aclHash ++
    requirePositive "acl_version" receipt.metadata.aclVersion ++
    requireNamespacedRef "content_hash" receipt.metadata.contentHash ++
    requireUtcTimestamp "captured_at_utc" receipt.capturedAtUtc ++
    sha256Ref "receipt_hash" receipt.receiptHash ++
    requireNonEmpty "receipt_schema_version" receipt.receiptSchemaVersion

/-- `source_object_write_receipt_payload`. -/
def payload (receipt : SourceObjectWriteReceipt) : Json :=
  .obj [
    ("tenant_id", .str receipt.metadata.tenantId),
    ("receipt_reference", .str receipt.receiptReference),
    ("object_id", .str receipt.metadata.objectId),
    ("object_type", .str receipt.metadata.objectType.value),
    ("version_id", .str receipt.metadata.versionId),
    ("title", .str receipt.metadata.title),
    ("owner_principal_id", .str receipt.metadata.ownerPrincipalId),
    ("created_by", .str receipt.metadata.createdBy),
    ("created_at_utc", .str receipt.metadata.createdAtUtc),
    ("updated_at_utc", .str receipt.metadata.updatedAtUtc),
    ("classification", .str receipt.metadata.classification.value),
    ("retention_policy_id", .str receipt.metadata.retentionPolicyId),
    ("legal_hold_state", .str receipt.metadata.legalHoldState.value),
    ("kms_key_ref", .str receipt.metadata.kmsKeyRef),
    ("manifest_hash", .str receipt.metadata.manifestHash),
    ("audit_chain_ref", .str receipt.metadata.auditChainRef),
    ("source_system", .str receipt.metadata.sourceSystem),
    ("source_schema_version", .str receipt.metadata.schemaVersion),
    ("mime_type", .str receipt.metadata.mimeType),
    ("acl_hash", .str receipt.metadata.aclHash),
    ("acl_version", .int receipt.metadata.aclVersion),
    ("content_hash", .str receipt.metadata.contentHash),
    ("content_byte_length", .int receipt.metadata.contentByteLength),
    ("lifecycle_state", .str receipt.metadata.lifecycleState.value),
    ("parent_object_id", optionalText receipt.metadata.parentObjectId),
    ("thread_id", optionalText receipt.metadata.threadId),
    ("parser_profile_id", optionalText receipt.metadata.parserProfileId),
    ("captured_at_utc", .str receipt.capturedAtUtc),
    ("receipt_schema_version", .str receipt.receiptSchemaVersion)]

end SourceObjectWriteReceipt

def buildSourceObjectWriteReceiptHash (receipt : SourceObjectWriteReceipt) : String :=
  hashJson H receipt.payload

/-- `build_source_object_write_receipt`, with the time it reads as an argument. -/
def buildSourceObjectWriteReceipt (record : SourceObjectRecord)
    (receiptReference auditChainRef capturedAtUtc : String) :
    Except Exn SourceObjectWriteReceipt := do
  let draft : SourceObjectWriteReceipt := {
    metadata := { record.metadata with auditChainRef := auditChainRef }
    receiptReference := receiptReference
    capturedAtUtc := capturedAtUtc }
  let draft ← accept "SourceObjectWriteReceipt" draft.normalized.errors draft.normalized
  return { draft with receiptHash := buildSourceObjectWriteReceiptHash H draft }

/-- `_receipts` and `_object_versions`. -/
structure InMemorySourceObjectWriteReceiptStore where
  receipts       : Dict (String × String) SourceObjectWriteReceipt
  objectVersions : List VersionKey

instance : EmptyCollection InMemorySourceObjectWriteReceiptStore := ⟨⟨∅, []⟩⟩

def InMemorySourceObjectWriteReceiptStore.append (receipt : SourceObjectWriteReceipt) :
    Eff Exn InMemorySourceObjectWriteReceiptStore SourceObjectWriteReceipt := fun store =>
  if receipt.receiptHash ≠ buildSourceObjectWriteReceiptHash H receipt then
    (.error (.valueError (.message "source object write receipt hash is invalid")), store)
  else if store.receipts.contains (receipt.metadata.tenantId, receipt.receiptHash) = true ∨
      receipt.metadata.versionKey ∈ store.objectVersions then
    (.error (.valueError (.message "source object write receipt already exists")), store)
  else
    (.ok receipt, {
      receipts := store.receipts.set (receipt.metadata.tenantId, receipt.receiptHash) receipt
      objectVersions := store.objectVersions ++ [receipt.metadata.versionKey] })

/-! ## The articles -/

/-- Raises unless the record is the one that was approved. -/
def requireSourceRecordMatchesWriteEvidence (tenantId : String)
    (evidence : KnowledgeBaseWriteApprovalEvidence) (sourceRecord : SourceObjectRecord) :
    Except Exn SourceObjectMetadata := do
  let metadata := sourceRecord.metadata
  require (metadata.tenantId = tenantId)
    (.valueError (.message "source object tenant does not match write tenant"))
  require (metadata.objectId = evidence.proposedSourceObjectId)
    (.valueError (.message "source object ID does not match approved write evidence"))
  require (metadata.versionId = evidence.proposedSourceVersionId)
    (.valueError (.message "source version ID does not match approved write evidence"))
  require (metadata.objectType = evidence.proposedSourceObjectType)
    (.valueError (.message "source object type does not match approved write evidence"))
  require (metadata.manifestHash = evidence.proposedSourceManifestHash)
    (.valueError (.message "source manifest hash does not match approved write evidence"))
  require (metadata.contentHash = evidence.proposedContentHash)
    (.valueError (.message "source content hash does not match approved write evidence"))
  require (metadata.aclVersion = evidence.proposedAclVersion)
    (.valueError (.message "source ACL version does not match approved write evidence"))
  return metadata

/-- The fields of a new article. -/
def createdArticleFields (tenantId : String) (evidence : KnowledgeBaseWriteApprovalEvidence)
    (metadata : SourceObjectMetadata) (auditChainRef : String) : KnowledgeBaseArticleFields where
  tenantId := tenantId
  objectId := evidence.articleObjectId
  ownerPrincipalId := metadata.ownerPrincipalId
  createdBy := metadata.createdBy
  createdAtUtc := metadata.createdAtUtc
  updatedAtUtc := metadata.updatedAtUtc
  dataClassification := metadata.classification
  retentionPolicyId := metadata.retentionPolicyId
  legalHoldState := metadata.legalHoldState.value
  kmsKeyRef := metadata.kmsKeyRef
  auditChainRef := auditChainRef
  sourceSystem := evidence.sourceSystem
  articleKey := evidence.articleKey
  title := evidence.title
  currentVersionObjectId := evidence.proposedVersionObjectId
  currentVersionLabel := evidence.proposedVersionLabel
  currentSourceObjectId := evidence.proposedSourceObjectId
  currentSourceVersionId := evidence.proposedSourceVersionId
  currentSourceObjectType := evidence.proposedSourceObjectType
  currentSourceManifestHash := metadata.manifestHash
  currentContentHash := metadata.contentHash
  currentAclVersion := metadata.aclVersion
  publishedAtUtc := some metadata.updatedAtUtc

def buildCreatedArticleFromWriteEvidence (tenantId : String)
    (evidence : KnowledgeBaseWriteApprovalEvidence) (sourceRecord : SourceObjectRecord)
    (auditChainRef : String) : Except Exn KnowledgeBaseArticleRecord := do
  let metadata ← requireSourceRecordMatchesWriteEvidence tenantId evidence sourceRecord
  require (metadata.sourceSystem = evidence.sourceSystem)
    (.valueError (.message "source system does not match approved write evidence"))
  KnowledgeBaseArticleRecord.validate
    (createdArticleFields tenantId evidence metadata auditChainRef)

/-- `existing_article.model_copy(update=...)`. -/
def editedArticle (evidence : KnowledgeBaseWriteApprovalEvidence) (metadata : SourceObjectMetadata)
    (existingArticle : KnowledgeBaseArticleRecord) (auditChainRef : String) :
    KnowledgeBaseArticleRecord :=
  { existingArticle with
    updatedAtUtc := metadata.updatedAtUtc
    currentVersionObjectId := evidence.proposedVersionObjectId
    currentVersionLabel := evidence.proposedVersionLabel
    currentSourceObjectId := evidence.proposedSourceObjectId
    currentSourceVersionId := evidence.proposedSourceVersionId
    currentSourceObjectType := evidence.proposedSourceObjectType
    currentSourceManifestHash := metadata.manifestHash
    currentContentHash := metadata.contentHash
    currentAclVersion := metadata.aclVersion
    auditChainRef := auditChainRef }

def buildEditedArticleFromWriteEvidence (tenantId : String)
    (evidence : KnowledgeBaseWriteApprovalEvidence) (sourceRecord : SourceObjectRecord)
    (existingArticle : KnowledgeBaseArticleRecord) (auditChainRef : String) :
    Except Exn KnowledgeBaseArticleRecord := do
  let metadata ← requireSourceRecordMatchesWriteEvidence tenantId evidence sourceRecord
  require (some existingArticle.currentVersionObjectId = evidence.expectedCurrentVersionObjectId)
    (.valueError (.message "expected current article version does not match approved evidence"))
  return editedArticle evidence metadata existingArticle auditChainRef

/-- Tenant and id of an article. -/
def KnowledgeBaseArticleRecord.key (article : KnowledgeBaseArticleRecord) : ObjectKey :=
  (article.tenantId, article.objectId)

structure InMemoryKnowledgeBaseArticleRepository where
  articles : List KnowledgeBaseArticleRecord
  nodup    : (articles.map (·.key)).Nodup

namespace InMemoryKnowledgeBaseArticleRepository

instance : EmptyCollection InMemoryKnowledgeBaseArticleRepository := ⟨⟨[], List.nodup_nil⟩⟩

def listArticles (repository : InMemoryKnowledgeBaseArticleRepository) (tenantId : String) :
    List KnowledgeBaseArticleRecord :=
  repository.articles.filter fun article => article.tenantId = tenantId

/-- Add an article under a new id. -/
def insert (repository : InMemoryKnowledgeBaseArticleRepository)
    (article : KnowledgeBaseArticleRecord)
    (fresh : article.key ∉ repository.articles.map (·.key)) :
    InMemoryKnowledgeBaseArticleRepository where
  articles := repository.articles ++ [article]
  nodup := by
    rw [List.map_append, List.map_singleton, List.nodup_append]
    refine ⟨repository.nodup, List.nodup_singleton _, ?_⟩
    intro key hkey other hother hsame
    rw [List.mem_singleton.mp hother] at hsame
    exact fresh (hsame ▸ hkey)

/-- Put an article in the place of the one with its id. -/
def replaceArticle (article other : KnowledgeBaseArticleRecord) : KnowledgeBaseArticleRecord :=
  if other.key = article.key then article else other

theorem key_replaceArticle (article other : KnowledgeBaseArticleRecord) :
    (replaceArticle article other).key = other.key := by
  unfold replaceArticle
  split
  · rename_i h
    exact h.symm
  · rfl

def replace (repository : InMemoryKnowledgeBaseArticleRepository)
    (article : KnowledgeBaseArticleRecord) : InMemoryKnowledgeBaseArticleRepository where
  articles := repository.articles.map (replaceArticle article)
  nodup := by
    rw [List.map_map]
    have hkeys : (fun other => (replaceArticle article other).key) =
        fun other : KnowledgeBaseArticleRecord => other.key :=
      funext fun other => key_replaceArticle article other
    show (repository.articles.map fun other => (replaceArticle article other).key).Nodup
    rw [hkeys]
    exact repository.nodup

end InMemoryKnowledgeBaseArticleRepository

theorem KnowledgeBaseArticleRecord.validate_eq_ok {fields : KnowledgeBaseArticleFields}
    {article : KnowledgeBaseArticleRecord} :
    KnowledgeBaseArticleRecord.validate fields = .ok article ↔
      fields.errors = [] ∧ fields.requireStatusLifecycleAlignment = .ok () ∧
        article.toKnowledgeBaseArticleFields = fields := by
  unfold KnowledgeBaseArticleRecord.validate
  constructor
  · intro h
    split at h
    · rename_i herrors
      obtain ⟨_, halign, h⟩ := Except.bind_eq_ok.mp h
      cases h
      exact ⟨herrors, halign, rfl⟩
    · cases h
  · rintro ⟨herrors, halign, rfl⟩
    rw [dif_pos herrors]
    exact Except.bind_eq_ok.mpr ⟨(), halign, rfl⟩

/-- A new article has the id that was asked for. -/
theorem key_of_created {tenantId auditChainRef : String}
    {evidence : KnowledgeBaseWriteApprovalEvidence} {sourceRecord : SourceObjectRecord}
    {article : KnowledgeBaseArticleRecord}
    (h : buildCreatedArticleFromWriteEvidence tenantId evidence sourceRecord auditChainRef =
      .ok article) : article.key = (tenantId, evidence.articleObjectId) := by
  obtain ⟨metadata, -, h⟩ := Except.bind_eq_ok.mp h
  obtain ⟨-, h⟩ := require_bind_eq_ok.mp h
  obtain ⟨-, -, hfields⟩ := KnowledgeBaseArticleRecord.validate_eq_ok.mp h
  rw [KnowledgeBaseArticleRecord.key, hfields]
  rfl

namespace InMemoryKnowledgeBaseArticleRepository

/-- `apply_write` for a new article. -/
def applyCreate (tenantId : String) (evidence : KnowledgeBaseWriteApprovalEvidence)
    (sourceRecord : SourceObjectRecord) (auditChainRef : String) :
    Eff Exn InMemoryKnowledgeBaseArticleRepository KnowledgeBaseArticleRecord := fun repository =>
  if hkey : (tenantId, evidence.articleObjectId) ∈ repository.articles.map (·.key) then
    (.error (.valueError (.message "create write target article already exists")), repository)
  else if ∃ article ∈ repository.articles, article.tenantId = tenantId ∧
      article.articleKey = evidence.articleKey then
    (.error (.valueError (.message "create write target article key already exists")), repository)
  else
    match hcreated : buildCreatedArticleFromWriteEvidence tenantId evidence sourceRecord
        auditChainRef with
    | .error exn => (.error exn, repository)
    | .ok article =>
      (.ok article, repository.insert article (by rw [key_of_created hcreated]; exact hkey))

/-- `apply_write` for the article that is there. -/
def applyEdit (tenantId : String) (evidence : KnowledgeBaseWriteApprovalEvidence)
    (sourceRecord : SourceObjectRecord) (auditChainRef : String) :
    Eff Exn InMemoryKnowledgeBaseArticleRepository KnowledgeBaseArticleRecord := fun repository =>
  match repository.articles.find? fun article =>
      article.key = (tenantId, evidence.articleObjectId) with
  | none => (.error (.lookupError ("knowledge base article not found: " ++
      evidence.articleObjectId)), repository)
  | some existingArticle =>
    match buildEditedArticleFromWriteEvidence tenantId evidence sourceRecord existingArticle
        auditChainRef with
    | .error exn => (.error exn, repository)
    | .ok article => (.ok article, repository.replace article)

def applyWrite (tenantId : String) (evidence : KnowledgeBaseWriteApprovalEvidence)
    (sourceRecord : SourceObjectRecord) (auditChainRef : String) :
    Eff Exn InMemoryKnowledgeBaseArticleRepository KnowledgeBaseArticleRecord :=
  match evidence.operation with
  | .create => applyCreate tenantId evidence sourceRecord auditChainRef
  | .edit => applyEdit tenantId evidence sourceRecord auditChainRef

end InMemoryKnowledgeBaseArticleRepository

end Collabio
