import Mathlib.Tactic
import Collabio.KnowledgeBase.Models

/-!
# Evidence of sources and of the whole base

* `buildKnowledgeBaseSourceVersionEvidence` — an article agrees with the source it names;
* `buildKnowledgeBaseRestoreEvidence`       — counts and checksums over all articles of a tenant.

An evidence is drafted with the zero hash, checked, and then given the hash of
all its other fields.
-/

namespace Collabio

variable (H : HashFunctions)

/-! ## Source-version evidence -/

@[ext] structure KnowledgeBaseSourceVersionEvidence where
  tenantId               : String
  articleObjectId        : String
  articleVersionObjectId : String
  sourceObjectId         : String
  sourceVersionId        : String
  sourceObjectType       : SourceObjectType
  sourceManifestHash     : String
  contentHash            : String
  aclVersion             : Nat
  dataClassification     : DataClass
  retentionPolicyId      : String
  legalHoldState         : String
  evidenceHash           : String := zeroHash
  schemaVersion          : String := "knowledge_base_source_version_evidence.v1"
  deriving DecidableEq, Repr

namespace KnowledgeBaseSourceVersionEvidence

def notBlank : (field value : String) → List FieldError :=
  requireNotBlank "knowledge base source evidence fields must not be empty"

def namespacedHash : (field value : String) → List FieldError :=
  requireFullmatch isKbRef "knowledge base source evidence hashes must be namespaced"

def errors (evidence : KnowledgeBaseSourceVersionEvidence) : List FieldError :=
  notBlank "tenant_id" evidence.tenantId ++
    notBlank "article_object_id" evidence.articleObjectId ++
    notBlank "article_version_object_id" evidence.articleVersionObjectId ++
    notBlank "source_object_id" evidence.sourceObjectId ++
    notBlank "source_version_id" evidence.sourceVersionId ++
    namespacedHash "source_manifest_hash" evidence.sourceManifestHash ++
    namespacedHash "content_hash" evidence.contentHash ++
    requirePositive "acl_version" evidence.aclVersion ++
    notBlank "retention_policy_id" evidence.retentionPolicyId ++
    notBlank "legal_hold_state" evidence.legalHoldState ++
    namespacedHash "evidence_hash" evidence.evidenceHash

/-- `model_dump(mode="json", exclude={"evidence_hash"})`, member by member. -/
def payloadMembers (evidence : KnowledgeBaseSourceVersionEvidence) : List (String × Json) :=
  [("tenant_id", .str evidence.tenantId),
    ("article_object_id", .str evidence.articleObjectId),
    ("article_version_object_id", .str evidence.articleVersionObjectId),
    ("source_object_id", .str evidence.sourceObjectId),
    ("source_version_id", .str evidence.sourceVersionId),
    ("source_object_type", .str evidence.sourceObjectType.value),
    ("source_manifest_hash", .str evidence.sourceManifestHash),
    ("content_hash", .str evidence.contentHash),
    ("acl_version", .int evidence.aclVersion),
    ("data_classification", .str evidence.dataClassification.value),
    ("retention_policy_id", .str evidence.retentionPolicyId),
    ("legal_hold_state", .str evidence.legalHoldState),
    ("schema_version", .str evidence.schemaVersion)]

def payload (evidence : KnowledgeBaseSourceVersionEvidence) : Json := .obj evidence.payloadMembers

theorem nodup_payloadKeys (evidence : KnowledgeBaseSourceVersionEvidence) :
    (evidence.payloadMembers.map Prod.fst).Nodup := by
  show ["tenant_id", "article_object_id", "article_version_object_id", "source_object_id",
    "source_version_id", "source_object_type", "source_manifest_hash", "content_hash",
    "acl_version", "data_classification", "retention_policy_id", "legal_hold_state",
    "schema_version"].Nodup
  decide

end KnowledgeBaseSourceVersionEvidence

def buildSourceVersionEvidenceHash (evidence : KnowledgeBaseSourceVersionEvidence) : String :=
  hashJson H evidence.payload

/-- A checked draft with its hash. -/
def KnowledgeBaseSourceVersionEvidence.sealed (draft : KnowledgeBaseSourceVersionEvidence) :
    Except Exn KnowledgeBaseSourceVersionEvidence := do
  let draft ← accept "KnowledgeBaseSourceVersionEvidence" draft.errors draft
  return { draft with evidenceHash := buildSourceVersionEvidenceHash H draft }

/-- A list with one name if a check fails. -/
def mismatch (condition : Prop) [Decidable condition] (name : String) : List String :=
  if condition then [] else [name]

@[simp] theorem mismatch_eq_nil {condition : Prop} [Decidable condition] {name : String} :
    mismatch condition name = [] ↔ condition := by
  unfold mismatch
  split <;> simp_all

/-- In what an article and the source it names disagree. -/
def sourceVersionMismatches (article : KnowledgeBaseArticleRecord)
    (sourceRecord : SourceObjectRecord) : List String :=
  let metadata := sourceRecord.metadata
  mismatch (metadata.tenantId = article.tenantId) "tenant_id" ++
    mismatch (metadata.objectId = article.currentSourceObjectId) "source_object_id" ++
    mismatch (metadata.versionId = article.currentSourceVersionId) "source_version_id" ++
    mismatch (metadata.objectId = article.currentVersionObjectId) "article_version_object_id" ++
    mismatch (metadata.objectType = article.currentSourceObjectType) "source_object_type" ++
    mismatch (metadata.manifestHash = article.currentSourceManifestHash ∧
      metadata.manifestHash = buildSourceObjectManifestHash H metadata) "source_manifest_hash" ++
    mismatch (metadata.contentHash = article.currentContentHash ∧
      metadata.contentHash = computeContentHash H (sourceObjectContentBytes sourceRecord))
      "content_hash" ++
    mismatch (metadata.aclVersion = article.currentAclVersion) "acl_version" ++
    mismatch (metadata.classification = article.dataClassification) "data_classification" ++
    mismatch (metadata.retentionPolicyId = article.retentionPolicyId) "retention_policy_id" ++
    mismatch (metadata.legalHoldState.value = article.legalHoldState) "legal_hold_state"

/-- The draft for metadata under an article and one of its versions. -/
def sourceVersionDraft (tenantId articleObjectId articleVersionObjectId : String)
    (metadata : SourceObjectMetadata) : KnowledgeBaseSourceVersionEvidence where
  tenantId := tenantId
  articleObjectId := articleObjectId
  articleVersionObjectId := articleVersionObjectId
  sourceObjectId := metadata.objectId
  sourceVersionId := metadata.versionId
  sourceObjectType := metadata.objectType
  sourceManifestHash := metadata.manifestHash
  contentHash := metadata.contentHash
  aclVersion := metadata.aclVersion
  dataClassification := metadata.classification
  retentionPolicyId := metadata.retentionPolicyId
  legalHoldState := metadata.legalHoldState.value

def buildKnowledgeBaseSourceVersionEvidence (article : KnowledgeBaseArticleRecord)
    (sourceRecord : SourceObjectRecord) : Except Exn KnowledgeBaseSourceVersionEvidence := do
  let mismatches := sourceVersionMismatches H article sourceRecord
  require (mismatches = []) (.valueError (.message
    ("knowledge base source version evidence mismatch: " ++
      ", ".intercalate (mismatches.insertionSort (· ≤ ·)))))
  (sourceVersionDraft article.tenantId article.objectId article.currentVersionObjectId
    sourceRecord.metadata).sealed H

def buildSourceVersionEvidenceForSourceRecord
    (tenantId articleObjectId articleVersionObjectId : String) (sourceRecord : SourceObjectRecord) :
    Except Exn KnowledgeBaseSourceVersionEvidence :=
  (sourceVersionDraft tenantId articleObjectId articleVersionObjectId
    sourceRecord.metadata).sealed H

/-! ## Restore evidence -/

structure KnowledgeBaseRestoreEvidence where
  tenantId                     : String
  moduleId                     : String := knowledgeBaseModuleId
  continuityDomain             : String := "knowledge_base_content"
  articleCount                 : Nat
  articleVersionCount          : Nat
  sourceVersionEvidenceCount   : Nat
  sourceVersionEvidenceHashes  : List String
  restoreDrillReportHash       : String
  rowCountHash                 : String
  checksumManifestHash         : String
  tenantIsolationVerified      : Bool
  disabledStateRestoreVerified : Bool
  legalHoldRestoreVerified     : Bool
  auditChainRef                : String
  evidenceHash                 : String := zeroHash
  schemaVersion                : String := "knowledge_base_restore_evidence.v1"
  deriving DecidableEq, Repr

namespace KnowledgeBaseRestoreEvidence

def namespacedRef : (field value : String) → List FieldError :=
  requireFullmatch isKbRef "knowledge base restore evidence references must be namespaced"

def validateEvidenceHashes (value : List String) : List FieldError :=
  if ¬ value.Nodup then
    [⟨"source_version_evidence_hashes",
      .message "source version evidence hashes must be unique"⟩]
  else if ¬ value.all isKbRef = true then
    [⟨"source_version_evidence_hashes",
      .message "source version evidence hashes must be namespaced"⟩]
  else []

def errors (evidence : KnowledgeBaseRestoreEvidence) : List FieldError :=
  requireNotBlank "knowledge base restore evidence fields must not be empty" "tenant_id"
      evidence.tenantId ++
    validateEvidenceHashes evidence.sourceVersionEvidenceHashes ++
    namespacedRef "restore_drill_report_hash" evidence.restoreDrillReportHash ++
    namespacedRef "row_count_hash" evidence.rowCountHash ++
    namespacedRef "checksum_manifest_hash" evidence.checksumManifestHash ++
    namespacedRef "audit_chain_ref" evidence.auditChainRef ++
    namespacedRef "evidence_hash" evidence.evidenceHash

/-- `require_complete_restore_checks`. -/
def requireCompleteRestoreChecks (evidence : KnowledgeBaseRestoreEvidence) : Except Exn Unit := do
  requireModel "KnowledgeBaseRestoreEvidence" (evidence.moduleId = knowledgeBaseModuleId)
    "knowledge base restore evidence must belong to knowledge_base"
  requireModel "KnowledgeBaseRestoreEvidence" (evidence.continuityDomain = "knowledge_base_content")
    "knowledge base restore evidence must use knowledge_base_content"
  requireModel "KnowledgeBaseRestoreEvidence"
    (evidence.articleVersionCount = evidence.sourceVersionEvidenceCount)
    "article versions and source-version evidence counts must match"
  requireModel "KnowledgeBaseRestoreEvidence"
    (evidence.sourceVersionEvidenceHashes.length = evidence.sourceVersionEvidenceCount)
    "source_version_evidence_hashes must match source_version_evidence_count"
  requireModel "KnowledgeBaseRestoreEvidence" (evidence.tenantIsolationVerified = true)
    "restore evidence must verify tenant isolation"
  requireModel "KnowledgeBaseRestoreEvidence" (evidence.disabledStateRestoreVerified = true)
    "restore evidence must verify disabled-state restore behavior"
  requireModel "KnowledgeBaseRestoreEvidence" (evidence.legalHoldRestoreVerified = true)
    "restore evidence must verify Legal Hold state"

/-- `model_dump(mode="json", exclude={"evidence_hash"})`, member by member. -/
def payloadMembers (evidence : KnowledgeBaseRestoreEvidence) : List (String × Json) :=
  [("tenant_id", .str evidence.tenantId),
    ("module_id", .str evidence.moduleId),
    ("continuity_domain", .str evidence.continuityDomain),
    ("article_count", .int evidence.articleCount),
    ("article_version_count", .int evidence.articleVersionCount),
    ("source_version_evidence_count", .int evidence.sourceVersionEvidenceCount),
    ("source_version_evidence_hashes", .arr (evidence.sourceVersionEvidenceHashes.map .str)),
    ("restore_drill_report_hash", .str evidence.restoreDrillReportHash),
    ("row_count_hash", .str evidence.rowCountHash),
    ("checksum_manifest_hash", .str evidence.checksumManifestHash),
    ("tenant_isolation_verified", .bool evidence.tenantIsolationVerified),
    ("disabled_state_restore_verified", .bool evidence.disabledStateRestoreVerified),
    ("legal_hold_restore_verified", .bool evidence.legalHoldRestoreVerified),
    ("audit_chain_ref", .str evidence.auditChainRef),
    ("schema_version", .str evidence.schemaVersion)]

def payload (evidence : KnowledgeBaseRestoreEvidence) : Json := .obj evidence.payloadMembers

theorem nodup_payloadKeys (evidence : KnowledgeBaseRestoreEvidence) :
    (evidence.payloadMembers.map Prod.fst).Nodup := by
  show ["tenant_id", "module_id", "continuity_domain", "article_count", "article_version_count",
    "source_version_evidence_count", "source_version_evidence_hashes",
    "restore_drill_report_hash", "row_count_hash", "checksum_manifest_hash",
    "tenant_isolation_verified", "disabled_state_restore_verified",
    "legal_hold_restore_verified", "audit_chain_ref", "schema_version"].Nodup
  decide

end KnowledgeBaseRestoreEvidence

def buildRestoreEvidenceHash (evidence : KnowledgeBaseRestoreEvidence) : String :=
  hashJson H evidence.payload

/-- A checked draft with its hash. -/
def KnowledgeBaseRestoreEvidence.sealed (draft : KnowledgeBaseRestoreEvidence) :
    Except Exn KnowledgeBaseRestoreEvidence := do
  let draft ← accept "KnowledgeBaseRestoreEvidence" draft.errors draft
  draft.requireCompleteRestoreChecks
  return { draft with evidenceHash := buildRestoreEvidenceHash H draft }

/-- By article id; evidences of one article keep their order. -/
def ByArticle (a b : KnowledgeBaseSourceVersionEvidence) : Prop :=
  a.articleObjectId ≤ b.articleObjectId

instance : DecidableRel ByArticle :=
  fun a b => inferInstanceAs (Decidable (a.articleObjectId ≤ b.articleObjectId))

def rowCountPayload (tenantId : String) (articleCount evidenceCount : Nat) : Json :=
  .obj [
    ("article_count", .int articleCount),
    ("article_version_count", .int articleCount),
    ("source_version_evidence_count", .int evidenceCount),
    ("tenant_id", .str tenantId)]

/-- The entry of one evidence in the checksum payload. -/
def checksumEntry (evidence : KnowledgeBaseSourceVersionEvidence) : Json :=
  .obj [
    ("article_object_id", .str evidence.articleObjectId),
    ("article_version_object_id", .str evidence.articleVersionObjectId),
    ("source_manifest_hash", .str evidence.sourceManifestHash),
    ("content_hash", .str evidence.contentHash),
    ("evidence_hash", .str evidence.evidenceHash)]

def checksumPayload (sourceEvidences : List KnowledgeBaseSourceVersionEvidence) : Json :=
  .arr ((sourceEvidences.insertionSort ByArticle).map checksumEntry)

/-- The hashes, sorted. -/
def evidenceHashes (sourceEvidences : List KnowledgeBaseSourceVersionEvidence) : List String :=
  (sourceEvidences.map (·.evidenceHash)).insertionSort (· ≤ ·)

def restoreDraft (tenantId : String) (articleCount : Nat)
    (sourceEvidences : List KnowledgeBaseSourceVersionEvidence)
    (restoreDrillReportHash auditChainRef : String) : KnowledgeBaseRestoreEvidence where
  tenantId := tenantId
  articleCount := articleCount
  articleVersionCount := articleCount
  sourceVersionEvidenceCount := sourceEvidences.length
  sourceVersionEvidenceHashes := evidenceHashes sourceEvidences
  restoreDrillReportHash := restoreDrillReportHash
  rowCountHash := hashJson H (rowCountPayload tenantId articleCount sourceEvidences.length)
  checksumManifestHash := hashJson H (checksumPayload sourceEvidences)
  tenantIsolationVerified := true
  disabledStateRestoreVerified := true
  legalHoldRestoreVerified := true
  auditChainRef := auditChainRef

def buildKnowledgeBaseRestoreEvidence (tenantId : String)
    (articles : List KnowledgeBaseArticleRecord)
    (sourceEvidences : List KnowledgeBaseSourceVersionEvidence)
    (restoreDrillReportHash auditChainRef : String) : Except Exn KnowledgeBaseRestoreEvidence := do
  require (∀ article ∈ articles, article.tenantId = tenantId)
    (.valueError (.message "knowledge base restore evidence cannot mix tenants"))
  require (∀ evidence ∈ sourceEvidences, evidence.tenantId = tenantId)
    (.valueError (.message "knowledge base restore evidence cannot mix source evidence tenants"))
  require ((∀ article ∈ articles, article.objectId ∈ sourceEvidences.map (·.articleObjectId)) ∧
      ∀ evidence ∈ sourceEvidences, evidence.articleObjectId ∈ articles.map (·.objectId))
    (.valueError (.message "knowledge base restore evidence must cover every article"))
  (restoreDraft H tenantId articles.length sourceEvidences restoreDrillReportHash
    auditChainRef).sealed H

end Collabio
