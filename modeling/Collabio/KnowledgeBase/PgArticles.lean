import Mathlib.Tactic
import Collabio.Library.Transactions
import Collabio.KnowledgeBase.Service
import Collabio.Storage.PgReceiptStore

/-!
# Articles in PostgreSQL

`PgKnowledgeBaseArticleRepository`, call by call: an article is a row of `articles`, a row of
`article_versions` for every version it has had, and for each of these the evidence of its source.

* `listArticles` — each row, with the latest evidence of its current version;
* `applyWrite`   — one transaction over four tables.

Columns that a `CHECK` holds at one value (object types, schema versions, the state of a version)
are left out, and so are the texts of the errors that are no unique violation.
-/

namespace Collabio

open Datetime PgSourceObjectWriteReceiptStore

/-! ## The tables -/

/-- A row of `articles`. -/
structure ArticleRow where
  tenantId               : String
  objectId               : String
  ownerPrincipalId       : String
  createdBy              : String
  createdAtUtc           : DateTime
  updatedAtUtc           : DateTime
  dataClassification     : DataClass
  retentionPolicyId      : String
  legalHoldState         : String
  lifecycleState         : KnowledgeBaseArticleLifecycleState
  kmsKeyRef              : String
  auditChainRef          : String
  sourceSystem           : String
  articleKey             : String
  title                  : String
  currentVersionObjectId : String
  currentVersionLabel    : String
  publishedAtUtc         : Option DateTime
  status                 : KnowledgeBaseArticleStatus
  deriving DecidableEq, Repr

/-- A row of `article_versions`. -/
structure ArticleVersionRow where
  tenantId               : String
  objectId               : String
  ownerPrincipalId       : String
  createdBy              : String
  createdAtUtc           : DateTime
  updatedAtUtc           : DateTime
  dataClassification     : DataClass
  retentionPolicyId      : String
  legalHoldState         : String
  lifecycleState         : KnowledgeBaseArticleLifecycleState
  kmsKeyRef              : String
  auditChainRef          : String
  sourceSystem           : String
  articleObjectId        : String
  versionLabel           : String
  sourceObjectVersionRef : String
  contentHash            : String
  publishedAtUtc         : Option DateTime
  deriving DecidableEq, Repr

/-- A row of `source_version_evidence`. -/
structure SourceEvidenceRow where
  evidence      : KnowledgeBaseSourceVersionEvidence
  capturedAtUtc : DateTime
  auditChainRef : String
  deriving DecidableEq, Repr

/-- A row of `restore_evidence`. -/
structure RestoreEvidenceRow where
  evidence      : KnowledgeBaseRestoreEvidence
  capturedAtUtc : DateTime
  deriving DecidableEq, Repr

structure PgArticleTables where
  articles              : List ArticleRow := []
  articleVersions       : List ArticleVersionRow := []
  sourceVersionEvidence : List SourceEvidenceRow := []
  restoreEvidence       : List RestoreEvidenceRow := []

def ArticleRow.key (row : ArticleRow) : ObjectKey := (row.tenantId, row.objectId)

def ArticleVersionRow.key (row : ArticleVersionRow) : ObjectKey := (row.tenantId, row.objectId)

/-- The version that the evidence is of. -/
def SourceEvidenceRow.versionKey (row : SourceEvidenceRow) : ObjectKey :=
  (row.evidence.tenantId, row.evidence.articleVersionObjectId)

/-! ## Constraints -/

/-- `~ '^[a-z0-9][a-z0-9_+.-]*:.+'`; in a regular expression of PostgreSQL the dot is any
character. -/
def matchesRef (value : String) : Bool :=
  (value.toList.takeWhile isSchemeChar).head?.any
      (fun c => Text.isAsciiLower c || Text.isAsciiDigit c) &&
    match value.toList.dropWhile isSchemeChar with
    | ':' :: rest => rest != []
    | _ => false

/-- What the table asks of a row that its types leave open. -/
def ArticleRow.Checks (row : ArticleRow) : Prop :=
  Sendable [row.tenantId, row.objectId, row.ownerPrincipalId, row.createdBy, row.kmsKeyRef,
      row.auditChainRef, row.articleKey, row.title, row.currentVersionObjectId,
      row.currentVersionLabel] ∧
    (∀ text ∈ [row.tenantId, row.objectId, row.ownerPrincipalId, row.createdBy, row.articleKey,
      row.title, row.currentVersionObjectId, row.currentVersionLabel], text ≠ "") ∧
    row.dataClassification = .internal ∧ row.retentionPolicyId = "rp-standard" ∧
    (row.legalHoldState = "none" ∨ row.legalHoldState = "active") ∧
    matchesRef row.kmsKeyRef = true ∧ matchesRef row.auditChainRef = true ∧
    isSourceSystem row.sourceSystem = true ∧
    (row.status ≠ .published ∨ row.publishedAtUtc ≠ none) ∧
    (row.status ≠ .restricted ∨ row.lifecycleState = .restricted)

instance (row : ArticleRow) : Decidable row.Checks := by
  unfold ArticleRow.Checks
  infer_instance

/-- Its state is `published`. -/
def ArticleVersionRow.Checks (row : ArticleVersionRow) : Prop :=
  Sendable [row.tenantId, row.objectId, row.ownerPrincipalId, row.createdBy, row.kmsKeyRef,
      row.auditChainRef, row.articleObjectId, row.versionLabel, row.sourceObjectVersionRef] ∧
    (∀ text ∈ [row.tenantId, row.objectId, row.ownerPrincipalId, row.createdBy,
      row.articleObjectId, row.versionLabel], text ≠ "") ∧
    row.dataClassification = .internal ∧ row.retentionPolicyId = "rp-standard" ∧
    (row.legalHoldState = "none" ∨ row.legalHoldState = "active") ∧
    matchesRef row.kmsKeyRef = true ∧ matchesRef row.auditChainRef = true ∧
    isSourceSystem row.sourceSystem = true ∧ matchesRef row.sourceObjectVersionRef = true ∧
    isSha256Ref row.contentHash = true ∧ row.publishedAtUtc ≠ none

instance (row : ArticleVersionRow) : Decidable row.Checks := by
  unfold ArticleVersionRow.Checks
  infer_instance

def SourceEvidenceRow.Checks (row : SourceEvidenceRow) : Prop :=
  let evidence := row.evidence
  Sendable [evidence.tenantId, evidence.articleObjectId, evidence.articleVersionObjectId,
      evidence.sourceObjectId, evidence.sourceVersionId, row.auditChainRef,
      evidence.schemaVersion] ∧
    (∀ text ∈ [evidence.tenantId, evidence.articleObjectId, evidence.articleVersionObjectId,
      evidence.sourceObjectId, evidence.sourceVersionId], text ≠ "") ∧
    (∀ hash ∈ [evidence.sourceManifestHash, evidence.contentHash, evidence.evidenceHash],
      isSha256Ref hash = true) ∧
    1 ≤ evidence.aclVersion ∧ evidence.aclVersion < 2 ^ 31 ∧
    evidence.dataClassification = .internal ∧ evidence.retentionPolicyId = "rp-standard" ∧
    (evidence.legalHoldState = "none" ∨ evidence.legalHoldState = "active") ∧
    matchesRef row.auditChainRef = true ∧
    evidence.articleVersionObjectId = evidence.sourceObjectId

instance (row : SourceEvidenceRow) : Decidable row.Checks := by
  unfold SourceEvidenceRow.Checks
  infer_instance

def RestoreEvidenceRow.Checks (row : RestoreEvidenceRow) : Prop :=
  let evidence := row.evidence
  Sendable (evidence.tenantId :: evidence.auditChainRef :: evidence.schemaVersion ::
      evidence.sourceVersionEvidenceHashes) ∧
    evidence.tenantId ≠ "" ∧ evidence.moduleId = knowledgeBaseModuleId ∧
    evidence.continuityDomain = "knowledge_base_content" ∧
    (∀ count ∈ [evidence.articleCount, evidence.articleVersionCount,
      evidence.sourceVersionEvidenceCount], count < 2 ^ 31) ∧
    (∀ hash ∈ [evidence.restoreDrillReportHash, evidence.rowCountHash,
      evidence.checksumManifestHash, evidence.evidenceHash], isSha256Ref hash = true) ∧
    evidence.tenantIsolationVerified = true ∧ evidence.disabledStateRestoreVerified = true ∧
    evidence.legalHoldRestoreVerified = true ∧ matchesRef evidence.auditChainRef = true ∧
    evidence.articleVersionCount = evidence.sourceVersionEvidenceCount

instance (row : RestoreEvidenceRow) : Decidable row.Checks := by
  unfold RestoreEvidenceRow.Checks
  infer_instance

/-- The primary key, and the unique article key. -/
def ArticleRow.Conflicts (row other : ArticleRow) : Prop :=
  other.key = row.key ∨ (other.tenantId, other.articleKey) = (row.tenantId, row.articleKey)

instance (row other : ArticleRow) : Decidable (row.Conflicts other) := by
  unfold ArticleRow.Conflicts
  infer_instance

/-- The primary key, and one label for one version of an article. -/
def ArticleVersionRow.Conflicts (row other : ArticleVersionRow) : Prop :=
  other.key = row.key ∨ (other.tenantId, other.articleObjectId, other.versionLabel) =
    (row.tenantId, row.articleObjectId, row.versionLabel)

instance (row other : ArticleVersionRow) : Decidable (row.Conflicts other) := by
  unfold ArticleVersionRow.Conflicts
  infer_instance

def SourceEvidenceRow.primaryKey (row : SourceEvidenceRow) : ObjectKey × String :=
  (row.versionKey, row.evidence.evidenceHash)

def RestoreEvidenceRow.primaryKey (row : RestoreEvidenceRow) : String × String :=
  (row.evidence.tenantId, row.evidence.evidenceHash)

/-! ## The repository -/

/-- The repository, with what it leaves to Python's runtime and to the server: digests,
`str.lower`, how a text is read as a `timestamptz`, and the order by `lower(title)` and id. -/
structure PgKnowledgeBaseArticleRepository extends KnowledgeBaseArticleService where
  readTimestamp : String → Option DateTime
  before        : ArticleRow → ArticleRow → Bool

def buildSourceVersionEvidenceStub (H : HashFunctions) (article : KnowledgeBaseArticleRecord) :
    Except Exn KnowledgeBaseSourceVersionEvidence :=
  KnowledgeBaseSourceVersionEvidence.sealed H {
    tenantId := article.tenantId
    articleObjectId := article.objectId
    articleVersionObjectId := article.currentVersionObjectId
    sourceObjectId := article.currentSourceObjectId
    sourceVersionId := article.currentSourceVersionId
    sourceObjectType := article.currentSourceObjectType
    sourceManifestHash := article.currentSourceManifestHash
    contentHash := article.currentContentHash
    aclVersion := article.currentAclVersion
    dataClassification := article.dataClassification
    retentionPolicyId := article.retentionPolicyId
    legalHoldState := article.legalHoldState }

def sourceObjectVersionRef (article : KnowledgeBaseArticleRecord) : String :=
  "source:" ++ article.currentSourceObjectId ++ ":" ++ article.currentSourceVersionId

namespace PgKnowledgeBaseArticleRepository

/-- An error of the database that `apply_write` passes on. -/
def databaseError : Exn := .databaseError "DatabaseError"

/-- What `apply_write` makes of a unique violation. -/
def conflict : Exn :=
  .valueError (.message "knowledge base write transaction conflicts with existing metadata")

/-! ### Reading -/

/-- `ORDER BY captured_at_utc DESC, evidence_hash DESC`. -/
def evidenceKey (row : SourceEvidenceRow) : Int ×ₗ String :=
  toLex (row.capturedAtUtc.instant, row.evidence.evidenceHash)

def latestSourceEvidenceRow (tables : PgArticleTables) (tenantId articleObjectId
    articleVersionObjectId : String) : Except Exn KnowledgeBaseSourceVersionEvidence :=
  match ((tables.sourceVersionEvidence.filter fun row => row.evidence.tenantId = tenantId ∧
      row.evidence.articleObjectId = articleObjectId ∧
      row.evidence.articleVersionObjectId = articleVersionObjectId).mergeSort
        fun a b => decide (evidenceKey b ≤ evidenceKey a)).head? with
  | some row => .ok row.evidence
  | none => .error (.lookupError "knowledge base article is missing source-version evidence")

/-- The fields that `_article_from_row` gives the model. -/
def articleFields (row : ArticleRow) (sourceEvidence : KnowledgeBaseSourceVersionEvidence) :
    KnowledgeBaseArticleFields where
  tenantId := row.tenantId
  objectId := row.objectId
  ownerPrincipalId := row.ownerPrincipalId
  createdBy := row.createdBy
  createdAtUtc := utcTimestamp row.createdAtUtc
  updatedAtUtc := utcTimestamp row.updatedAtUtc
  dataClassification := row.dataClassification
  retentionPolicyId := row.retentionPolicyId
  legalHoldState := row.legalHoldState
  lifecycleState := row.lifecycleState
  kmsKeyRef := row.kmsKeyRef
  auditChainRef := row.auditChainRef
  sourceSystem := row.sourceSystem
  articleKey := row.articleKey
  title := row.title
  currentVersionObjectId := row.currentVersionObjectId
  currentVersionLabel := row.currentVersionLabel
  currentSourceObjectId := sourceEvidence.sourceObjectId
  currentSourceVersionId := sourceEvidence.sourceVersionId
  currentSourceObjectType := sourceEvidence.sourceObjectType
  currentSourceManifestHash := sourceEvidence.sourceManifestHash
  currentContentHash := sourceEvidence.contentHash
  currentAclVersion := sourceEvidence.aclVersion
  publishedAtUtc := row.publishedAtUtc.map utcTimestamp
  status := row.status

/-- A row of the listing. -/
def articleFromRow (tables : PgArticleTables) (row : ArticleRow) :
    Except Exn KnowledgeBaseArticleRecord := do
  let sourceEvidence ← latestSourceEvidenceRow tables row.tenantId row.objectId
    row.currentVersionObjectId
  KnowledgeBaseArticleRecord.validate (articleFields row sourceEvidence)

variable (repository : PgKnowledgeBaseArticleRepository)

def listArticles (tenantId : String) (tables : PgArticleTables) :
    Except Exn (List KnowledgeBaseArticleRecord) :=
  if ¬ Sendable [tenantId] then .error databaseError
  else ((tables.articles.filter fun row => row.tenantId = tenantId).mergeSort
    repository.before).mapM (articleFromRow tables)

/-! ### Statements -/

def articleRow (article : KnowledgeBaseArticleRecord) : Option ArticleRow := do
  let createdAtUtc ← repository.readTimestamp article.createdAtUtc
  let updatedAtUtc ← repository.readTimestamp article.updatedAtUtc
  let publishedAtUtc ← article.publishedAtUtc.mapM repository.readTimestamp
  return {
    tenantId := article.tenantId
    objectId := article.objectId
    ownerPrincipalId := article.ownerPrincipalId
    createdBy := article.createdBy
    createdAtUtc := createdAtUtc
    updatedAtUtc := updatedAtUtc
    dataClassification := article.dataClassification
    retentionPolicyId := article.retentionPolicyId
    legalHoldState := article.legalHoldState
    lifecycleState := article.lifecycleState
    kmsKeyRef := article.kmsKeyRef
    auditChainRef := article.auditChainRef
    sourceSystem := article.sourceSystem
    articleKey := article.articleKey
    title := article.title
    currentVersionObjectId := article.currentVersionObjectId
    currentVersionLabel := article.currentVersionLabel
    publishedAtUtc := publishedAtUtc
    status := article.status }

def insertArticle (article : KnowledgeBaseArticleRecord) : Eff Exn PgArticleTables Unit :=
  fun tables =>
    match repository.articleRow article with
    | none => (.error databaseError, tables)
    | some row =>
      if ¬ row.Checks then (.error databaseError, tables)
      else if ∃ other ∈ tables.articles, row.Conflicts other then (.error conflict, tables)
      else (.ok (), { tables with articles := tables.articles ++ [row] })

def articleVersionRow (article : KnowledgeBaseArticleRecord) : Option ArticleVersionRow := do
  let updatedAtUtc ← repository.readTimestamp article.updatedAtUtc
  let publishedAtUtc ← article.publishedAtUtc.mapM repository.readTimestamp
  return {
    tenantId := article.tenantId
    objectId := article.currentVersionObjectId
    ownerPrincipalId := article.ownerPrincipalId
    createdBy := article.createdBy
    createdAtUtc := updatedAtUtc
    updatedAtUtc := updatedAtUtc
    dataClassification := article.dataClassification
    retentionPolicyId := article.retentionPolicyId
    legalHoldState := article.legalHoldState
    lifecycleState := article.lifecycleState
    kmsKeyRef := article.kmsKeyRef
    auditChainRef := article.auditChainRef
    sourceSystem := article.sourceSystem
    articleObjectId := article.objectId
    versionLabel := article.currentVersionLabel
    sourceObjectVersionRef := sourceObjectVersionRef article
    contentHash := article.currentContentHash
    publishedAtUtc := publishedAtUtc }

/-- The article is there by a foreign key. -/
def insertArticleVersion (article : KnowledgeBaseArticleRecord) :
    Eff Exn PgArticleTables Unit := fun tables =>
  match repository.articleVersionRow article with
  | none => (.error databaseError, tables)
  | some row =>
    if ¬ row.Checks then (.error databaseError, tables)
    else if ∃ other ∈ tables.articleVersions, row.Conflicts other then (.error conflict, tables)
    else if ∀ other ∈ tables.articles, other.key ≠ (row.tenantId, row.articleObjectId) then
      (.error databaseError, tables)
    else (.ok (), { tables with articleVersions := tables.articleVersions ++ [row] })

/-- The row that the update leaves. A trigger puts the time of the transaction in the place of the
`updated_at_utc` that the statement sets. -/
def currentVersionSet (article : KnowledgeBaseArticleRecord) (publishedAtUtc : Option DateTime)
    (now : DateTime) (row : ArticleRow) : ArticleRow :=
  if row.key = article.key then
    { row with
      updatedAtUtc := now
      auditChainRef := article.auditChainRef
      currentVersionObjectId := article.currentVersionObjectId
      currentVersionLabel := article.currentVersionLabel
      publishedAtUtc := publishedAtUtc
      status := article.status }
  else row

def updateArticleCurrentVersion (now : DateTime) (article : KnowledgeBaseArticleRecord) :
    Eff Exn PgArticleTables Unit := fun tables =>
  match repository.readTimestamp article.updatedAtUtc,
      article.publishedAtUtc.mapM repository.readTimestamp with
  | some _, some publishedAtUtc =>
    let articles := tables.articles.map (currentVersionSet article publishedAtUtc now)
    if ∃ row ∈ articles, row.key = article.key ∧ ¬ row.Checks then (.error databaseError, tables)
    else if (articles.filter fun row => row.key = article.key).length ≠ 1 then
      (.error (.lookupError ("knowledge base article not found: " ++ article.objectId)), tables)
    else (.ok (), { tables with articles })
  | _, _ => (.error databaseError, tables)

/-- Article and version are there by foreign keys. -/
def insertSourceVersionEvidence (now : DateTime) (evidence : KnowledgeBaseSourceVersionEvidence)
    (auditChainRef : String) : Eff Exn PgArticleTables Unit := fun tables =>
  let row : SourceEvidenceRow := ⟨evidence, now, auditChainRef⟩
  if ¬ row.Checks then (.error databaseError, tables)
  else if ∃ other ∈ tables.sourceVersionEvidence, other.primaryKey = row.primaryKey then
    (.error conflict, tables)
  else if (∀ other ∈ tables.articles, other.key ≠ (evidence.tenantId, evidence.articleObjectId)) ∨
      ∀ other ∈ tables.articleVersions, other.key ≠ row.versionKey then
    (.error databaseError, tables)
  else (.ok (), { tables with
    sourceVersionEvidence := tables.sourceVersionEvidence ++ [row] })

def insertRestoreEvidence (now : DateTime) (evidence : KnowledgeBaseRestoreEvidence) :
    Eff Exn PgArticleTables Unit := fun tables =>
  let row : RestoreEvidenceRow := ⟨evidence, now⟩
  if ¬ row.Checks then (.error databaseError, tables)
  else if ∃ other ∈ tables.restoreEvidence, other.primaryKey = row.primaryKey then
    (.error conflict, tables)
  else (.ok (), { tables with restoreEvidence := tables.restoreEvidence ++ [row] })

/-! ### Writing -/

/-- The article that the write leaves. -/
def updatedArticle (tenantId : String) (evidence : KnowledgeBaseWriteApprovalEvidence)
    (sourceRecord : SourceObjectRecord) (auditChainRef : String)
    (records : List KnowledgeBaseArticleRecord) : Except Exn KnowledgeBaseArticleRecord :=
  match evidence.operation,
      KnowledgeBaseArticleService.findArticle records evidence.articleObjectId with
  | .create, some _ =>
    .error (.valueError (.message "create write target article already exists"))
  | .create, none => do
    require (∀ article ∈ records, article.articleKey ≠ evidence.articleKey)
      (.valueError (.message "create write target article key already exists"))
    buildCreatedArticleFromWriteEvidence tenantId evidence sourceRecord auditChainRef
  | .edit, none =>
    .error (.lookupError ("knowledge base article not found: " ++ evidence.articleObjectId))
  | .edit, some existingArticle =>
    buildEditedArticleFromWriteEvidence tenantId evidence sourceRecord existingArticle
      auditChainRef

/-- The records after the write, as the listing orders them. -/
def refreshedRecords (operation : KnowledgeBaseWriteOperation)
    (article : KnowledgeBaseArticleRecord) (records : List KnowledgeBaseArticleRecord) :
    List KnowledgeBaseArticleRecord :=
  (match operation with
    | .create => records ++ [article]
    | .edit => records.map fun record : KnowledgeBaseArticleRecord =>
      if record.objectId = article.objectId then article else record).insertionSort
    repository.ByTitle

/-- The statements that store the article. -/
def storeArticle (now : DateTime) (operation : KnowledgeBaseWriteOperation)
    (article : KnowledgeBaseArticleRecord) : Eff Exn PgArticleTables Unit :=
  match operation with
  | .create => do
    repository.insertArticle article
    repository.insertArticleVersion article
  | .edit => do
    repository.insertArticleVersion article
    repository.updateArticleCurrentVersion now article

/-- The evidence of the written version, as it was approved. -/
def refreshedSourceEvidence (tenantId : String) (evidence : KnowledgeBaseWriteApprovalEvidence)
    (sourceRecord : SourceObjectRecord) : Except Exn KnowledgeBaseSourceVersionEvidence := do
  let refreshed ← buildSourceVersionEvidenceForSourceRecord repository.hashes tenantId
    evidence.articleObjectId evidence.proposedVersionObjectId sourceRecord
  require (refreshed.evidenceHash = evidence.proposedSourceVersionEvidenceHash)
    (.valueError (.message "post-write source-version evidence does not match approved evidence"))
  return refreshed

/-- The restore evidence over the refreshed records. -/
def refreshedRestoreEvidence (tenantId : String) (article : KnowledgeBaseArticleRecord)
    (refreshed : KnowledgeBaseSourceVersionEvidence) (records : List KnowledgeBaseArticleRecord) :
    Except Exn KnowledgeBaseRestoreEvidence := do
  let sourceEvidences ← records.mapM fun record : KnowledgeBaseArticleRecord =>
    if record.objectId = article.objectId then .ok refreshed
    else buildSourceVersionEvidenceStub repository.hashes record
  buildKnowledgeBaseRestoreEvidence repository.hashes tenantId records sourceEvidences
    (repository.restoreDrillReportHash tenantId) "audit:knowledge-base-restore-evidence"

/-- `apply_write`; `now` is the time of its transaction. -/
def applyWrite (now : DateTime) (tenantId : String) (evidence : KnowledgeBaseWriteApprovalEvidence)
    (sourceRecord : SourceObjectRecord) (auditChainRef : String) :
    Eff Exn PgArticleTables KnowledgeBaseArticleRecord := Eff.transaction do
  let tables ← Eff.get
  let records ← Eff.lift (repository.listArticles tenantId tables)
  let article ← Eff.lift (updatedArticle tenantId evidence sourceRecord auditChainRef records)
  repository.storeArticle now evidence.operation article
  let refreshed ← Eff.lift (repository.refreshedSourceEvidence tenantId evidence sourceRecord)
  let restoreEvidence ← Eff.lift (repository.refreshedRestoreEvidence tenantId article refreshed
    (repository.refreshedRecords evidence.operation article records))
  insertSourceVersionEvidence now refreshed auditChainRef
  insertRestoreEvidence now restoreEvidence
  return article

end PgKnowledgeBaseArticleRepository

end Collabio
