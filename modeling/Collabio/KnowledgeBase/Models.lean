import Mathlib.Tactic
import Collabio.ControlPlane.Audit
import Collabio.Storage.SourceObjectsSpec

/-!
# Models of the knowledge base

Records, evidences and commands, each with the checks its model makes. Values
are checked as they are, without being stripped first.

* `KnowledgeBaseArticleRecord`          — carries what no update of a record touches;
* `KnowledgeBaseSourceVersionEvidence`, `KnowledgeBaseRestoreEvidence`,
  `KnowledgeBaseWriteApprovalEvidence`, `KnowledgeBaseSourceObjectWriteGuardDecision`
  — with the payloads that are hashed;
* the three commands                    — carry that they were accepted.
-/

namespace Collabio

/-! ## Shared checks -/

/-- `if not value.strip()`. -/
def requireNotBlank (text field value : String) : List FieldError :=
  if Text.strip value = "" then [⟨field, .message text⟩] else []

@[simp] theorem requireNotBlank_eq_nil {text field value : String} :
    requireNotBlank text field value = [] ↔ Text.strip value ≠ "" := by
  unfold requireNotBlank
  split <;> simp_all

/-- `if not PATTERN.fullmatch(value)`. -/
def requireFullmatch (pattern : String → Bool) (text field value : String) : List FieldError :=
  if pattern value then [] else [⟨field, .message text⟩]

@[simp] theorem requireFullmatch_eq_nil {pattern : String → Bool} {text field value : String} :
    requireFullmatch pattern text field value = [] ↔ pattern value = true := by
  unfold requireFullmatch
  split <;> simp_all

/-- `NAMESPACED_REF_PATTERN`: here a scheme may start with a digit. -/
def isKbRef (value : String) : Bool :=
  let scheme := value.toList.takeWhile isSchemeChar
  scheme.head?.any (fun c => Text.isAsciiLower c || Text.isAsciiDigit c) &&
    match value.toList.dropWhile isSchemeChar with
    | ':' :: rest => rest != [] && rest.all (· != '\n')
    | _ => false

/-- The knowledge base takes every reference that the storage takes. -/
theorem isKbRef_of_isNamespacedRef {value : String} (h : isNamespacedRef value = true) :
    isKbRef value = true := by
  unfold isNamespacedRef at h
  unfold isKbRef
  simp only [Bool.and_eq_true] at h ⊢
  refine ⟨?_, h.2⟩
  cases hhead : (value.toList.takeWhile isSchemeChar).head? with
  | none =>
    rw [hhead] at h
    exact absurd h.1 Bool.false_ne_true
  | some c =>
    rw [hhead, Option.any_some] at h
    rw [Option.any_some, h.1, Bool.true_or]

theorem isKbRef_computeContentHash {H : HashFunctions} {content : Bytes}
    (h : H.sha256 content ≠ []) : isKbRef (computeContentHash H content) = true :=
  isKbRef_of_isNamespacedRef (isNamespacedRef_computeContentHash h)

/-- `SHA256_REF_PATTERN`. -/
def isSha256Ref (value : String) : Bool :=
  value.toList.take 7 == "sha256:".toList && (value.toList.drop 7).length == 64 &&
    (value.toList.drop 7).all isHexDigit

/-- `SOURCE_SYSTEM_PATTERN`. -/
def isSourceSystem (value : String) : Bool :=
  value.toList.head?.any Text.isAsciiLower && value.toList.all isSchemeChar

def knowledgeBaseModuleId : String := "knowledge_base"

def kbArticlesWriteFeatureId : String := "knowledge_base.articles.write"

inductive KnowledgeBaseArticleLifecycleState where
  | working | published | restricted | dispositionPending
  deriving DecidableEq, Repr

inductive KnowledgeBaseArticleStatus where
  | draft | published | restricted | archived
  deriving DecidableEq, Repr

inductive KnowledgeBaseWriteOperation where
  | create | edit
  deriving DecidableEq, Repr

def KnowledgeBaseWriteOperation.value : KnowledgeBaseWriteOperation → String
  | .create => "create"
  | .edit => "edit"

inductive KnowledgeBaseWriteApprovalState where
  | dryRun | approvedForWrite | rejected | expired
  deriving DecidableEq, Repr

def KnowledgeBaseWriteApprovalState.value : KnowledgeBaseWriteApprovalState → String
  | .dryRun => "dry_run"
  | .approvedForWrite => "approved_for_write"
  | .rejected => "rejected"
  | .expired => "expired"

/-! ## Articles -/

structure KnowledgeBaseArticleFields where
  tenantId                  : String
  objectId                  : String
  ownerPrincipalId          : String
  createdBy                 : String
  createdAtUtc              : String
  updatedAtUtc              : String
  dataClassification        : DataClass := .internal
  retentionPolicyId         : String := "rp-standard"
  legalHoldState            : String := "none"
  lifecycleState            : KnowledgeBaseArticleLifecycleState := .published
  kmsKeyRef                 : String
  auditChainRef             : String
  sourceSystem              : String := "native"
  articleKey                : String
  title                     : String
  currentVersionObjectId    : String
  currentVersionLabel       : String
  currentSourceObjectId     : String
  currentSourceVersionId    : String
  currentSourceObjectType   : SourceObjectType := .wiki
  currentSourceManifestHash : String
  currentContentHash        : String
  currentAclVersion         : Nat
  publishedAtUtc            : Option String := none
  status                    : KnowledgeBaseArticleStatus := .published
  deriving DecidableEq, Repr

namespace KnowledgeBaseArticleFields

def notBlank : (field value : String) → List FieldError :=
  requireNotBlank "knowledge base article fields must not be empty"

def namespacedRef : (field value : String) → List FieldError :=
  requireFullmatch isKbRef "knowledge base article references must be namespaced"

def requireInternalClassification (value : DataClass) : List FieldError :=
  if value = .internal then []
  else [⟨"data_classification",
    .message "knowledge base article metadata is internal by default"⟩]

def requireStandardRetention (value : String) : List FieldError :=
  if value = "rp-standard" then []
  else [⟨"retention_policy_id",
    .message "knowledge base articles must start with rp-standard retention"⟩]

def validateLegalHoldState (value : String) : List FieldError :=
  if value = "none" ∨ value = "active" then []
  else [⟨"legal_hold_state",
    .message "knowledge base article legal_hold_state must be none or active"⟩]

def errors (article : KnowledgeBaseArticleFields) : List FieldError :=
  notBlank "tenant_id" article.tenantId ++
    notBlank "object_id" article.objectId ++
    notBlank "owner_principal_id" article.ownerPrincipalId ++
    notBlank "created_by" article.createdBy ++
    notBlank "created_at_utc" article.createdAtUtc ++
    notBlank "updated_at_utc" article.updatedAtUtc ++
    requireInternalClassification article.dataClassification ++
    requireStandardRetention article.retentionPolicyId ++
    validateLegalHoldState article.legalHoldState ++
    namespacedRef "kms_key_ref" article.kmsKeyRef ++
    namespacedRef "audit_chain_ref" article.auditChainRef ++
    requireFullmatch isSourceSystem
      "knowledge base article source_system must be lowercase and non-empty" "source_system"
      article.sourceSystem ++
    notBlank "article_key" article.articleKey ++
    notBlank "title" article.title ++
    notBlank "current_version_object_id" article.currentVersionObjectId ++
    notBlank "current_version_label" article.currentVersionLabel ++
    notBlank "current_source_object_id" article.currentSourceObjectId ++
    notBlank "current_source_version_id" article.currentSourceVersionId ++
    namespacedRef "current_source_manifest_hash" article.currentSourceManifestHash ++
    namespacedRef "current_content_hash" article.currentContentHash ++
    requirePositive "current_acl_version" article.currentAclVersion

theorem requireInternalClassification_eq_nil {value : DataClass} :
    requireInternalClassification value = [] ↔ value = .internal := by
  unfold requireInternalClassification
  split <;> simp_all

theorem requireStandardRetention_eq_nil {value : String} :
    requireStandardRetention value = [] ↔ value = "rp-standard" := by
  unfold requireStandardRetention
  split <;> simp_all

theorem validateLegalHoldState_eq_nil {value : String} :
    validateLegalHoldState value = [] ↔ value = "none" ∨ value = "active" := by
  unfold validateLegalHoldState
  split <;> simp_all

theorem errors_eq_nil {article : KnowledgeBaseArticleFields} :
    article.errors = [] ↔
      Text.strip article.tenantId ≠ "" ∧ Text.strip article.objectId ≠ "" ∧
      Text.strip article.ownerPrincipalId ≠ "" ∧ Text.strip article.createdBy ≠ "" ∧
      Text.strip article.createdAtUtc ≠ "" ∧ Text.strip article.updatedAtUtc ≠ "" ∧
      article.dataClassification = .internal ∧ article.retentionPolicyId = "rp-standard" ∧
      (article.legalHoldState = "none" ∨ article.legalHoldState = "active") ∧
      isKbRef article.kmsKeyRef = true ∧ isKbRef article.auditChainRef = true ∧
      isSourceSystem article.sourceSystem = true ∧ Text.strip article.articleKey ≠ "" ∧
      Text.strip article.title ≠ "" ∧ Text.strip article.currentVersionObjectId ≠ "" ∧
      Text.strip article.currentVersionLabel ≠ "" ∧
      Text.strip article.currentSourceObjectId ≠ "" ∧
      Text.strip article.currentSourceVersionId ≠ "" ∧
      isKbRef article.currentSourceManifestHash = true ∧
      isKbRef article.currentContentHash = true ∧ 1 ≤ article.currentAclVersion := by
  unfold errors notBlank namespacedRef
  simp only [List.append_eq_nil_iff, requireNotBlank_eq_nil, requireFullmatch_eq_nil,
    requireInternalClassification_eq_nil, requireStandardRetention_eq_nil,
    validateLegalHoldState_eq_nil, requirePositive_eq_nil, and_assoc]

/-- `require_status_lifecycle_alignment`. -/
def requireStatusLifecycleAlignment (article : KnowledgeBaseArticleFields) : Except Exn Unit := do
  requireModel "KnowledgeBaseArticleRecord"
    (¬ (article.status = .restricted ∧ article.lifecycleState ≠ .restricted))
    "restricted knowledge base articles must use restricted lifecycle_state"
  requireModel "KnowledgeBaseArticleRecord"
    (¬ (article.status = .published ∧ article.publishedAtUtc = none))
    "published knowledge base articles require published_at_utc"
  requireModel "KnowledgeBaseArticleRecord"
    (article.currentSourceObjectId = article.currentVersionObjectId)
    "current source object must be the current kb.article_version object"

end KnowledgeBaseArticleFields

/-- A record, with what its model has checked of the fields that no update touches. -/
structure KnowledgeBaseArticleRecord extends KnowledgeBaseArticleFields where
  isInternal  : dataClassification = .internal
  holdIsKnown : legalHoldState = "none" ∨ legalHoldState = "active"
  deriving DecidableEq, Repr

namespace KnowledgeBaseArticleRecord

theorem isInternal_of_errors {article : KnowledgeBaseArticleFields} (h : article.errors = []) :
    article.dataClassification = .internal := by
  obtain ⟨-, -, -, -, -, -, hclass, -⟩ := KnowledgeBaseArticleFields.errors_eq_nil.mp h
  exact hclass

theorem holdIsKnown_of_errors {article : KnowledgeBaseArticleFields} (h : article.errors = []) :
    article.legalHoldState = "none" ∨ article.legalHoldState = "active" := by
  obtain ⟨-, -, -, -, -, -, -, -, hhold, -⟩ := KnowledgeBaseArticleFields.errors_eq_nil.mp h
  exact hhold

def validate (article : KnowledgeBaseArticleFields) : Except Exn KnowledgeBaseArticleRecord :=
  if h : article.errors = [] then do
    article.requireStatusLifecycleAlignment
    return { article with
      isInternal := isInternal_of_errors h
      holdIsKnown := holdIsKnown_of_errors h }
  else .error (.validationError "KnowledgeBaseArticleRecord" article.errors)

end KnowledgeBaseArticleRecord

end Collabio
