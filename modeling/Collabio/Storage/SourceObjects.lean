import Mathlib.Tactic
import Collabio.Library.Dict
import Collabio.Kms.KeyReference
import Collabio.Storage.ContentHash

/-!
# Source objects and the in-memory repository

Metadata and records are models that check themselves; a repository stores only
records that its write guard accepts, never overwrites a version, and keeps for
each object the key of the version added last.

* `InMemorySourceObjectRepository.latest_points_back` is a field: the latest key
  of an object is a stored version of that object;
* `InMemorySourceObjectRepository.add_eq_ok` — what an `add` requires and changes.
-/

namespace Collabio

inductive SourceObjectType where
  | document | mail | attachment | comment | wiki | procedureDoc
  deriving DecidableEq, Repr

def SourceObjectType.value : SourceObjectType → String
  | .document => "document"
  | .mail => "mail"
  | .attachment => "attachment"
  | .comment => "comment"
  | .wiki => "wiki"
  | .procedureDoc => "procedure_doc"

inductive LegalHoldState where
  | none | active
  deriving DecidableEq, Repr

def LegalHoldState.value : LegalHoldState → String
  | .none => "none"
  | .active => "active"

inductive SourceLifecycleState where
  | working | savedVersion | businessRecord | wormEvidence | restricted | deleted
  | cryptoshredded
  deriving DecidableEq, Repr

def SourceLifecycleState.value : SourceLifecycleState → String
  | .working => "working"
  | .savedVersion => "saved_version"
  | .businessRecord => "business_record"
  | .wormEvidence => "worm_evidence"
  | .restricted => "restricted"
  | .deleted => "deleted"
  | .cryptoshredded => "cryptoshredded"

/-- The lifecycle states of records, which must not be destroyed. -/
def SourceLifecycleState.isRecord (state : SourceLifecycleState) : Bool :=
  state == .businessRecord || state == .wormEvidence

/-! ## Metadata -/

@[ext] structure SourceObjectMetadata where
  tenantId          : String
  objectId          : String
  objectType        : SourceObjectType
  versionId         : String
  title             : String
  ownerPrincipalId  : String
  createdBy         : String
  createdAtUtc      : String
  updatedAtUtc      : String
  classification    : DataClass
  retentionPolicyId : String
  legalHoldState    : LegalHoldState := .none
  kmsKeyRef         : String
  manifestHash      : String
  auditChainRef     : String
  sourceSystem      : String
  schemaVersion     : String := "source_object.v1"
  mimeType          : String := "text/plain"
  aclHash           : String
  aclVersion        : Nat
  contentHash       : String
  contentByteLength : Nat
  lifecycleState    : SourceLifecycleState := .working
  parentObjectId    : Option String := none
  threadId          : Option String := none
  parserProfileId   : Option String := none
  deriving DecidableEq, Repr

namespace SourceObjectMetadata

/-- `source_object_manifest_payload`: every field but the hash. -/
def payload (metadata : SourceObjectMetadata) : Json :=
  .obj [
    ("tenant_id", .str metadata.tenantId),
    ("object_id", .str metadata.objectId),
    ("object_type", .str metadata.objectType.value),
    ("version_id", .str metadata.versionId),
    ("title", .str metadata.title),
    ("owner_principal_id", .str metadata.ownerPrincipalId),
    ("created_by", .str metadata.createdBy),
    ("created_at_utc", .str metadata.createdAtUtc),
    ("updated_at_utc", .str metadata.updatedAtUtc),
    ("classification", .str metadata.classification.value),
    ("retention_policy_id", .str metadata.retentionPolicyId),
    ("legal_hold_state", .str metadata.legalHoldState.value),
    ("kms_key_ref", .str metadata.kmsKeyRef),
    ("audit_chain_ref", .str metadata.auditChainRef),
    ("source_system", .str metadata.sourceSystem),
    ("schema_version", .str metadata.schemaVersion),
    ("mime_type", .str metadata.mimeType),
    ("acl_hash", .str metadata.aclHash),
    ("acl_version", .int metadata.aclVersion),
    ("content_hash", .str metadata.contentHash),
    ("content_byte_length", .int metadata.contentByteLength),
    ("lifecycle_state", .str metadata.lifecycleState.value),
    ("parent_object_id", optionalText metadata.parentObjectId),
    ("thread_id", optionalText metadata.threadId),
    ("parser_profile_id", optionalText metadata.parserProfileId)]

def normalized (metadata : SourceObjectMetadata) : SourceObjectMetadata :=
  { metadata with
    tenantId := Text.strip metadata.tenantId
    objectId := Text.strip metadata.objectId
    versionId := Text.strip metadata.versionId
    title := Text.strip metadata.title
    ownerPrincipalId := Text.strip metadata.ownerPrincipalId
    createdBy := Text.strip metadata.createdBy
    createdAtUtc := Text.strip metadata.createdAtUtc
    updatedAtUtc := Text.strip metadata.updatedAtUtc
    retentionPolicyId := Text.strip metadata.retentionPolicyId
    kmsKeyRef := Text.strip metadata.kmsKeyRef
    manifestHash := Text.strip metadata.manifestHash
    auditChainRef := Text.strip metadata.auditChainRef
    sourceSystem := Text.strip metadata.sourceSystem
    schemaVersion := Text.strip metadata.schemaVersion
    mimeType := Text.strip metadata.mimeType
    aclHash := Text.strip metadata.aclHash
    contentHash := Text.strip metadata.contentHash }

def errors (metadata : SourceObjectMetadata) : List FieldError :=
  requireNonEmpty "tenant_id" metadata.tenantId ++
    requireNonEmpty "object_id" metadata.objectId ++
    requireNonEmpty "version_id" metadata.versionId ++
    requireNonEmpty "title" metadata.title ++
    requireNonEmpty "owner_principal_id" metadata.ownerPrincipalId ++
    requireNonEmpty "created_by" metadata.createdBy ++
    requireUtcTimestamp "created_at_utc" metadata.createdAtUtc ++
    requireUtcTimestamp "updated_at_utc" metadata.updatedAtUtc ++
    requireNonEmpty "retention_policy_id" metadata.retentionPolicyId ++
    requireNamespacedRef "kms_key_ref" metadata.kmsKeyRef ++
    requireNamespacedRef "manifest_hash" metadata.manifestHash ++
    requireNamespacedRef "audit_chain_ref" metadata.auditChainRef ++
    requireNonEmpty "source_system" metadata.sourceSystem ++
    requireNonEmpty "schema_version" metadata.schemaVersion ++
    requireNonEmpty "mime_type" metadata.mimeType ++
    requireNamespacedRef "acl_hash" metadata.aclHash ++
    requirePositive "acl_version" metadata.aclVersion ++
    requireNamespacedRef "content_hash" metadata.contentHash

/-- `enforce_source_object_rules`. -/
def enforceSourceObjectRules (metadata : SourceObjectMetadata) : Except Exn Unit := do
  requireModel "SourceObjectMetadata"
    (¬ ((metadata.objectType = .attachment ∨ metadata.objectType = .comment) ∧
      (metadata.parentObjectId.getD "") = ""))
    "attachments and comments require parent_object_id"
  requireModel "SourceObjectMetadata"
    (¬ (metadata.objectType = .mail ∧ metadata.mimeType ≠ "message/rfc822"))
    "mail source objects require message/rfc822 mime_type"
  requireModel "SourceObjectMetadata"
    (¬ (metadata.legalHoldState = .active ∧
      (metadata.lifecycleState = .deleted ∨ metadata.lifecycleState = .cryptoshredded)))
    "legal hold blocks deletion and cryptoshredding"
  requireModel "SourceObjectMetadata"
    (¬ (metadata.lifecycleState = .wormEvidence ∧ metadata.auditChainRef = "audit:none"))
    "WORM evidence requires an audit chain reference"

def validate (metadata : SourceObjectMetadata) : Except Exn SourceObjectMetadata := do
  let metadata ← accept "SourceObjectMetadata" metadata.normalized.errors metadata.normalized
  metadata.enforceSourceObjectRules
  return metadata

end SourceObjectMetadata

variable (H : HashFunctions)

def buildSourceObjectManifestHash (metadata : SourceObjectMetadata) : String :=
  hashJson H metadata.payload

/-- `model_copy(update=...)`: the hash is set without another validation. -/
def SourceObjectMetadata.withManifestHash (metadata : SourceObjectMetadata) :
    SourceObjectMetadata :=
  { metadata with manifestHash := buildSourceObjectManifestHash H metadata }

/-! ## Records -/

structure SourceObjectRecord where
  metadata     : SourceObjectMetadata
  text         : String := ""
  contentBytes : Option Bytes := none
  deriving DecidableEq, Repr

/-- `source_object_content_bytes`. -/
def sourceObjectContentBytes (record : SourceObjectRecord) : Bytes :=
  record.contentBytes.getD (Text.encodeUtf8 record.text)

def SourceObjectRecord.validate (record : SourceObjectRecord) : Except Exn SourceObjectRecord := do
  let contentLength := (sourceObjectContentBytes record).length
  requireModel "SourceObjectRecord" (contentLength ≠ 0)
    (match record.contentBytes with
      | none => "source object requires text or content_bytes"
      | some _ => "content_bytes must not be empty")
  requireModel "SourceObjectRecord" (record.metadata.contentByteLength = contentLength)
    "content_byte_length must match stored content bytes"
  return record

/-! ## The write guard -/

namespace SourceObjectWriteGuard

/-- `required_metadata_fields`, with their values. -/
def requiredMetadataFields (metadata : SourceObjectMetadata) : List (String × String) :=
  [("tenant_id", metadata.tenantId), ("classification", metadata.classification.value),
    ("retention_policy_id", metadata.retentionPolicyId), ("kms_key_ref", metadata.kmsKeyRef),
    ("manifest_hash", metadata.manifestHash), ("content_hash", metadata.contentHash)]

def requireWriteMetadata (metadata : SourceObjectMetadata) : Except Exn Unit :=
  (requiredMetadataFields metadata).forM fun field =>
    require (Text.strip field.2 ≠ "")
      (.sourceObjectWriteDenied (field.1 ++ " is required for storage write"))

/-- `except KmsKeyReferenceError`: other exceptions of `parse` pass through. -/
def requireKmsReference (metadata : SourceObjectMetadata) : Except Exn Unit :=
  match KmsKeyReference.parse metadata.kmsKeyRef with
  | .error (.kmsKeyReferenceError text) =>
    .error (.sourceObjectWriteDenied ("kms_key_ref invalid: " ++ text))
  | .error exn => .error exn
  | .ok keyRef => do
    require (keyRef.tenantId = metadata.tenantId)
      (.sourceObjectWriteDenied "kms_key_ref tenant_id does not match source object")
    require (keyRef.dataClass = metadata.classification)
      (.sourceObjectWriteDenied "kms_key_ref data_class does not match source object")

def requireContentHashMatch (record : SourceObjectRecord) : Except Exn Unit :=
  match verifyContentHash H (sourceObjectContentBytes record) record.metadata.contentHash
      "source_object_write" with
  | .error (.contentHashVerificationError text) =>
    .error (.sourceObjectWriteDenied ("content_hash verification failed: " ++ text))
  | .error exn => .error exn
  | .ok _ => .ok ()

def requireManifestHashMatch (metadata : SourceObjectMetadata) : Except Exn Unit :=
  require (metadata.manifestHash = buildSourceObjectManifestHash H metadata)
    (.sourceObjectWriteDenied "manifest_hash does not match source object metadata")

def validateBeforeWrite (record : SourceObjectRecord) : Except Exn Unit := do
  requireWriteMetadata record.metadata
  requireKmsReference record.metadata
  requireContentHashMatch H record
  requireManifestHashMatch H record.metadata

end SourceObjectWriteGuard

/-! ## The repository -/

/-- Tenant, object and version. -/
abbrev VersionKey := String × String × String

/-- Tenant and object. -/
abbrev ObjectKey := String × String

def SourceObjectMetadata.versionKey (metadata : SourceObjectMetadata) : VersionKey :=
  (metadata.tenantId, metadata.objectId, metadata.versionId)

def SourceObjectMetadata.objectKey (metadata : SourceObjectMetadata) : ObjectKey :=
  (metadata.tenantId, metadata.objectId)

/-- The two dictionaries of the repository, which always agree: a record is
stored under its own key, and the latest key of an object is the key of a
stored version of that object. -/
structure InMemorySourceObjectRepository where
  records             : Dict VersionKey SourceObjectRecord
  latestKeys          : Dict ObjectKey VersionKey
  stored_under_key    : ∀ key record, records.get? key = some record →
                          record.metadata.versionKey = key
  latest_points_back  : ∀ object key, latestKeys.get? object = some key →
                          ∃ record, records.get? key = some record ∧
                            record.metadata.objectKey = object
  stored_has_latest   : ∀ key record, records.get? key = some record →
                          (latestKeys.get? record.metadata.objectKey).isSome

namespace InMemorySourceObjectRepository

instance : EmptyCollection InMemorySourceObjectRepository :=
  ⟨⟨∅, ∅, by simp, by simp, by simp⟩⟩

/-- `self._records[key] = record` and `self._latest_keys[...] = key`, for a new key. -/
def insert (repository : InMemorySourceObjectRepository) (record : SourceObjectRecord)
    (fresh : repository.records.get? record.metadata.versionKey = none) :
    InMemorySourceObjectRepository where
  records := repository.records.set record.metadata.versionKey record
  latestKeys := repository.latestKeys.set record.metadata.objectKey record.metadata.versionKey
  stored_under_key key found h := by
    rw [Dict.get?_set] at h
    split_ifs at h with hkey
    · cases h
      exact hkey.symm
    · exact repository.stored_under_key key found h
  latest_points_back object key h := by
    rw [Dict.get?_set] at h
    split_ifs at h with hobject
    · cases h
      exact ⟨record, Dict.get?_set_self .., hobject.symm⟩
    · obtain ⟨found, hfound, hfoundObject⟩ := repository.latest_points_back object key h
      refine ⟨found, ?_, hfoundObject⟩
      rw [Dict.get?_set, if_neg, hfound]
      rintro rfl
      rw [fresh] at hfound
      cases hfound
  stored_has_latest key found h := by
    rw [Dict.get?_set] at h ⊢
    split_ifs with hobject
    · rfl
    · split_ifs at h with hkey
      · cases h
        exact absurd rfl hobject
      · exact repository.stored_has_latest key found h

/-- `add`. -/
def add (record : SourceObjectRecord) : Eff Exn InMemorySourceObjectRepository Unit := do
  Eff.lift (SourceObjectWriteGuard.validateBeforeWrite H record)
  let repository ← Eff.get
  if fresh : repository.records.get? record.metadata.versionKey = none then
    Eff.set (repository.insert record fresh)
  else
    Eff.raise (.valueError (.message "source object version already exists"))

/-- `get`. -/
def get (repository : InMemorySourceObjectRepository) (tenantId objectId versionId : String) :
    Except Exn SourceObjectRecord :=
  match repository.records.get? (tenantId, objectId, versionId) with
  | some record => .ok record
  | none => .error .keyError

/-- `latest`. -/
def latest (repository : InMemorySourceObjectRepository) (tenantId objectId : String) :
    Except Exn SourceObjectRecord :=
  match repository.latestKeys.get? (tenantId, objectId) with
  | some (tenant, object, version) => repository.get tenant object version
  | none => .error .keyError

/-! ## What the operations do -/

theorem get_eq_ok {repository : InMemorySourceObjectRepository}
    {tenantId objectId versionId : String} {record : SourceObjectRecord} :
    repository.get tenantId objectId versionId = .ok record ↔
      repository.records.get? (tenantId, objectId, versionId) = some record := by
  unfold get
  split <;> simp_all

/-- A record read under a key has that key in its metadata. -/
theorem versionKey_of_get {repository : InMemorySourceObjectRepository}
    {tenantId objectId versionId : String} {record : SourceObjectRecord}
    (h : repository.get tenantId objectId versionId = .ok record) :
    record.metadata.versionKey = (tenantId, objectId, versionId) :=
  repository.stored_under_key _ _ (get_eq_ok.mp h)

theorem latest_eq_ok {repository : InMemorySourceObjectRepository} {tenantId objectId : String}
    {record : SourceObjectRecord} :
    repository.latest tenantId objectId = .ok record ↔
      ∃ key, repository.latestKeys.get? (tenantId, objectId) = some key ∧
        repository.records.get? key = some record := by
  unfold latest
  split
  · rename_i tenant object version hkey
    rw [get_eq_ok, hkey]
    simp
  · rename_i hkey
    simp [hkey]

/-- An object with a stored version has a latest record. -/
theorem latest_isOk {repository : InMemorySourceObjectRepository}
    {tenantId objectId versionId : String} {record : SourceObjectRecord}
    (h : repository.get tenantId objectId versionId = .ok record) :
    ∃ newest, repository.latest tenantId objectId = .ok newest := by
  have hkey := versionKey_of_get h
  have hobject : record.metadata.objectKey = (tenantId, objectId) := by
    simp only [SourceObjectMetadata.versionKey, Prod.mk.injEq] at hkey
    rw [SourceObjectMetadata.objectKey, hkey.1, hkey.2.1]
  have hsome := repository.stored_has_latest _ _ (get_eq_ok.mp h)
  rw [hobject, Option.isSome_iff_exists] at hsome
  obtain ⟨key, hkey⟩ := hsome
  obtain ⟨newest, hnewest, -⟩ := repository.latest_points_back _ _ hkey
  exact ⟨newest, latest_eq_ok.mpr ⟨key, hkey, hnewest⟩⟩

variable {H}

/-- **An `add` that returns** had an accepted record under a new key, and stores it. -/
theorem add_eq_ok {repository repository' : InMemorySourceObjectRepository}
    {record : SourceObjectRecord} :
    add H record repository = (.ok (), repository') ↔
      SourceObjectWriteGuard.validateBeforeWrite H record = .ok () ∧
        ∃ fresh, repository' = repository.insert record fresh := by
  unfold add
  rw [Eff.bind_eq_ok]
  constructor
  · rintro ⟨_, s, hguard, h⟩
    simp only [Eff.lift_apply, Prod.mk.injEq] at hguard
    obtain ⟨hguard, rfl⟩ := hguard
    rw [Eff.bind_of_ok (Eff.get_apply _)] at h
    refine ⟨hguard, ?_⟩
    split_ifs at h with hfresh
    · cases h
      exact ⟨hfresh, rfl⟩
    · cases h
  · rintro ⟨hguard, hfresh, rfl⟩
    refine ⟨(), repository, by rw [Eff.lift_apply, hguard], ?_⟩
    rw [Eff.bind_of_ok (Eff.get_apply _), dif_pos hfresh]
    rfl

/-- An `add` that raises changes nothing. -/
theorem add_of_error {repository repository' : InMemorySourceObjectRepository}
    {record : SourceObjectRecord} {exn : Exn}
    (h : add H record repository = (.error exn, repository')) : repository' = repository := by
  unfold add at h
  rcases Eff.bind_eq_error.mp h with h | ⟨_, s, hguard, h⟩
  · rw [Eff.lift_apply, Prod.mk.injEq] at h
    exact h.2.symm
  · simp only [Eff.lift_apply, Prod.mk.injEq] at hguard
    obtain ⟨-, rfl⟩ := hguard
    rw [Eff.bind_of_ok (Eff.get_apply _)] at h
    split_ifs at h with hfresh
    · cases h
    · cases h
      rfl

theorem get?_insert {repository : InMemorySourceObjectRepository} {record : SourceObjectRecord}
    (fresh : repository.records.get? record.metadata.versionKey = none) (key : VersionKey) :
    (repository.insert record fresh).records.get? key =
      if key = record.metadata.versionKey then some record else repository.records.get? key :=
  Dict.get?_set ..

@[simp] theorem get?_empty (key : VersionKey) :
    (∅ : InMemorySourceObjectRepository).records.get? key = none := Dict.get?_empty key

/-- The record added last is the latest of its object. -/
theorem latest_insert_self {repository : InMemorySourceObjectRepository}
    {record : SourceObjectRecord}
    (fresh : repository.records.get? record.metadata.versionKey = none) :
    (repository.insert record fresh).latest record.metadata.tenantId record.metadata.objectId =
      .ok record :=
  latest_eq_ok.mpr ⟨record.metadata.versionKey, Dict.get?_set_self .., Dict.get?_set_self ..⟩

/-- Adding a version of one object leaves the latest record of every other. -/
theorem latest_insert_of_ne {repository : InMemorySourceObjectRepository}
    {record : SourceObjectRecord}
    (fresh : repository.records.get? record.metadata.versionKey = none)
    {tenantId objectId : String} (hne : (tenantId, objectId) ≠ record.metadata.objectKey) :
    (repository.insert record fresh).latest tenantId objectId =
      repository.latest tenantId objectId := by
  have hkeys : (repository.insert record fresh).latestKeys.get? (tenantId, objectId) =
      repository.latestKeys.get? (tenantId, objectId) :=
    Dict.get?_set_ne _ _ hne
  unfold latest
  rw [hkeys]
  split
  · rename_i tenant object version hkey
    obtain ⟨found, hfound, hobject⟩ := repository.latest_points_back _ _ hkey
    have hother : (tenant, object, version) ≠ record.metadata.versionKey := by
      intro h
      rw [h, fresh] at hfound
      cases hfound
    unfold get
    rw [show (repository.insert record fresh).records.get? (tenant, object, version) =
      repository.records.get? (tenant, object, version) from Dict.get?_set_ne _ _ hother]
  · rfl

end InMemorySourceObjectRepository

end Collabio
