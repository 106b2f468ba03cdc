import Mathlib.Tactic
import Collabio.Library.Runs
import Collabio.Storage.SourceObjects

/-!
# Which records a repository holds

* `SourceObjectRecord.Accepted` — what the models and the write guard say about a
  stored record; the hash is left out of the model's check, since it is set on a
  copy that is not validated again;
* `InMemorySourceObjectRepository.loaded_accepted` — every record of a repository
  that was filled through `add` is accepted.
-/

namespace Collabio

variable {H : HashFunctions}

/-! ## Metadata -/

namespace SourceObjectMetadata

@[simp] theorem normalized_normalized (metadata : SourceObjectMetadata) :
    metadata.normalized.normalized = metadata.normalized := by
  simp [normalized]

theorem errors_eq_nil {metadata : SourceObjectMetadata} :
    metadata.errors = [] ↔
      metadata.tenantId ≠ "" ∧ metadata.objectId ≠ "" ∧ metadata.versionId ≠ "" ∧
      metadata.title ≠ "" ∧ metadata.ownerPrincipalId ≠ "" ∧ metadata.createdBy ≠ "" ∧
      isUtcTimestamp metadata.createdAtUtc = true ∧ isUtcTimestamp metadata.updatedAtUtc = true ∧
      metadata.retentionPolicyId ≠ "" ∧ isNamespacedRef metadata.kmsKeyRef = true ∧
      isNamespacedRef metadata.manifestHash = true ∧
      isNamespacedRef metadata.auditChainRef = true ∧ metadata.sourceSystem ≠ "" ∧
      metadata.schemaVersion ≠ "" ∧ metadata.mimeType ≠ "" ∧
      isNamespacedRef metadata.aclHash = true ∧ 1 ≤ metadata.aclVersion ∧
      isNamespacedRef metadata.contentHash = true := by
  unfold errors
  simp only [List.append_eq_nil_iff, requireNonEmpty_eq_nil, requireUtcTimestamp_eq_nil,
    requireNamespacedRef_eq_nil, requirePositive_eq_nil, and_assoc]

theorem enforceSourceObjectRules_eq_ok {metadata : SourceObjectMetadata} :
    metadata.enforceSourceObjectRules = .ok () ↔
      ¬ ((metadata.objectType = .attachment ∨ metadata.objectType = .comment) ∧
        (metadata.parentObjectId.getD "") = "") ∧
      ¬ (metadata.objectType = .mail ∧ metadata.mimeType ≠ "message/rfc822") ∧
      ¬ (metadata.legalHoldState = .active ∧
        (metadata.lifecycleState = .deleted ∨ metadata.lifecycleState = .cryptoshredded)) ∧
      ¬ (metadata.lifecycleState = .wormEvidence ∧ metadata.auditChainRef = "audit:none") := by
  unfold enforceSourceObjectRules requireModel
  rw [require_bind_eq_ok, require_bind_eq_ok, require_bind_eq_ok, require_eq_ok]

theorem validate_eq_ok {metadata accepted : SourceObjectMetadata} :
    metadata.validate = .ok accepted ↔
      metadata.normalized.errors = [] ∧ metadata.normalized.enforceSourceObjectRules = .ok () ∧
        accepted = metadata.normalized := by
  unfold validate
  constructor
  · intro h
    obtain ⟨_, haccept, h⟩ := Except.bind_eq_ok.mp h
    obtain ⟨herrors, rfl⟩ := accept_eq_ok.mp haccept
    obtain ⟨_, hrules, h⟩ := Except.bind_eq_ok.mp h
    cases h
    exact ⟨herrors, hrules, rfl⟩
  · rintro ⟨herrors, hrules, rfl⟩
    refine Except.bind_eq_ok.mpr ⟨_, accept_eq_ok.mpr ⟨herrors, rfl⟩, ?_⟩
    exact Except.bind_eq_ok.mpr ⟨(), hrules, rfl⟩

/-- Metadata that validates to itself: already stripped, and right in every field. -/
theorem validate_self {metadata : SourceObjectMetadata} :
    metadata.validate = .ok metadata ↔
      metadata.normalized = metadata ∧ metadata.errors = [] ∧
        metadata.enforceSourceObjectRules = .ok () := by
  rw [validate_eq_ok]
  constructor
  · rintro ⟨herrors, hrules, h⟩
    rw [← h] at herrors hrules
    exact ⟨h.symm, herrors, hrules⟩
  · rintro ⟨h, herrors, hrules⟩
    rw [h]
    exact ⟨herrors, hrules, rfl⟩

/-- The hash of accepted metadata is a reference, stripped. -/
theorem manifestHash_of_valid {metadata : SourceObjectMetadata}
    (h : metadata.validate = .ok metadata) :
    Text.strip metadata.manifestHash = metadata.manifestHash ∧
      isNamespacedRef metadata.manifestHash = true := by
  obtain ⟨hnormal, herrors, -⟩ := validate_self.mp h
  obtain ⟨-, -, -, -, -, -, -, -, -, -, hmanifest, -⟩ := errors_eq_nil.mp herrors
  exact ⟨congrArg SourceObjectMetadata.manifestHash hnormal, hmanifest⟩

/-- The metadata as a draft, before its hash is known. -/
def unhashed (metadata : SourceObjectMetadata) : SourceObjectMetadata :=
  { metadata with manifestHash := zeroHash }

theorem strip_zeroHash : Text.strip zeroHash = zeroHash ∧ isNamespacedRef zeroHash = true := by
  decide +kernel

theorem validate_unhashed {metadata : SourceObjectMetadata}
    (h : metadata.validate = .ok metadata) :
    metadata.unhashed.validate = .ok metadata.unhashed := by
  obtain ⟨hnormal, herrors, hrules⟩ := validate_self.mp h
  refine validate_self.mpr ⟨?_, ?_, ?_⟩
  · change { metadata.normalized with manifestHash := Text.strip zeroHash } = metadata.unhashed
    rw [hnormal, strip_zeroHash.1, unhashed]
  · obtain ⟨h1, h2, h3, h4, h5, h6, h7, h8, h9, h10, -, hrest⟩ := errors_eq_nil.mp herrors
    exact errors_eq_nil.mpr
      ⟨h1, h2, h3, h4, h5, h6, h7, h8, h9, h10, strip_zeroHash.2, hrest⟩
  · exact hrules

end SourceObjectMetadata

/-! ## Hashes and the write guard -/

/-- The hash does not cover itself. -/
theorem buildSourceObjectManifestHash_withManifestHash (metadata : SourceObjectMetadata) :
    buildSourceObjectManifestHash H (metadata.withManifestHash H) =
      buildSourceObjectManifestHash H metadata := by
  simp only [buildSourceObjectManifestHash, SourceObjectMetadata.payload,
    SourceObjectMetadata.withManifestHash]

theorem SourceObjectWriteGuard.requireWriteMetadata_eq_ok {metadata : SourceObjectMetadata} :
    requireWriteMetadata metadata = .ok () ↔
      Text.strip metadata.tenantId ≠ "" ∧ Text.strip metadata.classification.value ≠ "" ∧
      Text.strip metadata.retentionPolicyId ≠ "" ∧ Text.strip metadata.kmsKeyRef ≠ "" ∧
      Text.strip metadata.manifestHash ≠ "" ∧ Text.strip metadata.contentHash ≠ "" := by
  unfold requireWriteMetadata requiredMetadataFields
  simp only [List.forM, require_bind_eq_ok]
  simp [pure, Except.pure]

/-- What the key reference check looks at. -/
theorem SourceObjectWriteGuard.requireKmsReference_congr {metadata other : SourceObjectMetadata}
    (hkey : metadata.kmsKeyRef = other.kmsKeyRef) (htenant : metadata.tenantId = other.tenantId)
    (hclass : metadata.classification = other.classification) :
    requireKmsReference metadata = requireKmsReference other := by
  unfold requireKmsReference
  rw [hkey, htenant, hclass]

theorem DataClass.strip_value_ne_empty (c : DataClass) : Text.strip c.value ≠ "" := by
  cases c <;> exact Text.strip_ne_empty (.head _) rfl

/-- Metadata its model accepts has every field the guard requires. -/
theorem SourceObjectWriteGuard.requireWriteMetadata_of_valid {metadata : SourceObjectMetadata}
    (h : metadata.validate = .ok metadata) : requireWriteMetadata metadata = .ok () := by
  obtain ⟨hnormal, herrors, -⟩ := SourceObjectMetadata.validate_self.mp h
  obtain ⟨htenant, -, -, -, -, -, -, -, hpolicy, hkey, hmanifest, -, -, -, -, -, -, hcontent⟩ :=
    SourceObjectMetadata.errors_eq_nil.mp herrors
  have hclass := metadata.classification.strip_value_ne_empty
  rw [← hnormal] at htenant hpolicy hkey hmanifest hcontent
  exact requireWriteMetadata_eq_ok.mpr ⟨htenant, hclass, hpolicy, ne_empty_of_isNamespacedRef hkey,
    ne_empty_of_isNamespacedRef hmanifest, ne_empty_of_isNamespacedRef hcontent⟩

/-! ## Records -/

theorem SourceObjectRecord.validate_eq_ok {record accepted : SourceObjectRecord} :
    record.validate = .ok accepted ↔
      (sourceObjectContentBytes record).length ≠ 0 ∧
        record.metadata.contentByteLength = (sourceObjectContentBytes record).length ∧
        accepted = record := by
  unfold SourceObjectRecord.validate requireModel
  rw [require_bind_eq_ok, require_bind_eq_ok]
  simp only [pure, Except.pure, Except.ok.injEq, eq_comm]

/-- What holds of a record once models and write guard have let it through. -/
structure SourceObjectRecord.Accepted (H : HashFunctions) (record : SourceObjectRecord) :
    Prop where
  draft    : record.metadata.unhashed.validate = .ok record.metadata.unhashed
  content  : record.validate = .ok record
  writable : SourceObjectWriteGuard.validateBeforeWrite H record = .ok ()

namespace InMemorySourceObjectRepository

/-- Every stored record is accepted. -/
def AllAccepted (H : HashFunctions) (repository : InMemorySourceObjectRepository) : Prop :=
  ∀ key record, repository.records.get? key = some record → record.Accepted H

theorem allAccepted_insert {repository : InMemorySourceObjectRepository}
    {record : SourceObjectRecord} (hall : repository.AllAccepted H) (h : record.Accepted H)
    (fresh : repository.records.get? record.metadata.versionKey = none) :
    (repository.insert record fresh).AllAccepted H := by
  intro key found hfound
  simp only [insert, Dict.get?_set] at hfound
  split_ifs at hfound with hkey
  · cases hfound
    exact h
  · exact hall key found hfound

/-- One write by a caller that builds its record from the models. -/
def write (H : HashFunctions) (repository : InMemorySourceObjectRepository)
    (raw : SourceObjectRecord) : InMemorySourceObjectRepository :=
  match raw.metadata.validate with
  | .error _ => repository
  | .ok metadata =>
    match SourceObjectRecord.validate { raw with metadata } with
    | .error _ => repository
    | .ok record => (add H record repository).2

/-- A write of a record that models and write guard let pass. -/
theorem write_eq_insert {repository : InMemorySourceObjectRepository} {record : SourceObjectRecord}
    (hmetadata : record.metadata.validate = .ok record.metadata)
    (hcontent : record.validate = .ok record)
    (hguard : SourceObjectWriteGuard.validateBeforeWrite H record = .ok ())
    (fresh : repository.records.get? record.metadata.versionKey = none) :
    repository.write H record = repository.insert record fresh := by
  have hadd : add H record repository = (.ok (), repository.insert record fresh) :=
    add_eq_ok.mpr ⟨hguard, fresh, rfl⟩
  simp only [write, hmetadata, hcontent, hadd]

theorem allAccepted_write {repository : InMemorySourceObjectRepository}
    (hall : repository.AllAccepted H) (raw : SourceObjectRecord) :
    (repository.write H raw).AllAccepted H := by
  unfold write
  split
  · exact hall
  rename_i metadata hmetadata
  split
  · exact hall
  rename_i record hrecord
  rcases hadd : add H record repository with ⟨_ | _, repository'⟩
  · rw [add_of_error hadd]
    exact hall
  · obtain ⟨hguard, fresh, rfl⟩ := add_eq_ok.mp hadd
    obtain ⟨hnonempty, hlength, rfl⟩ := SourceObjectRecord.validate_eq_ok.mp hrecord
    obtain ⟨herrors, hrules, rfl⟩ := SourceObjectMetadata.validate_eq_ok.mp hmetadata
    refine allAccepted_insert hall ⟨?_, hrecord, hguard⟩ fresh
    exact SourceObjectMetadata.validate_unhashed
      (SourceObjectMetadata.validate_self.mpr ⟨by simp, herrors, hrules⟩)

/-- The repository after a list of writes, those that raise included. -/
def loaded (H : HashFunctions) (records : List SourceObjectRecord) :
    InMemorySourceObjectRepository :=
  Runs.run (write H) ∅ records

theorem allAccepted_empty : (∅ : InMemorySourceObjectRepository).AllAccepted H := by
  intro key record h
  rw [get?_empty] at h
  exact absurd h (by simp)

attribute [irreducible] write

theorem loaded_accepted (records : List SourceObjectRecord) :
    (loaded H records).AllAccepted H := by
  have hstep : ∀ repository raw, AllAccepted H repository → AllAccepted H (write H repository raw) :=
    fun _ raw hall => allAccepted_write hall raw
  exact Runs.always_last (Runs.always_of_invariant hstep allAccepted_empty records)

end InMemorySourceObjectRepository

/-! ## A sample record

A working document of one tenant whose 32 bytes of text are their own digest
under the default hash functions, for statements about concrete runs. -/

def sampleText : String := "0123456789abcdef0123456789abcdef"

def sampleMetadata (objectId : String) : SourceObjectMetadata where
  tenantId := "acme"
  objectId := objectId
  objectType := .document
  versionId := "v1"
  title := "Contract"
  ownerPrincipalId := "alice"
  createdBy := "alice"
  createdAtUtc := "2026-01-05T09:00:00Z"
  updatedAtUtc := "2026-01-05T09:00:00Z"
  classification := .internal
  retentionPolicyId := "office"
  kmsKeyRef := "kms://acme/internal/v1"
  manifestHash := zeroHash
  auditChainRef := "audit:1"
  sourceSystem := "collabio"
  aclHash := "acl:1"
  aclVersion := 1
  contentHash := computeContentHash default (Text.encodeUtf8 sampleText)
  contentByteLength := 32

def sampleRecord (objectId : String) : SourceObjectRecord where
  metadata := (sampleMetadata objectId).withManifestHash default
  text := sampleText

theorem sampleMetadata_fields :
    (∀ text ∈ ["acme", "v1", "Contract", "alice", "2026-01-05T09:00:00Z", "office",
      "kms://acme/internal/v1", "audit:1", "collabio", "acl:1", "source_object.v1", "text/plain",
      "doc-1", "doc-2"], Text.strip text = text ∧ text ≠ "") ∧
    isUtcTimestamp "2026-01-05T09:00:00Z" = true ∧
    isNamespacedRef "kms://acme/internal/v1" = true ∧ isNamespacedRef "audit:1" = true ∧
    isNamespacedRef "acl:1" = true ∧
    (Text.encodeUtf8 sampleText).length = 32 ∧ Text.strip "source_object_write" ≠ "" ∧
    KmsKeyReference.parse "kms://acme/internal/v1" =
      .ok ⟨"acme", .internal, 1, by decide, by decide, by decide⟩ := by decide +kernel

theorem sampleText_length : (Text.encodeUtf8 sampleText).length = 32 :=
  sampleMetadata_fields.2.2.2.2.2.1

theorem sampleRecord_metadata {objectId : String} (h : objectId ∈ ["doc-1", "doc-2"]) :
    (sampleRecord objectId).metadata.validate = .ok (sampleRecord objectId).metadata := by
  obtain ⟨htexts, htime, hkms, haudit, hacl, -⟩ := sampleMetadata_fields
  -- the texts of the sample are stripped and not empty, whichever object it is
  have hobject : Text.strip objectId = objectId ∧ objectId ≠ "" := htexts objectId (by
    simp only [List.mem_cons, List.not_mem_nil, or_false] at h ⊢
    tauto)
  simp only [List.forall_mem_cons] at htexts
  obtain ⟨hacme, hv1, htitle, halice, htimestamp, hpolicy, hkey, hchain, hsystem, haclHash, hschema,
    hmime, -⟩ := htexts
  have hmanifest : isNamespacedRef (sampleRecord objectId).metadata.manifestHash = true :=
    isNamespacedRef_hashJson _
  have hcontent : isNamespacedRef (sampleRecord objectId).metadata.contentHash = true := by
    have hbytes : (default : HashFunctions).sha256 (Text.encodeUtf8 sampleText) ≠ [] := by
      rw [sha256_default, ← List.length_pos_iff, sampleText_length]
      decide
    exact isNamespacedRef_computeContentHash hbytes
  have hself : (sampleRecord objectId).metadata.normalized = (sampleRecord objectId).metadata := by
    refine SourceObjectMetadata.ext hacme.1 hobject.1 rfl hv1.1 htitle.1 halice.1 halice.1
      htimestamp.1 htimestamp.1 rfl hpolicy.1 rfl hkey.1 (strip_computeContentHash _) hchain.1
      hsystem.1 hschema.1 hmime.1 haclHash.1 rfl (strip_computeContentHash _) rfl rfl rfl rfl rfl
  have herrors : (sampleRecord objectId).metadata.errors = [] :=
    SourceObjectMetadata.errors_eq_nil.mpr ⟨hacme.2, hobject.2, hv1.2, htitle.2, halice.2,
      halice.2, htime, htime, hpolicy.2, hkms, hmanifest, haudit, hsystem.2, hschema.2, hmime.2,
      hacl, le_refl 1, hcontent⟩
  -- no rule applies to a document in work, without hold
  have htype : (sampleRecord objectId).metadata.objectType = .document := rfl
  have hhold : (sampleRecord objectId).metadata.legalHoldState = .none := rfl
  have hstate : (sampleRecord objectId).metadata.lifecycleState = .working := rfl
  refine SourceObjectMetadata.validate_self.mpr ⟨hself, herrors, ?_⟩
  rw [SourceObjectMetadata.enforceSourceObjectRules_eq_ok, htype, hhold, hstate]
  simp

theorem sampleRecord_content (objectId : String) :
    (sampleRecord objectId).validate = .ok (sampleRecord objectId) := by
  refine SourceObjectRecord.validate_eq_ok.mpr ⟨?_, sampleText_length.symm, rfl⟩
  change (Text.encodeUtf8 sampleText).length ≠ 0
  rw [sampleText_length]
  decide

/-- The sample record passes the write guard. -/
theorem sampleRecord_writable {objectId : String} (h : objectId ∈ ["doc-1", "doc-2"]) :
    SourceObjectWriteGuard.validateBeforeWrite default (sampleRecord objectId) = .ok () := by
  have hfields := SourceObjectWriteGuard.requireWriteMetadata_of_valid (sampleRecord_metadata h)
  obtain ⟨-, -, -, -, -, -, hcontext, hparse⟩ := sampleMetadata_fields
  obtain ⟨verified, hverified⟩ := @verifyContentHash_self default (Text.encodeUtf8 sampleText)
    sampleText_length "source_object_write" hcontext
  have hguard : SourceObjectWriteGuard.requireContentHashMatch default (sampleRecord objectId) =
      .ok () := by
    unfold SourceObjectWriteGuard.requireContentHashMatch
    rw [show verifyContentHash default (sourceObjectContentBytes (sampleRecord objectId))
      (sampleRecord objectId).metadata.contentHash "source_object_write" = .ok verified from
      hverified]
  have hreference : SourceObjectWriteGuard.requireKmsReference (sampleRecord objectId).metadata =
      .ok () := by
    unfold SourceObjectWriteGuard.requireKmsReference
    rw [show (sampleRecord objectId).metadata.kmsKeyRef = "kms://acme/internal/v1" from rfl, hparse]
    rfl
  have hmatch : SourceObjectWriteGuard.requireManifestHashMatch default
      (sampleRecord objectId).metadata = .ok () :=
    require_eq_ok.mpr (buildSourceObjectManifestHash_withManifestHash _).symm
  rw [SourceObjectWriteGuard.validateBeforeWrite, hfields, hreference, hguard, hmatch]
  rfl

/-- The repository that holds the sample record alone. -/
theorem get?_loaded_sampleRecord {objectId : String} (h : objectId ∈ ["doc-1", "doc-2"])
    (key : VersionKey) :
    (InMemorySourceObjectRepository.loaded default [sampleRecord objectId]).records.get? key =
      if key = ("acme", objectId, "v1") then some (sampleRecord objectId) else none := by
  have hload : InMemorySourceObjectRepository.loaded default [sampleRecord objectId] =
      InMemorySourceObjectRepository.insert ∅ (sampleRecord objectId)
        (InMemorySourceObjectRepository.get?_empty _) := by
    rw [InMemorySourceObjectRepository.loaded, Runs.run_cons, Runs.run_nil]
    exact InMemorySourceObjectRepository.write_eq_insert (sampleRecord_metadata h)
      (sampleRecord_content _) (sampleRecord_writable h) _
  rw [hload, InMemorySourceObjectRepository.get?_insert, InMemorySourceObjectRepository.get?_empty]
  rfl

end Collabio
