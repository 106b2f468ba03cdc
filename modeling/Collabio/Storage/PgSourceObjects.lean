import Mathlib.Tactic
import Collabio.Kms.ShredTiming
import Collabio.Storage.StorageManifestSpec
import Collabio.Storage.PgReceiptStore

/-!
# Source objects in PostgreSQL and the content store

`PgSourceObjectRepository.add` splits a record into a metadata row, a storage manifest row
and the bytes in the content store; `get` puts it together again and checks it. Of a
record with text only the bytes are stored, and the mime type decides what they come back as.

* `add_eq_ok`                    — what an `add` that returns has checked and written;
* `get_add_iff`                  — when `get` returns the record that was added;
* `source_object_round_trip_iff` — the same, with the hashes of what is returned.
-/

namespace Collabio

open Datetime PgSourceObjectWriteReceiptStore ReceiptStores

variable (H : HashFunctions)

/-- `bytes.decode("utf-8")`; `none` is the UnicodeDecodeError. -/
def decodeUtf8 (content : Bytes) : Option String := String.fromUTF8? ⟨content.toArray⟩

theorem decodeUtf8_encodeUtf8 (s : String) : decodeUtf8 (Text.encodeUtf8 s) = some s := by
  have hbytes : (⟨(Text.encodeUtf8 s).toArray⟩ : ByteArray) = s.toByteArray := by
    apply ByteArray.ext
    exact Array.toArray_toList
  rw [decodeUtf8, hbytes, String.fromUTF8?, dif_pos s.isValidUTF8]
  rfl

/-- `SourceObjectStorageError` is a ValueError. -/
def storageError (text : String) : Exn := .valueError (.message text)

/-! ## The content store -/

structure StoredSourceObjectContent where
  tenantId          : String
  objectId          : String
  versionId         : String
  bucketId          : String
  objectKey         : String
  objectVersionId   : String
  storageProvider   : String
  storedAtUtc       : String
  contentHash       : String
  contentByteLength : Nat
  deriving DecidableEq, Repr

/-- Tenant, bucket, object key and object version. -/
abbrev ContentKey := String × String × String × String

namespace InMemorySourceObjectContentStore

/-- `_object_version_id`. -/
def objectVersionId (bucketId objectKey contentHash : String) : String :=
  let separator := String.singleton (Char.ofNat 31)
  "mem:" ++ hexdigest H
    (Text.encodeUtf8 (bucketId ++ separator ++ objectKey ++ separator ++ contentHash))

/-- Where the content of a record goes. -/
def contentKey (record : SourceObjectRecord) (bucketId objectKey : String) : ContentKey :=
  (record.metadata.tenantId, bucketId, objectKey,
    objectVersionId H bucketId objectKey record.metadata.contentHash)

/-- What `put` tells of the stored content; the clock shows whole seconds. -/
def storedContent (storageProvider : String) (now : DateTime) (record : SourceObjectRecord)
    (bucketId objectKey : String) : StoredSourceObjectContent where
  tenantId := record.metadata.tenantId
  objectId := record.metadata.objectId
  versionId := record.metadata.versionId
  bucketId := bucketId
  objectKey := objectKey
  objectVersionId := objectVersionId H bucketId objectKey record.metadata.contentHash
  storageProvider := storageProvider
  storedAtUtc := toUtcIso now
  contentHash := record.metadata.contentHash
  contentByteLength := (sourceObjectContentBytes record).length

def put (storageProvider : String) (now : DateTime) (record : SourceObjectRecord)
    (bucketId objectKey : String) : Eff Exn (Dict ContentKey Bytes) StoredSourceObjectContent :=
  fun objects =>
    let stored := storedContent H storageProvider now record bucketId objectKey
    let key := contentKey H record bucketId objectKey
    match requireContentVerified H storageError (sourceObjectContentBytes record)
        record.metadata.contentHash "source_object_content_store_put" with
    | .error exn => (.error exn, objects)
    | .ok _ =>
      if ∃ content ∈ objects.get? key, content ≠ sourceObjectContentBytes record then
        (.error (storageError "content object version already exists with different bytes"),
          objects)
      else (.ok stored, objects.set key (sourceObjectContentBytes record))

def get (objects : Dict ContentKey Bytes) (manifest : StorageObjectManifest) :
    Except Exn Bytes :=
  match objects.get? (manifest.tenantId, manifest.bucketId, manifest.objectKey,
      manifest.objectVersionId) with
  | none => .error .keyError
  | some content => do
    let _ ← requireContentVerified H storageError content manifest.contentHash
      "source_object_content_store_get"
    require (content.length = manifest.contentByteLength)
      (storageError "content_byte_length does not match storage manifest")
    return content

end InMemorySourceObjectContentStore

/-! ## The rows -/

/-- A row of `source_object_storage_manifests`; the texts of its times are not kept. -/
structure StorageManifestRow where
  columns                  : StorageObjectManifest
  storedAtUtc              : DateTime
  objectLockRetainUntilUtc : Option DateTime
  deriving DecidableEq, Repr

/-- A row of `source_object_metadata`. -/
structure SourceMetadataRow where
  columns                     : SourceObjectMetadata
  createdAtUtc                : DateTime
  updatedAtUtc                : DateTime
  retentionManifestHash       : String
  retentionPolicySnapshotHash : String
  storageManifestHash         : String
  deriving DecidableEq, Repr

/-- The content store and the two tables. -/
structure SourceObjectWorld where
  objects   : Dict ContentKey Bytes := ∅
  manifests : List StorageManifestRow := []
  metadata  : List SourceMetadataRow := []

structure PgSourceObjectRepository where
  retentionPolicy : RetentionManifestPolicy
  bucketProfiles  : List BucketProfile
  storageProvider : String := "in-memory"

namespace PgSourceObjectRepository

/-- The values of `_insert_storage_manifest`, as the columns store them. -/
def manifestRow? (manifest : StorageObjectManifest) : Option StorageManifestRow :=
  (storedTimestamp manifest.storedAtUtc).bind fun storedAtUtc =>
    (manifest.objectLockRetainUntilUtc.mapM storedTimestamp).map fun until? => {
      columns := { manifest with storedAtUtc := "", objectLockRetainUntilUtc := none }
      storedAtUtc := storedAtUtc
      objectLockRetainUntilUtc := until? }

/-- The values of `_insert_source_metadata`. -/
def metadataRow? (metadata : SourceObjectMetadata) (retention : RetentionManifest)
    (manifest : StorageObjectManifest) : Option SourceMetadataRow :=
  (storedTimestamp metadata.createdAtUtc).bind fun createdAtUtc =>
    (storedTimestamp metadata.updatedAtUtc).map fun updatedAtUtc => {
      columns := { metadata with createdAtUtc := "", updatedAtUtc := "" }
      createdAtUtc := createdAtUtc
      updatedAtUtc := updatedAtUtc
      retentionManifestHash := buildRetentionManifestHash H retention
      retentionPolicySnapshotHash := retention.policySnapshotHash
      storageManifestHash := manifest.manifestHash }

/-- `_metadata_from_row`. -/
def metadataFromRow (row : SourceMetadataRow) : Except Exn SourceObjectMetadata :=
  { row.columns with
    createdAtUtc := utcTimestamp row.createdAtUtc
    updatedAtUtc := utcTimestamp row.updatedAtUtc : SourceObjectMetadata }.validate

/-- `_storage_manifest_from_row`. -/
def storageManifestFromRow (row : StorageManifestRow) : Except Exn StorageObjectManifest :=
  { row.columns with
    storedAtUtc := utcTimestamp row.storedAtUtc
    objectLockRetainUntilUtc := row.objectLockRetainUntilUtc.map utcTimestamp :
      StorageObjectManifest }.validate

/-- The texts that go into text columns of either table. -/
def columnTexts (metadata : SourceObjectMetadata) (manifest : StorageObjectManifest) :
    List String :=
  [metadata.tenantId, metadata.objectId, metadata.versionId, metadata.title,
    metadata.ownerPrincipalId, metadata.createdBy, metadata.retentionPolicyId,
    metadata.kmsKeyRef, metadata.manifestHash, metadata.auditChainRef, metadata.sourceSystem,
    metadata.schemaVersion, metadata.mimeType, metadata.aclHash, metadata.contentHash] ++
    metadata.parentObjectId.toList ++ metadata.threadId.toList ++
    metadata.parserProfileId.toList ++
    [manifest.bucketId, manifest.objectKey, manifest.objectVersionId, manifest.storageProvider,
      manifest.schemaVersion]

/-- What the tables ask that the models have not asked already; `reads` says which texts
PostgreSQL reads as a timestamp. -/
def TablesAccept (reads : String → Bool) (metadata : SourceObjectMetadata)
    (manifest : StorageObjectManifest) : Prop :=
  Sendable (columnTexts metadata manifest) ∧
    (∀ text ∈ [metadata.createdAtUtc, metadata.updatedAtUtc, manifest.storedAtUtc] ++
      manifest.objectLockRetainUntilUtc.toList, reads text = true) ∧
    isSourceSystem metadata.sourceSystem = true ∧
    metadata.aclVersion < 2 ^ 31 ∧ metadata.contentByteLength < 2 ^ 31 ∧
    (∀ hash ∈ [metadata.manifestHash, manifest.retentionManifestHash,
      manifest.retentionPolicySnapshotHash, manifest.manifestHash], isSha256Ref hash = true) ∧
    (metadata.objectType = .attachment ∨ metadata.objectType = .comment →
      metadata.parentObjectId.isSome = true) ∧
    (manifest.objectLockMode = .none → manifest.objectLockRetainUntilUtc = none ∧
      manifest.objectLockLegalHold = false ∧ manifest.wormRequired = false)

instance (reads : String → Bool) (metadata : SourceObjectMetadata)
    (manifest : StorageObjectManifest) : Decidable (TablesAccept reads metadata manifest) := by
  unfold TablesAccept
  infer_instance

/-- The keys of the first table: by hash, and by place in the content store. -/
def ManifestConflict (manifest : StorageObjectManifest) (row : StorageManifestRow) : Prop :=
  (row.columns.tenantId, row.columns.manifestHash) = (manifest.tenantId, manifest.manifestHash) ∨
    (row.columns.tenantId, row.columns.bucketId, row.columns.objectKey,
      row.columns.objectVersionId) = (manifest.tenantId, manifest.bucketId, manifest.objectKey,
        manifest.objectVersionId)

/-- The keys of the second: by version, and by hash. -/
def MetadataConflict (metadata : SourceObjectMetadata) (row : SourceMetadataRow) : Prop :=
  row.columns.versionKey = metadata.versionKey ∨
    (row.columns.tenantId, row.columns.manifestHash) = (metadata.tenantId, metadata.manifestHash)

instance (manifest : StorageObjectManifest) (row : StorageManifestRow) :
    Decidable (ManifestConflict manifest row) := by
  unfold ManifestConflict
  infer_instance

instance (metadata : SourceObjectMetadata) (row : SourceMetadataRow) :
    Decidable (MetadataConflict metadata row) := by
  unfold MetadataConflict
  infer_instance

/-- Both inserts, as one transaction. -/
def insertRows (reads : String → Bool) (record : SourceObjectRecord)
    (retention : RetentionManifest) (manifest : StorageObjectManifest) :
    Eff Exn SourceObjectWorld Unit := fun world =>
  match manifestRow? manifest, metadataRow? H record.metadata retention manifest with
  | some manifestRow, some metadataRow =>
    if ¬ TablesAccept reads record.metadata manifest then
      (.error (.databaseError "DatabaseError"), world)
    else if (∃ row ∈ world.manifests, ManifestConflict manifest row) ∨
        ∃ row ∈ world.metadata, MetadataConflict record.metadata row then
      (.error (.valueError (.message "source object version already exists")), world)
    else
      (.ok (), { world with
        manifests := world.manifests ++ [manifestRow]
        metadata := world.metadata ++ [metadataRow] })
  | _, _ => (.error (.databaseError "DatabaseError"), world)

/-! ## Adding -/

/-- `StorageAdapterPolicy.bucket`. -/
def bucket (repository : PgSourceObjectRepository) (bucketId : String) :
    Except Exn BucketProfile :=
  match repository.bucketProfiles.find? fun profile => profile.bucketId = bucketId with
  | some profile => .ok profile
  | none => .error (.lookupError ("Unknown bucket profile: " ++ bucketId))

/-- `_require_stored_content_matches_manifest`. -/
def requireStoredContentMatchesManifest (stored : StoredSourceObjectContent)
    (manifest : StorageObjectManifest) : Except Exn Unit :=
  requireAgreement storageError "stored content does not match storage manifest: " [
    ("tenant_id", decide (stored.tenantId = manifest.tenantId)),
    ("object_id", decide (stored.objectId = manifest.objectId)),
    ("version_id", decide (stored.versionId = manifest.sourceVersionId)),
    ("bucket_id", decide (stored.bucketId = manifest.bucketId)),
    ("object_key", decide (stored.objectKey = manifest.objectKey)),
    ("object_version_id", decide (stored.objectVersionId = manifest.objectVersionId)),
    ("storage_provider", decide (stored.storageProvider = manifest.storageProvider)),
    ("stored_at_utc", decide (stored.storedAtUtc = manifest.storedAtUtc)),
    ("content_hash", decide (stored.contentHash = manifest.contentHash)),
    ("content_byte_length", decide (stored.contentByteLength = manifest.contentByteLength))]

/-- The content store's part of the world. -/
def putContent (repository : PgSourceObjectRepository) (now : DateTime)
    (record : SourceObjectRecord) (bucketId : String) :
    Eff Exn SourceObjectWorld StoredSourceObjectContent := fun world =>
  let result := InMemorySourceObjectContentStore.put H repository.storageProvider now record
    bucketId (buildStorageObjectKey record) world.objects
  (result.1, { world with objects := result.2 })

def add (reads : String → Bool) (repository : PgSourceObjectRepository) (now : DateTime)
    (record : SourceObjectRecord) : Eff Exn SourceObjectWorld Unit := do
  Eff.lift (SourceObjectWriteGuard.validateBeforeWrite H record)
  let retention ← Eff.lift (buildRetentionManifest H record repository.retentionPolicy)
  let profile ← Eff.lift (repository.bucket retention.storageBucketId)
  let stored ← putContent H repository now record profile.bucketId
  let manifest ← Eff.lift (buildStorageObjectManifest H record retention profile
    stored.objectVersionId stored.storedAtUtc (some stored.objectKey) stored.storageProvider)
  Eff.lift (requireStoredContentMatchesManifest stored manifest)
  insertRows H reads record retention manifest

/-! ## Getting -/

/-- The mime types whose bytes are read as text. -/
def isTextMime (mimeType : String) : Bool :=
  "text/".toList.isPrefixOf mimeType.toList || mimeType == "application/json" ||
    mimeType == "message/rfc822"

/-- `_record_from_content`. -/
def recordFromContent (metadata : SourceObjectMetadata) (content : Bytes) :
    Except Exn SourceObjectRecord :=
  match if isTextMime metadata.mimeType then decodeUtf8 content else none with
  | some text => SourceObjectRecord.validate { metadata, text }
  | none => SourceObjectRecord.validate { metadata, contentBytes := some content }

/-- `_require_storage_manifest_matches_record`. -/
def requireStorageManifestMatchesRecord (manifest : StorageObjectManifest)
    (record : SourceObjectRecord) : Except Exn Unit := do
  require (buildStorageObjectManifestHash H manifest = manifest.manifestHash)
    (storageError "storage manifest hash is invalid")
  let metadata := record.metadata
  let comparisons := [
    ("tenant_id", decide (manifest.tenantId = metadata.tenantId)),
    ("object_id", decide (manifest.objectId = metadata.objectId)),
    ("object_type", decide (manifest.objectType = metadata.objectType)),
    ("source_version_id", decide (manifest.sourceVersionId = metadata.versionId)),
    ("classification", decide (manifest.classification = metadata.classification)),
    ("lifecycle_state", decide (manifest.lifecycleState = metadata.lifecycleState)),
    ("retention_policy_id", decide (manifest.retentionPolicyId = metadata.retentionPolicyId)),
    ("legal_hold_state", decide (manifest.legalHoldState = metadata.legalHoldState)),
    ("kms_key_ref", decide (manifest.kmsKeyRef = metadata.kmsKeyRef)),
    ("source_manifest_hash", decide (manifest.sourceManifestHash = metadata.manifestHash)),
    ("content_hash", decide (manifest.contentHash = metadata.contentHash)),
    ("content_byte_length", decide (manifest.contentByteLength = metadata.contentByteLength)),
    ("audit_chain_ref", decide (manifest.auditChainRef = metadata.auditChainRef))]
  let mismatches := ((comparisons.filter (!·.2)).map Prod.fst).insertionSort (· ≤ ·) ++
    if metadata.manifestHash = buildSourceObjectManifestHash H metadata then []
    else ["source_manifest_hash"]
  require (mismatches = []) (storageError
    ("storage manifest does not match source object: " ++ ", ".intercalate mismatches))

/-- `fetchone`, and the KeyError for no row. -/
def fetched {α : Type} : Option α → Except Exn α
  | some row => .ok row
  | none => .error .keyError

def get (world : SourceObjectWorld) (tenantId objectId versionId : String) :
    Except Exn SourceObjectRecord := do
  require (Sendable [tenantId, objectId, versionId]) (.databaseError "DatabaseError")
  let metadataRow ← fetched (world.metadata.find? fun row =>
    row.columns.versionKey = (tenantId, objectId, versionId))
  let manifestRow ← fetched (world.manifests.find? fun row =>
    (row.columns.tenantId, row.columns.manifestHash) = (tenantId, metadataRow.storageManifestHash))
  let metadata ← metadataFromRow metadataRow
  let manifest ← storageManifestFromRow manifestRow
  let content ← InMemorySourceObjectContentStore.get H world.objects manifest
  let record ← recordFromContent metadata content
  SourceObjectWriteGuard.validateBeforeWrite H record
  requireStorageManifestMatchesRecord H manifest record
  return record

/-! ## What an `add` has done -/

variable {H} {reads : String → Bool} {repository : PgSourceObjectRepository} {now : DateTime}
variable {record : SourceObjectRecord} {world world' : SourceObjectWorld}

theorem lift_bind_eq_ok {ε σ α β : Type} {x : Except ε α} {f : α → Eff ε σ β} {s t : σ} {b : β} :
    (Eff.lift x >>= f) s = (.ok b, t) ↔ ∃ a, x = .ok a ∧ f a s = (.ok b, t) := by
  rw [Eff.lift_bind_apply]
  cases x with
  | ok a => simp
  | error e => simp

variable (H reads repository now record world world') in
/-- What an `add` that returns has found and written. -/
structure Added (retention : RetentionManifest) (profile : BucketProfile)
    (manifest : StorageObjectManifest) (manifestRow : StorageManifestRow)
    (metadataRow : SourceMetadataRow) : Prop where
  writable  : SourceObjectWriteGuard.validateBeforeWrite H record = .ok ()
  retained  : buildRetentionManifest H record repository.retentionPolicy = .ok retention
  built     : buildStorageObjectManifest H record retention profile
    (InMemorySourceObjectContentStore.objectVersionId H profile.bucketId
      (buildStorageObjectKey record) record.metadata.contentHash)
    (toUtcIso now) (some (buildStorageObjectKey record)) repository.storageProvider = .ok manifest
  place     : (manifest.bucketId, manifest.objectKey, manifest.objectVersionId) =
    (profile.bucketId, buildStorageObjectKey record,
      InMemorySourceObjectContentStore.objectVersionId H profile.bucketId
        (buildStorageObjectKey record) record.metadata.contentHash)
  manifestIn : manifestRow? manifest = some manifestRow
  metadataIn : metadataRow? H record.metadata retention manifest = some metadataRow
  accepts   : TablesAccept reads record.metadata manifest
  free      : ¬ ((∃ row ∈ world.manifests, ManifestConflict manifest row) ∨
    ∃ row ∈ world.metadata, MetadataConflict record.metadata row)
  objects   : world'.objects = world.objects.set (InMemorySourceObjectContentStore.contentKey H
    record profile.bucketId (buildStorageObjectKey record)) (sourceObjectContentBytes record)
  manifests : world'.manifests = world.manifests ++ [manifestRow]
  metadata  : world'.metadata = world.metadata ++ [metadataRow]

theorem put_eq_ok {storageProvider bucketId objectKey : String}
    {objects objects' : Dict ContentKey Bytes} {stored : StoredSourceObjectContent}
    (h : InMemorySourceObjectContentStore.put H storageProvider now record bucketId objectKey
      objects = (.ok stored, objects')) :
    stored = InMemorySourceObjectContentStore.storedContent H storageProvider now record bucketId
        objectKey ∧
      objects' = objects.set (InMemorySourceObjectContentStore.contentKey H record bucketId
        objectKey) (sourceObjectContentBytes record) := by
  unfold InMemorySourceObjectContentStore.put at h
  dsimp only at h
  split at h
  · cases h
  · split at h
    · cases h
    · cases h
      exact ⟨rfl, rfl⟩

theorem putContent_eq_ok {bucketId : String} {stored : StoredSourceObjectContent}
    (h : putContent H repository now record bucketId world = (.ok stored, world')) :
    stored = InMemorySourceObjectContentStore.storedContent H repository.storageProvider now
        record bucketId (buildStorageObjectKey record) ∧
      world' = { world with
        objects := world.objects.set (InMemorySourceObjectContentStore.contentKey H record
          bucketId (buildStorageObjectKey record)) (sourceObjectContentBytes record) } := by
  unfold putContent at h
  cases hput : InMemorySourceObjectContentStore.put H repository.storageProvider now record
    bucketId (buildStorageObjectKey record) world.objects with
  | mk result objects =>
    rw [hput] at h
    obtain ⟨hresult, rfl⟩ := Prod.mk.inj h
    have hresult : result = .ok stored := hresult
    rw [hresult] at hput
    obtain ⟨hstored, hobjects⟩ := put_eq_ok hput
    rw [← hobjects]
    exact ⟨hstored, rfl⟩

theorem insertRows_eq_ok {retention : RetentionManifest} {manifest : StorageObjectManifest}
    (h : insertRows H reads record retention manifest world = (.ok (), world')) :
    ∃ manifestRow metadataRow, manifestRow? manifest = some manifestRow ∧
      metadataRow? H record.metadata retention manifest = some metadataRow ∧
      TablesAccept reads record.metadata manifest ∧
      (¬ ((∃ row ∈ world.manifests, ManifestConflict manifest row) ∨
        ∃ row ∈ world.metadata, MetadataConflict record.metadata row)) ∧
      world' = { world with
        manifests := world.manifests ++ [manifestRow]
        metadata := world.metadata ++ [metadataRow] } := by
  unfold insertRows at h
  split at h
  · rename_i manifestRow metadataRow hmanifest hmetadata
    split at h
    · cases h
    · rename_i haccepts
      split at h
      · cases h
      · rename_i hfree
        cases h
        exact ⟨manifestRow, metadataRow, hmanifest, hmetadata, not_not.mp haccepts, hfree, rfl⟩
  · cases h

theorem add_eq_ok (h : add H reads repository now record world = (.ok (), world')) :
    ∃ retention profile manifest manifestRow metadataRow,
      Added H reads repository now record world world' retention profile manifest manifestRow
        metadataRow := by
  unfold add at h
  obtain ⟨_, hwritable, h⟩ := lift_bind_eq_ok.mp h
  obtain ⟨retention, hretention, h⟩ := lift_bind_eq_ok.mp h
  obtain ⟨profile, -, h⟩ := lift_bind_eq_ok.mp h
  -- the content store takes the bytes before the tables take the rows
  obtain ⟨stored, between, hput, h⟩ := Eff.bind_eq_ok.mp h
  obtain ⟨rfl, rfl⟩ := putContent_eq_ok hput
  obtain ⟨manifest, hbuilt, h⟩ := lift_bind_eq_ok.mp h
  obtain ⟨_, hmatches, h⟩ := lift_bind_eq_ok.mp h
  obtain ⟨manifestRow, metadataRow, hmanifest, hmetadata, haccepts, hfree, rfl⟩ :=
    insertRows_eq_ok h
  have hplace := requireAgreement_eq_ok.mp hmatches
  simp only [List.all_cons, List.all_nil, Bool.and_true, Bool.and_eq_true,
    decide_eq_true_eq] at hplace
  obtain ⟨-, -, -, hbucket, hkey, hversion, -⟩ := hplace
  have hsame : (manifest.bucketId, manifest.objectKey, manifest.objectVersionId) =
      (profile.bucketId, buildStorageObjectKey record,
        InMemorySourceObjectContentStore.objectVersionId H profile.bucketId
          (buildStorageObjectKey record) record.metadata.contentHash) := by
    rw [← hbucket, ← hkey, ← hversion]
    rfl
  exact ⟨retention, profile, manifest, manifestRow, metadataRow, hwritable, hretention, hbuilt,
    hsame, hmanifest, hmetadata, haccepts, hfree, rfl, rfl, rfl⟩

/-! ## Times -/

theorem storedTimestamp_toUtcIso {t : DateTime} (h : t.OnClock) :
    storedTimestamp (toUtcIso t) = some { t with microsecond := 0, utcoffset := some 0 } := by
  have htext : Text.replaceChar 'Z' "+00:00".toList (toUtcIso t).toList =
      isoformatSeconds t ++ "+00:00".toList := by
    have hchars : (toUtcIso t).toList = isoformatSeconds t ++ ['Z'] := String.toList_ofList
    have hhead := @replaceChar_of_not_mem 'Z' "+00:00".toList _ (not_mem_isoformatSeconds t)
    rw [hchars, replaceChar_append, hhead]
    rfl
  rw [storedTimestamp, htext, fromisoformat_isoformatSeconds h.hour h.minute h.second]

/-- A time in whole seconds is in the form that comes back. -/
theorem canonical_toUtcIso {t : DateTime} (h : t.OnClock) : Canonical (toUtcIso t) := by
  rw [Canonical, storedTimestamp_toUtcIso h, Option.map_some]
  simp [utcTimestamp, toUtcIso, isoformatSeconds]

@[simp] theorem strip_utcTimestamp (t : DateTime) :
    Text.strip (utcTimestamp t) = utcTimestamp t := by
  refine Text.strip_eq_self_of_forall fun c hc => ?_
  have hdigits : ∀ width n, ∀ d ∈ padded width n, Text.isSpace d = false :=
    fun width n d hd => isSpace_of_isAsciiDigit (digit_of_mem_padded d hd)
  simp only [utcTimestamp, isoformatSeconds, String.toList_ofList, List.mem_append,
    List.mem_cons, List.not_mem_nil, or_false] at hc
  split at hc
  · aesop
  · aesop

/-! ## What comes back -/

/-- A hash that the tables accept is a reference. -/
theorem isNamespacedRef_of_isSha256Ref {content : Bytes}
    (h : isSha256Ref (computeContentHash H content) = true) :
    isNamespacedRef (computeContentHash H content) = true := by
  refine isNamespacedRef_computeContentHash fun hempty => ?_
  have hchars : (computeContentHash H content).toList = "sha256:".toList := by
    rw [toList_computeContentHash, hempty]
    rfl
  rw [isSha256Ref, hchars] at h
  exact absurd h (by decide)

section

variable {retention : RetentionManifest} {profile : BucketProfile}
variable {manifest : StorageObjectManifest} {manifestRow : StorageManifestRow}
variable {metadataRow : SourceMetadataRow}

/-- The draft behind a manifest that was built. -/
theorem draft_of_build {objectVersionId storedAtUtc storageProvider : String}
    {objectKey : Option String}
    (h : buildStorageObjectManifest H record retention profile objectVersionId storedAtUtc
      objectKey storageProvider = .ok manifest) :
    ∃ draft, draft = draftStorageObjectManifest H record retention profile objectVersionId
        storedAtUtc objectKey storageProvider ∧
      draft.normalized.errors = [] ∧ draft.normalized.requireConsistentObjectLock = .ok () ∧
      manifest = draft.normalized.withManifestHash H := by
  obtain ⟨-, h⟩ := Except.unit_bind_eq_ok.mp h
  obtain ⟨-, h⟩ := Except.unit_bind_eq_ok.mp h
  obtain ⟨-, h⟩ := Except.unit_bind_eq_ok.mp h
  obtain ⟨_, -, h⟩ := Except.bind_eq_ok.mp h
  obtain ⟨draft, hdraft, h⟩ := Except.bind_eq_ok.mp h
  obtain ⟨accepted, haccept, hdraft⟩ := Except.bind_eq_ok.mp hdraft
  obtain ⟨hlock, hdraft⟩ := Except.unit_bind_eq_ok.mp hdraft
  cases hdraft
  cases h
  obtain ⟨herrors, rfl⟩ := accept_eq_ok.mp haccept
  exact ⟨_, rfl, herrors, hlock, rfl⟩

/-- A manifest that was built and whose hash the table accepts validates to itself. -/
theorem validate_of_build {objectVersionId storedAtUtc storageProvider : String}
    {objectKey : Option String}
    (h : buildStorageObjectManifest H record retention profile objectVersionId storedAtUtc
      objectKey storageProvider = .ok manifest)
    (hhash : isSha256Ref manifest.manifestHash = true) : manifest.validate = .ok manifest := by
  obtain ⟨draft, -, herrors, hlock, rfl⟩ := draft_of_build h
  -- what was built is stripped, and so is the hash put into it
  have hself : (draft.normalized.withManifestHash H).normalized =
      draft.normalized.withManifestHash H := by
    have huntil : ∀ until? : Option String,
        (until?.map Text.strip).map Text.strip = until?.map Text.strip := by
      intro until?
      cases until? <;> simp
    simp [StorageObjectManifest.normalized, StorageObjectManifest.withManifestHash,
      buildStorageObjectManifestHash, hashJson, huntil]
  have hvalid : (draft.normalized.withManifestHash H).errors = [] := by
    obtain ⟨htexts, hstored, hrefs, huntil⟩ := StorageObjectManifest.errors_eq_nil.mp herrors
    refine StorageObjectManifest.errors_eq_nil.mpr ⟨htexts, hstored, ?_, huntil⟩
    simp only [List.forall_mem_cons] at hrefs ⊢
    obtain ⟨hkms, hsource, hcontent, hretention, hsnapshot, haudit, -, hrest⟩ := hrefs
    exact ⟨hkms, hsource, hcontent, hretention, hsnapshot, haudit,
      isNamespacedRef_of_isSha256Ref hhash, hrest⟩
  -- the object lock does not depend on the hash
  have hlock : (draft.normalized.withManifestHash H).requireConsistentObjectLock = .ok () := by
    rw [← hlock]
    unfold StorageObjectManifest.requireConsistentObjectLock
    rfl
  refine Except.bind_eq_ok.mpr ⟨_, accept_eq_ok.mpr ⟨?_, hself⟩, ?_⟩
  · rw [hself]
    exact hvalid
  · exact Except.unit_bind_eq_ok.mpr ⟨hlock, rfl⟩

/-- A time that is stored comes back as it was exactly if it is canonical. -/
theorem utcTimestamp_eq_iff {value : String} {t : DateTime} (h : storedTimestamp value = some t) :
    utcTimestamp t = value ↔ Canonical value := by
  rw [Canonical, h, Option.map_some, Option.some.injEq]

/-- All times of a manifest that was built are in whole seconds. -/
theorem canonical_of_build {objectVersionId storageProvider : String}
    {objectKey : Option String} {policySet : RetentionManifestPolicy} (hnow : now.OnClock)
    (hretention : buildRetentionManifest H record policySet = .ok retention)
    (h : buildStorageObjectManifest H record retention profile objectVersionId (toUtcIso now)
      objectKey storageProvider = .ok manifest) :
    Canonical manifest.storedAtUtc ∧
      ∀ text ∈ manifest.objectLockRetainUntilUtc, Canonical text := by
  obtain ⟨draft, rfl, -, -, rfl⟩ := draft_of_build h
  obtain ⟨policy, created, until?, -, hcreated, huntil, rfl⟩ :=
    buildRetentionManifest_eq_ok H hretention
  constructor
  · -- the clock shows whole seconds
    change Canonical (Text.strip (toUtcIso now))
    rw [strip_toUtcIso]
    exact canonical_toUtcIso hnow
  · intro text htext
    change text ∈ Option.map Text.strip (if policy.objectLockMode ≠ .none then
      until?.map toUtcIso else none) at htext
    split at htext
    · cases huntil? : until? with
      | none =>
        rw [huntil?] at htext
        cases htext
      | some t =>
        rw [huntil?] at htext huntil
        obtain rfl : Text.strip (toUtcIso t) = text := by simpa using htext
        rw [strip_toUtcIso]
        refine canonical_toUtcIso ?_
        -- the end of the retention is days after the start, which was read in whole seconds
        cases hdays : policy.retentionDays with
        | none =>
          rw [hdays] at huntil
          cases huntil
        | some days =>
          rw [hdays, retainUntil] at huntil
          split at huntil
          · rename_i later hlater
            cases huntil
            exact OnClock.of_addDays hlater (retentionParseUtc_eq_ok hcreated).1
          · cases huntil
    · cases htext

/-- The manifest comes back as it was. -/
theorem storageManifestFromRow_of_row (hrow : manifestRow? manifest = some manifestRow)
    (hvalid : manifest.validate = .ok manifest) (hstored : Canonical manifest.storedAtUtc)
    (huntil : ∀ text ∈ manifest.objectLockRetainUntilUtc, Canonical text) :
    storageManifestFromRow manifestRow = .ok manifest := by
  obtain ⟨storedAt, hstoredAt, hrow⟩ := Option.bind_eq_some_iff.mp hrow
  obtain ⟨until?, huntil?, rfl⟩ := Option.map_eq_some_iff.mp hrow
  have hlock : until?.map utcTimestamp = manifest.objectLockRetainUntilUtc := by
    cases htext : manifest.objectLockRetainUntilUtc with
    | none =>
      rw [htext] at huntil?
      cases huntil?
      rfl
    | some text =>
      rw [htext] at huntil?
      obtain ⟨t, ht, rfl⟩ : ∃ t, storedTimestamp text = some t ∧ until? = some t := by
        simpa [Option.mapM_some, eq_comm] using huntil?
      rw [Option.map_some, (utcTimestamp_eq_iff ht).mpr (huntil text (by rw [htext]; rfl))]
  unfold storageManifestFromRow
  dsimp only
  rw [(utcTimestamp_eq_iff hstoredAt).mpr hstored, hlock]
  exact hvalid

/-- Both times of the metadata are in the form that comes back. -/
def TimesReturn (metadata : SourceObjectMetadata) : Prop :=
  Canonical metadata.createdAtUtc ∧ Canonical metadata.updatedAtUtc

/-- The metadata comes back as it was exactly if its times do. -/
theorem metadataFromRow_eq_iff
    (hrow : metadataRow? H record.metadata retention manifest = some metadataRow)
    (hvalid : record.metadata.validate = .ok record.metadata) :
    metadataFromRow metadataRow = .ok record.metadata ↔ TimesReturn record.metadata := by
  obtain ⟨createdAt, hcreated, hrow⟩ := Option.bind_eq_some_iff.mp hrow
  obtain ⟨updatedAt, hupdated, rfl⟩ := Option.map_eq_some_iff.mp hrow
  unfold metadataFromRow TimesReturn
  dsimp only
  rw [← utcTimestamp_eq_iff hcreated, ← utcTimestamp_eq_iff hupdated]
  constructor
  · intro h
    obtain ⟨-, -, hsame⟩ := SourceObjectMetadata.validate_eq_ok.mp h
    have hcreatedAt := congrArg SourceObjectMetadata.createdAtUtc hsame
    have hupdatedAt := congrArg SourceObjectMetadata.updatedAtUtc hsame
    simp only [SourceObjectMetadata.normalized, strip_utcTimestamp] at hcreatedAt hupdatedAt
    exact ⟨hcreatedAt.symm, hupdatedAt.symm⟩
  · rintro ⟨hcreatedAt, hupdatedAt⟩
    rw [hcreatedAt, hupdatedAt]
    exact hvalid

/-- The content comes back as it was: text of a text type, or bytes without text that
are not read as text. -/
def ContentReturns (record : SourceObjectRecord) : Prop :=
  match record.contentBytes with
  | none => isTextMime record.metadata.mimeType = true
  | some content => record.text = "" ∧
    (isTextMime record.metadata.mimeType = true → decodeUtf8 content = none)

theorem recordFromContent_metadata {metadata : SourceObjectMetadata} {content : Bytes}
    {found : SourceObjectRecord} (h : recordFromContent metadata content = .ok found) :
    found.metadata = metadata := by
  unfold recordFromContent at h
  split at h
  · rw [(SourceObjectRecord.validate_eq_ok.mp h).2.2]
  · rw [(SourceObjectRecord.validate_eq_ok.mp h).2.2]

theorem recordFromContent_eq_iff (hvalid : record.validate = .ok record) :
    recordFromContent record.metadata (sourceObjectContentBytes record) = .ok record ↔
      ContentReturns record := by
  obtain ⟨metadata, text, contentBytes⟩ := record
  unfold recordFromContent ContentReturns sourceObjectContentBytes
  cases contentBytes with
  | none =>
    -- a text comes back as bytes, unless its mime type says that it is one
    simp only [Option.getD_none, decodeUtf8_encodeUtf8]
    by_cases hmime : isTextMime metadata.mimeType = true
    · rw [if_pos hmime]
      exact iff_of_true hvalid hmime
    · rw [if_neg hmime]
      refine iff_of_false (fun h => ?_) hmime
      cases (SourceObjectRecord.validate_eq_ok.mp h).2.2
  | some content =>
    simp only [Option.getD_some]
    -- bytes come back as bytes, unless they are read as a text
    by_cases hmime : isTextMime metadata.mimeType = true
    · rw [if_pos hmime]
      cases hdecoded : decodeUtf8 content with
      | some decoded =>
        refine iff_of_false (fun h => ?_) (fun h => ?_)
        · cases (SourceObjectRecord.validate_eq_ok.mp h).2.2
        · cases h.2 hmime
      | none =>
        constructor
        · intro h
          exact ⟨congrArg SourceObjectRecord.text (SourceObjectRecord.validate_eq_ok.mp h).2.2,
            fun _ => rfl⟩
        · rintro ⟨rfl, -⟩
          exact hvalid
    · rw [if_neg hmime]
      constructor
      · intro h
        exact ⟨congrArg SourceObjectRecord.text (SourceObjectRecord.validate_eq_ok.mp h).2.2,
          fun hother => absurd hother hmime⟩
      · rintro ⟨rfl, -⟩
        exact hvalid

/-! ## Getting what was added -/

theorem fields_of_metadataRow
    (h : metadataRow? H record.metadata retention manifest = some metadataRow) :
    metadataRow.columns.versionKey = record.metadata.versionKey ∧
      metadataRow.storageManifestHash = manifest.manifestHash := by
  obtain ⟨createdAt, -, h⟩ := Option.bind_eq_some_iff.mp h
  obtain ⟨updatedAt, -, rfl⟩ := Option.map_eq_some_iff.mp h
  exact ⟨rfl, rfl⟩

theorem fields_of_manifestRow (h : manifestRow? manifest = some manifestRow) :
    (manifestRow.columns.tenantId, manifestRow.columns.manifestHash) =
      (manifest.tenantId, manifest.manifestHash) := by
  obtain ⟨storedAt, -, h⟩ := Option.bind_eq_some_iff.mp h
  obtain ⟨until?, -, rfl⟩ := Option.map_eq_some_iff.mp h
  rfl

/-- The bytes that were put are found under the manifest, and pass its checks. -/
theorem contentGet_of_added {objects objects' : Dict ContentKey Bytes}
    (haccepted : record.Accepted H) (hmatches : manifest.MatchesSource record.metadata)
    (hplace : (manifest.bucketId, manifest.objectKey, manifest.objectVersionId) =
      (profile.bucketId, buildStorageObjectKey record,
        InMemorySourceObjectContentStore.objectVersionId H profile.bucketId
          (buildStorageObjectKey record) record.metadata.contentHash))
    (hobjects : objects' = objects.set (InMemorySourceObjectContentStore.contentKey H record
      profile.bucketId (buildStorageObjectKey record)) (sourceObjectContentBytes record)) :
    InMemorySourceObjectContentStore.get H objects' manifest =
      .ok (sourceObjectContentBytes record) := by
  have hkey : (manifest.tenantId, manifest.bucketId, manifest.objectKey,
      manifest.objectVersionId) = InMemorySourceObjectContentStore.contentKey H record
        profile.bucketId (buildStorageObjectKey record) := by
    rw [hmatches.tenantId, hplace]
    rfl
  have hcontext : Text.strip "source_object_content_store_get" ≠ "" :=
    contexts_notBlank _ (by simp)
  -- the record's hash is that of its bytes, and was stripped when it was accepted
  obtain ⟨hdigest, hhash⟩ := haccepted.contentHash
  have hstrip : Text.strip record.metadata.contentHash = record.metadata.contentHash :=
    congrArg SourceObjectMetadata.contentHash haccepted.normalized
  obtain ⟨verified, hverified⟩ := (verifyContentHash_isOk_iff hcontext).mpr
    ⟨hdigest, hhash.trans hstrip.symm⟩
  unfold InMemorySourceObjectContentStore.get
  rw [hkey, hobjects, Dict.get?_set_self]
  refine Except.bind_eq_ok.mpr ⟨verified, requireContentVerified_eq_ok.mpr ?_, ?_⟩
  · rw [hmatches.contentHash]
    exact hverified
  · refine require_bind_eq_ok.mpr ⟨?_, rfl⟩
    rw [hmatches.contentByteLength, haccepted.contentByteLength]

theorem requireStorageManifestMatchesRecord_of_matches
    (hhash : buildStorageObjectManifestHash H manifest = manifest.manifestHash)
    (hmatches : manifest.MatchesSource record.metadata)
    (hsource : record.metadata.manifestHash = buildSourceObjectManifestHash H record.metadata) :
    requireStorageManifestMatchesRecord H manifest record = .ok () := by
  obtain ⟨h1, h2, h3, h4, h5, h6, h7, h8, h9, h10, h11, h12, h13⟩ := hmatches
  refine require_bind_eq_ok.mpr ⟨hhash, require_eq_ok.mpr ?_⟩
  rw [if_pos hsource]
  simp [h1, h2, h3, h4, h5, h6, h7, h8, h9, h10, h11, h12, h13]

end

/-- Metadata of an accepted record whose hash the tables accept validates to itself. -/
theorem validate_of_accepted (haccepted : record.Accepted H)
    (hhash : isSha256Ref record.metadata.manifestHash = true) :
    record.metadata.validate = .ok record.metadata := by
  obtain ⟨-, herrors, hrules⟩ := SourceObjectMetadata.validate_self.mp haccepted.draft
  obtain ⟨h1, h2, h3, h4, h5, h6, h7, h8, h9, h10, -, hrest⟩ :=
    SourceObjectMetadata.errors_eq_nil.mp herrors
  have hreference : isNamespacedRef record.metadata.manifestHash = true := by
    rw [haccepted.manifestHash] at hhash ⊢
    exact isNamespacedRef_of_isSha256Ref hhash
  exact SourceObjectMetadata.validate_self.mpr ⟨haccepted.normalized,
    SourceObjectMetadata.errors_eq_nil.mpr
      ⟨h1, h2, h3, h4, h5, h6, h7, h8, h9, h10, hreference, hrest⟩, hrules⟩

/-- **When `get` returns what was added**: the times of the record are in the form that comes
back, and its content is what its type and shape make of the stored bytes. -/
theorem get_add_iff (hnow : now.OnClock)
    (hdraft : record.metadata.unhashed.validate = .ok record.metadata.unhashed)
    (hcontent : record.validate = .ok record)
    (h : add H reads repository now record world = (.ok (), world')) :
    get H world' record.metadata.tenantId record.metadata.objectId record.metadata.versionId =
        .ok record ↔
      TimesReturn record.metadata ∧ ContentReturns record := by
  obtain ⟨retention, profile, manifest, manifestRow, metadataRow, hadded⟩ := add_eq_ok h
  have haccepted : record.Accepted H := ⟨hdraft, hcontent, hadded.writable⟩
  obtain ⟨hsendable, -, -, -, -, hhashes, -, -⟩ := hadded.accepts
  have hvalid := validate_of_accepted haccepted (hhashes _ (by simp))
  have hmatches := matchesSource_of_build haccepted hadded.built
  -- the rows that are found are those that were inserted
  have hmetadataFound : world'.metadata.find? (fun row => row.columns.versionKey =
      (record.metadata.tenantId, record.metadata.objectId, record.metadata.versionId)) =
      some metadataRow := by
    have hnone : world.metadata.find? (fun row => row.columns.versionKey =
        (record.metadata.tenantId, record.metadata.objectId, record.metadata.versionId)) =
        none := by
      refine List.find?_eq_none.mpr fun row hrow hkey => hadded.free (.inr ⟨row, hrow, .inl ?_⟩)
      exact of_decide_eq_true hkey
    rw [hadded.metadata, List.find?_append, hnone, Option.none_or]
    exact List.find?_cons_of_pos (decide_eq_true (fields_of_metadataRow hadded.metadataIn).1)
  have hmanifestFound : world'.manifests.find? (fun row =>
      (row.columns.tenantId, row.columns.manifestHash) =
        (record.metadata.tenantId, metadataRow.storageManifestHash)) = some manifestRow := by
    have hkey : (record.metadata.tenantId, metadataRow.storageManifestHash) =
        (manifest.tenantId, manifest.manifestHash) := by
      rw [(fields_of_metadataRow hadded.metadataIn).2, hmatches.tenantId]
    have hnone : world.manifests.find? (fun row =>
        (row.columns.tenantId, row.columns.manifestHash) =
          (manifest.tenantId, manifest.manifestHash)) = none := by
      refine List.find?_eq_none.mpr fun row hrow hsame => hadded.free (.inl ⟨row, hrow, .inl ?_⟩)
      exact of_decide_eq_true hsame
    rw [hkey, hadded.manifests, List.find?_append, hnone, Option.none_or]
    exact List.find?_cons_of_pos (decide_eq_true (fields_of_manifestRow hadded.manifestIn))
  have hsend : Sendable [record.metadata.tenantId, record.metadata.objectId,
      record.metadata.versionId] := by
    intro value hvalue
    refine hsendable value ?_
    simp only [List.mem_cons, List.not_mem_nil, or_false] at hvalue
    rcases hvalue with rfl | rfl | rfl <;> simp [columnTexts]
  obtain ⟨hstored, huntil⟩ := canonical_of_build hnow hadded.retained hadded.built
  have hmanifest := storageManifestFromRow_of_row hadded.manifestIn
    (validate_of_build hadded.built (hhashes _ (by simp))) hstored huntil
  have hbytes := contentGet_of_added haccepted hmatches hadded.place hadded.objects
  have hlast : requireStorageManifestMatchesRecord H manifest record = .ok () := by
    refine requireStorageManifestMatchesRecord_of_matches ?_ hmatches haccepted.manifestHash
    obtain ⟨draft, -, -, -, rfl⟩ := draft_of_build hadded.built
    exact (StorageObjectManifest.manifestHash_withManifestHash _).symm
  have hreturns : get H world' record.metadata.tenantId record.metadata.objectId
      record.metadata.versionId = .ok record ↔ metadataFromRow metadataRow = .ok record.metadata ∧
        recordFromContent record.metadata (sourceObjectContentBytes record) = .ok record := by
    unfold get
    rw [require_bind_eq_ok, and_iff_right hsend, hmetadataFound]
    constructor
    · intro hget
      obtain ⟨row, hrow, hget⟩ := Except.bind_eq_ok.mp hget
      obtain rfl : metadataRow = row := Except.ok.inj hrow
      obtain ⟨row, hrow, hget⟩ := Except.bind_eq_ok.mp hget
      rw [hmanifestFound] at hrow
      obtain rfl : manifestRow = row := Except.ok.inj hrow
      obtain ⟨metadata, hmetadata, hget⟩ := Except.bind_eq_ok.mp hget
      obtain ⟨restored, hrestored, hget⟩ := Except.bind_eq_ok.mp hget
      obtain rfl : manifest = restored := Except.ok.inj (hmanifest.symm.trans hrestored)
      obtain ⟨content, hfound, hget⟩ := Except.bind_eq_ok.mp hget
      obtain rfl : sourceObjectContentBytes record = content :=
        Except.ok.inj (hbytes.symm.trans hfound)
      obtain ⟨found, hrecord, hget⟩ := Except.bind_eq_ok.mp hget
      obtain ⟨_, -, hget⟩ := Except.bind_eq_ok.mp hget
      obtain ⟨_, -, hget⟩ := Except.bind_eq_ok.mp hget
      obtain rfl : found = record := Except.ok.inj hget
      rw [recordFromContent_metadata hrecord]
      exact ⟨hmetadata, hrecord⟩
    · rintro ⟨hmetadata, hrecord⟩
      refine Except.bind_eq_ok.mpr ⟨metadataRow, rfl, Except.bind_eq_ok.mpr ⟨manifestRow, ?_, ?_⟩⟩
      · rw [hmanifestFound]
        rfl
      refine Except.bind_eq_ok.mpr ⟨_, hmetadata, Except.bind_eq_ok.mpr ⟨_, hmanifest, ?_⟩⟩
      refine Except.bind_eq_ok.mpr ⟨_, hbytes, Except.bind_eq_ok.mpr ⟨_, hrecord, ?_⟩⟩
      exact Except.bind_eq_ok.mpr ⟨_, hadded.writable, Except.bind_eq_ok.mpr ⟨_, hlast, rfl⟩⟩
  rw [hreturns, metadataFromRow_eq_iff hadded.metadataIn hvalid, recordFromContent_eq_iff hcontent]

/-- **The round trip** of a record that was added. -/
theorem source_object_round_trip_iff (hnow : now.OnClock)
    (hdraft : record.metadata.unhashed.validate = .ok record.metadata.unhashed)
    (hcontent : record.validate = .ok record)
    (h : add H reads repository now record world = (.ok (), world')) :
    (∃ found, get H world' record.metadata.tenantId record.metadata.objectId
        record.metadata.versionId = .ok found ∧
      found.metadata = record.metadata ∧ found.text = record.text ∧
      found.contentBytes = record.contentBytes ∧
      found.metadata.manifestHash = buildSourceObjectManifestHash H found.metadata ∧
      computeContentHash H (sourceObjectContentBytes found) = found.metadata.contentHash) ↔
    TimesReturn record.metadata ∧ ContentReturns record := by
  rw [← get_add_iff hnow hdraft hcontent h]
  constructor
  · rintro ⟨⟨metadata, text, contentBytes⟩, hget, rfl, rfl, rfl, -, -⟩
    exact hget
  · intro hget
    obtain ⟨_, hwritable, -⟩ := lift_bind_eq_ok.mp h
    have haccepted : record.Accepted H := ⟨hdraft, hcontent, hwritable⟩
    exact ⟨record, hget, rfl, rfl, rfl, haccepted.manifestHash, haccepted.contentHash.2⟩

/-- The inserts do not look at the content store. -/
theorem insertRows_fst_objects {retention : RetentionManifest} {manifest : StorageObjectManifest}
    (objects : Dict ContentKey Bytes) :
    (insertRows H reads record retention manifest { world with objects }).1 =
      (insertRows H reads record retention manifest world).1 := by
  unfold insertRows
  cases manifestRow? manifest with
  | none => rfl
  | some manifestRow =>
    cases metadataRow? H record.metadata retention manifest with
    | none => rfl
    | some metadataRow =>
      dsimp only
      split
      · rfl
      · split
        · rfl
        · rfl

/-- An `add` whose steps all go through. -/
theorem add_returns {retention : RetentionManifest} {profile : BucketProfile}
    {stored : StoredSourceObjectContent} {manifest : StorageObjectManifest}
    (hwritable : SourceObjectWriteGuard.validateBeforeWrite H record = .ok ())
    (hretained : buildRetentionManifest H record repository.retentionPolicy = .ok retention)
    (hbucket : repository.bucket retention.storageBucketId = .ok profile)
    (hput : (putContent H repository now record profile.bucketId world).1 = .ok stored)
    (hbuilt : buildStorageObjectManifest H record retention profile stored.objectVersionId
      stored.storedAtUtc (some stored.objectKey) stored.storageProvider = .ok manifest)
    (hmatches : requireStoredContentMatchesManifest stored manifest = .ok ())
    (hinserted : (insertRows H reads record retention manifest world).1 = .ok ()) :
    ∃ world', add H reads repository now record world = (.ok (), world') := by
  cases hresult : putContent H repository now record profile.bucketId world with
  | mk result between =>
    rw [hresult] at hput
    have hresult' : putContent H repository now record profile.bucketId world =
        (.ok stored, between) := hresult.trans (Prod.ext hput rfl)
    obtain ⟨-, hbetween⟩ := putContent_eq_ok hresult'
    -- the tables do not look at the content store
    have hreturned : insertRows H reads record retention manifest between =
        (.ok (), (insertRows H reads record retention manifest between).2) := by
      refine Prod.ext ?_ rfl
      rw [hbetween, insertRows_fst_objects]
      exact hinserted
    refine ⟨(insertRows H reads record retention manifest between).2, ?_⟩
    refine lift_bind_eq_ok.mpr ⟨(), hwritable, lift_bind_eq_ok.mpr ⟨retention, hretained, ?_⟩⟩
    refine lift_bind_eq_ok.mpr ⟨profile, hbucket, ?_⟩
    refine Eff.bind_eq_ok.mpr ⟨stored, between, hresult', ?_⟩
    exact lift_bind_eq_ok.mpr ⟨manifest, hbuilt, lift_bind_eq_ok.mpr ⟨(), hmatches, hreturned⟩⟩

/-! ## A creation time with an offset -/

def sampleRepository : PgSourceObjectRepository where
  retentionPolicy := sampleBucketPolicySet "bucket"
  bucketProfiles := [sampleBucket "bucket"]

/-- A text document that was created at this time. -/
def sampleSource (createdAtUtc : String) : SourceObjectRecord where
  metadata := { (sampleReceipt createdAtUtc).metadata with createdAtUtc := createdAtUtc }
  text := sampleText

/-- The samples' moment. -/
def sampleNow : DateTime := LegalHoldService.sampleCreated

/-- The two ways in which the samples write the time of their creation. -/
def sampleTimes : List String := ["2026-01-05T09:00:00Z", "2026-01-05T09:00:00+00:00"]

theorem forall_sampleTimes {P : String → Prop} (hcanonical : P "2026-01-05T09:00:00Z")
    (hoffset : P "2026-01-05T09:00:00+00:00") : ∀ createdAtUtc ∈ sampleTimes, P createdAtUtc := by
  intro createdAtUtc h
  rcases List.mem_pair.mp h with rfl | rfl
  · exact hcanonical
  · exact hoffset

def sampleRetained : RetentionManifest :=
  draftRetentionManifest zeroHashes (sampleSource "2026-01-05T09:00:00Z").metadata
    (sampleBucketPolicy "bucket") LegalHoldService.sampleCreated
    (some LegalHoldService.sampleEnded)

/-- Where a sample's bytes lie. -/
def sampleContent : StoredSourceObjectContent :=
  InMemorySourceObjectContentStore.storedContent zeroHashes "in-memory" sampleNow
    (sampleSource "2026-01-05T09:00:00Z") "bucket" "acme/document/doc-1/v1/content"

/-- The manifest of a sample, before it is hashed. -/
def sampleManifest : StorageObjectManifest where
  tenantId := "acme"
  objectId := "doc-1"
  objectType := .document
  sourceVersionId := "v1"
  bucketId := "bucket"
  objectKey := "acme/document/doc-1/v1/content"
  objectVersionId := "mem:0000000000000000000000000000000000000000000000000000000000000000"
  storageProvider := "in-memory"
  storedAtUtc := "2026-01-05T09:00:00Z"
  classification := .internal
  lifecycleState := .working
  retentionPolicyId := "office"
  legalHoldState := .none
  kmsKeyRef := "kms://acme/internal/v1"
  sourceManifestHash := zeroHash
  contentHash := zeroHash
  contentByteLength := 32
  retentionManifestHash := zeroHash
  retentionPolicySnapshotHash := zeroHash
  objectLockMode := .none
  wormRequired := false
  auditChainRef := "audit:1"
  manifestHash := zeroHash

/-- The steps of the samples' way into the tables. -/
structure SampleSteps (source : SourceObjectRecord) : Prop where
  draft    : source.metadata.unhashed.validate = .ok source.metadata.unhashed
  content  : source.validate = .ok source
  writable : SourceObjectWriteGuard.validateBeforeWrite zeroHashes source = .ok ()
  retained : buildRetentionManifest zeroHashes source sampleRepository.retentionPolicy =
               .ok sampleRetained
  put      : (putContent zeroHashes sampleRepository sampleNow source "bucket" {}).1 =
               .ok sampleContent
  agrees   : requireSourceMatchesRetention source sampleRetained = .ok () ∧
               requireKmsReferenceMatchesSource source = .ok ()
  verified : (requireContentVerified zeroHashes .storageManifestError
               (sourceObjectContentBytes source) source.metadata.contentHash
               "storage_manifest_build").isOk = true
  manifest : draftStorageObjectManifest zeroHashes source sampleRetained (sampleBucket "bucket")
               sampleContent.objectVersionId sampleContent.storedAtUtc
               (some sampleContent.objectKey) sampleContent.storageProvider = sampleManifest
  inserted : (insertRows zeroHashes (fun _ => true) source sampleRetained
               (sampleManifest.withManifestHash zeroHashes) {}).1 = .ok ()

/-- The two samples take the same way. -/
theorem samples_checked : ∀ createdAtUtc ∈ sampleTimes,
    ((sampleSource createdAtUtc).metadata.unhashed.validate =
        .ok (sampleSource createdAtUtc).metadata.unhashed ∧
      (sampleSource createdAtUtc).validate = .ok (sampleSource createdAtUtc) ∧
      SourceObjectWriteGuard.validateBeforeWrite zeroHashes (sampleSource createdAtUtc) =
        .ok ()) ∧
    (buildRetentionManifest zeroHashes (sampleSource createdAtUtc)
        sampleRepository.retentionPolicy = .ok sampleRetained ∧
      (putContent zeroHashes sampleRepository sampleNow (sampleSource createdAtUtc) "bucket"
        {}).1 = .ok sampleContent) ∧
    ((requireSourceMatchesRetention (sampleSource createdAtUtc) sampleRetained = .ok () ∧
        requireKmsReferenceMatchesSource (sampleSource createdAtUtc) = .ok ()) ∧
      (requireContentVerified zeroHashes .storageManifestError
        (sourceObjectContentBytes (sampleSource createdAtUtc))
        (sampleSource createdAtUtc).metadata.contentHash "storage_manifest_build").isOk = true) ∧
    draftStorageObjectManifest zeroHashes (sampleSource createdAtUtc) sampleRetained
      (sampleBucket "bucket") sampleContent.objectVersionId sampleContent.storedAtUtc
      (some sampleContent.objectKey) sampleContent.storageProvider = sampleManifest ∧
    (insertRows zeroHashes (fun _ => true) (sampleSource createdAtUtc) sampleRetained
      (sampleManifest.withManifestHash zeroHashes) {}).1 = .ok () := by
  decide +kernel

theorem sampleSource_steps : ∀ createdAtUtc ∈ sampleTimes,
    SampleSteps (sampleSource createdAtUtc) := by
  intro createdAtUtc h
  obtain ⟨⟨hdraft, hcontent, hwritable⟩, ⟨hretained, hput⟩, ⟨hagrees, hverified⟩, hmanifest,
    hinserted⟩ := samples_checked createdAtUtc h
  exact ⟨hdraft, hcontent, hwritable, hretained, hput, hagrees, hverified, hmanifest, hinserted⟩

/-- What the samples have in common: their manifest, their bucket, and which of their times
return. -/
theorem sampleManifest_checked :
    (sampleManifest.normalized = sampleManifest ∧ sampleManifest.errors = [] ∧
      sampleManifest.requireConsistentObjectLock = .ok ()) ∧
    (sampleRepository.bucket sampleRetained.storageBucketId = .ok (sampleBucket "bucket") ∧
      requireBucketMatchesRetention (sampleBucket "bucket") sampleRetained = .ok () ∧
      requireStoredContentMatchesManifest sampleContent
        (sampleManifest.withManifestHash zeroHashes) = .ok ()) ∧
    (Canonical (sampleSource "2026-01-05T09:00:00Z").metadata.createdAtUtc ∧
      Canonical (sampleSource "2026-01-05T09:00:00Z").metadata.updatedAtUtc ∧
      ¬ Canonical (sampleSource "2026-01-05T09:00:00+00:00").metadata.createdAtUtc) := by
  decide +kernel

theorem sampleManifest_validate : sampleManifest.validate = .ok sampleManifest := by
  obtain ⟨hnormalized, herrors, hlock⟩ := sampleManifest_checked.1
  refine Except.bind_eq_ok.mpr ⟨_, accept_eq_ok.mpr ⟨?_, rfl⟩, ?_⟩
  · rw [hnormalized, herrors]
  · rw [hnormalized]
    exact Except.unit_bind_eq_ok.mpr ⟨hlock, rfl⟩

theorem sampleSource_built {source : SourceObjectRecord} (h : SampleSteps source) :
    buildStorageObjectManifest zeroHashes source sampleRetained (sampleBucket "bucket")
      sampleContent.objectVersionId sampleContent.storedAtUtc (some sampleContent.objectKey)
      sampleContent.storageProvider = .ok (sampleManifest.withManifestHash zeroHashes) := by
  have hbucket := sampleManifest_checked.2.1.2.1
  have hverified := h.verified
  unfold buildStorageObjectManifest
  rw [h.agrees.1, h.agrees.2, hbucket, h.manifest, sampleManifest_validate]
  cases hcontent : requireContentVerified zeroHashes .storageManifestError
      (sourceObjectContentBytes source) source.metadata.contentHash "storage_manifest_build" with
  | error exn =>
    rw [hcontent] at hverified
    cases hverified
  | ok result => rfl

theorem sampleNow_onClock : sampleNow.OnClock :=
  ⟨by decide, by decide, by decide, by decide⟩

/-- The add of a sample returns. -/
theorem sampleSource_added {source : SourceObjectRecord} (h : SampleSteps source) :
    ∃ world', add zeroHashes (fun _ => true) sampleRepository sampleNow source {} =
      (.ok (), world') := by
  obtain ⟨hbucket, -, hmatches⟩ := sampleManifest_checked.2.1
  exact add_returns h.writable h.retained hbucket h.put (sampleSource_built h) hmatches h.inserted

/-- Added with its creation time written with an offset, a record does not come back. -/
theorem offset_source_does_not_return : ∃ world',
    add zeroHashes (fun _ => true) sampleRepository sampleNow
        (sampleSource "2026-01-05T09:00:00+00:00") {} = (.ok (), world') ∧
      get zeroHashes world' "acme" "doc-1" "v1" ≠
        .ok (sampleSource "2026-01-05T09:00:00+00:00") := by
  have hmem : "2026-01-05T09:00:00+00:00" ∈ sampleTimes := by simp [sampleTimes]
  have hsteps := sampleSource_steps _ hmem
  obtain ⟨world', hadded⟩ := sampleSource_added hsteps
  refine ⟨world', hadded, fun hget => ?_⟩
  obtain ⟨⟨htime, -⟩, -⟩ := (get_add_iff sampleNow_onClock hsteps.draft hsteps.content
    hadded).mp hget
  exact sampleManifest_checked.2.2.2.2 htime

/-- With its times in canonical form it does. -/
theorem sample_source_round_trip : ∃ world' found,
    add zeroHashes (fun _ => true) sampleRepository sampleNow
        (sampleSource "2026-01-05T09:00:00Z") {} = (.ok (), world') ∧
      get zeroHashes world' "acme" "doc-1" "v1" = .ok found ∧
      found.text = (sampleSource "2026-01-05T09:00:00Z").text := by
  have hmem : "2026-01-05T09:00:00Z" ∈ sampleTimes := by simp [sampleTimes]
  have hsteps := sampleSource_steps _ hmem
  obtain ⟨world', hadded⟩ := sampleSource_added hsteps
  obtain ⟨hcreated, hupdated, -⟩ := sampleManifest_checked.2.2
  have htimes : TimesReturn (sampleSource "2026-01-05T09:00:00Z").metadata := ⟨hcreated, hupdated⟩
  have hreturns : ContentReturns (sampleSource "2026-01-05T09:00:00Z") := by
    show isTextMime "text/plain" = true
    decide
  obtain ⟨found, hget, -, htext, -⟩ := (source_object_round_trip_iff sampleNow_onClock
    hsteps.draft hsteps.content hadded).mpr ⟨htimes, hreturns⟩
  exact ⟨world', found, hadded, hget, htext⟩

end PgSourceObjectRepository

end Collabio
