import Mathlib.Tactic
import Collabio.Library.DatetimeSpec
import Collabio.Storage.LegalHoldRuns
import Collabio.Storage.StorageManifest

/-!
# The storage manifest check

* `verifyStorageObjectRestore_isOk_iff` — what a restore verification compares;
* `verify_of_build`   — what the builder makes passes the verification;
* `agrees_of_verify`  — whatever passes agrees with what the builder makes, apart
  from the fields that nothing compares;
* `storage_manifest_check` — both together.
-/

namespace Collabio

open Datetime

variable {H : HashFunctions}

/-! ## Content hashes -/

theorem verifyContentHash_isOk_iff {content : Bytes} {expectedHash context : String}
    (hcontext : Text.strip context ≠ "") :
    (∃ result, verifyContentHash H content expectedHash context = .ok result) ↔
      (∃ digest, parseContentHash expectedHash = .ok digest) ∧
        computeContentHash H content = Text.strip expectedHash := by
  unfold verifyContentHash
  constructor
  · rintro ⟨result, h⟩
    obtain ⟨-, h⟩ := require_bind_eq_ok.mp h
    obtain ⟨digest, hdigest, h⟩ := Except.bind_eq_ok.mp h
    obtain ⟨hsame, -⟩ := require_bind_eq_ok.mp h
    exact ⟨⟨digest, hdigest⟩, hsame⟩
  · rintro ⟨⟨digest, hdigest⟩, hsame⟩
    exact ⟨_, require_bind_eq_ok.mpr ⟨hcontext, Except.bind_eq_ok.mpr
      ⟨digest, hdigest, require_bind_eq_ok.mpr ⟨hsame, rfl⟩⟩⟩⟩

theorem requireContentVerified_eq_ok {exn : String → Exn} {content : Bytes}
    {expectedHash context : String} {result : ContentHashVerificationResult} :
    requireContentVerified H exn content expectedHash context = .ok result ↔
      verifyContentHash H content expectedHash context = .ok result := by
  unfold requireContentVerified
  cases verifyContentHash H content expectedHash context with
  | ok found => rfl
  | error raised => cases raised <;> simp

/-- The contexts in which contents are verified are not blank. -/
theorem contexts_notBlank : ∀ context ∈ ["source_object_write", "restore",
    "storage_manifest_build", "source_object_content_store_put",
    "source_object_content_store_get"], Text.strip context ≠ "" := by
  decide +kernel

/-- What the write guard has compared: the content and the hash its metadata names. -/
theorem SourceObjectWriteGuard.contentHash_of_writable {record : SourceObjectRecord}
    (h : SourceObjectWriteGuard.validateBeforeWrite H record = .ok ()) :
    (∃ digest, parseContentHash record.metadata.contentHash = .ok digest) ∧
      computeContentHash H (sourceObjectContentBytes record) =
        Text.strip record.metadata.contentHash := by
  obtain ⟨_, -, hguard⟩ := Except.bind_eq_ok.mp h
  obtain ⟨_, -, hguard⟩ := Except.bind_eq_ok.mp hguard
  obtain ⟨_, hcontent, -⟩ := Except.bind_eq_ok.mp hguard
  have hcontext : Text.strip "source_object_write" ≠ "" := contexts_notBlank _ (by simp)
  refine (verifyContentHash_isOk_iff hcontext).mp ?_
  unfold SourceObjectWriteGuard.requireContentHashMatch at hcontent
  cases hresult : verifyContentHash H (sourceObjectContentBytes record)
    record.metadata.contentHash "source_object_write" with
  | ok result => exact ⟨result, rfl⟩
  | error raised =>
    rw [hresult] at hcontent
    cases raised <;> cases hcontent

/-! ## Accepted records -/

namespace SourceObjectRecord.Accepted

variable {record : SourceObjectRecord}

theorem manifestHash (h : record.Accepted H) :
    record.metadata.manifestHash = buildSourceObjectManifestHash H record.metadata := by
  obtain ⟨_, -, hguard⟩ := Except.bind_eq_ok.mp h.writable
  obtain ⟨_, -, hguard⟩ := Except.bind_eq_ok.mp hguard
  obtain ⟨_, -, hguard⟩ := Except.bind_eq_ok.mp hguard
  exact require_eq_ok.mp hguard

/-- Every text of an accepted record is stripped. -/
theorem normalized (h : record.Accepted H) : record.metadata.normalized = record.metadata := by
  have hdraft := (SourceObjectMetadata.validate_self.mp h.draft).1
  have hhash : Text.strip record.metadata.manifestHash = record.metadata.manifestHash := by
    rw [h.manifestHash]
    exact strip_computeContentHash _
  obtain ⟨e1, e2, e3, e4, e5, e6, e7, e8, e9, e10, e11, e12, e13, -, e15, e16, e17, e18, e19, e20,
    e21, e22, e23, e24, e25, e26⟩ := SourceObjectMetadata.ext_iff.mp hdraft
  exact SourceObjectMetadata.ext e1 e2 e3 e4 e5 e6 e7 e8 e9 e10 e11 e12 e13 hhash e15 e16 e17 e18
    e19 e20 e21 e22 e23 e24 e25 e26

/-- The content of an accepted record has the hash its metadata names, in full form. -/
theorem contentHash (h : record.Accepted H) :
    (∃ digest, parseContentHash record.metadata.contentHash = .ok digest) ∧
      computeContentHash H (sourceObjectContentBytes record) = record.metadata.contentHash := by
  obtain ⟨hdigest, hsame⟩ := SourceObjectWriteGuard.contentHash_of_writable h.writable
  refine ⟨hdigest, ?_⟩
  rw [hsame]
  exact congrArg SourceObjectMetadata.contentHash h.normalized

theorem contentByteLength (h : record.Accepted H) :
    record.metadata.contentByteLength = (sourceObjectContentBytes record).length :=
  (SourceObjectRecord.validate_eq_ok.mp h.content).2.1

end SourceObjectRecord.Accepted

/-! ## What a verification compares -/

/-- The storage manifest says of its record what the record's metadata says. -/
structure StorageObjectManifest.MatchesSource (manifest : StorageObjectManifest)
    (metadata : SourceObjectMetadata) : Prop where
  tenantId           : manifest.tenantId = metadata.tenantId
  objectId           : manifest.objectId = metadata.objectId
  objectType         : manifest.objectType = metadata.objectType
  sourceVersionId    : manifest.sourceVersionId = metadata.versionId
  classification     : manifest.classification = metadata.classification
  lifecycleState     : manifest.lifecycleState = metadata.lifecycleState
  retentionPolicyId  : manifest.retentionPolicyId = metadata.retentionPolicyId
  legalHoldState     : manifest.legalHoldState = metadata.legalHoldState
  kmsKeyRef          : manifest.kmsKeyRef = metadata.kmsKeyRef
  sourceManifestHash : manifest.sourceManifestHash = metadata.manifestHash
  contentHash        : manifest.contentHash = metadata.contentHash
  contentByteLength  : manifest.contentByteLength = metadata.contentByteLength
  auditChainRef      : manifest.auditChainRef = metadata.auditChainRef

/-- The storage manifest says of the retention what the retention manifest says. -/
structure StorageObjectManifest.MatchesRetention (H : HashFunctions)
    (manifest : StorageObjectManifest) (retention : RetentionManifest) : Prop where
  manifestHash : manifest.retentionManifestHash = buildRetentionManifestHash H retention
  bucketId     : manifest.bucketId = retention.storageBucketId
  snapshotHash : manifest.retentionPolicySnapshotHash = retention.policySnapshotHash
  lockMode     : manifest.objectLockMode = retention.objectLockMode
  retainUntil  : manifest.objectLockRetainUntilUtc =
                   if retention.objectLockMode ≠ .none then retention.retainUntilUtc else none
  wormRequired : manifest.wormRequired = retention.wormRequired
  legalHold    : retention.legalHoldState = .active → retention.objectLockMode ≠ .none →
                   manifest.objectLockLegalHold = true

theorem requireManifestMatchesSource_eq_ok {manifest : StorageObjectManifest}
    {record : SourceObjectRecord} :
    requireManifestMatchesSource H manifest record = .ok () ↔
      record.metadata.manifestHash = buildSourceObjectManifestHash H record.metadata ∧
        manifest.MatchesSource record.metadata := by
  unfold requireManifestMatchesSource
  rw [require_bind_eq_ok, requireAgreement_eq_ok]
  simp only [List.all_cons, List.all_nil, Bool.and_true, Bool.and_eq_true, decide_eq_true_eq]
  constructor
  · rintro ⟨hhash, h1, h2, h3, h4, h5, h6, h7, h8, h9, h10, h11, h12, h13⟩
    exact ⟨hhash, ⟨h1, h2, h3, h4, h5, h6, h7, h8, h9, h10, h11, h12, h13⟩⟩
  · rintro ⟨hhash, ⟨h1, h2, h3, h4, h5, h6, h7, h8, h9, h10, h11, h12, h13⟩⟩
    exact ⟨hhash, h1, h2, h3, h4, h5, h6, h7, h8, h9, h10, h11, h12, h13⟩

theorem requireManifestMatchesRetention_eq_ok {manifest : StorageObjectManifest}
    {retention : RetentionManifest} :
    requireManifestMatchesRetention H manifest retention = .ok () ↔
      manifest.MatchesRetention H retention := by
  unfold requireManifestMatchesRetention
  rw [require_bind_eq_ok, Except.unit_bind_eq_ok, requireAgreement_eq_ok, require_eq_ok]
  simp only [List.all_cons, List.all_nil, Bool.and_true, Bool.and_eq_true, decide_eq_true_eq]
  constructor
  · rintro ⟨hhash, ⟨hbucket, hsnapshot, hlock, huntil, hworm⟩, hheld⟩
    refine ⟨hhash, hbucket, hsnapshot, hlock, huntil, hworm, fun hactive hmode => ?_⟩
    by_contra hoff
    exact hheld ⟨hactive, by rw [hlock]; exact hmode, hoff⟩
  · rintro ⟨hhash, hbucket, hsnapshot, hlock, huntil, hworm, hheld⟩
    refine ⟨hhash, ⟨hbucket, hsnapshot, hlock, huntil, hworm⟩, ?_⟩
    rintro ⟨hactive, hmode, hoff⟩
    exact hoff (hheld hactive (by rw [← hlock]; exact hmode))

/-- **What a restore verification compares.** -/
theorem verifyStorageObjectRestore_isOk_iff {manifest : StorageObjectManifest}
    {record : SourceObjectRecord} {retention : RetentionManifest} {content : Bytes} :
    (∃ result, verifyStorageObjectRestore H manifest record retention content = .ok result) ↔
      manifest.manifestHash = buildStorageObjectManifestHash H manifest ∧
        record.metadata.manifestHash = buildSourceObjectManifestHash H record.metadata ∧
        manifest.MatchesSource record.metadata ∧ manifest.MatchesRetention H retention ∧
        (∃ digest, parseContentHash manifest.contentHash = .ok digest) ∧
        computeContentHash H content = Text.strip manifest.contentHash ∧
        manifest.contentByteLength = content.length := by
  have hrestore : Text.strip "restore" ≠ "" := contexts_notBlank _ (by simp)
  unfold verifyStorageObjectRestore requireStorageManifestHashMatch
  constructor
  · rintro ⟨result, h⟩
    obtain ⟨hhash, h⟩ := require_bind_eq_ok.mp h
    obtain ⟨hsource, h⟩ := Except.unit_bind_eq_ok.mp h
    obtain ⟨hretention, h⟩ := Except.unit_bind_eq_ok.mp h
    obtain ⟨verified, hverified, h⟩ := Except.bind_eq_ok.mp h
    obtain ⟨hlength, -⟩ := require_bind_eq_ok.mp h
    obtain ⟨hsourceHash, hmatches⟩ := requireManifestMatchesSource_eq_ok.mp hsource
    obtain ⟨hdigest, hcontent⟩ := (verifyContentHash_isOk_iff hrestore).mp
      ⟨verified, requireContentVerified_eq_ok.mp hverified⟩
    exact ⟨hhash, hsourceHash, hmatches, requireManifestMatchesRetention_eq_ok.mp hretention,
      hdigest, hcontent, hlength⟩
  · rintro ⟨hhash, hsourceHash, hmatches, hretention, hdigest, hcontent, hlength⟩
    obtain ⟨verified, hverified⟩ := (verifyContentHash_isOk_iff hrestore).mpr ⟨hdigest, hcontent⟩
    -- the steps in turn; all but the content check return nothing
    simp only [Except.bind_eq_ok]
    exact ⟨_, (), require_eq_ok.mpr hhash, (), requireManifestMatchesSource_eq_ok.mpr ⟨hsourceHash, hmatches⟩,
      (), requireManifestMatchesRetention_eq_ok.mpr hretention, verified,
      requireContentVerified_eq_ok.mpr hverified, (), require_eq_ok.mpr hlength, rfl⟩

/-- What a verification hands on of the manifest it was given. -/
theorem fields_of_verifyStorageObjectRestore {manifest : StorageObjectManifest}
    {record : SourceObjectRecord} {retention : RetentionManifest} {content : Bytes}
    {result : StorageRestoreVerificationResult}
    (h : verifyStorageObjectRestore H manifest record retention content = .ok result) :
    result.contentHash = manifest.contentHash ∧ result.checks = storageRestoreChecks := by
  obtain ⟨-, h⟩ := Except.unit_bind_eq_ok.mp h
  obtain ⟨-, h⟩ := Except.unit_bind_eq_ok.mp h
  obtain ⟨-, h⟩ := Except.unit_bind_eq_ok.mp h
  obtain ⟨_, -, h⟩ := Except.bind_eq_ok.mp h
  obtain ⟨-, h⟩ := require_bind_eq_ok.mp h
  cases h
  exact ⟨rfl, rfl⟩

/-! ## Building -/

theorem isSpace_of_isAsciiDigit {c : Char} (h : Text.isAsciiDigit c = true) :
    Text.isSpace c = false := by
  have hbounds : 48 ≤ c.toNat ∧ c.toNat ≤ 57 := by
    simpa [Text.isAsciiDigit, Char.le_def, UInt32.le_iff_toNat_le] using h
  simp only [Text.isSpace, Bool.or_eq_false_iff, Bool.and_eq_false_iff, decide_eq_false_iff_not,
    beq_eq_false_iff_ne]
  omega

/-- A timestamp as the retention manifest writes it has nothing to strip. -/
@[simp] theorem strip_toUtcIso (t : DateTime) : Text.strip (toUtcIso t) = toUtcIso t := by
  refine Text.strip_eq_self_of_forall fun c hc => ?_
  have hdigits : ∀ width n, ∀ d ∈ padded width n, Text.isSpace d = false :=
    fun width n d hd => isSpace_of_isAsciiDigit (digit_of_mem_padded d hd)
  simp only [toUtcIso, isoformatSeconds, String.toList_ofList, List.mem_append, List.mem_cons,
    List.not_mem_nil, or_false] at hc
  aesop

/-- What the builder found and what it made. -/
theorem buildStorageObjectManifest_eq_ok {record : SourceObjectRecord}
    {retention : RetentionManifest} {profile : BucketProfile}
    {objectVersionId storedAtUtc storageProvider : String} {objectKey : Option String}
    {built : StorageObjectManifest}
    (h : buildStorageObjectManifest H record retention profile objectVersionId storedAtUtc
      objectKey storageProvider = .ok built) :
    requireBucketMatchesRetention profile retention = .ok () ∧
      built = (draftStorageObjectManifest H record retention profile objectVersionId storedAtUtc
        objectKey storageProvider).normalized.withManifestHash H := by
  obtain ⟨-, h⟩ := Except.unit_bind_eq_ok.mp h
  obtain ⟨-, h⟩ := Except.unit_bind_eq_ok.mp h
  obtain ⟨hbucket, h⟩ := Except.unit_bind_eq_ok.mp h
  obtain ⟨_, -, h⟩ := Except.bind_eq_ok.mp h
  obtain ⟨draft, hdraft, h⟩ := Except.bind_eq_ok.mp h
  obtain ⟨accepted, haccept, hdraft⟩ := Except.bind_eq_ok.mp hdraft
  obtain ⟨-, hdraft⟩ := Except.unit_bind_eq_ok.mp hdraft
  cases hdraft
  cases h
  rw [(accept_eq_ok.mp haccept).2]
  exact ⟨hbucket, rfl⟩

/-- A manifest and the manifest the builder made say the same, apart from where
and when the object was stored, the schema version and the hash over all of it. -/
structure StorageObjectManifest.AgreesWith (manifest built : StorageObjectManifest)
    (retention : RetentionManifest) : Prop where
  fields    : manifest =
    { built with
      schemaVersion := manifest.schemaVersion
      objectKey := manifest.objectKey
      objectVersionId := manifest.objectVersionId
      storageProvider := manifest.storageProvider
      storedAtUtc := manifest.storedAtUtc
      objectLockLegalHold := manifest.objectLockLegalHold
      manifestHash := manifest.manifestHash }
  legalHold : retention.legalHoldState = .active → retention.objectLockMode ≠ .none →
                manifest.objectLockLegalHold = built.objectLockLegalHold

section

variable {record : SourceObjectRecord} {policySet : RetentionManifestPolicy}
variable {retention : RetentionManifest} {profile : BucketProfile}
variable {objectVersionId storedAtUtc storageProvider : String} {objectKey : Option String}
variable {built : StorageObjectManifest}

theorem matchesSource_of_build (hrecord : record.Accepted H)
    (hbuilt : buildStorageObjectManifest H record retention profile objectVersionId storedAtUtc
      objectKey storageProvider = .ok built) : built.MatchesSource record.metadata := by
  obtain ⟨-, rfl⟩ := buildStorageObjectManifest_eq_ok hbuilt
  -- the draft takes the fields from the metadata, where nothing is left to strip
  have hself := SourceObjectMetadata.ext_iff.mp hrecord.normalized
  simp only [SourceObjectMetadata.normalized] at hself
  obtain ⟨htenant, hobject, -, hversion, -, -, -, -, -, -, hpolicy, -, hkey, hhash, hchain, -, -, -,
    -, -, hcontent, -⟩ := hself
  exact ⟨htenant, hobject, rfl, hversion, rfl, rfl, hpolicy, rfl, hkey, hhash, hcontent, rfl,
    hchain⟩

theorem matchesRetention_of_build (hretention : buildRetentionManifest H record policySet =
      .ok retention) (hbucket : Text.strip profile.bucketId = profile.bucketId)
    (hbuilt : buildStorageObjectManifest H record retention profile objectVersionId storedAtUtc
      objectKey storageProvider = .ok built) : built.MatchesRetention H retention := by
  obtain ⟨hprofile, rfl⟩ := buildStorageObjectManifest_eq_ok hbuilt
  obtain ⟨hsame, hprofile⟩ := require_bind_eq_ok.mp hprofile
  obtain ⟨-, hprofile⟩ := require_bind_eq_ok.mp hprofile
  obtain ⟨-, hprofile⟩ := require_bind_eq_ok.mp hprofile
  obtain ⟨-, hprofile⟩ := require_bind_eq_ok.mp hprofile
  obtain ⟨-, hprofile⟩ := require_bind_eq_ok.mp hprofile
  have hsupported := require_eq_ok.mp hprofile
  obtain ⟨policy, created, until?, -, -, -, hdraft⟩ := buildRetentionManifest_eq_ok H hretention
  -- both the snapshot hash and the end of retention are computed texts
  have hsnapshot : Text.strip retention.policySnapshotHash = retention.policySnapshotHash := by
    rw [hdraft]
    exact strip_computeContentHash _
  have huntil : retention.retainUntilUtc.map Text.strip = retention.retainUntilUtc := by
    rw [hdraft]
    cases until? with
    | none => rfl
    | some t => exact congrArg some (strip_toUtcIso t)
  refine ⟨strip_computeContentHash _, hbucket.trans hsame, hsnapshot, rfl, ?_, rfl, ?_⟩
  · change (if retention.objectLockMode ≠ .none then retention.retainUntilUtc else none).map
      Text.strip = _
    rw [apply_ite (Option.map Text.strip), huntil]
    rfl
  · intro hactive hmode
    have hprofile : profile.legalHoldSupported = true := by
      by_contra hoff
      exact hsupported ⟨hactive, hmode, hoff⟩
    change (decide (retention.legalHoldState = .active) && profile.legalHoldSupported) = true
    rw [hprofile, hactive]
    rfl

/-- What the builder makes passes the verification, with the record's own content. -/
theorem verify_of_build (hrecord : record.Accepted H)
    (hretention : buildRetentionManifest H record policySet = .ok retention)
    (hbucket : Text.strip profile.bucketId = profile.bucketId)
    (hbuilt : buildStorageObjectManifest H record retention profile objectVersionId storedAtUtc
      objectKey storageProvider = .ok built) :
    ∃ result, verifyStorageObjectRestore H built record retention
      (sourceObjectContentBytes record) = .ok result := by
  have hsource := matchesSource_of_build hrecord hbuilt
  obtain ⟨hdigest, hcontent⟩ := hrecord.contentHash
  have hstrip : Text.strip record.metadata.contentHash = record.metadata.contentHash :=
    congrArg SourceObjectMetadata.contentHash hrecord.normalized
  have hhash : built.manifestHash = buildStorageObjectManifestHash H built := by
    obtain ⟨-, rfl⟩ := buildStorageObjectManifest_eq_ok hbuilt
    rfl
  refine verifyStorageObjectRestore_isOk_iff.mpr ⟨hhash, hrecord.manifestHash, hsource,
    matchesRetention_of_build hretention hbucket hbuilt, ?_, ?_, ?_⟩
  · rw [hsource.contentHash]
    exact hdigest
  · rw [hsource.contentHash, hstrip, hcontent]
  · rw [hsource.contentByteLength, hrecord.contentByteLength]

/-- Two manifests that match the same record and retention agree. -/
theorem StorageObjectManifest.agreesWith_of_matches {manifest : StorageObjectManifest}
    (hsource : manifest.MatchesSource record.metadata)
    (hretention : manifest.MatchesRetention H retention)
    (hsource' : built.MatchesSource record.metadata)
    (hretention' : built.MatchesRetention H retention) : manifest.AgreesWith built retention := by
  refine ⟨?_, fun hactive hmode => ?_⟩
  · obtain ⟨s1, s2, s3, s4, s5, s6, s7, s8, s9, s10, s11, s12, s13⟩ := hsource
    obtain ⟨t1, t2, t3, t4, t5, t6, t7, t8, t9, t10, t11, t12, t13⟩ := hsource'
    obtain ⟨r1, r2, r3, r4, r5, r6, -⟩ := hretention
    obtain ⟨q1, q2, q3, q4, q5, q6, -⟩ := hretention'
    exact StorageObjectManifest.ext rfl (s1.trans t1.symm) (s2.trans t2.symm) (s3.trans t3.symm)
      (s4.trans t4.symm) (r2.trans q2.symm) rfl rfl rfl rfl (s5.trans t5.symm) (s6.trans t6.symm)
      (s7.trans t7.symm) (s8.trans t8.symm) (s9.trans t9.symm) (s10.trans t10.symm)
      (s11.trans t11.symm) (s12.trans t12.symm) (r1.trans q1.symm) (r3.trans q3.symm)
      (r4.trans q4.symm) (r5.trans q5.symm) rfl (r6.trans q6.symm) (s13.trans t13.symm) rfl
  · rw [hretention.legalHold hactive hmode, hretention'.legalHold hactive hmode]

/-- Restored content that passes is the content of the record. -/
theorem content_of_verify (hinj : Function.Injective H.sha256)
    (hwritable : SourceObjectWriteGuard.validateBeforeWrite H record = .ok ())
    {manifest : StorageObjectManifest} {content : Bytes} {result : StorageRestoreVerificationResult}
    (h : verifyStorageObjectRestore H manifest record retention content = .ok result) :
    content = sourceObjectContentBytes record := by
  obtain ⟨-, -, hsource, -, -, hcontent, -⟩ := verifyStorageObjectRestore_isOk_iff.mp ⟨result, h⟩
  refine computeContentHash_injective hinj ?_
  calc computeContentHash H content
      = Text.strip manifest.contentHash := hcontent
    _ = Text.strip record.metadata.contentHash := by rw [hsource.contentHash]
    _ = computeContentHash H (sourceObjectContentBytes record) :=
        (SourceObjectWriteGuard.contentHash_of_writable hwritable).2.symm

/-- **The storage manifest check.** The builder and the restore verification
enumerate the same fields, in a bucket whose id has no whitespace around it. -/
theorem storage_manifest_check (hinj : Function.Injective H.sha256) (hrecord : record.Accepted H)
    (hretention : buildRetentionManifest H record policySet = .ok retention)
    (hbucket : Text.strip profile.bucketId = profile.bucketId)
    (hbuilt : buildStorageObjectManifest H record retention profile objectVersionId storedAtUtc
      objectKey storageProvider = .ok built) :
    (∃ result, verifyStorageObjectRestore H built record retention
        (sourceObjectContentBytes record) = .ok result) ∧
      ∀ (manifest : StorageObjectManifest) (content : Bytes)
        (result : StorageRestoreVerificationResult),
        verifyStorageObjectRestore H manifest record retention content = .ok result →
          manifest.AgreesWith built retention ∧ content = sourceObjectContentBytes record := by
  refine ⟨verify_of_build hrecord hretention hbucket hbuilt, ?_⟩
  intro manifest content result h
  obtain ⟨-, -, hsource, hmatches, -⟩ := verifyStorageObjectRestore_isOk_iff.mp ⟨result, h⟩
  exact ⟨StorageObjectManifest.agreesWith_of_matches hsource hmatches
      (matchesSource_of_build hrecord hbuilt)
      (matchesRetention_of_build hretention hbucket hbuilt),
    content_of_verify hinj hrecord.writable h⟩

end

/-! ## Hashes of manifests -/

namespace StorageObjectManifest

theorem manifestHash_withManifestHash (manifest : StorageObjectManifest) :
    (manifest.withManifestHash H).manifestHash =
      buildStorageObjectManifestHash H (manifest.withManifestHash H) := rfl

theorem nodup_payloadKeys (manifest : StorageObjectManifest) :
    (manifest.payloadMembers.map Prod.fst).Nodup := by
  show ["schema_version", "tenant_id", "object_id", "object_type", "source_version_id",
    "bucket_id", "object_key", "object_version_id", "storage_provider", "stored_at_utc",
    "classification", "lifecycle_state", "retention_policy_id", "legal_hold_state", "kms_key_ref",
    "source_manifest_hash", "content_hash", "content_byte_length", "retention_manifest_hash",
    "retention_policy_snapshot_hash", "object_lock_mode", "object_lock_retain_until_utc",
    "object_lock_legal_hold", "worm_required", "audit_chain_ref"].Nodup
  decide

/-- The hash covers the schema version. -/
theorem schemaVersion_of_hash (hinj : Function.Injective H.sha256)
    {manifest manifest' : StorageObjectManifest}
    (h : buildStorageObjectManifestHash H manifest = buildStorageObjectManifestHash H manifest') :
    manifest.schemaVersion = manifest'.schemaVersion :=
  Json.same_str.mp (Json.same_of_mem ((hashJson_eq_iff hinj).mp h) (nodup_payloadKeys manifest')
    (List.mem_cons_self ..) (List.mem_cons_self ..))

end StorageObjectManifest

/-! ## Bucket ids and schema versions -/

theorem StorageObjectManifest.errors_eq_nil {manifest : StorageObjectManifest} :
    manifest.errors = [] ↔
      (∀ text ∈ [manifest.schemaVersion, manifest.tenantId, manifest.objectId,
        manifest.sourceVersionId, manifest.bucketId, manifest.objectKey, manifest.objectVersionId,
        manifest.storageProvider, manifest.storedAtUtc, manifest.retentionPolicyId], text ≠ "") ∧
      isUtcTimestamp manifest.storedAtUtc = true ∧
      (∀ text ∈ [manifest.kmsKeyRef, manifest.sourceManifestHash, manifest.contentHash,
        manifest.retentionManifestHash, manifest.retentionPolicySnapshotHash,
        manifest.auditChainRef, manifest.manifestHash], isNamespacedRef text = true) ∧
      ∀ text ∈ manifest.objectLockRetainUntilUtc, text ≠ "" ∧ isUtcTimestamp text = true := by
  -- a timestamp is checked for being there first, and then for being of UTC
  have htimestamp : ∀ field text, requireNamedUtcTimestamp field text = [] ↔
      text ≠ "" ∧ isUtcTimestamp text = true := by
    intro field text
    unfold requireNamedUtcTimestamp
    split <;> simp [*]
  have huntil : requireOptional (requireNamedUtcTimestamp "object_lock_retain_until_utc")
      manifest.objectLockRetainUntilUtc = [] ↔
        ∀ text ∈ manifest.objectLockRetainUntilUtc, text ≠ "" ∧ isUtcTimestamp text = true := by
    cases manifest.objectLockRetainUntilUtc with
    | none => simp
    | some text => simp [htimestamp]
  simp only [StorageObjectManifest.errors, List.append_eq_nil_iff, requireNonEmpty_eq_nil,
    requireNamespacedRef_eq_nil, htimestamp, huntil, List.forall_mem_cons, List.not_mem_nil,
    IsEmpty.forall_iff, implies_true, and_true]
  tauto

def sampleBucketPolicy (bucket : String) : RetentionPolicyDefault :=
  { LegalHoldService.samplePolicyDefault "office" .internal (some 365) false with
    storageBucketId := bucket }

def sampleBucketPolicySet (bucket : String) : RetentionManifestPolicy :=
  { LegalHoldService.samplePolicySet with policyDefaults := [sampleBucketPolicy bucket] }

def sampleBucket (bucket : String) : BucketProfile where
  bucketId := bucket
  purpose := "documents"
  sourceObjectTypes := ["document"]
  lifecycleStates := ["working"]
  defaultRetentionDays := 365
  restoreIntegrityChecks := ["content_hash_check"]

def sampleRetention (bucket : String) : RetentionManifest :=
  draftRetentionManifest default (sampleRecord "doc-1").metadata (sampleBucketPolicy bucket)
    LegalHoldService.sampleCreated (some LegalHoldService.sampleEnded)

def sampleStored (bucket : String) : StorageObjectManifest :=
  (draftStorageObjectManifest default (sampleRecord "doc-1") (sampleRetention bucket)
    (sampleBucket bucket) "o1" "2026-01-05T09:00:01Z" none "s3-compatible").normalized
    |>.withManifestHash default

theorem sampleRecord_accepted : (sampleRecord "doc-1").Accepted default :=
  ⟨SourceObjectMetadata.validate_unhashed (sampleRecord_metadata (by decide)),
    sampleRecord_content _, sampleRecord_writable (by decide)⟩

/-- A bucket id of the samples: as it should be, or with a blank before it. -/
def IsSampleBucket (bucket : String) : Prop := bucket ∈ ["bucket", " bucket"]

/-- All that is checked of the samples' texts and times. -/
theorem sampleStored_checked :
    ((∀ text ∈ ["storage_object_manifest.v1", "acme", "doc-1", "v1",
      "acme/document/doc-1/v1/content", "o1", "s3-compatible", "2026-01-05T09:00:01Z", "office"],
        Text.strip text = text ∧ text ≠ "") ∧
      isUtcTimestamp "2026-01-05T09:00:01Z" = true ∧
      Text.strip "kms://acme/internal/v1" = "kms://acme/internal/v1" ∧
      Text.strip "audit:1" = "audit:1" ∧
      (∀ bucket ∈ ["bucket", " bucket"], Text.strip bucket ≠ "") ∧
      buildStorageObjectKey (sampleRecord "doc-1") = "acme/document/doc-1/v1/content") ∧
    (Text.strip "bucket" = "bucket" ∧ Text.strip " bucket" ≠ " bucket") ∧
    ((∀ bucket ∈ ["bucket", " bucket"],
        (sampleBucketPolicy bucket).validate = .ok (sampleBucketPolicy bucket)) ∧
      retentionParseUtc "2026-01-05T09:00:00Z" = .ok LegalHoldService.sampleCreated ∧
      retainUntil LegalHoldService.sampleCreated (some 365) =
        .ok (some LegalHoldService.sampleEnded)) ∧
    KmsKeyReference.parse "kms://acme/internal/v1" =
      .ok ⟨"acme", .internal, 1, by decide, by decide, by decide⟩ := by
  decide +kernel

/-- Only one of the bucket ids is as it is stored. -/
theorem sampleBucket_texts :
    Text.strip (sampleBucket "bucket").bucketId = (sampleBucket "bucket").bucketId ∧
      Text.strip " bucket" ≠ " bucket" :=
  sampleStored_checked.2.1

theorem sampleRetention_built {bucket : String} (h : IsSampleBucket bucket) :
    buildRetentionManifest default (sampleRecord "doc-1") (sampleBucketPolicySet bucket) =
      .ok (sampleRetention bucket) := by
  have hpolicy : (sampleBucketPolicySet bucket).policy "office" = .ok (sampleBucketPolicy bucket) :=
    rfl
  obtain ⟨hvalid, hfrom, huntil⟩ := sampleStored_checked.2.2.1
  exact buildRetentionManifest_of_policy default (hvalid bucket h) hpolicy
    (fun hworm => absurd hworm (by decide)) rfl (fun _ => rfl) hfrom huntil

/-- The draft of the sample passes its model. -/
theorem sampleStored_errors {bucket : String} (h : IsSampleBucket bucket) :
    (draftStorageObjectManifest default (sampleRecord "doc-1") (sampleRetention bucket)
      (sampleBucket bucket) "o1" "2026-01-05T09:00:01Z" none "s3-compatible").normalized.errors =
        [] := by
  obtain ⟨htexts, htime, hkms, haudit, hbucket, hkey⟩ := sampleStored_checked.1
  obtain ⟨-, -, hkmsRef, hauditRef, -⟩ := sampleMetadata_fields
  -- the hashes are digests, of the content or of a payload
  have hcontent : isNamespacedRef (sampleMetadata "doc-1").contentHash = true := by
    refine isNamespacedRef_computeContentHash (H := default) ?_
    rw [sha256_default, ← List.length_pos_iff, sampleText_length]
    decide
  have hhash : ∀ members, isNamespacedRef (Text.strip (hashJson default (.obj members))) = true :=
    fun members => by
      rw [hashJson, strip_computeContentHash]
      exact isNamespacedRef_hashJson members
  -- the texts are stripped already
  simp only [List.forall_mem_cons] at htexts
  obtain ⟨⟨hschema, hschemaNe⟩, ⟨htenant, htenantNe⟩, ⟨hobject, hobjectNe⟩, ⟨hversion, hversionNe⟩,
    ⟨hpath, hpathNe⟩, ⟨hid, hidNe⟩, ⟨hprovider, hproviderNe⟩, ⟨hstored, hstoredNe⟩,
    ⟨hpolicy, hpolicyNe⟩, -⟩ := htexts
  have hobjectKey : (if (none : Option String).getD "" = "" then
      buildStorageObjectKey (sampleRecord "doc-1") else (none : Option String).getD "") =
        "acme/document/doc-1/v1/content" := (if_pos rfl).trans hkey
  have hpath' : Text.strip (if (none : Option String).getD "" = "" then
      buildStorageObjectKey (sampleRecord "doc-1") else (none : Option String).getD "") ≠ "" := by
    rw [hobjectKey, hpath]
    exact hpathNe
  have hstoredUtc : isUtcTimestamp (Text.strip "2026-01-05T09:00:01Z") = true := by
    rw [hstored]
    exact htime
  refine StorageObjectManifest.errors_eq_nil.mpr ⟨?_, hstoredUtc, ?_, ?_⟩
  · simp only [List.forall_mem_cons, List.not_mem_nil, IsEmpty.forall_iff, implies_true, and_true]
    exact ⟨ne_of_eq_of_ne hschema hschemaNe, ne_of_eq_of_ne htenant htenantNe,
      ne_of_eq_of_ne hobject hobjectNe, ne_of_eq_of_ne hversion hversionNe, hbucket bucket h,
      hpath', ne_of_eq_of_ne hid hidNe, ne_of_eq_of_ne hprovider hproviderNe,
      ne_of_eq_of_ne hstored hstoredNe, ne_of_eq_of_ne hpolicy hpolicyNe⟩
  · simp only [List.forall_mem_cons, List.not_mem_nil, IsEmpty.forall_iff, implies_true, and_true]
    refine ⟨?_, hhash _, ?_, hhash _, hhash _, ?_, ?_⟩
    · exact (congrArg isNamespacedRef hkms).trans hkmsRef
    · exact (congrArg isNamespacedRef (strip_computeContentHash _)).trans hcontent
    · exact (congrArg isNamespacedRef haudit).trans hauditRef
    · exact (congrArg isNamespacedRef SourceObjectMetadata.strip_zeroHash.1).trans
        SourceObjectMetadata.strip_zeroHash.2
  · -- no object lock, so no end of one
    intro text htext
    cases htext

theorem sampleStored_built {bucket : String} (h : IsSampleBucket bucket) :
    buildStorageObjectManifest default (sampleRecord "doc-1") (sampleRetention bucket)
      (sampleBucket bucket) "o1" "2026-01-05T09:00:01Z" = .ok (sampleStored bucket) := by
  -- source, reference and bucket agree with the retention manifest
  have hsource : requireSourceMatchesRetention (sampleRecord "doc-1") (sampleRetention bucket) =
      .ok () := by
    refine Except.unit_bind_eq_ok.mpr ⟨requireAgreement_eq_ok.mpr ?_, require_eq_ok.mpr rfl⟩
    simp [sampleRetention, draftRetentionManifest, sampleBucketPolicy,
      LegalHoldService.samplePolicyDefault, sampleRecord, sampleMetadata,
      SourceObjectMetadata.withManifestHash]
  have hreference : requireKmsReferenceMatchesSource (sampleRecord "doc-1") = .ok () := by
    unfold requireKmsReferenceMatchesSource
    rw [show (sampleRecord "doc-1").metadata.kmsKeyRef = "kms://acme/internal/v1" from rfl,
      sampleStored_checked.2.2.2]
    rfl
  have hbucket : requireBucketMatchesRetention (sampleBucket bucket) (sampleRetention bucket) =
      .ok () := by
    refine require_bind_eq_ok.mpr ⟨rfl, require_bind_eq_ok.mpr ⟨?_, require_bind_eq_ok.mpr
      ⟨?_, require_bind_eq_ok.mpr ⟨rfl, require_bind_eq_ok.mpr ⟨?_, require_eq_ok.mpr ?_⟩⟩⟩⟩⟩
    · exact List.mem_singleton.mpr rfl
    · exact List.mem_singleton.mpr rfl
    · rintro ⟨hworm, -⟩
      cases hworm
    · rintro ⟨hactive, -⟩
      cases hactive
  -- the content has the hash that it was stored with
  obtain ⟨verified, hverified⟩ := @verifyContentHash_self default (Text.encodeUtf8 sampleText)
    sampleText_length "storage_manifest_build" (contexts_notBlank _ (by simp))
  refine Except.unit_bind_eq_ok.mpr ⟨hsource, Except.unit_bind_eq_ok.mpr ⟨hreference,
    Except.unit_bind_eq_ok.mpr ⟨hbucket, Except.bind_eq_ok.mpr ⟨verified,
      requireContentVerified_eq_ok.mpr hverified, Except.bind_eq_ok.mpr ⟨_, ?_, rfl⟩⟩⟩⟩⟩
  refine Except.bind_eq_ok.mpr ⟨_, accept_eq_ok.mpr ⟨sampleStored_errors h, rfl⟩, ?_⟩
  rfl

/-- The manifest of the sample with another schema version, hashed again. -/
def sampleRelabelled : StorageObjectManifest :=
  { sampleStored "bucket" with schemaVersion := "storage_object_manifest.v2" }
    |>.withManifestHash default

/-- Nothing compares the schema version, nor, then, the hash over it. -/
theorem sampleRelabelled_verifies :
    (∃ result, verifyStorageObjectRestore default sampleRelabelled (sampleRecord "doc-1")
        (sampleRetention "bucket") (sourceObjectContentBytes (sampleRecord "doc-1")) =
          .ok result) ∧
      sampleRelabelled.schemaVersion ≠ (sampleStored "bucket").schemaVersion ∧
      sampleRelabelled.manifestHash ≠ (sampleStored "bucket").manifestHash := by
  have hother : sampleRelabelled.schemaVersion ≠ (sampleStored "bucket").schemaVersion := by
    show "storage_object_manifest.v2" ≠ Text.strip "storage_object_manifest.v1"
    rw [(sampleStored_checked.1.1 _ (List.mem_cons_self ..)).1]
    decide
  refine ⟨?_, hother, fun hsame => hother ?_⟩
  · -- the restore compares every field but the schema version and the hash
    obtain ⟨result, h⟩ := verify_of_build sampleRecord_accepted
      (sampleRetention_built (List.mem_cons_self ..)) sampleBucket_texts.1
      (sampleStored_built (List.mem_cons_self ..))
    obtain ⟨-, hsource, hmatches, hretention, hdigest, hcontent, hlength⟩ :=
      verifyStorageObjectRestore_isOk_iff.mp ⟨result, h⟩
    obtain ⟨s1, s2, s3, s4, s5, s6, s7, s8, s9, s10, s11, s12, s13⟩ := hmatches
    obtain ⟨r1, r2, r3, r4, r5, r6, r7⟩ := hretention
    exact verifyStorageObjectRestore_isOk_iff.mpr
      ⟨StorageObjectManifest.manifestHash_withManifestHash _, hsource,
      ⟨s1, s2, s3, s4, s5, s6, s7, s8, s9, s10, s11, s12, s13⟩, ⟨r1, r2, r3, r4, r5, r6, r7⟩,
      hdigest, hcontent, hlength⟩
  · -- equal hashes would be of equal schema versions
    rw [sampleRelabelled, StorageObjectManifest.manifestHash_withManifestHash, sampleStored,
      StorageObjectManifest.manifestHash_withManifestHash] at hsame
    exact StorageObjectManifest.schemaVersion_of_hash (fun _ _ h => h) hsame

/-- Bucket ids are taken as they are given, and manifests strip theirs: with a
blank before the id, what the builder makes does not pass. -/
theorem stored_manifest_fails_or_differs :
    (buildRetentionManifest default (sampleRecord "doc-1") (sampleBucketPolicySet " bucket") =
        .ok (sampleRetention " bucket") ∧
      buildStorageObjectManifest default (sampleRecord "doc-1") (sampleRetention " bucket")
        (sampleBucket " bucket") "o1" "2026-01-05T09:00:01Z" = .ok (sampleStored " bucket") ∧
      ¬ ∃ result, verifyStorageObjectRestore default (sampleStored " bucket")
        (sampleRecord "doc-1") (sampleRetention " bucket")
        (sourceObjectContentBytes (sampleRecord "doc-1")) = .ok result) ∧
    (buildRetentionManifest default (sampleRecord "doc-1") (sampleBucketPolicySet "bucket") =
        .ok (sampleRetention "bucket") ∧
      buildStorageObjectManifest default (sampleRecord "doc-1") (sampleRetention "bucket")
        (sampleBucket "bucket") "o1" "2026-01-05T09:00:01Z" = .ok (sampleStored "bucket") ∧
      (∃ result, verifyStorageObjectRestore default sampleRelabelled (sampleRecord "doc-1")
        (sampleRetention "bucket") (sourceObjectContentBytes (sampleRecord "doc-1")) =
          .ok result) ∧
      sampleRelabelled.schemaVersion ≠ (sampleStored "bucket").schemaVersion ∧
      sampleRelabelled.manifestHash ≠ (sampleStored "bucket").manifestHash) := by
  have hblank : IsSampleBucket " bucket" := by simp [IsSampleBucket]
  have hplain : IsSampleBucket "bucket" := List.mem_cons_self ..
  refine ⟨⟨sampleRetention_built hblank, sampleStored_built hblank, fun hpasses => ?_⟩,
    sampleRetention_built hplain, sampleStored_built hplain, sampleRelabelled_verifies⟩
  obtain ⟨-, -, -, hretention, -⟩ := verifyStorageObjectRestore_isOk_iff.mp hpasses
  exact sampleBucket_texts.2 hretention.bucketId

theorem sample_storage_manifest_check :
    (∃ result, verifyStorageObjectRestore default (sampleStored "bucket") (sampleRecord "doc-1")
        (sampleRetention "bucket") (sourceObjectContentBytes (sampleRecord "doc-1")) =
          .ok result) ∧
      ∀ (manifest : StorageObjectManifest) (content : Bytes)
        (result : StorageRestoreVerificationResult),
        verifyStorageObjectRestore default manifest (sampleRecord "doc-1")
          (sampleRetention "bucket") content = .ok result →
          manifest.AgreesWith (sampleStored "bucket") (sampleRetention "bucket") ∧
            content = sourceObjectContentBytes (sampleRecord "doc-1") :=
  storage_manifest_check (fun _ _ h => h) sampleRecord_accepted
    (sampleRetention_built (List.mem_cons_self ..)) sampleBucket_texts.1
    (sampleStored_built (List.mem_cons_self ..))

end Collabio
