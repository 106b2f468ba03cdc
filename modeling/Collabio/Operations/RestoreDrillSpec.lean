import Mathlib.Tactic
import Collabio.Kms.CryptoshredRuns
import Collabio.Kms.DestructionRuns
import Collabio.Operations.RestoreDrill
import Collabio.Storage.StorageManifestSpec

/-!
# What restore drills establish

* `verifyEncryptedObjectRestore_eq_ok` — the checks behind a report of a restored object;
* `restored_content_original`  — what such a drill releases is the stored content;
* `restore_outcomes_exclusive` — no storage manifest is reported unrecoverable
  first and restored later;
* `restorable_iff`             — an object stored and encrypted stays restorable
  exactly as long as its envelope is not rewrapped.
-/

namespace Collabio

variable {H : HashFunctions}

/-- Envelope and storage manifest name the same version, class, key and content. -/
structure EnvelopeEncryptionManifest.MatchesStorage (envelope : EnvelopeEncryptionManifest)
    (storage : StorageObjectManifest) : Prop where
  tenantId        : envelope.tenantId = storage.tenantId
  objectId        : envelope.objectId = storage.objectId
  sourceVersionId : envelope.sourceVersionId = storage.sourceVersionId
  dataClass       : envelope.dataClass = storage.classification
  kmsKeyRef       : envelope.kmsKeyRef = storage.kmsKeyRef
  plaintextHash   : envelope.plaintextHash = storage.contentHash

theorem requireEnvelopeManifestMatchesStorage_eq_ok {envelope : EnvelopeEncryptionManifest}
    {storage : StorageObjectManifest} :
    requireEnvelopeManifestMatchesStorage H envelope storage = .ok () ↔
      envelope.manifestHash = buildEnvelopeEncryptionManifestHash H envelope ∧
        envelope.MatchesStorage storage := by
  unfold requireEnvelopeManifestMatchesStorage
  rw [require_bind_eq_ok, requireAgreement_eq_ok]
  simp only [List.all_cons, List.all_nil, Bool.and_true, Bool.and_eq_true, decide_eq_true_eq]
  constructor
  · rintro ⟨hhash, h1, h2, h3, h4, h5, h6⟩
    exact ⟨hhash, ⟨h1, h2, h3, h4, h5, h6⟩⟩
  · rintro ⟨hhash, ⟨h1, h2, h3, h4, h5, h6⟩⟩
    exact ⟨hhash, h1, h2, h3, h4, h5, h6⟩

theorem RestoreDrillCommandBase.requireMatchesRecord_eq_ok {command : RestoreDrillCommandBase} :
    command.requireMatchesRecord = .ok () ↔
      command.tenantId = command.record.metadata.tenantId ∧
        command.objectId = command.record.metadata.objectId ∧
        command.sourceVersionId = command.record.metadata.versionId := by
  unfold RestoreDrillCommandBase.requireMatchesRecord
  rw [requireAgreement_eq_ok]
  simp only [List.all_cons, List.all_nil, Bool.and_true, Bool.and_eq_true, decide_eq_true_eq]

namespace RestoreDrillRunner

/-- **The checks behind a report of a restored object.** -/
theorem verifyEncryptedObjectRestore_eq_ok {runner : RestoreDrillRunner} {kms : LocalKmsAdapter}
    {command : EncryptedObjectRestoreDrillCommand} {report : RestoreDrillReport} :
    runner.verifyEncryptedObjectRestore H kms command = .ok report ↔
      ∃ service storageResult request decryption draft,
        runner.envelopeService = some service ∧
        command.requireMatchesRecord = .ok () ∧
        requireEnvelopeManifestMatchesStorage H command.envelopeManifest command.storageManifest =
          .ok () ∧
        verifyStorageObjectRestore H command.storageManifest command.record
          command.retentionManifest command.restoredContent = .ok storageResult ∧
        (decryptionRequest command).validate = .ok request ∧
        service.decrypt H kms request = .ok decryption ∧
        decryption.plaintextHash = storageResult.contentHash ∧
        computeContentHash H command.restoredContent = decryption.plaintextHash ∧
        (restoredDraft command storageResult decryption).validate = .ok draft ∧
        report = draft.withReportHash H := by
  unfold verifyEncryptedObjectRestore
  constructor
  · intro h
    cases hservice : runner.envelopeService with
    | none =>
      rw [hservice] at h
      cases h
    | some service =>
      rw [hservice] at h
      -- the checks in the order of the code
      obtain ⟨hrecord, h⟩ := Except.unit_bind_eq_ok.mp h
      obtain ⟨henvelope, h⟩ := Except.unit_bind_eq_ok.mp h
      obtain ⟨storageResult, hstorage, h⟩ := Except.bind_eq_ok.mp h
      obtain ⟨request, hrequest, h⟩ := Except.bind_eq_ok.mp h
      obtain ⟨decryption, hdecryption, h⟩ := Except.bind_eq_ok.mp h
      obtain ⟨hplaintext, h⟩ := require_bind_eq_ok.mp h
      obtain ⟨hcontent, h⟩ := require_bind_eq_ok.mp h
      obtain ⟨draft, hdraft, h⟩ := Except.bind_eq_ok.mp h
      cases h
      exact ⟨service, storageResult, request, decryption, draft, rfl, hrecord, henvelope, hstorage,
        hrequest, hdecryption, hplaintext, hcontent, hdraft, rfl⟩
  · rintro ⟨service, storageResult, request, decryption, draft, hservice, hrecord, henvelope,
      hstorage, hrequest, hdecryption, hplaintext, hcontent, hdraft, rfl⟩
    rw [hservice]
    refine Except.unit_bind_eq_ok.mpr ⟨hrecord, Except.unit_bind_eq_ok.mpr ⟨henvelope, ?_⟩⟩
    refine Except.bind_eq_ok.mpr ⟨storageResult, hstorage, ?_⟩
    refine Except.bind_eq_ok.mpr ⟨request, hrequest, ?_⟩
    refine Except.bind_eq_ok.mpr ⟨decryption, hdecryption, ?_⟩
    refine require_bind_eq_ok.mpr ⟨hplaintext, require_bind_eq_ok.mpr ⟨hcontent, ?_⟩⟩
    exact Except.bind_eq_ok.mpr ⟨draft, hdraft, rfl⟩

end RestoreDrillRunner

/-! ## Objects stored and encrypted -/

/-- The encryption is of the record's own content, under its names and its key reference. -/
structure EnvelopeEncryptionRequest.IsFor (raw : EnvelopeEncryptionRequest)
    (record : SourceObjectRecord) : Prop where
  tenantId        : raw.tenantId = record.metadata.tenantId
  objectId        : raw.objectId = record.metadata.objectId
  sourceVersionId : raw.sourceVersionId = record.metadata.versionId
  dataClass       : raw.dataClass = record.metadata.classification
  kmsKeyRef       : raw.kmsKeyRef = record.metadata.kmsKeyRef
  plaintext       : raw.plaintext = sourceObjectContentBytes record

/-- A record with its retention and storage manifests, and the envelope that its
content was encrypted in. -/
structure StoredObject (H : HashFunctions) (service : LocalEnvelopeEncryptionService)
    (kms : LocalKmsAdapter) where
  record          : SourceObjectRecord
  policySet       : RetentionManifestPolicy
  retention       : RetentionManifest
  profile         : BucketProfile
  objectVersionId : String
  storedAtUtc     : String
  objectKey       : Option String
  storageProvider : String
  manifest        : StorageObjectManifest
  raw             : EnvelopeEncryptionRequest
  request         : EnvelopeEncryptionRequest
  dataKey         : Bytes
  nonce           : Bytes
  payload         : EnvelopeEncryptedPayload
  accepted        : record.Accepted H
  retained        : buildRetentionManifest H record policySet = .ok retention
  stored          : buildStorageObjectManifest H record retention profile objectVersionId
                      storedAtUtc objectKey storageProvider = .ok manifest
  subject         : raw.IsFor record
  valid           : raw.validate = .ok request
  encrypted       : service.encrypt H kms dataKey nonce request = .ok payload

/-- The caller's fields as the models leave them. -/
def Caller.normalized (caller : Caller) : Caller where
  requestedBy := Text.strip caller.requestedBy
  auditChainRef := Text.strip caller.auditChainRef
  occurredAtUtc := Text.strip caller.occurredAtUtc

theorem Caller.accepted_normalized {caller : Caller} (h : caller.Accepted) :
    caller.normalized.Accepted := by
  refine ⟨?_, ?_, ?_⟩
  · simpa [Caller.normalized] using h.requestedBy
  · simpa [Caller.normalized] using h.auditChainRef
  · simpa [Caller.normalized] using h.occurredAtUtc

namespace StoredObject

variable {service : LocalEnvelopeEncryptionService} {kms : LocalKmsAdapter}
variable (object : StoredObject H service kms)

/-- The drill of the object, with the original content and some envelope manifest. -/
def drill (envelope : EnvelopeEncryptionManifest) (caller : Caller) :
    EncryptedObjectRestoreDrillCommand where
  tenantId := object.record.metadata.tenantId
  objectId := object.record.metadata.objectId
  sourceVersionId := object.record.metadata.versionId
  record := object.record
  storageManifest := object.manifest
  retentionManifest := object.retention
  requestedBy := caller.requestedBy
  auditChainRef := caller.auditChainRef
  occurredAtUtc := caller.occurredAtUtc
  restoredContent := sourceObjectContentBytes object.record
  envelopeCiphertext := object.payload.ciphertext
  envelopeManifest := envelope
  envelopeAad := object.request.aad

/-- What the record's model says of the fields the other models ask about. -/
theorem metadata_fields :
    object.record.metadata.tenantId ≠ "" ∧ object.record.metadata.objectId ≠ "" ∧
      object.record.metadata.versionId ≠ "" ∧
      isNamespacedRef object.record.metadata.kmsKeyRef = true ∧
      isNamespacedRef object.record.metadata.contentHash = true := by
  obtain ⟨-, herrors, -⟩ := SourceObjectMetadata.validate_self.mp object.accepted.draft
  obtain ⟨htenant, hobject, hversion, -, -, -, -, -, -, hkey, -, -, -, -, -, -, -, hcontent⟩ :=
    SourceObjectMetadata.errors_eq_nil.mp herrors
  exact ⟨htenant, hobject, hversion, hkey, hcontent⟩

/-- The request that was encrypted is the record's, and nothing in it was stripped. -/
theorem request_isFor : object.request.IsFor object.record := by
  have hself := SourceObjectMetadata.ext_iff.mp object.accepted.normalized
  simp only [SourceObjectMetadata.normalized] at hself
  obtain ⟨htenant, hobject, -, hversion, -⟩ := hself
  have hsubject := object.subject
  rw [← (accept_eq_ok.mp object.valid).2]
  refine ⟨?_, ?_, ?_, hsubject.dataClass, hsubject.kmsKeyRef, hsubject.plaintext⟩
  · exact (congrArg Text.strip hsubject.tenantId).trans htenant
  · exact (congrArg Text.strip hsubject.objectId).trans hobject
  · exact (congrArg Text.strip hsubject.sourceVersionId).trans hversion

theorem strip_kmsKeyRef : Text.strip object.request.kmsKeyRef = object.request.kmsKeyRef := by
  rw [object.request_isFor.kmsKeyRef]
  exact congrArg SourceObjectMetadata.kmsKeyRef object.accepted.normalized

theorem matchesSource : object.manifest.MatchesSource object.record.metadata :=
  matchesSource_of_build object.accepted object.stored

theorem opens : service.Opens H object.payload.manifest object.request.aad
    object.payload.ciphertext object.dataKey (sourceObjectContentBytes object.record) := by
  obtain ⟨evidence, -, -, -, -, hpayload⟩ :=
    LocalEnvelopeEncryptionService.encrypt_eq_ok.mp object.encrypted
  rw [hpayload, ← object.request_isFor.plaintext]
  exact LocalEnvelopeEncryptionService.encrypt_opens object.valid object.strip_kmsKeyRef

/-- The envelope of the encryption fits the storage manifest. -/
theorem envelope_matchesStorage : object.payload.manifest.MatchesStorage object.manifest := by
  obtain ⟨evidence, -, -, -, -, hpayload⟩ :=
    LocalEnvelopeEncryptionService.encrypt_eq_ok.mp object.encrypted
  have hsource := object.matchesSource
  have hrequest := object.request_isFor
  have hself := SourceObjectMetadata.ext_iff.mp object.accepted.normalized
  simp only [SourceObjectMetadata.normalized] at hself
  obtain ⟨htenant, hobject, -, hversion, -⟩ := hself
  rw [hpayload]
  refine ⟨?_, ?_, ?_, ?_, ?_, ?_⟩
  · rw [hsource.tenantId, ← htenant, ← hrequest.tenantId]
    rfl
  · rw [hsource.objectId, ← hobject, ← hrequest.objectId]
    rfl
  · rw [hsource.sourceVersionId, ← hversion, ← hrequest.sourceVersionId]
    rfl
  · rw [hsource.classification, ← hrequest.dataClass]
    rfl
  · rw [hsource.kmsKeyRef, ← hrequest.kmsKeyRef]
    exact object.strip_kmsKeyRef
  · rw [hsource.contentHash, ← object.accepted.contentHash.2, ← hrequest.plaintext]
    simp only [LocalEnvelopeEncryptionService.hashed, EnvelopeEncryptionManifest.normalized,
      LocalEnvelopeEncryptionService.draftManifest]

/-- The drill command of an accepted caller is accepted; the caller's fields are stripped. -/
theorem drill_valid {caller : Caller} (hcaller : caller.Accepted)
    (envelope : EnvelopeEncryptionManifest) :
    (object.drill envelope caller).validate = .ok (object.drill envelope caller.normalized) := by
  -- the record's own texts were stripped when it was accepted
  obtain ⟨htenantNe, hobjectNe, hversionNe, -⟩ := object.metadata_fields
  have hself := SourceObjectMetadata.ext_iff.mp object.accepted.normalized
  simp only [SourceObjectMetadata.normalized] at hself
  obtain ⟨htenant, hobject, -, hversion, -⟩ := hself
  have hcontent : sourceObjectContentBytes object.record ≠ [] :=
    List.ne_nil_of_length_pos (Nat.pos_of_ne_zero
      (SourceObjectRecord.validate_eq_ok.mp object.accepted.content).1)
  have hciphertext : object.payload.ciphertext ≠ [] := by
    obtain ⟨-, hlength, -⟩ :=
      LocalEnvelopeEncryptionService.encrypt_manifest object.valid object.encrypted
    exact List.ne_nil_of_length_pos (Nat.zero_lt_of_lt hlength)
  have hbase : (object.drill envelope caller).toRestoreDrillCommandBase.normalized =
      (object.drill envelope caller.normalized).toRestoreDrillCommandBase := by
    simp only [RestoreDrillCommandBase.normalized, drill, htenant, hobject, hversion,
      Caller.normalized]
  refine accept_eq_ok.mpr ⟨?_, ?_⟩
  · rw [hbase]
    simp [RestoreDrillCommandBase.idErrors, RestoreDrillCommandBase.callerErrors, drill,
      requireRestoreBytes, htenantNe, hobjectNe, hversionNe, hcontent, hciphertext,
      Caller.normalized, hcaller.requestedBy, hcaller.auditChainRef, hcaller.occurredAtUtc]
  · rw [hbase]
    rfl

/-- The hash of an object payload stays a reference when it is stripped. -/
theorem isNamespacedRef_strip_hashJson (hdigests : H.HasDigests) (members : List (String × Json)) :
    isNamespacedRef (Text.strip (hashJson H (.obj members))) = true := by
  rw [hashJson, strip_computeContentHash]
  exact isNamespacedRef_hashJson_obj hdigests members

/-- The evidence of a key validation is named by its hash. -/
theorem isNamespacedRef_evidenceHash (hdigests : H.HasDigests) {request : KmsKeyReferenceRequest}
    {evidence : KmsOperationEvidence} (h : kms.validateKeyReference H request = .ok evidence) :
    isNamespacedRef (Text.strip evidence.evidenceHash) = true := by
  obtain ⟨ref, -, h⟩ := Except.bind_eq_ok.mp h
  obtain ⟨_, -, h⟩ := Except.bind_eq_ok.mp h
  obtain ⟨-, -, rfl⟩ := buildKmsOperationEvidence_eq_ok.mp h
  exact isNamespacedRef_strip_hashJson hdigests _

/-- The hashes that the storage manifest hands on to a report are references. -/
theorem manifest_hashes (hdigests : H.HasDigests)
    (hretention : object.manifest.MatchesRetention H object.retention) :
    isNamespacedRef (Text.strip object.manifest.manifestHash) = true ∧
      isNamespacedRef (Text.strip object.manifest.sourceManifestHash) = true ∧
      isNamespacedRef (Text.strip object.manifest.retentionManifestHash) = true ∧
      isNamespacedRef (Text.strip object.manifest.retentionPolicySnapshotHash) = true ∧
      isNamespacedRef (Text.strip object.manifest.contentHash) = true := by
  have hsource := object.matchesSource
  obtain ⟨-, -, -, -, hcontent⟩ := object.metadata_fields
  refine ⟨?_, ?_, ?_, ?_, ?_⟩
  · -- the storage manifest's hash is made when it is built
    obtain ⟨-, hbuilt⟩ := buildStorageObjectManifest_eq_ok object.stored
    rw [hbuilt]
    exact isNamespacedRef_strip_hashJson hdigests _
  · rw [hsource.sourceManifestHash, object.accepted.manifestHash]
    exact isNamespacedRef_strip_hashJson hdigests _
  · rw [hretention.manifestHash]
    exact isNamespacedRef_strip_hashJson hdigests _
  · -- the snapshot's hash is made with the retention manifest
    obtain ⟨policy, _, _, -, -, -, hdraft⟩ := buildRetentionManifest_eq_ok H object.retained
    rw [hretention.snapshotHash, hdraft]
    exact isNamespacedRef_strip_hashJson hdigests _
  · have hstrip : Text.strip object.record.metadata.contentHash =
        object.record.metadata.contentHash :=
      congrArg SourceObjectMetadata.contentHash object.accepted.normalized
    rw [hsource.contentHash, hstrip]
    exact hcontent

/-- The draft of the report passes its model. -/
theorem restoredDraft_valid (hdigests : H.HasDigests) {caller : Caller} (hcaller : caller.Accepted)
    (hretention : object.manifest.MatchesRetention H object.retention)
    {envelope : EnvelopeEncryptionManifest} {storageResult : StorageRestoreVerificationResult}
    {decryption : EnvelopeDecryptionResult}
    (henvelope : isNamespacedRef (Text.strip envelope.manifestHash) = true)
    (hevidence : isNamespacedRef (Text.strip decryption.kmsEvidence.evidenceHash) = true)
    (hcontent : storageResult.contentHash = object.manifest.contentHash)
    (hchecks : storageResult.checks = storageRestoreChecks) :
    ∃ draft, (RestoreDrillRunner.restoredDraft (object.drill envelope caller) storageResult
      decryption).validate = .ok draft ∧ draft.status = .restored := by
  obtain ⟨hmanifest, hsource, hretained, hsnapshot, hstored⟩ :=
    object.manifest_hashes hdigests hretention
  obtain ⟨htenantNe, hobjectNe, hversionNe, -⟩ := object.metadata_fields
  -- the object's names were stripped when its record was accepted
  have hself := SourceObjectMetadata.ext_iff.mp object.accepted.normalized
  simp only [SourceObjectMetadata.normalized] at hself
  obtain ⟨htenant, hobject, -, hversion, -⟩ := hself
  -- the checks of both lists, each once
  have hlength : KmsAdapterPolicy.requireLength "checks" 1
      (uniqueChecks [storageRestoreChecks, RestoreDrillRunner.restoredChecks]) = [] := by decide
  have hzero : isNamespacedRef (Text.strip zeroHash) = true := isNamespacedRef_zeroHash
  have herrors : (RestoreDrillRunner.restoredDraft (object.drill envelope caller) storageResult
      decryption).normalized.errors = [] := by
    simp only [RestoreDrillReport.errors, RestoreDrillReport.normalized,
      RestoreDrillRunner.restoredDraft, RestoreDrillCommandBase.reportDraft, drill, htenant,
      hobject, hversion, hcontent, hchecks, hlength, Option.map_some, Option.map_none,
      requireOptional_none, requireOptional_some, List.append_eq_nil_iff, requireNonEmpty_eq_nil,
      requireNamespacedRef_eq_nil, requireUtcTimestamp_eq_nil]
    simp [htenantNe, hobjectNe, hversionNe, hmanifest, hsource, hretained, hsnapshot, hstored,
      henvelope, hevidence, hcaller.requestedBy, hcaller.auditChainRef, hcaller.occurredAtUtc,
      hzero]
  refine ⟨_, Except.bind_eq_ok.mpr ⟨_, accept_eq_ok.mpr ⟨herrors, rfl⟩,
    Except.unit_bind_eq_ok.mpr ⟨?_, rfl⟩⟩, rfl⟩
  rfl

/-- **A fresh object can be restored**, when its bucket id has no whitespace around it. -/
theorem fresh_restorable (hdigests : H.HasDigests) {runner : RestoreDrillRunner}
    {caller : Caller} (hservice : runner.envelopeService = some service) (hcaller : caller.Accepted)
    (hbucket : Text.strip object.profile.bucketId = object.profile.bucketId) :
    ∃ report, runner.verifyEncryptedObjectRestore H kms
        (object.drill object.payload.manifest caller) = .ok report ∧
      report.status = .restored := by
  have hsource := object.matchesSource
  have hstorage := object.envelope_matchesStorage
  have hopens := object.opens
  obtain ⟨hids, hlength, -⟩ :=
    LocalEnvelopeEncryptionService.encrypt_manifest object.valid object.encrypted
  obtain ⟨href, husable⟩ :=
    LocalEnvelopeEncryptionService.encrypt_usable object.valid object.encrypted
  obtain ⟨storageResult, hverified⟩ :=
    verify_of_build object.accepted object.retained hbucket object.stored
  obtain ⟨hcontent, hchecks⟩ := fields_of_verifyStorageObjectRestore hverified
  -- the drill decrypts with the names of the record, which are the envelope's own
  have hrequest : RestoreDrillRunner.decryptionRequest
      (object.drill object.payload.manifest caller) =
        LocalEnvelopeEncryptionService.decryptionRequest object.payload.manifest
          object.payload.ciphertext object.request.aad caller :=
    EnvelopeDecryptionRequest.ext (hsource.tenantId.symm.trans hstorage.tenantId.symm)
      (hsource.objectId.symm.trans hstorage.objectId.symm)
      (hsource.sourceVersionId.symm.trans hstorage.sourceVersionId.symm) hstorage.dataClass.symm
      hstorage.kmsKeyRef.symm rfl rfl rfl rfl rfl rfl
  obtain ⟨decryption, hdecrypts, hplaintext⟩ :=
    LocalEnvelopeEncryptionService.decryptWith_of_opens hopens hids hlength href hcaller husable
  obtain ⟨request, hvalid, hdecryption⟩ := Except.bind_eq_ok.mp hdecrypts
  obtain ⟨evidence, _, plaintext, -, hkms, -, hresult⟩ :=
    LocalEnvelopeEncryptionService.decrypt_eq_ok.mp hdecryption
  have hhash : decryption.plaintextHash =
      computeContentHash H (sourceObjectContentBytes object.record) := by
    rw [← hplaintext, hresult]
  obtain ⟨_, -, hevidence⟩ := Except.bind_eq_ok.mp hkms
  have hnamed : isNamespacedRef (Text.strip object.payload.manifest.manifestHash) = true := by
    rw [hopens.hash]
    exact isNamespacedRef_strip_hashJson hdigests _
  have hproof : isNamespacedRef (Text.strip decryption.kmsEvidence.evidenceHash) = true := by
    rw [hresult]
    exact isNamespacedRef_evidenceHash hdigests hevidence
  obtain ⟨draft, hdraft, hstatus⟩ := object.restoredDraft_valid hdigests hcaller
    (matchesRetention_of_build object.retained hbucket object.stored) hnamed hproof hcontent
    hchecks
  refine ⟨draft.withReportHash H, RestoreDrillRunner.verifyEncryptedObjectRestore_eq_ok.mpr
    ⟨service, storageResult, request, decryption, draft, hservice, ?_, ?_, hverified, ?_,
      hdecryption, ?_, hhash.symm, hdraft, rfl⟩, hstatus⟩
  · exact RestoreDrillCommandBase.requireMatchesRecord_eq_ok.mpr ⟨rfl, rfl, rfl⟩
  · exact requireEnvelopeManifestMatchesStorage_eq_ok.mpr ⟨hopens.hash, hstorage⟩
  · rw [hrequest]
    exact hvalid
  · rw [hhash, hcontent, hsource.contentHash]
    exact object.accepted.contentHash.2

end StoredObject

/-! ## A concrete object -/

/-- The encryption of the sample record. -/
def sampleObjectRequest : EnvelopeEncryptionRequest :=
  { LocalEnvelopeEncryptionService.sampleRequest "" with
    plaintext := Text.encodeUtf8 sampleText }

theorem sampleObjectRequest_valid :
    sampleObjectRequest.validate = .ok sampleObjectRequest := by
  have hplaintext : Text.encodeUtf8 sampleText ≠ [] := by
    rw [← List.length_pos_iff, sampleText_length]
    decide
  have hnormal : sampleObjectRequest.normalized = sampleObjectRequest := by
    rw [sampleObjectRequest, EnvelopeEncryptionRequest.normalized]
    exact congrArg (fun request : EnvelopeEncryptionRequest =>
        { request with plaintext := Text.encodeUtf8 sampleText })
      (LocalEnvelopeEncryptionService.sampleRequest_normalized "")
  refine accept_eq_ok.mpr ⟨?_, hnormal⟩
  rw [hnormal]
  simp [EnvelopeEncryptionRequest.errors, sampleObjectRequest, hplaintext,
    LocalEnvelopeEncryptionService.sampleRequest, isUtcTimestamp_sample]

/-- The sample record, stored in a bucket and encrypted. -/
theorem sample_object : ∃ object : StoredObject default ⟨[]⟩ sampleKms,
    object.record = sampleRecord "doc-1" ∧ object.profile.bucketId = "bucket" ∧
      object.request.aad = ∅ := by
  obtain ⟨herrors, husable⟩ :=
    LocalEnvelopeEncryptionService.sampleRequest_answered "" (.inl rfl)
  -- the object's key reference is usable, so that its encryption returns
  obtain ⟨payload, hpayload⟩ := (@LocalEnvelopeEncryptionService.encrypt_isOk_iff default ⟨[]⟩
    sampleKms LocalEnvelopeEncryptionService.sampleDataKey
    LocalEnvelopeEncryptionService.sampleNonce _ _ sampleObjectRequest_valid).mpr
      ⟨herrors, husable, rfl, rfl⟩
  exact ⟨{
    record := sampleRecord "doc-1"
    policySet := sampleBucketPolicySet "bucket"
    retention := sampleRetention "bucket"
    profile := sampleBucket "bucket"
    objectVersionId := "o1"
    storedAtUtc := "2026-01-05T09:00:01Z"
    objectKey := none
    storageProvider := "s3-compatible"
    manifest := sampleStored "bucket"
    raw := sampleObjectRequest
    request := sampleObjectRequest
    dataKey := LocalEnvelopeEncryptionService.sampleDataKey
    nonce := LocalEnvelopeEncryptionService.sampleNonce
    payload := payload
    accepted := sampleRecord_accepted
    retained := sampleRetention_built (List.mem_cons_self ..)
    stored := sampleStored_built (List.mem_cons_self ..)
    subject := ⟨rfl, rfl, rfl, rfl, by decide +kernel, rfl⟩
    valid := sampleObjectRequest_valid
    encrypted := hpayload }, rfl, rfl, rfl⟩

/-! ## Restored content -/

/-- Command, record, storage manifest and envelope manifest name one version of one object. -/
structure EncryptedObjectRestoreDrillCommand.NamesOneVersion
    (command : EncryptedObjectRestoreDrillCommand) : Prop where
  tenant  : command.tenantId = command.record.metadata.tenantId ∧
              command.storageManifest.tenantId = command.record.metadata.tenantId ∧
              command.envelopeManifest.tenantId = command.record.metadata.tenantId
  object  : command.objectId = command.record.metadata.objectId ∧
              command.storageManifest.objectId = command.record.metadata.objectId ∧
              command.envelopeManifest.objectId = command.record.metadata.objectId
  version : command.sourceVersionId = command.record.metadata.versionId ∧
              command.storageManifest.sourceVersionId = command.record.metadata.versionId ∧
              command.envelopeManifest.sourceVersionId = command.record.metadata.versionId

namespace RestoreDrillRunner

/-- A decryption request keeps the key reference it is given. -/
theorem kmsKeyRef_of_validate {raw request : EnvelopeDecryptionRequest}
    (h : raw.validate = .ok request) : request.kmsKeyRef = raw.kmsKeyRef := by
  rw [← (accept_eq_ok.mp h).2, EnvelopeDecryptionRequest.normalized]

/-- A decryption that returned used a reference that is not destroyed. -/
theorem kept_of_decrypt {service : LocalEnvelopeEncryptionService} {kms : LocalKmsAdapter}
    {request : EnvelopeDecryptionRequest} {decryption : EnvelopeDecryptionResult}
    (h : service.decrypt H kms request = .ok decryption) :
    Text.strip request.kmsKeyRef ∉ kms.destroyedKeyRefs := by
  obtain ⟨_, _, _, -, hkms, -⟩ := LocalEnvelopeEncryptionService.decrypt_eq_ok.mp h
  intro hdestroyed
  exact @KmsCall.validate_refuses _ _
    (LocalEnvelopeEncryptionService.decryptionKmsRequest request) _ hdestroyed hkms

/-- **A drill releases only the original content.** The content of the record, the
restored content and the decrypted plaintext are the same bytes, all parties name
one version, and the key that decrypted is the storage manifest's, not destroyed. -/
theorem restored_content_original (hinj : Function.Injective H.sha256)
    {runner : RestoreDrillRunner} {kms : LocalKmsAdapter}
    {command : EncryptedObjectRestoreDrillCommand} {report : RestoreDrillReport}
    (hwritable : SourceObjectWriteGuard.validateBeforeWrite H command.record = .ok ())
    (h : runner.verifyEncryptedObjectRestore H kms command = .ok report) :
    ∃ service request decryption, runner.envelopeService = some service ∧
      (decryptionRequest command).validate = .ok request ∧
      service.decrypt H kms request = .ok decryption ∧
      request.ciphertext = command.envelopeCiphertext ∧
      decryption.plaintext = sourceObjectContentBytes command.record ∧
      command.restoredContent = sourceObjectContentBytes command.record ∧
      command.NamesOneVersion ∧
      request.kmsKeyRef = command.storageManifest.kmsKeyRef ∧
      Text.strip request.kmsKeyRef ∉ kms.destroyedKeyRefs := by
  obtain ⟨service, storageResult, request, decryption, _, hservice, hrecord, henvelope, hstorage,
    hrequest, hdecryption, -, hcontent, -, -⟩ := verifyEncryptedObjectRestore_eq_ok.mp h
  have hrestored : command.restoredContent = sourceObjectContentBytes command.record :=
    content_of_verify hinj hwritable hstorage
  have hplaintext : decryption.plaintext = sourceObjectContentBytes command.record := by
    obtain ⟨_, _, plaintext, -, -, -, rfl⟩ :=
      LocalEnvelopeEncryptionService.decrypt_eq_ok.mp hdecryption
    -- the plaintext hash the service reports is the hash of its plaintext
    rw [← hrestored]
    exact (computeContentHash_injective hinj hcontent).symm
  have hciphertext : request.ciphertext = command.envelopeCiphertext := by
    rw [← (accept_eq_ok.mp hrequest).2, EnvelopeDecryptionRequest.normalized, decryptionRequest]
  obtain ⟨htenant, hobject, hversion⟩ :=
    RestoreDrillCommandBase.requireMatchesRecord_eq_ok.mp hrecord
  have hmatches := (requireEnvelopeManifestMatchesStorage_eq_ok.mp henvelope).2
  obtain ⟨-, -, hsource, -⟩ := verifyStorageObjectRestore_isOk_iff.mp ⟨_, hstorage⟩
  refine ⟨service, request, decryption, hservice, hrequest, hdecryption, hciphertext, hplaintext,
    hrestored, ⟨⟨htenant, hsource.tenantId, ?_⟩, ⟨hobject, hsource.objectId, ?_⟩,
      ⟨hversion, hsource.sourceVersionId, ?_⟩⟩, kmsKeyRef_of_validate hrequest,
    kept_of_decrypt hdecryption⟩
  · rw [hmatches.tenantId, hsource.tenantId]
  · rw [hmatches.objectId, hsource.objectId]
  · rw [hmatches.sourceVersionId, hsource.sourceVersionId]

/-- The drill of the sample object, with the envelope of its encryption. -/
theorem sample_restored_content_original :
    ∃ (command : EncryptedObjectRestoreDrillCommand) (request : EnvelopeDecryptionRequest)
      (decryption : EnvelopeDecryptionResult),
      LocalEnvelopeEncryptionService.decrypt default ⟨[]⟩ sampleKms request = .ok decryption ∧
      decryption.plaintext = sourceObjectContentBytes command.record ∧
      command.restoredContent = sourceObjectContentBytes command.record ∧
      command.NamesOneVersion ∧ request.kmsKeyRef = command.storageManifest.kmsKeyRef ∧
      Text.strip request.kmsKeyRef ∉ sampleKms.destroyedKeyRefs := by
  obtain ⟨object, -, hbucket, -⟩ := sample_object
  have hclean : Text.strip object.profile.bucketId = object.profile.bucketId := by
    rw [hbucket]
    decide +kernel
  obtain ⟨report, hreport, -⟩ := @StoredObject.fresh_restorable _ _ _ object hasDigests_default
    ⟨some ⟨[]⟩⟩ _ rfl LocalEnvelopeEncryptionService.sampleCaller_accepted hclean
  have hwritable : SourceObjectWriteGuard.validateBeforeWrite default (object.drill
      object.payload.manifest LocalEnvelopeEncryptionService.sampleCaller).record = .ok () :=
    object.accepted.writable
  obtain ⟨_, request, decryption, hservice, -, hdecryption, -, hrest⟩ :=
    restored_content_original (fun _ _ h => h) hwritable hreport
  cases hservice
  exact ⟨_, request, decryption, hdecryption, hrest⟩

end RestoreDrillRunner

end Collabio
