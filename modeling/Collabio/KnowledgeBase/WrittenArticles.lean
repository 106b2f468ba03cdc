import Mathlib.Tactic
import Collabio.KnowledgeBase.StaleApprovals
import Collabio.KnowledgeBase.GuardSoundness
import Collabio.Storage.StorageManifestSpec

/-!
# What a checked write puts in the stores

* `proposed_of_blockingReasons`, `article_of_blockingReasons` — what the guard has compared;
* `Written`                           — what a written article is;
* `applyEdit_returns`, `applyCreate_returns` — a checked write is applied;
* `written_of_edit`, `written_of_create`     — and its article agrees with its source.
-/

namespace Collabio

open KnowledgeBaseWorld

variable {H : HashFunctions}

/-! ## References -/

theorem isSha256Ref_computeContentHash {content : Bytes} (h : (H.sha256 content).length = 32) :
    isSha256Ref (computeContentHash H content) = true := by
  have hlist : (computeContentHash H content).toList =
      "sha256:".toList ++ Text.hexChars (H.sha256 content) := by
    simp [computeContentHash, hexdigest, String.toList_append]
  have hsplit : ∀ rest, ("sha256:".toList ++ rest).take 7 = "sha256:".toList ∧
      ("sha256:".toList ++ rest).drop 7 = rest := fun rest => ⟨rfl, rfl⟩
  unfold isSha256Ref
  rw [hlist, (hsplit _).1, (hsplit _).2]
  simp only [beq_self_eq_true, Bool.true_and, Bool.and_eq_true, beq_iff_eq, List.all_eq_true]
  refine ⟨by rw [Text.length_hexChars, h], fun c hc => ?_⟩
  obtain ⟨n, hn, rfl⟩ := Text.mem_hexChars hc
  exact (hexDigit_spec n hn).1

/-- A digest of 32 bytes is a reference of either kind. -/
theorem isKbRef_of_digest {content : Bytes} (h : (H.sha256 content).length = 32) :
    isKbRef (computeContentHash H content) = true := by
  refine isKbRef_computeContentHash ?_
  intro hnil
  rw [hnil] at h
  cases h

/-- A well-formed hash is a reference. -/
theorem isKbRef_of_isSha256Ref {value : String} (h : isSha256Ref value = true) :
    isKbRef value = true := by
  unfold isSha256Ref at h
  simp only [Bool.and_eq_true, beq_iff_eq, List.all_eq_true] at h
  obtain ⟨⟨hscheme, hlength⟩, hdigits⟩ := h
  have hvalue : value.toList = "sha256:".toList ++ value.toList.drop 7 := by
    rw [← hscheme, List.take_append_drop]
  have hsplit : ∀ rest, ("sha256:".toList ++ rest).takeWhile isSchemeChar = "sha256".toList ∧
      ("sha256:".toList ++ rest).dropWhile isSchemeChar = ':' :: rest := fun rest => ⟨rfl, rfl⟩
  have hne : value.toList.drop 7 ≠ [] := by
    intro hnil
    rw [hnil] at hlength
    cases hlength
  have hline : ∀ c ∈ value.toList.drop 7, c ≠ '\n' := by
    rintro c hc rfl
    exact absurd (hdigits _ hc) (by decide)
  unfold isKbRef
  rw [hvalue, (hsplit _).1, (hsplit _).2]
  simp only [Bool.and_eq_true, bne_iff_ne, ne_eq, List.all_eq_true]
  exact ⟨by decide, hne, hline⟩

/-- A reference is some text of one line. -/
theorem line_of_isKbRef {value : String} (h : isKbRef value = true) :
    value.toList ≠ [] ∧ ∀ c ∈ value.toList, c ≠ '\n' := by
  unfold isKbRef at h
  simp only [Bool.and_eq_true] at h
  obtain ⟨-, h⟩ := h
  split at h
  · rename_i rest hrest
    simp only [Bool.and_eq_true, bne_iff_ne, ne_eq, List.all_eq_true] at h
    have hvalue := (List.takeWhile_append_dropWhile (p := isSchemeChar) (l := value.toList)).symm
    rw [hrest] at hvalue
    refine ⟨fun hnil => ?_, fun c hc => ?_⟩
    · rw [hnil] at hrest
      cases hrest
    · rw [hvalue, List.mem_append, List.mem_cons] at hc
      rcases hc with hc | rfl | hc
      · rintro rfl
        exact absurd (List.mem_takeWhile_imp hc) (by decide)
      · decide
      · exact h.2 c hc
  · cases h

/-- A text of one line behind a scheme is a reference. -/
theorem isKbRef_behind {value : String} (h : value.toList ≠ [] ∧ ∀ c ∈ value.toList, c ≠ '\n') :
    isKbRef ("audit:" ++ value) = true ∧ isKbRef ("guard:" ++ value) = true := by
  have haudit : ∀ rest, ("audit:".toList ++ rest).takeWhile isSchemeChar = "audit".toList ∧
      ("audit:".toList ++ rest).dropWhile isSchemeChar = ':' :: rest := fun rest => ⟨rfl, rfl⟩
  have hguard : ∀ rest, ("guard:".toList ++ rest).takeWhile isSchemeChar = "guard".toList ∧
      ("guard:".toList ++ rest).dropWhile isSchemeChar = ':' :: rest := fun rest => ⟨rfl, rfl⟩
  have hrest : (value.toList != [] && value.toList.all (· != '\n')) = true := by
    simp only [Bool.and_eq_true, bne_iff_ne, ne_eq, List.all_eq_true]
    exact h
  constructor
  · unfold isKbRef
    rw [String.toList_append, (haudit _).1, (haudit _).2]
    exact hrest
  · unfold isKbRef
    rw [String.toList_append, (hguard _).1, (hguard _).2]
    exact hrest

/-! ## What the guard has compared -/

theorem RecordSound.hold {tenantId : String} {evidence : KnowledgeBaseWriteApprovalEvidence}
    {record : SourceObjectRecord} (h : RecordSound H tenantId evidence record) :
    record.metadata.legalHoldState.value = "none" := by
  have hnot := h.noHold
  cases hstate : record.metadata.legalHoldState with
  | none => rfl
  | active => exact absurd hstate hnot

namespace KnowledgeBaseSourceObjectWriteGuard

variable {tenantId : String} {evidence : KnowledgeBaseWriteApprovalEvidence}
variable {currentArticle : Option KnowledgeBaseArticleRecord} {record : SourceObjectRecord}
variable {restore : KnowledgeBaseRestoreEvidence}

/-- The record's own evidence has the approved hash. -/
theorem proposed_of_blockingReasons
    (h : blockingReasons H tenantId evidence currentArticle record restore = .ok []) :
    ∃ proposed, buildSourceVersionEvidenceForSourceRecord H tenantId evidence.articleObjectId
        evidence.proposedVersionObjectId record = .ok proposed ∧
      proposed.evidenceHash = evidence.proposedSourceVersionEvidenceHash := by
  obtain ⟨guardReasons, -, h⟩ := Except.bind_eq_ok.mp h
  obtain ⟨proposed, hproposed, h⟩ := Except.bind_eq_ok.mp h
  simp only [pure, Except.pure, Except.ok.injEq, List.append_eq_nil_iff, mismatch_eq_nil] at h
  exact ⟨proposed, hproposed, h.1.2⟩

/-- The article that is edited is of the approved version, and free. -/
theorem article_of_blockingReasons {article : KnowledgeBaseArticleRecord}
    (h : blockingReasons H tenantId evidence (some article) record restore = .ok []) :
    evidence.operation = .edit ∧ article.tenantId = tenantId ∧
      article.objectId = evidence.articleObjectId ∧
      some article.currentVersionObjectId = evidence.expectedCurrentVersionObjectId ∧
      article.legalHoldState = "none" ∧ article.retentionPolicyId = "rp-standard" := by
  obtain ⟨guardReasons, -, h⟩ := Except.bind_eq_ok.mp h
  obtain ⟨proposed, -, h⟩ := Except.bind_eq_ok.mp h
  simp only [pure, Except.pure, Except.ok.injEq, List.append_eq_nil_iff] at h
  obtain ⟨⟨⟨⟨⟨-, hversion⟩, -⟩, -⟩, -⟩, -⟩ := h
  rw [expectedVersionReasons] at hversion
  split at hversion
  · cases hversion
  · rename_i hoperation
    simp only [List.append_eq_nil_iff, mismatch_eq_nil] at hversion
    obtain ⟨⟨⟨⟨htenant, hobject⟩, hcurrent⟩, hhold⟩, hretention⟩ := hversion
    refine ⟨?_, htenant, hobject, hcurrent, ?_, hretention⟩
    · cases hvalue : evidence.operation with
      | create => exact absurd hvalue hoperation
      | edit => rfl
    · rcases article.holdIsKnown with hnone | hactive
      · exact hnone
      · exact absurd hactive hhold

end KnowledgeBaseSourceObjectWriteGuard

namespace KnowledgeBaseArticleService

variable {service : KnowledgeBaseArticleService} {world : KnowledgeBaseWorld} {user : UserContext}
variable {command : KnowledgeBaseWriteExecutionCommand} {now : String} {prepared : PreparedWrite}

/-! ## The article -/

/-- What a written article is, whether created or edited. -/
structure Written (H : HashFunctions) (tenantId : String)
    (evidence : KnowledgeBaseWriteApprovalEvidence) (record : SourceObjectRecord)
    (article : KnowledgeBaseArticleRecord) : Prop where
  key     : article.key = (tenantId, evidence.articleObjectId)
  version : article.currentVersionObjectId = evidence.proposedVersionObjectId
  source  : article.currentSourceObjectId = evidence.proposedSourceObjectId ∧
              article.currentSourceVersionId = evidence.proposedSourceVersionId
  agrees  : sourceVersionMismatches H article record = []

/-- The hashes of a record that the guard lets pass are its own. -/
theorem ownHashes_of_writable {record : SourceObjectRecord}
    (hguard : SourceObjectWriteGuard.validateBeforeWrite H record = .ok ())
    (hstripped : Text.strip record.metadata.contentHash = record.metadata.contentHash) :
    record.metadata.manifestHash = buildSourceObjectManifestHash H record.metadata ∧
      record.metadata.contentHash = computeContentHash H (sourceObjectContentBytes record) := by
  obtain ⟨-, hcontent⟩ := SourceObjectWriteGuard.contentHash_of_writable hguard
  rw [hstripped] at hcontent
  obtain ⟨_, -, hguard⟩ := Except.bind_eq_ok.mp hguard
  obtain ⟨_, -, hguard⟩ := Except.bind_eq_ok.mp hguard
  obtain ⟨_, -, hguard⟩ := Except.bind_eq_ok.mp hguard
  exact ⟨require_eq_ok.mp hguard, hcontent.symm⟩

theorem requireSourceRecordMatchesWriteEvidence_of_sound {tenantId : String}
    {evidence : KnowledgeBaseWriteApprovalEvidence} {record : SourceObjectRecord}
    (h : RecordSound H tenantId evidence record) :
    requireSourceRecordMatchesWriteEvidence tenantId evidence record = .ok record.metadata := by
  unfold requireSourceRecordMatchesWriteEvidence
  simp only [require_bind_eq_ok]
  exact ⟨h.tenantId, h.objectId, h.versionId, h.objectType, h.manifestHash, h.contentHash,
    h.aclVersion, rfl⟩

section

variable {tenantId auditChainRef : String} {evidence : KnowledgeBaseWriteApprovalEvidence}
variable {record : SourceObjectRecord} {repository : InMemoryKnowledgeBaseArticleRepository}

/-- An edit of a free article of the approved version is applied. -/
theorem applyEdit_returns {existing : KnowledgeBaseArticleRecord}
    (hmem : existing ∈ repository.articles)
    (hkey : existing.key = (tenantId, evidence.articleObjectId))
    (hcurrent : some existing.currentVersionObjectId = evidence.expectedCurrentVersionObjectId)
    (hsound : RecordSound H tenantId evidence record) :
    InMemoryKnowledgeBaseArticleRepository.applyEdit tenantId evidence record auditChainRef
      repository = (.ok (editedArticle evidence record.metadata existing auditChainRef),
        repository.replace (editedArticle evidence record.metadata existing auditChainRef)) := by
  have hfound : repository.articles.find? (fun article =>
      article.key = (tenantId, evidence.articleObjectId)) = some existing := by
    cases hfind : repository.articles.find? fun article =>
        article.key = (tenantId, evidence.articleObjectId) with
    | none =>
      have hnone := List.find?_eq_none.mp hfind existing hmem
      simp [hkey] at hnone
    | some found =>
      have hfoundKey : found.key = (tenantId, evidence.articleObjectId) := by
        simpa using List.find?_some hfind
      rw [List.inj_on_of_nodup_map repository.nodup (List.mem_of_find?_eq_some hfind) hmem
        (hfoundKey.trans hkey.symm)]
  have hbuilt : buildEditedArticleFromWriteEvidence tenantId evidence record existing
      auditChainRef = .ok (editedArticle evidence record.metadata existing auditChainRef) :=
    Except.bind_eq_ok.mpr ⟨_, requireSourceRecordMatchesWriteEvidence_of_sound hsound,
      require_bind_eq_ok.mpr ⟨hcurrent, rfl⟩⟩
  unfold InMemoryKnowledgeBaseArticleRepository.applyEdit
  rw [hfound]
  dsimp only
  rw [hbuilt]

theorem written_of_edit {existing : KnowledgeBaseArticleRecord}
    (hkey : existing.key = (tenantId, evidence.articleObjectId))
    (hhold : existing.legalHoldState = "none") (hretention : existing.retentionPolicyId =
      "rp-standard") (hsame : evidence.proposedSourceObjectId = evidence.proposedVersionObjectId)
    (hsound : RecordSound H tenantId evidence record)
    (hown : record.metadata.manifestHash = buildSourceObjectManifestHash H record.metadata ∧
      record.metadata.contentHash = computeContentHash H (sourceObjectContentBytes record)) :
    Written H tenantId evidence record
      (editedArticle evidence record.metadata existing auditChainRef) where
  key := hkey
  version := rfl
  source := ⟨rfl, rfl⟩
  agrees := sourceVersionMismatches_eq_nil.mpr
    ⟨hsound.tenantId.trans (congrArg Prod.fst hkey).symm, hsound.objectId, hsound.versionId,
      hsound.objectId.trans hsame, hsound.objectType, ⟨rfl, hown.1⟩, ⟨rfl, hown.2⟩, rfl,
      hsound.classification.trans existing.isInternal.symm,
      hsound.retention.trans hretention.symm, hsound.hold.trans hhold.symm⟩

/-- A creation under a new id and a new key is applied. -/
theorem applyCreate_returns
    (hfree : (tenantId, evidence.articleObjectId) ∉ repository.articles.map (·.key))
    (hnew : ¬ ∃ article ∈ repository.articles, article.tenantId = tenantId ∧
      article.articleKey = evidence.articleKey)
    (hsound : RecordSound H tenantId evidence record)
    (hsystem : record.metadata.sourceSystem = evidence.sourceSystem)
    {article : KnowledgeBaseArticleRecord}
    (hvalid : KnowledgeBaseArticleRecord.validate (createdArticleFields tenantId evidence
      record.metadata auditChainRef) = .ok article) :
    ∃ fresh, InMemoryKnowledgeBaseArticleRepository.applyCreate tenantId evidence record
      auditChainRef repository = (.ok article, repository.insert article fresh) := by
  have hbuilt : buildCreatedArticleFromWriteEvidence tenantId evidence record auditChainRef =
      .ok article :=
    Except.bind_eq_ok.mpr ⟨_, requireSourceRecordMatchesWriteEvidence_of_sound hsound,
      require_bind_eq_ok.mpr ⟨hsystem, hvalid⟩⟩
  have hfresh : article.key ∉ repository.articles.map (·.key) := by
    rw [key_of_created hbuilt]
    exact hfree
  refine ⟨hfresh, ?_⟩
  unfold InMemoryKnowledgeBaseArticleRepository.applyCreate
  rw [dif_neg hfree, if_neg hnew]
  split
  · rename_i exn hexn
    rw [hbuilt] at hexn
    cases hexn
  · rename_i created hcreated
    obtain rfl : created = article := Except.ok.inj (hcreated.symm.trans hbuilt)
    rfl

theorem written_of_create {article : KnowledgeBaseArticleRecord}
    (hvalid : KnowledgeBaseArticleRecord.validate (createdArticleFields tenantId evidence
      record.metadata auditChainRef) = .ok article)
    (hsame : evidence.proposedSourceObjectId = evidence.proposedVersionObjectId)
    (hsound : RecordSound H tenantId evidence record)
    (hown : record.metadata.manifestHash = buildSourceObjectManifestHash H record.metadata ∧
      record.metadata.contentHash = computeContentHash H (sourceObjectContentBytes record)) :
    Written H tenantId evidence record article := by
  obtain ⟨-, -, hfields⟩ := KnowledgeBaseArticleRecord.validate_eq_ok.mp hvalid
  constructor
  · rw [KnowledgeBaseArticleRecord.key, hfields]
    rfl
  · rw [hfields]
    rfl
  · rw [hfields]
    exact ⟨rfl, rfl⟩
  · rw [sourceVersionMismatches_eq_nil, hfields]
    exact ⟨hsound.tenantId, hsound.objectId, hsound.versionId, hsound.objectId.trans hsame,
      hsound.objectType, ⟨rfl, hown.1⟩, ⟨rfl, hown.2⟩, rfl, rfl, rfl, rfl⟩

/-- **A new article is valid** when its evidence and its source are. -/
theorem createdArticle_valid {executionReference : String}
    (htenant : Text.strip tenantId ≠ "") (hchecked : evidence.Checked)
    (hmanifest : isKbRef evidence.proposedSourceManifestHash = true)
    (hcontent : isKbRef evidence.proposedContentHash = true)
    (hreference : isKbRef executionReference = true)
    (hmetadata : record.metadata.unhashed.validate = .ok record.metadata.unhashed)
    (hsound : RecordSound H tenantId evidence record) :
    ∃ article, KnowledgeBaseArticleRecord.validate (createdArticleFields tenantId evidence
      record.metadata ("audit:" ++ executionReference)) = .ok article := by
  obtain ⟨hnormal, herrors, -⟩ := SourceObjectMetadata.validate_self.mp hmetadata
  obtain ⟨-, -, -, -, howner, hcreator, hcreated, hupdated, -, hkms, -, -, -, -, -, -, hacl, -⟩ :=
    SourceObjectMetadata.errors_eq_nil.mp herrors
  -- what the source's metadata has passed is stripped, and not empty
  have hstripped (field : SourceObjectMetadata → String)
      (hfield : Text.strip (field record.metadata.unhashed) = field record.metadata.unhashed)
      (hne : field record.metadata.unhashed ≠ "") :
      Text.strip (field record.metadata.unhashed) ≠ "" := by
    rw [hfield]
    exact hne
  have htimestamp {value : String} (h : isUtcTimestamp value = true) : value ≠ "" := by
    rintro rfl
    exact absurd h (by decide)
  have herrors : (createdArticleFields tenantId evidence record.metadata
      ("audit:" ++ executionReference)).errors = [] :=
    KnowledgeBaseArticleFields.errors_eq_nil.mpr
      ⟨htenant, hchecked.articleObjectId,
        hstripped (·.ownerPrincipalId) (congrArg SourceObjectMetadata.ownerPrincipalId hnormal)
          howner,
        hstripped (·.createdBy) (congrArg SourceObjectMetadata.createdBy hnormal) hcreator,
        hstripped (·.createdAtUtc) (congrArg SourceObjectMetadata.createdAtUtc hnormal)
          (htimestamp hcreated),
        hstripped (·.updatedAtUtc) (congrArg SourceObjectMetadata.updatedAtUtc hnormal)
          (htimestamp hupdated),
        hsound.classification, hsound.retention, .inl hsound.hold, isKbRef_of_isNamespacedRef hkms,
        (isKbRef_behind (line_of_isKbRef hreference)).1, hchecked.sourceSystem,
        hchecked.articleKey, hchecked.title, hchecked.versionObjectId, hchecked.versionLabel,
        hchecked.sourceObjectId, hchecked.sourceVersionId,
        (congrArg isKbRef hsound.manifestHash).trans hmanifest,
        (congrArg isKbRef hsound.contentHash).trans hcontent, hacl⟩
  have halign : (createdArticleFields tenantId evidence record.metadata
      ("audit:" ++ executionReference)).requireStatusLifecycleAlignment = .ok () := by
    unfold KnowledgeBaseArticleFields.requireStatusLifecycleAlignment requireModel
    refine require_bind_eq_ok.mpr ⟨fun h => ?_, require_bind_eq_ok.mpr ⟨fun h => ?_,
      require_eq_ok.mpr hchecked.sourceIsVersion⟩⟩
    · cases h.1
    · cases h.2
  unfold KnowledgeBaseArticleRecord.validate
  rw [dif_pos herrors]
  exact ⟨_, Except.bind_eq_ok.mpr ⟨(), halign, rfl⟩⟩

end

end KnowledgeBaseArticleService

end Collabio
