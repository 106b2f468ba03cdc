import Mathlib.Tactic
import Collabio.KnowledgeBase.RefreshedEvidence

/-!
# Prepared writes are committed

* `Previewed`            — what the checks of a write have read and projected;
* `applyWrite_refreshes` — the article is written, and what is then read was projected;
* `commitWrite_succeeds` — no call and no check after the first write fails.
-/

namespace Collabio

open KnowledgeBaseWorld

/-- The hashes and references of a command are well formed. -/
theorem KnowledgeBaseWriteExecutionCommand.acceptedRefs
    (command : KnowledgeBaseWriteExecutionCommand) :
    isSha256Ref command.approvedWriteApprovalEvidenceHash = true ∧
      isSha256Ref command.refreshPreviewCommandHash = true ∧
      isSha256Ref command.projectedRestoreEvidencePreviewHash = true ∧
      isSha256Ref command.executionSkeletonCommandHash = true ∧
      isSha256Ref command.executionPlanHash = true ∧
      isKbRef command.executionReference = true ∧
      isKbRef command.humanConfirmationReference = true := by
  have haccepted := command.accepted
  unfold KnowledgeBaseWriteExecutionCommandFields.errors
    KnowledgeBaseWriteExecutionCommandFields.sha256Ref
    KnowledgeBaseWriteExecutionCommandFields.namespacedRef at haccepted
  simp only [List.append_eq_nil_iff, requireFullmatch_eq_nil, and_assoc] at haccepted
  obtain ⟨happroved, hpreview, hprojected, hskeleton, hplan, hreference, hconfirmation, -⟩ :=
    haccepted
  exact ⟨happroved, hpreview, hprojected, hskeleton, hplan, hreference, hconfirmation⟩

namespace KnowledgeBaseArticleService

variable {service : KnowledgeBaseArticleService} {world world' : KnowledgeBaseWorld}
variable {user : UserContext} {command : KnowledgeBaseWriteExecutionCommand} {now : String}
variable {prepared : PreparedWrite}

/-! ## The preview -/

/-- What the checks of a write have read and projected. -/
structure Previewed (service : KnowledgeBaseArticleService) (user : UserContext)
    (world : KnowledgeBaseWorld) (prepared : PreparedWrite) : Prop where
  reads    : ∃ sourceEvidences,
               service.Reads world user.tenantId sourceEvidences prepared.restoreEvidence ∧
               buildProjectedSourceVersionEvidenceHashes prepared.approvedEvidence
                 sourceEvidences = .ok prepared.projectedHashes
  restore  : prepared.restoreEvidence.evidenceHash =
               prepared.approvedEvidence.currentRestoreEvidenceHash
  absent   : sourceObjectAbsent world.sources user.tenantId prepared.approvedEvidence = .ok ()

theorem prepareWrite_previews
    (h : (service.prepareWrite command user now).run world = (.ok prepared, world')) :
    service.Previewed user world prepared := by
  unfold prepareWrite evaluateWriteGuard at h
  obtain ⟨approved, -, h⟩ := (Prog.run_bind_eq_ok_of_run (Prog.run_read _ _)).mp h
  obtain ⟨_, -, h⟩ := (Prog.run_bind_eq_ok_of_run (Prog.run_lift _ _)).mp h
  obtain ⟨_, hrecords, h⟩ := (Prog.run_bind_eq_ok_of_run (run_listRecords _ _)).mp h
  cases hrecords
  obtain ⟨_, -, h⟩ := (Prog.run_bind_eq_ok_of_run (Prog.run_lift _ _)).mp h
  obtain ⟨⟨sourceEvidences, restoreEvidence⟩, hreads, h⟩ :=
    (Prog.run_bind_eq_ok_of_run (run_currentEvidence _ _ _)).mp h
  obtain ⟨_, hrestore, h⟩ := (Prog.run_bind_eq_ok_of_run (Prog.run_lift _ _)).mp h
  obtain ⟨_, -, h⟩ := (Prog.run_bind_eq_ok_of_run (Prog.run_lift _ _)).mp h
  obtain ⟨decision, _, hguard, h⟩ := Prog.run_bind_eq_ok.mp h
  obtain ⟨evidence, -, hguard⟩ := (Prog.run_bind_eq_ok_of_run (Prog.run_read _ _)).mp hguard
  obtain ⟨-, rfl⟩ := Prod.mk.inj hguard
  obtain ⟨_, -, h⟩ := (Prog.run_bind_eq_ok_of_run (Prog.run_lift _ _)).mp h
  obtain ⟨projectedHashes, hprojected, h⟩ :=
    (Prog.run_bind_eq_ok_of_run (Prog.run_lift _ _)).mp h
  obtain ⟨_, -, h⟩ := (Prog.run_bind_eq_ok_of_run (Prog.run_lift _ _)).mp h
  obtain ⟨_, habsent, h⟩ := (Prog.run_bind_eq_ok_of_run (Prog.run_read _ _)).mp h
  obtain ⟨receipt, -, h⟩ := (Prog.run_bind_eq_ok_of_run (Prog.run_lift _ _)).mp h
  obtain ⟨hprepared, rfl⟩ := Prod.mk.inj h
  cases hprepared
  exact ⟨⟨sourceEvidences, hreads, hprojected⟩, require_eq_ok.mp hrestore, habsent⟩

/-- The proposed version is not stored. -/
theorem fresh_of_absent {sources : InMemorySourceObjectRepository} {tenantId : String}
    {evidence : KnowledgeBaseWriteApprovalEvidence}
    (h : sourceObjectAbsent sources tenantId evidence = .ok ()) :
    sources.records.get? (tenantId, evidence.proposedSourceObjectId,
      evidence.proposedSourceVersionId) = none := by
  unfold sourceObjectAbsent InMemorySourceObjectRepository.get at h
  cases hget : sources.records.get? (tenantId, evidence.proposedSourceObjectId,
      evidence.proposedSourceVersionId) with
  | none => rfl
  | some record =>
    rw [hget] at h
    cases h

/-! ## The article -/

section

variable {tenantId auditChainRef : String} {approved : KnowledgeBaseWriteApprovalEvidence}
variable {record : SourceObjectRecord} {article : KnowledgeBaseArticleRecord}
variable {sources : InMemorySourceObjectRepository}

/-- The evidence of a written article is the one that was approved. -/
theorem evidence_of_written (hwritten : Written service.hashes tenantId approved record article)
    (hsound : RecordSound service.hashes tenantId approved record)
    {proposed : KnowledgeBaseSourceVersionEvidence}
    (hproposed : buildSourceVersionEvidenceForSourceRecord service.hashes tenantId
      approved.articleObjectId approved.proposedVersionObjectId record = .ok proposed)
    (hstored : sources.records.get? record.metadata.versionKey = some record) :
    service.sourceVersionEvidenceOf sources article = .ok proposed := by
  obtain ⟨htenant, hobject⟩ := Prod.mk.inj hwritten.key
  have hkey : currentSourceKey article = record.metadata.versionKey := by
    rw [currentSourceKey, SourceObjectMetadata.versionKey, htenant, hwritten.source.1,
      hwritten.source.2, hsound.tenantId, hsound.objectId, hsound.versionId]
  refine sourceVersionEvidenceOf_eq_ok.mpr ⟨record, ?_, hwritten.agrees, ?_⟩
  · rw [hkey]
    exact hstored
  · rw [htenant, hobject, hwritten.version]
    exact hproposed

end

/-- **The article is written**, and what is then read of the tenant was projected. -/
theorem applyWrite_refreshes (hapart : TellsApart service.hashes)
    (hprepared : service.Prepared command user now world prepared)
    (hpreviewed : service.Previewed user world prepared)
    (hchecked : prepared.approvedEvidence.Checked)
    (hrefs : Text.strip user.tenantId ≠ "" ∧
      isKbRef prepared.approvedEvidence.proposedSourceManifestHash = true ∧
      isKbRef prepared.approvedEvidence.proposedContentHash = true)
    (hnew : prepared.approvedEvidence.operation = .create → ¬ ∃ article ∈ world.articles.articles,
      article.tenantId = user.tenantId ∧
        article.articleKey = prepared.approvedEvidence.articleKey)
    {sources' : InMemorySourceObjectRepository}
    (hkept : ∀ key record, world.sources.records.get? key = some record →
      sources'.records.get? key = some record)
    (hstored : sources'.records.get? command.proposedSourceRecord.metadata.versionKey =
      some command.proposedSourceRecord) :
    ∃ article articles' evidence evidences',
      InMemoryKnowledgeBaseArticleRepository.applyWrite user.tenantId prepared.approvedEvidence
        command.proposedSourceRecord (executionAuditChainRef command) world.articles =
          (.ok article, articles') ∧
      Written service.hashes user.tenantId prepared.approvedEvidence command.proposedSourceRecord
        article ∧
      article ∈ articles'.articles ∧
      service.sourceVersionEvidenceOf sources' article = .ok evidence ∧
      evidence.evidenceHash = prepared.approvedEvidence.proposedSourceVersionEvidenceHash ∧
      (service.records articles' user.tenantId).mapM (service.sourceVersionEvidenceOf sources') =
        .ok evidences' ∧
      evidenceHashes evidences' = prepared.projectedHashes ∧ prepared.projectedHashes.Nodup := by
  have hreasons := hprepared.no_reasons hapart
  obtain ⟨-, hsound, -⟩ :=
    KnowledgeBaseSourceObjectWriteGuard.sound_of_blockingReasons hreasons
  obtain ⟨proposed, hproposed, hhash⟩ :=
    KnowledgeBaseSourceObjectWriteGuard.proposed_of_blockingReasons hreasons
  obtain ⟨evidences, hreads, hprojected⟩ := hpreviewed.reads
  obtain ⟨hevidences, -⟩ := currentEvidenceOf_eq_ok.mp hreads
  have hids := nodup_articleObjectIds hevidences
  -- accepted metadata is stripped, and the guard has compared its hashes
  obtain ⟨hnormal, -, -⟩ := SourceObjectMetadata.validate_self.mp command.recordDraft
  have hown := ownHashes_of_writable hsound.guard
    (congrArg SourceObjectMetadata.contentHash hnormal)
  have hreference := command.acceptedRefs.2.2.2.2.2.1
  cases hoperation : prepared.approvedEvidence.operation with
  | create =>
    have hnone : prepared.existingArticle = none := by
      cases hexisting : prepared.existingArticle with
      | none => rfl
      | some existing =>
        rw [hexisting] at hreasons
        have hedit := (KnowledgeBaseSourceObjectWriteGuard.article_of_blockingReasons hreasons).1
        rw [hoperation] at hedit
        cases hedit
    have hfree : (user.tenantId, prepared.approvedEvidence.articleObjectId) ∉
        world.articles.articles.map (·.key) := by
      intro hmem
      obtain ⟨article, harticle, hkey⟩ := List.mem_map.mp hmem
      have hfound := hprepared.existing.symm.trans hnone
      exact findArticle_eq_none.mp hfound article
        (mem_records.mpr ⟨harticle, congrArg Prod.fst hkey⟩) (congrArg Prod.snd hkey)
    obtain ⟨article, hvalid⟩ := createdArticle_valid hrefs.1 hchecked hrefs.2.1 hrefs.2.2
      hreference command.recordDraft hsound
    obtain ⟨fresh, happlied⟩ := @applyCreate_returns _ _ (executionAuditChainRef command) _ _
      world.articles hfree (hnew hoperation) hsound (hsound.sourceSystem hoperation) _ hvalid
    have hwritten := written_of_create hvalid hchecked.sourceIsVersion hsound hown
    have hnewEvidence := evidence_of_written hwritten hsound hproposed hstored
    have hlisted := InMemoryKnowledgeBaseArticleRepository.listArticles_insert fresh
      (congrArg Prod.fst hwritten.key)
    obtain ⟨evidences', hmap, hperm⟩ := evidences_of_create hevidences hkept hlisted hnewEvidence
    obtain ⟨hsame, hunique⟩ := projected_create hoperation hids hprojected hperm hhash
    refine ⟨article, _, proposed, evidences', ?_, hwritten,
      List.mem_append_right _ (List.mem_singleton_self _), hnewEvidence, hhash, hmap, hsame,
      hunique⟩
    rw [InMemoryKnowledgeBaseArticleRepository.applyWrite, hoperation]
    exact happlied
  | edit =>
    cases hexisting : prepared.existingArticle with
    | none =>
      have hnone := KnowledgeBaseSourceObjectWriteGuard.sound_of_blockingReasons hreasons
      rw [hexisting, ArticleFree, hoperation] at hnone
      cases hnone.2.2
    | some existing =>
      rw [hexisting] at hreasons
      obtain ⟨-, htenant, hobject, hcurrent, hfree, hretention⟩ :=
        KnowledgeBaseSourceObjectWriteGuard.article_of_blockingReasons hreasons
      have hkey : existing.key = (user.tenantId, prepared.approvedEvidence.articleObjectId) :=
        Prod.ext htenant hobject
      have hfound := findArticle_eq_some.mp (hprepared.existing.symm.trans hexisting)
      obtain ⟨hmem, -⟩ := mem_records.mp hfound.1
      have happlied := @applyEdit_returns _ _ (executionAuditChainRef command) _ _ world.articles _
        hmem hkey hcurrent hsound
      have hwritten := @written_of_edit _ _ (executionAuditChainRef command) _ _ _ hkey hfree
        hretention hchecked.sourceIsVersion hsound hown
      generalize editedArticle prepared.approvedEvidence command.proposedSourceRecord.metadata
        existing (executionAuditChainRef command) = edited at happlied hwritten
      have hnewEvidence := evidence_of_written hwritten hsound hproposed hstored
      obtain ⟨evidences', hmap, hperm⟩ := evidences_of_edit hevidences hkept
        InMemoryKnowledgeBaseArticleRepository.listArticles_replace
        (congrArg Prod.fst hwritten.key) hnewEvidence
      have hid : proposed.articleObjectId = prepared.approvedEvidence.articleObjectId :=
        (isEvidenceOf hnewEvidence).objectId.trans (congrArg Prod.snd hwritten.key)
      obtain ⟨hsame, hunique⟩ := projected_edit hoperation hids hprojected hperm hhash hid
      have hputs := InMemoryKnowledgeBaseArticleRepository.puts_replace hmem
        (hkey.trans hwritten.key.symm)
      refine ⟨edited, _, proposed, evidences', ?_, hwritten, hputs.mem, hnewEvidence, hhash, hmap,
        hsame, hunique⟩
      rw [InMemoryKnowledgeBaseArticleRepository.applyWrite, hoperation]
      exact happlied

/-! ## The checks after the write -/

/-- The evidence of the written article is found, and is the approved one. -/
theorem requireRefreshed_returns {sources : InMemorySourceObjectRepository}
    {articles : InMemoryKnowledgeBaseArticleRepository} {tenantId : String}
    {approved : KnowledgeBaseWriteApprovalEvidence} {article : KnowledgeBaseArticleRecord}
    {evidence : KnowledgeBaseSourceVersionEvidence}
    {evidences : List KnowledgeBaseSourceVersionEvidence} {hashes : List String}
    {restore : KnowledgeBaseRestoreEvidence}
    (hmap : (service.records articles tenantId).mapM (service.sourceVersionEvidenceOf sources) =
      .ok evidences)
    (hmem : article ∈ articles.articles) (hkey : article.key = (tenantId, approved.articleObjectId))
    (hread : service.sourceVersionEvidenceOf sources article = .ok evidence)
    (hhash : evidence.evidenceHash = approved.proposedSourceVersionEvidenceHash)
    (hhashes : restore.sourceVersionEvidenceHashes = hashes) :
    requireRefreshed approved hashes evidences restore = .ok evidence := by
  obtain ⟨htenant, hobject⟩ := Prod.mk.inj hkey
  have harticle : article ∈ service.records articles tenantId := mem_records.mpr ⟨hmem, htenant⟩
  have hfound : evidences.reverse.find? (fun found =>
      found.articleObjectId = approved.articleObjectId) = some evidence := by
    cases hfind : evidences.reverse.find? fun found =>
        found.articleObjectId = approved.articleObjectId with
    | none =>
      obtain ⟨found, hfoundMem, hfoundRead⟩ := Except.mem_mapM_of_mem hmap harticle
      have hnot := List.find?_eq_none.mp hfind found (List.mem_reverse.mpr hfoundMem)
      rw [(isEvidenceOf hfoundRead).objectId, hobject] at hnot
      simp at hnot
    | some found =>
      -- an evidence of this article id is read of this article
      have hfoundMem := List.mem_reverse.mp (List.mem_of_find?_eq_some hfind)
      have hfoundId : found.articleObjectId = approved.articleObjectId := by
        simpa using List.find?_some hfind
      obtain ⟨other, hother, hotherRead⟩ := Except.mem_of_mem_mapM hmap hfoundMem
      have hsame : other = article := eq_of_objectId hother harticle
        ((isEvidenceOf hotherRead).objectId.symm.trans (hfoundId.trans hobject.symm))
      rw [hsame] at hotherRead
      rw [Except.ok.inj (hotherRead.symm.trans hread)]
  unfold requireRefreshed
  rw [hfound]
  exact require_bind_eq_ok.mpr ⟨hhash, require_bind_eq_ok.mpr ⟨hhashes, rfl⟩⟩

/-- The text of a hash has one line. -/
theorem line_computeContentHash {H : HashFunctions} (content : Bytes) :
    (computeContentHash H content).toList ≠ [] ∧
      ∀ c ∈ (computeContentHash H content).toList, c ≠ '\n' := by
  rw [toList_computeContentHash]
  refine ⟨by simp, fun c hc => ?_⟩
  rw [List.mem_append, List.mem_cons] at hc
  rcases hc with hc | rfl | hc
  · have hscheme : ∀ c ∈ "sha256".toList, c ≠ '\n' := by simp
    exact hscheme c hc
  · decide
  · obtain ⟨n, hn, rfl⟩ := Text.mem_hexChars hc
    exact (hexDigit_spec n hn).2.2

/-- What the ledger has checked of an approval, and the checks of a write have compared. -/
structure ApprovedFor (command : KnowledgeBaseWriteExecutionCommand) (user : UserContext)
    (approved : KnowledgeBaseWriteApprovalEvidence) : Prop where
  checked     : approved.Checked
  tenantId    : Text.strip user.tenantId ≠ ""
  manifest    : isSha256Ref approved.proposedSourceManifestHash = true
  content     : isSha256Ref approved.proposedContentHash = true
  restoreHash : isSha256Ref approved.currentRestoreEvidenceHash = true
  named       : approved.evidenceHash = command.approvedWriteApprovalEvidenceHash

theorem response_valid (hdigests : WriteDigests service.hashes)
    (hprepared : service.Prepared command user now world prepared)
    (hpreviewed : service.Previewed user world prepared)
    (happroved : ApprovedFor command user prepared.approvedEvidence)
    {article : KnowledgeBaseArticleRecord} {record : SourceObjectRecord}
    (hwritten : Written service.hashes user.tenantId prepared.approvedEvidence record article)
    {refreshed : KnowledgeBaseSourceVersionEvidence} {restore : KnowledgeBaseRestoreEvidence}
    (hhash : refreshed.evidenceHash = prepared.approvedEvidence.proposedSourceVersionEvidenceHash)
    (hhashes : restore.sourceVersionEvidenceHashes.Nodup ∧
      ∀ hash ∈ restore.sourceVersionEvidenceHashes, isSha256Ref hash = true)
    (hcount : restore.sourceVersionEvidenceHashes.length = restore.sourceVersionEvidenceCount)
    (hrestore : isSha256Ref restore.evidenceHash = true) (eventId : EventId) :
    (service.executionResponse command user prepared prepared.receipt.receiptHash article refreshed
      restore eventId.value).validate = .ok (service.executionResponse command user prepared
        prepared.receipt.receiptHash article refreshed restore eventId.value) := by
  obtain ⟨hcommand, hpreview, hprojected, hskeleton, hplan, hreference, hconfirmation⟩ :=
    command.acceptedRefs
  have htransition : isSha256Ref
      (prepared.approvedEvidence.transitionSourceEvidenceHash.getD "None") = true := by
    obtain ⟨-, h⟩ := require_bind_eq_ok.mp hprepared.usable
    obtain ⟨-, h⟩ := require_bind_eq_ok.mp h
    obtain ⟨-, h⟩ := require_bind_eq_ok.mp h
    have hsome := require_eq_ok.mp h
    cases hvalue : prepared.approvedEvidence.transitionSourceEvidenceHash with
    | none => exact absurd hvalue hsome
    | some hash => exact happroved.checked.transition hash hvalue
  have hguard :
      isKbRef command.sourceObjectWriteGuardDecision.sourceObjectWriteGuardRef = true := by
    obtain ⟨href, -, -⟩ := requireMatchingGuardDecision_eq_ok hprepared.submitted
    rw [← href]
    exact (isKbRef_behind (line_computeContentHash _)).2
  have hreceipt : isSha256Ref prepared.receipt.receiptHash = true := by
    have hbuilt := hprepared.receipt
    unfold buildSourceObjectWriteReceipt at hbuilt
    obtain ⟨draft, -, hbuilt⟩ := Except.bind_eq_ok.mp hbuilt
    rw [← Except.ok.inj hbuilt]
    exact isSha256Ref_computeContentHash (hdigests.receipts draft)
  have hexecution : isSha256Ref (buildWriteExecutionCommandHash service.hashes command) = true :=
    isSha256Ref_computeContentHash (hdigests.commands _)
  have hafter : KnowledgeBaseWriteExecutionResponse.validateSourceHashes
      restore.sourceVersionEvidenceHashes = [] := by
    unfold KnowledgeBaseWriteExecutionResponse.validateSourceHashes
    rw [if_neg (not_not.mpr hhashes.1), if_neg]
    rw [not_not, List.all_eq_true]
    exact hhashes.2
  have herrors : (service.executionResponse command user prepared prepared.receipt.receiptHash
      article refreshed restore eventId.value).errors = [] := by
    unfold KnowledgeBaseWriteExecutionResponse.errors
      KnowledgeBaseWriteExecutionResponse.notBlank
      KnowledgeBaseWriteExecutionResponse.namespacedRef
      KnowledgeBaseWriteExecutionResponse.sha256Ref
    simp only [List.append_eq_nil_iff, requireFullmatch_eq_nil, requireNotBlank_eq_nil]
    simp only [and_assoc]
    -- field by field: the command, the approval, the article and the evidence after the write
    refine ⟨happroved.tenantId, hreference, hconfirmation, ?_, htransition, hguard, hreceipt,
      hpreview, hprojected, hskeleton, hplan, hexecution, happroved.checked.articleObjectId, ?_, ?_,
      ?_, happroved.checked.sourceHash, ?_, ?_, hrestore, hafter, eventId.notBlank⟩
    · exact (congrArg isSha256Ref happroved.named).trans hcommand
    · intro h
      exact happroved.checked.versionObjectId ((congrArg Text.strip hwritten.version).symm.trans h)
    · intro h
      exact happroved.checked.sourceObjectId
        ((congrArg Text.strip hwritten.source.1).symm.trans h)
    · intro h
      exact happroved.checked.sourceVersionId
        ((congrArg Text.strip hwritten.source.2).symm.trans h)
    · exact (congrArg isSha256Ref hhash).trans happroved.checked.sourceHash
    · exact (congrArg isSha256Ref hpreviewed.restore).trans happroved.restoreHash
  exact Except.bind_eq_ok.mpr ⟨_, accept_eq_ok.mpr ⟨herrors, rfl⟩, Except.bind_eq_ok.mpr
    ⟨(), require_bind_eq_ok.mpr ⟨hhash, require_eq_ok.mpr hcount⟩, rfl⟩⟩

/-! ## The writes -/

/-- The receipt of a write is new in the store. -/
structure ReceiptFresh (prepared : PreparedWrite) (world : KnowledgeBaseWorld) : Prop where
  hash    : world.receipts.receipts.get?
              (prepared.receipt.metadata.tenantId, prepared.receipt.receiptHash) = none
  version : prepared.receipt.metadata.versionKey ∉ world.receipts.objectVersions

/-- What was projected is what is answered, and what is read of the tenant afterwards. -/
structure Refreshed (service : KnowledgeBaseArticleService) (user : UserContext)
    (approved : KnowledgeBaseWriteApprovalEvidence) (projectedHashes : List String)
    (response : KnowledgeBaseWriteExecutionResponse) (world' : KnowledgeBaseWorld) : Prop where
  hash   : response.refreshedSourceVersionEvidenceHash = approved.proposedSourceVersionEvidenceHash
  hashes : response.sourceVersionEvidenceHashesAfter = projectedHashes
  reads  : ∃ sourceEvidences restoreEvidence,
             service.Reads world' user.tenantId sourceEvidences restoreEvidence ∧
             restoreEvidence.sourceVersionEvidenceHashes = projectedHashes ∧
             ∃ evidence ∈ sourceEvidences, evidence.articleObjectId = approved.articleObjectId ∧
               evidence.evidenceHash = approved.proposedSourceVersionEvidenceHash

/-- **A prepared write is committed**: no call and no check after the first write fails. -/
theorem commitWrite_succeeds (hapart : TellsApart service.hashes)
    (hdigests : WriteDigests service.hashes)
    (hprepared : service.Prepared command user now world prepared)
    (hpreviewed : service.Previewed user world prepared)
    (happroved : ApprovedFor command user prepared.approvedEvidence)
    (hnew : prepared.approvedEvidence.operation = .create → ¬ ∃ article ∈ world.articles.articles,
      article.tenantId = user.tenantId ∧
        article.articleKey = prepared.approvedEvidence.articleKey)
    (hfresh : ReceiptFresh prepared world) (eventId : EventId) :
    ∃ response, ((service.commitWrite command user eventId prepared).run world).1 = .ok response ∧
      Refreshed service user prepared.approvedEvidence prepared.projectedHashes response
        ((service.commitWrite command user eventId prepared).run world).2 := by
  have hreasons := hprepared.no_reasons hapart
  obtain ⟨-, hsound, -⟩ :=
    KnowledgeBaseSourceObjectWriteGuard.sound_of_blockingReasons hreasons
  -- receipt
  have hownHash : prepared.receipt.receiptHash =
      buildSourceObjectWriteReceiptHash service.hashes prepared.receipt := by
    have hbuilt := hprepared.receipt
    unfold buildSourceObjectWriteReceipt at hbuilt
    obtain ⟨draft, -, hbuilt⟩ := Except.bind_eq_ok.mp hbuilt
    rw [← Except.ok.inj hbuilt]
    rfl
  have hreceipt : ∃ receipts, InMemorySourceObjectWriteReceiptStore.append service.hashes
      prepared.receipt world.receipts = (.ok prepared.receipt, receipts) := by
    have hpresent : ¬ (world.receipts.receipts.contains (prepared.receipt.metadata.tenantId,
        prepared.receipt.receiptHash) = true ∨
          prepared.receipt.metadata.versionKey ∈ world.receipts.objectVersions) := by
      rintro (h | h)
      · rw [Dict.contains, hfresh.hash] at h
        cases h
      · exact hfresh.version h
    unfold InMemorySourceObjectWriteReceiptStore.append
    rw [if_neg (not_not.mpr hownHash), if_neg hpresent]
    exact ⟨_, rfl⟩
  obtain ⟨receipts, hreceipt⟩ := hreceipt
  -- source
  have habsent : world.sources.records.get? command.proposedSourceRecord.metadata.versionKey =
      none := by
    rw [SourceObjectMetadata.versionKey, hsound.tenantId, hsound.objectId, hsound.versionId]
    exact fresh_of_absent hpreviewed.absent
  have hsource : InMemorySourceObjectRepository.add service.hashes command.proposedSourceRecord
      world.sources = (.ok (), world.sources.insert command.proposedSourceRecord habsent) :=
    InMemorySourceObjectRepository.add_eq_ok.mpr ⟨hsound.guard, habsent, rfl⟩
  have hkept : ∀ key record, world.sources.records.get? key = some record →
      (world.sources.insert command.proposedSourceRecord habsent).records.get? key =
        some record := by
    intro key record hget
    have hne : key ≠ command.proposedSourceRecord.metadata.versionKey := by
      rintro rfl
      rw [habsent] at hget
      cases hget
    exact (Dict.get?_set_ne _ _ hne).trans hget
  have hstored : (world.sources.insert command.proposedSourceRecord habsent).records.get?
      command.proposedSourceRecord.metadata.versionKey = some command.proposedSourceRecord :=
    Dict.get?_set_self ..
  generalize world.sources.insert command.proposedSourceRecord habsent = sources' at *
  -- article, and what is read afterwards
  obtain ⟨article, articles', evidence, evidences', happlied, hwritten, hmem, hread, hhash, hmap,
    hprojected, hunique⟩ := applyWrite_refreshes hapart hprepared hpreviewed happroved.checked
      ⟨happroved.tenantId, isKbRef_of_isSha256Ref happroved.manifest,
        isKbRef_of_isSha256Ref happroved.content⟩ hnew hkept hstored
  obtain ⟨evidences, hbefore, -⟩ := hpreviewed.reads
  have huniqueHashes : (evidenceHashes evidences').Nodup := by
    rw [hprojected]
    exact hunique
  obtain ⟨restore, hafter, hhashes, hcount, hrestore, hrefs⟩ :=
    @restore_returns service user.tenantId evidences' hdigests evidences prepared.restoreEvidence
      world { world with sources := sources', articles := articles' } hbefore hmap huniqueHashes
  have hrefreshed := requireRefreshed_returns hmap hmem hwritten.key hread hhash
    (hhashes.trans hprojected)
  have hresponse := response_valid hdigests hprepared hpreviewed happroved hwritten hhash
    ⟨by rw [hhashes]; exact huniqueHashes, by rw [hhashes]; exact hrefs⟩
    (by rw [hhashes, hcount]) hrestore eventId
  have hrun := commitWrite_run hreceipt hsource happlied hafter hrefreshed hresponse
  refine ⟨_, hrun, hhash, hhashes.trans hprojected, evidences', restore, ?_,
    hhashes.trans hprojected, ?_⟩
  · -- the state that is left has the source and the article that were written
    have hcommitted := commitWrite_returns (Prod.ext hrun rfl)
    obtain ⟨_, hwrittenArticle⟩ := hcommitted.articles
    have hsources := congrArg Prod.snd (hcommitted.sources.symm.trans hsource)
    have harticles := congrArg Prod.snd (hwrittenArticle.symm.trans happlied)
    dsimp only at hsources harticles
    rw [Reads, hsources, harticles]
    exact hafter
  · obtain ⟨htenant, hobject⟩ := Prod.mk.inj hwritten.key
    obtain ⟨found, hfound, hfoundRead⟩ := Except.mem_mapM_of_mem hmap
      (mem_records.mpr ⟨hmem, htenant⟩)
    have hsame : evidence = found := Except.ok.inj (hread.symm.trans hfoundRead)
    rw [← hsame] at hfound
    exact ⟨evidence, hfound, (isEvidenceOf hread).objectId.trans hobject, hhash⟩

end KnowledgeBaseArticleService

end Collabio
