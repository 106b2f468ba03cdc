import Mathlib.Tactic
import Collabio.KnowledgeBase.SuccessfulWrites
import Collabio.Storage.SourceLedgers

/-!
# What an execution does to the stores

A creation builds its article from the evidence and the source's metadata, an edit from the
article that is there; the edit leaves key and title as they are, whatever was approved.

* `Prepared`             — what the checks of a write have established;
* `Committed`            — the store calls that follow;
* `executeWrite_returns` — an execution that returns is the one after the other;
* `write_applied_iff`    — when the stored article carries all that was approved.
-/

namespace Collabio

open KnowledgeBaseWorld

namespace KnowledgeBaseArticleService

variable {service : KnowledgeBaseArticleService}

/-! ## The checks -/

/-- What the checks of a write have established. -/
structure Prepared (service : KnowledgeBaseArticleService)
    (command : KnowledgeBaseWriteExecutionCommand) (user : UserContext) (now : String)
    (world : KnowledgeBaseWorld) (prepared : PreparedWrite) : Prop where
  approved  : world.ledger.get? (user.tenantId, command.approvedWriteApprovalEvidenceHash) =
                some prepared.approvedEvidence
  usable    : service.requireRefreshPreviewApprovedEvidence prepared.approvedEvidence = .ok ()
  target    : requireExecutionTarget prepared.approvedEvidence
                (service.records world.articles user.tenantId) = .ok ()
  existing  : prepared.existingArticle = findArticle (service.records world.articles user.tenantId)
                prepared.approvedEvidence.articleObjectId
  submitted : service.requireMatchingGuardDecision prepared.approvedEvidence
                command.sourceObjectWriteGuardDecision = .ok ()
  /-- The guard has read the evidence from the ledger again. -/
  decided   : ∃ evidence decision,
                world.ledger.get? (user.tenantId, prepared.approvedEvidence.evidenceHash) =
                  some evidence ∧
                KnowledgeBaseSourceObjectWriteGuard.decide service.hashes user.tenantId evidence
                  prepared.existingArticle command.proposedSourceRecord prepared.restoreEvidence =
                    .ok decision ∧
                decision.sourceObjectWriteGuardRef =
                  command.sourceObjectWriteGuardDecision.sourceObjectWriteGuardRef
  receipt   : buildSourceObjectWriteReceipt service.hashes command.proposedSourceRecord
                ("receipt:" ++ command.executionReference) (executionAuditChainRef command) now =
                  .ok prepared.receipt

theorem prepareWrite_returns {command : KnowledgeBaseWriteExecutionCommand} {user : UserContext}
    {now : String} {world world' : KnowledgeBaseWorld} {prepared : PreparedWrite}
    (h : (service.prepareWrite command user now).run world = (.ok prepared, world')) :
    service.Prepared command user now world prepared ∧ world' = world := by
  unfold prepareWrite evaluateWriteGuard at h
  obtain ⟨approved, hget, h⟩ := (Prog.run_bind_eq_ok_of_run (Prog.run_read _ _)).mp h
  obtain ⟨_, husable, h⟩ := (Prog.run_bind_eq_ok_of_run (Prog.run_lift _ _)).mp h
  obtain ⟨_, hrecords, h⟩ := (Prog.run_bind_eq_ok_of_run (run_listRecords _ _)).mp h
  cases hrecords
  obtain ⟨_, htarget, h⟩ := (Prog.run_bind_eq_ok_of_run (Prog.run_lift _ _)).mp h
  obtain ⟨⟨sourceEvidences, restoreEvidence⟩, -, h⟩ :=
    (Prog.run_bind_eq_ok_of_run (run_currentEvidence _ _ _)).mp h
  obtain ⟨_, -, h⟩ := (Prog.run_bind_eq_ok_of_run (Prog.run_lift _ _)).mp h
  obtain ⟨_, hsubmitted, h⟩ := (Prog.run_bind_eq_ok_of_run (Prog.run_lift _ _)).mp h
  -- the guard: another read of the ledger, and the decision
  obtain ⟨decision, _, hguard, h⟩ := Prog.run_bind_eq_ok.mp h
  obtain ⟨evidence, hreread, hguard⟩ := (Prog.run_bind_eq_ok_of_run (Prog.run_read _ _)).mp hguard
  obtain ⟨hdecided, rfl⟩ := Prod.mk.inj hguard
  obtain ⟨_, hsame, h⟩ := (Prog.run_bind_eq_ok_of_run (Prog.run_lift _ _)).mp h
  obtain ⟨projectedHashes, -, h⟩ := (Prog.run_bind_eq_ok_of_run (Prog.run_lift _ _)).mp h
  obtain ⟨_, -, h⟩ := (Prog.run_bind_eq_ok_of_run (Prog.run_lift _ _)).mp h
  obtain ⟨_, -, h⟩ := (Prog.run_bind_eq_ok_of_run (Prog.run_read _ _)).mp h
  obtain ⟨receipt, hreceipt, h⟩ := (Prog.run_bind_eq_ok_of_run (Prog.run_lift _ _)).mp h
  obtain ⟨hprepared, rfl⟩ := Prod.mk.inj h
  cases hprepared
  exact ⟨⟨ledgerGet_eq_ok.mp hget, husable, htarget, rfl, hsubmitted,
    ⟨evidence, decision, ledgerGet_eq_ok.mp hreread, hdecided, require_eq_ok.mp hsame⟩, hreceipt⟩,
    rfl⟩

/-! ## The writes -/

/-- The three stores that a write changes. -/
structure Committed (service : KnowledgeBaseArticleService)
    (command : KnowledgeBaseWriteExecutionCommand) (user : UserContext) (prepared : PreparedWrite)
    (world world' : KnowledgeBaseWorld) : Prop where
  ledger   : world'.ledger = world.ledger
  receipts : ∃ receipt, InMemorySourceObjectWriteReceiptStore.append service.hashes
               prepared.receipt world.receipts = (.ok receipt, world'.receipts)
  sources  : InMemorySourceObjectRepository.add service.hashes command.proposedSourceRecord
               world.sources = (.ok (), world'.sources)
  articles : ∃ article, InMemoryKnowledgeBaseArticleRepository.applyWrite user.tenantId
               prepared.approvedEvidence command.proposedSourceRecord
               (executionAuditChainRef command) world.articles = (.ok article, world'.articles)

theorem commitWrite_returns {command : KnowledgeBaseWriteExecutionCommand} {user : UserContext}
    {eventId : EventId} {prepared : PreparedWrite} {world world' : KnowledgeBaseWorld}
    {response : KnowledgeBaseWriteExecutionResponse}
    (h : (service.commitWrite command user eventId prepared).run world = (.ok response, world')) :
    service.Committed command user prepared world world' := by
  unfold commitWrite at h
  obtain ⟨receipt, _, hreceipt, h⟩ := Prog.run_bind_eq_ok.mp h
  obtain ⟨happended, rfl⟩ := Prod.mk.inj hreceipt
  obtain ⟨_, _, hsource, h⟩ := Prog.run_bind_eq_ok.mp h
  obtain ⟨hadded, rfl⟩ := Prod.mk.inj hsource
  obtain ⟨article, _, harticle, h⟩ := Prog.run_bind_eq_ok.mp h
  obtain ⟨happlied, rfl⟩ := Prod.mk.inj harticle
  -- what follows reads, and adds an audit event
  obtain ⟨_, -, h⟩ := (Prog.run_bind_eq_ok_of_run (run_listRecords _ _)).mp h
  obtain ⟨_, -, h⟩ := (Prog.run_bind_eq_ok_of_run (run_currentEvidence _ _ _)).mp h
  obtain ⟨_, -, h⟩ := (Prog.run_bind_eq_ok_of_run (Prog.run_lift _ _)).mp h
  obtain ⟨event, _, hrecord, h⟩ := Prog.run_bind_eq_ok.mp h
  obtain ⟨-, rfl⟩ := Prod.mk.inj h
  obtain ⟨hledger, hreceipts, hsources, harticles⟩ := stores_eq_iff.mp (stores_of_recordAudit hrecord)
  exact {
    ledger := hledger
    receipts := ⟨receipt, Prod.ext happended hreceipts.symm⟩
    sources := Prod.ext hadded hsources.symm
    articles := ⟨article, Prod.ext happlied harticles.symm⟩ }

/-- **An execution that returns** has made its checks on the stores as they were, and has then
written to three of them. -/
theorem executeWrite_returns {command : KnowledgeBaseWriteExecutionCommand} {user : UserContext}
    {eventId : EventId} {now : String} {world world' : KnowledgeBaseWorld}
    {response : KnowledgeBaseWriteExecutionResponse}
    (h : (service.executeWrite command user eventId now).run world = (.ok response, world')) :
    ∃ prepared, service.Prepared command user now world prepared ∧
      service.Committed command user prepared world world' := by
  obtain ⟨prepared, _, hprepare, hcommit⟩ := Prog.run_bind_eq_ok.mp h
  obtain ⟨hprepared, rfl⟩ := prepareWrite_returns hprepare
  exact ⟨prepared, hprepared, commitWrite_returns hcommit⟩

end KnowledgeBaseArticleService

/-! ## Store calls that return -/

/-- A receipt is for the record it was built of. -/
theorem versionKey_of_receipt {H : HashFunctions} {record : SourceObjectRecord}
    {receiptReference auditChainRef now : String} {receipt : SourceObjectWriteReceipt}
    (h : buildSourceObjectWriteReceipt H record receiptReference auditChainRef now = .ok receipt) :
    receipt.metadata.versionKey = record.metadata.normalized.versionKey := by
  unfold buildSourceObjectWriteReceipt at h
  obtain ⟨draft, hdraft, h⟩ := Except.bind_eq_ok.mp h
  cases h
  obtain ⟨-, rfl⟩ := accept_eq_ok.mp hdraft
  rfl

/-- The comparisons of a write's source record with its evidence. -/
theorem requireSourceRecordMatchesWriteEvidence_eq_ok {tenantId : String}
    {evidence : KnowledgeBaseWriteApprovalEvidence} {record : SourceObjectRecord}
    {metadata : SourceObjectMetadata}
    (h : requireSourceRecordMatchesWriteEvidence tenantId evidence record = .ok metadata) :
    metadata = record.metadata ∧
      metadata.manifestHash = evidence.proposedSourceManifestHash ∧
      metadata.contentHash = evidence.proposedContentHash ∧
      metadata.aclVersion = evidence.proposedAclVersion := by
  obtain ⟨-, h⟩ := require_bind_eq_ok.mp h
  obtain ⟨-, h⟩ := require_bind_eq_ok.mp h
  obtain ⟨-, h⟩ := require_bind_eq_ok.mp h
  obtain ⟨-, h⟩ := require_bind_eq_ok.mp h
  obtain ⟨hmanifest, h⟩ := require_bind_eq_ok.mp h
  obtain ⟨hcontent, h⟩ := require_bind_eq_ok.mp h
  obtain ⟨hacl, h⟩ := require_bind_eq_ok.mp h
  cases h
  exact ⟨rfl, hmanifest, hcontent, hacl⟩

/-! ## The article -/

/-- The article has what the evidence approves. -/
structure CarriesApproved (evidence : KnowledgeBaseWriteApprovalEvidence)
    (article : KnowledgeBaseArticleRecord) : Prop where
  articleKey       : article.articleKey = evidence.articleKey
  title            : article.title = evidence.title
  versionObjectId  : article.currentVersionObjectId = evidence.proposedVersionObjectId
  versionLabel     : article.currentVersionLabel = evidence.proposedVersionLabel
  sourceObjectId   : article.currentSourceObjectId = evidence.proposedSourceObjectId
  sourceVersionId  : article.currentSourceVersionId = evidence.proposedSourceVersionId
  sourceObjectType : article.currentSourceObjectType = evidence.proposedSourceObjectType
  manifestHash     : article.currentSourceManifestHash = evidence.proposedSourceManifestHash
  contentHash      : article.currentContentHash = evidence.proposedContentHash
  aclVersion       : article.currentAclVersion = evidence.proposedAclVersion

/-- The articles but for the one that is written. -/
def otherArticles (repository : InMemoryKnowledgeBaseArticleRepository) (key : ObjectKey) :
    List KnowledgeBaseArticleRecord :=
  repository.articles.filter fun article => article.key ≠ key

/-- The written article carries what was approved, and no other article has changed. -/
def ArticleApplied (key : ObjectKey) (evidence : KnowledgeBaseWriteApprovalEvidence)
    (repository repository' : InMemoryKnowledgeBaseArticleRepository) : Prop :=
  (∃ article ∈ repository'.articles, article.key = key ∧ CarriesApproved evidence article) ∧
    otherArticles repository' key = otherArticles repository key

/-- A creation, or an edit of an article that has the approved key and title already. -/
def TitleStays (key : ObjectKey) (evidence : KnowledgeBaseWriteApprovalEvidence)
    (repository : InMemoryKnowledgeBaseArticleRepository) : Prop :=
  evidence.operation = .create ∨ ∃ article ∈ repository.articles, article.key = key ∧
    article.articleKey = evidence.articleKey ∧ article.title = evidence.title

section

variable {tenantId auditChainRef : String} {evidence : KnowledgeBaseWriteApprovalEvidence}
variable {record : SourceObjectRecord} {article : KnowledgeBaseArticleRecord}
variable {repository repository' : InMemoryKnowledgeBaseArticleRepository}

theorem carriesApproved_of_created
    (h : buildCreatedArticleFromWriteEvidence tenantId evidence record auditChainRef =
      .ok article) : CarriesApproved evidence article := by
  obtain ⟨metadata, hmetadata, h⟩ := Except.bind_eq_ok.mp h
  obtain ⟨-, h⟩ := require_bind_eq_ok.mp h
  obtain ⟨-, -, hfields⟩ := KnowledgeBaseArticleRecord.validate_eq_ok.mp h
  obtain ⟨-, hmanifest, hcontent, hacl⟩ :=
    requireSourceRecordMatchesWriteEvidence_eq_ok hmetadata
  constructor <;> rw [hfields]
  all_goals first | rfl | assumption

theorem applyCreate_applied
    (h : InMemoryKnowledgeBaseArticleRepository.applyCreate tenantId evidence record auditChainRef
      repository = (.ok article, repository')) :
    ArticleApplied (tenantId, evidence.articleObjectId) evidence repository repository' := by
  unfold InMemoryKnowledgeBaseArticleRepository.applyCreate at h
  split at h
  · cases h
  · split at h
    · cases h
    · split at h
      · cases h
      · rename_i created hcreated
        cases h
        have hkey := key_of_created hcreated
        refine ⟨⟨article, List.mem_append_right _ (List.mem_singleton_self _), hkey,
          carriesApproved_of_created hcreated⟩, ?_⟩
        simp [otherArticles, InMemoryKnowledgeBaseArticleRepository.insert, hkey]

/-- Whatever replaces an article, the articles under other keys stay. -/
theorem otherArticles_replace {key : ObjectKey} (hkey : article.key = key) :
    otherArticles (repository.replace article) key = otherArticles repository key := by
  unfold otherArticles InMemoryKnowledgeBaseArticleRepository.replace
  dsimp only
  rw [List.filter_map]
  have hfilter : repository.articles.filter ((fun article : KnowledgeBaseArticleRecord =>
      decide (article.key ≠ key)) ∘
        InMemoryKnowledgeBaseArticleRepository.replaceArticle article) =
      repository.articles.filter fun article => decide (article.key ≠ key) := by
    refine List.filter_congr fun other _ => ?_
    rw [Function.comp_apply, InMemoryKnowledgeBaseArticleRepository.key_replaceArticle]
  rw [hfilter]
  refine (List.map_congr_left fun other hother => ?_).trans (List.map_id _)
  have hne : other.key ≠ key := by
    simpa using (List.mem_filter.mp hother).2
  rw [InMemoryKnowledgeBaseArticleRepository.replaceArticle, hkey, if_neg hne]
  rfl

/-- What an edit finds and makes. -/
theorem applyEdit_eq_ok
    (h : InMemoryKnowledgeBaseArticleRepository.applyEdit tenantId evidence record auditChainRef
      repository = (.ok article, repository')) :
    ∃ existing ∈ repository.articles, existing.key = (tenantId, evidence.articleObjectId) ∧
      article = editedArticle evidence record.metadata existing auditChainRef ∧
      record.metadata.manifestHash = evidence.proposedSourceManifestHash ∧
      record.metadata.contentHash = evidence.proposedContentHash ∧
      record.metadata.aclVersion = evidence.proposedAclVersion ∧
      repository' = repository.replace article := by
  unfold InMemoryKnowledgeBaseArticleRepository.applyEdit at h
  split at h
  · cases h
  · rename_i existing hfound
    split at h
    · cases h
    · rename_i edited hedited
      cases h
      -- the article is replaced, so its source record passed the comparison with the evidence
      obtain ⟨metadata, hmetadata, hedited⟩ := Except.bind_eq_ok.mp hedited
      obtain ⟨-, hedited⟩ := require_bind_eq_ok.mp hedited
      cases hedited
      obtain ⟨rfl, hmanifest, hcontent, hacl⟩ :=
        requireSourceRecordMatchesWriteEvidence_eq_ok hmetadata
      have hkey : existing.key = (tenantId, evidence.articleObjectId) := by
        simpa using List.find?_some hfound
      exact ⟨existing, List.mem_of_find?_eq_some hfound, hkey, rfl, hmanifest, hcontent, hacl, rfl⟩

/-- **An edit** carries what was approved exactly if key and title stay as they are. -/
theorem applyEdit_applied_iff (hoperation : evidence.operation = .edit)
    (h : InMemoryKnowledgeBaseArticleRepository.applyEdit tenantId evidence record auditChainRef
      repository = (.ok article, repository')) :
    ArticleApplied (tenantId, evidence.articleObjectId) evidence repository repository' ↔
      TitleStays (tenantId, evidence.articleObjectId) evidence repository := by
  obtain ⟨existing, hexisting, hkey, rfl, hmanifest, hcontent, hacl, rfl⟩ := applyEdit_eq_ok h
  have hedited : (editedArticle evidence record.metadata existing auditChainRef).key =
      existing.key := rfl
  have hothers := @otherArticles_replace (editedArticle evidence record.metadata existing
    auditChainRef) repository _ (hedited.trans hkey)
  constructor
  · rintro ⟨⟨article, harticle, harticleKey, hcarries⟩, -⟩
    -- the article that carries what was approved is the edited one, of the same key
    obtain ⟨other, hother, rfl⟩ := List.mem_map.mp harticle
    rw [InMemoryKnowledgeBaseArticleRepository.key_replaceArticle] at harticleKey
    have hsame : InMemoryKnowledgeBaseArticleRepository.replaceArticle
        (editedArticle evidence record.metadata existing auditChainRef) other =
          editedArticle evidence record.metadata existing auditChainRef := by
      rw [InMemoryKnowledgeBaseArticleRepository.replaceArticle, hedited, hkey, if_pos harticleKey]
    rw [hsame] at hcarries
    exact .inr ⟨existing, hexisting, hkey, hcarries.articleKey, hcarries.title⟩
  · rintro (hcreate | ⟨other, hother, hotherKey, harticleKey, htitle⟩)
    · rw [hoperation] at hcreate
      cases hcreate
    · -- there is only one article under the key
      obtain rfl : other = existing :=
        List.inj_on_of_nodup_map repository.nodup hother hexisting (hotherKey.trans hkey.symm)
      refine ⟨⟨editedArticle evidence record.metadata other auditChainRef, ?_, hotherKey, ?_⟩,
        hothers⟩
      · refine List.mem_map.mpr ⟨other, hother, ?_⟩
        rw [InMemoryKnowledgeBaseArticleRepository.replaceArticle, hedited, if_pos rfl]
      · exact ⟨harticleKey, htitle, rfl, rfl, rfl, rfl, rfl, hmanifest, hcontent, hacl⟩

/-- **A write changes one article**, if it changes any. -/
theorem otherArticles_of_applyWrite
    (h : InMemoryKnowledgeBaseArticleRepository.applyWrite tenantId evidence record auditChainRef
      repository = (.ok article, repository')) :
    otherArticles repository' (tenantId, evidence.articleObjectId) =
      otherArticles repository (tenantId, evidence.articleObjectId) := by
  cases hoperation : evidence.operation with
  | create =>
    rw [InMemoryKnowledgeBaseArticleRepository.applyWrite, hoperation] at h
    exact (applyCreate_applied h).2
  | edit =>
    rw [InMemoryKnowledgeBaseArticleRepository.applyWrite, hoperation] at h
    obtain ⟨existing, -, hkey, rfl, -, -, -, rfl⟩ := applyEdit_eq_ok h
    exact otherArticles_replace hkey

theorem applyWrite_applied_iff
    (h : InMemoryKnowledgeBaseArticleRepository.applyWrite tenantId evidence record auditChainRef
      repository = (.ok article, repository')) :
    ArticleApplied (tenantId, evidence.articleObjectId) evidence repository repository' ↔
      TitleStays (tenantId, evidence.articleObjectId) evidence repository := by
  cases hoperation : evidence.operation with
  | create =>
    rw [InMemoryKnowledgeBaseArticleRepository.applyWrite, hoperation] at h
    exact iff_of_true (applyCreate_applied h) (.inl hoperation)
  | edit =>
    rw [InMemoryKnowledgeBaseArticleRepository.applyWrite, hoperation] at h
    exact applyEdit_applied_iff hoperation h

end

namespace KnowledgeBaseArticleService

/-! ## The stores -/

/-- What was approved is in the stores, and nothing else has changed in them. -/
structure WriteApplied (command : KnowledgeBaseWriteExecutionCommand) (user : UserContext)
    (evidence : KnowledgeBaseWriteApprovalEvidence) (world world' : KnowledgeBaseWorld) :
    Prop where
  article : ArticleApplied (user.tenantId, evidence.articleObjectId) evidence world.articles
              world'.articles
  /-- The proposed record, under a key of its own. -/
  source  : ∃ fresh, world'.sources = world.sources.insert command.proposedSourceRecord fresh
  /-- One receipt, for this record. -/
  receipt : ∃ receipt : SourceObjectWriteReceipt,
              receipt.metadata.versionKey = command.proposedSourceRecord.metadata.versionKey ∧
              world.receipts.receipts.get? receipt.key = none ∧
              world'.receipts = {
                receipts := world.receipts.receipts.set receipt.key receipt
                objectVersions := world.receipts.objectVersions ++ [receipt.metadata.versionKey] }
  ledger  : world'.ledger = world.ledger

/-- **An execution applies what was approved** exactly if it creates an article, or edits one
that has the approved key and title already. -/
theorem write_applied_iff {service : KnowledgeBaseArticleService}
    {command : KnowledgeBaseWriteExecutionCommand} {user : UserContext} {eventId : EventId}
    {now : String} {world world' : KnowledgeBaseWorld}
    {response : KnowledgeBaseWriteExecutionResponse}
    (h : (service.executeWrite command user eventId now).run world = (.ok response, world')) :
    ∃ evidence, world.ledger.get? (user.tenantId, command.approvedWriteApprovalEvidenceHash) =
        some evidence ∧
      (WriteApplied command user evidence world world' ↔
        TitleStays (user.tenantId, evidence.articleObjectId) evidence world.articles) := by
  obtain ⟨prepared, hprepared, hcommitted⟩ := executeWrite_returns h
  obtain ⟨article, harticle⟩ := hcommitted.articles
  refine ⟨prepared.approvedEvidence, hprepared.approved, ?_⟩
  rw [← applyWrite_applied_iff harticle]
  refine ⟨fun happlied => happlied.article, fun happlied => ?_⟩
  obtain ⟨-, hsource⟩ := InMemorySourceObjectRepository.add_eq_ok.mp hcommitted.sources
  obtain ⟨_, hreceipt⟩ := hcommitted.receipts
  obtain ⟨-, hfresh, -, hreceipts⟩ := append_eq_ok hreceipt
  -- a record that was accepted has stripped identifiers, as its receipt has
  obtain ⟨hnormal, -, -⟩ := SourceObjectMetadata.validate_self.mp command.recordDraft
  have hkey : command.proposedSourceRecord.metadata.normalized.versionKey =
      command.proposedSourceRecord.metadata.versionKey := by
    show command.proposedSourceRecord.metadata.unhashed.normalized.versionKey =
      command.proposedSourceRecord.metadata.unhashed.versionKey
    rw [hnormal]
  exact {
    article := happlied
    source := hsource
    receipt := ⟨prepared.receipt, (versionKey_of_receipt hprepared.receipt).trans hkey, hfresh,
      hreceipts⟩
    ledger := hcommitted.ledger }

end KnowledgeBaseArticleService

namespace HandbookEdit

open KnowledgeBaseArticleService (WriteApplied executeWrite_returns)

/-- In every state in which the new title is approved, the edit returns and leaves the old one. -/
theorem titles_of_edit {world world' : KnowledgeBaseWorld} (h : Ready world)
    (hrun : executeCall.run world = (.ok response, world')) :
    ∀ article ∈ world'.articles.articles, article.title = "Handbook" := by
  obtain ⟨prepared, hprepared, hcommitted⟩ := executeWrite_returns hrun
  obtain ⟨_, harticle⟩ := hcommitted.articles
  -- the evidence of the ledger is the approved one
  have happroved : prepared.approvedEvidence = approved :=
    Option.some.inj (hprepared.approved.symm.trans h.ledger)
  rw [happroved, h.articles] at harticle
  have harticles : start.articles.replace edited = world'.articles :=
    (Prod.mk.inj (article_edited.symm.trans harticle)).2
  rw [← harticles]
  intro article hmem
  have hedited : article = edited := List.mem_singleton.mp hmem
  rw [hedited]
  rfl

/-- **An edit leaves the old title**: it is dry run, approved and executed from a state with one
article and its source. -/
theorem edit_keeps_old_title : ∃ world world',
    (approveCall.run (dryRunCall.run start).2).2 = world ∧
      executeCall.run world = (.ok response, world') ∧
      world.ledger.get? ("acme", codeHash 1) = some approved ∧
      approved.title = "Employee handbook" ∧
      (∀ article ∈ world'.articles.articles, article.title = "Handbook") ∧
      ¬ WriteApplied executionCommand bob approved world world' := by
  obtain ⟨world, hworld, hready⟩ := ready
  obtain ⟨world', hrun⟩ := executed hready
  have htitles := titles_of_edit hready hrun
  refine ⟨world, world', hworld, hrun, hready.ledger, rfl, htitles, fun happlied => ?_⟩
  obtain ⟨⟨article, harticle, -, hcarries⟩, -⟩ := happlied.article
  have htitle : "Handbook" = "Employee handbook" :=
    (htitles article harticle).symm.trans hcarries.title
  revert htitle
  decide

theorem write_applied_iff_edit : ∃ world world',
    executeCall.run world = (.ok response, world') ∧
      ∃ evidence, world.ledger.get? ("acme", codeHash 1) = some evidence ∧
        (WriteApplied executionCommand bob evidence world world' ↔
          TitleStays ("acme", evidence.articleObjectId) evidence world.articles) := by
  obtain ⟨world, -, hready⟩ := ready
  obtain ⟨world', hrun⟩ := executed hready
  exact ⟨world, world', hrun, KnowledgeBaseArticleService.write_applied_iff hrun⟩

end HandbookEdit

end Collabio
