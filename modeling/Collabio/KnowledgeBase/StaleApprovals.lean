import Mathlib.Tactic
import Collabio.KnowledgeBase.WriteRuns

/-!
# Approvals go stale

An approval carries the restore hash that its dry run has read, and the approval and the
execution compare it with what they read themselves.

* `NamesNew`               — an article names a source that an earlier state does not have;
* `namesNew_or_same_run`   — an article change leaves such an article, and no step removes it;
* `stale_approvals`        — what is executed was dry run over the same articles.
-/

namespace Collabio

open KnowledgeBaseWorld

/-! ## An article is put in a repository -/

/-- The article is in the repository, and articles under other keys stay. -/
structure InMemoryKnowledgeBaseArticleRepository.Puts (article : KnowledgeBaseArticleRecord)
    (repository repository' : InMemoryKnowledgeBaseArticleRepository) : Prop where
  mem     : article ∈ repository'.articles
  others  : ∀ other ∈ repository.articles, other.key ≠ article.key → other ∈ repository'.articles
  tenants : ∀ tenantId, tenantId ≠ article.tenantId →
              repository'.listArticles tenantId = repository.listArticles tenantId

namespace InMemoryKnowledgeBaseArticleRepository

variable {repository repository' : InMemoryKnowledgeBaseArticleRepository}
variable {article : KnowledgeBaseArticleRecord}

theorem puts_insert (fresh : article.key ∉ repository.articles.map (·.key)) :
    Puts article repository (repository.insert article fresh) := by
  refine ⟨List.mem_append_right _ (List.mem_singleton_self _),
    fun other hmem _ => List.mem_append_left _ hmem, fun tenantId hne => ?_⟩
  have hother : [article].filter (fun article => article.tenantId = tenantId) = [] := by
    refine List.filter_cons_of_neg ?_
    simpa using Ne.symm hne
  show (repository.articles ++ [article]).filter _ = repository.articles.filter _
  rw [List.filter_append, hother, List.append_nil]

theorem puts_replace {existing : KnowledgeBaseArticleRecord}
    (hexisting : existing ∈ repository.articles) (hkey : existing.key = article.key) :
    Puts article repository (repository.replace article) := by
  refine ⟨List.mem_map.mpr ⟨existing, hexisting, if_pos hkey⟩,
    fun other hmem hne => List.mem_map.mpr ⟨other, hmem, if_neg hne⟩, fun tenantId hne => ?_⟩
  show (repository.articles.map (replaceArticle article)).filter _ = repository.articles.filter _
  have htenant : ∀ other, (replaceArticle article other).tenantId = other.tenantId :=
    fun other => congrArg Prod.fst (key_replaceArticle article other)
  rw [List.filter_map]
  have hfilter : repository.articles.filter
      ((fun article : KnowledgeBaseArticleRecord => decide (article.tenantId = tenantId)) ∘
        replaceArticle article) =
      repository.articles.filter fun article => decide (article.tenantId = tenantId) := by
    refine List.filter_congr fun other _ => ?_
    rw [Function.comp_apply, htenant]
  rw [hfilter]
  -- what is listed for another tenant is not replaced
  refine (List.map_congr_left fun other hother => ?_).trans (List.map_id _)
  have hother : other.tenantId = tenantId := by simpa using (List.mem_filter.mp hother).2
  refine if_neg fun hsame => hne ?_
  rw [← hother]
  exact congrArg Prod.fst hsame

end InMemoryKnowledgeBaseArticleRepository

/-- A record that matches its evidence has the key that the evidence proposes. -/
theorem versionKey_of_matches {tenantId : String} {evidence : KnowledgeBaseWriteApprovalEvidence}
    {record : SourceObjectRecord} {metadata : SourceObjectMetadata}
    (h : requireSourceRecordMatchesWriteEvidence tenantId evidence record = .ok metadata) :
    record.metadata.versionKey =
      (tenantId, evidence.proposedSourceObjectId, evidence.proposedSourceVersionId) := by
  obtain ⟨htenant, h⟩ := require_bind_eq_ok.mp h
  obtain ⟨hobject, h⟩ := require_bind_eq_ok.mp h
  obtain ⟨hversion, -⟩ := require_bind_eq_ok.mp h
  rw [SourceObjectMetadata.versionKey, htenant, hobject, hversion]

namespace KnowledgeBaseArticleService

open InMemoryKnowledgeBaseArticleRepository (Puts puts_insert puts_replace)

variable {service : KnowledgeBaseArticleService} {old world world' : KnowledgeBaseWorld}
variable {tenantId : String}

section

variable {auditChainRef : String} {evidence : KnowledgeBaseWriteApprovalEvidence}
variable {record : SourceObjectRecord} {article : KnowledgeBaseArticleRecord}
variable {repository repository' : InMemoryKnowledgeBaseArticleRepository}

theorem applyCreate_puts
    (h : InMemoryKnowledgeBaseArticleRepository.applyCreate tenantId evidence record auditChainRef
      repository = (.ok article, repository')) :
    article.tenantId = tenantId ∧ currentSourceKey article = record.metadata.versionKey ∧
      Puts article repository repository' := by
  unfold InMemoryKnowledgeBaseArticleRepository.applyCreate at h
  split at h
  · cases h
  · split at h
    · cases h
    · split at h
      · cases h
      · rename_i created hcreated
        cases h
        refine ⟨congrArg Prod.fst (key_of_created hcreated), ?_, puts_insert _⟩
        obtain ⟨metadata, hmetadata, hcreated⟩ := Except.bind_eq_ok.mp hcreated
        obtain ⟨-, hcreated⟩ := require_bind_eq_ok.mp hcreated
        obtain ⟨-, -, hfields⟩ := KnowledgeBaseArticleRecord.validate_eq_ok.mp hcreated
        rw [versionKey_of_matches hmetadata, currentSourceKey, hfields]
        rfl

theorem applyEdit_puts
    (h : InMemoryKnowledgeBaseArticleRepository.applyEdit tenantId evidence record auditChainRef
      repository = (.ok article, repository')) :
    article.tenantId = tenantId ∧ currentSourceKey article = record.metadata.versionKey ∧
      Puts article repository repository' := by
  unfold InMemoryKnowledgeBaseArticleRepository.applyEdit at h
  split at h
  · cases h
  · rename_i existing hfound
    split at h
    · cases h
    · rename_i edited hedited
      cases h
      have hkey : existing.key = (tenantId, evidence.articleObjectId) := by
        simpa using List.find?_some hfound
      obtain ⟨metadata, hmetadata, hedited⟩ := Except.bind_eq_ok.mp hedited
      obtain ⟨-, hedited⟩ := require_bind_eq_ok.mp hedited
      cases hedited
      have htenant : existing.tenantId = tenantId := congrArg Prod.fst hkey
      refine ⟨htenant, ?_, puts_replace (List.mem_of_find?_eq_some hfound) rfl⟩
      rw [versionKey_of_matches hmetadata, ← htenant]
      rfl

/-- **A written article names the written source**, and is put in the place of its key. -/
theorem applyWrite_puts
    (h : InMemoryKnowledgeBaseArticleRepository.applyWrite tenantId evidence record auditChainRef
      repository = (.ok article, repository')) :
    article.tenantId = tenantId ∧ currentSourceKey article = record.metadata.versionKey ∧
      Puts article repository repository' := by
  cases hoperation : evidence.operation with
  | create =>
    rw [InMemoryKnowledgeBaseArticleRepository.applyWrite, hoperation] at h
    exact applyCreate_puts h
  | edit =>
    rw [InMemoryKnowledgeBaseArticleRepository.applyWrite, hoperation] at h
    exact applyEdit_puts h

end

/-! ## Articles of new sources -/

/-- An article of the tenant names a source that the earlier state does not have. -/
def NamesNew (old : KnowledgeBaseWorld) (tenantId : String) (world : KnowledgeBaseWorld) : Prop :=
  ∃ article ∈ world.articles.articles, article.tenantId = tenantId ∧
    old.sources.records.get? (currentSourceKey article) = none

/-- What an execution that changes articles has put there. -/
theorem committed_puts {command : KnowledgeBaseWriteExecutionCommand} {user : UserContext}
    {prepared : PreparedWrite} (h : service.Committed command user prepared world world') :
    ∃ article, article.tenantId = user.tenantId ∧
      world.sources.records.get? (currentSourceKey article) = none ∧
      Puts article world.articles world'.articles := by
  obtain ⟨article, happlied⟩ := h.articles
  obtain ⟨-, hfresh, -⟩ := InMemorySourceObjectRepository.add_eq_ok.mp h.sources
  obtain ⟨htenant, hkey, hputs⟩ := applyWrite_puts happlied
  refine ⟨article, htenant, ?_, hputs⟩
  rw [hkey]
  exact hfresh

/-- A source that is new in a later state is new to the earlier one. -/
theorem Extends.absent (h : Extends old world) {key : VersionKey}
    (habsent : world.sources.records.get? key = none) : old.sources.records.get? key = none := by
  cases hget : old.sources.records.get? key with
  | none => rfl
  | some record =>
    rw [h.sources key record hget] at habsent
    cases habsent

/-- **Once an article of a new source is there, there is always one.** -/
theorem namesNew_step (service : KnowledgeBaseArticleService) (event : WriteEvent)
    (hextends : Extends old world) (h : NamesNew old tenantId world) :
    NamesNew old tenantId (service.step world event) := by
  obtain ⟨article, hmem, htenant, hnew⟩ := h
  rcases articles_step service world event with hsame |
    ⟨command, user, eventId, now, prepared, -, -, hcommitted⟩
  · rw [← hsame] at hmem
    exact ⟨article, hmem, htenant, hnew⟩
  · obtain ⟨written, hwritten, habsent, hputs⟩ := committed_puts hcommitted
    -- the article stays, or the written one takes its place
    by_cases hkey : article.key = written.key
    · have hsame : written.tenantId = article.tenantId := (congrArg Prod.fst hkey).symm
      exact ⟨written, hputs.mem, hsame.trans htenant, hextends.absent habsent⟩
    · exact ⟨article, hputs.others article hmem hkey, htenant, hnew⟩

/-- **An article change leaves an article of a new source.** -/
theorem namesNew_or_same_step (service : KnowledgeBaseArticleService) (event : WriteEvent)
    (hextends : Extends old world)
    (h : NamesNew old tenantId world ∨
      world.articles.listArticles tenantId = old.articles.listArticles tenantId) :
    NamesNew old tenantId (service.step world event) ∨
      (service.step world event).articles.listArticles tenantId =
        old.articles.listArticles tenantId := by
  rcases h with hnew | hlisted
  · exact .inl (namesNew_step service event hextends hnew)
  · rcases articles_step service world event with hsame |
      ⟨command, user, eventId, now, prepared, -, -, hcommitted⟩
    · rw [hsame]
      exact .inr hlisted
    · obtain ⟨written, hwritten, habsent, hputs⟩ := committed_puts hcommitted
      by_cases htenant : tenantId = written.tenantId
      · exact .inl ⟨written, hputs.mem, htenant.symm, hextends.absent habsent⟩
      · exact .inr ((hputs.tenants tenantId htenant).trans hlisted)

/-- The articles of a tenant are as before, or one of them is of a new source. -/
theorem namesNew_or_same_run (service : KnowledgeBaseArticleService) (old : KnowledgeBaseWorld)
    (tenantId : String) (events : List WriteEvent) :
    Runs.Always service.step (fun world => NamesNew old tenantId world ∨
      world.articles.listArticles tenantId = old.articles.listArticles tenantId) old events := by
  have hkept := @Runs.always_of_invariant _ _ service.step (fun world => Extends old world ∧
    (NamesNew old tenantId world ∨
      world.articles.listArticles tenantId = old.articles.listArticles tenantId))
    (fun world event h => ⟨h.1.trans (extends_step service world event),
      namesNew_or_same_step service event h.1 h.2⟩) old ⟨.refl old, .inr rfl⟩ events
  exact Runs.always_mono (fun _ h => h.2) hkept

theorem namesNew_run (service : KnowledgeBaseArticleService) (hextends : Extends old world)
    (h : NamesNew old tenantId world) (events : List WriteEvent) :
    NamesNew old tenantId (Runs.run service.step world events) := by
  have hkept := @Runs.always_of_invariant _ _ service.step
    (fun world => Extends old world ∧ NamesNew old tenantId world)
    (fun world event h => ⟨h.1.trans (extends_step service world event),
      namesNew_step service event h.1 h.2⟩) world ⟨hextends, h⟩ events
  exact (Runs.always_last hkept).2

/-- Where the current versions are the same, no article is of a new source. -/
theorem not_namesNew {sourceEvidences : List KnowledgeBaseSourceVersionEvidence}
    {restoreEvidence : KnowledgeBaseRestoreEvidence}
    (hreads : service.Reads world tenantId sourceEvidences restoreEvidence)
    (hsame : service.CurrentVersions world tenantId = service.CurrentVersions old tenantId) :
    ¬ NamesNew old tenantId world := by
  rintro ⟨article, hmem, htenant, hnew⟩
  obtain ⟨hevidences, -⟩ := currentEvidenceOf_eq_ok.mp hreads
  obtain ⟨evidence, -, hevidence⟩ := Except.mem_mapM_of_mem hevidences
    (mem_records.mpr ⟨hmem, htenant⟩)
  have hversion : (article.objectId, article.currentVersionObjectId, evidence) ∈
      service.CurrentVersions world tenantId := ⟨article, hmem, htenant, rfl, rfl, hevidence⟩
  rw [hsame] at hversion
  -- the evidence was read in the earlier state too, for a source that was there
  obtain ⟨former, -, -, -, -, hformer⟩ := hversion
  obtain ⟨record, hrecord, -⟩ := sourceVersionEvidenceOf_eq_ok.mp hformer
  have hkey : currentSourceKey former = currentSourceKey article :=
    (isEvidenceOf hformer).sourceKey.symm.trans (isEvidenceOf hevidence).sourceKey
  rw [hkey, hnew] at hrecord
  cases hrecord

/-! ## An execution and its dry run -/

/-- An execution that returned has read the restore hash that its approval names. -/
theorem executeWrite_reads {command : KnowledgeBaseWriteExecutionCommand} {user : UserContext}
    {eventId : EventId} {now : String} {response : KnowledgeBaseWriteExecutionResponse}
    (h : (service.executeWrite command user eventId now).run world = (.ok response, world')) :
    ∃ approved sourceEvidences restoreEvidence,
      world.ledger.get? (user.tenantId, command.approvedWriteApprovalEvidenceHash) =
        some approved ∧
      service.Reads world user.tenantId sourceEvidences restoreEvidence ∧
      restoreEvidence.evidenceHash = approved.currentRestoreEvidenceHash := by
  obtain ⟨prepared, between, hprepare, -⟩ := Prog.run_bind_eq_ok.mp h
  unfold prepareWrite at hprepare
  obtain ⟨approved, hget, h⟩ := (Prog.run_bind_eq_ok_of_run (Prog.run_read _ _)).mp hprepare
  obtain ⟨_, -, h⟩ := (Prog.run_bind_eq_ok_of_run (Prog.run_lift _ _)).mp h
  obtain ⟨_, hrecords, h⟩ := (Prog.run_bind_eq_ok_of_run (run_listRecords _ _)).mp h
  cases hrecords
  obtain ⟨_, -, h⟩ := (Prog.run_bind_eq_ok_of_run (Prog.run_lift _ _)).mp h
  obtain ⟨⟨sourceEvidences, restoreEvidence⟩, hreads, h⟩ :=
    (Prog.run_bind_eq_ok_of_run (run_currentEvidence _ _ _)).mp h
  obtain ⟨_, hrestore, -⟩ := (Prog.run_bind_eq_ok_of_run (Prog.run_lift _ _)).mp h
  exact ⟨approved, sourceEvidences, restoreEvidence, ledgerGet_eq_ok.mp hget, hreads,
    require_eq_ok.mp hrestore⟩

/-- All that can be read of a tenant in the states. -/
def snapshots (service : KnowledgeBaseArticleService) (tenantId : String)
    (worlds : Set KnowledgeBaseWorld) :
    Set (List KnowledgeBaseSourceVersionEvidence × KnowledgeBaseRestoreEvidence) :=
  {snapshot | ∃ world ∈ worlds, service.Reads world tenantId snapshot.1 snapshot.2}

/-- States of one restore hash have the same current versions. -/
theorem currentVersions_of_restoreHash {worlds : Set KnowledgeBaseWorld}
    (hapart : TellsSnapshotsApart service.hashes (service.snapshots tenantId worlds))
    (hmem : world ∈ worlds) (hmem' : world' ∈ worlds)
    {sourceEvidences sourceEvidences' : List KnowledgeBaseSourceVersionEvidence}
    {restoreEvidence restoreEvidence' : KnowledgeBaseRestoreEvidence}
    (h : service.Reads world tenantId sourceEvidences restoreEvidence)
    (h' : service.Reads world' tenantId sourceEvidences' restoreEvidence')
    (hhash : restoreEvidence.evidenceHash = restoreEvidence'.evidenceHash) :
    service.CurrentVersions world tenantId = service.CurrentVersions world' tenantId :=
  currentVersions_eq h h' (perm_of_restoreEvidenceHash hapart ⟨world, hmem, h⟩ ⟨world', hmem', h'⟩
    (snapshot_of_currentEvidence h) (snapshot_of_currentEvidence h') hhash)

/-- A dry run, an approval and an execution, with any operations between. -/
structure WriteRun where
  tenantId         : String
  atDryRun         : KnowledgeBaseWorld
  dryRunCommand    : KnowledgeBaseWriteApprovalCommand
  dryRunUser       : UserContext
  dryRunId         : EventId
  middle           : List WriteEvent
  approvalCommand  : KnowledgeBaseWriteApprovalTransitionCommand
  approvalUser     : UserContext
  approvalId       : EventId
  later            : List WriteEvent
  executionCommand : KnowledgeBaseWriteExecutionCommand
  executionUser    : UserContext
  executionId      : EventId
  now              : String

namespace WriteRun

def beforeApproval (run : WriteRun) : List WriteEvent :=
  .dryRun run.dryRunCommand run.dryRunUser run.dryRunId :: run.middle

def beforeExecution (run : WriteRun) : List WriteEvent :=
  run.beforeApproval ++ .approve run.approvalCommand run.approvalUser run.approvalId :: run.later

def atApproval (service : KnowledgeBaseArticleService) (run : WriteRun) : KnowledgeBaseWorld :=
  Runs.run service.step run.atDryRun run.beforeApproval

def atExecution (service : KnowledgeBaseArticleService) (run : WriteRun) : KnowledgeBaseWorld :=
  Runs.run service.step run.atDryRun run.beforeExecution

/-- Nothing happens between dry run and approval. -/
theorem atApproval_of_nil {run : WriteRun} (h : run.middle = []) :
    run.atApproval service = ((service.dryRunWriteApproval run.dryRunCommand run.dryRunUser
      run.dryRunId).run run.atDryRun).2 := by
  rw [atApproval, beforeApproval, h]
  rfl

/-- The state that the approval leaves is the one that the execution finds, but for what happens
between. -/
theorem atExecution_eq (run : WriteRun) :
    run.atExecution service = Runs.run service.step ((service.approveWriteApproval
      run.approvalCommand run.approvalUser run.approvalId).run (run.atApproval service)).2
        run.later := by
  rw [atExecution, beforeExecution, Runs.run_append]
  rfl

/-- Nothing happens between approval and execution. -/
theorem atExecution_of_nil {run : WriteRun} (h : run.later = []) :
    run.atExecution service = ((service.approveWriteApproval run.approvalCommand run.approvalUser
      run.approvalId).run (run.atApproval service)).2 := by
  rw [atExecution_eq, h]
  rfl

/-- The execution succeeds, of the evidence that was approved of the dry run. -/
structure Succeeds (service : KnowledgeBaseArticleService) (run : WriteRun) : Prop where
  tenants   : run.dryRunUser.tenantId = run.tenantId ∧ run.approvalUser.tenantId = run.tenantId ∧
                run.executionUser.tenantId = run.tenantId
  dryRun    : ∃ response, ((service.dryRunWriteApproval run.dryRunCommand run.dryRunUser
                run.dryRunId).run run.atDryRun).1 = .ok response ∧
                run.approvalCommand.dryRunWriteApprovalEvidenceHash =
                  response.writeApprovalEvidenceHash
  approval  : ∃ response, ((service.approveWriteApproval run.approvalCommand run.approvalUser
                run.approvalId).run (run.atApproval service)).1 = .ok response ∧
                run.executionCommand.approvedWriteApprovalEvidenceHash =
                  response.approvedWriteApprovalEvidenceHash
  execution : ∃ response, ((service.executeWrite run.executionCommand run.executionUser
                run.executionId run.now).run (run.atExecution service)).1 = .ok response

/-- The states in which the restore evidence is compared. -/
def compared (service : KnowledgeBaseArticleService) (run : WriteRun) : Set KnowledgeBaseWorld :=
  {run.atDryRun, run.atApproval service, run.atExecution service}

/-- What is executed was dry run and approved over the same articles. -/
structure Unchanged (service : KnowledgeBaseArticleService) (run : WriteRun) : Prop where
  sinceDryRun   : service.CurrentVersions (run.atExecution service) run.tenantId =
                    service.CurrentVersions run.atDryRun run.tenantId
  sinceApproval : service.CurrentVersions (run.atExecution service) run.tenantId =
                    service.CurrentVersions (run.atApproval service) run.tenantId
  /-- No article of the tenant has changed on the way. -/
  articles      : Runs.Always service.step (fun world =>
                    world.articles.listArticles run.tenantId =
                      run.atDryRun.articles.listArticles run.tenantId)
                    run.atDryRun run.beforeExecution
  /-- The order in which the articles are listed does not count. -/
  listing       : ∀ world ∈ run.compared service, ∀ other : KnowledgeBaseWorld,
                    other.sources = world.sources →
                    other.articles.articles.Perm world.articles.articles →
                    ∀ sourceEvidences restoreEvidence,
                      service.Reads other run.tenantId sourceEvidences restoreEvidence ↔
                        service.Reads world run.tenantId sourceEvidences restoreEvidence

end WriteRun

/-- The evidence that an execution finds has the restore hash of the dry run. -/
theorem restoreHash_of_succeeds {run : WriteRun} (h : run.Succeeds service) :
    ∃ restoreHash : String, ∀ world ∈ run.compared service, ∃ sourceEvidences restoreEvidence,
      service.Reads world run.tenantId sourceEvidences restoreEvidence ∧
        restoreEvidence.evidenceHash = restoreHash := by
  obtain ⟨⟨htry, happrove, hexecute⟩, ⟨tried, hdryRun, hnamed⟩, ⟨answered, happroval, hchosen⟩,
    ⟨response, hexecution⟩⟩ := h
  -- the evidence of the dry run is in the ledger until the approval
  obtain ⟨dryRun, hdone, hhash⟩ := dryRun_returns (Prod.ext hdryRun rfl)
  obtain ⟨sources, restore, hreads, hrestore⟩ := hdone.reads
  have hstored : ((service.dryRunWriteApproval run.dryRunCommand run.dryRunUser
      run.dryRunId).run run.atDryRun).2.ledger.get? (run.tenantId, dryRun.evidenceHash) =
        some dryRun := by
    rw [(stores_eq_iff.mp hdone.appends.stores).1, ← htry]
    exact Dict.get?_set_self ..
  have hkept := (extends_run service _ run.middle).ledger _ _ hstored
  obtain ⟨found, approved, hdone', hhash'⟩ := approval_returns (Prod.ext happroval rfl)
  have hfound : found = dryRun := by
    have hget := hdone'.found
    rw [happrove, hnamed, hhash] at hget
    exact Option.some.inj (hget.symm.trans hkept)
  obtain ⟨sources', restore', hreads', hrestore'⟩ := hdone'.reads
  rw [hfound] at hrestore'
  -- and that of the approval until the execution
  have htenant : approved.tenantId = run.tenantId := by
    rw [hdone'.command.tenantId, hfound, hdone.appends.tenant, htry]
  have hstored' : ((service.approveWriteApproval run.approvalCommand run.approvalUser
      run.approvalId).run (run.atApproval service)).2.ledger.get?
        (run.tenantId, approved.evidenceHash) = some approved := by
    rw [(stores_eq_iff.mp hdone'.stores).1, ← htenant]
    exact Dict.get?_set_self ..
  have hkept' := (extends_run service _ run.later).ledger _ _ hstored'
  rw [← run.atExecution_eq] at hkept'
  obtain ⟨executed, sources'', restore'', hget, hreads'', hrestore''⟩ :=
    executeWrite_reads (Prod.ext hexecution rfl)
  rw [hexecute, hchosen, hhash'] at hget
  have hexecuted : executed = approved := Option.some.inj (hget.symm.trans hkept')
  refine ⟨dryRun.currentRestoreEvidenceHash, ?_⟩
  rintro world (rfl | rfl | rfl)
  · rw [htry] at hreads
    exact ⟨sources, restore, hreads, hrestore.symm⟩
  · rw [happrove] at hreads'
    exact ⟨sources', restore', hreads', hrestore'⟩
  · rw [hexecute] at hreads''
    rw [hexecuted, hdone'.command.restoreHash, hfound] at hrestore''
    exact ⟨sources'', restore'', hreads'', hrestore''⟩

/-- **Approvals go stale**: what is executed was dry run and approved over the same articles. -/
theorem stale_approvals {run : WriteRun} (h : run.Succeeds service)
    (hapart : TellsSnapshotsApart service.hashes
      (service.snapshots run.tenantId (run.compared service))) : run.Unchanged service := by
  obtain ⟨restoreHash, hrestores⟩ := restoreHash_of_succeeds h
  have hdryRun : run.atDryRun ∈ run.compared service := .inl rfl
  have happroval : run.atApproval service ∈ run.compared service := .inr (.inl rfl)
  have hexecution : run.atExecution service ∈ run.compared service := .inr (.inr rfl)
  obtain ⟨sources, restore, hreads, hhash⟩ := hrestores _ hdryRun
  obtain ⟨sources', restore', hreads', hhash'⟩ := hrestores _ happroval
  obtain ⟨sources'', restore'', hreads'', hhash''⟩ := hrestores _ hexecution
  have hsame := currentVersions_of_restoreHash hapart hexecution hdryRun hreads'' hreads
    (hhash''.trans hhash.symm)
  refine ⟨hsame, currentVersions_of_restoreHash hapart hexecution happroval hreads'' hreads'
    (hhash''.trans hhash'.symm), ?_, fun world _ other hsources harticles _ _ =>
      reads_perm hsources harticles⟩
  rintro before ⟨after, hevents⟩
  -- a change on the way would still be seen at the execution
  rcases namesNew_or_same_run service run.atDryRun run.tenantId before before
    (List.prefix_refl before) with hnew | hlisted
  · have hlast := namesNew_run service (extends_run service run.atDryRun before) hnew after
    rw [← Runs.run_append, hevents] at hlast
    exact absurd hlast (not_namesNew hreads'' hsame)
  · exact hlisted

end KnowledgeBaseArticleService

namespace HandbookEdit

open KnowledgeBaseArticleService

/-- The dry run, the approval and the execution of the new title, one after the other. -/
def titleRun : WriteRun where
  tenantId := "acme"
  atDryRun := start
  dryRunCommand := dryRunCommand
  dryRunUser := alice
  dryRunId := ⟨"event-1", firstEvent_notBlank⟩
  middle := []
  approvalCommand := transitionCommand
  approvalUser := bob
  approvalId := ⟨"event-2", secondEvent_notBlank⟩
  later := []
  executionCommand := executionCommand
  executionUser := bob
  executionId := ⟨"event-3", thirdEvent_notBlank⟩
  now := "2026-01-06T09:00:00Z"

theorem dryRun_succeeds : ∃ response, (dryRunCall.run start).1 = .ok response ∧
    response.writeApprovalEvidenceHash = codeHash 3 := by
  obtain ⟨auditEvents, hleft⟩ := dryRun_leaves
  have hledger : (dryRunCall.run start).2.ledger = Dict.set ∅ ("acme", codeHash 3) dryRun :=
    congrArg KnowledgeBaseWorld.ledger hleft
  rcases hrun : dryRunCall.run start with ⟨exn | response, world⟩
  · -- a dry run that raises leaves the ledger empty
    have hkept := dryRun_raises dryRunCommand alice ⟨"event-1", firstEvent_notBlank⟩ _ _ _ hrun
    rw [hrun, (stores_eq_iff.mp hkept).1] at hledger
    cases congrArg Dict.items hledger
  · obtain ⟨evidence, hdone, hhash⟩ := dryRun_returns hrun
    rw [hrun, (stores_eq_iff.mp hdone.appends.stores).1] at hledger
    have hitems : [(("acme", evidence.evidenceHash), evidence)] =
        [(("acme", codeHash 3), dryRun)] := congrArg Dict.items hledger
    have hkey := (Prod.mk.inj (List.cons.inj hitems).1).1
    exact ⟨response, rfl, hhash.trans (Prod.mk.inj hkey).2⟩

/-- An approval that leaves one evidence more answers its hash. -/
theorem approval_answers {world : KnowledgeBaseWorld}
    (habsent : world.ledger.get? ("acme", codeHash 1) = none)
    (happroved : (approveCall.run world).2.ledger.get? ("acme", codeHash 1) = some approved) :
    ∃ response, (approveCall.run world).1 = .ok response ∧
      response.approvedWriteApprovalEvidenceHash = codeHash 1 := by
  rcases hrun : approveCall.run world with ⟨exn | response, world'⟩
  · have hkept := approval_raises transitionCommand bob ⟨"event-2", secondEvent_notBlank⟩ _ _ _
      hrun
    rw [hrun, (stores_eq_iff.mp hkept).1, habsent] at happroved
    cases happroved
  · obtain ⟨found, evidence, hdone, hhash⟩ := approval_returns hrun
    rw [hrun, (stores_eq_iff.mp hdone.stores).1] at happroved
    have hkey : ("acme", codeHash 1) = (evidence.tenantId, evidence.evidenceHash) := by
      by_contra hne
      have hother := (Dict.get?_set_ne world.ledger evidence hne).symm.trans happroved
      rw [habsent] at hother
      cases hother
    exact ⟨response, rfl, hhash.trans (Prod.mk.inj hkey).2.symm⟩

theorem approval_succeeds : ∃ response, (approveCall.run (dryRunCall.run start).2).1 =
    .ok response ∧ response.approvedWriteApprovalEvidenceHash = codeHash 1 := by
  obtain ⟨auditEvents, hbefore⟩ := dryRun_leaves
  obtain ⟨ledger, auditEvents', hleft, happroved⟩ := approval_leaves
  have hfree : codeHash 1 ≠ codeHash 3 := codes_differ.2.2
  refine approval_answers ?_ ?_
  · rw [hbefore]
    exact Dict.get?_set_ne _ _ fun h => hfree (Prod.mk.inj h).2
  · rw [hleft]
    exact happroved

theorem titleRun_atApproval : titleRun.atApproval service = (dryRunCall.run start).2 :=
  WriteRun.atApproval_of_nil rfl

theorem titleRun_atExecution :
    titleRun.atExecution service = (approveCall.run (dryRunCall.run start).2).2 := by
  rw [← titleRun_atApproval]
  exact WriteRun.atExecution_of_nil rfl

theorem titleRun_succeeds : titleRun.Succeeds service := by
  obtain ⟨world, hworld, hready⟩ := ready
  refine ⟨⟨rfl, rfl, rfl⟩, ?_, ?_, ?_⟩
  · obtain ⟨response, hdryRun, hhash⟩ := dryRun_succeeds
    exact ⟨response, hdryRun, hhash.symm⟩
  · obtain ⟨response, happroval, hhash⟩ := approval_succeeds
    rw [titleRun_atApproval]
    exact ⟨response, happroval, hhash.symm⟩
  · rw [titleRun_atExecution, hworld]
    exact ⟨_, execute_run hready⟩

/-- The three states differ in the ledger and the audit log alone. -/
theorem titleRun_reads {world : KnowledgeBaseWorld} (h : world ∈ titleRun.compared service)
    {snapshot : List KnowledgeBaseSourceVersionEvidence × KnowledgeBaseRestoreEvidence}
    (hreads : service.Reads world "acme" snapshot.1 snapshot.2) :
    snapshot = ([sourceEvidence "version-1" "v1"], restore) := by
  have hstart : service.Reads start "acme" snapshot.1 snapshot.2 := by
    obtain ⟨auditEvents, hdryRun⟩ := dryRun_leaves
    obtain ⟨ledger, auditEvents', happroval, -⟩ := approval_leaves
    rw [WriteRun.compared] at h
    rcases h with h | h | h
    · rw [h] at hreads
      exact hreads
    · rw [h, titleRun_atApproval, hdryRun] at hreads
      exact hreads
    · rw [h, titleRun_atExecution, happroval] at hreads
      exact hreads
  exact Except.ok.inj (hstart.symm.trans start_evidence)

theorem titleRun_tellsApart : TellsSnapshotsApart service.hashes
    (service.snapshots "acme" (titleRun.compared service)) := by
  refine tellsSnapshotsApart_of_one ?_ ?_
  · rintro snapshot ⟨world, hworld, hreads⟩ snapshot' ⟨world', hworld', hreads'⟩
    rw [titleRun_reads hworld hreads, titleRun_reads hworld' hreads']
  · rintro snapshot ⟨world, hworld, hreads⟩ a ha b hb
    rw [titleRun_reads hworld hreads] at ha hb
    exact (List.mem_singleton.mp ha).trans (List.mem_singleton.mp hb).symm

theorem stale_approvals_titleRun : titleRun.Unchanged service :=
  stale_approvals titleRun_succeeds titleRun_tellsApart

end HandbookEdit

end Collabio
