import Mathlib.Tactic
import Collabio.KnowledgeBase.PreviewedWrites
import Collabio.KnowledgeBase.WriteLineage

/-!
# From a plan to the write

* `confirmed_write_returns_iff` — of a confirmed write, what can still fail;
* `executed_as_confirmed`       — an execution does what its preview and its plan said.
-/

namespace Collabio

open KnowledgeBaseWorld

/-! ## Plans -/

theorem ExecutionPlan.nodup_keys (plan : ExecutionPlan) : (plan.members.map Prod.fst).Nodup := by
  show ["schema_version", "tenant_id", "module_id", "feature_id", "execution_reference",
    "human_confirmation_reference", "approved_write_approval_evidence_hash",
    "transition_source_evidence_hash", "source_object_write_guard_ref",
    "refresh_preview_command_hash", "projected_restore_evidence_preview_hash", "operation",
    "article_object_id", "expected_current_version_object_id", "proposed_version_object_id",
    "proposed_source_object_id", "proposed_source_version_id", "command_hash",
    "execution_command_hash", "proposed_source_version_evidence_hash",
    "current_restore_evidence_hash", "preconditions_verified",
    "source_object_write_guard_verified", "human_confirmation_verified",
    "source_authority_verified", "execution_allowed", "article_source_writes_allowed",
    "article_metadata_persistence_allowed", "source_object_persistence_allowed",
    "evidence_persistence_allowed", "rag_indexing_allowed", "blocking_reasons",
    "required_evidence"].Nodup
  decide

/-- Plans of one text repeat one command of one approval. -/
theorem ExecutionPlan.of_same {plan plan' : ExecutionPlan}
    (h : Json.Same (.obj plan.members) (.obj plan'.members)) :
    plan.tenantId = plan'.tenantId ∧
      plan.approvedEvidence.evidenceHash = plan'.approvedEvidence.evidenceHash ∧
      plan.executionReference = plan'.executionReference ∧
      plan.humanConfirmationReference = plan'.humanConfirmationReference ∧
      plan.sourceObjectWriteGuardRef = plan'.sourceObjectWriteGuardRef ∧
      plan.refreshPreviewCommandHash = plan'.refreshPreviewCommandHash ∧
      plan.projectedRestoreEvidencePreviewHash = plan'.projectedRestoreEvidencePreviewHash ∧
      plan.executionCommandHash = plan'.executionCommandHash := by
  have htext (key : String) {s t : String} (hs : (key, Json.str s) ∈ plan.members)
      (ht : (key, Json.str t) ∈ plan'.members) : s = t :=
    Json.same_str.mp (Json.same_of_mem h plan'.nodup_keys hs ht)
  refine ⟨htext "tenant_id" ?_ ?_, htext "approved_write_approval_evidence_hash" ?_ ?_,
    htext "execution_reference" ?_ ?_, htext "human_confirmation_reference" ?_ ?_,
    htext "source_object_write_guard_ref" ?_ ?_, htext "refresh_preview_command_hash" ?_ ?_,
    htext "projected_restore_evidence_preview_hash" ?_ ?_,
    htext "execution_command_hash" ?_ ?_⟩
  all_goals simp [ExecutionPlan.members]

namespace KnowledgeBaseArticleService

variable {service : KnowledgeBaseArticleService} {start world world' : KnowledgeBaseWorld}
variable {user : UserContext} {command : KnowledgeBaseWriteExecutionCommand}
variable {confirmed : KnowledgeBaseWriteExecutionSkeletonCommand}
variable {skeleton : KnowledgeBaseWriteExecutionSkeletonResponse}

/-! ## A confirmed write returns -/

/-- The command of an execution repeats a skeleton's, and names what the skeleton answered. -/
structure Confirms (command : KnowledgeBaseWriteExecutionCommand)
    (confirmed : KnowledgeBaseWriteExecutionSkeletonCommand)
    (skeleton : KnowledgeBaseWriteExecutionSkeletonResponse) : Prop where
  approval     : command.approvedWriteApprovalEvidenceHash =
                   confirmed.approvedWriteApprovalEvidenceHash
  decision     : command.sourceObjectWriteGuardDecision = confirmed.sourceObjectWriteGuardDecision
  preview      : command.refreshPreviewCommandHash = confirmed.refreshPreviewCommandHash
  projection   : command.projectedRestoreEvidencePreviewHash =
                   confirmed.projectedRestoreEvidencePreviewHash
  reference    : command.executionReference = confirmed.executionReference
  confirmation : command.humanConfirmationReference = confirmed.humanConfirmationReference
  skeletonHash : command.executionSkeletonCommandHash = skeleton.executionCommandHash
  planHash     : command.executionPlanHash = skeleton.executionPlanHash

/-- The hash of an execution's plan is the hash of its plan. -/
theorem buildWriteExecutionPlanHash_eq (H : HashFunctions) (tenantId : String)
    (approved : KnowledgeBaseWriteApprovalEvidence)
    (fields : KnowledgeBaseWriteExecutionCommandFields) (executionCommandHash : String) :
    buildWriteExecutionPlanHash H tenantId approved fields executionCommandHash =
      (fields.plan tenantId approved executionCommandHash).hash H := rfl

/-- The plan that is confirmed is the plan of the execution. -/
theorem Confirms.plan (h : Confirms command confirmed skeleton) (tenantId : String)
    (approved : KnowledgeBaseWriteApprovalEvidence) (executionCommandHash : String) :
    command.plan tenantId approved executionCommandHash =
      confirmed.plan tenantId approved executionCommandHash := by
  unfold KnowledgeBaseWriteExecutionCommandFields.plan
    KnowledgeBaseWriteExecutionSkeletonCommandFields.plan
  rw [h.reference, h.confirmation, h.decision, h.preview, h.projection]

/-- A source is absent when nothing is stored under its version. -/
theorem sourceObjectAbsent_eq_ok {sources : InMemorySourceObjectRepository} {tenantId : String}
    {evidence : KnowledgeBaseWriteApprovalEvidence} :
    sourceObjectAbsent sources tenantId evidence = .ok () ↔
      sources.records.get? (tenantId, evidence.proposedSourceObjectId,
        evidence.proposedSourceVersionId) = none := by
  refine ⟨fresh_of_absent, fun h => ?_⟩
  unfold sourceObjectAbsent InMemorySourceObjectRepository.get
  rw [h]

/-- What a confirmed write has left to fail. -/
theorem prepareWrite_run_of_confirmed {guarded planned : KnowledgeBaseWorld} {skeletonId : EventId}
    {now : String} {receipt : SourceObjectWriteReceipt}
    (hledger : LedgerSound service.hashes world.ledger)
    (hguard : (service.evaluateSourceObjectWriteGuard user
      command.approvedWriteApprovalEvidenceHash command.proposedSourceRecord).run world =
        (.ok command.sourceObjectWriteGuardDecision, guarded))
    (hskeleton : (service.prepareWriteExecutionSkeleton confirmed user skeletonId).run guarded =
      (.ok skeleton, planned))
    (hconfirms : Confirms command confirmed skeleton)
    (habsent : world.sources.records.get? (user.tenantId, skeleton.proposedSourceObjectId,
      skeleton.proposedSourceVersionId) = none)
    (hreceipt : buildSourceObjectWriteReceipt service.hashes command.proposedSourceRecord
      ("receipt:" ++ command.executionReference) (executionAuditChainRef command) now =
        .ok receipt) :
    ∃ prepared, ((service.prepareWrite command user now).run world).1 = .ok prepared := by
  obtain ⟨hsame, approved, sourceEvidences, restoreEvidence, hget, hreads, hdecided⟩ :=
    guard_returns hguard
  obtain ⟨-, current, projectedHashes, hcurrent, hplanned, rfl⟩ := skeleton_returns hskeleton
  rw [hsame, ← hconfirms.approval] at hcurrent
  obtain ⟨hfound, husable, hrecords, htarget, hcurrentReads, hrestore⟩ := hcurrent
  -- the guard and the skeleton have read the same
  have happroved : approved = current.approvedEvidence := Option.some.inj (hget.symm.trans hfound)
  have hread : (sourceEvidences, restoreEvidence) =
      (current.sourceEvidences, current.restoreEvidence) :=
    Except.ok.inj (Eq.symm hreads |>.trans hcurrentReads)
  obtain ⟨hsources, hrestores⟩ := Prod.mk.inj hread
  rw [happroved, hrestores] at hdecided
  obtain ⟨hsubmitted, hprojected, hprojection⟩ := hplanned
  rw [← hconfirms.decision] at hsubmitted
  rw [← hconfirms.preview, ← hconfirms.projection] at hprojection
  rw [hrecords] at htarget
  have hown : current.approvedEvidence.evidenceHash = command.approvedWriteApprovalEvidenceHash :=
    (Prod.mk.inj (hledger.key _ _ hfound)).2.symm
  have hhashes : service.requireCommandHashes user.tenantId current.approvedEvidence command
      current.sourceEvidences (service.records world.articles user.tenantId).length
      projectedHashes = .ok () := by
    refine require_bind_eq_ok.mpr ⟨?_, require_eq_ok.mpr ?_⟩
    · rw [← hrecords]
      exact hprojection
    · rw [buildWriteExecutionPlanHash_eq, hconfirms.plan, hconfirms.skeletonHash,
        hconfirms.planHash]
      rfl
  exact ⟨_, congrArg Prod.fst (prepareWrite_run hfound hown husable htarget hcurrentReads hrestore
    hsubmitted hdecided rfl hprojected hhashes (sourceObjectAbsent_eq_ok.mpr habsent) hreceipt)⟩

/-- **Of a confirmed write two things can fail**: in every run that began with an empty ledger and
no receipts, when the guard and the skeleton have answered of one state, the execution that names
their answers returns exactly if its source version is not stored yet and its receipt can be
built. -/
theorem confirmed_write_returns_iff (hdigests : WriteDigests service.hashes)
    (hledger : start.ledger = ∅) (hreceipts : start.receipts = ∅) (before : List WriteEvent)
    {eventId skeletonId : EventId} {now : String} {guarded planned : KnowledgeBaseWorld}
    (hnone : NoCollisions service start (before ++ [.execute command user eventId now]))
    (hguard : (service.evaluateSourceObjectWriteGuard user
      command.approvedWriteApprovalEvidenceHash command.proposedSourceRecord).run
        (Runs.run service.step start before) =
          (.ok command.sourceObjectWriteGuardDecision, guarded))
    (hskeleton : (service.prepareWriteExecutionSkeleton confirmed user skeletonId).run guarded =
      (.ok skeleton, planned))
    (hconfirms : Confirms command confirmed skeleton) :
    (∃ response, ((service.executeWrite command user eventId now).run planned).1 = .ok response) ↔
      (Runs.run service.step start before).sources.records.get? (user.tenantId,
          skeleton.proposedSourceObjectId, skeleton.proposedSourceVersionId) = none ∧
        ∃ receipt, buildSourceObjectWriteReceipt service.hashes command.proposedSourceRecord
          ("receipt:" ++ command.executionReference) (executionAuditChainRef command) now =
            .ok receipt := by
  have hsound := @ledgerSound_run service start hledger before
  have hlineage := lineage_run hdigests hledger hreceipts before
    (hnone.mono (List.prefix_append before _))
  obtain ⟨hstores, current, projectedHashes, hcurrent, -, hskeletonResponse⟩ :=
    skeleton_returns hskeleton
  obtain ⟨hsame, -⟩ := guard_returns hguard
  rw [hsame] at hstores hcurrent
  -- the audit events of the skeleton decide nothing
  have hblind := (@blind_executeWrite service command user eventId now).run hstores
  rw [hblind]
  constructor
  · rintro ⟨response, h⟩
    obtain ⟨prepared, hprepared, hpreviewed, -⟩ := prepares_of_returns h
    have happroved : prepared.approvedEvidence = current.approvedEvidence := by
      have hfound := hcurrent.approved
      rw [← hconfirms.approval] at hfound
      exact Option.some.inj (hprepared.approved.symm.trans hfound)
    refine ⟨?_, prepared.receipt, hprepared.receipt⟩
    have habsent := fresh_of_absent hpreviewed.absent
    rw [happroved] at habsent
    rw [hskeletonResponse]
    exact habsent
  · rintro ⟨habsent, receipt, hreceipt⟩
    obtain ⟨prepared, hprepare⟩ := prepareWrite_run_of_confirmed hsound hguard hskeleton hconfirms
      habsent hreceipt
    obtain ⟨response, hresponse, -⟩ := prepareWrite_commits hdigests hnone hsound hlineage hprepare
    obtain ⟨-, hbetween⟩ := prepareWrite_returns (Prod.ext hprepare rfl)
    refine ⟨response, ?_⟩
    unfold executeWrite
    rw [Prog.run_bind_of_ok (Prod.ext hprepare hbetween)]
    exact hresponse

/-! ## What was previewed and confirmed is executed -/

/-- What the hash of a preview's projection is taken of. -/
structure RestorePreview where
  tenantId           : String
  previewCommandHash : String
  current            : CurrentApproval
  projectedHashes    : List String

def RestorePreview.members (preview : RestorePreview) : List (String × Json) := [
  ("schema_version", .str "knowledge_base_restore_evidence_refresh_preview.v1"),
  ("tenant_id", .str preview.tenantId),
  ("module_id", .str knowledgeBaseModuleId),
  ("feature_id", .str kbArticlesWriteFeatureId),
  ("approved_write_approval_evidence_hash", .str preview.current.approvedEvidence.evidenceHash),
  ("transition_source_evidence_hash",
    optionalText preview.current.approvedEvidence.transitionSourceEvidenceHash),
  ("operation", .str preview.current.approvedEvidence.operation.value),
  ("article_object_id", .str preview.current.approvedEvidence.articleObjectId),
  ("expected_current_version_object_id",
    optionalText preview.current.approvedEvidence.expectedCurrentVersionObjectId),
  ("proposed_version_object_id", .str preview.current.approvedEvidence.proposedVersionObjectId),
  ("proposed_source_object_id", .str preview.current.approvedEvidence.proposedSourceObjectId),
  ("proposed_source_version_id", .str preview.current.approvedEvidence.proposedSourceVersionId),
  ("command_hash", .str preview.current.approvedEvidence.commandHash),
  ("preview_command_hash", .str preview.previewCommandHash),
  ("proposed_source_version_evidence_hash",
    .str preview.current.approvedEvidence.proposedSourceVersionEvidenceHash),
  ("current_restore_evidence_hash",
    .str preview.current.approvedEvidence.currentRestoreEvidenceHash),
  ("current_source_version_evidence_hashes",
    .arr ((evidenceHashes preview.current.sourceEvidences).map .str)),
  ("projected_source_version_evidence_hashes", .arr (preview.projectedHashes.map .str)),
  ("article_count_before", .int preview.current.records.length),
  ("article_count_after", .int (preview.current.records.length + preview.current.delta)),
  ("article_version_count_before", .int preview.current.records.length),
  ("article_version_count_after", .int (preview.current.records.length + preview.current.delta)),
  ("source_version_evidence_count_before", .int preview.current.sourceEvidences.length),
  ("source_version_evidence_count_after",
    .int (preview.current.sourceEvidences.length + preview.current.delta)),
  ("preview_only", .bool true),
  ("article_source_writes_allowed", .bool false),
  ("evidence_persistence_allowed", .bool false),
  ("rag_indexing_allowed", .bool false),
  ("source_authority_verified", .bool false),
  ("required_evidence", .arr (refreshPreviewRequiredEvidence.map .str))]

theorem projectedRestoreHash_eq (H : HashFunctions) (preview : RestorePreview) :
    preview.current.projectedRestoreHash H preview.tenantId preview.previewCommandHash
      preview.projectedHashes = hashJson H (.obj preview.members) := rfl

theorem RestorePreview.nodup_keys (preview : RestorePreview) :
    (preview.members.map Prod.fst).Nodup := by
  show ["schema_version", "tenant_id", "module_id", "feature_id",
    "approved_write_approval_evidence_hash", "transition_source_evidence_hash", "operation",
    "article_object_id", "expected_current_version_object_id", "proposed_version_object_id",
    "proposed_source_object_id", "proposed_source_version_id", "command_hash",
    "preview_command_hash", "proposed_source_version_evidence_hash",
    "current_restore_evidence_hash", "current_source_version_evidence_hashes",
    "projected_source_version_evidence_hashes", "article_count_before", "article_count_after",
    "article_version_count_before", "article_version_count_after",
    "source_version_evidence_count_before", "source_version_evidence_count_after", "preview_only",
    "article_source_writes_allowed", "evidence_persistence_allowed", "rag_indexing_allowed",
    "source_authority_verified", "required_evidence"].Nodup
  decide

/-- The projections that are hashed at a state for an approval and a preview. -/
def previewsAt (service : KnowledgeBaseArticleService) (world : KnowledgeBaseWorld)
    (tenantId evidenceHash previewCommandHash : String) : Set Bytes :=
  {text | ∃ current projectedHashes, service.IsCurrent world tenantId evidenceHash current ∧
    buildProjectedSourceVersionEvidenceHashes current.approvedEvidence current.sourceEvidences =
      .ok projectedHashes ∧
    text = jsonBytes (.obj (RestorePreview.mk tenantId previewCommandHash current
      projectedHashes).members)}

/-- The plans that are hashed at a state for an approval. -/
def plansAt (world : KnowledgeBaseWorld) (tenantId evidenceHash : String)
    (plan : KnowledgeBaseWriteApprovalEvidence → ExecutionPlan) : Set Bytes :=
  {text | ∃ approved, world.ledger.get? (tenantId, evidenceHash) = some approved ∧
    text = jsonBytes (.obj (plan approved).members)}

/-- What an execution that returned had read, and what it answered. -/
structure Answered (service : KnowledgeBaseArticleService)
    (command : KnowledgeBaseWriteExecutionCommand) (user : UserContext)
    (world : KnowledgeBaseWorld) (current : CurrentApproval) (projectedHashes : List String)
    (response : KnowledgeBaseWriteExecutionResponse) : Prop where
  isCurrent   : service.IsCurrent world user.tenantId command.approvedWriteApprovalEvidenceHash
                   current
  projects    : service.Projects user.tenantId command.refreshPreviewCommandHash current
                   projectedHashes command.projectedRestoreEvidencePreviewHash
  plan        : (command.plan user.tenantId current.approvedEvidence
                   command.executionSkeletonCommandHash).hash service.hashes =
                     command.executionPlanHash
  hashesAfter : response.sourceVersionEvidenceHashesAfter = projectedHashes
  answer      : ∃ eventId prepared receiptHash article refreshed restore,
                   prepared.approvedEvidence = current.approvedEvidence ∧
                   prepared.restoreEvidence = current.restoreEvidence ∧
                   response = service.executionResponse command user prepared receiptHash article
                     refreshed restore eventId

/-- The hashes that a prepared write was compared with. -/
theorem prepareWrite_named {now : String} {prepared : PreparedWrite}
    (h : (service.prepareWrite command user now).run world = (.ok prepared, world')) :
    ∃ sourceEvidences, service.Reads world user.tenantId sourceEvidences prepared.restoreEvidence ∧
      service.requireCommandHashes user.tenantId prepared.approvedEvidence command sourceEvidences
        (service.records world.articles user.tenantId).length prepared.projectedHashes =
          .ok () := by
  unfold prepareWrite evaluateWriteGuard at h
  obtain ⟨approved, -, h⟩ := (Prog.run_bind_eq_ok_of_run (Prog.run_read _ _)).mp h
  obtain ⟨_, -, h⟩ := (Prog.run_bind_eq_ok_of_run (Prog.run_lift _ _)).mp h
  obtain ⟨_, hrecords, h⟩ := (Prog.run_bind_eq_ok_of_run (run_listRecords _ _)).mp h
  cases hrecords
  obtain ⟨_, -, h⟩ := (Prog.run_bind_eq_ok_of_run (Prog.run_lift _ _)).mp h
  obtain ⟨⟨sourceEvidences, restoreEvidence⟩, hreads, h⟩ :=
    (Prog.run_bind_eq_ok_of_run (run_currentEvidence _ _ _)).mp h
  obtain ⟨_, -, h⟩ := (Prog.run_bind_eq_ok_of_run (Prog.run_lift _ _)).mp h
  obtain ⟨_, -, h⟩ := (Prog.run_bind_eq_ok_of_run (Prog.run_lift _ _)).mp h
  obtain ⟨decision, _, hguard, h⟩ := Prog.run_bind_eq_ok.mp h
  obtain ⟨evidence, -, hguard⟩ := (Prog.run_bind_eq_ok_of_run (Prog.run_read _ _)).mp hguard
  obtain ⟨-, rfl⟩ := Prod.mk.inj hguard
  obtain ⟨_, -, h⟩ := (Prog.run_bind_eq_ok_of_run (Prog.run_lift _ _)).mp h
  obtain ⟨projectedHashes, -, h⟩ := (Prog.run_bind_eq_ok_of_run (Prog.run_lift _ _)).mp h
  obtain ⟨_, hhashes, h⟩ := (Prog.run_bind_eq_ok_of_run (Prog.run_lift _ _)).mp h
  obtain ⟨_, -, h⟩ := (Prog.run_bind_eq_ok_of_run (Prog.run_read _ _)).mp h
  obtain ⟨receipt, -, h⟩ := (Prog.run_bind_eq_ok_of_run (Prog.run_lift _ _)).mp h
  obtain ⟨hprepared, -⟩ := Prod.mk.inj h
  cases hprepared
  exact ⟨sourceEvidences, hreads, hhashes⟩

/-- What is answered of a committed write. -/
theorem commitWrite_answers {eventId : EventId} {prepared : PreparedWrite}
    {response : KnowledgeBaseWriteExecutionResponse}
    (h : (service.commitWrite command user eventId prepared).run world = (.ok response, world')) :
    response.sourceVersionEvidenceHashesAfter = prepared.projectedHashes ∧
      ∃ receiptHash article refreshed restore, response = service.executionResponse command user
        prepared receiptHash article refreshed restore eventId.value := by
  unfold commitWrite at h
  obtain ⟨_, _, -, h⟩ := Prog.run_bind_eq_ok.mp h
  obtain ⟨_, _, -, h⟩ := Prog.run_bind_eq_ok.mp h
  obtain ⟨article, _, -, h⟩ := Prog.run_bind_eq_ok.mp h
  obtain ⟨_, -, h⟩ := (Prog.run_bind_eq_ok_of_run (run_listRecords _ _)).mp h
  obtain ⟨⟨_, restore⟩, -, h⟩ := (Prog.run_bind_eq_ok_of_run (run_currentEvidence _ _ _)).mp h
  obtain ⟨refreshed, hrefreshed, h⟩ := (Prog.run_bind_eq_ok_of_run (Prog.run_lift _ _)).mp h
  obtain ⟨event, _, hrecord, h⟩ := Prog.run_bind_eq_ok.mp h
  obtain ⟨hevent, -⟩ := Prod.mk.inj hrecord
  cases hevent
  obtain ⟨hvalid, -⟩ := Prod.mk.inj h
  obtain ⟨_, haccepted, hvalid⟩ := Except.bind_eq_ok.mp hvalid
  obtain ⟨-, rfl⟩ := accept_eq_ok.mp haccepted
  obtain ⟨_, -, hvalid⟩ := Except.bind_eq_ok.mp hvalid
  cases hvalid
  refine ⟨?_, _, article, refreshed, restore, rfl⟩
  unfold requireRefreshed at hrefreshed
  split at hrefreshed
  · cases hrefreshed
  · obtain ⟨-, hrefreshed⟩ := require_bind_eq_ok.mp hrefreshed
    exact (require_bind_eq_ok.mp hrefreshed).1

theorem executeWrite_answers {eventId : EventId} {now : String}
    {response : KnowledgeBaseWriteExecutionResponse}
    (h : (service.executeWrite command user eventId now).run world = (.ok response, world')) :
    ∃ current projectedHashes,
      Answered service command user world current projectedHashes response := by
  obtain ⟨prepared, between, hprepare, hcommit⟩ := Prog.run_bind_eq_ok.mp h
  obtain ⟨hprepared, -⟩ := prepareWrite_returns hprepare
  obtain ⟨⟨sourceEvidences, hreads, hprojected⟩, hrestore, -⟩ := prepareWrite_previews hprepare
  obtain ⟨sourceEvidences', hreads', hhashes⟩ := prepareWrite_named hprepare
  obtain ⟨hafter, receiptHash, article, refreshed, restore, hresponse⟩ :=
    commitWrite_answers hcommit
  -- the evidences are read once
  obtain ⟨rfl, -⟩ := Prod.mk.inj (Except.ok.inj (Eq.symm hreads |>.trans hreads'))
  obtain ⟨hprojection, hplan⟩ := require_bind_eq_ok.mp hhashes
  refine ⟨⟨prepared.approvedEvidence, _, sourceEvidences, prepared.restoreEvidence⟩,
    prepared.projectedHashes, {
      isCurrent := ⟨hprepared.approved, hprepared.usable, rfl, hprepared.target, hreads, hrestore⟩
      projects := ⟨hprojected, hprojection⟩
      plan := require_eq_ok.mp hplan
      hashesAfter := hafter
      answer := ⟨_, prepared, receiptHash, article, refreshed, restore, rfl, rfl, hresponse⟩ }⟩

/-- Projections of one text are of one approval and one list of hashes. -/
theorem RestorePreview.of_same {preview preview' : RestorePreview}
    (h : Json.Same (.obj preview.members) (.obj preview'.members)) :
    preview.tenantId = preview'.tenantId ∧
      preview.previewCommandHash = preview'.previewCommandHash ∧
      preview.projectedHashes = preview'.projectedHashes ∧
      preview.current.approvedEvidence.evidenceHash =
        preview'.current.approvedEvidence.evidenceHash ∧
      preview.current.approvedEvidence.articleObjectId =
        preview'.current.approvedEvidence.articleObjectId ∧
      preview.current.approvedEvidence.currentRestoreEvidenceHash =
        preview'.current.approvedEvidence.currentRestoreEvidenceHash := by
  have htext (key : String) {s t : String} (hs : (key, Json.str s) ∈ preview.members)
      (ht : (key, Json.str t) ∈ preview'.members) : s = t :=
    Json.same_str.mp (Json.same_of_mem h preview'.nodup_keys hs ht)
  refine ⟨htext "tenant_id" ?_ ?_, htext "preview_command_hash" ?_ ?_,
    Json.same_texts.mp (@Json.same_of_mem _ _ h preview'.nodup_keys
      "projected_source_version_evidence_hashes" _ _ ?_ ?_),
    htext "approved_write_approval_evidence_hash" ?_ ?_, htext "article_object_id" ?_ ?_,
    htext "current_restore_evidence_hash" ?_ ?_⟩
  all_goals simp [RestorePreview.members]

/-- What was answered of a preview, a plan and an execution agrees. -/
structure AsConfirmed (preview : KnowledgeBaseEvidenceRefreshPreviewResponse)
    (skeleton : KnowledgeBaseWriteExecutionSkeletonResponse)
    (response : KnowledgeBaseWriteExecutionResponse) : Prop where
  tenant       : response.tenantId = preview.tenantId ∧ response.tenantId = skeleton.tenantId
  approval     : response.approvedWriteApprovalEvidenceHash =
                   preview.approvedWriteApprovalEvidenceHash ∧
                 response.approvedWriteApprovalEvidenceHash =
                   skeleton.approvedWriteApprovalEvidenceHash
  article      : response.articleObjectId = preview.articleObjectId
  hashes       : response.sourceVersionEvidenceHashesAfter =
                   preview.projectedSourceVersionEvidenceHashes
  restore      : response.previousRestoreEvidenceHash = preview.currentRestoreEvidenceHash
  preview      : response.refreshPreviewCommandHash = preview.previewCommandHash ∧
                 response.refreshPreviewCommandHash = skeleton.refreshPreviewCommandHash
  reference    : response.executionReference = skeleton.executionReference
  confirmation : response.humanConfirmationReference = skeleton.humanConfirmationReference
  decision     : response.sourceObjectWriteGuardRef = skeleton.sourceObjectWriteGuardRef
  plan         : response.executionSkeletonCommandHash = skeleton.executionCommandHash

/-- **What was previewed and confirmed is what is executed**, whoever asked, in whatever states, and
whatever happened in between: an execution that returns for the hash of a preview and the hash of a
plan leaves the evidence hashes that the preview projected, of the restore evidence that the preview
saw, under the references that were confirmed. -/
theorem executed_as_confirmed {previewCommand : KnowledgeBaseEvidenceRefreshPreviewCommand}
    {preview : KnowledgeBaseEvidenceRefreshPreviewResponse}
    {response : KnowledgeBaseWriteExecutionResponse} {previewer confirmer : UserContext}
    {previewId skeletonId eventId : EventId} {now : String}
    {previewing previewed confirming planned executing executed : KnowledgeBaseWorld}
    (hpreview : (service.previewWriteEvidenceRefresh previewCommand previewer previewId).run
      previewing = (.ok preview, previewed))
    (hskeleton : (service.prepareWriteExecutionSkeleton confirmed confirmer skeletonId).run
      confirming = (.ok skeleton, planned))
    (hexecute : (service.executeWrite command user eventId now).run executing =
      (.ok response, executed))
    (hprojection : command.projectedRestoreEvidencePreviewHash =
      preview.projectedRestoreEvidencePreviewHash)
    (hplan : command.executionPlanHash = skeleton.executionPlanHash)
    -- no collisions among what the three have hashed
    (hpreviews : Set.InjOn service.hashes.sha256
      (service.previewsAt previewing previewer.tenantId
          previewCommand.approvedWriteApprovalEvidenceHash
          (buildEvidenceRefreshPreviewCommandHash service.hashes previewCommand) ∪
        service.previewsAt executing user.tenantId command.approvedWriteApprovalEvidenceHash
          command.refreshPreviewCommandHash))
    (hplans : Set.InjOn service.hashes.sha256
      (plansAt confirming confirmer.tenantId confirmed.approvedWriteApprovalEvidenceHash
          (confirmed.plan confirmer.tenantId · skeleton.executionCommandHash) ∪
        plansAt executing user.tenantId command.approvedWriteApprovalEvidenceHash
          (command.plan user.tenantId · command.executionSkeletonCommandHash))) :
    AsConfirmed preview skeleton response := by
  obtain ⟨current, hashes, hanswered⟩ := executeWrite_answers hexecute
  obtain ⟨-, shown, shownHashes, shownRestore, hshown, hprojects, -, rfl⟩ :=
    preview_returns hpreview
  obtain ⟨-, agreed, -, hagreed, -, rfl⟩ := skeleton_returns hskeleton
  -- one hash of a projection, and one of a plan
  have hsamePreview : Json.Same
      (.obj (RestorePreview.mk user.tenantId command.refreshPreviewCommandHash current
        hashes).members)
      (.obj (RestorePreview.mk previewer.tenantId
        (buildEvidenceRefreshPreviewCommandHash service.hashes previewCommand) shown
        shownHashes).members) := by
    refine same_of_hashJson_eq hpreviews
      (.inr ⟨current, hashes, hanswered.isCurrent, hanswered.projects.hashes, rfl⟩)
      (.inl ⟨shown, shownHashes, hshown, hprojects.hashes, rfl⟩) ?_
    rw [← projectedRestoreHash_eq, ← projectedRestoreHash_eq]
    exact hanswered.projects.restore.trans (hprojection.trans hprojects.restore.symm)
  have hsamePlan : Json.Same
      (.obj (command.plan user.tenantId current.approvedEvidence
        command.executionSkeletonCommandHash).members)
      (.obj (confirmed.plan confirmer.tenantId agreed.approvedEvidence
        (service.plannedResponse confirmed confirmer.tenantId agreed
          skeletonId).executionCommandHash).members) :=
    same_of_hashJson_eq hplans (.inr ⟨_, hanswered.isCurrent.approved, rfl⟩)
      (.inl ⟨_, hagreed.approved, rfl⟩) (hanswered.plan.trans hplan)
  obtain ⟨htenant, hcommand, hhashes, happroval, harticle, hrestore⟩ :=
    RestorePreview.of_same hsamePreview
  obtain ⟨htenant', happroval', hreference, hconfirmation, hdecision, hpreviewHash, -,
    hskeletonHash⟩ := ExecutionPlan.of_same hsamePlan
  obtain ⟨_, prepared, receiptHash, article, refreshed, restore, happroved, hread, rfl⟩ :=
    hanswered.answer
  refine {
    tenant := ⟨htenant, htenant'⟩
    approval := ⟨?_, ?_⟩
    article := ?_
    hashes := hanswered.hashesAfter.trans hhashes
    restore := ?_
    preview := ⟨hcommand, hpreviewHash⟩
    reference := hreference
    confirmation := hconfirmation
    decision := hdecision
    plan := hskeletonHash }
  · exact (congrArg (·.evidenceHash) happroved).trans happroval
  · exact (congrArg (·.evidenceHash) happroved).trans happroval'
  · exact (congrArg (·.articleObjectId) happroved).trans harticle
  · -- both restore evidences are the one that was approved
    have hbefore := congrArg (·.evidenceHash) hread
    exact hbefore.trans (hanswered.isCurrent.restore.trans (hrestore.trans hshown.restore.symm))

/-- A preview all of whose checks pass is answered. -/
theorem preview_run {previewCommand : KnowledgeBaseEvidenceRefreshPreviewCommand}
    {previewId : EventId} {current : CurrentApproval} {projectedHashes : List String}
    {projectedRestoreHash : String}
    (hcurrent : service.IsCurrent world user.tenantId
      previewCommand.approvedWriteApprovalEvidenceHash current)
    (hprojects : service.Projects user.tenantId
      (buildEvidenceRefreshPreviewCommandHash service.hashes previewCommand) current
      projectedHashes projectedRestoreHash)
    {preview : KnowledgeBaseEvidenceRefreshPreviewResponse}
    (hvalid : (previewResponse user.tenantId current
      (buildEvidenceRefreshPreviewCommandHash service.hashes previewCommand) projectedRestoreHash
      projectedHashes previewId.value).validate = .ok preview) :
    ((service.previewWriteEvidenceRefresh previewCommand user previewId).run world).1 =
      .ok preview := by
  obtain ⟨hprojected, rfl⟩ := hprojects
  unfold previewWriteEvidenceRefresh
  rw [Prog.run_bind_of_ok (currentApproval_run hcurrent _), Prog.run_lift_bind, hprojected]
  refine recordAndRespond_run (fun event hevent => ?_) _
  have hid : event.eventId = previewId.value := hevent
  rw [hid]
  exact hvalid

/-- A state has one projection for an approval and a preview, and one plan for an approval. -/
theorem subsingleton_previewsAt (service : KnowledgeBaseArticleService)
    (world : KnowledgeBaseWorld) (tenantId evidenceHash previewCommandHash : String) :
    (service.previewsAt world tenantId evidenceHash previewCommandHash).Subsingleton := by
  intro text htext text' htext'
  obtain ⟨current, hashes, hcurrent, hhashes, htext⟩ := htext
  obtain ⟨current', hashes', hcurrent', hhashes', htext'⟩ := htext'
  rw [hcurrent'.unique hcurrent] at hhashes' htext'
  rw [htext, htext', Except.ok.inj (hhashes.symm.trans hhashes')]

theorem subsingleton_plansAt (world : KnowledgeBaseWorld) (tenantId evidenceHash : String)
    (plan : KnowledgeBaseWriteApprovalEvidence → ExecutionPlan) :
    (plansAt world tenantId evidenceHash plan).Subsingleton := by
  intro text htext text' htext'
  obtain ⟨approved, hget, htext⟩ := htext
  obtain ⟨approved', hget', htext'⟩ := htext'
  rw [htext, htext', Option.some.inj (hget.symm.trans hget')]

end KnowledgeBaseArticleService

/-! ## The edit of the title -/

namespace HandbookEdit

open KnowledgeBaseArticleService

theorem planDigests : PlanDigests hashes where
  commands command := length_obj (by simp)
  plans plan := length_obj (by simp [ExecutionPlan.members])

def previewFields : KnowledgeBaseEvidenceRefreshPreviewCommandFields where
  approvedWriteApprovalEvidenceHash := codeHash 1
  previewReference := "execution:1"
  reason := "new title"

def previewCommand : KnowledgeBaseEvidenceRefreshPreviewCommand where
  toKnowledgeBaseEvidenceRefreshPreviewCommandFields := previewFields
  accepted := by
    unfold KnowledgeBaseEvidenceRefreshPreviewCommandFields.errors previewFields
    simp only [List.append_eq_nil_iff, requireFullmatch_eq_nil, texts_accepted.2.1]
    exact ⟨⟨hash_refs.2.1, references_kb "execution:1" (by simp)⟩, trivial⟩

def skeletonFields : KnowledgeBaseWriteExecutionSkeletonCommandFields where
  approvedWriteApprovalEvidenceHash := codeHash 1
  sourceObjectWriteGuardDecision := decision
  refreshPreviewCommandHash := zeroHash
  projectedRestoreEvidencePreviewHash := zeroHash
  executionReference := "execution:1"
  humanConfirmationReference := "confirmation:1"
  reason := "new title"

def skeletonCommand : KnowledgeBaseWriteExecutionSkeletonCommand where
  toKnowledgeBaseWriteExecutionSkeletonCommandFields := skeletonFields
  accepted := by
    unfold KnowledgeBaseWriteExecutionSkeletonCommandFields.errors skeletonFields
      KnowledgeBaseWriteExecutionSkeletonCommandFields.sha256Ref
      KnowledgeBaseWriteExecutionSkeletonCommandFields.namespacedRef
    simp only [List.append_eq_nil_iff, requireFullmatch_eq_nil, texts_accepted.2.1]
    exact ⟨⟨⟨⟨⟨hash_refs.2.1, hash_refs.1⟩, hash_refs.1⟩, references_kb "execution:1" (by simp)⟩,
      references_kb "confirmation:1" (by simp)⟩, trivial⟩

/-- What is read of the approved edit. -/
def approvedEdit : CurrentApproval where
  approvedEvidence := approved
  records := [article]
  sourceEvidences := [sourceEvidence "version-1" "v1"]
  restoreEvidence := restore

theorem approvedEdit_isCurrent {world : KnowledgeBaseWorld} (h : Ready world) :
    service.IsCurrent world bob.tenantId (codeHash 1) approvedEdit := by
  have hrecords : [article] = service.records world.articles bob.tenantId := by
    rw [h.articles]
    rfl
  refine ⟨h.ledger, approved_usable, hrecords, target_edit _ _, ?_, rfl⟩
  rw [KnowledgeBaseArticleService.Reads, ← hrecords, h.sources]
  exact start_evidence

theorem guard_run {world : KnowledgeBaseWorld} (h : Ready world) :
    (service.evaluateSourceObjectWriteGuard bob (codeHash 1) proposed).run world =
      (.ok decision, world) := by
  have hcurrent := approvedEdit_isCurrent h
  have hledger : (KnowledgeBaseWorld.ledgerGet bob.tenantId (codeHash 1)).run world =
      (.ok approved, world) := Prod.ext (ledgerGet_eq_ok.mpr h.ledger) rfl
  have hevidence := @run_currentEvidence service bob.tenantId
    (service.records world.articles bob.tenantId) world
  rw [show service.currentEvidenceOf world.sources bob.tenantId
    (service.records world.articles bob.tenantId) = _ from hcurrent.reads] at hevidence
  have hfound : findArticle (service.records world.articles bob.tenantId)
      approved.articleObjectId = some article := by
    rw [← hcurrent.records]
    exact findArticle_article
  unfold evaluateSourceObjectWriteGuard
  rw [Prog.run_bind_of_ok (run_listRecords _ _), Prog.run_bind_of_ok hevidence]
  dsimp only
  rw [Prog.run_bind_of_ok hledger, Prog.run_bind_of_ok hledger, Prog.run_lift, hfound]
  exact Prod.ext decided rfl

theorem previewCommand_hash :
    buildEvidenceRefreshPreviewCommandHash service.hashes previewCommand = zeroHash :=
  hash_obj (by simp)

def preview : KnowledgeBaseEvidenceRefreshPreviewResponse :=
  previewResponse "acme" approvedEdit zeroHash zeroHash [zeroHash] "event-1"

theorem preview_valid : preview.errors = [] ∧ preview.validate = .ok preview := by
  have htexts := texts_notBlank
  simp only [List.forall_mem_cons] at htexts
  obtain ⟨hacme, -, -, harticle, -, -, -, -, hversion, -, hversionId, -, -, -, hevent, -⟩ := htexts
  obtain ⟨hzero, happroved, hdryRun⟩ := hash_refs
  have hhashes : ∀ field,
      KnowledgeBaseEvidenceRefreshPreviewResponse.validateSourceHashes field [zeroHash] = [] := by
    simp [KnowledgeBaseEvidenceRefreshPreviewResponse.validateSourceHashes, hzero]
  have herrors : preview.errors = [] := by
    unfold KnowledgeBaseEvidenceRefreshPreviewResponse.errors
      KnowledgeBaseEvidenceRefreshPreviewResponse.notBlank
      KnowledgeBaseEvidenceRefreshPreviewResponse.sha256Ref
    simp only [List.append_eq_nil_iff, requireFullmatch_eq_nil, requireNotBlank_eq_nil, and_assoc]
    exact ⟨hacme, happroved, hdryRun, harticle, hversion, hversion, hversionId, hzero, hzero, hzero,
      hhashes _, hhashes _, hzero, hzero, hevent⟩
  exact ⟨herrors, Except.bind_eq_ok.mpr ⟨_, accept_eq_ok.mpr ⟨herrors, rfl⟩, rfl⟩⟩

theorem previewed {world : KnowledgeBaseWorld} (h : Ready world) : ∃ world',
    (service.previewWriteEvidenceRefresh previewCommand bob ⟨"event-1", firstEvent_notBlank⟩).run
      world = (.ok preview, world') := by
  have hrestore : approvedEdit.projectedRestoreHash service.hashes bob.tenantId
      (buildEvidenceRefreshPreviewCommandHash service.hashes previewCommand) [zeroHash] =
        zeroHash := by
    refine (projectedRestoreHash_eq service.hashes (RestorePreview.mk _ _ approvedEdit _)).trans ?_
    exact hash_obj (by simp [RestorePreview.members])
  refine ⟨_, Prod.ext (preview_run (approvedEdit_isCurrent h) ⟨projected, hrestore⟩ ?_) rfl⟩
  rw [previewCommand_hash]
  exact preview_valid.2

theorem skeletonCommand_hash : buildWriteExecutionSkeletonCommandHash service.hashes
    skeletonCommand.toKnowledgeBaseWriteExecutionSkeletonCommandFields = zeroHash :=
  hash_obj (by simp)

def skeleton : KnowledgeBaseWriteExecutionSkeletonResponse :=
  service.plannedResponse skeletonCommand "acme" approvedEdit ⟨"event-2", secondEvent_notBlank⟩

theorem skeleton_planned {world : KnowledgeBaseWorld} (h : Ready world) : ∃ world',
    (service.prepareWriteExecutionSkeleton skeletonCommand bob
      ⟨"event-2", secondEvent_notBlank⟩).run world = (.ok skeleton, world') := by
  have hrestore : approvedEdit.projectedRestoreHash service.hashes bob.tenantId zeroHash
      [zeroHash] = zeroHash := by
    refine (projectedRestoreHash_eq service.hashes (RestorePreview.mk _ _ approvedEdit _)).trans ?_
    exact hash_obj (by simp [RestorePreview.members])
  have hvalid := @plannedResponse_valid service planDigests skeletonCommand approvedEdit [zeroHash]
    "acme" zeroHash zeroHash ⟨"event-1", firstEvent_notBlank⟩ ⟨"event-2", secondEvent_notBlank⟩
    preview_valid.1 decision_matches
  exact ⟨_, Prod.ext (skeleton_run (approvedEdit_isCurrent h)
    ⟨decision_matches, projected, hrestore⟩ hvalid) rfl⟩

theorem plan_hash (plan : ExecutionPlan) : plan.hash service.hashes = zeroHash :=
  hash_obj (by simp [ExecutionPlan.members])

theorem executionCommand_confirms : Confirms executionCommand skeletonCommand skeleton where
  approval := rfl
  decision := rfl
  preview := rfl
  projection := rfl
  reference := rfl
  confirmation := rfl
  skeletonHash := skeletonCommand_hash.symm
  planHash := (plan_hash _).symm

/-- The state in which the edit has been approved. -/
theorem ready_run : Ready (Runs.run service.step start
    [.dryRun dryRunCommand alice ⟨"event-1", firstEvent_notBlank⟩,
      .approve transitionCommand bob ⟨"event-2", secondEvent_notBlank⟩]) := by
  obtain ⟨world, hworld, hready⟩ := ready
  rw [run_dryRun_approve]
  rw [← hworld] at hready
  exact hready

theorem edit_is_planned : ∃ world previewed,
    (service.previewWriteEvidenceRefresh previewCommand bob ⟨"event-1", firstEvent_notBlank⟩).run
      world = (.ok preview, previewed) ∧
    ((∃ skeleton, ((service.prepareWriteExecutionSkeleton skeletonCommand bob
      ⟨"event-2", secondEvent_notBlank⟩).run previewed).1 = .ok skeleton) ↔
        decision.allowed = true ∧ decision.ragIndexingAllowed = false) := by
  obtain ⟨world, -, hready⟩ := ready
  obtain ⟨world', hpreview⟩ := previewed hready
  have happroval : previewCommand.approvedWriteApprovalEvidenceHash =
      skeletonCommand.approvedWriteApprovalEvidenceHash := rfl
  have hhash : skeletonCommand.refreshPreviewCommandHash = preview.previewCommandHash := rfl
  have hprojection : skeletonCommand.projectedRestoreEvidencePreviewHash =
      preview.projectedRestoreEvidencePreviewHash := rfl
  have hguard : (service.evaluateSourceObjectWriteGuard bob
      skeletonCommand.approvedWriteApprovalEvidenceHash proposed).run world =
        (.ok skeletonCommand.sourceObjectWriteGuardDecision, world) := guard_run hready
  exact ⟨world, world', hpreview,
    skeleton_returns_iff planDigests hguard hpreview happroval hhash hprojection⟩

theorem confirmed_edit_returns : ∃ planned,
    (∃ response, (executeCall.run planned).1 = .ok response) ↔
      (Runs.run service.step start
        [.dryRun dryRunCommand alice ⟨"event-1", firstEvent_notBlank⟩,
          .approve transitionCommand bob ⟨"event-2", secondEvent_notBlank⟩]).sources.records.get?
            ("acme", skeleton.proposedSourceObjectId, skeleton.proposedSourceVersionId) = none ∧
        ∃ receipt, buildSourceObjectWriteReceipt hashes proposed "receipt:execution:1"
          "audit:execution:1" "2026-01-06T09:00:00Z" = .ok receipt := by
  obtain ⟨planned, hskeleton⟩ := skeleton_planned ready_run
  exact ⟨planned, confirmed_write_returns_iff writeDigests rfl rfl _ titleEvents_noCollisions
    (guard_run ready_run) hskeleton executionCommand_confirms⟩

theorem edit_as_confirmed : ∃ world executed,
    executeCall.run world = (.ok response, executed) ∧
      AsConfirmed preview skeleton response := by
  obtain ⟨world, -, hready⟩ := ready
  obtain ⟨previewed, hpreview⟩ := previewed hready
  obtain ⟨planned, hskeleton⟩ := skeleton_planned hready
  obtain ⟨executed, hexecute⟩ := executed hready
  have hplans (approved : KnowledgeBaseWriteApprovalEvidence) :
      skeletonCommand.plan bob.tenantId approved skeleton.executionCommandHash =
        executionCommand.plan bob.tenantId approved
          executionCommand.executionSkeletonCommandHash := by
    rw [executionCommand_confirms.plan, executionCommand_confirms.skeletonHash]
  refine ⟨world, executed, hexecute, executed_as_confirmed hpreview hskeleton hexecute rfl
    executionCommand_confirms.planHash ?_ ?_⟩
  · rw [previewCommand_hash, show executionCommand.approvedWriteApprovalEvidenceHash =
      previewCommand.approvedWriteApprovalEvidenceHash from rfl, show
      executionCommand.refreshPreviewCommandHash = zeroHash from rfl, Set.union_self]
    exact (subsingleton_previewsAt ..).injOn _
  · simp only [hplans]
    rw [executionCommand_confirms.approval, Set.union_self]
    exact (subsingleton_plansAt ..).injOn _

end HandbookEdit

end Collabio
