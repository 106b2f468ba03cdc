import Mathlib.Tactic
import Collabio.KnowledgeBase.CommittedWrites
import Collabio.KnowledgeBase.WritePreviews

/-!
# From a preview to a plan

* `IsCurrent`            — what a preview and a skeleton have read, at a state;
* `preview_returns`, `skeleton_returns`, `guard_returns` — what they answer;
* `skeleton_returns_iff` — after a preview, the guard's verdict decides about the plan.
-/

namespace Collabio

open KnowledgeBaseWorld

namespace KnowledgeBaseArticleService

variable {service : KnowledgeBaseArticleService} {world world' : KnowledgeBaseWorld}
variable {user : UserContext}

/-! ## What is read -/

/-- The wording of a complaint decides nothing. -/
theorem requireTarget_eq_ok {versionText existsText versionText' existsText' : String}
    {operation : KnowledgeBaseWriteOperation} {objectId : String} {expected : Option String}
    {existing : Option KnowledgeBaseArticleRecord}
    (h : requireTarget versionText existsText operation objectId expected existing = .ok ()) :
    requireTarget versionText' existsText' operation objectId expected existing = .ok () := by
  cases existing with
  | none => exact h
  | some article =>
    cases operation with
    | edit => exact require_eq_ok.mpr (require_eq_ok.mp h)
    | create => cases h

/-- An approval with this hash is in the ledger, may be used, and agrees with the articles. -/
structure IsCurrent (service : KnowledgeBaseArticleService) (world : KnowledgeBaseWorld)
    (tenantId evidenceHash : String) (current : CurrentApproval) : Prop where
  approved : world.ledger.get? (tenantId, evidenceHash) = some current.approvedEvidence
  usable   : service.requireRefreshPreviewApprovedEvidence current.approvedEvidence = .ok ()
  records  : current.records = service.records world.articles tenantId
  target   : requireExecutionTarget current.approvedEvidence current.records = .ok ()
  reads    : service.Reads world tenantId current.sourceEvidences current.restoreEvidence
  restore  : current.restoreEvidence.evidenceHash =
               current.approvedEvidence.currentRestoreEvidenceHash

/-- Of one approval there is one reading. -/
theorem IsCurrent.unique {tenantId evidenceHash : String} {current current' : CurrentApproval}
    (h : service.IsCurrent world tenantId evidenceHash current)
    (h' : service.IsCurrent world tenantId evidenceHash current') : current = current' := by
  have happroved := Option.some.inj (h.approved.symm.trans h'.approved)
  have hrecords := h.records.trans h'.records.symm
  have hreads : (current.sourceEvidences, current.restoreEvidence) =
      (current'.sourceEvidences, current'.restoreEvidence) :=
    Except.ok.inj (Eq.symm h.reads |>.trans h'.reads)
  obtain ⟨hsources, hrestore⟩ := Prod.mk.inj hreads
  cases current
  cases current'
  cases happroved
  cases hrecords
  cases hsources
  cases hrestore
  rfl

/-- What is read is read of the stores. -/
theorem IsCurrent.congr {tenantId evidenceHash : String} {current : CurrentApproval}
    (hstores : world.stores = world'.stores)
    (h : service.IsCurrent world tenantId evidenceHash current) :
    service.IsCurrent world' tenantId evidenceHash current := by
  obtain ⟨hledger, -, hsources, harticles⟩ := stores_eq_iff.mp hstores
  obtain ⟨happroved, husable, hrecords, htarget, hreads, hrestore⟩ := h
  refine ⟨?_, husable, ?_, htarget, ?_, hrestore⟩
  · rw [← hledger]
    exact happroved
  · rw [← harticles]
    exact hrecords
  · rw [Reads, ← hsources, ← harticles]
    exact hreads

theorem currentApproval_returns {existsText tenantId evidenceHash : String}
    {current : CurrentApproval}
    (h : (service.currentApproval existsText tenantId evidenceHash).run world =
      (.ok current, world')) :
    service.IsCurrent world tenantId evidenceHash current ∧ world' = world := by
  unfold currentApproval at h
  obtain ⟨approved, hget, h⟩ := (Prog.run_bind_eq_ok_of_run (Prog.run_read _ _)).mp h
  obtain ⟨_, husable, h⟩ := (Prog.run_bind_eq_ok_of_run (Prog.run_lift _ _)).mp h
  obtain ⟨_, hrecords, h⟩ := (Prog.run_bind_eq_ok_of_run (run_listRecords _ _)).mp h
  cases hrecords
  obtain ⟨_, htarget, h⟩ := (Prog.run_bind_eq_ok_of_run (Prog.run_lift _ _)).mp h
  obtain ⟨⟨sourceEvidences, restoreEvidence⟩, hreads, h⟩ :=
    (Prog.run_bind_eq_ok_of_run (run_currentEvidence _ _ _)).mp h
  obtain ⟨_, hrestore, h⟩ := (Prog.run_bind_eq_ok_of_run (Prog.run_lift _ _)).mp h
  obtain ⟨hcurrent, rfl⟩ := Prod.mk.inj h
  cases hcurrent
  exact ⟨⟨ledgerGet_eq_ok.mp hget, husable, rfl, requireTarget_eq_ok htarget, hreads,
    require_eq_ok.mp hrestore⟩, rfl⟩

theorem currentApproval_run {tenantId evidenceHash : String} {current : CurrentApproval}
    (h : service.IsCurrent world tenantId evidenceHash current) (existsText : String) :
    (service.currentApproval existsText tenantId evidenceHash).run world =
      (.ok current, world) := by
  obtain ⟨happroved, husable, hrecords, htarget, hreads, hrestore⟩ := h
  have hledger : (ledgerGet tenantId evidenceHash).run world =
      (.ok current.approvedEvidence, world) := Prod.ext (ledgerGet_eq_ok.mpr happroved) rfl
  have hevidence := @run_currentEvidence service tenantId
    (service.records world.articles tenantId) world
  rw [show service.currentEvidenceOf world.sources tenantId
    (service.records world.articles tenantId) = _ from hreads] at hevidence
  rw [hrecords] at htarget
  unfold currentApproval
  rw [Prog.run_bind_of_ok hledger, Prog.run_lift_bind, husable]
  dsimp only
  rw [Prog.run_bind_of_ok (run_listRecords _ _), Prog.run_lift_bind, requireTarget_eq_ok htarget]
  dsimp only
  rw [Prog.run_bind_of_ok hevidence, Prog.run_lift_bind, require_eq_ok.mpr hrestore]
  dsimp only
  rw [← hrecords]
  rfl

/-! ## What is answered -/

/-- What the write would leave, for a preview of this command hash. -/
structure Projects (service : KnowledgeBaseArticleService) (tenantId previewCommandHash : String)
    (current : CurrentApproval) (projectedHashes : List String) (projectedRestoreHash : String) :
    Prop where
  hashes  : buildProjectedSourceVersionEvidenceHashes current.approvedEvidence
              current.sourceEvidences = .ok projectedHashes
  restore : current.projectedRestoreHash service.hashes tenantId previewCommandHash
              projectedHashes = projectedRestoreHash

theorem preview_returns {command : KnowledgeBaseEvidenceRefreshPreviewCommand} {eventId : EventId}
    {preview : KnowledgeBaseEvidenceRefreshPreviewResponse}
    (h : (service.previewWriteEvidenceRefresh command user eventId).run world =
      (.ok preview, world')) :
    world'.stores = world.stores ∧ ∃ current projectedHashes projectedRestoreHash,
      service.IsCurrent world user.tenantId command.approvedWriteApprovalEvidenceHash current ∧
      service.Projects user.tenantId (buildEvidenceRefreshPreviewCommandHash service.hashes command)
        current projectedHashes projectedRestoreHash ∧
      preview.errors = [] ∧
      preview = previewResponse user.tenantId current
        (buildEvidenceRefreshPreviewCommandHash service.hashes command) projectedRestoreHash
        projectedHashes eventId.value := by
  unfold previewWriteEvidenceRefresh at h
  obtain ⟨current, between, hcurrent, h⟩ := Prog.run_bind_eq_ok.mp h
  obtain ⟨hcurrent, hbetween⟩ := currentApproval_returns hcurrent
  rw [hbetween] at h
  obtain ⟨projectedHashes, hprojected, h⟩ :=
    (Prog.run_bind_eq_ok_of_run (Prog.run_lift _ _)).mp h
  obtain ⟨event, after, hrecord, h⟩ := Prog.run_bind_eq_ok.mp h
  obtain ⟨hvalid, hafter⟩ := Prod.mk.inj h
  have hstores := stores_of_recordAudit hrecord
  rw [hafter] at hstores
  obtain ⟨hevent, -⟩ := Prod.mk.inj hrecord
  cases hevent
  obtain ⟨_, haccepted, hvalid⟩ := Except.bind_eq_ok.mp hvalid
  obtain ⟨herrors, rfl⟩ := accept_eq_ok.mp haccepted
  obtain ⟨_, -, hvalid⟩ := Except.bind_eq_ok.mp hvalid
  cases hvalid
  exact ⟨hstores, current, projectedHashes, _, hcurrent, ⟨hprojected, rfl⟩, herrors, rfl⟩

/-- What the checks of a skeleton have established. -/
structure PlanChecked (service : KnowledgeBaseArticleService)
    (command : KnowledgeBaseWriteExecutionSkeletonCommand) (tenantId : String)
    (current : CurrentApproval) (projectedHashes : List String) : Prop where
  submitted : service.requireMatchingGuardDecision current.approvedEvidence
                command.sourceObjectWriteGuardDecision = .ok ()
  projects  : service.Projects tenantId command.refreshPreviewCommandHash current projectedHashes
                command.projectedRestoreEvidencePreviewHash

/-- The answer of a skeleton. -/
def plannedResponse (service : KnowledgeBaseArticleService)
    (command : KnowledgeBaseWriteExecutionSkeletonCommand) (tenantId : String)
    (current : CurrentApproval) (eventId : EventId) :
    KnowledgeBaseWriteExecutionSkeletonResponse :=
  skeletonResponse command tenantId current
    (buildWriteExecutionSkeletonCommandHash service.hashes
      command.toKnowledgeBaseWriteExecutionSkeletonCommandFields)
    ((command.plan tenantId current.approvedEvidence
      (buildWriteExecutionSkeletonCommandHash service.hashes
        command.toKnowledgeBaseWriteExecutionSkeletonCommandFields)).hash service.hashes)
    eventId.value

theorem skeleton_returns {command : KnowledgeBaseWriteExecutionSkeletonCommand}
    {eventId : EventId} {skeleton : KnowledgeBaseWriteExecutionSkeletonResponse}
    (h : (service.prepareWriteExecutionSkeleton command user eventId).run world =
      (.ok skeleton, world')) :
    world'.stores = world.stores ∧ ∃ current projectedHashes,
      service.IsCurrent world user.tenantId command.approvedWriteApprovalEvidenceHash current ∧
      service.PlanChecked command user.tenantId current projectedHashes ∧
      skeleton = service.plannedResponse command user.tenantId current eventId := by
  unfold prepareWriteExecutionSkeleton at h
  obtain ⟨current, between, hcurrent, h⟩ := Prog.run_bind_eq_ok.mp h
  obtain ⟨hcurrent, hbetween⟩ := currentApproval_returns hcurrent
  rw [hbetween] at h
  obtain ⟨_, hsubmitted, h⟩ := (Prog.run_bind_eq_ok_of_run (Prog.run_lift _ _)).mp h
  obtain ⟨projectedHashes, hprojected, h⟩ :=
    (Prog.run_bind_eq_ok_of_run (Prog.run_lift _ _)).mp h
  obtain ⟨_, hrestore, h⟩ := (Prog.run_bind_eq_ok_of_run (Prog.run_lift _ _)).mp h
  obtain ⟨event, after, hrecord, h⟩ := Prog.run_bind_eq_ok.mp h
  obtain ⟨hvalid, hafter⟩ := Prod.mk.inj h
  have hstores := stores_of_recordAudit hrecord
  rw [hafter] at hstores
  obtain ⟨hevent, -⟩ := Prod.mk.inj hrecord
  cases hevent
  obtain ⟨_, haccepted, hvalid⟩ := Except.bind_eq_ok.mp hvalid
  obtain ⟨-, rfl⟩ := accept_eq_ok.mp haccepted
  obtain ⟨_, -, hvalid⟩ := Except.bind_eq_ok.mp hvalid
  cases hvalid
  exact ⟨hstores, current, projectedHashes, hcurrent,
    ⟨hsubmitted, hprojected, require_eq_ok.mp hrestore⟩, rfl⟩

/-- A plan all of whose checks pass is answered. -/
theorem skeleton_run {command : KnowledgeBaseWriteExecutionSkeletonCommand} {eventId : EventId}
    {current : CurrentApproval} {projectedHashes : List String}
    (hcurrent : service.IsCurrent world user.tenantId command.approvedWriteApprovalEvidenceHash
      current)
    (hplanned : service.PlanChecked command user.tenantId current projectedHashes)
    (hvalid : (service.plannedResponse command user.tenantId current eventId).validate =
      .ok (service.plannedResponse command user.tenantId current eventId)) :
    ((service.prepareWriteExecutionSkeleton command user eventId).run world).1 =
      .ok (service.plannedResponse command user.tenantId current eventId) := by
  obtain ⟨hsubmitted, hprojected, hrestore⟩ := hplanned
  unfold prepareWriteExecutionSkeleton
  rw [Prog.run_bind_of_ok (currentApproval_run hcurrent _), Prog.run_lift_bind, hsubmitted]
  dsimp only
  rw [Prog.run_lift_bind, hprojected]
  dsimp only
  rw [Prog.run_lift_bind, require_eq_ok.mpr hrestore]
  refine recordAndRespond_run (fun event hevent => ?_) _
  have hid : event.eventId = eventId.value := hevent
  rw [hid]
  exact hvalid

theorem guard_returns {evidenceHash : String} {record : SourceObjectRecord}
    {decision : KnowledgeBaseSourceObjectWriteGuardDecision}
    (h : (service.evaluateSourceObjectWriteGuard user evidenceHash record).run world =
      (.ok decision, world')) :
    world' = world ∧ ∃ approved sourceEvidences restoreEvidence,
      world.ledger.get? (user.tenantId, evidenceHash) = some approved ∧
      service.Reads world user.tenantId sourceEvidences restoreEvidence ∧
      KnowledgeBaseSourceObjectWriteGuard.decide service.hashes user.tenantId approved
        (findArticle (service.records world.articles user.tenantId) approved.articleObjectId)
        record restoreEvidence = .ok decision := by
  unfold evaluateSourceObjectWriteGuard at h
  obtain ⟨_, hrecords, h⟩ := (Prog.run_bind_eq_ok_of_run (run_listRecords _ _)).mp h
  cases hrecords
  obtain ⟨⟨sourceEvidences, restoreEvidence⟩, hreads, h⟩ :=
    (Prog.run_bind_eq_ok_of_run (run_currentEvidence _ _ _)).mp h
  obtain ⟨evidence, hget, h⟩ := (Prog.run_bind_eq_ok_of_run (Prog.run_read _ _)).mp h
  obtain ⟨reread, hreread, h⟩ := (Prog.run_bind_eq_ok_of_run (Prog.run_read _ _)).mp h
  obtain ⟨hdecided, hworld⟩ := Prod.mk.inj h
  cases Except.ok.inj (hget.symm.trans hreread)
  exact ⟨hworld.symm, evidence, sourceEvidences, restoreEvidence, ledgerGet_eq_ok.mp hget, hreads,
    hdecided⟩

/-! ## The guard's verdict -/

/-- A decision is its draft, with the reference of the draft. -/
theorem decision_of_draft {H : HashFunctions} {tenantId : String}
    {evidence : KnowledgeBaseWriteApprovalEvidence}
    {currentArticle : Option KnowledgeBaseArticleRecord} {record : SourceObjectRecord}
    {restore : KnowledgeBaseRestoreEvidence}
    {decision : KnowledgeBaseSourceObjectWriteGuardDecision}
    (h : KnowledgeBaseSourceObjectWriteGuard.decide H tenantId evidence currentArticle record
      restore = .ok decision) :
    ∃ reasons, decision =
      { KnowledgeBaseSourceObjectWriteGuard.decisionDraft tenantId evidence reasons with
        sourceObjectWriteGuardRef := buildSourceObjectWriteGuardRef H
          (KnowledgeBaseSourceObjectWriteGuard.decisionDraft tenantId evidence reasons) } := by
  obtain ⟨reasons, -, h⟩ := Except.bind_eq_ok.mp h
  obtain ⟨draft, hdraft, h⟩ := Except.bind_eq_ok.mp h
  obtain ⟨accepted, haccepted, hdraft⟩ := Except.bind_eq_ok.mp hdraft
  obtain ⟨-, rfl⟩ := accept_eq_ok.mp haccepted
  obtain ⟨_, -, hdraft⟩ := Except.bind_eq_ok.mp hdraft
  cases hdraft
  cases h
  exact ⟨reasons, rfl⟩

/-- An allowed decision of the guard is about the approval that it was made for. -/
theorem requireMatchingGuardDecision_of_decided {tenantId : String}
    {approved : KnowledgeBaseWriteApprovalEvidence}
    {currentArticle : Option KnowledgeBaseArticleRecord} {record : SourceObjectRecord}
    {restore : KnowledgeBaseRestoreEvidence}
    {decision : KnowledgeBaseSourceObjectWriteGuardDecision}
    (husable : service.requireRefreshPreviewApprovedEvidence approved = .ok ())
    (h : KnowledgeBaseSourceObjectWriteGuard.decide service.hashes tenantId approved currentArticle
      record restore = .ok decision)
    (hallowed : decision.allowed = true) (hrag : decision.ragIndexingAllowed = false) :
    service.requireMatchingGuardDecision approved decision = .ok () := by
  obtain ⟨reasons, rfl⟩ := decision_of_draft h
  obtain rfl : reasons = [] := List.isEmpty_iff.mp hallowed
  obtain ⟨-, husable⟩ := require_bind_eq_ok.mp husable
  obtain ⟨-, husable⟩ := require_bind_eq_ok.mp husable
  obtain ⟨hpersistence, -⟩ := require_bind_eq_ok.mp husable
  unfold requireMatchingGuardDecision
  simp only [require_bind_eq_ok, require_eq_ok]
  exact ⟨rfl, rfl, rfl, hpersistence, hrag, rfl, rfl, rfl, rfl, rfl, rfl, rfl, rfl, rfl, rfl⟩

/-- And what a matching decision allows. -/
theorem allowed_of_requireMatchingGuardDecision {approved : KnowledgeBaseWriteApprovalEvidence}
    {decision : KnowledgeBaseSourceObjectWriteGuardDecision}
    (h : service.requireMatchingGuardDecision approved decision = .ok ()) :
    decision.allowed = true ∧ decision.ragIndexingAllowed = false := by
  unfold requireMatchingGuardDecision at h
  simp only [require_bind_eq_ok, require_eq_ok] at h
  obtain ⟨-, hallowed, -, -, hrag, -⟩ := h
  exact ⟨hallowed, hrag⟩

/-! ## From the preview to the plan -/

/-- The digests of what a skeleton hashes have 32 bytes. -/
structure PlanDigests (H : HashFunctions) : Prop where
  commands : ∀ command : KnowledgeBaseWriteExecutionSkeletonCommandFields,
               (H.sha256 (jsonBytes command.dump)).length = 32
  plans    : ∀ plan : ExecutionPlan, (H.sha256 (jsonBytes (.obj plan.members))).length = 32

/-- The answer of a skeleton is checked for what its preview was checked for. -/
theorem plannedResponse_valid (hdigests : PlanDigests service.hashes)
    {command : KnowledgeBaseWriteExecutionSkeletonCommand} {current : CurrentApproval}
    {projectedHashes : List String} {tenantId previewCommandHash projectedRestoreHash : String}
    {previewId eventId : EventId}
    (hpreview : (previewResponse tenantId current previewCommandHash projectedRestoreHash
      projectedHashes previewId.value).errors = [])
    (hsubmitted : service.requireMatchingGuardDecision current.approvedEvidence
      command.sourceObjectWriteGuardDecision = .ok ()) :
    (service.plannedResponse command tenantId current eventId).validate =
      .ok (service.plannedResponse command tenantId current eventId) := by
  unfold KnowledgeBaseEvidenceRefreshPreviewResponse.errors
    KnowledgeBaseEvidenceRefreshPreviewResponse.notBlank
    KnowledgeBaseEvidenceRefreshPreviewResponse.sha256Ref at hpreview
  simp only [List.append_eq_nil_iff, requireFullmatch_eq_nil, requireNotBlank_eq_nil,
    and_assoc] at hpreview
  obtain ⟨htenant, happroved, htransition, harticle, hversion, hsource, hsourceVersion, hcommand, -,
    hproposed, -, -, hrestore, -, -⟩ := hpreview
  have haccepted := command.accepted
  unfold KnowledgeBaseWriteExecutionSkeletonCommandFields.errors
    KnowledgeBaseWriteExecutionSkeletonCommandFields.sha256Ref
    KnowledgeBaseWriteExecutionSkeletonCommandFields.namespacedRef at haccepted
  simp only [List.append_eq_nil_iff, requireFullmatch_eq_nil, and_assoc] at haccepted
  obtain ⟨-, hpreviewHash, hprojected, hreference, hconfirmation, -⟩ := haccepted
  have hguard :
      isKbRef command.sourceObjectWriteGuardDecision.sourceObjectWriteGuardRef = true := by
    obtain ⟨href, -, -⟩ := requireMatchingGuardDecision_eq_ok hsubmitted
    rw [← href]
    exact (isKbRef_behind (line_computeContentHash _)).2
  have hreasons : KnowledgeBaseWriteExecutionSkeletonResponse.validateBlockingReasons
      skeletonBlockingReasons = [] := by decide +kernel
  have herrors : (service.plannedResponse command tenantId current eventId).errors = [] := by
    unfold KnowledgeBaseWriteExecutionSkeletonResponse.errors
      KnowledgeBaseWriteExecutionSkeletonResponse.notBlank
      KnowledgeBaseWriteExecutionSkeletonResponse.namespacedRef
      KnowledgeBaseWriteExecutionSkeletonResponse.sha256Ref
    simp only [List.append_eq_nil_iff, requireFullmatch_eq_nil, requireNotBlank_eq_nil, and_assoc]
    exact ⟨htenant, hreference, hconfirmation, happroved, htransition, hguard, hpreviewHash,
      hprojected, harticle, hversion, hsource, hsourceVersion, hcommand,
      isSha256Ref_computeContentHash (hdigests.commands _),
      isSha256Ref_computeContentHash (hdigests.plans _), hproposed, hrestore, hreasons,
      eventId.notBlank⟩
  have hblocked : (service.plannedResponse command tenantId current
      eventId).requireSkeletonNoWriteContract = .ok () := by
    unfold KnowledgeBaseWriteExecutionSkeletonResponse.requireSkeletonNoWriteContract requireModel
    exact require_eq_ok.mpr (List.cons_ne_nil _ _)
  exact Except.bind_eq_ok.mpr ⟨_, accept_eq_ok.mpr ⟨herrors, rfl⟩,
    Except.bind_eq_ok.mpr ⟨(), hblocked, rfl⟩⟩

/-- **After a preview, the guard's verdict decides about the plan**, whatever the stores hold: a
skeleton that names a decision of the guard and a preview, both made of these stores, is answered
exactly if the decision allows the write and no indexing. -/
theorem skeleton_returns_iff (hdigests : PlanDigests service.hashes)
    {command : KnowledgeBaseWriteExecutionSkeletonCommand} {record : SourceObjectRecord}
    {previewCommand : KnowledgeBaseEvidenceRefreshPreviewCommand} {previewId eventId : EventId}
    {preview : KnowledgeBaseEvidenceRefreshPreviewResponse} {guarded previewed : KnowledgeBaseWorld}
    (hguard : (service.evaluateSourceObjectWriteGuard user
      command.approvedWriteApprovalEvidenceHash record).run world =
        (.ok command.sourceObjectWriteGuardDecision, guarded))
    (hpreview : (service.previewWriteEvidenceRefresh previewCommand user previewId).run guarded =
      (.ok preview, previewed))
    (happroval : previewCommand.approvedWriteApprovalEvidenceHash =
      command.approvedWriteApprovalEvidenceHash)
    (hpreviewHash : command.refreshPreviewCommandHash = preview.previewCommandHash)
    (hprojectedHash : command.projectedRestoreEvidencePreviewHash =
      preview.projectedRestoreEvidencePreviewHash) :
    (∃ skeleton, ((service.prepareWriteExecutionSkeleton command user eventId).run previewed).1 =
      .ok skeleton) ↔
        command.sourceObjectWriteGuardDecision.allowed = true ∧
          command.sourceObjectWriteGuardDecision.ragIndexingAllowed = false := by
  constructor
  · rintro ⟨skeleton, h⟩
    obtain ⟨-, current, projectedHashes, -, hplanned, -⟩ := skeleton_returns (Prod.ext h rfl)
    exact allowed_of_requireMatchingGuardDecision hplanned.submitted
  · rintro ⟨hallowed, hrag⟩
    obtain ⟨hsame, approved, -, restoreEvidence, hget, -, hdecided⟩ := guard_returns hguard
    obtain ⟨hstores, current, projectedHashes, projectedRestoreHash, hcurrent, hprojects, herrors,
      hresponse⟩ := preview_returns hpreview
    rw [hsame, happroval] at hcurrent
    rw [hsame] at hstores
    -- the guard has read the approval that the preview has read
    have happroved : approved = current.approvedEvidence :=
      Option.some.inj (hget.symm.trans hcurrent.approved)
    rw [happroved] at hdecided
    have hsubmitted :=
      requireMatchingGuardDecision_of_decided hcurrent.usable hdecided hallowed hrag
    rw [hresponse] at hpreviewHash hprojectedHash herrors
    refine ⟨_, skeleton_run (hcurrent.congr hstores.symm)
      ⟨hsubmitted, hprojects.hashes, ?_⟩ (plannedResponse_valid hdigests herrors hsubmitted)⟩
    rw [hpreviewHash, hprojectedHash]
    exact hprojects.restore

end KnowledgeBaseArticleService

end Collabio
