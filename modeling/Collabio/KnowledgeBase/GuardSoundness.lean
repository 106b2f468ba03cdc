import Mathlib.Tactic
import Collabio.KnowledgeBase.ExecutedWrites
import Collabio.KnowledgeBase.Payloads

/-!
# What a write guard decision is worth

An execution brings a decision of its own making. It is compared with a decision that is made
again, and only by the reference, which is the hash of all that the decision says.

* `RecordSound`       — what an allowed decision says of the record;
* `Prepared.no_reasons` — the checks of a write have found no reason against it;
* `write_guard_sound` — every execution that returns had all of it.
-/

namespace Collabio

open KnowledgeBaseWorld

variable {H : HashFunctions}

/-! ## What an allowed decision says -/

/-- The record is the one that was approved, the write guard lets it pass, and nothing holds it. -/
structure RecordSound (H : HashFunctions) (tenantId : String)
    (evidence : KnowledgeBaseWriteApprovalEvidence) (record : SourceObjectRecord) : Prop where
  guard          : SourceObjectWriteGuard.validateBeforeWrite H record = .ok ()
  tenantId       : record.metadata.tenantId = tenantId
  objectId       : record.metadata.objectId = evidence.proposedSourceObjectId
  versionId      : record.metadata.versionId = evidence.proposedSourceVersionId
  objectType     : record.metadata.objectType = evidence.proposedSourceObjectType
  manifestHash   : record.metadata.manifestHash = evidence.proposedSourceManifestHash
  contentHash    : record.metadata.contentHash = evidence.proposedContentHash
  aclVersion     : record.metadata.aclVersion = evidence.proposedAclVersion
  sourceSystem   : evidence.operation = .create →
                     record.metadata.sourceSystem = evidence.sourceSystem
  classification : record.metadata.classification = .internal
  retention      : record.metadata.retentionPolicyId = "rp-standard"
  noHold         : record.metadata.legalHoldState ≠ .active

/-- An edit has an article to edit, and no hold is on it. -/
def ArticleFree (evidence : KnowledgeBaseWriteApprovalEvidence) :
    Option KnowledgeBaseArticleRecord → Prop
  | none => evidence.operation = .create
  | some article => evidence.operation = .edit ∧ article.legalHoldState ≠ "active"

namespace KnowledgeBaseSourceObjectWriteGuard

variable {tenantId : String} {evidence : KnowledgeBaseWriteApprovalEvidence}
variable {currentArticle : Option KnowledgeBaseArticleRecord} {record : SourceObjectRecord}
variable {restore : KnowledgeBaseRestoreEvidence}

theorem articleFree_of_expectedVersion
    (h : expectedVersionReasons tenantId evidence currentArticle = []) :
    ArticleFree evidence currentArticle := by
  cases currentArticle with
  | none =>
    have hcreate : evidence.operation = .create := mismatch_eq_nil.mp h
    exact hcreate
  | some article =>
    rw [expectedVersionReasons] at h
    split at h
    · cases h
    · rename_i hoperation
      simp only [List.append_eq_nil_iff, mismatch_eq_nil] at h
      refine ⟨?_, h.1.2⟩
      cases hvalue : evidence.operation with
      | create => exact absurd hvalue hoperation
      | edit => rfl

/-- **No reason against a write** is every reason for it. -/
theorem sound_of_blockingReasons
    (h : blockingReasons H tenantId evidence currentArticle record restore = .ok []) :
    buildWriteApprovalEvidenceHash H evidence = evidence.evidenceHash ∧
      RecordSound H tenantId evidence record ∧ ArticleFree evidence currentArticle := by
  obtain ⟨guardReasons, hguard, h⟩ := Except.bind_eq_ok.mp h
  obtain ⟨proposed, -, h⟩ := Except.bind_eq_ok.mp h
  -- the reasons are one list after another, and each is empty
  simp only [pure, Except.pure, Except.ok.injEq, List.append_eq_nil_iff] at h
  obtain ⟨⟨⟨⟨⟨hevidence, hversion⟩, rfl⟩, hproposed⟩, -⟩, -⟩ := h
  simp only [evidenceReasons, List.append_eq_nil_iff, mismatch_eq_nil] at hevidence
  simp only [proposedSourceReasons, List.append_eq_nil_iff, mismatch_eq_nil, and_assoc] at hproposed
  obtain ⟨htenant, hobject, hversionId, htype, hmanifest, hcontent, hacl, hsystem, hclass,
    hretention, hhold⟩ := hproposed
  refine ⟨hevidence.1.1, ?_, articleFree_of_expectedVersion hversion⟩
  exact {
    guard := metadataGuardReasons_eq_nil.mp hguard
    tenantId := htenant
    objectId := hobject
    versionId := hversionId
    objectType := htype
    manifestHash := hmanifest
    contentHash := hcontent
    aclVersion := hacl
    sourceSystem := fun hcreate => not_not.mp fun hne => hsystem ⟨hcreate, hne⟩
    classification := hclass
    retention := hretention
    noHold := hhold }

/-- A decision carries the reference of what it says, and is about the evidence it was made for. -/
theorem decide_eq_ok {decision : KnowledgeBaseSourceObjectWriteGuardDecision}
    (h : decide H tenantId evidence currentArticle record restore = .ok decision) :
    ∃ reasons, blockingReasons H tenantId evidence currentArticle record restore = .ok reasons ∧
      decision.allowed = reasons.isEmpty ∧
      decision.writeApprovalEvidenceHash = evidence.evidenceHash ∧
      decision.sourceObjectWriteGuardRef = buildSourceObjectWriteGuardRef H decision := by
  obtain ⟨reasons, hreasons, h⟩ := Except.bind_eq_ok.mp h
  obtain ⟨draft, hdraft, h⟩ := Except.bind_eq_ok.mp h
  obtain ⟨accepted, haccepted, hdraft⟩ := Except.bind_eq_ok.mp hdraft
  obtain ⟨-, rfl⟩ := accept_eq_ok.mp haccepted
  obtain ⟨_, -, hdraft⟩ := Except.bind_eq_ok.mp hdraft
  cases hdraft
  cases h
  exact ⟨reasons, hreasons, rfl, rfl, rfl⟩

end KnowledgeBaseSourceObjectWriteGuard

namespace KnowledgeBaseArticleService

variable {service : KnowledgeBaseArticleService}

/-- What the submitted decision was checked for. -/
theorem requireMatchingGuardDecision_eq_ok {evidence : KnowledgeBaseWriteApprovalEvidence}
    {decision : KnowledgeBaseSourceObjectWriteGuardDecision}
    (h : service.requireMatchingGuardDecision evidence decision = .ok ()) :
    buildSourceObjectWriteGuardRef service.hashes decision = decision.sourceObjectWriteGuardRef ∧
      decision.allowed = true ∧ decision.writeApprovalEvidenceHash = evidence.evidenceHash := by
  obtain ⟨href, h⟩ := require_bind_eq_ok.mp h
  obtain ⟨hallowed, h⟩ := require_bind_eq_ok.mp h
  obtain ⟨-, h⟩ := require_bind_eq_ok.mp h
  obtain ⟨-, h⟩ := require_bind_eq_ok.mp h
  obtain ⟨-, h⟩ := require_bind_eq_ok.mp h
  obtain ⟨-, h⟩ := require_bind_eq_ok.mp h
  obtain ⟨hhash, -⟩ := require_bind_eq_ok.mp h
  exact ⟨href, hallowed, hhash⟩

/-- **The checks of a write have found no reason against it**: a forged decision has another
reference than the one that is made again, or says what that one says. -/
theorem Prepared.no_reasons (hapart : TellsApart service.hashes)
    {command : KnowledgeBaseWriteExecutionCommand} {user : UserContext} {now : String}
    {world : KnowledgeBaseWorld} {prepared : PreparedWrite}
    (h : service.Prepared command user now world prepared) :
    KnowledgeBaseSourceObjectWriteGuard.blockingReasons service.hashes user.tenantId
      prepared.approvedEvidence prepared.existingArticle command.proposedSourceRecord
      prepared.restoreEvidence = .ok [] := by
  obtain ⟨evidence, decision, -, hdecided, hsame⟩ := h.decided
  obtain ⟨href, hallowed, hhash⟩ := requireMatchingGuardDecision_eq_ok h.submitted
  obtain ⟨reasons, hreasons, hverdict, habout, hown⟩ :=
    KnowledgeBaseSourceObjectWriteGuard.decide_eq_ok hdecided
  -- the two references are the hashes of the two decisions
  obtain ⟨hallowedAgain, haboutAgain⟩ := verdict_of_ref hapart
    ((hown.symm.trans hsame).trans href.symm)
  have hnone : reasons = [] := by
    rw [hallowed, hverdict] at hallowedAgain
    exact List.isEmpty_iff.mp hallowedAgain
  rw [hnone] at hreasons
  have hevidence := (KnowledgeBaseSourceObjectWriteGuard.sound_of_blockingReasons hreasons).1
  -- and what the guard has read is what was approved
  have heq : evidence = prepared.approvedEvidence := by
    refine KnowledgeBaseWriteApprovalEvidence.eq_of_evidenceHash hapart hevidence
      (require_bind_eq_ok.mp (require_bind_eq_ok.mp h.usable).2).1 ?_
    rw [← habout, haboutAgain, hhash]
  rw [heq] at hreasons
  exact hreasons

/-- **The checks of a write are sound.** -/
theorem Prepared.sound (hapart : TellsApart service.hashes)
    {command : KnowledgeBaseWriteExecutionCommand} {user : UserContext} {now : String}
    {world : KnowledgeBaseWorld} {prepared : PreparedWrite}
    (h : service.Prepared command user now world prepared) :
    RecordSound service.hashes user.tenantId prepared.approvedEvidence
        command.proposedSourceRecord ∧
      ArticleFree prepared.approvedEvidence prepared.existingArticle :=
  (KnowledgeBaseSourceObjectWriteGuard.sound_of_blockingReasons (h.no_reasons hapart)).2

/-- **Write-guard soundness.** Whatever decision and record a command brings, `execute_write`
returns only for a record that the guard lets pass and that was approved, in a state in which
nothing holds the record or the article that it edits. -/
theorem write_guard_sound (hapart : TellsApart service.hashes)
    {command : KnowledgeBaseWriteExecutionCommand} {user : UserContext} {eventId : EventId}
    {now : String} {world world' : KnowledgeBaseWorld}
    {response : KnowledgeBaseWriteExecutionResponse}
    (h : (service.executeWrite command user eventId now).run world = (.ok response, world')) :
    ∃ evidence, world.ledger.get? (user.tenantId, command.approvedWriteApprovalEvidenceHash) =
        some evidence ∧
      RecordSound service.hashes user.tenantId evidence command.proposedSourceRecord ∧
      (evidence.operation = .edit → ∃ article ∈ world.articles.articles,
        article.key = (user.tenantId, evidence.articleObjectId) ∧
          article.legalHoldState ≠ "active") := by
  obtain ⟨prepared, hprepared, -⟩ := executeWrite_returns h
  obtain ⟨hrecord, harticle⟩ := hprepared.sound hapart
  refine ⟨prepared.approvedEvidence, hprepared.approved, hrecord, fun hedit => ?_⟩
  cases hexisting : prepared.existingArticle with
  | none =>
    rw [hexisting, ArticleFree, hedit] at harticle
    cases harticle
  | some article =>
    rw [hexisting] at harticle
    have hfound := hprepared.existing.symm.trans hexisting
    obtain ⟨hmem, hid⟩ := findArticle_eq_some.mp hfound
    obtain ⟨hmem, htenant⟩ := mem_records.mp hmem
    exact ⟨article, hmem, Prod.ext htenant hid, harticle.2⟩

end KnowledgeBaseArticleService

open HandbookEdit in
theorem write_guard_sound_edit : ∃ world world',
    executeCall.run world = (.ok response, world') ∧
      ∃ evidence, world.ledger.get? ("acme", codeHash 1) = some evidence ∧
        RecordSound hashes "acme" evidence proposed ∧
        (evidence.operation = .edit → ∃ article ∈ world.articles.articles,
          article.key = ("acme", evidence.articleObjectId) ∧
            article.legalHoldState ≠ "active") := by
  obtain ⟨world, -, hready⟩ := ready
  obtain ⟨world', hrun⟩ := executed hready
  exact ⟨world, world', hrun, KnowledgeBaseArticleService.write_guard_sound tellsApart hrun⟩

end Collabio
