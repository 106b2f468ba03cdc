import Mathlib.Tactic
import Collabio.KnowledgeBase.Approvals

/-!
# What a stored approval says

* `KnowledgeBaseWriteApprovalEvidence.Checked`     — what its model has checked, for the fields
  that a later write relies on;
* `KnowledgeBaseWriteApprovalEvidence.SameCommand` — two evidences of one command;
* `buildWriteApprovalEvidence_eq_ok`, `buildWriteApprovalTransitionEvidence_eq_ok` — what a dry
  run and an approval store.
-/

namespace Collabio

variable {H : HashFunctions}

namespace KnowledgeBaseWriteApprovalEvidence

theorem errors_eq_nil {evidence : KnowledgeBaseWriteApprovalEvidence} :
    evidence.errors = [] ↔
      Text.strip evidence.tenantId ≠ "" ∧ Text.strip evidence.approvalReference ≠ "" ∧
      isKbRef evidence.approvalReference = true ∧ Text.strip evidence.articleObjectId ≠ "" ∧
      Text.strip evidence.articleKey ≠ "" ∧ Text.strip evidence.title ≠ "" ∧
      Text.strip evidence.proposedVersionObjectId ≠ "" ∧
      Text.strip evidence.proposedVersionLabel ≠ "" ∧
      Text.strip evidence.proposedSourceObjectId ≠ "" ∧
      Text.strip evidence.proposedSourceVersionId ≠ "" ∧
      isSha256Ref evidence.proposedSourceManifestHash = true ∧
      isSha256Ref evidence.proposedContentHash = true ∧ 1 ≤ evidence.proposedAclVersion ∧
      isSha256Ref evidence.commandHash = true ∧
      isSha256Ref evidence.proposedSourceVersionEvidenceHash = true ∧
      isSha256Ref evidence.currentRestoreEvidenceHash = true ∧
      isKbRef evidence.sourceObjectWriteGuardRef = true ∧
      (∀ hash ∈ evidence.transitionSourceEvidenceHash, isSha256Ref hash = true) ∧
      Text.strip evidence.requestedBy ≠ "" ∧ Text.strip evidence.auditEventId ≠ "" ∧
      isKbRef evidence.auditChainRef = true ∧ isSourceSystem evidence.sourceSystem = true ∧
      isSha256Ref evidence.evidenceHash = true := by
  have htransition : requireOptional (requireFullmatch isSha256Ref
      "transition_source_evidence_hash must be a sha256 reference"
      "transition_source_evidence_hash") evidence.transitionSourceEvidenceHash = [] ↔
        ∀ hash ∈ evidence.transitionSourceEvidenceHash, isSha256Ref hash = true := by
    cases evidence.transitionSourceEvidenceHash <;> simp
  unfold errors notBlank namespacedRef sha256Ref
  simp only [List.append_eq_nil_iff, andThen_eq_nil, requireNotBlank_eq_nil,
    requireFullmatch_eq_nil, requirePositive_eq_nil, htransition, and_assoc]

/-- What the model has checked of the fields that a write goes by. -/
structure Checked (evidence : KnowledgeBaseWriteApprovalEvidence) : Prop where
  articleObjectId : Text.strip evidence.articleObjectId ≠ ""
  articleKey      : Text.strip evidence.articleKey ≠ ""
  title           : Text.strip evidence.title ≠ ""
  versionObjectId : Text.strip evidence.proposedVersionObjectId ≠ ""
  versionLabel    : Text.strip evidence.proposedVersionLabel ≠ ""
  sourceObjectId  : Text.strip evidence.proposedSourceObjectId ≠ ""
  sourceVersionId : Text.strip evidence.proposedSourceVersionId ≠ ""
  aclVersion      : 1 ≤ evidence.proposedAclVersion
  sourceHash      : isSha256Ref evidence.proposedSourceVersionEvidenceHash = true
  transition      : ∀ hash ∈ evidence.transitionSourceEvidenceHash, isSha256Ref hash = true
  sourceSystem    : isSourceSystem evidence.sourceSystem = true
  sourceIsVersion : evidence.proposedSourceObjectId = evidence.proposedVersionObjectId

/-- A draft that was checked and sealed. -/
theorem sealed_eq_ok {draft evidence : KnowledgeBaseWriteApprovalEvidence} :
    draft.sealed H = .ok evidence ↔
      draft.errors = [] ∧ draft.requireApprovalLedgerSafety = .ok () ∧
        evidence = { draft with evidenceHash := buildWriteApprovalEvidenceHash H draft } := by
  unfold KnowledgeBaseWriteApprovalEvidence.sealed
  constructor
  · intro h
    obtain ⟨_, haccept, h⟩ := Except.bind_eq_ok.mp h
    obtain ⟨herrors, rfl⟩ := accept_eq_ok.mp haccept
    obtain ⟨_, hsafety, h⟩ := Except.bind_eq_ok.mp h
    cases h
    exact ⟨herrors, hsafety, rfl⟩
  · rintro ⟨herrors, hsafety, rfl⟩
    exact Except.bind_eq_ok.mpr ⟨_, accept_eq_ok.mpr ⟨herrors, rfl⟩,
      Except.bind_eq_ok.mpr ⟨(), hsafety, rfl⟩⟩

theorem checked_of_sealed {draft evidence : KnowledgeBaseWriteApprovalEvidence}
    (h : draft.sealed H = .ok evidence) : evidence.Checked := by
  obtain ⟨herrors, hsafety, rfl⟩ := sealed_eq_ok.mp h
  obtain ⟨-, -, -, harticle, hkey, htitle, hversion, hlabel, hsource, hsourceVersion, -, -, hacl,
    -, hhash, -, -, htransition, -, -, -, hsystem, -⟩ := errors_eq_nil.mp herrors
  have hsame : draft.proposedSourceObjectId = draft.proposedVersionObjectId := by
    unfold requireApprovalLedgerSafety requireModel at hsafety
    exact (require_bind_eq_ok.mp hsafety).1
  exact ⟨harticle, hkey, htitle, hversion, hlabel, hsource, hsourceVersion, hacl, hhash,
    htransition, hsystem, hsame⟩

/-- The hash does not cover itself. -/
theorem hash_of_sealed {draft evidence : KnowledgeBaseWriteApprovalEvidence}
    (h : draft.sealed H = .ok evidence) :
    buildWriteApprovalEvidenceHash H evidence = evidence.evidenceHash := by
  obtain ⟨-, -, rfl⟩ := sealed_eq_ok.mp h
  rfl

/-- The fields that an approval takes over from its dry run. -/
structure SameCommand (dryRun approved : KnowledgeBaseWriteApprovalEvidence) : Prop where
  tenantId         : approved.tenantId = dryRun.tenantId
  operation        : approved.operation = dryRun.operation
  articleObjectId  : approved.articleObjectId = dryRun.articleObjectId
  articleKey       : approved.articleKey = dryRun.articleKey
  title            : approved.title = dryRun.title
  expectedVersion  : approved.expectedCurrentVersionObjectId =
                       dryRun.expectedCurrentVersionObjectId
  proposedVersion  : approved.proposedVersionObjectId = dryRun.proposedVersionObjectId
  proposedLabel    : approved.proposedVersionLabel = dryRun.proposedVersionLabel
  sourceObjectId   : approved.proposedSourceObjectId = dryRun.proposedSourceObjectId
  sourceVersionId  : approved.proposedSourceVersionId = dryRun.proposedSourceVersionId
  sourceObjectType : approved.proposedSourceObjectType = dryRun.proposedSourceObjectType
  manifestHash     : approved.proposedSourceManifestHash = dryRun.proposedSourceManifestHash
  contentHash      : approved.proposedContentHash = dryRun.proposedContentHash
  aclVersion       : approved.proposedAclVersion = dryRun.proposedAclVersion
  commandHash      : approved.commandHash = dryRun.commandHash
  sourceHash       : approved.proposedSourceVersionEvidenceHash =
                       dryRun.proposedSourceVersionEvidenceHash
  restoreHash      : approved.currentRestoreEvidenceHash = dryRun.currentRestoreEvidenceHash
  sourceSystem     : approved.sourceSystem = dryRun.sourceSystem

end KnowledgeBaseWriteApprovalEvidence

/-- What an approval stores: an approval of this dry run, of the same command. -/
theorem buildWriteApprovalTransitionEvidence_eq_ok
    {sourceEvidence evidence : KnowledgeBaseWriteApprovalEvidence}
    {approvalReference requestedBy auditEventId auditChainRef : String}
    (h : buildWriteApprovalTransitionEvidence H sourceEvidence approvalReference requestedBy
      auditEventId auditChainRef = .ok evidence) :
    evidence.approvalState = .approvedForWrite ∧
      evidence.transitionSourceEvidenceHash = some sourceEvidence.evidenceHash ∧
      evidence.persistenceAllowed = true ∧ sourceEvidence.SameCommand evidence := by
  obtain ⟨-, -, rfl⟩ := KnowledgeBaseWriteApprovalEvidence.sealed_eq_ok.mp h
  exact ⟨rfl, rfl, rfl, rfl, rfl, rfl, rfl, rfl, rfl, rfl, rfl, rfl, rfl, rfl, rfl, rfl, rfl, rfl,
    rfl, rfl, rfl⟩

/-- What a dry run stores. -/
theorem buildWriteApprovalEvidence_eq_ok {evidence : KnowledgeBaseWriteApprovalEvidence}
    {tenantId commandHash sourceHash restoreHash requestedBy auditEventId auditChainRef : String}
    {command : KnowledgeBaseWriteApprovalCommand}
    (h : buildWriteApprovalEvidence H tenantId command commandHash sourceHash restoreHash requestedBy
      auditEventId auditChainRef = .ok evidence) :
    evidence.approvalState = .dryRun ∧ evidence.tenantId = tenantId ∧
      evidence.operation = command.operation ∧ evidence.articleKey = command.articleKey ∧
      evidence.articleObjectId = command.articleObjectId ∧
      evidence.currentRestoreEvidenceHash = restoreHash := by
  obtain ⟨-, -, rfl⟩ := KnowledgeBaseWriteApprovalEvidence.sealed_eq_ok.mp h
  exact ⟨rfl, rfl, rfl, rfl, rfl, rfl⟩

end Collabio
