import Mathlib.Tactic
import Collabio.KnowledgeBase.ConcurrentApprovals
import Collabio.KnowledgeBase.Payloads
import Collabio.Storage.PgSourceObjects

/-!
# Operations that succeed

* `dryRun_run`, `approve_run`         — a dry run and an approval all of whose checks pass;
* `prepareWrite_run`, `commitWrite_run` — the two halves of an execution, likewise;
* `HandbookEdit`                        — an edit that is tried, approved and executed.
-/

namespace Collabio

open KnowledgeBaseWorld

namespace KnowledgeBaseArticleService

variable {service : KnowledgeBaseArticleService}

/-- What is left in the stores of a dry run all of whose checks pass. -/
theorem dryRun_run {command : KnowledgeBaseWriteApprovalCommand} {user : UserContext}
    {eventId : EventId} {world : KnowledgeBaseWorld}
    {sourceEvidences : List KnowledgeBaseSourceVersionEvidence}
    {restoreEvidence : KnowledgeBaseRestoreEvidence}
    {proposed : KnowledgeBaseSourceVersionEvidence} {evidence : KnowledgeBaseWriteApprovalEvidence}
    (htarget : requireDryRunTarget command (service.records world.articles user.tenantId) = .ok ())
    (hreads : service.Reads world user.tenantId sourceEvidences restoreEvidence)
    (hproposed : buildProposedSourceVersionEvidence service.hashes user.tenantId command =
      .ok proposed)
    (hbuilt : buildWriteApprovalEvidence service.hashes user.tenantId command
      (buildWriteApprovalCommandHash service.hashes command) proposed.evidenceHash
      restoreEvidence.evidenceHash user.userId eventId.value ("audit:" ++ eventId.value) =
        .ok evidence) :
    ∃ auditEvents, ((service.dryRunWriteApproval command user eventId).run world).2 = { world with
      ledger := (InMemoryKnowledgeBaseWriteApprovalLedger.append evidence world.ledger).2
      auditEvents } := by
  -- what is read on the way leaves the world as it is
  have hevidence := @run_currentEvidence service user.tenantId
    (service.records world.articles user.tenantId) world
  rw [show service.currentEvidenceOf world.sources user.tenantId
    (service.records world.articles user.tenantId) = _ from hreads] at hevidence
  unfold dryRunWriteApproval
  rw [Prog.run_bind_of_ok (run_listRecords _ _), Prog.run_lift_bind, htarget]
  dsimp only
  rw [Prog.run_bind_of_ok hevidence, Prog.run_lift_bind, hproposed]
  dsimp only
  refine ⟨_, recordAndAppend_run (fun event hevent => ?_) world⟩
  rw [hevent]
  exact hbuilt

/-- The same of an approval. -/
theorem approve_run {command : KnowledgeBaseWriteApprovalTransitionCommand} {user : UserContext}
    {eventId : EventId} {world : KnowledgeBaseWorld}
    {dryRun approved : KnowledgeBaseWriteApprovalEvidence}
    (hget : world.ledger.get? (user.tenantId, command.dryRunWriteApprovalEvidenceHash) =
      some dryRun)
    (happrovable : service.requireApprovableDryRunEvidence dryRun = .ok ())
    (hnone : requireNotAlreadyApproved dryRun.evidenceHash
      (InMemoryKnowledgeBaseWriteApprovalLedger.listEvidence world.ledger user.tenantId) = .ok ())
    (hstate : service.Approvable user dryRun world)
    (hbuilt : buildWriteApprovalTransitionEvidence service.hashes dryRun command.approvalReference
      user.userId eventId.value ("audit:" ++ eventId.value) = .ok approved) :
    ∃ auditEvents, ((service.approveWriteApproval command user eventId).run world).2 = { world with
      ledger := (InMemoryKnowledgeBaseWriteApprovalLedger.append approved world.ledger).2
      auditEvents } := by
  obtain ⟨rest, hrest, hdoes⟩ := approve_splits service command user eventId
  have hfirst : (ledgerGet user.tenantId command.dryRunWriteApprovalEvidenceHash).run world =
      (.ok dryRun, world) := Prod.ext (ledgerGet_eq_ok.mpr hget) rfl
  have hsecond : (listEvidence user.tenantId).run world =
      (.ok (InMemoryKnowledgeBaseWriteApprovalLedger.listEvidence world.ledger user.tenantId),
        world) := rfl
  rw [hrest, Prog.run_bind_of_ok hfirst, Prog.run_lift_bind, happrovable]
  dsimp only
  rw [Prog.run_bind_of_ok hsecond, Prog.run_lift_bind, hnone]
  exact hdoes dryRun approved world hstate hbuilt

/-- An execution all of whose checks pass prepares its write. -/
theorem prepareWrite_run {command : KnowledgeBaseWriteExecutionCommand} {user : UserContext}
    {now : String} {world : KnowledgeBaseWorld} {approved : KnowledgeBaseWriteApprovalEvidence}
    {sourceEvidences : List KnowledgeBaseSourceVersionEvidence}
    {restoreEvidence : KnowledgeBaseRestoreEvidence}
    {decision : KnowledgeBaseSourceObjectWriteGuardDecision} {projectedHashes : List String}
    {receipt : SourceObjectWriteReceipt}
    (hget : world.ledger.get? (user.tenantId, command.approvedWriteApprovalEvidenceHash) =
      some approved)
    (hown : approved.evidenceHash = command.approvedWriteApprovalEvidenceHash)
    (husable : service.requireRefreshPreviewApprovedEvidence approved = .ok ())
    (htarget : requireExecutionTarget approved (service.records world.articles user.tenantId) =
      .ok ())
    (hreads : service.Reads world user.tenantId sourceEvidences restoreEvidence)
    (hrestore : restoreEvidence.evidenceHash = approved.currentRestoreEvidenceHash)
    (hsubmitted : service.requireMatchingGuardDecision approved
      command.sourceObjectWriteGuardDecision = .ok ())
    (hdecided : KnowledgeBaseSourceObjectWriteGuard.decide service.hashes user.tenantId approved
      (findArticle (service.records world.articles user.tenantId) approved.articleObjectId)
      command.proposedSourceRecord restoreEvidence = .ok decision)
    (hsame : decision.sourceObjectWriteGuardRef =
      command.sourceObjectWriteGuardDecision.sourceObjectWriteGuardRef)
    (hprojected : buildProjectedSourceVersionEvidenceHashes approved sourceEvidences =
      .ok projectedHashes)
    (hhashes : service.requireCommandHashes user.tenantId approved command sourceEvidences
      (service.records world.articles user.tenantId).length projectedHashes = .ok ())
    (habsent : sourceObjectAbsent world.sources user.tenantId approved = .ok ())
    (hreceipt : buildSourceObjectWriteReceipt service.hashes command.proposedSourceRecord
      ("receipt:" ++ command.executionReference) (executionAuditChainRef command) now =
        .ok receipt) :
    (service.prepareWrite command user now).run world = (.ok {
      approvedEvidence := approved
      existingArticle :=
        findArticle (service.records world.articles user.tenantId) approved.articleObjectId
      restoreEvidence, projectedHashes, receipt }, world) := by
  have hevidence := @run_currentEvidence service user.tenantId
    (service.records world.articles user.tenantId) world
  rw [show service.currentEvidenceOf world.sources user.tenantId
    (service.records world.articles user.tenantId) = _ from hreads] at hevidence
  have hledger : ∀ evidenceHash, evidenceHash = command.approvedWriteApprovalEvidenceHash →
      (ledgerGet user.tenantId evidenceHash).run world = (.ok approved, world) := by
    rintro _ rfl
    exact Prod.ext (ledgerGet_eq_ok.mpr hget) rfl
  have hguard : (service.evaluateWriteGuard user.tenantId approved
      (findArticle (service.records world.articles user.tenantId) approved.articleObjectId)
      command.proposedSourceRecord restoreEvidence).run world = (.ok decision, world) := by
    rw [evaluateWriteGuard, Prog.run_bind_of_ok (hledger _ hown), Prog.run_lift, hdecided]
  have habsentRun : (requireSourceObjectAbsent user.tenantId approved).run world =
      (.ok (), world) := Prod.ext habsent rfl
  -- the checks pass one after another, and none of them changes the world
  unfold prepareWrite
  rw [Prog.run_bind_of_ok (hledger _ rfl), Prog.run_lift_bind, husable]
  dsimp only
  rw [Prog.run_bind_of_ok (run_listRecords _ _), Prog.run_lift_bind, htarget]
  dsimp only
  rw [Prog.run_bind_of_ok hevidence, Prog.run_lift_bind, require_eq_ok.mpr hrestore]
  dsimp only
  rw [Prog.run_lift_bind, hsubmitted]
  dsimp only
  rw [Prog.run_bind_of_ok hguard, Prog.run_lift_bind, require_eq_ok.mpr hsame]
  dsimp only
  rw [Prog.run_lift_bind, hprojected]
  dsimp only
  rw [Prog.run_lift_bind, hhashes]
  dsimp only
  rw [Prog.run_bind_of_ok habsentRun, Prog.run_lift_bind, hreceipt]
  rfl

/-! The stores one by one. -/

theorem run_appendReceipt {H : HashFunctions} {receipt : SourceObjectWriteReceipt}
    {world : KnowledgeBaseWorld} {receipts : InMemorySourceObjectWriteReceiptStore}
    {x : Except Exn SourceObjectWriteReceipt}
    (h : InMemorySourceObjectWriteReceiptStore.append H receipt world.receipts = (x, receipts)) :
    (appendReceipt H receipt).run world = (x, { world with receipts }) := by
  have hrun : (appendReceipt H receipt).run world =
      ((InMemorySourceObjectWriteReceiptStore.append H receipt world.receipts).1,
        { world with
          receipts := (InMemorySourceObjectWriteReceiptStore.append H receipt world.receipts).2 }) :=
    rfl
  rw [hrun, h]

theorem run_addSource {H : HashFunctions} {record : SourceObjectRecord}
    {world : KnowledgeBaseWorld} {sources : InMemorySourceObjectRepository} {x : Except Exn Unit}
    (h : InMemorySourceObjectRepository.add H record world.sources = (x, sources)) :
    (addSource H record).run world = (x, { world with sources }) := by
  have hrun : (addSource H record).run world =
      ((InMemorySourceObjectRepository.add H record world.sources).1,
        { world with sources := (InMemorySourceObjectRepository.add H record world.sources).2 }) :=
    rfl
  rw [hrun, h]

theorem run_applyWrite {tenantId auditChainRef : String}
    {evidence : KnowledgeBaseWriteApprovalEvidence} {record : SourceObjectRecord}
    {world : KnowledgeBaseWorld} {x : Except Exn KnowledgeBaseArticleRecord}
    {articles : InMemoryKnowledgeBaseArticleRepository}
    (h : InMemoryKnowledgeBaseArticleRepository.applyWrite tenantId evidence record auditChainRef
      world.articles = (x, articles)) :
    (applyWrite tenantId evidence record auditChainRef).run world =
      (x, { world with articles }) := by
  have hrun : (applyWrite tenantId evidence record auditChainRef).run world =
      ((InMemoryKnowledgeBaseArticleRepository.applyWrite tenantId evidence record auditChainRef
          world.articles).1,
        { world with
          articles := (InMemoryKnowledgeBaseArticleRepository.applyWrite tenantId evidence record
            auditChainRef world.articles).2 }) := rfl
  rw [hrun, h]

/-- A record of the audit log fails nothing, and what is then answered may name the event. -/
theorem recordAndRespond_run {α : Type} {H : HashFunctions} {call : AuditCall}
    {respond : AuditEvent → Except Exn α} {response : α}
    (hrespond : ∀ event : AuditEvent, event.eventId = call.eventId → respond event = .ok response)
    (world : KnowledgeBaseWorld) :
    ((recordAudit H call >>= fun event => Prog.lift (respond event)).run world).1 =
      .ok response := by
  have hrecord : (recordAudit H call).run world =
      (.ok (auditEvent H world.auditEvents call),
        { world with auditEvents := (record H call world.auditEvents).2 }) := rfl
  rw [Prog.run_bind_of_ok hrecord, Prog.run_lift, hrespond _ rfl]

/-- And a prepared write that every store accepts returns. -/
theorem commitWrite_run {command : KnowledgeBaseWriteExecutionCommand} {user : UserContext}
    {eventId : EventId} {prepared : PreparedWrite} {world : KnowledgeBaseWorld}
    {receipts : InMemorySourceObjectWriteReceiptStore} {sources : InMemorySourceObjectRepository}
    {article : KnowledgeBaseArticleRecord} {articles : InMemoryKnowledgeBaseArticleRepository}
    {sourceEvidences : List KnowledgeBaseSourceVersionEvidence}
    {restoreEvidence : KnowledgeBaseRestoreEvidence}
    {refreshed : KnowledgeBaseSourceVersionEvidence}
    {response : KnowledgeBaseWriteExecutionResponse}
    (hreceipt : InMemorySourceObjectWriteReceiptStore.append service.hashes prepared.receipt
      world.receipts = (.ok prepared.receipt, receipts))
    (hsource : InMemorySourceObjectRepository.add service.hashes command.proposedSourceRecord
      world.sources = (.ok (), sources))
    (harticle : InMemoryKnowledgeBaseArticleRepository.applyWrite user.tenantId
      prepared.approvedEvidence command.proposedSourceRecord (executionAuditChainRef command)
      world.articles = (.ok article, articles))
    (hreads : service.currentEvidenceOf sources user.tenantId
      (service.records articles user.tenantId) = .ok (sourceEvidences, restoreEvidence))
    (hrefreshed : requireRefreshed prepared.approvedEvidence prepared.projectedHashes
      sourceEvidences restoreEvidence = .ok refreshed)
    (hresponse : (service.executionResponse command user prepared prepared.receipt.receiptHash
      article refreshed restoreEvidence eventId.value).validate = .ok response) :
    ((service.commitWrite command user eventId prepared).run world).1 = .ok response := by
  have happended := run_appendReceipt hreceipt
  have hadded := @run_addSource _ _ { world with receipts } _ _ hsource
  have happlied := @run_applyWrite _ _ _ _ { world with receipts, sources } _ _ harticle
  have hevidence := @run_currentEvidence service user.tenantId
    (service.records articles user.tenantId) { world with receipts, sources, articles }
  rw [hreads] at hevidence
  unfold commitWrite
  rw [Prog.run_bind_of_ok happended, Prog.run_bind_of_ok hadded, Prog.run_bind_of_ok happlied,
    Prog.run_bind_of_ok (run_listRecords _ _), Prog.run_bind_of_ok hevidence, Prog.run_lift_bind,
    hrefreshed]
  dsimp only
  refine recordAndRespond_run (fun event hevent => ?_) _
  -- the event has the id of the call, and the response names it
  have hid : event.eventId = eventId.value := hevent
  rw [hid]
  exact hresponse

end KnowledgeBaseArticleService

/-! ## An edit of a title -/

namespace HandbookEdit

open KnowledgeBaseArticleService (findArticle requireTarget requireDryRunTarget
  requireNotAlreadyApproved append_of_absent requireExecutionTarget sourceObjectAbsent
  executionAuditChainRef requireRefreshed PreparedWrite KnowledgeBaseWriteDryRunResponse
  KnowledgeBaseWriteApprovalTransitionResponse)

/-- Whether the content is a JSON object that states an approval. -/
def statesApproval (content : Bytes) : Bool :=
  match (decodeUtf8 content).bind fun text => Json.read Json.asciiEscapes text.toList with
  | some (.obj members) => members.any fun member => member.1 = "approval_state"
  | _ => false

theorem read_jsonBytes (payload : Json) :
    ((decodeUtf8 (jsonBytes payload)).bind fun text => Json.read Json.asciiEscapes text.toList) =
      some (Json.sortKeys payload) := by
  rw [jsonBytes, decodeUtf8_encodeUtf8, Option.bind_some, Json.canonical, String.toList_ofList,
    Json.read_write]

theorem statesApproval_obj {members : List (String × Json)} :
    statesApproval (jsonBytes (.obj members)) = true ↔ "approval_state" ∈ members.map Prod.fst := by
  unfold statesApproval
  rw [read_jsonBytes, Json.sortKeys]
  simp only [List.any_eq_true, decide_eq_true_eq, Prod.exists, List.mem_insertionSort,
    Json.mem_sortMembers, List.mem_map, exists_and_right, exists_eq_right]
  constructor
  · rintro ⟨_, x, hx, rfl⟩
    exact ⟨x, hx⟩
  · rintro ⟨x, hx⟩
    exact ⟨_, x, hx, rfl⟩

theorem statesApproval_arr (items : List Json) :
    statesApproval (jsonBytes (.arr items)) = false := by
  unfold statesApproval
  rw [read_jsonBytes, Json.sortKeys]

theorem statesApproval_text {text : String}
    (h : Json.read Json.asciiEscapes text.toList = none) :
    statesApproval (Text.encodeUtf8 text) = false := by
  unfold statesApproval
  rw [decodeUtf8_encodeUtf8, Option.bind_some, h]

/-! The texts of the run: an article of one version, and the evidence for another title. -/

def codeHash (byte : UInt8) : String :=
  "sha256:" ++ String.ofList (Text.hexChars (List.replicate 32 byte))

abbrev notBlankTexts : List String := ["acme", "alice", "bob", "article-1", "handbook",
  "Handbook", "Employee handbook", "version-1", "version-2", "v1", "v2", "2.0", "approval:1",
  "approval:2", "event-1", "event-2", "event-3", "rp-standard", "none", "internal",
  "kms://acme/internal/v1", "source_object_write"]

abbrev strippedTexts : List String := ["acme", "version-2", "v2", "Handbook", "alice",
  "2026-01-05T09:00:00Z", "rp-standard", "kms://acme/internal/v1", zeroHash, "audit:1",
  "audit:execution:1", "native", "source_object.v1", "text/plain", "acl:1",
  "receipt:execution:1", "2026-01-06T09:00:00Z", "source_object_write_receipt.v1"]

abbrev kbReferences : List String := [zeroHash, "approval:1", "approval:2", pendingGuardRef,
  "guard:pending", "guard:" ++ codeHash 2, "audit:event-1", "audit:event-2",
  "audit:execution:1", "execution:1", "confirmation:1", "audit:knowledge-base-restore-evidence"]

abbrev namespacedReferences : List String := ["kms://acme/internal/v1", zeroHash, "audit:1",
  "audit:execution:1", "acl:1", "receipt:execution:1"]

/-- All that is checked of single texts, once. -/
theorem texts_checked :
    (∀ text ∈ notBlankTexts, Text.strip text ≠ "") ∧
    (∀ text ∈ strippedTexts, Text.strip text = text) ∧
    (∀ reference ∈ kbReferences, isKbRef reference = true) ∧
    (∀ reference ∈ namespacedReferences, isNamespacedRef reference = true) ∧
    (∀ hash ∈ [zeroHash, codeHash 1, codeHash 3], isSha256Ref hash = true) ∧
    (codeHash 0 = zeroHash ∧ codeHash 3 ≠ zeroHash ∧ codeHash 1 ≠ codeHash 3) ∧
    (isSourceSystem "native" = true ∧ requireCommandReason "new title" = [] ∧
      isUtcTimestamp "2026-01-05T09:00:00Z" = true ∧
      isUtcTimestamp "2026-01-06T09:00:00Z" = true ∧
      ∀ text ∈ ["Text", "acme:knowledge_base_content:restore-drill"],
        Json.read Json.asciiEscapes text.toList = none) ∧
    KmsKeyReference.parse "kms://acme/internal/v1" =
      .ok ⟨"acme", .internal, 1, by decide, by decide, by decide⟩ := by decide +kernel

theorem texts_notBlank : ∀ text ∈ notBlankTexts, Text.strip text ≠ "" := texts_checked.1

theorem firstEvent_notBlank : Text.strip "event-1" ≠ "" := texts_notBlank _ (by simp)

theorem secondEvent_notBlank : Text.strip "event-2" ≠ "" := texts_notBlank _ (by simp)

theorem thirdEvent_notBlank : Text.strip "event-3" ≠ "" := texts_notBlank _ (by simp)

theorem texts_stripped : ∀ text ∈ strippedTexts, Text.strip text = text := texts_checked.2.1

theorem references_kb : ∀ reference ∈ kbReferences, isKbRef reference = true :=
  texts_checked.2.2.1

theorem references_namespaced :
    ∀ reference ∈ namespacedReferences, isNamespacedRef reference = true :=
  texts_checked.2.2.2.1

theorem codes_differ :
    codeHash 0 = zeroHash ∧ codeHash 3 ≠ zeroHash ∧ codeHash 1 ≠ codeHash 3 :=
  texts_checked.2.2.2.2.2.1

theorem texts_accepted :
    isSourceSystem "native" = true ∧ requireCommandReason "new title" = [] ∧
      isUtcTimestamp "2026-01-05T09:00:00Z" = true ∧
      isUtcTimestamp "2026-01-06T09:00:00Z" = true ∧
      ∀ text ∈ ["Text", "acme:knowledge_base_content:restore-drill"],
        Json.read Json.asciiEscapes text.toList = none :=
  texts_checked.2.2.2.2.2.2.1

theorem hash_refs : isSha256Ref zeroHash = true ∧ isSha256Ref (codeHash 1) = true ∧
    isSha256Ref (codeHash 3) = true := by
  obtain ⟨-, -, -, -, hrefs, -⟩ := texts_checked
  exact ⟨hrefs _ (by simp), hrefs _ (by simp), hrefs _ (by simp)⟩

def metadata (objectId versionId : String) : SourceObjectMetadata where
  tenantId := "acme"
  objectId := objectId
  objectType := .wiki
  versionId := versionId
  title := "Handbook"
  ownerPrincipalId := "alice"
  createdBy := "alice"
  createdAtUtc := "2026-01-05T09:00:00Z"
  updatedAtUtc := "2026-01-05T09:00:00Z"
  classification := .internal
  retentionPolicyId := "rp-standard"
  kmsKeyRef := "kms://acme/internal/v1"
  manifestHash := zeroHash
  auditChainRef := "audit:1"
  sourceSystem := "native"
  aclHash := "acl:1"
  aclVersion := 1
  contentHash := zeroHash
  contentByteLength := 4

def current : SourceObjectRecord := { metadata := metadata "version-1" "v1", text := "Text" }

def proposed : SourceObjectRecord := { metadata := metadata "version-2" "v2", text := "Text" }

def article : KnowledgeBaseArticleRecord where
  tenantId := "acme"
  objectId := "article-1"
  ownerPrincipalId := "alice"
  createdBy := "alice"
  createdAtUtc := "2026-01-05T09:00:00Z"
  updatedAtUtc := "2026-01-05T09:00:00Z"
  kmsKeyRef := "kms://acme/internal/v1"
  auditChainRef := "audit:1"
  articleKey := "handbook"
  title := "Handbook"
  currentVersionObjectId := "version-1"
  currentVersionLabel := "1.0"
  currentSourceObjectId := "version-1"
  currentSourceVersionId := "v1"
  currentSourceManifestHash := zeroHash
  currentContentHash := zeroHash
  currentAclVersion := 1
  publishedAtUtc := some "2026-01-05T09:00:00Z"
  isInternal := rfl
  holdIsKnown := .inl rfl

def dryRunFields : KnowledgeBaseWriteApprovalCommandFields where
  approvalReference := "approval:1"
  reason := "new title"
  operation := .edit
  articleObjectId := "article-1"
  articleKey := "handbook"
  title := "Employee handbook"
  proposedVersionObjectId := "version-2"
  proposedVersionLabel := "2.0"
  proposedSourceObjectId := "version-2"
  proposedSourceVersionId := "v2"
  proposedSourceManifestHash := zeroHash
  proposedContentHash := zeroHash
  proposedAclVersion := 1
  expectedCurrentVersionObjectId := some "version-1"

theorem dryRunFields_valid : dryRunFields.validate = .ok () := by
  have htexts := texts_notBlank
  simp only [List.forall_mem_cons] at htexts
  obtain ⟨-, -, -, harticle, hkey, -, htitle, -, hversion, -, hversionId, hlabel, hreference, -⟩ :=
    htexts
  obtain ⟨hnative, hreason, -⟩ := texts_accepted
  have herrors : dryRunFields.errors = [] := by
    unfold KnowledgeBaseWriteApprovalCommandFields.errors dryRunFields
      KnowledgeBaseWriteApprovalCommandFields.notBlank
      KnowledgeBaseWriteApprovalCommandFields.sha256Ref
    simp only [List.append_eq_nil_iff, andThen_eq_nil, requireNotBlank_eq_nil,
      requireFullmatch_eq_nil, requirePositive_eq_nil, hreason]
    simp [checkField, harticle, hkey, htitle, hversion, hversionId, hlabel, hreference, hash_refs.1,
      references_kb "approval:1" (by simp), texts_accepted.1]
  exact Except.bind_eq_ok.mpr ⟨_, accept_eq_ok.mpr ⟨herrors, rfl⟩, rfl⟩

def dryRunCommand : KnowledgeBaseWriteApprovalCommand :=
  { dryRunFields with accepted := dryRunFields_valid }

def dryRunDraft : KnowledgeBaseWriteApprovalEvidence :=
  writeApprovalDraft "acme" dryRunCommand zeroHash zeroHash zeroHash "alice" "event-1"
    "audit:event-1"

def dryRun : KnowledgeBaseWriteApprovalEvidence := { dryRunDraft with evidenceHash := codeHash 3 }

def approvalDraft : KnowledgeBaseWriteApprovalEvidence :=
  transitionDraft dryRun "approval:2" "bob" "event-2" "audit:event-2"

def approved : KnowledgeBaseWriteApprovalEvidence :=
  { approvalDraft with evidenceHash := codeHash 1 }

def decision : KnowledgeBaseSourceObjectWriteGuardDecision :=
  { KnowledgeBaseSourceObjectWriteGuard.decisionDraft "acme" approved [] with
    sourceObjectWriteGuardRef := "guard:" ++ codeHash 2 }

/-- The first byte of the digest of the approvals that are known. -/
def code? (content : Bytes) : Option UInt8 :=
  if content = jsonBytes approved.payload then some 1
  else if content = jsonBytes decision.payload then some 2
  else if content = jsonBytes dryRun.payload then some 3
  else none

/-- A digest of zero bytes, but for approvals: those that are known have a code, and all others a
longer digest with the whole content in it. -/
def digest (content : Bytes) : Bytes :=
  if statesApproval content then
    match code? content with
    | some byte => List.replicate 32 byte
    | none => List.replicate 33 0 ++ content
  else List.replicate 32 0

theorem code?_inj {a b : Bytes} {byte : UInt8} (ha : code? a = some byte)
    (hb : code? b = some byte) : a = b := by
  unfold code? at ha hb
  split_ifs at ha hb with h1 h2 h3 h4 h5 h6 <;> cases ha <;> cases hb <;> simp_all

/-- A code is shorter than what an approval without one gets. -/
theorem replicate_ne_append (byte : UInt8) (content : Bytes) :
    List.replicate 32 byte ≠ List.replicate 33 0 ++ content := by
  intro h
  have hlength := congrArg List.length h
  simp only [List.length_replicate, List.length_append] at hlength
  omega

/-- **Approvals have different digests.** -/
theorem digest_inj {a b : Bytes} (ha : statesApproval a = true) (hb : statesApproval b = true)
    (h : digest a = digest b) : a = b := by
  unfold digest at h
  rw [if_pos ha, if_pos hb] at h
  cases hcode : code? a with
  | some byte =>
    cases hcode' : code? b with
    | some byte' =>
      rw [hcode, hcode'] at h
      obtain rfl : byte = byte' := (List.replicate_right_inj (by decide)).mp h
      exact code?_inj hcode hcode'
    | none =>
      rw [hcode, hcode'] at h
      exact absurd h (replicate_ne_append byte b)
  | none =>
    cases hcode' : code? b with
    | some byte' =>
      rw [hcode, hcode'] at h
      exact absurd h.symm (replicate_ne_append byte' a)
    | none =>
      rw [hcode, hcode'] at h
      exact List.append_cancel_left h

def hashes : HashFunctions := { (default : HashFunctions) with sha256 := digest }

def service : KnowledgeBaseArticleService where
  hashes := hashes
  lower := id

theorem statesApproval_decision (decision : KnowledgeBaseSourceObjectWriteGuardDecision) :
    statesApproval (jsonBytes decision.payload) = true :=
  statesApproval_obj.mpr (List.mem_map.mpr ⟨("approval_state", .str decision.approvalState.value),
    .tail _ (.tail _ (.tail _ (.tail _ (.head _)))), rfl⟩)

theorem statesApproval_evidence (evidence : KnowledgeBaseWriteApprovalEvidence) :
    statesApproval (jsonBytes evidence.payload) = true :=
  statesApproval_obj.mpr (List.mem_map.mpr ⟨("approval_state", .str evidence.approvalState.value),
    List.mem_append_left _ (List.mem_append_left _ (.tail _ (.tail _ (.tail _ (.head _))))), rfl⟩)

theorem sha256_hashes (content : Bytes) : hashes.sha256 content = digest content := rfl

theorem tellsApart : TellsApart hashes where
  decisions := by
    rintro _ ⟨decision, rfl⟩ _ ⟨decision', rfl⟩ h
    rw [sha256_hashes, sha256_hashes] at h
    exact digest_inj (statesApproval_decision decision) (statesApproval_decision decision') h
  evidences := by
    rintro _ ⟨evidence, rfl⟩ _ ⟨evidence', rfl⟩ h
    rw [sha256_hashes, sha256_hashes] at h
    exact digest_inj (statesApproval_evidence evidence) (statesApproval_evidence evidence') h

/-! What is hashed to zero bytes. -/

theorem sha256_plain {content : Bytes} (h : statesApproval content = false) :
    hashes.sha256 content = List.replicate 32 0 := by
  show digest content = _
  rw [digest, h]
  rfl

theorem hash_plain {content : Bytes} (h : statesApproval content = false) :
    computeContentHash hashes content = zeroHash := by
  have hzero : "sha256:" ++ String.ofList (Text.hexChars (List.replicate 32 0)) = zeroHash :=
    codes_differ.1
  rw [computeContentHash, hexdigest, sha256_plain h, hzero]

theorem statesApproval_of_keys {members : List (String × Json)}
    (h : "approval_state" ∉ members.map Prod.fst) :
    statesApproval (jsonBytes (.obj members)) = false := by
  rw [← Bool.not_eq_true, statesApproval_obj]
  exact h

theorem hash_obj {members : List (String × Json)} (h : "approval_state" ∉ members.map Prod.fst) :
    hashJson hashes (.obj members) = zeroHash :=
  hash_plain (statesApproval_of_keys h)

theorem hash_code {payload : Json} {byte : UInt8} (happroval : statesApproval (jsonBytes payload))
    (h : code? (jsonBytes payload) = some byte) : hashJson hashes payload = codeHash byte := by
  have hbytes : hashes.sha256 (jsonBytes payload) = List.replicate 32 byte := by
    rw [sha256_hashes, digest, if_pos happroval, h]
  rw [hashJson, computeContentHash, hexdigest, hbytes, codeHash]

/-- Objects that differ in a key. -/
theorem jsonBytes_ne_of_key {members members' : List (String × Json)} {key : String} {x : Json}
    (hmem : (key, x) ∈ members) (hnot : key ∉ members'.map Prod.fst) :
    jsonBytes (.obj members) ≠ jsonBytes (.obj members') := by
  intro h
  have hsame := Json.canonical_inj.mp (Text.encodeUtf8_injective h)
  obtain ⟨y, hy, -⟩ := Json.exists_mem_of_same hsame hmem
  exact hnot (List.mem_map.mpr ⟨(key, y), hy, rfl⟩)

theorem decision_ne_evidence {evidence : KnowledgeBaseWriteApprovalEvidence}
    (h : "allowed" ∉ evidence.payloadMembers.map Prod.fst) :
    jsonBytes decision.payload ≠ jsonBytes evidence.payload :=
  @jsonBytes_ne_of_key decision.payloadMembers evidence.payloadMembers "allowed" (.bool true)
    (.tail _ (.head _)) h

theorem hash_approvals : hashJson hashes approved.payload = codeHash 1 ∧
    hashJson hashes decision.payload = codeHash 2 ∧
    hashJson hashes dryRun.payload = codeHash 3 := by
  have hallowed : "allowed" ∉ approved.payloadMembers.map Prod.fst ∧
      "allowed" ∉ dryRun.payloadMembers.map Prod.fst := by decide +kernel
  have hstate : jsonBytes dryRun.payload ≠ jsonBytes approved.payload :=
    ApprovalPool.jsonBytes_ne "approval_state" "dry_run" "approved_for_write"
      approved.nodup_payloadKeys (.tail _ (.tail _ (.tail _ (.head _))))
      (.tail _ (.tail _ (.tail _ (.head _)))) (by decide)
  refine ⟨hash_code (statesApproval_evidence _) ?_, hash_code (statesApproval_decision _) ?_,
    hash_code (statesApproval_evidence _) ?_⟩
  · rw [code?, if_pos rfl]
  · rw [code?, if_neg (decision_ne_evidence hallowed.1), if_pos rfl]
  · rw [code?, if_neg hstate, if_neg (decision_ne_evidence hallowed.2).symm, if_pos rfl]

/-! The evidences of a state with one article. -/

theorem hash_metadata (objectId versionId : String) :
    buildSourceObjectManifestHash hashes (metadata objectId versionId) = zeroHash :=
  hash_obj (by simp)

theorem hash_text : computeContentHash hashes (Text.encodeUtf8 "Text") = zeroHash :=
  hash_plain (statesApproval_text (texts_accepted.2.2.2.2 "Text" (by simp)))

def sourceEvidence (objectId versionId : String) : KnowledgeBaseSourceVersionEvidence :=
  sourceVersionDraft "acme" "article-1" objectId (metadata objectId versionId)

theorem sourceEvidence_sealed {objectId versionId : String}
    (herrors : (sourceEvidence objectId versionId).errors = []) :
    (sourceEvidence objectId versionId).sealed hashes =
      .ok (sourceEvidence objectId versionId) := by
  refine KnowledgeBaseSourceVersionEvidence.sealed_eq_ok.mpr ⟨herrors, ?_⟩
  have hhash : buildSourceVersionEvidenceHash hashes (sourceEvidence objectId versionId) =
      zeroHash := hash_obj (by simp [KnowledgeBaseSourceVersionEvidence.payloadMembers])
  rw [hhash]
  rfl

/-- The same before and after the edit, since only approvals have hashes of their own. -/
def restore : KnowledgeBaseRestoreEvidence where
  tenantId := "acme"
  articleCount := 1
  articleVersionCount := 1
  sourceVersionEvidenceCount := 1
  sourceVersionEvidenceHashes := [zeroHash]
  restoreDrillReportHash := zeroHash
  rowCountHash := zeroHash
  checksumManifestHash := zeroHash
  tenantIsolationVerified := true
  disabledStateRestoreVerified := true
  legalHoldRestoreVerified := true
  auditChainRef := "audit:knowledge-base-restore-evidence"

theorem restore_hash : buildRestoreEvidenceHash hashes restore = zeroHash :=
  hash_obj (by simp [KnowledgeBaseRestoreEvidence.payloadMembers])

theorem restoreDraft_eq (objectId versionId : String) :
    restoreDraft hashes "acme" 1 [sourceEvidence objectId versionId]
      (service.restoreDrillReportHash "acme") "audit:knowledge-base-restore-evidence" =
        restore := by
  have hrows : hashJson hashes (rowCountPayload "acme" 1 1) = zeroHash := hash_obj (by decide)
  have hchecksum : hashJson hashes (checksumPayload [sourceEvidence objectId versionId]) =
      zeroHash := hash_plain (statesApproval_arr _)
  have hdrill : service.restoreDrillReportHash "acme" = zeroHash :=
    hash_plain (statesApproval_text (texts_accepted.2.2.2.2 _ (by simp)))
  rw [restoreDraft, hdrill, hchecksum, List.length_singleton, hrows]
  rfl

theorem restore_checked : restore.errors = [] ∧ restore.requireCompleteRestoreChecks = .ok () := by
  have haudit := references_kb "audit:knowledge-base-restore-evidence" (by simp)
  have hhashes : KnowledgeBaseRestoreEvidence.validateEvidenceHashes [zeroHash] = [] := by
    simp [KnowledgeBaseRestoreEvidence.validateEvidenceHashes, references_kb zeroHash (.head _)]
  refine ⟨?_, rfl⟩
  unfold KnowledgeBaseRestoreEvidence.errors KnowledgeBaseRestoreEvidence.namespacedRef restore
  simp only [List.append_eq_nil_iff, requireNotBlank_eq_nil, requireFullmatch_eq_nil, hhashes,
    references_kb zeroHash (.head _), haudit]
  simpa using texts_notBlank "acme" (by simp)

/-- What is read where there is one article, and the source that it names. -/
theorem currentEvidence_eq {sources : InMemorySourceObjectRepository}
    {article : KnowledgeBaseArticleRecord} {record : SourceObjectRecord}
    {objectId versionId : String} (hmetadata : record.metadata = metadata objectId versionId)
    (hsource : sources.records.get? (KnowledgeBaseArticleService.currentSourceKey article) =
      some record)
    (hkey : article.key = ("acme", "article-1"))
    (hversion : article.currentVersionObjectId = objectId)
    (hagree : sourceVersionMismatches hashes article record = [])
    (herrors : (sourceEvidence objectId versionId).errors = []) :
    service.currentEvidenceOf sources "acme" [article] =
      .ok ([sourceEvidence objectId versionId], restore) := by
  obtain ⟨htenant, hid⟩ := Prod.mk.inj hkey
  -- the article's source is evidence, and the restore evidence is sealed from it
  have hevidence : service.sourceVersionEvidenceOf sources article =
      .ok (sourceEvidence objectId versionId) := by
    refine KnowledgeBaseArticleService.sourceVersionEvidenceOf_eq_ok.mpr
      ⟨record, hsource, hagree, ?_⟩
    rw [htenant, hid, hversion, hmetadata]
    exact sourceEvidence_sealed herrors
  refine KnowledgeBaseArticleService.currentEvidenceOf_eq_ok.mpr ⟨?_, ?_⟩
  · rw [List.mapM_cons, List.mapM_nil, hevidence]
    rfl
  · refine buildKnowledgeBaseRestoreEvidence_eq_ok.mpr ⟨⟨?_, ?_, ?_, ?_⟩, ?_⟩
    · simp [htenant]
    · simp [sourceEvidence, sourceVersionDraft]
    · simp [hid, sourceEvidence, sourceVersionDraft]
    · simp [hid, sourceEvidence, sourceVersionDraft]
    · rw [List.length_singleton, show service.hashes = hashes from rfl, restoreDraft_eq]
      refine KnowledgeBaseRestoreEvidence.sealed_eq_ok.mpr
        ⟨restore_checked.1, restore_checked.2, ?_⟩
      rw [restore_hash]
      rfl

/-! Before the edit there are the article and its source. -/

theorem metadata_checked {objectId versionId : String} :
    SourceObjectWriteGuard.requireWriteMetadata (metadata objectId versionId) = .ok () ∧
      SourceObjectWriteGuard.requireKmsReference (metadata objectId versionId) = .ok () := by
  have hzero : Text.strip zeroHash ≠ "" := by
    rw [SourceObjectMetadata.strip_zeroHash.1]
    exact ne_empty_of_isNamespacedRef SourceObjectMetadata.strip_zeroHash.2
  obtain ⟨-, -, -, -, -, -, -, hparse⟩ := texts_checked
  refine ⟨SourceObjectWriteGuard.requireWriteMetadata_eq_ok.mpr
    ⟨texts_notBlank "acme" (by simp), texts_notBlank "internal" (by simp),
      texts_notBlank "rp-standard" (by simp), texts_notBlank "kms://acme/internal/v1" (by simp),
      hzero, hzero⟩, ?_⟩
  unfold SourceObjectWriteGuard.requireKmsReference
  rw [show (metadata objectId versionId).kmsKeyRef = "kms://acme/internal/v1" from rfl, hparse]
  rfl

theorem record_writable {record : SourceObjectRecord} {objectId versionId : String}
    (hrecord : record = { metadata := metadata objectId versionId, text := "Text" }) :
    SourceObjectWriteGuard.validateBeforeWrite hashes record = .ok () := by
  rw [hrecord]
  have hlength : (hashes.sha256 (Text.encodeUtf8 "Text")).length = 32 := by
    rw [sha256_hashes, digest, statesApproval_text (texts_accepted.2.2.2.2 "Text" (by simp))]
    rfl
  obtain ⟨verified, hverified⟩ := @verifyContentHash_self hashes (Text.encodeUtf8 "Text") hlength
    "source_object_write" (texts_notBlank _ (by simp))
  rw [hash_text] at hverified
  have hcontent : SourceObjectWriteGuard.requireContentHashMatch hashes
      { metadata := metadata objectId versionId, text := "Text" } = .ok () := by
    have hbytes : sourceObjectContentBytes
        { metadata := metadata objectId versionId, text := "Text" } = Text.encodeUtf8 "Text" := rfl
    unfold SourceObjectWriteGuard.requireContentHashMatch
    rw [hbytes, show (metadata objectId versionId).contentHash = zeroHash from rfl, hverified]
  have hmanifest : SourceObjectWriteGuard.requireManifestHashMatch hashes
      (metadata objectId versionId) = .ok () :=
    require_eq_ok.mpr (hash_metadata objectId versionId).symm
  rw [SourceObjectWriteGuard.validateBeforeWrite, metadata_checked.1, metadata_checked.2, hcontent,
    hmanifest]
  rfl

def sources : InMemorySourceObjectRepository :=
  InMemorySourceObjectRepository.insert ∅ current (InMemorySourceObjectRepository.get?_empty _)

def start : KnowledgeBaseWorld where
  sources := sources
  articles := ⟨[article], List.nodup_singleton _⟩

theorem article_agrees : sourceVersionMismatches hashes article current = [] :=
  sourceVersionMismatches_eq_nil.mpr ⟨rfl, rfl, rfl, rfl, rfl,
    ⟨rfl, (hash_metadata "version-1" "v1").symm⟩, ⟨rfl, hash_text.symm⟩, rfl, rfl, rfl, rfl⟩

theorem sourceEvidence_checked {objectId versionId : String} (hobject : Text.strip objectId ≠ "")
    (hversion : Text.strip versionId ≠ "") : (sourceEvidence objectId versionId).errors = [] := by
  have htexts := texts_notBlank
  simp only [List.forall_mem_cons] at htexts
  unfold KnowledgeBaseSourceVersionEvidence.errors KnowledgeBaseSourceVersionEvidence.notBlank
    KnowledgeBaseSourceVersionEvidence.namespacedHash sourceEvidence sourceVersionDraft metadata
  simp [htexts, hobject, hversion, references_kb zeroHash (.head _), LegalHoldState.value]

theorem records_start : service.records start.articles "acme" = [article] := rfl

theorem start_evidence : service.currentEvidenceOf start.sources "acme" [article] =
    .ok ([sourceEvidence "version-1" "v1"], restore) := by
  have hsource : start.sources.records.get? current.metadata.versionKey = some current :=
    Dict.get?_set_self ..
  have hkey : KnowledgeBaseArticleService.currentSourceKey article =
      current.metadata.versionKey := rfl
  rw [← hkey] at hsource
  exact @currentEvidence_eq _ article current "version-1" "v1" rfl hsource rfl rfl article_agrees
    (sourceEvidence_checked (texts_notBlank "version-1" (by simp)) (texts_notBlank "v1" (by simp)))

/-! The dry run and its approval. -/

theorem dryRunDraft_checked : dryRunDraft.errors = [] ∧
    dryRunDraft.requireApprovalLedgerSafety = .ok () := by
  have htexts := texts_notBlank
  simp only [List.forall_mem_cons] at htexts
  obtain ⟨hacme, halice, -, harticle, hkey, -, htitle, -, hversion, -, hversionId, hlabel,
    hreference, -, hevent, -⟩ := htexts
  obtain ⟨hzero, -⟩ := hash_refs
  refine ⟨KnowledgeBaseWriteApprovalEvidence.errors_eq_nil.mpr ⟨hacme, hreference,
    references_kb "approval:1" (by simp), harticle, hkey, htitle, hversion, hlabel, hversion,
    hversionId, hzero, hzero, le_rfl, hzero, hzero, hzero, references_kb pendingGuardRef (by simp),
    ?_, halice, hevent,
    references_kb "audit:event-1" (by simp), texts_accepted.1, hzero⟩, ?_⟩
  · intro hash hmem
    cases hmem
  · unfold KnowledgeBaseWriteApprovalEvidence.requireApprovalLedgerSafety requireModel
    simp [require_bind_eq_ok, require_eq_ok, dryRunDraft, writeApprovalDraft, dryRunCommand,
      dryRunFields]

theorem approvalDraft_checked : approvalDraft.errors = [] ∧
    approvalDraft.requireApprovalLedgerSafety = .ok () := by
  have htexts := texts_notBlank
  simp only [List.forall_mem_cons] at htexts
  obtain ⟨hacme, -, hbob, harticle, hkey, -, htitle, -, hversion, -, hversionId, hlabel, -,
    hreference, -, hevent, -⟩ := htexts
  obtain ⟨hzero, -, hdryRun⟩ := hash_refs
  have hne : codeHash 3 ≠ zeroHash := codes_differ.2.1
  refine ⟨KnowledgeBaseWriteApprovalEvidence.errors_eq_nil.mpr ⟨hacme, hreference,
    references_kb "approval:2" (by simp), harticle, hkey, htitle, hversion, hlabel, hversion,
    hversionId, hzero, hzero, le_rfl, hzero, hzero, hzero, references_kb pendingGuardRef (by simp),
    ?_, hbob, hevent,
    references_kb "audit:event-2" (by simp), texts_accepted.1, hzero⟩, ?_⟩
  · intro hash hmem
    cases hmem
    exact hdryRun
  · unfold KnowledgeBaseWriteApprovalEvidence.requireApprovalLedgerSafety requireModel
    simp [require_bind_eq_ok, require_eq_ok, approvalDraft, transitionDraft, dryRun, dryRunDraft,
      writeApprovalDraft, dryRunCommand, dryRunFields, hne]

theorem proposedEvidence_built :
    buildProposedSourceVersionEvidence hashes "acme" dryRunCommand =
      .ok (sourceEvidence "version-2" "v2") :=
  sourceEvidence_sealed
    (sourceEvidence_checked (texts_notBlank "version-2" (by simp))
      (texts_notBlank "v2" (by simp)))

theorem dryRun_built : buildWriteApprovalEvidence hashes "acme" dryRunCommand zeroHash zeroHash
    zeroHash "alice" "event-1" "audit:event-1" = .ok dryRun := by
  refine KnowledgeBaseWriteApprovalEvidence.sealed_eq_ok.mpr
    ⟨dryRunDraft_checked.1, dryRunDraft_checked.2, ?_⟩
  show dryRun = { dryRunDraft with evidenceHash := hashJson hashes dryRun.payload }
  rw [hash_approvals.2.2]
  rfl

theorem approved_built : buildWriteApprovalTransitionEvidence hashes dryRun "approval:2" "bob"
    "event-2" "audit:event-2" = .ok approved := by
  refine KnowledgeBaseWriteApprovalEvidence.sealed_eq_ok.mpr
    ⟨approvalDraft_checked.1, approvalDraft_checked.2, ?_⟩
  show approved = { approvalDraft with evidenceHash := hashJson hashes approved.payload }
  rw [hash_approvals.1]
  rfl

def alice : UserContext := { userId := "alice", tenantId := "acme" }

def bob : UserContext := { userId := "bob", tenantId := "acme" }

theorem findArticle_article : findArticle [article] "article-1" = some article := by
  simp [findArticle, article]

theorem target_edit (versionText existsText : String) :
    requireTarget versionText existsText .edit "article-1" (some "version-1")
      (findArticle [article] "article-1") = .ok () := by
  rw [findArticle_article]
  exact require_eq_ok.mpr rfl

def dryRunCall : KbProg KnowledgeBaseWriteDryRunResponse :=
  service.dryRunWriteApproval dryRunCommand alice
    ⟨"event-1", firstEvent_notBlank⟩

theorem dryRun_leaves : ∃ auditEvents, (dryRunCall.run start).2 = { start with
    ledger := Dict.set ∅ ("acme", codeHash 3) dryRun
    auditEvents } := by
  have htarget : requireDryRunTarget dryRunCommand
      (service.records start.articles alice.tenantId) = .ok () := by
    refine Except.bind_eq_ok.mpr ⟨(), target_edit _ _, require_eq_ok.mpr ?_⟩
    rintro ⟨hcreate, -⟩
    cases hcreate
  have hcommandHash : buildWriteApprovalCommandHash hashes dryRunCommand = zeroHash :=
    hash_obj (by simp)
  have hbuilt : buildWriteApprovalEvidence service.hashes alice.tenantId dryRunCommand
      (buildWriteApprovalCommandHash service.hashes dryRunCommand)
      (sourceEvidence "version-2" "v2").evidenceHash restore.evidenceHash alice.userId "event-1"
      ("audit:" ++ "event-1") = .ok dryRun := by
    rw [show service.hashes = hashes from rfl, hcommandHash]
    exact dryRun_built
  obtain ⟨auditEvents, hrun⟩ := @KnowledgeBaseArticleService.dryRun_run service dryRunCommand alice
    ⟨"event-1", firstEvent_notBlank⟩ start _ _ _ _ htarget start_evidence
    proposedEvidence_built hbuilt
  refine ⟨auditEvents, hrun.trans ?_⟩
  have habsent : (∅ : InMemoryKnowledgeBaseWriteApprovalLedger).get?
      (dryRun.tenantId, dryRun.evidenceHash) = none := rfl
  have happend := congrArg Prod.snd (append_of_absent habsent)
  exact congrArg (fun ledger => { start with ledger, auditEvents }) happend

def transitionFields : KnowledgeBaseWriteApprovalTransitionCommandFields where
  dryRunWriteApprovalEvidenceHash := codeHash 3
  approvalReference := "approval:2"
  reason := "new title"

theorem transitionFields_valid : transitionFields.validate = .ok () := by
  have herrors : transitionFields.errors = [] := by
    unfold KnowledgeBaseWriteApprovalTransitionCommandFields.errors transitionFields
    simp only [List.append_eq_nil_iff, requireFullmatch_eq_nil, texts_accepted.2.1]
    exact ⟨⟨hash_refs.2.2, references_kb "approval:2" (by simp)⟩, trivial⟩
  exact accept_eq_ok.mpr ⟨herrors, rfl⟩

def transitionCommand : KnowledgeBaseWriteApprovalTransitionCommand :=
  { transitionFields with accepted := transitionFields_valid }

def approveCall : KbProg KnowledgeBaseWriteApprovalTransitionResponse :=
  service.approveWriteApproval transitionCommand bob
    ⟨"event-2", secondEvent_notBlank⟩

theorem dryRun_approvable : service.requireApprovableDryRunEvidence dryRun = .ok () := by
  refine require_bind_eq_ok.mpr ⟨rfl, require_bind_eq_ok.mpr ⟨hash_approvals.2.2,
    require_eq_ok.mpr ?_⟩⟩
  rintro (h | h | h) <;> cases h

/-- The dry run and the approval change the ledger and the audit log alone. -/
theorem approval_leaves : ∃ ledger auditEvents,
    (approveCall.run (dryRunCall.run start).2).2 = { start with ledger, auditEvents } ∧
      ledger.get? ("acme", codeHash 1) = some approved := by
  obtain ⟨auditEvents, hdryRun⟩ := dryRun_leaves
  -- after the dry run the ledger holds one entry, which is no approval
  have hget : (Dict.set (∅ : InMemoryKnowledgeBaseWriteApprovalLedger) ("acme", codeHash 3)
      dryRun).get? ("acme", codeHash 3) = some dryRun := Dict.get?_set_self ..
  have hnone : requireNotAlreadyApproved dryRun.evidenceHash
      (InMemoryKnowledgeBaseWriteApprovalLedger.listEvidence
        (Dict.set ∅ ("acme", codeHash 3) dryRun) bob.tenantId) = .ok () := by
    refine require_eq_ok.mpr ?_
    intro evidence hmem happroval
    have heq : evidence = dryRun := by
      obtain ⟨item, hitem, rfl⟩ := List.mem_map.mp hmem
      have hitem := (List.mem_filter.mp hitem).1
      rw [List.mem_singleton.mp hitem]
    rw [heq] at happroval
    cases happroval.2
  have hfree : codeHash 1 ≠ codeHash 3 := codes_differ.2.2
  rw [hdryRun]
  obtain ⟨auditEvents', hrun⟩ := @KnowledgeBaseArticleService.approve_run service transitionCommand
    bob ⟨"event-2", secondEvent_notBlank⟩
    { start with ledger := Dict.set ∅ ("acme", codeHash 3) dryRun, auditEvents } dryRun approved
    hget dryRun_approvable hnone
    { target := target_edit _ _, restore := ⟨_, start_evidence, rfl⟩ } approved_built
  refine ⟨_, _, hrun, ?_⟩
  -- the approval has a code of its own, so that the ledger takes it
  have habsent : (Dict.set (∅ : InMemoryKnowledgeBaseWriteApprovalLedger) ("acme", codeHash 3)
      dryRun).get? (approved.tenantId, approved.evidenceHash) = none :=
    Dict.get?_set_ne _ _ fun h => hfree (Prod.mk.inj h).2
  rw [append_of_absent habsent]
  exact Dict.get?_set_self ..

theorem metadata_normalized {auditChainRef : String}
    (haudit : auditChainRef ∈ ["audit:1", "audit:execution:1"]) :
    ({ metadata "version-2" "v2" with auditChainRef } : SourceObjectMetadata).normalized =
      { metadata "version-2" "v2" with auditChainRef } := by
  have hstripped := texts_stripped
  simp only [List.forall_mem_cons] at hstripped
  simp only [SourceObjectMetadata.normalized, metadata, hstripped]
  rw [texts_stripped auditChainRef (by simp at haudit ⊢; tauto)]

theorem metadata_valid :
    (metadata "version-2" "v2").validate = .ok (metadata "version-2" "v2") := by
  refine SourceObjectMetadata.validate_self.mpr ⟨?_, SourceObjectMetadata.errors_eq_nil.mpr ?_, ?_⟩
  · exact metadata_normalized (.head _)
  · have hreferences := references_namespaced
    simp only [List.forall_mem_cons] at hreferences
    simp [metadata, hreferences, texts_accepted]
  · rfl

theorem proposed_accepted : proposed.validate = .ok proposed := by
  have hlength : (sourceObjectContentBytes proposed).length = 4 := by decide
  unfold SourceObjectRecord.validate
  rw [hlength]
  rfl

def executionFields : KnowledgeBaseWriteExecutionCommandFields where
  approvedWriteApprovalEvidenceHash := codeHash 1
  sourceObjectWriteGuardDecision := decision
  refreshPreviewCommandHash := zeroHash
  projectedRestoreEvidencePreviewHash := zeroHash
  executionSkeletonCommandHash := zeroHash
  executionPlanHash := zeroHash
  executionReference := "execution:1"
  humanConfirmationReference := "confirmation:1"
  proposedSourceRecord := proposed
  reason := "new title"

theorem executionFields_valid : executionFields.errors = [] := by
  unfold KnowledgeBaseWriteExecutionCommandFields.errors executionFields
    KnowledgeBaseWriteExecutionCommandFields.sha256Ref
    KnowledgeBaseWriteExecutionCommandFields.namespacedRef
  simp only [List.append_eq_nil_iff, requireFullmatch_eq_nil, texts_accepted.2.1]
  exact ⟨⟨⟨⟨⟨⟨⟨hash_refs.2.1, hash_refs.1⟩, hash_refs.1⟩, hash_refs.1⟩, hash_refs.1⟩,
    references_kb "execution:1" (by simp)⟩, references_kb "confirmation:1" (by simp)⟩, trivial⟩

def executionCommand : KnowledgeBaseWriteExecutionCommand :=
  { executionFields with
    accepted := executionFields_valid
    recordDraft := metadata_valid
    recordAccepted := proposed_accepted }

open KnowledgeBaseSourceObjectWriteGuard in
theorem decision_valid : (decisionDraft "acme" approved []).validate =
    .ok (decisionDraft "acme" approved []) := by
  have htexts := texts_notBlank
  simp only [List.forall_mem_cons] at htexts
  obtain ⟨hacme, -, -, harticle, -, -, -, -, hversion, -, hversionId, -⟩ := htexts
  have hpending : isKbRef "guard:pending" = true := references_kb "guard:pending" (by simp)
  have herrors : (decisionDraft "acme" approved []).errors = [] := by
    unfold KnowledgeBaseSourceObjectWriteGuardDecision.errors
      KnowledgeBaseSourceObjectWriteGuardDecision.notBlank
      KnowledgeBaseSourceObjectWriteGuardDecision.sha256Ref
    simp only [List.append_eq_nil_iff, requireFullmatch_eq_nil, requireNotBlank_eq_nil]
    exact ⟨⟨⟨⟨⟨⟨⟨⟨hacme, hpending⟩, rfl⟩, hash_refs.2.1⟩, harticle⟩, hversion⟩, hversionId⟩,
      hash_refs.1⟩, hash_refs.1⟩
  exact Except.bind_eq_ok.mpr ⟨_, accept_eq_ok.mpr ⟨herrors, rfl⟩, rfl⟩

open KnowledgeBaseSourceObjectWriteGuard in
theorem reasons_none : blockingReasons hashes "acme" approved (some article) proposed restore =
    .ok [] := by
  have hguard : metadataGuardReasons hashes proposed = .ok [] :=
    metadataGuardReasons_eq_nil.mpr (@record_writable proposed "version-2" "v2" rfl)
  have hproposed : buildSourceVersionEvidenceForSourceRecord hashes "acme" "article-1" "version-2"
      proposed = .ok (sourceEvidence "version-2" "v2") := proposedEvidence_built
  -- each list of reasons is empty, since each comparison is of two equal values
  have hevidence : evidenceReasons hashes approved = [] := by
    simp only [evidenceReasons, List.append_eq_nil_iff, mismatch_eq_nil]
    exact ⟨⟨hash_approvals.1, rfl⟩, rfl⟩
  have hrestore : restoreEvidenceReasons hashes "acme" approved restore = [] := by
    simp only [restoreEvidenceReasons, List.append_eq_nil_iff, mismatch_eq_nil]
    exact ⟨⟨⟨⟨⟨rfl, rfl⟩, restore_hash⟩, rfl⟩, rfl⟩, rfl⟩
  have hversion : expectedVersionReasons "acme" approved (some article) = [] := by
    simp only [expectedVersionReasons]
    rw [if_neg (by decide)]
    simp only [List.append_eq_nil_iff, mismatch_eq_nil]
    exact ⟨⟨⟨⟨rfl, rfl⟩, rfl⟩, by decide⟩, rfl⟩
  have hsource : proposedSourceReasons "acme" approved proposed.metadata = [] := by
    simp only [proposedSourceReasons, List.append_eq_nil_iff, mismatch_eq_nil]
    refine ⟨⟨⟨⟨⟨⟨⟨⟨⟨⟨rfl, rfl⟩, rfl⟩, rfl⟩, rfl⟩, rfl⟩, rfl⟩, ?_⟩, rfl⟩, rfl⟩, by decide⟩
    rintro ⟨hcreate, -⟩
    cases hcreate
  refine Except.bind_eq_ok.mpr ⟨[], hguard, Except.bind_eq_ok.mpr ⟨_, hproposed, ?_⟩⟩
  rw [hevidence, hversion, hsource, hrestore, mismatch_eq_nil.mpr (by rfl)]
  rfl

theorem decided : KnowledgeBaseSourceObjectWriteGuard.decide hashes "acme" approved (some article)
    proposed restore = .ok decision := by
  refine Except.bind_eq_ok.mpr ⟨_, reasons_none, Except.bind_eq_ok.mpr ⟨_, decision_valid, ?_⟩⟩
  show Except.ok { KnowledgeBaseSourceObjectWriteGuard.decisionDraft "acme" approved [] with
    sourceObjectWriteGuardRef := "guard:" ++ hashJson hashes decision.payload } = _
  rw [hash_approvals.2.1]
  rfl

theorem approved_usable : service.requireRefreshPreviewApprovedEvidence approved = .ok () :=
  require_bind_eq_ok.mpr ⟨rfl, require_bind_eq_ok.mpr ⟨hash_approvals.1,
    require_bind_eq_ok.mpr ⟨rfl, require_eq_ok.mpr (Option.some_ne_none _)⟩⟩⟩

theorem decision_matches : service.requireMatchingGuardDecision approved decision = .ok () := by
  have href : buildSourceObjectWriteGuardRef hashes decision =
      decision.sourceObjectWriteGuardRef := congrArg ("guard:" ++ ·) hash_approvals.2.1
  unfold KnowledgeBaseArticleService.requireMatchingGuardDecision
  simp only [require_bind_eq_ok, require_eq_ok]
  exact ⟨href, rfl, rfl, rfl, rfl, rfl, rfl, rfl, rfl, rfl, rfl, rfl, rfl, rfl, rfl⟩

theorem projected : buildProjectedSourceVersionEvidenceHashes approved
    [sourceEvidence "version-1" "v1"] = .ok [zeroHash] := by
  have hbyArticle : evidenceHashByArticle [sourceEvidence "version-1" "v1"] =
      Dict.set ∅ "article-1" zeroHash := rfl
  have hvalues : (Dict.set (Dict.set ∅ "article-1" zeroHash) "article-1"
      zeroHash).values.insertionSort (· ≤ ·) = [zeroHash] := by decide +kernel
  have hcontains : (Dict.set (∅ : Dict String String) "article-1" zeroHash).contains "article-1" =
      true := by decide +kernel
  unfold buildProjectedSourceVersionEvidenceHashes
  rw [hbyArticle]
  show (do
    require ((Dict.set (∅ : Dict String String) "article-1" zeroHash).contains "article-1" = true)
      (.lookupError ("knowledge base article not found: " ++ "article-1"))
    requireUniqueProjection ((Dict.set (Dict.set ∅ "article-1" zeroHash) "article-1"
      zeroHash).values.insertionSort (· ≤ ·))) = Except.ok [zeroHash]
  rw [hvalues]
  exact require_bind_eq_ok.mpr ⟨hcontains, Except.bind_eq_ok.mpr
    ⟨(), require_eq_ok.mpr (List.nodup_singleton _), rfl⟩⟩

theorem command_hashes : service.requireCommandHashes "acme" approved executionCommand
    [sourceEvidence "version-1" "v1"] 1 [zeroHash] = .ok () := by
  refine require_bind_eq_ok.mpr ⟨?_, require_eq_ok.mpr ?_⟩
  · exact hash_obj (by simp)
  · exact hash_obj (by simp)

theorem source_absent : sourceObjectAbsent sources "acme" approved = .ok () := by
  have hnone : sources.get "acme" approved.proposedSourceObjectId approved.proposedSourceVersionId =
      .error .keyError := by
    have hget : sources.records.get? ("acme", "version-2", "v2") = none := by
      rw [sources, InMemorySourceObjectRepository.insert, Dict.get?_set_ne _ _ (by decide)]
      rfl
    show sources.get "acme" "version-2" "v2" = _
    rw [InMemorySourceObjectRepository.get, hget]
  rw [sourceObjectAbsent, hnone]

def receipt : SourceObjectWriteReceipt where
  metadata := { metadata "version-2" "v2" with auditChainRef := "audit:execution:1" }
  receiptReference := "receipt:execution:1"
  capturedAtUtc := "2026-01-06T09:00:00Z"

theorem receipt_hash : buildSourceObjectWriteReceiptHash hashes receipt = zeroHash :=
  hash_obj (by simp)

theorem receipt_built : buildSourceObjectWriteReceipt hashes proposed "receipt:execution:1"
    "audit:execution:1" "2026-01-06T09:00:00Z" = .ok receipt := by
  have hnormal : receipt.normalized = receipt := by
    have hstripped := texts_stripped
    simp only [List.forall_mem_cons] at hstripped
    have hmetadata := @metadata_normalized "audit:execution:1" (by simp)
    unfold SourceObjectWriteReceipt.normalized receipt
    dsimp only
    rw [hmetadata]
    simp only [hstripped]
  have herrors : receipt.errors = [] := by
    have hreferences := references_namespaced
    simp only [List.forall_mem_cons] at hreferences
    unfold SourceObjectWriteReceipt.errors SourceObjectWriteReceipt.sha256Ref
    simp [receipt, metadata, hreferences, texts_accepted, hash_refs]
  refine Except.bind_eq_ok.mpr ⟨receipt, accept_eq_ok.mpr ⟨?_, hnormal⟩, ?_⟩
  · show receipt.normalized.errors = []
    rw [hnormal]
    exact herrors
  · show Except.ok { receipt with
      receiptHash := buildSourceObjectWriteReceiptHash hashes receipt } = _
    rw [receipt_hash]
    rfl

def prepared : PreparedWrite where
  approvedEvidence := approved
  existingArticle := some article
  restoreEvidence := restore
  projectedHashes := [zeroHash]
  receipt := receipt

/-- The states in which the edit has been approved. -/
structure Ready (world : KnowledgeBaseWorld) : Prop where
  ledger   : world.ledger.get? ("acme", codeHash 1) = some approved
  receipts : world.receipts = ∅
  sources  : world.sources = sources
  articles : world.articles = start.articles

theorem prepare_run {world : KnowledgeBaseWorld} (h : Ready world) :
    (service.prepareWrite executionCommand bob "2026-01-06T09:00:00Z").run world =
      (.ok prepared, world) := by
  -- the world has one article, whose source is the one that is read
  have hrecords : service.records world.articles bob.tenantId = [article] := by
    rw [h.articles]
    rfl
  have hreads : service.Reads world bob.tenantId [sourceEvidence "version-1" "v1"] restore := by
    unfold KnowledgeBaseArticleService.Reads
    rw [hrecords, h.sources]
    exact start_evidence
  have htarget : requireExecutionTarget approved (service.records world.articles bob.tenantId) =
      .ok () := by
    rw [hrecords]
    exact target_edit _ _
  have hfound : findArticle (service.records world.articles bob.tenantId)
      approved.articleObjectId = some article := by
    rw [hrecords]
    exact findArticle_article
  have hdecided : KnowledgeBaseSourceObjectWriteGuard.decide service.hashes bob.tenantId approved
      (findArticle (service.records world.articles bob.tenantId) approved.articleObjectId)
      executionCommand.proposedSourceRecord restore = .ok decision := by
    rw [hfound]
    exact decided
  have hhashes : service.requireCommandHashes bob.tenantId approved executionCommand
      [sourceEvidence "version-1" "v1"] (service.records world.articles bob.tenantId).length
      [zeroHash] = .ok () := by
    rw [hrecords]
    exact command_hashes
  have habsent : sourceObjectAbsent world.sources bob.tenantId approved = .ok () := by
    rw [h.sources]
    exact source_absent
  have hreceipt : buildSourceObjectWriteReceipt service.hashes executionCommand.proposedSourceRecord
      ("receipt:" ++ executionCommand.executionReference) (executionAuditChainRef executionCommand)
      "2026-01-06T09:00:00Z" = .ok receipt := receipt_built
  have hget : world.ledger.get? (bob.tenantId,
      executionCommand.approvedWriteApprovalEvidenceHash) = some approved := h.ledger
  have hown : approved.evidenceHash = executionCommand.approvedWriteApprovalEvidenceHash := rfl
  have hrestore : restore.evidenceHash = approved.currentRestoreEvidenceHash := rfl
  have hsubmitted : service.requireMatchingGuardDecision approved
      executionCommand.sourceObjectWriteGuardDecision = .ok () := decision_matches
  have hsame : decision.sourceObjectWriteGuardRef =
      executionCommand.sourceObjectWriteGuardDecision.sourceObjectWriteGuardRef := rfl
  have hrun := @KnowledgeBaseArticleService.prepareWrite_run service executionCommand bob
    "2026-01-06T09:00:00Z" world approved [sourceEvidence "version-1" "v1"] restore decision
    [zeroHash] receipt hget hown approved_usable htarget hreads hrestore hsubmitted hdecided hsame
    projected hhashes habsent hreceipt
  rw [hfound] at hrun
  exact hrun

def edited : KnowledgeBaseArticleRecord :=
  editedArticle approved proposed.metadata article "audit:execution:1"

theorem article_edited : InMemoryKnowledgeBaseArticleRepository.applyWrite "acme" approved proposed
    "audit:execution:1" start.articles = (.ok edited, start.articles.replace edited) := by
  have hfound : [article].find? (fun article => article.key = ("acme", "article-1")) =
      some article := by
    rw [List.find?_cons_of_pos]
    exact decide_eq_true rfl
  have hbuilt : buildEditedArticleFromWriteEvidence "acme" approved proposed article
      "audit:execution:1" = .ok edited := by
    have hmetadata : requireSourceRecordMatchesWriteEvidence "acme" approved proposed =
        .ok proposed.metadata := by
      unfold requireSourceRecordMatchesWriteEvidence
      simp only [require_bind_eq_ok]
      exact ⟨rfl, rfl, rfl, rfl, rfl, rfl, rfl, rfl⟩
    exact Except.bind_eq_ok.mpr ⟨_, hmetadata, require_bind_eq_ok.mpr ⟨rfl, rfl⟩⟩
  show InMemoryKnowledgeBaseArticleRepository.applyEdit "acme" approved proposed
    "audit:execution:1" start.articles = _
  unfold InMemoryKnowledgeBaseArticleRepository.applyEdit
  rw [show start.articles.articles.find? (fun article => article.key =
    ("acme", approved.articleObjectId)) = some article from hfound]
  dsimp only
  rw [hbuilt]

theorem edited_agrees : sourceVersionMismatches hashes edited proposed = [] :=
  sourceVersionMismatches_eq_nil.mpr ⟨rfl, rfl, rfl, rfl, rfl,
    ⟨rfl, (hash_metadata "version-2" "v2").symm⟩, ⟨rfl, hash_text.symm⟩, rfl, rfl, rfl, rfl⟩

/-- The store of receipts after the edit. -/
def receipts : InMemorySourceObjectWriteReceiptStore where
  receipts := Dict.set ∅ ("acme", zeroHash) receipt
  objectVersions := [receipt.metadata.versionKey]

theorem receipt_appended : InMemorySourceObjectWriteReceiptStore.append hashes receipt ∅ =
    (.ok receipt, receipts) := by
  have hhash : ¬ receipt.receiptHash ≠ buildSourceObjectWriteReceiptHash hashes receipt :=
    not_not.mpr receipt_hash.symm
  have hnew : ¬ ((∅ : InMemorySourceObjectWriteReceiptStore).receipts.contains
      (receipt.metadata.tenantId, receipt.receiptHash) = true ∨
        receipt.metadata.versionKey ∈
          (∅ : InMemorySourceObjectWriteReceiptStore).objectVersions) := by
    rintro (h | h) <;> cases h
  unfold InMemorySourceObjectWriteReceiptStore.append
  rw [if_neg hhash, if_neg hnew]
  rfl

theorem source_fresh : sources.records.get? proposed.metadata.versionKey = none :=
  Dict.get?_set_ne _ _ (by decide)

theorem source_added : InMemorySourceObjectRepository.add hashes proposed sources =
    (.ok (), sources.insert proposed source_fresh) :=
  InMemorySourceObjectRepository.add_eq_ok.mpr
    ⟨@record_writable proposed "version-2" "v2" rfl, _, rfl⟩

theorem records_edited : service.records (start.articles.replace edited) "acme" = [edited] := rfl

theorem edited_evidence : service.currentEvidenceOf (sources.insert proposed source_fresh) "acme"
    [edited] = .ok ([sourceEvidence "version-2" "v2"], restore) := by
  have hsource : (sources.insert proposed source_fresh).records.get? proposed.metadata.versionKey =
      some proposed := Dict.get?_set_self ..
  have hkey : KnowledgeBaseArticleService.currentSourceKey edited =
      proposed.metadata.versionKey := rfl
  rw [← hkey] at hsource
  exact @currentEvidence_eq _ edited proposed "version-2" "v2" rfl hsource rfl rfl edited_agrees
    (sourceEvidence_checked (texts_notBlank "version-2" (by simp)) (texts_notBlank "v2" (by simp)))

theorem edited_refreshed : requireRefreshed approved [zeroHash] [sourceEvidence "version-2" "v2"]
    restore = .ok (sourceEvidence "version-2" "v2") := by
  have hfound : [sourceEvidence "version-2" "v2"].reverse.find? (fun evidence =>
      evidence.articleObjectId = approved.articleObjectId) =
        some (sourceEvidence "version-2" "v2") := by
    rw [List.reverse_singleton, List.find?_cons_of_pos]
    exact decide_eq_true rfl
  unfold requireRefreshed
  rw [hfound]
  exact require_bind_eq_ok.mpr ⟨rfl, require_bind_eq_ok.mpr ⟨rfl, rfl⟩⟩

def response : KnowledgeBaseWriteExecutionResponse :=
  service.executionResponse executionCommand bob prepared zeroHash edited
    (sourceEvidence "version-2" "v2") restore "event-3"

theorem response_valid : response.validate = .ok response := by
  have htexts := texts_notBlank
  simp only [List.forall_mem_cons] at htexts
  obtain ⟨hacme, -, -, harticle, -, -, -, -, hversion, -, hversionId, -, -, -, -, -, hevent, -⟩ :=
    htexts
  obtain ⟨hzero, happroved, hdryRun⟩ := hash_refs
  have hcommand : buildWriteExecutionCommandHash hashes executionCommand = zeroHash :=
    hash_obj (by simp)
  have hguard : isKbRef decision.sourceObjectWriteGuardRef = true :=
    references_kb _ (.tail _ (.tail _ (.tail _ (.tail _ (.tail _ (.head _))))))
  have hafter : KnowledgeBaseWriteExecutionResponse.validateSourceHashes [zeroHash] = [] := by
    simp [KnowledgeBaseWriteExecutionResponse.validateSourceHashes, hzero]
  -- each check of the response is one that its parts have passed
  have herrors : response.errors = [] := by
    unfold KnowledgeBaseWriteExecutionResponse.errors
      KnowledgeBaseWriteExecutionResponse.notBlank
      KnowledgeBaseWriteExecutionResponse.namespacedRef
      KnowledgeBaseWriteExecutionResponse.sha256Ref
    simp only [List.append_eq_nil_iff, requireFullmatch_eq_nil, requireNotBlank_eq_nil]
    simp only [and_assoc]
    refine ⟨hacme, references_kb "execution:1" (by simp), references_kb "confirmation:1" (by simp),
      happroved, hdryRun, hguard, hzero, hzero, hzero, hzero, hzero, ?_, harticle, hversion,
      hversion, hversionId, hzero, hzero, hzero, hzero, hafter, hevent⟩
    exact (congrArg isSha256Ref hcommand).trans hzero
  exact Except.bind_eq_ok.mpr ⟨_, accept_eq_ok.mpr ⟨herrors, rfl⟩, Except.bind_eq_ok.mpr
    ⟨(), require_bind_eq_ok.mpr ⟨rfl, require_eq_ok.mpr rfl⟩, rfl⟩⟩

theorem execute_run {world : KnowledgeBaseWorld} (h : Ready world) :
    ((service.executeWrite executionCommand bob ⟨"event-3", thirdEvent_notBlank⟩
      "2026-01-06T09:00:00Z").run world).1 = .ok response := by
  -- each store takes its part of the write
  have hreceipt : InMemorySourceObjectWriteReceiptStore.append service.hashes prepared.receipt
      world.receipts = (.ok prepared.receipt, receipts) := by
    rw [h.receipts]
    exact receipt_appended
  have hsource : InMemorySourceObjectRepository.add service.hashes
      executionCommand.proposedSourceRecord world.sources =
        (.ok (), sources.insert proposed source_fresh) := by
    rw [h.sources]
    exact source_added
  have harticle : InMemoryKnowledgeBaseArticleRepository.applyWrite bob.tenantId
      prepared.approvedEvidence executionCommand.proposedSourceRecord
      (executionAuditChainRef executionCommand) world.articles =
        (.ok edited, start.articles.replace edited) := by
    rw [h.articles]
    exact article_edited
  have hreads : service.currentEvidenceOf (sources.insert proposed source_fresh) bob.tenantId
      (service.records (start.articles.replace edited) bob.tenantId) =
        .ok ([sourceEvidence "version-2" "v2"], restore) := edited_evidence
  have hresponse : (service.executionResponse executionCommand bob prepared
      prepared.receipt.receiptHash edited (sourceEvidence "version-2" "v2") restore
      "event-3").validate = .ok response := response_valid
  unfold KnowledgeBaseArticleService.executeWrite
  rw [Prog.run_bind_of_ok (prepare_run h)]
  exact @KnowledgeBaseArticleService.commitWrite_run service executionCommand bob
    ⟨"event-3", thirdEvent_notBlank⟩ prepared world receipts _ edited _
    [sourceEvidence "version-2" "v2"] restore (sourceEvidence "version-2" "v2") response hreceipt
    hsource harticle hreads edited_refreshed hresponse

/-- The edit is approved in the state that the dry run and the approval leave. -/
theorem ready : ∃ world, (approveCall.run (dryRunCall.run start).2).2 = world ∧ Ready world := by
  obtain ⟨ledger, auditEvents, hstate, hget⟩ := approval_leaves
  exact ⟨_, hstate, hget, rfl, rfl, rfl⟩

def executeCall : KbProg KnowledgeBaseWriteExecutionResponse :=
  service.executeWrite executionCommand bob ⟨"event-3", thirdEvent_notBlank⟩
    "2026-01-06T09:00:00Z"

theorem executed {world : KnowledgeBaseWorld} (h : Ready world) :
    ∃ world', executeCall.run world = (.ok response, world') := by
  have hfirst : (executeCall.run world).1 = .ok response := execute_run h
  refine ⟨(executeCall.run world).2, ?_⟩
  rw [← hfirst]

end HandbookEdit

end Collabio
