import Mathlib.Tactic
import Collabio.KnowledgeBase.LedgerLineage

/-!
# Executions write all or nothing

* `Tried`, `Lineage`     — the operations that evidence and receipts come from;
* `prepareWrite_commits` — what has lineage and was prepared is written;
* `executeWrite_cases`   — an execution returns, or changes nothing;
* `lineage_run`          — every run keeps lineage.
-/

namespace Collabio

open KnowledgeBaseWorld

namespace KnowledgeBaseArticleService

variable {service : KnowledgeBaseArticleService} {start : KnowledgeBaseWorld}
variable {before : List WriteEvent}

/-! ## Lineage -/

/-- An earlier dry run was of the same command. -/
inductive Tried (service : KnowledgeBaseArticleService) (start : KnowledgeBaseWorld)
    (before : List WriteEvent) (evidence : KnowledgeBaseWriteApprovalEvidence) : Prop
  | intro {earlier : List WriteEvent} {command : KnowledgeBaseWriteApprovalCommand}
      {user : UserContext} {eventId : EventId} {dryRun : KnowledgeBaseWriteApprovalEvidence}
      (called : earlier ++ [.dryRun command user eventId] <+: before)
      (done : service.DryRunDone command user dryRun (Runs.run service.step start earlier)
        (service.step (Runs.run service.step start earlier) (.dryRun command user eventId)))
      (same : dryRun.SameCommand evidence) : Tried service start before evidence

theorem Tried.mono {events : List WriteEvent} (hwithin : before <+: events)
    {evidence : KnowledgeBaseWriteApprovalEvidence} (h : Tried service start before evidence) :
    Tried service start events evidence := by
  obtain ⟨hcalled, hdone, hsame⟩ := h
  exact ⟨hcalled.trans hwithin, hdone, hsame⟩

theorem Tried.sameCommand {dryRun evidence : KnowledgeBaseWriteApprovalEvidence}
    (h : Tried service start before dryRun) (hsame : dryRun.SameCommand evidence) :
    Tried service start before evidence := by
  obtain ⟨hcalled, hdone, hfirst⟩ := h
  exact ⟨hcalled, hdone, hfirst.trans hsame⟩

/-- What the ledger and the receipts hold comes from earlier operations. -/
structure Lineage (service : KnowledgeBaseArticleService) (start : KnowledgeBaseWorld)
    (before : List WriteEvent) : Prop where
  tried    : ∀ key evidence, (Runs.run service.step start before).ledger.get? key = some evidence →
               Tried service start before evidence
  stored   : ∀ key ∈ (Runs.run service.step start before).receipts.objectVersions,
               ∃ record, (Runs.run service.step start before).sources.records.get? key = some record
  receipts : ∀ key receipt,
               (Runs.run service.step start before).receipts.receipts.get? key = some receipt →
                 key = receipt.key ∧
                 receipt.metadata.versionKey ∈
                   (Runs.run service.step start before).receipts.objectVersions ∧
                 ∃ command user prepared, Prepares service start before command user prepared ∧
                   receipt = prepared.receipt

theorem lineage_nil (hledger : start.ledger = ∅) (hreceipts : start.receipts = ∅) :
    Lineage service start [] where
  tried key evidence hget := by
    rw [Runs.run_nil, hledger] at hget
    cases hget
  stored key hmem := by
    rw [Runs.run_nil, hreceipts] at hmem
    cases hmem
  receipts key receipt hget := by
    rw [Runs.run_nil, hreceipts] at hget
    cases hget

/-! ## A prepared write -/

section

variable {world : KnowledgeBaseWorld} {command : KnowledgeBaseWriteExecutionCommand}
variable {user : UserContext} {eventId : EventId} {now : String} {prepared : PreparedWrite}

/-- What was approved is what the ledger has checked. -/
theorem approvedFor_of_ledger (hledger : LedgerSound service.hashes world.ledger)
    (hprepared : service.Prepared command user now world prepared) :
    ApprovedFor command user prepared.approvedEvidence ∧
      prepared.approvedEvidence.tenantId = user.tenantId := by
  obtain ⟨htenant, hnamed⟩ := Prod.mk.inj (hledger.key _ _ hprepared.approved)
  obtain ⟨draft, hsealed⟩ := hledger.checked _ _ hprepared.approved
  have hchecked := KnowledgeBaseWriteApprovalEvidence.checked_of_sealed hsealed
  obtain ⟨herrors, -, hdraft⟩ := KnowledgeBaseWriteApprovalEvidence.sealed_eq_ok.mp hsealed
  obtain ⟨hblank, -, -, -, -, -, -, -, -, -, hmanifest, hcontent, -, -, -, hrestore, -⟩ :=
    KnowledgeBaseWriteApprovalEvidence.errors_eq_nil.mp herrors
  refine ⟨⟨hchecked, ?_, ?_, ?_, ?_, hnamed.symm⟩, htenant.symm⟩
  · rw [htenant, hdraft]
    exact hblank
  · rw [hdraft]
    exact hmanifest
  · rw [hdraft]
    exact hcontent
  · rw [hdraft]
    exact hrestore

/-- Receipts of one text are for one version. -/
theorem versionKey_of_payload {receipt receipt' : SourceObjectWriteReceipt}
    (h : Json.Same receipt.payload receipt'.payload) :
    receipt.metadata.versionKey = receipt'.metadata.versionKey := by
  have hkeys : ["tenant_id", "receipt_reference", "object_id", "object_type", "version_id", "title",
      "owner_principal_id", "created_by", "created_at_utc", "updated_at_utc", "classification",
      "retention_policy_id", "legal_hold_state", "kms_key_ref", "manifest_hash", "audit_chain_ref",
      "source_system", "source_schema_version", "mime_type", "acl_hash", "acl_version",
      "content_hash", "content_byte_length", "lifecycle_state", "parent_object_id", "thread_id",
      "parser_profile_id", "captured_at_utc", "receipt_schema_version"].Nodup := by decide
  have htenant : receipt.metadata.tenantId = receipt'.metadata.tenantId :=
    Json.same_str.mp (@Json.same_of_mem _ _ h hkeys "tenant_id" _ _ (by simp) (by simp))
  have hobject : receipt.metadata.objectId = receipt'.metadata.objectId :=
    Json.same_str.mp (@Json.same_of_mem _ _ h hkeys "object_id" _ _ (by simp) (by simp))
  have hversion : receipt.metadata.versionId = receipt'.metadata.versionId :=
    Json.same_str.mp (@Json.same_of_mem _ _ h hkeys "version_id" _ _ (by simp) (by simp))
  rw [SourceObjectMetadata.versionKey, htenant, hobject, hversion, SourceObjectMetadata.versionKey]

/-- The receipt of a prepared write has the hash of its text. -/
theorem receiptHash_of_prepared (hprepared : service.Prepared command user now world prepared) :
    prepared.receipt.receiptHash =
      buildSourceObjectWriteReceiptHash service.hashes prepared.receipt := by
  have hbuilt := hprepared.receipt
  unfold buildSourceObjectWriteReceipt at hbuilt
  obtain ⟨draft, -, hbuilt⟩ := Except.bind_eq_ok.mp hbuilt
  rw [← Except.ok.inj hbuilt]
  rfl

/-- The receipt is for the proposed record. -/
theorem versionKey_of_prepared (hprepared : service.Prepared command user now world prepared) :
    prepared.receipt.metadata.versionKey = command.proposedSourceRecord.metadata.versionKey := by
  -- the identifiers of accepted metadata are stripped
  obtain ⟨hnormal, -, -⟩ := SourceObjectMetadata.validate_self.mp command.recordDraft
  have hkey : command.proposedSourceRecord.metadata.normalized.versionKey =
      command.proposedSourceRecord.metadata.versionKey := by
    have hunhashed := congrArg SourceObjectMetadata.versionKey hnormal
    exact hunhashed
  exact (versionKey_of_receipt hprepared.receipt).trans hkey

/-- The proposed record is the version that was approved. -/
theorem recordKey_of_prepared (hapart : TellsApart service.hashes)
    (hprepared : service.Prepared command user now world prepared) :
    command.proposedSourceRecord.metadata.versionKey = (user.tenantId,
      prepared.approvedEvidence.proposedSourceObjectId,
      prepared.approvedEvidence.proposedSourceVersionId) := by
  obtain ⟨-, hsound, -⟩ := KnowledgeBaseSourceObjectWriteGuard.sound_of_blockingReasons
    (hprepared.no_reasons hapart)
  rw [SourceObjectMetadata.versionKey, hsound.tenantId, hsound.objectId, hsound.versionId]

end

section

variable {command : KnowledgeBaseWriteExecutionCommand} {user : UserContext} {eventId : EventId}
variable {now : String} {prepared : PreparedWrite}

/-- A creation has a new key: its dry run had one, and no article has changed since. -/
theorem newKey_of_tried
    (hnone : NoCollisions service start (before ++ [.execute command user eventId now]))
    (hpreviewed : service.Previewed user (Runs.run service.step start before) prepared)
    (htenant : prepared.approvedEvidence.tenantId = user.tenantId)
    (htried : Tried service start before prepared.approvedEvidence)
    (hcreate : prepared.approvedEvidence.operation = .create) :
    ¬ ∃ article ∈ (Runs.run service.step start before).articles.articles,
      article.tenantId = user.tenantId ∧
        article.articleKey = prepared.approvedEvidence.articleKey := by
  obtain ⟨hcalled, hdone, hsame⟩ := htried
  rename_i earlier tryCommand tryUser tryId dryRun
  have hsameTenant : tryUser.tenantId = user.tenantId :=
    hdone.appends.tenant.symm.trans (hsame.tenantId.symm.trans htenant)
  -- both have read one restore hash
  obtain ⟨evidences, restore, hreads, hrestore⟩ := hdone.reads
  obtain ⟨evidences', hreads', -⟩ := hpreviewed.reads
  rw [hsameTenant] at hreads
  have hhash : prepared.restoreEvidence.evidenceHash = restore.evidenceHash :=
    hpreviewed.restore.trans (hsame.restoreHash.trans hrestore)
  have hmem : Runs.run service.step start before ∈
      callStates service start (before ++ [.execute command user eventId now]) :=
    ⟨before, _, List.prefix_refl _, rfl⟩
  have hmem' : Runs.run service.step start earlier ∈
      callStates service start (before ++ [.execute command user eventId now]) :=
    ⟨earlier, _, hcalled.trans (List.prefix_append before _), rfl⟩
  have hcurrent := currentVersions_of_restoreHash (hnone.snapshots user.tenantId) hmem hmem' hreads'
    hreads hhash
  -- so no article of the tenant has changed since the dry run
  have hlisted : (Runs.run service.step start before).articles.listArticles user.tenantId =
      (Runs.run service.step start earlier).articles.listArticles user.tenantId := by
    obtain ⟨later, hlater⟩ := (List.prefix_append earlier _).trans hcalled
    rw [← hlater, Runs.run_append] at hreads' hcurrent ⊢
    rcases namesNew_or_same_run service (Runs.run service.step start earlier) user.tenantId later
      later (List.prefix_refl later) with hnew | hlisted
    · exact absurd hnew (not_namesNew hreads' hcurrent)
    · exact hlisted
  rintro ⟨article, harticle, hof, hkey⟩
  have hbefore : article ∈ (Runs.run service.step start earlier).articles.listArticles
      user.tenantId := by
    rw [← hlisted]
    exact List.mem_filter.mpr ⟨harticle, decide_eq_true hof⟩
  obtain ⟨_, -, htarget⟩ := Except.bind_eq_ok.mp hdone.target
  refine require_eq_ok.mp htarget ⟨hdone.operation.symm.trans (hsame.operation.symm.trans hcreate),
    article, ?_, hkey.trans (hsame.articleKey.trans hdone.articleKey)⟩
  obtain ⟨hthere, -⟩ := List.mem_filter.mp hbefore
  exact mem_records.mpr ⟨hthere, hof.trans hsameTenant.symm⟩

/-- The receipt is new: the receipts that there are have their sources. -/
theorem receiptFresh_of_lineage
    (hnone : NoCollisions service start (before ++ [.execute command user eventId now]))
    (hprepares : Prepares service start (before ++ [.execute command user eventId now]) command user
      prepared)
    (hprepared : service.Prepared command user now (Runs.run service.step start before) prepared)
    (hpreviewed : service.Previewed user (Runs.run service.step start before) prepared)
    (hlineage : Lineage service start before) :
    ReceiptFresh prepared (Runs.run service.step start before) := by
  have hversion : prepared.receipt.metadata.versionKey ∉
      (Runs.run service.step start before).receipts.objectVersions := by
    intro hmem
    obtain ⟨record, hrecord⟩ := hlineage.stored _ hmem
    rw [versionKey_of_prepared hprepared, recordKey_of_prepared hnone.approvals hprepared,
      fresh_of_absent hpreviewed.absent] at hrecord
    cases hrecord
  refine ⟨?_, hversion⟩
  cases hget : (Runs.run service.step start before).receipts.receipts.get?
      (prepared.receipt.metadata.tenantId, prepared.receipt.receiptHash) with
  | none => rfl
  | some receipt =>
    obtain ⟨hkey, hmem, otherCommand, otherUser, other, hother, hreceipt⟩ :=
      hlineage.receipts _ _ hget
    obtain ⟨earlier, otherId, otherNow, hearlier, hprepare⟩ := hother
    have hotherPrepared := (prepareWrite_returns (Prod.ext hprepare rfl)).1
    -- receipts with one hash have one text, and are for one version
    have hhash : hashJson service.hashes receipt.payload =
        hashJson service.hashes prepared.receipt.payload := by
      have hown := receiptHash_of_prepared hotherPrepared
      rw [← hreceipt] at hown
      exact hown.symm.trans ((Prod.mk.inj hkey).2.symm.trans (receiptHash_of_prepared hprepared))
    have hotherPrepares : Prepares service start
        (before ++ [.execute command user eventId now]) otherCommand otherUser other :=
      ⟨earlier, otherId, otherNow, hearlier.trans (List.prefix_append before _), hprepare⟩
    have htext : jsonBytes receipt.payload ∈ {text | ∃ command' user' prepared',
        Prepares service start (before ++ [.execute command user eventId now]) command' user'
          prepared' ∧ text = jsonBytes prepared'.receipt.payload} := by
      rw [hreceipt]
      exact ⟨otherCommand, otherUser, other, hotherPrepares, rfl⟩
    have hpayload := same_of_hashJson_eq hnone.receipts htext
      ⟨command, user, prepared, hprepares, rfl⟩ hhash
    rw [versionKey_of_payload hpayload] at hmem
    exact absurd hmem hversion

/-- **What was prepared is written.** -/
theorem prepareWrite_commits (hdigests : WriteDigests service.hashes)
    (hnone : NoCollisions service start (before ++ [.execute command user eventId now]))
    (hledger : LedgerSound service.hashes (Runs.run service.step start before).ledger)
    (hlineage : Lineage service start before)
    (hprepare : ((service.prepareWrite command user now).run
      (Runs.run service.step start before)).1 = .ok prepared) :
    ∃ response, ((service.commitWrite command user eventId prepared).run
        (Runs.run service.step start before)).1 = .ok response ∧
      Refreshed service user prepared.approvedEvidence prepared.projectedHashes response
        ((service.commitWrite command user eventId prepared).run
          (Runs.run service.step start before)).2 := by
  have hprepares : Prepares service start (before ++ [.execute command user eventId now]) command
      user prepared := ⟨before, eventId, now, List.prefix_refl _, hprepare⟩
  have hreturns : (service.prepareWrite command user now).run (Runs.run service.step start before) =
      (.ok prepared, ((service.prepareWrite command user now).run
        (Runs.run service.step start before)).2) := Prod.ext hprepare rfl
  obtain ⟨hprepared, -⟩ := prepareWrite_returns hreturns
  have hpreviewed := prepareWrite_previews hreturns
  obtain ⟨happroved, htenant⟩ := approvedFor_of_ledger hledger hprepared
  have htried := hlineage.tried _ _ hprepared.approved
  exact commitWrite_succeeds hnone.approvals hdigests hprepared hpreviewed happroved
    (newKey_of_tried hnone hpreviewed htenant htried)
    (receiptFresh_of_lineage hnone hprepares hprepared hpreviewed hlineage) eventId

/-! ## Executions -/

/-- An execution that returned: it has written, and read again what was projected. -/
structure Executed (service : KnowledgeBaseArticleService)
    (command : KnowledgeBaseWriteExecutionCommand) (user : UserContext) (eventId : EventId)
    (now : String) (world : KnowledgeBaseWorld) (prepared : PreparedWrite) : Prop where
  prepares  : ((service.prepareWrite command user now).run world).1 = .ok prepared
  returned  : ∃ response,
                ((service.executeWrite command user eventId now).run world).1 = .ok response ∧
                Refreshed service user prepared.approvedEvidence prepared.projectedHashes response
                  ((service.executeWrite command user eventId now).run world).2
  committed : service.Committed command user prepared world
                ((service.executeWrite command user eventId now).run world).2

/-- **All or nothing**: an execution returns, or it raises and changes no store. -/
theorem executeWrite_cases (hdigests : WriteDigests service.hashes)
    (hnone : NoCollisions service start (before ++ [.execute command user eventId now]))
    (hledger : LedgerSound service.hashes (Runs.run service.step start before).ledger)
    (hlineage : Lineage service start before) :
    ((∃ exn, ((service.executeWrite command user eventId now).run
        (Runs.run service.step start before)).1 = .error exn) ∧
      ((service.executeWrite command user eventId now).run
        (Runs.run service.step start before)).2.stores =
          (Runs.run service.step start before).stores) ∨
      ∃ prepared, service.Executed command user eventId now (Runs.run service.step start before)
        prepared := by
  rcases hprepare : (service.prepareWrite command user now).run (Runs.run service.step start before)
    with ⟨exn | prepared, between⟩
  · have hkept := (@keeps_prepareWrite service command user now).run
      (Runs.run service.step start before)
    rw [hprepare] at hkept
    unfold executeWrite
    rw [Prog.run_bind_of_error hprepare]
    exact .inl ⟨⟨exn, rfl⟩, hkept⟩
  · obtain ⟨response, hresponse, hrefreshed⟩ := prepareWrite_commits hdigests hnone hledger
      hlineage (congrArg Prod.fst hprepare)
    have hcommitted := commitWrite_returns (Prod.ext hresponse rfl)
    obtain ⟨-, hbetween⟩ := prepareWrite_returns hprepare
    have hrun : (service.executeWrite command user eventId now).run
        (Runs.run service.step start before) =
          (service.commitWrite command user eventId prepared).run
            (Runs.run service.step start before) := by
      unfold executeWrite
      rw [Prog.run_bind_of_ok hprepare, hbetween]
    refine .inr ⟨prepared, congrArg Prod.fst hprepare, ?_, ?_⟩
    · rw [hrun]
      exact ⟨response, hresponse, hrefreshed⟩
    · rw [hrun]
      exact hcommitted

end

/-! ## Runs -/

section

variable {event : WriteEvent}

/-- Entries of the ledger come and go with their dry runs; the rest stays. -/
theorem Lineage.of_ledger {events : List WriteEvent} (hwithin : before <+: events)
    (hreceipts : (Runs.run service.step start events).receipts =
      (Runs.run service.step start before).receipts)
    (hsources : (Runs.run service.step start events).sources =
      (Runs.run service.step start before).sources)
    (htried : ∀ key evidence,
      (Runs.run service.step start events).ledger.get? key = some evidence →
        (Runs.run service.step start before).ledger.get? key = some evidence ∨
          Tried service start events evidence)
    (h : Lineage service start before) : Lineage service start events where
  tried key evidence hget := by
    rcases htried key evidence hget with hbefore | hnew
    · exact (h.tried key evidence hbefore).mono hwithin
    · exact hnew
  stored key hmem := by
    rw [hreceipts] at hmem
    rw [hsources]
    exact h.stored key hmem
  receipts key receipt hget := by
    rw [hreceipts] at hget ⊢
    obtain ⟨hkey, hmem, command, user, prepared, hprepares, hreceipt⟩ := h.receipts key receipt hget
    exact ⟨hkey, hmem, command, user, prepared, hprepares.mono hwithin, hreceipt⟩

theorem run_snoc (service : KnowledgeBaseArticleService) (start : KnowledgeBaseWorld)
    (before : List WriteEvent) (event : WriteEvent) :
    Runs.run service.step start (before ++ [event]) =
      service.step (Runs.run service.step start before) event := by
  rw [Runs.run_append]
  rfl

/-- An execution that returned leaves its receipt, and the source that the receipt is for. -/
theorem Lineage.of_executed {command : KnowledgeBaseWriteExecutionCommand} {user : UserContext}
    {eventId : EventId} {now : String} {prepared : PreparedWrite}
    (hexecuted : service.Executed command user eventId now (Runs.run service.step start before)
      prepared)
    (h : Lineage service start before) :
    Lineage service start (before ++ [.execute command user eventId now]) := by
  have hrun : Runs.run service.step start (before ++ [.execute command user eventId now]) =
      ((service.executeWrite command user eventId now).run
        (Runs.run service.step start before)).2 := run_snoc service start before _
  have hprepares : Prepares service start (before ++ [.execute command user eventId now]) command
      user prepared := ⟨before, eventId, now, List.prefix_refl _, hexecuted.prepares⟩
  obtain ⟨hprepared, -⟩ := prepareWrite_returns (Prod.ext hexecuted.prepares rfl)
  have hextends := extends_step service (Runs.run service.step start before)
    (.execute command user eventId now)
  have hcommitted := hexecuted.committed
  obtain ⟨_, hreceipt⟩ := hcommitted.receipts
  obtain ⟨-, -, -, hreceipts⟩ := append_eq_ok hreceipt
  obtain ⟨-, hfresh, hsource⟩ := InMemorySourceObjectRepository.add_eq_ok.mp hcommitted.sources
  rw [← run_snoc] at hextends
  rw [← hrun] at hcommitted hreceipts hsource
  refine ⟨fun key evidence hget => ?_, fun key hmem => ?_, fun key receipt hget => ?_⟩
  · rw [hcommitted.ledger] at hget
    exact (h.tried key evidence hget).mono (List.prefix_append before _)
  · rw [hreceipts, List.mem_append, List.mem_singleton] at hmem
    rcases hmem with hmem | hnew
    · obtain ⟨record, hrecord⟩ := h.stored key hmem
      exact ⟨record, hextends.sources key record hrecord⟩
    · rw [hnew, versionKey_of_prepared hprepared, hsource]
      exact ⟨command.proposedSourceRecord, Dict.get?_set_self ..⟩
  · rw [hreceipts] at hget ⊢
    by_cases hkey : key = prepared.receipt.key
    · rw [hkey] at hget ⊢
      have hsame : prepared.receipt = receipt :=
        Option.some.inj ((Dict.get?_set_self ..).symm.trans hget)
      rw [← hsame]
      exact ⟨rfl, List.mem_append_right _ (List.mem_singleton_self _), command, user, prepared,
        hprepares, rfl⟩
    · obtain ⟨hown, hmem, command', user', prepared', hprepares', hsame⟩ :=
        h.receipts key receipt ((Dict.get?_set_ne _ _ hkey).symm.trans hget)
      exact ⟨hown, List.mem_append_left _ hmem, command', user', prepared',
        hprepares'.mono (List.prefix_append before _), hsame⟩

/-- **Every operation keeps lineage.** -/
theorem lineage_step (hdigests : WriteDigests service.hashes)
    (hnone : NoCollisions service start (before ++ [event]))
    (hledger : LedgerSound service.hashes (Runs.run service.step start before).ledger)
    (h : Lineage service start before) : Lineage service start (before ++ [event]) := by
  have hrun := run_snoc service start before event
  have hwithin := List.prefix_append before [event]
  -- an operation that changes no store
  have hnothing : (service.step (Runs.run service.step start before) event).stores =
      (Runs.run service.step start before).stores → Lineage service start (before ++ [event]) := by
    intro hstores
    rw [← hrun] at hstores
    obtain ⟨hkept, hreceipts, hsources, -⟩ := stores_eq_iff.mp hstores
    refine h.of_ledger hwithin hreceipts hsources fun key evidence hget => .inl ?_
    rw [hkept] at hget
    exact hget
  -- and one that adds an evidence to the ledger
  have happend : ∀ evidence, (service.step (Runs.run service.step start before) event).stores =
      ({ Runs.run service.step start before with
        ledger := (Runs.run service.step start before).ledger.set
          (evidence.tenantId, evidence.evidenceHash) evidence } : KnowledgeBaseWorld).stores →
      Tried service start (before ++ [event]) evidence →
        Lineage service start (before ++ [event]) := by
    intro evidence hstores htried
    rw [← hrun] at hstores
    obtain ⟨hset, hreceipts, hsources, -⟩ := stores_eq_iff.mp hstores
    refine h.of_ledger hwithin hreceipts hsources fun key found hget => ?_
    rw [hset] at hget
    rcases get?_append hget with ⟨-, hfound⟩ | hget
    · rw [hfound]
      exact .inr htried
    · exact .inl hget
  cases event with
  | dryRun command user eventId =>
    cases step_cases service (Runs.run service.step start before)
      (.dryRun command user eventId) with
    | nothing hstores => exact hnothing hstores
    | dryRun hdone =>
      have hstores := hdone.appends.stores
      rw [← hdone.appends.tenant] at hstores
      exact happend _ hstores ⟨List.prefix_refl _, hdone, .refl _⟩
  | approve command user eventId =>
    cases step_cases service (Runs.run service.step start before)
      (.approve command user eventId) with
    | nothing hstores => exact hnothing hstores
    | approval hdone =>
      have htried := (h.tried _ _ hdone.found).mono hwithin
      exact happend _ hdone.stores (htried.sameCommand hdone.command)
  | execute command user eventId now =>
    rcases executeWrite_cases hdigests hnone hledger h with ⟨-, hstores⟩ | ⟨prepared, hexecuted⟩
    · exact hnothing hstores
    · exact h.of_executed hexecuted

/-- **Every run keeps lineage.** -/
theorem lineage_run (hdigests : WriteDigests service.hashes) (hledger : start.ledger = ∅)
    (hreceipts : start.receipts = ∅) (events : List WriteEvent)
    (hnone : NoCollisions service start events) : Lineage service start events := by
  induction events using List.reverseRecOn with
  | nil => exact lineage_nil hledger hreceipts
  | append_singleton before event ih =>
    exact lineage_step hdigests hnone (ledgerSound_run hledger before)
      (ih (hnone.mono (List.prefix_append before [event])))

end

end KnowledgeBaseArticleService

end Collabio
