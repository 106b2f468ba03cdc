import Mathlib.Tactic
import Collabio.KnowledgeBase.ExecutedWrites

/-!
# Runs of write operations

* `WriteEvent`, `step`   — a dry run, an approval or an execution, and the state that it leaves
  when it returns or raises;
* `approval_returns`     — what an approval that returned has seen and stored;
* `executeWrite_reaches` — how far an execution has come, wherever it ended;
* `step_cases`           — what one operation does to the stores;
* `extends_run`          — no run loses an evidence or a source.
-/

namespace Collabio

open KnowledgeBaseWorld

namespace KnowledgeBaseArticleService

variable {service : KnowledgeBaseArticleService} {world world' : KnowledgeBaseWorld}

/-! ## Operations -/

/-- One call of a write operation, with the id and the time that it draws. -/
inductive WriteEvent where
  | dryRun (command : KnowledgeBaseWriteApprovalCommand) (user : UserContext) (eventId : EventId)
  | approve (command : KnowledgeBaseWriteApprovalTransitionCommand) (user : UserContext)
      (eventId : EventId)
  | execute (command : KnowledgeBaseWriteExecutionCommand) (user : UserContext)
      (eventId : EventId) (now : String)

/-- The state that the call leaves, whether it returns or raises. -/
def step (service : KnowledgeBaseArticleService) (world : KnowledgeBaseWorld) :
    WriteEvent → KnowledgeBaseWorld
  | .dryRun command user eventId => ((service.dryRunWriteApproval command user eventId).run world).2
  | .approve command user eventId =>
    ((service.approveWriteApproval command user eventId).run world).2
  | .execute command user eventId now =>
    ((service.executeWrite command user eventId now).run world).2

/-! ## Dry runs and approvals -/

/-- A program that raises leaves the stores as they were. -/
def RaisesClean {α : Type} (p : KbProg α) : Prop :=
  ∀ world exn world', p.run world = (.error exn, world') → world'.stores = world.stores

/-- Calls that change no store may come first. -/
theorem RaisesClean.bind {α β : Type} {p : KbProg α} {f : α → KbProg β} (hp : p.Keeps stores)
    (hf : ∀ a, RaisesClean (f a)) : RaisesClean (p >>= f) := by
  intro world exn world' h
  rcases Prog.run_bind_eq_error.mp h with h | ⟨a, between, hfirst, h⟩
  · have hkept := hp.run world
    rw [h] at hkept
    exact hkept
  · have hkept := hp.run world
    rw [hfirst] at hkept
    exact (hf a between exn world' h).trans hkept

theorem dryRun_raises (command : KnowledgeBaseWriteApprovalCommand) (user : UserContext)
    (eventId : EventId) : RaisesClean (service.dryRunWriteApproval command user eventId) := by
  unfold dryRunWriteApproval
  refine .bind (keeps_listRecords _) fun _ => .bind (keeps_lift _) fun _ => ?_
  refine .bind (keeps_currentEvidence _ _) fun _ => .bind (keeps_lift _) fun _ => ?_
  exact fun _ _ _ h => recordAndAppend_eq_error h

theorem approval_raises (command : KnowledgeBaseWriteApprovalTransitionCommand)
    (user : UserContext) (eventId : EventId) :
    RaisesClean (service.approveWriteApproval command user eventId) := by
  unfold approveWriteApproval
  refine .bind (keeps_read _) fun _ => .bind (keeps_lift _) fun _ => ?_
  refine .bind (keeps_read _) fun _ => .bind (keeps_lift _) fun _ => ?_
  refine .bind (keeps_listRecords _) fun _ => .bind (keeps_lift _) fun _ => ?_
  refine .bind (keeps_currentEvidence _ _) fun _ => .bind (keeps_lift _) fun _ => ?_
  exact fun _ _ _ h => recordAndAppend_eq_error h

/-- What an approval that returned has seen and stored. -/
structure ApprovalDone (service : KnowledgeBaseArticleService)
    (command : KnowledgeBaseWriteApprovalTransitionCommand) (user : UserContext)
    (dryRun evidence : KnowledgeBaseWriteApprovalEvidence) (world world' : KnowledgeBaseWorld) :
    Prop where
  found      : world.ledger.get? (user.tenantId, command.dryRunWriteApprovalEvidenceHash) =
                 some dryRun
  approvable : service.requireApprovableDryRunEvidence dryRun = .ok ()
  unapproved : ∀ other ∈ InMemoryKnowledgeBaseWriteApprovalLedger.listEvidence world.ledger
                 user.tenantId, ¬ IsApprovalOf dryRun.evidenceHash other
  reads      : ∃ sourceEvidences restoreEvidence,
                 service.Reads world user.tenantId sourceEvidences restoreEvidence ∧
                 restoreEvidence.evidenceHash = dryRun.currentRestoreEvidenceHash
  approval   : IsApprovalOf dryRun.evidenceHash evidence
  command    : dryRun.SameCommand evidence
  checked    : ∃ draft : KnowledgeBaseWriteApprovalEvidence,
                 draft.sealed service.hashes = .ok evidence
  fresh      : world.ledger.get? (evidence.tenantId, evidence.evidenceHash) = none
  stores     : world'.stores = ({ world with
                 ledger := world.ledger.set (evidence.tenantId, evidence.evidenceHash) evidence } :
                   KnowledgeBaseWorld).stores

theorem approval_returns {command : KnowledgeBaseWriteApprovalTransitionCommand}
    {user : UserContext} {eventId : EventId}
    {response : KnowledgeBaseWriteApprovalTransitionResponse}
    (h : (service.approveWriteApproval command user eventId).run world = (.ok response, world')) :
    ∃ dryRun evidence, service.ApprovalDone command user dryRun evidence world world' ∧
      response.approvedWriteApprovalEvidenceHash = evidence.evidenceHash := by
  unfold approveWriteApproval at h
  obtain ⟨dryRun, hget, h⟩ := (Prog.run_bind_eq_ok_of_run (Prog.run_read _ _)).mp h
  obtain ⟨_, hdryRun, h⟩ := (Prog.run_bind_eq_ok_of_run (Prog.run_lift _ _)).mp h
  obtain ⟨_, hlist, h⟩ := (Prog.run_bind_eq_ok_of_run (Prog.run_read _ _)).mp h
  cases hlist
  obtain ⟨_, hunapproved, h⟩ := (Prog.run_bind_eq_ok_of_run (Prog.run_lift _ _)).mp h
  obtain ⟨_, hrecords, h⟩ := (Prog.run_bind_eq_ok_of_run (run_listRecords _ _)).mp h
  cases hrecords
  obtain ⟨_, -, h⟩ := (Prog.run_bind_eq_ok_of_run (Prog.run_lift _ _)).mp h
  obtain ⟨⟨sourceEvidences, restoreEvidence⟩, hreads, h⟩ :=
    (Prog.run_bind_eq_ok_of_run (run_currentEvidence _ _ _)).mp h
  obtain ⟨_, hrestore, h⟩ := (Prog.run_bind_eq_ok_of_run (Prog.run_lift _ _)).mp h
  obtain ⟨event, evidence, hbuilt, rfl, hfresh, hstores⟩ := recordAndAppend_eq_ok h
  obtain ⟨hstate, htransition, -, hcommand⟩ := buildWriteApprovalTransitionEvidence_eq_ok hbuilt
  exact ⟨dryRun, evidence, {
    found := ledgerGet_eq_ok.mp hget
    approvable := hdryRun
    unapproved := require_eq_ok.mp hunapproved
    reads := ⟨sourceEvidences, restoreEvidence, hreads, require_eq_ok.mp hrestore⟩
    approval := ⟨htransition, hstate⟩
    command := hcommand
    checked := ⟨_, hbuilt⟩
    fresh := hfresh
    stores := hstores }, rfl⟩

/-! ## Executions -/

/-- How far the writes of an execution have come. -/
inductive Reached (service : KnowledgeBaseArticleService)
    (command : KnowledgeBaseWriteExecutionCommand) (user : UserContext) (prepared : PreparedWrite)
    (world : KnowledgeBaseWorld) : KnowledgeBaseWorld → Prop
  | nothing {world' : KnowledgeBaseWorld} (stores : world'.stores = world.stores) :
      Reached service command user prepared world world'
  | receipt {world' : KnowledgeBaseWorld} {receipt : SourceObjectWriteReceipt}
      {receipts : InMemorySourceObjectWriteReceiptStore}
      (appended : InMemorySourceObjectWriteReceiptStore.append service.hashes prepared.receipt
        world.receipts = (.ok receipt, receipts))
      (stores : world'.stores = ({ world with receipts } : KnowledgeBaseWorld).stores) :
      Reached service command user prepared world world'
  | source {world' : KnowledgeBaseWorld} {receipt : SourceObjectWriteReceipt}
      {receipts : InMemorySourceObjectWriteReceiptStore} {sources : InMemorySourceObjectRepository}
      (appended : InMemorySourceObjectWriteReceiptStore.append service.hashes prepared.receipt
        world.receipts = (.ok receipt, receipts))
      (added : InMemorySourceObjectRepository.add service.hashes command.proposedSourceRecord
        world.sources = (.ok (), sources))
      (stores : world'.stores = ({ world with receipts, sources } : KnowledgeBaseWorld).stores) :
      Reached service command user prepared world world'
  | article {world' : KnowledgeBaseWorld} (committed : service.Committed command user prepared world
      world') : Reached service command user prepared world world'

theorem append_of_error {receipt : SourceObjectWriteReceipt}
    {store store' : InMemorySourceObjectWriteReceiptStore} {exn : Exn} {H : HashFunctions}
    (h : InMemorySourceObjectWriteReceiptStore.append H receipt store = (.error exn, store')) :
    store' = store := by
  unfold InMemorySourceObjectWriteReceiptStore.append at h
  split_ifs at h
  · cases h
    rfl
  · cases h
    rfl
  · cases h

theorem applyCreate_of_error {tenantId auditChainRef : String}
    {evidence : KnowledgeBaseWriteApprovalEvidence} {record : SourceObjectRecord}
    {repository repository' : InMemoryKnowledgeBaseArticleRepository} {exn : Exn}
    (h : InMemoryKnowledgeBaseArticleRepository.applyCreate tenantId evidence record auditChainRef
      repository = (.error exn, repository')) : repository' = repository := by
  unfold InMemoryKnowledgeBaseArticleRepository.applyCreate at h
  split at h
  · cases h
    rfl
  · split at h
    · cases h
      rfl
    · split at h
      · cases h
        rfl
      · cases h

theorem applyEdit_of_error {tenantId auditChainRef : String}
    {evidence : KnowledgeBaseWriteApprovalEvidence} {record : SourceObjectRecord}
    {repository repository' : InMemoryKnowledgeBaseArticleRepository} {exn : Exn}
    (h : InMemoryKnowledgeBaseArticleRepository.applyEdit tenantId evidence record auditChainRef
      repository = (.error exn, repository')) : repository' = repository := by
  unfold InMemoryKnowledgeBaseArticleRepository.applyEdit at h
  split at h
  · cases h
    rfl
  · split at h
    · cases h
      rfl
    · cases h

/-- A write of an article that raises leaves the articles as they were. -/
theorem applyWrite_of_error {tenantId auditChainRef : String}
    {evidence : KnowledgeBaseWriteApprovalEvidence} {record : SourceObjectRecord}
    {repository repository' : InMemoryKnowledgeBaseArticleRepository} {exn : Exn}
    (h : InMemoryKnowledgeBaseArticleRepository.applyWrite tenantId evidence record auditChainRef
      repository = (.error exn, repository')) : repository' = repository := by
  cases hoperation : evidence.operation with
  | create =>
    rw [InMemoryKnowledgeBaseArticleRepository.applyWrite, hoperation] at h
    exact applyCreate_of_error h
  | edit =>
    rw [InMemoryKnowledgeBaseArticleRepository.applyWrite, hoperation] at h
    exact applyEdit_of_error h

/-- What follows the writes changes no store. -/
theorem keeps_refresh (command : KnowledgeBaseWriteExecutionCommand) (user : UserContext)
    (eventId : EventId) (prepared : PreparedWrite) (receipt : SourceObjectWriteReceipt)
    (article : KnowledgeBaseArticleRecord) :
    (do
      let records ← service.listRecords user.tenantId
      let (sourceEvidences, restoreEvidence) ← service.currentEvidence user.tenantId records
      let refreshed ← Prog.lift (requireRefreshed prepared.approvedEvidence
        prepared.projectedHashes sourceEvidences restoreEvidence)
      let event ← recordAudit service.hashes {
        eventId := eventId.value
        userContext := user
        eventType := "knowledge_base.write_approval.executed"
        sourceObjectIds := targetObjectIds prepared.approvedEvidence.articleObjectId
          prepared.approvedEvidence.expectedCurrentVersionObjectId prepared.existingArticle
          prepared.approvedEvidence.proposedVersionObjectId
          prepared.approvedEvidence.proposedSourceObjectId
        inputText := some (Json.canonical command.auditPayload)
        metadata := service.executionMetadata command prepared receipt.receiptHash refreshed
          restoreEvidence }
      Prog.lift (service.executionResponse command user prepared receipt.receiptHash article
        refreshed restoreEvidence event.eventId).validate :
          KbProg KnowledgeBaseWriteExecutionResponse).Keeps stores := by
  refine (keeps_listRecords _).bind fun _ => (keeps_currentEvidence _ _).bind fun _ => ?_
  exact (keeps_lift _).bind fun _ => (keeps_recordAudit _ _).bind fun _ => keeps_lift _

theorem commitWrite_reaches (command : KnowledgeBaseWriteExecutionCommand) (user : UserContext)
    (eventId : EventId) (prepared : PreparedWrite) (world : KnowledgeBaseWorld) :
    Reached service command user prepared world
      ((service.commitWrite command user eventId prepared).run world).2 := by
  unfold commitWrite
  rcases happend : InMemorySourceObjectWriteReceiptStore.append service.hashes prepared.receipt
    world.receipts with ⟨exn | receipt, receipts⟩
  · rw [Prog.run_bind_of_error (run_appendReceipt happend), append_of_error happend]
    exact .nothing rfl
  rw [Prog.run_bind_of_ok (run_appendReceipt happend)]
  rcases hadd : InMemorySourceObjectRepository.add service.hashes command.proposedSourceRecord
    world.sources with ⟨exn | ⟨⟩, sources⟩
  · have hrun := @run_addSource _ _ { world with receipts } _ _ hadd
    rw [Prog.run_bind_of_error hrun, InMemorySourceObjectRepository.add_of_error hadd]
    exact .receipt happend rfl
  have hsource := @run_addSource _ _ { world with receipts } _ _ hadd
  rw [Prog.run_bind_of_ok hsource]
  rcases happly : InMemoryKnowledgeBaseArticleRepository.applyWrite user.tenantId
    prepared.approvedEvidence command.proposedSourceRecord (executionAuditChainRef command)
      world.articles with ⟨exn | article, articles⟩
  · have hrun := @run_applyWrite _ _ _ _ { world with receipts, sources } _ _ happly
    rw [Prog.run_bind_of_error hrun, applyWrite_of_error happly]
    exact .source happend hadd rfl
  have harticle := @run_applyWrite _ _ _ _ { world with receipts, sources } _ _ happly
  rw [Prog.run_bind_of_ok harticle]
  -- from here on the stores stay as the three writes have left them
  obtain ⟨hledger, hreceipts, hsources, harticles⟩ := stores_eq_iff.mp
    ((keeps_refresh command user eventId prepared receipt article).run
      { world with receipts, sources, articles })
  exact .article {
    ledger := hledger
    receipts := ⟨receipt, happend.trans (congrArg _ hreceipts.symm)⟩
    sources := hadd.trans (congrArg _ hsources.symm)
    articles := ⟨article, happly.trans (congrArg _ harticles.symm)⟩ }

/-- **Wherever an execution ended**, its checks have changed nothing, and its writes have come
some way. -/
theorem executeWrite_reaches (command : KnowledgeBaseWriteExecutionCommand) (user : UserContext)
    (eventId : EventId) (now : String) (world : KnowledgeBaseWorld) :
    ((service.executeWrite command user eventId now).run world).2.stores = world.stores ∨
      ∃ prepared, service.Prepared command user now world prepared ∧
        Reached service command user prepared world
          ((service.executeWrite command user eventId now).run world).2 := by
  unfold executeWrite
  rcases hprepare : (service.prepareWrite command user now).run world with ⟨exn | prepared, between⟩
  · rw [Prog.run_bind_of_error hprepare]
    have hkept := (@keeps_prepareWrite service command user now).run world
    rw [hprepare] at hkept
    exact .inl hkept
  · obtain ⟨hprepared, rfl⟩ := prepareWrite_returns hprepare
    rw [Prog.run_bind_of_ok hprepare]
    exact .inr ⟨prepared, hprepared, commitWrite_reaches command user eventId prepared between⟩

/-! ## One operation -/

/-- What one operation does to the stores. -/
inductive Steps (service : KnowledgeBaseArticleService) (world : KnowledgeBaseWorld) :
    WriteEvent → KnowledgeBaseWorld → Prop
  | nothing {event : WriteEvent} {world' : KnowledgeBaseWorld}
      (stores : world'.stores = world.stores) : Steps service world event world'
  | dryRun {command : KnowledgeBaseWriteApprovalCommand} {user : UserContext} {eventId : EventId}
      {evidence : KnowledgeBaseWriteApprovalEvidence} {world' : KnowledgeBaseWorld}
      (done : service.DryRunDone command user evidence world world') :
      Steps service world (.dryRun command user eventId) world'
  | approval {command : KnowledgeBaseWriteApprovalTransitionCommand} {user : UserContext}
      {eventId : EventId} {dryRun evidence : KnowledgeBaseWriteApprovalEvidence}
      {world' : KnowledgeBaseWorld}
      (done : service.ApprovalDone command user dryRun evidence world world') :
      Steps service world (.approve command user eventId) world'
  | execution {command : KnowledgeBaseWriteExecutionCommand} {user : UserContext}
      {eventId : EventId} {now : String} {prepared : PreparedWrite} {world' : KnowledgeBaseWorld}
      (checks : service.Prepared command user now world prepared)
      (reached : Reached service command user prepared world world') :
      Steps service world (.execute command user eventId now) world'

theorem step_cases (service : KnowledgeBaseArticleService) (world : KnowledgeBaseWorld)
    (event : WriteEvent) : Steps service world event (service.step world event) := by
  cases event with
  | dryRun command user eventId =>
    rcases hrun : (service.dryRunWriteApproval command user eventId).run world with
      ⟨exn | response, world'⟩
    · have hleft : service.step world (.dryRun command user eventId) = world' :=
        congrArg Prod.snd hrun
      rw [hleft]
      exact .nothing (dryRun_raises command user eventId world exn world' hrun)
    · have hleft : service.step world (.dryRun command user eventId) = world' :=
        congrArg Prod.snd hrun
      obtain ⟨evidence, hdone, -⟩ := dryRun_returns hrun
      rw [hleft]
      exact .dryRun hdone
  | approve command user eventId =>
    rcases hrun : (service.approveWriteApproval command user eventId).run world with
      ⟨exn | response, world'⟩
    · have hleft : service.step world (.approve command user eventId) = world' :=
        congrArg Prod.snd hrun
      rw [hleft]
      exact .nothing (approval_raises command user eventId world exn world' hrun)
    · have hleft : service.step world (.approve command user eventId) = world' :=
        congrArg Prod.snd hrun
      obtain ⟨dryRun, evidence, hdone, -⟩ := approval_returns hrun
      rw [hleft]
      exact .approval hdone
  | execute command user eventId now =>
    rcases executeWrite_reaches command user eventId now world with hsame |
      ⟨prepared, hprepared, hreached⟩
    · exact .nothing hsame
    · exact .execution hprepared hreached

/-! ## What no operation loses -/

/-- The later state has all evidence and all sources of the earlier one. -/
structure Extends (world world' : KnowledgeBaseWorld) : Prop where
  ledger  : ∀ key evidence, world.ledger.get? key = some evidence →
              world'.ledger.get? key = some evidence
  sources : ∀ key record, world.sources.records.get? key = some record →
              world'.sources.records.get? key = some record

theorem Extends.refl (world : KnowledgeBaseWorld) : Extends world world :=
  ⟨fun _ _ h => h, fun _ _ h => h⟩

theorem Extends.trans {middle : KnowledgeBaseWorld} (h : Extends world middle)
    (h' : Extends middle world') : Extends world world' :=
  ⟨fun key evidence hget => h'.ledger key evidence (h.ledger key evidence hget),
    fun key record hget => h'.sources key record (h.sources key record hget)⟩

theorem Extends.of_eq (hledger : world'.ledger = world.ledger)
    (hsources : world'.sources = world.sources) : Extends world world' := by
  refine ⟨fun key evidence hget => ?_, fun key record hget => ?_⟩
  · rw [hledger]
    exact hget
  · rw [hsources]
    exact hget

/-- One evidence more, under a key of its own. -/
theorem Extends.of_append {key : String × String} {evidence : KnowledgeBaseWriteApprovalEvidence}
    (hfresh : world.ledger.get? key = none)
    (hstores : world'.stores =
      ({ world with ledger := world.ledger.set key evidence } : KnowledgeBaseWorld).stores) :
    Extends world world' := by
  obtain ⟨hledger, -, hsources, -⟩ := stores_eq_iff.mp hstores
  refine ⟨fun other found hget => ?_, fun other record hget => ?_⟩
  · have hne : other ≠ key := by
      rintro rfl
      rw [hfresh] at hget
      cases hget
    rw [hledger]
    exact (Dict.get?_set_ne _ _ hne).trans hget
  · rw [hsources]
    exact hget

/-- One source more, under a key of its own. -/
theorem Extends.of_add {H : HashFunctions} {record : SourceObjectRecord}
    (hledger : world'.ledger = world.ledger)
    (hadded : InMemorySourceObjectRepository.add H record world.sources =
      (.ok (), world'.sources)) : Extends world world' := by
  obtain ⟨-, hfresh, hinsert⟩ := InMemorySourceObjectRepository.add_eq_ok.mp hadded
  refine ⟨fun key evidence hget => ?_, fun key found hget => ?_⟩
  · rw [hledger]
    exact hget
  · have hne : key ≠ record.metadata.versionKey := by
      rintro rfl
      rw [hfresh] at hget
      cases hget
    rw [hinsert]
    exact (Dict.get?_set_ne _ _ hne).trans hget

theorem Reached.extends {command : KnowledgeBaseWriteExecutionCommand} {user : UserContext}
    {prepared : PreparedWrite} (h : Reached service command user prepared world world') :
    Extends world world' := by
  cases h with
  | nothing hstores =>
    obtain ⟨hledger, -, hsources, -⟩ := stores_eq_iff.mp hstores
    exact .of_eq hledger hsources
  | receipt _ hstores =>
    obtain ⟨hledger, -, hsources, -⟩ := stores_eq_iff.mp hstores
    exact .of_eq hledger hsources
  | source _ hadded hstores =>
    obtain ⟨hledger, -, hsources, -⟩ := stores_eq_iff.mp hstores
    exact .of_add hledger (hadded.trans (congrArg _ hsources.symm))
  | article hcommitted => exact .of_add hcommitted.ledger hcommitted.sources

/-- **No evidence and no source is lost** in one operation. -/
theorem extends_step (service : KnowledgeBaseArticleService) (world : KnowledgeBaseWorld)
    (event : WriteEvent) : Extends world (service.step world event) := by
  cases step_cases service world event with
  | nothing hstores =>
    obtain ⟨hledger, -, hsources, -⟩ := stores_eq_iff.mp hstores
    exact .of_eq hledger hsources
  | dryRun hdone => exact .of_append hdone.appends.fresh hdone.appends.stores
  | approval hdone => exact .of_append hdone.fresh hdone.stores
  | execution _ hreached => exact hreached.extends

/-- Nor in a whole run. -/
theorem extends_run (service : KnowledgeBaseArticleService) (world : KnowledgeBaseWorld)
    (events : List WriteEvent) : Extends world (Runs.run service.step world events) := by
  induction events generalizing world with
  | nil => exact .refl world
  | cons event events ih => exact (extends_step service world event).trans (ih _)

/-- **Only an execution changes articles**, once its checks have passed. -/
theorem articles_step (service : KnowledgeBaseArticleService) (world : KnowledgeBaseWorld)
    (event : WriteEvent) : (service.step world event).articles = world.articles ∨
      ∃ command user eventId now prepared, event = .execute command user eventId now ∧
        service.Prepared command user now world prepared ∧
        service.Committed command user prepared world (service.step world event) := by
  cases step_cases service world event with
  | nothing hstores => exact .inl (stores_eq_iff.mp hstores).2.2.2
  | dryRun hdone => exact .inl (stores_eq_iff.mp hdone.appends.stores).2.2.2
  | approval hdone => exact .inl (stores_eq_iff.mp hdone.stores).2.2.2
  | execution hchecks hreached =>
    cases hreached with
    | nothing hstores => exact .inl (stores_eq_iff.mp hstores).2.2.2
    | receipt _ hstores => exact .inl (stores_eq_iff.mp hstores).2.2.2
    | source _ _ hstores => exact .inl (stores_eq_iff.mp hstores).2.2.2
    | article hcommitted => exact .inr ⟨_, _, _, _, _, rfl, hchecks, hcommitted⟩

end KnowledgeBaseArticleService

end Collabio
