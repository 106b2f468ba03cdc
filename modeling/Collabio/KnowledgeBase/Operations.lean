import Mathlib.Tactic
import Collabio.KnowledgeBase.ApprovalsSpec
import Collabio.KnowledgeBase.Calls

/-!
# What dry runs and approvals do

* `Appends`               — a checked evidence is new in the ledger;
* `recordAndAppend_eq_ok` — how a dry run or an approval ends that returns;
* `DryRunDone`            — a dry run has read the state, and stored what it saw of it.
-/

namespace Collabio

open KnowledgeBaseWorld

namespace KnowledgeBaseArticleService

variable {service : KnowledgeBaseArticleService}

/-! ## The ledger -/

/-- A checked evidence is new in the ledger, and nothing else changes. -/
structure Appends (H : HashFunctions) (tenantId : String)
    (evidence : KnowledgeBaseWriteApprovalEvidence) (world world' : KnowledgeBaseWorld) :
    Prop where
  tenant  : evidence.tenantId = tenantId
  checked : ∃ draft : KnowledgeBaseWriteApprovalEvidence, draft.sealed H = .ok evidence
  fresh   : world.ledger.get? (tenantId, evidence.evidenceHash) = none
  stores  : world'.stores = ({ world with
              ledger := world.ledger.set (tenantId, evidence.evidenceHash) evidence } :
                KnowledgeBaseWorld).stores

theorem append_of_absent {ledger : InMemoryKnowledgeBaseWriteApprovalLedger}
    {evidence : KnowledgeBaseWriteApprovalEvidence}
    (h : ledger.get? (evidence.tenantId, evidence.evidenceHash) = none) :
    InMemoryKnowledgeBaseWriteApprovalLedger.append evidence ledger =
      (.ok evidence, ledger.set (evidence.tenantId, evidence.evidenceHash) evidence) := by
  have habsent : ¬ ledger.contains (evidence.tenantId, evidence.evidenceHash) = true := by
    rw [Dict.contains, h]
    exact Bool.false_ne_true
  exact if_neg habsent

theorem append_of_present {ledger : InMemoryKnowledgeBaseWriteApprovalLedger}
    {evidence found : KnowledgeBaseWriteApprovalEvidence}
    (h : ledger.get? (evidence.tenantId, evidence.evidenceHash) = some found) :
    InMemoryKnowledgeBaseWriteApprovalLedger.append evidence ledger =
      (.error (.valueError (.message "knowledge base write approval evidence already exists")),
        ledger) := by
  have hpresent : ledger.contains (evidence.tenantId, evidence.evidenceHash) = true := by
    rw [Dict.contains, h]
    rfl
  exact if_pos hpresent

theorem run_ledgerAppend (evidence : KnowledgeBaseWriteApprovalEvidence)
    (world : KnowledgeBaseWorld) :
    (ledgerAppend evidence).run world =
      ((InMemoryKnowledgeBaseWriteApprovalLedger.append evidence world.ledger).1,
        { world with
          ledger := (InMemoryKnowledgeBaseWriteApprovalLedger.append evidence world.ledger).2 }) :=
  rfl

theorem ledgerAppend_eq_ok {evidence persisted : KnowledgeBaseWriteApprovalEvidence}
    {world world' : KnowledgeBaseWorld}
    (h : (ledgerAppend evidence).run world = (.ok persisted, world')) :
    persisted = evidence ∧
      world.ledger.get? (evidence.tenantId, evidence.evidenceHash) = none ∧
      world' = { world with
        ledger := world.ledger.set (evidence.tenantId, evidence.evidenceHash) evidence } := by
  rw [run_ledgerAppend] at h
  cases hget : world.ledger.get? (evidence.tenantId, evidence.evidenceHash) with
  | none =>
    rw [append_of_absent hget] at h
    cases h
    exact ⟨rfl, rfl, rfl⟩
  | some found =>
    rw [append_of_present hget] at h
    cases h

theorem ledgerAppend_of_error {evidence : KnowledgeBaseWriteApprovalEvidence} {exn : Exn}
    {world world' : KnowledgeBaseWorld}
    (h : (ledgerAppend evidence).run world = (.error exn, world')) : world' = world := by
  rw [run_ledgerAppend] at h
  cases hget : world.ledger.get? (evidence.tenantId, evidence.evidenceHash) with
  | none =>
    rw [append_of_absent hget] at h
    cases h
  | some found =>
    rw [append_of_present hget] at h
    cases h
    rfl

theorem ledgerGet_eq_ok {ledger : InMemoryKnowledgeBaseWriteApprovalLedger}
    {tenantId evidenceHash : String} {evidence : KnowledgeBaseWriteApprovalEvidence} :
    InMemoryKnowledgeBaseWriteApprovalLedger.get ledger tenantId evidenceHash = .ok evidence ↔
      ledger.get? (tenantId, evidenceHash) = some evidence := by
  unfold InMemoryKnowledgeBaseWriteApprovalLedger.get
  split <;> simp_all

theorem mem_listEvidence {ledger : InMemoryKnowledgeBaseWriteApprovalLedger} {tenantId : String}
    {evidence : KnowledgeBaseWriteApprovalEvidence} :
    evidence ∈ InMemoryKnowledgeBaseWriteApprovalLedger.listEvidence ledger tenantId ↔
      ∃ evidenceHash, ledger.get? (tenantId, evidenceHash) = some evidence := by
  unfold InMemoryKnowledgeBaseWriteApprovalLedger.listEvidence
  simp only [List.mem_map, List.mem_filter, decide_eq_true_eq, Prod.exists, ← Dict.mem_items]
  constructor
  · rintro ⟨tenant, evidenceHash, found, ⟨hmem, rfl⟩, rfl⟩
    exact ⟨evidenceHash, hmem⟩
  · rintro ⟨evidenceHash, hmem⟩
    exact ⟨tenantId, evidenceHash, evidence, ⟨hmem, rfl⟩, rfl⟩

/-- An audit event changes no store. -/
theorem stores_of_recordAudit {H : HashFunctions} {call : AuditCall} {world world' : KnowledgeBaseWorld}
    {result : Except Exn AuditEvent} (h : (recordAudit H call).run world = (result, world')) :
    world'.stores = world.stores := by
  have hkept := (keeps_recordAudit H call).run world
  rw [h] at hkept
  exact hkept

section RecordAndAppend

variable {α : Type} {H : HashFunctions} {call : AuditCall}
  {make : AuditEvent → Except Exn KnowledgeBaseWriteApprovalEvidence}
  {respond : AuditEvent → KnowledgeBaseWriteApprovalEvidence → α} {world world' : KnowledgeBaseWorld}

/-- How dry runs and approvals end, when they return. -/
theorem recordAndAppend_eq_ok {a : α}
    (h : (recordAudit H call >>= fun event => Prog.lift (make event) >>= fun evidence =>
      ledgerAppend evidence >>= fun persisted => pure (respond event persisted)).run world =
        (.ok a, world')) :
    ∃ event evidence, make event = .ok evidence ∧ a = respond event evidence ∧
      world.ledger.get? (evidence.tenantId, evidence.evidenceHash) = none ∧
      world'.stores = ({ world with
        ledger := world.ledger.set (evidence.tenantId, evidence.evidenceHash) evidence } :
          KnowledgeBaseWorld).stores := by
  obtain ⟨event, logged, hrecord, h⟩ := Prog.run_bind_eq_ok.mp h
  obtain ⟨evidence, hevidence, h⟩ := (Prog.run_bind_eq_ok_of_run (Prog.run_lift _ _)).mp h
  obtain ⟨persisted, appended, hpersisted, h⟩ := Prog.run_bind_eq_ok.mp h
  obtain ⟨rfl, hfresh, rfl⟩ := ledgerAppend_eq_ok hpersisted
  obtain ⟨ha, rfl⟩ := Prod.mk.inj h
  obtain ⟨hledger, hreceipts, hsources, harticles⟩ := stores_eq_iff.mp (stores_of_recordAudit hrecord)
  rw [hledger] at hfresh
  refine ⟨event, persisted, hevidence, (Except.ok.inj ha).symm, hfresh, stores_eq_iff.mpr ?_⟩
  exact ⟨congrArg (fun ledger => Dict.set ledger _ persisted) hledger, hreceipts, hsources,
    harticles⟩

/-- And when they raise. -/
theorem recordAndAppend_eq_error {exn : Exn}
    (h : (recordAudit H call >>= fun event => Prog.lift (make event) >>= fun evidence =>
      ledgerAppend evidence >>= fun persisted => pure (respond event persisted)).run world =
        (.error exn, world')) : world'.stores = world.stores := by
  rcases Prog.run_bind_eq_error.mp h with h | ⟨event, logged, hrecord, h⟩
  · exact stores_of_recordAudit h
  rw [← stores_of_recordAudit hrecord]
  rcases Prog.run_bind_eq_error.mp h with h | ⟨evidence, _, hevidence, h⟩
  · exact congrArg stores (Prod.mk.inj h).2.symm
  obtain ⟨-, rfl⟩ := Prod.mk.inj hevidence
  rcases Prog.run_bind_eq_error.mp h with h | ⟨_, _, _, h⟩
  · rw [ledgerAppend_of_error h]
  · cases h

end RecordAndAppend

/-! ## Dry runs -/

/-- What a dry run that returned has seen and stored. -/
structure DryRunDone (service : KnowledgeBaseArticleService)
    (command : KnowledgeBaseWriteApprovalCommand) (user : UserContext)
    (evidence : KnowledgeBaseWriteApprovalEvidence) (world world' : KnowledgeBaseWorld) :
    Prop where
  target     : requireDryRunTarget command (service.records world.articles user.tenantId) = .ok ()
  reads      : ∃ sourceEvidences restoreEvidence,
                 service.Reads world user.tenantId sourceEvidences restoreEvidence ∧
                 evidence.currentRestoreEvidenceHash = restoreEvidence.evidenceHash
  state      : evidence.approvalState = .dryRun
  operation  : evidence.operation = command.operation
  articleKey : evidence.articleKey = command.articleKey
  appends    : Appends service.hashes user.tenantId evidence world world'

theorem dryRun_returns {command : KnowledgeBaseWriteApprovalCommand} {user : UserContext}
    {eventId : EventId} {world world' : KnowledgeBaseWorld}
    {response : KnowledgeBaseWriteDryRunResponse}
    (h : (service.dryRunWriteApproval command user eventId).run world = (.ok response, world')) :
    ∃ evidence, service.DryRunDone command user evidence world world' ∧
      response.writeApprovalEvidenceHash = evidence.evidenceHash := by
  unfold dryRunWriteApproval at h
  obtain ⟨_, hrecords, h⟩ := (Prog.run_bind_eq_ok_of_run (run_listRecords _ _)).mp h
  cases hrecords
  obtain ⟨_, htarget, h⟩ := (Prog.run_bind_eq_ok_of_run (Prog.run_lift _ _)).mp h
  obtain ⟨⟨sourceEvidences, restoreEvidence⟩, hreads, h⟩ :=
    (Prog.run_bind_eq_ok_of_run (run_currentEvidence _ _ _)).mp h
  obtain ⟨proposed, -, h⟩ := (Prog.run_bind_eq_ok_of_run (Prog.run_lift _ _)).mp h
  obtain ⟨event, evidence, hevidence, rfl, hfresh, hstores⟩ := recordAndAppend_eq_ok h
  obtain ⟨hstate, htenant, hoperation, hkey, -, hrestore⟩ :=
    buildWriteApprovalEvidence_eq_ok hevidence
  rw [htenant] at hfresh hstores
  exact ⟨evidence, ⟨htarget, ⟨sourceEvidences, restoreEvidence, hreads, hrestore⟩, hstate,
    hoperation, hkey, htenant, ⟨_, hevidence⟩, hfresh, hstores⟩, rfl⟩

end KnowledgeBaseArticleService

end Collabio
