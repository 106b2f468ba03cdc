import Mathlib.Tactic
import Collabio.KnowledgeBase.Snapshot

/-!
# What the store calls change and see

* `stores`           — a state without its audit log;
* `keeps_prepareWrite` — the checks of a write change no store;
* `blind_executeWrite` — the audit log decides nothing;
* `run_bind_ledgerGet` and the like invert one call of a run.
-/

namespace Collabio

namespace KnowledgeBaseWorld

/-- The stores, without the audit log. -/
def stores (world : KnowledgeBaseWorld) : KnowledgeBaseWorld := { world with auditEvents := [] }

theorem stores_eq_iff {world world' : KnowledgeBaseWorld} :
    world.stores = world'.stores ↔ world.ledger = world'.ledger ∧
      world.receipts = world'.receipts ∧ world.sources = world'.sources ∧
      world.articles = world'.articles := by
  simp [stores]

/-! ## Calls that change no store -/

theorem keeps_read {α : Type} (f : KnowledgeBaseWorld → Except Exn α) :
    (Prog.read f).Keeps stores :=
  Prog.does_read (fun _ _ => rfl) fun _ _ _ _ => trivial

theorem keeps_lift {α : Type} (x : Except Exn α) :
    (Prog.lift x : KbProg α).Keeps stores :=
  Prog.does_lift fun _ _ => trivial

theorem keeps_pure {α : Type} (a : α) : (pure a : KbProg α).Keeps stores :=
  Prog.does_pure trivial

theorem keeps_recordAudit (H : HashFunctions) (call : AuditCall) :
    (recordAudit H call).Keeps stores :=
  Prog.does_atomic fun _ _ => ⟨rfl, fun _ _ => trivial⟩

/-! ## Calls that do not see the audit log -/

/-- A read of the stores. -/
theorem blind_read_stores {α : Type} {f : KnowledgeBaseWorld → Except Exn α}
    (hf : ∀ world, f world = f world.stores) : (Prog.read f).Blind stores := by
  refine Prog.blind_read fun world world' hview => ?_
  rw [hf world, hf world', hview]

theorem blind_ledgerGet (tenantId evidenceHash : String) :
    (ledgerGet tenantId evidenceHash).Blind stores := blind_read_stores fun _ => rfl

theorem blind_listArticles (tenantId : String) : (listArticles tenantId).Blind stores :=
  blind_read_stores fun _ => rfl

theorem blind_getSource (tenantId objectId versionId : String) :
    (getSource tenantId objectId versionId).Blind stores := blind_read_stores fun _ => rfl

theorem blind_appendReceipt (H : HashFunctions) (receipt : SourceObjectWriteReceipt) :
    (appendReceipt H receipt).Blind stores := by
  refine Prog.blind_atomic fun world world' hview => ?_
  obtain ⟨hledger, hreceipts, hsources, harticles⟩ := stores_eq_iff.mp hview
  simp [stores, hledger, hreceipts, hsources, harticles]

theorem blind_addSource (H : HashFunctions) (record : SourceObjectRecord) :
    (addSource H record).Blind stores := by
  refine Prog.blind_atomic fun world world' hview => ?_
  obtain ⟨hledger, hreceipts, hsources, harticles⟩ := stores_eq_iff.mp hview
  simp [stores, hledger, hreceipts, hsources, harticles]

theorem blind_applyWrite (tenantId : String) (evidence : KnowledgeBaseWriteApprovalEvidence)
    (sourceRecord : SourceObjectRecord) (auditChainRef : String) :
    (applyWrite tenantId evidence sourceRecord auditChainRef).Blind stores := by
  refine Prog.blind_atomic fun world world' hview => ?_
  obtain ⟨hledger, hreceipts, hsources, harticles⟩ := stores_eq_iff.mp hview
  simp [stores, hledger, hreceipts, hsources, harticles]

/-- Of an audit event only the id is used, which was drawn before. -/
theorem blind_recordAudit_bind {α : Type} {H : HashFunctions} {call : AuditCall}
    {f : AuditEvent → KbProg α} (hid : ∀ event event', event.eventId = event'.eventId →
      f event = f event') (hf : ∀ event, (f event).Blind stores) :
    (recordAudit H call >>= f).Blind stores := by
  refine Prog.blind_atomic_bind (fun world world' hview => ?_) hf
  obtain ⟨hledger, hreceipts, hsources, harticles⟩ := stores_eq_iff.mp hview
  refine ⟨?_, hid _ _ rfl⟩
  simp [stores, hledger, hreceipts, hsources, harticles]

end KnowledgeBaseWorld

open KnowledgeBaseWorld

namespace KnowledgeBaseArticleService

variable {service : KnowledgeBaseArticleService}

theorem keeps_listRecords (tenantId : String) : (service.listRecords tenantId).Keeps stores :=
  (keeps_read _).bind fun _ => keeps_pure _

theorem keeps_currentEvidence (tenantId : String) (records : List KnowledgeBaseArticleRecord) :
    (service.currentEvidence tenantId records).Keeps stores := by
  have hsource : ∀ article, (service.sourceVersionEvidence article).Keeps stores :=
    fun article => (keeps_read _).bind fun _ => keeps_lift _
  have hsources : (records.mapM service.sourceVersionEvidence).Keeps stores :=
    (Prog.Does.mapM fun article _ => hsource article).mono (fun _ h => h) (fun _ _ _ h => h)
      fun _ _ => trivial
  exact hsources.bind fun _ => (keeps_lift _).bind fun _ => keeps_pure _

/-- **The checks of a write change no store.** -/
theorem keeps_prepareWrite (command : KnowledgeBaseWriteExecutionCommand) (user : UserContext)
    (now : String) : (service.prepareWrite command user now).Keeps stores := by
  unfold prepareWrite evaluateWriteGuard requireSourceObjectAbsent
  refine (keeps_read _).bind fun _ => (keeps_lift _).bind fun _ => ?_
  refine (keeps_listRecords _).bind fun _ => (keeps_lift _).bind fun _ => ?_
  refine (keeps_currentEvidence _ _).bind fun _ => (keeps_lift _).bind fun _ => ?_
  refine (keeps_lift _).bind fun _ => ((keeps_read _).bind fun _ => keeps_lift _).bind fun _ => ?_
  refine (keeps_lift _).bind fun _ => (keeps_lift _).bind fun _ => (keeps_lift _).bind fun _ => ?_
  exact (keeps_read _).bind fun _ => (keeps_lift _).bind fun _ => keeps_pure _

theorem blind_listRecords (tenantId : String) : (service.listRecords tenantId).Blind stores :=
  (blind_listArticles tenantId).bind fun _ => Prog.blind_pure

theorem blind_currentEvidence (tenantId : String) (records : List KnowledgeBaseArticleRecord) :
    (service.currentEvidence tenantId records).Blind stores := by
  have hsource : ∀ article, (service.sourceVersionEvidence article).Blind stores :=
    fun article => (blind_getSource _ _ _).bind fun _ => Prog.blind_lift
  exact (Prog.Blind.mapM fun article _ => hsource article).bind fun _ =>
    Prog.blind_lift.bind fun _ => Prog.blind_pure

theorem blind_prepareWrite (command : KnowledgeBaseWriteExecutionCommand) (user : UserContext)
    (now : String) : (service.prepareWrite command user now).Blind stores := by
  unfold prepareWrite evaluateWriteGuard
  refine (blind_ledgerGet _ _).bind fun _ => Prog.blind_lift.bind fun _ => ?_
  refine (blind_listRecords _).bind fun _ => Prog.blind_lift.bind fun _ => ?_
  refine (blind_currentEvidence _ _).bind fun _ => Prog.blind_lift.bind fun _ => ?_
  refine Prog.blind_lift.bind fun _ => ((blind_ledgerGet _ _).bind fun _ => Prog.blind_lift).bind
    fun _ => ?_
  refine Prog.blind_lift.bind fun _ => Prog.blind_lift.bind fun _ => Prog.blind_lift.bind
    fun _ => ?_
  exact (blind_read_stores fun _ => rfl).bind fun _ => Prog.blind_lift.bind fun _ =>
    Prog.blind_pure

theorem blind_commitWrite (command : KnowledgeBaseWriteExecutionCommand) (user : UserContext)
    (eventId : EventId) (prepared : PreparedWrite) :
    (service.commitWrite command user eventId prepared).Blind stores := by
  unfold commitWrite
  refine (blind_appendReceipt _ _).bind fun _ => (blind_addSource _ _).bind fun _ => ?_
  refine (blind_applyWrite _ _ _ _).bind fun _ => (blind_listRecords _).bind fun _ => ?_
  refine (blind_currentEvidence _ _).bind fun _ => Prog.blind_lift.bind fun _ => ?_
  exact blind_recordAudit_bind (fun event event' h => by simp only [h]) fun _ => Prog.blind_lift

/-- **The audit log decides nothing** about a write. -/
theorem blind_executeWrite (command : KnowledgeBaseWriteExecutionCommand) (user : UserContext)
    (eventId : EventId) (now : String) :
    (service.executeWrite command user eventId now).Blind stores :=
  (blind_prepareWrite command user now).bind (blind_commitWrite command user eventId)

end KnowledgeBaseArticleService

end Collabio
