import Mathlib.Tactic
import Collabio.KnowledgeBase.ConcurrentWrites

/-!
# What a tenant's calls change

* `ConfinedTo` — articles and evidence of other tenants are as they were;
* `confined_dryRun`, `confined_approve`, `confined_executeWrite` — every store call of an operation
  is confined to the user's tenant.
-/

namespace Collabio

open KnowledgeBaseWorld

namespace KnowledgeBaseArticleService

/-- The articles and the evidence of other tenants are as they were. -/
structure ConfinedTo (tenantId : String) (world world' : KnowledgeBaseWorld) : Prop where
  ledger   : world'.ledger = world.ledger ∨
               ∃ evidence : KnowledgeBaseWriteApprovalEvidence, evidence.tenantId = tenantId ∧
                 world'.ledger = world.ledger.set (tenantId, evidence.evidenceHash) evidence
  articles : ∀ other, other ≠ tenantId →
               world'.articles.listArticles other = world.articles.listArticles other

variable {service : KnowledgeBaseArticleService} {tenantId : String}
variable {world world' : KnowledgeBaseWorld}

theorem ConfinedTo.byTenant (h : ConfinedTo tenantId world world') (hworld : ByTenant world) :
    ByTenant world' := by
  intro owner evidenceHash evidence hget
  rcases h.ledger with hsame | ⟨added, howner, hset⟩
  · rw [hsame] at hget
    exact hworld owner evidenceHash evidence hget
  · rw [hset, Dict.get?_set] at hget
    split at hget
    · rename_i hkey
      cases hget
      exact howner.trans (congrArg Prod.fst hkey).symm
    · exact hworld owner evidenceHash evidence hget

theorem ConfinedTo.get? (h : ConfinedTo tenantId world world') {other : String}
    (hother : other ≠ tenantId) (evidenceHash : String) :
    world'.ledger.get? (other, evidenceHash) = world.ledger.get? (other, evidenceHash) := by
  rcases h.ledger with hsame | ⟨added, -, hset⟩
  · rw [hsame]
  · rw [hset, Dict.get?_set, if_neg]
    exact fun hkey => hother (congrArg Prod.fst hkey)

/-- The programs whose calls are confined to a tenant. -/
abbrev Confined {α : Type} (tenantId : String) (p : KbProg α) : Prop :=
  p.Does ByTenant (ConfinedTo tenantId) fun _ => True

theorem confinedTo_of_stores (hledger : world'.ledger = world.ledger)
    (harticles : world'.articles = world.articles) : ConfinedTo tenantId world world' where
  ledger := .inl hledger
  articles _ _ := by rw [harticles]

theorem confined_of_keeps {α : Type} {p : KbProg α} (h : p.Keeps stores) : Confined tenantId p := by
  refine h.mono (fun _ _ => trivial) (fun world world' _ hsame => ?_) fun _ hany => hany
  obtain ⟨hledger, -, -, harticles⟩ := stores_eq_iff.mp hsame
  exact confinedTo_of_stores hledger harticles

theorem confined_bind {α β : Type} {p : KbProg α} {f : α → KbProg β} (hp : p.Keeps stores)
    (hf : ∀ a, Confined tenantId (f a)) : Confined tenantId (p >>= f) :=
  (confined_of_keeps hp).bind fun a _ => hf a

theorem confinedTo_ledgerAppend {evidence : KnowledgeBaseWriteApprovalEvidence}
    (htenant : evidence.tenantId = tenantId) (world : KnowledgeBaseWorld) :
    ConfinedTo tenantId world ((ledgerAppend evidence).run world).2 := by
  rcases happend : (ledgerAppend evidence).run world with ⟨exn | persisted, world'⟩
  · rw [ledgerAppend_of_error happend]
    exact confinedTo_of_stores rfl rfl
  · obtain ⟨-, -, rfl⟩ := ledgerAppend_eq_ok happend
    refine { ledger := .inr ⟨evidence, htenant, ?_⟩, articles := fun _ _ => rfl }
    rw [← htenant]

/-- The end of a dry run or an approval. -/
theorem confined_recordAndAppend {α : Type} {H : HashFunctions} {auditCall : AuditCall}
    {make : AuditEvent → Except Exn KnowledgeBaseWriteApprovalEvidence}
    {respond : AuditEvent → KnowledgeBaseWriteApprovalEvidence → α}
    (hmake : ∀ event evidence, make event = .ok evidence → evidence.tenantId = tenantId) :
    Confined tenantId (recordAudit H auditCall >>= fun event => Prog.lift (make event) >>=
      fun evidence => ledgerAppend evidence >>= fun persisted =>
        pure (respond event persisted)) := by
  refine confined_bind (keeps_recordAudit _ _) fun event => ?_
  refine Prog.Does.bind (Q := fun evidence => evidence.tenantId = tenantId)
    (Prog.does_lift fun evidence hbuilt => hmake event evidence hbuilt) fun evidence htenant => ?_
  refine Prog.Does.bind (Q := fun _ => True) (Prog.does_atomic fun world _ => ?_) fun _ _ =>
    Prog.does_pure trivial
  exact ⟨confinedTo_ledgerAppend htenant world, fun _ _ => trivial⟩

theorem confined_dryRun (command : KnowledgeBaseWriteApprovalCommand) (user : UserContext)
    (eventId : EventId) :
    Confined user.tenantId (service.dryRunWriteApproval command user eventId) := by
  unfold dryRunWriteApproval
  refine confined_bind (keeps_listRecords _) fun _ => confined_bind (keeps_lift _) fun _ => ?_
  refine confined_bind (keeps_currentEvidence _ _) fun ⟨_, _⟩ => ?_
  refine confined_bind (keeps_lift _) fun _ => ?_
  refine confined_recordAndAppend fun event evidence hbuilt => ?_
  exact (buildWriteApprovalEvidence_eq_ok hbuilt).2.1

theorem confined_approve (command : KnowledgeBaseWriteApprovalTransitionCommand)
    (user : UserContext) (eventId : EventId) :
    Confined user.tenantId (service.approveWriteApproval command user eventId) := by
  unfold approveWriteApproval
  -- the dry run is of the tenant that reads it, and so is its approval
  refine Prog.Does.bind (Q := fun dryRun => dryRun.tenantId = user.tenantId)
    (Prog.does_read (fun _ _ => confinedTo_of_stores rfl rfl) fun world hworld dryRun hget => ?_)
    fun dryRun htenant => ?_
  · exact hworld _ _ _ (ledgerGet_eq_ok.mp hget)
  refine confined_bind (keeps_lift _) fun _ => confined_bind (keeps_read _) fun _ => ?_
  refine confined_bind (keeps_lift _) fun _ => confined_bind (keeps_listRecords _) fun _ => ?_
  refine confined_bind (keeps_lift _) fun _ => ?_
  refine confined_bind (keeps_currentEvidence _ _) fun ⟨_, _⟩ => ?_
  refine confined_bind (keeps_lift _) fun _ => ?_
  refine confined_recordAndAppend fun event evidence hbuilt => ?_
  obtain ⟨-, -, -, hsame⟩ := buildWriteApprovalTransitionEvidence_eq_ok hbuilt
  exact hsame.tenantId.trans htenant

/-- A tenant's articles are among those that a write of another tenant leaves. -/
theorem listArticles_of_otherArticles
    {repository repository' : InMemoryKnowledgeBaseArticleRepository} {key : ObjectKey}
    (h : otherArticles repository' key = otherArticles repository key)
    {other : String} (hother : other ≠ key.1) :
    repository'.listArticles other = repository.listArticles other := by
  have hlist : ∀ repository : InMemoryKnowledgeBaseArticleRepository,
      repository.listArticles other =
        (otherArticles repository key).filter fun article => article.tenantId = other := by
    intro repository
    rw [InMemoryKnowledgeBaseArticleRepository.listArticles, otherArticles, List.filter_filter]
    refine List.filter_congr fun article _ => ?_
    by_cases htenant : article.tenantId = other
    · have hkey : article.key ≠ key := fun hsame =>
        hother (htenant.symm.trans (congrArg Prod.fst hsame))
      simp [htenant, hkey]
    · simp [htenant]
  rw [hlist, hlist, h]

theorem confined_executeWrite (command : KnowledgeBaseWriteExecutionCommand) (user : UserContext)
    (eventId : EventId) (now : String) :
    Confined user.tenantId (service.executeWrite command user eventId now) := by
  unfold executeWrite commitWrite
  refine confined_bind (keeps_prepareWrite _ _ _) fun prepared => ?_
  -- receipts and sources are in other stores
  refine Prog.Does.bind (Q := fun _ => True)
    (Prog.does_atomic fun world _ => ⟨confinedTo_of_stores rfl rfl, fun _ _ => trivial⟩)
    fun receipt _ => ?_
  refine Prog.Does.bind (Q := fun _ => True)
    (Prog.does_atomic fun world _ => ⟨confinedTo_of_stores rfl rfl, fun _ _ => trivial⟩)
    fun _ _ => ?_
  refine Prog.Does.bind (Q := fun _ => True)
    (Prog.does_atomic fun world _ => ⟨?_, fun _ _ => trivial⟩) fun article _ => ?_
  · refine { ledger := .inl rfl, articles := fun other hother => ?_ }
    show ((InMemoryKnowledgeBaseArticleRepository.applyWrite _ _ _ _ _).2).listArticles other = _
    rcases hwrite : InMemoryKnowledgeBaseArticleRepository.applyWrite user.tenantId
      prepared.approvedEvidence command.proposedSourceRecord (executionAuditChainRef command)
      world.articles with ⟨exn | article, articles⟩
    · rw [applyWrite_of_error hwrite]
    · exact listArticles_of_otherArticles (otherArticles_of_applyWrite hwrite) hother
  · exact confined_of_keeps (keeps_refresh command user eventId prepared receipt article)

end KnowledgeBaseArticleService

end Collabio
