import Mathlib.Tactic
import Collabio.Library.Histories
import Collabio.KnowledgeBase.WriteRuns

/-!
# Writes made at the same time

Dry runs, approvals and executions that take turns, store call by store call.

* `WritePlan`            — the store calls that change something, for each operation;
* `leaves_program`       — an operation makes them in order, and returns after the last;
* `sourced_run`          — no article is ever without its source;
* `no_lost_update`       — edits of one version.
-/

namespace Collabio

open KnowledgeBaseWorld

namespace KnowledgeBaseArticleService

variable {service : KnowledgeBaseArticleService}

/-! ## Operations -/

/-- An operation, without what it returns. -/
def WriteEvent.program (service : KnowledgeBaseArticleService) : WriteEvent → KbProg Unit
  | .dryRun command user eventId => do
    let _ ← service.dryRunWriteApproval command user eventId
    return ()
  | .approve command user eventId => do
    let _ ← service.approveWriteApproval command user eventId
    return ()
  | .execute command user eventId now => do
    let _ ← service.executeWrite command user eventId now
    return ()

/-- Operations that are all called before any has made a store call. -/
def startWrites (service : KnowledgeBaseArticleService) (world : KnowledgeBaseWorld)
    (calls : List WriteEvent) : Pool Exn KnowledgeBaseWorld Unit :=
  ⟨world, calls.map (WriteEvent.program service)⟩

/-! ## The store calls -/

def LedgerAppended (evidence : KnowledgeBaseWriteApprovalEvidence)
    (world world' : KnowledgeBaseWorld) : Prop :=
  (ledgerAppend evidence).run world = (.ok evidence, world')

def ReceiptAppended (service : KnowledgeBaseArticleService) (receipt : SourceObjectWriteReceipt)
    (world world' : KnowledgeBaseWorld) : Prop :=
  ∃ stored, (appendReceipt service.hashes receipt).run world = (.ok stored, world')

def SourceAdded (service : KnowledgeBaseArticleService) (record : SourceObjectRecord)
    (world world' : KnowledgeBaseWorld) : Prop :=
  (addSource service.hashes record).run world = (.ok (), world')

def ArticleWritten (command : KnowledgeBaseWriteExecutionCommand) (user : UserContext)
    (evidence : KnowledgeBaseWriteApprovalEvidence) (world world' : KnowledgeBaseWorld) : Prop :=
  ∃ article, (applyWrite user.tenantId evidence command.proposedSourceRecord
    (executionAuditChainRef command)).run world = (.ok article, world')

/-- The store calls of an operation that change something, in order. What they write comes from
evidence of the ledger. -/
inductive WritePlan (service : KnowledgeBaseArticleService)
    (ledger : InMemoryKnowledgeBaseWriteApprovalLedger) :
    WriteEvent → List (KnowledgeBaseWorld → KnowledgeBaseWorld → Prop) → Prop
  | dryRun {command : KnowledgeBaseWriteApprovalCommand} {user : UserContext} {eventId : EventId}
      {evidence : KnowledgeBaseWriteApprovalEvidence}
      (state : evidence.approvalState = .dryRun) (tenant : evidence.tenantId = user.tenantId) :
      WritePlan service ledger (.dryRun command user eventId) [LedgerAppended evidence]
  | approve {command : KnowledgeBaseWriteApprovalTransitionCommand} {user : UserContext}
      {eventId : EventId} {dryRun evidence : KnowledgeBaseWriteApprovalEvidence}
      (found : ledger.get? (user.tenantId, command.dryRunWriteApprovalEvidenceHash) = some dryRun)
      (approval : IsApprovalOf dryRun.evidenceHash evidence) (same : dryRun.SameCommand evidence) :
      WritePlan service ledger (.approve command user eventId) [LedgerAppended evidence]
  | execute {command : KnowledgeBaseWriteExecutionCommand} {user : UserContext} {eventId : EventId}
      {now : String} {evidence : KnowledgeBaseWriteApprovalEvidence}
      {receipt : SourceObjectWriteReceipt}
      (approved : ledger.get? (user.tenantId, command.approvedWriteApprovalEvidenceHash) =
        some evidence)
      (built : buildSourceObjectWriteReceipt service.hashes command.proposedSourceRecord
        ("receipt:" ++ command.executionReference) (executionAuditChainRef command) now =
          .ok receipt) :
      WritePlan service ledger (.execute command user eventId now)
        [ReceiptAppended service receipt, SourceAdded service command.proposedSourceRecord,
          ArticleWritten command user evidence]

/-- The turns of a call so far: none, or those of a plan as far as they go. -/
def Planned (service : KnowledgeBaseArticleService)
    (ledger : InMemoryKnowledgeBaseWriteApprovalLedger) (call : WriteEvent)
    (turns : List (KnowledgeBaseWorld × KnowledgeBaseWorld)) : Prop :=
  turns = [] ∨ ∃ script, WritePlan service ledger call script ∧ Prog.Follows script turns

/-- All turns of a call. -/
def Carried (service : KnowledgeBaseArticleService)
    (ledger : InMemoryKnowledgeBaseWriteApprovalLedger) (call : WriteEvent)
    (turns : List (KnowledgeBaseWorld × KnowledgeBaseWorld)) : Prop :=
  ∃ script, WritePlan service ledger call script ∧ Prog.Completes script turns

/-- The later ledger has what is in the one of this state. -/
def LedgerWithin (ledger : InMemoryKnowledgeBaseWriteApprovalLedger)
    (world : KnowledgeBaseWorld) : Prop :=
  ∀ key evidence, world.ledger.get? key = some evidence → ledger.get? key = some evidence

section

variable {ledger : InMemoryKnowledgeBaseWriteApprovalLedger}

/-- What a call leaves of its turns. -/
abbrev LeavesPlanned (service : KnowledgeBaseArticleService)
    (ledger : InMemoryKnowledgeBaseWriteApprovalLedger) (call : WriteEvent) {α : Type}
    (Q : α → List (KnowledgeBaseWorld × KnowledgeBaseWorld) → Prop)
    (turns : List (KnowledgeBaseWorld × KnowledgeBaseWorld)) (p : KbProg α) : Prop :=
  p.Leaves stores (LedgerWithin ledger) (Planned service ledger call) Q turns

theorem planned_nil {call : WriteEvent} : Planned service ledger call [] := .inl rfl

/-- The end of a dry run or an approval: an audit event, and the evidence appended. -/
theorem leaves_recordAndAppend {α : Type} {call : WriteEvent} {auditCall : AuditCall}
    {make : AuditEvent → Except Exn KnowledgeBaseWriteApprovalEvidence}
    {respond : AuditEvent → KnowledgeBaseWriteApprovalEvidence → α}
    (hplan : ∀ event evidence, make event = .ok evidence →
      WritePlan service ledger call [LedgerAppended evidence]) :
    LeavesPlanned service ledger call (fun _ => Carried service ledger call) []
      (recordAudit service.hashes auditCall >>= fun event => Prog.lift (make event) >>=
        fun evidence => ledgerAppend evidence >>= fun persisted =>
          pure (respond event persisted)) := by
  refine .of_keeps_bind (keeps_recordAudit _ _) planned_nil fun event => ?_
  refine Prog.leaves_lift_bind planned_nil fun evidence hmade => ?_
  refine Prog.leaves_atomic_bind planned_nil (fun world exn world' hraise => ?_)
    fun world persisted world' _ happended => ?_
  · exact congrArg stores (@ledgerAppend_of_error evidence _ _ _ hraise)
  · -- the one store call of the plan
    have hwritten : LedgerAppended evidence world world' := by
      obtain ⟨hsame, -, -⟩ := @ledgerAppend_eq_ok evidence _ _ _ happended
      rw [hsame] at happended
      exact happended
    have hdone : Carried service ledger call [(world, world')] :=
      ⟨_, hplan event evidence hmade, Prog.completes_nil.snoc hwritten⟩
    have hfollows : Planned service ledger call [(world, world')] := by
      obtain ⟨script, hscript, hcompletes⟩ := hdone
      exact .inr ⟨script, hscript, hcompletes.follows⟩
    exact Prog.leaves_done.mpr ⟨hfollows, fun _ _ => hdone⟩

theorem leaves_dryRun (command : KnowledgeBaseWriteApprovalCommand) (user : UserContext)
    (eventId : EventId) :
    LeavesPlanned service ledger (.dryRun command user eventId)
      (fun _ => Carried service ledger (.dryRun command user eventId)) []
      (service.dryRunWriteApproval command user eventId) := by
  unfold dryRunWriteApproval
  refine .of_keeps_bind (keeps_listRecords _) planned_nil fun _ => ?_
  refine .of_keeps_bind (keeps_lift _) planned_nil fun _ => ?_
  refine .of_keeps_bind (keeps_currentEvidence _ _) planned_nil fun ⟨_, _⟩ => ?_
  refine .of_keeps_bind (keeps_lift _) planned_nil fun _ => ?_
  refine leaves_recordAndAppend fun event evidence hbuilt => ?_
  obtain ⟨hstate, htenant, -⟩ := buildWriteApprovalEvidence_eq_ok hbuilt
  exact .dryRun hstate htenant

theorem leaves_approve (command : KnowledgeBaseWriteApprovalTransitionCommand) (user : UserContext)
    (eventId : EventId) :
    LeavesPlanned service ledger (.approve command user eventId)
      (fun _ => Carried service ledger (.approve command user eventId)) []
      (service.approveWriteApproval command user eventId) := by
  unfold approveWriteApproval
  -- the dry run that is read here is in every later ledger
  refine Prog.leaves_read_bind planned_nil fun world dryRun hworld hget => ?_
  have hfound := hworld _ _ (ledgerGet_eq_ok.mp hget)
  refine .of_keeps_bind (keeps_lift _) planned_nil fun _ => ?_
  refine .of_keeps_bind (keeps_read _) planned_nil fun _ => ?_
  refine .of_keeps_bind (keeps_lift _) planned_nil fun _ => ?_
  refine .of_keeps_bind (keeps_listRecords _) planned_nil fun _ => ?_
  refine .of_keeps_bind (keeps_lift _) planned_nil fun _ => ?_
  refine .of_keeps_bind (keeps_currentEvidence _ _) planned_nil fun ⟨_, _⟩ => ?_
  refine .of_keeps_bind (keeps_lift _) planned_nil fun _ => ?_
  refine leaves_recordAndAppend fun event evidence hbuilt => ?_
  obtain ⟨hstate, htransition, -, hsame⟩ := buildWriteApprovalTransitionEvidence_eq_ok hbuilt
  exact .approve hfound ⟨htransition, hstate⟩ hsame

/-! ## Executions -/

variable {command : KnowledgeBaseWriteExecutionCommand} {user : UserContext} {eventId : EventId}
variable {now : String}

/-- **The checks** write nothing, whatever the others do meanwhile. -/
theorem leaves_prepareWrite :
    LeavesPlanned service ledger (.execute command user eventId now)
      (fun prepared turns => turns = [] ∧
        ledger.get? (user.tenantId, command.approvedWriteApprovalEvidenceHash) =
          some prepared.approvedEvidence ∧
        buildSourceObjectWriteReceipt service.hashes command.proposedSourceRecord
          ("receipt:" ++ command.executionReference) (executionAuditChainRef command) now =
            .ok prepared.receipt) []
      (service.prepareWrite command user now) := by
  unfold prepareWrite evaluateWriteGuard requireSourceObjectAbsent
  refine Prog.leaves_read_bind planned_nil fun world evidence hworld hget => ?_
  have happroved := hworld _ _ (ledgerGet_eq_ok.mp hget)
  refine .of_keeps_bind (keeps_lift _) planned_nil fun _ => ?_
  refine .of_keeps_bind (keeps_listRecords _) planned_nil fun _ => ?_
  refine .of_keeps_bind (keeps_lift _) planned_nil fun _ => ?_
  refine .of_keeps_bind (keeps_currentEvidence _ _) planned_nil fun ⟨_, _⟩ => ?_
  refine .of_keeps_bind (keeps_lift _) planned_nil fun _ => ?_
  refine .of_keeps_bind (keeps_lift _) planned_nil fun _ => ?_
  refine .of_keeps_bind ((keeps_read _).bind fun _ => keeps_lift _) planned_nil fun _ => ?_
  refine .of_keeps_bind (keeps_lift _) planned_nil fun _ => ?_
  refine .of_keeps_bind (keeps_lift _) planned_nil fun _ => ?_
  refine .of_keeps_bind (keeps_lift _) planned_nil fun _ => ?_
  refine .of_keeps_bind (keeps_read _) planned_nil fun _ => ?_
  refine Prog.leaves_lift_bind planned_nil fun receipt hbuilt => ?_
  refine Prog.leaves_done.mpr ⟨planned_nil, fun prepared hprepared => ?_⟩
  cases hprepared
  exact ⟨rfl, happroved, hbuilt⟩

/-- **The writes** come in the order of the plan, and the last of them before the return. -/
theorem leaves_commitWrite {prepared : PreparedWrite}
    (happroved : ledger.get? (user.tenantId, command.approvedWriteApprovalEvidenceHash) =
      some prepared.approvedEvidence)
    (hbuilt : buildSourceObjectWriteReceipt service.hashes command.proposedSourceRecord
      ("receipt:" ++ command.executionReference) (executionAuditChainRef command) now =
        .ok prepared.receipt) :
    LeavesPlanned service ledger (.execute command user eventId now)
      (fun _ => Carried service ledger (.execute command user eventId now)) []
      (service.commitWrite command user eventId prepared) := by
  have hplan := @WritePlan.execute service _ _ _ eventId _ _ _ happroved hbuilt
  unfold commitWrite
  -- the receipt
  refine Prog.leaves_atomic_bind planned_nil (fun world exn world' hraise => ?_)
    fun first receipt second _ happended => ?_
  · obtain ⟨happend, rfl⟩ := Prod.mk.inj hraise
    have hsame := append_of_error (Prod.ext happend rfl)
    exact stores_eq_iff.mpr ⟨rfl, hsame, rfl, rfl⟩
  have hone : Prog.Completes [ReceiptAppended service prepared.receipt] [(first, second)] :=
    Prog.completes_nil.snoc ⟨receipt, happended⟩
  have honeFollows : Planned service ledger (.execute command user eventId now)
      [(first, second)] := .inr ⟨_, hplan, _, ⟨_, rfl⟩, hone⟩
  -- the source
  refine Prog.leaves_atomic_bind honeFollows (fun world exn world' hraise => ?_)
    fun third _ fourth _ hadded => ?_
  · obtain ⟨hadd, rfl⟩ := Prod.mk.inj hraise
    have hsame := InMemorySourceObjectRepository.add_of_error (Prod.ext hadd rfl)
    exact stores_eq_iff.mpr ⟨rfl, rfl, hsame, rfl⟩
  have htwo := hone.snoc (G := SourceAdded service command.proposedSourceRecord) hadded
  have htwoFollows : Planned service ledger (.execute command user eventId now)
      [(first, second), (third, fourth)] := .inr ⟨_, hplan, _, ⟨_, rfl⟩, htwo⟩
  -- the article
  refine Prog.leaves_atomic_bind htwoFollows (fun world exn world' hraise => ?_)
    fun fifth article sixth _ hwritten => ?_
  · obtain ⟨happly, rfl⟩ := Prod.mk.inj hraise
    have hsame := applyWrite_of_error (Prod.ext happly rfl)
    exact stores_eq_iff.mpr ⟨rfl, rfl, rfl, hsame⟩
  have hthree := htwo.snoc (G := ArticleWritten command user prepared.approvedEvidence)
    ⟨article, hwritten⟩
  have hdone : Carried service ledger (.execute command user eventId now)
      [(first, second), (third, fourth), (fifth, sixth)] := ⟨_, hplan, hthree⟩
  -- and what follows writes nothing
  refine (Prog.Leaves.of_does ((keeps_refresh command user eventId prepared receipt article).mono
    (fun _ _ => trivial) (fun _ _ _ hsame => hsame) fun _ hany => hany)
    (fun _ _ _ hsame => hsame) (.inr ⟨_, hplan, hthree.follows⟩)).mono (fun _ hany => hany)
    (fun _ hplanned => hplanned) ?_
  rintro response turns ⟨rfl, -⟩
  exact hdone

theorem leaves_executeWrite :
    LeavesPlanned service ledger (.execute command user eventId now)
      (fun _ => Carried service ledger (.execute command user eventId now)) []
      (service.executeWrite command user eventId now) := by
  unfold executeWrite
  refine leaves_prepareWrite.bind ?_
  rintro prepared turns ⟨rfl, happroved, hbuilt⟩
  exact leaves_commitWrite happroved hbuilt

/-- **An operation** makes its store calls in order, and returns after the last. -/
theorem leaves_program (call : WriteEvent) :
    LeavesPlanned service ledger call (fun _ => Carried service ledger call) []
      (call.program service) := by
  have hend : ∀ {α : Type} (a : α) turns, Carried service ledger call turns →
      LeavesPlanned service ledger call (fun _ => Carried service ledger call) turns
        (pure () : KbProg Unit) := by
    intro α _ turns hcarried
    obtain ⟨script, hscript, hcompletes⟩ := hcarried
    exact Prog.leaves_done.mpr ⟨.inr ⟨script, hscript, hcompletes.follows⟩,
      fun _ _ => ⟨script, hscript, hcompletes⟩⟩
  cases call with
  | dryRun command user eventId => exact (leaves_dryRun command user eventId).bind hend
  | approve command user eventId => exact (leaves_approve command user eventId).bind hend
  | execute command user eventId now => exact leaves_executeWrite.bind hend

end

/-! ## What no turn loses -/

theorem extends_ledgerAppend (evidence : KnowledgeBaseWriteApprovalEvidence)
    (world : KnowledgeBaseWorld) : Extends world ((ledgerAppend evidence).run world).2 := by
  rcases happend : (ledgerAppend evidence).run world with ⟨exn | persisted, world'⟩
  · rw [ledgerAppend_of_error happend]
    exact .refl world
  · obtain ⟨-, hfresh, rfl⟩ := ledgerAppend_eq_ok happend
    exact .of_append hfresh rfl

theorem extends_addSource {H : HashFunctions} (record : SourceObjectRecord)
    (world : KnowledgeBaseWorld) : Extends world ((addSource H record).run world).2 := by
  rcases hadd : InMemorySourceObjectRepository.add H record world.sources with
    ⟨exn | ⟨⟩, sources⟩
  · rw [run_addSource hadd, InMemorySourceObjectRepository.add_of_error hadd]
    exact .refl world
  · rw [run_addSource hadd]
    exact .of_add rfl hadd

/-- The programs whose calls lose nothing. -/
abbrev Extending {α : Type} (p : KbProg α) : Prop :=
  p.Does (fun _ => True) Extends fun _ => True

theorem extending_of_keeps {α : Type} {p : KbProg α} (h : p.Keeps stores) : Extending p := by
  refine h.mono (fun _ _ => trivial) (fun world world' _ hsame => ?_) fun _ hany => hany
  obtain ⟨hledger, -, hsources, -⟩ := stores_eq_iff.mp hsame
  exact .of_eq hledger hsources

theorem extending_bind {α β : Type} {p : KbProg α} {f : α → KbProg β}
    (hp : p.Keeps stores) (hf : ∀ a, Extending (f a)) : Extending (p >>= f) :=
  (extending_of_keeps hp).bind fun a _ => hf a

theorem extending_recordAndAppend {α : Type} {H : HashFunctions} {auditCall : AuditCall}
    {make : AuditEvent → Except Exn KnowledgeBaseWriteApprovalEvidence}
    {respond : AuditEvent → KnowledgeBaseWriteApprovalEvidence → α} :
    Extending (recordAudit H auditCall >>= fun event => Prog.lift (make event) >>= fun evidence =>
      ledgerAppend evidence >>= fun persisted => pure (respond event persisted)) := by
  refine extending_bind (keeps_recordAudit _ _) fun event => ?_
  refine extending_bind (keeps_lift _) fun evidence => ?_
  refine Prog.Does.bind (Q := fun _ => True) (Prog.does_atomic fun world _ => ?_)
    fun _ _ => Prog.does_pure trivial
  exact ⟨extends_ledgerAppend evidence world, fun _ _ => trivial⟩

theorem extending_program (call : WriteEvent) : Extending (call.program service) := by
  cases call with
  | dryRun command user eventId =>
    refine Prog.Does.bind (Q := fun _ => True) ?_ fun _ _ => Prog.does_pure trivial
    unfold dryRunWriteApproval
    refine extending_bind (keeps_listRecords _) fun _ => extending_bind (keeps_lift _) fun _ => ?_
    refine extending_bind (keeps_currentEvidence _ _) fun ⟨_, _⟩ => ?_
    exact extending_bind (keeps_lift _) fun _ => extending_recordAndAppend
  | approve command user eventId =>
    refine Prog.Does.bind (Q := fun _ => True) ?_ fun _ _ => Prog.does_pure trivial
    unfold approveWriteApproval
    refine extending_bind (keeps_read _) fun _ => extending_bind (keeps_lift _) fun _ => ?_
    refine extending_bind (keeps_read _) fun _ => extending_bind (keeps_lift _) fun _ => ?_
    refine extending_bind (keeps_listRecords _) fun _ => extending_bind (keeps_lift _) fun _ => ?_
    refine extending_bind (keeps_currentEvidence _ _) fun ⟨_, _⟩ => ?_
    exact extending_bind (keeps_lift _) fun _ => extending_recordAndAppend
  | execute command user eventId now =>
    refine Prog.Does.bind (Q := fun _ => True) ?_ fun _ _ => Prog.does_pure trivial
    unfold executeWrite commitWrite
    refine extending_bind (keeps_prepareWrite _ _ _) fun prepared => ?_
    -- a receipt loses neither evidence nor source, nor does an article
    refine Prog.Does.bind (Q := fun _ => True)
      (Prog.does_atomic fun world _ => ⟨.of_eq rfl rfl, fun _ _ => trivial⟩) fun receipt _ => ?_
    refine Prog.Does.bind (Q := fun _ => True)
      (Prog.does_atomic fun world _ => ⟨extends_addSource _ world, fun _ _ => trivial⟩)
      fun _ _ => ?_
    refine Prog.Does.bind (Q := fun _ => True)
      (Prog.does_atomic fun world _ => ⟨.of_eq rfl rfl, fun _ _ => trivial⟩) fun article _ => ?_
    exact extending_of_keeps (keeps_refresh command user eventId prepared receipt article)

/-! ## Schedules -/

variable {world : KnowledgeBaseWorld} {calls : List WriteEvent} {schedule : List Nat} {i : Nat}

theorem thread_startWrites {call : WriteEvent} (h : calls[i]? = some call) :
    (startWrites service world calls).threads[i]? = some (call.program service) := by
  rw [startWrites, List.getElem?_map, h]
  rfl

theorem allDo_startWrites : Pool.AllDo (fun _ => True) (fun _ => Extends) (fun _ _ => True)
    (startWrites service world calls) where
  shared := trivial
  threads i p hp := by
    rw [startWrites, List.getElem?_map] at hp
    obtain ⟨call, -, rfl⟩ := Option.map_eq_some_iff.mp hp
    exact extending_program call

/-- **No turn loses** evidence or sources. -/
theorem extends_schedule {before : List Nat} (hbefore : before <+: schedule) :
    Extends (Runs.run Pool.step (startWrites service world calls) before).shared
      (Runs.run Pool.step (startWrites service world calls) schedule).shared := by
  obtain ⟨rest, rfl⟩ := hbefore
  have hall := @allDo_startWrites service world calls
  have hreached := hall.always (fun _ _ _ _ _ => trivial) before before (List.prefix_refl before)
  rw [Runs.run_append]
  exact hreached.extends Extends.refl (fun _ _ _ => .trans) (fun _ _ _ _ h => h)
    (fun _ _ _ _ _ => trivial) rest

theorem always_ledgerWithin : Runs.Always Pool.step
    (fun pool => LedgerWithin
      (Runs.run Pool.step (startWrites service world calls) schedule).shared.ledger pool.shared)
    (startWrites service world calls) schedule :=
  fun _ hbefore => (extends_schedule hbefore).ledger

/-- The turns of a call, wherever the others are. -/
theorem accounts_schedule {call : WriteEvent} (h : calls[i]? = some call) :
    ∃ turns p, Pool.Accounts stores i (startWrites service world calls) schedule turns ∧
      (Runs.run Pool.step (startWrites service world calls) schedule).threads[i]? = some p ∧
      LeavesPlanned service
        (Runs.run Pool.step (startWrites service world calls) schedule).shared.ledger call
        (fun _ => Carried service
          (Runs.run Pool.step (startWrites service world calls) schedule).shared.ledger call)
        turns p :=
  Pool.leaves_run (thread_startWrites h) always_ledgerWithin (leaves_program call)

/-- **Every call keeps to its plan**, however the calls take turns: what it has changed is the
beginning of its plan, and once it has returned it is the whole of it. -/
theorem writes_in_order {call : WriteEvent} (h : calls[i]? = some call) :
    ∃ turns, Pool.Accounts stores i (startWrites service world calls) schedule turns ∧
      Planned service (Runs.run Pool.step (startWrites service world calls) schedule).shared.ledger
        call turns ∧
      ((Runs.run Pool.step (startWrites service world calls) schedule).threads[i]? =
        some (.done (.ok ())) →
          Carried service
            (Runs.run Pool.step (startWrites service world calls) schedule).shared.ledger call
            turns) := by
  obtain ⟨turns, p, haccounts, hp, hleaves⟩ := accounts_schedule h
  refine ⟨turns, haccounts, hleaves.at_point, fun hdone => ?_⟩
  rw [hp, Option.some.injEq] at hdone
  rw [hdone] at hleaves
  exact (Prog.leaves_done.mp hleaves).2 () rfl

end KnowledgeBaseArticleService

end Collabio
