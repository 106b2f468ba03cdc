import Mathlib.Tactic
import Collabio.KnowledgeBase.CommittedWrites

/-!
# What a ledger says

* `LedgerSound`        — an approval is of a dry run, and a dry run is approved once;
* `ledgerSound_run`    — it is so after every run;
* `NoCollisions`       — the digest tells apart what the operations of a run hash.
-/

namespace Collabio

open KnowledgeBaseWorld

namespace KnowledgeBaseWriteApprovalEvidence

theorem SameCommand.refl (evidence : KnowledgeBaseWriteApprovalEvidence) :
    evidence.SameCommand evidence := by
  constructor <;> rfl

theorem SameCommand.trans {a b c : KnowledgeBaseWriteApprovalEvidence} (h : a.SameCommand b)
    (h' : b.SameCommand c) : a.SameCommand c where
  tenantId := h'.tenantId.trans h.tenantId
  operation := h'.operation.trans h.operation
  articleObjectId := h'.articleObjectId.trans h.articleObjectId
  articleKey := h'.articleKey.trans h.articleKey
  title := h'.title.trans h.title
  expectedVersion := h'.expectedVersion.trans h.expectedVersion
  proposedVersion := h'.proposedVersion.trans h.proposedVersion
  proposedLabel := h'.proposedLabel.trans h.proposedLabel
  sourceObjectId := h'.sourceObjectId.trans h.sourceObjectId
  sourceVersionId := h'.sourceVersionId.trans h.sourceVersionId
  sourceObjectType := h'.sourceObjectType.trans h.sourceObjectType
  manifestHash := h'.manifestHash.trans h.manifestHash
  contentHash := h'.contentHash.trans h.contentHash
  aclVersion := h'.aclVersion.trans h.aclVersion
  commandHash := h'.commandHash.trans h.commandHash
  sourceHash := h'.sourceHash.trans h.sourceHash
  restoreHash := h'.restoreHash.trans h.restoreHash
  sourceSystem := h'.sourceSystem.trans h.sourceSystem

end KnowledgeBaseWriteApprovalEvidence

theorem TellsSnapshotsApart.mono {H : HashFunctions} {snapshots snapshots' :
      Set (List KnowledgeBaseSourceVersionEvidence × KnowledgeBaseRestoreEvidence)}
    (hsubset : snapshots ⊆ snapshots') (h : TellsSnapshotsApart H snapshots') :
    TellsSnapshotsApart H snapshots where
  sources := by
    refine h.sources.mono ?_
    rintro text ⟨snapshot, hmem, htext⟩
    exact ⟨snapshot, hsubset hmem, htext⟩
  checksums := by
    refine h.checksums.mono ?_
    rintro text ⟨snapshot, hmem, htext⟩
    exact ⟨snapshot, hsubset hmem, htext⟩
  restores := by
    refine h.restores.mono ?_
    rintro text ⟨snapshot, hmem, htext⟩
    exact ⟨snapshot, hsubset hmem, htext⟩

namespace KnowledgeBaseArticleService

variable {service : KnowledgeBaseArticleService} {start world world' : KnowledgeBaseWorld}

/-! ## The ledger -/

/-- The dry run that an approval in the ledger is of. -/
structure ApprovedFrom (ledger : InMemoryKnowledgeBaseWriteApprovalLedger)
    (evidence dryRun : KnowledgeBaseWriteApprovalEvidence) : Prop where
  found    : ledger.get? (evidence.tenantId, dryRun.evidenceHash) = some dryRun
  state    : dryRun.approvalState = .dryRun
  approval : IsApprovalOf dryRun.evidenceHash evidence
  command  : dryRun.SameCommand evidence

/-- What the ledger says at any time. -/
structure LedgerSound (H : HashFunctions) (ledger : InMemoryKnowledgeBaseWriteApprovalLedger) :
    Prop where
  key      : ∀ key evidence, ledger.get? key = some evidence →
               key = (evidence.tenantId, evidence.evidenceHash)
  checked  : ∀ key evidence, ledger.get? key = some evidence →
               ∃ draft : KnowledgeBaseWriteApprovalEvidence, draft.sealed H = .ok evidence
  approved : ∀ key evidence, ledger.get? key = some evidence →
               evidence.approvalState = .approvedForWrite →
                 ∃ dryRun, ApprovedFrom ledger evidence dryRun
  /-- A dry run is approved once. -/
  once     : ∀ key key' evidence evidence' dryRunHash, ledger.get? key = some evidence →
               ledger.get? key' = some evidence' → evidence.tenantId = evidence'.tenantId →
               IsApprovalOf dryRunHash evidence → IsApprovalOf dryRunHash evidence' →
                 evidence = evidence'

theorem ledgerSound_empty (H : HashFunctions) : LedgerSound H ∅ := by
  have hnone : ∀ key (evidence : KnowledgeBaseWriteApprovalEvidence),
      (∅ : InMemoryKnowledgeBaseWriteApprovalLedger).get? key ≠ some evidence := by
    intro key evidence h
    cases h
  exact {
    key := fun key evidence h => absurd h (hnone key evidence)
    checked := fun key evidence h => absurd h (hnone key evidence)
    approved := fun key evidence h => absurd h (hnone key evidence)
    once := fun key _ evidence _ _ h => absurd h (hnone key evidence) }

section

variable {H : HashFunctions} {ledger : InMemoryKnowledgeBaseWriteApprovalLedger}
variable {evidence : KnowledgeBaseWriteApprovalEvidence}

/-- An entry of the longer ledger is the new one, or was there before. -/
theorem get?_append {key : String × String} {found : KnowledgeBaseWriteApprovalEvidence}
    (h : (ledger.set (evidence.tenantId, evidence.evidenceHash) evidence).get? key = some found) :
    key = (evidence.tenantId, evidence.evidenceHash) ∧ found = evidence ∨
      ledger.get? key = some found := by
  by_cases hkey : key = (evidence.tenantId, evidence.evidenceHash)
  · rw [hkey] at h ⊢
    exact .inl ⟨rfl, Option.some.inj (h.symm.trans (Dict.get?_set_self ..))⟩
  · exact .inr ((Dict.get?_set_ne _ _ hkey).symm.trans h)

/-- What was in the ledger is in the longer one. -/
theorem get?_append_of_some {key : String × String} {found : KnowledgeBaseWriteApprovalEvidence}
    (hfresh : ledger.get? (evidence.tenantId, evidence.evidenceHash) = none)
    (h : ledger.get? key = some found) :
    (ledger.set (evidence.tenantId, evidence.evidenceHash) evidence).get? key = some found := by
  have hkey : key ≠ (evidence.tenantId, evidence.evidenceHash) := by
    rintro rfl
    rw [hfresh] at h
    cases h
  exact (Dict.get?_set_ne _ _ hkey).trans h

/-- **One entry more**: a dry run, or the first approval of one that is there. -/
theorem LedgerSound.append (h : LedgerSound H ledger)
    (hfresh : ledger.get? (evidence.tenantId, evidence.evidenceHash) = none)
    (hchecked : ∃ draft : KnowledgeBaseWriteApprovalEvidence, draft.sealed H = .ok evidence)
    (hkind : evidence.approvalState = .dryRun ∨ ∃ dryRun, ApprovedFrom ledger evidence dryRun ∧
      ∀ key other, ledger.get? key = some other → other.tenantId = evidence.tenantId →
        ¬ IsApprovalOf dryRun.evidenceHash other) :
    LedgerSound H (ledger.set (evidence.tenantId, evidence.evidenceHash) evidence) := by
  have hfirst : ∀ key other dryRunHash, ledger.get? key = some other →
      other.tenantId = evidence.tenantId → IsApprovalOf dryRunHash evidence →
        ¬ IsApprovalOf dryRunHash other := by
    intro key other dryRunHash hget htenant happroval hother
    rcases hkind with hstate | ⟨dryRun, hfrom, hnone⟩
    · have hboth := hstate.symm.trans happroval.2
      cases hboth
    · have hhash := hfrom.approval.1.symm.trans happroval.1
      rw [← Option.some.inj hhash] at hother
      exact hnone key other hget htenant hother
  refine ⟨fun key found hget => ?_, fun key found hget => ?_, fun key found hget hstate => ?_,
    fun key key' found found' dryRunHash hget hget' htenant hof hof' => ?_⟩
  · rcases get?_append hget with ⟨hkey, hfound⟩ | hget
    · rw [hkey, hfound]
    · exact h.key key found hget
  · rcases get?_append hget with ⟨-, hfound⟩ | hget
    · rw [hfound]
      exact hchecked
    · exact h.checked key found hget
  · rcases get?_append hget with ⟨-, hfound⟩ | hget
    · rw [hfound] at hstate ⊢
      rcases hkind with hdryRun | ⟨dryRun, hfrom, -⟩
      · rw [hdryRun] at hstate
        cases hstate
      · exact ⟨dryRun, { hfrom with found := get?_append_of_some hfresh hfrom.found }⟩
    · obtain ⟨dryRun, hfrom⟩ := h.approved key found hget hstate
      exact ⟨dryRun, { hfrom with found := get?_append_of_some hfresh hfrom.found }⟩
  · rcases get?_append hget with ⟨-, hfound⟩ | hget
    · rcases get?_append hget' with ⟨-, hfound'⟩ | hget'
      · rw [hfound, hfound']
      · rw [hfound] at htenant hof
        exact absurd hof' (hfirst key' found' dryRunHash hget' htenant.symm hof)
    · rcases get?_append hget' with ⟨-, hfound'⟩ | hget'
      · rw [hfound'] at htenant hof'
        exact absurd hof (hfirst key found dryRunHash hget htenant hof')
      · exact h.once key key' found found' dryRunHash hget hget' htenant hof hof'

end

/-- An execution writes nothing to the ledger. -/
theorem Reached.ledger {command : KnowledgeBaseWriteExecutionCommand} {user : UserContext}
    {prepared : PreparedWrite} (h : Reached service command user prepared world world') :
    world'.ledger = world.ledger := by
  cases h with
  | nothing hstores => exact (stores_eq_iff.mp hstores).1
  | receipt _ hstores => exact (stores_eq_iff.mp hstores).1
  | source _ _ hstores => exact (stores_eq_iff.mp hstores).1
  | article hcommitted => exact hcommitted.ledger

/-- What an approval has found is what it approves. -/
theorem ApprovalDone.from {command : KnowledgeBaseWriteApprovalTransitionCommand}
    {user : UserContext} {dryRun evidence : KnowledgeBaseWriteApprovalEvidence}
    (hsound : LedgerSound service.hashes world.ledger)
    (h : service.ApprovalDone command user dryRun evidence world world') :
    ApprovedFrom world.ledger evidence dryRun ∧ user.tenantId = evidence.tenantId := by
  have hkey := Prod.mk.inj (hsound.key _ _ h.found)
  have htenant : user.tenantId = evidence.tenantId := hkey.1.trans h.command.tenantId.symm
  refine ⟨⟨?_, (require_bind_eq_ok.mp h.approvable).1, h.approval, h.command⟩, htenant⟩
  rw [← htenant, ← hkey.2]
  exact h.found

/-- **Every operation keeps what the ledger says.** -/
theorem ledgerSound_step (event : WriteEvent) (h : LedgerSound service.hashes world.ledger) :
    LedgerSound service.hashes (service.step world event).ledger := by
  cases step_cases service world event with
  | nothing hstores =>
    rw [(stores_eq_iff.mp hstores).1]
    exact h
  | dryRun hdone =>
    obtain ⟨htenant, hchecked, hfresh, hstores⟩ := hdone.appends
    rw [(stores_eq_iff.mp hstores).1, ← htenant]
    rw [← htenant] at hfresh
    exact h.append hfresh hchecked (.inl hdone.state)
  | approval hdone =>
    obtain ⟨hfrom, htenant⟩ := hdone.from h
    rw [(stores_eq_iff.mp hdone.stores).1]
    refine h.append hdone.fresh hdone.checked (.inr ⟨_, hfrom, fun key other hget hother => ?_⟩)
    refine hdone.unapproved other (mem_listEvidence.mpr ⟨key.2, ?_⟩)
    have hkey : key.1 = other.tenantId := congrArg Prod.fst (h.key key other hget)
    rw [htenant, ← hother, ← hkey]
    exact hget
  | execution _ hreached =>
    rw [hreached.ledger]
    exact h

theorem ledgerSound_run (hempty : start.ledger = ∅) (events : List WriteEvent) :
    LedgerSound service.hashes (Runs.run service.step start events).ledger := by
  have hstart : LedgerSound service.hashes start.ledger := by
    rw [hempty]
    exact ledgerSound_empty service.hashes
  have hkept := @Runs.always_of_invariant _ _ service.step
    (fun world => LedgerSound service.hashes world.ledger)
    (fun world event h => ledgerSound_step event h) start hstart events
  exact Runs.always_last hkept

/-! ## What a run hashes -/

/-- The states in which the operations of a run are called. -/
def callStates (service : KnowledgeBaseArticleService) (start : KnowledgeBaseWorld)
    (events : List WriteEvent) : Set KnowledgeBaseWorld :=
  {world | ∃ before event, before ++ [event] <+: events ∧
    world = Runs.run service.step start before}

/-- An execution of the run has prepared a write. -/
def Prepares (service : KnowledgeBaseArticleService) (start : KnowledgeBaseWorld)
    (events : List WriteEvent) (command : KnowledgeBaseWriteExecutionCommand) (user : UserContext)
    (prepared : PreparedWrite) : Prop :=
  ∃ before eventId now, before ++ [.execute command user eventId now] <+: events ∧
    ((service.prepareWrite command user now).run (Runs.run service.step start before)).1 =
      .ok prepared

/-- The digest has no collisions on what the operations of a run hash, kind by kind. -/
structure NoCollisions (service : KnowledgeBaseArticleService) (start : KnowledgeBaseWorld)
    (events : List WriteEvent) : Prop where
  approvals : TellsApart service.hashes
  snapshots : ∀ tenantId, TellsSnapshotsApart service.hashes
                (service.snapshots tenantId (callStates service start events))
  receipts  : Set.InjOn service.hashes.sha256 {text | ∃ command user prepared,
                Prepares service start events command user prepared ∧
                  text = jsonBytes prepared.receipt.payload}

section

variable {before events : List WriteEvent}

theorem Prepares.mono (hwithin : before <+: events) {command : KnowledgeBaseWriteExecutionCommand}
    {user : UserContext} {prepared : PreparedWrite}
    (h : Prepares service start before command user prepared) :
    Prepares service start events command user prepared := by
  obtain ⟨earlier, eventId, now, hearlier, hprepare⟩ := h
  exact ⟨earlier, eventId, now, hearlier.trans hwithin, hprepare⟩

theorem callStates_mono (hwithin : before <+: events) :
    callStates service start before ⊆ callStates service start events := by
  rintro world ⟨earlier, event, hearlier, rfl⟩
  exact ⟨earlier, event, hearlier.trans hwithin, rfl⟩

theorem snapshots_mono {worlds worlds' : Set KnowledgeBaseWorld} (h : worlds ⊆ worlds')
    (tenantId : String) :
    service.snapshots tenantId worlds ⊆ service.snapshots tenantId worlds' := by
  rintro snapshot ⟨world, hworld, hreads⟩
  exact ⟨world, h hworld, hreads⟩

/-- An earlier run hashes less. -/
theorem NoCollisions.mono (hwithin : before <+: events)
    (h : NoCollisions service start events) : NoCollisions service start before where
  approvals := h.approvals
  snapshots tenantId :=
    .mono (snapshots_mono (callStates_mono hwithin) tenantId) (h.snapshots tenantId)
  receipts := by
    refine h.receipts.mono ?_
    rintro text ⟨command, user, prepared, hprepares, htext⟩
    exact ⟨command, user, prepared, hprepares.mono hwithin, htext⟩

end

end KnowledgeBaseArticleService

end Collabio
