import Mathlib.Tactic
import Collabio.KnowledgeBase.AtomicExecutions

/-!
# Article changes and their approvals

* `write_all_or_nothing` — an execution returns what was projected, or changes nothing;
* `article_changes`      — articles change in executions that return, of what was approved;
* `executed_once`        — no approval is executed twice;
* `write_lineage`        — every run, as a whole.
-/

namespace Collabio

open KnowledgeBaseWorld

namespace KnowledgeBaseArticleService

variable {service : KnowledgeBaseArticleService} {start : KnowledgeBaseWorld}

/-! ## All or nothing -/

/-- What a call of `execute_write` does. -/
inductive AllOrNothing (service : KnowledgeBaseArticleService) (world : KnowledgeBaseWorld)
    (command : KnowledgeBaseWriteExecutionCommand) (user : UserContext) (eventId : EventId)
    (now : String) : Prop
  | raises {exn : Exn}
      (raised : ((service.executeWrite command user eventId now).run world).1 = .error exn)
      (stores : ((service.executeWrite command user eventId now).run world).2.stores =
        world.stores) : AllOrNothing service world command user eventId now
  | returns {response : KnowledgeBaseWriteExecutionResponse}
      {approved : KnowledgeBaseWriteApprovalEvidence}
      {sourceEvidences : List KnowledgeBaseSourceVersionEvidence}
      {restoreEvidence : KnowledgeBaseRestoreEvidence} {projectedHashes : List String}
      (returned : ((service.executeWrite command user eventId now).run world).1 = .ok response)
      (found : world.ledger.get? (user.tenantId, command.approvedWriteApprovalEvidenceHash) =
        some approved)
      -- what was projected before the write
      (reads : service.Reads world user.tenantId sourceEvidences restoreEvidence)
      (projected : buildProjectedSourceVersionEvidenceHashes approved sourceEvidences =
        .ok projectedHashes)
      (refreshed : Refreshed service user approved projectedHashes response
        ((service.executeWrite command user eventId now).run world).2) :
      AllOrNothing service world command user eventId now

/-- **`execute_write` is all-or-nothing** after every run that began with an empty ledger and no
receipts. -/
theorem write_all_or_nothing (hdigests : WriteDigests service.hashes)
    (hledger : start.ledger = ∅) (hreceipts : start.receipts = ∅) (before : List WriteEvent)
    (command : KnowledgeBaseWriteExecutionCommand) (user : UserContext) (eventId : EventId)
    (now : String)
    (hnone : NoCollisions service start (before ++ [.execute command user eventId now])) :
    AllOrNothing service (Runs.run service.step start before) command user eventId now := by
  have hlineage := lineage_run hdigests hledger hreceipts before
    (hnone.mono (List.prefix_append before _))
  rcases executeWrite_cases hdigests hnone (ledgerSound_run hledger before) hlineage with
    ⟨⟨exn, hraised⟩, hstores⟩ | ⟨prepared, hexecuted⟩
  · exact .raises hraised hstores
  · have hreturns : (service.prepareWrite command user now).run
        (Runs.run service.step start before) = (.ok prepared,
          ((service.prepareWrite command user now).run (Runs.run service.step start before)).2) :=
      Prod.ext hexecuted.prepares rfl
    obtain ⟨hprepared, -⟩ := prepareWrite_returns hreturns
    obtain ⟨sourceEvidences, hreads, hprojected⟩ := (prepareWrite_previews hreturns).reads
    obtain ⟨response, hresponse, hrefreshed⟩ := hexecuted.returned
    exact .returns hresponse hprepared.approved hreads hprojected hrefreshed

/-! ## Lineage of article changes -/

/-- An execution that returned, of an approval of a dry run, and the one article that it is for. -/
structure ArticleChange (service : KnowledgeBaseArticleService) (world : KnowledgeBaseWorld)
    (command : KnowledgeBaseWriteExecutionCommand) (user : UserContext) (eventId : EventId)
    (now : String) (approved dryRun : KnowledgeBaseWriteApprovalEvidence) : Prop where
  returned : ∃ response,
               ((service.executeWrite command user eventId now).run world).1 = .ok response
  found    : world.ledger.get? (user.tenantId, command.approvedWriteApprovalEvidenceHash) =
               some approved
  tenant   : approved.tenantId = user.tenantId
  lineage  : ApprovedFrom world.ledger approved dryRun
  others   : otherArticles ((service.executeWrite command user eventId now).run world).2.articles
               (user.tenantId, approved.articleObjectId) =
                 otherArticles world.articles (user.tenantId, approved.articleObjectId)

/-- **Articles change in executions that return**, and that were approved. -/
theorem article_changes {before : List WriteEvent} {event : WriteEvent}
    (hdigests : WriteDigests service.hashes) (hledger : start.ledger = ∅)
    (hreceipts : start.receipts = ∅) (hnone : NoCollisions service start (before ++ [event]))
    (hchanged : (service.step (Runs.run service.step start before) event).articles ≠
      (Runs.run service.step start before).articles) :
    ∃ command user eventId now approved dryRun, event = .execute command user eventId now ∧
      ArticleChange service (Runs.run service.step start before) command user eventId now approved
        dryRun := by
  have hlineage := lineage_run hdigests hledger hreceipts before
    (hnone.mono (List.prefix_append before _))
  have hsound := @ledgerSound_run service start hledger before
  rcases articles_step service (Runs.run service.step start before) event with hsame |
    ⟨command, user, eventId, now, _, rfl, -, -⟩
  · exact absurd hsame hchanged
  rcases executeWrite_cases hdigests hnone hsound hlineage with ⟨-, hstores⟩ |
    ⟨prepared, hexecuted⟩
  · exact absurd (stores_eq_iff.mp hstores).2.2.2 hchanged
  · obtain ⟨hprepared, -⟩ := prepareWrite_returns (Prod.ext hexecuted.prepares rfl)
    obtain ⟨response, hresponse, -⟩ := hexecuted.returned
    obtain ⟨_, harticle⟩ := hexecuted.committed.articles
    obtain ⟨dryRun, hfrom⟩ := hsound.approved _ _ hprepared.approved
      (require_bind_eq_ok.mp hprepared.usable).1
    exact ⟨command, user, eventId, now, prepared.approvedEvidence, dryRun, rfl, {
      returned := ⟨response, hresponse⟩
      found := hprepared.approved
      tenant := (Prod.mk.inj (hsound.key _ _ hprepared.approved)).1.symm
      lineage := hfrom
      others := otherArticles_of_applyWrite harticle }⟩

/-- What an execution that returned has prepared. -/
theorem prepares_of_returns {world : KnowledgeBaseWorld}
    {command : KnowledgeBaseWriteExecutionCommand} {user : UserContext} {eventId : EventId}
    {now : String} {response : KnowledgeBaseWriteExecutionResponse}
    (h : ((service.executeWrite command user eventId now).run world).1 = .ok response) :
    ∃ prepared, service.Prepared command user now world prepared ∧
      service.Previewed user world prepared ∧ service.Committed command user prepared world
        ((service.executeWrite command user eventId now).run world).2 := by
  have hreturns : (service.executeWrite command user eventId now).run world =
      (.ok response, ((service.executeWrite command user eventId now).run world).2) :=
    Prod.ext h rfl
  obtain ⟨prepared, between, hprepare, hcommit⟩ := Prog.run_bind_eq_ok.mp hreturns
  obtain ⟨hprepared, hbetween⟩ := prepareWrite_returns hprepare
  rw [hbetween] at hcommit
  exact ⟨prepared, hprepared, prepareWrite_previews hprepare, commitWrite_returns hcommit⟩

/-- **No approval is executed twice**: its source would be stored already. -/
theorem executed_once (hapart : TellsApart service.hashes) {world : KnowledgeBaseWorld}
    {command command' : KnowledgeBaseWriteExecutionCommand} {user user' : UserContext}
    {eventId eventId' : EventId} {now now' : String} {between : List WriteEvent}
    {response response' : KnowledgeBaseWriteExecutionResponse}
    (h : ((service.executeWrite command user eventId now).run world).1 = .ok response)
    (h' : ((service.executeWrite command' user' eventId' now').run (Runs.run service.step
      (service.step world (.execute command user eventId now)) between)).1 = .ok response') :
    (user.tenantId, command.approvedWriteApprovalEvidenceHash) ≠
      (user'.tenantId, command'.approvedWriteApprovalEvidenceHash) := by
  intro hsame
  obtain ⟨prepared, hprepared, -, hcommitted⟩ := prepares_of_returns h
  obtain ⟨prepared', hprepared', hpreviewed', -⟩ := prepares_of_returns h'
  obtain ⟨-, hfresh, hsource⟩ := InMemorySourceObjectRepository.add_eq_ok.mp hcommitted.sources
  have hkept := extends_run service (service.step world (.execute command user eventId now)) between
  -- both have found the same evidence
  have hevidence : prepared'.approvedEvidence = prepared.approvedEvidence := by
    have hfirst := (extends_step service world (.execute command user eventId now)).ledger _ _
      hprepared.approved
    have hlast := hprepared'.approved
    rw [← hsame, hkept.ledger _ _ hfirst] at hlast
    exact (Option.some.inj hlast).symm
  -- and the source of the first is there at the second
  have hstored : (service.step world (.execute command user eventId now)).sources.records.get?
      command.proposedSourceRecord.metadata.versionKey = some command.proposedSourceRecord := by
    have hleft : (service.step world (.execute command user eventId now)).sources =
        world.sources.insert command.proposedSourceRecord hfresh := hsource
    rw [hleft]
    exact Dict.get?_set_self ..
  have hthere := hkept.sources _ _ hstored
  have habsent := fresh_of_absent hpreviewed'.absent
  rw [hevidence, ← (Prod.mk.inj hsame).1, ← recordKey_of_prepared hapart hprepared, hthere]
    at habsent
  cases habsent

/-- The lineage of the writes of a run. -/
structure WriteLineage (service : KnowledgeBaseArticleService) (start : KnowledgeBaseWorld)
    (events : List WriteEvent) : Prop where
  changes      : ∀ before event, before ++ [event] <+: events →
                   (service.step (Runs.run service.step start before) event).articles ≠
                     (Runs.run service.step start before).articles →
                   ∃ command user eventId now approved dryRun,
                     event = .execute command user eventId now ∧
                     ArticleChange service (Runs.run service.step start before) command user
                       eventId now approved dryRun
  /-- A dry run is approved once. -/
  approvedOnce : ∀ before, before <+: events → ∀ key key' approved approved' dryRunHash,
                   (Runs.run service.step start before).ledger.get? key = some approved →
                   (Runs.run service.step start before).ledger.get? key' = some approved' →
                   approved.tenantId = approved'.tenantId → IsApprovalOf dryRunHash approved →
                   IsApprovalOf dryRunHash approved' → approved = approved'
  /-- An approval is executed once. -/
  executedOnce : ∀ before between command user eventId now command' user' eventId' now',
                   before ++ [.execute command user eventId now] ++ between ++
                     [.execute command' user' eventId' now'] <+: events →
                   (∃ response, ((service.executeWrite command user eventId now).run
                     (Runs.run service.step start before)).1 = .ok response) →
                   (∃ response, ((service.executeWrite command' user' eventId' now').run
                     (Runs.run service.step start (before ++ [.execute command user eventId now] ++
                       between))).1 = .ok response) →
                   (user.tenantId, command.approvedWriteApprovalEvidenceHash) ≠
                     (user'.tenantId, command'.approvedWriteApprovalEvidenceHash)

/-- **Write approval lineage.** In every run that began with an empty ledger and no receipts,
articles change in executions that return and that were approved of a dry run of the same
command, a dry run is approved once, and an approval is executed once. -/
theorem write_lineage (hdigests : WriteDigests service.hashes) (hledger : start.ledger = ∅)
    (hreceipts : start.receipts = ∅) (events : List WriteEvent)
    (hnone : NoCollisions service start events) : WriteLineage service start events where
  changes before event hwithin hchanged :=
    article_changes hdigests hledger hreceipts (hnone.mono hwithin) hchanged
  approvedOnce before _ := (@ledgerSound_run service start hledger before).once
  executedOnce before between command user eventId now command' user' eventId' now' _ h h' := by
    obtain ⟨response, h⟩ := h
    obtain ⟨response', h'⟩ := h'
    rw [Runs.run_append, run_snoc] at h'
    exact executed_once hnone.approvals h h'

/-- A dry run alone. -/
theorem run_dryRun (command : KnowledgeBaseWriteApprovalCommand) (user : UserContext)
    (eventId : EventId) : Runs.run service.step start [.dryRun command user eventId] =
      ((service.dryRunWriteApproval command user eventId).run start).2 := rfl

/-- A dry run, and an approval after it. -/
theorem run_dryRun_approve (command : KnowledgeBaseWriteApprovalCommand) (user : UserContext)
    (eventId : EventId) (transition : KnowledgeBaseWriteApprovalTransitionCommand)
    (approver : UserContext) (approvalId : EventId) :
    Runs.run service.step start
        [.dryRun command user eventId, .approve transition approver approvalId] =
      ((service.approveWriteApproval transition approver approvalId).run
        ((service.dryRunWriteApproval command user eventId).run start).2).2 := rfl

/-- States with one article, all the same, have one snapshot of each tenant. -/
theorem tellsSnapshotsApart_of_article {worlds : Set KnowledgeBaseWorld} {tenantId : String}
    {sources : InMemorySourceObjectRepository} {articles : InMemoryKnowledgeBaseArticleRepository}
    {article : KnowledgeBaseArticleRecord}
    (hsame : ∀ world ∈ worlds, world.sources = sources ∧ world.articles = articles)
    (harticle : articles.articles = [article]) :
    TellsSnapshotsApart service.hashes (service.snapshots tenantId worlds) := by
  have hreads : ∀ snapshot ∈ service.snapshots tenantId worlds,
      service.currentEvidenceOf sources tenantId (service.records articles tenantId) =
        .ok snapshot := by
    rintro snapshot ⟨world, hworld, hreads⟩
    obtain ⟨hsources, harticles⟩ := hsame world hworld
    rw [Reads, hsources, harticles] at hreads
    exact hreads
  refine tellsSnapshotsApart_of_one (fun snapshot hmem snapshot' hmem' => ?_)
    fun snapshot hmem a ha b hb => ?_
  · exact Except.ok.inj ((hreads snapshot hmem).symm.trans (hreads snapshot' hmem'))
  · obtain ⟨hevidences, -⟩ := currentEvidenceOf_eq_ok.mp (hreads snapshot hmem)
    have hof : ∀ evidence ∈ snapshot.1,
        service.sourceVersionEvidenceOf sources article = .ok evidence := by
      intro evidence hevidence
      obtain ⟨other, hother, hread⟩ := Except.mem_of_mem_mapM hevidences hevidence
      obtain ⟨hother, -⟩ := mem_records.mp hother
      rw [harticle] at hother
      rw [List.mem_singleton.mp hother] at hread
      exact hread
    exact Except.ok.inj ((hof a ha).symm.trans (hof b hb))

end KnowledgeBaseArticleService

namespace HandbookEdit

open KnowledgeBaseArticleService

theorem length_obj {members : List (String × Json)}
    (h : "approval_state" ∉ members.map Prod.fst) :
    (hashes.sha256 (jsonBytes (.obj members))).length = 32 := by
  rw [sha256_plain (statesApproval_of_keys h)]
  rfl

theorem writeDigests : WriteDigests hashes where
  evidences evidence := by
    refine length_obj ?_
    simp [KnowledgeBaseSourceVersionEvidence.payloadMembers]
  checksums evidences := by
    rw [checksumPayload, sha256_plain (statesApproval_arr _)]
    rfl
  rowCounts tenantId articleCount evidenceCount := length_obj (by simp)
  restores evidence := by
    refine length_obj ?_
    simp [KnowledgeBaseRestoreEvidence.payloadMembers]
  receipts receipt := length_obj (by simp)
  commands command := length_obj (by simp)

/-- The dry run, the approval and the execution of the new title. -/
def titleEvents : List WriteEvent :=
  [.dryRun dryRunCommand alice ⟨"event-1", firstEvent_notBlank⟩,
    .approve transitionCommand bob ⟨"event-2", secondEvent_notBlank⟩,
    .execute executionCommand bob ⟨"event-3", thirdEvent_notBlank⟩ "2026-01-06T09:00:00Z"]

theorem prefix_of_three {α : Type*} {a b c x : α} {before : List α}
    (h : before ++ [x] <+: [a, b, c]) :
    before = [] ∧ x = a ∨ before = [a] ∧ x = b ∨ before = [a, b] ∧ x = c := by
  rcases before with _ | ⟨p, _ | ⟨q, _ | ⟨r, rest⟩⟩⟩
  all_goals simp_all [List.cons_prefix_cons]

theorem titleEvents_stores {world : KnowledgeBaseWorld}
    (h : world ∈ callStates service start titleEvents) :
    world.sources = start.sources ∧ world.articles = start.articles := by
  obtain ⟨before, event, hwithin, hworld⟩ := h
  rcases prefix_of_three hwithin with ⟨hbefore, -⟩ | ⟨hbefore, -⟩ | ⟨hbefore, -⟩
  · rw [hworld, hbefore]
    exact ⟨rfl, rfl⟩
  · obtain ⟨auditEvents, hleft⟩ := dryRun_leaves
    have hstate : world = (dryRunCall.run start).2 := by
      rw [hworld, hbefore]
      exact run_dryRun dryRunCommand alice ⟨"event-1", firstEvent_notBlank⟩
    rw [hstate, hleft]
    exact ⟨rfl, rfl⟩
  · obtain ⟨ledger, auditEvents, hleft, -⟩ := approval_leaves
    have hstate : world = (approveCall.run (dryRunCall.run start).2).2 := by
      rw [hworld, hbefore]
      exact run_dryRun_approve dryRunCommand alice ⟨"event-1", firstEvent_notBlank⟩
        transitionCommand bob ⟨"event-2", secondEvent_notBlank⟩
    rw [hstate, hleft]
    exact ⟨rfl, rfl⟩

/-- One write is prepared. -/
theorem titleEvents_prepares {command : KnowledgeBaseWriteExecutionCommand} {user : UserContext}
    {write : PreparedWrite} (h : Prepares service start titleEvents command user write) :
    write = prepared := by
  obtain ⟨before, eventId, now, hwithin, hprepare⟩ := h
  rcases prefix_of_three hwithin with ⟨-, hevent⟩ | ⟨-, hevent⟩ | ⟨hbefore, hevent⟩
  · cases hevent
  · cases hevent
  · obtain ⟨rfl, rfl, rfl, rfl⟩ := WriteEvent.execute.inj hevent
    obtain ⟨world, hworld, hready⟩ := ready
    have hstate : Runs.run service.step start before = world := by
      rw [hbefore, ← hworld]
      exact run_dryRun_approve dryRunCommand alice ⟨"event-1", firstEvent_notBlank⟩
        transitionCommand bob ⟨"event-2", secondEvent_notBlank⟩
    rw [hstate, prepare_run hready] at hprepare
    exact (Except.ok.inj hprepare).symm

theorem titleEvents_noCollisions : NoCollisions service start titleEvents where
  approvals := tellsApart
  snapshots tenantId := tellsSnapshotsApart_of_article (fun _ h => titleEvents_stores h) rfl
  receipts := by
    rintro text ⟨command, user, write, hprepares, htext⟩ text' ⟨command', user', write',
      hprepares', htext'⟩ _
    rw [htext, htext', titleEvents_prepares hprepares, titleEvents_prepares hprepares']

theorem write_all_or_nothing_titleEvents : AllOrNothing service
    (Runs.run service.step start [.dryRun dryRunCommand alice ⟨"event-1", firstEvent_notBlank⟩,
      .approve transitionCommand bob ⟨"event-2", secondEvent_notBlank⟩]) executionCommand bob
    ⟨"event-3", thirdEvent_notBlank⟩ "2026-01-06T09:00:00Z" :=
  write_all_or_nothing writeDigests rfl rfl _ _ _ _ _ titleEvents_noCollisions

theorem write_lineage_titleEvents : WriteLineage service start titleEvents :=
  write_lineage writeDigests rfl rfl titleEvents titleEvents_noCollisions

end HandbookEdit

end Collabio
