import Mathlib.Tactic
import Collabio.KnowledgeBase.ConcurrentWrites

/-!
# The versions of an article

What writes that take turns make of the articles.

* `ArticleChange`      — what one write of an article does;
* `sourced_schedule`   — no article is ever without the source that it names;
* `one_edit_returns`   — of the edits that were approved for one version, one returns.
-/

namespace Collabio

open KnowledgeBaseWorld

/-! ## One write -/

/-- The article names the record as its current source, with the record's own hashes. -/
structure NamesSource (article : KnowledgeBaseArticleRecord) (record : SourceObjectRecord) :
    Prop where
  tenantId     : record.metadata.tenantId = article.tenantId
  objectId     : record.metadata.objectId = article.currentSourceObjectId
  versionId    : record.metadata.versionId = article.currentSourceVersionId
  objectType   : record.metadata.objectType = article.currentSourceObjectType
  manifestHash : record.metadata.manifestHash = article.currentSourceManifestHash
  contentHash  : record.metadata.contentHash = article.currentContentHash
  aclVersion   : record.metadata.aclVersion = article.currentAclVersion

/-- The current version of an article, if there is one. -/
def InMemoryKnowledgeBaseArticleRepository.versionOf
    (repository : InMemoryKnowledgeBaseArticleRepository) (key : ObjectKey) : Option String :=
  (repository.articles.find? fun article => article.key = key).map (·.currentVersionObjectId)

/-- The version that a write finds: an edit the one it expects, a creation none. -/
def foundVersion (evidence : KnowledgeBaseWriteApprovalEvidence) : Option String :=
  match evidence.operation with
  | .create => none
  | .edit => evidence.expectedCurrentVersionObjectId

/-- What one write of an article does. -/
structure ArticleChange (tenantId : String) (evidence : KnowledgeBaseWriteApprovalEvidence)
    (record : SourceObjectRecord)
    (repository repository' : InMemoryKnowledgeBaseArticleRepository) : Prop where
  found  : repository.versionOf (tenantId, evidence.articleObjectId) = foundVersion evidence
  left   : repository'.versionOf (tenantId, evidence.articleObjectId) =
             some evidence.proposedVersionObjectId
  others : ∀ key, key ≠ (tenantId, evidence.articleObjectId) →
             repository'.versionOf key = repository.versionOf key
  names  : ∀ article ∈ repository'.articles, article ∈ repository.articles ∨
             NamesSource article record

section

variable {tenantId auditChainRef : String} {evidence : KnowledgeBaseWriteApprovalEvidence}
variable {record : SourceObjectRecord} {article : KnowledgeBaseArticleRecord}
variable {repository repository' : InMemoryKnowledgeBaseArticleRepository}

theorem versionOf_of_mem (h : article ∈ repository.articles) :
    repository.versionOf article.key = some article.currentVersionObjectId := by
  unfold InMemoryKnowledgeBaseArticleRepository.versionOf
  cases hfound : repository.articles.find? fun other => other.key = article.key with
  | none =>
    have hnone := List.find?_eq_none.mp hfound article h
    simp at hnone
  | some other =>
    have hkey : other.key = article.key := by
      simpa using List.find?_some hfound
    -- no two articles have one key
    have hmem := List.mem_of_find?_eq_some hfound
    have hsame := List.inj_on_of_nodup_map repository.nodup hmem h hkey
    rw [hsame]
    rfl

/-- The other articles decide their versions. -/
theorem versionOf_otherArticles {key other : ObjectKey} (hne : key ≠ other) :
    repository.versionOf key =
      ((otherArticles repository other).find? fun article => article.key = key).map
        (·.currentVersionObjectId) := by
  unfold InMemoryKnowledgeBaseArticleRepository.versionOf otherArticles
  rw [List.find?_filter]
  congr 2
  funext article
  by_cases hkey : article.key = key
  · simp [hkey, hne]
  · simp [hkey]

theorem requireSourceRecordMatchesWriteEvidence_names {metadata : SourceObjectMetadata}
    (h : requireSourceRecordMatchesWriteEvidence tenantId evidence record = .ok metadata) :
    metadata = record.metadata ∧ record.metadata.tenantId = tenantId ∧
      record.metadata.objectId = evidence.proposedSourceObjectId ∧
      record.metadata.versionId = evidence.proposedSourceVersionId ∧
      record.metadata.objectType = evidence.proposedSourceObjectType := by
  unfold requireSourceRecordMatchesWriteEvidence at h
  simp only [require_bind_eq_ok] at h
  obtain ⟨htenant, hobject, hversion, htype, -, -, -, hsame⟩ := h
  exact ⟨(Except.ok.inj hsame).symm, htenant, hobject, hversion, htype⟩

theorem change_of_created
    (h : InMemoryKnowledgeBaseArticleRepository.applyCreate tenantId evidence record auditChainRef
      repository = (.ok article, repository')) (hoperation : evidence.operation = .create) :
    ArticleChange tenantId evidence record repository repository' := by
  have hothers := (applyCreate_applied h).2
  unfold InMemoryKnowledgeBaseArticleRepository.applyCreate at h
  split at h
  · cases h
  rename_i hfree
  split at h
  · cases h
  split at h
  · cases h
  rename_i created hcreated
  cases h
  have hkey := key_of_created hcreated
  have hcarries := carriesApproved_of_created hcreated
  obtain ⟨metadata, hmetadata, hvalid⟩ := Except.bind_eq_ok.mp hcreated
  obtain ⟨rfl, htenant, hobject, hversion, htype⟩ :=
    requireSourceRecordMatchesWriteEvidence_names hmetadata
  obtain ⟨-, hvalid⟩ := require_bind_eq_ok.mp hvalid
  obtain ⟨-, -, hfields⟩ := KnowledgeBaseArticleRecord.validate_eq_ok.mp hvalid
  refine { found := ?_, left := ?_, others := fun key hne => ?_, names := fun other hmem => ?_ }
  · -- there was no article under the key
    rw [foundVersion, hoperation]
    unfold InMemoryKnowledgeBaseArticleRepository.versionOf
    rw [Option.map_eq_none_iff, List.find?_eq_none]
    intro other hother hsame
    exact hfree (List.mem_map.mpr ⟨other, hother, of_decide_eq_true hsame⟩)
  · have hthere := List.mem_append_right repository.articles (List.mem_singleton_self article)
    have hfresh : article.key ∉ repository.articles.map (·.key) := by
      rw [hkey]
      exact hfree
    have hversionOf := @versionOf_of_mem article (repository.insert article hfresh) hthere
    rw [hkey, hcarries.versionObjectId] at hversionOf
    exact hversionOf
  · rw [versionOf_otherArticles hne, versionOf_otherArticles hne, hothers]
  · have hthere : other ∈ repository.articles ++ [article] := hmem
    rcases List.mem_append.mp hthere with hold | hnew
    · exact .inl hold
    · rw [List.mem_singleton.mp hnew]
      right
      constructor <;> rw [hfields]
      · exact htenant
      · exact hobject
      · exact hversion
      · exact htype
      · rfl
      · rfl
      · rfl

theorem change_of_edited
    (h : InMemoryKnowledgeBaseArticleRepository.applyEdit tenantId evidence record auditChainRef
      repository = (.ok article, repository')) (hoperation : evidence.operation = .edit) :
    ArticleChange tenantId evidence record repository repository' := by
  unfold InMemoryKnowledgeBaseArticleRepository.applyEdit at h
  split at h
  · cases h
  rename_i existing hfound
  split at h
  · cases h
  rename_i edited hedited
  cases h
  have hmem := List.mem_of_find?_eq_some hfound
  have hkey : existing.key = (tenantId, evidence.articleObjectId) := by
    simpa using List.find?_some hfound
  obtain ⟨metadata, hmetadata, hedited⟩ := Except.bind_eq_ok.mp hedited
  obtain ⟨rfl, htenant, hobject, hversion, htype⟩ :=
    requireSourceRecordMatchesWriteEvidence_names hmetadata
  obtain ⟨hcurrent, hedited⟩ := require_bind_eq_ok.mp hedited
  cases hedited
  have heditedKey : (editedArticle evidence record.metadata existing auditChainRef).key =
      (tenantId, evidence.articleObjectId) := hkey
  refine { found := ?_, left := ?_, others := fun key hne => ?_, names := fun other hother => ?_ }
  · rw [← hkey, versionOf_of_mem hmem, hcurrent, foundVersion, hoperation]
  · have hthere : editedArticle evidence record.metadata existing auditChainRef ∈
        (repository.replace (editedArticle evidence record.metadata existing
          auditChainRef)).articles := by
      refine List.mem_map.mpr ⟨existing, hmem, ?_⟩
      rw [InMemoryKnowledgeBaseArticleRepository.replaceArticle, heditedKey, if_pos hkey]
    rw [← heditedKey, versionOf_of_mem hthere]
    rfl
  · rw [versionOf_otherArticles hne, versionOf_otherArticles hne, otherArticles_replace heditedKey]
  · obtain ⟨old, hold, rfl⟩ := List.mem_map.mp hother
    unfold InMemoryKnowledgeBaseArticleRepository.replaceArticle
    split
    · have htenantKey : existing.tenantId = tenantId := congrArg Prod.fst hkey
      exact .inr ⟨htenant.trans htenantKey.symm, hobject, hversion, htype, rfl, rfl, rfl⟩
    · exact .inl hold

/-- **A write of an article** changes one version, from the one it has to find. -/
theorem change_of_applyWrite
    (h : InMemoryKnowledgeBaseArticleRepository.applyWrite tenantId evidence record auditChainRef
      repository = (.ok article, repository')) :
    ArticleChange tenantId evidence record repository repository' := by
  cases hoperation : evidence.operation with
  | create =>
    rw [InMemoryKnowledgeBaseArticleRepository.applyWrite, hoperation] at h
    exact change_of_created h hoperation
  | edit =>
    rw [InMemoryKnowledgeBaseArticleRepository.applyWrite, hoperation] at h
    exact change_of_edited h hoperation

end

namespace KnowledgeBaseArticleService

variable {service : KnowledgeBaseArticleService} {world : KnowledgeBaseWorld}
variable {calls : List WriteEvent} {schedule : List Nat} {i : Nat}

/-! ## The turns of a schedule -/

/-- The state after these turns. -/
abbrev stateAfter (service : KnowledgeBaseArticleService) (world : KnowledgeBaseWorld)
    (calls : List WriteEvent) (schedule : List Nat) : KnowledgeBaseWorld :=
  (Runs.run Pool.step (startWrites service world calls) schedule).shared

/-- The turn after `before` is that of an execution, which writes its article. -/
structure WritesArticleAt (service : KnowledgeBaseArticleService) (world : KnowledgeBaseWorld)
    (calls : List WriteEvent) (schedule before : List Nat) (i : Nat)
    (command : KnowledgeBaseWriteExecutionCommand) (user : UserContext)
    (evidence : KnowledgeBaseWriteApprovalEvidence) : Prop where
  within   : before ++ [i] <+: schedule
  called   : ∃ eventId now, calls[i]? = some (.execute command user eventId now)
  approved : (stateAfter service world calls schedule).ledger.get?
               (user.tenantId, command.approvedWriteApprovalEvidenceHash) = some evidence
  change   : ArticleChange user.tenantId evidence command.proposedSourceRecord
               (stateAfter service world calls before).articles
               (stateAfter service world calls (before ++ [i])).articles

theorem change_of_articleWritten {command : KnowledgeBaseWriteExecutionCommand}
    {user : UserContext} {evidence : KnowledgeBaseWriteApprovalEvidence}
    {first last : KnowledgeBaseWorld} (h : ArticleWritten command user evidence first last) :
    ArticleChange user.tenantId evidence command.proposedSourceRecord first.articles
      last.articles := by
  obtain ⟨article, hwritten⟩ := h
  obtain ⟨happlied, rfl⟩ := Prod.mk.inj hwritten
  exact change_of_applyWrite (Prod.ext happlied rfl)

/-- A source that was added is there, and stays. -/
theorem get?_of_sourceAdded {record : SourceObjectRecord} {first last : KnowledgeBaseWorld}
    (h : SourceAdded service record first last) :
    last.sources.records.get? record.metadata.versionKey = some record := by
  obtain ⟨hadded, rfl⟩ := Prod.mk.inj h
  obtain ⟨-, hfresh, hinsert⟩ := InMemorySourceObjectRepository.add_eq_ok.mp (Prod.ext hadded rfl)
  have hget := congrArg (fun sources : InMemorySourceObjectRepository =>
    sources.records.get? record.metadata.versionKey) hinsert
  exact hget.trans (Dict.get?_set_self ..)

/-- The other turns leave the articles. -/
theorem articles_of_ledgerAppended {evidence : KnowledgeBaseWriteApprovalEvidence}
    {first last : KnowledgeBaseWorld} (h : LedgerAppended evidence first last) :
    last.articles = first.articles := by
  obtain ⟨-, rfl⟩ := Prod.mk.inj h
  rfl

theorem articles_of_receiptAppended {receipt : SourceObjectWriteReceipt}
    {first last : KnowledgeBaseWorld} (h : ReceiptAppended service receipt first last) :
    last.articles = first.articles := by
  obtain ⟨stored, h⟩ := h
  obtain ⟨-, rfl⟩ := Prod.mk.inj h
  rfl

theorem articles_of_sourceAdded {record : SourceObjectRecord} {first last : KnowledgeBaseWorld}
    (h : SourceAdded service record first last) : last.articles = first.articles := by
  obtain ⟨-, rfl⟩ := Prod.mk.inj h
  rfl

/-- The turn of a plan of one store call. -/
theorem eq_of_prefix_one {G turn : KnowledgeBaseWorld → KnowledgeBaseWorld → Prop}
    {past : List (KnowledgeBaseWorld → KnowledgeBaseWorld → Prop)} (h : past ++ [turn] <+: [G]) :
    turn = G := by
  rcases past with _ | ⟨first, past⟩
  · exact (List.cons_prefix_cons.mp h).1
  · have hrest := (List.cons_prefix_cons.mp h).2
    simp at hrest

/-- The turns of a plan of three. -/
theorem eq_of_prefix_three {G G' G'' turn : KnowledgeBaseWorld → KnowledgeBaseWorld → Prop}
    {past : List (KnowledgeBaseWorld → KnowledgeBaseWorld → Prop)}
    (h : past ++ [turn] <+: [G, G', G'']) :
    turn = G ∨ turn = G' ∨ past = [G, G'] ∧ turn = G'' := by
  rcases past with _ | ⟨first, past⟩
  · exact .inl (List.cons_prefix_cons.mp h).1
  obtain ⟨hfirst, h'⟩ := List.cons_prefix_cons.mp h
  rcases past with _ | ⟨second, past⟩
  · exact .inr (.inl (List.cons_prefix_cons.mp h').1)
  obtain ⟨hsecond, h''⟩ := List.cons_prefix_cons.mp h'
  rcases past with _ | ⟨third, past⟩
  · rw [hfirst, hsecond]
    exact .inr (.inr ⟨rfl, (List.cons_prefix_cons.mp h'').1⟩)
  · have hrest := (List.cons_prefix_cons.mp h'').2
    simp at hrest

/-- **Only executions write articles**, each after it has stored its source. -/
theorem writesArticleAt_of_change {before : List Nat} (hwithin : before ++ [i] <+: schedule)
    (hchange : (stateAfter service world calls (before ++ [i])).articles ≠
      (stateAfter service world calls before).articles) :
    ∃ command user evidence,
      WritesArticleAt service world calls schedule before i command user evidence ∧
        (stateAfter service world calls before).sources.records.get?
          command.proposedSourceRecord.metadata.versionKey =
            some command.proposedSourceRecord := by
  -- the thread whose turn it was is one of the calls
  obtain ⟨call, hcall⟩ : ∃ call, calls[i]? = some call := by
    cases hget : calls[i]? with
    | some call => exact ⟨call, rfl⟩
    | none =>
      have hnone : (startWrites service world calls).threads[i]? = none := by
        rw [startWrites, List.getElem?_map, hget]
        rfl
      exact absurd (congrArg KnowledgeBaseWorld.articles (Pool.step_of_none hnone before)) hchange
  obtain ⟨turns, haccounts, hplanned, -⟩ := @writes_in_order service world calls
    (before ++ [i]) i call hcall
  rcases haccounts.concat_cases with ⟨hne | hsame, -⟩ | ⟨earlier, -, hearlier, rfl⟩
  · exact absurd rfl hne
  · exact absurd (stores_eq_iff.mp hsame).2.2.2 hchange
  rcases hplanned with hnil | ⟨script, hscript, hfollows⟩
  · exact absurd hnil (List.append_ne_nil_of_right_ne_nil _ (List.cons_ne_nil _ _))
  obtain ⟨past, turn, hplace, hpast, hturn⟩ := Prog.follows_concat hfollows
  -- of all turns of all plans, only the third of an execution is of an article
  cases hscript with
  | dryRun state tenant =>
    rw [eq_of_prefix_one hplace] at hturn
    exact absurd (articles_of_ledgerAppended hturn) hchange
  | approve found approval same =>
    rw [eq_of_prefix_one hplace] at hturn
    exact absurd (articles_of_ledgerAppended hturn) hchange
  | @execute command user eventId now evidence receipt approved built =>
    rcases eq_of_prefix_three hplace with hreceipt | hsource | ⟨hpasts, harticle⟩
    · rw [hreceipt] at hturn
      exact absurd (articles_of_receiptAppended hturn) hchange
    · rw [hsource] at hturn
      exact absurd (articles_of_sourceAdded hturn) hchange
    · rw [harticle] at hturn
      rw [hpasts] at hpast
      -- the source was stored in an earlier turn
      obtain ⟨_, rest, -, hrest, rfl⟩ := List.forall₂_cons_left_iff.mp hpast
      obtain ⟨⟨first, last⟩, _, hadded, -, rfl⟩ := List.forall₂_cons_left_iff.mp hrest
      obtain ⟨earlier, hearlierWithin, -, hlast⟩ := hearlier.mem
        (List.mem_cons_of_mem _ (List.mem_cons_self ..))
      have hstored := get?_of_sourceAdded hadded
      rw [← hlast] at hstored
      refine ⟨command, user, evidence, ?_, (extends_schedule hearlierWithin).sources _ _ hstored⟩
      exact {
        within := hwithin
        called := ⟨eventId, now, hcall⟩
        approved := (extends_schedule hwithin).ledger _ _ approved
        change := change_of_articleWritten hturn }

/-! ## Sources -/

/-- Every article has the source that it names. -/
def Sourced (world : KnowledgeBaseWorld) : Prop :=
  ∀ article ∈ world.articles.articles, ∃ record : SourceObjectRecord,
    world.sources.records.get? record.metadata.versionKey = some record ∧
      NamesSource article record

/-- **No article is ever without its source**, at whatever point the calls are. -/
theorem sourced_schedule (h : Sourced world) (schedule : List Nat) :
    Sourced (stateAfter service world calls schedule) := by
  induction schedule using List.reverseRecOn with
  | nil => exact h
  | append_singleton before i ih =>
    have hextends : Extends (stateAfter service world calls before)
        (stateAfter service world calls (before ++ [i])) :=
      extends_schedule (List.prefix_append before [i])
    -- an article that was there before has kept its source
    have hold : ∀ article ∈ (stateAfter service world calls before).articles.articles,
        ∃ record : SourceObjectRecord,
          (stateAfter service world calls (before ++ [i])).sources.records.get?
            record.metadata.versionKey = some record ∧ NamesSource article record := by
      intro article harticle
      obtain ⟨record, hget, hnames⟩ := ih article harticle
      exact ⟨record, hextends.sources _ _ hget, hnames⟩
    intro article harticle
    by_cases hsame : (stateAfter service world calls (before ++ [i])).articles =
        (stateAfter service world calls before).articles
    · rw [hsame] at harticle
      exact hold article harticle
    · obtain ⟨command, user, evidence, hwrites, hsource⟩ :=
        writesArticleAt_of_change (List.prefix_refl _) hsame
      rcases hwrites.change.names article harticle with hbefore | hnames
      · exact hold article hbefore
      · exact ⟨_, hextends.sources _ _ hsource, hnames⟩

/-! ## Versions -/

/-- An execution that has returned has written its article in one of its turns. -/
theorem writesArticleAt_of_done {command : KnowledgeBaseWriteExecutionCommand} {user : UserContext}
    {eventId : EventId} {now : String} {evidence : KnowledgeBaseWriteApprovalEvidence}
    (hcall : calls[i]? = some (.execute command user eventId now))
    (hdone : (Runs.run Pool.step (startWrites service world calls) schedule).threads[i]? =
      some (.done (.ok ())))
    (happroved : (stateAfter service world calls schedule).ledger.get?
      (user.tenantId, command.approvedWriteApprovalEvidenceHash) = some evidence) :
    ∃ before, WritesArticleAt service world calls schedule before i command user evidence := by
  obtain ⟨turns, haccounts, -, hcarried⟩ := writes_in_order hcall
  obtain ⟨script, hscript, hcompletes⟩ := hcarried hdone
  cases hscript with
  | @execute _ _ _ _ found receipt approved built =>
    -- the ledger has one evidence under the hash
    obtain rfl : found = evidence := Option.some.inj (approved.symm.trans happroved)
    obtain ⟨_, rest, -, hrest, rfl⟩ := List.forall₂_cons_left_iff.mp hcompletes
    obtain ⟨_, rest', -, hrest', rfl⟩ := List.forall₂_cons_left_iff.mp hrest
    obtain ⟨⟨first, last⟩, _, harticle, -, rfl⟩ := List.forall₂_cons_left_iff.mp hrest'
    obtain ⟨before, hwithin, hfirst, hlast⟩ := haccounts.mem
      (List.mem_cons_of_mem _ (List.mem_cons_of_mem _ (List.mem_cons_self ..)))
    have hchange := change_of_articleWritten harticle
    rw [← hfirst, ← hlast] at hchange
    exact ⟨before, hwithin, ⟨eventId, now, hcall⟩, happroved, hchange⟩

/-- Between two edits that have found one version, some write has put it there. -/
theorem exists_write_between {j : Nat} {before before' : List Nat} {key : ObjectKey}
    {version : String} {command command' : KnowledgeBaseWriteExecutionCommand}
    {user user' : UserContext} {evidence evidence' : KnowledgeBaseWriteApprovalEvidence}
    (hfirst : WritesArticleAt service world calls schedule before i command user evidence)
    (hlast : WritesArticleAt service world calls schedule before' j command' user' evidence')
    (horder : before ++ [i] <+: before')
    (hkey : (user.tenantId, evidence.articleObjectId) = key)
    (hkey' : (user'.tenantId, evidence'.articleObjectId) = key)
    (hfound : foundVersion evidence' = some version) :
    ∃ between k command'' user'' evidence'',
      WritesArticleAt service world calls schedule between k command'' user'' evidence'' ∧
        (user''.tenantId, evidence''.articleObjectId) = key ∧
        evidence''.proposedVersionObjectId = version := by
  have hleft := hfirst.change.left
  have hfinds := hlast.change.found
  rw [hkey] at hleft
  rw [hkey', hfound] at hfinds
  by_cases hproposed : evidence.proposedVersionObjectId = version
  · exact ⟨before, i, command, user, evidence, hfirst, hkey, hproposed⟩
  -- the version has come back after the first write
  obtain ⟨rest, hrest⟩ := horder
  have hstart : (stateAfter service world calls (before ++ [i])).articles.versionOf key ≠
      some version := by
    rw [hleft]
    exact fun hsame => hproposed (Option.some.inj hsame)
  rw [← hrest] at hfinds
  have hend : (Runs.run Pool.step (Runs.run Pool.step (startWrites service world calls)
      (before ++ [i])) rest).shared.articles.versionOf key = some version := by
    rw [← Runs.run_append]
    exact hfinds
  obtain ⟨middle, k, hmiddle, hnot, hcomes⟩ := Runs.exists_step_to
    (fun pool : Pool Exn KnowledgeBaseWorld Unit => pool.shared.articles.versionOf key)
    (some version) hend hstart
  rw [← Runs.run_append] at hnot hcomes
  rw [← List.append_assoc] at hcomes
  -- so the turn in which it does is a write of the article
  have hturn : (before ++ [i]) ++ middle ++ [k] <+: schedule := by
    have hwithin : before' <+: schedule := (List.prefix_append before' [j]).trans hlast.within
    rw [← hrest] at hwithin
    rw [List.append_assoc]
    exact ((List.prefix_append_right_inj (before ++ [i])).mpr hmiddle).trans hwithin
  have hchanged : (stateAfter service world calls ((before ++ [i]) ++ middle ++ [k])).articles ≠
      (stateAfter service world calls ((before ++ [i]) ++ middle)).articles := by
    intro hsame
    refine hnot ?_
    rw [← hcomes]
    exact congrArg (fun repository : InMemoryKnowledgeBaseArticleRepository =>
      repository.versionOf key) hsame.symm
  obtain ⟨command'', user'', evidence'', hwrites, -⟩ := writesArticleAt_of_change hturn hchanged
  refine ⟨_, k, command'', user'', evidence'', hwrites, ?_, ?_⟩
  · by_contra hother
    exact hnot ((hwrites.change.others key (Ne.symm hother)).symm.trans hcomes)
  · have hleft'' := hwrites.change.left
    by_cases hsame : (user''.tenantId, evidence''.articleObjectId) = key
    · rw [hsame] at hleft''
      exact Option.some.inj (hleft''.symm.trans hcomes)
    · exact absurd ((hwrites.change.others key (Ne.symm hsame)).symm.trans hcomes) hnot

/-- **No update is lost**: of the edits that were approved for one version of an article, only one
returns, unless some write puts that version back. -/
theorem one_edit_returns {j : Nat} {command command' : KnowledgeBaseWriteExecutionCommand}
    {user user' : UserContext} {eventId eventId' : EventId} {now now' : String}
    {evidence evidence' : KnowledgeBaseWriteApprovalEvidence} {version : String}
    (hne : i ≠ j) (hcall : calls[i]? = some (.execute command user eventId now))
    (hcall' : calls[j]? = some (.execute command' user' eventId' now'))
    (happroved : (stateAfter service world calls schedule).ledger.get?
      (user.tenantId, command.approvedWriteApprovalEvidenceHash) = some evidence)
    (happroved' : (stateAfter service world calls schedule).ledger.get?
      (user'.tenantId, command'.approvedWriteApprovalEvidenceHash) = some evidence')
    (harticle : (user.tenantId, evidence.articleObjectId) =
      (user'.tenantId, evidence'.articleObjectId))
    (hversion : foundVersion evidence = some version)
    (hversion' : foundVersion evidence' = some version)
    (hnever : ∀ before k command'' user'' evidence'',
      WritesArticleAt service world calls schedule before k command'' user'' evidence'' →
        (user''.tenantId, evidence''.articleObjectId) = (user.tenantId, evidence.articleObjectId) →
          evidence''.proposedVersionObjectId ≠ version) :
    ¬ ((Runs.run Pool.step (startWrites service world calls) schedule).threads[i]? =
        some (.done (.ok ())) ∧
      (Runs.run Pool.step (startWrites service world calls) schedule).threads[j]? =
        some (.done (.ok ()))) := by
  rintro ⟨hdone, hdone'⟩
  obtain ⟨before, hwrites⟩ := writesArticleAt_of_done hcall hdone happroved
  obtain ⟨before', hwrites'⟩ := writesArticleAt_of_done hcall' hdone' happroved'
  -- one of the two turns came first
  rcases List.prefix_or_prefix_of_prefix hwrites.within hwrites'.within with horder | horder
  · rcases List.prefix_concat_iff.mp horder with hsame | hbefore
    · exact absurd (List.append_inj' hsame rfl).2 (by simpa using hne)
    · obtain ⟨between, k, _, _, _, hput, hkey, hback⟩ :=
        exists_write_between hwrites hwrites' hbefore rfl harticle.symm hversion'
      exact hnever between k _ _ _ hput hkey hback
  · rcases List.prefix_concat_iff.mp horder with hsame | hbefore
    · exact absurd (List.append_inj' hsame rfl).2 (by simpa using hne.symm)
    · obtain ⟨between, k, _, _, _, hput, hkey, hback⟩ :=
        exists_write_between hwrites' hwrites hbefore harticle.symm rfl hversion
      exact hnever between k _ _ _ hput hkey hback

end KnowledgeBaseArticleService

namespace HandbookEdit

open KnowledgeBaseArticleService

/-- The edit, called once or more often. -/
def editCall : WriteEvent :=
  .execute executionCommand bob ⟨"event-3", thirdEvent_notBlank⟩ "2026-01-06T09:00:00Z"

/-- An edit that is called in the approved state, and goes on to its end. -/
theorem edit_in_order : ∃ world schedule turns, Ready world ∧
    Pool.Accounts stores 0 (startWrites service world [editCall]) schedule turns ∧
      Carried service (stateAfter service world [editCall] schedule).ledger editCall turns := by
  obtain ⟨world, -, hready⟩ := ready
  obtain ⟨world', hrun⟩ := executed hready
  obtain ⟨n, hschedule⟩ := @Pool.exists_run_alone _ _ _
    (startWrites service world [editCall]) 0 _ rfl
  have hend : ((WriteEvent.program service editCall).run world).1 = .ok () := by
    have hreturns : (WriteEvent.program service editCall).run world = (.ok (), world') :=
      Prog.run_bind_of_ok hrun
    rw [hreturns]
  have hdone : (Runs.run Pool.step (startWrites service world [editCall])
      (List.replicate n 0)).threads[0]? = some (.done (.ok ())) := by
    rw [hschedule]
    exact congrArg (fun result => some (Prog.done result)) hend
  obtain ⟨turns, haccounts, -, hcarried⟩ := @writes_in_order service world [editCall]
    (List.replicate n 0) 0 editCall rfl
  exact ⟨world, List.replicate n 0, turns, hready, haccounts, hcarried hdone⟩

/-- Two calls of the edit: the article has its source at every point. -/
theorem edits_sourced : ∃ world, Ready world ∧
    ∀ schedule, Sourced (stateAfter service world [editCall, editCall] schedule) := by
  obtain ⟨world, -, hready⟩ := ready
  refine ⟨world, hready, fun schedule => sourced_schedule ?_ schedule⟩
  intro article harticle
  rw [hready.articles] at harticle
  refine ⟨current, ?_, ?_⟩
  · rw [hready.sources]
    exact Dict.get?_set_self ..
  · rw [List.mem_singleton.mp harticle]
    exact ⟨rfl, rfl, rfl, rfl, rfl, rfl, rfl⟩

/-- And only one of them returns. -/
theorem one_of_two_edits_returns : ∃ world, Ready world ∧ ∀ schedule,
    ¬ ((Runs.run Pool.step (startWrites service world [editCall, editCall]) schedule).threads[0]? =
        some (.done (.ok ())) ∧
      (Runs.run Pool.step (startWrites service world [editCall, editCall]) schedule).threads[1]? =
        some (.done (.ok ()))) := by
  obtain ⟨world, -, hready⟩ := ready
  refine ⟨world, hready, fun schedule => ?_⟩
  have happroved : (stateAfter service world [editCall, editCall] schedule).ledger.get?
      (bob.tenantId, executionCommand.approvedWriteApprovalEvidenceHash) = some approved :=
    (@extends_schedule service world [editCall, editCall] schedule [] List.nil_prefix).ledger _ _
      hready.ledger
  refine @one_edit_returns service world [editCall, editCall] schedule 0 1 executionCommand
    executionCommand bob bob ⟨"event-3", thirdEvent_notBlank⟩ ⟨"event-3", thirdEvent_notBlank⟩
    "2026-01-06T09:00:00Z" "2026-01-06T09:00:00Z" approved approved "version-1" Nat.zero_ne_one
    rfl rfl happroved happroved rfl rfl rfl ?_
  -- both calls write the approved version, which is another one
  rintro before k command user evidence ⟨-, ⟨eventId, now, hcalled⟩, hevidence, -⟩ -
  have hmem : WriteEvent.execute command user eventId now ∈ [editCall, editCall] :=
    List.mem_of_getElem? hcalled
  have hcall : WriteEvent.execute command user eventId now = editCall := by
    simpa using hmem
  rw [editCall, WriteEvent.execute.injEq] at hcall
  obtain ⟨rfl, rfl, -⟩ := hcall
  rw [happroved, Option.some.injEq] at hevidence
  rw [← hevidence]
  show "version-2" ≠ "version-1"
  decide

end HandbookEdit

end Collabio
