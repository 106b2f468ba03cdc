import Mathlib.Tactic
import Collabio.KnowledgeBase.ArticleVersions
import Collabio.KnowledgeBase.PgArticles

/-!
# What the writes leave in the tables

* `Wrote`          — a write that returns, table by table;
* `Consistent`     — every article has its current version, and every version its evidence;
* `consistent_run` — so it is after every run of writes, and no version is ever taken back.
-/

namespace Collabio

open Datetime PgSourceObjectWriteReceiptStore

/-- The arguments of `apply_write`, and the time of its transaction. -/
structure ArticleWrite where
  tenantId      : String
  evidence      : KnowledgeBaseWriteApprovalEvidence
  sourceRecord  : SourceObjectRecord
  auditChainRef : String
  now           : DateTime

namespace PgKnowledgeBaseArticleRepository

variable (repository : PgKnowledgeBaseArticleRepository)

def perform (write : ArticleWrite) : Eff Exn PgArticleTables KnowledgeBaseArticleRecord :=
  repository.applyWrite write.now write.tenantId write.evidence write.sourceRecord
    write.auditChainRef

/-- The tables after a write; one that raises has left them as they were. -/
def step (tables : PgArticleTables) (write : ArticleWrite) : PgArticleTables :=
  (repository.perform write tables).2

variable {repository} {tables tables' : PgArticleTables} {article : KnowledgeBaseArticleRecord}
variable {write : ArticleWrite}

/-! ## Statements that return -/

theorem insertArticle_eq_ok {u : Unit}
    (h : repository.insertArticle article tables = (.ok u, tables')) :
    ∃ row, repository.articleRow article = some row ∧
      (∀ other ∈ tables.articles, ¬ row.Conflicts other) ∧
      tables' = { tables with articles := tables.articles ++ [row] } := by
  unfold insertArticle at h
  split at h
  · cases h
  rename_i row hrow
  split at h
  · cases h
  split at h
  · cases h
  rename_i hfree
  cases h
  exact ⟨row, hrow, fun other hother hconflict => hfree ⟨other, hother, hconflict⟩, rfl⟩

theorem insertArticleVersion_eq_ok {u : Unit}
    (h : repository.insertArticleVersion article tables = (.ok u, tables')) :
    ∃ row, repository.articleVersionRow article = some row ∧
      (∀ other ∈ tables.articleVersions, ¬ row.Conflicts other) ∧
      (row.tenantId, row.articleObjectId) ∈ tables.articles.map (·.key) ∧
      tables' = { tables with articleVersions := tables.articleVersions ++ [row] } := by
  unfold insertArticleVersion at h
  split at h
  · cases h
  rename_i row hrow
  split at h
  · cases h
  split at h
  · cases h
  rename_i hfree
  split at h
  · cases h
  rename_i hthere
  cases h
  push Not at hthere
  exact ⟨row, hrow, fun other hother hconflict => hfree ⟨other, hother, hconflict⟩,
    List.mem_map.mpr hthere, rfl⟩

theorem updateArticleCurrentVersion_eq_ok {u : Unit} {now : DateTime}
    (h : repository.updateArticleCurrentVersion now article tables = (.ok u, tables')) :
    ∃ publishedAtUtc, article.publishedAtUtc.mapM repository.readTimestamp =
        some publishedAtUtc ∧
      tables' = { tables with
        articles := tables.articles.map (currentVersionSet article publishedAtUtc now) } := by
  unfold updateArticleCurrentVersion at h
  split at h
  · rename_i publishedAtUtc _ hpublished
    dsimp only at h
    split at h
    · cases h
    split at h
    · cases h
    cases h
    exact ⟨publishedAtUtc, hpublished, rfl⟩
  · cases h

theorem insertSourceVersionEvidence_eq_ok {u : Unit} {now : DateTime}
    {evidence : KnowledgeBaseSourceVersionEvidence} {auditChainRef : String}
    (h : insertSourceVersionEvidence now evidence auditChainRef tables = (.ok u, tables')) :
    tables' = { tables with
      sourceVersionEvidence :=
        tables.sourceVersionEvidence ++ [⟨evidence, now, auditChainRef⟩] } := by
  unfold insertSourceVersionEvidence at h
  dsimp only at h
  split at h
  · cases h
  split at h
  · cases h
  split at h
  · cases h
  cases h
  rfl

theorem insertRestoreEvidence_eq_ok {u : Unit} {now : DateTime}
    {evidence : KnowledgeBaseRestoreEvidence}
    (h : insertRestoreEvidence now evidence tables = (.ok u, tables')) :
    tables' = { tables with restoreEvidence := tables.restoreEvidence ++ [⟨evidence, now⟩] } := by
  unfold insertRestoreEvidence at h
  dsimp only at h
  split at h
  · cases h
  split at h
  · cases h
  cases h
  rfl

/-- What a write does to the articles. -/
def ArticlesAfter (repository : PgKnowledgeBaseArticleRepository) (now : DateTime)
    (operation : KnowledgeBaseWriteOperation) (article : KnowledgeBaseArticleRecord)
    (articles articles' : List ArticleRow) : Prop :=
  match operation with
  | .create => ∃ row, repository.articleRow article = some row ∧
      (∀ other ∈ articles, ¬ row.Conflicts other) ∧ articles' = articles ++ [row]
  | .edit => ∃ publishedAtUtc, article.publishedAtUtc.mapM repository.readTimestamp =
      some publishedAtUtc ∧ articles' = articles.map (currentVersionSet article publishedAtUtc now)

/-- A write that returns. -/
structure Wrote (repository : PgKnowledgeBaseArticleRepository) (tables : PgArticleTables)
    (write : ArticleWrite) (article : KnowledgeBaseArticleRecord) (tables' : PgArticleTables)
    (records : List KnowledgeBaseArticleRecord) (version : ArticleVersionRow)
    (refreshed : KnowledgeBaseSourceVersionEvidence) : Prop where
  listed    : repository.listArticles write.tenantId tables = .ok records
  built     : updatedArticle write.tenantId write.evidence write.sourceRecord
                write.auditChainRef records = .ok article
  articles  : ArticlesAfter repository write.now write.evidence.operation article tables.articles
                tables'.articles
  row       : repository.articleVersionRow article = some version
  fresh     : ∀ other ∈ tables.articleVersions, ¬ version.Conflicts other
  ofArticle : (version.tenantId, version.articleObjectId) ∈ tables'.articles.map (·.key)
  versions  : tables'.articleVersions = tables.articleVersions ++ [version]
  approved  : repository.refreshedSourceEvidence write.tenantId write.evidence
                write.sourceRecord = .ok refreshed
  evidence  : tables'.sourceVersionEvidence = tables.sourceVersionEvidence ++
                [⟨refreshed, write.now, write.auditChainRef⟩]
  restore   : ∃ row, tables'.restoreEvidence = tables.restoreEvidence ++ [row]

theorem key_currentVersionSet (publishedAtUtc : Option DateTime) (now : DateTime)
    (row : ArticleRow) : (currentVersionSet article publishedAtUtc now row).key = row.key := by
  unfold currentVersionSet
  split <;> rfl

theorem map_key_currentVersionSet (publishedAtUtc : Option DateTime) (now : DateTime)
    (articles : List ArticleRow) :
    (articles.map (currentVersionSet article publishedAtUtc now)).map (·.key) =
      articles.map (·.key) := by
  rw [List.map_map]
  exact List.map_congr_left fun row _ => key_currentVersionSet publishedAtUtc now row

theorem storeArticle_eq_ok {u : Unit} {now : DateTime} {operation : KnowledgeBaseWriteOperation}
    (h : repository.storeArticle now operation article tables = (.ok u, tables')) :
    ∃ version, repository.articleVersionRow article = some version ∧
      (∀ other ∈ tables.articleVersions, ¬ version.Conflicts other) ∧
      (version.tenantId, version.articleObjectId) ∈ tables'.articles.map (·.key) ∧
      ArticlesAfter repository now operation article tables.articles tables'.articles ∧
      tables' = { tables with
        articles := tables'.articles
        articleVersions := tables.articleVersions ++ [version] } := by
  cases operation with
  | create =>
    obtain ⟨_, between, hinsert, hversion⟩ := Eff.bind_eq_ok.mp h
    obtain ⟨row, hrow, hfree, rfl⟩ := insertArticle_eq_ok hinsert
    obtain ⟨version, hversionRow, hfresh, hthere, rfl⟩ := insertArticleVersion_eq_ok hversion
    exact ⟨version, hversionRow, hfresh, hthere, ⟨row, hrow, hfree, rfl⟩, rfl⟩
  | edit =>
    obtain ⟨_, between, hversion, hupdate⟩ := Eff.bind_eq_ok.mp h
    obtain ⟨version, hversionRow, hfresh, hthere, rfl⟩ := insertArticleVersion_eq_ok hversion
    obtain ⟨publishedAtUtc, hpublished, rfl⟩ := updateArticleCurrentVersion_eq_ok hupdate
    refine ⟨version, hversionRow, hfresh, ?_, ⟨publishedAtUtc, hpublished, rfl⟩, rfl⟩
    rw [map_key_currentVersionSet]
    exact hthere

theorem perform_eq_ok (h : repository.perform write tables = (.ok article, tables')) :
    ∃ records version refreshed,
      Wrote repository tables write article tables' records version refreshed := by
  replace h := Eff.transaction_eq_ok.mp h
  obtain ⟨_, _, hget, h⟩ := Eff.bind_eq_ok.mp h
  cases hget
  obtain ⟨records, hlisted, h⟩ := Eff.lift_bind_eq_ok.mp h
  obtain ⟨updated, hbuilt, h⟩ := Eff.lift_bind_eq_ok.mp h
  obtain ⟨_, stored, hstored, h⟩ := Eff.bind_eq_ok.mp h
  obtain ⟨refreshed, hrefreshed, h⟩ := Eff.lift_bind_eq_ok.mp h
  obtain ⟨restoreEvidence, -, h⟩ := Eff.lift_bind_eq_ok.mp h
  obtain ⟨_, sourced, hsourced, h⟩ := Eff.bind_eq_ok.mp h
  obtain ⟨_, restored, hrestored, h⟩ := Eff.bind_eq_ok.mp h
  cases h
  obtain ⟨version, hrow, hfresh, hthere, harticles, hstate⟩ := storeArticle_eq_ok hstored
  obtain rfl := insertSourceVersionEvidence_eq_ok hsourced
  obtain rfl := insertRestoreEvidence_eq_ok hrestored
  refine ⟨records, version, refreshed, ?_⟩
  rw [hstate]
  exact {
    listed := hlisted
    built := hbuilt
    articles := harticles
    row := hrow
    fresh := hfresh
    ofArticle := hthere
    versions := rfl
    approved := hrefreshed
    evidence := rfl
    restore := ⟨_, rfl⟩ }

/-! ## The article that is written -/

/-- Listed articles are the tenant's. -/
theorem tenantId_of_listed {tenantId : String} {records : List KnowledgeBaseArticleRecord}
    (h : repository.listArticles tenantId tables = .ok records) :
    ∀ record ∈ records, record.tenantId = tenantId := by
  unfold listArticles at h
  split at h
  · cases h
  intro record hrecord
  obtain ⟨row, hrow, hread⟩ := Except.mem_of_mem_mapM h hrecord
  rw [List.mem_mergeSort, List.mem_filter, decide_eq_true_eq] at hrow
  obtain ⟨sourceEvidence, -, hread⟩ := Except.bind_eq_ok.mp hread
  obtain ⟨-, -, hfields⟩ := KnowledgeBaseArticleRecord.validate_eq_ok.mp hread
  rw [hfields]
  exact hrow.2

/-- It names the version and the source that were approved. -/
structure NamesApproved (write : ArticleWrite) (article : KnowledgeBaseArticleRecord) : Prop where
  key           : article.key = (write.tenantId, write.evidence.articleObjectId)
  version       : article.currentVersionObjectId = write.evidence.proposedVersionObjectId
  sourceObject  : article.currentSourceObjectId = write.sourceRecord.metadata.objectId
  sourceVersion : article.currentSourceVersionId = write.sourceRecord.metadata.versionId
  sourceType    : article.currentSourceObjectType = write.sourceRecord.metadata.objectType
  manifestHash  : article.currentSourceManifestHash = write.sourceRecord.metadata.manifestHash
  contentHash   : article.currentContentHash = write.sourceRecord.metadata.contentHash
  aclVersion    : article.currentAclVersion = write.sourceRecord.metadata.aclVersion

theorem namesApproved_of_built {records : List KnowledgeBaseArticleRecord}
    (hlisted : ∀ record ∈ records, record.tenantId = write.tenantId)
    (h : updatedArticle write.tenantId write.evidence write.sourceRecord write.auditChainRef
      records = .ok article) : NamesApproved write article := by
  unfold updatedArticle at h
  split at h
  · cases h
  · obtain ⟨-, h⟩ := require_bind_eq_ok.mp h
    have hkey := key_of_created h
    obtain ⟨metadata, hmetadata, h⟩ := Except.bind_eq_ok.mp h
    obtain ⟨rfl, -, hobject, hversion, htype⟩ :=
      requireSourceRecordMatchesWriteEvidence_names hmetadata
    obtain ⟨-, h⟩ := require_bind_eq_ok.mp h
    obtain ⟨-, -, hfields⟩ := KnowledgeBaseArticleRecord.validate_eq_ok.mp h
    refine ⟨hkey, ?_, ?_, ?_, ?_, ?_, ?_, ?_⟩ <;> rw [hfields]
    · rfl
    · exact hobject.symm
    · exact hversion.symm
    · exact htype.symm
    · rfl
    · rfl
    · rfl
  · cases h
  · rename_i existing _ hfound
    obtain ⟨metadata, hmetadata, h⟩ := Except.bind_eq_ok.mp h
    obtain ⟨rfl, -, hobject, hversion, htype⟩ :=
      requireSourceRecordMatchesWriteEvidence_names hmetadata
    obtain ⟨-, h⟩ := require_bind_eq_ok.mp h
    cases h
    have hmem : existing ∈ records := List.mem_reverse.mp (List.mem_of_find?_eq_some hfound)
    have hobjectId : existing.objectId = write.evidence.articleObjectId := by
      simpa using List.find?_some hfound
    exact {
      key := Prod.ext (hlisted existing hmem) hobjectId
      version := rfl
      sourceObject := hobject.symm
      sourceVersion := hversion.symm
      sourceType := htype.symm
      manifestHash := rfl
      contentHash := rfl
      aclVersion := rfl }

theorem Wrote.namesApproved {records : List KnowledgeBaseArticleRecord}
    {version : ArticleVersionRow} {refreshed : KnowledgeBaseSourceVersionEvidence}
    (h : Wrote repository tables write article tables' records version refreshed) :
    NamesApproved write article :=
  namesApproved_of_built (tenantId_of_listed h.listed) h.built

/-- The evidence is that of the approved source, under the approved version. -/
theorem refreshedSourceEvidence_eq_ok {tenantId : String}
    {evidence : KnowledgeBaseWriteApprovalEvidence} {sourceRecord : SourceObjectRecord}
    {refreshed : KnowledgeBaseSourceVersionEvidence}
    (h : repository.refreshedSourceEvidence tenantId evidence sourceRecord = .ok refreshed) :
    refreshed = { sourceVersionDraft tenantId evidence.articleObjectId
      evidence.proposedVersionObjectId sourceRecord.metadata with
        evidenceHash := refreshed.evidenceHash } := by
  obtain ⟨built, hbuilt, h⟩ := Except.bind_eq_ok.mp h
  obtain ⟨-, h⟩ := require_bind_eq_ok.mp h
  cases h
  obtain ⟨-, hsealed⟩ := KnowledgeBaseSourceVersionEvidence.sealed_eq_ok.mp hbuilt
  rw [hsealed]

theorem articleVersionRow_eq_some {version : ArticleVersionRow}
    (h : repository.articleVersionRow article = some version) :
    version.key = (article.tenantId, article.currentVersionObjectId) ∧
      version.tenantId = article.tenantId ∧ version.articleObjectId = article.objectId ∧
      version.versionLabel = article.currentVersionLabel ∧
      version.sourceObjectVersionRef = sourceObjectVersionRef article ∧
      version.contentHash = article.currentContentHash := by
  obtain ⟨updatedAtUtc, -, h⟩ := Option.bind_eq_some_iff.mp h
  obtain ⟨publishedAtUtc, -, h⟩ := Option.bind_eq_some_iff.mp h
  cases h
  exact ⟨rfl, rfl, rfl, rfl, rfl, rfl⟩

theorem articleRow_eq_some {row : ArticleRow} (h : repository.articleRow article = some row) :
    row.key = article.key ∧ row.tenantId = article.tenantId ∧ row.objectId = article.objectId ∧
      row.currentVersionObjectId = article.currentVersionObjectId ∧
      row.currentVersionLabel = article.currentVersionLabel := by
  obtain ⟨createdAtUtc, -, h⟩ := Option.bind_eq_some_iff.mp h
  obtain ⟨updatedAtUtc, -, h⟩ := Option.bind_eq_some_iff.mp h
  obtain ⟨publishedAtUtc, -, h⟩ := Option.bind_eq_some_iff.mp h
  cases h
  exact ⟨rfl, rfl, rfl, rfl, rfl⟩

/-! ## Consistent tables -/

/-- The evidence of a version's source. -/
structure IsSourcedBy (version : ArticleVersionRow)
    (evidence : KnowledgeBaseSourceVersionEvidence) : Prop where
  article : evidence.articleObjectId = version.articleObjectId
  source  : version.sourceObjectVersionRef =
              "source:" ++ evidence.sourceObjectId ++ ":" ++ evidence.sourceVersionId
  content : version.contentHash = evidence.contentHash

/-- The version that an article's row names. -/
structure IsCurrent (row : ArticleRow) (version : ArticleVersionRow) : Prop where
  key     : version.key = (row.tenantId, row.currentVersionObjectId)
  article : version.articleObjectId = row.objectId
  label   : version.versionLabel = row.currentVersionLabel

structure Consistent (tables : PgArticleTables) : Prop where
  articleKeys : (tables.articles.map (·.key)).Nodup
  versionKeys : (tables.articleVersions.map (·.key)).Nodup
  labels      : (tables.articleVersions.map fun row =>
                  (row.tenantId, row.articleObjectId, row.versionLabel)).Nodup
  current     : ∀ row ∈ tables.articles, ∃ version ∈ tables.articleVersions, IsCurrent row version
  ofArticle   : ∀ version ∈ tables.articleVersions,
                  (version.tenantId, version.articleObjectId) ∈ tables.articles.map (·.key)
  sourced     : ∀ version ∈ tables.articleVersions, ∃ row,
                  tables.sourceVersionEvidence.filter (·.versionKey = version.key) = [row] ∧
                    IsSourcedBy version row.evidence
  ofVersion   : ∀ row ∈ tables.sourceVersionEvidence,
                  row.versionKey ∈ tables.articleVersions.map (·.key)

theorem consistent_empty : Consistent {} where
  articleKeys := List.nodup_nil
  versionKeys := List.nodup_nil
  labels := List.nodup_nil
  current := fun _ h => absurd h List.not_mem_nil
  ofArticle := fun _ h => absurd h List.not_mem_nil
  sourced := fun _ h => absurd h List.not_mem_nil
  ofVersion := fun _ h => absurd h List.not_mem_nil

/-- A list grows by an element whose image is new. -/
theorem nodup_map_append {α β : Type*} {f : α → β} {l : List α} {a : α} (h : (l.map f).Nodup)
    (hfresh : ∀ b ∈ l, f b ≠ f a) : ((l ++ [a]).map f).Nodup := by
  rw [List.map_append, List.map_singleton, List.nodup_append]
  refine ⟨h, List.nodup_singleton _, ?_⟩
  intro image himage other hother hsame
  obtain ⟨b, hb, rfl⟩ := List.mem_map.mp himage
  exact hfresh b hb (hsame.trans (List.mem_singleton.mp hother))

section Step

variable {records : List KnowledgeBaseArticleRecord} {version : ArticleVersionRow}
variable {refreshed : KnowledgeBaseSourceVersionEvidence}

theorem Wrote.versionKey (h : Wrote repository tables write article tables' records version
    refreshed) : (SourceEvidenceRow.mk refreshed write.now write.auditChainRef).versionKey =
      version.key := by
  obtain ⟨hkey, -⟩ := articleVersionRow_eq_some h.row
  rw [hkey, SourceEvidenceRow.versionKey, refreshedSourceEvidence_eq_ok h.approved,
    h.namesApproved.version, show article.tenantId = write.tenantId from
      congrArg Prod.fst h.namesApproved.key]
  rfl

/-- No evidence is there for the new version. -/
theorem Wrote.noEvidence (h : Wrote repository tables write article tables' records version
    refreshed) (htables : Consistent tables) :
    ∀ row ∈ tables.sourceVersionEvidence, row.versionKey ≠ version.key := by
  intro row hrow hsame
  obtain ⟨other, hother, hkey⟩ := List.mem_map.mp (htables.ofVersion row hrow)
  exact h.fresh other hother (.inl (hkey.trans hsame))

theorem Wrote.isSourcedBy (h : Wrote repository tables write article tables' records version
    refreshed) : IsSourcedBy version refreshed := by
  obtain ⟨-, -, harticle, -, hsource, hcontent⟩ := articleVersionRow_eq_some h.row
  have happroved := h.namesApproved
  have hevidence := refreshedSourceEvidence_eq_ok h.approved
  constructor
  · rw [harticle, hevidence, show article.objectId = write.evidence.articleObjectId from
      congrArg Prod.snd happroved.key]
    rfl
  · rw [hsource, sourceObjectVersionRef, happroved.sourceObject, happroved.sourceVersion, hevidence]
    rfl
  · rw [hcontent, happroved.contentHash, hevidence]
    rfl

/-- The rows after the write: those before, the written one naming the new version. -/
theorem Wrote.rows (h : Wrote repository tables write article tables' records version refreshed)
    (htables : Consistent tables) :
    (tables'.articles.map (·.key)).Nodup ∧
      (∀ key ∈ tables.articles.map (·.key), key ∈ tables'.articles.map (·.key)) ∧
      ∀ row' ∈ tables'.articles, row' ∈ tables.articles ∨ IsCurrent row' version := by
  have hversion := articleVersionRow_eq_some h.row
  obtain ⟨hkey, htenant, hobject, hlabel, -⟩ := hversion
  have harticles := h.articles
  unfold ArticlesAfter at harticles
  split at harticles
  · obtain ⟨row, hrow, hfree, hafter⟩ := harticles
    obtain ⟨-, hrowTenant, hrowObject, hcurrent, hcurrentLabel⟩ := articleRow_eq_some hrow
    rw [hafter]
    refine ⟨nodup_map_append htables.articleKeys fun other hother hsame =>
      hfree other hother (.inl hsame), fun key hmem => ?_, fun row' hrow' => ?_⟩
    · rw [List.map_append]
      exact List.mem_append_left _ hmem
    · rcases List.mem_append.mp hrow' with hold | hnew
      · exact .inl hold
      · rw [List.mem_singleton.mp hnew]
        right
        refine { key := ?_, article := ?_, label := ?_ }
        · rw [hkey, hrowTenant, hcurrent]
        · rw [hobject, hrowObject]
        · rw [hlabel, hcurrentLabel]
  · obtain ⟨publishedAtUtc, -, hafter⟩ := harticles
    have hkeys : tables'.articles.map (·.key) = tables.articles.map (·.key) := by
      rw [hafter, map_key_currentVersionSet]
    refine ⟨hkeys ▸ htables.articleKeys, fun key hmem => hkeys ▸ hmem, fun row' hrow' => ?_⟩
    rw [hafter] at hrow'
    obtain ⟨row, hrow, rfl⟩ := List.mem_map.mp hrow'
    unfold currentVersionSet
    split
    · rename_i hsame
      obtain ⟨hsameTenant, hsameObject⟩ := Prod.mk.inj hsame
      right
      refine { key := ?_, article := ?_, label := hlabel }
      · rw [hkey]
        exact Prod.ext hsameTenant.symm rfl
      · rw [hobject]
        exact hsameObject.symm
    · exact .inl hrow

/-- **A write** keeps the tables consistent. -/
theorem Wrote.consistent (h : Wrote repository tables write article tables' records version
    refreshed) (htables : Consistent tables) : Consistent tables' := by
  obtain ⟨hkeys, hkept, hrows⟩ := h.rows htables
  have hnew : version ∈ tables'.articleVersions := by
    rw [h.versions]
    exact List.mem_append_right _ (List.mem_singleton_self version)
  have hold : ∀ other ∈ tables.articleVersions, other ∈ tables'.articleVersions := by
    intro other hother
    rw [h.versions]
    exact List.mem_append_left _ hother
  refine {
    articleKeys := hkeys
    versionKeys := ?_
    labels := ?_
    current := fun row hrow => ?_
    ofArticle := fun other hother => ?_
    sourced := fun other hother => ?_
    ofVersion := fun row hrow => ?_ }
  · rw [h.versions]
    exact nodup_map_append htables.versionKeys fun other hother hsame =>
      h.fresh other hother (.inl hsame)
  · rw [h.versions]
    exact nodup_map_append htables.labels fun other hother hsame =>
      h.fresh other hother (.inr hsame)
  · rcases hrows row hrow with hbefore | hcurrent
    · obtain ⟨other, hother, hcurrent⟩ := htables.current row hbefore
      exact ⟨other, hold other hother, hcurrent⟩
    · exact ⟨version, hnew, hcurrent⟩
  · rw [h.versions] at hother
    rcases List.mem_append.mp hother with hbefore | hlast
    · exact hkept _ (htables.ofArticle other hbefore)
    · rw [List.mem_singleton.mp hlast]
      exact h.ofArticle
  · rw [h.evidence, List.filter_append, List.filter_singleton, h.versionKey]
    rw [h.versions] at hother
    rcases List.mem_append.mp hother with hbefore | hlast
    · -- the new evidence is of another version
      have hne : version.key ≠ other.key := fun hsame => h.fresh other hbefore (.inl hsame.symm)
      obtain ⟨row, hfilter, hsourced⟩ := htables.sourced other hbefore
      refine ⟨row, ?_, hsourced⟩
      rw [hfilter, decide_eq_false hne, cond_false, List.append_nil]
    · obtain rfl := List.mem_singleton.mp hlast
      refine ⟨⟨refreshed, write.now, write.auditChainRef⟩, ?_, h.isSourcedBy⟩
      have hnone : tables.sourceVersionEvidence.filter (·.versionKey = other.key) = [] :=
        List.filter_eq_nil_iff.mpr fun row hrow hsame =>
          h.noEvidence htables row hrow (of_decide_eq_true hsame)
      rw [hnone, decide_eq_true rfl, cond_true, List.nil_append]
  · rw [h.evidence] at hrow
    rcases List.mem_append.mp hrow with hbefore | hlast
    · obtain ⟨other, hother, hkey⟩ := List.mem_map.mp (htables.ofVersion row hbefore)
      exact List.mem_map.mpr ⟨other, hold other hother, hkey⟩
    · rw [List.mem_singleton.mp hlast, h.versionKey]
      exact List.mem_map_of_mem hnew

end Step

/-! ## Runs of writes -/

/-- A write that raises leaves the tables; one that returns adds to them. -/
theorem step_cases (repository : PgKnowledgeBaseArticleRepository) (tables : PgArticleTables)
    (write : ArticleWrite) :
    (∃ exn, repository.perform write tables = (.error exn, tables) ∧
        repository.step tables write = tables) ∨
      ∃ article records version refreshed,
        repository.perform write tables = (.ok article, repository.step tables write) ∧
        Wrote repository tables write article (repository.step tables write) records version
          refreshed := by
  unfold step
  rcases hperform : repository.perform write tables with ⟨exn | article, tables'⟩
  · obtain rfl := Eff.state_of_transaction_error hperform
    exact .inl ⟨exn, rfl, rfl⟩
  · obtain ⟨records, version, refreshed, hwrote⟩ := perform_eq_ok hperform
    exact .inr ⟨article, records, version, refreshed, rfl, hwrote⟩

theorem consistent_step (htables : Consistent tables) (write : ArticleWrite) :
    Consistent (repository.step tables write) := by
  rcases step_cases repository tables write with ⟨_, -, hsame⟩ | ⟨_, _, _, _, -, hwrote⟩
  · rw [hsame]
    exact htables
  · exact hwrote.consistent htables

/-- Rows of the three tables without updates are there for good. -/
structure Keeps (tables tables' : PgArticleTables) : Prop where
  versions : tables.articleVersions <+: tables'.articleVersions
  evidence : tables.sourceVersionEvidence <+: tables'.sourceVersionEvidence
  restore  : tables.restoreEvidence <+: tables'.restoreEvidence

theorem keeps_step (tables : PgArticleTables) (write : ArticleWrite) :
    Keeps tables (repository.step tables write) := by
  rcases step_cases repository tables write with ⟨_, -, hsame⟩ | ⟨_, _, _, _, -, hwrote⟩
  · rw [hsame]
    exact ⟨List.prefix_refl _, List.prefix_refl _, List.prefix_refl _⟩
  · obtain ⟨row, hrestore⟩ := hwrote.restore
    exact ⟨hwrote.versions ▸ List.prefix_append _ _, hwrote.evidence ▸ List.prefix_append _ _,
      hrestore ▸ List.prefix_append _ _⟩

theorem keeps_run (tables : PgArticleTables) (writes : List ArticleWrite) :
    Keeps tables (Runs.run repository.step tables writes) := by
  induction writes generalizing tables with
  | nil => exact ⟨List.prefix_refl _, List.prefix_refl _, List.prefix_refl _⟩
  | cons write writes ih =>
    rw [Runs.run_cons]
    have hfirst := @keeps_step repository tables write
    have hrest := ih (repository.step tables write)
    exact ⟨hfirst.versions.trans hrest.versions, hfirst.evidence.trans hrest.evidence,
      hfirst.restore.trans hrest.restore⟩

theorem consistent_of_run (htables : Consistent tables) (writes : List ArticleWrite) :
    Consistent (Runs.run repository.step tables writes) := by
  induction writes generalizing tables with
  | nil => exact htables
  | cons write writes ih => exact ih (consistent_step htables write)

/-- **The history of versions.** After every run of writes the tables are consistent, and every
version, its evidence and the restore evidence are there in every later state. -/
theorem consistent_run (repository : PgKnowledgeBaseArticleRepository)
    (writes later : List ArticleWrite) :
    Consistent (Runs.run repository.step {} writes) ∧
      Keeps (Runs.run repository.step {} writes)
        (Runs.run repository.step {} (writes ++ later)) := by
  rw [Runs.run_append]
  exact ⟨consistent_of_run consistent_empty writes, keeps_run _ later⟩

end PgKnowledgeBaseArticleRepository

end Collabio
