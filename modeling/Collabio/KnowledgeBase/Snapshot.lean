import Mathlib.Tactic
import Collabio.KnowledgeBase.EvidenceSpec
import Collabio.KnowledgeBase.ExecuteWrite

/-!
# What the operations read

* `records`, `currentEvidenceOf` — the articles of a tenant and the evidence over them, as
  functions of a state; the programs of the service compute these and change nothing;
* `records_perm`     — the order in which a repository lists its articles does not count;
* `CurrentVersions`  — the article versions of a tenant, each with its source evidence;
* `currentVersions_eq` — two states with one restore hash have the same.
-/

namespace Collabio

open KnowledgeBaseWorld

namespace KnowledgeBaseArticleService

variable (service : KnowledgeBaseArticleService)

/-! ## The reading programs as functions -/

def records (articles : InMemoryKnowledgeBaseArticleRepository) (tenantId : String) :
    List KnowledgeBaseArticleRecord :=
  (articles.listArticles tenantId).insertionSort service.ByTitle

def sourceVersionEvidenceOf (sources : InMemorySourceObjectRepository)
    (article : KnowledgeBaseArticleRecord) : Except Exn KnowledgeBaseSourceVersionEvidence := do
  let sourceRecord ← sources.get article.tenantId article.currentSourceObjectId
    article.currentSourceVersionId
  buildKnowledgeBaseSourceVersionEvidence service.hashes article sourceRecord

def currentEvidenceOf (sources : InMemorySourceObjectRepository) (tenantId : String)
    (records : List KnowledgeBaseArticleRecord) :
    Except Exn (List KnowledgeBaseSourceVersionEvidence × KnowledgeBaseRestoreEvidence) := do
  let sourceEvidences ← records.mapM (service.sourceVersionEvidenceOf sources)
  let restoreEvidence ← buildKnowledgeBaseRestoreEvidence service.hashes tenantId records
    sourceEvidences (service.restoreDrillReportHash tenantId)
    "audit:knowledge-base-restore-evidence"
  return (sourceEvidences, restoreEvidence)

variable {service}

theorem run_listRecords (tenantId : String) (world : KnowledgeBaseWorld) :
    (service.listRecords tenantId).run world =
      (.ok (service.records world.articles tenantId), world) := rfl

theorem run_sourceVersionEvidence (article : KnowledgeBaseArticleRecord)
    (world : KnowledgeBaseWorld) :
    (service.sourceVersionEvidence article).run world =
      (service.sourceVersionEvidenceOf world.sources article, world) := by
  unfold sourceVersionEvidence sourceVersionEvidenceOf getSource
  rw [Prog.run_read_bind]
  cases world.sources.get article.tenantId article.currentSourceObjectId
    article.currentSourceVersionId <;> rfl

theorem run_currentEvidence (tenantId : String) (articles : List KnowledgeBaseArticleRecord)
    (world : KnowledgeBaseWorld) :
    (service.currentEvidence tenantId articles).run world =
      (service.currentEvidenceOf world.sources tenantId articles, world) := by
  have hmap := Prog.run_mapM_of_run (f := service.sourceVersionEvidence)
    (g := service.sourceVersionEvidenceOf world.sources) (s := world) (l := articles)
    fun article _ => run_sourceVersionEvidence article world
  unfold currentEvidence currentEvidenceOf
  cases hevidences : articles.mapM (service.sourceVersionEvidenceOf world.sources) with
  | error exn =>
    rw [hevidences] at hmap
    exact Prog.run_bind_of_error hmap
  | ok sourceEvidences =>
    rw [hevidences] at hmap
    rw [Prog.run_bind_of_ok hmap, Prog.run_lift_bind]
    cases hrestore : buildKnowledgeBaseRestoreEvidence service.hashes tenantId articles
        sourceEvidences (service.restoreDrillReportHash tenantId)
        "audit:knowledge-base-restore-evidence" <;> simp [hrestore, bind, Except.bind, pure,
          Except.pure]

/-! ## The articles of a tenant -/

theorem mem_records {articles : InMemoryKnowledgeBaseArticleRepository} {tenantId : String}
    {article : KnowledgeBaseArticleRecord} :
    article ∈ service.records articles tenantId ↔
      article ∈ articles.articles ∧ article.tenantId = tenantId := by
  rw [records, List.mem_insertionSort, InMemoryKnowledgeBaseArticleRepository.listArticles,
    List.mem_filter, decide_eq_true_eq]

/-- An article id occurs once. -/
theorem eq_of_objectId {articles : InMemoryKnowledgeBaseArticleRepository} {tenantId : String}
    {a b : KnowledgeBaseArticleRecord} (ha : a ∈ service.records articles tenantId)
    (hb : b ∈ service.records articles tenantId) (h : a.objectId = b.objectId) : a = b := by
  obtain ⟨ha, hatenant⟩ := mem_records.mp ha
  obtain ⟨hb, hbtenant⟩ := mem_records.mp hb
  refine List.inj_on_of_nodup_map articles.nodup ha hb ?_
  rw [KnowledgeBaseArticleRecord.key, KnowledgeBaseArticleRecord.key, hatenant, hbtenant, h]

theorem nodup_records (articles : InMemoryKnowledgeBaseArticleRepository) (tenantId : String) :
    (service.records articles tenantId).Nodup := by
  rw [records, (List.perm_insertionSort _ _).nodup_iff]
  exact (List.Nodup.of_map _ articles.nodup).filter _

instance : Std.Total service.ByTitle :=
  ⟨fun a b => le_total (service.titleKey a) (service.titleKey b)⟩

instance : IsTrans KnowledgeBaseArticleRecord service.ByTitle :=
  ⟨fun _ _ _ => le_trans (α := String ×ₗ String)⟩

/-- **The order of listing does not count.** -/
theorem records_perm {articles articles' : InMemoryKnowledgeBaseArticleRepository}
    (h : articles.articles.Perm articles'.articles) (tenantId : String) :
    service.records articles tenantId = service.records articles' tenantId := by
  have hperm : (service.records articles tenantId).Perm (service.records articles' tenantId) :=
    ((List.perm_insertionSort _ _).trans (h.filter _)).trans (List.perm_insertionSort _ _).symm
  refine List.Perm.eq_of_pairwise ?_ (List.pairwise_insertionSort _ _)
    (List.pairwise_insertionSort _ _) hperm
  intro a b ha hb hab hba
  -- equal keys are equal ids
  have hkey : service.titleKey a = service.titleKey b := le_antisymm hab hba
  exact eq_of_objectId ha (hperm.mem_iff.mpr hb) (congrArg (fun key => (ofLex key).2) hkey)

/-- A found article is the one with this id. -/
theorem findArticle_eq_some {articles : InMemoryKnowledgeBaseArticleRepository}
    {tenantId objectId : String} {article : KnowledgeBaseArticleRecord} :
    findArticle (service.records articles tenantId) objectId = some article ↔
      article ∈ service.records articles tenantId ∧ article.objectId = objectId := by
  unfold findArticle
  constructor
  · intro h
    have hmem := List.mem_of_find?_eq_some h
    rw [List.mem_reverse] at hmem
    have hid := List.find?_some h
    exact ⟨hmem, by simpa using hid⟩
  · rintro ⟨hmem, hid⟩
    cases hfind : (service.records articles tenantId).reverse.find? fun article =>
        article.objectId = objectId with
    | none =>
      have := List.find?_eq_none.mp hfind article (List.mem_reverse.mpr hmem)
      simp [hid] at this
    | some found =>
      have hfound := List.mem_of_find?_eq_some hfind
      have hfoundId := List.find?_some hfind
      rw [eq_of_objectId (List.mem_reverse.mp hfound) hmem (by simpa [hid] using hfoundId)]

theorem findArticle_eq_none {articles : InMemoryKnowledgeBaseArticleRepository}
    {tenantId objectId : String} :
    findArticle (service.records articles tenantId) objectId = none ↔
      ∀ article ∈ service.records articles tenantId, article.objectId ≠ objectId := by
  unfold findArticle
  rw [List.find?_eq_none]
  simp

/-! ## The evidence over them -/

/-- The key of the source that an article names. -/
def currentSourceKey (article : KnowledgeBaseArticleRecord) : VersionKey :=
  (article.tenantId, article.currentSourceObjectId, article.currentSourceVersionId)

section Evidence

variable {sources : InMemorySourceObjectRepository} {tenantId : String}

theorem sourceVersionEvidenceOf_eq_ok {article : KnowledgeBaseArticleRecord}
    {evidence : KnowledgeBaseSourceVersionEvidence} :
    service.sourceVersionEvidenceOf sources article = .ok evidence ↔
      ∃ sourceRecord, sources.records.get? (currentSourceKey article) = some sourceRecord ∧
        sourceVersionMismatches service.hashes article sourceRecord = [] ∧
        (sourceVersionDraft article.tenantId article.objectId article.currentVersionObjectId
          sourceRecord.metadata).sealed service.hashes = .ok evidence := by
  unfold sourceVersionEvidenceOf
  rw [Except.bind_eq_ok]
  simp only [InMemorySourceObjectRepository.get_eq_ok,
    buildKnowledgeBaseSourceVersionEvidence_eq_ok]
  rfl

/-- What an evidence says of its article. -/
structure IsEvidenceOf (H : HashFunctions) (article : KnowledgeBaseArticleRecord)
    (evidence : KnowledgeBaseSourceVersionEvidence) : Prop where
  tenantId  : evidence.tenantId = article.tenantId
  objectId  : evidence.articleObjectId = article.objectId
  versionId : evidence.articleVersionObjectId = article.currentVersionObjectId
  sourceKey : (evidence.tenantId, evidence.sourceObjectId, evidence.sourceVersionId) =
                currentSourceKey article
  isSealed  : evidence.IsSealed H

theorem isEvidenceOf {article : KnowledgeBaseArticleRecord}
    {evidence : KnowledgeBaseSourceVersionEvidence}
    (h : service.sourceVersionEvidenceOf sources article = .ok evidence) :
    IsEvidenceOf service.hashes article evidence := by
  obtain ⟨sourceRecord, -, hagree, hsealed⟩ := sourceVersionEvidenceOf_eq_ok.mp h
  obtain ⟨-, hobject, hversion, -⟩ := sourceVersionMismatches_eq_nil.mp hagree
  obtain ⟨-, rfl⟩ := KnowledgeBaseSourceVersionEvidence.sealed_eq_ok.mp hsealed
  refine ⟨rfl, rfl, rfl, ?_, rfl⟩
  rw [currentSourceKey, ← hobject, ← hversion]
  rfl

theorem currentEvidenceOf_eq_ok {articles : List KnowledgeBaseArticleRecord}
    {sourceEvidences : List KnowledgeBaseSourceVersionEvidence}
    {restoreEvidence : KnowledgeBaseRestoreEvidence} :
    service.currentEvidenceOf sources tenantId articles = .ok (sourceEvidences, restoreEvidence) ↔
      articles.mapM (service.sourceVersionEvidenceOf sources) = .ok sourceEvidences ∧
        buildKnowledgeBaseRestoreEvidence service.hashes tenantId articles sourceEvidences
          (service.restoreDrillReportHash tenantId) "audit:knowledge-base-restore-evidence" =
            .ok restoreEvidence := by
  unfold currentEvidenceOf
  rw [Except.bind_eq_ok]
  constructor
  · rintro ⟨_, hevidences, h⟩
    obtain ⟨_, hrestore, h⟩ := Except.bind_eq_ok.mp h
    cases h
    exact ⟨hevidences, hrestore⟩
  · rintro ⟨hevidences, hrestore⟩
    exact ⟨_, hevidences, Except.bind_eq_ok.mpr ⟨_, hrestore, rfl⟩⟩

/-- What is read together is a snapshot. -/
theorem snapshot_of_currentEvidence {articles : List KnowledgeBaseArticleRecord}
    {sourceEvidences : List KnowledgeBaseSourceVersionEvidence}
    {restoreEvidence : KnowledgeBaseRestoreEvidence}
    (h : service.currentEvidenceOf sources tenantId articles =
      .ok (sourceEvidences, restoreEvidence)) :
    Snapshot service.hashes sourceEvidences restoreEvidence := by
  obtain ⟨hevidences, hrestore⟩ := currentEvidenceOf_eq_ok.mp h
  obtain ⟨-, hsealed⟩ := buildKnowledgeBaseRestoreEvidence_eq_ok.mp hrestore
  obtain ⟨-, -, rfl⟩ := KnowledgeBaseRestoreEvidence.sealed_eq_ok.mp hsealed
  refine ⟨?_, rfl, rfl⟩
  intro evidence hmem
  obtain ⟨article, -, hevidence⟩ := Except.mem_of_mem_mapM hevidences hmem
  exact (isEvidenceOf hevidence).isSealed

end Evidence

/-! ## Current versions -/

variable (service) in
/-- Article, current version and source-version evidence of all articles of a tenant. -/
def CurrentVersions (world : KnowledgeBaseWorld) (tenantId : String) :
    Set (String × String × KnowledgeBaseSourceVersionEvidence) :=
  {version | ∃ article ∈ world.articles.articles, article.tenantId = tenantId ∧
    version.1 = article.objectId ∧ version.2.1 = article.currentVersionObjectId ∧
    service.sourceVersionEvidenceOf world.sources article = .ok version.2.2}

variable (service) in
/-- The evidences of a tenant and the restore evidence over them, at a state. -/
def Reads (world : KnowledgeBaseWorld) (tenantId : String)
    (sourceEvidences : List KnowledgeBaseSourceVersionEvidence)
    (restoreEvidence : KnowledgeBaseRestoreEvidence) : Prop :=
  service.currentEvidenceOf world.sources tenantId (service.records world.articles tenantId) =
    .ok (sourceEvidences, restoreEvidence)

section CurrentVersions

variable {world world' : KnowledgeBaseWorld} {tenantId : String}
  {sourceEvidences sourceEvidences' : List KnowledgeBaseSourceVersionEvidence}
  {restoreEvidence restoreEvidence' : KnowledgeBaseRestoreEvidence}

theorem mem_currentVersions (h : service.Reads world tenantId sourceEvidences restoreEvidence)
    {version : String × String × KnowledgeBaseSourceVersionEvidence} :
    version ∈ service.CurrentVersions world tenantId ↔
      ∃ evidence ∈ sourceEvidences,
        version = (evidence.articleObjectId, evidence.articleVersionObjectId, evidence) := by
  obtain ⟨hevidences, -⟩ := currentEvidenceOf_eq_ok.mp h
  constructor
  · rintro ⟨article, hmem, htenant, harticle, hversion, hevidence⟩
    obtain ⟨evidence, hmem, hok⟩ := Except.mem_mapM_of_mem hevidences
      (mem_records.mpr ⟨hmem, htenant⟩)
    have hsame : evidence = version.2.2 := Except.ok.inj (hok.symm.trans hevidence)
    have hof := isEvidenceOf hok
    refine ⟨evidence, hmem, ?_⟩
    rw [hof.objectId, hof.versionId, ← harticle, ← hversion, hsame]
  · rintro ⟨evidence, hmem, rfl⟩
    obtain ⟨article, hmem, hok⟩ := Except.mem_of_mem_mapM hevidences hmem
    obtain ⟨hmem, htenant⟩ := mem_records.mp hmem
    have hof := isEvidenceOf hok
    exact ⟨article, hmem, htenant, hof.objectId, hof.versionId, hok⟩

theorem currentVersions_eq (h : service.Reads world tenantId sourceEvidences restoreEvidence)
    (h' : service.Reads world' tenantId sourceEvidences' restoreEvidence')
    (hperm : sourceEvidences.Perm sourceEvidences') :
    service.CurrentVersions world tenantId = service.CurrentVersions world' tenantId := by
  ext version
  rw [mem_currentVersions h, mem_currentVersions h']
  simp only [hperm.mem_iff]

/-- **A read depends on the articles as a set**: how they are listed does not count. -/
theorem reads_perm (hsources : world.sources = world'.sources)
    (harticles : world.articles.articles.Perm world'.articles.articles) :
    service.Reads world tenantId sourceEvidences restoreEvidence ↔
      service.Reads world' tenantId sourceEvidences restoreEvidence := by
  rw [Reads, Reads, hsources, records_perm harticles]

end CurrentVersions

end KnowledgeBaseArticleService

end Collabio
