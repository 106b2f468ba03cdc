import Mathlib.Tactic
import Collabio.KnowledgeBase.ApprovalsSpec
import Collabio.KnowledgeBase.WrittenArticles
import Collabio.KnowledgeBase.PgArticleVersions

/-!
# The tables and the articles in memory

`PgKnowledgeBaseArticleRepository` beside `InMemoryKnowledgeBaseArticleRepository`. The tables are
stricter: version ids and labels are used once, and every text must fit its column. Times come back
in another form, and an update is dated by the server.

* `Reads`       — a row reads as the article in memory, but for its times;
* `Simulates`   — row by row, with consistent tables;
* `listing_run` — after every run, the listing of the tables is that of the memory to which the
  same writes went, less those that the tables refused.
-/

namespace Collabio

open Datetime PgSourceObjectWriteReceiptStore

/-- An article without its times. -/
def KnowledgeBaseArticleFields.timeless (article : KnowledgeBaseArticleFields) :
    KnowledgeBaseArticleFields :=
  { article with
    createdAtUtc := "-"
    updatedAtUtc := "-"
    publishedAtUtc := article.publishedAtUtc.map fun _ => "-" }

def KnowledgeBaseArticleRecord.timeless (article : KnowledgeBaseArticleRecord) :
    KnowledgeBaseArticleFields :=
  article.toKnowledgeBaseArticleFields.timeless

namespace PgKnowledgeBaseArticleRepository

/-- What the caller of a write promises: evidence that its model has checked, and a reference for
the audit chain. -/
structure WellFormed (write : ArticleWrite) : Prop where
  evidence : write.evidence.errors = []
  safety   : write.evidence.requireApprovalLedgerSafety = .ok ()
  auditRef : isKbRef write.auditChainRef = true

theorem WellFormed.sourceIsVersion {write : ArticleWrite} (h : WellFormed write) :
    write.evidence.proposedSourceObjectId = write.evidence.proposedVersionObjectId := by
  have hsafety := h.safety
  unfold KnowledgeBaseWriteApprovalEvidence.requireApprovalLedgerSafety requireModel at hsafety
  exact (require_bind_eq_ok.mp hsafety).1

/-- The row reads as this article, but for the times. -/
def Reads (tables : PgArticleTables) (row : ArticleRow) (article : KnowledgeBaseArticleRecord) :
    Prop :=
  ∃ record, articleFromRow tables row = .ok record ∧ record.timeless = article.timeless

/-- The rows read as the articles. -/
structure Simulates (tables : PgArticleTables) (memory : InMemoryKnowledgeBaseArticleRepository) :
    Prop where
  consistent : Consistent tables
  reads      : List.Forall₂ (Reads tables) tables.articles memory.articles

/-- The same write in memory. -/
def inMemory (write : ArticleWrite) :
    Eff Exn InMemoryKnowledgeBaseArticleRepository KnowledgeBaseArticleRecord :=
  InMemoryKnowledgeBaseArticleRepository.applyWrite write.tenantId write.evidence
    write.sourceRecord write.auditChainRef

def stepInMemory (memory : InMemoryKnowledgeBaseArticleRepository) (write : ArticleWrite) :
    InMemoryKnowledgeBaseArticleRepository := (inMemory write memory).2

variable (repository : PgKnowledgeBaseArticleRepository)

/-- The writes of a run that the tables have taken. -/
def taken (tables : PgArticleTables) : List ArticleWrite → List ArticleWrite
  | [] => []
  | write :: writes =>
    (if (repository.perform write tables).1.isOk then [write] else []) ++
      taken (repository.step tables write) writes

variable {repository} {tables tables' : PgArticleTables} {article : KnowledgeBaseArticleRecord}
variable {memory : InMemoryKnowledgeBaseArticleRepository} {write : ArticleWrite}

/-! ## Valid articles -/

/-- What the model checks of an article. -/
def Valid (article : KnowledgeBaseArticleFields) : Prop :=
  article.errors = [] ∧ article.requireStatusLifecycleAlignment = .ok ()

theorem alignment_eq_ok {article : KnowledgeBaseArticleFields} :
    article.requireStatusLifecycleAlignment = .ok () ↔
      ¬ (article.status = .restricted ∧ article.lifecycleState ≠ .restricted) ∧
      ¬ (article.status = .published ∧ article.publishedAtUtc = none) ∧
      article.currentSourceObjectId = article.currentVersionObjectId := by
  unfold KnowledgeBaseArticleFields.requireStatusLifecycleAlignment requireModel
  rw [require_bind_eq_ok, require_bind_eq_ok, require_eq_ok]

theorem timeless_publishedAtUtc_eq_none {article : KnowledgeBaseArticleFields} :
    article.timeless.publishedAtUtc = none ↔ article.publishedAtUtc = none := Option.map_eq_none_iff

/-- The checks are on the article without its times, and on the times. -/
theorem valid_iff_timeless {article : KnowledgeBaseArticleFields}
    (hcreated : Text.strip article.createdAtUtc ≠ "")
    (hupdated : Text.strip article.updatedAtUtc ≠ "") : Valid article ↔ Valid article.timeless := by
  have hdash : Text.strip "-" ≠ "" := by decide +kernel
  unfold Valid
  rw [alignment_eq_ok, alignment_eq_ok, timeless_publishedAtUtc_eq_none,
    KnowledgeBaseArticleFields.errors_eq_nil, KnowledgeBaseArticleFields.errors_eq_nil]
  simp only [KnowledgeBaseArticleFields.timeless, hcreated, hupdated, hdash, ne_eq,
    not_false_eq_true, true_and]

theorem Valid.timeless {article : KnowledgeBaseArticleFields} (h : Valid article) :
    Valid article.timeless := by
  obtain ⟨-, -, -, -, hcreated, hupdated, -⟩ := KnowledgeBaseArticleFields.errors_eq_nil.mp h.1
  exact (valid_iff_timeless hcreated hupdated).mp h

theorem strip_utcTimestamp_ne (t : DateTime) : Text.strip (utcTimestamp t) ≠ "" := by
  refine Text.strip_ne_empty (c := 'Z') ?_ (by decide)
  rw [utcTimestamp, String.toList_ofList]
  exact List.mem_append_right _ (List.mem_singleton_self 'Z')

/-- A row whose columns are, but for the times, those of a valid article. -/
theorem reads_of_latest {row : ArticleRow} {sourceEvidence : KnowledgeBaseSourceVersionEvidence}
    (hlatest : latestSourceEvidenceRow tables row.tenantId row.objectId
      row.currentVersionObjectId = .ok sourceEvidence)
    (hsame : (articleFields row sourceEvidence).timeless = article.timeless)
    (hvalid : Valid article.timeless) : Reads tables row article := by
  have hfields : Valid (articleFields row sourceEvidence) := by
    have hcreated : Text.strip (articleFields row sourceEvidence).createdAtUtc ≠ "" :=
      strip_utcTimestamp_ne row.createdAtUtc
    have hupdated : Text.strip (articleFields row sourceEvidence).updatedAtUtc ≠ "" :=
      strip_utcTimestamp_ne row.updatedAtUtc
    rw [valid_iff_timeless hcreated hupdated, hsame]
    exact hvalid
  refine ⟨{ articleFields row sourceEvidence with
    isInternal := KnowledgeBaseArticleRecord.isInternal_of_errors hfields.1
    holdIsKnown := KnowledgeBaseArticleRecord.holdIsKnown_of_errors hfields.1 }, ?_, hsame⟩
  exact Except.bind_eq_ok.mpr ⟨_, hlatest, KnowledgeBaseArticleRecord.validate_eq_ok.mpr
    ⟨hfields.1, hfields.2, rfl⟩⟩

theorem articleFromRow_eq_ok {row : ArticleRow} {record : KnowledgeBaseArticleRecord}
    (h : articleFromRow tables row = .ok record) : ∃ sourceEvidence,
      record.toKnowledgeBaseArticleFields = articleFields row sourceEvidence ∧
        Valid (articleFields row sourceEvidence) := by
  obtain ⟨sourceEvidence, -, h⟩ := Except.bind_eq_ok.mp h
  obtain ⟨herrors, halign, hfields⟩ := KnowledgeBaseArticleRecord.validate_eq_ok.mp h
  exact ⟨sourceEvidence, hfields, herrors, halign⟩

theorem key_of_read {row : ArticleRow} {record : KnowledgeBaseArticleRecord}
    (h : articleFromRow tables row = .ok record) : record.key = row.key := by
  obtain ⟨sourceEvidence, hfields, -⟩ := articleFromRow_eq_ok h
  rw [KnowledgeBaseArticleRecord.key, hfields]
  rfl

theorem key_of_timeless {a b : KnowledgeBaseArticleRecord} (h : a.timeless = b.timeless) :
    a.key = b.key := by
  have htenant : a.timeless.tenantId = b.timeless.tenantId := by rw [h]
  have hobject : a.timeless.objectId = b.timeless.objectId := by rw [h]
  exact Prod.ext htenant hobject

theorem Reads.key {row : ArticleRow} (h : Reads tables row article) : row.key = article.key := by
  obtain ⟨record, hread, hsame⟩ := h
  rw [← key_of_read hread, key_of_timeless hsame]

/-! ## The listing -/

/-- **The listing** of simulating tables returns, with the articles in memory. -/
theorem Simulates.listing (h : Simulates tables memory) {tenantId : String}
    (hsend : Sendable [tenantId]) : ∃ records,
      repository.listArticles tenantId tables = .ok records ∧
        (records.map (·.timeless)).Perm ((memory.listArticles tenantId).map (·.timeless)) := by
  have hfiltered : List.Forall₂ (Reads tables)
      (tables.articles.filter fun row => row.tenantId = tenantId) (memory.listArticles tenantId) :=
    List.rel_filter (fun row article hreads => by
      have htenant : row.tenantId = article.tenantId := congrArg Prod.fst hreads.key
      show decide (row.tenantId = tenantId) = true ↔ decide (article.tenantId = tenantId) = true
      rw [htenant]) h.reads
  obtain ⟨articles, hreads, hperm⟩ := List.perm_comp_forall₂
    (List.mergeSort_perm _ repository.before) hfiltered
  unfold listArticles
  rw [if_neg (not_not.mpr hsend)]
  suffices hrecords : ∀ rows : List ArticleRow, List.Forall₂ (Reads tables) rows articles →
      ∃ records, rows.mapM (articleFromRow tables) = .ok records ∧
        records.map (·.timeless) = articles.map (·.timeless) by
    obtain ⟨records, hlisted, hsame⟩ := hrecords _ hreads
    exact ⟨records, hlisted, hsame ▸ hperm.map _⟩
  clear hreads hperm
  intro rows hreads
  induction hreads with
  | nil => exact ⟨[], rfl, rfl⟩
  | cons hread _ ih =>
    obtain ⟨record, hrecord, hsame⟩ := hread
    obtain ⟨records, hlisted, hsames⟩ := ih
    refine ⟨record :: records, ?_, ?_⟩
    · rw [List.mapM_cons, hrecord, hlisted]
      rfl
    · rw [List.map_cons, List.map_cons, hsame, hsames]

theorem exists_row_of_listed {tenantId : String} {records : List KnowledgeBaseArticleRecord}
    (h : repository.listArticles tenantId tables = .ok records)
    {record : KnowledgeBaseArticleRecord} (hrecord : record ∈ records) :
    ∃ row ∈ tables.articles, articleFromRow tables row = .ok record := by
  unfold listArticles at h
  split at h
  · cases h
  obtain ⟨row, hrow, hread⟩ := Except.mem_of_mem_mapM h hrecord
  rw [List.mem_mergeSort, List.mem_filter] at hrow
  exact ⟨row, hrow.1, hread⟩

theorem sendable_of_listed {tenantId : String} {records : List KnowledgeBaseArticleRecord}
    (h : repository.listArticles tenantId tables = .ok records) : Sendable [tenantId] := by
  unfold listArticles at h
  split at h
  · cases h
  · rename_i hsend
    exact not_not.mp hsend

/-- The articles in memory and the listed records are the same, but for the times. -/
theorem Simulates.listed (h : Simulates tables memory) {tenantId : String}
    {records : List KnowledgeBaseArticleRecord}
    (hlisted : repository.listArticles tenantId tables = .ok records) :
    (∀ record ∈ records, ∃ article ∈ memory.articles, record.timeless = article.timeless) ∧
      ∀ article ∈ memory.articles, article.tenantId = tenantId →
        ∃ record ∈ records, record.timeless = article.timeless := by
  obtain ⟨records', hlisted', hperm⟩ := h.listing (sendable_of_listed hlisted)
  obtain rfl := Except.ok.inj (hlisted.symm.trans hlisted')
  constructor
  · intro record hrecord
    obtain ⟨article, harticle, hsame⟩ := List.mem_map.mp
      (hperm.subset (List.mem_map_of_mem hrecord))
    exact ⟨article, (List.mem_filter.mp harticle).1, hsame.symm⟩
  · intro article harticle htenant
    have hthere : article ∈ memory.listArticles tenantId :=
      List.mem_filter.mpr ⟨harticle, decide_eq_true htenant⟩
    obtain ⟨record, hrecord, hsame⟩ := List.mem_map.mp
      (hperm.symm.subset (List.mem_map_of_mem hthere))
    exact ⟨record, hrecord, hsame⟩

/-! ## One write -/

section Step

variable {records : List KnowledgeBaseArticleRecord} {version : ArticleVersionRow}
variable {refreshed : KnowledgeBaseSourceVersionEvidence}

/-- Rows of other versions read as before. -/
theorem Wrote.articleFromRow_of_ne (h : Wrote repository tables write article tables' records
    version refreshed) {row : ArticleRow}
    (hne : (row.tenantId, row.currentVersionObjectId) ≠ version.key) :
    articleFromRow tables' row = articleFromRow tables row := by
  have hother : ¬ (refreshed.tenantId = row.tenantId ∧ refreshed.articleObjectId = row.objectId ∧
      refreshed.articleVersionObjectId = row.currentVersionObjectId) := by
    rintro ⟨htenant, -, hversion⟩
    refine hne ?_
    rw [← h.versionKey, SourceEvidenceRow.versionKey, htenant, hversion]
  unfold articleFromRow latestSourceEvidenceRow
  rw [h.evidence, List.filter_append, List.filter_singleton]
  simp only [hother, decide_false, cond_false, List.append_nil]

/-- The new version has the new evidence. -/
theorem Wrote.latest (h : Wrote repository tables write article tables' records version refreshed)
    (htables : Consistent tables) : latestSourceEvidenceRow tables' article.tenantId
      article.objectId article.currentVersionObjectId = .ok refreshed := by
  obtain ⟨hkey, -⟩ := articleVersionRow_eq_some h.row
  have happroved := h.namesApproved
  obtain ⟨htenant, hobject⟩ := Prod.mk.inj happroved.key
  have hevidence := refreshedSourceEvidence_eq_ok h.approved
  have hnew : refreshed.tenantId = article.tenantId ∧ refreshed.articleObjectId = article.objectId ∧
      refreshed.articleVersionObjectId = article.currentVersionObjectId := by
    rw [hevidence, htenant, hobject, happroved.version]
    exact ⟨rfl, rfl, rfl⟩
  have hnone : (tables.sourceVersionEvidence.filter fun row =>
      row.evidence.tenantId = article.tenantId ∧ row.evidence.articleObjectId = article.objectId ∧
        row.evidence.articleVersionObjectId = article.currentVersionObjectId) = [] := by
    refine List.filter_eq_nil_iff.mpr fun row hrow hsame => ?_
    obtain ⟨hrowTenant, -, hrowVersion⟩ := of_decide_eq_true hsame
    refine h.noEvidence htables row hrow ?_
    rw [hkey, SourceEvidenceRow.versionKey, hrowTenant, hrowVersion]
  unfold latestSourceEvidenceRow
  rw [h.evidence, List.filter_append, hnone, List.filter_singleton, decide_eq_true hnew, cond_true,
    List.nil_append, List.mergeSort_singleton]
  rfl

/-- What a row's source columns are read from. -/
theorem Wrote.sourceFields (h : Wrote repository tables write article tables' records version
    refreshed) : refreshed.sourceObjectId = article.currentSourceObjectId ∧
      refreshed.sourceVersionId = article.currentSourceVersionId ∧
      refreshed.sourceObjectType = article.currentSourceObjectType ∧
      refreshed.sourceManifestHash = article.currentSourceManifestHash ∧
      refreshed.contentHash = article.currentContentHash ∧
      refreshed.aclVersion = article.currentAclVersion := by
  have happroved := h.namesApproved
  rw [refreshedSourceEvidence_eq_ok h.approved, happroved.sourceObject, happroved.sourceVersion,
    happroved.sourceType, happroved.manifestHash, happroved.contentHash, happroved.aclVersion]
  exact ⟨rfl, rfl, rfl, rfl, rfl, rfl⟩

/-- A time is stored if and only if there is one. -/
theorem map_of_mapM {β : Type} {f : String → Option β} {time : Option String} {stored : Option β}
    (h : time.mapM f = some stored) {γ : Type} (c : γ) :
    (stored.map fun _ => c) = time.map fun _ => c := by
  cases time with
  | none =>
    cases h
    rfl
  | some text =>
    obtain ⟨t, -, h⟩ := Option.map_eq_some_iff.mp h
    rw [← h]
    rfl

/-- **A created article** is read back. -/
theorem Wrote.reads_created (h : Wrote repository tables write article tables' records version
    refreshed) (htables : Consistent tables) {row : ArticleRow}
    (hrow : repository.articleRow article = some row) (hvalid : Valid article.timeless) :
    Reads tables' row article := by
  obtain ⟨hkey, htenant, hobject, hversion, -⟩ := articleRow_eq_some hrow
  refine @reads_of_latest tables' article _ refreshed ?_ ?_ hvalid
  · rw [htenant, hobject, hversion]
    exact h.latest htables
  · obtain ⟨hsource, hsourceVersion, htype, hmanifest, hcontent, hacl⟩ := h.sourceFields
    obtain ⟨createdAtUtc, -, hrow⟩ := Option.bind_eq_some_iff.mp hrow
    obtain ⟨updatedAtUtc, -, hrow⟩ := Option.bind_eq_some_iff.mp hrow
    obtain ⟨publishedAtUtc, hpublished, hrow⟩ := Option.bind_eq_some_iff.mp hrow
    cases hrow
    have hsame := map_of_mapM hpublished "-"
    unfold KnowledgeBaseArticleRecord.timeless KnowledgeBaseArticleFields.timeless articleFields
    simp only [hsource, hsourceVersion, htype, hmanifest, hcontent, hacl, Option.map_map,
      Function.comp_def, hsame]

/-- **An edited article** is read back from the updated row. -/
theorem Wrote.reads_edited (h : Wrote repository tables write article tables' records version
    refreshed) (htables : Consistent tables) {row : ArticleRow}
    {existing : KnowledgeBaseArticleRecord} (hread : articleFromRow tables row = .ok existing)
    {metadata : SourceObjectMetadata}
    (hedited : article = editedArticle write.evidence metadata existing write.auditChainRef)
    {publishedAtUtc : Option DateTime}
    (hpublished : article.publishedAtUtc.mapM repository.readTimestamp = some publishedAtUtc)
    (hvalid : Valid article.timeless) :
    Reads tables' (currentVersionSet article publishedAtUtc write.now row) article := by
  have hkey : row.key = article.key := by
    rw [← key_of_read hread, hedited]
    rfl
  obtain ⟨htenant, hobject⟩ := Prod.mk.inj hkey
  obtain ⟨before, hfields, -⟩ := articleFromRow_eq_ok hread
  unfold currentVersionSet
  rw [if_pos hkey]
  refine @reads_of_latest tables' article _ refreshed ?_ ?_ hvalid
  · rw [show row.tenantId = article.tenantId from htenant,
      show row.objectId = article.objectId from hobject]
    exact h.latest htables
  · obtain ⟨hsource, hsourceVersion, htype, hmanifest, hcontent, hacl⟩ := h.sourceFields
    have hsame := map_of_mapM hpublished "-"
    -- what the update leaves is what the edited article has kept
    have hkept : article.timeless = { (articleFields row before).timeless with
        publishedAtUtc := article.publishedAtUtc.map fun _ => "-"
        auditChainRef := article.auditChainRef
        currentVersionObjectId := article.currentVersionObjectId
        currentVersionLabel := article.currentVersionLabel
        currentSourceObjectId := article.currentSourceObjectId
        currentSourceVersionId := article.currentSourceVersionId
        currentSourceObjectType := article.currentSourceObjectType
        currentSourceManifestHash := article.currentSourceManifestHash
        currentContentHash := article.currentContentHash
        currentAclVersion := article.currentAclVersion
        status := article.status } := by
      rw [← hfields, hedited]
      rfl
    rw [hkept]
    unfold KnowledgeBaseArticleFields.timeless articleFields
    simp only [hsource, hsourceVersion, htype, hmanifest, hcontent, hacl, Option.map_map,
      Function.comp_def, hsame]

/-! The same write in memory. -/

theorem applyEdit_of_built {existing edited : KnowledgeBaseArticleRecord}
    (hmem : existing ∈ memory.articles)
    (hkey : existing.key = (write.tenantId, write.evidence.articleObjectId))
    (hbuilt : buildEditedArticleFromWriteEvidence write.tenantId write.evidence write.sourceRecord
      existing write.auditChainRef = .ok edited) :
    InMemoryKnowledgeBaseArticleRepository.applyEdit write.tenantId write.evidence
      write.sourceRecord write.auditChainRef memory = (.ok edited, memory.replace edited) := by
  have hfound : memory.articles.find? (fun article =>
      article.key = (write.tenantId, write.evidence.articleObjectId)) = some existing := by
    cases hfind : memory.articles.find? fun article =>
        article.key = (write.tenantId, write.evidence.articleObjectId) with
    | none =>
      have hnone := List.find?_eq_none.mp hfind existing hmem
      simp [hkey] at hnone
    | some found =>
      have hfoundKey : found.key = (write.tenantId, write.evidence.articleObjectId) := by
        simpa using List.find?_some hfind
      rw [List.inj_on_of_nodup_map memory.nodup (List.mem_of_find?_eq_some hfind) hmem
        (hfoundKey.trans hkey.symm)]
  unfold InMemoryKnowledgeBaseArticleRepository.applyEdit
  rw [hfound]
  dsimp only
  rw [hbuilt]

theorem applyCreate_of_built {created : KnowledgeBaseArticleRecord}
    (hfree : (write.tenantId, write.evidence.articleObjectId) ∉ memory.articles.map (·.key))
    (hnew : ¬ ∃ article ∈ memory.articles, article.tenantId = write.tenantId ∧
      article.articleKey = write.evidence.articleKey)
    (hbuilt : buildCreatedArticleFromWriteEvidence write.tenantId write.evidence
      write.sourceRecord write.auditChainRef = .ok created) :
    ∃ memory', InMemoryKnowledgeBaseArticleRepository.applyCreate write.tenantId write.evidence
        write.sourceRecord write.auditChainRef memory = (.ok created, memory') ∧
      memory'.articles = memory.articles ++ [created] := by
  unfold InMemoryKnowledgeBaseArticleRepository.applyCreate
  rw [dif_neg hfree, if_neg hnew]
  split
  · rename_i exn hexn
    rw [hbuilt] at hexn
    cases hexn
  · rename_i article harticle
    obtain rfl : article = created := Except.ok.inj (harticle.symm.trans hbuilt)
    exact ⟨_, rfl, rfl⟩

/-- An edit looks at the version and not at the times. -/
theorem built_of_timeless {existing other edited : KnowledgeBaseArticleRecord}
    (hsame : other.timeless = existing.timeless)
    (h : buildEditedArticleFromWriteEvidence write.tenantId write.evidence write.sourceRecord
      other write.auditChainRef = .ok edited) :
    ∃ metadata edited', edited = editedArticle write.evidence metadata other write.auditChainRef ∧
      requireSourceRecordMatchesWriteEvidence write.tenantId write.evidence write.sourceRecord =
        .ok metadata ∧
      buildEditedArticleFromWriteEvidence write.tenantId write.evidence write.sourceRecord existing
        write.auditChainRef = .ok edited' ∧ edited.timeless = edited'.timeless := by
  obtain ⟨metadata, hmetadata, h⟩ := Except.bind_eq_ok.mp h
  obtain ⟨hcurrent, h⟩ := require_bind_eq_ok.mp h
  cases h
  have hversion : other.timeless.currentVersionObjectId =
      existing.timeless.currentVersionObjectId := by rw [hsame]
  refine ⟨metadata, editedArticle write.evidence metadata existing write.auditChainRef, rfl,
    hmetadata, ?_, ?_⟩
  · refine Except.bind_eq_ok.mpr ⟨metadata, hmetadata, require_bind_eq_ok.mpr ⟨?_, rfl⟩⟩
    rw [← hcurrent]
    exact congrArg some hversion.symm
  · have hedited : ∀ article : KnowledgeBaseArticleRecord,
        (editedArticle write.evidence metadata article write.auditChainRef).timeless =
          { article.timeless with
            currentVersionObjectId := write.evidence.proposedVersionObjectId
            currentVersionLabel := write.evidence.proposedVersionLabel
            currentSourceObjectId := write.evidence.proposedSourceObjectId
            currentSourceVersionId := write.evidence.proposedSourceVersionId
            currentSourceObjectType := write.evidence.proposedSourceObjectType
            currentSourceManifestHash := metadata.manifestHash
            currentContentHash := metadata.contentHash
            currentAclVersion := metadata.aclVersion
            auditChainRef := write.auditChainRef } := fun _ => rfl
    rw [hedited, hedited, hsame]

/-- The edit of a valid article is valid. -/
theorem valid_of_edited (hwrite : WellFormed write) {existing : KnowledgeBaseArticleRecord}
    {metadata : SourceObjectMetadata} (hexisting : Valid existing.timeless)
    (hmetadata : requireSourceRecordMatchesWriteEvidence write.tenantId write.evidence
      write.sourceRecord = .ok metadata) :
    Valid (editedArticle write.evidence metadata existing write.auditChainRef).timeless := by
  unfold requireSourceRecordMatchesWriteEvidence at hmetadata
  simp only [require_bind_eq_ok] at hmetadata
  obtain ⟨-, -, -, -, hmanifest, hcontent, hacl, hsame⟩ := hmetadata
  obtain rfl := Except.ok.inj hsame
  obtain ⟨-, -, -, -, -, -, hversion, hlabel, hsource, hsourceVersion, hmanifestRef, hcontentRef,
    haclPositive, -⟩ := KnowledgeBaseWriteApprovalEvidence.errors_eq_nil.mp hwrite.evidence
  obtain ⟨herrors, halign⟩ := hexisting
  obtain ⟨htenant, hobject, howner, hcreator, hcreated, hupdated, hclass, hretention, hhold, hkms,
    -, hsystem, hkey, htitle, -⟩ := KnowledgeBaseArticleFields.errors_eq_nil.mp herrors
  obtain ⟨hrestricted, hpublished, -⟩ := alignment_eq_ok.mp halign
  refine ⟨KnowledgeBaseArticleFields.errors_eq_nil.mpr ⟨htenant, hobject, howner, hcreator,
    hcreated, hupdated, hclass, hretention, hhold, hkms, hwrite.auditRef, hsystem, hkey, htitle,
    hversion, hlabel, hsource, hsourceVersion, ?_, ?_, ?_⟩,
    alignment_eq_ok.mpr ⟨hrestricted, hpublished, hwrite.sourceIsVersion⟩⟩
  · show isKbRef write.sourceRecord.metadata.manifestHash = true
    rw [hmanifest]
    exact isKbRef_of_isSha256Ref hmanifestRef
  · show isKbRef write.sourceRecord.metadata.contentHash = true
    rw [hcontent]
    exact isKbRef_of_isSha256Ref hcontentRef
  · show 1 ≤ write.sourceRecord.metadata.aclVersion
    rw [hacl]
    exact haclPositive

/-- A listed record of an object, and the article in memory. -/
theorem Simulates.of_found (h : Simulates tables memory)
    (hlisted : repository.listArticles write.tenantId tables = .ok records)
    {existing : KnowledgeBaseArticleRecord}
    (hfound : KnowledgeBaseArticleService.findArticle records write.evidence.articleObjectId =
      some existing) :
    existing.key = (write.tenantId, write.evidence.articleObjectId) ∧ existing ∈ records ∧
      ∃ inMemory ∈ memory.articles, existing.timeless = inMemory.timeless := by
  have hmem : existing ∈ records := List.mem_reverse.mp (List.mem_of_find?_eq_some hfound)
  have hobject : existing.objectId = write.evidence.articleObjectId := by
    simpa using List.find?_some hfound
  exact ⟨Prod.ext (tenantId_of_listed hlisted existing hmem) hobject, hmem,
    (h.listed hlisted).1 existing hmem⟩

/-- The rows that a write leaves alone read as before. -/
theorem Wrote.reads_of_other (h : Wrote repository tables write article tables' records version
    refreshed) (htables : Consistent tables) {row : ArticleRow} (hrow : row ∈ tables.articles)
    {other : KnowledgeBaseArticleRecord} (hreads : Reads tables row other) :
    Reads tables' row other := by
  obtain ⟨record, hread, hsame⟩ := hreads
  refine ⟨record, ?_, hsame⟩
  rw [h.articleFromRow_of_ne ?_]
  · exact hread
  · obtain ⟨current, hcurrent, hnames⟩ := htables.current row hrow
    intro hclash
    exact h.fresh current hcurrent (.inl (hnames.key.trans hclash))

theorem forall₂_imp_of_mem {α β : Type*} {R S : α → β → Prop} {l : List α} {l' : List β}
    (h : List.Forall₂ R l l') (himp : ∀ a ∈ l, ∀ b ∈ l', R a b → S a b) : List.Forall₂ S l l' := by
  induction h with
  | nil => exact .nil
  | cons hR _ ih =>
    refine .cons (himp _ List.mem_cons_self _ List.mem_cons_self hR) (ih fun a ha b hb => ?_)
    exact himp a (List.mem_cons_of_mem _ ha) b (List.mem_cons_of_mem _ hb)

theorem Simulates.created (h : Simulates tables memory)
    (hwrote : Wrote repository tables write article tables' records version refreshed)
    (hoperation : write.evidence.operation = .create)
    (hnone : KnowledgeBaseArticleService.findArticle records write.evidence.articleObjectId = none)
    (hkeys : ∀ record ∈ records, record.articleKey ≠ write.evidence.articleKey)
    (hbuilt : buildCreatedArticleFromWriteEvidence write.tenantId write.evidence
      write.sourceRecord write.auditChainRef = .ok article) :
    ∃ memory', InMemoryKnowledgeBaseArticleRepository.applyCreate write.tenantId write.evidence
        write.sourceRecord write.auditChainRef memory = (.ok article, memory') ∧
      Simulates tables' memory' := by
  obtain ⟨-, hall⟩ := h.listed hwrote.listed
  have hfree : (write.tenantId, write.evidence.articleObjectId) ∉ memory.articles.map (·.key) := by
    intro hmem
    obtain ⟨other, hother, hkey⟩ := List.mem_map.mp hmem
    obtain ⟨record, hrecord, hsame⟩ := hall other hother (congrArg Prod.fst hkey)
    have hobject := congrArg Prod.snd ((key_of_timeless hsame).trans hkey)
    exact List.find?_eq_none.mp hnone record (List.mem_reverse.mpr hrecord)
      (decide_eq_true hobject)
  have hnew : ¬ ∃ other ∈ memory.articles, other.tenantId = write.tenantId ∧
      other.articleKey = write.evidence.articleKey := by
    rintro ⟨other, hother, htenant, hkey⟩
    obtain ⟨record, hrecord, hsame⟩ := hall other hother htenant
    have hkeySame : record.timeless.articleKey = other.timeless.articleKey := by rw [hsame]
    exact hkeys record hrecord (hkeySame.trans hkey)
  obtain ⟨memory', happly, harticles'⟩ := applyCreate_of_built hfree hnew hbuilt
  have harticles := hwrote.articles
  rw [hoperation] at harticles
  obtain ⟨row, hrow, -, hafter⟩ := harticles
  have hvalid : Valid article.timeless := by
    obtain ⟨_, -, hbuilt⟩ := Except.bind_eq_ok.mp hbuilt
    obtain ⟨-, hbuilt⟩ := require_bind_eq_ok.mp hbuilt
    obtain ⟨herrors, halign, hfields⟩ := KnowledgeBaseArticleRecord.validate_eq_ok.mp hbuilt
    rw [← hfields] at herrors halign
    exact Valid.timeless ⟨herrors, halign⟩
  refine ⟨memory', happly, { consistent := hwrote.consistent h.consistent, reads := ?_ }⟩
  rw [hafter, harticles']
  refine List.rel_append (forall₂_imp_of_mem h.reads fun other hother _ _ hreads =>
    hwrote.reads_of_other h.consistent hother hreads) (.cons ?_ .nil)
  exact hwrote.reads_created h.consistent hrow hvalid

theorem Simulates.edited (h : Simulates tables memory) (hwrite : WellFormed write)
    (hwrote : Wrote repository tables write article tables' records version refreshed)
    (hoperation : write.evidence.operation = .edit) {existing : KnowledgeBaseArticleRecord}
    (hfound : KnowledgeBaseArticleService.findArticle records write.evidence.articleObjectId =
      some existing)
    (hbuilt : buildEditedArticleFromWriteEvidence write.tenantId write.evidence
      write.sourceRecord existing write.auditChainRef = .ok article) :
    ∃ article' memory', InMemoryKnowledgeBaseArticleRepository.applyEdit write.tenantId
        write.evidence write.sourceRecord write.auditChainRef memory = (.ok article', memory') ∧
      article.timeless = article'.timeless ∧ Simulates tables' memory' := by
  obtain ⟨hkey, hlisted, inMemory, hmem, hsame⟩ := h.of_found hwrote.listed hfound
  obtain ⟨metadata, article', hedited, hmetadata, hbuilt', htimeless⟩ :=
    built_of_timeless hsame hbuilt
  have happly := applyEdit_of_built hmem ((key_of_timeless hsame).symm.trans hkey) hbuilt'
  refine ⟨article', memory.replace article', happly, htimeless,
    { consistent := hwrote.consistent h.consistent, reads := ?_ }⟩
  obtain ⟨row, hrow, hread⟩ := exists_row_of_listed hwrote.listed hlisted
  have hrowKey : row.key = article.key := by
    rw [← key_of_read hread, hedited]
    rfl
  obtain ⟨before, hfields, hvalid⟩ := articleFromRow_eq_ok hread
  have hexisting : Valid existing.timeless := by
    rw [← hfields] at hvalid
    exact hvalid.timeless
  have harticles := hwrote.articles
  rw [hoperation] at harticles
  obtain ⟨publishedAtUtc, hpublished, hafter⟩ := harticles
  have hreads := hwrote.reads_edited h.consistent hread hedited hpublished
    (hedited ▸ valid_of_edited hwrite hexisting hmetadata)
  rw [hafter]
  show List.Forall₂ _ _ (memory.articles.map _)
  rw [List.forall₂_map_left_iff, List.forall₂_map_right_iff]
  refine forall₂_imp_of_mem h.reads fun other hother inMemory' _ hother' => ?_
  by_cases hsameKey : other.key = article.key
  · -- there is one row of the key
    obtain rfl := List.inj_on_of_nodup_map h.consistent.articleKeys hother hrow
      (hsameKey.trans hrowKey.symm)
    have hreplaced : inMemory'.key = article'.key := by
      rw [← hother'.key, hsameKey, key_of_timeless htimeless]
    obtain ⟨record, hrecord, hrecordSame⟩ := hreads
    rw [InMemoryKnowledgeBaseArticleRepository.replaceArticle, if_pos hreplaced]
    exact ⟨record, hrecord, hrecordSame.trans htimeless⟩
  · have hkept : inMemory'.key ≠ article'.key := by
      rw [← hother'.key, ← key_of_timeless htimeless]
      exact hsameKey
    rw [InMemoryKnowledgeBaseArticleRepository.replaceArticle, if_neg hkept, currentVersionSet,
      if_neg hsameKey]
    exact hwrote.reads_of_other h.consistent hother hother'

/-- **A write that the tables take** is taken in memory, with the same article but for the times. -/
theorem Simulates.applyWrite (h : Simulates tables memory) (hwrite : WellFormed write)
    (hwrote : Wrote repository tables write article tables' records version refreshed) :
    ∃ article' memory', inMemory write memory = (.ok article', memory') ∧
      article.timeless = article'.timeless ∧ Simulates tables' memory' := by
  have hbuilt := hwrote.built
  unfold inMemory InMemoryKnowledgeBaseArticleRepository.applyWrite
  unfold updatedArticle at hbuilt
  split at hbuilt
  · cases hbuilt
  · rename_i hoperation hnone
    obtain ⟨hkeys, hcreated⟩ := require_bind_eq_ok.mp hbuilt
    obtain ⟨memory', happly, hsimulates⟩ :=
      h.created hwrote hoperation hnone hkeys hcreated
    rw [hoperation]
    exact ⟨article, memory', happly, rfl, hsimulates⟩
  · cases hbuilt
  · rename_i existing hoperation hfound
    obtain ⟨article', memory', happly, hsame, hsimulates⟩ :=
      h.edited hwrite hwrote hoperation hfound hbuilt
    rw [hoperation]
    exact ⟨article', memory', happly, hsame, hsimulates⟩

end Step

/-! ## Every run -/

theorem simulates_empty : Simulates {} ∅ := ⟨consistent_empty, .nil⟩

theorem simulates_run (h : Simulates tables memory) {writes : List ArticleWrite}
    (hwrites : ∀ write ∈ writes, WellFormed write) :
    Simulates (Runs.run repository.step tables writes)
      (Runs.run stepInMemory memory (repository.taken tables writes)) := by
  induction writes generalizing tables memory with
  | nil => exact h
  | cons write writes ih =>
    rw [List.forall_mem_cons] at hwrites
    rw [Runs.run_cons, taken, Runs.run_append]
    refine ih ?_ hwrites.2
    rcases step_cases repository tables write with
      ⟨exn, hperform, hsame⟩ | ⟨article, _, _, _, hperform, hwrote⟩
    · rw [hperform, hsame]
      exact h
    · obtain ⟨article', memory', happly, -, hsimulates⟩ := h.applyWrite hwrites.1 hwrote
      rw [hperform]
      show Simulates _ (stepInMemory memory write)
      rw [stepInMemory, happly]
      exact hsimulates

/-- **The tables refine the memory.** After every run of writes each tenant's listing returns, with
the articles that the memory has after the writes of the run that the tables have taken; and each of
these writes has returned the same article on both. All but for the times. -/
theorem listing_run (repository : PgKnowledgeBaseArticleRepository) {writes : List ArticleWrite}
    (hwrites : ∀ write ∈ writes, WellFormed write) :
    (∀ tenantId, Sendable [tenantId] → ∃ records,
      repository.listArticles tenantId (Runs.run repository.step {} writes) = .ok records ∧
        (records.map (·.timeless)).Perm
          (((Runs.run stepInMemory ∅ (repository.taken {} writes)).listArticles tenantId).map
            (·.timeless))) ∧
      ∀ before write article, before ++ [write] <+: writes →
        (repository.perform write (Runs.run repository.step {} before)).1 = .ok article →
          ∃ article', (inMemory write
              (Runs.run stepInMemory ∅ (repository.taken {} before))).1 = .ok article' ∧
            article.timeless = article'.timeless := by
  refine ⟨fun tenantId hsend => (simulates_run simulates_empty hwrites).listing hsend, ?_⟩
  intro before write article hwithin hreturned
  have hmem : ∀ other ∈ before ++ [write], WellFormed other :=
    fun other hother => hwrites other (hwithin.subset hother)
  have hbefore := @simulates_run repository {} ∅ simulates_empty before
    fun other hother => hmem other (List.mem_append_left _ hother)
  have hwrite := hmem write (List.mem_append_right _ (List.mem_singleton_self write))
  rcases step_cases repository (Runs.run repository.step {} before) write with
    ⟨exn, hperform, -⟩ | ⟨written, _, _, _, hperform, hwrote⟩
  · rw [hperform] at hreturned
    cases hreturned
  · rw [hperform] at hreturned
    obtain rfl := Except.ok.inj hreturned
    obtain ⟨article', memory', happly, hsame, -⟩ := hbefore.applyWrite hwrite hwrote
    exact ⟨article', congrArg Prod.fst happly, hsame⟩

end PgKnowledgeBaseArticleRepository

namespace PgHandbook

open PgKnowledgeBaseArticleRepository

theorem fifthOfJanuary_exists : 1 ≤ 2026 ∧ 2026 ≤ 9999 ∧ 1 ≤ 1 ∧ 1 ≤ 12 ∧
    1 ≤ 5 ∧ 5 ≤ Datetime.daysInMonth 2026 1 := by decide

/-- The clock at nine. -/
def nine : DateTime where
  date := ⟨2026, 1, 5, fifthOfJanuary_exists⟩
  hour := 9
  minute := 0
  second := 0
  microsecond := 0
  utcoffset := some 0

theorem length_tag (_ _ : Bytes) : (List.replicate 32 (0 : UInt8)).length = 32 :=
  List.length_replicate

/-- A server beside a hash function of one value. -/
def pgArticles : PgKnowledgeBaseArticleRepository where
  hashes := ⟨fun _ => List.replicate 32 0, fun _ _ => List.replicate 32 0, length_tag⟩
  lower := id
  readTimestamp text := if text = "2026-01-05T09:00:00Z" then some nine else none
  before _ _ := true

def handbookRecord (objectId versionId : String) : SourceObjectRecord where
  metadata := {
    tenantId := "acme"
    objectId := objectId
    objectType := .wiki
    versionId := versionId
    title := "Handbook"
    ownerPrincipalId := "alice"
    createdBy := "alice"
    createdAtUtc := "2026-01-05T09:00:00Z"
    updatedAtUtc := "2026-01-05T09:00:00Z"
    classification := .internal
    retentionPolicyId := "rp-standard"
    kmsKeyRef := "kms://acme/internal/v1"
    manifestHash := zeroHash
    auditChainRef := "audit:1"
    sourceSystem := "native"
    aclHash := "acl:1"
    aclVersion := 1
    contentHash := zeroHash
    contentByteLength := 4 }
  text := "Text"

/-- The approval of a write of the handbook. -/
def handbookApproval (operation : KnowledgeBaseWriteOperation) (objectId versionId label : String)
    (expected : Option String) : KnowledgeBaseWriteApprovalEvidence where
  tenantId := "acme"
  approvalReference := "approval:1"
  operation := operation
  approvalState := .approvedForWrite
  articleObjectId := "article-1"
  articleKey := "handbook"
  title := "Handbook"
  expectedCurrentVersionObjectId := expected
  proposedVersionObjectId := objectId
  proposedVersionLabel := label
  proposedSourceObjectId := objectId
  proposedSourceVersionId := versionId
  proposedSourceManifestHash := zeroHash
  proposedContentHash := zeroHash
  proposedAclVersion := 1
  commandHash := zeroHash
  proposedSourceVersionEvidenceHash := zeroHash
  currentRestoreEvidenceHash := zeroHash
  sourceObjectWriteGuardRef := "guard:1"
  transitionSourceEvidenceHash := some ("sha256:" ++ String.ofList (List.replicate 64 '1'))
  requestedBy := "alice"
  auditEventId := "event-1"
  auditChainRef := "audit:event-1"
  sourceSystem := "native"

def createHandbook : ArticleWrite where
  tenantId := "acme"
  evidence := handbookApproval .create "version-1" "v1" "1.0" none
  sourceRecord := handbookRecord "version-1" "v1"
  auditChainRef := "audit:execution:1"
  now := nine

theorem createHandbook_wellFormed : WellFormed createHandbook where
  evidence := by decide +kernel
  safety := by decide +kernel
  auditRef := by decide +kernel

theorem createHandbook_returns : (pgArticles.perform createHandbook {}).1.isOk = true := by
  decide +kernel

theorem handbook_listed :
    (∃ records, pgArticles.listArticles "acme" (Runs.run pgArticles.step {} [createHandbook]) =
        .ok records ∧
      (records.map (·.timeless)).Perm (((Runs.run stepInMemory ∅
        (pgArticles.taken {} [createHandbook])).listArticles "acme").map (·.timeless))) ∧
      ∃ article article', (pgArticles.perform createHandbook {}).1 = .ok article ∧
        (inMemory createHandbook ∅).1 = .ok article' ∧ article.timeless = article'.timeless := by
  obtain ⟨hlisted, hreturned⟩ := @listing_run pgArticles [createHandbook]
    (by simpa using createHandbook_wellFormed)
  refine ⟨hlisted "acme" (by decide +kernel), ?_⟩
  rcases hperform : (pgArticles.perform createHandbook {}).1 with exn | article
  · have hok := createHandbook_returns
    rw [hperform] at hok
    cases hok
  · obtain ⟨article', happly, hsame⟩ := hreturned [] createHandbook article (List.prefix_refl _)
      hperform
    exact ⟨article, article', rfl, happly, hsame⟩

end PgHandbook

end Collabio
