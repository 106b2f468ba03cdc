import Mathlib.Tactic
import Collabio.KnowledgeBase.WrittenArticles
import Collabio.Library.Grouping

/-!
# The evidence after a write

* `evidences_of_create`, `evidences_of_edit` — what is read after the write;
* `projected_create`, `projected_edit`       — its hashes are those of the preview;
* `restore_returns`                          — and they make a restore evidence.
-/

namespace Collabio

open KnowledgeBaseWorld

/-- Texts in another order are sorted to the same list. -/
theorem insertionSort_congr {l m : List String} (h : l.Perm m) :
    l.insertionSort (· ≤ ·) = m.insertionSort (· ≤ ·) :=
  sortBy_congr_of_injective Function.injective_id h

namespace InMemoryKnowledgeBaseArticleRepository

variable {repository : InMemoryKnowledgeBaseArticleRepository}
variable {article : KnowledgeBaseArticleRecord} {tenantId : String}

theorem listArticles_insert (fresh : article.key ∉ repository.articles.map (·.key))
    (htenant : article.tenantId = tenantId) :
    (repository.insert article fresh).listArticles tenantId =
      repository.listArticles tenantId ++ [article] := by
  have hkept : [article].filter (fun article => article.tenantId = tenantId) = [article] :=
    List.filter_cons_of_pos (by simpa using htenant)
  show (repository.articles ++ [article]).filter _ = _
  rw [List.filter_append, hkept]
  rfl

theorem listArticles_replace :
    (repository.replace article).listArticles tenantId =
      (repository.listArticles tenantId).map (replaceArticle article) := by
  have htenant : ∀ other, (replaceArticle article other).tenantId = other.tenantId :=
    fun other => congrArg Prod.fst (key_replaceArticle article other)
  show (repository.articles.map (replaceArticle article)).filter _ =
    (repository.articles.filter _).map _
  rw [List.filter_map]
  congr 1
  refine List.filter_congr fun other _ => ?_
  rw [Function.comp_apply, htenant]

end InMemoryKnowledgeBaseArticleRepository

namespace KnowledgeBaseArticleService

variable {service : KnowledgeBaseArticleService}
variable {sources sources' : InMemorySourceObjectRepository} {tenantId : String}
variable {articles articles' : InMemoryKnowledgeBaseArticleRepository}
variable {article : KnowledgeBaseArticleRecord} {evidence : KnowledgeBaseSourceVersionEvidence}
variable {evidences evidences' : List KnowledgeBaseSourceVersionEvidence}

/-! ## Reading after the write -/

/-- A read stays what it is when sources are added. -/
theorem sourceVersionEvidenceOf_mono
    (hkept : ∀ key record, sources.records.get? key = some record →
      sources'.records.get? key = some record)
    (h : service.sourceVersionEvidenceOf sources article = .ok evidence) :
    service.sourceVersionEvidenceOf sources' article = .ok evidence := by
  obtain ⟨record, hget, hrest⟩ := sourceVersionEvidenceOf_eq_ok.mp h
  exact sourceVersionEvidenceOf_eq_ok.mpr ⟨record, hkept _ _ hget, hrest⟩

theorem records_listed (articles : InMemoryKnowledgeBaseArticleRepository) (tenantId : String) :
    (service.records articles tenantId).Perm (articles.listArticles tenantId) :=
  List.perm_insertionSort _ _

/-- The evidences of a tenant, in the order in which the repository lists its articles. -/
theorem evidences_listed
    (h : (service.records articles tenantId).mapM (service.sourceVersionEvidenceOf sources) =
      .ok evidences) :
    ∃ listed, (articles.listArticles tenantId).mapM (service.sourceVersionEvidenceOf sources) =
      .ok listed ∧ evidences.Perm listed :=
  Except.mapM_perm h (records_listed articles tenantId)

/-- A creation adds the evidence of its article. -/
theorem evidences_of_create
    (h : (service.records articles tenantId).mapM (service.sourceVersionEvidenceOf sources) =
      .ok evidences)
    (hkept : ∀ key record, sources.records.get? key = some record →
      sources'.records.get? key = some record)
    (hlisted : articles'.listArticles tenantId = articles.listArticles tenantId ++ [article])
    (hnew : service.sourceVersionEvidenceOf sources' article = .ok evidence) :
    ∃ evidences', (service.records articles' tenantId).mapM
        (service.sourceVersionEvidenceOf sources') = .ok evidences' ∧
      evidences'.Perm (evidences ++ [evidence]) := by
  obtain ⟨listed, hmap, hperm⟩ := evidences_listed h
  have hold : List.Forall₂ (fun article evidence =>
      service.sourceVersionEvidenceOf sources' article = .ok evidence)
        (articles.listArticles tenantId) listed :=
    (Except.mapM_eq_ok.mp hmap).imp fun _ _ hread => sourceVersionEvidenceOf_mono hkept hread
  have hall : (articles'.listArticles tenantId).mapM (service.sourceVersionEvidenceOf sources') =
      .ok (listed ++ [evidence]) := by
    rw [hlisted, Except.mapM_eq_ok]
    exact List.rel_append hold (.cons hnew .nil)
  obtain ⟨evidences', hmap', hperm'⟩ := Except.mapM_perm hall (records_listed _ _).symm
  exact ⟨evidences', hmap', hperm'.symm.trans (hperm.symm.append_right _)⟩

/-- The evidence of the edited article in the place of the one it had. -/
def refreshEvidence (evidence other : KnowledgeBaseSourceVersionEvidence) :
    KnowledgeBaseSourceVersionEvidence :=
  if other.articleObjectId = evidence.articleObjectId then evidence else other

theorem evidences_of_edit
    (h : (service.records articles tenantId).mapM (service.sourceVersionEvidenceOf sources) =
      .ok evidences)
    (hkept : ∀ key record, sources.records.get? key = some record →
      sources'.records.get? key = some record)
    (hlisted : articles'.listArticles tenantId = (articles.listArticles tenantId).map
      (InMemoryKnowledgeBaseArticleRepository.replaceArticle article))
    (htenant : article.tenantId = tenantId)
    (hnew : service.sourceVersionEvidenceOf sources' article = .ok evidence) :
    ∃ evidences', (service.records articles' tenantId).mapM
        (service.sourceVersionEvidenceOf sources') = .ok evidences' ∧
      evidences'.Perm (evidences.map (refreshEvidence evidence)) := by
  obtain ⟨listed, hmap, hperm⟩ := evidences_listed h
  have hread : ∀ other ∈ articles.listArticles tenantId, ∀ found,
      service.sourceVersionEvidenceOf sources other = .ok found →
        service.sourceVersionEvidenceOf sources'
          (InMemoryKnowledgeBaseArticleRepository.replaceArticle article other) =
            .ok (refreshEvidence evidence found) := by
    intro other hother found hfound
    have hotherTenant : other.tenantId = tenantId := by
      simpa using (List.mem_filter.mp hother).2
    have hid : found.articleObjectId = other.objectId := (isEvidenceOf hfound).objectId
    have hnewId : evidence.articleObjectId = article.objectId := (isEvidenceOf hnew).objectId
    unfold InMemoryKnowledgeBaseArticleRepository.replaceArticle refreshEvidence
    rw [hid, hnewId]
    by_cases hsame : other.objectId = article.objectId
    · rw [if_pos hsame, if_pos (Prod.ext (hotherTenant.trans htenant.symm) hsame)]
      exact hnew
    · rw [if_neg hsame, if_neg fun hkey => hsame (congrArg Prod.snd hkey)]
      exact sourceVersionEvidenceOf_mono hkept hfound
  have hall : (articles'.listArticles tenantId).mapM (service.sourceVersionEvidenceOf sources') =
      .ok (listed.map (refreshEvidence evidence)) := by
    rw [hlisted, Except.mapM_eq_ok, List.forall₂_map_left_iff, List.forall₂_map_right_iff]
    have hforall := Except.mapM_eq_ok.mp hmap
    generalize articles.listArticles tenantId = read at hread hforall
    clear hmap hperm
    induction hforall with
    | nil => exact .nil
    | @cons other found _ _ hfound _ ih =>
      exact .cons (hread other List.mem_cons_self found hfound)
        (ih fun other hother => hread other (List.mem_cons_of_mem _ hother))
  obtain ⟨evidences', hmap', hperm'⟩ := Except.mapM_perm hall (records_listed _ _).symm
  exact ⟨evidences', hmap', hperm'.symm.trans (hperm.symm.map _)⟩

/-- The evidences of a tenant are of different articles. -/
theorem nodup_articleObjectIds
    (h : (service.records articles tenantId).mapM (service.sourceVersionEvidenceOf sources) =
      .ok evidences) : (evidences.map (·.articleObjectId)).Nodup := by
  have hids : evidences.map (·.articleObjectId) =
      (service.records articles tenantId).map (·.objectId) := by
    have hforall := Except.mapM_eq_ok.mp h
    generalize service.records articles tenantId = read at hforall
    clear h
    induction hforall with
    | nil => rfl
    | cons hread _ ih => rw [List.map_cons, List.map_cons, ih, (isEvidenceOf hread).objectId]
  rw [hids]
  exact (nodup_records articles tenantId).map_on fun _ ha _ hb hid => eq_of_objectId ha hb hid

/-! ## The preview -/

theorem items_evidenceHashByArticle (hnodup : (evidences.map (·.articleObjectId)).Nodup) :
    (evidenceHashByArticle evidences).items = (evidences.insertionSort ByArticle).map
      fun evidence => (evidence.articleObjectId, evidence.evidenceHash) := by
  have hsorted : ((evidences.insertionSort ByArticle).map (·.articleObjectId)).Nodup :=
    ((List.perm_insertionSort ByArticle evidences).map _).nodup_iff.mpr hnodup
  unfold evidenceHashByArticle
  exact Dict.items_foldl_set KnowledgeBaseSourceVersionEvidence.articleObjectId
    KnowledgeBaseSourceVersionEvidence.evidenceHash hsorted ∅ fun _ _ => rfl

/-- The preview of a creation, once the article is read. -/
theorem projected_create {approved : KnowledgeBaseWriteApprovalEvidence} {hashes : List String}
    (hoperation : approved.operation = .create)
    (hnodup : (evidences.map (·.articleObjectId)).Nodup)
    (h : buildProjectedSourceVersionEvidenceHashes approved evidences = .ok hashes)
    (hperm : evidences'.Perm (evidences ++ [evidence]))
    (hhash : evidence.evidenceHash = approved.proposedSourceVersionEvidenceHash) :
    evidenceHashes evidences' = hashes ∧ hashes.Nodup := by
  unfold buildProjectedSourceVersionEvidenceHashes at h
  rw [hoperation] at h
  obtain ⟨-, h⟩ := require_bind_eq_ok.mp h
  obtain ⟨hunique, h⟩ := require_bind_eq_ok.mp h
  cases h
  refine ⟨insertionSort_congr ?_, hunique⟩
  have hvalues : (evidenceHashByArticle evidences).values =
      (evidences.insertionSort ByArticle).map (·.evidenceHash) := by
    rw [Dict.values, items_evidenceHashByArticle hnodup, List.map_map]
    rfl
  rw [hvalues, ← hhash]
  refine (hperm.map _).trans ?_
  rw [List.map_append, List.map_singleton]
  exact ((List.perm_insertionSort ByArticle evidences).map _).symm.append_right _

/-- The preview of an edit, once the article is read. -/
theorem projected_edit {approved : KnowledgeBaseWriteApprovalEvidence} {hashes : List String}
    (hoperation : approved.operation = .edit)
    (hnodup : (evidences.map (·.articleObjectId)).Nodup)
    (h : buildProjectedSourceVersionEvidenceHashes approved evidences = .ok hashes)
    (hperm : evidences'.Perm (evidences.map (refreshEvidence evidence)))
    (hhash : evidence.evidenceHash = approved.proposedSourceVersionEvidenceHash)
    (hid : evidence.articleObjectId = approved.articleObjectId) :
    evidenceHashes evidences' = hashes ∧ hashes.Nodup := by
  unfold buildProjectedSourceVersionEvidenceHashes at h
  rw [hoperation] at h
  obtain ⟨hpresent, h⟩ := require_bind_eq_ok.mp h
  obtain ⟨hunique, h⟩ := require_bind_eq_ok.mp h
  cases h
  refine ⟨insertionSort_congr ?_, hunique⟩
  -- the article is among the keys, so that its hash is replaced in place
  have hkey : approved.articleObjectId ∈
      (evidenceHashByArticle evidences).items.map Prod.fst := by
    by_contra hnot
    rw [Dict.contains, Dict.get?_eq_none.mpr hnot] at hpresent
    cases hpresent
  have hvalues : ((evidenceHashByArticle evidences).set approved.articleObjectId
      approved.proposedSourceVersionEvidenceHash).values =
        (evidences.insertionSort ByArticle).map fun other =>
          (refreshEvidence evidence other).evidenceHash := by
    rw [Dict.values, Dict.set, dif_pos hkey]
    show (Dict.replaceItem _ _ _).map Prod.snd = _
    rw [items_evidenceHashByArticle hnodup, Dict.replaceItem, List.map_map, List.map_map]
    refine List.map_congr_left fun other _ => ?_
    rw [Function.comp_apply, Function.comp_apply, refreshEvidence, hid, ← hhash]
    split_ifs <;> rfl
  rw [hvalues]
  refine (hperm.map _).trans ?_
  rw [List.map_map]
  exact ((List.perm_insertionSort ByArticle evidences).map _).symm

/-! ## The restore evidence -/

/-- The digests of what an execution hashes have 32 bytes. -/
structure WriteDigests (H : HashFunctions) : Prop where
  evidences : ∀ evidence : KnowledgeBaseSourceVersionEvidence,
                (H.sha256 (jsonBytes evidence.payload)).length = 32
  checksums : ∀ evidences, (H.sha256 (jsonBytes (checksumPayload evidences))).length = 32
  rowCounts : ∀ tenantId articleCount evidenceCount, (H.sha256 (jsonBytes (rowCountPayload tenantId
                articleCount evidenceCount))).length = 32
  restores  : ∀ evidence : KnowledgeBaseRestoreEvidence,
                (H.sha256 (jsonBytes evidence.payload)).length = 32
  receipts  : ∀ receipt : SourceObjectWriteReceipt,
                (H.sha256 (jsonBytes receipt.payload)).length = 32
  commands  : ∀ command : KnowledgeBaseWriteExecutionCommandFields,
                (H.sha256 (jsonBytes command.auditPayload)).length = 32

theorem KnowledgeBaseRestoreEvidence.errors_eq_nil {evidence : KnowledgeBaseRestoreEvidence} :
    evidence.errors = [] ↔ Text.strip evidence.tenantId ≠ "" ∧
      (evidence.sourceVersionEvidenceHashes.Nodup ∧
        ∀ hash ∈ evidence.sourceVersionEvidenceHashes, isKbRef hash = true) ∧
      isKbRef evidence.restoreDrillReportHash = true ∧ isKbRef evidence.rowCountHash = true ∧
      isKbRef evidence.checksumManifestHash = true ∧ isKbRef evidence.auditChainRef = true ∧
      isKbRef evidence.evidenceHash = true := by
  have hhashes : KnowledgeBaseRestoreEvidence.validateEvidenceHashes
      evidence.sourceVersionEvidenceHashes = [] ↔ evidence.sourceVersionEvidenceHashes.Nodup ∧
        ∀ hash ∈ evidence.sourceVersionEvidenceHashes, isKbRef hash = true := by
    unfold KnowledgeBaseRestoreEvidence.validateEvidenceHashes
    rw [← List.all_eq_true]
    split_ifs <;> simp_all
  unfold KnowledgeBaseRestoreEvidence.errors KnowledgeBaseRestoreEvidence.namespacedRef
  simp only [List.append_eq_nil_iff, requireNotBlank_eq_nil, requireFullmatch_eq_nil, hhashes,
    and_assoc]

/-- The hash of a read evidence is a reference. -/
theorem isSha256Ref_evidenceHash (hdigests : WriteDigests service.hashes)
    (h : evidence.IsSealed service.hashes) : isSha256Ref evidence.evidenceHash = true := by
  have hhash : evidence.evidenceHash =
      computeContentHash service.hashes (jsonBytes evidence.payload) := h
  rw [hhash]
  exact isSha256Ref_computeContentHash (hdigests.evidences evidence)

theorem isKbRef_evidenceHash (hdigests : WriteDigests service.hashes)
    (h : evidence.IsSealed service.hashes) : isKbRef evidence.evidenceHash = true := by
  have hhash : evidence.evidenceHash =
      computeContentHash service.hashes (jsonBytes evidence.payload) := h
  rw [hhash]
  exact isKbRef_of_digest (hdigests.evidences evidence)

/-- Evidences of different hashes make a restore evidence, where there was one before. -/
theorem restore_returns (hdigests : WriteDigests service.hashes)
    {sourceEvidences : List KnowledgeBaseSourceVersionEvidence}
    {restoreEvidence : KnowledgeBaseRestoreEvidence} {world world' : KnowledgeBaseWorld}
    (hbefore : service.Reads world tenantId sourceEvidences restoreEvidence)
    (h : (service.records world'.articles tenantId).mapM
      (service.sourceVersionEvidenceOf world'.sources) = .ok evidences)
    (hunique : (evidenceHashes evidences).Nodup) :
    ∃ restore, service.Reads world' tenantId evidences restore ∧
      restore.sourceVersionEvidenceHashes = evidenceHashes evidences ∧
      restore.sourceVersionEvidenceCount = (evidenceHashes evidences).length ∧
      isSha256Ref restore.evidenceHash = true ∧
      ∀ hash ∈ evidenceHashes evidences, isSha256Ref hash = true := by
  obtain ⟨-, hrestore⟩ := currentEvidenceOf_eq_ok.mp hbefore
  obtain ⟨-, hsealed⟩ := buildKnowledgeBaseRestoreEvidence_eq_ok.mp hrestore
  obtain ⟨hbeforeErrors, -, -⟩ := KnowledgeBaseRestoreEvidence.sealed_eq_ok.mp hsealed
  obtain ⟨htenant, -, hdrill, -, -, haudit, hzero⟩ :=
    KnowledgeBaseRestoreEvidence.errors_eq_nil.mp hbeforeErrors
  have hof : ∀ evidence ∈ evidences, ∃ article ∈ service.records world'.articles tenantId,
      IsEvidenceOf service.hashes article evidence := by
    intro evidence hmem
    obtain ⟨article, harticle, hread⟩ := Except.mem_of_mem_mapM h hmem
    exact ⟨article, harticle, isEvidenceOf hread⟩
  have hsealedHash : ∀ hash ∈ evidenceHashes evidences, ∃ evidence ∈ evidences,
      evidence.IsSealed service.hashes ∧ evidence.evidenceHash = hash := by
    intro hash hmem
    rw [evidenceHashes, List.mem_insertionSort, List.mem_map] at hmem
    obtain ⟨evidence, hmem, rfl⟩ := hmem
    obtain ⟨article, -, hevidence⟩ := hof evidence hmem
    exact ⟨evidence, hmem, hevidence.isSealed, rfl⟩
  have hlength : evidences.length = (service.records world'.articles tenantId).length :=
    Except.length_of_mapM h
  have hhashes : (evidenceHashes evidences).length = evidences.length := by
    rw [evidenceHashes, List.length_insertionSort, List.length_map]
  have hcovers : CoversArticles tenantId (service.records world'.articles tenantId) evidences := by
    refine ⟨fun article hmem => (mem_records.mp hmem).2, fun evidence hmem => ?_,
      fun article hmem => ?_, fun evidence hmem => ?_⟩
    · obtain ⟨article, harticle, hevidence⟩ := hof evidence hmem
      exact hevidence.tenantId.trans (mem_records.mp harticle).2
    · obtain ⟨evidence, hevidence, hread⟩ := Except.mem_mapM_of_mem h hmem
      exact List.mem_map.mpr ⟨evidence, hevidence, (isEvidenceOf hread).objectId⟩
    · obtain ⟨article, harticle, hevidence⟩ := hof evidence hmem
      exact List.mem_map.mpr ⟨article, harticle, hevidence.objectId.symm⟩
  have herrors : (restoreDraft service.hashes tenantId
      (service.records world'.articles tenantId).length evidences
      (service.restoreDrillReportHash tenantId)
      "audit:knowledge-base-restore-evidence").errors = [] := by
    refine KnowledgeBaseRestoreEvidence.errors_eq_nil.mpr ⟨htenant, ⟨hunique, ?_⟩, hdrill,
      isKbRef_of_digest (hdigests.rowCounts _ _ _),
      isKbRef_of_digest (hdigests.checksums _), haudit, hzero⟩
    intro hash hmem
    obtain ⟨evidence, -, hsealed, rfl⟩ := hsealedHash hash hmem
    exact isKbRef_evidenceHash hdigests hsealed
  have hchecks : (restoreDraft service.hashes tenantId
      (service.records world'.articles tenantId).length evidences
      (service.restoreDrillReportHash tenantId)
      "audit:knowledge-base-restore-evidence").requireCompleteRestoreChecks = .ok () := by
    unfold KnowledgeBaseRestoreEvidence.requireCompleteRestoreChecks requireModel
    simp only [require_bind_eq_ok, require_eq_ok]
    exact ⟨rfl, rfl, hlength.symm, hhashes, rfl, rfl, rfl⟩
  refine ⟨_, currentEvidenceOf_eq_ok.mpr ⟨h, buildKnowledgeBaseRestoreEvidence_eq_ok.mpr
    ⟨hcovers, KnowledgeBaseRestoreEvidence.sealed_eq_ok.mpr ⟨herrors, hchecks, rfl⟩⟩⟩, rfl,
    hhashes.symm, isSha256Ref_computeContentHash (hdigests.restores _), fun hash hmem => ?_⟩
  obtain ⟨evidence, -, hsealed, rfl⟩ := hsealedHash hash hmem
  exact isSha256Ref_evidenceHash hdigests hsealed

end KnowledgeBaseArticleService

end Collabio
