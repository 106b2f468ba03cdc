import Mathlib.Data.String.Basic
import Mathlib.Tactic
import Collabio.KnowledgeBase.Evidence

/-!
# What evidence determines

* `KnowledgeBaseSourceVersionEvidence.eq_of_evidenceHash` — sealed evidences with one hash are
  one evidence;
* `perm_of_restoreEvidenceHash` — restore evidences with one hash cover the same evidences;
* `buildKnowledgeBaseRestoreEvidence_perm` — and do not depend on the order they come in.

Hashes are compared for the texts of some snapshots only: `TellsSnapshotsApart` says that the
digest has no collisions on them.
-/

namespace Collabio

variable {H : HashFunctions}

theorem SourceObjectType.value_injective : Function.Injective SourceObjectType.value := by
  intro a b h
  cases a <;> cases b <;> first | rfl | exact absurd h (by decide)

/-! ## Source-version evidence -/

namespace KnowledgeBaseSourceVersionEvidence

theorem sealed_eq_ok {draft evidence : KnowledgeBaseSourceVersionEvidence} :
    draft.sealed H = .ok evidence ↔
      draft.errors = [] ∧
        evidence = { draft with evidenceHash := buildSourceVersionEvidenceHash H draft } := by
  unfold KnowledgeBaseSourceVersionEvidence.sealed
  constructor
  · intro h
    obtain ⟨_, haccept, h⟩ := Except.bind_eq_ok.mp h
    obtain ⟨herrors, rfl⟩ := accept_eq_ok.mp haccept
    cases h
    exact ⟨herrors, rfl⟩
  · rintro ⟨herrors, rfl⟩
    exact Except.bind_eq_ok.mpr ⟨_, accept_eq_ok.mpr ⟨herrors, rfl⟩, rfl⟩

/-- The evidence has the hash of its other fields. -/
def IsSealed (H : HashFunctions) (evidence : KnowledgeBaseSourceVersionEvidence) : Prop :=
  evidence.evidenceHash = buildSourceVersionEvidenceHash H evidence

theorem isSealed_of_sealed {draft evidence : KnowledgeBaseSourceVersionEvidence}
    (h : draft.sealed H = .ok evidence) : evidence.IsSealed H := by
  obtain ⟨-, rfl⟩ := sealed_eq_ok.mp h
  rfl

/-- **The payload covers every field** but the hash. -/
theorem eq_of_payload {evidence evidence' : KnowledgeBaseSourceVersionEvidence}
    (h : Json.Same evidence.payload evidence'.payload)
    (hhash : evidence.evidenceHash = evidence'.evidenceHash) : evidence = evidence' := by
  have hmember (key : String) : ∀ {x y}, (key, x) ∈ evidence.payloadMembers →
      (key, y) ∈ evidence'.payloadMembers → Json.Same x y :=
    fun hx hy => Json.same_of_mem h (nodup_payloadKeys evidence') hx hy
  -- the enumerations and the number are compared by what they are written as
  have htype : evidence.sourceObjectType.value = evidence'.sourceObjectType.value :=
    Json.same_str.mp (hmember "source_object_type" (by simp [payloadMembers])
      (by simp [payloadMembers]))
  have hclass : evidence.dataClassification.value = evidence'.dataClassification.value :=
    Json.same_str.mp (hmember "data_classification" (by simp [payloadMembers])
      (by simp [payloadMembers]))
  have hacl : (evidence.aclVersion : Int) = evidence'.aclVersion :=
    Json.same_int.mp (hmember "acl_version" (by simp [payloadMembers])
      (by simp [payloadMembers]))
  exact KnowledgeBaseSourceVersionEvidence.ext
    (Json.same_str.mp (hmember "tenant_id" (by simp [payloadMembers])
      (by simp [payloadMembers])))
    (Json.same_str.mp (hmember "article_object_id" (by simp [payloadMembers])
      (by simp [payloadMembers])))
    (Json.same_str.mp (hmember "article_version_object_id" (by simp [payloadMembers])
      (by simp [payloadMembers])))
    (Json.same_str.mp (hmember "source_object_id" (by simp [payloadMembers])
      (by simp [payloadMembers])))
    (Json.same_str.mp (hmember "source_version_id" (by simp [payloadMembers])
      (by simp [payloadMembers])))
    (SourceObjectType.value_injective htype)
    (Json.same_str.mp (hmember "source_manifest_hash" (by simp [payloadMembers])
      (by simp [payloadMembers])))
    (Json.same_str.mp (hmember "content_hash" (by simp [payloadMembers])
      (by simp [payloadMembers])))
    (Int.ofNat_inj.mp hacl)
    (DataClass.value_injective hclass)
    (Json.same_str.mp (hmember "retention_policy_id" (by simp [payloadMembers])
      (by simp [payloadMembers])))
    (Json.same_str.mp (hmember "legal_hold_state" (by simp [payloadMembers])
      (by simp [payloadMembers])))
    hhash
    (Json.same_str.mp (hmember "schema_version" (by simp [payloadMembers])
      (by simp [payloadMembers])))

/-- **Sealed evidences with one hash are one evidence.** -/
theorem eq_of_evidenceHash {texts : Set Bytes} (hinj : Set.InjOn H.sha256 texts)
    {evidence evidence' : KnowledgeBaseSourceVersionEvidence} (hsealed : evidence.IsSealed H)
    (hsealed' : evidence'.IsSealed H) (htext : jsonBytes evidence.payload ∈ texts)
    (htext' : jsonBytes evidence'.payload ∈ texts)
    (hhash : evidence.evidenceHash = evidence'.evidenceHash) : evidence = evidence' := by
  refine eq_of_payload (same_of_hashJson_eq hinj htext htext' ?_) hhash
  calc hashJson H evidence.payload = evidence.evidenceHash := hsealed.symm
    _ = evidence'.evidenceHash := hhash
    _ = hashJson H evidence'.payload := hsealed'

end KnowledgeBaseSourceVersionEvidence

theorem buildKnowledgeBaseSourceVersionEvidence_eq_ok {article : KnowledgeBaseArticleRecord}
    {sourceRecord : SourceObjectRecord} {evidence : KnowledgeBaseSourceVersionEvidence} :
    buildKnowledgeBaseSourceVersionEvidence H article sourceRecord = .ok evidence ↔
      sourceVersionMismatches H article sourceRecord = [] ∧
        (sourceVersionDraft article.tenantId article.objectId article.currentVersionObjectId
          sourceRecord.metadata).sealed H = .ok evidence := by
  unfold buildKnowledgeBaseSourceVersionEvidence
  exact require_bind_eq_ok

/-- An article and its source agree. -/
theorem sourceVersionMismatches_eq_nil {article : KnowledgeBaseArticleRecord}
    {sourceRecord : SourceObjectRecord} :
    sourceVersionMismatches H article sourceRecord = [] ↔
      sourceRecord.metadata.tenantId = article.tenantId ∧
      sourceRecord.metadata.objectId = article.currentSourceObjectId ∧
      sourceRecord.metadata.versionId = article.currentSourceVersionId ∧
      sourceRecord.metadata.objectId = article.currentVersionObjectId ∧
      sourceRecord.metadata.objectType = article.currentSourceObjectType ∧
      (sourceRecord.metadata.manifestHash = article.currentSourceManifestHash ∧
        sourceRecord.metadata.manifestHash =
          buildSourceObjectManifestHash H sourceRecord.metadata) ∧
      (sourceRecord.metadata.contentHash = article.currentContentHash ∧
        sourceRecord.metadata.contentHash =
          computeContentHash H (sourceObjectContentBytes sourceRecord)) ∧
      sourceRecord.metadata.aclVersion = article.currentAclVersion ∧
      sourceRecord.metadata.classification = article.dataClassification ∧
      sourceRecord.metadata.retentionPolicyId = article.retentionPolicyId ∧
      sourceRecord.metadata.legalHoldState.value = article.legalHoldState := by
  unfold sourceVersionMismatches
  simp only [List.append_eq_nil_iff, mismatch_eq_nil, and_assoc]

/-! ## Restore evidence -/

theorem KnowledgeBaseRestoreEvidence.sealed_eq_ok {draft evidence : KnowledgeBaseRestoreEvidence} :
    draft.sealed H = .ok evidence ↔
      draft.errors = [] ∧ draft.requireCompleteRestoreChecks = .ok () ∧
        evidence = { draft with evidenceHash := buildRestoreEvidenceHash H draft } := by
  unfold KnowledgeBaseRestoreEvidence.sealed
  constructor
  · intro h
    obtain ⟨_, haccept, h⟩ := Except.bind_eq_ok.mp h
    obtain ⟨herrors, rfl⟩ := accept_eq_ok.mp haccept
    obtain ⟨_, hchecks, h⟩ := Except.bind_eq_ok.mp h
    cases h
    exact ⟨herrors, hchecks, rfl⟩
  · rintro ⟨herrors, hchecks, rfl⟩
    exact Except.bind_eq_ok.mpr ⟨_, accept_eq_ok.mpr ⟨herrors, rfl⟩,
      Except.bind_eq_ok.mpr ⟨(), hchecks, rfl⟩⟩

/-- The parts of a restore evidence that do not come from a hash. -/
structure CoversArticles (tenantId : String) (articles : List KnowledgeBaseArticleRecord)
    (sourceEvidences : List KnowledgeBaseSourceVersionEvidence) : Prop where
  articlesOfTenant  : ∀ article ∈ articles, article.tenantId = tenantId
  evidencesOfTenant : ∀ evidence ∈ sourceEvidences, evidence.tenantId = tenantId
  everyArticle      : ∀ article ∈ articles,
                        article.objectId ∈ sourceEvidences.map (·.articleObjectId)
  noOther           : ∀ evidence ∈ sourceEvidences,
                        evidence.articleObjectId ∈ articles.map (·.objectId)

section Restore

variable {tenantId restoreDrillReportHash auditChainRef : String}
  {articles : List KnowledgeBaseArticleRecord}
  {sourceEvidences : List KnowledgeBaseSourceVersionEvidence}

theorem buildKnowledgeBaseRestoreEvidence_eq_ok {evidence : KnowledgeBaseRestoreEvidence} :
    buildKnowledgeBaseRestoreEvidence H tenantId articles sourceEvidences restoreDrillReportHash
        auditChainRef = .ok evidence ↔
      CoversArticles tenantId articles sourceEvidences ∧
        (restoreDraft H tenantId articles.length sourceEvidences restoreDrillReportHash
          auditChainRef).sealed H = .ok evidence := by
  unfold buildKnowledgeBaseRestoreEvidence
  rw [require_bind_eq_ok, require_bind_eq_ok, require_bind_eq_ok]
  constructor
  · rintro ⟨harticles, hevidences, ⟨hevery, hother⟩, h⟩
    exact ⟨⟨harticles, hevidences, hevery, hother⟩, h⟩
  · rintro ⟨hcovers, h⟩
    exact ⟨hcovers.articlesOfTenant, hcovers.evidencesOfTenant,
      ⟨hcovers.everyArticle, hcovers.noOther⟩, h⟩

/-- A restore evidence with the evidences it was built over. -/
structure Snapshot (H : HashFunctions)
    (sourceEvidences : List KnowledgeBaseSourceVersionEvidence)
    (restoreEvidence : KnowledgeBaseRestoreEvidence) : Prop where
  sealedSources : ∀ evidence ∈ sourceEvidences, evidence.IsSealed H
  sealedRestore : restoreEvidence.evidenceHash = buildRestoreEvidenceHash H restoreEvidence
  checksum      : restoreEvidence.checksumManifestHash = hashJson H (checksumPayload sourceEvidences)

end Restore

instance : Std.Total ByArticle := ⟨fun a b => le_total a.articleObjectId b.articleObjectId⟩

instance : IsTrans KnowledgeBaseSourceVersionEvidence ByArticle :=
  ⟨fun _ _ _ => le_trans (α := String)⟩

/-- Lists whose items are equal wherever they are related are equal. -/
theorem eq_of_forall₂ {α : Type} {r : α → α → Prop} {l m : List α} (h : List.Forall₂ r l m)
    (hr : ∀ a ∈ l, ∀ b ∈ m, r a b → a = b) : l = m := by
  induction h with
  | nil => rfl
  | cons hab _ ih =>
    rw [hr _ List.mem_cons_self _ List.mem_cons_self hab]
    congr 1
    exact ih fun a ha b hb => hr a (List.mem_cons_of_mem _ ha) b (List.mem_cons_of_mem _ hb)

/-- An entry of the checksum names the hash of its evidence. -/
theorem evidenceHash_of_same {evidence evidence' : KnowledgeBaseSourceVersionEvidence}
    (h : Json.Same (checksumEntry evidence) (checksumEntry evidence')) :
    evidence.evidenceHash = evidence'.evidenceHash := by
  have hkeys : ["article_object_id", "article_version_object_id", "source_manifest_hash",
      "content_hash", "evidence_hash"].Nodup := by decide
  exact Json.same_str.mp (@Json.same_of_mem _ _ h hkeys "evidence_hash" _ _ (by simp) (by simp))

/-- No collisions on what is hashed for the snapshots, kind by kind. -/
structure TellsSnapshotsApart (H : HashFunctions)
    (snapshots : Set (List KnowledgeBaseSourceVersionEvidence × KnowledgeBaseRestoreEvidence)) :
    Prop where
  sources   : Set.InjOn H.sha256 {text | ∃ snapshot ∈ snapshots, ∃ evidence ∈ snapshot.1,
                text = jsonBytes evidence.payload}
  checksums : Set.InjOn H.sha256 {text | ∃ snapshot ∈ snapshots,
                text = jsonBytes (checksumPayload snapshot.1)}
  restores  : Set.InjOn H.sha256 {text | ∃ snapshot ∈ snapshots,
                text = jsonBytes snapshot.2.payload}

/-- One snapshot of one evidence is apart from itself. -/
theorem tellsSnapshotsApart_of_one {snapshots : Set (List KnowledgeBaseSourceVersionEvidence ×
      KnowledgeBaseRestoreEvidence)} (h : snapshots.Subsingleton)
    (hone : ∀ snapshot ∈ snapshots, ∀ a ∈ snapshot.1, ∀ b ∈ snapshot.1, a = b) :
    TellsSnapshotsApart H snapshots := by
  constructor
  · intro text htext text' htext' _
    obtain ⟨snapshot, hmem, a, ha, htext⟩ := htext
    obtain ⟨snapshot', hmem', b, hb, htext'⟩ := htext'
    rw [h hmem' hmem] at hb
    rw [htext, htext', hone snapshot hmem a ha b hb]
  · intro text htext text' htext' _
    obtain ⟨snapshot, hmem, htext⟩ := htext
    obtain ⟨snapshot', hmem', htext'⟩ := htext'
    rw [htext, htext', h hmem hmem']
  · intro text htext text' htext' _
    obtain ⟨snapshot, hmem, htext⟩ := htext
    obtain ⟨snapshot', hmem', htext'⟩ := htext'
    rw [htext, htext', h hmem hmem']

/-- **One restore hash, one set of evidences.** -/
theorem perm_of_restoreEvidenceHash
    {snapshots : Set (List KnowledgeBaseSourceVersionEvidence × KnowledgeBaseRestoreEvidence)}
    (hapart : TellsSnapshotsApart H snapshots)
    {sourceEvidences sourceEvidences' : List KnowledgeBaseSourceVersionEvidence}
    {restoreEvidence restoreEvidence' : KnowledgeBaseRestoreEvidence}
    (hmem : (sourceEvidences, restoreEvidence) ∈ snapshots)
    (hmem' : (sourceEvidences', restoreEvidence') ∈ snapshots)
    (hsnap : Snapshot H sourceEvidences restoreEvidence)
    (hsnap' : Snapshot H sourceEvidences' restoreEvidence')
    (hhash : restoreEvidence.evidenceHash = restoreEvidence'.evidenceHash) :
    sourceEvidences.Perm sourceEvidences' := by
  -- from the outside in: restore payload, checksum payload, evidence payloads
  have hrestore : Json.Same restoreEvidence.payload restoreEvidence'.payload := by
    refine same_of_hashJson_eq hapart.restores ⟨_, hmem, rfl⟩ ⟨_, hmem', rfl⟩ ?_
    calc hashJson H restoreEvidence.payload = restoreEvidence.evidenceHash :=
          hsnap.sealedRestore.symm
      _ = restoreEvidence'.evidenceHash := hhash
      _ = hashJson H restoreEvidence'.payload := hsnap'.sealedRestore
  have hchecksum : restoreEvidence.checksumManifestHash = restoreEvidence'.checksumManifestHash :=
    Json.same_str.mp (@Json.same_of_mem _ _ hrestore
      (KnowledgeBaseRestoreEvidence.nodup_payloadKeys _) "checksum_manifest_hash" _ _
      (by simp [KnowledgeBaseRestoreEvidence.payloadMembers])
      (by simp [KnowledgeBaseRestoreEvidence.payloadMembers]))
  rw [hsnap.checksum, hsnap'.checksum] at hchecksum
  have hentries : List.Forall₂ (fun a b => Json.Same (checksumEntry a) (checksumEntry b))
      (sourceEvidences.insertionSort ByArticle) (sourceEvidences'.insertionSort ByArticle) := by
    have hsame := same_of_hashJson_eq hapart.checksums (x := checksumPayload sourceEvidences)
      (y := checksumPayload sourceEvidences') ⟨_, hmem, rfl⟩ ⟨_, hmem', rfl⟩ hchecksum
    rw [checksumPayload, checksumPayload, Json.same_arr, List.forall₂_map_left_iff,
      List.forall₂_map_right_iff] at hsame
    exact hsame
  have hsorted : sourceEvidences.insertionSort ByArticle =
      sourceEvidences'.insertionSort ByArticle := by
    refine eq_of_forall₂ hentries ?_
    intro a ha b hb hsame
    rw [List.mem_insertionSort] at ha hb
    exact KnowledgeBaseSourceVersionEvidence.eq_of_evidenceHash hapart.sources
      (hsnap.sealedSources a ha) (hsnap'.sealedSources b hb) ⟨_, hmem, a, ha, rfl⟩
      ⟨_, hmem', b, hb, rfl⟩ (evidenceHash_of_same hsame)
  have hperm := List.perm_insertionSort ByArticle sourceEvidences
  rw [hsorted] at hperm
  exact hperm.symm.trans (List.perm_insertionSort ByArticle sourceEvidences')

end Collabio
