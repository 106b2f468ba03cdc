import Mathlib.Tactic
import Collabio.Library.Dict
import Collabio.Library.Effect
import Collabio.ControlPlane.Models
import Collabio.Platform.Validation

/-!
# Candidates and authorized chunks

* `VectorStore`, `ChunkRepository`, `AclAuthorizer` — what retrieval is built on, any of which
  may raise;
* `InMemoryVectorStore.search`      — ranked by score, cut off at `top_k`;
* `getAuthorizedChunk`              — tenant, ACL and metadata checks of one candidate;
* `getAuthorizedChunk_eq_some`      — what an authorized chunk has passed.

Scores are compared only; `Score` is any linear order, so they are never NaN.
-/

namespace Collabio

structure ChunkMetadata where
  tenantId              : String
  sourceObjectId        : String
  sourceObjectType      : String
  sourceVersionId       : String
  chunkId               : String
  classification        : DataClass
  retentionPolicyId     : String
  legalHoldState        : String
  aclHash               : String
  aclVersion            : Int
  createdAtUtc          : String
  embeddingModelId      : String
  embeddingModelVersion : String
  contentHash           : String
  deriving DecidableEq, Repr

structure VectorCandidate (Score : Type) where
  chunkId  : String
  score    : Score
  metadata : ChunkMetadata
  deriving DecidableEq, Repr

structure SourceChunk where
  metadata : ChunkMetadata
  title    : String
  text     : String
  deriving DecidableEq, Repr

/-- `search(tenant_id, query, top_k)`. -/
abbrev VectorStore (Score : Type) :=
  (tenantId query : String) → (topK : Nat) → Except Exn (List (VectorCandidate Score))

/-- `get_chunk(tenant_id, source_object_id, source_version_id, chunk_id)`. -/
abbrev ChunkRepository :=
  (tenantId sourceObjectId sourceVersionId chunkId : String) → Except Exn SourceChunk

/-- `can_read(user_context, object_id, acl_version)`. -/
abbrev AclAuthorizer :=
  (user : UserContext) → (objectId : String) → (aclVersion : Int) → Except Exn Bool

/-! ## The in-memory stores -/

/-- Descending by score; candidates of one score keep their order. -/
def ByScore {Score : Type} [LinearOrder Score] (a b : VectorCandidate Score) : Prop :=
  b.score ≤ a.score

instance {Score : Type} [LinearOrder Score] :
    DecidableRel (ByScore : VectorCandidate Score → VectorCandidate Score → Prop) :=
  fun a b => inferInstanceAs (Decidable (b.score ≤ a.score))

instance {Score : Type} [LinearOrder Score] :
    IsTrans (VectorCandidate Score) ByScore :=
  ⟨fun _ _ _ hab hbc => le_trans hbc hab⟩

instance {Score : Type} [LinearOrder Score] :
    Std.Total (ByScore : VectorCandidate Score → VectorCandidate Score → Prop) :=
  ⟨fun a b => le_total b.score a.score⟩

/-- `InMemoryVectorStore.search`, over the candidates of the store. -/
def InMemoryVectorStore.search {Score : Type} [LinearOrder Score]
    (candidates : List (VectorCandidate Score)) : VectorStore Score :=
  fun tenantId _ topK => .ok (((candidates.filter fun candidate =>
    candidate.metadata.tenantId = tenantId).insertionSort ByScore).take topK)

/-- `InMemorySourceChunkRepository.get_chunk`. -/
def InMemorySourceChunkRepository.getChunk
    (chunks : Dict (String × String × String × String) SourceChunk) : ChunkRepository :=
  fun tenantId sourceObjectId sourceVersionId chunkId =>
    match chunks.get? (tenantId, sourceObjectId, sourceVersionId, chunkId) with
    | some chunk => .ok chunk
    | none => .error .keyError

/-! ## Object ids -/

/-- Keep the first of equal ids, with those already seen. -/
def uniqueFrom (seen : List String) : List String → List String
  | [] => []
  | objectId :: rest =>
    if objectId ∈ seen then uniqueFrom seen rest
    else objectId :: uniqueFrom (objectId :: seen) rest

theorem mem_uniqueFrom {seen ids : List String} {objectId : String} :
    objectId ∈ uniqueFrom seen ids ↔ objectId ∈ ids ∧ objectId ∉ seen := by
  induction ids generalizing seen with
  | nil => simp [uniqueFrom]
  | cons other rest ih =>
    rw [uniqueFrom]
    by_cases hseen : other ∈ seen
    · rw [if_pos hseen, ih, List.mem_cons]
      constructor
      · rintro ⟨hmem, hnot⟩
        exact ⟨.inr hmem, hnot⟩
      · rintro ⟨rfl | hmem, hnot⟩
        · exact absurd hseen hnot
        · exact ⟨hmem, hnot⟩
    · rw [if_neg hseen, List.mem_cons, ih, List.mem_cons, List.mem_cons, not_or]
      by_cases hsame : objectId = other
      · simp [hsame, hseen]
      · simp [hsame]

/-! ## Authorization -/

structure AuthorizedChunkRepository where
  chunkRepository : ChunkRepository
  aclAuthorizer   : AclAuthorizer

/-- `_metadata_matches_candidate`: all fields but `created_at_utc`. -/
structure MetadataMatches (actual expected : ChunkMetadata) : Prop where
  tenantId              : actual.tenantId = expected.tenantId
  sourceObjectId        : actual.sourceObjectId = expected.sourceObjectId
  sourceObjectType      : actual.sourceObjectType = expected.sourceObjectType
  sourceVersionId       : actual.sourceVersionId = expected.sourceVersionId
  chunkId               : actual.chunkId = expected.chunkId
  classification        : actual.classification = expected.classification
  retentionPolicyId     : actual.retentionPolicyId = expected.retentionPolicyId
  legalHoldState        : actual.legalHoldState = expected.legalHoldState
  aclHash               : actual.aclHash = expected.aclHash
  aclVersion            : actual.aclVersion = expected.aclVersion
  embeddingModelId      : actual.embeddingModelId = expected.embeddingModelId
  embeddingModelVersion : actual.embeddingModelVersion = expected.embeddingModelVersion
  contentHash           : actual.contentHash = expected.contentHash

/-- What is compared. -/
def ChunkMetadata.compared (metadata : ChunkMetadata) : ChunkMetadata :=
  { metadata with createdAtUtc := "" }

theorem metadataMatches_iff {actual expected : ChunkMetadata} :
    MetadataMatches actual expected ↔ actual.compared = expected.compared := by
  obtain ⟨⟩ := actual
  obtain ⟨⟩ := expected
  simp only [ChunkMetadata.compared, ChunkMetadata.mk.injEq, true_and]
  constructor
  · rintro ⟨h1, h2, h3, h4, h5, h6, h7, h8, h9, h10, h11, h12, h13⟩
    exact ⟨h1, h2, h3, h4, h5, h6, h7, h8, h9, h10, h11, h12, h13⟩
  · rintro ⟨h1, h2, h3, h4, h5, h6, h7, h8, h9, h10, h11, h12, h13⟩
    exact ⟨h1, h2, h3, h4, h5, h6, h7, h8, h9, h10, h11, h12, h13⟩

instance (actual expected : ChunkMetadata) : Decidable (MetadataMatches actual expected) :=
  decidable_of_iff _ metadataMatches_iff.symm

namespace AuthorizedChunkRepository

variable {Score : Type}

/-- The chunk behind a candidate, `None` where there is none. -/
def findChunk (repository : AuthorizedChunkRepository) (metadata : ChunkMetadata) :
    Except Exn (Option SourceChunk) :=
  match repository.chunkRepository metadata.tenantId metadata.sourceObjectId
      metadata.sourceVersionId metadata.chunkId with
  | .ok chunk => .ok (some chunk)
  | .error .keyError => .ok none
  | .error exn => .error exn

/-- `get_authorized_chunk`, once the ACL check has returned. -/
def readChunk (repository : AuthorizedChunkRepository) (candidate : VectorCandidate Score)
    (canRead : Bool) : Except Exn (Option SourceChunk) :=
  if canRead then do
    let chunk? ← repository.findChunk candidate.metadata
    return chunk?.filter fun chunk => MetadataMatches chunk.metadata candidate.metadata
  else .ok none

def getAuthorizedChunk (repository : AuthorizedChunkRepository) (user : UserContext)
    (candidate : VectorCandidate Score) : Except Exn (Option SourceChunk) :=
  if candidate.metadata.tenantId ≠ user.tenantId then .ok none
  else do
    let canRead ← repository.aclAuthorizer user candidate.metadata.sourceObjectId
      candidate.metadata.aclVersion
    repository.readChunk candidate canRead

/-- What an authorized chunk has passed. -/
structure Authorized (repository : AuthorizedChunkRepository) (user : UserContext)
    (candidate : VectorCandidate Score) (chunk : SourceChunk) : Prop where
  tenant   : chunk.metadata.tenantId = user.tenantId
  readable : repository.aclAuthorizer user chunk.metadata.sourceObjectId
               chunk.metadata.aclVersion = .ok true
  stored   : repository.chunkRepository candidate.metadata.tenantId
               candidate.metadata.sourceObjectId candidate.metadata.sourceVersionId
               candidate.metadata.chunkId = .ok chunk
  isMatch  : MetadataMatches chunk.metadata candidate.metadata

theorem findChunk_eq_some {repository : AuthorizedChunkRepository} {metadata : ChunkMetadata}
    {chunk : SourceChunk} (h : repository.findChunk metadata = .ok (some chunk)) :
    repository.chunkRepository metadata.tenantId metadata.sourceObjectId metadata.sourceVersionId
      metadata.chunkId = .ok chunk := by
  unfold findChunk at h
  split at h
  · rename_i found hfound
    cases h
    exact hfound
  · cases h
  · cases h

/-- **One candidate**: what is read is of the user's tenant, readable and unchanged. -/
theorem getAuthorizedChunk_eq_some {repository : AuthorizedChunkRepository} {user : UserContext}
    {candidate : VectorCandidate Score} {chunk : SourceChunk}
    (h : repository.getAuthorizedChunk user candidate = .ok (some chunk)) :
    repository.Authorized user candidate chunk := by
  unfold getAuthorizedChunk at h
  split at h
  · cases h
  · rename_i htenant
    rw [not_not] at htenant
    obtain ⟨canRead, hcanRead, h⟩ := Except.bind_eq_ok.mp h
    unfold readChunk at h
    split at h
    · rename_i hreadable
      obtain ⟨found, hfound, h⟩ := Except.bind_eq_ok.mp h
      -- what was found is kept only if its metadata match the candidate's
      have hfilter : (found.filter fun chunk => MetadataMatches chunk.metadata candidate.metadata) =
          some chunk := Except.ok.inj h
      rw [Option.filter_eq_some_iff] at hfilter
      obtain ⟨rfl, hmatch⟩ := hfilter
      have hmatches := of_decide_eq_true hmatch
      exact {
        tenant := by rw [hmatches.tenantId, htenant]
        readable := by rw [hmatches.sourceObjectId, hmatches.aclVersion, hcanRead, hreadable]
        stored := findChunk_eq_some hfound
        isMatch := hmatches }
    · cases h

end AuthorizedChunkRepository

end Collabio
