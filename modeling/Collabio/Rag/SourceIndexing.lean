import Mathlib.Tactic
import Collabio.Rag.EmbeddingModels
import Collabio.Rag.VectorWorker
import Collabio.Storage.ContentHash

/-!
# Indexing a source

`SourceIndexingPipeline.index_source` down to the calls of the vector store, whose calls are
kept in a log. Resolver, extractor, chunker, embedding provider and clock are parameters; so
are the numbers of rows that the store reports. Store and audit calls return.

* `ChunkMetadata.modelValidate`, `EmbeddedRecord.modelValidate` — the record models, which
  strip what they are given;
* `IndexingParts.buildRecord`, `IndexingParts.indexSource`      — the pipeline;
* `buildRecord_spec`            — what a record takes over from its source and its chunk;
* `index_source_all_or_nothing` — no store call, or all those of one homogeneous reindex.
-/

namespace Collabio

/-! ## The record models -/

/-- `SOURCE_OBJECT_TYPES`. -/
def sourceObjectTypes : List String :=
  ["document", "mail", "attachment", "comment", "wiki", "procedure_doc"]

/-- `LEGAL_HOLD_STATES`. -/
def legalHoldStates : List String := ["none", "active"]

def requireKnown (field value text : String) (known : List String) : List FieldError :=
  if value ∈ known then [] else [⟨field, .message text⟩]

/-- `Field(ge=least)`. -/
def requireAtLeast (field : String) (least value : Int) : List FieldError :=
  if least ≤ value then []
  else [⟨field, .message ("Input should be greater than or equal to " ++ toString least)⟩]

namespace ChunkMetadata

/-- The fields as their validators return them. -/
def normalized (metadata : ChunkMetadata) : ChunkMetadata :=
  { metadata with
    tenantId := Text.strip metadata.tenantId
    sourceObjectId := Text.strip metadata.sourceObjectId
    sourceObjectType := Text.strip metadata.sourceObjectType
    sourceVersionId := Text.strip metadata.sourceVersionId
    chunkId := Text.strip metadata.chunkId
    retentionPolicyId := Text.strip metadata.retentionPolicyId
    legalHoldState := Text.strip metadata.legalHoldState
    aclHash := Text.strip metadata.aclHash
    createdAtUtc := Text.strip metadata.createdAtUtc
    embeddingModelId := Text.strip metadata.embeddingModelId
    embeddingModelVersion := Text.strip metadata.embeddingModelVersion
    contentHash := Text.strip metadata.contentHash }

def errors (metadata : ChunkMetadata) : List FieldError :=
  requireNonEmpty "tenant_id" metadata.tenantId ++
    requireNonEmpty "source_object_id" metadata.sourceObjectId ++
    requireKnown "source_object_type" metadata.sourceObjectType
      "source_object_type must be a known source object type" sourceObjectTypes ++
    requireNonEmpty "source_version_id" metadata.sourceVersionId ++
    requireNonEmpty "chunk_id" metadata.chunkId ++
    requireNonEmpty "retention_policy_id" metadata.retentionPolicyId ++
    requireKnown "legal_hold_state" metadata.legalHoldState
      "legal_hold_state must be none or active" legalHoldStates ++
    requireNamespacedRef "acl_hash" metadata.aclHash ++
    requireAtLeast "acl_version" 1 metadata.aclVersion ++
    requireUtcTimestamp "created_at_utc" metadata.createdAtUtc ++
    requireNonEmpty "embedding_model_id" metadata.embeddingModelId ++
    requireNonEmpty "embedding_model_version" metadata.embeddingModelVersion ++
    requireNamespacedRef "content_hash" metadata.contentHash

def modelValidate (metadata : ChunkMetadata) : Except Exn ChunkMetadata :=
  accept "ChunkMetadata" metadata.normalized.errors metadata.normalized

end ChunkMetadata

/-- A record with its vector. The numbers of a vector are of a type `E`, some of them finite. -/
structure EmbeddedRecord (E : Type) (isFinite : E → Bool) where
  record     : VectorEmbeddingRecord
  embedding  : List E
  dimensions : record.embeddingDimensions = embedding.length
  finite     : ∀ value ∈ embedding, isFinite value = true

/-- `VectorEmbeddingRecord(...)` for a vector and its own length, which the model's check of
the dimensions compares. -/
def EmbeddedRecord.modelValidate {E : Type} (isFinite : E → Bool) (metadata : ChunkMetadata)
    (embedding : List E) (contentByteLength : Int) (indexedAtUtc : String)
    (auditEventId : Option String) : Except Exn (EmbeddedRecord E isFinite) := do
  let indexedAtUtc ← accept "VectorEmbeddingRecord"
    (requireAtLeast "embedding_dimensions" 1 embedding.length ++
      requireAtLeast "content_byte_length" 0 contentByteLength ++
      requireUtcTimestamp "indexed_at_utc" (Text.strip indexedAtUtc))
    (Text.strip indexedAtUtc)
  if finite : ∀ value ∈ embedding, isFinite value = true then
    return {
      record := {
        metadata := metadata
        embeddingDimensions := embedding.length
        contentByteLength := contentByteLength.toNat
        indexedAtUtc := indexedAtUtc
        auditEventId := auditEventId }
      embedding := embedding
      dimensions := rfl
      finite := finite }
  else .error (.validationError "VectorEmbeddingRecord"
    [⟨"", .message "embedding values must be finite"⟩])

/-! ## The store and the worker -/

/-- A call of the vector store. -/
inductive VectorStoreCall (E : Type) (isFinite : E → Bool) where
  | markSourceForReindex (tenantId sourceObjectId sourceVersionId : String)
      (auditEventId : Option String)
  | upsertEmbedding (record : EmbeddedRecord E isFinite)
  | deleteReindexOrphans (tenantId sourceObjectId sourceVersionId : String)
      (keepChunkIds : List String) (auditEventId : Option String)

structure SourceIndexCommand where
  tenantId           : String
  sourceObjectId     : String
  sourceVersionId    : String
  expectedAclHash    : Option String := none
  expectedAclVersion : Option Int := none
  auditEventId       : Option String := none

structure SourceIndexResult where
  sourceObjectId  : String
  sourceVersionId : String
  chunkCount      : Nat
  reindexResult   : ReindexSourceResult
  deriving DecidableEq, Repr

section

variable {E : Type} {isFinite : E → Bool}

namespace SourceIndexCommand

/-- The command that `index_source` hands to the worker. -/
def reindexCommand (command : SourceIndexCommand) (records : List (EmbeddedRecord E isFinite)) :
    ReindexSourceCommand where
  tenantId := command.tenantId
  sourceObjectId := command.sourceObjectId
  sourceVersionId := command.sourceVersionId
  chunks := records.map (·.record)
  expectedAclHash := command.expectedAclHash
  expectedAclVersion := command.expectedAclVersion
  auditEventId := command.auditEventId

/-- The store calls of one whole reindex. -/
def reindexCalls (command : SourceIndexCommand) (records : List (EmbeddedRecord E isFinite)) :
    List (VectorStoreCall E isFinite) :=
  .markSourceForReindex command.tenantId command.sourceObjectId command.sourceVersionId
      command.auditEventId ::
    records.map .upsertEmbedding ++
    [.deleteReindexOrphans command.tenantId command.sourceObjectId command.sourceVersionId
      (records.map (·.record.metadata.chunkId)) command.auditEventId]

end SourceIndexCommand

/-- One store call, with the number of rows that it reports. -/
def storeCall (rowCount : List (VectorStoreCall E isFinite) → Nat)
    (call : VectorStoreCall E isFinite) : Eff Exn (List (VectorStoreCall E isFinite)) Nat :=
  fun calls => (.ok (rowCount (calls ++ [call])), calls ++ [call])

/-- The loop over the chunks. -/
def upsertAll (rowCount : List (VectorStoreCall E isFinite) → Nat) :
    List (EmbeddedRecord E isFinite) → Eff Exn (List (VectorStoreCall E isFinite)) Unit
  | [] => pure ()
  | record :: records => do
    let _ ← storeCall rowCount (.upsertEmbedding record)
    upsertAll rowCount records

/-- `VectorIndexWorker.reindex_source`. -/
def workerReindexSource (rowCount : List (VectorStoreCall E isFinite) → Nat)
    (command : SourceIndexCommand) (records : List (EmbeddedRecord E isFinite)) :
    Eff Exn (List (VectorStoreCall E isFinite)) ReindexSourceResult := do
  Eff.lift (command.reindexCommand records).validate
  let marked ← storeCall rowCount (.markSourceForReindex command.tenantId command.sourceObjectId
    command.sourceVersionId command.auditEventId)
  upsertAll rowCount records
  let deletedStale ← storeCall rowCount (.deleteReindexOrphans command.tenantId
    command.sourceObjectId command.sourceVersionId (records.map (·.record.metadata.chunkId))
    command.auditEventId)
  return ⟨marked, records.length, deletedStale⟩

end

/-! ## The pipeline -/

structure ResolvedSource where
  tenantId          : String
  objectId          : String
  versionId         : String
  title             : String
  text              : String
  classification    : DataClass
  sourceObjectType  : String
  retentionPolicyId : String
  legalHoldState    : String
  aclHash           : String
  aclVersion        : Int
  createdAtUtc      : String
  mimeType          : String := "text/plain"
  contentBytes      : Option Bytes := none

structure ExtractedChunk where
  chunkId           : String
  text              : String
  contentHash       : String
  contentByteLength : Int

/-- What a pipeline is built from. The embedding provider and the clock may answer each
time, with the number of the chunk, as they like. -/
structure IndexingParts (E : Type) where
  resolveSource  : String → String → String → Except Exn ResolvedSource
  extractText    : ResolvedSource → Except Exn String
  chunk          : ResolvedSource → String → Except Exn (List ExtractedChunk)
  embed          : ℕ → String → Except Exn (List E)
  indexedAtClock : ℕ → String
  pipeline       : SourceIndexingPipeline

/-- `_validate_source`. -/
def SourceIndexCommand.validateSource (command : SourceIndexCommand) (source : ResolvedSource) :
    Except Exn Unit := do
  require (source.tenantId = command.tenantId)
    (.valueError (.message "resolved source tenant_id does not match index command"))
  require (source.objectId = command.sourceObjectId)
    (.valueError (.message "resolved source object_id does not match index command"))
  require (source.versionId = command.sourceVersionId)
    (.valueError (.message "resolved source version_id does not match index command"))
  require (1 ≤ source.aclVersion)
    (.valueError (.message "resolved source acl_version must be greater than or equal to 1"))
  require (∀ expected ∈ command.expectedAclHash, source.aclHash = expected)
    (.valueError (.message "resolved source acl_hash does not match index command"))
  require (∀ expected ∈ command.expectedAclVersion, source.aclVersion = expected)
    (.valueError (.message "resolved source acl_version does not match index command"))

namespace IndexingParts

variable {E : Type} (isFinite : E → Bool) (parts : IndexingParts E)

/-- `_build_record`, for the chunk number `k`. -/
def buildRecord (source : ResolvedSource) (auditEventId : Option String)
    (chunk : ExtractedChunk × ℕ) : Except Exn (EmbeddedRecord E isFinite) := do
  let (chunk, k) := chunk
  let embedding ← parts.embed k chunk.text
  require ((embedding.length : Int) = parts.pipeline.embeddingModel.dimensions)
    (.valueError (.message "embedding dimensions do not match registered model version"))
  let metadata ← ChunkMetadata.modelValidate {
    tenantId := source.tenantId
    sourceObjectId := source.objectId
    sourceObjectType := source.sourceObjectType
    sourceVersionId := source.versionId
    chunkId := chunk.chunkId
    classification := source.classification
    retentionPolicyId := source.retentionPolicyId
    legalHoldState := source.legalHoldState
    aclHash := source.aclHash
    aclVersion := source.aclVersion
    createdAtUtc := source.createdAtUtc
    embeddingModelId := parts.pipeline.embeddingModelId
    embeddingModelVersion := parts.pipeline.embeddingModelVersion
    contentHash := chunk.contentHash }
  EmbeddedRecord.modelValidate isFinite metadata embedding chunk.contentByteLength
    (parts.indexedAtClock k) auditEventId

/-- Everything before the worker: the records of the source. -/
def buildRecords (command : SourceIndexCommand) :
    Except Exn (List (EmbeddedRecord E isFinite)) := do
  let source ← parts.resolveSource command.tenantId command.sourceObjectId command.sourceVersionId
  command.validateSource source
  parts.pipeline.validateEmbeddingModelForSource source.classification
  let text ← parts.extractText source
  let chunks ← parts.chunk source text
  chunks.zipIdx.mapM (parts.buildRecord isFinite source command.auditEventId)

/-- `index_source`. -/
def indexSource (rowCount : List (VectorStoreCall E isFinite) → Nat)
    (command : SourceIndexCommand) :
    Eff Exn (List (VectorStoreCall E isFinite)) SourceIndexResult := do
  let records ← Eff.lift (parts.buildRecords isFinite command)
  let reindexResult ← workerReindexSource rowCount command records
  return ⟨command.sourceObjectId, command.sourceVersionId, records.length, reindexResult⟩

/-! ## Records -/

variable {isFinite} {parts}

/-- What the record of a chunk takes over from its source, from the chunk and from the
embedding provider: texts of the source and the chunk lose the whitespace around them. -/
structure RecordOf (parts : IndexingParts E) (source : ResolvedSource) (chunk : ExtractedChunk)
    (k : ℕ) (record : EmbeddedRecord E isFinite) : Prop where
  tenantId          : record.record.metadata.tenantId = Text.strip source.tenantId
  objectId          : record.record.metadata.sourceObjectId = Text.strip source.objectId
  versionId         : record.record.metadata.sourceVersionId = Text.strip source.versionId
  classification    : record.record.metadata.classification = source.classification
  retentionPolicyId : record.record.metadata.retentionPolicyId =
                        Text.strip source.retentionPolicyId
  aclHash           : record.record.metadata.aclHash = Text.strip source.aclHash
  aclVersion        : record.record.metadata.aclVersion = source.aclVersion
  chunkId           : record.record.metadata.chunkId = Text.strip chunk.chunkId
  contentHash       : record.record.metadata.contentHash = Text.strip chunk.contentHash
  contentByteLength : (record.record.contentByteLength : Int) = chunk.contentByteLength
  vector            : parts.embed k chunk.text = .ok record.embedding
  dimension         : (record.embedding.length : Int) = parts.pipeline.embeddingModel.dimensions

theorem buildRecord_spec {source : ResolvedSource} {auditEventId : Option String}
    {chunk : ExtractedChunk} {k : ℕ} {record : EmbeddedRecord E isFinite}
    (h : parts.buildRecord isFinite source auditEventId (chunk, k) = .ok record) :
    RecordOf parts source chunk k record := by
  obtain ⟨embedding, hembed, h⟩ := Except.bind_eq_ok.mp h
  obtain ⟨hdimension, h⟩ := require_bind_eq_ok.mp h
  obtain ⟨metadata, hmetadata, h⟩ := Except.bind_eq_ok.mp h
  obtain ⟨-, rfl⟩ := accept_eq_ok.mp hmetadata
  obtain ⟨indexedAtUtc, hfields, h⟩ := Except.bind_eq_ok.mp h
  have herrors := (accept_eq_ok.mp hfields).1
  have hlength : 0 ≤ chunk.contentByteLength := by
    rw [List.append_eq_nil_iff, List.append_eq_nil_iff] at herrors
    have hleast := herrors.1.2
    rw [requireAtLeast] at hleast
    by_contra hneg
    rw [if_neg hneg] at hleast
    cases hleast
  split at h
  · cases h
    exact ⟨rfl, rfl, rfl, rfl, rfl, rfl, rfl, rfl, rfl, Int.toNat_of_nonneg hlength, hembed,
      hdimension⟩
  · cases h

/-- The records are those of the chunks, in their order. -/
theorem buildRecords_spec {command : SourceIndexCommand}
    {records : List (EmbeddedRecord E isFinite)}
    (h : parts.buildRecords isFinite command = .ok records) :
    ∃ source text chunks,
      parts.resolveSource command.tenantId command.sourceObjectId command.sourceVersionId =
        .ok source ∧
      command.validateSource source = .ok () ∧
      parts.extractText source = .ok text ∧ parts.chunk source text = .ok chunks ∧
      List.Forall₂ (fun (chunk : ExtractedChunk × ℕ) record =>
        RecordOf parts source chunk.1 chunk.2 record) chunks.zipIdx records := by
  obtain ⟨source, hsource, h⟩ := Except.bind_eq_ok.mp h
  obtain ⟨_, hvalid, h⟩ := Except.bind_eq_ok.mp h
  obtain ⟨_, -, h⟩ := Except.bind_eq_ok.mp h
  obtain ⟨text, htext, h⟩ := Except.bind_eq_ok.mp h
  obtain ⟨chunks, hchunks, h⟩ := Except.bind_eq_ok.mp h
  refine ⟨source, text, chunks, hsource, hvalid, htext, hchunks, ?_⟩
  exact (Except.mapM_eq_ok.mp h).imp fun chunk record hrecord => buildRecord_spec hrecord

/-! ## The worker -/

theorem upsertAll_apply (rowCount : List (VectorStoreCall E isFinite) → Nat)
    (records : List (EmbeddedRecord E isFinite)) (calls : List (VectorStoreCall E isFinite)) :
    upsertAll rowCount records calls = (.ok (), calls ++ records.map .upsertEmbedding) := by
  induction records generalizing calls with
  | nil => simp [upsertAll]
  | cons record records ih =>
    have hcall : storeCall rowCount (.upsertEmbedding record) calls =
        (.ok _, calls ++ [.upsertEmbedding record]) := rfl
    rw [upsertAll, Eff.bind_of_ok hcall, ih]
    simp

/-- A command that the worker accepts leads to all its store calls, any other to none. -/
theorem workerReindexSource_apply (rowCount : List (VectorStoreCall E isFinite) → Nat)
    (command : SourceIndexCommand) (records : List (EmbeddedRecord E isFinite))
    (calls : List (VectorStoreCall E isFinite)) :
    (∃ exn, (command.reindexCommand records).validate = .error exn ∧
      workerReindexSource rowCount command records calls = (.error exn, calls)) ∨
    ((command.reindexCommand records).validate = .ok () ∧
      ∃ result : ReindexSourceResult, result.upsertedChunks = records.length ∧
        workerReindexSource rowCount command records calls =
          (.ok result, calls ++ command.reindexCalls records)) := by
  rw [workerReindexSource, Eff.lift_bind_apply]
  cases hvalid : (command.reindexCommand records).validate with
  | error exn => exact .inl ⟨exn, rfl, rfl⟩
  | ok _ =>
    refine .inr ⟨rfl, ?_⟩
    dsimp only
    -- mark, write all, delete what is left over: each is one call more
    have hmark : storeCall rowCount (.markSourceForReindex command.tenantId
        command.sourceObjectId command.sourceVersionId command.auditEventId) calls =
        (.ok _, calls ++ [_]) := rfl
    have horphans : ∀ before, storeCall rowCount (.deleteReindexOrphans command.tenantId
        command.sourceObjectId command.sourceVersionId
        (records.map (·.record.metadata.chunkId)) command.auditEventId) before =
        (.ok _, before ++ [_]) := fun _ => rfl
    rw [Eff.bind_of_ok hmark, Eff.bind_of_ok (upsertAll_apply rowCount records _),
      Eff.bind_of_ok (horphans _), Eff.pure_apply]
    have hcalls : ∀ mark orphans : VectorStoreCall E isFinite,
        calls ++ [mark] ++ records.map .upsertEmbedding ++ [orphans] =
          calls ++ (mark :: records.map .upsertEmbedding ++ [orphans]) := by simp
    rw [hcalls]
    refine ⟨_, ?_, rfl⟩
    rfl

/-! ## The whole call -/

theorem nodup_of_duplicateChunkIds {chunks : List VectorEmbeddingRecord}
    (h : ReindexSourceCommand.duplicateChunkIds chunks = []) :
    (chunks.map (·.metadata.chunkId)).Nodup := by
  rw [List.nodup_iff_count_le_one]
  intro chunkId
  by_contra hmany
  have hcount : 1 < (chunks.map (·.metadata.chunkId)).count chunkId := by omega
  have hmem : chunkId ∈ chunks.map (·.metadata.chunkId) :=
    List.count_pos_iff.mp (by omega)
  have hduplicate : chunkId ∈ ReindexSourceCommand.duplicateChunkIds chunks := by
    rw [ReindexSourceCommand.duplicateChunkIds, List.mem_mergeSort, List.mem_filter]
    exact ⟨List.mem_dedup.mpr hmem, by simpa using hcount⟩
  rw [h] at hduplicate
  cases hduplicate

/-- What the worker has checked of a command that it carries out. -/
theorem validate_spec {command : ReindexSourceCommand} (h : command.validate = .ok ()) :
    (command.chunks.map (·.metadata.chunkId)).Nodup ∧ ∀ chunk ∈ command.chunks,
      chunk.metadata.tenantId = command.tenantId ∧
        chunk.metadata.sourceObjectId = command.sourceObjectId ∧
        chunk.metadata.sourceVersionId = command.sourceVersionId := by
  obtain ⟨-, h⟩ := require_bind_eq_ok.mp h
  obtain ⟨hduplicates, h⟩ := require_bind_eq_ok.mp h
  obtain ⟨_, hchunks, -⟩ := Except.bind_eq_ok.mp h
  refine ⟨nodup_of_duplicateChunkIds hduplicates, fun chunk hmem => ?_⟩
  have hchunk := Except.forM_eq_ok.mp hchunks chunk hmem
  obtain ⟨htenant, hchunk⟩ := require_bind_eq_ok.mp hchunk
  obtain ⟨hobject, hchunk⟩ := require_bind_eq_ok.mp hchunk
  obtain ⟨hversion, -⟩ := require_bind_eq_ok.mp hchunk
  exact ⟨htenant, hobject, hversion⟩

/-- The record of a chunk, as it is written: it belongs to its source. -/
structure WrittenRecordOf (parts : IndexingParts E) (source : ResolvedSource)
    (chunk : ExtractedChunk) (k : ℕ) (record : EmbeddedRecord E isFinite) : Prop extends
    RecordOf parts source chunk k record where
  ofTenant  : record.record.metadata.tenantId = source.tenantId
  ofObject  : record.record.metadata.sourceObjectId = source.objectId
  ofVersion : record.record.metadata.sourceVersionId = source.versionId

/-- **Validate before write.** `index_source` raises without a store call, or carries out one
whole reindex: of the records of the chunks, in their order, with pairwise distinct chunk
ids, all belonging to the source. -/
theorem index_source_all_or_nothing (isFinite : E → Bool) (parts : IndexingParts E)
    (rowCount : List (VectorStoreCall E isFinite) → Nat) (command : SourceIndexCommand)
    (calls : List (VectorStoreCall E isFinite)) :
    (∃ exn, parts.indexSource isFinite rowCount command calls = (.error exn, calls)) ∨
    ∃ source text chunks records result,
      parts.resolveSource command.tenantId command.sourceObjectId command.sourceVersionId =
        .ok source ∧
      parts.extractText source = .ok text ∧ parts.chunk source text = .ok chunks ∧
      parts.indexSource isFinite rowCount command calls =
        (.ok result, calls ++ command.reindexCalls records) ∧
      result.chunkCount = chunks.length ∧ result.reindexResult.upsertedChunks = chunks.length ∧
      (records.map (·.record.metadata.chunkId)).Nodup ∧
      List.Forall₂ (fun (chunk : ExtractedChunk × ℕ) record =>
        WrittenRecordOf parts source chunk.1 chunk.2 record) chunks.zipIdx records := by
  rw [indexSource, Eff.lift_bind_apply]
  cases hrecords : parts.buildRecords isFinite command with
  | error exn => exact .inl ⟨exn, rfl⟩
  | ok records =>
    dsimp only
    -- the records are built before the worker is called
    obtain ⟨source, text, chunks, hsource, hcommand, htext, hchunks, hall⟩ :=
      buildRecords_spec hrecords
    have hlength : chunks.length = records.length := by
      simpa using hall.length_eq
    rcases workerReindexSource_apply rowCount command records calls with
      ⟨exn, -, hraises⟩ | ⟨hvalid, result, hupserted, hreturns⟩
    · rw [Eff.bind_of_error hraises]
      exact .inl ⟨exn, rfl⟩
    · obtain ⟨hnodup, hbelong⟩ := validate_spec hvalid
      rw [Eff.bind_of_ok hreturns, Eff.pure_apply]
      refine .inr ⟨source, text, chunks, records, _, hsource, htext, hchunks, rfl, hlength.symm,
        hupserted.trans hlength.symm, ?_, ?_⟩
      · simpa [SourceIndexCommand.reindexCommand, Function.comp_def] using hnodup
      · -- the source is the one of the command, which the records name
        obtain ⟨htenant, hcommand⟩ := require_bind_eq_ok.mp hcommand
        obtain ⟨hobject, hcommand⟩ := require_bind_eq_ok.mp hcommand
        obtain ⟨hversion, -⟩ := require_bind_eq_ok.mp hcommand
        have hwritten : ∀ record ∈ records,
            record.record.metadata.tenantId = source.tenantId ∧
              record.record.metadata.sourceObjectId = source.objectId ∧
              record.record.metadata.sourceVersionId = source.versionId := by
          intro record hmem
          obtain ⟨h₁, h₂, h₃⟩ := hbelong record.record (List.mem_map_of_mem hmem)
          exact ⟨h₁.trans htenant.symm, h₂.trans hobject.symm, h₃.trans hversion.symm⟩
        rw [List.forall₂_iff_get] at hall ⊢
        refine ⟨hall.1, fun i hi hi' => ?_⟩
        obtain ⟨h₁, h₂, h₃⟩ := hwritten _ (List.get_mem records ⟨i, hi'⟩)
        exact ⟨hall.2 i hi hi', h₁, h₂, h₃⟩

/-! ## A source with whitespace around its retention policy -/

/-- One chunk with a vector of length three, under the approved mock model. -/
def sampleIndexingParts : IndexingParts Unit where
  resolveSource tenantId objectId versionId := .ok {
    tenantId, objectId, versionId
    title := "Note"
    text := "text"
    classification := .internal
    sourceObjectType := "document"
    retentionPolicyId := " rp-standard "
    legalHoldState := "none"
    aclHash := "sha256:1"
    aclVersion := 1
    createdAtUtc := "2026-06-10T00:00:00Z" }
  extractText source := .ok source.text
  chunk _ text := .ok [⟨"chunk-0000", text, "sha256:2", 4⟩]
  embed _ _ := .ok [(), (), ()]
  indexedAtClock _ := "2026-06-10T00:00:00Z"
  pipeline := {
    embeddingModelId := "mock-embedding"
    embeddingModelVersion := "1"
    embeddingModel := {
      embeddingModelId := "mock-embedding"
      embeddingModelVersion := "1"
      provider := "local-test"
      deployment := "deterministic-hash"
      dimensions := 3
      checksum := "sha256:3"
      approvedForDataClasses := [.internal]
      approvedAtUtc := some "2026-06-10T00:00:00Z" } }

/-- The retention policies of the records that were written. -/
def writtenPolicies (calls : List (VectorStoreCall E isFinite)) : List String :=
  calls.filterMap fun
    | .upsertEmbedding record => some record.record.metadata.retentionPolicyId
    | .markSourceForReindex .. | .deleteReindexOrphans .. => none

/-- The source is indexed, under a retention policy id that is not the source's. -/
theorem padded_policy_is_stripped :
    ∃ source result, sampleIndexingParts.resolveSource "t" "doc" "v1" = .ok source ∧
      (sampleIndexingParts.indexSource (fun _ => true) (fun _ => 0) ⟨"t", "doc", "v1", none, none,
        none⟩ []).1 = .ok result ∧
      writtenPolicies (sampleIndexingParts.indexSource (fun _ => true) (fun _ => 0)
        ⟨"t", "doc", "v1", none, none, none⟩ []).2 = ["rp-standard"] ∧
      source.retentionPolicyId ≠ "rp-standard" :=
  ⟨_, ⟨"doc", "v1", 1, ⟨0, 1, 0⟩⟩, rfl, by decide +kernel, by decide +kernel, by decide +kernel⟩

end IndexingParts

end Collabio
