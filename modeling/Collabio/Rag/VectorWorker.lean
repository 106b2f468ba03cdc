import Mathlib.Tactic
import Collabio.Library.Dict
import Collabio.Library.Runs
import Collabio.Platform.Validation
import Collabio.Rag.Repositories

/-!
# The vector index worker

`VectorIndexWorker` over `PgvectorVectorStore`: reindexing a source version and
propagating its deletion. Each store call is one SQL statement, and the statements of
several calls may be interleaved in any order. The embeddings themselves, the times that
the statements take from `now()` and the worker's audit events are left out; nothing below
reads them.
-/

namespace Collabio

/-! ## Chunk rows -/

inductive VectorLifecycleState where
  | active
  | reindexPending
  | restricted
  | deleted
  | cryptoshredded
  deriving DecidableEq, Repr

structure VectorEmbeddingRecord where
  metadata            : ChunkMetadata
  embeddingDimensions : Nat
  contentByteLength   : Nat
  lifecycleState      : VectorLifecycleState := .active
  indexedAtUtc        : String
  expiresAtUtc        : Option String := none
  auditEventId        : Option String := none
  deriving DecidableEq, Repr

/-- A source version under one version of an embedding model. -/
structure VectorSource where
  tenantId              : String
  sourceObjectId        : String
  sourceVersionId       : String
  embeddingModelId      : String
  embeddingModelVersion : String
  deriving DecidableEq, Repr

def VectorEmbeddingRecord.source (record : VectorEmbeddingRecord) : VectorSource :=
  ⟨record.metadata.tenantId, record.metadata.sourceObjectId, record.metadata.sourceVersionId,
    record.metadata.embeddingModelId, record.metadata.embeddingModelVersion⟩

/-- The primary key. -/
def VectorEmbeddingRecord.key (record : VectorEmbeddingRecord) : VectorSource × String :=
  (record.source, record.metadata.chunkId)

/-- `collabio.vector_embedding_chunks`. -/
abbrev VectorTable := Dict (VectorSource × String) VectorEmbeddingRecord

/-- An UPDATE of the state of those rows of a source that meet a condition; a missing audit
event leaves the old one. -/
def changeState (source : VectorSource) (meets : String → VectorEmbeddingRecord → Bool)
    (lifecycleState : VectorLifecycleState) (auditEventId : Option String) (table : VectorTable) :
    VectorTable where
  items := table.items.map fun entry => (entry.1,
    if entry.1.1 = source ∧ meets entry.1.2 entry.2 = true then
      { entry.2 with lifecycleState, auditEventId := auditEventId.or entry.2.auditEventId }
    else entry.2)
  nodup := by
    rw [List.map_map]
    exact table.nodup

/-- Its row count. -/
def changedRows (source : VectorSource) (meets : String → VectorEmbeddingRecord → Bool)
    (table : VectorTable) : Nat :=
  table.items.countP fun entry => entry.1.1 = source ∧ meets entry.1.2 entry.2 = true

/-! ## The store -/

structure PgvectorVectorStore where
  embeddingModelId      : String
  embeddingModelVersion : String
  deriving DecidableEq, Repr

namespace PgvectorVectorStore

variable (store : PgvectorVectorStore)

def source (tenantId sourceObjectId sourceVersionId : String) : VectorSource :=
  ⟨tenantId, sourceObjectId, sourceVersionId, store.embeddingModelId, store.embeddingModelVersion⟩

/-- `upsert_embedding`: of the rows that are there only active and pending ones are updated,
and they keep their time of creation. -/
def upsertEmbedding (record : VectorEmbeddingRecord) (table : VectorTable) :
    Except Exn VectorTable := do
  require (record.metadata.embeddingModelId = store.embeddingModelId)
    (.valueError (.message "record embedding_model_id does not match this pgvector store"))
  require (record.metadata.embeddingModelVersion = store.embeddingModelVersion)
    (.valueError (.message "record embedding_model_version does not match this pgvector store"))
  match table.get? record.key with
  | none => return table.set record.key record
  | some row =>
    if row.lifecycleState = .active ∨ row.lifecycleState = .reindexPending then
      return table.set record.key { record with
        metadata := { record.metadata with createdAtUtc := row.metadata.createdAtUtc } }
    else return table

/-- An UPDATE of one source version, with its row count. -/
def updateSource (tenantId sourceObjectId sourceVersionId : String)
    (meets : String → VectorEmbeddingRecord → Bool) (lifecycleState : VectorLifecycleState)
    (auditEventId : Option String) (table : VectorTable) : VectorTable × Nat :=
  let source := store.source tenantId sourceObjectId sourceVersionId
  (changeState source meets lifecycleState auditEventId table, changedRows source meets table)

/-- `mark_source_for_reindex`. -/
def markSourceForReindex (tenantId sourceObjectId sourceVersionId : String)
    (auditEventId : Option String) (table : VectorTable) : VectorTable × Nat :=
  store.updateSource tenantId sourceObjectId sourceVersionId
    (fun _ row => row.lifecycleState = .active) .reindexPending auditEventId table

/-- `delete_reindex_orphans`. -/
def deleteReindexOrphans (tenantId sourceObjectId sourceVersionId : String)
    (keepChunkIds : List String) (auditEventId : Option String) (table : VectorTable) :
    VectorTable × Nat :=
  store.updateSource tenantId sourceObjectId sourceVersionId
    (fun chunkId row => row.lifecycleState = .reindexPending && decide (chunkId ∉ keepChunkIds))
    .deleted auditEventId table

/-- `transition_source_lifecycle`. -/
def transitionSourceLifecycle (tenantId sourceObjectId sourceVersionId : String)
    (lifecycleState : VectorLifecycleState) (auditEventId : Option String) (table : VectorTable) :
    Except Exn (VectorTable × Nat) := do
  require (lifecycleState ≠ .active)
    (.valueError (.message "source lifecycle propagation cannot reactivate chunks"))
  return store.updateSource tenantId sourceObjectId sourceVersionId (fun _ _ => true)
    lifecycleState auditEventId table

end PgvectorVectorStore

/-! ## Commands -/

structure ReindexSourceCommand where
  tenantId           : String
  sourceObjectId     : String
  sourceVersionId    : String
  chunks             : List VectorEmbeddingRecord
  expectedAclHash    : Option String := none
  expectedAclVersion : Option Int := none
  auditEventId       : Option String := none

structure ReindexSourceResult where
  markedReindexPending : Nat
  upsertedChunks       : Nat
  deletedStaleChunks   : Nat
  deriving DecidableEq, Repr

structure DeletionPropagationCommand where
  tenantId        : String
  sourceObjectId  : String
  sourceVersionId : String
  lifecycleState  : VectorLifecycleState := .deleted
  auditEventId    : Option String := none

namespace ReindexSourceCommand

/-- `_duplicate_chunk_ids`. -/
def duplicateChunkIds (chunks : List VectorEmbeddingRecord) : List String :=
  let chunkIds := chunks.map (·.metadata.chunkId)
  (chunkIds.dedup.filter fun chunkId => 1 < chunkIds.count chunkId).mergeSort

/-- The checks of one chunk. -/
def validateChunk (command : ReindexSourceCommand) (chunk : VectorEmbeddingRecord) :
    Except Exn Unit := do
  require (chunk.metadata.tenantId = command.tenantId)
    (.valueError (.message "chunk tenant_id does not match reindex command"))
  require (chunk.metadata.sourceObjectId = command.sourceObjectId)
    (.valueError (.message "chunk source_object_id does not match reindex command"))
  require (chunk.metadata.sourceVersionId = command.sourceVersionId)
    (.valueError (.message "chunk source_version_id does not match reindex command"))
  require (chunk.lifecycleState = .active)
    (.valueError (.message "reindex chunks must be active records"))

/-- `_validate_reindex_command`. -/
def validate (command : ReindexSourceCommand) : Except Exn Unit := do
  require (command.chunks ≠ [])
    (.valueError (.message "reindex command must contain at least one chunk"))
  require (duplicateChunkIds command.chunks = [])
    (.valueError (.message ("reindex command contains duplicate chunk ids: " ++
      ", ".intercalate (duplicateChunkIds command.chunks))))
  command.chunks.forM command.validateChunk
  let aclHashes := (command.chunks.map (·.metadata.aclHash)).dedup
  let aclVersions := (command.chunks.map (·.metadata.aclVersion)).dedup
  require (aclHashes.length = 1) (.valueError (.message "reindex chunks must share one acl_hash"))
  require (aclVersions.length = 1)
    (.valueError (.message "reindex chunks must share one acl_version"))
  require (∀ expected ∈ command.expectedAclHash, aclHashes.head? = some expected)
    (.valueError (.message "chunk acl_hash does not match expected ACL hash"))
  require (∀ expected ∈ command.expectedAclVersion, aclVersions.head? = some expected)
    (.valueError (.message "chunk acl_version does not match expected ACL version"))

end ReindexSourceCommand

/-! ## Calls in progress -/

/-- A call of a worker, over a store. -/
inductive VectorCall where
  | reindexSource (store : PgvectorVectorStore) (command : ReindexSourceCommand)
  | propagateDeletion (store : PgvectorVectorStore) (command : DeletionPropagationCommand)

/-- How far a call has come: which of its chunks are still to be upserted, after how many
rows were marked, or how it has ended. -/
inductive VectorPhase where
  | started
  | upserting (marked : Nat) (chunks : List VectorEmbeddingRecord)
  | reindexed (result : ReindexSourceResult)
  | propagated (transitioned : Nat)
  | raised (exn : Exn)
  deriving DecidableEq, Repr

structure VectorWorld where
  table : VectorTable
  phase : ℕ → VectorPhase := fun _ => .started

/-- Whose store call is next, and what the database makes of it: it is carried out, or it
raises and changes nothing. -/
structure VectorTurn where
  call  : ℕ
  fails : Option Exn := none

namespace VectorWorld

variable (calls : ℕ → VectorCall)

def enter (world : VectorWorld) (i : ℕ) (phase : VectorPhase) : VectorWorld :=
  { world with phase := Function.update world.phase i phase }

/-- The next store call of `reindex_source`. -/
def stepReindex (world : VectorWorld) (i : ℕ) (store : PgvectorVectorStore)
    (command : ReindexSourceCommand) : VectorWorld :=
  match world.phase i with
  | .started =>
    match command.validate with
    | .error exn => world.enter i (.raised exn)
    | .ok _ =>
      let (table, marked) := store.markSourceForReindex command.tenantId command.sourceObjectId
        command.sourceVersionId command.auditEventId world.table
      { world with table }.enter i (.upserting marked command.chunks)
  | .upserting marked (chunk :: chunks) =>
    match store.upsertEmbedding chunk world.table with
    | .error exn => world.enter i (.raised exn)
    | .ok table => { world with table }.enter i (.upserting marked chunks)
  | .upserting marked [] =>
    let keepChunkIds := command.chunks.map (·.metadata.chunkId)
    let (table, deletedStale) := store.deleteReindexOrphans command.tenantId
      command.sourceObjectId command.sourceVersionId keepChunkIds command.auditEventId world.table
    { world with table }.enter i (.reindexed ⟨marked, command.chunks.length, deletedStale⟩)
  | _ => world

/-- The store call of `propagate_deletion`. -/
def stepDeletion (world : VectorWorld) (i : ℕ) (store : PgvectorVectorStore)
    (command : DeletionPropagationCommand) : VectorWorld :=
  match world.phase i with
  | .started =>
    if command.lifecycleState = .deleted ∨ command.lifecycleState = .cryptoshredded then
      match store.transitionSourceLifecycle command.tenantId command.sourceObjectId
          command.sourceVersionId command.lifecycleState command.auditEventId world.table with
      | .error exn => world.enter i (.raised exn)
      | .ok (table, transitioned) => { world with table }.enter i (.propagated transitioned)
    else world.enter i (.raised (.valueError (.message
      "deletion propagation must use deleted or cryptoshredded lifecycle state")))
  | _ => world

/-- One turn; a call that has ended stays as it is. -/
def step (world : VectorWorld) (turn : VectorTurn) : VectorWorld :=
  match turn.fails, world.phase turn.call with
  | some exn, .started | some exn, .upserting _ _ => world.enter turn.call (.raised exn)
  | some _, _ => world
  | none, _ =>
    match calls turn.call with
    | .reindexSource store command => world.stepReindex turn.call store command
    | .propagateDeletion store command => world.stepDeletion turn.call store command

/-- The deletion of a source was propagated. -/
def Propagated (world : VectorWorld) (source : VectorSource) : Prop :=
  ∃ i store command transitioned, calls i = .propagateDeletion store command ∧
    world.phase i = .propagated transitioned ∧
    store.source command.tenantId command.sourceObjectId command.sourceVersionId = source

/-- No row of a source whose deletion was propagated is active. -/
def DeletionFinal (world : VectorWorld) : Prop :=
  ∀ source, world.Propagated calls source → ∀ entry ∈ world.table.items, entry.1.1 = source →
    entry.2.lifecycleState ≠ .active

/-- The turn inserts no row into a source whose deletion was propagated: the chunk that it
upserts has a row already. -/
def InsertsNoChunk (world : VectorWorld) (turn : VectorTurn) : Prop :=
  ∀ marked chunk chunks, world.phase turn.call = .upserting marked (chunk :: chunks) →
    world.Propagated calls chunk.source → world.table.contains chunk.key = true

end VectorWorld

end Collabio
