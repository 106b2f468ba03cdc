import Mathlib.Tactic
import Collabio.Rag.SourceIndexing
import Collabio.Rag.TerminalChunks

/-!
# What a reindex leaves in the table

`reindex_source` over chunk rows with their vectors, one call after the other: a mark, the
upserts, and the deletion of what is still marked.

* `EmbeddedTable`, `reindexSource` — the rows and the run of the store calls;
* `columns_reindexSource` — without the vectors these are the store's statements;
* `get?_upsertAll`        — what the upserts make of each row;
* `reindex_reaches_iff`   — the active rows are the chunks of the command exactly if no
  chunk has a row that is gone;
* `returning_chunk_missing` — a chunk that an earlier reindex dropped does not come back.
-/

namespace Collabio

/-! ## Rows with vectors -/

variable {E : Type} {isFinite : E → Bool}

/-- `collabio.vector_embedding_chunks`, whose check ties `embedding_dimensions` to the vector. -/
abbrev EmbeddedTable (E : Type) (isFinite : E → Bool) :=
  Dict (VectorSource × String) (EmbeddedRecord E isFinite)

/-- The row with other values in the columns besides the vector. -/
def EmbeddedRecord.withColumns (row : EmbeddedRecord E isFinite)
    (columns : VectorEmbeddingRecord)
    (hsame : columns.embeddingDimensions = row.record.embeddingDimensions) :
    EmbeddedRecord E isFinite where
  record := columns
  embedding := row.embedding
  dimensions := hsame.trans row.dimensions
  finite := row.finite

/-- The row in another state, with the audit event of the statement if there is one. -/
def EmbeddedRecord.transitioned (row : EmbeddedRecord E isFinite)
    (lifecycleState : VectorLifecycleState) (auditEventId : Option String) :
    EmbeddedRecord E isFinite :=
  row.withColumns { row.record with
    lifecycleState, auditEventId := auditEventId.or row.record.auditEventId } rfl

/-- What an update writes over an old row, whose time of creation stays. -/
def EmbeddedRecord.writtenOver (record old : EmbeddedRecord E isFinite) :
    EmbeddedRecord E isFinite :=
  record.withColumns { record.record with
    metadata := { record.record.metadata with
      createdAtUtc := old.record.metadata.createdAtUtc } } rfl

/-- The columns of the rows besides the vectors. -/
def EmbeddedTable.columns (table : EmbeddedTable E isFinite) : VectorTable :=
  table.mapItems fun _ row => row.record

namespace PgvectorVectorStore

variable (store : PgvectorVectorStore)

/-- An UPDATE of the state of the rows of a source version that meet a condition. -/
def updateRows (tenantId sourceObjectId sourceVersionId : String)
    (meets : String → VectorEmbeddingRecord → Bool) (lifecycleState : VectorLifecycleState)
    (auditEventId : Option String) (table : EmbeddedTable E isFinite) :
    EmbeddedTable E isFinite × Nat :=
  let source := store.source tenantId sourceObjectId sourceVersionId
  (table.mapItems fun key row =>
      if key.1 = source ∧ meets key.2 row.record = true then
        row.transitioned lifecycleState auditEventId
      else row,
    table.items.countP fun entry => entry.1.1 = source ∧ meets entry.1.2 entry.2.record = true)

/-- `upsert_embedding`, of a record with its vector. -/
def upsertRow (record : EmbeddedRecord E isFinite) (table : EmbeddedTable E isFinite) :
    Except Exn (EmbeddedTable E isFinite) := do
  require (record.record.metadata.embeddingModelId = store.embeddingModelId)
    (.valueError (.message "record embedding_model_id does not match this pgvector store"))
  require (record.record.metadata.embeddingModelVersion = store.embeddingModelVersion)
    (.valueError (.message "record embedding_model_version does not match this pgvector store"))
  match table.get? record.record.key with
  | none => return table.set record.record.key record
  | some row =>
    if row.record.lifecycleState = .active ∨ row.record.lifecycleState = .reindexPending then
      return table.set record.record.key (record.writtenOver row)
    else return table

/-- The loop of `reindex_source` over its chunks. -/
def upsertRows : List (EmbeddedRecord E isFinite) → EmbeddedTable E isFinite →
    Except Exn (EmbeddedTable E isFinite)
  | [], table => return table
  | record :: records, table => do
    let table ← store.upsertRow record table
    upsertRows records table

/-- `VectorIndexWorker.reindex_source` over this store, none of whose calls the database refuses. -/
def reindexSource (command : SourceIndexCommand) (records : List (EmbeddedRecord E isFinite))
    (table : EmbeddedTable E isFinite) :
    Except Exn (EmbeddedTable E isFinite × ReindexSourceResult) := do
  (command.reindexCommand records).validate
  let (table, marked) := store.updateRows command.tenantId command.sourceObjectId
    command.sourceVersionId (fun _ row => row.lifecycleState = .active) .reindexPending
    command.auditEventId table
  let table ← store.upsertRows records table
  let keepChunkIds := records.map (·.record.metadata.chunkId)
  let (table, deletedStale) := store.updateRows command.tenantId command.sourceObjectId
    command.sourceVersionId (fun chunkId row =>
      row.lifecycleState = .reindexPending && decide (chunkId ∉ keepChunkIds))
    .deleted command.auditEventId table
  return (table, ⟨marked, records.length, deletedStale⟩)

end PgvectorVectorStore

open PgvectorVectorStore

variable {store : PgvectorVectorStore}

/-! ## Without the vectors -/

theorem get?_columns (table : EmbeddedTable E isFinite) (key : VectorSource × String) :
    table.columns.get? key = (table.get? key).map (·.record) :=
  Dict.get?_mapItems table (fun _ row => row.record) key

/-- An UPDATE without the vectors. -/
theorem columns_updateRows {tenantId sourceObjectId sourceVersionId : String}
    {meets : String → VectorEmbeddingRecord → Bool} {state : VectorLifecycleState}
    {auditEventId : Option String} (table : EmbeddedTable E isFinite) :
    (store.updateRows tenantId sourceObjectId sourceVersionId meets state auditEventId
        table).map EmbeddedTable.columns id =
      store.updateSource tenantId sourceObjectId sourceVersionId meets state auditEventId
        table.columns := by
  -- the UPDATE meets a row by its record alone
  have hchange : EmbeddedTable.columns (store.updateRows tenantId sourceObjectId sourceVersionId
      meets state auditEventId table).1 = changeState (store.source tenantId sourceObjectId
        sourceVersionId) meets state auditEventId table.columns := by
    let meetsKey (key : VectorSource × String) (row : VectorEmbeddingRecord) : Prop :=
      key.1 = store.source tenantId sourceObjectId sourceVersionId ∧ meets key.2 row = true
    show (table.mapItems fun key row => if meetsKey key row.record then
        row.transitioned state auditEventId else row).mapItems (fun _ row => row.record) =
      (table.mapItems fun _ row => row.record).mapItems fun key row => if meetsKey key row then
        { row with lifecycleState := state, auditEventId := auditEventId.or row.auditEventId }
        else row
    rw [Dict.mapItems_mapItems, Dict.mapItems_mapItems]
    congr 1
    funext key row
    split <;> rfl
  refine Prod.ext hchange ?_
  show List.countP _ table.items = List.countP _ (List.map _ table.items)
  rw [List.countP_map]
  rfl

/-- An upsert without the vector. -/
theorem columns_upsertRow (record : EmbeddedRecord E isFinite) (table : EmbeddedTable E isFinite) :
    (store.upsertRow record table).map EmbeddedTable.columns =
      store.upsertEmbedding record.record table.columns := by
  have hset : ∀ row, EmbeddedTable.columns (table.set record.record.key row) =
      Dict.set table.columns record.record.key row.record :=
    fun row => Dict.mapItems_set table (fun _ row => row.record) _ row
  rw [upsertRow, upsertEmbedding, get?_columns]
  by_cases hid : record.record.metadata.embeddingModelId = store.embeddingModelId
  · by_cases hversion : record.record.metadata.embeddingModelVersion = store.embeddingModelVersion
    · rw [require_of _ hid, require_of _ hversion]
      cases table.get? record.record.key with
      | none => exact congrArg Except.ok (hset record)
      | some row =>
        by_cases hlive : row.record.lifecycleState = .active ∨
            row.record.lifecycleState = .reindexPending
        · show Except.map _ (if _ then _ else _) = (if _ then _ else _)
          rw [if_pos hlive, if_pos hlive]
          exact congrArg Except.ok (hset _)
        · show Except.map _ (if _ then _ else _) = (if _ then _ else _)
          rw [if_neg hlive, if_neg hlive]
          rfl
    · rw [require_of _ hid, require_of_not _ hversion]
      rfl
  · rw [require_of_not _ hid]
    rfl

/-! ## The statements -/

theorem get?_updateRows {tenantId sourceObjectId sourceVersionId : String}
    {meets : String → VectorEmbeddingRecord → Bool} {state : VectorLifecycleState}
    {auditEventId : Option String} (table : EmbeddedTable E isFinite)
    (key : VectorSource × String) :
    (store.updateRows tenantId sourceObjectId sourceVersionId meets state auditEventId
        table).1.get? key =
      (table.get? key).map fun row =>
        if key.1 = store.source tenantId sourceObjectId sourceVersionId ∧
            meets key.2 row.record = true then
          row.transitioned state auditEventId
        else row :=
  Dict.get?_mapItems table (fun key (row : EmbeddedRecord E isFinite) =>
    if key.1 = store.source tenantId sourceObjectId sourceVersionId ∧
        meets key.2 row.record = true then
      row.transitioned state auditEventId
    else row) key

/-- What an upsert leaves at the key of its record. -/
def upserted (record : EmbeddedRecord E isFinite) :
    Option (EmbeddedRecord E isFinite) → EmbeddedRecord E isFinite
  | none => record
  | some row =>
    if row.record.lifecycleState = .active ∨ row.record.lifecycleState = .reindexPending then
      record.writtenOver row
    else row

theorem upsertRow_spec {record : EmbeddedRecord E isFinite} {table table' : EmbeddedTable E isFinite}
    (h : store.upsertRow record table = .ok table') :
    store.Accepts record.record ∧ ∀ key, table'.get? key =
      if key = record.record.key then some (upserted record (table.get? key))
      else table.get? key := by
  obtain ⟨hid, h⟩ := require_bind_eq_ok.mp h
  obtain ⟨hversion, h⟩ := require_bind_eq_ok.mp h
  refine ⟨⟨hid, hversion⟩, fun key => ?_⟩
  -- the record's own row, or any other
  by_cases hkey : key = record.record.key
  · subst hkey
    rw [if_pos rfl]
    cases hget : table.get? record.record.key with
    | none =>
      rw [hget] at h
      cases h
      exact Dict.get?_set_self _ _ _
    | some row =>
      rw [hget] at h
      dsimp only at h
      rw [upserted]
      -- a live row is written over, a deleted one stays
      split at h
      · rename_i hlive
        cases h
        rw [if_pos hlive]
        exact Dict.get?_set_self _ _ _
      · rename_i hgone
        cases h
        rw [if_neg hgone, hget]
  · rw [if_neg hkey]
    cases hget : table.get? record.record.key with
    | none =>
      rw [hget] at h
      cases h
      exact Dict.get?_set_ne _ _ hkey
    | some row =>
      rw [hget] at h
      dsimp only at h
      split at h
      · cases h
        exact Dict.get?_set_ne _ _ hkey
      · cases h
        rfl

/-- **The loop.** Each record meets the row that was there before the loop, since the keys are
distinct. -/
theorem upsertRows_spec {records : List (EmbeddedRecord E isFinite)}
    (hdistinct : (records.map (·.record.key)).Nodup) {table table' : EmbeddedTable E isFinite}
    (h : store.upsertRows records table = .ok table') :
    (∀ record ∈ records, store.Accepts record.record ∧
      table'.get? record.record.key = some (upserted record (table.get? record.record.key))) ∧
    ∀ key ∉ records.map (·.record.key), table'.get? key = table.get? key := by
  induction records generalizing table with
  | nil =>
    cases h
    exact ⟨by simp, fun _ _ => rfl⟩
  | cons record records ih =>
    obtain ⟨middle, hrecord, hrest⟩ := Except.bind_eq_ok.mp h
    rw [List.map_cons, List.nodup_cons] at hdistinct
    obtain ⟨haccepts, hmiddle⟩ := upsertRow_spec hrecord
    obtain ⟨hwritten, hother⟩ := ih hdistinct.2 hrest
    constructor
    · rw [List.forall_mem_cons]
      refine ⟨⟨haccepts, ?_⟩, fun later hlater => ?_⟩
      · rw [hother _ hdistinct.1, hmiddle, if_pos rfl]
      · -- a later record has another key, so the first step of the loop did not touch it
        have hne : later.record.key ≠ record.record.key := by
          intro hsame
          rw [← hsame] at hdistinct
          exact hdistinct.1 (List.mem_map_of_mem hlater)
        obtain ⟨haccepts', hlast⟩ := hwritten later hlater
        rw [hmiddle, if_neg hne] at hlast
        exact ⟨haccepts', hlast⟩
    · intro key hkey
      rw [List.map_cons, List.mem_cons, not_or] at hkey
      rw [hother key hkey.2, hmiddle, if_neg hkey.1]

/-! ## The whole reindex -/

/-- Every column of the chunk, its vector included, but the time of creation. -/
def EmbeddedRecord.IsChunk (row record : EmbeddedRecord E isFinite) : Prop :=
  row = record.writtenOver row

/-- The source version of a command, under the model version of a store. -/
def SourceIndexCommand.source (command : SourceIndexCommand) (store : PgvectorVectorStore) :
    VectorSource :=
  store.source command.tenantId command.sourceObjectId command.sourceVersionId

/-- The active rows of the source version are exactly the chunks. -/
structure ReachesIndex (store : PgvectorVectorStore) (command : SourceIndexCommand)
    (records : List (EmbeddedRecord E isFinite)) (table : EmbeddedTable E isFinite) : Prop where
  /-- Every chunk has an active row, with its values. -/
  present : ∀ record ∈ records, ∃ row,
    table.get? (command.source store, record.record.metadata.chunkId) = some row ∧
      row.record.lifecycleState = .active ∧ row.IsChunk record
  /-- No other row is active. -/
  others : ∀ chunkId row, table.get? (command.source store, chunkId) = some row →
    row.record.lifecycleState = .active →
      ∃ record ∈ records, record.record.metadata.chunkId = chunkId

/-- What a reindex that returns has done, statement by statement. -/
theorem reindexSource_eq_ok {command : SourceIndexCommand}
    {records : List (EmbeddedRecord E isFinite)} {table table' : EmbeddedTable E isFinite}
    {result : ReindexSourceResult}
    (h : store.reindexSource command records table = .ok (table', result)) :
    (command.reindexCommand records).validate = .ok () ∧
      ∃ upserted : EmbeddedTable E isFinite,
        store.upsertRows records (store.updateRows command.tenantId command.sourceObjectId
          command.sourceVersionId (fun _ row => row.lifecycleState = .active) .reindexPending
          command.auditEventId table).1 = .ok upserted ∧
        table' = (store.updateRows command.tenantId command.sourceObjectId
          command.sourceVersionId (fun chunkId row => row.lifecycleState = .reindexPending &&
            decide (chunkId ∉ records.map (·.record.metadata.chunkId))) .deleted
          command.auditEventId upserted).1 := by
  obtain ⟨_, hvalid, h⟩ := Except.bind_eq_ok.mp h
  obtain ⟨upserted, hupserted, h⟩ := Except.bind_eq_ok.mp h
  cases h
  exact ⟨hvalid, upserted, hupserted, rfl⟩

/-- A row after the mark. -/
def EmbeddedRecord.marked (row : EmbeddedRecord E isFinite) (auditEventId : Option String) :
    EmbeddedRecord E isFinite :=
  if row.record.lifecycleState = .active then row.transitioned .reindexPending auditEventId
  else row

theorem EmbeddedRecord.marked_live {row : EmbeddedRecord E isFinite} {auditEventId : Option String}
    (h : row.record.IsLive) : (row.marked auditEventId).record.lifecycleState = .reindexPending := by
  rw [marked]
  rcases h with hactive | hpending
  · rw [if_pos hactive]
    rfl
  · rw [if_neg (by rw [hpending]; decide)]
    exact hpending

theorem EmbeddedRecord.marked_gone {row : EmbeddedRecord E isFinite} {auditEventId : Option String}
    (h : ¬ row.record.IsLive) : row.marked auditEventId = row :=
  if_neg fun hactive => h (.inl hactive)

/-- The rows of the source version after a reindex, before its last statement. -/
theorem reindexed_rows {command : SourceIndexCommand} {records : List (EmbeddedRecord E isFinite)}
    {table table' : EmbeddedTable E isFinite} {result : ReindexSourceResult}
    (h : store.reindexSource command records table = .ok (table', result)) :
    ∃ before : EmbeddedTable E isFinite,
      (∀ record ∈ records, record.record.lifecycleState = .active ∧
        before.get? (command.source store, record.record.metadata.chunkId) =
          some (upserted record ((table.get? (command.source store,
            record.record.metadata.chunkId)).map (·.marked command.auditEventId)))) ∧
      (∀ chunkId ∉ records.map (·.record.metadata.chunkId),
        before.get? (command.source store, chunkId) =
          (table.get? (command.source store, chunkId)).map (·.marked command.auditEventId)) ∧
      ∀ chunkId, table'.get? (command.source store, chunkId) =
        (before.get? (command.source store, chunkId)).map fun row =>
          if row.record.lifecycleState = .reindexPending ∧
              chunkId ∉ records.map (·.record.metadata.chunkId) then
            row.transitioned .deleted command.auditEventId
          else row := by
  obtain ⟨hvalid, before, hupserts, rfl⟩ := reindexSource_eq_ok h
  obtain ⟨hids, hsource⟩ := IndexingParts.validate_spec hvalid
  have hactive := ReindexSourceCommand.active_of_validate hvalid
  have hchunks : (command.reindexCommand records).chunks = records.map (·.record) := rfl
  rw [hchunks, List.map_map] at hids
  have hdistinct : (records.map (·.record.key)).Nodup := by
    refine List.Nodup.of_map Prod.snd ?_
    rw [List.map_map]
    exact hids
  obtain ⟨hwritten, hother⟩ := upsertRows_spec hdistinct hupserts
  -- the keys of the chunks are those of the source version
  have hkey : ∀ record ∈ records,
      record.record.key = (command.source store, record.record.metadata.chunkId) := by
    intro record hrecord
    obtain ⟨htenant, hobject, hversion⟩ := hsource record.record (List.mem_map_of_mem hrecord)
    obtain ⟨hid, hmodel⟩ := (hwritten record hrecord).1
    rw [VectorEmbeddingRecord.key, VectorEmbeddingRecord.source, htenant, hobject, hversion, hid,
      hmodel]
    rfl
  have hmarked : ∀ chunkId, (store.updateRows command.tenantId command.sourceObjectId
      command.sourceVersionId (fun _ row => row.lifecycleState = .active) .reindexPending
      command.auditEventId table).1.get? (command.source store, chunkId) =
      (table.get? (command.source store, chunkId)).map (·.marked command.auditEventId) := by
    intro chunkId
    rw [get?_updateRows]
    congr 1
    funext row
    simp [EmbeddedRecord.marked, SourceIndexCommand.source]
  refine ⟨before, fun record hrecord => ?_, fun chunkId hchunkId => ?_, fun chunkId => ?_⟩
  · have hlast := (hwritten record hrecord).2
    rw [hkey record hrecord, hmarked] at hlast
    exact ⟨hactive record.record (List.mem_map_of_mem hrecord), hlast⟩
  · rw [hother, hmarked]
    intro hmem
    obtain ⟨record, hrecord, hsame⟩ := List.mem_map.mp hmem
    rw [hkey record hrecord, Prod.mk.injEq] at hsame
    exact hchunkId (List.mem_map.mpr ⟨record, hrecord, hsame.2⟩)
  · rw [get?_updateRows]
    congr 1
    funext row
    simp [SourceIndexCommand.source]

/-- **The row of a chunk** after the reindex: the chunk, or the row as it was if that was gone. -/
theorem get?_chunk {command : SourceIndexCommand} {records : List (EmbeddedRecord E isFinite)}
    {table table' : EmbeddedTable E isFinite} {result : ReindexSourceResult}
    (h : store.reindexSource command records table = .ok (table', result))
    {record : EmbeddedRecord E isFinite} (hrecord : record ∈ records) :
    ∃ row, table'.get? (command.source store, record.record.metadata.chunkId) = some row ∧
      ((∀ old, table.get? (command.source store, record.record.metadata.chunkId) = some old →
          old.record.IsLive) → row.record.lifecycleState = .active ∧ row.IsChunk record) ∧
      ∀ old, table.get? (command.source store, record.record.metadata.chunkId) = some old →
        ¬ old.record.IsLive → row = old := by
  obtain ⟨before, hchunks, -, hlast⟩ := reindexed_rows h
  obtain ⟨hactive, hbefore⟩ := hchunks record hrecord
  have hmem : record.record.metadata.chunkId ∈ records.map (·.record.metadata.chunkId) :=
    List.mem_map_of_mem hrecord
  -- the last statement passes over the chunks of the command
  have hafter : table'.get? (command.source store, record.record.metadata.chunkId) =
      before.get? (command.source store, record.record.metadata.chunkId) := by
    rw [hlast, hbefore, Option.map_some, if_neg fun hpending => hpending.2 hmem]
  rw [hafter, hbefore]
  refine ⟨_, rfl, ?_, ?_⟩
  · intro hlive
    cases hold : table.get? (command.source store, record.record.metadata.chunkId) with
    | none => exact ⟨hactive, rfl⟩
    | some old =>
      have hpending := @EmbeddedRecord.marked_live _ _ _ command.auditEventId (hlive old hold)
      rw [Option.map_some, upserted, if_pos (.inr hpending)]
      exact ⟨hactive, rfl⟩
  · intro old hold hgone
    rw [hold, Option.map_some, EmbeddedRecord.marked_gone hgone, upserted]
    exact if_neg hgone

/-- **A row of no chunk** is not active after the reindex. -/
theorem not_active_of_other {command : SourceIndexCommand}
    {records : List (EmbeddedRecord E isFinite)} {table table' : EmbeddedTable E isFinite}
    {result : ReindexSourceResult}
    (h : store.reindexSource command records table = .ok (table', result)) {chunkId : String}
    (hother : chunkId ∉ records.map (·.record.metadata.chunkId)) {row : EmbeddedRecord E isFinite}
    (hrow : table'.get? (command.source store, chunkId) = some row) :
    row.record.lifecycleState ≠ .active := by
  obtain ⟨before, -, hothers, hlast⟩ := reindexed_rows h
  rw [hlast, hothers chunkId hother] at hrow
  obtain ⟨marked, hmarked, rfl⟩ := Option.map_eq_some_iff.mp hrow
  obtain ⟨old, -, rfl⟩ := Option.map_eq_some_iff.mp hmarked
  by_cases hlive : old.record.IsLive
  · rw [if_pos ⟨EmbeddedRecord.marked_live hlive, hother⟩]
    show VectorLifecycleState.deleted ≠ .active
    decide
  · rw [EmbeddedRecord.marked_gone hlive, if_neg fun hpending => hlive (.inr hpending.1)]
    exact fun hactive => hlive (.inl hactive)

/-- **Reindexing.** After a reindex that returns, the active rows of the source version are
exactly the chunks of the command, with their vectors, hashes and ACL, if and only if no chunk
of it had a row that was gone. -/
theorem reindex_reaches_iff {command : SourceIndexCommand}
    {records : List (EmbeddedRecord E isFinite)} {table table' : EmbeddedTable E isFinite}
    {result : ReindexSourceResult}
    (h : store.reindexSource command records table = .ok (table', result)) :
    ReachesIndex store command records table' ↔ ∀ record ∈ records, ∀ old,
      table.get? (command.source store, record.record.metadata.chunkId) = some old →
        old.record.IsLive := by
  constructor
  · intro hreaches record hrecord old hold
    by_contra hgone
    obtain ⟨row, hrow, -, hkept⟩ := get?_chunk h hrecord
    obtain ⟨row', hrow', hactive, -⟩ := hreaches.present record hrecord
    rw [hrow, Option.some.injEq] at hrow'
    subst hrow'
    rw [hkept old hold hgone] at hactive
    exact hgone (.inl hactive)
  · intro hlive
    refine ⟨fun record hrecord => ?_, fun chunkId row hrow hactive => ?_⟩
    · obtain ⟨row, hrow, hwritten, -⟩ := get?_chunk h hrecord
      obtain ⟨hactive, hchunk⟩ := hwritten (hlive record hrecord)
      exact ⟨row, hrow, hactive, hchunk⟩
    · by_contra hnone
      refine not_active_of_other h (fun hmem => hnone ?_) hrow hactive
      exact List.mem_map.mp hmem

/-! ## A chunk that comes back -/

/-- The sample chunk under another id, with a vector of three numbers. -/
def sampleEmbedded (chunkId : String) : EmbeddedRecord Unit (fun _ => true) where
  record := { VectorWorld.sampleChunk with
    metadata := { VectorWorld.sampleChunk.metadata with chunkId } }
  embedding := [(), (), ()]
  dimensions := rfl
  finite := fun _ _ => rfl

/-- A reindex of the sample source version with these chunks. -/
def sampleReindex (chunkIds : List String) (table : EmbeddedTable Unit fun _ => true) :
    Except Exn (EmbeddedTable Unit (fun _ => true) × ReindexSourceResult) :=
  reindexSource ⟨"m", "1"⟩ { tenantId := "t", sourceObjectId := "doc", sourceVersionId := "v1" }
    (chunkIds.map sampleEmbedded) table

/-- The sample source version is indexed into an empty table. -/
theorem sample_reindex_reaches :
    ∃ (table : EmbeddedTable Unit fun _ => true) (result : ReindexSourceResult),
      sampleReindex ["c1"] ∅ = .ok (table, result) ∧
      (ReachesIndex ⟨"m", "1"⟩ { tenantId := "t", sourceObjectId := "doc", sourceVersionId := "v1" }
        [sampleEmbedded "c1"] table ↔ ∀ record ∈ [sampleEmbedded "c1"], ∀ old,
          (∅ : EmbeddedTable Unit fun _ => true).get? (⟨"t", "doc", "v1", "m", "1"⟩,
            record.record.metadata.chunkId) = some old → old.record.IsLive) := by
  have hreturns : (sampleReindex ["c1"] ∅).isOk = true := by decide +kernel
  cases h : sampleReindex ["c1"] ∅ with
  | error exn =>
    rw [h] at hreturns
    cases hreturns
  | ok written => exact ⟨written.1, written.2, rfl, reindex_reaches_iff h⟩

/-- Three reindexes: with chunk 1, with chunk 2 instead, and with chunk 1 again. -/
def sampleReindexes : Except Exn (EmbeddedTable Unit (fun _ => true) × ReindexSourceResult) := do
  let first ← sampleReindex ["c1"] ∅
  let second ← sampleReindex ["c2"] first.1
  sampleReindex ["c1"] second.1

/-- The source version is reindexed with chunk 1, then with chunk 2 instead, then with chunk 1
again: the third reindex returns, and chunk 1 stays deleted. -/
theorem returning_chunk_missing :
    ∃ (first second third : EmbeddedTable Unit fun _ => true)
      (result result' result'' : ReindexSourceResult),
      sampleReindex ["c1"] ∅ = .ok (first, result) ∧
      sampleReindex ["c2"] first = .ok (second, result') ∧
      sampleReindex ["c1"] second = .ok (third, result'') ∧
      ¬ ReachesIndex ⟨"m", "1"⟩
        { tenantId := "t", sourceObjectId := "doc", sourceVersionId := "v1" }
        [sampleEmbedded "c1"] third := by
  -- evaluated once: after the three reindexes the row of chunk 1 is deleted
  have hstate : ((sampleReindexes.map fun third =>
      (third.1.get? (⟨"t", "doc", "v1", "m", "1"⟩, "c1")).map (·.record.lifecycleState)).toOption) =
      some (some .deleted) := by decide +kernel
  cases hrun : sampleReindexes with
  | error exn =>
    rw [hrun] at hstate
    cases hstate
  | ok third =>
    obtain ⟨first, hfirst, h⟩ := Except.bind_eq_ok.mp hrun
    obtain ⟨second, hsecond, hthird⟩ := Except.bind_eq_ok.mp h
    refine ⟨first.1, second.1, third.1, first.2, second.2, third.2, hfirst, hsecond, hthird,
      fun hreaches => ?_⟩
    obtain ⟨row, hrow, hactive, -⟩ := hreaches.present (sampleEmbedded "c1") (by simp)
    have hrow : third.1.get? (⟨"t", "doc", "v1", "m", "1"⟩, "c1") = some row := hrow
    rw [hrun] at hstate
    have hdeleted : some ((third.1.get? (⟨"t", "doc", "v1", "m", "1"⟩, "c1")).map
        (·.record.lifecycleState)) = some (some .deleted) := hstate
    rw [hrow, Option.map_some, hactive] at hdeleted
    cases hdeleted

end Collabio
