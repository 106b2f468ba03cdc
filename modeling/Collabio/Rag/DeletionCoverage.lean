import Mathlib.Tactic
import Collabio.Rag.VectorWorkerRuns

/-!
# Deletion of a source version under every embedding model

Rows of one source version stand in the table under several versions of embedding
models, and every store sees only those of its own.

* `noActiveRow_transition_iff`, `noActiveRow_upsert_iff` — when a deletion, and a later
  upsert, leave no active row;
* `deletionCovers_step_iff` — each turn, exactly;
* `deletion_covers_run_iff` — whole runs, exactly;
* `other_model_stays_active` — the deletion misses a row of another model version.
-/

namespace Collabio

/-- A version of a source object, under whatever embedding model. -/
structure SourceVersion where
  tenantId        : String
  sourceObjectId  : String
  sourceVersionId : String
  deriving DecidableEq, Repr

def VectorSource.version (source : VectorSource) : SourceVersion :=
  ⟨source.tenantId, source.sourceObjectId, source.sourceVersionId⟩

def DeletionPropagationCommand.version (command : DeletionPropagationCommand) : SourceVersion :=
  ⟨command.tenantId, command.sourceObjectId, command.sourceVersionId⟩

/-- The rows of this source version that the deletion's UPDATE reaches. -/
def DeletionPropagationCommand.source (command : DeletionPropagationCommand)
    (store : PgvectorVectorStore) : VectorSource :=
  store.source command.tenantId command.sourceObjectId command.sourceVersionId

/-- No row of the source version is active, under any model version. -/
def NoActiveRow (table : VectorTable) (version : SourceVersion) : Prop :=
  ∀ entry ∈ table.items, entry.1.1.version = version → entry.2.lifecycleState ≠ .active

/-- An active or pending row: the upsert overwrites it. -/
def VectorEmbeddingRecord.IsLive (row : VectorEmbeddingRecord) : Prop :=
  row.lifecycleState = .active ∨ row.lifecycleState = .reindexPending

/-- The store is bound to the model version of the record. -/
def PgvectorVectorStore.Accepts (store : PgvectorVectorStore) (record : VectorEmbeddingRecord) :
    Prop :=
  record.metadata.embeddingModelId = store.embeddingModelId ∧
    record.metadata.embeddingModelVersion = store.embeddingModelVersion

/-! ## The statements -/

theorem noActiveRow_changeState {source : VectorSource}
    {meets : String → VectorEmbeddingRecord → Bool} {state : VectorLifecycleState}
    {auditEventId : Option String} {table : VectorTable} {version : SourceVersion}
    (hstate : state ≠ .active) (h : NoActiveRow table version) :
    NoActiveRow (changeState source meets state auditEventId table) version := by
  intro entry hentry hversion
  obtain ⟨old, hold, hkey, hsame | ⟨-, -, hset⟩⟩ := mem_changeState hentry
  · rw [hsame]
    exact h old hold (by rw [hkey, hversion])
  · rwa [hset]

/-- The UPDATE of a whole source leaves active exactly the rows of other model versions. -/
theorem noActiveRow_transition_iff {source : VectorSource} {state : VectorLifecycleState}
    {auditEventId : Option String} {table : VectorTable} {version : SourceVersion}
    (hstate : state ≠ .active) :
    NoActiveRow (changeState source (fun _ _ => true) state auditEventId table) version ↔
      ∀ entry ∈ table.items, entry.1.1.version = version → entry.1.1 ≠ source →
        entry.2.lifecycleState ≠ .active := by
  constructor
  · intro h entry hentry hversion hother
    refine h entry (List.mem_map.mpr ⟨entry, hentry, ?_⟩) hversion
    rw [if_neg fun hmeets => hother hmeets.1]
  · intro h entry hentry hversion
    obtain ⟨old, hold, rfl⟩ := List.mem_map.mp hentry
    dsimp only at hversion ⊢
    split
    · exact hstate
    · rename_i hmiss
      exact h old hold hversion fun hsame => hmiss ⟨hsame, rfl⟩

/-- What an upsert does. -/
theorem upsertEmbedding_cases {store : PgvectorVectorStore} {record : VectorEmbeddingRecord}
    {table table' : VectorTable} (h : store.upsertEmbedding record table = .ok table') :
    store.Accepts record ∧
      ((∃ row, table.get? record.key = some row ∧ ¬ row.IsLive ∧ table' = table) ∨
        (∀ row, table.get? record.key = some row → row.IsLive) ∧
          ∃ written, written.lifecycleState = record.lifecycleState ∧
            table' = table.set record.key written) := by
  obtain ⟨hid, h⟩ := require_bind_eq_ok.mp h
  obtain ⟨hversion, h⟩ := require_bind_eq_ok.mp h
  refine ⟨⟨hid, hversion⟩, ?_⟩
  cases hget : table.get? record.key with
  | none =>
    rw [hget] at h
    cases h
    -- no row under the key: the record is inserted as it is
    exact .inr ⟨by simp, record, rfl, rfl⟩
  | some row =>
    rw [hget] at h
    dsimp only at h
    split at h
    · rename_i hlive
      cases h
      -- a live row is overwritten, but for the time of its creation
      refine .inr ⟨?_, { record with
        metadata := { record.metadata with createdAtUtc := row.metadata.createdAtUtc } },
        rfl, rfl⟩
      rintro _ ⟨⟩
      exact hlive
    · rename_i hgone
      cases h
      exact .inl ⟨row, rfl, hgone, rfl⟩

/-- An upsert raises exactly on a record of another model version. -/
theorem upsertEmbedding_eq_error {store : PgvectorVectorStore} {record : VectorEmbeddingRecord}
    {table : VectorTable} {exn : Exn} (h : store.upsertEmbedding record table = .error exn) :
    ¬ store.Accepts record := by
  rintro ⟨hid, hversion⟩
  rw [PgvectorVectorStore.upsertEmbedding, require_of _ hid, require_of _ hversion] at h
  dsimp only [bind, Except.bind] at h
  split at h
  · cases h
  · split at h <;> cases h

theorem VectorEmbeddingRecord.version_key (record : VectorEmbeddingRecord) :
    record.key.1.version = record.source.version := rfl

/-- An upsert of an active chunk leaves its source version without an active row exactly if
the chunk has a row that is not live. -/
theorem noActiveRow_upsert_iff {store : PgvectorVectorStore} {record : VectorEmbeddingRecord}
    {table table' : VectorTable} (hactive : record.lifecycleState = .active)
    (h : NoActiveRow table record.source.version)
    (hok : store.upsertEmbedding record table = .ok table') :
    NoActiveRow table' record.source.version ↔
      ∃ row, table.get? record.key = some row ∧ ¬ row.IsLive := by
  obtain ⟨-, ⟨row, hget, hgone, rfl⟩ | ⟨hlive, written, hstate, rfl⟩⟩ := upsertEmbedding_cases hok
  · exact iff_of_true h ⟨row, hget, hgone⟩
  · refine iff_of_false (fun hno => ?_) fun ⟨row, hget, hgone⟩ => hgone (hlive row hget)
    have hentry : (record.key, written) ∈ (table.set record.key written).items :=
      Dict.mem_items.mpr (table.get?_set_self _ _)
    exact hno _ hentry record.version_key (hstate.trans hactive)

/-- An upsert leaves the other source versions alone. -/
theorem noActiveRow_upsert_of_ne {store : PgvectorVectorStore} {record : VectorEmbeddingRecord}
    {table table' : VectorTable} {version : SourceVersion} (hne : record.source.version ≠ version)
    (h : NoActiveRow table version) (hok : store.upsertEmbedding record table = .ok table') :
    NoActiveRow table' version := by
  obtain ⟨-, ⟨row, -, -, rfl⟩ | ⟨-, written, -, rfl⟩⟩ := upsertEmbedding_cases hok
  · exact h
  · intro entry hentry hversion
    rcases Dict.mem_items_set.mp hentry with ⟨hkey, -⟩ | ⟨-, hold⟩
    · rw [hkey, record.version_key] at hversion
      exact absurd hversion hne
    · exact h entry hold hversion

theorem ReindexSourceCommand.active_of_validate {command : ReindexSourceCommand}
    (h : command.validate = .ok ()) : ∀ chunk ∈ command.chunks, chunk.lifecycleState = .active := by
  obtain ⟨-, h⟩ := require_bind_eq_ok.mp h
  obtain ⟨-, h⟩ := require_bind_eq_ok.mp h
  obtain ⟨_, hchunks, -⟩ := Except.bind_eq_ok.mp h
  intro chunk hmem
  have hchunk := Except.forM_eq_ok.mp hchunks chunk hmem
  obtain ⟨-, hchunk⟩ := require_bind_eq_ok.mp hchunk
  obtain ⟨-, hchunk⟩ := require_bind_eq_ok.mp hchunk
  obtain ⟨-, hchunk⟩ := require_bind_eq_ok.mp hchunk
  exact require_eq_ok.mp hchunk

namespace VectorWorld

variable {calls : ℕ → VectorCall} {world : VectorWorld} {version : SourceVersion} {i : ℕ}

/-! ## Turns -/

/-- The deletion of a source version was propagated, through whatever store. -/
def VersionPropagated (calls : ℕ → VectorCall) (world : VectorWorld) (version : SourceVersion) :
    Prop :=
  ∃ i store command transitioned, calls i = .propagateDeletion store command ∧
    world.phase i = .propagated transitioned ∧ command.version = version

/-- No row of a source version whose deletion was propagated is active. -/
def DeletionCovers (calls : ℕ → VectorCall) (world : VectorWorld) : Prop :=
  ∀ version, world.VersionPropagated calls version → NoActiveRow world.table version

/-- What a turn needs to leave deleted source versions without active rows. A deletion: the
rows under other model versions than its store's are not active. An upsert into a deleted
source version: its chunk has a row under this model version that is not live. -/
def KeepsDeleted (calls : ℕ → VectorCall) (world : VectorWorld) (turn : VectorTurn) : Prop :=
  turn.fails = none →
    match calls turn.call, world.phase turn.call with
    | .propagateDeletion store command, .started =>
      command.lifecycleState = .deleted ∨ command.lifecycleState = .cryptoshredded →
        ∀ entry ∈ world.table.items, entry.1.1.version = command.version →
          entry.1.1 ≠ command.source store → entry.2.lifecycleState ≠ .active
    | .reindexSource store _, .upserting _ (chunk :: _) =>
      world.VersionPropagated calls chunk.source.version → store.Accepts chunk →
        ∃ row, world.table.get? chunk.key = some row ∧ ¬ row.IsLive
    | _, _ => True

/-- What a reindex under way still has to upsert are active chunks. -/
def UpsertsActive (calls : ℕ → VectorCall) (world : VectorWorld) : Prop :=
  ∀ i store command marked chunks, calls i = .reindexSource store command →
    world.phase i = .upserting marked chunks → ∀ chunk ∈ chunks, chunk.lifecycleState = .active

theorem versionPropagated_enter_iff {phase : VectorPhase} (table : VectorTable)
    (hbefore : ∀ transitioned, world.phase i ≠ .propagated transitioned)
    (hphase : ∀ transitioned, phase ≠ .propagated transitioned) :
    ({ world with table }.enter i phase).VersionPropagated calls version ↔
      world.VersionPropagated calls version := by
  constructor
  · rintro ⟨j, store, command, transitioned, hcall, hphased, hversion⟩
    by_cases hne : j = i
    · subst hne
      exact absurd (by simpa [enter] using hphased) (hphase transitioned)
    · exact ⟨j, store, command, transitioned, hcall, by simpa [enter, hne] using hphased, hversion⟩
  · rintro ⟨j, store, command, transitioned, hcall, hphased, hversion⟩
    have hne : j ≠ i := by
      rintro rfl
      exact hbefore transitioned hphased
    exact ⟨j, store, command, transitioned, hcall, by simpa [enter, hne] using hphased, hversion⟩

/-- A call goes on, with another table: what was deleted has to stay so. -/
theorem deletionCovers_enter_iff {phase : VectorPhase} {table : VectorTable}
    (hbefore : ∀ transitioned, world.phase i ≠ .propagated transitioned)
    (hphase : ∀ transitioned, phase ≠ .propagated transitioned) :
    DeletionCovers calls ({ world with table }.enter i phase) ↔
      ∀ version, world.VersionPropagated calls version → NoActiveRow table version := by
  simp only [DeletionCovers, versionPropagated_enter_iff table hbefore hphase]
  rfl

/-- A turn of a reindex. -/
theorem deletionCovers_stepReindex_iff (h : DeletionCovers calls world)
    (hactive : UpsertsActive calls world) {store : PgvectorVectorStore}
    {command : ReindexSourceCommand} (hcall : calls i = .reindexSource store command) :
    DeletionCovers calls (world.stepReindex i store command) ↔
      world.KeepsDeleted calls ⟨i, none⟩ := by
  simp only [KeepsDeleted, hcall, forall_const]
  cases hphase : world.phase i with
  | started =>
    -- the rows are marked for the reindex, if anything: no row becomes active
    refine iff_of_true ?_ trivial
    rw [stepReindex, hphase]
    dsimp only
    split
    · exact (deletionCovers_enter_iff (by simp [hphase]) (by simp)).mpr h
    · refine (deletionCovers_enter_iff (by simp [hphase]) (by simp)).mpr fun version hversion => ?_
      exact noActiveRow_changeState (by simp) (h version hversion)
  | upserting marked chunks =>
    rw [stepReindex, hphase]
    cases chunks with
    | nil =>
      -- the last turn deletes what is left over, and again no row becomes active
      refine iff_of_true ?_ trivial
      refine (deletionCovers_enter_iff (by simp [hphase]) (by simp)).mpr fun version hversion => ?_
      exact noActiveRow_changeState (by simp) (h version hversion)
    | cons chunk chunks =>
      dsimp only
      -- one chunk is written, which is active
      have hchunk : chunk.lifecycleState = .active :=
        hactive i store command marked _ hcall hphase chunk (by simp)
      cases hupsert : store.upsertEmbedding chunk world.table with
      | error exn =>
        have hrejects := upsertEmbedding_eq_error hupsert
        refine iff_of_true ?_ fun _ haccepts => absurd haccepts hrejects
        exact (deletionCovers_enter_iff (by simp [hphase]) (by simp)).mpr h
      | ok table =>
        have haccepts := (upsertEmbedding_cases hupsert).1
        dsimp only
        rw [deletionCovers_enter_iff (by simp [hphase]) (by simp)]
        constructor
        · intro hkeeps hversion _
          exact (noActiveRow_upsert_iff hchunk (h _ hversion) hupsert).mp (hkeeps _ hversion)
        · intro hguard version hversion
          -- the chunk's own version decides, the rows of all others are untouched
          by_cases hsame : chunk.source.version = version
          · subst hsame
            exact (noActiveRow_upsert_iff hchunk (h _ hversion) hupsert).mpr
              (hguard hversion haccepts)
          · exact noActiveRow_upsert_of_ne hsame (h version hversion) hupsert
  | reindexed | propagated | raised =>
    refine iff_of_true ?_ trivial
    rw [stepReindex, hphase]
    exact h

/-- A turn of a deletion. -/
theorem deletionCovers_stepDeletion_iff (h : DeletionCovers calls world)
    {store : PgvectorVectorStore} {command : DeletionPropagationCommand}
    (hcall : calls i = .propagateDeletion store command) :
    DeletionCovers calls (world.stepDeletion i store command) ↔
      world.KeepsDeleted calls ⟨i, none⟩ := by
  simp only [KeepsDeleted, hcall, forall_const]
  cases hphase : world.phase i with
  | started =>
    rw [stepDeletion, hphase]
    dsimp only
    split
    · rename_i hstate
      -- the whole deletion is one turn, and takes the rows out of the active state
      have hnotActive : command.lifecycleState ≠ .active := by
        rcases hstate with hstate | hstate <;> simp [hstate]
      rw [PgvectorVectorStore.transitionSourceLifecycle, require_of _ hnotActive]
      dsimp only [bind, Except.bind, pure, Except.pure, PgvectorVectorStore.updateSource]
      rw [forall_prop_of_true hstate]
      constructor
      · intro hcovers
        refine (noActiveRow_transition_iff hnotActive).mp (hcovers command.version ?_)
        exact ⟨i, store, command, _, hcall, by simp [enter]; rfl, rfl⟩
      · rintro hothers version ⟨j, store', command', transitioned, hcall', hphase', rfl⟩
        -- the version of this deletion, or one that was covered before
        by_cases hne : j = i
        · subst hne
          rw [hcall] at hcall'
          cases hcall'
          exact (noActiveRow_transition_iff hnotActive).mpr hothers
        · refine noActiveRow_changeState hnotActive (h _ ?_)
          exact ⟨j, store', command', transitioned, hcall', by simpa [enter, hne] using hphase', rfl⟩
    · rename_i hstate
      refine iff_of_true ?_ fun hvalid => absurd hvalid hstate
      exact (deletionCovers_enter_iff (by simp [hphase]) (by simp)).mpr h
  | upserting | reindexed | propagated | raised =>
    refine iff_of_true ?_ trivial
    rw [stepDeletion, hphase]
    exact h

/-- **A turn** leaves every deleted source version without an active row exactly if it
meets the condition. -/
theorem deletionCovers_step_iff (h : DeletionCovers calls world)
    (hactive : UpsertsActive calls world) (turn : VectorTurn) :
    DeletionCovers calls (world.step calls turn) ↔ world.KeepsDeleted calls turn := by
  obtain ⟨i, fails⟩ := turn
  cases fails with
  | some exn =>
    refine iff_of_true ?_ fun hnone => by cases hnone
    unfold step
    cases hphase : world.phase i with
    | started | upserting =>
      exact (deletionCovers_enter_iff (by simp [hphase]) (by simp)).mpr h
    | reindexed | propagated | raised => simpa [hphase] using h
  | none =>
    unfold step
    dsimp only
    cases hcall : calls i with
    | reindexSource store command => exact deletionCovers_stepReindex_iff h hactive hcall
    | propagateDeletion store command => exact deletionCovers_stepDeletion_iff h hcall

theorem UpsertsActive.enter (h : UpsertsActive calls world) {table : VectorTable}
    {phase : VectorPhase}
    (hphase : ∀ store command marked chunks, calls i = .reindexSource store command →
      phase = .upserting marked chunks → ∀ chunk ∈ chunks, chunk.lifecycleState = .active) :
    UpsertsActive calls ({ world with table }.enter i phase) := by
  intro j store command marked chunks hcall hphased
  by_cases hne : j = i
  · subst hne
    exact hphase store command marked chunks hcall (by simpa [VectorWorld.enter] using hphased)
  · exact h j store command marked chunks hcall (by simpa [VectorWorld.enter, hne] using hphased)

theorem upsertsActive_step (h : UpsertsActive calls world) (turn : VectorTurn) :
    UpsertsActive calls (world.step calls turn) := by
  obtain ⟨i, fails⟩ := turn
  unfold step
  dsimp only
  split
  · exact h.enter (by simp)
  · exact h.enter (by simp)
  · exact h
  split
  · -- only a reindex upserts: the chunks of its command, one less with every turn
    rename_i store command hcall
    unfold stepReindex
    dsimp only
    split
    · split
      · exact h.enter (by simp)
      · rename_i hvalid
        refine h.enter fun store' command' marked chunks hcall' hchunks => ?_
        cases hchunks
        exact ReindexSourceCommand.active_of_validate hvalid
    · rename_i marked chunk chunks hphase
      split
      · exact h.enter (by simp)
      · refine h.enter fun store' command' marked' chunks' hcall' hchunks => ?_
        cases hchunks
        intro later hlater
        exact h i store command marked _ hcall hphase later (List.mem_cons_of_mem _ hlater)
    · exact h.enter (by simp)
    · exact h
  · unfold stepDeletion
    split
    · split
      · split
        · exact h.enter (by simp)
        · exact h.enter (by simp)
      · exact h.enter (by simp)
    · exact h

/-! ## Runs -/

/-- **Deletion covers every model version** in every state of a run exactly if each of its
turns meets the condition: calls of any number, over stores of any model versions, in any
order, from any table. -/
theorem deletion_covers_run_iff (calls : ℕ → VectorCall) (table : VectorTable)
    (turns : List VectorTurn) :
    Runs.Always (step calls) (DeletionCovers calls) { table } turns ↔
      Runs.Guarded (step calls) (KeepsDeleted calls) { table } turns := by
  refine Runs.always_iff_guarded (fun _ turn h => upsertsActive_step h turn)
    (fun _ turn hactive h => deletionCovers_step_iff h hactive turn) ?_ ?_ turns
  · intro i store command marked chunks _ hphase
    cases hphase
  · rintro version ⟨i, store, command, transitioned, -, hphase, -⟩
    cases hphase

/-- The deletion of the sample's source version, through the store of a second model version. -/
def sampleOtherModelCalls (_ : ℕ) : VectorCall :=
  .propagateDeletion ⟨"m", "2"⟩ {
    tenantId := "t", sourceObjectId := "doc", sourceVersionId := "v1" }

/-- The source version has one active row. The deletion completes, and the row is active. -/
theorem other_model_stays_active :
    let world := Runs.run (step sampleOtherModelCalls) { table := sampleTable } [⟨0, none⟩]
    world.phase 0 = .propagated 0 ∧ ¬ NoActiveRow world.table ⟨"t", "doc", "v1"⟩ := by
  refine ⟨by decide +kernel, fun hno => ?_⟩
  exact hno (sampleChunk.key, sampleChunk) (by decide +kernel) rfl rfl

end VectorWorld

end Collabio
