import Mathlib.Tactic
import Collabio.Rag.VectorWorker

/-!
# Deletion and reindexing of one source version

* `gone_changeState`, `gone_upsertEmbedding` — what the store calls do to the rows of a
  deleted source;
* `deletion_final_run`   — runs in which no reindex inserts a chunk into it;
* `chunk_after_deletion` — a reindex that is still under way inserts one.
-/

namespace Collabio

/-! ## Rows of a deleted source -/

/-- Every row of the source is deleted or shredded. -/
def Gone (table : VectorTable) (source : VectorSource) : Prop :=
  ∀ entry ∈ table.items, entry.1.1 = source →
    entry.2.lifecycleState = .deleted ∨ entry.2.lifecycleState = .cryptoshredded

theorem mem_changeState {source : VectorSource} {meets : String → VectorEmbeddingRecord → Bool}
    {state : VectorLifecycleState} {auditEventId : Option String} {table : VectorTable}
    {entry : (VectorSource × String) × VectorEmbeddingRecord}
    (h : entry ∈ (changeState source meets state auditEventId table).items) :
    ∃ old ∈ table.items, old.1 = entry.1 ∧
      (entry.2 = old.2 ∨ (entry.1.1 = source ∧ meets entry.1.2 old.2 = true ∧
        entry.2.lifecycleState = state)) := by
  obtain ⟨old, hold, rfl⟩ := List.mem_map.mp h
  refine ⟨old, hold, rfl, ?_⟩
  by_cases hmeets : old.1.1 = source ∧ meets old.1.2 old.2 = true
  · rw [if_pos hmeets]
    exact .inr ⟨hmeets.1, hmeets.2, rfl⟩
  · rw [if_neg hmeets]
    exact .inl rfl

/-- An UPDATE leaves a deleted source deleted, if it sets such a state or passes over rows
in such a state. -/
theorem gone_changeState {source target : VectorSource}
    {meets : String → VectorEmbeddingRecord → Bool} {state : VectorLifecycleState}
    {auditEventId : Option String} {table : VectorTable} (h : Gone table source)
    (hstate : (state = .deleted ∨ state = .cryptoshredded) ∨ ∀ chunkId row,
      meets chunkId row = true → row.lifecycleState = .active ∨
        row.lifecycleState = .reindexPending) :
    Gone (changeState target meets state auditEventId table) source := by
  intro entry hentry hsource
  obtain ⟨old, hold, hkey, hsame | ⟨-, hmeets, hset⟩⟩ := mem_changeState hentry
  · rw [hsame]
    exact h old hold (by rw [hkey, hsource])
  · rcases hstate with hstate | hpass
    · rwa [hset]
    · -- the row would have to be live and deleted
      have hgone := h old hold (by rw [hkey, hsource])
      rcases hpass _ _ hmeets with hlive | hlive <;> rw [hlive] at hgone <;> simp at hgone

/-- The UPDATE of all its rows deletes a source. -/
theorem gone_of_transition {source : VectorSource} {state : VectorLifecycleState}
    {auditEventId : Option String} {table : VectorTable}
    (hstate : state = .deleted ∨ state = .cryptoshredded) :
    Gone (changeState source (fun _ _ => true) state auditEventId table) source := by
  intro entry hentry hsource
  obtain ⟨old, hold, rfl⟩ := List.mem_map.mp hentry
  have hmeets : old.1.1 = source ∧ (fun (_ : String) (_ : VectorEmbeddingRecord) => true)
      old.1.2 old.2 = true := ⟨hsource, rfl⟩
  dsimp only
  rw [if_pos hmeets]
  exact hstate

/-- An upsert leaves a deleted source deleted, if it inserts no row of it. -/
theorem gone_upsertEmbedding {store : PgvectorVectorStore} {record : VectorEmbeddingRecord}
    {source : VectorSource} {table table' : VectorTable} (h : Gone table source)
    (hthere : record.source = source → table.contains record.key = true)
    (hok : store.upsertEmbedding record table = .ok table') : Gone table' source := by
  obtain ⟨-, hok⟩ := require_bind_eq_ok.mp hok
  obtain ⟨-, hok⟩ := require_bind_eq_ok.mp hok
  -- a row of another source is none of this one
  have hset : ∀ value, record.source ≠ source → Gone (table.set record.key value) source := by
    intro value hne entry hentry hsource
    rcases Dict.mem_items_set.mp hentry with ⟨hkey, -⟩ | ⟨-, hold⟩
    · rw [hkey] at hsource
      exact absurd hsource hne
    · exact h entry hold hsource
  rcases hget : table.get? record.key with _ | row
  · rw [hget] at hok
    cases hok
    refine hset _ fun hsource => ?_
    have hcontains := hthere hsource
    rw [Dict.contains, hget] at hcontains
    cases hcontains
  · rw [hget] at hok
    dsimp only at hok
    split at hok
    · rename_i hlive
      cases hok
      refine hset _ fun hsource => ?_
      -- a live row is no deleted one
      have hgone := h (record.key, row) (Dict.mem_items.mpr hget) hsource
      rcases hlive with hlive | hlive <;> rw [hlive] at hgone <;> simp at hgone
    · cases hok
      exact h

namespace VectorWorld

variable {calls : ℕ → VectorCall} {world : VectorWorld} {source : VectorSource} {i : ℕ}

/-! ## Steps -/

/-- Where a deletion was propagated, it has been or its call has just ended. -/
theorem propagated_of_enter {phase : VectorPhase}
    (h : (world.enter i phase).Propagated calls source) :
    world.Propagated calls source ∨ ∃ store command transitioned,
      calls i = .propagateDeletion store command ∧ phase = .propagated transitioned ∧
        store.source command.tenantId command.sourceObjectId command.sourceVersionId = source := by
  obtain ⟨j, store, command, transitioned, hcall, hphase, hsource⟩ := h
  by_cases hne : j = i
  · subst hne
    have hnow : phase = .propagated transitioned := by
      simpa [enter] using hphase
    exact .inr ⟨store, command, transitioned, hcall, hnow, hsource⟩
  · have hbefore : world.phase j = .propagated transitioned := by
      simpa [enter, hne] using hphase
    exact .inl ⟨j, store, command, transitioned, hcall, hbefore, hsource⟩

/-- Every source whose deletion was propagated is gone. -/
def AllGone (calls : ℕ → VectorCall) (world : VectorWorld) : Prop :=
  ∀ source, world.Propagated calls source → Gone world.table source

/-- A call goes on, with a table in which what is gone stays gone. -/
theorem AllGone.enter (h : AllGone calls world) {table : VectorTable} {phase : VectorPhase}
    (hphase : ∀ transitioned, phase ≠ .propagated transitioned)
    (htable : ∀ source, world.Propagated calls source → Gone world.table source →
      Gone table source) : AllGone calls ({ world with table }.enter i phase) := by
  intro source hsource
  rcases propagated_of_enter hsource with hbefore | ⟨_, _, transitioned, -, hnow, -⟩
  · exact htable source hbefore (h source hbefore)
  · exact absurd hnow (hphase transitioned)

theorem allGone_stepReindex (h : AllGone calls world) {store : PgvectorVectorStore}
    {command : ReindexSourceCommand} (hguard : world.InsertsNoChunk calls ⟨i, none⟩) :
    AllGone calls (world.stepReindex i store command) := by
  unfold stepReindex
  dsimp only
  split
  · split
    · exact h.enter (fun _ => by simp) fun _ _ hgone => hgone
    · refine h.enter (fun _ => by simp) fun source _ hgone => ?_
      refine gone_changeState hgone (.inr fun chunkId row hmeets => .inl ?_)
      exact of_decide_eq_true hmeets
  · rename_i marked chunk chunks hphase
    split
    · exact h.enter (fun _ => by simp) fun _ _ hgone => hgone
    · rename_i table hok
      refine h.enter (fun _ => by simp) fun source hsource hgone => ?_
      refine gone_upsertEmbedding hgone (fun hsame => ?_) hok
      exact hguard marked chunk chunks hphase (by rwa [hsame])
  · refine h.enter (fun _ => by simp) fun source _ hgone => ?_
    exact gone_changeState hgone (.inl (.inl rfl))
  · exact h

theorem allGone_stepDeletion (h : AllGone calls world) {store : PgvectorVectorStore}
    {command : DeletionPropagationCommand} (hcall : calls i = .propagateDeletion store command) :
    AllGone calls (world.stepDeletion i store command) := by
  unfold stepDeletion
  split
  · split
    · rename_i hstate
      split
      · exact h.enter (fun _ => by simp) fun _ _ hgone => hgone
      · rename_i table transitioned hok
        obtain ⟨-, hok⟩ := require_bind_eq_ok.mp hok
        cases hok
        intro source hsource
        rcases propagated_of_enter hsource with hbefore | ⟨store', command', _, hcall', -, hsame⟩
        · exact gone_changeState (h source hbefore) (.inl hstate)
        · rw [hcall] at hcall'
          cases hcall'
          rw [← hsame]
          exact gone_of_transition hstate
    · exact h.enter (fun _ => by simp) fun _ _ hgone => hgone
  · exact h

/-- **A turn** that inserts no chunk into a deleted source keeps it deleted. -/
theorem allGone_step (h : AllGone calls world) {turn : VectorTurn}
    (hguard : world.InsertsNoChunk calls turn) : AllGone calls (world.step calls turn) := by
  obtain ⟨i, fails⟩ := turn
  unfold step
  dsimp only
  split
  · exact h.enter (fun _ => by simp) fun _ _ hgone => hgone
  · exact h.enter (fun _ => by simp) fun _ _ hgone => hgone
  · exact h
  · split
    · exact allGone_stepReindex h hguard
    · rename_i hcall
      exact allGone_stepDeletion h hcall

/-- **Deletion is final** in every state of a run in which no upsert inserts a chunk into a
source version after its deletion was propagated. -/
theorem deletion_final_run (calls : ℕ → VectorCall) (table : VectorTable)
    (turns : List VectorTurn)
    (hguarded : Runs.Guarded (step calls) (InsertsNoChunk calls) { table } turns) :
    Runs.Always (step calls) (DeletionFinal calls) { table } turns := by
  have hstart : AllGone calls { table } := by
    rintro source ⟨i, store, command, transitioned, -, hphase, -⟩
    cases hphase
  have hgone := @Runs.always_of_guarded _ _ (step calls) (AllGone calls) (InsertsNoChunk calls)
    (fun _ _ h hguard => allGone_step h hguard) _ hstart turns hguarded
  refine Runs.always_mono (fun world h source hsource entry hentry hsame => ?_) hgone
  rcases h source hsource entry hentry hsame with hstate | hstate <;> rw [hstate] <;> simp

/-! ## A reindex under way -/

def sampleChunk : VectorEmbeddingRecord where
  metadata := {
    tenantId := "t", sourceObjectId := "doc", sourceObjectType := "document"
    sourceVersionId := "v1", chunkId := "c1", classification := .internal
    retentionPolicyId := "office", legalHoldState := "none", aclHash := "acl:1", aclVersion := 1
    createdAtUtc := "2026-01-05T09:00:00Z", embeddingModelId := "m", embeddingModelVersion := "1"
    contentHash := "sha256:1" }
  embeddingDimensions := 3
  contentByteLength := 10
  indexedAtUtc := "2026-01-05T09:00:00Z"

/-- A reindex of a source version with one chunk, and its deletion. -/
def sampleVectorCalls (i : ℕ) : VectorCall :=
  let store : PgvectorVectorStore := ⟨"m", "1"⟩
  if i = 0 then
    .reindexSource store {
      tenantId := "t", sourceObjectId := "doc", sourceVersionId := "v1", chunks := [sampleChunk] }
  else .propagateDeletion store { tenantId := "t", sourceObjectId := "doc", sourceVersionId := "v1" }

/-- The reindex has marked the rows when the deletion comes; then it upserts its chunk, which
has no row yet, and deletes what it takes for orphans. -/
theorem chunk_after_deletion :
    ¬ (Runs.run (step sampleVectorCalls) { table := ∅ } [⟨0, none⟩, ⟨1, none⟩, ⟨0, none⟩,
      ⟨0, none⟩]).DeletionFinal sampleVectorCalls := by
  intro hfinal
  refine hfinal sampleChunk.source ⟨1, ⟨"m", "1"⟩, _, 0, rfl, ?_, rfl⟩
    (sampleChunk.key, sampleChunk) ?_ rfl rfl
  · decide +kernel
  · decide +kernel

/-- The table with a row of the chunk. -/
def sampleTable : VectorTable := Dict.set ∅ sampleChunk.key sampleChunk

/-- When the chunk has a row already, the deletion may come at the same moment. -/
theorem sample_deletion_final :
    Runs.Always (step sampleVectorCalls) (DeletionFinal sampleVectorCalls)
      { table := sampleTable } [⟨0, none⟩, ⟨1, none⟩, ⟨0, none⟩, ⟨0, none⟩] := by
  have hphases : ((Runs.run (step sampleVectorCalls) { table := sampleTable }
      [⟨0, none⟩]).phase 1 = .started ∧
      (Runs.run (step sampleVectorCalls) { table := sampleTable }
        [⟨0, none⟩, ⟨1, none⟩]).phase 0 = .upserting 1 [sampleChunk] ∧
      (Runs.run (step sampleVectorCalls) { table := sampleTable }
        [⟨0, none⟩, ⟨1, none⟩]).table.contains sampleChunk.key = true) ∧
      (Runs.run (step sampleVectorCalls) { table := sampleTable }
        [⟨0, none⟩, ⟨1, none⟩, ⟨0, none⟩]).phase 0 = .upserting 1 [] := by decide +kernel
  obtain ⟨⟨hstarted, hupserting, hthere⟩, hlast⟩ := hphases
  refine deletion_final_run _ _ _ (Runs.guarded_cons.mpr ⟨?_, Runs.guarded_cons.mpr ⟨?_,
    Runs.guarded_cons.mpr ⟨?_, Runs.guarded_cons.mpr ⟨?_, Runs.guarded_nil⟩⟩⟩⟩)
  · intro _ _ _ hphase
    cases hphase
  · intro _ _ _ hphase
    have hsame := hstarted.symm.trans hphase
    cases hsame
  · intro _ _ _ hphase _
    have hsame := hupserting.symm.trans hphase
    cases hsame
    exact hthere
  · intro _ _ _ hphase
    have hsame := hlast.symm.trans hphase
    cases hsame

end VectorWorld

end Collabio
