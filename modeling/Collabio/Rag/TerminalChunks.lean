import Mathlib.Tactic
import Collabio.Rag.DeletionCoverage

/-!
# Terminal states of chunks

Five operations of the store write the lifecycle column. Upserts, marks and the deletion
of orphans pass over rows that are gone; the two transitions do not look at the state a
row is in.

* `MayBecome`             — deleted rows stay gone, cryptoshredded rows stay as they are;
* `kept_upsertEmbedding`, `kept_changeState_iff` — the statements;
* `terminal_states_iff`   — a run keeps terminal states exactly if no transition of it
  moves a row out of one;
* `deletion_after_shredding` — a deletion that is propagated after a cryptoshredding does.
-/

namespace Collabio

/-- What a row in the first state may be in later. -/
def VectorLifecycleState.MayBecome : VectorLifecycleState → VectorLifecycleState → Prop
  | .cryptoshredded, later => later = .cryptoshredded
  | .deleted, later => later = .deleted ∨ later = .cryptoshredded
  | _, _ => True

instance (state later : VectorLifecycleState) : Decidable (state.MayBecome later) := by
  cases state <;> unfold VectorLifecycleState.MayBecome <;> infer_instance

theorem VectorLifecycleState.mayBecome_refl (state : VectorLifecycleState) :
    state.MayBecome state := by
  cases state <;> decide

theorem VectorLifecycleState.mayBecome_trans {first second third : VectorLifecycleState}
    (h : first.MayBecome second) (h' : second.MayBecome third) : first.MayBecome third := by
  revert h h'
  cases first <;> cases second <;> cases third <;> decide

/-- Live rows may become anything. -/
theorem VectorLifecycleState.mayBecome_of_live {state later : VectorLifecycleState}
    (h : state = .active ∨ state = .reindexPending) : state.MayBecome later := by
  rcases h with rfl | rfl <;> trivial

/-! ## Operations -/

/-- `transition_lifecycle`, with whether one row was updated. -/
def PgvectorVectorStore.transitionLifecycle (store : PgvectorVectorStore)
    (tenantId sourceObjectId sourceVersionId chunkId : String)
    (lifecycleState : VectorLifecycleState) (auditEventId : Option String)
    (table : VectorTable) : VectorTable × Bool :=
  let (table, rowcount) := store.updateSource tenantId sourceObjectId sourceVersionId
    (fun rowChunkId _ => rowChunkId = chunkId) lifecycleState auditEventId table
  (table, rowcount = 1)

/-- The operations of a store that write chunk rows, with their arguments. -/
inductive VectorStoreOperation where
  | upsertEmbedding (record : VectorEmbeddingRecord)
  | transitionLifecycle (tenantId sourceObjectId sourceVersionId chunkId : String)
      (lifecycleState : VectorLifecycleState) (auditEventId : Option String)
  | markSourceForReindex (tenantId sourceObjectId sourceVersionId : String)
      (auditEventId : Option String)
  | deleteReindexOrphans (tenantId sourceObjectId sourceVersionId : String)
      (keepChunkIds : List String) (auditEventId : Option String)
  | transitionSourceLifecycle (tenantId sourceObjectId sourceVersionId : String)
      (lifecycleState : VectorLifecycleState) (auditEventId : Option String)

/-- An operation of a store, and whether the database refuses it. -/
structure VectorStoreTurn where
  store     : PgvectorVectorStore
  operation : VectorStoreOperation
  refused   : Bool := false

/-- The table after the operation; one that raises leaves it as it was. -/
def VectorStoreOperation.apply (store : PgvectorVectorStore) (table : VectorTable) :
    VectorStoreOperation → VectorTable
  | .upsertEmbedding record =>
    match store.upsertEmbedding record table with
    | .ok table' => table'
    | .error _ => table
  | .transitionLifecycle tenantId sourceObjectId sourceVersionId chunkId lifecycleState
      auditEventId =>
    (store.transitionLifecycle tenantId sourceObjectId sourceVersionId chunkId lifecycleState
      auditEventId table).1
  | .markSourceForReindex tenantId sourceObjectId sourceVersionId auditEventId =>
    (store.markSourceForReindex tenantId sourceObjectId sourceVersionId auditEventId table).1
  | .deleteReindexOrphans tenantId sourceObjectId sourceVersionId keepChunkIds auditEventId =>
    (store.deleteReindexOrphans tenantId sourceObjectId sourceVersionId keepChunkIds
      auditEventId table).1
  | .transitionSourceLifecycle tenantId sourceObjectId sourceVersionId lifecycleState
      auditEventId =>
    match store.transitionSourceLifecycle tenantId sourceObjectId sourceVersionId lifecycleState
        auditEventId table with
    | .ok (table', _) => table'
    | .error _ => table

def VectorStoreTurn.apply (table : VectorTable) (turn : VectorStoreTurn) : VectorTable :=
  if turn.refused then table else turn.operation.apply turn.store table

/-- No row of the first table is, in the second one, where its state may not become. -/
def TerminalKept (table table' : VectorTable) : Prop :=
  ∀ key row, table.get? key = some row →
    ∃ row', table'.get? key = some row' ∧ row.lifecycleState.MayBecome row'.lifecycleState

/-- The rows that a transition names may become what it makes them. -/
def VectorStoreOperation.KeepsTerminal (store : PgvectorVectorStore) (table : VectorTable) :
    VectorStoreOperation → Prop
  | .transitionLifecycle tenantId sourceObjectId sourceVersionId chunkId lifecycleState _ =>
    ∀ row, table.get? (store.source tenantId sourceObjectId sourceVersionId, chunkId) = some row →
      row.lifecycleState.MayBecome lifecycleState
  | .transitionSourceLifecycle tenantId sourceObjectId sourceVersionId lifecycleState _ =>
    lifecycleState ≠ .active → ∀ chunkId row,
      table.get? (store.source tenantId sourceObjectId sourceVersionId, chunkId) = some row →
        row.lifecycleState.MayBecome lifecycleState
  | _ => True

def VectorStoreTurn.KeepsTerminal (table : VectorTable) (turn : VectorStoreTurn) : Prop :=
  turn.refused = false → turn.operation.KeepsTerminal turn.store table

/-! ## Statements -/

theorem terminalKept_refl (table : VectorTable) : TerminalKept table table :=
  fun _ row h => ⟨row, h, row.lifecycleState.mayBecome_refl⟩

theorem terminalKept_trans {first second third : VectorTable} (h : TerminalKept first second)
    (h' : TerminalKept second third) : TerminalKept first third := by
  intro key row hrow
  obtain ⟨row', hrow', hnext⟩ := h key row hrow
  obtain ⟨row'', hrow'', hlast⟩ := h' key row' hrow'
  exact ⟨row'', hrow'', VectorLifecycleState.mayBecome_trans hnext hlast⟩

theorem get?_changeState (source : VectorSource)
    (meets : String → VectorEmbeddingRecord → Bool) (state : VectorLifecycleState)
    (auditEventId : Option String) (table : VectorTable) (key : VectorSource × String) :
    (changeState source meets state auditEventId table).get? key =
      (table.get? key).map fun row =>
        if key.1 = source ∧ meets key.2 row = true then
          { row with lifecycleState := state, auditEventId := auditEventId.or row.auditEventId }
        else row :=
  @Dict.get?_mapItems _ VectorEmbeddingRecord _ VectorEmbeddingRecord table (fun key row =>
    if key.1 = source ∧ meets key.2 row = true then
      { row with lifecycleState := state, auditEventId := auditEventId.or row.auditEventId }
    else row) key

/-- **UPDATE.** A statement keeps terminal states exactly if the rows that it changes may
become what it sets. -/
theorem kept_changeState_iff {source : VectorSource}
    {meets : String → VectorEmbeddingRecord → Bool} {state : VectorLifecycleState}
    {auditEventId : Option String} {table : VectorTable} :
    TerminalKept table (changeState source meets state auditEventId table) ↔
      ∀ chunkId row, table.get? (source, chunkId) = some row → meets chunkId row = true →
        row.lifecycleState.MayBecome state := by
  constructor
  · intro h chunkId row hrow hmeets
    obtain ⟨row', hrow', hkept⟩ := h _ row hrow
    rw [get?_changeState, hrow, Option.map_some, if_pos ⟨rfl, hmeets⟩, Option.some.injEq] at hrow'
    rwa [← hrow'] at hkept
  · rintro h ⟨rowSource, chunkId⟩ row hrow
    rw [get?_changeState, hrow, Option.map_some]
    refine ⟨_, rfl, ?_⟩
    by_cases hmeets : rowSource = source ∧ meets chunkId row = true
    · rw [if_pos hmeets]
      obtain ⟨rfl, hmeets⟩ := hmeets
      exact h chunkId row hrow hmeets
    · rw [if_neg hmeets]
      exact row.lifecycleState.mayBecome_refl

/-- **Upserts** change live rows only. -/
theorem kept_upsertEmbedding {store : PgvectorVectorStore} {record : VectorEmbeddingRecord}
    {table table' : VectorTable} (h : store.upsertEmbedding record table = .ok table') :
    TerminalKept table table' := by
  obtain ⟨-, ⟨_, -, -, rfl⟩ | ⟨hlive, written, -, rfl⟩⟩ := upsertEmbedding_cases h
  · exact terminalKept_refl table'
  · intro key row hrow
    rw [Dict.get?_set]
    by_cases hkey : key = record.key
    · rw [if_pos hkey]
      rw [hkey] at hrow
      exact ⟨written, rfl, VectorLifecycleState.mayBecome_of_live (hlive row hrow)⟩
    · rw [if_neg hkey]
      exact ⟨row, hrow, row.lifecycleState.mayBecome_refl⟩

/-- **Step.** An operation keeps terminal states exactly if it is no transition of a row out
of one. -/
theorem kept_apply_iff {table : VectorTable} {turn : VectorStoreTurn} :
    TerminalKept table (turn.apply table) ↔ turn.KeepsTerminal table := by
  obtain ⟨store, operation, refused⟩ := turn
  cases refused with
  | true => exact iff_of_true (terminalKept_refl table) (by rintro ⟨⟩)
  | false =>
    show TerminalKept table (operation.apply store table) ↔
      (false = false → operation.KeepsTerminal store table)
    rw [forall_prop_of_true rfl]
    cases operation with
    -- an upsert leaves a deleted row alone
    | upsertEmbedding record =>
      refine iff_of_true ?_ trivial
      show TerminalKept table (match store.upsertEmbedding record table with
        | .ok table' => table'
        | .error _ => table)
      split
      · rename_i hok
        exact kept_upsertEmbedding hok
      · exact terminalKept_refl table
    -- one row changes its state, which the turn's own condition is about
    | transitionLifecycle tenantId sourceObjectId sourceVersionId chunkId state auditEventId =>
      refine kept_changeState_iff.trans ⟨fun h row hrow => ?_, fun h rowChunkId row hrow hmeets => ?_⟩
      · exact h chunkId row hrow (decide_eq_true rfl)
      · rw [of_decide_eq_true hmeets] at hrow
        exact h row hrow
    | markSourceForReindex tenantId sourceObjectId sourceVersionId auditEventId =>
      -- only live rows are marked, and only pending ones deleted
      refine iff_of_true (kept_changeState_iff.mpr fun chunkId row _ hmeets => ?_) trivial
      exact VectorLifecycleState.mayBecome_of_live (.inl (of_decide_eq_true hmeets))
    | deleteReindexOrphans tenantId sourceObjectId sourceVersionId keepChunkIds auditEventId =>
      refine iff_of_true (kept_changeState_iff.mpr fun chunkId row _ hmeets => ?_) trivial
      have hpending := (Bool.and_eq_true_iff.mp hmeets).1
      exact VectorLifecycleState.mayBecome_of_live (.inr (of_decide_eq_true hpending))
    | transitionSourceLifecycle tenantId sourceObjectId sourceVersionId state auditEventId =>
      by_cases hstate : state = .active
      · -- the store refuses to make the rows active
        refine iff_of_true ?_ fun hne => absurd hstate hne
        have hraises : (VectorStoreOperation.transitionSourceLifecycle tenantId sourceObjectId
            sourceVersionId state auditEventId).apply store table = table := by
          rw [VectorStoreOperation.apply, PgvectorVectorStore.transitionSourceLifecycle,
            require_of_not _ (not_not.mpr hstate)]
          rfl
        rw [hraises]
        exact terminalKept_refl table
      · have happly : (VectorStoreOperation.transitionSourceLifecycle tenantId sourceObjectId
            sourceVersionId state auditEventId).apply store table =
            changeState (store.source tenantId sourceObjectId sourceVersionId) (fun _ _ => true)
              state auditEventId table := by
          rw [VectorStoreOperation.apply, PgvectorVectorStore.transitionSourceLifecycle,
            require_of _ hstate]
          rfl
        rw [happly, kept_changeState_iff]
        simp [VectorStoreOperation.KeepsTerminal, hstate]

/-! ## Runs -/

/-- **Terminal states.** Over a run from any table, rows once cryptoshredded stay so and rows
once deleted stay deleted or become cryptoshredded, exactly if each transition that the
database carries out names rows that may become what it makes them. -/
theorem terminal_states_iff (table : VectorTable) (turns : List VectorStoreTurn) :
    Runs.Evolves VectorStoreTurn.apply TerminalKept table turns ↔
      Runs.Guarded VectorStoreTurn.apply VectorStoreTurn.KeepsTerminal table turns :=
  Runs.evolves_iff_guarded terminalKept_refl (fun _ _ _ => terminalKept_trans)
    (fun _ _ => kept_apply_iff)

/-! ## A deletion after a cryptoshredding -/

/-- The statements of two propagations for the sample chunk: cryptoshredded, then deleted. -/
def sampleTransitions : List VectorStoreTurn :=
  [VectorLifecycleState.cryptoshredded, .deleted].map fun state =>
    ⟨⟨"m", "1"⟩, .transitionSourceLifecycle "t" "doc" "v1" state none, false⟩

/-- A cryptoshredded chunk is deleted again, and is cryptoshredded no more. -/
theorem deletion_after_shredding :
    ¬ Runs.Evolves VectorStoreTurn.apply TerminalKept VectorWorld.sampleTable sampleTransitions := by
  intro h
  have hkept := h (sampleTransitions.take 1) (sampleTransitions.drop 1) (List.prefix_refl _)
  have hshredded : ((Runs.run VectorStoreTurn.apply VectorWorld.sampleTable
      (sampleTransitions.take 1)).get? VectorWorld.sampleChunk.key).map (·.lifecycleState) =
      some .cryptoshredded := by decide +kernel
  have hdeleted : ((Runs.run VectorStoreTurn.apply VectorWorld.sampleTable
      sampleTransitions).get? VectorWorld.sampleChunk.key).map (·.lifecycleState) =
      some .deleted := by decide +kernel
  obtain ⟨row, hrow, hstate⟩ := Option.map_eq_some_iff.mp hshredded
  obtain ⟨row', hrow', hnext⟩ := hkept _ row hrow
  rw [List.take_append_drop] at hrow'
  rw [hrow', Option.map_some, Option.some.injEq] at hdeleted
  rw [hstate, hdeleted] at hnext
  exact absurd hnext (by decide)

end Collabio
