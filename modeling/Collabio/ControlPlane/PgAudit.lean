import Mathlib.Tactic
import Collabio.Library.Runs
import Collabio.ControlPlane.Audit

/-!
# The audit chain in PostgreSQL

The lock on a tenant's chain makes each `record` one step: it looks up the last
row of the tenant, hashes the next event and inserts it, or raises on a
constraint of the table and inserts nothing. Which logger makes a call does not
matter, since none reads its own memory.

* `Chained`          — each tenant's rows are its recorded events, in order, and verify;
* `pg_audit_chained` — they are after every run.
-/

namespace Collabio

variable (H : HashFunctions)

/-- What the table refuses. -/
inductive PgViolation where
  | check (column : String)
  | unique (columns : List String)
  | bigintOutOfRange
  deriving DecidableEq, Repr

/-- The table, its rows as they were inserted, and each logger's `_events`. -/
structure PgAuditWorld where
  rows    : List AuditEvent := []
  loggers : Nat → List AuditEvent := fun _ => []

namespace PgAuditLogger

/-- `WHERE tenant_id = %s ORDER BY sequence_number`. -/
def eventsForTenant (rows : List AuditEvent) (tenantId : String) : List AuditEvent :=
  (rows.filter fun event => event.tenantId = tenantId).insertionSort
    fun a b => a.sequenceNumber ≤ b.sequenceNumber

/-- `ORDER BY sequence_number DESC LIMIT 1`. -/
def previousRow (rows : List AuditEvent) (tenantId : String) : Option AuditEvent :=
  ((rows.filter fun event => event.tenantId = tenantId).insertionSort
    fun a b => b.sequenceNumber ≤ a.sequenceNumber).head?

/-- The event after this row. -/
def nextEvent (previous : Option AuditEvent) (call : AuditCall) : AuditEvent :=
  let event : AuditEvent := {
    eventId := call.eventId
    sequenceNumber := (previous.map (·.sequenceNumber)).getD 0 + 1
    tenantId := call.userContext.tenantId
    userId := call.userContext.userId
    eventType := call.eventType
    modelId := call.modelId
    promptTemplateId := call.promptTemplateId
    sourceObjectIds := call.sourceObjectIds
    inputHash := call.inputText.map (stableHash H)
    outputHash := call.outputText.map (stableHash H)
    metadata := call.metadata
    previousEventHash := (previous.map (·.eventHash)).getD genesisHash
    eventHash := "" }
  { event with eventHash := auditEventHash H event }

/-- The constraints on a new row. Hashes are made by `stable_hash`, whose texts match
their pattern, and metadata is an object by its type. -/
def violation? (rows : List AuditEvent) (event : AuditEvent) : Option PgViolation :=
  if event.tenantId = "" then some (.check "tenant_id")
  else if event.sequenceNumber < 1 then some (.check "sequence_number")
  else if 2 ^ 63 ≤ event.sequenceNumber then some .bigintOutOfRange
  else if event.eventId = "" then some (.check "event_id")
  else if event.userId = "" then some (.check "user_id")
  else if event.eventType = "" then some (.check "event_type")
  else if ∃ row ∈ rows, row.tenantId = event.tenantId ∧
      row.sequenceNumber = event.sequenceNumber then
    some (.unique ["tenant_id", "sequence_number"])
  else if ∃ row ∈ rows, row.eventId = event.eventId then some (.unique ["event_id"])
  else if ∃ row ∈ rows, row.tenantId = event.tenantId ∧ row.eventHash = event.eventHash then
    some (.unique ["tenant_id", "event_hash"])
  else none

/-- `PgAuditLogger.record`, as one transaction. -/
def record (logger : Nat) (call : AuditCall) : Eff PgViolation PgAuditWorld AuditEvent :=
  fun world =>
    let event := nextEvent H (previousRow world.rows call.userContext.tenantId) call
    match violation? world.rows event with
    | some violation => (.error violation, world)
    | none => (.ok event, {
        rows := world.rows ++ [event]
        loggers := Function.update world.loggers logger (world.loggers logger ++ [event]) })

end PgAuditLogger

open PgAuditLogger

/-! ## Runs -/

/-- Whose turn it is, with which logger, to record what. -/
structure PgAuditTurn where
  caller : Nat
  logger : Nat
  call   : AuditCall

/-- The stores, and what has been recorded so far by whom. -/
structure PgAuditRun where
  world    : PgAuditWorld := {}
  recorded : List (PgAuditTurn × AuditEvent) := []

namespace PgAuditRun

/-- Before the first call. -/
def empty : PgAuditRun := {}

/-- One call of any caller; a call that raises records nothing. -/
def step (run : PgAuditRun) (turn : PgAuditTurn) : PgAuditRun :=
  match PgAuditLogger.record H turn.logger turn.call run.world with
  | (.ok event, world) => ⟨world, run.recorded ++ [(turn, event)]⟩
  | (.error _, world) => { run with world }

/-- The recorded events of a tenant, oldest first. -/
def recordedFor (run : PgAuditRun) (tenantId : String) : List AuditEvent :=
  (run.recorded.map Prod.snd).filter fun event => event.tenantId = tenantId

/-- Those of one caller. -/
def recordedBy (run : PgAuditRun) (caller : Nat) (tenantId : String) : List AuditEvent :=
  ((run.recorded.filter fun entry => entry.1.caller = caller).map Prod.snd).filter
    fun event => event.tenantId = tenantId

/-- What holds of the stored events of each tenant. -/
structure Chained (run : PgAuditRun) : Prop where
  /-- They verify. -/
  verified : ∀ tenantId,
    (verifyAuditChain H (eventsForTenant run.world.rows tenantId)).ok = true
  /-- They are the recorded events, in the order of recording. -/
  stored : ∀ tenantId, eventsForTenant run.world.rows tenantId = run.recordedFor tenantId
  /-- Each of them once. -/
  once : ∀ tenantId, (eventsForTenant run.world.rows tenantId).Nodup
  /-- Every caller finds its own events in the order of its calls. -/
  callers : ∀ caller tenantId,
    (run.recordedBy caller tenantId).Sublist (eventsForTenant run.world.rows tenantId)

end PgAuditRun

open PgAuditRun

variable {H}

/-! ## Rows in order -/

/-- The rows of a tenant, as they were inserted. -/
def tenantRows (rows : List AuditEvent) (tenantId : String) : List AuditEvent :=
  rows.filter fun event => event.tenantId = tenantId

/-- Every event of a valid chain has a number from the first on. -/
theorem le_sequenceNumber {hash : String} {n : Int} {events : List AuditEvent}
    (h : HashChain.Valid (auditFormat H) hash n events) :
    ∀ event ∈ events, n ≤ event.sequenceNumber := by
  induction events generalizing hash n with
  | nil => simp
  | cons event events ih =>
    obtain ⟨⟨hnumber, -, -⟩, hrest⟩ := h
    have hnumber : event.sequenceNumber = n := hnumber
    rw [List.forall_mem_cons]
    refine ⟨by omega, fun other hother => ?_⟩
    have := ih hrest other hother
    omega

/-- A valid chain is strictly ordered by number. -/
theorem pairwise_of_valid {hash : String} {n : Int} {events : List AuditEvent}
    (h : HashChain.Valid (auditFormat H) hash n events) :
    events.Pairwise fun a b => a.sequenceNumber < b.sequenceNumber := by
  induction events generalizing hash n with
  | nil => exact List.Pairwise.nil
  | cons event events ih =>
    obtain ⟨⟨hnumber, -, -⟩, hrest⟩ := h
    have hnumber : event.sequenceNumber = n := hnumber
    refine List.pairwise_cons.mpr ⟨fun other hother => ?_, ih hrest⟩
    have := le_sequenceNumber hrest other hother
    omega

/-- Reading in sequence order gives the rows as they were inserted. -/
theorem eventsForTenant_eq {rows : List AuditEvent} {tenantId : String}
    (h : HashChain.Valid (auditFormat H) genesisHash 1 (tenantRows rows tenantId)) :
    eventsForTenant rows tenantId = tenantRows rows tenantId := by
  refine List.Pairwise.insertionSort_eq ?_
  exact (pairwise_of_valid h).imp fun hlt => le_of_lt hlt

/-- A chain in the order of its numbers is what the rows sort to, whatever order they come in. -/
theorem insertionSort_eq {rows chain : List AuditEvent} (hperm : rows.Perm chain)
    (hstrict : chain.Pairwise fun a b => a.sequenceNumber < b.sequenceNumber) :
    rows.insertionSort (fun a b => a.sequenceNumber ≤ b.sequenceNumber) = chain ∧
      rows.insertionSort (fun a b => b.sequenceNumber ≤ a.sequenceNumber) = chain.reverse := by
  have hnumbers : (chain.map (·.sequenceNumber)).Nodup :=
    List.pairwise_map.mpr (hstrict.imp fun hlt => ne_of_lt hlt)
  -- equal numbers are the same row
  have hsame : ∀ a b, a ∈ chain → b ∈ chain → a.sequenceNumber ≤ b.sequenceNumber →
      b.sequenceNumber ≤ a.sequenceNumber → a = b :=
    fun a b ha hb hab hba => List.inj_on_of_nodup_map hnumbers ha hb (le_antisymm hab hba)
  constructor
  · refine List.Perm.eq_of_pairwise ?_ (List.pairwise_insertionSort _ _)
      (hstrict.imp fun hlt => le_of_lt hlt) ((List.perm_insertionSort _ _).trans hperm)
    intro a b ha hb hab hba
    rw [List.mem_insertionSort] at ha
    exact hsame a b (hperm.mem_iff.mp ha) hb hab hba
  · refine List.Perm.eq_of_pairwise ?_ (List.pairwise_insertionSort _ _)
      (List.pairwise_reverse.mpr (hstrict.imp fun hlt => le_of_lt hlt))
      ((List.perm_insertionSort _ _).trans (hperm.trans (List.reverse_perm _).symm))
    intro a b ha hb hab hba
    rw [List.mem_insertionSort] at ha
    exact hsame a b (hperm.mem_iff.mp ha) (List.mem_reverse.mp hb) hba hab

/-- The row with the highest number is the last one of a stored chain. -/
theorem previousRow_of_stored {rows : List AuditEvent} {tenantId : String}
    (h : HashChain.Valid (auditFormat H) genesisHash 1 (eventsForTenant rows tenantId)) :
    previousRow rows tenantId = (eventsForTenant rows tenantId).getLast? := by
  have hperm : (rows.filter fun event => event.tenantId = tenantId).Perm
      (eventsForTenant rows tenantId) := (List.perm_insertionSort _ _).symm
  rw [previousRow, (insertionSort_eq hperm (pairwise_of_valid h)).2, List.head?_reverse]

/-- The row with the highest number is the one inserted last. -/
theorem previousRow_eq {rows : List AuditEvent} {tenantId : String}
    (h : HashChain.Valid (auditFormat H) genesisHash 1 (tenantRows rows tenantId)) :
    previousRow rows tenantId = (tenantRows rows tenantId).getLast? := by
  have hsorted := eventsForTenant_eq h
  rw [← hsorted] at h ⊢
  exact previousRow_of_stored h

/-! ## Recording -/

/-- After the last event of a chain comes the one an in-memory logger would append. -/
theorem nextEvent_getLast? {events : List AuditEvent} {call : AuditCall}
    (h : HashChain.Valid (auditFormat H) genesisHash 1 events) :
    nextEvent H events.getLast? call = auditEvent H events call := by
  have hnumber : (events.getLast?.map (·.sequenceNumber)).getD 0 = events.length := by
    rcases List.eq_nil_or_concat events with rfl | ⟨before, event, rfl⟩
    · rfl
    · rw [List.concat_eq_append] at h ⊢
      obtain ⟨-, hlast, -⟩ := HashChain.valid_concat.mp h
      have hlast : event.sequenceNumber = 1 + (before.length : Int) := hlast
      rw [List.getLast?_append_cons, List.getLast?_singleton, Option.map_some, Option.getD_some,
        hlast, List.length_append, List.length_singleton]
      omega
  unfold nextEvent auditEvent
  rw [hnumber]

/-- On such rows the next event is the one an in-memory logger would append. -/
theorem nextEvent_eq {rows : List AuditEvent} {call : AuditCall}
    (h : HashChain.Valid (auditFormat H) genesisHash 1
      (tenantRows rows call.userContext.tenantId)) :
    nextEvent H (previousRow rows call.userContext.tenantId) call =
      auditEvent H (tenantRows rows call.userContext.tenantId) call := by
  rw [previousRow_eq h, nextEvent_getLast? h]

/-- What the invariant is about: the rows of each tenant as they were inserted. -/
structure RowsChained (H : HashFunctions) (run : PgAuditRun) : Prop where
  valid  : ∀ tenantId,
    HashChain.Valid (auditFormat H) genesisHash 1 (tenantRows run.world.rows tenantId)
  stored : run.world.rows = run.recorded.map Prod.snd

theorem tenantRows_concat (rows : List AuditEvent) (event : AuditEvent) (tenantId : String) :
    tenantRows (rows ++ [event]) tenantId =
      if event.tenantId = tenantId then tenantRows rows tenantId ++ [event]
      else tenantRows rows tenantId := by
  rw [tenantRows, List.filter_append]
  split
  · rename_i h
    rw [List.filter_cons_of_pos (by simpa using h)]
    rfl
  · rename_i h
    rw [List.filter_cons_of_neg (by simpa using h), List.filter_nil, List.append_nil]
    rfl

/-- **Step.** A call extends the chain of its own tenant, or changes nothing. -/
theorem rowsChained_step {run : PgAuditRun} (h : RowsChained H run) (turn : PgAuditTurn) :
    RowsChained H (step H run turn) := by
  unfold step PgAuditLogger.record
  dsimp only
  cases hviolation : violation? run.world.rows
      (nextEvent H (previousRow run.world.rows turn.call.userContext.tenantId) turn.call) with
  | some violation => exact ⟨h.valid, h.stored⟩
  | none =>
    rw [nextEvent_eq (h.valid _)]
    refine ⟨fun tenantId => ?_, ?_⟩
    · show HashChain.Valid (auditFormat H) genesisHash 1 (tenantRows (run.world.rows ++ [_]) tenantId)
      rw [tenantRows_concat]
      split
      · rename_i htenant
        have htenant : turn.call.userContext.tenantId = tenantId := htenant
        subst htenant
        have hverified := verifyAuditChain_ok.mpr (h.valid turn.call.userContext.tenantId)
        exact verifyAuditChain_ok.mp (verifyAuditChain_record hverified turn.call)
      · exact h.valid tenantId
    · rw [List.map_append, ← h.stored]
      rfl

theorem chained_of_rowsChained {run : PgAuditRun} (h : RowsChained H run) : run.Chained H := by
  have hrows : ∀ tenantId, eventsForTenant run.world.rows tenantId = run.recordedFor tenantId := by
    intro tenantId
    rw [eventsForTenant_eq (h.valid tenantId), tenantRows, h.stored]
    rfl
  refine ⟨fun tenantId => ?_, hrows, fun tenantId => ?_, fun caller tenantId => ?_⟩
  · rw [eventsForTenant_eq (h.valid tenantId), verifyAuditChain_ok]
    exact h.valid tenantId
  · rw [eventsForTenant_eq (h.valid tenantId)]
    exact (pairwise_of_valid (h.valid tenantId)).imp fun hlt hsame => by
      rw [hsame] at hlt
      exact lt_irrefl _ hlt
  · rw [hrows]
    exact (List.filter_sublist.map Prod.snd).filter _

/-- **The chain of every tenant** stays whole under every interleaving of calls. -/
theorem pg_audit_chained (turns : List PgAuditTurn) :
    Runs.Always (step H) (PgAuditRun.Chained H) empty turns := by
  have hstart : RowsChained H empty := ⟨fun _ => trivial, rfl⟩
  have halways := Runs.always_of_invariant (I := RowsChained H)
    (fun _ turn h => rowsChained_step h turn) hstart turns
  exact Runs.always_mono (fun _ h => chained_of_rowsChained h) halways

end Collabio
