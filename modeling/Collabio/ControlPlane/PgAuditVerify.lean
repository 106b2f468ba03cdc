import Mathlib.Tactic
import Collabio.ControlPlane.PgAudit

/-!
# What a logger on PostgreSQL verifies

`verify` walks the events that this logger has recorded, as one chain from the
genesis hash on, while `record` continues the chain its tenant has in the
database.

* `Continues`           — the chain in the database ends where the logger's own list does;
* `pg_audit_verify_iff` — `verify` reports ok throughout a run exactly if this holds at
  every call that records;
* `verify_alone`        — so it does for a logger that alone records for one tenant, whose
  chain was empty;
* `not_verify_after_restart`, `two_tenants_unverified` — and fails elsewhere.
-/

namespace Collabio

variable (H : HashFunctions)

namespace PgAuditLogger

/-- `InMemoryAuditLogger.verify`, which `PgAuditLogger` inherits. -/
def verify (logger : Nat) (world : PgAuditWorld) : AuditChainVerificationResult :=
  verifyAuditChain H (world.loggers logger)

/-- One call of `record`, that may raise. -/
def recordStep (world : PgAuditWorld) (turn : PgAuditTurn) : PgAuditWorld :=
  (PgAuditLogger.record H turn.logger turn.call world).2

/-- Rows whose chain verifies for every tenant. -/
structure StoredChains where
  rows     : List AuditEvent
  verified : ∀ tenantId, (verifyAuditChain H (eventsForTenant rows tenantId)).ok = true

/-- Loggers made over these rows, before any of them has recorded. -/
def connect {H : HashFunctions} (stored : StoredChains H) : PgAuditWorld := { rows := stored.rows }

/-- The event this turn would add. -/
def turnEvent (world : PgAuditWorld) (turn : PgAuditTurn) : AuditEvent :=
  nextEvent H (previousRow world.rows turn.call.userContext.tenantId) turn.call

/-- A call of this logger that the table does not refuse is for a tenant whose chain in
the database is as long as the logger's own list, and ends in the same hash. -/
def Continues (logger : Nat) (world : PgAuditWorld) (turn : PgAuditTurn) : Prop :=
  turn.logger = logger → violation? world.rows (turnEvent H world turn) = none →
    (eventsForTenant world.rows turn.call.userContext.tenantId).length =
        (world.loggers logger).length ∧
      HashChain.lastHash (auditFormat H) genesisHash
          (eventsForTenant world.rows turn.call.userContext.tenantId) =
        HashChain.lastHash (auditFormat H) genesisHash (world.loggers logger)

/-- What the database keeps of every tenant. -/
def TenantsVerify (world : PgAuditWorld) : Prop :=
  ∀ tenantId, HashChain.Valid (auditFormat H) genesisHash 1 (eventsForTenant world.rows tenantId)

variable {H}

/-! ## One call -/

/-- A call that raises changes nothing. -/
theorem recordStep_of_violation {world : PgAuditWorld} {turn : PgAuditTurn}
    {violation : PgViolation}
    (h : violation? world.rows (turnEvent H world turn) = some violation) :
    recordStep H world turn = world := by
  unfold recordStep PgAuditLogger.record
  dsimp only
  rw [show violation? world.rows (nextEvent H (previousRow world.rows
    turn.call.userContext.tenantId) turn.call) = some violation from h]

/-- A call that records adds the event to the table and to the logger's own list. -/
theorem recordStep_of_accepted {world : PgAuditWorld} {turn : PgAuditTurn}
    (h : violation? world.rows (turnEvent H world turn) = none) :
    recordStep H world turn = {
      rows := world.rows ++ [turnEvent H world turn]
      loggers := Function.update world.loggers turn.logger
        (world.loggers turn.logger ++ [turnEvent H world turn]) } := by
  unfold recordStep PgAuditLogger.record
  dsimp only
  rw [show violation? world.rows (nextEvent H (previousRow world.rows
    turn.call.userContext.tenantId) turn.call) = none from h]
  rfl

/-- Only the logger of the call remembers the event. -/
theorem loggers_of_accepted {world : PgAuditWorld} {turn : PgAuditTurn}
    (h : violation? world.rows (turnEvent H world turn) = none) (logger : Nat) :
    (recordStep H world turn).loggers logger =
      if turn.logger = logger then world.loggers logger ++ [turnEvent H world turn]
      else world.loggers logger := by
  rw [recordStep_of_accepted h]
  show Function.update world.loggers turn.logger _ logger = _
  by_cases hlogger : turn.logger = logger
  · rw [if_pos hlogger, ← hlogger, Function.update_self]
  · rw [if_neg hlogger, Function.update_of_ne (Ne.symm hlogger)]

/-- The event continues the stored chain of its tenant. -/
theorem turnEvent_eq {world : PgAuditWorld} (h : TenantsVerify H world) (turn : PgAuditTurn) :
    turnEvent H world turn =
      auditEvent H (eventsForTenant world.rows turn.call.userContext.tenantId) turn.call := by
  rw [turnEvent, previousRow_of_stored (h _), nextEvent_getLast? (h _)]

/-- With the event inserted, its tenant has one event more and every other has its own. -/
theorem eventsForTenant_concat {world : PgAuditWorld} (h : TenantsVerify H world)
    (turn : PgAuditTurn) (tenantId : String) :
    eventsForTenant (world.rows ++ [turnEvent H world turn]) tenantId =
      if turn.call.userContext.tenantId = tenantId then
        eventsForTenant world.rows tenantId ++ [turnEvent H world turn]
      else eventsForTenant world.rows tenantId := by
  have hrows := tenantRows_concat world.rows (turnEvent H world turn) tenantId
  have htenant : (turnEvent H world turn).tenantId = turn.call.userContext.tenantId := rfl
  rw [htenant] at hrows
  show (tenantRows (world.rows ++ [turnEvent H world turn]) tenantId).insertionSort _ = _
  rw [hrows]
  by_cases hsame : turn.call.userContext.tenantId = tenantId
  · subst hsame
    rw [if_pos rfl, if_pos rfl]
    -- the sorted rows with the event behind them are a chain, and so what the rows sort to
    have hperm : (tenantRows world.rows turn.call.userContext.tenantId ++
        [turnEvent H world turn]).Perm
        (eventsForTenant world.rows turn.call.userContext.tenantId ++ [turnEvent H world turn]) :=
      (List.perm_insertionSort _ _).symm.append_right _
    have hvalid := verifyAuditChain_ok.mp (verifyAuditChain_record
      (verifyAuditChain_ok.mpr (h turn.call.userContext.tenantId)) turn.call)
    rw [← turnEvent_eq h turn] at hvalid
    exact (insertionSort_eq hperm (pairwise_of_valid hvalid)).1
  · rw [if_neg hsame, if_neg hsame]
    rfl

/-- **Step.** Every call keeps the chains in the database. -/
theorem tenantsVerify_step {world : PgAuditWorld} (turn : PgAuditTurn)
    (h : TenantsVerify H world) : TenantsVerify H (recordStep H world turn) := by
  cases hviolation : violation? world.rows (turnEvent H world turn) with
  | some violation =>
    rw [recordStep_of_violation hviolation]
    exact h
  | none =>
    rw [recordStep_of_accepted hviolation]
    intro tenantId
    show HashChain.Valid _ _ _ (eventsForTenant (world.rows ++ [turnEvent H world turn]) tenantId)
    rw [eventsForTenant_concat h turn]
    split
    · rename_i hsame
      rw [turnEvent_eq h turn, hsame]
      exact verifyAuditChain_ok.mp
        (verifyAuditChain_record (verifyAuditChain_ok.mpr (h tenantId)) turn.call)
    · exact h tenantId

/-- **Step.** `verify` stays ok exactly if the call continues the logger's own list. -/
theorem verify_step_iff {logger : Nat} {world : PgAuditWorld} (turn : PgAuditTurn)
    (h : TenantsVerify H world) (hok : (verify H logger world).ok = true) :
    (verify H logger (recordStep H world turn)).ok = true ↔ Continues H logger world turn := by
  cases hviolation : violation? world.rows (turnEvent H world turn) with
  | some violation =>
    rw [recordStep_of_violation hviolation]
    refine iff_of_true hok fun _ haccepted => ?_
    rw [hviolation] at haccepted
    cases haccepted
  | none =>
    rw [verify, loggers_of_accepted hviolation, verifyAuditChain_ok]
    by_cases hlogger : turn.logger = logger
    · rw [if_pos hlogger, HashChain.valid_concat, turnEvent_eq h turn]
      -- the new event is numbered after the stored chain and refers to its last hash
      have hnumber : (auditFormat H).number (auditEvent H
          (eventsForTenant world.rows turn.call.userContext.tenantId) turn.call) =
          ((eventsForTenant world.rows turn.call.userContext.tenantId).length : Int) + 1 := rfl
      have hprev : (auditFormat H).prev (auditEvent H
          (eventsForTenant world.rows turn.call.userContext.tenantId) turn.call) =
          HashChain.lastHash (auditFormat H) genesisHash
            (eventsForTenant world.rows turn.call.userContext.tenantId) := (lastHash_eq _).symm
      rw [hnumber, hprev]
      constructor
      · rintro ⟨-, hlength, hlast, -⟩ - -
        exact ⟨by omega, hlast⟩
      · intro hcontinues
        obtain ⟨hlength, hlast⟩ := hcontinues hlogger hviolation
        exact ⟨verifyAuditChain_ok.mp hok, by omega, hlast, rfl⟩
    · rw [if_neg hlogger]
      exact iff_of_true (verifyAuditChain_ok.mp hok) fun hsame => absurd hsame hlogger

/-! ## Runs -/

/-- **What `verify` reports over a run.** From any chains that verify, `verify` of a new
logger is ok throughout a run exactly if each of its calls that the table accepts is for
a tenant whose stored chain ends where the logger's own list does. -/
theorem pg_audit_verify_iff (stored : StoredChains H) (logger : Nat) (turns : List PgAuditTurn) :
    Runs.Always (recordStep H) (fun world => (verify H logger world).ok = true)
        (connect stored) turns ↔
      Runs.Guarded (recordStep H) (Continues H logger) (connect stored) turns := by
  have hstart : TenantsVerify H (connect stored) :=
    fun tenantId => verifyAuditChain_ok.mp (stored.verified tenantId)
  refine Runs.always_iff_guarded (I := TenantsVerify H)
    (fun _ turn h => tenantsVerify_step turn h)
    (fun _ turn h hok => verify_step_iff turn h hok) hstart ?_ turns
  show (verifyAuditChain H []).ok = true
  rfl

/-- **One logger for one tenant.** Where a logger records for one tenant only, whose chain
was empty, and no other logger does, `verify` is ok throughout. -/
theorem verify_alone (stored : StoredChains H) {logger : Nat} {tenantId : String}
    (hempty : eventsForTenant stored.rows tenantId = []) {turns : List PgAuditTurn}
    (halone : ∀ turn ∈ turns,
      (turn.logger = logger ↔ turn.call.userContext.tenantId = tenantId)) :
    Runs.Always (recordStep H) (fun world => (verify H logger world).ok = true)
      (connect stored) turns := by
  -- the logger's own list is the stored chain of its tenant
  have halways : Runs.Always (recordStep H) (fun world => TenantsVerify H world ∧
      world.loggers logger = eventsForTenant world.rows tenantId) (connect stored) turns := by
    refine Runs.always_of_guarded (G := fun _ turn =>
      (turn.logger = logger ↔ turn.call.userContext.tenantId = tenantId)) ?_
      ⟨fun tenantId => verifyAuditChain_ok.mp (stored.verified tenantId), hempty.symm⟩
      (fun before turn hbegins => halone turn (hbegins.subset (by simp)))
    rintro world turn ⟨hstored, hown⟩ hturn
    refine ⟨tenantsVerify_step turn hstored, ?_⟩
    cases hviolation : violation? world.rows (turnEvent H world turn) with
    | some violation =>
      rw [recordStep_of_violation hviolation]
      exact hown
    | none =>
      rw [loggers_of_accepted hviolation, recordStep_of_accepted hviolation]
      dsimp only
      rw [eventsForTenant_concat hstored turn, hown]
      exact if_congr hturn rfl rfl
  refine Runs.always_mono (fun world h => ?_) halways
  rw [verify, h.2, verifyAuditChain_ok]
  exact h.1 tenantId

/-! ## A restart, and two tenants -/

/-- **After a restart**: the first event a new logger adds to a chain of the database is not
the first of the chain. -/
theorem not_verify_after_restart (stored : StoredChains H) {turn : PgAuditTurn}
    (hchain : eventsForTenant stored.rows turn.call.userContext.tenantId ≠ [])
    (haccepted : violation? stored.rows (turnEvent H (connect stored) turn) = none) :
    (verify H turn.logger (recordStep H (connect stored) turn)).ok = false := by
  have hstored : TenantsVerify H (connect stored) :=
    fun tenantId => verifyAuditChain_ok.mp (stored.verified tenantId)
  have hnew : (verify H turn.logger (connect stored)).ok = true := rfl
  rw [← Bool.not_eq_true, verify_step_iff turn hstored hnew]
  intro hcontinues
  exact hchain (List.length_eq_zero_iff.mp (hcontinues rfl haccepted).1)

/-- Before the first event of any tenant. -/
def noRows (H : HashFunctions) : StoredChains H := ⟨[], fun _ => rfl⟩

/-- A retrieval of a user of this tenant. -/
def tenantTurn (logger : Nat) (tenantId eventId : String) : PgAuditTurn where
  caller := 0
  logger := logger
  call := {
    eventId
    userContext := { userId := "user-demo", tenantId }
    eventType := "rag.retrieval" }

/-- Two events that are each the first of a tenant. -/
theorem verify_first_twice (call call' : AuditCall) :
    verifyAuditChain H [auditEvent H [] call, auditEvent H [] call'] =
      ⟨false, 1, some "Expected sequence 2, found 1"⟩ := by
  have hsequence : ¬(auditEvent H [] call).sequenceNumber ≠ (1 : Nat) := not_not.mpr rfl
  have hprevious : ¬(auditEvent H [] call).previousEventHash ≠ genesisHash := not_not.mpr rfl
  have hhash : ¬(auditEvent H [] call).eventHash ≠ auditEventHash H (auditEvent H [] call) :=
    not_not.mpr rfl
  have hsecond : (auditEvent H [] call').sequenceNumber ≠ (2 : Nat) := by
    show (1 : Int) ≠ 2
    decide
  rw [verifyAuditChain, verifyEvents, if_neg hsequence, if_neg hprevious, if_neg hhash,
    verifyEvents, if_pos hsecond]
  rfl

/-- One logger, two tenants: both chains in the database verify, `verify` does not. -/
theorem two_tenants_unverified :
    verify default 0 (Runs.run (recordStep default) (connect (noRows default))
      [tenantTurn 0 "tenant-a" "event-1", tenantTurn 0 "tenant-b" "event-2"]) =
      ⟨false, 1, some "Expected sequence 2, found 1"⟩ := by
  have hfirst := @recordStep_of_accepted default (connect (noRows default))
    (tenantTurn 0 "tenant-a" "event-1") (by decide +kernel)
  rw [Runs.run_cons, Runs.run_cons, Runs.run_nil, hfirst,
    recordStep_of_accepted (by decide +kernel)]
  exact verify_first_twice _ _

end PgAuditLogger

end Collabio
