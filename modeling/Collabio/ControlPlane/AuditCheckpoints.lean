import Mathlib.Tactic
import Collabio.ControlPlane.PgAuditVerify

/-!
# Audit checkpoints and their exports

A checkpoint signs the number of events that a tenant's chain has, with its first and its last
hash; an export copies the checkpoint that it is made of. Nothing is ever updated or deleted.

* `Attests`                 — what a checkpoint says of the chain, for all time to come;
* `attested_run`            — all checkpoints and exports do, after every run;
* `buildAuditCheckpointHash_inj` — what the signature covers;
* `log_of_checkpoint`       — which logs have the signature of a checkpoint.
-/

namespace Collabio

variable (H : HashFunctions)

/-! ## Records -/

structure AuditCheckpoint where
  tenantId              : String
  checkpointId          : String
  throughSequenceNumber : Int
  eventCount            : Nat
  firstEventHash        : String
  lastEventHash         : String
  checkpointHash        : String
  signatureAlgorithm    : String := "hmac-sha256"
  signatureKeyRef       : String
  auditChainRef         : String
  deriving DecidableEq, Repr

structure AuditWormExport where
  tenantId              : String
  exportId              : String
  checkpointId          : String
  fromSequenceNumber    : Int := 1
  throughSequenceNumber : Int
  eventCount            : Nat
  firstEventHash        : String
  lastEventHash         : String
  checkpointHash        : String
  exportManifestHash    : String
  storageUri            : String
  objectLockMode        : String := "compliance"
  auditChainRef         : String
  deriving DecidableEq, Repr

/-- A row of `audit_checkpoints`. -/
structure AuditCheckpointRow extends AuditCheckpoint where
  createdBy : String

/-- A row of `audit_worm_exports`. -/
structure AuditWormExportRow extends AuditWormExport where
  createdBy : String

/-- What the signature is made of. -/
def auditCheckpointPayload (tenantId : String) (throughSequenceNumber : Int) (eventCount : Nat)
    (firstEventHash lastEventHash signatureKeyRef : String) : Json :=
  .obj [("event_count", .int eventCount),
    ("first_event_hash", .str firstEventHash),
    ("last_event_hash", .str lastEventHash),
    ("signature_key_ref", .str signatureKeyRef),
    ("tenant_id", .str tenantId),
    ("through_sequence_number", .int throughSequenceNumber)]

def buildAuditCheckpointHash (tenantId : String) (throughSequenceNumber : Int) (eventCount : Nat)
    (firstEventHash lastEventHash signatureKeyRef signingSecret : String) : Except Exn String :=
  if signingSecret = "" then
    .error (.valueError (.message "signing_secret must not be empty"))
  else
    .ok ("hmac-sha256:" ++ String.ofList (Text.hexChars (H.hmacSha256
      (Text.encodeUtf8 signingSecret) (jsonBytes (auditCheckpointPayload tenantId
        throughSequenceNumber eventCount firstEventHash lastEventHash signatureKeyRef)))))

/-- `_audit_evidence_ref`. -/
def auditEvidenceRef (parts : List String) : String :=
  "audit:" ++ hexdigest H (Text.encodeUtf8 ("\x1f".intercalate parts))

/-! ## The tables -/

/-- The three tables of the audit store. -/
structure PgAuditStore where
  world       : PgAuditWorld := {}
  checkpoints : List AuditCheckpointRow := []
  exports     : List AuditWormExportRow := []

/-- A Python exception, or what a table refuses. -/
inductive AuditStoreExn where
  | raised (exn : Exn)
  | refused (violation : PgViolation)
  deriving DecidableEq, Repr

/-- `^[a-z0-9][a-z0-9_+.-]*:.+`; to PostgreSQL a line feed is a character like others. -/
def isHashRef (value : String) : Bool :=
  let scheme := value.toList.takeWhile isSchemeChar
  scheme.head?.any (fun c => Text.isAsciiLower c || Text.isAsciiDigit c) &&
    match value.toList.dropWhile isSchemeChar with
    | ':' :: rest => rest != []
    | _ => false

namespace PgAuditStore

/-- The constraints on a new checkpoint. -/
def checkpointViolation? (checkpoints : List AuditCheckpointRow) (row : AuditCheckpointRow) :
    Option PgViolation :=
  if row.tenantId = "" then some (.check "tenant_id")
  else if row.checkpointId = "" then some (.check "checkpoint_id")
  else if row.throughSequenceNumber < 1 then some (.check "through_sequence_number")
  else if row.eventCount < 1 then some (.check "event_count")
  else if isHashRef row.firstEventHash = false then some (.check "first_event_hash")
  else if isHashRef row.lastEventHash = false then some (.check "last_event_hash")
  else if isHashRef row.checkpointHash = false then some (.check "checkpoint_hash")
  else if row.signatureAlgorithm ≠ "hmac-sha256" then some (.check "signature_algorithm")
  else if isHashRef row.signatureKeyRef = false then some (.check "signature_key_ref")
  else if row.createdBy = "" then some (.check "created_by")
  else if isHashRef row.auditChainRef = false then some (.check "audit_chain_ref")
  else if ∃ other ∈ checkpoints, other.tenantId = row.tenantId ∧
      other.checkpointId = row.checkpointId then
    some (.unique ["tenant_id", "checkpoint_id"])
  else if ∃ other ∈ checkpoints, other.tenantId = row.tenantId ∧
      other.throughSequenceNumber = row.throughSequenceNumber then
    some (.unique ["tenant_id", "through_sequence_number"])
  else none

/-- The constraints on a new export; its checkpoint has been read in the same transaction. -/
def exportViolation? (exports : List AuditWormExportRow) (row : AuditWormExportRow) :
    Option PgViolation :=
  if row.tenantId = "" then some (.check "tenant_id")
  else if row.exportId = "" then some (.check "export_id")
  else if row.fromSequenceNumber ≠ 1 then some (.check "from_sequence_number")
  else if row.throughSequenceNumber < 1 then some (.check "through_sequence_number")
  else if row.eventCount < 1 then some (.check "event_count")
  else if isHashRef row.firstEventHash = false then some (.check "first_event_hash")
  else if isHashRef row.lastEventHash = false then some (.check "last_event_hash")
  else if isHashRef row.checkpointHash = false then some (.check "checkpoint_hash")
  else if isHashRef row.exportManifestHash = false then some (.check "export_manifest_hash")
  else if row.storageUri = "" then some (.check "storage_uri")
  else if row.objectLockMode ≠ "compliance" then some (.check "object_lock_mode")
  else if row.createdBy = "" then some (.check "created_by")
  else if isHashRef row.auditChainRef = false then some (.check "audit_chain_ref")
  else if ∃ other ∈ exports, other.tenantId = row.tenantId ∧ other.exportId = row.exportId then
    some (.unique ["tenant_id", "export_id"])
  else none

end PgAuditStore

/-! ## The calls -/

/-- The arguments of `create_checkpoint`, and the `uuid4().hex` that it draws. -/
structure CheckpointCall where
  tenantId        : String
  createdBy       : String
  signatureKeyRef : String
  signingSecret   : String
  uuid            : String

/-- The arguments of `record_worm_export`, and the `uuid4().hex` that it draws. -/
structure WormExportCall where
  tenantId           : String
  checkpointId       : String
  exportManifestHash : String
  storageUri         : String
  createdBy          : String
  uuid               : String

namespace PgAuditLogger

open PgAuditStore

/-- The row over these events. -/
def checkpointRow (call : CheckpointCall) (first last : AuditEvent) (eventCount : Nat)
    (checkpointHash : String) : AuditCheckpointRow where
  tenantId := call.tenantId
  checkpointId := "audit-checkpoint-" ++ call.uuid
  throughSequenceNumber := last.sequenceNumber
  eventCount := eventCount
  firstEventHash := first.eventHash
  lastEventHash := last.eventHash
  checkpointHash := checkpointHash
  signatureKeyRef := call.signatureKeyRef
  auditChainRef := auditEvidenceRef H ["audit-checkpoint", call.tenantId,
    "audit-checkpoint-" ++ call.uuid, toString last.sequenceNumber, checkpointHash]
  createdBy := call.createdBy

/-- `create_checkpoint`, as one transaction under the lock of the tenant's chain. -/
def createCheckpoint (call : CheckpointCall) : Eff AuditStoreExn PgAuditStore AuditCheckpoint :=
  fun store =>
    let rows := eventsForTenant store.world.rows call.tenantId
    match rows.head?, rows.getLast? with
    | some first, some last =>
      match buildAuditCheckpointHash H call.tenantId last.sequenceNumber rows.length first.eventHash
        last.eventHash call.signatureKeyRef call.signingSecret with
      | .error exn => (.error (.raised exn), store)
      | .ok checkpointHash =>
        let row := checkpointRow H call first last rows.length checkpointHash
        match checkpointViolation? store.checkpoints row with
        | some violation => (.error (.refused violation), store)
        | none => (.ok row.toAuditCheckpoint,
            { store with checkpoints := store.checkpoints ++ [row] })
    | _, _ =>
      (.error (.raised (.valueError (.message "cannot checkpoint an empty audit chain"))), store)

/-- The row that copies a checkpoint. -/
def wormExportRow (call : WormExportCall) (checkpoint : AuditCheckpoint) : AuditWormExportRow where
  tenantId := call.tenantId
  exportId := "audit-worm-export-" ++ call.uuid
  checkpointId := call.checkpointId
  throughSequenceNumber := checkpoint.throughSequenceNumber
  eventCount := checkpoint.eventCount
  firstEventHash := checkpoint.firstEventHash
  lastEventHash := checkpoint.lastEventHash
  checkpointHash := checkpoint.checkpointHash
  exportManifestHash := call.exportManifestHash
  storageUri := call.storageUri
  auditChainRef := auditEvidenceRef H ["audit-worm-export", call.tenantId,
    "audit-worm-export-" ++ call.uuid, call.checkpointId, call.exportManifestHash, call.storageUri]
  createdBy := call.createdBy

/-- `record_worm_export`, as one transaction. -/
def recordWormExport (call : WormExportCall) : Eff AuditStoreExn PgAuditStore AuditWormExport :=
  fun store =>
    match store.checkpoints.find? fun row =>
        row.tenantId = call.tenantId ∧ row.checkpointId = call.checkpointId with
    | none => (.error (.raised (.lookupError ("Unknown audit checkpoint: " ++
        call.checkpointId))), store)
    | some checkpoint =>
      let row := wormExportRow H call checkpoint.toAuditCheckpoint
      match exportViolation? store.exports row with
      | some violation => (.error (.refused violation), store)
      | none => (.ok row.toAuditWormExport, { store with exports := store.exports ++ [row] })

end PgAuditLogger

open PgAuditLogger

/-- A call of any logger on the database. -/
inductive AuditStoreCall where
  | record (turn : PgAuditTurn)
  | createCheckpoint (call : CheckpointCall)
  | recordWormExport (call : WormExportCall)

namespace PgAuditStore

/-- One call, that may raise. -/
def step (store : PgAuditStore) : AuditStoreCall → PgAuditStore
  | .record turn => { store with world := recordStep H store.world turn }
  | .createCheckpoint call => (createCheckpoint H call store).2
  | .recordWormExport call => (recordWormExport H call store).2

/-- The store over these events, before the first checkpoint. -/
def opened {H : HashFunctions} (stored : StoredChains H) : PgAuditStore :=
  { world := connect stored }

end PgAuditStore

open PgAuditStore

/-! ## What checkpoints say -/

/-- The checkpoint is about the first events of the tenant's chain. -/
structure Attests (rows : List AuditEvent) (checkpoint : AuditCheckpoint) : Prop where
  sequence : checkpoint.throughSequenceNumber = checkpoint.eventCount
  nonempty : 0 < checkpoint.eventCount
  within   : checkpoint.eventCount ≤ (eventsForTenant rows checkpoint.tenantId).length
  first    : (eventsForTenant rows checkpoint.tenantId).head?.map (·.eventHash) =
               some checkpoint.firstEventHash
  last     : ((eventsForTenant rows checkpoint.tenantId).take
               checkpoint.eventCount).getLast?.map (·.eventHash) = some checkpoint.lastEventHash
  signed   : ∃ signingSecret, buildAuditCheckpointHash H checkpoint.tenantId
               checkpoint.throughSequenceNumber checkpoint.eventCount checkpoint.firstEventHash
               checkpoint.lastEventHash checkpoint.signatureKeyRef signingSecret =
                 .ok checkpoint.checkpointHash

/-- The export is of this checkpoint, from the first event on. -/
structure IsExportOf (checkpoint : AuditCheckpoint) (row : AuditWormExport) : Prop where
  tenantId              : row.tenantId = checkpoint.tenantId
  checkpointId          : row.checkpointId = checkpoint.checkpointId
  fromSequenceNumber    : row.fromSequenceNumber = 1
  throughSequenceNumber : row.throughSequenceNumber = checkpoint.throughSequenceNumber
  eventCount            : row.eventCount = checkpoint.eventCount
  firstEventHash        : row.firstEventHash = checkpoint.firstEventHash
  lastEventHash         : row.lastEventHash = checkpoint.lastEventHash
  checkpointHash        : row.checkpointHash = checkpoint.checkpointHash

/-- What holds of the three tables. -/
structure Attested (store : PgAuditStore) : Prop where
  chains      : TenantsVerify H store.world
  checkpoints : ∀ row ∈ store.checkpoints, Attests H store.world.rows row.toAuditCheckpoint
  /-- No two are of one tenant and end with one event. -/
  once        : (store.checkpoints.map fun row =>
                  (row.tenantId, row.throughSequenceNumber)).Nodup
  exports     : ∀ row ∈ store.exports, ∃ checkpoint ∈ store.checkpoints,
                  IsExportOf checkpoint.toAuditCheckpoint row.toAuditWormExport

variable {H}

/-! ## One call -/

/-- A chain that only grows has what it had. -/
theorem Attests.mono {rows rows' : List AuditEvent} {checkpoint : AuditCheckpoint}
    (hgrows : eventsForTenant rows checkpoint.tenantId <+:
      eventsForTenant rows' checkpoint.tenantId)
    (h : Attests H rows checkpoint) : Attests H rows' checkpoint := by
  obtain ⟨later, hlater⟩ := hgrows
  have hlength := h.within
  have hpositive := h.nonempty
  -- the first event, and the first so many, are where they were
  have hhead : (eventsForTenant rows' checkpoint.tenantId).head? =
      (eventsForTenant rows checkpoint.tenantId).head? := by
    rw [← hlater]
    cases hrows : eventsForTenant rows checkpoint.tenantId with
    | nil =>
      rw [hrows, List.length_nil] at hlength
      omega
    | cons event events => rfl
  have htake : (eventsForTenant rows' checkpoint.tenantId).take checkpoint.eventCount =
      (eventsForTenant rows checkpoint.tenantId).take checkpoint.eventCount := by
    rw [← hlater, List.take_append_of_le_length hlength]
  exact {
    sequence := h.sequence
    nonempty := hpositive
    within := by
      rw [← hlater, List.length_append]
      omega
    first := by
      rw [hhead]
      exact h.first
    last := by
      rw [htake]
      exact h.last
    signed := h.signed }

/-- **A recorded event** is the next of its tenant's chain. -/
theorem eventsForTenant_recordStep {world : PgAuditWorld} (h : TenantsVerify H world)
    (turn : PgAuditTurn) (tenantId : String) :
    eventsForTenant world.rows tenantId <+:
      eventsForTenant (recordStep H world turn).rows tenantId := by
  cases hviolation : violation? world.rows (turnEvent H world turn) with
  | some violation =>
    rw [recordStep_of_violation hviolation]
  | none =>
    rw [recordStep_of_accepted hviolation]
    show _ <+: eventsForTenant (world.rows ++ [turnEvent H world turn]) tenantId
    rw [eventsForTenant_concat h turn]
    split
    · exact List.prefix_append _ _
    · exact List.prefix_refl _

theorem attested_record {store : PgAuditStore} (h : Attested H store) (turn : PgAuditTurn) :
    Attested H (step H store (.record turn)) where
  chains := tenantsVerify_step turn h.chains
  checkpoints row hrow :=
    (h.checkpoints row hrow).mono (eventsForTenant_recordStep h.chains turn row.tenantId)
  once := h.once
  exports := h.exports

/-- What `create_checkpoint` stores, if it stores anything. -/
theorem createCheckpoint_cases (call : CheckpointCall) (store : PgAuditStore) :
    (createCheckpoint H call store).2 = store ∨
      ∃ first last checkpointHash,
        (eventsForTenant store.world.rows call.tenantId).head? = some first ∧
        (eventsForTenant store.world.rows call.tenantId).getLast? = some last ∧
        buildAuditCheckpointHash H call.tenantId last.sequenceNumber
          (eventsForTenant store.world.rows call.tenantId).length first.eventHash last.eventHash
          call.signatureKeyRef call.signingSecret = .ok checkpointHash ∧
        checkpointViolation? store.checkpoints (checkpointRow H call first last
          (eventsForTenant store.world.rows call.tenantId).length checkpointHash) = none ∧
        (createCheckpoint H call store).2 = { store with
          checkpoints := store.checkpoints ++ [checkpointRow H call first last
            (eventsForTenant store.world.rows call.tenantId).length checkpointHash] } := by
  unfold createCheckpoint
  dsimp only
  split
  · rename_i first last hfirst hlast
    split
    · exact .inl rfl
    · rename_i checkpointHash hhash
      split
      · exact .inl rfl
      · rename_i hnone
        exact .inr ⟨first, last, checkpointHash, hfirst, hlast, hhash, hnone, rfl⟩
  · exact .inl rfl

/-- One check of a table, passed. -/
theorem check_eq_none {c : Prop} [Decidable c] {violation : PgViolation}
    {rest : Option PgViolation} :
    (if c then some violation else rest) = none ↔ ¬ c ∧ rest = none := by
  by_cases hc : c
  · simp [hc]
  · simp [hc]

/-- A checkpoint that is not refused ends with another event than those before. -/
theorem fresh_of_checkpointViolation? {checkpoints : List AuditCheckpointRow}
    {row : AuditCheckpointRow} (h : checkpointViolation? checkpoints row = none) :
    (row.tenantId, row.throughSequenceNumber) ∉
      checkpoints.map fun row => (row.tenantId, row.throughSequenceNumber) := by
  unfold checkpointViolation? at h
  simp only [check_eq_none] at h
  obtain ⟨-, -, -, -, -, -, -, -, -, -, -, -, hthrough, -⟩ := h
  intro hmem
  obtain ⟨other, hother, hsame⟩ := List.mem_map.mp hmem
  exact hthrough ⟨other, hother, Prod.mk.inj hsame⟩

/-- The last event of a valid chain has the chain's length for its number. -/
theorem sequenceNumber_getLast? {events : List AuditEvent} {last : AuditEvent}
    (h : HashChain.Valid (auditFormat H) genesisHash 1 events)
    (hlast : events.getLast? = some last) :
    last.sequenceNumber = events.length := by
  rw [List.getLast?_eq_getElem?] at hlast
  have hpositive : 0 < events.length := by
    have hbound := (List.getElem?_eq_some_iff.mp hlast).1
    omega
  have hnumber : last.sequenceNumber = 1 + ((events.length - 1 : Nat) : Int) :=
    HashChain.number_getElem? h hlast
  omega

theorem attested_createCheckpoint {store : PgAuditStore} (h : Attested H store)
    (call : CheckpointCall) : Attested H (step H store (.createCheckpoint call)) := by
  show Attested H (createCheckpoint H call store).2
  rcases createCheckpoint_cases call store with hsame | ⟨first, last, checkpointHash, hfirst, hlast,
    hhash, hnone, hstored⟩
  · rw [hsame]
    exact h
  rw [hstored]
  have hvalid := h.chains call.tenantId
  have hpositive : 0 < (eventsForTenant store.world.rows call.tenantId).length := by
    cases hrows : eventsForTenant store.world.rows call.tenantId with
    | nil =>
      rw [hrows] at hfirst
      cases hfirst
    | cons event events => exact Nat.succ_pos _
  refine { chains := h.chains, checkpoints := ?_, once := ?_, exports := ?_ }
  · intro row hrow
    rcases List.mem_append.mp hrow with hold | hnew
    · exact h.checkpoints row hold
    rw [List.mem_singleton.mp hnew]
    exact {
      sequence := sequenceNumber_getLast? hvalid hlast
      nonempty := hpositive
      within := le_refl _
      first := by
        show (eventsForTenant store.world.rows call.tenantId).head?.map _ = _
        rw [hfirst]
        rfl
      last := by
        show ((eventsForTenant store.world.rows call.tenantId).take
          (eventsForTenant store.world.rows call.tenantId).length).getLast?.map _ = _
        rw [List.take_length, hlast]
        rfl
      signed := ⟨call.signingSecret, hhash⟩ }
  · rw [List.map_append, List.map_singleton, List.nodup_append]
    refine ⟨h.once, List.nodup_singleton _, ?_⟩
    intro key hkey other hother hsame
    rw [List.mem_singleton.mp hother] at hsame
    exact fresh_of_checkpointViolation? hnone (hsame ▸ hkey)
  · intro row hrow
    obtain ⟨checkpoint, hmem, hexport⟩ := h.exports row hrow
    exact ⟨checkpoint, List.mem_append_left _ hmem, hexport⟩

theorem attested_recordWormExport {store : PgAuditStore} (h : Attested H store)
    (call : WormExportCall) : Attested H (step H store (.recordWormExport call)) := by
  show Attested H (recordWormExport H call store).2
  unfold recordWormExport
  dsimp only
  split
  · exact h
  rename_i checkpoint hfound
  split
  · exact h
  have hmem := List.mem_of_find?_eq_some hfound
  have hkey : checkpoint.tenantId = call.tenantId ∧
      checkpoint.checkpointId = call.checkpointId := by
    simpa using List.find?_some hfound
  refine { chains := h.chains, checkpoints := h.checkpoints, once := h.once, exports := ?_ }
  intro row hrow
  rcases List.mem_append.mp hrow with hold | hnew
  · exact h.exports row hold
  · rw [List.mem_singleton.mp hnew]
    exact ⟨checkpoint, hmem, hkey.1.symm, hkey.2.symm, rfl, rfl, rfl, rfl, rfl, rfl⟩

/-! ## Runs -/

/-- **Every checkpoint and every export** is, throughout every run, about the first events of its
tenant's chain. -/
theorem attested_run (stored : StoredChains H) (calls : List AuditStoreCall) :
    Runs.Always (step H) (Attested H) (opened stored) calls := by
  refine Runs.always_of_invariant (fun store call h => ?_) ?_ calls
  · cases call with
    | record turn => exact attested_record h turn
    | createCheckpoint call => exact attested_createCheckpoint h call
    | recordWormExport call => exact attested_recordWormExport h call
  · exact {
      chains := fun tenantId => verifyAuditChain_ok.mp (stored.verified tenantId)
      checkpoints := fun row hrow => absurd hrow List.not_mem_nil
      once := List.nodup_nil
      exports := fun row hrow => absurd hrow List.not_mem_nil }

/-! ## Signatures -/

/-- The bytes under the signature of a checkpoint. -/
def AuditCheckpoint.signedBytes (checkpoint : AuditCheckpoint) : Bytes :=
  jsonBytes (auditCheckpointPayload checkpoint.tenantId checkpoint.throughSequenceNumber
    checkpoint.eventCount checkpoint.firstEventHash checkpoint.lastEventHash
    checkpoint.signatureKeyRef)

/-- **The signature covers** tenant, count and last hash. -/
theorem same_of_signedBytes {checkpoint checkpoint' : AuditCheckpoint}
    (h : checkpoint.signedBytes = checkpoint'.signedBytes) :
    checkpoint.tenantId = checkpoint'.tenantId ∧ checkpoint.eventCount = checkpoint'.eventCount ∧
      checkpoint.lastEventHash = checkpoint'.lastEventHash := by
  have hpayload := Json.canonical_inj.mp (Text.encodeUtf8_injective h)
  have hkeys : ["event_count", "first_event_hash", "last_event_hash", "signature_key_ref",
      "tenant_id", "through_sequence_number"].Nodup := by decide
  have hcount : (checkpoint.eventCount : Int) = checkpoint'.eventCount :=
    Json.same_int.mp (@Json.same_of_mem _ _ hpayload hkeys "event_count" _ _ (by simp) (by simp))
  refine ⟨?_, ?_, ?_⟩
  · exact Json.same_str.mp (@Json.same_of_mem _ _ hpayload hkeys "tenant_id" _ _ (by simp)
      (by simp))
  · omega
  · exact Json.same_str.mp (@Json.same_of_mem _ _ hpayload hkeys "last_event_hash" _ _ (by simp)
      (by simp))

/-- A signature is made with some secret. -/
theorem exists_hmac {rows : List AuditEvent} {checkpoint : AuditCheckpoint}
    (h : Attests H rows checkpoint) : ∃ key, checkpoint.checkpointHash = "hmac-sha256:" ++
      String.ofList (Text.hexChars (H.hmacSha256 key checkpoint.signedBytes)) := by
  obtain ⟨signingSecret, hsigned⟩ := h.signed
  unfold buildAuditCheckpointHash at hsigned
  split at hsigned
  · cases hsigned
  · exact ⟨_, (Except.ok.inj hsigned).symm⟩

/-- Chains that begin with so many events, the last of one hash, begin with the same events. -/
theorem same_of_attests {rows rows' : List AuditEvent} {checkpoint checkpoint' : AuditCheckpoint}
    (hvalid : HashChain.Valid (auditFormat H) genesisHash 1
      (eventsForTenant rows checkpoint.tenantId))
    (hvalid' : HashChain.Valid (auditFormat H) genesisHash 1
      (eventsForTenant rows' checkpoint'.tenantId))
    (h : Attests H rows checkpoint) (h' : Attests H rows' checkpoint')
    (hcount : checkpoint.eventCount = checkpoint'.eventCount)
    (hlast : checkpoint.lastEventHash = checkpoint'.lastEventHash)
    (hsha : Set.InjOn H.sha256 {text | ∃ event, (event ∈ eventsForTenant rows checkpoint.tenantId ∨
      event ∈ eventsForTenant rows' checkpoint'.tenantId) ∧ text = jsonBytes event.payload}) :
    List.Forall₂ AuditEvent.Same
      ((eventsForTenant rows checkpoint.tenantId).take checkpoint.eventCount)
      ((eventsForTenant rows' checkpoint'.tenantId).take checkpoint'.eventCount) := by
  have hlength := h.within
  have hlength' := h'.within
  refine HashChain.forall₂_of_lastHash_of_mem (fun _ _ hsame => hsame.previousEventHash) ?_
    (HashChain.valid_of_prefix hvalid (List.take_prefix _ _))
    (HashChain.valid_of_prefix hvalid' (List.take_prefix _ _)) ?_ ?_
  · -- no two of these events have one hash
    intro event hevent event' hevent' hhash hhash' hsame
    have htext : jsonBytes event.payload ∈ {text | ∃ event,
        (event ∈ eventsForTenant rows checkpoint.tenantId ∨
          event ∈ eventsForTenant rows' checkpoint'.tenantId) ∧ text = jsonBytes event.payload} :=
      ⟨event, .inl (List.mem_of_mem_take hevent), rfl⟩
    have hpayload := same_of_hashJson_eq hsha htext
      ⟨event', .inr (List.mem_of_mem_take hevent'), rfl⟩
      (hhash.symm.trans (hsame.trans hhash'))
    exact AuditEvent.same_of_payload hpayload hsame
  · rw [List.length_take, List.length_take]
    omega
  · rw [lastHash_eq, lastHash_eq, h.last, h'.last, hlast]

/-- **One signature, one log**: where checkpoints of two databases have one hash, the chains that
they are about begin with the same events, and have so many at least. -/
theorem same_log_of_checkpointHash {stored stored' : StoredChains H}
    {calls calls' : List AuditStoreCall} {row row' : AuditCheckpointRow}
    (hrow : row ∈ (Runs.run (step H) (opened stored) calls).checkpoints)
    (hrow' : row' ∈ (Runs.run (step H) (opened stored') calls').checkpoints)
    (hhash : row.checkpointHash = row'.checkpointHash)
    (hhmac : ∀ key key', H.hmacSha256 key row.signedBytes = H.hmacSha256 key' row'.signedBytes →
      row.signedBytes = row'.signedBytes)
    (hsha : Set.InjOn H.sha256 {text | ∃ event,
      (event ∈ eventsForTenant (Runs.run (step H) (opened stored) calls).world.rows row.tenantId ∨
        event ∈ eventsForTenant (Runs.run (step H) (opened stored') calls').world.rows
          row'.tenantId) ∧ text = jsonBytes event.payload}) :
    row.tenantId = row'.tenantId ∧ row.eventCount = row'.eventCount ∧
      List.Forall₂ AuditEvent.Same
        ((eventsForTenant (Runs.run (step H) (opened stored) calls).world.rows row.tenantId).take
          row.eventCount)
        ((eventsForTenant (Runs.run (step H) (opened stored') calls').world.rows
          row'.tenantId).take row'.eventCount) := by
  have hattested := Runs.always_last (attested_run stored calls)
  have hattested' := Runs.always_last (attested_run stored' calls')
  have hattests := hattested.checkpoints row hrow
  have hattests' := hattested'.checkpoints row' hrow'
  -- equal signatures are of equal bytes
  obtain ⟨key, hkey⟩ := exists_hmac hattests
  obtain ⟨key', hkey'⟩ := exists_hmac hattests'
  rw [hkey, hkey'] at hhash
  have hdigest : H.hmacSha256 key row.signedBytes = H.hmacSha256 key' row'.signedBytes := by
    have hlists := congrArg String.toList hhash
    simp only [String.toList_append, String.toList_ofList] at hlists
    exact Text.hexChars_injective (List.append_cancel_left hlists)
  obtain ⟨htenant, hcount, hlast⟩ := same_of_signedBytes (hhmac key key' hdigest)
  exact ⟨htenant, hcount, same_of_attests (hattested.chains row.tenantId)
    (hattested'.chains row'.tenantId) hattests hattests' hcount hlast hsha⟩

/-- Digests that bind nothing but a single text. -/
def oneHash : HashFunctions := { (default : HashFunctions) with
  sha256 := (default : HashFunctions).hmacSha256 [] }

/-- One event, and a checkpoint of it. -/
def firstCalls : List AuditStoreCall :=
  [.record (tenantTurn 0 "tenant-a" "event-1"),
    .createCheckpoint {
      tenantId := "tenant-a"
      createdBy := "auditor"
      signatureKeyRef := "kms:audit"
      signingSecret := "secret"
      uuid := "1" }]

theorem firstCalls_tables :
    (Runs.run (step oneHash) (opened (noRows oneHash)) firstCalls).checkpoints.map
        (·.tenantId) = ["tenant-a"] ∧
      (eventsForTenant (Runs.run (step oneHash) (opened (noRows oneHash)) firstCalls).world.rows
        "tenant-a").length = 1 := by decide +kernel

theorem firstCalls_same_log : ∃ row,
    row ∈ (Runs.run (step oneHash) (opened (noRows oneHash)) firstCalls).checkpoints ∧
      List.Forall₂ AuditEvent.Same
        ((eventsForTenant (Runs.run (step oneHash) (opened (noRows oneHash)) firstCalls).world.rows
          row.tenantId).take row.eventCount)
        ((eventsForTenant (Runs.run (step oneHash) (opened (noRows oneHash)) firstCalls).world.rows
          row.tenantId).take row.eventCount) := by
  obtain ⟨hrows, hevents⟩ := firstCalls_tables
  have hlog := fun row hrow hsha => (@same_log_of_checkpointHash oneHash (noRows oneHash)
    (noRows oneHash) firstCalls firstCalls row row hrow hrow rfl (fun _ _ _ => rfl) hsha).2.2
  -- what the run leaves need not be computed
  generalize Runs.run (step oneHash) (opened (noRows oneHash)) firstCalls = store at *
  obtain ⟨row, hone, htenant⟩ := List.map_eq_singleton_iff.mp hrows
  have hrow : row ∈ store.checkpoints := by
    rw [hone]
    exact List.mem_singleton_self row
  refine ⟨row, hrow, hlog row hrow ?_⟩
  -- the chain has one event, and so one text
  obtain ⟨event, hevent⟩ := List.length_eq_one_iff.mp hevents
  rw [htenant, hevent]
  have htext : ∀ text, (∃ event', (event' ∈ [event] ∨ event' ∈ [event]) ∧
      text = jsonBytes event'.payload) → text = jsonBytes event.payload := by
    rintro text ⟨event', hmem, htext⟩
    rw [or_self, List.mem_singleton] at hmem
    rw [htext, hmem]
  intro text htext' text' htext'' _
  exact (htext text htext').trans (htext text' htext'').symm

end Collabio
