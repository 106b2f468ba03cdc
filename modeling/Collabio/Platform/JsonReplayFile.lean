import Mathlib.Tactic
import Collabio.Library.Dict
import Collabio.Library.Runs
import Collabio.Platform.Jwt

/-!
# The replay guard over a JSON file

Any number of calls of `require_not_replayed` share one file. Reading the file is one
step of a call, and so is replacing it; between its steps a call works with the records
it has read. The file holds the document that the stores write, after it went through
`json.dumps` and `json.loads`.
-/

namespace Collabio

/-! ## Documents -/

structure ReplayRecord where
  tenantId       : String
  expiresAtEpoch : Int
  deriving DecidableEq, Repr

/-- Records by issuer and token id. -/
abbrev ReplayRecords := Dict (String × String) ReplayRecord

/-- The order of pairs of texts. -/
def textPairLe (a b : String × String) : Bool :=
  decide (a.1 < b.1) || (a.1 == b.1 && decide (a.2 ≤ b.2))

namespace ReplayRecords

/-- One row of the document. -/
def row (entry : (String × String) × ReplayRecord) : Json :=
  .obj [("expires_at_epoch", .int entry.2.expiresAtEpoch), ("issuer", .str entry.1.1),
    ("jwt_id", .str entry.1.2), ("tenant_id", .str entry.2.tenantId)]

/-- `sorted(records.items())`. -/
def sortedItems (records : ReplayRecords) : List ((String × String) × ReplayRecord) :=
  records.items.mergeSort fun a b => textPairLe a.1 b.1

/-- What `_write_records` puts into the file. -/
def document (records : ReplayRecords) : List (String × Json) :=
  [("records", .arr (records.sortedItems.map row))]

/-- One turn of the loop of `_read_records`; expired rows are passed over. -/
def readRow (nowEpoch : Int) (records : ReplayRecords) (rawRecord : Json) :
    Except Exn ReplayRecords :=
  match rawRecord with
  | .obj record => do
    let issuer ← requiredStringClaim record "issuer"
    let jwtId ← requiredStringClaim record "jwt_id"
    let expiresAtEpoch ← requiredIntClaim record "expires_at_epoch"
    if expiresAtEpoch > nowEpoch then
      let tenantId := match getMember record "tenant_id" with
        | some (.str tenantId) => if Text.strip tenantId ≠ "" then tenantId else "unknown"
        | _ => "unknown"
      return records.set (issuer, jwtId) { tenantId, expiresAtEpoch }
    else return records
  | _ => .error (.jwtAuthenticationError "JWT replay store record must be an object")

/-- `_read_records`, up to the rewriting: the records, and whether they have to be written
back because the file holds more. -/
def read (nowEpoch : Int) : Option (List (String × Json)) → Except Exn (ReplayRecords × Bool)
  | none => .ok (∅, false)
  | some payload =>
    match getMember payload "records" with
    | some (.arr rawRecords) => do
      let records ← rawRecords.foldlM (readRow nowEpoch) ∅
      return (records, records.items.length ≠ rawRecords.length)
    | _ => .error (.jwtAuthenticationError "JWT replay store records must be a list")

end ReplayRecords

/-! ## Calls in progress -/

namespace GuardedCall

def key (call : GuardedCall) : String × String := (call.claims.issuer, call.jwtId)

def record (call : GuardedCall) : ReplayRecord := ⟨call.claims.tenantId, call.claims.expiresAtEpoch⟩

end GuardedCall

/-- What a call does next to the file, with the records that it has read. -/
inductive JsonReplayPhase where
  /-- `contains`: reading. -/
  | checking
  /-- `contains`: replacing the file without the expired records. -/
  | purging (records : ReplayRecords)
  /-- `record`: reading. -/
  | reading
  /-- `record`: replacing the file without the expired records. -/
  | purgingAgain (records : ReplayRecords)
  /-- `record`: replacing the file by these records and the token's. -/
  | replacing (records : ReplayRecords)
  | returned
  | raised (exn : Exn)

/-- The file, if it is there, and how far each call has come. -/
structure JsonReplayWorld where
  file  : Option (List (String × Json)) := none
  phase : ℕ → JsonReplayPhase := fun _ => .checking

namespace JsonReplayWorld

variable (calls : ℕ → GuardedCall)

def enter (world : JsonReplayWorld) (i : ℕ) (phase : JsonReplayPhase) : JsonReplayWorld :=
  { world with phase := Function.update world.phase i phase }

def replace (world : JsonReplayWorld) (records : ReplayRecords) : JsonReplayWorld :=
  { world with file := some records.document }

/-- Once `contains` has read: the token is known, or `record` begins. -/
def afterContains (call : GuardedCall) (records : ReplayRecords) : JsonReplayPhase :=
  if records.contains call.key then .raised (.jwtAuthenticationError "JWT replay detected")
  else .reading

/-- The next step of call `i`. -/
def step (world : JsonReplayWorld) (i : ℕ) : JsonReplayWorld :=
  match world.phase i with
  | .checking =>
    match ReplayRecords.read (calls i).nowEpoch world.file with
    | .error exn => world.enter i (.raised exn)
    | .ok (records, stale) =>
      world.enter i (if stale then .purging records else afterContains (calls i) records)
  | .purging records => (world.replace records).enter i (afterContains (calls i) records)
  | .reading =>
    match ReplayRecords.read (calls i).nowEpoch world.file with
    | .error exn => world.enter i (.raised exn)
    | .ok (records, stale) =>
      world.enter i (if stale then .purgingAgain records else .replacing records)
  | .purgingAgain records => (world.replace records).enter i (.replacing records)
  | .replacing records =>
    (world.replace (records.set (calls i).key (calls i).record)).enter i .returned
  | .returned | .raised _ => world

/-- What the guard promises of the tokens. -/
structure Guarding (world : JsonReplayWorld) : Prop where
  /-- Of the calls for one token at most one has returned. -/
  once : ∀ i j, world.phase i = .returned → world.phase j = .returned →
    (calls i).key = (calls j).key → i = j
  /-- The file has the row of every call that has returned. -/
  stored : ∀ i, world.phase i = .returned → ∃ rows,
    world.file = some [("records", .arr rows)] ∧
      ReplayRecords.row ((calls i).key, (calls i).record) ∈ rows

/-- No other call comes between the reads and the replacements of call `i`: when it reads
again, its token is still not there, and when it replaces the file, the file still reads
as it did. -/
def Undisturbed (world : JsonReplayWorld) (i : ℕ) : Prop :=
  match world.phase i with
  | .reading => ∀ records stale,
      ReplayRecords.read (calls i).nowEpoch world.file = .ok (records, stale) →
        records.get? (calls i).key = none
  | .purging records | .purgingAgain records | .replacing records =>
      ∃ stale, ReplayRecords.read (calls i).nowEpoch world.file = .ok (records, stale)
  | .checking | .returned | .raised _ => True

end JsonReplayWorld

end Collabio
