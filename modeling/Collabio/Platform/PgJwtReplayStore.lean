import Mathlib.Tactic
import Collabio.Library.Datetime
import Collabio.Library.UniqueTable
import Collabio.Platform.Jwt

/-!
# The replay guard over PostgreSQL

Any number of calls of `require_not_replayed` share the two tables. Each SQL statement
is one step of the call that makes it, and so is each commit; between its steps a call
holds the rows it has inserted without committing them, and the other calls take theirs.
The tables' policies show a tenant its own rows, which the statements ask for anyway.

The event ids are the `uuid4` of each call; nothing is assumed about them.
-/

namespace Collabio

/-! ## Tables -/

structure JwtReplayToken where
  tenantId       : String
  issuer         : String
  subject        : String
  jwtId          : String
  expiresAtEpoch : Int
  expiresAtUtc   : Datetime.DateTime
  auditChainRef  : String
  deriving DecidableEq, Repr

/-- `PRIMARY KEY (issuer, jwt_id)`. -/
def JwtReplayToken.key (token : JwtReplayToken) : String × String := (token.issuer, token.jwtId)

inductive JwtReplayEventType where
  | accepted
  | replayed
  deriving DecidableEq, Repr

def JwtReplayEventType.text : JwtReplayEventType → String
  | .accepted => "accepted"
  | .replayed => "replayed"

structure JwtReplayEvent where
  tenantId        : String
  eventId         : String
  eventType       : JwtReplayEventType
  issuer          : String
  subject         : String
  jwtId           : String
  expiresAtEpoch  : Int
  expiresAtUtc    : Datetime.DateTime
  observedAtEpoch : Int
  auditChainRef   : String
  deriving DecidableEq, Repr

/-- `_utc_from_epoch`, for the years 1 to 9999. -/
def utcFromEpoch (epoch : Int) : Except Exn Datetime.DateTime :=
  let days := epoch / 86400 + 719163
  let seconds := (epoch % 86400).toNat
  match if 1 ≤ days then Datetime.Date.ofOrdinal? days.toNat else none with
  | none => .error (.valueError (.message "year is out of range"))
  | some date => .ok ⟨date, seconds / 3600, seconds / 60 % 60, seconds % 60, 0, some 0⟩

/-- One call of `require_not_replayed`, with the ids of its accepted and its replayed
event. -/
structure PgReplayCall extends GuardedCall where
  acceptedId : String
  replayedId : String

namespace PgReplayCall

variable (H : HashFunctions)

/-- `_audit_chain_ref`. -/
def auditChainRef (call : PgReplayCall) (eventType : JwtReplayEventType) (eventId : String) :
    String :=
  "audit:jwt-replay:" ++ hexdigest H (Text.encodeUtf8 ("\x1f".intercalate [eventType.text,
    call.claims.tenantId, call.claims.issuer, call.claims.subject, call.jwtId,
    String.ofList (Json.intChars call.claims.expiresAtEpoch),
    String.ofList (Json.intChars call.nowEpoch), eventId]))

/-- The row that `record` inserts. -/
def token (call : PgReplayCall) (expiresAtUtc : Datetime.DateTime) : JwtReplayToken where
  tenantId := call.claims.tenantId
  issuer := call.claims.issuer
  subject := call.claims.subject
  jwtId := call.jwtId
  expiresAtEpoch := call.claims.expiresAtEpoch
  expiresAtUtc := expiresAtUtc
  auditChainRef := call.auditChainRef H .accepted ""

/-- The row that `_insert_event` inserts. -/
def event (call : PgReplayCall) (eventType : JwtReplayEventType)
    (expiresAtUtc : Datetime.DateTime) : JwtReplayEvent :=
  let eventId := "jwt-replay-" ++ match eventType with
    | .accepted => call.acceptedId
    | .replayed => call.replayedId
  { tenantId := call.claims.tenantId
    eventId
    eventType
    issuer := call.claims.issuer
    subject := call.claims.subject
    jwtId := call.jwtId
    expiresAtEpoch := call.claims.expiresAtEpoch
    expiresAtUtc
    observedAtEpoch := call.nowEpoch
    auditChainRef := call.auditChainRef H eventType eventId }

end PgReplayCall

/-- The checks of `jwt_replay_tokens`. A chain reference always matches its pattern, and an
epoch within the years of a datetime is a `bigint`. -/
def JwtReplayToken.allowed (token : JwtReplayToken) : Bool :=
  token.tenantId ≠ "" && token.issuer ≠ "" && token.subject ≠ "" && token.jwtId ≠ "" &&
    0 < token.expiresAtEpoch

/-- The checks of `jwt_replay_events`. -/
def JwtReplayEvent.allowed (event : JwtReplayEvent) : Bool :=
  event.tenantId ≠ "" && event.eventId ≠ "" && event.issuer ≠ "" && event.subject ≠ "" &&
    event.jwtId ≠ "" && 0 < event.expiresAtEpoch && 0 < event.observedAtEpoch &&
    event.observedAtEpoch < 2 ^ 63

/-! ## Calls in progress -/

/-- Which statement of a call is next. -/
inductive PgReplayPhase where
  /-- `contains`: the SELECT. -/
  | selecting
  /-- `record`: the INSERT of the token. -/
  | insertingToken
  /-- `record`: the INSERT of the accepted event; the token is not committed. -/
  | insertingEvent
  /-- `record`: the commit of both. -/
  | committing
  /-- `record_replay_detected`: the INSERT of the replayed event. -/
  | insertingReplay
  /-- `record_replay_detected`: its commit. -/
  | committingReplay
  | returned
  | raised (exn : Exn)
  deriving DecidableEq, Repr

/-- The tables, and how far each call has come. -/
structure PgReplayWorld where
  tokens : UniqueTable JwtReplayToken.key := .empty
  events : UniqueTable JwtReplayEvent.eventId := .empty
  phase  : ℕ → PgReplayPhase := fun _ => .selecting

namespace PgReplayWorld

variable (H : HashFunctions) (calls : ℕ → PgReplayCall)

def enter (world : PgReplayWorld) (i : ℕ) (phase : PgReplayPhase) : PgReplayWorld :=
  { world with phase := Function.update world.phase i phase }

/-- The end of a transaction by an exception, which leaves the connection's context. -/
def rollback (world : PgReplayWorld) (i : ℕ) : PgReplayWorld :=
  { world with tokens := world.tokens.rollback i, events := world.events.rollback i }

def commit (world : PgReplayWorld) (i : ℕ) : PgReplayWorld :=
  { world with tokens := world.tokens.commit i, events := world.events.commit i }

/-- `contains`. -/
def contains (world : PgReplayWorld) (call : PgReplayCall) : Bool :=
  world.tokens.visible.any fun token =>
    token.tenantId = call.claims.tenantId && token.issuer = call.claims.issuer &&
      token.jwtId = call.jwtId && call.nowEpoch < token.expiresAtEpoch

/-- The first INSERT of `record`. -/
def insertToken (world : PgReplayWorld) (i : ℕ) : PgReplayWorld :=
  match utcFromEpoch (calls i).claims.expiresAtEpoch with
  | .error exn => world.enter i (.raised exn)
  | .ok expiresAtUtc =>
    let token := (calls i).token H expiresAtUtc
    if token.allowed = false then
      (world.rollback i).enter i (.raised (.databaseError "CheckViolation"))
    else
      match world.tokens.insert i token with
      | .waiting => world
      | .violation => (world.rollback i).enter i .insertingReplay
      | .inserted tokens => { world with tokens }.enter i .insertingEvent

/-- The INSERT of `_insert_event`. Within `record` a violation of a unique key is taken for
a replay, within `record_replay_detected` nothing handles it. -/
def insertEvent (world : PgReplayWorld) (i : ℕ) (eventType : JwtReplayEventType)
    (next violated : PgReplayPhase) : PgReplayWorld :=
  match utcFromEpoch (calls i).claims.expiresAtEpoch with
  | .error exn => (world.rollback i).enter i (.raised exn)
  | .ok expiresAtUtc =>
    let event := (calls i).event H eventType expiresAtUtc
    if event.allowed = false then
      (world.rollback i).enter i (.raised (.databaseError "CheckViolation"))
    else
      match world.events.insert i event with
      | .waiting => world
      | .violation => (world.rollback i).enter i violated
      | .inserted events => { world with events }.enter i next

/-- The next statement of call `i`; one that waits is tried again later. -/
def step (world : PgReplayWorld) (i : ℕ) : PgReplayWorld :=
  match world.phase i with
  | .selecting =>
    world.enter i (if world.contains (calls i) then .insertingReplay else .insertingToken)
  | .insertingToken => world.insertToken H calls i
  | .insertingEvent => world.insertEvent H calls i .accepted .committing .insertingReplay
  | .committing => (world.commit i).enter i .returned
  | .insertingReplay =>
    world.insertEvent H calls i .replayed .committingReplay
      (.raised (.databaseError "UniqueViolation"))
  | .committingReplay =>
    (world.commit i).enter i (.raised (.jwtAuthenticationError "JWT replay detected"))
  | .returned | .raised _ => world

end PgReplayWorld

end Collabio
