import Mathlib.Tactic
import Collabio.Library.Dict
import Collabio.Library.HashChain
import Collabio.ControlPlane.Models
import Collabio.Storage.ContentHash

/-!
# The audit chain

* `AuditEvent`, `auditEventHash` — an event, and the hash over all its other fields;
* `verifyAuditChain`             — the verifier;
* `auditEvent`, `record`         — what a logger appends;
* `verifyAuditChain_ok`          — the verifier accepts the valid hash chains;
* `payload_same`                 — the hashed payload determines every field;
* `audit_chain_tamper_evident`   — what an anchored hash pins down.
-/

namespace Collabio

variable (H : HashFunctions)

def genesisHash : String := zeroHash

/-- `stable_hash`. -/
def stableHash (value : String) : String := computeContentHash H (Text.encodeUtf8 value)

structure AuditEvent where
  eventId           : String
  schemaVersion     : String := "audit_event.v1"
  sequenceNumber    : Int
  tenantId          : String
  userId            : String
  eventType         : String
  modelId           : Option String := none
  promptTemplateId  : Option String := none
  sourceObjectIds   : List String := []
  inputHash         : Option String := none
  outputHash        : Option String := none
  metadata          : Dict String Json := ∅
  previousEventHash : String
  eventHash         : String

namespace AuditEvent

/-- `model_dump(mode="json", exclude={"event_hash"})`, member by member. -/
def payloadMembers (event : AuditEvent) : List (String × Json) :=
  [("event_id", .str event.eventId),
    ("schema_version", .str event.schemaVersion),
    ("sequence_number", .int event.sequenceNumber),
    ("tenant_id", .str event.tenantId),
    ("user_id", .str event.userId),
    ("event_type", .str event.eventType),
    ("model_id", optionalText event.modelId),
    ("prompt_template_id", optionalText event.promptTemplateId),
    ("source_object_ids", .arr (event.sourceObjectIds.map .str)),
    ("input_hash", optionalText event.inputHash),
    ("output_hash", optionalText event.outputHash),
    ("metadata", .obj event.metadata.items),
    ("previous_event_hash", .str event.previousEventHash)]

def payload (event : AuditEvent) : Json := .obj event.payloadMembers

end AuditEvent

def auditEventHash (event : AuditEvent) : String := stableHash H (Json.canonical event.payload)

/-! ## The verifier -/

structure AuditChainVerificationResult where
  ok             : Bool
  verifiedEvents : Nat
  failure        : Option String := none
  deriving DecidableEq, Repr

/-- The loop of `verify_audit_chain`, at its event number `expectedSequence`. -/
def verifyEvents (previousHash : String) (expectedSequence : Nat) :
    List AuditEvent → AuditChainVerificationResult
  | [] => ⟨true, expectedSequence - 1, none⟩
  | event :: rest =>
    if event.sequenceNumber ≠ expectedSequence then
      ⟨false, expectedSequence - 1, some ("Expected sequence " ++ toString expectedSequence ++
        ", found " ++ toString event.sequenceNumber)⟩
    else if event.previousEventHash ≠ previousHash then
      ⟨false, expectedSequence - 1, some ("Event " ++ event.eventId ++
        " has invalid previous hash")⟩
    else if event.eventHash ≠ auditEventHash H event then
      ⟨false, expectedSequence - 1, some ("Event " ++ event.eventId ++ " has invalid event hash")⟩
    else verifyEvents event.eventHash (expectedSequence + 1) rest

def verifyAuditChain (events : List AuditEvent) : AuditChainVerificationResult :=
  verifyEvents H genesisHash 1 events

/-! ## The logger -/

/-- The arguments of `record`, with the event id that is drawn for the event. -/
structure AuditCall where
  eventId          : String
  userContext      : UserContext
  eventType        : String
  modelId          : Option String := none
  promptTemplateId : Option String := none
  sourceObjectIds  : List String := []
  inputText        : Option String := none
  outputText       : Option String := none
  metadata         : Dict String Json := ∅

/-- The event a logger with these events makes of a call. -/
def auditEvent (events : List AuditEvent) (call : AuditCall) : AuditEvent :=
  let event : AuditEvent := {
    eventId := call.eventId
    sequenceNumber := events.length + 1
    tenantId := call.userContext.tenantId
    userId := call.userContext.userId
    eventType := call.eventType
    modelId := call.modelId
    promptTemplateId := call.promptTemplateId
    sourceObjectIds := call.sourceObjectIds
    inputHash := call.inputText.map (stableHash H)
    outputHash := call.outputText.map (stableHash H)
    metadata := call.metadata
    previousEventHash := (events.getLast?.map (·.eventHash)).getD genesisHash
    eventHash := "" }
  { event with eventHash := auditEventHash H event }

/-- `InMemoryAuditLogger.record`, on the logger's events. -/
def record (call : AuditCall) : Eff Exn (List AuditEvent) AuditEvent := fun events =>
  let event := auditEvent H events call
  (.ok event, events ++ [event])

/-! ## Verified chains -/

/-- How the chain reads its events. -/
def auditFormat : HashChain.Format AuditEvent String where
  number := (·.sequenceNumber)
  prev := (·.previousEventHash)
  hash := (·.eventHash)
  digest := auditEventHash H

variable {H}

theorem verifyEvents_ok {previousHash : String} {expectedSequence : Nat}
    {events : List AuditEvent} :
    (verifyEvents H previousHash expectedSequence events).ok = true ↔
      HashChain.Valid (auditFormat H) previousHash expectedSequence events := by
  induction events generalizing previousHash expectedSequence with
  | nil => simp [verifyEvents, HashChain.Valid]
  | cons event rest ih =>
    rw [verifyEvents, HashChain.Valid]
    show _ ↔ (event.sequenceNumber = expectedSequence ∧ event.previousEventHash = previousHash ∧
      event.eventHash = auditEventHash H event) ∧
        HashChain.Valid (auditFormat H) event.eventHash (expectedSequence + 1) rest
    -- the verifier stops at the first of the three conditions that fails
    by_cases hsequence : event.sequenceNumber = expectedSequence
    · by_cases hprevious : event.previousEventHash = previousHash
      · by_cases hhash : event.eventHash = auditEventHash H event
        · rw [if_neg (not_not.mpr hsequence), if_neg (not_not.mpr hprevious),
            if_neg (not_not.mpr hhash), ih]
          simp [hsequence, hprevious, hhash]
        · simp [hsequence, hprevious, hhash]
      · simp [hsequence, hprevious]
    · simp [hsequence]

/-- **The verifier accepts exactly the valid hash chains** from the genesis hash on. -/
theorem verifyAuditChain_ok {events : List AuditEvent} :
    (verifyAuditChain H events).ok = true ↔
      HashChain.Valid (auditFormat H) genesisHash 1 events :=
  verifyEvents_ok

/-- A logger refers to the hash of its last event. -/
theorem lastHash_eq (events : List AuditEvent) :
    HashChain.lastHash (auditFormat H) genesisHash events =
      (events.getLast?.map (·.eventHash)).getD genesisHash := by
  rcases List.eq_nil_or_concat events with rfl | ⟨before, event, rfl⟩
  · rfl
  · rw [List.concat_eq_append, HashChain.lastHash_concat]
    simp [auditFormat]

/-- **Recording keeps the chain valid.** -/
theorem verifyAuditChain_record {events : List AuditEvent}
    (h : (verifyAuditChain H events).ok = true) (call : AuditCall) :
    (verifyAuditChain H (events ++ [auditEvent H events call])).ok = true := by
  rw [verifyAuditChain_ok] at h ⊢
  refine HashChain.valid_concat.mpr ⟨h, ?_, ?_, ?_⟩
  · show ((events.length : Int) + 1) = 1 + events.length
    omega
  · exact (lastHash_eq events).symm
  · -- the hash leaves the field it is stored in out
    rfl

/-! ## Tamper evidence -/

@[simp] theorem same_optionalText {text text' : Option String} :
    Json.Same (optionalText text) (optionalText text') ↔ text = text' := by
  cases text <;> cases text' <;> simp [optionalText, Json.Same, Json.sortKeys]

namespace AuditEvent

/-- Equality of events; the order of metadata entries does not count. -/
structure Same (event event' : AuditEvent) : Prop where
  eventId           : event.eventId = event'.eventId
  schemaVersion     : event.schemaVersion = event'.schemaVersion
  sequenceNumber    : event.sequenceNumber = event'.sequenceNumber
  tenantId          : event.tenantId = event'.tenantId
  userId            : event.userId = event'.userId
  eventType         : event.eventType = event'.eventType
  modelId           : event.modelId = event'.modelId
  promptTemplateId  : event.promptTemplateId = event'.promptTemplateId
  sourceObjectIds   : event.sourceObjectIds = event'.sourceObjectIds
  inputHash         : event.inputHash = event'.inputHash
  outputHash        : event.outputHash = event'.outputHash
  metadata          : Json.Same (.obj event.metadata.items) (.obj event'.metadata.items)
  previousEventHash : event.previousEventHash = event'.previousEventHash
  eventHash         : event.eventHash = event'.eventHash

/-- **The payload covers every field** but the hash itself. -/
theorem same_of_payload {event event' : AuditEvent}
    (h : Json.Same event.payload event'.payload) (hhash : event.eventHash = event'.eventHash) :
    event.Same event' := by
  -- no key stands twice in the payload, so that each field is found under its own
  have hkeys : (event'.payloadMembers.map Prod.fst).Nodup := by
    show ["event_id", "schema_version", "sequence_number", "tenant_id", "user_id", "event_type",
      "model_id", "prompt_template_id", "source_object_ids", "input_hash", "output_hash",
      "metadata", "previous_event_hash"].Nodup
    decide
  have hmember : ∀ key x y, (key, x) ∈ event.payloadMembers → (key, y) ∈ event'.payloadMembers →
      Json.Same x y :=
    fun key x y hx hy => Json.same_of_mem h hkeys hx hy
  exact {
    eventId := Json.same_str.mp (hmember "event_id" _ _ (by simp [payloadMembers])
      (by simp [payloadMembers]))
    schemaVersion := Json.same_str.mp (hmember "schema_version" _ _ (by simp [payloadMembers])
      (by simp [payloadMembers]))
    sequenceNumber := Json.same_int.mp (hmember "sequence_number" _ _ (by simp [payloadMembers])
      (by simp [payloadMembers]))
    tenantId := Json.same_str.mp (hmember "tenant_id" _ _ (by simp [payloadMembers])
      (by simp [payloadMembers]))
    userId := Json.same_str.mp (hmember "user_id" _ _ (by simp [payloadMembers])
      (by simp [payloadMembers]))
    eventType := Json.same_str.mp (hmember "event_type" _ _ (by simp [payloadMembers])
      (by simp [payloadMembers]))
    modelId := same_optionalText.mp (hmember "model_id" _ _ (by simp [payloadMembers])
      (by simp [payloadMembers]))
    promptTemplateId := same_optionalText.mp (hmember "prompt_template_id" _ _
      (by simp [payloadMembers]) (by simp [payloadMembers]))
    sourceObjectIds := Json.same_texts.mp (hmember "source_object_ids" _ _
      (by simp [payloadMembers]) (by simp [payloadMembers]))
    inputHash := same_optionalText.mp (hmember "input_hash" _ _ (by simp [payloadMembers])
      (by simp [payloadMembers]))
    outputHash := same_optionalText.mp (hmember "output_hash" _ _ (by simp [payloadMembers])
      (by simp [payloadMembers]))
    metadata := hmember "metadata" _ _ (by simp [payloadMembers]) (by simp [payloadMembers])
    previousEventHash := Json.same_str.mp (hmember "previous_event_hash" _ _
      (by simp [payloadMembers]) (by simp [payloadMembers]))
    eventHash := hhash }

end AuditEvent

/-- `stable_hash` after `canonical_json` has no collisions on event payloads. -/
def PayloadHashInjective (H : HashFunctions) : Prop :=
  ∀ event event' : AuditEvent, stableHash H (Json.canonical event.payload) =
    stableHash H (Json.canonical event'.payload) → Json.Same event.payload event'.payload

theorem binding_of_injective (hinjective : PayloadHashInjective H) :
    HashChain.Binding (auditFormat H) AuditEvent.Same := by
  intro event event' hhash hhash' hsame
  refine AuditEvent.same_of_payload (hinjective event event' ?_) hsame
  calc auditEventHash H event = event.eventHash := hhash.symm
    _ = event'.eventHash := hsame
    _ = auditEventHash H event' := hhash'

/-- The log has an event with this sequence number and this hash. -/
def Anchored (events : List AuditEvent) (sequence : Int) (eventHash : String) : Prop :=
  ∃ event ∈ events, event.sequenceNumber = sequence ∧ event.eventHash = eventHash

/-- What the verifier and one hash say about a log. -/
structure TamperEvident (H : HashFunctions) : Prop where
  /-- The last hash determines a verified log of known length. -/
  committed : ∀ events events', (verifyAuditChain H events).ok = true →
    (verifyAuditChain H events').ok = true → events.length = events'.length →
    events.getLast?.map (·.eventHash) = events'.getLast?.map (·.eventHash) →
    List.Forall₂ AuditEvent.Same events events'
  /-- A log that differs from a verified one at or before an anchor is not verified. -/
  anchored : ∀ events events' sequence eventHash, (verifyAuditChain H events).ok = true →
    Anchored events sequence eventHash → Anchored events' sequence eventHash →
    ¬ List.Forall₂ AuditEvent.Same (events.take sequence.toNat) (events'.take sequence.toNat) →
    (verifyAuditChain H events').ok = false
  /-- Prefixes of verified logs are verified. -/
  prefixes : ∀ events before, (verifyAuditChain H events).ok = true → before <+: events →
    (verifyAuditChain H before).ok = true

/-- **Tamper evidence** of the audit chain. -/
theorem audit_chain_tamper_evident (hinjective : PayloadHashInjective H) : TamperEvident H where
  committed := by
    intro events events' hok hok' hlength hlast
    refine HashChain.forall₂_of_lastHash (binding_of_injective hinjective)
      (fun _ _ hsame => hsame.previousEventHash) (verifyAuditChain_ok.mp hok)
      (verifyAuditChain_ok.mp hok') hlength ?_
    rw [lastHash_eq, lastHash_eq, hlast]
  anchored := by
    rintro events events' sequence eventHash hok ⟨event, hevent, rfl, rfl⟩
      ⟨event', hevent', hsequence, hhash⟩ hdiffer
    rw [← Bool.not_eq_true]
    intro hok'
    apply hdiffer
    exact HashChain.forall₂_take_of_anchor (binding_of_injective hinjective)
      (fun _ _ hsame => hsame.previousEventHash) (verifyAuditChain_ok.mp hok)
      (verifyAuditChain_ok.mp hok') hevent hevent' hsequence.symm hhash.symm
  prefixes := by
    intro events before hok hprefix
    exact verifyAuditChain_ok.mpr (HashChain.valid_of_prefix (verifyAuditChain_ok.mp hok) hprefix)

/-- The texts of an injective digest collide on no payload. -/
theorem default_injective : PayloadHashInjective default := by
  intro event event' h
  exact (hashJson_eq_iff (fun _ _ h => h)).mp h

theorem default_tamper_evident : TamperEvident default :=
  audit_chain_tamper_evident default_injective

end Collabio
