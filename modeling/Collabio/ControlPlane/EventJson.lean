import Mathlib.Tactic
import Collabio.ControlPlane.Audit

/-!
# Audit events as JSON

The JSON of an event is a parameter, with what its two directions promise each
other.

* `EventJson`    — a writer and a reader of one line of JSON;
* `pydanticJson` — one that reads the lines it writes, behind blanks.
-/

namespace Collabio

/-! ## What JSON promises -/

/-- The line boundaries of `str.splitlines` that JSON leaves unescaped:
U+0085, U+2028 and U+2029. -/
def isSeparator (c : Char) : Bool := c.toNat == 0x85 || c.toNat == 0x2028 || c.toNat == 0x2029

def hasSeparator (text : String) : Bool := text.toList.any isSeparator

/-- Blanks that may stand before a JSON text on its line. -/
def isBlank (c : Char) : Bool := c == ' ' || c == '\t'

namespace AuditEvent

/-- Every string of an event, the keys and texts of its metadata included. -/
def texts (event : AuditEvent) : List String :=
  [event.eventId, event.schemaVersion, event.tenantId, event.userId, event.eventType] ++
    event.modelId.toList ++ event.promptTemplateId.toList ++ event.sourceObjectIds ++
    event.inputHash.toList ++ event.outputHash.toList ++ Json.memberTexts event.metadata.items ++
    [event.previousEventHash, event.eventHash]

end AuditEvent

/-- `model_dump_json` and `model_validate_json` of `AuditEvent`: exact inverses on
one line of JSON, which leaves non-ASCII characters as they are. -/
structure EventJson where
  modelDumpJson     : AuditEvent → List Char
  modelValidateJson : List Char → Except Exn AuditEvent
  validate_dump     : ∀ event pad, pad.all isBlank = true →
                        modelValidateJson (pad ++ modelDumpJson event) = .ok event
  opens             : ∀ event, ∃ rest, modelDumpJson event = '{' :: rest
  printable         : ∀ event, ∀ c ∈ modelDumpJson event, 0x20 ≤ c.toNat
  raw               : ∀ event (c : Char), Json.firstNonAscii ≤ c.toNat →
                        (c ∈ modelDumpJson event ↔ ∃ text ∈ event.texts, c ∈ text.toList)
  /-- A text that breaks off is not JSON. -/
  truncated         : ∀ event text event', text <+: modelDumpJson event →
                        modelValidateJson text = .ok event' → text = modelDumpJson event

/-! ## Compact JSON -/

namespace AuditEvent

/-- All members in the order of the model's fields. -/
def toJson (event : AuditEvent) : Json :=
  .obj (event.payloadMembers ++ [("event_hash", .str event.eventHash)])

def textOf : Json → Option String
  | .str text => some text
  | _ => none

def optionalTextOf : Json → Option (Option String)
  | .null => some none
  | .str text => some (some text)
  | _ => none

def textsOf : Json → Option (List String)
  | .arr items => items.mapM textOf
  | _ => none

def intOf : Json → Option Int
  | .int n => some n
  | _ => none

def dictOf : Json → Option (Dict String Json)
  | .obj members => if h : (members.map Prod.fst).Nodup then some ⟨members, h⟩ else none
  | _ => none

/-- The event behind its members, in order. -/
def ofJson : Json → Option AuditEvent
  | .obj [(_, eventId), (_, schemaVersion), (_, sequenceNumber), (_, tenantId), (_, userId),
      (_, eventType), (_, modelId), (_, promptTemplateId), (_, sourceObjectIds), (_, inputHash),
      (_, outputHash), (_, metadata), (_, previousEventHash), (_, eventHash)] => do
    return {
      eventId := ← textOf eventId
      schemaVersion := ← textOf schemaVersion
      sequenceNumber := ← intOf sequenceNumber
      tenantId := ← textOf tenantId
      userId := ← textOf userId
      eventType := ← textOf eventType
      modelId := ← optionalTextOf modelId
      promptTemplateId := ← optionalTextOf promptTemplateId
      sourceObjectIds := ← textsOf sourceObjectIds
      inputHash := ← optionalTextOf inputHash
      outputHash := ← optionalTextOf outputHash
      metadata := ← dictOf metadata
      previousEventHash := ← textOf previousEventHash
      eventHash := ← textOf eventHash }
  | _ => none

@[simp] theorem optionalTextOf_optionalText (text : Option String) :
    optionalTextOf (optionalText text) = some text := by
  cases text <;> rfl

@[simp] theorem textsOf_texts (texts : List String) :
    textsOf (.arr (texts.map .str)) = some texts := by
  rw [textsOf]
  induction texts with
  | nil => rfl
  | cons text rest ih => simp [List.mapM_cons, textOf, ih]

theorem ofJson_toJson (event : AuditEvent) : ofJson event.toJson = some event := by
  have hmetadata : dictOf (.obj event.metadata.items) = some event.metadata :=
    dif_pos event.metadata.nodup
  simp [toJson, payloadMembers, ofJson, textOf, intOf, hmetadata]

theorem toJson_injective : Function.Injective toJson := by
  intro event event' h
  have hsome : some event = some event' := by
    rw [← ofJson_toJson, ← ofJson_toJson, h]
  exact Option.some.inj hsome

/-- The keys of a written event. -/
def memberKeys : List String :=
  ["event_id", "schema_version", "sequence_number", "tenant_id", "user_id", "event_type",
    "model_id", "prompt_template_id", "source_object_ids", "input_hash", "output_hash", "metadata",
    "previous_event_hash", "event_hash"]

theorem texts_optionalText (text : Option String) : (optionalText text).texts = text.toList := by
  cases text <;> rfl

theorem itemTexts_str (texts : List String) : Json.itemTexts (texts.map .str) = texts := by
  induction texts with
  | nil => rfl
  | cons text rest ih => rw [List.map_cons, Json.itemTexts, Json.texts, ih, List.singleton_append]

/-- Every non-ASCII character of the written event is one of its texts'. -/
theorem nonAscii_mem_texts (event : AuditEvent) {c : Char} (hc : Json.firstNonAscii ≤ c.toNat) :
    (∃ text ∈ event.toJson.texts, c ∈ text.toList) ↔ ∃ text ∈ event.texts, c ∈ text.toList := by
  have hkeys : ∀ key ∈ memberKeys, c ∉ key.toList := by
    have hall : (memberKeys.all fun key => key.toList.all Json.isPrintableAscii) = true := by
      decide +kernel
    intro key hkey hmem
    have hprintable := List.all_eq_true.mp (List.all_eq_true.mp hall key hkey) c hmem
    have hascii := (Bool.and_eq_true_iff.mp hprintable).2
    exact absurd (of_decide_eq_true hascii) (by omega)
  simp only [memberKeys, List.forall_mem_cons] at hkeys
  obtain ⟨h1, h2, h3, h4, h5, h6, h7, h8, h9, h10, h11, h12, h13, h14, -⟩ := hkeys
  have hany : ∀ texts : List String, (∃ text ∈ texts, c ∈ text.toList) ↔
      texts.any (fun text => decide (c ∈ text.toList)) = true := by
    intro texts
    simp [List.any_eq_true]
  rw [hany, hany]
  simp only [toJson, payloadMembers, texts, Json.texts, Json.memberTexts, texts_optionalText,
    itemTexts_str, List.cons_append, List.nil_append, List.append_assoc, List.any_append,
    List.any_cons, List.any_nil, h1, h2, h3, h4, h5, h6, h7, h8, h9, h10, h11, h12, h13, h14,
    decide_false, Bool.false_or, Bool.or_false]

end AuditEvent

/-- Compact JSON with raw non-ASCII characters; only lines it writes are read. -/
def pydanticJson : EventJson where
  modelDumpJson event := Json.write Json.rawEscapes event.toJson
  modelValidateJson text :=
    let body := text.dropWhile isBlank
    match (Json.read Json.rawEscapes body).bind AuditEvent.ofJson with
    | none => .error (.validationError "AuditEvent" [⟨"", .message "Invalid JSON"⟩])
    | some event =>
      if Json.write Json.rawEscapes event.toJson = body then .ok event
      else .error (.validationError "AuditEvent" [⟨"", .message "Invalid JSON"⟩])
  validate_dump := by
    intro event pad hpad
    have hbody : (pad ++ Json.write Json.rawEscapes event.toJson).dropWhile isBlank =
        Json.write Json.rawEscapes event.toJson := by
      rw [List.dropWhile_append_of_pos (List.all_eq_true.mp hpad)]
      rfl
    dsimp only
    rw [hbody, Json.read_write, Option.bind_some, AuditEvent.ofJson_toJson]
    exact if_pos rfl
  opens := by
    intro event
    exact ⟨_, rfl⟩
  printable := by
    intro event
    exact (Json.rawText_write event.toJson).printable
  raw := by
    intro event c hc
    rw [(Json.rawText_write event.toJson).raw c hc, event.nonAscii_mem_texts hc]
  truncated := by
    rintro event text event' ⟨rest, hrest⟩ hvalid
    dsimp only at hvalid
    split at hvalid
    · cases hvalid
    · split at hvalid
      · rename_i hbody
        cases hvalid
        -- the text is blank or starts with the opening brace
        cases text with
        | nil => exact absurd hbody (Json.write_ne_nil _)
        | cons c text =>
          have hc : c = '{' := by
            have hhead : some c = some '{' := congrArg List.head? hrest
            exact Option.some.inj hhead
          subst hc
          have htext : Json.write Json.rawEscapes event'.toJson = '{' :: text := hbody
          rw [← htext, ← List.append_nil (Json.write Json.rawEscapes event.toJson)] at hrest
          have hobject : ∀ event : AuditEvent, ¬ Json.NeedsDelimiter event.toJson :=
            fun _ h => h
          have hsame := Json.write_append_inj (fun h => absurd h (hobject event'))
            (fun h => absurd h (hobject event)) hrest
          rw [← htext, hsame.1]
      · cases hvalid

end Collabio
