import Mathlib.Tactic
import Collabio.Library.Runs
import Collabio.ControlPlane.EventJson

/-!
# The audit log file

`JsonlAuditLogger` keeps its events in memory and appends each of them to a
file, one line of JSON for each event.

* `load`, `record`           — reading a log back, appending to it;
* `readEvents_append`        — an appended line is read back as one more event;
* `not_readEvents_of_break`  — a line with a line break inside is not read at all;
* `jsonl_round_trip_iff`     — which sequences of calls read back as recorded;
* `separator_breaks_round_trip` — one that does not.
-/

namespace Collabio

/-! ## The logger -/

/-- A logger that was constructed: its events verify. -/
structure JsonlAuditLogger (H : HashFunctions) where
  events   : List AuditEvent
  verified : (verifyAuditChain H events).ok = true

namespace JsonlAuditLogger

variable (H : HashFunctions)

/-- The constructor. -/
def init (events : List AuditEvent) : Except Exn (JsonlAuditLogger H) :=
  let verification := verifyAuditChain H events
  if h : verification.ok = true then .ok ⟨events, h⟩
  else .error (.valueError (.message
    ("Audit chain verification failed: " ++ verification.failure.getD "None")))

/-- The lines of a file that are not blank. -/
def eventLines (text : List Char) : List (List Char) :=
  (Text.splitlines (Text.universalNewlines text)).filter fun line => Text.stripChars line ≠ []

variable (json : EventJson)

def readEvents (text : List Char) : Except Exn (List AuditEvent) :=
  (eventLines text).mapM json.modelValidateJson

/-- `JsonlAuditLogger.load`; `none` is a path that does not exist. -/
def load : Option (List Char) → Except Exn (JsonlAuditLogger H)
  | none => init H []
  | some text => do
    let events ← readEvents json text
    init H events

/-- The file after `_append`. -/
def appendLine (file : Option (List Char)) (event : AuditEvent) : List Char :=
  file.getD [] ++ (json.modelDumpJson event ++ ['\n'])

variable {H}

/-- The logger after `record`. -/
def recorded (logger : JsonlAuditLogger H) (call : AuditCall) : JsonlAuditLogger H where
  events := logger.events ++ [auditEvent H logger.events call]
  verified := verifyAuditChain_record logger.verified call

variable (H) in
/-- A path and one logger on it. -/
structure LogState where
  file   : Option (List Char)
  logger : JsonlAuditLogger H

/-- One call of `record`. -/
def record (state : LogState H) (call : AuditCall) : LogState H where
  file := some (appendLine json state.file (auditEvent H state.logger.events call))
  logger := state.logger.recorded call

variable (H) in
/-- A logger on a path that does not exist yet. -/
def fresh : LogState H := ⟨none, ⟨[], rfl⟩⟩

/-- The calls of a run, one after the other. -/
def recordAll (state : LogState H) (calls : List AuditCall) : LogState H :=
  Runs.run (record json) state calls

/-! ## Lines -/

/-- What is read of a file up to its last line break, and what comes after it. -/
def scan (text : List Char) : Text.LineScan := Text.LineScan.start.feedAll text

theorem stripChars_of_blank {pad : List Char} (h : pad.all isBlank = true) :
    Text.stripChars pad = [] := by
  have hspace : ∀ c ∈ pad, Text.isSpace c = true := by
    intro c hc
    have hblank := List.all_eq_true.mp h c hc
    simp only [isBlank, Bool.or_eq_true, beq_iff_eq] at hblank
    rcases hblank with rfl | rfl <;> decide
  rw [Text.stripChars, List.dropWhile_eq_nil_iff.mpr hspace]
  rfl

/-- A line with an opening brace is not blank. -/
theorem stripChars_ne_nil {line : List Char} (h : '{' ∈ line) : Text.stripChars line ≠ [] := by
  intro hnil
  have htext : Text.strip (String.ofList line) ≠ "" :=
    Text.strip_ne_empty (by rw [String.toList_ofList]; exact h) (by decide)
  apply htext
  rw [Text.strip, String.toList_ofList, hnil]

/-- A character below U+0080 that is printable breaks no line. -/
theorem isSeparator_of_break {c : Char} (hbreak : Text.isLineBreak c = true)
    (hprintable : 0x20 ≤ c.toNat) : isSeparator c = true := by
  simp only [Text.isLineBreak, isSeparator, Bool.or_eq_true, Bool.and_eq_true, decide_eq_true_eq,
    beq_iff_eq] at hbreak ⊢
  omega

theorem isLineBreak_of_separator {c : Char} (h : isSeparator c = true) :
    Text.isLineBreak c = true ∧ Json.firstNonAscii ≤ c.toNat := by
  simp only [Text.isLineBreak, isSeparator, Bool.or_eq_true, Bool.and_eq_true, decide_eq_true_eq,
    beq_iff_eq, Json.firstNonAscii] at h ⊢
  omega

variable {json}

/-- A line break inside the JSON of an event comes from one of its texts. -/
theorem break_mem_dump {event : AuditEvent} :
    (∃ c ∈ json.modelDumpJson event, Text.isLineBreak c = true) ↔
      event.texts.any hasSeparator = true := by
  rw [List.any_eq_true]
  constructor
  · rintro ⟨c, hc, hbreak⟩
    have hseparator := isSeparator_of_break hbreak (json.printable event c hc)
    obtain ⟨text, htext, hmem⟩ :=
      (json.raw event c (isLineBreak_of_separator hseparator).2).mp hc
    exact ⟨text, htext, List.any_eq_true.mpr ⟨c, hmem, hseparator⟩⟩
  · rintro ⟨text, htext, hany⟩
    obtain ⟨c, hmem, hseparator⟩ := List.any_eq_true.mp hany
    obtain ⟨hbreak, hnonAscii⟩ := isLineBreak_of_separator hseparator
    exact ⟨c, (json.raw event c hnonAscii).mpr ⟨text, htext, hmem⟩, hbreak⟩

/-- **One more line.** Behind a blank tail, an event whose JSON has no line break
is read back as one more event. -/
theorem readEvents_append {text : List Char} {events : List AuditEvent} {event : AuditEvent}
    (hread : readEvents json text = .ok events) (htail : (scan text).current.all isBlank = true)
    (hplain : ∀ c ∈ json.modelDumpJson event, Text.isLineBreak c = false) :
    readEvents json (text ++ (json.modelDumpJson event ++ ['\n'])) = .ok (events ++ [event]) ∧
      (scan (text ++ (json.modelDumpJson event ++ ['\n']))).current = [] := by
  obtain ⟨rest, hopens⟩ := json.opens event
  have hne : json.modelDumpJson event ≠ [] := by
    rw [hopens]
    simp
  have hscan : scan (text ++ (json.modelDumpJson event ++ ['\n'])) =
      ⟨(scan text).lines ++ [(scan text).current ++ json.modelDumpJson event], [], false⟩ := by
    rw [scan, Text.LineScan.feedAll_append, Text.LineScan.feedAll_append,
      Text.LineScan.feedAll_of_no_break hne hplain]
    rfl
  have hlines : eventLines (text ++ (json.modelDumpJson event ++ ['\n'])) =
      eventLines text ++ [(scan text).current ++ json.modelDumpJson event] := by
    have hkeep : Text.stripChars ((scan text).current ++ json.modelDumpJson event) ≠ [] :=
      stripChars_ne_nil (by rw [hopens]; simp)
    -- a blank tail is no event line, before or after
    have hfinish : (Text.LineScan.finish (scan text)).filter (fun line => Text.stripChars line ≠ [])
        = (scan text).lines.filter (fun line => Text.stripChars line ≠ []) := by
      rw [Text.LineScan.finish]
      split
      · rfl
      · rw [List.filter_append, List.filter_singleton]
        simp [stripChars_of_blank htail]
    rw [eventLines, eventLines, Text.splitlines_universalNewlines,
      Text.splitlines_universalNewlines, Text.splitlines, Text.splitlines]
    show (Text.LineScan.finish (scan _)).filter _ = (Text.LineScan.finish (scan text)).filter _ ++ _
    rw [hfinish, hscan, Text.LineScan.finish, if_pos rfl, List.filter_append]
    simp [hkeep]
  constructor
  · rw [readEvents, hlines, List.mapM_append]
    refine Except.bind_eq_ok.mpr ⟨events, hread, ?_⟩
    refine Except.bind_eq_ok.mpr ⟨[event], ?_, rfl⟩
    rw [List.mapM_cons]
    exact Except.bind_eq_ok.mpr ⟨event, json.validate_dump event _ htail, rfl⟩
  · rw [hscan]

/-- **A broken line.** JSON with a line break inside leaves a file that cannot be read,
whatever is appended later. -/
theorem not_readEvents_of_break {text : List Char} {event : AuditEvent}
    (htail : (scan text).current = [])
    (hbreak : ∃ c ∈ json.modelDumpJson event, Text.isLineBreak c = true) (later : List Char)
    (events : List AuditEvent) :
    readEvents json (text ++ (json.modelDumpJson event ++ later)) ≠ .ok events := by
  intro hread
  obtain ⟨rest, hopens⟩ := json.opens event
  -- the line up to its first line break
  set first := (json.modelDumpJson event).takeWhile (fun c => !Text.isLineBreak c) with hfirst
  obtain ⟨c, after, hafter⟩ : ∃ c after,
      (json.modelDumpJson event).dropWhile (fun c => !Text.isLineBreak c) = c :: after := by
    refine List.exists_cons_of_ne_nil ?_
    rw [ne_eq, List.dropWhile_eq_nil_iff]
    intro hnone
    obtain ⟨c, hc, hb⟩ := hbreak
    have hplain := hnone c hc
    rw [hb] at hplain
    cases hplain
  have hsplit : json.modelDumpJson event = first ++ c :: after := by
    rw [hfirst, ← hafter, List.takeWhile_append_dropWhile]
  have hbreakC : Text.isLineBreak c = true := by
    have hhead := List.head?_dropWhile_not (fun c => !Text.isLineBreak c) (json.modelDumpJson event)
    rw [hafter, List.head?_cons] at hhead
    simpa using hhead
  have hplain : ∀ d ∈ first, Text.isLineBreak d = false := by
    intro d hd
    have htake := List.mem_takeWhile_imp hd
    simpa using htake
  have hopen : '{' ∈ first := by
    rw [hfirst, hopens, List.takeWhile_cons_of_pos (by decide)]
    exact List.mem_cons_self
  have hne : first ≠ [] := List.ne_nil_of_mem hopen
  -- it is a line of the file, and not a blank one
  have hline : first ∈ eventLines (text ++ (json.modelDumpJson event ++ later)) := by
    rw [eventLines, List.mem_filter, Text.splitlines_universalNewlines, Text.splitlines]
    refine ⟨?_, by simpa using stripChars_ne_nil hopen⟩
    refine (Text.LineScan.lines_prefix_finish _).subset ?_
    have hscan : Text.LineScan.feedAll (scan text) (first ++ [c]) =
        ⟨(scan text).lines ++ [first], [], c == '\r'⟩ := by
      rw [Text.LineScan.feedAll_append, Text.LineScan.feedAll_of_no_break hne hplain, htail]
      simp [Text.LineScan.feed, hbreakC]
    have hwhole : text ++ (json.modelDumpJson event ++ later) =
        text ++ ((first ++ [c]) ++ (after ++ later)) := by
      rw [hsplit]
      simp
    rw [hwhole, Text.LineScan.feedAll_append, Text.LineScan.feedAll_append]
    refine (Text.LineScan.lines_prefix_feedAll _ _).subset ?_
    show first ∈ (Text.LineScan.feedAll (scan text) (first ++ [c])).lines
    rw [hscan]
    simp
  obtain ⟨event', hvalid⟩ := Except.isOk_of_mapM hread first hline
  have hall := json.truncated event first event' ⟨c :: after, hsplit.symm⟩ hvalid
  rw [hsplit] at hall
  simpa using congrArg List.length hall

/-! ## Texts of a call -/

/-- The hash of a text is plain. -/
theorem hasSeparator_stableHash (value : String) : hasSeparator (stableHash H value) = false := by
  have hdigits : ∀ n < 16, isSeparator (Text.hexDigit n) = false := by decide
  rw [hasSeparator, List.any_eq_false]
  intro c hc
  rw [stableHash, computeContentHash, hexdigest, String.toList_append, List.mem_append] at hc
  rcases hc with hscheme | hhex
  · have hall : ("sha256:".toList.all fun c => !isSeparator c) = true := by decide
    simpa using List.all_eq_true.mp hall c hscheme
  · rw [String.toList_ofList] at hhex
    obtain ⟨n, hn, rfl⟩ := Text.mem_hexChars hhex
    rw [hdigits n hn]
    exact Bool.false_ne_true

/-- The hash a logger refers to is plain, as its chain verifies. -/
theorem hasSeparator_previousHash (logger : JsonlAuditLogger H) :
    hasSeparator ((logger.events.getLast?.map (·.eventHash)).getD genesisHash) = false := by
  cases hlast : logger.events.getLast? with
  | none => decide +kernel
  | some event =>
    have hvalid := verifyAuditChain_ok.mp logger.verified
    have hhash := HashChain.hash_eq_of_mem hvalid event (List.mem_of_getLast? hlast)
    rw [Option.map_some, Option.getD_some]
    calc hasSeparator event.eventHash = hasSeparator (auditEventHash H event) :=
          congrArg hasSeparator hhash
      _ = false := hasSeparator_stableHash _

end JsonlAuditLogger

/-- The texts of a call that are recorded as they are; its input and output are hashed. -/
def AuditCall.texts (call : AuditCall) : List String :=
  [call.eventId, call.userContext.tenantId, call.userContext.userId, call.eventType] ++
    call.modelId.toList ++ call.promptTemplateId.toList ++ call.sourceObjectIds ++
    Json.memberTexts call.metadata.items

/-- No recorded text of the call has one of the unescaped line boundaries. -/
def AuditCall.Plain (call : AuditCall) : Prop := call.texts.any hasSeparator = false

instance (call : AuditCall) : Decidable call.Plain := inferInstanceAs (Decidable (_ = _))

namespace JsonlAuditLogger

theorem any_toList_hash (text : Option String) :
    (text.map (stableHash H)).toList.any hasSeparator = false := by
  cases text with
  | none => rfl
  | some value =>
    rw [Option.map_some, Option.toList_some, List.any_cons, List.any_nil, Bool.or_false,
      hasSeparator_stableHash]

/-- Only the texts of the call can put a separator into its event. -/
theorem any_separator_event (logger : JsonlAuditLogger H) (call : AuditCall) :
    (auditEvent H logger.events call).texts.any hasSeparator = call.texts.any hasSeparator := by
  have hschema : hasSeparator "audit_event.v1" = false := by decide +kernel
  have hhash : hasSeparator (auditEvent H logger.events call).eventHash = false :=
    hasSeparator_stableHash _
  have hprevious : hasSeparator (auditEvent H logger.events call).previousEventHash = false :=
    hasSeparator_previousHash logger
  have hinput : (auditEvent H logger.events call).inputHash.toList.any hasSeparator = false :=
    any_toList_hash call.inputText
  have houtput : (auditEvent H logger.events call).outputHash.toList.any hasSeparator = false :=
    any_toList_hash call.outputText
  simp only [AuditEvent.texts, List.any_append, List.any_cons, List.any_nil, hhash, hprevious,
    hinput, houtput, Bool.or_false]
  simp only [auditEvent, AuditCall.texts, List.any_append, List.any_cons, List.any_nil, hschema,
    Bool.or_false, Bool.false_or]

/-! ## Reading a log back -/

variable {H : HashFunctions} {json : EventJson}

theorem init_eq_ok {events : List AuditEvent} {logger : JsonlAuditLogger H} :
    init H events = .ok logger ↔ logger.events = events := by
  unfold init
  dsimp only
  constructor
  · intro h
    split at h
    · cases h
      rfl
    · cases h
  · rintro rfl
    exact dif_pos logger.verified

/-- A path that does not exist is read like an empty file. -/
theorem load_eq_ok {file : Option (List Char)} {logger : JsonlAuditLogger H} :
    load H json file = .ok logger ↔ readEvents json (file.getD []) = .ok logger.events := by
  cases file with
  | none =>
    have hempty : readEvents json [] = .ok [] := rfl
    rw [Option.getD_none, hempty, load, init_eq_ok, Except.ok.injEq, eq_comm]
  | some text =>
    rw [Option.getD_some, load, Except.bind_eq_ok]
    simp only [init_eq_ok]
    constructor
    · rintro ⟨events, hread, rfl⟩
      exact hread
    · intro hread
      exact ⟨_, hread, rfl⟩

/-- The file holds the logger's events, and its last line is finished. -/
structure Readable (json : EventJson) (state : LogState H) : Prop where
  read     : readEvents json (state.file.getD []) = .ok state.logger.events
  finished : (scan (state.file.getD [])).current = []

/-- A plain call's event is one line of JSON. -/
theorem dump_plain (logger : JsonlAuditLogger H) {call : AuditCall} (h : call.Plain) :
    ∀ c ∈ json.modelDumpJson (auditEvent H logger.events call), Text.isLineBreak c = false := by
  intro c hc
  rw [← Bool.not_eq_true]
  intro hbreak
  have hany := break_mem_dump.mp ⟨c, hc, hbreak⟩
  rw [any_separator_event, h] at hany
  cases hany

/-- **Step.** A plain call keeps the log readable. -/
theorem readable_record {state : LogState H} (h : Readable json state) {call : AuditCall}
    (hplain : call.Plain) : Readable json (record json state call) := by
  have happend := readEvents_append h.read (by rw [h.finished]; rfl)
    (dump_plain state.logger hplain)
  exact ⟨happend.1, happend.2⟩

/-- Recording only appends to the file. -/
theorem file_recordAll (state : LogState H) (calls : List AuditCall) :
    ∃ later, (recordAll json state calls).file.getD [] = state.file.getD [] ++ later := by
  induction calls generalizing state with
  | nil => exact ⟨[], (List.append_nil _).symm⟩
  | cons call calls ih =>
    obtain ⟨later, hlater⟩ := ih (record json state call)
    refine ⟨json.modelDumpJson (auditEvent H state.logger.events call) ++ ['\n'] ++ later, ?_⟩
    rw [recordAll, Runs.run_cons]
    refine hlater.trans ?_
    rw [record, Option.getD_some, appendLine, List.append_assoc]

/-- **Step.** A call that is not plain makes the log unreadable for good. -/
theorem not_read_of_not_plain {state : LogState H} (h : Readable json state) {call : AuditCall}
    (hplain : ¬ call.Plain) (calls : List AuditCall) (events : List AuditEvent) :
    readEvents json ((recordAll json state (call :: calls)).file.getD []) ≠ .ok events := by
  have hbreak : ∃ c ∈ json.modelDumpJson (auditEvent H state.logger.events call),
      Text.isLineBreak c = true := by
    rw [break_mem_dump, any_separator_event, ← Bool.not_eq_false]
    exact hplain
  obtain ⟨later, hlater⟩ := @file_recordAll H json (record json state call) calls
  have hfile : (recordAll json state (call :: calls)).file.getD [] = state.file.getD [] ++
      (json.modelDumpJson (auditEvent H state.logger.events call) ++ (['\n'] ++ later)) := by
    rw [recordAll, Runs.run_cons]
    refine hlater.trans ?_
    rw [record, Option.getD_some, appendLine]
    simp
  rw [hfile]
  exact not_readEvents_of_break h.finished hbreak _ _

/-- **Run.** From a readable log, the calls read back exactly if all of them are plain. -/
theorem read_recordAll {state : LogState H} (h : Readable json state) (calls : List AuditCall) :
    readEvents json ((recordAll json state calls).file.getD []) =
        .ok (recordAll json state calls).logger.events ↔
      ∀ call ∈ calls, call.Plain := by
  induction calls generalizing state with
  | nil => exact iff_of_true h.read (by simp)
  | cons call calls ih =>
    rw [List.forall_mem_cons]
    by_cases hplain : call.Plain
    · exact (ih (readable_record h hplain)).trans (by simp [hplain])
    · exact iff_of_false (not_read_of_not_plain h hplain calls _) (fun hall => hplain hall.1)

variable (H json) in
/-- The calls, recorded on a fresh path, are read back: `load` succeeds, with the
same events in the same order, and they verify. -/
def RoundTrips (calls : List AuditCall) : Prop :=
  ∃ logger, load H json (recordAll json (fresh H) calls).file = .ok logger ∧
    logger.events = (recordAll json (fresh H) calls).logger.events ∧
    (verifyAuditChain H logger.events).ok = true

/-- **Round trip of the log.** Recorded calls are read back exactly if no recorded
text of theirs has an unescaped line boundary. -/
theorem jsonl_round_trip_iff (calls : List AuditCall) :
    RoundTrips H json calls ↔ ∀ call ∈ calls, call.Plain := by
  have hfresh : Readable json (fresh H) := ⟨rfl, rfl⟩
  rw [← read_recordAll hfresh calls]
  constructor
  · rintro ⟨logger, hload, hevents, -⟩
    rw [load_eq_ok, hevents] at hload
    exact hload
  · intro hread
    refine ⟨_, load_eq_ok.mpr hread, rfl, ?_⟩
    exact (recordAll json (fresh H) calls).logger.verified

/-- A call whose event type has U+2028 in it. -/
def separatorCall : AuditCall where
  eventId := "00000000-0000-4000-8000-000000000000"
  userContext := { userId := "user-demo", tenantId := "tenant-demo" }
  eventType := "rag.retrieval\u2028rag.answer"

/-- **A log that cannot be read back**: its only event has a line separator in its type. -/
theorem separator_breaks_round_trip : ¬ RoundTrips default pydanticJson [separatorCall] := by
  have hplain : ¬ separatorCall.Plain := by decide +kernel
  have hfresh : Readable pydanticJson (fresh default) := ⟨rfl, rfl⟩
  rintro ⟨logger, hload, -⟩
  exact not_read_of_not_plain hfresh hplain [] _ (load_eq_ok.mp hload)

end JsonlAuditLogger

end Collabio
