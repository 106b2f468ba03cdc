import Mathlib.Tactic
import Collabio.Platform.LegacySqlMetadata
import Collabio.Platform.LegacySqlSnapshots
import Collabio.Platform.Modules

/-!
# Discovery of a legacy database

From the names and columns of a table discovery guesses what the table holds, and how sure it
is; the evidence plan of an import quarantines what is unsure.

* `candidateForTable`       — the guess;
* `buildDiscoveryManifest`  — of all tables of a snapshot, without any of their rows;
* `buildImportEvidencePlan` — what is quarantined;
* `buildDiscoveryManifest_isOk` — the metadata of a snapshot has no payload of rows.
-/

namespace Collabio

/-! ## Candidates -/

inductive LegacySqlCandidateConfidence where
  | high
  | medium
  | low
  | unknown
  deriving DecidableEq, Repr

def LegacySqlCandidateConfidence.value : LegacySqlCandidateConfidence → String
  | .high => "high"
  | .medium => "medium"
  | .low => "low"
  | .unknown => "unknown"

structure LegacySqlObjectCandidate where
  sourceTableRef      : String
  candidateObjectType : String
  confidence          : LegacySqlCandidateConfidence
  reasons             : List String
  deriving DecidableEq, Repr

/-- One entry of `TARGET_PATTERNS`. -/
structure TargetPattern where
  objectType : String
  patterns   : List String
  reason     : String
  deriving DecidableEq, Repr

/-- `TARGET_PATTERNS`. -/
def targetPatterns : List TargetPattern :=
  [⟨"crm.account",
      ["account", "accounts", "customer", "customers", "kunde", "kunden", "firma"],
      "account table name"⟩,
    ⟨"crm.contact", ["contact", "contacts", "kontakt", "kontakte", "person", "personen"],
      "contact table name"⟩,
    ⟨"crm.activity",
      ["activity", "activities", "task", "tasks", "aktivitaet", "aktivitaeten"],
      "activity table name"⟩,
    ⟨"erp.product", ["product", "products", "artikel", "item", "items", "produkt"],
      "product table name"⟩,
    ⟨"erp.supplier", ["supplier", "suppliers", "lieferant", "lieferanten", "vendor"],
      "supplier table name"⟩,
    ⟨"erp.order", ["order", "orders", "auftrag", "auftraege", "bestellung"],
      "order table name"⟩,
    ⟨"erp.invoice", ["invoice", "invoices", "rechnung", "rechnungen"],
      "invoice table name"⟩]

def legacyRow : String := "legacy.row"

/-- The pattern of a table that it matches first. -/
def targetOf (table : LegacySqlTableMetadata) : Option TargetPattern :=
  let searchableName := (table.schemaName ++ "." ++ table.tableName).toLower
  targetPatterns.find? fun target =>
    target.patterns.any fun pattern => pattern.toList <:+: searchableName.toList

theorem targetOf_mem {table : LegacySqlTableMetadata} {target : TargetPattern}
    (h : targetOf table = some target) : target ∈ targetPatterns := by
  unfold targetOf at h
  exact List.mem_of_find?_eq_some h

/-- `_candidate_for_table`. -/
def candidateForTable (table : LegacySqlTableMetadata) : LegacySqlObjectCandidate :=
  let columnNames := table.columns.map (·.name.toLower)
  match targetOf table with
  | some target =>
    if target.objectType = "crm.contact" ∧
        ["email", "mail", "emailaddress"].any (· ∈ columnNames) then
      { sourceTableRef := table.tableRef
        candidateObjectType := target.objectType
        confidence := .high
        reasons := [target.reason, "contact-like email column present"] }
    else
      { sourceTableRef := table.tableRef
        candidateObjectType := target.objectType
        confidence := if table.primaryKeyColumns = [] then .low else .medium
        reasons := [target.reason] }
  | none =>
    { sourceTableRef := table.tableRef
      candidateObjectType := legacyRow
      confidence := .unknown
      reasons := ["no safe target object inference from metadata"] }

@[simp] theorem sourceTableRef_candidateForTable (table : LegacySqlTableMetadata) :
    (candidateForTable table).sourceTableRef = table.tableRef := by
  unfold candidateForTable
  dsimp only
  split
  · split <;> rfl
  · rfl

/-- A candidate is that of a pattern, or a row of the legacy database. -/
theorem candidateObjectType_mem (table : LegacySqlTableMetadata) :
    (candidateForTable table).candidateObjectType ∈
      legacyRow :: targetPatterns.map (·.objectType) := by
  unfold candidateForTable
  dsimp only
  split
  · rename_i target htarget
    have hmem : target.objectType ∈ targetPatterns.map (·.objectType) :=
      List.mem_map.mpr ⟨target, targetOf_mem htarget, rfl⟩
    split
    · exact List.mem_cons_of_mem _ hmem
    · exact List.mem_cons_of_mem _ hmem
  · exact List.mem_cons_self

/-- The texts that a candidate may give as its reasons. -/
def candidateReasons : List String :=
  "contact-like email column present" :: "no safe target object inference from metadata" ::
    targetPatterns.map (·.reason)

theorem reasons_candidateForTable (table : LegacySqlTableMetadata) :
    (candidateForTable table).reasons ≠ [] ∧
      ∀ reason ∈ (candidateForTable table).reasons, reason ∈ candidateReasons := by
  unfold candidateForTable candidateReasons
  dsimp only
  split
  · rename_i target htarget
    have hmem : target.reason ∈ targetPatterns.map (·.reason) :=
      List.mem_map.mpr ⟨target, targetOf_mem htarget, rfl⟩
    split
    · refine ⟨List.cons_ne_nil _ _, ?_⟩
      simp only [List.mem_cons, List.not_mem_nil, or_false, forall_eq_or_imp, forall_eq]
      exact ⟨.inr (.inr hmem), .inl trivial⟩
    · refine ⟨List.cons_ne_nil _ _, ?_⟩
      simp only [List.mem_cons, List.not_mem_nil, or_false, forall_eq]
      exact .inr (.inr hmem)
  · refine ⟨List.cons_ne_nil _ _, ?_⟩
    simp only [List.mem_cons, List.not_mem_nil, or_false, forall_eq]
    exact .inr (.inl trivial)

/-! ## JSON forms -/

def optionalInt : Option Int → Json
  | none => .null
  | some n => .int n

def textArray (texts : List String) : Json := .arr (texts.map .str)

namespace LegacySqlColumnMetadata

def members (column : LegacySqlColumnMetadata) : List (String × Json) :=
  [("name", .str column.name), ("ordinal_position", .int column.ordinalPosition),
    ("data_type", .str column.dataType), ("nullable", .bool column.nullable),
    ("max_length", optionalInt column.maxLength),
    ("numeric_precision", optionalInt column.numericPrecision),
    ("numeric_scale", optionalInt column.numericScale),
    ("is_identity", .bool column.isIdentity), ("default_present", .bool column.defaultPresent)]

end LegacySqlColumnMetadata

def LegacySqlForeignKeyMetadata.members (key : LegacySqlForeignKeyMetadata) :
    List (String × Json) :=
  [("name", .str key.name), ("columns", textArray key.columns),
    ("referenced_schema", .str key.referencedSchema),
    ("referenced_table", .str key.referencedTable),
    ("referenced_columns", textArray key.referencedColumns)]

def LegacySqlIndexMetadata.members (index : LegacySqlIndexMetadata) : List (String × Json) :=
  [("name", .str index.name), ("columns", textArray index.columns),
    ("unique", .bool index.unique)]

def LegacySqlConstraintMetadata.members (constraint : LegacySqlConstraintMetadata) :
    List (String × Json) :=
  [("name", .str constraint.name), ("kind", .str constraint.kind.value),
    ("columns", textArray constraint.columns)]

/-- With or without its row count. -/
def LegacySqlTableMetadata.members (table : LegacySqlTableMetadata) (includeRowCounts : Bool) :
    List (String × Json) :=
  [("schema_name", .str table.schemaName), ("table_name", .str table.tableName),
    ("relation_kind", .str table.relationKind.value),
    ("row_count_estimate",
      optionalInt (if includeRowCounts then table.rowCountEstimate else none)),
    ("columns", .arr (table.columns.map fun column => .obj column.members)),
    ("primary_key_columns", textArray table.primaryKeyColumns),
    ("foreign_keys", .arr (table.foreignKeys.map fun key => .obj key.members)),
    ("indexes", .arr (table.indexes.map fun index => .obj index.members)),
    ("constraints", .arr (table.constraints.map fun constraint => .obj constraint.members))]

/-- `snapshot.model_dump(mode="json")`. -/
def LegacySqlSchemaSnapshot.dump (snapshot : LegacySqlSchemaSnapshot) (includeRowCounts : Bool) :
    Json :=
  .obj [("connection_fingerprint_hash", .str snapshot.connectionFingerprintHash),
    ("inspected_at_utc", .str snapshot.inspectedAtUtc),
    ("tables", .arr (snapshot.tables.map fun table => .obj (table.members includeRowCounts)))]

def LegacySqlObjectCandidate.dump (candidate : LegacySqlObjectCandidate) : Json :=
  .obj [("source_table_ref", .str candidate.sourceTableRef),
    ("candidate_object_type", .str candidate.candidateObjectType),
    ("confidence", .str candidate.confidence.value), ("reasons", textArray candidate.reasons)]

/-! ## Payloads of rows -/

/-- `forbidden_fragments`. -/
def rawPayloadFragments : List String :=
  ["sample", "preview", "row_values", "rows", "record_values", "data_values"]

def isRawPayloadKey (key : String) : Bool :=
  rawPayloadFragments.any fun fragment => fragment.toList <:+: key.toLower.toList

mutual

/-- `_assert_no_raw_payload`. -/
def assertNoRawPayload (path : String) : Json → Except LegacySqlExn Unit
  | .obj members => assertNoRawMembers path members
  | .arr items => assertNoRawItems path 0 items
  | _ => .ok ()

/-- One pass of the loop over the members. -/
def assertNoRawMembers (path : String) : List (String × Json) → Except LegacySqlExn Unit
  | [] => .ok ()
  | (key, value) :: rest => do
    if isRawPayloadKey key then
      .error (.discoveryError ("raw legacy SQL payload is forbidden at " ++
        if path = "" then key.toLower else path))
    else
      assertNoRawPayload (if path = "" then key else path ++ "." ++ key) value
      assertNoRawMembers path rest

/-- One pass of the loop over the items. -/
def assertNoRawItems (path : String) (index : Nat) : List Json → Except LegacySqlExn Unit
  | [] => .ok ()
  | item :: rest => do
    assertNoRawPayload (path ++ "[" ++ toString index ++ "]") item
    assertNoRawItems path (index + 1) rest

end

/-- Wherever it stands, the value has no payload. -/
def NoRawPayload (value : Json) : Prop := ∀ path, assertNoRawPayload path value = .ok ()

theorem noRawPayload_obj {members : List (String × Json)}
    (h : ∀ member ∈ members, isRawPayloadKey member.1 = false ∧ NoRawPayload member.2) :
    NoRawPayload (.obj members) := by
  intro path
  rw [assertNoRawPayload]
  induction members with
  | nil => rfl
  | cons member rest ih =>
    obtain ⟨key, value⟩ := member
    obtain ⟨hkey, hvalue⟩ := h _ List.mem_cons_self
    rw [assertNoRawMembers, if_neg (by rw [hkey]; exact Bool.false_ne_true), hvalue]
    exact ih fun member hmember => h member (List.mem_cons_of_mem _ hmember)

theorem noRawPayload_arr {items : List Json} (h : ∀ item ∈ items, NoRawPayload item) :
    NoRawPayload (.arr items) := by
  intro path
  rw [assertNoRawPayload]
  generalize 0 = index
  induction items generalizing index with
  | nil => rfl
  | cons item rest ih =>
    rw [assertNoRawItems, h _ List.mem_cons_self]
    exact ih (fun item hitem => h item (List.mem_cons_of_mem _ hitem)) _

theorem noRawPayload_text (text : String) : NoRawPayload (.str text) := fun _ => rfl

theorem noRawPayload_textArray (texts : List String) : NoRawPayload (textArray texts) := by
  refine noRawPayload_arr fun item hitem => ?_
  obtain ⟨text, -, rfl⟩ := List.mem_map.mp hitem
  exact noRawPayload_text text

theorem noRawPayload_optionalInt (value : Option Int) : NoRawPayload (optionalInt value) := by
  intro path
  cases value <;> rfl

/-- Items that are objects without payload. -/
theorem noRawPayload_objects {α : Type} {items : List α} {members : α → List (String × Json)}
    (h : ∀ item, NoRawPayload (.obj (members item))) :
    NoRawPayload (.arr (items.map fun item => .obj (members item))) := by
  refine noRawPayload_arr fun item hitem => ?_
  obtain ⟨a, -, rfl⟩ := List.mem_map.mp hitem
  exact h a

/-- The names of a snapshot's fields. -/
def snapshotKeys : List String :=
  ["name", "ordinal_position", "data_type", "nullable", "max_length", "numeric_precision",
    "numeric_scale", "is_identity", "default_present", "columns", "referenced_schema",
    "referenced_table", "referenced_columns", "unique", "kind", "schema_name", "table_name",
    "relation_kind", "row_count_estimate", "primary_key_columns", "foreign_keys", "indexes",
    "constraints", "connection_fingerprint_hash", "inspected_at_utc", "tables"]

theorem snapshotKeys_safe : ∀ key ∈ snapshotKeys, isRawPayloadKey key = false := by
  decide +kernel

theorem noRawPayload_members {members : List (String × Json)}
    (hkeys : ∀ key ∈ members.map Prod.fst, key ∈ snapshotKeys)
    (hvalues : ∀ value ∈ members.map Prod.snd, NoRawPayload value) :
    NoRawPayload (.obj members) := by
  refine noRawPayload_obj fun member hmember => ⟨snapshotKeys_safe _ (hkeys _ ?_), hvalues _ ?_⟩
  · exact List.mem_map.mpr ⟨member, hmember, rfl⟩
  · exact List.mem_map.mpr ⟨member, hmember, rfl⟩

theorem LegacySqlSchemaSnapshot.noRawPayload (snapshot : LegacySqlSchemaSnapshot)
    (includeRowCounts : Bool) : NoRawPayload (snapshot.dump includeRowCounts) := by
  have hbool : ∀ b, NoRawPayload (.bool b) := fun _ _ => rfl
  have hint : ∀ n, NoRawPayload (.int n) := fun _ _ => rfl
  -- the members of each model have names of their own, and no payload below them
  have hcolumn : ∀ column : LegacySqlColumnMetadata, NoRawPayload (.obj column.members) := by
    intro column
    refine noRawPayload_members (by simp [LegacySqlColumnMetadata.members, snapshotKeys]) ?_
    simp [LegacySqlColumnMetadata.members, noRawPayload_text, noRawPayload_optionalInt, hbool, hint]
  have hkey : ∀ key : LegacySqlForeignKeyMetadata, NoRawPayload (.obj key.members) := by
    intro key
    refine noRawPayload_members (by simp [LegacySqlForeignKeyMetadata.members, snapshotKeys]) ?_
    simp [LegacySqlForeignKeyMetadata.members, noRawPayload_text, noRawPayload_textArray]
  have hindex : ∀ index : LegacySqlIndexMetadata, NoRawPayload (.obj index.members) := by
    intro index
    refine noRawPayload_members (by simp [LegacySqlIndexMetadata.members, snapshotKeys]) ?_
    simp [LegacySqlIndexMetadata.members, noRawPayload_text, noRawPayload_textArray, hbool]
  have hconstraint : ∀ constraint : LegacySqlConstraintMetadata,
      NoRawPayload (.obj constraint.members) := by
    intro constraint
    refine noRawPayload_members (by simp [LegacySqlConstraintMetadata.members, snapshotKeys]) ?_
    simp [LegacySqlConstraintMetadata.members, noRawPayload_text, noRawPayload_textArray]
  have htable : ∀ table : LegacySqlTableMetadata,
      NoRawPayload (.obj (table.members includeRowCounts)) := by
    intro table
    refine noRawPayload_members (by simp [LegacySqlTableMetadata.members, snapshotKeys]) ?_
    simp only [LegacySqlTableMetadata.members, List.map_cons, List.map_nil, List.forall_mem_cons]
    exact ⟨noRawPayload_text _, noRawPayload_text _, noRawPayload_text _,
      noRawPayload_optionalInt _, noRawPayload_objects hcolumn, noRawPayload_textArray _,
      noRawPayload_objects hkey, noRawPayload_objects hindex, noRawPayload_objects hconstraint,
      by simp⟩
  refine noRawPayload_members (by simp [snapshotKeys]) ?_
  simp only [List.map_cons, List.map_nil, List.forall_mem_cons]
  exact ⟨noRawPayload_text _, noRawPayload_text _, noRawPayload_objects htable, by simp⟩

/-! ## Requests -/

def LegacySqlConnectorKind.value : LegacySqlConnectorKind → String
  | .sqlserver => "sqlserver"
  | .postgres => "postgres"
  | .mysql => "mysql"
  | .oracle => "oracle"
  | .sqlite => "sqlite"
  | .unknown => "unknown"

structure LegacySqlDiscoveryRequestFields where
  tenantId          : String
  moduleId          : String
  sourceSystemRef   : String
  connectorKind     : LegacySqlConnectorKind
  requestedBy       : String
  approvalReference : String
  auditChainRef     : String
  includeRowCounts  : Bool := true
  deriving DecidableEq, Repr

namespace LegacySqlDiscoveryRequestFields

def requireNonEmptyText : (field value : String) → List FieldError :=
  requireNotBlank "field must not be empty"

def validateNamespacedRef : (field value : String) → List FieldError :=
  requireFullmatch isKbRef "reference must be namespaced"

def errors (request : LegacySqlDiscoveryRequestFields) : List FieldError :=
  requireNonEmptyText "tenant_id" request.tenantId ++
    requireFullmatch isModuleId "module_id must be lowercase snake_case" "module_id"
      request.moduleId ++
    validateNamespacedRef "source_system_ref" request.sourceSystemRef ++
    requireNonEmptyText "requested_by" request.requestedBy ++
    validateNamespacedRef "approval_reference" request.approvalReference ++
    validateNamespacedRef "audit_chain_ref" request.auditChainRef

end LegacySqlDiscoveryRequestFields

structure LegacySqlDiscoveryRequest extends LegacySqlDiscoveryRequestFields where
  accepted : toLegacySqlDiscoveryRequestFields.errors = []

/-! ## Manifests -/

variable (H : HashFunctions)

structure LegacySqlDiscoveryManifest where
  tenantId          : String
  moduleId          : String
  sourceSystemRef   : String
  connectorKind     : LegacySqlConnectorKind
  requestedBy       : String
  approvalReference : String
  auditChainRef     : String
  inspectedAtUtc    : String
  tableCount        : Nat
  columnCount       : Nat
  estimatedRowCount : Option Int
  snapshotHash      : String
  objectCandidates  : List LegacySqlObjectCandidate
  manifestHash      : String
  schemaVersion     : String := "legacy_sql_discovery.v1"
  deriving DecidableEq, Repr

/-- `"sha256:pending"`. -/
def pendingManifestHash : String := "sha256:pending"

namespace LegacySqlDiscoveryManifest

def errors (manifest : LegacySqlDiscoveryManifest) : List FieldError :=
  requirePositive "table_count" manifest.tableCount ++
    requirePositive "column_count" manifest.columnCount ++
    requireOptional (requireIntAtLeast "estimated_row_count" 0) manifest.estimatedRowCount

/-- `model_dump(mode="json", exclude={"manifest_hash"})`, member by member. -/
def payloadMembers (manifest : LegacySqlDiscoveryManifest) : List (String × Json) :=
  [("tenant_id", .str manifest.tenantId), ("module_id", .str manifest.moduleId),
    ("source_system_ref", .str manifest.sourceSystemRef),
    ("connector_kind", .str manifest.connectorKind.value),
    ("requested_by", .str manifest.requestedBy),
    ("approval_reference", .str manifest.approvalReference),
    ("audit_chain_ref", .str manifest.auditChainRef),
    ("inspected_at_utc", .str manifest.inspectedAtUtc),
    ("table_count", .int manifest.tableCount), ("column_count", .int manifest.columnCount),
    ("estimated_row_count", optionalInt manifest.estimatedRowCount),
    ("snapshot_hash", .str manifest.snapshotHash),
    ("object_candidates", .arr (manifest.objectCandidates.map (·.dump))),
    ("schema_version", .str manifest.schemaVersion)]

end LegacySqlDiscoveryManifest

structure LegacySqlImportEvidencePlan where
  tenantId                  : String
  moduleId                  : String
  sourceSystemRef           : String
  discoveryManifestHash     : String
  candidateCount            : Nat
  quarantineTableRefs       : List String
  approvalRequired          : Bool := true
  dryRunRequired            : Bool := true
  rawDataImportAllowed      : Bool := false
  destructiveActionsAllowed : Bool := false
  manifestHash              : String
  schemaVersion             : String := "legacy_sql_import_evidence_plan.v1"
  deriving DecidableEq, Repr

/-- `model_dump(mode="json", exclude={"manifest_hash"})`, member by member. -/
def LegacySqlImportEvidencePlan.payloadMembers (plan : LegacySqlImportEvidencePlan) :
    List (String × Json) :=
  [("tenant_id", .str plan.tenantId), ("module_id", .str plan.moduleId),
    ("source_system_ref", .str plan.sourceSystemRef),
    ("discovery_manifest_hash", .str plan.discoveryManifestHash),
    ("candidate_count", .int plan.candidateCount),
    ("quarantine_table_refs", textArray plan.quarantineTableRefs),
    ("approval_required", .bool plan.approvalRequired),
    ("dry_run_required", .bool plan.dryRunRequired),
    ("raw_data_import_allowed", .bool plan.rawDataImportAllowed),
    ("destructive_actions_allowed", .bool plan.destructiveActionsAllowed),
    ("schema_version", .str plan.schemaVersion)]

/-! ## The service -/

namespace LegacySqlDiscoveryService

/-- The row counts of the tables that have one, if the request asks for them. -/
def estimatedRowCount (request : LegacySqlDiscoveryRequest) (snapshot : LegacySqlSchemaSnapshot) :
    Option Int :=
  if request.includeRowCounts then some (snapshot.tables.filterMap (·.rowCountEstimate)).sum
  else none

def draftManifest (request : LegacySqlDiscoveryRequest) (snapshot : LegacySqlSchemaSnapshot) :
    LegacySqlDiscoveryManifest where
  tenantId := request.tenantId
  moduleId := request.moduleId
  sourceSystemRef := request.sourceSystemRef
  connectorKind := request.connectorKind
  requestedBy := request.requestedBy
  approvalReference := request.approvalReference
  auditChainRef := request.auditChainRef
  inspectedAtUtc := snapshot.inspectedAtUtc
  tableCount := snapshot.tables.length
  columnCount := (snapshot.tables.map (·.columns.length)).sum
  estimatedRowCount := estimatedRowCount request snapshot
  snapshotHash := stableHash H (Json.canonical (snapshot.dump request.includeRowCounts))
  objectCandidates := snapshot.tables.map candidateForTable
  manifestHash := pendingManifestHash

/-- `build_discovery_manifest`; JSON writes integers of any length here. -/
def buildDiscoveryManifest (request : LegacySqlDiscoveryRequest)
    (snapshot : LegacySqlSchemaSnapshot) : Except LegacySqlExn LegacySqlDiscoveryManifest := do
  assertNoRawPayload "" (snapshot.dump true)
  let draft := draftManifest H request snapshot
  let draft ← ofModel (accept "LegacySqlDiscoveryManifest" draft.errors draft)
  return { draft with manifestHash := stableHash H (Json.canonical (.obj draft.payloadMembers)) }

/-- What the plan quarantines: what is no business object, or unsure. -/
def isQuarantined (candidate : LegacySqlObjectCandidate) : Bool :=
  decide (candidate.candidateObjectType = legacyRow ∨
    candidate.confidence = .low ∨ candidate.confidence = .unknown)

/-- `build_import_evidence_plan`, whose model checks a count that is no less than 0. -/
def buildImportEvidencePlan (manifest : LegacySqlDiscoveryManifest) :
    LegacySqlImportEvidencePlan :=
  let draft : LegacySqlImportEvidencePlan := {
    tenantId := manifest.tenantId
    moduleId := manifest.moduleId
    sourceSystemRef := manifest.sourceSystemRef
    discoveryManifestHash := manifest.manifestHash
    candidateCount := manifest.objectCandidates.length
    quarantineTableRefs := ((manifest.objectCandidates.filter isQuarantined).map
      (·.sourceTableRef)).insertionSort (· ≤ ·)
    manifestHash := pendingManifestHash }
  { draft with manifestHash := stableHash H (Json.canonical (.obj draft.payloadMembers)) }

variable {H}

theorem buildDiscoveryManifest_eq_ok {request : LegacySqlDiscoveryRequest}
    {snapshot : LegacySqlSchemaSnapshot} {manifest : LegacySqlDiscoveryManifest}
    (h : buildDiscoveryManifest H request snapshot = .ok manifest) :
    manifest = { draftManifest H request snapshot with
      manifestHash :=
        stableHash H (Json.canonical (.obj (draftManifest H request snapshot).payloadMembers)) } := by
  unfold buildDiscoveryManifest at h
  obtain ⟨-, -, h⟩ := Except.bind_eq_ok.mp h
  obtain ⟨draft, hdraft, h⟩ := Except.bind_eq_ok.mp h
  obtain ⟨-, rfl⟩ := accept_eq_ok.mp (ofModel_eq_ok.mp hdraft)
  cases h
  rfl

/-- The counts of a snapshot's tables and columns are positive, and no estimate is negative. -/
theorem draftManifest_errors (request : LegacySqlDiscoveryRequest)
    (snapshot : LegacySqlSchemaSnapshot) : (draftManifest H request snapshot).errors = [] := by
  -- every table was accepted: it has columns, and its estimate is not negative
  have hfields : ∀ table ∈ snapshot.tables, table.columns ≠ [] ∧
      ∀ n, table.rowCountEstimate = some n → 0 ≤ n := by
    intro table _
    have herrors := LegacySqlTableMetadataFields.errors_of_validate table.accepted
    simp only [LegacySqlTableMetadataFields.errors, List.append_eq_nil_iff] at herrors
    obtain ⟨⟨⟨-, hcount⟩, hcolumns⟩, -⟩ := herrors
    refine ⟨?_, fun n hn => ?_⟩
    · intro hnil
      rw [LegacySqlTableMetadataFields.requireColumns, if_pos hnil] at hcolumns
      cases hcolumns
    · rw [hn, requireOptional_some, requireIntAtLeast_eq_nil] at hcount
      exact hcount
  -- so that the sums over all tables are positive, or not negative
  have htables : 1 ≤ snapshot.tables.length :=
    List.length_pos_iff.mpr snapshot.unique_tables.1
  have hcolumns : 1 ≤ (snapshot.tables.map (·.columns.length)).sum := by
    obtain ⟨table, rest, hcons⟩ := List.exists_cons_of_ne_nil snapshot.unique_tables.1
    have hpos := List.length_pos_iff.mpr
      (hfields table (by rw [hcons]; exact List.mem_cons_self)).1
    rw [hcons, List.map_cons, List.sum_cons]
    omega
  have hrows : 0 ≤ (snapshot.tables.filterMap (·.rowCountEstimate)).sum := by
    refine List.sum_nonneg fun n hn => ?_
    obtain ⟨table, htable, hcount⟩ := List.mem_filterMap.mp hn
    exact (hfields table htable).2 n hcount
  unfold LegacySqlDiscoveryManifest.errors draftManifest estimatedRowCount
  simp only [List.append_eq_nil_iff, requirePositive_eq_nil]
  refine ⟨⟨htables, hcolumns⟩, ?_⟩
  split
  · rw [requireOptional_some, requireIntAtLeast_eq_nil]
    exact hrows
  · rfl

/-- **Discovery** of a valid snapshot returns. -/
theorem buildDiscoveryManifest_isOk (request : LegacySqlDiscoveryRequest)
    (snapshot : LegacySqlSchemaSnapshot) :
    ∃ manifest, buildDiscoveryManifest H request snapshot = .ok manifest := by
  unfold buildDiscoveryManifest
  rw [snapshot.noRawPayload true ""]
  have haccept : accept "LegacySqlDiscoveryManifest" (draftManifest H request snapshot).errors
      (draftManifest H request snapshot) = .ok (draftManifest H request snapshot) :=
    accept_eq_ok.mpr ⟨draftManifest_errors request snapshot, rfl⟩
  exact ⟨_, Except.bind_eq_ok.mpr ⟨(), rfl, Except.bind_eq_ok.mpr
    ⟨_, ofModel_eq_ok.mpr haccept, rfl⟩⟩⟩

end LegacySqlDiscoveryService

end Collabio
