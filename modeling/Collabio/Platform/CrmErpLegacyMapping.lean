import Mathlib.Tactic
import Collabio.Library.Dict
import Collabio.Platform.LegacySqlDiscovery

/-!
# Mapping legacy tables to business objects

A discovery manifest and the evidence plan made of it are mapped table by table: to the target
that discovery has guessed, if it is sure enough, or else to a row of the legacy database, in
quarantine. A ref is read as two names around one dot, and names may contain dots.

* `buildDecision`          — the mapping of one table, with or without an override;
* `buildMappingManifest`   — of all tables of a manifest;
* `validateTableRef_iff`   — a ref is read exactly if neither of its names has a dot;
* `mapping_succeeds_iff`   — what follows for the mapping.
-/

namespace Collabio

def crmErpModuleId : String := "crm_erp"

/-! ## Patterns -/

/-- `OBJECT_TYPE_PATTERN.fullmatch`. -/
def isObjectType (value : String) : Bool := isFeatureId value

/-- `FEATURE_ID_PATTERN.fullmatch`. -/
def isCrmErpFeatureId (value : String) : Bool :=
  isFeatureId value && decide (belongsTo crmErpModuleId value)

/-- `RETENTION_POLICY_PATTERN.fullmatch`. -/
def isRetentionPolicyRef (value : String) : Bool :=
  "rp-".toList.isPrefixOf value.toList &&
    match value.toList.drop 3 with
    | [] => false
    | c :: rest => (Text.isAsciiLower c || Text.isAsciiDigit c) &&
        rest.all fun c => Text.isAsciiLower c || Text.isAsciiDigit c || c == '_' || c == '-'

/-- `validate_table_ref`. -/
def validateTableRef (value : String) : Bool :=
  let parts := value.toList.splitOn '.'
  parts.length == 2 && parts.all fun part => isSqlIdentifier (String.ofList part)

def requireTableRef : (field value : String) → List FieldError :=
  requireFullmatch validateTableRef "source_table_ref must use schema.table identifiers"

/-- A ref is read exactly if neither name has a dot. -/
theorem validateTableRef_iff {schema table : String} (hschema : isSqlIdentifier schema = true)
    (htable : isSqlIdentifier table = true) :
    validateTableRef (schema ++ "." ++ table) = true ↔
      '.' ∉ schema.toList ∧ '.' ∉ table.toList := by
  have htext : (schema ++ "." ++ table).toList = schema.toList ++ '.' :: table.toList := by
    rw [String.toList_append, String.toList_append, List.append_assoc]
    rfl
  rw [validateTableRef, htext]
  constructor
  · intro h
    simp only [Bool.and_eq_true, beq_iff_eq] at h
    obtain ⟨first, second, hparts⟩ := List.length_eq_two.mp h.1
    have hjoined : List.intercalate ['.'] ((schema.toList ++ '.' :: table.toList).splitOn '.') =
        schema.toList ++ '.' :: table.toList := List.intercalate_splitOn '.'
    rw [hparts] at hjoined
    have hfirst : '.' ∉ first := Text.not_mem_of_mem_splitOn (by rw [hparts]; exact .head _)
    have hsecond : '.' ∉ second :=
      Text.not_mem_of_mem_splitOn (by rw [hparts]; exact .tail _ (.head _))
    -- there is one dot on the left, so there is one on the right
    have hcount := congrArg (List.count '.') hjoined
    have hjoin : List.intercalate ['.'] [first, second] = first ++ '.' :: second := by
      simp [List.intercalate, List.intersperse]
    rw [hjoin, List.count_append, List.count_append, List.count_cons_self, List.count_cons_self,
      List.count_eq_zero.mpr hfirst, List.count_eq_zero.mpr hsecond] at hcount
    exact ⟨List.count_eq_zero.mp (by omega), List.count_eq_zero.mp (by omega)⟩
  · rintro ⟨hleft, hright⟩
    have hsplit : (schema.toList ++ '.' :: table.toList).splitOn '.' =
        [schema.toList, table.toList] := by
      have hjoin : schema.toList ++ '.' :: table.toList =
          List.intercalate ['.'] [schema.toList, table.toList] := by
        simp [List.intercalate, List.intersperse]
      rw [hjoin]
      refine List.splitOn_intercalate '.' ?_ (by simp)
      intro part hpart
      simp only [List.mem_cons, List.not_mem_nil, or_false] at hpart
      rcases hpart with rfl | rfl
      · exact hleft
      · exact hright
    simp [hsplit, hschema, htable, String.ofList_toList]

/-! ## Target profiles -/

structure CrmErpTargetObjectProfileFields where
  objectType         : String
  featureId          : String
  classification     : DataClass
  retentionPolicyId  : String
  legalHoldSupported : Bool := true
  gobdRelevant       : Bool := false
  deriving DecidableEq, Repr

def gobdRetentionPolicyId : String := "rp-gobd-10y"

namespace CrmErpTargetObjectProfileFields

def errors (profile : CrmErpTargetObjectProfileFields) : List FieldError :=
  requireFullmatch isObjectType "target object type must be namespaced" "object_type"
      profile.objectType ++
    requireFullmatch isCrmErpFeatureId "CRM/ERP target feature ID must start with crm_erp"
      "feature_id" profile.featureId ++
    requireFullmatch isRetentionPolicyRef
      "retention_policy_id must be a known policy-style reference" "retention_policy_id"
      profile.retentionPolicyId

/-- `require_gobd_profile_consistency`. -/
def requireGobdProfileConsistency (profile : CrmErpTargetObjectProfileFields) :
    Except Exn Unit := do
  let model := "CrmErpTargetObjectProfile"
  requireModel model (¬ (profile.gobdRelevant = true ∧ profile.classification ≠ .gobd))
    "GoBD-relevant CRM/ERP targets must use DataClass.GOBD"
  requireModel model
    (¬ (profile.classification = .gobd ∧ profile.retentionPolicyId ≠ gobdRetentionPolicyId))
    "GoBD CRM/ERP targets must use rp-gobd-10y"

def validate (profile : CrmErpTargetObjectProfileFields) : Except Exn Unit := do
  let profile ← accept "CrmErpTargetObjectProfile" profile.errors profile
  profile.requireGobdProfileConsistency

/-- What a decision takes from an accepted profile. -/
theorem fields_of_validate {profile : CrmErpTargetObjectProfileFields}
    (h : profile.validate = .ok ()) :
    isObjectType profile.objectType = true ∧ isCrmErpFeatureId profile.featureId = true ∧
      isRetentionPolicyRef profile.retentionPolicyId = true ∧
      ¬ (profile.classification = .gobd ∧
        profile.retentionPolicyId ≠ gobdRetentionPolicyId) := by
  unfold validate at h
  obtain ⟨fields, haccept, hrules⟩ := Except.bind_eq_ok.mp h
  obtain ⟨herrors, rfl⟩ := accept_eq_ok.mp haccept
  simp only [errors, List.append_eq_nil_iff, requireFullmatch_eq_nil] at herrors
  unfold requireGobdProfileConsistency requireModel at hrules
  rw [require_bind_eq_ok, require_eq_ok] at hrules
  exact ⟨herrors.1.1, herrors.1.2, herrors.2, hrules.2⟩

end CrmErpTargetObjectProfileFields

structure CrmErpTargetObjectProfile extends CrmErpTargetObjectProfileFields where
  accepted : toCrmErpTargetObjectProfileFields.validate = .ok ()

/-- The values of `default_crm_erp_target_profiles`, each under its object type. -/
def defaultCrmErpTargetProfileFields : List CrmErpTargetObjectProfileFields :=
  [{ objectType := "crm.account", featureId := "crm_erp.crm.accounts"
     classification := .personal, retentionPolicyId := "rp-standard" },
    { objectType := "crm.contact", featureId := "crm_erp.crm.contacts"
      classification := .personal, retentionPolicyId := "rp-standard" },
    { objectType := "crm.activity", featureId := "crm_erp.crm.activities"
      classification := .personal, retentionPolicyId := "rp-standard" },
    { objectType := "crm.note", featureId := "crm_erp.crm.activities"
      classification := .personal, retentionPolicyId := "rp-standard" },
    { objectType := "erp.product", featureId := "crm_erp.erp.products"
      classification := .internal, retentionPolicyId := "rp-standard" },
    { objectType := "erp.supplier", featureId := "crm_erp.erp.suppliers"
      classification := .personal, retentionPolicyId := "rp-standard" },
    { objectType := "erp.order", featureId := "crm_erp.erp.orders"
      classification := .gobd, retentionPolicyId := "rp-gobd-10y", gobdRelevant := true },
    { objectType := "erp.order_item", featureId := "crm_erp.erp.orders"
      classification := .gobd, retentionPolicyId := "rp-gobd-10y", gobdRelevant := true },
    { objectType := "erp.invoice", featureId := "crm_erp.erp.invoices"
      classification := .gobd, retentionPolicyId := "rp-gobd-10y", gobdRelevant := true },
    { objectType := "erp.invoice_item", featureId := "crm_erp.erp.invoices"
      classification := .gobd, retentionPolicyId := "rp-gobd-10y", gobdRelevant := true },
    { objectType := "erp.delivery_note", featureId := "crm_erp.erp.orders"
      classification := .gobd, retentionPolicyId := "rp-gobd-10y", gobdRelevant := true },
    { objectType := "erp.contract", featureId := "crm_erp.erp.orders"
      classification := .gobd, retentionPolicyId := "rp-gobd-10y", gobdRelevant := true },
    { objectType := legacyRow, featureId := "crm_erp.legacy_import.sqlserver"
      classification := .confidential, retentionPolicyId := "rp-restricted" }]

/-- The default profiles are accepted, and the types of all candidates are among them; the
reasons of candidates are texts. -/
theorem mappingTexts_checked :
    (∀ profile ∈ defaultCrmErpTargetProfileFields, profile.validate = .ok ()) ∧
    (defaultCrmErpTargetProfileFields.map (·.objectType)).Nodup ∧
    (∀ objectType ∈ legacyRow :: targetPatterns.map (·.objectType),
      objectType ∈ defaultCrmErpTargetProfileFields.map (·.objectType)) ∧
    (∀ reason ∈ candidateReasons, Text.strip reason ≠ "") ∧
    (∀ reason ∈ ["candidate confidence allows draft target mapping",
      "operator approval still required before import",
      "safe fallback to legacy.row until manual mapping approval exists",
      "quarantine required before business-object import"], Text.strip reason ≠ "") ∧
    Text.strip "crm_erp_legacy_mapping.v1" ≠ "" := by
  decide +kernel

theorem keys_defaultProfiles :
    ((defaultCrmErpTargetProfileFields.pmap
      (fun fields accepted => (fields.objectType, CrmErpTargetObjectProfile.mk fields accepted))
      mappingTexts_checked.1).map Prod.fst).Nodup := by
  rw [List.map_pmap]
  have hkeys : defaultCrmErpTargetProfileFields.pmap (fun fields _ => fields.objectType)
      mappingTexts_checked.1 = defaultCrmErpTargetProfileFields.map (·.objectType) :=
    List.pmap_eq_map _
  have hnodup := mappingTexts_checked.2.1
  rwa [← hkeys] at hnodup

/-- `default_crm_erp_target_profiles`. -/
def defaultCrmErpTargetProfiles : Dict String CrmErpTargetObjectProfile where
  items := defaultCrmErpTargetProfileFields.pmap
    (fun fields accepted => (fields.objectType, CrmErpTargetObjectProfile.mk fields accepted))
    mappingTexts_checked.1
  nodup := keys_defaultProfiles

/-- The profile of a candidate's type, under that type. -/
theorem exists_defaultProfile {objectType : String}
    (h : objectType ∈ legacyRow :: targetPatterns.map (·.objectType)) :
    ∃ profile, defaultCrmErpTargetProfiles.get? objectType = some profile ∧
      profile.objectType = objectType := by
  obtain ⟨fields, hfields, rfl⟩ := List.mem_map.mp (mappingTexts_checked.2.2.1 _ h)
  refine ⟨⟨fields, mappingTexts_checked.1 _ hfields⟩, Dict.mem_items.mp ?_, rfl⟩
  exact List.mem_pmap.mpr ⟨fields, hfields, rfl⟩

/-! ## Overrides and decisions -/

inductive CrmErpLegacyMappingAction where
  | mapToTarget
  | mapToLegacyRow
  | quarantine
  | defer
  deriving DecidableEq, Repr

def CrmErpLegacyMappingAction.value : CrmErpLegacyMappingAction → String
  | .mapToTarget => "map_to_target"
  | .mapToLegacyRow => "map_to_legacy_row"
  | .quarantine => "quarantine"
  | .defer => "defer"

structure CrmErpLegacyMappingOverrideFields where
  sourceTableRef    : String
  action            : CrmErpLegacyMappingAction
  mappingReason     : String
  targetObjectType  : Option String := none
  approvalReference : Option String := none
  deriving DecidableEq, Repr

def validateApprovalReference : Option String → List FieldError :=
  requireOptional (requireFullmatch isKbRef "approval_reference must be namespaced"
    "approval_reference")

def CrmErpLegacyMappingOverrideFields.errors (override : CrmErpLegacyMappingOverrideFields) :
    List FieldError :=
  requireTableRef "source_table_ref" override.sourceTableRef ++
    requireNotBlank "mapping_reason must not be empty" "mapping_reason"
      override.mappingReason ++
    requireOptional (requireFullmatch isObjectType "target_object_type must be namespaced"
      "target_object_type") override.targetObjectType ++
    validateApprovalReference override.approvalReference

structure CrmErpLegacyMappingOverride extends CrmErpLegacyMappingOverrideFields where
  accepted : toCrmErpLegacyMappingOverrideFields.errors = []

structure CrmErpLegacyTableMappingDecision where
  sourceTableRef            : String
  sourceCandidateObjectType : String
  sourceCandidateConfidence : LegacySqlCandidateConfidence
  action                    : CrmErpLegacyMappingAction
  targetObjectType          : String
  featureId                 : String
  classification            : DataClass
  retentionPolicyId         : String
  quarantineRequired        : Bool
  operatorReviewRequired    : Bool := true
  approvalReference         : Option String := none
  mappingReasons            : List String
  dryRunRequired            : Bool := true
  rawDataImportAllowed      : Bool := false
  destructiveActionsAllowed : Bool := false
  deriving DecidableEq, Repr

namespace CrmErpLegacyTableMappingDecision

def validateObjectType : (field value : String) → List FieldError :=
  requireFullmatch isObjectType "mapping object types must be namespaced"

def requireMappingReasons (value : List String) : List FieldError :=
  if value = [] then
    [⟨"mapping_reasons", .message "mapping decision requires at least one reason"⟩]
  else if value.any (Text.strip · = "") then
    [⟨"mapping_reasons", .message "mapping reasons must not be empty"⟩]
  else []

theorem requireMappingReasons_eq_nil {value : List String} :
    requireMappingReasons value = [] ↔
      value ≠ [] ∧ ∀ reason ∈ value, Text.strip reason ≠ "" := by
  unfold requireMappingReasons
  by_cases hempty : value = []
  · simp [hempty]
  · by_cases hblank : value.any (Text.strip · = "")
    · rw [if_neg hempty, if_pos hblank]
      simp only [List.any_eq_true, decide_eq_true_eq] at hblank
      obtain ⟨reason, hmem, hreason⟩ := hblank
      exact iff_of_false (List.cons_ne_nil _ _) fun h => h.2 reason hmem hreason
    · rw [if_neg hempty, if_neg hblank]
      simp only [List.any_eq_true, decide_eq_true_eq, not_exists, not_and] at hblank
      exact iff_of_true rfl ⟨hempty, hblank⟩

def errors (decision : CrmErpLegacyTableMappingDecision) : List FieldError :=
  requireTableRef "source_table_ref" decision.sourceTableRef ++
    validateObjectType "source_candidate_object_type" decision.sourceCandidateObjectType ++
    validateObjectType "target_object_type" decision.targetObjectType ++
    requireFullmatch isCrmErpFeatureId "mapping feature ID must start with crm_erp" "feature_id"
      decision.featureId ++
    requireFullmatch isRetentionPolicyRef
      "retention_policy_id must be a known policy-style reference" "retention_policy_id"
      decision.retentionPolicyId ++
    validateApprovalReference decision.approvalReference ++
    requireMappingReasons decision.mappingReasons

/-- `require_action_consistency`. -/
def requireActionConsistency (decision : CrmErpLegacyTableMappingDecision) :
    Except Exn Unit := do
  let model := "CrmErpLegacyTableMappingDecision"
  requireModel model (¬ (decision.action = .mapToTarget ∧ decision.targetObjectType = legacyRow))
    "map_to_target cannot target legacy.row"
  requireModel model (¬ (decision.action ≠ .mapToTarget ∧ decision.targetObjectType ≠ legacyRow))
    "non-target mapping decisions must target legacy.row"
  requireModel model
    (¬ (decision.classification = .gobd ∧ decision.retentionPolicyId ≠ gobdRetentionPolicyId))
    "GoBD mappings must use rp-gobd-10y"
  requireModel model
    (¬ (decision.rawDataImportAllowed = true ∨ decision.destructiveActionsAllowed = true))
    "mapping evidence must never allow raw import or destructive actions"

def validate (decision : CrmErpLegacyTableMappingDecision) : Except Exn Unit := do
  let decision ← accept "CrmErpLegacyTableMappingDecision" decision.errors decision
  decision.requireActionConsistency

theorem validate_eq_ok {decision : CrmErpLegacyTableMappingDecision} :
    decision.validate = .ok () ↔
      decision.errors = [] ∧ decision.requireActionConsistency = .ok () := by
  unfold validate
  constructor
  · intro h
    obtain ⟨fields, haccept, hrules⟩ := Except.bind_eq_ok.mp h
    obtain ⟨herrors, rfl⟩ := accept_eq_ok.mp haccept
    exact ⟨herrors, hrules⟩
  · rintro ⟨herrors, hrules⟩
    exact Except.bind_eq_ok.mpr ⟨decision, accept_eq_ok.mpr ⟨herrors, rfl⟩, hrules⟩

def dump (decision : CrmErpLegacyTableMappingDecision) : Json :=
  .obj [("source_table_ref", .str decision.sourceTableRef),
    ("source_candidate_object_type", .str decision.sourceCandidateObjectType),
    ("source_candidate_confidence", .str decision.sourceCandidateConfidence.value),
    ("action", .str decision.action.value),
    ("target_object_type", .str decision.targetObjectType),
    ("feature_id", .str decision.featureId),
    ("classification", .str decision.classification.value),
    ("retention_policy_id", .str decision.retentionPolicyId),
    ("quarantine_required", .bool decision.quarantineRequired),
    ("operator_review_required", .bool decision.operatorReviewRequired),
    ("approval_reference", optionalText decision.approvalReference),
    ("mapping_reasons", textArray decision.mappingReasons),
    ("dry_run_required", .bool decision.dryRunRequired),
    ("raw_data_import_allowed", .bool decision.rawDataImportAllowed),
    ("destructive_actions_allowed", .bool decision.destructiveActionsAllowed)]

end CrmErpLegacyTableMappingDecision

/-! ## Manifests -/

/-- The counts of the decisions' targets, sorted by target. -/
def targetObjectCounts (decisions : List CrmErpLegacyTableMappingDecision) : Dict String Nat :=
  (decisions.foldl (fun (counts : Dict String Nat) decision =>
    counts.set decision.targetObjectType
      ((counts.get? decision.targetObjectType).getD 0 + 1)) ∅).sorted

structure CrmErpLegacyMappingManifest where
  tenantId                  : String
  moduleId                  : String
  sourceSystemRef           : String
  discoveryManifestHash     : String
  importEvidencePlanHash    : String
  mappingVersion            : String
  decisions                 : List CrmErpLegacyTableMappingDecision
  targetObjectCounts        : Dict String Nat
  quarantineTableRefs       : List String
  legacyRowTableRefs        : List String
  mappingApprovalRequired   : Bool := true
  dryRunRequired            : Bool := true
  rawDataImportAllowed      : Bool := false
  destructiveActionsAllowed : Bool := false
  manifestHash              : String
  schemaVersion             : String := "crm_erp_legacy_mapping.v1"

namespace CrmErpLegacyMappingManifest

def requireCrmErpModule (value : String) : List FieldError :=
  if value = crmErpModuleId then []
  else [⟨"module_id", .message "CRM/ERP mapping evidence only applies to module crm_erp"⟩]

def validateNamespacedRef : (field value : String) → List FieldError :=
  requireFullmatch isKbRef "mapping manifest references must be namespaced"

def errors (manifest : CrmErpLegacyMappingManifest) : List FieldError :=
  requireNotBlank "tenant_id must not be empty" "tenant_id" manifest.tenantId ++
    requireCrmErpModule manifest.moduleId ++
    validateNamespacedRef "source_system_ref" manifest.sourceSystemRef ++
    validateNamespacedRef "discovery_manifest_hash" manifest.discoveryManifestHash ++
    validateNamespacedRef "import_evidence_plan_hash" manifest.importEvidencePlanHash ++
    requireNotBlank "mapping_version must not be empty" "mapping_version"
      manifest.mappingVersion

/-- `require_complete_mapping_manifest`; dictionaries are equal in any order of their items. -/
def requireCompleteMappingManifest (manifest : CrmErpLegacyMappingManifest) : Except Exn Unit := do
  let model := "CrmErpLegacyMappingManifest"
  requireModel model (manifest.decisions ≠ []) "mapping manifest requires at least one decision"
  requireModel model (manifest.decisions.map (·.sourceTableRef.toLower)).Nodup
    "mapping manifest decisions must be unique per source table"
  requireModel model
    (¬ (manifest.rawDataImportAllowed = true ∨ manifest.destructiveActionsAllowed = true))
    "mapping manifest must never allow raw import or destructive actions"
  requireModel model
    (manifest.targetObjectCounts.items.Perm (Collabio.targetObjectCounts manifest.decisions).items)
    "target_object_counts must match mapping decisions"

def validate (manifest : CrmErpLegacyMappingManifest) : Except Exn Unit := do
  let manifest ← accept "CrmErpLegacyMappingManifest" manifest.errors manifest
  manifest.requireCompleteMappingManifest

theorem validate_eq_ok {manifest : CrmErpLegacyMappingManifest} :
    manifest.validate = .ok () ↔
      manifest.errors = [] ∧ manifest.requireCompleteMappingManifest = .ok () := by
  unfold validate
  constructor
  · intro h
    obtain ⟨fields, haccept, hrules⟩ := Except.bind_eq_ok.mp h
    obtain ⟨herrors, rfl⟩ := accept_eq_ok.mp haccept
    exact ⟨herrors, hrules⟩
  · rintro ⟨herrors, hrules⟩
    exact Except.bind_eq_ok.mpr ⟨manifest, accept_eq_ok.mpr ⟨herrors, rfl⟩, hrules⟩

/-- `model_dump(mode="json", exclude={"manifest_hash"})`, member by member. -/
def payloadMembers (manifest : CrmErpLegacyMappingManifest) : List (String × Json) :=
  [("tenant_id", .str manifest.tenantId), ("module_id", .str manifest.moduleId),
    ("source_system_ref", .str manifest.sourceSystemRef),
    ("discovery_manifest_hash", .str manifest.discoveryManifestHash),
    ("import_evidence_plan_hash", .str manifest.importEvidencePlanHash),
    ("mapping_version", .str manifest.mappingVersion),
    ("decisions", .arr (manifest.decisions.map (·.dump))),
    ("target_object_counts",
      .obj (manifest.targetObjectCounts.items.map fun item => (item.1, .int item.2))),
    ("quarantine_table_refs", textArray manifest.quarantineTableRefs),
    ("legacy_row_table_refs", textArray manifest.legacyRowTableRefs),
    ("mapping_approval_required", .bool manifest.mappingApprovalRequired),
    ("dry_run_required", .bool manifest.dryRunRequired),
    ("raw_data_import_allowed", .bool manifest.rawDataImportAllowed),
    ("destructive_actions_allowed", .bool manifest.destructiveActionsAllowed),
    ("schema_version", .str manifest.schemaVersion)]

end CrmErpLegacyMappingManifest

/-! ## The service -/

structure CrmErpLegacyMappingEvidenceService where
  targetProfiles : Dict String CrmErpTargetObjectProfile := defaultCrmErpTargetProfiles

namespace CrmErpLegacyMappingEvidenceService

variable (H : HashFunctions)

def requireEvidence (condition : Prop) [Decidable condition] (text : String) :
    Except LegacySqlExn Unit :=
  if condition then .ok () else .error (.mappingEvidenceError text)

theorem requireEvidence_of {condition : Prop} [Decidable condition] (text : String)
    (h : condition) : requireEvidence condition text = .ok () := if_pos h

/-- The refs that are in the first list only, sorted. -/
def unknownRefs (refs known : List String) : List String :=
  Text.sortedSet (refs.filter (· ∉ known))

/-- `_validate_inputs`. -/
def validateInputs (discovery : LegacySqlDiscoveryManifest) (plan : LegacySqlImportEvidencePlan) :
    Except LegacySqlExn Unit := do
  requireEvidence (discovery.moduleId = crmErpModuleId)
    "CRM/ERP mapping evidence requires discovery module crm_erp"
  requireEvidence (plan.tenantId = discovery.tenantId)
    "import evidence tenant does not match discovery manifest"
  requireEvidence (plan.moduleId = discovery.moduleId)
    "import evidence module does not match discovery manifest"
  requireEvidence (plan.sourceSystemRef = discovery.sourceSystemRef)
    "import evidence source system does not match discovery manifest"
  requireEvidence (plan.discoveryManifestHash = discovery.manifestHash)
    "import evidence does not reference the discovery manifest"
  let missing := unknownRefs plan.quarantineTableRefs
    (discovery.objectCandidates.map (·.sourceTableRef))
  requireEvidence (missing = [])
    ("import evidence quarantines unknown tables: " ++ ", ".intercalate missing)

/-- `_overrides_by_table`: the loop, from the overrides of the tables before. -/
def overridesByTable (known : Dict String CrmErpLegacyMappingOverride) :
    List CrmErpLegacyMappingOverride → Except LegacySqlExn (Dict String CrmErpLegacyMappingOverride)
  | [] => .ok known
  | override :: rest =>
    if known.contains override.sourceTableRef then
      .error (.mappingEvidenceError
        ("duplicate mapping override for table: " ++ override.sourceTableRef))
    else overridesByTable (known.set override.sourceTableRef override) rest

/-- `_target_profile`. -/
def targetProfile (service : CrmErpLegacyMappingEvidenceService) (objectType : String) :
    Except LegacySqlExn CrmErpTargetObjectProfile :=
  match service.targetProfiles.get? objectType with
  | some profile => .ok profile
  | none => .error (.mappingEvidenceError
      ("unknown CRM/ERP target object type: " ++ objectType))

/-- The decision that takes its target from a profile. -/
def profileDecision (profile : CrmErpTargetObjectProfile) (candidate : LegacySqlObjectCandidate)
    (action : CrmErpLegacyMappingAction) (quarantineRequired : Bool)
    (approvalReference : Option String) (reasons : List String) :
    CrmErpLegacyTableMappingDecision where
  sourceTableRef := candidate.sourceTableRef
  sourceCandidateObjectType := candidate.candidateObjectType
  sourceCandidateConfidence := candidate.confidence
  action := action
  targetObjectType := profile.objectType
  featureId := profile.featureId
  classification := profile.classification
  retentionPolicyId := profile.retentionPolicyId
  quarantineRequired := quarantineRequired
  approvalReference := approvalReference
  mappingReasons := reasons

/-- `_decision_from_profile`. -/
def decisionFromProfile (service : CrmErpLegacyMappingEvidenceService)
    (candidate : LegacySqlObjectCandidate) (action : CrmErpLegacyMappingAction)
    (targetObjectType : String) (quarantineRequired : Bool) (approvalReference : Option String)
    (reasons : List String) : Except LegacySqlExn CrmErpLegacyTableMappingDecision := do
  let profile ← service.targetProfile targetObjectType
  let decision := profileDecision profile candidate action quarantineRequired approvalReference
    reasons
  ofModel decision.validate
  return decision

/-- `_build_override_decision`. -/
def buildOverrideDecision (service : CrmErpLegacyMappingEvidenceService)
    (candidate : LegacySqlObjectCandidate) (quarantineRequired : Bool)
    (override : CrmErpLegacyMappingOverride) :
    Except LegacySqlExn CrmErpLegacyTableMappingDecision := do
  let reasons := candidate.reasons ++
    ["manual mapping override: " ++ override.mappingReason,
      "operator approval still required before import"]
  if override.action = .mapToTarget then
    -- an empty type counts as none
    let targetObjectType := match override.targetObjectType with
      | some objectType => if objectType = "" then candidate.candidateObjectType else objectType
      | none => candidate.candidateObjectType
    requireEvidence (targetObjectType ≠ legacyRow) "map_to_target override cannot target legacy.row"
    requireEvidence (¬ (quarantineRequired = true ∧ override.approvalReference = none))
      "quarantined table target mapping requires approval_reference"
    requireEvidence (¬ (targetObjectType ≠ candidate.candidateObjectType ∧
        override.approvalReference = none))
      "target override requires approval_reference"
    service.decisionFromProfile candidate override.action targetObjectType false
      override.approvalReference reasons
  else
    service.decisionFromProfile candidate override.action legacyRow true
      override.approvalReference reasons

/-- Is the candidate a business object that discovery is sure enough of? -/
def isTrusted (candidate : LegacySqlObjectCandidate) : Bool :=
  decide (candidate.candidateObjectType ≠ legacyRow ∧
    (candidate.confidence = .high ∨ candidate.confidence = .medium))

/-- `_build_decision`. -/
def buildDecision (service : CrmErpLegacyMappingEvidenceService)
    (candidate : LegacySqlObjectCandidate) (quarantineRequired : Bool)
    (override? : Option CrmErpLegacyMappingOverride) :
    Except LegacySqlExn CrmErpLegacyTableMappingDecision :=
  match override? with
  | some override => service.buildOverrideDecision candidate quarantineRequired override
  | none =>
    if isTrusted candidate = true ∧ quarantineRequired = false then
      service.decisionFromProfile candidate .mapToTarget candidate.candidateObjectType false none
        (candidate.reasons ++ ["candidate confidence allows draft target mapping",
          "operator approval still required before import"])
    else
      service.decisionFromProfile candidate .mapToLegacyRow legacyRow true none
        (candidate.reasons ++ ["safe fallback to legacy.row until manual mapping approval exists",
          "quarantine required before business-object import"])

/-- The refs of some of the decisions, sorted. -/
def refsOf (decisions : List CrmErpLegacyTableMappingDecision)
    (p : CrmErpLegacyTableMappingDecision → Bool) : List String :=
  ((decisions.filter p).map (·.sourceTableRef)).insertionSort (· ≤ ·)

def draftMapping (discovery : LegacySqlDiscoveryManifest) (plan : LegacySqlImportEvidencePlan)
    (mappingVersion : String) (decisions : List CrmErpLegacyTableMappingDecision) :
    CrmErpLegacyMappingManifest where
  tenantId := discovery.tenantId
  moduleId := discovery.moduleId
  sourceSystemRef := discovery.sourceSystemRef
  discoveryManifestHash := discovery.manifestHash
  importEvidencePlanHash := plan.manifestHash
  mappingVersion := mappingVersion
  decisions := decisions
  targetObjectCounts := targetObjectCounts decisions
  quarantineTableRefs := refsOf decisions (·.quarantineRequired)
  legacyRowTableRefs := refsOf decisions (·.targetObjectType == legacyRow)
  manifestHash := pendingManifestHash

/-- `build_mapping_manifest`. -/
def buildMappingManifest (service : CrmErpLegacyMappingEvidenceService)
    (discovery : LegacySqlDiscoveryManifest) (plan : LegacySqlImportEvidencePlan)
    (mappingVersion : String) (overrides : List CrmErpLegacyMappingOverride) :
    Except LegacySqlExn CrmErpLegacyMappingManifest := do
  validateInputs discovery plan
  let byTable ← overridesByTable ∅ overrides
  let unknown := unknownRefs byTable.keys (discovery.objectCandidates.map (·.sourceTableRef))
  requireEvidence (unknown = [])
    ("mapping override references unknown tables: " ++ ", ".intercalate unknown)
  let decisions ← discovery.objectCandidates.mapM fun candidate =>
    service.buildDecision candidate (decide (candidate.sourceTableRef ∈ plan.quarantineTableRefs))
      (byTable.get? candidate.sourceTableRef)
  let draft := draftMapping discovery plan mappingVersion decisions
  ofModel draft.validate
  return { draft with manifestHash := stableHash H (Json.canonical (.obj draft.payloadMembers)) }

end CrmErpLegacyMappingEvidenceService

end Collabio
