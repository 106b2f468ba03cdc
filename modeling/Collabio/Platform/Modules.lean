import Mathlib.Tactic
import Collabio.Library.Dict
import Collabio.Library.Effect
import Collabio.Platform.Validation

/-!
# The module registry

Which business modules a tenant has, and in which state of their life cycle.

* `ModuleCatalogEntry`  — what is deployed, with the migrations a module needs;
* `TenantModule`        — a tenant's module state together with the proof that
  its validator accepts it;
* `ModuleRegistry`      — the catalog and the tenant modules, each filed under
  its own key and installed;
* `provisionTenantModule` … `completeDecommission` — the nine operations;
* `requireModuleGate`   — what APIs and workers ask before they run;
* `defaultModuleRegistry`.

Every operation computes the next state from the registry, has it validated and
stores it (`transition`); the constant `schema_version` fields are left out, and
of a catalog entry only what the registry reads is kept.
-/

namespace Collabio

/-! ## Enumerations and key sets -/

inductive ModuleStatus where
  | notInstalled | installed | available | provisioning | enabled | disabled | suspended
  | decommissionRequested | decommissionBlocked | decommissioned
  deriving DecidableEq, Repr

def ModuleStatus.value : ModuleStatus → String
  | .notInstalled => "not_installed"
  | .installed => "installed"
  | .available => "available"
  | .provisioning => "provisioning"
  | .enabled => "enabled"
  | .disabled => "disabled"
  | .suspended => "suspended"
  | .decommissionRequested => "decommission_requested"
  | .decommissionBlocked => "decommission_blocked"
  | .decommissioned => "decommissioned"

inductive ModuleGateSurface where
  | normalApi | complianceApi | featureWorker | complianceWorker
  deriving DecidableEq, Repr

def normalUseStatus : ModuleStatus := .enabled

def complianceAccessStatuses : List ModuleStatus :=
  [.enabled, .disabled, .suspended, .decommissionRequested, .decommissionBlocked]

/-- The statuses of the decommission workflow, which enabling, disabling and suspending refuse. -/
def decommissionStatuses : List ModuleStatus :=
  [.decommissionRequested, .decommissionBlocked, .decommissioned]

/-- The statuses in which a module counts as provisioned already. -/
def provisionedStatuses : List ModuleStatus :=
  [.enabled, .disabled, .suspended, .decommissionRequested, .decommissionBlocked, .decommissioned]

def requiredDecommissionEvidenceKeys : List String :=
  ["retention_evaluation_ref", "legal_hold_check_ref", "export_archive_decision_ref",
    "audit_evidence_ref", "backup_restore_evidence_ref"]

def requiredDecommissionBlockerEvidenceKeys : List String :=
  ["blocker_report_ref", "remediation_plan_ref"]

def requiredDecommissionCompletionEvidenceKeys : List String :=
  ["final_retention_disposition_ref", "final_legal_hold_clearance_ref",
    "final_export_archive_manifest_ref", "final_audit_closure_ref",
    "final_backup_disposition_ref", "final_data_disposition_ref"]

def requiredDecommissionCancelEvidenceKeys : List String :=
  ["cancel_approval_ref", "cancel_audit_evidence_ref"]

def requiredDecommissionReopenEvidenceKeys : List String :=
  ["reopen_approval_ref", "blocker_remediation_evidence_ref", "reopen_audit_evidence_ref"]

def allowedDecommissionEvidenceKeys : List String :=
  requiredDecommissionEvidenceKeys ++ requiredDecommissionBlockerEvidenceKeys ++
    requiredDecommissionCompletionEvidenceKeys ++ requiredDecommissionCancelEvidenceKeys ++
    requiredDecommissionReopenEvidenceKeys

/-! ## Patterns -/

/-- One segment of an id: `[a-z][a-z0-9_]*`. -/
def isIdentifier : List Char → Bool
  | [] => false
  | c :: rest => Text.isAsciiLower c &&
      rest.all fun c => Text.isAsciiLower c || Text.isAsciiDigit c || c == '_'

/-- `MODULE_ID_PATTERN.fullmatch`. -/
def isModuleId (value : String) : Bool := isIdentifier value.toList

/-- `FEATURE_ID_PATTERN.fullmatch`: at least two identifiers, joined by dots. -/
def isFeatureId (value : String) : Bool :=
  let segments := value.toList.splitOn '.'
  2 ≤ segments.length && segments.all isIdentifier

/-- This module's `NAMESPACED_REF_PATTERN.fullmatch`, whose scheme may start with a digit. -/
def isModuleRef (value : String) : Bool :=
  let scheme := value.toList.takeWhile isSchemeChar
  scheme.head?.any (fun c => Text.isAsciiLower c || Text.isAsciiDigit c) &&
    match value.toList.dropWhile isSchemeChar with
    | ':' :: rest => rest != [] && rest.all (· != '\n')
    | _ => false

/-- Does the feature id start with the module id and a dot? -/
def belongsTo (moduleId featureId : String) : Prop :=
  (moduleId ++ ".").toList <+: featureId.toList

instance (moduleId featureId : String) : Decidable (belongsTo moduleId featureId) :=
  inferInstanceAs (Decidable (_ <+: _))

def isMigrationVersion (value : String) : Bool :=
  Text.isDigits value.toList && value.toList.length == 4

/-! ## Models -/

/-- A field validator that strips only to see whether anything is left. -/
def requireNonBlank (field value text : String) : List FieldError :=
  if Text.strip value = "" then [⟨field, .message text⟩] else []

def requirePattern (field value text : String) (pattern : String → Bool) : List FieldError :=
  if pattern value then [] else [⟨field, .message text⟩]

/-- What is deployed: accepted entries only, so the validators' facts are fields. -/
structure ModuleCatalogEntry where
  moduleId                  : String
  status                    : ModuleStatus
  requiredMigrationVersions : List String
  namedModule               : isModuleId moduleId = true
  uniqueVersions            : requiredMigrationVersions.Nodup
  fourDigitVersions         : ∀ version ∈ requiredMigrationVersions,
                                isMigrationVersion version = true
  deployable                : status ∉ ModuleStatus.provisioning :: provisionedStatuses

structure ModuleMigrationEvidence where
  version       : String
  name          : String
  moduleId      : String
  checksum      : String
  evidenceRefs  : List String
  blocksStartup : Bool
  deriving DecidableEq, Repr

namespace ModuleMigrationEvidence

/-- `validate_evidence_refs`: the first complaint. -/
def evidenceRefsErrors (refs : List String) : List FieldError :=
  if refs = [] then
    [⟨"evidence_refs", .message "migration evidence_refs must not be empty"⟩]
  else if ¬ refs.Nodup then
    [⟨"evidence_refs", .message "migration evidence_refs must not contain duplicates"⟩]
  else if ¬ ∀ ref ∈ refs, isModuleRef ref then
    [⟨"evidence_refs", .message "migration evidence_refs must be namespaced references"⟩]
  else []

def errors (evidence : ModuleMigrationEvidence) : List FieldError :=
  requirePattern "version" evidence.version "migration version must be a four digit string"
      isMigrationVersion ++
    requireNonBlank "name" evidence.name "migration name must not be empty" ++
    requirePattern "module_id" evidence.moduleId "migration module_id must be lowercase snake_case"
      isModuleId ++
    requirePattern "checksum" evidence.checksum
      "migration checksum must be a namespaced reference" isModuleRef ++
    evidenceRefsErrors evidence.evidenceRefs

def validate (evidence : ModuleMigrationEvidence) : Except Exn ModuleMigrationEvidence :=
  accept "ModuleMigrationEvidence" evidence.errors evidence

end ModuleMigrationEvidence

structure TenantModuleState where
  tenantId                   : String
  moduleId                   : String
  status                     : ModuleStatus
  policySnapshotHash         : String
  changedBy                  : String
  auditChainRef              : String
  enabledFeatures            : Dict String Bool := ∅
  migrationEvidence          : List ModuleMigrationEvidence := []
  decommissionEvidenceRefs   : Dict String String := ∅
  provisionedAtUtc           : Option Datetime.DateTime := none
  enabledAtUtc               : Option Datetime.DateTime := none
  disabledAtUtc              : Option Datetime.DateTime := none
  decommissionRequestedAtUtc : Option Datetime.DateTime := none
  decommissionBlockedAtUtc   : Option Datetime.DateTime := none
  decommissionCancelledAtUtc : Option Datetime.DateTime := none
  decommissionReopenedAtUtc  : Option Datetime.DateTime := none
  decommissionedAtUtc        : Option Datetime.DateTime := none
  createdAtUtc               : Datetime.DateTime
  updatedAtUtc               : Datetime.DateTime

namespace TenantModuleState

def model : String := "TenantModuleState"

/-- The errors of the nested migration evidence, under its field paths. -/
def migrationErrors (evidence : List ModuleMigrationEvidence) : List FieldError :=
  evidence.zipIdx.flatMap fun (entry, index) => entry.errors.map fun error =>
    ⟨"migration_evidence." ++ toString index ++ "." ++ error.field, error.cause⟩

def errors (state : TenantModuleState) : List FieldError :=
  requireNonBlank "tenant_id" state.tenantId "value must not be empty" ++
    requirePattern "module_id" state.moduleId "module_id must be lowercase snake_case" isModuleId ++
    requirePattern "policy_snapshot_hash" state.policySnapshotHash
      "value must be a namespaced reference" isModuleRef ++
    requireNonBlank "changed_by" state.changedBy "value must not be empty" ++
    requirePattern "audit_chain_ref" state.auditChainRef
      "value must be a namespaced reference" isModuleRef ++
    migrationErrors state.migrationEvidence

def requireFeatures (state : TenantModuleState) : Except Exn Unit :=
  state.enabledFeatures.keys.forM fun featureId => do
    requireModel model (isFeatureId featureId = true)
      "feature IDs must be namespaced module features"
    requireModel model (belongsTo state.moduleId featureId)
      "feature IDs must belong to the tenant module"

/-- The loop over the migration evidence, with the versions seen so far. -/
def requireMigrationEvidence (moduleId : String) (migrationVersions : List String) :
    List ModuleMigrationEvidence → Except Exn Unit
  | [] => .ok ()
  | evidence :: rest => do
    requireModel model (evidence.version ∉ migrationVersions)
      "migration evidence versions must be unique"
    requireModel model (evidence.moduleId ∈ ["core", moduleId])
      "migration evidence must belong to core or the tenant module"
    requireMigrationEvidence moduleId (evidence.version :: migrationVersions) rest

def requireDecommissionRefs (state : TenantModuleState) : Except Exn Unit :=
  state.decommissionEvidenceRefs.items.forM fun (evidenceKey, evidenceRef) => do
    requireModel model (evidenceKey ∈ allowedDecommissionEvidenceKeys)
      "unknown decommission evidence key"
    requireModel model (isModuleRef evidenceRef = true)
      "decommission evidence references must be namespaced references"

/-- No required key is missing among the decommission evidence. -/
def HasEvidence (state : TenantModuleState) (required : List String) : Prop :=
  ∀ key ∈ required, key ∈ state.decommissionEvidenceRefs.keys

instance (state : TenantModuleState) (required : List String) :
    Decidable (state.HasEvidence required) :=
  inferInstanceAs (Decidable (∀ _ ∈ _, _))

/-- `any(enabled_features.values())`. -/
def AnyFeature (state : TenantModuleState) : Prop := true ∈ state.enabledFeatures.values

instance (state : TenantModuleState) : Decidable state.AnyFeature :=
  inferInstanceAs (Decidable (_ ∈ _))

/-- The part of the model validator that ties the status to its evidence. -/
def requireStatusEvidence (state : TenantModuleState) : Except Exn Unit := do
  requireModel model (state.status = .enabled → state.enabledAtUtc ≠ none)
    "enabled module state requires enabled_at_utc"
  requireModel model (state.status = .disabled → state.disabledAtUtc ≠ none)
    "disabled module state requires disabled_at_utc"
  requireModel model
    (state.status = .decommissionRequested → state.decommissionRequestedAtUtc ≠ none)
    "decommission_requested module state requires decommission_requested_at_utc"
  requireModel model
    (state.status = .decommissionRequested → state.HasEvidence requiredDecommissionEvidenceKeys)
    "decommission_requested module state requires complete decommission evidence"
  requireModel model (state.status = .decommissionRequested → ¬ state.AnyFeature)
    "decommission_requested module cannot keep enabled features"
  requireModel model (state.status = .decommissionBlocked → state.decommissionRequestedAtUtc ≠ none)
    "decommission_blocked module state requires decommission_requested_at_utc"
  requireModel model (state.status = .decommissionBlocked → state.decommissionBlockedAtUtc ≠ none)
    "decommission_blocked module state requires decommission_blocked_at_utc"
  requireModel model
    (state.status = .decommissionBlocked → state.HasEvidence
      (requiredDecommissionEvidenceKeys ++ requiredDecommissionBlockerEvidenceKeys))
    "decommission_blocked module state requires blocker evidence"
  requireModel model (state.status = .decommissionBlocked → ¬ state.AnyFeature)
    "decommission_blocked module cannot keep enabled features"
  requireModel model (state.status = .decommissioned → state.decommissionRequestedAtUtc ≠ none)
    "decommissioned module state requires decommission_requested_at_utc"
  requireModel model (state.status = .decommissioned → state.decommissionedAtUtc ≠ none)
    "decommissioned module state requires decommissioned_at_utc"
  requireModel model
    (state.status = .decommissioned → state.HasEvidence
      (requiredDecommissionEvidenceKeys ++ requiredDecommissionCompletionEvidenceKeys))
    "decommissioned module state requires final disposition evidence"
  requireModel model (state.status = .decommissioned → ¬ state.AnyFeature)
    "decommissioned module cannot keep enabled features"
  requireModel model
    (state.decommissionCancelledAtUtc ≠ none → state.HasEvidence
      requiredDecommissionCancelEvidenceKeys)
    "cancelled decommission module state requires cancel evidence"
  requireModel model
    (state.decommissionCancelledAtUtc ≠ none → state.status = .disabled → ¬ state.AnyFeature)
    "cancelled decommission module cannot keep enabled features while disabled"
  requireModel model
    (state.decommissionReopenedAtUtc ≠ none → state.decommissionRequestedAtUtc ≠ none)
    "reopened decommission module state requires decommission_requested_at_utc"
  requireModel model
    (state.decommissionReopenedAtUtc ≠ none → state.decommissionBlockedAtUtc ≠ none)
    "reopened decommission module state requires decommission_blocked_at_utc"
  requireModel model
    (state.decommissionReopenedAtUtc ≠ none → state.HasEvidence
      (requiredDecommissionEvidenceKeys ++ requiredDecommissionBlockerEvidenceKeys ++
        requiredDecommissionReopenEvidenceKeys))
    "reopened decommission module state requires reopen evidence"

/-- `require_status_evidence_and_feature_scope`. -/
def requireStatusEvidenceAndFeatureScope (state : TenantModuleState) : Except Exn Unit := do
  state.requireFeatures
  requireMigrationEvidence state.moduleId [] state.migrationEvidence
  state.requireDecommissionRefs
  state.requireStatusEvidence

def validate (state : TenantModuleState) : Except Exn Unit := do
  let state ← accept model state.errors state
  state.requireStatusEvidenceAndFeatureScope

end TenantModuleState

/-- A tenant's module: its state, and the proof that the validator accepts it. -/
structure TenantModule where
  state : TenantModuleState
  valid : state.validate = .ok ()

/-- Construct the model, or raise the validator's error. -/
def TenantModuleState.modelValidate (state : TenantModuleState) : Except Exn TenantModule :=
  match h : state.validate with
  | .ok () => .ok ⟨state, h⟩
  | .error exn => .error exn

namespace TenantModule

def normalUseEnabled (tenantModule : TenantModule) : Bool :=
  tenantModule.state.status = normalUseStatus

def complianceAccessAllowed (tenantModule : TenantModule) : Bool :=
  tenantModule.state.status ∈ complianceAccessStatuses

def featureEnabled (tenantModule : TenantModule) (featureId : String) : Bool :=
  tenantModule.normalUseEnabled && (tenantModule.state.enabledFeatures.get? featureId).getD false

/-- The key a tenant module is stored under. -/
def key (tenantModule : TenantModule) : String × String :=
  (tenantModule.state.tenantId, tenantModule.state.moduleId)

end TenantModule

/-! ## The registry -/

/-- What every lifecycle operation is told, and what the clock shows it if it
is not told a time. -/
structure LifecycleCall where
  tenantId           : String
  moduleId           : String
  policySnapshotHash : String
  changedBy          : String
  auditChainRef      : String
  changedAtUtc       : Option Datetime.DateTime
  utcNow             : Datetime.DateTime

def LifecycleCall.now (call : LifecycleCall) : Datetime.DateTime :=
  call.changedAtUtc.getD call.utcNow

/-- `InMemoryModuleRegistry`: tenant modules are filed under their own keys, and
their modules are installed. -/
structure ModuleRegistry where
  catalog       : Dict String ModuleCatalogEntry
  tenantModules : Dict (String × String) TenantModule
  filed         : ∀ key tenantModule, tenantModules.get? key = some tenantModule →
                    tenantModule.key = key
  installed     : ∀ key tenantModule, tenantModules.get? key = some tenantModule →
                    ∃ entry, catalog.get? tenantModule.state.moduleId = some entry ∧
                      entry.status ≠ .notInstalled

namespace ModuleRegistry

instance : EmptyCollection ModuleRegistry where
  emptyCollection := ⟨∅, ∅, by simp, by simp⟩

def getCatalogEntry (registry : ModuleRegistry) (moduleId : String) :
    Except Exn ModuleCatalogEntry :=
  match registry.catalog.get? moduleId with
  | some entry => .ok entry
  | none => .error (.lookupError ("Unknown module catalog entry: " ++ moduleId))

def getTenantModule (registry : ModuleRegistry) (tenantId moduleId : String) :
    Except Exn TenantModule :=
  match registry.tenantModules.get? (tenantId, moduleId) with
  | some tenantModule => .ok tenantModule
  | none => .error (.lookupError ("Unknown tenant module: " ++ tenantId ++ "/" ++ moduleId))

theorem getCatalogEntry_eq_ok {registry : ModuleRegistry} {moduleId : String}
    {entry : ModuleCatalogEntry} :
    registry.getCatalogEntry moduleId = .ok entry ↔
      registry.catalog.get? moduleId = some entry := by
  unfold getCatalogEntry
  split <;> simp_all

theorem getTenantModule_eq_ok {registry : ModuleRegistry} {tenantId moduleId : String}
    {tenantModule : TenantModule} :
    registry.getTenantModule tenantId moduleId = .ok tenantModule ↔
      registry.tenantModules.get? (tenantId, moduleId) = some tenantModule := by
  unfold getTenantModule
  split <;> simp_all

/-- Store a tenant module whose module is installed. -/
def insert (registry : ModuleRegistry) (tenantModule : TenantModule)
    (installed : ∃ entry, registry.catalog.get? tenantModule.state.moduleId = some entry ∧
      entry.status ≠ .notInstalled) : ModuleRegistry where
  catalog := registry.catalog
  tenantModules := registry.tenantModules.set tenantModule.key tenantModule
  filed := by
    intro key other h
    rw [Dict.get?_set] at h
    by_cases hkey : key = tenantModule.key
    · rw [if_pos hkey, Option.some.injEq] at h
      rw [← h, hkey]
    · rw [if_neg hkey] at h
      exact registry.filed key other h
  installed := by
    intro key other h
    rw [Dict.get?_set] at h
    by_cases hkey : key = tenantModule.key
    · rw [if_pos hkey, Option.some.injEq] at h
      rw [← h]
      exact installed
    · rw [if_neg hkey] at h
      exact registry.installed key other h

/-- Add a catalog entry of a module that is not in the catalog yet. -/
def addEntry (registry : ModuleRegistry) (entry : ModuleCatalogEntry)
    (fresh : registry.catalog.get? entry.moduleId = none) : ModuleRegistry where
  catalog := registry.catalog.set entry.moduleId entry
  tenantModules := registry.tenantModules
  filed := registry.filed
  installed := by
    intro key tenantModule h
    obtain ⟨found, hfound, hstatus⟩ := registry.installed key tenantModule h
    refine ⟨found, ?_, hstatus⟩
    rw [Dict.get?_set_ne _ _ ?_]
    · exact hfound
    · rintro hsame
      rw [hsame, fresh] at hfound
      cases hfound

/-- `add_catalog_entry`. -/
def addCatalogEntry (entry : ModuleCatalogEntry) : Eff Exn ModuleRegistry ModuleCatalogEntry :=
  fun registry =>
    if fresh : registry.catalog.get? entry.moduleId = none then
      (.ok entry, registry.addEntry entry fresh)
    else
      (.error (.moduleLifecycleError ("Module already exists in catalog: " ++ entry.moduleId)),
        registry)

/-- `upsert_tenant_module`. -/
def upsertTenantModule (tenantModule : TenantModule) : Eff Exn ModuleRegistry TenantModule :=
  fun registry =>
    match hfound : registry.catalog.get? tenantModule.state.moduleId with
    | none => (.error (.lookupError
        ("Unknown module catalog entry: " ++ tenantModule.state.moduleId)), registry)
    | some entry =>
      if hstatus : entry.status = .notInstalled then
        (.error (.moduleLifecycleError
          ("Module is not installed: " ++ tenantModule.state.moduleId)), registry)
      else (.ok tenantModule, registry.insert tenantModule ⟨entry, hfound, hstatus⟩)

def addCatalogEntries : List ModuleCatalogEntry → Eff Exn ModuleRegistry Unit
  | [] => pure ()
  | entry :: rest => do
    let _ ← addCatalogEntry entry
    addCatalogEntries rest

def upsertTenantModules : List TenantModule → Eff Exn ModuleRegistry Unit
  | [] => pure ()
  | tenantModule :: rest => do
    let _ ← upsertTenantModule tenantModule
    upsertTenantModules rest

/-- The constructor: the catalog first, then the tenant modules. -/
def init (catalogEntries : List ModuleCatalogEntry) (tenantModules : List TenantModule) :
    Eff Exn ModuleRegistry Unit := do
  addCatalogEntries catalogEntries
  upsertTenantModules tenantModules

/-! ## Gates -/

def requireNormalUse (registry : ModuleRegistry) (tenantId moduleId : String)
    (featureId : Option String) : Except Exn TenantModule := do
  let state ← registry.getTenantModule tenantId moduleId
  require (state.normalUseEnabled = true)
    (.moduleLifecycleError ("Module is not enabled for normal use: " ++ moduleId))
  match featureId with
  | none => return state
  | some featureId =>
    require (state.featureEnabled featureId = true)
      (.moduleLifecycleError ("Module feature is not enabled: " ++ featureId))
    return state

def requireComplianceAccess (registry : ModuleRegistry) (tenantId moduleId : String) :
    Except Exn TenantModule := do
  let state ← registry.getTenantModule tenantId moduleId
  require (state.complianceAccessAllowed = true)
    (.moduleLifecycleError ("Module state does not allow compliance access: " ++ moduleId))
  return state

/-- `_require_state_migration_evidence`. -/
def requireStateMigrationEvidence (catalogEntry : ModuleCatalogEntry)
    (state : TenantModuleState) : Except Exn Unit := do
  let requiredVersions := catalogEntry.requiredMigrationVersions
  if requiredVersions = [] then return ()
  let availableVersions := (state.migrationEvidence.filter (·.blocksStartup)).map (·.version)
  let missingVersions := Text.sortedSet (requiredVersions.filter (· ∉ availableVersions))
  require (missingVersions = []) (.moduleLifecycleError
    ("Module startup migrations are missing evidence: " ++ ", ".intercalate missingVersions))

/-- `_validate_gate_feature_id`. -/
def validateGateFeatureId (moduleId featureId : String) : Except Exn Unit := do
  require (isFeatureId featureId = true)
    (.moduleLifecycleError ("Module feature ID is not namespaced: " ++ featureId))
  require (belongsTo moduleId featureId) (.moduleLifecycleError
    ("Module feature does not belong to module " ++ moduleId ++ ": " ++ featureId))

structure ModuleGateDecision where
  tenantId                : String
  moduleId                : String
  surface                 : ModuleGateSurface
  status                  : ModuleStatus
  featureId               : Option String
  normalUseEnabled        : Bool
  complianceAccessAllowed : Bool

/-- The gate's check of a feature id, if it is given one. -/
def requireGateFeature (moduleId : String) : Option String → Except Exn Unit
  | none => .ok ()
  | some featureId => validateGateFeatureId moduleId featureId

/-- The gate's checks on the surfaces of normal use. -/
def requireNormalSurface (registry : ModuleRegistry) (state : TenantModule)
    (tenantId moduleId : String) (surface : ModuleGateSurface) (featureId : Option String) :
    Except Exn Unit :=
  if surface ∈ [.normalApi, .featureWorker] then do
    let _ ← registry.requireNormalUse tenantId moduleId featureId
    let catalogEntry ← registry.getCatalogEntry moduleId
    requireStateMigrationEvidence catalogEntry state.state
  else .ok ()

/-- The gate's checks on the compliance surfaces. -/
def requireComplianceSurface (registry : ModuleRegistry) (tenantId moduleId : String)
    (surface : ModuleGateSurface) : Except Exn Unit :=
  if surface ∈ [.complianceApi, .complianceWorker] then do
    let _ ← registry.requireComplianceAccess tenantId moduleId
    return ()
  else .ok ()

def requireModuleGate (registry : ModuleRegistry) (tenantId moduleId : String)
    (surface : ModuleGateSurface) (featureId : Option String) : Except Exn ModuleGateDecision := do
  let state ← registry.getTenantModule tenantId moduleId
  requireGateFeature moduleId featureId
  registry.requireNormalSurface state tenantId moduleId surface featureId
  registry.requireComplianceSurface tenantId moduleId surface
  return {
    tenantId := tenantId
    moduleId := moduleId
    surface := surface
    status := state.state.status
    featureId := featureId
    normalUseEnabled := state.normalUseEnabled
    complianceAccessAllowed := state.complianceAccessAllowed }

/-! ## Lifecycle operations -/

/-- Compute the next tenant module from the registry, then store it. -/
def transition (next : ModuleRegistry → Except Exn TenantModule) :
    Eff Exn ModuleRegistry TenantModule := do
  let registry ← Eff.get
  let tenantModule ← Eff.lift (next registry)
  upsertTenantModule tenantModule

/-- `_migration_evidence_by_version`: the loop over the manifest, with what it has so far. -/
def migrationEvidenceByVersion (evidenceByVersion : Dict String ModuleMigrationEvidence) :
    List ModuleMigrationEvidence → Except Exn (Dict String ModuleMigrationEvidence)
  | [] => .ok evidenceByVersion
  | entry :: rest => do
    let evidence ← entry.validate
    require (evidence.version ∉ evidenceByVersion.keys)
      (.moduleLifecycleError ("Duplicate migration manifest evidence: " ++ evidence.version))
    migrationEvidenceByVersion (evidenceByVersion.set evidence.version evidence) rest

/-- The evidence of one required version, checked. -/
def requiredEvidence (moduleId : String) (evidenceByVersion : Dict String ModuleMigrationEvidence)
    (version : String) : Except Exn ModuleMigrationEvidence :=
  match evidenceByVersion.get? version with
  | none => .error .keyError
  | some evidence => do
    require (evidence.blocksStartup = true)
      (.moduleLifecycleError ("Required migration does not block startup: " ++ version))
    require (evidence.moduleId ∈ ["core", moduleId]) (.moduleLifecycleError
      ("Migration " ++ version ++ " belongs to " ++ evidence.moduleId ++
        ", not core or module " ++ moduleId))
    return evidence

def migrationEvidenceForModule (registry : ModuleRegistry) (moduleId : String)
    (migrationManifestEntries : Option (List ModuleMigrationEvidence)) :
    Except Exn (List ModuleMigrationEvidence) := do
  let catalogEntry ← registry.getCatalogEntry moduleId
  let requiredVersions := catalogEntry.requiredMigrationVersions
  if requiredVersions = [] then return []
  let evidenceByVersion ← migrationEvidenceByVersion ∅ (migrationManifestEntries.getD [])
  let missingVersions := Text.sortedSet (requiredVersions.filter (· ∉ evidenceByVersion.keys))
  require (missingVersions = []) (.moduleLifecycleError
    ("Missing startup migrations for module " ++ moduleId ++ ": " ++
      ", ".intercalate missingVersions))
  (Text.sortedSet requiredVersions).mapM (requiredEvidence moduleId evidenceByVersion)

/-- `enabled_features` of a provision: the argument, else what the module has, else nothing. -/
def nextEnabledFeatures (enabledFeatures : Option (Dict String Bool))
    (existing : Option TenantModule) : Dict String Bool :=
  match enabledFeatures, existing with
  | some features, _ => features
  | none, some tenantModule => tenantModule.state.enabledFeatures
  | none, none => ∅

/-- The state a provision writes. -/
def provisionedState (call : LifecycleCall) (existing : Option TenantModule)
    (enabledFeatures : Option (Dict String Bool))
    (migrationEvidence : List ModuleMigrationEvidence) : TenantModuleState where
  tenantId := call.tenantId
  moduleId := call.moduleId
  status := .disabled
  enabledFeatures := nextEnabledFeatures enabledFeatures existing
  migrationEvidence := migrationEvidence
  policySnapshotHash := call.policySnapshotHash
  provisionedAtUtc := some call.now
  disabledAtUtc := some call.now
  changedBy := call.changedBy
  auditChainRef := call.auditChainRef
  createdAtUtc := (existing.map (·.state.createdAtUtc)).getD call.now
  updatedAtUtc := call.now

def provisionTenantModule (call : LifecycleCall) (enabledFeatures : Option (Dict String Bool))
    (migrationManifestEntries : Option (List ModuleMigrationEvidence)) :
    Eff Exn ModuleRegistry TenantModule :=
  transition fun registry => do
    let catalogEntry ← registry.getCatalogEntry call.moduleId
    let existing := registry.tenantModules.get? (call.tenantId, call.moduleId)
    require (∀ tenantModule ∈ existing, tenantModule.state.status ∉ provisionedStatuses)
      (.moduleLifecycleError
        ("Module is already provisioned or not provisionable: " ++ call.moduleId))
    let evidence ← registry.migrationEvidenceForModule call.moduleId migrationManifestEntries
    let migrationEvidence :=
      if evidence = [] then (existing.map (·.state.migrationEvidence)).getD [] else evidence
    require (catalogEntry.requiredMigrationVersions = [] ∨ migrationEvidence ≠ [])
      (.moduleLifecycleError
        ("Missing migration evidence for module provision: " ++ call.moduleId))
    (provisionedState call existing enabledFeatures migrationEvidence).modelValidate

/-- What every later operation stamps on the existing state. -/
def stamped (existing : TenantModuleState) (call : LifecycleCall) (status : ModuleStatus) :
    TenantModuleState :=
  { existing with
    status := status
    policySnapshotHash := call.policySnapshotHash
    changedBy := call.changedBy
    auditChainRef := call.auditChainRef
    updatedAtUtc := call.now }

def enabledUpdate (existing : TenantModuleState) (call : LifecycleCall)
    (enabledFeatures : Option (Dict String Bool)) : TenantModuleState :=
  { stamped existing call .enabled with
    enabledFeatures := enabledFeatures.getD existing.enabledFeatures
    enabledAtUtc := some call.now }

def enableTenantModule (call : LifecycleCall) (enabledFeatures : Option (Dict String Bool)) :
    Eff Exn ModuleRegistry TenantModule :=
  transition fun registry => do
    let existing ← registry.getTenantModule call.tenantId call.moduleId
    let catalogEntry ← registry.getCatalogEntry call.moduleId
    require (existing.state.provisionedAtUtc ≠ none)
      (.moduleLifecycleError ("Module must be provisioned before enablement: " ++ call.moduleId))
    require (existing.state.status ∉ decommissionStatuses) (.moduleLifecycleError
      ("Module cannot be enabled from state " ++ existing.state.status.value ++ ": " ++
        call.moduleId))
    requireStateMigrationEvidence catalogEntry existing.state
    (enabledUpdate existing.state call enabledFeatures).modelValidate

def disabledUpdate (existing : TenantModuleState) (call : LifecycleCall) : TenantModuleState :=
  { stamped existing call .disabled with disabledAtUtc := some call.now }

def disableTenantModule (call : LifecycleCall) : Eff Exn ModuleRegistry TenantModule :=
  transition fun registry => do
    let existing ← registry.getTenantModule call.tenantId call.moduleId
    require (existing.state.status ∉ decommissionStatuses)
      (.moduleLifecycleError ("Module is in decommission workflow: " ++ call.moduleId))
    (disabledUpdate existing.state call).modelValidate

def suspendTenantModule (call : LifecycleCall) : Eff Exn ModuleRegistry TenantModule :=
  transition fun registry => do
    let existing ← registry.getTenantModule call.tenantId call.moduleId
    require (existing.state.status ∉ decommissionStatuses)
      (.moduleLifecycleError ("Module is in decommission workflow: " ++ call.moduleId))
    (stamped existing.state call .suspended).modelValidate

/-- `decommission_check`: only the reasons are read by the registry. -/
def decommissionBlockingReasons (status : ModuleStatus) : List String :=
  (if status = .enabled then ["module must be disabled or suspended before decommission"] else []) ++
    (if status = .provisioning then ["module provisioning must complete before decommission"]
      else []) ++
    (if status = .decommissioned then ["module is already decommissioned"] else [])

/-- `_require_decommission_evidence`. -/
def requireDecommissionEvidence (evidenceRefs : Dict String String) (requiredKeys : List String)
    (workflowName : String) : Except Exn Unit :=
  let missingEvidence := requiredKeys.filter (· ∉ evidenceRefs.keys)
  require (missingEvidence = []) (.moduleLifecycleError
    ("Missing decommission " ++ workflowName ++ " evidence: " ++
      ", ".intercalate (Text.sortedSet missingEvidence)))

/-- The part of the update that the steps of the decommission workflow share: all
features off, the new evidence merged in. -/
def decommissionUpdate (existing : TenantModuleState) (call : LifecycleCall)
    (status : ModuleStatus) (evidenceRefs : Dict String String) : TenantModuleState :=
  { stamped existing call status with
    enabledFeatures := existing.enabledFeatures.mapValues fun _ => false
    decommissionEvidenceRefs := (existing.decommissionEvidenceRefs.update evidenceRefs).sorted }

def requestedUpdate (existing : TenantModuleState) (call : LifecycleCall)
    (evidenceRefs : Dict String String) : TenantModuleState :=
  { decommissionUpdate existing call .decommissionRequested evidenceRefs with
    decommissionRequestedAtUtc := some call.now }

def requestDecommission (call : LifecycleCall) (decommissionEvidenceRefs : Dict String String) :
    Eff Exn ModuleRegistry TenantModule :=
  transition fun registry => do
    let existing ← registry.getTenantModule call.tenantId call.moduleId
    let blockingReasons := decommissionBlockingReasons existing.state.status
    require (existing.state.provisionedAtUtc ≠ none) (.moduleLifecycleError
      ("Module must be provisioned before decommission request: " ++ call.moduleId))
    require (existing.state.status ∈ [.disabled, .suspended]) (.moduleLifecycleError
      ("Module must be disabled or suspended before decommission request: " ++ call.moduleId))
    require (blockingReasons = []) (.moduleLifecycleError
      ("Module cannot request decommission: " ++ "; ".intercalate blockingReasons))
    requireDecommissionEvidence decommissionEvidenceRefs requiredDecommissionEvidenceKeys "request"
    (requestedUpdate existing.state call decommissionEvidenceRefs).modelValidate

def blockedUpdate (existing : TenantModuleState) (call : LifecycleCall)
    (evidenceRefs : Dict String String) : TenantModuleState :=
  { decommissionUpdate existing call .decommissionBlocked evidenceRefs with
    decommissionBlockedAtUtc := some call.now }

def blockDecommission (call : LifecycleCall) (blockerEvidenceRefs : Dict String String) :
    Eff Exn ModuleRegistry TenantModule :=
  transition fun registry => do
    let existing ← registry.getTenantModule call.tenantId call.moduleId
    require (existing.state.status ∈ [.decommissionRequested, .decommissionBlocked])
      (.moduleLifecycleError
        ("Module must have a decommission request before blocking: " ++ call.moduleId))
    require (existing.state.decommissionRequestedAtUtc ≠ none) (.moduleLifecycleError
      ("Module must have request timestamp before blocking: " ++ call.moduleId))
    requireDecommissionEvidence existing.state.decommissionEvidenceRefs
      requiredDecommissionEvidenceKeys "request"
    requireDecommissionEvidence blockerEvidenceRefs requiredDecommissionBlockerEvidenceKeys
      "blocker"
    (blockedUpdate existing.state call blockerEvidenceRefs).modelValidate

def cancelledUpdate (existing : TenantModuleState) (call : LifecycleCall)
    (evidenceRefs : Dict String String) : TenantModuleState :=
  { decommissionUpdate existing call .disabled evidenceRefs with
    disabledAtUtc := some call.now
    decommissionCancelledAtUtc := some call.now }

def cancelDecommission (call : LifecycleCall) (cancelEvidenceRefs : Dict String String) :
    Eff Exn ModuleRegistry TenantModule :=
  transition fun registry => do
    let existing ← registry.getTenantModule call.tenantId call.moduleId
    require (existing.state.status ∈ [.decommissionRequested, .decommissionBlocked])
      (.moduleLifecycleError
        ("Module must have an active decommission workflow before cancellation: " ++
          call.moduleId))
    require (existing.state.decommissionRequestedAtUtc ≠ none) (.moduleLifecycleError
      ("Module must have request timestamp before cancellation: " ++ call.moduleId))
    requireDecommissionEvidence existing.state.decommissionEvidenceRefs
      requiredDecommissionEvidenceKeys "request"
    requireDecommissionEvidence cancelEvidenceRefs requiredDecommissionCancelEvidenceKeys "cancel"
    (cancelledUpdate existing.state call cancelEvidenceRefs).modelValidate

def reopenedUpdate (existing : TenantModuleState) (call : LifecycleCall)
    (evidenceRefs : Dict String String) : TenantModuleState :=
  { decommissionUpdate existing call .decommissionRequested evidenceRefs with
    decommissionReopenedAtUtc := some call.now }

def reopenDecommission (call : LifecycleCall) (reopenEvidenceRefs : Dict String String) :
    Eff Exn ModuleRegistry TenantModule :=
  transition fun registry => do
    let existing ← registry.getTenantModule call.tenantId call.moduleId
    require (existing.state.status = .decommissionBlocked) (.moduleLifecycleError
      ("Module must have a blocked decommission workflow before reopen: " ++ call.moduleId))
    require (existing.state.decommissionRequestedAtUtc ≠ none ∧
        existing.state.decommissionBlockedAtUtc ≠ none) (.moduleLifecycleError
      ("Module must have request and blocked timestamps before reopen: " ++ call.moduleId))
    requireDecommissionEvidence existing.state.decommissionEvidenceRefs
      (requiredDecommissionEvidenceKeys ++ requiredDecommissionBlockerEvidenceKeys) "blocked"
    requireDecommissionEvidence reopenEvidenceRefs requiredDecommissionReopenEvidenceKeys "reopen"
    (reopenedUpdate existing.state call reopenEvidenceRefs).modelValidate

def completedUpdate (existing : TenantModuleState) (call : LifecycleCall)
    (evidenceRefs : Dict String String) : TenantModuleState :=
  { decommissionUpdate existing call .decommissioned evidenceRefs with
    decommissionedAtUtc := some call.now }

def completeDecommission (call : LifecycleCall) (completionEvidenceRefs : Dict String String) :
    Eff Exn ModuleRegistry TenantModule :=
  transition fun registry => do
    let existing ← registry.getTenantModule call.tenantId call.moduleId
    require (existing.state.status ∈ [.decommissionRequested, .decommissionBlocked])
      (.moduleLifecycleError
        ("Module must have a decommission request before completion: " ++ call.moduleId))
    require (existing.state.decommissionRequestedAtUtc ≠ none) (.moduleLifecycleError
      ("Module must have request timestamp before completion: " ++ call.moduleId))
    requireDecommissionEvidence existing.state.decommissionEvidenceRefs
      requiredDecommissionEvidenceKeys "request"
    requireDecommissionEvidence completionEvidenceRefs requiredDecommissionCompletionEvidenceKeys
      "completion"
    (completedUpdate existing.state call completionEvidenceRefs).modelValidate

end ModuleRegistry

end Collabio
