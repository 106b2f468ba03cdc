import Mathlib.Tactic
import Collabio.Platform.Modules

/-!
# What the module registry's operations do

* `TenantModuleState.Valid`   — the validator's conditions, as one structure
  (`validate_eq_ok`);
* `LifecycleOperation`        — the nine operations as data;
* `ModuleRegistry.Writes`     — what an operation demands of the registry, and
  the state it then writes;
* `perform_eq_ok`, `perform_error` — an operation stores exactly that state, or
  raises and leaves the registry as it was.
-/

namespace Collabio

@[simp] theorem requireNonBlank_eq_nil {field value text : String} :
    requireNonBlank field value text = [] ↔ Text.strip value ≠ "" := by
  unfold requireNonBlank
  split <;> simp_all

@[simp] theorem requirePattern_eq_nil {field value text : String} {pattern : String → Bool} :
    requirePattern field value text pattern = [] ↔ pattern value = true := by
  unfold requirePattern
  split <;> simp_all

/-! ## The validator -/

namespace TenantModuleState

/-- The status and its evidence, as `requireStatusEvidence` demands. -/
structure StatusEvidence (state : TenantModuleState) : Prop where
  enabled            : state.status = .enabled → state.enabledAtUtc ≠ none
  disabled           : state.status = .disabled → state.disabledAtUtc ≠ none
  requestedAt        : state.status = .decommissionRequested →
                         state.decommissionRequestedAtUtc ≠ none
  requestedEvidence  : state.status = .decommissionRequested →
                         state.HasEvidence requiredDecommissionEvidenceKeys
  requestedFeatures  : state.status = .decommissionRequested → ¬ state.AnyFeature
  blockedRequested   : state.status = .decommissionBlocked → state.decommissionRequestedAtUtc ≠ none
  blockedAt          : state.status = .decommissionBlocked → state.decommissionBlockedAtUtc ≠ none
  blockedEvidence    : state.status = .decommissionBlocked → state.HasEvidence
                         (requiredDecommissionEvidenceKeys ++
                           requiredDecommissionBlockerEvidenceKeys)
  blockedFeatures    : state.status = .decommissionBlocked → ¬ state.AnyFeature
  finalRequested     : state.status = .decommissioned → state.decommissionRequestedAtUtc ≠ none
  finalAt            : state.status = .decommissioned → state.decommissionedAtUtc ≠ none
  finalEvidence      : state.status = .decommissioned → state.HasEvidence
                         (requiredDecommissionEvidenceKeys ++
                           requiredDecommissionCompletionEvidenceKeys)
  finalFeatures      : state.status = .decommissioned → ¬ state.AnyFeature
  cancelledEvidence  : state.decommissionCancelledAtUtc ≠ none →
                         state.HasEvidence requiredDecommissionCancelEvidenceKeys
  cancelledFeatures  : state.decommissionCancelledAtUtc ≠ none → state.status = .disabled →
                         ¬ state.AnyFeature
  reopenedRequested  : state.decommissionReopenedAtUtc ≠ none →
                         state.decommissionRequestedAtUtc ≠ none
  reopenedBlocked    : state.decommissionReopenedAtUtc ≠ none →
                         state.decommissionBlockedAtUtc ≠ none
  reopenedEvidence   : state.decommissionReopenedAtUtc ≠ none → state.HasEvidence
                         (requiredDecommissionEvidenceKeys ++
                           requiredDecommissionBlockerEvidenceKeys ++
                           requiredDecommissionReopenEvidenceKeys)

/-- Everything the validator demands of a tenant module state. -/
structure Valid (state : TenantModuleState) : Prop where
  tenant        : Text.strip state.tenantId ≠ ""
  namedModule   : isModuleId state.moduleId = true
  policy        : isModuleRef state.policySnapshotHash = true
  changedBy     : Text.strip state.changedBy ≠ ""
  audit         : isModuleRef state.auditChainRef = true
  evidence      : ∀ entry ∈ state.migrationEvidence, entry.errors = []
  features      : ∀ featureId ∈ state.enabledFeatures.keys,
                    isFeatureId featureId = true ∧ belongsTo state.moduleId featureId
  versions      : (state.migrationEvidence.map (·.version)).Nodup
  owners        : ∀ entry ∈ state.migrationEvidence, entry.moduleId ∈ ["core", state.moduleId]
  refs          : ∀ item ∈ state.decommissionEvidenceRefs.items,
                    item.1 ∈ allowedDecommissionEvidenceKeys ∧ isModuleRef item.2 = true
  status        : state.StatusEvidence

theorem migrationErrors_eq_nil {evidence : List ModuleMigrationEvidence} :
    migrationErrors evidence = [] ↔ ∀ entry ∈ evidence, entry.errors = [] := by
  rw [migrationErrors, List.flatMap_eq_nil_iff]
  constructor
  · intro h entry hentry
    obtain ⟨index, hindex⟩ := List.mem_iff_getElem?.mp hentry
    have hnil := h (entry, index) (List.mem_zipIdx_iff_getElem?.mpr hindex)
    exact List.map_eq_nil_iff.mp hnil
  · rintro h ⟨entry, index⟩ hmem
    have hentry := List.mem_iff_getElem?.mpr ⟨index, List.mem_zipIdx_iff_getElem?.mp hmem⟩
    exact List.map_eq_nil_iff.mpr (h entry hentry)

theorem requireFeatures_eq_ok {state : TenantModuleState} :
    state.requireFeatures = .ok () ↔ ∀ featureId ∈ state.enabledFeatures.keys,
      isFeatureId featureId = true ∧ belongsTo state.moduleId featureId := by
  rw [requireFeatures, Except.forM_eq_ok]
  simp only [requireModel, require_bind_eq_ok, require_eq_ok]

/-- The loop passes when no version comes twice, counting those already seen. -/
theorem requireMigrationEvidence_eq_ok {moduleId : String} {seen : List String}
    {evidence : List ModuleMigrationEvidence} :
    requireMigrationEvidence moduleId seen evidence = .ok () ↔
      ((evidence.map (·.version)).Nodup ∧ ∀ entry ∈ evidence, entry.version ∉ seen) ∧
        ∀ entry ∈ evidence, entry.moduleId ∈ ["core", moduleId] := by
  induction evidence generalizing seen with
  | nil => simp [requireMigrationEvidence]
  | cons entry rest ih =>
    rw [requireMigrationEvidence, requireModel, require_bind_eq_ok, requireModel,
      require_bind_eq_ok, ih, List.map_cons, List.nodup_cons, List.forall_mem_cons,
      List.forall_mem_cons]
    have hseen : (∀ other ∈ rest, other.version ∉ entry.version :: seen) ↔
        entry.version ∉ rest.map (·.version) ∧ ∀ other ∈ rest, other.version ∉ seen := by
      simp only [List.mem_cons, not_or, List.mem_map, not_exists, not_and]
      constructor
      · intro h
        exact ⟨fun other hother hsame => (h other hother).1 hsame, fun other hother =>
          (h other hother).2⟩
      · rintro ⟨hne, h⟩ other hother
        exact ⟨hne other hother, h other hother⟩
    rw [hseen]
    tauto

theorem requireDecommissionRefs_eq_ok {state : TenantModuleState} :
    state.requireDecommissionRefs = .ok () ↔ ∀ item ∈ state.decommissionEvidenceRefs.items,
      item.1 ∈ allowedDecommissionEvidenceKeys ∧ isModuleRef item.2 = true := by
  rw [requireDecommissionRefs, Except.forM_eq_ok]
  simp only [requireModel, require_bind_eq_ok, require_eq_ok]

theorem requireStatusEvidence_eq_ok {state : TenantModuleState} :
    state.requireStatusEvidence = .ok () ↔ state.StatusEvidence := by
  unfold requireStatusEvidence
  simp only [requireModel, require_bind_eq_ok, require_eq_ok]
  constructor
  · rintro ⟨h1, h2, h3, h4, h5, h6, h7, h8, h9, h10, h11, h12, h13, h14, h15, h16, h17, h18⟩
    exact ⟨h1, h2, h3, h4, h5, h6, h7, h8, h9, h10, h11, h12, h13, h14, h15, h16, h17, h18⟩
  · rintro ⟨h1, h2, h3, h4, h5, h6, h7, h8, h9, h10, h11, h12, h13, h14, h15, h16, h17, h18⟩
    exact ⟨h1, h2, h3, h4, h5, h6, h7, h8, h9, h10, h11, h12, h13, h14, h15, h16, h17, h18⟩

theorem validate_eq_ok {state : TenantModuleState} : state.validate = .ok () ↔ state.Valid := by
  have hbind : state.validate = .ok () ↔
      state.errors = [] ∧ state.requireStatusEvidenceAndFeatureScope = .ok () := by
    rw [validate, Except.bind_eq_ok]
    simp only [accept_eq_ok]
    constructor
    · rintro ⟨_, ⟨herrors, rfl⟩, h⟩
      exact ⟨herrors, h⟩
    · rintro ⟨herrors, h⟩
      exact ⟨state, ⟨herrors, rfl⟩, h⟩
  rw [hbind, errors, requireStatusEvidenceAndFeatureScope]
  simp only [List.append_eq_nil_iff, requireNonBlank_eq_nil, requirePattern_eq_nil,
    migrationErrors_eq_nil, Except.unit_bind_eq_ok, requireFeatures_eq_ok, requireMigrationEvidence_eq_ok,
    requireDecommissionRefs_eq_ok, requireStatusEvidence_eq_ok]
  constructor
  · rintro ⟨⟨⟨⟨⟨⟨h1, h2⟩, h3⟩, h4⟩, h5⟩, h6⟩, h7, ⟨⟨h8, -⟩, h9⟩, h10, h11⟩
    exact ⟨h1, h2, h3, h4, h5, h6, h7, h8, h9, h10, h11⟩
  · rintro ⟨h1, h2, h3, h4, h5, h6, h7, h8, h9, h10, h11⟩
    exact ⟨⟨⟨⟨⟨⟨h1, h2⟩, h3⟩, h4⟩, h5⟩, h6⟩, h7, ⟨⟨h8, by simp⟩, h9⟩, h10, h11⟩

/-- Construction succeeds on the valid states, and keeps the state. -/
theorem modelValidate_eq_ok {state : TenantModuleState} {tenantModule : TenantModule} :
    state.modelValidate = .ok tenantModule ↔ tenantModule.state = state := by
  unfold modelValidate
  constructor
  · intro h
    split at h
    · cases h
      rfl
    · cases h
  · rintro rfl
    split
    · rfl
    · rename_i hinvalid
      rw [tenantModule.valid] at hinvalid
      cases hinvalid

theorem modelValidate_isOk {state : TenantModuleState} (h : state.Valid) :
    state.modelValidate = .ok ⟨state, validate_eq_ok.mpr h⟩ :=
  modelValidate_eq_ok.mpr rfl

end TenantModuleState

theorem TenantModule.isValid (tenantModule : TenantModule) : tenantModule.state.Valid :=
  TenantModuleState.validate_eq_ok.mp tenantModule.valid

/-- The validator alone keeps the features of the workflow's statuses off. -/
theorem TenantModule.features_off (tenantModule : TenantModule)
    (h : tenantModule.state.status ∈ decommissionStatuses) : ¬ tenantModule.state.AnyFeature := by
  have hvalid := tenantModule.isValid.status
  simp only [decommissionStatuses, List.mem_cons, List.not_mem_nil, or_false] at h
  rcases h with hrequested | hblocked | hfinal
  · exact hvalid.requestedFeatures hrequested
  · exact hvalid.blockedFeatures hblocked
  · exact hvalid.finalFeatures hfinal

/-! ## The operations as data -/

inductive LifecycleOperation where
  | provision (enabledFeatures : Option (Dict String Bool))
      (migrationManifestEntries : Option (List ModuleMigrationEvidence))
  | enable (enabledFeatures : Option (Dict String Bool))
  | disable
  | suspend
  | requestDecommission (evidenceRefs : Dict String String)
  | blockDecommission (evidenceRefs : Dict String String)
  | cancelDecommission (evidenceRefs : Dict String String)
  | reopenDecommission (evidenceRefs : Dict String String)
  | completeDecommission (evidenceRefs : Dict String String)

structure LifecycleEvent where
  call      : LifecycleCall
  operation : LifecycleOperation

namespace LifecycleCall

/-- The tenant module a call is about. -/
def key (call : LifecycleCall) : String × String := (call.tenantId, call.moduleId)

/-- The references of the call are namespaced, and it names who makes it. -/
structure Accepted (call : LifecycleCall) : Prop where
  policy    : isModuleRef call.policySnapshotHash = true
  changedBy : Text.strip call.changedBy ≠ ""
  audit     : isModuleRef call.auditChainRef = true

end LifecycleCall

namespace ModuleRegistry

def perform : LifecycleEvent → Eff Exn ModuleRegistry TenantModule
  | ⟨call, .provision features manifest⟩ => provisionTenantModule call features manifest
  | ⟨call, .enable features⟩ => enableTenantModule call features
  | ⟨call, .disable⟩ => disableTenantModule call
  | ⟨call, .suspend⟩ => suspendTenantModule call
  | ⟨call, .requestDecommission refs⟩ => requestDecommission call refs
  | ⟨call, .blockDecommission refs⟩ => blockDecommission call refs
  | ⟨call, .cancelDecommission refs⟩ => cancelDecommission call refs
  | ⟨call, .reopenDecommission refs⟩ => reopenDecommission call refs
  | ⟨call, .completeDecommission refs⟩ => completeDecommission call refs

/-- The registry after an operation, whether it returned or raised. -/
def step (registry : ModuleRegistry) (event : LifecycleEvent) : ModuleRegistry :=
  (perform event registry).2

/-! ## One operation -/

/-- The module of a tenant module is installed, so that it may be stored. -/
def Installs (registry : ModuleRegistry) (tenantModule : TenantModule) : Prop :=
  ∃ entry, registry.catalog.get? tenantModule.state.moduleId = some entry ∧
    entry.status ≠ .notInstalled

theorem upsertTenantModule_eq_ok {registry registry' : ModuleRegistry}
    {tenantModule tenantModule' : TenantModule} :
    upsertTenantModule tenantModule registry = (.ok tenantModule', registry') ↔
      tenantModule' = tenantModule ∧
        ∃ installed : registry.Installs tenantModule,
          registry' = registry.insert tenantModule installed := by
  unfold upsertTenantModule
  constructor
  · intro h
    split at h
    · cases h
    · rename_i entry hfound
      split at h
      · cases h
      · rename_i hstatus
        cases h
        exact ⟨rfl, ⟨entry, hfound, hstatus⟩, rfl⟩
  · rintro ⟨rfl, ⟨entry, hentry, hstatus⟩, rfl⟩
    split
    · rename_i hnone
      rw [hentry] at hnone
      cases hnone
    · rename_i found hfound
      -- the entry found is the one that the installation names
      have hsame : found = entry := by
        rw [hentry, Option.some.injEq] at hfound
        exact hfound.symm
      subst hsame
      rw [dif_neg hstatus]

theorem upsertTenantModule_error {registry registry' : ModuleRegistry} {exn : Exn}
    {tenantModule : TenantModule}
    (h : upsertTenantModule tenantModule registry = (.error exn, registry')) :
    registry' = registry := by
  unfold upsertTenantModule at h
  split at h
  · cases h
    rfl
  · split at h
    · cases h
      rfl
    · cases h

/-- A transition returns when its next state is valid and may be stored. -/
theorem transition_eq_ok {next : ModuleRegistry → Except Exn TenantModule}
    {registry registry' : ModuleRegistry} {tenantModule : TenantModule} :
    transition next registry = (.ok tenantModule, registry') ↔
      next registry = .ok tenantModule ∧
        ∃ installed : registry.Installs tenantModule,
          registry' = registry.insert tenantModule installed := by
  rw [transition, Eff.bind_of_ok (Eff.get_apply registry), Eff.lift_bind_apply]
  cases hnext : next registry with
  | error exn => simp
  | ok found =>
    constructor
    · intro h
      obtain ⟨rfl, hstored⟩ := upsertTenantModule_eq_ok.mp h
      exact ⟨rfl, hstored⟩
    · rintro ⟨hfound, hstored⟩
      cases hfound
      exact upsertTenantModule_eq_ok.mpr ⟨rfl, hstored⟩

theorem transition_error {next : ModuleRegistry → Except Exn TenantModule}
    {registry registry' : ModuleRegistry} {exn : Exn}
    (h : transition next registry = (.error exn, registry')) : registry' = registry := by
  rw [transition, Eff.bind_of_ok (Eff.get_apply registry), Eff.lift_bind_apply] at h
  cases hnext : next registry with
  | error exn =>
    rw [hnext] at h
    cases h
    rfl
  | ok found =>
    rw [hnext] at h
    exact upsertTenantModule_error h

/-- **An operation that raises leaves the registry as it was.** -/
theorem perform_error {registry registry' : ModuleRegistry} {event : LifecycleEvent} {exn : Exn}
    (h : perform event registry = (.error exn, registry')) : registry' = registry := by
  obtain ⟨call, operation⟩ := event
  cases operation <;> exact transition_error h

theorem requireDecommissionEvidence_eq_ok {refs : Dict String String} {required : List String}
    {workflow : String} :
    requireDecommissionEvidence refs required workflow = .ok () ↔
      ∀ key ∈ required, key ∈ refs.keys := by
  rw [requireDecommissionEvidence, require_eq_ok, List.filter_eq_nil_iff]
  simp

theorem getTenantModule_bind_eq_ok {registry : ModuleRegistry} {tenantId moduleId : String}
    {f : TenantModule → Except Exn TenantModule} {tenantModule : TenantModule} :
    (registry.getTenantModule tenantId moduleId >>= f) = .ok tenantModule ↔
      ∃ existing, registry.tenantModules.get? (tenantId, moduleId) = some existing ∧
        f existing = .ok tenantModule := by
  simp only [Except.bind_eq_ok, getTenantModule_eq_ok]

theorem getCatalogEntry_bind_eq_ok {registry : ModuleRegistry} {moduleId : String}
    {f : ModuleCatalogEntry → Except Exn TenantModule} {tenantModule : TenantModule} :
    (registry.getCatalogEntry moduleId >>= f) = .ok tenantModule ↔
      ∃ entry, registry.catalog.get? moduleId = some entry ∧ f entry = .ok tenantModule := by
  simp only [Except.bind_eq_ok, getCatalogEntry_eq_ok]

/-- What each operation demands of the registry, and the state it then writes.
All but provisioning start from a module the registry has. -/
inductive Writes (registry : ModuleRegistry) (call : LifecycleCall) :
    LifecycleOperation → TenantModuleState → Prop
  | provision {entry : ModuleCatalogEntry} {evidence kept : List ModuleMigrationEvidence}
      {existing : Option TenantModule} {features : Option (Dict String Bool)}
      {manifest : Option (List ModuleMigrationEvidence)}
      (listed : registry.catalog.get? call.moduleId = some entry)
      (found : registry.tenantModules.get? call.key = existing)
      (provisionable : ∀ tenantModule ∈ existing,
        tenantModule.state.status ∉ provisionedStatuses)
      (collected : registry.migrationEvidenceForModule call.moduleId manifest = .ok evidence)
      (kept_eq : kept = if evidence = [] then (existing.map (·.state.migrationEvidence)).getD []
        else evidence)
      (needed : entry.requiredMigrationVersions = [] ∨ kept ≠ []) :
      Writes registry call (.provision features manifest)
        (provisionedState call existing features kept)
  | enable {existing : TenantModule} {entry : ModuleCatalogEntry}
      {features : Option (Dict String Bool)}
      (found : registry.tenantModules.get? call.key = some existing)
      (listed : registry.catalog.get? call.moduleId = some entry)
      (provisioned : existing.state.provisionedAtUtc ≠ none)
      (outside : existing.state.status ∉ decommissionStatuses)
      (migrated : requireStateMigrationEvidence entry existing.state = .ok ()) :
      Writes registry call (.enable features) (enabledUpdate existing.state call features)
  | disable {existing : TenantModule}
      (found : registry.tenantModules.get? call.key = some existing)
      (outside : existing.state.status ∉ decommissionStatuses) :
      Writes registry call .disable (disabledUpdate existing.state call)
  | suspend {existing : TenantModule}
      (found : registry.tenantModules.get? call.key = some existing)
      (outside : existing.state.status ∉ decommissionStatuses) :
      Writes registry call .suspend (stamped existing.state call .suspended)
  | requestDecommission {existing : TenantModule} {refs : Dict String String}
      (found : registry.tenantModules.get? call.key = some existing)
      (provisioned : existing.state.provisionedAtUtc ≠ none)
      (stopped : existing.state.status ∈ [ModuleStatus.disabled, .suspended])
      (complete : ∀ key ∈ requiredDecommissionEvidenceKeys, key ∈ refs.keys) :
      Writes registry call (.requestDecommission refs) (requestedUpdate existing.state call refs)
  | blockDecommission {existing : TenantModule} {refs : Dict String String}
      (found : registry.tenantModules.get? call.key = some existing)
      (active : existing.state.status ∈ [ModuleStatus.decommissionRequested, .decommissionBlocked])
      (requested : existing.state.decommissionRequestedAtUtc ≠ none)
      (evidence : existing.state.HasEvidence requiredDecommissionEvidenceKeys)
      (complete : ∀ key ∈ requiredDecommissionBlockerEvidenceKeys, key ∈ refs.keys) :
      Writes registry call (.blockDecommission refs) (blockedUpdate existing.state call refs)
  | cancelDecommission {existing : TenantModule} {refs : Dict String String}
      (found : registry.tenantModules.get? call.key = some existing)
      (active : existing.state.status ∈ [ModuleStatus.decommissionRequested, .decommissionBlocked])
      (requested : existing.state.decommissionRequestedAtUtc ≠ none)
      (evidence : existing.state.HasEvidence requiredDecommissionEvidenceKeys)
      (complete : ∀ key ∈ requiredDecommissionCancelEvidenceKeys, key ∈ refs.keys) :
      Writes registry call (.cancelDecommission refs) (cancelledUpdate existing.state call refs)
  | reopenDecommission {existing : TenantModule} {refs : Dict String String}
      (found : registry.tenantModules.get? call.key = some existing)
      (blocked : existing.state.status = .decommissionBlocked)
      (requested : existing.state.decommissionRequestedAtUtc ≠ none)
      (blockedAt : existing.state.decommissionBlockedAtUtc ≠ none)
      (evidence : existing.state.HasEvidence
        (requiredDecommissionEvidenceKeys ++ requiredDecommissionBlockerEvidenceKeys))
      (complete : ∀ key ∈ requiredDecommissionReopenEvidenceKeys, key ∈ refs.keys) :
      Writes registry call (.reopenDecommission refs) (reopenedUpdate existing.state call refs)
  | completeDecommission {existing : TenantModule} {refs : Dict String String}
      (found : registry.tenantModules.get? call.key = some existing)
      (active : existing.state.status ∈ [ModuleStatus.decommissionRequested, .decommissionBlocked])
      (requested : existing.state.decommissionRequestedAtUtc ≠ none)
      (evidence : existing.state.HasEvidence requiredDecommissionEvidenceKeys)
      (complete : ∀ key ∈ requiredDecommissionCompletionEvidenceKeys, key ∈ refs.keys) :
      Writes registry call (.completeDecommission refs) (completedUpdate existing.state call refs)

theorem decommissionBlockingReasons_eq_nil {status : ModuleStatus}
    (h : status ∈ [ModuleStatus.disabled, .suspended]) :
    decommissionBlockingReasons status = [] := by
  revert h
  cases status <;> decide

/-- The updates of all operations but provisioning keep whose module it is. -/
theorem Writes.key_eq {registry : ModuleRegistry} {call : LifecycleCall}
    {operation : LifecycleOperation} {state : TenantModuleState}
    (h : registry.Writes call operation state) : (state.tenantId, state.moduleId) = call.key := by
  cases h with
  | provision => rfl
  | enable found | disable found | suspend found | requestDecommission found
  | blockDecommission found | cancelDecommission found | reopenDecommission found
  | completeDecommission found => exact registry.filed _ _ found

end ModuleRegistry

/-! ## The machine of statuses

What is left of the operations when only the statuses are looked at. -/

namespace LifecycleOperation

/-- The statuses an operation starts from; `none` is a module the tenant does not have. -/
def Accepts : LifecycleOperation → Option ModuleStatus → Prop
  | .provision _ _, status? => ∀ status ∈ status?, status ∉ provisionedStatuses
  | .enable _, status? | .disable, status? | .suspend, status? =>
    ∃ status ∈ status?, status ∉ decommissionStatuses
  | .requestDecommission _, status? =>
    ∃ status ∈ status?, status ∈ [ModuleStatus.disabled, .suspended]
  | .blockDecommission _, status? | .cancelDecommission _, status?
  | .completeDecommission _, status? =>
    ∃ status ∈ status?, status ∈ [ModuleStatus.decommissionRequested, .decommissionBlocked]
  | .reopenDecommission _, status? => ∃ status ∈ status?, status = .decommissionBlocked

/-- The status an operation leads to. -/
def target : LifecycleOperation → ModuleStatus
  | .provision _ _ | .disable | .cancelDecommission _ => .disabled
  | .enable _ => .enabled
  | .suspend => .suspended
  | .requestDecommission _ | .reopenDecommission _ => .decommissionRequested
  | .blockDecommission _ => .decommissionBlocked
  | .completeDecommission _ => .decommissioned

theorem not_accepts_decommissioned (operation : LifecycleOperation) :
    ¬ operation.Accepts (some .decommissioned) := by
  cases operation <;> simp [Accepts, provisionedStatuses, decommissionStatuses]

end LifecycleOperation

namespace ModuleRegistry

/-- The status of a tenant's module, if the tenant has it. -/
def status? (registry : ModuleRegistry) (key : String × String) : Option ModuleStatus :=
  (registry.tenantModules.get? key).map (·.state.status)

/-- **The operations refine the machine of statuses.** -/
theorem Writes.accepts {registry : ModuleRegistry} {call : LifecycleCall}
    {operation : LifecycleOperation} {state : TenantModuleState}
    (h : registry.Writes call operation state) :
    operation.Accepts (registry.status? call.key) ∧ state.status = operation.target := by
  cases h with
  | provision listed found provisionable =>
    refine ⟨?_, rfl⟩
    intro status hstatus
    rw [status?, found] at hstatus
    obtain ⟨tenantModule, hmem, rfl⟩ := Option.map_eq_some_iff.mp hstatus
    exact provisionable tenantModule hmem
  | enable found _ _ outside | disable found outside | suspend found outside =>
    exact ⟨⟨_, by rw [status?, found]; rfl, outside⟩, rfl⟩
  | requestDecommission found _ stopped => exact ⟨⟨_, by rw [status?, found]; rfl, stopped⟩, rfl⟩
  | blockDecommission found active | cancelDecommission found active
  | completeDecommission found active => exact ⟨⟨_, by rw [status?, found]; rfl, active⟩, rfl⟩
  | reopenDecommission found blocked => exact ⟨⟨_, by rw [status?, found]; rfl, blocked⟩, rfl⟩

/-- The registry grants the event's operation, and is `registry'` once the tenant module is
stored. -/
def WritesTo (registry registry' : ModuleRegistry) (event : LifecycleEvent)
    (tenantModule : TenantModule) : Prop :=
  registry.Writes event.call event.operation tenantModule.state ∧
    ∃ installed : registry.Installs tenantModule,
      registry' = registry.insert tenantModule installed

section Operations

variable {registry registry' : ModuleRegistry} {call : LifecycleCall} {tenantModule : TenantModule}

/-- A transition stores what its check returned, where the module is installed. -/
theorem transition_writes {next : ModuleRegistry → Except Exn TenantModule}
    {operation : LifecycleOperation}
    (h : next registry = .ok tenantModule ↔ registry.Writes call operation tenantModule.state) :
    transition next registry = (.ok tenantModule, registry') ↔
      registry.WritesTo registry' ⟨call, operation⟩ tenantModule := by
  rw [transition_eq_ok, h]
  rfl

theorem provisionTenantModule_eq_ok {features : Option (Dict String Bool)}
    {manifest : Option (List ModuleMigrationEvidence)} :
    provisionTenantModule call features manifest registry = (.ok tenantModule, registry') ↔
      registry.WritesTo registry' ⟨call, .provision features manifest⟩ tenantModule := by
  refine transition_writes ?_
  constructor
  · intro h
    obtain ⟨entry, hentry, h⟩ := Except.bind_eq_ok.mp h
    obtain ⟨hnew, h⟩ := require_bind_eq_ok.mp h
    obtain ⟨evidence, hevidence, h⟩ := Except.bind_eq_ok.mp h
    obtain ⟨hneeded, h⟩ := require_bind_eq_ok.mp h
    rw [TenantModuleState.modelValidate_eq_ok.mp h]
    exact .provision (getCatalogEntry_eq_ok.mp hentry) rfl hnew hevidence rfl hneeded
  · generalize hstate : tenantModule.state = state
    intro h
    cases h with
    | provision hentry hfound hnew hevidence hkept hneeded =>
      subst hfound hkept
      refine Except.bind_eq_ok.mpr ⟨_, getCatalogEntry_eq_ok.mpr hentry, ?_⟩
      refine require_bind_eq_ok.mpr ⟨hnew, Except.bind_eq_ok.mpr ⟨_, hevidence, ?_⟩⟩
      exact require_bind_eq_ok.mpr ⟨hneeded, TenantModuleState.modelValidate_eq_ok.mpr hstate⟩

theorem enableTenantModule_eq_ok {features : Option (Dict String Bool)} :
    enableTenantModule call features registry = (.ok tenantModule, registry') ↔
      registry.WritesTo registry' ⟨call, .enable features⟩ tenantModule := by
  refine transition_writes ?_
  simp only [getTenantModule_bind_eq_ok, getCatalogEntry_bind_eq_ok, Except.unit_bind_eq_ok,
    require_eq_ok, TenantModuleState.modelValidate_eq_ok]
  constructor
  · rintro ⟨existing, hfound, entry, hentry, hprovisioned, houtside, hmigrated, hstate⟩
    rw [hstate]
    exact .enable hfound hentry hprovisioned houtside hmigrated
  · generalize hstate : tenantModule.state = state
    intro h
    cases h with
    | enable hfound hentry hprovisioned houtside hmigrated =>
      exact ⟨_, hfound, _, hentry, hprovisioned, houtside, hmigrated, rfl⟩

theorem disableTenantModule_eq_ok :
    disableTenantModule call registry = (.ok tenantModule, registry') ↔
      registry.WritesTo registry' ⟨call, .disable⟩ tenantModule := by
  refine transition_writes ?_
  simp only [getTenantModule_bind_eq_ok, require_bind_eq_ok,
    TenantModuleState.modelValidate_eq_ok]
  constructor
  · rintro ⟨existing, hfound, houtside, hstate⟩
    rw [hstate]
    exact .disable hfound houtside
  · generalize hstate : tenantModule.state = state
    intro h
    cases h with
    | disable hfound houtside =>
      exact ⟨_, hfound, houtside, rfl⟩

theorem suspendTenantModule_eq_ok :
    suspendTenantModule call registry = (.ok tenantModule, registry') ↔
      registry.WritesTo registry' ⟨call, .suspend⟩ tenantModule := by
  refine transition_writes ?_
  simp only [getTenantModule_bind_eq_ok, require_bind_eq_ok,
    TenantModuleState.modelValidate_eq_ok]
  constructor
  · rintro ⟨existing, hfound, houtside, hstate⟩
    rw [hstate]
    exact .suspend hfound houtside
  · generalize hstate : tenantModule.state = state
    intro h
    cases h with
    | suspend hfound houtside =>
      exact ⟨_, hfound, houtside, rfl⟩

theorem requestDecommission_eq_ok {refs : Dict String String} :
    requestDecommission call refs registry = (.ok tenantModule, registry') ↔
      registry.WritesTo registry' ⟨call, .requestDecommission refs⟩ tenantModule := by
  refine transition_writes ?_
  simp only [getTenantModule_bind_eq_ok, Except.unit_bind_eq_ok, require_eq_ok,
    requireDecommissionEvidence_eq_ok, TenantModuleState.modelValidate_eq_ok]
  constructor
  · rintro ⟨existing, hfound, hprovisioned, hstopped, -, hcomplete, hstate⟩
    rw [hstate]
    exact .requestDecommission hfound hprovisioned hstopped hcomplete
  · generalize hstate : tenantModule.state = state
    intro h
    cases h with
    | requestDecommission hfound hprovisioned hstopped hcomplete =>
      exact ⟨_, hfound, hprovisioned, hstopped, decommissionBlockingReasons_eq_nil hstopped,
        hcomplete, rfl⟩

theorem blockDecommission_eq_ok {refs : Dict String String} :
    blockDecommission call refs registry = (.ok tenantModule, registry') ↔
      registry.WritesTo registry' ⟨call, .blockDecommission refs⟩ tenantModule := by
  refine transition_writes ?_
  simp only [getTenantModule_bind_eq_ok, Except.unit_bind_eq_ok, require_eq_ok,
    requireDecommissionEvidence_eq_ok, TenantModuleState.modelValidate_eq_ok]
  constructor
  · rintro ⟨existing, hfound, hopen, hrequested, hevidence, hcomplete, hstate⟩
    rw [hstate]
    exact .blockDecommission hfound hopen hrequested hevidence hcomplete
  · generalize hstate : tenantModule.state = state
    intro h
    cases h with
    | blockDecommission hfound hopen hrequested hevidence hcomplete =>
      exact ⟨_, hfound, hopen, hrequested, hevidence, hcomplete, rfl⟩

theorem cancelDecommission_eq_ok {refs : Dict String String} :
    cancelDecommission call refs registry = (.ok tenantModule, registry') ↔
      registry.WritesTo registry' ⟨call, .cancelDecommission refs⟩ tenantModule := by
  refine transition_writes ?_
  simp only [getTenantModule_bind_eq_ok, Except.unit_bind_eq_ok, require_eq_ok,
    requireDecommissionEvidence_eq_ok, TenantModuleState.modelValidate_eq_ok]
  constructor
  · rintro ⟨existing, hfound, hopen, hrequested, hevidence, hcomplete, hstate⟩
    rw [hstate]
    exact .cancelDecommission hfound hopen hrequested hevidence hcomplete
  · generalize hstate : tenantModule.state = state
    intro h
    cases h with
    | cancelDecommission hfound hopen hrequested hevidence hcomplete =>
      exact ⟨_, hfound, hopen, hrequested, hevidence, hcomplete, rfl⟩

theorem reopenDecommission_eq_ok {refs : Dict String String} :
    reopenDecommission call refs registry = (.ok tenantModule, registry') ↔
      registry.WritesTo registry' ⟨call, .reopenDecommission refs⟩ tenantModule := by
  refine transition_writes ?_
  simp only [getTenantModule_bind_eq_ok, Except.unit_bind_eq_ok, require_eq_ok,
    requireDecommissionEvidence_eq_ok, TenantModuleState.modelValidate_eq_ok]
  constructor
  · rintro ⟨existing, hfound, hblocked, ⟨hrequested, hat⟩, hevidence, hcomplete, hstate⟩
    rw [hstate]
    exact .reopenDecommission hfound hblocked hrequested hat hevidence hcomplete
  · generalize hstate : tenantModule.state = state
    intro h
    cases h with
    | reopenDecommission hfound hblocked hrequested hat hevidence hcomplete =>
      exact ⟨_, hfound, hblocked, ⟨hrequested, hat⟩, hevidence, hcomplete, rfl⟩

theorem completeDecommission_eq_ok {refs : Dict String String} :
    completeDecommission call refs registry = (.ok tenantModule, registry') ↔
      registry.WritesTo registry' ⟨call, .completeDecommission refs⟩ tenantModule := by
  refine transition_writes ?_
  simp only [getTenantModule_bind_eq_ok, Except.unit_bind_eq_ok, require_eq_ok,
    requireDecommissionEvidence_eq_ok, TenantModuleState.modelValidate_eq_ok]
  constructor
  · rintro ⟨existing, hfound, hopen, hrequested, hevidence, hcomplete, hstate⟩
    rw [hstate]
    exact .completeDecommission hfound hopen hrequested hevidence hcomplete
  · generalize hstate : tenantModule.state = state
    intro h
    cases h with
    | completeDecommission hfound hopen hrequested hevidence hcomplete =>
      exact ⟨_, hfound, hopen, hrequested, hevidence, hcomplete, rfl⟩

end Operations

/-- **One operation** returns a tenant module exactly when the registry grants
the operation, the state it writes is valid and its module is installed; it
then stores that tenant module and nothing else. -/
theorem perform_eq_ok {registry registry' : ModuleRegistry} {event : LifecycleEvent}
    {tenantModule : TenantModule} :
    perform event registry = (.ok tenantModule, registry') ↔
      registry.Writes event.call event.operation tenantModule.state ∧
        ∃ installed : registry.Installs tenantModule,
          registry' = registry.insert tenantModule installed := by
  obtain ⟨call, operation⟩ := event
  cases operation with
  | provision features manifest => exact provisionTenantModule_eq_ok
  | enable features => exact enableTenantModule_eq_ok
  | disable => exact disableTenantModule_eq_ok
  | suspend => exact suspendTenantModule_eq_ok
  | requestDecommission refs => exact requestDecommission_eq_ok
  | blockDecommission refs => exact blockDecommission_eq_ok
  | cancelDecommission refs => exact cancelDecommission_eq_ok
  | reopenDecommission refs => exact reopenDecommission_eq_ok
  | completeDecommission refs => exact completeDecommission_eq_ok

end ModuleRegistry

end Collabio
