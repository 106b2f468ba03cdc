import Mathlib.Tactic
import Collabio.Platform.ModuleWorkflow

/-!
# Operations that succeed

For the operations that lead a module back into use: what makes the state they
write valid, and what makes them return.

* `coreManifest_covers` — every listed module has a manifest that covers it;
* `provision_stores`, `enable_stores`, `disable_stores`, `request_stores`,
  `cancel_stores`   — under these conditions the operation stores its state.
-/

namespace Collabio

/-! ## Migration evidence from a manifest -/

namespace ModuleRegistry

theorem migrationEvidenceByVersion_spec {manifest : List ModuleMigrationEvidence}
    {found result : Dict String ModuleMigrationEvidence}
    (h : migrationEvidenceByVersion found manifest = .ok result)
    (hfound : ∀ version evidence, found.get? version = some evidence →
      evidence.version = version ∧ evidence.errors = []) :
    ∀ version evidence, result.get? version = some evidence →
      evidence.version = version ∧ evidence.errors = [] := by
  induction manifest generalizing found with
  | nil =>
    cases h
    exact hfound
  | cons entry rest ih =>
    rw [migrationEvidenceByVersion] at h
    obtain ⟨evidence, hvalid, h⟩ := Except.bind_eq_ok.mp h
    obtain ⟨-, h⟩ := require_bind_eq_ok.mp h
    refine ih h ?_
    intro version other hget
    rw [Dict.get?_set] at hget
    by_cases hversion : version = evidence.version
    · -- the version of this entry: what is stored is what was accepted
      rw [if_pos hversion, Option.some.injEq] at hget
      obtain ⟨herrors, hsame⟩ := accept_eq_ok.mp hvalid
      rw [← hget]
      exact ⟨hversion.symm, hsame ▸ herrors⟩
    · -- the version of an earlier entry, which stays
      rw [if_neg hversion] at hget
      exact hfound version other hget

/-- What the collected evidence is: one blocking, valid entry for each required
version, of the core or of the module. -/
structure Collected (entry : ModuleCatalogEntry) (moduleId : String)
    (evidence : List ModuleMigrationEvidence) : Prop where
  versions : evidence.map (·.version) = Text.sortedSet entry.requiredMigrationVersions
  valid    : ∀ item ∈ evidence, item.errors = []
  blocking : ∀ item ∈ evidence, item.blocksStartup = true
  owners   : ∀ item ∈ evidence, item.moduleId ∈ ["core", moduleId]

theorem requiredEvidence_eq_ok {moduleId version : String}
    {byVersion : Dict String ModuleMigrationEvidence} {evidence : ModuleMigrationEvidence} :
    requiredEvidence moduleId byVersion version = .ok evidence ↔
      byVersion.get? version = some evidence ∧ evidence.blocksStartup = true ∧
        evidence.moduleId ∈ ["core", moduleId] := by
  unfold requiredEvidence
  cases hget : byVersion.get? version with
  | none => simp
  | some found =>
    simp only [require_bind_eq_ok, Option.some.injEq]
    constructor
    · rintro ⟨hblocks, howner, hsame⟩
      cases hsame
      exact ⟨rfl, hblocks, howner⟩
    · rintro ⟨rfl, hblocks, howner⟩
      exact ⟨hblocks, howner, rfl⟩

/-- The evidence a module is provisioned with. -/
theorem collected_of_evidence {registry : ModuleRegistry} {moduleId : String}
    {manifest : Option (List ModuleMigrationEvidence)} {entry : ModuleCatalogEntry}
    {evidence : List ModuleMigrationEvidence}
    (hentry : registry.catalog.get? moduleId = some entry)
    (h : registry.migrationEvidenceForModule moduleId manifest = .ok evidence) :
    Collected entry moduleId evidence := by
  unfold migrationEvidenceForModule at h
  obtain ⟨found, hfound, h⟩ := Except.bind_eq_ok.mp h
  have hsame : found = entry := by
    rw [getCatalogEntry_eq_ok, hentry, Option.some.injEq] at hfound
    exact hfound.symm
  subst hsame
  by_cases hnone : found.requiredMigrationVersions = []
  · -- no migration is required, and no evidence is asked for
    rw [if_pos hnone] at h
    cases h
    refine ⟨?_, by simp, by simp, by simp⟩
    rw [hnone, Text.sortedSet_eq_nil.mpr rfl]
    rfl
  · rw [if_neg hnone] at h
    obtain ⟨byVersion, hbyVersion, h⟩ := Except.bind_eq_ok.mp h
    obtain ⟨-, h⟩ := require_bind_eq_ok.mp h
    -- what stands under a version is evidence of this version
    have hspec := migrationEvidenceByVersion_spec hbyVersion (by
      intro version other hget
      cases hget)
    have hitems : ∀ item ∈ evidence, ∃ version, requiredEvidence moduleId byVersion version =
        .ok item := Except.mem_of_mapM h
    refine ⟨?_, ?_, ?_, ?_⟩
    · -- the loop asks for one version after the other, and gets an entry of that version
      refine Except.map_of_mapM h fun version item hitem => ?_
      exact (hspec version item (requiredEvidence_eq_ok.mp hitem).1).1
    · intro item hitem
      obtain ⟨version, hversion⟩ := hitems item hitem
      exact (hspec version item (requiredEvidence_eq_ok.mp hversion).1).2
    · intro item hitem
      obtain ⟨version, hversion⟩ := hitems item hitem
      exact (requiredEvidence_eq_ok.mp hversion).2.1
    · intro item hitem
      obtain ⟨version, hversion⟩ := hitems item hitem
      exact (requiredEvidence_eq_ok.mp hversion).2.2

/-- An entry of a manifest, as a deployment writes it. -/
def coreMigration (version : String) : ModuleMigrationEvidence where
  version := version
  name := "migration"
  moduleId := "core"
  checksum := "sha256:migration"
  evidenceRefs := ["audit:migration"]
  blocksStartup := true

theorem coreMigration_valid {version : String} (h : isMigrationVersion version = true) :
    (coreMigration version).validate = .ok (coreMigration version) := by
  have htexts : Text.strip "migration" ≠ "" ∧ isModuleId "core" = true ∧
      isModuleRef "sha256:migration" = true ∧
      ModuleMigrationEvidence.evidenceRefsErrors ["audit:migration"] = [] := by decide +kernel
  refine accept_eq_ok.mpr ⟨?_, rfl⟩
  simp [ModuleMigrationEvidence.errors, coreMigration, h, htexts]

/-- Distinct versions make a manifest that reads back each of them. -/
theorem migrationEvidenceByVersion_core {versions : List String}
    {found : Dict String ModuleMigrationEvidence} (hunique : versions.Nodup)
    (hfresh : ∀ version ∈ versions, version ∉ found.keys)
    (hvalid : ∀ version ∈ versions, isMigrationVersion version = true) :
    ∃ result, migrationEvidenceByVersion found (versions.map coreMigration) = .ok result ∧
      ∀ version, result.get? version =
        if version ∈ versions then some (coreMigration version) else found.get? version := by
  induction versions generalizing found with
  | nil => exact ⟨found, rfl, by simp⟩
  | cons version rest ih =>
    rw [List.nodup_cons] at hunique
    -- the version is new, to what was found and to the rest
    obtain ⟨result, hresult, hget⟩ := @ih (found.set version (coreMigration version)) hunique.2
      (by
        intro other hother
        rw [Dict.mem_keys_set, not_or]
        refine ⟨?_, hfresh other (List.mem_cons_of_mem _ hother)⟩
        rintro rfl
        exact hunique.1 hother)
      (fun other hother => hvalid other (List.mem_cons_of_mem _ hother))
    refine ⟨result, ?_, ?_⟩
    · rw [List.map_cons, migrationEvidenceByVersion]
      refine Except.bind_eq_ok.mpr ⟨_, coreMigration_valid (hvalid version (by simp)), ?_⟩
      exact require_bind_eq_ok.mpr ⟨hfresh version (by simp), hresult⟩
    · intro other
      rw [hget, Dict.get?_set]
      by_cases hrest : other ∈ rest
      · simp [hrest]
      · by_cases hother : other = version
        · simp [hother]
        · simp [hrest, hother]

/-- A manifest for a listed module. -/
def coreManifest (entry : ModuleCatalogEntry) : List ModuleMigrationEvidence :=
  entry.requiredMigrationVersions.map coreMigration

/-- **Every module of the catalog has a manifest that covers it.** -/
theorem coreManifest_covers {registry : ModuleRegistry} {moduleId : String}
    {entry : ModuleCatalogEntry} (hentry : registry.catalog.get? moduleId = some entry) :
    ∃ evidence,
      registry.migrationEvidenceForModule moduleId (some (coreManifest entry)) = .ok evidence := by
  unfold migrationEvidenceForModule
  simp only [Except.bind_eq_ok, getCatalogEntry_eq_ok]
  by_cases hnone : entry.requiredMigrationVersions = []
  · exact ⟨[], entry, hentry, by rw [if_pos hnone]; rfl⟩
  · -- the manifest of the catalog's own versions is read back version by version
    obtain ⟨byVersion, hbyVersion, hget⟩ := @migrationEvidenceByVersion_core
      entry.requiredMigrationVersions ∅ entry.uniqueVersions (by
        intro version _ hmem
        cases hmem) entry.fourDigitVersions
    have hmissing : entry.requiredMigrationVersions.filter (· ∉ byVersion.keys) = [] := by
      rw [List.filter_eq_nil_iff]
      intro version hversion
      have hkey : version ∈ byVersion.keys :=
        Dict.mem_keys.mpr ⟨coreMigration version, by rw [hget, if_pos hversion]⟩
      simp [hkey]
    obtain ⟨evidence, hevidence⟩ := @Except.mapM_isOk _ _ _
      (requiredEvidence moduleId byVersion) (Text.sortedSet entry.requiredMigrationVersions) (by
        intro version hversion
        rw [Text.mem_sortedSet] at hversion
        refine ⟨coreMigration version, requiredEvidence_eq_ok.mpr ⟨?_, rfl, by simp [coreMigration]⟩⟩
        rw [hget, if_pos hversion])
    refine ⟨evidence, entry, hentry, ?_⟩
    rw [if_neg hnone]
    refine Except.bind_eq_ok.mpr ⟨byVersion, hbyVersion, ?_⟩
    exact require_bind_eq_ok.mpr ⟨Text.sortedSet_eq_nil.mpr hmissing, hevidence⟩

/-! ## What a provision keeps -/

/-- The migration evidence a provision writes: what the manifest yields, or, where
the module needs none, what the tenant module had. -/
def keptEvidence (existing : Option TenantModule) (evidence : List ModuleMigrationEvidence) :
    List ModuleMigrationEvidence :=
  if evidence = [] then (existing.map (·.state.migrationEvidence)).getD [] else evidence

/-- Only a module that needs no migration yields no evidence. -/
theorem Collected.needed {entry : ModuleCatalogEntry} {moduleId : String}
    (h : Collected entry moduleId []) : entry.requiredMigrationVersions = [] :=
  Text.sortedSet_eq_nil.mp h.versions.symm

/-- Kept evidence passes the migration check of the gates. -/
theorem Collected.migrated {entry : ModuleCatalogEntry} {moduleId : String}
    {evidence : List ModuleMigrationEvidence} (h : Collected entry moduleId evidence)
    {existing : Option TenantModule} {state : TenantModuleState}
    (hkept : state.migrationEvidence = keptEvidence existing evidence) :
    requireStateMigrationEvidence entry state = .ok () := by
  rw [requireStateMigrationEvidence_eq_ok]
  intro version hversion
  have hmem : version ∈ evidence.map (·.version) := by
    rw [h.versions, Text.mem_sortedSet]
    exact hversion
  obtain ⟨item, hitem, rfl⟩ := List.mem_map.mp hmem
  rw [hkept, keptEvidence, if_neg (List.ne_nil_of_mem hitem)]
  exact ⟨item, hitem, rfl, h.blocking item hitem⟩

/-! ## Valid updates -/

/-- Merged decommission evidence is valid when both parts are. -/
theorem refs_decommissionUpdate {state : TenantModuleState} (hstate : state.Valid)
    (call : LifecycleCall) (status : ModuleStatus) {refs : Dict String String}
    (hrefs : ∀ item ∈ refs.items,
      item.1 ∈ allowedDecommissionEvidenceKeys ∧ isModuleRef item.2 = true) :
    ∀ item ∈ (decommissionUpdate state call status refs).decommissionEvidenceRefs.items,
      item.1 ∈ allowedDecommissionEvidenceKeys ∧ isModuleRef item.2 = true := by
  intro item hitem
  rcases Dict.mem_items_update (Dict.mem_items_sorted.mp hitem) with hold | hnew
  · exact hstate.refs item hold
  · exact hrefs item hnew

/-- Evidence that was there, or is new, is there after a merge. -/
theorem hasEvidence_decommissionUpdate {state : TenantModuleState} (call : LifecycleCall)
    (status : ModuleStatus) {refs : Dict String String} {required : List String}
    (h : ∀ key ∈ required, key ∈ state.decommissionEvidenceRefs.keys ∨ key ∈ refs.keys) :
    (decommissionUpdate state call status refs).HasEvidence required := by
  intro key hkey
  rw [decommissionUpdate, Dict.mem_keys_sorted, Dict.mem_keys_update]
  exact h key hkey

theorem not_anyFeature_decommissionUpdate (state : TenantModuleState) (call : LifecycleCall)
    (status : ModuleStatus) (refs : Dict String String) :
    ¬ (decommissionUpdate state call status refs).AnyFeature := by
  simp [TenantModuleState.AnyFeature, decommissionUpdate]

theorem provisionedState_valid {call : LifecycleCall} (hcall : call.Accepted)
    {existing : TenantModule} (hkey : existing.key = call.key) {entry : ModuleCatalogEntry}
    {evidence : List ModuleMigrationEvidence}
    (hevidence : Collected entry call.moduleId evidence) :
    (provisionedState call (some existing) none (keptEvidence (some existing) evidence)).Valid := by
  have hmodule : existing.state.moduleId = call.moduleId := congrArg Prod.snd hkey
  have htenant : existing.state.tenantId = call.tenantId := congrArg Prod.fst hkey
  have hexisting := existing.isValid
  -- evidence the module had is of its own, valid state
  have hkept : keptEvidence (some existing) evidence = existing.state.migrationEvidence ∨
      keptEvidence (some existing) evidence = evidence := by
    unfold keptEvidence
    split
    · exact .inl rfl
    · exact .inr rfl
  exact {
    tenant := by
      show Text.strip call.tenantId ≠ ""
      rw [← htenant]
      exact hexisting.tenant
    namedModule := by
      show isModuleId call.moduleId = true
      rw [← hmodule]
      exact hexisting.namedModule
    policy := hcall.policy
    changedBy := hcall.changedBy
    audit := hcall.audit
    evidence := by
      show ∀ item ∈ keptEvidence (some existing) evidence, item.errors = []
      rcases hkept with hkept | hkept <;> rw [hkept]
      · exact hexisting.evidence
      · exact hevidence.valid
    features := by
      -- a provision without flags keeps those the module has
      show ∀ featureId ∈ existing.state.enabledFeatures.keys,
        isFeatureId featureId = true ∧ belongsTo call.moduleId featureId
      rw [← hmodule]
      exact hexisting.features
    versions := by
      show ((keptEvidence (some existing) evidence).map (·.version)).Nodup
      rcases hkept with hkept | hkept <;> rw [hkept]
      · exact hexisting.versions
      · rw [hevidence.versions]
        exact Text.nodup_sortedSet _
    owners := by
      show ∀ item ∈ keptEvidence (some existing) evidence,
        item.moduleId ∈ ["core", call.moduleId]
      rcases hkept with hkept | hkept <;> rw [hkept]
      · rw [← hmodule]
        exact hexisting.owners
      · exact hevidence.owners
    refs := by
      intro item hitem
      cases hitem
    status := by constructor <;> simp [provisionedState] }

theorem enabledUpdate_valid {state : TenantModuleState} (hstate : state.Valid)
    {call : LifecycleCall} (hcall : call.Accepted) {features : Option (Dict String Bool)}
    (hfeatures : ∀ featureId ∈ (features.getD state.enabledFeatures).keys,
      isFeatureId featureId = true ∧ belongsTo state.moduleId featureId) :
    (enabledUpdate state call features).Valid where
  tenant := hstate.tenant
  namedModule := hstate.namedModule
  policy := hcall.policy
  changedBy := hcall.changedBy
  audit := hcall.audit
  evidence := hstate.evidence
  features := hfeatures
  versions := hstate.versions
  owners := hstate.owners
  refs := hstate.refs
  status := by
    constructor
    case enabled => simp [enabledUpdate]
    case cancelledEvidence => exact hstate.status.cancelledEvidence
    case reopenedRequested => exact hstate.status.reopenedRequested
    case reopenedBlocked => exact hstate.status.reopenedBlocked
    case reopenedEvidence => exact hstate.status.reopenedEvidence
    -- the other conditions are about other statuses
    all_goals simp [enabledUpdate, stamped]

/-- A disabling is valid unless it runs into the rule for cancelled decommissions. -/
theorem disabledUpdate_valid {state : TenantModuleState} (hstate : state.Valid)
    {call : LifecycleCall} (hcall : call.Accepted)
    (hcancelled : state.decommissionCancelledAtUtc = none ∨ ¬ state.AnyFeature) :
    (disabledUpdate state call).Valid where
  tenant := hstate.tenant
  namedModule := hstate.namedModule
  policy := hcall.policy
  changedBy := hcall.changedBy
  audit := hcall.audit
  evidence := hstate.evidence
  features := hstate.features
  versions := hstate.versions
  owners := hstate.owners
  refs := hstate.refs
  status := by
    constructor
    case disabled => simp [disabledUpdate]
    case cancelledEvidence => exact hstate.status.cancelledEvidence
    -- the one rule that a disabling can break
    case cancelledFeatures =>
      intro hat _
      exact hcancelled.resolve_left hat
    case reopenedRequested => exact hstate.status.reopenedRequested
    case reopenedBlocked => exact hstate.status.reopenedBlocked
    case reopenedEvidence => exact hstate.status.reopenedEvidence
    all_goals simp [disabledUpdate, stamped]

/-- References for one step of the decommission workflow: every required key is
there, every key is known, and every reference is namespaced. -/
structure CompleteRefs (refs : Dict String String) (required : List String) : Prop where
  complete : ∀ key ∈ required, key ∈ refs.keys
  valid    : ∀ item ∈ refs.items,
               item.1 ∈ allowedDecommissionEvidenceKeys ∧ isModuleRef item.2 = true

/-- One reference for each required key. -/
def evidenceRefs (required : List String) (unique : required.Nodup) : Dict String String where
  items := required.map fun evidenceKey => (evidenceKey, "audit:evidence")
  nodup := by
    rw [List.map_map]
    exact (List.map_id required).symm ▸ unique

theorem evidenceRefs_complete {required : List String} (unique : required.Nodup)
    (known : ∀ evidenceKey ∈ required, evidenceKey ∈ allowedDecommissionEvidenceKeys) :
    CompleteRefs (evidenceRefs required unique) required where
  complete := by
    intro evidenceKey hkey
    show evidenceKey ∈ (required.map fun evidenceKey => (evidenceKey, "audit:evidence")).map Prod.fst
    rw [List.map_map]
    exact (List.map_id required).symm ▸ hkey
  valid := by
    have href : isModuleRef "audit:evidence" = true := by decide +kernel
    intro item hitem
    obtain ⟨evidenceKey, hkey, rfl⟩ := List.mem_map.mp hitem
    exact ⟨known evidenceKey hkey, href⟩

theorem requestedUpdate_valid {state : TenantModuleState} (hstate : state.Valid)
    {call : LifecycleCall} (hcall : call.Accepted) {refs : Dict String String}
    (hrefs : CompleteRefs refs requiredDecommissionEvidenceKeys) :
    (requestedUpdate state call refs).Valid where
  tenant := hstate.tenant
  namedModule := hstate.namedModule
  policy := hcall.policy
  changedBy := hcall.changedBy
  audit := hcall.audit
  evidence := hstate.evidence
  features := by
    show ∀ featureId ∈ (state.enabledFeatures.mapValues fun _ => false).keys, _
    rw [Dict.keys_mapValues]
    exact hstate.features
  versions := hstate.versions
  owners := hstate.owners
  refs := refs_decommissionUpdate hstate call .decommissionRequested hrefs.valid
  status := by
    -- a requested decommissioning needs its evidence and no features; the rest is as before
    constructor
    case requestedAt => simp [requestedUpdate]
    case requestedEvidence =>
      exact fun _ => hasEvidence_decommissionUpdate call .decommissionRequested fun key hkey =>
        .inr (hrefs.complete key hkey)
    case requestedFeatures =>
      exact fun _ => not_anyFeature_decommissionUpdate state call .decommissionRequested refs
    case cancelledEvidence =>
      exact fun hat => hasEvidence_decommissionUpdate call .decommissionRequested fun key hkey =>
        .inl (hstate.status.cancelledEvidence hat key hkey)
    case cancelledFeatures =>
      exact fun _ _ => not_anyFeature_decommissionUpdate state call .decommissionRequested refs
    case reopenedRequested => simp [requestedUpdate]
    case reopenedBlocked => exact hstate.status.reopenedBlocked
    case reopenedEvidence =>
      exact fun hat => hasEvidence_decommissionUpdate call .decommissionRequested fun key hkey =>
        .inl (hstate.status.reopenedEvidence hat key hkey)
    all_goals simp [requestedUpdate, decommissionUpdate, stamped]

theorem cancelledUpdate_valid {state : TenantModuleState} (hstate : state.Valid)
    {call : LifecycleCall} (hcall : call.Accepted) {refs : Dict String String}
    (hrefs : CompleteRefs refs requiredDecommissionCancelEvidenceKeys) :
    (cancelledUpdate state call refs).Valid where
  tenant := hstate.tenant
  namedModule := hstate.namedModule
  policy := hcall.policy
  changedBy := hcall.changedBy
  audit := hcall.audit
  evidence := hstate.evidence
  features := by
    show ∀ featureId ∈ (state.enabledFeatures.mapValues fun _ => false).keys, _
    rw [Dict.keys_mapValues]
    exact hstate.features
  versions := hstate.versions
  owners := hstate.owners
  refs := refs_decommissionUpdate hstate call .disabled hrefs.valid
  status := by
    -- a cancelled decommissioning leaves the module disabled, with all features off
    constructor
    case disabled => simp [cancelledUpdate]
    case cancelledEvidence =>
      exact fun _ => hasEvidence_decommissionUpdate call .disabled fun key hkey =>
        .inr (hrefs.complete key hkey)
    case cancelledFeatures =>
      exact fun _ _ => not_anyFeature_decommissionUpdate state call .disabled refs
    case reopenedRequested => exact hstate.status.reopenedRequested
    case reopenedBlocked => exact hstate.status.reopenedBlocked
    case reopenedEvidence =>
      exact fun hat => hasEvidence_decommissionUpdate call .disabled fun key hkey =>
        .inl (hstate.status.reopenedEvidence hat key hkey)
    all_goals simp [cancelledUpdate, decommissionUpdate, stamped]

/-! ## Operations that return -/

variable {registry : ModuleRegistry} {call : LifecycleCall} {existing : TenantModule}

theorem provision_stores (hcall : call.Accepted)
    (hfound : registry.tenantModules.get? call.key = some existing)
    (hstatus : existing.state.status ∉ provisionedStatuses)
    {manifest : List ModuleMigrationEvidence} {evidence : List ModuleMigrationEvidence}
    (hcovers : registry.migrationEvidenceForModule call.moduleId (some manifest) = .ok evidence) :
    ∃ tenantModule, registry.Stores ⟨call, .provision none (some manifest)⟩ tenantModule ∧
      tenantModule.state =
        provisionedState call (some existing) none (keptEvidence (some existing) evidence) := by
  obtain ⟨entry, hentry, hinstalled⟩ := registry.listed hfound
  have hcollected := collected_of_evidence hentry hcovers
  refine stores_of_writes ?_ (provisionedState_valid hcall (registry.filed _ _ hfound) hcollected)
    ⟨entry, hentry, hinstalled⟩
  refine .provision hentry hfound ?_ hcovers rfl ?_
  · intro tenantModule hmem
    cases hmem
    exact hstatus
  · by_cases hnone : evidence = []
    · subst hnone
      exact .inl hcollected.needed
    · right
      rw [keptEvidence, if_neg hnone]
      exact hnone

theorem enable_stores (hcall : call.Accepted)
    (hfound : registry.tenantModules.get? call.key = some existing)
    (hprovisioned : existing.state.provisionedAtUtc ≠ none)
    (hstatus : existing.state.status ∉ decommissionStatuses)
    {entry : ModuleCatalogEntry} (hentry : registry.catalog.get? call.moduleId = some entry)
    (hmigrated : requireStateMigrationEvidence entry existing.state = .ok ())
    {features : Option (Dict String Bool)}
    (hfeatures : ∀ featureId ∈ (features.getD existing.state.enabledFeatures).keys,
      isFeatureId featureId = true ∧ belongsTo existing.state.moduleId featureId) :
    ∃ tenantModule, registry.Stores ⟨call, .enable features⟩ tenantModule ∧
      tenantModule.state = enabledUpdate existing.state call features :=
  stores_of_writes (.enable hfound hentry hprovisioned hstatus hmigrated)
    (enabledUpdate_valid existing.isValid hcall hfeatures) (registry.listed hfound)

theorem disable_stores (hcall : call.Accepted)
    (hfound : registry.tenantModules.get? call.key = some existing)
    (hstatus : existing.state.status ∉ decommissionStatuses)
    (hcancelled : existing.state.decommissionCancelledAtUtc = none ∨
      ¬ existing.state.AnyFeature) :
    ∃ tenantModule, registry.Stores ⟨call, .disable⟩ tenantModule ∧
      tenantModule.state = disabledUpdate existing.state call :=
  stores_of_writes (.disable hfound hstatus)
    (disabledUpdate_valid existing.isValid hcall hcancelled) (registry.listed hfound)

theorem request_stores (hcall : call.Accepted)
    (hfound : registry.tenantModules.get? call.key = some existing)
    (hprovisioned : existing.state.provisionedAtUtc ≠ none)
    (hstopped : existing.state.status ∈ [ModuleStatus.disabled, .suspended])
    {refs : Dict String String} (hrefs : CompleteRefs refs requiredDecommissionEvidenceKeys) :
    ∃ tenantModule, registry.Stores ⟨call, .requestDecommission refs⟩ tenantModule ∧
      tenantModule.state = requestedUpdate existing.state call refs :=
  stores_of_writes (.requestDecommission hfound hprovisioned hstopped hrefs.complete)
    (requestedUpdate_valid existing.isValid hcall hrefs) (registry.listed hfound)

theorem cancel_stores (hcall : call.Accepted)
    (hfound : registry.tenantModules.get? call.key = some existing)
    (hactive : existing.state.status ∈
      [ModuleStatus.decommissionRequested, .decommissionBlocked])
    {refs : Dict String String} (hrefs : CompleteRefs refs requiredDecommissionCancelEvidenceKeys) :
    ∃ tenantModule, registry.Stores ⟨call, .cancelDecommission refs⟩ tenantModule ∧
      tenantModule.state = cancelledUpdate existing.state call refs := by
  have hvalid := existing.isValid.status
  have hopen : existing.state.decommissionRequestedAtUtc ≠ none ∧
      existing.state.HasEvidence requiredDecommissionEvidenceKeys := by
    simp only [List.mem_cons, List.not_mem_nil, or_false] at hactive
    rcases hactive with hrequested | hblocked
    · exact ⟨hvalid.requestedAt hrequested, hvalid.requestedEvidence hrequested⟩
    · exact ⟨hvalid.blockedRequested hblocked, fun key hkey =>
        hvalid.blockedEvidence hblocked key (List.mem_append_left _ hkey)⟩
  exact stores_of_writes (.cancelDecommission hfound hactive hopen.1 hopen.2 hrefs.complete)
    (cancelledUpdate_valid existing.isValid hcall hrefs) (registry.listed hfound)

end ModuleRegistry

end Collabio
