import Mathlib.Tactic
import Collabio.Library.Runs
import Collabio.Platform.ModulesSpec

/-!
# Runs of the module registry

* `ModuleRegistry.step_cases` — a step changes nothing, or stores one granted
  state under the key it was called for;
* `stores_of_writes`          — the way back: a granted, valid state is stored;
* `defaultModuleRegistry`     — what runs start from, with both modules of the
  demo tenant available (`default_available`).
-/

namespace Collabio

namespace ModuleRegistry

/-! ## Reading back after an operation -/

@[simp] theorem catalog_insert (registry : ModuleRegistry) (tenantModule : TenantModule)
    (installed : registry.Installs tenantModule) :
    (registry.insert tenantModule installed).catalog = registry.catalog := rfl

theorem get?_insert (registry : ModuleRegistry) (tenantModule : TenantModule)
    (installed : registry.Installs tenantModule) (key : String × String) :
    (registry.insert tenantModule installed).tenantModules.get? key =
      if key = tenantModule.key then some tenantModule else registry.tenantModules.get? key :=
  Dict.get?_set _ _ _ _

/-- An operation returned and stored `tenantModule`. -/
def Stores (registry : ModuleRegistry) (event : LifecycleEvent) (tenantModule : TenantModule) :
    Prop :=
  ∃ registry', perform event registry = (.ok tenantModule, registry')

/-- **Step lemma.** A step changes nothing, or stores one granted state under the call's key. -/
theorem step_cases (registry : ModuleRegistry) (event : LifecycleEvent) :
    (registry.step event = registry ∧ ∀ tenantModule, ¬ registry.Stores event tenantModule) ∨
    ∃ tenantModule, registry.Stores event tenantModule ∧
      registry.Writes event.call event.operation tenantModule.state ∧
      tenantModule.key = event.call.key ∧
      ∃ installed : registry.Installs tenantModule,
        registry.step event = registry.insert tenantModule installed := by
  rcases h : perform event registry with ⟨exn | tenantModule, registry'⟩
  · left
    constructor
    · rw [step, h]
      exact perform_error h
    · rintro tenantModule ⟨_, hstores⟩
      rw [h] at hstores
      cases hstores
  · right
    obtain ⟨hwrites, installed, rfl⟩ := perform_eq_ok.mp h
    exact ⟨tenantModule, ⟨_, h⟩, hwrites, hwrites.key_eq, installed, by rw [step, h]⟩

/-- What an operation stored is what its key reads afterwards. -/
theorem get?_step_of_stores {registry : ModuleRegistry} {event : LifecycleEvent}
    {tenantModule : TenantModule} (h : registry.Stores event tenantModule)
    (key : String × String) :
    (registry.step event).tenantModules.get? key =
      if key = event.call.key then some tenantModule else registry.tenantModules.get? key := by
  obtain ⟨registry', h⟩ := h
  obtain ⟨hwrites, installed, rfl⟩ := perform_eq_ok.mp h
  have hkey : tenantModule.key = event.call.key := hwrites.key_eq
  rw [step, h, get?_insert, hkey]

theorem get?_step_self {registry : ModuleRegistry} {event : LifecycleEvent}
    {tenantModule : TenantModule} (h : registry.Stores event tenantModule) :
    (registry.step event).tenantModules.get? event.call.key = some tenantModule := by
  rw [get?_step_of_stores h, if_pos rfl]

@[simp] theorem catalog_step (registry : ModuleRegistry) (event : LifecycleEvent) :
    (registry.step event).catalog = registry.catalog := by
  rcases registry.step_cases event with ⟨hsame, -⟩ | ⟨_, -, -, -, installed, hstep⟩
  · rw [hsame]
  · rw [hstep, catalog_insert]

/-- A module in the registry is of a listed module. -/
theorem listed (registry : ModuleRegistry) {key : String × String} {tenantModule : TenantModule}
    (h : registry.tenantModules.get? key = some tenantModule) :
    ∃ entry, registry.catalog.get? key.2 = some entry ∧ entry.status ≠ .notInstalled := by
  obtain ⟨entry, hentry, hstatus⟩ := registry.installed key tenantModule h
  have hkey : tenantModule.state.moduleId = key.2 :=
    congrArg Prod.snd (registry.filed key tenantModule h)
  rw [hkey] at hentry
  exact ⟨entry, hentry, hstatus⟩

/-- An operation that the registry grants, on a valid state, stores that state. -/
theorem stores_of_writes {registry : ModuleRegistry} {event : LifecycleEvent}
    {state : TenantModuleState} (h : registry.Writes event.call event.operation state)
    (hvalid : state.Valid) (hlisted : ∃ entry, registry.catalog.get? event.call.moduleId =
      some entry ∧ entry.status ≠ .notInstalled) :
    ∃ tenantModule, registry.Stores event tenantModule ∧ tenantModule.state = state := by
  have hmodule : state.moduleId = event.call.moduleId := congrArg Prod.snd h.key_eq
  have hinstalled : registry.Installs ⟨state, TenantModuleState.validate_eq_ok.mpr hvalid⟩ := by
    rw [Installs]
    dsimp only
    rw [hmodule]
    exact hlisted
  exact ⟨⟨state, _⟩, ⟨_, perform_eq_ok.mpr ⟨h, hinstalled, rfl⟩⟩, rfl⟩

/-! ## The default registry -/

end ModuleRegistry

/-- `default_crm_erp_subfeature_enabled_features`. -/
def defaultCrmErpSubfeatureEnabledFeatures : Dict String Bool where
  items := [("crm_erp.crm.accounts", true), ("crm_erp.crm.contacts", true),
    ("crm_erp.crm.activities", true), ("crm_erp.erp.products", true),
    ("crm_erp.erp.suppliers", true), ("crm_erp.erp.orders", true),
    ("crm_erp.erp.invoices", true), ("crm_erp.legacy_import.sqlserver", false),
    ("crm_erp.gobd_export", false), ("crm_erp.legal_hold", true),
    ("crm_erp.rag_indexing", false), ("crm_erp.ai_assist", false)]
  nodup := by decide

/-- `default_knowledge_base_enabled_features`. -/
def defaultKnowledgeBaseEnabledFeatures : Dict String Bool where
  items := [("knowledge_base.articles.read", true), ("knowledge_base.articles.write", false)]
  nodup := by decide

/-- The texts of the seeds are what the models ask for. -/
theorem seedTexts_checked :
    (isModuleId "crm_erp" = true ∧ isModuleId "knowledge_base" = true) ∧
    ((∀ version ∈ ["0007", "0008", "0009", "0010", "0011", "0016", "0017", "0018", "0019", "0020"],
        isMigrationVersion version = true) ∧
      ∀ version ∈ ["0007", "0008", "0009", "0010", "0011", "0021", "0022", "0023", "0024"],
        isMigrationVersion version = true) ∧
    (Text.strip "tenant-demo" ≠ "" ∧ Text.strip "system" ≠ "") ∧
    (isModuleRef "sha256:demo-module-policy" = true ∧ isModuleRef "audit:module-seed" = true) ∧
    (∀ featureId ∈ defaultCrmErpSubfeatureEnabledFeatures.keys,
      isFeatureId featureId = true ∧ belongsTo "crm_erp" featureId) ∧
    ∀ featureId ∈ defaultKnowledgeBaseEnabledFeatures.keys,
      isFeatureId featureId = true ∧ belongsTo "knowledge_base" featureId := by decide +kernel

theorem crmErp_named : isModuleId "crm_erp" = true := seedTexts_checked.1.1

theorem knowledgeBase_named : isModuleId "knowledge_base" = true := seedTexts_checked.1.2

theorem crmErp_versions : ∀ version ∈ ["0007", "0008", "0009", "0010", "0011", "0016", "0017",
    "0018", "0019", "0020"], isMigrationVersion version = true := seedTexts_checked.2.1.1

theorem knowledgeBase_versions : ∀ version ∈ ["0007", "0008", "0009", "0010", "0011", "0021",
    "0022", "0023", "0024"], isMigrationVersion version = true := seedTexts_checked.2.1.2

def crmErpCatalog : ModuleCatalogEntry where
  moduleId := "crm_erp"
  status := .installed
  requiredMigrationVersions :=
    ["0007", "0008", "0009", "0010", "0011", "0016", "0017", "0018", "0019", "0020"]
  namedModule := crmErp_named
  uniqueVersions := by decide
  fourDigitVersions := crmErp_versions
  deployable := by decide

def knowledgeBaseCatalog : ModuleCatalogEntry where
  moduleId := "knowledge_base"
  status := .installed
  requiredMigrationVersions :=
    ["0007", "0008", "0009", "0010", "0011", "0021", "0022", "0023", "0024"]
  namedModule := knowledgeBase_named
  uniqueVersions := by decide
  fourDigitVersions := knowledgeBase_versions
  deployable := by decide

/-- A module of the demo tenant, as the default registry seeds it. -/
def demoState (moduleId : String) (enabledFeatures : Dict String Bool)
    (createdAtUtc updatedAtUtc : Datetime.DateTime) : TenantModuleState where
  tenantId := "tenant-demo"
  moduleId := moduleId
  status := .available
  enabledFeatures := enabledFeatures
  policySnapshotHash := "sha256:demo-module-policy"
  changedBy := "system"
  auditChainRef := "audit:module-seed"
  createdAtUtc := createdAtUtc
  updatedAtUtc := updatedAtUtc

theorem demoState_valid {moduleId : String} {features : Dict String Bool}
    {createdAtUtc updatedAtUtc : Datetime.DateTime} (hmodule : isModuleId moduleId = true)
    (hfeatures : ∀ featureId ∈ features.keys,
      isFeatureId featureId = true ∧ belongsTo moduleId featureId) :
    (demoState moduleId features createdAtUtc updatedAtUtc).Valid where
  tenant := seedTexts_checked.2.2.1.1
  namedModule := hmodule
  policy := seedTexts_checked.2.2.2.1.1
  changedBy := seedTexts_checked.2.2.1.2
  audit := seedTexts_checked.2.2.2.1.2
  evidence := by simp [demoState]
  features := hfeatures
  versions := by simp [demoState]
  owners := by simp [demoState]
  refs := by
    intro item hitem
    cases hitem
  status := by constructor <;> simp [demoState]

/-- The clock's readings while the default registry is built. -/
structure SeedTimes where
  crmErpCreated        : Datetime.DateTime
  crmErpUpdated        : Datetime.DateTime
  knowledgeBaseCreated : Datetime.DateTime
  knowledgeBaseUpdated : Datetime.DateTime

theorem crmErpDemo_valid {createdAtUtc updatedAtUtc : Datetime.DateTime} :
    (demoState "crm_erp" defaultCrmErpSubfeatureEnabledFeatures createdAtUtc updatedAtUtc).Valid :=
  demoState_valid crmErp_named seedTexts_checked.2.2.2.2.1

theorem knowledgeBaseDemo_valid {createdAtUtc updatedAtUtc : Datetime.DateTime} :
    (demoState "knowledge_base" defaultKnowledgeBaseEnabledFeatures createdAtUtc
      updatedAtUtc).Valid :=
  demoState_valid knowledgeBase_named seedTexts_checked.2.2.2.2.2

def crmErpDemoState (times : SeedTimes) : TenantModule where
  state := demoState "crm_erp" defaultCrmErpSubfeatureEnabledFeatures times.crmErpCreated
    times.crmErpUpdated
  valid := TenantModuleState.validate_eq_ok.mpr crmErpDemo_valid

def knowledgeBaseDemoState (times : SeedTimes) : TenantModule where
  state := demoState "knowledge_base" defaultKnowledgeBaseEnabledFeatures
    times.knowledgeBaseCreated times.knowledgeBaseUpdated
  valid := TenantModuleState.validate_eq_ok.mpr knowledgeBaseDemo_valid

/-- What the constructor leaves behind; it returns (`defaultModuleRegistry_isOk`). -/
def defaultModuleRegistry (times : SeedTimes) : ModuleRegistry :=
  (ModuleRegistry.init [crmErpCatalog, knowledgeBaseCatalog]
    [crmErpDemoState times, knowledgeBaseDemoState times] ∅).2

namespace ModuleRegistry

theorem addCatalogEntry_eq_ok {registry : ModuleRegistry} {entry : ModuleCatalogEntry}
    (fresh : registry.catalog.get? entry.moduleId = none) :
    addCatalogEntry entry registry = (.ok entry, registry.addEntry entry fresh) := by
  rw [addCatalogEntry, dif_pos fresh]

/-- The constructor returns, with both modules listed and available. -/
theorem init_default (times : SeedTimes) : ∃ registry,
    init [crmErpCatalog, knowledgeBaseCatalog]
      [crmErpDemoState times, knowledgeBaseDemoState times] ∅ = (.ok (), registry) ∧
    (∀ moduleId, registry.catalog.get? moduleId =
      if moduleId = "knowledge_base" then some knowledgeBaseCatalog
      else if moduleId = "crm_erp" then some crmErpCatalog else none) ∧
    ∀ key, registry.tenantModules.get? key =
      if key = ("tenant-demo", "knowledge_base") then some (knowledgeBaseDemoState times)
      else if key = ("tenant-demo", "crm_erp") then some (crmErpDemoState times) else none := by
  have hcrm : (∅ : ModuleRegistry).catalog.get? crmErpCatalog.moduleId = none := rfl
  -- both modules are listed, one after the other
  set listed1 := (∅ : ModuleRegistry).addEntry crmErpCatalog hcrm with hlisted1
  have hcatalog1 : ∀ moduleId, listed1.catalog.get? moduleId =
      if moduleId = "crm_erp" then some crmErpCatalog else none := by
    intro moduleId
    exact Dict.get?_set _ _ _ _
  have hknowledge : listed1.catalog.get? knowledgeBaseCatalog.moduleId = none := by
    rw [hcatalog1, if_neg (by decide)]
  set listed2 := listed1.addEntry knowledgeBaseCatalog hknowledge with hlisted2
  have hcatalog2 : ∀ moduleId, listed2.catalog.get? moduleId =
      if moduleId = "knowledge_base" then some knowledgeBaseCatalog
      else if moduleId = "crm_erp" then some crmErpCatalog else none := by
    intro moduleId
    rw [← hcatalog1]
    exact Dict.get?_set _ _ _ _
  have hinstalls1 : listed2.Installs (crmErpDemoState times) :=
    ⟨crmErpCatalog, by rw [hcatalog2]; rfl, by decide⟩
  -- then both demo states are stored, whose modules are listed
  set seeded1 := listed2.insert (crmErpDemoState times) hinstalls1 with hseeded1
  have hinstalls2 : seeded1.Installs (knowledgeBaseDemoState times) :=
    ⟨knowledgeBaseCatalog, by rw [hseeded1, catalog_insert, hcatalog2]; rfl, by decide⟩
  refine ⟨seeded1.insert (knowledgeBaseDemoState times) hinstalls2, ?_, ?_, ?_⟩
  · have hentries : addCatalogEntries [crmErpCatalog, knowledgeBaseCatalog] ∅ =
        (.ok (), listed2) := by
      rw [addCatalogEntries, Eff.bind_of_ok (addCatalogEntry_eq_ok hcrm), addCatalogEntries,
        Eff.bind_of_ok (addCatalogEntry_eq_ok hknowledge), addCatalogEntries, Eff.pure_apply]
    rw [init, Eff.bind_of_ok hentries, upsertTenantModules,
      Eff.bind_of_ok (upsertTenantModule_eq_ok.mpr ⟨rfl, hinstalls1, rfl⟩), upsertTenantModules,
      Eff.bind_of_ok (upsertTenantModule_eq_ok.mpr ⟨rfl, hinstalls2, rfl⟩), upsertTenantModules,
      Eff.pure_apply]
  · intro moduleId
    rw [catalog_insert, hseeded1, catalog_insert, hcatalog2]
  · intro key
    rw [get?_insert, hseeded1, get?_insert]
    rfl

theorem defaultModuleRegistry_isOk (times : SeedTimes) :
    init [crmErpCatalog, knowledgeBaseCatalog]
      [crmErpDemoState times, knowledgeBaseDemoState times] ∅ =
      (.ok (), defaultModuleRegistry times) := by
  obtain ⟨registry, hinit, -⟩ := init_default times
  rw [defaultModuleRegistry, hinit]

theorem catalog_default (times : SeedTimes) (moduleId : String) :
    (defaultModuleRegistry times).catalog.get? moduleId =
      if moduleId = "knowledge_base" then some knowledgeBaseCatalog
      else if moduleId = "crm_erp" then some crmErpCatalog else none := by
  obtain ⟨registry, hinit, hcatalog, -⟩ := init_default times
  rw [defaultModuleRegistry, hinit, hcatalog]

theorem get?_default (times : SeedTimes) (key : String × String) :
    (defaultModuleRegistry times).tenantModules.get? key =
      if key = ("tenant-demo", "knowledge_base") then some (knowledgeBaseDemoState times)
      else if key = ("tenant-demo", "crm_erp") then some (crmErpDemoState times) else none := by
  obtain ⟨registry, hinit, -, hget⟩ := init_default times
  rw [defaultModuleRegistry, hinit, hget]

/-- The seeded modules are available, and not provisioned. -/
theorem default_available {times : SeedTimes} {key : String × String}
    {tenantModule : TenantModule}
    (h : (defaultModuleRegistry times).tenantModules.get? key = some tenantModule) :
    tenantModule.state.status = .available ∧ tenantModule.state.provisionedAtUtc = none := by
  rw [get?_default] at h
  split at h
  · cases h
    exact ⟨rfl, rfl⟩
  · split at h
    · cases h
      exact ⟨rfl, rfl⟩
    · cases h

end ModuleRegistry

end Collabio
