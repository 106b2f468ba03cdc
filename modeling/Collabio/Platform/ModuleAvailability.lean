import Mathlib.Tactic
import Collabio.Platform.ModuleSteps

/-!
# Which modules can be disabled

* `canBeDisabled_iff`           — disabling an enabled module works unless its
  decommissioning was cancelled once and it has features on;
* `modules_can_be_disabled_iff` — in which runs every enabled module can be
  disabled throughout;
* `reenabled_module_cannot_be_disabled` — a run in which one cannot.
-/

namespace Collabio

namespace ModuleRegistry

/-! ## Disabling -/

/-- Disabling the module returns, with status disabled, for every call with valid references. -/
def CanBeDisabled (registry : ModuleRegistry) (key : String × String) : Prop :=
  ∀ call : LifecycleCall, call.key = key → call.Accepted →
    ∃ tenantModule registry', disableTenantModule call registry = (.ok tenantModule, registry') ∧
      tenantModule.state.status = .disabled ∧
      registry'.tenantModules.get? key = some tenantModule

/-- A call about a module, with valid references. -/
def someCall (key : String × String) (now : Datetime.DateTime) : LifecycleCall where
  tenantId := key.1
  moduleId := key.2
  policySnapshotHash := "sha256:policy"
  changedBy := "admin"
  auditChainRef := "audit:module"
  changedAtUtc := some now
  utcNow := now

theorem someCall_accepted (key : String × String) (now : Datetime.DateTime) :
    (someCall key now).Accepted := by
  have htexts : isModuleRef "sha256:policy" = true ∧ Text.strip "admin" ≠ "" ∧
      isModuleRef "audit:module" = true := by decide +kernel
  exact ⟨htexts.1, htexts.2.1, htexts.2.2⟩

/-- **Disabling an enabled module** works exactly if its decommissioning was
never cancelled or it has no feature on. -/
theorem canBeDisabled_iff {registry : ModuleRegistry} {key : String × String}
    {tenantModule : TenantModule}
    (h : registry.tenantModules.get? key = some tenantModule)
    (henabled : tenantModule.state.status = .enabled) :
    registry.CanBeDisabled key ↔
      tenantModule.state.decommissionCancelledAtUtc = none ∨ ¬ tenantModule.state.AnyFeature := by
  constructor
  · intro hdisables
    -- any accepted call will do: what it stores is valid
    obtain ⟨stored, registry', hstored, -, -⟩ := hdisables
      (someCall key tenantModule.state.createdAtUtc) rfl (someCall_accepted _ _)
    have hperform : perform ⟨someCall key tenantModule.state.createdAtUtc, .disable⟩ registry =
        (.ok stored, registry') := hstored
    obtain ⟨hwrites, -⟩ := perform_eq_ok.mp hperform
    have hvalid := stored.isValid.status
    generalize stored.state = state at hwrites hvalid
    cases hwrites with
    | disable found =>
      have hsame : tenantModule = _ := Option.some.inj (h.symm.trans found)
      subst hsame
      -- a module whose decommissioning was cancelled has no feature on while it is disabled
      by_cases hat : tenantModule.state.decommissionCancelledAtUtc = none
      · exact .inl hat
      · exact .inr (hvalid.cancelledFeatures hat rfl)
  · intro hcancelled call hkey hcall
    rw [← hkey] at h
    obtain ⟨stored, hstores, hstate⟩ := disable_stores hcall h (by rw [henabled]; decide) hcancelled
    have hget := get?_step_of_stores hstores key
    rw [if_pos hkey.symm] at hget
    obtain ⟨registry', hperform⟩ := hstores
    rw [step, hperform] at hget
    exact ⟨stored, registry', hperform, by rw [hstate]; rfl, hget⟩

/-! ## Runs -/

/-- Every enabled module can be disabled. -/
def EnabledCanBeDisabled (registry : ModuleRegistry) : Prop :=
  ∀ key tenantModule, registry.tenantModules.get? key = some tenantModule →
    tenantModule.state.status = .enabled → registry.CanBeDisabled key

/-- No module whose decommissioning was cancelled is enabled with features on. -/
def ReenablesBare (registry : ModuleRegistry) (event : LifecycleEvent) : Prop :=
  ∀ features tenantModule, event.operation = .enable features →
    (∃ stored, registry.Stores event stored) →
    registry.tenantModules.get? event.call.key = some tenantModule →
    tenantModule.state.decommissionCancelledAtUtc = none ∨
      true ∉ (features.getD tenantModule.state.enabledFeatures).values

/-- The same of every enabled module's own fields. -/
theorem enabledCanBeDisabled_iff {registry : ModuleRegistry} :
    registry.EnabledCanBeDisabled ↔
      ∀ key tenantModule, registry.tenantModules.get? key = some tenantModule →
        tenantModule.state.status = .enabled →
        tenantModule.state.decommissionCancelledAtUtc = none ∨ ¬ tenantModule.state.AnyFeature := by
  constructor
  · intro hall key tenantModule h henabled
    exact (canBeDisabled_iff h henabled).mp (hall key tenantModule h henabled)
  · intro hall key tenantModule h henabled
    exact (canBeDisabled_iff h henabled).mpr (hall key tenantModule h henabled)

/-- **Step.** An operation keeps all enabled modules disablable exactly if it
does not enable one with features on after a cancelled decommissioning. -/
theorem enabledCanBeDisabled_step {registry : ModuleRegistry}
    (hall : registry.EnabledCanBeDisabled) (event : LifecycleEvent) :
    (registry.step event).EnabledCanBeDisabled ↔ registry.ReenablesBare event := by
  rcases registry.step_cases event with ⟨hsame, hnone⟩ | ⟨stored, hstores, hwrites, -, -⟩
  · rw [hsame]
    refine ⟨fun _ features tenantModule _ hstored => ?_, fun _ => hall⟩
    obtain ⟨stored, hstored⟩ := hstored
    exact absurd hstored (hnone stored)
  · rw [enabledCanBeDisabled_iff] at hall ⊢
    have hget := get?_step_of_stores hstores
    -- only the stored module can have become undisablable
    have hlocal : (∀ key tenantModule,
        (registry.step event).tenantModules.get? key = some tenantModule →
          tenantModule.state.status = .enabled →
          tenantModule.state.decommissionCancelledAtUtc = none ∨
            ¬ tenantModule.state.AnyFeature) ↔
        (stored.state.status = .enabled → stored.state.decommissionCancelledAtUtc = none ∨
          ¬ stored.state.AnyFeature) := by
      constructor
      · intro hafter
        exact hafter event.call.key stored (by rw [hget, if_pos rfl])
      · intro hstored key tenantModule h henabled
        rw [hget] at h
        by_cases hkey : key = event.call.key
        · rw [if_pos hkey, Option.some.injEq] at h
          subst h
          exact hstored henabled
        · rw [if_neg hkey] at h
          exact hall key tenantModule h henabled
    rw [hlocal]
    have hstatus := hwrites.accepts.2
    generalize hoperation : event.operation = operation at hwrites hstatus
    generalize stored.state = state at hwrites hstatus
    cases hwrites with
    | @enable existing entry features found =>
      constructor
      · intro hstored given tenantModule hgiven _ hfound
        rw [found, Option.some.injEq] at hfound
        subst hfound
        rw [hoperation, LifecycleOperation.enable.injEq] at hgiven
        subst hgiven
        exact hstored rfl
      · intro hbare _
        exact hbare features existing hoperation ⟨stored, hstores⟩ found
    | provision | disable | suspend | requestDecommission | blockDecommission
    | cancelDecommission | reopenDecommission | completeDecommission =>
      constructor
      · intro _ features tenantModule hgiven
        rw [hoperation] at hgiven
        cases hgiven
      · intro _ henabled
        rw [hstatus] at henabled
        cases henabled

/-- **Enabled modules can be switched off** throughout a run from the default
registry exactly if the run never enables a module with features on after its
decommissioning was cancelled. -/
theorem modules_can_be_disabled_iff (times : SeedTimes) (events : List LifecycleEvent) :
    Runs.Always step EnabledCanBeDisabled (defaultModuleRegistry times) events ↔
      Runs.Guarded step ReenablesBare (defaultModuleRegistry times) events := by
  have hstart : (defaultModuleRegistry times).EnabledCanBeDisabled := by
    intro key tenantModule h henabled
    rw [(default_available h).1] at henabled
    cases henabled
  have hstep : ∀ registry event, True → EnabledCanBeDisabled registry →
      (EnabledCanBeDisabled (registry.step event) ↔ ReenablesBare registry event) :=
    fun registry event _ hall => enabledCanBeDisabled_step hall event
  exact Runs.always_iff_guarded (I := fun _ => True) (fun _ _ _ => trivial) hstep trivial hstart
    events

/-! ## A run into the dead end -/

def seedTime : Datetime.DateTime where
  date := ⟨2026, 1, 1, by decide⟩
  hour := 0
  minute := 0
  second := 0
  microsecond := 0
  utcoffset := some 0

def seedTimes : SeedTimes := ⟨seedTime, seedTime, seedTime, seedTime⟩

/-- The demo tenant's CRM. -/
def crmErpKey : String × String := ("tenant-demo", "crm_erp")

def crmErpEvent (operation : LifecycleOperation) : LifecycleEvent :=
  ⟨someCall crmErpKey seedTime, operation⟩

def accountsOn : Dict String Bool := ⟨[("crm_erp.crm.accounts", true)], by decide⟩

/-- Provision, request decommissioning, cancel it, and enable with accounts on. -/
def reenabling : List LifecycleEvent :=
  [crmErpEvent (.provision none (some (coreManifest crmErpCatalog))),
    crmErpEvent (.requestDecommission (evidenceRefs requiredDecommissionEvidenceKeys (by decide))),
    crmErpEvent (.cancelDecommission
      (evidenceRefs requiredDecommissionCancelEvidenceKeys (by decide))),
    crmErpEvent (.enable (some accountsOn))]

theorem default_crmErp : (defaultModuleRegistry seedTimes).tenantModules.get? crmErpKey =
    some (crmErpDemoState seedTimes) := by
  rw [get?_default]
  rfl

/-- **A module that cannot be switched off**: it was enabled with a feature on
after its decommissioning was cancelled. -/
theorem reenabled_module_cannot_be_disabled :
    ∃ tenantModule,
      (Runs.run step (defaultModuleRegistry seedTimes) reenabling).tenantModules.get? crmErpKey =
        some tenantModule ∧
      tenantModule.state.status = .enabled ∧
      ¬ (Runs.run step (defaultModuleRegistry seedTimes) reenabling).CanBeDisabled crmErpKey := by
  have hcall := someCall_accepted crmErpKey seedTime
  have hcatalog := catalog_default seedTimes "crm_erp"
  rw [if_neg (by decide), if_pos rfl] at hcatalog
  obtain ⟨evidence, hcovers⟩ := coreManifest_covers hcatalog
  have hcollected := collected_of_evidence hcatalog hcovers
  -- the provision keeps the demo tenant's features, the request and the cancellation drop them
  obtain ⟨provisioned, hprovision, hstate1⟩ :=
    provision_stores hcall default_crmErp (by decide) hcovers
  have hfound1 := get?_step_self hprovision
  obtain ⟨requested, hrequest, hstate2⟩ := request_stores hcall hfound1
    (by simp [hstate1, provisionedState]) (by simp [hstate1, provisionedState])
    (evidenceRefs_complete (by decide) (by decide))
  have hfound2 := get?_step_self hrequest
  obtain ⟨cancelled, hcancel, hstate3⟩ := cancel_stores hcall hfound2
    (by simp [hstate2, requestedUpdate, decommissionUpdate, stamped])
    (evidenceRefs_complete (by decide) (by decide))
  have hfound3 := get?_step_self hcancel
  have hmigrated : requireStateMigrationEvidence crmErpCatalog cancelled.state = .ok () := by
    refine @Collected.migrated _ _ _ hcollected (some (crmErpDemoState seedTimes)) _ ?_
    rw [hstate3, cancelledUpdate, decommissionUpdate, stamped]
    dsimp only
    rw [hstate2, requestedUpdate, decommissionUpdate, stamped]
    dsimp only
    rw [hstate1]
    rfl
  have hprovisioned : cancelled.state.provisionedAtUtc ≠ none := by
    simp [hstate3, cancelledUpdate, decommissionUpdate, stamped, hstate2, requestedUpdate, hstate1,
      provisionedState]
  have hmodule : cancelled.state.moduleId = "crm_erp" :=
    congrArg Prod.snd (filed _ _ _ hfound3)
  have hfeatures : ∀ featureId ∈ ((some accountsOn).getD cancelled.state.enabledFeatures).keys,
      isFeatureId featureId = true ∧ belongsTo cancelled.state.moduleId featureId := by
    rw [hmodule]
    show ∀ featureId ∈ accountsOn.keys, isFeatureId featureId = true ∧ belongsTo "crm_erp" featureId
    decide +kernel
  have houtside : cancelled.state.status ∉ decommissionStatuses := by
    rw [hstate3]
    show ModuleStatus.disabled ∉ decommissionStatuses
    decide
  obtain ⟨enabled, henable, hstate4⟩ := enable_stores hcall hfound3 hprovisioned
    houtside (by
      rw [catalog_step, catalog_step, catalog_step]
      exact hcatalog) hmigrated hfeatures
  have hfound4 := get?_step_self henable
  have henabled : enabled.state.status = .enabled := by
    rw [hstate4]
    rfl
  refine ⟨enabled, hfound4, henabled, fun hdisables => ?_⟩
  rcases (canBeDisabled_iff hfound4 henabled).mp hdisables with hnever | hoff
  · -- the cancellation is still on record
    rw [hstate4] at hnever
    simp [enabledUpdate, stamped, hstate3, cancelledUpdate] at hnever
  · -- and accounts are on
    apply hoff
    rw [hstate4]
    show true ∈ accountsOn.values
    decide

end ModuleRegistry

end Collabio
