import Mathlib.Tactic
import Collabio.Platform.ModuleAvailability

/-!
# Which modules can be brought into use

* `recovers_iff`               — a module can be enabled by further operations
  unless it was stopped before it was ever provisioned;
* `dead_step`                  — from there no operation leads out;
* `modules_recoverable_iff`    — in which runs every module stays recoverable;
* `disabled_seed_is_dead`      — a run of one step in which one does not.
-/

namespace Collabio

/-- Every operation leads to a status that counts as provisioned. -/
theorem LifecycleOperation.target_counted (operation : LifecycleOperation) :
    operation.target ∈ provisionedStatuses := by
  cases operation <;> simp [target, provisionedStatuses]

namespace ModuleRegistry

/-! ## Recovery -/

/-- Some provisions, enablings and cancellations lead the module to ENABLED, for
every call with valid references, covering manifest and cancel evidence. -/
def Recovers (registry : ModuleRegistry) (key : String × String) : Prop :=
  ∀ (call : LifecycleCall) manifest evidence refs, call.key = key → call.Accepted →
    registry.migrationEvidenceForModule key.2 (some manifest) = .ok evidence →
    CompleteRefs refs requiredDecommissionCancelEvidenceKeys →
    ∃ events : List LifecycleEvent,
      (∀ event ∈ events, event.call = call ∧ event.operation ∈
        [.provision none (some manifest), .enable none, .cancelDecommission refs]) ∧
      ∃ tenantModule, (Runs.run step registry events).tenantModules.get? key = some tenantModule ∧
        tenantModule.state.status = .enabled

/-- Every module that is not decommissioned can be brought to ENABLED. -/
def NoDeadEnd (registry : ModuleRegistry) : Prop :=
  ∀ key tenantModule, registry.tenantModules.get? key = some tenantModule →
    tenantModule.state.status ≠ .decommissioned → registry.Recovers key

/-- The module was stopped without ever having been provisioned. -/
structure DeadEnd (state : TenantModuleState) : Prop where
  unprovisioned : state.provisionedAtUtc = none
  counted       : state.status ∈ provisionedStatuses
  stopped       : state.status ≠ .enabled

/-- **No operation leads out of a dead end.** -/
theorem dead_step {registry : ModuleRegistry} {key : String × String} {tenantModule : TenantModule}
    (h : registry.tenantModules.get? key = some tenantModule) (hdead : DeadEnd tenantModule.state)
    (event : LifecycleEvent) :
    ∃ stored, (registry.step event).tenantModules.get? key = some stored ∧
      DeadEnd stored.state := by
  rcases registry.step_cases event with ⟨hsame, -⟩ | ⟨stored, hstores, hwrites, -, -⟩
  · rw [hsame]
    exact ⟨tenantModule, h, hdead⟩
  · rw [get?_step_of_stores hstores]
    by_cases hkey : key = event.call.key
    · rw [if_pos hkey]
      refine ⟨stored, rfl, ?_⟩
      rw [hkey] at h
      have htarget := hwrites.accepts.2
      generalize event.operation = operation at hwrites htarget
      generalize stored.state = state at hwrites htarget
      cases hwrites with
      | provision _ found provisionable =>
        -- its status counts as provisioned
        rw [h] at found
        exact absurd hdead.counted (provisionable tenantModule found.symm)
      | enable found _ provisioned | requestDecommission found provisioned =>
        rw [h, Option.some.injEq] at found
        subst found
        exact absurd hdead.unprovisioned provisioned
      | disable found | suspend found | blockDecommission found | cancelDecommission found
      | reopenDecommission found | completeDecommission found =>
        -- the status changes, to one that counts as provisioned too
        rw [h, Option.some.injEq] at found
        subst found
        exact {
          unprovisioned := hdead.unprovisioned
          counted := by
            rw [htarget]
            exact LifecycleOperation.target_counted _
          stopped := by
            rw [htarget]
            simp [LifecycleOperation.target] }
    · rw [if_neg hkey]
      exact ⟨tenantModule, h, hdead⟩

theorem dead_run {registry : ModuleRegistry} {key : String × String} {tenantModule : TenantModule}
    (h : registry.tenantModules.get? key = some tenantModule) (hdead : DeadEnd tenantModule.state)
    (events : List LifecycleEvent) :
    ∃ stored, (Runs.run step registry events).tenantModules.get? key = some stored ∧
      DeadEnd stored.state := by
  induction events generalizing registry tenantModule with
  | nil => exact ⟨tenantModule, h, hdead⟩
  | cons event events ih =>
    obtain ⟨stored, hstored, hstill⟩ := dead_step h hdead event
    exact ih hstored hstill

/-- A dead end can be neither provisioned nor enabled, with any arguments. -/
theorem dead_refuses {registry : ModuleRegistry} {call : LifecycleCall}
    {tenantModule : TenantModule}
    (h : registry.tenantModules.get? call.key = some tenantModule)
    (hdead : DeadEnd tenantModule.state) :
    (∀ features manifest stored, ¬ registry.Stores ⟨call, .provision features manifest⟩ stored) ∧
      ∀ features stored, ¬ registry.Stores ⟨call, .enable features⟩ stored := by
  constructor
  · rintro features manifest stored ⟨registry', hperform⟩
    obtain ⟨hwrites, -⟩ := perform_eq_ok.mp hperform
    generalize stored.state = state at hwrites
    cases hwrites with
    | provision _ found provisionable =>
      rw [h] at found
      exact provisionable tenantModule found.symm hdead.counted
  · rintro features stored ⟨registry', hperform⟩
    obtain ⟨hwrites, -⟩ := perform_eq_ok.mp hperform
    generalize stored.state = state at hwrites
    cases hwrites with
    | enable found _ provisioned =>
      rw [h, Option.some.injEq] at found
      subst found
      exact provisioned hdead.unprovisioned

/-! ## Ways out -/

/-- Provisioned modules have their migrations evidenced. -/
def ProvisionedMigrated (registry : ModuleRegistry) : Prop :=
  ∀ key tenantModule entry, registry.tenantModules.get? key = some tenantModule →
    registry.catalog.get? key.2 = some entry → tenantModule.state.provisionedAtUtc ≠ none →
    requireStateMigrationEvidence entry tenantModule.state = .ok ()

theorem provisionedMigrated_default {times : SeedTimes} :
    (defaultModuleRegistry times).ProvisionedMigrated := by
  intro key tenantModule entry h _ hprovisioned
  exact absurd (default_available h).2 hprovisioned

theorem provisionedMigrated_step {registry : ModuleRegistry} (hall : registry.ProvisionedMigrated)
    (event : LifecycleEvent) : (registry.step event).ProvisionedMigrated := by
  rcases registry.step_cases event with ⟨hsame, -⟩ | ⟨stored, hstores, hwrites, -, -⟩
  · rw [hsame]
    exact hall
  · intro key tenantModule entry h hentry hprovisioned
    rw [get?_step_of_stores hstores] at h
    rw [catalog_step] at hentry
    by_cases hkey : key = event.call.key
    · rw [if_pos hkey, Option.some.injEq] at h
      subst h
      rw [hkey] at hentry
      generalize event.operation = operation at hwrites
      generalize stored.state = state at hwrites hprovisioned
      cases hwrites with
      | provision _ _ _ collected kept_eq =>
        exact (collected_of_evidence hentry collected).migrated kept_eq
      | enable found | disable found | suspend found | requestDecommission found
      | blockDecommission found | cancelDecommission found | reopenDecommission found
      | completeDecommission found =>
        -- the evidence and the time of the provision stay as they were
        exact hall _ _ _ found hentry hprovisioned
    · rw [if_neg hkey] at h
      exact hall key tenantModule entry h hentry hprovisioned

/-- An enabling of a provisioned module outside the workflow. -/
theorem exists_enable {registry : ModuleRegistry} (hmigrated : registry.ProvisionedMigrated)
    {call : LifecycleCall} (hcall : call.Accepted) {tenantModule : TenantModule}
    (h : registry.tenantModules.get? call.key = some tenantModule)
    (hprovisioned : tenantModule.state.provisionedAtUtc ≠ none)
    (houtside : tenantModule.state.status ∉ decommissionStatuses) :
    ∃ stored, (registry.step ⟨call, .enable none⟩).tenantModules.get? call.key = some stored ∧
      stored.state.status = .enabled := by
  obtain ⟨entry, hentry, -⟩ := registry.listed h
  have hvalid := tenantModule.isValid
  obtain ⟨stored, hstores, hstate⟩ := @enable_stores _ _ _ hcall h hprovisioned houtside _ hentry
    (hmigrated _ _ _ h hentry hprovisioned) none hvalid.features
  refine ⟨stored, get?_step_self hstores, ?_⟩
  rw [hstate]
  rfl

/-- **Recovery**: a module that is not decommissioned can be enabled exactly if
it is not a dead end. -/
theorem recovers_iff {registry : ModuleRegistry} (hmigrated : registry.ProvisionedMigrated)
    {key : String × String} {tenantModule : TenantModule}
    (h : registry.tenantModules.get? key = some tenantModule)
    (hopen : tenantModule.state.status ≠ .decommissioned) :
    registry.Recovers key ↔ ¬ DeadEnd tenantModule.state := by
  constructor
  · intro hrecovers hdead
    obtain ⟨entry, hentry, -⟩ := registry.listed h
    obtain ⟨evidence, hcovers⟩ := coreManifest_covers hentry
    -- whatever the events, a dead end stays one
    obtain ⟨events, -, stored, hstored, henabled⟩ :=
      hrecovers (someCall key tenantModule.state.createdAtUtc) _ evidence
        (evidenceRefs requiredDecommissionCancelEvidenceKeys (by decide)) rfl
        (someCall_accepted _ _) hcovers (evidenceRefs_complete (by decide) (by decide))
    obtain ⟨other, hother, hstill⟩ := dead_run h hdead events
    rw [hstored, Option.some.injEq] at hother
    subst hother
    exact hstill.stopped henabled
  · intro halive call manifest evidence refs hkey hcall hcovers hrefs
    subst hkey
    by_cases henabled : tenantModule.state.status = .enabled
    · exact ⟨[], by simp, tenantModule, h, henabled⟩
    by_cases hcounted : tenantModule.state.status ∈ provisionedStatuses
    · -- it was provisioned, or it would be a dead end
      have hprovisioned : tenantModule.state.provisionedAtUtc ≠ none := by
        intro hnever
        exact halive ⟨hnever, hcounted, henabled⟩
      by_cases hactive : tenantModule.state.status ∈
          [ModuleStatus.decommissionRequested, .decommissionBlocked]
      · -- cancel the workflow first
        obtain ⟨cancelled, hcancel, hstate⟩ := cancel_stores hcall h hactive hrefs
        obtain ⟨stored, hstored, hstatus⟩ := exists_enable (provisionedMigrated_step hmigrated _)
          hcall (get?_step_self hcancel) (by rw [hstate]; exact hprovisioned)
          (by rw [hstate]; show ModuleStatus.disabled ∉ decommissionStatuses; decide)
        exact ⟨[⟨call, .cancelDecommission refs⟩, ⟨call, .enable none⟩], by simp, stored, hstored,
          hstatus⟩
      · have houtside : tenantModule.state.status ∉ decommissionStatuses := by
          simp only [decommissionStatuses, List.mem_cons, List.not_mem_nil, or_false, not_or] at hactive ⊢
          exact ⟨hactive.1, hactive.2, hopen⟩
        obtain ⟨stored, hstored, hstatus⟩ := exists_enable hmigrated hcall h hprovisioned houtside
        exact ⟨[⟨call, .enable none⟩], by simp, stored, hstored, hstatus⟩
    · -- not provisioned yet: provision and enable
      obtain ⟨provisioned, hprovision, hstate⟩ := provision_stores hcall h hcounted hcovers
      obtain ⟨stored, hstored, hstatus⟩ := exists_enable (provisionedMigrated_step hmigrated _)
        hcall (get?_step_self hprovision) (by rw [hstate]; simp [provisionedState])
        (by rw [hstate]; show ModuleStatus.disabled ∉ decommissionStatuses; decide)
      exact ⟨[⟨call, .provision none (some manifest)⟩, ⟨call, .enable none⟩], by simp, stored,
        hstored, hstatus⟩

/-! ## Runs -/

/-- Only provisioned modules are disabled or suspended. -/
def StopsProvisioned (registry : ModuleRegistry) (event : LifecycleEvent) : Prop :=
  ∀ tenantModule, event.operation ∈ [.disable, .suspend] →
    (∃ stored, registry.Stores event stored) →
    registry.tenantModules.get? event.call.key = some tenantModule →
    tenantModule.state.provisionedAtUtc ≠ none

theorem noDeadEnd_iff {registry : ModuleRegistry} (hmigrated : registry.ProvisionedMigrated) :
    registry.NoDeadEnd ↔ ∀ key tenantModule,
      registry.tenantModules.get? key = some tenantModule →
      tenantModule.state.status ≠ .decommissioned → ¬ DeadEnd tenantModule.state := by
  constructor
  · intro hall key tenantModule h hopen
    exact (recovers_iff hmigrated h hopen).mp (hall key tenantModule h hopen)
  · intro hall key tenantModule h hopen
    exact (recovers_iff hmigrated h hopen).mpr (hall key tenantModule h hopen)

/-- **Step.** An operation leaves every module recoverable exactly if it does not
stop one that was never provisioned. -/
theorem noDeadEnd_step {registry : ModuleRegistry} (hmigrated : registry.ProvisionedMigrated)
    (hall : registry.NoDeadEnd) (event : LifecycleEvent) :
    (registry.step event).NoDeadEnd ↔ registry.StopsProvisioned event := by
  rcases registry.step_cases event with ⟨hsame, hnone⟩ | ⟨stored, hstores, hwrites, -, -⟩
  · rw [hsame]
    refine ⟨fun _ tenantModule _ hstored => ?_, fun _ => hall⟩
    obtain ⟨stored, hstored⟩ := hstored
    exact absurd hstored (hnone stored)
  · rw [noDeadEnd_iff (provisionedMigrated_step hmigrated event)]
    rw [noDeadEnd_iff hmigrated] at hall
    have hget := get?_step_of_stores hstores
    -- only the stored module can have become a dead end
    have hlocal : (∀ key tenantModule,
        (registry.step event).tenantModules.get? key = some tenantModule →
          tenantModule.state.status ≠ .decommissioned → ¬ DeadEnd tenantModule.state) ↔
        (stored.state.status ≠ .decommissioned → ¬ DeadEnd stored.state) := by
      constructor
      · intro hafter
        exact hafter event.call.key stored (by rw [hget, if_pos rfl])
      · intro hstored key tenantModule h hopen
        rw [hget] at h
        by_cases hkey : key = event.call.key
        · rw [if_pos hkey, Option.some.injEq] at h
          subst h
          exact hstored hopen
        · rw [if_neg hkey] at h
          exact hall key tenantModule h hopen
    rw [hlocal]
    generalize hoperation : event.operation = operation at hwrites
    generalize stored.state = state at hwrites
    have hother : operation ∉ [LifecycleOperation.disable, .suspend] →
        registry.StopsProvisioned event := by
      intro hnot tenantModule hstops
      rw [hoperation] at hstops
      exact absurd hstops hnot
    -- a workflow that is under way began with a provisioned module
    have hworkflow : ∀ existing, registry.tenantModules.get? event.call.key = some existing →
        existing.state.status ∈ [ModuleStatus.decommissionRequested, .decommissionBlocked] →
        existing.state.provisionedAtUtc ≠ none := by
      intro existing found active hnever
      simp only [List.mem_cons, List.not_mem_nil, or_false] at active
      rcases active with hstatus | hstatus
      all_goals
        refine hall _ existing found (by simp [hstatus]) ⟨hnever, ?_, by simp [hstatus]⟩
        simp [hstatus, provisionedStatuses]
    cases hwrites with
    | @disable existing found | @suspend existing found =>
      constructor
      · intro hstored tenantModule _ _ hfound hnever
        rw [found, Option.some.injEq] at hfound
        subst hfound
        exact hstored (by simp [disabledUpdate, stamped]) {
          unprovisioned := hnever
          counted := by simp [disabledUpdate, stamped, provisionedStatuses]
          stopped := by simp [disabledUpdate, stamped] }
      · intro hstops _ hdead
        exact hstops existing (by simp [hoperation]) ⟨stored, hstores⟩ found hdead.unprovisioned
    | provision =>
      refine iff_of_true (fun _ hdead => ?_) (hother (by simp))
      have hnever := hdead.unprovisioned
      cases hnever
    | enable =>
      exact iff_of_true (fun _ hdead => hdead.stopped rfl) (hother (by simp))
    | requestDecommission found provisioned =>
      exact iff_of_true (fun _ hdead => provisioned hdead.unprovisioned) (hother (by simp))
    | blockDecommission found active | cancelDecommission found active =>
      exact iff_of_true (fun _ hdead => hworkflow _ found active hdead.unprovisioned)
        (hother (by simp))
    | reopenDecommission found blocked =>
      exact iff_of_true (fun _ hdead => hworkflow _ found (by simp [blocked]) hdead.unprovisioned)
        (hother (by simp))
    | completeDecommission =>
      exact iff_of_true (fun hopen _ => hopen rfl) (hother (by simp))

/-- **Modules stay recoverable** throughout a run from the default registry
exactly if the run stops provisioned modules only. -/
theorem modules_recoverable_iff (times : SeedTimes) (events : List LifecycleEvent) :
    Runs.Always step NoDeadEnd (defaultModuleRegistry times) events ↔
      Runs.Guarded step StopsProvisioned (defaultModuleRegistry times) events := by
  have hmigrated := @provisionedMigrated_default times
  have hstart : (defaultModuleRegistry times).NoDeadEnd := by
    rw [noDeadEnd_iff hmigrated]
    intro key tenantModule h _ hdead
    have hcounted := hdead.counted
    rw [(default_available h).1] at hcounted
    exact absurd hcounted (by decide)
  have hstep : ∀ registry event, ProvisionedMigrated registry → NoDeadEnd registry →
      (NoDeadEnd (registry.step event) ↔ StopsProvisioned registry event) :=
    fun registry event hI hP => noDeadEnd_step hI hP event
  have hkeep : ∀ registry event, ProvisionedMigrated registry →
      ProvisionedMigrated (registry.step event) :=
    fun registry event hI => provisionedMigrated_step hI event
  exact Runs.always_iff_guarded hkeep hstep hmigrated hstart events

/-- **A dead end in one step**: the demo tenant's CRM is disabled before it was
provisioned. No further operations enable it; provisioning and enabling raise,
whatever their arguments. -/
theorem disabled_seed_is_dead :
    ¬ ((defaultModuleRegistry seedTimes).step (crmErpEvent .disable)).NoDeadEnd ∧
      (∀ events, ∃ stored,
        (Runs.run step ((defaultModuleRegistry seedTimes).step (crmErpEvent .disable))
          events).tenantModules.get? crmErpKey = some stored ∧
        stored.state.status ≠ .enabled) ∧
      ∀ call : LifecycleCall, call.key = crmErpKey →
        (∀ features manifest stored,
          ¬ ((defaultModuleRegistry seedTimes).step (crmErpEvent .disable)).Stores
            ⟨call, .provision features manifest⟩ stored) ∧
        ∀ features stored,
          ¬ ((defaultModuleRegistry seedTimes).step (crmErpEvent .disable)).Stores
            ⟨call, .enable features⟩ stored := by
  have hcall := someCall_accepted crmErpKey seedTime
  obtain ⟨disabled, hstores, hstate⟩ :=
    disable_stores hcall default_crmErp (by decide) (.inl rfl)
  have hfound := get?_step_self hstores
  -- disabled and without a provisioning: no operation leads on from here
  have hdead : DeadEnd disabled.state := by
    rw [hstate]
    exact ⟨rfl, by decide, by decide⟩
  refine ⟨?_, ?_, ?_⟩
  · rw [noDeadEnd_iff (provisionedMigrated_step provisionedMigrated_default _)]
    intro hall
    exact hall _ disabled hfound (by rw [hstate]; decide) hdead
  · intro events
    obtain ⟨stored, hstored, hstill⟩ := dead_run hfound hdead events
    exact ⟨stored, hstored, hstill.stopped⟩
  · intro call hkey
    exact dead_refuses (by rw [hkey]; exact hfound) hdead

end ModuleRegistry

end Collabio
