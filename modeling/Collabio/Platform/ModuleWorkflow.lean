import Mathlib.Tactic
import Collabio.Platform.ModuleLifecycle

/-!
# Safety of the module workflow

* `decommissioned_step`, `decommissioned_run` — a decommissioned module stays
  exactly as it is;
* `decommissionHistory`  — it got there by a recorded request and a completion,
  in this order, each with its complete evidence;
* `gate_open`            — what the gates for normal use let through;
* `module_workflow_safe` — all of it, in every state of every run.
-/

namespace Collabio

namespace LifecycleOperation

/-- A decommission request with all its evidence keys. -/
def IsRequest (operation : LifecycleOperation) : Prop :=
  ∃ refs, operation = .requestDecommission refs ∧
    ∀ evidenceKey ∈ requiredDecommissionEvidenceKeys, evidenceKey ∈ refs.keys

/-- A completion with all its evidence keys. -/
def IsCompletion (operation : LifecycleOperation) : Prop :=
  ∃ refs, operation = .completeDecommission refs ∧
    ∀ evidenceKey ∈ requiredDecommissionCompletionEvidenceKeys, evidenceKey ∈ refs.keys

end LifecycleOperation

namespace ModuleRegistry

/-! ## Decommissioned is final -/

theorem decommissioned_step {registry : ModuleRegistry} {key : String × String}
    {tenantModule : TenantModule}
    (h : registry.tenantModules.get? key = some tenantModule)
    (hstatus : tenantModule.state.status = .decommissioned) (event : LifecycleEvent) :
    (registry.step event).tenantModules.get? key = some tenantModule := by
  rcases registry.step_cases event with ⟨hsame, -⟩ | ⟨stored, hstores, hwrites, -, -⟩
  · rw [hsame]
    exact h
  · rw [get?_step_of_stores hstores]
    by_cases hkey : key = event.call.key
    · -- no operation starts from a decommissioned module
      have haccepts := hwrites.accepts.1
      rw [← hkey, status?, h, Option.map_some, hstatus] at haccepts
      exact absurd haccepts event.operation.not_accepts_decommissioned
    · rw [if_neg hkey]
      exact h

/-- A decommissioned module never changes again. -/
theorem decommissioned_run {registry : ModuleRegistry} {key : String × String}
    {tenantModule : TenantModule}
    (h : registry.tenantModules.get? key = some tenantModule)
    (hstatus : tenantModule.state.status = .decommissioned) (later : List LifecycleEvent) :
    (Runs.run step registry later).tenantModules.get? key = some tenantModule := by
  induction later generalizing registry with
  | nil => exact h
  | cons event later ih => exact ih (decommissioned_step h hstatus event)

/-! ## How a module is decommissioned -/

/-- The call returned: an operation on a tenant's module that stored a state. -/
structure Performs (registry : ModuleRegistry) (key : String × String) (event : LifecycleEvent) :
    Prop where
  key_eq : event.call.key = key
  stores : ∃ tenantModule, registry.Stores event tenantModule

/-- Somewhere in the run a request for the module was made, and returned. -/
def Requested (start : ModuleRegistry) (events : List LifecycleEvent) (key : String × String) :
    Prop :=
  ∃ before request after, events = before ++ request :: after ∧
    (Runs.run step start before).Performs key request ∧
    request.operation.IsRequest

/-- Somewhere in the run a request for the module returned, and later a completion did. -/
def Completed (start : ModuleRegistry) (events : List LifecycleEvent) (key : String × String) :
    Prop :=
  ∃ before completion after, events = before ++ completion :: after ∧
    Requested start before key ∧ (Runs.run step start before).Performs key completion ∧
    completion.operation.IsCompletion

theorem Requested.append {start : ModuleRegistry} {events : List LifecycleEvent}
    {key : String × String} (h : Requested start events key) (later : List LifecycleEvent) :
    Requested start (events ++ later) key := by
  obtain ⟨before, request, after, rfl, hperforms, hrequest⟩ := h
  exact ⟨before, request, after ++ later, by simp, hperforms, hrequest⟩

theorem Completed.append {start : ModuleRegistry} {events : List LifecycleEvent}
    {key : String × String} (h : Completed start events key) (later : List LifecycleEvent) :
    Completed start (events ++ later) key := by
  obtain ⟨before, completion, after, rfl, hrequested, hperforms, hcompletion⟩ := h
  exact ⟨before, completion, after ++ later, by simp, hrequested, hperforms, hcompletion⟩

/-- The history behind a status of the decommission workflow. -/
def HasHistory (start : ModuleRegistry) (events : List LifecycleEvent) (key : String × String)
    (status : ModuleStatus) : Prop :=
  (status ∈ [.decommissionRequested, .decommissionBlocked] → Requested start events key) ∧
    (status = .decommissioned → Completed start events key)

theorem HasHistory.append {start : ModuleRegistry} {events : List LifecycleEvent}
    {key : String × String} {status : ModuleStatus} (h : HasHistory start events key status)
    (later : List LifecycleEvent) : HasHistory start (events ++ later) key status :=
  ⟨fun hactive => (h.1 hactive).append later, fun hfinal => (h.2 hfinal).append later⟩

/-- One more operation: its own status has a history, given that of the status it found. -/
theorem hasHistory_of_performs {start : ModuleRegistry} {events : List LifecycleEvent}
    {event : LifecycleEvent} {key : String × String} {state : TenantModuleState}
    (hperforms : (Runs.run step start events).Performs key event)
    (hwrites : (Runs.run step start events).Writes event.call event.operation state)
    (hfound : ∀ existing, (Runs.run step start events).tenantModules.get? key = some existing →
      HasHistory start events key existing.state.status) :
    HasHistory start (events ++ [event]) key state.status := by
  have hkey := hperforms.key_eq
  rw [hwrites.accepts.2]
  generalize hoperation : event.operation = operation at hwrites
  cases hwrites with
  -- these leave no workflow behind that is active or complete
  | provision | enable | disable | suspend | cancelDecommission =>
    simp [HasHistory, LifecycleOperation.target]
  | requestDecommission _ _ _ complete =>
    -- the history of a request is the request itself
    refine ⟨fun _ => ?_, by simp [LifecycleOperation.target]⟩
    exact ⟨events, event, [], by simp, hperforms, _, hoperation, complete⟩
  | blockDecommission found active =>
    rw [hkey] at found
    refine ⟨fun _ => ?_, by simp [LifecycleOperation.target]⟩
    -- a block goes on with the workflow that it found
    exact ((hfound _ found).1 active).append [event]
  | reopenDecommission found blocked =>
    rw [hkey] at found
    refine ⟨fun _ => ?_, by simp [LifecycleOperation.target]⟩
    have hactive := (hfound _ found).1
    rw [blocked] at hactive
    exact (hactive (by decide)).append [event]
  | completeDecommission found active _ _ complete =>
    -- a completion closes the workflow that it found
    rw [hkey] at found
    refine ⟨by simp [LifecycleOperation.target], fun _ => ?_⟩
    exact ⟨events, event, [], by simp, (hfound _ found).1 active, hperforms, _, hoperation,
      complete⟩

/-- **History.** Every status of the workflow that a run reaches has its history
in that run. -/
theorem decommissionHistory {start : ModuleRegistry}
    (hstart : ∀ key tenantModule, start.tenantModules.get? key = some tenantModule →
      tenantModule.state.status = .available)
    (events : List LifecycleEvent) (key : String × String) (tenantModule : TenantModule)
    (h : (Runs.run step start events).tenantModules.get? key = some tenantModule) :
    HasHistory start events key tenantModule.state.status := by
  induction events using List.reverseRecOn generalizing tenantModule with
  | nil =>
    have hstatus := hstart key tenantModule h
    rw [hstatus]
    constructor
    · intro hactive
      exact absurd hactive (by decide)
    · intro hfinal
      cases hfinal
  -- the last event leaves the module as it was, or is the one that wrote it
  | append_singleton events event ih =>
    rw [Runs.run_append, Runs.run_cons, Runs.run_nil] at h
    rcases step_cases (Runs.run step start events) event with
      ⟨hsame, -⟩ | ⟨stored, hstores, hwrites, -, -⟩
    · rw [hsame] at h
      exact (ih tenantModule h).append [event]
    · rw [get?_step_of_stores hstores] at h
      by_cases hkey : key = event.call.key
      · rw [if_pos hkey, Option.some.injEq] at h
        subst h
        exact hasHistory_of_performs ⟨hkey.symm, stored, hstores⟩ hwrites ih
      · rw [if_neg hkey] at h
        exact (ih tenantModule h).append [event]

/-! ## Gates -/

theorem requireStateMigrationEvidence_eq_ok {entry : ModuleCatalogEntry}
    {state : TenantModuleState} :
    requireStateMigrationEvidence entry state = .ok () ↔
      ∀ version ∈ entry.requiredMigrationVersions,
        ∃ evidence ∈ state.migrationEvidence, evidence.version = version ∧
          evidence.blocksStartup = true := by
  -- nothing is missing exactly if each version has evidence that blocks the startup
  have hmissing : (entry.requiredMigrationVersions.filter
      (· ∉ (state.migrationEvidence.filter (·.blocksStartup)).map (·.version)) = []) ↔
      ∀ version ∈ entry.requiredMigrationVersions,
        ∃ evidence ∈ state.migrationEvidence, evidence.version = version ∧
          evidence.blocksStartup = true := by
    rw [List.filter_eq_nil_iff]
    simp only [List.mem_map, List.mem_filter, decide_eq_true_eq, not_not]
    constructor
    · intro h version hversion
      obtain ⟨evidence, ⟨hmem, hblocks⟩, hsame⟩ := h version hversion
      exact ⟨evidence, hmem, hsame, hblocks⟩
    · intro h version hversion
      obtain ⟨evidence, hmem, hsame, hblocks⟩ := h version hversion
      exact ⟨evidence, ⟨hmem, hblocks⟩, hsame⟩
  rw [← hmissing]
  unfold requireStateMigrationEvidence
  by_cases hnone : entry.requiredMigrationVersions = []
  · rw [if_pos hnone, hnone]
    simp
    rfl
  · rw [if_neg hnone]
    exact require_eq_ok.trans Text.sortedSet_eq_nil

/-- **Gates for normal use** let through enabled modules only, with the named
feature enabled and all required migrations evidenced as blocking. -/
theorem gate_open {registry : ModuleRegistry} {tenantId moduleId : String}
    {surface : ModuleGateSurface} {featureId : Option String} {decision : ModuleGateDecision}
    (hsurface : surface ∈ [ModuleGateSurface.normalApi, .featureWorker])
    (h : registry.requireModuleGate tenantId moduleId surface featureId = .ok decision) :
    ∃ tenantModule entry, registry.tenantModules.get? (tenantId, moduleId) = some tenantModule ∧
      registry.catalog.get? moduleId = some entry ∧
      tenantModule.state.status = .enabled ∧
      (∀ feature ∈ featureId, tenantModule.state.enabledFeatures.get? feature = some true) ∧
      ∀ version ∈ entry.requiredMigrationVersions,
        ∃ evidence ∈ tenantModule.state.migrationEvidence, evidence.version = version ∧
          evidence.blocksStartup = true := by
  unfold requireModuleGate at h
  obtain ⟨tenantModule, hfound, h⟩ := Except.bind_eq_ok.mp h
  obtain ⟨_, -, h⟩ := Except.bind_eq_ok.mp h
  obtain ⟨_, hgate, -⟩ := Except.bind_eq_ok.mp h
  rw [requireNormalSurface, if_pos hsurface] at hgate
  obtain ⟨used, hused, hgate⟩ := Except.bind_eq_ok.mp hgate
  obtain ⟨entry, hentry, hmigrated⟩ := Except.bind_eq_ok.mp hgate
  obtain ⟨found, hfound', hused⟩ := Except.bind_eq_ok.mp hused
  -- the module is looked up twice, and found both times
  have hsame : found = tenantModule := by
    rw [hfound, Except.ok.injEq] at hfound'
    exact hfound'.symm
  subst hsame
  obtain ⟨hnormal, hused⟩ := require_bind_eq_ok.mp hused
  have hstatus : found.state.status = .enabled := of_decide_eq_true hnormal
  refine ⟨found, entry, getTenantModule_eq_ok.mp hfound, getCatalogEntry_eq_ok.mp hentry, hstatus,
    ?_, requireStateMigrationEvidence_eq_ok.mp hmigrated⟩
  intro feature hfeature
  cases featureId with
  | none => cases hfeature
  | some named =>
    cases hfeature
    -- a feature that is used is enabled in the stored state
    obtain ⟨henabled, -⟩ := require_bind_eq_ok.mp hused
    rw [TenantModule.featureEnabled, Bool.and_eq_true] at henabled
    cases hget : found.state.enabledFeatures.get? feature with
    | none =>
      rw [hget] at henabled
      cases henabled.2
    | some value =>
      rw [hget] at henabled
      exact congrArg some henabled.2

/-! ## The workflow as a whole -/

/-- What holds in every state of every run from `start`. -/
structure WorkflowSafe (start : ModuleRegistry) (events : List LifecycleEvent)
    (registry : ModuleRegistry) : Prop where
  final     : ∀ key tenantModule, registry.tenantModules.get? key = some tenantModule →
                tenantModule.state.status = .decommissioned →
                ∀ later, (Runs.run step registry later).tenantModules.get? key = some tenantModule
  requested : ∀ key tenantModule, registry.tenantModules.get? key = some tenantModule →
                tenantModule.state.status = .decommissioned →
                Completed start events key ∧
                tenantModule.state.decommissionRequestedAtUtc ≠ none ∧
                tenantModule.state.HasEvidence (requiredDecommissionEvidenceKeys ++
                  requiredDecommissionCompletionEvidenceKeys)
  features  : ∀ key tenantModule, registry.tenantModules.get? key = some tenantModule →
                tenantModule.state.status ∈ decommissionStatuses →
                ¬ tenantModule.state.AnyFeature
  gates     : ∀ tenantId moduleId surface featureId decision,
                surface ∈ [ModuleGateSurface.normalApi, .featureWorker] →
                registry.requireModuleGate tenantId moduleId surface featureId = .ok decision →
                ∃ tenantModule entry,
                  registry.tenantModules.get? (tenantId, moduleId) = some tenantModule ∧
                  registry.catalog.get? moduleId = some entry ∧
                  tenantModule.state.status = .enabled ∧
                  (∀ feature ∈ featureId,
                    tenantModule.state.enabledFeatures.get? feature = some true) ∧
                  ∀ version ∈ entry.requiredMigrationVersions,
                    ∃ evidence ∈ tenantModule.state.migrationEvidence,
                      evidence.version = version ∧ evidence.blocksStartup = true
  raising   : ∀ event exn registry', perform event registry = (.error exn, registry') →
                registry' = registry

/-- **Workflow safety**, in every state of every run from the default registry. -/
theorem module_workflow_safe (times : SeedTimes) (events : List LifecycleEvent) :
    WorkflowSafe (defaultModuleRegistry times) events
      (Runs.run step (defaultModuleRegistry times) events) where
  final := by
    intro key tenantModule h hstatus later
    exact decommissioned_run h hstatus later
  requested := by
    intro key tenantModule h hstatus
    have hhistory := decommissionHistory
      (fun key tenantModule hseed => (default_available hseed).1) events key tenantModule h
    have hvalid := tenantModule.isValid.status
    exact ⟨hhistory.2 hstatus, hvalid.finalRequested hstatus, hvalid.finalEvidence hstatus⟩
  features := by
    intro key tenantModule _ hstatus
    exact tenantModule.features_off hstatus
  gates := by
    intro tenantId moduleId surface featureId decision hsurface h
    exact gate_open hsurface h
  raising := by
    intro event exn registry' h
    exact perform_error h

end ModuleRegistry

end Collabio
