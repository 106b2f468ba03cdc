import Mathlib.Tactic
import Collabio.ControlPlane.Audit
import Collabio.Platform.ModuleAvailability

/-!
# The audit trail of the module administration

An endpoint of the module administration records its audit event while it builds the
arguments of the registry's operation, which may then still raise.

* `ModuleAdminEndpoint`     — the nine endpoints, with their events and operations;
* `ModuleAuditWorld.step`   — one request, or another event of the same log;
* `TrailMatches`            — of each module, the events and the changes agree in number and
  order, and each change carries its event's reference;
* `trail_matches_run_iff`   — that is so in all states of a run exactly if the registry
  grants every request whose event is recorded.
-/

namespace Collabio

/-! ## Endpoints -/

/-- The endpoints that change a tenant's module; the decommission steps with the evidence
references of their commands. -/
inductive ModuleAdminEndpoint where
  | provision | enable | disable | suspend
  | decommissionRequest (evidenceRefs : Dict String String)
  | decommissionBlock (evidenceRefs : Dict String String)
  | decommissionCancel (evidenceRefs : Dict String String)
  | decommissionReopen (evidenceRefs : Dict String String)
  | decommissionComplete (evidenceRefs : Dict String String)

structure ModuleLifecycleCommand where
  approvalReference : String
  reason            : String
  enabledFeatures   : Option (Dict String Bool) := none

namespace ModuleAdminEndpoint

/-- `action`, the last part of the event type. -/
def action : ModuleAdminEndpoint → String
  | .provision => "provisioned"
  | .enable => "enabled"
  | .disable => "disabled"
  | .suspend => "suspended"
  | .decommissionRequest _ => "decommission_requested"
  | .decommissionBlock _ => "decommission_blocked"
  | .decommissionCancel _ => "decommission_cancelled"
  | .decommissionReopen _ => "decommission_reopened"
  | .decommissionComplete _ => "decommission_completed"

/-- The `target_status` that the event names. -/
def targetStatus : ModuleAdminEndpoint → String
  | .provision | .disable | .decommissionCancel _ => "disabled"
  | .enable => "enabled"
  | .suspend => "suspended"
  | .decommissionRequest _ | .decommissionReopen _ => "decommission_requested"
  | .decommissionBlock _ => "decommission_blocked"
  | .decommissionComplete _ => "decommissioned"

/-- The operation of the registry that the endpoint calls. -/
def operation (migrationManifest : List ModuleMigrationEvidence)
    (command : ModuleLifecycleCommand) : ModuleAdminEndpoint → LifecycleOperation
  | .provision => .provision command.enabledFeatures (some migrationManifest)
  | .enable => .enable command.enabledFeatures
  | .disable => .disable
  | .suspend => .suspend
  | .decommissionRequest evidenceRefs => .requestDecommission evidenceRefs
  | .decommissionBlock evidenceRefs => .blockDecommission evidenceRefs
  | .decommissionCancel evidenceRefs => .cancelDecommission evidenceRefs
  | .decommissionReopen evidenceRefs => .reopenDecommission evidenceRefs
  | .decommissionComplete evidenceRefs => .completeDecommission evidenceRefs

def eventType (endpoint : ModuleAdminEndpoint) : String := "tenant_module." ++ endpoint.action

/-- The event names the status that the operation leads to. -/
theorem targetStatus_eq (migrationManifest : List ModuleMigrationEvidence)
    (command : ModuleLifecycleCommand) (endpoint : ModuleAdminEndpoint) :
    endpoint.targetStatus = (endpoint.operation migrationManifest command).target.value := by
  cases endpoint <;> rfl

end ModuleAdminEndpoint

/-- The types of the events of a module's trail. -/
def moduleTrailEventTypes : List String :=
  [.provision, .enable, .disable, .suspend, .decommissionRequest ∅, .decommissionBlock ∅,
    .decommissionCancel ∅, .decommissionReopen ∅,
    .decommissionComplete ∅].map ModuleAdminEndpoint.eventType

theorem eventType_mem_trail (endpoint : ModuleAdminEndpoint) :
    endpoint.eventType ∈ moduleTrailEventTypes := by
  cases endpoint <;> simp [moduleTrailEventTypes, ModuleAdminEndpoint.eventType,
    ModuleAdminEndpoint.action]

/-! ## Requests -/

/-- Who `require_tenant_admin` lets in, with the hash of the tenant's policy. -/
structure ModuleAdminContext where
  userContext        : UserContext
  policySnapshotHash : String

structure ModuleAdminRequest where
  endpoint : ModuleAdminEndpoint
  moduleId : String
  command  : ModuleLifecycleCommand
  context  : Option ModuleAdminContext
  /-- The id drawn for the audit event, or what the logger raises instead of recording it. -/
  eventId  : Except Exn String
  utcNow   : Datetime.DateTime

namespace ModuleAdminRequest

/-- What `module_audit_ref` records. -/
def auditCall (request : ModuleAdminRequest) (context : ModuleAdminContext) (eventId : String) :
    AuditCall where
  eventId := eventId
  userContext := context.userContext
  eventType := request.endpoint.eventType
  sourceObjectIds := ["module:" ++ request.moduleId]
  inputText := some request.command.reason
  metadata := ⟨[("module_id", .str request.moduleId),
    ("approval_reference", .str request.command.approvalReference),
    ("target_status", .str request.endpoint.targetStatus),
    ("feature_count", .int ((request.command.enabledFeatures.getD ∅).items.length : Int))],
    by simp⟩

/-- What the endpoint tells the registry. -/
def lifecycleEvent (migrationManifest : List ModuleMigrationEvidence)
    (request : ModuleAdminRequest) (context : ModuleAdminContext) (eventId : String) :
    LifecycleEvent where
  call := {
    tenantId := context.userContext.tenantId
    moduleId := request.moduleId
    policySnapshotHash := context.policySnapshotHash
    changedBy := context.userContext.userId
    auditChainRef := "audit:" ++ eventId
    changedAtUtc := none
    utcNow := request.utcNow }
  operation := request.endpoint.operation migrationManifest request.command

end ModuleAdminRequest

/-- A state that was stored: whose module it is, through which endpoint it came about, and
the reference it carries. -/
structure ModuleChange where
  key           : String × String
  eventType     : String
  auditChainRef : String
  deriving DecidableEq, Repr

/-- The registry and the log, and as a history of the run the states that were stored. -/
structure ModuleAuditWorld where
  registry : ModuleRegistry
  events   : List AuditEvent := []
  changes  : List ModuleChange := []

/-- A request, or an event of another kind in the same log. -/
inductive ModuleAuditStep where
  | request (request : ModuleAdminRequest)
  | other (call : AuditCall) (unrelated : call.eventType ∉ moduleTrailEventTypes)

namespace ModuleAuditWorld

variable (H : HashFunctions) (migrationManifest : List ModuleMigrationEvidence)

/-- The endpoint's body: the event is recorded first, the operation may raise after it. -/
def serve (request : ModuleAdminRequest) (context : ModuleAdminContext) (eventId : String)
    (world : ModuleAuditWorld) : ModuleAuditWorld :=
  let event := auditEvent H world.events (request.auditCall context eventId)
  let recorded := { world with events := world.events ++ [event] }
  match ModuleRegistry.perform (request.lifecycleEvent migrationManifest context event.eventId)
      world.registry with
  | (.error _, registry) => { recorded with registry }
  | (.ok tenantModule, registry) =>
    { recorded with
      registry
      changes := world.changes ++
        [⟨tenantModule.key, request.endpoint.eventType, tenantModule.state.auditChainRef⟩] }

def step (world : ModuleAuditWorld) : ModuleAuditStep → ModuleAuditWorld
  | .other call _ => { world with events := world.events ++ [auditEvent H world.events call] }
  | .request request =>
    match request.context, request.eventId with
    | some context, .ok eventId => world.serve H migrationManifest request context eventId
    | _, _ => world

/-! ## The trail of a module -/

/-- The event is one of the module's trail. -/
def isTrailEvent (key : String × String) (event : AuditEvent) : Bool :=
  event.tenantId = key.1 ∧ event.eventType ∈ moduleTrailEventTypes ∧
    event.sourceObjectIds = ["module:" ++ key.2]

/-- The types and references of the module's events, oldest first. -/
def trail (key : String × String) (events : List AuditEvent) : List (String × String) :=
  (events.filter (isTrailEvent key)).map fun event => (event.eventType, "audit:" ++ event.eventId)

/-- The types and references that the module's changes carry, oldest first. -/
def carried (key : String × String) (changes : List ModuleChange) : List (String × String) :=
  (changes.filter (·.key = key)).map fun change => (change.eventType, change.auditChainRef)

/-- Events and changes of each module correspond one to one, in this order. -/
def TrailMatches (world : ModuleAuditWorld) : Prop :=
  ∀ key, trail key world.events = carried key world.changes

/-- The registry grants the operation: its checks pass, on a state that the validator accepts,
of a module that is installed. -/
def Grants (registry : ModuleRegistry) (event : LifecycleEvent) : Prop :=
  ∃ state, registry.Writes event.call event.operation state ∧ state.Valid ∧
    ∃ entry, registry.catalog.get? event.call.moduleId = some entry ∧ entry.status ≠ .notInstalled

/-- The registry grants the request, if it comes to that. -/
def GrantsRecorded (world : ModuleAuditWorld) : ModuleAuditStep → Prop
  | .other _ _ => True
  | .request request => ∀ context eventId, request.context = some context →
    request.eventId = .ok eventId →
      Grants world.registry (request.lifecycleEvent migrationManifest context eventId)

theorem auditChainRef_of_writes {registry : ModuleRegistry} {call : LifecycleCall}
    {operation : LifecycleOperation} {state : TenantModuleState}
    (h : registry.Writes call operation state) : state.auditChainRef = call.auditChainRef := by
  cases h <;> rfl

theorem grants_iff {registry : ModuleRegistry} {event : LifecycleEvent} :
    Grants registry event ↔ ∃ tenantModule, registry.Stores event tenantModule := by
  constructor
  · rintro ⟨state, hwrites, hvalid, hlisted⟩
    obtain ⟨tenantModule, hstores, -⟩ := ModuleRegistry.stores_of_writes hwrites hvalid hlisted
    exact ⟨tenantModule, hstores⟩
  · rintro ⟨tenantModule, registry', hperform⟩
    obtain ⟨hwrites, ⟨entry, hentry, hstatus⟩, -⟩ := ModuleRegistry.perform_eq_ok.mp hperform
    have hmodule : tenantModule.state.moduleId = event.call.moduleId :=
      congrArg Prod.snd hwrites.key_eq
    rw [hmodule] at hentry
    exact ⟨_, hwrites, TenantModuleState.validate_eq_ok.mp tenantModule.valid, entry, hentry,
      hstatus⟩

variable {H migrationManifest} {world : ModuleAuditWorld} {request : ModuleAdminRequest}
  {context : ModuleAdminContext} {eventId : String}

/-- The key of the module that a request is about. -/
def requestKey (request : ModuleAdminRequest) (context : ModuleAdminContext) : String × String :=
  (context.userContext.tenantId, request.moduleId)

theorem trail_append_request (key : String × String) (earlier events : List AuditEvent) :
    trail key (events ++ [auditEvent H earlier (request.auditCall context eventId)]) =
      trail key events ++ if requestKey request context = key then
        [(request.endpoint.eventType, "audit:" ++ eventId)] else [] := by
  have hmem := eventType_mem_trail request.endpoint
  have htrail : isTrailEvent key (auditEvent H earlier (request.auditCall context eventId)) =
      decide (requestKey request context = key) := by
    simp [isTrailEvent, auditEvent, ModuleAdminRequest.auditCall, hmem, requestKey, Prod.ext_iff]
  rw [trail, List.filter_append, List.map_append, List.filter_singleton, htrail]
  by_cases hkey : requestKey request context = key
  · simp [hkey, auditEvent, ModuleAdminRequest.auditCall, trail]
  · simp [hkey, trail]

theorem carried_append (key : String × String) (changes : List ModuleChange)
    (change : ModuleChange) :
    carried key (changes ++ [change]) =
      carried key changes ++ if change.key = key then
        [(change.eventType, change.auditChainRef)] else [] := by
  rw [carried, List.filter_append, List.map_append, List.filter_singleton]
  by_cases hkey : change.key = key <;> simp [hkey, carried]

theorem trail_append_other (key : String × String) (earlier events : List AuditEvent)
    {call : AuditCall} (h : call.eventType ∉ moduleTrailEventTypes) :
    trail key (events ++ [auditEvent H earlier call]) = trail key events := by
  have hnot : isTrailEvent key (auditEvent H earlier call) = false := by
    simp [isTrailEvent, auditEvent, h]
  simp [trail, hnot]

/-! ## Steps and runs -/

/-- A request that is served keeps the trail exactly if the registry grants it. -/
theorem trailMatches_serve_iff (h : TrailMatches world) :
    TrailMatches (world.serve H migrationManifest request context eventId) ↔
      Grants world.registry (request.lifecycleEvent migrationManifest context eventId) := by
  rw [grants_iff, serve]
  dsimp only
  have hid : (auditEvent H world.events (request.auditCall context eventId)).eventId = eventId :=
    rfl
  rw [hid]
  cases hperform : ModuleRegistry.perform
      (request.lifecycleEvent migrationManifest context eventId) world.registry with
  | mk outcome registry =>
  cases outcome with
  | error exn =>
    -- the event stands in the log, and nothing has changed
    refine iff_of_false (fun hmatches => ?_) ?_
    · have hkey := hmatches (requestKey request context)
      dsimp only at hkey
      rw [trail_append_request, h, if_pos rfl] at hkey
      simp at hkey
    · rintro ⟨tenantModule, registry', hstores⟩
      rw [hperform] at hstores
      cases hstores
  | ok tenantModule =>
    refine iff_of_true (fun key => ?_) ⟨tenantModule, registry, hperform⟩
    obtain ⟨hwrites, -, -⟩ := ModuleRegistry.perform_eq_ok.mp hperform
    have hkey : tenantModule.key = requestKey request context := hwrites.key_eq
    have href : tenantModule.state.auditChainRef = "audit:" ++ eventId :=
      auditChainRef_of_writes hwrites
    dsimp only
    rw [trail_append_request, carried_append, h key, hkey, href]

theorem trailMatches_step_iff (h : TrailMatches world) (event : ModuleAuditStep) :
    TrailMatches (world.step H migrationManifest event) ↔
      world.GrantsRecorded migrationManifest event := by
  cases event with
  | other call unrelated =>
    refine iff_of_true (fun key => ?_) trivial
    rw [step]
    dsimp only
    rw [trail_append_other key _ _ unrelated]
    exact h key
  | request request =>
    rw [step, GrantsRecorded]
    cases hcontext : request.context with
    | none => simpa using h
    | some context =>
      cases hevent : request.eventId with
      | error exn => simpa using h
      | ok eventId =>
        dsimp only
        rw [trailMatches_serve_iff h]
        simp

/-- **The audit trail.** From a state whose trail matches: in all states of a run events and
changes of each module correspond one to one, in order and reference, exactly if the registry
grants each request of the run whose event is recorded. -/
theorem trail_matches_run_iff (H : HashFunctions)
    (migrationManifest : List ModuleMigrationEvidence) {start : ModuleAuditWorld}
    (hstart : start.TrailMatches) (events : List ModuleAuditStep) :
    Runs.Always (step H migrationManifest) TrailMatches start events ↔
      Runs.Guarded (step H migrationManifest) (GrantsRecorded migrationManifest) start events :=
  Runs.always_iff_guarded (I := fun _ => True) (P := TrailMatches) (fun _ _ _ => trivial)
    (fun _ event _ h => trailMatches_step_iff h event) trivial hstart events

/-- An administrator's attempt to disable a module that the tenant does not have. -/
def sampleUnknownModuleRequest : ModuleAdminRequest where
  endpoint := .disable
  moduleId := "archive"
  command := { approvalReference := "approval:1", reason := "not in use" }
  context := some {
    userContext := { userId := "admin-1", tenantId := "tenant-demo", roleIds := ["tenant-admin"] }
    policySnapshotHash := "sha256:1" }
  eventId := .ok "event-1"
  utcNow := ModuleRegistry.seedTime

/-- The registry as the application starts with it, and an empty log. -/
def sampleAuditStart : ModuleAuditWorld where
  registry := defaultModuleRegistry ModuleRegistry.seedTimes

theorem sampleAuditStart_matches : TrailMatches sampleAuditStart := fun _ => rfl

/-- The equivalence at a run of one request that the registry refuses. -/
theorem sample_trail_matches_run_iff :
    Runs.Always (step default []) TrailMatches sampleAuditStart
        [.request sampleUnknownModuleRequest] ↔
      Runs.Guarded (step default []) (GrantsRecorded []) sampleAuditStart
        [.request sampleUnknownModuleRequest] :=
  trail_matches_run_iff default [] sampleAuditStart_matches [.request sampleUnknownModuleRequest]

/-- The request is refused, nothing changes, and its event is in the log. -/
theorem refused_request_leaves_event :
    ¬ Runs.Always (step default []) TrailMatches sampleAuditStart
      [.request sampleUnknownModuleRequest] := by
  intro halways
  have hmatches := Runs.always_last halways
  rw [Runs.run_cons, Runs.run_nil, trailMatches_step_iff sampleAuditStart_matches] at hmatches
  obtain ⟨state, hwrites, -⟩ := hmatches _ _ rfl rfl
  cases hwrites with
  | disable found =>
    have hnone : (defaultModuleRegistry ModuleRegistry.seedTimes).tenantModules.get?
        ("tenant-demo", "archive") = none := by
      rw [ModuleRegistry.get?_default]
      rfl
    have hsome := hnone.symm.trans found
    cases hsome

end ModuleAuditWorld

end Collabio
