import Mathlib.Tactic
import Collabio.Library.Components
import Collabio.KnowledgeBase.ConfirmedWrites
import Collabio.KnowledgeBase.TenantWrites
import Collabio.Platform.ModuleAuditTrail
import Collabio.Platform.TenantPolicies

/-!
# The knowledge base behind its module gate

The API serves requests at the same time. A request to the knowledge base passes the gate of its
module first; requests of the module administration change what the gate finds.

* `SuiteRequest.program`   — how a request is served, call by call;
* `changed_by_admitted`    — a change comes from an administrator whose request has passed the gate
  before, in a state whose module status allows compliance access;
* `decommissioned_content` — once the module is decommissioned and the requests that have begun have
  ended, nothing changes any more.
-/

namespace Collabio

open KnowledgeBaseWorld

/-! ## Requests -/

namespace KnowledgeBaseArticleService

variable (service : KnowledgeBaseArticleService)

/-- What the endpoints of the knowledge base's administration call. -/
inductive AdminCall where
  | write (event : WriteEvent)
  | preview (command : KnowledgeBaseEvidenceRefreshPreviewCommand) (user : UserContext)
      (eventId : EventId)
  | skeleton (command : KnowledgeBaseWriteExecutionSkeletonCommand) (user : UserContext)
      (eventId : EventId)

def AdminCall.user : AdminCall → UserContext
  | .write (.dryRun _ user _) | .write (.approve _ user _) | .write (.execute _ user _ _) => user
  | .preview _ user _ => user
  | .skeleton _ user _ => user

/-- The call, without what it returns. -/
def AdminCall.program : AdminCall → KbProg Unit
  | .write event => event.program service
  | .preview command user eventId => do
    let _ ← service.previewWriteEvidenceRefresh command user eventId
    return ()
  | .skeleton command user eventId => do
    let _ ← service.prepareWriteExecutionSkeleton command user eventId
    return ()

variable {service}

theorem keeps_currentApproval (text tenantId evidenceHash : String) :
    (service.currentApproval text tenantId evidenceHash).Keeps stores := by
  unfold currentApproval
  refine (keeps_read _).bind fun _ => (keeps_lift _).bind fun _ => ?_
  refine (keeps_listRecords _).bind fun _ => (keeps_lift _).bind fun _ => ?_
  refine (keeps_currentEvidence _ _).bind fun _ => (keeps_lift _).bind fun _ => keeps_pure _

/-- **Its calls** are confined to the user's tenant. -/
theorem confined_program (call : AdminCall) :
    Confined call.user.tenantId (call.program service) := by
  have hend : ∀ {α : Type} {tenantId : String} {p : KbProg α}, Confined tenantId p →
      Confined tenantId (p >>= fun _ => (pure () : KbProg Unit)) :=
    fun hp => hp.bind fun _ _ => Prog.does_pure trivial
  cases call with
  | write event =>
    cases event with
    | dryRun command user eventId => exact hend (confined_dryRun command user eventId)
    | approve command user eventId => exact hend (confined_approve command user eventId)
    | execute command user eventId now =>
      exact hend (confined_executeWrite command user eventId now)
  | preview command user eventId =>
    refine hend (confined_of_keeps ?_)
    unfold previewWriteEvidenceRefresh
    refine (keeps_currentApproval _ _ _).bind fun _ => (keeps_lift _).bind fun _ => ?_
    exact (keeps_recordAudit _ _).bind fun _ => keeps_lift _
  | skeleton command user eventId =>
    refine hend (confined_of_keeps ?_)
    unfold prepareWriteExecutionSkeleton
    refine (keeps_currentApproval _ _ _).bind fun _ => (keeps_lift _).bind fun _ => ?_
    refine (keeps_lift _).bind fun _ => (keeps_lift _).bind fun _ => ?_
    exact (keeps_recordAudit _ _).bind fun _ => keeps_lift _

end KnowledgeBaseArticleService

open KnowledgeBaseArticleService

/-- What the requests share; the log of the knowledge base is the log of the application. -/
structure SuiteWorld where
  registry      : ModuleRegistry
  knowledgeBase : KnowledgeBaseWorld

namespace SuiteWorld

def onKnowledgeBase {α : Type} (p : KbProg α) : Prog ApiError SuiteWorld α :=
  p.within .raised SuiteWorld.knowledgeBase fun knowledgeBase world => { world with knowledgeBase }

theorem knowledgeBase_run {α : Type} (p : KbProg α) (world : SuiteWorld) :
    ((onKnowledgeBase p).run world).2.knowledgeBase = (p.run world.knowledgeBase).2 :=
  Prog.get_run_within (fun _ _ => rfl) p world

def onRegistry {α : Type} (p : Prog Exn ModuleRegistry α) : Prog ApiError SuiteWorld α :=
  p.within .raised SuiteWorld.registry fun registry world => { world with registry }

/-- The articles and the evidence of a tenant. -/
def content (tenantId : String) (world : SuiteWorld) :
    List KnowledgeBaseArticleRecord × (String → Option KnowledgeBaseWriteApprovalEvidence) :=
  (world.knowledgeBase.articles.listArticles tenantId,
    fun evidenceHash => world.knowledgeBase.ledger.get? (tenantId, evidenceHash))

theorem content_snd (tenantId evidenceHash : String) (world : SuiteWorld) :
    (world.content tenantId).2 evidenceHash =
      world.knowledgeBase.ledger.get? (tenantId, evidenceHash) := rfl

end SuiteWorld

/-- `require_module_api_gate`: the dependency of an endpoint. -/
def requireModuleApiGate (moduleId : String) (featureId : Option String) (compliance : Bool)
    (tenantId : String) (registry : ModuleRegistry) :
    Except ApiError ModuleRegistry.ModuleGateDecision :=
  match registry.requireModuleGate tenantId moduleId
      (if compliance then .complianceApi else .normalApi) featureId with
  | .ok decision => .ok decision
  | .error (.lookupError text) => .error (.httpException 404 text)
  | .error (.moduleLifecycleError text) => .error (.httpException 403 text)
  | .error exn => .error (.raised exn)

/-- An endpoint of the module administration. The registry looks at the module, and stores its next
state in another call. -/
def ModuleAdminRequest.program (H : HashFunctions)
    (migrationManifest : List ModuleMigrationEvidence) (request : ModuleAdminRequest) :
    Prog ApiError SuiteWorld Unit :=
  match request.context, request.eventId with
  | none, _ => .lift (.error (.httpException 403 "Tenant admin role required"))
  | some _, .error exn => .lift (.error (.raised exn))
  | some context, .ok eventId => do
    let event ← SuiteWorld.onKnowledgeBase (recordAudit H (request.auditCall context eventId))
    let tenantModule ← SuiteWorld.onRegistry (.read fun registry =>
      (ModuleRegistry.perform (request.lifecycleEvent migrationManifest context event.eventId)
        registry).1)
    let _ ← SuiteWorld.onRegistry (.atomic (ModuleRegistry.upsertTenantModule tenantModule))
    return ()

/-- A request by an authenticated user: to the knowledge base's administration, with the tenant
policies at the time, or to the module administration. -/
inductive SuiteRequest where
  | knowledgeBase (call : AdminCall) (policies : TenantPolicyRepository)
  | moduleAdmin (request : ModuleAdminRequest)

namespace SuiteRequest

/-- The tenant of the user, if the module administration has let the user in. -/
def tenantId? : SuiteRequest → Option String
  | .knowledgeBase call _ => some call.user.tenantId
  | .moduleAdmin request => request.context.map (·.userContext.tenantId)

/-- How the API serves it; the statuses that a handler gives the errors of the service are left
out. -/
def program (service : KnowledgeBaseArticleService)
    (migrationManifest : List ModuleMigrationEvidence) :
    SuiteRequest → Prog ApiError SuiteWorld Unit
  | .knowledgeBase call policies => do
    let _ ← Prog.lift (requireTenantAdmin call.user policies)
    let _ ← Prog.read fun world : SuiteWorld =>
      requireModuleApiGate knowledgeBaseModuleId none true call.user.tenantId world.registry
    SuiteWorld.onKnowledgeBase (call.program service)
  | .moduleAdmin request => request.program service.hashes migrationManifest

/-- What a call of the request may change. -/
def Guarantee : SuiteRequest → SuiteWorld → SuiteWorld → Prop
  | .knowledgeBase call _, world, world' =>
    ConfinedTo call.user.tenantId world.knowledgeBase world'.knowledgeBase ∧
      world'.registry = world.registry
  | .moduleAdmin request, world, world' =>
    world'.knowledgeBase.stores = world.knowledgeBase.stores ∧
      ∀ key : String × String, request.context.map (·.userContext.tenantId) ≠ some key.1 →
        world'.registry.tenantModules.get? key = world.registry.tenantModules.get? key

end SuiteRequest

/-- Requests that are all received before any has made a call. -/
def startRequests (service : KnowledgeBaseArticleService)
    (migrationManifest : List ModuleMigrationEvidence) (world : SuiteWorld)
    (requests : List SuiteRequest) : Pool ApiError SuiteWorld Unit :=
  ⟨world, requests.map (SuiteRequest.program service migrationManifest)⟩

/-! ## What the requests do -/

section

variable {service : KnowledgeBaseArticleService}
variable {migrationManifest : List ModuleMigrationEvidence}

/-- The gate of the compliance endpoints. -/
theorem status_of_gate {moduleId tenantId : String} {featureId : Option String}
    {registry : ModuleRegistry} {decision : ModuleRegistry.ModuleGateDecision}
    (h : requireModuleApiGate moduleId featureId true tenantId registry = .ok decision) :
    ∃ status ∈ complianceAccessStatuses, registry.status? (tenantId, moduleId) = some status := by
  unfold requireModuleApiGate ModuleRegistry.requireModuleGate at h
  split at h
  · rename_i passed hgate
    obtain ⟨state, hstate, hgate⟩ := Except.bind_eq_ok.mp hgate
    obtain ⟨_, -, hgate⟩ := Except.bind_eq_ok.mp hgate
    obtain ⟨_, -, hgate⟩ := Except.bind_eq_ok.mp hgate
    obtain ⟨_, hsurface, -⟩ := Except.bind_eq_ok.mp hgate
    unfold ModuleRegistry.requireComplianceSurface at hsurface
    rw [if_pos (by decide)] at hsurface
    obtain ⟨tenantModule, haccess, -⟩ := Except.bind_eq_ok.mp hsurface
    unfold ModuleRegistry.requireComplianceAccess at haccess
    obtain ⟨found, hfound, haccess⟩ := Except.bind_eq_ok.mp haccess
    obtain ⟨_, hallowed, -⟩ := Except.bind_eq_ok.mp haccess
    have hallowed := require_eq_ok.mp hallowed
    rw [TenantModule.complianceAccessAllowed, decide_eq_true_eq] at hallowed
    refine ⟨_, hallowed, ?_⟩
    rw [ModuleRegistry.status?, ModuleRegistry.getTenantModule_eq_ok.mp hfound]
    rfl
  all_goals cases h

theorem get?_upsert (tenantModule : TenantModule) (registry : ModuleRegistry)
    {key : String × String} (hkey : key ≠ tenantModule.key) :
    (ModuleRegistry.upsertTenantModule tenantModule registry).2.tenantModules.get? key =
      registry.tenantModules.get? key := by
  rcases hupsert : ModuleRegistry.upsertTenantModule tenantModule registry with
    ⟨exn | stored, registry'⟩
  · rw [ModuleRegistry.upsertTenantModule_error hupsert]
  · obtain ⟨-, installed, rfl⟩ := ModuleRegistry.upsertTenantModule_eq_ok.mp hupsert
    rw [ModuleRegistry.get?_insert, if_neg hkey]

theorem run_of_admitted {call : AdminCall} {policies : TenantPolicyRepository} {world : SuiteWorld}
    {policy : TenantAiPolicy} {decision : ModuleRegistry.ModuleGateDecision}
    (hadmin : requireTenantAdmin call.user policies = .ok policy)
    (hgate : requireModuleApiGate knowledgeBaseModuleId none true call.user.tenantId
      world.registry = .ok decision) :
    ((SuiteRequest.knowledgeBase call policies).program service migrationManifest).run world =
      (SuiteWorld.onKnowledgeBase (call.program service)).run world := by
  show (Prog.lift (requireTenantAdmin call.user policies) >>= _).run world = _
  rw [Prog.run_lift_bind, hadmin]
  show (Prog.read _ >>= _).run world = _
  rw [Prog.run_read_bind, hgate]

/-- **A request**: what its calls change, and of whom. -/
theorem does_program (request : SuiteRequest) :
    (request.program service migrationManifest).Does
      (fun world => ByTenant world.knowledgeBase) request.Guarantee fun _ => True := by
  cases request with
  | knowledgeBase call policies =>
    refine Prog.Does.bind (Q := fun _ => True) (Prog.does_lift fun _ _ => trivial) fun _ _ => ?_
    refine Prog.Does.bind (Q := fun _ => True) (Prog.does_read (fun world _ => ?_)
      fun _ _ _ _ => trivial) fun _ _ => ?_
    · exact ⟨confinedTo_of_stores rfl rfl, rfl⟩
    · refine ((confined_program call).within fun _ _ => rfl).mono (fun _ h => h) ?_ fun _ h => h
      rintro world world' - ⟨hconfined, hsame⟩
      exact ⟨hconfined, by rw [hsame]⟩
  | moduleAdmin request =>
    show (request.program service.hashes migrationManifest).Does _ _ _
    unfold ModuleAdminRequest.program
    split
    · exact Prog.does_lift fun _ _ => trivial
    · exact Prog.does_lift fun _ _ => trivial
    rename_i context eventId hcontext _
    -- the event changes no store, and the operation a module of the administrator's tenant
    refine Prog.Does.bind (Q := fun _ => True) ?_ fun event _ => ?_
    · refine ((keeps_recordAudit _ _).within fun _ _ => rfl).mono (fun _ _ => trivial) ?_
        fun _ h => h
      rintro world world' - ⟨hkept, hsame⟩
      exact ⟨hkept, fun key _ => by rw [hsame]⟩
    refine Prog.Does.bind
      (Q := fun tenantModule => tenantModule.key.1 = context.userContext.tenantId) ?_
      fun tenantModule hkey => Prog.Does.bind (Q := fun _ => True) ?_ fun _ _ =>
        Prog.does_pure trivial
    · refine (Prog.Does.within (fun _ _ => rfl) (I := fun _ => True)
        (G := fun registry registry' => registry' = registry)
        (Prog.does_read (fun _ _ => rfl) fun registry _ tenantModule hperform => ?_)).mono
        (fun _ _ => trivial) ?_ fun _ h => h
      · obtain ⟨hwrites, -⟩ := ModuleRegistry.perform_eq_ok.mp (Prod.ext hperform rfl)
        exact congrArg Prod.fst hwrites.key_eq
      · rintro world world' - ⟨hkept, hsame⟩
        rw [hsame]
        exact ⟨rfl, fun key _ => by rw [hkept]⟩
    · refine (Prog.Does.within (fun _ _ => rfl) (I := fun _ => True)
        (G := fun registry registry' => ∀ key, key ≠ tenantModule.key →
          registry'.tenantModules.get? key = registry.tenantModules.get? key)
        (Prog.does_atomic fun registry _ =>
          ⟨fun key hne => get?_upsert tenantModule registry hne, fun _ _ => trivial⟩)).mono
        (fun _ _ => trivial) ?_ fun _ h => h
      rintro world world' - ⟨hkept, hsame⟩
      rw [hsame]
      refine ⟨rfl, fun key hother => hkept key ?_⟩
      rintro rfl
      rw [hcontext, Option.map_some, hkey] at hother
      exact hother rfl

/-- A call of another tenant's request. -/
theorem content_of_guarantee {request : SuiteRequest} {world world' : SuiteWorld}
    {tenantId : String} (h : request.Guarantee world world')
    (hother : request.tenantId? ≠ some tenantId) :
    world'.content tenantId = world.content tenantId := by
  cases request with
  | knowledgeBase call policies =>
    have hne : tenantId ≠ call.user.tenantId := fun hsame => hother (congrArg some hsame.symm)
    rw [SuiteWorld.content, h.1.articles tenantId hne, funext fun hash => h.1.get? hne hash]
    rfl
  | moduleAdmin request =>
    obtain ⟨hledger, -, -, harticles⟩ := stores_eq_iff.mp h.1
    rw [SuiteWorld.content, hledger, harticles]
    rfl

theorem byTenant_of_guarantee {request : SuiteRequest} {world world' : SuiteWorld}
    (h : request.Guarantee world world') (hworld : ByTenant world.knowledgeBase) :
    ByTenant world'.knowledgeBase := by
  cases request with
  | knowledgeBase call policies => exact h.1.byTenant hworld
  | moduleAdmin request => exact hworld.grows (.inl (stores_eq_iff.mp h.1).1)

/-- A call of the module administration. -/
theorem content_of_moduleAdmin {request : ModuleAdminRequest} {world world' : SuiteWorld}
    (h : (SuiteRequest.moduleAdmin request).Guarantee world world') (tenantId : String) :
    world'.content tenantId = world.content tenantId := by
  obtain ⟨hledger, -, -, harticles⟩ := stores_eq_iff.mp h.1
  rw [SuiteWorld.content, hledger, harticles]
  rfl

/-! ## Any order of turns -/

variable {world : SuiteWorld} {requests : List SuiteRequest}

/-- The state after these turns. -/
abbrev servedState (service : KnowledgeBaseArticleService)
    (migrationManifest : List ModuleMigrationEvidence) (world : SuiteWorld)
    (requests : List SuiteRequest) (schedule : List Nat) : SuiteWorld :=
  (Runs.run Pool.step (startRequests service migrationManifest world requests) schedule).shared

theorem thread_startRequests {i : Nat} {p : Prog ApiError SuiteWorld Unit} :
    (startRequests service migrationManifest world requests).threads[i]? = some p ↔
      ∃ request, requests[i]? = some request ∧ request.program service migrationManifest = p := by
  rw [startRequests, List.getElem?_map, Option.map_eq_some_iff]

theorem exists_served_alone {request : SuiteRequest} : ∃ n,
    servedState service migrationManifest world [request] (List.replicate n 0) =
      ((request.program service migrationManifest).run world).2 := by
  have hthread : (startRequests service migrationManifest world [request]).threads[0]? =
      some (request.program service migrationManifest) := rfl
  obtain ⟨n, hrun⟩ := Pool.exists_run_alone hthread
  exact ⟨n, congrArg Pool.shared hrun⟩

theorem allDo_startRequests (h : ByTenant world.knowledgeBase) :
    Pool.AllDo (fun world => ByTenant world.knowledgeBase)
      (fun i world world' => ∃ request, requests[i]? = some request ∧
        request.Guarantee world world')
      (fun _ _ => True) (startRequests service migrationManifest world requests) where
  shared := h
  threads i p hp := by
    obtain ⟨request, hrequest, rfl⟩ := thread_startRequests.mp hp
    exact (does_program request).mono (fun _ h => h)
      (fun _ _ _ hguarantee => ⟨request, hrequest, hguarantee⟩) fun _ h => h

theorem byTenant_of_requests (i : Nat) (world world' : SuiteWorld)
    (hworld : ByTenant world.knowledgeBase)
    (h : ∃ request, requests[i]? = some request ∧ request.Guarantee world world') :
    ByTenant world'.knowledgeBase := by
  obtain ⟨request, -, hguarantee⟩ := h
  exact byTenant_of_guarantee hguarantee hworld

/-- **Who changes what.** A turn that changes articles or evidence of a tenant is one of a request
to the knowledge base by an administrator of that tenant, and the request has passed the gate: in an
earlier state the status of the tenant's module was one that allows compliance access. -/
theorem changed_by_admitted (hstart : ByTenant world.knowledgeBase) {before : List Nat} {i : Nat}
    {tenantId : String}
    (hchange : (servedState service migrationManifest world requests (before ++ [i])).content
        tenantId ≠
      (servedState service migrationManifest world requests before).content tenantId) :
    ∃ call policies, requests[i]? = some (.knowledgeBase call policies) ∧
      call.user.tenantId = tenantId ∧
      (∃ policy, requireTenantAdmin call.user policies = .ok policy) ∧
      ∃ earlier, earlier ++ [i] <+: before ∧ ∃ status ∈ complianceAccessStatuses,
        (servedState service migrationManifest world requests earlier).registry.status?
          (tenantId, knowledgeBaseModuleId) = some status := by
  have hreached := (@allDo_startRequests service migrationManifest world requests hstart).always
    byTenant_of_requests before before (List.prefix_refl before)
  have hturn : ∃ request, requests[i]? = some request ∧ request.Guarantee
      (servedState service migrationManifest world requests before)
      (servedState service migrationManifest world requests (before ++ [i])) := by
    rw [servedState, servedState, Runs.run_append, Runs.run_cons, Runs.run_nil]
    rcases hreached.turn i with hsame | hguarantee
    · rw [servedState, servedState, Runs.run_append, Runs.run_cons, Runs.run_nil, hsame] at hchange
      exact absurd rfl hchange
    · exact hguarantee
  obtain ⟨request, hrequest, hguarantee⟩ := hturn
  cases request with
  | moduleAdmin request => exact absurd (content_of_moduleAdmin hguarantee tenantId) hchange
  | knowledgeBase call policies =>
    have htenant : call.user.tenantId = tenantId := by
      by_contra hne
      refine hchange (content_of_guarantee hguarantee fun hsame => hne ?_)
      exact Option.some.inj hsame
    have hthread : (startRequests service migrationManifest world requests).threads[i]? =
        some ((SuiteRequest.knowledgeBase call policies).program service migrationManifest) :=
      thread_startRequests.mpr ⟨_, hrequest, rfl⟩
    have hshared : (Runs.run Pool.step (startRequests service migrationManifest world requests)
        (before ++ [i])).shared ≠
          (Runs.run Pool.step (startRequests service migrationManifest world requests)
            before).shared := fun hsame => hchange (by rw [servedState, hsame])
    cases hadmin : requireTenantAdmin call.user policies with
    | error error =>
      -- a user who is no administrator is sent away before any call
      have hended : (startRequests service migrationManifest world requests).threads[i]? =
          some (.done (.error error)) := by
        rw [hthread]
        show some (Prog.lift (requireTenantAdmin call.user policies) >>= _) = _
        rw [hadmin]
        rfl
      rw [Runs.run_append, Runs.run_cons, Runs.run_nil,
        Pool.step_of_done (Pool.threads_run_of_done hended before)] at hshared
      exact absurd rfl hshared
    | ok policy =>
      have hgated : (startRequests service migrationManifest world requests).threads[i]? =
          some (Prog.read (fun world : SuiteWorld =>
              requireModuleApiGate knowledgeBaseModuleId none true call.user.tenantId
                world.registry) >>= fun _ =>
            SuiteWorld.onKnowledgeBase (call.program service)) := by
        rw [hthread]
        show some (Prog.lift (requireTenantAdmin call.user policies) >>= _) = _
        rw [hadmin]
        rfl
      obtain ⟨earlier, decision, hwithin, hgate⟩ := Pool.read_before_change hgated hshared
      obtain ⟨status, hstatus, hmodule⟩ := status_of_gate hgate
      rw [htenant] at hmodule
      exact ⟨call, policies, hrequest, htenant, ⟨policy, hadmin⟩, earlier, hwithin, status,
        hstatus, hmodule⟩

/-! ## After the decommissioning -/

/-- What a call keeps of the tenant, once the module is decommissioned. -/
structure KeepsTenant (tenantId : String) (world world' : SuiteWorld) : Prop where
  byTenant : ByTenant world'.knowledgeBase
  content  : world'.content tenantId = world.content tenantId
  module   : world'.registry.tenantModules.get? (tenantId, knowledgeBaseModuleId) =
               world.registry.tenantModules.get? (tenantId, knowledgeBaseModuleId)

/-- The tenant's module is this one; evidence is kept under its own tenant. -/
structure HasModule (tenantId : String) (tenantModule : TenantModule) (world : SuiteWorld) :
    Prop where
  byTenant : ByTenant world.knowledgeBase
  found    : world.registry.tenantModules.get? (tenantId, knowledgeBaseModuleId) = some tenantModule

theorem KeepsTenant.refl {tenantId : String} {world : SuiteWorld}
    (h : ByTenant world.knowledgeBase) : KeepsTenant tenantId world world := ⟨h, rfl, rfl⟩

theorem keepsTenant_of_guarantee {request : SuiteRequest} {world world' : SuiteWorld}
    {tenantId : String} (hworld : ByTenant world.knowledgeBase)
    (h : request.Guarantee world world') (hother : request.tenantId? ≠ some tenantId) :
    KeepsTenant tenantId world world' where
  byTenant := byTenant_of_guarantee h hworld
  content := content_of_guarantee h hother
  module := by
    cases request with
    | knowledgeBase call policies => rw [h.2]
    | moduleAdmin request => exact h.2 _ hother

/-- No operation of the registry is on a decommissioned module. -/
theorem key_of_perform {tenantId : String} {tenantModule stored : TenantModule}
    {registry registry' : ModuleRegistry} {event : LifecycleEvent}
    (hfound : registry.tenantModules.get? (tenantId, knowledgeBaseModuleId) = some tenantModule)
    (hstatus : tenantModule.state.status = .decommissioned)
    (h : ModuleRegistry.perform event registry = (.ok stored, registry')) :
    (tenantId, knowledgeBaseModuleId) ≠ stored.key := by
  obtain ⟨hwrites, -⟩ := ModuleRegistry.perform_eq_ok.mp h
  have hkey : stored.key = event.call.key := hwrites.key_eq
  intro hsame
  have haccepts := hwrites.accepts.1
  rw [← hkey, ← hsame, ModuleRegistry.status?, hfound, Option.map_some, hstatus] at haccepts
  exact event.operation.not_accepts_decommissioned haccepts

/-- **A request that has not begun** changes nothing of the tenant. -/
theorem does_decommissioned {tenantId : String} {tenantModule : TenantModule}
    (hstatus : tenantModule.state.status = .decommissioned) (request : SuiteRequest) :
    (request.program service migrationManifest).Does (HasModule tenantId tenantModule)
      (KeepsTenant tenantId) fun _ => True := by
  cases request with
  | knowledgeBase call policies =>
    by_cases htenant : call.user.tenantId = tenantId
    · -- the gate refuses
      refine Prog.Does.bind (Q := fun _ => True) (Prog.does_lift fun _ _ => trivial) fun _ _ => ?_
      refine Prog.Does.bind (Q := fun _ => False)
        (Prog.does_read (fun world hworld => .refl hworld.byTenant)
          fun world hworld decision hgate => ?_) fun _ hnever => hnever.elim
      obtain ⟨status, hallowed, hmodule⟩ := status_of_gate hgate
      rw [htenant, ModuleRegistry.status?, hworld.found, Option.map_some, hstatus] at hmodule
      cases hmodule
      revert hallowed
      decide
    · refine (does_program (.knowledgeBase call policies)).mono (fun _ h => h.byTenant) ?_
        fun _ h => h
      intro world world' hworld hguarantee
      exact keepsTenant_of_guarantee hworld.byTenant hguarantee
        fun hsame => htenant (Option.some.inj hsame)
  | moduleAdmin request =>
    show (request.program service.hashes migrationManifest).Does _ _ _
    unfold ModuleAdminRequest.program
    split
    · exact Prog.does_lift fun _ _ => trivial
    · exact Prog.does_lift fun _ _ => trivial
    refine Prog.Does.bind (Q := fun _ => True) ?_ fun event _ => ?_
    · refine ((keeps_recordAudit _ _).within fun _ _ => rfl).mono (fun _ _ => trivial) ?_
        fun _ h => h
      rintro world world' hworld ⟨hkept, hsame⟩
      obtain ⟨hledger, -, -, harticles⟩ := stores_eq_iff.mp hkept
      refine { byTenant := hworld.byTenant.grows (.inl hledger), content := ?_, module := ?_ }
      · rw [SuiteWorld.content, hledger, harticles]
        rfl
      · rw [hsame]
    -- the operation is on another module
    refine Prog.Does.bind
      (Q := fun stored => (tenantId, knowledgeBaseModuleId) ≠ stored.key) ?_
      fun stored hkey => Prog.Does.bind (Q := fun _ => True) ?_ fun _ _ => Prog.does_pure trivial
    · refine (Prog.Does.within (fun _ _ => rfl)
        (I := fun registry => registry.tenantModules.get? (tenantId, knowledgeBaseModuleId) =
          some tenantModule) (G := fun registry registry' => registry' = registry)
        (Prog.does_read (fun _ _ => rfl) fun registry hfound stored hperform =>
          key_of_perform hfound hstatus (Prod.ext hperform rfl))).mono
        (fun _ h => h.found) ?_ fun _ h => h
      rintro world world' hworld ⟨hkept, hsame⟩
      rw [hsame]
      exact ⟨hworld.byTenant, rfl, by rw [hkept]⟩
    · refine (Prog.Does.within (fun _ _ => rfl) (I := fun _ => True)
        (G := fun registry registry' => registry'.tenantModules.get?
          (tenantId, knowledgeBaseModuleId) =
            registry.tenantModules.get? (tenantId, knowledgeBaseModuleId))
        (Prog.does_atomic fun registry _ =>
          ⟨get?_upsert stored registry hkey, fun _ _ => trivial⟩)).mono
        (fun _ _ => trivial) ?_ fun _ h => h
      rintro world world' hworld ⟨hkept, hsame⟩
      rw [hsame]
      exact ⟨hworld.byTenant, rfl, hkept⟩

/-- **After the decommissioning.** If in some state the tenant's module is decommissioned, and the
tenant's requests that have begun have ended, then in every later state the tenant's articles and
evidence are those of this state and the module is still decommissioned. -/
theorem decommissioned_content (hstart : ByTenant world.knowledgeBase) {before : List Nat}
    {tenantId : String}
    (hmodule : (servedState service migrationManifest world requests before).registry.status?
      (tenantId, knowledgeBaseModuleId) = some .decommissioned)
    (hended : ∀ i request, requests[i]? = some request → request.tenantId? = some tenantId →
      i ∈ before → ∃ result, (Runs.run Pool.step
        (startRequests service migrationManifest world requests) before).threads[i]? =
          some (.done result)) (later : List Nat) :
    (servedState service migrationManifest world requests (before ++ later)).content tenantId =
        (servedState service migrationManifest world requests before).content tenantId ∧
      (servedState service migrationManifest world requests (before ++ later)).registry.status?
        (tenantId, knowledgeBaseModuleId) = some .decommissioned := by
  obtain ⟨tenantModule, hfound, hstatus⟩ := Option.map_eq_some_iff.mp hmodule
  have hall := @allDo_startRequests service migrationManifest world requests hstart
  have hreached := hall.always byTenant_of_requests before before (List.prefix_refl before)
  have hkeeps : ∀ (_ : Nat) (s s' : SuiteWorld), HasModule tenantId tenantModule s →
      KeepsTenant tenantId s s' → HasModule tenantId tenantModule s' :=
    fun _ s s' hs h => ⟨h.byTenant, h.module.trans hs.found⟩
  have hrest : Pool.AllDo (HasModule tenantId tenantModule) (fun _ => KeepsTenant tenantId)
      (fun _ _ => True) (Runs.run Pool.step (startRequests service migrationManifest world requests)
        before) := by
    refine hall.stronger byTenant_of_requests ⟨hreached.shared, hfound⟩ (fun _ h => h.byTenant) ?_
    -- a request has yet to begin, or has ended, or is another tenant's
    intro i p hp
    obtain ⟨request, hrequest, rfl⟩ := thread_startRequests.mp hp
    by_cases hidle : i ∉ before
    · exact .inl ⟨hidle, does_decommissioned hstatus request⟩
    rw [not_not] at hidle
    by_cases htenant : request.tenantId? = some tenantId
    · exact .inr (.inl (hended i request hrequest htenant hidle))
    · refine .inr (.inr ?_)
      rintro s s' hs ⟨other, hother, hguarantee⟩
      obtain rfl := Option.some.inj (hrequest.symm.trans hother)
      exact keepsTenant_of_guarantee hs.byTenant hguarantee htenant
  have hlater := hrest.extends
    (K := fun world world' : SuiteWorld => world'.content tenantId = world.content tenantId ∧
      world'.registry.tenantModules.get? (tenantId, knowledgeBaseModuleId) =
        world.registry.tenantModules.get? (tenantId, knowledgeBaseModuleId))
    (fun _ => ⟨rfl, rfl⟩) (fun _ _ _ hfirst hthen =>
      ⟨hthen.1.trans hfirst.1, hthen.2.trans hfirst.2⟩)
    (fun _ _ _ _ hturn => ⟨hturn.content, hturn.module⟩) hkeeps later
  rw [servedState, Runs.run_append]
  refine ⟨hlater.1, ?_⟩
  rw [ModuleRegistry.status?, hlater.2]
  exact hmodule

end

namespace HandbookEdit

/-- An administrator of the handbook's tenant. -/
def administrator : UserContext := { alice with roleIds := ["tenant-admin"] }

def acmePolicies : TenantPolicyRepository where
  policies := ⟨[("acme", {
    tenantId := "acme"
    settings := fun
      | .allowedModelIds => some []
      | .aiEnabled | .ragEnabled | .voiceEnabled | .externalAiEnabled
      | .rawAudioStorageAllowed => some false })], List.nodup_singleton _⟩
  keyed := by
    intro tenantId policy h
    obtain ⟨rfl, rfl⟩ := Prod.mk.inj (List.mem_singleton.mp (Dict.mem_items.mpr h))
    rfl

/-- The dry run, as the administrator's request. -/
def dryRunRequest : SuiteRequest :=
  .knowledgeBase (.write (.dryRun dryRunCommand administrator ⟨"event-1", firstEvent_notBlank⟩))
    acmePolicies

/-- The tenant's module, with all that a status may ask for. -/
def acmeModule (status : ModuleStatus) : TenantModuleState where
  tenantId := "acme"
  moduleId := knowledgeBaseModuleId
  status := status
  policySnapshotHash := "sha256:demo-module-policy"
  changedBy := "system"
  auditChainRef := "audit:module-seed"
  decommissionEvidenceRefs :=
    ModuleRegistry.evidenceRefs allowedDecommissionEvidenceKeys (by decide)
  enabledAtUtc := some ModuleRegistry.seedTime
  disabledAtUtc := some ModuleRegistry.seedTime
  decommissionRequestedAtUtc := some ModuleRegistry.seedTime
  decommissionBlockedAtUtc := some ModuleRegistry.seedTime
  decommissionedAtUtc := some ModuleRegistry.seedTime
  createdAtUtc := ModuleRegistry.seedTime
  updatedAtUtc := ModuleRegistry.seedTime

theorem acmeModule_valid (status : ModuleStatus) : (acmeModule status).Valid := by
  have hrefs := @ModuleRegistry.evidenceRefs_complete allowedDecommissionEvidenceKeys (by decide)
    fun _ h => h
  have hall : ∀ required : List String, required ⊆ allowedDecommissionEvidenceKeys →
      (acmeModule status).HasEvidence required :=
    fun required hknown key hkey => hrefs.complete key (hknown hkey)
  refine {
    tenant := by
      show Text.strip "acme" ≠ ""
      decide +kernel
    namedModule := knowledgeBase_named
    policy := seedTexts_checked.2.2.2.1.1
    changedBy := seedTexts_checked.2.2.1.2
    audit := seedTexts_checked.2.2.2.1.2
    evidence := by simp [acmeModule]
    features := fun _ hfeature => absurd hfeature List.not_mem_nil
    versions := by simp [acmeModule]
    owners := by simp [acmeModule]
    refs := hrefs.valid
    status := ?_ }
  have hnone : ¬ (acmeModule status).AnyFeature := List.not_mem_nil
  constructor
  case requestedEvidence | blockedEvidence | finalEvidence | cancelledEvidence | reopenedEvidence =>
    exact fun _ => hall _ (by decide)
  case requestedFeatures | blockedFeatures | finalFeatures => exact fun _ => hnone
  all_goals simp [acmeModule]

/-- The handbook's world, with the module in this status. -/
def suiteWorld (status : ModuleStatus) : SuiteWorld where
  registry := ModuleRegistry.insert
    (ModuleRegistry.addEntry ∅ knowledgeBaseCatalog rfl)
    ⟨acmeModule status, TenantModuleState.validate_eq_ok.mpr (acmeModule_valid status)⟩
    ⟨knowledgeBaseCatalog, rfl, by decide⟩
  knowledgeBase := start

theorem suiteWorld_knowledgeBase (status : ModuleStatus) :
    (suiteWorld status).knowledgeBase = start := rfl

theorem suiteWorld_byTenant (status : ModuleStatus) :
    ByTenant (suiteWorld status).knowledgeBase := by
  intro tenantId evidenceHash evidence hget
  have hnone : (suiteWorld status).knowledgeBase.ledger.get? (tenantId, evidenceHash) = none := rfl
  rw [hnone] at hget
  cases hget

/-- The dry run alone leaves evidence in the ledger. -/
theorem dryRun_adds_evidence : ∃ n,
    (servedState service [] (suiteWorld .enabled) [dryRunRequest] (List.replicate n 0)).content
        "acme" ≠
      (suiteWorld .enabled).content "acme" := by
  obtain ⟨auditEvents, hleft⟩ := dryRun_leaves
  obtain ⟨n, hserved⟩ := @exists_served_alone service [] (suiteWorld .enabled) dryRunRequest
  have hadmitted : (dryRunRequest.program service []).run (suiteWorld .enabled) =
      (SuiteWorld.onKnowledgeBase (dryRunCall >>= fun _ => pure ())).run (suiteWorld .enabled) :=
    run_of_admitted rfl rfl
  have hworld : (servedState service [] (suiteWorld .enabled) [dryRunRequest]
      (List.replicate n 0)).knowledgeBase =
        { start with ledger := Dict.set ∅ ("acme", codeHash 3) dryRun, auditEvents } := by
    rw [hserved, hadmitted, SuiteWorld.knowledgeBase_run, Prog.run_bind_pure]
    exact hleft
  refine ⟨n, fun hsame => ?_⟩
  generalize servedState service [] (suiteWorld .enabled) [dryRunRequest] (List.replicate n 0) =
    served at hworld hsame
  have hfound := congrFun (congrArg Prod.snd hsame) (codeHash 3)
  rw [SuiteWorld.content_snd, SuiteWorld.content_snd, hworld, suiteWorld_knowledgeBase,
    Dict.get?_set, if_pos rfl, show start.ledger = ∅ from rfl, Dict.get?_empty] at hfound
  cases hfound

theorem dryRun_admitted : ∃ before i,
    (∃ call policies, [dryRunRequest][i]? = some (.knowledgeBase call policies) ∧
      call.user.tenantId = "acme" ∧
      (∃ policy, requireTenantAdmin call.user policies = .ok policy) ∧
      ∃ earlier, earlier ++ [i] <+: before ∧ ∃ status ∈ complianceAccessStatuses,
        (servedState service [] (suiteWorld .enabled) [dryRunRequest] earlier).registry.status?
          ("acme", knowledgeBaseModuleId) = some status) := by
  obtain ⟨n, hchanged⟩ := dryRun_adds_evidence
  obtain ⟨before, i, -, hbefore, hafter⟩ := Runs.exists_step_to
    (fun pool : Pool ApiError SuiteWorld Unit => pool.shared.content "acme")
    _ (Eq.refl ((servedState service [] (suiteWorld .enabled) [dryRunRequest]
      (List.replicate n 0)).content "acme")) (Ne.symm hchanged)
  refine ⟨before, i, changed_by_admitted (suiteWorld_byTenant .enabled) fun hsame => hbefore ?_⟩
  exact hsame.symm.trans hafter

theorem dryRun_after_decommissioning :
    (servedState service [] (suiteWorld .decommissioned) [dryRunRequest] ([] ++ [0, 0])).content
        "acme" =
      (servedState service [] (suiteWorld .decommissioned) [dryRunRequest] []).content "acme" ∧
      (servedState service [] (suiteWorld .decommissioned) [dryRunRequest]
        ([] ++ [0, 0])).registry.status? ("acme", knowledgeBaseModuleId) = some .decommissioned :=
  decommissioned_content (suiteWorld_byTenant .decommissioned) rfl
    (fun _ _ _ _ hbegun => absurd hbegun List.not_mem_nil) [0, 0]

end HandbookEdit

end Collabio
