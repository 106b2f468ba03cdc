import Mathlib.Tactic
import Collabio.ControlPlane.Policy
import Collabio.Library.Runs

/-!
# The tenant's AI settings

An administrator patches the AI settings of a tenant: the request context reads
the whole policy, the handler overlays the fields of the patch on what was read
and writes the whole policy back. Two requests of one tenant take their turns in
any order.

* `TenantAiPolicy.modelCopy`       — the overlay;
* `updateTenantAiSettings`         — the handler;
* `updateTenantAiSettings_eq_ok`   — what a request that returns has done;
* `AiSettingsWorld.step`           — one turn of one of the two requests.
-/

namespace Collabio

/-! ## The policy and its updates -/

/-- The fields of `TenantAiPolicyUpdate`. -/
inductive AiPolicyField where
  | aiEnabled | ragEnabled | voiceEnabled | externalAiEnabled | rawAudioStorageAllowed
  | allowedModelIds
  deriving DecidableEq, Repr

namespace AiPolicyField

def all : List AiPolicyField :=
  [.aiEnabled, .ragEnabled, .voiceEnabled, .externalAiEnabled, .rawAudioStorageAllowed,
    .allowedModelIds]

theorem mem_all (field : AiPolicyField) : field ∈ all := by
  cases field <;> decide

/-- What a field holds; `none` is null, which `model_copy` lets through unvalidated. -/
abbrev Value : AiPolicyField → Type
  | .allowedModelIds => Option (List String)
  | _ => Option Bool

end AiPolicyField

/-- A stored policy: the fields an administrator may patch, and the others. -/
@[ext]
structure TenantAiPolicy where
  tenantId                 : String
  settings                 : (field : AiPolicyField) → field.Value
  allowedDataClasses       : List DataClass := []
  humanApprovalRequiredFor : List RiskLevel := [.high, .critical]

/-- A patch; `none` is a field the request does not set. -/
structure TenantAiPolicyUpdate where
  changes : (field : AiPolicyField) → Option field.Value

namespace TenantAiPolicyUpdate

/-- The keys of `update.model_dump(exclude_unset=True)`. -/
def fieldsSet (update : TenantAiPolicyUpdate) : List AiPolicyField :=
  AiPolicyField.all.filter fun field => (update.changes field).isSome

/-- No field is set by both. -/
def DisjointFields (update other : TenantAiPolicyUpdate) : Prop :=
  ∀ field ∈ update.fieldsSet, field ∉ other.fieldsSet

/-- `update.allowed_model_ids`, whose default is null. -/
def allowedModelIds (update : TenantAiPolicyUpdate) : Option (List String) :=
  (update.changes .allowedModelIds).getD none

theorem mem_fieldsSet {update : TenantAiPolicyUpdate} {field : AiPolicyField} :
    field ∈ update.fieldsSet ↔ (update.changes field).isSome := by
  simp [fieldsSet, AiPolicyField.mem_all]

theorem DisjointFields.changes {update other : TenantAiPolicyUpdate}
    (h : update.DisjointFields other) (field : AiPolicyField) :
    update.changes field = none ∨ other.changes field = none := by
  by_cases hset : field ∈ update.fieldsSet
  · have hother := h field hset
    rw [mem_fieldsSet, Option.not_isSome_iff_eq_none] at hother
    exact .inr hother
  · rw [mem_fieldsSet, Option.not_isSome_iff_eq_none] at hset
    exact .inl hset

theorem DisjointFields.symm {update other : TenantAiPolicyUpdate}
    (h : update.DisjointFields other) : other.DisjointFields update :=
  fun field hother hset => h field hset hother

end TenantAiPolicyUpdate

namespace TenantAiPolicy

/-- `policy.model_copy(update=update_fields)`. -/
def modelCopy (policy : TenantAiPolicy) (update : TenantAiPolicyUpdate) : TenantAiPolicy :=
  { policy with settings := fun field => (update.changes field).getD (policy.settings field) }

@[simp] theorem tenantId_modelCopy (policy : TenantAiPolicy) (update : TenantAiPolicyUpdate) :
    (policy.modelCopy update).tenantId = policy.tenantId := rfl

theorem modelCopy_of_fieldsSet_eq_nil {update : TenantAiPolicyUpdate} (h : update.fieldsSet = [])
    (policy : TenantAiPolicy) : policy.modelCopy update = policy := by
  have hnone : ∀ field, update.changes field = none := by
    intro field
    have hfield : field ∉ update.fieldsSet := by simp [h]
    rwa [TenantAiPolicyUpdate.mem_fieldsSet, Option.not_isSome_iff_eq_none] at hfield
  simp [modelCopy, hnone]

/-- Updates of disjoint fields commute. -/
theorem modelCopy_comm {update other : TenantAiPolicyUpdate} (h : update.DisjointFields other)
    (policy : TenantAiPolicy) :
    (policy.modelCopy update).modelCopy other = (policy.modelCopy other).modelCopy update := by
  ext1 <;> try rfl
  funext field
  rcases h.changes field with hnone | hnone
  · simp [modelCopy, hnone]
  · simp [modelCopy, hnone]

/-- An update overlaid on the older policy loses a disjoint one exactly if that
one changed something. -/
theorem modelCopy_eq_iff {update other : TenantAiPolicyUpdate} (h : update.DisjointFields other)
    (policy : TenantAiPolicy) :
    policy.modelCopy update = (policy.modelCopy other).modelCopy update ↔
      policy = policy.modelCopy other := by
  constructor
  · intro hsame
    ext1 <;> try rfl
    funext field
    rcases h.changes field with hnone | hnone
    · have hfield := congrFun (congrArg settings hsame) field
      simpa [modelCopy, hnone] using hfield
    · simp [modelCopy, hnone]
  · intro hsame
    rw [← hsame]

/-- The policy carries both updates: the new value of each field that one of
them sets, and the previous value of all other fields. -/
structure Carries (previous : TenantAiPolicy) (first second : TenantAiPolicyUpdate)
    (stored : TenantAiPolicy) : Prop where
  tenantId                 : stored.tenantId = previous.tenantId
  allowedDataClasses       : stored.allowedDataClasses = previous.allowedDataClasses
  humanApprovalRequiredFor : stored.humanApprovalRequiredFor = previous.humanApprovalRequiredFor
  ofFirst  : ∀ field value, first.changes field = some value → stored.settings field = value
  ofSecond : ∀ field value, second.changes field = some value → stored.settings field = value
  others : ∀ field, first.changes field = none → second.changes field = none →
    stored.settings field = previous.settings field

theorem carries_iff {first second : TenantAiPolicyUpdate} (h : first.DisjointFields second)
    {previous stored : TenantAiPolicy} :
    Carries previous first second stored ↔
      stored = (previous.modelCopy first).modelCopy second := by
  constructor
  · intro hcarries
    ext1
    · exact hcarries.tenantId
    · funext field
      rcases hfirst : first.changes field with _ | value
      · rcases hsecond : second.changes field with _ | value
        · simpa [modelCopy, hfirst, hsecond] using hcarries.others field hfirst hsecond
        · simpa [modelCopy, hsecond] using hcarries.ofSecond field value hsecond
      · -- a field of the first patch is none of the second
        have hsecond : second.changes field = none :=
          (h.changes field).resolve_left (by simp [hfirst])
        simpa [modelCopy, hfirst, hsecond] using hcarries.ofFirst field value hfirst
    · exact hcarries.allowedDataClasses
    · exact hcarries.humanApprovalRequiredFor
  · rintro rfl
    refine ⟨rfl, rfl, rfl, ?_, ?_, ?_⟩
    · intro field value hfirst
      have hsecond : second.changes field = none :=
        (h.changes field).resolve_left (by simp [hfirst])
      simp [modelCopy, hfirst, hsecond]
    · intro field value hsecond
      simp [modelCopy, hsecond]
    · intro field hfirst hsecond
      simp [modelCopy, hfirst, hsecond]

end TenantAiPolicy

/-! ## The repository and the handler -/

/-- `InMemoryTenantPolicyRepository`: each policy stands under its own tenant. -/
structure TenantPolicyRepository where
  policies : Dict String TenantAiPolicy
  keyed    : ∀ tenantId policy, policies.get? tenantId = some policy → policy.tenantId = tenantId

/-- How a request of the API fails. -/
inductive ApiError where
  | httpException (statusCode : Nat) (detail : String)
  | raised (exn : Exn)
  deriving DecidableEq, Repr

namespace TenantPolicyRepository

def get (repository : TenantPolicyRepository) (tenantId : String) : Except Exn TenantAiPolicy :=
  registryGet repository.policies "tenant policy" tenantId

def setPolicy (repository : TenantPolicyRepository) (policy : TenantAiPolicy) :
    TenantPolicyRepository where
  policies := repository.policies.set policy.tenantId policy
  keyed := by
    intro tenantId stored h
    rw [Dict.get?_set] at h
    split at h
    · cases h
      exact Eq.symm ‹_›
    · exact repository.keyed tenantId stored h

/-- `repository.update(policy)`. -/
def update (policy : TenantAiPolicy) : Eff Exn TenantPolicyRepository TenantAiPolicy :=
  fun repository =>
    match repository.get policy.tenantId with
    | .error exn => (.error exn, repository)
    | .ok _ => (.ok policy, repository.setPolicy policy)

theorem get_eq_ok {repository : TenantPolicyRepository} {tenantId : String}
    {policy : TenantAiPolicy} :
    repository.get tenantId = .ok policy ↔ repository.policies.get? tenantId = some policy := by
  rw [get, registryGet]
  cases repository.policies.get? tenantId <;> simp

@[simp] theorem get?_setPolicy (repository : TenantPolicyRepository) (policy : TenantAiPolicy) :
    (repository.setPolicy policy).policies.get? policy.tenantId = some policy :=
  repository.policies.get?_set_self policy.tenantId policy

end TenantPolicyRepository

/-- The roles of `ADMIN_ROLE_IDS`. -/
def adminRoleIds : List String := ["tenant-admin", "security-admin"]

/-- `get_tenant_request_context` and `require_tenant_admin` of an authenticated
user: the policy that the handler will work on. -/
def requireTenantAdmin (user : UserContext) (repository : TenantPolicyRepository) :
    Except ApiError TenantAiPolicy :=
  match repository.get user.tenantId with
  | .error _ => .error (.httpException 403 "Tenant policy is not available")
  | .ok policy =>
    if user.roleIds.any (· ∈ adminRoleIds) then .ok policy
    else .error (.httpException 403 "Tenant admin role required")

/-- Every requested model is registered. -/
def requireKnownModels (modelRegistry : Dict String ModelConfig) (update : TenantAiPolicyUpdate) :
    Except ApiError Unit :=
  match update.allowedModelIds with
  | none => .ok ()
  | some requestedModelIds => requestedModelIds.forM fun modelId =>
    match registryGet modelRegistry "model" modelId with
    | .ok _ => .ok ()
    | .error _ => .error (.httpException 400 ("Unknown model: " ++ modelId))

/-- The audit event counts the allowed models, which fails on null; `record` is
what the audit logger then does. -/
def auditAiSettings (policy : TenantAiPolicy) (record : Except Exn Unit) : Except ApiError Unit :=
  match policy.settings .allowedModelIds, record with
  | none, _ => .error (.raised (.typeError "object of type 'NoneType' has no len()"))
  | some _, .error exn => .error (.raised exn)
  | some _, .ok _ => .ok ()

/-- The handler's write: an unknown tenant is reported as 403. -/
def persistPolicy (policy : TenantAiPolicy) :
    Eff ApiError TenantPolicyRepository TenantAiPolicy :=
  fun repository =>
    match TenantPolicyRepository.update policy repository with
    | (.ok persisted, repository') => (.ok persisted, repository')
    | (.error _, repository') =>
      (.error (.httpException 403 "Tenant policy is not available"), repository')

theorem persistPolicy_eq_ok {policy persisted : TenantAiPolicy}
    {repository repository' : TenantPolicyRepository}
    (h : persistPolicy policy repository = (.ok persisted, repository')) :
    persisted = policy ∧ repository' = repository.setPolicy policy := by
  rw [persistPolicy, TenantPolicyRepository.update] at h
  cases hget : repository.get policy.tenantId with
  | error exn => simp [hget] at h
  | ok found =>
    simp only [hget, Prod.mk.injEq, Except.ok.injEq] at h
    exact ⟨h.1.symm, h.2.symm⟩

/-- `PATCH /v1/admin/tenant-policy/ai-settings`, after the context was built. -/
def updateTenantAiSettings (modelRegistry : Dict String ModelConfig)
    (update : TenantAiPolicyUpdate) (contextPolicy : TenantAiPolicy) (record : Except Exn Unit) :
    Eff ApiError TenantPolicyRepository TenantAiPolicy :=
  if update.fieldsSet = [] then pure contextPolicy
  else do
    Eff.lift (requireKnownModels modelRegistry update)
    let persisted ← persistPolicy (contextPolicy.modelCopy update)
    Eff.lift (auditAiSettings persisted record)
    pure persisted

/-- What a request that returns has done. -/
theorem updateTenantAiSettings_eq_ok {modelRegistry : Dict String ModelConfig}
    {update : TenantAiPolicyUpdate} {contextPolicy policy : TenantAiPolicy}
    {record : Except Exn Unit} {repository repository' : TenantPolicyRepository}
    (h : updateTenantAiSettings modelRegistry update contextPolicy record repository =
      (.ok policy, repository')) :
    repository' = if update.fieldsSet = [] then repository
      else repository.setPolicy (contextPolicy.modelCopy update) := by
  rw [updateTenantAiSettings] at h
  split at h
  · rename_i hempty
    rw [Eff.pure_apply] at h
    cases h
    rw [if_pos hempty]
  · rename_i hsome
    obtain ⟨_, between, hmodels, h⟩ := Eff.bind_eq_ok.mp h
    obtain ⟨persisted, after, hupdate, h⟩ := Eff.bind_eq_ok.mp h
    obtain ⟨_, last, haudit, h⟩ := Eff.bind_eq_ok.mp h
    have hbefore : repository = between := congrArg Prod.snd hmodels
    have hafter : after = last := congrArg Prod.snd haudit
    have hend : last = repository' := congrArg Prod.snd h
    subst hbefore hafter hend
    rw [if_neg hsome]
    exact (persistPolicy_eq_ok hupdate).2

/-! ## Two requests in turns -/

/-- The two requests. -/
inductive PatchCaller where
  | first | second
  deriving DecidableEq, Repr

def PatchCaller.other : PatchCaller → PatchCaller
  | .first => .second
  | .second => .first

structure PatchRequest where
  user   : UserContext
  update : TenantAiPolicyUpdate

/-- Where a request stands. -/
inductive RequestPhase where
  | waiting
  | admitted (contextPolicy : TenantAiPolicy)
  | returned (response : TenantAiPolicy)
  | failed (error : ApiError)

/-- The registered models and what the two callers ask for. -/
structure AiSettingsCalls where
  modelRegistry : Dict String ModelConfig
  requests      : PatchCaller → PatchRequest

/-- The repository, and where the two requests stand. -/
structure AiSettingsWorld where
  repository : TenantPolicyRepository
  phase      : PatchCaller → RequestPhase

/-- The next turn of a request; `record` is what its audit event meets, if it is recorded. -/
structure AiSettingsTurn where
  caller : PatchCaller
  record : Except Exn Unit

namespace AiSettingsWorld

def setPhase (world : AiSettingsWorld) (caller : PatchCaller) (phase : RequestPhase) :
    AiSettingsWorld :=
  { world with phase := Function.update world.phase caller phase }

/-- A request first reads the policy, with its context, and then runs its handler. -/
def step (calls : AiSettingsCalls) (world : AiSettingsWorld) (turn : AiSettingsTurn) :
    AiSettingsWorld :=
  let request := calls.requests turn.caller
  match world.phase turn.caller with
  | .waiting =>
    match requireTenantAdmin request.user world.repository with
    | .ok contextPolicy => world.setPhase turn.caller (.admitted contextPolicy)
    | .error error => world.setPhase turn.caller (.failed error)
  | .admitted contextPolicy =>
    match updateTenantAiSettings calls.modelRegistry request.update contextPolicy turn.record
        world.repository with
    | (.ok response, repository) =>
      { world with repository }.setPhase turn.caller (.returned response)
    | (.error error, repository) =>
      { world with repository }.setPhase turn.caller (.failed error)
  | .returned _ | .failed _ => world

end AiSettingsWorld

end Collabio
