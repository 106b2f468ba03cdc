import Mathlib.Tactic
import Collabio.Library.Dict
import Collabio.ControlPlane.Models
import Collabio.Platform.Validation

/-!
# The policy engine

* `PolicyEngine.authorizeInference` — what a request must satisfy, and the model it gets;
* `PolicyEngine.authorizeRag`       — the same for retrieval;
* `authorizeInference_eq_ok`        — the data classes and sources it lets through.
-/

namespace Collabio

structure PolicyEngine where
  modelRegistry          : Dict String ModelConfig
  toolPermissionRegistry : Dict String ToolPermission

/-- `registry.get`, which words its own LookupError. -/
def registryGet {V : Type} (registry : Dict String V) (kind key : String) : Except Exn V :=
  match registry.get? key with
  | some value => .ok value
  | none => .error (.lookupError ("Unknown " ++ kind ++ ": " ++ key))

namespace PolicyEngine

def requireTenantMatch (user : UserContext) (policy : TenantPolicy) : Except Exn Unit :=
  require (user.tenantId = policy.tenantId)
    (.policyViolation "User tenant does not match tenant policy")

def authorizeTool (engine : PolicyEngine) (requestedTool : String) (user : UserContext) :
    Except Exn Unit :=
  match engine.toolPermissionRegistry.get? requestedTool with
  | none => .error (.policyViolation "Requested tool is not registered")
  | some permission =>
    require (∃ roleId ∈ user.roleIds, roleId ∈ permission.allowedRoleIds)
      (.policyViolation "User role cannot use requested tool")

/-- The tool check; an empty name counts as no tool. -/
def authorizeRequestedTool (engine : PolicyEngine) (requestedTool : Option String)
    (user : UserContext) : Except Exn Unit :=
  match requestedTool with
  | none | some "" => .ok ()
  | some tool => engine.authorizeTool tool user

def authorizeInference (engine : PolicyEngine) (request : InferenceRequest)
    (promptTemplate : PromptTemplate) (user : UserContext) (policy : TenantPolicy) :
    Except Exn ModelConfig := do
  requireTenantMatch user policy
  require (policy.aiEnabled = true) (.policyViolation "AI is disabled for this tenant")
  let model ← registryGet engine.modelRegistry "model" request.modelId
  require (model.modelId ∈ policy.allowedModelIds)
    (.policyViolation "Model is not allowed for this tenant")
  require (request.purpose ∉ model.blockedFor)
    (.policyViolation "Model is blocked for this purpose")
  require (request.purpose ∈ model.approvedFor)
    (.policyViolation "Model is not approved for this purpose")
  require (∀ dataClass ∈ request.dataClasses, dataClass ∈ policy.allowedDataClasses)
    (.policyViolation "Tenant policy blocks one or more data classes")
  require (∀ dataClass ∈ request.dataClasses, dataClass ∈ model.allowedDataClasses)
    (.policyViolation "Model blocks one or more data classes")
  require (∀ dataClass ∈ request.dataClasses, dataClass ∈ promptTemplate.allowedDataClasses)
    (.policyViolation "Prompt template blocks one or more data classes")
  require (∀ objectId ∈ request.sourceObjectIds, objectId ∈ user.readableObjectIds)
    (.policyViolation "User cannot read one or more requested sources")
  engine.authorizeRequestedTool request.requestedTool user
  return model

/-- The part of `requires_human_approval` that asks the tool's permission. -/
def toolRequiresApproval (engine : PolicyEngine) (requestedTool : Option String)
    (policy : TenantPolicy) : Except Exn Bool :=
  match requestedTool with
  | none | some "" => .ok false
  | some tool => do
    let permission ← registryGet engine.toolPermissionRegistry "tool permission" tool
    return permission.requiresHumanApproval ||
      decide (permission.riskLevel ∈ policy.humanApprovalRequiredFor)

def requiresHumanApproval (engine : PolicyEngine) (request : InferenceRequest)
    (policy : TenantPolicy) : Except Exn Bool :=
  if request.riskLevel ∈ policy.humanApprovalRequiredFor then .ok true
  else engine.toolRequiresApproval request.requestedTool policy

def authorizeRag (user : UserContext) (policy : TenantPolicy) : Except Exn Unit := do
  requireTenantMatch user policy
  require (policy.aiEnabled = true) (.policyViolation "AI is disabled for this tenant")
  require (policy.ragEnabled = true) (.policyViolation "RAG is disabled for this tenant")

theorem registryGet_eq_ok {V : Type} {registry : Dict String V} {kind key : String} {value : V} :
    registryGet registry kind key = .ok value ↔ registry.get? key = some value := by
  unfold registryGet
  cases registry.get? key <;> simp

/-- What an authorized request satisfies: its model is registered, and its data
classes and sources are allowed by everyone who is asked. -/
theorem authorizeInference_eq_ok {engine : PolicyEngine} {request : InferenceRequest}
    {promptTemplate : PromptTemplate} {user : UserContext} {policy : TenantPolicy}
    {model : ModelConfig}
    (h : engine.authorizeInference request promptTemplate user policy = .ok model) :
    engine.modelRegistry.get? request.modelId = some model ∧
      (∀ dataClass ∈ request.dataClasses, dataClass ∈ policy.allowedDataClasses ∧
        dataClass ∈ model.allowedDataClasses ∧ dataClass ∈ promptTemplate.allowedDataClasses) ∧
      ∀ objectId ∈ request.sourceObjectIds, objectId ∈ user.readableObjectIds := by
  unfold authorizeInference requireTenantMatch at h
  obtain ⟨-, h⟩ := require_bind_eq_ok.mp h
  obtain ⟨-, h⟩ := require_bind_eq_ok.mp h
  obtain ⟨found, hfound, h⟩ := Except.bind_eq_ok.mp h
  obtain ⟨-, h⟩ := require_bind_eq_ok.mp h
  obtain ⟨-, h⟩ := require_bind_eq_ok.mp h
  obtain ⟨-, h⟩ := require_bind_eq_ok.mp h
  obtain ⟨hpolicy, h⟩ := require_bind_eq_ok.mp h
  obtain ⟨hmodel, h⟩ := require_bind_eq_ok.mp h
  obtain ⟨htemplate, h⟩ := require_bind_eq_ok.mp h
  obtain ⟨hreadable, h⟩ := require_bind_eq_ok.mp h
  obtain ⟨-, -, h⟩ := Except.bind_eq_ok.mp h
  cases h
  refine ⟨registryGet_eq_ok.mp hfound, ?_, hreadable⟩
  intro dataClass hclass
  exact ⟨hpolicy dataClass hclass, hmodel dataClass hclass, htemplate dataClass hclass⟩

end PolicyEngine

end Collabio
