import Mathlib.Tactic
import Collabio.ControlPlane.Audit
import Collabio.ControlPlane.Policy

/-!
# The gateway to the language models

* `AiWorld`                — the audit log and the calls providers have received;
* `LocalLlmGateway.infer`  — authorize, format the prompt, call the provider, record;
* `infer_calls`            — a provider is called once, after authorization, or not at all.

A provider is any function of model and prompt, and `str.format` any function of
the template and its two arguments.
-/

namespace Collabio

structure ProviderCall where
  modelId : String
  prompt  : String
  deriving DecidableEq, Repr

/-- One audit logger serves the pipeline and its gateway. -/
structure AiWorld where
  auditEvents   : List AuditEvent := []
  providerCalls : List ProviderCall := []

structure LocalLlmGateway where
  hashes         : HashFunctions
  providers      : Dict String (String → String → Except Exn String)
  promptRegistry : Dict String PromptTemplate
  policyEngine   : PolicyEngine
  format         : (template inputText sources : String) → Except Exn String

namespace AiWorld

def record (H : HashFunctions) (call : AuditCall) : Eff Exn AiWorld AuditEvent := fun world =>
  let event := auditEvent H world.auditEvents call
  (.ok event, { world with auditEvents := world.auditEvents ++ [event] })

/-- `provider.complete`. -/
def complete (provider : String → String → Except Exn String) (call : ProviderCall) :
    Eff Exn AiWorld String := fun world =>
  (provider call.modelId call.prompt,
    { world with providerCalls := world.providerCalls ++ [call] })

end AiWorld

namespace LocalLlmGateway

def providerOf (gateway : LocalLlmGateway) (model : ModelConfig) :
    Except Exn (String → String → Except Exn String) :=
  match gateway.providers.get? model.provider with
  | some provider => .ok provider
  | none => .error .keyError

/-- `metadata={"purpose": ..., "risk_level": ...}`. -/
def inferenceMetadata (request : InferenceRequest) : Dict String Json where
  items := [("purpose", .str request.purpose.value), ("risk_level", .str request.riskLevel.value)]
  nodup := by
    show ["purpose", "risk_level"].Nodup
    decide

/-- What is prepared before the provider is called. -/
structure PreparedInference where
  promptTemplate : PromptTemplate
  model          : ModelConfig
  provider       : String → String → Except Exn String
  prompt         : String

/-- `infer` up to the provider call: nothing is changed or recorded. -/
def prepare (gateway : LocalLlmGateway) (request : InferenceRequest) (user : UserContext)
    (policy : TenantPolicy) (sourcesText : String) : Except Exn PreparedInference := do
  let promptTemplate ← registryGet gateway.promptRegistry "prompt template" request.promptTemplateId
  let model ← gateway.policyEngine.authorizeInference request promptTemplate user policy
  let provider ← gateway.providerOf model
  let prompt ← gateway.format promptTemplate.template request.inputText sourcesText
  return ⟨promptTemplate, model, provider, prompt⟩

def infer (gateway : LocalLlmGateway) (request : InferenceRequest) (user : UserContext)
    (policy : TenantPolicy) (sourcesText : String) (eventId : String) :
    Eff Exn AiWorld InferenceResponse := do
  let prepared ← Eff.lift (gateway.prepare request user policy sourcesText)
  let answer ← AiWorld.complete prepared.provider ⟨prepared.model.modelId, prepared.prompt⟩
  let auditEvent ← AiWorld.record gateway.hashes {
    eventId := eventId
    userContext := user
    eventType := "ai.inference"
    modelId := some prepared.model.modelId
    promptTemplateId := some prepared.promptTemplate.promptTemplateId
    sourceObjectIds := request.sourceObjectIds
    inputText := some request.inputText
    outputText := some answer
    metadata := inferenceMetadata request }
  let requiresHumanApproval ← Eff.lift
    (gateway.policyEngine.requiresHumanApproval request policy)
  return {
    answer := answer
    modelId := prepared.model.modelId
    promptTemplateId := prepared.promptTemplate.promptTemplateId
    auditEventId := auditEvent.eventId
    requiresHumanApproval := requiresHumanApproval
    sourceObjectIds := request.sourceObjectIds }

end LocalLlmGateway

namespace AiWorld

/-- Recording always returns, with one more event. -/
theorem record_apply (H : HashFunctions) (call : AuditCall) (world : AiWorld) :
    record H call world = (.ok (auditEvent H world.auditEvents call),
      { world with auditEvents := world.auditEvents ++ [auditEvent H world.auditEvents call] }) :=
  rfl

end AiWorld

namespace LocalLlmGateway

variable {gateway : LocalLlmGateway} {request : InferenceRequest} {user : UserContext}
  {policy : TenantPolicy} {sourcesText eventId : String}

/-- **One call, or none**: `infer` calls a provider exactly if everything could be prepared. -/
theorem infer_calls (world : AiWorld) :
    (gateway.infer request user policy sourcesText eventId world).2.providerCalls =
      match gateway.prepare request user policy sourcesText with
      | .ok prepared => world.providerCalls ++ [⟨prepared.model.modelId, prepared.prompt⟩]
      | .error _ => world.providerCalls := by
  rw [infer, Eff.lift_bind_apply]
  cases gateway.prepare request user policy sourcesText with
  | error exn => rfl
  | ok prepared =>
    dsimp only
    cases hanswer : prepared.provider prepared.model.modelId prepared.prompt with
    | error exn =>
      have hcomplete : AiWorld.complete prepared.provider
          ⟨prepared.model.modelId, prepared.prompt⟩ world =
            (.error exn, { world with providerCalls := world.providerCalls ++
              [⟨prepared.model.modelId, prepared.prompt⟩] }) := by
        rw [AiWorld.complete, hanswer]
      rw [Eff.bind_of_error hcomplete]
    | ok answer =>
      have hcomplete : AiWorld.complete prepared.provider
          ⟨prepared.model.modelId, prepared.prompt⟩ world =
            (.ok answer, { world with providerCalls := world.providerCalls ++
              [⟨prepared.model.modelId, prepared.prompt⟩] }) := by
        rw [AiWorld.complete, hanswer]
      -- recording and the approval check come after the call
      rw [Eff.bind_of_ok hcomplete, Eff.bind_of_ok (AiWorld.record_apply _ _ _), Eff.lift_bind_apply]
      cases gateway.policyEngine.requiresHumanApproval request policy <;> rfl

/-- What a prepared inference has passed. -/
theorem prepare_eq_ok {prepared : PreparedInference}
    (h : gateway.prepare request user policy sourcesText = .ok prepared) :
    gateway.promptRegistry.get? request.promptTemplateId = some prepared.promptTemplate ∧
      gateway.policyEngine.authorizeInference request prepared.promptTemplate user policy =
        .ok prepared.model ∧
      gateway.format prepared.promptTemplate.template request.inputText sourcesText =
        .ok prepared.prompt := by
  unfold prepare at h
  obtain ⟨promptTemplate, htemplate, h⟩ := Except.bind_eq_ok.mp h
  obtain ⟨model, hmodel, h⟩ := Except.bind_eq_ok.mp h
  obtain ⟨provider, -, h⟩ := Except.bind_eq_ok.mp h
  obtain ⟨prompt, hprompt, h⟩ := Except.bind_eq_ok.mp h
  cases h
  exact ⟨PolicyEngine.registryGet_eq_ok.mp htemplate, hmodel, hprompt⟩

end LocalLlmGateway

end Collabio
