import Mathlib.Tactic
import Collabio.Library.Json

/-!
# Shared models of the control plane

A set is a list of which only membership is read. Fields that no modelled code
reads are left out.
-/

namespace Collabio

/-- The data classes of the platform, by their Python names. -/
inductive DataClass where
  | publicData | internal | personal | confidential | gobd | legalHold
  | aiPrompt | aiOutput | ragChunk | embedding | voiceTranscript
  deriving DecidableEq, Repr

namespace DataClass

def all : List DataClass :=
  [.publicData, .internal, .personal, .confidential, .gobd, .legalHold, .aiPrompt, .aiOutput,
    .ragChunk, .embedding, .voiceTranscript]

def value : DataClass → String
  | .publicData => "public"
  | .internal => "internal"
  | .personal => "personal"
  | .confidential => "confidential"
  | .gobd => "gobd"
  | .legalHold => "legal_hold"
  | .aiPrompt => "ai_prompt"
  | .aiOutput => "ai_output"
  | .ragChunk => "rag_chunk"
  | .embedding => "embedding"
  | .voiceTranscript => "voice_transcript"

/-- `DataClass(text)`; `none` is the ValueError. -/
def ofValue? (text : String) : Option DataClass := all.find? fun d => d.value == text

@[simp] theorem ofValue?_value (d : DataClass) : ofValue? d.value = some d := by
  cases d <;> decide

theorem value_of_ofValue? {text : String} {d : DataClass} (h : ofValue? text = some d) :
    d.value = text := by
  have := List.find?_some h
  simpa using this

theorem value_injective : Function.Injective value := by
  intro d e h
  have := ofValue?_value d
  rw [h, ofValue?_value] at this
  simpa using this.symm

end DataClass

/-- Who asks. -/
structure UserContext where
  userId            : String
  tenantId          : String
  roleIds           : List String := []
  readableObjectIds : List String := []
  deriving DecidableEq, Repr

inductive RiskLevel where
  | low | medium | high | critical
  deriving DecidableEq, Repr

def RiskLevel.value : RiskLevel → String
  | .low => "low"
  | .medium => "medium"
  | .high => "high"
  | .critical => "critical"

inductive Purpose where
  | summarization | drafting | classification | rag | voiceCommand
  deriving DecidableEq, Repr

def Purpose.value : Purpose → String
  | .summarization => "summarization"
  | .drafting => "drafting"
  | .classification => "classification"
  | .rag => "rag"
  | .voiceCommand => "voice_command"

structure TenantPolicy where
  tenantId                 : String
  aiEnabled                : Bool := false
  ragEnabled               : Bool := false
  allowedModelIds          : List String := []
  allowedDataClasses       : List DataClass := []
  humanApprovalRequiredFor : List RiskLevel := [.high, .critical]
  deriving DecidableEq, Repr

structure ModelConfig where
  modelId            : String
  provider           : String
  allowedDataClasses : List DataClass
  approvedFor        : List Purpose
  blockedFor         : List Purpose := []
  deriving DecidableEq, Repr

structure PromptTemplate where
  promptTemplateId   : String
  allowedDataClasses : List DataClass
  template           : String
  deriving DecidableEq, Repr

structure ToolPermission where
  toolName              : String
  allowedRoleIds        : List String
  riskLevel             : RiskLevel
  requiresHumanApproval : Bool := false
  deriving DecidableEq, Repr

structure InferenceRequest where
  promptTemplateId : String := "document_summary_v1"
  modelId          : String := "mock-summarizer"
  purpose          : Purpose := .summarization
  inputText        : String
  dataClasses      : List DataClass := [.internal]
  sourceObjectIds  : List String := []
  riskLevel        : RiskLevel := .low
  requestedTool    : Option String := none
  deriving DecidableEq, Repr

structure InferenceResponse where
  answer                : String
  modelId               : String
  promptTemplateId      : String
  auditEventId          : String
  outputTrust           : String := "untrusted"
  requiresHumanApproval : Bool := false
  sourceObjectIds       : List String := []
  deriving DecidableEq, Repr

end Collabio
