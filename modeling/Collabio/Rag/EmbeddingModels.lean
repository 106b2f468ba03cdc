import Mathlib.Tactic
import Collabio.ControlPlane.Models
import Collabio.Library.Dict
import Collabio.Library.Runs
import Collabio.Platform.Validation

/-!
# Embedding model versions and the indexing pipelines

The admin service registers, approves and retires model versions; a pipeline takes its
description of one of them from the registry when it is built, and checks this description
whenever it indexes a source.

* `EmbeddingModelVersion.postInit` — what every version has passed;
* `register`, `approve`, `retire`  — the admin service;
* `SourceIndexingPipeline`         — building one, and its check before it writes;
* `IndexingWorld.step`             — the service and any number of pipelines.
-/

namespace Collabio

/-! ## Model versions -/

structure EmbeddingModelVersion where
  embeddingModelId       : String
  embeddingModelVersion  : String
  provider               : String
  deployment             : String
  dimensions             : Int
  checksum               : String
  approvedForDataClasses : List DataClass
  distanceMetric         : String := "cosine"
  approvedAtUtc          : Option String := none
  retiredAtUtc           : Option String := none
  deriving DecidableEq, Repr

/-- `_require_utc_timestamp`. -/
def requireTimestamp (value : String) : Except Exn Unit := do
  let normalized := Text.strip value
  require (normalized ≠ "") (.valueError (.message "timestamp must not be empty"))
  match parseUtc "timestamp must be UTC" normalized with
  | .ok _ => return ()
  | .error cause => .error (.valueError cause)

namespace EmbeddingModelVersion

/-- The key of the registry. -/
def key (modelVersion : EmbeddingModelVersion) : String × String :=
  (modelVersion.embeddingModelId, modelVersion.embeddingModelVersion)

/-- `__post_init__`, which `replace` runs too. -/
def postInit (modelVersion : EmbeddingModelVersion) : Except Exn EmbeddingModelVersion := do
  [("embedding_model_id", modelVersion.embeddingModelId),
    ("embedding_model_version", modelVersion.embeddingModelVersion),
    ("provider", modelVersion.provider), ("deployment", modelVersion.deployment),
    ("distance_metric", modelVersion.distanceMetric)].forM fun (fieldName, value) =>
      require (Text.strip value ≠ "")
        (.valueError (.message (fieldName ++ " must not be empty")))
  require (1 ≤ modelVersion.dimensions) (.valueError (.message
    "embedding model dimensions must be greater than or equal to 1"))
  require (isNamespacedRef (Text.strip modelVersion.checksum) = true) (.valueError (.message
    "embedding model checksum must be a namespaced reference"))
  require (modelVersion.approvedForDataClasses ≠ []) (.valueError (.message
    "embedding model must declare approved data classes"))
  modelVersion.approvedAtUtc.toList.forM requireTimestamp
  modelVersion.retiredAtUtc.toList.forM requireTimestamp
  return modelVersion

theorem postInit_eq_ok {modelVersion built : EmbeddingModelVersion}
    (h : modelVersion.postInit = .ok built) : built = modelVersion := by
  obtain ⟨_, -, h⟩ := Except.bind_eq_ok.mp h
  obtain ⟨-, h⟩ := require_bind_eq_ok.mp h
  obtain ⟨-, h⟩ := require_bind_eq_ok.mp h
  obtain ⟨-, h⟩ := require_bind_eq_ok.mp h
  obtain ⟨_, -, h⟩ := Except.bind_eq_ok.mp h
  obtain ⟨_, -, h⟩ := Except.bind_eq_ok.mp h
  cases h
  rfl

end EmbeddingModelVersion

/-! ## The registry and the admin service -/

/-- `InMemoryEmbeddingModelVersionRegistry`: each version stands under its own key. -/
structure EmbeddingModelVersionRegistry where
  modelVersions : Dict (String × String) EmbeddingModelVersion
  keyed         : ∀ key modelVersion, modelVersions.get? key = some modelVersion →
    modelVersion.key = key

namespace EmbeddingModelVersionRegistry

def get (registry : EmbeddingModelVersionRegistry) (key : String × String) :
    Except Exn EmbeddingModelVersion :=
  match registry.modelVersions.get? key with
  | some modelVersion => .ok modelVersion
  | none => .error (.lookupError ("Unknown embedding model version: " ++ key.1 ++ "@" ++ key.2))

/-- The in-memory half of `upsert`. -/
def set (registry : EmbeddingModelVersionRegistry) (modelVersion : EmbeddingModelVersion) :
    EmbeddingModelVersionRegistry where
  modelVersions := registry.modelVersions.set modelVersion.key modelVersion
  keyed := by
    intro key stored h
    rw [Dict.get?_set] at h
    split at h
    · cases h
      exact Eq.symm ‹_›
    · exact registry.keyed key stored h

theorem get_eq_ok {registry : EmbeddingModelVersionRegistry} {key : String × String}
    {modelVersion : EmbeddingModelVersion} :
    registry.get key = .ok modelVersion ↔ registry.modelVersions.get? key = some modelVersion := by
  rw [get]
  cases registry.modelVersions.get? key <;> simp

end EmbeddingModelVersionRegistry

/-- What an admin call meets outside the registry: the clock, and whether saving the
registry's file and recording the audit event, which follow the upsert, both succeed. -/
structure AdminEffects where
  clock : String
  saved : Except Exn Unit := .ok ()

structure EmbeddingModelVersionRegistrationRequest where
  embeddingModelId       : String
  embeddingModelVersion  : String
  provider               : String
  deployment             : String
  dimensions             : Int
  distanceMetric         : String := "cosine"
  checksum               : String
  approvedForDataClasses : List DataClass

def EmbeddingModelVersionRegistrationRequest.toDomain
    (request : EmbeddingModelVersionRegistrationRequest) : Except Exn EmbeddingModelVersion :=
  EmbeddingModelVersion.postInit {
    embeddingModelId := request.embeddingModelId
    embeddingModelVersion := request.embeddingModelVersion
    provider := request.provider
    deployment := request.deployment
    dimensions := request.dimensions
    distanceMetric := request.distanceMetric
    checksum := request.checksum
    approvedForDataClasses := request.approvedForDataClasses }

structure EmbeddingModelVersionApprovalRequest where
  approvedForDataClasses : Option (List DataClass) := none

/-- `SOURCE_INDEXABLE_DATA_CLASSES`. -/
def sourceIndexableDataClasses : List DataClass :=
  [.publicData, .internal, .personal, .confidential, .gobd, .legalHold]

/-- `_validate_source_indexable_data_classes`. -/
def validateSourceIndexableDataClasses (values : List DataClass) : Except Exn Unit := do
  require (values ≠ []) (.valueError (.message "approved_for_data_classes must not be empty"))
  let unsupported := (values.filter (· ∉ sourceIndexableDataClasses)).dedup
  require (unsupported = []) (.valueError (.message
    ("approved_for_data_classes contains non-indexable data classes: " ++
      ", ".intercalate (unsupported.map (·.value)).mergeSort)))

namespace EmbeddingModelVersionAdminService

/-- `repository.upsert` and the audit event after it: the registry keeps the version even
when one of the two raises. -/
def save (effects : AdminEffects) (modelVersion : EmbeddingModelVersion) :
    Eff Exn EmbeddingModelVersionRegistry EmbeddingModelVersion := do
  let registry ← Eff.get
  Eff.set (registry.set modelVersion)
  Eff.lift effects.saved
  return modelVersion

def register (request : EmbeddingModelVersionRegistrationRequest) (effects : AdminEffects) :
    Eff Exn EmbeddingModelVersionRegistry EmbeddingModelVersion := do
  let registry ← Eff.get
  match registry.get (request.embeddingModelId, request.embeddingModelVersion) with
  | .ok _ => Eff.raise (.valueError (.message "embedding model version already exists"))
  | .error _ => do
    let modelVersion ← Eff.lift request.toDomain
    save effects modelVersion

def approve (key : String × String) (request : EmbeddingModelVersionApprovalRequest)
    (effects : AdminEffects) : Eff Exn EmbeddingModelVersionRegistry EmbeddingModelVersion := do
  let registry ← Eff.get
  let current ← Eff.lift (registry.get key)
  Eff.lift (require (current.approvedAtUtc = none) (.valueError (.message
    "embedding model version is already approved")))
  Eff.lift (require (current.retiredAtUtc = none) (.valueError (.message
    "retired embedding model versions cannot be approved")))
  let approvedDataClasses := request.approvedForDataClasses.getD current.approvedForDataClasses
  Eff.lift (validateSourceIndexableDataClasses approvedDataClasses)
  let approved ← Eff.lift (EmbeddingModelVersion.postInit { current with
    approvedForDataClasses := approvedDataClasses, approvedAtUtc := some effects.clock })
  save effects approved

def retire (key : String × String) (effects : AdminEffects) :
    Eff Exn EmbeddingModelVersionRegistry EmbeddingModelVersion := do
  let registry ← Eff.get
  let current ← Eff.lift (registry.get key)
  Eff.lift (require (current.retiredAtUtc = none) (.valueError (.message
    "embedding model version is already retired")))
  let retired ← Eff.lift (EmbeddingModelVersion.postInit { current with
    retiredAtUtc := some effects.clock })
  save effects retired

end EmbeddingModelVersionAdminService

/-! ## Pipelines -/

structure SourceIndexingPipeline where
  embeddingModel        : EmbeddingModelVersion
  embeddingModelId      : String
  embeddingModelVersion : String
  deriving DecidableEq, Repr

namespace SourceIndexingPipeline

/-- The registry key of the configured model version. -/
def key (pipeline : SourceIndexingPipeline) : String × String :=
  (pipeline.embeddingModelId, pipeline.embeddingModelVersion)

/-- The constructor: the description of the model version is read here, once. -/
def build (key : String × String) (registry : EmbeddingModelVersionRegistry) :
    Except Exn SourceIndexingPipeline := do
  let embeddingModel ← registry.get key
  return ⟨embeddingModel, key.1, key.2⟩

/-- `_validate_embedding_model_for_source`. -/
def validateEmbeddingModelForSource (pipeline : SourceIndexingPipeline)
    (classification : DataClass) : Except Exn Unit := do
  let embeddingModel := pipeline.embeddingModel
  require (embeddingModel.embeddingModelId = pipeline.embeddingModelId) (.valueError (.message
    "registered embedding model_id does not match pipeline configuration"))
  require (embeddingModel.embeddingModelVersion = pipeline.embeddingModelVersion)
    (.valueError (.message
      "registered embedding model_version does not match pipeline configuration"))
  require (embeddingModel.approvedAtUtc ≠ none) (.valueError (.message
    "embedding model version is not approved for indexing"))
  require (embeddingModel.retiredAtUtc = none) (.valueError (.message
    "embedding model version is retired"))
  require (classification ∈ embeddingModel.approvedForDataClasses) (.valueError (.message
    "embedding model version is not approved for source data class"))

/-- `index_source`: `resolved` is the classification of the source, once it is resolved and
agrees with the command, and `written` what building and writing its records makes of it. -/
def indexSource (pipeline : SourceIndexingPipeline) (resolved : Except Exn DataClass)
    (written : Except Exn Unit) : Except Exn Unit := do
  let classification ← resolved
  pipeline.validateEmbeddingModelForSource classification
  written

end SourceIndexingPipeline

/-! ## Runs -/

/-- The registry, and the pipelines built over it so far. -/
structure IndexingWorld where
  registry  : EmbeddingModelVersionRegistry
  pipelines : List SourceIndexingPipeline := []

inductive IndexingEvent where
  | register (request : EmbeddingModelVersionRegistrationRequest) (effects : AdminEffects)
  | approve (key : String × String) (request : EmbeddingModelVersionApprovalRequest)
      (effects : AdminEffects)
  | retire (key : String × String) (effects : AdminEffects)
  | build (key : String × String)
  | index (pipeline : ℕ) (resolved : Except Exn DataClass) (written : Except Exn Unit)

namespace IndexingWorld

open EmbeddingModelVersionAdminService in
/-- A call that raises leaves what it had stored; an indexing call changes no registry. -/
def step (world : IndexingWorld) : IndexingEvent → IndexingWorld
  | .register request effects =>
    { world with registry := (register request effects world.registry).2 }
  | .approve key request effects =>
    { world with registry := (approve key request effects world.registry).2 }
  | .retire key effects => { world with registry := (retire key effects world.registry).2 }
  | .build key =>
    match SourceIndexingPipeline.build key world.registry with
    | .ok pipeline => { world with pipelines := world.pipelines ++ [pipeline] }
    | .error _ => world
  | .index _ _ _ => world

end IndexingWorld

end Collabio
