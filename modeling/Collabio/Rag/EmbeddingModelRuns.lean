import Mathlib.Tactic
import Collabio.Rag.EmbeddingModels

/-!
# Approval of embedding models over whole runs

* `Evolves`               — how a stored version may change: it is approved once, and final
  once it is retired;
* `evolves_step`, `evolves_run` — that is all that steps and runs do;
* `Current`               — a pipeline's description is an earlier state of the stored one;
* `approval_governs_indexing_iff` — what governs indexing: exactly the retirement that a
  pipeline built before it does not see.
-/

namespace Collabio

/-! ## How a version changes -/

/-- A retired version is final, and of an approved one only the retirement can change. -/
structure EmbeddingModelVersion.Evolves (old new : EmbeddingModelVersion) : Prop where
  retired  : old.retiredAtUtc ≠ none → new = old
  approved : old.approvedAtUtc ≠ none → new = { old with retiredAtUtc := new.retiredAtUtc }

namespace EmbeddingModelVersion.Evolves

theorem refl (modelVersion : EmbeddingModelVersion) : modelVersion.Evolves modelVersion :=
  ⟨fun _ => rfl, fun _ => rfl⟩

theorem trans {old between new : EmbeddingModelVersion} (h : old.Evolves between)
    (h' : between.Evolves new) : old.Evolves new := by
  constructor
  · intro hretired
    have hsame := h.retired hretired
    subst hsame
    exact h'.retired hretired
  · intro happroved
    have hbetween := h.approved happroved
    have hstill : between.approvedAtUtc ≠ none := by
      rw [hbetween]
      exact happroved
    rw [h'.approved hstill, hbetween]

end EmbeddingModelVersion.Evolves

namespace EmbeddingModelVersionAdminService

variable {registry : EmbeddingModelVersionRegistry} {key : String × String}

/-- What an admin call does to the registry: nothing, or it stores one version, whose key is
free or whose stored state it continues. -/
inductive Administers (registry : EmbeddingModelVersionRegistry) :
    EmbeddingModelVersionRegistry → Prop where
  | refuses : Administers registry registry
  | adds (modelVersion : EmbeddingModelVersion)
      (free : registry.modelVersions.get? modelVersion.key = none) :
      Administers registry (registry.set modelVersion)
  | approves (current approved : EmbeddingModelVersion)
      (found : registry.modelVersions.get? approved.key = some current)
      (draft : current.approvedAtUtc = none ∧ current.retiredAtUtc = none) :
      Administers registry (registry.set approved)
  | retires (current : EmbeddingModelVersion) (clock : String)
      (found : registry.modelVersions.get? current.key = some current)
      (inUse : current.retiredAtUtc = none) :
      Administers registry (registry.set { current with retiredAtUtc := some clock })

theorem snd_save (effects : AdminEffects) (modelVersion : EmbeddingModelVersion) :
    (save effects modelVersion registry).2 = registry.set modelVersion := by
  obtain ⟨clock, saved⟩ := effects
  cases saved <;> rfl

theorem register_of_taken {request : EmbeddingModelVersionRegistrationRequest}
    {stored : EmbeddingModelVersion} (effects : AdminEffects)
    (h : registry.modelVersions.get? (request.embeddingModelId, request.embeddingModelVersion) =
      some stored) :
    register request effects registry =
      (.error (.valueError (.message "embedding model version already exists")), registry) := by
  have hget := EmbeddingModelVersionRegistry.get_eq_ok.mpr h
  rw [register, Eff.bind_of_ok (Eff.get_apply registry), hget]
  rfl

/-- A registration changes nothing, or adds a version under a free key. -/
theorem register_cases (request : EmbeddingModelVersionRegistrationRequest)
    (effects : AdminEffects) :
    (register request effects registry).2 = registry ∨
      ∃ modelVersion, registry.modelVersions.get? modelVersion.key = none ∧
        (register request effects registry).2 = registry.set modelVersion := by
  cases hstored : registry.modelVersions.get?
      (request.embeddingModelId, request.embeddingModelVersion) with
  | some stored =>
    rw [register_of_taken effects hstored]
    exact .inl rfl
  | none =>
    rw [register, Eff.bind_of_ok (Eff.get_apply registry), EmbeddingModelVersionRegistry.get,
      hstored]
    cases hdomain : request.toDomain with
    | error exn => exact .inl rfl
    | ok modelVersion =>
      dsimp only
      rw [Eff.bind_of_ok (Eff.lift_apply _ registry), snd_save]
      refine .inr ⟨modelVersion, ?_, rfl⟩
      rw [EmbeddingModelVersion.postInit_eq_ok hdomain]
      exact hstored

theorem register_administers (request : EmbeddingModelVersionRegistrationRequest)
    (effects : AdminEffects) : Administers registry (register request effects registry).2 := by
  rcases register_cases request effects with hsame | ⟨modelVersion, hfree, hadds⟩
  · rw [hsame]
    exact .refuses
  · rw [hadds]
    exact .adds modelVersion hfree

/-- A registration leaves every stored version as it is. -/
theorem register_keeps (request : EmbeddingModelVersionRegistrationRequest)
    (effects : AdminEffects) {stored : EmbeddingModelVersion}
    (h : registry.modelVersions.get? key = some stored) :
    (register request effects registry).2.modelVersions.get? key = some stored := by
  rcases register_cases request effects with hsame | ⟨modelVersion, hfree, hadds⟩
  · rw [hsame]
    exact h
  · have hne : key ≠ modelVersion.key := by
      rintro rfl
      rw [hfree] at h
      cases h
    rw [hadds, EmbeddingModelVersionRegistry.set, Dict.get?_set_ne _ _ hne]
    exact h

theorem approve_administers (key : String × String)
    (request : EmbeddingModelVersionApprovalRequest) (effects : AdminEffects) :
    Administers registry (approve key request effects registry).2 := by
  rw [approve, Eff.bind_of_ok (Eff.get_apply registry)]
  cases hget : registry.get key with
  | error exn => exact .refuses
  | ok current =>
    rw [Eff.bind_of_ok (Eff.lift_apply _ registry)]
    -- each check refuses, or passes and leaves the registry as it is
    by_cases happroved : current.approvedAtUtc = none
    swap
    · rw [require_of_not _ happroved]
      exact .refuses
    rw [require_of _ happroved, Eff.bind_of_ok (Eff.lift_apply _ registry)]
    by_cases hretired : current.retiredAtUtc = none
    swap
    · rw [require_of_not _ hretired]
      exact .refuses
    rw [require_of _ hretired, Eff.bind_of_ok (Eff.lift_apply _ registry)]
    generalize request.approvedForDataClasses.getD current.approvedForDataClasses = dataClasses
    cases validateSourceIndexableDataClasses dataClasses with
    | error exn => exact .refuses
    | ok _ =>
      rw [Eff.bind_of_ok (Eff.lift_apply _ registry)]
      cases hbuilt : EmbeddingModelVersion.postInit { current with
          approvedForDataClasses := dataClasses, approvedAtUtc := some effects.clock } with
      | error exn => exact .refuses
      | ok approved =>
        rw [Eff.bind_of_ok (Eff.lift_apply _ registry), snd_save]
        refine .approves current approved ?_ ⟨happroved, hretired⟩
        -- the version that is approved is stored under its own key
        have hfound := EmbeddingModelVersionRegistry.get_eq_ok.mp hget
        rw [EmbeddingModelVersion.postInit_eq_ok hbuilt]
        exact (registry.keyed key current hfound).symm ▸ hfound

theorem retire_administers (key : String × String) (effects : AdminEffects) :
    Administers registry (retire key effects registry).2 := by
  rw [retire, Eff.bind_of_ok (Eff.get_apply registry)]
  cases hget : registry.get key with
  | error exn => exact .refuses
  | ok current =>
    rw [Eff.bind_of_ok (Eff.lift_apply _ registry)]
    by_cases hretired : current.retiredAtUtc = none
    swap
    · rw [require_of_not _ hretired]
      exact .refuses
    rw [require_of _ hretired, Eff.bind_of_ok (Eff.lift_apply _ registry)]
    cases hbuilt : EmbeddingModelVersion.postInit { current with
        retiredAtUtc := some effects.clock } with
    | error exn => exact .refuses
    | ok retired =>
      rw [Eff.bind_of_ok (Eff.lift_apply _ registry), snd_save,
        EmbeddingModelVersion.postInit_eq_ok hbuilt]
      have hfound := EmbeddingModelVersionRegistry.get_eq_ok.mp hget
      exact .retires current effects.clock ((registry.keyed key current hfound).symm ▸ hfound)
        hretired

/-- A retired version is refused. -/
theorem approve_of_retired {current : EmbeddingModelVersion}
    (h : registry.modelVersions.get? key = some current) (hretired : current.retiredAtUtc ≠ none)
    (request : EmbeddingModelVersionApprovalRequest) (effects : AdminEffects) :
    ∃ exn, approve key request effects registry = (.error exn, registry) := by
  rw [approve, Eff.bind_of_ok (Eff.get_apply registry),
    EmbeddingModelVersionRegistry.get_eq_ok.mpr h, Eff.bind_of_ok (Eff.lift_apply _ registry)]
  by_cases happroved : current.approvedAtUtc = none
  · rw [require_of _ happroved, Eff.bind_of_ok (Eff.lift_apply _ registry),
      require_of_not _ hretired]
    exact ⟨_, rfl⟩
  · rw [require_of_not _ happroved]
    exact ⟨_, rfl⟩

/-- Every stored version evolves. -/
theorem Administers.evolves {registry' : EmbeddingModelVersionRegistry}
    (h : Administers registry registry') {old : EmbeddingModelVersion}
    (hold : registry.modelVersions.get? key = some old) :
    ∃ new, registry'.modelVersions.get? key = some new ∧ old.Evolves new := by
  -- a write changes one version, and this one only if it is the one written
  have hset : ∀ new : EmbeddingModelVersion, (key = new.key → old.Evolves new) →
      ∃ stored, (registry.set new).modelVersions.get? key = some stored ∧ old.Evolves stored := by
    intro new hnew
    rw [EmbeddingModelVersionRegistry.set, Dict.get?_set]
    split
    · exact ⟨new, rfl, hnew ‹_›⟩
    · exact ⟨old, hold, .refl old⟩
  cases h with
  | refuses => exact ⟨old, hold, .refl old⟩
  | adds modelVersion free =>
    refine hset modelVersion fun hkey => ?_
    rw [hkey, free] at hold
    cases hold
  | approves current approved found draft =>
    refine hset approved fun hkey => ?_
    rw [hkey, found] at hold
    cases hold
    -- a draft is neither approved nor retired, so it may become either
    exact ⟨fun hretired => absurd draft.2 hretired, fun happroved => absurd draft.1 happroved⟩
  | retires current clock found inUse =>
    refine hset _ fun hkey => ?_
    have hkey : key = current.key := hkey
    rw [hkey, found] at hold
    cases hold
    exact ⟨fun hretired => absurd inUse hretired, fun _ => rfl⟩

end EmbeddingModelVersionAdminService

namespace IndexingWorld

open EmbeddingModelVersionAdminService

variable {world : IndexingWorld} {key : String × String} {old : EmbeddingModelVersion}

/-! ## Steps and runs -/

theorem administers_step (world : IndexingWorld) (event : IndexingEvent) :
    Administers world.registry (world.step event).registry := by
  cases event with
  | register request effects => exact register_administers request effects
  | approve key request effects => exact approve_administers key request effects
  | retire key effects => exact retire_administers key effects
  | build key =>
    rw [step]
    split <;> exact .refuses
  | index => exact .refuses

theorem evolves_step (event : IndexingEvent)
    (h : world.registry.modelVersions.get? key = some old) :
    ∃ new, (world.step event).registry.modelVersions.get? key = some new ∧ old.Evolves new :=
  (administers_step world event).evolves h

theorem evolves_run (h : world.registry.modelVersions.get? key = some old)
    (events : List IndexingEvent) :
    ∃ new, (Runs.run step world events).registry.modelVersions.get? key = some new ∧
      old.Evolves new := by
  induction events generalizing world old with
  | nil => exact ⟨old, h, .refl old⟩
  | cons event events ih =>
    obtain ⟨between, hbetween, hfirst⟩ := evolves_step event h
    obtain ⟨new, hnew, hrest⟩ := ih hbetween
    exact ⟨new, hnew, hfirst.trans hrest⟩

/-- Each pipeline holds an earlier state of the version that its key stands for. -/
def Current (world : IndexingWorld) : Prop :=
  ∀ pipeline ∈ world.pipelines, ∃ current,
    world.registry.modelVersions.get? pipeline.key = some current ∧
      pipeline.embeddingModel.Evolves current

theorem build_spec {registry : EmbeddingModelVersionRegistry} {pipeline : SourceIndexingPipeline}
    (h : SourceIndexingPipeline.build key registry = .ok pipeline) :
    pipeline.key = key ∧
      registry.modelVersions.get? key = some pipeline.embeddingModel := by
  obtain ⟨embeddingModel, hget, h⟩ := Except.bind_eq_ok.mp h
  cases h
  exact ⟨rfl, EmbeddingModelVersionRegistry.get_eq_ok.mp hget⟩

theorem current_step (h : Current world) (event : IndexingEvent) : Current (world.step event) := by
  have hsame : ∀ world', world'.pipelines = world.pipelines →
      Administers world.registry world'.registry → Current world' := by
    intro world' hpipelines hadministers pipeline hmem
    rw [hpipelines] at hmem
    obtain ⟨current, hget, hevolves⟩ := h pipeline hmem
    obtain ⟨new, hnew, hstep⟩ := hadministers.evolves hget
    exact ⟨new, hnew, hevolves.trans hstep⟩
  have hadministers := administers_step world event
  cases event with
  | register | approve | retire | index => exact hsame _ rfl hadministers
  | build key =>
    rw [step]
    split
    · rename_i pipeline hbuild
      intro built hmem
      rcases List.mem_append.mp hmem with hmem | hmem
      · exact h built hmem
      · rw [List.mem_singleton] at hmem
        subst hmem
        obtain ⟨hkey, hget⟩ := build_spec hbuild
        rw [hkey]
        exact ⟨_, hget, .refl _⟩
    · exact h

/-! ## What governs indexing -/

/-- An indexing call that succeeds uses a version that is, at this moment, approved, not
retired, and approved for the classification of the source. -/
def IndexesApproved (world : IndexingWorld) : IndexingEvent → Prop
  | .index i resolved written => ∀ pipeline classification,
    world.pipelines[i]? = some pipeline → resolved = .ok classification →
      pipeline.indexSource resolved written = .ok () →
        ∃ current, world.registry.modelVersions.get? pipeline.key = some current ∧
          current.approvedAtUtc ≠ none ∧ current.retiredAtUtc = none ∧
          classification ∈ current.approvedForDataClasses
  | _ => True

/-- The version whose earlier description lets an indexing call pass has not been retired in
the registry since the pipeline was built. -/
def NotRetiredSince (world : IndexingWorld) : IndexingEvent → Prop
  | .index i resolved written => ∀ pipeline classification,
    world.pipelines[i]? = some pipeline → resolved = .ok classification →
      pipeline.validateEmbeddingModelForSource classification = .ok () → written = .ok () →
        ∀ current, world.registry.modelVersions.get? pipeline.key = some current →
          current.retiredAtUtc = none
  | _ => True

theorem validate_spec {pipeline : SourceIndexingPipeline} {classification : DataClass}
    (h : pipeline.validateEmbeddingModelForSource classification = .ok ()) :
    pipeline.embeddingModel.approvedAtUtc ≠ none ∧ pipeline.embeddingModel.retiredAtUtc = none ∧
      classification ∈ pipeline.embeddingModel.approvedForDataClasses := by
  obtain ⟨-, h⟩ := require_bind_eq_ok.mp h
  obtain ⟨-, h⟩ := require_bind_eq_ok.mp h
  obtain ⟨happroved, h⟩ := require_bind_eq_ok.mp h
  obtain ⟨hretired, h⟩ := require_bind_eq_ok.mp h
  exact ⟨happroved, hretired, require_eq_ok.mp h⟩

theorem indexSource_eq_ok {pipeline : SourceIndexingPipeline} {resolved : Except Exn DataClass}
    {written : Except Exn Unit} {classification : DataClass} (h : resolved = .ok classification) :
    pipeline.indexSource resolved written = .ok () ↔
      pipeline.validateEmbeddingModelForSource classification = .ok () ∧ written = .ok () := by
  subst h
  exact Except.unit_bind_eq_ok

theorem indexesApproved_iff (h : Current world) (event : IndexingEvent) :
    world.IndexesApproved event ↔ world.NotRetiredSince event := by
  cases event with
  | register | approve | retire | build => exact Iff.rfl
  | index i resolved written =>
    refine forall₃_congr fun pipeline classification hpipeline =>
      forall_congr' fun hresolved => ?_
    rw [indexSource_eq_ok hresolved, and_imp]
    refine forall₂_congr fun hvalid _ => ?_
    obtain ⟨happroved, -, hclass⟩ := validate_spec hvalid
    obtain ⟨current, hget, hevolves⟩ := h pipeline (List.mem_of_getElem? hpipeline)
    have hcurrent := hevolves.approved happroved
    constructor
    · rintro ⟨found, hfound, -, hretired, -⟩ other hother
      rw [hfound] at hother
      cases hother
      exact hretired
    · intro hretired
      refine ⟨current, hget, ?_, hretired current hget, ?_⟩
      · rw [hcurrent]
        exact happroved
      · rw [hcurrent]
        exact hclass

/-- **Approval and indexing.** In every run of admin calls, constructions and indexing calls
over one registry: a retired version never changes again, and no approval of it returns; a
registration never changes a version that is there; and every indexing call that succeeds
uses an approved version exactly if none of them uses one that was retired after its
pipeline was built. -/
theorem approval_governs_indexing_iff (registry : EmbeddingModelVersionRegistry)
    (events : List IndexingEvent) :
    (∀ before later, before ++ later = events → ∀ key retired,
      (Runs.run step { registry } before).registry.modelVersions.get? key = some retired →
      retired.retiredAtUtc ≠ none →
        (Runs.run step { registry } events).registry.modelVersions.get? key = some retired ∧
        ∀ request effects, ∃ exn, approve key request effects
          (Runs.run step { registry } before).registry =
            (.error exn, (Runs.run step { registry } before).registry)) ∧
    (∀ before request effects, before ++ [.register request effects] <+: events →
      ∀ key stored,
        (Runs.run step { registry } before).registry.modelVersions.get? key = some stored →
        (Runs.run step { registry } (before ++ [.register request effects])).registry.modelVersions.get?
          key = some stored) ∧
    (Runs.Guarded step IndexesApproved { registry } events ↔
      Runs.Guarded step NotRetiredSince { registry } events) := by
  refine ⟨?_, ?_, ?_⟩
  · rintro before later rfl key retired hget hretired
    refine ⟨?_, fun request effects => approve_of_retired hget hretired request effects⟩
    obtain ⟨new, hnew, hevolves⟩ := evolves_run hget later
    rw [Runs.run_append, hnew, hevolves.retired hretired]
  · intro before request effects _ key stored hget
    rw [Runs.run_append, Runs.run_cons, Runs.run_nil]
    exact register_keeps request effects hget
  · have hcurrent : Runs.Always step Current { registry } events :=
      Runs.always_of_invariant (fun _ event h => current_step h event)
        (fun _ hmem => absurd hmem List.not_mem_nil) events
    refine forall₃_congr fun before event hprefix => ?_
    exact indexesApproved_iff (hcurrent before ((List.prefix_append _ _).trans hprefix)) event

/-- An approved version of the mock model. -/
def sampleModelVersion : EmbeddingModelVersion where
  embeddingModelId := "mock-embedding"
  embeddingModelVersion := "1"
  provider := "local-test"
  deployment := "deterministic-hash"
  dimensions := 3
  checksum := "sha256:1"
  approvedForDataClasses := [.internal]
  approvedAtUtc := some "2026-06-10T00:00:00Z"

def sampleModelRegistry : EmbeddingModelVersionRegistry where
  modelVersions := ⟨[(sampleModelVersion.key, sampleModelVersion)], List.nodup_singleton _⟩
  keyed := by
    intro key modelVersion h
    rw [← Dict.mem_items, List.mem_singleton, Prod.mk.injEq] at h
    rw [h.1, h.2]

/-- The pipeline is built, the version retired, and the pipeline still indexes with it. -/
theorem retired_model_still_indexes :
    let world := Runs.run step { registry := sampleModelRegistry }
      [.build ("mock-embedding", "1"),
        .retire ("mock-embedding", "1") { clock := "2026-06-11T00:00:00Z" }]
    ¬ world.IndexesApproved (.index 0 (.ok .internal) (.ok ())) := by
  intro world happroved
  obtain ⟨current, hget, -, hretired, -⟩ := happroved
    ⟨sampleModelVersion, "mock-embedding", "1"⟩ .internal (by decide +kernel) rfl
    (by decide +kernel)
  have hstored : (world.registry.modelVersions.get? ("mock-embedding", "1")).all
      (·.retiredAtUtc ≠ none) = true := by decide +kernel
  have hget : world.registry.modelVersions.get? ("mock-embedding", "1") = some current := hget
  rw [hget] at hstored
  simp [hretired] at hstored

end IndexingWorld

end Collabio
