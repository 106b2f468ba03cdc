import Mathlib.Tactic
import Collabio.Platform.TenantPolicies

/-!
# Two updates of one tenant's AI settings

* `AiSettingsWorld.expected`   — the previous policy with the updates returned so far;
* `AiSettingsWorld.InOrder`    — the invariant as long as no update is lost: the
  stored policy is the expected one, and a request in progress has read it or
  the previous one;
* `step_spec`                  — a step keeps the invariant exactly if a request
  that writes had read what is stored;
* `both_updates_kept_iff`      — two updates of disjoint fields both survive
  exactly if each write found the policy its request had read.
-/

namespace Collabio

namespace AiSettingsWorld

variable {calls : AiSettingsCalls} {world : AiSettingsWorld} {turn : AiSettingsTurn}

/-- The request has returned. -/
def Returned (world : AiSettingsWorld) (caller : PatchCaller) : Prop :=
  ∃ response, world.phase caller = .returned response

/-- The request has failed. -/
def Failed (world : AiSettingsWorld) (caller : PatchCaller) : Prop :=
  ∃ error, world.phase caller = .failed error

/-- A request that is about to write had read the policy that is stored now. -/
def FreshWrite (calls : AiSettingsCalls) (world : AiSettingsWorld) (turn : AiSettingsTurn) :
    Prop :=
  ∀ contextPolicy, world.phase turn.caller = .admitted contextPolicy →
    (calls.requests turn.caller).update.fieldsSet ≠ [] →
    world.repository.policies.get? contextPolicy.tenantId = some contextPolicy

/-! ## One turn -/

/-- Everything a turn can do to the repository and to the request whose turn it is. -/
inductive TurnOf (calls : AiSettingsCalls) (world : AiSettingsWorld) (caller : PatchCaller) :
    AiSettingsWorld → Prop where
  | reads (contextPolicy : TenantAiPolicy) (waiting : world.phase caller = .waiting)
      (found : world.repository.policies.get? (calls.requests caller).user.tenantId =
        some contextPolicy) :
      TurnOf calls world caller (world.setPhase caller (.admitted contextPolicy))
  | returns (contextPolicy response : TenantAiPolicy)
      (admitted : world.phase caller = .admitted contextPolicy) :
      TurnOf calls world caller <|
        { world with
          repository := if (calls.requests caller).update.fieldsSet = [] then world.repository
            else world.repository.setPolicy
              (contextPolicy.modelCopy (calls.requests caller).update) }.setPhase caller
          (.returned response)
  | fails (error : ApiError) (repository : TenantPolicyRepository) :
      TurnOf calls world caller ({ world with repository }.setPhase caller (.failed error))
  | rests (ended : world.Returned caller ∨ world.Failed caller) : TurnOf calls world caller world

theorem step_cases (calls : AiSettingsCalls) (world : AiSettingsWorld) (turn : AiSettingsTurn) :
    TurnOf calls world turn.caller (step calls world turn) := by
  rw [step]
  cases hphase : world.phase turn.caller with
  | waiting =>
    dsimp only
    -- the request reads the policy that it will write over
    cases hcontext : requireTenantAdmin (calls.requests turn.caller).user world.repository with
    | error error => exact .fails error world.repository
    | ok contextPolicy =>
      refine .reads contextPolicy hphase ?_
      rw [requireTenantAdmin] at hcontext
      cases hget : world.repository.get (calls.requests turn.caller).user.tenantId with
      | error exn => simp [hget] at hcontext
      | ok found =>
        simp only [hget] at hcontext
        split at hcontext
        · cases hcontext
          exact TenantPolicyRepository.get_eq_ok.mp hget
        · cases hcontext
  | admitted contextPolicy =>
    dsimp only
    -- it writes the policy that it read, changed
    rcases hhandler : updateTenantAiSettings calls.modelRegistry
        (calls.requests turn.caller).update contextPolicy turn.record world.repository with
      ⟨error | response, repository⟩
    · exact .fails error repository
    · dsimp only
      rw [updateTenantAiSettings_eq_ok hhandler]
      exact .returns contextPolicy response hphase
  | returned response => exact .rests (.inl ⟨response, hphase⟩)
  | failed error => exact .rests (.inr ⟨error, hphase⟩)

@[simp] theorem phase_setPhase_self (world : AiSettingsWorld) (caller : PatchCaller)
    (phase : RequestPhase) : (world.setPhase caller phase).phase caller = phase := by
  simp [setPhase]

@[simp] theorem phase_setPhase_other (world : AiSettingsWorld) (caller : PatchCaller)
    (phase : RequestPhase) :
    (world.setPhase caller phase).phase caller.other = world.phase caller.other := by
  cases caller <;> simp [setPhase, PatchCaller.other]

@[simp] theorem repository_setPhase (world : AiSettingsWorld) (caller : PatchCaller)
    (phase : RequestPhase) : (world.setPhase caller phase).repository = world.repository := rfl

theorem eq_or_eq_other (caller c : PatchCaller) : c = caller ∨ c = caller.other := by
  cases caller <;> cases c <;> simp [PatchCaller.other]

/-- An ended request stays as it is. -/
theorem phase_step_of_ended {caller : PatchCaller} (h : world.Returned caller ∨ world.Failed caller)
    (turn : AiSettingsTurn) : (step calls world turn).phase caller = world.phase caller := by
  have hturn := step_cases calls world turn
  rcases eq_or_eq_other turn.caller caller with rfl | rfl
  · rcases h with ⟨response, h⟩ | ⟨error, h⟩ <;> simp [step, h]
  · generalize step calls world turn = next at hturn
    cases hturn with
    | reads | returns | fails => rw [phase_setPhase_other]
    | rests => rfl

theorem phase_run_of_ended {caller : PatchCaller} (h : world.Returned caller ∨ world.Failed caller)
    (turns : List AiSettingsTurn) :
    (Runs.run (step calls) world turns).phase caller = world.phase caller := by
  induction turns generalizing world with
  | nil => rfl
  | cons turn turns ih =>
    have hsame : (step calls world turn).phase caller = world.phase caller :=
      phase_step_of_ended h turn
    rw [Runs.run_cons, ih (by simpa [Returned, Failed, hsame] using h), hsame]

/-- After both requests have ended nothing happens. -/
theorem step_of_ended (h : ∀ caller, world.Returned caller ∨ world.Failed caller)
    (turn : AiSettingsTurn) : step calls world turn = world := by
  rcases h turn.caller with ⟨response, hphase⟩ | ⟨error, hphase⟩ <;> simp [step, hphase]

theorem run_of_ended (h : ∀ caller, world.Returned caller ∨ world.Failed caller)
    (turns : List AiSettingsTurn) : Runs.run (step calls) world turns = world := by
  induction turns with
  | nil => rfl
  | cons turn turns ih => rw [Runs.run_cons, step_of_ended h, ih]

/-! ## What should be stored -/

/-- The update of a request, once it has returned. -/
def applied (calls : AiSettingsCalls) (world : AiSettingsWorld) (caller : PatchCaller) :
    TenantAiPolicyUpdate :=
  match world.phase caller with
  | .returned _ => (calls.requests caller).update
  | _ => ⟨fun _ => none⟩

/-- The previous policy with the updates of the requests that have returned. -/
def expected (calls : AiSettingsCalls) (previous : TenantAiPolicy) (world : AiSettingsWorld) :
    TenantAiPolicy :=
  (previous.modelCopy (world.applied calls .first)).modelCopy (world.applied calls .second)

/-- The two patches set no field in common. -/
def DisjointPatches (calls : AiSettingsCalls) : Prop :=
  (calls.requests .first).update.DisjointFields (calls.requests .second).update

@[simp] theorem modelCopy_nothing (policy : TenantAiPolicy) :
    policy.modelCopy ⟨fun _ => none⟩ = policy := rfl

theorem DisjointPatches.other (h : DisjointPatches calls) (caller : PatchCaller) :
    (calls.requests caller).update.DisjointFields (calls.requests caller.other).update := by
  cases caller with
  | first => exact h
  | second => exact h.symm

/-- The updates may be overlaid in either order. -/
theorem expected_eq (h : DisjointPatches calls) (previous : TenantAiPolicy)
    (world : AiSettingsWorld) (caller : PatchCaller) :
    world.expected calls previous =
      (previous.modelCopy (world.applied calls caller.other)).modelCopy
        (world.applied calls caller) := by
  cases caller with
  | second => rfl
  | first =>
    rw [expected, PatchCaller.other, applied, applied]
    split <;> split
    · exact TenantAiPolicy.modelCopy_comm h previous
    all_goals simp

theorem applied_of_returned {caller : PatchCaller} (h : world.Returned caller) :
    world.applied calls caller = (calls.requests caller).update := by
  obtain ⟨response, h⟩ := h
  rw [applied, h]

theorem applied_of_not_returned {caller : PatchCaller} (h : ¬ world.Returned caller) :
    world.applied calls caller = ⟨fun _ => none⟩ := by
  rw [applied]
  split
  · exact absurd ⟨_, ‹_›⟩ h
  · rfl

/-- As long as no update is lost: the stored policy is the expected one, and a
request in progress works on it or on the previous one. -/
structure InOrder (calls : AiSettingsCalls) (tenantId : String) (previous : TenantAiPolicy)
    (world : AiSettingsWorld) : Prop where
  stored : world.repository.policies.get? tenantId = some (world.expected calls previous)
  read   : ∀ caller contextPolicy, world.phase caller = .admitted contextPolicy →
    contextPolicy = previous ∨ contextPolicy = world.expected calls previous

/-! ## One turn keeps the order exactly if its write is fresh -/

section

variable {tenantId : String} {previous : TenantAiPolicy}

theorem InOrder.tenantId_of_admitted (h : InOrder calls tenantId previous world)
    {caller : PatchCaller} {contextPolicy : TenantAiPolicy}
    (hphase : world.phase caller = .admitted contextPolicy) :
    contextPolicy.tenantId = previous.tenantId := by
  rcases h.read caller contextPolicy hphase with rfl | rfl
  · rfl
  · rfl

theorem not_returned_of_admitted {caller : PatchCaller} {contextPolicy : TenantAiPolicy}
    (h : world.phase caller = .admitted contextPolicy) : ¬ world.Returned caller := by
  rintro ⟨response, hreturned⟩
  rw [h] at hreturned
  cases hreturned

/-- While a request is in progress, only the other one's update is expected. -/
theorem expected_of_not_returned (hdisjoint : DisjointPatches calls) {caller : PatchCaller}
    (h : ¬ world.Returned caller) :
    world.expected calls previous = previous.modelCopy (world.applied calls caller.other) := by
  rw [expected_eq hdisjoint previous world caller, applied_of_not_returned h, modelCopy_nothing]

theorem applied_setPhase_other (world : AiSettingsWorld) (repository : TenantPolicyRepository)
    (caller : PatchCaller) (phase : RequestPhase) :
    ({ world with repository }.setPhase caller phase).applied calls caller.other =
      world.applied calls caller.other := by
  simp only [applied, phase_setPhase_other]

/-- A phase that is no return leaves the expectation as it is. -/
theorem expected_setPhase_admitted (hdisjoint : DisjointPatches calls) {caller : PatchCaller}
    (h : ¬ world.Returned caller) (contextPolicy : TenantAiPolicy) :
    (world.setPhase caller (.admitted contextPolicy)).expected calls previous =
      world.expected calls previous := by
  have hnot := not_returned_of_admitted
    (phase_setPhase_self world caller (.admitted contextPolicy))
  rw [expected_of_not_returned hdisjoint h, expected_of_not_returned hdisjoint hnot,
    applied_setPhase_other]

/-- The return of a request adds its update to what is expected. -/
theorem expected_setPhase_returned (hdisjoint : DisjointPatches calls) {caller : PatchCaller}
    (h : ¬ world.Returned caller) (repository : TenantPolicyRepository)
    (response : TenantAiPolicy) :
    ({ world with repository }.setPhase caller (.returned response)).expected calls previous =
      (world.expected calls previous).modelCopy (calls.requests caller).update := by
  have hreturned : ({ world with repository }.setPhase caller (.returned response)).Returned
      caller := ⟨response, phase_setPhase_self _ _ _⟩
  rw [expected_eq hdisjoint previous _ caller, applied_setPhase_other,
    applied_of_returned hreturned, expected_of_not_returned hdisjoint h]

/-- A fresh write, or a turn that writes nothing, keeps the order. -/
theorem InOrder.step (h : InOrder calls tenantId previous world)
    (hdisjoint : DisjointPatches calls)
    (htenant : ∀ caller, (calls.requests caller).user.tenantId = tenantId)
    (hprevious : previous.tenantId = tenantId)
    (hfresh : FreshWrite calls world turn)
    (hlive : ∀ caller, ¬ (AiSettingsWorld.step calls world turn).Failed caller) :
    InOrder calls tenantId previous (AiSettingsWorld.step calls world turn) := by
  have hturn := step_cases calls world turn
  generalize AiSettingsWorld.step calls world turn = next at hturn hlive
  cases hturn with
  | reads contextPolicy waiting found =>
    -- the request has not returned, so that nothing of it is expected yet
    have hnot : ¬ world.Returned turn.caller := by
      rintro ⟨response, hreturned⟩
      rw [waiting] at hreturned
      cases hreturned
    rw [htenant, h.stored, Option.some.injEq] at found
    have hsame : (world.setPhase turn.caller (.admitted contextPolicy)).expected calls previous =
        world.expected calls previous :=
      expected_setPhase_admitted hdisjoint hnot contextPolicy
    refine ⟨?_, fun caller readPolicy hphase => ?_⟩
    · rw [repository_setPhase, h.stored, hsame]
    · rw [hsame]
      rcases eq_or_eq_other turn.caller caller with rfl | rfl
      · rw [phase_setPhase_self] at hphase
        cases hphase
        exact .inr found.symm
      · rw [phase_setPhase_other] at hphase
        exact h.read _ _ hphase
  | returns contextPolicy response admitted =>
    -- what it writes is what it read, which is still what is stored
    have hnot := not_returned_of_admitted admitted
    have hkey : contextPolicy.tenantId = tenantId :=
      (h.tenantId_of_admitted admitted).trans hprevious
    refine ⟨?_, fun caller readPolicy hphase => ?_⟩
    · rw [expected_setPhase_returned hdisjoint hnot, repository_setPhase]
      split
      · rw [TenantAiPolicy.modelCopy_of_fieldsSet_eq_nil ‹_›]
        exact h.stored
      · have hread := hfresh contextPolicy admitted ‹_›
        rw [hkey, h.stored, Option.some.injEq] at hread
        rw [hread, ← hkey]
        exact TenantPolicyRepository.get?_setPolicy world.repository
          (contextPolicy.modelCopy (calls.requests turn.caller).update)
    · rcases eq_or_eq_other turn.caller caller with rfl | rfl
      · rw [phase_setPhase_self] at hphase
        cases hphase
      · -- the other request is still in progress: so far nothing was applied
        rw [phase_setPhase_other] at hphase
        have hphase : world.phase turn.caller.other = .admitted readPolicy := hphase
        have hother : world.applied calls turn.caller.other = _ :=
          applied_of_not_returned (not_returned_of_admitted hphase)
        have hnone : world.expected calls previous = previous := by
          rw [expected_of_not_returned hdisjoint hnot, hother, modelCopy_nothing]
        rcases h.read _ _ hphase with hread | hread
        · exact .inl hread
        · exact .inl (hread.trans hnone)
  | fails error repository => exact absurd ⟨error, phase_setPhase_self _ _ _⟩ (hlive turn.caller)
  | rests => exact h

/-- A stale write ends both requests and loses the other one's update. -/
theorem InOrder.step_of_stale (h : InOrder calls tenantId previous world)
    (hdisjoint : DisjointPatches calls) (hprevious : previous.tenantId = tenantId)
    (hstale : ¬ FreshWrite calls world turn)
    (hlive : ∀ caller, ¬ (AiSettingsWorld.step calls world turn).Failed caller) :
    (∀ caller, (AiSettingsWorld.step calls world turn).Returned caller) ∧
      (AiSettingsWorld.step calls world turn).repository.policies.get? tenantId ≠
        some ((AiSettingsWorld.step calls world turn).expected calls previous) := by
  simp only [FreshWrite, not_forall] at hstale
  obtain ⟨contextPolicy, admitted, hchanges, hread⟩ := hstale
  have hkey : contextPolicy.tenantId = tenantId :=
    (h.tenantId_of_admitted admitted).trans hprevious
  have hnot := not_returned_of_admitted admitted
  rw [hkey, h.stored, Option.some.injEq] at hread
  -- what was read is not what is stored now, so that it is what was there first
  have hold : contextPolicy = previous :=
    (h.read _ _ admitted).resolve_right fun hsame => hread hsame.symm
  subst hold
  -- the other request has returned, or nothing would have changed
  have hother : world.Returned turn.caller.other := by
    by_contra hother
    refine hread ?_
    rw [expected_of_not_returned hdisjoint hnot, applied_of_not_returned hother,
      modelCopy_nothing]
  have hturn := step_cases calls world turn
  generalize AiSettingsWorld.step calls world turn = next at hturn hlive
  cases hturn with
  | reads _ waiting =>
    rw [admitted] at waiting
    cases waiting
  | fails error repository => exact absurd ⟨error, phase_setPhase_self _ _ _⟩ (hlive turn.caller)
  | rests ended => rcases ended with ⟨_, ended⟩ | ⟨_, ended⟩ <;> simp [admitted] at ended
  | returns written response hphase =>
    rw [admitted] at hphase
    cases hphase
    constructor
    · intro caller
      rcases eq_or_eq_other turn.caller caller with rfl | rfl
      · exact ⟨response, phase_setPhase_self _ _ _⟩
      · obtain ⟨answer, hother⟩ := hother
        exact ⟨answer, by rw [phase_setPhase_other]; exact hother⟩
    · -- the other one's update would have to be part of a policy that was read before it
      rw [expected_setPhase_returned hdisjoint hnot, repository_setPhase, if_neg hchanges,
        expected_of_not_returned hdisjoint hnot, applied_of_returned hother, ← hkey]
      intro hsame
      have hstored := TenantPolicyRepository.get?_setPolicy world.repository
        (contextPolicy.modelCopy (calls.requests turn.caller).update)
      rw [TenantAiPolicy.tenantId_modelCopy] at hstored
      rw [hstored, Option.some.injEq,
        TenantAiPolicy.modelCopy_eq_iff (hdisjoint.other turn.caller)] at hsame
      rw [expected_of_not_returned hdisjoint hnot, applied_of_returned hother] at hread
      exact hread hsame.symm

end

/-! ## All turns -/

theorem expected_of_waiting {previous : TenantAiPolicy}
    (h : ∀ caller, world.phase caller = .waiting) : world.expected calls previous = previous := by
  simp [expected, applied, h]

/-- From an ordered world: the two updates end up stored exactly if all writes were fresh. -/
theorem stored_expected_iff {tenantId : String} {previous : TenantAiPolicy}
    (h : InOrder calls tenantId previous world)
    (hdisjoint : DisjointPatches calls)
    (htenant : ∀ caller, (calls.requests caller).user.tenantId = tenantId)
    (hprevious : previous.tenantId = tenantId) (turns : List AiSettingsTurn)
    (hreturned : ∀ caller, (Runs.run (step calls) world turns).Returned caller) :
    (Runs.run (step calls) world turns).repository.policies.get? tenantId =
        some ((Runs.run (step calls) world turns).expected calls previous) ↔
      Runs.Guarded (step calls) (FreshWrite calls) world turns := by
  induction turns generalizing world with
  | nil => simp [h.stored]
  | cons turn turns ih =>
    rw [Runs.run_cons] at hreturned ⊢
    -- who has failed does not return any more
    have hlive : ∀ caller, ¬ (step calls world turn).Failed caller := by
      rintro caller ⟨error, hfailed⟩
      obtain ⟨response, hend⟩ := hreturned caller
      rw [phase_run_of_ended (.inr ⟨error, hfailed⟩), hfailed] at hend
      cases hend
    rw [Runs.guarded_cons]
    by_cases hfresh : FreshWrite calls world turn
    · rw [ih (h.step hdisjoint htenant hprevious hfresh hlive) hreturned]
      exact (and_iff_right hfresh).symm
    · -- a write that is not fresh ends both calls, and one of the updates is lost
      obtain ⟨hboth, hlost⟩ := h.step_of_stale hdisjoint hprevious hfresh hlive
      rw [run_of_ended (fun caller => .inl (hboth caller))]
      exact iff_of_false hlost fun hguarded => hfresh hguarded.1

/-- Two requests of one tenant that return, and set disjoint fields: the stored
policy carries both updates, and nothing else, exactly if every write found the
policy that its request had read. -/
theorem both_updates_kept_iff {tenantId : String} {previous : TenantAiPolicy}
    {start : AiSettingsWorld} (hstart : ∀ caller, start.phase caller = .waiting)
    (hstored : start.repository.policies.get? tenantId = some previous)
    (htenant : ∀ caller, (calls.requests caller).user.tenantId = tenantId)
    (hdisjoint : DisjointPatches calls) (turns : List AiSettingsTurn)
    (hreturned : ∀ caller, (Runs.run (step calls) start turns).Returned caller) :
    (∃ stored, (Runs.run (step calls) start turns).repository.policies.get? tenantId =
          some stored ∧
        previous.Carries (calls.requests .first).update (calls.requests .second).update stored) ↔
      Runs.Guarded (step calls) (FreshWrite calls) start turns := by
  have hordered : InOrder calls tenantId previous start := by
    constructor
    · rw [expected_of_waiting hstart, hstored]
    · intro caller contextPolicy hphase
      rw [hstart] at hphase
      cases hphase
  rw [← stored_expected_iff hordered hdisjoint htenant (start.repository.keyed _ _ hstored) turns
    hreturned, expected, applied_of_returned (hreturned .first),
    applied_of_returned (hreturned .second)]
  simp [TenantAiPolicy.carries_iff hdisjoint]

/-! ## One run without and one with a lost update -/

/-- A tenant without any AI. -/
def samplePreviousPolicy : TenantAiPolicy where
  tenantId := "tenant-a"
  settings
    | .allowedModelIds => some []
    | .aiEnabled | .ragEnabled | .voiceEnabled | .externalAiEnabled | .rawAudioStorageAllowed =>
      some false

def samplePolicyRepository : TenantPolicyRepository where
  policies := ⟨[("tenant-a", samplePreviousPolicy)], List.nodup_singleton _⟩
  keyed := by
    intro tenantId policy h
    rw [← Dict.mem_items, List.mem_singleton, Prod.mk.injEq] at h
    rw [h.1, h.2]
    rfl

/-- The one request switches RAG on, the other one voice. -/
def samplePatches : AiSettingsCalls where
  modelRegistry := ∅
  requests
    | .first =>
      { user := { userId := "admin-1", tenantId := "tenant-a", roleIds := ["tenant-admin"] }
        update := ⟨fun
          | .ragEnabled => some (some true)
          | .aiEnabled | .voiceEnabled | .externalAiEnabled | .rawAudioStorageAllowed
          | .allowedModelIds => none⟩ }
    | .second =>
      { user := { userId := "admin-2", tenantId := "tenant-a", roleIds := ["tenant-admin"] }
        update := ⟨fun
          | .voiceEnabled => some (some true)
          | .aiEnabled | .ragEnabled | .externalAiEnabled | .rawAudioStorageAllowed
          | .allowedModelIds => none⟩ }

def sampleAiSettingsStart : AiSettingsWorld where
  repository := samplePolicyRepository
  phase := fun _ => .waiting

def sampleTurns (callers : List PatchCaller) : List AiSettingsTurn := callers.map (⟨·, .ok ()⟩)

theorem samplePatches_disjoint : DisjointPatches samplePatches := by
  intro field
  cases field <;> decide

theorem samplePatches_tenantId (caller : PatchCaller) :
    (samplePatches.requests caller).user.tenantId = "tenant-a" := by
  cases caller <;> rfl

/-- One request after the other: the equivalence at a run that keeps both updates. -/
theorem sample_both_updates_kept_iff :
    (∃ stored, (Runs.run (step samplePatches) sampleAiSettingsStart
          (sampleTurns [.first, .first, .second, .second])).repository.policies.get? "tenant-a" =
          some stored ∧
        samplePreviousPolicy.Carries (samplePatches.requests .first).update
          (samplePatches.requests .second).update stored) ↔
      Runs.Guarded (step samplePatches) (FreshWrite samplePatches) sampleAiSettingsStart
        (sampleTurns [.first, .first, .second, .second]) :=
  both_updates_kept_iff (fun _ => rfl) rfl samplePatches_tenantId samplePatches_disjoint _
    (by intro caller; cases caller <;> exact ⟨_, rfl⟩)

/-- Both requests read the policy before either writes it: both return, and the
first one's update is gone. -/
theorem concurrent_patches_lose_update :
    let turns := sampleTurns [.first, .second, .first, .second]
    DisjointPatches samplePatches ∧
      (∀ caller, (Runs.run (step samplePatches) sampleAiSettingsStart turns).Returned caller) ∧
      ¬ ∃ stored, (Runs.run (step samplePatches) sampleAiSettingsStart
            turns).repository.policies.get? "tenant-a" = some stored ∧
          samplePreviousPolicy.Carries (samplePatches.requests .first).update
            (samplePatches.requests .second).update stored := by
  refine ⟨samplePatches_disjoint, by intro caller; cases caller <;> exact ⟨_, rfl⟩, ?_⟩
  rintro ⟨stored, hstored, hcarries⟩
  have hrag := hcarries.ofFirst .ragEnabled (some true) rfl
  have hread : some (stored.settings .ragEnabled) = some (some false) :=
    congrArg (Option.map fun policy : TenantAiPolicy => policy.settings .ragEnabled) hstored.symm
  rw [hrag] at hread
  cases hread

end AiSettingsWorld

end Collabio
