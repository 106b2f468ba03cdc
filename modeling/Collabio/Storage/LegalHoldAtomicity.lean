import Mathlib.Tactic
import Collabio.Storage.LegalHoldRuns

/-!
# Legal hold operations that raise

`LegalHoldService` stores the new version of an object before it builds the retention manifest
of that version. Where the retention policy does not cover the version, the operation raises
and the version stays; a second try finds its id taken.

* `storeTransition_clean_iff` — when a transition that raises changes nothing;
* `hold_atomic_iff`           — the same of both operations, on any repository.
-/

namespace Collabio

variable {H : HashFunctions}

namespace LegalHoldService

variable {service : LegalHoldService} {repository : InMemorySourceObjectRepository}

/-- An operation that raises leaves the repository as it was. -/
def Clean (repository : InMemorySourceObjectRepository)
    (operation : Eff Exn InMemorySourceObjectRepository LegalHoldDecision) : Prop :=
  ∀ exn repository', operation repository = (.error exn, repository') → repository' = repository

/-- The version passes the write guard, and its key is free. -/
structure Storable (H : HashFunctions) (repository : InMemorySourceObjectRepository)
    (copied : SourceObjectRecord) : Prop where
  writable : SourceObjectWriteGuard.validateBeforeWrite H copied = .ok ()
  free     : repository.records.get? copied.metadata.versionKey = none

/-- The rest of a transition once the copy is made: store it, then build its manifest. -/
theorem storeTransition_of_copied {action : LegalHoldAction} {record copied : SourceObjectRecord}
    {command : LegalHoldCommandBase} {legalHoldState : LegalHoldState} {retentionPolicyId : String}
    (hcopied : copyWithMetadata H record command legalHoldState retentionPolicyId = .ok copied) :
    service.storeTransition H action record command legalHoldState retentionPolicyId repository =
      (InMemorySourceObjectRepository.add H copied >>= fun _ =>
        Eff.lift (buildRetentionManifest H copied service.retentionPolicy) >>= fun manifest =>
          pure (decision action command copied manifest)) repository := by
  unfold storeTransition
  rw [Eff.lift_bind_apply, hcopied]

/-- A copy that is stored stays when its manifest cannot be built. -/
theorem stored_of_not_covered {action : LegalHoldAction} {record copied : SourceObjectRecord}
    {command : LegalHoldCommandBase} {legalHoldState : LegalHoldState} {retentionPolicyId : String}
    (hcopied : copyWithMetadata H record command legalHoldState retentionPolicyId = .ok copied)
    (hstorable : Storable H repository copied)
    (hnot : ¬ service.retentionPolicy.Covers copied) :
    ∃ exn, service.storeTransition H action record command legalHoldState retentionPolicyId
      repository = (.error exn, repository.insert copied hstorable.free) := by
  have hadd : InMemorySourceObjectRepository.add H copied repository =
      (.ok (), repository.insert copied hstorable.free) :=
    InMemorySourceObjectRepository.add_eq_ok.mpr ⟨hstorable.writable, hstorable.free, rfl⟩
  rw [storeTransition_of_copied hcopied, Eff.bind_of_ok hadd, Eff.lift_bind_apply]
  cases hmanifest : buildRetentionManifest H copied service.retentionPolicy with
  | error exn => exact ⟨exn, rfl⟩
  | ok manifest =>
    exact absurd ((buildRetentionManifest_isOk_iff H service.policy_valid).mp
      ⟨manifest, hmanifest⟩) hnot

theorem insert_ne {copied : SourceObjectRecord}
    (fresh : repository.records.get? copied.metadata.versionKey = none) :
    repository.insert copied fresh ≠ repository := by
  intro hsame
  have hget := congrArg (fun r : InMemorySourceObjectRepository =>
    r.records.get? copied.metadata.versionKey) hsame
  rw [InMemorySourceObjectRepository.get?_insert, if_pos rfl, fresh] at hget
  cases hget

/-- **A transition** that raises changes nothing, exactly if the copy that it would store is
covered by the retention policy. -/
theorem storeTransition_clean_iff {action : LegalHoldAction} {record : SourceObjectRecord}
    {command : LegalHoldCommandBase} {legalHoldState : LegalHoldState}
    {retentionPolicyId : String} :
    Clean repository (service.storeTransition H action record command legalHoldState
      retentionPolicyId) ↔
    ∀ copied, copyWithMetadata H record command legalHoldState retentionPolicyId = .ok copied →
      Storable H repository copied → service.retentionPolicy.Covers copied := by
  constructor
  · intro hclean copied hcopied hstorable
    -- a copy that is not covered is stored, and then its manifest raises
    by_contra hnot
    obtain ⟨exn, hraised⟩ := @stored_of_not_covered H service repository action record copied
      command legalHoldState retentionPolicyId hcopied hstorable hnot
    exact insert_ne hstorable.free (hclean exn _ hraised)
  · intro hcovers exn repository' h
    cases hcopied : copyWithMetadata H record command legalHoldState retentionPolicyId with
    | error raised =>
      unfold storeTransition at h
      rw [Eff.lift_bind_apply, hcopied] at h
      exact (congrArg Prod.snd h).symm
    | ok copied =>
      rw [storeTransition_of_copied hcopied] at h
      rcases hadd : InMemorySourceObjectRepository.add H copied repository with
        ⟨raised | ⟨⟩, stored⟩
      · -- what could not be added is not there
        rw [Eff.bind_of_error hadd] at h
        have hstored := InMemorySourceObjectRepository.add_of_error hadd
        exact (congrArg Prod.snd h).symm.trans hstored
      · -- the copy is stored, so its manifest is built and nothing raises
        obtain ⟨hwritable, hfree, -⟩ := InMemorySourceObjectRepository.add_eq_ok.mp hadd
        obtain ⟨manifest, hmanifest⟩ := (buildRetentionManifest_isOk_iff H
          service.policy_valid).mpr (hcovers copied hcopied ⟨hwritable, hfree⟩)
        rw [Eff.bind_of_ok hadd, Eff.lift_bind_apply, hmanifest] at h
        cases h

/-! ## Both operations -/

def perform (H : HashFunctions) (service : LegalHoldService) :
    LegalHoldCommand → Eff Exn InMemorySourceObjectRepository LegalHoldDecision
  | .place command => service.placeHold H command
  | .release command => service.releaseHold H command

/-- The version that a command makes of the one it names, if that is not on hold, or is. -/
def MakesVersion (H : HashFunctions) (repository : InMemorySourceObjectRepository)
    (copied : SourceObjectRecord) : LegalHoldCommand → Prop
  | .place command => ∃ record,
    repository.get command.tenantId command.objectId command.sourceVersionId = .ok record ∧
      record.metadata.legalHoldState ≠ .active ∧
      copyWithMetadata H record command.toLegalHoldCommandBase .active
        record.metadata.retentionPolicyId = .ok copied
  | .release command => ∃ record,
    repository.get command.tenantId command.objectId command.sourceVersionId = .ok record ∧
      record.metadata.legalHoldState = .active ∧
      copyWithMetadata H record command.toLegalHoldCommandBase .none
        command.nextRetentionPolicyId = .ok copied

/-- What both operations do before the transition changes nothing. -/
theorem clean_of_checks {tenantId objectId versionId : String} {P : SourceObjectRecord → Prop}
    [DecidablePred P] {exn : Exn}
    {rest : SourceObjectRecord → Eff Exn InMemorySourceObjectRepository LegalHoldDecision} :
    Clean repository (do
      let repository ← Eff.get
      let record ← Eff.lift (repository.get tenantId objectId versionId)
      Eff.lift (require (P record) exn)
      rest record) ↔
    ∀ record, repository.get tenantId objectId versionId = .ok record → P record →
      Clean repository (rest record) := by
  unfold Clean
  -- the repository is only read before the transition
  rw [Eff.bind_of_ok (Eff.get_apply _), Eff.lift_bind_apply]
  cases hget : repository.get tenantId objectId versionId with
  | error raised =>
    refine iff_of_true ?_ fun record h => ?_
    · intro exn' repository' h
      exact (congrArg Prod.snd h).symm
    · cases h
  | ok record =>
    dsimp only
    rw [Eff.lift_bind_apply]
    by_cases hP : P record
    · rw [require_of _ hP]
      constructor
      · intro h other hother _
        cases hother
        exact h
      · exact fun h => h record rfl hP
    · rw [require_of_not _ hP]
      refine iff_of_true ?_ fun other hother hother' => ?_
      · intro exn' repository' h
        exact (congrArg Prod.snd h).symm
      · cases hother
        exact absurd hother' hP

/-- **A legal hold operation is atomic** exactly if the retention policy covers the version
that it would store. -/
theorem hold_atomic_iff (command : LegalHoldCommand) :
    Clean repository (service.perform H command) ↔
      ∀ copied, MakesVersion H repository copied command → Storable H repository copied →
        service.retentionPolicy.Covers copied := by
  cases command with
  | place command =>
    refine clean_of_checks.trans ?_
    simp only [storeTransition_clean_iff]
    constructor
    · rintro h copied ⟨record, hget, hoff, hcopied⟩
      exact h record hget hoff copied hcopied
    · exact fun h record hget hoff copied hcopied => h copied ⟨record, hget, hoff, hcopied⟩
  | release command =>
    refine clean_of_checks.trans ?_
    simp only [storeTransition_clean_iff]
    constructor
    · rintro h copied ⟨record, hget, hon, hcopied⟩
      exact h record hget hon copied hcopied
    · exact fun h record hget hon copied hcopied => h copied ⟨record, hget, hon, hcopied⟩

/-! ## A policy that allows no holds -/

/-- The samples' policies, with no legal hold on office documents. -/
def noHoldPolicySet : RetentionManifestPolicy where
  schemaVersion := "retention_policy.v1"
  owner := "records"
  policyDefaults := [
    { samplePolicyDefault "office" .internal (some 365) false with legalHoldAllowed := false },
    samplePolicyDefault "books" .gobd (some 3650) true,
    samplePolicyDefault "index" .ragChunk none false]

def noHoldService : LegalHoldService := ⟨noHoldPolicySet, by decide +kernel⟩

/-- The hold is refused, and the held version is in the repository. -/
theorem refused_hold_is_stored :
    ¬ Clean (InMemorySourceObjectRepository.loaded default [sampleRecord "doc-1"])
      (noHoldService.perform default (.place (samplePlace "v2" "first"))) := by
  have hall : (InMemorySourceObjectRepository.loaded default
      [sampleRecord "doc-1"]).AllAccepted default :=
    InMemorySourceObjectRepository.loaded_accepted [sampleRecord "doc-1"]
  -- the record is there, is not on hold, and may be held under a new version
  have hget := @get?_loaded_sampleRecord "doc-1" (by simp) ("acme", "doc-1", "v1")
  rw [if_pos rfl] at hget
  have hrecord := hall _ _ hget
  have hcommand := PlaceLegalHoldCommand.accepted_of_validate sampleCommands_valid.1
  have hallowed : DraftAllowed (sampleRecord "doc-1") (sampleBase "v1" "v2" "first") .active := by
    have hstate : (sampleRecord "doc-1").metadata.lifecycleState = .working := rfl
    simp [DraftAllowed, hstate]
  have hstrip : Text.strip "office" = "office" := by decide +kernel
  have hstorable : Storable default (InMemorySourceObjectRepository.loaded default
      [sampleRecord "doc-1"]) (sampleHeld "v2" "first") := by
    refine ⟨validateBeforeWrite_copyOf hrecord hstrip (by decide), ?_⟩
    rw [sampleHeld_versionKey, get?_loaded_sampleRecord (by simp), if_neg (by decide)]
  -- the policy set allows no hold, so that it does not cover the copy
  have hnot : ¬ noHoldService.retentionPolicy.Covers (sampleHeld "v2" "first") := by
    rintro ⟨policy, retainFrom, hpolicy, -, -, hhold, -⟩
    have hfind : noHoldPolicySet.policy "office" = .ok { samplePolicyDefault "office" .internal
      (some 365) false with legalHoldAllowed := false } := by decide
    cases hfind.symm.trans hpolicy
    cases hhold rfl
  have hcopied : copyWithMetadata default (sampleRecord "doc-1")
      (samplePlace "v2" "first").toLegalHoldCommandBase .active "office" =
        .ok (sampleHeld "v2" "first") :=
    (copyWithMetadata_eq_ok hrecord hcommand hstrip (by decide)).mpr ⟨hallowed, rfl⟩
  intro hclean
  have hrest := clean_of_checks.mp hclean (sampleRecord "doc-1")
    (InMemorySourceObjectRepository.get_eq_ok.mpr hget) (fun hactive => by cases hactive)
  obtain ⟨exn, hraised⟩ := stored_of_not_covered hcopied hstorable hnot
  exact insert_ne hstorable.free (hrest exn _ hraised)

end LegalHoldService

end Collabio
