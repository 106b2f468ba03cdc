import Mathlib.Tactic
import Collabio.Storage.LegalHold
import Collabio.Storage.SourceObjectsSpec

/-!
# Legal holds over whole runs

A run is any sequence of place and release commands, those that raise included.
The system's state is the repository and, as a record of the past that the code
itself does not keep, the holds that were placed and not yet released.

* `storeTransition_spec`  — a transition stores one copy or changes nothing, and
  what it stored stays when its manifest cannot be built;
* `holds_protect_iff`     — every open hold keeps the latest version of its object
  on hold, exactly as long as no release lifts the hold of another.
-/

namespace Collabio

variable {H : HashFunctions}

/-! ## Commands that were accepted -/

/-- The base fields of an accepted command. -/
structure LegalHoldCommandBase.Accepted (command : LegalHoldCommandBase) : Prop where
  stripped : command.normalized = command
  fields   : command.errors = []

theorem LegalHoldCommandBase.errors_eq_nil {command : LegalHoldCommandBase} :
    command.errors = [] ↔
      command.tenantId ≠ "" ∧ command.objectId ≠ "" ∧ command.sourceVersionId ≠ "" ∧
      command.newVersionId ≠ "" ∧ command.holdId ≠ "" ∧ command.matterId ≠ "" ∧
      command.requestedBy ≠ "" ∧ command.approvedBy ≠ "" ∧
      isNamespacedRef command.auditChainRef = true ∧
      isUtcTimestamp command.occurredAtUtc = true := by
  simp [errors]

@[simp] theorem LegalHoldCommandBase.normalized_normalized (command : LegalHoldCommandBase) :
    command.normalized.normalized = command.normalized := by
  simp [normalized]

theorem PlaceLegalHoldCommand.accepted_of_validate {raw command : PlaceLegalHoldCommand}
    (h : raw.validate = .ok command) : command.toLegalHoldCommandBase.Accepted := by
  obtain ⟨_, haccept, h⟩ := Except.bind_eq_ok.mp h
  obtain ⟨herrors, rfl⟩ := accept_eq_ok.mp haccept
  obtain ⟨-, h⟩ := require_bind_eq_ok.mp h
  cases h
  exact ⟨by simp [normalized], (List.append_eq_nil_iff.mp herrors).1⟩

theorem ReleaseLegalHoldCommand.accepted_of_validate {raw command : ReleaseLegalHoldCommand}
    (h : raw.validate = .ok command) :
    command.toLegalHoldCommandBase.Accepted ∧
      Text.strip command.nextRetentionPolicyId = command.nextRetentionPolicyId ∧
      command.nextRetentionPolicyId ≠ "" := by
  obtain ⟨_, haccept, h⟩ := Except.bind_eq_ok.mp h
  obtain ⟨herrors, rfl⟩ := accept_eq_ok.mp haccept
  obtain ⟨-, h⟩ := require_bind_eq_ok.mp h
  cases h
  rw [List.append_eq_nil_iff, List.append_eq_nil_iff] at herrors
  exact ⟨⟨by simp [normalized], herrors.1.1⟩, by simp [normalized],
    requireNonEmpty_eq_nil.mp herrors.2⟩

/-! ## Copies -/

namespace LegalHoldService

/-- The record a transition means to store. -/
def copyOf (H : HashFunctions) (record : SourceObjectRecord) (command : LegalHoldCommandBase)
    (legalHoldState : LegalHoldState) (retentionPolicyId : String) : SourceObjectRecord :=
  { record with
    metadata := (draftMetadata record.metadata command legalHoldState
      retentionPolicyId).withManifestHash H }

/-- The checks of the metadata model that a transition can fail. -/
def DraftAllowed (record : SourceObjectRecord) (command : LegalHoldCommandBase)
    (legalHoldState : LegalHoldState) : Prop :=
  ¬ (legalHoldState = .active ∧
      (record.metadata.lifecycleState = .deleted ∨
        record.metadata.lifecycleState = .cryptoshredded)) ∧
    ¬ (record.metadata.lifecycleState = .wormEvidence ∧ command.auditChainRef = "audit:none")

/-- The draft of an accepted record is normalised already, and only the rules on
hold and audit reference can reject it. -/
theorem validate_draftMetadata {record : SourceObjectRecord} {command : LegalHoldCommandBase}
    {legalHoldState : LegalHoldState} {retentionPolicyId : String}
    (hrecord : record.Accepted H) (hcommand : command.Accepted)
    (hstrip : Text.strip retentionPolicyId = retentionPolicyId) (hne : retentionPolicyId ≠ "")
    {accepted : SourceObjectMetadata} :
    (draftMetadata record.metadata command legalHoldState retentionPolicyId).validate =
        .ok accepted ↔
      DraftAllowed record command legalHoldState ∧
        accepted = draftMetadata record.metadata command legalHoldState retentionPolicyId := by
  obtain ⟨hnormal, herrors, hrules⟩ := SourceObjectMetadata.validate_self.mp hrecord.draft
  obtain ⟨-, -, -, hversion, -, -, -, -, haudit, htime⟩ :=
    LegalHoldCommandBase.errors_eq_nil.mp hcommand.fields
  -- the command was stripped when it was accepted
  have hstripped := hcommand.stripped
  simp only [LegalHoldCommandBase.normalized, LegalHoldCommandBase.ext_iff] at hstripped
  obtain ⟨-, -, -, hversionStrip, -, -, -, -, hauditStrip, htimeStrip⟩ := hstripped
  have hself : (draftMetadata record.metadata command legalHoldState retentionPolicyId).normalized =
      draftMetadata record.metadata command legalHoldState retentionPolicyId := by
    change { record.metadata.unhashed.normalized with
      versionId := Text.strip command.newVersionId
      updatedAtUtc := Text.strip command.occurredAtUtc
      retentionPolicyId := Text.strip retentionPolicyId
      legalHoldState := legalHoldState
      auditChainRef := Text.strip command.auditChainRef } = _
    rw [hnormal, hversionStrip, htimeStrip, hstrip, hauditStrip]
    rfl
  have hfields : (draftMetadata record.metadata command legalHoldState retentionPolicyId).errors =
      [] := by
    obtain ⟨h1, h2, -, h4, h5, h6, h7, -, -, h10, h11, -, hrest⟩ :=
      SourceObjectMetadata.errors_eq_nil.mp herrors
    exact SourceObjectMetadata.errors_eq_nil.mpr
      ⟨h1, h2, hversion, h4, h5, h6, h7, htime, hne, h10, h11, haudit, hrest⟩
  -- parent and mail rules are about what the draft leaves as it is
  obtain ⟨hparent, hmail, -, -⟩ := SourceObjectMetadata.enforceSourceObjectRules_eq_ok.mp hrules
  rw [SourceObjectMetadata.validate_eq_ok, hself, hfields,
    SourceObjectMetadata.enforceSourceObjectRules_eq_ok]
  constructor
  · rintro ⟨-, ⟨-, -, hactive, hworm⟩, rfl⟩
    exact ⟨⟨hactive, hworm⟩, rfl⟩
  · rintro ⟨⟨hactive, hworm⟩, rfl⟩
    exact ⟨rfl, ⟨hparent, hmail, hactive, hworm⟩, rfl⟩

/-- Copying an accepted record. -/
theorem copyWithMetadata_eq_ok {record copied : SourceObjectRecord}
    {command : LegalHoldCommandBase} {legalHoldState : LegalHoldState}
    {retentionPolicyId : String} (hrecord : record.Accepted H) (hcommand : command.Accepted)
    (hstrip : Text.strip retentionPolicyId = retentionPolicyId) (hne : retentionPolicyId ≠ "") :
    copyWithMetadata H record command legalHoldState retentionPolicyId = .ok copied ↔
      DraftAllowed record command legalHoldState ∧
        copied = copyOf H record command legalHoldState retentionPolicyId := by
  have hcontent := SourceObjectRecord.validate_eq_ok.mp hrecord.content
  unfold copyWithMetadata
  constructor
  · intro h
    obtain ⟨draft, hdraft, h⟩ := Except.bind_eq_ok.mp h
    obtain ⟨hallowed, rfl⟩ := (validate_draftMetadata hrecord hcommand hstrip hne).mp hdraft
    obtain ⟨-, -, rfl⟩ := SourceObjectRecord.validate_eq_ok.mp h
    exact ⟨hallowed, rfl⟩
  · rintro ⟨hallowed, rfl⟩
    refine Except.bind_eq_ok.mpr
      ⟨_, (validate_draftMetadata hrecord hcommand hstrip hne).mpr ⟨hallowed, rfl⟩, ?_⟩
    exact SourceObjectRecord.validate_eq_ok.mpr ⟨hcontent.1, hcontent.2.1, rfl⟩

/-- The write guard lets every copy of an accepted record pass: what it checks
besides the hash is unchanged, and the hash was just computed. -/
theorem validateBeforeWrite_copyOf {record : SourceObjectRecord}
    {command : LegalHoldCommandBase} {legalHoldState : LegalHoldState}
    {retentionPolicyId : String} (hrecord : record.Accepted H)
    (hstrip : Text.strip retentionPolicyId = retentionPolicyId) (hne : retentionPolicyId ≠ "") :
    SourceObjectWriteGuard.validateBeforeWrite H
      (copyOf H record command legalHoldState retentionPolicyId) = .ok () := by
  -- KMS reference and content are those of the record, which was writable
  obtain ⟨_, hmetadata, h⟩ := Except.bind_eq_ok.mp hrecord.writable
  obtain ⟨_, hkms, h⟩ := Except.bind_eq_ok.mp h
  obtain ⟨_, hcontent, -⟩ := Except.bind_eq_ok.mp h
  obtain ⟨htenant, hclass, -, hkey, -, hhash⟩ :=
    SourceObjectWriteGuard.requireWriteMetadata_eq_ok.mp hmetadata
  have hwrite : SourceObjectWriteGuard.requireWriteMetadata
      (copyOf H record command legalHoldState retentionPolicyId).metadata = .ok () :=
    SourceObjectWriteGuard.requireWriteMetadata_eq_ok.mpr
      ⟨htenant, hclass, by rw [← hstrip] at hne; exact hne, hkey, strip_hashJson_ne_empty _, hhash⟩
  have hmanifest : SourceObjectWriteGuard.requireManifestHashMatch H
      (copyOf H record command legalHoldState retentionPolicyId).metadata = .ok () :=
    require_eq_ok.mpr (buildSourceObjectManifestHash_withManifestHash _).symm
  have hsameKms : SourceObjectWriteGuard.requireKmsReference
      (copyOf H record command legalHoldState retentionPolicyId).metadata =
      SourceObjectWriteGuard.requireKmsReference record.metadata :=
    SourceObjectWriteGuard.requireKmsReference_congr rfl rfl rfl
  have hsameContent : SourceObjectWriteGuard.requireContentHashMatch H
      (copyOf H record command legalHoldState retentionPolicyId) =
      SourceObjectWriteGuard.requireContentHashMatch H record := by
    simp only [SourceObjectWriteGuard.requireContentHashMatch, sourceObjectContentBytes, copyOf,
      draftMetadata, SourceObjectMetadata.withManifestHash]
  rw [SourceObjectWriteGuard.validateBeforeWrite, hwrite, hsameKms, hkms, hsameContent, hcontent,
    hmanifest]
  rfl

/-! ## Transitions -/

/-- The copy an accepted transition stores is accepted. -/
theorem accepted_copyOf {record : SourceObjectRecord} {command : LegalHoldCommandBase}
    {legalHoldState : LegalHoldState} {retentionPolicyId : String}
    (hrecord : record.Accepted H) (hcommand : command.Accepted)
    (hstrip : Text.strip retentionPolicyId = retentionPolicyId) (hne : retentionPolicyId ≠ "")
    (hallowed : DraftAllowed record command legalHoldState) :
    (copyOf H record command legalHoldState retentionPolicyId).Accepted H := by
  have hcontent := SourceObjectRecord.validate_eq_ok.mp hrecord.content
  refine ⟨?_, SourceObjectRecord.validate_eq_ok.mpr ⟨hcontent.1, hcontent.2.1, rfl⟩,
    validateBeforeWrite_copyOf hrecord hstrip hne⟩
  exact (validate_draftMetadata hrecord hcommand hstrip hne).mpr ⟨hallowed, rfl⟩

/-- **A transition** of an accepted record stores its copy when the draft is
allowed and the version is new, and changes nothing otherwise. Once the copy is
stored it stays, whether or not its retention manifest can be built. -/
theorem storeTransition_spec {service : LegalHoldService} {action : LegalHoldAction}
    {record : SourceObjectRecord} {command : LegalHoldCommandBase}
    {legalHoldState : LegalHoldState} {retentionPolicyId : String}
    {repository repository' : InMemorySourceObjectRepository}
    {result : Except Exn LegalHoldDecision}
    (hrecord : record.Accepted H) (hcommand : command.Accepted)
    (hstrip : Text.strip retentionPolicyId = retentionPolicyId) (hne : retentionPolicyId ≠ "")
    (h : service.storeTransition H action record command legalHoldState retentionPolicyId
      repository = (result, repository')) :
    (repository' = repository ∧ (∃ exn, result = .error exn) ∧
      ¬ (DraftAllowed record command legalHoldState ∧
        repository.records.get? (record.metadata.tenantId, record.metadata.objectId,
          command.newVersionId) = none)) ∨
    (DraftAllowed record command legalHoldState ∧
      (∃ fresh, repository' = repository.insert
        (copyOf H record command legalHoldState retentionPolicyId) fresh) ∧
      ((∃ made, result = .ok made) ↔ service.retentionPolicy.Covers
        (copyOf H record command legalHoldState retentionPolicyId))) := by
  unfold storeTransition at h
  rw [Eff.lift_bind_apply] at h
  split at h
  · rename_i copied hcopied
    obtain ⟨hallowed, rfl⟩ := (copyWithMetadata_eq_ok hrecord hcommand hstrip hne).mp hcopied
    -- the copy is new, or the repository refuses it
    rcases hadd : InMemorySourceObjectRepository.add H
      (copyOf H record command legalHoldState retentionPolicyId) repository with ⟨exn | _, stored⟩
    · rw [Eff.bind_of_error hadd] at h
      cases h
      left
      refine ⟨InMemorySourceObjectRepository.add_of_error hadd, ⟨exn, rfl⟩, ?_⟩
      rintro ⟨-, hfresh⟩
      have hstored := InMemorySourceObjectRepository.add_eq_ok.mpr
        ⟨@validateBeforeWrite_copyOf _ _ command legalHoldState _ hrecord hstrip hne, hfresh, rfl⟩
      rw [hadd] at hstored
      cases hstored
    · rw [Eff.bind_of_ok hadd, Eff.lift_bind_apply] at h
      obtain ⟨-, fresh, rfl⟩ := InMemorySourceObjectRepository.add_eq_ok.mp hadd
      right
      -- the copy stays, whatever becomes of the manifest
      rw [← buildRetentionManifest_isOk_iff H service.policy_valid]
      split at h
      · rename_i manifest hmanifest
        cases h
        exact ⟨hallowed, ⟨fresh, rfl⟩, fun _ => ⟨manifest, hmanifest⟩, fun _ => ⟨_, rfl⟩⟩
      · rename_i exn hmanifest
        cases h
        refine ⟨hallowed, ⟨fresh, rfl⟩, ?_, ?_⟩
        · rintro ⟨_, hok⟩
          cases hok
        · rintro ⟨manifest, hok⟩
          rw [hmanifest] at hok
          cases hok
  · rename_i exn hcopied
    -- no copy is made, so that the draft was not allowed
    cases h
    left
    refine ⟨rfl, ⟨exn, rfl⟩, ?_⟩
    rintro ⟨hallowed, -⟩
    have hok := (copyWithMetadata_eq_ok hrecord hcommand hstrip hne).mpr ⟨hallowed, rfl⟩
    rw [hcopied] at hok
    cases hok

end LegalHoldService

/-! ## The system -/

inductive LegalHoldCommand where
  | place (command : PlaceLegalHoldCommand)
  | release (command : ReleaseLegalHoldCommand)

/-- The repository, and the holds that were placed on each object and not yet released. -/
structure HoldHistory where
  repository : InMemorySourceObjectRepository
  openHolds  : Finset (ObjectKey × String)

def LegalHoldCommandBase.objectKey (command : LegalHoldCommandBase) : ObjectKey :=
  (command.tenantId, command.objectId)

/-- The hold a command names. -/
def LegalHoldCommandBase.hold (command : LegalHoldCommandBase) : ObjectKey × String :=
  (command.objectKey, command.holdId)

namespace LegalHoldService

/-- One command: its model is built first, and a call that raises leaves what it
had stored. -/
def step (H : HashFunctions) (service : LegalHoldService) (s : HoldHistory) :
    LegalHoldCommand → HoldHistory
  | .place raw =>
    match raw.validate with
    | .error _ => s
    | .ok command =>
      match service.placeHold H command s.repository with
      | (.ok _, repository) => ⟨repository, insert command.hold s.openHolds⟩
      | (.error _, repository) => ⟨repository, s.openHolds⟩
  | .release raw =>
    match raw.validate with
    | .error _ => s
    | .ok command =>
      match service.releaseHold H command s.repository with
      | (.ok _, repository) => ⟨repository, s.openHolds.erase command.hold⟩
      | (.error _, repository) => ⟨repository, s.openHolds⟩

end LegalHoldService

/-- The latest record of an object is under active hold. -/
def InMemorySourceObjectRepository.OnHold (repository : InMemorySourceObjectRepository)
    (object : ObjectKey) : Prop :=
  ∃ record, repository.latest object.1 object.2 = .ok record ∧
    record.metadata.legalHoldState = .active

/-- Every open hold protects its object. -/
def HoldHistory.Protected (s : HoldHistory) : Prop :=
  ∀ hold ∈ s.openHolds, s.repository.OnHold hold.1

/-! ## What one command does to the holds -/

theorem InMemorySourceObjectRepository.onHold_insert {repository : InMemorySourceObjectRepository}
    {record : SourceObjectRecord}
    (fresh : repository.records.get? record.metadata.versionKey = none) (object : ObjectKey) :
    (repository.insert record fresh).OnHold object ↔
      if object = record.metadata.objectKey then record.metadata.legalHoldState = .active
      else repository.OnHold object := by
  split_ifs with hobject
  · subst hobject
    unfold OnHold
    rw [show (repository.insert record fresh).latest record.metadata.objectKey.1
      record.metadata.objectKey.2 = .ok record from latest_insert_self fresh]
    constructor
    · rintro ⟨found, hfound, hactive⟩
      cases hfound
      exact hactive
    · exact fun hactive => ⟨record, rfl, hactive⟩
  · unfold OnHold
    rw [@latest_insert_of_ne _ _ fresh object.1 object.2 hobject]

namespace LegalHoldService

variable {service : LegalHoldService}

/-- The transition of a command whose source version was found. -/
theorem objectKey_copyOf {repository : InMemorySourceObjectRepository}
    {record : SourceObjectRecord} {command : LegalHoldCommandBase}
    (hget : repository.get command.tenantId command.objectId command.sourceVersionId = .ok record)
    (legalHoldState : LegalHoldState) (retentionPolicyId : String) :
    record.metadata.tenantId = command.tenantId ∧ record.metadata.objectId = command.objectId ∧
      (copyOf H record command legalHoldState retentionPolicyId).metadata.objectKey =
        command.objectKey := by
  have hkey := InMemorySourceObjectRepository.versionKey_of_get hget
  simp only [SourceObjectMetadata.versionKey, Prod.mk.injEq] at hkey
  exact ⟨hkey.1, hkey.2.1, Prod.ext hkey.1 hkey.2.1⟩

/-- What must hold for a command to place its hold. -/
structure Places (repository : InMemorySourceObjectRepository)
    (command : PlaceLegalHoldCommand) (record : SourceObjectRecord) : Prop where
  found   : repository.get command.tenantId command.objectId command.sourceVersionId = .ok record
  offHold : record.metadata.legalHoldState ≠ .active
  fresh   : repository.records.get?
              (command.tenantId, command.objectId, command.newVersionId) = none
  allowed : DraftAllowed record command.toLegalHoldCommandBase .active

/-- What must hold for a release to store its version. -/
structure Releases (repository : InMemorySourceObjectRepository)
    (command : ReleaseLegalHoldCommand) (record : SourceObjectRecord) : Prop where
  found   : repository.get command.tenantId command.objectId command.sourceVersionId = .ok record
  onHold  : record.metadata.legalHoldState = .active
  fresh   : repository.records.get?
              (command.tenantId, command.objectId, command.newVersionId) = none
  audited : ¬ (record.metadata.lifecycleState = .wormEvidence ∧
              command.auditChainRef = "audit:none")

/-- **Placing** stores a version under hold, or changes nothing and raises. -/
theorem placeHold_spec {command : PlaceLegalHoldCommand}
    {repository repository' : InMemorySourceObjectRepository}
    {result : Except Exn LegalHoldDecision} (hall : repository.AllAccepted H)
    (hcommand : command.toLegalHoldCommandBase.Accepted)
    (h : service.placeHold H command repository = (result, repository')) :
    (repository' = repository ∧ (∃ exn, result = .error exn) ∧
      ∀ record, ¬ Places repository command record) ∨
    ∃ record copied fresh, Places repository command record ∧
      copied = copyOf H record command.toLegalHoldCommandBase .active
        record.metadata.retentionPolicyId ∧
      copied.Accepted H ∧ repository' = repository.insert copied fresh ∧
      copied.metadata.objectKey = command.objectKey ∧
      ((∃ made, result = .ok made) ↔ service.retentionPolicy.Covers copied) := by
  unfold placeHold at h
  rw [Eff.bind_of_ok (Eff.get_apply _), Eff.lift_bind_apply] at h
  split at h
  · rename_i record hget
    rw [Eff.lift_bind_apply] at h
    split at h
    · rename_i hinactive
      have hinactive := require_eq_ok.mp hinactive
      -- an accepted record keeps its policy, which is stripped already
      have hrecord := hall _ _ (InMemorySourceObjectRepository.get_eq_ok.mp hget)
      obtain ⟨hnormal, herrors, -⟩ := SourceObjectMetadata.validate_self.mp hrecord.draft
      obtain ⟨-, -, -, -, -, -, -, -, hpolicy, -⟩ := SourceObjectMetadata.errors_eq_nil.mp herrors
      have hstrip : Text.strip record.metadata.retentionPolicyId =
          record.metadata.retentionPolicyId :=
        congrArg SourceObjectMetadata.retentionPolicyId hnormal
      obtain ⟨htenant, hobject, hkey⟩ := objectKey_copyOf (H := H) hget .active
        record.metadata.retentionPolicyId
      rcases storeTransition_spec hrecord hcommand hstrip hpolicy h with
        ⟨hsame, herror, hnot⟩ | ⟨hallowed, ⟨fresh, hstored⟩, hresult⟩
      · refine .inl ⟨hsame, herror, fun found hplaces => hnot ?_⟩
        have hfound := hplaces.found
        rw [hget] at hfound
        cases hfound
        rw [htenant, hobject]
        exact ⟨hplaces.allowed, hplaces.fresh⟩
      · refine .inr ⟨record, _, fresh, ⟨hget, hinactive, ?_, hallowed⟩, rfl,
          accepted_copyOf hrecord hcommand hstrip hpolicy hallowed, hstored, hkey, hresult⟩
        rw [← htenant, ← hobject]
        exact fresh
    · rename_i exn hactive
      -- the record is on hold already
      cases h
      refine .inl ⟨rfl, ⟨exn, rfl⟩, fun found hplaces => ?_⟩
      have hfound := hplaces.found
      rw [hget] at hfound
      cases hfound
      rw [require_of _ hplaces.offHold] at hactive
      cases hactive
  · rename_i exn hget
    -- there is no such record
    cases h
    refine .inl ⟨rfl, ⟨exn, rfl⟩, fun found hplaces => ?_⟩
    rw [hplaces.found] at hget
    cases hget

/-- The held record with its hold lifted, as far as retention policies look at it. -/
def lifted (record : SourceObjectRecord) (nextRetentionPolicyId : String) : SourceObjectRecord :=
  { record with
    metadata := { record.metadata with
      legalHoldState := .none
      retentionPolicyId := nextRetentionPolicyId } }

/-- **Releasing** stores a version without hold, or changes nothing and raises. -/
theorem releaseHold_spec {command : ReleaseLegalHoldCommand}
    {repository repository' : InMemorySourceObjectRepository}
    {result : Except Exn LegalHoldDecision} (hall : repository.AllAccepted H)
    (hcommand : command.toLegalHoldCommandBase.Accepted)
    (hstrip : Text.strip command.nextRetentionPolicyId = command.nextRetentionPolicyId)
    (hne : command.nextRetentionPolicyId ≠ "")
    (h : service.releaseHold H command repository = (result, repository')) :
    (repository' = repository ∧ (∃ exn, result = .error exn) ∧
      ∀ record, ¬ Releases repository command record) ∨
    ∃ record copied fresh, Releases repository command record ∧ copied.Accepted H ∧
      repository' = repository.insert copied fresh ∧
      copied.metadata.objectKey = command.objectKey ∧
      copied.metadata.legalHoldState = .none ∧
      ((∃ made, result = .ok made) ↔
        service.retentionPolicy.Covers (lifted record command.nextRetentionPolicyId)) := by
  unfold releaseHold at h
  rw [Eff.bind_of_ok (Eff.get_apply _), Eff.lift_bind_apply] at h
  split at h
  · rename_i record hget
    rw [Eff.lift_bind_apply] at h
    split at h
    · rename_i hactive
      have hactive := require_eq_ok.mp hactive
      -- the command names the next policy
      have hrecord := hall _ _ (InMemorySourceObjectRepository.get_eq_ok.mp hget)
      obtain ⟨htenant, hobject, hkey⟩ := objectKey_copyOf (H := H) hget .none
        command.nextRetentionPolicyId
      rcases storeTransition_spec hrecord hcommand hstrip hne h with
        ⟨hsame, herror, hnot⟩ | ⟨hallowed, ⟨fresh, hstored⟩, hresult⟩
      · refine .inl ⟨hsame, herror, fun found hreleases => hnot ?_⟩
        have hfound := hreleases.found
        rw [hget] at hfound
        cases hfound
        rw [htenant, hobject]
        exact ⟨⟨by simp, hreleases.audited⟩, hreleases.fresh⟩
      · refine .inr ⟨record, _, fresh, ⟨hget, hactive, ?_, hallowed.2⟩,
          accepted_copyOf hrecord hcommand hstrip hne hallowed, hstored, hkey, rfl, hresult⟩
        rw [← htenant, ← hobject]
        exact fresh
    · rename_i exn hinactive
      -- the record is not on hold
      cases h
      refine .inl ⟨rfl, ⟨exn, rfl⟩, fun found hreleases => ?_⟩
      have hfound := hreleases.found
      rw [hget] at hfound
      cases hfound
      rw [require_of _ hreleases.onHold] at hinactive
      cases hinactive
  · rename_i exn hget
    -- there is no such record
    cases h
    refine .inl ⟨rfl, ⟨exn, rfl⟩, fun found hreleases => ?_⟩
    rw [hreleases.found] at hget
    cases hget

/-! ## Runs -/

/-- A release that gets as far as storing its version lifts no hold but its own,
and not even that one if its retention manifest cannot be built. -/
def ReleaseLiftsOnlyItsOwn (service : LegalHoldService) (s : HoldHistory)
    (raw : ReleaseLegalHoldCommand) : Prop :=
  ∀ command record, raw.validate = .ok command → Releases s.repository command record →
    ∀ hold ∈ s.openHolds, hold.1 = command.objectKey →
      hold.2 = command.holdId ∧
        service.retentionPolicy.Covers (lifted record command.nextRetentionPolicyId)

/-- The commands that keep every open hold effective: all but some releases. -/
def KeepsHolds (service : LegalHoldService) (s : HoldHistory) : LegalHoldCommand → Prop
  | .place _ => True
  | .release raw => service.ReleaseLiftsOnlyItsOwn s raw

attribute [local simp] step

theorem allAccepted_step {s : HoldHistory} (hall : s.repository.AllAccepted H)
    (command : LegalHoldCommand) : (service.step H s command).repository.AllAccepted H := by
  cases command with
  | place raw =>
    simp only [step]
    split
    · exact hall
    rename_i command hvalid
    have hcommand := PlaceLegalHoldCommand.accepted_of_validate hvalid
    rcases hplace : service.placeHold H command s.repository with ⟨_ | _, repository'⟩ <;>
    · rcases placeHold_spec hall hcommand hplace with
        ⟨rfl, -⟩ | ⟨record, copied, fresh, -, -, haccepted, rfl, -⟩
      · exact hall
      · exact InMemorySourceObjectRepository.allAccepted_insert hall haccepted fresh
  | release raw =>
    simp only [step]
    split
    · exact hall
    rename_i command hvalid
    obtain ⟨hcommand, hstrip, hne⟩ := ReleaseLegalHoldCommand.accepted_of_validate hvalid
    rcases hrelease : service.releaseHold H command s.repository with ⟨_ | _, repository'⟩ <;>
    · rcases releaseHold_spec hall hcommand hstrip hne hrelease with
        ⟨rfl, -⟩ | ⟨record, copied, fresh, -, haccepted, rfl, -⟩
      · exact hall
      · exact InMemorySourceObjectRepository.allAccepted_insert hall haccepted fresh

/-- Placing a hold protects its object and leaves the others alone. -/
theorem protected_place {s : HoldHistory} (hall : s.repository.AllAccepted H)
    (hs : s.Protected) (raw : PlaceLegalHoldCommand) :
    (service.step H s (.place raw)).Protected := by
  simp only [step]
  split
  · exact hs
  rename_i command hvalid
  have hcommand := PlaceLegalHoldCommand.accepted_of_validate hvalid
  rcases hplace : service.placeHold H command s.repository with ⟨exn | made, repository'⟩
  · intro hold hmem
    rcases placeHold_spec hall hcommand hplace with
      ⟨rfl, -⟩ | ⟨record, copied, fresh, -, hcopied, -, rfl, -⟩
    · exact hs hold hmem
    · rw [InMemorySourceObjectRepository.onHold_insert]
      split_ifs
      · rw [hcopied]
        rfl
      · exact hs hold hmem
  · intro hold hmem
    rcases placeHold_spec hall hcommand hplace with
      ⟨-, ⟨exn, herror⟩, -⟩ | ⟨record, copied, fresh, -, hcopied, -, rfl, hkey, -⟩
    · cases herror
    · rw [InMemorySourceObjectRepository.onHold_insert]
      split_ifs with hobject
      · rw [hcopied]
        rfl
      · rcases Finset.mem_insert.mp hmem with rfl | hmem
        · exact absurd hkey.symm hobject
        · exact hs hold hmem

/-- After a stored release, the holds still open are effective exactly if none
of them is on the released object. -/
theorem protected_insert_released {s : HoldHistory} (hs : s.Protected)
    {copied : SourceObjectRecord}
    (fresh : s.repository.records.get? copied.metadata.versionKey = none)
    (hnone : copied.metadata.legalHoldState = .none) {openHolds : Finset (ObjectKey × String)}
    (hsub : openHolds ⊆ s.openHolds) :
    HoldHistory.Protected ⟨s.repository.insert copied fresh, openHolds⟩ ↔
      ∀ hold ∈ openHolds, hold.1 ≠ copied.metadata.objectKey := by
  constructor
  · intro hprotected hold hmem hobject
    have hon := hprotected hold hmem
    rw [InMemorySourceObjectRepository.onHold_insert, if_pos hobject, hnone] at hon
    cases hon
  · intro hother hold hmem
    rw [InMemorySourceObjectRepository.onHold_insert, if_neg (hother hold hmem)]
    exact hs hold (hsub hmem)

theorem protected_release_iff {s : HoldHistory} (hall : s.repository.AllAccepted H)
    (hs : s.Protected) (raw : ReleaseLegalHoldCommand) :
    (service.step H s (.release raw)).Protected ↔ service.ReleaseLiftsOnlyItsOwn s raw := by
  simp only [step]
  split
  · rename_i exn hinvalid
    refine iff_of_true hs fun command record hvalid => ?_
    rw [hinvalid] at hvalid
    cases hvalid
  rename_i command hvalid
  obtain ⟨hcommand, hstrip, hne⟩ := ReleaseLegalHoldCommand.accepted_of_validate hvalid
  -- the command is known, so that the condition is about its records alone
  have hguard : service.ReleaseLiftsOnlyItsOwn s raw ↔
      ∀ record, Releases s.repository command record → ∀ hold ∈ s.openHolds,
        hold.1 = command.objectKey → hold.2 = command.holdId ∧
          service.retentionPolicy.Covers (lifted record command.nextRetentionPolicyId) := by
    constructor
    · exact fun h record => h command record hvalid
    · intro h command' record hvalid'
      rw [hvalid] at hvalid'
      cases hvalid'
      exact h record
  rw [hguard]
  rcases hrelease : service.releaseHold H command s.repository with ⟨result, repository'⟩
  rcases releaseHold_spec hall hcommand hstrip hne hrelease with
    ⟨rfl, ⟨exn, rfl⟩, hnot⟩ | ⟨record, copied, fresh, hreleases, -, rfl, hkey, hnone, hresult⟩
  · exact iff_of_true hs fun record hreleases => absurd hreleases (hnot record)
  -- a release is of one record
  have hrecord : ∀ other, Releases s.repository command other → other = record := by
    intro other hother
    have hfound := hother.found
    rw [hreleases.found] at hfound
    cases hfound
    rfl
  cases result with
  | error exn =>
    -- the release raises: its version is stored, and no hold is closed
    have huncovered : ¬ service.retentionPolicy.Covers
        (lifted record command.nextRetentionPolicyId) := by
      intro hcovers
      obtain ⟨made, hmade⟩ := hresult.mpr hcovers
      cases hmade
    change HoldHistory.Protected ⟨s.repository.insert copied fresh, s.openHolds⟩ ↔ _
    rw [protected_insert_released hs fresh hnone (Finset.Subset.refl _), hkey]
    constructor
    · exact fun hother _ _ hold hmem hobject => absurd hobject (hother hold hmem)
    · exact fun h hold hmem hobject => huncovered (h record hreleases hold hmem hobject).2
  | ok made =>
    -- the release returns: its version is stored, and its own hold is closed
    have hcovers := hresult.mp ⟨made, rfl⟩
    change HoldHistory.Protected
      ⟨s.repository.insert copied fresh, s.openHolds.erase command.hold⟩ ↔ _
    rw [protected_insert_released hs fresh hnone (Finset.erase_subset _ _), hkey]
    constructor
    · intro hother other hreleases' hold hmem hobject
      rw [hrecord other hreleases']
      refine ⟨?_, hcovers⟩
      by_contra hid
      refine hother hold (Finset.mem_erase.mpr ⟨fun heq => hid ?_, hmem⟩) hobject
      rw [heq]
      rfl
    · intro h hold hmem hobject
      obtain ⟨hneq, hmem⟩ := Finset.mem_erase.mp hmem
      exact hneq (Prod.ext hobject (h record hreleases hold hmem hobject).1)

/-- **Legal holds over runs.** Over a repository filled through its own write
path, every open hold keeps its object's latest version on hold throughout a run
exactly when every release of the run that stores a version finds no open hold
on its object but the one it names, with a policy under which the released
version's manifest can be built. -/
theorem holds_protect_iff (service : LegalHoldService) (records : List SourceObjectRecord)
    (commands : List LegalHoldCommand) :
    let start : HoldHistory := ⟨InMemorySourceObjectRepository.loaded H records, ∅⟩
    Runs.Always (service.step H) HoldHistory.Protected start commands ↔
      Runs.Guarded (service.step H) service.KeepsHolds start commands := by
  refine Runs.always_iff_guarded (I := fun s => s.repository.AllAccepted H)
    (fun s command hall => allAccepted_step hall command) (fun s command hall hs => ?_)
    (InMemorySourceObjectRepository.loaded_accepted records) (by simp [HoldHistory.Protected])
    commands
  cases command with
  | place raw => exact iff_of_true (protected_place hall hs raw) trivial
  | release raw => exact protected_release_iff hall hs raw

/-- A command that places its hold, and whose manifest can be built. -/
theorem step_place_of_places {s : HoldHistory} {raw command : PlaceLegalHoldCommand}
    {record : SourceObjectRecord} (hall : s.repository.AllAccepted H)
    (hvalid : raw.validate = .ok command) (hplaces : Places s.repository command record)
    (hcovers : service.retentionPolicy.Covers (copyOf H record command.toLegalHoldCommandBase
      .active record.metadata.retentionPolicyId)) :
    ∃ fresh, service.step H s (.place raw) =
      ⟨s.repository.insert (copyOf H record command.toLegalHoldCommandBase .active
        record.metadata.retentionPolicyId) fresh, insert command.hold s.openHolds⟩ := by
  have hcommand := PlaceLegalHoldCommand.accepted_of_validate hvalid
  rcases hplace : service.placeHold H command s.repository with ⟨result, repository'⟩
  rcases placeHold_spec hall hcommand hplace with
    ⟨-, -, hnot⟩ | ⟨found, copied, fresh, hfound, rfl, -, rfl, -, hresult⟩
  · exact absurd hplaces (hnot record)
  · have hsame := hfound.found
    rw [hplaces.found] at hsame
    cases hsame
    obtain ⟨made, rfl⟩ := hresult.mpr hcovers
    exact ⟨fresh, by simp only [step, hvalid, hplace]⟩

attribute [irreducible] step

/-! ## Two holds on one document -/

def samplePolicyDefault (id : String) (dataClass : DataClass) (days : Option Nat) (worm : Bool) :
    RetentionPolicyDefault where
  retentionPolicyId := id
  description := "sample"
  classifications := [dataClass]
  sourceObjectTypes := [.document]
  lifecycleStates := [.working]
  retentionMode := if days.isSome then .fixedDays else .followsSource
  retentionDays := days
  dispositionAfterRetention := .delete
  legalHoldAllowed := true
  wormRequired := worm
  objectLockMode := if worm then .compliance else .none
  storageBucketId := "bucket"

def samplePolicySet : RetentionManifestPolicy where
  schemaVersion := "retention_policy.v1"
  owner := "records"
  policyDefaults := [samplePolicyDefault "office" .internal (some 365) false,
    samplePolicyDefault "books" .gobd (some 3650) true,
    samplePolicyDefault "index" .ragChunk none false]

def sampleService : LegalHoldService := ⟨samplePolicySet, by decide +kernel⟩

theorem sampleCreated_valid : 1 ≤ 2026 ∧ 2026 ≤ 9999 ∧ 1 ≤ 1 ∧ 1 ≤ 12 ∧ 1 ≤ 5 ∧
    5 ≤ Datetime.daysInMonth 2026 1 := by decide

theorem sampleEnded_valid : 1 ≤ 2027 ∧ 2027 ≤ 9999 ∧ 1 ≤ 1 ∧ 1 ≤ 12 ∧ 1 ≤ 5 ∧
    5 ≤ Datetime.daysInMonth 2027 1 := by decide

/-- The sample documents are kept for a year from here. -/
def sampleCreated : Datetime.DateTime := ⟨⟨2026, 1, 5, sampleCreated_valid⟩, 9, 0, 0, 0, some 0⟩

def sampleEnded : Datetime.DateTime := ⟨⟨2027, 1, 5, sampleEnded_valid⟩, 9, 0, 0, 0, some 0⟩

/-- The sample documents may be held, and released to the policy they came from. -/
theorem samplePolicySet_covers {record : SourceObjectRecord}
    (hpolicy : record.metadata.retentionPolicyId = "office")
    (hclass : record.metadata.classification = .internal)
    (htype : record.metadata.objectType = .document)
    (hstate : record.metadata.lifecycleState = .working)
    (htime : record.metadata.createdAtUtc = "2026-01-05T09:00:00Z") :
    samplePolicySet.Covers record := by
  have hfind : samplePolicySet.policy "office" =
      .ok (samplePolicyDefault "office" .internal (some 365) false) := by decide
  have hfrom : retentionParseUtc "2026-01-05T09:00:00Z" =
      .ok sampleCreated := by decide +kernel
  refine ⟨_, _, by rw [hpolicy]; exact hfind, ?_, ?_, fun _ => rfl, by rw [htime]; exact hfrom,
    some sampleEnded, by decide +kernel⟩
  · simp [recordRequiresWorm, hstate, hclass, SourceLifecycleState.isRecord, DataClass.isRecord]
  · simp [RetentionPolicyDefault.appliesTo, hstate, hclass, htype, samplePolicyDefault]

def sampleBase (source new hold : String) : LegalHoldCommandBase where
  tenantId := "acme"
  objectId := "doc-1"
  sourceVersionId := source
  newVersionId := new
  holdId := hold
  matterId := "matter"
  requestedBy := "alice"
  approvedBy := "bob"
  auditChainRef := "audit:2"
  occurredAtUtc := "2026-01-05T09:00:00Z"

/-- The hold `hold`, placed on the first version as version `new`. -/
def samplePlace (new hold : String) : PlaceLegalHoldCommand := ⟨sampleBase "v1" new hold, "claim"⟩

/-- The release of the hold that was placed second, on the version it made. -/
def sampleRelease : ReleaseLegalHoldCommand :=
  ⟨sampleBase "v3" "v4" "second", "settled", "office"⟩

theorem sampleCommands_valid :
    (samplePlace "v2" "first").validate = .ok (samplePlace "v2" "first") ∧
      (samplePlace "v3" "second").validate = .ok (samplePlace "v3" "second") ∧
      sampleRelease.validate = .ok sampleRelease := by decide +kernel

/-- What placing a hold on the sample record stores. -/
def sampleHeld (new hold : String) : SourceObjectRecord :=
  copyOf default (sampleRecord "doc-1") (sampleBase "v1" new hold) .active "office"

theorem sampleHeld_versionKey (new hold : String) :
    (sampleHeld new hold).metadata.versionKey = ("acme", "doc-1", new) := rfl

/-- Placing a hold on the first version, in a state where the new version is free. -/
theorem step_samplePlace {s : HoldHistory} {new hold : String}
    (hall : s.repository.AllAccepted default)
    (hvalid : (samplePlace new hold).validate = .ok (samplePlace new hold))
    (hfirst : s.repository.records.get? ("acme", "doc-1", "v1") = some (sampleRecord "doc-1"))
    (hfree : s.repository.records.get? ("acme", "doc-1", new) = none) :
    ∃ fresh, sampleService.step default s (.place (samplePlace new hold)) =
      ⟨s.repository.insert (sampleHeld new hold) fresh,
        insert (("acme", "doc-1"), hold) s.openHolds⟩ := by
  have hoff : (sampleRecord "doc-1").metadata.legalHoldState = .none := rfl
  have hstate : (sampleRecord "doc-1").metadata.lifecycleState = .working := rfl
  refine step_place_of_places hall hvalid ⟨?_, ?_, hfree, ?_⟩
    (samplePolicySet_covers rfl rfl rfl rfl rfl)
  · exact InMemorySourceObjectRepository.get_eq_ok.mpr hfirst
  · simp [hoff]
  · simp [DraftAllowed, hstate]

/-- The repository that holds the sample document, with no hold on it. -/
def sampleStart : HoldHistory :=
  ⟨InMemorySourceObjectRepository.loaded default [sampleRecord "doc-1"], ∅⟩

theorem sampleStart_repository : sampleStart.repository =
    InMemorySourceObjectRepository.loaded default [sampleRecord "doc-1"] := by
  rw [sampleStart]

theorem get?_sampleStart (key : VersionKey) : sampleStart.repository.records.get? key =
    if key = ("acme", "doc-1", "v1") then some (sampleRecord "doc-1") else none := by
  rw [sampleStart_repository, get?_loaded_sampleRecord (by simp)]

theorem sampleStart_free {version : String} (h : version ≠ "v1") :
    sampleStart.repository.records.get? ("acme", "doc-1", version) = none := by
  rw [get?_sampleStart, if_neg]
  simpa using h

/-- Both holds are placed, and the release that names the second will be stored. -/
theorem two_holds_placed : ∃ s,
    sampleService.step default (sampleService.step default sampleStart
      (.place (samplePlace "v2" "first"))) (.place (samplePlace "v3" "second")) = s ∧
    s.repository.AllAccepted default ∧ (("acme", "doc-1"), "first") ∈ s.openHolds ∧
    Releases s.repository sampleRelease (sampleHeld "v3" "second") := by
  obtain ⟨hvalid1, hvalid2, -⟩ := sampleCommands_valid
  have hall0 : sampleStart.repository.AllAccepted default := by
    rw [sampleStart_repository]
    exact InMemorySourceObjectRepository.loaded_accepted [sampleRecord "doc-1"]
  -- first the hold that is lifted last
  obtain ⟨fresh1, hstep1⟩ := step_samplePlace hall0 hvalid1
    (by rw [get?_sampleStart, if_pos rfl]) (sampleStart_free (by decide))
  have hall1 := @allAccepted_step _ sampleService _ hall0
    (.place (samplePlace "v2" "first"))
  have hget1 : ∀ version, version ≠ "v2" →
      (sampleStart.repository.insert (sampleHeld "v2" "first") fresh1).records.get?
        ("acme", "doc-1", version) =
      sampleStart.repository.records.get? ("acme", "doc-1", version) := by
    intro version hversion
    rw [InMemorySourceObjectRepository.get?_insert, sampleHeld_versionKey, if_neg]
    simpa using hversion
  rw [hstep1] at hall1 ⊢
  -- then the hold that the release names
  obtain ⟨fresh2, hstep2⟩ := step_samplePlace hall1 hvalid2
    (by rw [hget1 _ (by decide), get?_sampleStart, if_pos rfl])
    (by rw [hget1 _ (by decide), sampleStart_free (by decide)])
  have hall2 := @allAccepted_step _ sampleService _ hall1
    (.place (samplePlace "v3" "second"))
  rw [hstep2] at hall2 ⊢
  refine ⟨_, rfl, hall2, by simp, InMemorySourceObjectRepository.get_eq_ok.mpr ?_, rfl, ?_, ?_⟩
  · rw [InMemorySourceObjectRepository.get?_insert, sampleHeld_versionKey]
    exact if_pos rfl
  · rw [InMemorySourceObjectRepository.get?_insert, sampleHeld_versionKey, if_neg (by decide)]
    exact (hget1 "v4" (by decide)).trans (sampleStart_free (by decide))
  · rintro ⟨hworm, -⟩
    cases hworm

/-- Two holds are placed on one document, and the second is released by its own
identifier: the latest version is not on hold although the first hold is open. -/
theorem release_lifts_other_hold :
    ¬ Runs.Always (sampleService.step default) HoldHistory.Protected
      ⟨InMemorySourceObjectRepository.loaded default [sampleRecord "doc-1"], ∅⟩
      [.place (samplePlace "v2" "first"), .place (samplePlace "v3" "second"),
        .release sampleRelease] := by
  obtain ⟨s, hs, hall, hopen, hreleases⟩ := two_holds_placed
  rw [← sampleStart]
  intro halways
  rw [Runs.always_cons, Runs.always_cons, Runs.always_cons, Runs.always_nil, hs] at halways
  obtain ⟨-, -, hprotected, hend⟩ := halways
  have hguard := (protected_release_iff hall hprotected sampleRelease).mp hend
  have hown := hguard sampleRelease _ sampleCommands_valid.2.2 hreleases _ hopen rfl
  exact absurd hown.1 (by decide)

end LegalHoldService

end Collabio
