import Mathlib.Tactic
import Collabio.Kms.Adapter
import Collabio.Storage.SourceObjects

/-!
# Retention policies and manifests

A retention manifest says how long a stored version is kept and what may happen
to it afterwards. It is built from the record's metadata and the policy the
metadata names; building it can fail in many ways.

* `buildRetentionManifest_isOk_iff` — under an accepted policy set, a manifest can
  be built exactly for the records the set covers.
-/

namespace Collabio

inductive ObjectLockMode where
  | none | governance | compliance
  deriving DecidableEq, Repr

def ObjectLockMode.value : ObjectLockMode → String
  | .none => "none"
  | .governance => "governance"
  | .compliance => "compliance"

inductive RetentionMode where
  | fixedDays | followsSource | untilHoldRelease
  deriving DecidableEq, Repr

def RetentionMode.value : RetentionMode → String
  | .fixedDays => "fixed_days"
  | .followsSource => "follows_source"
  | .untilHoldRelease => "until_hold_release"

inductive DispositionAfterRetention where
  | delete | restrict | deleteAfterRetentionIfNoHold | deleteOrReindexWithSource
  | blockedUntilHoldRelease | exportReviewRequired
  deriving DecidableEq, Repr

def DispositionAfterRetention.value : DispositionAfterRetention → String
  | .delete => "delete"
  | .restrict => "restrict"
  | .deleteAfterRetentionIfNoHold => "delete_after_retention_if_no_hold"
  | .deleteOrReindexWithSource => "delete_or_reindex_with_source"
  | .blockedUntilHoldRelease => "blocked_until_hold_release"
  | .exportReviewRequired => "export_review_required"

/-! ## Policies -/

structure RetentionPolicyDefault where
  retentionPolicyId                   : String
  description                         : String
  classifications                     : List DataClass
  sourceObjectTypes                   : List SourceObjectType
  lifecycleStates                     : List SourceLifecycleState
  retentionMode                       : RetentionMode
  retentionDays                       : Option Nat := none
  dispositionAfterRetention           : DispositionAfterRetention
  legalHoldAllowed                    : Bool
  wormRequired                        : Bool
  objectLockMode                      : ObjectLockMode := .none
  storageBucketId                     : String
  cryptoshredAllowedBeforeRetentionEnd : Bool := false
  auditRequired                       : Bool := true
  manifestRequired                    : Bool := true
  deriving DecidableEq, Repr

def optionalNat : Option Nat → Json
  | none => .null
  | some n => .int n

namespace RetentionPolicyDefault

def validate (policy : RetentionPolicyDefault) : Except Exn RetentionPolicyDefault := do
  let policy ← accept "RetentionPolicyDefault"
    (KmsAdapterPolicy.requireLength "classifications" 1 policy.classifications ++
      KmsAdapterPolicy.requireLength "source_object_types" 1 policy.sourceObjectTypes ++
      KmsAdapterPolicy.requireLength "lifecycle_states" 1 policy.lifecycleStates ++
      requireOptional (requirePositive "retention_days") policy.retentionDays) policy
  let model := "RetentionPolicyDefault"
  requireModel model (Text.strip policy.retentionPolicyId ≠ "")
    "retention_policy_id must not be empty"
  requireModel model (Text.strip policy.description ≠ "") "description must not be empty"
  requireModel model (Text.strip policy.storageBucketId ≠ "") "storage_bucket_id must not be empty"
  requireModel model (¬ (policy.retentionMode = .fixedDays ∧ policy.retentionDays = none))
    "fixed-days retention policies require retention_days"
  requireModel model (¬ (policy.retentionMode ≠ .fixedDays ∧ policy.retentionDays ≠ none))
    "non-fixed retention policies must not set retention_days"
  requireModel model (¬ (policy.wormRequired ∧ policy.objectLockMode = .none))
    "WORM retention policies require object lock"
  requireModel model (¬ (¬ policy.wormRequired ∧ policy.objectLockMode ≠ .none))
    "object lock must not be configured when worm_required is false"
  requireModel model (¬ (policy.cryptoshredAllowedBeforeRetentionEnd ∧
      policy.classifications.any DataClass.isRecord))
    "GoBD and legal-hold policies cannot allow early cryptoshred"
  return policy

def appliesTo (policy : RetentionPolicyDefault) (record : SourceObjectRecord) : Bool :=
  decide (record.metadata.classification ∈ policy.classifications) &&
    decide (record.metadata.objectType ∈ policy.sourceObjectTypes) &&
    decide (record.metadata.lifecycleState ∈ policy.lifecycleStates)

def payload (policy : RetentionPolicyDefault) : Json :=
  .obj [
    ("retention_policy_id", .str policy.retentionPolicyId),
    ("description", .str policy.description),
    ("classifications", .arr (policy.classifications.map fun c => .str c.value)),
    ("source_object_types", .arr (policy.sourceObjectTypes.map fun t => .str t.value)),
    ("lifecycle_states", .arr (policy.lifecycleStates.map fun s => .str s.value)),
    ("retention_mode", .str policy.retentionMode.value),
    ("retention_days", optionalNat policy.retentionDays),
    ("disposition_after_retention", .str policy.dispositionAfterRetention.value),
    ("legal_hold_allowed", .bool policy.legalHoldAllowed),
    ("worm_required", .bool policy.wormRequired),
    ("object_lock_mode", .str policy.objectLockMode.value),
    ("storage_bucket_id", .str policy.storageBucketId),
    ("cryptoshred_allowed_before_retention_end",
      .bool policy.cryptoshredAllowedBeforeRetentionEnd),
    ("audit_required", .bool policy.auditRequired),
    ("manifest_required", .bool policy.manifestRequired)]

end RetentionPolicyDefault

structure RetentionManifestPolicy where
  schemaVersion   : String
  owner           : String
  defaultTimezone : String := "UTC"
  policyDefaults  : List RetentionPolicyDefault
  deriving DecidableEq, Repr

namespace RetentionManifestPolicy

/-- The identifiers that occur more than once, sorted and without repetition. -/
def duplicatePolicyIds (policySet : RetentionManifestPolicy) : List String :=
  let ids := policySet.policyDefaults.map (·.retentionPolicyId)
  ((ids.filter fun id => 1 < ids.count id).dedup).insertionSort (· ≤ ·)

/-- The model's validation; of several rejected policies the first is reported. -/
def validate (policySet : RetentionManifestPolicy) : Except Exn RetentionManifestPolicy := do
  let _ ← policySet.policyDefaults.mapM RetentionPolicyDefault.validate
  let policySet ← accept "RetentionManifestPolicy"
    (KmsAdapterPolicy.requireLength "policy_defaults" 1 policySet.policyDefaults) policySet
  let model := "RetentionManifestPolicy"
  requireModel model (policySet.duplicatePolicyIds = [])
    ("duplicate retention policy ids: " ++ ", ".intercalate policySet.duplicatePolicyIds)
  requireModel model (policySet.policyDefaults.any (·.wormRequired))
    "at least one retention policy must require WORM"
  requireModel model (policySet.policyDefaults.any (·.retentionMode == .followsSource))
    "retention policy set must include follows-source handling"
  return policySet

/-- `policy`. -/
def policy (policySet : RetentionManifestPolicy) (retentionPolicyId : String) :
    Except Exn RetentionPolicyDefault :=
  match policySet.policyDefaults.find? (·.retentionPolicyId == retentionPolicyId) with
  | some found => .ok found
  | none => .error (.lookupError ("Unknown retention policy: " ++ retentionPolicyId))

end RetentionManifestPolicy

/-! ## Manifests -/

structure RetentionManifest where
  schemaVersion                        : String := "retention_manifest.v1"
  tenantId                             : String
  objectId                             : String
  objectType                           : SourceObjectType
  versionId                            : String
  classification                       : DataClass
  lifecycleState                       : SourceLifecycleState
  retentionPolicyId                    : String
  retentionMode                        : RetentionMode
  retentionDays                        : Option Nat := none
  retainFromUtc                        : String
  retainUntilUtc                       : Option String
  legalHoldState                       : LegalHoldState
  dispositionAfterRetention            : DispositionAfterRetention
  deletionBlocked                      : Bool
  wormRequired                         : Bool
  objectLockMode                       : ObjectLockMode
  storageBucketId                      : String
  cryptoshredAllowedBeforeRetentionEnd : Bool
  auditRequired                        : Bool
  sourceManifestHash                   : String
  policySnapshotHash                   : String
  deriving DecidableEq, Repr

namespace RetentionManifest

/-- `require_consistent_manifest`. -/
def validate (manifest : RetentionManifest) : Except Exn RetentionManifest := do
  let model := "RetentionManifest"
  requireModel model (¬ (manifest.retentionMode = .fixedDays ∧ manifest.retainUntilUtc = none))
    "fixed-days retention manifests require retain_until_utc"
  requireModel model (¬ (manifest.retentionMode ≠ .fixedDays ∧ manifest.retainUntilUtc ≠ none))
    "non-fixed retention manifests must not set retain_until_utc"
  requireModel model (manifest.legalHoldState = .active → manifest.deletionBlocked)
    "active legal hold must block deletion"
  requireModel model (manifest.legalHoldState = .active →
      manifest.dispositionAfterRetention = .blockedUntilHoldRelease)
    "active legal hold must block disposition until release"
  requireModel model (manifest.legalHoldState = .active →
      ¬ manifest.cryptoshredAllowedBeforeRetentionEnd)
    "active legal hold cannot allow early cryptoshred"
  requireModel model (¬ (manifest.wormRequired ∧ manifest.objectLockMode = .none))
    "WORM manifests require object lock"
  requireModel model (¬ (manifest.classification.isRecord ∧
      manifest.cryptoshredAllowedBeforeRetentionEnd))
    "GoBD and legal-hold manifests cannot allow early cryptoshred"
  return manifest

def payload (manifest : RetentionManifest) : Json :=
  .obj [
    ("schema_version", .str manifest.schemaVersion),
    ("tenant_id", .str manifest.tenantId),
    ("object_id", .str manifest.objectId),
    ("object_type", .str manifest.objectType.value),
    ("version_id", .str manifest.versionId),
    ("classification", .str manifest.classification.value),
    ("lifecycle_state", .str manifest.lifecycleState.value),
    ("retention_policy_id", .str manifest.retentionPolicyId),
    ("retention_mode", .str manifest.retentionMode.value),
    ("retention_days", optionalNat manifest.retentionDays),
    ("retain_from_utc", .str manifest.retainFromUtc),
    ("retain_until_utc", optionalText manifest.retainUntilUtc),
    ("legal_hold_state", .str manifest.legalHoldState.value),
    ("disposition_after_retention", .str manifest.dispositionAfterRetention.value),
    ("deletion_blocked", .bool manifest.deletionBlocked),
    ("worm_required", .bool manifest.wormRequired),
    ("object_lock_mode", .str manifest.objectLockMode.value),
    ("storage_bucket_id", .str manifest.storageBucketId),
    ("cryptoshred_allowed_before_retention_end",
      .bool manifest.cryptoshredAllowedBeforeRetentionEnd),
    ("audit_required", .bool manifest.auditRequired),
    ("source_manifest_hash", .str manifest.sourceManifestHash),
    ("policy_snapshot_hash", .str manifest.policySnapshotHash)]

end RetentionManifest

variable (H : HashFunctions)

def buildPolicySnapshotHash (policy : RetentionPolicyDefault) : String :=
  hashJson H policy.payload

def buildRetentionManifestHash (manifest : RetentionManifest) : String :=
  hashJson H manifest.payload

/-- `_record_requires_worm`. -/
def recordRequiresWorm (record : SourceObjectRecord) : Bool :=
  record.metadata.lifecycleState.isRecord || record.metadata.classification.isRecord

/-- `_parse_utc`. -/
def retentionParseUtc (value : String) : Except Exn Datetime.DateTime :=
  match Datetime.fromisoformat (Text.replaceChar 'Z' "+00:00".toList value.toList) with
  | none => .error (.valueError (.invalidIsoformat value))
  | some t =>
    if t.utcoffset = some 0 then .ok t
    else .error (.retentionManifestError "retention timestamp must be UTC")

/-- `_to_utc_iso`, of a datetime whose offset is zero. -/
def toUtcIso (t : Datetime.DateTime) : String :=
  String.ofList (Datetime.isoformatSeconds t ++ ['Z'])

/-- `retain_from + timedelta(days=...)`. -/
def retainUntil (retainFrom : Datetime.DateTime) :
    Option Nat → Except Exn (Option Datetime.DateTime)
  | none => .ok none
  | some days =>
    match retainFrom.addDays days with
    | some t => .ok (some t)
    | none => .error .overflowError

/-- The manifest `build_retention_manifest` asks the model to accept. -/
def draftRetentionManifest (metadata : SourceObjectMetadata) (policy : RetentionPolicyDefault)
    (retainFrom : Datetime.DateTime) (retainUntil : Option Datetime.DateTime) :
    RetentionManifest :=
  let activeHold := decide (metadata.legalHoldState = .active)
  { tenantId := metadata.tenantId
    objectId := metadata.objectId
    objectType := metadata.objectType
    versionId := metadata.versionId
    classification := metadata.classification
    lifecycleState := metadata.lifecycleState
    retentionPolicyId := policy.retentionPolicyId
    retentionMode := policy.retentionMode
    retentionDays := policy.retentionDays
    retainFromUtc := toUtcIso retainFrom
    retainUntilUtc := retainUntil.map toUtcIso
    legalHoldState := metadata.legalHoldState
    dispositionAfterRetention :=
      if activeHold then .blockedUntilHoldRelease else policy.dispositionAfterRetention
    deletionBlocked := activeHold || policy.wormRequired
    wormRequired := policy.wormRequired
    objectLockMode := policy.objectLockMode
    storageBucketId := policy.storageBucketId
    cryptoshredAllowedBeforeRetentionEnd :=
      if activeHold then false else policy.cryptoshredAllowedBeforeRetentionEnd
    auditRequired := policy.auditRequired
    sourceManifestHash := metadata.manifestHash
    policySnapshotHash := buildPolicySnapshotHash H policy }

def buildRetentionManifest (record : SourceObjectRecord) (policySet : RetentionManifestPolicy) :
    Except Exn RetentionManifest := do
  let metadata := record.metadata
  let policy ← policySet.policy metadata.retentionPolicyId
  require (¬ (recordRequiresWorm record ∧ ¬ policy.wormRequired)) (.retentionManifestError
    "record lifecycle or classification requires WORM retention policy")
  require (policy.appliesTo record) (.retentionManifestError
    "retention policy does not apply to source object metadata")
  require (¬ (metadata.legalHoldState = .active ∧ ¬ policy.legalHoldAllowed))
    (.retentionManifestError "retention policy does not allow legal hold")
  let retainFrom ← retentionParseUtc metadata.createdAtUtc
  let until? ← retainUntil retainFrom policy.retentionDays
  (draftRetentionManifest H metadata policy retainFrom until?).validate

/-! ## What building requires -/

/-- Some policy of the set is right for the record, and the end of its retention
is a date. -/
def RetentionManifestPolicy.Covers (policySet : RetentionManifestPolicy)
    (record : SourceObjectRecord) : Prop :=
  ∃ policy retainFrom,
    policySet.policy record.metadata.retentionPolicyId = .ok policy ∧
    (recordRequiresWorm record → policy.wormRequired) ∧
    policy.appliesTo record ∧
    (record.metadata.legalHoldState = .active → policy.legalHoldAllowed) ∧
    retentionParseUtc record.metadata.createdAtUtc = .ok retainFrom ∧
    ∃ until?, retainUntil retainFrom policy.retentionDays = .ok until?

/-- What the checks of an accepted policy say about its manifests. -/
theorem RetentionPolicyDefault.validate_eq_ok {policy accepted : RetentionPolicyDefault}
    (h : policy.validate = .ok accepted) :
    accepted = policy ∧
      (policy.retentionMode = .fixedDays ↔ policy.retentionDays ≠ none) ∧
      (policy.wormRequired = true → policy.objectLockMode ≠ .none) ∧
      (policy.cryptoshredAllowedBeforeRetentionEnd = true →
        policy.classifications.any DataClass.isRecord = false) := by
  obtain ⟨_, haccept, h⟩ := Except.bind_eq_ok.mp h
  obtain ⟨-, rfl⟩ := accept_eq_ok.mp haccept
  obtain ⟨-, h⟩ := require_bind_eq_ok.mp h
  obtain ⟨-, h⟩ := require_bind_eq_ok.mp h
  obtain ⟨-, h⟩ := require_bind_eq_ok.mp h
  obtain ⟨hfixed, h⟩ := require_bind_eq_ok.mp h
  obtain ⟨hdays, h⟩ := require_bind_eq_ok.mp h
  obtain ⟨hworm, h⟩ := require_bind_eq_ok.mp h
  obtain ⟨-, h⟩ := require_bind_eq_ok.mp h
  obtain ⟨hshred, h⟩ := require_bind_eq_ok.mp h
  cases h
  refine ⟨rfl, ⟨fun hmode hnone => hfixed ⟨hmode, hnone⟩, fun hset => ?_⟩,
    fun hrequired hnone => hworm ⟨hrequired, hnone⟩, fun hallowed => ?_⟩
  · by_contra hmode
    exact hdays ⟨hmode, hset⟩
  · rw [Bool.eq_false_iff]
    exact fun hany => hshred ⟨hallowed, hany⟩

/-- The policies of an accepted set are accepted themselves. -/
theorem RetentionManifestPolicy.valid_of_policy {policySet : RetentionManifestPolicy}
    {policyId : String} {policy : RetentionPolicyDefault}
    (hvalid : policySet.validate = .ok policySet) (h : policySet.policy policyId = .ok policy) :
    policy.validate = .ok policy := by
  obtain ⟨_, hall, -⟩ := Except.bind_eq_ok.mp hvalid
  have hmem : policy ∈ policySet.policyDefaults := by
    unfold RetentionManifestPolicy.policy at h
    split at h
    · rename_i found hfind
      cases h
      exact List.mem_of_find?_eq_some hfind
    · cases h
  obtain ⟨accepted, haccepted⟩ := Except.isOk_of_mapM hall policy hmem
  rw [haccepted, (RetentionPolicyDefault.validate_eq_ok haccepted).1]

theorem retainUntil_isSome {retainFrom : Datetime.DateTime} {days : Option Nat}
    {until? : Option Datetime.DateTime} (h : retainUntil retainFrom days = .ok until?) :
    until?.isSome = days.isSome := by
  cases days with
  | none =>
    cases h
    rfl
  | some days =>
    simp only [retainUntil] at h
    split at h
    · cases h
      rfl
    · cases h

/-- The manifest drawn up from an accepted policy that applies to the record
passes its own checks. -/
theorem validate_draftRetentionManifest {record : SourceObjectRecord}
    {policy : RetentionPolicyDefault} {retainFrom : Datetime.DateTime}
    {until? : Option Datetime.DateTime} (hvalid : policy.validate = .ok policy)
    (happlies : policy.appliesTo record = true)
    (huntil : retainUntil retainFrom policy.retentionDays = .ok until?) :
    (draftRetentionManifest H record.metadata policy retainFrom until?).validate =
      .ok (draftRetentionManifest H record.metadata policy retainFrom until?) := by
  obtain ⟨-, hmode, hlock, hshred⟩ := RetentionPolicyDefault.validate_eq_ok hvalid
  -- an end is there exactly where the policy counts days
  have hsome := retainUntil_isSome huntil
  refine require_bind_eq_ok.mpr ⟨?_, require_bind_eq_ok.mpr ⟨?_, require_bind_eq_ok.mpr
    ⟨?_, require_bind_eq_ok.mpr ⟨?_, require_bind_eq_ok.mpr ⟨?_, require_bind_eq_ok.mpr
    ⟨?_, require_bind_eq_ok.mpr ⟨?_, rfl⟩⟩⟩⟩⟩⟩⟩
  · rintro ⟨hfixed, hnone⟩
    rw [draftRetentionManifest, Option.map_eq_none_iff] at hnone
    rw [hnone] at hsome
    exact hmode.mp hfixed (by simpa using hsome.symm)
  · rintro ⟨hother, hset⟩
    refine hother (hmode.mpr fun hnone => hset ?_)
    rw [hnone] at hsome
    simpa [draftRetentionManifest] using hsome
  · intro hactive
    simp_all [draftRetentionManifest]
  · intro hactive
    simp_all [draftRetentionManifest]
  · intro hactive
    simp_all [draftRetentionManifest]
  · rintro ⟨hrequired, hnone⟩
    exact hlock hrequired hnone
  · rintro ⟨hrecord, hallowed⟩
    -- shredding early is allowed for no policy that covers records
    have hearly : policy.cryptoshredAllowedBeforeRetentionEnd = true := by
      by_contra hnot
      rw [Bool.not_eq_true] at hnot
      simp [draftRetentionManifest, hnot] at hallowed
    have hnone := hshred hearly
    rw [List.any_eq_false] at hnone
    simp only [RetentionPolicyDefault.appliesTo, Bool.and_eq_true, decide_eq_true_eq] at happlies
    exact hnone _ happlies.1.1 hrecord

/-- What `build_retention_manifest` found, and the manifest it made of it. -/
theorem buildRetentionManifest_eq_ok {record : SourceObjectRecord}
    {policySet : RetentionManifestPolicy} {manifest : RetentionManifest}
    (h : buildRetentionManifest H record policySet = .ok manifest) :
    ∃ policy created until?,
      policySet.policy record.metadata.retentionPolicyId = .ok policy ∧
      retentionParseUtc record.metadata.createdAtUtc = .ok created ∧
      retainUntil created policy.retentionDays = .ok until? ∧
      manifest = draftRetentionManifest H record.metadata policy created until? := by
  obtain ⟨policy, hpolicy, h⟩ := Except.bind_eq_ok.mp h
  obtain ⟨-, h⟩ := require_bind_eq_ok.mp h
  obtain ⟨-, h⟩ := require_bind_eq_ok.mp h
  obtain ⟨-, h⟩ := require_bind_eq_ok.mp h
  obtain ⟨created, hcreated, h⟩ := Except.bind_eq_ok.mp h
  obtain ⟨until?, huntil, h⟩ := Except.bind_eq_ok.mp h
  refine ⟨policy, created, until?, hpolicy, hcreated, huntil, ?_⟩
  -- the model checks its fields and changes none
  unfold RetentionManifest.validate at h
  iterate 7 obtain ⟨-, h⟩ := require_bind_eq_ok.mp h
  cases h
  rfl

/-- The manifest that is built under an accepted policy which is right for the record. -/
theorem buildRetentionManifest_of_policy {record : SourceObjectRecord}
    {policySet : RetentionManifestPolicy} {policy : RetentionPolicyDefault}
    {retainFrom : Datetime.DateTime} {until? : Option Datetime.DateTime}
    (hvalid : policy.validate = .ok policy)
    (hpolicy : policySet.policy record.metadata.retentionPolicyId = .ok policy)
    (hworm : recordRequiresWorm record → policy.wormRequired)
    (happlies : policy.appliesTo record)
    (hhold : record.metadata.legalHoldState = .active → policy.legalHoldAllowed)
    (hfrom : retentionParseUtc record.metadata.createdAtUtc = .ok retainFrom)
    (huntil : retainUntil retainFrom policy.retentionDays = .ok until?) :
    buildRetentionManifest H record policySet =
      .ok (draftRetentionManifest H record.metadata policy retainFrom until?) := by
  refine Except.bind_eq_ok.mpr ⟨policy, hpolicy, ?_⟩
  refine require_bind_eq_ok.mpr ⟨by simpa using hworm, ?_⟩
  refine require_bind_eq_ok.mpr ⟨happlies, ?_⟩
  refine require_bind_eq_ok.mpr ⟨by simpa using hhold, ?_⟩
  refine Except.bind_eq_ok.mpr ⟨retainFrom, hfrom, ?_⟩
  exact Except.bind_eq_ok.mpr
    ⟨until?, huntil, validate_draftRetentionManifest H hvalid happlies huntil⟩

/-- **Manifests.** Under an accepted policy set the manifest of a record can be
built exactly when the set covers the record. -/
theorem buildRetentionManifest_isOk_iff {record : SourceObjectRecord}
    {policySet : RetentionManifestPolicy} (hvalid : policySet.validate = .ok policySet) :
    (∃ manifest, buildRetentionManifest H record policySet = .ok manifest) ↔
      policySet.Covers record := by
  constructor
  · rintro ⟨manifest, h⟩
    obtain ⟨policy, hpolicy, h⟩ := Except.bind_eq_ok.mp h
    obtain ⟨hworm, h⟩ := require_bind_eq_ok.mp h
    obtain ⟨happlies, h⟩ := require_bind_eq_ok.mp h
    obtain ⟨hhold, h⟩ := require_bind_eq_ok.mp h
    obtain ⟨retainFrom, hfrom, h⟩ := Except.bind_eq_ok.mp h
    obtain ⟨until?, huntil, -⟩ := Except.bind_eq_ok.mp h
    refine ⟨policy, retainFrom, hpolicy, ?_, happlies, ?_, hfrom, until?, huntil⟩
    · simpa using hworm
    · simpa using hhold
  · rintro ⟨policy, retainFrom, hpolicy, hworm, happlies, hhold, hfrom, until?, huntil⟩
    exact ⟨_, buildRetentionManifest_of_policy H
      (RetentionManifestPolicy.valid_of_policy hvalid hpolicy) hpolicy hworm happlies hhold hfrom
      huntil⟩

end Collabio
