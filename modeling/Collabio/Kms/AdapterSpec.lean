import Mathlib.Tactic
import Collabio.Kms.Adapter

/-!
# What the adapter's operations do

One specification lemma for each operation; later modules cite these and never
unfold the adapter.

* `LocalKmsAdapter.validateKeyRef_eq_ok`       — the references an adapter accepts;
* `LocalKmsAdapter.answers_iff`                — a well-formed request is answered
  exactly when its reference is usable;
* `LocalKmsAdapter.rotateKeyReference_eq_ok`   — rotation names the next version;
* `LocalKmsAdapter.recordKeyDestruction_spec`  — a destruction adds one reference to
  the destroyed ones, or changes nothing.
-/

namespace Collabio

/-! ## Policies are complete -/

theorem KmsAdapterPolicy.mem_sortedClasses (d : DataClass) : d ∈ sortedClasses := by
  cases d <;> decide

/-- An accepted policy covers every data class. -/
theorem KmsAdapterPolicy.dataClassPolicy_isOk {policy : KmsAdapterPolicy}
    (hvalid : policy.validate = .ok policy) (d : DataClass) :
    ∃ p, policy.dataClassPolicy d = .ok p := by
  unfold validate at hvalid
  obtain ⟨_, -, h⟩ := Except.bind_eq_ok.mp hvalid
  obtain ⟨p, hp, h⟩ := Except.bind_eq_ok.mp h
  obtain ⟨-, rfl⟩ := accept_eq_ok.mp hp
  obtain ⟨-, h⟩ := require_bind_eq_ok.mp h
  obtain ⟨-, h⟩ := require_bind_eq_ok.mp h
  obtain ⟨-, h⟩ := require_bind_eq_ok.mp h
  obtain ⟨-, h⟩ := require_bind_eq_ok.mp h
  obtain ⟨hmissing, -⟩ := require_bind_eq_ok.mp h
  have hmem : d ∈ policy.dataClassKeyPolicies.map (·.dataClass) := by
    have := List.filter_eq_nil_iff.mp hmissing d (mem_sortedClasses d)
    simpa using this
  obtain ⟨q, hq, rfl⟩ := List.mem_map.mp hmem
  unfold dataClassPolicy
  cases hfind : policy.dataClassKeyPolicies.find? (·.dataClass == q.dataClass) with
  | some found => exact ⟨found, rfl⟩
  | none =>
    rw [List.find?_eq_none] at hfind
    exact absurd (hfind q hq) (by simp)

/-! ## Evidence -/

variable {H : HashFunctions}

/-- Evidence is built exactly for drafts whose fields pass their checks. -/
theorem buildKmsOperationEvidence_eq_ok {draft evidence : KmsOperationEvidence} :
    buildKmsOperationEvidence H draft = .ok evidence ↔
      draft.normalized.errors = [] ∧ draft.rawKeyMaterialExposed = false ∧
        evidence = { draft.normalized with
          evidenceHash := buildKmsOperationEvidenceHash H draft.normalized } := by
  unfold buildKmsOperationEvidence KmsOperationEvidence.validate
  constructor
  · intro h
    obtain ⟨checked, hchecked, h⟩ := Except.bind_eq_ok.mp h
    obtain ⟨accepted, haccepted, hchecked⟩ := Except.bind_eq_ok.mp hchecked
    obtain ⟨herrors, rfl⟩ := accept_eq_ok.mp haccepted
    obtain ⟨hraw, hchecked⟩ := require_bind_eq_ok.mp hchecked
    cases hchecked
    cases h
    exact ⟨herrors, by simpa [KmsOperationEvidence.normalized] using hraw, rfl⟩
  · rintro ⟨herrors, hraw, rfl⟩
    refine Except.bind_eq_ok.mpr ⟨draft.normalized, ?_, rfl⟩
    refine Except.bind_eq_ok.mpr ⟨_, accept_eq_ok.mpr ⟨herrors, rfl⟩, ?_⟩
    exact require_bind_eq_ok.mpr ⟨by simpa [KmsOperationEvidence.normalized] using hraw, rfl⟩

theorem buildKmsOperationEvidence_isOk (draft : KmsOperationEvidence)
    (herrors : draft.normalized.errors = []) (hraw : draft.rawKeyMaterialExposed = false) :
    ∃ evidence, buildKmsOperationEvidence H draft = .ok evidence :=
  ⟨_, buildKmsOperationEvidence_eq_ok.mpr ⟨herrors, hraw, rfl⟩⟩

theorem isNamespacedRef_zeroHash : isNamespacedRef (Text.strip zeroHash) = true := by
  decide

/-! ## Models accepted by their validators -/

theorem KmsKeyReferenceRequest.validate_eq_ok {raw request : KmsKeyReferenceRequest} :
    raw.validate = .ok request ↔ raw.normalized.errors = [] ∧ raw.normalized = request :=
  accept_eq_ok

@[simp] theorem KmsKeyReferenceRequest.normalized_normalized (r : KmsKeyReferenceRequest) :
    r.normalized.normalized = r.normalized := by
  simp [normalized]

theorem KmsKeyReferenceRequest.errors_eq_nil {r : KmsKeyReferenceRequest} :
    r.errors = [] ↔ r.tenantId ≠ "" ∧ isNamespacedRef r.kmsKeyRef = true ∧
      r.requestedBy ≠ "" ∧ isNamespacedRef r.auditChainRef = true ∧
      isUtcTimestamp r.occurredAtUtc = true := by
  simp [errors]

theorem KmsRotateKeyCommand.validate_eq_ok {raw command : KmsRotateKeyCommand} :
    raw.validate = .ok command ↔ raw.normalized.errors = [] ∧ raw.normalized = command :=
  accept_eq_ok

theorem KmsRotateKeyCommand.errors_eq_nil {c : KmsRotateKeyCommand} :
    c.errors = [] ↔ c.tenantId ≠ "" ∧ isNamespacedRef c.currentKmsKeyRef = true ∧
      c.requestedBy ≠ "" ∧ c.approvedBy ≠ "" ∧ isNamespacedRef c.auditChainRef = true ∧
      isUtcTimestamp c.occurredAtUtc = true ∧ c.reason ≠ "" := by
  simp [errors]

theorem KmsDestroyKeyCommand.validate_eq_ok {raw command : KmsDestroyKeyCommand} :
    raw.validate = .ok command ↔ raw.normalized.errors = [] ∧ raw.normalized = command :=
  accept_eq_ok

theorem KmsDestroyKeyCommand.errors_eq_nil {c : KmsDestroyKeyCommand} :
    c.errors = [] ↔ c.tenantId ≠ "" ∧ isNamespacedRef c.kmsKeyRef = true ∧
      c.retentionPolicyId ≠ "" ∧ c.legalHoldState ≠ "" ∧ c.lifecycleState ≠ "" ∧
      c.requestedBy ≠ "" ∧ c.approvedBy ≠ "" ∧ isNamespacedRef c.approvalRef = true ∧
      isNamespacedRef c.auditChainRef = true ∧ isUtcTimestamp c.occurredAtUtc = true ∧
      c.reason ≠ "" := by
  simp [errors]

namespace LocalKmsAdapter

/-! ## References -/

/-- The references an adapter accepts for a tenant and a data class. -/
theorem validateKeyRef_eq_ok {kms : LocalKmsAdapter} {tenantId : String} {dataClass : DataClass}
    {kmsKeyRef : String} {ref : KmsKeyReference} :
    kms.validateKeyRef tenantId dataClass kmsKeyRef = .ok ref ↔
      KmsKeyReference.parse kmsKeyRef = .ok ref ∧ ref.tenantId = tenantId ∧
        ref.dataClass = dataClass ∧
        (∃ p, kms.policy.dataClassPolicy dataClass = .ok p ∧ p.minKeyVersion ≤ ref.keyVersion) ∧
        Text.strip kmsKeyRef ∉ kms.destroyedKeyRefs := by
  unfold validateKeyRef
  constructor
  · intro h
    obtain ⟨parsed, hparse, h⟩ := Except.bind_eq_ok.mp h
    obtain ⟨htenant, h⟩ := require_bind_eq_ok.mp h
    obtain ⟨hclass, h⟩ := require_bind_eq_ok.mp h
    obtain ⟨p, hp, h⟩ := Except.bind_eq_ok.mp h
    obtain ⟨hmin, h⟩ := require_bind_eq_ok.mp h
    -- the canonical text of a parsed reference is the stripped one
    rw [KmsKeyReference.canonicalRef_of_parse hparse] at h
    obtain ⟨hdestroyed, h⟩ := require_bind_eq_ok.mp h
    cases h
    exact ⟨hparse, htenant, hclass, ⟨p, hp, hmin⟩, hdestroyed⟩
  · rintro ⟨hparse, htenant, hclass, ⟨p, hp, hmin⟩, hdestroyed⟩
    refine Except.bind_eq_ok.mpr ⟨ref, hparse, ?_⟩
    refine require_bind_eq_ok.mpr ⟨htenant, ?_⟩
    refine require_bind_eq_ok.mpr ⟨hclass, ?_⟩
    refine Except.bind_eq_ok.mpr ⟨p, hp, ?_⟩
    refine require_bind_eq_ok.mpr ⟨hmin, ?_⟩
    refine Except.bind_eq_ok.mpr ⟨_, KmsKeyReference.canonicalRef_of_parse hparse, ?_⟩
    exact require_bind_eq_ok.mpr ⟨hdestroyed, rfl⟩

/-- The adapter accepts the reference for this tenant and data class. -/
def Usable (kms : LocalKmsAdapter) (tenantId : String) (dataClass : DataClass)
    (kmsKeyRef : String) : Prop :=
  ∃ ref, kms.validateKeyRef tenantId dataClass kmsKeyRef = .ok ref

/-- A reference is usable or not whatever whitespace surrounds it. -/
theorem usable_strip {kms : LocalKmsAdapter} {tenantId : String} {dataClass : DataClass}
    {kmsKeyRef : String} :
    kms.Usable tenantId dataClass (Text.strip kmsKeyRef) ↔
      kms.Usable tenantId dataClass kmsKeyRef := by
  simp only [Usable, validateKeyRef_eq_ok, KmsKeyReference.parse_strip, Text.strip_strip]

/-- Destroying a reference makes exactly that reference unusable. -/
theorem usable_destroy {kms : LocalKmsAdapter} {tenantId : String} {dataClass : DataClass}
    {kmsKeyRef destroyed : String} :
    (kms.destroy destroyed).Usable tenantId dataClass kmsKeyRef ↔
      kms.Usable tenantId dataClass kmsKeyRef ∧ Text.strip kmsKeyRef ≠ destroyed := by
  simp only [Usable, validateKeyRef_eq_ok, destroy, Finset.mem_insert, not_or]
  constructor
  · rintro ⟨ref, hparse, htenant, hclass, hp, hne, hkept⟩
    exact ⟨⟨ref, hparse, htenant, hclass, hp, hkept⟩, hne⟩
  · rintro ⟨⟨ref, hparse, htenant, hclass, hp, hkept⟩, hne⟩
    exact ⟨ref, hparse, htenant, hclass, hp, hne, hkept⟩

/-! ## Validation requests -/

/-- **A well-formed request is answered exactly when its reference is usable.** -/
theorem answers_iff (kms : LocalKmsAdapter) (raw : KmsKeyReferenceRequest) :
    (∃ evidence, (raw.validate >>= kms.validateKeyReference H) = .ok evidence) ↔
      raw.normalized.errors = [] ∧
        kms.Usable (Text.strip raw.tenantId) raw.dataClass raw.kmsKeyRef := by
  constructor
  · rintro ⟨evidence, h⟩
    obtain ⟨request, hvalid, h⟩ := Except.bind_eq_ok.mp h
    obtain ⟨herrors, rfl⟩ := KmsKeyReferenceRequest.validate_eq_ok.mp hvalid
    obtain ⟨ref, href, -⟩ := Except.bind_eq_ok.mp h
    exact ⟨herrors, usable_strip.mp ⟨ref, href⟩⟩
  · rintro ⟨herrors, husable⟩
    obtain ⟨ref, href⟩ := usable_strip.mpr husable
    have hparse := (validateKeyRef_eq_ok.mp href).1
    have hcanonical := KmsKeyReference.canonicalRef_of_parse hparse
    rw [Text.strip_strip] at hcanonical
    obtain ⟨-, hkey, -, haudit, htime⟩ := KmsKeyReferenceRequest.errors_eq_nil.mp herrors
    simp only [KmsKeyReferenceRequest.normalized] at hkey haudit htime
    -- the evidence is drafted from the stripped request, whose texts were accepted
    have hdraft := buildKmsOperationEvidence_isOk (H := H) {
      operation := .validateKeyReference
      tenantId := raw.normalized.tenantId
      dataClass := raw.dataClass
      kmsKeyRef := Text.strip raw.kmsKeyRef
      keyVersion := ref.keyVersion
      providerProfile := kms.providerProfile
      requestedBy := raw.normalized.requestedBy
      auditChainRef := raw.normalized.auditChainRef
      occurredAtUtc := raw.normalized.occurredAtUtc
      keyUse := raw.keyUse
      objectId := raw.objectId
      sourceVersionId := raw.sourceVersionId }
      (by simp [KmsOperationEvidence.errors, KmsOperationEvidence.normalized,
        KmsKeyReferenceRequest.normalized, hkey, haudit, htime, ref.positive,
        isNamespacedRef_zeroHash]) rfl
    obtain ⟨evidence, hevidence⟩ := hdraft
    refine ⟨evidence, Except.bind_eq_ok.mpr ⟨raw.normalized,
      KmsKeyReferenceRequest.validate_eq_ok.mpr ⟨herrors, rfl⟩, ?_⟩⟩
    refine Except.bind_eq_ok.mpr ⟨ref, href, ?_⟩
    exact Except.bind_eq_ok.mpr ⟨_, hcanonical, hevidence⟩

/-! ## Rotation -/

/-- Rotation answers with the stripped current reference and its next version. -/
theorem rotateKeyReference_eq_ok {kms : LocalKmsAdapter} {command : KmsRotateKeyCommand}
    {rotation : KmsRotationResult} (h : kms.rotateKeyReference H command = .ok rotation) :
    ∃ ref next, kms.validateKeyRef command.tenantId command.dataClass
        command.currentKmsKeyRef = .ok ref ∧
      KmsKeyReference.make ref.tenantId ref.dataClass (ref.keyVersion + 1) = .ok next ∧
      next.canonicalRef = .ok rotation.newKmsKeyRef ∧
      isNamespacedRef rotation.newKmsKeyRef = true ∧
      rotation.previousKmsKeyRef = Text.strip command.currentKmsKeyRef := by
  obtain ⟨ref, href, h⟩ := Except.bind_eq_ok.mp h
  obtain ⟨next, hnext, h⟩ := Except.bind_eq_ok.mp h
  obtain ⟨current, hcurrent, h⟩ := Except.bind_eq_ok.mp h
  obtain ⟨new, hnew, h⟩ := Except.bind_eq_ok.mp h
  obtain ⟨evidence, hevidence, h⟩ := Except.bind_eq_ok.mp h
  cases h
  refine ⟨ref, next, href, hnext, hnew, ?_, ?_⟩
  · have herrors := (buildKmsOperationEvidence_eq_ok.mp hevidence).1
    simp only [KmsOperationEvidence.errors, KmsOperationEvidence.normalized, Option.map_some,
      requireOptional_some, List.append_eq_nil_iff, requireNamespacedRef_eq_nil,
      KmsKeyReference.strip_canonicalRef hnew] at herrors
    exact herrors.1.1.2
  rw [KmsKeyReference.canonicalRef_of_parse (validateKeyRef_eq_ok.mp href).1] at hcurrent
  cases hcurrent
  rfl

/-- The evidence of a rotation is hashed. -/
theorem rotateKeyReference_evidence {kms : LocalKmsAdapter} {command : KmsRotateKeyCommand}
    {rotation : KmsRotationResult} (h : kms.rotateKeyReference H command = .ok rotation) :
    ∃ payload, rotation.evidence.evidenceHash = hashJson H payload := by
  obtain ⟨_, -, h⟩ := Except.bind_eq_ok.mp h
  obtain ⟨_, -, h⟩ := Except.bind_eq_ok.mp h
  obtain ⟨_, -, h⟩ := Except.bind_eq_ok.mp h
  obtain ⟨_, -, h⟩ := Except.bind_eq_ok.mp h
  obtain ⟨evidence, hevidence, h⟩ := Except.bind_eq_ok.mp h
  cases h
  obtain ⟨-, -, rfl⟩ := buildKmsOperationEvidence_eq_ok.mp hevidence
  exact ⟨_, rfl⟩

/-- Rotation returns when the current reference is accepted and both texts are references. -/
theorem rotateKeyReference_isOk {kms : LocalKmsAdapter} {command : KmsRotateKeyCommand}
    {ref next : KmsKeyReference} {new : String}
    (href : kms.validateKeyRef command.tenantId command.dataClass command.currentKmsKeyRef =
      .ok ref)
    (hnext : KmsKeyReference.make ref.tenantId ref.dataClass (ref.keyVersion + 1) = .ok next)
    (hnew : next.canonicalRef = .ok new)
    (hcurrent : isNamespacedRef (Text.strip command.currentKmsKeyRef) = true)
    (hnamespaced : isNamespacedRef new = true)
    (haudit : isNamespacedRef (Text.strip command.auditChainRef) = true)
    (htime : isUtcTimestamp (Text.strip command.occurredAtUtc) = true) :
    ∃ rotation, kms.rotateKeyReference H command = .ok rotation ∧ rotation.newKmsKeyRef = new := by
  have hcanonical :=
    KmsKeyReference.canonicalRef_of_parse (validateKeyRef_eq_ok.mp href).1
  -- the evidence names both references, the current one and the next
  obtain ⟨evidence, hevidence⟩ := buildKmsOperationEvidence_isOk (H := H) {
      operation := .rotateKeyReference
      tenantId := command.tenantId
      dataClass := command.dataClass
      kmsKeyRef := Text.strip command.currentKmsKeyRef
      keyVersion := ref.keyVersion
      providerProfile := kms.providerProfile
      requestedBy := command.requestedBy
      approvedBy := some command.approvedBy
      auditChainRef := command.auditChainRef
      occurredAtUtc := command.occurredAtUtc
      keyUse := .keyRotation
      previousKmsKeyRef := some (Text.strip command.currentKmsKeyRef)
      newKmsKeyRef := some new
      reason := some command.reason }
    (by simp [KmsOperationEvidence.errors, KmsOperationEvidence.normalized, hcurrent, haudit,
      htime, ref.positive, isNamespacedRef_zeroHash, KmsKeyReference.strip_canonicalRef hnew,
      hnamespaced]) rfl
  refine ⟨⟨Text.strip command.currentKmsKeyRef, new, evidence⟩, ?_, rfl⟩
  refine Except.bind_eq_ok.mpr ⟨ref, href, ?_⟩
  refine Except.bind_eq_ok.mpr ⟨next, hnext, ?_⟩
  refine Except.bind_eq_ok.mpr ⟨_, hcanonical, ?_⟩
  refine Except.bind_eq_ok.mpr ⟨_, hnew, ?_⟩
  exact Except.bind_eq_ok.mpr ⟨evidence, hevidence, rfl⟩

/-- The next version of a usable reference passes every check but the one
against destroyed references. -/
theorem usable_next_iff {kms : LocalKmsAdapter} {tenantId : String} {dataClass : DataClass}
    {kmsKeyRef new : String} {ref next : KmsKeyReference}
    (href : kms.validateKeyRef tenantId dataClass kmsKeyRef = .ok ref)
    (hnext : KmsKeyReference.make ref.tenantId ref.dataClass (ref.keyVersion + 1) = .ok next)
    (hnew : next.canonicalRef = .ok new) :
    kms.Usable tenantId dataClass new ↔ new ∉ kms.destroyedKeyRefs := by
  obtain ⟨hparse, htenant, hclass, ⟨p, hp, hmin⟩, -⟩ := validateKeyRef_eq_ok.mp href
  obtain ⟨hnextTenant, hnextClass, hnextVersion⟩ := KmsKeyReference.make_eq_ok hnext
  rw [ref.stripped] at hnextTenant
  have hstrip := KmsKeyReference.strip_canonicalRef hnew
  constructor
  · rintro ⟨found, hfound⟩
    have := (validateKeyRef_eq_ok.mp hfound).2.2.2.2
    rwa [hstrip] at this
  · intro hkept
    refine ⟨next, validateKeyRef_eq_ok.mpr ⟨?_, ?_, ?_, ⟨p, hp, ?_⟩, ?_⟩⟩
    · refine KmsKeyReference.parse_eq_ok.mpr ⟨by rw [hstrip]; exact hnew, ?_⟩
      rw [hnextTenant]
      exact (KmsKeyReference.parse_eq_ok.mp hparse).2
    · rw [hnextTenant, htenant]
    · rw [hnextClass, hclass]
    · omega
    · rwa [hstrip]

/-! ## Destruction -/

/-- **A destruction adds its reference to the destroyed ones, or changes nothing.** -/
theorem recordKeyDestruction_spec {kms kms' : LocalKmsAdapter} {command : KmsDestroyKeyCommand}
    {result : KmsKeyDestructionResult}
    (h : recordKeyDestruction H command kms = (.ok result, kms')) :
    ∃ ref p, kms.validateKeyRef command.tenantId command.dataClass command.kmsKeyRef = .ok ref ∧
      kms.policy.dataClassPolicy command.dataClass = .ok p ∧
      requireKeyDestructionAllowed p command = .ok () ∧
      kms' = kms.destroy (Text.strip command.kmsKeyRef) ∧
      result.kmsKeyRef = Text.strip command.kmsKeyRef := by
  unfold recordKeyDestruction at h
  obtain ⟨_, _, hget, h⟩ := Eff.bind_eq_ok.mp h
  cases hget
  obtain ⟨⟨ref, canonical⟩, _, htarget, h⟩ := Eff.bind_eq_ok.mp h
  simp only [Eff.lift_apply, Prod.mk.injEq] at htarget
  obtain ⟨htarget, rfl⟩ := htarget
  obtain ⟨_, _, hset, h⟩ := Eff.bind_eq_ok.mp h
  cases hset
  obtain ⟨evidence, _, hevidence, h⟩ := Eff.bind_eq_ok.mp h
  simp only [Eff.lift_apply, Prod.mk.injEq] at hevidence
  obtain ⟨-, rfl⟩ := hevidence
  cases h
  obtain ⟨found, hfound, htarget⟩ := Except.bind_eq_ok.mp htarget
  obtain ⟨p, hp, htarget⟩ := Except.bind_eq_ok.mp htarget
  obtain ⟨_, hallowed, htarget⟩ := Except.bind_eq_ok.mp htarget
  obtain ⟨text, htext, htarget⟩ := Except.bind_eq_ok.mp htarget
  rw [KmsKeyReference.canonicalRef_of_parse (validateKeyRef_eq_ok.mp hfound).1] at htext
  cases htext
  cases htarget
  exact ⟨ref, p, hfound, hp, hallowed, rfl, rfl⟩

/-- What a destruction leaves behind, also when it raises. -/
theorem recordKeyDestruction_state (kms : LocalKmsAdapter) (command : KmsDestroyKeyCommand) :
    (recordKeyDestruction H command kms).2 = kms ∨
      (recordKeyDestruction H command kms).2 = kms.destroy (Text.strip command.kmsKeyRef) := by
  unfold recordKeyDestruction
  rw [Eff.bind_of_ok (Eff.get_apply _), Eff.lift_bind_apply]
  cases htarget : kms.destructionTarget command with
  | error exn => exact .inl rfl
  | ok target =>
    obtain ⟨ref, canonical⟩ := target
    obtain ⟨found, hfound, htarget⟩ := Except.bind_eq_ok.mp htarget
    obtain ⟨_, -, htarget⟩ := Except.bind_eq_ok.mp htarget
    obtain ⟨_, -, htarget⟩ := Except.bind_eq_ok.mp htarget
    obtain ⟨text, htext, htarget⟩ := Except.bind_eq_ok.mp htarget
    rw [KmsKeyReference.canonicalRef_of_parse (validateKeyRef_eq_ok.mp hfound).1] at htext
    cases htext
    cases htarget
    right
    dsimp only
    rw [Eff.bind_of_ok (Eff.set_apply _ _), Eff.lift_bind_apply]
    split <;> rfl

/-- A destruction returns when its reference is accepted, the policy allows it and the
command's fields are those of an accepted model. -/
theorem recordKeyDestruction_isOk {kms : LocalKmsAdapter} {command : KmsDestroyKeyCommand}
    {ref : KmsKeyReference} {p : KmsDataClassKeyPolicy}
    (href : kms.validateKeyRef command.tenantId command.dataClass command.kmsKeyRef = .ok ref)
    (hp : kms.policy.dataClassPolicy command.dataClass = .ok p)
    (hallowed : requireKeyDestructionAllowed p command = .ok ())
    (hkey : isNamespacedRef (Text.strip command.kmsKeyRef) = true)
    (haudit : isNamespacedRef (Text.strip command.auditChainRef) = true)
    (happroval : isNamespacedRef (Text.strip command.approvalRef) = true)
    (htime : isUtcTimestamp (Text.strip command.occurredAtUtc) = true) :
    ∃ evidence draft, recordKeyDestruction H command kms =
        (.ok ⟨Text.strip command.kmsKeyRef, evidence⟩,
          kms.destroy (Text.strip command.kmsKeyRef)) ∧
      evidence.evidenceHash = buildKmsOperationEvidenceHash H draft := by
  have hcanonical := KmsKeyReference.canonicalRef_of_parse (validateKeyRef_eq_ok.mp href).1
  -- reference, policy and approval are checked before anything is destroyed
  have htarget : kms.destructionTarget command = .ok (ref, Text.strip command.kmsKeyRef) :=
    Except.bind_eq_ok.mpr ⟨ref, href, Except.bind_eq_ok.mpr ⟨p, hp, Except.bind_eq_ok.mpr
      ⟨(), hallowed, Except.bind_eq_ok.mpr ⟨_, hcanonical, rfl⟩⟩⟩⟩
  obtain ⟨evidence, hevidence⟩ := buildKmsOperationEvidence_isOk (H := H) {
      operation := .recordKeyDestruction
      tenantId := command.tenantId
      dataClass := command.dataClass
      kmsKeyRef := Text.strip command.kmsKeyRef
      keyVersion := ref.keyVersion
      providerProfile := kms.providerProfile
      requestedBy := command.requestedBy
      approvedBy := some command.approvedBy
      auditChainRef := command.auditChainRef
      occurredAtUtc := command.occurredAtUtc
      keyUse := .keyDestruction
      approvalRef := some command.approvalRef
      reason := some command.reason
      keyDestroyed := true }
    (by simp [KmsOperationEvidence.errors, KmsOperationEvidence.normalized, hkey, haudit, htime,
      ref.positive, isNamespacedRef_zeroHash, happroval]) rfl
  obtain ⟨-, -, hbuilt⟩ := buildKmsOperationEvidence_eq_ok.mp hevidence
  refine ⟨evidence, _, ?_, by rw [hbuilt]⟩
  -- the key is destroyed in the state, and the evidence is made after that
  unfold recordKeyDestruction
  rw [Eff.bind_of_ok (Eff.get_apply _), Eff.lift_bind_apply, htarget]
  dsimp only
  rw [Eff.bind_of_ok (Eff.set_apply _ _), Eff.lift_bind_apply, hevidence]
  rfl

end LocalKmsAdapter

/-! ## A sample adapter

One tenant's adapter with nothing destroyed, for statements about concrete runs. -/

def samplePolicy : KmsAdapterPolicy where
  schemaVersion := "kms_adapter_policy.v1"
  owner := "platform"
  defaultProviderProfile := "local_dev"
  providerProfiles := ["local_dev"]
  requiredKeyHierarchy := KmsAdapterPolicy.requiredHierarchy
  forbiddenOperations := KmsAdapterPolicy.requiredForbidden
  requiredEvidenceFields := ["evidence_hash"]
  dataClassKeyPolicies := DataClass.all.map fun d =>
    { dataClass := d, rotationPeriodDays := 365, cryptoshredAllowed := !d.isRecord }

theorem samplePolicy_valid : samplePolicy.validate = .ok samplePolicy := by rfl

def sampleKms : LocalKmsAdapter := ⟨samplePolicy, "local_dev", ∅, samplePolicy_valid⟩

def sampleKeyRef : KmsKeyReference := ⟨"acme", .internal, 1, by decide, by decide, by decide⟩

theorem sampleKms_accepts :
    sampleKms.validateKeyRef "acme" .internal "kms://acme/internal/v1" = .ok sampleKeyRef := by
  decide +kernel

theorem isUtcTimestamp_sample : isUtcTimestamp "2026-01-05T09:00:00Z" = true := by
  decide +kernel

end Collabio
