import Mathlib.Tactic
import Collabio.Kms.RoundTrip

/-!
# Chains of rewraps

A rewrap moves the data key of an envelope to the next key version. Each link
of a chain has a KMS state of its own: keys may be destroyed between links.

* `RewrapLink.preserves_iff`    — one rewrap keeps the data readable exactly
  when the version it moves to is not destroyed. Rotation names the next
  version without asking whether it was destroyed; validation does ask;
* `rewrap_chain_preserves_iff`  — the same along a chain of any length.
-/

namespace Collabio

variable {H : HashFunctions}

namespace LocalEnvelopeEncryptionService

variable {service : LocalEnvelopeEncryptionService}

/-! ## One rewrap -/

/-- What acceptance by the request model says about its fields. -/
theorem rewrapRequest_of_validate {raw request : EnvelopeRewrapRequest}
    (h : raw.validate = .ok request) :
    request.normalized = request ∧ request.tenantId ≠ "" ∧ request.objectId ≠ "" ∧
      request.sourceVersionId ≠ "" ∧ authTagBytes < request.ciphertext.length ∧
      request.requestedBy ≠ "" ∧ request.approvedBy ≠ "" ∧
      isUtcTimestamp request.occurredAtUtc = true ∧ request.reason ≠ "" := by
  obtain ⟨herrors, rfl⟩ := accept_eq_ok.mp h
  have hnormal : raw.normalized.normalized = raw.normalized := by
    simp [EnvelopeRewrapRequest.normalized]
  simp only [EnvelopeRewrapRequest.errors, List.append_eq_nil_iff, requireNonEmpty_eq_nil,
    requireCiphertext_eq_nil, requireUtcTimestamp_eq_nil] at herrors
  obtain ⟨⟨⟨⟨⟨⟨⟨⟨⟨htenant, hobject⟩, hversion⟩, hlength⟩, -⟩, -⟩, hrequested⟩, happroved⟩, htime⟩,
    hreason⟩ := herrors
  exact ⟨hnormal, htenant, hobject, hversion, hlength, hrequested, happroved, htime, hreason⟩

/-- An accepted rewrap request is sent to the KMS as it is. -/
theorem rotationCommand_normalized {request : EnvelopeRewrapRequest}
    (hnormal : request.normalized = request) :
    (rotationCommand request).normalized =
      { rotationCommand request with auditChainRef := Text.strip request.auditChainRef } := by
  simp only [EnvelopeRewrapRequest.normalized, EnvelopeRewrapRequest.ext_iff] at hnormal
  obtain ⟨htenant, -, -, -, -, -, -, hcurrent, -, hrequested, happroved, -, htime, hreason⟩ :=
    hnormal
  simp only [rotationCommand, KmsRotateKeyCommand.normalized, htenant, hcurrent, hrequested,
    happroved, htime, hreason]

/-- **What a successful rewrap knows**: a current reference the KMS accepts, its
next version, and that the manifest was the request's own. -/
theorem rewrap_references {kms : LocalKmsAdapter} {raw request : EnvelopeRewrapRequest}
    {result : EnvelopeRewrapResult} (hvalid : raw.validate = .ok request)
    (h : service.rewrap H kms request = .ok result) :
    ∃ ref next, kms.validateKeyRef request.tenantId request.dataClass request.currentKmsKeyRef =
        .ok ref ∧
      KmsKeyReference.make ref.tenantId ref.dataClass (ref.keyVersion + 1) = .ok next ∧
      next.canonicalRef = .ok request.newKmsKeyRef ∧
      isNamespacedRef request.newKmsKeyRef = true ∧
      isNamespacedRef (Text.strip request.auditChainRef) = true ∧
      request.currentKmsKeyRef = request.manifest.kmsKeyRef ∧
      result.manifest.kmsKeyRef = request.newKmsKeyRef ∧
      result.manifest.tenantId = request.tenantId ∧
      result.manifest.dataClass = request.dataClass ∧
      result.manifest.HasValidIds ∧
      result.manifest.previousManifestHash = some request.manifest.manifestHash ∧
      result.manifest.previousKmsKeyRef = some request.manifest.kmsKeyRef := by
  obtain ⟨hnormal, htenantNe, hobjectNe, hversionNe, -⟩ := rewrapRequest_of_validate hvalid
  obtain ⟨dataKey, rotation, hmatch, -, herrors, hrotation, hnew, rfl⟩ := rewrap_eq_ok h
  rw [rotationCommand_normalized hnormal] at herrors hrotation
  obtain ⟨ref, next, href, hnext, hcanonical, hnamespaced, hprevious⟩ :=
    LocalKmsAdapter.rotateKeyReference_eq_ok hrotation
  obtain ⟨-, hcurrent, hclass, hobject, hversion, htenant⟩ :=
    requireRewrapRequestMatchesManifest_eq_ok.mp hmatch
  obtain ⟨-, -, -, -, haudit, -⟩ := KmsRotateKeyCommand.errors_eq_nil.mp herrors
  -- the rewrapped manifest has the request's names, stripped when it was accepted
  simp only [EnvelopeRewrapRequest.normalized, EnvelopeRewrapRequest.ext_iff] at hnormal
  obtain ⟨htenantStrip, hobjectStrip, hversionStrip, -, -, -, -, hcurrentStrip, -⟩ := hnormal
  rw [hnew] at hcanonical hnamespaced
  refine ⟨ref, next, href, hnext, hcanonical, hnamespaced, haudit, hcurrent, hnew, htenant.symm,
    hclass.symm, ⟨?_, ?_, ?_⟩, rfl, ?_⟩
  · show Text.strip request.manifest.tenantId = request.manifest.tenantId ∧
      request.manifest.tenantId ≠ ""
    rw [← htenant]
    exact ⟨htenantStrip, htenantNe⟩
  · show Text.strip request.manifest.objectId = request.manifest.objectId ∧
      request.manifest.objectId ≠ ""
    rw [← hobject]
    exact ⟨hobjectStrip, hobjectNe⟩
  · show Text.strip request.manifest.sourceVersionId = request.manifest.sourceVersionId ∧
      request.manifest.sourceVersionId ≠ ""
    rw [← hversion]
    exact ⟨hversionStrip, hversionNe⟩
  · show some rotation.previousKmsKeyRef = _
    rw [hprevious, ← hcurrent]
    exact congrArg some hcurrentStrip

/-- A rewrapped manifest is about the same version of the same object. -/
theorem rewrap_ids {kms : LocalKmsAdapter} {request : EnvelopeRewrapRequest}
    {result : EnvelopeRewrapResult} (h : service.rewrap H kms request = .ok result) :
    result.manifest.tenantId = request.manifest.tenantId ∧
      result.manifest.objectId = request.manifest.objectId ∧
      result.manifest.sourceVersionId = request.manifest.sourceVersionId := by
  obtain ⟨_, _, -, -, -, -, -, rfl⟩ := rewrap_eq_ok h
  exact ⟨rfl, rfl, rfl⟩

/-- A rewrap returns when its manifest opens the ciphertext and its references fit. -/
theorem rewrap_isOk {kms : LocalKmsAdapter} {raw request : EnvelopeRewrapRequest}
    {ref next : KmsKeyReference} {dataKey plaintext : Bytes}
    (hvalid : raw.validate = .ok request)
    (hmatch : requireRewrapRequestMatchesManifest request = .ok ())
    (hopens : service.Opens H request.manifest request.aad request.ciphertext dataKey plaintext)
    (href : kms.validateKeyRef request.tenantId request.dataClass request.currentKmsKeyRef =
      .ok ref)
    (hnext : KmsKeyReference.make ref.tenantId ref.dataClass (ref.keyVersion + 1) = .ok next)
    (hcanonical : next.canonicalRef = .ok request.newKmsKeyRef)
    (hcurrentRef : isNamespacedRef request.currentKmsKeyRef = true)
    (hnewRef : isNamespacedRef request.newKmsKeyRef = true)
    (haudit : isNamespacedRef (Text.strip request.auditChainRef) = true) :
    ∃ result, service.rewrap H kms request = .ok result := by
  obtain ⟨hnormal, htenantNe, -, -, -, hrequested, happroved, htime, hreason⟩ :=
    rewrapRequest_of_validate hvalid
  obtain ⟨-, hcurrent, hclass, hobject, hversion, htenant⟩ :=
    requireRewrapRequestMatchesManifest_eq_ok.mp hmatch
  have haad : canonicalEnvelopeAadBytes request.tenantId request.objectId request.sourceVersionId
      request.dataClass request.aad = aadBytesOf request.manifest request.aad := by
    rw [hclass, hobject, hversion, htenant, aadBytesOf]
  have hcommand := rotationCommand_normalized hnormal
  simp only [EnvelopeRewrapRequest.normalized, EnvelopeRewrapRequest.ext_iff] at hnormal
  obtain ⟨htenantStrip, -, -, -, -, -, -, hcurrentStrip, -, hrequestedStrip, -, -, htimeStrip, -⟩ :=
    hnormal
  -- the KMS answers for the current reference, since the request's texts were accepted
  obtain ⟨evidence, hkms⟩ := (LocalKmsAdapter.answers_iff (H := H) kms {
      tenantId := request.tenantId
      dataClass := request.dataClass
      kmsKeyRef := request.currentKmsKeyRef
      requestedBy := request.requestedBy
      auditChainRef := request.auditChainRef
      occurredAtUtc := request.occurredAtUtc
      keyUse := .envelopeDecryption
      objectId := some request.objectId
      sourceVersionId := some request.sourceVersionId }).mpr
    ⟨by
      rw [KmsKeyReferenceRequest.errors_eq_nil]
      simp only [KmsKeyReferenceRequest.normalized, htenantStrip, hcurrentStrip, hrequestedStrip,
        htimeStrip]
      exact ⟨htenantNe, hcurrentRef, hrequested, haudit, htime⟩,
      ⟨ref, by rw [htenantStrip]; exact href⟩⟩
  obtain ⟨kmsRequest, hkmsValid, hkmsEvidence⟩ := Except.bind_eq_ok.mp hkms
  -- and it rotates this reference to the next one
  obtain ⟨rotation, hrotation, hnew⟩ := @LocalKmsAdapter.rotateKeyReference_isOk H kms
    (rotationCommand request).normalized _ _ _
    (by rw [hcommand]; exact href) hnext hcanonical
    (by rw [hcommand]; simpa [rotationCommand, hcurrentStrip] using hcurrentRef) hnewRef
    (by rw [hcommand]; simpa using haudit)
    (by rw [hcommand]; simpa [rotationCommand, htimeStrip] using htime)
  have hcommandValid : (rotationCommand request).validate =
      .ok (rotationCommand request).normalized := by
    refine KmsRotateKeyCommand.validate_eq_ok.mpr ⟨?_, rfl⟩
    rw [KmsRotateKeyCommand.errors_eq_nil, hcommand]
    exact ⟨htenantNe, hcurrentRef, hrequested, happroved, haudit, htime, hreason⟩
  refine ⟨{
    manifest := rewrappedManifest H request rotation
      (wrappedKey H service.providerSecret dataKey rotation.newKmsKeyRef)
    previousManifestHash := request.manifest.manifestHash
    previousKmsKeyRef := rotation.previousKmsKeyRef
    newKmsKeyRef := rotation.newKmsKeyRef
    kmsRotationEvidence := rotation.evidence }, require_bind_eq_ok.mpr ⟨hopens.hash, ?_⟩⟩
  -- every check of the rewrap passes, in the order of the code
  refine Except.bind_eq_ok.mpr ⟨(), hmatch, ?_⟩
  rw [haad]
  refine Except.bind_eq_ok.mpr ⟨(), hopens.hashes, ?_⟩
  refine Except.bind_eq_ok.mpr ⟨kmsRequest, hkmsValid, ?_⟩
  refine Except.bind_eq_ok.mpr ⟨evidence, hkmsEvidence, ?_⟩
  refine Except.bind_eq_ok.mpr ⟨dataKey, by rw [hcurrent]; exact hopens.key, ?_⟩
  refine Except.bind_eq_ok.mpr ⟨_, hcommandValid, ?_⟩
  refine Except.bind_eq_ok.mpr ⟨rotation, hrotation, ?_⟩
  refine require_bind_eq_ok.mpr ⟨hnew, ?_⟩
  exact Except.bind_eq_ok.mpr ⟨_, wrapDataKey_eq .., rfl⟩

/-! ## Chains -/

/-- One successful rewrap, with the KMS state it ran in. -/
structure RewrapLink where
  kms     : LocalKmsAdapter
  request : EnvelopeRewrapRequest
  result  : EnvelopeRewrapResult

/-- Successful rewraps of one ciphertext, each from the manifest of the one before. -/
inductive RewrapChain (H : HashFunctions) (service : LocalEnvelopeEncryptionService)
    (ciphertext : Bytes) (aad : Dict String String) :
    EnvelopeEncryptionManifest → List RewrapLink → Prop
  | nil (manifest : EnvelopeEncryptionManifest) : RewrapChain H service ciphertext aad manifest []
  | cons {raw : EnvelopeRewrapRequest} {link : RewrapLink} {links : List RewrapLink}
      (valid : raw.validate = .ok link.request)
      (same_ciphertext : link.request.ciphertext = ciphertext)
      (same_aad : link.request.aad = aad)
      (rewrapped : service.rewrap H link.kms link.request = .ok link.result)
      (rest : RewrapChain H service ciphertext aad link.result.manifest links) :
      RewrapChain H service ciphertext aad link.request.manifest (link :: links)

/-- What a rewrap is meant to keep: the new manifest decrypts to the same text
in the same KMS state, the version has grown by one, and the manifest names its
predecessor. -/
structure RewrapLink.Preserves (H : HashFunctions) (service : LocalEnvelopeEncryptionService)
    (plaintext : Bytes) (link : RewrapLink) : Prop where
  decrypts     : ∀ caller : Caller, caller.Accepted → ∃ result,
                   service.decryptWith H link.kms link.result.manifest link.request.ciphertext
                     link.request.aad caller = .ok result ∧ result.plaintext = plaintext
  version      : ∃ current next,
                   KmsKeyReference.parse link.request.manifest.kmsKeyRef = .ok current ∧
                   KmsKeyReference.parse link.result.manifest.kmsKeyRef = .ok next ∧
                   next.keyVersion = current.keyVersion + 1
  previousHash : link.result.manifest.previousManifestHash =
                   some link.request.manifest.manifestHash
  previousRef  : link.result.manifest.previousKmsKeyRef = some link.request.manifest.kmsKeyRef

/-- **One rewrap** keeps the data readable exactly when the version it moves to
is not destroyed in that KMS state. -/
theorem RewrapLink.preserves_iff {raw : EnvelopeRewrapRequest} {link : RewrapLink}
    {dataKey plaintext : Bytes} (hvalid : raw.validate = .ok link.request)
    (h : service.rewrap H link.kms link.request = .ok link.result)
    (hopens : service.Opens H link.request.manifest link.request.aad link.request.ciphertext
      dataKey plaintext) :
    link.Preserves H service plaintext ↔
      link.request.newKmsKeyRef ∉ link.kms.destroyedKeyRefs := by
  obtain ⟨hnormal, -, -, -, hlength, hrequested, -, htime, -⟩ := rewrapRequest_of_validate hvalid
  obtain ⟨ref, next, href, hnext, hcanonical, hnamespaced, haudit, hcurrent, hmanifestRef,
    hmanifestTenant, hmanifestClass, hids, hpreviousHash, hpreviousRef⟩ :=
    rewrap_references hvalid h
  have husable := LocalKmsAdapter.usable_next_iff href hnext hcanonical
  simp only [EnvelopeRewrapRequest.normalized, EnvelopeRewrapRequest.ext_iff] at hnormal
  obtain ⟨htenantStrip, -, -, -, -, -, -, -, hnewStrip, hrequestedStrip, -, -, htimeStrip, -⟩ :=
    hnormal
  constructor
  · intro hpreserves
    -- a decryption that returns was granted by the KMS for the new reference
    obtain ⟨result, hresult, -⟩ := hpreserves.decrypts
      ⟨link.request.requestedBy, link.request.auditChainRef, link.request.occurredAtUtc⟩
      ⟨by rw [hrequestedStrip]; exact hrequested, haudit, by rw [htimeStrip]; exact htime⟩
    have hgranted := (opens_of_decryptWith hresult).2
    rw [hmanifestRef, hmanifestTenant, hmanifestClass, htenantStrip] at hgranted
    exact husable.mp hgranted
  · intro hkept
    -- whoever calls, the rewrapped manifest opens, and its reference is usable
    refine ⟨fun caller hcaller => ?_, ⟨ref, next, ?_, ?_, ?_⟩, hpreviousHash, hpreviousRef⟩
    · refine decryptWith_of_opens (rewrap_opens h hopens) hids hlength ?_ hcaller ?_
      · rw [hmanifestRef, hnewStrip]
        exact hnamespaced
      · rw [hmanifestRef, hmanifestTenant, hmanifestClass]
        exact husable.mpr hkept
    · rw [← hcurrent]
      exact (LocalKmsAdapter.validateKeyRef_eq_ok.mp href).1
    · rw [hmanifestRef]
      refine KmsKeyReference.parse_eq_ok.mpr ⟨by rw [hnewStrip]; exact hcanonical, ?_⟩
      rw [(KmsKeyReference.make_eq_ok hnext).1, ref.stripped]
      exact (KmsKeyReference.parse_eq_ok.mp (LocalKmsAdapter.validateKeyRef_eq_ok.mp href).1).2
    · exact (KmsKeyReference.make_eq_ok hnext).2.2

/-- The links of a chain, from a manifest that opens the ciphertext. -/
theorem RewrapChain.preserves_iff {ciphertext : Bytes} {aad : Dict String String}
    {manifest : EnvelopeEncryptionManifest} {links : List RewrapLink} {dataKey plaintext : Bytes}
    (hchain : RewrapChain H service ciphertext aad manifest links)
    (hopens : service.Opens H manifest aad ciphertext dataKey plaintext) :
    (∀ link ∈ links, link.Preserves H service plaintext) ↔
      ∀ link ∈ links, link.request.newKmsKeyRef ∉ link.kms.destroyedKeyRefs := by
  induction hchain with
  | nil => simp
  | cons hvalid hciphertext haad h hrest ih =>
    subst hciphertext haad
    rw [List.forall_mem_cons, List.forall_mem_cons, RewrapLink.preserves_iff hvalid h hopens,
      ih (rewrap_opens h hopens)]

/-- **Chains of rewraps.** From a manifest that some decryption accepted, every
rewrap of a chain preserves the data exactly when no rewrap of it moves to a
key version that is destroyed in its KMS state. -/
theorem rewrap_chain_preserves_iff {kms : LocalKmsAdapter}
    {request : EnvelopeDecryptionRequest} {start : EnvelopeDecryptionResult}
    {links : List RewrapLink}
    (hstart : service.decrypt H kms request = .ok start)
    (hchain : RewrapChain H service request.ciphertext request.aad request.manifest links) :
    (∀ link ∈ links, link.Preserves H service start.plaintext) ↔
      ∀ link ∈ links, link.request.newKmsKeyRef ∉ link.kms.destroyedKeyRefs := by
  obtain ⟨_, _, _, -, -, hopens, rfl⟩ := decrypt_eq_ok.mp hstart
  exact hchain.preserves_iff hopens

/-! ## A concrete rewrap -/

/-- The rewrap of the sample envelope from version 1 to version 2. -/
def sampleRewrap (manifest : EnvelopeEncryptionManifest) (ciphertext : Bytes) :
    EnvelopeRewrapRequest where
  tenantId := "acme"
  objectId := "doc-1"
  sourceVersionId := "v1"
  dataClass := .internal
  ciphertext := ciphertext
  manifest := manifest
  aad := ∅
  currentKmsKeyRef := "kms://acme/internal/v1"
  newKmsKeyRef := "kms://acme/internal/v2"
  requestedBy := "alice"
  approvedBy := "bob"
  auditChainRef := "audit:1"
  occurredAtUtc := "2026-01-05T09:00:00Z"
  reason := "rotation"

def sampleNextRef : KmsKeyReference :=
  ⟨"acme", .internal, 2, sampleKeyRef.stripped, sampleKeyRef.nonEmpty, by decide⟩

theorem strip_sampleRewrap : ∀ text ∈ ["acme", "doc-1", "v1", "kms://acme/internal/v1",
    "kms://acme/internal/v2", "alice", "bob", "2026-01-05T09:00:00Z", "rotation"],
    Text.strip text = text := by decide +kernel

theorem sampleRewrap_normalized (manifest : EnvelopeEncryptionManifest) (ciphertext : Bytes) :
    (sampleRewrap manifest ciphertext).normalized = sampleRewrap manifest ciphertext := by
  have h := strip_sampleRewrap
  simp only [List.forall_mem_cons] at h
  obtain ⟨h1, h2, h3, h4, h5, h6, h7, h8, h9, -⟩ := h
  exact EnvelopeRewrapRequest.ext h1 h2 h3 rfl rfl rfl rfl h4 h5 h6 h7 rfl h8 h9

theorem sampleRewrap_references :
    KmsKeyReference.make sampleKeyRef.tenantId sampleKeyRef.dataClass
        (sampleKeyRef.keyVersion + 1) = .ok sampleNextRef ∧
      sampleNextRef.canonicalRef = .ok "kms://acme/internal/v2" ∧
      isNamespacedRef "kms://acme/internal/v1" = true ∧
      isNamespacedRef "kms://acme/internal/v2" = true ∧
      isNamespacedRef (Text.strip "audit:1") = true := by decide +kernel

/-- The sample encryption returned `payload`, whose manifest opens its ciphertext. -/
structure SampleEncrypted (payload : EnvelopeEncryptedPayload) : Prop where
  encrypted : encrypt default ⟨[]⟩ sampleKms sampleDataKey sampleNonce (sampleRequest "") =
                .ok payload
  opens     : Opens default ⟨[]⟩ payload.manifest ∅ payload.ciphertext sampleDataKey [104, 105]
  tenant    : payload.manifest.tenantId = "acme"
  object    : payload.manifest.objectId = "doc-1"
  version   : payload.manifest.sourceVersionId = "v1"
  dataClass : payload.manifest.dataClass = .internal
  keyRef    : payload.manifest.kmsKeyRef = "kms://acme/internal/v1"
  length    : authTagBytes < payload.ciphertext.length

theorem sampleEncrypted : ∃ payload, SampleEncrypted payload := by
  obtain ⟨herrors, husable⟩ := sampleRequest_answered "" (.inl rfl)
  obtain ⟨payload, hpayload⟩ := (@encrypt_isOk_iff default ⟨[]⟩ _ sampleDataKey sampleNonce _ _
    (sampleRequest_valid "")).mpr
    ⟨herrors, husable, rfl, rfl⟩
  obtain ⟨-, hlength, htenant, hclass, href⟩ := encrypt_manifest (sampleRequest_valid "") hpayload
  have hclean : Text.strip (sampleRequest "").kmsKeyRef = (sampleRequest "").kmsKeyRef := by
    decide +kernel
  rw [hclean] at href
  obtain ⟨evidence, -, -, -, -, rfl⟩ := encrypt_eq_ok.mp hpayload
  exact ⟨_, hpayload, encrypt_opens (sampleRequest_valid "") hclean, htenant,
    strip_sample "doc-1" (by simp), strip_sample "v1" (by simp), hclass, href, hlength⟩

/-- The caller of the sample request. -/
def sampleCaller : Caller := ⟨"alice", "audit:1", "2026-01-05T09:00:00Z"⟩

theorem sampleCaller_accepted : sampleCaller.Accepted := by
  obtain ⟨-, -, hrequested, haudit, htime⟩ := KmsKeyReferenceRequest.errors_eq_nil.mp
    (sampleRequest_answered "" (.inl rfl)).1
  exact ⟨hrequested, haudit, htime⟩

theorem SampleEncrypted.decrypts {payload : EnvelopeEncryptedPayload}
    (h : SampleEncrypted payload) : ∃ result, decryptWith default ⟨[]⟩ sampleKms payload.manifest
      payload.ciphertext ∅ sampleCaller = .ok result := by
  obtain ⟨hids, hlength, -⟩ := encrypt_manifest (sampleRequest_valid "") h.encrypted
  obtain ⟨hnamespaced, hgranted⟩ := encrypt_usable (sampleRequest_valid "") h.encrypted
  obtain ⟨result, hresult, -⟩ :=
    decryptWith_of_opens h.opens hids hlength hnamespaced sampleCaller_accepted hgranted
  exact ⟨result, hresult⟩

/-- In every KMS state that accepts version 1 the sample envelope can be rewrapped. -/
theorem SampleEncrypted.rewraps {payload : EnvelopeEncryptedPayload} {kms : LocalKmsAdapter}
    (h : SampleEncrypted payload)
    (hkms : kms.validateKeyRef "acme" .internal "kms://acme/internal/v1" = .ok sampleKeyRef) :
    (sampleRewrap payload.manifest payload.ciphertext).validate =
        .ok (sampleRewrap payload.manifest payload.ciphertext) ∧
      ∃ result, rewrap default ⟨[]⟩ kms (sampleRewrap payload.manifest payload.ciphertext) =
        .ok result := by
  have hvalid : (sampleRewrap payload.manifest payload.ciphertext).validate =
      .ok (sampleRewrap payload.manifest payload.ciphertext) := by
    refine accept_eq_ok.mpr ⟨?_, sampleRewrap_normalized _ _⟩
    rw [sampleRewrap_normalized]
    simp [EnvelopeRewrapRequest.errors, sampleRewrap, isUtcTimestamp_sample, h.length]
  have hmatch : requireRewrapRequestMatchesManifest
      (sampleRewrap payload.manifest payload.ciphertext) = .ok () :=
    requireRewrapRequestMatchesManifest_eq_ok.mpr ⟨h.opens.length, h.keyRef.symm,
      h.dataClass.symm, h.object.symm, h.version.symm, h.tenant.symm⟩
  obtain ⟨hnext, hcanonical, hcurrentRef, hnewRef, haudit⟩ := sampleRewrap_references
  obtain ⟨result, hresult⟩ := rewrap_isOk hvalid hmatch h.opens hkms hnext hcanonical hcurrentRef
    hnewRef haudit
  exact ⟨hvalid, result, hresult⟩

/-- The sample envelope, rewrapped to version 2 where nothing is destroyed, is still read. -/
theorem SampleEncrypted.rewrapped_decrypts {payload : EnvelopeEncryptedPayload}
    (h : SampleEncrypted payload) :
    (sampleRewrap payload.manifest payload.ciphertext).validate =
        .ok (sampleRewrap payload.manifest payload.ciphertext) ∧
      ∃ result, rewrap default ⟨[]⟩ sampleKms
          (sampleRewrap payload.manifest payload.ciphertext) = .ok result ∧
        result.manifest.tenantId = "acme" ∧ result.manifest.objectId = "doc-1" ∧
        result.manifest.sourceVersionId = "v1" ∧
        result.manifest.kmsKeyRef = "kms://acme/internal/v2" ∧
        ∃ read, decryptWith default ⟨[]⟩ sampleKms result.manifest payload.ciphertext ∅
          sampleCaller = .ok read := by
  obtain ⟨hvalid, result, hresult⟩ := h.rewraps sampleKms_accepts
  obtain ⟨htenant, hobject, hversion⟩ := rewrap_ids hresult
  obtain ⟨_, _, -, -, -, -, -, -, href, -⟩ := rewrap_references hvalid hresult
  have hkept : "kms://acme/internal/v2" ∉ sampleKms.destroyedKeyRefs := by simp [sampleKms]
  have hpreserves := (@RewrapLink.preserves_iff _ _ _
    ⟨sampleKms, sampleRewrap payload.manifest payload.ciphertext, result⟩ _ _
    hvalid hresult h.opens).mpr hkept
  obtain ⟨read, hread, -⟩ := hpreserves.decrypts sampleCaller sampleCaller_accepted
  exact ⟨hvalid, result, hresult, htenant.trans h.tenant, hobject.trans h.object,
    hversion.trans h.version, href, read, hread⟩

/-- In every KMS state that accepts version 1, the sample envelope can be encrypted,
decrypted and rewrapped. -/
theorem sample_rewrap_chain {kms : LocalKmsAdapter}
    (hkms : kms.validateKeyRef "acme" .internal "kms://acme/internal/v1" = .ok sampleKeyRef) :
    ∃ (request : EnvelopeDecryptionRequest) (start : EnvelopeDecryptionResult)
      (raw : EnvelopeRewrapRequest) (link : RewrapLink),
      decrypt default ⟨[]⟩ sampleKms request = .ok start ∧
      raw.validate = .ok link.request ∧
      RewrapChain default ⟨[]⟩ request.ciphertext request.aad request.manifest [link] ∧
      link.kms = kms ∧ link.request.newKmsKeyRef = "kms://acme/internal/v2" := by
  obtain ⟨payload, hpayload⟩ := sampleEncrypted
  obtain ⟨start, hstart⟩ := hpayload.decrypts
  obtain ⟨request, hrequest, hstart⟩ := Except.bind_eq_ok.mp hstart
  obtain ⟨-, rfl⟩ := accept_eq_ok.mp hrequest
  obtain ⟨hvalid, result, hresult⟩ := hpayload.rewraps hkms
  exact ⟨_, start, _, ⟨kms, _, result⟩, hstart, hvalid,
    @RewrapChain.cons _ _ _ _ _ ⟨kms, sampleRewrap payload.manifest payload.ciphertext, result⟩ _
      hvalid rfl rfl hresult (.nil _), rfl, rfl⟩

/-- Version 2 was destroyed, and a rewrap moves the envelope onto it: the rewrap
returns and its manifest does not decrypt. SHA-256 is injective here. -/
theorem rewrap_onto_destroyed_version :
    Function.Injective (default : HashFunctions).sha256 ∧
      ∃ (request : EnvelopeDecryptionRequest) (start : EnvelopeDecryptionResult)
        (link : RewrapLink),
        decrypt default ⟨[]⟩ sampleKms request = .ok start ∧
        RewrapChain default ⟨[]⟩ request.ciphertext request.aad request.manifest [link] ∧
        link.kms = sampleKms.destroy "kms://acme/internal/v2" ∧
        ¬ link.Preserves default ⟨[]⟩ start.plaintext := by
  refine ⟨Function.injective_id, ?_⟩
  obtain ⟨request, start, raw, link, hstart, hvalid, hchain, hkms, hnew⟩ :=
    @sample_rewrap_chain (sampleKms.destroy "kms://acme/internal/v2") (by decide +kernel)
  refine ⟨request, start, link, hstart, hchain, hkms, fun hpreserves => ?_⟩
  obtain ⟨_, _, _, -, -, hopens, rfl⟩ := decrypt_eq_ok.mp hstart
  have hkept := (hchain.preserves_iff hopens).mp (by simpa using hpreserves) link (by simp)
  rw [hkms, hnew] at hkept
  exact hkept (Finset.mem_insert_self _ _)

theorem sample_rewrap_chain_preserves :
    ∃ (start : EnvelopeDecryptionResult) (link : RewrapLink), link.kms = sampleKms ∧
        ((∀ l ∈ [link], l.Preserves default ⟨[]⟩ start.plaintext) ↔
          ∀ l ∈ [link], l.request.newKmsKeyRef ∉ l.kms.destroyedKeyRefs) := by
  obtain ⟨request, start, raw, link, hstart, hvalid, hchain, hkms, -⟩ :=
    sample_rewrap_chain sampleKms_accepts
  exact ⟨start, link, hkms, rewrap_chain_preserves_iff hstart hchain⟩

end LocalEnvelopeEncryptionService

end Collabio
