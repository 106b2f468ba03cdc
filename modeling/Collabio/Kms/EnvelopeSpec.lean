import Mathlib.Tactic
import Collabio.Kms.AdapterSpec
import Collabio.Kms.Envelope

/-!
# What the envelope service does

`Opens` is what a manifest says about a ciphertext, apart from the KMS: every
hash matches, the data key unwraps and authenticates, and the body decrypts.

* `decrypt_eq_ok`   — decryption returns exactly when the request matches its
  manifest, the KMS answers, and the manifest opens the ciphertext;
* `decrypt_destroy` — destroying a key reference stops exactly the decryptions
  that name it;
* `encrypt_eq_ok`   — the ciphertext and the manifest of an encryption;
* `encrypt_opens`   — what an encryption produces opens, for a stripped key reference;
* `rewrap_opens`    — a rewrapped manifest opens what its predecessor opened.
-/

namespace Collabio

variable {H : HashFunctions}

/-! ## Bytes -/

theorem hmac_ne_nil (key message : Bytes) : H.hmacSha256 key message ≠ [] := by
  intro h
  have := H.hmac_length key message
  rw [h] at this
  cases this

@[simp] theorem length_keystream (dataKey nonce aadBytes : Bytes) (size : Nat) :
    (keystream H dataKey nonce aadBytes size).length = size :=
  StreamCipher.length_keystream (fun _ => hmac_ne_nil _ _) size

@[simp] theorem length_wrapStream (providerSecret : Bytes) (kmsKeyRef : String) (size : Nat) :
    (wrapStream H providerSecret kmsKeyRef size).length = size :=
  StreamCipher.length_keystream (fun _ => hmac_ne_nil _ _) size

@[simp] theorem length_authTag (dataKey nonce aadBytes body : Bytes) :
    (authTag H dataKey nonce aadBytes body).length = authTagBytes :=
  H.hmac_length _ _

theorem xorBytes_eq_ok {left right result : Bytes} :
    xorBytes left right = .ok result ↔
      left.length = right.length ∧ StreamCipher.xor left right = result := by
  rw [xorBytes, require_bind_eq_ok]
  exact and_congr_right fun _ => by simp [pure, Except.pure]

/-- The bytes of a wrapped data key. -/
def wrappedKey (H : HashFunctions) (providerSecret dataKey : Bytes) (kmsKeyRef : String) : Bytes :=
  StreamCipher.xor dataKey (wrapStream H providerSecret kmsKeyRef dataKey.length)

theorem length_wrappedKey (providerSecret dataKey : Bytes) (kmsKeyRef : String) :
    (wrappedKey H providerSecret dataKey kmsKeyRef).length = dataKey.length :=
  StreamCipher.length_xor (length_wrapStream ..).symm

theorem wrapDataKey_eq (providerSecret dataKey : Bytes) (kmsKeyRef : String) :
    wrapDataKey H providerSecret dataKey kmsKeyRef =
      .ok (wrappedKey H providerSecret dataKey kmsKeyRef) :=
  xorBytes_eq_ok.mpr ⟨(length_wrapStream ..).symm, rfl⟩

/-- **Unwrapping undoes wrapping**, under the same text of the key reference. -/
theorem unwrapDataKey_wrappedKey (providerSecret dataKey : Bytes) (kmsKeyRef : String) :
    unwrapDataKey H providerSecret (wrappedKey H providerSecret dataKey kmsKeyRef) kmsKeyRef =
      .ok dataKey := by
  rw [unwrapDataKey, length_wrappedKey]
  refine xorBytes_eq_ok.mpr ⟨?_, StreamCipher.xor_xor_cancel (length_wrapStream ..).symm⟩
  rw [length_wrappedKey, length_wrapStream]

theorem b64encode_ascii (bytes : Bytes) :
    (b64encode bytes).toList.all (·.toNat < 128) = true := by
  rw [b64encode, String.toList_ofList, List.all_eq_true]
  intro c hc
  exact Base64.forall_mem_encode (P := fun c => decide (c.toNat < 128) = true) (by decide)
    (by decide) bytes c hc

@[simp] theorem b64decode_b64encode (bytes : Bytes) : b64decode (b64encode bytes) = .ok bytes := by
  refine require_bind_eq_ok.mpr ⟨b64encode_ascii bytes, ?_⟩
  rw [b64encode, String.toList_ofList, Base64.decode_encode]
  rfl

theorem trimmed_b64encode (bytes : Bytes) : Text.Trimmed (b64encode bytes).toList := by
  have hspace : ∀ c ∈ (b64encode bytes).toList, Text.isSpace c = false := by
    rw [b64encode, String.toList_ofList]
    exact Base64.forall_mem_encode (P := fun c => Text.isSpace c = false) (by decide) (by decide) bytes
  exact ⟨fun c hc => hspace c (List.mem_of_mem_head? hc),
    fun c hc => hspace c (List.mem_of_mem_getLast? hc)⟩

@[simp] theorem strip_b64encode (bytes : Bytes) : Text.strip (b64encode bytes) = b64encode bytes :=
  Text.strip_eq_self (trimmed_b64encode bytes)

theorem b64encode_ne_empty {bytes : Bytes} (h : bytes ≠ []) : b64encode bytes ≠ "" := by
  intro hempty
  have := congrArg String.toList hempty
  rw [b64encode, String.toList_ofList] at this
  exact Base64.encode_ne_nil h this

theorem generateBytes_eq_ok {value result : Bytes} {size : Nat} {label : String} :
    generateBytes value size label = .ok result ↔ value.length = size ∧ value = result := by
  rw [generateBytes, require_bind_eq_ok]
  exact and_congr_right fun _ => by simp [pure, Except.pure]

namespace LocalEnvelopeEncryptionService

/-! ## Opening -/

/-- The authenticated data of a manifest's own object. -/
def aadBytesOf (manifest : EnvelopeEncryptionManifest) (aad : Dict String String) : Bytes :=
  canonicalEnvelopeAadBytes manifest.tenantId manifest.objectId manifest.sourceVersionId
    manifest.dataClass aad

/-- The manifest opens the ciphertext: what `decrypt` checks besides the KMS. -/
structure Opens (H : HashFunctions) (service : LocalEnvelopeEncryptionService)
    (manifest : EnvelopeEncryptionManifest) (aad : Dict String String)
    (ciphertext dataKey plaintext : Bytes) : Prop where
  hash   : manifest.manifestHash = buildEnvelopeEncryptionManifestHash H manifest
  length : ciphertext.length = manifest.ciphertextByteLength
  hashes : requireHashesMatch H manifest (aadBytesOf manifest aad) ciphertext = .ok ()
  key    : service.unwrapAuthenticatedDataKey H ciphertext manifest (aadBytesOf manifest aad)
             manifest.kmsKeyRef = .ok dataKey
  body   : openBody H dataKey manifest (aadBytesOf manifest aad) ciphertext = .ok plaintext

theorem requireRequestMatchesManifest_eq_ok {request : EnvelopeDecryptionRequest} :
    requireRequestMatchesManifest request = .ok () ↔
      request.ciphertext.length = request.manifest.ciphertextByteLength ∧
        request.dataClass = request.manifest.dataClass ∧
        request.kmsKeyRef = request.manifest.kmsKeyRef ∧
        request.objectId = request.manifest.objectId ∧
        request.sourceVersionId = request.manifest.sourceVersionId ∧
        request.tenantId = request.manifest.tenantId := by
  simp [requireRequestMatchesManifest, mismatches_eq_nil]

theorem requireRewrapRequestMatchesManifest_eq_ok {request : EnvelopeRewrapRequest} :
    requireRewrapRequestMatchesManifest request = .ok () ↔
      request.ciphertext.length = request.manifest.ciphertextByteLength ∧
        request.currentKmsKeyRef = request.manifest.kmsKeyRef ∧
        request.dataClass = request.manifest.dataClass ∧
        request.objectId = request.manifest.objectId ∧
        request.sourceVersionId = request.manifest.sourceVersionId ∧
        request.tenantId = request.manifest.tenantId := by
  simp [requireRewrapRequestMatchesManifest, mismatches_eq_nil]

/-! ## Decryption -/

/-- The KMS request that a decryption makes. -/
def decryptionKmsRequest (request : EnvelopeDecryptionRequest) : KmsKeyReferenceRequest where
  tenantId := request.tenantId
  dataClass := request.dataClass
  kmsKeyRef := request.kmsKeyRef
  requestedBy := request.requestedBy
  auditChainRef := request.auditChainRef
  occurredAtUtc := request.occurredAtUtc
  keyUse := .envelopeDecryption
  objectId := some request.objectId
  sourceVersionId := some request.sourceVersionId

theorem decrypt_eq_ok {service : LocalEnvelopeEncryptionService} {kms : LocalKmsAdapter}
    {request : EnvelopeDecryptionRequest} {result : EnvelopeDecryptionResult} :
    service.decrypt H kms request = .ok result ↔
      ∃ evidence dataKey plaintext,
        requireRequestMatchesManifest request = .ok () ∧
        ((decryptionKmsRequest request).validate >>= kms.validateKeyReference H) =
          .ok evidence ∧
        service.Opens H request.manifest request.aad request.ciphertext dataKey plaintext ∧
        result = {
          plaintext
          plaintextHash := computeContentHash H plaintext
          manifestHash := request.manifest.manifestHash
          kmsEvidence := evidence } := by
  -- with the manifest's own names, the authenticated data are the manifest's
  have haad (hmatch : requireRequestMatchesManifest request = .ok ()) :
      canonicalEnvelopeAadBytes request.tenantId request.objectId request.sourceVersionId
        request.dataClass request.aad = aadBytesOf request.manifest request.aad := by
    obtain ⟨-, hclass, -, hobject, hversion, htenant⟩ :=
      requireRequestMatchesManifest_eq_ok.mp hmatch
    rw [hclass, hobject, hversion, htenant, aadBytesOf]
  constructor
  · intro h
    -- the checks in the order of the code, each named as it passes
    obtain ⟨hhash, h⟩ := require_bind_eq_ok.mp h
    obtain ⟨_, hmatch, h⟩ := Except.bind_eq_ok.mp h
    rw [haad hmatch] at h
    obtain ⟨_, hhashes, h⟩ := Except.bind_eq_ok.mp h
    obtain ⟨kmsRequest, hvalid, h⟩ := Except.bind_eq_ok.mp h
    obtain ⟨evidence, hevidence, h⟩ := Except.bind_eq_ok.mp h
    obtain ⟨dataKey, hkey, h⟩ := Except.bind_eq_ok.mp h
    obtain ⟨plaintext, hbody, h⟩ := Except.bind_eq_ok.mp h
    cases h
    obtain ⟨hlength, -, href, -⟩ := requireRequestMatchesManifest_eq_ok.mp hmatch
    rw [href] at hkey
    exact ⟨evidence, dataKey, plaintext, hmatch,
      Except.bind_eq_ok.mpr ⟨kmsRequest, hvalid, hevidence⟩,
      ⟨hhash, hlength, hhashes, hkey, hbody⟩, rfl⟩
  · rintro ⟨evidence, dataKey, plaintext, hmatch, hkms, hopens, rfl⟩
    obtain ⟨kmsRequest, hvalid, hevidence⟩ := Except.bind_eq_ok.mp hkms
    obtain ⟨-, -, href, -⟩ := requireRequestMatchesManifest_eq_ok.mp hmatch
    refine require_bind_eq_ok.mpr ⟨hopens.hash, ?_⟩
    refine Except.bind_eq_ok.mpr ⟨(), hmatch, ?_⟩
    rw [haad hmatch]
    refine Except.bind_eq_ok.mpr ⟨(), hopens.hashes, ?_⟩
    refine Except.bind_eq_ok.mpr ⟨kmsRequest, hvalid, ?_⟩
    refine Except.bind_eq_ok.mpr ⟨evidence, hevidence, ?_⟩
    refine Except.bind_eq_ok.mpr ⟨dataKey, by rw [href]; exact hopens.key, ?_⟩
    exact Except.bind_eq_ok.mpr ⟨plaintext, hopens.body, rfl⟩

/-- The KMS of `kms.destroy ref` answers what `kms` answers, except for `ref` itself. -/
theorem validateKeyReference_destroy {kms : LocalKmsAdapter} {ref : String}
    {request : KmsKeyReferenceRequest} {evidence : KmsOperationEvidence} :
    (kms.destroy ref).validateKeyReference H request = .ok evidence ↔
      kms.validateKeyReference H request = .ok evidence ∧ Text.strip request.kmsKeyRef ≠ ref := by
  have hvalidate (found : KmsKeyReference) :
      (kms.destroy ref).validateKeyRef request.tenantId request.dataClass request.kmsKeyRef =
          .ok found ↔
        kms.validateKeyRef request.tenantId request.dataClass request.kmsKeyRef = .ok found ∧
          Text.strip request.kmsKeyRef ≠ ref := by
    simp only [LocalKmsAdapter.validateKeyRef_eq_ok, LocalKmsAdapter.destroy, Finset.mem_insert,
      not_or]
    constructor
    · rintro ⟨hparse, htenant, hclass, hp, hne, hkept⟩
      exact ⟨⟨hparse, htenant, hclass, hp, hkept⟩, hne⟩
    · rintro ⟨⟨hparse, htenant, hclass, hp, hkept⟩, hne⟩
      exact ⟨hparse, htenant, hclass, hp, hne, hkept⟩
  constructor
  · intro h
    obtain ⟨found, hfound, h⟩ := Except.bind_eq_ok.mp h
    obtain ⟨hfound, hne⟩ := (hvalidate found).mp hfound
    exact ⟨Except.bind_eq_ok.mpr ⟨found, hfound, h⟩, hne⟩
  · rintro ⟨h, hne⟩
    obtain ⟨found, hfound, h⟩ := Except.bind_eq_ok.mp h
    exact Except.bind_eq_ok.mpr ⟨found, (hvalidate found).mpr ⟨hfound, hne⟩, h⟩

/-- **Destroying a key reference stops exactly the decryptions that name it.** -/
theorem decrypt_destroy {service : LocalEnvelopeEncryptionService} {kms : LocalKmsAdapter}
    {ref : String} {request : EnvelopeDecryptionRequest} {result : EnvelopeDecryptionResult} :
    service.decrypt H (kms.destroy ref) request = .ok result ↔
      service.decrypt H kms request = .ok result ∧ Text.strip request.kmsKeyRef ≠ ref := by
  have hkms (evidence : KmsOperationEvidence) :
      ((decryptionKmsRequest request).validate >>= (kms.destroy ref).validateKeyReference H) =
          .ok evidence ↔
        ((decryptionKmsRequest request).validate >>= kms.validateKeyReference H) =
          .ok evidence ∧ Text.strip request.kmsKeyRef ≠ ref := by
    simp only [Except.bind_eq_ok, validateKeyReference_destroy,
      KmsKeyReferenceRequest.validate_eq_ok]
    constructor
    · rintro ⟨_, ⟨herrors, rfl⟩, h, hne⟩
      exact ⟨⟨_, ⟨herrors, rfl⟩, h⟩, by
        simpa [KmsKeyReferenceRequest.normalized, decryptionKmsRequest] using hne⟩
    · rintro ⟨⟨_, ⟨herrors, rfl⟩, h⟩, hne⟩
      exact ⟨_, ⟨herrors, rfl⟩, h, by
        simpa [KmsKeyReferenceRequest.normalized, decryptionKmsRequest] using hne⟩
  simp only [decrypt_eq_ok, hkms]
  constructor
  · rintro ⟨evidence, dataKey, plaintext, hmatch, ⟨hevidence, hne⟩, hopens, hresult⟩
    exact ⟨⟨evidence, dataKey, plaintext, hmatch, hevidence, hopens, hresult⟩, hne⟩
  · rintro ⟨⟨evidence, dataKey, plaintext, hmatch, hevidence, hopens, hresult⟩, hne⟩
    exact ⟨evidence, dataKey, plaintext, hmatch, ⟨hevidence, hne⟩, hopens, hresult⟩

/-! ## Encryption -/

/-- The KMS request that an encryption makes. -/
def encryptionKmsRequest (request : EnvelopeEncryptionRequest) : KmsKeyReferenceRequest where
  tenantId := request.tenantId
  dataClass := request.dataClass
  kmsKeyRef := request.kmsKeyRef
  requestedBy := request.requestedBy
  auditChainRef := request.auditChainRef
  occurredAtUtc := request.occurredAtUtc
  keyUse := .envelopeEncryptionPrep
  objectId := some request.objectId
  sourceVersionId := some request.sourceVersionId

def requestAadBytes (request : EnvelopeEncryptionRequest) : Bytes :=
  canonicalEnvelopeAadBytes request.tenantId request.objectId request.sourceVersionId
    request.dataClass request.aad

/-- The body of the ciphertext. -/
def encryptedBody (H : HashFunctions) (dataKey nonce aadBytes plaintext : Bytes) : Bytes :=
  StreamCipher.xor plaintext (keystream H dataKey nonce aadBytes plaintext.length)

def sealedBytes (H : HashFunctions) (dataKey nonce aadBytes plaintext : Bytes) : Bytes :=
  encryptedBody H dataKey nonce aadBytes plaintext ++
    authTag H dataKey nonce aadBytes (encryptedBody H dataKey nonce aadBytes plaintext)

theorem length_encryptedBody (dataKey nonce aadBytes plaintext : Bytes) :
    (encryptedBody H dataKey nonce aadBytes plaintext).length = plaintext.length :=
  StreamCipher.length_xor (length_keystream ..).symm

theorem length_sealedBytes (dataKey nonce aadBytes plaintext : Bytes) :
    (sealedBytes H dataKey nonce aadBytes plaintext).length = plaintext.length + authTagBytes := by
  rw [sealedBytes, List.length_append, length_encryptedBody, length_authTag]

theorem sealPlaintext_eq (dataKey nonce aadBytes plaintext : Bytes) :
    sealPlaintext H dataKey nonce aadBytes plaintext =
      .ok (sealedBytes H dataKey nonce aadBytes plaintext) :=
  Except.bind_eq_ok.mpr ⟨_, xorBytes_eq_ok.mpr ⟨(length_keystream ..).symm, rfl⟩, rfl⟩

theorem take_sealedBytes (dataKey nonce aadBytes plaintext : Bytes) :
    (sealedBytes H dataKey nonce aadBytes plaintext).take
        ((sealedBytes H dataKey nonce aadBytes plaintext).length - authTagBytes) =
      encryptedBody H dataKey nonce aadBytes plaintext := by
  rw [length_sealedBytes, Nat.add_sub_cancel, sealedBytes, List.take_left' (length_encryptedBody ..)]

theorem drop_sealedBytes (dataKey nonce aadBytes plaintext : Bytes) :
    (sealedBytes H dataKey nonce aadBytes plaintext).drop
        ((sealedBytes H dataKey nonce aadBytes plaintext).length - authTagBytes) =
      authTag H dataKey nonce aadBytes (encryptedBody H dataKey nonce aadBytes plaintext) := by
  rw [length_sealedBytes, Nat.add_sub_cancel, sealedBytes, List.drop_left' (length_encryptedBody ..)]

/-- The manifest an encryption gives to the model's constructor. -/
def draftManifest (H : HashFunctions) (service : LocalEnvelopeEncryptionService)
    (dataKey nonce : Bytes) (request : EnvelopeEncryptionRequest)
    (evidence : KmsOperationEvidence) : EnvelopeEncryptionManifest :=
  let ciphertext := sealedBytes H dataKey nonce (requestAadBytes request) request.plaintext
  let wrapped := wrappedKey H service.providerSecret dataKey request.kmsKeyRef
  { tenantId := request.tenantId
    objectId := request.objectId
    sourceVersionId := request.sourceVersionId
    dataClass := request.dataClass
    kmsKeyRef := request.kmsKeyRef
    algorithm := .localDevHmacSha256StreamV1
    nonceB64 := b64encode nonce
    aadHash := computeContentHash H (requestAadBytes request)
    plaintextHash := computeContentHash H request.plaintext
    ciphertextHash := computeContentHash H ciphertext
    ciphertextByteLength := ciphertext.length
    wrappedDataKeyB64 := b64encode wrapped
    wrappedDataKeyHash := computeContentHash H wrapped
    kmsEvidenceHash := evidence.evidenceHash
    encryptedAtUtc := request.occurredAtUtc
    requestedBy := request.requestedBy
    auditChainRef := request.auditChainRef }

/-- A draft with its hash. -/
def hashed (H : HashFunctions) (draft : EnvelopeEncryptionManifest) : EnvelopeEncryptionManifest :=
  { draft with manifestHash := buildEnvelopeEncryptionManifestHash H draft }

theorem manifest_validate_eq_ok {raw manifest : EnvelopeEncryptionManifest} :
    raw.validate = .ok manifest ↔ raw.normalized.errors = [] ∧ raw.normalized = manifest := by
  constructor
  · intro h
    obtain ⟨checked, hchecked, h⟩ := Except.bind_eq_ok.mp h
    obtain ⟨herrors, rfl⟩ := accept_eq_ok.mp hchecked
    obtain ⟨-, h⟩ := require_bind_eq_ok.mp h
    cases h
    exact ⟨herrors, rfl⟩
  · rintro ⟨herrors, rfl⟩
    refine Except.bind_eq_ok.mpr ⟨raw.normalized, accept_eq_ok.mpr ⟨herrors, rfl⟩, ?_⟩
    refine require_bind_eq_ok.mpr ⟨?_, rfl⟩
    simp [EnvelopeEncryptionManifest.forbiddenFields, EnvelopeEncryptionManifest.payloadFields]

theorem encrypt_eq_ok {service : LocalEnvelopeEncryptionService} {kms : LocalKmsAdapter}
    {dataKey nonce : Bytes} {request : EnvelopeEncryptionRequest}
    {payload : EnvelopeEncryptedPayload} :
    service.encrypt H kms dataKey nonce request = .ok payload ↔
      ∃ evidence,
        ((encryptionKmsRequest request).validate >>= kms.validateKeyReference H) =
          .ok evidence ∧
        dataKey.length = dataKeyBytes ∧ nonce.length = nonceBytes ∧
        (draftManifest H service dataKey nonce request evidence).normalized.errors = [] ∧
        payload = {
          ciphertext := sealedBytes H dataKey nonce (requestAadBytes request) request.plaintext
          manifest := hashed H (draftManifest H service dataKey nonce request evidence).normalized
          kmsEvidence := evidence } := by
  constructor
  · intro h
    obtain ⟨kmsRequest, hvalid, h⟩ := Except.bind_eq_ok.mp h
    obtain ⟨evidence, hevidence, h⟩ := Except.bind_eq_ok.mp h
    obtain ⟨_, hgenerated, h⟩ := Except.bind_eq_ok.mp h
    obtain ⟨hdataKey, rfl⟩ := generateBytes_eq_ok.mp hgenerated
    obtain ⟨_, hgenerated', h⟩ := Except.bind_eq_ok.mp h
    obtain ⟨hnonce, rfl⟩ := generateBytes_eq_ok.mp hgenerated'
    -- sealing and wrapping cannot fail once both random texts have their lengths
    obtain ⟨_, hsealed, h⟩ := Except.bind_eq_ok.mp h
    rw [sealPlaintext_eq] at hsealed
    cases hsealed
    obtain ⟨_, hwrapped, h⟩ := Except.bind_eq_ok.mp h
    rw [wrapDataKey_eq] at hwrapped
    cases hwrapped
    obtain ⟨draft, hdraft, h⟩ := Except.bind_eq_ok.mp h
    obtain ⟨herrors, rfl⟩ := manifest_validate_eq_ok.mp hdraft
    cases h
    exact ⟨evidence, Except.bind_eq_ok.mpr ⟨kmsRequest, hvalid, hevidence⟩, hdataKey, hnonce,
      herrors, rfl⟩
  · rintro ⟨evidence, hkms, hdataKey, hnonce, herrors, rfl⟩
    obtain ⟨kmsRequest, hvalid, hevidence⟩ := Except.bind_eq_ok.mp hkms
    refine Except.bind_eq_ok.mpr ⟨kmsRequest, hvalid, ?_⟩
    refine Except.bind_eq_ok.mpr ⟨evidence, hevidence, ?_⟩
    refine Except.bind_eq_ok.mpr ⟨dataKey, generateBytes_eq_ok.mpr ⟨hdataKey, rfl⟩, ?_⟩
    refine Except.bind_eq_ok.mpr ⟨nonce, generateBytes_eq_ok.mpr ⟨hnonce, rfl⟩, ?_⟩
    refine Except.bind_eq_ok.mpr ⟨_, sealPlaintext_eq .., ?_⟩
    refine Except.bind_eq_ok.mpr ⟨_, wrapDataKey_eq .., ?_⟩
    exact Except.bind_eq_ok.mpr ⟨_, manifest_validate_eq_ok.mpr ⟨herrors, rfl⟩, rfl⟩

/-- What acceptance by the request model says about its fields. -/
theorem encryptionRequest_of_validate {raw request : EnvelopeEncryptionRequest}
    (h : raw.validate = .ok request) :
    request.normalized = request ∧ request.tenantId ≠ "" ∧ request.objectId ≠ "" ∧
      request.sourceVersionId ≠ "" ∧ request.plaintext ≠ [] ∧ request.requestedBy ≠ "" ∧
      isUtcTimestamp request.occurredAtUtc = true := by
  obtain ⟨herrors, rfl⟩ := accept_eq_ok.mp h
  refine ⟨by simp [EnvelopeEncryptionRequest.normalized], ?_⟩
  simpa [EnvelopeEncryptionRequest.errors] using herrors

/-- The manifest of an accepted request passes its own validation. -/
theorem draftManifest_errors {service : LocalEnvelopeEncryptionService} {dataKey nonce : Bytes}
    {raw request : EnvelopeEncryptionRequest} {evidence : KmsOperationEvidence}
    (hvalid : raw.validate = .ok request) (hdataKey : dataKey.length = dataKeyBytes)
    (hnonce : nonce.length = nonceBytes) (hkms : (encryptionKmsRequest request).normalized.errors = []) :
    (draftManifest H service dataKey nonce request evidence).normalized.errors = [] := by
  obtain ⟨hnormal, htenant, hobject, hversion, -, hrequested, htime⟩ :=
    encryptionRequest_of_validate hvalid
  simp only [EnvelopeEncryptionRequest.normalized, EnvelopeEncryptionRequest.ext_iff] at hnormal
  obtain ⟨htenant', hobject', hversion', -, -, -, -, hrequested', -, htime'⟩ := hnormal
  obtain ⟨-, href, -, haudit, -⟩ := KmsKeyReferenceRequest.errors_eq_nil.mp hkms
  simp only [KmsKeyReferenceRequest.normalized, encryptionKmsRequest] at href haudit
  -- neither a nonce nor a wrapped key is written as the empty text
  have hnonceNe : b64encode nonce ≠ "" := by
    refine b64encode_ne_empty (List.ne_nil_of_length_pos ?_)
    rw [hnonce]
    decide
  have hwrappedNe : b64encode (wrappedKey H service.providerSecret dataKey request.kmsKeyRef) ≠ "" := by
    refine b64encode_ne_empty (List.ne_nil_of_length_pos ?_)
    rw [length_wrappedKey, hdataKey]
    decide
  have hlength : 1 ≤ request.plaintext.length + authTagBytes := by
    rw [authTagBytes]
    omega
  have hwrap : Text.strip "local_dev_kms_ref_wrap_v1" ≠ "" := by decide
  simp [EnvelopeEncryptionManifest.errors, EnvelopeEncryptionManifest.normalized, draftManifest,
    htenant, htenant', hobject, hobject', hversion, hversion', hrequested, hrequested', htime,
    htime', hnonceNe, hwrappedNe, length_sealedBytes, hlength, hwrap,
    ne_empty_of_isNamespacedRef href, ne_empty_of_isNamespacedRef haudit]

/-- Whether an encryption returns does not depend on the digests. -/
theorem encrypt_isOk_iff {service : LocalEnvelopeEncryptionService} {kms : LocalKmsAdapter}
    {dataKey nonce : Bytes} {raw request : EnvelopeEncryptionRequest}
    (hvalid : raw.validate = .ok request) :
    (∃ payload, service.encrypt H kms dataKey nonce request = .ok payload) ↔
      (encryptionKmsRequest request).normalized.errors = [] ∧
        kms.Usable (Text.strip request.tenantId) request.dataClass request.kmsKeyRef ∧
        dataKey.length = dataKeyBytes ∧ nonce.length = nonceBytes := by
  constructor
  · rintro ⟨payload, h⟩
    obtain ⟨evidence, hkms, hdataKey, hnonce, -⟩ := encrypt_eq_ok.mp h
    obtain ⟨herrors, husable⟩ := (LocalKmsAdapter.answers_iff ..).mp ⟨evidence, hkms⟩
    exact ⟨herrors, husable, hdataKey, hnonce⟩
  · rintro ⟨herrors, husable, hdataKey, hnonce⟩
    obtain ⟨evidence, hkms⟩ := (LocalKmsAdapter.answers_iff (H := H) ..).mpr ⟨herrors, husable⟩
    exact ⟨_, encrypt_eq_ok.mpr ⟨evidence, hkms, hdataKey, hnonce,
      draftManifest_errors hvalid hdataKey hnonce herrors, rfl⟩⟩

theorem requireHashesMatch_eq_ok {manifest : EnvelopeEncryptionManifest}
    {aadBytes ciphertext : Bytes} :
    requireHashesMatch H manifest aadBytes ciphertext = .ok () ↔
      computeContentHash H aadBytes = manifest.aadHash ∧
        computeContentHash H ciphertext = manifest.ciphertextHash ∧
        ∃ wrapped, b64decode manifest.wrappedDataKeyB64 = .ok wrapped ∧
          computeContentHash H wrapped = manifest.wrappedDataKeyHash := by
  rw [requireHashesMatch, require_bind_eq_ok, require_bind_eq_ok, requireWrappedDataKeyHashMatch,
    Except.bind_eq_ok]
  simp only [require_eq_ok]

theorem unwrapAuthenticatedDataKey_eq_ok {service : LocalEnvelopeEncryptionService}
    {ciphertext : Bytes} {manifest : EnvelopeEncryptionManifest} {aadBytes : Bytes}
    {kmsKeyRef : String} {dataKey : Bytes} :
    service.unwrapAuthenticatedDataKey H ciphertext manifest aadBytes kmsKeyRef = .ok dataKey ↔
      ∃ wrapped nonce, b64decode manifest.wrappedDataKeyB64 = .ok wrapped ∧
        unwrapDataKey H service.providerSecret wrapped kmsKeyRef = .ok dataKey ∧
        b64decode manifest.nonceB64 = .ok nonce ∧
        ciphertext.drop (ciphertext.length - authTagBytes) = authTag H dataKey nonce aadBytes
          (ciphertext.take (ciphertext.length - authTagBytes)) := by
  constructor
  · intro h
    obtain ⟨wrapped, hwrapped, h⟩ := Except.bind_eq_ok.mp h
    obtain ⟨key, hkey, h⟩ := Except.bind_eq_ok.mp h
    obtain ⟨nonce, hnonce, h⟩ := Except.bind_eq_ok.mp h
    obtain ⟨htag, h⟩ := require_bind_eq_ok.mp h
    cases h
    exact ⟨wrapped, nonce, hwrapped, hkey, hnonce, htag⟩
  · rintro ⟨wrapped, nonce, hwrapped, hkey, hnonce, htag⟩
    refine Except.bind_eq_ok.mpr ⟨wrapped, hwrapped, ?_⟩
    refine Except.bind_eq_ok.mpr ⟨dataKey, hkey, ?_⟩
    refine Except.bind_eq_ok.mpr ⟨nonce, hnonce, ?_⟩
    exact require_bind_eq_ok.mpr ⟨htag, rfl⟩

theorem openBody_eq_ok {dataKey : Bytes} {manifest : EnvelopeEncryptionManifest}
    {aadBytes ciphertext plaintext : Bytes} :
    openBody H dataKey manifest aadBytes ciphertext = .ok plaintext ↔
      ∃ nonce, b64decode manifest.nonceB64 = .ok nonce ∧
        encryptedBody H dataKey nonce aadBytes
          (ciphertext.take (ciphertext.length - authTagBytes)) = plaintext ∧
        computeContentHash H plaintext = manifest.plaintextHash := by
  constructor
  · intro h
    obtain ⟨nonce, hnonce, h⟩ := Except.bind_eq_ok.mp h
    obtain ⟨text, htext, h⟩ := Except.bind_eq_ok.mp h
    obtain ⟨hhash, h⟩ := require_bind_eq_ok.mp h
    cases h
    exact ⟨nonce, hnonce, (xorBytes_eq_ok.mp htext).2, hhash⟩
  · rintro ⟨nonce, hnonce, rfl, hhash⟩
    refine Except.bind_eq_ok.mpr ⟨nonce, hnonce, ?_⟩
    refine Except.bind_eq_ok.mpr ⟨_, xorBytes_eq_ok.mpr ⟨(length_keystream ..).symm, rfl⟩, ?_⟩
    exact require_bind_eq_ok.mpr ⟨hhash, rfl⟩

/-- **What an encryption produces opens**, if the request names its key
reference without surrounding whitespace. -/
theorem encrypt_opens {service : LocalEnvelopeEncryptionService} {dataKey nonce : Bytes}
    {raw request : EnvelopeEncryptionRequest} {evidence : KmsOperationEvidence}
    (hvalid : raw.validate = .ok request)
    (hclean : Text.strip request.kmsKeyRef = request.kmsKeyRef) :
    service.Opens H (hashed H (draftManifest H service dataKey nonce request evidence).normalized)
      request.aad (sealedBytes H dataKey nonce (requestAadBytes request) request.plaintext)
      dataKey request.plaintext := by
  -- the request was stripped when it was accepted, but for its key reference
  have hnormal := (encryptionRequest_of_validate hvalid).1
  simp only [EnvelopeEncryptionRequest.normalized, EnvelopeEncryptionRequest.ext_iff] at hnormal
  obtain ⟨htenant, hobject, hversion, -⟩ := hnormal
  have haad : aadBytesOf
      (hashed H (draftManifest H service dataKey nonce request evidence).normalized)
      request.aad = requestAadBytes request := by
    simp only [aadBytesOf, hashed, EnvelopeEncryptionManifest.normalized, draftManifest, htenant,
      hobject, hversion, requestAadBytes]
  refine ⟨rfl, rfl, ?_, ?_, ?_⟩
  · rw [haad]
    refine requireHashesMatch_eq_ok.mpr ⟨rfl, rfl, _, ?_, rfl⟩
    simp only [hashed, EnvelopeEncryptionManifest.normalized, draftManifest, strip_b64encode,
      b64decode_b64encode]
  · rw [haad]
    -- the wrapped key is unwrapped with the reference it was wrapped for
    refine unwrapAuthenticatedDataKey_eq_ok.mpr
      ⟨wrappedKey H service.providerSecret dataKey request.kmsKeyRef, nonce, ?_, ?_, ?_, ?_⟩
    · simp only [hashed, EnvelopeEncryptionManifest.normalized, draftManifest, strip_b64encode,
        b64decode_b64encode]
    · simp only [hashed, EnvelopeEncryptionManifest.normalized, draftManifest, hclean]
      exact unwrapDataKey_wrappedKey ..
    · simp only [hashed, EnvelopeEncryptionManifest.normalized, draftManifest, strip_b64encode,
        b64decode_b64encode]
    · rw [take_sealedBytes, drop_sealedBytes]
  · rw [haad]
    -- the body is the plaintext under one keystream, applied twice
    refine openBody_eq_ok.mpr ⟨nonce, ?_, ?_, rfl⟩
    · simp only [hashed, EnvelopeEncryptionManifest.normalized, draftManifest, strip_b64encode,
        b64decode_b64encode]
    · rw [take_sealedBytes, encryptedBody, length_encryptedBody]
      exact StreamCipher.xor_xor_cancel (length_keystream ..).symm

/-! ## Rewrapping -/

/-- The rotation command that a rewrap sends. -/
def rotationCommand (request : EnvelopeRewrapRequest) : KmsRotateKeyCommand where
  tenantId := request.tenantId
  dataClass := request.dataClass
  currentKmsKeyRef := request.currentKmsKeyRef
  requestedBy := request.requestedBy
  approvedBy := request.approvedBy
  auditChainRef := request.auditChainRef
  occurredAtUtc := request.occurredAtUtc
  reason := request.reason

theorem rewrap_eq_ok {service : LocalEnvelopeEncryptionService} {kms : LocalKmsAdapter}
    {request : EnvelopeRewrapRequest} {result : EnvelopeRewrapResult}
    (h : service.rewrap H kms request = .ok result) :
    ∃ dataKey rotation, requireRewrapRequestMatchesManifest request = .ok () ∧
      service.unwrapAuthenticatedDataKey H request.ciphertext request.manifest
        (aadBytesOf request.manifest request.aad) request.manifest.kmsKeyRef = .ok dataKey ∧
      (rotationCommand request).normalized.errors = [] ∧
      kms.rotateKeyReference H (rotationCommand request).normalized = .ok rotation ∧
      rotation.newKmsKeyRef = request.newKmsKeyRef ∧
      result = {
        manifest := rewrappedManifest H request rotation
          (wrappedKey H service.providerSecret dataKey rotation.newKmsKeyRef)
        previousManifestHash := request.manifest.manifestHash
        previousKmsKeyRef := rotation.previousKmsKeyRef
        newKmsKeyRef := rotation.newKmsKeyRef
        kmsRotationEvidence := rotation.evidence } := by
  obtain ⟨-, h⟩ := require_bind_eq_ok.mp h
  obtain ⟨_, hmatch, h⟩ := Except.bind_eq_ok.mp h
  obtain ⟨-, href, hclass, hobject, hversion, htenant⟩ :=
    requireRewrapRequestMatchesManifest_eq_ok.mp hmatch
  -- what is authenticated is read off the request, which agrees with the manifest
  have haad : canonicalEnvelopeAadBytes request.tenantId request.objectId request.sourceVersionId
      request.dataClass request.aad = aadBytesOf request.manifest request.aad := by
    rw [hclass, hobject, hversion, htenant, aadBytesOf]
  rw [haad] at h
  obtain ⟨_, -, h⟩ := Except.bind_eq_ok.mp h
  obtain ⟨kmsRequest, -, h⟩ := Except.bind_eq_ok.mp h
  obtain ⟨_, -, h⟩ := Except.bind_eq_ok.mp h
  obtain ⟨dataKey, hkey, h⟩ := Except.bind_eq_ok.mp h
  obtain ⟨command, hcommand, h⟩ := Except.bind_eq_ok.mp h
  obtain ⟨herrors, rfl⟩ := KmsRotateKeyCommand.validate_eq_ok.mp hcommand
  obtain ⟨rotation, hrotation, h⟩ := Except.bind_eq_ok.mp h
  obtain ⟨hnew, h⟩ := require_bind_eq_ok.mp h
  rw [wrapDataKey_eq] at h
  cases h
  rw [href] at hkey
  exact ⟨dataKey, rotation, hmatch, hkey, herrors, hrotation, hnew, rfl⟩

/-- **A rewrapped manifest opens what its predecessor opened.** -/
theorem rewrap_opens {service : LocalEnvelopeEncryptionService} {kms : LocalKmsAdapter}
    {request : EnvelopeRewrapRequest} {result : EnvelopeRewrapResult} {dataKey plaintext : Bytes}
    (h : service.rewrap H kms request = .ok result)
    (hopens : service.Opens H request.manifest request.aad request.ciphertext dataKey plaintext) :
    service.Opens H result.manifest request.aad request.ciphertext dataKey plaintext := by
  obtain ⟨key, rotation, -, hkey, -, -, -, rfl⟩ := rewrap_eq_ok h
  obtain rfl : key = dataKey := by
    rw [hopens.key] at hkey
    cases hkey
    rfl
  obtain ⟨haad, hciphertext, -⟩ := requireHashesMatch_eq_ok.mp hopens.hashes
  obtain ⟨wrapped, nonce, -, -, hnonce, htag⟩ := unwrapAuthenticatedDataKey_eq_ok.mp hkey
  refine ⟨rfl, hopens.length, ?_, ?_, ?_⟩
  · exact requireHashesMatch_eq_ok.mpr ⟨haad, hciphertext, _, b64decode_b64encode _, rfl⟩
  · exact unwrapAuthenticatedDataKey_eq_ok.mpr ⟨_, nonce, b64decode_b64encode _,
      unwrapDataKey_wrappedKey .., hnonce, htag⟩
  · exact openBody_eq_ok.mpr (openBody_eq_ok.mp hopens.body)

end LocalEnvelopeEncryptionService

end Collabio
