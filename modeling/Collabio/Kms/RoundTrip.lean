import Mathlib.Tactic
import Collabio.Kms.EnvelopeSpec

/-!
# Encrypt, then decrypt

* `decryptWith_of_opens` — a manifest that opens its ciphertext decrypts for
  every caller the models accept, while the KMS accepts its key reference;
* `envelope_round_trip_iff_reference_stripped` — an encryption round-trips,
  whatever the digests compute, exactly when the request named its key
  reference without surrounding whitespace. `encrypt` wraps the data key under
  the reference as it was given, the manifest keeps it stripped, and `decrypt`
  unwraps under what the manifest says.
-/

namespace Collabio

variable {H : HashFunctions}

/-- The fields of a decryption request that no manifest determines. -/
structure Caller where
  requestedBy   : String
  auditChainRef : String
  occurredAtUtc : String
  deriving DecidableEq, Repr

/-- The request models accept the caller's fields. -/
structure Caller.Accepted (caller : Caller) : Prop where
  requestedBy   : Text.strip caller.requestedBy ≠ ""
  auditChainRef : isNamespacedRef (Text.strip caller.auditChainRef) = true
  occurredAtUtc : isUtcTimestamp (Text.strip caller.occurredAtUtc) = true

/-- Identifiers as the models leave them: stripped and not empty. -/
structure EnvelopeEncryptionManifest.HasValidIds (manifest : EnvelopeEncryptionManifest) :
    Prop where
  tenant  : Text.strip manifest.tenantId = manifest.tenantId ∧ manifest.tenantId ≠ ""
  object  : Text.strip manifest.objectId = manifest.objectId ∧ manifest.objectId ≠ ""
  version : Text.strip manifest.sourceVersionId = manifest.sourceVersionId ∧
              manifest.sourceVersionId ≠ ""

namespace LocalEnvelopeEncryptionService

/-- The decryption request made of a manifest's own fields. -/
def decryptionRequest (manifest : EnvelopeEncryptionManifest) (ciphertext : Bytes)
    (aad : Dict String String) (caller : Caller) : EnvelopeDecryptionRequest where
  tenantId := manifest.tenantId
  objectId := manifest.objectId
  sourceVersionId := manifest.sourceVersionId
  dataClass := manifest.dataClass
  kmsKeyRef := manifest.kmsKeyRef
  ciphertext := ciphertext
  manifest := manifest
  aad := aad
  requestedBy := caller.requestedBy
  auditChainRef := caller.auditChainRef
  occurredAtUtc := caller.occurredAtUtc

/-- Build that request and decrypt. -/
def decryptWith (H : HashFunctions) (service : LocalEnvelopeEncryptionService)
    (kms : LocalKmsAdapter) (manifest : EnvelopeEncryptionManifest) (ciphertext : Bytes)
    (aad : Dict String String) (caller : Caller) : Except Exn EnvelopeDecryptionResult := do
  let request ← (decryptionRequest manifest ciphertext aad caller).validate
  service.decrypt H kms request

variable {service : LocalEnvelopeEncryptionService} {kms : LocalKmsAdapter}

/-- **Opening manifests decrypt**, while the KMS accepts their key reference. -/
theorem decryptWith_of_opens {manifest : EnvelopeEncryptionManifest}
    {aad : Dict String String} {ciphertext dataKey plaintext : Bytes} {caller : Caller}
    (hopens : service.Opens H manifest aad ciphertext dataKey plaintext)
    (hids : manifest.HasValidIds) (hlength : authTagBytes < ciphertext.length)
    (href : isNamespacedRef (Text.strip manifest.kmsKeyRef) = true) (hcaller : caller.Accepted)
    (husable : kms.Usable manifest.tenantId manifest.dataClass manifest.kmsKeyRef) :
    ∃ result, service.decryptWith H kms manifest ciphertext aad caller = .ok result ∧
      result.plaintext = plaintext := by
  obtain ⟨⟨htenant, htenantNe⟩, ⟨hobject, hobjectNe⟩, ⟨hversion, hversionNe⟩⟩ := hids
  obtain ⟨hrequested, haudit, htime⟩ := hcaller
  have hvalid : (decryptionRequest manifest ciphertext aad caller).validate =
      .ok (decryptionRequest manifest ciphertext aad caller).normalized := by
    refine accept_eq_ok.mpr ⟨?_, rfl⟩
    simp [EnvelopeDecryptionRequest.errors, EnvelopeDecryptionRequest.normalized,
      decryptionRequest, htenant, htenantNe, hobject, hobjectNe, hversion, hversionNe,
      hrequested, htime, hlength]
  have hmatch : requireRequestMatchesManifest
      (decryptionRequest manifest ciphertext aad caller).normalized = .ok () := by
    refine requireRequestMatchesManifest_eq_ok.mpr ⟨hopens.length, rfl, rfl, ?_, ?_, ?_⟩
    · exact hobject
    · exact hversion
    · exact htenant
  obtain ⟨evidence, hkms⟩ := LocalKmsAdapter.answers_iff (H := H) kms
    (decryptionKmsRequest (decryptionRequest manifest ciphertext aad caller).normalized)
    |>.mpr ⟨by
      refine KmsKeyReferenceRequest.errors_eq_nil.mpr ?_
      simp [KmsKeyReferenceRequest.normalized, decryptionKmsRequest,
        EnvelopeDecryptionRequest.normalized, decryptionRequest, htenant, htenantNe, href,
        hrequested, haudit, htime], by
      simpa [decryptionKmsRequest, EnvelopeDecryptionRequest.normalized, decryptionRequest,
        htenant] using husable⟩
  have hdecrypt := decrypt_eq_ok.mpr ⟨evidence, dataKey, plaintext, hmatch, hkms, hopens, rfl⟩
  exact ⟨_, Except.bind_eq_ok.mpr ⟨_, hvalid, hdecrypt⟩, rfl⟩

/-- A decryption that returned had an opening manifest and a usable reference. -/
theorem opens_of_decryptWith {manifest : EnvelopeEncryptionManifest} {aad : Dict String String}
    {ciphertext : Bytes} {caller : Caller} {result : EnvelopeDecryptionResult}
    (h : service.decryptWith H kms manifest ciphertext aad caller = .ok result) :
    (∃ dataKey, service.Opens H manifest aad ciphertext dataKey result.plaintext) ∧
      kms.Usable (Text.strip manifest.tenantId) manifest.dataClass manifest.kmsKeyRef := by
  obtain ⟨request, hvalid, h⟩ := Except.bind_eq_ok.mp h
  obtain ⟨-, rfl⟩ := accept_eq_ok.mp hvalid
  obtain ⟨evidence, dataKey, plaintext, -, hkms, hopens, rfl⟩ := decrypt_eq_ok.mp h
  obtain ⟨-, husable⟩ := (LocalKmsAdapter.answers_iff ..).mp ⟨evidence, hkms⟩
  simp only [decryptionKmsRequest, EnvelopeDecryptionRequest.normalized, decryptionRequest,
    Text.strip_strip] at husable
  exact ⟨⟨dataKey, hopens⟩, husable⟩

/-! ## The manifests of encryptions -/

/-- An encryption's manifest has valid identifiers and the stripped key reference. -/
theorem encrypt_manifest {dataKey nonce : Bytes} {raw request : EnvelopeEncryptionRequest}
    {payload : EnvelopeEncryptedPayload} (hvalid : raw.validate = .ok request)
    (h : service.encrypt H kms dataKey nonce request = .ok payload) :
    payload.manifest.HasValidIds ∧ authTagBytes < payload.ciphertext.length ∧
      payload.manifest.tenantId = request.tenantId ∧
      payload.manifest.dataClass = request.dataClass ∧
      payload.manifest.kmsKeyRef = Text.strip request.kmsKeyRef := by
  obtain ⟨hnormal, htenantNe, hobjectNe, hversionNe, hplaintext, -⟩ :=
    encryptionRequest_of_validate hvalid
  simp only [EnvelopeEncryptionRequest.normalized, EnvelopeEncryptionRequest.ext_iff] at hnormal
  obtain ⟨htenant, hobject, hversion, -⟩ := hnormal
  obtain ⟨evidence, -, -, -, -, rfl⟩ := encrypt_eq_ok.mp h
  refine ⟨⟨?_, ?_, ?_⟩, ?_, ?_, rfl, rfl⟩
  · simp [hashed, EnvelopeEncryptionManifest.normalized, draftManifest, htenant, htenantNe]
  · simp [hashed, EnvelopeEncryptionManifest.normalized, draftManifest, hobject, hobjectNe]
  · simp [hashed, EnvelopeEncryptionManifest.normalized, draftManifest, hversion, hversionNe]
  · rw [length_sealedBytes]
    have := List.length_pos_of_ne_nil hplaintext
    omega
  · exact htenant

/-- Everything an encryption asks of the KMS, a decryption of its manifest is granted. -/
theorem encrypt_usable {dataKey nonce : Bytes} {raw request : EnvelopeEncryptionRequest}
    {payload : EnvelopeEncryptedPayload} (hvalid : raw.validate = .ok request)
    (h : service.encrypt H kms dataKey nonce request = .ok payload) :
    isNamespacedRef (Text.strip payload.manifest.kmsKeyRef) = true ∧
      kms.Usable payload.manifest.tenantId payload.manifest.dataClass
        payload.manifest.kmsKeyRef := by
  obtain ⟨⟨⟨hstrip, -⟩, -, -⟩, -, htenant, hclass, href⟩ := encrypt_manifest hvalid h
  obtain ⟨herrors, husable, -⟩ := (encrypt_isOk_iff hvalid).mp ⟨payload, h⟩
  obtain ⟨-, hnamespaced, -⟩ := KmsKeyReferenceRequest.errors_eq_nil.mp herrors
  constructor
  · rw [href, Text.strip_strip]
    exact hnamespaced
  · rw [href, hclass, LocalKmsAdapter.usable_strip]
    rw [htenant] at hstrip ⊢
    rwa [hstrip] at husable

/-! ## The round trip -/

/-- Whatever an encryption returns, decryption with the manifest's own fields,
the same authenticated data and the same KMS gives the plaintext back. -/
def RoundTrips (H : HashFunctions) (service : LocalEnvelopeEncryptionService)
    (kms : LocalKmsAdapter) (dataKey nonce : Bytes) (request : EnvelopeEncryptionRequest) : Prop :=
  ∀ payload caller, service.encrypt H kms dataKey nonce request = .ok payload →
    caller.Accepted → ∃ result,
      service.decryptWith H kms payload.manifest payload.ciphertext request.aad caller =
        .ok result ∧ result.plaintext = request.plaintext

theorem roundTrips_of_stripped {dataKey nonce : Bytes} {raw request : EnvelopeEncryptionRequest}
    (hvalid : raw.validate = .ok request)
    (hclean : Text.strip request.kmsKeyRef = request.kmsKeyRef) :
    service.RoundTrips H kms dataKey nonce request := by
  intro payload caller h hcaller
  obtain ⟨hids, hlength, -⟩ := encrypt_manifest hvalid h
  obtain ⟨href, husable⟩ := encrypt_usable hvalid h
  have hopens : service.Opens H payload.manifest request.aad payload.ciphertext dataKey
      request.plaintext := by
    obtain ⟨evidence, -, -, -, -, rfl⟩ := encrypt_eq_ok.mp h
    exact encrypt_opens hvalid hclean
  exact decryptWith_of_opens hopens hids hlength href hcaller husable

/-! ## Digests that tell two references apart

For two different texts of a key reference there are digests under which the
wrap streams differ in every byte and an authentication tag shows its key. -/

theorem encodeText_append (s t : String) : encodeText (s ++ t) = encodeText s ++ encodeText t := by
  simp [encodeText, Text.encodeUtf8, String.toByteArray_append]

theorem encodeText_injective : Function.Injective encodeText := Text.encodeUtf8_injective

theorem head?_wrapMessage (ref : String) : (encodeText ("wrap:" ++ ref)).head? = some 119 := by
  rw [encodeText_append]
  rfl

def revealingDigests (given stored : String) : HashFunctions where
  sha256 := id
  hmacSha256 key message :=
    if message = encodeText ("wrap:" ++ given) then List.replicate 32 0
    else if message = encodeText ("wrap:" ++ stored) then List.replicate 32 1
    else (key ++ List.replicate 32 0).take 32
  hmac_length key message := by
    split_ifs
    · rfl
    · rfl
    · rw [List.length_take, List.length_append, List.length_replicate]
      omega

variable {given stored : String}

/-- On a message that is not a wrap message the tag shows its key. -/
theorem revealing_of_head {key message : Bytes} (hkey : key.length = 32)
    (hhead : message.head? ≠ some 119) :
    (revealingDigests given stored).hmacSha256 key message = key := by
  have hne (ref : String) : message ≠ encodeText ("wrap:" ++ ref) := by
    rintro rfl
    exact hhead (head?_wrapMessage ref)
  simp only [revealingDigests, if_neg (hne given), if_neg (hne stored)]
  rw [List.take_left' hkey]

theorem revealing_authTag {dataKey nonce aadBytes body : Bytes} (hkey : dataKey.length = 32) :
    authTag (revealingDigests given stored) dataKey nonce aadBytes body = dataKey := by
  refine revealing_of_head hkey ?_
  rw [show encodeText "tag" = [116, 97, 103] by decide]
  simp

/-- A wrap stream of 32 bytes is its wrapping key. -/
theorem revealing_wrapStream {secret : Bytes} {ref : String} :
    wrapStream (revealingDigests given stored) secret ref 32 =
      (revealingDigests given stored).hmacSha256 secret (encodeText ("wrap:" ++ ref)) := by
  have hlength := (revealingDigests given stored).hmac_length
  rw [wrapStream, StreamCipher.keystream_of_le_block (by decide) (by rw [hlength])]
  rw [revealing_of_head (hlength _ _) (by decide)]
  exact List.take_of_length_le (by rw [hlength])

theorem revealing_given {secret : Bytes} :
    wrapStream (revealingDigests given stored) secret given 32 = List.replicate 32 0 := by
  rw [revealing_wrapStream]
  simp [revealingDigests]

theorem revealing_stored {secret : Bytes} (hne : stored ≠ given) :
    wrapStream (revealingDigests given stored) secret stored 32 = List.replicate 32 1 := by
  rw [revealing_wrapStream]
  have hmessage : encodeText ("wrap:" ++ stored) ≠ encodeText ("wrap:" ++ given) := by
    intro h
    have := encodeText_injective h
    simp at this
    exact hne this
  simp [revealingDigests, hmessage]

/-- Under revealing digests a data key wrapped under one text never
authenticates when it is unwrapped under the other. -/
theorem not_opens_revealing {dataKey nonce : Bytes} {request : EnvelopeEncryptionRequest}
    {evidence : KmsOperationEvidence} {aad : Dict String String} {key plaintext : Bytes}
    (hdataKey : dataKey.length = dataKeyBytes)
    (hne : Text.strip request.kmsKeyRef ≠ request.kmsKeyRef) :
    ¬ service.Opens (revealingDigests request.kmsKeyRef (Text.strip request.kmsKeyRef))
      (hashed (revealingDigests request.kmsKeyRef (Text.strip request.kmsKeyRef))
        (draftManifest (revealingDigests request.kmsKeyRef (Text.strip request.kmsKeyRef))
          service dataKey nonce request evidence).normalized) aad
      (sealedBytes (revealingDigests request.kmsKeyRef (Text.strip request.kmsKeyRef)) dataKey
        nonce (requestAadBytes request) request.plaintext) key plaintext := by
  set D := revealingDigests request.kmsKeyRef (Text.strip request.kmsKeyRef) with hD
  intro hopens
  obtain ⟨wrapped, nonce', hwrapped, hkey, -, htag⟩ :=
    unwrapAuthenticatedDataKey_eq_ok.mp hopens.key
  simp only [hashed, EnvelopeEncryptionManifest.normalized, draftManifest, strip_b64encode,
    b64decode_b64encode, Except.ok.injEq] at hwrapped
  subst hwrapped
  have hlength : (wrappedKey D service.providerSecret dataKey request.kmsKeyRef).length = 32 := by
    rw [length_wrappedKey, hdataKey]
    rfl
  -- the key that comes out is the wrapped key under the stored text's stream
  obtain ⟨hsame, hout⟩ := xorBytes_eq_ok.mp hkey
  have hkeyLength : key.length = 32 := by
    rw [← hout, StreamCipher.length_xor hsame, hlength]
  rw [drop_sealedBytes, revealing_authTag hdataKey, revealing_authTag hkeyLength] at htag
  subst htag
  -- and the wrapped key under the given text's stream is the data key as well
  have hin := unwrapDataKey_wrappedKey (H := D) service.providerSecret dataKey request.kmsKeyRef
  obtain ⟨hsame', hin⟩ := xorBytes_eq_ok.mp hin
  have hstreams := StreamCipher.xor_left_cancel hsame' hsame (hin.trans hout.symm)
  simp only [hashed, EnvelopeEncryptionManifest.normalized, draftManifest] at hstreams
  rw [hlength, hD, revealing_given, revealing_stored hne] at hstreams
  exact absurd hstreams (by decide)

/-- Under revealing digests a reference with surrounding whitespace does not round-trip. -/
theorem not_roundTrips_revealing {dataKey nonce : Bytes} {raw request : EnvelopeEncryptionRequest}
    (hvalid : raw.validate = .ok request)
    (hkms : (encryptionKmsRequest request).normalized.errors = [])
    (husable : kms.Usable (Text.strip request.tenantId) request.dataClass request.kmsKeyRef)
    (hdataKey : dataKey.length = dataKeyBytes) (hnonce : nonce.length = nonceBytes)
    (hne : Text.strip request.kmsKeyRef ≠ request.kmsKeyRef) :
    ¬ service.RoundTrips (revealingDigests request.kmsKeyRef (Text.strip request.kmsKeyRef))
      kms dataKey nonce request := by
  intro h
  obtain ⟨payload, hpayload⟩ := (encrypt_isOk_iff
    (H := revealingDigests request.kmsKeyRef (Text.strip request.kmsKeyRef)) hvalid).mpr
    ⟨hkms, husable, hdataKey, hnonce⟩
  obtain ⟨-, -, hrequested, haudit, htime⟩ := KmsKeyReferenceRequest.errors_eq_nil.mp hkms
  obtain ⟨result, hresult, -⟩ := h payload
    ⟨request.requestedBy, request.auditChainRef, request.occurredAtUtc⟩ hpayload
    ⟨hrequested, haudit, htime⟩
  obtain ⟨⟨key, hopens⟩, -⟩ := opens_of_decryptWith hresult
  obtain ⟨evidence, -, -, -, -, rfl⟩ := encrypt_eq_ok.mp hpayload
  exact not_opens_revealing hdataKey hne hopens

/-- **Round trip, exactly.** For a request the model accepts and an encryption
that returns, decryption gives the plaintext back under all digests exactly
when the request's key reference carries no surrounding whitespace. -/
theorem envelope_round_trip_iff_reference_stripped {H₀ : HashFunctions}
    {dataKey nonce : Bytes} {raw request : EnvelopeEncryptionRequest}
    {payload₀ : EnvelopeEncryptedPayload} (hvalid : raw.validate = .ok request)
    (hencrypt : service.encrypt H₀ kms dataKey nonce request = .ok payload₀) :
    (∀ H, service.RoundTrips H kms dataKey nonce request) ↔
      Text.strip request.kmsKeyRef = request.kmsKeyRef := by
  constructor
  · intro h
    by_contra hne
    obtain ⟨hkms, husable, hdataKey, hnonce⟩ := (encrypt_isOk_iff hvalid).mp ⟨_, hencrypt⟩
    exact not_roundTrips_revealing hvalid hkms husable hdataKey hnonce hne (h _)
  · intro hclean H
    exact roundTrips_of_stripped hvalid hclean

/-- A request whose key reference is followed by `padding`. -/
def sampleRequest (padding : String) : EnvelopeEncryptionRequest where
  tenantId := "acme"
  objectId := "doc-1"
  sourceVersionId := "v1"
  dataClass := .internal
  kmsKeyRef := "kms://acme/internal/v1" ++ padding
  plaintext := [104, 105]
  aad := ∅
  requestedBy := "alice"
  auditChainRef := "audit:1"
  occurredAtUtc := "2026-01-05T09:00:00Z"

def sampleDataKey : Bytes := List.replicate 32 7

def sampleNonce : Bytes := List.replicate 12 9

/-- The texts of the sample request are stripped already. -/
theorem strip_sample : ∀ text ∈ ["acme", "doc-1", "v1", "alice", "audit:1",
    "2026-01-05T09:00:00Z"], Text.strip text = text := by decide +kernel

theorem sampleRequest_normalized (padding : String) :
    (sampleRequest padding).normalized = sampleRequest padding :=
  EnvelopeEncryptionRequest.ext (strip_sample "acme" (by simp)) (strip_sample "doc-1" (by simp))
    (strip_sample "v1" (by simp)) rfl rfl rfl rfl (strip_sample "alice" (by simp)) rfl
    (strip_sample "2026-01-05T09:00:00Z" (by simp))

theorem sampleRequest_valid (padding : String) :
    (sampleRequest padding).validate = .ok (sampleRequest padding) := by
  refine accept_eq_ok.mpr ⟨?_, sampleRequest_normalized padding⟩
  rw [sampleRequest_normalized]
  simp [EnvelopeEncryptionRequest.errors, sampleRequest, isUtcTimestamp_sample]

/-- The KMS answers the sample request, with a space after the reference or without. -/
theorem sampleRequest_answered (padding : String) (hpadding : padding = "" ∨ padding = " ") :
    (encryptionKmsRequest (sampleRequest padding)).normalized.errors = [] ∧
      sampleKms.Usable (Text.strip "acme") .internal ("kms://acme/internal/v1" ++ padding) := by
  have hstrip : Text.strip ("kms://acme/internal/v1" ++ padding) = "kms://acme/internal/v1" := by
    rcases hpadding with rfl | rfl <;> decide +kernel
  have href : isNamespacedRef "kms://acme/internal/v1" = true := by decide +kernel
  have haudit : isNamespacedRef "audit:1" = true := by decide +kernel
  constructor
  · rw [KmsKeyReferenceRequest.errors_eq_nil]
    simp only [KmsKeyReferenceRequest.normalized, encryptionKmsRequest, sampleRequest, hstrip,
      strip_sample "acme" (by simp), strip_sample "alice" (by simp),
      strip_sample "audit:1" (by simp), strip_sample "2026-01-05T09:00:00Z" (by simp), href,
      haudit, isUtcTimestamp_sample]
    decide
  · rw [← LocalKmsAdapter.usable_strip, hstrip, strip_sample "acme" (by simp)]
    exact ⟨sampleKeyRef, sampleKms_accepts⟩

/-- A space after the key reference: the encryption returns, its decryption does not. -/
theorem padded_reference_does_not_round_trip :
    (sampleRequest " ").validate = .ok (sampleRequest " ") ∧
      ¬ RoundTrips (revealingDigests "kms://acme/internal/v1 " "kms://acme/internal/v1")
        ⟨[]⟩ sampleKms sampleDataKey sampleNonce (sampleRequest " ") := by
  refine ⟨sampleRequest_valid " ", ?_⟩
  obtain ⟨hkms, husable⟩ := sampleRequest_answered _ (.inr rfl)
  exact not_roundTrips_revealing (sampleRequest_valid " ") hkms husable rfl rfl (by decide)

theorem sample_round_trip :
    (∀ H, RoundTrips H ⟨[]⟩ sampleKms sampleDataKey sampleNonce (sampleRequest "")) ↔
      Text.strip (sampleRequest "").kmsKeyRef = (sampleRequest "").kmsKeyRef :=
  @envelope_round_trip_iff_reference_stripped _ _ default _ _ _ _ _ (sampleRequest_valid "")
    ((encrypt_isOk_iff (sampleRequest_valid "")).mpr
      ⟨(sampleRequest_answered _ (.inl rfl)).1, (sampleRequest_answered _ (.inl rfl)).2, rfl,
        rfl⟩).choose_spec

end LocalEnvelopeEncryptionService

end Collabio
