import Mathlib.Tactic
import Collabio.Kms.RewrapChain

/-!
# What a manifest says about the decryptions it takes part in

Two decryptions may come from any callers, in any states of the KMS; a manifest
that both carry leaves nothing of the object open.

* `get?_eq_of_canonicalAad` — the authenticated bytes determine the AAD map, the
  order of its entries aside;
* `decryption_integrity`    — two decryptions under one manifest agree.
-/

namespace Collabio

variable {H : HashFunctions}

namespace LocalEnvelopeEncryptionService

/-! ## Authenticated data -/

/-- Equal objects of texts read back the same. -/
theorem get?_of_same {aad aad' : Dict String String} {key value : String}
    (h : Json.Same (.obj (aad.items.map fun item => (item.1, .str item.2)))
      (.obj (aad'.items.map fun item => (item.1, .str item.2))))
    (hvalue : aad.get? key = some value) : aad'.get? key = some value := by
  have hmember : (key, Json.str value) ∈ aad.items.map fun item => (item.1, Json.str item.2) :=
    List.mem_map.mpr ⟨(key, value), Dict.mem_items.mpr hvalue, rfl⟩
  obtain ⟨y, hy, hsame⟩ := Json.exists_mem_of_same h hmember
  obtain ⟨⟨key', value'⟩, hitem, hpair⟩ := List.mem_map.mp hy
  rw [Prod.mk.injEq] at hpair
  obtain ⟨rfl, rfl⟩ := hpair
  rw [Json.same_str.mp hsame]
  exact Dict.mem_items.mp hitem

/-- **The canonical bytes determine the AAD map**: the same entries, in any order. -/
theorem get?_eq_of_canonicalAad {tenantId objectId sourceVersionId : String}
    {dataClass : DataClass} {aad aad' : Dict String String}
    (h : canonicalEnvelopeAadBytes tenantId objectId sourceVersionId dataClass aad =
      canonicalEnvelopeAadBytes tenantId objectId sourceVersionId dataClass aad') (key : String) :
    aad.get? key = aad'.get? key := by
  have hpayload := Json.canonical_inj.mp (Text.encodeUtf8_injective h)
  have hkeys : (["aad", "data_class", "object_id", "source_version_id", "tenant_id"]).Nodup := by
    decide
  have haad := Json.same_of_mem hpayload hkeys (List.mem_cons_self ..) (List.mem_cons_self ..)
  refine Option.ext fun value => ⟨fun hvalue => ?_, fun hvalue => ?_⟩
  · exact get?_of_same haad hvalue
  · exact get?_of_same (Eq.symm haad) hvalue

/-! ## Two decryptions -/

/-- Two decryptions of one object: the requests name the same object, key, authenticated
data and ciphertext, and the results are the plaintext that the manifest commits to. -/
structure SameDecryption (H : HashFunctions) (manifest : EnvelopeEncryptionManifest)
    (request request' : EnvelopeDecryptionRequest) (result result' : EnvelopeDecryptionResult) :
    Prop where
  tenantId        : request.tenantId = request'.tenantId
  objectId        : request.objectId = request'.objectId
  sourceVersionId : request.sourceVersionId = request'.sourceVersionId
  dataClass       : request.dataClass = request'.dataClass
  kmsKeyRef       : request.kmsKeyRef = request'.kmsKeyRef
  aad             : ∀ key, request.aad.get? key = request'.aad.get? key
  ciphertext      : request.ciphertext = request'.ciphertext
  plaintext       : result.plaintext = result'.plaintext
  /-- The returned hash is the hash of the plaintext, and the manifest's. -/
  plaintextHash   : computeContentHash H result.plaintext = manifest.plaintextHash ∧
    result.plaintextHash = manifest.plaintextHash

/-- A manifest opens one ciphertext only, under one AAD map and with one plaintext. -/
theorem Opens.unique (hinjective : Function.Injective H.sha256)
    {service : LocalEnvelopeEncryptionService} {manifest : EnvelopeEncryptionManifest}
    {aad aad' : Dict String String} {ciphertext ciphertext' dataKey dataKey' : Bytes}
    {plaintext plaintext' : Bytes}
    (h : service.Opens H manifest aad ciphertext dataKey plaintext)
    (h' : service.Opens H manifest aad' ciphertext' dataKey' plaintext') :
    (∀ key, aad.get? key = aad'.get? key) ∧ ciphertext = ciphertext' ∧ plaintext = plaintext' := by
  obtain ⟨haadHash, hciphertextHash, -⟩ := requireHashesMatch_eq_ok.mp h.hashes
  obtain ⟨haadHash', hciphertextHash', -⟩ := requireHashesMatch_eq_ok.mp h'.hashes
  have haad : aadBytesOf manifest aad = aadBytesOf manifest aad' :=
    computeContentHash_injective hinjective (haadHash.trans haadHash'.symm)
  have hciphertext : ciphertext = ciphertext' :=
    computeContentHash_injective hinjective (hciphertextHash.trans hciphertextHash'.symm)
  refine ⟨get?_eq_of_canonicalAad haad, hciphertext, ?_⟩
  -- the same wrapped key, nonce and authenticated data go into both
  have hkey := h.key
  rw [haad, hciphertext, h'.key, Except.ok.injEq] at hkey
  have hbody := h.body
  rw [haad, hciphertext, ← hkey, h'.body, Except.ok.injEq] at hbody
  exact hbody.symm

/-- **Decryption integrity.** Two decryptions that carry one manifest and return agree on
the object, the key reference, the authenticated data and the ciphertext, and return the
plaintext whose hash the manifest has. -/
theorem decryption_integrity (hinjective : Function.Injective H.sha256)
    {service : LocalEnvelopeEncryptionService} {manifest : EnvelopeEncryptionManifest}
    {kms kms' : LocalKmsAdapter} {request request' : EnvelopeDecryptionRequest}
    {result result' : EnvelopeDecryptionResult} (hmanifest : request.manifest = manifest)
    (hmanifest' : request'.manifest = manifest)
    (h : service.decrypt H kms request = .ok result)
    (h' : service.decrypt H kms' request' = .ok result') :
    SameDecryption H manifest request request' result result' := by
  obtain ⟨evidence, dataKey, plaintext, hmatch, -, hopens, rfl⟩ := decrypt_eq_ok.mp h
  obtain ⟨evidence', dataKey', plaintext', hmatch', -, hopens', rfl⟩ := decrypt_eq_ok.mp h'
  rw [hmanifest] at hopens
  rw [hmanifest'] at hopens'
  obtain ⟨-, hclass, href, hobject, hversion, htenant⟩ :=
    requireRequestMatchesManifest_eq_ok.mp hmatch
  obtain ⟨-, hclass', href', hobject', hversion', htenant'⟩ :=
    requireRequestMatchesManifest_eq_ok.mp hmatch'
  rw [hmanifest] at hclass href hobject hversion htenant
  rw [hmanifest'] at hclass' href' hobject' hversion' htenant'
  -- the manifest's hashes leave one ciphertext, and this one plaintext
  obtain ⟨haad, hciphertext, hplaintext⟩ := hopens.unique hinjective hopens'
  obtain ⟨_, -, -, hhash⟩ := openBody_eq_ok.mp hopens.body
  exact {
    tenantId := htenant.trans htenant'.symm
    objectId := hobject.trans hobject'.symm
    sourceVersionId := hversion.trans hversion'.symm
    dataClass := hclass.trans hclass'.symm
    kmsKeyRef := href.trans href'.symm
    aad := haad
    ciphertext := hciphertext
    plaintext := hplaintext
    plaintextHash := ⟨hhash, hhash⟩ }

/-- The sample envelope, read before and after another key reference is destroyed. -/
theorem sample_decryptions_agree :
    ∃ (request : EnvelopeDecryptionRequest) (result result' : EnvelopeDecryptionResult),
      Function.Injective (default : HashFunctions).sha256 ∧
      decrypt default ⟨[]⟩ sampleKms request = .ok result ∧
      decrypt default ⟨[]⟩ (sampleKms.destroy "kms://acme/internal/v2") request = .ok result' ∧
      SameDecryption default request.manifest request request result result' := by
  obtain ⟨payload, hpayload⟩ := sampleEncrypted
  obtain ⟨result, hresult⟩ := hpayload.decrypts
  obtain ⟨request, hrequest, hresult⟩ := Except.bind_eq_ok.mp hresult
  obtain ⟨-, rfl⟩ := accept_eq_ok.mp hrequest
  have hother : Text.strip payload.manifest.kmsKeyRef ≠ "kms://acme/internal/v2" := by
    rw [hpayload.keyRef]
    decide +kernel
  have hkept : decrypt default ⟨[]⟩ (sampleKms.destroy "kms://acme/internal/v2") _ = .ok result :=
    decrypt_destroy.mpr ⟨hresult, hother⟩
  exact ⟨_, result, result, Function.injective_id, hresult, hkept,
    decryption_integrity Function.injective_id rfl rfl hresult hkept⟩

end LocalEnvelopeEncryptionService

end Collabio
