import Mathlib.Tactic
import Collabio.ControlPlane.EventJson
import Collabio.Kms.RewrapChain

/-!
# Manifests in storage

A manifest is written with `model_dump_json` and read with `model_validate_json`,
which runs the model's validators. `encrypt` makes its manifest with these
validators; `rewrap` copies one with new values and runs none.

* `validate_modelDumpJson` — a written manifest reads back as what its validators make of it;
* `Issued`                 — the manifests of encryptions and of chains of rewraps;
* `Issued.settled`         — their fields are as the validators leave them, up to
  `audit_chain_ref`;
* `manifest_survives_iff`  — they survive storage exactly if the last rewrap was asked for
  with an audit reference without surrounding whitespace.
-/

namespace Collabio

variable {H : HashFunctions}

/-! ## Reading and writing -/

def EnvelopeEncryptionAlgorithm.ofValue? (text : String) : Option EnvelopeEncryptionAlgorithm :=
  if text = localDevHmacSha256StreamV1.value then some .localDevHmacSha256StreamV1 else none

@[simp] theorem EnvelopeEncryptionAlgorithm.ofValue?_value (algorithm : EnvelopeEncryptionAlgorithm) :
    ofValue? algorithm.value = some algorithm := by
  cases algorithm
  rfl

/-- The member of this name; of several, the last one counts. -/
def member? (key : String) (members : List (String × Json)) : Option Json :=
  (members.reverse.find? fun member => member.1 = key).map Prod.snd

theorem member?_of_mem {members : List (String × Json)} (hunique : (members.map Prod.fst).Nodup)
    {key : String} {x : Json} (h : (key, x) ∈ members) : member? key members = some x := by
  have hreverse : (members.reverse.map Prod.fst).Nodup := by
    rw [List.map_reverse, List.nodup_reverse]
    exact hunique
  rw [member?, Dict.find?_eq_some_of_mem hreverse (List.mem_reverse.mpr h)]
  rfl

/-- A field of type `str`. -/
def textField (key : String) (fallback : Option String) (members : List (String × Json)) :
    Option String :=
  match member? key members with
  | none => fallback
  | some x => AuditEvent.textOf x

/-- A field of type `str | None` that defaults to `None`. -/
def optionalField (key : String) (members : List (String × Json)) : Option (Option String) :=
  match member? key members with
  | none => some none
  | some x => AuditEvent.optionalTextOf x

/-- An integer field; `Field(ge=1)` refuses the negative ones. -/
def countField (key : String) (members : List (String × Json)) : Option Nat :=
  match member? key members with
  | some (.int (.ofNat n)) => some n
  | _ => none

theorem textField_eq {members : List (String × Json)} {key text : String}
    {fallback : Option String} (h : member? key members = some (.str text)) :
    textField key fallback members = some text := by
  rw [textField, h]
  rfl

theorem optionalField_eq {members : List (String × Json)} {key : String} {text : Option String}
    (h : member? key members = some (optionalText text)) :
    optionalField key members = some text := by
  rw [optionalField, h]
  exact AuditEvent.optionalTextOf_optionalText text

theorem countField_eq {members : List (String × Json)} {key : String} {n : Nat}
    (h : member? key members = some (.int n)) : countField key members = some n := by
  rw [countField, h]

namespace EnvelopeEncryptionManifest

/-- The fields of `model_dump(mode="json")`. -/
def members (manifest : EnvelopeEncryptionManifest) : List (String × Json) :=
  manifest.payloadFields ++ [("manifest_hash", .str manifest.manifestHash)]

def modelDumpJson (manifest : EnvelopeEncryptionManifest) : List Char :=
  Json.write Json.rawEscapes (.obj manifest.members)

/-- The fields by their names; members of other names are ignored. -/
def ofMembers (members : List (String × Json)) : Option EnvelopeEncryptionManifest := do
  return {
    schemaVersion := ← textField "schema_version" (some "envelope_encryption_manifest.v1") members
    tenantId := ← textField "tenant_id" none members
    objectId := ← textField "object_id" none members
    sourceVersionId := ← textField "source_version_id" none members
    dataClass := ← (textField "data_class" none members).bind DataClass.ofValue?
    kmsKeyRef := ← textField "kms_key_ref" none members
    algorithm := ← (textField "algorithm" none members).bind EnvelopeEncryptionAlgorithm.ofValue?
    keyWrapAlgorithm := ← textField "key_wrap_algorithm" (some "local_dev_kms_ref_wrap_v1") members
    nonceB64 := ← textField "nonce_b64" none members
    aadHash := ← textField "aad_hash" none members
    plaintextHash := ← textField "plaintext_hash" none members
    ciphertextHash := ← textField "ciphertext_hash" none members
    ciphertextByteLength := ← countField "ciphertext_byte_length" members
    wrappedDataKeyB64 := ← textField "wrapped_data_key_b64" none members
    wrappedDataKeyHash := ← textField "wrapped_data_key_hash" none members
    kmsEvidenceHash := ← textField "kms_evidence_hash" none members
    encryptedAtUtc := ← textField "encrypted_at_utc" none members
    previousManifestHash := ← optionalField "previous_manifest_hash" members
    previousKmsKeyRef := ← optionalField "previous_kms_key_ref" members
    rotationEvidenceHash := ← optionalField "rotation_evidence_hash" members
    rotatedAtUtc := ← optionalField "rotated_at_utc" members
    rotationReason := ← optionalField "rotation_reason" members
    requestedBy := ← textField "requested_by" none members
    auditChainRef := ← textField "audit_chain_ref" none members
    manifestHash := ← textField "manifest_hash" none members }

/-- Texts without these fields are refused; which of the fields the error names is left out. -/
def modelValidateJson (text : List Char) : Except Exn EnvelopeEncryptionManifest :=
  match Json.read Json.rawEscapes text with
  | some (.obj members) =>
    match ofMembers members with
    | some manifest => manifest.validate
    | none => .error (.validationError "EnvelopeEncryptionManifest"
        [⟨"", .message "Field required"⟩])
  | _ => .error (.validationError "EnvelopeEncryptionManifest" [⟨"", .message "Invalid JSON"⟩])

theorem normalized_normalized (manifest : EnvelopeEncryptionManifest) :
    manifest.normalized.normalized = manifest.normalized := by
  have hoptional : ∀ text : Option String,
      (text.map Text.strip).map Text.strip = text.map Text.strip := by
    intro text
    cases text <;> simp
  simp only [normalized, Text.strip_strip, hoptional]

theorem members_nodup (manifest : EnvelopeEncryptionManifest) :
    (manifest.members.map Prod.fst).Nodup := by
  show ["schema_version", "tenant_id", "object_id", "source_version_id", "data_class",
    "kms_key_ref", "algorithm", "key_wrap_algorithm", "nonce_b64", "aad_hash", "plaintext_hash",
    "ciphertext_hash", "ciphertext_byte_length", "wrapped_data_key_b64", "wrapped_data_key_hash",
    "kms_evidence_hash", "encrypted_at_utc", "previous_manifest_hash", "previous_kms_key_ref",
    "rotation_evidence_hash", "rotated_at_utc", "rotation_reason", "requested_by",
    "audit_chain_ref", "manifest_hash"].Nodup
  decide

theorem payloadFields_nodup (manifest : EnvelopeEncryptionManifest) :
    (manifest.payloadFields.map Prod.fst).Nodup := by
  have hunique := manifest.members_nodup
  rw [members, List.map_append, List.nodup_append] at hunique
  exact hunique.1

theorem mem_payloadFields (manifest : EnvelopeEncryptionManifest) :
    ("audit_chain_ref", .str manifest.auditChainRef) ∈ manifest.payloadFields := by
  simp [payloadFields]

/-- Whatever has the members of a manifest under their names is read as the manifest. -/
theorem ofMembers_eq {manifest : EnvelopeEncryptionManifest} {written : List (String × Json)}
    (hread : ∀ member ∈ manifest.members, member? member.1 written = some member.2) :
    ofMembers written = some manifest := by
  simp only [members, payloadFields, List.cons_append, List.nil_append,
    List.forall_mem_cons] at hread
  obtain ⟨hschemaVersion, htenant, hobject, hversion, hdataClass, hkeyRef, halgorithm, hwrap,
    hnonce, haad, hplaintext, hciphertext, hlength, hwrapped, hwrappedHash, hevidence, hencrypted,
    hprevious, hpreviousRef, hrotation, hrotated, hreason, hrequested, haudit, hhash, -⟩ := hread
  rw [ofMembers, textField_eq hschemaVersion, textField_eq htenant, textField_eq hobject,
    textField_eq hversion, textField_eq hdataClass, Option.bind_some, DataClass.ofValue?_value,
    textField_eq hkeyRef, textField_eq halgorithm, Option.bind_some,
    EnvelopeEncryptionAlgorithm.ofValue?_value, textField_eq hwrap, textField_eq hnonce,
    textField_eq haad, textField_eq hplaintext, textField_eq hciphertext, countField_eq hlength,
    textField_eq hwrapped, textField_eq hwrappedHash, textField_eq hevidence, textField_eq
    hencrypted, optionalField_eq hprevious, optionalField_eq hpreviousRef, optionalField_eq
    hrotation, optionalField_eq hrotated, optionalField_eq hreason, textField_eq hrequested,
    textField_eq haudit, textField_eq hhash]
  rfl

/-- **A written manifest** reads back as what the validators make of it. -/
theorem validate_modelDumpJson (manifest : EnvelopeEncryptionManifest) :
    modelValidateJson manifest.modelDumpJson = manifest.validate := by
  have hread : ofMembers manifest.members = some manifest :=
    ofMembers_eq fun member hmember => member?_of_mem manifest.members_nodup hmember
  rw [modelValidateJson, modelDumpJson, Json.read_write]
  simp only [hread]

end EnvelopeEncryptionManifest

namespace LocalEnvelopeEncryptionService

variable (H) in
/-- A manifest as `encrypt` returned it, or as the last of a chain of rewraps did. The
chain may pass through several states of the KMS and several services. -/
inductive Issued : EnvelopeEncryptionManifest → Option EnvelopeRewrapRequest → Prop
  | encrypted {service : LocalEnvelopeEncryptionService} {kms : LocalKmsAdapter}
      {dataKey nonce : Bytes} {raw request : EnvelopeEncryptionRequest}
      {payload : EnvelopeEncryptedPayload} (valid : raw.validate = .ok request)
      (encrypted : service.encrypt H kms dataKey nonce request = .ok payload) :
      Issued payload.manifest none
  | rewrapped {service : LocalEnvelopeEncryptionService} {kms : LocalKmsAdapter}
      {raw request : EnvelopeRewrapRequest} {result : EnvelopeRewrapResult}
      {last : Option EnvelopeRewrapRequest} (issued : Issued request.manifest last)
      (valid : raw.validate = .ok request)
      (rewrapped : service.rewrap H kms request = .ok result) :
      Issued result.manifest (some request)

/-- Written and read back, the manifest is the same and its hash verifies. -/
def SurvivesStorage (H : HashFunctions) (manifest : EnvelopeEncryptionManifest) : Prop :=
  ∃ reloaded, EnvelopeEncryptionManifest.modelValidateJson manifest.modelDumpJson = .ok reloaded ∧
    reloaded = manifest ∧
    manifest.manifestHash = buildEnvelopeEncryptionManifestHash H reloaded

/-- What the validators make of a manifest differs from it in `audit_chain_ref` at most. -/
structure Settled (H : HashFunctions) (manifest : EnvelopeEncryptionManifest) : Prop where
  normal : manifest.normalized =
    { manifest with auditChainRef := Text.strip manifest.auditChainRef }
  errors : manifest.normalized.errors = []
  hash   : manifest.manifestHash = buildEnvelopeEncryptionManifestHash H manifest
  /-- A data key is wrapped. -/
  key    : ∃ wrapped, b64decode manifest.wrappedDataKeyB64 = .ok wrapped ∧ wrapped ≠ []

theorem Settled.reload {manifest : EnvelopeEncryptionManifest} (h : Settled H manifest) :
    EnvelopeEncryptionManifest.modelValidateJson manifest.modelDumpJson =
      .ok { manifest with auditChainRef := Text.strip manifest.auditChainRef } := by
  rw [EnvelopeEncryptionManifest.validate_modelDumpJson]
  exact manifest_validate_eq_ok.mpr ⟨h.errors, h.normal⟩

theorem Settled.survives_iff {manifest : EnvelopeEncryptionManifest} (h : Settled H manifest) :
    SurvivesStorage H manifest ↔ Text.strip manifest.auditChainRef = manifest.auditChainRef := by
  constructor
  · rintro ⟨reloaded, hreloaded, hsame, -⟩
    rw [h.reload, Except.ok.injEq, hsame] at hreloaded
    exact congrArg EnvelopeEncryptionManifest.auditChainRef hreloaded
  · intro hstrip
    refine ⟨manifest, ?_, rfl, h.hash⟩
    rw [h.reload, hstrip]

/-- A manifest that the validators have made is settled once it is hashed. -/
theorem settled_hashed {draft : EnvelopeEncryptionManifest} (hnormal : draft.normalized = draft)
    (herrors : draft.errors = [])
    (hkey : ∃ wrapped, b64decode draft.wrappedDataKeyB64 = .ok wrapped ∧ wrapped ≠ []) :
    Settled H (hashed H draft) ∧
      Text.strip (hashed H draft).auditChainRef = (hashed H draft).auditChainRef := by
  have haudit : Text.strip draft.auditChainRef = draft.auditChainRef :=
    congrArg EnvelopeEncryptionManifest.auditChainRef hnormal
  have hhashed : (hashed H draft).normalized = hashed H draft := by
    show { draft.normalized with manifestHash := buildEnvelopeEncryptionManifestHash H draft } = _
    rw [hnormal]
    rfl
  have hsame : (hashed H draft).auditChainRef = draft.auditChainRef := rfl
  refine ⟨⟨?_, ?_, rfl, hkey⟩, ?_⟩
  · rw [hhashed, hsame, haudit]
    rfl
  · rw [hhashed]
    exact herrors
  · rw [hsame, haudit]

/-- An encryption's manifest was made by the validators. -/
theorem settled_of_encrypt {service : LocalEnvelopeEncryptionService} {kms : LocalKmsAdapter}
    {dataKey nonce : Bytes} {request : EnvelopeEncryptionRequest}
    {payload : EnvelopeEncryptedPayload}
    (h : service.encrypt H kms dataKey nonce request = .ok payload) :
    Settled H payload.manifest ∧
      Text.strip payload.manifest.auditChainRef = payload.manifest.auditChainRef := by
  obtain ⟨evidence, -, hdataKey, -, herrors, rfl⟩ := encrypt_eq_ok.mp h
  refine settled_hashed (EnvelopeEncryptionManifest.normalized_normalized _) herrors
    ⟨wrappedKey H service.providerSecret dataKey request.kmsKeyRef, ?_, ?_⟩
  · simp only [EnvelopeEncryptionManifest.normalized, draftManifest, strip_b64encode,
      b64decode_b64encode]
  · rw [← List.length_pos_iff_ne_nil, length_wrappedKey, hdataKey]
    decide

/-- Unwrapping keeps the length of a key. -/
theorem length_unwrapDataKey {secret wrapped dataKey : Bytes} {kmsKeyRef : String}
    (h : unwrapDataKey H secret wrapped kmsKeyRef = .ok dataKey) :
    dataKey.length = wrapped.length := by
  obtain ⟨hlength, rfl⟩ := xorBytes_eq_ok.mp h
  exact StreamCipher.length_xor hlength

/-- **A rewrap** leaves nothing unsettled but the audit reference of its request. -/
theorem settled_of_rewrap {service : LocalEnvelopeEncryptionService} {kms : LocalKmsAdapter}
    {raw request : EnvelopeRewrapRequest} {result : EnvelopeRewrapResult}
    (hsettled : Settled H request.manifest) (hvalid : raw.validate = .ok request)
    (h : service.rewrap H kms request = .ok result) :
    Settled H result.manifest ∧ result.manifest.auditChainRef = request.auditChainRef := by
  obtain ⟨hnormal, -, -, -, -, hrequestedNe, -, htimeUtc, hreasonNe⟩ :=
    rewrapRequest_of_validate hvalid
  obtain ⟨_, _, -, -, -, hnamespaced, haudit, hcurrent, -⟩ := rewrap_references hvalid h
  obtain ⟨dataKey, rotation, -, hkey, hcommand, hrotation, hnew, rfl⟩ := rewrap_eq_ok h
  obtain ⟨payload, hevidence⟩ := LocalKmsAdapter.rotateKeyReference_evidence hrotation
  obtain ⟨_, _, -, -, -, -, hprevious⟩ := LocalKmsAdapter.rotateKeyReference_eq_ok hrotation
  rw [rotationCommand_normalized hnormal] at hcommand hprevious
  obtain ⟨-, hcurrentRef, -⟩ := KmsRotateKeyCommand.errors_eq_nil.mp hcommand
  simp only [EnvelopeRewrapRequest.normalized, EnvelopeRewrapRequest.ext_iff] at hnormal
  obtain ⟨-, -, -, -, -, -, -, hcurrentStrip, hnewStrip, hrequested, -, -, htime, hreason⟩ := hnormal
  have hprevious : rotation.previousKmsKeyRef = request.currentKmsKeyRef :=
    hprevious.trans hcurrentStrip
  have hcurrentNe : request.currentKmsKeyRef ≠ "" := ne_empty_of_isNamespacedRef hcurrentRef
  have hhash : ∀ payload, hashJson H payload ≠ "" := by
    intro payload
    have hstripped := strip_hashJson_ne_empty (H := H) payload
    rwa [hashJson, strip_computeContentHash] at hstripped
  -- the key that is wrapped has the length of the key that was unwrapped
  have hwrapped : wrappedKey H service.providerSecret dataKey rotation.newKmsKeyRef ≠ [] := by
    obtain ⟨wrapped, _, hdecoded, hunwrapped, -⟩ := unwrapAuthenticatedDataKey_eq_ok.mp hkey
    obtain ⟨wrapped', hdecoded', hnonempty⟩ := hsettled.key
    rw [hdecoded, Except.ok.injEq] at hdecoded'
    subst hdecoded'
    rw [← List.length_pos_iff_ne_nil, length_wrappedKey, length_unwrapDataKey hunwrapped]
    exact List.length_pos_of_ne_nil hnonempty
  have hnormal' : (rewrappedManifest H request rotation
      (wrappedKey H service.providerSecret dataKey rotation.newKmsKeyRef)).normalized = {
        rewrappedManifest H request rotation
          (wrappedKey H service.providerSecret dataKey rotation.newKmsKeyRef) with
        auditChainRef := Text.strip request.auditChainRef } := by
    have hkept := hsettled.normal
    simp only [EnvelopeEncryptionManifest.normalized, EnvelopeEncryptionManifest.mk.injEq] at hkept
    obtain ⟨-, htenant, hobject, hversion, -, -, -, hwrap, hnonce, -, -, -, -, -, -, -, hencrypted,
      -⟩ := hkept
    simp only [rewrappedManifest, EnvelopeEncryptionManifest.normalized, htenant, hobject, hversion,
      hwrap, hnonce, hencrypted, hnew, hnewStrip, strip_b64encode, hsettled.hash, hprevious,
      hcurrentStrip, hevidence, htime, hreason, hrequested, Option.map_some,
      buildEnvelopeEncryptionManifestHash, hashJson, strip_computeContentHash]
  refine ⟨⟨hnormal', ?_, rfl, _, b64decode_b64encode _, hwrapped⟩, rfl⟩
  rw [hnormal']
  have hkept := hsettled.errors
  rw [hsettled.normal] at hkept
  simp only [EnvelopeEncryptionManifest.errors, List.append_eq_nil_iff, requireNonEmpty_eq_nil,
    requirePositive_eq_nil, requireUtcTimestamp_eq_nil, requireOptional_some, rewrappedManifest,
    and_assoc] at hkept ⊢
  obtain ⟨htenant, hobject, hversion, -, hwrap, hnonce, hlength, -, hencrypted, -⟩ := hkept
  refine ⟨htenant, hobject, hversion, ?_, hwrap, hnonce, hlength, b64encode_ne_empty hwrapped,
    hencrypted, ?_, ?_, ?_, htimeUtc, hreasonNe, hrequestedNe, ne_empty_of_isNamespacedRef haudit⟩
  · rw [hnew]
    exact ne_empty_of_isNamespacedRef hnamespaced
  · rw [hsettled.hash]
    exact hhash _
  · rw [hprevious]
    exact hcurrentNe
  · rw [hevidence]
    exact hhash _

/-- **Chains**: every issued manifest is settled, and has the audit reference of the last
rewrap, or one without surrounding whitespace. -/
theorem Issued.settled {manifest : EnvelopeEncryptionManifest}
    {last : Option EnvelopeRewrapRequest} (h : Issued H manifest last) :
    Settled H manifest ∧ match last with
      | none => Text.strip manifest.auditChainRef = manifest.auditChainRef
      | some request => manifest.auditChainRef = request.auditChainRef := by
  induction h with
  | encrypted _ hencrypted => exact settled_of_encrypt hencrypted
  | rewrapped _ hvalid hrewrapped ih => exact settled_of_rewrap ih.1 hvalid hrewrapped

/-- **Storage.** A manifest of an encryption or of a chain of rewraps survives storage exactly
if the audit reference of the last rewrap, if there was one, has no surrounding whitespace. -/
theorem manifest_survives_iff {manifest : EnvelopeEncryptionManifest}
    {last : Option EnvelopeRewrapRequest} (h : Issued H manifest last) :
    SurvivesStorage H manifest ↔
      ∀ request ∈ last, Text.strip request.auditChainRef = request.auditChainRef := by
  obtain ⟨hsettled, hlast⟩ := h.settled
  rw [hsettled.survives_iff]
  cases last with
  | none =>
    have hstrip : Text.strip manifest.auditChainRef = manifest.auditChainRef := hlast
    simp [hstrip]
  | some request =>
    have hsame : manifest.auditChainRef = request.auditChainRef := hlast
    simp [hsame]

/-- The stored hash of a manifest that does not survive no longer verifies. -/
theorem Settled.not_verified (hinjective : Function.Injective H.sha256)
    {manifest reloaded : EnvelopeEncryptionManifest} (h : Settled H manifest)
    (hpadded : Text.strip manifest.auditChainRef ≠ manifest.auditChainRef)
    (hreloaded : EnvelopeEncryptionManifest.modelValidateJson manifest.modelDumpJson =
      .ok reloaded) :
    reloaded.manifestHash ≠ buildEnvelopeEncryptionManifestHash H reloaded := by
  rw [h.reload, Except.ok.injEq] at hreloaded
  subst hreloaded
  intro hhash
  have hsame := (hashJson_eq_iff hinjective).mp (h.hash.symm.trans hhash)
  have haudit : Json.Same (.str manifest.auditChainRef)
      (.str (Text.strip manifest.auditChainRef)) :=
    Json.same_of_mem hsame (EnvelopeEncryptionManifest.payloadFields_nodup _)
      (EnvelopeEncryptionManifest.mem_payloadFields manifest)
      (EnvelopeEncryptionManifest.mem_payloadFields _)
  exact hpadded (Json.same_str.mp haudit).symm

/-! ## A padded audit reference -/

/-- The sample rewrap, with a blank before its audit reference. -/
def paddedRewrap (manifest : EnvelopeEncryptionManifest) (ciphertext : Bytes) :
    EnvelopeRewrapRequest :=
  { sampleRewrap manifest ciphertext with auditChainRef := " audit:1" }

theorem SampleEncrypted.padded_rewraps {payload : EnvelopeEncryptedPayload}
    (h : SampleEncrypted payload) :
    (paddedRewrap payload.manifest payload.ciphertext).validate =
        .ok (paddedRewrap payload.manifest payload.ciphertext) ∧
      ∃ result, rewrap default ⟨[]⟩ sampleKms (paddedRewrap payload.manifest payload.ciphertext) =
        .ok result := by
  obtain ⟨hvalid, -⟩ := h.rewraps sampleKms_accepts
  obtain ⟨herrors, hnormal⟩ := accept_eq_ok.mp hvalid
  have hvalid : (paddedRewrap payload.manifest payload.ciphertext).validate =
      .ok (paddedRewrap payload.manifest payload.ciphertext) := by
    refine accept_eq_ok.mpr ⟨herrors, ?_⟩
    simp only [EnvelopeRewrapRequest.ext_iff] at hnormal ⊢
    obtain ⟨h1, h2, h3, h4, h5, h6, h7, h8, h9, h10, h11, -, h13, h14⟩ := hnormal
    exact ⟨h1, h2, h3, h4, h5, h6, h7, h8, h9, h10, h11, rfl, h13, h14⟩
  have hmatch : requireRewrapRequestMatchesManifest
      (paddedRewrap payload.manifest payload.ciphertext) = .ok () :=
    requireRewrapRequestMatchesManifest_eq_ok.mpr ⟨h.opens.length, h.keyRef.symm,
      h.dataClass.symm, h.object.symm, h.version.symm, h.tenant.symm⟩
  obtain ⟨hnext, hcanonical, hcurrentRef, hnewRef, -⟩ := sampleRewrap_references
  have haudit : isNamespacedRef (Text.strip " audit:1") = true := by decide +kernel
  obtain ⟨result, hresult⟩ := rewrap_isOk hvalid hmatch h.opens sampleKms_accepts hnext hcanonical
    hcurrentRef hnewRef haudit
  exact ⟨hvalid, result, hresult⟩

/-- A rewrap with a blank before its audit reference returns; its manifest reads back
changed, and the hash in it does not verify any more. -/
theorem padded_rewrap_lost :
    ∃ (manifest reloaded : EnvelopeEncryptionManifest) (last : Option EnvelopeRewrapRequest),
      Issued default manifest last ∧
      EnvelopeEncryptionManifest.modelValidateJson manifest.modelDumpJson = .ok reloaded ∧
      reloaded ≠ manifest ∧
      reloaded.manifestHash ≠ buildEnvelopeEncryptionManifestHash default reloaded := by
  obtain ⟨payload, hpayload⟩ := sampleEncrypted
  obtain ⟨hvalid, result, hresult⟩ := hpayload.padded_rewraps
  have hissued := Issued.rewrapped (Issued.encrypted (sampleRequest_valid "") hpayload.encrypted)
    hvalid hresult
  obtain ⟨hsettled, haudit⟩ := hissued.settled
  have hpadded : Text.strip result.manifest.auditChainRef ≠ result.manifest.auditChainRef := by
    rw [haudit]
    show Text.strip " audit:1" ≠ " audit:1"
    decide +kernel
  refine ⟨result.manifest, _, _, hissued, hsettled.reload, fun hsame => ?_,
    hsettled.not_verified Function.injective_id hpadded hsettled.reload⟩
  exact hpadded (congrArg EnvelopeEncryptionManifest.auditChainRef hsame)

/-- The sample manifest survives. -/
theorem sample_manifest_survives :
    ∃ manifest : EnvelopeEncryptionManifest, Issued default manifest none ∧
      (SurvivesStorage default manifest ↔ ∀ request ∈ (none : Option EnvelopeRewrapRequest),
        Text.strip request.auditChainRef = request.auditChainRef) := by
  obtain ⟨payload, hpayload⟩ := sampleEncrypted
  have hissued := Issued.encrypted (sampleRequest_valid "") hpayload.encrypted
  exact ⟨payload.manifest, hissued, manifest_survives_iff hissued⟩

end LocalEnvelopeEncryptionService

end Collabio
