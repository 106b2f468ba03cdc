import Mathlib.Tactic
import Collabio.Kms.Cryptoshred
import Collabio.Kms.RewrapChain
import Collabio.Storage.LegalHoldRuns

/-!
# Cryptoshred over whole runs

One repository, one KMS adapter, and every envelope ever made with it. Records
are written, held and released; envelopes are made and rewrapped; keys are
destroyed, by a shred or directly. A shred destroys one key reference, and an
envelope is lost with the reference its manifest names.

* `decryptable_destroy`   — which envelopes a destroyed reference takes with it;
* `shreds_isolated_iff`   — shreds leave the envelopes of protected objects alone
  exactly when none of them is under the shredded record's reference;
* `shreds_complete_iff`   — shreds make every envelope of the shredded version
  unreadable for good exactly when all that can be read are under its reference.
-/

namespace Collabio

variable {H : HashFunctions}

/-! ## Envelopes -/

/-- A manifest and the ciphertext it belongs to. -/
structure Envelope where
  manifest   : EnvelopeEncryptionManifest
  ciphertext : Bytes

/-- Some decryption request for the envelope is answered with a plaintext. -/
def Envelope.Decryptable (H : HashFunctions) (service : LocalEnvelopeEncryptionService)
    (kms : LocalKmsAdapter) (envelope : Envelope) : Prop :=
  ∃ (raw : EnvelopeDecryptionRequest) (result : EnvelopeDecryptionResult),
    raw.manifest = envelope.manifest ∧ raw.ciphertext = envelope.ciphertext ∧
      (raw.validate >>= service.decrypt H kms) = .ok result

/-- The envelope is one of this version of its object. -/
def Envelope.IsOf (envelope : Envelope) (metadata : SourceObjectMetadata) : Prop :=
  envelope.manifest.tenantId = metadata.tenantId ∧
    envelope.manifest.objectId = metadata.objectId ∧
    envelope.manifest.sourceVersionId = metadata.versionId

theorem LocalEnvelopeEncryptionService.kmsKeyRef_of_decrypt
    {service : LocalEnvelopeEncryptionService} {kms : LocalKmsAdapter}
    {request : EnvelopeDecryptionRequest} {result : EnvelopeDecryptionResult}
    (h : service.decrypt H kms request = .ok result) :
    request.kmsKeyRef = request.manifest.kmsKeyRef := by
  obtain ⟨_, _, _, hmatch, -⟩ := decrypt_eq_ok.mp h
  obtain ⟨-, -, href, -⟩ := requireRequestMatchesManifest_eq_ok.mp hmatch
  exact href

/-- **Destroying a reference** makes exactly the envelopes under it unreadable. -/
theorem Envelope.decryptable_destroy {service : LocalEnvelopeEncryptionService}
    {kms : LocalKmsAdapter} {envelope : Envelope} {ref : String} :
    envelope.Decryptable H service (kms.destroy ref) ↔
      envelope.Decryptable H service kms ∧ Text.strip envelope.manifest.kmsKeyRef ≠ ref := by
  constructor
  · rintro ⟨raw, result, hmanifest, hciphertext, h⟩
    obtain ⟨request, hvalid, h⟩ := Except.bind_eq_ok.mp h
    -- a decryption after the destruction is one before it, under another reference
    obtain ⟨hdecrypt, hne⟩ := LocalEnvelopeEncryptionService.decrypt_destroy.mp h
    refine ⟨⟨raw, result, hmanifest, hciphertext, Except.bind_eq_ok.mpr ⟨_, hvalid, hdecrypt⟩⟩, ?_⟩
    obtain ⟨-, rfl⟩ := accept_eq_ok.mp hvalid
    -- the request names the reference of its manifest, which is the envelope's
    have href := LocalEnvelopeEncryptionService.kmsKeyRef_of_decrypt hdecrypt
    rw [← hmanifest, ← show _ = raw.manifest.kmsKeyRef from href]
    exact hne
  · rintro ⟨⟨raw, result, hmanifest, hciphertext, h⟩, hne⟩
    obtain ⟨request, hvalid, h⟩ := Except.bind_eq_ok.mp h
    refine ⟨raw, result, hmanifest, hciphertext, Except.bind_eq_ok.mpr ⟨_, hvalid, ?_⟩⟩
    refine LocalEnvelopeEncryptionService.decrypt_destroy.mpr ⟨h, ?_⟩
    obtain ⟨-, rfl⟩ := accept_eq_ok.mp hvalid
    rw [LocalEnvelopeEncryptionService.kmsKeyRef_of_decrypt h]
    change Text.strip raw.manifest.kmsKeyRef ≠ ref
    rw [hmanifest]
    exact hne

/-! ## Shreds -/

/-- A retention manifest drawn up from a record's metadata matches the record. -/
theorem CryptoshredSimulationRequest.requireRetentionManifestMatchesRecord_draft
    {request : CryptoshredSimulationRequest} {policy : RetentionPolicyDefault}
    {retainFrom : Datetime.DateTime} {until? : Option Datetime.DateTime}
    (hmanifest : request.retentionManifest =
      draftRetentionManifest H request.record.metadata policy retainFrom until?)
    (hpolicy : policy.retentionPolicyId = request.record.metadata.retentionPolicyId) :
    request.requireRetentionManifestMatchesRecord = .ok () := by
  refine require_eq_ok.mpr ?_
  rw [hmanifest]
  simp [draftRetentionManifest, hpolicy]


theorem CryptoshredSimulationRequest.errors_eq_nil {request : CryptoshredSimulationRequest} :
    request.errors = [] ↔
      request.tenantId ≠ "" ∧ request.objectId ≠ "" ∧ request.sourceVersionId ≠ "" ∧
      request.requestedBy ≠ "" ∧ request.approvedBy ≠ "" ∧
      isNamespacedRef request.approvalRef = true ∧ isNamespacedRef request.auditChainRef = true ∧
      isUtcTimestamp request.occurredAtUtc = true ∧ request.reason ≠ "" := by
  unfold errors
  simp only [List.append_eq_nil_iff, requireNonEmpty_eq_nil, requireNamespacedRef_eq_nil,
    requireUtcTimestamp_eq_nil, and_assoc]

theorem CryptoshredSimulationManifest.errors_eq_nil {manifest : CryptoshredSimulationManifest} :
    manifest.errors = [] ↔
      manifest.tenantId ≠ "" ∧ manifest.objectId ≠ "" ∧ manifest.sourceVersionId ≠ "" ∧
      manifest.retentionPolicyId ≠ "" ∧ isNamespacedRef manifest.kmsKeyRef = true ∧
      isNamespacedRef manifest.sourceManifestHash = true ∧
      isNamespacedRef manifest.retentionManifestHash = true ∧
      isNamespacedRef manifest.retentionPolicySnapshotHash = true ∧
      isNamespacedRef manifest.keyDestructionEvidenceHash = true ∧
      KmsAdapterPolicy.requireLength "required_checks" 1 manifest.requiredChecks = [] ∧
      manifest.requestedBy ≠ "" ∧ manifest.approvedBy ≠ "" ∧
      isNamespacedRef manifest.approvalRef = true ∧
      isNamespacedRef manifest.auditChainRef = true ∧
      isUtcTimestamp manifest.occurredAtUtc = true ∧ manifest.reason ≠ "" ∧
      isNamespacedRef manifest.manifestHash = true := by
  unfold errors
  simp only [List.append_eq_nil_iff, requireNonEmpty_eq_nil, requireNamespacedRef_eq_nil,
    requireUtcTimestamp_eq_nil, and_assoc]

namespace LocalCryptoshredSimulator

/-- A shred that returns has destroyed its record's key reference. -/
theorem simulate_eq_ok {request : CryptoshredSimulationRequest} {kms kms' : LocalKmsAdapter}
    {result : CryptoshredSimulationResult} (h : simulate H request kms = (.ok result, kms')) :
    kms' = kms.destroy (Text.strip request.record.metadata.kmsKeyRef) := by
  unfold simulate at h
  obtain ⟨command, _, hcommand, h⟩ := Eff.bind_eq_ok.mp h
  simp only [Eff.lift_apply, Prod.mk.injEq] at hcommand
  obtain ⟨hcommand, rfl⟩ := hcommand
  obtain ⟨destruction, destroyed, hdestroy, h⟩ := Eff.bind_eq_ok.mp h
  obtain ⟨_, _, -, -, -, hkms, -⟩ := LocalKmsAdapter.recordKeyDestruction_spec hdestroy
  obtain ⟨draft, _, hdraft, h⟩ := Eff.bind_eq_ok.mp h
  simp only [Eff.lift_apply, Prod.mk.injEq] at hdraft
  obtain ⟨-, rfl⟩ := hdraft
  cases h
  obtain ⟨_, -, hcommand⟩ := Except.bind_eq_ok.mp hcommand
  obtain ⟨_, -, hcommand⟩ := Except.bind_eq_ok.mp hcommand
  obtain ⟨_, -, hcommand⟩ := Except.bind_eq_ok.mp hcommand
  obtain ⟨-, rfl⟩ := KmsDestroyKeyCommand.validate_eq_ok.mp hcommand
  rw [hkms]
  simp only [KmsDestroyKeyCommand.normalized, destroyCommand, Text.strip_strip]

/-- The manifest of an accepted request for an accepted record passes its model,
when the hashes it quotes are references. -/
theorem draftManifest_isOk {request : CryptoshredSimulationRequest}
    {destruction : KmsKeyDestructionResult} (hrequest : request.validate = .ok request)
    (hmetadata : request.record.metadata.validate = .ok request.record.metadata)
    (hretention : isNamespacedRef (buildRetentionManifestHash H request.retentionManifest) = true)
    (hsnapshot : isNamespacedRef
      (Text.strip request.retentionManifest.policySnapshotHash) = true)
    (hevidence : isNamespacedRef (Text.strip destruction.evidence.evidenceHash) = true) :
    ∃ manifest, (draftManifest H request destruction).validate = .ok manifest := by
  obtain ⟨herrors, hnormal⟩ := accept_eq_ok.mp hrequest
  obtain ⟨-, -, -, hrequested, happroved, happroval, haudit, htime, hreason⟩ :=
    CryptoshredSimulationRequest.errors_eq_nil.mp herrors
  obtain ⟨hmetadataNormal, hfields, -⟩ := SourceObjectMetadata.validate_self.mp hmetadata
  obtain ⟨htenant, hobject, hversion, -, -, -, -, -, hpolicy, hkey, hsource, -⟩ :=
    SourceObjectMetadata.errors_eq_nil.mp hfields
  rw [← hmetadataNormal] at htenant hobject hversion hpolicy hkey hsource
  -- each text of the draft is one of the record, of the request or of the evidence
  have hmanifestErrors : (draftManifest H request destruction).normalized.errors = [] :=
    CryptoshredSimulationManifest.errors_eq_nil.mpr ⟨htenant, hobject, hversion, hpolicy, hkey,
      hsource, by
        simp only [CryptoshredSimulationManifest.normalized, draftManifest,
          buildRetentionManifestHash, hashJson, strip_computeContentHash] at hretention ⊢
        exact hretention,
      hsnapshot, hevidence, rfl, hrequested, happroved, happroval, haudit, htime, hreason, by
        simp only [CryptoshredSimulationManifest.normalized, draftManifest]
        rw [SourceObjectMetadata.strip_zeroHash.1, SourceObjectMetadata.strip_zeroHash.2]⟩
  exact ⟨_, Except.bind_eq_ok.mpr ⟨_, accept_eq_ok.mpr ⟨hmanifestErrors, rfl⟩, rfl⟩⟩

/-- A shred returns when its checks pass, the adapter accepts the reference and its
policy allows destruction, and the model accepts the manifest. -/
theorem simulate_isOk {request : CryptoshredSimulationRequest} {command : KmsDestroyKeyCommand}
    {kms : LocalKmsAdapter} {ref : KmsKeyReference} {p : KmsDataClassKeyPolicy}
    (hcommand : requireShreddable request = .ok command)
    (href : kms.validateKeyRef command.tenantId command.dataClass command.kmsKeyRef = .ok ref)
    (hp : kms.policy.dataClassPolicy command.dataClass = .ok p)
    (hallowed : LocalKmsAdapter.requireKeyDestructionAllowed p command = .ok ())
    (hdraft : ∀ destruction draft,
      destruction.evidence.evidenceHash = buildKmsOperationEvidenceHash H draft →
      ∃ manifest, (draftManifest H request destruction).validate = .ok manifest) :
    ∃ result kms', simulate H request kms = (.ok result, kms') := by
  obtain ⟨_, -, hvalid⟩ := Except.bind_eq_ok.mp hcommand
  obtain ⟨_, -, hvalid⟩ := Except.bind_eq_ok.mp hvalid
  obtain ⟨_, -, hvalid⟩ := Except.bind_eq_ok.mp hvalid
  obtain ⟨herrors, hnormal⟩ := KmsDestroyKeyCommand.validate_eq_ok.mp hvalid
  obtain ⟨-, hkey, -, -, -, -, -, happroval, haudit, htime, -⟩ :=
    KmsDestroyKeyCommand.errors_eq_nil.mp herrors
  -- the command of an accepted request has the texts that the evidence needs
  obtain ⟨evidence, evidenceDraft, hdestroy, hevidence⟩ :=
    LocalKmsAdapter.recordKeyDestruction_isOk (H := H) href hp hallowed
      (by rw [← hnormal]; simpa [KmsDestroyKeyCommand.normalized] using hkey)
      (by rw [← hnormal]; simpa [KmsDestroyKeyCommand.normalized] using haudit)
      (by rw [← hnormal]; simpa [KmsDestroyKeyCommand.normalized] using happroval)
      (by rw [← hnormal]; simpa [KmsDestroyKeyCommand.normalized] using htime)
  obtain ⟨manifest, hmanifest⟩ := hdraft ⟨_, evidence⟩ evidenceDraft hevidence
  unfold simulate
  rw [Eff.lift_bind_apply, hcommand]
  dsimp only
  rw [Eff.bind_of_ok hdestroy, Eff.lift_bind_apply, hmanifest]
  exact ⟨_, _, rfl⟩

/-- What a shred leaves behind, also when it raises. -/
theorem simulate_state (request : CryptoshredSimulationRequest) (kms : LocalKmsAdapter) :
    (simulate H request kms).2 = kms ∨ ∃ ref, (simulate H request kms).2 = kms.destroy ref := by
  unfold simulate
  rw [Eff.lift_bind_apply]
  split
  · rename_i command hcommand
    rcases hdestroy : LocalKmsAdapter.recordKeyDestruction H command kms with
      ⟨exn | destruction, kms'⟩
    all_goals
      have hstate : kms' = kms ∨ ∃ ref, kms' = kms.destroy ref := by
        have hspec := LocalKmsAdapter.recordKeyDestruction_state (H := H) kms command
        rw [hdestroy] at hspec
        exact hspec.imp_right fun h => ⟨Text.strip command.kmsKeyRef, h⟩
    · rw [Eff.bind_of_error hdestroy]
      exact hstate
    · rw [Eff.bind_of_ok hdestroy, Eff.lift_bind_apply]
      split <;> exact hstate
  · exact .inl rfl

end LocalCryptoshredSimulator

/-! ## The system -/

inductive CustodyEvent where
  | write (raw : SourceObjectRecord)
  | hold (command : LegalHoldCommand)
  | encrypt (raw : EnvelopeEncryptionRequest) (dataKey nonce : Bytes)
  | rewrap (raw : EnvelopeRewrapRequest)
  | destroyKey (raw : KmsDestroyKeyCommand)
  | shred (raw : CryptoshredSimulationRequest)

/-- The repository with its holds, the KMS adapter, and the envelopes made so far. -/
structure Custody where
  holds     : HoldHistory
  kms       : LocalKmsAdapter
  envelopes : List Envelope

/-- The services of one deployment, less the state they share. -/
structure CustodyServices where
  legalHold : LegalHoldService
  envelope  : LocalEnvelopeEncryptionService

namespace CustodyServices

/-- One call: a request its model rejects changes nothing, and a call that
raises leaves what it had changed. -/
def step (H : HashFunctions) (services : CustodyServices) (s : Custody) : CustodyEvent → Custody
  | .write raw =>
    { s with holds := { s.holds with repository := s.holds.repository.write H raw } }
  | .hold command => { s with holds := services.legalHold.step H s.holds command }
  | .encrypt raw dataKey nonce =>
    match raw.validate >>= services.envelope.encrypt H s.kms dataKey nonce with
    | .ok payload => { s with envelopes := ⟨payload.manifest, payload.ciphertext⟩ :: s.envelopes }
    | .error _ => s
  | .rewrap raw =>
    match raw.validate with
    | .error _ => s
    | .ok request =>
      match services.envelope.rewrap H s.kms request with
      | .ok result => { s with envelopes := ⟨result.manifest, request.ciphertext⟩ :: s.envelopes }
      | .error _ => s
  | .destroyKey raw =>
    match raw.validate with
    | .error _ => s
    | .ok command => { s with kms := (LocalKmsAdapter.recordKeyDestruction H command s.kms).2 }
  | .shred raw =>
    match raw.validate with
    | .error _ => s
    | .ok request => { s with kms := (LocalCryptoshredSimulator.simulate H request s.kms).2 }

attribute [local simp] step

/-- An empty repository and a KMS adapter, before any call. -/
def start (kms : LocalKmsAdapter) : Custody := ⟨⟨∅, ∅⟩, kms, []⟩

variable {services : CustodyServices}

/-- A call leaves the adapter as it is, or destroys one more reference. -/
theorem kms_step (services : CustodyServices) (s : Custody) (event : CustodyEvent) :
    (services.step H s event).kms = s.kms ∨
      ∃ ref, (services.step H s event).kms = s.kms.destroy ref := by
  -- only a destruction and a shredding reach the adapter
  cases event with
  | write raw =>
    left
    simp only [step]
  | hold command =>
    left
    simp only [step]
  | encrypt raw dataKey nonce =>
    left
    simp only [step]
    split <;> rfl
  | rewrap raw =>
    left
    simp only [step]
    split
    · rfl
    · split <;> rfl
  | destroyKey raw =>
    simp only [step]
    split
    · exact .inl rfl
    · rename_i command hvalid
      rcases LocalKmsAdapter.recordKeyDestruction_state (H := H) s.kms command with hkms | hkms
      · exact .inl hkms
      · exact .inr ⟨Text.strip command.kmsKeyRef, hkms⟩
  | shred raw =>
    simp only [step]
    split
    · exact .inl rfl
    · rename_i request hvalid
      exact LocalCryptoshredSimulator.simulate_state (H := H) request s.kms

/-- The envelope cannot be read. -/
def Lost (H : HashFunctions) (services : CustodyServices) (envelope : Envelope) (s : Custody) :
    Prop :=
  ¬ envelope.Decryptable H services.envelope s.kms

theorem lost_step {envelope : Envelope} (s : Custody) (event : CustodyEvent)
    (h : services.Lost H envelope s) : services.Lost H envelope (services.step H s event) := by
  unfold Lost at h ⊢
  rcases services.kms_step s event with hkms | ⟨ref, hkms⟩
  · rw [hkms]
    exact h
  · rw [hkms, Envelope.decryptable_destroy]
    exact fun hread => h hread.1

/-- What cannot be read stays unreadable. -/
theorem lost_run {s : Custody} {envelope : Envelope} (h : services.Lost H envelope s)
    (later : List CustodyEvent) :
    services.Lost H envelope (Runs.run (services.step H) s later) := by
  have halways : Runs.Always (services.step H) (services.Lost H envelope) s later :=
    Runs.always_of_invariant lost_step h later
  exact Runs.always_last halways

/-! ### Calls that return -/

theorem step_write (services : CustodyServices) (s : Custody) (raw : SourceObjectRecord) :
    services.step H s (.write raw) =
      { s with holds := { s.holds with repository := s.holds.repository.write H raw } } := by
  rw [step]

theorem step_encrypt (services : CustodyServices) (s : Custody)
    {raw request : EnvelopeEncryptionRequest} {dataKey nonce : Bytes}
    {payload : EnvelopeEncryptedPayload} (hvalid : raw.validate = .ok request)
    (h : services.envelope.encrypt H s.kms dataKey nonce request = .ok payload) :
    services.step H s (.encrypt raw dataKey nonce) =
      { s with envelopes := ⟨payload.manifest, payload.ciphertext⟩ :: s.envelopes } := by
  have hencrypt := Except.bind_eq_ok.mpr ⟨request, hvalid, h⟩
  simp only [step, hencrypt]

theorem step_rewrap (services : CustodyServices) (s : Custody)
    {raw request : EnvelopeRewrapRequest} {result : EnvelopeRewrapResult}
    (hvalid : raw.validate = .ok request)
    (h : services.envelope.rewrap H s.kms request = .ok result) :
    services.step H s (.rewrap raw) =
      { s with envelopes := ⟨result.manifest, request.ciphertext⟩ :: s.envelopes } := by
  simp only [step, hvalid, h]

/-! ## Isolation -/

/-- The shred's request is accepted, and its simulation returns. -/
def Shreds (H : HashFunctions) (s : Custody) (raw request : CryptoshredSimulationRequest) : Prop :=
  raw.validate = .ok request ∧
    ∃ result kms, LocalCryptoshredSimulator.simulate H request s.kms = (.ok result, kms)

theorem kms_shred {s : Custody} {raw request : CryptoshredSimulationRequest}
    (h : Shreds H s raw request) : (services.step H s (.shred raw)).kms =
      s.kms.destroy (Text.strip request.record.metadata.kmsKeyRef) := by
  obtain ⟨hvalid, result, kms, hsimulate⟩ := h
  simp only [step, hvalid, hsimulate]
  exact LocalCryptoshredSimulator.simulate_eq_ok hsimulate

end CustodyServices

/-- The object's latest record must not be destroyed: it is on hold, or a record. -/
def InMemorySourceObjectRepository.Protects (repository : InMemorySourceObjectRepository)
    (object : ObjectKey) : Prop :=
  ∃ record, repository.latest object.1 object.2 = .ok record ∧
    (record.metadata.legalHoldState = .active ∨ record.metadata.lifecycleState.isRecord = true)

def Envelope.objectKey (envelope : Envelope) : ObjectKey :=
  (envelope.manifest.tenantId, envelope.manifest.objectId)

namespace CustodyServices

variable {services : CustodyServices}

/-- The shred takes no envelope of a protected object from readable to unreadable. -/
def Isolates (H : HashFunctions) (services : CustodyServices) (s : Custody) :
    CustodyEvent → Prop
  | .shred raw => ∀ request, Shreds H s raw request → ∀ envelope ∈ s.envelopes,
      s.holds.repository.Protects envelope.objectKey →
      envelope.Decryptable H services.envelope s.kms →
      envelope.Decryptable H services.envelope (services.step H s (.shred raw)).kms
  | _ => True

/-- No readable envelope of a protected object is under the reference the shredded
record names. -/
def KeyUnshared (H : HashFunctions) (services : CustodyServices) (s : Custody) :
    CustodyEvent → Prop
  | .shred raw => ∀ request, Shreds H s raw request → ∀ envelope ∈ s.envelopes,
      s.holds.repository.Protects envelope.objectKey →
      envelope.Decryptable H services.envelope s.kms →
      Text.strip envelope.manifest.kmsKeyRef ≠ Text.strip request.record.metadata.kmsKeyRef
  | _ => True

theorem isolates_iff (s : Custody) (event : CustodyEvent) :
    services.Isolates H s event ↔ services.KeyUnshared H s event := by
  cases event with
  | shred raw =>
    refine forall_congr' fun request => imp_congr_right fun hshreds =>
      forall_congr' fun envelope => imp_congr_right fun hmem =>
      imp_congr_right fun hprotects => imp_congr_right fun hread => ?_
    rw [kms_shred hshreds, Envelope.decryptable_destroy]
    exact and_iff_right hread
  | _ => exact Iff.rfl

/-- **Isolation.** In every run from an adapter and an empty repository, the
shreds isolate exactly when each of them finds its record's key reference
unused by the readable envelopes of protected objects. -/
theorem shreds_isolated_iff (services : CustodyServices) (kms : LocalKmsAdapter)
    (events : List CustodyEvent) :
    Runs.Guarded (services.step H) (services.Isolates H) (start kms) events ↔
      Runs.Guarded (services.step H) (services.KeyUnshared H) (start kms) events :=
  Runs.guarded_congr isolates_iff

/-! ## Completeness -/

/-- After the shred, no envelope of the shredded version is ever read again. -/
def Completes (H : HashFunctions) (services : CustodyServices) (s : Custody) :
    CustodyEvent → Prop
  | .shred raw => ∀ request, Shreds H s raw request → ∀ envelope ∈ s.envelopes,
      envelope.IsOf request.record.metadata → ∀ later,
      services.Lost H envelope
        (Runs.run (services.step H) (services.step H s (.shred raw)) later)
  | _ => True

/-- Every readable envelope of the shredded version is under the reference its
record names. -/
def UnderRecordKey (H : HashFunctions) (services : CustodyServices) (s : Custody) :
    CustodyEvent → Prop
  | .shred raw => ∀ request, Shreds H s raw request → ∀ envelope ∈ s.envelopes,
      envelope.IsOf request.record.metadata →
      envelope.Decryptable H services.envelope s.kms →
      Text.strip envelope.manifest.kmsKeyRef = Text.strip request.record.metadata.kmsKeyRef
  | _ => True

theorem completes_iff (s : Custody) (event : CustodyEvent) :
    services.Completes H s event ↔ services.UnderRecordKey H s event := by
  cases event with
  | shred raw =>
    refine forall_congr' fun request => imp_congr_right fun hshreds =>
      forall_congr' fun envelope => imp_congr_right fun hmem => imp_congr_right fun hof => ?_
    have hlost : services.Lost H envelope (services.step H s (.shred raw)) ↔
        (envelope.Decryptable H services.envelope s.kms →
          Text.strip envelope.manifest.kmsKeyRef =
            Text.strip request.record.metadata.kmsKeyRef) := by
      rw [Lost, kms_shred hshreds, Envelope.decryptable_destroy]
      tauto
    rw [← hlost]
    constructor
    · intro h
      have hnow := h []
      rwa [Runs.run_nil] at hnow
    · exact fun h later => lost_run h later
  | _ => exact Iff.rfl

/-- **Completeness.** In every run from an adapter and an empty repository, the
shreds are complete exactly when each of them finds every readable envelope of
its version under its record's key reference. -/
theorem shreds_complete_iff (services : CustodyServices) (kms : LocalKmsAdapter)
    (events : List CustodyEvent) :
    Runs.Guarded (services.step H) (services.Completes H) (start kms) events ↔
      Runs.Guarded (services.step H) (services.UnderRecordKey H) (start kms) events :=
  Runs.guarded_congr completes_iff

/-! ## A document that is held after it was encrypted -/

/-- The retention manifest of the sample record's first version. -/
def sampleRetentionManifest : RetentionManifest :=
  draftRetentionManifest default (sampleRecord "doc-1").metadata
    (LegalHoldService.samplePolicyDefault "office" .internal (some 365) false)
    ⟨⟨2026, 1, 5, by decide⟩, 9, 0, 0, 0, some 0⟩
    (some ⟨⟨2027, 1, 5, by decide⟩, 9, 0, 0, 0, some 0⟩)

/-- The shred of the first version, once its retention has ended. -/
def sampleShred : CryptoshredSimulationRequest where
  tenantId := "acme"
  objectId := "doc-1"
  sourceVersionId := "v1"
  record := sampleRecord "doc-1"
  retentionManifest := sampleRetentionManifest
  requestedBy := "alice"
  approvedBy := "bob"
  approvalRef := "approval:1"
  auditChainRef := "audit:1"
  occurredAtUtc := "2027-02-01T09:00:00Z"
  reason := "retention ended"

theorem sampleShred_texts :
    (∀ text ∈ ["acme", "doc-1", "v1", "alice", "bob", "approval:1", "audit:1",
      "2027-02-01T09:00:00Z", "retention ended", "office", "none", "working",
      "kms://acme/internal/v1"], Text.strip text = text ∧ text ≠ "") ∧
    isUtcTimestamp "2027-02-01T09:00:00Z" = true ∧ isNamespacedRef "approval:1" = true ∧
    isNamespacedRef "audit:1" = true ∧ isNamespacedRef "kms://acme/internal/v1" = true := by
  decide +kernel

theorem sampleShred_valid : sampleShred.validate = .ok sampleShred := by
  obtain ⟨htexts, htime, happroval, haudit, hkey⟩ := sampleShred_texts
  simp only [List.forall_mem_cons] at htexts
  obtain ⟨hacme, hdoc, hv1, halice, hbob, happrovalText, hauditText, htimeText, hreason, -⟩ :=
    htexts
  have hself : sampleShred.normalized = sampleShred := by
    simp only [CryptoshredSimulationRequest.normalized, sampleShred, hacme.1, hdoc.1, hv1.1,
      halice.1, hbob.1, happrovalText.1, hauditText.1, htimeText.1, hreason.1]
  refine accept_eq_ok.mpr ⟨?_, hself⟩
  rw [hself]
  unfold CryptoshredSimulationRequest.errors
  simp [sampleShred, htime, happroval, haudit]

/-- The end of the sample's retention lies before the shred. -/
theorem sampleShred_retentionEnded : sampleShred.requireRetentionEnded = .ok () := by
  have huntil : sampleRetentionManifest.retainUntilUtc = some "2027-01-05T09:00:00Z" := by
    change some (toUtcIso ⟨⟨2027, 1, 5, by decide⟩, 9, 0, 0, 0, some 0⟩) = _
    decide +kernel
  unfold CryptoshredSimulationRequest.requireRetentionEnded
  rw [show sampleShred.retentionManifest.retainUntilUtc = some "2027-01-05T09:00:00Z" from huntil]
  decide +kernel

theorem sampleShred_allowed : sampleShred.requireCryptoshredAllowed = .ok () := by
  have hhold : sampleShred.record.metadata.legalHoldState = .none := rfl
  have hmanifestHold : sampleShred.retentionManifest.legalHoldState = .none := rfl
  have hclass : sampleShred.record.metadata.classification = .internal := rfl
  have hstate : sampleShred.record.metadata.lifecycleState = .working := rfl
  have hblocked : sampleShred.retentionManifest.deletionBlocked = false := rfl
  have hworm : sampleShred.retentionManifest.wormRequired = false := rfl
  have hearly : sampleShred.retentionManifest.cryptoshredAllowedBeforeRetentionEnd = false := rfl
  unfold CryptoshredSimulationRequest.requireCryptoshredAllowed
  simp only [hhold, hmanifestHold, hclass, hstate, hblocked, hworm, hearly,
    sampleShred_retentionEnded]
  rfl

theorem sampleShred_shreddable : LocalCryptoshredSimulator.requireShreddable sampleShred =
    .ok (LocalCryptoshredSimulator.destroyCommand sampleShred) := by
  obtain ⟨htexts, htime, happroval, haudit, hkey⟩ := sampleShred_texts
  simp only [List.forall_mem_cons] at htexts
  obtain ⟨hacme, hdoc, hv1, halice, hbob, happrovalText, hauditText, htimeText, hreason, hoffice,
    hnone, hworking, hkeyText, -⟩ := htexts
  have hrecord : sampleShred.requireMatchesRecord = .ok () :=
    require_eq_ok.mpr (by
      simp [sampleShred, sampleRecord, SourceObjectMetadata.withManifestHash, sampleMetadata])
  have hmanifest : sampleShred.requireRetentionManifestMatchesRecord = .ok () :=
    CryptoshredSimulationRequest.requireRetentionManifestMatchesRecord_draft rfl rfl
  have hcommand : (LocalCryptoshredSimulator.destroyCommand sampleShred).validate =
      .ok (LocalCryptoshredSimulator.destroyCommand sampleShred) := by
    have hself : (LocalCryptoshredSimulator.destroyCommand sampleShred).normalized =
        LocalCryptoshredSimulator.destroyCommand sampleShred :=
      KmsDestroyKeyCommand.ext hacme.1 rfl hkeyText.1 hoffice.1 hnone.1 hworking.1 halice.1 hbob.1
        happrovalText.1 hauditText.1 htimeText.1 hreason.1
    refine KmsDestroyKeyCommand.validate_eq_ok.mpr ⟨?_, hself⟩
    rw [hself]
    exact KmsDestroyKeyCommand.errors_eq_nil.mpr ⟨hacme.2, hkey, hoffice.2, hnone.2, hworking.2,
      halice.2, hbob.2, happroval, haudit, htime, hreason.2⟩
  unfold LocalCryptoshredSimulator.requireShreddable
  rw [hrecord, hmanifest, sampleShred_allowed]
  exact hcommand

theorem sampleShred_manifest {destruction : KmsKeyDestructionResult}
    {evidence : KmsOperationEvidence}
    (hevidence : destruction.evidence.evidenceHash =
      buildKmsOperationEvidenceHash default evidence) :
    ∃ manifest, (LocalCryptoshredSimulator.draftManifest default sampleShred
      destruction).validate = .ok manifest := by
  have hsnapshot : sampleShred.retentionManifest.policySnapshotHash = buildPolicySnapshotHash
      default (LegalHoldService.samplePolicyDefault "office" .internal (some 365) false) := rfl
  refine LocalCryptoshredSimulator.draftManifest_isOk sampleShred_valid
    (@sampleRecord_metadata "doc-1" (by simp)) ?_ ?_ ?_
  · rw [buildRetentionManifestHash, RetentionManifest.payload, isNamespacedRef_hashJson]
  · rw [hsnapshot, buildPolicySnapshotHash, RetentionPolicyDefault.payload, hashJson,
      strip_computeContentHash, ← hashJson, isNamespacedRef_hashJson]
  · rw [hevidence, buildKmsOperationEvidenceHash, KmsOperationEvidence.payload, hashJson,
      strip_computeContentHash, ← hashJson, isNamespacedRef_hashJson]

/-- The sample's version is shredded in every state whose adapter accepts its reference. -/
theorem sampleShred_shreds {s : Custody} (hpolicy : s.kms.policy = samplePolicy)
    (hkms : s.kms.validateKeyRef "acme" .internal "kms://acme/internal/v1" = .ok sampleKeyRef) :
    Shreds default s sampleShred sampleShred := by
  have hfound : samplePolicy.dataClassPolicy .internal =
      .ok { dataClass := .internal, rotationPeriodDays := 365, cryptoshredAllowed := true } := by
    decide
  exact ⟨sampleShred_valid, LocalCryptoshredSimulator.simulate_isOk sampleShred_shreddable hkms
    (by rw [hpolicy]; exact hfound) (by decide) fun _ _ hevidence => sampleShred_manifest hevidence⟩

def sampleServices : CustodyServices := ⟨LegalHoldService.sampleService, ⟨[]⟩⟩

/-- The sample document is written and encrypted. -/
def sampleMade : List CustodyEvent :=
  [.write (sampleRecord "doc-1"),
    .encrypt (LocalEnvelopeEncryptionService.sampleRequest "")
      LocalEnvelopeEncryptionService.sampleDataKey LocalEnvelopeEncryptionService.sampleNonce]

theorem run_sampleMade {payload : EnvelopeEncryptedPayload}
    (h : LocalEnvelopeEncryptionService.SampleEncrypted payload) :
    Runs.run (sampleServices.step default) (start sampleKms) sampleMade =
      ⟨LegalHoldService.sampleStart, sampleKms, [⟨payload.manifest, payload.ciphertext⟩]⟩ := by
  have hwrite : (∅ : InMemorySourceObjectRepository).write default (sampleRecord "doc-1") =
      LegalHoldService.sampleStart.repository := by
    rw [LegalHoldService.sampleStart_repository, InMemorySourceObjectRepository.loaded,
      Runs.run_cons, Runs.run_nil]
  have hstart : sampleServices.step default (start sampleKms) (.write (sampleRecord "doc-1")) =
      ⟨LegalHoldService.sampleStart, sampleKms, []⟩ := by
    rw [step_write, start, hwrite, LegalHoldService.sampleStart]
  have hmade := step_encrypt sampleServices ⟨LegalHoldService.sampleStart, sampleKms, []⟩
    (LocalEnvelopeEncryptionService.sampleRequest_valid "") h.encrypted
  rw [sampleMade, Runs.run_cons, Runs.run_cons, Runs.run_nil, hstart, hmade]

theorem decryptable_of_decryptWith {service : LocalEnvelopeEncryptionService}
    {kms : LocalKmsAdapter} {manifest : EnvelopeEncryptionManifest} {ciphertext : Bytes}
    {aad : Dict String String} {caller : Caller} {result : EnvelopeDecryptionResult}
    (h : service.decryptWith H kms manifest ciphertext aad caller = .ok result) :
    (Envelope.mk manifest ciphertext).Decryptable H service kms :=
  ⟨_, result, rfl, rfl, h⟩

/-- The hold on the sample document protects it. -/
theorem samplePlace_protects :
    (LegalHoldService.sampleService.step default LegalHoldService.sampleStart
      (.place (LegalHoldService.samplePlace "v2" "first"))).repository.Protects
      ("acme", "doc-1") := by
  have hall : LegalHoldService.sampleStart.repository.AllAccepted default := by
    rw [LegalHoldService.sampleStart_repository]
    exact InMemorySourceObjectRepository.loaded_accepted [sampleRecord "doc-1"]
  obtain ⟨fresh, hstep⟩ := LegalHoldService.step_samplePlace hall
    LegalHoldService.sampleCommands_valid.1
    (by rw [LegalHoldService.get?_sampleStart, if_pos rfl])
    (LegalHoldService.sampleStart_free (by decide))
  rw [hstep]
  refine ⟨LegalHoldService.sampleHeld "v2" "first", ?_, .inl rfl⟩
  exact InMemorySourceObjectRepository.latest_insert_self fresh

/-- A document is encrypted, then put under legal hold, and its unheld first
version is shredded: the envelope of the held document cannot be read any more. -/
theorem shred_of_held_object :
    ¬ Runs.Guarded (sampleServices.step default) (sampleServices.Isolates default)
      (start sampleKms) (sampleMade ++
        [.hold (.place (LegalHoldService.samplePlace "v2" "first")), .shred sampleShred]) := by
  obtain ⟨payload, hpayload⟩ := LocalEnvelopeEncryptionService.sampleEncrypted
  obtain ⟨result, hread⟩ := hpayload.decrypts
  intro hguarded
  have hlast := hguarded (sampleMade ++
    [.hold (.place (LegalHoldService.samplePlace "v2" "first"))]) (.shred sampleShred) (by simp)
  rw [Runs.run_append, run_sampleMade hpayload, Runs.run_cons, Runs.run_nil, isolates_iff] at hlast
  refine hlast sampleShred (sampleShred_shreds rfl sampleKms_accepts)
    ⟨payload.manifest, payload.ciphertext⟩ (List.mem_singleton.mpr rfl) ?_
    (decryptable_of_decryptWith hread) ?_
  · rw [Envelope.objectKey, hpayload.tenant, hpayload.object]
    exact samplePlace_protects
  · rw [hpayload.keyRef]
    rfl

/-- A document is encrypted under version 1 of its key, rewrapped to version 2, and
shredded: only version 1 is destroyed, and the rewrapped envelope is still read. -/
theorem shred_after_rewrap :
    ∃ rewrap : EnvelopeRewrapRequest,
      ¬ Runs.Guarded (sampleServices.step default) (sampleServices.Completes default)
        (start sampleKms) (sampleMade ++ [.rewrap rewrap, .shred sampleShred]) := by
  obtain ⟨payload, hpayload⟩ := LocalEnvelopeEncryptionService.sampleEncrypted
  obtain ⟨hvalid, result, hresult, htenant, hobject, hversion, href, read, hread⟩ :=
    hpayload.rewrapped_decrypts
  refine ⟨LocalEnvelopeEncryptionService.sampleRewrap payload.manifest payload.ciphertext,
    fun hguarded => ?_⟩
  have hrewrapped := step_rewrap sampleServices
    ⟨LegalHoldService.sampleStart, sampleKms, [⟨payload.manifest, payload.ciphertext⟩]⟩
    hvalid hresult
  have hlast := hguarded (sampleMade ++ [.rewrap (LocalEnvelopeEncryptionService.sampleRewrap
    payload.manifest payload.ciphertext)]) (.shred sampleShred) (by simp)
  rw [Runs.run_append, run_sampleMade hpayload, Runs.run_cons, Runs.run_nil, hrewrapped,
    completes_iff] at hlast
  have hsame := hlast sampleShred (sampleShred_shreds rfl sampleKms_accepts)
    ⟨result.manifest, payload.ciphertext⟩ (List.mem_cons_self ..)
    ⟨htenant, hobject, hversion⟩ (decryptable_of_decryptWith hread)
  have hnew : Text.strip "kms://acme/internal/v2" ≠ Text.strip "kms://acme/internal/v1" := by
    decide +kernel
  rw [href] at hsame
  exact hnew hsame

end CustodyServices

end Collabio
