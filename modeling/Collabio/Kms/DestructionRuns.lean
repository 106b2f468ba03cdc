import Mathlib.Tactic
import Collabio.Library.Runs
import Collabio.Kms.RewrapChain

/-!
# Destroyed keys over whole runs

One adapter and the envelope services built on it, any calls in any order. A
reference is destroyed under its canonical text and every call names it by a text
of its own, so the law is about stripped texts.

Rotation names the next version without asking whether that version was
destroyed, so a rewrap can move an envelope onto a destroyed reference. Every
other call that names a destroyed reference raises.

* `KmsCall.lawful_of_kept`  — one call, unless it is a rewrap onto a destroyed version;
* `key_destruction_final`   — runs without such rewraps.
-/

namespace Collabio

variable {H : HashFunctions}

/-- A call on the adapter or on an envelope service over it, as its caller makes it. -/
inductive KmsCall where
  | validate (raw : KmsKeyReferenceRequest)
  | rotate (raw : KmsRotateKeyCommand)
  | destroy (raw : KmsDestroyKeyCommand)
  | encrypt (service : LocalEnvelopeEncryptionService) (raw : EnvelopeEncryptionRequest)
      (dataKey nonce : Bytes)
  | decrypt (service : LocalEnvelopeEncryptionService) (raw : EnvelopeDecryptionRequest)
  | rewrap (service : LocalEnvelopeEncryptionService) (raw : EnvelopeRewrapRequest)

namespace KmsCall

/-- Pure code that looks at the adapter, as a computation that leaves it as it is. -/
def reading {α : Type} (f : LocalKmsAdapter → Except Exn α) : Eff Exn LocalKmsAdapter Unit := do
  let kms ← Eff.get
  let _ ← Eff.lift (f kms)
  return ()

theorem reading_apply {α : Type} (f : LocalKmsAdapter → Except Exn α) (kms : LocalKmsAdapter) :
    reading f kms = ((f kms).map fun _ => (), kms) := by
  unfold reading
  rw [Eff.bind_of_ok (Eff.get_apply _), Eff.lift_bind_apply]
  cases f kms <;> rfl

/-- A destruction, from the command's model on. -/
def destroying (H : HashFunctions) (raw : KmsDestroyKeyCommand) :
    Eff Exn LocalKmsAdapter Unit := do
  let command ← Eff.lift raw.validate
  let _ ← LocalKmsAdapter.recordKeyDestruction H command
  return ()

/-- The call, with the model that builds its request. What it returns is left out. -/
def run (H : HashFunctions) : KmsCall → Eff Exn LocalKmsAdapter Unit
  | validate raw => reading fun kms => raw.validate >>= kms.validateKeyReference H
  | rotate raw => reading fun kms => raw.validate >>= kms.rotateKeyReference H
  | destroy raw => destroying H raw
  | encrypt service raw dataKey nonce =>
    reading fun kms => raw.validate >>= service.encrypt H kms dataKey nonce
  | decrypt service raw => reading fun kms => raw.validate >>= service.decrypt H kms
  | rewrap service raw => reading fun kms => raw.validate >>= service.rewrap H kms

def step (H : HashFunctions) (kms : LocalKmsAdapter) (call : KmsCall) : LocalKmsAdapter :=
  (call.run H kms).2

/-- The call names the reference in one of its request's fields. -/
def Names (ref : String) : KmsCall → Prop
  | validate raw => Text.strip raw.kmsKeyRef = ref
  | rotate raw => Text.strip raw.currentKmsKeyRef = ref
  | destroy raw => Text.strip raw.kmsKeyRef = ref
  | encrypt _ raw _ _ => Text.strip raw.kmsKeyRef = ref
  | decrypt _ raw => Text.strip raw.kmsKeyRef = ref
  | rewrap _ raw =>
    Text.strip raw.currentKmsKeyRef = ref ∨ Text.strip raw.newKmsKeyRef = ref

/-- If the call is a rewrap, the version it moves to is not destroyed. -/
def MovesToKeptVersion (kms : LocalKmsAdapter) : KmsCall → Prop
  | rewrap _ raw => Text.strip raw.newKmsKeyRef ∉ kms.destroyedKeyRefs
  | _ => True

/-- What a destruction must have been told before it succeeds. -/
structure DestructionPermitted (kms : LocalKmsAdapter) (raw : KmsDestroyKeyCommand) :
    Prop where
  notRecord   : raw.dataClass ≠ .gobd ∧ raw.dataClass ≠ .legalHold
  shreddable  : ∃ p, kms.policy.dataClassPolicy raw.dataClass = .ok p ∧
                  p.cryptoshredAllowed = true
  notHeld     : Text.strip raw.legalHoldState ≠ "active"
  notBusiness : Text.strip raw.lifecycleState ≠ "business_record"
  notWorm     : Text.strip raw.lifecycleState ≠ "worm_evidence"

/-- The law of one call: destroyed references stay destroyed, none of them is
used, destruction is guarded, and a call that raises changes nothing. -/
structure Lawful (H : HashFunctions) (kms : LocalKmsAdapter) (call : KmsCall) : Prop where
  grows   : kms.destroyedKeyRefs ⊆ (call.step H kms).destroyedKeyRefs
  refuses : ∀ ref ∈ kms.destroyedKeyRefs, call.Names ref → ∃ exn, (call.run H kms).1 = .error exn
  guarded : ∀ raw, call = .destroy raw → (call.run H kms).1 = .ok () →
              DestructionPermitted kms raw
  atomic  : ∀ exn, (call.run H kms).1 = .error exn → call.step H kms = kms

end KmsCall

/-! ## References that are destroyed -/

namespace LocalKmsAdapter

/-- No text of a destroyed reference is accepted, whatever whitespace it carries. -/
theorem not_usable_of_destroyed {kms : LocalKmsAdapter} {tenantId : String}
    {dataClass : DataClass} {kmsKeyRef : String}
    (h : Text.strip kmsKeyRef ∈ kms.destroyedKeyRefs) :
    ¬ kms.Usable tenantId dataClass kmsKeyRef := by
  rintro ⟨ref, href⟩
  exact (validateKeyRef_eq_ok.mp href).2.2.2.2 h

theorem requireKeyDestructionAllowed_eq_ok {p : KmsDataClassKeyPolicy}
    {command : KmsDestroyKeyCommand} :
    requireKeyDestructionAllowed p command = .ok () ↔
      command.legalHoldState ≠ "active" ∧ command.dataClass.isRecord = false ∧
        command.lifecycleState ∉ ["business_record", "worm_evidence"] ∧
        ¬ (p.destructionRequiresHumanApproval ∧ command.approvalRef = "") ∧
        p.cryptoshredAllowed = true := by
  unfold requireKeyDestructionAllowed
  simp only [require_bind_eq_ok, require_eq_ok]

/-- **A destruction that raises changes nothing**, when its command comes from its
model: the evidence of such a command can always be built. -/
theorem recordKeyDestruction_atomic {kms : LocalKmsAdapter} {raw command : KmsDestroyKeyCommand}
    {exn : Exn} (hvalid : raw.validate = .ok command)
    (h : (recordKeyDestruction H command kms).1 = .error exn) :
    (recordKeyDestruction H command kms).2 = kms := by
  cases htarget : kms.destructionTarget command with
  | error exn' =>
    unfold recordKeyDestruction
    rw [Eff.bind_of_ok (Eff.get_apply _), Eff.lift_bind_apply, htarget]
  | ok target =>
    -- every check passed, so the command's own validity makes the rest succeed
    obtain ⟨ref, href, htarget⟩ := Except.bind_eq_ok.mp htarget
    obtain ⟨p, hp, htarget⟩ := Except.bind_eq_ok.mp htarget
    obtain ⟨_, hallowed, -⟩ := Except.bind_eq_ok.mp htarget
    obtain ⟨herrors, rfl⟩ := KmsDestroyKeyCommand.validate_eq_ok.mp hvalid
    obtain ⟨-, hkey, -, -, -, -, -, happroval, haudit, htime, -⟩ :=
      KmsDestroyKeyCommand.errors_eq_nil.mp herrors
    have hstrip : ∀ text, Text.strip (Text.strip text) = Text.strip text := Text.strip_strip
    obtain ⟨evidence, _, hdestroyed, -⟩ := recordKeyDestruction_isOk (H := H) href hp hallowed
      (by simpa [KmsDestroyKeyCommand.normalized, hstrip] using hkey)
      (by simpa [KmsDestroyKeyCommand.normalized, hstrip] using haudit)
      (by simpa [KmsDestroyKeyCommand.normalized, hstrip] using happroval)
      (by simpa [KmsDestroyKeyCommand.normalized, hstrip] using htime)
    rw [hdestroyed] at h
    cases h

end LocalKmsAdapter

/-! ## One call -/

namespace KmsCall

/-- A call that only reads is lawful when it refuses destroyed references. -/
theorem lawful_of_reading {α : Type} {f : LocalKmsAdapter → Except Exn α} {kms : LocalKmsAdapter}
    {call : KmsCall} (hrun : call.run H = reading f) (hread : ∀ raw, call ≠ .destroy raw)
    (hrefuses : ∀ ref ∈ kms.destroyedKeyRefs, call.Names ref → ∀ a, f kms ≠ .ok a) :
    call.Lawful H kms := by
  have hstate : call.step H kms = kms := by
    rw [step, hrun, reading_apply]
  refine ⟨?_, ?_, fun raw hdestroy => absurd hdestroy (hread raw), fun _ _ => hstate⟩
  · rw [hstate]
  · intro ref hmem hnames
    rw [hrun, reading_apply]
    cases hout : f kms with
    | error exn => exact ⟨exn, rfl⟩
    | ok a => exact absurd hout (hrefuses ref hmem hnames a)

/-- The KMS answers no request of a model that names a destroyed reference. -/
theorem validate_refuses {kms : LocalKmsAdapter} {raw : KmsKeyReferenceRequest}
    {evidence : KmsOperationEvidence} (h : Text.strip raw.kmsKeyRef ∈ kms.destroyedKeyRefs) :
    (raw.validate >>= kms.validateKeyReference H) ≠ .ok evidence := by
  intro hok
  have husable := ((LocalKmsAdapter.answers_iff kms raw).mp ⟨evidence, hok⟩).2
  exact LocalKmsAdapter.not_usable_of_destroyed h husable

theorem rotate_refuses {kms : LocalKmsAdapter} {raw : KmsRotateKeyCommand}
    {rotation : KmsRotationResult}
    (h : Text.strip raw.currentKmsKeyRef ∈ kms.destroyedKeyRefs) :
    (raw.validate >>= kms.rotateKeyReference H) ≠ .ok rotation := by
  intro hok
  obtain ⟨command, hvalid, hrotation⟩ := Except.bind_eq_ok.mp hok
  obtain ⟨-, rfl⟩ := KmsRotateKeyCommand.validate_eq_ok.mp hvalid
  obtain ⟨ref, _, href, -⟩ := LocalKmsAdapter.rotateKeyReference_eq_ok hrotation
  have husable : kms.Usable raw.normalized.tenantId raw.dataClass raw.currentKmsKeyRef :=
    LocalKmsAdapter.usable_strip.mp ⟨ref, href⟩
  exact LocalKmsAdapter.not_usable_of_destroyed h husable

theorem encrypt_refuses {kms : LocalKmsAdapter} {service : LocalEnvelopeEncryptionService}
    {raw : EnvelopeEncryptionRequest} {dataKey nonce : Bytes} {payload : EnvelopeEncryptedPayload}
    (h : Text.strip raw.kmsKeyRef ∈ kms.destroyedKeyRefs) :
    (raw.validate >>= service.encrypt H kms dataKey nonce) ≠ .ok payload := by
  intro hok
  obtain ⟨request, hvalid, hpayload⟩ := Except.bind_eq_ok.mp hok
  have hgranted :=
    (LocalEnvelopeEncryptionService.encrypt_isOk_iff hvalid).mp ⟨payload, hpayload⟩
  have href : request.kmsKeyRef = raw.kmsKeyRef := by
    rw [← (accept_eq_ok.mp hvalid).2, EnvelopeEncryptionRequest.normalized]
  rw [← href] at h
  exact LocalKmsAdapter.not_usable_of_destroyed h hgranted.2.1

theorem decrypt_refuses {kms : LocalKmsAdapter} {service : LocalEnvelopeEncryptionService}
    {raw : EnvelopeDecryptionRequest} {result : EnvelopeDecryptionResult}
    (h : Text.strip raw.kmsKeyRef ∈ kms.destroyedKeyRefs) :
    (raw.validate >>= service.decrypt H kms) ≠ .ok result := by
  intro hok
  obtain ⟨request, hvalid, hresult⟩ := Except.bind_eq_ok.mp hok
  have href : request.kmsKeyRef = raw.kmsKeyRef := by
    rw [← (accept_eq_ok.mp hvalid).2, EnvelopeDecryptionRequest.normalized]
  rw [← href] at h
  obtain ⟨_, _, _, -, hkms, -⟩ := LocalEnvelopeEncryptionService.decrypt_eq_ok.mp hresult
  exact @validate_refuses _ _ (LocalEnvelopeEncryptionService.decryptionKmsRequest request) _ h
    hkms

/-- A rewrap refuses a destroyed current reference; about the new one it does not ask. -/
theorem rewrap_refuses {kms : LocalKmsAdapter} {service : LocalEnvelopeEncryptionService}
    {raw : EnvelopeRewrapRequest} {result : EnvelopeRewrapResult}
    (h : Text.strip raw.currentKmsKeyRef ∈ kms.destroyedKeyRefs) :
    (raw.validate >>= service.rewrap H kms) ≠ .ok result := by
  intro hok
  obtain ⟨request, hvalid, hresult⟩ := Except.bind_eq_ok.mp hok
  obtain ⟨ref, _, href, -⟩ :=
    LocalEnvelopeEncryptionService.rewrap_references hvalid hresult
  have hcurrent : request.currentKmsKeyRef = Text.strip raw.currentKmsKeyRef := by
    rw [← (accept_eq_ok.mp hvalid).2, EnvelopeRewrapRequest.normalized]
  rw [hcurrent] at href
  exact LocalKmsAdapter.not_usable_of_destroyed h (LocalKmsAdapter.usable_strip.mp ⟨ref, href⟩)

/-- What a destruction that returns has checked, and what it changes. -/
theorem destroy_eq_ok {kms : LocalKmsAdapter} {raw : KmsDestroyKeyCommand}
    (h : ((destroy raw).run H kms).1 = .ok ()) :
    DestructionPermitted kms raw ∧
      kms.Usable (Text.strip raw.tenantId) raw.dataClass raw.kmsKeyRef ∧
      (destroy raw).step H kms = kms.destroy (Text.strip raw.kmsKeyRef) := by
  unfold step
  rcases hrun : (destroy raw).run H kms with ⟨out, kms'⟩
  rw [hrun] at h
  dsimp only at h ⊢
  subst h
  unfold run destroying at hrun
  obtain ⟨command, _, hvalid, hrun⟩ := Eff.bind_eq_ok.mp hrun
  simp only [Eff.lift_apply, Prod.mk.injEq] at hvalid
  obtain ⟨hvalid, rfl⟩ := hvalid
  obtain ⟨result, _, hdestroyed, hrun⟩ := Eff.bind_eq_ok.mp hrun
  cases hrun
  obtain ⟨ref, p, href, hp, hallowed, hkms, -⟩ :=
    LocalKmsAdapter.recordKeyDestruction_spec hdestroyed
  obtain ⟨-, rfl⟩ := KmsDestroyKeyCommand.validate_eq_ok.mp hvalid
  obtain ⟨hheld, hrecord, hlifecycle, -, hshred⟩ :=
    LocalKmsAdapter.requireKeyDestructionAllowed_eq_ok.mp hallowed
  simp only [KmsDestroyKeyCommand.normalized] at href hp hheld hrecord hlifecycle hkms
  -- a data class that is a record is refused, and these two are records
  have hclass : raw.dataClass ≠ .gobd ∧ raw.dataClass ≠ .legalHold := by
    constructor <;> intro heq <;> simp [DataClass.isRecord, heq] at hrecord
  simp only [List.mem_cons, List.not_mem_nil, or_false, not_or] at hlifecycle
  refine ⟨⟨hclass, ⟨p, hp, hshred⟩, hheld, hlifecycle.1, hlifecycle.2⟩, ?_, ?_⟩
  · exact LocalKmsAdapter.usable_strip.mp ⟨ref, href⟩
  · rw [hkms, Text.strip_strip]

theorem destroy_eq_error {kms : LocalKmsAdapter} {raw : KmsDestroyKeyCommand} {exn : Exn}
    (h : ((destroy raw).run H kms).1 = .error exn) : (destroy raw).step H kms = kms := by
  unfold step
  unfold run destroying at h ⊢
  dsimp only at h ⊢
  rw [Eff.lift_bind_apply] at h ⊢
  cases hvalid : raw.validate with
  | error exn' => rfl
  | ok command =>
    rw [hvalid] at h
    dsimp only at h ⊢
    rcases hdestroy : LocalKmsAdapter.recordKeyDestruction H command kms with ⟨exn' | result, kms'⟩
    · rw [Eff.bind_of_error hdestroy]
      have hkept := @LocalKmsAdapter.recordKeyDestruction_atomic H kms _ _ exn' hvalid
        (by rw [hdestroy])
      rw [hdestroy] at hkept
      exact hkept
    · rw [Eff.bind_of_ok hdestroy] at h
      cases h

theorem lawful_destroy (kms : LocalKmsAdapter) (raw : KmsDestroyKeyCommand) :
    (destroy raw).Lawful H kms := by
  refine ⟨?_, ?_, ?_, fun exn => destroy_eq_error⟩
  · cases hout : ((destroy raw).run H kms).1 with
    | error exn => rw [destroy_eq_error hout]
    | ok _ =>
      rw [(destroy_eq_ok hout).2.2]
      exact Finset.subset_insert _ _
  · intro ref hmem hnames
    cases hout : ((destroy raw).run H kms).1 with
    | error exn => exact ⟨exn, rfl⟩
    | ok _ =>
      have husable := (destroy_eq_ok hout).2.1
      have hdestroyed : Text.strip raw.kmsKeyRef ∈ kms.destroyedKeyRefs := by
        rw [show Text.strip raw.kmsKeyRef = ref from hnames]
        exact hmem
      exact absurd husable (LocalKmsAdapter.not_usable_of_destroyed hdestroyed)
  · intro raw' hsame hout
    cases hsame
    exact (destroy_eq_ok hout).1

/-- **One call is lawful**, unless it rewraps onto a destroyed version. -/
theorem lawful_of_kept {kms : LocalKmsAdapter} {call : KmsCall}
    (h : call.MovesToKeptVersion kms) : call.Lawful H kms := by
  cases call with
  | validate raw =>
    refine lawful_of_reading rfl (by simp) fun ref hmem hnames evidence => ?_
    exact validate_refuses (by rw [show Text.strip _ = ref from hnames]; exact hmem)
  | rotate raw =>
    refine lawful_of_reading rfl (by simp) fun ref hmem hnames rotation => ?_
    exact rotate_refuses (by rw [show Text.strip _ = ref from hnames]; exact hmem)
  | destroy raw => exact lawful_destroy kms raw
  | encrypt service raw dataKey nonce =>
    refine lawful_of_reading rfl (by simp) fun ref hmem hnames payload => ?_
    exact encrypt_refuses (by rw [show Text.strip _ = ref from hnames]; exact hmem)
  | decrypt service raw =>
    refine lawful_of_reading rfl (by simp) fun ref hmem hnames result => ?_
    exact decrypt_refuses (by rw [show Text.strip _ = ref from hnames]; exact hmem)
  | rewrap service raw =>
    refine lawful_of_reading rfl (by simp) fun ref hmem hnames result => ?_
    rcases hnames with hcurrent | hnew
    · exact rewrap_refuses (by rw [hcurrent]; exact hmem)
    · -- the one check the code leaves out is the condition on the call
      have hkept : Text.strip raw.newKmsKeyRef ∉ kms.destroyedKeyRefs := h
      rw [hnew] at hkept
      exact absurd hmem hkept

/-! ## Runs -/

/-- No call takes a reference out of the destroyed ones. -/
theorem destroyed_step (H : HashFunctions) (kms : LocalKmsAdapter) (call : KmsCall) :
    kms.destroyedKeyRefs ⊆ (call.step H kms).destroyedKeyRefs := by
  cases call with
  | destroy raw => exact (lawful_destroy kms raw).grows
  | _ =>
    unfold step run
    dsimp only
    rw [reading_apply]

/-- **Destroyed is for good**: what is destroyed at some point of a run is destroyed
at every later one. -/
theorem destroyed_run {kms : LocalKmsAdapter} {before later : List KmsCall}
    (hlater : before <+: later) :
    (Runs.run (step H) kms before).destroyedKeyRefs ⊆
      (Runs.run (step H) kms later).destroyedKeyRefs := by
  obtain ⟨rest, rfl⟩ := hlater
  intro ref hmem
  rw [Runs.run_append]
  have hkept := @Runs.always_of_invariant _ _ (step H)
    (fun kms : LocalKmsAdapter => ref ∈ kms.destroyedKeyRefs)
    (fun kms call hkept => destroyed_step H kms call hkept) _ hmem rest
  exact Runs.always_last hkept

/-- **Key destruction over runs.** In a run where no rewrap moves onto a version
that is destroyed by then, every call is lawful, and a reference destroyed at
some point is refused by every later call that names it. -/
theorem key_destruction_final {kms : LocalKmsAdapter} {calls : List KmsCall}
    (h : Runs.Guarded (step H) MovesToKeptVersion kms calls) :
    Runs.Guarded (step H) (Lawful H) kms calls ∧
      ∀ before later call, before <+: later → later ++ [call] <+: calls →
        ∀ ref ∈ (Runs.run (step H) kms before).destroyedKeyRefs, call.Names ref →
          ∃ exn, (call.run H (Runs.run (step H) kms later)).1 = .error exn := by
  have hlawful : Runs.Guarded (step H) (Lawful H) kms calls :=
    fun before call hbefore => lawful_of_kept (h before call hbefore)
  refine ⟨hlawful, fun before later call hlater hcalls ref hmem hnames => ?_⟩
  exact (hlawful later call hcalls).refuses ref (destroyed_run hlater hmem) hnames

/-! ## A concrete destruction -/

/-- The destruction of version 2 of the sample key, which nothing uses yet. -/
def sampleDestruction : KmsDestroyKeyCommand where
  tenantId := "acme"
  dataClass := .internal
  kmsKeyRef := "kms://acme/internal/v2"
  retentionPolicyId := "standard"
  legalHoldState := "none"
  lifecycleState := "active"
  requestedBy := "alice"
  approvedBy := "bob"
  approvalRef := "approval:1"
  auditChainRef := "audit:1"
  occurredAtUtc := "2026-01-05T09:00:00Z"
  reason := "erasure"

theorem sampleDestruction_valid : sampleDestruction.validate = .ok sampleDestruction := by
  refine accept_eq_ok.mpr ⟨?_, ?_⟩
  · decide +kernel
  · decide +kernel

theorem sampleDestruction_step :
    Runs.run (step default) sampleKms [.destroy sampleDestruction] =
      sampleKms.destroy "kms://acme/internal/v2" := by
  have href : sampleKms.validateKeyRef "acme" .internal "kms://acme/internal/v2" =
      .ok LocalEnvelopeEncryptionService.sampleNextRef := by decide +kernel
  obtain ⟨evidence, _, hdestroyed, -⟩ := @LocalKmsAdapter.recordKeyDestruction_isOk default _
    sampleDestruction _
    { dataClass := .internal, rotationPeriodDays := 365, cryptoshredAllowed := true } href (by decide +kernel) (by decide +kernel) (by decide +kernel) (by decide +kernel)
    (by decide +kernel) isUtcTimestamp_sample
  have hstrip : Text.strip "kms://acme/internal/v2" = "kms://acme/internal/v2" := by
    decide +kernel
  rw [show sampleDestruction.kmsKeyRef = "kms://acme/internal/v2" from rfl, hstrip] at hdestroyed
  rw [Runs.run_cons, Runs.run_nil]
  unfold step run destroying
  dsimp only
  rw [Eff.lift_bind_apply, sampleDestruction_valid]
  dsimp only
  rw [Eff.bind_of_ok hdestroyed]
  rfl

/-- Version 2 is destroyed, and a later rewrap from version 1 that names it returns. -/
theorem rewrap_names_destroyed_version :
    ∃ raw : EnvelopeRewrapRequest,
      (rewrap ⟨[]⟩ raw).Names "kms://acme/internal/v2" ∧
      "kms://acme/internal/v2" ∈
        (Runs.run (step default) sampleKms [.destroy sampleDestruction]).destroyedKeyRefs ∧
      ((rewrap ⟨[]⟩ raw).run default
        (Runs.run (step default) sampleKms [.destroy sampleDestruction])).1 = .ok () := by
  obtain ⟨payload, hpayload⟩ := LocalEnvelopeEncryptionService.sampleEncrypted
  have haccepts : (sampleKms.destroy "kms://acme/internal/v2").validateKeyRef "acme" .internal
      "kms://acme/internal/v1" = .ok sampleKeyRef := by decide +kernel
  obtain ⟨hvalid, result, hresult⟩ := hpayload.rewraps haccepts
  rw [sampleDestruction_step]
  refine ⟨LocalEnvelopeEncryptionService.sampleRewrap payload.manifest payload.ciphertext,
    .inr ?_, Finset.mem_insert_self _ _, ?_⟩
  · exact LocalEnvelopeEncryptionService.strip_sampleRewrap "kms://acme/internal/v2" (by simp)
  · unfold run
    dsimp only
    rw [reading_apply, hvalid]
    show Except.map _ (LocalEnvelopeEncryptionService.rewrap _ _ _ _) = _
    rw [hresult]
    rfl

/-- Once version 2 is destroyed, a second destruction of it raises. -/
theorem sample_key_destruction_final :
    ∃ exn, ((destroy sampleDestruction).run default
      (Runs.run (step default) sampleKms [.destroy sampleDestruction])).1 = .error exn := by
  have hkept : Runs.Guarded (step default) MovesToKeptVersion sampleKms
      [.destroy sampleDestruction, .destroy sampleDestruction] := by
    simp [Runs.guarded_cons, MovesToKeptVersion]
  refine (key_destruction_final hkept).2 [.destroy sampleDestruction]
    [.destroy sampleDestruction] (.destroy sampleDestruction) (List.prefix_refl _)
    (List.prefix_refl _) "kms://acme/internal/v2" ?_ ?_
  · rw [sampleDestruction_step]
    exact Finset.mem_insert_self _ _
  · exact LocalEnvelopeEncryptionService.strip_sampleRewrap "kms://acme/internal/v2" (by simp)

end KmsCall

end Collabio
