import Mathlib.Tactic
import Collabio.Operations.RestoreDrillSpec

/-!
# Restores after rewraps

A rewrap gives the envelope manifest the next version of its key reference. Record
and storage manifest keep the version they were written with, and the drill
compares the two.

* `RewrapChain.keyVersion_latest` — every rewrap of a chain raises the version by one;
* `restorable_iff`                — restorable exactly while nothing was rewrapped,
  in a bucket whose id has no whitespace around it.
-/

namespace Collabio

variable {H : HashFunctions} {service : LocalEnvelopeEncryptionService}

namespace LocalEnvelopeEncryptionService

/-- The manifest at the end of a chain of rewraps. -/
def latestManifest (manifest : EnvelopeEncryptionManifest) :
    List RewrapLink → EnvelopeEncryptionManifest
  | [] => manifest
  | link :: links => latestManifest link.result.manifest links

/-- The key version at the end of a chain counts the rewraps. -/
theorem RewrapChain.keyVersion_latest {ciphertext : Bytes} {aad : Dict String String}
    {manifest : EnvelopeEncryptionManifest} {links : List RewrapLink}
    (hchain : RewrapChain H service ciphertext aad manifest links) (hlinks : links ≠ []) :
    ∃ ref latest, KmsKeyReference.parse manifest.kmsKeyRef = .ok ref ∧
      KmsKeyReference.parse (latestManifest manifest links).kmsKeyRef = .ok latest ∧
      latest.keyVersion = ref.keyVersion + links.length := by
  induction hchain with
  | nil => exact absurd rfl hlinks
  | @cons raw link links hvalid hciphertext haad hrewrapped hrest ih =>
    obtain ⟨ref, next, href, hnext, hcanonical, -, -, hcurrent, hnew, -⟩ :=
      rewrap_references hvalid hrewrapped
    have hparse := (LocalKmsAdapter.validateKeyRef_eq_ok.mp href).1
    -- the reference that the rewrap moves to is the next version of the one it comes from
    have hmoved : KmsKeyReference.parse link.result.manifest.kmsKeyRef = .ok next := by
      rw [hnew]
      refine KmsKeyReference.parse_eq_ok.mpr ⟨?_, ?_⟩
      · rw [KmsKeyReference.strip_canonicalRef hcanonical]
        exact hcanonical
      · rw [(KmsKeyReference.make_eq_ok hnext).1, ref.stripped]
        exact (KmsKeyReference.parse_eq_ok.mp hparse).2
    have hversion := (KmsKeyReference.make_eq_ok hnext).2.2
    rw [hcurrent] at hparse
    cases links with
    | nil => exact ⟨ref, next, hparse, hmoved, hversion⟩
    | cons link' links =>
      obtain ⟨found, latest, hfound, hlatest, hcount⟩ := ih (by simp)
      rw [hmoved] at hfound
      cases hfound
      refine ⟨ref, latest, hparse, hlatest, ?_⟩
      simp only [List.length_cons] at hcount ⊢
      omega

/-- After a rewrap the envelope names another reference than before. -/
theorem RewrapChain.kmsKeyRef_latest_ne {ciphertext : Bytes} {aad : Dict String String}
    {manifest : EnvelopeEncryptionManifest} {links : List RewrapLink}
    (hchain : RewrapChain H service ciphertext aad manifest links) (hlinks : links ≠ []) :
    (latestManifest manifest links).kmsKeyRef ≠ manifest.kmsKeyRef := by
  obtain ⟨ref, latest, href, hlatest, hcount⟩ := hchain.keyVersion_latest hlinks
  intro hsame
  rw [hsame, href] at hlatest
  cases hlatest
  have hlength := List.length_pos_of_ne_nil hlinks
  omega

end LocalEnvelopeEncryptionService

open LocalEnvelopeEncryptionService

namespace StoredObject

variable {kms : LocalKmsAdapter} (object : StoredObject H service kms)

/-- The drill returns the report of a restored object, with the latest manifest of a
chain of rewraps. -/
def Restorable (runner : RestoreDrillRunner) (links : List RewrapLink) (caller : Caller) : Prop :=
  ∃ command report,
    (object.drill (latestManifest object.payload.manifest links) caller).validate = .ok command ∧
    runner.verifyEncryptedObjectRestore H kms command = .ok report ∧ report.status = .restored

/-- What a drill that returned has compared: the key references, and the bucket ids. -/
theorem clean_of_verify {runner : RestoreDrillRunner} {envelope : EnvelopeEncryptionManifest}
    {caller : Caller} {report : RestoreDrillReport}
    (h : runner.verifyEncryptedObjectRestore H kms (object.drill envelope caller) = .ok report) :
    envelope.kmsKeyRef = object.payload.manifest.kmsKeyRef ∧
      Text.strip object.profile.bucketId = object.profile.bucketId := by
  obtain ⟨_, storageResult, _, _, _, -, -, henvelope, hstorage, -⟩ :=
    RestoreDrillRunner.verifyEncryptedObjectRestore_eq_ok.mp h
  have hmatches := (requireEnvelopeManifestMatchesStorage_eq_ok.mp henvelope).2
  obtain ⟨-, -, -, hretention, -⟩ := verifyStorageObjectRestore_isOk_iff.mp ⟨_, hstorage⟩
  obtain ⟨hprofile, hbuilt⟩ := buildStorageObjectManifest_eq_ok object.stored
  have hsame := (require_bind_eq_ok.mp hprofile).1
  refine ⟨hmatches.kmsKeyRef.trans object.envelope_matchesStorage.kmsKeyRef.symm, ?_⟩
  calc Text.strip object.profile.bucketId
      = object.manifest.bucketId := by rw [hbuilt]; rfl
    _ = object.retention.storageBucketId := hretention.bucketId
    _ = object.profile.bucketId := hsame.symm

/-- A rewrapped object is not restorable. -/
theorem not_restorable_of_rewrapped {runner : RestoreDrillRunner} {links : List RewrapLink}
    {caller : Caller} (hcaller : caller.Accepted)
    (hchain : RewrapChain H service object.payload.ciphertext object.request.aad
      object.payload.manifest links) (hlinks : links ≠ []) :
    ¬ object.Restorable runner links caller := by
  rintro ⟨command, report, hvalid, hreport, -⟩
  rw [object.drill_valid hcaller] at hvalid
  cases hvalid
  exact hchain.kmsKeyRef_latest_ne hlinks (object.clean_of_verify hreport).1

/-- **Restores after rewraps.** With the KMS state of its encryption, where the key is
not destroyed, a stored object can be restored exactly when its envelope was never
rewrapped and the id of its bucket has no whitespace around it. -/
theorem restorable_iff (hdigests : H.HasDigests) {runner : RestoreDrillRunner}
    {links : List RewrapLink} {caller : Caller} (hservice : runner.envelopeService = some service)
    (hcaller : caller.Accepted)
    (hchain : RewrapChain H service object.payload.ciphertext object.request.aad
      object.payload.manifest links) :
    object.Restorable runner links caller ↔
      links = [] ∧ Text.strip object.profile.bucketId = object.profile.bucketId := by
  constructor
  · intro hrestorable
    refine ⟨?_, ?_⟩
    · by_contra hlinks
      exact object.not_restorable_of_rewrapped hcaller hchain hlinks hrestorable
    · obtain ⟨command, report, hvalid, hreport, -⟩ := hrestorable
      rw [object.drill_valid hcaller] at hvalid
      cases hvalid
      exact (object.clean_of_verify hreport).2
  · rintro ⟨rfl, hbucket⟩
    obtain ⟨report, hreport, hstatus⟩ :=
      object.fresh_restorable hdigests hservice (Caller.accepted_normalized hcaller) hbucket
    exact ⟨_, report, object.drill_valid hcaller _, hreport, hstatus⟩

theorem sample_restorable_iff :
    ∃ object : StoredObject default ⟨[]⟩ sampleKms,
      object.Restorable ⟨some ⟨[]⟩⟩ [] sampleCaller ↔
        ([] : List RewrapLink) = [] ∧
          Text.strip object.profile.bucketId = object.profile.bucketId := by
  obtain ⟨object, -⟩ := sample_object
  exact ⟨object, object.restorable_iff hasDigests_default rfl sampleCaller_accepted (.nil _)⟩

/-- The envelope of the sample object can be rewrapped to version 2. -/
theorem rewraps_sample {object : StoredObject default ⟨[]⟩ sampleKms}
    (hrecord : object.record = sampleRecord "doc-1") (haad : object.request.aad = ∅) :
    (sampleRewrap object.payload.manifest object.payload.ciphertext).validate =
        .ok (sampleRewrap object.payload.manifest object.payload.ciphertext) ∧
      ∃ result, rewrap default ⟨[]⟩ sampleKms
        (sampleRewrap object.payload.manifest object.payload.ciphertext) = .ok result := by
  have hstorage := object.envelope_matchesStorage
  have hsource := object.matchesSource
  have hopens := object.opens
  rw [hrecord] at hsource
  rw [haad] at hopens
  obtain ⟨-, hlength, -⟩ := encrypt_manifest object.valid object.encrypted
  have hvalid : (sampleRewrap object.payload.manifest object.payload.ciphertext).validate =
      .ok (sampleRewrap object.payload.manifest object.payload.ciphertext) := by
    refine accept_eq_ok.mpr ⟨?_, sampleRewrap_normalized _ _⟩
    rw [sampleRewrap_normalized]
    simp [EnvelopeRewrapRequest.errors, sampleRewrap, isUtcTimestamp_sample, hlength]
  -- storage manifest, source and envelope name the same object and the same key
  have hmatch : requireRewrapRequestMatchesManifest
      (sampleRewrap object.payload.manifest object.payload.ciphertext) = .ok () :=
    requireRewrapRequestMatchesManifest_eq_ok.mpr ⟨hopens.length,
      (hstorage.kmsKeyRef.trans hsource.kmsKeyRef).symm,
      (hstorage.dataClass.trans hsource.classification).symm,
      (hstorage.objectId.trans hsource.objectId).symm,
      (hstorage.sourceVersionId.trans hsource.sourceVersionId).symm,
      (hstorage.tenantId.trans hsource.tenantId).symm⟩
  obtain ⟨hnext, hcanonical, hcurrentRef, hnewRef, haudit⟩ := sampleRewrap_references
  exact ⟨hvalid, rewrap_isOk hvalid hmatch hopens sampleKms_accepts hnext hcanonical hcurrentRef
    hnewRef haudit⟩

/-- The sample object after one rewrap from version 1 to version 2: nothing is
destroyed, and no drill of it returns. -/
theorem rewrapped_object_not_restorable :
    ∃ (object : StoredObject default ⟨[]⟩ sampleKms) (link : RewrapLink),
      link.kms = sampleKms ∧
      RewrapChain default ⟨[]⟩ object.payload.ciphertext object.request.aad
        object.payload.manifest [link] ∧
      link.result.manifest.kmsKeyRef = "kms://acme/internal/v2" ∧
      Text.strip object.profile.bucketId = object.profile.bucketId ∧
      ¬ object.Restorable ⟨some ⟨[]⟩⟩ [link] sampleCaller := by
  obtain ⟨object, hrecord, hbucket, haad⟩ := sample_object
  obtain ⟨hvalid, result, hresult⟩ := rewraps_sample hrecord haad
  obtain ⟨_, _, -, -, -, -, -, -, href, -⟩ := rewrap_references hvalid hresult
  have hchain : RewrapChain default ⟨[]⟩ object.payload.ciphertext object.request.aad
      object.payload.manifest
      [⟨sampleKms, sampleRewrap object.payload.manifest object.payload.ciphertext, result⟩] := by
    rw [haad]
    exact @RewrapChain.cons _ _ _ _ _
      ⟨sampleKms, sampleRewrap object.payload.manifest object.payload.ciphertext, result⟩ _
      hvalid rfl rfl hresult (.nil _)
  refine ⟨object, _, rfl, hchain, href, ?_, ?_⟩
  · rw [hbucket]
    decide +kernel
  · exact object.not_restorable_of_rewrapped sampleCaller_accepted hchain (by simp)

end StoredObject

end Collabio
