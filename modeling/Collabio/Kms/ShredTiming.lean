import Mathlib.Tactic
import Collabio.Library.DatetimeSpec
import Collabio.Kms.CryptoshredRuns

/-!
# When a record may be shredded

A shred asks three places: the record's metadata, the flags of its retention
manifest, and the retain-until instant, which the manifest carries as text. That
text has no fraction of a second, so the instant that is read back lies up to a
second before the end of the retention.

* `parseTimestamp_toUtcIso`       — what is read back is the instant, less its fraction;
* `LocalCryptoshredSimulator.shred_justified_iff` — a shred that returns was due, except
  within the very second in which the retention ends.
-/

namespace Collabio

open Datetime

variable {H : HashFunctions}

/-! ## The end of the retention as text -/

theorem not_mem_isoformatSeconds (t : DateTime) : 'Z' ∉ isoformatSeconds t := by
  have hdigits (width n : Nat) : 'Z' ∉ padded width n := by
    intro hmem
    exact absurd (digit_of_mem_padded _ hmem) (by decide)
  simp [isoformatSeconds, hdigits]

theorem replaceChar_of_not_mem {c : Char} {new l : List Char} (h : c ∉ l) :
    Text.replaceChar c new l = l := by
  induction l with
  | nil => rfl
  | cons d l ih =>
    rw [List.mem_cons, not_or] at h
    have hne : d ≠ c := fun heq => h.1 heq.symm
    rw [Text.replaceChar, List.flatMap_cons, if_neg hne, ← Text.replaceChar, ih h.2]
    rfl

theorem replaceChar_append {c : Char} {new l m : List Char} :
    Text.replaceChar c new (l ++ m) = Text.replaceChar c new l ++ Text.replaceChar c new m :=
  List.flatMap_append

/-- **Reading back** what `_to_utc_iso` wrote drops the fraction of a second. -/
theorem parseTimestamp_toUtcIso {t : DateTime} (h : t.OnClock) :
    CryptoshredSimulationRequest.parseTimestamp (toUtcIso t) =
      .ok { t with microsecond := 0, utcoffset := some 0 } := by
  have htext : Text.replaceChar 'Z' "+00:00".toList (toUtcIso t).toList =
      isoformatSeconds t ++ "+00:00".toList := by
    have hchars : (toUtcIso t).toList = isoformatSeconds t ++ ['Z'] := String.toList_ofList
    have hhead := @replaceChar_of_not_mem 'Z' "+00:00".toList _ (not_mem_isoformatSeconds t)
    rw [hchars, replaceChar_append, hhead]
    rfl
  unfold CryptoshredSimulationRequest.parseTimestamp parseUtc
  rw [htext, fromisoformat_isoformatSeconds h.hour h.minute h.second]
  rfl

/-- An instant without its fraction of a second. -/
theorem instant_truncated {t : DateTime} (h : t.OnClock) (hoffset : t.utcoffset = some 0) :
    ({ t with microsecond := 0, utcoffset := some 0 } : DateTime).instant =
      t.instant / microsPerSecond * microsPerSecond := by
  have hmicro := h.microsecond
  simp only [DateTime.instant, hoffset, Option.getD_some, microsPerSecond]
  push_cast
  omega

/-! ## Manifests that were built -/

theorem retentionParseUtc_eq_ok {value : String} {t : DateTime}
    (h : retentionParseUtc value = .ok t) : t.OnClock ∧ t.utcoffset = some 0 := by
  unfold retentionParseUtc at h
  split at h
  · cases h
  · rename_i parsed hparsed
    split at h
    · rename_i hoffset
      cases h
      exact ⟨onClock_of_fromisoformat hparsed, hoffset⟩
    · cases h

namespace CryptoshredSimulationRequest

/-! ## What a shred must have had -/

/-- The shred is due: nothing protects the record, and its policy allows the shred
early or its retention is over at the moment of the request. -/
structure Justified (policySet : RetentionManifestPolicy)
    (request : CryptoshredSimulationRequest) : Prop where
  notHeld      : request.record.metadata.legalHoldState ≠ .active
  notRecord    : request.record.metadata.classification ≠ .gobd ∧
                   request.record.metadata.classification ≠ .legalHold
  notProtected : request.record.metadata.lifecycleState ≠ .businessRecord ∧
                   request.record.metadata.lifecycleState ≠ .wormEvidence
  notBlocked   : request.retentionManifest.deletionBlocked = false
  due          : ∃ policy, policySet.policy request.record.metadata.retentionPolicyId = .ok policy ∧
                   policy.wormRequired = false ∧
                   (policy.cryptoshredAllowedBeforeRetentionEnd = true ∨
                     ∃ days created occurred, policy.retentionDays = some days ∧
                       retentionParseUtc request.record.metadata.createdAtUtc = .ok created ∧
                       parseTimestamp request.occurredAtUtc = .ok occurred ∧
                       created.instant + days * microsPerDay ≤ occurred.instant)

/-- The request falls into the second in which the retention ends, with a smaller
fraction of that second than the record was created at. -/
def WithinFinalSecond (policySet : RetentionManifestPolicy)
    (request : CryptoshredSimulationRequest) : Prop :=
  ∃ policy days created occurred,
    policySet.policy request.record.metadata.retentionPolicyId = .ok policy ∧
    policy.cryptoshredAllowedBeforeRetentionEnd = false ∧ policy.retentionDays = some days ∧
    retentionParseUtc request.record.metadata.createdAtUtc = .ok created ∧
    parseTimestamp request.occurredAtUtc = .ok occurred ∧
    occurred.instant / microsPerSecond =
      (created.instant + days * microsPerDay) / microsPerSecond ∧
    occurred.instant % microsPerSecond < created.instant % microsPerSecond

theorem requireCryptoshredAllowed_eq_ok {request : CryptoshredSimulationRequest} :
    request.requireCryptoshredAllowed = .ok () ↔
      ¬ (request.record.metadata.legalHoldState = .active ∨
          request.retentionManifest.legalHoldState = .active) ∧
        ¬ request.record.metadata.classification.isRecord ∧
        ¬ request.record.metadata.lifecycleState.isRecord ∧
        ¬ (request.retentionManifest.deletionBlocked ∨ request.retentionManifest.wormRequired) ∧
        (request.retentionManifest.cryptoshredAllowedBeforeRetentionEnd = true ∨
          request.requireRetentionEnded = .ok ()) := by
  unfold requireCryptoshredAllowed
  simp only [require_bind_eq_ok]
  cases request.retentionManifest.cryptoshredAllowedBeforeRetentionEnd <;> simp [pure, Except.pure]

theorem requireRetentionEnded_eq_ok {request : CryptoshredSimulationRequest}
    (h : request.requireRetentionEnded = .ok ()) :
    ∃ text occurred ended, request.retentionManifest.retainUntilUtc = some text ∧
      parseTimestamp request.occurredAtUtc = .ok occurred ∧ parseTimestamp text = .ok ended ∧
      ended.instant ≤ occurred.instant := by
  unfold requireRetentionEnded at h
  split at h
  · cases h
  · rename_i text htext
    obtain ⟨occurred, hoccurred, h⟩ := Except.bind_eq_ok.mp h
    obtain ⟨ended, hended, h⟩ := Except.bind_eq_ok.mp h
    exact ⟨text, occurred, ended, htext, hoccurred, hended, require_eq_ok.mp h⟩

/-- **The retention check** compares with the end of the retention, less its
fraction of a second. -/
theorem ended_of_requireRetentionEnded {request : CryptoshredSimulationRequest}
    {policy : RetentionPolicyDefault} {created : DateTime} {until? : Option DateTime}
    (hcreated : retentionParseUtc request.record.metadata.createdAtUtc = .ok created)
    (huntil : retainUntil created policy.retentionDays = .ok until?)
    (hmanifest : request.retentionManifest =
      draftRetentionManifest H request.record.metadata policy created until?)
    (h : request.requireRetentionEnded = .ok ()) :
    ∃ days occurred, policy.retentionDays = some days ∧
      parseTimestamp request.occurredAtUtc = .ok occurred ∧
      (created.instant + days * microsPerDay) / microsPerSecond * microsPerSecond ≤
        occurred.instant := by
  obtain ⟨text, occurred, ended, htext, hoccurred, hended, hle⟩ := requireRetentionEnded_eq_ok h
  obtain ⟨hclock, hoffset⟩ := retentionParseUtc_eq_ok hcreated
  rw [hmanifest, draftRetentionManifest] at htext
  obtain ⟨t, ht, rfl⟩ := Option.map_eq_some_iff.mp htext
  subst ht
  -- the manifest has a retain-until only if the policy has days
  cases hdays : policy.retentionDays with
  | none =>
    rw [hdays] at huntil
    cases huntil
  | some days =>
    rw [hdays, retainUntil] at huntil
    split at huntil
    · rename_i added hadded
      cases huntil
      have htClock := OnClock.of_addDays hadded hclock
      have htOffset : t.utcoffset = some 0 := by
        obtain ⟨date, -, rfl⟩ := Option.map_eq_some_iff.mp hadded
        exact hoffset
      rw [parseTimestamp_toUtcIso htClock] at hended
      cases hended
      rw [instant_truncated htClock htOffset, instant_addDays hadded] at hle
      exact ⟨days, occurred, rfl, hoccurred, hle⟩
    · cases huntil

end CryptoshredSimulationRequest

namespace LocalCryptoshredSimulator

open CryptoshredSimulationRequest

/-- A shred that returns has passed its checks. -/
theorem allowed_of_simulate {request : CryptoshredSimulationRequest} {kms kms' : LocalKmsAdapter}
    {result : CryptoshredSimulationResult} (h : simulate H request kms = (.ok result, kms')) :
    request.requireCryptoshredAllowed = .ok () := by
  unfold simulate at h
  obtain ⟨command, _, hcommand, -⟩ := Eff.bind_eq_ok.mp h
  simp only [Eff.lift_apply, Prod.mk.injEq] at hcommand
  obtain ⟨_, -, hchecks⟩ := Except.bind_eq_ok.mp hcommand.1
  obtain ⟨_, -, hchecks⟩ := Except.bind_eq_ok.mp hchecks
  obtain ⟨_, hallowed, -⟩ := Except.bind_eq_ok.mp hchecks
  exact hallowed

/-- **No early shred, exactly.** A shred with the manifest built for its record,
if it returns, was due — unless it fell into the final second of the retention. -/
theorem shred_justified_iff {request : CryptoshredSimulationRequest}
    {policySet : RetentionManifestPolicy} {kms kms' : LocalKmsAdapter}
    {result : CryptoshredSimulationResult}
    (hbuilt : buildRetentionManifest H request.record policySet = .ok request.retentionManifest)
    (h : simulate H request kms = (.ok result, kms')) :
    request.Justified policySet ↔ ¬ request.WithinFinalSecond policySet := by
  obtain ⟨policy, created, until?, hpolicy, hcreated, huntil, hmanifest⟩ :=
    buildRetentionManifest_eq_ok H hbuilt
  obtain ⟨hheld, hclass, hstate, hblocked, hdue⟩ :=
    requireCryptoshredAllowed_eq_ok.mp (allowed_of_simulate h)
  rw [not_or] at hheld hblocked
  have hearly : request.retentionManifest.cryptoshredAllowedBeforeRetentionEnd =
      policy.cryptoshredAllowedBeforeRetentionEnd := by
    rw [hmanifest]
    simp [draftRetentionManifest, hheld.1]
  constructor
  · rintro hjustified ⟨policy', days, created', occurred, hpolicy', hnotEarly, hdays, hcreated',
      hoccurred, hsecond, hfraction⟩
    rw [hpolicy] at hpolicy'
    cases hpolicy'
    obtain ⟨policy', hpolicy', -, hwhen⟩ := hjustified.due
    rw [hpolicy] at hpolicy'
    cases hpolicy'
    rcases hwhen with hallowed | ⟨days', created'', occurred', hdays', hcreated'', hoccurred', hle⟩
    · rw [hnotEarly] at hallowed
      cases hallowed
    · rw [hdays] at hdays'
      rw [hcreated'] at hcreated''
      rw [hoccurred] at hoccurred'
      cases hdays'
      cases hcreated''
      cases hoccurred'
      -- the same second with a smaller fraction comes before the end
      unfold microsPerDay microsPerSecond at *
      omega
  · intro hoff
    refine ⟨hheld.1, ?_, ?_, by simpa using hblocked.1, policy, hpolicy, ?_, ?_⟩
    · constructor <;> intro heq <;> simp [heq, DataClass.isRecord] at hclass
    · constructor <;> intro heq <;> simp [heq, SourceLifecycleState.isRecord] at hstate
    · have hworm : request.retentionManifest.wormRequired = false := by simpa using hblocked.2
      rw [hmanifest] at hworm
      exact hworm
    · by_cases hallowed : policy.cryptoshredAllowedBeforeRetentionEnd = true
      · exact .inl hallowed
      · rw [Bool.not_eq_true] at hallowed
        have hended : request.requireRetentionEnded = .ok () := by
          rcases hdue with hshred | hended
          · rw [hearly, hallowed] at hshred
            cases hshred
          · exact hended
        obtain ⟨days, occurred, hdays, hoccurred, hle⟩ :=
          ended_of_requireRetentionEnded hcreated huntil hmanifest hended
        refine .inr ⟨days, created, occurred, hdays, hcreated, hoccurred, ?_⟩
        by_contra hbefore
        refine hoff ⟨policy, days, created, occurred, hpolicy, hallowed, hdays, hcreated,
          hoccurred, ?_, ?_⟩
        all_goals
          unfold microsPerDay microsPerSecond at *
          omega

/-! ## A shred within the final second -/

/-- The office policy of the sample set. -/
def officePolicy : RetentionPolicyDefault :=
  LegalHoldService.samplePolicyDefault "office" .internal (some 365) false

/-- The sample document, created half a second later. -/
def fractionRecord : SourceObjectRecord :=
  { sampleRecord "doc-1" with
    metadata := SourceObjectMetadata.withManifestHash default
      { sampleMetadata "doc-1" with createdAtUtc := "2026-01-05T09:00:00.500000Z" } }

/-- Its shred, a quarter of a second before its retention ends. -/
def fractionShred : CryptoshredSimulationRequest :=
  { CustodyServices.sampleShred with
    record := fractionRecord
    retentionManifest := draftRetentionManifest default fractionRecord.metadata officePolicy
      { LegalHoldService.sampleCreated with microsecond := 500000 }
      (some { LegalHoldService.sampleEnded with microsecond := 500000 })
    occurredAtUtc := "2027-01-05T09:00:00.250000Z" }

/-- The manifest of a sample document under the office policy. -/
theorem officeManifest_built {record : SourceObjectRecord} {created ended : DateTime}
    (hpolicy : record.metadata.retentionPolicyId = "office")
    (hclass : record.metadata.classification = .internal)
    (htype : record.metadata.objectType = .document)
    (hstate : record.metadata.lifecycleState = .working)
    (hcreated : retentionParseUtc record.metadata.createdAtUtc = .ok created)
    (hended : created.addDays 365 = some ended) :
    buildRetentionManifest default record LegalHoldService.samplePolicySet =
      .ok (draftRetentionManifest default record.metadata officePolicy created (some ended)) := by
  have hfound : LegalHoldService.samplePolicySet.policy "office" = .ok officePolicy := by decide
  have hvalid : officePolicy.validate = .ok officePolicy := by decide
  have huntil : retainUntil created officePolicy.retentionDays = .ok (some ended) := by
    have hdays : officePolicy.retentionDays = some 365 := rfl
    rw [hdays]
    unfold retainUntil
    dsimp only
    rw [hended]
  have happlies : officePolicy.appliesTo record = true := by
    simp [RetentionPolicyDefault.appliesTo, hstate, hclass, htype, officePolicy,
      LegalHoldService.samplePolicyDefault]
  refine buildRetentionManifest_of_policy default hvalid (by rw [hpolicy]; exact hfound) ?_
    happlies (fun _ => rfl) hcreated huntil
  simp [recordRequiresWorm, hstate, hclass, SourceLifecycleState.isRecord, DataClass.isRecord]

theorem fractionShred_texts :
    Text.strip "2026-01-05T09:00:00.500000Z" = "2026-01-05T09:00:00.500000Z" ∧
      isUtcTimestamp "2026-01-05T09:00:00.500000Z" = true ∧
      Text.strip "2027-01-05T09:00:00.250000Z" = "2027-01-05T09:00:00.250000Z" ∧
      isUtcTimestamp "2027-01-05T09:00:00.250000Z" = true := by decide +kernel

theorem fractionRecord_valid :
    fractionRecord.metadata.validate = .ok fractionRecord.metadata := by
  obtain ⟨hstrip, htime, -⟩ := fractionShred_texts
  obtain ⟨hnormal, herrors, hrules⟩ := SourceObjectMetadata.validate_self.mp
    (@sampleRecord_metadata "doc-1" (by simp))
  obtain ⟨h1, h2, h3, h4, h5, h6, -, h8, h9, h10, -, h12, h13, h14, h15, h16, h17, h18⟩ :=
    SourceObjectMetadata.errors_eq_nil.mp herrors
  have hmanifest : isNamespacedRef fractionRecord.metadata.manifestHash = true :=
    isNamespacedRef_hashJson _
  refine SourceObjectMetadata.validate_self.mpr ⟨?_, ?_, hrules⟩
  · have hfields := SourceObjectMetadata.ext_iff.mp hnormal
    obtain ⟨e1, e2, e3, e4, e5, e6, e7, -, e9, e10, e11, e12, e13, -, e15, e16, e17, e18, e19,
      e20, e21, e22, e23, e24, e25, e26⟩ := hfields
    exact SourceObjectMetadata.ext e1 e2 e3 e4 e5 e6 e7 hstrip e9 e10 e11 e12 e13
      (strip_computeContentHash _) e15 e16 e17 e18 e19 e20 e21 e22 e23 e24 e25 e26
  · exact SourceObjectMetadata.errors_eq_nil.mpr ⟨h1, h2, h3, h4, h5, h6, htime, h8, h9, h10,
      hmanifest, h12, h13, h14, h15, h16, h17, h18⟩

theorem fractionShred_valid : fractionShred.validate = .ok fractionShred := by
  obtain ⟨-, -, hstrip, htime⟩ := fractionShred_texts
  obtain ⟨herrors, hnormal⟩ := accept_eq_ok.mp CustodyServices.sampleShred_valid
  rw [hnormal] at herrors
  obtain ⟨h1, h2, h3, h4, h5, h6, h7, -, h9⟩ := CryptoshredSimulationRequest.errors_eq_nil.mp herrors
  have e1 := congrArg CryptoshredSimulationRequest.tenantId hnormal
  have e2 := congrArg CryptoshredSimulationRequest.objectId hnormal
  have e3 := congrArg CryptoshredSimulationRequest.sourceVersionId hnormal
  have e4 := congrArg CryptoshredSimulationRequest.requestedBy hnormal
  have e5 := congrArg CryptoshredSimulationRequest.approvedBy hnormal
  have e6 := congrArg CryptoshredSimulationRequest.approvalRef hnormal
  have e7 := congrArg CryptoshredSimulationRequest.auditChainRef hnormal
  have e9 := congrArg CryptoshredSimulationRequest.reason hnormal
  simp only [CryptoshredSimulationRequest.normalized] at e1 e2 e3 e4 e5 e6 e7 e9
  have hself : fractionShred.normalized = fractionShred := by
    simp only [CryptoshredSimulationRequest.normalized, fractionShred, e1, e2, e3, e4, e5, e6, e7,
      e9, hstrip]
  refine accept_eq_ok.mpr ⟨?_, hself⟩
  rw [hself]
  exact CryptoshredSimulationRequest.errors_eq_nil.mpr ⟨h1, h2, h3, h4, h5, h6, h7, htime, h9⟩

theorem fractionShred_allowed : fractionShred.requireCryptoshredAllowed = .ok () := by
  refine requireCryptoshredAllowed_eq_ok.mpr ⟨?_, ?_, ?_, ?_, .inr ?_⟩
  · rw [show fractionShred.record.metadata.legalHoldState = .none from rfl,
      show fractionShred.retentionManifest.legalHoldState = .none from rfl]
    simp
  · rw [show fractionShred.record.metadata.classification = .internal from rfl]
    decide
  · rw [show fractionShred.record.metadata.lifecycleState = .working from rfl]
    decide
  · rw [show fractionShred.retentionManifest.deletionBlocked = false from rfl,
      show fractionShred.retentionManifest.wormRequired = false from rfl]
    simp
  · -- the manifest's text of the end has lost the half second
    have huntil : fractionShred.retentionManifest.retainUntilUtc = some "2027-01-05T09:00:00Z" := by
      show some (toUtcIso ⟨⟨2027, 1, 5, by decide⟩, 9, 0, 0, 500000, some 0⟩) = _
      decide +kernel
    unfold CryptoshredSimulationRequest.requireRetentionEnded
    rw [huntil]
    decide +kernel

theorem fractionShred_shreddable :
    requireShreddable fractionShred = .ok (destroyCommand fractionShred) := by
  obtain ⟨-, -, hstrip, htime⟩ := fractionShred_texts
  have hrecord : fractionShred.requireMatchesRecord = .ok () := require_eq_ok.mpr rfl
  have hmanifest : fractionShred.requireRetentionManifestMatchesRecord = .ok () :=
    CryptoshredSimulationRequest.requireRetentionManifestMatchesRecord_draft rfl rfl
  have hsample := CustodyServices.sampleShred_shreddable
  obtain ⟨_, -, hsample⟩ := Except.bind_eq_ok.mp hsample
  obtain ⟨_, -, hsample⟩ := Except.bind_eq_ok.mp hsample
  obtain ⟨_, -, hsample⟩ := Except.bind_eq_ok.mp hsample
  obtain ⟨herrors, hnormal⟩ := KmsDestroyKeyCommand.validate_eq_ok.mp hsample
  rw [hnormal] at herrors
  obtain ⟨h1, h2, h3, h4, h5, h6, h7, h8, h9, -, h11⟩ := KmsDestroyKeyCommand.errors_eq_nil.mp herrors
  obtain ⟨e1, e2, e3, e4, e5, e6, e7, e8, e9, e10, -, e12⟩ := KmsDestroyKeyCommand.ext_iff.mp hnormal
  have hself : (destroyCommand fractionShred).normalized = destroyCommand fractionShred :=
    KmsDestroyKeyCommand.ext e1 e2 e3 e4 e5 e6 e7 e8 e9 e10 hstrip e12
  have hcommand : (destroyCommand fractionShred).validate = .ok (destroyCommand fractionShred) := by
    refine KmsDestroyKeyCommand.validate_eq_ok.mpr ⟨?_, hself⟩
    rw [hself]
    exact KmsDestroyKeyCommand.errors_eq_nil.mpr ⟨h1, h2, h3, h4, h5, h6, h7, h8, h9, htime, h11⟩
  unfold requireShreddable
  rw [hrecord, hmanifest, fractionShred_allowed]
  exact hcommand

theorem fractionShred_returns :
    ∃ result kms', simulate default fractionShred sampleKms = (.ok result, kms') := by
  refine @simulate_isOk default fractionShred (destroyCommand fractionShred) sampleKms sampleKeyRef
    { dataClass := .internal, rotationPeriodDays := 365, cryptoshredAllowed := true }
    fractionShred_shreddable sampleKms_accepts (by decide) (by decide) fun destruction draft hdraft => ?_
  have hsnapshot : fractionShred.retentionManifest.policySnapshotHash =
      buildPolicySnapshotHash default officePolicy := rfl
  refine draftManifest_isOk fractionShred_valid fractionRecord_valid ?_ ?_ ?_
  · rw [buildRetentionManifestHash, RetentionManifest.payload, isNamespacedRef_hashJson]
  · rw [hsnapshot, buildPolicySnapshotHash, RetentionPolicyDefault.payload, hashJson,
      strip_computeContentHash, ← hashJson, isNamespacedRef_hashJson]
  · rw [hdraft, buildKmsOperationEvidenceHash, KmsOperationEvidence.payload, hashJson,
      strip_computeContentHash, ← hashJson, isNamespacedRef_hashJson]

/-- A record kept for 365 days from half past a second on is shredded a quarter of
a second before these are over. -/
theorem shred_within_final_second :
    fractionShred.validate = .ok fractionShred ∧
      fractionRecord.metadata.validate = .ok fractionRecord.metadata ∧
      buildRetentionManifest default fractionShred.record LegalHoldService.samplePolicySet =
        .ok fractionShred.retentionManifest ∧
      (∃ result kms', simulate default fractionShred sampleKms = (.ok result, kms')) ∧
      ¬ fractionShred.Justified LegalHoldService.samplePolicySet := by
  have hcreated : retentionParseUtc fractionShred.record.metadata.createdAtUtc =
      .ok ⟨⟨2026, 1, 5, by decide⟩, 9, 0, 0, 500000, some 0⟩ := by
    show retentionParseUtc "2026-01-05T09:00:00.500000Z" = _
    decide +kernel
  have hoccurred : parseTimestamp fractionShred.occurredAtUtc =
      .ok ⟨⟨2027, 1, 5, by decide⟩, 9, 0, 0, 250000, some 0⟩ := by
    show parseTimestamp "2027-01-05T09:00:00.250000Z" = _
    decide +kernel
  refine ⟨fractionShred_valid, fractionRecord_valid, ?_, fractionShred_returns, ?_⟩
  · exact officeManifest_built rfl rfl rfl rfl hcreated (by decide +kernel)
  · intro hjustified
    obtain ⟨policy, hpolicy, -, hwhen⟩ := hjustified.due
    have hfound : LegalHoldService.samplePolicySet.policy "office" = .ok officePolicy := by decide
    rw [show fractionShred.record.metadata.retentionPolicyId = "office" from rfl, hfound] at hpolicy
    cases hpolicy
    rcases hwhen with hearly | ⟨days, created, occurred, hdays, hcreated', hoccurred', hle⟩
    · cases hearly
    · rw [hcreated] at hcreated'
      rw [hoccurred] at hoccurred'
      cases hdays
      cases hcreated'
      cases hoccurred'
      revert hle
      decide +kernel

/-- The sample's shred, which comes weeks after the retention has ended. -/
theorem sampleShred_justified :
    CustodyServices.sampleShred.Justified LegalHoldService.samplePolicySet ↔
      ¬ CustodyServices.sampleShred.WithinFinalSecond LegalHoldService.samplePolicySet := by
  have hcreated : retentionParseUtc CustodyServices.sampleShred.record.metadata.createdAtUtc =
      .ok ⟨⟨2026, 1, 5, by decide⟩, 9, 0, 0, 0, some 0⟩ := by
    show retentionParseUtc "2026-01-05T09:00:00Z" = _
    decide +kernel
  have hbuilt : buildRetentionManifest default CustodyServices.sampleShred.record
      LegalHoldService.samplePolicySet = .ok CustodyServices.sampleShred.retentionManifest :=
    officeManifest_built rfl rfl rfl rfl hcreated (by decide +kernel)
  obtain ⟨-, result, kms', hshred⟩ := @CustodyServices.sampleShred_shreds
    ⟨LegalHoldService.sampleStart, sampleKms, []⟩ rfl sampleKms_accepts
  exact shred_justified_iff hbuilt hshred

end LocalCryptoshredSimulator

end Collabio
