import Mathlib.Tactic
import Collabio.Operations.RestoreDrillSpec

/-!
# Restore outcomes over time

One adapter, any calls on it, any shreds and any drills, in any order. The two kinds
of drill read different evidence; they meet in the destroyed references, which only
grow.

* `shredKeysDestroyed_run`    — manifests of the simulator and storage manifests
  reported unrecoverable name destroyed references, after every run;
* `restore_outcomes_exclusive` — none of the latter is ever reported restored again.
-/

namespace Collabio

variable {H : HashFunctions}

/-! ## What a shred and its drill leave behind -/

/-- The manifest of a shred names the reference under which the key was destroyed. -/
theorem LocalCryptoshredSimulator.kmsKeyRef_of_simulate {request : CryptoshredSimulationRequest}
    {kms kms' : LocalKmsAdapter} {result : CryptoshredSimulationResult}
    (h : simulate H request kms = (.ok result, kms')) :
    result.manifest.kmsKeyRef = Text.strip request.record.metadata.kmsKeyRef := by
  unfold simulate at h
  obtain ⟨command, _, -, h⟩ := Eff.bind_eq_ok.mp h
  obtain ⟨destruction, _, -, h⟩ := Eff.bind_eq_ok.mp h
  obtain ⟨draft, _, hdraft, h⟩ := Eff.bind_eq_ok.mp h
  simp only [Eff.lift_apply, Prod.mk.injEq] at hdraft
  obtain ⟨accepted, haccept, hdraft⟩ := Except.bind_eq_ok.mp hdraft.1
  obtain ⟨-, hdraft⟩ := Except.unit_bind_eq_ok.mp hdraft
  cases hdraft
  cases h
  rw [← (accept_eq_ok.mp haccept).2]
  rfl

/-- A report of an unrecoverable object has compared the references of both manifests. -/
theorem RestoreDrillRunner.kmsKeyRef_of_unrecoverable
    {command : CryptoshreddedObjectRestoreDrillCommand} {report : RestoreDrillReport}
    (h : verifyCryptoshreddedObjectRestore H command = .ok report) :
    command.cryptoshredManifest.kmsKeyRef = command.storageManifest.kmsKeyRef := by
  obtain ⟨-, h⟩ := Except.unit_bind_eq_ok.mp h
  obtain ⟨-, h⟩ := Except.unit_bind_eq_ok.mp h
  obtain ⟨-, h⟩ := Except.unit_bind_eq_ok.mp h
  obtain ⟨hmatches, -⟩ := Except.unit_bind_eq_ok.mp h
  obtain ⟨-, hmatches⟩ := require_bind_eq_ok.mp hmatches
  obtain ⟨hagree, -⟩ := Except.unit_bind_eq_ok.mp hmatches
  have hall := requireAgreement_eq_ok.mp hagree
  simp only [List.all_cons, List.all_nil, Bool.and_true, Bool.and_eq_true,
    decide_eq_true_eq] at hall
  exact hall.2.2.2.2.2.2.2.1

/-- A drill that returns for an encrypted object used the key its storage manifest names. -/
theorem RestoreDrillRunner.kept_of_restored {runner : RestoreDrillRunner} {kms : LocalKmsAdapter}
    {command : EncryptedObjectRestoreDrillCommand} {report : RestoreDrillReport}
    (h : runner.verifyEncryptedObjectRestore H kms command = .ok report) :
    Text.strip command.storageManifest.kmsKeyRef ∉ kms.destroyedKeyRefs := by
  obtain ⟨_, _, request, _, _, -, -, -, -, hrequest, hdecryption, -⟩ :=
    verifyEncryptedObjectRestore_eq_ok.mp h
  have hkept := kept_of_decrypt hdecryption
  rwa [kmsKeyRef_of_validate hrequest] at hkept

/-- A report of a drill of an encrypted object says restored. -/
theorem RestoreDrillRunner.status_of_restored {runner : RestoreDrillRunner}
    {kms : LocalKmsAdapter} {command : EncryptedObjectRestoreDrillCommand}
    {report : RestoreDrillReport}
    (h : runner.verifyEncryptedObjectRestore H kms command = .ok report) :
    report.status = .restored := by
  obtain ⟨_, _, _, _, draft, -, -, -, -, -, -, -, -, hdraft, rfl⟩ :=
    verifyEncryptedObjectRestore_eq_ok.mp h
  obtain ⟨accepted, haccept, hdraft⟩ := Except.bind_eq_ok.mp hdraft
  obtain ⟨-, hdraft⟩ := Except.unit_bind_eq_ok.mp hdraft
  cases hdraft
  rw [← (accept_eq_ok.mp haccept).2]
  rfl

/-- The model of a drill command leaves its manifests alone. -/
theorem CryptoshreddedObjectRestoreDrillCommand.manifests_of_validate
    {raw command : CryptoshreddedObjectRestoreDrillCommand} (h : raw.validate = .ok command) :
    command.storageManifest = raw.storageManifest ∧
      command.cryptoshredManifest = raw.cryptoshredManifest := by
  rw [← (accept_eq_ok.mp h).2]
  simp only [RestoreDrillCommandBase.normalized, and_self]

theorem EncryptedObjectRestoreDrillCommand.storageManifest_of_validate
    {raw command : EncryptedObjectRestoreDrillCommand} (h : raw.validate = .ok command) :
    command.storageManifest = raw.storageManifest := by
  rw [← (accept_eq_ok.mp h).2]
  simp only [RestoreDrillCommandBase.normalized]

/-! ## The system -/

/-- What happens on one adapter. -/
inductive DrillEvent where
  | kms (call : KmsCall)
  | shred (raw : CryptoshredSimulationRequest)
  | drillShredded (raw : CryptoshreddedObjectRestoreDrillCommand)
  | drillEncrypted (runner : RestoreDrillRunner) (raw : EncryptedObjectRestoreDrillCommand)

/-- The adapter, the manifests that the simulator returned, and the outcomes of the
drills that returned, with the storage manifests they were about. -/
structure DrillHistory where
  kms      : LocalKmsAdapter
  shredded : List CryptoshredSimulationManifest := []
  outcomes : List (StorageObjectManifest × RestoreDrillStatus) := []

namespace DrillHistory

/-- The outcome of a drill, if it returned one. -/
def record (s : DrillHistory) (storageManifest : StorageObjectManifest) :
    Except Exn RestoreDrillReport → DrillHistory
  | .ok report => { s with outcomes := (storageManifest, report.status) :: s.outcomes }
  | .error _ => s

/-- A drill of a shredded object takes place with a manifest the simulator returned. -/
def step (H : HashFunctions) (s : DrillHistory) : DrillEvent → DrillHistory
  | .kms call => { s with kms := call.step H s.kms }
  | .shred raw =>
    match raw.validate with
    | .error _ => s
    | .ok request =>
      match LocalCryptoshredSimulator.simulate H request s.kms with
      | (.ok result, kms) => { s with kms, shredded := result.manifest :: s.shredded }
      | (.error _, kms) => { s with kms }
  | .drillShredded raw =>
    if raw.cryptoshredManifest ∈ s.shredded then
      s.record raw.storageManifest
        (raw.validate >>= RestoreDrillRunner.verifyCryptoshreddedObjectRestore H)
    else s
  | .drillEncrypted runner raw =>
    s.record raw.storageManifest
      (raw.validate >>= runner.verifyEncryptedObjectRestore H s.kms)

/-- Whatever was shredded, or reported unrecoverable, names a destroyed reference. -/
structure ShredKeysDestroyed (s : DrillHistory) : Prop where
  shredded : ∀ manifest ∈ s.shredded, Text.strip manifest.kmsKeyRef ∈ s.kms.destroyedKeyRefs
  reported : ∀ storageManifest, (storageManifest, .unrecoverableByPolicy) ∈ s.outcomes →
               Text.strip storageManifest.kmsKeyRef ∈ s.kms.destroyedKeyRefs

/-- More destroyed references do no harm. -/
theorem ShredKeysDestroyed.mono {s : DrillHistory} {kms : LocalKmsAdapter}
    (h : s.ShredKeysDestroyed) (hgrows : s.kms.destroyedKeyRefs ⊆ kms.destroyedKeyRefs) :
    ({ s with kms } : DrillHistory).ShredKeysDestroyed :=
  ⟨fun manifest hmem => hgrows (h.shredded manifest hmem),
    fun storageManifest hmem => hgrows (h.reported storageManifest hmem)⟩

/-- A storage manifest reported unrecoverable names the reference of a shred. -/
theorem ShredKeysDestroyed.destroyed_of_drill {s : DrillHistory} (h : s.ShredKeysDestroyed)
    {raw : CryptoshreddedObjectRestoreDrillCommand} {report : RestoreDrillReport}
    (hreturned : raw.cryptoshredManifest ∈ s.shredded)
    (hdrill : (raw.validate >>= RestoreDrillRunner.verifyCryptoshreddedObjectRestore H) =
      .ok report) :
    Text.strip raw.storageManifest.kmsKeyRef ∈ s.kms.destroyedKeyRefs := by
  obtain ⟨command, hvalid, hreport⟩ := Except.bind_eq_ok.mp hdrill
  obtain ⟨hstorage, hshred⟩ :=
    CryptoshreddedObjectRestoreDrillCommand.manifests_of_validate hvalid
  have hcompared := RestoreDrillRunner.kmsKeyRef_of_unrecoverable hreport
  rw [hstorage, hshred] at hcompared
  rw [← hcompared]
  exact h.shredded _ hreturned

theorem destroyed_of_simulate (request : CryptoshredSimulationRequest) (kms : LocalKmsAdapter) :
    kms.destroyedKeyRefs ⊆
      (LocalCryptoshredSimulator.simulate H request kms).2.destroyedKeyRefs := by
  rcases LocalCryptoshredSimulator.simulate_state (H := H) request kms with hkms | ⟨ref, hkms⟩
  · rw [hkms]
  · rw [hkms]
    exact Finset.subset_insert _ _

/-- **One step** keeps it. -/
theorem shredKeysDestroyed_step (s : DrillHistory) (event : DrillEvent)
    (h : s.ShredKeysDestroyed) : (s.step H event).ShredKeysDestroyed := by
  cases event with
  | kms call => exact h.mono (KmsCall.destroyed_step H s.kms call)
  | shred raw =>
    unfold step
    dsimp only
    cases hvalid : raw.validate with
    | error exn => exact h
    | ok request =>
      dsimp only
      have hgrows := @destroyed_of_simulate H request s.kms
      rcases hsimulate : LocalCryptoshredSimulator.simulate H request s.kms with
        ⟨exn | result, kms⟩
      · rw [hsimulate] at hgrows
        exact h.mono hgrows
      · rw [hsimulate] at hgrows
        have hkept := h.mono hgrows
        refine ⟨?_, hkept.reported⟩
        intro manifest hmem
        rcases List.mem_cons.mp hmem with rfl | hmem
        · -- the new manifest names what this shred has just destroyed
          show Text.strip result.manifest.kmsKeyRef ∈ kms.destroyedKeyRefs
          rw [LocalCryptoshredSimulator.simulate_eq_ok hsimulate,
            LocalCryptoshredSimulator.kmsKeyRef_of_simulate hsimulate, Text.strip_strip]
          exact Finset.mem_insert_self _ _
        · exact hkept.shredded manifest hmem
  | drillShredded raw =>
    unfold step
    dsimp only
    split
    · rename_i hreturned
      cases hdrill : raw.validate >>= RestoreDrillRunner.verifyCryptoshreddedObjectRestore H with
      | error exn => exact h
      | ok report =>
        refine ⟨h.shredded, ?_⟩
        intro storageManifest hmem
        rcases List.mem_cons.mp hmem with hsame | hmem
        · -- a report of a shredded object stands on a manifest recorded by an earlier shred
          have hmanifest : storageManifest = raw.storageManifest := congrArg Prod.fst hsame
          rw [hmanifest]
          exact h.destroyed_of_drill hreturned hdrill
        · exact h.reported storageManifest hmem
    · exact h
  | drillEncrypted runner raw =>
    unfold step
    dsimp only
    cases hdrill : raw.validate >>= runner.verifyEncryptedObjectRestore H s.kms with
    | error exn => exact h
    | ok report =>
      refine ⟨h.shredded, ?_⟩
      intro storageManifest hmem
      rcases List.mem_cons.mp hmem with hsame | hmem
      · -- a restored object is never reported as unrecoverable
        obtain ⟨command, -, hreport⟩ := Except.bind_eq_ok.mp hdrill
        have hstatus : RestoreDrillStatus.unrecoverableByPolicy = report.status :=
          congrArg Prod.snd hsame
        rw [RestoreDrillRunner.status_of_restored hreport] at hstatus
        cases hstatus
      · exact h.reported storageManifest hmem

/-- The history of an adapter nothing has happened on yet. -/
def start (kms : LocalKmsAdapter) : DrillHistory := { kms }

theorem shredKeysDestroyed_run (kms : LocalKmsAdapter) (events : List DrillEvent) :
    (Runs.run (step H) (start kms) events).ShredKeysDestroyed := by
  have hstart : (start kms).ShredKeysDestroyed :=
    ⟨fun _ hmem => absurd hmem List.not_mem_nil, fun _ hmem => absurd hmem List.not_mem_nil⟩
  exact Runs.always_last (Runs.always_of_invariant shredKeysDestroyed_step hstart events)

/-- Outcomes are never taken back. -/
theorem outcomes_step (s : DrillHistory) (event : DrillEvent) :
    s.outcomes ⊆ (s.step H event).outcomes := by
  have hrecord : ∀ storageManifest result, s.outcomes ⊆ (s.record storageManifest result).outcomes :=
    fun storageManifest result => by
      cases result with
      | error exn => exact List.Subset.refl _
      | ok report => exact List.subset_cons_self _ _
  cases event with
  | kms call => exact List.Subset.refl _
  | shred raw =>
    unfold step
    dsimp only
    split
    · exact List.Subset.refl _
    · split <;> exact List.Subset.refl _
  | drillShredded raw =>
    unfold step
    dsimp only
    split
    · exact hrecord _ _
    · exact List.Subset.refl _
  | drillEncrypted runner raw =>
    unfold step
    exact hrecord raw.storageManifest _

theorem outcomes_run (s : DrillHistory) (events : List DrillEvent) :
    s.outcomes ⊆ (Runs.run (step H) s events).outcomes := by
  intro outcome hmem
  exact Runs.always_last (Runs.always_of_invariant
    (fun s event hkept => outcomes_step s event hkept) hmem events)

/-- **Restore outcomes are exclusive over time.** In no run is a storage manifest
reported unrecoverable by policy, and then, in the same or a later state, reported
restored by a drill, whatever runner, envelope, ciphertext or other evidence the
drill is given. -/
theorem restore_outcomes_exclusive (kms : LocalKmsAdapter) (events later : List DrillEvent)
    (runner : RestoreDrillRunner) (raw : EncryptedObjectRestoreDrillCommand)
    (report : RestoreDrillReport) :
    ¬ ((raw.storageManifest, RestoreDrillStatus.unrecoverableByPolicy) ∈
          (Runs.run (step H) (start kms) events).outcomes ∧
        (raw.validate >>= runner.verifyEncryptedObjectRestore H
          (Runs.run (step H) (start kms) (events ++ later)).kms) = .ok report ∧
        report.status = .restored) := by
  rintro ⟨hunrecoverable, hdrill, -⟩
  have hlater : (raw.storageManifest, RestoreDrillStatus.unrecoverableByPolicy) ∈
      (Runs.run (step H) (start kms) (events ++ later)).outcomes := by
    rw [Runs.run_append]
    exact outcomes_run _ later hunrecoverable
  have hdestroyed := (@shredKeysDestroyed_run H kms (events ++ later)).reported _ hlater
  obtain ⟨command, hvalid, hreport⟩ := Except.bind_eq_ok.mp hdrill
  have hkept := RestoreDrillRunner.kept_of_restored hreport
  rw [EncryptedObjectRestoreDrillCommand.storageManifest_of_validate hvalid] at hkept
  exact hkept hdestroyed

end DrillHistory

end Collabio
