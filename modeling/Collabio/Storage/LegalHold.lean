import Mathlib.Tactic
import Collabio.Storage.Retention

/-!
# Legal hold transitions

A hold is placed and released by storing a new version of an object: a copy of
the version the command names, with another hold state. The service keeps no
list of holds; `hold_id` is only copied into the decision.
-/

namespace Collabio

inductive LegalHoldAction where
  | placed | released
  deriving DecidableEq, Repr

def LegalHoldAction.value : LegalHoldAction → String
  | .placed => "placed"
  | .released => "released"

/-! ## Commands -/

@[ext] structure LegalHoldCommandBase where
  tenantId        : String
  objectId        : String
  sourceVersionId : String
  newVersionId    : String
  holdId          : String
  matterId        : String
  requestedBy     : String
  approvedBy      : String
  auditChainRef   : String
  occurredAtUtc   : String
  deriving DecidableEq, Repr

namespace LegalHoldCommandBase

def normalized (command : LegalHoldCommandBase) : LegalHoldCommandBase where
  tenantId := Text.strip command.tenantId
  objectId := Text.strip command.objectId
  sourceVersionId := Text.strip command.sourceVersionId
  newVersionId := Text.strip command.newVersionId
  holdId := Text.strip command.holdId
  matterId := Text.strip command.matterId
  requestedBy := Text.strip command.requestedBy
  approvedBy := Text.strip command.approvedBy
  auditChainRef := Text.strip command.auditChainRef
  occurredAtUtc := Text.strip command.occurredAtUtc

def errors (command : LegalHoldCommandBase) : List FieldError :=
  requireNonEmpty "tenant_id" command.tenantId ++
    requireNonEmpty "object_id" command.objectId ++
    requireNonEmpty "source_version_id" command.sourceVersionId ++
    requireNonEmpty "new_version_id" command.newVersionId ++
    requireNonEmpty "hold_id" command.holdId ++
    requireNonEmpty "matter_id" command.matterId ++
    requireNonEmpty "requested_by" command.requestedBy ++
    requireNonEmpty "approved_by" command.approvedBy ++
    requireNamespacedRef "audit_chain_ref" command.auditChainRef ++
    requireParsedUtc "occurred_at_utc" "occurred_at_utc must be UTC" command.occurredAtUtc

/-- `require_new_version`. -/
def requireNewVersion (model : String) (command : LegalHoldCommandBase) : Except Exn Unit :=
  requireModel model (command.newVersionId ≠ command.sourceVersionId)
    "new_version_id must differ from source_version_id"

end LegalHoldCommandBase

structure PlaceLegalHoldCommand extends LegalHoldCommandBase where
  reason : String
  deriving DecidableEq, Repr

/-- `require_reason`: an emptiness check with a text of its own. -/
def requireReason (reason : String) : List FieldError :=
  if reason = "" then [⟨"reason", .message "reason must not be empty"⟩] else []

namespace PlaceLegalHoldCommand

def normalized (command : PlaceLegalHoldCommand) : PlaceLegalHoldCommand where
  toLegalHoldCommandBase := command.toLegalHoldCommandBase.normalized
  reason := Text.strip command.reason

def validate (command : PlaceLegalHoldCommand) : Except Exn PlaceLegalHoldCommand := do
  let model := "PlaceLegalHoldCommand"
  let command ← accept model
    (command.normalized.errors ++ requireReason command.normalized.reason) command.normalized
  command.requireNewVersion model
  return command

end PlaceLegalHoldCommand

structure ReleaseLegalHoldCommand extends LegalHoldCommandBase where
  releaseReason         : String
  nextRetentionPolicyId : String
  deriving DecidableEq, Repr

namespace ReleaseLegalHoldCommand

def normalized (command : ReleaseLegalHoldCommand) : ReleaseLegalHoldCommand where
  toLegalHoldCommandBase := command.toLegalHoldCommandBase.normalized
  releaseReason := Text.strip command.releaseReason
  nextRetentionPolicyId := Text.strip command.nextRetentionPolicyId

def validate (command : ReleaseLegalHoldCommand) : Except Exn ReleaseLegalHoldCommand := do
  let model := "ReleaseLegalHoldCommand"
  let command ← accept model
    (command.normalized.errors ++
      requireNonEmpty "release_reason" command.normalized.releaseReason ++
      requireNonEmpty "next_retention_policy_id" command.normalized.nextRetentionPolicyId)
    command.normalized
  command.requireNewVersion model
  return command

end ReleaseLegalHoldCommand

/-! ## The service -/

structure LegalHoldDecision where
  action            : LegalHoldAction
  tenantId          : String
  objectId          : String
  holdId            : String
  matterId          : String
  previousVersionId : String
  newVersionId      : String
  auditChainRef     : String
  record            : SourceObjectRecord
  retentionManifest : RetentionManifest
  deriving DecidableEq, Repr

/-- The service, less the repository it works on: its retention policies, which
are an accepted model. -/
structure LegalHoldService where
  retentionPolicy : RetentionManifestPolicy
  policy_valid    : retentionPolicy.validate = .ok retentionPolicy

variable (H : HashFunctions)

/-- The metadata `_copy_with_metadata` asks the model to accept. -/
def LegalHoldService.draftMetadata (metadata : SourceObjectMetadata)
    (command : LegalHoldCommandBase) (legalHoldState : LegalHoldState)
    (retentionPolicyId : String) : SourceObjectMetadata :=
  { metadata with
    versionId := command.newVersionId
    updatedAtUtc := command.occurredAtUtc
    retentionPolicyId := retentionPolicyId
    legalHoldState := legalHoldState
    auditChainRef := command.auditChainRef
    manifestHash := zeroHash }

namespace LegalHoldService

/-- `_copy_with_metadata`. -/
def copyWithMetadata (record : SourceObjectRecord) (command : LegalHoldCommandBase)
    (legalHoldState : LegalHoldState) (retentionPolicyId : String) :
    Except Exn SourceObjectRecord := do
  let draft ←
    (draftMetadata record.metadata command legalHoldState retentionPolicyId).validate
  SourceObjectRecord.validate { record with metadata := draft.withManifestHash H }

/-- `_decision`. -/
def decision (action : LegalHoldAction) (command : LegalHoldCommandBase)
    (record : SourceObjectRecord) (retentionManifest : RetentionManifest) : LegalHoldDecision where
  action := action
  tenantId := command.tenantId
  objectId := command.objectId
  holdId := command.holdId
  matterId := command.matterId
  previousVersionId := command.sourceVersionId
  newVersionId := command.newVersionId
  auditChainRef := command.auditChainRef
  record := record
  retentionManifest := retentionManifest

/-- What placing and releasing have in common once the source version is
accepted: copy it, store the copy, and only then build its retention manifest. -/
def storeTransition (service : LegalHoldService) (action : LegalHoldAction)
    (record : SourceObjectRecord) (command : LegalHoldCommandBase)
    (legalHoldState : LegalHoldState) (retentionPolicyId : String) :
    Eff Exn InMemorySourceObjectRepository LegalHoldDecision := do
  let copied ← Eff.lift (copyWithMetadata H record command legalHoldState retentionPolicyId)
  InMemorySourceObjectRepository.add H copied
  let manifest ← Eff.lift (buildRetentionManifest H copied service.retentionPolicy)
  return decision action command copied manifest

/-- `place_hold`. -/
def placeHold (service : LegalHoldService) (command : PlaceLegalHoldCommand) :
    Eff Exn InMemorySourceObjectRepository LegalHoldDecision := do
  let repository ← Eff.get
  let record ← Eff.lift
    (repository.get command.tenantId command.objectId command.sourceVersionId)
  Eff.lift (require (record.metadata.legalHoldState ≠ .active)
    (.legalHoldTransitionError "source object is already under active legal hold"))
  service.storeTransition H .placed record command.toLegalHoldCommandBase .active
    record.metadata.retentionPolicyId

/-- `release_hold`. -/
def releaseHold (service : LegalHoldService) (command : ReleaseLegalHoldCommand) :
    Eff Exn InMemorySourceObjectRepository LegalHoldDecision := do
  let repository ← Eff.get
  let record ← Eff.lift
    (repository.get command.tenantId command.objectId command.sourceVersionId)
  Eff.lift (require (record.metadata.legalHoldState = .active)
    (.legalHoldTransitionError "source object must be under active legal hold before release"))
  service.storeTransition H .released record command.toLegalHoldCommandBase .none
    command.nextRetentionPolicyId

end LegalHoldService

end Collabio
