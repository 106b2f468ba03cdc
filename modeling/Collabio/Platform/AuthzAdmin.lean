import Mathlib.Tactic
import Collabio.Platform.Validation

/-!
# Commands of the authorization administration

Each command names the approval that it rests on and its reason; what a command is about
comes on top of these two.
-/

namespace Collabio

/-- `NAMESPACED_REF_PATTERN.fullmatch` of this module, whose schemes may begin with a digit. -/
def isApprovalReference (value : String) : Bool :=
  let scheme := value.toList.takeWhile isSchemeChar
  scheme.head?.any (fun c => Text.isAsciiLower c || Text.isAsciiDigit c) &&
    match value.toList.dropWhile isSchemeChar with
    | ':' :: rest => rest != [] && rest.all (· != '\n')
    | _ => false

structure ApprovedAuthzAdminCommand where
  approvalReference : String
  reason            : String
  deriving DecidableEq, Repr

namespace ApprovedAuthzAdminCommand

def normalized (command : ApprovedAuthzAdminCommand) : ApprovedAuthzAdminCommand where
  approvalReference := Text.strip command.approvalReference
  reason := Text.strip command.reason

def errors (command : ApprovedAuthzAdminCommand) : List FieldError :=
  (if isApprovalReference command.approvalReference then []
    else [⟨"approval_reference", .message "approval_reference must be a namespaced reference"⟩]) ++
  (if command.reason = "" then [⟨"reason", .message "reason must not be empty"⟩] else [])

end ApprovedAuthzAdminCommand

/-! ## Retention of replay tokens -/

structure JwtReplayRetentionPurgeCommand extends ApprovedAuthzAdminCommand where
  expiresBeforeEpoch : Int
  deriving DecidableEq, Repr

def JwtReplayRetentionPurgeCommand.validate (command : JwtReplayRetentionPurgeCommand) :
    Except Exn JwtReplayRetentionPurgeCommand :=
  let command := { command with
    toApprovedAuthzAdminCommand := command.toApprovedAuthzAdminCommand.normalized }
  accept "JwtReplayRetentionPurgeCommand"
    (command.errors ++ if 0 < command.expiresBeforeEpoch then []
      else [⟨"expires_before_epoch", .message "Input should be greater than 0"⟩]) command

/-! ## Access control lists -/

inductive AclSubjectType where
  | user
  | role
  | group
  deriving DecidableEq, Repr

inductive AclPermission where
  | read
  | write
  | admin
  deriving DecidableEq, Repr

inductive AssignmentStatus where
  | active
  | revoked
  deriving DecidableEq, Repr

structure ObjectAclEntryUpsertCommand extends ApprovedAuthzAdminCommand where
  objectId       : String
  objectType     : String
  aclSubjectType : AclSubjectType
  aclSubjectId   : String
  permission     : AclPermission
  aclVersion     : Int
  status         : AssignmentStatus := .active
  deriving DecidableEq, Repr

def ObjectAclEntryUpsertCommand.validate (command : ObjectAclEntryUpsertCommand) :
    Except Exn ObjectAclEntryUpsertCommand :=
  let command := { command with
    toApprovedAuthzAdminCommand := command.toApprovedAuthzAdminCommand.normalized
    objectId := Text.strip command.objectId
    objectType := Text.strip command.objectType
    aclSubjectId := Text.strip command.aclSubjectId }
  accept "ObjectAclEntryUpsertCommand"
    (command.errors ++ requireNonEmpty "object_id" command.objectId ++
      requireNonEmpty "object_type" command.objectType ++
      requireNonEmpty "acl_subject_id" command.aclSubjectId ++
      if 1 ≤ command.aclVersion then []
      else [⟨"acl_version", .message "Input should be greater than or equal to 1"⟩]) command

end Collabio
