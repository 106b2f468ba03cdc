import Mathlib.Tactic
import Collabio.Platform.BearerTokens
import Collabio.Platform.ObjectAcl

/-!
# Principals, roles and groups

The tables of the authorization administration, and the directory that reads them.

* `PgAuthzAdminStore`    — the upserts;
* `PgPrincipalDirectory` — the principal that the claims of a token name, and what it may read.
-/

namespace Collabio

/-! ## Commands -/

inductive PrincipalStatus where
  | active
  | disabled
  deriving DecidableEq, Repr

inductive MembershipStatus where
  | active
  | disabled
  | suspended
  deriving DecidableEq, Repr

inductive RoleStatus where
  | active
  | disabled
  | deprecated
  deriving DecidableEq, Repr

inductive GroupStatus where
  | active
  | disabled
  deriving DecidableEq, Repr

def PrincipalStatus.text : PrincipalStatus → String
  | .active => "active"
  | .disabled => "disabled"

def MembershipStatus.text : MembershipStatus → String
  | .active => "active"
  | .disabled => "disabled"
  | .suspended => "suspended"

def RoleStatus.text : RoleStatus → String
  | .active => "active"
  | .disabled => "disabled"
  | .deprecated => "deprecated"

def GroupStatus.text : GroupStatus → String
  | .active => "active"
  | .disabled => "disabled"

structure PrincipalUpsertCommand extends ApprovedAuthzAdminCommand where
  issuer      : String
  subject     : String
  userId      : String
  displayName : Option String := none
  email       : Option String := none
  status      : PrincipalStatus := .active
  deriving DecidableEq, Repr

structure PrincipalMembershipUpsertCommand extends ApprovedAuthzAdminCommand where
  issuer  : String
  subject : String
  status  : MembershipStatus := .active
  deriving DecidableEq, Repr

structure RoleUpsertCommand extends ApprovedAuthzAdminCommand where
  roleId      : String
  displayName : String
  description : Option String := none
  status      : RoleStatus := .active
  systemRole  : Bool := false
  deriving DecidableEq, Repr

structure GroupUpsertCommand extends ApprovedAuthzAdminCommand where
  groupId     : String
  displayName : String
  description : Option String := none
  status      : GroupStatus := .active
  deriving DecidableEq, Repr

structure PrincipalRoleAssignmentUpsertCommand extends ApprovedAuthzAdminCommand where
  issuer  : String
  subject : String
  roleId  : String
  status  : AssignmentStatus := .active
  deriving DecidableEq, Repr

structure PrincipalGroupMembershipUpsertCommand extends ApprovedAuthzAdminCommand where
  issuer  : String
  subject : String
  groupId : String
  status  : AssignmentStatus := .active
  deriving DecidableEq, Repr

/-! ## Tables -/

/-- The primary key of `tenant_principals` and of `tenant_principal_memberships`. -/
structure PrincipalKey where
  tenantId : String
  issuer   : String
  subject  : String
  deriving DecidableEq, Repr

/-- The primary key of a role that a principal is assigned, or of a group that it is in. -/
structure AssignmentKey extends PrincipalKey where
  assignedId : String
  deriving DecidableEq, Repr

structure TenantPrincipal where
  userId        : String
  displayName   : Option String
  email         : Option String
  status        : PrincipalStatus
  auditChainRef : String
  deriving DecidableEq, Repr

structure TenantPrincipalMembership where
  status        : MembershipStatus
  disabledAtUtc : Option Int
  auditChainRef : String
  deriving DecidableEq, Repr

structure TenantRole where
  displayName   : String
  description   : Option String
  status        : RoleStatus
  systemRole    : Bool
  auditChainRef : String
  deriving DecidableEq, Repr

structure TenantGroup where
  displayName   : String
  description   : Option String
  status        : GroupStatus
  auditChainRef : String
  deriving DecidableEq, Repr

/-- A row of `tenant_principal_role_assignments` or `tenant_principal_group_memberships`. -/
structure TenantAssignment where
  status        : AssignmentStatus
  revokedAtUtc  : Option Int
  auditChainRef : String
  deriving DecidableEq, Repr

/-- Roles and groups have the tenant and their own id for a key. -/
structure AuthzTables where
  principals       : Dict PrincipalKey TenantPrincipal := ∅
  memberships      : Dict PrincipalKey TenantPrincipalMembership := ∅
  roles            : Dict (String × String) TenantRole := ∅
  groups           : Dict (String × String) TenantGroup := ∅
  roleAssignments  : Dict AssignmentKey TenantAssignment := ∅
  groupMemberships : Dict AssignmentKey TenantAssignment := ∅
  objectAclEntries : ObjectAclEntries := ∅

/-- An upsert: what the database refuses it for, what it writes, and what it returns. -/
structure AuthzUpsert where
  refusal? : AuthzTables → Option Exn
  write    : AuthzTables → AuthzTables
  view     : AuthzMutationView

def AuthzUpsert.execute (upsert : AuthzUpsert) : Eff Exn AuthzTables AuthzMutationView :=
  fun tables =>
    match upsert.refusal? tables with
    | some exn => (.error exn, tables)
    | none => (.ok upsert.view, upsert.write tables)

/-- No text parameter may have a NUL character. -/
def hasNul (values : List String) : Bool :=
  values.any fun value => Char.ofNat 0 ∈ value.toList

/-- What the driver, the row-level policies and the CHECKs of the tables refuse, where the
`required` texts may not be empty. -/
def rowRefusal? (tenantId auditChainRef : String) (required optional : List String) :
    Option Exn :=
  if hasNul (tenantId :: auditChainRef :: required ++ optional) then
    some (.databaseError "DataError")
  else if tenantId = "" then some (.databaseError "InsufficientPrivilege")
  else if "" ∈ required ∨ isAuditChainRef auditChainRef = false then
    some (.databaseError "CheckViolation")
  else none

namespace AuthzTables

/-- `UNIQUE (tenant_id, user_id)` of `tenant_principals`. -/
def userRefusal? (tables : AuthzTables) (key : PrincipalKey) (userId : String) : Option Exn :=
  if ∃ item ∈ tables.principals.items, item.1.tenantId = key.tenantId ∧ item.1 ≠ key ∧
      item.2.userId = userId then
    some (.databaseError "UniqueViolation")
  else none

/-- The foreign key on `tenant_principals`. -/
def principalRefusal? (tables : AuthzTables) (key : PrincipalKey) : Option Exn :=
  if tables.principals.contains key then none else some (.databaseError "ForeignKeyViolation")

/-- The foreign key on `tenant_roles`. -/
def roleRefusal? (tables : AuthzTables) (tenantId roleId : String) : Option Exn :=
  if tables.roles.contains (tenantId, roleId) then none
  else some (.databaseError "ForeignKeyViolation")

/-- The foreign key on `tenant_groups`. -/
def groupRefusal? (tables : AuthzTables) (tenantId groupId : String) : Option Exn :=
  if tables.groups.contains (tenantId, groupId) then none
  else some (.databaseError "ForeignKeyViolation")

end AuthzTables

/-! ## Upserts -/

/-- `CASE WHEN status = 'revoked' THEN now() ELSE NULL END`. -/
def tenantAssignment (status : AssignmentStatus) (now : Int) (auditChainRef : String) :
    TenantAssignment where
  status := status
  revokedAtUtc := if status = .revoked then some now else none
  auditChainRef := auditChainRef

namespace PgAuthzAdminStore

variable (tenantId : String) (auditChainRef : String) (now : Int)

def principalRow (command : PrincipalUpsertCommand) : TenantPrincipal where
  userId := command.userId
  displayName := command.displayName
  email := command.email
  status := command.status
  auditChainRef := auditChainRef

def upsertPrincipal (command : PrincipalUpsertCommand) : AuthzUpsert where
  refusal? tables :=
    (rowRefusal? tenantId auditChainRef [command.issuer, command.subject, command.userId]
      (command.displayName.toList ++ command.email.toList)).or
      (tables.userRefusal? ⟨tenantId, command.issuer, command.subject⟩ command.userId)
  write tables := { tables with
    principals := tables.principals.set ⟨tenantId, command.issuer, command.subject⟩
      (principalRow auditChainRef command) }
  view := {
    tenantId
    resourceType := "tenant_principal"
    resourceId := command.issuer ++ ":" ++ command.subject
    status := command.status.text
    auditChainRef }

def membershipRow (command : PrincipalMembershipUpsertCommand) : TenantPrincipalMembership where
  status := command.status
  disabledAtUtc := if command.status = .active then none else some now
  auditChainRef := auditChainRef

def upsertMembership (command : PrincipalMembershipUpsertCommand) : AuthzUpsert where
  refusal? tables :=
    (rowRefusal? tenantId auditChainRef [command.issuer, command.subject] []).or
      (tables.principalRefusal? ⟨tenantId, command.issuer, command.subject⟩)
  write tables := { tables with
    memberships := tables.memberships.set ⟨tenantId, command.issuer, command.subject⟩
      (membershipRow auditChainRef now command) }
  view := {
    tenantId
    resourceType := "tenant_principal_membership"
    resourceId := command.issuer ++ ":" ++ command.subject
    status := command.status.text
    auditChainRef }

def roleRow (command : RoleUpsertCommand) : TenantRole where
  displayName := command.displayName
  description := command.description
  status := command.status
  systemRole := command.systemRole
  auditChainRef := auditChainRef

def upsertRole (command : RoleUpsertCommand) : AuthzUpsert where
  refusal? _ := rowRefusal? tenantId auditChainRef [command.roleId, command.displayName]
    command.description.toList
  write tables := { tables with
    roles := tables.roles.set (tenantId, command.roleId) (roleRow auditChainRef command) }
  view := {
    tenantId
    resourceType := "tenant_role"
    resourceId := command.roleId
    status := command.status.text
    auditChainRef }

def groupRow (command : GroupUpsertCommand) : TenantGroup where
  displayName := command.displayName
  description := command.description
  status := command.status
  auditChainRef := auditChainRef

def upsertGroup (command : GroupUpsertCommand) : AuthzUpsert where
  refusal? _ := rowRefusal? tenantId auditChainRef [command.groupId, command.displayName]
    command.description.toList
  write tables := { tables with
    groups := tables.groups.set (tenantId, command.groupId) (groupRow auditChainRef command) }
  view := {
    tenantId
    resourceType := "tenant_group"
    resourceId := command.groupId
    status := command.status.text
    auditChainRef }

def upsertRoleAssignment (command : PrincipalRoleAssignmentUpsertCommand) : AuthzUpsert where
  refusal? tables :=
    (rowRefusal? tenantId auditChainRef [command.issuer, command.subject, command.roleId] []).or
      ((tables.principalRefusal? ⟨tenantId, command.issuer, command.subject⟩).or
        (tables.roleRefusal? tenantId command.roleId))
  write tables := { tables with
    roleAssignments := tables.roleAssignments.set
      ⟨⟨tenantId, command.issuer, command.subject⟩, command.roleId⟩
      (tenantAssignment command.status now auditChainRef) }
  view := {
    tenantId
    resourceType := "tenant_principal_role_assignment"
    resourceId := command.issuer ++ ":" ++ command.subject ++ ":" ++ command.roleId
    status := command.status.text
    auditChainRef }

def upsertGroupMembership (command : PrincipalGroupMembershipUpsertCommand) : AuthzUpsert where
  refusal? tables :=
    (rowRefusal? tenantId auditChainRef [command.issuer, command.subject, command.groupId] []).or
      ((tables.principalRefusal? ⟨tenantId, command.issuer, command.subject⟩).or
        (tables.groupRefusal? tenantId command.groupId))
  write tables := { tables with
    groupMemberships := tables.groupMemberships.set
      ⟨⟨tenantId, command.issuer, command.subject⟩, command.groupId⟩
      (tenantAssignment command.status now auditChainRef) }
  view := {
    tenantId
    resourceType := "tenant_principal_group_membership"
    resourceId := command.issuer ++ ":" ++ command.subject ++ ":" ++ command.groupId
    status := command.status.text
    auditChainRef }

/-- The upsert of an entry, on its own table. -/
def upsertObjectAclEntry (command : ObjectAclEntryUpsertCommand) : AuthzUpsert :=
  let call : AclUpsertCall := ⟨tenantId, command, auditChainRef, now⟩
  { refusal? := fun _ => call.refusal?
    write := fun tables => { tables with
      objectAclEntries := tables.objectAclEntries.set call.key call.entry }
    view := {
      tenantId
      resourceType := "object_acl_entry"
      resourceId := command.objectType ++ ":" ++ command.objectId ++ ":" ++
        command.aclSubjectType.text ++ ":" ++ command.aclSubjectId ++ ":" ++
        command.permission.text ++ ":" ++ String.ofList (Text.natChars command.aclVersion.toNat)
      status := command.status.text
      auditChainRef } }

/-- It is the upsert of the table of entries, in which nothing else is written. -/
theorem execute_upsertObjectAclEntry (command : ObjectAclEntryUpsertCommand)
    (tables : AuthzTables) :
    (upsertObjectAclEntry tenantId auditChainRef now command).execute tables =
      (let (result, objectAclEntries) := AclUpsertCall.upsertObjectAclEntry
        ⟨tenantId, command, auditChainRef, now⟩ tables.objectAclEntries
      (result, { tables with objectAclEntries })) := by
  unfold AuthzUpsert.execute upsertObjectAclEntry AclUpsertCall.upsertObjectAclEntry
  dsimp only
  cases AclUpsertCall.refusal? ⟨tenantId, command, auditChainRef, now⟩ with
  | some exn => rfl
  | none => rfl

end PgAuthzAdminStore

/-! ## Calls -/

inductive AuthzAdminCommand where
  | principal (command : PrincipalUpsertCommand)
  | membership (command : PrincipalMembershipUpsertCommand)
  | role (command : RoleUpsertCommand)
  | group (command : GroupUpsertCommand)
  | roleAssignment (command : PrincipalRoleAssignmentUpsertCommand)
  | groupMembership (command : PrincipalGroupMembershipUpsertCommand)
  | objectAclEntry (command : ObjectAclEntryUpsertCommand)
  deriving DecidableEq, Repr

/-- A call of the store, and the time at which the database makes it. -/
structure AuthzAdminCall where
  tenantId      : String
  command       : AuthzAdminCommand
  auditChainRef : String
  now           : Int
  deriving DecidableEq, Repr

open PgAuthzAdminStore in
/-- The upsert that the call makes. -/
def AuthzAdminCall.upsert (call : AuthzAdminCall) : AuthzUpsert :=
  match call.command with
  | .principal command => upsertPrincipal call.tenantId call.auditChainRef command
  | .membership command => upsertMembership call.tenantId call.auditChainRef call.now command
  | .role command => upsertRole call.tenantId call.auditChainRef command
  | .group command => upsertGroup call.tenantId call.auditChainRef command
  | .roleAssignment command =>
    upsertRoleAssignment call.tenantId call.auditChainRef call.now command
  | .groupMembership command =>
    upsertGroupMembership call.tenantId call.auditChainRef call.now command
  | .objectAclEntry command =>
    upsertObjectAclEntry call.tenantId call.auditChainRef call.now command

namespace AuthzTables

/-- A call on the tables; one that raises leaves them as they were. -/
def step (tables : AuthzTables) (call : AuthzAdminCall) : AuthzTables :=
  (call.upsert.execute tables).2

end AuthzTables

/-! ## The directory -/

namespace PgPrincipalDirectory

variable (tables : AuthzTables)

/-- The principal that the claims name. -/
def keyOf (claims : VerifiedJwtClaims) : PrincipalKey :=
  ⟨claims.tenantId, claims.issuer, claims.subject⟩

/-- `_tenant_membership_for_subject`. -/
def tenantMembershipForSubject (key : PrincipalKey) : Except Exn TenantMembership :=
  match (tables.memberships.get? key).filter (·.status = .active) with
  | none => .error (.principalResolutionError
      "Principal is not an active member of the requested tenant")
  | some _ => .ok { tenantId := key.tenantId, active := true }

/-- The roles or groups that the principal is assigned, as far as they are enabled. -/
def assignedIds (assignments : Dict AssignmentKey TenantAssignment) (key : PrincipalKey)
    (enabled : String → Bool) : List String :=
  (assignments.items.filter fun item => item.1.toPrincipalKey = key && item.2.status = .active &&
    enabled item.1.assignedId).map fun item => item.1.assignedId

/-- `_active_role_ids`. -/
def activeRoleIds (key : PrincipalKey) : List String :=
  assignedIds tables.roleAssignments key fun roleId =>
    (tables.roles.get? (key.tenantId, roleId)).any (·.status = .active)

/-- `_active_group_ids`. -/
def activeGroupIds (key : PrincipalKey) : List String :=
  assignedIds tables.groupMemberships key fun groupId =>
    (tables.groups.get? (key.tenantId, groupId)).any (·.status = .active)

/-- `principal_for_claims`. -/
def principalForClaims (claims : VerifiedJwtClaims) : Except Exn PrincipalRecord := do
  require (hasNul [claims.tenantId, claims.issuer, claims.subject] = false)
    (.databaseError "DataError")
  match (tables.principals.get? (keyOf claims)).filter (·.status = .active) with
  | none => .error (.principalResolutionError "Principal is not registered")
  | some row =>
    let membership ← tenantMembershipForSubject tables (keyOf claims)
    return {
      issuer := claims.issuer
      subject := claims.subject
      userId := row.userId
      memberships := [{
        tenantId := membership.tenantId
        roleIds := activeRoleIds tables (keyOf claims)
        groupIds := activeGroupIds tables (keyOf claims)
        active := membership.active }] }

/-- `readable_object_ids`. -/
def readableObjectIds (tenantId userId : String) (roleIds groupIds : List String) :
    List String :=
  let principal : AclPrincipal := ⟨tenantId, userId, roleIds.toFinset, groupIds.toFinset⟩
  ((tables.objectAclEntries.items.filter fun item =>
    item.2.status = .active && principal.concerns item.1).map fun item => item.1.objectId).dedup

/-- `resolve_authorization_header` with this directory, once the token is verified;
`tenant_membership` is that of the other directory. -/
def resolveClaims (claims : VerifiedJwtClaims) : Except Exn UserContext := do
  let principal ← principalForClaims tables claims
  let membership ← InMemoryPrincipalDirectory.tenantMembership principal claims.tenantId
  return {
    userId := principal.userId
    tenantId := claims.tenantId
    roleIds := membership.roleIds
    readableObjectIds := readableObjectIds tables claims.tenantId principal.userId
      membership.roleIds membership.groupIds }

end PgPrincipalDirectory

end Collabio
