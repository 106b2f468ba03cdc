import Mathlib.Tactic
import Collabio.Library.Upserts
import Collabio.Platform.PrincipalTables

/-!
# Principals after runs of the administration

What the directory makes of claims, after any calls of the administration.

* `resolved_by_log`      — who the claims resolve to, and what they may read, as the log of
  stored calls has it;
* `resolved_own_tenant`  — the calls for other tenants do not matter;
* `integrity_run`        — the references of the tables, and one principal for each user.
-/

namespace Collabio

open PgAuthzAdminStore PgPrincipalDirectory

/-! ## The rows that calls write -/

namespace AuthzAdminCall

def principalUpsert? (call : AuthzAdminCall) : Option (PrincipalKey × TenantPrincipal) :=
  match call.command with
  | .principal command => some (⟨call.tenantId, command.issuer, command.subject⟩,
      principalRow call.auditChainRef command)
  | _ => none

def membershipUpsert? (call : AuthzAdminCall) :
    Option (PrincipalKey × TenantPrincipalMembership) :=
  match call.command with
  | .membership command => some (⟨call.tenantId, command.issuer, command.subject⟩,
      membershipRow call.auditChainRef call.now command)
  | _ => none

def roleUpsert? (call : AuthzAdminCall) : Option ((String × String) × TenantRole) :=
  match call.command with
  | .role command => some ((call.tenantId, command.roleId), roleRow call.auditChainRef command)
  | _ => none

def groupUpsert? (call : AuthzAdminCall) : Option ((String × String) × TenantGroup) :=
  match call.command with
  | .group command => some ((call.tenantId, command.groupId), groupRow call.auditChainRef command)
  | _ => none

def roleAssignmentUpsert? (call : AuthzAdminCall) : Option (AssignmentKey × TenantAssignment) :=
  match call.command with
  | .roleAssignment command =>
    some (⟨⟨call.tenantId, command.issuer, command.subject⟩, command.roleId⟩,
      tenantAssignment command.status call.now call.auditChainRef)
  | _ => none

def groupMembershipUpsert? (call : AuthzAdminCall) : Option (AssignmentKey × TenantAssignment) :=
  match call.command with
  | .groupMembership command =>
    some (⟨⟨call.tenantId, command.issuer, command.subject⟩, command.groupId⟩,
      tenantAssignment command.status call.now call.auditChainRef)
  | _ => none

def aclUpsert? (call : AuthzAdminCall) : Option (ObjectAclKey × ObjectAclEntry) :=
  match call.command with
  | .objectAclEntry command =>
    let upsert : AclUpsertCall := ⟨call.tenantId, command, call.auditChainRef, call.now⟩
    some (upsert.key, upsert.entry)
  | _ => none

end AuthzAdminCall

open AuthzAdminCall

namespace AuthzTables

/-- What a call writes that is not refused. -/
def writeCall (tables : AuthzTables) (call : AuthzAdminCall) : AuthzTables where
  principals := Upserts.write principalUpsert? tables.principals call
  memberships := Upserts.write membershipUpsert? tables.memberships call
  roles := Upserts.write roleUpsert? tables.roles call
  groups := Upserts.write groupUpsert? tables.groups call
  roleAssignments := Upserts.write roleAssignmentUpsert? tables.roleAssignments call
  groupMemberships := Upserts.write groupMembershipUpsert? tables.groupMemberships call
  objectAclEntries := Upserts.write aclUpsert? tables.objectAclEntries call

theorem upsert_write (tables : AuthzTables) (call : AuthzAdminCall) :
    call.upsert.write tables = tables.writeCall call := by
  obtain ⟨tenantId, command, auditChainRef, now⟩ := call
  cases command <;> rfl

theorem step_of_refused {tables : AuthzTables} {call : AuthzAdminCall} {exn : Exn}
    (h : call.upsert.refusal? tables = some exn) : tables.step call = tables := by
  unfold step AuthzUpsert.execute
  rw [h]

theorem step_of_stored {tables : AuthzTables} {call : AuthzAdminCall}
    (h : call.upsert.refusal? tables = none) : tables.step call = tables.writeCall call := by
  unfold step AuthzUpsert.execute
  rw [h]
  exact upsert_write tables call

/-- The calls of a run that are not refused. -/
def stored (tables : AuthzTables) : List AuthzAdminCall → List AuthzAdminCall
  | [] => []
  | call :: calls =>
    match call.upsert.refusal? tables with
    | some _ => stored tables calls
    | none => call :: stored (tables.step call) calls

theorem run_eq_run_stored (tables : AuthzTables) (calls : List AuthzAdminCall) :
    Runs.run step tables calls = Runs.run writeCall tables (stored tables calls) := by
  induction calls generalizing tables with
  | nil => rfl
  | cons call calls ih =>
    rw [Runs.run_cons, stored]
    cases hrefusal : call.upsert.refusal? tables with
    | some exn => rw [step_of_refused hrefusal, ih]
    | none => rw [Runs.run_cons, ← step_of_stored hrefusal, ih]

/-- The tables that a log leaves: each is written for itself. -/
def after (log : List AuthzAdminCall) : AuthzTables where
  principals := Runs.run (Upserts.write principalUpsert?) ∅ log
  memberships := Runs.run (Upserts.write membershipUpsert?) ∅ log
  roles := Runs.run (Upserts.write roleUpsert?) ∅ log
  groups := Runs.run (Upserts.write groupUpsert?) ∅ log
  roleAssignments := Runs.run (Upserts.write roleAssignmentUpsert?) ∅ log
  groupMemberships := Runs.run (Upserts.write groupMembershipUpsert?) ∅ log
  objectAclEntries := Runs.run (Upserts.write aclUpsert?) ∅ log

/-- **The log** of stored calls determines the tables. -/
theorem run_eq_after (calls : List AuthzAdminCall) :
    Runs.run step {} calls = after (stored {} calls) := by
  rw [run_eq_run_stored]
  generalize stored {} calls = log
  induction log using List.reverseRecOn with
  | nil => rfl
  | append_singleton log call ih =>
    rw [Runs.run_append, ih]
    unfold after
    simp only [Runs.run_append]
    rfl

end AuthzTables

open AuthzTables

/-! ## What the directory reads -/

section

variable {tables : AuthzTables} {key : PrincipalKey}

/-- The assignment is active, and the role or the group is enabled. -/
theorem mem_assignedIds {assignments : Dict AssignmentKey TenantAssignment}
    {enabled : String → Bool} {assignedId : String} :
    assignedId ∈ assignedIds assignments key enabled ↔
      (∃ row ∈ assignments.get? ⟨key, assignedId⟩, row.status = .active) ∧
        enabled assignedId = true := by
  unfold assignedIds
  rw [List.mem_map]
  constructor
  · rintro ⟨⟨⟨itemKey, itemId⟩, row⟩, hitem, rfl⟩
    obtain ⟨hmem, hgrant⟩ := List.mem_filter.mp hitem
    simp only [Bool.and_eq_true, decide_eq_true_iff] at hgrant
    obtain ⟨⟨rfl, hactive⟩, henabled⟩ := hgrant
    exact ⟨⟨row, Dict.mem_items.mp hmem, hactive⟩, henabled⟩
  · rintro ⟨⟨row, hget, hactive⟩, henabled⟩
    refine ⟨(⟨key, assignedId⟩, row), List.mem_filter.mpr ⟨Dict.mem_items.mpr hget, ?_⟩, rfl⟩
    simp [hactive, henabled]

theorem mem_activeRoleIds {roleId : String} : roleId ∈ activeRoleIds tables key ↔
    (∃ row ∈ tables.roleAssignments.get? ⟨key, roleId⟩, row.status = .active) ∧
      ∃ role ∈ tables.roles.get? (key.tenantId, roleId), role.status = .active := by
  unfold activeRoleIds
  rw [mem_assignedIds, Option.any_eq_true]
  simp only [decide_eq_true_iff]
  rfl

theorem mem_activeGroupIds {groupId : String} : groupId ∈ activeGroupIds tables key ↔
    (∃ row ∈ tables.groupMemberships.get? ⟨key, groupId⟩, row.status = .active) ∧
      ∃ group ∈ tables.groups.get? (key.tenantId, groupId), group.status = .active := by
  unfold activeGroupIds
  rw [mem_assignedIds, Option.any_eq_true]
  simp only [decide_eq_true_iff]
  rfl

theorem mem_readableObjectIds {tenantId userId objectId : String} {roleIds groupIds : List String} :
    objectId ∈ readableObjectIds tables tenantId userId roleIds groupIds ↔
      ∃ aclKey, (∃ entry ∈ tables.objectAclEntries.get? aclKey, entry.status = .active) ∧
        AclPrincipal.concerns ⟨tenantId, userId, roleIds.toFinset, groupIds.toFinset⟩ aclKey =
          true ∧ aclKey.objectId = objectId := by
  have hfinset := @AclPrincipal.mem_readableObjectIds
    ⟨tenantId, userId, roleIds.toFinset, groupIds.toFinset⟩ tables.objectAclEntries objectId
  unfold AclPrincipal.readableObjectIds at hfinset
  rw [List.mem_toFinset] at hfinset
  rw [readableObjectIds, List.mem_dedup, hfinset]
  constructor
  · rintro ⟨aclKey, entry, hget, hactive, hconcerns, hobject⟩
    exact ⟨aclKey, ⟨entry, hget, hactive⟩, hconcerns, hobject⟩
  · rintro ⟨aclKey, ⟨entry, hget, hactive⟩, hconcerns, hobject⟩
    exact ⟨aclKey, entry, hget, hactive, hconcerns, hobject⟩

/-- The user that the directory makes of the claims. -/
def userOf (tables : AuthzTables) (key : PrincipalKey) (row : TenantPrincipal) : UserContext where
  userId := row.userId
  tenantId := key.tenantId
  roleIds := activeRoleIds tables key
  readableObjectIds := readableObjectIds tables key.tenantId row.userId
    (activeRoleIds tables key) (activeGroupIds tables key)

theorem resolveClaims_eq_ok {claims : VerifiedJwtClaims} {user : UserContext} :
    resolveClaims tables claims = .ok user ↔
      hasNul [claims.tenantId, claims.issuer, claims.subject] = false ∧
        ∃ row ∈ tables.principals.get? (keyOf claims), row.status = .active ∧
          (∃ membership ∈ tables.memberships.get? (keyOf claims), membership.status = .active) ∧
            user = userOf tables (keyOf claims) row := by
  unfold resolveClaims principalForClaims tenantMembershipForSubject
  constructor
  · intro h
    obtain ⟨principal, hprincipal, h⟩ := Except.bind_eq_ok.mp h
    obtain ⟨membership, hmembership, h⟩ := Except.bind_eq_ok.mp h
    obtain ⟨hnul, hprincipal⟩ := require_bind_eq_ok.mp hprincipal
    split at hprincipal
    · cases hprincipal
    rename_i row hrow
    obtain ⟨found, hfound, hprincipal⟩ := Except.bind_eq_ok.mp hprincipal
    split at hfound
    · cases hfound
    rename_i stored hstored
    obtain ⟨hget, hactive⟩ := Option.filter_eq_some_iff.mp hrow
    obtain ⟨hget', hactive'⟩ := Option.filter_eq_some_iff.mp hstored
    cases hfound
    cases hprincipal
    -- the one membership is the one that is looked for
    unfold InMemoryPrincipalDirectory.tenantMembership at hmembership
    simp [keyOf] at hmembership
    subst hmembership
    cases h
    exact ⟨hnul, row, hget, of_decide_eq_true hactive,
      ⟨stored, hget', of_decide_eq_true hactive'⟩, rfl⟩
  · rintro ⟨hnul, row, hget, hactive, ⟨stored, hget', hactive'⟩, rfl⟩
    have hrow : (tables.principals.get? (keyOf claims)).filter (·.status = .active) = some row :=
      Option.filter_eq_some_iff.mpr ⟨hget, decide_eq_true hactive⟩
    have hstored : (tables.memberships.get? (keyOf claims)).filter (·.status = .active) =
        some stored := Option.filter_eq_some_iff.mpr ⟨hget', decide_eq_true hactive'⟩
    rw [require_of _ hnul, Except.ok_bind, hrow, hstored]
    simp [InMemoryPrincipalDirectory.tenantMembership, keyOf, userOf, Except.ok_bind]

end

/-! ## The log -/

/-- The principal has the role, as the log of stored calls has it: the last call for the
assignment has left it active, and so has the last call for the role. -/
def HasRole (log : List AuthzAdminCall) (key : PrincipalKey) (roleId : String) : Prop :=
  (∃ row ∈ Upserts.last? roleAssignmentUpsert? log ⟨key, roleId⟩, row.status = .active) ∧
    ∃ role ∈ Upserts.last? roleUpsert? log (key.tenantId, roleId), role.status = .active

/-- The principal is in the group. -/
def InGroup (log : List AuthzAdminCall) (key : PrincipalKey) (groupId : String) : Prop :=
  (∃ row ∈ Upserts.last? groupMembershipUpsert? log ⟨key, groupId⟩, row.status = .active) ∧
    ∃ group ∈ Upserts.last? groupUpsert? log (key.tenantId, groupId), group.status = .active

/-- The entry lets the user, a role that the principal has, or a group that it is in, read. -/
def Concerns (log : List AuthzAdminCall) (key : PrincipalKey) (userId : String)
    (aclKey : ObjectAclKey) : Prop :=
  (aclKey.tenantId = key.tenantId ∧ (aclKey.permission = .read ∨ aclKey.permission = .admin)) ∧
    match aclKey.aclSubjectType with
    | .user => aclKey.aclSubjectId = userId
    | .role => HasRole log key aclKey.aclSubjectId
    | .group => InGroup log key aclKey.aclSubjectId

/-- The last call for some such entry has left it active. -/
def MayRead (log : List AuthzAdminCall) (key : PrincipalKey) (userId objectId : String) : Prop :=
  ∃ aclKey : ObjectAclKey,
    (∃ entry ∈ Upserts.last? aclUpsert? log aclKey, entry.status = .active) ∧
      Concerns log key userId aclKey ∧ aclKey.objectId = objectId

/-- The claims resolve to the user. -/
structure ResolvedBy (log : List AuthzAdminCall) (key : PrincipalKey) (user : UserContext) :
    Prop where
  tenantId   : user.tenantId = key.tenantId
  principal  : ∃ row ∈ Upserts.last? principalUpsert? log key,
                 row.status = .active ∧ row.userId = user.userId
  membership : ∃ row ∈ Upserts.last? membershipUpsert? log key, row.status = .active
  roles      : ∀ roleId, roleId ∈ user.roleIds ↔ HasRole log key roleId
  readable   : ∀ objectId, objectId ∈ user.readableObjectIds ↔
                 MayRead log key user.userId objectId

section

variable {log : List AuthzAdminCall}

theorem mem_activeRoleIds_after {roleId : String} :
    roleId ∈ activeRoleIds (after log) key ↔ HasRole log key roleId := by
  have hrow : (after log).roleAssignments.get? ⟨key, roleId⟩ =
      Upserts.last? roleAssignmentUpsert? log ⟨key, roleId⟩ := Upserts.get?_run _ _
  have hrole : (after log).roles.get? (key.tenantId, roleId) =
      Upserts.last? roleUpsert? log (key.tenantId, roleId) := Upserts.get?_run _ _
  rw [mem_activeRoleIds, hrow, hrole, HasRole]

theorem mem_activeGroupIds_after {groupId : String} :
    groupId ∈ activeGroupIds (after log) key ↔ InGroup log key groupId := by
  have hrow : (after log).groupMemberships.get? ⟨key, groupId⟩ =
      Upserts.last? groupMembershipUpsert? log ⟨key, groupId⟩ := Upserts.get?_run _ _
  have hgroup : (after log).groups.get? (key.tenantId, groupId) =
      Upserts.last? groupUpsert? log (key.tenantId, groupId) := Upserts.get?_run _ _
  rw [mem_activeGroupIds, hrow, hgroup, InGroup]

/-- The entries that concern a principal are those that the log has for it. -/
theorem concerns_after {userId : String} {aclKey : ObjectAclKey} :
    AclPrincipal.concerns ⟨key.tenantId, userId, (activeRoleIds (after log) key).toFinset,
      (activeGroupIds (after log) key).toFinset⟩ aclKey = true ↔
        Concerns log key userId aclKey := by
  unfold AclPrincipal.concerns AclPrincipal.isSubject Concerns
  rw [Bool.and_eq_true, Bool.and_eq_true, Bool.or_eq_true, decide_eq_true_iff, decide_eq_true_iff,
    decide_eq_true_iff]
  refine and_congr_right fun _ => ?_
  cases aclKey.aclSubjectType with
  | user => exact decide_eq_true_iff
  | role =>
    show decide (aclKey.aclSubjectId ∈ (activeRoleIds (after log) key).toFinset) = true ↔ _
    rw [decide_eq_true_iff, List.mem_toFinset, mem_activeRoleIds_after]
  | group =>
    show decide (aclKey.aclSubjectId ∈ (activeGroupIds (after log) key).toFinset) = true ↔ _
    rw [decide_eq_true_iff, List.mem_toFinset, mem_activeGroupIds_after]

theorem mem_readable_after {userId objectId : String} :
    objectId ∈ readableObjectIds (after log) key.tenantId userId (activeRoleIds (after log) key)
      (activeGroupIds (after log) key) ↔ MayRead log key userId objectId := by
  rw [mem_readableObjectIds, MayRead]
  refine exists_congr fun aclKey => and_congr ?_ (and_congr_left fun _ => concerns_after)
  have hentry : (after log).objectAclEntries.get? aclKey =
      Upserts.last? aclUpsert? log aclKey := Upserts.get?_run _ _
  rw [hentry]

end

/-- **Who the claims resolve to**, and what they may read, after any calls from empty tables on:
it is all decided by the last stored call for the principal, its membership, its roles and groups
and for the entries; claims resolve to a user exactly if the first two have been left active. -/
theorem resolved_by_log (calls : List AuthzAdminCall) (claims : VerifiedJwtClaims) :
    (∀ user, resolveClaims (Runs.run step {} calls) claims = .ok user →
      ResolvedBy (stored {} calls) (keyOf claims) user) ∧
    ((∃ user, resolveClaims (Runs.run step {} calls) claims = .ok user) ↔
      hasNul [claims.tenantId, claims.issuer, claims.subject] = false ∧
        (∃ row ∈ Upserts.last? principalUpsert? (stored {} calls) (keyOf claims),
          row.status = .active) ∧
        ∃ row ∈ Upserts.last? membershipUpsert? (stored {} calls) (keyOf claims),
          row.status = .active) := by
  rw [run_eq_after]
  generalize stored {} calls = log
  have hprincipal : (after log).principals.get? (keyOf claims) =
      Upserts.last? principalUpsert? log (keyOf claims) := Upserts.get?_run _ _
  have hmembership : (after log).memberships.get? (keyOf claims) =
      Upserts.last? membershipUpsert? log (keyOf claims) := Upserts.get?_run _ _
  rw [← hprincipal, ← hmembership]
  refine ⟨fun user huser => ?_, ?_⟩
  · obtain ⟨-, row, hget, hactive, hmember, rfl⟩ := resolveClaims_eq_ok.mp huser
    exact {
      tenantId := rfl
      principal := ⟨row, hprincipal ▸ hget, hactive, rfl⟩
      membership := hmembership ▸ hmember
      roles := fun _ => mem_activeRoleIds_after
      readable := fun _ => mem_readable_after }
  · constructor
    · rintro ⟨user, huser⟩
      obtain ⟨hnul, row, hget, hactive, hmember, -⟩ := resolveClaims_eq_ok.mp huser
      exact ⟨hnul, ⟨row, hget, hactive⟩, hmember⟩
    · rintro ⟨hnul, ⟨row, hget, hactive⟩, hmember⟩
      exact ⟨_, resolveClaims_eq_ok.mpr ⟨hnul, row, hget, hactive, hmember, rfl⟩⟩

/-! ## One tenant -/

section

variable {call : AuthzAdminCall}

theorem principalUpsert?_tenant {key : PrincipalKey} {row : TenantPrincipal}
    (h : principalUpsert? call = some (key, row)) : key.tenantId = call.tenantId := by
  unfold principalUpsert? at h
  split at h <;> cases h
  rfl

theorem membershipUpsert?_tenant {key : PrincipalKey} {row : TenantPrincipalMembership}
    (h : membershipUpsert? call = some (key, row)) : key.tenantId = call.tenantId := by
  unfold membershipUpsert? at h
  split at h <;> cases h
  rfl

theorem roleUpsert?_tenant {key : String × String} {row : TenantRole}
    (h : roleUpsert? call = some (key, row)) : key.1 = call.tenantId := by
  unfold roleUpsert? at h
  split at h <;> cases h
  rfl

theorem groupUpsert?_tenant {key : String × String} {row : TenantGroup}
    (h : groupUpsert? call = some (key, row)) : key.1 = call.tenantId := by
  unfold groupUpsert? at h
  split at h <;> cases h
  rfl

theorem roleAssignmentUpsert?_tenant {key : AssignmentKey} {row : TenantAssignment}
    (h : roleAssignmentUpsert? call = some (key, row)) : key.tenantId = call.tenantId := by
  unfold roleAssignmentUpsert? at h
  split at h <;> cases h
  rfl

theorem groupMembershipUpsert?_tenant {key : AssignmentKey} {row : TenantAssignment}
    (h : groupMembershipUpsert? call = some (key, row)) : key.tenantId = call.tenantId := by
  unfold groupMembershipUpsert? at h
  split at h <;> cases h
  rfl

theorem aclUpsert?_tenant {key : ObjectAclKey} {row : ObjectAclEntry}
    (h : aclUpsert? call = some (key, row)) : key.tenantId = call.tenantId := by
  unfold aclUpsert? at h
  split at h <;> cases h
  rfl

end

namespace AuthzTables

/-- The rows of one tenant. -/
def ofTenant (tables : AuthzTables) (tenantId : String) : AuthzTables where
  principals := tables.principals.filter fun key _ => key.tenantId = tenantId
  memberships := tables.memberships.filter fun key _ => key.tenantId = tenantId
  roles := tables.roles.filter fun key _ => key.1 = tenantId
  groups := tables.groups.filter fun key _ => key.1 = tenantId
  roleAssignments := tables.roleAssignments.filter fun key _ => key.tenantId = tenantId
  groupMemberships := tables.groupMemberships.filter fun key _ => key.tenantId = tenantId
  objectAclEntries := tables.objectAclEntries.filter fun key _ => key.tenantId = tenantId

variable {tables : AuthzTables} {call : AuthzAdminCall} {tenantId : String}

/-- A call writes the rows of its own tenant. -/
theorem writeCall_ofTenant_own (h : call.tenantId = tenantId) :
    (tables.writeCall call).ofTenant tenantId = (tables.ofTenant tenantId).writeCall call := by
  subst h
  rw [ofTenant, writeCall, AuthzTables.mk.injEq]
  refine ⟨?_, ?_, ?_, ?_, ?_, ?_, ?_⟩ <;>
    refine Upserts.filter_write_own (fun _ _ hupsert => decide_eq_true ?_) _
  · exact principalUpsert?_tenant hupsert
  · exact membershipUpsert?_tenant hupsert
  · exact roleUpsert?_tenant hupsert
  · exact groupUpsert?_tenant hupsert
  · exact roleAssignmentUpsert?_tenant hupsert
  · exact groupMembershipUpsert?_tenant hupsert
  · exact aclUpsert?_tenant hupsert

/-- And leaves those of the others. -/
theorem writeCall_ofTenant_other (h : call.tenantId ≠ tenantId) :
    (tables.writeCall call).ofTenant tenantId = tables.ofTenant tenantId := by
  have hother : ∀ {key : String}, key = call.tenantId → decide (key = tenantId) = false :=
    fun hkey => decide_eq_false fun hsame => h (hkey.symm.trans hsame)
  rw [ofTenant, ofTenant, AuthzTables.mk.injEq]
  refine ⟨?_, ?_, ?_, ?_, ?_, ?_, ?_⟩ <;>
    refine Upserts.filter_write_other (fun _ _ hupsert => hother ?_) _
  · exact principalUpsert?_tenant hupsert
  · exact membershipUpsert?_tenant hupsert
  · exact roleUpsert?_tenant hupsert
  · exact groupUpsert?_tenant hupsert
  · exact roleAssignmentUpsert?_tenant hupsert
  · exact groupMembershipUpsert?_tenant hupsert
  · exact aclUpsert?_tenant hupsert

theorem get?_of_key {K V : Type} [DecidableEq K] (d : Dict K V) {p : K → Bool} {k : K}
    (h : p k = true) : (d.filter fun k _ => p k).get? k = d.get? k := by
  rw [Dict.get?_filter]
  cases d.get? k <;> simp [h]

theorem contains_of_key {K V : Type} [DecidableEq K] (d : Dict K V) {p : K → Bool} {k : K}
    (h : p k = true) : (d.filter fun k _ => p k).contains k = d.contains k := by
  unfold Dict.contains
  rw [get?_of_key d h]

theorem userRefusal?_ofTenant (tables : AuthzTables) (key : PrincipalKey) (userId : String) :
    (tables.ofTenant key.tenantId).userRefusal? key userId = tables.userRefusal? key userId := by
  unfold userRefusal?
  refine if_congr ?_ rfl rfl
  constructor
  · rintro ⟨item, hitem, hconflict⟩
    exact ⟨item, (List.mem_filter.mp hitem).1, hconflict⟩
  · rintro ⟨item, hitem, htenant, hconflict⟩
    exact ⟨item, List.mem_filter.mpr ⟨hitem, decide_eq_true htenant⟩, htenant, hconflict⟩

theorem principalRefusal?_ofTenant (tables : AuthzTables) (key : PrincipalKey) :
    (tables.ofTenant key.tenantId).principalRefusal? key = tables.principalRefusal? key := by
  have hcontains : (tables.ofTenant key.tenantId).principals.contains key =
      tables.principals.contains key :=
    @contains_of_key _ _ _ tables.principals (fun k => decide (k.tenantId = key.tenantId)) key
      (decide_eq_true rfl)
  unfold principalRefusal?
  rw [hcontains]

theorem roleRefusal?_ofTenant (tables : AuthzTables) (tenantId roleId : String) :
    (tables.ofTenant tenantId).roleRefusal? tenantId roleId =
      tables.roleRefusal? tenantId roleId := by
  have hcontains : (tables.ofTenant tenantId).roles.contains (tenantId, roleId) =
      tables.roles.contains (tenantId, roleId) :=
    @contains_of_key _ _ _ tables.roles (fun k => decide (k.1 = tenantId)) (tenantId, roleId)
      (decide_eq_true rfl)
  unfold roleRefusal?
  rw [hcontains]

theorem groupRefusal?_ofTenant (tables : AuthzTables) (tenantId groupId : String) :
    (tables.ofTenant tenantId).groupRefusal? tenantId groupId =
      tables.groupRefusal? tenantId groupId := by
  have hcontains : (tables.ofTenant tenantId).groups.contains (tenantId, groupId) =
      tables.groups.contains (tenantId, groupId) :=
    @contains_of_key _ _ _ tables.groups (fun k => decide (k.1 = tenantId)) (tenantId, groupId)
      (decide_eq_true rfl)
  unfold groupRefusal?
  rw [hcontains]

/-- What a call is refused for is among the rows of its own tenant. -/
theorem refusal?_ofTenant (h : call.tenantId = tenantId) :
    call.upsert.refusal? (tables.ofTenant tenantId) = call.upsert.refusal? tables := by
  subst h
  obtain ⟨tenantId, command, auditChainRef, now⟩ := call
  cases command with
  | principal command =>
    exact congrArg (Option.or _) (userRefusal?_ofTenant tables
      ⟨tenantId, command.issuer, command.subject⟩ command.userId)
  | membership command =>
    exact congrArg (Option.or _) (principalRefusal?_ofTenant tables
      ⟨tenantId, command.issuer, command.subject⟩)
  | role command => rfl
  | group command => rfl
  | roleAssignment command =>
    exact congrArg (Option.or _) (congrArg₂ Option.or
      (principalRefusal?_ofTenant tables ⟨tenantId, command.issuer, command.subject⟩)
      (roleRefusal?_ofTenant tables tenantId command.roleId))
  | groupMembership command =>
    exact congrArg (Option.or _) (congrArg₂ Option.or
      (principalRefusal?_ofTenant tables ⟨tenantId, command.issuer, command.subject⟩)
      (groupRefusal?_ofTenant tables tenantId command.groupId))
  | objectAclEntry command => rfl

theorem step_ofTenant_own (h : call.tenantId = tenantId) :
    (tables.step call).ofTenant tenantId = (tables.ofTenant tenantId).step call := by
  have hrefusal := @refusal?_ofTenant tables call tenantId h
  cases hcall : call.upsert.refusal? tables with
  | some exn => rw [step_of_refused hcall, step_of_refused (hrefusal.trans hcall)]
  | none =>
    rw [step_of_stored hcall, step_of_stored (hrefusal.trans hcall), writeCall_ofTenant_own h]

theorem step_ofTenant_other (h : call.tenantId ≠ tenantId) :
    (tables.step call).ofTenant tenantId = tables.ofTenant tenantId := by
  cases hcall : call.upsert.refusal? tables with
  | some exn => rw [step_of_refused hcall]
  | none => rw [step_of_stored hcall, writeCall_ofTenant_other h]

/-- The rows of a tenant, after any calls, are those after its own calls. -/
theorem run_ofTenant (tables : AuthzTables) (calls : List AuthzAdminCall) (tenantId : String) :
    (Runs.run step tables calls).ofTenant tenantId = Runs.run step (tables.ofTenant tenantId)
      (calls.filter fun call => call.tenantId = tenantId) :=
  @Runs.view_run _ _ step (fun tables => tables.ofTenant tenantId)
    (fun call => decide (call.tenantId = tenantId))
    (fun _ _ hown => step_ofTenant_own (of_decide_eq_true hown))
    (fun _ _ hother => step_ofTenant_other (of_decide_eq_false hother)) tables calls

end AuthzTables

section

variable (tables : AuthzTables) (key : PrincipalKey)

/-- An assignment of the principal is one of its tenant. -/
theorem assignedIds_ofTenant (assignments : Dict AssignmentKey TenantAssignment)
    (enabled : String → Bool) :
    assignedIds (assignments.filter fun k _ => k.tenantId = key.tenantId) key enabled =
      assignedIds assignments key enabled := by
  unfold assignedIds
  show ((assignments.items.filter fun item => decide (item.1.tenantId = key.tenantId)).filter
    _).map _ = _
  rw [List.filter_filter]
  congr 1
  apply List.filter_congr
  intro item _
  by_cases hkey : item.1.toPrincipalKey = key
  · rw [decide_eq_true (congrArg PrincipalKey.tenantId hkey), Bool.and_true]
  · rw [decide_eq_false hkey, Bool.false_and, Bool.false_and, Bool.false_and]

theorem activeRoleIds_ofTenant :
    activeRoleIds (tables.ofTenant key.tenantId) key = activeRoleIds tables key := by
  have hroles : ∀ roleId, (tables.ofTenant key.tenantId).roles.get? (key.tenantId, roleId) =
      tables.roles.get? (key.tenantId, roleId) := fun roleId =>
    @get?_of_key _ _ _ tables.roles (fun k => decide (k.1 = key.tenantId)) _ (decide_eq_true rfl)
  unfold activeRoleIds
  simp only [hroles]
  exact assignedIds_ofTenant key tables.roleAssignments _

theorem activeGroupIds_ofTenant :
    activeGroupIds (tables.ofTenant key.tenantId) key = activeGroupIds tables key := by
  have hgroups : ∀ groupId, (tables.ofTenant key.tenantId).groups.get? (key.tenantId, groupId) =
      tables.groups.get? (key.tenantId, groupId) := fun groupId =>
    @get?_of_key _ _ _ tables.groups (fun k => decide (k.1 = key.tenantId)) _ (decide_eq_true rfl)
  unfold activeGroupIds
  simp only [hgroups]
  exact assignedIds_ofTenant key tables.groupMemberships _

theorem readableObjectIds_ofTenant (tenantId userId : String) (roleIds groupIds : List String) :
    readableObjectIds (tables.ofTenant tenantId) tenantId userId roleIds groupIds =
      readableObjectIds tables tenantId userId roleIds groupIds := by
  unfold readableObjectIds
  show (((tables.objectAclEntries.items.filter fun item =>
    decide (item.1.tenantId = tenantId)).filter _).map _).dedup = _
  rw [List.filter_filter]
  congr 2
  apply List.filter_congr
  intro item _
  by_cases htenant : item.1.tenantId = tenantId
  · rw [decide_eq_true htenant, Bool.and_true]
  · -- an entry of another tenant concerns no principal of this one
    have hconcerns : AclPrincipal.concerns ⟨tenantId, userId, roleIds.toFinset,
        groupIds.toFinset⟩ item.1 = false := by
      unfold AclPrincipal.concerns
      rw [decide_eq_false htenant]
      rfl
    rw [hconcerns, Bool.and_false, Bool.false_and]

/-- The directory reads the rows of the tenant that the claims name. -/
theorem resolveClaims_ofTenant (claims : VerifiedJwtClaims) :
    resolveClaims (tables.ofTenant claims.tenantId) claims = resolveClaims tables claims := by
  have hprincipal : (tables.ofTenant claims.tenantId).principals.get? (keyOf claims) =
      tables.principals.get? (keyOf claims) :=
    @get?_of_key _ _ _ tables.principals (fun k => decide (k.tenantId = claims.tenantId)) _
      (decide_eq_true rfl)
  have hmembership : (tables.ofTenant claims.tenantId).memberships.get? (keyOf claims) =
      tables.memberships.get? (keyOf claims) :=
    @get?_of_key _ _ _ tables.memberships (fun k => decide (k.tenantId = claims.tenantId)) _
      (decide_eq_true rfl)
  have hroles : activeRoleIds (tables.ofTenant claims.tenantId) (keyOf claims) =
      activeRoleIds tables (keyOf claims) := activeRoleIds_ofTenant tables (keyOf claims)
  have hgroups : activeGroupIds (tables.ofTenant claims.tenantId) (keyOf claims) =
      activeGroupIds tables (keyOf claims) := activeGroupIds_ofTenant tables (keyOf claims)
  unfold resolveClaims principalForClaims tenantMembershipForSubject
  rw [hprincipal, hmembership, hroles, hgroups]
  simp only [readableObjectIds_ofTenant]

end

/-- **Tenants do not interfere**: who claims resolve to, and what they may read, depends on the
calls for their own tenant alone. -/
theorem resolved_own_tenant (tables : AuthzTables) (calls : List AuthzAdminCall)
    (claims : VerifiedJwtClaims) :
    resolveClaims (Runs.run step tables calls) claims =
      resolveClaims (Runs.run step tables
        (calls.filter fun call => call.tenantId = claims.tenantId)) claims := by
  rw [← resolveClaims_ofTenant, ← resolveClaims_ofTenant (Runs.run step tables (calls.filter _)),
    run_ofTenant, run_ofTenant, List.filter_filter]
  simp only [Bool.and_self]

/-! ## Integrity -/

/-- No user of a tenant is two principals, nothing refers to what is not there, and what has ended
has a time at which it did. -/
structure Integrity (tables : AuthzTables) : Prop where
  users            : ∀ key row key' row', tables.principals.get? key = some row →
                       tables.principals.get? key' = some row' → key.tenantId = key'.tenantId →
                         row.userId = row'.userId → key = key'
  memberships      : ∀ key ∈ tables.memberships.keys, key ∈ tables.principals.keys
  roleAssignments  : ∀ key ∈ tables.roleAssignments.keys,
                       key.toPrincipalKey ∈ tables.principals.keys ∧
                         (key.tenantId, key.assignedId) ∈ tables.roles.keys
  groupMemberships : ∀ key ∈ tables.groupMemberships.keys,
                       key.toPrincipalKey ∈ tables.principals.keys ∧
                         (key.tenantId, key.assignedId) ∈ tables.groups.keys
  disabledAt       : ∀ row ∈ tables.memberships.values, row.status ≠ .active →
                       row.disabledAtUtc.isSome
  rolesRevokedAt   : ∀ row ∈ tables.roleAssignments.values, row.status = .revoked →
                       row.revokedAtUtc.isSome
  groupsRevokedAt  : ∀ row ∈ tables.groupMemberships.values, row.status = .revoked →
                       row.revokedAtUtc.isSome
  aclRevokedAt     : ∀ row ∈ tables.objectAclEntries.values, row.status = .revoked →
                       row.revokedAtUtc.isSome

theorem mem_values_set {K V : Type} [DecidableEq K] {d : Dict K V} {k : K} {v w : V}
    (h : w ∈ (d.set k v).values) : w = v ∨ w ∈ d.values := by
  obtain ⟨⟨k', w'⟩, hitem, rfl⟩ := List.mem_map.mp h
  rcases Dict.mem_items_set.mp hitem with ⟨-, hnew⟩ | ⟨-, hold⟩
  · exact .inl hnew
  · exact .inr (List.mem_map_of_mem hold)

theorem mem_keys_of_contains {K V : Type} [DecidableEq K] {d : Dict K V} {k : K}
    (h : d.contains k = true) : k ∈ d.keys :=
  Dict.mem_keys.mpr (Option.isSome_iff_exists.mp h)

section

variable {tables : AuthzTables} {key : PrincipalKey} {tenantId assignedId userId : String}

theorem free_of_userRefusal? {row : TenantPrincipal} {other : PrincipalKey}
    (h : tables.userRefusal? key userId = none) (hget : tables.principals.get? other = some row)
    (htenant : other.tenantId = key.tenantId) (huser : row.userId = userId) : other = key := by
  by_contra hne
  unfold userRefusal? at h
  rw [if_pos ⟨(other, row), Dict.mem_items.mpr hget, htenant, hne, huser⟩] at h
  cases h

theorem mem_of_principalRefusal? (h : tables.principalRefusal? key = none) :
    key ∈ tables.principals.keys := by
  unfold principalRefusal? at h
  split at h
  · exact mem_keys_of_contains ‹_›
  · cases h

theorem mem_of_roleRefusal? (h : tables.roleRefusal? tenantId assignedId = none) :
    (tenantId, assignedId) ∈ tables.roles.keys := by
  unfold roleRefusal? at h
  split at h
  · exact mem_keys_of_contains ‹_›
  · cases h

theorem mem_of_groupRefusal? (h : tables.groupRefusal? tenantId assignedId = none) :
    (tenantId, assignedId) ∈ tables.groups.keys := by
  unfold groupRefusal? at h
  split at h
  · exact mem_keys_of_contains ‹_›
  · cases h

end

theorem tenantAssignment_revokedAt (status : AssignmentStatus) (now : Int)
    (auditChainRef : String) (h : (tenantAssignment status now auditChainRef).status = .revoked) :
    (tenantAssignment status now auditChainRef).revokedAtUtc.isSome := by
  have hrevoked : status = .revoked := h
  show (if status = .revoked then some now else none).isSome
  rw [if_pos hrevoked]
  rfl

/-- One call. -/
theorem integrity_write {tables : AuthzTables} {call : AuthzAdminCall} (h : Integrity tables)
    (hstored : call.upsert.refusal? tables = none) : Integrity (call.upsert.write tables) := by
  obtain ⟨tenantId, command, auditChainRef, now⟩ := call
  cases command with
  | principal command =>
    obtain ⟨-, huser⟩ := Option.or_eq_none_iff.mp hstored
    refine { h with users := ?_, memberships := ?_, roleAssignments := ?_, groupMemberships := ?_ }
    · intro key row key' row' hget hget' htenant hsame
      rw [show ((AuthzAdminCall.mk tenantId (.principal command) auditChainRef now).upsert.write
        tables).principals = tables.principals.set ⟨tenantId, command.issuer, command.subject⟩
          (principalRow auditChainRef command) from rfl, Dict.get?_set] at hget hget'
      split at hget
      · rename_i hkey
        cases hget
        split at hget'
        · exact hkey.trans (Eq.symm ‹_›)
        · have htenant' : key'.tenantId = tenantId := by
            rw [← htenant, hkey]
          exact hkey.trans (free_of_userRefusal? huser hget' htenant' hsame.symm).symm
      · split at hget'
        · rename_i hkey'
          cases hget'
          have htenant' : key.tenantId = tenantId := by
            rw [htenant, hkey']
          exact (free_of_userRefusal? huser hget htenant' hsame).trans hkey'.symm
        · exact h.users key row key' row' hget hget' htenant hsame
    · exact fun key hkey => Dict.mem_keys_set.mpr (.inr (h.memberships key hkey))
    · intro key hkey
      obtain ⟨hprincipal, hrole⟩ := h.roleAssignments key hkey
      exact ⟨Dict.mem_keys_set.mpr (.inr hprincipal), hrole⟩
    · intro key hkey
      obtain ⟨hprincipal, hgroup⟩ := h.groupMemberships key hkey
      exact ⟨Dict.mem_keys_set.mpr (.inr hprincipal), hgroup⟩
  | membership command =>
    obtain ⟨-, hprincipal⟩ := Option.or_eq_none_iff.mp hstored
    refine { h with memberships := ?_, disabledAt := ?_ }
    · intro key hkey
      rcases Dict.mem_keys_set.mp hkey with rfl | hold
      · exact mem_of_principalRefusal? hprincipal
      · exact h.memberships key hold
    · intro row hrow hinactive
      rcases mem_values_set hrow with rfl | hold
      · have hstatus : command.status ≠ .active := hinactive
        show (if command.status = .active then none else some now).isSome
        rw [if_neg hstatus]
        rfl
      · exact h.disabledAt row hold hinactive
  | role command =>
    refine { h with roleAssignments := ?_ }
    intro key hkey
    obtain ⟨hprincipal, hrole⟩ := h.roleAssignments key hkey
    exact ⟨hprincipal, Dict.mem_keys_set.mpr (.inr hrole)⟩
  | group command =>
    refine { h with groupMemberships := ?_ }
    intro key hkey
    obtain ⟨hprincipal, hgroup⟩ := h.groupMemberships key hkey
    exact ⟨hprincipal, Dict.mem_keys_set.mpr (.inr hgroup)⟩
  | roleAssignment command =>
    obtain ⟨-, hreferences⟩ := Option.or_eq_none_iff.mp hstored
    obtain ⟨hprincipal, hrole⟩ := Option.or_eq_none_iff.mp hreferences
    refine { h with roleAssignments := ?_, rolesRevokedAt := ?_ }
    · intro key hkey
      rcases Dict.mem_keys_set.mp hkey with rfl | hold
      · exact ⟨mem_of_principalRefusal? hprincipal, mem_of_roleRefusal? hrole⟩
      · exact h.roleAssignments key hold
    · intro row hrow hrevoked
      rcases mem_values_set hrow with rfl | hold
      · exact tenantAssignment_revokedAt _ _ _ hrevoked
      · exact h.rolesRevokedAt row hold hrevoked
  | groupMembership command =>
    obtain ⟨-, hreferences⟩ := Option.or_eq_none_iff.mp hstored
    obtain ⟨hprincipal, hgroup⟩ := Option.or_eq_none_iff.mp hreferences
    refine { h with groupMemberships := ?_, groupsRevokedAt := ?_ }
    · intro key hkey
      rcases Dict.mem_keys_set.mp hkey with rfl | hold
      · exact ⟨mem_of_principalRefusal? hprincipal, mem_of_groupRefusal? hgroup⟩
      · exact h.groupMemberships key hold
    · intro row hrow hrevoked
      rcases mem_values_set hrow with rfl | hold
      · exact tenantAssignment_revokedAt _ _ _ hrevoked
      · exact h.groupsRevokedAt row hold hrevoked
  | objectAclEntry command =>
    refine { h with aclRevokedAt := ?_ }
    intro row hrow hrevoked
    rcases mem_values_set hrow with rfl | hold
    · have hstatus : command.status = .revoked := hrevoked
      show (if command.status = .revoked then some now else none).isSome
      rw [if_pos hstatus]
      rfl
    · exact h.aclRevokedAt row hold hrevoked

/-- **Integrity** of the tables, after any calls. -/
theorem integrity_run (calls : List AuthzAdminCall) : Runs.Always step Integrity {} calls := by
  refine Runs.always_of_invariant (fun tables call h => ?_) ?_ calls
  · cases hcall : call.upsert.refusal? tables with
    | some exn =>
      rw [step_of_refused hcall]
      exact h
    | none =>
      rw [step_of_stored hcall, ← upsert_write]
      exact integrity_write h hcall
  · constructor <;> intros <;> contradiction

end Collabio
