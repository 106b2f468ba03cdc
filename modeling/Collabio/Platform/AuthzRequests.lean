import Mathlib.Tactic
import Collabio.ControlPlane.Audit
import Collabio.Platform.PrincipalRuns

/-!
# Requests to the authorization administration

A request is admitted by the tables that it changes: its user has to be a security administrator
of the tenant, as the directory resolves the token. What it does is recorded first, and the row
that it writes refers to the event.

* `accounted_run` — every row was written by an administrator of its tenant, under an event;
* `no_admin_run`  — a tenant without an administrator stays as it is.
-/

namespace Collabio

open PgPrincipalDirectory AuthzTables

/-! ## Commands -/

def PrincipalUpsertCommand.validate (command : PrincipalUpsertCommand) :
    Except Exn PrincipalUpsertCommand :=
  let command := { command with
    toApprovedAuthzAdminCommand := command.toApprovedAuthzAdminCommand.normalized
    issuer := Text.strip command.issuer
    subject := Text.strip command.subject
    userId := Text.strip command.userId }
  accept "PrincipalUpsertCommand" (command.errors ++ requireNonEmpty "issuer" command.issuer ++
    requireNonEmpty "subject" command.subject ++ requireNonEmpty "user_id" command.userId) command

def PrincipalMembershipUpsertCommand.validate (command : PrincipalMembershipUpsertCommand) :
    Except Exn PrincipalMembershipUpsertCommand :=
  let command := { command with
    toApprovedAuthzAdminCommand := command.toApprovedAuthzAdminCommand.normalized
    issuer := Text.strip command.issuer
    subject := Text.strip command.subject }
  accept "PrincipalMembershipUpsertCommand" (command.errors ++
    requireNonEmpty "issuer" command.issuer ++ requireNonEmpty "subject" command.subject) command

def RoleUpsertCommand.validate (command : RoleUpsertCommand) : Except Exn RoleUpsertCommand :=
  let command := { command with
    toApprovedAuthzAdminCommand := command.toApprovedAuthzAdminCommand.normalized
    roleId := Text.strip command.roleId
    displayName := Text.strip command.displayName }
  accept "RoleUpsertCommand" (command.errors ++ requireNonEmpty "role_id" command.roleId ++
    requireNonEmpty "display_name" command.displayName) command

def GroupUpsertCommand.validate (command : GroupUpsertCommand) : Except Exn GroupUpsertCommand :=
  let command := { command with
    toApprovedAuthzAdminCommand := command.toApprovedAuthzAdminCommand.normalized
    groupId := Text.strip command.groupId
    displayName := Text.strip command.displayName }
  accept "GroupUpsertCommand" (command.errors ++ requireNonEmpty "group_id" command.groupId ++
    requireNonEmpty "display_name" command.displayName) command

def PrincipalRoleAssignmentUpsertCommand.validate
    (command : PrincipalRoleAssignmentUpsertCommand) :
    Except Exn PrincipalRoleAssignmentUpsertCommand :=
  let command := { command with
    toApprovedAuthzAdminCommand := command.toApprovedAuthzAdminCommand.normalized
    issuer := Text.strip command.issuer
    subject := Text.strip command.subject
    roleId := Text.strip command.roleId }
  accept "PrincipalRoleAssignmentUpsertCommand" (command.errors ++
    requireNonEmpty "issuer" command.issuer ++ requireNonEmpty "subject" command.subject ++
    requireNonEmpty "role_id" command.roleId) command

def PrincipalGroupMembershipUpsertCommand.validate
    (command : PrincipalGroupMembershipUpsertCommand) :
    Except Exn PrincipalGroupMembershipUpsertCommand :=
  let command := { command with
    toApprovedAuthzAdminCommand := command.toApprovedAuthzAdminCommand.normalized
    issuer := Text.strip command.issuer
    subject := Text.strip command.subject
    groupId := Text.strip command.groupId }
  accept "PrincipalGroupMembershipUpsertCommand" (command.errors ++
    requireNonEmpty "issuer" command.issuer ++ requireNonEmpty "subject" command.subject ++
    requireNonEmpty "group_id" command.groupId) command

namespace AuthzAdminCommand

def validate : AuthzAdminCommand → Except Exn AuthzAdminCommand
  | .principal command => return .principal (← command.validate)
  | .membership command => return .membership (← command.validate)
  | .role command => return .role (← command.validate)
  | .group command => return .group (← command.validate)
  | .roleAssignment command => return .roleAssignment (← command.validate)
  | .groupMembership command => return .groupMembership (← command.validate)
  | .objectAclEntry command => return .objectAclEntry (← command.validate)

def approved : AuthzAdminCommand → ApprovedAuthzAdminCommand
  | .principal command => command.toApprovedAuthzAdminCommand
  | .membership command => command.toApprovedAuthzAdminCommand
  | .role command => command.toApprovedAuthzAdminCommand
  | .group command => command.toApprovedAuthzAdminCommand
  | .roleAssignment command => command.toApprovedAuthzAdminCommand
  | .groupMembership command => command.toApprovedAuthzAdminCommand
  | .objectAclEntry command => command.toApprovedAuthzAdminCommand

/-- The event that the handler of the command records. -/
def eventType : AuthzAdminCommand → String
  | .principal _ => "authz.principal.upsert"
  | .membership _ => "authz.membership.upsert"
  | .role _ => "authz.role.upsert"
  | .group _ => "authz.group.upsert"
  | .roleAssignment _ => "authz.role_assignment.upsert"
  | .groupMembership _ => "authz.group_membership.upsert"
  | .objectAclEntry _ => "authz.object_acl.upsert"

def resourceType : AuthzAdminCommand → String
  | .principal _ => "tenant_principal"
  | .membership _ => "tenant_principal_membership"
  | .role _ => "tenant_role"
  | .group _ => "tenant_group"
  | .roleAssignment _ => "tenant_principal_role_assignment"
  | .groupMembership _ => "tenant_principal_group_membership"
  | .objectAclEntry _ => "object_acl_entry"

def resourceId : AuthzAdminCommand → String
  | .principal command => command.issuer ++ ":" ++ command.subject
  | .membership command => command.issuer ++ ":" ++ command.subject
  | .role command => command.roleId
  | .group command => command.groupId
  | .roleAssignment command => command.issuer ++ ":" ++ command.subject ++ ":" ++ command.roleId
  | .groupMembership command => command.issuer ++ ":" ++ command.subject ++ ":" ++ command.groupId
  | .objectAclEntry command => command.objectType ++ ":" ++ command.objectId ++ ":" ++
      command.aclSubjectType.text ++ ":" ++ command.aclSubjectId ++ ":" ++
      command.permission.text ++ ":" ++ String.ofList (Text.natChars command.aclVersion.toNat)

/-- What the handler adds to the metadata of its event. -/
def metadata : AuthzAdminCommand → List (String × Json)
  | .principal command =>
    [("status", .str command.status.text), ("user_id", .str command.userId)]
  | .membership command => [("status", .str command.status.text)]
  | .role command =>
    [("status", .str command.status.text), ("system_role", .bool command.systemRole)]
  | .group command => [("status", .str command.status.text)]
  | .roleAssignment command =>
    [("status", .str command.status.text), ("role_id", .str command.roleId)]
  | .groupMembership command =>
    [("status", .str command.status.text), ("group_id", .str command.groupId)]
  | .objectAclEntry command =>
    [("status", .str command.status.text), ("object_type", .str command.objectType),
      ("acl_subject_type", .str command.aclSubjectType.text),
      ("permission", .str command.permission.text), ("acl_version", .int command.aclVersion)]

end AuthzAdminCommand

/-- `require_security_admin` of an authenticated user. -/
def requireSecurityAdmin (user : UserContext) (repository : TenantPolicyRepository) :
    Except ApiError TenantAiPolicy :=
  match repository.get user.tenantId with
  | .error _ => .error (.httpException 403 "Tenant policy is not available")
  | .ok policy =>
    if "security-admin" ∈ user.roleIds then .ok policy
    else .error (.httpException 403 "Security admin role required")

/-! ## Requests -/

/-- What a handler is called with: the claims of the token, the body, the tenant policies at the
time, the id that its event draws, and the clock of the database. -/
structure AuthzRequest where
  claims   : VerifiedJwtClaims
  command  : AuthzAdminCommand
  policies : TenantPolicyRepository
  eventId  : String
  now      : Int

/-- The tables, and the events of the audit logger. -/
structure AuthzWorld where
  tables : AuthzTables
  events : List AuditEvent

/-- A request, or an event that something else records. -/
inductive AuthzTurn where
  | request (request : AuthzRequest)
  | event (call : AuditCall)

/-- What `authz_admin_audit_ref` records. -/
def authzAuditCall (command : AuthzAdminCommand) (user : UserContext) (eventId : String) :
    AuditCall where
  eventId := eventId
  userContext := user
  eventType := command.eventType
  sourceObjectIds := ["authz:" ++ command.resourceType ++ ":" ++ command.resourceId]
  inputText := some command.approved.reason
  metadata := (("approval_reference", .str command.approved.approvalReference) ::
    ("resource_type", .str command.resourceType) ::
      ("resource_id", .str command.resourceId) :: command.metadata).foldl
        (fun metadata item => metadata.set item.1 item.2) ∅

/-- The call of the store that the handler makes. -/
def authzCall (command : AuthzAdminCommand) (user : UserContext) (request : AuthzRequest) :
    AuthzAdminCall where
  tenantId := user.tenantId
  command := command
  auditChainRef := "audit:" ++ request.eventId
  now := request.now

namespace AuthzRequest

variable (H : HashFunctions) (request : AuthzRequest)

/-- The dependencies of the handler, and the body: who makes the request, and the command. A
command that is not valid is answered with 422. -/
def admission (tables : AuthzTables) : Except ApiError (UserContext × AuthzAdminCommand) :=
  match resolveClaims tables request.claims with
  | .error (.principalResolutionError text) => .error (.httpException 401 text)
  | .error exn => .error (.raised exn)
  | .ok user =>
    match requireSecurityAdmin user request.policies with
    | .error error => .error error
    | .ok _ =>
      match request.command.validate with
      | .error exn => .error (.raised exn)
      | .ok command => .ok (user, command)

/-- The request as the API handles it. -/
def handle : Eff ApiError AuthzWorld AuthzMutationView := fun world =>
  match request.admission world.tables with
  | .error error => (.error error, world)
  | .ok (user, command) =>
    let (_, events) := record H (authzAuditCall command user request.eventId) world.events
    match (authzCall command user request).upsert.execute world.tables with
    | (.error exn, tables) => (.error (.raised exn), { tables, events })
    | (.ok view, tables) => (.ok view, { tables, events })

end AuthzRequest

namespace AuthzWorld

variable (H : HashFunctions)

def step (world : AuthzWorld) : AuthzTurn → AuthzWorld
  | .request request => (request.handle H world).2
  | .event call => { world with events := (record H call world.events).2 }

end AuthzWorld

/-! ## One turn -/

/-- The request is admitted, with a valid command. -/
structure Admitted (tables : AuthzTables) (request : AuthzRequest) (user : UserContext)
    (command : AuthzAdminCommand) : Prop where
  resolved  : resolveClaims tables request.claims = .ok user
  admin     : "security-admin" ∈ user.roleIds
  validated : request.command.validate = .ok command

theorem admitted_of_admission {tables : AuthzTables} {request : AuthzRequest} {user : UserContext}
    {command : AuthzAdminCommand} (h : request.admission tables = .ok (user, command)) :
    Admitted tables request user command := by
  unfold AuthzRequest.admission at h
  split at h
  · cases h
  · cases h
  rename_i resolved hresolved
  split at h
  · cases h
  rename_i policy hadmin
  split at h
  · cases h
  rename_i valid hvalid
  cases h
  refine { resolved := hresolved, admin := ?_, validated := hvalid }
  unfold requireSecurityAdmin at hadmin
  split at hadmin
  · cases hadmin
  split at hadmin
  · assumption
  · cases hadmin

namespace AuthzWorld

variable {H : HashFunctions} {world : AuthzWorld}

/-- **One request**: it changes nothing, or it is admitted and records its event, and then the
store makes of its call what it does. -/
theorem step_request (request : AuthzRequest) :
    step H world (.request request) = world ∨
      ∃ user command, Admitted world.tables request user command ∧
        step H world (.request request) = {
          tables := world.tables.step (authzCall command user request)
          events := world.events ++
            [auditEvent H world.events (authzAuditCall command user request.eventId)] } := by
  show (request.handle H world).2 = world ∨ ∃ user command,
    Admitted world.tables request user command ∧ (request.handle H world).2 = _
  unfold AuthzRequest.handle
  cases hadmission : request.admission world.tables with
  | error error => exact .inl rfl
  | ok admitted =>
    obtain ⟨user, command⟩ := admitted
    refine .inr ⟨user, command, admitted_of_admission hadmission, ?_⟩
    unfold AuthzTables.step
    dsimp only
    rcases (authzCall command user request).upsert.execute world.tables with ⟨exn | view, tables⟩
    · rfl
    · rfl

end AuthzWorld

/-! ## Rows -/

namespace AuthzTables

/-- The rows of a table, as the store reports them. -/
def rowViews {K V : Type} (d : Dict K V) (view : K → V → AuthzMutationView) :
    List AuthzMutationView := d.items.map fun item => view item.1 item.2

/-- Every row of every table, as the store reports it. -/
def views (tables : AuthzTables) : List AuthzMutationView :=
  rowViews tables.principals (fun key row => ⟨key.tenantId, "tenant_principal",
    key.issuer ++ ":" ++ key.subject, row.status.text, row.auditChainRef⟩) ++
  (rowViews tables.memberships (fun key row => ⟨key.tenantId, "tenant_principal_membership",
    key.issuer ++ ":" ++ key.subject, row.status.text, row.auditChainRef⟩) ++
  (rowViews tables.roles (fun key row => ⟨key.1, "tenant_role", key.2, row.status.text,
    row.auditChainRef⟩) ++
  (rowViews tables.groups (fun key row => ⟨key.1, "tenant_group", key.2, row.status.text,
    row.auditChainRef⟩) ++
  (rowViews tables.roleAssignments (fun key row => ⟨key.tenantId,
    "tenant_principal_role_assignment", key.issuer ++ ":" ++ key.subject ++ ":" ++ key.assignedId,
    row.status.text, row.auditChainRef⟩) ++
  (rowViews tables.groupMemberships (fun key row => ⟨key.tenantId,
    "tenant_principal_group_membership", key.issuer ++ ":" ++ key.subject ++ ":" ++ key.assignedId,
    row.status.text, row.auditChainRef⟩) ++
  rowViews tables.objectAclEntries (fun key row => ⟨key.tenantId, "object_acl_entry",
    key.objectType ++ ":" ++ key.objectId ++ ":" ++ key.aclSubjectType.text ++ ":" ++
      key.aclSubjectId ++ ":" ++ key.permission.text ++ ":" ++
      String.ofList (Text.natChars key.aclVersion.toNat), row.status.text,
    row.auditChainRef⟩))))))

theorem mem_rowViews_set {K V : Type} [DecidableEq K] {d : Dict K V} {k : K} {v : V}
    {view : K → V → AuthzMutationView} {x : AuthzMutationView}
    (h : x ∈ rowViews (d.set k v) view) : x = view k v ∨ x ∈ rowViews d view := by
  obtain ⟨⟨k', v'⟩, hitem, rfl⟩ := List.mem_map.mp h
  rcases Dict.mem_items_set.mp hitem with ⟨rfl, rfl⟩ | ⟨-, hold⟩
  · exact .inl rfl
  · exact .inr (List.mem_map.mpr ⟨(k', v'), hold, rfl⟩)

/-- A call writes the row that it reports. -/
theorem mem_views_write {tables : AuthzTables} {call : AuthzAdminCall} {x : AuthzMutationView}
    (h : x ∈ (call.upsert.write tables).views) : x = call.upsert.view ∨ x ∈ tables.views := by
  obtain ⟨tenantId, command, auditChainRef, now⟩ := call
  unfold views at h ⊢
  simp only [List.mem_append] at h ⊢
  -- one of the seven tables is written, the others are as they were
  cases command with
  | principal command =>
    rcases h with h | h
    · exact (mem_rowViews_set h).imp_right .inl
    · exact .inr (.inr h)
  | membership command =>
    rcases h with h | h | h
    · exact .inr (.inl h)
    · exact (mem_rowViews_set h).imp_right fun h => .inr (.inl h)
    · exact .inr (.inr (.inr h))
  | role command =>
    rcases h with h | h | h | h
    · exact .inr (.inl h)
    · exact .inr (.inr (.inl h))
    · exact (mem_rowViews_set h).imp_right fun h => .inr (.inr (.inl h))
    · exact .inr (.inr (.inr (.inr h)))
  | group command =>
    rcases h with h | h | h | h | h
    · exact .inr (.inl h)
    · exact .inr (.inr (.inl h))
    · exact .inr (.inr (.inr (.inl h)))
    · exact (mem_rowViews_set h).imp_right fun h => .inr (.inr (.inr (.inl h)))
    · exact .inr (.inr (.inr (.inr (.inr h))))
  | roleAssignment command =>
    rcases h with h | h | h | h | h | h
    · exact .inr (.inl h)
    · exact .inr (.inr (.inl h))
    · exact .inr (.inr (.inr (.inl h)))
    · exact .inr (.inr (.inr (.inr (.inl h))))
    · exact (mem_rowViews_set h).imp_right fun h => .inr (.inr (.inr (.inr (.inl h))))
    · exact .inr (.inr (.inr (.inr (.inr (.inr h)))))
  | groupMembership command =>
    rcases h with h | h | h | h | h | h | h
    · exact .inr (.inl h)
    · exact .inr (.inr (.inl h))
    · exact .inr (.inr (.inr (.inl h)))
    · exact .inr (.inr (.inr (.inr (.inl h))))
    · exact .inr (.inr (.inr (.inr (.inr (.inl h)))))
    · exact (mem_rowViews_set h).imp_right fun h => .inr (.inr (.inr (.inr (.inr (.inl h)))))
    · exact .inr (.inr (.inr (.inr (.inr (.inr (.inr h))))))
  | objectAclEntry command =>
    rcases h with h | h | h | h | h | h | h
    · exact .inr (.inl h)
    · exact .inr (.inr (.inl h))
    · exact .inr (.inr (.inr (.inl h)))
    · exact .inr (.inr (.inr (.inr (.inl h))))
    · exact .inr (.inr (.inr (.inr (.inr (.inl h)))))
    · exact .inr (.inr (.inr (.inr (.inr (.inr (.inl h))))))
    · exact (mem_rowViews_set h).imp_right fun h => .inr (.inr (.inr (.inr (.inr (.inr h)))))

theorem mem_views_step {tables : AuthzTables} {call : AuthzAdminCall} {x : AuthzMutationView}
    (h : x ∈ (tables.step call).views) : x = call.upsert.view ∨ x ∈ tables.views := by
  cases hcall : call.upsert.refusal? tables with
  | some exn =>
    rw [step_of_refused hcall] at h
    exact .inr h
  | none =>
    rw [step_of_stored hcall, ← upsert_write] at h
    exact mem_views_write h

end AuthzTables

/-- What a call of a handler reports. -/
structure Reports (command : AuthzAdminCommand) (user : UserContext) (eventId : String)
    (view : AuthzMutationView) : Prop where
  tenantId      : view.tenantId = user.tenantId
  resourceType  : view.resourceType = command.resourceType
  resourceId    : view.resourceId = command.resourceId
  auditChainRef : view.auditChainRef = "audit:" ++ eventId

theorem reports_upsert (command : AuthzAdminCommand) (user : UserContext)
    (request : AuthzRequest) :
    Reports command user request.eventId (authzCall command user request).upsert.view := by
  cases command <;> exact ⟨rfl, rfl, rfl, rfl⟩

/-! ## Runs -/

namespace AuthzWorld

variable {H : HashFunctions} {world : AuthzWorld}

theorem events_step (world : AuthzWorld) (turn : AuthzTurn) :
    world.events <+: (step H world turn).events := by
  cases turn with
  | request request =>
    rcases step_request request with hsame | ⟨user, command, -, hstep⟩
    · rw [hsame]
    · rw [hstep]
      exact List.prefix_append _ _
  | event call => exact List.prefix_append _ _

/-- The row is that of an admitted request of an administrator of its tenant, whose event is in
the log. -/
structure WrittenUnder (H : HashFunctions) (world : AuthzWorld) (turns : List AuthzTurn)
    (view : AuthzMutationView) (before : List AuthzTurn) (request : AuthzRequest)
    (user : UserContext) (command : AuthzAdminCommand) (event : AuditEvent) : Prop where
  within   : before ++ [.request request] <+: turns
  admitted : Admitted (Runs.run (step H) world before).tables request user command
  recorded : (Runs.run (step H) world turns).events[(Runs.run (step H) world
               before).events.length]? = some event
  made     : event = auditEvent H (Runs.run (step H) world before).events
               (authzAuditCall command user request.eventId)
  reports  : Reports command user event.eventId view

/-- **Every row is accounted for**: a row that was not there before the run was written for an
administrator of its tenant, as the tables had it at the time, and refers to the event of the
request, which is in the log. -/
theorem accounted_run (world : AuthzWorld) (turns : List AuthzTurn) {view : AuthzMutationView}
    (h : view ∈ (Runs.run (step H) world turns).tables.views) :
    view ∈ world.tables.views ∨ ∃ before request user command event,
      WrittenUnder H world turns view before request user command event := by
  induction turns using List.reverseRecOn with
  | nil => exact .inl h
  | append_singleton turns turn ih =>
    -- what was accounted for before the turn still is
    have hkeep : view ∈ (Runs.run (step H) world turns).tables.views →
        view ∈ world.tables.views ∨ ∃ before request user command event,
          WrittenUnder H world (turns ++ [turn]) view before request user command event := by
      intro hold
      rcases ih hold with hinitial | ⟨before, request, user, command, event, hwritten⟩
      · exact .inl hinitial
      · refine .inr ⟨before, request, user, command, event, { hwritten with
          within := hwritten.within.trans (List.prefix_append _ _)
          recorded := ?_ }⟩
        rw [Runs.run_append]
        obtain ⟨later, hlater⟩ := @events_step H (Runs.run (step H) world turns) turn
        obtain ⟨hbound, -⟩ := List.getElem?_eq_some_iff.mp hwritten.recorded
        rw [Runs.run_cons, Runs.run_nil, ← hlater, List.getElem?_append_left hbound]
        exact hwritten.recorded
    rw [Runs.run_append, Runs.run_cons, Runs.run_nil] at h
    cases turn with
    | event call => exact hkeep h
    | request request =>
      rcases step_request request with hsame | ⟨user, command, hadmitted, hstep⟩
      · rw [hsame] at h
        exact hkeep h
      · rw [hstep] at h
        rcases mem_views_step h with hnew | hold
        · right
          refine ⟨turns, request, user, command, _, {
            within := List.prefix_refl _
            admitted := hadmitted
            recorded := ?_
            made := rfl
            reports := hnew ▸ reports_upsert command user request }⟩
          rw [Runs.run_append, Runs.run_cons, Runs.run_nil, hstep]
          exact List.getElem?_concat_length
        · exact hkeep hold

/-- A tenant with one administrator. -/
def seededTables : AuthzTables where
  principals := Dict.set ∅ ⟨"tenant-a", "issuer", "admin"⟩ {
    userId := "user-1"
    displayName := none
    email := none
    status := .active
    auditChainRef := "audit:seed" }
  memberships := Dict.set ∅ ⟨"tenant-a", "issuer", "admin"⟩ {
    status := .active
    disabledAtUtc := none
    auditChainRef := "audit:seed" }
  roles := Dict.set ∅ ("tenant-a", "security-admin") {
    displayName := "Security admin"
    description := none
    status := .active
    systemRole := true
    auditChainRef := "audit:seed" }
  roleAssignments := Dict.set ∅ ⟨⟨"tenant-a", "issuer", "admin"⟩, "security-admin"⟩
    (tenantAssignment .active 0 "audit:seed")

def tenantPolicies : TenantPolicyRepository where
  policies := ⟨[("tenant-a", {
    tenantId := "tenant-a"
    settings := fun
      | .allowedModelIds => some []
      | .aiEnabled | .ragEnabled | .voiceEnabled | .externalAiEnabled
      | .rawAudioStorageAllowed => some false })], List.nodup_singleton _⟩
  keyed := by
    intro tenantId policy h
    obtain ⟨rfl, rfl⟩ := Prod.mk.inj (List.mem_singleton.mp (Dict.mem_items.mpr h))
    rfl

/-- The administrator adds a role. -/
def roleRequest : AuthzRequest where
  claims := {
    issuer := "issuer"
    subject := "admin"
    tenantId := "tenant-a"
    expiresAtEpoch := 1 }
  command := .role {
    approvalReference := "approval:1"
    reason := "readers of the handbook"
    roleId := "reader"
    displayName := "Reader" }
  policies := tenantPolicies
  eventId := "event-1"
  now := 0

theorem role_accounted : ∃ before request user command event,
    WrittenUnder default ⟨seededTables, []⟩ [.request roleRequest]
      ⟨"tenant-a", "tenant_role", "reader", "active", "audit:event-1"⟩ before request user command
        event :=
  (accounted_run ⟨seededTables, []⟩ [.request roleRequest] (by decide +kernel)).resolve_left
    (by decide +kernel)

/-- A user belongs to the tenant of the claims. -/
theorem tenantId_of_resolved {tables : AuthzTables} {claims : VerifiedJwtClaims}
    {user : UserContext} (h : resolveClaims tables claims = .ok user) :
    user.tenantId = claims.tenantId := by
  obtain ⟨-, row, -, -, -, rfl⟩ := resolveClaims_eq_ok.mp h
  rfl

/-- The tenant has a security administrator. -/
def HasAdmin (tables : AuthzTables) (tenantId : String) : Prop :=
  ∃ claims user, resolveClaims tables claims = .ok user ∧ user.tenantId = tenantId ∧
    "security-admin" ∈ user.roleIds

/-- **Nobody becomes an administrator** of a tenant that has none: whatever requests are made, all
of its rows stay as they are. -/
theorem no_admin_run {tenantId : String} (h : ¬ HasAdmin world.tables tenantId)
    (turns : List AuthzTurn) : (Runs.run (step H) world turns).tables.ofTenant tenantId =
      world.tables.ofTenant tenantId := by
  induction turns using List.reverseRecOn with
  | nil => rfl
  | append_singleton turns turn ih =>
    rw [Runs.run_append, Runs.run_cons, Runs.run_nil]
    cases turn with
    | event call => exact ih
    | request request =>
      rcases step_request request with hsame | ⟨user, command, hadmitted, hstep⟩
      · rw [hsame]
        exact ih
      rw [hstep]
      -- the user is an administrator of another tenant
      have hother : user.tenantId ≠ tenantId := by
        intro htenant
        refine h ⟨request.claims, user, ?_, htenant, hadmitted.admin⟩
        have hclaims : request.claims.tenantId = tenantId :=
          (tenantId_of_resolved hadmitted.resolved).symm.trans htenant
        rw [← resolveClaims_ofTenant, hclaims, ← ih, ← hclaims, resolveClaims_ofTenant]
        exact hadmitted.resolved
      exact (step_ofTenant_other hother).trans ih

/-- Without any rows there is no administrator, and the request changes nothing. -/
theorem no_admin_run_empty :
    (Runs.run (step default) ⟨{}, []⟩ [.request roleRequest]).tables.ofTenant "tenant-a" =
      AuthzTables.ofTenant {} "tenant-a" := by
  refine no_admin_run ?_ [.request roleRequest]
  rintro ⟨claims, user, hresolved, -, -⟩
  obtain ⟨-, row, hget, -⟩ := resolveClaims_eq_ok.mp hresolved
  cases hget

end AuthzWorld

end Collabio
