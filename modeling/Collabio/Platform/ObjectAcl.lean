import Mathlib.Tactic
import Collabio.Library.Dict
import Collabio.Library.Runs
import Collabio.Platform.AuthzAdmin

/-!
# Object ACL entries

An upsert stores the entry of one version of a grant, or changes the status of the entry of
that version; the query for readable objects looks at the status alone. What a principal may
read is a function of the log of upserts:

* `get?_run`      — the entry at a key is that of the last upsert of the key;
* `readable_objects` — an object is readable exactly if the last upsert of some version of
  some grant of it has left the version active.
-/

namespace Collabio

def AclSubjectType.text : AclSubjectType → String
  | .user => "user"
  | .role => "role"
  | .group => "group"

def AclPermission.text : AclPermission → String
  | .read => "read"
  | .write => "write"
  | .admin => "admin"

def AssignmentStatus.text : AssignmentStatus → String
  | .active => "active"
  | .revoked => "revoked"

/-! ## The table -/

/-- The primary key of `object_acl_entries`. -/
structure ObjectAclKey where
  tenantId       : String
  objectId       : String
  objectType     : String
  aclSubjectType : AclSubjectType
  aclSubjectId   : String
  permission     : AclPermission
  aclVersion     : Int
  deriving DecidableEq, Repr

/-- The columns that an upsert overwrites. `now()` is the clock of the database. -/
structure ObjectAclEntry where
  status        : AssignmentStatus
  revokedAtUtc  : Option Int
  auditChainRef : String
  deriving DecidableEq, Repr

abbrev ObjectAclEntries := Dict ObjectAclKey ObjectAclEntry

structure AuthzMutationView where
  tenantId      : String
  resourceType  : String
  resourceId    : String
  status        : String
  auditChainRef : String
  deriving DecidableEq, Repr

/-- A call of `upsert_object_acl_entry`, and the time at which the database makes it. -/
structure AclUpsertCall where
  tenantId      : String
  command       : ObjectAclEntryUpsertCommand
  auditChainRef : String
  now           : Int
  deriving DecidableEq, Repr

/-- `audit_chain_ref ~ '^[a-z0-9][a-z0-9_+.-]*:.+'`; the dot stands for line feeds too. -/
def isAuditChainRef (value : String) : Bool :=
  let scheme := value.toList.takeWhile isSchemeChar
  scheme.head?.any (fun c => Text.isAsciiLower c || Text.isAsciiDigit c) &&
    match value.toList.dropWhile isSchemeChar with
    | ':' :: rest => rest != []
    | _ => false

namespace AclUpsertCall

def key (call : AclUpsertCall) : ObjectAclKey where
  tenantId := call.tenantId
  objectId := call.command.objectId
  objectType := call.command.objectType
  aclSubjectType := call.command.aclSubjectType
  aclSubjectId := call.command.aclSubjectId
  permission := call.command.permission
  aclVersion := call.command.aclVersion

def entry (call : AclUpsertCall) : ObjectAclEntry where
  status := call.command.status
  revokedAtUtc := if call.command.status = .revoked then some call.now else none
  auditChainRef := call.auditChainRef

/-- The exception of an INSERT that the driver, the row-level policy or the checks of the
table refuse. -/
def refusal? (call : AclUpsertCall) : Option Exn :=
  let command := call.command
  if [call.tenantId, command.objectId, command.objectType, command.aclSubjectId,
      call.auditChainRef].any fun value => Char.ofNat 0 ∈ value.toList then
    some (.databaseError "DataError")
  else if ¬ command.aclVersion < 2 ^ 31 then some (.databaseError "NumericValueOutOfRange")
  else if call.tenantId = "" then some (.databaseError "InsufficientPrivilege")
  else if command.objectId = "" ∨ command.objectType = "" ∨ command.aclSubjectId = "" ∨
      ¬ 1 ≤ command.aclVersion ∨ isAuditChainRef call.auditChainRef = false then
    some (.databaseError "CheckViolation")
  else none

/-- `upsert_object_acl_entry`. -/
def upsertObjectAclEntry (call : AclUpsertCall) : Eff Exn ObjectAclEntries AuthzMutationView :=
  fun entries =>
    match call.refusal? with
    | some exn => (.error exn, entries)
    | none =>
      let command := call.command
      (.ok {
        tenantId := call.tenantId
        resourceType := "object_acl_entry"
        resourceId := command.objectType ++ ":" ++ command.objectId ++ ":" ++
          command.aclSubjectType.text ++ ":" ++ command.aclSubjectId ++ ":" ++
          command.permission.text ++ ":" ++ String.ofList (Text.natChars command.aclVersion.toNat)
        status := command.status.text
        auditChainRef := call.auditChainRef }, entries.set call.key call.entry)

end AclUpsertCall

namespace ObjectAclEntries

/-- A call on the table; one that raises leaves it as it was. -/
def step (entries : ObjectAclEntries) (call : AclUpsertCall) : ObjectAclEntries :=
  (call.upsertObjectAclEntry entries).2

end ObjectAclEntries

/-! ## The query -/

/-- What `readable_object_ids` is asked with: a principal that the directory has resolved. -/
structure AclPrincipal where
  tenantId : String
  userId   : String
  roleIds  : Finset String
  groupIds : Finset String

namespace AclPrincipal

/-- The subject of an entry is one of the principal's. -/
def isSubject (principal : AclPrincipal) (key : ObjectAclKey) : Bool :=
  match key.aclSubjectType with
  | .user => key.aclSubjectId = principal.userId
  | .role => key.aclSubjectId ∈ principal.roleIds
  | .group => key.aclSubjectId ∈ principal.groupIds

/-- The WHERE clause, but for the status. -/
def concerns (principal : AclPrincipal) (key : ObjectAclKey) : Bool :=
  key.tenantId = principal.tenantId && (key.permission = .read || key.permission = .admin) &&
    principal.isSubject key

/-- `readable_object_ids`. -/
def readableObjectIds (principal : AclPrincipal) (entries : ObjectAclEntries) : Finset String :=
  ((entries.items.filter fun item => item.2.status = .active && principal.concerns item.1).map
    fun item => item.1.objectId).toFinset

end AclPrincipal

/-! ## The log of upserts -/

/-- The last upsert of a key that was stored. -/
def lastUpsert? (calls : List AclUpsertCall) (key : ObjectAclKey) : Option AclUpsertCall :=
  calls.reverse.find? fun call => call.refusal? = none ∧ call.key = key

/-- The entry at a key is active, as the log has it. -/
def ActiveEntry (calls : List AclUpsertCall) (key : ObjectAclKey) : Prop :=
  ∃ call, lastUpsert? calls key = some call ∧ call.command.status = .active

/-- The newest version of a grant is active. -/
def NewestActive (calls : List AclUpsertCall) (key : ObjectAclKey) : Prop :=
  ActiveEntry calls key ∧ ∀ aclVersion,
    (lastUpsert? calls { key with aclVersion }).isSome → aclVersion ≤ key.aclVersion

namespace ObjectAclEntries

theorem get?_step (entries : ObjectAclEntries) (call : AclUpsertCall) (key : ObjectAclKey) :
    (entries.step call).get? key =
      if call.refusal? = none ∧ call.key = key then some call.entry else entries.get? key := by
  unfold step AclUpsertCall.upsertObjectAclEntry
  cases hrefusal : call.refusal? with
  | some exn =>
    rw [if_neg]
    rintro ⟨h, -⟩
    cases h
  | none =>
    by_cases hkey : call.key = key
    · subst hkey
      rw [if_pos ⟨rfl, rfl⟩]
      exact Dict.get?_set_self _ _ _
    · rw [if_neg fun h => hkey h.2]
      exact Dict.get?_set_ne _ _ (Ne.symm hkey)

theorem lastUpsert?_concat (calls : List AclUpsertCall) (call : AclUpsertCall)
    (key : ObjectAclKey) : lastUpsert? (calls ++ [call]) key =
      if call.refusal? = none ∧ call.key = key then some call else lastUpsert? calls key := by
  unfold lastUpsert?
  rw [List.reverse_append, List.reverse_singleton, List.singleton_append, List.find?_cons]
  split
  · rename_i h
    rw [if_pos (of_decide_eq_true h)]
  · rename_i h
    rw [if_neg (of_decide_eq_false h)]

/-- **Runs.** The table has, at every key, the entry of the last upsert. -/
theorem get?_run (calls : List AclUpsertCall) (key : ObjectAclKey) :
    (Runs.run step ∅ calls).get? key = (lastUpsert? calls key).map AclUpsertCall.entry := by
  induction calls using List.reverseRecOn with
  | nil => rfl
  | append_singleton calls call ih =>
    rw [Runs.run_append, Runs.run_cons, Runs.run_nil, get?_step, lastUpsert?_concat, ih]
    split <;> rfl

end ObjectAclEntries

/-! ## What a principal may read -/

theorem AclPrincipal.mem_readableObjectIds {principal : AclPrincipal} {entries : ObjectAclEntries}
    {objectId : String} : objectId ∈ principal.readableObjectIds entries ↔
      ∃ key entry, entries.get? key = some entry ∧ entry.status = .active ∧
        principal.concerns key = true ∧ key.objectId = objectId := by
  unfold readableObjectIds
  rw [List.mem_toFinset, List.mem_map]
  constructor
  · rintro ⟨⟨key, entry⟩, hitem, hobject⟩
    obtain ⟨hmem, hgrant⟩ := List.mem_filter.mp hitem
    rw [Bool.and_eq_true, decide_eq_true_iff] at hgrant
    exact ⟨key, entry, Dict.mem_items.mp hmem, hgrant.1, hgrant.2, hobject⟩
  · rintro ⟨key, entry, hget, hactive, hconcerns, hobject⟩
    refine ⟨(key, entry), List.mem_filter.mpr ⟨Dict.mem_items.mpr hget, ?_⟩, hobject⟩
    rw [Bool.and_eq_true, decide_eq_true_iff]
    exact ⟨hactive, hconcerns⟩

namespace ObjectAclEntries

theorem activeEntry_iff {calls : List AclUpsertCall} {key : ObjectAclKey} :
    ActiveEntry calls key ↔
      ∃ entry, (Runs.run step ∅ calls).get? key = some entry ∧ entry.status = .active := by
  rw [get?_run]
  constructor
  · rintro ⟨call, hlast, hactive⟩
    exact ⟨call.entry, Option.map_eq_some_iff.mpr ⟨call, hlast, rfl⟩, hactive⟩
  · rintro ⟨entry, hentry, hactive⟩
    obtain ⟨call, hlast, rfl⟩ := Option.map_eq_some_iff.mp hentry
    exact ⟨call, hlast, hactive⟩

theorem readable_run_iff {calls : List AclUpsertCall} {principal : AclPrincipal}
    {objectId : String} : objectId ∈ principal.readableObjectIds (Runs.run step ∅ calls) ↔
      ∃ key, key.objectId = objectId ∧ principal.concerns key = true ∧ ActiveEntry calls key := by
  rw [AclPrincipal.mem_readableObjectIds]
  constructor
  · rintro ⟨key, entry, hget, hactive, hconcerns, hobject⟩
    exact ⟨key, hobject, hconcerns, activeEntry_iff.mpr ⟨entry, hget, hactive⟩⟩
  · rintro ⟨key, hobject, hconcerns, hactive⟩
    obtain ⟨entry, hget, hstatus⟩ := activeEntry_iff.mp hactive
    exact ⟨key, entry, hget, hstatus, hconcerns, hobject⟩

/-- A revocation that is stored ends its own entry and no other. -/
theorem activeEntry_revoked {calls : List AclUpsertCall} {revoke : AclUpsertCall}
    (hstored : revoke.refusal? = none) (hrevoked : revoke.command.status = .revoked)
    {key : ObjectAclKey} :
    ActiveEntry (calls ++ [revoke]) key ↔ key ≠ revoke.key ∧ ActiveEntry calls key := by
  unfold ActiveEntry
  rw [lastUpsert?_concat]
  by_cases hkey : revoke.key = key
  · rw [if_pos ⟨hstored, hkey⟩]
    refine iff_of_false ?_ fun h => h.1 hkey.symm
    rintro ⟨call, hlast, hactive⟩
    rw [← Option.some.inj hlast, hrevoked] at hactive
    cases hactive
  · rw [if_neg fun h => hkey h.2]
    exact (and_iff_right fun h => hkey h.symm).symm

/-- **Readable objects.** After any upserts, a principal may read an object exactly if an entry
of some version of some grant of it to one of the principal's subjects is active: if the last
upsert of that very version has left it so. A revocation takes the object away exactly if no
other entry grants it. -/
theorem readable_objects (calls : List AclUpsertCall) (principal : AclPrincipal)
    (objectId : String) :
    (objectId ∈ principal.readableObjectIds (Runs.run step ∅ calls) ↔
      ∃ key, key.objectId = objectId ∧ principal.concerns key = true ∧ ActiveEntry calls key) ∧
    ∀ revoke : AclUpsertCall, revoke.refusal? = none → revoke.command.status = .revoked →
      (objectId ∈ principal.readableObjectIds (Runs.run step ∅ (calls ++ [revoke])) ↔
        ∃ key, key.objectId = objectId ∧ principal.concerns key = true ∧ key ≠ revoke.key ∧
          ActiveEntry calls key) := by
  refine ⟨readable_run_iff, fun revoke hstored hrevoked => ?_⟩
  rw [readable_run_iff]
  refine exists_congr fun key => and_congr_right fun _ => and_congr_right fun _ => ?_
  exact activeEntry_revoked hstored hrevoked

/-- A grant of a document to a user, in some version. -/
def sampleUpsert (aclVersion : Int) (status : AssignmentStatus) : AclUpsertCall where
  tenantId := "acme"
  command := {
    approvalReference := "approval:acl-upsert"
    reason := "access to the handbook"
    objectId := "doc-1"
    objectType := "document"
    aclSubjectType := .user
    aclSubjectId := "user-1"
    permission := .read
    aclVersion
    status }
  auditChainRef := "audit:acl-upsert"
  now := 0

def samplePrincipal : AclPrincipal := ⟨"acme", "user-1", ∅, ∅⟩

def sampleUpserts : List AclUpsertCall := [sampleUpsert 1 .active, sampleUpsert 2 .revoked]

theorem sampleUpserts_checked :
    (∀ call ∈ sampleUpserts, call.command.validate = .ok call.command ∧ call.refusal? = none) ∧
    (lastUpsert? sampleUpserts (sampleUpsert 1 .active).key = some (sampleUpsert 1 .active) ∧
      lastUpsert? sampleUpserts (sampleUpsert 2 .revoked).key = some (sampleUpsert 2 .revoked)) ∧
    samplePrincipal.concerns (sampleUpsert 1 .active).key = true := by decide +kernel

/-- The newest version of the only grant is revoked, and the document stays readable through
the one before. -/
theorem revoked_newest_stays_readable :
    (∀ call ∈ sampleUpserts, call.command.validate = .ok call.command) ∧
    "doc-1" ∈ samplePrincipal.readableObjectIds (Runs.run step ∅ sampleUpserts) ∧
    ¬ ∃ key, key.objectId = "doc-1" ∧ samplePrincipal.concerns key = true ∧
      NewestActive sampleUpserts key := by
  obtain ⟨haccepted, ⟨hfirst, hsecond⟩, hconcerns⟩ := sampleUpserts_checked
  refine ⟨fun call hcall => (haccepted call hcall).1, ?_, ?_⟩
  · exact readable_run_iff.mpr ⟨_, rfl, hconcerns, _, hfirst, rfl⟩
  · rintro ⟨key, -, -, ⟨call, hlast, hactive⟩, hnewest⟩
    have hfound := List.find?_some hlast
    have hmem := List.mem_reverse.mp (List.mem_of_find?_eq_some hlast)
    obtain ⟨-, hkey⟩ := of_decide_eq_true hfound
    -- the active one of the two upserts is that of the first version
    rcases List.mem_pair.mp hmem with rfl | rfl
    · subst hkey
      have hlater : (2 : Int) ≤ 1 := hnewest 2 (Option.isSome_iff_exists.mpr ⟨_, hsecond⟩)
      omega
    · cases hactive

end ObjectAclEntries

end Collabio
