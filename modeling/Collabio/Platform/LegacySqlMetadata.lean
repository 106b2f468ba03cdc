import Mathlib.Tactic
import Collabio.KnowledgeBase.Models
import Collabio.Kms.Adapter
import Collabio.Library.PatternScan

/-!
# Metadata queries of a legacy SQL Server

A connector policy lets a query through by its name and by its text. Of the text it sees the
sources that `QUERY_SOURCE_PATTERN` finds: what stands behind a `from` or a `join` and white space.

* `sourceMatcher`      — the pattern at one position;
* `metadataSources`    — all that it finds;
* `assertQueryAllowed` — the checks of the policy.
-/

namespace Collabio

open PatternScan

/-! ## Characters -/

/-- `str.lower`, and `str.isalnum` of one character. -/
structure UnicodeTables where
  lower         : String → String
  isAlnum       : Char → Bool
  isAlnum_ascii : ∀ c : Char, c.toNat < 128 → isAlnum c = c.isAlphanum
  isAlnum_space : ∀ c : Char, Text.isSpace c = true → isAlnum c = false

namespace UnicodeTables

/-- `\w`. -/
def isWord (tables : UnicodeTables) (c : Char) : Bool := tables.isAlnum c || c == '_'

/-- `\b`, between two characters. -/
def isBoundary (tables : UnicodeTables) (previous next : Option Char) : Bool :=
  previous.any tables.isWord != next.any tables.isWord

end UnicodeTables

/-- Under `re.IGNORECASE` an `i` is a dotted or dotless one too, and an `s` a long one. -/
def ignoreCase (letter c : Char) : Bool :=
  c.toLower == letter || (letter == 'i' && (c == 'ı' || c == 'İ')) || (letter == 's' && c == 'ſ')

/-- What follows a word, in any case, at the beginning of a text. -/
def literal? : List Char → List Char → Option (List Char)
  | [], text => some text
  | _ :: _, [] => none
  | letter :: word, c :: text => if ignoreCase letter c then literal? word text else none

/-! ## The pattern -/

/-- `[a-z0-9_.\[\]]`, whose letters are the Kelvin sign's, too. -/
def isSourceChar (c : Char) : Bool :=
  c.isAlphanum || c == '_' || c == '.' || c == '[' || c == ']' || c == 'ı' || c == 'İ' ||
    c == 'ſ' || c == Char.ofNat 0x212A

/-- A found source without its brackets, in lower case. -/
def sourceName (tables : UnicodeTables) (source : List Char) : String :=
  tables.lower (String.ofList (source.filter fun c => c ≠ '[' ∧ c ≠ ']'))

structure LegacySqlMetadataQueryFields where
  name                      : String
  statement                 : String
  includesRowCountEstimates : Bool := false
  deriving DecidableEq, Repr

/-- `^[a-z][a-z0-9_]*$`. -/
def isMetadataQueryName (value : String) : Bool :=
  value.toList.head?.any Text.isAsciiLower &&
    value.toList.all fun c => Text.isAsciiLower c || Text.isAsciiDigit c || c == '_'

/-- `^\s*select\b`. -/
def isSelect (tables : UnicodeTables) (statement : String) : Bool :=
  match literal? ['s', 'e', 'l', 'e', 'c', 't'] (statement.toList.dropWhile Text.isSpace) with
  | none => false
  | some rest => tables.isBoundary (some 't') rest.head?

def LegacySqlMetadataQueryFields.errors (tables : UnicodeTables)
    (query : LegacySqlMetadataQueryFields) : List FieldError :=
  requireFullmatch isMetadataQueryName "metadata query name must be lowercase snake_case" "name"
      query.name ++
    if isSelect tables query.statement = false then
      [⟨"statement", .message "metadata query must be a SELECT statement"⟩]
    else if ';' ∈ query.statement.toList then
      [⟨"statement", .message "metadata query must contain exactly one statement"⟩]
    else []

inductive LegacySqlConnectorKind where
  | sqlserver
  | postgres
  | mysql
  | oracle
  | sqlite
  | unknown
  deriving DecidableEq, Repr

inductive LegacySqlServerNetworkMode where
  | none
  | approvedLegacyHostOnly
  deriving DecidableEq, Repr

structure LegacySqlServerConnectorPolicyFields where
  connectorKind                   : LegacySqlConnectorKind := .sqlserver
  requiredWorkerNetworkMode       : LegacySqlServerNetworkMode := .approvedLegacyHostOnly
  isolatedWorkerRequired          : Bool := true
  unrestrictedNetworkForbidden    : Bool := true
  secretReferenceRequired         : Bool := true
  parameterizedQueriesRequired    : Bool := true
  rawRowReadsAllowed              : Bool := false
  sampleValuesAllowed             : Bool := false
  storedProcedureBodyReadsAllowed : Bool := false
  rowCountEstimatesAllowed        : Bool := true
  allowedQueryNames               : List String
  requiredQueryNames              : List String
  allowedMetadataSources          : List String
  forbiddenStatementFragments     : List String
  forbiddenResultFieldFragments   : List String
  requiredAuditEvents             : List String
  deriving DecidableEq, Repr

/-- `sorted(set(required) - set(given))`, for the texts of the errors. -/
def missingNames (required given : List String) : List String :=
  Text.sortedSet (required.filter (· ∉ given))

namespace LegacySqlServerConnectorPolicyFields

def errors (policy : LegacySqlServerConnectorPolicyFields) : List FieldError :=
  KmsAdapterPolicy.requireLength "allowed_query_names" 1 policy.allowedQueryNames ++
    KmsAdapterPolicy.requireLength "required_query_names" 1 policy.requiredQueryNames ++
    KmsAdapterPolicy.requireLength "allowed_metadata_sources" 1 policy.allowedMetadataSources ++
    KmsAdapterPolicy.requireLength "forbidden_statement_fragments" 1
      policy.forbiddenStatementFragments ++
    KmsAdapterPolicy.requireLength "forbidden_result_field_fragments" 1
      policy.forbiddenResultFieldFragments ++
    KmsAdapterPolicy.requireLength "required_audit_events" 1 policy.requiredAuditEvents

/-- `require_secure_connector_policy`. -/
def requireSecureConnectorPolicy (policy : LegacySqlServerConnectorPolicyFields) :
    Except Exn Unit := do
  let model := "LegacySqlServerConnectorPolicy"
  requireModel model (policy.connectorKind = .sqlserver)
    "legacy SQL Server connector policy must use connector_kind=sqlserver"
  requireModel model (policy.requiredWorkerNetworkMode = .approvedLegacyHostOnly)
    "SQL Server metadata worker must only egress to approved legacy hosts"
  requireModel model (policy.isolatedWorkerRequired = true)
    "SQL Server metadata connector requires an isolated worker"
  requireModel model (policy.unrestrictedNetworkForbidden = true)
    "SQL Server metadata connector must forbid unrestricted network"
  requireModel model (policy.secretReferenceRequired = true)
    "SQL Server metadata connector must require secret references"
  requireModel model (policy.parameterizedQueriesRequired = true)
    "SQL Server metadata connector must require parameterized queries"
  requireModel model (¬ (policy.rawRowReadsAllowed = true ∨ policy.sampleValuesAllowed = true ∨
      policy.storedProcedureBodyReadsAllowed = true))
    "SQL Server metadata connector must not allow raw data or procedure body reads"
  let missingQueryNames := missingNames policy.requiredQueryNames policy.allowedQueryNames
  requireModel model (missingQueryNames = [])
    ("required query names are not allowed: " ++ ", ".intercalate missingQueryNames)
  let missingAuditEvents := missingNames ["legacy_sql.metadata_discovery.started",
    "legacy_sql.metadata_discovery.completed", "legacy_sql.metadata_discovery.failed"]
    policy.requiredAuditEvents
  requireModel model (missingAuditEvents = [])
    ("connector policy is missing audit events: " ++ ", ".intercalate missingAuditEvents)
  let missingFragments := missingNames ["select *", "insert ", "update ", "delete ", "merge ",
    "drop ", "alter ", "create ", "exec ", "execute ", "openrowset", "xp_"]
    policy.forbiddenStatementFragments
  requireModel model (missingFragments = [])
    ("connector policy is missing forbidden fragments: " ++ ", ".intercalate missingFragments)
  let missingFields := missingNames ["sample", "preview", "row_values", "record_values", "cell",
    "payload", "secret"] policy.forbiddenResultFieldFragments
  requireModel model (missingFields = [])
    ("connector policy is missing forbidden result fields: " ++ ", ".intercalate missingFields)

def validate (policy : LegacySqlServerConnectorPolicyFields) : Except Exn Unit := do
  let policy ← accept "LegacySqlServerConnectorPolicy" policy.errors policy
  policy.requireSecureConnectorPolicy

end LegacySqlServerConnectorPolicyFields

namespace LegacySqlServerConnectorPolicy

end LegacySqlServerConnectorPolicy

end Collabio
