import Mathlib.Data.Prod.Lex
import Mathlib.Data.String.Basic
import Mathlib.Tactic
import Collabio.ControlPlane.Audit
import Collabio.Library.Ranking
import Collabio.Rag.Repositories

/-!
# Keyword search

* `tokenize`                      — the terms of a text;
* `InMemoryKeywordIndex.search`   — the tenant's active chunks that match, ranked and cut off;
* `KeywordSearchService.search`   — those of them the user may read, and the audit event.
-/

namespace Collabio

/-! ## Terms -/

/-- `[a-z0-9_]` without regard to case: four letters beyond ASCII match it too. -/
def isTokenChar (c : Char) : Bool :=
  Text.isAsciiLower c || ('A'.toNat ≤ c.toNat && c.toNat ≤ 'Z'.toNat) || Text.isAsciiDigit c ||
    c == '_' || c.toNat == 0x130 || c.toNat == 0x131 || c.toNat == 0x17F || c.toNat == 0x212A

/-- `str.lower` on those characters. -/
def lowerTokenChar (c : Char) : List Char :=
  if c.toNat = 0x130 then ['i', Char.ofNat 0x307]
  else if c.toNat = 0x212A then ['k']
  else [c.toLower]

/-- The runs of token characters, in lower case. -/
def tokenize (value : String) : List String :=
  ((value.toList.splitOnP fun c => !isTokenChar c).filter (· ≠ [])).map fun run =>
    String.ofList (run.flatMap lowerTokenChar)

/-! ## The index -/

def activeLifecycleState : String := "active"

/-- `__post_init__` refuses blank titles and texts. -/
structure KeywordIndexedChunk where
  metadata       : ChunkMetadata
  title          : String
  indexText      : String
  lifecycleState : String := activeLifecycleState
  titled         : Text.strip title ≠ ""
  indexed        : Text.strip indexText ≠ ""

/-- A score is a number of occurrences, as a float. -/
structure KeywordIndexCandidate where
  metadata : ChunkMetadata
  title    : String
  score    : Nat
  deriving DecidableEq, Repr

namespace KeywordIndexCandidate

/-- The sort key: falling score, then the ids. -/
def key (candidate : KeywordIndexCandidate) : ℤ ×ₗ String ×ₗ String ×ₗ String :=
  toLex (-(candidate.score : ℤ), toLex (candidate.metadata.sourceObjectId,
    toLex (candidate.metadata.sourceVersionId, candidate.metadata.chunkId)))

def ByKey (a b : KeywordIndexCandidate) : Prop := a.key ≤ b.key

instance : DecidableRel ByKey := fun a b => inferInstanceAs (Decidable (a.key ≤ b.key))

instance : IsTrans KeywordIndexCandidate ByKey := ⟨fun _ _ _ hab hbc => le_trans hab hbc⟩

instance : Std.Total ByKey := ⟨fun a b => le_total a.key b.key⟩

end KeywordIndexCandidate

/-- `search(tenant_id, query, top_k)`. -/
abbrev KeywordIndex :=
  (tenantId query : String) → (topK : Nat) → Except Exn (List KeywordIndexCandidate)

namespace InMemoryKeywordIndex

/-- How often the query's terms, each counted once, occur in the record. -/
def score (queryTerms : List String) (record : KeywordIndexedChunk) : Nat :=
  let tokens := tokenize (record.title ++ " " ++ record.indexText)
  (queryTerms.dedup.map fun term => tokens.count term).sum

/-- The candidate a record of the tenant becomes, if it is active and matches. -/
def candidate? (tenantId : String) (queryTerms : List String) (record : KeywordIndexedChunk) :
    Option KeywordIndexCandidate :=
  if record.metadata.tenantId ≠ tenantId then none
  else if record.lifecycleState ≠ activeLifecycleState then none
  else if score queryTerms record = 0 then none
  else some ⟨record.metadata, record.title, score queryTerms record⟩

/-- All candidates, before they are ranked and cut off. -/
def candidates (records : List KeywordIndexedChunk) (tenantId query : String) :
    List KeywordIndexCandidate :=
  if tokenize query = [] then [] else records.filterMap (candidate? tenantId (tokenize query))

def search (records : List KeywordIndexedChunk) : KeywordIndex := fun tenantId query topK =>
  .ok (((candidates records tenantId query).insertionSort KeywordIndexCandidate.ByKey).take topK)

end InMemoryKeywordIndex

/-! ## The service -/

def searchPolicyId : String := "keyword_candidate_acl_v1"

structure KeywordSearchQuery where
  query    : String
  topK     : Nat := 10
  nonempty : query ≠ ""
  bounds   : 1 ≤ topK ∧ topK ≤ 50 := by decide

structure KeywordSearchCandidate where
  objectId          : String
  objectType        : String
  versionId         : String
  chunkId           : String
  title             : String
  classification    : DataClass
  retentionPolicyId : String
  legalHoldState    : String
  aclVersion        : Int
  contentHash       : String
  score             : Nat
  accessChecked     : Bool := true
  deriving DecidableEq, Repr

structure KeywordSearchResponse where
  candidates     : List KeywordSearchCandidate
  searchPolicyId : String
  auditEventId   : String
  deriving DecidableEq, Repr

def candidateView (candidate : KeywordIndexCandidate) : KeywordSearchCandidate where
  objectId := candidate.metadata.sourceObjectId
  objectType := candidate.metadata.sourceObjectType
  versionId := candidate.metadata.sourceVersionId
  chunkId := candidate.metadata.chunkId
  title := candidate.title
  classification := candidate.metadata.classification
  retentionPolicyId := candidate.metadata.retentionPolicyId
  legalHoldState := candidate.metadata.legalHoldState
  aclVersion := candidate.metadata.aclVersion
  contentHash := candidate.metadata.contentHash
  score := candidate.score

def uniqueCandidateObjectIds (candidates : List KeywordSearchCandidate) : List String :=
  uniqueFrom [] (candidates.map (·.objectId))

def candidateRefs (candidates : List KeywordSearchCandidate) : List String :=
  candidates.map fun candidate =>
    candidate.objectId ++ ":" ++ candidate.versionId ++ ":" ++ candidate.chunkId

structure KeywordSearchService where
  hashes        : HashFunctions
  index         : KeywordIndex
  aclAuthorizer : AclAuthorizer

namespace KeywordSearchService

/-- The ACL check of one candidate, once its tenant is the user's. -/
def canRead (service : KeywordSearchService) (user : UserContext) (metadata : ChunkMetadata) :
    Except Exn Bool :=
  if metadata.tenantId ≠ user.tenantId then .ok false
  else service.aclAuthorizer user metadata.sourceObjectId metadata.aclVersion

/-- The loop over the candidates. -/
def authorizedCandidates (service : KeywordSearchService) (user : UserContext) :
    List KeywordIndexCandidate → Except Exn (List KeywordSearchCandidate)
  | [] => .ok []
  | candidate :: rest => do
    let readable ← service.canRead user candidate.metadata
    let candidates ← authorizedCandidates service user rest
    return if readable then candidateView candidate :: candidates else candidates

/-- The metadata of the audit event. -/
def searchMetadata (candidateCount : Nat) (candidates : List KeywordSearchCandidate) :
    Dict String Json where
  items := [("candidate_count", .int candidateCount),
    ("authorized_candidate_count", .int candidates.length),
    ("authorized_candidate_refs", .arr ((candidateRefs candidates).map .str)),
    ("authorized_source_data_classes",
      .arr ((Text.sortedSet (candidates.map (·.classification.value))).map .str)),
    ("index_kind", .str "keyword"),
    ("result_contract", .str "candidate_only"),
    ("search_policy_id", .str searchPolicyId)]
  nodup := by
    show ["candidate_count", "authorized_candidate_count", "authorized_candidate_refs",
      "authorized_source_data_classes", "index_kind", "result_contract", "search_policy_id"].Nodup
    decide

/-- The authorized candidates of a query, with their number before authorization. -/
def retrieve (service : KeywordSearchService) (query : KeywordSearchQuery) (user : UserContext) :
    Except Exn (Nat × List KeywordSearchCandidate) := do
  let candidates ← service.index user.tenantId query.query query.topK
  let authorized ← service.authorizedCandidates user candidates
  return (candidates.length, authorized)

def search (service : KeywordSearchService) (query : KeywordSearchQuery) (user : UserContext)
    (eventId : String) : Eff Exn (List AuditEvent) KeywordSearchResponse := do
  let (candidateCount, candidates) ← Eff.lift (service.retrieve query user)
  let auditEvent ← record service.hashes {
    eventId := eventId
    userContext := user
    eventType := "search.keyword.query"
    sourceObjectIds := uniqueCandidateObjectIds candidates
    inputText := some query.query
    metadata := searchMetadata candidateCount candidates }
  return ⟨candidates, searchPolicyId, auditEvent.eventId⟩

end KeywordSearchService

end Collabio
