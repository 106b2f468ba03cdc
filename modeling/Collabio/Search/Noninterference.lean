import Mathlib.Tactic
import Collabio.Library.Ranking
import Collabio.Rag.Pipeline
import Collabio.Search.Keyword

/-!
# What rejected chunks change in a retrieval

Retrieval ranks, cuts off at `top_k` and only then asks for authorization, so a
chunk that is rejected may have displaced one that is not.

* `RagStore.SameAccepted`, `SameAcceptedRecords` — two stores that differ only in
  what the authorization step rejects;
* `Comparison`                — two selections that begin one ranked list;
* `retrieval_noninterference` — they are the same exactly if equally many of the
  first `top_k` are not rejected;
* `retrieval_interference`    — two stores where they are not.
-/

namespace Collabio

/-- Two selections from one ranked list, of `n₁` and of `n₂` elements. -/
structure Comparison {A : Type} (n₁ n₂ : Nat) (selected₁ selected₂ : Except Exn (List A)) :
    Prop where
  same     : n₁ = n₂ → selected₁ = selected₂
  prefixes : ∀ l₁ l₂, selected₁ = .ok l₁ → selected₂ = .ok l₂ → l₁ <+: l₂ ∨ l₂ <+: l₁
  differ   : ∀ l₁ l₂, selected₁ = .ok l₁ → selected₂ = .ok l₂ → (l₁ = l₂ ↔ n₁ = n₂)

namespace Comparison

/-- **Two selections**, each mapped by code that may raise. -/
theorem of_prefixes {A B : Type} {ranked t₁ t₂ : List A} (h₁ : t₁ <+: ranked) (h₂ : t₂ <+: ranked)
    (f : A → Except Exn B) : Comparison t₁.length t₂.length (t₁.mapM f) (t₂.mapM f) := by
  -- of two beginnings of one list, one begins the other
  have hbeginnings : ∀ l₁ l₂, t₁.mapM f = .ok l₁ → t₂.mapM f = .ok l₂ → l₁ <+: l₂ ∨ l₂ <+: l₁ := by
    intro l₁ l₂ hl₁ hl₂
    rcases List.prefix_or_prefix_of_prefix h₁ h₂ with h | h
    · exact .inl (Except.prefix_of_mapM h hl₁ hl₂)
    · exact .inr (Except.prefix_of_mapM h hl₂ hl₁)
  refine { same := ?_, prefixes := hbeginnings, differ := ?_ }
  · intro hlength
    rw [List.prefix_iff_eq_take.mp h₁, List.prefix_iff_eq_take.mp h₂, hlength]
  · intro l₁ l₂ hl₁ hl₂
    rw [← Except.length_of_mapM hl₁, ← Except.length_of_mapM hl₂]
    constructor
    · intro h
      rw [h]
    · intro hlength
      rcases hbeginnings l₁ l₂ hl₁ hl₂ with h | h
      · exact h.eq_of_length hlength
      · exact (h.eq_of_length hlength.symm).symm

end Comparison

/-! ## Retrieval for an answer -/

/-- What the in-memory vector store and chunk repository hold. -/
structure RagStore (Score : Type) where
  candidates : List (VectorCandidate Score)
  chunks     : Dict (String × String × String × String) SourceChunk

namespace AuthorizedChunkRepository

variable {Score : Type}

/-- A candidate with what is read for it; nothing if it is rejected. -/
def outcome (repository : AuthorizedChunkRepository) (user : UserContext)
    (candidate : VectorCandidate Score) : Option (VectorCandidate Score × Except Exn SourceChunk) :=
  match repository.getAuthorizedChunk user candidate with
  | .ok none => none
  | .ok (some chunk) => some (candidate, .ok chunk)
  | .error exn => some (candidate, .error exn)

/-- The chunk of an outcome, with its candidate. -/
def chunkOf (outcome : VectorCandidate Score × Except Exn SourceChunk) :
    Except Exn (VectorCandidate Score × SourceChunk) :=
  outcome.2.map fun chunk => (outcome.1, chunk)

theorem outcome_fst {repository : AuthorizedChunkRepository} {user : UserContext}
    {candidate : VectorCandidate Score} {o : VectorCandidate Score × Except Exn SourceChunk}
    (h : repository.outcome user candidate = some o) : o.1 = candidate := by
  unfold outcome at h
  split at h <;> cases h <;> rfl

/-- A candidate of another tenant is rejected. -/
theorem outcome_of_tenant_ne {repository : AuthorizedChunkRepository} {user : UserContext}
    {candidate : VectorCandidate Score} (h : candidate.metadata.tenantId ≠ user.tenantId) :
    repository.outcome user candidate = none := by
  rw [outcome, getAuthorizedChunk, if_pos h]

variable [LinearOrder Score]

/-- Outcomes are ranked as their candidates. -/
theorem outcome_follows (repository : AuthorizedChunkRepository) (user : UserContext) :
    Ranking.Follows ByScore (fun a b => ByScore a.1 b.1)
      (@outcome Score repository user) := by
  intro a b a' b' ha hb
  show ByScore a b ↔ ByScore a'.1 b'.1
  rw [outcome_fst ha, outcome_fst hb]

end AuthorizedChunkRepository

/-- The loop of `answer` over its candidates, by their outcomes. -/
theorem RagPipeline.authorizedChunks_eq {Score : Type} (repository : AuthorizedChunkRepository)
    (user : UserContext) (candidates : List (VectorCandidate Score)) :
    authorizedChunks repository user candidates =
      (candidates.filterMap (repository.outcome user)).mapM
        AuthorizedChunkRepository.chunkOf := by
  induction candidates with
  | nil => rfl
  | cons candidate rest ih =>
    rw [authorizedChunks, ih]
    cases hchunk : repository.getAuthorizedChunk user candidate with
    | error exn =>
      have houtcome : repository.outcome user candidate = some (candidate, .error exn) := by
        rw [AuthorizedChunkRepository.outcome, hchunk]
      rw [List.filterMap_cons_some houtcome, List.mapM_cons]
      rfl
    | ok chunk? =>
      cases chunk? with
      -- a candidate that is skipped has no outcome
      | none =>
        have houtcome : repository.outcome user candidate = none := by
          rw [AuthorizedChunkRepository.outcome, hchunk]
        rw [List.filterMap_cons_none houtcome]
        cases (rest.filterMap (repository.outcome user)).mapM
          AuthorizedChunkRepository.chunkOf <;> rfl
      | some chunk =>
        have houtcome : repository.outcome user candidate = some (candidate, .ok chunk) := by
          rw [AuthorizedChunkRepository.outcome, hchunk]
        rw [List.filterMap_cons_some houtcome, List.mapM_cons]
        rfl

namespace RagPipeline

variable {Score : Type}

/-- The blocks an answer quotes. -/
def sourceBlocks (pipeline : RagPipeline Score) (query : RagQuery) (user : UserContext)
    (policy : TenantPolicy) : Except Exn (List String) :=
  (pipeline.retrieve query user policy).map fun retrieved =>
    retrieved.2.map fun pair => pair.2.contextBlock

end RagPipeline

namespace RagStore

variable {Score : Type} (store store₁ store₂ : RagStore Score) (aclAuthorizer : AclAuthorizer)
  (gateway : LocalLlmGateway) (user : UserContext)

def repository : AuthorizedChunkRepository :=
  ⟨InMemorySourceChunkRepository.getChunk store.chunks, aclAuthorizer⟩

/-- The candidates of the user's tenant. -/
def ofTenant : List (VectorCandidate Score) :=
  store.candidates.filter fun candidate => candidate.metadata.tenantId = user.tenantId

/-- **The stores differ in rejected chunks only.** -/
def SameAccepted : Prop :=
  store₁.candidates.filterMap ((store₁.repository aclAuthorizer).outcome user) =
    store₂.candidates.filterMap ((store₂.repository aclAuthorizer).outcome user)

/-- What is rejected includes every other tenant's. -/
theorem filterMap_ofTenant :
    (store.ofTenant user).filterMap ((store.repository aclAuthorizer).outcome user) =
      store.candidates.filterMap ((store.repository aclAuthorizer).outcome user) := by
  rw [ofTenant, List.filterMap_filter]
  apply List.filterMap_congr
  intro candidate _
  by_cases htenant : candidate.metadata.tenantId = user.tenantId
  · simp [htenant]
  · simp [htenant, AuthorizedChunkRepository.outcome_of_tenant_ne]

variable [LinearOrder Score]

def pipeline : RagPipeline Score :=
  ⟨InMemoryVectorStore.search store.candidates, store.repository aclAuthorizer, gateway⟩

/-- The outcomes that are not rejections, of the first `k` candidates. -/
def selected (k : Nat) : List (VectorCandidate Score × Except Exn SourceChunk) :=
  Ranking.topK ByScore ((store.repository aclAuthorizer).outcome user) k (store.ofTenant user)

/-- How many of the first `k` candidates are not rejected. -/
def acceptedAmongFirst (k : Nat) : Nat := (store.selected aclAuthorizer user k).length

/-- Retrieval selects, then reads. -/
theorem retrieve_pipeline (query : RagQuery) (policy : TenantPolicy) :
    (store.pipeline aclAuthorizer gateway).retrieve query user policy = (do
      PolicyEngine.authorizeRag user policy
      let chunks ← (store.selected aclAuthorizer user query.topK).mapM
        AuthorizedChunkRepository.chunkOf
      return (min query.topK (store.ofTenant user).length, chunks)) := by
  have hsearch : (store.pipeline aclAuthorizer gateway).vectorStore user.tenantId query.question
      query.topK = .ok (((store.ofTenant user).insertionSort ByScore).take query.topK) := rfl
  rw [RagPipeline.retrieve, hsearch]
  cases PolicyEngine.authorizeRag user policy with
  | error exn => rfl
  | ok _ =>
    show (RagPipeline.authorizedChunks (store.repository aclAuthorizer) user _ >>= _) = _
    rw [RagPipeline.authorizedChunks_eq, List.length_take, List.length_insertionSort]
    rfl

/-- Equally many accepted, the same accepted. -/
theorem selected_eq (h : SameAccepted store₁ store₂ aclAuthorizer user) {k : Nat}
    (hcount : store₁.acceptedAmongFirst aclAuthorizer user k =
      store₂.acceptedAmongFirst aclAuthorizer user k) :
    store₁.selected aclAuthorizer user k = store₂.selected aclAuthorizer user k := by
  refine (Ranking.topK_eq_iff (AuthorizedChunkRepository.outcome_follows _ _)
    (AuthorizedChunkRepository.outcome_follows _ _) ?_).mpr hcount
  rw [filterMap_ofTenant, filterMap_ofTenant, h]

/-- Where nothing is cut off, equally many are accepted. -/
theorem acceptedAmongFirst_eq (h : SameAccepted store₁ store₂ aclAuthorizer user) {k : Nat}
    (h₁ : (store₁.ofTenant user).length ≤ k) (h₂ : (store₂.ofTenant user).length ≤ k) :
    store₁.acceptedAmongFirst aclAuthorizer user k =
      store₂.acceptedAmongFirst aclAuthorizer user k := by
  rw [acceptedAmongFirst, acceptedAmongFirst, selected, selected,
    Ranking.topK_of_length_le (AuthorizedChunkRepository.outcome_follows _ _) h₁,
    Ranking.topK_of_length_le (AuthorizedChunkRepository.outcome_follows _ _) h₂,
    filterMap_ofTenant, filterMap_ofTenant, h]

/-- **The blocks** of two stores. -/
theorem sourceBlocks_comparison (h : SameAccepted store₁ store₂ aclAuthorizer user)
    (query : RagQuery) (policy : TenantPolicy) :
    Comparison (store₁.acceptedAmongFirst aclAuthorizer user query.topK)
      (store₂.acceptedAmongFirst aclAuthorizer user query.topK)
      ((store₁.pipeline aclAuthorizer gateway).sourceBlocks query user policy)
      ((store₂.pipeline aclAuthorizer gateway).sourceBlocks query user policy) := by
  have hblocks : ∀ store : RagStore Score,
      (store.pipeline aclAuthorizer gateway).sourceBlocks query user policy = (do
        PolicyEngine.authorizeRag user policy
        (store.selected aclAuthorizer user query.topK).mapM fun outcome =>
          (AuthorizedChunkRepository.chunkOf outcome).map fun pair => pair.2.contextBlock) := by
    intro store
    rw [RagPipeline.sourceBlocks, retrieve_pipeline, ← Except.map_mapM]
    cases PolicyEngine.authorizeRag user policy with
    | error exn => rfl
    | ok _ =>
      cases (store.selected aclAuthorizer user query.topK).mapM
        AuthorizedChunkRepository.chunkOf <;> rfl
  rw [hblocks store₁, hblocks store₂]
  cases PolicyEngine.authorizeRag user policy with
  | error exn =>
    -- refused before anything is retrieved
    refine { same := fun _ => rfl, prefixes := ?_, differ := ?_ }
    · intro l₁ l₂ hl₁
      cases hl₁
    · intro l₁ l₂ hl₁
      cases hl₁
  | ok _ =>
    -- both selections begin the ranked list of what either store has accepted
    have hbegins₂ := Ranking.topK_prefix (AuthorizedChunkRepository.outcome_follows
      (store₂.repository aclAuthorizer) user) query.topK (store₂.ofTenant user)
    rw [filterMap_ofTenant, ← h, ← filterMap_ofTenant] at hbegins₂
    exact Comparison.of_prefixes (Ranking.topK_prefix (AuthorizedChunkRepository.outcome_follows
      (store₁.repository aclAuthorizer) user) query.topK (store₁.ofTenant user)) hbegins₂ _

/-- **The prompt**: the same selection makes the same provider call. -/
theorem providerCalls_eq (h : SameAccepted store₁ store₂ aclAuthorizer user) (query : RagQuery)
    (policy : TenantPolicy) (hcount : store₁.acceptedAmongFirst aclAuthorizer user query.topK =
      store₂.acceptedAmongFirst aclAuthorizer user query.topK)
    (eventIds : RagPipeline.EventIds) (world : AiWorld) :
    ((store₁.pipeline aclAuthorizer gateway).answer query user policy eventIds
        world).2.providerCalls =
      ((store₂.pipeline aclAuthorizer gateway).answer query user policy eventIds
        world).2.providerCalls := by
  rw [RagPipeline.answer_calls, RagPipeline.answer_calls, retrieve_pipeline, retrieve_pipeline,
    selected_eq store₁ store₂ aclAuthorizer user h hcount]
  cases PolicyEngine.authorizeRag user policy with
  | error exn => rfl
  | ok _ =>
    cases (store₂.selected aclAuthorizer user query.topK).mapM
      AuthorizedChunkRepository.chunkOf <;> rfl

end RagStore

/-! ## Keyword search -/

namespace KeywordSearchService

variable (service : KeywordSearchService) (user : UserContext)

/-- `can_read` is false for the record, or it is another tenant's. -/
def rejects (metadata : ChunkMetadata) : Bool :=
  match service.canRead user metadata with
  | .ok false => true
  | _ => false

/-- A candidate with the result of its check; nothing if it is rejected. -/
def outcome (candidate : KeywordIndexCandidate) : Option (KeywordIndexCandidate × Except Exn Unit) :=
  match service.canRead user candidate.metadata with
  | .ok false => none
  | .ok true => some (candidate, .ok ())
  | .error exn => some (candidate, .error exn)

/-- The view of an outcome. -/
def viewOf (outcome : KeywordIndexCandidate × Except Exn Unit) : Except Exn KeywordSearchCandidate :=
  outcome.2.map fun _ => candidateView outcome.1

variable {service user}

theorem outcome_eq_none {candidate : KeywordIndexCandidate} :
    service.outcome user candidate = none ↔ service.rejects user candidate.metadata = true := by
  unfold outcome rejects
  split <;> simp_all

theorem outcome_fst {candidate : KeywordIndexCandidate}
    {o : KeywordIndexCandidate × Except Exn Unit} (h : service.outcome user candidate = some o) :
    o.1 = candidate := by
  unfold outcome at h
  split at h <;> cases h <;> rfl

/-- Outcomes are ranked as their candidates. -/
theorem outcome_follows :
    Ranking.Follows KeywordIndexCandidate.ByKey
      (fun a b => KeywordIndexCandidate.ByKey a.1 b.1) (service.outcome user) := by
  intro a b a' b' ha hb
  show a.ByKey b ↔ a'.1.ByKey b'.1
  rw [outcome_fst ha, outcome_fst hb]

/-- The loop of `search` over its candidates, by their outcomes. -/
theorem authorizedCandidates_eq (candidates : List KeywordIndexCandidate) :
    service.authorizedCandidates user candidates =
      (candidates.filterMap (service.outcome user)).mapM viewOf := by
  induction candidates with
  | nil => rfl
  | cons candidate rest ih =>
    rw [authorizedCandidates, ih]
    cases hread : service.canRead user candidate.metadata with
    | error exn =>
      have houtcome : service.outcome user candidate = some (candidate, .error exn) := by
        rw [outcome, hread]
      rw [List.filterMap_cons_some houtcome, List.mapM_cons]
      rfl
    | ok readable =>
      cases readable with
      -- a candidate that may not be read has no outcome
      | false =>
        have houtcome : service.outcome user candidate = none := by
          rw [outcome, hread]
        rw [List.filterMap_cons_none houtcome]
        cases (rest.filterMap (service.outcome user)).mapM viewOf <;> rfl
      | true =>
        have houtcome : service.outcome user candidate = some (candidate, .ok ()) := by
          rw [outcome, hread]
        rw [List.filterMap_cons_some houtcome, List.mapM_cons]
        rfl

end KeywordSearchService

namespace InMemoryKeywordIndex

/-- A candidate keeps its record's metadata. -/
theorem candidate?_metadata {tenantId : String} {queryTerms : List String}
    {record : KeywordIndexedChunk} {candidate : KeywordIndexCandidate}
    (h : candidate? tenantId queryTerms record = some candidate) :
    candidate.metadata = record.metadata := by
  unfold candidate? at h
  split at h
  · cases h
  · split at h
    · cases h
    · split at h <;> cases h
      rfl

end InMemoryKeywordIndex

namespace KeywordSearchService

variable (service : KeywordSearchService) (user : UserContext)
  (records records₁ records₂ : List KeywordIndexedChunk)

/-- The service over these records. -/
def withRecords : KeywordSearchService := { service with index := InMemoryKeywordIndex.search records }

/-- The outcomes that are not rejections, of the first `k` candidates of a query. -/
def selected (query : String) (k : Nat) : List (KeywordIndexCandidate × Except Exn Unit) :=
  Ranking.topK KeywordIndexCandidate.ByKey (service.outcome user) k
    (InMemoryKeywordIndex.candidates records user.tenantId query)

/-- How many of the first `k` candidates are not rejected. -/
def acceptedAmongFirst (query : String) (k : Nat) : Nat :=
  (service.selected user records query k).length

/-- **The records differ in unreadable ones only.** -/
def SameAccepted : Prop :=
  records₁.filter (fun record => !service.rejects user record.metadata) =
    records₂.filter (fun record => !service.rejects user record.metadata)

/-- Rejected candidates come from rejected records. -/
theorem filterMap_candidates (query : String) :
    (InMemoryKeywordIndex.candidates records user.tenantId query).filterMap
        (service.outcome user) =
      (InMemoryKeywordIndex.candidates
        (records.filter fun record => !service.rejects user record.metadata) user.tenantId
          query).filterMap (service.outcome user) := by
  unfold InMemoryKeywordIndex.candidates
  split
  · rfl
  · rw [List.filterMap_filterMap, List.filterMap_filterMap, List.filterMap_filter]
    apply List.filterMap_congr
    intro record _
    cases hrejects : service.rejects user record.metadata with
    | false => rfl
    | true =>
      show Option.bind _ _ = none
      rw [Option.bind_eq_none_iff]
      intro candidate hcandidate
      rw [outcome_eq_none, InMemoryKeywordIndex.candidate?_metadata hcandidate]
      exact hrejects

theorem filterMap_candidates_eq (h : service.SameAccepted user records₁ records₂)
    (query : String) :
    (InMemoryKeywordIndex.candidates records₁ user.tenantId query).filterMap
        (service.outcome user) =
      (InMemoryKeywordIndex.candidates records₂ user.tenantId query).filterMap
        (service.outcome user) := by
  rw [filterMap_candidates, h, ← filterMap_candidates]

/-- Where nothing is cut off, equally many are accepted. -/
theorem acceptedAmongFirst_eq (h : service.SameAccepted user records₁ records₂) (query : String)
    {k : Nat} (h₁ : (InMemoryKeywordIndex.candidates records₁ user.tenantId query).length ≤ k)
    (h₂ : (InMemoryKeywordIndex.candidates records₂ user.tenantId query).length ≤ k) :
    service.acceptedAmongFirst user records₁ query k =
      service.acceptedAmongFirst user records₂ query k := by
  rw [acceptedAmongFirst, acceptedAmongFirst, selected, selected,
    Ranking.topK_of_length_le outcome_follows h₁, Ranking.topK_of_length_le outcome_follows h₂,
    service.filterMap_candidates_eq user records₁ records₂ h]

/-- The candidates that `search` returns: selected, then viewed. -/
theorem search_withRecords (query : KeywordSearchQuery) (eventId : String) (log : List AuditEvent) :
    ((service.withRecords records).search query user eventId log).1.map
        KeywordSearchResponse.candidates =
      (service.selected user records query.query query.topK).mapM viewOf := by
  have hretrieve : (service.withRecords records).retrieve query user = (do
      let views ← (service.selected user records query.query query.topK).mapM viewOf
      return (min query.topK
        (InMemoryKeywordIndex.candidates records user.tenantId query.query).length, views)) := by
    -- which index there is makes no difference to the check
    have houtcome : (service.withRecords records).outcome user = service.outcome user := rfl
    show ((service.withRecords records).authorizedCandidates user _ >>= _) = _
    rw [authorizedCandidates_eq, houtcome, List.length_take, List.length_insertionSort]
    rfl
  rw [search, Eff.lift_bind_apply, hretrieve]
  cases (service.selected user records query.query query.topK).mapM viewOf <;> rfl

/-- **The candidates** of two indexes. -/
theorem search_comparison (h : service.SameAccepted user records₁ records₂)
    (query : KeywordSearchQuery) (eventId₁ eventId₂ : String) (log₁ log₂ : List AuditEvent) :
    Comparison (service.acceptedAmongFirst user records₁ query.query query.topK)
      (service.acceptedAmongFirst user records₂ query.query query.topK)
      (((service.withRecords records₁).search query user eventId₁ log₁).1.map
        KeywordSearchResponse.candidates)
      (((service.withRecords records₂).search query user eventId₂ log₂).1.map
        KeywordSearchResponse.candidates) := by
  rw [search_withRecords, search_withRecords]
  have hbegins₂ := Ranking.topK_prefix (@outcome_follows service user)
    query.topK (InMemoryKeywordIndex.candidates records₂ user.tenantId query.query)
  rw [← service.filterMap_candidates_eq user records₁ records₂ h] at hbegins₂
  exact Comparison.of_prefixes (Ranking.topK_prefix outcome_follows query.topK _) hbegins₂ _

end KeywordSearchService

/-! ## Both -/

/-- What two stores that differ in rejected chunks show of them through an answer. -/
structure RagInfluence {Score : Type} [LinearOrder Score] (aclAuthorizer : AclAuthorizer)
    (gateway : LocalLlmGateway) (user : UserContext) (query : RagQuery) (policy : TenantPolicy)
    (store₁ store₂ : RagStore Score) : Prop where
  blocks : Comparison (store₁.acceptedAmongFirst aclAuthorizer user query.topK)
    (store₂.acceptedAmongFirst aclAuthorizer user query.topK)
    ((store₁.pipeline aclAuthorizer gateway).sourceBlocks query user policy)
    ((store₂.pipeline aclAuthorizer gateway).sourceBlocks query user policy)
  prompt : store₁.acceptedAmongFirst aclAuthorizer user query.topK =
      store₂.acceptedAmongFirst aclAuthorizer user query.topK → ∀ eventIds world,
    ((store₁.pipeline aclAuthorizer gateway).answer query user policy eventIds
        world).2.providerCalls =
      ((store₂.pipeline aclAuthorizer gateway).answer query user policy eventIds
        world).2.providerCalls
  uncut  : (store₁.ofTenant user).length ≤ query.topK → (store₂.ofTenant user).length ≤ query.topK →
    store₁.acceptedAmongFirst aclAuthorizer user query.topK =
      store₂.acceptedAmongFirst aclAuthorizer user query.topK

/-- What two indexes that differ in unreadable records show of them through a search. -/
structure KeywordInfluence (service : KeywordSearchService) (user : UserContext)
    (query : KeywordSearchQuery) (records₁ records₂ : List KeywordIndexedChunk) : Prop where
  candidates : ∀ eventId₁ eventId₂ log₁ log₂,
    Comparison (service.acceptedAmongFirst user records₁ query.query query.topK)
      (service.acceptedAmongFirst user records₂ query.query query.topK)
      (((service.withRecords records₁).search query user eventId₁ log₁).1.map
        KeywordSearchResponse.candidates)
      (((service.withRecords records₂).search query user eventId₂ log₂).1.map
        KeywordSearchResponse.candidates)
  uncut      : (InMemoryKeywordIndex.candidates records₁ user.tenantId query.query).length ≤
      query.topK →
    (InMemoryKeywordIndex.candidates records₂ user.tenantId query.query).length ≤ query.topK →
    service.acceptedAmongFirst user records₁ query.query query.topK =
      service.acceptedAmongFirst user records₂ query.query query.topK

/-- **What rejected chunks change.** Two stores that differ in nothing else select
beginnings of one list, the same exactly if equally many of the first `top_k`
candidates are not rejected. -/
theorem retrieval_noninterference {Score : Type} [LinearOrder Score]
    (aclAuthorizer : AclAuthorizer) (gateway : LocalLlmGateway) (service : KeywordSearchService)
    (user : UserContext) (store₁ store₂ : RagStore Score)
    (records₁ records₂ : List KeywordIndexedChunk)
    (hstores : RagStore.SameAccepted store₁ store₂ aclAuthorizer user)
    (hrecords : service.SameAccepted user records₁ records₂) :
    (∀ query policy, RagInfluence aclAuthorizer gateway user query policy store₁ store₂) ∧
      ∀ query, KeywordInfluence service user query records₁ records₂ := by
  constructor
  · intro query policy
    exact {
      blocks := RagStore.sourceBlocks_comparison store₁ store₂ _ _ _ hstores query policy
      prompt := fun hcount => RagStore.providerCalls_eq store₁ store₂ _ _ _ hstores query policy
        hcount
      uncut := RagStore.acceptedAmongFirst_eq store₁ store₂ _ _ hstores }
  · intro query
    exact {
      candidates := service.search_comparison user records₁ records₂ hrecords query
      uncut := service.acceptedAmongFirst_eq user records₁ records₂ hrecords query.query }

/-! ## A displaced chunk -/

def sampleChunkMetadata (objectId : String) : ChunkMetadata where
  tenantId := "acme"
  sourceObjectId := objectId
  sourceObjectType := "document"
  sourceVersionId := "v1"
  chunkId := "c1"
  classification := .internal
  retentionPolicyId := "rp"
  legalHoldState := "none"
  aclHash := "sha256:acl"
  aclVersion := 1
  createdAtUtc := "2026-01-01T00:00:00Z"
  embeddingModelId := "m"
  embeddingModelVersion := "1"
  contentHash := "sha256:c"

def sampleReader : UserContext where
  userId := "alice"
  tenantId := "acme"

def sampleAcl : AclAuthorizer := fun _ objectId _ => .ok (objectId == "doc-1")

def sampleTenantPolicy : TenantPolicy where
  tenantId := "acme"
  aiEnabled := true
  ragEnabled := true

def sampleGateway : LocalLlmGateway := ⟨default, ∅, ∅, ⟨∅, ∅⟩, fun _ _ sources => .ok sources⟩

/-- `doc-1`, alone or with an unreadable object that scores higher. -/
def sampleStore (secret : List (VectorCandidate Nat)) : RagStore Nat where
  candidates := secret ++ [⟨"c1", 1, sampleChunkMetadata "doc-1"⟩]
  chunks := ⟨[(("acme", "doc-1", "v1", "c1"), ⟨sampleChunkMetadata "doc-1", "Title", "text"⟩)],
    List.nodup_singleton _⟩

def sampleSecret : VectorCandidate Nat := ⟨"c1", 2, sampleChunkMetadata "secret-1"⟩

def sampleQuery (topK : Nat) (h : 1 ≤ topK ∧ topK ≤ 10) : RagQuery := ⟨"which text?", topK, h⟩

def sampleIndexed (objectId text : String) (h : Text.strip text ≠ "") : KeywordIndexedChunk where
  metadata := sampleChunkMetadata objectId
  title := "title"
  indexText := text
  titled := by decide +kernel
  indexed := h

def sampleOpenRecord : KeywordIndexedChunk := sampleIndexed "doc-1" "text" (by decide +kernel)

def sampleSecretRecord : KeywordIndexedChunk :=
  sampleIndexed "secret-1" "text text" (by decide +kernel)

def sampleSearch : KeywordSearchService :=
  ⟨default, InMemoryKeywordIndex.search [], sampleAcl⟩

def sampleKeywordQuery (topK : Nat) (h : 1 ≤ topK ∧ topK ≤ 50) : KeywordSearchQuery :=
  ⟨"text", topK, by decide, h⟩

theorem sampleStore_sameAccepted :
    RagStore.SameAccepted (sampleStore []) (sampleStore [sampleSecret]) sampleAcl sampleReader :=
  rfl

theorem sampleRecords_sameAccepted :
    sampleSearch.SameAccepted sampleReader [sampleOpenRecord] [sampleSecretRecord, sampleOpenRecord] := by
  rfl

/-- **A displaced chunk.** With `top_k = 1` an unreadable chunk that ranks first
leaves nothing of what the user may read. -/
theorem retrieval_interference :
    RagStore.SameAccepted (sampleStore []) (sampleStore [sampleSecret]) sampleAcl sampleReader ∧
    ((sampleStore []).pipeline sampleAcl sampleGateway).sourceBlocks
        (sampleQuery 1 (by decide)) sampleReader sampleTenantPolicy ≠
      ((sampleStore [sampleSecret]).pipeline sampleAcl sampleGateway).sourceBlocks
        (sampleQuery 1 (by decide)) sampleReader sampleTenantPolicy ∧
    sampleSearch.SameAccepted sampleReader [sampleOpenRecord] [sampleSecretRecord, sampleOpenRecord] ∧
    ((sampleSearch.withRecords [sampleOpenRecord]).search (sampleKeywordQuery 1 (by decide))
        sampleReader "e1" []).1.map KeywordSearchResponse.candidates ≠
      ((sampleSearch.withRecords [sampleSecretRecord, sampleOpenRecord]).search
        (sampleKeywordQuery 1 (by decide)) sampleReader "e1" []).1.map
          KeywordSearchResponse.candidates := by
  refine ⟨sampleStore_sameAccepted, ?_, sampleRecords_sameAccepted, ?_⟩
  · intro h
    have hlength := congrArg (Except.map List.length) h
    exact absurd hlength (show (.ok 1 : Except Exn Nat) ≠ .ok 0 by decide)
  · intro h
    rw [KeywordSearchService.search_withRecords, KeywordSearchService.search_withRecords] at h
    -- as many views as outcomes
    have hone : sampleSearch.acceptedAmongFirst sampleReader [sampleOpenRecord] "text" 1 = 1 := by
      decide +kernel
    have hnone : sampleSearch.acceptedAmongFirst sampleReader
        [sampleSecretRecord, sampleOpenRecord] "text" 1 = 0 := by
      decide +kernel
    have hempty : sampleSearch.selected sampleReader [sampleSecretRecord, sampleOpenRecord]
        (sampleKeywordQuery 1 (by decide)).query (sampleKeywordQuery 1 (by decide)).topK = [] :=
      List.eq_nil_of_length_eq_zero hnone
    rw [hempty] at h
    have hlength : 0 = sampleSearch.acceptedAmongFirst sampleReader [sampleOpenRecord] "text" 1 :=
      Except.length_of_mapM h
    exact absurd (hlength.trans hone) (by decide)

/-- How the two stores compare for any query. -/
theorem sample_noninterference :
    (∀ query policy, RagInfluence sampleAcl sampleGateway sampleReader query policy
      (sampleStore []) (sampleStore [sampleSecret])) ∧
    (∀ query, KeywordInfluence sampleSearch sampleReader query [sampleOpenRecord]
      [sampleSecretRecord, sampleOpenRecord]) :=
  retrieval_noninterference sampleAcl sampleGateway sampleSearch sampleReader _ _ _ _
    sampleStore_sameAccepted sampleRecords_sameAccepted

end Collabio
