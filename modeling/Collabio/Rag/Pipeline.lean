import Mathlib.Tactic
import Collabio.LlmGateway.Gateway
import Collabio.Rag.Repositories

/-!
# Retrieval-augmented answers

* `RagPipeline.answer`            — authorize, retrieve, read the authorized chunks, infer;
* `answer_calls`                  — the one provider call an answer makes, if any;
* `rag_prompt_authorized`         — what is in its prompt, and what that has passed.
-/

namespace Collabio

/-- Between one and ten candidates are asked for. -/
structure RagQuery where
  question : String
  topK     : Nat := 3
  bounds   : 1 ≤ topK ∧ topK ≤ 10 := by decide

structure RagSource where
  objectId       : String
  versionId      : String
  chunkId        : String
  title          : String
  classification : DataClass
  accessChecked  : Bool
  deriving DecidableEq, Repr

structure RagResponse where
  answer            : String
  confidence        : String
  sources           : List RagSource
  modelId           : String
  promptTemplateId  : String
  retrievalPolicyId : String
  auditEventId      : String
  deriving DecidableEq, Repr

/-- `render_authorized_source_block`. -/
def renderAuthorizedSourceBlock (documentId versionId chunkId text : String) : String :=
  "<authorized_source object_id=\"" ++ documentId ++ "\" version_id=\"" ++ versionId ++
    "\" chunk_id=\"" ++ chunkId ++ "\">\n" ++ "UNTRUSTED_SOURCE_TEXT_BEGIN\n" ++ text ++ "\n" ++
    "UNTRUSTED_SOURCE_TEXT_END\n" ++ "</authorized_source>"

namespace SourceChunk

/-- The source a chunk is cited as. -/
def ragSource (chunk : SourceChunk) : RagSource where
  objectId := chunk.metadata.sourceObjectId
  versionId := chunk.metadata.sourceVersionId
  chunkId := chunk.metadata.chunkId
  title := chunk.title
  classification := chunk.metadata.classification
  accessChecked := true

/-- The block it is quoted in. -/
def contextBlock (chunk : SourceChunk) : String :=
  renderAuthorizedSourceBlock chunk.metadata.sourceObjectId chunk.metadata.sourceVersionId
    chunk.metadata.chunkId chunk.text

end SourceChunk

def uniqueSourceObjectIds (sources : List RagSource) : List String :=
  uniqueFrom [] (sources.map (·.objectId))

theorem mem_uniqueSourceObjectIds {sources : List RagSource} {objectId : String} :
    objectId ∈ uniqueSourceObjectIds sources ↔ ∃ source ∈ sources, source.objectId = objectId := by
  rw [uniqueSourceObjectIds, mem_uniqueFrom]
  simp

structure RagPipeline (Score : Type) where
  vectorStore     : VectorStore Score
  chunkRepository : AuthorizedChunkRepository
  llmGateway      : LocalLlmGateway

namespace RagPipeline

variable {Score : Type}

/-- The loop over the candidates: the authorized chunks, each with its candidate. -/
def authorizedChunks (repository : AuthorizedChunkRepository) (user : UserContext) :
    List (VectorCandidate Score) → Except Exn (List (VectorCandidate Score × SourceChunk))
  | [] => .ok []
  | candidate :: rest => do
    let chunk? ← repository.getAuthorizedChunk user candidate
    let chunks ← authorizedChunks repository user rest
    return (chunk?.map fun chunk => (candidate, chunk)).toList ++ chunks

/-- The metadata of the retrieval event. -/
def retrievalMetadata (candidateCount : Nat) (sources : List RagSource) : Dict String Json where
  items := [("candidate_count", .int candidateCount),
    ("authorized_source_count", .int sources.length),
    ("authorized_chunk_count", .int sources.length),
    ("authorized_chunk_refs", .arr (sources.map fun source =>
      .str (source.objectId ++ ":" ++ source.versionId ++ ":" ++ source.chunkId))),
    ("authorized_source_data_classes",
      .arr ((Text.sortedSet (sources.map (·.classification.value))).map .str)),
    ("retrieval_policy_id", .str "authorized_chunk_v1")]
  nodup := by
    show ["candidate_count", "authorized_source_count", "authorized_chunk_count",
      "authorized_chunk_refs", "authorized_source_data_classes", "retrieval_policy_id"].Nodup
    decide

/-- The inference request for these sources. -/
def inferenceRequest (query : RagQuery) (sources : List RagSource) : InferenceRequest where
  promptTemplateId := "rag_answer_v1"
  modelId := "mock-summarizer"
  purpose := .rag
  inputText := query.question
  dataClasses := .aiPrompt :: sources.map (·.classification)
  sourceObjectIds := uniqueSourceObjectIds sources

/-- The authorized candidates of a query, with their number before authorization. -/
def retrieve (pipeline : RagPipeline Score) (query : RagQuery) (user : UserContext)
    (policy : TenantPolicy) : Except Exn (Nat × List (VectorCandidate Score × SourceChunk)) := do
  PolicyEngine.authorizeRag user policy
  let candidates ← pipeline.vectorStore user.tenantId query.question query.topK
  let chunks ← authorizedChunks pipeline.chunkRepository user candidates
  return (candidates.length, chunks)

/-- The ids that are drawn for the two audit events. -/
structure EventIds where
  retrieval : String
  inference : String

def answer (pipeline : RagPipeline Score) (query : RagQuery) (user : UserContext)
    (policy : TenantPolicy) (eventIds : EventIds) : Eff Exn AiWorld RagResponse := do
  let (candidateCount, chunks) ← Eff.lift (pipeline.retrieve query user policy)
  let allowedSources := chunks.map fun pair => pair.2.ragSource
  let contextBlocks := chunks.map fun pair => pair.2.contextBlock
  let retrievalAudit ← AiWorld.record pipeline.llmGateway.hashes {
    eventId := eventIds.retrieval
    userContext := user
    eventType := "rag.retrieval"
    sourceObjectIds := uniqueSourceObjectIds allowedSources
    inputText := some query.question
    metadata := retrievalMetadata candidateCount allowedSources }
  let response ← pipeline.llmGateway.infer (inferenceRequest query allowedSources) user policy
    ("\n".intercalate contextBlocks) eventIds.inference
  return {
    answer := response.answer
    confidence := if allowedSources = [] then "low" else "medium"
    sources := allowedSources
    modelId := response.modelId
    promptTemplateId := response.promptTemplateId
    retrievalPolicyId := "authorized_chunk_v1"
    auditEventId := retrievalAudit.eventId }

/-! ## The provider call -/

/-- The call that is prepared for these chunks. -/
def preparedCall (pipeline : RagPipeline Score) (query : RagQuery) (user : UserContext)
    (policy : TenantPolicy) (chunks : List SourceChunk) :
    Except Exn LocalLlmGateway.PreparedInference :=
  pipeline.llmGateway.prepare (inferenceRequest query (chunks.map (·.ragSource))) user policy
    ("\n".intercalate (chunks.map (·.contextBlock)))

/-- **One answer** calls a provider exactly if retrieval returns and its inference can be prepared. -/
theorem answer_calls (pipeline : RagPipeline Score) (query : RagQuery) (user : UserContext)
    (policy : TenantPolicy) (eventIds : EventIds) (world : AiWorld) :
    (pipeline.answer query user policy eventIds world).2.providerCalls =
      match pipeline.retrieve query user policy with
      | .error _ => world.providerCalls
      | .ok (_, chunks) =>
        match pipeline.preparedCall query user policy (chunks.map Prod.snd) with
        | .ok prepared => world.providerCalls ++ [⟨prepared.model.modelId, prepared.prompt⟩]
        | .error _ => world.providerCalls := by
  rw [answer, Eff.lift_bind_apply]
  cases pipeline.retrieve query user policy with
  | error exn => rfl
  | ok retrieved =>
    obtain ⟨candidateCount, chunks⟩ := retrieved
    dsimp only
    rw [Eff.bind_of_ok (AiWorld.record_apply _ _ _)]
    -- what comes after the inference calls nobody
    have htail : ∀ (inference : Eff Exn AiWorld InferenceResponse)
        (f : InferenceResponse → RagResponse) (w : AiWorld),
        ((inference >>= fun response => pure (f response)) w).2.providerCalls =
          (inference w).2.providerCalls := by
      intro inference f w
      rw [Eff.bind_apply]
      rcases inference w with ⟨_ | response, w'⟩ <;> rfl
    rw [htail, LocalLlmGateway.infer_calls, preparedCall, List.map_map, List.map_map]
    rfl

/-! ## Authorization of the prompt -/

/-- Every pair of the loop's result is one of its candidates, authorized. -/
theorem authorized_of_mem {repository : AuthorizedChunkRepository} {user : UserContext}
    {candidates : List (VectorCandidate Score)} {quoted : List (VectorCandidate Score × SourceChunk)}
    (h : authorizedChunks repository user candidates = .ok quoted) :
    ∀ pair ∈ quoted, pair.1 ∈ candidates ∧ repository.Authorized user pair.1 pair.2 := by
  induction candidates generalizing quoted with
  | nil =>
    cases h
    simp
  | cons candidate rest ih =>
    rw [authorizedChunks] at h
    obtain ⟨chunk?, hchunk, h⟩ := Except.bind_eq_ok.mp h
    obtain ⟨chunks, hchunks, h⟩ := Except.bind_eq_ok.mp h
    cases h
    intro pair hpair
    rcases List.mem_append.mp hpair with hfirst | hlater
    · rw [Option.mem_toList, Option.map_eq_some_iff] at hfirst
      obtain ⟨chunk, rfl, rfl⟩ := hfirst
      exact ⟨List.mem_cons_self, AuthorizedChunkRepository.getAuthorizedChunk_eq_some hchunk⟩
    · obtain ⟨hmem, hauthorized⟩ := ih hchunks pair hlater
      exact ⟨List.mem_cons_of_mem _ hmem, hauthorized⟩

/-- What the prompt of a provider call has passed: it quotes authorized chunks of
retrieved candidates only, with classes that all policies allow. -/
structure PromptAuthorized (pipeline : RagPipeline Score) (query : RagQuery) (user : UserContext)
    (policy : TenantPolicy) (call : ProviderCall) (candidates : List (VectorCandidate Score))
    (quoted : List (VectorCandidate Score × SourceChunk)) (promptTemplate : PromptTemplate)
    (model : ModelConfig) : Prop where
  retrieved  : pipeline.vectorStore user.tenantId query.question query.topK = .ok candidates
  template   : pipeline.llmGateway.promptRegistry.get? "rag_answer_v1" = some promptTemplate
  registered : pipeline.llmGateway.policyEngine.modelRegistry.get? "mock-summarizer" = some model
  prompt     : pipeline.llmGateway.format promptTemplate.template query.question
                 ("\n".intercalate (quoted.map fun pair => pair.2.contextBlock)) = .ok call.prompt
  blocks     : ∀ pair ∈ quoted, pair.1 ∈ candidates ∧
                 pipeline.chunkRepository.Authorized user pair.1 pair.2
  classes    : ∀ pair ∈ quoted, pair.2.metadata.classification ∈ policy.allowedDataClasses ∧
                 pair.2.metadata.classification ∈ model.allowedDataClasses ∧
                 pair.2.metadata.classification ∈ promptTemplate.allowedDataClasses
  readable   : ∀ pair ∈ quoted, pair.2.metadata.sourceObjectId ∈ user.readableObjectIds

/-- **Authorization of the prompt.** An answer calls no provider, or one, with a
prompt that quotes authorized chunks only. -/
theorem rag_prompt_authorized (pipeline : RagPipeline Score) (query : RagQuery)
    (user : UserContext) (policy : TenantPolicy) (eventIds : EventIds) (world : AiWorld) :
    (pipeline.answer query user policy eventIds world).2.providerCalls = world.providerCalls ∨
      ∃ call candidates quoted promptTemplate model,
        (pipeline.answer query user policy eventIds world).2.providerCalls =
          world.providerCalls ++ [call] ∧
        PromptAuthorized pipeline query user policy call candidates quoted promptTemplate model := by
  rw [answer_calls]
  cases hretrieve : pipeline.retrieve query user policy with
  | error exn => exact .inl rfl
  | ok retrieved =>
    obtain ⟨candidateCount, quoted⟩ := retrieved
    dsimp only
    cases hprepare : pipeline.preparedCall query user policy (quoted.map Prod.snd) with
    | error exn => exact .inl rfl
    | ok prepared =>
      right
      -- what was retrieved are the chunks that were authorized
      unfold retrieve at hretrieve
      obtain ⟨-, -, hretrieve⟩ := Except.bind_eq_ok.mp hretrieve
      obtain ⟨candidates, hcandidates, hretrieve⟩ := Except.bind_eq_ok.mp hretrieve
      obtain ⟨chunks, hchunks, hretrieve⟩ := Except.bind_eq_ok.mp hretrieve
      cases hretrieve
      -- the gateway prepared a call, so that policy and model let all quoted sources through
      obtain ⟨htemplate, hauthorized, hprompt⟩ := LocalLlmGateway.prepare_eq_ok hprepare
      obtain ⟨hmodel, hclasses, hreadable⟩ := PolicyEngine.authorizeInference_eq_ok hauthorized
      simp only [List.map_map] at hprompt
      refine ⟨_, candidates, quoted, prepared.promptTemplate, prepared.model, rfl, ?_⟩
      exact {
        retrieved := hcandidates
        template := htemplate
        registered := hmodel
        prompt := hprompt
        blocks := authorized_of_mem hchunks
        classes := by
          intro pair hpair
          refine hclasses _ (List.mem_cons_of_mem _ ?_)
          rw [List.map_map, List.map_map]
          exact List.mem_map.mpr ⟨pair, hpair, rfl⟩
        readable := by
          intro pair hpair
          refine hreadable _ (mem_uniqueSourceObjectIds.mpr ⟨pair.2.ragSource, ?_, rfl⟩)
          rw [List.map_map]
          exact List.mem_map.mpr ⟨pair, hpair, rfl⟩ }

end RagPipeline

end Collabio
