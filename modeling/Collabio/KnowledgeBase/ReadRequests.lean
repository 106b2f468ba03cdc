import Mathlib.Tactic
import Collabio.Library.EffectLaws
import Collabio.Library.Grouping
import Collabio.Library.Observers
import Collabio.KnowledgeBase.ArticleVersions
import Collabio.KnowledgeBase.PgArticles

/-!
# Reading the knowledge base

The two operations that write nothing, by themselves and among writes that take turns.

* `listArticles`             — the articles that a user may read, with the evidence over them;
* `readComplianceEvidence`   — the evidence over all articles of the tenant;
* `writes_unobserved`        — the reads change nothing about the writes they are made among;
* `read_of_one_moment`       — a read answers as it would alone, at the moment of its listing;
* `listArticles_of_readable` — what a user may not read does not show in the answer;
* `evidence_after_execution` — after an execution the evidence is the one it has answered.
-/

namespace Collabio

open KnowledgeBaseWorld

/-! ## What is read -/

def kbArticlesFeatureId : String := "knowledge_base.articles.read"

def kbArticleObjectType : String := "kb.article"

def kbArticleVersionObjectType : String := "kb.article_version"

def kbArticleSchemaVersion : String := "kb_article.v1"

structure KnowledgeBaseArticleView where
  objectId                   : String
  objectType                 : String
  articleKey                 : String
  title                      : String
  currentVersionObjectId     : String
  currentVersionLabel        : String
  currentSourceObjectId      : String
  currentSourceVersionId     : String
  currentSourceObjectType    : SourceObjectType
  sourceVersionEvidenceHash  : String
  publishedAtUtc             : Option String := none
  status                     : KnowledgeBaseArticleStatus
  ownerPrincipalId           : String
  createdAtUtc               : String
  updatedAtUtc               : String
  dataClassification         : DataClass
  retentionPolicyId          : String
  legalHoldState             : String
  lifecycleState             : KnowledgeBaseArticleLifecycleState
  sourceSystem               : String
  schemaVersion              : String
  auditChainRef              : String
  accessChecked              : Bool := true
  sourceVersionAccessChecked : Bool := true
  deriving Repr

/-- Every record has the one object type and the one schema version. -/
def knowledgeBaseArticleView (H : HashFunctions) (record : KnowledgeBaseArticleRecord) :
    Except Exn KnowledgeBaseArticleView := do
  let stub ← buildSourceVersionEvidenceStub H record
  return {
    objectId := record.objectId
    objectType := kbArticleObjectType
    articleKey := record.articleKey
    title := record.title
    currentVersionObjectId := record.currentVersionObjectId
    currentVersionLabel := record.currentVersionLabel
    currentSourceObjectId := record.currentSourceObjectId
    currentSourceVersionId := record.currentSourceVersionId
    currentSourceObjectType := record.currentSourceObjectType
    sourceVersionEvidenceHash := stub.evidenceHash
    publishedAtUtc := record.publishedAtUtc
    status := record.status
    ownerPrincipalId := record.ownerPrincipalId
    createdAtUtc := record.createdAtUtc
    updatedAtUtc := record.updatedAtUtc
    dataClassification := record.dataClassification
    retentionPolicyId := record.retentionPolicyId
    legalHoldState := record.legalHoldState
    lifecycleState := record.lifecycleState
    sourceSystem := record.sourceSystem
    schemaVersion := kbArticleSchemaVersion
    auditChainRef := record.auditChainRef }

def knowledgeBaseAuditSourceObjectIds (records : List KnowledgeBaseArticleRecord) : List String :=
  uniqueFrom [] (records.flatMap fun record =>
    [record.objectId, record.currentVersionObjectId, record.currentSourceObjectId])

structure KnowledgeBaseArticlesResponse where
  tenantId                    : String
  moduleId                    : String := knowledgeBaseModuleId
  featureId                   : String := kbArticlesFeatureId
  articles                    : List KnowledgeBaseArticleView
  sourceVersionEvidenceHashes : List String
  restoreEvidenceHash         : String
  auditEventId                : String
  deriving Repr

structure KnowledgeBaseEvidenceResponse where
  tenantId              : String
  moduleId              : String := knowledgeBaseModuleId
  continuityDomain      : String := "knowledge_base_content"
  sourceVersionEvidence : List KnowledgeBaseSourceVersionEvidence
  restoreEvidence       : KnowledgeBaseRestoreEvidence
  auditEventId          : String
  deriving Repr

/-- All three objects of an article are among those that the user may read. -/
def Readable (user : UserContext) (record : KnowledgeBaseArticleRecord) : Prop :=
  record.objectId ∈ user.readableObjectIds ∧
    record.currentVersionObjectId ∈ user.readableObjectIds ∧
    record.currentSourceObjectId ∈ user.readableObjectIds

instance (user : UserContext) : DecidablePred (Readable user) :=
  fun record => inferInstanceAs (Decidable (record.objectId ∈ user.readableObjectIds ∧
    record.currentVersionObjectId ∈ user.readableObjectIds ∧
    record.currentSourceObjectId ∈ user.readableObjectIds))

namespace KnowledgeBaseArticleService

variable (service : KnowledgeBaseArticleService)

/-! ## Articles -/

/-- The metadata of the audit event of a listing. -/
def listMetadata (candidateCount resultCount : Nat)
    (sourceEvidences : List KnowledgeBaseSourceVersionEvidence)
    (restoreEvidence : KnowledgeBaseRestoreEvidence) : Dict String Json where
  items := [("module_id", .str knowledgeBaseModuleId),
    ("feature_id", .str kbArticlesFeatureId),
    ("object_type", .str kbArticleObjectType),
    ("version_object_type", .str kbArticleVersionObjectType),
    ("candidate_count", .int candidateCount),
    ("result_count", .int resultCount),
    ("result_contract", .str "metadata_only"),
    ("source_version_evidence_hashes", .arr ((evidenceHashes sourceEvidences).map .str)),
    ("restore_evidence_hash", .str restoreEvidence.evidenceHash),
    ("continuity_domain", .str restoreEvidence.continuityDomain)]
  nodup := by
    show ["module_id", "feature_id", "object_type", "version_object_type", "candidate_count",
      "result_count", "result_contract", "source_version_evidence_hashes",
      "restore_evidence_hash", "continuity_domain"].Nodup
    decide

/-- The view of an article, with the hash of its evidence. -/
def viewWithEvidence (sourceEvidences : List KnowledgeBaseSourceVersionEvidence)
    (record : KnowledgeBaseArticleRecord) : Except Exn KnowledgeBaseArticleView := do
  -- its hash is that of the stub, which was made without the source
  let view ← knowledgeBaseArticleView service.hashes record
  let evidenceByArticle := Dict.ofPairs
    (sourceEvidences.map fun evidence => (evidence.articleObjectId, evidence))
  match evidenceByArticle.get? record.objectId with
  | some evidence => .ok { view with sourceVersionEvidenceHash := evidence.evidenceHash }
  | none => .error .keyError

/-- `list_articles`, after the listing of the candidates. -/
def listReadable (user : UserContext) (eventId : EventId) (candidateCount : Nat)
    (records : List KnowledgeBaseArticleRecord) : KbProg KnowledgeBaseArticlesResponse := do
  -- one call for each source, and others may write in between
  let sourceEvidences ← records.mapM service.sourceVersionEvidence
  let views ← Prog.lift (records.mapM (service.viewWithEvidence sourceEvidences))
  let restoreEvidence ← Prog.lift (buildKnowledgeBaseRestoreEvidence service.hashes user.tenantId
    records sourceEvidences (service.restoreDrillReportHash user.tenantId)
    "audit:knowledge-base-restore-evidence")
  let event ← recordAudit service.hashes {
    eventId := eventId.value
    userContext := user
    eventType := "knowledge_base.article.list"
    sourceObjectIds := knowledgeBaseAuditSourceObjectIds records
    metadata := listMetadata candidateCount views.length sourceEvidences restoreEvidence }
  return {
    tenantId := user.tenantId
    articles := views
    sourceVersionEvidenceHashes := evidenceHashes sourceEvidences
    restoreEvidenceHash := restoreEvidence.evidenceHash
    auditEventId := event.eventId }

def listArticles (user : UserContext) (eventId : EventId) :
    KbProg KnowledgeBaseArticlesResponse := do
  let candidateRecords ← service.listRecords user.tenantId
  -- of what the user may not read, the audit event has the number
  service.listReadable user eventId candidateRecords.length
    (candidateRecords.filter fun record => Readable user record)

/-! ## Evidence -/

/-- The metadata of the audit event of a reading of the evidence. -/
def evidenceMetadata (articleCount : Nat)
    (sourceEvidences : List KnowledgeBaseSourceVersionEvidence)
    (restoreEvidence : KnowledgeBaseRestoreEvidence) : Dict String Json where
  items := [("module_id", .str knowledgeBaseModuleId),
    ("surface", .str "compliance_api"),
    ("continuity_domain", .str restoreEvidence.continuityDomain),
    ("article_count", .int articleCount),
    ("source_version_evidence_count", .int sourceEvidences.length),
    ("result_contract", .str "metadata_only"),
    ("source_version_evidence_hashes", .arr ((evidenceHashes sourceEvidences).map .str)),
    ("restore_evidence_hash", .str restoreEvidence.evidenceHash)]
  nodup := by
    show ["module_id", "surface", "continuity_domain", "article_count",
      "source_version_evidence_count", "result_contract", "source_version_evidence_hashes",
      "restore_evidence_hash"].Nodup
    decide

/-- `read_compliance_evidence`, after the listing. -/
def evidenceOver (user : UserContext) (eventId : EventId)
    (records : List KnowledgeBaseArticleRecord) : KbProg KnowledgeBaseEvidenceResponse := do
  let (sourceEvidences, restoreEvidence) ← service.currentEvidence user.tenantId records
  let event ← recordAudit service.hashes {
    eventId := eventId.value
    userContext := user
    eventType := "knowledge_base.evidence.read"
    sourceObjectIds := knowledgeBaseAuditSourceObjectIds records
    metadata := evidenceMetadata records.length sourceEvidences restoreEvidence }
  return {
    tenantId := user.tenantId
    sourceVersionEvidence := sourceEvidences
    restoreEvidence := restoreEvidence
    auditEventId := event.eventId }

def readComplianceEvidence (user : UserContext) (eventId : EventId) :
    KbProg KnowledgeBaseEvidenceResponse := do
  let records ← service.listRecords user.tenantId
  service.evidenceOver user eventId records

end KnowledgeBaseArticleService

/-! ## Requests -/

inductive ReadRequest where
  | listArticles (user : UserContext) (eventId : EventId)
  | readComplianceEvidence (user : UserContext) (eventId : EventId)

inductive ReadAnswer where
  | articles (response : KnowledgeBaseArticlesResponse)
  | evidence (response : KnowledgeBaseEvidenceResponse)
  deriving Repr

namespace ReadRequest

def tenantId : ReadRequest → String
  | listArticles user _ | readComplianceEvidence user _ => user.tenantId

def program (service : KnowledgeBaseArticleService) : ReadRequest → KbProg ReadAnswer
  | listArticles user eventId => do
    let response ← service.listArticles user eventId
    return .articles response
  | readComplianceEvidence user eventId => do
    let response ← service.readComplianceEvidence user eventId
    return .evidence response

/-- What is left of it after the listing. -/
def answerOver (service : KnowledgeBaseArticleService) (request : ReadRequest)
    (records : List KnowledgeBaseArticleRecord) : KbProg ReadAnswer :=
  match request with
  | listArticles user eventId => do
    let response ← service.listReadable user eventId records.length
      (records.filter fun record => Readable user record)
    return .articles response
  | readComplianceEvidence user eventId => do
    let response ← service.evidenceOver user eventId records
    return .evidence response

/-- **A request** begins with the listing. -/
theorem program_eq (service : KnowledgeBaseArticleService) (request : ReadRequest) :
    request.program service =
      service.listRecords request.tenantId >>= request.answerOver service := by
  cases request with
  | listArticles user eventId => exact bind_assoc _ _ _
  | readComplianceEvidence user eventId => exact bind_assoc _ _ _

end ReadRequest

/-! ## What a read leaves and sees -/

/-- What is stored under these keys. -/
def KnowledgeBaseWorld.sourcesAt (keys : List VersionKey) (world : KnowledgeBaseWorld) :
    List (Option SourceObjectRecord) :=
  keys.map fun key => world.sources.records.get? key

namespace KnowledgeBaseArticleService

variable {service : KnowledgeBaseArticleService}

theorem sourcesAt_eq_iff {keys : List VersionKey} {world world' : KnowledgeBaseWorld} :
    world.sourcesAt keys = world'.sourcesAt keys ↔
      ∀ key ∈ keys, world.sources.records.get? key = world'.sources.records.get? key :=
  List.map_inj_left

theorem keeps_sourceEvidences (records : List KnowledgeBaseArticleRecord) :
    (records.mapM service.sourceVersionEvidence).Keeps stores := by
  have hsource : ∀ article, (service.sourceVersionEvidence article).Keeps stores :=
    fun article => (keeps_read _).bind fun _ => keeps_lift _
  exact (Prog.Does.mapM fun article _ => hsource article).mono (fun _ h => h) (fun _ _ _ h => h)
    fun _ _ => trivial

theorem keeps_answerOver (request : ReadRequest) (records : List KnowledgeBaseArticleRecord) :
    (request.answerOver service records).Keeps stores := by
  cases request with
  | listArticles user eventId =>
    refine Prog.Keeps.bind ?_ fun _ => keeps_pure _
    refine (keeps_sourceEvidences _).bind fun _ => (keeps_lift _).bind fun _ => ?_
    exact (keeps_lift _).bind fun _ => (keeps_recordAudit _ _).bind fun _ => keeps_pure _
  | readComplianceEvidence user eventId =>
    refine Prog.Keeps.bind ?_ fun _ => keeps_pure _
    exact (keeps_currentEvidence _ _).bind fun ⟨_, _⟩ =>
      (keeps_recordAudit _ _).bind fun _ => keeps_pure _

/-- **A read writes nothing** but its audit event. -/
theorem keeps_readRequest (request : ReadRequest) : (request.program service).Keeps stores := by
  rw [ReadRequest.program_eq]
  exact (keeps_listRecords _).bind fun records => keeps_answerOver request records

theorem blind_sourceEvidences {keys : List VersionKey} {records : List KnowledgeBaseArticleRecord}
    (hkeys : ∀ record ∈ records, currentSourceKey record ∈ keys) :
    (records.mapM service.sourceVersionEvidence).Blind (sourcesAt keys) := by
  refine Prog.Blind.mapM fun record hrecord => ?_
  refine Prog.Blind.bind (Prog.blind_read fun world world' hsame => ?_) fun _ => Prog.blind_lift
  have hkey := sourcesAt_eq_iff.mp hsame _ (hkeys record hrecord)
  unfold currentSourceKey at hkey
  unfold InMemorySourceObjectRepository.get
  rw [hkey]

/-- Of the audit event only the id is answered, which was drawn before. -/
theorem blind_recordAudit {α : Type} {keys : List VersionKey} {call : AuditCall}
    {respond : AuditEvent → α} (hid : ∀ event event', event.eventId = event'.eventId →
      respond event = respond event') :
    (recordAudit service.hashes call >>= fun event => pure (respond event) : KbProg α).Blind
      (sourcesAt keys) := by
  refine Prog.blind_atomic_bind (fun world world' hsame => ⟨hsame, ?_⟩) fun _ => Prog.blind_pure
  exact congrArg (fun answer => (pure answer : KbProg α)) (hid _ _ rfl)

theorem blind_listReadable {keys : List VersionKey} {user : UserContext} {eventId : EventId}
    {candidateCount : Nat} {records : List KnowledgeBaseArticleRecord}
    (hkeys : ∀ record ∈ records, currentSourceKey record ∈ keys) :
    (service.listReadable user eventId candidateCount records).Blind (sourcesAt keys) := by
  unfold listReadable
  refine (blind_sourceEvidences hkeys).bind fun _ => Prog.blind_lift.bind fun _ => ?_
  refine Prog.blind_lift.bind fun _ => blind_recordAudit fun event event' h => ?_
  rw [h]

theorem blind_ledgerAppend (evidence : KnowledgeBaseWriteApprovalEvidence) :
    (ledgerAppend evidence).Blind stores := by
  refine Prog.blind_atomic fun world world' hview => ?_
  obtain ⟨hledger, hreceipts, hsources, harticles⟩ := stores_eq_iff.mp hview
  simp [stores, hledger, hreceipts, hsources, harticles]

/-- **The audit log decides nothing** about a write, whichever of the three it is. -/
theorem blind_writeEvent (call : WriteEvent) : (call.program service).Blind stores := by
  cases call with
  | dryRun command user eventId =>
    refine Prog.Blind.bind ?_ fun _ => Prog.blind_pure
    unfold dryRunWriteApproval
    refine (blind_listRecords _).bind fun _ => Prog.blind_lift.bind fun _ => ?_
    refine (blind_currentEvidence _ _).bind fun ⟨_, _⟩ => Prog.blind_lift.bind fun _ => ?_
    refine blind_recordAudit_bind (fun event event' h => by simp only [h]) fun _ => ?_
    exact Prog.blind_lift.bind fun _ => (blind_ledgerAppend _).bind fun _ => Prog.blind_pure
  | approve command user eventId =>
    refine Prog.Blind.bind ?_ fun _ => Prog.blind_pure
    unfold approveWriteApproval
    refine (blind_ledgerGet _ _).bind fun _ => Prog.blind_lift.bind fun _ => ?_
    refine (blind_read_stores fun _ => rfl).bind fun _ => Prog.blind_lift.bind fun _ => ?_
    refine (blind_listRecords _).bind fun _ => Prog.blind_lift.bind fun _ => ?_
    refine (blind_currentEvidence _ _).bind fun ⟨_, _⟩ => Prog.blind_lift.bind fun _ => ?_
    refine blind_recordAudit_bind (fun event event' h => by simp only [h]) fun _ => ?_
    exact Prog.blind_lift.bind fun _ => (blind_ledgerAppend _).bind fun _ => Prog.blind_pure
  | execute command user eventId now =>
    exact (blind_executeWrite command user eventId now).bind fun _ => Prog.blind_pure

/-- Writes and reads that are all called before any has made a store call. Only a read has an
answer. -/
def startReadsAndWrites (service : KnowledgeBaseArticleService) (world : KnowledgeBaseWorld)
    (calls : List WriteEvent) (reads : List ReadRequest) :
    Pool Exn KnowledgeBaseWorld (Option ReadAnswer) :=
  Pool.observed (startWrites service world calls) (fun _ => none)
    (reads.map fun request => request.program service >>= fun answer => pure (some answer))

/-- The pool after these turns. -/
abbrev readsAndWritesAfter (service : KnowledgeBaseArticleService) (world : KnowledgeBaseWorld)
    (calls : List WriteEvent) (reads : List ReadRequest) (schedule : List Nat) :
    Pool Exn KnowledgeBaseWorld (Option ReadAnswer) :=
  Runs.run Pool.step (startReadsAndWrites service world calls reads) schedule

/-- The turns of the writes. -/
abbrev turnsOfWrites (calls : List WriteEvent) (schedule : List Nat) : List Nat :=
  schedule.filter (· < calls.length)

variable {world world' : KnowledgeBaseWorld} {calls : List WriteEvent} {reads : List ReadRequest}

theorem observes_schedule (schedule : List Nat) :
    Pool.Observes stores (fun _ : Unit => (none : Option ReadAnswer))
      (readsAndWritesAfter service world calls reads schedule)
      (Runs.run Pool.step (startWrites service world calls) (turnsOfWrites calls schedule)) := by
  have hlength : (startWrites service world calls).threads.length = calls.length :=
    List.length_map ..
  have hstart : Pool.Observes stores (fun _ : Unit => (none : Option ReadAnswer))
      (startReadsAndWrites service world calls reads) (startWrites service world calls) := by
    refine Pool.observes_observed (fun p hp => ?_) fun p hp => ?_
    · obtain ⟨call, -, rfl⟩ := List.mem_map.mp hp
      exact blind_writeEvent call
    · obtain ⟨request, -, rfl⟩ := List.mem_map.mp hp
      exact (keeps_readRequest request).bind fun _ => keeps_pure _
  have hrun := hstart.run schedule
  rw [hlength] at hrun
  exact hrun

/-- **Reads change nothing about the writes** they are made among: the stores and the writes come
to be as they would without the reads, by the same turns. -/
theorem writes_unobserved (service : KnowledgeBaseArticleService) (world : KnowledgeBaseWorld)
    (calls : List WriteEvent) (reads : List ReadRequest) (schedule : List Nat) :
    (readsAndWritesAfter service world calls reads schedule).shared.stores =
        (stateAfter service world calls (turnsOfWrites calls schedule)).stores ∧
      ∀ i < calls.length, (readsAndWritesAfter service world calls reads schedule).threads[i]? =
        (Runs.run Pool.step (startWrites service world calls)
          (turnsOfWrites calls schedule)).threads[i]?.map fun p => p >>= fun _ => pure none := by
  have hobserves := @observes_schedule service world calls reads schedule
  refine ⟨hobserves.sees, fun i hi => hobserves.writes i ?_⟩
  rw [Pool.length_run]
  exact hi.trans_eq (List.length_map ..).symm

/-- The answer of a listing, as a function of the sources. -/
def articlesOver (service : KnowledgeBaseArticleService) (sources : InMemorySourceObjectRepository)
    (user : UserContext) (eventId : EventId) (records : List KnowledgeBaseArticleRecord) :
    Except Exn KnowledgeBaseArticlesResponse := do
  let sourceEvidences ← records.mapM (service.sourceVersionEvidenceOf sources)
  let views ← records.mapM (service.viewWithEvidence sourceEvidences)
  let restoreEvidence ← buildKnowledgeBaseRestoreEvidence service.hashes user.tenantId records
    sourceEvidences (service.restoreDrillReportHash user.tenantId)
    "audit:knowledge-base-restore-evidence"
  return {
    tenantId := user.tenantId
    articles := views
    sourceVersionEvidenceHashes := evidenceHashes sourceEvidences
    restoreEvidenceHash := restoreEvidence.evidenceHash
    auditEventId := eventId.value }

/-- How many candidates there were is in the audit event only. -/
theorem run_listReadable (user : UserContext) (eventId : EventId) (candidateCount : Nat)
    (records : List KnowledgeBaseArticleRecord) (world : KnowledgeBaseWorld) :
    ((service.listReadable user eventId candidateCount records).run world).1 =
      service.articlesOver world.sources user eventId records := by
  have hmap := Prog.run_mapM_of_run (f := service.sourceVersionEvidence)
    (g := service.sourceVersionEvidenceOf world.sources) (s := world) (l := records)
    fun article _ => run_sourceVersionEvidence article world
  unfold listReadable articlesOver
  cases hevidences : records.mapM (service.sourceVersionEvidenceOf world.sources) with
  | error exn =>
    rw [hevidences] at hmap
    rw [Prog.run_bind_of_error hmap]
    rfl
  | ok sourceEvidences =>
    rw [hevidences] at hmap
    rw [Prog.run_bind_of_ok hmap, Prog.run_lift_bind, Except.ok_bind]
    cases records.mapM (service.viewWithEvidence sourceEvidences) with
    | error exn => rfl
    | ok views =>
      dsimp only
      rw [Prog.run_lift_bind, Except.ok_bind]
      cases buildKnowledgeBaseRestoreEvidence service.hashes user.tenantId records sourceEvidences
          (service.restoreDrillReportHash user.tenantId)
          "audit:knowledge-base-restore-evidence" with
      | error exn => rfl
      | ok restoreEvidence => rfl

/-- The readable articles come in the same order, however they are stored. -/
theorem readable_records {user : UserContext}
    (harticles : ∀ article, article.tenantId = user.tenantId → Readable user article →
      (article ∈ world.articles.articles ↔ article ∈ world'.articles.articles)) :
    (service.records world.articles user.tenantId).filter (fun record => Readable user record) =
      (service.records world'.articles user.tenantId).filter
        fun record => Readable user record := by
  have hsorted : ∀ articles : InMemoryKnowledgeBaseArticleRepository,
      ((service.records articles user.tenantId).filter fun record =>
        Readable user record).Pairwise service.ByTitle :=
    fun articles => (List.pairwise_insertionSort _ _).filter _
  have hperm : ((service.records world.articles user.tenantId).filter fun record =>
      Readable user record).Perm
        ((service.records world'.articles user.tenantId).filter fun record =>
          Readable user record) := by
    refine (List.perm_ext_iff_of_nodup ((nodup_records _ _).filter _)
      ((nodup_records _ _).filter _)).mpr fun article => ?_
    simp only [List.mem_filter, mem_records, decide_eq_true_eq]
    constructor
    · rintro ⟨⟨hmem, htenant⟩, hreadable⟩
      exact ⟨⟨(harticles article htenant hreadable).mp hmem, htenant⟩, hreadable⟩
    · rintro ⟨⟨hmem, htenant⟩, hreadable⟩
      exact ⟨⟨(harticles article htenant hreadable).mpr hmem, htenant⟩, hreadable⟩
  refine List.Perm.eq_of_pairwise ?_ (hsorted _) (hsorted _) hperm
  intro a b ha hb hab hba
  -- equal keys are equal ids
  have hkey : service.titleKey a = service.titleKey b := le_antisymm hab hba
  exact eq_of_objectId (List.mem_of_mem_filter ha)
    (List.mem_of_mem_filter (hperm.mem_iff.mpr hb)) (congrArg (fun key => (ofLex key).2) hkey)

/-- **What a user may not read does not show**: the answer is the same in all states that have the
same readable articles, with the same sources. -/
theorem listArticles_of_readable {user : UserContext} (eventId : EventId)
    (harticles : ∀ article, article.tenantId = user.tenantId → Readable user article →
      (article ∈ world.articles.articles ↔ article ∈ world'.articles.articles))
    (hsources : ∀ article ∈ world.articles.articles, article.tenantId = user.tenantId →
      Readable user article → world.sources.records.get? (currentSourceKey article) =
        world'.sources.records.get? (currentSourceKey article)) :
    ((service.listArticles user eventId).run world).1 =
      ((service.listArticles user eventId).run world').1 := by
  have hrecords := @readable_records service world world' user harticles
  have hsame : world.sourcesAt (((service.records world'.articles user.tenantId).filter
      fun record => Readable user record).map currentSourceKey) =
        world'.sourcesAt (((service.records world'.articles user.tenantId).filter
          fun record => Readable user record).map currentSourceKey) := by
    refine sourcesAt_eq_iff.mpr fun key hkey => ?_
    obtain ⟨article, harticle, rfl⟩ := List.mem_map.mp hkey
    rw [← hrecords, List.mem_filter, mem_records, decide_eq_true_eq] at harticle
    exact hsources article harticle.1.1 harticle.1.2 harticle.2
  unfold listArticles
  rw [Prog.run_bind_of_ok (run_listRecords _ _), Prog.run_bind_of_ok (run_listRecords _ _),
    hrecords]
  calc _ = service.articlesOver world.sources user eventId _ := run_listReadable ..
    _ = _ := (@run_listReadable service user eventId _ _ world).symm
    _ = _ := (blind_listReadable fun record hrecord => List.mem_map_of_mem hrecord).run hsame

/-! ## After a write -/

/-- **An execution that returns** leaves a state in which the evidence is what it has answered. -/
structure Answers (service : KnowledgeBaseArticleService) (user : UserContext)
    (world : KnowledgeBaseWorld) (response : KnowledgeBaseWriteExecutionResponse)
    (sourceEvidences : List KnowledgeBaseSourceVersionEvidence)
    (restoreEvidence : KnowledgeBaseRestoreEvidence) : Prop where
  reads         : service.Reads world user.tenantId sourceEvidences restoreEvidence
  article       : ∃ evidence ∈ sourceEvidences,
                    evidence.articleObjectId = response.articleObjectId ∧
                      evidence.evidenceHash = response.refreshedSourceVersionEvidenceHash
  restoreHash   : restoreEvidence.evidenceHash = response.refreshedRestoreEvidenceHash
  sourceHashes  : restoreEvidence.sourceVersionEvidenceHashes =
                    response.sourceVersionEvidenceHashesAfter
  articleCount  : restoreEvidence.articleCount = response.articleCountAfter
  evidenceCount : restoreEvidence.sourceVersionEvidenceCount =
                    response.sourceVersionEvidenceCountAfter

theorem requireRefreshed_eq_ok {approved : KnowledgeBaseWriteApprovalEvidence}
    {projectedHashes : List String} {sourceEvidences : List KnowledgeBaseSourceVersionEvidence}
    {restoreEvidence : KnowledgeBaseRestoreEvidence}
    {refreshed : KnowledgeBaseSourceVersionEvidence}
    (h : requireRefreshed approved projectedHashes sourceEvidences restoreEvidence =
      .ok refreshed) :
    refreshed ∈ sourceEvidences ∧ refreshed.articleObjectId = approved.articleObjectId := by
  unfold requireRefreshed at h
  split at h
  · cases h
  · rename_i found hfound
    obtain ⟨-, -, hsame⟩ := by simpa only [require_bind_eq_ok] using h
    cases hsame
    exact ⟨List.mem_reverse.mp (List.mem_of_find?_eq_some hfound), by
      simpa using List.find?_some hfound⟩

theorem executeWrite_answered {command : KnowledgeBaseWriteExecutionCommand} {user : UserContext}
    {eventId : EventId} {now : String} {response : KnowledgeBaseWriteExecutionResponse}
    (h : (service.executeWrite command user eventId now).run world = (.ok response, world')) :
    ∃ sourceEvidences restoreEvidence,
      Answers service user world' response sourceEvidences restoreEvidence := by
  obtain ⟨prepared, _, -, h⟩ := Prog.run_bind_eq_ok.mp h
  unfold commitWrite at h
  obtain ⟨_, _, -, h⟩ := Prog.run_bind_eq_ok.mp h
  obtain ⟨_, _, -, h⟩ := Prog.run_bind_eq_ok.mp h
  obtain ⟨article, written, -, h⟩ := Prog.run_bind_eq_ok.mp h
  -- what it reads of the written stores
  obtain ⟨_, hrecords, h⟩ := (Prog.run_bind_eq_ok_of_run (run_listRecords _ _)).mp h
  cases hrecords
  obtain ⟨⟨sourceEvidences, restoreEvidence⟩, hreads, h⟩ :=
    (Prog.run_bind_eq_ok_of_run (run_currentEvidence _ _ _)).mp h
  obtain ⟨refreshed, hrefreshed, h⟩ := (Prog.run_bind_eq_ok_of_run (Prog.run_lift _ _)).mp h
  -- and what it answers; the audit event is in no store
  obtain ⟨event, _, hrecord, h⟩ := Prog.run_bind_eq_ok.mp h
  obtain ⟨hvalid, rfl⟩ := Prod.mk.inj h
  obtain ⟨-, -, hsources, harticles⟩ := stores_eq_iff.mp (stores_of_recordAudit hrecord)
  obtain ⟨_, haccepted, hvalid⟩ := Except.bind_eq_ok.mp hvalid
  obtain ⟨-, rfl⟩ := accept_eq_ok.mp haccepted
  obtain ⟨_, -, hvalid⟩ := Except.bind_eq_ok.mp hvalid
  cases hvalid
  obtain ⟨hmem, hid⟩ := requireRefreshed_eq_ok hrefreshed
  refine ⟨sourceEvidences, restoreEvidence, {
    reads := ?_
    article := ⟨refreshed, hmem, hid, rfl⟩
    restoreHash := rfl
    sourceHashes := rfl
    articleCount := rfl
    evidenceCount := rfl }⟩
  rw [Reads, hsources, harticles]
  exact hreads

/-- A tenant's evidence stays while its articles do, whatever sources are added. -/
theorem reads_mono {tenantId : String}
    {sourceEvidences : List KnowledgeBaseSourceVersionEvidence}
    {restoreEvidence : KnowledgeBaseRestoreEvidence}
    (h : service.Reads world tenantId sourceEvidences restoreEvidence)
    (hextends : Extends world world')
    (harticles : world'.articles.listArticles tenantId = world.articles.listArticles tenantId) :
    service.Reads world' tenantId sourceEvidences restoreEvidence := by
  obtain ⟨hmap, hrestore⟩ := currentEvidenceOf_eq_ok.mp h
  unfold Reads records
  rw [harticles]
  refine currentEvidenceOf_eq_ok.mpr ⟨?_, hrestore⟩
  rw [Except.mapM_eq_ok] at hmap ⊢
  refine hmap.imp fun article evidence hread => ?_
  obtain ⟨record, hget, hrest⟩ := sourceVersionEvidenceOf_eq_ok.mp hread
  exact sourceVersionEvidenceOf_eq_ok.mpr ⟨record, hextends.sources _ _ hget, hrest⟩

/-- **The auditor finds what the writer was told**: as long as no article of the tenant has been
written since, the evidence is the one that the execution has answered. -/
theorem evidence_after_execution {command : KnowledgeBaseWriteExecutionCommand}
    {user auditor : UserContext} {eventId readId : EventId} {now : String}
    {response : KnowledgeBaseWriteExecutionResponse} {later : KnowledgeBaseWorld}
    (hexecuted : (service.executeWrite command user eventId now).run world =
      (.ok response, world'))
    (htenant : auditor.tenantId = user.tenantId) (hlater : Extends world' later)
    (harticles : later.articles.listArticles user.tenantId =
      world'.articles.listArticles user.tenantId) :
    ∃ answer, ((service.readComplianceEvidence auditor readId).run later).1 = .ok answer ∧
      (∃ evidence ∈ answer.sourceVersionEvidence,
        evidence.articleObjectId = response.articleObjectId ∧
          evidence.evidenceHash = response.refreshedSourceVersionEvidenceHash) ∧
      answer.restoreEvidence.evidenceHash = response.refreshedRestoreEvidenceHash ∧
      answer.restoreEvidence.sourceVersionEvidenceHashes =
        response.sourceVersionEvidenceHashesAfter ∧
      answer.restoreEvidence.articleCount = response.articleCountAfter ∧
      answer.restoreEvidence.sourceVersionEvidenceCount =
        response.sourceVersionEvidenceCountAfter := by
  obtain ⟨sourceEvidences, restoreEvidence, hanswers⟩ := executeWrite_answered hexecuted
  have hreads := reads_mono hanswers.reads hlater harticles
  rw [← htenant] at hreads
  refine ⟨{
    tenantId := auditor.tenantId
    sourceVersionEvidence := sourceEvidences
    restoreEvidence := restoreEvidence
    auditEventId := readId.value }, ?_, hanswers.article, hanswers.restoreHash,
      hanswers.sourceHashes, hanswers.articleCount, hanswers.evidenceCount⟩
  have hcurrent : (service.currentEvidence auditor.tenantId
      (service.records later.articles auditor.tenantId)).run later =
        (.ok (sourceEvidences, restoreEvidence), later) := by
    rw [run_currentEvidence, hreads]
  unfold readComplianceEvidence evidenceOver
  rw [Prog.run_bind_of_ok (run_listRecords _ _), Prog.run_bind_of_ok hcurrent]
  rfl

end KnowledgeBaseArticleService

namespace HandbookEdit

open KnowledgeBaseArticleService

/-- A user who may read the handbook. -/
def reader : UserContext := { alice with readableObjectIds := ["article-1", "version-1"] }

def listing : ReadRequest := .listArticles reader ⟨"event-2", secondEvent_notBlank⟩

/-- An article that the reader may not read, and that has no source. -/
def salaries : KnowledgeBaseArticleRecord :=
  { article with
    objectId := "article-2"
    articleKey := "salaries"
    title := "Salaries"
    currentVersionObjectId := "version-9"
    currentSourceObjectId := "version-9"
    currentSourceVersionId := "v9" }

theorem nodup_salaries : ([salaries, article].map (·.key)).Nodup := by decide

def startWithSalaries : KnowledgeBaseWorld :=
  { start with articles := ⟨[salaries, article], nodup_salaries⟩ }

theorem salaries_do_not_show :
    ((service.listArticles reader ⟨"event-2", secondEvent_notBlank⟩).run start).1 =
      ((service.listArticles reader ⟨"event-2", secondEvent_notBlank⟩).run
        startWithSalaries).1 := by
  refine listArticles_of_readable _ (fun listed _ hreadable => ?_) fun _ _ _ _ => rfl
  constructor
  · intro hmem
    exact List.mem_cons_of_mem salaries hmem
  · intro hmem
    rcases List.mem_cons.mp hmem with rfl | hother
    · exact absurd hreadable.1 (by decide)
    · exact hother

theorem evidence_after_edit : ∃ world response world' answer,
    (service.executeWrite executionCommand bob ⟨"event-3", thirdEvent_notBlank⟩
      "2026-01-06T09:00:00Z").run world = (.ok response, world') ∧
    ((service.readComplianceEvidence alice ⟨"event-1", firstEvent_notBlank⟩).run world').1 =
      .ok answer ∧
    answer.restoreEvidence.evidenceHash = response.refreshedRestoreEvidenceHash := by
  obtain ⟨world, -, hready⟩ := ready
  obtain ⟨world', hrun⟩ := executed hready
  obtain ⟨answer, hanswer, -, hhash, -⟩ := @evidence_after_execution service world world' _ bob
    alice _ ⟨"event-1", firstEvent_notBlank⟩ _ _ world' hrun rfl (.refl world') rfl
  exact ⟨world, _, world', answer, hrun, hanswer, hhash⟩

end HandbookEdit

end Collabio
