import Mathlib.Tactic
import Collabio.Platform.CrmErpLegacyMapping

/-!
# When a discovery can be mapped

Discovery, evidence plan and mapping decide on their own what is sure enough, and agree. They do
not agree on names: a snapshot may have names with dots, and a ref with more than one dot is not
read.

* `SafelyMapped`         — one decision for each table, as discovery and plan have it;
* `mapping_succeeds_iff` — a discovery is mapped, and safely, exactly if no name has a dot.
-/

namespace Collabio

variable {H : HashFunctions}

/-- The hash of a manifest is a reference. -/
theorem isKbRef_manifestHash (hdigests : H.HasDigests) (members : List (String × Json)) :
    isKbRef (stableHash H (Json.canonical (.obj members))) = true :=
  isKbRef_computeContentHash (hdigests _ (jsonBytes_obj_ne_nil members))

/-! ## What is decided -/

/-- The decision on a table follows its candidate: a sure business object is mapped to its
target, and all else to a row of the legacy database, in quarantine. -/
structure SafelyDecided (candidate : LegacySqlObjectCandidate)
    (decision : CrmErpLegacyTableMappingDecision) : Prop where
  table    : decision.sourceTableRef = candidate.sourceTableRef
  target   : decision.action = .mapToTarget ↔ candidate.candidateObjectType ≠ legacyRow ∧
               (candidate.confidence = .high ∨ candidate.confidence = .medium)
  type     : decision.action = .mapToTarget →
               decision.targetObjectType = candidate.candidateObjectType
  fallback : decision.action ≠ .mapToTarget →
               decision.targetObjectType = legacyRow ∧ decision.quarantineRequired = true

/-- One decision for each table of the snapshot, and the quarantine of the plan. -/
structure SafelyMapped (snapshot : LegacySqlSchemaSnapshot) (plan : LegacySqlImportEvidencePlan)
    (mapping : CrmErpLegacyMappingManifest) : Prop where
  decided    : List.Forall₂ (fun table decision =>
                 SafelyDecided (candidateForTable table) decision)
                 snapshot.tables mapping.decisions
  unique     : (mapping.decisions.map (·.sourceTableRef)).Nodup
  quarantine : mapping.quarantineTableRefs = plan.quarantineTableRefs

/-- Neither name of the table has a dot. -/
def LegacySqlTableMetadata.PlainlyNamed (table : LegacySqlTableMetadata) : Prop :=
  '.' ∉ table.schemaName.toList ∧ '.' ∉ table.tableName.toList

theorem LegacySqlTableMetadata.validateTableRef_iff (table : LegacySqlTableMetadata) :
    validateTableRef table.tableRef = true ↔ table.PlainlyNamed := by
  have herrors := LegacySqlTableMetadataFields.errors_of_validate table.accepted
  obtain ⟨hschema, hname⟩ := LegacySqlTableMetadataFields.identifiers_of_errors herrors
  exact Collabio.validateTableRef_iff hschema hname

namespace CrmErpLegacyMappingEvidenceService

open LegacySqlDiscoveryService

/-- Mapping trusts what the plan does not quarantine. -/
theorem isTrusted_eq (candidate : LegacySqlObjectCandidate) :
    isTrusted candidate = !isQuarantined candidate := by
  unfold isTrusted isQuarantined
  cases candidate.confidence <;> simp

theorem isTrusted_iff {candidate : LegacySqlObjectCandidate} :
    isTrusted candidate = true ↔ candidate.candidateObjectType ≠ legacyRow ∧
      (candidate.confidence = .high ∨ candidate.confidence = .medium) := by
  simp [isTrusted]

theorem decisionFromProfile_eq_ok {service : CrmErpLegacyMappingEvidenceService}
    {candidate : LegacySqlObjectCandidate} {action : CrmErpLegacyMappingAction}
    {targetObjectType : String} {quarantineRequired : Bool} {approvalReference : Option String}
    {reasons : List String} {decision : CrmErpLegacyTableMappingDecision} :
    service.decisionFromProfile candidate action targetObjectType quarantineRequired
        approvalReference reasons = .ok decision ↔
      ∃ profile, service.targetProfile targetObjectType = .ok profile ∧
        decision = profileDecision profile candidate action quarantineRequired approvalReference
          reasons ∧
        decision.validate = .ok () := by
  unfold decisionFromProfile
  constructor
  · intro h
    obtain ⟨profile, hprofile, h⟩ := Except.bind_eq_ok.mp h
    obtain ⟨hvalid, h⟩ := Except.unit_bind_eq_ok.mp h
    cases h
    exact ⟨profile, hprofile, rfl, ofModel_eq_ok.mp hvalid⟩
  · rintro ⟨profile, hprofile, rfl, hvalid⟩
    exact Except.bind_eq_ok.mpr ⟨profile, hprofile,
      Except.unit_bind_eq_ok.mpr ⟨ofModel_eq_ok.mpr hvalid, rfl⟩⟩

/-- A decision is made only if the ref of its table is read. -/
theorem tableRef_of_buildDecision {service : CrmErpLegacyMappingEvidenceService}
    {candidate : LegacySqlObjectCandidate} {quarantineRequired : Bool}
    {decision : CrmErpLegacyTableMappingDecision}
    (h : service.buildDecision candidate quarantineRequired none = .ok decision) :
    validateTableRef candidate.sourceTableRef = true := by
  have hread : ∀ {action target required reasons},
      service.decisionFromProfile candidate action target required none reasons = .ok decision →
      validateTableRef candidate.sourceTableRef = true := by
    intro action target required reasons h
    obtain ⟨profile, -, rfl, hvalid⟩ := decisionFromProfile_eq_ok.mp h
    obtain ⟨herrors, -⟩ := CrmErpLegacyTableMappingDecision.validate_eq_ok.mp hvalid
    simp only [CrmErpLegacyTableMappingDecision.errors, requireTableRef,
      List.append_eq_nil_iff, requireFullmatch_eq_nil] at herrors
    exact herrors.1.1.1.1.1.1
  unfold buildDecision at h
  dsimp only at h
  split at h
  · exact hread h
  · exact hread h

/-- The decision of an accepted profile is accepted. -/
theorem validate_profileDecision {profile : CrmErpTargetObjectProfile}
    {candidate : LegacySqlObjectCandidate} {action : CrmErpLegacyMappingAction}
    {quarantineRequired : Bool} {reasons : List String}
    (href : validateTableRef candidate.sourceTableRef = true)
    (htype : isObjectType candidate.candidateObjectType = true)
    (haction : action = .mapToTarget ↔ profile.objectType ≠ legacyRow)
    (hreasons : reasons ≠ [] ∧ ∀ reason ∈ reasons, Text.strip reason ≠ "") :
    (profileDecision profile candidate action quarantineRequired none reasons).validate =
      .ok () := by
  obtain ⟨htarget, hfeature, hretention, hgobd⟩ :=
    CrmErpTargetObjectProfileFields.fields_of_validate profile.accepted
  refine CrmErpLegacyTableMappingDecision.validate_eq_ok.mpr ⟨?_, ?_⟩
  · simp only [CrmErpLegacyTableMappingDecision.errors, requireTableRef,
      CrmErpLegacyTableMappingDecision.validateObjectType, validateApprovalReference,
      List.append_eq_nil_iff, requireFullmatch_eq_nil,
      CrmErpLegacyTableMappingDecision.requireMappingReasons_eq_nil]
    exact ⟨⟨⟨⟨⟨⟨href, htype⟩, htarget⟩, hfeature⟩, hretention⟩, rfl⟩, hreasons⟩
  · unfold CrmErpLegacyTableMappingDecision.requireActionConsistency requireModel
    rw [require_bind_eq_ok, require_bind_eq_ok, require_bind_eq_ok, require_eq_ok]
    refine ⟨?_, ?_, hgobd, by simp [profileDecision]⟩
    · rintro ⟨hmapped, hlegacy⟩
      exact haction.mp hmapped hlegacy
    · rintro ⟨hmapped, hlegacy⟩
      exact hmapped (haction.mpr hlegacy)

/-- The default profile of a candidate's type, or of a row of the legacy database. -/
theorem exists_targetProfile {objectType : String}
    (h : objectType ∈ legacyRow :: targetPatterns.map (·.objectType)) :
    ∃ profile, ({} : CrmErpLegacyMappingEvidenceService).targetProfile objectType = .ok profile ∧
      profile.objectType = objectType := by
  obtain ⟨profile, hprofile, htype⟩ := exists_defaultProfile h
  refine ⟨profile, ?_, htype⟩
  unfold targetProfile
  rw [show ({} : CrmErpLegacyMappingEvidenceService).targetProfiles.get? objectType =
    some profile from hprofile]

theorem isObjectType_of_candidate (table : LegacySqlTableMetadata) :
    isObjectType (candidateForTable table).candidateObjectType = true := by
  obtain ⟨profile, -, htype⟩ := exists_defaultProfile (candidateObjectType_mem table)
  rw [← htype]
  exact (CrmErpTargetObjectProfileFields.fields_of_validate profile.accepted).1

/-- The reasons of a candidate, and two more. -/
theorem reasons_checked (table : LegacySqlTableMetadata) {more : List String}
    (hmore : ∀ reason ∈ more, reason ∈ ["candidate confidence allows draft target mapping",
      "operator approval still required before import",
      "safe fallback to legacy.row until manual mapping approval exists",
      "quarantine required before business-object import"]) :
    (candidateForTable table).reasons ++ more ≠ [] ∧
      ∀ reason ∈ (candidateForTable table).reasons ++ more, Text.strip reason ≠ "" := by
  obtain ⟨hne, hreasons⟩ := reasons_candidateForTable table
  refine ⟨List.append_ne_nil_of_left_ne_nil hne _, fun reason hreason => ?_⟩
  rcases List.mem_append.mp hreason with hreason | hreason
  · exact mappingTexts_checked.2.2.2.1 _ (hreasons _ hreason)
  · exact mappingTexts_checked.2.2.2.2.1 _ (hmore _ hreason)

/-- A table whose ref is read is decided on, safely. -/
theorem buildDecision_of_plain {table : LegacySqlTableMetadata} (hplain : table.PlainlyNamed) :
    ∃ decision, ({} : CrmErpLegacyMappingEvidenceService).buildDecision (candidateForTable table)
        (isQuarantined (candidateForTable table)) none = .ok decision ∧
      SafelyDecided (candidateForTable table) decision ∧
      decision.quarantineRequired = isQuarantined (candidateForTable table) := by
  have href : validateTableRef (candidateForTable table).sourceTableRef = true := by
    rw [sourceTableRef_candidateForTable]
    exact table.validateTableRef_iff.mpr hplain
  have htype := isObjectType_of_candidate table
  have htrusted := isTrusted_eq (candidateForTable table)
  unfold buildDecision
  dsimp only
  -- the decision is trusted exactly where the candidate is not quarantined
  cases hquarantined : isQuarantined (candidateForTable table) with
  | false =>
    rw [hquarantined, Bool.not_false] at htrusted
    rw [if_pos ⟨htrusted, rfl⟩]
    -- a trusted candidate is mapped to the target of its type
    have hsure := isTrusted_iff.mp htrusted
    obtain ⟨profile, hprofile, htarget⟩ := exists_targetProfile (candidateObjectType_mem table)
    refine ⟨_, decisionFromProfile_eq_ok.mpr ⟨profile, hprofile, rfl,
      validate_profileDecision href htype ?_ (reasons_checked table ?_)⟩, ?_, rfl⟩
    · rw [htarget]
      exact iff_of_true rfl hsure.1
    · simp
    · exact {
        table := rfl
        target := iff_of_true rfl hsure
        type := fun _ => htarget
        fallback := fun h => absurd rfl h }
  | true =>
    rw [hquarantined, Bool.not_true] at htrusted
    rw [if_neg (by rw [htrusted]; simp)]
    -- any other is mapped to the fallback's rows
    obtain ⟨profile, hprofile, htarget⟩ :=
      @exists_targetProfile legacyRow List.mem_cons_self
    refine ⟨_, decisionFromProfile_eq_ok.mpr ⟨profile, hprofile, rfl,
      validate_profileDecision href htype ?_ (reasons_checked table ?_)⟩, ?_, rfl⟩
    · rw [htarget]
      exact iff_of_false (by decide) (by simp)
    · simp
    · have hunsure : ¬ isTrusted (candidateForTable table) = true := by
        rw [htrusted]
        exact Bool.false_ne_true
      have haction : CrmErpLegacyMappingAction.mapToLegacyRow ≠ .mapToTarget := by decide
      exact {
        table := rfl
        target := iff_of_false haction fun h => hunsure (isTrusted_iff.mpr h)
        type := fun h => absurd h haction
        fallback := fun _ => ⟨htarget, rfl⟩ }

/-! ## The plan -/

/-- Of tables with distinct refs, those are quarantined whose candidate is. -/
theorem mem_quarantineTableRefs {snapshot : LegacySqlSchemaSnapshot}
    {manifest : LegacySqlDiscoveryManifest}
    (hcandidates : manifest.objectCandidates = snapshot.tables.map candidateForTable)
    {table : LegacySqlTableMetadata} (htable : table ∈ snapshot.tables) :
    table.tableRef ∈ (buildImportEvidencePlan H manifest).quarantineTableRefs ↔
      isQuarantined (candidateForTable table) = true := by
  show table.tableRef ∈ ((manifest.objectCandidates.filter isQuarantined).map
    (·.sourceTableRef)).insertionSort (· ≤ ·) ↔ _
  rw [List.mem_insertionSort, List.mem_map]
  constructor
  · rintro ⟨candidate, hcandidate, href⟩
    obtain ⟨hmem, hquarantined⟩ := List.mem_filter.mp hcandidate
    rw [hcandidates] at hmem
    obtain ⟨other, hother, rfl⟩ := List.mem_map.mp hmem
    rw [sourceTableRef_candidateForTable] at href
    have hsame : other = table :=
      List.inj_on_of_nodup_map snapshot.unique_tables.2 hother htable
        (congrArg String.toLower href)
    rwa [← hsame]
  · intro hquarantined
    refine ⟨candidateForTable table, List.mem_filter.mpr ⟨?_, hquarantined⟩,
      sourceTableRef_candidateForTable table⟩
    rw [hcandidates]
    exact List.mem_map_of_mem htable

/-- The plan passes the checks of the mapping it is made for. -/
theorem validateInputs_plan {manifest : LegacySqlDiscoveryManifest}
    (hmodule : manifest.moduleId = crmErpModuleId) :
    validateInputs manifest (buildImportEvidencePlan H manifest) = .ok () := by
  have hmissing : unknownRefs (buildImportEvidencePlan H manifest).quarantineTableRefs
      (manifest.objectCandidates.map (·.sourceTableRef)) = [] := by
    rw [unknownRefs, Text.sortedSet_eq_nil, List.filter_eq_nil_iff]
    intro ref href
    have hmem := (List.mem_insertionSort (· ≤ ·)).mp href
    obtain ⟨candidate, hcandidate, rfl⟩ := List.mem_map.mp hmem
    have hknown : candidate.sourceTableRef ∈ manifest.objectCandidates.map (·.sourceTableRef) :=
      List.mem_map_of_mem (List.mem_filter.mp hcandidate).1
    simp only [decide_eq_true_eq, not_not]
    exact hknown
  unfold validateInputs
  refine Except.unit_bind_eq_ok.mpr ⟨requireEvidence_of _ hmodule, ?_⟩
  refine Except.unit_bind_eq_ok.mpr ⟨requireEvidence_of _ rfl, ?_⟩
  refine Except.unit_bind_eq_ok.mpr ⟨requireEvidence_of _ rfl, ?_⟩
  refine Except.unit_bind_eq_ok.mpr ⟨requireEvidence_of _ rfl, ?_⟩
  refine Except.unit_bind_eq_ok.mpr ⟨requireEvidence_of _ rfl, ?_⟩
  exact requireEvidence_of _ hmissing

/-- Decisions that agree with the candidates on refs and quarantine list the same refs. -/
theorem refsOf_eq {candidates : List LegacySqlObjectCandidate}
    {decisions : List CrmErpLegacyTableMappingDecision}
    (h : List.Forall₂ (fun candidate decision =>
      decision.sourceTableRef = candidate.sourceTableRef ∧
        decision.quarantineRequired = isQuarantined candidate) candidates decisions) :
    refsOf decisions (·.quarantineRequired) =
      ((candidates.filter isQuarantined).map (·.sourceTableRef)).insertionSort (· ≤ ·) := by
  have hrefs : (decisions.filter (·.quarantineRequired)).map (·.sourceTableRef) =
      (candidates.filter isQuarantined).map (·.sourceTableRef) := by
    induction h with
    | nil => rfl
    | @cons candidate decision candidates decisions hfirst _ ih =>
      obtain ⟨href, hquarantined⟩ := hfirst
      rw [List.filter_cons, List.filter_cons, hquarantined]
      split
      · rw [List.map_cons, List.map_cons, href, ih]
      · exact ih
  rw [refsOf, hrefs]

/-! ## The mapping -/

/-- A mapping is built only if the ref of every candidate is read. -/
theorem tableRefs_of_buildMapping {service : CrmErpLegacyMappingEvidenceService}
    {manifest : LegacySqlDiscoveryManifest} {plan : LegacySqlImportEvidencePlan}
    {mappingVersion : String} {mapping : CrmErpLegacyMappingManifest}
    (h : service.buildMappingManifest H manifest plan mappingVersion [] = .ok mapping) :
    ∀ candidate ∈ manifest.objectCandidates,
      validateTableRef candidate.sourceTableRef = true := by
  unfold buildMappingManifest at h
  obtain ⟨-, h⟩ := Except.unit_bind_eq_ok.mp h
  obtain ⟨byTable, hbyTable, h⟩ := Except.bind_eq_ok.mp h
  cases hbyTable
  obtain ⟨-, h⟩ := Except.unit_bind_eq_ok.mp h
  obtain ⟨decisions, hdecisions, -⟩ := Except.bind_eq_ok.mp h
  intro candidate hcandidate
  obtain ⟨decision, -, hdecision⟩ := Except.mem_mapM_of_mem hdecisions hcandidate
  exact tableRef_of_buildDecision hdecision

/-- The draft of safe decisions is accepted. -/
theorem validate_draftMapping {request : LegacySqlDiscoveryRequest}
    {snapshot : LegacySqlSchemaSnapshot} {manifest : LegacySqlDiscoveryManifest}
    {decisions : List CrmErpLegacyTableMappingDecision} (hdigests : H.HasDigests)
    (hmodule : request.moduleId = crmErpModuleId)
    (h : buildDiscoveryManifest H request snapshot = .ok manifest)
    (hrefs : decisions.map (·.sourceTableRef) = snapshot.tables.map (·.tableRef)) :
    (draftMapping manifest (buildImportEvidencePlan H manifest) "crm_erp_legacy_mapping.v1"
      decisions).validate = .ok () := by
  have hrequest := request.accepted
  simp only [LegacySqlDiscoveryRequestFields.errors,
    LegacySqlDiscoveryRequestFields.requireNonEmptyText,
    LegacySqlDiscoveryRequestFields.validateNamespacedRef, List.append_eq_nil_iff,
    requireNotBlank_eq_nil, requireFullmatch_eq_nil] at hrequest
  obtain ⟨⟨⟨⟨⟨htenant, -⟩, hsource⟩, -⟩, -⟩, -⟩ := hrequest
  -- both hashes are digests, the other texts are the request's
  have hmanifest := buildDiscoveryManifest_eq_ok h
  have hhash : isKbRef manifest.manifestHash = true := by
    rw [hmanifest]
    exact isKbRef_manifestHash hdigests _
  refine CrmErpLegacyMappingManifest.validate_eq_ok.mpr ⟨?_, ?_⟩
  · simp only [CrmErpLegacyMappingManifest.errors,
      CrmErpLegacyMappingManifest.requireCrmErpModule,
      CrmErpLegacyMappingManifest.validateNamespacedRef, List.append_eq_nil_iff,
      requireNotBlank_eq_nil, requireFullmatch_eq_nil]
    refine ⟨⟨⟨⟨⟨?_, if_pos ?_⟩, ?_⟩, hhash⟩, isKbRef_manifestHash hdigests _⟩,
      mappingTexts_checked.2.2.2.2.2⟩
    · rw [draftMapping, hmanifest]
      exact htenant
    · rw [draftMapping, hmanifest]
      exact hmodule
    · rw [draftMapping, hmanifest]
      exact hsource
  · -- the decisions' refs are the snapshot's, of which no two agree
    have hlower : decisions.map (·.sourceTableRef.toLower) =
        snapshot.tables.map (·.tableRef.toLower) := by
      have hmapped := congrArg (List.map String.toLower) hrefs
      rwa [List.map_map, List.map_map] at hmapped
    have hne : decisions ≠ [] := by
      rintro rfl
      exact snapshot.unique_tables.1 (List.map_eq_nil_iff.mp hrefs.symm)
    unfold CrmErpLegacyMappingManifest.requireCompleteMappingManifest requireModel
    rw [require_bind_eq_ok, require_bind_eq_ok, require_bind_eq_ok, require_eq_ok]
    refine ⟨hne, ?_, by simp [draftMapping], List.Perm.refl _⟩
    show (decisions.map (·.sourceTableRef.toLower)).Nodup
    rw [hlower]
    exact snapshot.unique_tables.2

theorem refs_of_decided {tables : List LegacySqlTableMetadata}
    {decisions : List CrmErpLegacyTableMappingDecision}
    (h : List.Forall₂ (fun table decision =>
      SafelyDecided (candidateForTable table) decision) tables decisions) :
    decisions.map (·.sourceTableRef) = tables.map (·.tableRef) := by
  induction h with
  | nil => rfl
  | cons hfirst _ ih =>
    rw [List.map_cons, List.map_cons, hfirst.table, sourceTableRef_candidateForTable, ih]

/-- Tables with plain names are mapped, and safely. -/
theorem mapping_of_plain {request : LegacySqlDiscoveryRequest}
    {snapshot : LegacySqlSchemaSnapshot} {manifest : LegacySqlDiscoveryManifest}
    (hdigests : H.HasDigests) (hmodule : request.moduleId = crmErpModuleId)
    (h : buildDiscoveryManifest H request snapshot = .ok manifest)
    (hplain : ∀ table ∈ snapshot.tables, table.PlainlyNamed) :
    ∃ mapping, ({} : CrmErpLegacyMappingEvidenceService).buildMappingManifest H manifest
        (buildImportEvidencePlan H manifest) "crm_erp_legacy_mapping.v1" [] = .ok mapping ∧
      SafelyMapped snapshot (buildImportEvidencePlan H manifest) mapping := by
  have hmanifest := buildDiscoveryManifest_eq_ok h
  have hcandidates : manifest.objectCandidates = snapshot.tables.map candidateForTable := by
    rw [hmanifest]
    rfl
  have hmanifestModule : manifest.moduleId = crmErpModuleId := by
    rw [hmanifest]
    exact hmodule
  -- what is decided on each table
  let decisionOn := fun candidate : LegacySqlObjectCandidate =>
    ({} : CrmErpLegacyMappingEvidenceService).buildDecision candidate
      (decide (candidate.sourceTableRef ∈ (buildImportEvidencePlan H manifest).quarantineTableRefs))
      none
  have hdecide : ∀ table ∈ snapshot.tables, ∃ decision,
      decisionOn (candidateForTable table) = .ok decision ∧
        SafelyDecided (candidateForTable table) decision ∧
        decision.quarantineRequired = isQuarantined (candidateForTable table) := by
    intro table htable
    have hquarantined : decide ((candidateForTable table).sourceTableRef ∈
        (buildImportEvidencePlan H manifest).quarantineTableRefs) =
        isQuarantined (candidateForTable table) := by
      rw [sourceTableRef_candidateForTable, Bool.eq_iff_iff, decide_eq_true_iff,
        mem_quarantineTableRefs hcandidates htable]
    show ∃ decision, ({} : CrmErpLegacyMappingEvidenceService).buildDecision _ _ none = _ ∧ _
    rw [hquarantined]
    exact buildDecision_of_plain (hplain table htable)
  obtain ⟨decisions, hdecisions⟩ : ∃ decisions, manifest.objectCandidates.mapM decisionOn =
      .ok decisions := by
    refine Except.mapM_isOk fun candidate hcandidate => ?_
    rw [hcandidates] at hcandidate
    obtain ⟨table, htable, rfl⟩ := List.mem_map.mp hcandidate
    obtain ⟨decision, hdecision, -⟩ := hdecide table htable
    exact ⟨decision, hdecision⟩
  have hall : List.Forall₂ (fun table decision => SafelyDecided (candidateForTable table) decision ∧
      decision.quarantineRequired = isQuarantined (candidateForTable table))
      snapshot.tables decisions := by
    have hmapped := Except.mapM_eq_ok.mp hdecisions
    rw [hcandidates, List.forall₂_map_left_iff] at hmapped
    have hpairs := (List.forall₂_and_left snapshot.tables decisions).mpr
      ⟨fun table (htable : table ∈ snapshot.tables) => htable, hmapped⟩
    refine hpairs.imp ?_
    rintro table decision ⟨htable, hdecision⟩
    obtain ⟨decision', hdecision', hsafe, hquarantined⟩ := hdecide table htable
    obtain rfl : decision = decision' := Except.ok.inj (hdecision.symm.trans hdecision')
    exact ⟨hsafe, hquarantined⟩
  have hdecided := hall.imp fun table decision hpair => hpair.1
  have hrefs := refs_of_decided hdecided
  have hbuilt : ∃ mapping, ({} : CrmErpLegacyMappingEvidenceService).buildMappingManifest H
      manifest (buildImportEvidencePlan H manifest) "crm_erp_legacy_mapping.v1" [] = .ok mapping ∧
      mapping.decisions = decisions ∧
      mapping.quarantineTableRefs = refsOf decisions (·.quarantineRequired) := by
    have hvalid := validate_draftMapping hdigests hmodule h hrefs
    have hunknown : unknownRefs (∅ : Dict String CrmErpLegacyMappingOverride).keys
        (manifest.objectCandidates.map (·.sourceTableRef)) = [] := Text.sortedSet_eq_nil.mpr rfl
    unfold buildMappingManifest
    exact ⟨_, Except.unit_bind_eq_ok.mpr ⟨validateInputs_plan hmanifestModule,
      Except.bind_eq_ok.mpr ⟨∅, rfl,
        Except.unit_bind_eq_ok.mpr ⟨requireEvidence_of _ hunknown,
          Except.bind_eq_ok.mpr ⟨decisions, hdecisions,
            Except.unit_bind_eq_ok.mpr ⟨ofModel_eq_ok.mpr hvalid, rfl⟩⟩⟩⟩⟩, rfl, rfl⟩
  obtain ⟨mapping, hmapping, hmade, hquarantine⟩ := hbuilt
  refine ⟨mapping, hmapping, ?_, ?_, ?_⟩
  · rw [hmade]
    exact hdecided
  · have hlower : ((snapshot.tables.map (·.tableRef)).map String.toLower).Nodup := by
      rw [List.map_map]
      exact snapshot.unique_tables.2
    rw [hmade, hrefs]
    exact hlower.of_map
  · have hagree : List.Forall₂ (fun candidate decision =>
        decision.sourceTableRef = candidate.sourceTableRef ∧
          decision.quarantineRequired = isQuarantined candidate)
        manifest.objectCandidates decisions := by
      rw [hcandidates, List.forall₂_map_left_iff]
      exact hall.imp fun table decision hpair => ⟨hpair.1.table, hpair.2⟩
    rw [hquarantine, refsOf_eq hagree]
    rfl

/-- **Mapping.** The manifest of a snapshot of the CRM and ERP module is mapped with the plan made
of it, and safely, exactly if no table of the snapshot has a name with a dot. -/
theorem mapping_succeeds_iff {request : LegacySqlDiscoveryRequest}
    {snapshot : LegacySqlSchemaSnapshot} {manifest : LegacySqlDiscoveryManifest}
    (hdigests : H.HasDigests) (hmodule : request.moduleId = crmErpModuleId)
    (h : buildDiscoveryManifest H request snapshot = .ok manifest) :
    (∃ mapping, ({} : CrmErpLegacyMappingEvidenceService).buildMappingManifest H manifest
        (buildImportEvidencePlan H manifest) "crm_erp_legacy_mapping.v1" [] = .ok mapping ∧
      SafelyMapped snapshot (buildImportEvidencePlan H manifest) mapping) ↔
      ∀ table ∈ snapshot.tables, table.PlainlyNamed := by
  constructor
  · rintro ⟨mapping, hmapping, -⟩ table htable
    have hread := tableRefs_of_buildMapping hmapping (candidateForTable table) (by
      rw [buildDiscoveryManifest_eq_ok h]
      exact List.mem_map_of_mem htable)
    rw [sourceTableRef_candidateForTable] at hread
    exact table.validateTableRef_iff.mp hread
  · exact mapping_of_plain hdigests hmodule h

/-! ## A name with a dot -/

def sampleColumnFields : LegacySqlColumnMetadataFields where
  name := "Id"
  ordinalPosition := 1
  dataType := "int"
  nullable := false

theorem sampleColumn_accepted : sampleColumnFields.errors = [] := by decide +kernel

/-- A table of the sample database with this name. -/
def sampleTableFields (tableName : String) : LegacySqlTableMetadataFields where
  schemaName := "dbo"
  tableName := tableName
  columns := [⟨sampleColumnFields, sampleColumn_accepted⟩]
  primaryKeyColumns := ["Id"]

def sampleRequestFields : LegacySqlDiscoveryRequestFields where
  tenantId := "tenant-1"
  moduleId := "crm_erp"
  sourceSystemRef := "legacy-sql:sqlserver-prod"
  connectorKind := .sqlserver
  requestedBy := "admin-1"
  approvalReference := "approval:legacy-sql-discovery"
  auditChainRef := "audit:legacy-sql-discovery"

theorem sampleDiscovery_checked :
    (∀ tableName ∈ ["Kunden", "Order.Items"], (sampleTableFields tableName).validate = .ok ()) ∧
    isKbRef "sha256:legacy-sql-fingerprint" = true ∧ sampleRequestFields.errors = [] ∧
    '.' ∉ "dbo".toList ∧ '.' ∉ "Kunden".toList ∧ '.' ∈ "Order.Items".toList := by decide +kernel

def sampleTable (tableName : String) (h : tableName ∈ ["Kunden", "Order.Items"]) :
    LegacySqlTableMetadata :=
  ⟨sampleTableFields tableName, sampleDiscovery_checked.1 tableName h⟩

def sampleSnapshotFields (table : LegacySqlTableMetadata) : LegacySqlSchemaSnapshotFields where
  connectionFingerprintHash := "sha256:legacy-sql-fingerprint"
  inspectedAtUtc := "2026-01-05T09:00:00Z"
  tables := [table]

theorem sampleSnapshot_accepted (table : LegacySqlTableMetadata) :
    (sampleSnapshotFields table).errors = [] := by
  rw [LegacySqlSchemaSnapshotFields.errors, List.append_eq_nil_iff, requireFullmatch_eq_nil,
    LegacySqlSchemaSnapshotFields.requireUniqueTables_eq_nil]
  exact ⟨sampleDiscovery_checked.2.1, List.cons_ne_nil _ _, List.nodup_singleton _⟩

/-- A snapshot of one table. -/
def sampleSnapshot (table : LegacySqlTableMetadata) : LegacySqlSchemaSnapshot :=
  ⟨sampleSnapshotFields table, sampleSnapshot_accepted table⟩

def sampleRequest : LegacySqlDiscoveryRequest :=
  ⟨sampleRequestFields, sampleDiscovery_checked.2.2.1⟩

def dottedTable : LegacySqlTableMetadata := sampleTable "Order.Items" (.tail _ (.head _))

/-- A discovery with such a table is not mapped at all. -/
theorem dotted_table_not_mapped : ∃ (request : LegacySqlDiscoveryRequest)
    (snapshot : LegacySqlSchemaSnapshot) (manifest : LegacySqlDiscoveryManifest),
    request.moduleId = crmErpModuleId ∧
      buildDiscoveryManifest default request snapshot = .ok manifest ∧
      ∀ mapping, ({} : CrmErpLegacyMappingEvidenceService).buildMappingManifest default manifest
        (buildImportEvidencePlan default manifest) "crm_erp_legacy_mapping.v1" [] ≠ .ok mapping := by
  obtain ⟨manifest, hmanifest⟩ :=
    @buildDiscoveryManifest_isOk default sampleRequest (sampleSnapshot dottedTable)
  refine ⟨sampleRequest, sampleSnapshot dottedTable, manifest, rfl, hmanifest, ?_⟩
  intro mapping hmapping
  have hread := tableRefs_of_buildMapping hmapping (candidateForTable dottedTable) (by
    rw [buildDiscoveryManifest_eq_ok hmanifest]
    exact List.mem_map_of_mem List.mem_cons_self)
  rw [sourceTableRef_candidateForTable] at hread
  exact (dottedTable.validateTableRef_iff.mp hread).2 sampleDiscovery_checked.2.2.2.2.2

/-- A discovery of one table with a plain name is. -/
theorem sample_mapping_succeeds : ∃ manifest,
    buildDiscoveryManifest default sampleRequest
        (sampleSnapshot (sampleTable "Kunden" (.head _))) = .ok manifest ∧
      ∃ mapping, ({} : CrmErpLegacyMappingEvidenceService).buildMappingManifest default manifest
          (buildImportEvidencePlan default manifest) "crm_erp_legacy_mapping.v1" [] =
            .ok mapping ∧
        SafelyMapped (sampleSnapshot (sampleTable "Kunden" (.head _)))
          (buildImportEvidencePlan default manifest) mapping := by
  obtain ⟨manifest, hmanifest⟩ :=
    @buildDiscoveryManifest_isOk default sampleRequest
      (sampleSnapshot (sampleTable "Kunden" (.head _)))
  refine ⟨manifest, hmanifest, (mapping_succeeds_iff hasDigests_default rfl hmanifest).mpr ?_⟩
  intro table htable
  obtain rfl := List.mem_singleton.mp htable
  exact ⟨sampleDiscovery_checked.2.2.2.1, sampleDiscovery_checked.2.2.2.2.1⟩

end CrmErpLegacyMappingEvidenceService

end Collabio
