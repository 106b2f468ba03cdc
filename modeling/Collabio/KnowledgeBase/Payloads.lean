import Mathlib.Tactic
import Collabio.KnowledgeBase.ApprovalsSpec
import Collabio.KnowledgeBase.EvidenceSpec
import Collabio.KnowledgeBase.WriteGuard

/-!
# What the references of decisions and evidences determine

A guard reference is the hash of all that its decision says, and an evidence carries the hash of
all its other fields.

* `TellsApart`          — guard references and evidence hashes have no collisions;
* `verdict_of_ref`      — decisions with one reference have one verdict;
* `eq_of_payload`       — the payload of an evidence covers every field but the hash;
* `eq_of_evidenceHash`  — evidences with one hash, and it is their own, are one evidence.
-/

namespace Collabio

variable {H : HashFunctions}

/-- No collisions on what guard decisions and approval evidences are hashed to. -/
structure TellsApart (H : HashFunctions) : Prop where
  decisions : Set.InjOn H.sha256 (Set.range fun decision :
                KnowledgeBaseSourceObjectWriteGuardDecision => jsonBytes decision.payload)
  evidences : Set.InjOn H.sha256 (Set.range fun evidence : KnowledgeBaseWriteApprovalEvidence =>
                jsonBytes evidence.payload)

theorem KnowledgeBaseSourceObjectWriteGuardDecision.nodup_payloadKeys
    (decision : KnowledgeBaseSourceObjectWriteGuardDecision) :
    (decision.payloadMembers.map Prod.fst).Nodup := by
  show ["tenant_id", "allowed", "blocking_reasons", "write_approval_evidence_hash",
    "approval_state", "operation", "article_object_id", "expected_current_version_object_id",
    "proposed_source_object_id", "proposed_source_version_id",
    "proposed_source_version_evidence_hash", "current_restore_evidence_hash",
    "persistence_allowed", "rag_indexing_allowed", "source_authority_verified",
    "required_evidence", "schema_version"].Nodup
  decide

/-- **One reference, one verdict**, and one approval that it is about. -/
theorem verdict_of_ref (hapart : TellsApart H)
    {decision decision' : KnowledgeBaseSourceObjectWriteGuardDecision}
    (h : buildSourceObjectWriteGuardRef H decision = buildSourceObjectWriteGuardRef H decision') :
    decision.allowed = decision'.allowed ∧
      decision.writeApprovalEvidenceHash = decision'.writeApprovalEvidenceHash := by
  have hhash : hashJson H decision.payload = hashJson H decision'.payload := by
    have hlist := congrArg String.toList h
    simp only [buildSourceObjectWriteGuardRef, String.toList_append,
      List.append_cancel_left_eq] at hlist
    exact String.toList_inj.mp hlist
  have hsame : Json.Same decision.payload decision'.payload :=
    same_of_hashJson_eq hapart.decisions ⟨decision, rfl⟩ ⟨decision', rfl⟩ hhash
  have hkeys := decision'.nodup_payloadKeys
  constructor
  · exact Json.same_bool.mp (@Json.same_of_mem _ _ hsame hkeys "allowed" _ _
      (.tail _ (.head _)) (.tail _ (.head _)))
  · exact Json.same_str.mp (@Json.same_of_mem _ _ hsame hkeys "write_approval_evidence_hash" _ _
      (.tail _ (.tail _ (.tail _ (.head _)))) (.tail _ (.tail _ (.tail _ (.head _)))))

theorem KnowledgeBaseWriteOperation.value_injective :
    Function.Injective KnowledgeBaseWriteOperation.value := by
  intro a b h
  cases a <;> cases b <;> first | rfl | exact absurd h (by decide)

theorem KnowledgeBaseWriteApprovalState.value_injective :
    Function.Injective KnowledgeBaseWriteApprovalState.value := by
  intro a b h
  cases a <;> cases b <;> first | rfl | exact absurd h (by decide)

attribute [ext] KnowledgeBaseWriteApprovalEvidence

namespace KnowledgeBaseWriteApprovalEvidence

/-- The members of the payload. -/
def payloadMembers (evidence : KnowledgeBaseWriteApprovalEvidence) : List (String × Json) :=
  match evidence.payload with
  | .obj members => members
  | _ => []

theorem payload_eq (evidence : KnowledgeBaseWriteApprovalEvidence) :
    evidence.payload = .obj evidence.payloadMembers := rfl

/-- The keys before and after the transition source, which only an approval has. -/
def keysBefore : List String := [
  "tenant_id", "approval_reference", "operation", "approval_state", "article_object_id",
  "article_key", "title", "expected_current_version_object_id", "proposed_version_object_id",
  "proposed_version_label", "proposed_source_object_id", "proposed_source_version_id",
  "proposed_source_object_type", "proposed_source_manifest_hash", "proposed_content_hash",
  "proposed_acl_version", "command_hash", "proposed_source_version_evidence_hash",
  "current_restore_evidence_hash", "source_object_write_guard_ref"]

def keysAfter : List String := [
  "requested_by", "persistence_allowed", "rag_indexing_allowed", "source_authority_verified",
  "audit_event_id", "audit_chain_ref", "source_system", "schema_version"]

theorem nodup_payloadKeys (evidence : KnowledgeBaseWriteApprovalEvidence) :
    (evidence.payloadMembers.map Prod.fst).Nodup := by
  have hwithout : (keysBefore ++ keysAfter).Nodup := by decide
  have hwith : (keysBefore ++ "transition_source_evidence_hash" :: keysAfter).Nodup := by decide
  unfold payloadMembers payload
  cases evidence.transitionSourceEvidenceHash with
  | none => exact hwithout
  | some hash => exact hwith

/-- A transition source that one evidence has, every evidence of the same payload has. -/
theorem transition_of_same {evidence evidence' : KnowledgeBaseWriteApprovalEvidence}
    (h : Json.Same evidence.payload evidence'.payload) {hash : String}
    (hhash : evidence.transitionSourceEvidenceHash = some hash) :
    evidence'.transitionSourceEvidenceHash = some hash := by
  have hmember : ("transition_source_evidence_hash", Json.str hash) ∈
      evidence.payloadMembers := by
    simp [payloadMembers, payload, hhash]
  obtain ⟨y, hy, hsame⟩ := Json.exists_mem_of_same h hmember
  cases htransition : evidence'.transitionSourceEvidenceHash with
  | none => simp [htransition] at hy
  | some hash' =>
    have hvalue : y = .str hash' := by simpa [htransition] using hy
    rw [hvalue] at hsame
    rw [Json.same_str.mp hsame]

/-- **The payload covers every field** but the hash. -/
theorem eq_of_payload {evidence evidence' : KnowledgeBaseWriteApprovalEvidence}
    (h : Json.Same evidence.payload evidence'.payload)
    (hhash : evidence.evidenceHash = evidence'.evidenceHash) : evidence = evidence' := by
  have hmember (key : String) : ∀ {x y}, (key, x) ∈ evidence.payloadMembers →
      (key, y) ∈ evidence'.payloadMembers → Json.Same x y :=
    fun hx hy => Json.same_of_mem h evidence'.nodup_payloadKeys hx hy
  have htext (key : String) {s t : String} (hs : (key, .str s) ∈ evidence.payloadMembers)
      (ht : (key, .str t) ∈ evidence'.payloadMembers) : s = t := Json.same_str.mp (hmember key hs ht)
  have hflag (key : String) {a b : Bool} (ha : (key, .bool a) ∈ evidence.payloadMembers)
      (hb : (key, .bool b) ∈ evidence'.payloadMembers) : a = b := Json.same_bool.mp (hmember key ha hb)
  -- the one member that is not in every payload
  have htransition : evidence.transitionSourceEvidenceHash =
      evidence'.transitionSourceEvidenceHash := by
    refine Option.ext fun hash => ⟨fun hmem => ?_, fun hmem => ?_⟩
    · exact transition_of_same h hmem
    · exact transition_of_same (Eq.symm h) hmem
  have hoperation : evidence.operation.value = evidence'.operation.value :=
    htext "operation" (by simp [payloadMembers, payload]) (by simp [payloadMembers, payload])
  have hstate : evidence.approvalState.value = evidence'.approvalState.value :=
    htext "approval_state" (by simp [payloadMembers, payload]) (by simp [payloadMembers, payload])
  have htype : evidence.proposedSourceObjectType.value = evidence'.proposedSourceObjectType.value :=
    htext "proposed_source_object_type" (by simp [payloadMembers, payload])
      (by simp [payloadMembers, payload])
  have hacl : (evidence.proposedAclVersion : Int) = evidence'.proposedAclVersion :=
    Json.same_int.mp (hmember "proposed_acl_version" (by simp [payloadMembers, payload])
      (by simp [payloadMembers, payload]))
  have hexpected : evidence.expectedCurrentVersionObjectId =
      evidence'.expectedCurrentVersionObjectId :=
    same_optionalText.mp (hmember "expected_current_version_object_id"
      (by simp [payloadMembers, payload]) (by simp [payloadMembers, payload]))
  exact KnowledgeBaseWriteApprovalEvidence.ext
    (htext "tenant_id" (by simp [payloadMembers, payload])
      (by simp [payloadMembers, payload]))
    (htext "approval_reference" (by simp [payloadMembers, payload])
      (by simp [payloadMembers, payload]))
    (KnowledgeBaseWriteOperation.value_injective hoperation)
    (KnowledgeBaseWriteApprovalState.value_injective hstate)
    (htext "article_object_id" (by simp [payloadMembers, payload])
      (by simp [payloadMembers, payload]))
    (htext "article_key" (by simp [payloadMembers, payload])
      (by simp [payloadMembers, payload]))
    (htext "title" (by simp [payloadMembers, payload])
      (by simp [payloadMembers, payload]))
    hexpected
    (htext "proposed_version_object_id" (by simp [payloadMembers, payload])
      (by simp [payloadMembers, payload]))
    (htext "proposed_version_label" (by simp [payloadMembers, payload])
      (by simp [payloadMembers, payload]))
    (htext "proposed_source_object_id" (by simp [payloadMembers, payload])
      (by simp [payloadMembers, payload]))
    (htext "proposed_source_version_id" (by simp [payloadMembers, payload])
      (by simp [payloadMembers, payload]))
    (SourceObjectType.value_injective htype)
    (htext "proposed_source_manifest_hash" (by simp [payloadMembers, payload])
      (by simp [payloadMembers, payload]))
    (htext "proposed_content_hash" (by simp [payloadMembers, payload])
      (by simp [payloadMembers, payload]))
    (Int.ofNat_inj.mp hacl)
    (htext "command_hash" (by simp [payloadMembers, payload])
      (by simp [payloadMembers, payload]))
    (htext "proposed_source_version_evidence_hash" (by simp [payloadMembers, payload])
      (by simp [payloadMembers, payload]))
    (htext "current_restore_evidence_hash" (by simp [payloadMembers, payload])
      (by simp [payloadMembers, payload]))
    (htext "source_object_write_guard_ref" (by simp [payloadMembers, payload])
      (by simp [payloadMembers, payload]))
    htransition
    (htext "requested_by" (by simp [payloadMembers, payload])
      (by simp [payloadMembers, payload]))
    (hflag "persistence_allowed" (by simp [payloadMembers, payload])
      (by simp [payloadMembers, payload]))
    (hflag "rag_indexing_allowed" (by simp [payloadMembers, payload])
      (by simp [payloadMembers, payload]))
    (hflag "source_authority_verified" (by simp [payloadMembers, payload])
      (by simp [payloadMembers, payload]))
    (htext "audit_event_id" (by simp [payloadMembers, payload])
      (by simp [payloadMembers, payload]))
    (htext "audit_chain_ref" (by simp [payloadMembers, payload])
      (by simp [payloadMembers, payload]))
    (htext "source_system" (by simp [payloadMembers, payload])
      (by simp [payloadMembers, payload]))
    hhash
    (htext "schema_version" (by simp [payloadMembers, payload])
      (by simp [payloadMembers, payload]))

/-- **Evidences that carry one hash, and it is their own, are one evidence.** -/
theorem eq_of_evidenceHash (hapart : TellsApart H)
    {evidence evidence' : KnowledgeBaseWriteApprovalEvidence}
    (h : buildWriteApprovalEvidenceHash H evidence = evidence.evidenceHash)
    (h' : buildWriteApprovalEvidenceHash H evidence' = evidence'.evidenceHash)
    (hhash : evidence.evidenceHash = evidence'.evidenceHash) : evidence = evidence' := by
  refine eq_of_payload (same_of_hashJson_eq hapart.evidences ⟨evidence, rfl⟩ ⟨evidence', rfl⟩ ?_)
    hhash
  calc hashJson H evidence.payload = evidence.evidenceHash := h
    _ = evidence'.evidenceHash := hhash
    _ = hashJson H evidence'.payload := h'.symm

end KnowledgeBaseWriteApprovalEvidence

end Collabio
