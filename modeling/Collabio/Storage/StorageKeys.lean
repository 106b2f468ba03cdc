import Mathlib.Tactic
import Collabio.KnowledgeBase.EvidenceSpec
import Collabio.Storage.PgSourceObjects

/-!
# Storage keys

`build_storage_object_key` joins tenant, type, object and version with slashes, and the
metadata model lets slashes into all three identifiers.

* `storage_keys_apart_iff` — which two quadruples have different keys;
* `keys_apart_of_no_slash` — those whose tenants and objects are without slashes;
* `places_of_added`        — a version whose content has the place of another's is not added.
-/

namespace Collabio

open Datetime InMemorySourceObjectContentStore

/-! ## Texts joined by slashes -/

theorem slash_append_inj {a b c d : List Char} :
    a ++ '/' :: b = c ++ '/' :: d ↔
      (a = c ∧ b = d) ∨ (∃ rest, c = a ++ '/' :: rest ∧ b = rest ++ '/' :: d) ∨
        ∃ rest, a = c ++ '/' :: rest ∧ d = rest ++ '/' :: b := by
  constructor
  · intro h
    rcases List.append_eq_append_iff.mp h with ⟨more, rfl, hb⟩ | ⟨more, rfl, hd⟩
    · cases more with
      | nil =>
        rw [List.nil_append, List.cons.injEq] at hb
        exact .inl ⟨by simp, hb.2⟩
      | cons c rest =>
        obtain ⟨rfl, rfl⟩ := List.cons.inj hb
        exact .inr (.inl ⟨rest, rfl, rfl⟩)
    · cases more with
      | nil =>
        rw [List.nil_append, List.cons.injEq] at hd
        exact .inl ⟨by simp, hd.2.symm⟩
      | cons c rest =>
        obtain ⟨rfl, rfl⟩ := List.cons.inj hd
        exact .inr (.inr ⟨rest, rfl, rfl⟩)
  · rintro (⟨rfl, rfl⟩ | ⟨rest, rfl, rfl⟩ | ⟨rest, rfl, rfl⟩) <;> simp

/-- No slash in what comes first: there is one way to cut. -/
theorem slash_append_inj_of_not_mem {a b c d : List Char} (ha : '/' ∉ a) (hc : '/' ∉ c) :
    a ++ '/' :: b = c ++ '/' :: d ↔ a = c ∧ b = d := by
  rw [slash_append_inj]
  constructor
  · rintro (h | ⟨rest, rfl, -⟩ | ⟨rest, rfl, -⟩)
    · exact h
    · exact absurd (List.mem_append_right _ (List.mem_cons_self ..)) hc
    · exact absurd (List.mem_append_right _ (List.mem_cons_self ..)) ha
  · exact .inl

/-- The same of texts. -/
theorem joined_inj {a b c d : String} :
    a ++ "/" ++ b = c ++ "/" ++ d ↔
      (a = c ∧ b = d) ∨ (∃ rest, c = a ++ "/" ++ rest ∧ b = rest ++ "/" ++ d) ∨
        ∃ rest, a = c ++ "/" ++ rest ∧ d = rest ++ "/" ++ b := by
  have htext : ∀ {s t u : String}, s = t ++ "/" ++ u ↔ s.toList = t.toList ++ '/' :: u.toList := by
    intro s t u
    rw [← String.toList_inj, String.toList_append, String.toList_append]
    simp
  have hrest : ∀ {P : List Char → Prop}, (∃ rest, P rest) ↔ ∃ rest : String, P rest.toList := by
    intro P
    constructor
    · rintro ⟨rest, h⟩
      exact ⟨String.ofList rest, by rwa [String.toList_ofList]⟩
    · rintro ⟨rest, h⟩
      exact ⟨rest.toList, h⟩
  have hjoined : a ++ "/" ++ b = c ++ "/" ++ d ↔
      a.toList ++ '/' :: b.toList = c.toList ++ '/' :: d.toList := by
    rw [htext, String.toList_append, String.toList_append]
    simp
  simp only [hjoined, htext, slash_append_inj, hrest, String.toList_inj]

/-- There is one way to cut a type off. -/
theorem type_joined_inj {type type' : SourceObjectType} {b d : String} :
    type.value ++ "/" ++ b = type'.value ++ "/" ++ d ↔ type = type' ∧ b = d := by
  have hslash : ∀ type : SourceObjectType, '/' ∉ type.value.toList := by
    intro type
    cases type <;> decide
  have hjoined : type.value ++ "/" ++ b = type'.value ++ "/" ++ d ↔
      type.value.toList ++ '/' :: b.toList = type'.value.toList ++ '/' :: d.toList := by
    rw [← String.toList_inj]
    simp
  rw [hjoined, slash_append_inj_of_not_mem (hslash _) (hslash _), String.toList_inj,
    String.toList_inj, SourceObjectType.value_injective.eq_iff]

/-! ## Keys -/

namespace SourceObjectMetadata

/-- What is left of a key behind the tenant. -/
def behindTenant (metadata : SourceObjectMetadata) : String :=
  metadata.objectType.value ++ "/" ++ (metadata.objectId ++ "/" ++ metadata.versionId)

/-- The quadruple of both is the same. -/
def SameVersion (a b : SourceObjectMetadata) : Prop :=
  (a.tenantId, a.objectType, a.objectId, a.versionId) =
    (b.tenantId, b.objectType, b.objectId, b.versionId)

/-- The object of the second is that of the first, followed by a slash and more, with which the
version of the first begins; or the same of the tenants and of what is behind them. -/
def CutLater (a b : SourceObjectMetadata) : Prop :=
  (a.tenantId = b.tenantId ∧ a.objectType = b.objectType ∧ ∃ more,
    b.objectId = a.objectId ++ "/" ++ more ∧ a.versionId = more ++ "/" ++ b.versionId) ∨
  ∃ more, b.tenantId = a.tenantId ++ "/" ++ more ∧
    a.behindTenant = more ++ "/" ++ b.behindTenant

end SourceObjectMetadata

open SourceObjectMetadata

theorem buildStorageObjectKey_eq (record : SourceObjectRecord) : buildStorageObjectKey record =
    record.metadata.tenantId ++ "/" ++ record.metadata.behindTenant ++ "/content" := by
  simp only [buildStorageObjectKey, behindTenant, String.append_assoc]

theorem append_content_inj {a b : String} : a ++ "/content" = b ++ "/content" ↔ a = b := by
  rw [← String.toList_inj, String.toList_append, String.toList_append, List.append_cancel_right_eq,
    String.toList_inj]

theorem behindTenant_inj {a b : SourceObjectMetadata} : a.behindTenant = b.behindTenant ↔
    a.objectType = b.objectType ∧ ((a.objectId = b.objectId ∧ a.versionId = b.versionId) ∨
      (∃ more, b.objectId = a.objectId ++ "/" ++ more ∧
        a.versionId = more ++ "/" ++ b.versionId) ∨
      ∃ more, a.objectId = b.objectId ++ "/" ++ more ∧
        b.versionId = more ++ "/" ++ a.versionId) := by
  rw [behindTenant, behindTenant, type_joined_inj, joined_inj]

/-- **Equal keys** are those of one quadruple, or of two that are cut at other slashes. -/
theorem storage_key_inj {a b : SourceObjectRecord} :
    buildStorageObjectKey a = buildStorageObjectKey b ↔
      a.metadata.SameVersion b.metadata ∨ a.metadata.CutLater b.metadata ∨
        b.metadata.CutLater a.metadata := by
  rw [buildStorageObjectKey_eq, buildStorageObjectKey_eq, append_content_inj, joined_inj,
    behindTenant_inj]
  unfold SameVersion CutLater
  simp only [Prod.mk.injEq]
  constructor
  · rintro (⟨htenant, htype, ⟨hobject, hversion⟩ | hlater | hearlier⟩ | hlater | hearlier)
    · exact .inl ⟨htenant, htype, hobject, hversion⟩
    · exact .inr (.inl (.inl ⟨htenant, htype, hlater⟩))
    · exact .inr (.inr (.inl ⟨htenant.symm, htype.symm, hearlier⟩))
    · exact .inr (.inl (.inr hlater))
    · exact .inr (.inr (.inr hearlier))
  · rintro (⟨htenant, htype, hobject, hversion⟩ | (⟨htenant, htype, hlater⟩ | hlater) |
      ⟨htenant, htype, hearlier⟩ | hearlier)
    · exact .inl ⟨htenant, htype, .inl ⟨hobject, hversion⟩⟩
    · exact .inl ⟨htenant, htype, .inr (.inl hlater)⟩
    · exact .inr (.inl hlater)
    · exact .inl ⟨htenant.symm, htype.symm, .inr (.inr hearlier)⟩
    · exact .inr (.inr hearlier)

/-- A text is not its own beginning followed by more. -/
theorem ne_append_slash (s more : String) : s ≠ s ++ "/" ++ more := by
  intro h
  have hlength := congrArg (fun text : String => text.toList.length) h
  simp at hlength

theorem not_sameVersion_of_cutLater {a b : SourceObjectMetadata} (h : a.CutLater b) :
    ¬ a.SameVersion b := by
  unfold SameVersion
  rw [Prod.mk.injEq, Prod.mk.injEq, Prod.mk.injEq]
  rintro ⟨htenant, -, hobject, -⟩
  rcases h with ⟨-, -, more, hlater, -⟩ | ⟨more, hlater, -⟩
  · rw [← hobject] at hlater
    exact ne_append_slash _ _ hlater
  · rw [← htenant] at hlater
    exact ne_append_slash _ _ hlater

/-- Identifiers without slashes, in tenant and object, are never cut later. -/
theorem keys_apart_of_no_slash {a b : SourceObjectRecord}
    (ha : '/' ∉ a.metadata.tenantId.toList ∧ '/' ∉ a.metadata.objectId.toList)
    (hb : '/' ∉ b.metadata.tenantId.toList ∧ '/' ∉ b.metadata.objectId.toList)
    (h : buildStorageObjectKey a = buildStorageObjectKey b) :
    a.metadata.SameVersion b.metadata := by
  have hnever : ∀ {s t more : String}, '/' ∉ s.toList → s ≠ t ++ "/" ++ more := by
    rintro s t more hs rfl
    simp at hs
  rcases storage_key_inj.mp h with hsame | hlater | hearlier
  · exact hsame
  · rcases hlater with ⟨-, -, more, hobject, -⟩ | ⟨more, htenant, -⟩
    · exact absurd hobject (hnever hb.2)
    · exact absurd htenant (hnever hb.1)
  · rcases hearlier with ⟨-, -, more, hobject, -⟩ | ⟨more, htenant, -⟩
    · exact absurd hobject (hnever ha.2)
    · exact absurd htenant (hnever ha.1)

/-! ## Places in the content store -/

variable (H : HashFunctions)

/-- The keys of two versions differ, and so do the places of their contents. -/
structure KeysApart (a b : SourceObjectRecord) : Prop where
  keys   : buildStorageObjectKey a = buildStorageObjectKey b → a.metadata.SameVersion b.metadata
  places : ∀ bucketId, contentKey H a bucketId (buildStorageObjectKey a) =
    contentKey H b bucketId (buildStorageObjectKey b) → a.metadata.SameVersion b.metadata

/-- **Two versions** have their own keys exactly if the identifiers of neither are those of the
other, cut at a later slash. -/
theorem storage_keys_apart_iff (a b : SourceObjectRecord) :
    KeysApart H a b ↔
      ¬ a.metadata.CutLater b.metadata ∧ ¬ b.metadata.CutLater a.metadata := by
  constructor
  · intro hapart
    refine ⟨fun hlater => ?_, fun hearlier => ?_⟩
    · exact not_sameVersion_of_cutLater hlater
        (hapart.keys (storage_key_inj.mpr (.inr (.inl hlater))))
    · refine not_sameVersion_of_cutLater hearlier ?_
      exact (hapart.keys (storage_key_inj.mpr (.inr (.inr hearlier)))).symm
  · rintro ⟨hlater, hearlier⟩
    have hkeys : buildStorageObjectKey a = buildStorageObjectKey b →
        a.metadata.SameVersion b.metadata := by
      intro h
      rcases storage_key_inj.mp h with hsame | h | h
      · exact hsame
      · exact absurd h hlater
      · exact absurd h hearlier
    refine ⟨hkeys, fun bucketId hplace => hkeys ?_⟩
    exact congrArg (fun place : ContentKey => place.2.2.1) hplace

/-- Two versions of a document of one tenant. -/
def samplePair : SourceObjectMetadata × SourceObjectMetadata :=
  ({ sampleMetadata "doc-1" with objectId := "minutes", versionId := "2026/v1" },
    { sampleMetadata "doc-1" with objectId := "minutes/2026", versionId := "v1" })

/-- The metadata model accepts both, and one key is that of both. -/
theorem sliced_identifiers_collide :
    samplePair.1.validate.isOk = true ∧ samplePair.2.validate.isOk = true ∧
      ¬ KeysApart default { metadata := samplePair.1 } { metadata := samplePair.2 } := by
  refine ⟨by decide +kernel, by decide +kernel, fun h => ?_⟩
  exact absurd (h.keys (by decide)) (by unfold SameVersion; decide)

namespace PgSourceObjectRepository

variable {H} {reads : String → Bool} {repository : PgSourceObjectRepository} {now later : DateTime}
variable {a b : SourceObjectRecord} {world world' world'' : SourceObjectWorld}

theorem place_of_manifestRow {manifest : StorageObjectManifest} {row : StorageManifestRow}
    (h : manifestRow? manifest = some row) :
    (row.columns.tenantId, row.columns.bucketId, row.columns.objectKey,
      row.columns.objectVersionId) =
      (manifest.tenantId, manifest.bucketId, manifest.objectKey, manifest.objectVersionId) := by
  obtain ⟨storedAt, -, h⟩ := Option.bind_eq_some_iff.mp h
  obtain ⟨until?, -, rfl⟩ := Option.map_eq_some_iff.mp h
  rfl

/-- **Refused.** Of two versions whose contents have one place only the first is added. -/
theorem places_of_added {retention retention' : RetentionManifest}
    {profile profile' : BucketProfile} {manifest manifest' : StorageObjectManifest}
    {manifestRow manifestRow' : StorageManifestRow}
    {metadataRow metadataRow' : SourceMetadataRow} (ha : a.Accepted H) (hb : b.Accepted H)
    (hfirst : Added H reads repository now a world world' retention profile manifest manifestRow
      metadataRow)
    (hsecond : Added H reads repository later b world' world'' retention' profile' manifest'
      manifestRow' metadataRow') :
    contentKey H a profile.bucketId (buildStorageObjectKey a) ≠
      contentKey H b profile'.bucketId (buildStorageObjectKey b) := by
  intro hplace
  refine hsecond.free (.inl ⟨manifestRow, ?_, .inr ?_⟩)
  · rw [hfirst.manifests]
    exact List.mem_append_right _ (List.mem_singleton_self _)
  · rw [place_of_manifestRow hfirst.manifestIn, hfirst.place, hsecond.place,
      (matchesSource_of_build ha hfirst.built).tenantId,
      (matchesSource_of_build hb hsecond.built).tenantId]
    exact hplace

end PgSourceObjectRepository

end Collabio
