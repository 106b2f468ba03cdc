import Mathlib.Tactic
import Collabio.Search.Noninterference

/-!
# The ranking of keyword search

What `InMemoryKeywordIndex.search` returns, by what matches and in which order.

* `score_eq`        — the score counts the tokens of title and text that are tokens of the query;
* `RankedMatches`   — the matching records of the tenant, in their order;
* `keyword_ranking` — the search returns the first of these, and depends on nothing else.
-/

namespace Collabio

/-! ## Tokens -/

/-- The blank between title and text ends a token. -/
theorem tokenize_append (title text : String) :
    tokenize (title ++ " " ++ text) = tokenize title ++ tokenize text := by
  have hchars : (title ++ " " ++ text).toList = title.toList ++ ' ' :: text.toList := by
    simp
  unfold tokenize
  rw [hchars, List.splitOnP_append_cons _ _ (by decide), List.filter_append, List.map_append]

theorem countP_mem_cons {term : String} {terms : List String} (h : term ∉ terms)
    (tokens : List String) : tokens.countP (· ∈ term :: terms) =
      tokens.count term + tokens.countP (· ∈ terms) := by
  induction tokens with
  | nil => rfl
  | cons token tokens ih =>
    rw [List.countP_cons, List.countP_cons, List.count_cons, ih]
    by_cases hterm : token = term
    · subst hterm
      simp only [List.mem_cons_self, decide_true, beq_self_eq_true, if_true, h, decide_false,
        Bool.false_eq_true, if_false]
      omega
    · simp only [List.mem_cons, hterm, false_or, beq_iff_eq, if_false]
      omega

/-- Terms that are told apart occur as often as there are tokens among them. -/
theorem sum_count_eq_countP {terms : List String} (h : terms.Nodup) (tokens : List String) :
    (terms.map fun term => tokens.count term).sum = tokens.countP (· ∈ terms) := by
  induction terms with
  | nil => simp
  | cons term terms ih =>
    rw [List.nodup_cons] at h
    rw [List.map_cons, List.sum_cons, ih h.2, countP_mem_cons h.1]

namespace KeywordIndexedChunk

def tokens (record : KeywordIndexedChunk) : List String :=
  tokenize record.title ++ tokenize record.indexText

/-- How many tokens of title and text are tokens of the query. -/
def occurrences (query : String) (record : KeywordIndexedChunk) : Nat :=
  record.tokens.countP (· ∈ tokenize query)

/-- An active record of the tenant that has a token of the query. -/
structure Matches (tenantId query : String) (record : KeywordIndexedChunk) : Prop where
  tenant : record.metadata.tenantId = tenantId
  active : record.lifecycleState = activeLifecycleState
  found  : ∃ token ∈ record.tokens, token ∈ tokenize query

def candidate (query : String) (record : KeywordIndexedChunk) : KeywordIndexCandidate :=
  ⟨record.metadata, record.title, record.occurrences query⟩

theorem occurrences_pos {query : String} {record : KeywordIndexedChunk} :
    0 < record.occurrences query ↔ ∃ token ∈ record.tokens, token ∈ tokenize query := by
  unfold occurrences
  rw [List.countP_pos_iff]
  simp only [decide_eq_true_eq]

end KeywordIndexedChunk

namespace KeywordIndexCandidate

/-- The ids of the chunk, in the order in which they are compared. -/
def ids (candidate : KeywordIndexCandidate) : String ×ₗ String ×ₗ String :=
  toLex (candidate.metadata.sourceObjectId,
    toLex (candidate.metadata.sourceVersionId, candidate.metadata.chunkId))

/-- The higher score comes first; at equal scores the ids decide. -/
def RanksBefore (a b : KeywordIndexCandidate) : Prop :=
  b.score < a.score ∨ a.score = b.score ∧ a.ids < b.ids

theorem ranksBefore_iff {a b : KeywordIndexCandidate} : a.RanksBefore b ↔ a.key < b.key := by
  unfold RanksBefore key
  rw [Prod.Lex.toLex_lt_toLex]
  dsimp only
  rw [neg_lt_neg_iff, neg_inj, Nat.cast_lt, Nat.cast_inj]
  rfl

theorem RanksBefore.asymm {a b : KeywordIndexCandidate} (h : a.RanksBefore b) :
    ¬ b.RanksBefore a := by
  rw [ranksBefore_iff] at h ⊢
  exact lt_asymm h

/-- What stands in this order is determined by what there is. -/
theorem eq_of_perm {l l' : List KeywordIndexCandidate} (h : l.Pairwise RanksBefore)
    (h' : l'.Pairwise RanksBefore) (hperm : l.Perm l') : l = l' :=
  hperm.eq_of_pairwise (fun _ _ _ _ hab hba => absurd hba hab.asymm) h h'

/-- The key of the sorting tells candidates apart whose ids differ. -/
theorem ranksBefore_of_byKey {a b : KeywordIndexCandidate} (h : a.ByKey b) (hids : a.ids ≠ b.ids) :
    a.RanksBefore b := by
  rw [ranksBefore_iff]
  refine lt_of_le_of_ne h fun hkey => hids ?_
  exact congrArg (fun key : ℤ ×ₗ String ×ₗ String ×ₗ String => (ofLex key).2) hkey

end KeywordIndexCandidate

namespace InMemoryKeywordIndex

open KeywordIndexedChunk

/-- The records of a tenant have different ids. -/
def DistinctIds (records : List KeywordIndexedChunk) : Prop :=
  records.Pairwise fun a b => a.metadata.tenantId = b.metadata.tenantId →
    ¬ (a.metadata.sourceObjectId = b.metadata.sourceObjectId ∧
      a.metadata.sourceVersionId = b.metadata.sourceVersionId ∧
      a.metadata.chunkId = b.metadata.chunkId)

/-- The matching records of the tenant, each once, in their order. -/
structure RankedMatches (records : List KeywordIndexedChunk) (tenantId query : String)
    (ranked : List KeywordIndexCandidate) : Prop where
  ordered : ranked.Pairwise KeywordIndexCandidate.RanksBefore
  mem     : ∀ candidate, candidate ∈ ranked ↔
              ∃ record ∈ records, Matches tenantId query record ∧ candidate = record.candidate query

theorem score_eq (query : String) (record : KeywordIndexedChunk) :
    score (tokenize query) record = record.occurrences query := by
  unfold score occurrences tokens
  dsimp only
  rw [tokenize_append, sum_count_eq_countP (List.nodup_dedup _)]
  simp only [List.mem_dedup]

theorem candidate?_eq_some {tenantId query : String} {record : KeywordIndexedChunk}
    {candidate : KeywordIndexCandidate} :
    candidate? tenantId (tokenize query) record = some candidate ↔
      Matches tenantId query record ∧ candidate = record.candidate query := by
  unfold candidate?
  rw [score_eq]
  by_cases htenant : record.metadata.tenantId = tenantId
  · -- the tests in the order of the code: tenant, state, score
    rw [if_neg (not_not.mpr htenant)]
    by_cases hactive : record.lifecycleState = activeLifecycleState
    · rw [if_neg (not_not.mpr hactive)]
      by_cases hscore : record.occurrences query = 0
      · rw [if_pos hscore]
        constructor
        · intro h
          cases h
        · rintro ⟨hmatches, -⟩
          have hpos := occurrences_pos.mpr hmatches.found
          omega
      · rw [if_neg hscore]
        -- a positive score is an occurrence of some token
        have hfound := occurrences_pos.mp (Nat.pos_of_ne_zero hscore)
        constructor
        · intro h
          cases h
          exact ⟨⟨htenant, hactive, hfound⟩, rfl⟩
        · rintro ⟨-, rfl⟩
          rfl
    · rw [if_pos hactive]
      constructor
      · intro h
        cases h
      · rintro ⟨hmatches, -⟩
        exact absurd hmatches.active hactive
  · rw [if_pos htenant]
    constructor
    · intro h
      cases h
    · rintro ⟨hmatches, -⟩
      exact absurd hmatches.tenant htenant

/-- A query without tokens needs no branch of its own. -/
theorem candidates_eq (records : List KeywordIndexedChunk) (tenantId query : String) :
    candidates records tenantId query =
      records.filterMap (candidate? tenantId (tokenize query)) := by
  unfold candidates
  split
  · rename_i hnone
    symm
    rw [List.filterMap_eq_nil_iff]
    intro record _
    rw [Option.eq_none_iff_forall_ne_some]
    intro candidate hcandidate
    obtain ⟨token, -, hquery⟩ := (candidate?_eq_some.mp hcandidate).1.found
    rw [hnone] at hquery
    cases hquery
  · rfl

theorem mem_candidates {records : List KeywordIndexedChunk} {tenantId query : String}
    {candidate : KeywordIndexCandidate} : candidate ∈ candidates records tenantId query ↔
      ∃ record ∈ records, Matches tenantId query record ∧ candidate = record.candidate query := by
  rw [candidates_eq, List.mem_filterMap]
  simp only [candidate?_eq_some]

/-- Candidates of one tenant have different ids. -/
theorem ids_distinct {records : List KeywordIndexedChunk} (h : DistinctIds records)
    (tenantId query : String) :
    (candidates records tenantId query).Pairwise fun a b => a.ids ≠ b.ids := by
  rw [candidates_eq, List.pairwise_filterMap]
  refine h.imp ?_
  intro a b hdistinct candidate hcandidate candidate' hcandidate' hids
  obtain ⟨hmatches, rfl⟩ := candidate?_eq_some.mp hcandidate
  obtain ⟨hmatches', rfl⟩ := candidate?_eq_some.mp hcandidate'
  refine hdistinct (hmatches.tenant.trans hmatches'.tenant.symm) ?_
  unfold KeywordIndexCandidate.ids at hids
  rwa [toLex_inj, Prod.mk.injEq, toLex_inj, Prod.mk.injEq] at hids

/-- All candidates in their order, before they are cut off. -/
def ranking (records : List KeywordIndexedChunk) (tenantId query : String) :
    List KeywordIndexCandidate :=
  (candidates records tenantId query).insertionSort KeywordIndexCandidate.ByKey

theorem search_eq (records : List KeywordIndexedChunk) (tenantId query : String) (topK : Nat) :
    search records tenantId query topK = .ok ((ranking records tenantId query).take topK) := rfl

theorem ranking_perm (records : List KeywordIndexedChunk) (tenantId query : String) :
    (ranking records tenantId query).Perm (candidates records tenantId query) :=
  List.perm_insertionSort _ _

theorem ranking_ordered {records : List KeywordIndexedChunk} {tenantId query : String}
    (h : (candidates records tenantId query).Pairwise fun a b => a.ids ≠ b.ids) :
    (ranking records tenantId query).Pairwise KeywordIndexCandidate.RanksBefore := by
  have hsorted : (ranking records tenantId query).Pairwise KeywordIndexCandidate.ByKey :=
    List.pairwise_insertionSort _ _
  have hids : (ranking records tenantId query).Pairwise fun a b => a.ids ≠ b.ids :=
    (ranking_perm records tenantId query).symm.pairwise h fun hab => hab.symm
  exact hsorted.imp₂ (fun _ _ => KeywordIndexCandidate.ranksBefore_of_byKey) hids

theorem rankedMatches_ranking {records : List KeywordIndexedChunk} (h : DistinctIds records)
    (tenantId query : String) :
    RankedMatches records tenantId query (ranking records tenantId query) where
  ordered := ranking_ordered (ids_distinct h tenantId query)
  mem candidate := by
    rw [(ranking_perm records tenantId query).mem_iff, mem_candidates]

/-! ## What the ranking depends on -/

/-- Records of other tenants are passed over. -/
theorem candidates_filter (records : List KeywordIndexedChunk) (tenantId query : String) :
    candidates records tenantId query =
      candidates (records.filter (·.metadata.tenantId = tenantId)) tenantId query := by
  rw [candidates_eq, candidates_eq, List.filterMap_filter]
  refine List.filterMap_congr fun record _ => ?_
  by_cases htenant : record.metadata.tenantId = tenantId
  · simp only [htenant, decide_true, if_true]
  · simp only [htenant, decide_false, Bool.false_eq_true, if_false]
    unfold candidate?
    rw [if_pos htenant]

/-- Of a query, only the set of its tokens counts. -/
theorem candidate?_congr {query query' : String}
    (h : ∀ token, token ∈ tokenize query' ↔ token ∈ tokenize query) (tenantId : String)
    (record : KeywordIndexedChunk) :
    candidate? tenantId (tokenize query') record = candidate? tenantId (tokenize query) record := by
  have hscore : record.occurrences query' = record.occurrences query := by
    unfold occurrences
    simp only [h]
  unfold candidate?
  rw [score_eq, score_eq, hscore]

/-- Two lists with the same records of the tenant give the same candidates, in some order. -/
theorem candidates_perm {records records' : List KeywordIndexedChunk} {tenantId query query' : String}
    (hrecords : (records'.filter (·.metadata.tenantId = tenantId)).Perm
      (records.filter (·.metadata.tenantId = tenantId)))
    (hquery : ∀ token, token ∈ tokenize query' ↔ token ∈ tokenize query) :
    (candidates records' tenantId query').Perm (candidates records tenantId query) := by
  rw [candidates_filter records', candidates_filter records, candidates_eq, candidates_eq,
    funext (candidate?_congr hquery tenantId)]
  exact hrecords.filterMap _

/-- **Keyword ranking.** The search returns the first `top_k` of the tenant's matching records, in
the order by falling score and then ids. Neither the order of the records, nor the records of other
tenants, nor how often or in which order the query names its tokens has any influence. -/
theorem keyword_ranking (records : List KeywordIndexedChunk) (tenantId query : String) (topK : Nat)
    (h : DistinctIds records) :
    (∃ ranked, RankedMatches records tenantId query ranked ∧
      search records tenantId query topK = .ok (ranked.take topK)) ∧
    ∀ records' query', (records'.filter (·.metadata.tenantId = tenantId)).Perm
        (records.filter (·.metadata.tenantId = tenantId)) →
      (∀ token, token ∈ tokenize query' ↔ token ∈ tokenize query) →
      search records' tenantId query' topK = search records tenantId query topK := by
  have hids := ids_distinct h tenantId query
  constructor
  · exact ⟨ranking records tenantId query, rankedMatches_ranking h tenantId query, rfl⟩
  · intro records' query' hrecords hquery
    have hperm := candidates_perm hrecords hquery
    have hids' : (candidates records' tenantId query').Pairwise fun a b => a.ids ≠ b.ids :=
      hperm.symm.pairwise hids fun hab => hab.symm
    have hsame : ranking records' tenantId query' = ranking records tenantId query := by
      refine KeywordIndexCandidate.eq_of_perm (ranking_ordered hids') (ranking_ordered hids) ?_
      exact (ranking_perm _ _ _).trans (hperm.trans (ranking_perm _ _ _).symm)
    rw [search_eq, search_eq, hsame]

/-- A repeated word, and the records the other way round. -/
theorem sample_keyword_ranking :
    search [sampleSecretRecord, sampleOpenRecord] "acme" "text TEXT" 1 =
      search [sampleOpenRecord, sampleSecretRecord] "acme" "text" 1 := by
  have hdistinct : DistinctIds [sampleOpenRecord, sampleSecretRecord] := by
    refine List.pairwise_pair.mpr fun _ hids => ?_
    exact absurd hids.1 (by decide)
  refine (keyword_ranking _ "acme" "text" 1 hdistinct).2 _ _ ?_ ?_
  · exact (List.Perm.swap _ _ _).filter _
  · have hrepeated : tokenize "text TEXT" = ["text", "text"] := by decide +kernel
    have honce : tokenize "text" = ["text"] := by decide +kernel
    intro token
    rw [hrepeated, honce]
    simp

/-- Nothing else stands in this order: the ranked matches are determined by the records. -/
theorem RankedMatches.unique {records : List KeywordIndexedChunk} {tenantId query : String}
    {ranked ranked' : List KeywordIndexCandidate}
    (h : RankedMatches records tenantId query ranked)
    (h' : RankedMatches records tenantId query ranked') : ranked = ranked' := by
  have hnodup : ∀ {l : List KeywordIndexCandidate},
      l.Pairwise KeywordIndexCandidate.RanksBefore → l.Nodup := by
    intro l hl
    refine hl.imp ?_
    intro a b hab hsame
    subst hsame
    exact hab.asymm hab
  refine KeywordIndexCandidate.eq_of_perm h.ordered h'.ordered ?_
  rw [List.perm_ext_iff_of_nodup (hnodup h.ordered) (hnodup h'.ordered)]
  intro candidate
  rw [h.mem, h'.mem]

end InMemoryKeywordIndex

end Collabio
