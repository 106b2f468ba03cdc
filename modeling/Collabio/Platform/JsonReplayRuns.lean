import Mathlib.Tactic
import Collabio.Platform.JsonReplayFile

/-!
# Interleaved calls of the JSON file's replay guard

* `get?_read_document` — what the stores have written reads back, while it has not
  expired;
* `guarding_run`       — calls that do not come between each other's reads and
  replacements keep each token to one call, and its row in the file;
* `interleaved_calls`  — calls that do let one token through twice, or lose the row of
  another.
-/

namespace Collabio

namespace ReplayRecords

/-! ## Reading back -/

/-- A record that a reader at this time keeps as it is. -/
def Lasting (nowEpoch : Int) (record : ReplayRecord) : Prop :=
  nowEpoch < record.expiresAtEpoch ∧ Text.strip record.tenantId ≠ ""

theorem requiredStringClaim_eq {members : List (String × Json)} {name value text : String}
    (hget : getMember members name = some (.str value))
    (h : requiredStringClaim members name = .ok text) : text = value := by
  unfold requiredStringClaim at h
  rw [hget] at h
  obtain ⟨-, h⟩ := require_bind_eq_ok.mp h
  cases h
  rfl

/-- What the loop makes of a row that was written. -/
theorem readRow_row_eq {nowEpoch : Int} {records records' : ReplayRecords}
    {entry : (String × String) × ReplayRecord}
    (h : readRow nowEpoch records (row entry) = .ok records') :
    records' = if nowEpoch < entry.2.expiresAtEpoch then
      records.set entry.1 ⟨if Text.strip entry.2.tenantId ≠ "" then entry.2.tenantId
        else "unknown", entry.2.expiresAtEpoch⟩ else records := by
  obtain ⟨⟨issuer, jwtId⟩, ⟨tenantId, expiresAtEpoch⟩⟩ := entry
  unfold readRow row at h
  dsimp only at h ⊢
  obtain ⟨text, htext, h⟩ := Except.bind_eq_ok.mp h
  obtain ⟨text', htext', h⟩ := Except.bind_eq_ok.mp h
  obtain ⟨n, hn, h⟩ := Except.bind_eq_ok.mp h
  obtain rfl : text = issuer := requiredStringClaim_eq (by simp [getMember]) htext
  obtain rfl : text' = jwtId := requiredStringClaim_eq (by simp [getMember]) htext'
  obtain rfl : expiresAtEpoch = n := by
    simpa [requiredIntClaim, getMember, asInt] using hn
  by_cases hexpires : nowEpoch < expiresAtEpoch
  · rw [if_pos hexpires] at h ⊢
    cases h
    simp [getMember]
  · rw [if_neg hexpires] at h ⊢
    cases h
    rfl

/-- A row that lasts is read as it was written. -/
theorem readRow_row {nowEpoch : Int} {records records' : ReplayRecords}
    {entry : (String × String) × ReplayRecord} (hlasting : Lasting nowEpoch entry.2)
    (h : readRow nowEpoch records (row entry) = .ok records') :
    records' = records.set entry.1 entry.2 := by
  have hread := readRow_row_eq h
  rwa [if_pos hlasting.1, if_pos hlasting.2] at hread

/-- The loop over written rows puts their records together again. -/
theorem foldlM_readRow {nowEpoch : Int} {items : List ((String × String) × ReplayRecord)}
    (hlasting : ∀ entry ∈ items, Lasting nowEpoch entry.2) {records records' : ReplayRecords}
    (h : (items.map row).foldlM (readRow nowEpoch) records = .ok records') :
    records' = items.foldl (fun merged entry => merged.set entry.1 entry.2) records := by
  induction items generalizing records with
  | nil =>
    cases h
    rfl
  | cons entry items ih =>
    rw [List.forall_mem_cons] at hlasting
    rw [List.map_cons, List.foldlM_cons] at h
    obtain ⟨next, hnext, h⟩ := Except.bind_eq_ok.mp h
    rw [List.foldl_cons, ← readRow_row hlasting.1 hnext]
    exact ih hlasting.2 h

theorem sortedItems_perm (records : ReplayRecords) :
    records.sortedItems.Perm records.items := List.mergeSort_perm _ _

/-- Reading a written document is the loop over its rows. -/
theorem foldlM_of_read_document {nowEpoch : Int} {records records' : ReplayRecords} {stale : Bool}
    (h : read nowEpoch (some records.document) = .ok (records', stale)) :
    (records.sortedItems.map row).foldlM (readRow nowEpoch) ∅ = .ok records' := by
  have hrows : getMember records.document "records" =
      some (.arr (records.sortedItems.map row)) := by simp [document, getMember]
  unfold read at h
  dsimp only at h
  rw [hrows] at h
  dsimp only at h
  obtain ⟨all, hall, h⟩ := Except.bind_eq_ok.mp h
  cases h
  exact hall

/-- **What was written reads back**: the same record under every key. -/
theorem get?_read_document {nowEpoch : Int} {records records' : ReplayRecords} {stale : Bool}
    (hlasting : ∀ key record, records.get? key = some record → Lasting nowEpoch record)
    (h : read nowEpoch (some records.document) = .ok (records', stale)) (key : String × String) :
    records'.get? key = records.get? key := by
  have hitems : ∀ entry ∈ records.sortedItems, Lasting nowEpoch entry.2 := by
    intro entry hentry
    exact hlasting entry.1 entry.2 (Dict.mem_items.mp ((sortedItems_perm records).mem_iff.mp hentry))
  have hread := foldlM_readRow hitems (foldlM_of_read_document h)
  let sorted : ReplayRecords := ⟨records.sortedItems,
    ((sortedItems_perm records).map Prod.fst).nodup_iff.mpr records.nodup⟩
  have hupdate : records' = Dict.update ∅ sorted := hread
  have hsorted : sorted.get? key = records.get? key :=
    Dict.get?_eq_of_mem_iff fun record => (sortedItems_perm records).mem_iff
  rw [hupdate, Dict.get?_update, hsorted, Dict.get?_empty, Option.or_none]

/-- The row of a record is among the rows of the document. -/
theorem row_mem_document {records : ReplayRecords} {key : String × String} {record : ReplayRecord}
    (h : records.get? key = some record) :
    row (key, record) ∈ records.sortedItems.map row := by
  refine List.mem_map_of_mem ?_
  rw [(sortedItems_perm records).mem_iff]
  exact Dict.mem_items.mpr h

end ReplayRecords

namespace JsonReplayWorld

variable {calls : ℕ → GuardedCall} {world : JsonReplayWorld} {records : ReplayRecords} {i j : ℕ}

@[simp] theorem phase_enter (phase : JsonReplayPhase) :
    (world.enter i phase).phase i = phase := by
  simp [enter]

@[simp] theorem phase_enter_ne (hne : i ≠ j) (phase : JsonReplayPhase) :
    (world.enter i phase).phase j = world.phase j := by
  simp [enter, hne.symm]

/-! ## The invariant -/

/-- No token expires before the calls are over. -/
def BeforeExpiry (calls : ℕ → GuardedCall) : Prop :=
  ∀ i j, (calls i).nowEpoch < (calls j).claims.expiresAtEpoch

/-- The phase of a call that is about to record its token: the records it has read. -/
def recording? : JsonReplayPhase → Option ReplayRecords
  | .purgingAgain records | .replacing records => some records
  | _ => none

/-- The file holds these records, which are those of the calls that have returned. -/
structure Kept (calls : ℕ → GuardedCall) (world : JsonReplayWorld) (records : ReplayRecords) :
    Prop where
  file     : world.file = none ∧ records = ∅ ∨ world.file = some records.document
  stored   : ∀ i, world.phase i = .returned →
               records.get? (calls i).key = some (calls i).record
  returned : ∀ key record, records.get? key = some record →
               ∃ i, world.phase i = .returned ∧ (calls i).key = key ∧ (calls i).record = record
  once     : ∀ i j, world.phase i = .returned → world.phase j = .returned →
               (calls i).key = (calls j).key → i = j
  lacks    : ∀ i read, recording? (world.phase i) = some read → read.get? (calls i).key = none

theorem kept_empty : Kept calls {} ∅ where
  file := .inl ⟨rfl, rfl⟩
  stored _ h := by cases h
  returned _ _ h := by simp at h
  once _ _ h := by cases h
  lacks _ _ h := by cases h

/-- The tenant of claims is more than whitespace. -/
theorem lasting_record (hclock : BeforeExpiry calls) (i j : ℕ) :
    ReplayRecords.Lasting (calls i).nowEpoch (calls j).record := by
  refine ⟨hclock i j, ?_⟩
  obtain ⟨herrors, -⟩ := accept_eq_ok.mp (calls j).valid
  rw [List.append_eq_nil_iff, requireNonEmpty_eq_nil] at herrors
  exact herrors.2

/-- Every call reads the records that the file holds. -/
theorem get?_read (hclock : BeforeExpiry calls) (h : Kept calls world records)
    {read : ReplayRecords} {stale : Bool}
    (hread : ReplayRecords.read (calls i).nowEpoch world.file = .ok (read, stale))
    (key : String × String) : read.get? key = records.get? key := by
  rcases h.file with ⟨hfile, rfl⟩ | hfile
  · rw [hfile] at hread
    cases hread
    rfl
  · rw [hfile] at hread
    refine ReplayRecords.get?_read_document ?_ hread key
    intro key record hget
    obtain ⟨j, -, -, rfl⟩ := h.returned key record hget
    exact lasting_record hclock i j

/-- A call goes on without returning, and with its token in none of the records it is about
to add it to. -/
theorem Kept.enter (h : Kept calls world records) {phase : JsonReplayPhase}
    (hbefore : world.phase i ≠ .returned) (hafter : phase ≠ .returned)
    (hlacks : ∀ read, recording? phase = some read → read.get? (calls i).key = none) :
    Kept calls (world.enter i phase) records := by
  have hreturned : ∀ j, (world.enter i phase).phase j = .returned ↔ world.phase j = .returned := by
    intro j
    by_cases hne : i = j
    · subst hne
      rw [phase_enter]
      exact iff_of_false hafter hbefore
    · rw [phase_enter_ne hne]
  refine ⟨h.file, fun j hj => h.stored j ((hreturned j).mp hj), fun key record hget => ?_,
    fun j k hj hk => h.once j k ((hreturned j).mp hj) ((hreturned k).mp hk), fun j read hj => ?_⟩
  · obtain ⟨j, hj, hrest⟩ := h.returned key record hget
    exact ⟨j, (hreturned j).mpr hj, hrest⟩
  · by_cases hne : i = j
    · subst hne
      rw [phase_enter] at hj
      exact hlacks read hj
    · rw [phase_enter_ne hne] at hj
      exact h.lacks j read hj

/-- Writing back what was read. -/
theorem Kept.replace (h : Kept calls world records) {read : ReplayRecords}
    (hread : ∀ key, read.get? key = records.get? key) : Kept calls (world.replace read) read where
  file := .inr rfl
  stored i hi := (hread _).trans (h.stored i hi)
  returned key record hget := h.returned key record ((hread key).symm.trans hget)
  once := h.once
  lacks := h.lacks

/-- Recording a token that is not among the records. -/
theorem Kept.record (h : Kept calls world records) {read : ReplayRecords}
    (hread : ∀ key, read.get? key = records.get? key) (hlacks : read.get? (calls i).key = none) :
    Kept calls ((world.replace (read.set (calls i).key (calls i).record)).enter i .returned)
      (read.set (calls i).key (calls i).record) := by
  -- no call that has returned has this key, since its record would be stored
  have hother : ∀ j, world.phase j = .returned → (calls j).key ≠ (calls i).key := by
    intro j hj hsame
    have hget := h.stored j hj
    rw [hsame, ← hread, hlacks] at hget
    cases hget
  -- the calls that have returned are those of before, and this one
  have hphase : ∀ j, ((world.replace (read.set (calls i).key (calls i).record)).enter i
      .returned).phase j = .returned ↔ i = j ∨ world.phase j = .returned := by
    intro j
    by_cases hne : i = j
    · subst hne
      simp
    · rw [phase_enter_ne hne]
      simp [hne, JsonReplayWorld.replace]
  refine ⟨.inr rfl, ?_, ?_, ?_, ?_⟩
  · intro j hj
    rcases (hphase j).mp hj with rfl | hj
    · exact Dict.get?_set_self _ _ _
    · rw [Dict.get?_set, if_neg (hother j hj), hread]
      exact h.stored j hj
  · intro key record hget
    rw [Dict.get?_set] at hget
    split at hget
    · rename_i hkey
      cases hget
      exact ⟨i, (hphase i).mpr (.inl rfl), hkey.symm, rfl⟩
    · rw [hread] at hget
      obtain ⟨j, hj, hrest⟩ := h.returned key record hget
      exact ⟨j, (hphase j).mpr (.inr hj), hrest⟩
  · intro j k hj hk hsame
    rcases (hphase j).mp hj with rfl | hj
    · rcases (hphase k).mp hk with rfl | hk
      · rfl
      · exact absurd hsame.symm (hother k hk)
    · rcases (hphase k).mp hk with rfl | hk
      · exact absurd hsame (hother j hj)
      · exact h.once j k hj hk hsame
  · intro j read' hj
    by_cases hne : i = j
    · subst hne
      rw [phase_enter] at hj
      cases hj
    · rw [phase_enter_ne hne] at hj
      exact h.lacks j read' hj

theorem afterContains_cases (call : GuardedCall) (records : ReplayRecords) :
    afterContains call records ≠ .returned ∧ recording? (afterContains call records) = none := by
  unfold afterContains
  split <;> exact ⟨by simp, rfl⟩

/-- **An undisturbed step keeps the records.** -/
theorem kept_step (hclock : BeforeExpiry calls) (h : ∃ records, Kept calls world records)
    (hguard : world.Undisturbed calls i) : ∃ records, Kept calls (world.step calls i) records := by
  obtain ⟨records, h⟩ := h
  unfold Undisturbed at hguard
  unfold step
  rcases hphase : world.phase i with _ | read | _ | read | read | _ | exn
  · -- checking
    dsimp only
    have hbefore : world.phase i ≠ .returned := by simp [hphase]
    split
    · exact ⟨records, h.enter hbefore (by simp) (fun _ hread => by cases hread)⟩
    · rename_i read stale hread
      cases stale with
      | true => exact ⟨records, h.enter hbefore (by simp) (fun _ hread => by cases hread)⟩
      | false =>
        obtain ⟨hafter, hnone⟩ := afterContains_cases (calls i) read
        refine ⟨records, h.enter hbefore hafter fun read' hread' => ?_⟩
        rw [if_neg (by simp), hnone] at hread'
        cases hread'
  · -- purging
    rw [hphase] at hguard
    obtain ⟨stale, hread⟩ := hguard
    obtain ⟨hafter, hnone⟩ := afterContains_cases (calls i) read
    have hreplaced := h.replace (get?_read hclock h hread)
    have hbefore : (world.replace read).phase i ≠ .returned := by
      simp [JsonReplayWorld.replace, hphase]
    refine ⟨read, hreplaced.enter hbefore hafter fun read' hread' => ?_⟩
    rw [hnone] at hread'
    cases hread'
  · -- reading
    dsimp only
    rw [hphase] at hguard
    have hbefore : world.phase i ≠ .returned := by simp [hphase]
    split
    · exact ⟨records, h.enter hbefore (by simp) (fun _ hread => by cases hread)⟩
    · rename_i read stale hread
      have hlacks := hguard read stale hread
      refine ⟨records, h.enter hbefore (by cases stale <;> simp) fun read' hread' => ?_⟩
      obtain rfl : read = read' := by cases stale <;> exact Option.some.inj hread'
      exact hlacks
  · -- purgingAgain
    rw [hphase] at hguard
    obtain ⟨stale, hread⟩ := hguard
    have hlacks := h.lacks i read (by rw [hphase]; rfl)
    have hreplaced := h.replace (get?_read hclock h hread)
    have hbefore : (world.replace read).phase i ≠ .returned := by
      simp [JsonReplayWorld.replace, hphase]
    refine ⟨read, hreplaced.enter hbefore (by simp) fun read' hread' => ?_⟩
    obtain rfl : read = read' := Option.some.inj hread'
    exact hlacks
  · -- replacing
    rw [hphase] at hguard
    obtain ⟨stale, hread⟩ := hguard
    have hlacks := h.lacks i read (by rw [hphase]; rfl)
    exact ⟨_, h.record (get?_read hclock h hread) hlacks⟩
  · exact ⟨records, h⟩
  · exact ⟨records, h⟩

/-- Records that are kept guard the tokens. -/
theorem guarding_of_kept (h : Kept calls world records) : world.Guarding calls where
  once := h.once
  stored := by
    intro i hi
    have hget := h.stored i hi
    rcases h.file with ⟨-, rfl⟩ | hfile
    · simp at hget
    · exact ⟨_, hfile, ReplayRecords.row_mem_document hget⟩

/-- **Calls that leave each other undisturbed** let each token through once and keep its row,
in every state of the run. -/
theorem guarding_run (calls : ℕ → GuardedCall) (hclock : BeforeExpiry calls) (schedule : List ℕ)
    (hguarded : Runs.Guarded (step calls) (Undisturbed calls) {} schedule) :
    Runs.Always (step calls) (Guarding calls) {} schedule := by
  have hkept : Runs.Always (step calls) (fun world => ∃ records, Kept calls world records) {}
      schedule := @Runs.always_of_guarded _ _ (step calls)
        (fun world => ∃ records, Kept calls world records) (Undisturbed calls)
        (fun _ _ h hguard => kept_step hclock h hguard) _ ⟨∅, kept_empty⟩ schedule hguarded
  exact Runs.always_mono (fun _ ⟨_, h⟩ => guarding_of_kept h) hkept

/-! ## Two calls at once -/

/-- A call for a token with this id, which expires at 9, at time 5. -/
def sampleCall (jwtId : String) : GuardedCall where
  claims := {
    issuer := "i", subject := "u", tenantId := "t", expiresAtEpoch := 9, jwtId := some jwtId }
  jwtId := jwtId
  nowEpoch := 5
  guarded := rfl
  valid := by
    have hstrip : Text.strip "i" = "i" ∧ Text.strip "u" = "u" ∧ Text.strip "t" = "t" := by
      decide +kernel
    refine accept_eq_ok.mpr ⟨?_, ?_⟩
    · simp [VerifiedJwtClaims.normalized, hstrip, requireNonEmpty]
    · simp [VerifiedJwtClaims.normalized, hstrip]

/-- Both calls check the file, both read it, and then both replace it. -/
def bothAtOnce : List ℕ := [0, 1, 0, 1, 0, 1]

/-- A row that is written comes from its record. -/
theorem get?_of_row_mem {key : String × String} {record : ReplayRecord}
    (h : ReplayRecords.row (key, record) ∈ records.sortedItems.map ReplayRecords.row) :
    records.get? key = some record := by
  obtain ⟨⟨⟨issuer, jwtId⟩, tenantId, expiresAtEpoch⟩, hentry, hrow⟩ := List.mem_map.mp h
  rw [(ReplayRecords.sortedItems_perm records).mem_iff] at hentry
  obtain ⟨⟨issuer', jwtId'⟩⟩ := key
  obtain ⟨tenantId', expiresAtEpoch'⟩ := record
  simp only [ReplayRecords.row, Json.obj.injEq, List.cons.injEq, Prod.mk.injEq, Json.int.injEq,
    Json.str.injEq, true_and, and_true] at hrow
  obtain ⟨rfl, rfl, rfl, rfl⟩ := hrow
  exact Dict.mem_items.mp hentry

/-- Of two calls for one token both return; of two calls for two tokens both return, and the
first one's row is lost. -/
theorem interleaved_calls :
    (BeforeExpiry (fun _ => sampleCall "j") ∧
      ¬ (Runs.run (step fun _ => sampleCall "j") {} bothAtOnce).Guarding
        (fun _ => sampleCall "j")) ∧
    (BeforeExpiry (fun i => sampleCall (if i = 0 then "j" else "k")) ∧
      ¬ (Runs.run (step fun i => sampleCall (if i = 0 then "j" else "k")) {} bothAtOnce).Guarding
        (fun i => sampleCall (if i = 0 then "j" else "k"))) := by
  refine ⟨⟨fun _ _ => ?_, fun h => ?_⟩, ⟨fun _ _ => ?_, fun h => ?_⟩⟩
  · show (5 : Int) < 9
    decide
  · have hsame : (0 : ℕ) = 1 := h.once 0 1 rfl rfl rfl
    cases hsame
  · show (5 : Int) < 9
    decide
  · obtain ⟨rows, hfile, hrow⟩ := h.stored 0 rfl
    have hlast : (Runs.run (step fun i => sampleCall (if i = 0 then "j" else "k")) {}
        bothAtOnce).file = some (ReplayRecords.document
          (Dict.set ∅ (sampleCall "k").key (sampleCall "k").record)) := rfl
    rw [hlast] at hfile
    cases hfile
    have hget := get?_of_row_mem hrow
    rw [Dict.get?_set, if_neg (by decide)] at hget
    simp at hget

/-- One call after the other, for one token. -/
theorem sample_guarding_run :
    Runs.Always (step fun _ => sampleCall "j") (Guarding fun _ => sampleCall "j") {}
      [0, 0, 0, 1] := by
  refine guarding_run _ (fun _ _ => ?_) _ ?_
  · show (5 : Int) < 9
    decide
  · refine Runs.guarded_cons.mpr ⟨trivial, Runs.guarded_cons.mpr ⟨?_, Runs.guarded_cons.mpr
      ⟨?_, Runs.guarded_cons.mpr ⟨trivial, Runs.guarded_nil⟩⟩⟩⟩
    · intro records stale hread
      cases hread
      rfl
    · exact ⟨false, rfl⟩

end JsonReplayWorld

end Collabio
