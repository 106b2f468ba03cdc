import Mathlib.Tactic
import Collabio.Library.Runs
import Collabio.Platform.JsonReplayRuns
import Collabio.Platform.OidcRuns
import Collabio.Platform.StaticOidc

/-!
# Replays of verified tokens

* `JwtReplayStore.Remembers` — what a replay store owes to entries that have not
  expired; both stores pay it;
* `noReplay_run`      — a token id is accepted once, as long as it does not come again
  from its expiry on;
* `replay_after_expiry` — from then on the stores have forgotten it, while the clock
  skew still lets it in.
-/

namespace Collabio

/-! ## What a store remembers -/

/-- `holds s key expiry` says that the store has the entry, and for how long. Nothing is
owed to entries that have expired. -/
structure JwtReplayStore.Remembers {σ : Type} (store : JwtReplayStore σ)
    (holds : σ → String × String → Int → Prop) : Prop where
  contains_keeps : ∀ tenantId issuer jwtId now s key expiry, now < expiry → holds s key expiry →
    holds (store.contains tenantId issuer jwtId now s).2 key expiry
  contains_holds : ∀ tenantId issuer jwtId now s s' found expiry, now < expiry →
    holds s (issuer, jwtId) expiry →
      store.contains tenantId issuer jwtId now s = (.ok found, s') → found = true
  record_keeps : ∀ tenantId issuer subject jwtId expiresAt now s key expiry, now < expiry →
    key ≠ (issuer, jwtId) → holds s key expiry →
      holds (store.record tenantId issuer subject jwtId expiresAt now s).2 key expiry
  record_holds : ∀ tenantId issuer subject jwtId expiresAt now s s',
    store.record tenantId issuer subject jwtId expiresAt now s = (.ok (), s') →
      holds s' (issuer, jwtId) expiresAt
  detected_keeps : ∀ tenantId issuer subject jwtId expiresAt now s key expiry,
    holds s key expiry →
      holds (store.recordReplayDetected tenantId issuer subject jwtId expiresAt now s).2 key expiry

namespace JwtReplayStore.Remembers

variable {σ : Type} {store : JwtReplayStore σ} {holds : σ → String × String → Int → Prop}
  {claims : VerifiedJwtClaims} {now : Int} {s s' : σ} {jwtId : String}

/-- The guard of a token that has an id. -/
theorem requireNotReplayed_eq (hjwt : claims.jwtId = some jwtId) :
    store.requireNotReplayed claims now =
      (store.contains claims.tenantId claims.issuer jwtId now >>= fun found =>
        if found = true then
          store.recordReplayDetected claims.tenantId claims.issuer claims.subject jwtId
            claims.expiresAtEpoch now >>= fun _ =>
              Eff.raise (.jwtAuthenticationError "JWT replay detected")
        else store.record claims.tenantId claims.issuer claims.subject jwtId
          claims.expiresAtEpoch now) := by
  unfold JwtReplayStore.requireNotReplayed
  rw [hjwt]

/-- The guard keeps every entry that has not expired, also when it raises. -/
theorem require_keeps (h : store.Remembers holds) {key : String × String} {expiry : Int}
    (hexpiry : now < expiry) (hs : holds s key expiry) :
    holds (store.requireNotReplayed claims now s).2 key expiry := by
  rcases hjwt : claims.jwtId with _ | jwtId
  · unfold JwtReplayStore.requireNotReplayed
    rw [hjwt]
    exact hs
  · rw [requireNotReplayed_eq hjwt]
    have hfirst := h.contains_keeps claims.tenantId claims.issuer jwtId now s key expiry hexpiry hs
    rcases hcontains : store.contains claims.tenantId claims.issuer jwtId now s with
      ⟨e | found, mid⟩
    · rw [hcontains] at hfirst
      rwa [Eff.bind_of_error hcontains]
    · rw [hcontains] at hfirst
      rw [Eff.bind_of_ok hcontains]
      cases found with
      | true =>
        have hsecond := h.detected_keeps claims.tenantId claims.issuer claims.subject jwtId
          claims.expiresAtEpoch now mid key expiry hfirst
        rw [if_pos rfl]
        rcases hdetected : store.recordReplayDetected claims.tenantId claims.issuer claims.subject
          jwtId claims.expiresAtEpoch now mid with ⟨e | u, last⟩
        · rw [hdetected] at hsecond
          rwa [Eff.bind_of_error hdetected]
        · rw [hdetected] at hsecond
          rwa [Eff.bind_of_ok hdetected]
      | false =>
        rw [if_neg (by simp)]
        refine h.record_keeps _ _ _ _ _ _ _ _ _ hexpiry ?_ hfirst
        -- an entry under the token's own key would have been found
        rintro rfl
        cases h.contains_holds _ _ _ _ _ _ _ _ hexpiry hs hcontains

/-- A guard that lets a token pass has recorded it. -/
theorem holds_of_require (h : store.Remembers holds) (hjwt : claims.jwtId = some jwtId)
    (hok : store.requireNotReplayed claims now s = (.ok (), s')) :
    holds s' (claims.issuer, jwtId) claims.expiresAtEpoch := by
  rw [requireNotReplayed_eq hjwt] at hok
  obtain ⟨found, mid, -, hok⟩ := Eff.bind_eq_ok.mp hok
  cases found with
  | true =>
    rw [if_pos rfl] at hok
    obtain ⟨_, _, -, hok⟩ := Eff.bind_eq_ok.mp hok
    cases hok
  | false =>
    rw [if_neg (by simp)] at hok
    exact h.record_holds _ _ _ _ _ _ _ _ hok

/-- It lets no token pass whose entry has not expired. -/
theorem expired_of_require (h : store.Remembers holds) (hjwt : claims.jwtId = some jwtId)
    (hok : store.requireNotReplayed claims now s = (.ok (), s')) {expiry : Int}
    (hs : holds s (claims.issuer, jwtId) expiry) : expiry ≤ now := by
  by_contra hexpiry
  rw [requireNotReplayed_eq hjwt] at hok
  obtain ⟨found, mid, hcontains, hok⟩ := Eff.bind_eq_ok.mp hok
  obtain rfl := h.contains_holds _ _ _ _ _ _ _ _ (not_le.mp hexpiry) hs hcontains
  rw [if_pos rfl] at hok
  obtain ⟨_, _, -, hok⟩ := Eff.bind_eq_ok.mp hok
  cases hok

end JwtReplayStore.Remembers

/-! ## The store in memory -/

theorem get?_purgeExpired {now expiry : Int} {seen : SeenJwtIds} {key : String × String}
    (hexpiry : now < expiry) (h : seen.get? key = some expiry) :
    (purgeExpired now seen).get? key = some expiry := by
  unfold purgeExpired
  rw [Dict.get?_filter, h]
  simp [hexpiry]

theorem inMemory_remembers :
    inMemoryJwtReplayStore.Remembers fun seen key expiry => seen.get? key = some expiry where
  contains_keeps _ _ _ _ _ _ _ hexpiry hs := get?_purgeExpired hexpiry hs
  contains_holds _ _ _ _ _ _ _ _ hexpiry hs hok := by
    cases hok
    rw [Dict.contains, get?_purgeExpired hexpiry hs]
    rfl
  record_keeps _ _ _ _ _ _ _ _ _ hexpiry hne hs := by
    show (Dict.set _ _ _).get? _ = _
    rw [Dict.get?_set, if_neg hne]
    exact get?_purgeExpired hexpiry hs
  record_holds _ _ _ _ _ _ _ _ hok := by
    cases hok
    exact Dict.get?_set_self _ _ _
  detected_keeps _ _ _ _ _ _ _ _ _ hs := hs

/-! ## The store in a file -/

namespace ReplayRecords

/-- The records have an entry with this expiry. -/
def HasExpiry (records : ReplayRecords) (key : String × String) (expiry : Int) : Prop :=
  ∃ record, records.get? key = some record ∧ record.expiresAtEpoch = expiry

/-- Reading back a row: its entry is kept, if it has not expired. -/
theorem readRow_row_expiry {now : Int} {records records' : ReplayRecords}
    {entry : (String × String) × ReplayRecord}
    (h : readRow now records (row entry) = .ok records') :
    (now < entry.2.expiresAtEpoch ∧ ∃ tenantId,
      records' = records.set entry.1 ⟨tenantId, entry.2.expiresAtEpoch⟩) ∨
    (¬ now < entry.2.expiresAtEpoch ∧ records' = records) := by
  have hread := readRow_row_eq h
  by_cases hexpires : now < entry.2.expiresAtEpoch
  · rw [if_pos hexpires] at hread
    exact .inl ⟨hexpires, _, hread⟩
  · rw [if_neg hexpires] at hread
    exact .inr ⟨hexpires, hread⟩

/-- The loop over written rows leaves other keys alone. -/
theorem foldlM_readRow_other {now : Int} {items : List ((String × String) × ReplayRecord)}
    {records records' : ReplayRecords} {key : String × String}
    (hkey : key ∉ items.map Prod.fst)
    (h : (items.map row).foldlM (readRow now) records = .ok records') :
    records'.get? key = records.get? key := by
  induction items generalizing records with
  | nil =>
    cases h
    rfl
  | cons entry items ih =>
    rw [List.map_cons, List.mem_cons, not_or] at hkey
    rw [List.map_cons, List.foldlM_cons] at h
    obtain ⟨next, hnext, h⟩ := Except.bind_eq_ok.mp h
    rw [ih hkey.2 h]
    rcases readRow_row_expiry hnext with ⟨-, _, rfl⟩ | ⟨-, rfl⟩
    · rw [Dict.get?_set, if_neg hkey.1]
    · rfl

/-- It finds every entry that has not expired. -/
theorem foldlM_readRow_expiry {now : Int} {items : List ((String × String) × ReplayRecord)}
    (hnodup : (items.map Prod.fst).Nodup) {records records' : ReplayRecords}
    {entry : (String × String) × ReplayRecord} (hentry : entry ∈ items)
    (hexpiry : now < entry.2.expiresAtEpoch)
    (h : (items.map row).foldlM (readRow now) records = .ok records') :
    records'.HasExpiry entry.1 entry.2.expiresAtEpoch := by
  induction items generalizing records with
  | nil => cases hentry
  | cons first items ih =>
    rw [List.map_cons, List.nodup_cons] at hnodup
    rw [List.map_cons, List.foldlM_cons] at h
    obtain ⟨next, hnext, h⟩ := Except.bind_eq_ok.mp h
    rcases List.mem_cons.mp hentry with rfl | hentry
    · rcases readRow_row_expiry hnext with ⟨-, tenantId, rfl⟩ | ⟨hexpired, -⟩
      · refine ⟨⟨tenantId, entry.2.expiresAtEpoch⟩, ?_, rfl⟩
        rw [foldlM_readRow_other hnodup.1 h]
        exact Dict.get?_set_self _ _ _
      · exact absurd hexpiry hexpired
    · exact ih hnodup.2 hentry h

/-- Reading a written document finds what has not expired. -/
theorem hasExpiry_read_document {now expiry : Int} {records records' : ReplayRecords}
    {stale : Bool} {key : String × String} (hexpiry : now < expiry)
    (hrecords : records.HasExpiry key expiry)
    (h : read now (some records.document) = .ok (records', stale)) :
    records'.HasExpiry key expiry := by
  obtain ⟨record, hget, rfl⟩ := hrecords
  have hall := foldlM_of_read_document h
  have hentry : (key, record) ∈ records.sortedItems :=
    (sortedItems_perm records).mem_iff.mpr (Dict.mem_items.mpr hget)
  have hnodup : (records.sortedItems.map Prod.fst).Nodup :=
    ((sortedItems_perm records).map Prod.fst).nodup_iff.mpr records.nodup
  exact foldlM_readRow_expiry hnodup hentry hexpiry hall

end ReplayRecords

/-- Whoever reads the file before the entry expires finds it. -/
def FileHolds (file : JsonReplayDocument) (key : String × String) (expiry : Int) : Prop :=
  ∀ now, now < expiry → ∀ records stale,
    ReplayRecords.read now file = .ok (records, stale) → records.HasExpiry key expiry

theorem fileHolds_document {records : ReplayRecords} {key : String × String} {expiry : Int}
    (h : records.HasExpiry key expiry) : FileHolds (some records.document) key expiry :=
  fun _ hexpiry _ _ hread => ReplayRecords.hasExpiry_read_document hexpiry h hread

/-- Reading, which may rewrite the file, keeps what has not expired. -/
theorem fileHolds_readReplayRecords {file : JsonReplayDocument} {key : String × String}
    {now expiry : Int} (hexpiry : now < expiry) (h : FileHolds file key expiry) :
    FileHolds (readReplayRecords now file).2 key expiry := by
  unfold readReplayRecords
  split
  · exact h
  · rename_i records stale hread
    cases stale with
    | true => exact fileHolds_document (h now hexpiry records true hread)
    | false => exact h

theorem hasExpiry_of_readReplayRecords {file file' : JsonReplayDocument} {key : String × String}
    {now expiry : Int} {records : ReplayRecords} (hexpiry : now < expiry)
    (h : FileHolds file key expiry) (hread : readReplayRecords now file = (.ok records, file')) :
    records.HasExpiry key expiry := by
  unfold readReplayRecords at hread
  split at hread
  · cases hread
  · rename_i records' stale hread'
    cases hread
    exact h now hexpiry _ stale hread'

theorem jsonFile_remembers : jsonFileJwtReplayStore.Remembers FileHolds where
  contains_keeps tenantId issuer jwtId now file key expiry hexpiry hs := by
    -- a file that cannot be read stays as it is, for either call
    have hkeeps := fileHolds_readReplayRecords hexpiry hs
    rcases hread : readReplayRecords now file with ⟨e | records, file'⟩
    · rw [hread] at hkeeps
      show FileHolds ((readReplayRecords now >>= _) file).2 key expiry
      rwa [Eff.bind_of_error hread]
    · rw [hread] at hkeeps
      show FileHolds ((readReplayRecords now >>= _) file).2 key expiry
      rwa [Eff.bind_of_ok hread]
  contains_holds tenantId issuer jwtId now file file' found expiry hexpiry hs hok := by
    obtain ⟨records, mid, hread, hok⟩ := Eff.bind_eq_ok.mp hok
    obtain ⟨record, hget, -⟩ := hasExpiry_of_readReplayRecords hexpiry hs hread
    cases hok
    rw [Dict.contains, hget]
    rfl
  record_keeps tenantId issuer subject jwtId expiresAt now file key expiry hexpiry hne hs := by
    have hkeeps := fileHolds_readReplayRecords hexpiry hs
    rcases hread : readReplayRecords now file with ⟨e | records, file'⟩
    · rw [hread] at hkeeps
      show FileHolds ((readReplayRecords now >>= _) file).2 key expiry
      rwa [Eff.bind_of_error hread]
    · obtain ⟨record, hget, hrecord⟩ := hasExpiry_of_readReplayRecords hexpiry hs hread
      show FileHolds ((readReplayRecords now >>= _) file).2 key expiry
      rw [Eff.bind_of_ok hread]
      -- writing adds one record, under another key
      refine fileHolds_document ⟨record, ?_, hrecord⟩
      rw [Dict.get?_set, if_neg hne]
      exact hget
  record_holds tenantId issuer subject jwtId expiresAt now file file' hok := by
    obtain ⟨records, mid, -, hok⟩ := Eff.bind_eq_ok.mp hok
    cases hok
    exact fileHolds_document ⟨_, Dict.get?_set_self _ _ _, rfl⟩
  detected_keeps _ _ _ _ _ _ _ _ _ hs := hs

/-! ## Runs of the verifier -/

namespace StaticOidcJwksVerifier

variable {σ : Type} {clock : WallClock} {verifier : StaticOidcJwksVerifier σ} {H : HashFunctions}
  {loads : JsonLoads} {token : String} {s s' : StaticOidcState σ} {claims : VerifiedJwtClaims}
  {holds : σ → String × String → Int → Prop}

/-- A token that is accepted has passed the replay guard at the second clock reading. -/
theorem verify_ok (h : verifier.verify clock H loads token s = (.ok claims, s')) :
    verifier.signedClaims H loads token = .ok claims ∧ s'.accepted = s.accepted ∧
      s'.readings = s.readings + 2 ∧
      verifier.replayStore.requireNotReplayed claims (clock.nowEpoch (s.readings + 1)) s.replays =
        (.ok (), s'.replays) := by
  obtain ⟨signed, _, hsigned, hrest⟩ := Eff.bind_eq_ok.mp h
  obtain ⟨now, _, hclock, hrest'⟩ := Eff.bind_eq_ok.mp hrest
  obtain ⟨_, _, hregistered, hlast⟩ := Eff.bind_eq_ok.mp hrest'
  obtain ⟨_, last, hguard, hreturn⟩ := Eff.bind_eq_ok.mp hlast
  clear h hrest hrest' hlast
  simp only [Eff.lift_apply, Prod.mk.injEq] at hsigned hregistered
  simp only [Eff.pure_apply, Prod.mk.injEq, Except.ok.injEq] at hreturn
  obtain ⟨hsigned, rfl⟩ := hsigned
  cases hclock
  obtain ⟨-, rfl⟩ := hregistered
  obtain ⟨rfl, rfl⟩ := hreturn
  unfold requireNotReplayed at hguard
  simp only [Prod.mk.injEq] at hguard
  obtain ⟨hresult, rfl⟩ := hguard
  exact ⟨hsigned, rfl, rfl, Prod.ext hresult rfl⟩

/-- What a call that raises leaves behind. -/
theorem verify_error (hstore : verifier.replayStore.Remembers holds) {e : Exn}
    (h : verifier.verify clock H loads token s = (.error e, s')) :
    s'.accepted = s.accepted ∧ s.readings ≤ s'.readings ∧
      ∀ key expiry, clock.nowEpoch s'.readings < expiry → holds s.replays key expiry →
        holds s'.replays key expiry := by
  rcases Eff.bind_eq_error.mp h with hsigned | ⟨signed, _, hsigned, hrest⟩
  · simp only [Eff.lift_apply, Prod.mk.injEq] at hsigned
    rw [← hsigned.2]
    exact ⟨rfl, le_refl _, fun _ _ _ hs => hs⟩
  simp only [Eff.lift_apply, Prod.mk.injEq] at hsigned
  obtain ⟨-, rfl⟩ := hsigned
  rcases Eff.bind_eq_error.mp hrest with hclock | ⟨now, _, hclock, hrest'⟩
  · cases hclock
  cases hclock
  rcases Eff.bind_eq_error.mp hrest' with hregistered | ⟨_, _, hregistered, hlast⟩
  · simp only [Eff.lift_apply, Prod.mk.injEq] at hregistered
    rw [← hregistered.2]
    exact ⟨rfl, Nat.le_succ _, fun _ _ _ hs => hs⟩
  simp only [Eff.lift_apply, Prod.mk.injEq] at hregistered
  obtain ⟨-, rfl⟩ := hregistered
  rcases Eff.bind_eq_error.mp hlast with hguard | ⟨_, _, -, hreturn⟩
  · unfold requireNotReplayed at hguard
    simp only [Prod.mk.injEq] at hguard
    obtain ⟨-, rfl⟩ := hguard
    have hreadings : s.readings ≤ s.readings + 1 + 1 := by omega
    refine ⟨rfl, hreadings, fun key expiry hexpiry hs => ?_⟩
    -- the guard has asked at an earlier reading
    have hle : clock.nowEpoch (s.readings + 1) ≤ clock.nowEpoch (s.readings + 1 + 1) :=
      clock.monotone (Nat.le_succ _)
    exact hstore.require_keeps (hle.trans_lt hexpiry) hs
  · cases hreturn

/-- The store has every accepted token id that has not expired. -/
def Remembered (clock : WallClock) (holds : σ → String × String → Int → Prop)
    (s : StaticOidcState σ) : Prop :=
  ∀ claims ∈ s.accepted, ∀ jwtId, claims.jwtId = some jwtId →
    clock.nowEpoch s.readings < claims.expiresAtEpoch →
      holds s.replays (claims.issuer, jwtId) claims.expiresAtEpoch

/-- **One call** keeps the memory, and accepts no token id again that has not expired. -/
theorem remembered_step (hstore : verifier.replayStore.Remembers holds)
    (hs : Remembered clock holds s ∧ s.NoReplay)
    (hguard : verifier.AgainOnlyBeforeExpiry clock H loads s token) :
    Remembered clock holds (verifier.step clock H loads s token) ∧
      (verifier.step clock H loads s token).NoReplay := by
  obtain ⟨hremembered, honce⟩ := hs
  unfold step
  rcases h : verifier.verify clock H loads token s with ⟨e | claims, s'⟩
  · obtain ⟨haccepted, hreadings, hkeeps⟩ := verify_error hstore h
    refine ⟨fun claims hclaims jwtId hjwt hexpiry => ?_, ?_⟩
    · rw [haccepted] at hclaims
      have hle : clock.nowEpoch s.readings ≤ clock.nowEpoch s'.readings := clock.monotone hreadings
      exact hkeeps _ _ hexpiry (hremembered claims hclaims jwtId hjwt (hle.trans_lt hexpiry))
    · show s'.accepted.Pairwise _
      rw [haccepted]
      exact honce
  · obtain ⟨hsigned, haccepted, hreadings, hok⟩ := verify_ok h
    have hle : clock.nowEpoch s.readings ≤ clock.nowEpoch (s.readings + 1) :=
      clock.monotone (Nat.le_succ _)
    refine ⟨fun earlier hearlier jwtId hjwt hexpiry => ?_, ?_⟩
    · have hexpiry' : clock.nowEpoch (s.readings + 1) < earlier.expiresAtEpoch := by
        have hlater : clock.nowEpoch (s.readings + 1) ≤ clock.nowEpoch s'.readings := by
          rw [hreadings]
          exact clock.monotone (Nat.le_succ _)
        exact hlater.trans_lt hexpiry
      rcases List.mem_cons.mp hearlier with rfl | hearlier
      · exact hstore.holds_of_require hjwt hok
      · rw [haccepted] at hearlier
        have hkeeps := @JwtReplayStore.Remembers.require_keeps _ _ _ claims _ _ hstore _ _ hexpiry'
          (hremembered earlier hearlier jwtId hjwt (hle.trans_lt hexpiry'))
        rwa [hok] at hkeeps
    · show (claims :: s'.accepted).Pairwise _
      rw [haccepted, List.pairwise_cons]
      refine ⟨fun earlier hearlier hsame => ?_, honce⟩
      -- an accepted token comes again before its expiry, when the store still has it
      have hexpiry := hguard claims hsigned ⟨earlier, hearlier, hsame⟩
      obtain ⟨hsome, hjwt, hissuer, hexp⟩ := hsame
      obtain ⟨jwtId, hjwtId⟩ := Option.ne_none_iff_exists'.mp hsome
      have hheld := hremembered earlier hearlier jwtId (by rw [← hjwt, hjwtId])
        (by rw [← hexp]; exact hle.trans_lt hexpiry)
      rw [← hissuer, ← hexp] at hheld
      exact absurd (hstore.expired_of_require hjwtId hok hheld) (not_le.mpr hexpiry)

theorem noReplay_of_remembers (hstore : verifier.replayStore.Remembers holds) (replays : σ)
    (tokens : List String)
    (hguarded : Runs.Guarded (verifier.step clock H loads)
      (verifier.AgainOnlyBeforeExpiry clock H loads) { replays } tokens) :
    Runs.Always (verifier.step clock H loads) StaticOidcState.NoReplay { replays } tokens := by
  have hstart : Remembered clock holds ({ replays } : StaticOidcState σ) ∧
      ({ replays } : StaticOidcState σ).NoReplay := by
    refine ⟨?_, List.Pairwise.nil⟩
    intro claims hclaims
    cases hclaims
  have hkept := @Runs.always_of_guarded _ _ (verifier.step clock H loads)
    (fun s => Remembered clock holds s ∧ s.NoReplay) (verifier.AgainOnlyBeforeExpiry clock H loads)
    (fun _ _ hs hguard => remembered_step hstore hs hguard) _ hstart tokens hguarded
  exact Runs.always_mono (fun _ hs => hs.2) hkept

/-- **Token ids are accepted once**, with either store, whatever it holds at first and
however wide the clock skew is: in every run in which no accepted token id comes again from
its expiry on. -/
theorem noReplay_run (clock : WallClock) (H : HashFunctions) (loads : JsonLoads)
    (audiences : Dict String (List String)) (keys : JwksKeyIndex) (skew : Int)
    (tokens : List String) :
    (∀ seen : SeenJwtIds,
      Runs.Guarded (step clock ⟨audiences, keys, skew, inMemoryJwtReplayStore⟩ H loads)
        (AgainOnlyBeforeExpiry clock ⟨audiences, keys, skew, inMemoryJwtReplayStore⟩ H loads)
        { replays := seen } tokens →
      Runs.Always (step clock ⟨audiences, keys, skew, inMemoryJwtReplayStore⟩ H loads)
        StaticOidcState.NoReplay { replays := seen } tokens) ∧
    (∀ file : JsonReplayDocument,
      Runs.Guarded (step clock ⟨audiences, keys, skew, jsonFileJwtReplayStore⟩ H loads)
        (AgainOnlyBeforeExpiry clock ⟨audiences, keys, skew, jsonFileJwtReplayStore⟩ H loads)
        { replays := file } tokens →
      Runs.Always (step clock ⟨audiences, keys, skew, jsonFileJwtReplayStore⟩ H loads)
        StaticOidcState.NoReplay { replays := file } tokens) :=
  ⟨fun seen hguarded => noReplay_of_remembers inMemory_remembers seen tokens hguarded,
    fun file hguarded => noReplay_of_remembers jsonFile_remembers file tokens hguarded⟩

/-! ## A token of a sample issuer -/

theorem step_of_signed (h : verifier.signedClaims H loads token = .ok claims) :
    verifier.step clock H loads s token =
      match verifier.acceptSigned clock claims s with
      | (.ok claims, s') => { s' with accepted := claims :: s'.accepted }
      | (.error _, s') => s' := by
  unfold step verify
  rw [h]
  rfl

/-- The same second at every look. -/
def stoppedClock (now : Int) : WallClock := ⟨fun _ => now, fun _ _ _ => le_refl now⟩

/-- An issuer with one key, of modulus 2 ^ 240 - 1 and exponent 1. -/
def sampleStaticVerifier {σ : Type} (store : JwtReplayStore σ) : StaticOidcJwksVerifier σ where
  audiencesByIssuer := Dict.set ∅ "i" ["a"]
  keys := Dict.set ∅ ("i", "k") ⟨"k", "i", 2 ^ 240 - 1, 1⟩
  replayStore := store

/-- A token with an id, which expires at 9. -/
def sampleIdToken : String :=
  "eyJhbGciOiJSUzI1NiIsImtpZCI6ImsifQ." ++
    "eyJhdWQiOiJhIiwiZXhwIjo5LCJpc3MiOiJpIiwianRpIjoiaiIsInN1YiI6InUiLCJ0ZW5hbnRfaWQiOiJ0In0." ++
    "AAH__________wAwMTANBglghkgBZQMEAgEFAAQg"

def sampleIdClaims : VerifiedJwtClaims where
  issuer := "i"
  subject := "u"
  audience := ["a"]
  tenantId := "t"
  expiresAtEpoch := 9
  jwtId := some "j"

theorem sampleIdToken_signed {σ : Type} (store : JwtReplayStore σ) :
    (sampleStaticVerifier store).signedClaims DynamicOidcJwksVerifier.sampleHash
      DynamicOidcJwksVerifier.asciiLoads sampleIdToken = .ok sampleIdClaims := by
  have hsigned : (sampleStaticVerifier inMemoryJwtReplayStore).signedClaims
      DynamicOidcJwksVerifier.sampleHash DynamicOidcJwksVerifier.asciiLoads sampleIdToken =
        .ok sampleIdClaims := by decide +kernel
  exact hsigned

/-- At its expiry the token is accepted twice: the skew of 30 seconds lets it in, and the
store purges its entry as expired. -/
theorem replay_after_expiry :
    ¬ (Runs.run ((sampleStaticVerifier inMemoryJwtReplayStore).step (stoppedClock 9)
      DynamicOidcJwksVerifier.sampleHash DynamicOidcJwksVerifier.asciiLoads) { replays := ∅ }
      [sampleIdToken, sampleIdToken]).NoReplay := by
  rw [Runs.run_cons, Runs.run_cons, Runs.run_nil,
    step_of_signed (sampleIdToken_signed inMemoryJwtReplayStore),
    step_of_signed (sampleIdToken_signed inMemoryJwtReplayStore)]
  intro honce
  have hpair := (List.pairwise_cons.mp honce).1 sampleIdClaims (List.mem_singleton_self _)
  exact hpair ⟨by decide, rfl, rfl, rfl⟩

/-- Before its expiry it is accepted once. -/
theorem sample_noReplay_run :
    Runs.Always ((sampleStaticVerifier inMemoryJwtReplayStore).step (stoppedClock 5)
      DynamicOidcJwksVerifier.sampleHash DynamicOidcJwksVerifier.asciiLoads)
      StaticOidcState.NoReplay { replays := ∅ } [sampleIdToken, sampleIdToken] := by
  refine (noReplay_run (stoppedClock 5) _ _ _ _ 30 _).1 ∅ ?_
  intro before token hrun claims hsigned _
  obtain rfl : token = sampleIdToken := by
    have hmem := hrun.subset (List.mem_append_right before (List.mem_singleton_self token))
    simpa using hmem
  have hclaims : Except.ok claims = Except.ok sampleIdClaims :=
    hsigned.symm.trans (sampleIdToken_signed inMemoryJwtReplayStore)
  cases hclaims
  show (5 : Int) < 9
  decide

end StaticOidcJwksVerifier

end Collabio
