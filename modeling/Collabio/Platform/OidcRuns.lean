import Mathlib.Tactic
import Collabio.Library.JsonCodes
import Collabio.Library.Runs
import Collabio.Platform.Oidc

/-!
# The lifetime of discovered keys

* `cached_run`       — over any run of calls the cache holds, for each issuer, the
  key set of its last refresh that succeeded, and the time of that refresh;
* `keyFor_ok`        — the key that a token is checked with is one of that set, and
  the refresh is recent enough for the issuer's policy;
* `accepted_key_fresh` — so it is for every token that is accepted.

A call looks at the clock several times. The age of a key set is measured at the first
look of a call, by which the verifier decides whether to refresh it.
-/

namespace Collabio

namespace DynamicOidcJwksVerifier

variable {σ : Type} {world : OidcSurroundings} {verifier : DynamicOidcJwksVerifier σ}

/-! ## Key sets -/

/-- Every key of an issuer's key set is filed under that issuer. -/
theorem issuer_of_addJwksKey {issuer : String} {keys keys' : JwksKeyIndex} {rawKey : Json}
    (hkeys : ∀ key ∈ keys.keys, key.1 = issuer) (h : addJwksKey issuer keys rawKey = .ok keys') :
    ∀ key ∈ keys'.keys, key.1 = issuer := by
  unfold addJwksKey at h
  split at h
  · split at h
    · cases h
      exact hkeys
    · obtain ⟨_, -, h⟩ := Except.bind_eq_ok.mp h
      split at h
      · cases h
        exact hkeys
      · obtain ⟨_, -, h⟩ := Except.bind_eq_ok.mp h
        split at h
        · cases h
          exact hkeys
        · -- however the key is read, it is filed under the issuer
          obtain ⟨_, -, h⟩ := Except.bind_eq_ok.mp h
          obtain ⟨_, -, h⟩ := Except.bind_eq_ok.mp h
          obtain ⟨_, -, h⟩ := Except.bind_eq_ok.mp h
          obtain ⟨_, -, h⟩ := Except.bind_eq_ok.mp h
          obtain ⟨_, -, h⟩ := Except.bind_eq_ok.mp h
          obtain ⟨_, -, h⟩ := Except.bind_eq_ok.mp h
          obtain ⟨-, h⟩ := require_bind_eq_ok.mp h
          cases h
          intro key hmem
          rcases Dict.mem_keys_set.mp hmem with rfl | hmem
          · rfl
          · exact hkeys key hmem
  · cases h

theorem issuer_of_buildRs256JwksKeyIndex {issuer : String} {jwks : Json} {keys : JwksKeyIndex}
    (h : buildRs256JwksKeyIndex issuer jwks = .ok keys) : ∀ key ∈ keys.keys, key.1 = issuer := by
  have hfold : ∀ (rawKeys : List Json) (start keys : JwksKeyIndex),
      (∀ key ∈ start.keys, key.1 = issuer) →
      rawKeys.foldlM (addJwksKey issuer) start = .ok keys → ∀ key ∈ keys.keys, key.1 = issuer := by
    intro rawKeys
    induction rawKeys with
    | nil =>
      intro start keys hstart h
      cases h
      exact hstart
    | cons rawKey rawKeys ih =>
      intro start keys hstart h
      rw [List.foldlM_cons] at h
      obtain ⟨next, hnext, h⟩ := Except.bind_eq_ok.mp h
      exact ih next keys (issuer_of_addJwksKey hstart hnext) h
  unfold buildRs256JwksKeyIndex at h
  split at h
  · split at h
    · exact hfold _ _ _ (fun key hmem => absurd hmem List.not_mem_nil) h
    · cases h
  · cases h

/-- Configurations are filed under their issuers. -/
theorem issuer_of_issuerConfigs {issuer : String} {config : OidcDiscoveryIssuerConfig}
    (h : verifier.issuerConfigs.get? issuer = some config) : config.issuer = issuer := by
  have hfold : ∀ (issuers : List OidcDiscoveryIssuerConfig)
      (configs : Dict String OidcDiscoveryIssuerConfig),
      (∀ issuer config, configs.get? issuer = some config → config.issuer = issuer) →
      ∀ issuer config, (issuers.foldl (fun configs config => configs.set config.issuer config)
        configs).get? issuer = some config → config.issuer = issuer := by
    intro issuers
    induction issuers with
    | nil => exact fun configs h => h
    | cons first issuers ih =>
      intro configs hconfigs
      refine ih _ ?_
      intro issuer config hget
      rw [Dict.get?_set] at hget
      split at hget
      · rename_i hsame
        cases hget
        exact hsame.symm
      · exact hconfigs issuer config hget
  exact hfold verifier.issuers ∅ (fun _ _ hget => by simp at hget) issuer config h

/-! ## The cache -/

/-- The last refresh of an issuer that succeeded. -/
def lastRefresh (s : OidcState σ) (issuer : String) : Option OidcRefresh :=
  s.refreshes.find? (·.issuer == issuer)

/-- The cache holds of every issuer what its last refresh brought, and when. -/
structure Cached (s : OidcState σ) : Prop where
  time : ∀ issuer, s.refreshedAt.get? issuer = (lastRefresh s issuer).map (·.time)
  keys : ∀ issuer keyId, s.keys.get? (issuer, keyId) =
           (lastRefresh s issuer).bind (·.keys.get? (issuer, keyId))

/-- The cache has not changed, and the clock has not been turned back. -/
structure SameCache (s s' : OidcState σ) : Prop where
  keys        : s'.keys = s.keys
  refreshedAt : s'.refreshedAt = s.refreshedAt
  refreshes   : s'.refreshes = s.refreshes
  readings    : s.readings ≤ s'.readings

theorem SameCache.refl (s : OidcState σ) : SameCache s s := ⟨rfl, rfl, rfl, le_refl _⟩

theorem SameCache.trans {s t u : OidcState σ} (h : SameCache s t) (h' : SameCache t u) :
    SameCache s u :=
  ⟨h'.keys.trans h.keys, h'.refreshedAt.trans h.refreshedAt, h'.refreshes.trans h.refreshes,
    h.readings.trans h'.readings⟩

theorem SameCache.chain (s t u : OidcState σ) (h : SameCache s t) (h' : SameCache t u) :
    SameCache s u := h.trans h'

theorem SameCache.lastRefresh {s s' : OidcState σ} (h : SameCache s s') (issuer : String) :
    lastRefresh s' issuer = lastRefresh s issuer := by
  unfold DynamicOidcJwksVerifier.lastRefresh
  rw [h.refreshes]

theorem SameCache.cached {s s' : OidcState σ} (h : SameCache s s') (hs : Cached s) : Cached s' := by
  refine ⟨fun issuer => ?_, fun issuer keyId => ?_⟩
  · rw [h.refreshedAt, h.lastRefresh]
    exact hs.time issuer
  · rw [h.keys, h.lastRefresh]
    exact hs.keys issuer keyId

variable (world) in
theorem keeps_readClock : (readClock world : Eff Exn (OidcState σ) Int).Keeps SameCache :=
  fun _ => ⟨rfl, rfl, rfl, Nat.le_succ _⟩

variable (world) in
theorem keeps_fetch (url : String) : (fetch world url : Eff Exn (OidcState σ) Json).Keeps SameCache :=
  fun _ => ⟨rfl, rfl, rfl, le_refl _⟩

theorem keeps_onReplays {α : Type} (x : Eff Exn σ α) : (onReplays x).Keeps SameCache :=
  fun _ => ⟨rfl, rfl, rfl, le_refl _⟩

theorem keeps_pureCode {α : Type} (x : Except Exn α) :
    (Eff.lift x : Eff Exn (OidcState σ) α).Keeps SameCache :=
  Eff.keeps_lift SameCache.refl x

variable (world) in
/-- Fetching a key set leaves the cache alone. -/
theorem keeps_fetchKeyIndex (config : OidcDiscoveryIssuerConfig) :
    (fetchKeyIndex world config : Eff Exn (OidcState σ) JwksKeyIndex).Keeps SameCache := by
  refine (keeps_fetch _ _).bind SameCache.chain fun document => ?_
  refine (keeps_pureCode _).bind SameCache.chain fun discovery => ?_
  refine (keeps_pureCode _).bind SameCache.chain fun _ => ?_
  refine (keeps_pureCode _).bind SameCache.chain fun _ => ?_
  refine (keeps_fetch _ _).bind SameCache.chain fun jwks => ?_
  refine (keeps_pureCode _).bind SameCache.chain fun keyIndex => ?_
  exact (keeps_pureCode _).bind SameCache.chain fun _ => Eff.keeps_pure SameCache.refl _

/-- The keys it returns are all the issuer's. -/
theorem issuer_of_fetchKeyIndex {config : OidcDiscoveryIssuerConfig} {s s' : OidcState σ}
    {keyIndex : JwksKeyIndex} (h : fetchKeyIndex world config s = (.ok keyIndex, s')) :
    ∀ key ∈ keyIndex.keys, key.1 = config.issuer := by
  obtain ⟨document, _, -, h⟩ := Eff.bind_eq_ok.mp h
  obtain ⟨discovery, _, -, h⟩ := Eff.bind_eq_ok.mp h
  obtain ⟨_, _, -, h⟩ := Eff.bind_eq_ok.mp h
  obtain ⟨_, _, -, h⟩ := Eff.bind_eq_ok.mp h
  obtain ⟨jwks, _, -, h⟩ := Eff.bind_eq_ok.mp h
  obtain ⟨keys, _, hkeys, h⟩ := Eff.bind_eq_ok.mp h
  obtain ⟨_, _, -, h⟩ := Eff.bind_eq_ok.mp h
  simp only [Eff.lift_apply, Prod.mk.injEq] at hkeys
  cases h
  exact issuer_of_buildRs256JwksKeyIndex hkeys.1

/-- **Installing a key set** replaces the keys of its issuer and no others. -/
theorem cached_install {s : OidcState σ} {issuer : String} {keyIndex : JwksKeyIndex} {time : Int}
    (hs : Cached s) (hkeys : ∀ key ∈ keyIndex.keys, key.1 = issuer) :
    Cached (install issuer keyIndex time s) := by
  -- what was noted of other issuers stays as it was
  have hlast : ∀ other, lastRefresh (install issuer keyIndex time s) other =
      if issuer = other then some ⟨issuer, time, keyIndex⟩ else lastRefresh s other := by
    intro other
    unfold lastRefresh install
    rw [List.find?_cons]
    by_cases h : issuer = other
    · simp [h]
    · have hother : (issuer == other) = false := by simpa using h
      simp [h, hother]
  refine ⟨fun other => ?_, fun other keyId => ?_⟩
  · rw [hlast]
    show (s.refreshedAt.set issuer time).get? other = _
    rw [Dict.get?_set]
    by_cases h : issuer = other
    · simp [h]
    · rw [if_neg (Ne.symm h), if_neg h]
      exact hs.time other
  · rw [hlast]
    show (Dict.update _ keyIndex).get? (other, keyId) = _
    rw [Dict.get?_update, Dict.get?_filter]
    by_cases h : issuer = other
    · -- none of the issuer's old keys is left
      rw [if_pos h]
      have hnone : (s.keys.get? (other, keyId)).filter (fun _ => decide ((other, keyId).1 ≠ issuer))
          = none := by
        cases s.keys.get? (other, keyId) <;> simp [h]
      rw [hnone]
      simp
    · rw [if_neg h]
      -- the new keys are of one issuer, so that the others' keys are found as before
      have hnone : keyIndex.get? (other, keyId) = none := by
        rw [Dict.get?_eq_none]
        intro hmem
        exact h (hkeys _ hmem).symm
      have hkept : (s.keys.get? (other, keyId)).filter (fun _ => decide ((other, keyId).1 ≠ issuer))
          = s.keys.get? (other, keyId) := by
        cases s.keys.get? (other, keyId) <;> simp [Ne.symm h]
      rw [hnone, hkept, Option.none_or]
      exact hs.keys other keyId

/-! ## What each operation does -/

/-- What every operation does to the cache: it stays in order, and the clock goes on. -/
structure KeepsCache (s s' : OidcState σ) : Prop where
  cached   : Cached s → Cached s'
  readings : s.readings ≤ s'.readings

theorem SameCache.keepsCache {s s' : OidcState σ} (h : SameCache s s') : KeepsCache s s' :=
  ⟨h.cached, h.readings⟩

theorem KeepsCache.refl (s : OidcState σ) : KeepsCache s s := (SameCache.refl s).keepsCache

theorem KeepsCache.chain (s t u : OidcState σ) (h : KeepsCache s t) (h' : KeepsCache t u) :
    KeepsCache s u :=
  ⟨fun hs => h'.cached (h.cached hs), h.readings.trans h'.readings⟩

/-- A refresh that raises changes nothing: the keys are replaced when all has gone well. -/
theorem refreshIssuer_error {issuer : String} {s s' : OidcState σ} {e : Exn}
    (h : verifier.refreshIssuer world issuer s = (.error e, s')) : SameCache s s' := by
  unfold refreshIssuer at h
  rcases hconfig : verifier.issuerConfigs.get? issuer with _ | config
  · rw [hconfig] at h
    cases h
    exact SameCache.refl s
  · rw [hconfig] at h
    rcases Eff.bind_eq_error.mp h with hfetch | ⟨keyIndex, mid, hfetch, h⟩
    · have hkeeps := keeps_fetchKeyIndex world config s
      rw [hfetch] at hkeeps
      exact hkeeps
    · rcases Eff.bind_eq_error.mp h with hclock | ⟨_, _, -, h⟩
      · cases hclock
      · cases h

/-- A refresh that returns has installed a key set of its issuer. -/
theorem refreshIssuer_ok {issuer : String} {s s' : OidcState σ} {u : Unit}
    (h : verifier.refreshIssuer world issuer s = (.ok u, s')) :
    ∃ keyIndex mid n, SameCache s mid ∧ s.readings ≤ n ∧ n < mid.readings ∧
      (∀ key ∈ keyIndex.keys, key.1 = issuer) ∧
      s' = install issuer keyIndex (world.nowEpoch n) mid := by
  unfold refreshIssuer at h
  rcases hconfig : verifier.issuerConfigs.get? issuer with _ | config
  · rw [hconfig] at h
    cases h
  · rw [hconfig] at h
    obtain ⟨keyIndex, mid, hfetch, h⟩ := Eff.bind_eq_ok.mp h
    obtain ⟨time, last, hclock, h⟩ := Eff.bind_eq_ok.mp h
    have hkeeps := keeps_fetchKeyIndex world config s
    rw [hfetch] at hkeeps
    have hissuer := issuer_of_fetchKeyIndex hfetch
    rw [issuer_of_issuerConfigs hconfig] at hissuer
    have hread := keeps_readClock world mid
    cases hclock
    cases h
    exact ⟨keyIndex, _, mid.readings, SameCache.chain _ _ _ hkeeps hread, hkeeps.readings,
      Nat.lt_succ_self _, hissuer, rfl⟩

variable (world verifier) in
theorem keeps_refreshIssuer (issuer : String) :
    (verifier.refreshIssuer world issuer : Eff Exn (OidcState σ) Unit).Keeps KeepsCache := by
  intro s
  rcases h : verifier.refreshIssuer world issuer s with ⟨e | u, s'⟩
  · exact (refreshIssuer_error h).keepsCache
  · obtain ⟨keyIndex, mid, n, hsame, -, -, hkeys, rfl⟩ := refreshIssuer_ok h
    exact ⟨fun hs => cached_install (hsame.cached hs) hkeys, hsame.readings⟩

variable (verifier) in
theorem keeps_handleRefreshFailure (issuer : String) (nowEpoch : Int) (text : String) :
    (verifier.handleRefreshFailure issuer nowEpoch text : Eff Exn (OidcState σ) Unit).Keeps
      SameCache := by
  intro s
  have hsame : SameCache s { s with lastError := s.lastError.set issuer text } :=
    ⟨rfl, rfl, rfl, le_refl _⟩
  unfold handleRefreshFailure
  dsimp only
  split
  · exact hsame
  · split
    · exact hsame
    · split
      · exact hsame
      · split <;> exact hsame

variable (world verifier) in
theorem keeps_tryRefreshForKeyRotation (issuer : String) (nowEpoch : Int) :
    (verifier.tryRefreshForKeyRotation world issuer nowEpoch :
      Eff Exn (OidcState σ) Unit).Keeps KeepsCache := by
  intro s
  have hrefresh := keeps_refreshIssuer world verifier issuer s
  unfold tryRefreshForKeyRotation
  split
  · rename_i text s' h
    rw [h] at hrefresh
    have hfailure := keeps_handleRefreshFailure verifier issuer nowEpoch text s'
    exact KeepsCache.chain _ _ _ hrefresh hfailure.keepsCache
  · exact hrefresh

variable (world verifier) in
theorem keeps_ensureFreshKeys (config : OidcDiscoveryIssuerConfig) (nowEpoch : Int) :
    (verifier.ensureFreshKeys world config nowEpoch : Eff Exn (OidcState σ) Unit).Keeps
      KeepsCache := by
  intro s
  unfold ensureFreshKeys
  split
  · exact keeps_tryRefreshForKeyRotation _ _ config.issuer nowEpoch s
  · exact KeepsCache.refl s

variable (world verifier) in
theorem keeps_keyFor (issuer keyId : String) :
    (verifier.keyFor world issuer keyId : Eff Exn (OidcState σ) JwksRs256Key).Keeps
      KeepsCache := by
  have hlast : (Eff.get : Eff Exn (OidcState σ) (OidcState σ)).Keeps KeepsCache :=
    fun s => KeepsCache.refl s
  unfold keyFor
  split
  · exact Eff.keeps_raise KeepsCache.refl _
  · refine Eff.Keeps.bind KeepsCache.chain (fun s => (keeps_readClock _ s).keepsCache) fun now => ?_
    refine (keeps_ensureFreshKeys _ _ _ now).bind KeepsCache.chain fun _ => ?_
    refine hlast.bind KeepsCache.chain fun s => ?_
    split
    · exact Eff.keeps_pure KeepsCache.refl _
    · refine (keeps_tryRefreshForKeyRotation _ _ _ now).bind KeepsCache.chain fun _ => ?_
      refine hlast.bind KeepsCache.chain fun s => ?_
      split
      · exact Eff.keeps_pure KeepsCache.refl _
      · exact Eff.keeps_raise KeepsCache.refl _

variable (world verifier) in
/-- What follows the choice of the key leaves the cache alone. -/
theorem keeps_validateRegisteredClaims (claims : VerifiedJwtClaims) :
    (verifier.validateRegisteredClaims world claims : Eff Exn (OidcState σ) Unit).Keeps
      SameCache := by
  refine (keeps_readClock _).bind SameCache.chain fun now => ?_
  dsimp only
  split
  · exact Eff.keeps_raise SameCache.refl _
  · refine (keeps_pureCode _).bind SameCache.chain fun _ => ?_
    refine (keeps_pureCode _).bind SameCache.chain fun _ => ?_
    exact (keeps_pureCode _).bind SameCache.chain fun _ => keeps_pureCode _

/-- The part of `verify` after the choice of the key. -/
def acceptWith (world : OidcSurroundings) (verifier : DynamicOidcJwksVerifier σ)
    (H : HashFunctions) (parsed : ParsedToken) (key : JwksRs256Key) :
    Eff Exn (OidcState σ) VerifiedJwtClaims := do
  let signature ← Eff.lift (base64urlDecode parsed.signature)
  Eff.lift (require (verifyRs256Signature H key parsed.signingInput signature = true)
    (.jwtAuthenticationError "JWT signature verification failed"))
  let claims ← Eff.lift (claimsOf parsed.issuer parsed.claimsData)
  verifier.validateRegisteredClaims world claims
  let nowEpoch ← readClock world
  onReplays (verifier.replayStore.requireNotReplayed claims nowEpoch)
  return claims

theorem verify_eq (H : HashFunctions) (loads : JsonLoads) (token : String) :
    verifier.verify world H loads token = (Eff.lift (parseToken loads token) >>= fun parsed =>
      verifier.keyFor world parsed.issuer parsed.keyId >>= fun key =>
        acceptWith world verifier H parsed key) := rfl

variable (world verifier) in
theorem keeps_acceptWith (H : HashFunctions) (parsed : ParsedToken) (key : JwksRs256Key) :
    (acceptWith world verifier H parsed key).Keeps SameCache := by
  refine (keeps_pureCode _).bind SameCache.chain fun _ => ?_
  refine (keeps_pureCode _).bind SameCache.chain fun _ => ?_
  refine (keeps_pureCode _).bind SameCache.chain fun claims => ?_
  refine (keeps_validateRegisteredClaims _ _ claims).bind SameCache.chain fun _ => ?_
  refine (keeps_readClock _).bind SameCache.chain fun now => ?_
  exact (keeps_onReplays _).bind SameCache.chain fun _ => Eff.keeps_pure SameCache.refl _

variable (world verifier) in
theorem keeps_verify (H : HashFunctions) (loads : JsonLoads) (token : String) :
    (verifier.verify world H loads token).Keeps KeepsCache := by
  rw [verify_eq]
  refine (Eff.keeps_lift KeepsCache.refl _).bind KeepsCache.chain fun parsed => ?_
  refine (keeps_keyFor _ _ _ _).bind KeepsCache.chain fun key => ?_
  exact fun s => (keeps_acceptWith _ _ H parsed key s).keepsCache

variable (world verifier) in
theorem keeps_refreshAll :
    (verifier.refreshAll world : Eff Exn (OidcState σ) Unit).Keeps KeepsCache := by
  have hall : ∀ issuers : List String, (issuers.forM fun issuer =>
      verifier.refreshIssuer world issuer : Eff Exn (OidcState σ) Unit).Keeps KeepsCache := by
    intro issuers
    induction issuers with
    | nil => exact Eff.keeps_pure KeepsCache.refl ()
    | cons issuer issuers ih =>
      exact (keeps_refreshIssuer _ _ issuer).bind KeepsCache.chain fun _ => ih
  exact hall _

variable (world verifier) in
theorem keeps_step (H : HashFunctions) (loads : JsonLoads) (s : OidcState σ) (call : OidcCall) :
    KeepsCache s (verifier.step world H loads s call) := by
  cases call with
  | verify token => exact keeps_verify _ _ H loads token s
  | refreshAll => exact keeps_refreshAll _ _ s

/-- **The cache over a run.** It is in order after any calls on a new verifier. -/
theorem cached_run (H : HashFunctions) (loads : JsonLoads) (replays : σ) (calls : List OidcCall) :
    Cached (Runs.run (verifier.step world H loads) { replays } calls) := by
  have hempty : Cached ({ replays } : OidcState σ) :=
    ⟨fun issuer => by simp [lastRefresh], fun issuer keyId => by simp [lastRefresh]⟩
  exact Runs.always_last (Runs.always_of_invariant
    (fun s call hs => (keeps_step _ _ H loads s call).cached hs) hempty calls)

/-! ## Freshness -/

/-- A key set refreshed at `r` may be used at `t`. -/
def Fresh (config : OidcDiscoveryIssuerConfig) (t r : Int) : Prop :=
  match config.outagePolicy with
  | .failClosed => t - r < config.refreshIntervalSeconds
  | .useStaleKeys => t - r ≤ config.refreshIntervalSeconds + config.staleGraceSeconds

theorem fresh_of_lt {config : OidcDiscoveryIssuerConfig} {t r : Int}
    (h : t - r < config.refreshIntervalSeconds) : Fresh config t r := by
  unfold Fresh
  split
  · exact h
  · have hgrace : (0 : Int) ≤ config.staleGraceSeconds := Int.natCast_nonneg _
    omega

/-- A refresh during the call is always recent enough. -/
theorem fresh_of_le {config : OidcDiscoveryIssuerConfig} {t r : Int} (h : t ≤ r) :
    Fresh config t r := by
  have hpos := config.interval_pos
  refine fresh_of_lt ?_
  omega

/-- The issuer's last refresh is recent enough at `t`. -/
def HasFresh (config : OidcDiscoveryIssuerConfig) (t : Int) (s : OidcState σ) : Prop :=
  ∃ refresh, lastRefresh s config.issuer = some refresh ∧ Fresh config t refresh.time

theorem SameCache.hasFresh {s s' : OidcState σ} (h : SameCache s s')
    {config : OidcDiscoveryIssuerConfig} {t : Int} (hs : HasFresh config t s) :
    HasFresh config t s' := by
  unfold HasFresh
  rwa [h.lastRefresh]

theorem lastRefresh_install {issuer : String} {keyIndex : JwksKeyIndex} {time : Int}
    {s : OidcState σ} : lastRefresh (install issuer keyIndex time s) issuer =
      some ⟨issuer, time, keyIndex⟩ := by
  unfold lastRefresh install
  rw [List.find?_cons]
  simp

/-- The cache's time of an issuer is that of its last refresh. -/
theorem hasFresh_of_refreshedAt {s : OidcState σ} (hs : Cached s)
    {config : OidcDiscoveryIssuerConfig} {t r : Int}
    (hget : s.refreshedAt.get? config.issuer = some r) (hfresh : Fresh config t r) :
    HasFresh config t s := by
  rw [hs.time, Option.map_eq_some_iff] at hget
  obtain ⟨refresh, hlast, rfl⟩ := hget
  exact ⟨refresh, hlast, hfresh⟩

/-- The failure of a refresh is passed over only while stale keys may be used. -/
theorem handleRefreshFailure_ok {config : OidcDiscoveryIssuerConfig} {t : Int} {text : String}
    {s s' : OidcState σ} {u : Unit} (hconfig : verifier.issuerConfigs.get? config.issuer = some config)
    (hs : Cached s) (h : verifier.handleRefreshFailure config.issuer t text s = (.ok u, s')) :
    HasFresh config t s' := by
  have hsame := keeps_handleRefreshFailure verifier config.issuer t text s
  rw [h] at hsame
  refine hsame.hasFresh ?_
  unfold handleRefreshFailure at h
  dsimp only at h
  split at h
  · cases h
  · rename_i refreshedAt hget
    rw [hconfig] at h
    dsimp only at h
    split at h
    · cases h
    · rename_i hpolicy
      split at h
      · cases h
      · rename_i hage
        -- the stale keys were compared with the policy, and are within it
        refine hasFresh_of_refreshedAt hs hget ?_
        unfold Fresh
        split
        · exact absurd ‹_› hpolicy
        · exact not_lt.mp hage

theorem tryRefreshForKeyRotation_ok {config : OidcDiscoveryIssuerConfig} {m : Nat}
    {s s' : OidcState σ} {u : Unit} (hconfig : verifier.issuerConfigs.get? config.issuer = some config)
    (hs : Cached s) (hm : m ≤ s.readings)
    (h : verifier.tryRefreshForKeyRotation world config.issuer (world.nowEpoch m) s = (.ok u, s')) :
    HasFresh config (world.nowEpoch m) s' := by
  unfold tryRefreshForKeyRotation at h
  split at h
  · rename_i text failed hrefresh
    exact handleRefreshFailure_ok hconfig ((refreshIssuer_error hrefresh).cached hs) h
  · obtain ⟨keyIndex, mid, n, -, hn, -, -, rfl⟩ := refreshIssuer_ok h
    refine ⟨_, lastRefresh_install, fresh_of_le ?_⟩
    exact world.monotone (hm.trans hn)

/-- After the check for freshness the keys are fresh. -/
theorem ensureFreshKeys_ok {config : OidcDiscoveryIssuerConfig} {m : Nat}
    {s s' : OidcState σ} {u : Unit} (hconfig : verifier.issuerConfigs.get? config.issuer = some config)
    (hs : Cached s) (hm : m ≤ s.readings)
    (h : verifier.ensureFreshKeys world config (world.nowEpoch m) s = (.ok u, s')) :
    HasFresh config (world.nowEpoch m) s' := by
  unfold ensureFreshKeys at h
  split at h
  · exact tryRefreshForKeyRotation_ok hconfig hs hm h
  · rename_i hdue
    cases h
    unfold refreshDue at hdue
    split at hdue
    · simp at hdue
    · rename_i refreshedAt hget
      refine hasFresh_of_refreshedAt hs hget (fresh_of_lt ?_)
      simpa using hdue

/-- A key in the cache is one of the last refresh's. -/
theorem key_of_cache {s : OidcState σ} (hs : Cached s) {config : OidcDiscoveryIssuerConfig}
    {t : Int} {keyId : String} {key : JwksRs256Key} (hfresh : HasFresh config t s)
    (hget : s.keys.get? (config.issuer, keyId) = some key) :
    ∃ refresh, lastRefresh s config.issuer = some refresh ∧
      refresh.keys.get? (config.issuer, keyId) = some key ∧ Fresh config t refresh.time := by
  obtain ⟨refresh, hlast, hage⟩ := hfresh
  rw [hs.keys, hlast] at hget
  exact ⟨refresh, hlast, hget, hage⟩

/-- **The key for a token** is one of the issuer's last refresh, which is recent enough. -/
theorem keyFor_ok {issuer keyId : String} {s s' : OidcState σ} {key : JwksRs256Key}
    (hs : Cached s) (h : verifier.keyFor world issuer keyId s = (.ok key, s')) :
    ∃ config refresh, verifier.issuerConfigs.get? issuer = some config ∧
      lastRefresh s' issuer = some refresh ∧ refresh.keys.get? (issuer, keyId) = some key ∧
      Fresh config (world.nowEpoch s.readings) refresh.time := by
  unfold keyFor at h
  rcases hconfig : verifier.issuerConfigs.get? issuer with _ | config
  · rw [hconfig] at h
    cases h
  · rw [hconfig] at h
    have hissuer := issuer_of_issuerConfigs hconfig
    subst hissuer
    -- the clock, the refresh that is due, and the lookup of the key each keep the cache
    obtain ⟨now, s₁, hclock, h⟩ := Eff.bind_eq_ok.mp h
    have hread := keeps_readClock world s
    rw [hclock] at hread
    have hs₁ : Cached s₁ := hread.cached hs
    cases hclock
    obtain ⟨_, s₂, hensure, h⟩ := Eff.bind_eq_ok.mp h
    have hfresh := ensureFreshKeys_ok hconfig hs₁ (Nat.le_succ _) hensure
    have hkeeps := keeps_ensureFreshKeys world verifier config
      (world.nowEpoch s.readings) { s with readings := s.readings + 1 }
    rw [hensure] at hkeeps
    have hs₂ : Cached s₂ := hkeeps.cached hs₁
    obtain ⟨_, _, hstate, h⟩ := Eff.bind_eq_ok.mp h
    cases hstate
    rcases hget : s₂.keys.get? (config.issuer, keyId) with _ | found
    · -- the token's key is not there: another refresh may bring it
      rw [hget] at h
      obtain ⟨_, s₃, htry, h⟩ := Eff.bind_eq_ok.mp h
      have hle : s.readings ≤ s₂.readings := (Nat.le_succ _).trans hkeeps.readings
      have hfresh' := tryRefreshForKeyRotation_ok hconfig hs₂ hle htry
      have hkeeps' := keeps_tryRefreshForKeyRotation world verifier
        config.issuer (world.nowEpoch s.readings) s₂
      rw [htry] at hkeeps'
      obtain ⟨_, _, hstate, h⟩ := Eff.bind_eq_ok.mp h
      cases hstate
      rcases hget' : s₃.keys.get? (config.issuer, keyId) with _ | found
      · rw [hget'] at h
        cases h
      · rw [hget'] at h
        cases h
        obtain ⟨refresh, hlast, hkey, hage⟩ := key_of_cache (hkeeps'.cached hs₂) hfresh' hget'
        exact ⟨config, refresh, rfl, hlast, hkey, hage⟩
    · rw [hget] at h
      cases h
      obtain ⟨refresh, hlast, hkey, hage⟩ := key_of_cache hs₂ hfresh hget
      exact ⟨config, refresh, rfl, hlast, hkey, hage⟩

/-! ## Accepted tokens -/

theorem issuer_of_lastRefresh {s : OidcState σ} {issuer : String} {refresh : OidcRefresh}
    (h : lastRefresh s issuer = some refresh) : refresh.issuer = issuer := by
  have hfound := List.find?_some h
  simpa using hfound

/-- The claims keep the issuer of the token, which has no blanks around it. -/
theorem issuer_of_claimsOf {issuer : String} {claimsData : List (String × Json)}
    {claims : VerifiedJwtClaims} (h : claimsOf issuer claimsData = .ok claims) :
    claims.issuer = Text.strip issuer := by
  unfold claimsOf at h
  obtain ⟨_, -, h⟩ := Except.bind_eq_ok.mp h
  obtain ⟨_, -, h⟩ := Except.bind_eq_ok.mp h
  obtain ⟨_, -, h⟩ := Except.bind_eq_ok.mp h
  obtain ⟨_, -, h⟩ := Except.bind_eq_ok.mp h
  obtain ⟨_, -, h⟩ := Except.bind_eq_ok.mp h
  obtain ⟨_, -, h⟩ := Except.bind_eq_ok.mp h
  obtain ⟨_, -, h⟩ := Except.bind_eq_ok.mp h
  obtain ⟨-, rfl⟩ := accept_eq_ok.mp h
  rfl

theorem acceptWith_ok {H : HashFunctions} {parsed : ParsedToken} {key : JwksRs256Key}
    {s s' : OidcState σ} {claims : VerifiedJwtClaims}
    (h : acceptWith world verifier H parsed key s = (.ok claims, s')) :
    (∃ signature, base64urlDecode parsed.signature = .ok signature ∧
      verifyRs256Signature H key parsed.signingInput signature = true) ∧
      claims.issuer = Text.strip parsed.issuer := by
  obtain ⟨signature, _, hsignature, h⟩ := Eff.bind_eq_ok.mp h
  obtain ⟨_, _, hcheck, h⟩ := Eff.bind_eq_ok.mp h
  obtain ⟨claims', _, hclaims, h⟩ := Eff.bind_eq_ok.mp h
  obtain ⟨_, _, -, h⟩ := Eff.bind_eq_ok.mp h
  obtain ⟨_, _, -, h⟩ := Eff.bind_eq_ok.mp h
  obtain ⟨_, _, -, h⟩ := Eff.bind_eq_ok.mp h
  cases h
  simp only [Eff.lift_apply, Prod.mk.injEq] at hsignature hcheck hclaims
  exact ⟨⟨signature, hsignature.1, require_eq_ok.mp hcheck.1⟩, issuer_of_claimsOf hclaims.1⟩

/-- **Keys are used within their lifetime.** After any calls on a new verifier, whatever
the fetcher does: the key with which a token is accepted is one of the key set of the last
refresh of the token's issuer that succeeded, the cache holds of that issuer this set and
nothing else, and the refresh is recent enough for the issuer's policy. -/
theorem accepted_key_fresh (H : HashFunctions) (loads : JsonLoads) (world : OidcSurroundings)
    (verifier : DynamicOidcJwksVerifier σ) (replays : σ) (calls : List OidcCall) (token : String)
    (claims : VerifiedJwtClaims) (s s' : OidcState σ)
    (hrun : Runs.run (verifier.step world H loads) { replays } calls = s)
    (h : verifier.verify world H loads token s = (.ok claims, s')) :
    ∃ parsed config refresh key signature,
      parseToken loads token = .ok parsed ∧ parsed.issuer = claims.issuer ∧
      verifier.issuerConfigs.get? claims.issuer = some config ∧
      lastRefresh s' claims.issuer = some refresh ∧ refresh.issuer = claims.issuer ∧
      refresh.keys.get? (claims.issuer, parsed.keyId) = some key ∧
      (∀ keyId, s'.keys.get? (claims.issuer, keyId) =
        refresh.keys.get? (claims.issuer, keyId)) ∧
      base64urlDecode parsed.signature = .ok signature ∧
      verifyRs256Signature H key parsed.signingInput signature = true ∧
      Fresh config (world.nowEpoch s.readings) refresh.time := by
  -- the cache is right after any calls, and the key that is used comes out of it
  have hs : Cached s := by
    rw [← hrun]
    exact cached_run H loads replays calls
  rw [verify_eq] at h
  obtain ⟨parsed, _, hparse, h⟩ := Eff.bind_eq_ok.mp h
  simp only [Eff.lift_apply, Prod.mk.injEq] at hparse
  obtain ⟨hparse, rfl⟩ := hparse
  obtain ⟨key, mid, hkey, h⟩ := Eff.bind_eq_ok.mp h
  obtain ⟨config, refresh, hconfig, hlast, hget, hage⟩ := keyFor_ok hs hkey
  have hkeeps := keeps_keyFor world verifier parsed.issuer parsed.keyId s
  rw [hkey] at hkeeps
  have hsame := keeps_acceptWith world verifier H parsed key mid
  rw [h] at hsame
  have hs' : Cached s' := hsame.cached (hkeeps.cached hs)
  obtain ⟨⟨signature, hsignature, hverified⟩, hissuer⟩ := acceptWith_ok h
  -- the token's issuer is the configured one, which has no blanks around it
  have hstrip : claims.issuer = parsed.issuer := by
    rw [hissuer, ← issuer_of_issuerConfigs hconfig, config.stripped]
  rw [hstrip]
  have hlast' : lastRefresh s' parsed.issuer = some refresh := by rw [hsame.lastRefresh, hlast]
  refine ⟨parsed, config, refresh, key, signature, hparse, rfl, hconfig, hlast',
    issuer_of_lastRefresh hlast, hget, fun keyId => ?_, hsignature, hverified, hage⟩
  rw [hs'.keys, hlast']
  rfl

/-! ## A token of a sample issuer -/

/-- `json.loads` of ASCII texts. -/
def asciiLoads : JsonLoads := fun bytes =>
  match Json.read Json.asciiEscapes (bytes.map fun b => Char.ofNat b.toNat) with
  | some value => .ok value
  | none => .error none

def sampleIssuer : OidcDiscoveryIssuerConfig where
  issuer := "i"
  audiences := ["a"]
  discoveryUrl := "discovery"
  stripped := by decide +kernel
  nonEmpty := by decide
  interval_pos := by decide

/-- An issuer whose only key has modulus 2 ^ 240 - 1 and exponent 1, and a clock that
goes on by a second at each look. -/
def sampleSurroundings : OidcSurroundings where
  nowEpoch n := n
  fetchJson _ url :=
    if url = "discovery" then .ok (.obj [("issuer", .str "i"), ("jwks_uri", .str "keys")])
    else .ok (.obj [("keys", .arr [.obj [("kty", .str "RSA"), ("kid", .str "k"),
      ("n", .str (String.ofList (List.replicate 40 '_'))), ("e", .str "AQ")]])])
  monotone _ _ h := Int.ofNat_le.mpr h

/-- The digest of the sample is empty, which keeps its signature short. -/
def sampleHash : HashFunctions := { (default : HashFunctions) with sha256 := fun _ => [] }

def sampleVerifier : DynamicOidcJwksVerifier Unit where
  issuers := [sampleIssuer]
  replayStore := ⟨fun _ _ _ _ => pure false, fun _ _ _ _ _ _ => pure (),
    fun _ _ _ _ _ _ => pure ()⟩
  issuers_ne := by simp

/-- With this key a signature is the padded message itself. -/
def sampleToken : String :=
  "eyJhbGciOiJSUzI1NiIsImtpZCI6ImsifQ." ++
    "eyJhdWQiOiJhIiwiZXhwIjo5LCJpc3MiOiJpIiwic3ViIjoidSIsInRlbmFudF9pZCI6InQifQ." ++
    "AAH__________wAwMTANBglghkgBZQMEAgEFAAQg"

/-- What its claims are. -/
def sampleTokenClaims : VerifiedJwtClaims where
  issuer := "i"
  subject := "u"
  audience := ["a"]
  tenantId := "t"
  expiresAtEpoch := 9

/-- The sample verifier after a refresh. -/
def sampleRefreshed : OidcState Unit :=
  Runs.run (sampleVerifier.step sampleSurroundings sampleHash asciiLoads) { replays := () }
    [.refreshAll]

theorem sampleToken_accepted :
    (sampleVerifier.verify sampleSurroundings sampleHash asciiLoads sampleToken
      sampleRefreshed).1 = .ok sampleTokenClaims := by decide +kernel

theorem sample_key_fresh : ∃ parsed refresh key, ∃ signature : Bytes,
    parseToken asciiLoads sampleToken = .ok parsed ∧
    lastRefresh (sampleVerifier.verify sampleSurroundings sampleHash asciiLoads sampleToken
      sampleRefreshed).2 "i" = some refresh ∧
    refresh.keys.get? ("i", parsed.keyId) = some key ∧
    verifyRs256Signature sampleHash key parsed.signingInput signature = true ∧
    Fresh sampleIssuer (sampleSurroundings.nowEpoch sampleRefreshed.readings) refresh.time := by
  have hpair : ∀ x : Except Exn VerifiedJwtClaims × OidcState Unit,
      x.1 = .ok sampleTokenClaims → x = (.ok sampleTokenClaims, x.2) := fun x h => Prod.ext h rfl
  obtain ⟨parsed, config, refresh, key, signature, hparse, -, hconfig, hlast, -, hkey, -, -,
    hverified, hage⟩ := accepted_key_fresh sampleHash asciiLoads sampleSurroundings sampleVerifier
      () [.refreshAll] sampleToken sampleTokenClaims sampleRefreshed _ rfl
      (hpair _ sampleToken_accepted)
  have hconfig' : sampleVerifier.issuerConfigs.get? "i" = some sampleIssuer := by
    simp [issuerConfigs, sampleVerifier, sampleIssuer, Dict.get?_set]
  have hsame : some config = some sampleIssuer := hconfig.symm.trans hconfig'
  cases hsame
  exact ⟨parsed, refresh, key, signature, hparse, hlast, hkey, hverified, hage⟩

end DynamicOidcJwksVerifier

end Collabio
