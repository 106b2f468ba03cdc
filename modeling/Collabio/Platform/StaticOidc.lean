import Mathlib.Tactic
import Collabio.Platform.Oidc
import Collabio.Platform.JsonReplayFile

/-!
# Token verification with given keys

`StaticOidcJwksVerifier`, as its constructor leaves it, and the two replay stores that
forget entries: one in memory, one in a JSON file. Each look at the clock is numbered,
and the clock never goes back.
-/

namespace Collabio

/-! ## Replay stores -/

/-- `InMemoryJwtReplayStore._seen_jti_by_issuer`: when the entries expire. -/
abbrev SeenJwtIds := Dict (String × String) Int

/-- `_purge_expired`. -/
def purgeExpired (nowEpoch : Int) (seen : SeenJwtIds) : SeenJwtIds :=
  seen.filter fun _ expiresAt => ¬ expiresAt ≤ nowEpoch

def inMemoryJwtReplayStore : JwtReplayStore SeenJwtIds where
  contains _ issuer jwtId nowEpoch := fun seen =>
    (.ok ((purgeExpired nowEpoch seen).contains (issuer, jwtId)), purgeExpired nowEpoch seen)
  record _ issuer _ jwtId expiresAtEpoch nowEpoch := fun seen =>
    (.ok (), (purgeExpired nowEpoch seen).set (issuer, jwtId) expiresAtEpoch)
  recordReplayDetected _ _ _ _ _ _ := pure ()

/-- The JSON file's document, if the file is there. -/
abbrev JsonReplayDocument := Option (List (String × Json))

/-- `_read_records`, which rewrites a file that holds expired rows. -/
def readReplayRecords (nowEpoch : Int) : Eff Exn JsonReplayDocument ReplayRecords := fun file =>
  match ReplayRecords.read nowEpoch file with
  | .error exn => (.error exn, file)
  | .ok (records, stale) => (.ok records, if stale then some records.document else file)

def jsonFileJwtReplayStore : JwtReplayStore JsonReplayDocument where
  contains _ issuer jwtId nowEpoch := do
    let records ← readReplayRecords nowEpoch
    return records.contains (issuer, jwtId)
  record tenantId issuer _ jwtId expiresAtEpoch nowEpoch := do
    let records ← readReplayRecords nowEpoch
    Eff.set (some (ReplayRecords.document
      (records.set (issuer, jwtId) { tenantId, expiresAtEpoch })))
  recordReplayDetected _ _ _ _ _ _ := pure ()

/-! ## The verifier -/

/-- What the clock says at each look at it, in whole seconds. -/
structure WallClock where
  nowEpoch : ℕ → Int
  monotone : Monotone nowEpoch

/-- What the constructor keeps. -/
structure StaticOidcJwksVerifier (σ : Type) where
  audiencesByIssuer       : Dict String (List String)
  keys                    : JwksKeyIndex
  allowedClockSkewSeconds : Int := 30
  replayStore             : JwtReplayStore σ

/-- The replay store, and how often the clock was read. `accepted` is kept for the
statements about runs; the code does not read it. -/
structure StaticOidcState (σ : Type) where
  replays  : σ
  readings : ℕ := 0
  accepted : List VerifiedJwtClaims := []

/-- Claims of one token id: the same issuer, id and expiry. -/
def SameJwtId (claims claims' : VerifiedJwtClaims) : Prop :=
  claims.jwtId ≠ none ∧ claims.jwtId = claims'.jwtId ∧ claims.issuer = claims'.issuer ∧
    claims.expiresAtEpoch = claims'.expiresAtEpoch

/-- No two accepted claims are of one token id. -/
def StaticOidcState.NoReplay {σ : Type} (s : StaticOidcState σ) : Prop :=
  s.accepted.Pairwise fun claims claims' => ¬ SameJwtId claims claims'

namespace StaticOidcJwksVerifier

variable {σ : Type} (clock : WallClock) (verifier : StaticOidcJwksVerifier σ)

/-- `int(self.now_epoch())`. -/
def readClock : Eff Exn (StaticOidcState σ) Int := fun s =>
  (.ok (clock.nowEpoch s.readings), { s with readings := s.readings + 1 })

/-- `_key_for`. -/
def keyFor (issuer keyId : String) : Except Exn JwksRs256Key := do
  require (verifier.audiencesByIssuer.contains issuer = true)
    (.jwtAuthenticationError "JWT issuer is not trusted")
  match verifier.keys.get? (issuer, keyId) with
  | some key => .ok key
  | none => .error (.jwtAuthenticationError "JWT signing key is not trusted")

/-- The checks of `_validate_registered_claims` at a time. -/
def registeredClaims (claims : VerifiedJwtClaims) (now : Int) : Except Exn Unit :=
  let skew := verifier.allowedClockSkewSeconds
  match verifier.audiencesByIssuer.get? claims.issuer with
  | none => .error (.jwtAuthenticationError "JWT issuer is not trusted")
  | some audiences => do
    require (∃ audience ∈ claims.audience, audience ∈ audiences)
      (.jwtAuthenticationError "JWT audience is not trusted")
    require (¬ claims.expiresAtEpoch ≤ now - skew) (.jwtAuthenticationError "JWT is expired")
    require (∀ notBefore ∈ claims.notBeforeEpoch, ¬ notBefore > now + skew)
      (.jwtAuthenticationError "JWT is not valid yet")
    require (∀ issuedAt ∈ claims.issuedAtEpoch, ¬ issuedAt > now + skew)
      (.jwtAuthenticationError "JWT issued_at is in the future")

/-- The claims of a token whose signature is right: `verify` up to the checks that need the
clock. -/
def signedClaims (H : HashFunctions) (loads : JsonLoads) (token : String) :
    Except Exn VerifiedJwtClaims := do
  let parsed ← DynamicOidcJwksVerifier.parseToken loads token
  let key ← verifier.keyFor parsed.issuer parsed.keyId
  let signature ← base64urlDecode parsed.signature
  require (verifyRs256Signature H key parsed.signingInput signature = true)
    (.jwtAuthenticationError "JWT signature verification failed")
  DynamicOidcJwksVerifier.claimsOf parsed.issuer parsed.claimsData

/-- The replay guard, at a clock reading of its own. -/
def requireNotReplayed (claims : VerifiedJwtClaims) : Eff Exn (StaticOidcState σ) Unit := fun s =>
  let nowEpoch := clock.nowEpoch s.readings
  let (result, replays) := verifier.replayStore.requireNotReplayed claims nowEpoch s.replays
  (result, { s with replays, readings := s.readings + 1 })

/-- `verify` from the checks on that need the clock. -/
def acceptSigned (claims : VerifiedJwtClaims) : Eff Exn (StaticOidcState σ) VerifiedJwtClaims := do
  let now ← readClock clock
  Eff.lift (verifier.registeredClaims claims now)
  verifier.requireNotReplayed clock claims
  return claims

/-- `verify`. -/
def verify (H : HashFunctions) (loads : JsonLoads) (token : String) :
    Eff Exn (StaticOidcState σ) VerifiedJwtClaims := do
  let claims ← Eff.lift (verifier.signedClaims H loads token)
  verifier.acceptSigned clock claims

/-! ## Runs -/

/-- One call of `verify`; the claims it returns are accepted. -/
def step (H : HashFunctions) (loads : JsonLoads) (s : StaticOidcState σ) (token : String) :
    StaticOidcState σ :=
  match verifier.verify clock H loads token s with
  | (.ok claims, s') => { s' with accepted := claims :: s'.accepted }
  | (.error _, s') => s'

/-- The token's id was not accepted before, or has not expired when the replay guard is
asked. -/
def AgainOnlyBeforeExpiry (H : HashFunctions) (loads : JsonLoads) (s : StaticOidcState σ)
    (token : String) : Prop :=
  ∀ claims, verifier.signedClaims H loads token = .ok claims →
    (∃ earlier ∈ s.accepted, SameJwtId claims earlier) →
      clock.nowEpoch (s.readings + 1) < claims.expiresAtEpoch

end StaticOidcJwksVerifier

end Collabio
