import Mathlib.Tactic
import Collabio.Platform.Jwt

/-!
# Token verification with discovered keys

`DynamicOidcJwksVerifier`: the signing keys of each issuer are fetched when they are
first needed, again when their time is up, and again when a token names a key that is
not among them.

The clock and the network are the verifier's surroundings. Each look at the clock and
each fetch is numbered, so that any behaviour of either is some function of the number.
-/

namespace Collabio

/-! ## Configuration and documents -/

inductive OidcOutagePolicy where
  | failClosed
  | useStaleKeys
  deriving DecidableEq, Repr

/-- The model strips the issuer and asks for an interval of at least a second. -/
structure OidcDiscoveryIssuerConfig where
  issuer                 : String
  audiences              : List String
  discoveryUrl           : String
  refreshIntervalSeconds : Nat := 300
  staleGraceSeconds      : Nat := 3600
  outagePolicy           : OidcOutagePolicy := .failClosed
  stripped               : Text.strip issuer = issuer
  nonEmpty               : issuer ≠ ""
  interval_pos           : 1 ≤ refreshIntervalSeconds

structure OidcDiscoveryDocument where
  issuer                           : String
  jwksUri                          : String
  idTokenSigningAlgValuesSupported : List String := []
  deriving DecidableEq, Repr

/-- A required text of a document, as the document's model reads it. -/
def documentText (field : String) : Option Json → Except (List FieldError) String
  | none => .error [⟨field, .message "Field required"⟩]
  | some (.str value) =>
    if Text.strip value = "" then .error [⟨field, .message "field must not be empty"⟩]
    else .ok (Text.strip value)
  | some _ => .error [⟨field, .message "Input should be a valid string"⟩]

/-- An optional list of texts of a document. -/
def documentTexts (field : String) : Option Json → Except (List FieldError) (List String)
  | none => .ok []
  | some (.arr items) =>
    match items.mapM (fun item => match item with | .str text => some text | _ => none) with
    | some texts => .ok texts
    | none => .error [⟨field, .message "Input should be a valid string"⟩]
  | some _ => .error [⟨field, .message "Input should be a valid list"⟩]

def documentErrors {α : Type} : Except (List FieldError) α → List FieldError
  | .ok _ => []
  | .error errors => errors

/-- `OidcDiscoveryDocument.model_validate`. -/
def OidcDiscoveryDocument.modelValidate (document : Json) : Except Exn OidcDiscoveryDocument :=
  let model := "OidcDiscoveryDocument"
  match document with
  | .obj members =>
    let issuer := documentText "issuer" (getMember members "issuer")
    let jwksUri := documentText "jwks_uri" (getMember members "jwks_uri")
    let algorithms := documentTexts "id_token_signing_alg_values_supported"
      (getMember members "id_token_signing_alg_values_supported")
    match issuer, jwksUri, algorithms with
    | .ok issuer, .ok jwksUri, .ok algorithms => .ok ⟨issuer, jwksUri, algorithms⟩
    | _, _, _ => .error (.validationError model
        (documentErrors issuer ++ documentErrors jwksUri ++ documentErrors algorithms))
  | _ => .error (.validationError model
      [⟨"", .message "Input should be a valid dictionary or instance of OidcDiscoveryDocument"⟩])

/-! ## Key sets -/

/-- Keys by issuer and key id. -/
abbrev JwksKeyIndex := Dict (String × String) JwksRs256Key

/-- `value in {None, expected}`; lists and dictionaries cannot be looked up in a set. -/
def absentOr (expected : String) : Option Json → Except Exn Bool
  | none | some .null => .ok true
  | some (.str value) => .ok (value == expected)
  | some (.arr _) => .error (.typeError "unhashable type: 'list'")
  | some (.obj _) => .error (.typeError "unhashable type: 'dict'")
  | some _ => .ok false

/-- One turn of the loop over the keys of a JWKS; keys of other kinds are passed over. -/
def addJwksKey (issuer : String) (keys : JwksKeyIndex) (rawKey : Json) :
    Except Exn JwksKeyIndex :=
  match rawKey with
  | .obj members =>
    if isText "RSA" (getMember members "kty") = false then .ok keys
    else do
      if (← absentOr "RS256" (getMember members "alg")) = false then return keys
      if (← absentOr "sig" (getMember members "use")) = false then return keys
      let keyId ← requiredHeaderString members "kid"
      let modulusValue ← requiredHeaderString members "n"
      let exponentValue ← requiredHeaderString members "e"
      let modulus ← base64urlUint modulusValue
      let exponent ← base64urlUint exponentValue
      let key ← JwksRs256Key.validate ⟨keyId, issuer, modulus, exponent⟩
      require (keys.contains (issuer, key.keyId) = false)
        (.jwtAuthenticationError "Duplicate JWKS key id for issuer")
      return keys.set (issuer, key.keyId) key
  | _ => .error (.jwtAuthenticationError "JWKS key must be an object")

/-- `_build_rs256_jwks_key_index` of one issuer's key set. -/
def buildRs256JwksKeyIndex (issuer : String) (jwks : Json) : Except Exn JwksKeyIndex :=
  match jwks with
  | .obj members =>
    match getMember members "keys" with
    | some (.arr rawKeys) => rawKeys.foldlM (addJwksKey issuer) ∅
    | _ => .error (.jwtAuthenticationError "JWKS must contain a keys array")
  | _ => .error (.validationError "OidcIssuerConfig"
      [⟨"jwks", .message "Input should be a valid dictionary"⟩])

/-! ## The verifier -/

/-- What surrounds a verifier: the clock, in whole seconds and never turned back, and the
fetcher. -/
structure OidcSurroundings where
  nowEpoch  : Nat → Int
  fetchJson : Nat → String → Except Exn Json
  monotone  : Monotone nowEpoch

/-- A verifier has at least one issuer. -/
structure DynamicOidcJwksVerifier (σ : Type) where
  issuers                 : List OidcDiscoveryIssuerConfig
  allowedClockSkewSeconds : Int := 30
  replayStore             : JwtReplayStore σ
  issuers_ne              : issuers ≠ []

/-- A refresh that succeeded. -/
structure OidcRefresh where
  issuer : String
  time   : Int
  keys   : JwksKeyIndex

/-- What a verifier remembers, and how often it has looked at its surroundings.
`refreshes` is kept for the statements about runs; the code does not read it. -/
structure OidcState (σ : Type) where
  keys        : JwksKeyIndex := ∅
  refreshedAt : Dict String Int := ∅
  lastError   : Dict String String := ∅
  replays     : σ
  readings    : Nat := 0
  fetches     : Nat := 0
  refreshes   : List OidcRefresh := []

namespace DynamicOidcJwksVerifier

variable {σ : Type} (world : OidcSurroundings) (verifier : DynamicOidcJwksVerifier σ)

/-- Of two configurations of one issuer the later one counts. -/
def issuerConfigs : Dict String OidcDiscoveryIssuerConfig :=
  verifier.issuers.foldl (fun configs config => configs.set config.issuer config) ∅

/-- `int(self.now_epoch())`. -/
def readClock : Eff Exn (OidcState σ) Int := fun s =>
  (.ok (world.nowEpoch s.readings), { s with readings := s.readings + 1 })

def fetch (url : String) : Eff Exn (OidcState σ) Json := fun s =>
  (world.fetchJson s.fetches url, { s with fetches := s.fetches + 1 })

/-- The replay store acts on its own part of the state. -/
def onReplays {α : Type} (x : Eff Exn σ α) : Eff Exn (OidcState σ) α := fun s =>
  ((x s.replays).1, { s with replays := (x s.replays).2 })

/-- The assignments at the end of `_refresh_issuer`. -/
def install (issuer : String) (keyIndex : JwksKeyIndex) (refreshedAt : Int) (s : OidcState σ) :
    OidcState σ :=
  { s with
    keys := (s.keys.filter fun key _ => key.1 ≠ issuer).update keyIndex
    refreshedAt := s.refreshedAt.set issuer refreshedAt
    lastError := s.lastError.erase issuer
    refreshes := ⟨issuer, refreshedAt, keyIndex⟩ :: s.refreshes }

/-- `_refresh_issuer`, up to the keys that it installs. -/
def fetchKeyIndex (config : OidcDiscoveryIssuerConfig) : Eff Exn (OidcState σ) JwksKeyIndex := do
  let document ← fetch world config.discoveryUrl
  let discovery ← Eff.lift (OidcDiscoveryDocument.modelValidate document)
  Eff.lift (require (discovery.issuer = config.issuer)
    (.jwtAuthenticationError "OIDC discovery issuer mismatch"))
  Eff.lift (require (discovery.idTokenSigningAlgValuesSupported = [] ∨
      "RS256" ∈ discovery.idTokenSigningAlgValuesSupported)
    (.jwtAuthenticationError "OIDC discovery does not advertise RS256"))
  let jwks ← fetch world discovery.jwksUri
  let keyIndex ← Eff.lift (buildRs256JwksKeyIndex config.issuer jwks)
  Eff.lift (require (keyIndex.items ≠ [])
    (.jwtAuthenticationError "OIDC JWKS refresh returned no RS256 signing keys"))
  return keyIndex

/-- `_refresh_issuer`. -/
def refreshIssuer (issuer : String) : Eff Exn (OidcState σ) Unit :=
  match verifier.issuerConfigs.get? issuer with
  | none => Eff.raise .keyError
  | some config => do
    let keyIndex ← fetchKeyIndex world config
    let refreshedAt ← readClock world
    fun s => (.ok (), install issuer keyIndex refreshedAt s)

/-- `_handle_refresh_failure`. -/
def handleRefreshFailure (issuer : String) (nowEpoch : Int) (text : String) :
    Eff Exn (OidcState σ) Unit := fun s =>
  let s := { s with lastError := s.lastError.set issuer text }
  match s.refreshedAt.get? issuer with
  | none => (.error (.jwtAuthenticationError
      "OIDC JWKS refresh failed and no cached keys are available"), s)
  | some refreshedAt =>
    match verifier.issuerConfigs.get? issuer with
    | none => (.error .keyError, s)
    | some config =>
      if config.outagePolicy = .failClosed then
        (.error (.jwtAuthenticationError "OIDC JWKS refresh failed"), s)
      else if nowEpoch - refreshedAt >
          config.refreshIntervalSeconds + config.staleGraceSeconds then
        (.error (.jwtAuthenticationError "OIDC JWKS cache expired"), s)
      else (.ok (), s)

/-- `_try_refresh_for_key_rotation`: only authentication errors are handled. -/
def tryRefreshForKeyRotation (issuer : String) (nowEpoch : Int) : Eff Exn (OidcState σ) Unit :=
  fun s =>
    match verifier.refreshIssuer world issuer s with
    | (.error (.jwtAuthenticationError text), s') =>
      verifier.handleRefreshFailure issuer nowEpoch text s'
    | result => result

/-- `_refresh_due`. -/
def refreshDue (config : OidcDiscoveryIssuerConfig) (nowEpoch : Int) (s : OidcState σ) : Bool :=
  match s.refreshedAt.get? config.issuer with
  | none => true
  | some refreshedAt => config.refreshIntervalSeconds ≤ nowEpoch - refreshedAt

/-- `_ensure_fresh_keys`. -/
def ensureFreshKeys (config : OidcDiscoveryIssuerConfig) (nowEpoch : Int) :
    Eff Exn (OidcState σ) Unit := fun s =>
  if refreshDue config nowEpoch s then
    verifier.tryRefreshForKeyRotation world config.issuer nowEpoch s
  else (.ok (), s)

/-- `_key_for`. -/
def keyFor (issuer keyId : String) : Eff Exn (OidcState σ) JwksRs256Key :=
  match verifier.issuerConfigs.get? issuer with
  | none => Eff.raise (.jwtAuthenticationError "JWT issuer is not trusted")
  | some config => do
    let nowEpoch ← readClock world
    verifier.ensureFreshKeys world config nowEpoch
    let s ← Eff.get
    match s.keys.get? (issuer, keyId) with
    | some key => return key
    | none =>
      verifier.tryRefreshForKeyRotation world issuer nowEpoch
      let s ← Eff.get
      match s.keys.get? (issuer, keyId) with
      | some key => return key
      | none => Eff.raise (.jwtAuthenticationError "JWT signing key is not trusted")

/-- `_validate_registered_claims`. -/
def validateRegisteredClaims (claims : VerifiedJwtClaims) : Eff Exn (OidcState σ) Unit := do
  let now ← readClock world
  let skew := verifier.allowedClockSkewSeconds
  match verifier.issuerConfigs.get? claims.issuer with
  | none => Eff.raise (.jwtAuthenticationError "JWT issuer is not trusted")
  | some config =>
    Eff.lift (require (∃ audience ∈ claims.audience, audience ∈ config.audiences)
      (.jwtAuthenticationError "JWT audience is not trusted"))
    Eff.lift (require (¬ claims.expiresAtEpoch ≤ now - skew)
      (.jwtAuthenticationError "JWT is expired"))
    Eff.lift (require (∀ notBefore ∈ claims.notBeforeEpoch, ¬ notBefore > now + skew)
      (.jwtAuthenticationError "JWT is not valid yet"))
    Eff.lift (require (∀ issuedAt ∈ claims.issuedAtEpoch, ¬ issuedAt > now + skew)
      (.jwtAuthenticationError "JWT issued_at is in the future"))

/-- What `verify` has read of a token before it asks for a key. -/
structure ParsedToken where
  issuer       : String
  keyId        : String
  claimsData   : List (String × Json)
  signingInput : Bytes
  signature    : String

def parseToken (loads : JsonLoads) (token : String) : Except Exn ParsedToken := do
  let (header, payload, signature) ← splitCompactJwt token
  let headerData ← decodeJsonObject loads header "JWT header"
  require (isText "RS256" (getMember headerData "alg") = true)
    (.jwtAuthenticationError "Unsupported JWT alg")
  let keyId ← requiredHeaderString headerData "kid"
  let claimsData ← decodeJsonObject loads payload "JWT claims"
  let issuer ← requiredStringClaim claimsData "iss"
  return ⟨issuer, keyId, claimsData, Text.encodeUtf8 (header ++ "." ++ payload), signature⟩

/-- The claims that `verify` makes of a token whose signature is right. -/
def claimsOf (issuer : String) (claimsData : List (String × Json)) :
    Except Exn VerifiedJwtClaims := do
  let subject ← requiredStringClaim claimsData "sub"
  let audience ← audienceClaim claimsData
  let tenantId ← requiredStringClaim claimsData "tenant_id"
  let expiresAtEpoch ← requiredIntClaim claimsData "exp"
  let issuedAtEpoch ← optionalIntClaim claimsData "iat"
  let notBeforeEpoch ← optionalIntClaim claimsData "nbf"
  let jwtId ← optionalStringClaim claimsData "jti"
  VerifiedJwtClaims.validate {
    issuer, subject, audience, tenantId, expiresAtEpoch, issuedAtEpoch, notBeforeEpoch, jwtId }

/-- `verify`. -/
def verify (H : HashFunctions) (loads : JsonLoads) (token : String) :
    Eff Exn (OidcState σ) VerifiedJwtClaims := do
  let parsed ← Eff.lift (parseToken loads token)
  let key ← verifier.keyFor world parsed.issuer parsed.keyId
  let signature ← Eff.lift (base64urlDecode parsed.signature)
  Eff.lift (require (verifyRs256Signature H key parsed.signingInput signature = true)
    (.jwtAuthenticationError "JWT signature verification failed"))
  let claims ← Eff.lift (claimsOf parsed.issuer parsed.claimsData)
  verifier.validateRegisteredClaims world claims
  let nowEpoch ← readClock world
  onReplays (verifier.replayStore.requireNotReplayed claims nowEpoch)
  return claims

/-- `refresh_all`, which stops at the first refresh that raises. -/
def refreshAll : Eff Exn (OidcState σ) Unit :=
  verifier.issuerConfigs.keys.forM fun issuer => verifier.refreshIssuer world issuer

/-! ## Runs -/

inductive OidcCall where
  | verify (token : String)
  | refreshAll
  deriving DecidableEq, Repr

/-- A call on the verifier; what it leaves behind also counts when it raises. -/
def step (H : HashFunctions) (loads : JsonLoads) (s : OidcState σ) : OidcCall → OidcState σ
  | .verify token => (verifier.verify world H loads token s).2
  | .refreshAll => (verifier.refreshAll world s).2

end DynamicOidcJwksVerifier

end Collabio
