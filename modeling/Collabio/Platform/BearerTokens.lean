import Mathlib.Tactic
import Collabio.Platform.OidcRefreshFailures
import Collabio.Platform.TenantPolicies

/-!
# Bearer tokens

`HmacJwtVerifier`, the resolver that finds the user of an authorization header with it, and the
request handler that answers 401 to the two errors of authentication.

* `verify_raises`, `verify_unexpected` — the tokens that `verify` accepts or refuses with an
  authentication error, and those that make it raise something else;
* `bearer_errors_iff` — the same for the headers that the resolver is given.
-/

namespace Collabio

/-! ## The verifier -/

/-- `value.encode("ascii")`. -/
def encodeAscii (value : String) : Except Exn Bytes := do
  require (Text.isAscii value = true) .unicodeEncodeError
  return Text.encodeUtf8 value

/-- The constructor refuses a blank secret. -/
structure HmacJwtVerifier where
  issuer                  : String
  audience                : String
  secret                  : String
  allowedClockSkewSeconds : Int := 30
  secret_notBlank         : Text.strip secret ≠ ""

namespace HmacJwtVerifier

variable (verifier : HmacJwtVerifier) (H : HashFunctions) (loads : JsonLoads) (nowEpoch : Int)

/-- `_validate_registered_claims` at a time. -/
def validateRegisteredClaims (claims : VerifiedJwtClaims) : Except Exn Unit := do
  let skew := verifier.allowedClockSkewSeconds
  require (claims.issuer = verifier.issuer) (.jwtAuthenticationError "JWT issuer is not trusted")
  require (verifier.audience ∈ claims.audience)
    (.jwtAuthenticationError "JWT audience is not trusted")
  require (¬ claims.expiresAtEpoch ≤ nowEpoch - skew) (.jwtAuthenticationError "JWT is expired")
  require (∀ notBefore ∈ claims.notBeforeEpoch, ¬ notBefore > nowEpoch + skew)
    (.jwtAuthenticationError "JWT is not valid yet")
  require (∀ issuedAt ∈ claims.issuedAtEpoch, ¬ issuedAt > nowEpoch + skew)
    (.jwtAuthenticationError "JWT issued_at is in the future")

/-- `hmac.new(self.secret, header_payload, sha256).digest()`. -/
def expectedSignature (headerPayload : Bytes) : Bytes :=
  H.hmacSha256 (Text.encodeUtf8 verifier.secret) headerPayload

/-- `verify`, where the clock says `nowEpoch`. -/
def verify (token : String) : Except Exn VerifiedJwtClaims := do
  let (header, payload, signature) ← splitCompactJwt token
  let headerPayload ← encodeAscii (header ++ "." ++ payload)
  let headerData ← decodeJsonObject loads header "JWT header"
  let supported ← absentOr "JWT" (getMember headerData "typ")
  require (supported = true) (.jwtAuthenticationError "Unsupported JWT typ")
  require (isText "HS256" (getMember headerData "alg") = true)
    (.jwtAuthenticationError "Unsupported JWT alg")
  let decoded ← base64urlDecode signature
  require (decoded = verifier.expectedSignature H headerPayload)
    (.jwtAuthenticationError "JWT signature verification failed")
  let claims ← decodeJsonObject loads payload "JWT claims"
  let issuer ← requiredStringClaim claims "iss"
  let verified ← DynamicOidcJwksVerifier.claimsOf issuer claims
  verifier.validateRegisteredClaims nowEpoch verified
  return verified

end HmacJwtVerifier

/-! ## Principals -/

structure TenantMembership where
  tenantId : String
  roleIds  : List String := []
  groupIds : List String := []
  active   : Bool := true
  deriving DecidableEq, Repr

structure PrincipalRecord where
  issuer      : String
  subject     : String
  userId      : String
  memberships : List TenantMembership
  deriving DecidableEq, Repr

structure ObjectAclRecord where
  tenantId         : String
  objectId         : String
  readableUserIds  : List String := []
  readableRoleIds  : List String := []
  readableGroupIds : List String := []
  deriving DecidableEq, Repr

/-- What the constructor keeps; later principals of one issuer and subject replace earlier
ones. -/
structure InMemoryPrincipalDirectory where
  principals : Dict (String × String) PrincipalRecord
  objectAcls : List ObjectAclRecord

namespace InMemoryPrincipalDirectory

variable (directory : InMemoryPrincipalDirectory)

def principalForClaims (claims : VerifiedJwtClaims) : Except Exn PrincipalRecord :=
  match directory.principals.get? (claims.issuer, claims.subject) with
  | some principal => .ok principal
  | none => .error (.principalResolutionError "Principal is not registered")

def tenantMembership (principal : PrincipalRecord) (tenantId : String) :
    Except Exn TenantMembership :=
  match principal.memberships.find? fun membership =>
      membership.tenantId = tenantId ∧ membership.active = true with
  | some membership => .ok membership
  | none => .error (.principalResolutionError
      "Principal is not an active member of the requested tenant")

/-- The entries that let the user, one of the roles or one of the groups read. -/
def readableObjectIds (tenantId userId : String) (roleIds groupIds : List String) :
    List String :=
  let readable := directory.objectAcls.filter fun acl =>
    acl.tenantId = tenantId ∧ (userId ∈ acl.readableUserIds ∨
      (∃ role ∈ roleIds, role ∈ acl.readableRoleIds) ∨
      ∃ group ∈ groupIds, group ∈ acl.readableGroupIds)
  (readable.map ObjectAclRecord.objectId).dedup

end InMemoryPrincipalDirectory

/-! ## The resolver -/

/-- `authorization.partition(" ")`: the scheme, and what comes after the first space. -/
def partitionSpace (authorization : String) : String × String :=
  let (scheme, rest) := authorization.toList.span (· != ' ')
  (String.ofList scheme, String.ofList rest.tail)

/-- `_extract_bearer_token`. No letter outside ASCII has one of the letters of `bearer` as its
lower case. -/
def extractBearerToken : Option String → Except Exn String
  | none => .error (.jwtAuthenticationError "Bearer authorization header required")
  | some authorization => do
    let (scheme, token) := partitionSpace authorization
    require (scheme.toList.map Char.toLower = "bearer".toList ∧ Text.strip token ≠ "")
      (.jwtAuthenticationError "Bearer authorization header required")
    return Text.strip token

structure JwtPrincipalResolver where
  verifier  : HmacJwtVerifier
  directory : InMemoryPrincipalDirectory

namespace JwtPrincipalResolver

variable (resolver : JwtPrincipalResolver) (H : HashFunctions) (loads : JsonLoads) (nowEpoch : Int)

def resolveAuthorizationHeader (authorization : Option String) : Except Exn UserContext := do
  let token ← extractBearerToken authorization
  let claims ← resolver.verifier.verify H loads nowEpoch token
  let principal ← resolver.directory.principalForClaims claims
  let membership ← InMemoryPrincipalDirectory.tenantMembership principal claims.tenantId
  return {
    userId := principal.userId
    tenantId := claims.tenantId
    roleIds := membership.roleIds
    readableObjectIds := resolver.directory.readableObjectIds claims.tenantId principal.userId
      membership.roleIds membership.groupIds }

/-- `get_jwt_tenant_request_context` of the request handlers. -/
def getJwtTenantRequestContext (repository : TenantPolicyRepository)
    (authorization : Option String) : Except ApiError (UserContext × TenantAiPolicy) :=
  match resolver.resolveAuthorizationHeader H loads nowEpoch authorization with
  | .error (.jwtAuthenticationError text) => .error (.httpException 401 text)
  | .error (.principalResolutionError text) => .error (.httpException 401 text)
  | .error exn => .error (.raised exn)
  | .ok user =>
    match repository.get user.tenantId with
    | .error _ => .error (.httpException 403 "Tenant policy is not available")
    | .ok policy => .ok (user, policy)

end JwtPrincipalResolver

/-! ## What a token may make `verify` raise -/

/-- The errors that the request handler answers with 401. -/
def Exn.IsUnauthorized (e : Exn) : Prop :=
  e.IsAuthentication ∨ ∃ text, e = .principalResolutionError text

theorem Exn.isUnauthorized_text (text : String) :
    (Exn.jwtAuthenticationError text).IsUnauthorized := .inl ⟨text, rfl⟩

theorem unauthorized {α : Type} {x : Except Exn α} (h : x.RaisesOnly Exn.IsAuthentication) :
    x.RaisesOnly Exn.IsUnauthorized := h.mono fun _ => Or.inl

/-- `json.loads` raises something that is no decode error. -/
def LoadsFault (loads : JsonLoads) (bytes : Bytes) : Prop :=
  ∃ e, loads bytes = .error (some e) ∧ ¬ e.IsUnauthorized

theorem decodeJsonObject_raises {loads : JsonLoads} {value : String} (label : String)
    (h : ∀ bytes, base64urlDecode value = .ok bytes → ¬ LoadsFault loads bytes) :
    (decodeJsonObject loads value label).RaisesOnly Exn.IsUnauthorized := by
  refine (unauthorized (base64urlDecode_raises value)).bind fun bytes hbytes => ?_
  split
  · exact Except.raisesOnly_ok _
  · exact Except.raisesOnly_error (Exn.isUnauthorized_text _)
  · exact Except.raisesOnly_error (Exn.isUnauthorized_text _)
  · rename_i e hloads
    refine Except.raisesOnly_error ?_
    by_contra hfault
    exact h bytes hbytes ⟨e, hloads, hfault⟩

theorem decodeJsonObject_fault {loads : JsonLoads} {value : String} {bytes : Bytes}
    (label : String) (hbytes : base64urlDecode value = .ok bytes) (h : LoadsFault loads bytes) :
    ∃ e, decodeJsonObject loads value label = .error e ∧ ¬ e.IsUnauthorized := by
  obtain ⟨e, hloads, hfault⟩ := h
  refine ⟨e, ?_, hfault⟩
  unfold decodeJsonObject
  rw [hbytes, Except.ok_bind, hloads]

theorem decodeJsonObject_eq_ok {loads : JsonLoads} {value label : String}
    {members : List (String × Json)} :
    decodeJsonObject loads value label = .ok members ↔
      ∃ bytes, base64urlDecode value = .ok bytes ∧ loads bytes = .ok (.obj members) := by
  unfold decodeJsonObject
  rw [Except.bind_eq_ok]
  refine exists_congr fun bytes => and_congr_right fun _ => ?_
  rcases loads bytes with (_ | e) | (_ | _ | _ | _ | _ | _ | _) <;> simp

theorem splitCompactJwt_raises (token : String) :
    (splitCompactJwt token).RaisesOnly Exn.IsUnauthorized := by
  unfold splitCompactJwt
  split
  · exact (require_raises (Exn.isUnauthorized_text _)).bind fun _ _ => Except.raisesOnly_ok _
  · exact Except.raisesOnly_error (Exn.isUnauthorized_text _)

/-- The claims of a token whose issuer is a text are refused with authentication errors only: the
model strips texts that the readers have found to be more than whitespace. -/
theorem claimsOf_raises_of_issuer {issuer : String} {claimsData : List (String × Json)}
    (hissuer : Text.strip issuer ≠ "") :
    (DynamicOidcJwksVerifier.claimsOf issuer claimsData).RaisesOnly Exn.IsAuthentication := by
  refine (requiredText_raises _ _).bind fun subject hsubject => ?_
  refine (audienceClaim_raises _).bind fun audience _ => ?_
  refine (requiredText_raises _ _).bind fun tenantId htenantId => ?_
  refine (requiredIntClaim_raises _ _).bind fun expiresAtEpoch _ => ?_
  refine (optionalIntClaim_raises _ _).bind fun issuedAtEpoch _ => ?_
  refine (optionalIntClaim_raises _ _).bind fun notBeforeEpoch _ => ?_
  refine (optionalStringClaim_raises _ _).bind fun jwtId _ => ?_
  have hvalid : VerifiedJwtClaims.validate
      { issuer, subject, audience, tenantId, expiresAtEpoch, issuedAtEpoch, notBeforeEpoch,
        jwtId } = .ok (VerifiedJwtClaims.normalized
          { issuer, subject, audience, tenantId, expiresAtEpoch, issuedAtEpoch, notBeforeEpoch,
            jwtId }) := by
    refine accept_eq_ok.mpr ⟨?_, rfl⟩
    rw [List.append_eq_nil_iff, List.append_eq_nil_iff, requireNonEmpty_eq_nil,
      requireNonEmpty_eq_nil, requireNonEmpty_eq_nil]
    exact ⟨⟨hissuer, requiredText_notBlank hsubject⟩, requiredText_notBlank htenantId⟩
  rw [hvalid]
  exact Except.raisesOnly_ok _

theorem encodeAscii_of_isAscii {value : String} (h : Text.isAscii value = true) :
    encodeAscii value = .ok (Text.encodeUtf8 value) := by
  unfold encodeAscii
  rw [require_of _ h]
  rfl

namespace HmacJwtVerifier

variable {verifier : HmacJwtVerifier} {H : HashFunctions} {loads : JsonLoads} {nowEpoch : Int}

/-- A header that `json.loads` fails on, or whose `typ` is a list or a dictionary. -/
def FaultyHeader (loads : JsonLoads) (header : String) : Prop :=
  ∃ bytes, base64urlDecode header = .ok bytes ∧ (LoadsFault loads bytes ∨
    ∃ members, loads bytes = .ok (.obj members) ∧
      DynamicOidcJwksVerifier.isCollection (getMember members "typ") = true)

/-- The header is one of HS256, and the signature is that of the verifier's secret. -/
def Signed (verifier : HmacJwtVerifier) (H : HashFunctions) (loads : JsonLoads)
    (header payload signature : String) : Prop :=
  (∃ bytes members, base64urlDecode header = .ok bytes ∧ loads bytes = .ok (.obj members) ∧
    absentOr "JWT" (getMember members "typ") = .ok true ∧
    isText "HS256" (getMember members "alg") = true) ∧
  base64urlDecode signature =
    .ok (verifier.expectedSignature H (Text.encodeUtf8 (header ++ "." ++ payload)))

/-- The tokens that make `verify` raise something unexpected: those with a character outside
ASCII in the header or the payload, those with a faulty header, and signed ones with a payload
that `json.loads` fails on. -/
def Unexpected (verifier : HmacJwtVerifier) (H : HashFunctions) (loads : JsonLoads)
    (token : String) : Prop :=
  ∃ header payload signature, splitCompactJwt token = .ok (header, payload, signature) ∧
    (Text.isAscii (header ++ "." ++ payload) = false ∨ FaultyHeader loads header ∨
      verifier.Signed H loads header payload signature ∧
        ∃ bytes, base64urlDecode payload = .ok bytes ∧ LoadsFault loads bytes)

theorem validateRegisteredClaims_raises (claims : VerifiedJwtClaims) :
    (verifier.validateRegisteredClaims nowEpoch claims).RaisesOnly Exn.IsUnauthorized := by
  refine (require_raises (Exn.isUnauthorized_text _)).bind fun _ _ => ?_
  refine (require_raises (Exn.isUnauthorized_text _)).bind fun _ _ => ?_
  refine (require_raises (Exn.isUnauthorized_text _)).bind fun _ _ => ?_
  refine (require_raises (Exn.isUnauthorized_text _)).bind fun _ _ => ?_
  exact require_raises (Exn.isUnauthorized_text _)

/-- The end of `verify`: the claims of a token whose signature is right. -/
def acceptPayload (verifier : HmacJwtVerifier) (loads : JsonLoads) (nowEpoch : Int)
    (payload : String) : Except Exn VerifiedJwtClaims := do
  let claims ← decodeJsonObject loads payload "JWT claims"
  let issuer ← requiredStringClaim claims "iss"
  let verified ← DynamicOidcJwksVerifier.claimsOf issuer claims
  verifier.validateRegisteredClaims nowEpoch verified
  return verified

/-- `verify` from the decoded header on. -/
def acceptHeader (verifier : HmacJwtVerifier) (H : HashFunctions) (loads : JsonLoads)
    (nowEpoch : Int) (headerPayload : Bytes) (payload signature : String)
    (headerData : List (String × Json)) : Except Exn VerifiedJwtClaims := do
  let supported ← absentOr "JWT" (getMember headerData "typ")
  require (supported = true) (.jwtAuthenticationError "Unsupported JWT typ")
  require (isText "HS256" (getMember headerData "alg") = true)
    (.jwtAuthenticationError "Unsupported JWT alg")
  let decoded ← base64urlDecode signature
  require (decoded = verifier.expectedSignature H headerPayload)
    (.jwtAuthenticationError "JWT signature verification failed")
  verifier.acceptPayload loads nowEpoch payload

theorem verify_eq {token header payload signature : String}
    (h : splitCompactJwt token = .ok (header, payload, signature)) :
    verifier.verify H loads nowEpoch token = (encodeAscii (header ++ "." ++ payload) >>=
      fun headerPayload => decodeJsonObject loads header "JWT header" >>=
        verifier.acceptHeader H loads nowEpoch headerPayload payload signature) := by
  unfold verify
  rw [h]
  rfl

theorem acceptPayload_raises {payload : String}
    (h : ∀ bytes, base64urlDecode payload = .ok bytes → ¬ LoadsFault loads bytes) :
    (verifier.acceptPayload loads nowEpoch payload).RaisesOnly Exn.IsUnauthorized := by
  refine (decodeJsonObject_raises "JWT claims" h).bind fun claims _ => ?_
  refine (unauthorized (requiredText_raises _ _)).bind fun issuer hissuer => ?_
  refine (unauthorized (claimsOf_raises_of_issuer (requiredText_notBlank hissuer))).bind
    fun verified _ => ?_
  exact (validateRegisteredClaims_raises verified).bind fun _ _ => Except.raisesOnly_ok _

/-- Every other token is accepted, or refused with an authentication error. -/
theorem verify_raises {token : String} (h : ¬ verifier.Unexpected H loads token) :
    (verifier.verify H loads nowEpoch token).RaisesOnly Exn.IsUnauthorized := by
  intro e he
  cases hsplit : splitCompactJwt token with
  | error e' =>
    have hsame : verifier.verify H loads nowEpoch token = .error e' := by
      unfold verify
      rw [hsplit]
      rfl
    rw [hsame] at he
    cases he
    exact splitCompactJwt_raises token e hsplit
  | ok parts =>
    obtain ⟨header, payload, signature⟩ := parts
    rw [verify_eq hsplit] at he
    have hascii : Text.isAscii (header ++ "." ++ payload) = true := by
      by_contra hascii
      exact h ⟨header, payload, signature, hsplit, .inl (Bool.eq_false_iff.mpr hascii)⟩
    rw [encodeAscii_of_isAscii hascii, Except.ok_bind] at he
    have hheader : ¬ FaultyHeader loads header := fun hfaulty =>
      h ⟨header, payload, signature, hsplit, .inr (.inl hfaulty)⟩
    refine (decodeJsonObject_raises "JWT header" fun bytes hbytes hfault =>
      hheader ⟨bytes, hbytes, .inl hfault⟩).bind (fun headerData hdecoded => ?_) e he
    obtain ⟨bytes, hbytes, hloads⟩ := decodeJsonObject_eq_ok.mp hdecoded
    have htyp : DynamicOidcJwksVerifier.isCollection (getMember headerData "typ") = false := by
      rw [Bool.eq_false_iff]
      exact fun htyp => hheader ⟨bytes, hbytes, .inr ⟨headerData, hloads, htyp⟩⟩
    obtain ⟨supported, hsupported⟩ := @DynamicOidcJwksVerifier.absentOr_ok "JWT" _ htyp
    unfold acceptHeader
    rw [hsupported, Except.ok_bind]
    refine (require_raises (Exn.isUnauthorized_text _)).bind fun _ hrequired => ?_
    refine (require_raises (Exn.isUnauthorized_text _)).bind fun _ halg => ?_
    refine (unauthorized (base64urlDecode_raises _)).bind fun decoded hsignature => ?_
    refine (require_raises (Exn.isUnauthorized_text _)).bind fun _ hmatches => ?_
    rw [require_eq_ok] at hrequired halg hmatches
    -- the payload is decoded only here, so only now may `json.loads` fail on it
    refine acceptPayload_raises fun payloadBytes hpayload hfault => h ⟨header, payload, signature,
      hsplit, .inr (.inr ⟨⟨⟨bytes, headerData, hbytes, hloads, ?_, halg⟩, ?_⟩, payloadBytes,
        hpayload, hfault⟩)⟩
    · rw [hsupported, hrequired]
    · rw [hsignature, hmatches]

theorem not_isUnauthorized_typeError (text : String) : ¬ (Exn.typeError text).IsUnauthorized := by
  rintro (⟨_, h⟩ | ⟨_, h⟩) <;> cases h

theorem not_isUnauthorized_unicodeEncodeError : ¬ Exn.unicodeEncodeError.IsUnauthorized := by
  rintro (⟨_, h⟩ | ⟨_, h⟩) <;> cases h

theorem verify_unexpected {token : String} (h : verifier.Unexpected H loads token) :
    ∃ e, verifier.verify H loads nowEpoch token = .error e ∧ ¬ e.IsUnauthorized := by
  obtain ⟨header, payload, signature, hsplit, hcases⟩ := h
  rw [verify_eq hsplit]
  by_cases hascii : Text.isAscii (header ++ "." ++ payload) = true
  · rw [encodeAscii_of_isAscii hascii, Except.ok_bind]
    -- what fails outside the checks: the text, the header's fields, or the claims' bytes
    rcases hcases with hnot | ⟨bytes, hbytes, hfault | ⟨members, hloads, htyp⟩⟩ |
      ⟨⟨⟨bytes, members, hbytes, hloads, htyp, halg⟩, hsignature⟩, payloadBytes, hpayload, hfault⟩
    · rw [hnot] at hascii
      cases hascii
    · obtain ⟨e, he, hunexpected⟩ := decodeJsonObject_fault "JWT header" hbytes hfault
      exact ⟨e, by rw [he, Except.error_bind], hunexpected⟩
    · obtain ⟨text, htext⟩ := @DynamicOidcJwksVerifier.absentOr_collection "JWT" _ htyp
      refine ⟨_, ?_, not_isUnauthorized_typeError text⟩
      rw [decodeJsonObject_eq_ok.mpr ⟨bytes, hbytes, hloads⟩, Except.ok_bind]
      unfold acceptHeader
      rw [htext, Except.error_bind]
    · -- header and signature pass, and the claims are read after them
      obtain ⟨e, he, hunexpected⟩ := decodeJsonObject_fault "JWT claims" hpayload hfault
      refine ⟨e, ?_, hunexpected⟩
      rw [decodeJsonObject_eq_ok.mpr ⟨bytes, hbytes, hloads⟩, Except.ok_bind]
      unfold acceptHeader
      rw [htyp, Except.ok_bind, require_of _ rfl, Except.ok_bind, require_of _ halg,
        Except.ok_bind, hsignature, Except.ok_bind, require_of _ rfl, Except.ok_bind]
      unfold acceptPayload
      rw [he, Except.error_bind]
  · refine ⟨_, ?_, not_isUnauthorized_unicodeEncodeError⟩
    unfold encodeAscii
    rw [require_of_not _ hascii, Except.error_bind, Except.error_bind]

end HmacJwtVerifier

/-! ## What a header may make the resolver raise -/

namespace JwtPrincipalResolver

variable {resolver : JwtPrincipalResolver} {H : HashFunctions} {loads : JsonLoads}
  {nowEpoch : Int} {authorization : Option String}

theorem extractBearerToken_raises (authorization : Option String) :
    (extractBearerToken authorization).RaisesOnly Exn.IsUnauthorized := by
  cases authorization with
  | none => exact Except.raisesOnly_error (Exn.isUnauthorized_text _)
  | some authorization =>
    exact (require_raises (Exn.isUnauthorized_text _)).bind fun _ _ => Except.raisesOnly_ok _

theorem principalForClaims_raises (directory : InMemoryPrincipalDirectory)
    (claims : VerifiedJwtClaims) :
    (directory.principalForClaims claims).RaisesOnly Exn.IsUnauthorized := by
  unfold InMemoryPrincipalDirectory.principalForClaims
  split
  · exact Except.raisesOnly_ok _
  · exact Except.raisesOnly_error (.inr ⟨_, rfl⟩)

theorem tenantMembership_raises (principal : PrincipalRecord) (tenantId : String) :
    (InMemoryPrincipalDirectory.tenantMembership principal tenantId).RaisesOnly
      Exn.IsUnauthorized := by
  unfold InMemoryPrincipalDirectory.tenantMembership
  split
  · exact Except.raisesOnly_ok _
  · exact Except.raisesOnly_error (.inr ⟨_, rfl⟩)

/-- The request handler answers every header exactly if the resolver raises nothing but the two
errors that it catches. -/
theorem handler_answers_iff (repository : TenantPolicyRepository) :
    (∀ exn, resolver.getJwtTenantRequestContext H loads nowEpoch repository authorization ≠
        .error (.raised exn)) ↔
      (resolver.resolveAuthorizationHeader H loads nowEpoch authorization).RaisesOnly
        Exn.IsUnauthorized := by
  unfold getJwtTenantRequestContext
  constructor
  · intro hanswers e he
    rw [he] at hanswers
    -- of three answers only the last lets the error through
    split at hanswers
    · rename_i text hsame
      cases hsame
      exact Exn.isUnauthorized_text text
    · rename_i text hsame
      cases hsame
      exact .inr ⟨text, rfl⟩
    · exact absurd rfl (hanswers _)
    · rename_i hsame
      cases hsame
  · intro hraises exn
    split
    · simp
    · simp
    · rename_i e hjwt hprincipal he
      rcases hraises e he with ⟨text, rfl⟩ | ⟨text, rfl⟩
      · exact absurd rfl (hjwt text)
      · exact absurd rfl (hprincipal text)
    · split <;> simp

/-- **Bearer tokens.** For every header, the resolver returns a user or raises one of the two
errors that the request handler answers with 401, exactly if the token of the header, where it
has one, is none of the unexpected ones. -/
theorem bearer_errors_iff (resolver : JwtPrincipalResolver) (H : HashFunctions)
    (loads : JsonLoads) (nowEpoch : Int) (authorization : Option String) :
    (resolver.resolveAuthorizationHeader H loads nowEpoch authorization).RaisesOnly
        Exn.IsUnauthorized ↔
      ∀ token, extractBearerToken authorization = .ok token →
        ¬ resolver.verifier.Unexpected H loads token := by
  constructor
  · intro hraises token htoken hunexpected
    obtain ⟨e, he, hnot⟩ := @HmacJwtVerifier.verify_unexpected _ _ _ nowEpoch token hunexpected
    refine hnot (hraises e ?_)
    unfold resolveAuthorizationHeader
    rw [htoken, Except.ok_bind, he, Except.error_bind]
  · intro hexpected
    refine (extractBearerToken_raises authorization).bind fun token htoken => ?_
    refine (HmacJwtVerifier.verify_raises (hexpected token htoken)).bind fun claims _ => ?_
    refine (principalForClaims_raises _ claims).bind fun principal _ => ?_
    exact (tenantMembership_raises principal _).bind fun _ _ => Except.raisesOnly_ok _

/-! ## A sample header -/

open DynamicOidcJwksVerifier (sampleHash asciiLoads)

theorem sampleSecret_notBlank : Text.strip "secret" ≠ "" := by decide +kernel

/-- A resolver that knows nobody. -/
def sampleResolver : JwtPrincipalResolver where
  verifier := { issuer := "i", audience := "a", secret := "secret",
                secret_notBlank := sampleSecret_notBlank }
  directory := { principals := {}, objectAcls := [] }

/-- One letter outside ASCII in the header of a token is enough. -/
theorem unencodable_token_raises :
    ¬ (sampleResolver.resolveAuthorizationHeader sampleHash asciiLoads 0
      (some "Bearer é.b.c")).RaisesOnly Exn.IsUnauthorized := by
  have hraised : sampleResolver.resolveAuthorizationHeader sampleHash asciiLoads 0
      (some "Bearer é.b.c") = .error .unicodeEncodeError := by decide +kernel
  intro hraises
  exact HmacJwtVerifier.not_isUnauthorized_unicodeEncodeError (hraises _ hraised)

end JwtPrincipalResolver

end Collabio
