import Mathlib.Tactic
import Collabio.Library.Base64
import Collabio.Library.Dict
import Collabio.Library.Effect
import Collabio.Storage.ContentHash

/-!
# JSON web tokens

What a verifier reads from a token, the claims it makes of it, and the guard against
tokens that were used before. The JSON decoder is the standard library's and is a
parameter; a replay store is anything that offers the three calls of its protocol.
-/

namespace Collabio

/-! ## Claims -/

structure VerifiedJwtClaims where
  issuer         : String
  subject        : String
  audience       : List String := []
  tenantId       : String
  expiresAtEpoch : Int
  issuedAtEpoch  : Option Int := none
  notBeforeEpoch : Option Int := none
  jwtId          : Option String := none
  deriving DecidableEq, Repr

namespace VerifiedJwtClaims

def normalized (claims : VerifiedJwtClaims) : VerifiedJwtClaims :=
  { claims with
    issuer := Text.strip claims.issuer
    subject := Text.strip claims.subject
    tenantId := Text.strip claims.tenantId }

def validate (claims : VerifiedJwtClaims) : Except Exn VerifiedJwtClaims :=
  let claims := claims.normalized
  accept "VerifiedJwtClaims"
    (requireNonEmpty "issuer" claims.issuer ++ requireNonEmpty "subject" claims.subject ++
      requireNonEmpty "tenant_id" claims.tenantId) claims

end VerifiedJwtClaims

/-! ## Replays -/

/-- The protocol `JwtReplayStore`, over the states of a store. -/
structure JwtReplayStore (σ : Type) where
  contains             : (tenantId issuer jwtId : String) → (nowEpoch : Int) → Eff Exn σ Bool
  record               : (tenantId issuer subject jwtId : String) →
                           (expiresAtEpoch nowEpoch : Int) → Eff Exn σ Unit
  recordReplayDetected : (tenantId issuer subject jwtId : String) →
                           (expiresAtEpoch nowEpoch : Int) → Eff Exn σ Unit

/-- `JwtReplayGuard.require_not_replayed`. Tokens without an id are not guarded. -/
def JwtReplayStore.requireNotReplayed {σ : Type} (store : JwtReplayStore σ)
    (claims : VerifiedJwtClaims) (nowEpoch : Int) : Eff Exn σ Unit :=
  match claims.jwtId with
  | none => pure ()
  | some jwtId => do
    if ← store.contains claims.tenantId claims.issuer jwtId nowEpoch then
      store.recordReplayDetected claims.tenantId claims.issuer claims.subject jwtId
        claims.expiresAtEpoch nowEpoch
      Eff.raise (.jwtAuthenticationError "JWT replay detected")
    else
      store.record claims.tenantId claims.issuer claims.subject jwtId claims.expiresAtEpoch
        nowEpoch

/-- A call of `require_not_replayed` for a token that is guarded. -/
structure GuardedCall where
  claims   : VerifiedJwtClaims
  jwtId    : String
  nowEpoch : Int
  guarded  : claims.jwtId = some jwtId
  valid    : claims.validate = .ok claims

/-! ## Decoding -/

/-- `json.loads` of bytes: the value, `none` where it raises a decode error of JSON or
Unicode, or whatever else it raises. -/
abbrev JsonLoads := Bytes → Except (Option Exn) Json

/-- `dict.get` on the members of an object, where the last of two equal keys counts. -/
def getMember (members : List (String × Json)) (name : String) : Option Json :=
  (members.reverse.find? (·.1 == name)).map Prod.snd

/-- The member is this text. -/
def isText (expected : String) : Option Json → Bool
  | some (.str value) => value == expected
  | _ => false

/-- `_base64url_decode`; the decoder takes texts in ASCII only. -/
def base64urlDecode (value : String) : Except Exn Bytes :=
  let padding := List.replicate ((4 - value.toList.length % 4) % 4) '='
  let standard := (value.toList ++ padding).map fun c =>
    if c = '-' then '+' else if c = '_' then '/' else c
  match if Text.isAscii value then Base64.decode standard else none with
  | some decoded => .ok decoded
  | none => .error (.jwtAuthenticationError "Invalid base64url JWT value")

/-- `int.from_bytes(bytes, "big")`. -/
def bytesToNat (bytes : Bytes) : Nat := bytes.foldl (fun n b => n * 256 + b.toNat) 0

/-- `n.to_bytes(length, "big")`. -/
def natToBytes : (length n : Nat) → Bytes
  | 0, _ => []
  | length + 1, n => natToBytes length (n / 256) ++ [UInt8.ofNat n]

def base64urlUint (value : String) : Except Exn Nat := do
  let decoded ← base64urlDecode value
  require (decoded ≠ []) (.jwtAuthenticationError "Invalid empty JWKS integer")
  return bytesToNat decoded

def splitCompactJwt (token : String) : Except Exn (String × String × String) :=
  match token.toList.splitOn '.' with
  | [header, payload, signature] => do
    require (header ≠ [] ∧ payload ≠ [] ∧ signature ≠ [])
      (.jwtAuthenticationError "JWT must use compact serialization")
    return (String.ofList header, String.ofList payload, String.ofList signature)
  | _ => .error (.jwtAuthenticationError "JWT must use compact serialization")

def decodeJsonObject (loads : JsonLoads) (value label : String) :
    Except Exn (List (String × Json)) := do
  let bytes ← base64urlDecode value
  match loads bytes with
  | .ok (.obj members) => .ok members
  | .ok _ => .error (.jwtAuthenticationError (label ++ " must be a JSON object"))
  | .error none => .error (.jwtAuthenticationError ("Invalid " ++ label))
  | .error (some exn) => .error exn

/-- A text that is more than whitespace. -/
def requiredText (text : String) : Option Json → Except Exn String
  | some (.str value) => do
    require (Text.strip value ≠ "") (.jwtAuthenticationError text)
    return value
  | _ => .error (.jwtAuthenticationError text)

def requiredHeaderString (header : List (String × Json)) (name : String) : Except Exn String :=
  requiredText ("JWT header " ++ name ++ " is required") (getMember header name)

def requiredStringClaim (claims : List (String × Json)) (name : String) : Except Exn String :=
  requiredText ("JWT claim " ++ name ++ " is required") (getMember claims name)

def optionalStringClaim (claims : List (String × Json)) (name : String) :
    Except Exn (Option String) :=
  match getMember claims name with
  | none | some .null => .ok none
  | some value => do
    return some (← requiredText ("JWT claim " ++ name ++ " must be a string") (some value))

/-- `isinstance(value, int)`, to which truth values belong. -/
def asInt : Json → Option Int
  | .int n => some n
  | .bool b => some (if b then 1 else 0)
  | _ => none

def requiredIntClaim (claims : List (String × Json)) (name : String) : Except Exn Int :=
  match (getMember claims name).bind asInt with
  | some n => .ok n
  | none => .error (.jwtAuthenticationError ("JWT claim " ++ name ++ " is required"))

def optionalIntClaim (claims : List (String × Json)) (name : String) : Except Exn (Option Int) :=
  match getMember claims name with
  | none | some .null => .ok none
  | some value =>
    match asInt value with
    | some n => .ok (some n)
    | none => .error (.jwtAuthenticationError ("JWT claim " ++ name ++ " must be an integer"))

/-- The text of one entry of an audience list. -/
def audienceItem : Json → Option String
  | .str item => if Text.strip item ≠ "" then some item else none
  | _ => none

def audienceClaim (claims : List (String × Json)) : Except Exn (List String) :=
  let missing := Exn.jwtAuthenticationError "JWT claim aud is required"
  match getMember claims "aud" with
  | some (.str value) => .ok [value]
  | some (.arr items) =>
    match items.mapM audienceItem with
    | some audience => .ok audience
    | none => .error missing
  | _ => .error missing

/-! ## Signatures -/

structure JwksRs256Key where
  keyId    : String
  issuer   : String
  modulus  : Nat
  exponent : Nat
  deriving DecidableEq, Repr

def JwksRs256Key.validate (key : JwksRs256Key) : Except Exn JwksRs256Key :=
  let positive (field : String) (value : Nat) : List FieldError :=
    if 0 < value then [] else [⟨field, .message "Input should be greater than 0"⟩]
  accept "JwksRs256Key" (positive "modulus" key.modulus ++ positive "exponent" key.exponent) key

/-- `OIDC_RS256_DIGEST_INFO_PREFIX`. -/
def oidcRs256DigestInfoPrefix : Bytes :=
  [0x30, 0x31, 0x30, 0x0d, 0x06, 0x09, 0x60, 0x86, 0x48, 0x01, 0x65, 0x03, 0x04, 0x02, 0x01, 0x05,
    0x00, 0x04, 0x20]

def pkcs1V15DigestInfoMatches (encodedMessage expectedDigestInfo : Bytes) : Bool :=
  if encodedMessage.length < 3 + 8 + expectedDigestInfo.length then false
  else
    match encodedMessage with
    | 0x00 :: 0x01 :: rest =>
      let padding := rest.takeWhile (· != 0)
      match rest.dropWhile (· != 0) with
      | [] => false
      | _ :: digestInfo =>
        8 ≤ padding.length && padding.all (· == 0xFF) && digestInfo == expectedDigestInfo
    | _ => false

/-- `n.bit_length()`. -/
def bitLength (n : Nat) : Nat := if n = 0 then 0 else n.log2 + 1

def verifyRs256Signature (H : HashFunctions) (key : JwksRs256Key) (signingInput signature : Bytes) :
    Bool :=
  let modulusLength := (bitLength key.modulus + 7) / 8
  if signature.length ≠ modulusLength then false
  else
    let message := bytesToNat signature ^ key.exponent % key.modulus
    pkcs1V15DigestInfoMatches (natToBytes modulusLength message)
      (oidcRs256DigestInfoPrefix ++ H.sha256 signingInput)

end Collabio
