import Mathlib.Tactic
import Collabio.Library.EffectLaws
import Collabio.Platform.OidcRuns

/-!
# Refreshes that fail

A refresh of an issuer's keys is tried when they are due. If it fails with an authentication
error, `_handle_refresh_failure` lets the old keys serve for the grace time; whatever else the
documents make it raise goes to the caller of `verify`.

* `addJwksKey_unhandled`, `addJwksKey_handled` — the keys that raise something else;
* `fetchedKeys_handled`, `fetchedKeys_unhandled` — the documents that do;
* `refresh_failure_iff` — when a failed refresh leaves the tokens of cached keys as they were.
-/

namespace Collabio

/-- `JwtAuthenticationError`. -/
def Exn.IsAuthentication (e : Exn) : Prop := ∃ text, e = .jwtAuthenticationError text

/-- What a refresh raises otherwise: the errors of its models, and of a lookup in a set. -/
def Exn.IsDocumentFault (e : Exn) : Prop :=
  (∃ text, e = .typeError text) ∨ (∃ errors, e = .validationError "OidcDiscoveryDocument" errors) ∨
    ∃ errors, e = .validationError "JwksRs256Key" errors

/-- What a token itself makes `verify` raise. -/
def Exn.IsOfToken (e : Exn) : Prop := e.IsAuthentication ∨
  ∃ errors, e = .validationError "VerifiedJwtClaims" errors

theorem Exn.IsDocumentFault.not_isOfToken {e : Exn} (h : e.IsDocumentFault) : ¬ e.IsOfToken := by
  rintro (⟨text, rfl⟩ | ⟨errors, rfl⟩)
  · rcases h with ⟨_, h⟩ | ⟨_, h⟩ | ⟨_, h⟩ <;> cases h
  · rcases h with ⟨_, h⟩ | ⟨_, h⟩ | ⟨_, h⟩ <;> simp at h

theorem Exn.isAuthentication_text (text : String) :
    (Exn.jwtAuthenticationError text).IsAuthentication := ⟨text, rfl⟩

theorem require_raises {P : Exn → Prop} {condition : Prop} [Decidable condition] {exn : Exn}
    (h : P exn) : (require condition exn).RaisesOnly P := by
  unfold require
  split
  · exact Except.raisesOnly_ok _
  · exact Except.raisesOnly_error h

theorem base64urlDecode_raises (value : String) :
    (base64urlDecode value).RaisesOnly Exn.IsAuthentication := by
  unfold base64urlDecode
  dsimp only
  split
  · exact Except.raisesOnly_ok _
  · exact Except.raisesOnly_error (Exn.isAuthentication_text _)

theorem base64urlUint_raises (value : String) :
    (base64urlUint value).RaisesOnly Exn.IsAuthentication := by
  refine (base64urlDecode_raises value).bind fun _ _ => ?_
  exact (require_raises (Exn.isAuthentication_text _)).bind fun _ _ => Except.raisesOnly_ok _

theorem requiredText_raises (text : String) (value : Option Json) :
    (requiredText text value).RaisesOnly Exn.IsAuthentication := by
  unfold requiredText
  split
  · exact (require_raises (Exn.isAuthentication_text _)).bind fun _ _ => Except.raisesOnly_ok _
  · exact Except.raisesOnly_error (Exn.isAuthentication_text _)

/-- A text that the readers of a token let through is more than whitespace. -/
theorem requiredText_notBlank {text : String} {value : Option Json} {found : String}
    (h : requiredText text value = .ok found) : Text.strip found ≠ "" := by
  unfold requiredText at h
  split at h
  · rw [require_bind_eq_ok] at h
    obtain ⟨hnotBlank, hfound⟩ := h
    cases hfound
    exact hnotBlank
  · cases h

section

variable (claims : List (String × Json)) (name : String)

theorem audienceClaim_raises : (audienceClaim claims).RaisesOnly Exn.IsAuthentication := by
  unfold audienceClaim
  dsimp only
  split
  · exact Except.raisesOnly_ok _
  · split
    · exact Except.raisesOnly_ok _
    · exact Except.raisesOnly_error (Exn.isAuthentication_text _)
  · exact Except.raisesOnly_error (Exn.isAuthentication_text _)

theorem requiredIntClaim_raises :
    (requiredIntClaim claims name).RaisesOnly Exn.IsAuthentication := by
  unfold requiredIntClaim
  split
  · exact Except.raisesOnly_ok _
  · exact Except.raisesOnly_error (Exn.isAuthentication_text _)

theorem optionalIntClaim_raises :
    (optionalIntClaim claims name).RaisesOnly Exn.IsAuthentication := by
  unfold optionalIntClaim
  split
  · exact Except.raisesOnly_ok _
  · exact Except.raisesOnly_ok _
  · split
    · exact Except.raisesOnly_ok _
    · exact Except.raisesOnly_error (Exn.isAuthentication_text _)

theorem optionalStringClaim_raises :
    (optionalStringClaim claims name).RaisesOnly Exn.IsAuthentication := by
  unfold optionalStringClaim
  split
  · exact Except.raisesOnly_ok _
  · exact Except.raisesOnly_ok _
  · exact (requiredText_raises _ _).bind fun _ _ => Except.raisesOnly_ok _

end

namespace DynamicOidcJwksVerifier

/-! ## Keys that raise something else -/

/-- Lists and dictionaries have no hash. -/
def isCollection : Option Json → Bool
  | some (.arr _) | some (.obj _) => true
  | _ => false

/-- The integers of the key can be read, and one of them is zero. -/
def ZeroKey (members : List (String × Json)) : Prop :=
  ∃ keyId modulusValue exponentValue modulus exponent,
    requiredHeaderString members "kid" = .ok keyId ∧
    requiredHeaderString members "n" = .ok modulusValue ∧
    requiredHeaderString members "e" = .ok exponentValue ∧
    base64urlUint modulusValue = .ok modulus ∧ base64urlUint exponentValue = .ok exponent ∧
    (modulus = 0 ∨ exponent = 0)

/-- An RSA key whose `alg` or, if that is right, `use` is a list or a dictionary, or a signing
key with a modulus or an exponent of zero. -/
def UnhandledKey (rawKey : Json) : Prop :=
  ∃ members, rawKey = .obj members ∧ isText "RSA" (getMember members "kty") = true ∧
    (isCollection (getMember members "alg") = true ∨
      absentOr "RS256" (getMember members "alg") = .ok true ∧
        (isCollection (getMember members "use") = true ∨
          absentOr "sig" (getMember members "use") = .ok true ∧ ZeroKey members))

theorem absentOr_collection {expected : String} {value : Option Json}
    (h : isCollection value = true) : ∃ text, absentOr expected value = .error (.typeError text) := by
  unfold isCollection at h
  split at h
  · exact ⟨_, rfl⟩
  · exact ⟨_, rfl⟩
  · cases h

theorem absentOr_ok {expected : String} {value : Option Json} (h : isCollection value = false) :
    ∃ found, absentOr expected value = .ok found := by
  unfold absentOr
  split
  · exact ⟨_, rfl⟩
  · exact ⟨_, rfl⟩
  · exact ⟨_, rfl⟩
  · cases h
  · cases h
  · exact ⟨_, rfl⟩

theorem keyValidate_zero {key : JwksRs256Key} (h : key.modulus = 0 ∨ key.exponent = 0) :
    ∃ errors, key.validate = .error (.validationError "JwksRs256Key" errors) := by
  unfold JwksRs256Key.validate accept
  dsimp only
  refine ⟨_, if_neg ?_⟩
  rcases h with h | h
  · simp [h]
  · simp [h]

theorem keyValidate_positive {key : JwksRs256Key} (h : ¬ (key.modulus = 0 ∨ key.exponent = 0)) :
    key.validate = .ok key := by
  rw [not_or] at h
  refine accept_eq_ok.mpr ⟨?_, rfl⟩
  simp [Nat.pos_of_ne_zero h.1, Nat.pos_of_ne_zero h.2]

/-- The end of a turn, once the key is one to be read. -/
def readJwksKey (issuer : String) (keys : JwksKeyIndex) (members : List (String × Json)) :
    Except Exn JwksKeyIndex := do
  let keyId ← requiredHeaderString members "kid"
  let modulusValue ← requiredHeaderString members "n"
  let exponentValue ← requiredHeaderString members "e"
  let modulus ← base64urlUint modulusValue
  let exponent ← base64urlUint exponentValue
  let key ← JwksRs256Key.validate ⟨keyId, issuer, modulus, exponent⟩
  require (keys.contains (issuer, key.keyId) = false)
    (.jwtAuthenticationError "Duplicate JWKS key id for issuer")
  return keys.set (issuer, key.keyId) key

theorem addJwksKey_eq {issuer : String} {keys : JwksKeyIndex} {members : List (String × Json)}
    (hkty : isText "RSA" (getMember members "kty") = true) :
    addJwksKey issuer keys (.obj members) = (absentOr "RS256" (getMember members "alg") >>=
      fun algorithm => if algorithm = false then .ok keys else
        absentOr "sig" (getMember members "use") >>= fun use =>
          if use = false then .ok keys else readJwksKey issuer keys members) := by
  unfold addJwksKey
  dsimp only
  rw [hkty, if_neg (by decide)]
  rfl

theorem readJwksKey_zero {issuer : String} {keys : JwksKeyIndex} {members : List (String × Json)}
    (h : ZeroKey members) :
    ∃ errors, readJwksKey issuer keys members =
      .error (.validationError "JwksRs256Key" errors) := by
  obtain ⟨keyId, modulusValue, exponentValue, modulus, exponent, hkid, hn, he, hmodulus,
    hexponent, hzero⟩ := h
  obtain ⟨errors, herrors⟩ := @keyValidate_zero ⟨keyId, issuer, modulus, exponent⟩ hzero
  refine ⟨errors, ?_⟩
  unfold readJwksKey
  rw [hkid, Except.ok_bind, hn, Except.ok_bind, he, Except.ok_bind, hmodulus, Except.ok_bind,
    hexponent, Except.ok_bind, herrors, Except.error_bind]

theorem readJwksKey_raises {issuer : String} {keys : JwksKeyIndex}
    {members : List (String × Json)} (h : ¬ ZeroKey members) :
    (readJwksKey issuer keys members).RaisesOnly Exn.IsAuthentication := by
  refine (requiredText_raises _ _).bind fun keyId hkid => ?_
  refine (requiredText_raises _ _).bind fun modulusValue hn => ?_
  refine (requiredText_raises _ _).bind fun exponentValue he => ?_
  refine (base64urlUint_raises _).bind fun modulus hmodulus => ?_
  refine (base64urlUint_raises _).bind fun exponent hexponent => ?_
  have hpositive : ¬ (modulus = 0 ∨ exponent = 0) := fun hzero =>
    h ⟨keyId, modulusValue, exponentValue, modulus, exponent, hkid, hn, he, hmodulus, hexponent,
      hzero⟩
  rw [@keyValidate_positive ⟨keyId, issuer, modulus, exponent⟩ hpositive, Except.ok_bind]
  exact (require_raises (Exn.isAuthentication_text _)).bind fun _ _ => Except.raisesOnly_ok _

theorem addJwksKey_unhandled {issuer : String} {keys : JwksKeyIndex} {rawKey : Json}
    (h : UnhandledKey rawKey) :
    ∃ e, addJwksKey issuer keys rawKey = .error e ∧ e.IsDocumentFault := by
  obtain ⟨members, rfl, hkty, hrest⟩ := h
  rw [addJwksKey_eq hkty]
  rcases hrest with halg | ⟨halg, huse | ⟨huse, hzero⟩⟩
  · obtain ⟨text, htext⟩ := @absentOr_collection "RS256" _ halg
    rw [htext]
    exact ⟨_, rfl, .inl ⟨text, rfl⟩⟩
  · obtain ⟨text, htext⟩ := @absentOr_collection "sig" _ huse
    rw [halg, Except.ok_bind, if_neg (by decide), htext]
    exact ⟨_, rfl, .inl ⟨text, rfl⟩⟩
  · obtain ⟨errors, herrors⟩ := @readJwksKey_zero issuer keys members hzero
    rw [halg, Except.ok_bind, if_neg (by decide), huse, Except.ok_bind, if_neg (by decide),
      herrors]
    exact ⟨_, rfl, .inr (.inr ⟨errors, rfl⟩)⟩

/-- Every other key is passed over, added, or refused with an authentication error. -/
theorem addJwksKey_handled {issuer : String} {keys : JwksKeyIndex} {rawKey : Json}
    (h : ¬ UnhandledKey rawKey) :
    (addJwksKey issuer keys rawKey).RaisesOnly Exn.IsAuthentication := by
  cases rawKey with
  | obj members =>
    -- a key of another type is passed over
    by_cases hkty : isText "RSA" (getMember members "kty") = true
    · rw [addJwksKey_eq hkty]
      have halg : isCollection (getMember members "alg") = false := by
        rw [Bool.eq_false_iff]
        exact fun halg => h ⟨members, rfl, hkty, .inl halg⟩
      obtain ⟨algorithm, halgorithm⟩ := @absentOr_ok "RS256" _ halg
      -- one for another algorithm, or another use, is passed over too
      rw [halgorithm, Except.ok_bind]
      cases algorithm with
      | false => exact Except.raisesOnly_ok _
      | true =>
        rw [if_neg (by decide)]
        have huse : isCollection (getMember members "use") = false := by
          rw [Bool.eq_false_iff]
          exact fun huse => h ⟨members, rfl, hkty, .inr ⟨halgorithm, .inl huse⟩⟩
        obtain ⟨use, huse'⟩ := @absentOr_ok "sig" _ huse
        rw [huse', Except.ok_bind]
        cases use with
        | false => exact Except.raisesOnly_ok _
        | true =>
          rw [if_neg (by decide)]
          exact readJwksKey_raises fun hzero =>
            h ⟨members, rfl, hkty, .inr ⟨halgorithm, .inr ⟨huse', hzero⟩⟩⟩
    · unfold addJwksKey
      dsimp only
      rw [if_pos (Bool.eq_false_iff.mpr hkty)]
      exact Except.raisesOnly_ok _
  | _ => exact Except.raisesOnly_error (Exn.isAuthentication_text _)

/-- The loop over the keys comes to one that raises something else. -/
def StopsUnhandled (issuer : String) (keys : JwksKeyIndex) (rawKeys : List Json) : Prop :=
  ∃ before rawKey after, rawKeys = before ++ rawKey :: after ∧
    (∃ keys', before.foldlM (addJwksKey issuer) keys = .ok keys') ∧ UnhandledKey rawKey

theorem foldlM_unhandled {issuer : String} {keys : JwksKeyIndex} {rawKeys : List Json}
    (h : StopsUnhandled issuer keys rawKeys) :
    ∃ e, rawKeys.foldlM (addJwksKey issuer) keys = .error e ∧ e.IsDocumentFault := by
  obtain ⟨before, rawKey, after, rfl, ⟨keys', hbefore⟩, hunhandled⟩ := h
  obtain ⟨e, he, hfault⟩ := @addJwksKey_unhandled issuer keys' rawKey hunhandled
  refine ⟨e, ?_, hfault⟩
  rw [List.foldlM_append, hbefore, Except.ok_bind, List.foldlM_cons, he, Except.error_bind]

theorem foldlM_handled {issuer : String} {keys : JwksKeyIndex} {rawKeys : List Json}
    (h : ¬ StopsUnhandled issuer keys rawKeys) :
    (rawKeys.foldlM (addJwksKey issuer) keys).RaisesOnly Exn.IsAuthentication := by
  induction rawKeys generalizing keys with
  | nil => exact Except.raisesOnly_ok _
  | cons rawKey rawKeys ih =>
    rw [List.foldlM_cons]
    have hfirst : ¬ UnhandledKey rawKey := fun hunhandled =>
      h ⟨[], rawKey, rawKeys, rfl, ⟨keys, rfl⟩, hunhandled⟩
    refine (addJwksKey_handled hfirst).bind fun keys' hadded => ih fun hlater => ?_
    obtain ⟨before, later, after, rfl, ⟨keys'', hbefore⟩, hunhandled⟩ := hlater
    refine h ⟨rawKey :: before, later, after, rfl, ⟨keys'', ?_⟩, hunhandled⟩
    rw [List.foldlM_cons, hadded, Except.ok_bind, hbefore]

/-! ## Documents that raise something else -/

/-- What a fetcher answers: an object, or that it has failed. -/
inductive FetchAnswer : Except Exn Json → Prop
  | object (members : List (String × Json)) : FetchAnswer (.ok (.obj members))
  | failed (text : String) : FetchAnswer (.error (.jwtAuthenticationError text))

/-- The keys of a refresh that begins with the fetch of a number. -/
def fetchedKeys (world : OidcSurroundings) (config : OidcDiscoveryIssuerConfig) (n : Nat) :
    Except Exn JwksKeyIndex := do
  let document ← world.fetchJson n config.discoveryUrl
  let discovery ← OidcDiscoveryDocument.modelValidate document
  require (discovery.issuer = config.issuer)
    (.jwtAuthenticationError "OIDC discovery issuer mismatch")
  require (discovery.idTokenSigningAlgValuesSupported = [] ∨
      "RS256" ∈ discovery.idTokenSigningAlgValuesSupported)
    (.jwtAuthenticationError "OIDC discovery does not advertise RS256")
  let jwks ← world.fetchJson (n + 1) discovery.jwksUri
  let keyIndex ← buildRs256JwksKeyIndex config.issuer jwks
  require (keyIndex.items ≠ [])
    (.jwtAuthenticationError "OIDC JWKS refresh returned no RS256 signing keys")
  return keyIndex

/-- The discovery document, if it comes, is one of its model; and if it is that of the issuer
and of a set of keys that come, none of these raises anything but an authentication error. -/
def FailureHandled (world : OidcSurroundings) (config : OidcDiscoveryIssuerConfig) (n : Nat) :
    Prop :=
  ∀ document, world.fetchJson n config.discoveryUrl = .ok document →
    ∃ discovery, OidcDiscoveryDocument.modelValidate document = .ok discovery ∧
      (discovery.issuer = config.issuer →
        discovery.idTokenSigningAlgValuesSupported = [] ∨
          "RS256" ∈ discovery.idTokenSigningAlgValuesSupported →
        ∀ members rawKeys, world.fetchJson (n + 1) discovery.jwksUri = .ok (.obj members) →
          getMember members "keys" = some (.arr rawKeys) →
            ¬ StopsUnhandled config.issuer ∅ rawKeys)

theorem modelValidate_error {members : List (String × Json)} {e : Exn}
    (h : OidcDiscoveryDocument.modelValidate (.obj members) = .error e) : e.IsDocumentFault := by
  unfold OidcDiscoveryDocument.modelValidate at h
  dsimp only at h
  split at h
  · cases h
  · cases h
    exact .inr (.inl ⟨_, rfl⟩)

theorem answer_raises {answer : Except Exn Json} (h : FetchAnswer answer) :
    answer.RaisesOnly Exn.IsAuthentication := by
  cases h with
  | object members => exact Except.raisesOnly_ok _
  | failed text => exact Except.raisesOnly_error (Exn.isAuthentication_text _)

variable {world : OidcSurroundings} {config : OidcDiscoveryIssuerConfig} {n : Nat}

theorem fetchedKeys_handled (hanswers : ∀ n url, FetchAnswer (world.fetchJson n url))
    (h : FailureHandled world config n) :
    (fetchedKeys world config n).RaisesOnly Exn.IsAuthentication := by
  refine (answer_raises (hanswers _ _)).bind fun document hdocument => ?_
  obtain ⟨discovery, hdiscovery, hkeys⟩ := h document hdocument
  rw [hdiscovery, Except.ok_bind]
  refine (require_raises (Exn.isAuthentication_text _)).bind fun _ hissuer => ?_
  refine (require_raises (Exn.isAuthentication_text _)).bind fun _ halgorithm => ?_
  refine (answer_raises (hanswers _ _)).bind fun jwks hjwks => ?_
  have hbuild : (buildRs256JwksKeyIndex config.issuer jwks).RaisesOnly Exn.IsAuthentication := by
    have hobject := hanswers (n + 1) discovery.jwksUri
    rw [hjwks] at hobject
    cases hobject with
    | object members =>
      unfold buildRs256JwksKeyIndex
      dsimp only
      split
      · rename_i rawKeys hrawKeys
        exact foldlM_handled (hkeys (require_eq_ok.mp hissuer) (require_eq_ok.mp halgorithm)
          members rawKeys hjwks hrawKeys)
      · exact Except.raisesOnly_error (Exn.isAuthentication_text _)
  refine hbuild.bind fun keyIndex _ => ?_
  exact (require_raises (Exn.isAuthentication_text _)).bind fun _ _ => Except.raisesOnly_ok _

theorem fetchedKeys_unhandled (hanswers : ∀ n url, FetchAnswer (world.fetchJson n url))
    (h : ¬ FailureHandled world config n) :
    ∃ e, fetchedKeys world config n = .error e ∧ e.IsDocumentFault := by
  unfold FailureHandled at h
  push Not at h
  obtain ⟨document, hdocument, hbad⟩ := h
  unfold fetchedKeys
  rw [hdocument, Except.ok_bind]
  have hobject := hanswers n config.discoveryUrl
  rw [hdocument] at hobject
  cases hobject with
  | object members =>
    cases hvalid : OidcDiscoveryDocument.modelValidate (.obj members) with
    | error e => exact ⟨e, rfl, modelValidate_error hvalid⟩
    | ok discovery =>
      -- the document itself is valid, so it is the key set that stops the loop
      obtain ⟨hissuer, halgorithm, jwks, rawKeys, hjwks, hrawKeys, hstops⟩ := hbad discovery hvalid
      obtain ⟨e, he, hfault⟩ := foldlM_unhandled hstops
      refine ⟨e, ?_, hfault⟩
      rw [Except.ok_bind, require_of _ hissuer, Except.ok_bind, require_of _ halgorithm,
        Except.ok_bind, hjwks, Except.ok_bind]
      have hbuild : buildRs256JwksKeyIndex config.issuer (.obj jwks) = .error e := by
        unfold buildRs256JwksKeyIndex
        dsimp only
        rw [hrawKeys]
        exact he
      rw [hbuild, Except.error_bind]

/-! ## The rest of a verification -/

variable {σ : Type} {verifier : DynamicOidcJwksVerifier σ} {H : HashFunctions} {loads : JsonLoads}

/-- The states look the same after the choice of a key. -/
structure SameView (s t : OidcState σ) : Prop where
  readings : s.readings = t.readings
  replays  : s.replays = t.replays

theorem respects_readClock : (readClock world : Eff Exn (OidcState σ) Int).Respects SameView := by
  intro s t h
  refine ⟨?_, congrArg (· + 1) h.readings, h.replays⟩
  show Except.ok (world.nowEpoch s.readings) = Except.ok (world.nowEpoch t.readings)
  rw [h.readings]

theorem respects_onReplays {α : Type} (x : Eff Exn σ α) :
    (onReplays x : Eff Exn (OidcState σ) α).Respects SameView := by
  intro s t h
  show (x s.replays).1 = (x t.replays).1 ∧ SameView _ _
  rw [h.replays]
  exact ⟨rfl, h.readings, congrArg (fun replays => (x replays).2) h.replays⟩

theorem respects_validateRegisteredClaims (claims : VerifiedJwtClaims) :
    (verifier.validateRegisteredClaims world claims).Respects SameView := by
  refine respects_readClock.bind fun now => ?_
  dsimp only
  split
  · exact Eff.respects_raise _
  · refine (Eff.respects_lift _).bind fun _ => ?_
    refine (Eff.respects_lift _).bind fun _ => ?_
    exact (Eff.respects_lift _).bind fun _ => Eff.respects_lift _

theorem respects_acceptWith (parsed : ParsedToken) (key : JwksRs256Key) :
    (acceptWith world verifier H parsed key).Respects SameView := by
  refine (Eff.respects_lift _).bind fun _ => ?_
  refine (Eff.respects_lift _).bind fun _ => ?_
  refine (Eff.respects_lift _).bind fun claims => ?_
  refine (respects_validateRegisteredClaims claims).bind fun _ => ?_
  refine respects_readClock.bind fun now => ?_
  exact (respects_onReplays _).bind fun _ => Eff.respects_pure _


/-! ## What the rest raises -/

/-- A replay store that remembers nothing and raises nothing. -/
def forgetfulStore : JwtReplayStore σ where
  contains _ _ _ _ := pure false
  record _ _ _ _ _ _ := pure ()
  recordReplayDetected _ _ _ _ _ _ := pure ()

/-- The verifier with another replay store. -/
def guardedBy (verifier : DynamicOidcJwksVerifier σ) (store : JwtReplayStore σ) :
    DynamicOidcJwksVerifier σ :=
  { verifier with replayStore := store }

theorem requireNotReplayed_forgetful {P : Exn → Prop} (claims : VerifiedJwtClaims)
    (nowEpoch : Int) :
    ((forgetfulStore : JwtReplayStore σ).requireNotReplayed claims nowEpoch).RaisesOnly P := by
  unfold JwtReplayStore.requireNotReplayed
  split
  · exact Eff.raisesOnly_pure _
  · exact fun _ => Except.raisesOnly_ok _

theorem claimsOf_raises (issuer : String) (claimsData : List (String × Json)) :
    (claimsOf issuer claimsData).RaisesOnly Exn.IsOfToken := by
  have hleft : ∀ {α : Type} {x : Except Exn α}, x.RaisesOnly Exn.IsAuthentication →
      x.RaisesOnly Exn.IsOfToken := fun h => h.mono fun _ => Or.inl
  refine (hleft (requiredText_raises _ _)).bind fun subject _ => ?_
  refine (hleft (audienceClaim_raises _)).bind fun audience _ => ?_
  refine (hleft (requiredText_raises _ _)).bind fun tenantId _ => ?_
  refine (hleft (requiredIntClaim_raises _ _)).bind fun expiresAtEpoch _ => ?_
  refine (hleft (optionalIntClaim_raises _ _)).bind fun issuedAtEpoch _ => ?_
  refine (hleft (optionalIntClaim_raises _ _)).bind fun notBeforeEpoch _ => ?_
  refine (hleft (optionalStringClaim_raises _ _)).bind fun jwtId _ => ?_
  unfold VerifiedJwtClaims.validate accept
  dsimp only
  split
  · exact Except.raisesOnly_ok _
  · exact Except.raisesOnly_error (.inr ⟨_, rfl⟩)

theorem validateRegisteredClaims_raises (claims : VerifiedJwtClaims) :
    (verifier.validateRegisteredClaims world claims).RaisesOnly Exn.IsOfToken := by
  have hauth : ∀ text, (Exn.jwtAuthenticationError text).IsOfToken :=
    fun text => Or.inl (Exn.isAuthentication_text text)
  have hclock : (readClock world : Eff Exn (OidcState σ) Int).RaisesOnly Exn.IsOfToken :=
    fun _ => Except.raisesOnly_ok _
  refine hclock.bind fun now => ?_
  dsimp only
  split
  · exact Eff.raisesOnly_raise (hauth _)
  · refine (Eff.raisesOnly_lift (require_raises (hauth _))).bind fun _ => ?_
    refine (Eff.raisesOnly_lift (require_raises (hauth _))).bind fun _ => ?_
    refine (Eff.raisesOnly_lift (require_raises (hauth _))).bind fun _ => ?_
    exact Eff.raisesOnly_lift (require_raises (hauth _))

theorem acceptWith_raises (parsed : ParsedToken) (key : JwksRs256Key) :
    (acceptWith world (verifier.guardedBy forgetfulStore) H parsed key).RaisesOnly
      Exn.IsOfToken := by
  have hauth : ∀ text, (Exn.jwtAuthenticationError text).IsOfToken :=
    fun text => Or.inl (Exn.isAuthentication_text text)
  have hdecode : (base64urlDecode parsed.signature).RaisesOnly Exn.IsOfToken :=
    (base64urlDecode_raises parsed.signature).mono fun _ => Or.inl
  have hclock : (readClock world : Eff Exn (OidcState σ) Int).RaisesOnly Exn.IsOfToken :=
    fun _ => Except.raisesOnly_ok _
  refine (Eff.raisesOnly_lift hdecode).bind fun signature => ?_
  refine (Eff.raisesOnly_lift (require_raises (hauth _))).bind fun _ => ?_
  refine (Eff.raisesOnly_lift (claimsOf_raises _ _)).bind fun claims => ?_
  refine (validateRegisteredClaims_raises claims).bind fun _ => ?_
  refine hclock.bind fun nowEpoch => ?_
  refine Eff.RaisesOnly.bind ?_ fun _ => Eff.raisesOnly_pure _
  exact fun s => requireNotReplayed_forgetful claims nowEpoch s.replays

/-! ## Verifications while a refresh fails -/

/-- `verify` without a refresh: the key is looked up in the cache as it is. -/
def verifyCached (world : OidcSurroundings) (verifier : DynamicOidcJwksVerifier σ)
    (H : HashFunctions) (loads : JsonLoads) (token : String) :
    Eff Exn (OidcState σ) VerifiedJwtClaims := do
  let parsed ← Eff.lift (parseToken loads token)
  let _ ← readClock world
  let s ← Eff.get
  match s.keys.get? (parsed.issuer, parsed.keyId) with
  | some key => acceptWith world verifier H parsed key
  | none => Eff.raise (.jwtAuthenticationError "JWT signing key is not trusted")

/-- The verification has the result that it has without a refresh, for its caller and for the
replay store, and no cached key and no time of a refresh has changed. -/
structure Undisturbed (world : OidcSurroundings) (verifier : DynamicOidcJwksVerifier σ)
    (H : HashFunctions) (loads : JsonLoads) (token : String) (s : OidcState σ) : Prop where
  result      : (verifier.verify world H loads token s).1 =
                  (verifyCached world verifier H loads token s).1
  replays     : (verifier.verify world H loads token s).2.replays =
                  (verifyCached world verifier H loads token s).2.replays
  keys        : (verifier.verify world H loads token s).2.keys = s.keys
  refreshedAt : (verifier.verify world H loads token s).2.refreshedAt = s.refreshedAt

/-- An issuer whose policy is to use stale keys has keys that are not older than the policy
allows; a refresh would bring no others; and the token names one of them. -/
structure StaleKeyCase (world : OidcSurroundings) (verifier : DynamicOidcJwksVerifier σ)
    (loads : JsonLoads) (token : String) (s : OidcState σ) (config : OidcDiscoveryIssuerConfig)
    (refreshedAt : Int) (parsed : ParsedToken) (key : JwksRs256Key) : Prop where
  trusted   : verifier.issuerConfigs.get? parsed.issuer = some config
  policy    : config.outagePolicy = .useStaleKeys
  refreshed : s.refreshedAt.get? parsed.issuer = some refreshedAt
  recent    : world.nowEpoch s.readings - refreshedAt ≤
                config.refreshIntervalSeconds + config.staleGraceSeconds
  answers   : ∀ n url, FetchAnswer (world.fetchJson n url)
  unusable  : ∀ keys, fetchedKeys world config s.fetches ≠ .ok keys
  parse     : parseToken loads token = .ok parsed
  cached    : s.keys.get? (parsed.issuer, parsed.keyId) = some key

theorem fetchKeyIndex_eq (config : OidcDiscoveryIssuerConfig) (s : OidcState σ) :
    ∃ fetches, fetchKeyIndex world config s =
      (fetchedKeys world config s.fetches, { s with fetches }) := by
  unfold fetchKeyIndex fetchedKeys
  have hfetch : ∀ url (s : OidcState σ), fetch world url s =
      (world.fetchJson s.fetches url, { s with fetches := s.fetches + 1 }) := fun _ _ => rfl
  -- the first fetch gets the document, and nothing else changes the state before the second
  rcases hdocument : world.fetchJson s.fetches config.discoveryUrl with e | document
  · refine ⟨s.fetches + 1, ?_⟩
    rw [Eff.bind_apply, hfetch, hdocument]
    rfl
  · rw [Eff.bind_apply, hfetch, hdocument]
    dsimp only
    rw [Except.ok_bind, Eff.lift_bind_apply]
    rcases OidcDiscoveryDocument.modelValidate document with e | discovery
    · exact ⟨s.fetches + 1, rfl⟩
    · dsimp only
      rw [Except.ok_bind, Eff.lift_bind_apply]
      rcases require (discovery.issuer = config.issuer) _ with e | _
      · exact ⟨s.fetches + 1, rfl⟩
      · dsimp only
        rw [Except.ok_bind, Eff.lift_bind_apply]
        rcases require (discovery.idTokenSigningAlgValuesSupported = [] ∨ _) _ with e | _
        · exact ⟨s.fetches + 1, rfl⟩
        · dsimp only
          -- the second fetch gets the keys that the document names
          refine ⟨s.fetches + 2, ?_⟩
          rw [Except.ok_bind, Eff.bind_apply, hfetch]
          rcases world.fetchJson (s.fetches + 1) discovery.jwksUri with e | jwks
          · rfl
          · dsimp only
            rw [Except.ok_bind, Eff.lift_bind_apply]
            rcases buildRs256JwksKeyIndex config.issuer jwks with e | keyIndex
            · rfl
            · dsimp only
              rw [Except.ok_bind, Eff.lift_bind_apply]
              rcases require (keyIndex.items ≠ []) _ with e | _ <;> rfl

section

variable {s : OidcState σ} {token : String} {refreshedAt : Int} {parsed : ParsedToken}
  {key : JwksRs256Key}

/-- The state after the first look at the clock. -/
def lookedAtClock (s : OidcState σ) : OidcState σ := { s with readings := s.readings + 1 }

theorem verifyCached_eq (h : StaleKeyCase world verifier loads token s config refreshedAt parsed key) :
    verifyCached world verifier H loads token s =
      acceptWith world verifier H parsed key (lookedAtClock s) := by
  unfold verifyCached
  rw [Eff.lift_bind_apply, h.parse]
  show (match s.keys.get? (parsed.issuer, parsed.keyId) with
    | some key => acceptWith world verifier H parsed key
    | none => Eff.raise (.jwtAuthenticationError "JWT signing key is not trusted"))
      (lookedAtClock s) = _
  rw [h.cached]

/-- A look at the keys that has left the cached key in its place. -/
theorem verify_of_ensured
    (h : StaleKeyCase world verifier loads token s config refreshedAt parsed key)
    {s' : OidcState σ}
    (hensured : verifier.ensureFreshKeys world config (world.nowEpoch s.readings)
      (lookedAtClock s) = (.ok (), s')) (hkeys : s'.keys = s.keys) :
    verifier.verify world H loads token s = acceptWith world verifier H parsed key s' := by
  have hkey : verifier.keyFor world parsed.issuer parsed.keyId s = (.ok key, s') := by
    unfold keyFor
    rw [h.trusted]
    dsimp only
    have hclock : readClock world s = (.ok (world.nowEpoch s.readings), lookedAtClock s) := rfl
    rw [Eff.bind_of_ok hclock, Eff.bind_of_ok hensured, Eff.bind_apply, Eff.get_apply]
    dsimp only
    rw [hkeys, h.cached]
    rfl
  rw [verify_eq, Eff.lift_bind_apply, h.parse]
  dsimp only
  rw [Eff.bind_of_ok hkey]

theorem verify_of_raised
    (h : StaleKeyCase world verifier loads token s config refreshedAt parsed key)
    {s' : OidcState σ} {e : Exn}
    (hraised : verifier.ensureFreshKeys world config (world.nowEpoch s.readings)
      (lookedAtClock s) = (.error e, s')) :
    verifier.verify world H loads token s = (.error e, s') := by
  have hkey : verifier.keyFor world parsed.issuer parsed.keyId s = (.error e, s') := by
    unfold keyFor
    rw [h.trusted]
    dsimp only
    have hclock : readClock world s = (.ok (world.nowEpoch s.readings), lookedAtClock s) := rfl
    rw [Eff.bind_of_ok hclock, Eff.bind_of_error hraised]
  rw [verify_eq, Eff.lift_bind_apply, h.parse]
  dsimp only
  rw [Eff.bind_of_error hkey]

/-- An authentication error of the refresh is handled: only the last error is noted. -/
theorem ensure_of_handled
    (h : StaleKeyCase world verifier loads token s config refreshedAt parsed key) {text : String}
    (hdue : refreshDue config (world.nowEpoch s.readings) s = true)
    (hfailed : fetchedKeys world config s.fetches = .error (.jwtAuthenticationError text)) :
    ∃ fetches lastError, verifier.ensureFreshKeys world config (world.nowEpoch s.readings)
      (lookedAtClock s) = (.ok (), { lookedAtClock s with fetches, lastError }) := by
  -- the clock has been read, which the refresh does not depend on
  have hissuer := issuer_of_issuerConfigs h.trusted
  obtain ⟨fetches, hfetch⟩ := @fetchKeyIndex_eq world σ config (lookedAtClock s)
  have hkeys : fetchKeyIndex world config (lookedAtClock s) =
      (.error (.jwtAuthenticationError text), { lookedAtClock s with fetches }) := by
    rw [hfetch]
    exact congrArg (·, _) hfailed
  have hrefresh : verifier.refreshIssuer world config.issuer (lookedAtClock s) =
      (.error (.jwtAuthenticationError text), { lookedAtClock s with fetches }) := by
    unfold refreshIssuer
    rw [hissuer, h.trusted]
    dsimp only
    rw [Eff.bind_of_error hkeys]
  refine ⟨fetches, s.lastError.set config.issuer text, ?_⟩
  have hdue' : refreshDue config (world.nowEpoch s.readings) (lookedAtClock s) = true := hdue
  unfold ensureFreshKeys
  rw [if_pos hdue']
  unfold tryRefreshForKeyRotation
  rw [hrefresh]
  dsimp only
  unfold handleRefreshFailure
  dsimp only
  have hrefreshed : (lookedAtClock s).refreshedAt.get? config.issuer = some refreshedAt := by
    rw [hissuer]
    exact h.refreshed
  rw [hrefreshed, hissuer, h.trusted]
  dsimp only
  rw [if_neg (by rw [h.policy]; decide), if_neg (not_lt.mpr h.recent)]
  rfl

/-- Whatever else a refresh raises goes to the caller. -/
theorem ensure_of_unhandled
    (h : StaleKeyCase world verifier loads token s config refreshedAt parsed key) {e : Exn}
    (hdue : refreshDue config (world.nowEpoch s.readings) s = true)
    (hfailed : fetchedKeys world config s.fetches = .error e) (hfault : e.IsDocumentFault) :
    ∃ s', verifier.ensureFreshKeys world config (world.nowEpoch s.readings)
      (lookedAtClock s) = (.error e, s') := by
  have hissuer := issuer_of_issuerConfigs h.trusted
  obtain ⟨fetches, hfetch⟩ := @fetchKeyIndex_eq world σ config (lookedAtClock s)
  have hkeys : fetchKeyIndex world config (lookedAtClock s) =
      (.error e, { lookedAtClock s with fetches }) := by
    rw [hfetch]
    exact congrArg (·, _) hfailed
  have hrefresh : verifier.refreshIssuer world config.issuer (lookedAtClock s) =
      (.error e, { lookedAtClock s with fetches }) := by
    unfold refreshIssuer
    rw [hissuer, h.trusted]
    dsimp only
    rw [Eff.bind_of_error hkeys]
  refine ⟨{ lookedAtClock s with fetches }, ?_⟩
  have hdue' : refreshDue config (world.nowEpoch s.readings) (lookedAtClock s) = true := hdue
  unfold ensureFreshKeys
  rw [if_pos hdue']
  unfold tryRefreshForKeyRotation
  rw [hrefresh]
  split
  · -- only an error of the refresh is handled, and a fault of the document is none
    rename_i text s' hsame
    cases hsame
    rcases hfault with ⟨_, hfault⟩ | ⟨_, hfault⟩ | ⟨_, hfault⟩ <;> cases hfault
  · rfl

theorem undisturbed_of_ensured
    (h : StaleKeyCase world verifier loads token s config refreshedAt parsed key)
    {fetches : Nat} {lastError : Dict String String}
    (hensured : verifier.ensureFreshKeys world config (world.nowEpoch s.readings)
      (lookedAtClock s) = (.ok (), { lookedAtClock s with fetches, lastError })) :
    Undisturbed world verifier H loads token s := by
  have hverify := @verify_of_ensured world config σ verifier H loads s token refreshedAt parsed key
    h _ hensured rfl
  have hcached := @verifyCached_eq world config σ verifier H loads s token refreshedAt parsed key h
  have hview : SameView { lookedAtClock s with fetches, lastError } (lookedAtClock s) := ⟨rfl, rfl⟩
  obtain ⟨hresult, hviews⟩ := @respects_acceptWith world σ verifier H parsed key _ _ hview
  have hcache := keeps_acceptWith world verifier H parsed key
    { lookedAtClock s with fetches, lastError }
  rw [← hverify] at hcache hresult hviews
  rw [← hcached] at hresult hviews
  exact ⟨hresult, hviews.replays, hcache.keys, hcache.refreshedAt⟩

theorem StaleKeyCase.guardedBy
    (h : StaleKeyCase world verifier loads token s config refreshedAt parsed key)
    (store : JwtReplayStore σ) :
    StaleKeyCase world (verifier.guardedBy store) loads token s config refreshedAt parsed key :=
  ⟨h.trusted, h.policy, h.refreshed, h.recent, h.answers, h.unusable, h.parse, h.cached⟩

/-- **Refreshes that fail.** While the keys of an issuer may be stale, a refresh that brings no
keys leaves the verification of a token of a cached key as it is, with any replay store, exactly
if the refresh is not due or the documents make it fail with an authentication error. -/
theorem refresh_failure_iff (H : HashFunctions) (loads : JsonLoads) (world : OidcSurroundings)
    (verifier : DynamicOidcJwksVerifier σ) (token : String) (s : OidcState σ)
    (config : OidcDiscoveryIssuerConfig) (refreshedAt : Int) (parsed : ParsedToken)
    (key : JwksRs256Key)
    (h : StaleKeyCase world verifier loads token s config refreshedAt parsed key) :
    (∀ store, Undisturbed world (verifier.guardedBy store) H loads token s) ↔
      (refreshDue config (world.nowEpoch s.readings) s = true →
        FailureHandled world config s.fetches) := by
  constructor
  · intro hundisturbed hdue
    by_contra hunhandled
    obtain ⟨e, he, hfault⟩ := fetchedKeys_unhandled h.answers hunhandled
    -- with a store that raises nothing, only the refresh can have raised this
    have hquiet := h.guardedBy forgetfulStore
    obtain ⟨s', hraised⟩ := ensure_of_unhandled hquiet hdue he hfault
    have hverify := @verify_of_raised world config σ _ H loads s token refreshedAt parsed key
      hquiet _ _ hraised
    have hresult := (hundisturbed forgetfulStore).result
    rw [hverify, verifyCached_eq hquiet] at hresult
    exact hfault.not_isOfToken (acceptWith_raises parsed key _ e hresult.symm)
  · intro hhandled store
    have hcase := h.guardedBy store
    by_cases hdue : refreshDue config (world.nowEpoch s.readings) s = true
    · have hraises := fetchedKeys_handled h.answers (hhandled hdue)
      cases hkeys : fetchedKeys world config s.fetches with
      | ok keys => exact absurd hkeys (h.unusable keys)
      | error e =>
        obtain ⟨text, rfl⟩ := hraises e hkeys
        obtain ⟨fetches, lastError, hensured⟩ := ensure_of_handled hcase hdue hkeys
        exact undisturbed_of_ensured hcase hensured
    · have hensured : (verifier.guardedBy store).ensureFreshKeys world config
          (world.nowEpoch s.readings) (lookedAtClock s) = (.ok (), lookedAtClock s) := if_neg hdue
      exact undisturbed_of_ensured hcase hensured

end

/-! ## A sample issuer that is out of order -/

def staleIssuer : OidcDiscoveryIssuerConfig :=
  { sampleIssuer with
    refreshIntervalSeconds := 1
    outagePolicy := .useStaleKeys
    interval_pos := le_refl 1 }

theorem staleIssuer_only : [staleIssuer] ≠ [] := List.cons_ne_nil _ _

def staleVerifier : DynamicOidcJwksVerifier Unit where
  issuers := [staleIssuer]
  replayStore := forgetfulStore
  issuers_ne := staleIssuer_only

/-- The sample surroundings, but that every fetch has one answer. -/
def answering (answer : Except Exn Json) : OidcSurroundings :=
  { sampleSurroundings with fetchJson := fun _ _ => answer }

/-- The verifier after a refresh that succeeded. -/
def staleState : OidcState Unit :=
  Runs.run (staleVerifier.step sampleSurroundings sampleHash asciiLoads) { replays := () }
    [.refreshAll]

theorem staleState_checked :
    ((staleVerifier.verify (answering (.ok (.obj []))) sampleHash asciiLoads sampleToken
        staleState).1 ≠ .ok sampleTokenClaims ∧
      (verifyCached (answering (.ok (.obj []))) staleVerifier sampleHash asciiLoads sampleToken
        staleState).1 = .ok sampleTokenClaims) ∧
    ((parseToken asciiLoads sampleToken).map fun parsed => (parsed.issuer, parsed.keyId)) =
      .ok ("i", "k") ∧
    (staleState.keys.get? ("i", "k")).isSome = true ∧
    staleState.refreshedAt.get? "i" = some 0 ∧ staleState.readings = 1 := by decide +kernel

/-- A discovery document without members: the token is accepted as long as no refresh is tried,
and then `verify` raises the error of the document's model. -/
theorem empty_document_disturbs :
    ¬ Undisturbed (answering (.ok (.obj []))) staleVerifier sampleHash asciiLoads sampleToken
      staleState := by
  intro hundisturbed
  obtain ⟨⟨hdisturbed, hcached⟩, -⟩ := staleState_checked
  exact hdisturbed (hundisturbed.result.trans hcached)

/-- An issuer that cannot be reached leaves the sample token accepted. -/
theorem sample_refresh_failure : Undisturbed
    (answering (.error (.jwtAuthenticationError "OIDC JSON fetch failed")))
    (staleVerifier.guardedBy forgetfulStore) sampleHash asciiLoads sampleToken staleState := by
  obtain ⟨-, hparse, hkey, hrefreshed, hreadings⟩ := staleState_checked
  cases hparsed : parseToken asciiLoads sampleToken with
  | error e =>
    rw [hparsed] at hparse
    cases hparse
  | ok parsed =>
    rw [hparsed] at hparse
    obtain ⟨hissuer, hkeyId⟩ := Prod.ext_iff.mp (Except.ok.inj hparse)
    dsimp only at hissuer hkeyId
    -- the sample's key is the cached one, refreshed just before
    obtain ⟨key, hkey⟩ := Option.isSome_iff_exists.mp hkey
    have hconfig : staleVerifier.issuerConfigs.get? "i" = some staleIssuer := by
      simp [issuerConfigs, staleVerifier, staleIssuer, sampleIssuer, Dict.get?_set]
    have hcase : StaleKeyCase (answering (.error (.jwtAuthenticationError "OIDC JSON fetch failed")))
        staleVerifier asciiLoads sampleToken staleState staleIssuer 0 parsed key := by
      refine ⟨?_, rfl, ?_, ?_, fun _ _ => .failed _, fun keys => ?_, hparsed, ?_⟩
      · rw [hissuer]
        exact hconfig
      · rw [hissuer]
        exact hrefreshed
      · rw [hreadings]
        decide
      · rintro ⟨⟩
      · rw [hissuer, hkeyId]
        exact hkey
    refine (refresh_failure_iff sampleHash asciiLoads _ staleVerifier sampleToken staleState
      staleIssuer 0 parsed key hcase).mpr (fun _ document hdocument => ?_) forgetfulStore
    cases hdocument

end DynamicOidcJwksVerifier

end Collabio
