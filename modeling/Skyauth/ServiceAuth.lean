import Skyauth.DidKeyCache
import Skyauth.IdentityResolver

/-!
# Service authentication

`ServiceAuthVerifier` of `src/service_auth.rs`: a token is parsed, the signing key of its issuer comes
from the cache or from the DID document, and the signature and the claims are checked in turn. The
document is resolved in a `World`; the cache is passed along.
-/

namespace Skyauth

open Fallible (rejectIf)

def SERVICE_JWT_CLOCK_SKEW_LEEWAY_SECS : UInt64 := 60

def ES256K_SERVICE_AUTH_ALG : String := "ES256K"

def ES256_SERVICE_AUTH_ALG : String := "ES256"

/-! ## Tokens -/

/-- The JOSE header of a token (`ServiceJwtHeader`). -/
structure ServiceJwtHeader where
  alg : String
  typ : Option String
  deriving Repr, DecidableEq

/-- The claims of a token (`ServiceJwtClaims`). -/
structure ServiceJwtClaims where
  iss : Option String
  sub : Option String
  aud : Option String
  lxm : Option String
  exp : Option UInt64
  iat : Option UInt64
  jti : Option String
  deriving Repr, DecidableEq

/-- The derived `Deserialize`. -/
def ServiceJwtHeader.fromJson (j : Json) : Except String ServiceJwtHeader := do
  let members ← j.fields ["alg", "typ"]
  return { alg := ← Json.required "alg" Json.toStringField (← Json.member members "alg")
           typ := ← Json.optional Json.toStringField (← Json.member members "typ") }

/-- The derived `Deserialize`. -/
def ServiceJwtClaims.fromJson (j : Json) : Except String ServiceJwtClaims := do
  let members ← j.fields ["iss", "sub", "aud", "lxm", "exp", "iat", "jti"]
  let text (name : String) : Except String (Option String) := do
    Json.optional Json.toStringField (← Json.member members name)
  let number (name : String) : Except String (Option UInt64) := do
    Json.optional (fun j => j.toU64Field.map UInt64.ofNat) (← Json.member members name)
  return { iss := ← text "iss", sub := ← text "sub", aud := ← text "aud", lxm := ← text "lxm",
           exp := ← number "exp", iat := ← number "iat", jti := ← text "jti" }

/-- A label of the host of a `did:web`. -/
def isServiceHostLabel (label : String) : Bool :=
  label != "" && decide (label.utf8ByteSize ≤ 63) && !Text.startsWith label "-" &&
    !Text.endsWith label "-" && label.toList.all fun c => c.isAlphanum || c == '-'

def isValidServiceDid (did : String) : Bool :=
  match Text.stripPrefix did "did:plc:" with
  | some id =>
    id != "" && decide (id.utf8ByteSize ≤ 64) &&
      id.toList.all fun c => c.isLower || c.isDigit || c == '_' || c == '-'
  | none =>
    match Text.stripPrefix did "did:web:" with
    | some rest =>
      let host := (Text.split ':' rest).headD ""
      host != "" && decide (host.utf8ByteSize ≤ 253) && (Text.split '.' host).all isServiceHostLabel
    | none => false

/-- The DID of the viewer: the issuer, or else the subject. -/
def ServiceJwtClaims.viewerDid (claims : ServiceJwtClaims) : Option String :=
  (claims.iss.or claims.sub).filter isValidServiceDid

def extractBearerToken (authHeaderOrToken : String) : Except AtprotoOAuthError String :=
  let trimmed := Text.trim authHeaderOrToken
  if trimmed = "" then .error (.token .missingHeader)
  else if Text.eqIgnoreAsciiCase trimmed "Bearer" then
    .error (.token (.malformedToken "Empty Bearer token"))
  else
    match Text.splitOnceP Text.isWhitespace trimmed with
    | some (scheme, rest) =>
      if !Text.eqIgnoreAsciiCase scheme "Bearer" then .error (.token (.invalidScheme "Bearer" scheme))
      else if Text.trim rest = "" then .error (.token (.malformedToken "Empty Bearer token"))
      else .ok (Text.trim rest)
    | none => .ok trimmed

/-- A segment of a token: without padding, else with padding. -/
def decodeSegment (X : ServiceCrates) (segment : String) : Except String (List UInt8) :=
  match Base64.decodeNoPad segment with
  | some bytes => .ok bytes
  | none => (Base64.decodePadded segment).elim (.error (X.base64Error segment)) .ok

def parseServiceJwtClaimsUnverified (X : ServiceCrates) (token : String) :
    Except AtprotoOAuthError ServiceJwtClaims := do
  match Text.split '.' (Text.trim token) with
  | [_, payloadB64, sigB64] =>
    if sigB64 = "" then
      .error (.token (.malformedToken "Invalid JWT format: must have 3 non-empty segments"))
    else
      let decoded ← (decodeSegment X payloadB64).mapError fun e =>
        .token (.malformedToken ("Base64 decode error: " ++ e))
      (X.jsonFromSlice decoded >>= ServiceJwtClaims.fromJson).mapError fun e =>
        .token (.malformedToken ("JSON payload parse error: " ++ e))
  | [] => .error (.token (.malformedToken "Missing JWT header"))
  | [_] => .error (.token (.malformedToken "Missing JWT payload"))
  | [_, _] => .error (.token (.malformedToken "Missing JWT signature"))
  | _ => .error (.token (.malformedToken "Invalid JWT format: must have 3 non-empty segments"))

/-- What `verify_service_jwt_claims` has read off a token before it asks for the key. -/
structure ServiceJwt where
  headerB64 : String
  payloadB64 : String
  signatureB64 : String
  alg : String
  claims : ServiceJwtClaims
  issuer : String
  deriving Repr, DecidableEq

/-- The start of `verify_service_jwt_claims`. -/
def parseServiceJwt (X : ServiceCrates) (authHeaderOrToken : String) :
    Except AtprotoOAuthError ServiceJwt := do
  let token ← extractBearerToken authHeaderOrToken
  match Text.split '.' token with
  | [headerB64, payloadB64, signatureB64] =>
    let headerBytes ← (decodeSegment X headerB64).mapError fun e =>
      .token (.malformedToken ("JWT header base64 error: " ++ e))
    let header ← (X.jsonFromSlice headerBytes >>= ServiceJwtHeader.fromJson).mapError fun e =>
      .token (.malformedToken ("JWT header JSON error: " ++ e))
    if algIdFromStr header.alg = ALG_NONE then
      .error (.token (.malformedToken ("Unsupported JWT algorithm '" ++ header.alg ++
        "': ATProto Service Auth requires " ++ ES256K_SERVICE_AUTH_ALG ++ " or " ++
        ES256_SERVICE_AUTH_ALG)))
    else
      let claims ← parseServiceJwtClaimsUnverified X token
      let issuer ← (claims.iss.or claims.sub).elim (.error (.token .missingIssuer)) .ok
      return { headerB64 := headerB64, payloadB64 := payloadB64, signatureB64 := signatureB64,
               alg := header.alg, claims := claims, issuer := issuer }
  | [] => .error (.token (.malformedToken "Missing JWT header segment"))
  | [_] => .error (.token (.malformedToken "Missing JWT payload segment"))
  | [_, _] => .error (.token (.malformedToken "Missing JWT signature segment"))
  | _ => .error (.token (.malformedToken "Too many segments in JWT"))

/-! ## Checks -/

/-- The algorithm does not belong to the curve of the key. -/
def algMismatch (alg : String) : AtprotoVerifyingKey → AtprotoOAuthError
  | .secp256k1 _ =>
    .token (.malformedToken ("Unsupported JWT algorithm '" ++ alg ++
      "' for secp256k1 DID key: requires " ++ ES256K_SERVICE_AUTH_ALG))
  | .p256 _ =>
    .token (.malformedToken ("Unsupported JWT algorithm '" ++ alg ++
      "' for P-256 DID key: requires " ++ ES256_SERVICE_AUTH_ALG))

/-- Whether the signature verifies under a key; it has to parse as one of its curve. -/
def AtprotoVerifyingKey.verify (X : ServiceCrates) (key : AtprotoVerifyingKey)
    (message signatureBytes : List UInt8) : Except AtprotoOAuthError Bool :=
  match key with
  | .secp256k1 vk =>
    match X.k256SignatureFromSlice signatureBytes with
    | .error _ => .error (.token (.malformedToken "Malformed secp256k1 ECDSA signature"))
    | .ok () => .ok (X.k256Verify vk message signatureBytes).isOk
  | .p256 vk =>
    match X.signatureFromSlice signatureBytes with
    | .error _ => .error (.token (.malformedToken "Malformed P-256 ECDSA signature"))
    | .ok () => .ok (X.ecdsaVerify vk message signatureBytes).isOk

namespace ServiceJwt

/-- The bytes that are signed. -/
def signingInput (jwt : ServiceJwt) : List UInt8 := Text.asBytes (jwt.headerB64 ++ "." ++ jwt.payloadB64)

/-- The checks against the key, up to whether the signature verifies. -/
def checkSignature (X : ServiceCrates) (jwt : ServiceJwt) (key : AtprotoVerifyingKey) :
    Except AtprotoOAuthError Bool := do
  if !isAlgBoundToCurve key.curveId (algIdFromStr jwt.alg) then .error (algMismatch jwt.alg key)
  else
    let signatureBytes ← (decodeSegment X jwt.signatureB64).mapError fun e =>
      .token (.malformedToken ("JWT signature base64 error: " ++ e))
    key.verify X jwt.signingInput signatureBytes

/-- The check of the expiry, if the token has one. -/
def checkExp (jwt : ServiceJwt) (nowSecs leewaySecs : UInt64) : Except AtprotoOAuthError Unit :=
  match jwt.claims.exp with
  | some exp =>
    rejectIf (isServiceJwtExpValid exp nowSecs leewaySecs = false)
      (.token (.expired exp.toNat nowSecs.toNat))
  -- `if let`: a token without the claim passes
  | none => .ok ()

/-- The check of the audience, if one is expected and the token has one. -/
def checkAud (jwt : ServiceJwt) (expectedAudiences : List String) : Except AtprotoOAuthError Unit :=
  if expectedAudiences = [] then .ok ()
  else
    match jwt.claims.aud with
    | some aud =>
      rejectIf (aud ∉ expectedAudiences)
        (.token (.audienceMismatch (String.intercalate " | " expectedAudiences) aud))
    -- also here a token without the claim passes
    | none => .ok ()

/-- The checks on the claims of a token whose signature verifies. -/
def checkClaims (jwt : ServiceJwt) (expectedAudiences : List String) (nowSecs leewaySecs : UInt64) :
    Except AtprotoOAuthError ServiceJwtClaims := do
  jwt.checkExp nowSecs leewaySecs
  jwt.checkAud expectedAudiences
  rejectIf (jwt.claims.iss = none ∨ jwt.claims.viewerDid = none) (.token .missingDid)
  return jwt.claims

/-- The rest of `verify_service_jwt_claims` once it has the key. A signature that does not verify costs
    the issuer its entry in the cache. -/
def verifyWith (X : ServiceCrates) (jwt : ServiceJwt) (key : AtprotoVerifyingKey) (cache : DidKeyCache)
    (expectedAudiences : List String) (nowSecs leewaySecs : UInt64) :
    Except AtprotoOAuthError ServiceJwtClaims × DidKeyCache :=
  match jwt.checkSignature X key with
  -- the early returns: a wrong algorithm or malformed signature leaves the entry alone
  | .error e => (.error e, cache)
  | .ok false => (.error (.token .invalidSignature), cache.invalidate jwt.issuer)
  | .ok true => (jwt.checkClaims expectedAudiences nowSecs leewaySecs, cache)

end ServiceJwt

/-! ## The verifier -/

structure ServiceAuthVerifier where
  resolver : IdentityResolver
  keyCache : DidKeyCache

namespace ServiceAuthVerifier

/-- `resolve_atproto_key`: the key with the cache afterwards. -/
def resolveAtprotoKey (X : ServiceCrates) (N : NetCrates) (W : World) (v : ServiceAuthVerifier)
    (did : String) (nowSecs : UInt64) (first : String) :
    Except AtprotoOAuthError AtprotoVerifyingKey × DidKeyCache :=
  if !isValidServiceDid did then
    (.error (.identity (.invalidDidSyntax ("Invalid issuer DID: '" ++ did ++ "'"))), v.keyCache)
  else
    match v.keyCache.getAtprotoKey did nowSecs with
    | some key => (.ok key, v.keyCache)
    | none =>
      match (v.resolver.resolveDid X.toCrates N W did).mapError .identity >>=
          extractAtprotoKeyFromDocument X with
      | .error e => (.error e, v.keyCache)
      | .ok key => (.ok key, v.keyCache.insertAtprotoKey did key nowSecs first)

/-- `verify_service_jwt_claims`: the result with the cache afterwards. -/
def verifyServiceJwtClaims (X : ServiceCrates) (N : NetCrates) (W : World) (v : ServiceAuthVerifier)
    (authHeaderOrToken : String) (expectedAudiences : List String) (nowSecs leewaySecs : UInt64)
    (first : String) : Except AtprotoOAuthError ServiceJwtClaims × DidKeyCache :=
  match parseServiceJwt X authHeaderOrToken with
  | .error e => (.error e, v.keyCache)
  | .ok jwt =>
    match v.resolveAtprotoKey X N W jwt.issuer nowSecs first with
    | (.error e, cache) => (.error e, cache)
    | (.ok key, cache) => jwt.verifyWith X key cache expectedAudiences nowSecs leewaySecs

end ServiceAuthVerifier

/-! ## Runs -/

/-- A call of `verify_service_jwt_claims`, in the world it is made in. -/
structure ServiceCall where
  world : World
  authHeaderOrToken : String
  expectedAudiences : List String
  nowSecs : UInt64
  leewaySecs : UInt64
  first : String

/-- What can be asked of a verifier, and of the cache that it hands out. -/
inductive ServiceAuthAction where
  | verify (call : ServiceCall)
  | resolve (world : World) (did : String) (nowSecs : UInt64) (first : String)
  | invalidate (did : String)
  | clearCache

/-- A document that was resolved for a DID at a second. -/
structure Resolution where
  did : String
  doc : DidDocument
  atSecs : UInt64

/-- A verifier with a history variable for the documents it has resolved. -/
structure ServiceAuthSystem where
  verifier : ServiceAuthVerifier
  history : List Resolution

namespace ServiceAuthSystem

/-- The document that `resolve_atproto_key` resolves: none if the key is in the cache. -/
def resolved (X : ServiceCrates) (N : NetCrates) (W : World) (v : ServiceAuthVerifier) (did : String)
    (nowSecs : UInt64) : List Resolution :=
  if !isValidServiceDid did then []
  else
    match v.keyCache.getAtprotoKey did nowSecs, v.resolver.resolveDid X.toCrates N W did with
    | none, .ok doc => [{ did := did, doc := doc, atSecs := nowSecs }]
    | _, _ => []

/-- The document that a call of `verify_service_jwt_claims` resolves. -/
def resolvedBy (X : ServiceCrates) (N : NetCrates) (v : ServiceAuthVerifier) (call : ServiceCall) :
    List Resolution :=
  match parseServiceJwt X call.authHeaderOrToken with
  | .error _ => []
  | .ok jwt => resolved X N call.world v jwt.issuer call.nowSecs

/-- One action, with the result of a call. -/
def step (X : ServiceCrates) (N : NetCrates) (s : ServiceAuthSystem) :
    ServiceAuthAction → Option (ServiceAuthSystem × Option (Except AtprotoOAuthError ServiceJwtClaims))
  | .verify call =>
    let outcome := s.verifier.verifyServiceJwtClaims X N call.world call.authHeaderOrToken
      call.expectedAudiences call.nowSecs call.leewaySecs call.first
    some ({ verifier := { s.verifier with keyCache := outcome.2 }
            history := s.history ++ resolvedBy X N s.verifier call }, some outcome.1)
  | .resolve world did nowSecs first =>
    let outcome := s.verifier.resolveAtprotoKey X N world did nowSecs first
    some ({ verifier := { s.verifier with keyCache := outcome.2 }
            history := s.history ++ resolved X N world s.verifier did nowSecs }, none)
  | .invalidate did =>
    some ({ s with verifier.keyCache := s.verifier.keyCache.invalidate did }, none)
  | .clearCache =>
    some ({ s with verifier.keyCache := .new s.verifier.keyCache.hasher s.verifier.keyCache.ttlSecs },
      none)

end ServiceAuthSystem

end Skyauth
