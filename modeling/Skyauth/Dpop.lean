import Skyauth.Crypto
import Skyauth.ReplayCache

/-!
# DPoP proofs

Creation and verification of DPoP proofs (`src/dpop.rs`). A function of the source that reads the
system clock takes the readings as arguments, in the order in which it makes them; a function that
draws random bytes takes the bytes; a function that writes the replay cache returns the verifier
with the cache written.
-/

namespace Skyauth

def DEFAULT_MAX_PROOF_AGE : Duration := Duration.fromSecs 300 Duration.five_minutes_lt

def DEFAULT_CLOCK_SKEW_LEEWAY : Duration := Duration.fromSecs 60 Duration.minute_lt

/-- Longest admissible `jti`, in bytes. -/
def MAX_JTI_LENGTH : Nat := 256

/-! ## Target URIs -/

/-- The schemes of a target URI (`HtuScheme`). -/
inductive HtuScheme where
  | http
  | https
  deriving Repr, DecidableEq

namespace HtuScheme

def asStr : HtuScheme → String
  | http => "http"
  | https => "https"

def defaultPort : HtuScheme → Nat
  | http => 80
  | https => 443

def parse (scheme : String) : Option HtuScheme :=
  if Text.toAsciiLowercase scheme = "http" then some http
  else if Text.toAsciiLowercase scheme = "https" then some https
  else none

end HtuScheme

/-- The loop of `decimal_port_str`: the digits of a number, the lowest first, as far as there is room
    for them in the buffer. -/
def portDigits : Nat → Nat → List Char
  | 0, _ => []
  | room + 1, n => if 0 < n then Char.ofNat ('0'.toNat + n % 10) :: portDigits room (n / 10) else []

def decimalPortStr (port : Nat) : String :=
  let buf := if port = 0 then ['0'] else portDigits 6 port
  String.ofList (':' :: buf.reverse)

def buildNormalizedHtu (scheme : HtuScheme) (host : String) (port : Option Nat) (path : String) :
    String :=
  let portStr :=
    match port with
    | some p => if p = scheme.defaultPort then "" else decimalPortStr p
    | none => ""
  let normalizedPath := if path = "" then "/" else path
  scheme.asStr ++ "://" ++ host ++ portStr ++ normalizedPath

def normalizeHtu (X : Crates) (uriStr : String) : Except DPoPError String :=
  let trimmed := Text.trim uriStr
  if trimmed = "" then .error (.invalidUri "URI string cannot be empty")
  else
    match X.urlParse trimmed with
    | .error e => .error (.invalidUri ("Malformed URI '" ++ trimmed ++ "': " ++ e))
    | .ok parsed =>
      match HtuScheme.parse parsed.scheme with
      | none =>
        .error (.invalidUri ("URI scheme must be 'http' or 'https', got '" ++ parsed.scheme ++ "'"))
      | some scheme =>
        match parsed.hostStr with
        | none => .error (.invalidUri "URI is missing host")
        | some host =>
          let normalizedPath := if parsed.path = "" then "/" else parsed.path
          .ok (buildNormalizedHtu scheme (Text.toAsciiLowercase host) parsed.port normalizedPath)

/-! ## Keys -/

/-- An EC public key in JWK form (`JwkEc`). -/
structure JwkEc where
  kty : String
  crv : String
  x : String
  y : String
  deriving Repr, DecidableEq

namespace JwkEc

def thumbprint (X : Crates) (jwk : JwkEc) : String := jwkThumbprintEcP256 X jwk.x jwk.y

def toVerifyingKey (X : Crates) (jwk : JwkEc) : Except CryptoError VerifyingKey := do
  let xBytes ← base64urlDecodeFixed X 32 jwk.x
  let yBytes ← base64urlDecodeFixed X 32 jwk.y
  verifyingKeyFromCoordinates X xBytes yBytes

/-- The derived `Deserialize`, from a `Value`. A derived struct is also read from an array of its
    fields in order of declaration. -/
def fromValue : Json → Except String JwkEc
  | .arr [kty, crv, x, y] => do
    return { kty := ← kty.toStringField, crv := ← crv.toStringField,
             x := ← x.toStringField, y := ← y.toStringField }
  | .arr _ => .error "invalid length, expected struct JwkEc with 4 elements"
  | .obj members => do
    let j := Json.obj members
    return { kty := ← Json.required "kty" Json.toStringField (j.get "kty")
             crv := ← Json.required "crv" Json.toStringField (j.get "crv")
             x := ← Json.required "x" Json.toStringField (j.get "x")
             y := ← Json.required "y" Json.toStringField (j.get "y") }
  | _ => .error "invalid type, expected struct JwkEc"

/-- The derived `Serialize`, with the members sorted as `serde_json` keeps them. -/
def toValue (jwk : JwkEc) : Json :=
  .obj [("crv", .str jwk.crv), ("kty", .str jwk.kty), ("x", .str jwk.x), ("y", .str jwk.y)]

end JwkEc

/-- A key pair that signs proofs (`DPoPKey`). -/
structure DPoPKey where
  signingKey : SigningKey
  deriving Repr, DecidableEq

namespace DPoPKey

def publicJwk (X : Crates) (key : DPoPKey) : JwkEc :=
  let verifyingKey := X.verifyingKey key.signingKey
  { kty := "EC", crv := "P-256",
    x := base64urlEncode verifyingKey.x, y := base64urlEncode verifyingKey.y }

def jwkThumbprint (X : Crates) (key : DPoPKey) : String := (key.publicJwk X).thumbprint X

end DPoPKey

/-- `extract_dpop_nonce`: the trimmed text, if there is any. -/
def extractDpopNonce (headerVal : Option String) : Option String :=
  headerVal.bind fun v => if Text.trim v = "" then none else some (Text.trim v)

/-! ## Creating proofs -/

/-- A member that is present when its value has text in it, trimmed. -/
def trimmedMember (name : String) : Option String → List (String × Json)
  | some v => if Text.trim v = "" then [] else [(name, .str (Text.trim v))]
  | none => []

/-- The header of a proof, with sorted members. -/
def proofHeader (jwk : JwkEc) : Json :=
  .obj [("alg", .str "ES256"), ("jwk", jwk.toValue), ("typ", .str "dpop+jwt")]

/-- The payload of a proof, with sorted members. -/
def proofPayload (jti htm htu : String) (nonce ath : Option String) (iatSecs : Nat) : Json :=
  .obj (trimmedMember "ath" ath ++
    [("htm", .str htm), ("htu", .str htu), ("iat", .int iatSecs), ("jti", .str jti)] ++
    trimmedMember "nonce" nonce)

namespace DPoPKey

/-- `create_proof_internal`; `jtiBytes` are the random bytes it draws when no `jti` is given. -/
def createProofInternal (X : Crates) (key : DPoPKey) (htm htu : String) (nonce ath : Option String)
    (iatSecs : Nat) (jtiOverride : Option String) (jtiBytes : List UInt8) : Except DPoPError String :=
  let jti := jtiOverride.getD (base64urlEncode jtiBytes)
  let normalizedHtm := X.toUppercase (Text.trim htm)
  match normalizeHtu X htu with
  | .error e => .error e
  | .ok normalizedHtu =>
    match X.jsonToString (proofHeader (key.publicJwk X)),
      X.jsonToString (proofPayload jti normalizedHtm normalizedHtu nonce ath iatSecs) with
    | .error e, _ => .error (.serialization e)
    | .ok _, .error e => .error (.serialization e)
    | .ok headerStr, .ok payloadStr =>
      let signingInput := base64urlEncode (Text.asBytes headerStr) ++ "." ++
        base64urlEncode (Text.asBytes payloadStr)
      match signP256Raw X key.signingKey (Text.asBytes signingInput) with
      | .error e => .error (.crypto e)
      | .ok sigBytes => .ok (signingInput ++ "." ++ base64urlEncode sigBytes)

def createProof (X : Crates) (key : DPoPKey) (htm htu : String) (nonce ath : Option String)
    (clock : SystemTime) (jtiBytes : List UInt8) : Except DPoPError String :=
  match clock.unixSecs with
  | .error e => .error (.clockSkew e)
  | .ok nowSecs => key.createProofInternal X htm htu nonce ath nowSecs none jtiBytes

end DPoPKey

/-! ## Verifying proofs -/

/-- The claims of a proof (`DPoPProofClaims`). -/
structure DPoPProofClaims where
  jti : String
  htm : String
  htu : String
  iat : Nat
  exp : Option Nat
  nonce : Option String
  ath : Option String
  deriving Repr, DecidableEq

/-- The derived `Deserialize`, from the text of the payload. A derived struct is also read from an
    array of its fields in order of declaration. -/
def DPoPProofClaims.fromJson : Json → Except String DPoPProofClaims
  | .arr [jti, htm, htu, iat, exp, nonce, ath] => do
    return { jti := ← jti.toStringField, htm := ← htm.toStringField, htu := ← htu.toStringField,
             iat := ← iat.toU64Field, exp := ← exp.toOptionField Json.toU64Field,
             nonce := ← nonce.toOptionField Json.toStringField,
             ath := ← ath.toOptionField Json.toStringField }
  | .arr _ => .error "invalid length, expected struct DPoPProofClaims with 7 elements"
  | .obj members => do
    return { jti := ← Json.required "jti" Json.toStringField (← Json.member members "jti")
             htm := ← Json.required "htm" Json.toStringField (← Json.member members "htm")
             htu := ← Json.required "htu" Json.toStringField (← Json.member members "htu")
             iat := ← Json.required "iat" Json.toU64Field (← Json.member members "iat")
             exp := ← Json.optional Json.toU64Field (← Json.member members "exp")
             nonce := ← Json.optional Json.toStringField (← Json.member members "nonce")
             ath := ← Json.optional Json.toStringField (← Json.member members "ath") }
  | _ => .error "invalid type, expected struct DPoPProofClaims"

/-- A validator of inbound proofs (`DPoPVerifier`). -/
structure DPoPVerifier where
  maxClockSkew : Duration
  maxProofAge : Duration
  replayCache : Option DPoPReplayCache

def DPoPVerifier.new (hasher : String → UInt64) : DPoPVerifier where
  maxClockSkew := DEFAULT_CLOCK_SKEW_LEEWAY
  maxProofAge := DEFAULT_MAX_PROOF_AGE
  replayCache := some (DPoPReplayCache.new hasher)

/-- The header checks of `verify_proof_no_replay`, which give the key of the proof. -/
def proofJwk (headerVal : Json) : Except DPoPError JwkEc := do
  let typ ← ((headerVal.get "typ").bind Json.asStr).elim
    (.error (.invalidHeaderTyp "Missing 'typ' header")) .ok
  if !Text.eqIgnoreAsciiCase typ "dpop+jwt" then .error (.invalidHeaderTyp typ)
  let alg ← ((headerVal.get "alg").bind Json.asStr).elim
    (.error (.unsupportedAlgorithm "Missing 'alg' header")) .ok
  if alg ≠ "ES256" then .error (.unsupportedAlgorithm alg)
  let jwkVal ← (headerVal.get "jwk").elim (.error .missingJwk) .ok
  if (jwkVal.get "d").isSome then .error .privateKeyInJwk
  let jwk ← (JwkEc.fromValue jwkVal).mapError .invalidJwk
  if jwk.kty ≠ "EC" then .error (.invalidJwk ("Expected kty 'EC', got '" ++ jwk.kty ++ "'"))
  if jwk.crv ≠ "P-256" then .error (.invalidJwk ("Expected crv 'P-256', got '" ++ jwk.crv ++ "'"))
  return jwk

/-- The part of `verify_proof_no_replay` that depends on the token alone: its format, its key, its
    signature, and the claims it carries. -/
def decodeProof (X : Crates) (proofJwt : String) : Except DPoPError (DPoPProofClaims × JwkEc) := do
  match Text.split '.' (Text.trim proofJwt) with
  | [header, payload, signature] =>
    let headerBytes ← (base64urlDecode X header).mapError .crypto
    let payloadBytes ← (base64urlDecode X payload).mapError .crypto
    let signatureBytes ← (base64urlDecode X signature).mapError .crypto
    let headerVal ← (X.jsonFromSlice headerBytes).mapError
      fun e => .malformedJwt ("Failed to parse header JSON: " ++ e)
    let jwk ← proofJwk headerVal
    let verifyingKey ← (jwk.toVerifyingKey X).mapError .crypto
    let signingInput := header ++ "." ++ payload
    (verifyP256Raw X verifyingKey (Text.asBytes signingInput) signatureBytes).mapError
      fun _ => .signatureVerificationFailed
    let claims ← (X.jsonFromSlice payloadBytes >>= DPoPProofClaims.fromJson).mapError
      fun e => .malformedJwt ("Failed to parse payload JSON: " ++ e)
    return (claims, jwk)
  | parts =>
    .error (.malformedJwt ("Expected 3 parts in compact JWT, got " ++ toString parts.length))

/-- The checks on the `jti` claim. -/
def checkJti (claims : DPoPProofClaims) : Except DPoPError Unit :=
  if Text.trim claims.jti = "" then .error (.missingClaim "jti")
  else if MAX_JTI_LENGTH < (Text.asBytes claims.jti).length then
    .error (.jtiTooLong MAX_JTI_LENGTH (Text.asBytes claims.jti).length)
  else .ok ()

/-- The checks on the method and the target URI. -/
def checkTarget (X : Crates) (claims : DPoPProofClaims) (expectedHtm expectedHtu : String) :
    Except DPoPError Unit := do
  if !Text.eqIgnoreAsciiCase claims.htm expectedHtm then
    .error (.methodMismatch (X.toUppercase expectedHtm) claims.htm)
  let normExpectedHtu ← normalizeHtu X expectedHtu
  let normClaimsHtu ← normalizeHtu X claims.htu
  if normClaimsHtu ≠ normExpectedHtu then .error (.uriMismatch normExpectedHtu claims.htu)

/-- The check of an optional claim against an optional expected value, compared in constant time. -/
def checkBound (expected actual : Option String) (mismatch : String → String → DPoPError)
    (missing : DPoPError) : Except DPoPError Unit :=
  match expected, actual with
  | none, _ => .ok ()
  | some _, none => .error missing
  | some e, some a =>
    if constantTimeEq (Text.asBytes e) (Text.asBytes a) then .ok () else .error (mismatch e a)

/-- The check of the `nonce` claim. -/
def checkNonce (claims : DPoPProofClaims) (expectedNonce : Option String) : Except DPoPError Unit :=
  checkBound expectedNonce claims.nonce .nonceMismatch .missingNonce

/-- The check of the `ath` claim. -/
def checkAth (claims : DPoPProofClaims) (expectedAth : Option String) : Except DPoPError Unit :=
  checkBound expectedAth claims.ath .athMismatch .missingAth

/-- The checks on the `iat` and `exp` claims. -/
def DPoPVerifier.checkTime (v : DPoPVerifier) (claims : DPoPProofClaims) (now : Nat) :
    Except DPoPError Unit :=
  let skewSecs := v.maxClockSkew.asSecs
  let maxAgeSecs := v.maxProofAge.asSecs
  if saturatingAdd now skewSecs < claims.iat then .error (.futureProof claims.iat now skewSecs)
  else if maxAgeSecs < now - claims.iat then .error (.proofTooOld claims.iat now maxAgeSecs)
  else
    match claims.exp with
    | some exp => if saturatingAdd exp skewSecs < now then .error (.expiredProof exp now) else .ok ()
    | none => .ok ()

/-- What a caller expects of a proof. -/
structure ProofExpectation where
  htm : String
  htu : String
  nonce : Option String
  ath : Option String
  deriving Repr, DecidableEq

/-- A deferred admission (`ReplayAdmission`). -/
structure ReplayAdmission where
  jkt : String
  jti : String
  expiresAt : Nat
  now : Nat
  deriving Repr, DecidableEq

namespace DPoPVerifier

/-- `verify_proof_no_replay`; the clock is read only without an override. -/
def verifyProofNoReplay (X : Crates) (v : DPoPVerifier) (proofJwt : String) (e : ProofExpectation)
    (nowOverride : Option SystemTime) (clock : SystemTime) :
    Except DPoPError (DPoPProofClaims × JwkEc) := do
  let (claims, jwk) ← decodeProof X proofJwt
  checkJti claims
  checkTarget X claims e.htm e.htu
  checkNonce claims e.nonce
  checkAth claims e.ath
  let now ← ((nowOverride.getD clock).unixSecs).mapError .clockSkew
  v.checkTime claims now
  return (claims, jwk)

/-- The second at which an admission made at `now` expires. -/
def expiresAt (v : DPoPVerifier) (now : Nat) : Nat :=
  saturatingAdd (saturatingAdd now v.maxProofAge.asSecs) v.maxClockSkew.asSecs

/-- `verify_proof_deferred`, with its two clock readings. -/
def verifyProofDeferred (X : Crates) (v : DPoPVerifier) (proofJwt : String) (e : ProofExpectation)
    (nowOverride : Option SystemTime) (clock₁ clock₂ : SystemTime) :
    Except DPoPError (DPoPProofClaims × JwkEc × ReplayAdmission) := do
  let (claims, jwk) ← v.verifyProofNoReplay X proofJwt e nowOverride clock₁
  let now ← clock₂.unixSecs.mapError .clockSkew
  return (claims, jwk,
    { jkt := jwk.thumbprint X, jti := claims.jti, expiresAt := v.expiresAt now, now := now })

/-- `check_and_record` on the cache of the verifier, if it has one. -/
def record (v : DPoPVerifier) (jkt jti : String) (expiresAtSecs nowSecs : Nat) :
    Except DPoPError Unit × DPoPVerifier :=
  match v.replayCache with
  | none => (.ok (), v)
  | some cache =>
    let (r, cache') := cache.checkAndRecord jkt jti expiresAtSecs nowSecs
    (r, { v with replayCache := some cache' })

def commitReplayAdmission (v : DPoPVerifier) (a : ReplayAdmission) :
    Except DPoPError Unit × DPoPVerifier :=
  v.record a.jkt a.jti a.expiresAt a.now

/-- `verify_proof`, with its two clock readings. -/
def verifyProof (X : Crates) (v : DPoPVerifier) (proofJwt : String) (e : ProofExpectation)
    (nowOverride : Option SystemTime) (clock₁ clock₂ : SystemTime) :
    Except DPoPError (DPoPProofClaims × JwkEc) × DPoPVerifier :=
  match v.verifyProofNoReplay X proofJwt e nowOverride clock₁ with
  | .error err => (.error err, v)
  | .ok (claims, jwk) =>
    match clock₂.unixSecs with
    | .error err => (.error (.clockSkew err), v)
    | .ok now =>
      match v.record (jwk.thumbprint X) claims.jti (v.expiresAt now) now with
      | (.error err, v') => (.error err, v')
      | (.ok (), v') => (.ok (claims, jwk), v')

end DPoPVerifier

end Skyauth
