import Skyauth.Http

/-!
# Access tokens

JWT access tokens and their validator (`src/integrations/validator.rs`): the claims and how they are
signed, and `JwtAccessTokenValidator`, which selects a key, verifies the signature and then checks the
claims one after the other.
-/

namespace Skyauth

/-- What the validator takes from outside besides the functions of `Crates`. -/
structure ValidatorCrates extends Crates where
  /-- The `Debug` form of a text, with its quotes. -/
  strDebug : String → String

/-- The `Debug` form of an optional text. -/
def ValidatorCrates.debugOption (X : ValidatorCrates) : Option String → String
  | none => "None"
  | some s => "Some(" ++ X.strDebug s ++ ")"

/-! ## Claims -/

/-- The confirmation claim (`CnfClaim`). -/
structure CnfClaim where
  jkt : String
  deriving Repr, DecidableEq

/-- The claims of an access token (`JwtAccessTokenClaims`). -/
structure JwtAccessTokenClaims where
  iss : String
  sub : String
  clientId : String
  aud : Option Json
  exp : UInt64
  nbf : Option UInt64
  iat : UInt64
  jti : String
  scope : Option String
  cnf : CnfClaim

/-- A member that is left out when there is no value (`skip_serializing_if`). -/
def optionalMember {T : Type} (name : String) (encode : T → Json) : Option T → List (String × Json)
  | none => []
  | some v => [(name, encode v)]

/-- A number as it is written. -/
def Json.ofU64 (n : UInt64) : Json := .int n.toNat

/-- A field of type `u64`, as a machine number. -/
def Json.toUInt64Field (j : Json) : Except String UInt64 := j.toU64Field.map UInt64.ofNat

/-- The derived `Deserialize`; a derived struct is also read from an array of its fields. -/
def CnfClaim.fromJson : Json → Except String CnfClaim
  | .arr [jkt] => do return { jkt := ← jkt.toStringField }
  | .arr _ => .error "invalid length, expected struct CnfClaim with 1 element"
  | .obj members => do
    return { jkt := ← Json.required "jkt" Json.toStringField (← Json.member members "jkt") }
  | _ => .error "invalid type, expected struct CnfClaim"

namespace JwtAccessTokenClaims

/-- `JwtAccessTokenClaims::new`, with its clock reading and the random bytes it draws. -/
def new (iss sub : String) (exp : UInt64) (dpopThumbprint : String) (clock : SystemTime)
    (raw : List UInt8) : JwtAccessTokenClaims where
  iss := iss
  sub := sub
  clientId := "https://app.example.com/client-metadata.json"
  aud := none
  exp := exp
  nbf := none
  iat := UInt64.ofNat ((clock.unixSecs.toOption).getD 0)
  jti := base64urlEncode raw
  scope := none
  cnf := { jkt := dpopThumbprint }

def withAudience (claims : JwtAccessTokenClaims) (aud : String) : JwtAccessTokenClaims :=
  { claims with aud := some (.str aud) }

def withScope (claims : JwtAccessTokenClaims) (scope : String) : JwtAccessTokenClaims :=
  { claims with scope := some scope }

def withNbf (claims : JwtAccessTokenClaims) (nbf : UInt64) : JwtAccessTokenClaims :=
  { claims with nbf := some nbf }

/-- The derived `Serialize`, in order of declaration. -/
def toJson (claims : JwtAccessTokenClaims) : Json :=
  .obj ([("iss", .str claims.iss), ("sub", .str claims.sub), ("client_id", .str claims.clientId)] ++
    optionalMember "aud" id claims.aud ++ [("exp", .ofU64 claims.exp)] ++
    optionalMember "nbf" .ofU64 claims.nbf ++
    [("iat", .ofU64 claims.iat), ("jti", .str claims.jti)] ++
    optionalMember "scope" .str claims.scope ++ [("cnf", .obj [("jkt", .str claims.cnf.jkt)])])

/-- The derived `Deserialize`. -/
def fromJson : Json → Except String JwtAccessTokenClaims
  | .arr [iss, sub, clientId, aud, exp, nbf, iat, jti, scope, cnf] => do
    return { iss := ← iss.toStringField, sub := ← sub.toStringField,
             clientId := ← clientId.toStringField, aud := ← aud.toOptionField .ok,
             exp := ← exp.toUInt64Field, nbf := ← nbf.toOptionField Json.toUInt64Field,
             iat := ← iat.toUInt64Field, jti := ← jti.toStringField,
             scope := ← scope.toOptionField Json.toStringField, cnf := ← CnfClaim.fromJson cnf }
  | .arr _ => .error "invalid length, expected struct JwtAccessTokenClaims with 10 elements"
  | .obj members => do
    return { iss := ← Json.required "iss" Json.toStringField (← Json.member members "iss")
             sub := ← Json.required "sub" Json.toStringField (← Json.member members "sub")
             clientId := ← Json.required "client_id" Json.toStringField
               (← Json.member members "client_id")
             aud := ← Json.optional .ok (← Json.member members "aud")
             exp := ← Json.required "exp" Json.toUInt64Field (← Json.member members "exp")
             nbf := ← Json.optional Json.toUInt64Field (← Json.member members "nbf")
             iat := ← Json.required "iat" Json.toUInt64Field (← Json.member members "iat")
             jti := ← Json.required "jti" Json.toStringField (← Json.member members "jti")
             scope := ← Json.optional Json.toStringField (← Json.member members "scope")
             cnf := ← Json.required "cnf" CnfClaim.fromJson (← Json.member members "cnf") }
  | _ => .error "invalid type, expected struct JwtAccessTokenClaims"

end JwtAccessTokenClaims

/-- The header of an access token, with sorted members. -/
def accessTokenHeader (kid : Option String) : Json :=
  .obj ([("alg", .str "ES256")] ++ optionalMember "kid" .str kid ++ [("typ", .str "at+jwt")])

/-- `sign_jwt`. -/
def JwtAccessTokenClaims.signJwt (X : Crates) (claims : JwtAccessTokenClaims) (signingKey : SigningKey)
    (kid : Option String) : Except CryptoError String := do
  let headerStr ← (X.jsonToString (accessTokenHeader kid)).mapError .json
  let payloadStr ← (X.jsonToString claims.toJson).mapError .json
  let signingInput := base64urlEncode (Text.asBytes headerStr) ++ "." ++
    base64urlEncode (Text.asBytes payloadStr)
  let signatureBytes ← signP256Raw X signingKey (Text.asBytes signingInput)
  return signingInput ++ "." ++ base64urlEncode signatureBytes

/-! ## The validator -/

/-- A validator with its configuration (`JwtAccessTokenValidator`). -/
structure JwtAccessTokenValidator where
  trustedKeys : Table String VerifyingKey
  defaultKey : Option VerifyingKey
  expectedIssuer : Option String
  expectedAudience : Option String
  expectedSubject : Option String
  requiredScopes : List String
  clockSkewLeeway : Duration

namespace JwtAccessTokenValidator

def new : JwtAccessTokenValidator where
  trustedKeys := ∅
  defaultKey := none
  expectedIssuer := none
  expectedAudience := none
  expectedSubject := none
  requiredScopes := []
  clockSkewLeeway := Duration.fromSecs 60 Duration.minute_lt

def withTrustedKey (v : JwtAccessTokenValidator) (kid : String) (key : VerifyingKey) :
    JwtAccessTokenValidator :=
  { v with trustedKeys := v.trustedKeys.insert kid key }

def withVerifyingKey (v : JwtAccessTokenValidator) (key : VerifyingKey) : JwtAccessTokenValidator :=
  { v with defaultKey := some key }

def withExpectedIssuer (v : JwtAccessTokenValidator) (issuer : String) : JwtAccessTokenValidator :=
  { v with expectedIssuer := some issuer }

def withExpectedAudience (v : JwtAccessTokenValidator) (audience : String) : JwtAccessTokenValidator :=
  { v with expectedAudience := some audience }

def withExpectedSubject (v : JwtAccessTokenValidator) (subject : String) : JwtAccessTokenValidator :=
  { v with expectedSubject := some subject }

def withRequiredScope (v : JwtAccessTokenValidator) (scope : String) : JwtAccessTokenValidator :=
  { v with requiredScopes := v.requiredScopes ++ [scope] }

def withClockSkew (v : JwtAccessTokenValidator) (leeway : Duration) : JwtAccessTokenValidator :=
  { v with clockSkewLeeway := leeway }

/-- The key that a token with this key ID has to be signed with. -/
def selectKey (v : JwtAccessTokenValidator) : Option String → Option VerifyingKey
  | some kid =>
    match v.trustedKeys.lookup kid with
    | some key => some key
    | none => if v.trustedKeys.size = 0 then v.defaultKey else none
  | none =>
    match v.defaultKey with
    | some key => some key
    | none => if v.trustedKeys.size = 1 then v.trustedKeys.entries.head?.map (·.2) else none

end JwtAccessTokenValidator

/-- The error for a token that cannot be read. -/
def malformedToken (msg : String) : IntegrationError := .token (.malformedToken msg)

/-- The checks on the header, which give the key ID. -/
def accessTokenKid (X : ValidatorCrates) (headerVal : Json) : Except IntegrationError (Option String) := do
  let alg ← ((headerVal.get "alg").bind Json.asStr).elim (.error (malformedToken "Missing alg header")) .ok
  if alg ≠ "ES256" then
    .error (malformedToken ("Unsupported alg in access token: expected 'ES256', got '" ++ alg ++ "'"))
  let typ := (headerVal.get "typ").bind Json.asStr
  if !typ.any fun t =>
      Text.eqIgnoreAsciiCase t "at+jwt" || Text.eqIgnoreAsciiCase t "application/at+jwt" then
    .error (malformedToken ("Unsupported typ in access token: expected 'at+jwt', got " ++
      X.debugOption typ))
  return (headerVal.get "kid").bind Json.asStr

namespace JwtAccessTokenValidator

/-- The part of `verify_token_sync` up to the claims: the format of the token, its key and its
    signature. -/
def decodeToken (X : ValidatorCrates) (v : JwtAccessTokenValidator) (token : String) :
    Except IntegrationError JwtAccessTokenClaims := do
  match Text.split '.' (Text.trim token) with
  | [header, payload, signature] =>
    let headerBytes ← (base64urlDecode X.toCrates header).mapError fun e => malformedToken e.display
    let payloadBytes ← (base64urlDecode X.toCrates payload).mapError fun e => malformedToken e.display
    let signatureBytes ← (base64urlDecode X.toCrates signature).mapError
      fun e => malformedToken e.display
    let headerVal ← (X.jsonFromSlice headerBytes).mapError malformedToken
    let kid ← accessTokenKid X headerVal
    let verifyingKey ← (v.selectKey kid).elim
      (.error (.authFailed "No matching trusted verifying key found for access token")) .ok
    let signingInput := header ++ "." ++ payload
    (verifyP256Raw X.toCrates verifyingKey (Text.asBytes signingInput) signatureBytes).mapError
      fun _ => .token .invalidSignature
    (X.jsonFromSlice payloadBytes >>= JwtAccessTokenClaims.fromJson).mapError malformedToken
  | parts =>
    .error (malformedToken ("Expected 3 parts in compact JWT, got " ++ toString parts.length))

/-- The checks on `exp` and `nbf`: the leeway shortens the life of a token and brings its start
    forward. -/
def checkLifetime (v : JwtAccessTokenValidator) (claims : JwtAccessTokenClaims) (now : Nat) :
    Except IntegrationError Unit :=
  let leewaySecs := v.clockSkewLeeway.asSecs
  if claims.exp.toNat ≤ saturatingAdd now leewaySecs then
    .error (.token (.expired claims.exp.toNat now))
  else
    match claims.nbf with
    | some nbf =>
      if saturatingAdd now leewaySecs < nbf.toNat then .error (.token (.notYetValid nbf.toNat now))
      else .ok ()
    | none => .ok ()

/-- The checks on `iss`. -/
def checkIssuer (v : JwtAccessTokenValidator) (claims : JwtAccessTokenClaims) :
    Except IntegrationError Unit :=
  if Text.trim claims.iss = "" then .error (.token .missingIssuer)
  else
    match v.expectedIssuer with
    | none =>
      .error (.authFailed ("Validator misconfigured: an expected issuer is required before any " ++
        "access token can be accepted (RFC 9068 § 4 / RFC 9449 § 7.2)"))
    | some expIss =>
      if claims.iss ≠ expIss then .error (.token (.issuerMismatch expIss claims.iss)) else .ok ()

/-- The audience claim names this audience. -/
def matchesAudience (expAud : String) : Option Json → Bool
  | some (.str s) => s == expAud
  | some (.arr items) => items.any fun item => item.asStr.any (· == expAud)
  | _ => false

/-- The checks on `aud`. -/
def checkAudience (X : Crates) (v : JwtAccessTokenValidator) (claims : JwtAccessTokenClaims) :
    Except IntegrationError Unit :=
  if claims.aud.isNone then .error (.token .missingAudience)
  else
    match v.expectedAudience with
    | none =>
      .error (.authFailed ("Validator misconfigured: an expected audience is required before any " ++
        "access token can be accepted (RFC 9068 § 4)"))
    | some expAud =>
      if matchesAudience expAud claims.aud then .ok ()
      else
        -- the `Display` of a JSON value is its text, which always can be printed
        let actual := (claims.aud.map fun aud => (X.jsonToString aud).toOption.getD "").getD "none"
        .error (.token (.audienceMismatch expAud actual))

/-- The checks on `sub`. -/
def checkSubject (v : JwtAccessTokenValidator) (claims : JwtAccessTokenClaims) :
    Except IntegrationError Unit :=
  if Text.trim claims.sub = "" then .error (.token .missingDid)
  else
    match v.expectedSubject with
    | some expSub =>
      if claims.sub ≠ expSub then .error (.token (.subMismatch expSub claims.sub)) else .ok ()
    | none => .ok ()

/-- The check of the granted scopes. -/
def checkScopes (v : JwtAccessTokenValidator) (claims : JwtAccessTokenClaims) :
    Except IntegrationError Unit :=
  let grantedScopes := Text.splitWhitespace (claims.scope.getD "")
  if v.requiredScopes.all fun required => grantedScopes.contains required then .ok ()
  else .error (.token (.missingAtprotoScope (claims.scope.getD "")))

/-- The check of the key binding. -/
def checkBinding (claims : JwtAccessTokenClaims) (dpopThumbprint : String) :
    Except IntegrationError Unit :=
  if constantTimeEq (Text.asBytes claims.cnf.jkt) (Text.asBytes dpopThumbprint) then .ok ()
  else .error (.token (.cnfThumbprintMismatch claims.cnf.jkt dpopThumbprint))

/-- `verify_token_sync`, with its clock reading. -/
def verifyTokenSync (X : ValidatorCrates) (v : JwtAccessTokenValidator) (token dpopThumbprint : String)
    (clock : SystemTime) : Except IntegrationError AuthenticatedUser := do
  let claims ← v.decodeToken X token
  let now ← clock.unixSecs.mapError .internal
  v.checkLifetime claims now
  v.checkIssuer claims
  v.checkAudience X.toCrates claims
  v.checkSubject claims
  v.checkScopes claims
  checkBinding claims dpopThumbprint
  return { did := claims.sub, accessToken := token, dpopThumbprint := dpopThumbprint,
           scope := claims.scope }

end JwtAccessTokenValidator

end Skyauth
