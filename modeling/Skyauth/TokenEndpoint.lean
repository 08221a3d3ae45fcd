import Skyauth.Refresh
import Skyauth.Request

/-!
# Requests to an authorization server

`send_dpop_token_request_inner` of `src/client.rs` and `execute_par_request_with_client_key` of
`src/par.rs`. Both post a form with a proof, refuse redirects, and repeat the request once when the
server asks for a nonce; they differ in the form, in the parsing of the answer and in their errors,
which are the fields of a `FormPost`.
-/

namespace Skyauth

def CLIENT_ASSERTION_TYPE_JWT_BEARER : String :=
  "urn:ietf:params:oauth:client-assertion-type:jwt-bearer"

def isRedirection (status : Nat) : Bool := 300 ≤ status && status < 400

/-! ## Forms -/

/-- A byte of `application/x-www-form-urlencoded` text. -/
def formByte (b : UInt8) : String :=
  let c := Char.ofNat b.toNat
  if c.isAlphanum && b < 128 || c == '*' || c == '-' || c == '.' || c == '_' then String.singleton c
  else if c == ' ' then "+"
  else
    let hex (d : Nat) : String := String.singleton ((Nat.digitChar d).toUpper)
    "%" ++ hex (b.toNat / 16) ++ hex (b.toNat % 16)

def formText (s : String) : String := String.join ((Text.asBytes s).map formByte)

/-- `Serializer::append_pair`, on the text so far. -/
def appendPair (text : String) (pair : String × String) : String :=
  (if text = "" then "" else text ++ "&") ++ formText pair.1 ++ "=" ++ formText pair.2

/-- The form of these pairs. -/
def formUrlencoded (pairs : List (String × String)) : String := pairs.foldl appendPair ""

/-! ## Client assertions -/

/-- The header of a client assertion, with sorted members. -/
def assertionHeader (kid : String) : Json :=
  .obj [("alg", .str "ES256"), ("kid", .str kid), ("typ", .str "jwt")]

/-- The payload of a client assertion, with sorted members. -/
def assertionPayload (clientId audience jti : String) (iatSecs : Nat) : Json :=
  .obj [("aud", .str audience), ("exp", .int (saturatingAdd iatSecs 60)), ("iat", .int iatSecs),
    ("iss", .str clientId), ("jti", .str jti), ("sub", .str clientId)]

/-- `create_client_assertion`, with what it draws. -/
def DPoPKey.createClientAssertion (X : Crates) (key : DPoPKey) (clientId audience : String)
    (draw : ProofDraw) : Except DPoPError String := do
  let iatSecs ← draw.clock.unixSecs.mapError .clockSkew
  let jti := base64urlEncode draw.jtiBytes
  let headerStr ← (X.jsonToString (assertionHeader (key.jwkThumbprint X))).mapError .serialization
  let payloadStr ← (X.jsonToString (assertionPayload clientId audience jti iatSecs)).mapError
    .serialization
  let signingInput := base64urlEncode (Text.asBytes headerStr) ++ "." ++
    base64urlEncode (Text.asBytes payloadStr)
  let sigBytes ← (signP256Raw X key.signingKey (Text.asBytes signingInput)).mapError .crypto
  return signingInput ++ "." ++ base64urlEncode sigBytes

/-- The pairs that authenticate a confidential client. -/
def assertionPairs (assertion : String) : List (String × String) :=
  [("client_assertion_type", CLIENT_ASSERTION_TYPE_JWT_BEARER), ("client_assertion", assertion)]

/-! ## Posting a form -/

/-- A form that is posted with a proof, for an answer of type `R`. -/
structure FormPost (R : Type) where
  endpoint : String
  dpopKey : DPoPKey
  /-- The body, with what a client assertion draws. -/
  body : ProofDraw → Except AtprotoOAuthError (List UInt8)
  parse : List UInt8 → Except AtprotoOAuthError R
  invalidUrl : String → AtprotoOAuthError
  ssrf : SsrfError → AtprotoOAuthError
  http : String → AtprotoOAuthError
  nonceMissing : DPoPError → AtprotoOAuthError
  requestFailed : Nat → String → Option String → AtprotoOAuthError
  redirects : String
  /-- The error code of a body that names none. -/
  unspecified : String

/-- What one attempt draws. -/
structure AttemptDraw where
  assertion : ProofDraw
  proof : ProofDraw

/-- `read_bounded_json`: nothing for a body that is not JSON. -/
def readBoundedJson (X : Crates) (resp : Response WireBody) : Except SsrfError (Option Json) :=
  (resp.body.readBoundedBody MAX_OAUTH_RESPONSE_BYTES).map fun bytes =>
    (X.jsonFromSlice bytes).toOption

namespace FormPost

variable {R W : Type}

/-- The headers of the request, as texts. -/
def headerTexts (hostHeader proof : String) : List (String × String) :=
  [("host", hostHeader), ("content-type", "application/x-www-form-urlencoded"),
    ("accept", "application/json"), ("dpop", proof)]

/-- The request that is sent; a text that is no legal header value fails it. -/
def build (r : FormPost R) (hostHeader proof : String) (bodyBytes : List UInt8) :
    Except String ClientRequest :=
  match (headerTexts hostHeader proof).mapM fun h => (HeaderValue.fromStr h.2).map (h.1, ·) with
  | none => .error "builder error"
  | some headers =>
    .ok { method := "POST", url := r.endpoint, headers := headers, body := some bodyBytes }

/-- The proof of an attempt. -/
def proof (X : Crates) (r : FormPost R) (nonce : Option String) (draw : AttemptDraw) :
    Except AtprotoOAuthError String :=
  (r.dpopKey.createProof X "POST" r.endpoint nonce none draw.proof.clock draw.proof.jtiBytes).mapError
    .dpop

/-- Sends a request and keeps the nonce of its response. -/
def exchange (net : Network W) (r : FormPost R) (c : Client W) (origin : String)
    (request : Except String ClientRequest) :
    Except AtprotoOAuthError (Response WireBody) × Client W :=
  match request with
  | .error e => (.error (r.http e), c)
  | .ok request =>
    match net.send c.world request with
    | (.error e, world) =>
      (.error (r.http e), { c with world := world, sent := c.sent ++ [request] })
    | (.ok resp, world) =>
      (.ok resp, { nonceCache := c.nonceCache.learn origin resp.headers, world := world,
                   sent := c.sent ++ [request] })

/-- The error of an answer that is a failure, with the fields of its body. -/
def failure (r : FormPost R) (status : Nat) (json : Option Json) : AtprotoOAuthError :=
  let field (name : String) := json.bind fun j => (j.get name).bind Json.asStr
  r.requestFailed status ((field "error").getD r.unspecified) (field "error_description")

/-- The error of a redirect. -/
def redirected (r : FormPost R) (status : Nat) : AtprotoOAuthError :=
  r.requestFailed status "invalid_request" (some r.redirects)

/-- A successful answer, which must carry a nonce. -/
def acceptSuccess (r : FormPost R) (resp : Response WireBody) : Except AtprotoOAuthError R := do
  (requireDpopNonce resp.headers).mapError r.nonceMissing
  let bytes ← (resp.body.readBoundedBody MAX_OAUTH_RESPONSE_BYTES).mapError (r.http ·.display)
  r.parse bytes

/-- What is done with the response to the retry. -/
def acceptRetry (X : Crates) (r : FormPost R) (resp : Response WireBody) :
    Except AtprotoOAuthError R :=
  if isRedirection resp.status then .error (r.redirected resp.status)
  else if isSuccess resp.status then r.acceptSuccess resp
  else
    match readBoundedJson X resp with
    | .error e => .error (r.http e.display)
    | .ok json =>
      if isUseDpopNonceError json then .error (.dpop .nonceRetryLimitExceeded)
      else .error (r.failure resp.status json)

/-- The retry after a challenge with this status. -/
def retry (X : Crates) (net : Network W) (r : FormPost R) (c : Client W) (parsedUrl : Url)
    (status : Nat) (draw : AttemptDraw) : Except AtprotoOAuthError R × Client W :=
  match c.nonceCache.getNonce parsedUrl.origin with
  | none =>
    (.error (r.requestFailed status "use_dpop_nonce"
      (some "Missing DPoP-Nonce header in challenge response")), c)
  | some freshNonce =>
    match r.proof X (some freshNonce) draw with
    | .error e => (.error e, c)
    | .ok proof =>
      match r.body draw.assertion with
      | .error e => (.error e, c)
      | .ok bodyBytes =>
        match net.buildPinnedClient c.world parsedUrl with
        | (.error e, world) => (.error (r.ssrf e), { c with world := world })
        | (.ok hostHeader, world) =>
          match r.exchange net { c with world := world } parsedUrl.origin
              (r.build hostHeader proof bodyBytes) with
          | (.error e, c) => (.error e, c)
          | (.ok resp, c) => (r.acceptRetry X resp, c)

/-- What is done with the response to the first attempt. -/
def acceptFirst (X : Crates) (net : Network W) (r : FormPost R) (c : Client W) (parsedUrl : Url)
    (resp : Response WireBody) (draw : AttemptDraw) : Except AtprotoOAuthError R × Client W :=
  if isRedirection resp.status then (.error (r.redirected resp.status), c)
  else if isSuccess resp.status then (r.acceptSuccess resp, c)
  else
    match readBoundedJson X resp with
    | .error e => (.error (r.http e.display), c)
    | .ok json =>
      if mayChallenge resp.status && isUseDpopNonceError json then
        r.retry X net c parsedUrl resp.status draw
      else (.error (r.failure resp.status json), c)

/-- The whole exchange, with what its two attempts draw. -/
def run (X : Crates) (net : Network W) (r : FormPost R) (c : Client W) (first second : AttemptDraw) :
    Except AtprotoOAuthError R × Client W :=
  match X.urlParse r.endpoint with
  | .error e => (.error (r.invalidUrl e), c)
  | .ok parsedUrl =>
    match net.buildPinnedClient c.world parsedUrl with
    | (.error e, world) => (.error (r.ssrf e), { c with world := world })
    | (.ok hostHeader, world) =>
      let c := { c with world := world }
      match r.body first.assertion with
      | .error e => (.error e, c)
      | .ok bodyBytes =>
        match r.proof X (c.nonceCache.getNonce parsedUrl.origin) first with
        | .error e => (.error e, c)
        | .ok proof =>
          match r.exchange net c parsedUrl.origin (r.build hostHeader proof bodyBytes) with
          | (.error e, c) => (.error e, c)
          | (.ok resp, c) => r.acceptFirst X net c parsedUrl resp second

end FormPost

/-! ## The token endpoint -/

/-- The derived `Deserialize` of a token response. A derived struct is also read from an array of its
    fields in order of declaration. -/
def TokenResponse.fromJson : Json → Except String TokenResponse
  | .arr [accessToken, tokenType, expiresIn, refreshToken, scope, sub] => do
    return { accessToken := ← accessToken.toStringField, tokenType := ← tokenType.toStringField,
             expiresIn := ← expiresIn.toOptionField Json.toU64Field,
             refreshToken := ← refreshToken.toOptionField Json.toStringField,
             scope := ← scope.toOptionField Json.toStringField, sub := ← sub.toStringField }
  | .arr _ => .error "invalid length, expected struct TokenResponse with 6 elements"
  | .obj members => do
    return { accessToken := ← Json.required "access_token" Json.toStringField
               (← Json.member members "access_token")
             tokenType := ← Json.required "token_type" Json.toStringField
               (← Json.member members "token_type")
             expiresIn := ← Json.optional Json.toU64Field (← Json.member members "expires_in")
             refreshToken := ← Json.optional Json.toStringField
               (← Json.member members "refresh_token")
             scope := ← Json.optional Json.toStringField (← Json.member members "scope")
             sub := ← Json.required "sub" Json.toStringField (← Json.member members "sub") }
  | _ => .error "invalid type, expected struct TokenResponse"

/-- `build_token_form_body`. -/
def buildTokenFormBody (X : Crates) (baseFormBody : String)
    (clientAuth : Option (DPoPKey × String × String)) (draw : ProofDraw) :
    Except AtprotoOAuthError (List UInt8) :=
  match clientAuth with
  | none => .ok (Text.asBytes baseFormBody)
  | some (key, clientId, audience) =>
    match key.createClientAssertion X clientId audience draw with
    | .error e => .error (.dpop e)
    | .ok assertion => .ok (Text.asBytes ((assertionPairs assertion).foldl appendPair baseFormBody))

/-- A token request as a form that is posted. -/
def TokenRequest.formPost (X : Crates) (r : TokenRequest) : FormPost TokenResponse where
  endpoint := r.tokenEndpoint
  dpopKey := r.dpopKey
  body := buildTokenFormBody X (formUrlencoded r.form) r.clientAuth
  parse bytes := (X.jsonFromSlice bytes >>= TokenResponse.fromJson).mapError (.token <| .json ·)
  invalidUrl e := .token (.http ("Invalid token endpoint URL '" ++ r.tokenEndpoint ++ "': " ++ e))
  ssrf e := .token (.ssrf e)
  http e := .token (.http e)
  nonceMissing e := .token (.dpop e)
  requestFailed status error description := .token (.requestFailed status error description)
  redirects := "Redirects are not permitted for token endpoints"
  unspecified := "token_request_failed"

/-- `send_dpop_token_request`. -/
def sendDpopTokenRequest {W : Type} (X : Crates) (net : Network W) (c : Client W) (r : TokenRequest)
    (first second : AttemptDraw) : Except AtprotoOAuthError TokenResponse × Client W :=
  (r.formPost X).run X net c first second

/-! ## Pushed authorization requests -/

/-- The parameters of a pushed authorization request (`ParParameters`). -/
structure ParParameters where
  clientId : String
  redirectUri : String
  scope : String
  state : String
  codeChallenge : String
  codeChallengeMethod : String
  responseType : String
  loginHint : Option String
  clientAssertion : Option String
  deriving Repr, DecidableEq

namespace ParParameters

def new (clientId redirectUri scope state codeChallenge : String) : ParParameters where
  clientId := clientId
  redirectUri := redirectUri
  scope := scope
  state := state
  codeChallenge := codeChallenge
  codeChallengeMethod := "S256"
  responseType := "code"
  loginHint := none
  clientAssertion := none

/-- `encode_pairs`; the type of an assertion is set together with it. -/
def encodePairs (p : ParParameters) : List (String × String) :=
  [("client_id", p.clientId), ("response_type", p.responseType), ("redirect_uri", p.redirectUri),
    ("scope", p.scope), ("state", p.state), ("code_challenge", p.codeChallenge),
    ("code_challenge_method", p.codeChallengeMethod)] ++
    (p.loginHint.map fun hint => ("login_hint", hint)).toList ++
    (p.clientAssertion.elim [] assertionPairs)

def toFormUrlencoded (p : ParParameters) : String := formUrlencoded p.encodePairs

end ParParameters

/-- The answer to a pushed authorization request (`ParResponse`). -/
structure ParResponse where
  requestUri : String
  expiresIn : Nat
  deriving Repr, DecidableEq

/-- `Value::as_u64`. -/
def Json.asU64 : Json → Option Nat
  | .int n => if 0 ≤ n ∧ n < 2 ^ 64 then some n.toNat else none
  | _ => none

def parseParResponse (X : Crates) (bytes : List UInt8) : Except AtprotoOAuthError ParResponse :=
  match X.jsonFromSlice bytes with
  | .error e => .error (.par (.json e))
  | .ok parsed =>
    match (parsed.get "request_uri").bind Json.asStr with
    | none => .error (.par (.missingField "request_uri"))
    | some requestUri =>
      if Text.trim requestUri = "" then .error (.par (.invalidRequestUri "Empty request_uri"))
      else
        match (parsed.get "expires_in").bind Json.asU64 with
        | none => .error (.par (.missingField "expires_in"))
        | some expiresIn => .ok { requestUri := requestUri, expiresIn := expiresIn }

/-- The body of a pushed authorization request. -/
def parFormBody (X : Crates) (params : ParParameters) (clientAuth : Option (DPoPKey × String))
    (draw : ProofDraw) : Except AtprotoOAuthError (List UInt8) :=
  match clientAuth with
  | none => .ok (Text.asBytes params.toFormUrlencoded)
  | some (key, audience) =>
    match key.createClientAssertion X params.clientId audience draw with
    | .error e => .error (.dpop e)
    | .ok assertion =>
      .ok (Text.asBytes { params with clientAssertion := some assertion }.toFormUrlencoded)

/-- A pushed authorization request as a form that is posted. The source posts to the parsed URL of
    the endpoint. -/
def ParParameters.formPost (X : Crates) (params : ParParameters) (parEndpoint : String)
    (dpopKey : DPoPKey) (clientAuth : Option (DPoPKey × String)) : FormPost ParResponse where
  endpoint := parEndpoint
  dpopKey := dpopKey
  body := parFormBody X params clientAuth
  parse := parseParResponse X
  invalidUrl e := .par (.invalidEndpoint ("Invalid PAR endpoint URL '" ++ parEndpoint ++ "': " ++ e))
  ssrf e := .par (.ssrf e)
  http e := .par (.http e)
  nonceMissing e := .par (.dpop e)
  requestFailed status error description := .par (.requestFailed status error description)
  redirects := "Redirects are not permitted for PAR endpoints"
  unspecified := "par_request_failed"

def executeParRequestWithClientKey {W : Type} (X : Crates) (net : Network W) (c : Client W)
    (parEndpoint : String) (params : ParParameters) (dpopKey : DPoPKey)
    (clientAuth : Option (DPoPKey × String)) (first second : AttemptDraw) :
    Except AtprotoOAuthError ParResponse × Client W :=
  (params.formPost X parEndpoint dpopKey clientAuth).run X net c first second

end Skyauth
