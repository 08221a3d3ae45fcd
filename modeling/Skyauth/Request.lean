import Skyauth.Http
import Skyauth.Lib.Table

/-!
# DPoP requests of the client

`send_dpop_request` of `src/client.rs`, with the client's nonce cache and the bounded reading of
bodies. Everything outside the client is a `Network` over a state: the SSRF filter with its name
resolution, and the servers that requests reach. A request that the server challenges for a nonce is
sent once more.
-/

namespace Skyauth

def MAX_OAUTH_RESPONSE_BYTES : Nat := 1048576

/-! ## The nonce cache -/

/-- The nonces of the servers by origin (`DPoPNonceCache`). -/
structure DPoPNonceCache where
  cache : Table String String

namespace DPoPNonceCache

/-- The key of an origin. -/
def originKey (origin : String) : String := Text.toAsciiLowercase (Text.trim origin)

def setNonce (c : DPoPNonceCache) (origin nonce : String) : DPoPNonceCache where
  cache := c.cache.insert (originKey origin) nonce

def getNonce (c : DPoPNonceCache) (origin : String) : Option String :=
  c.cache.lookup (originKey origin)

/-- The cache after a response: the nonce it carries, if any, is the nonce of its origin. -/
def learn (c : DPoPNonceCache) (origin : String) (headers : HeaderMap) : DPoPNonceCache :=
  match extractDpopNonce (headerText headers "dpop-nonce") with
  | some nonce => c.setNonce origin nonce
  | none => c

end DPoPNonceCache

def requireDpopNonce (headers : HeaderMap) : Except DPoPError Unit :=
  if (headerText headers "dpop-nonce").any fun v => Text.trim v ≠ "" then .ok ()
  else .error .responseMissingDpopNonce

/-! ## Bodies -/

/-- A response body as it comes in: the announced length and the chunks, the last of which may be a
    failure of the stream. -/
structure WireBody where
  contentLength : Option Nat
  chunks : List (Except String (List UInt8))

namespace WireBody

/-- A body that is in memory. -/
def ofBytes (bytes : List UInt8) : WireBody where
  contentLength := some bytes.length
  chunks := [.ok bytes]

instance : Inhabited WireBody := ⟨⟨some 0, []⟩⟩

/-- The loop of `read_bounded_body`. -/
def readChunks (maxBytes : Nat) (contentLength : Option Nat) :
    List UInt8 → List (Except String (List UInt8)) → Except SsrfError (List UInt8)
  | buffer, [] => .ok buffer
  | _, .error e :: _ => .error (.http e)
  | buffer, .ok chunk :: rest =>
    if maxBytes < buffer.length + chunk.length then
      .error (.responseTooLarge maxBytes (contentLength.getD (buffer.length + chunk.length)))
    else readChunks maxBytes contentLength (buffer ++ chunk) rest

def readBoundedBody (body : WireBody) (maxBytes : Nat) : Except SsrfError (List UInt8) :=
  if body.contentLength.any fun n => maxBytes < n then
    .error (.responseTooLarge maxBytes (body.contentLength.getD 0))
  else readChunks maxBytes body.contentLength [] body.chunks

end WireBody

/-! ## Challenges -/

/-- A parameter of a challenge that names the error `use_dpop_nonce`. -/
def isNonceErrorParam (param : String) : Bool :=
  match Text.splitOnce '=' (Text.trim param) with
  | none => false
  | some (key, value) =>
    Text.eqIgnoreAsciiCase (Text.trim key) "error" &&
      Text.eqIgnoreAsciiCase (Text.trimMatches (· == '"') (Text.trim value)) "use_dpop_nonce"

/-- A `WWW-Authenticate` value that asks for a nonce. The source splits before the first blank and
    drops it with `trim_start`. -/
def isNonceChallenge (challenge : String) : Bool :=
  match Text.splitOnce ' ' (Text.trim challenge) with
  | none => false
  | some (scheme, rest) =>
    Text.eqIgnoreAsciiCase scheme "DPoP" &&
      (Text.split ',' (Text.trimStart rest)).any isNonceErrorParam

def isRsDpopNonceChallenge (headers : HeaderMap) : Bool :=
  ((headers.getAll "www-authenticate").filterMap HeaderValue.toStr).any isNonceChallenge

def isUseDpopNonceError (json : Option Json) : Bool :=
  (json.bind fun j => (j.get "error").bind Json.asStr) == some "use_dpop_nonce"

/-- The response is of a class in which a challenge may come. -/
def mayChallenge (status : Nat) : Bool := status == 400 || status == 401

/-- The classification of a 400 or 401 response: nothing for a challenge, otherwise the response
    rebuilt from the body that was read. -/
def classify (X : Crates) (resp : Response WireBody) :
    Except AtprotoOAuthError (Option (Response WireBody)) :=
  if isRsDpopNonceChallenge resp.headers then .ok none
  else
    match resp.body.readBoundedBody MAX_OAUTH_RESPONSE_BYTES with
    | .error e => .error (.token (.http e.display))
    | .ok bytes =>
      if isUseDpopNonceError (X.jsonFromSlice bytes).toOption then .ok none
      else .ok (some { resp with body := WireBody.ofBytes bytes })

/-! ## Sending -/

/-- A request as the client sends it. -/
structure ClientRequest where
  method : String
  url : String
  headers : HeaderMap
  body : Option (List UInt8)

/-- Everything outside the client, over states `W`. -/
structure Network (W : Type) where
  /-- `build_pinned_client`: the `Host` header of the connection, if the filter lets it pass. -/
  buildPinnedClient : W → Url → Except SsrfError String × W
  /-- The exchange of one request. -/
  send : W → ClientRequest → Except String (Response WireBody) × W

/-- A client at work: its nonce cache, the world around it, and the requests it has sent. -/
structure Client (W : Type) where
  nonceCache : DPoPNonceCache
  world : W
  sent : List ClientRequest

/-- The arguments of `send_dpop_request`. -/
structure DpopRequest where
  dpopKey : DPoPKey
  method : String
  urlStr : String
  accessToken : Option String
  bodyBytes : Option (List UInt8)
  contentType : Option String

/-- What the creation of a proof draws: a clock reading and the bytes of the `jti`. -/
structure ProofDraw where
  clock : SystemTime
  jtiBytes : List UInt8

namespace DpopRequest

/-- The proof of a request with a nonce. -/
def proof (X : Crates) (r : DpopRequest) (nonce : Option String) (draw : ProofDraw) :
    Except DPoPError String :=
  r.dpopKey.createProof X r.method r.urlStr nonce (r.accessToken.map (computeAccessTokenHash X))
    draw.clock draw.jtiBytes

/-- The headers of a request, as texts. -/
def headerTexts (r : DpopRequest) (hostHeader proof : String) : List (String × String) :=
  [("host", hostHeader), ("dpop", proof)] ++
    (r.accessToken.map fun token => ("authorization", "DPoP " ++ token)).toList ++
    (r.contentType.map fun ct => ("content-type", ct)).toList

/-- The request that is sent; a text that is no legal header value fails it. -/
def build (r : DpopRequest) (hostHeader proof : String) : Except String ClientRequest :=
  match (r.headerTexts hostHeader proof).mapM fun h => (HeaderValue.fromStr h.2).map (h.1, ·) with
  | none => .error "builder error"
  | some headers => .ok { method := r.method, url := r.urlStr, headers := headers, body := r.bodyBytes }

end DpopRequest

namespace Client

variable {W : Type}

/-- Sends a request and keeps the nonce of its response. -/
def transmit (net : Network W) (c : Client W) (origin : String)
    (request : Except String ClientRequest) :
    Except AtprotoOAuthError (Response WireBody) × Client W :=
  match request with
  | .error e => (.error (.token (.http e)), c)
  | .ok request =>
    match net.send c.world request with
    | (.error e, world) =>
      (.error (.token (.http e)), { c with world := world, sent := c.sent ++ [request] })
    | (.ok resp, world) =>
      (.ok resp, { nonceCache := c.nonceCache.learn origin resp.headers, world := world,
                   sent := c.sent ++ [request] })

/-- What is done with the response to the retry. -/
def acceptRetry (X : Crates) (resp : Response WireBody) :
    Except AtprotoOAuthError (Response WireBody) :=
  if mayChallenge resp.status then
    match classify X resp with
    | .error e => .error e
    | .ok none => .error (.dpop .nonceRetryLimitExceeded)
    | .ok (some rebuilt) => .ok rebuilt
  else if isSuccess resp.status then
    match requireDpopNonce resp.headers with
    | .error e => .error (.dpop e)
    | .ok () => .ok resp
  else .ok resp

/-- The retry after a challenge with this status. -/
def retry (X : Crates) (net : Network W) (c : Client W) (r : DpopRequest) (parsedUrl : Url)
    (status : Nat) (draw : ProofDraw) : Except AtprotoOAuthError (Response WireBody) × Client W :=
  match c.nonceCache.getNonce parsedUrl.origin with
  | none =>
    (.error (.token (.requestFailed status "use_dpop_nonce" (some "Missing DPoP-Nonce header"))), c)
  | some freshNonce =>
    match r.proof X (some freshNonce) draw with
    | .error e => (.error (.dpop e), c)
    | .ok proof =>
      match net.buildPinnedClient c.world parsedUrl with
      | (.error e, world) => (.error (.token (.ssrf e)), { c with world := world })
      | (.ok hostHeader, world) =>
        match transmit net { c with world := world } parsedUrl.origin (r.build hostHeader proof) with
        | (.error e, c) => (.error e, c)
        | (.ok resp, c) => (acceptRetry X resp, c)

/-- What is done with the response to the first attempt. -/
def acceptFirst (X : Crates) (net : Network W) (c : Client W) (r : DpopRequest) (parsedUrl : Url)
    (resp : Response WireBody) (draw : ProofDraw) :
    Except AtprotoOAuthError (Response WireBody) × Client W :=
  if mayChallenge resp.status then
    match classify X resp with
    | .error e => (.error e, c)
    | .ok (some rebuilt) => (.ok rebuilt, c)
    | .ok none => retry X net c r parsedUrl resp.status draw
  else
    match requireDpopNonce resp.headers with
    | .error e => (.error (.dpop e), c)
    | .ok () => (.ok resp, c)

/-- `send_dpop_request`, with what its two proofs draw. -/
def sendDpopRequest (X : Crates) (net : Network W) (c : Client W) (r : DpopRequest)
    (first second : ProofDraw) : Except AtprotoOAuthError (Response WireBody) × Client W :=
  match X.urlParse r.urlStr with
  | .error e => (.error (.token (.http ("Invalid URL '" ++ r.urlStr ++ "': " ++ e))), c)
  | .ok parsedUrl =>
    match net.buildPinnedClient c.world parsedUrl with
    | (.error e, world) => (.error (.token (.ssrf e)), { c with world := world })
    | (.ok hostHeader, world) =>
      let c := { c with world := world }
      match r.proof X (c.nonceCache.getNonce parsedUrl.origin) first with
      | .error e => (.error (.dpop e), c)
      | .ok proof =>
        match transmit net c parsedUrl.origin (r.build hostHeader proof) with
        | (.error e, c) => (.error e, c)
        | (.ok resp, c) => acceptFirst X net c r parsedUrl resp second

end Client

end Skyauth
