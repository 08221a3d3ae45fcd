import Skyauth.TokenEndpoint

/-!
# Calls that repeat a request with a nonce

`send_dpop_request`, `send_dpop_token_request_inner` and `execute_par_request_with_client_key` go
through the same stages: they connect, send a request with a proof, keep the nonce of the response,
and after a challenge send the request once more. A `NonceFlow` is what they differ in, and its `run`
the course they share.
-/

namespace Skyauth

/-! ## The calls -/

inductive NonceCall where
  | request (r : DpopRequest)
  | token (r : TokenRequest)
  | par (parEndpoint : String) (params : ParParameters) (dpopKey : DPoPKey)
      (clientAuth : Option (DPoPKey × String))

/-- What a call returns when it succeeds. -/
inductive NonceReply where
  | response (resp : Response WireBody)
  | token (resp : TokenResponse)
  | par (resp : ParResponse)

namespace NonceCall

/-- The function that the call is a call of. -/
def send {W : Type} (X : Crates) (net : Network W) (c : Client W) (first second : AttemptDraw) :
    NonceCall → Except AtprotoOAuthError NonceReply × Client W
  | .request r =>
    (c.sendDpopRequest X net r first.proof second.proof).map (Except.map .response) id
  | .token r => (sendDpopTokenRequest X net c r first second).map (Except.map .token) id
  | .par parEndpoint params dpopKey clientAuth =>
    (executeParRequestWithClientKey X net c parEndpoint params dpopKey clientAuth first second).map
      (Except.map .par) id

def urlStr : NonceCall → String
  | .request r => r.urlStr
  | .token r => r.tokenEndpoint
  | .par parEndpoint .. => parEndpoint

def method : NonceCall → String
  | .request r => r.method
  | .token _ => "POST"
  | .par .. => "POST"

def dpopKey : NonceCall → DPoPKey
  | .request r => r.dpopKey
  | .token r => r.dpopKey
  | .par _ _ dpopKey _ => dpopKey

/-- The hash of the access token in the proofs; the requests of a login have no token yet. -/
def ath (X : Crates) : NonceCall → Option String
  | .request r => r.accessToken.map (computeAccessTokenHash X)
  | .token _ => none
  | .par .. => none

end NonceCall

/-- The body of a response is JSON with the error `use_dpop_nonce`. -/
def bodyAsksForNonce (X : Crates) (resp : Response WireBody) : Bool :=
  match readBoundedJson X resp with
  | .error _ => false
  | .ok json => isUseDpopNonceError json

/-- A response that the call takes for a challenge. Only `send_dpop_request` looks at the
    `WWW-Authenticate` header, before it reads the body. -/
def NonceCall.isChallenge (X : Crates) (resp : Response WireBody) : NonceCall → Bool
  | .request _ =>
    mayChallenge resp.status && (isRsDpopNonceChallenge resp.headers || bodyAsksForNonce X resp)
  | .token _ => mayChallenge resp.status && bodyAsksForNonce X resp
  | .par .. => mayChallenge resp.status && bodyAsksForNonce X resp

/-! ## The course of a call -/

/-- A request that waits for the `Host` header and the proof. -/
abbrev RequestDraft := (hostHeader proof : String) → Except String ClientRequest

/-- What a call that repeats a request brings, for an answer of type `R`. -/
structure NonceFlow (R : Type) where
  urlStr : String
  draft : ProofDraw → Except AtprotoOAuthError RequestDraft
  proof : Option String → ProofDraw → Except AtprotoOAuthError String
  /-- The answer that the first response settles; nothing for a challenge. -/
  first : Response WireBody → Option (Except AtprotoOAuthError R)
  /-- The answer to the second response. -/
  second : Response WireBody → Except AtprotoOAuthError R
  /-- The error of a challenge when no nonce is known. -/
  nonceMissing : Nat → AtprotoOAuthError
  invalidUrl : String → AtprotoOAuthError
  ssrf : SsrfError → AtprotoOAuthError
  http : String → AtprotoOAuthError

namespace NonceFlow

variable {R S W : Type}

/-- The flow with its answers converted. -/
def map (g : R → S) (f : NonceFlow R) : NonceFlow S where
  urlStr := f.urlStr
  draft := f.draft
  proof := f.proof
  first resp := (f.first resp).map (Except.map g)
  second resp := (f.second resp).map g
  nonceMissing := f.nonceMissing
  invalidUrl := f.invalidUrl
  ssrf := f.ssrf
  http := f.http

/-- Sends a request and keeps the nonce of its response. -/
def exchange (net : Network W) (f : NonceFlow R) (c : Client W) (origin : String)
    (request : Except String ClientRequest) :
    Except AtprotoOAuthError (Response WireBody) × Client W :=
  match request with
  | .error e => (.error (f.http e), c)
  | .ok request =>
    match net.send c.world request with
    | (.error e, world) =>
      (.error (f.http e), { c with world := world, sent := c.sent ++ [request] })
    | (.ok resp, world) =>
      (.ok resp, { nonceCache := c.nonceCache.learn origin resp.headers, world := world,
                   sent := c.sent ++ [request] })

/-- The retry after a challenge with this status. -/
def retry (net : Network W) (f : NonceFlow R) (c : Client W) (parsedUrl : Url) (status : Nat)
    (draw : AttemptDraw) : Except AtprotoOAuthError R × Client W :=
  match c.nonceCache.getNonce parsedUrl.origin with
  | none => (.error (f.nonceMissing status), c)
  | some freshNonce =>
    match f.proof (some freshNonce) draw.proof with
    | .error e => (.error e, c)
    | .ok proof =>
      match f.draft draw.assertion with
      | .error e => (.error e, c)
      | .ok draft =>
        match net.buildPinnedClient c.world parsedUrl with
        | (.error e, world) => (.error (f.ssrf e), { c with world := world })
        | (.ok hostHeader, world) =>
          match f.exchange net { c with world := world } parsedUrl.origin (draft hostHeader proof) with
          | (.error e, c) => (.error e, c)
          | (.ok resp, c) => (f.second resp, c)

/-- What is done with the response to the first attempt. -/
def acceptFirst (net : Network W) (f : NonceFlow R) (c : Client W) (parsedUrl : Url)
    (resp : Response WireBody) (draw : AttemptDraw) : Except AtprotoOAuthError R × Client W :=
  match f.first resp with
  | some answer => (answer, c)
  | none => f.retry net c parsedUrl resp.status draw

/-- The whole call, with what its two attempts draw. -/
def run (X : Crates) (net : Network W) (f : NonceFlow R) (c : Client W)
    (first second : AttemptDraw) : Except AtprotoOAuthError R × Client W :=
  match X.urlParse f.urlStr with
  | .error e => (.error (f.invalidUrl e), c)
  | .ok parsedUrl =>
    match net.buildPinnedClient c.world parsedUrl with
    | (.error e, world) => (.error (f.ssrf e), { c with world := world })
    | (.ok hostHeader, world) =>
      let c := { c with world := world }
      match f.draft first.assertion with
      | .error e => (.error e, c)
      | .ok draft =>
        match f.proof (c.nonceCache.getNonce parsedUrl.origin) first.proof with
        | .error e => (.error e, c)
        | .ok proof =>
          match f.exchange net c parsedUrl.origin (draft hostHeader proof) with
          | (.error e, c) => (.error e, c)
          | (.ok resp, c) => f.acceptFirst net c parsedUrl resp second

end NonceFlow

/-! ## The flows -/

/-- The course of `send_dpop_request`. -/
def DpopRequest.flow (X : Crates) (r : DpopRequest) : NonceFlow (Response WireBody) where
  urlStr := r.urlStr
  draft _ := .ok r.build
  proof nonce draw := (r.proof X nonce draw).mapError .dpop
  first resp :=
    if mayChallenge resp.status then
      match classify X resp with
      | .error e => some (.error e)
      | .ok (some rebuilt) => some (.ok rebuilt)
      | .ok none => none
    else some (((requireDpopNonce resp.headers).mapError .dpop).map fun () => resp)
  second := Client.acceptRetry X
  nonceMissing status :=
    .token (.requestFailed status "use_dpop_nonce" (some "Missing DPoP-Nonce header"))
  invalidUrl e := .token (.http ("Invalid URL '" ++ r.urlStr ++ "': " ++ e))
  ssrf e := .token (.ssrf e)
  http e := .token (.http e)

/-- The course of a form that is posted. -/
def FormPost.flow {R : Type} (X : Crates) (r : FormPost R) : NonceFlow R where
  urlStr := r.endpoint
  draft draw := (r.body draw).map fun bodyBytes hostHeader proof => r.build hostHeader proof bodyBytes
  proof nonce draw :=
    (r.dpopKey.createProof X "POST" r.endpoint nonce none draw.clock draw.jtiBytes).mapError .dpop
  first resp :=
    if isRedirection resp.status then some (.error (r.redirected resp.status))
    else if isSuccess resp.status then some (r.acceptSuccess resp)
    else
      match readBoundedJson X resp with
      | .error e => some (.error (r.http e.display))
      | .ok json =>
        if mayChallenge resp.status && isUseDpopNonceError json then none
        else some (.error (r.failure resp.status json))
  second := r.acceptRetry X
  nonceMissing status := r.requestFailed status "use_dpop_nonce"
    (some "Missing DPoP-Nonce header in challenge response")
  invalidUrl := r.invalidUrl
  ssrf := r.ssrf
  http := r.http

/-- The course of a call. -/
def NonceCall.flow (X : Crates) : NonceCall → NonceFlow NonceReply
  | .request r => (r.flow X).map .response
  | .token r => ((r.formPost X).flow X).map .token
  | .par parEndpoint params dpopKey clientAuth =>
    ((params.formPost X parEndpoint dpopKey clientAuth).flow X).map .par

end Skyauth
