import Skyauth.TokenEndpoint
import Skyauth.Store
import Skyauth.Pkce

/-!
# Logins and callbacks

`initiate_login_with_scope`, `exchange_code` and `handle_callback` of `src/client.rs`, and a client
that runs any number of them. What the endpoint discovery answers is arbitrary, so the authorization
servers are; a function takes the clock readings and the random bytes it draws. A login and a callback
are each two actions of a scheduler, since another call may use the state store between them.
-/

namespace Skyauth

/-! ## Exchanging a code -/

/-- The request of `exchange_code`. -/
def exchangeRequest (metadata : ClientMetadata) (code : String) (entry : StoredStateEntry) :
    TokenRequest where
  tokenEndpoint := entry.tokenEndpoint
  dpopKey := entry.dpopKey
  form := [("grant_type", "authorization_code"), ("code", code),
    ("redirect_uri", entry.redirectUri), ("client_id", entry.clientId),
    ("code_verifier", entry.codeVerifier)]
  clientAuth := metadata.clientKey.map fun k => (k, entry.clientId, entry.issuer)

/-- The checks of `exchange_code` on the response, and the session it makes of it. -/
def acceptExchange (entry : StoredStateEntry) (resp : TokenResponse) (now : SystemTime) :
    Except AtprotoOAuthError OAuthSession :=
  if !Text.eqIgnoreAsciiCase resp.tokenType "DPoP" then
    .error (.token (.invalidTokenType resp.tokenType))
  else if Text.trim resp.sub = "" then .error (.token .missingDid)
  else
    match entry.did.filter (resp.sub ≠ ·) with
    | some expectedDid => .error (.token (.subMismatch expectedDid resp.sub))
    | none =>
      match resp.scope with
      | none => .error (.token .missingScope)
      | some scope =>
        if "atproto" ∉ Text.splitWhitespace scope then
          .error (.token (.missingAtprotoScope scope))
        else
          (OAuthSession.new resp.sub resp.accessToken resp.refreshToken resp.tokenType resp.scope
            resp.expiresIn entry.dpopKey (some entry.pdsEndpoint) (some entry.issuer)
            (some entry.tokenEndpoint) now).mapError .token

/-- `exchange_code`, with the answer of `send_dpop_token_request`. -/
def exchangeCode (metadata : ClientMetadata) (code : String) (entry : StoredStateEntry)
    (send : TokenRequest → Except AtprotoOAuthError TokenResponse) (now : SystemTime) :
    Except AtprotoOAuthError OAuthSession := do
  let resp ← send (exchangeRequest metadata code entry)
  acceptExchange entry resp now

/-! ## Initiating a login -/

/-- What the discovery finds, as far as a login reads it (`DiscoveredAuthEndpoints`). -/
structure DiscoveredAuthEndpoints where
  did : String
  handle : Option String
  pdsEndpoint : String
  authServerIssuer : String
  parEndpoint : String
  authorizationEndpoint : String
  tokenEndpoint : String
  deriving Repr, DecidableEq

/-- The metadata of the client that a login reads (`OAuthClientMetadata`). -/
structure OAuthClientMetadata extends ClientMetadata where
  redirectUri : String
  scope : String

/-- The browser redirect of a login (`AuthorizationRequest`): the parsed endpoint and the pairs that
    are appended to its query. -/
structure AuthorizationRequest where
  authorizationUrl : Url
  queryPairs : List (String × String)
  state : String
  requestUri : String
  expiresIn : Nat
  deriving Repr, DecidableEq

/-- A call of `initiate_login_with_scope`: its argument, the answer of the discovery, and what it
    draws. -/
structure LoginCall where
  scope : String
  discovery : Except String DiscoveredAuthEndpoints
  entropy : List UInt8
  stateBytes : List UInt8
  dpopKey : DPoPKey
  first : AttemptDraw
  second : AttemptDraw
  createdAt : SystemTime

namespace LoginCall

def state (l : LoginCall) : String := base64urlEncode l.stateBytes

/-- The parameters of the pushed authorization request. -/
def parParameters (X : Crates) (metadata : OAuthClientMetadata) (l : LoginCall)
    (endpoints : DiscoveredAuthEndpoints) : ParParameters :=
  { ParParameters.new metadata.clientId metadata.redirectUri l.scope l.state
      (PkcePair.generate X l.entropy).challenge with
    loginHint := some (endpoints.handle.getD endpoints.did) }

/-- The pushed authorization request. -/
def parPost (X : Crates) (metadata : OAuthClientMetadata) (l : LoginCall)
    (endpoints : DiscoveredAuthEndpoints) : FormPost ParResponse :=
  (l.parParameters X metadata endpoints).formPost X endpoints.parEndpoint l.dpopKey
    (metadata.clientKey.map fun k => (k, endpoints.authServerIssuer))

/-- The entry that is stored for the callback. -/
def storedState (X : Crates) (metadata : OAuthClientMetadata) (stateTtl : Duration) (l : LoginCall)
    (endpoints : DiscoveredAuthEndpoints) : StoredStateEntry where
  state := l.state
  clientId := metadata.clientId
  codeVerifier := (PkcePair.generate X l.entropy).verifier
  dpopKey := l.dpopKey
  issuer := endpoints.authServerIssuer
  did := some endpoints.did
  handle := endpoints.handle
  redirectUri := metadata.redirectUri
  pdsEndpoint := endpoints.pdsEndpoint
  tokenEndpoint := endpoints.tokenEndpoint
  scopes := l.scope
  createdAt := l.createdAt
  expiresInSecs := stateTtl.asSecs

/-- `build_authorization_url` and the request it is part of. -/
def authorizationRequest (X : Crates) (metadata : OAuthClientMetadata) (l : LoginCall)
    (endpoints : DiscoveredAuthEndpoints) (par : ParResponse) :
    Except AtprotoOAuthError AuthorizationRequest :=
  match X.urlParse endpoints.authorizationEndpoint with
  | .error e =>
    .error (.par (.invalidEndpoint ("Invalid authorization endpoint '" ++
      endpoints.authorizationEndpoint ++ "': " ++ e)))
  | .ok url =>
    .ok { authorizationUrl := url
          queryPairs := [("client_id", metadata.clientId), ("request_uri", par.requestUri)]
          state := l.state
          requestUri := par.requestUri
          expiresIn := par.expiresIn }

/-- `initiate_login_with_scope` up to the insertion of its entry. -/
def initiate {W : Type} (X : Crates) (net : Network W) (metadata : OAuthClientMetadata)
    (stateTtl : Duration) (l : LoginCall) (c : Client W) :
    Except AtprotoOAuthError (AuthorizationRequest × StoredStateEntry) × Client W :=
  match l.discovery with
  | .error e => (.error (.discovery e), c)
  | .ok endpoints =>
    match (l.parPost X metadata endpoints).run X net c l.first l.second with
    | (.error e, c) => (.error e, c)
    | (.ok par, c) =>
      match l.authorizationRequest X metadata endpoints par with
      | .error e => (.error e, c)
      | .ok request => (.ok (request, l.storedState X metadata stateTtl endpoints), c)

end LoginCall

/-! ## A client at work -/

/-- `handle_callback` once `take_state` has returned, with its reading of the system clock, what its
    token request draws and the clock reading of the session. -/
def finishCallback {W : Type} (X : Crates) (net : Network W) (metadata : ClientMetadata)
    (params : CallbackParams) (taken : Option StoredStateEntry) (checked : SystemTime)
    (first second : AttemptDraw) (created : SystemTime) (c : Client W) :
    Except AtprotoOAuthError OAuthSession × Client W :=
  match taken with
  | none =>
    (.error (.token (.invalidState ("State token '" ++ params.state ++
      "' not found, expired, or already consumed"))), c)
  | some entry =>
    match checkCallback params entry checked with
    | .error e => (.error e, c)
    | .ok () =>
      match sendDpopTokenRequest X net c (exchangeRequest metadata params.code entry) first second with
      | (.error e, c) => (.error e, c)
      | (.ok resp, c) => (acceptExchange entry resp created, c)

/-- The actions of the scheduler. -/
inductive LoginAction where
  | tick (now : Instant)
  | login (call : LoginCall)
  /-- A login that has its answer inserts its entry. -/
  | store (record : StoredStateRecord)
  /-- A callback takes its state. -/
  | callback (params : CallbackParams)
  /-- A callback goes on from there. -/
  | finish (params : CallbackParams) (taken : Option StoredStateEntry) (checked : SystemTime)
      (first second : AttemptDraw) (created : SystemTime)

/-- What an action shows. -/
inductive LoginEvent where
  | silent
  /-- A login got to the insertion of this entry, or failed. -/
  | initiated (result : Except AtprotoOAuthError StoredStateEntry)
  | stored (record : StoredStateRecord) (result : Except StoreError Unit)
  | taken (params : CallbackParams) (result : Option StoredStateEntry) (now : Instant)
  /-- `handle_callback` returned, having sent these requests. -/
  | returned (params : CallbackParams) (requests : List ClientRequest)
      (result : Except AtprotoOAuthError OAuthSession)

/-- A client, its state store, and the calls under way. -/
structure LoginSystem (W : Type) where
  store : OAuthStateStore
  clock : Instant
  client : Client W
  /-- Records of logins that are about to insert them. -/
  storing : List StoredStateRecord
  /-- Callbacks that have taken their state. -/
  callbacks : List (CallbackParams × Option StoredStateEntry)

namespace LoginSystem

variable {W : Type}

/-- One action. -/
def step (X : Crates) (net : Network W) (metadata : OAuthClientMetadata) (stateTtl : Duration)
    (s : LoginSystem W) : LoginAction → Option (LoginSystem W × LoginEvent)
  | .tick now => if s.clock ≤ now then some ({ s with clock := now }, .silent) else none
  | .login call =>
    match call.initiate X net metadata stateTtl s.client with
    | (.error e, client) => some ({ s with client := client }, .initiated (.error e))
    | (.ok (_, entry), client) =>
      some ({ s with client := client,
                     storing := StoredStateRecord.new entry stateTtl s.clock :: s.storing },
        .initiated (.ok entry))
  | .store record =>
    if record ∈ s.storing then
      some ({ s with store := (s.store.insertRecord record.entry.state record s.clock).2,
                     storing := s.storing.erase record },
        .stored record (s.store.insertRecord record.entry.state record s.clock).1)
    else none
  | .callback params =>
    some ({ s with store := (s.store.takeStateSync params.state s.clock).2,
                   callbacks := (params, (s.store.takeStateSync params.state s.clock).1) ::
                     s.callbacks },
      .taken params (s.store.takeStateSync params.state s.clock).1 s.clock)
  | .finish params taken checked first second created =>
    if (params, taken) ∈ s.callbacks then
      let (result, client) := finishCallback X net metadata.toClientMetadata params taken checked
        first second created s.client
      some ({ s with client := client, callbacks := s.callbacks.erase (params, taken) },
        .returned params (client.sent.drop s.client.sent.length) result)
    else none

/-- A new client: nothing is stored and no call is under way. -/
structure Initial (s : LoginSystem W) : Prop where
  empty : ∀ i, s.store.shards i = ∅
  unsent : s.client.sent = []
  storing : s.storing = []
  callbacks : s.callbacks = []

end LoginSystem

end Skyauth
