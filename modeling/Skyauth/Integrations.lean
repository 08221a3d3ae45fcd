import Skyauth.Lib.Form
import Skyauth.Login
import Skyauth.Tower

/-!
# Web framework integrations

What `src/integrations/mod.rs`, `axum.rs` and `actix.rs` add around the middleware and the client: the query
of a callback and how it becomes the parameters of `handle_callback`, the extractors of the authenticated
user, and the document that a client publishes about itself (`to_json_value` of `src/client.rs`). The two
frameworks have the same extractors but for what a refusal looks like.
-/

namespace Skyauth

/-! ## Refusals -/

/-- A refusal of an Axum extractor: the status and the JSON body. -/
structure AxumRejection where
  status : Nat
  body : Json

/-- A refusal of an Actix extractor: the status and the text. -/
structure ActixError where
  status : Nat
  message : String
  deriving Repr, DecidableEq

def AxumRejection.new (status : Nat) (error description : String) : AxumRejection where
  status := status
  body := .obj [("error", .str error), ("error_description", .str description)]

/-! ## The query of a callback -/

/-- The query of the redirect URI (`OAuthCallbackQuery`). -/
structure OAuthCallbackQuery where
  code : Option String
  state : Option String
  iss : Option String
  error : Option String
  errorDescription : Option String
  deriving Repr, DecidableEq

namespace OAuthCallbackQuery

/-- No field has been read yet. -/
def empty : OAuthCallbackQuery where
  code := none
  state := none
  iss := none
  error := none
  errorDescription := none

/-- A field that is read for the first time. -/
def readOnce (name : String) (field : Option String) (value : String) : Except String (Option String) :=
  if field.isSome then .error ("duplicate field `" ++ name ++ "`") else .ok (some value)

/-- The derived `Deserialize` on one pair: other names are skipped. -/
def visit (q : OAuthCallbackQuery) (name value : String) : Except String OAuthCallbackQuery :=
  if name = "code" then (readOnce name q.code value).map fun v => { q with code := v }
  else if name = "state" then (readOnce name q.state value).map fun v => { q with state := v }
  else if name = "iss" then (readOnce name q.iss value).map fun v => { q with iss := v }
  else if name = "error" then (readOnce name q.error value).map fun v => { q with error := v }
  else if name = "error_description" then
    (readOnce name q.errorDescription value).map fun v => { q with errorDescription := v }
  else .ok q

def fromPairs (pairs : List (String × String)) : Except String OAuthCallbackQuery :=
  pairs.foldlM (fun q p => q.visit p.1 p.2) empty

/-- `serde_urlencoded::from_str`, with the reading of bytes that are no UTF-8. -/
def fromStr (lossy : List UInt8 → String) (query : String) : Except String OAuthCallbackQuery :=
  fromPairs (Form.parse lossy (Text.asBytes query))

def toCallbackParams (q : OAuthCallbackQuery) : Except IntegrationError CallbackParams :=
  match q.error with
  | some err => .error (.oauthError err (q.errorDescription.getD ""))
  | none => do
    let code ← q.code.elim (.error .missingCode) .ok
    let state ← q.state.elim (.error .missingState) .ok
    return { code := code, state := state, iss := q.iss }

end OAuthCallbackQuery

/-- `Uri::query`: what follows the first question mark. -/
def Uri.query (uri : Uri) : Option String :=
  (uri.pathAndQuery.bind (Text.splitOnce '?')).map Prod.snd

section Extractors

variable {B R : Type}

/-- The extractor of a callback query, with the refusal of a malformed one. -/
def extractCallbackQuery (refuse : String → R) (lossy : List UInt8 → String) (req : Request B) :
    Except R OAuthCallbackQuery :=
  (OAuthCallbackQuery.fromStr lossy (req.uri.query.getD "")).mapError refuse

def axumCallbackQuery (lossy : List UInt8 → String) (req : Request B) :
    Except AxumRejection OAuthCallbackQuery :=
  extractCallbackQuery (fun err => .new 400 "invalid_request"
    ("Malformed OAuth callback query parameters: " ++ err)) lossy req

def actixCallbackQuery (lossy : List UInt8 → String) (req : Request B) :
    Except ActixError OAuthCallbackQuery :=
  extractCallbackQuery (fun err => ⟨400, "Malformed OAuth callback query parameters: " ++ err⟩) lossy req

/-! ## The authenticated user -/

/-- The scheme of an `Authorization` header is `DPoP`. -/
def schemeOk (authStr : String) : Bool :=
  (Text.splitOnce ' ' authStr).any fun x => Text.eqIgnoreAsciiCase x.1 "DPoP"

/-- The extractor of the user, with the refusals of another scheme and of a request without a user. The
    session extension takes precedence; a header is only read to choose the refusal. -/
def extractUser (otherScheme missing : R) (req : Request B) : Except R AuthenticatedUser :=
  match req.extensions.session with
  | some ext => .ok ext.user
  | none =>
    match req.extensions.user with
    | some user => .ok user
    | none =>
      match headerText req.headers "authorization" with
      | some authStr => if schemeOk authStr then .error missing else .error otherScheme
      | none => .error missing

def axumUser (req : Request B) : Except AxumRejection AuthenticatedUser :=
  extractUser (.new 401 "invalid_token" "Invalid Authorization scheme: expected 'DPoP'")
    (.new 401 "unauthorized" "Missing authenticated session extension or credentials") req

def actixUser (req : Request B) : Except ActixError AuthenticatedUser :=
  extractUser ⟨401, "Invalid Authorization scheme: expected 'DPoP'"⟩
    ⟨401, "Missing authenticated session extension or credentials"⟩ req

end Extractors

/-- `OAuthSessionExtension::from_session`. -/
def OAuthSessionExtension.fromSession (X : Crates) (session : OAuthSession) : OAuthSessionExtension where
  user := { did := session.sub, accessToken := session.accessToken,
            dpopThumbprint := session.dpopKey.jwkThumbprint X, scope := session.scope }
  session := some session

/-! ## The document of a client -/

/-- `public_client_jwk`, with sorted members. -/
def DPoPKey.publicClientJwk (X : Crates) (key : DPoPKey) : Json :=
  let jwk := key.publicJwk X
  .obj [("alg", .str "ES256"), ("crv", .str jwk.crv), ("kid", .str (jwk.thumbprint X)),
    ("kty", .str jwk.kty), ("use", .str "sig"), ("x", .str jwk.x), ("y", .str jwk.y)]

/-- `to_json_value`, with sorted members. The name of the client is read here only. -/
def OAuthClientMetadata.toJsonValue (X : Crates) (metadata : OAuthClientMetadata)
    (clientName : Option String) : Json :=
  .obj ([("client_id", .str metadata.clientId)] ++
    (clientName.elim [] fun name => [("client_name", .str name)]) ++
    [("client_uri", .str metadata.clientId), ("dpop_bound_access_tokens", .bool true),
      ("grant_types", .arr [.str "authorization_code", .str "refresh_token"])] ++
    (metadata.clientKey.elim [] fun key => [("jwks", .obj [("keys", .arr [key.publicClientJwk X])])]) ++
    [("redirect_uris", .arr [.str metadata.redirectUri]), ("response_types", .arr [.str "code"]),
      ("scope", .str metadata.scope)] ++
    (metadata.clientKey.elim [("token_endpoint_auth_method", .str "none")] fun _ =>
      [("token_endpoint_auth_method", .str "private_key_jwt"),
        ("token_endpoint_auth_signing_alg", .str "ES256")]))

end Skyauth
