import Skyauth.IdentityResolver
import Skyauth.Login
import Skyauth.Lib.Scan

/-!
# Discovery of the authorization server

`src/discovery.rs`: from a handle or DID to the endpoints of the authorization server, through the DID
document, the metadata of the PDS and the metadata of the server, in a world that stays as it is while
it is asked. The texts of the errors are what a login returns of them.
-/

namespace Skyauth

open Fallible (rejectIf)

/-! ## URLs -/

/-- The components of a parsed URL that the discovery reads. -/
structure FullUrl extends Url where
  username : String
  password : Option String
  query : Option String
  fragment : Option String
  deriving Repr, DecidableEq

/-- `Url::parse` with all these components. -/
structure UrlParser (X : Crates) where
  parse : String → Except String FullUrl
  agrees : ∀ text, (parse text).map FullUrl.toUrl = X.urlParse text

/-- The hosts for which `http` is let pass. -/
def isLoopbackHost (host : String) : Bool :=
  host == "localhost" || host == "127.0.0.1" || host == "::1" || host == "[::1]"

/-- A URL for `https`, or for `http` to this machine. -/
def FullUrl.isSecure (url : FullUrl) : Bool :=
  url.scheme == "https" || (url.scheme == "http" && isLoopbackHost (url.hostStr.getD ""))

def FullUrl.hasCredentials (url : FullUrl) : Bool := url.username != "" || url.password.isSome

/-- The host and the port as they are spelled in a URL. -/
def rawHostPort (urlStr : String) : List Char :=
  let afterScheme := (Scan.after "://".toList urlStr.toList).getD urlStr.toList
  let authority := afterScheme.takeWhile fun c => !(c == '/' || c == '?' || c == '#')
  Scan.afterLast '@' authority

/-- The spelled port, if there is one: a colon inside the brackets of an address is none. -/
def rawPort (hostPort : List Char) : Option (List Char) :=
  if (Scan.afterLast ']' hostPort).contains ':' then some (Scan.afterLast ':' hostPort) else none

/-- A spelled port is a number, and not the default of the scheme. -/
def isPermittedPort (scheme : String) (port : List Char) : Bool :=
  match Scan.parseDecimal (2 ^ 16) port with
  | some n => !(n == 443 && scheme == "https") && !(n == 80 && scheme == "http")
  | none => false

section Origins

variable {X : Crates} (U : UrlParser X)

def isOriginOnly (urlStr : String) : Bool :=
  match U.parse urlStr with
  | .error _ => false
  | .ok parsed =>
    parsed.isSecure && !parsed.hasCredentials &&
      (rawPort (rawHostPort urlStr)).all (isPermittedPort parsed.scheme) &&
      !(rawHostPort urlStr).contains '\\' &&
      (parsed.path == "" || parsed.path == "/") && parsed.query.isNone && parsed.fragment.isNone

def normalizeOrigin (urlStr : String) : String :=
  match U.parse urlStr with
  | .ok parsed => parsed.origin
  | .error _ => Text.trimEndMatches (· == '/') (Text.trim urlStr)

end Origins

/-! ## Errors -/

/-- The text of an error of the resolution. -/
def IdentityError.display : IdentityError → String
  | invalidHandleSyntax msg => "Invalid handle syntax: " ++ msg
  | disallowedHandleTld tld => "Disallowed handle TLD: " ++ tld
  | handleResolutionFailed handle => "Handle resolution failed for '" ++ handle ++ "'"
  | ambiguousHandleResolution handle =>
    "Ambiguous handle resolution: multiple conflicting DIDs found for '" ++ handle ++ "'"
  | handleDidMismatch handle =>
    "Bidirectional verification failed: handle '" ++ handle ++
      "' does not match DID document alsoKnownAs"
  | invalidDidSyntax msg => "Invalid DID syntax: " ++ msg
  | unsupportedDidMethod method => "Unsupported DID method: " ++ method
  | didNotFound did => "DID not found: " ++ did
  | malformedDidDocument msg => "Malformed DID document: " ++ msg
  | didDocumentIdMismatch expected actual =>
    "DID document ID mismatch: expected '" ++ expected ++ "', found '" ++ actual ++ "'"
  | missingPdsEndpoint did =>
    "DID document missing '#atproto_pds' service endpoint for DID '" ++ did ++ "'"
  | invalidPdsEndpoint msg => "Invalid PDS endpoint URL: " ++ msg
  | ssrf e => "SSRF violation during identity resolution: " ++ e.display
  | http msg => "HTTP error during identity resolution: " ++ msg
  | json msg => "JSON error during identity resolution: " ++ msg
  | dns msg => "DNS error during handle resolution: " ++ msg

/-- Errors of the discovery (`DiscoveryError`). -/
inductive DiscoveryError where
  | protectedResourceDiscoveryFailed (msg : String)
  | missingAuthorizationServers (pds : String)
  | multipleAuthorizationServers (count : Nat)
  | invalidAuthorizationServerUrl (url : String)
  | resourceMismatch (expected actual : String)
  | authServerDiscoveryFailed (msg : String)
  | issuerMismatch (expected actual : String)
  | missingDpopAlgorithm (authServer : String)
  | missingPkceMethod (authServer : String)
  | missingParEndpoint (authServer : String)
  | parNotRequired (authServer : String)
  | missingRequestUriRegistration (authServer : String)
  | missingResponseType (authServer : String)
  | missingGrantType (authServer missing : String)
  | missingTokenAuthMethod (authServer : String)
  | missingTokenAuthSigningAlg (authServer : String)
  | invalidTokenAuthSigningAlg (authServer : String)
  | missingAtprotoScope (authServer : String)
  | missingIssParameterSupport (authServer : String)
  | missingClientMetadataSupport (authServer : String)
  | missingTokenEndpoint (authServer : String)
  | missingAuthorizationEndpoint (authServer : String)
  | invalidEndpointUrl (msg : String)
  | identity (e : IdentityError)
  | ssrf (e : SsrfError)
  | http (msg : String)
  | json (msg : String)
  deriving Repr, DecidableEq

/-- The text of an error about an authorization server. -/
def serverText (authServer rest : String) : String := "Authorization server '" ++ authServer ++ "' " ++ rest

/-- The text of an error. -/
def DiscoveryError.display : DiscoveryError → String
  | protectedResourceDiscoveryFailed msg => "Protected resource metadata discovery failed: " ++ msg
  | missingAuthorizationServers pds =>
    "No authorization servers listed in protected resource metadata for PDS '" ++ pds ++ "'"
  | multipleAuthorizationServers count =>
    "Protected resource metadata declared " ++ toString count ++
      " authorization servers; ATProto requires exactly one"
  | invalidAuthorizationServerUrl url =>
    "Authorization server URL '" ++ url ++ "' is not a valid origin"
  | resourceMismatch expected actual =>
    "Protected resource metadata resource '" ++ actual ++ "' does not match expected PDS origin '" ++
      expected ++ "'"
  | authServerDiscoveryFailed msg => "Authorization server metadata discovery failed: " ++ msg
  | issuerMismatch expected actual =>
    "Authorization server issuer mismatch: expected '" ++ expected ++ "', found '" ++ actual ++ "'"
  | missingDpopAlgorithm s => serverText s "is missing required ES256 DPoP algorithm support"
  | missingPkceMethod s => serverText s "is missing required S256 PKCE method support"
  | missingParEndpoint s => serverText s "is missing required pushed_authorization_request_endpoint"
  | parNotRequired s => serverText s ("does not mandate pushed authorization requests " ++
      "(require_pushed_authorization_requests must be true)")
  | missingRequestUriRegistration s => serverText s ("explicitly disabled " ++
      "require_request_uri_registration; the ATProto OAuth profile mandates it")
  | missingResponseType s => serverText s "is missing required 'code' response type support"
  | missingGrantType s missing =>
    serverText s ("is missing required '" ++ missing ++ "' grant type")
  | missingTokenAuthMethod s => serverText s ("must advertise both required token endpoint " ++
      "authentication methods ('none' and 'private_key_jwt')")
  | missingTokenAuthSigningAlg s => serverText s
      "is missing required ES256 in token_endpoint_auth_signing_alg_values_supported"
  | invalidTokenAuthSigningAlg s => serverText s
      "advertised forbidden 'none' in token_endpoint_auth_signing_alg_values_supported"
  | missingAtprotoScope s => serverText s "is missing required 'atproto' scope in scopes_supported"
  | missingIssParameterSupport s => serverText s
      "does not support RFC 9207 authorization_response_iss_parameter_supported"
  | missingClientMetadataSupport s => serverText s
      "does not support client_id_metadata_document_supported"
  | missingTokenEndpoint s => serverText s "is missing required token_endpoint"
  | missingAuthorizationEndpoint s => serverText s "is missing required authorization_endpoint"
  | invalidEndpointUrl msg => "Invalid endpoint URL in discovery metadata: " ++ msg
  | identity e => "Identity resolution error during discovery: " ++ e.display
  | ssrf e => "SSRF violation during discovery: " ++ e.display
  | http msg => "HTTP error during discovery: " ++ msg
  | json msg => "JSON error during discovery: " ++ msg

/-- The error of metadata that could not be fetched. -/
def metadataFetchError (failed : String → DiscoveryError) (what url : String) :
    SsrfError → DiscoveryError
  | .httpStatus status msg =>
    failed ("HTTP " ++ toString status ++ " fetching " ++ what ++ " from " ++ url ++ ": " ++ msg)
  | .json err => failed ("Invalid JSON in " ++ what ++ " from " ++ url ++ ": " ++ err)
  | other => .ssrf other

/-! ## Metadata -/

/-- A field of type `bool`. -/
def Json.toBoolField : Json → Except String Bool
  | .bool b => .ok b
  | _ => .error "invalid type: expected a boolean"

/-- A field of type `String` that must be present. -/
def Json.stringField (members : List (String × Json)) (name : String) : Except String String := do
  Json.required name Json.toStringField (← Json.member members name)

/-- A field of type `Vec<String>` that is empty when it is absent. -/
def Json.listField (members : List (String × Json)) (name : String) : Except String (List String) := do
  Json.defaulted [] (Json.toVecField Json.toStringField) (← Json.member members name)

/-- A field of type `bool` with the value for its absence. -/
def Json.boolField (absent : Bool) (members : List (String × Json)) (name : String) :
    Except String Bool := do
  Json.defaulted absent Json.toBoolField (← Json.member members name)

/-- The metadata of a PDS (`ProtectedResourceMetadata`). -/
structure ProtectedResourceMetadata where
  resource : String
  authorizationServers : List String
  scopesSupported : List String
  bearerMethodsSupported : List String
  resourceDocumentation : Option String
  deriving Repr, DecidableEq

/-- The derived `Deserialize`. -/
def ProtectedResourceMetadata.fromJson (j : Json) : Except String ProtectedResourceMetadata := do
  let members ← j.fields ["resource", "authorization_servers", "scopes_supported",
    "bearer_methods_supported", "resource_documentation"]
  return { resource := ← Json.stringField members "resource"
           authorizationServers := ← Json.required "authorization_servers"
             (Json.toVecField Json.toStringField) (← Json.member members "authorization_servers")
           scopesSupported := ← Json.listField members "scopes_supported"
           bearerMethodsSupported := ← Json.listField members "bearer_methods_supported"
           resourceDocumentation := ← Json.optional Json.toStringField
             (← Json.member members "resource_documentation") }

/-- The metadata of an authorization server (`AuthorizationServerMetadata`). -/
structure AuthorizationServerMetadata where
  issuer : String
  authorizationEndpoint : String
  tokenEndpoint : String
  pushedAuthorizationRequestEndpoint : String
  requirePushedAuthorizationRequests : Bool
  dpopSigningAlgValuesSupported : List String
  codeChallengeMethodsSupported : List String
  responseTypesSupported : List String
  grantTypesSupported : List String
  tokenEndpointAuthMethodsSupported : List String
  tokenEndpointAuthSigningAlgValuesSupported : List String
  scopesSupported : List String
  authorizationResponseIssParameterSupported : Bool
  clientIdMetadataDocumentSupported : Bool
  requireRequestUriRegistration : Bool
  deriving Repr, DecidableEq

/-- The names of its members, in the order of the fields. -/
def AuthorizationServerMetadata.memberNames : List String :=
  ["issuer", "authorization_endpoint", "token_endpoint", "pushed_authorization_request_endpoint",
    "require_pushed_authorization_requests", "dpop_signing_alg_values_supported",
    "code_challenge_methods_supported", "response_types_supported", "grant_types_supported",
    "token_endpoint_auth_methods_supported", "token_endpoint_auth_signing_alg_values_supported",
    "scopes_supported", "authorization_response_iss_parameter_supported",
    "client_id_metadata_document_supported", "require_request_uri_registration"]

/-- The derived `Deserialize`. -/
def AuthorizationServerMetadata.fromJson (j : Json) : Except String AuthorizationServerMetadata := do
  let members ← j.fields memberNames
  return { issuer := ← Json.stringField members "issuer"
           authorizationEndpoint := ← Json.stringField members "authorization_endpoint"
           tokenEndpoint := ← Json.stringField members "token_endpoint"
           pushedAuthorizationRequestEndpoint := ← Json.defaulted "" Json.toStringField
             (← Json.member members "pushed_authorization_request_endpoint")
           requirePushedAuthorizationRequests :=
             ← Json.boolField false members "require_pushed_authorization_requests"
           dpopSigningAlgValuesSupported :=
             ← Json.listField members "dpop_signing_alg_values_supported"
           codeChallengeMethodsSupported :=
             ← Json.listField members "code_challenge_methods_supported"
           responseTypesSupported := ← Json.listField members "response_types_supported"
           grantTypesSupported := ← Json.listField members "grant_types_supported"
           tokenEndpointAuthMethodsSupported :=
             ← Json.listField members "token_endpoint_auth_methods_supported"
           tokenEndpointAuthSigningAlgValuesSupported :=
             ← Json.listField members "token_endpoint_auth_signing_alg_values_supported"
           scopesSupported := ← Json.listField members "scopes_supported"
           authorizationResponseIssParameterSupported :=
             ← Json.boolField false members "authorization_response_iss_parameter_supported"
           clientIdMetadataDocumentSupported :=
             ← Json.boolField false members "client_id_metadata_document_supported"
           requireRequestUriRegistration :=
             ← Json.boolField true members "require_request_uri_registration" }

/-! ## The checks -/

section Checks

variable {X : Crates} (U : UrlParser X)

/-- `validate_https_endpoint`. -/
def validateHttpsEndpoint (endpoint label : String) : Except DiscoveryError Unit := do
  let parsed ← (U.parse endpoint).mapError fun e =>
    .invalidEndpointUrl ("Invalid " ++ label ++ " endpoint URL '" ++ endpoint ++ "': " ++ e)
  rejectIf (parsed.isSecure = false) (.invalidEndpointUrl (label ++
    " endpoint URL must be HTTPS (got '" ++ parsed.scheme ++
      "'; only loopback/localhost may use HTTP)"))
  rejectIf (parsed.hasCredentials = true) (.invalidEndpointUrl (label ++
    " endpoint URL must not contain embedded credentials: '" ++ endpoint ++ "'"))
  rejectIf (parsed.hostStr = none) (.invalidEndpointUrl (label ++
    " endpoint URL is missing a host: '" ++ endpoint ++ "'"))

/-- `validate_auth_server_capabilities`. -/
def validateAuthServerCapabilities (md : AuthorizationServerMetadata) (authServerUrl : String) :
    Except DiscoveryError Unit := do
  rejectIf (isOriginOnly U authServerUrl = false) (.invalidAuthorizationServerUrl authServerUrl)
  rejectIf (isOriginOnly U md.issuer = false) (.invalidAuthorizationServerUrl md.issuer)
  rejectIf (normalizeOrigin U authServerUrl ≠ normalizeOrigin U md.issuer)
    (.issuerMismatch authServerUrl md.issuer)
  rejectIf (Text.trim md.pushedAuthorizationRequestEndpoint = "") (.missingParEndpoint authServerUrl)
  validateHttpsEndpoint U md.pushedAuthorizationRequestEndpoint "PAR"
  rejectIf (md.requirePushedAuthorizationRequests = false) (.parNotRequired authServerUrl)
  rejectIf (Text.trim md.tokenEndpoint = "") (.missingTokenEndpoint authServerUrl)
  validateHttpsEndpoint U md.tokenEndpoint "token"
  rejectIf (Text.trim md.authorizationEndpoint = "") (.missingAuthorizationEndpoint authServerUrl)
  validateHttpsEndpoint U md.authorizationEndpoint "authorization"
  rejectIf ("code" ∉ md.responseTypesSupported) (.missingResponseType authServerUrl)
  rejectIf ("authorization_code" ∉ md.grantTypesSupported)
    (.missingGrantType authServerUrl "authorization_code")
  rejectIf ("refresh_token" ∉ md.grantTypesSupported) (.missingGrantType authServerUrl "refresh_token")
  rejectIf ("none" ∉ md.tokenEndpointAuthMethodsSupported ∨
    "private_key_jwt" ∉ md.tokenEndpointAuthMethodsSupported) (.missingTokenAuthMethod authServerUrl)
  rejectIf ("ES256" ∉ md.tokenEndpointAuthSigningAlgValuesSupported)
    (.missingTokenAuthSigningAlg authServerUrl)
  rejectIf ("none" ∈ md.tokenEndpointAuthSigningAlgValuesSupported)
    (.invalidTokenAuthSigningAlg authServerUrl)
  rejectIf ("atproto" ∉ md.scopesSupported) (.missingAtprotoScope authServerUrl)
  rejectIf (md.authorizationResponseIssParameterSupported = false)
    (.missingIssParameterSupport authServerUrl)
  rejectIf (md.clientIdMetadataDocumentSupported = false) (.missingClientMetadataSupport authServerUrl)
  rejectIf (md.requireRequestUriRegistration = false) (.missingRequestUriRegistration authServerUrl)
  rejectIf ("ES256" ∉ md.dpopSigningAlgValuesSupported) (.missingDpopAlgorithm authServerUrl)
  rejectIf ("S256" ∉ md.codeChallengeMethodsSupported) (.missingPkceMethod authServerUrl)

/-- The checks of `fetch_protected_resource_metadata` on what it fetched. -/
def checkProtectedResource (md : ProtectedResourceMetadata) (pdsEndpoint : String) :
    Except DiscoveryError Unit := do
  rejectIf (md.authorizationServers = []) (.missingAuthorizationServers pdsEndpoint)
  rejectIf (1 < md.authorizationServers.length)
    (.multipleAuthorizationServers md.authorizationServers.length)
  rejectIf (isOriginOnly U (md.authorizationServers.headD "") = false)
    (.invalidAuthorizationServerUrl (md.authorizationServers.headD ""))
  rejectIf (normalizeOrigin U pdsEndpoint ≠ normalizeOrigin U md.resource)
    (.resourceMismatch (normalizeOrigin U pdsEndpoint) md.resource)
  rejectIf (isOriginOnly U md.resource = false)
    (.resourceMismatch (normalizeOrigin U pdsEndpoint) md.resource)

end Checks

/-! ## The pipeline -/

/-- The URL of a document of a server. -/
def wellKnownUrl (base document : String) : String :=
  Text.trimEndMatches (· == '/') base ++ "/.well-known/" ++ document

/-- Everything the discovery finds (`DiscoveredAuthEndpoints` in full). -/
structure AuthEndpointsBundle extends DiscoveredAuthEndpoints where
  dpopAlgs : List String
  scopes : List String
  protectedResourceMetadata : ProtectedResourceMetadata
  authServerMetadata : AuthorizationServerMetadata
  deriving Repr, DecidableEq

section Pipeline

variable {X : Crates} (U : UrlParser X) (N : NetCrates) (W : World)

def fetchProtectedResourceMetadata (f : SsrfFilter) (pdsEndpoint : String) :
    Except DiscoveryError ProtectedResourceMetadata := do
  let url := wellKnownUrl pdsEndpoint "oauth-protected-resource"
  let md ← (f.safeGetJson X N W ProtectedResourceMetadata.fromJson url MAX_OAUTH_RESPONSE_BYTES).mapError
    (metadataFetchError .protectedResourceDiscoveryFailed "protected resource metadata" url)
  checkProtectedResource U md pdsEndpoint
  return md

/-- The metadata of an authorization server at its URL, or, if that is not found, at the URL of its
    OpenID configuration. -/
def fetchServerDocument (X : Crates) (f : SsrfFilter) (authServerUrl : String) :
    Except DiscoveryError AuthorizationServerMetadata :=
  let primaryUrl := wellKnownUrl authServerUrl "oauth-authorization-server"
  match f.safeGetJson X N W AuthorizationServerMetadata.fromJson primaryUrl MAX_OAUTH_RESPONSE_BYTES with
  | .ok md => .ok md
  | .error (.httpStatus 404 _) =>
    let fallbackUrl := wellKnownUrl authServerUrl "openid-configuration"
    (f.safeGetJson X N W AuthorizationServerMetadata.fromJson fallbackUrl
        MAX_OAUTH_RESPONSE_BYTES).mapError
      (metadataFetchError .authServerDiscoveryFailed "fallback authorization server metadata"
        fallbackUrl)
  | .error e =>
    .error (metadataFetchError .authServerDiscoveryFailed "authorization server metadata" primaryUrl e)

def fetchAuthServerMetadata (f : SsrfFilter) (authServerUrl : String) :
    Except DiscoveryError AuthorizationServerMetadata := do
  let md ← fetchServerDocument N W X f authServerUrl
  validateAuthServerCapabilities U md authServerUrl
  return md

/-- The bundle of an identity and the two metadata documents. -/
def assembleEndpoints (identity : ResolvedIdentity) (pdsMd : ProtectedResourceMetadata)
    (asMd : AuthorizationServerMetadata) : AuthEndpointsBundle where
  did := identity.did
  handle := identity.handle
  pdsEndpoint := identity.pdsEndpoint
  authServerIssuer := asMd.issuer
  parEndpoint := asMd.pushedAuthorizationRequestEndpoint
  authorizationEndpoint := asMd.authorizationEndpoint
  tokenEndpoint := asMd.tokenEndpoint
  dpopAlgs := asMd.dpopSigningAlgValuesSupported
  scopes := if asMd.scopesSupported ≠ [] then asMd.scopesSupported
    else if pdsMd.scopesSupported ≠ [] then pdsMd.scopesSupported
    else ["atproto"]
  protectedResourceMetadata := pdsMd
  authServerMetadata := asMd

def discoverOauthEndpoints (r : IdentityResolver) (didOrHandle : String) :
    Except DiscoveryError AuthEndpointsBundle := do
  let identity ← (r.resolveIdent X N W didOrHandle).mapError .identity
  let pdsMd ← fetchProtectedResourceMetadata U N W r.ssrfFilter identity.pdsEndpoint
  let asMd ← fetchAuthServerMetadata U N W r.ssrfFilter (pdsMd.authorizationServers.headD "")
  return assembleEndpoints identity pdsMd asMd

/-- What the confirmation of a login shows (`OAuthLoginPreview`). -/
structure OAuthLoginPreview where
  did : String
  handle : Option String
  pdsEndpoint : String
  pdsHost : String
  authServerIssuer : String
  authServerHost : String
  authorizationEndpoint : String
  deriving Repr, DecidableEq

/-- The host of a URL (`pds_host`, `auth_server_host`). -/
def urlHost (X : Crates) (urlStr : String) : Option String :=
  (X.urlParse urlStr).toOption.bind Url.hostStr

/-- `preview_login`. -/
def previewLogin (r : IdentityResolver) (handleOrDid : String) :
    Except AtprotoOAuthError OAuthLoginPreview := do
  let endpoints ← (discoverOauthEndpoints U N W r handleOrDid).mapError fun e => .discovery e.display
  return { did := endpoints.did
           handle := endpoints.handle
           pdsEndpoint := endpoints.pdsEndpoint
           pdsHost := (urlHost X endpoints.pdsEndpoint).getD endpoints.pdsEndpoint
           authServerIssuer := endpoints.authServerIssuer
           authServerHost := (urlHost X endpoints.authServerIssuer).getD endpoints.authServerIssuer
           authorizationEndpoint := endpoints.authorizationEndpoint }

/-- What the discovery of a login answers. -/
def loginDiscovery (r : IdentityResolver) (handleOrDid : String) :
    Except String DiscoveredAuthEndpoints :=
  ((discoverOauthEndpoints U N W r handleOrDid).map AuthEndpointsBundle.toDiscoveredAuthEndpoints).mapError
    DiscoveryError.display

end Pipeline

end Skyauth
