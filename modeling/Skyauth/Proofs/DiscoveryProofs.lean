import Skyauth.Discovery
import Skyauth.Proofs.IdentityProofs
import Skyauth.Proofs.LoginProofs

/-!
# Proofs: what the discovery trusts

The discovery goes from a DID document to the metadata of the PDS it names, and from there to the
metadata of the one server that names. It succeeds exactly if every link of this chain is there; so a
session of any run of a client can be traced back along such a chain to the DID it is for.
-/

namespace Skyauth

variable {X : Crates} {U : UrlParser X} {N : NetCrates} {W : World}

/-! ## Origins -/

/-- The text is that of a bare origin: this is how it parses. -/
structure BareOrigin (U : UrlParser X) (text : String) (url : FullUrl) : Prop where
  parses : U.parse text = .ok url
  secure : url.isSecure = true
  unnamed : url.hasCredentials = false
  port : ∀ port, rawPort (rawHostPort text) = some port → isPermittedPort url.scheme port = true
  slashes : '\\' ∉ rawHostPort text
  path : url.path = "" ∨ url.path = "/"
  query : url.query = none
  fragment : url.fragment = none

theorem isOriginOnly_iff {text : String} :
    isOriginOnly U text = true ↔ ∃ url, BareOrigin U text url := by
  unfold isOriginOnly
  split
  · rename_i e hparse
    constructor
    · intro h
      cases h
    · rintro ⟨url, h⟩
      rw [h.parses] at hparse
      cases hparse
  · rename_i parsed hparse
    simp only [Bool.and_eq_true, Bool.not_eq_true', Option.all_eq_true, Bool.or_eq_true, beq_iff_eq,
      Option.isNone_iff_eq_none, List.contains_eq_mem, decide_eq_false_iff_not]
    constructor
    · rintro ⟨⟨⟨⟨⟨⟨hsecure, hunnamed⟩, hport⟩, hslashes⟩, hpath⟩, hquery⟩, hfragment⟩
      exact ⟨parsed, hparse, hsecure, hunnamed, hport, hslashes, hpath, hquery, hfragment⟩
    · rintro ⟨url, h⟩
      obtain rfl : parsed = url := Except.ok.inj (hparse.symm.trans h.parses)
      exact ⟨⟨⟨⟨⟨⟨h.secure, h.unnamed⟩, h.port⟩, h.slashes⟩, h.path⟩, h.query⟩, h.fragment⟩

theorem BareOrigin.normalizeOrigin_eq {text : String} {url : FullUrl} (h : BareOrigin U text url) :
    normalizeOrigin U text = url.origin := by
  rw [normalizeOrigin, h.parses]

/-! ### Spelled ports -/

/-- An endpoint that the client may use: `https` to some host, or `http` to this machine, and no
    credentials. -/
structure SafeEndpoint (U : UrlParser X) (endpoint : String) : Prop where
  nonblank : Text.trim endpoint ≠ ""
  parses : ∃ url host, U.parse endpoint = .ok url ∧ url.hostStr = some host ∧
    (url.scheme = "https" ∨ url.scheme = "http" ∧ isLoopbackHost host = true) ∧
    url.username = "" ∧ url.password = none

theorem FullUrl.hasCredentials_eq_false {url : FullUrl} :
    url.hasCredentials = false ↔ url.username = "" ∧ url.password = none := by
  simp [hasCredentials]

theorem validateHttpsEndpoint_eq_ok {endpoint : String} (label : String) :
    (Text.trim endpoint ≠ "" ∧ validateHttpsEndpoint U endpoint label = .ok ()) ↔
      SafeEndpoint U endpoint := by
  simp only [validateHttpsEndpoint, Fallible.bind_eq_ok, Fallible.mapError_eq_ok,
    Fallible.rejectIf_eq_ok, exists_const, Bool.not_eq_false, Bool.not_eq_true,
    FullUrl.hasCredentials_eq_false]
  constructor
  · rintro ⟨hblank, url, hparse, hsecure, ⟨huser, hpassword⟩, hhost⟩
    obtain ⟨host, hhost⟩ := Option.ne_none_iff_exists'.1 hhost
    refine ⟨hblank, url, host, hparse, hhost, ?_, huser, hpassword⟩
    simpa [FullUrl.isSecure, hhost] using hsecure
  · rintro ⟨hblank, url, host, hparse, hhost, hsecure, huser, hpassword⟩
    refine ⟨hblank, url, hparse, ?_, ⟨huser, hpassword⟩, by simp [hhost]⟩
    simpa [FullUrl.isSecure, hhost] using hsecure

/-- What the profile asks of an authorization server. -/
structure AtprotoProfile (U : UrlParser X) (md : AuthorizationServerMetadata) : Prop where
  par : SafeEndpoint U md.pushedAuthorizationRequestEndpoint
  token : SafeEndpoint U md.tokenEndpoint
  authorization : SafeEndpoint U md.authorizationEndpoint
  parRequired : md.requirePushedAuthorizationRequests = true
  code : "code" ∈ md.responseTypesSupported
  grants : "authorization_code" ∈ md.grantTypesSupported ∧ "refresh_token" ∈ md.grantTypesSupported
  clients : "none" ∈ md.tokenEndpointAuthMethodsSupported ∧
    "private_key_jwt" ∈ md.tokenEndpointAuthMethodsSupported
  assertions : "ES256" ∈ md.tokenEndpointAuthSigningAlgValuesSupported ∧
    "none" ∉ md.tokenEndpointAuthSigningAlgValuesSupported
  scope : "atproto" ∈ md.scopesSupported
  issParameter : md.authorizationResponseIssParameterSupported = true
  clientMetadata : md.clientIdMetadataDocumentSupported = true
  requestUri : md.requireRequestUriRegistration = true
  dpop : "ES256" ∈ md.dpopSigningAlgValuesSupported
  pkce : "S256" ∈ md.codeChallengeMethodsSupported

theorem validateAuthServerCapabilities_eq_ok {md : AuthorizationServerMetadata} {server : String} :
    validateAuthServerCapabilities U md server = .ok () ↔
      (∃ serverUrl issuerUrl, BareOrigin U server serverUrl ∧ BareOrigin U md.issuer issuerUrl ∧
        serverUrl.origin = issuerUrl.origin) ∧ AtprotoProfile U md := by
  simp only [validateAuthServerCapabilities, Fallible.check_bind_eq_ok, Fallible.rejectIf_eq_ok,
    Bool.not_eq_false, not_not, not_or]
  constructor
  · rintro ⟨hserver, hissuer, horigin, hpar, hpar', hrequired, h⟩
    obtain ⟨htoken, htoken', hauth, hauth', hcode, hgrant, hgrant', h⟩ := h
    obtain ⟨hclients, halg, hnone, hscope, hiss, hmetadata, huri, hdpop, hpkce⟩ := h
    obtain ⟨serverUrl, hserver⟩ := isOriginOnly_iff.1 hserver
    obtain ⟨issuerUrl, hissuer⟩ := isOriginOnly_iff.1 hissuer
    rw [hserver.normalizeOrigin_eq, hissuer.normalizeOrigin_eq] at horigin
    exact ⟨⟨serverUrl, issuerUrl, hserver, hissuer, horigin⟩,
      ⟨(validateHttpsEndpoint_eq_ok _).1 ⟨hpar, hpar'⟩, (validateHttpsEndpoint_eq_ok _).1 ⟨htoken, htoken'⟩,
        (validateHttpsEndpoint_eq_ok _).1 ⟨hauth, hauth'⟩, hrequired, hcode, ⟨hgrant, hgrant'⟩, hclients,
        ⟨halg, hnone⟩, hscope, hiss, hmetadata, huri, hdpop, hpkce⟩⟩
  · rintro ⟨⟨serverUrl, issuerUrl, hserver, hissuer, horigin⟩, p⟩
    have hpar := (validateHttpsEndpoint_eq_ok "PAR").2 p.par
    have htoken := (validateHttpsEndpoint_eq_ok "token").2 p.token
    have hauth := (validateHttpsEndpoint_eq_ok "authorization").2 p.authorization
    refine ⟨isOriginOnly_iff.2 ⟨_, hserver⟩, isOriginOnly_iff.2 ⟨_, hissuer⟩, ?_, hpar.1, hpar.2,
      p.parRequired, htoken.1, htoken.2, hauth.1, hauth.2, p.code, p.grants.1, p.grants.2, p.clients,
      p.assertions.1, p.assertions.2, p.scope, p.issParameter, p.clientMetadata, p.requestUri, p.dpop,
      p.pkce⟩
    rw [hserver.normalizeOrigin_eq, hissuer.normalizeOrigin_eq, horigin]

/-! ## The chain of trust -/

section Chain

variable (U : UrlParser X) (N : NetCrates) (W : World) (f : SsrfFilter)

/-- A document of a server, as it is served. -/
def Serves {T : Type} (fromJson : Json → Except String T) (base document : String)
    (result : Except SsrfError T) : Prop :=
  f.safeGetJson X N W fromJson (wellKnownUrl base document) MAX_OAUTH_RESPONSE_BYTES = result

/-- The PDS serves metadata for itself in which it names this one server. -/
structure NamesServer (pdsEndpoint : String) (md : ProtectedResourceMetadata) (server : String) :
    Prop where
  served : Serves (X := X) N W f ProtectedResourceMetadata.fromJson pdsEndpoint
    "oauth-protected-resource" (.ok md)
  only : md.authorizationServers = [server]
  bare : ∃ url, BareOrigin U server url
  itself : ∃ url, BareOrigin U md.resource url ∧ url.origin = normalizeOrigin U pdsEndpoint

/-- The server serves metadata in which it is the issuer and follows the profile. Only a server without
    the document of its kind is asked for an OpenID configuration. -/
structure SpeaksForItself (server : String) (md : AuthorizationServerMetadata) : Prop where
  served : Serves (X := X) N W f AuthorizationServerMetadata.fromJson server
      "oauth-authorization-server" (.ok md) ∨
    (∃ msg, Serves (X := X) N W f AuthorizationServerMetadata.fromJson server
      "oauth-authorization-server" (.error (.httpStatus 404 msg))) ∧
      Serves (X := X) N W f AuthorizationServerMetadata.fromJson server "openid-configuration" (.ok md)
  issuer : ∃ serverUrl issuerUrl, BareOrigin U server serverUrl ∧ BareOrigin U md.issuer issuerUrl ∧
    serverUrl.origin = issuerUrl.origin
  profile : AtprotoProfile U md

end Chain

theorem fetchProtectedResourceMetadata_eq_ok {f : SsrfFilter} {pdsEndpoint : String}
    {md : ProtectedResourceMetadata} :
    fetchProtectedResourceMetadata U N W f pdsEndpoint = .ok md ↔
      ∃ server, NamesServer U N W f pdsEndpoint md server := by
  simp only [fetchProtectedResourceMetadata, checkProtectedResource, Fallible.bind_eq_ok,
    Fallible.mapError_eq_ok, Fallible.rejectIf_eq_ok, Fallible.pure_eq_ok, Bool.not_eq_false, not_not,
    exists_const]
  constructor
  · rintro ⟨md', hserved, ⟨hsome, hone, hbare, horigin, hresource⟩, rfl⟩
    obtain ⟨server, hservers⟩ : ∃ server, md'.authorizationServers = [server] := by
      rw [← List.length_eq_one_iff]
      have := List.length_pos_iff.2 hsome
      omega
    rw [hservers] at hbare
    obtain ⟨url, hurl⟩ := isOriginOnly_iff.1 hresource
    rw [hurl.normalizeOrigin_eq] at horigin
    exact ⟨server, hserved, hservers, isOriginOnly_iff.1 hbare, url, hurl, horigin.symm⟩
  · rintro ⟨server, h⟩
    obtain ⟨url, hurl, horigin⟩ := h.itself
    refine ⟨md, h.served, ⟨?_, ?_, ?_, ?_, isOriginOnly_iff.2 ⟨url, hurl⟩⟩, rfl⟩
    · simp [h.only]
    · simp [h.only]
    · rw [h.only]
      exact isOriginOnly_iff.2 h.bare
    · rw [hurl.normalizeOrigin_eq, horigin]

theorem fetchServerDocument_eq_ok {f : SsrfFilter} {server : String} {md : AuthorizationServerMetadata} :
    fetchServerDocument N W X f server = .ok md ↔
      Serves (X := X) N W f AuthorizationServerMetadata.fromJson server "oauth-authorization-server"
        (.ok md) ∨
      (∃ msg, Serves (X := X) N W f AuthorizationServerMetadata.fromJson server
        "oauth-authorization-server" (.error (.httpStatus 404 msg))) ∧
        Serves (X := X) N W f AuthorizationServerMetadata.fromJson server "openid-configuration"
          (.ok md) := by
  simp only [fetchServerDocument, Serves]
  cases hprimary : f.safeGetJson X N W AuthorizationServerMetadata.fromJson
      (wellKnownUrl server "oauth-authorization-server") MAX_OAUTH_RESPONSE_BYTES with
  | ok md' => simp
  | error e =>
    simp only [reduceCtorEq, false_or]
    by_cases hfound : ∃ msg, e = .httpStatus 404 msg
    · obtain ⟨msg, rfl⟩ := hfound
      simp [Fallible.mapError_eq_ok]
    · have hother : ∀ msg, ¬(Except.error e : Except SsrfError AuthorizationServerMetadata) =
          .error (.httpStatus 404 msg) := fun msg he => hfound ⟨msg, Except.error.inj he⟩
      simp only [hother, exists_false, false_and, iff_false]
      intro h
      split at h
      · rename_i he
        cases he
      · rename_i msg he
        exact hother msg he
      · cases h

theorem fetchAuthServerMetadata_eq_ok {f : SsrfFilter} {server : String}
    {md : AuthorizationServerMetadata} :
    fetchAuthServerMetadata U N W f server = .ok md ↔ SpeaksForItself U N W f server md := by
  simp only [fetchAuthServerMetadata, Fallible.bind_eq_ok, Fallible.pure_eq_ok, fetchServerDocument_eq_ok]
  constructor
  · rintro ⟨md', hserved, ⟨⟩, hvalid, rfl⟩
    obtain ⟨hissuer, hprofile⟩ := validateAuthServerCapabilities_eq_ok.1 hvalid
    exact ⟨hserved, hissuer, hprofile⟩
  · rintro ⟨hserved, hissuer, hprofile⟩
    exact ⟨md, hserved, (), validateAuthServerCapabilities_eq_ok.2 ⟨hissuer, hprofile⟩, rfl⟩

/-- The identity that an input stands for: a DID by its document, a handle by the DID it resolves to
    if the document of that claims the handle. -/
structure Identifies (X : Crates) (N : NetCrates) (W : World) (r : IdentityResolver) (input : String)
    (id : ResolvedIdentity) : Prop where
  document : r.resolveDid X N W id.did = .ok id.didDoc
  pds : id.didDoc.extractPdsEndpoint X = .ok id.pdsEndpoint
  named : Text.startsWith (Text.trim input) "did:" = true ∧ id.did = Text.trim input ∧
      id.handle = id.didDoc.extractPrimaryHandle N ∨
    Text.startsWith (Text.trim input) "did:" = false ∧ ∃ handle,
      normalizeUserHandle N (Text.trim input) = .ok handle ∧ id.handle = some handle ∧
      r.resolveHandle X N W handle = .ok id.did ∧ id.didDoc.matchesHandle handle = true

theorem verifyHandleBidirectional_eq_ok {doc : DidDocument} {handle : String} :
    doc.verifyHandleBidirectional handle = .ok () ↔ doc.matchesHandle handle = true := by
  unfold DidDocument.verifyHandleBidirectional
  split <;> simp [*]

theorem resolveIdent_eq_ok {r : IdentityResolver} {input : String} {id : ResolvedIdentity} :
    r.resolveIdent X N W input = .ok id ↔ Identifies X N W r input id := by
  obtain ⟨did, handle, doc, pds⟩ := id
  unfold IdentityResolver.resolveIdent
  cases hdid : Text.startsWith (Text.trim input) "did:" with
  | true =>
    simp only [hdid, if_true, Fallible.bind_eq_ok, Fallible.pure_eq_ok, ResolvedIdentity.mk.injEq]
    constructor
    · rintro ⟨doc', hdoc, pds', hpds, rfl, rfl, rfl, rfl⟩
      exact ⟨hdoc, hpds, Or.inl ⟨hdid, rfl, rfl⟩⟩
    · rintro ⟨hdoc, hpds, hnamed⟩
      rcases hnamed with ⟨-, hnamed, hhandle⟩ | ⟨hnot, -⟩
      · exact ⟨doc, hnamed ▸ hdoc, pds, hpds, hnamed.symm, hhandle.symm, rfl, rfl⟩
      · rw [hdid] at hnot
        cases hnot
  | false =>
    simp only [hdid, Bool.false_eq_true, if_false, Fallible.bind_eq_ok, Fallible.pure_eq_ok,
      ResolvedIdentity.mk.injEq]
    constructor
    · rintro ⟨name, hname, did', hresolves, doc', hdoc, ⟨⟩, hverified, pds', hpds, rfl, rfl, rfl, rfl⟩
      have hmatches := verifyHandleBidirectional_eq_ok.1 hverified
      exact ⟨hdoc, hpds, Or.inr ⟨hdid, name, hname, rfl, hresolves, hmatches⟩⟩
    · rintro ⟨hdoc, hpds, hnamed⟩
      rcases hnamed with ⟨hnot, -⟩ | ⟨-, name, hname, hhandle, hresolves, hmatches⟩
      · rw [hdid] at hnot
        cases hnot
      · exact ⟨name, hname, did, hresolves, doc, hdoc, (),
          verifyHandleBidirectional_eq_ok.2 hmatches, pds, hpds, rfl, hhandle.symm, rfl, rfl⟩

/-- The links from an input to the endpoints: its identity, the server that the PDS of the identity
    names, and the metadata of that server. -/
def TrustChain (U : UrlParser X) (N : NetCrates) (W : World) (r : IdentityResolver) (input : String)
    (id : ResolvedIdentity) (server : String) (e : AuthEndpointsBundle) : Prop :=
  Identifies X N W r input id ∧
    NamesServer U N W r.ssrfFilter id.pdsEndpoint e.protectedResourceMetadata server ∧
    SpeaksForItself U N W r.ssrfFilter server e.authServerMetadata ∧
    e = assembleEndpoints id e.protectedResourceMetadata e.authServerMetadata

theorem discoverOauthEndpoints_eq_ok {r : IdentityResolver} {input : String} {e : AuthEndpointsBundle} :
    discoverOauthEndpoints U N W r input = .ok e ↔ ∃ id server, TrustChain U N W r input id server e := by
  simp only [discoverOauthEndpoints, Fallible.bind_eq_ok, Fallible.mapError_eq_ok, Fallible.pure_eq_ok,
    resolveIdent_eq_ok, fetchProtectedResourceMetadata_eq_ok, fetchAuthServerMetadata_eq_ok]
  constructor
  · rintro ⟨id, hid, pdsMd, ⟨server, hnames⟩, asMd, hspeaks, rfl⟩
    rw [hnames.only, List.headD_cons] at hspeaks
    exact ⟨id, server, hid, hnames, hspeaks, rfl⟩
  · rintro ⟨id, server, hid, hnames, hspeaks, he⟩
    refine ⟨id, hid, _, ⟨server, hnames⟩, _, ?_, he.symm⟩
    rw [hnames.only, List.headD_cons]
    exact hspeaks

/-! ### The served documents -/

theorem safeGetJson_eq_ok {T : Type} {fromJson : Json → Except String T} {f : SsrfFilter}
    {urlStr : String} {maxBytes : Nat} {value : T} :
    f.safeGetJson X N W fromJson urlStr maxBytes = .ok value ↔
      ∃ bytes j, f.safeGet N W urlStr maxBytes = .ok bytes ∧ X.jsonFromSlice bytes = .ok j ∧
        fromJson j = .ok value := by
  simp only [SsrfFilter.safeGetJson, Fallible.bind_eq_ok, Fallible.mapError_eq_ok]
  constructor
  · rintro ⟨bytes, hbytes, j, hj, hvalue⟩
    exact ⟨bytes, j, hbytes, hj, hvalue⟩
  · rintro ⟨bytes, j, hbytes, hj, hvalue⟩
    exact ⟨bytes, hbytes, j, hj, hvalue⟩

namespace DiscoverySample

open LoginSample (issuer parEndpoint tokenEndpoint documents render parseUrl siteUrl didJson pdsJson asJson)
open LoginSample (crates parse_render)
open DirectorySample (did)

def parser : UrlParser crates where
  parse text := (parseUrl text).map fun url =>
    { url with username := "", password := none, query := none, fragment := none }
  agrees text := by
    have hparse : crates.urlParse text = parseUrl text := rfl
    rw [hparse]
    cases parseUrl text with
    | error e => rfl
    | ok url => rfl

def net : NetCrates :=
  { DirectorySample.net with urlParse := fun text => (parseUrl text).map fun url => { url with asStr := text } }

def resolver : IdentityResolver := DirectorySample.resolver fun _ => []

/-- The documents of the directory, of the PDS and of the authorization server, by their URLs. -/
def pages : List (String × Json) :=
  [("https://plc.directory/did:plc:aaaaaaaaaaaaaaaaaaaaaaaa", didJson),
    ("https://pds.example.com/.well-known/oauth-protected-resource", pdsJson),
    ("https://auth.example.com/.well-known/oauth-authorization-server", asJson)]

def world : World where
  lookupHost := fun _ => .records [.v4 104 16 1 1]
  get := fun url =>
    match pages.lookup url.asStr with
    | some j => .ok { status := 200, headers := [], body := .ofBytes (Text.asBytes (render j)) }
    | none => .ok { status := 404, headers := [], body := .ofBytes [] }
  doh := fun _ => .error "connection refused"

def document : DidDocument where
  id := did
  alsoKnownAs := []
  verificationMethod := []
  service := [{ id := "#atproto_pds", serviceType := "AtprotoPersonalDataServer",
                serviceEndpoint := "https://pds.example.com" }]

def identity : ResolvedIdentity where
  did := did
  handle := none
  didDoc := document
  pdsEndpoint := "https://pds.example.com"

def pdsMetadata : ProtectedResourceMetadata where
  resource := "https://pds.example.com"
  authorizationServers := [issuer]
  scopesSupported := []
  bearerMethodsSupported := []
  resourceDocumentation := none

def asMetadata : AuthorizationServerMetadata where
  issuer := issuer
  authorizationEndpoint := "https://auth.example.com/oauth/authorize"
  tokenEndpoint := tokenEndpoint
  pushedAuthorizationRequestEndpoint := parEndpoint
  requirePushedAuthorizationRequests := true
  dpopSigningAlgValuesSupported := ["ES256"]
  codeChallengeMethodsSupported := ["S256"]
  responseTypesSupported := ["code"]
  grantTypesSupported := ["authorization_code", "refresh_token"]
  tokenEndpointAuthMethodsSupported := ["none", "private_key_jwt"]
  tokenEndpointAuthSigningAlgValuesSupported := ["ES256"]
  scopesSupported := ["atproto"]
  authorizationResponseIssParameterSupported := true
  clientIdMetadataDocumentSupported := true
  requireRequestUriRegistration := true

theorem length_render : ∀ j ∈ [didJson, pdsJson, asJson],
    (Text.asBytes (render j)).length ≤ MAX_OAUTH_RESPONSE_BYTES := by
  decide +kernel

/-- A page that is fetched. -/
structure Page (text : String) (j : Json) : Prop where
  parses : ∃ host path, parseUrl text = .ok (siteUrl host path) ∧
    resolver.ssrfFilter.resolveAndPin net { siteUrl host path with asStr := text } (.records [.v4 104 16 1 1]) =
      .ok ({ ip := .v4 104 16 1 1, port := 443 }, host)
  listed : pages.lookup text = some j
  document : j ∈ [didJson, pdsJson, asJson]

theorem Page.mem_documents {text : String} {j : Json} (h : Page text j) : j ∈ documents :=
  List.mem_append_left _ (List.mem_append_left [_, _, _, _] h.document)

theorem Page.get {text : String} {j : Json} (h : Page text j) {url : WebUrl} (hurl : url.asStr = text) :
    world.get url =
      .ok { status := 200, headers := [], body := .ofBytes (Text.asBytes (render j)) } := by
  simp only [world, hurl, h.listed]

theorem Page.serves {text : String} {j : Json} (h : Page text j) {T : Type} {fromJson : Json → Except String T}
    {value : T} (hvalue : fromJson j = .ok value) :
    resolver.ssrfFilter.safeGetJson crates net world fromJson text MAX_OAUTH_RESPONSE_BYTES = .ok value := by
  obtain ⟨host, path, hparse, hpin⟩ := h.parses
  have hurl : net.urlParse text = .ok { siteUrl host path with asStr := text } := by
    simp only [net, hparse, Except.map]
  exact safeGetJson_eq_ok.2 ⟨_, j, SsrfFilter.safeGet_of_served hurl hpin (h.get rfl)
    (length_render j h.document), parse_render (h.mem_documents), hvalue⟩

theorem page_did : Page "https://plc.directory/did:plc:aaaaaaaaaaaaaaaaaaaaaaaa" didJson where
  parses := ⟨"plc.directory", "/did:plc:aaaaaaaaaaaaaaaaaaaaaaaa", by rfl, by rfl⟩
  listed := by rfl
  document := by simp

theorem page_pds : Page "https://pds.example.com/.well-known/oauth-protected-resource" pdsJson where
  parses := ⟨"pds.example.com", "/.well-known/oauth-protected-resource", by rfl, by rfl⟩
  listed := by rfl
  document := by simp

theorem page_as : Page "https://auth.example.com/.well-known/oauth-authorization-server" asJson where
  parses := ⟨"auth.example.com", "/.well-known/oauth-authorization-server", by rfl, by rfl⟩
  listed := by rfl
  document := by simp

theorem identifies : Identifies crates net world resolver did identity where
  document := by
    obtain ⟨host, path, hparse, hpin⟩ := page_did.parses
    have hurl : net.urlParse (Text.trimEndMatches (· == '/') resolver.plcDirectoryUrl ++ "/" ++ did) =
        .ok { siteUrl host path with asStr := "https://plc.directory/did:plc:aaaaaaaaaaaaaaaaaaaaaaaa" } := by
      have htext : Text.trimEndMatches (· == '/') resolver.plcDirectoryUrl ++ "/" ++ did =
        "https://plc.directory/did:plc:aaaaaaaaaaaaaaaaaaaaaaaa" := by rfl
      rw [htext]
      simp only [net, hparse, Except.map]
    exact IdentityResolver.resolveDid_of_served rfl hurl hpin (page_did.get rfl)
      (length_render _ page_did.document) (parse_render page_did.mem_documents) rfl rfl
  pds := by rfl
  named := Or.inl ⟨by rfl, by rfl, by rfl⟩

theorem bareOrigin {text host : String} (hparse : parseUrl text = .ok (siteUrl host "/"))
    (hport : rawPort (rawHostPort text) = none) (hslashes : '\\' ∉ rawHostPort text) :
    ∃ url, BareOrigin parser text url ∧ url.origin = "https://" ++ host := by
  refine ⟨{ siteUrl host "/" with username := "", password := none, query := none, fragment := none },
    ⟨?_, rfl, rfl, ?_, hslashes, Or.inr rfl, rfl, rfl⟩, rfl⟩
  · simp only [parser, hparse, Except.map]
  · intro port h
    rw [hport] at h
    cases h

theorem safeEndpoint {text host path : String} (hparse : parseUrl text = .ok (siteUrl host path))
    (hblank : Text.trim text ≠ "") : SafeEndpoint parser text := by
  refine ⟨hblank, { siteUrl host path with username := "", password := none, query := none, fragment := none },
    host, ?_, rfl, Or.inl rfl, rfl, rfl⟩
  simp only [parser, hparse, Except.map]

theorem bare_pds : ∃ url, BareOrigin parser "https://pds.example.com" url ∧
    url.origin = "https://pds.example.com" := by
  have hparse : parseUrl "https://pds.example.com" = .ok (siteUrl "pds.example.com" "/") := by rfl
  exact bareOrigin hparse (by decide) (by decide)

theorem bare_as : ∃ url, BareOrigin parser issuer url ∧ url.origin = issuer := by
  have hparse : parseUrl issuer = .ok (siteUrl "auth.example.com" "/") := by rfl
  exact bareOrigin hparse (by decide) (by decide)

theorem namesServer : NamesServer parser net world resolver.ssrfFilter "https://pds.example.com" pdsMetadata
    issuer where
  served := by
    have htext : wellKnownUrl "https://pds.example.com" "oauth-protected-resource" =
      "https://pds.example.com/.well-known/oauth-protected-resource" := by rfl
    rw [Serves, htext]
    exact page_pds.serves rfl
  only := rfl
  bare := bare_as.imp fun _ h => h.1
  itself := by
    obtain ⟨url, hurl, horigin⟩ := bare_pds
    exact ⟨url, hurl, hurl.normalizeOrigin_eq.symm⟩

theorem atprotoProfile : AtprotoProfile parser asMetadata := by
  have hauthorize : parseUrl "https://auth.example.com/oauth/authorize" =
    .ok (siteUrl "auth.example.com" "/oauth/authorize") := by rfl
  exact ⟨safeEndpoint LoginSample.parseUrl_par (by decide),
    safeEndpoint LoginSample.parseUrl_token (by decide), safeEndpoint hauthorize (by decide), rfl, by decide, by decide, by decide, by decide,
    by decide, rfl, rfl, rfl, by decide, by decide⟩

theorem speaksForItself : SpeaksForItself parser net world resolver.ssrfFilter issuer asMetadata where
  served := by
    have htext : wellKnownUrl issuer "oauth-authorization-server" =
      "https://auth.example.com/.well-known/oauth-authorization-server" := by rfl
    refine Or.inl ?_
    rw [Serves, htext]
    exact page_as.serves rfl
  issuer := by
    obtain ⟨url, hurl, -⟩ := bare_as
    exact ⟨url, url, hurl, hurl, rfl⟩
  profile := atprotoProfile

theorem discovers : discoverOauthEndpoints parser net world resolver did =
    .ok (assembleEndpoints identity pdsMetadata asMetadata) :=
  discoverOauthEndpoints_eq_ok.2 ⟨_, _, identifies, namesServer, speaksForItself, rfl⟩

end DiscoverySample

section Runs

variable (U : UrlParser X) (N : NetCrates) (r : IdentityResolver) (worldOf : LoginCall → World)
  (inputOf : LoginCall → String)

/-- Each login of the run takes what the discovery answers for its input, in the world of its moment. -/
def DiscoversEndpoints (tr : List (LoginAction × LoginEvent)) : Prop :=
  ∀ call event, (.login call, event) ∈ tr →
    call.discovery = loginDiscovery U N (worldOf call) r (inputOf call)

/-- The chain of trust of a login of the run: it leads from the input of the login to the endpoints that
    the login went by. -/
structure LoginChain (tr : List (LoginAction × LoginEvent)) (call : LoginCall) (id : ResolvedIdentity)
    (server : String) (e : AuthEndpointsBundle) : Prop where
  login : ∃ event, (.login call, event) ∈ tr
  chain : TrustChain U N (worldOf call) r (inputOf call) id server e
  found : call.discovery = .ok e.toDiscoveredAuthEndpoints

end Runs

section Runs

variable {r : IdentityResolver} {worldOf : LoginCall → World} {inputOf : LoginCall → String}
  {tr : List (LoginAction × LoginEvent)}

theorem loginDiscovery_eq_ok {input : String} {e : DiscoveredAuthEndpoints} :
    loginDiscovery U N W r input = .ok e ↔ ∃ bundle,
      discoverOauthEndpoints U N W r input = .ok bundle ∧ bundle.toDiscoveredAuthEndpoints = e := by
  rw [loginDiscovery, Fallible.mapError_eq_ok]
  cases discoverOauthEndpoints U N W r input <;> simp [Except.map]

/-- The endpoints that a login of the run went by are at the end of its chain of trust. -/
theorem DiscoversEndpoints.loginChain (h : DiscoversEndpoints U N r worldOf inputOf tr) {call : LoginCall}
    {event : LoginEvent} {endpoints : DiscoveredAuthEndpoints} (hmem : (.login call, event) ∈ tr)
    (hd : call.discovery = .ok endpoints) :
    ∃ id server e, LoginChain U N r worldOf inputOf tr call id server e ∧
      e.toDiscoveredAuthEndpoints = endpoints := by
  have hcall := h call event hmem
  rw [hd] at hcall
  obtain ⟨e, hdiscovers, he⟩ := loginDiscovery_eq_ok.1 hcall.symm
  obtain ⟨id, server, hchain⟩ := discoverOauthEndpoints_eq_ok.1 hdiscovers
  exact ⟨id, server, e, ⟨⟨event, hmem⟩, hchain, he ▸ hd⟩, he⟩

theorem TrustChain.endpoints {input server : String} {id : ResolvedIdentity}
    {e : AuthEndpointsBundle} (h : TrustChain U N W r input id server e) :
    e.did = id.did ∧ e.pdsEndpoint = id.pdsEndpoint ∧ e.authServerIssuer = e.authServerMetadata.issuer ∧
      e.tokenEndpoint = e.authServerMetadata.tokenEndpoint ∧ SafeEndpoint U e.parEndpoint ∧
      SafeEndpoint U e.tokenEndpoint := by
  obtain ⟨-, -, hspeaks, he⟩ := h
  rw [he]
  exact ⟨rfl, rfl, rfl, rfl, hspeaks.profile.par, hspeaks.profile.token⟩

/-- The chain of the login that stored an entry. -/
theorem DiscoversEndpoints.chain_of_taken {metadata : OAuthClientMetadata} {stateTtl : Duration}
    {tr' : List (LoginAction × LoginEvent)} {params : CallbackParams} {entry : StoredStateEntry}
    (h : DiscoversEndpoints U N r worldOf inputOf tr) (hpre : tr' <+: tr)
    (htaken : LoginSystem.Taken metadata stateTtl tr' params entry) :
    ∃ call id server e, LoginChain U N r worldOf inputOf tr call id server e ∧
      base64urlEncode call.stateBytes = params.state ∧ entry.did = some e.did ∧
      entry.pdsEndpoint = e.pdsEndpoint ∧ entry.issuer = e.authServerIssuer ∧
      entry.tokenEndpoint = e.tokenEndpoint := by
  obtain ⟨record, now, ⟨-, call, endpoints, hmem, hcall, hrecord⟩, rfl, hstate, -⟩ := htaken
  obtain ⟨id, server, e, hchain, rfl⟩ := h.loginChain (hpre.subset hmem) hcall
  rw [hrecord] at hstate ⊢
  exact ⟨call, id, server, e, hchain, hstate, rfl, rfl, rfl, rfl⟩

end Runs

/-- Only the second half of a callback returns. -/
theorem LoginSystem.finish_of_returned {S : Type} {net : Network S} {metadata : OAuthClientMetadata}
    {stateTtl : Duration} {s s' : LoginSystem S} {a : LoginAction} {params : CallbackParams}
    {requests : List ClientRequest} {result : Except AtprotoOAuthError OAuthSession}
    (h : s.step X net metadata stateTtl a = some (s', .returned params requests result)) :
    ∃ params' taken checked first second created,
      a = .finish params' taken checked first second created := by
  cases a with
  | tick now =>
    simp only [step] at h
    split at h <;> cases h
  | login call =>
    simp only [step] at h
    split at h <;> cases h
  | store record =>
    simp only [step] at h
    split at h <;> cases h
  | callback params' => cases h
  | finish params' taken checked first second created => exact ⟨_, _, _, _, _, _, rfl⟩

/-- In every run of a client, with a world that changes as it likes between the logins: the session of
    a callback comes from the login with its state. In the world of that login, the document of the DID of
    the session names the PDS, and that PDS named the server to whose token endpoint the code went; and
    every request of the client went to an endpoint that the chain of such a login leads to, over `https`
    or to this machine. -/
theorem sessions_follow_trust_chains {S : Type} {net : Network S} {metadata : OAuthClientMetadata}
    {stateTtl : Duration} {r : IdentityResolver} {worldOf : LoginCall → World}
    {inputOf : LoginCall → String} {s₀ s : LoginSystem S} {tr : List (LoginAction × LoginEvent)}
    (hinit : s₀.Initial) (hr : Exec Exec.anyStep (LoginSystem.step X net metadata stateTtl) s₀ tr s)
    (hd : DiscoversEndpoints U N r worldOf inputOf tr) :
    (∀ action params requests session, (action, .returned params requests (.ok session)) ∈ tr →
      ∃ call id server e, LoginChain U N r worldOf inputOf tr call id server e ∧
        base64urlEncode call.stateBytes = params.state ∧ id.didDoc.id = session.sub ∧
        id.didDoc.extractPdsEndpoint X = .ok e.pdsEndpoint ∧
        session.pdsEndpoint = some e.pdsEndpoint ∧
        session.authServerIssuer = some e.authServerMetadata.issuer ∧
        session.tokenEndpoint = some e.authServerMetadata.tokenEndpoint ∧
        (∀ request ∈ requests, request.url = e.authServerMetadata.tokenEndpoint) ∧
        ∃ iss, params.iss = some iss ∧
          normalizeIssuer iss = normalizeIssuer e.authServerMetadata.issuer) ∧
    ∀ request ∈ s.client.sent, SafeEndpoint U request.url ∧ ∃ call id server e,
      LoginChain U N r worldOf inputOf tr call id server e ∧
        (request.url = e.parEndpoint ∨ request.url = e.tokenEndpoint) := by
  refine ⟨?_, ?_⟩
  · intro action params requests session hmem
    obtain ⟨pre, post, htr⟩ := List.append_of_mem hmem
    obtain ⟨s₁, s₂, -, -, hstep⟩ := hr.split_at htr
    obtain ⟨params', taken, checked, first, second, created, rfl⟩ := LoginSystem.finish_of_returned hstep
    obtain ⟨rfl, entry, rfl, htaken, -, hbound⟩ := bound_of_returned Form.utf8_asBytes hinit hr htr
    obtain ⟨call, id, server, e, hchain, hstate, hdid, hpds, hissuer, htoken⟩ :=
      hd.chain_of_taken (htr ▸ List.prefix_append _ _) htaken
    obtain ⟨hdid', hpds', hissuer', htoken', -, -⟩ := hchain.chain.endpoints
    obtain ⟨hid, -, -, -⟩ := hchain.chain
    have hsub : id.did = session.sub :=
      hdid'.symm.trans (Option.some.inj (hdid.symm.trans hbound.sub))
    refine ⟨call, id, server, e, hchain, hstate, ?_, ?_, ?_, ?_, ?_, ?_, ?_⟩
    · rw [IdentityResolver.resolveDid_eq_ok hid.document, hsub]
    · rw [hpds']
      exact hid.pds
    · rw [hbound.pdsEndpoint, hpds]
    · rw [hbound.authServerIssuer, hissuer, hissuer']
    · rw [hbound.tokenEndpoint, htoken, htoken']
    · intro request hrequest
      rw [(hbound.requests request hrequest).url, htoken, htoken']
    · rw [← hissuer', ← hissuer]
      exact hbound.issuer
  · intro request hmem
    rcases (LoginSystem.Origin.run hinit hr).sent request hmem with
      ⟨call, endpoints, event, hlogin, hcall, hattempt⟩ | ⟨params, entry, _, _, _, _, _, -, htaken, hattempt⟩
    · obtain ⟨id, server, e, hchain, rfl⟩ := hd.loginChain hlogin hcall
      have hurl : request.url = e.parEndpoint := hattempt.url_eq
      obtain ⟨-, -, -, -, hpar, -⟩ := hchain.chain.endpoints
      exact ⟨hurl ▸ hpar, call, id, server, e, hchain, Or.inl hurl⟩
    · obtain ⟨call, id, server, e, hchain, -, -, -, -, htoken⟩ :=
        hd.chain_of_taken (List.prefix_refl _) htaken
      have hurl : request.url = e.tokenEndpoint := hattempt.url_eq.trans htoken
      obtain ⟨-, -, -, -, -, hsafe⟩ := hchain.chain.endpoints
      exact ⟨hurl ▸ hsafe, call, id, server, e, hchain, Or.inr hurl⟩

open LoginSample DiscoverySample in
/-- The sample session is for the DID whose document names its PDS. -/
theorem sessions_follow_trust_chains_sample : ∃ session : OAuthSession, ∃ tr id server e,
    LoginChain parser DiscoverySample.net resolver (fun _ => world) (fun _ => DirectorySample.did) tr call id
      server e ∧ id.didDoc.id = session.sub ∧ session.sub = DirectorySample.did := by
  obtain ⟨par, token, session, s, -, -, hsub, -, hr⟩ := exec_finish
  have hd : DiscoversEndpoints parser DiscoverySample.net resolver (fun _ => world)
      (fun _ => DirectorySample.did) (before ++ [(finish, .returned params [token] (.ok session))]) := by
    intro call' event hmem
    rw [login_of_mem hmem]
    exact (loginDiscovery_eq_ok.2 ⟨_, discovers, rfl⟩).symm
  obtain ⟨hsessions, -⟩ := sessions_follow_trust_chains initial_system hr hd
  obtain ⟨call', id, server, e, hchain, -, hid, -⟩ :=
    hsessions finish params [token] session (List.mem_append_right _ (List.mem_singleton.2 rfl))
  obtain ⟨event, hlogin⟩ := hchain.login
  obtain rfl := login_of_mem hlogin
  exact ⟨session, _, id, server, e, hchain, hid, hsub⟩

end Skyauth
