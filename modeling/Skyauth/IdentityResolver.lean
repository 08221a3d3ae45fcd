import Skyauth.Identity

/-!
# Resolving handles and DIDs

`IdentityResolver` of `src/identity.rs`, in a world that stays as it is while it is asked: the answers
of the name service and of the servers, by name and by URL.
-/

namespace Skyauth

/-- Everything that is asked for over the network. -/
structure World where
  /-- The addresses of a host. -/
  lookupHost : String → DnsAnswer
  /-- The response to a GET of a URL by a pinned client. -/
  get : WebUrl → Except String (Response WireBody)
  /-- The response of the DNS-over-HTTPS service to the GET of a URL. -/
  doh : String → Except String (Response WireBody)

/-! ## Fetching -/

namespace SsrfFilter

/-- One hop of `safe_get` in a fixed world. -/
def safeGetHop (N : NetCrates) (W : World) (f : SsrfFilter) (maxBytes redirectsRemaining : Nat)
    (url : WebUrl) : Except SsrfError FetchStep := do
  let _ ← f.resolveAndPin N url (W.lookupHost (url.hostStr.getD ""))
  let resp ← (W.get url).mapError .http
  return afterResponse N url redirectsRemaining maxBytes resp

/-- The loop of `safe_get`. -/
def safeGetFrom (N : NetCrates) (W : World) (f : SsrfFilter) (maxBytes : Nat) :
    Nat → WebUrl → Except SsrfError (List UInt8)
  | 0, url => do
    match ← f.safeGetHop N W maxBytes 0 url with
    | .finish result => result
    -- not reached: without redirects left none is followed
    | .follow _ _ => .error .tooManyRedirects
  | left + 1, url => do
    match ← f.safeGetHop N W maxBytes (left + 1) url with
    | .finish result => result
    | .follow nextUrl _ => safeGetFrom N W f maxBytes left nextUrl

def safeGet (N : NetCrates) (W : World) (f : SsrfFilter) (urlStr : String) (maxBytes : Nat) :
    Except SsrfError (List UInt8) :=
  match N.urlParse urlStr with
  | .error e => .error (.invalidUrl ("Failed to parse URL '" ++ urlStr ++ "': " ++ e))
  | .ok url => f.safeGetFrom N W maxBytes 3 url

def safeGetJson {T : Type} (X : Crates) (N : NetCrates) (W : World) (fromJson : Json → Except String T)
    (f : SsrfFilter) (urlStr : String) (maxBytes : Nat) : Except SsrfError T := do
  let bytes ← f.safeGet N W urlStr maxBytes
  (X.jsonFromSlice bytes >>= fromJson).mapError .json

end SsrfFilter

/-! ## TXT records -/

def DOH_MAX_RESPONSE_BYTES : Nat := 64 * 1024

/-- A field of type `u16`. -/
def Json.toU16Field : Json → Except String Nat
  | .int n =>
    if 0 ≤ n ∧ n < 2 ^ 16 then .ok n.toNat else .error "invalid value: integer, expected u16"
  | _ => .error "invalid type: expected u16"

/-- An answer of the DNS-over-HTTPS service (`DohAnswer`). -/
structure DohAnswer where
  answerType : Nat
  data : String
  deriving Repr, DecidableEq

/-- The derived `Deserialize`. -/
def DohAnswer.fromJson (j : Json) : Except String DohAnswer := do
  let members ← j.fields ["type", "data"]
  return { answerType := ← Json.required "type" Json.toU16Field (← Json.member members "type")
           data := ← Json.required "data" Json.toStringField (← Json.member members "data") }

/-- The derived `Deserialize` of `DohResponse`: its answers. -/
def dohResponseFromJson (j : Json) : Except String (List DohAnswer) := do
  let members ← j.fields ["Answer"]
  Json.defaulted [] (Json.toVecField DohAnswer.fromJson) (← Json.member members "Answer")

/-- `StandardDnsResolver::resolve_txt`. -/
def standardResolveTxt (X : Crates) (N : NetCrates) (W : World) (queryName : String) :
    Except IdentityError (List String) := do
  let resp ← (W.doh ("https://cloudflare-dns.com/dns-query?name=" ++ queryName ++ "&type=TXT")).mapError
    .dns
  if !isSuccess resp.status then
    .error (.dns ("DoH resolver returned HTTP " ++ N.statusDisplay resp.status ++ " for query '" ++
      queryName ++ "'"))
  else
    let bytes ← (resp.body.readBoundedBody DOH_MAX_RESPONSE_BYTES).mapError fun e => .dns e.display
    let answers ← (X.jsonFromSlice bytes >>= dohResponseFromJson).mapError .dns
    return (answers.filter (·.answerType == 16)).map fun a => Text.trimMatches (· == '"') a.data

/-- The DIDs that TXT records name. -/
def didValues (records : List String) : List String :=
  ((records.filter (Text.startsWith · "did=")).map fun r => (Text.stripPrefix r "did=").getD "").filter
    (· ≠ "")

/-! ## The resolver -/

structure IdentityResolver where
  ssrfFilter : SsrfFilter
  plcDirectoryUrl : String
  /-- A `DnsTxtResolver` in place of the standard one. -/
  dnsResolver : Option (String → Except IdentityError (List String))

/-- A resolved identity (`ResolvedIdentity`). -/
structure ResolvedIdentity where
  did : String
  handle : Option String
  didDoc : DidDocument
  pdsEndpoint : String
  deriving Repr, DecidableEq

/-- The error of a DID document that could not be fetched. -/
def didFetchError (did : String) : SsrfError → IdentityError
  | .httpStatus 404 _ => .didNotFound did
  | .json err => .malformedDidDocument err
  | other => .ssrf other

namespace IdentityResolver

def new (ssrfFilter : SsrfFilter) : IdentityResolver where
  ssrfFilter := ssrfFilter
  plcDirectoryUrl := DEFAULT_PLC_DIRECTORY
  dnsResolver := none

def resolveTxt (X : Crates) (N : NetCrates) (W : World) (r : IdentityResolver) (queryName : String) :
    Except IdentityError (List String) :=
  match r.dnsResolver with
  | some resolver => resolver queryName
  | none => standardResolveTxt X N W queryName

def resolveHandleDns (X : Crates) (N : NetCrates) (W : World) (r : IdentityResolver) (handle : String) :
    Except IdentityError (Option String) := do
  let normalized ← normalizeHandle N handle
  let records ← r.resolveTxt X N W ("_atproto." ++ normalized)
  match didValues records with
  | [] => return none
  | firstDid :: rest =>
    let _ ← validateDidSyntax firstDid
    if rest.any (· ≠ firstDid) then .error (.ambiguousHandleResolution normalized)
    else return some firstDid

def resolveHandleHttps (N : NetCrates) (W : World) (r : IdentityResolver) (handle : String) :
    Except IdentityError String := do
  let normalized ← normalizeHandle N handle
  let scheme := if r.ssrfFilter.allowInsecureLocalhost &&
    (normalized == "localhost" || Text.startsWith normalized "localhost:") then "http" else "https"
  let url := scheme ++ "://" ++ normalized ++ "/.well-known/atproto-did"
  let bytes ← (r.ssrfFilter.safeGet N W url 2048).mapError fun _ => .handleResolutionFailed normalized
  let text ← (Text.fromUtf8 bytes).elim (.error (.handleResolutionFailed normalized)) .ok
  let text := Text.trim text
  let _ ← validateDidSyntax text
  return text

def resolveHandle (X : Crates) (N : NetCrates) (W : World) (r : IdentityResolver) (handle : String) :
    Except IdentityError String := do
  let normalized ← normalizeHandle N handle
  match r.resolveHandleDns X N W normalized with
  | .ok (some did) => return did
  | .ok none => r.resolveHandleHttps N W normalized
  | .error (.dns _) => r.resolveHandleHttps N W normalized
  | .error e => .error e

/-- The document at a URL, if it is about the DID. -/
def fetchDocument (X : Crates) (N : NetCrates) (W : World) (r : IdentityResolver) (did url : String) :
    Except IdentityError DidDocument := do
  let doc ← (r.ssrfFilter.safeGetJson X N W DidDocument.fromJson url MAX_OAUTH_RESPONSE_BYTES).mapError
    (didFetchError did)
  doc.validateId did
  return doc

def resolveDidPlc (X : Crates) (N : NetCrates) (W : World) (r : IdentityResolver) (did : String) :
    Except IdentityError DidDocument := do
  let _ ← validateDidSyntax did
  r.fetchDocument X N W did (Text.trimEndMatches (· == '/') r.plcDirectoryUrl ++ "/" ++ did)

def resolveDidWeb (X : Crates) (N : NetCrates) (W : World) (r : IdentityResolver) (did : String) :
    Except IdentityError DidDocument := do
  let _ ← validateDidSyntax did
  let stripped ← (Text.stripPrefix did "did:web:").elim (.error (.invalidDidSyntax did)) .ok
  let parts := Text.split ':' stripped
  let domain := Text.replace (Text.replace (parts.headD "") "%3A" ":") "%3a" ":"
  let scheme := if r.ssrfFilter.allowInsecureLocalhost &&
    (Text.startsWith domain "localhost" || Text.startsWith domain "127.0.0.1") then "http" else "https"
  let url := match parts.tail with
    | [] => scheme ++ "://" ++ domain ++ "/.well-known/did.json"
    | pathParts => scheme ++ "://" ++ domain ++ "/" ++ String.intercalate "/" pathParts ++ "/did.json"
  r.fetchDocument X N W did url

def resolveDid (X : Crates) (N : NetCrates) (W : World) (r : IdentityResolver) (did : String) :
    Except IdentityError DidDocument := do
  match ← validateDidSyntax did with
  | .plc => r.resolveDidPlc X N W did
  | .web => r.resolveDidWeb X N W did

def resolveIdent (X : Crates) (N : NetCrates) (W : World) (r : IdentityResolver)
    (handleOrDid : String) : Except IdentityError ResolvedIdentity := do
  let trimmed := Text.trim handleOrDid
  if Text.startsWith trimmed "did:" then
    let doc ← r.resolveDid X N W trimmed
    let pdsEndpoint ← doc.extractPdsEndpoint X
    return { did := trimmed, handle := doc.extractPrimaryHandle N, didDoc := doc,
             pdsEndpoint := pdsEndpoint }
  else
    let handle ← normalizeUserHandle N trimmed
    let did ← r.resolveHandle X N W handle
    let doc ← r.resolveDid X N W did
    doc.verifyHandleBidirectional handle
    let pdsEndpoint ← doc.extractPdsEndpoint X
    return { did := did, handle := some handle, didDoc := doc, pdsEndpoint := pdsEndpoint }

end IdentityResolver

end Skyauth
