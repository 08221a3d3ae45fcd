import Skyauth.Session
import Skyauth.Ssrf

/-!
# XRPC requests

The grammar of method identifiers (`src/kernels/nsid_bytes.rs`) and `send_xrpc_request` of
`src/client.rs`, which puts an identifier into the path of the session's PDS endpoint.
-/

namespace Skyauth

def NSID_MAX_LENGTH : Nat := 317

def NSID_MAX_SEGMENT_LENGTH : Nat := 63

def NSID_MIN_SEGMENTS : Nat := 3

/-- The checks on one segment. -/
def isNsidSegment (seg : String) : Bool :=
  !(seg == "" || NSID_MAX_SEGMENT_LENGTH < seg.utf8ByteSize || Text.startsWith seg "-" ||
    Text.endsWith seg "-" || !seg.toList.all fun c => c.isAlphanum || c == '-')

/-- The check on the last segment: a letter, then letters and digits. -/
def isNsidName (name : String) : Bool :=
  name.toList.head?.any Char.isAlpha && !name.toList.any fun c => !c.isAlphanum

def isValidNsid (nsid : String) : Bool :=
  let trimmed := Text.trimStartMatches (· == '/') nsid
  let segments := Text.split '.' trimmed
  if trimmed = "" ∨ NSID_MAX_LENGTH < trimmed.utf8ByteSize then false
  else if Text.contains trimmed ".." ∨ '\\' ∈ trimmed.toList ∨ '%' ∈ trimmed.toList then false
  else if segments.length < NSID_MIN_SEGMENTS then false
  else if !segments.all isNsidSegment then false
  else if !(segments.headD "").toList.head?.any Char.isAlpha then false
  else isNsidName (segments.getLastD "")

def validateXrpcNsid (nsid : String) : Except TokenError Unit :=
  if isValidNsid nsid then .ok () else .error (.invalidNsid nsid)

/-- What the request takes from the URL crate. -/
structure UrlCrates where
  /-- `Url::parse`. -/
  parse : String → Except String WebUrl
  /-- `Url::set_path`. -/
  setPath : WebUrl → String → WebUrl
  /-- `query_pairs_mut().extend_pairs`. -/
  extendPairs : WebUrl → List (String × String) → WebUrl

/-- The URL of a request: the endpoint with the path of the method and the query. -/
def xrpcUrl (U : UrlCrates) (session : OAuthSession) (nsid : String)
    (queryParams : List (String × String)) : Except TokenError WebUrl := do
  validateXrpcNsid nsid
  let pdsEndpoint ← session.pdsEndpoint.elim (.error (.missingField "pds_endpoint")) .ok
  let url ← (U.parse pdsEndpoint).mapError fun e => .http ("Invalid PDS endpoint: " ++ e)
  let trimmedNsid := Text.trimStartMatches (· == '/') nsid
  let basePath := Text.trimEndMatches (· == '/') url.path
  let url := U.setPath url (basePath ++ "/xrpc/" ++ trimmedNsid)
  return if queryParams ≠ [] then U.extendPairs url queryParams else url

namespace Client

variable {W : Type}

/-- `send_xrpc_request`, with what the proofs of the request draw. -/
def sendXrpcRequest (X : Crates) (U : UrlCrates) (net : Network W) (c : Client W)
    (session : OAuthSession) (nsid : String) (queryParams : List (String × String))
    (first second : ProofDraw) : Except AtprotoOAuthError (Response WireBody) × Client W :=
  match xrpcUrl U session nsid queryParams with
  | .error e => (.error (.token e), c)
  | .ok url =>
    c.sendDpopRequest X net
      { dpopKey := session.dpopKey, method := "GET", urlStr := url.asStr,
        accessToken := some session.accessToken, bodyBytes := none, contentType := none }
      first second

end Client

end Skyauth
