import Skyauth.IpFilter
import Skyauth.TokenEndpoint

/-!
# The SSRF filter

`SsrfFilter` and `SsrfDnsResolver` of `src/ssrf.rs`: which URLs and addresses pass, how a host name is
resolved and pinned, and what `safe_get` does with a response. Answers of the name service are
arguments, one for each lookup.
-/

namespace Skyauth

/-- Largest number of pinned hosts of a resolver. -/
def MAX_PINNED_HOSTS : Nat := 1024

/-- A parsed URL together with its text. -/
structure WebUrl extends Url where
  asStr : String
  deriving Repr, DecidableEq

/-- `std::net::SocketAddr`. -/
structure SocketAddr where
  ip : IpAddr
  port : Nat
  deriving Repr, DecidableEq

/-- What the filter takes from outside. -/
structure NetCrates where
  /-- `str::parse::<IpAddr>`. -/
  parseIp : String → Option IpAddr
  /-- `IpAddr::to_string`. -/
  ipToString : IpAddr → String
  /-- `Url::parse`. -/
  urlParse : String → Except String WebUrl
  /-- `Url::join`. -/
  urlJoin : WebUrl → String → Except String WebUrl
  /-- The text of a status, with its reason. -/
  statusDisplay : Nat → String

/-- `Url::port_or_known_default`. -/
def Url.portOrKnownDefault (url : Url) : Option Nat :=
  match url.port with
  | some port => some port
  | none =>
    if url.scheme = "http" ∨ url.scheme = "ws" then some 80
    else if url.scheme = "https" ∨ url.scheme = "wss" then some 443
    else if url.scheme = "ftp" then some 21
    else none

/-- What the name service says to one lookup. -/
inductive DnsAnswer where
  | timedOut
  | failed (e : String)
  | records (ips : List IpAddr)
  deriving Repr, DecidableEq

/-! ## Host names -/

/-- A host as it is looked up in the table of pins. -/
def pinKey (host : String) : String := Text.toAsciiLowercase (Text.trimEndMatches (· == '.') host)

/-- The metadata and internal names, which no mode lets pass. -/
def isInternalHostname (trimmed : String) : Bool :=
  trimmed == "metadata.google.internal" || trimmed == "instance-data" ||
    trimmed == "metadata.internal" || trimmed == "169.254.169.254" ||
    Text.endsWith trimmed ".internal" || Text.endsWith trimmed ".local" ||
    Text.endsWith trimmed ".localhost"

def isBlockedHostname (host : String) : Bool :=
  let trimmed := Text.trimEndMatches (· == '.') (Text.toAsciiLowercase host)
  trimmed == "localhost" || isInternalHostname trimmed

/-! ## The filter -/

/-- The filter with its mode (`SsrfFilter`). -/
structure SsrfFilter where
  allowInsecureLocalhost : Bool
  deriving Repr, DecidableEq

namespace SsrfFilter

def isIpRestricted (f : SsrfFilter) (ip : IpAddr) : Bool :=
  if f.allowInsecureLocalhost && ip.isLoopback then false else isRestrictedIp ip

def validateIp (X : NetCrates) (f : SsrfFilter) (ip : IpAddr) : Except SsrfError Unit :=
  if f.isIpRestricted ip then .error (.blockedIp (X.ipToString ip)) else .ok ()

/-- The check of the scheme: `http` is for loopback hosts in test mode. -/
def checkScheme (f : SsrfFilter) (url : WebUrl) (host : String) : Except SsrfError Unit :=
  if url.scheme = "https" then .ok ()
  else if url.scheme = "http" ∧ f.allowInsecureLocalhost = true ∧
      (host = "localhost" ∨ host = "127.0.0.1" ∨ host = "::1" ∨ host = "[::1]") then .ok ()
  else .error (.insecureScheme url.asStr)

def validateUrl (X : NetCrates) (f : SsrfFilter) (url : WebUrl) : Except SsrfError Unit := do
  let host ← url.hostStr.elim (.error (.invalidUrl "Missing hostname in URL")) .ok
  f.checkScheme url host
  if !f.allowInsecureLocalhost && isBlockedHostname host then .error (.blockedHost host)
  if f.allowInsecureLocalhost &&
      isInternalHostname (Text.trimEndMatches (· == '.') (Text.toAsciiLowercase host)) then
    .error (.blockedHost host)
  match X.parseIp host with
  | some ip => f.validateIp X ip
  | none => .ok ()

/-- Every address is checked; the first that is restricted is reported. -/
def validateAll (X : NetCrates) (f : SsrfFilter) : List SocketAddr → Except SsrfError Unit
  | [] => .ok ()
  | addr :: rest =>
    match f.validateIp X addr.ip with
    | .error e => .error e
    | .ok () => f.validateAll X rest

/-- IPv4 before IPv6, each in the order they came (`sort_by_key`). -/
def ipv4First (addrs : List SocketAddr) : List SocketAddr :=
  addrs.filter (·.ip.isIpv4) ++ addrs.filter (!·.ip.isIpv4)

/-- What a lookup of a host gives: all its addresses, if none of them is restricted. -/
def checkAnswer (X : NetCrates) (f : SsrfFilter) (host : String) (port : Nat) :
    DnsAnswer → Except SsrfError (List SocketAddr)
  | .timedOut =>
    .error (.dnsResolutionFailed ("DNS resolution for " ++ host ++ " timed out after 5s"))
  | .failed e => .error (.dnsResolutionFailed (host ++ ": " ++ e))
  | .records ips =>
    let addrs := ips.map fun ip => { ip := ip, port := port : SocketAddr }
    if addrs.isEmpty then .error (.dnsResolutionFailed ("No DNS records returned for " ++ host))
    else
      match f.validateAll X addrs with
      | .error e => .error e
      | .ok () => .ok (if f.allowInsecureLocalhost then ipv4First addrs else addrs)

/-- `resolve_and_pin`, with the answer to its lookup. -/
def resolveAndPin (X : NetCrates) (f : SsrfFilter) (url : WebUrl) (answer : DnsAnswer) :
    Except SsrfError (SocketAddr × String) := do
  f.validateUrl X url
  let host ← url.hostStr.elim (.error (.invalidUrl "Missing host in URL")) .ok
  let port := url.portOrKnownDefault.getD 443
  let hostHeader := match url.port with
    | some p => host ++ ":" ++ toString p
    | none => host
  match X.parseIp host with
  | some ip =>
    f.validateIp X ip
    return ({ ip := ip, port := port }, hostHeader)
  | none =>
    let addrs ← f.checkAnswer X host port answer
    match addrs with
    -- not reached: an answer without addresses has been refused
    | [] => .error (.dnsResolutionFailed ("No DNS records returned for " ++ host))
    | addr :: _ => return (addr, hostHeader)

end SsrfFilter

/-! ## The resolver -/

/-- The resolver of the pooled clients with its pins (`SsrfDnsResolver`). -/
structure SsrfDnsResolver where
  filter : SsrfFilter
  pinnedIps : Table String IpAddr

namespace SsrfDnsResolver

def new (allowInsecureLocalhost : Bool) : SsrfDnsResolver where
  filter := { allowInsecureLocalhost := allowInsecureLocalhost }
  pinnedIps := ∅

/-- The table without the key that makes room for a new host: `victim` is the first key of the
    iteration order, should it be asked for. -/
def makeRoom (r : SsrfDnsResolver) (key victim : String) : Option (Table String IpAddr) :=
  if key ∉ r.pinnedIps ∧ MAX_PINNED_HOSTS ≤ r.pinnedIps.size then
    if victim ∈ r.pinnedIps then some (r.pinnedIps.erase victim) else none
  else some r.pinnedIps

/-- `pin_host`: an address that the filter refuses is not pinned. -/
def pinHost (X : NetCrates) (r : SsrfDnsResolver) (host : String) (ip : IpAddr) (victim : String) :
    Option SsrfDnsResolver :=
  match r.filter.validateIp X ip with
  | .error _ => some r
  | .ok () =>
    (r.makeRoom (pinKey host) victim).map fun table =>
      { r with pinnedIps := table.insert (pinKey host) ip }

def getPinnedIp (r : SsrfDnsResolver) (host : String) : Option IpAddr :=
  r.pinnedIps.lookup (pinKey host)

/-- `resolve`: the pin is read when it is called; the answer is for the lookup of a host that has no
    pin. -/
def resolve (X : NetCrates) (r : SsrfDnsResolver) (name : String) (answer : DnsAnswer) :
    Except SsrfError (List SocketAddr) :=
  let host := pinKey name
  if !r.filter.allowInsecureLocalhost && isBlockedHostname host then .error (.blockedHost host)
  else if r.filter.allowInsecureLocalhost && isInternalHostname host then .error (.blockedHost host)
  else
    match r.getPinnedIp host with
    | some ip =>
      match r.filter.validateIp X ip with
      | .error e => .error e
      | .ok () => .ok [{ ip := ip, port := 0 }]
    | none => r.filter.checkAnswer X host 0 answer

end SsrfDnsResolver

/-! ## Fetching -/

/-- Where `safe_get` goes on after a response. -/
inductive FetchStep where
  | follow (url : WebUrl) (redirectsRemaining : Nat)
  | finish (result : Except SsrfError (List UInt8))

/-- The body of the loop of `safe_get` once a response has come in. -/
def afterResponse (X : NetCrates) (url : WebUrl) (redirectsRemaining maxBytes : Nat)
    (resp : Response WireBody) : FetchStep :=
  if isRedirection resp.status then
    if redirectsRemaining = 0 then .finish (.error .tooManyRedirects)
    else
      match resp.headers.get "location" with
      | none => .finish (.error (.http "Redirect missing Location header"))
      | some value =>
        match value.toStr with
        | none =>
          .finish (.error (.http "Invalid Location header: failed to convert header to a str"))
        | some location =>
          match X.urlJoin url location with
          | .error e =>
            .finish (.error (.invalidUrl ("Invalid redirect location '" ++ location ++ "': " ++ e)))
          | .ok nextUrl => .follow nextUrl (redirectsRemaining - 1)
  else if isSuccess resp.status then .finish (resp.body.readBoundedBody maxBytes)
  else
    .finish (.error (.httpStatus resp.status
      ("HTTP status " ++ X.statusDisplay resp.status ++ " from " ++ url.asStr)))

end Skyauth
