import Skyauth.Ssrf
import Skyauth.Lib.Exec

/-!
# Pinned clients shared by many tasks

The pool of clients with their resolvers, and the tasks that use it: `build_pinned_client`, `safe_get`
with its redirects, calls of `pin_host` and of `resolve`. A scheduler picks the actions; the name
service and the servers answer whatever they like each time they are asked. An action is one critical
section together with the code up to the next one. A resolver is a number that is never given out
twice.
-/

namespace Skyauth

/-- Largest number of pooled clients. -/
def MAX_POOLED_CLIENTS : Nat := 64

/-- The runtime a pooled client belongs to and the mode of its filter. -/
abbrev PooledClientKey := Option Nat × Bool

/-- A call of `safe_get`; `requested` is a history variable with the URLs it has requested. -/
structure Fetch where
  filter : SsrfFilter
  maxBytes : Nat
  redirectsRemaining : Nat
  requested : List WebUrl
  deriving DecidableEq

/-- Who called `build_pinned_client`. -/
inductive PinCaller where
  | direct
  | safeGet (fetch : Fetch)
  deriving DecidableEq

/-- A call of `build_pinned_client` that has its validated address. -/
structure PinJob where
  filter : SsrfFilter
  url : WebUrl
  addr : SocketAddr
  hostHeader : String
  caller : PinCaller
  deriving DecidableEq

inductive SsrfTask where
  /-- `safe_get` at the head of its loop. -/
  | looping (url : WebUrl) (fetch : Fetch)
  /-- `build_pinned_client` after `resolve_and_pin`. -/
  | validated (job : PinJob)
  /-- `build_pinned_client` with the resolver of its client. -/
  | pinning (job : PinJob) (resolver : Nat)
  /-- `safe_get` with its client. -/
  | sending (url : WebUrl) (hostHeader : String) (fetch : Fetch)
  /-- `safe_get` waiting for the response. -/
  | awaiting (url : WebUrl) (fetch : Fetch)
  deriving DecidableEq

/-- The call of `safe_get` that waits for the client. -/
def PinJob.fetch (job : PinJob) : Option Fetch :=
  match job.caller with
  | .direct => none
  | .safeGet fetch => some fetch

/-- The call of `safe_get` that a task belongs to. -/
def SsrfTask.fetch : SsrfTask → Option Fetch
  | .looping _ fetch => some fetch
  | .validated job => job.fetch
  | .pinning job _ => job.fetch
  | .sending _ _ fetch => some fetch
  | .awaiting _ fetch => some fetch

inductive SsrfAction where
  /-- `SsrfDnsResolver::new` outside the pool. -/
  | newResolver (allowInsecureLocalhost : Bool)
  | pinHost (resolver : Nat) (host : String) (ip : IpAddr) (victim : String)
  | resolve (resolver : Nat) (name : String) (answer : DnsAnswer)
  | buildPinnedClient (filter : SsrfFilter) (url : WebUrl) (answer : DnsAnswer)
  | safeGet (filter : SsrfFilter) (urlStr : String) (maxBytes : Nat)
  /-- A hop of `safe_get` calls `build_pinned_client`. -/
  | hop (url : WebUrl) (fetch : Fetch) (answer : DnsAnswer)
  /-- `shared_client_and_resolver`, on this runtime. -/
  | share (job : PinJob) (runtime : Option Nat) (victim : PooledClientKey)
  /-- The end of `build_pinned_client`. -/
  | pin (job : PinJob) (resolver : Nat) (victim : String)
  | send (url : WebUrl) (hostHeader : String) (fetch : Fetch)
  | respond (url : WebUrl) (fetch : Fetch) (response : Except String (Response WireBody))

/-- The action calls `pin_host` on this resolver. -/
def SsrfAction.PinsOn (i : Nat) : SsrfAction → Prop
  | .pinHost j _ _ _ => j = i
  | .pin _ j _ => j = i
  | _ => False

inductive SsrfEvent where
  | silent
  | resolved (result : Except SsrfError (List SocketAddr))
  /-- `build_pinned_client` returned, for a client with this resolver. -/
  | built (resolver : Nat) (url : WebUrl) (addr : SocketAddr) (hostHeader : String)
  | refused (e : SsrfError)
  | requested (url : WebUrl) (hostHeader : String)
  /-- `safe_get` returned. -/
  | fetched (fetch : Fetch) (result : Except SsrfError (List UInt8))

structure SsrfSystem where
  resolvers : List SsrfDnsResolver
  pool : Table PooledClientKey Nat
  tasks : List SsrfTask

namespace SsrfSystem

/-- `runtime_scoped_client_and_resolver`: the pooled resolver of the key, or a new one, for which
    `victim` makes room in a full pool. -/
def sharedResolver (s : SsrfSystem) (key victim : PooledClientKey) : Option (Nat × SsrfSystem) :=
  match s.pool.lookup key with
  | some resolver => some (resolver, s)
  | none =>
    let resolver := s.resolvers.length
    let resolvers := s.resolvers ++ [SsrfDnsResolver.new key.2]
    if MAX_POOLED_CLIENTS ≤ s.pool.size then
      if victim ∈ s.pool then
        some (resolver,
          { s with resolvers := resolvers, pool := (s.pool.erase victim).insert key resolver })
      else none
    else some (resolver, { s with resolvers := resolvers, pool := s.pool.insert key resolver })

/-- The resolver after `pin_host` on it. -/
def pinOn (X : NetCrates) (s : SsrfSystem) (resolver : Nat) (host : String) (ip : IpAddr)
    (victim : String) : Option SsrfSystem := do
  let r ← s.resolvers[resolver]?
  let r' ← r.pinHost X host ip victim
  return { s with resolvers := s.resolvers.set resolver r' }

/-- `resolve_and_pin` for a caller: a task that goes on with the address, or the error. -/
def validate (X : NetCrates) (filter : SsrfFilter) (url : WebUrl) (answer : DnsAnswer)
    (caller : PinCaller) : Except SsrfError SsrfTask :=
  (filter.resolveAndPin X url answer).map fun (addr, hostHeader) =>
    .validated { filter := filter, url := url, addr := addr, hostHeader := hostHeader, caller := caller }

/-- The tasks that follow `build_pinned_client`. -/
def resume (job : PinJob) : List SsrfTask :=
  match job.caller with
  | .direct => []
  | .safeGet fetch => [.sending job.url job.hostHeader fetch]

/-- One action. -/
def step (X : NetCrates) (s : SsrfSystem) : SsrfAction → Option (SsrfSystem × SsrfEvent)
  | .newResolver mode =>
    some ({ s with resolvers := s.resolvers ++ [SsrfDnsResolver.new mode] }, .silent)
  | .pinHost resolver host ip victim => (s.pinOn X resolver host ip victim).map (·, .silent)
  | .resolve resolver name answer =>
    s.resolvers[resolver]?.map fun r => (s, .resolved (r.resolve X name answer))
  | .buildPinnedClient filter url answer =>
    match validate X filter url answer .direct with
    | .error e => some (s, .refused e)
    | .ok task => some ({ s with tasks := task :: s.tasks }, .silent)
  | .safeGet filter urlStr maxBytes =>
    let fetch := { filter := filter, maxBytes := maxBytes, redirectsRemaining := 3, requested := [] }
    match X.urlParse urlStr with
    | .error e =>
      some (s, .fetched fetch (.error (.invalidUrl ("Failed to parse URL '" ++ urlStr ++ "': " ++ e))))
    | .ok url => some ({ s with tasks := .looping url fetch :: s.tasks }, .silent)
  | .hop url fetch answer =>
    if .looping url fetch ∈ s.tasks then
      let rest := s.tasks.erase (.looping url fetch)
      match validate X fetch.filter url answer (.safeGet fetch) with
      | .error e => some ({ s with tasks := rest }, .fetched fetch (.error e))
      | .ok task => some ({ s with tasks := task :: rest }, .silent)
    else none
  | .share job runtime victim =>
    if .validated job ∈ s.tasks then
      (s.sharedResolver (runtime, job.filter.allowInsecureLocalhost) victim).map fun (resolver, s') =>
        ({ s' with tasks := .pinning job resolver :: s.tasks.erase (.validated job) }, .silent)
    else none
  | .pin job resolver victim =>
    if .pinning job resolver ∈ s.tasks then
      let host := job.url.hostStr.getD "localhost"
      let pinned := if (X.parseIp host).isSome then some s
        else s.pinOn X resolver host job.addr.ip victim
      pinned.map fun s' =>
        ({ s' with tasks := resume job ++ s.tasks.erase (.pinning job resolver) },
          .built resolver job.url job.addr job.hostHeader)
    else none
  | .send url hostHeader fetch =>
    if .sending url hostHeader fetch ∈ s.tasks then
      let sent := { fetch with requested := fetch.requested ++ [url] }
      some ({ s with tasks := .awaiting url sent :: s.tasks.erase (.sending url hostHeader fetch) },
        .requested url hostHeader)
    else none
  | .respond url fetch response =>
    if .awaiting url fetch ∈ s.tasks then
      let rest := s.tasks.erase (.awaiting url fetch)
      match response with
      | .error e => some ({ s with tasks := rest }, .fetched fetch (.error (.http e)))
      | .ok response =>
        match afterResponse X url fetch.redirectsRemaining fetch.maxBytes response with
        | .finish result => some ({ s with tasks := rest }, .fetched fetch result)
        | .follow nextUrl redirectsRemaining =>
          let fetch := { fetch with redirectsRemaining := redirectsRemaining }
          some ({ s with tasks := .looping nextUrl fetch :: rest }, .silent)
    else none

/-- No client in the pool and no task under way. -/
structure Initial (s : SsrfSystem) : Prop where
  resolvers : s.resolvers = []
  pool : s.pool = ∅
  tasks : s.tasks = []

end SsrfSystem

end Skyauth
