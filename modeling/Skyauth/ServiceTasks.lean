import Skyauth.ServiceAuth
import Skyauth.Lib.Exec

/-!
# Verifications side by side

Any number of calls of one `ServiceAuthVerifier` over its cache. A call that misses the cache awaits the
document of the issuer, while the documents may change and other calls, on other threads, use the cache
between any two of its own uses. What a call takes for the current second was read before it was made,
and it caches the key under that second however late the document comes.
-/

namespace Skyauth

/-! ## The parts of a call -/

namespace ServiceAuthVerifier

/-- `resolve_atproto_key` up to the document: nothing yet if the cache has no key. -/
def lookupKey (v : ServiceAuthVerifier) (did : String) (nowSecs : UInt64) :
    Option (Except AtprotoOAuthError AtprotoVerifyingKey) :=
  if !isValidServiceDid did then
    some (.error (.identity (.invalidDidSyntax ("Invalid issuer DID: '" ++ did ++ "'"))))
  else (v.keyCache.getAtprotoKey did nowSecs).map .ok

/-- `resolve_atproto_key` from the document on: the key with the cache afterwards. -/
def acceptDocument (X : ServiceCrates) (v : ServiceAuthVerifier) (did : String) (nowSecs : UInt64)
    (first : String) (answer : Except IdentityError DidDocument) :
    Except AtprotoOAuthError AtprotoVerifyingKey × DidKeyCache :=
  match answer.mapError .identity >>= extractAtprotoKeyFromDocument X with
  | .error e => (.error e, v.keyCache)
  | .ok key => (.ok key, v.keyCache.insertAtprotoKey did key nowSecs first)

end ServiceAuthVerifier

/-- The arguments of `verify_service_jwt_claims`, without the second. -/
structure JwtArguments where
  authHeaderOrToken : String
  expectedAudiences : List String
  leewaySecs : UInt64
  deriving DecidableEq

/-! ## The system -/

/-- Where a call stands that was made at a second. -/
inductive ServiceTask where
  /-- It waits for the document of a DID, a verification with the token that it has parsed. -/
  | waiting (did : String) (nowSecs : UInt64) (check : Option (JwtArguments × ServiceJwt))
  /-- A verification has a key of the issuer. -/
  | holding (key : AtprotoVerifyingKey) (nowSecs : UInt64) (args : JwtArguments) (jwt : ServiceJwt)
  deriving DecidableEq

/-- The actions of the scheduler. -/
inductive ServiceTaskAction where
  | tick (now : UInt64)
  /-- `verify_service_jwt_claims` is called. -/
  | verify (args : JwtArguments)
  /-- `resolve_atproto_key` is called. -/
  | resolve (did : String)
  /-- The document that a call waits for comes, as it is in the world of that moment. -/
  | arrive (task : ServiceTask) (world : World) (first : String)
  /-- A verification uses its key. -/
  | check (task : ServiceTask)
  /-- The future of a call is dropped. -/
  | cancel (task : ServiceTask)
  /-- `insert_atproto_key` by another user of the cache. -/
  | insert (did : String) (key : AtprotoVerifyingKey) (nowSecs : UInt64) (first : String)
  | invalidate (did : String)
  | clearCache

/-- A verification that has returned. -/
structure ServiceVerdict where
  args : JwtArguments
  nowSecs : UInt64
  result : Except AtprotoOAuthError ServiceJwtClaims

/-- What an action shows: a document that came, and a verification that has returned. -/
structure ServiceTaskEvent where
  resolution : Option Resolution
  verdict : Option ServiceVerdict

/-- The verifier with the calls under way. -/
structure ServiceTasks where
  verifier : ServiceAuthVerifier
  clock : UInt64
  tasks : List ServiceTask

namespace ServiceTasks

def silent : ServiceTaskEvent := ⟨none, none⟩

/-- A verification returns. -/
def returned (args : JwtArguments) (nowSecs : UInt64) (result : Except AtprotoOAuthError ServiceJwtClaims) :
    ServiceTaskEvent := ⟨none, some ⟨args, nowSecs, result⟩⟩

/-- A verification has its key, or an error that it returns. -/
def withKey (s : ServiceTasks) (nowSecs : UInt64) (args : JwtArguments) (jwt : ServiceJwt) :
    Except AtprotoOAuthError AtprotoVerifyingKey → ServiceTasks × Option ServiceVerdict
  | .error e => (s, some ⟨args, nowSecs, .error e⟩)
  | .ok key => ({ s with tasks := .holding key nowSecs args jwt :: s.tasks }, none)

/-- One action. -/
def step (X : ServiceCrates) (N : NetCrates) (s : ServiceTasks) :
    ServiceTaskAction → Option (ServiceTasks × ServiceTaskEvent)
  | .tick now => if s.clock ≤ now then some ({ s with clock := now }, silent) else none
  | .verify args =>
    match parseServiceJwt X args.authHeaderOrToken with
    | .error e => some (s, returned args s.clock (.error e))
    | .ok jwt =>
      match s.verifier.lookupKey jwt.issuer s.clock with
      | none =>
        some ({ s with tasks := .waiting jwt.issuer s.clock (some (args, jwt)) :: s.tasks }, silent)
      | some found =>
        let (s, verdict) := s.withKey s.clock args jwt found
        some (s, ⟨none, verdict⟩)
  | .resolve did =>
    match s.verifier.lookupKey did s.clock with
    | none => some ({ s with tasks := .waiting did s.clock none :: s.tasks }, silent)
    | some _ => some (s, silent)
  | .arrive (.waiting did nowSecs goal) world first =>
    if .waiting did nowSecs goal ∈ s.tasks then
      let answer := s.verifier.resolver.resolveDid X.toCrates N world did
      let (found, cache) := s.verifier.acceptDocument X did nowSecs first answer
      let s' := { s with verifier.keyCache := cache, tasks := s.tasks.erase (.waiting did nowSecs goal) }
      let resolution := answer.toOption.map fun doc => ⟨did, doc, s.clock⟩
      match goal with
      | none => some (s', ⟨resolution, none⟩)
      | some (args, jwt) =>
        let (s', verdict) := s'.withKey nowSecs args jwt found
        some (s', ⟨resolution, verdict⟩)
    else none
  | .arrive (.holding ..) _ _ => none
  | .check (.holding key nowSecs args jwt) =>
    if .holding key nowSecs args jwt ∈ s.tasks then
      let (result, cache) := jwt.verifyWith X key s.verifier.keyCache args.expectedAudiences nowSecs
        args.leewaySecs
      some ({ s with verifier.keyCache := cache, tasks := s.tasks.erase (.holding key nowSecs args jwt) },
        returned args nowSecs result)
    else none
  | .check (.waiting ..) => none
  | .cancel task => some ({ s with tasks := s.tasks.erase task }, silent)
  | .insert did key nowSecs first =>
    some ({ s with verifier.keyCache := s.verifier.keyCache.insertAtprotoKey did key nowSecs first }, silent)
  | .invalidate did =>
    some ({ s with verifier.keyCache := s.verifier.keyCache.invalidate did }, silent)
  | .clearCache =>
    some ({ s with verifier.keyCache := .new s.verifier.keyCache.hasher s.verifier.keyCache.ttlSecs },
      silent)

/-- No call is under way, and the cache is empty. -/
structure Initial (s : ServiceTasks) : Prop where
  tasks : s.tasks = []
  empty : ∀ did, s.verifier.keyCache.find did = none

end ServiceTasks

end Skyauth
