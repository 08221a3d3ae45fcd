import Skyauth.TokenRegistry
import Skyauth.TowerSystem

/-!
# A resource server with a registry of tokens

`OAuthAuthLayer::from_token_store` of `src/integrations/tower.rs`: the middleware with an
`InMemoryTokenValidator` behind it. The registry is shared. Other tasks register and revoke tokens and sweep
the registry while calls of the middleware are under way. A call asks it once, when it comes to its access
token; `validate_sync` holds the lock of the registry only until it returns.
-/

namespace Skyauth

variable {N B C E V : Type} [Inhabited C]

omit [Inhabited C] in
/-- The service with the registry as its validator, at a reading of the clock. -/
def OAuthAuthService.withTokenStore (X : Crates) (svc : OAuthAuthService N B C E V)
    (registry : InMemoryTokenValidator) (clock : SystemTime) :
    OAuthAuthService N B C E IntegrationError where
  inner := svc.inner
  tokenValidator token dpopThumbprint := registry.validateSync X token dpopThumbprint clock
  nonceSource := svc.nonceSource
  requireAth := svc.requireAth
  htuOverride := svc.htuOverride

/-- The registry and the calls of the middleware. -/
structure ResourceServer (N B C E : Type) where
  registry : InMemoryTokenValidator
  tower : TowerSystem N B C E

/-- The actions of the scheduler. -/
inductive ResourceAction (N B : Type) where
  /-- An operation on the registry. -/
  | registry (a : RegistryAction)
  | tower (a : TowerAction N B)

/-- A sweep has read the clock before; the other operations do not read it. -/
def RegistryAction.isBy (clock : SystemTime) : RegistryAction → Bool
  | .prune now => decide (now.nanos ≤ clock.nanos)
  | _ => true

namespace ResourceServer

/-- One action. -/
def step (X : Crates) (svc : OAuthAuthService N B C E V) (s : ResourceServer N B C E) :
    ResourceAction N B → Option (ResourceServer N B C E × TowerEvent B)
  | .registry a =>
    if a.isBy s.tower.clock then
      (s.registry.step X a).map fun x => ({ s with registry := x.1 }, .silent)
    else none
  | .tower a =>
    (s.tower.step X (svc.withTokenStore X s.registry s.tower.clock) a).map fun x =>
      ({ s with tower := x.1 }, x.2)

/-- A server at its start: no token is registered. -/
structure Initial (s : ResourceServer N B C E) : Prop where
  registry : s.registry = InMemoryTokenValidator.new
  tower : s.tower.Initial

end ResourceServer

end Skyauth
