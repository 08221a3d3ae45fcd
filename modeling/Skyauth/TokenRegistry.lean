import Skyauth.Validator
import Skyauth.Lib.Exec

/-!
# Registered access tokens

`InMemoryTokenValidator` of `src/integrations/validator.rs`: a table of the active access tokens under
the SHA-256 digests of their texts. A validator shared between tasks is changed under a write lock, one
operation at a time, so its runs are lists of operations.
-/

namespace Skyauth

/-- What is kept of a token (`RegisteredToken`). -/
structure RegisteredToken where
  did : String
  dpopThumbprint : String
  scope : Option String
  expiresAt : Option SystemTime
  deriving Repr, DecidableEq

/-- The registry (`InMemoryTokenValidator`). -/
structure InMemoryTokenValidator where
  tokens : Table (List UInt8) RegisteredToken

namespace InMemoryTokenValidator

def new : InMemoryTokenValidator where
  tokens := ∅

def registerToken (X : Crates) (v : InMemoryTokenValidator) (token : List UInt8)
    (did dpopThumbprint : String) (scope : Option String) (expiresAt : Option SystemTime) :
    InMemoryTokenValidator where
  tokens := v.tokens.insert (X.sha256 token)
    { did := did, dpopThumbprint := dpopThumbprint, scope := scope, expiresAt := expiresAt }

def registerSession (X : Crates) (v : InMemoryTokenValidator) (session : OAuthSession) :
    InMemoryTokenValidator :=
  v.registerToken X (Text.asBytes session.accessToken) session.sub (session.dpopKey.jwkThumbprint X)
    session.scope session.expiresAt

def revokeToken (X : Crates) (v : InMemoryTokenValidator) (token : String) : InMemoryTokenValidator where
  tokens := v.tokens.erase (X.sha256 (Text.asBytes token))

/-- The test of the sweep: a record without an expiry stays, and so does one that expires later. -/
def survives (now : SystemTime) (entry : RegisteredToken) : Bool :=
  match entry.expiresAt with
  | some exp => decide (now.nanos < exp.nanos)
  | none => true

/-- `len`. -/
def len (v : InMemoryTokenValidator) : Nat := v.tokens.size

def isEmpty (v : InMemoryTokenValidator) : Bool := v.len == 0

/-- `prune_expired`, with its clock reading. Gives the number of evicted records. -/
def pruneExpired (v : InMemoryTokenValidator) (now : SystemTime) : Nat × InMemoryTokenValidator :=
  let pruned : InMemoryTokenValidator := { tokens := v.tokens.retain fun _ entry => survives now entry }
  (v.len - pruned.len, pruned)

/-- The check of the expiry at validation; a time before the epoch is reported as 0. -/
def checkExpiry (entry : RegisteredToken) (now : SystemTime) : Except IntegrationError Unit :=
  match entry.expiresAt with
  | some exp =>
    if exp.nanos < now.nanos then
      .error (.token (.expired (exp.unixSecs.toOption.getD 0) (now.unixSecs.toOption.getD 0)))
    else .ok ()
  | none => .ok ()

/-- `validate_sync`, with its clock reading. -/
def validateSync (X : Crates) (v : InMemoryTokenValidator) (token dpopThumbprint : String)
    (now : SystemTime) : Except IntegrationError AuthenticatedUser := do
  let entry ← (v.tokens.lookup (X.sha256 (Text.asBytes token))).elim
    (.error (malformedToken "Access token is not registered or has been revoked")) .ok
  checkExpiry entry now
  if constantTimeEq (Text.asBytes entry.dpopThumbprint) (Text.asBytes dpopThumbprint) then
    return { did := entry.did, accessToken := token, dpopThumbprint := dpopThumbprint,
             scope := entry.scope }
  else .error (.token (.cnfThumbprintMismatch entry.dpopThumbprint dpopThumbprint))

end InMemoryTokenValidator

/-! ## Runs -/

/-- An operation on the registry. -/
inductive RegistryAction where
  | register (token : List UInt8) (did dpopThumbprint : String) (scope : Option String)
      (expiresAt : Option SystemTime)
  | registerSession (session : OAuthSession)
  | revoke (token : String)
  | prune (now : SystemTime)

namespace InMemoryTokenValidator

/-- One operation, with the number of records that it evicts. -/
def step (X : Crates) (v : InMemoryTokenValidator) :
    RegistryAction → Option (InMemoryTokenValidator × Nat)
  | .register token did dpopThumbprint scope expiresAt =>
    some (v.registerToken X token did dpopThumbprint scope expiresAt, 0)
  | .registerSession session => some (v.registerSession X session, 0)
  | .revoke token => some (v.revokeToken X token, 0)
  | .prune now => some ((v.pruneExpired now).2, (v.pruneExpired now).1)

end InMemoryTokenValidator

end Skyauth
