import Skyauth.Dpop
import Skyauth.Lib.Expiring

/-!
# Server nonces

The trait `DPoPServerNonceSource` and its in-memory implementation (`src/dpop.rs`).
-/

namespace Skyauth

/-- A nonce source over states `N`: issuing a nonce and checking one, both of which may change the
    state. The state holds whatever the source reads: clocks, random bytes, its tables. -/
structure NonceSource (N : Type) where
  generateNonce : N → Except DPoPError String × N
  verifyNonce : N → String → Bool × N

/-- Table size above which issuing a nonce prunes. -/
def NONCE_PRUNE_THRESHOLD : Nat := 1024

/-- Table size from which issuing a nonce fails. -/
def NONCE_CACHE_CAPACITY : Nat := 4096

def CHALLENGE_ISSUANCE_RATE_LIMIT : Nat := 64

/-- The in-memory source (`InMemoryServerNonceSource`). -/
structure InMemoryServerNonceSource where
  nonces : Table String Nat
  ttl : Duration
  singleUse : Bool
  issuanceWindowSecs : Nat
  issuanceCountInWindow : Nat
  issuanceRateLimit : Nat

namespace InMemoryServerNonceSource

def new (ttl : Duration) : InMemoryServerNonceSource where
  nonces := ∅
  ttl := ttl
  singleUse := false
  issuanceWindowSecs := 0
  issuanceCountInWindow := 0
  issuanceRateLimit := CHALLENGE_ISSUANCE_RATE_LIMIT

/-- The second the source reads off the clock, zero before the epoch. -/
def nowSecs (clock : SystemTime) : Nat := (clock.unixSecs.toOption).getD 0

/-- The limiter's window and count at a second, before the limit is tested. -/
def window (s : InMemoryServerNonceSource) (now : Nat) : InMemoryServerNonceSource :=
  if s.issuanceWindowSecs ≠ now then { s with issuanceWindowSecs := now, issuanceCountInWindow := 0 }
  else s

/-- The table after the opportunistic pruning of an issue. -/
def prunedNonces (s : InMemoryServerNonceSource) (now : Nat) : Table String Nat :=
  if NONCE_PRUNE_THRESHOLD < s.nonces.size then Expiring.prune expiredAt now s.nonces else s.nonces

/-- The limiter's critical section of `generate_nonce`, for a call that read this second: whether the
    call passes. -/
def limit (s : InMemoryServerNonceSource) (now : Nat) : Bool × InMemoryServerNonceSource :=
  let s := s.window now
  if s.issuanceRateLimit ≤ s.issuanceCountInWindow then (false, s)
  else (true, { s with issuanceCountInWindow := s.issuanceCountInWindow + 1 })

/-- The rest of `generate_nonce`, for a call that passed. -/
def issue (s : InMemoryServerNonceSource) (now : Nat) (raw : List UInt8) :
    Except DPoPError String × InMemoryServerNonceSource :=
  let nonce := base64urlEncode raw
  let table := s.prunedNonces now
  if NONCE_CACHE_CAPACITY ≤ table.size then
    (.error .nonceCacheSaturated, { s with nonces := table })
  else (.ok nonce, { s with nonces := table.insert nonce (saturatingAdd now s.ttl.asSecs) })

/-- `generate_nonce`, with its clock reading and the random bytes it draws. -/
def generateNonce (s : InMemoryServerNonceSource) (clock : SystemTime) (raw : List UInt8) :
    Except DPoPError String × InMemoryServerNonceSource :=
  match s.limit (nowSecs clock) with
  | (false, s) => (.error .nonceCacheSaturated, s)
  | (true, s) => s.issue (nowSecs clock) raw

/-- `verify_nonce`, with its clock reading. -/
def verifyNonce (s : InMemoryServerNonceSource) (nonce : String) (clock : SystemTime) :
    Bool × InMemoryServerNonceSource :=
  let trimmed := Text.trim nonce
  let live := (s.nonces.lookup trimmed).any fun exp => nowSecs clock < exp
  if s.singleUse ∧ live then (true, { s with nonces := s.nonces.erase trimmed }) else (live, s)

def withIssuanceRateLimit (s : InMemoryServerNonceSource) (perSecond : Nat) :
    InMemoryServerNonceSource :=
  { s with issuanceRateLimit := perSecond }

def withSingleUse (s : InMemoryServerNonceSource) : InMemoryServerNonceSource :=
  { s with singleUse := true }

/-- `prune_expired`. -/
def pruneExpired (s : InMemoryServerNonceSource) (nowSecs : Nat) : InMemoryServerNonceSource :=
  { s with nonces := Expiring.prune expiredAt nowSecs s.nonces }

end InMemoryServerNonceSource

end Skyauth
