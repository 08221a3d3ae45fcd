import Skyauth.Multikey
import Skyauth.Store
import Skyauth.Lib.Sharded

/-!
# The cache of signing keys

`DidKeyCache` of `src/service_auth.rs`: 64 shards of keys by DID, each with the second it was resolved
at. A full shard makes room by dropping what has expired, or else one of the oldest entries.
-/

namespace Skyauth

/-- Fifteen minutes. -/
def DID_KEY_CACHE_TTL_SECS : UInt64 := 15 * 60

def MAX_DID_KEY_CACHE_PER_SHARD : Nat := 512

/-- A cached key (`CachedSigningKey`). -/
structure CachedSigningKey where
  /-- The key once more, if it is on secp256k1. -/
  verifyingKey : Option Secp256k1VerifyingKey
  atprotoKey : AtprotoVerifyingKey
  resolvedAtSecs : UInt64
  deriving DecidableEq

/-- The entry has reached its lifetime; the subtraction saturates. -/
def CachedSigningKey.isExpired (ttlSecs : UInt64) (entry : CachedSigningKey) (nowSecs : UInt64) : Bool :=
  ttlSecs.toNat ≤ nowSecs.toNat - entry.resolvedAtSecs.toNat

/-- One shard. -/
abbrev KeyShard := Table String CachedSigningKey

structure DidKeyCache where
  shards : Fin NUM_SHARDS → KeyShard
  hasher : String → UInt64
  ttlSecs : UInt64

/-- No entry of the shard is older. -/
def KeyShard.isOldest (shard : KeyShard) (did : String) : Bool :=
  (shard.lookup did).any fun entry =>
    shard.entries.all fun other => decide (entry.resolvedAtSecs ≤ other.2.resolvedAtSecs)

/-- What `min_by_key` finds: of several oldest entries the one that comes first in the order of the
    iteration, which is `first`. -/
def KeyShard.oldest (shard : KeyShard) (first : String) : Option String :=
  if shard.isOldest first then some first
  else (shard.entries.find? fun entry => shard.isOldest entry.1).map (·.1)

namespace DidKeyCache

def new (hasher : String → UInt64) (ttlSecs : UInt64) : DidKeyCache where
  shards := fun _ => ∅
  hasher := hasher
  ttlSecs := ttlSecs

def shardIdx (c : DidKeyCache) (did : String) : Fin NUM_SHARDS :=
  ⟨(c.hasher did).toNat % NUM_SHARDS, Nat.mod_lt _ (by decide)⟩

/-- The entry of a DID, whichever shard it is in. -/
def find (c : DidKeyCache) (did : String) : Option CachedSigningKey :=
  Sharded.find c.shardIdx c.shards did

/-- Replaces one shard. -/
def setShard (c : DidKeyCache) (i : Fin NUM_SHARDS) (shard : KeyShard) : DidKeyCache :=
  { c with shards := Function.update c.shards i shard }

/-- The entry of a DID that has not expired. -/
def live (c : DidKeyCache) (did : String) (nowSecs : UInt64) : Option CachedSigningKey :=
  (c.find did).filter fun entry => !entry.isExpired c.ttlSecs nowSecs

def get (c : DidKeyCache) (did : String) (nowSecs : UInt64) : Option Secp256k1VerifyingKey :=
  (c.live did nowSecs).bind (·.verifyingKey)

def getAtprotoKey (c : DidKeyCache) (did : String) (nowSecs : UInt64) : Option AtprotoVerifyingKey :=
  (c.live did nowSecs).map (·.atprotoKey)

/-- The shard with room for a DID. -/
def makeRoom (c : DidKeyCache) (shard : KeyShard) (did : String) (nowSecs : UInt64) (first : String) :
    KeyShard :=
  if MAX_DID_KEY_CACHE_PER_SHARD ≤ shard.size ∧ did ∉ shard then
    let kept := Expiring.prune (CachedSigningKey.isExpired c.ttlSecs) nowSecs shard
    if MAX_DID_KEY_CACHE_PER_SHARD ≤ kept.size then
      match KeyShard.oldest kept first with
      | some did => kept.erase did
      | none => kept
    else kept
  else shard

/-- `insert_atproto_key`; `first` settles which of several oldest entries has to go. -/
def insertAtprotoKey (c : DidKeyCache) (did : String) (key : AtprotoVerifyingKey) (nowSecs : UInt64)
    (first : String) : DidKeyCache :=
  let i := c.shardIdx did
  let verifyingKey := match key with
    | .secp256k1 k => some k
    | .p256 _ => none
  c.setShard i ((c.makeRoom (c.shards i) did nowSecs first).insert did
    { verifyingKey := verifyingKey, atprotoKey := key, resolvedAtSecs := nowSecs })

def invalidate (c : DidKeyCache) (did : String) : DidKeyCache :=
  c.setShard (c.shardIdx did) ((c.shards (c.shardIdx did)).erase did)

end DidKeyCache

/-! ## Sequences of calls -/

/-- A call of the cache. Each holds the lock of its shard while it works. -/
inductive KeyCacheCall where
  | insertAtprotoKey (did : String) (key : AtprotoVerifyingKey) (nowSecs : UInt64) (first : String)
  | get (did : String) (nowSecs : UInt64)
  | getAtprotoKey (did : String) (nowSecs : UInt64)
  | invalidate (did : String)

namespace DidKeyCache

/-- The cache after a call. -/
def after (c : DidKeyCache) : KeyCacheCall → DidKeyCache
  | .insertAtprotoKey did key nowSecs first => c.insertAtprotoKey did key nowSecs first
  | .get _ _ => c
  | .getAtprotoKey _ _ => c
  | .invalidate did => c.invalidate did

/-- The cache after a sequence of calls. -/
def run (c : DidKeyCache) (calls : List KeyCacheCall) : DidKeyCache := calls.foldl after c

end DidKeyCache

end Skyauth
