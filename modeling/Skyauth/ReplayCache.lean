import Skyauth.Error
import Skyauth.Lib.Expiring

/-!
# The DPoP replay cache

`DPoPReplayCache` of `src/dpop.rs`: 64 shards, each a map from the composite key `jkt:jti` to the
second at which the entry expires, and one admission counter per shard that triggers the amortised
pruning pass. The hash function is an arbitrary field, so every statement about a cache holds for
every assignment of keys to shards. Each shard is one lock, so each operation on a shard is one step.
-/

namespace Skyauth

/-- Number of shards (`store::NUM_SHARDS`). -/
def NUM_SHARDS : Nat := 64

/-- Admissions between two amortised pruning passes. -/
def REPLAY_PRUNE_HINT_INTERVAL : Nat := 64

/-- Shard size above which an admission may prune. -/
def REPLAY_PRUNE_THRESHOLD : Nat := 512

/-- Shard size from which admissions fail closed. -/
def REPLAY_SHARD_CAPACITY : Nat := 2048

/-- The largest `u64`. -/
def U64_MAX : Nat := 2 ^ 64 - 1

/-- `u64::saturating_add`. -/
def saturatingAdd (a b : Nat) : Nat := min (a + b) U64_MAX

/-- An entry with expiry `exp` is dead at `now`: the negation of the source's `exp > now`. -/
def expiredAt (exp now : Nat) : Bool := decide (exp ≤ now)

/-- One shard: composite keys with their expiry seconds. -/
abbrev ReplayShard := Table String Nat

/-- The sharded replay cache (`DPoPReplayCache`). -/
structure DPoPReplayCache where
  /-- The shards, each behind its own lock. -/
  shards : Fin NUM_SHARDS → ReplayShard
  /-- The keyed hash of a composite key. -/
  hasher : String → UInt64
  /-- The admission counters (`AtomicU64`). -/
  pruneHints : Fin NUM_SHARDS → UInt64

namespace DPoPReplayCache

def new (hasher : String → UInt64) : DPoPReplayCache where
  shards := fun _ => ∅
  hasher := hasher
  pruneHints := fun _ => 0

def shardIndex (c : DPoPReplayCache) (key : String) : Fin NUM_SHARDS :=
  ⟨(c.hasher key).toNat % NUM_SHARDS, Nat.mod_lt _ (by decide)⟩

/-- The composite key `format!("{jkt}:{jti}")`. -/
def compositeKey (jkt jti : String) : String := jkt ++ ":" ++ jti

/-- The map a lookup of the cache goes through, whichever shard a key is in. -/
def find (c : DPoPReplayCache) (key : String) : Option Nat :=
  (c.shards (c.shardIndex key)).lookup key

/-- Replaces one shard. -/
def setShard (c : DPoPReplayCache) (i : Fin NUM_SHARDS) (s : ReplayShard) : DPoPReplayCache :=
  { c with shards := Function.update c.shards i s }

/-- The counter step `fetch_add(1, Relaxed)`, which wraps. -/
def bumpHint (c : DPoPReplayCache) (i : Fin NUM_SHARDS) : DPoPReplayCache :=
  { c with pruneHints := Function.update c.pruneHints i (c.pruneHints i + 1) }

/-- The amortised pruning pass of an admission, run when the shard is above the threshold and the
    counter value read is a multiple of the interval. -/
def hintPrune (admissions : UInt64) (now : Nat) (s : ReplayShard) : ReplayShard :=
  if REPLAY_PRUNE_THRESHOLD < s.size ∧ admissions.toNat % REPLAY_PRUNE_HINT_INTERVAL = 0 then
    Expiring.prune expiredAt now s
  else s

/-- The pruning pass of an admission into a full shard. -/
def capacityPrune (now : Nat) (s : ReplayShard) : ReplayShard :=
  if REPLAY_SHARD_CAPACITY ≤ s.size then Expiring.prune expiredAt now s else s

/-- `check_and_record`: rejects a pair that is recorded and not expired, else records it, pruning
    the shard when it is due and failing closed when it is full of live entries. -/
def checkAndRecord (c : DPoPReplayCache) (jkt jti : String) (expiresAtSecs nowSecs : Nat) :
    Except DPoPError Unit × DPoPReplayCache :=
  let key := compositeKey jkt jti
  let i := c.shardIndex key
  let shard := c.shards i
  if (shard.lookup key).any (fun existingExp => nowSecs < existingExp) then
    (.error (.replayDetected jti), c)
  else
    insertPrepared c key i (capacityPrune nowSecs (hintPrune (c.pruneHints i) nowSecs shard)) expiresAtSecs
where
  /-- The end of the critical section: the capacity test on the pruned shard and the insertion. -/
  insertPrepared (c : DPoPReplayCache) (key : String) (i : Fin NUM_SHARDS) (shard : ReplayShard)
      (expiresAtSecs : Nat) : Except DPoPError Unit × DPoPReplayCache :=
    if REPLAY_SHARD_CAPACITY ≤ shard.size then
      (.error .replayCacheSaturated, (c.bumpHint i).setShard i shard)
    else
      (.ok (), (c.bumpHint i).setShard i (shard.insert key expiresAtSecs))

def isConsumed (c : DPoPReplayCache) (jkt jti : String) (nowSecs : Nat) : Bool :=
  (c.find (compositeKey jkt jti)).any (fun exp => nowSecs < exp)

/-- `prune_expired`, over all shards. -/
def pruneExpired (c : DPoPReplayCache) (nowSecs : Nat) : DPoPReplayCache :=
  { c with shards := fun i => Expiring.prune expiredAt nowSecs (c.shards i) }

end DPoPReplayCache

/-! ## Sequences of operations -/

/-- An operation on the replay cache, with its `now_secs` argument. -/
inductive ReplayOp where
  | checkAndRecord (jkt jti : String) (expiresAtSecs nowSecs : Nat)
  | isConsumed (jkt jti : String) (nowSecs : Nat)
  | pruneExpired (nowSecs : Nat)
  deriving Repr, DecidableEq

/-- What an operation returns. -/
inductive ReplayOut where
  | admitted (r : Except DPoPError Unit)
  | consumed (b : Bool)
  | pruned
  deriving Repr

namespace ReplayOp

/-- The `now_secs` argument. -/
def nowSecs : ReplayOp → Nat
  | .checkAndRecord _ _ _ now => now
  | .isConsumed _ _ now => now
  | .pruneExpired now => now

/-- The thumbprint argument has no colon, as base64url thumbprints never do. -/
def colonFree : ReplayOp → Prop
  | .checkAndRecord jkt _ _ _ => ':' ∉ jkt.toList
  | .isConsumed jkt _ _ => ':' ∉ jkt.toList
  | .pruneExpired _ => True

end ReplayOp

/-- One operation on the cache. -/
def DPoPReplayCache.apply (c : DPoPReplayCache) : ReplayOp → ReplayOut × DPoPReplayCache
  | .checkAndRecord jkt jti exp now =>
    let (r, c') := c.checkAndRecord jkt jti exp now
    (.admitted r, c')
  | .isConsumed jkt jti now => (.consumed (c.isConsumed jkt jti now), c)
  | .pruneExpired now => (.pruned, c.pruneExpired now)

/-! ## The ideal map -/

/-- The ideal replay map: for every pair the expiry stored by its last successful admission. It is
    never pruned. -/
abbrev IdealReplayMap := String × String → Option Nat

namespace IdealReplayMap

/-- The pair is recorded with an expiry past `now`. -/
def consumed (I : IdealReplayMap) (p : String × String) (now : Nat) : Bool :=
  (I p).any (fun exp => now < exp)

/-- The pairs that share the shard of `p` and are recorded with an expiry past `now`. -/
def shardmates (I : IdealReplayMap) (shardOf : String → Fin NUM_SHARDS) (p : String × String)
    (now : Nat) : Set (String × String) :=
  {q | shardOf (DPoPReplayCache.compositeKey q.1 q.2) = shardOf (DPoPReplayCache.compositeKey p.1 p.2)
    ∧ I.consumed q now = true}

open Classical in
/-- What the ideal map answers and remembers for one operation: a replay is detected exactly for a
    consumed pair, an admission fails exactly when the shard has capacity many live pairs, and
    nothing is ever forgotten. -/
noncomputable def apply (shardOf : String → Fin NUM_SHARDS) (I : IdealReplayMap) :
    ReplayOp → ReplayOut × IdealReplayMap
  | .checkAndRecord jkt jti exp now =>
    if I.consumed (jkt, jti) now then (.admitted (.error (.replayDetected jti)), I)
    else if REPLAY_SHARD_CAPACITY ≤ (I.shardmates shardOf (jkt, jti) now).encard then
      (.admitted (.error .replayCacheSaturated), I)
    else (.admitted (.ok ()), Function.update I (jkt, jti) (some exp))
  | .isConsumed jkt jti now => (.consumed (I.consumed (jkt, jti) now), I)
  | .pruneExpired _ => (.pruned, I)

end IdealReplayMap

end Skyauth
