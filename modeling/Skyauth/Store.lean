import Skyauth.Session

/-!
# The OAuth state store

`OAuthStateStore` of `src/store.rs`: 64 shards, each a map from state tokens to records that expire,
and the callback handler that consumes a state. Each shard is one lock, so an operation on a shard is
one step; a function that takes the locks one after the other is a fold of such steps. Clock readings
are arguments. The hash function is an arbitrary field.
-/

namespace Skyauth

/-- A monotonic clock reading (`std::time::Instant`), in nanoseconds. -/
abbrev Instant := Nat

/-- The first instant that cannot be represented: seconds are an `i64`. -/
def INSTANT_END : Nat := 2 ^ 63 * 1000000000

/-- Default lifetime of a state, in seconds. -/
def DEFAULT_STATE_TTL : Nat := 300

/-- Live entries per shard from which insertions fail closed. -/
def SHARD_ADMISSION_CAPACITY : Nat := 1024

/-! ## Entries and records -/

/-- What a login stores for its callback (`StoredStateEntry`). -/
structure StoredStateEntry where
  state : String
  clientId : String
  codeVerifier : String
  dpopKey : DPoPKey
  issuer : String
  did : Option String
  handle : Option String
  redirectUri : String
  pdsEndpoint : String
  tokenEndpoint : String
  scopes : String
  createdAt : SystemTime
  expiresInSecs : Nat
  deriving Repr, DecidableEq

/-- `StoredStateEntry::is_expired`: a clock before the creation counts as expired. -/
def StoredStateEntry.isExpired (entry : StoredStateEntry) (now : SystemTime) : Bool :=
  if now.nanos < entry.createdAt.nanos then true
  else decide ((entry.expiresInSecs : Int) * 1000000000 < now.nanos - entry.createdAt.nanos)

/-- An entry with its monotonic bounds (`StoredStateRecord`). -/
structure StoredStateRecord where
  entry : StoredStateEntry
  createdAt : Instant
  expiresAt : Instant
  deriving Repr, DecidableEq

namespace StoredStateRecord

/-- `StoredStateRecord::new`: a deadline out of range is replaced by one in a year. The source
    computes that replacement in any case; it would only overflow a year before `INSTANT_END`. -/
def new (entry : StoredStateEntry) (ttl : Duration) (now : Instant) : StoredStateRecord where
  entry := entry
  createdAt := now
  expiresAt :=
    if now + ttl.nanos < INSTANT_END then now + ttl.nanos else now + 86400 * 365 * 1000000000

def isExpired (r : StoredStateRecord) (now : Instant) : Bool :=
  if r.expiresAt ≤ now then true else decide (r.expiresAt - r.createdAt ≤ now - r.createdAt)

end StoredStateRecord

/-! ## The store -/

/-- One shard. -/
abbrev StateShard := Table String StoredStateRecord

/-- The sharded store (`OAuthStateStore`). -/
structure OAuthStateStore where
  shards : Fin NUM_SHARDS → StateShard
  hasher : String → UInt64
  defaultTtl : Duration

namespace OAuthStateStore

def new (hasher : String → UInt64) (defaultTtl : Duration) : OAuthStateStore where
  shards := fun _ => ∅
  hasher := hasher
  defaultTtl := defaultTtl

def default (hasher : String → UInt64) : OAuthStateStore :=
  new hasher (Duration.fromSecs DEFAULT_STATE_TTL (by decide))

def shardIndex (s : OAuthStateStore) (key : String) : Fin NUM_SHARDS :=
  ⟨(s.hasher key).toNat % NUM_SHARDS, Nat.mod_lt _ (by decide)⟩

/-- The record of a token, whichever shard it is in. -/
def find (s : OAuthStateStore) (key : String) : Option StoredStateRecord :=
  (s.shards (s.shardIndex key)).lookup key

/-- Replaces one shard. -/
def setShard (s : OAuthStateStore) (i : Fin NUM_SHARDS) (shard : StateShard) : OAuthStateStore :=
  { s with shards := Function.update s.shards i shard }

/-- The opportunistic pruning of an insertion. -/
def makeRoom (shard : StateShard) (now : Instant) : StateShard :=
  if SHARD_ADMISSION_CAPACITY ≤ shard.size then
    Expiring.prune StoredStateRecord.isExpired now shard
  else shard

/-- The critical section of `insert_state_sync`. -/
def insertRecord (s : OAuthStateStore) (state : String) (record : StoredStateRecord) (now : Instant) :
    Except StoreError Unit × OAuthStateStore :=
  let i := s.shardIndex state
  let shard := makeRoom (s.shards i) now
  if SHARD_ADMISSION_CAPACITY ≤ shard.size then
    (.error (.capacityExceeded SHARD_ADMISSION_CAPACITY), s.setShard i shard)
  else (.ok (), s.setShard i (shard.insert state record))

/-- `insert_state_sync`: the record is dated before the lock is taken. -/
def insertStateSync (s : OAuthStateStore) (state : String) (entry : StoredStateEntry) (ttl : Duration)
    (created now : Instant) : Except StoreError Unit × OAuthStateStore :=
  s.insertRecord state (StoredStateRecord.new entry ttl created) now

def insertDefaultSync (s : OAuthStateStore) (state : String) (entry : StoredStateEntry)
    (created now : Instant) : Except StoreError Unit × OAuthStateStore :=
  s.insertStateSync state entry s.defaultTtl created now

/-- `take_state_sync`: a record is removed even if it has expired. -/
def takeStateSync (s : OAuthStateStore) (state : String) (now : Instant) :
    Option StoredStateEntry × OAuthStateStore :=
  let i := s.shardIndex state
  match (s.shards i).lookup state with
  | none => (none, s)
  | some record =>
    (if record.isExpired now then none else some record.entry,
      s.setShard i ((s.shards i).erase state))

def containsStateSync (s : OAuthStateStore) (state : String) (now : Instant) : Bool :=
  (s.find state).any fun record => !record.isExpired now

/-- One critical section of `prune_expired_sync`, with the number of entries it removes. -/
def pruneShard (s : OAuthStateStore) (now : Instant) (i : Fin NUM_SHARDS) : Nat × OAuthStateStore :=
  let shard := Expiring.prune StoredStateRecord.isExpired now (s.shards i)
  ((s.shards i).size - shard.size, s.setShard i shard)

def pruneExpiredSync (s : OAuthStateStore) (now : Instant) : Nat × OAuthStateStore :=
  (List.finRange NUM_SHARDS).foldl
    (fun (total, s) i =>
      let (n, s) := s.pruneShard now i
      (total + n, s))
    (0, s)

/-- One critical section of `clear`. -/
def clearShard (s : OAuthStateStore) (i : Fin NUM_SHARDS) : OAuthStateStore := s.setShard i ∅

def clear (s : OAuthStateStore) : OAuthStateStore :=
  (List.finRange NUM_SHARDS).foldl clearShard s

end OAuthStateStore

/-! ## Callbacks -/

/-- The parameters of a redirect callback (`CallbackParams`). -/
structure CallbackParams where
  code : String
  state : String
  iss : Option String
  deriving Repr, DecidableEq

/-- An issuer as it is compared. -/
def normalizeIssuer (iss : String) : String := Text.trimEndMatches (· == '/') (Text.trim iss)

/-- `handle_callback_with_entry` up to `exchange_code`, which it enters when this succeeds. -/
def checkCallback (params : CallbackParams) (entry : StoredStateEntry) (now : SystemTime) :
    Except AtprotoOAuthError Unit :=
  if params.state ≠ entry.state then
    .error (.token (.invalidState ("Callback state '" ++ params.state ++
      "' does not match expected state '" ++ entry.state ++ "'")))
  else if entry.isExpired now then .error (.token .stateExpired)
  else
    match params.iss with
    | none => .error (.token .missingCallbackIssuer)
    | some iss =>
      if normalizeIssuer iss ≠ normalizeIssuer entry.issuer then
        .error (.token (.issuerMismatch entry.issuer iss))
      else .ok ()

/-- `handle_callback` once `take_state` has returned, up to `exchange_code`. -/
def handleCallback (params : CallbackParams) (taken : Option StoredStateEntry) (now : SystemTime) :
    Except AtprotoOAuthError Unit :=
  match taken with
  | none =>
    .error (.token (.invalidState ("State token '" ++ params.state ++
      "' not found, expired, or already consumed")))
  | some entry => checkCallback params entry now

end Skyauth
