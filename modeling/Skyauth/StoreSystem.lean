import Skyauth.Store
import Skyauth.Lib.Exec
import Skyauth.Lib.History

/-!
# A store shared by many tasks

The operations on one `OAuthStateStore` by any number of tasks. A scheduler picks the actions; every
action is one critical section, or the part of an operation before its first one. What a task still
has to do is an operation in flight. The monotonic clock does not run backwards, and an action reads
it when it runs; the system clock that a callback compares with is arbitrary.
-/

namespace Skyauth

/-- An operation of which some part is still to come. -/
inductive StoreTask where
  /-- `insert_state_sync` with its record dated, before the lock. -/
  | inserting (state : String) (record : StoredStateRecord)
  /-- `prune_expired_sync` before the lock of this shard. -/
  | pruning (now : Instant) (next : Fin NUM_SHARDS) (total : Nat)
  /-- `clear` before the lock of this shard. -/
  | clearing (next : Fin NUM_SHARDS)
  /-- `handle_callback` with the answer of `take_state`. -/
  | callback (params : CallbackParams) (taken : Option StoredStateEntry)
  deriving Repr, DecidableEq

/-- The actions of the scheduler. -/
inductive StoreAction where
  | tick (now : Instant)
  | beginInsert (state : String) (entry : StoredStateEntry) (ttl : Duration)
  | insert (state : String) (record : StoredStateRecord)
  | takeState (state : String)
  | containsState (state : String)
  | beginPrune
  | pruneShard (now : Instant) (next : Fin NUM_SHARDS) (total : Nat)
  | beginClear
  | clearShard (next : Fin NUM_SHARDS)
  | handleCallback (params : CallbackParams)
  | finishCallback (params : CallbackParams) (taken : Option StoredStateEntry) (now : SystemTime)

/-- What an action shows. -/
inductive StoreEvent where
  | silent
  /-- An insertion ran its critical section. -/
  | inserted (state : String) (record : StoredStateRecord) (result : Except StoreError Unit)
  /-- `take_state_sync` returned, at this instant. -/
  | taken (state : String) (result : Option StoredStateEntry) (now : Instant)
  | contained (state : String) (result : Bool)
  | pruned (total : Nat)
  /-- A shard was cleared. -/
  | cleared (i : Fin NUM_SHARDS)
  /-- `handle_callback` entered `exchange_code` for this state. -/
  | exchanged (state : String)
  | rejected (e : AtprotoOAuthError)

/-- The state of the system. -/
structure StoreSystem where
  store : OAuthStateStore
  clock : Instant
  inFlight : List StoreTask

namespace StoreSystem

/-- The operation that continues after one shard, if there is another. -/
def nextShard (i : Fin NUM_SHARDS) (task : Fin NUM_SHARDS → StoreTask) : List StoreTask :=
  if h : i.val + 1 < NUM_SHARDS then [task ⟨i.val + 1, h⟩] else []

/-- `take_state_sync` on the shared store. -/
def take (s : StoreSystem) (state : String) : Option StoredStateEntry × StoreSystem :=
  ((s.store.takeStateSync state s.clock).1,
    { s with store := (s.store.takeStateSync state s.clock).2 })

/-- One action. -/
def step (s : StoreSystem) : StoreAction → Option (StoreSystem × StoreEvent)
  | .tick now => if s.clock ≤ now then some ({ s with clock := now }, .silent) else none
  | .beginInsert state entry ttl =>
    let task := .inserting state (StoredStateRecord.new entry ttl s.clock)
    some ({ s with inFlight := task :: s.inFlight }, .silent)
  | .insert state record =>
    if .inserting state record ∈ s.inFlight then
      let (r, store) := s.store.insertRecord state record s.clock
      some ({ s with store := store, inFlight := s.inFlight.erase (.inserting state record) },
        .inserted state record r)
    else none
  | .takeState state =>
    let (r, s) := s.take state
    some (s, .taken state r s.clock)
  | .containsState state => some (s, .contained state (s.store.containsStateSync state s.clock))
  | .beginPrune =>
    some ({ s with inFlight := .pruning s.clock ⟨0, by decide⟩ 0 :: s.inFlight }, .silent)
  | .pruneShard now next total =>
    if .pruning now next total ∈ s.inFlight then
      let (n, store) := s.store.pruneShard now next
      let rest := nextShard next fun i => .pruning now i (total + n)
      some ({ s with store := store, inFlight := rest ++ s.inFlight.erase (.pruning now next total) },
        if rest = [] then .pruned (total + n) else .silent)
    else none
  | .beginClear => some ({ s with inFlight := .clearing ⟨0, by decide⟩ :: s.inFlight }, .silent)
  | .clearShard next =>
    if .clearing next ∈ s.inFlight then
      some ({ s with store := s.store.clearShard next,
                     inFlight := nextShard next .clearing ++ s.inFlight.erase (.clearing next) },
        .cleared next)
    else none
  | .handleCallback params =>
    let (r, s) := s.take params.state
    some ({ s with inFlight := .callback params r :: s.inFlight }, .taken params.state r s.clock)
  | .finishCallback params taken now =>
    if .callback params taken ∈ s.inFlight then
      some ({ s with inFlight := s.inFlight.erase (.callback params taken) },
        match handleCallback params taken now with
        | .ok () => .exchanged params.state
        | .error e => .rejected e)
    else none

/-- The system at its start: an empty store and no operation under way. -/
structure Initial (s : StoreSystem) : Prop where
  empty : ∀ i, s.store.shards i = ∅
  idle : s.inFlight = []

end StoreSystem

/-! ## Counting in a run -/

/-- An insertion of this token that returned `Ok`. -/
def StoreEvent.isInsertOf (state : String) : StoreEvent → Bool
  | .inserted state' _ (.ok ()) => state' = state
  | _ => false

/-- A take of this token that returned an entry. -/
def StoreEvent.isTakeOf (state : String) : StoreEvent → Bool
  | .taken state' (some _) _ => state' = state
  | _ => false

/-- A callback for this token that entered `exchange_code`. -/
def StoreEvent.isExchangeOf (state : String) : StoreEvent → Bool
  | .exchanged state' => state' = state
  | _ => false

/-- The number of events of a run that pass a test. -/
def countEvents (p : StoreEvent → Bool) (tr : List (StoreAction × StoreEvent)) : Nat :=
  tr.countP fun x => p x.2

/-! ## Operations one after the other -/

/-- A whole operation, with the clock readings it makes. -/
inductive StoreOp where
  | insertStateSync (state : String) (entry : StoredStateEntry) (ttl : Duration) (created now : Instant)
  | takeStateSync (state : String) (now : Instant)
  | containsStateSync (state : String) (now : Instant)
  | pruneExpiredSync (now : Instant)
  | clear

inductive StoreAnswer where
  | inserted (result : Except StoreError Unit)
  | taken (result : Option StoredStateEntry)
  | contained (result : Bool)
  | pruned (total : Nat)
  | cleared

/-- One operation: its answer and the store it leaves. -/
def OAuthStateStore.apply (s : OAuthStateStore) : StoreOp → StoreAnswer × OAuthStateStore
  | .insertStateSync state entry ttl created now =>
    let (result, s) := s.insertStateSync state entry ttl created now
    (.inserted result, s)
  | .takeStateSync state now =>
    let (result, s) := s.takeStateSync state now
    (.taken result, s)
  | .containsStateSync state now => (.contained (s.containsStateSync state now), s)
  | .pruneExpiredSync now =>
    let (total, s) := s.pruneExpiredSync now
    (.pruned total, s)
  | .clear => (.cleared, s.clear)

end Skyauth
