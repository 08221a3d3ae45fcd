import Skyauth.Store

/-!
# The repository's own model of the state store

`OAuthStateTransitionModel` of `src/verification/formal_models.rs`: one flat map from tokens to
lifecycle states in which consumed and expired tokens stay, with the payloads of the pending ones
beside it. At the end the store and the model are run together, operation by operation, on the same
clock readings; a tick of the model is a nanosecond.
-/

namespace Skyauth

inductive StateTransitionStatus where
  | uninitialized
  | pending (createdAtTick ttlTicks : Nat)
  | consumed (consumedAtTick : Nat)
  | expired (expiredAtTick : Nat)
  deriving Repr, DecidableEq

structure ModelStoredEntry where
  stateId : String
  clientId : String
  createdAtTick : Nat
  ttlTicks : Nat
  deriving Repr, DecidableEq

/-- The lifetime of a pending state is over. -/
def elapsed (createdAtTick ttlTicks currentTick : Nat) : Bool :=
  decide (ttlTicks ≤ currentTick - createdAtTick)

structure OAuthStateTransitionModel where
  states : Table String StateTransitionStatus
  payloads : Table String ModelStoredEntry
  consumptionCounts : Table String Nat

namespace OAuthStateTransitionModel

def new : OAuthStateTransitionModel where
  states := ∅
  payloads := ∅
  consumptionCounts := ∅

def insert (m : OAuthStateTransitionModel) (stateId clientId : String) (ttlTicks currentTick : Nat) :
    Bool × OAuthStateTransitionModel :=
  if stateId = "" ∨ ttlTicks = 0 then (false, m)
  else
    (true,
      { states := m.states.insert stateId (.pending currentTick ttlTicks)
        payloads := m.payloads.insert stateId
          { stateId := stateId, clientId := clientId, createdAtTick := currentTick,
            ttlTicks := ttlTicks }
        consumptionCounts := m.consumptionCounts.erase stateId })

def takeState (m : OAuthStateTransitionModel) (stateId : String) (currentTick : Nat) :
    Option ModelStoredEntry × OAuthStateTransitionModel :=
  match (m.states.lookup stateId).getD .uninitialized with
  | .pending createdAtTick ttlTicks =>
    if elapsed createdAtTick ttlTicks currentTick then
      (none,
        { m with
          states := m.states.insert stateId (.expired currentTick)
          payloads := m.payloads.erase stateId })
    else
      (m.payloads.lookup stateId,
        { states := m.states.insert stateId (.consumed currentTick)
          payloads := m.payloads.erase stateId
          consumptionCounts := m.consumptionCounts.insert stateId
            (saturatingAdd ((m.consumptionCounts.lookup stateId).getD 0) 1) })
  | .consumed _ | .expired _ | .uninitialized => (none, m)

/-- A status that a pruning pass at this tick collects. -/
def isOverdue (currentTick : Nat) : StateTransitionStatus → Bool
  | .pending createdAtTick ttlTicks => elapsed createdAtTick ttlTicks currentTick
  | _ => false

/-- The keys that `prune` collects. -/
def expiredKeys (m : OAuthStateTransitionModel) (currentTick : Nat) : List String :=
  (m.states.retain fun _ status => isOverdue currentTick status).keys

/-- The second loop of `prune`, for one key. -/
def expireKey (currentTick : Nat) (m : OAuthStateTransitionModel) (stateId : String) :
    OAuthStateTransitionModel :=
  { m with
    states := m.states.insert stateId (.expired currentTick)
    payloads := m.payloads.erase stateId }

def prune (m : OAuthStateTransitionModel) (currentTick : Nat) : Nat × OAuthStateTransitionModel :=
  let keys := m.expiredKeys currentTick
  (keys.length, keys.foldl (expireKey currentTick) m)

end OAuthStateTransitionModel

/-! ## The store and the model side by side -/

/-- An operation applied to both. An insertion reads the clock before it takes the lock and, in a
    crowded shard, once more under it. -/
inductive PairedOp where
  | insert (state : String) (entry : StoredStateEntry) (ttl : Duration) (created now : Instant)
  | take (state : String) (now : Instant)
  | prune (now : Instant)
  deriving DecidableEq

/-- The two answers. -/
inductive PairedAnswer where
  | inserted (store : Except StoreError Unit) (model : Bool)
  | taken (store : Option StoredStateEntry) (model : Option ModelStoredEntry)
  | pruned (store model : Nat)
  deriving DecidableEq

/-- The store, the model and the last clock reading. -/
structure Paired where
  store : OAuthStateStore
  model : OAuthStateTransitionModel
  clock : Instant

namespace Paired

/-- One operation on both. -/
def step (p : Paired) : PairedOp → Option (Paired × PairedAnswer)
  | .insert state entry ttl created now =>
    let r := p.store.insertStateSync state entry ttl created now
    let m := p.model.insert state entry.clientId ttl.nanos created
    some ({ store := r.2, model := m.2, clock := now }, .inserted r.1 m.1)
  | .take state now =>
    let r := p.store.takeStateSync state now
    let m := p.model.takeState state now
    some ({ store := r.2, model := m.2, clock := now }, .taken r.1 m.1)
  | .prune now =>
    let r := p.store.pruneExpiredSync now
    let m := p.model.prune now
    some ({ store := r.2, model := m.2, clock := now }, .pruned r.1 m.1)

/-- The operations of a sequential run on a clock that does not run backwards: an insertion has a
    token and a lifetime whose deadline is in range, and the store takes it. -/
def Legal (p : Paired) : PairedOp → Prop
  | .insert state entry ttl created now =>
    p.clock ≤ created ∧ created ≤ now ∧ state ≠ "" ∧ 0 < ttl.nanos ∧
      created + ttl.nanos < INSTANT_END ∧
      (p.store.insertStateSync state entry ttl created now).1 = .ok ()
  | .take _ now => p.clock ≤ now
  | .prune now => p.clock ≤ now

/-- No insertion finds its shard at capacity. -/
def Uncrowded (p : Paired) : PairedOp → Prop
  | .insert state _ _ _ _ =>
    (p.store.shards (p.store.shardIndex state)).size < SHARD_ADMISSION_CAPACITY
  | _ => True

instance (p : Paired) (op : PairedOp) : Decidable (p.Legal op) := by
  cases op <;> unfold Legal <;> infer_instance

instance (p : Paired) (op : PairedOp) : Decidable (p.Uncrowded op) := by
  cases op <;> unfold Uncrowded <;> infer_instance

/-- Both at their start. -/
structure Initial (p : Paired) : Prop where
  empty : ∀ i, p.store.shards i = ∅
  model : p.model = OAuthStateTransitionModel.new

end Paired

end Skyauth
