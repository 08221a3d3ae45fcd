import Skyauth.TransitionModel
import Skyauth.Proofs.StoreProofs
import Mathlib.Algebra.BigOperators.Fin

/-!
# Proofs: the state store refines the repository's own model

The model keeps a tombstone for every token it has seen; what it still offers is its `view`, the
payloads of the pending tokens. The store keeps records. Both are compared with the map of the latest
insertions that no take has used up: the store agrees with it at the clock, and the view agrees with
its image. A record and its image expire at the same moment, so a take answers alike on both sides.
The numbers of pruned entries need more, since the store may prune on insertion: while no shard is
crowded, the view is exactly the image of the store.
-/

namespace Skyauth

open Expiring

/-- A payload of the model is over. -/
def ModelStoredEntry.isElapsed (entry : ModelStoredEntry) (currentTick : Nat) : Bool :=
  elapsed entry.createdAtTick entry.ttlTicks currentTick

theorem persistent_isElapsed : Persistent ModelStoredEntry.isElapsed := by
  intro entry t t' htt h
  simp only [ModelStoredEntry.isElapsed, elapsed, decide_eq_true_eq] at h ⊢
  exact Nat.le_trans h (Nat.sub_le_sub_right htt _)

open ModelStoredEntry (isElapsed)
open StoredStateRecord (isExpired persistent_isExpired)

/-! ## The operations of the model -/

namespace OAuthStateTransitionModel

variable {m : OAuthStateTransitionModel} {stateId key : String} {ttl tick : Nat}

/-- The payloads the model still offers. -/
def view (m : OAuthStateTransitionModel) (key : String) : Option ModelStoredEntry :=
  match m.states.lookup key with
  | some (.pending _ _) => m.payloads.lookup key
  | _ => none

/-- Every pending token has its payload. -/
def Coherent (m : OAuthStateTransitionModel) : Prop :=
  ∀ key created ttl, m.states.lookup key = some (.pending created ttl) →
    ∃ entry, m.payloads.lookup key = some entry ∧ entry.createdAtTick = created ∧
      entry.ttlTicks = ttl

theorem view_of_pending {created ttl : Nat} (h : m.states.lookup key = some (.pending created ttl)) :
    m.view key = m.payloads.lookup key := by
  simp [view, h]

theorem view_of_not_pending (h : ∀ created ttl, m.states.lookup key ≠ some (.pending created ttl)) :
    m.view key = none := by
  unfold view
  split
  · rename_i hs
    exact absurd hs (h _ _)
  · rfl

/-- The tokens that are offered and over are those whose status is overdue. -/
theorem exists_view_isElapsed (hm : m.Coherent) :
    (∃ entry, m.view key = some entry ∧ entry.isElapsed tick = true) ↔
      ∃ status, m.states.lookup key = some status ∧ isOverdue tick status = true := by
  constructor
  · rintro ⟨entry, hv, he⟩
    unfold view at hv
    split at hv
    · rename_i created ttl hs
      obtain ⟨entry', hp, rfl, rfl⟩ := hm key created ttl hs
      rw [hp] at hv
      cases hv
      exact ⟨_, hs, he⟩
    · cases hv
  · rintro ⟨status, hs, ho⟩
    cases status with
    | pending created ttl =>
      obtain ⟨entry, hp, rfl, rfl⟩ := hm key created ttl hs
      exact ⟨entry, by rw [view_of_pending hs, hp], ho⟩
    | _ => cases ho

/-- Two models that differ only at one token, at which the second is not pending. -/
theorem view_eq_update_none {m' : OAuthStateTransitionModel}
    (hs : ∀ k, k ≠ key → m'.states.lookup k = m.states.lookup k)
    (hp : ∀ k, k ≠ key → m'.payloads.lookup k = m.payloads.lookup k)
    (hkey : ∀ created ttl, m'.states.lookup key ≠ some (.pending created ttl)) :
    m'.view = Function.update m.view key none := by
  funext k
  by_cases hk : k = key
  · subst hk
    rw [Function.update_self, view_of_not_pending hkey]
  · rw [Function.update_of_ne hk, view, view, hs k hk, hp k hk]

theorem coherent_of_not_pending {m' : OAuthStateTransitionModel} (hm : m.Coherent)
    (hs : ∀ k, k ≠ key → m'.states.lookup k = m.states.lookup k)
    (hp : ∀ k, k ≠ key → m'.payloads.lookup k = m.payloads.lookup k)
    (hkey : ∀ created ttl, m'.states.lookup key ≠ some (.pending created ttl)) : m'.Coherent := by
  intro k created ttl h
  by_cases hk : k = key
  · subst hk
    exact absurd h (hkey _ _)
  · rw [hs k hk] at h
    rw [hp k hk]
    exact hm k created ttl h

theorem insert_spec (hm : m.Coherent) (clientId : String) (tick : Nat) (hid : stateId ≠ "") (httl : 0 < ttl) :
    (m.insert stateId clientId ttl tick).1 = true ∧
      (m.insert stateId clientId ttl tick).2.Coherent ∧
      (m.insert stateId clientId ttl tick).2.view = Function.update m.view stateId
        (some { stateId := stateId, clientId := clientId, createdAtTick := tick, ttlTicks := ttl }) := by
  have hguard : ¬ (stateId = "" ∨ ttl = 0) := by
    rintro (h | h)
    · exact hid h
    · omega
  simp only [insert, if_neg hguard, true_and]
  constructor
  · intro k created ttl' h
    by_cases hk : k = stateId
    · subst hk
      simp only [AList.lookup_insert, Option.some.injEq, StateTransitionStatus.pending.injEq] at h
      exact ⟨_, AList.lookup_insert _, h.1, h.2⟩
    · rw [AList.lookup_insert_ne hk] at h ⊢
      exact hm k created ttl' h
  · funext k
    by_cases hk : k = stateId
    · subst hk
      simp [view]
    · rw [Function.update_of_ne hk, view, view, AList.lookup_insert_ne hk, AList.lookup_insert_ne hk]

theorem takeState_spec (hm : m.Coherent) (stateId : String) (tick : Nat) :
    (m.takeState stateId tick).1 = live isElapsed tick (m.view stateId) ∧
      (m.takeState stateId tick).2.Coherent ∧
      (m.takeState stateId tick).2.view = Function.update m.view stateId none := by
  cases hs : m.states.lookup stateId with
  | none =>
    have hnone : m.view stateId = none := by simp [view, hs]
    simp only [takeState, hs, Option.getD_none, hnone, live_none, true_and]
    exact ⟨hm, by rw [← hnone, Function.update_eq_self]⟩
  | some status =>
    cases status with
    | pending created ttl =>
      obtain ⟨entry, hp, rfl, rfl⟩ := hm stateId created ttl hs
      simp only [takeState, hs, Option.getD_some, view_of_pending hs, hp]
      have hstates : ∀ status k, k ≠ stateId →
          (m.states.insert stateId status).lookup k = m.states.lookup k :=
        fun _ _ hk => AList.lookup_insert_ne hk
      have hpayloads : ∀ k, k ≠ stateId →
          (m.payloads.erase stateId).lookup k = m.payloads.lookup k :=
        fun _ hk => AList.lookup_erase_ne hk
      cases he : elapsed entry.createdAtTick entry.ttlTicks tick with
      | true =>
        have hlive : live isElapsed tick (some entry) = none := live_some_of_expired he
        simp only [if_true, hlive, true_and]
        exact ⟨coherent_of_not_pending hm (hstates _) hpayloads (by simp),
          view_eq_update_none (hstates _) hpayloads (by simp)⟩
      | false =>
        have hlive : live isElapsed tick (some entry) = some entry := live_some_of_not_expired he
        simp only [Bool.false_eq_true, if_false, hlive, true_and]
        exact ⟨coherent_of_not_pending hm (hstates _) hpayloads (by simp),
          view_eq_update_none (hstates _) hpayloads (by simp)⟩
    | _ =>
      have hnone : m.view stateId = none := by simp [view, hs]
      simp only [takeState, hs, Option.getD_some, hnone, live_none, true_and]
      exact ⟨hm, by rw [← hnone, Function.update_eq_self]⟩

theorem states_foldl_expireKey (keys : List String) (m : OAuthStateTransitionModel) :
    (keys.foldl (expireKey tick) m).states.lookup key =
      if key ∈ keys then some (.expired tick) else m.states.lookup key := by
  induction keys generalizing m with
  | nil => simp
  | cons k keys ih =>
    rw [List.foldl_cons, ih, expireKey]
    by_cases hk : key = k
    · subst hk
      simp
    · simp [hk, AList.lookup_insert_ne hk]

theorem payloads_foldl_expireKey (keys : List String) (m : OAuthStateTransitionModel)
    (h : key ∉ keys) : (keys.foldl (expireKey tick) m).payloads.lookup key = m.payloads.lookup key := by
  induction keys generalizing m with
  | nil => rfl
  | cons k keys ih =>
    obtain ⟨hk, hkeys⟩ := List.ne_and_not_mem_of_not_mem_cons h
    rw [List.foldl_cons, ih _ hkeys, expireKey, AList.lookup_erase_ne hk]

theorem mem_expiredKeys : key ∈ m.expiredKeys tick ↔
    ∃ status, m.states.lookup key = some status ∧ isOverdue tick status = true := by
  rw [expiredKeys, ← AList.mem_keys, ← AList.lookup_isSome, AList.lookup_retain,
    Option.isSome_iff_exists]
  simp only [Option.filter_eq_some_iff]

/-- A pruning pass of the model withdraws what is over. -/
theorem prune_spec (hm : m.Coherent) (tick : Nat) :
    (m.prune tick).2.Coherent ∧
      (m.prune tick).2.view = fun key => live isElapsed tick (m.view key) := by
  constructor
  · intro key created ttl h
    simp only [prune, states_foldl_expireKey] at h
    split at h
    · cases h
    · rename_i hkey
      simp only [prune, payloads_foldl_expireKey _ _ hkey]
      exact hm key created ttl h
  · funext key
    by_cases hkey : key ∈ m.expiredKeys tick
    · obtain ⟨entry, hv, he⟩ := (exists_view_isElapsed hm).2 (mem_expiredKeys.1 hkey)
      rw [hv, live_some_of_expired he]
      apply view_of_not_pending
      simp [prune, states_foldl_expireKey, hkey]
    · have hview : (m.prune tick).2.view key = m.view key := by
        simp only [view, prune, states_foldl_expireKey, if_neg hkey, payloads_foldl_expireKey _ _ hkey]
      rw [hview]
      cases hv : m.view key with
      | none => rfl
      | some entry =>
        have he : entry.isElapsed tick = false := by
          by_contra he
          exact hkey (mem_expiredKeys.2 ((exists_view_isElapsed hm).1
            ⟨entry, hv, by simpa using he⟩))
        rw [live_some_of_not_expired he]

/-- The number of pruned tokens, as the cardinality of a set of keys. -/
theorem prune_fst : (m.prune tick).1 = (m.expiredKeys tick).toFinset.card :=
  (List.toFinset_card_of_nodup (AList.keys_nodup _)).symm

end OAuthStateTransitionModel

/-! ## Pruning the store -/

namespace OAuthStateStore

variable {s : OAuthStateStore} {now : Instant} {i : Fin NUM_SHARDS}

/-- Every record is in the shard of its token. -/
def Sharded (s : OAuthStateStore) : Prop :=
  ∀ i key record, (s.shards i).lookup key = some record → s.shardIndex key = i

/-- The fold of `prune_expired_sync` over some of the shards. -/
theorem foldl_pruneShard (now : Instant) (l : List (Fin NUM_SHARDS)) (hl : l.Nodup) (total : Nat)
    (s : OAuthStateStore) :
    l.foldl (fun (total, s) i => (total + (pruneShard s now i).1, (pruneShard s now i).2)) (total, s) =
      (total + (l.map fun i => (s.pruneShard now i).1).sum,
        { s with shards := fun i => if i ∈ l then prune isExpired now (s.shards i) else s.shards i }) := by
  induction l generalizing total s with
  | nil => simp
  | cons j l ih =>
    obtain ⟨hj, hl⟩ := List.nodup_cons.1 hl
    rw [List.foldl_cons, ih hl]
    -- the shards still to come are the same after the first one
    have hother : ∀ i ∈ l, (s.pruneShard now j).2.shards i = s.shards i := by
      intro i hi
      have hij : i ≠ j := fun h => hj (h ▸ hi)
      simp [pruneShard, setShard, hij]
    have hcounts : (l.map fun i => ((s.pruneShard now j).2.pruneShard now i).1) =
        l.map fun i => (s.pruneShard now i).1 := by
      refine List.map_congr_left fun i hi => ?_
      simp only [pruneShard] at hother ⊢
      rw [hother i hi]
    rw [hcounts, List.map_cons, List.sum_cons, Nat.add_assoc]
    congr 1
    simp only [pruneShard, setShard, OAuthStateStore.mk.injEq, and_true]
    funext i
    by_cases hij : i = j
    · subst hij
      simp [hj]
    · simp [hij]

theorem pruneExpiredSync_eq :
    s.pruneExpiredSync now = (∑ i, (s.pruneShard now i).1,
      { s with shards := fun i => prune isExpired now (s.shards i) }) := by
  have h := foldl_pruneShard now (List.finRange NUM_SHARDS) (List.nodup_finRange _) 0 s
  simp only [List.mem_finRange, if_true, Nat.zero_add] at h
  rw [Fin.sum_univ_def]
  exact h

theorem find_pruneExpiredSync :
    (s.pruneExpiredSync now).2.find = fun key => live isExpired now (s.find key) := by
  funext key
  rw [pruneExpiredSync_eq]
  exact lookup_prune _ key

/-- The number of records a pass removes from a shard. -/
theorem pruneShard_fst :
    (s.pruneShard now i).1 = ((s.shards i).retain fun _ record => record.isExpired now).size := by
  have h := AList.size_retain_add_size_retain_not (fun _ record => record.isExpired now) (s.shards i)
  simp only [pruneShard, prune]
  omega

/-- `prune_expired_sync` counts the tokens whose record has expired. -/
theorem pruneExpiredSync_fst (hs : s.Sharded) {keys : Finset String}
    (hkeys : ∀ key, key ∈ keys ↔ ∃ record, s.find key = some record ∧ record.isExpired now = true) :
    (s.pruneExpiredSync now).1 = keys.card := by
  rw [pruneExpiredSync_eq]
  simp only [pruneShard_fst]
  exact Sharded.sum_size_retain hs (fun _ record => record.isExpired now) hkeys

/-- Below capacity an insertion only stores its record. -/
theorem insertRecord_of_room {state : String} {record : StoredStateRecord}
    (h : (s.shards (s.shardIndex state)).size < SHARD_ADMISSION_CAPACITY) :
    s.insertRecord state record now = (.ok (), s.setShard (s.shardIndex state)
      ((s.shards (s.shardIndex state)).insert state record)) := by
  have hroom : ¬ SHARD_ADMISSION_CAPACITY ≤ (s.shards (s.shardIndex state)).size := by omega
  simp only [insertRecord, makeRoom, if_neg hroom]

theorem find_insertRecord_of_room {state : String} {record : StoredStateRecord}
    (h : (s.shards (s.shardIndex state)).size < SHARD_ADMISSION_CAPACITY) :
    (s.insertRecord state record now).2.find = Function.update s.find state (some record) := by
  rw [insertRecord_of_room h, find_setShard_insert]
  simp [setShard]

theorem Sharded.setShard (hs : s.Sharded) {shard : StateShard}
    (h : ∀ key record, shard.lookup key = some record → s.shardIndex key = i) :
    (s.setShard i shard).Sharded := by
  intro j key record hl
  rw [shardIndex_setShard]
  by_cases hj : j = i
  · subst hj
    exact h key record (by simpa [OAuthStateStore.setShard] using hl)
  · exact hs j key record (by simpa [OAuthStateStore.setShard, hj] using hl)

theorem Sharded.insertRecord_of_room (hs : s.Sharded) {state : String} {record : StoredStateRecord}
    (h : (s.shards (s.shardIndex state)).size < SHARD_ADMISSION_CAPACITY) :
    (s.insertRecord state record now).2.Sharded := by
  rw [OAuthStateStore.insertRecord_of_room h]
  refine hs.setShard fun key r hl => ?_
  rcases AList.lookup_of_lookup_insert hl with ⟨rfl, -⟩ | hold
  · rfl
  · exact hs _ key r hold

theorem Sharded.takeStateSync (hs : s.Sharded) (state : String) :
    (s.takeStateSync state now).2.Sharded := by
  simp only [OAuthStateStore.takeStateSync]
  split
  · exact hs
  · exact hs.setShard fun key r hl => hs _ key r (AList.lookup_of_lookup_erase hl)

theorem Sharded.pruneExpiredSync (hs : s.Sharded) : (s.pruneExpiredSync now).2.Sharded := by
  rw [pruneExpiredSync_eq]
  intro i key record hl
  exact hs i key record (live_eq_some.1 ((lookup_prune _ _).symm.trans hl)).1

end OAuthStateStore

/-! ## Records and payloads -/

/-- What the model stores for a record. -/
def StoredStateRecord.payload (key : String) (record : StoredStateRecord) : ModelStoredEntry where
  stateId := key
  clientId := record.entry.clientId
  createdAtTick := record.createdAt
  ttlTicks := record.expiresAt - record.createdAt

/-- The payloads for a map of records. -/
def payloads (f : String → Option StoredStateRecord) (key : String) : Option ModelStoredEntry :=
  (f key).map (StoredStateRecord.payload key)

namespace StoredStateRecord

variable {r : StoredStateRecord} {key : String} {now : Instant}

/-- A record and its payload expire at the same moment: the second test of `is_expired` decides. -/
theorem isElapsed_payload : (r.payload key).isElapsed now = r.isExpired now := by
  rw [Bool.eq_iff_iff, isExpired_iff]
  constructor
  · intro h
    exact Or.inr (of_decide_eq_true h)
  · intro h
    apply decide_eq_true
    rcases h with h | h
    · exact Nat.sub_le_sub_right h r.createdAt
    · exact h

/-- The record of an insertion whose deadline is in range. -/
theorem new_eq {entry : StoredStateEntry} {ttl : Duration} {created : Instant}
    (h : created + ttl.nanos < INSTANT_END) :
    new entry ttl created = { entry := entry, createdAt := created, expiresAt := created + ttl.nanos } := by
  simp [new, h]

theorem payload_new {entry : StoredStateEntry} {ttl : Duration} {created : Instant}
    (h : created + ttl.nanos < INSTANT_END) :
    (new entry ttl created).payload key =
      { stateId := key, clientId := entry.clientId, createdAtTick := created, ttlTicks := ttl.nanos } := by
  rw [new_eq h, payload]
  simp

end StoredStateRecord

theorem payloads_update (f : String → Option StoredStateRecord) (key : String)
    (o : Option StoredStateRecord) : payloads (Function.update f key o) =
      Function.update (payloads f) key (o.map (StoredStateRecord.payload key)) := by
  funext k
  by_cases hk : k = key
  · subst hk
    simp [payloads]
  · simp [payloads, hk]

/-- Expiry commutes with taking payloads. -/
theorem live_payloads (f : String → Option StoredStateRecord) (now : Instant) (key : String) :
    live isElapsed now (payloads f key) =
      (live isExpired now (f key)).map (StoredStateRecord.payload key) := by
  cases hk : f key with
  | none => simp [payloads, hk]
  | some record =>
    have hexp : (record.payload key).isElapsed now = record.isExpired now :=
      StoredStateRecord.isElapsed_payload
    simp only [payloads, hk, Option.map_some]
    cases he : record.isExpired now with
    | true => rw [live_some_of_expired (hexp.trans he), live_some_of_expired he, Option.map_none]
    | false => rw [live_some_of_not_expired (hexp.trans he), live_some_of_not_expired he, Option.map_some]

/-! ## Runs of both -/

/-- What an operation does to the latest insertion of a token. -/
def PairedOp.write (state : String) : PairedOp → Option (Option StoredStateRecord)
  | .insert state' entry ttl created _ =>
    if state' = state then some (some (StoredStateRecord.new entry ttl created)) else none
  | .take state' _ => if state' = state then some none else none
  | .prune _ => none

/-- An insertion of this token. -/
def PairedOp.isInsertOf (state : String) : PairedOp → Bool
  | .insert state' _ _ _ _ => state' = state
  | _ => false

/-- The record of the latest insertion of a token that no take has used up. -/
def lastInsert (tr : List (PairedOp × PairedAnswer)) (state : String) : Option StoredStateRecord :=
  History.latest (fun x => x.1.write state) tr

namespace PairedOp

variable {state : String} {op : PairedOp} {f : String → Option StoredStateRecord}

theorem exists_of_write {record : StoredStateRecord} (h : op.write state = some (some record)) :
    ∃ entry ttl created now, op = .insert state entry ttl created now ∧
      record = StoredStateRecord.new entry ttl created := by
  cases op with
  | insert state' entry ttl created now =>
    simp only [write] at h
    split_ifs at h with hs
    cases h
    exact ⟨entry, ttl, created, now, by rw [hs], rfl⟩
  | take state' now =>
    simp only [write] at h
    split_ifs at h
    cases h
  | prune now => cases h

theorem isInsertOf_of_write_none (h : op.write state = none) : op.isInsertOf state = false := by
  cases op with
  | insert state' entry ttl created now => simpa [write, isInsertOf] using h
  | _ => rfl

theorem write_insert (state : String) (entry : StoredStateEntry) (ttl : Duration)
    (created now : Instant) :
    (fun k => ((PairedOp.insert state entry ttl created now).write k).getD (f k)) =
      Function.update f state (some (StoredStateRecord.new entry ttl created)) :=
  History.getD_ite_eq_update f state _

theorem write_take (state : String) (now : Instant) :
    (fun k => ((PairedOp.take state now).write k).getD (f k)) = Function.update f state none :=
  History.getD_ite_eq_update f state none

end PairedOp

variable {tr : List (PairedOp × PairedAnswer)} {op : PairedOp} {answer : PairedAnswer} {p p' : Paired}

theorem lastInsert_snoc : lastInsert (tr ++ [(op, answer)]) =
    fun k => (op.write k).getD (lastInsert tr k) :=
  funext fun _ => History.latest_snoc

/-- The simulation relation: both sides show the latest insertions at the clock. -/
structure Simulates (tr : List (PairedOp × PairedAnswer)) (p : Paired) : Prop where
  coherent : p.model.Coherent
  store : AgreeAt isExpired p.clock p.store.find (lastInsert tr)
  model : AgreeAt isElapsed p.clock p.model.view (payloads (lastInsert tr))

namespace Simulates

theorem initial (h : p.Initial) : Simulates [] p where
  coherent := by
    intro key created ttl hs
    simp [h.model, OAuthStateTransitionModel.new] at hs
  store := by
    intro key
    simp [OAuthStateStore.find, h.empty, lastInsert]
  model := by
    intro key
    simp [h.model, OAuthStateTransitionModel.view, OAuthStateTransitionModel.new, payloads, lastInsert]

/-- Both takes answer from the latest insertion. -/
theorem take_answers (sim : Simulates tr p) (state : String) {now : Instant} (hle : p.clock ≤ now) :
    (p.store.takeStateSync state now).1 =
        (live isExpired now (lastInsert tr state)).map (·.entry) ∧
      (p.model.takeState state now).1 =
        (live isExpired now (lastInsert tr state)).map (StoredStateRecord.payload state) := by
  have hstore := sim.store.mono persistent_isExpired hle state
  have hmodel := sim.model.mono persistent_isElapsed hle state
  rw [live_payloads] at hmodel
  exact ⟨by rw [OAuthStateStore.takeStateSync_fst, hstore],
    by rw [(OAuthStateTransitionModel.takeState_spec sim.coherent state now).1, hmodel]⟩

theorem insert_step (sim : Simulates tr p) {state : String} {entry : StoredStateEntry}
    {ttl : Duration} {created now : Instant} (hok : p.Legal (.insert state entry ttl created now))
    (h : p.step (.insert state entry ttl created now) = some (p', answer)) :
    Simulates (tr ++ [(.insert state entry ttl created now, answer)]) p' := by
  obtain ⟨hclock, hnow, hstate, httl, hend, hins⟩ := hok
  simp only [Paired.step, Option.some.injEq, Prod.mk.injEq] at h
  obtain ⟨rfl, rfl⟩ := h
  have hle : p.clock ≤ now := le_trans hclock hnow
  obtain ⟨-, hcoherent, hview⟩ := OAuthStateTransitionModel.insert_spec sim.coherent
    entry.clientId created hstate httl
  refine ⟨hcoherent, ?_, ?_⟩
  · rw [lastInsert_snoc, PairedOp.write_insert]
    exact (OAuthStateStore.agreeAt_insertRecord_ok hins).trans
      ((sim.store.mono persistent_isExpired hle).update _ _)
  · simp only [lastInsert_snoc, PairedOp.write_insert, payloads_update, hview, Option.map_some,
      StoredStateRecord.payload_new hend]
    exact (sim.model.mono persistent_isElapsed hle).update _ _

theorem step (sim : Simulates tr p) (hok : p.Legal op) (h : p.step op = some (p', answer)) :
    Simulates (tr ++ [(op, answer)]) p' := by
  cases op with
  | insert state entry ttl created now => exact sim.insert_step hok h
  | take state now =>
    have hle : p.clock ≤ now := hok
    simp only [Paired.step, Option.some.injEq, Prod.mk.injEq] at h
    obtain ⟨rfl, rfl⟩ := h
    obtain ⟨-, hcoherent, hview⟩ :=
      OAuthStateTransitionModel.takeState_spec sim.coherent state now
    refine ⟨hcoherent, ?_, ?_⟩
    · simp only [lastInsert_snoc, PairedOp.write_take, OAuthStateStore.find_takeStateSync]
      exact (sim.store.mono persistent_isExpired hle).update _ _
    · simp only [lastInsert_snoc, PairedOp.write_take, payloads_update, hview, Option.map_none]
      exact (sim.model.mono persistent_isElapsed hle).update _ _
  | prune now =>
    have hle : p.clock ≤ now := hok
    simp only [Paired.step, Option.some.injEq, Prod.mk.injEq] at h
    obtain ⟨rfl, rfl⟩ := h
    obtain ⟨hcoherent, hview⟩ := OAuthStateTransitionModel.prune_spec sim.coherent now
    refine ⟨hcoherent, fun k => ?_, fun k => ?_⟩
    · simp only [OAuthStateStore.find_pruneExpiredSync, lastInsert_snoc, PairedOp.write,
        Option.getD_none, live_live persistent_isExpired (le_refl now)]
      exact sim.store.mono persistent_isExpired hle k
    · simp only [hview, lastInsert_snoc, PairedOp.write, Option.getD_none,
        live_live persistent_isElapsed (le_refl now)]
      exact sim.model.mono persistent_isElapsed hle k

theorem of_exec {p₀ : Paired} (h0 : p₀.Initial) (hr : Exec Paired.Legal Paired.step p₀ tr p) :
    Simulates tr p :=
  hr.invariant Simulates (initial h0) fun _ _ _ _ _ sim hok h => sim.step hok h

end Simulates

/-- While no shard is crowded, the model offers exactly the payloads of the stored records. -/
structure Exact (p : Paired) : Prop where
  coherent : p.model.Coherent
  sharded : p.store.Sharded
  view : p.model.view = payloads p.store.find

namespace Exact

theorem initial (h : p.Initial) : Exact p where
  coherent := (Simulates.initial h).coherent
  sharded := by
    intro i key record hl
    simp [h.empty] at hl
  view := by
    funext key
    simp [h.model, OAuthStateTransitionModel.view, OAuthStateTransitionModel.new, payloads,
      OAuthStateStore.find, h.empty]

/-- Both passes remove the same number of tokens. -/
theorem prune_counts (ex : Exact p) (now : Instant) :
    (p.store.pruneExpiredSync now).1 = (p.model.prune now).1 := by
  rw [OAuthStateTransitionModel.prune_fst]
  refine OAuthStateStore.pruneExpiredSync_fst ex.sharded fun key => ?_
  rw [List.mem_toFinset, OAuthStateTransitionModel.mem_expiredKeys,
    ← OAuthStateTransitionModel.exists_view_isElapsed ex.coherent, ex.view]
  simp only [payloads, Option.map_eq_some_iff]
  constructor
  · rintro ⟨entry, ⟨record, hfind, rfl⟩, he⟩
    exact ⟨record, hfind, StoredStateRecord.isElapsed_payload.symm.trans he⟩
  · rintro ⟨record, hfind, he⟩
    exact ⟨_, ⟨record, hfind, rfl⟩, StoredStateRecord.isElapsed_payload.trans he⟩

theorem step (ex : Exact p) (hok : p.Legal op) (hroom : p.Uncrowded op)
    (h : p.step op = some (p', answer)) : Exact p' := by
  cases op with
  | insert state entry ttl created now =>
    obtain ⟨-, -, hstate, httl, hend, -⟩ := hok
    simp only [Paired.step, Option.some.injEq, Prod.mk.injEq] at h
    obtain ⟨rfl, rfl⟩ := h
    obtain ⟨-, hcoherent, hview⟩ := OAuthStateTransitionModel.insert_spec ex.coherent
      entry.clientId created hstate httl
    refine ⟨hcoherent, ex.sharded.insertRecord_of_room hroom, ?_⟩
    simp only [OAuthStateStore.insertStateSync, OAuthStateStore.find_insertRecord_of_room hroom,
      payloads_update, hview, ex.view, Option.map_some, StoredStateRecord.payload_new hend]
  | take state now =>
    simp only [Paired.step, Option.some.injEq, Prod.mk.injEq] at h
    obtain ⟨rfl, rfl⟩ := h
    obtain ⟨-, hcoherent, hview⟩ :=
      OAuthStateTransitionModel.takeState_spec ex.coherent state now
    refine ⟨hcoherent, ex.sharded.takeStateSync state, ?_⟩
    simp only [OAuthStateStore.find_takeStateSync, payloads_update, hview, ex.view, Option.map_none]
  | prune now =>
    simp only [Paired.step, Option.some.injEq, Prod.mk.injEq] at h
    obtain ⟨rfl, rfl⟩ := h
    obtain ⟨hcoherent, hview⟩ := OAuthStateTransitionModel.prune_spec ex.coherent now
    refine ⟨hcoherent, ex.sharded.pruneExpiredSync, ?_⟩
    funext key
    simp only [hview, ex.view, live_payloads]
    simp only [payloads, OAuthStateStore.find_pruneExpiredSync]

theorem of_exec {p₀ : Paired} (h0 : p₀.Initial)
    (hr : Exec (fun p op => p.Legal op ∧ p.Uncrowded op) Paired.step p₀ tr p) : Exact p :=
  hr.invariant (fun _ p => Exact p) (initial h0)
    fun _ _ _ _ _ ex hok h => ex.step hok.1 hok.2 h

end Exact

/-- The store refines the repository's own model. In every sequential run a take returns an entry
    exactly if the model does, and both then hold the payload of the same insertion, the latest one of
    the token. If moreover no insertion finds its shard at capacity, every pruning pass counts as many
    entries on both sides. -/
theorem store_refines_model {p₀ p : Paired} (h0 : p₀.Initial)
    (hr : Exec Paired.Legal Paired.step p₀ tr p) :
    (∀ pre state now r m post, tr = pre ++ (.take state now, .taken r m) :: post →
      (r.isSome ↔ m.isSome) ∧
        ∀ entry, r = some entry → ∃ pre₁ ttl created now₁ answer mid,
          pre = pre₁ ++ (.insert state entry ttl created now₁, answer) :: mid ∧
          (∀ x ∈ mid, x.1.isInsertOf state = false) ∧
          m = some { stateId := state, clientId := entry.clientId, createdAtTick := created,
                     ttlTicks := ttl.nanos }) ∧
    (Exec (fun p op => p.Legal op ∧ p.Uncrowded op) Paired.step p₀ tr p →
      ∀ pre now n k post, tr = pre ++ (.prune now, .pruned n k) :: post → n = k) := by
  refine ⟨fun pre state now r m post htr => ?_, fun hr' pre now n k post htr => ?_⟩
  · obtain ⟨p₁, p₂, hpre, hle, hstep⟩ := hr.split_at htr
    obtain ⟨hstore, hmodel⟩ := (Simulates.of_exec h0 hpre).take_answers state hle
    simp only [Paired.step, Option.some.injEq, Prod.mk.injEq, PairedAnswer.taken.injEq] at hstep
    obtain ⟨-, rfl, rfl⟩ := hstep
    rw [hstore, hmodel]
    refine ⟨by rw [Option.isSome_map, Option.isSome_map], fun entry hentry => ?_⟩
    obtain ⟨record, hlive, hrec⟩ := Option.map_eq_some_iff.1 hentry
    obtain ⟨hlast, -⟩ := live_eq_some.1 hlive
    -- the record was written by an insertion of the run, which was legal there
    obtain ⟨pre₁, ⟨op, answer⟩, mid, hsplit, hwrite, hmid⟩ := History.exists_write_of_latest hlast
    obtain ⟨entry', ttl, created, now₁, rfl, rfl⟩ := PairedOp.exists_of_write hwrite
    obtain ⟨q₁, q₂, -, ⟨-, -, -, -, hend, -⟩, -⟩ := hpre.split_at hsplit
    obtain rfl : entry' = entry := hrec
    refine ⟨pre₁, ttl, created, now₁, answer, mid, hsplit,
      fun x hx => PairedOp.isInsertOf_of_write_none (hmid x hx), ?_⟩
    rw [hlive, Option.map_some, StoredStateRecord.payload_new hend]
  · obtain ⟨p₁, p₂, hpre, -, hstep⟩ := hr'.split_at htr
    simp only [Paired.step, Option.some.injEq, Prod.mk.injEq, PairedAnswer.pruned.injEq] at hstep
    obtain ⟨-, rfl, rfl⟩ := hstep
    exact (Exact.of_exec h0 hpre).prune_counts now

namespace PairedSample

open StoreSample (entry ttl)

def start : Paired where
  store := OAuthStateStore.new (fun _ => 0) ttl
  model := .new
  clock := 0

/-- Two logins, the callback of one of them, and a pruning pass after the other has expired. -/
def ops : List PairedOp :=
  [.insert "s" entry ttl 0 0, .insert "t" entry ttl 0 0, .take "s" 1, .prune 300000000000]

def trace : List (PairedOp × PairedAnswer) :=
  [(.insert "s" entry ttl 0 0, .inserted (.ok ()) true),
    (.insert "t" entry ttl 0 0, .inserted (.ok ()) true),
    (.take "s" 1, .taken (some entry)
      (some { stateId := "s", clientId := "c", createdAtTick := 0, ttlTicks := 300000000000 })),
    (.prune 300000000000, .pruned 1 1)]

theorem initial_start : start.Initial := ⟨fun _ => rfl, rfl⟩

theorem run_fst : (Exec.run (Exec.checked (fun p op => p.Legal op ∧ p.Uncrowded op) Paired.step)
    start ops).map (·.1) = some trace := by
  rfl

theorem exec_trace : ∃ p, Exec (fun p op => p.Legal op ∧ p.Uncrowded op) Paired.step start trace p := by
  obtain ⟨⟨tr, p⟩, hrun, rfl⟩ := Option.map_eq_some_iff.1 run_fst
  exact ⟨p, (Exec.of_run .nil hrun).of_checked⟩

end PairedSample

open PairedSample in
theorem store_refines_model_sample : ∃ pre r m n k,
    trace = pre ++ [(.take "s" 1, .taken r m), (.prune 300000000000, .pruned n k)] ∧
      r = some StoreSample.entry ∧ (r.isSome ↔ m.isSome) ∧ n = k := by
  obtain ⟨p, hr⟩ := exec_trace
  obtain ⟨htake, hprune⟩ := store_refines_model initial_start (hr.mono fun _ _ h => h.1)
  exact ⟨trace.take 2, _, _, _, _, rfl, rfl, (htake (trace.take 2) _ _ _ _ _ rfl).1,
    hprune hr (trace.take 3) _ _ _ _ rfl⟩

end Skyauth
