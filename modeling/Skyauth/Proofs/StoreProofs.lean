import Skyauth.StoreSystem
import Skyauth.Lib.Sharded

/-!
# Proofs: an OAuth state is used at most once

Beside the store runs an ideal map from tokens to records: an insertion that returned `Ok` sets the
record of its token, a take or a clear removes it, and nothing ever expires from it. What the map
holds is determined by the events of the run (`lastRecord`). Every pruning pass uses a time that is
not ahead of the clock, so the store and the ideal map show the same records at the clock
(`Expiring.AgreeAt`), whatever the interleaving. A take that returns an entry therefore empties a
cell of the ideal map that an insertion filled.
-/

namespace Skyauth

open Expiring

namespace StoredStateRecord

variable {r : StoredStateRecord} {now : Instant}

theorem isExpired_iff : r.isExpired now = true ↔
    r.expiresAt ≤ now ∨ r.expiresAt - r.createdAt ≤ now - r.createdAt := by
  unfold isExpired
  split_ifs with h <;> simp [h]

theorem persistent_isExpired : Persistent isExpired := by
  intro r t t' htt h
  rw [isExpired_iff] at h ⊢
  rcases h with h | h
  · exact Or.inl (Nat.le_trans h htt)
  · exact Or.inr (Nat.le_trans h (Nat.sub_le_sub_right htt _))

theorem lt_expiresAt (h : r.isExpired now = false) : now < r.expiresAt := by
  by_contra hle
  rw [isExpired_iff.2 (Or.inl (Nat.le_of_not_lt hle))] at h
  cases h

end StoredStateRecord

open StoredStateRecord (isExpired persistent_isExpired)

/-! ## The operations on the store -/

namespace OAuthStateStore

variable {s : OAuthStateStore} {state key : String} {record : StoredStateRecord} {now t : Instant}
  {i : Fin NUM_SHARDS} {shard : StateShard}

@[simp] theorem shardIndex_setShard : (s.setShard i shard).shardIndex key = s.shardIndex key := rfl

theorem find_setShard :
    (s.setShard i shard).find key = if s.shardIndex key = i then shard.lookup key else s.find key :=
  Sharded.find_update

/-- Replacing a shard by one that shows the same records. -/
theorem agreeAt_setShard (h : ∀ k, live isExpired t (shard.lookup k) =
    live isExpired t ((s.shards i).lookup k)) :
    AgreeAt isExpired t (s.setShard i shard).find s.find :=
  Sharded.agreeAt_update h

theorem find_setShard_insert (shard : StateShard) :
    (s.setShard (s.shardIndex state) (shard.insert state record)).find =
      Function.update (s.setShard (s.shardIndex state) shard).find state (some record) :=
  Sharded.find_update_insert

theorem live_lookup_makeRoom (shard : StateShard) (now : Instant) (k : String) :
    live isExpired now ((makeRoom shard now).lookup k) = live isExpired now (shard.lookup k) := by
  unfold makeRoom
  split
  · exact agreeAt_prune persistent_isExpired (le_refl now) shard k
  · rfl

@[simp] theorem shardIndex_insertRecord :
    (s.insertRecord state record now).2.shardIndex key = s.shardIndex key := by
  simp only [insertRecord]
  split <;> rfl

/-- An insertion that returns `Ok` sets its record. -/
theorem agreeAt_insertRecord_ok (h : (s.insertRecord state record now).1 = .ok ()) :
    AgreeAt isExpired now (s.insertRecord state record now).2.find
      (Function.update s.find state (some record)) := by
  simp only [insertRecord] at h ⊢
  split at h
  · cases h
  · rename_i hroom
    rw [if_neg hroom, find_setShard_insert]
    exact (agreeAt_setShard fun k => live_lookup_makeRoom _ now k).update state _

/-- An insertion that fails changes nothing that can be seen. -/
theorem agreeAt_insertRecord_error {e : StoreError}
    (h : (s.insertRecord state record now).1 = .error e) :
    AgreeAt isExpired now (s.insertRecord state record now).2.find s.find := by
  simp only [insertRecord] at h ⊢
  split at h
  · rename_i hfull
    rw [if_pos hfull]
    exact agreeAt_setShard fun k => live_lookup_makeRoom _ now k
  · cases h

theorem takeStateSync_fst :
    (s.takeStateSync state now).1 = (live isExpired now (s.find state)).map (·.entry) := by
  simp only [takeStateSync, find]
  cases hl : (s.shards (s.shardIndex state)).lookup state with
  | none => rfl
  | some r =>
    cases he : r.isExpired now with
    | false => simp [live_some_of_not_expired he, he]
    | true => simp [live_some_of_expired he, he]

@[simp] theorem shardIndex_takeStateSync :
    (s.takeStateSync state now).2.shardIndex key = s.shardIndex key := by
  simp only [takeStateSync]
  split <;> rfl

theorem find_takeStateSync :
    (s.takeStateSync state now).2.find = Function.update s.find state none := by
  simp only [takeStateSync]
  split
  · rename_i hnone
    have hfind : s.find state = none := hnone
    rw [← hfind, Function.update_eq_self]
  · exact Sharded.find_update_erase

/-- A pruning pass whose reading is not ahead of the clock cannot be seen. -/
theorem agreeAt_pruneShard (h : now ≤ t) :
    AgreeAt isExpired t (s.pruneShard now i).2.find s.find :=
  agreeAt_setShard fun k => agreeAt_prune persistent_isExpired h (s.shards i) k

theorem find_clearShard :
    (s.clearShard i).find key = if s.shardIndex key = i then none else s.find key := by
  rw [clearShard, find_setShard]
  rfl

end OAuthStateStore

/-! ## The ideal map -/

/-- What an event does to the ideal record of a token: set it, remove it, or nothing. `index` gives
    the shard of each token. -/
def StoreEvent.write (index : String → Fin NUM_SHARDS) (state : String) :
    StoreEvent → Option (Option StoredStateRecord)
  | .inserted state' record (.ok ()) => if state' = state then some (some record) else none
  | .taken state' _ _ => if state' = state then some none else none
  | .cleared i => if index state = i then some none else none
  | _ => none

/-- The ideal record of a token after a run. -/
def lastRecord (index : String → Fin NUM_SHARDS) (tr : List (StoreAction × StoreEvent))
    (state : String) : Option StoredStateRecord :=
  History.latest (fun x => x.2.write index state) tr

namespace StoreEvent

variable {index : String → Fin NUM_SHARDS} {state : String} {e : StoreEvent} {f : String → Option StoredStateRecord}

theorem write_eq_some_some {record : StoredStateRecord} :
    e.write index state = some (some record) ↔ e = .inserted state record (.ok ()) := by
  cases e with
  | inserted state' record' r =>
    cases r with
    | error e => simp [write]
    | ok u =>
      cases u
      simp only [write]
      split_ifs with h <;> simp [h]
  | taken state' r now =>
    simp only [write]
    split_ifs <;> simp
  | cleared i =>
    simp only [write]
    split_ifs <;> simp
  | _ => simp [write]

/-- Only a take and an insertion of the token itself are counted for it. -/
theorem counts_of_write_none (h : e.write index state = none) :
    e.isInsertOf state = false ∧ e.isTakeOf state = false := by
  cases e with
  | inserted state' record r =>
    cases r with
    | error e => simp [isInsertOf, isTakeOf]
    | ok u =>
      cases u
      simpa [write, isInsertOf, isTakeOf] using h
  | taken state' r now =>
    cases r <;> simp_all [write, isInsertOf, isTakeOf]
  | _ => simp [isInsertOf, isTakeOf]

theorem write_inserted_ok (state : String) (record : StoredStateRecord) :
    (fun k => ((inserted state record (.ok ())).write index k).getD (f k)) =
      Function.update f state (some record) :=
  History.getD_ite_eq_update f state (some record)

theorem write_taken (state : String) (r : Option StoredStateEntry) (now : Instant) :
    (fun k => ((taken state r now).write index k).getD (f k)) = Function.update f state none :=
  History.getD_ite_eq_update f state none

end StoreEvent

/-! ## One action -/

namespace StoreSystem

variable {s s' : StoreSystem} {a : StoreAction} {e : StoreEvent} {index : String → Fin NUM_SHARDS}
  {state : String}

/-- A callback that took an entry for this token. -/
def isPending (state : String) : StoreTask → Bool
  | .callback params (some _) => params.state = state
  | _ => false

/-- What a task in flight may rely on: the reading of a pruning pass is not ahead of the clock. -/
def Timely (clock : Instant) : StoreTask → Prop
  | .pruning now _ _ => now ≤ clock
  | _ => True

/-- What each action does, and when it can be taken. -/
inductive Stepped (s : StoreSystem) : StoreAction → StoreSystem → StoreEvent → Prop
  | tick {now : Instant} : s.clock ≤ now → Stepped s (.tick now) { s with clock := now } .silent
  | beginInsert {state : String} {entry : StoredStateEntry} {ttl : Duration} :
      Stepped s (.beginInsert state entry ttl)
        { s with inFlight := .inserting state (.new entry ttl s.clock) :: s.inFlight } .silent
  | insert {state : String} {record : StoredStateRecord} : .inserting state record ∈ s.inFlight →
      Stepped s (.insert state record)
        { s with store := (s.store.insertRecord state record s.clock).2
                 inFlight := s.inFlight.erase (.inserting state record) }
        (.inserted state record (s.store.insertRecord state record s.clock).1)
  | takeState {state : String} :
      Stepped s (.takeState state) (s.take state).2 (.taken state (s.take state).1 s.clock)
  | containsState {state : String} :
      Stepped s (.containsState state) s (.contained state (s.store.containsStateSync state s.clock))
  | beginPrune : Stepped s .beginPrune
      { s with inFlight := .pruning s.clock ⟨0, by decide⟩ 0 :: s.inFlight } .silent
  | pruneShard {now : Instant} {next : Fin NUM_SHARDS} {total : Nat} {rest : List StoreTask}
      {event : StoreEvent} : .pruning now next total ∈ s.inFlight →
      rest = nextShard next (fun i => .pruning now i (total + (s.store.pruneShard now next).1)) →
      event = .silent ∨ (∃ n, event = .pruned n) →
      Stepped s (.pruneShard now next total)
        { s with store := (s.store.pruneShard now next).2
                 inFlight := rest ++ s.inFlight.erase (.pruning now next total) } event
  | beginClear : Stepped s .beginClear
      { s with inFlight := .clearing ⟨0, by decide⟩ :: s.inFlight } .silent
  | clearShard {next : Fin NUM_SHARDS} : .clearing next ∈ s.inFlight →
      Stepped s (.clearShard next)
        { s with store := s.store.clearShard next
                 inFlight := nextShard next .clearing ++ s.inFlight.erase (.clearing next) }
        (.cleared next)
  | handleCallback {params : CallbackParams} : Stepped s (.handleCallback params)
      { (s.take params.state).2 with
        inFlight := .callback params (s.take params.state).1 :: s.inFlight }
      (.taken params.state (s.take params.state).1 s.clock)
  | exchanged {params : CallbackParams} {taken : Option StoredStateEntry} {now : SystemTime} :
      .callback params taken ∈ s.inFlight → Skyauth.handleCallback params taken now = .ok () →
      Stepped s (.finishCallback params taken now)
        { s with inFlight := s.inFlight.erase (.callback params taken) } (.exchanged params.state)
  | rejected {params : CallbackParams} {taken : Option StoredStateEntry} {now : SystemTime}
      {e : AtprotoOAuthError} : .callback params taken ∈ s.inFlight →
      Stepped s (.finishCallback params taken now)
        { s with inFlight := s.inFlight.erase (.callback params taken) } (.rejected e)

theorem stepped (h : s.step a = some (s', e)) : Stepped s a s' e := by
  cases a with
  | tick now =>
    obtain ⟨hle, heq⟩ := Option.ite_none_right_eq_some.1 h
    cases heq
    exact .tick hle
  | beginInsert =>
    cases h
    exact .beginInsert
  | insert =>
    obtain ⟨hmem, heq⟩ := Option.ite_none_right_eq_some.1 h
    cases heq
    exact .insert hmem
  | takeState =>
    cases h
    exact .takeState
  | containsState =>
    cases h
    exact .containsState
  | beginPrune =>
    cases h
    exact .beginPrune
  | pruneShard =>
    obtain ⟨hmem, heq⟩ := Option.ite_none_right_eq_some.1 h
    cases heq
    refine .pruneShard hmem rfl ?_
    split
    · exact Or.inr ⟨_, rfl⟩
    · exact Or.inl rfl
  | beginClear =>
    cases h
    exact .beginClear
  | clearShard =>
    obtain ⟨hmem, heq⟩ := Option.ite_none_right_eq_some.1 h
    cases heq
    exact .clearShard hmem
  | handleCallback =>
    cases h
    exact .handleCallback
  | finishCallback =>
    obtain ⟨hmem, heq⟩ := Option.ite_none_right_eq_some.1 h
    cases heq
    split
    · rename_i hok
      exact .exchanged hmem hok
    · exact .rejected hmem

/-- What one action can do to the store: the clock does not run backwards, and the records shown at
    it change as the event says. -/
theorem step_store (hindex : ∀ k, s.store.shardIndex k = index k)
    (htimely : ∀ task ∈ s.inFlight, Timely s.clock task) (h : s.step a = some (s', e)) :
    s.clock ≤ s'.clock ∧ (∀ k, s'.store.shardIndex k = index k) ∧
      AgreeAt isExpired s'.clock s'.store.find
        (fun k => (e.write index k).getD (s.store.find k)) := by
  cases stepped h with
  | tick hle => exact ⟨hle, hindex, AgreeAt.refl _⟩
  | beginInsert | containsState | beginPrune | beginClear | exchanged | rejected =>
    exact ⟨le_refl _, hindex, AgreeAt.refl _⟩
  | @insert state record _ =>
    refine ⟨le_refl _, fun k => by rw [OAuthStateStore.shardIndex_insertRecord, hindex k], ?_⟩
    cases hr : (s.store.insertRecord state record s.clock).1 with
    | ok u =>
      cases u
      rw [StoreEvent.write_inserted_ok]
      exact OAuthStateStore.agreeAt_insertRecord_ok hr
    | error e => exact OAuthStateStore.agreeAt_insertRecord_error hr
  | takeState | handleCallback =>
    refine ⟨le_refl _, fun k => (OAuthStateStore.shardIndex_takeStateSync ..).trans (hindex k), ?_⟩
    rw [StoreEvent.write_taken]
    show AgreeAt isExpired _ (OAuthStateStore.find _) _
    rw [take, OAuthStateStore.find_takeStateSync]
    exact AgreeAt.refl _
  | pruneShard hmem _ hevent =>
    refine ⟨le_refl _, hindex, ?_⟩
    have hsilent : ∀ k, e.write index k = none := by
      intro k
      rcases hevent with rfl | ⟨n, rfl⟩ <;> rfl
    simp only [hsilent, Option.getD_none]
    exact OAuthStateStore.agreeAt_pruneShard (htimely _ hmem)
  | clearShard hmem =>
    refine ⟨le_refl _, hindex, ?_⟩
    intro k
    simp only [OAuthStateStore.find_clearShard, hindex k, StoreEvent.write]
    split <;> rfl

/-- The tasks an action can put in flight. -/
def Spawned (s : StoreSystem) (a : StoreAction) : StoreTask → Prop
  | .inserting state record =>
    ∃ entry ttl, a = .beginInsert state entry ttl ∧ record = StoredStateRecord.new entry ttl s.clock
  | .pruning now _ _ => now = s.clock ∨ ∃ i total, .pruning now i total ∈ s.inFlight
  | .clearing _ => True
  | .callback _ _ => True

theorem mem_nextShard {i : Fin NUM_SHARDS} {task : Fin NUM_SHARDS → StoreTask} {x : StoreTask}
    (h : x ∈ nextShard i task) : ∃ j, x = task j := by
  unfold nextShard at h
  split at h
  · exact ⟨_, List.mem_singleton.1 h⟩
  · cases h

/-- What is in flight after an action was in flight before or was put there by it. -/
theorem step_inFlight {task : StoreTask} (h : s.step a = some (s', e)) (hmem : task ∈ s'.inFlight) :
    task ∈ s.inFlight ∨ Spawned s a task := by
  cases stepped h with
  | tick | containsState | takeState => exact Or.inl hmem
  | @beginInsert state entry ttl =>
    rcases List.mem_cons.1 hmem with rfl | hmem
    · exact Or.inr ⟨entry, ttl, rfl, rfl⟩
    · exact Or.inl hmem
  | beginPrune =>
    rcases List.mem_cons.1 hmem with rfl | hmem
    · exact Or.inr (Or.inl rfl)
    · exact Or.inl hmem
  | beginClear | handleCallback =>
    rcases List.mem_cons.1 hmem with rfl | hmem
    · exact Or.inr trivial
    · exact Or.inl hmem
  | insert | exchanged | rejected => exact Or.inl (List.mem_of_mem_erase hmem)
  | @pruneShard now next total _ _ hin hrest =>
    rcases List.mem_append.1 hmem with hmem | hmem
    · rw [hrest] at hmem
      obtain ⟨j, rfl⟩ := mem_nextShard hmem
      exact Or.inr (Or.inr ⟨next, total, hin⟩)
    · exact Or.inl (List.mem_of_mem_erase hmem)
  | clearShard =>
    rcases List.mem_append.1 hmem with hmem | hmem
    · obtain ⟨j, rfl⟩ := mem_nextShard hmem
      exact Or.inr trivial
    · exact Or.inl (List.mem_of_mem_erase hmem)

/-- A take shows the record of its token that is visible at the clock. -/
theorem step_taken {r : Option StoredStateEntry} {now : Instant}
    (h : s.step a = some (s', .taken state r now)) :
    now = s.clock ∧ r = (live isExpired s.clock (s.store.find state)).map (·.entry) := by
  cases stepped h with
  | takeState | handleCallback => exact ⟨rfl, OAuthStateStore.takeStateSync_fst⟩
  | pruneShard _ _ hevent => rcases hevent with hevent | ⟨n, hevent⟩ <;> cases hevent

/-- An insertion runs its critical section with the record it was dated with. -/
theorem step_inserted {record : StoredStateRecord} {r : Except StoreError Unit}
    (h : s.step a = some (s', .inserted state record r)) : .inserting state record ∈ s.inFlight := by
  cases stepped h with
  | insert hmem => exact hmem
  | pruneShard _ _ hevent => rcases hevent with hevent | ⟨n, hevent⟩ <;> cases hevent

theorem countP_nextShard (i : Fin NUM_SHARDS) {task : Fin NUM_SHARDS → StoreTask}
    (h : ∀ j, isPending state (task j) = false) : (nextShard i task).countP (isPending state) = 0 := by
  rw [List.countP_eq_zero]
  intro x hx
  obtain ⟨j, rfl⟩ := mem_nextShard hx
  simp [h j]

theorem countP_erase_le (state : String) (tasks : List StoreTask) (task : StoreTask) :
    (tasks.erase task).countP (isPending state) ≤ tasks.countP (isPending state) :=
  List.erase_sublist.countP_le

/-- `exchange_code` is entered with an entry that was taken. -/
theorem exists_entry_of_ok {params : CallbackParams} {taken : Option StoredStateEntry}
    {now : SystemTime} (h : handleCallback params taken now = .ok ()) : ∃ entry, taken = some entry := by
  cases taken with
  | none => cases h
  | some entry => exact ⟨entry, rfl⟩

/-- A callback is put in flight with an entry by a successful take, and leaves it when it enters
    `exchange_code`. -/
theorem step_callbacks (h : s.step a = some (s', e)) (state : String) :
    s'.inFlight.countP (isPending state) + (e.isExchangeOf state).toNat ≤
      s.inFlight.countP (isPending state) + (e.isTakeOf state).toNat := by
  cases stepped h with
  | tick => exact le_refl _
  | containsState | takeState => simp [StoreEvent.isExchangeOf, take]
  | beginInsert | beginPrune | beginClear => simp [StoreEvent.isExchangeOf, isPending]
  | @handleCallback params =>
    cases (s.take params.state).1 with
    | none => simp [isPending, StoreEvent.isExchangeOf]
    | some entry =>
      by_cases hp : params.state = state <;>
        simp [isPending, StoreEvent.isExchangeOf, StoreEvent.isTakeOf, hp]
  | insert | rejected =>
    simp only [StoreEvent.isExchangeOf, Bool.toNat_false]
    exact (countP_erase_le state s.inFlight _).trans (Nat.le_add_right ..)
  | @pruneShard now next total _ _ _ hrest hevent =>
    have hle := countP_erase_le state s.inFlight (.pruning now next total)
    have hexchange : e.isExchangeOf state = false := by
      rcases hevent with rfl | ⟨n, rfl⟩ <;> rfl
    rw [hrest, List.countP_append, countP_nextShard next fun _ => rfl, hexchange, Bool.toNat_false]
    omega
  | @clearShard next =>
    have hle := countP_erase_le state s.inFlight (.clearing next)
    rw [List.countP_append, countP_nextShard next fun _ => rfl]
    simp only [StoreEvent.isExchangeOf, Bool.toNat_false]
    omega
  | @exchanged params taken now hmem hok =>
    have hle := countP_erase_le state s.inFlight (.callback params taken)
    obtain ⟨entry, rfl⟩ := exists_entry_of_ok hok
    by_cases hp : params.state = state
    · -- the callback that leaves was counted
      have hpend : isPending state (.callback params (some entry)) = true := by simp [isPending, hp]
      have hpos : 0 < s.inFlight.countP (isPending state) := List.countP_pos_iff.2 ⟨_, hmem, hpend⟩
      rw [List.countP_erase]
      simp only [hmem, hpend, and_self, if_true, StoreEvent.isExchangeOf, hp, decide_true,
        Bool.toNat_true]
      omega
    · simp only [StoreEvent.isExchangeOf, hp, decide_false, Bool.toNat_false]
      omega

end StoreSystem

/-! ## Whole runs -/

variable {index : String → Fin NUM_SHARDS} {tr : List (StoreAction × StoreEvent)} {a : StoreAction}
  {e : StoreEvent} {state : String}

theorem lastRecord_snoc : lastRecord index (tr ++ [(a, e)]) =
    fun k => (e.write index k).getD (lastRecord index tr k) :=
  funext fun _ => History.latest_snoc

theorem countEvents_snoc {p : StoreEvent → Bool} :
    countEvents p (tr ++ [(a, e)]) = countEvents p tr + (p e).toNat := by
  cases hp : p e <;> simp [countEvents, List.countP_append, hp]

/-- A take uses up the record of the ideal map, an insertion provides at most one. -/
theorem StoreEvent.write_balance (index : String → Fin NUM_SHARDS) (o : Option StoredStateRecord)
    (h : e.isTakeOf state = true → o.isSome = true) :
    (e.isTakeOf state).toNat + ((e.write index state).getD o).toList.length ≤
      o.toList.length + (e.isInsertOf state).toNat := by
  cases hw : e.write index state with
  | none =>
    obtain ⟨hi, ht⟩ := counts_of_write_none hw
    simp [hi, ht]
  | some content =>
    cases content with
    | some record =>
      rw [write_eq_some_some] at hw
      subst hw
      simp [isTakeOf, isInsertOf]
    | none =>
      cases ht : e.isTakeOf state with
      | false => simp
      | true =>
        obtain ⟨record, rfl⟩ := Option.isSome_iff_exists.1 (h ht)
        simp

/-- What holds of a run `tr` and the state `s` it leads to. -/
structure Traced (index : String → Fin NUM_SHARDS) (tr : List (StoreAction × StoreEvent))
    (s : StoreSystem) : Prop where
  shardIndex : ∀ k, s.store.shardIndex k = index k
  timely : ∀ task ∈ s.inFlight, StoreSystem.Timely s.clock task
  agree : AgreeAt isExpired s.clock s.store.find (lastRecord index tr)
  dated : ∀ state record, .inserting state record ∈ s.inFlight → ∃ entry ttl now,
    (.beginInsert state entry ttl, .silent) ∈ tr ∧ record = StoredStateRecord.new entry ttl now
  takes : ∀ state, countEvents (StoreEvent.isTakeOf state) tr +
    (lastRecord index tr state).toList.length ≤ countEvents (StoreEvent.isInsertOf state) tr
  callbacks : ∀ state, countEvents (StoreEvent.isExchangeOf state) tr +
    s.inFlight.countP (StoreSystem.isPending state) ≤ countEvents (StoreEvent.isTakeOf state) tr

namespace Traced

variable {s s' : StoreSystem}

theorem initial (h : s.Initial) : Traced s.store.shardIndex [] s where
  shardIndex := fun _ => rfl
  timely := by simp [h.idle]
  agree := by
    intro k
    simp [OAuthStateStore.find, h.empty, lastRecord]
  dated := by simp [h.idle]
  takes := by simp [countEvents, lastRecord]
  callbacks := by simp [countEvents, h.idle]

/-- An entry that is taken is the one of the ideal record, which has not reached its deadline. -/
theorem exists_record (inv : Traced index tr s) {entry : StoredStateEntry} {now : Instant}
    (h : s.step a = some (s', .taken state (some entry) now)) :
    ∃ record, lastRecord index tr state = some record ∧ record.entry = entry ∧
      now < record.expiresAt := by
  obtain ⟨rfl, hr⟩ := StoreSystem.step_taken h
  obtain ⟨record, hlive, hentry⟩ := Option.map_eq_some_iff.1 hr.symm
  rw [inv.agree state] at hlive
  obtain ⟨hlast, hexp⟩ := live_eq_some.1 hlive
  exact ⟨record, hlast, hentry, StoredStateRecord.lt_expiresAt hexp⟩

theorem timely_step (inv : Traced index tr s) (h : s.step a = some (s', e)) {task : StoreTask}
    (hmem : task ∈ s'.inFlight) : StoreSystem.Timely s'.clock task := by
  obtain ⟨hclock, -, -⟩ := StoreSystem.step_store inv.shardIndex inv.timely h
  rcases StoreSystem.step_inFlight h hmem with hold | hnew
  · have ht := inv.timely task hold
    cases task with
    | pruning now i total => exact le_trans (show now ≤ s.clock from ht) hclock
    | _ => trivial
  · cases task with
    | pruning now i total =>
      rcases hnew with rfl | ⟨j, total', hold⟩
      · exact hclock
      · exact le_trans (inv.timely _ hold) hclock
    | _ => trivial

theorem dated_step (inv : Traced index tr s) (h : s.step a = some (s', e))
    {record : StoredStateRecord} (hmem : .inserting state record ∈ s'.inFlight) :
    ∃ entry ttl now, (.beginInsert state entry ttl, .silent) ∈ tr ++ [(a, e)] ∧
      record = StoredStateRecord.new entry ttl now := by
  rcases StoreSystem.step_inFlight h hmem with hold | ⟨entry, ttl, rfl, rfl⟩
  · obtain ⟨entry, ttl, now, hin, hrec⟩ := inv.dated state record hold
    exact ⟨entry, ttl, now, List.mem_append_left _ hin, hrec⟩
  · simp only [StoreSystem.step, Option.some.injEq, Prod.mk.injEq] at h
    obtain ⟨-, rfl⟩ := h
    exact ⟨entry, ttl, s.clock, by simp, rfl⟩

theorem step (inv : Traced index tr s) (h : s.step a = some (s', e)) :
    Traced index (tr ++ [(a, e)]) s' := by
  obtain ⟨hclock, hindex, hagree⟩ := StoreSystem.step_store inv.shardIndex inv.timely h
  refine ⟨hindex, fun _ => inv.timely_step h, ?_, fun _ _ => inv.dated_step h, fun k => ?_, fun k => ?_⟩
  · rw [lastRecord_snoc]
    exact hagree.trans ((inv.agree.mono persistent_isExpired hclock).overwrite _)
  · have hsome : e.isTakeOf k = true → (lastRecord index tr k).isSome = true := by
      intro ht
      cases e with
      | taken state r now =>
        cases r with
        | none => simp [StoreEvent.isTakeOf] at ht
        | some entry =>
          obtain rfl : state = k := by simpa [StoreEvent.isTakeOf] using ht
          obtain ⟨record, hlast, -, -⟩ := inv.exists_record h
          simp [hlast]
      | _ => simp [StoreEvent.isTakeOf] at ht
    have hbalance := StoreEvent.write_balance index (lastRecord index tr k) hsome
    have htakes := inv.takes k
    simp only [countEvents_snoc, lastRecord_snoc]
    omega
  · have hstep := StoreSystem.step_callbacks h k
    have hcallbacks := inv.callbacks k
    rw [countEvents_snoc, countEvents_snoc]
    omega

/-- Every run of the system is traced by the ideal map. -/
theorem of_exec {s₀ : StoreSystem} (h0 : s₀.Initial)
    (hr : Exec Exec.anyStep StoreSystem.step s₀ tr s) : Traced s₀.store.shardIndex tr s :=
  hr.invariant (fun tr s => Traced s₀.store.shardIndex tr s) (initial h0)
    fun _ _ _ _ _ inv _ h => inv.step h

end Traced

/-- An OAuth state is used at most once, however the operations on the store are interleaved. In
    every prefix of a run a token was taken with an entry at most as often as it was inserted; an
    entry that is taken is that of the latest insertion of the token, strictly before its deadline;
    and `handle_callback` entered `exchange_code` at most as often as the token was inserted. -/
theorem state_single_use {s₀ s : StoreSystem} (h0 : s₀.Initial)
    (hr : Exec Exec.anyStep StoreSystem.step s₀ tr s) (state : String) :
    (∀ pre, pre <+: tr →
      countEvents (StoreEvent.isTakeOf state) pre ≤ countEvents (StoreEvent.isInsertOf state) pre) ∧
    (∀ pre a entry now post, tr = pre ++ (a, .taken state (some entry) now) :: post →
      ∃ pre₁ a₁ record mid, pre = pre₁ ++ (a₁, .inserted state record (.ok ())) :: mid ∧
        (∀ x ∈ mid, x.2.isInsertOf state = false ∧ x.2.isTakeOf state = false) ∧
        (∃ ttl created, (.beginInsert state entry ttl, .silent) ∈ pre₁ ∧
          record = StoredStateRecord.new entry ttl created) ∧
        now < record.expiresAt) ∧
    (∀ pre, pre <+: tr →
      countEvents (StoreEvent.isExchangeOf state) pre ≤
        countEvents (StoreEvent.isInsertOf state) pre) := by
  refine ⟨fun pre hp => ?_, fun pre a entry now post htr => ?_, fun pre hp => ?_⟩
  · obtain ⟨s', hs'⟩ := hr.of_prefix hp
    have htakes := (Traced.of_exec h0 hs').takes state
    omega
  · obtain ⟨s₁, s₂, hpre, -, hstep⟩ := hr.split_at htr
    obtain ⟨record, hlast, hentry, hlt⟩ := (Traced.of_exec h0 hpre).exists_record hstep
    obtain ⟨pre₁, ⟨a₁, e₁⟩, mid, hsplit, hwrite, hmid⟩ := History.exists_write_of_latest hlast
    rw [StoreEvent.write_eq_some_some] at hwrite
    subst hwrite
    -- the insertion that wrote the record was in flight, dated by its own call
    obtain ⟨t₁, t₂, hpre₁, -, hinsert⟩ := hpre.split_at hsplit
    obtain ⟨entry', ttl, created, hbegin, hrecord⟩ :=
      (Traced.of_exec h0 hpre₁).dated state record (StoreSystem.step_inserted hinsert)
    obtain rfl : entry' = entry := by rw [← hentry, hrecord, StoredStateRecord.new]
    exact ⟨pre₁, a₁, record, mid, hsplit, fun x hx => StoreEvent.counts_of_write_none (hmid x hx),
      ⟨ttl, created, hbegin, hrecord⟩, hlt⟩
  · obtain ⟨s', hs'⟩ := hr.of_prefix hp
    have inv := Traced.of_exec h0 hs'
    have htakes := inv.takes state
    have hcallbacks := inv.callbacks state
    omega

namespace StoreSample

def entry : StoredStateEntry where
  state := "s"
  clientId := "c"
  codeVerifier := "v"
  dpopKey := { signingKey := { scalar := [1] } }
  issuer := "https://as"
  did := none
  handle := none
  redirectUri := "r"
  pdsEndpoint := "p"
  tokenEndpoint := "t"
  scopes := "atproto"
  createdAt := SystemTime.ofSecs 0
  expiresInSecs := 300

def ttl : Duration := Duration.fromSecs 300 Duration.five_minutes_lt

/-- An empty store whose hash function sends every token to the first shard. -/
def system : StoreSystem where
  store := OAuthStateStore.new (fun _ => 0) ttl
  clock := 0
  inFlight := []

def params : CallbackParams := { code := "x", state := "s", iss := some "https://as/" }

/-- A login and its callback, raced by a second take of the same token. -/
def actions : List StoreAction :=
  [.beginInsert "s" entry ttl, .insert "s" (StoredStateRecord.new entry ttl 0), .tick 1,
    .handleCallback params, .takeState "s", .finishCallback params (some entry) (SystemTime.ofSecs 1)]

theorem run_isSome : (Exec.run StoreSystem.step system actions).isSome := by rfl

def trace : List (StoreAction × StoreEvent) :=
  ((Exec.run StoreSystem.step system actions).get run_isSome).1

theorem initial_system : system.Initial := ⟨fun _ => rfl, rfl⟩

theorem exec_trace : ∃ s, Exec Exec.anyStep StoreSystem.step system trace s :=
  ⟨_, Exec.of_run .nil (Option.some_get run_isSome).symm⟩

end StoreSample

open StoreSample in
theorem state_single_use_sample :
    countEvents (StoreEvent.isTakeOf "s") trace = 1 ∧
      countEvents (StoreEvent.isExchangeOf "s") trace = 1 ∧
      countEvents (StoreEvent.isTakeOf "s") trace ≤ countEvents (StoreEvent.isInsertOf "s") trace ∧
      countEvents (StoreEvent.isExchangeOf "s") trace ≤
        countEvents (StoreEvent.isInsertOf "s") trace := by
  obtain ⟨s, hs⟩ := exec_trace
  obtain ⟨htakes, -, hexchanges⟩ := state_single_use initial_system hs "s"
  exact ⟨by rfl, by rfl, htakes _ List.prefix_rfl, hexchanges _ List.prefix_rfl⟩

end Skyauth
