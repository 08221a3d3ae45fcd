import Skyauth.DidKeyCache
import Skyauth.Lib.History

/-!
# Proofs: the cache of signing keys

What is found in the cache after each of its operations, and after any sequence of them: at most the
last key that was put in for a DID, in shards that stay bounded. A new DID pushes out what has expired;
it pushes out one more, the oldest, if its shard is full without that.
-/

namespace Skyauth

namespace DidKeyCache

variable {c : DidKeyCache} {did did' first : String} {key : AtprotoVerifyingKey} {now : UInt64}
  {entry : CachedSigningKey}

/-! ## Making room -/

/-- An entry that is oldest is in the shard, and none is older. -/
theorem isOldest_iff {shard : KeyShard} : shard.isOldest did = true ↔
    ∃ entry, shard.lookup did = some entry ∧
      ∀ did' entry', shard.lookup did' = some entry' → entry.resolvedAtSecs ≤ entry'.resolvedAtSecs := by
  simp only [KeyShard.isOldest, Option.any_eq_true_iff_get, List.all_eq_true, decide_eq_true_eq]
  constructor
  · rintro ⟨hsome, hall⟩
    refine ⟨(shard.lookup did).get hsome, (Option.some_get hsome).symm, fun did' entry' h => ?_⟩
    exact hall ⟨did', entry'⟩ (AList.mem_entries_iff.2 h)
  · rintro ⟨entry, hentry, hmin⟩
    refine ⟨by rw [hentry]; rfl, fun other hother => ?_⟩
    simp only [hentry, Option.get_some]
    exact hmin other.1 other.2 (AList.mem_entries_iff.1 hother)

/-- The search for an oldest entry finds one, unless there is nothing to search. -/
theorem exists_oldest {shard : KeyShard} (h : 0 < shard.size) (first : String) :
    ∃ did, shard.oldest first = some did ∧ shard.isOldest did = true := by
  unfold KeyShard.oldest
  split
  · rename_i hfirst
    exact ⟨first, rfl, hfirst⟩
  · obtain ⟨did, entry, hentry, hmin⟩ := AList.exists_min (fun e => e.resolvedAtSecs.toNat) h
    have hold : shard.isOldest did = true := isOldest_iff.2
      ⟨entry, hentry, fun did' entry' h' => UInt64.le_iff_toNat_le.2 (hmin did' entry' h')⟩
    cases hfind : shard.entries.find? fun entry => shard.isOldest entry.1 with
    | none =>
      exact absurd hold (List.find?_eq_none.1 hfind ⟨did, entry⟩ (AList.mem_entries_iff.2 hentry))
    | some found =>
      have hfound := List.find?_some hfind
      exact ⟨found.1, rfl, hfound⟩

/-- The part of a shard that has not expired. -/
def unexpired (c : DidKeyCache) (shard : KeyShard) (now : UInt64) : KeyShard :=
  Expiring.prune (CachedSigningKey.isExpired c.ttlSecs) now shard

theorem lookup_unexpired {shard : KeyShard} : (c.unexpired shard now).lookup did = some entry ↔
    shard.lookup did = some entry ∧ entry.isExpired c.ttlSecs now = false := by
  rw [unexpired, Expiring.lookup_prune, Expiring.live_eq_some]

/-- The three ways in which there comes to be room: there was, what has expired goes, or one of the
    oldest goes with it. -/
theorem makeRoom_cases (c : DidKeyCache) (shard : KeyShard) (did : String) (now : UInt64) (first : String) :
    ((shard.size < MAX_DID_KEY_CACHE_PER_SHARD ∨ did ∈ shard) ∧ c.makeRoom shard did now first = shard) ∨
    (did ∉ shard ∧ (c.unexpired shard now).size < MAX_DID_KEY_CACHE_PER_SHARD ∧
      c.makeRoom shard did now first = c.unexpired shard now) ∨
    (did ∉ shard ∧ MAX_DID_KEY_CACHE_PER_SHARD ≤ (c.unexpired shard now).size ∧
      ∃ old, (c.unexpired shard now).isOldest old = true ∧
        c.makeRoom shard did now first = (c.unexpired shard now).erase old) := by
  simp only [makeRoom]
  split
  · rename_i hfull
    refine Or.inr ?_
    split
    · rename_i hkept
      obtain ⟨old, hold, hmin⟩ := exists_oldest (lt_of_lt_of_le (by decide) hkept) first
      rw [hold]
      exact Or.inr ⟨hfull.2, hkept, old, hmin, rfl⟩
    · rename_i hkept
      exact Or.inl ⟨hfull.2, Nat.lt_of_not_le hkept, rfl⟩
  · rename_i hroom
    rw [not_and_or, not_le, not_not] at hroom
    exact Or.inl ⟨hroom, rfl⟩

theorem lookup_of_makeRoom {shard : KeyShard} (h : (c.makeRoom shard did now first).lookup did' = some entry) :
    shard.lookup did' = some entry := by
  rcases c.makeRoom_cases shard did now first with ⟨-, heq⟩ | ⟨-, -, heq⟩ | ⟨-, -, old, -, heq⟩
  · rwa [heq] at h
  · rw [heq] at h
    exact (lookup_unexpired.1 h).1
  · rw [heq] at h
    exact (lookup_unexpired.1 (AList.lookup_of_lookup_erase h)).1

/-! ## What is found -/

/-- The entry that is made for a key. -/
def newEntry (key : AtprotoVerifyingKey) (now : UInt64) : CachedSigningKey where
  verifyingKey := match key with
    | .secp256k1 k => some k
    | .p256 _ => none
  atprotoKey := key
  resolvedAtSecs := now

/-- The new entry, and for other DIDs what is left when there is room. -/
theorem find_insertAtprotoKey_eq (c : DidKeyCache) (did : String) (key : AtprotoVerifyingKey)
    (now : UInt64) (first : String) :
    (c.insertAtprotoKey did key now first).find = Function.update
      (Sharded.find c.shardIdx (Function.update c.shards (c.shardIdx did)
        (c.makeRoom (c.shards (c.shardIdx did)) did now first))) did (some (newEntry key now)) :=
  Sharded.find_update_insert

/-- An entry after `insert_atproto_key` is the new one or was there before. -/
theorem find_insertAtprotoKey (h : (c.insertAtprotoKey did key now first).find did' = some entry) :
    (did' = did ∧ entry = newEntry key now) ∨ did' ≠ did ∧ c.find did' = some entry := by
  rw [find_insertAtprotoKey_eq] at h
  by_cases hd : did' = did
  · rw [hd, Function.update_self, Option.some.injEq] at h
    exact Or.inl ⟨hd, h.symm⟩
  · rw [Function.update_of_ne hd] at h
    exact Or.inr ⟨hd, Sharded.find_of_find_update (fun _ _ => lookup_of_makeRoom) h⟩

/-- Another DID is found in what is left of its shard. -/
theorem find_insertAtprotoKey_of_ne (hne : did' ≠ did) :
    (c.insertAtprotoKey did key now first).find did' =
      if c.shardIdx did' = c.shardIdx did then
        (c.makeRoom (c.shards (c.shardIdx did)) did now first).lookup did'
      else c.find did' := by
  rw [find_insertAtprotoKey_eq, Function.update_of_ne hne, Sharded.find_update]
  rfl

/-- A key that is put in is found until its lifetime is over. -/
theorem getAtprotoKey_insertAtprotoKey {nowSecs : UInt64}
    (h : nowSecs.toNat - now.toNat < c.ttlSecs.toNat) :
    (c.insertAtprotoKey did key now first).getAtprotoKey did nowSecs = some key := by
  have hfresh : (newEntry key now).isExpired c.ttlSecs nowSecs = false := by
    rw [CachedSigningKey.isExpired, decide_eq_false_iff_not]
    exact Nat.not_le.2 h
  rw [getAtprotoKey, live, find_insertAtprotoKey_eq, Function.update_self, Option.filter_some, if_pos]
  · rfl
  · rw [Bool.not_eq_true']
    exact hfresh

theorem find_invalidate : (c.invalidate did).find = Function.update c.find did none :=
  Sharded.find_update_erase

theorem find_new (hasher : String → UInt64) (ttl : UInt64) : (new hasher ttl).find did = none := rfl

theorem getAtprotoKey_eq_some (h : c.getAtprotoKey did now = some key) :
    ∃ entry, c.find did = some entry ∧ entry.atprotoKey = key ∧
      now.toNat < entry.resolvedAtSecs.toNat + c.ttlSecs.toNat := by
  obtain ⟨entry, hlive, rfl⟩ := Option.map_eq_some_iff.1 h
  obtain ⟨hfind, hage⟩ := Option.filter_eq_some_iff.1 hlive
  refine ⟨entry, hfind, rfl, ?_⟩
  rw [CachedSigningKey.isExpired, Bool.not_eq_true', decide_eq_false_iff_not] at hage
  omega

theorem getAtprotoKey_eq_none (h : c.find did = none) : c.getAtprotoKey did now = none := by
  rw [getAtprotoKey, live, h]
  rfl

/-! ## Room -/

theorem shards_insertAtprotoKey (i : Fin NUM_SHARDS) :
    (c.insertAtprotoKey did key now first).shards i =
      if i = c.shardIdx did then
        (c.makeRoom (c.shards i) did now first).insert did (newEntry key now)
      else c.shards i := by
  by_cases hi : i = c.shardIdx did
  · rw [if_pos hi, hi]
    exact Function.update_self ..
  · rw [if_neg hi]
    exact Function.update_of_ne hi ..

theorem size_insert_makeRoom {shard : KeyShard} (h : shard.size ≤ MAX_DID_KEY_CACHE_PER_SHARD) :
    ((c.makeRoom shard did now first).insert did entry).size ≤ MAX_DID_KEY_CACHE_PER_SHARD := by
  have hle := AList.size_insert_le (c.makeRoom shard did now first) did entry
  have hkept : (c.unexpired shard now).size ≤ shard.size := Expiring.size_prune_le shard
  rcases c.makeRoom_cases shard did now first with ⟨hroom, heq⟩ | ⟨-, hroom, heq⟩ | ⟨-, -, old, hold, heq⟩
  · rw [heq] at hle ⊢
    rcases hroom with hroom | hmem
    · omega
    · rw [AList.size_insert_of_mem _ hmem]
      exact h
  · rw [heq] at hle ⊢
    omega
  · obtain ⟨oldest, hlookup, -⟩ := isOldest_iff.1 hold
    have hmem : old ∈ c.unexpired shard now := AList.lookup_isSome.1 (by rw [hlookup]; rfl)
    have herase := AList.size_erase_of_mem hmem
    rw [heq] at hle ⊢
    omega

theorem mem_shard_iff : did ∈ c.shards (c.shardIdx did) ↔ c.find did ≠ none := by
  rw [← AList.lookup_isSome, ← Option.ne_none_iff_isSome]
  rfl

theorem find_of_shardIdx_eq {i : Fin NUM_SHARDS} (h : c.shardIdx did = i) :
    c.find did = (c.shards i).lookup did := by
  subst h
  rfl

/-- A DID that is there already takes the place it has. -/
theorem find_insertAtprotoKey_of_mem (hmem : c.find did ≠ none) (hne : did' ≠ did) :
    (c.insertAtprotoKey did key now first).find did' = c.find did' := by
  have hmem : did ∈ c.shards (c.shardIdx did) := mem_shard_iff.2 hmem
  have hroom : c.makeRoom (c.shards (c.shardIdx did)) did now first = c.shards (c.shardIdx did) := by
    rcases c.makeRoom_cases (c.shards (c.shardIdx did)) did now first with
      ⟨-, heq⟩ | ⟨hnew, -⟩ | ⟨hnew, -⟩
    · exact heq
    · exact absurd hmem hnew
    · exact absurd hmem hnew
  rw [find_insertAtprotoKey_of_ne hne, hroom]
  split
  · rename_i hi
    rw [find_of_shardIdx_eq hi]
  · rfl

/-! ## Eviction -/

/-- Every entry is in the shard of its DID. -/
def AtHome (c : DidKeyCache) : Prop :=
  ∀ i did entry, (c.shards i).lookup did = some entry → c.shardIdx did = i

/-- An entry that has not expired and is not found any more once a DID has been put in. -/
def Evicts (c : DidKeyCache) (did : String) (key : AtprotoVerifyingKey) (now : UInt64) (first : String)
    (old : String) (entry : CachedSigningKey) : Prop :=
  c.find old = some entry ∧ entry.isExpired c.ttlSecs now = false ∧
    (c.insertAtprotoKey did key now first).find old ≠ some entry

/-- The shard of a DID has 512 entries that have not expired. -/
def IsFull (c : DidKeyCache) (did : String) (now : UInt64) : Prop :=
  (c.unexpired (c.shards (c.shardIdx did)) now).size = MAX_DID_KEY_CACHE_PER_SHARD

/-- Evicted is what has not expired and does not pass through `make_room`. -/
theorem evicts_iff (hhome : c.AtHome) (hnew : c.find did = none) {old : String} :
    c.Evicts did key now first old entry ↔
      (c.unexpired (c.shards (c.shardIdx did)) now).lookup old = some entry ∧
        (c.makeRoom (c.shards (c.shardIdx did)) did now first).lookup old ≠ some entry := by
  have hother : c.find old = some entry → old ≠ did := by
    rintro hfind rfl
    rw [hnew] at hfind
    cases hfind
  rw [lookup_unexpired]
  constructor
  · rintro ⟨hfind, hfresh, hgone⟩
    rw [find_insertAtprotoKey_of_ne (hother hfind)] at hgone
    split at hgone
    · rename_i hi
      rw [find_of_shardIdx_eq hi] at hfind
      exact ⟨⟨hfind, hfresh⟩, hgone⟩
    · exact absurd hfind hgone
  · rintro ⟨⟨hlookup, hfresh⟩, hgone⟩
    have hi := hhome _ _ _ hlookup
    have hfind : c.find old = some entry := by rw [find_of_shardIdx_eq hi, hlookup]
    refine ⟨hfind, hfresh, ?_⟩
    rw [find_insertAtprotoKey_of_ne (hother hfind), if_pos hi]
    exact hgone

/-- An eviction takes a full shard. -/
theorem Evicts.isFull (hhome : c.AtHome) (hbound : ∀ i, (c.shards i).size ≤ MAX_DID_KEY_CACHE_PER_SHARD)
    (hnew : c.find did = none) {old : String} (h : c.Evicts did key now first old entry) :
    c.IsFull did now := by
  obtain ⟨hfresh, hgone⟩ := (evicts_iff hhome hnew).1 h
  rcases c.makeRoom_cases (c.shards (c.shardIdx did)) did now first with
    ⟨-, heq⟩ | ⟨-, -, heq⟩ | ⟨-, hfull, -⟩
  · rw [heq] at hgone
    exact absurd (lookup_unexpired.1 hfresh).1 hgone
  · rw [heq] at hgone
    exact absurd hfresh hgone
  · have hle : (c.unexpired (c.shards (c.shardIdx did)) now).size ≤ (c.shards (c.shardIdx did)).size :=
      Expiring.size_prune_le _
    exact Nat.le_antisymm (hle.trans (hbound _)) hfull

/-- A full shard loses one entry, and none of the others is older. -/
theorem IsFull.evicts (hhome : c.AtHome) (hbound : ∀ i, (c.shards i).size ≤ MAX_DID_KEY_CACHE_PER_SHARD)
    (hnew : c.find did = none) (hfull : c.IsFull did now) (key : AtprotoVerifyingKey) (first : String) :
    ∃ old entry, c.Evicts did key now first old entry ∧
      (∀ old' entry', c.Evicts did key now first old' entry' → old' = old) ∧
      ∀ did' entry', (c.shards (c.shardIdx did)).lookup did' = some entry' →
        entry.resolvedAtSecs ≤ entry'.resolvedAtSecs := by
  -- nothing in the shard has expired
  have hall : c.unexpired (c.shards (c.shardIdx did)) now = c.shards (c.shardIdx did) :=
    AList.retain_eq_self_of_size_le ((hbound _).trans (Nat.le_of_eq hfull.symm))
  have hnotMem : did ∉ c.shards (c.shardIdx did) := fun hmem => mem_shard_iff.1 hmem hnew
  rcases c.makeRoom_cases (c.shards (c.shardIdx did)) did now first with
    ⟨hroom, -⟩ | ⟨-, hroom, -⟩ | ⟨-, -, old, hold, heq⟩
  · rw [IsFull, hall] at hfull
    rcases hroom with hroom | hmem
    · omega
    · exact absurd hmem hnotMem
  · rw [IsFull] at hfull
    omega
  · obtain ⟨entry, hentry, hmin⟩ := isOldest_iff.1 hold
    refine ⟨old, entry, (evicts_iff hhome hnew).2 ⟨hentry, ?_⟩, fun old' entry' h => ?_, ?_⟩
    · rw [heq, AList.lookup_erase]
      exact (Option.some_ne_none entry).symm
    · obtain ⟨hentry', hgone⟩ := (evicts_iff hhome hnew).1 h
      by_contra hne
      rw [heq, AList.lookup_erase_ne hne] at hgone
      exact hgone hentry'
    · rw [hall] at hmin
      exact hmin

/-! ## Sequences of calls -/

end DidKeyCache

/-- What a call writes for a DID: a key with its time, nothing, or it leaves alone what is there. -/
def KeyCacheCall.write (did : String) : KeyCacheCall → Option (Option (AtprotoVerifyingKey × UInt64))
  | .insertAtprotoKey did' key nowSecs _ => if did' = did then some (some (key, nowSecs)) else none
  | .invalidate did' => if did' = did then some none else none
  | .get _ _ => none
  | .getAtprotoKey _ _ => none

/-- The key that was last put in for a DID since it was last invalidated, with its time. -/
def lastKey (calls : List KeyCacheCall) (did : String) : Option (AtprotoVerifyingKey × UInt64) :=
  History.latest (KeyCacheCall.write did) calls

theorem lastKey_silent {calls : List KeyCacheCall} {call : KeyCacheCall} {did : String}
    (h : call.write did = none) : lastKey (calls ++ [call]) did = lastKey calls did :=
  History.latest_snoc_of_silent h

namespace DidKeyCache

variable {c : DidKeyCache} {did first : String} {key : AtprotoVerifyingKey} {now : UInt64}
  {calls : List KeyCacheCall}

/-- What holds of the cache after a sequence of calls. -/
structure Inv (calls : List KeyCacheCall) (c : DidKeyCache) : Prop where
  home : c.AtHome
  bounded : ∀ i, (c.shards i).size ≤ MAX_DID_KEY_CACHE_PER_SHARD
  /-- An entry is the one that was last written, in both of its forms. -/
  last : ∀ did entry, c.find did = some entry →
    ∃ key now, lastKey calls did = some (key, now) ∧ entry = newEntry key now

theorem Inv.nil (hasher : String → UInt64) (ttl : UInt64) : Inv [] (new hasher ttl) where
  home := fun _ _ _ h => by cases h
  bounded := fun _ => Nat.zero_le _
  last := fun _ _ h => by cases h

theorem AtHome.setShard (hhome : c.AtHome) {i : Fin NUM_SHARDS} {shard : KeyShard}
    (h : ∀ did entry, shard.lookup did = some entry → c.shardIdx did = i) : (c.setShard i shard).AtHome := by
  intro j did entry hlookup
  show c.shardIdx did = j
  have hlookup : (Function.update c.shards i shard j).lookup did = some entry := hlookup
  by_cases hj : j = i
  · subst hj
    rw [Function.update_self] at hlookup
    exact h did entry hlookup
  · rw [Function.update_of_ne hj] at hlookup
    exact hhome j did entry hlookup

theorem Inv.insertAtprotoKey (h : Inv calls c) (did : String)
    (key : AtprotoVerifyingKey) (now : UInt64) (first : String) :
    Inv (calls ++ [.insertAtprotoKey did key now first]) (c.insertAtprotoKey did key now first) where
  home := by
    refine h.home.setShard fun did' entry hlookup => ?_
    rcases AList.lookup_of_lookup_insert hlookup with ⟨rfl, -⟩ | hkept
    · rfl
    · exact h.home _ _ _ (lookup_of_makeRoom hkept)
  bounded := by
    intro i
    rw [shards_insertAtprotoKey]
    split
    · exact size_insert_makeRoom (h.bounded i)
    · exact h.bounded i
  last := by
    intro did' entry hfind
    rcases find_insertAtprotoKey hfind with ⟨rfl, rfl⟩ | ⟨hne, hold⟩
    · refine ⟨key, now, ?_, rfl⟩
      rw [lastKey, History.latest_snoc, KeyCacheCall.write, if_pos rfl, Option.getD_some]
    · obtain ⟨key', now', hlast, rfl⟩ := h.last did' entry hold
      have hsilent : (KeyCacheCall.insertAtprotoKey did key now first).write did' = none :=
        if_neg (Ne.symm hne)
      exact ⟨key', now', by rw [lastKey_silent hsilent, hlast], rfl⟩

theorem Inv.invalidate (h : Inv calls c) (did : String) :
    Inv (calls ++ [.invalidate did]) (c.invalidate did) where
  home := h.home.setShard fun did' entry hlookup =>
    h.home _ _ _ (AList.lookup_of_lookup_erase hlookup)
  bounded := by
    intro i
    show (Function.update c.shards (c.shardIdx did) _ i).size ≤ _
    by_cases hi : i = c.shardIdx did
    · rw [hi, Function.update_self]
      exact (AList.size_erase_le _ _).trans (h.bounded _)
    · rw [Function.update_of_ne hi]
      exact h.bounded i
  last := by
    intro did' entry hfind
    rw [find_invalidate] at hfind
    by_cases hd : did' = did
    · rw [hd, Function.update_self] at hfind
      cases hfind
    · rw [Function.update_of_ne hd] at hfind
      obtain ⟨key, now, hlast, rfl⟩ := h.last did' entry hfind
      have hsilent : (KeyCacheCall.invalidate did).write did' = none := if_neg (Ne.symm hd)
      exact ⟨key, now, by rw [lastKey_silent hsilent, hlast], rfl⟩

theorem Inv.read (h : Inv calls c) {call : KeyCacheCall}
    (hread : ∀ did, call.write did = none) : Inv (calls ++ [call]) c where
  home := h.home
  bounded := h.bounded
  last := by
    intro did entry hfind
    obtain ⟨key, now, hlast, rfl⟩ := h.last did entry hfind
    exact ⟨key, now, by rw [lastKey_silent (hread did), hlast], rfl⟩

/-- One call keeps the invariant. -/
theorem Inv.after (h : Inv calls c) (call : KeyCacheCall) :
    Inv (calls ++ [call]) (c.after call) := by
  cases call with
  | insertAtprotoKey did key now first => exact h.insertAtprotoKey did key now first
  | get did now => exact h.read fun _ => rfl
  | getAtprotoKey did now => exact h.read fun _ => rfl
  | invalidate did => exact h.invalidate did

theorem inv_run (hasher : String → UInt64) (ttl : UInt64) (calls : List KeyCacheCall) :
    Inv calls ((new hasher ttl).run calls) := by
  induction calls using List.reverseRecOn with
  | nil => exact Inv.nil hasher ttl
  | append_singleton calls call ih =>
    rw [run, List.foldl_append]
    exact ih.after call

theorem ttlSecs_run (c : DidKeyCache) (calls : List KeyCacheCall) : (c.run calls).ttlSecs = c.ttlSecs := by
  induction calls using List.reverseRecOn with
  | nil => rfl
  | append_singleton calls call ih =>
    rw [run, List.foldl_append, ← ih]
    cases call <;> rfl

/-- The two forms of a key are read together. -/
theorem get_eq_some_iff (h : Inv calls c) {k : Secp256k1VerifyingKey} :
    c.get did now = some k ↔ c.getAtprotoKey did now = some (.secp256k1 k) := by
  rw [get, getAtprotoKey]
  cases hlive : c.live did now with
  | none => simp
  | some entry =>
    obtain ⟨key, resolvedAt, -, rfl⟩ := h.last did entry (Option.filter_eq_some_iff.1 hlive).1
    cases key <;> simp [newEntry]

/-- After any sequence of calls: what is read is the last key that was put in and not invalidated, and
    its lifetime is not over; both ways of reading agree; a shard has at most 512 entries; a DID that is
    there is put in without a loss; a new one costs an entry that has not expired only if its shard is full
    of such, and then one that is oldest. -/
theorem didKeyCache_run (hasher : String → UInt64) (ttl : UInt64) (calls : List KeyCacheCall)
    (did : String) (key : AtprotoVerifyingKey) (now : UInt64) (first : String) :
    let c := (new hasher ttl).run calls
    (∀ k, c.getAtprotoKey did now = some k →
      ∃ resolvedAt, lastKey calls did = some (k, resolvedAt) ∧ now.toNat - resolvedAt.toNat < ttl.toNat) ∧
    (∀ k, c.get did now = some k ↔ c.getAtprotoKey did now = some (.secp256k1 k)) ∧
    (∀ i, (c.shards i).size ≤ 512) ∧
    (c.find did ≠ none → ∀ did' ≠ did,
      (c.insertAtprotoKey did key now first).find did' = c.find did') ∧
    (c.find did = none →
      ((∃ old entry, c.Evicts did key now first old entry) → c.IsFull did now) ∧
      (c.IsFull did now → ∃ old entry, c.Evicts did key now first old entry ∧
        (∀ old' entry', c.Evicts did key now first old' entry' → old' = old) ∧
        ∀ did' entry', (c.shards (c.shardIdx did)).lookup did' = some entry' →
          entry.resolvedAtSecs ≤ entry'.resolvedAtSecs)) := by
  intro c
  have hinv : Inv calls c := inv_run hasher ttl calls
  have httl : c.ttlSecs = ttl := ttlSecs_run (new hasher ttl) calls
  refine ⟨fun k hk => ?_, fun k => get_eq_some_iff hinv, hinv.bounded,
    fun hmem did' hne => find_insertAtprotoKey_of_mem hmem hne, fun hnew => ⟨?_, fun hfull => ?_⟩⟩
  · obtain ⟨entry, hlive, rfl⟩ := Option.map_eq_some_iff.1 hk
    obtain ⟨hfind, hage⟩ := Option.filter_eq_some_iff.1 hlive
    obtain ⟨key', resolvedAt, hlast, rfl⟩ := hinv.last did entry hfind
    refine ⟨resolvedAt, hlast, ?_⟩
    rw [CachedSigningKey.isExpired, Bool.not_eq_true', decide_eq_false_iff_not, httl] at hage
    exact Nat.lt_of_not_le hage
  · rintro ⟨old, entry, hevicts⟩
    exact hevicts.isFull hinv.home hinv.bounded hnew
  · exact hfull.evicts hinv.home hinv.bounded hnew key first

end DidKeyCache

end Skyauth
