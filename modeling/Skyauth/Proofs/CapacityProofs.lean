import Skyauth.Proofs.StoreProofs
import Skyauth.Lib.Machine

/-!
# Proofs: the admission bound of the state store

No operation leaves a shard with more than `SHARD_ADMISSION_CAPACITY` records. An insertion that fails
has therefore found as many records that are all unexpired, so that its pruning pass dropped nothing:
the store it leaves is the one it found.
-/

namespace Skyauth

open StoredStateRecord (isExpired)

namespace OAuthStateStore

variable {s : OAuthStateStore} {state : String} {record : StoredStateRecord} {now : Instant}
  {i : Fin NUM_SHARDS} {shard : StateShard}

/-- Every shard is within the admission bound. -/
def Bounded (s : OAuthStateStore) : Prop := ∀ i, (s.shards i).size ≤ SHARD_ADMISSION_CAPACITY

/-- The unexpired records of a shard. -/
def unexpired (s : OAuthStateStore) (i : Fin NUM_SHARDS) (now : Instant) : Nat :=
  (s.shards i).entries.countP fun e => !e.2.isExpired now

theorem size_prune_eq_unexpired :
    (Expiring.prune isExpired now (s.shards i)).size = s.unexpired i now :=
  List.countP_eq_length_filter.symm

theorem unexpired_le_size : s.unexpired i now ≤ (s.shards i).size := List.countP_le_length

theorem size_makeRoom_le (shard : StateShard) (now : Instant) :
    (makeRoom shard now).size ≤ shard.size := by
  unfold makeRoom
  split
  · exact Expiring.size_prune_le _
  · exact le_refl _

theorem Bounded.setShard (h : s.Bounded) (hshard : shard.size ≤ SHARD_ADMISSION_CAPACITY) :
    (s.setShard i shard).Bounded := by
  intro j
  show (Function.update s.shards i shard j).size ≤ SHARD_ADMISSION_CAPACITY
  by_cases hj : j = i
  · subst hj
    rw [Function.update_self]
    exact hshard
  · rw [Function.update_of_ne hj]
    exact h j

theorem Bounded.insertRecord (h : s.Bounded) : (s.insertRecord state record now).2.Bounded := by
  simp only [OAuthStateStore.insertRecord]
  by_cases hfull : SHARD_ADMISSION_CAPACITY ≤ (makeRoom (s.shards (s.shardIndex state)) now).size
  · rw [if_pos hfull]
    exact h.setShard ((size_makeRoom_le _ _).trans (h _))
  · rw [if_neg hfull]
    exact h.setShard ((AList.size_insert_le _ _ _).trans (Nat.lt_of_not_le hfull))

theorem Bounded.takeStateSync (h : s.Bounded) : (s.takeStateSync state now).2.Bounded := by
  simp only [OAuthStateStore.takeStateSync]
  split
  · exact h
  · exact h.setShard ((AList.size_erase_le _ _).trans (h _))

theorem Bounded.pruneShard (h : s.Bounded) : (s.pruneShard now i).2.Bounded :=
  h.setShard ((Expiring.size_prune_le _).trans (h i))

theorem Bounded.clearShard (h : s.Bounded) : (s.clearShard i).Bounded := h.setShard (Nat.zero_le _)

theorem Bounded.pruneExpiredSync (h : s.Bounded) : (s.pruneExpiredSync now).2.Bounded := by
  unfold OAuthStateStore.pruneExpiredSync
  generalize List.finRange NUM_SHARDS = shards, 0 = total
  induction shards generalizing s total with
  | nil => exact h
  | cons i shards ih => exact ih h.pruneShard _

theorem Bounded.clear (h : s.Bounded) : s.clear.Bounded := by
  unfold OAuthStateStore.clear
  generalize List.finRange NUM_SHARDS = shards
  induction shards generalizing s with
  | nil => exact h
  | cons i shards ih => exact ih h.clearShard

theorem Bounded.apply (h : s.Bounded) (op : StoreOp) : (s.apply op).2.Bounded := by
  cases op with
  | insertStateSync state entry ttl created now => exact h.insertRecord
  | takeStateSync state now => exact h.takeStateSync
  | containsStateSync state now => exact h
  | pruneExpiredSync now => exact h.pruneExpiredSync
  | clear => exact h.clear

theorem Bounded.outputs (h : s.Bounded) (ops : List StoreOp) :
    (Machine.outputs OAuthStateStore.apply s ops).2.Bounded := by
  induction ops generalizing s with
  | nil => exact h
  | cons op ops ih => exact ih (h.apply op)

/-- A crowded shard has room again unless all its records are unexpired. -/
theorem le_size_makeRoom_iff (h : s.Bounded) :
    SHARD_ADMISSION_CAPACITY ≤ (makeRoom (s.shards i) now).size ↔
      s.unexpired i now = SHARD_ADMISSION_CAPACITY := by
  have hsize := h i
  have hle : s.unexpired i now ≤ (s.shards i).size := unexpired_le_size
  unfold makeRoom
  by_cases hcrowded : SHARD_ADMISSION_CAPACITY ≤ (s.shards i).size
  · rw [if_pos hcrowded, size_prune_eq_unexpired]
    omega
  · rw [if_neg hcrowded]
    omega

theorem makeRoom_eq_self (h : s.Bounded)
    (hfull : SHARD_ADMISSION_CAPACITY ≤ (makeRoom (s.shards i) now).size) :
    makeRoom (s.shards i) now = s.shards i := by
  unfold makeRoom at hfull ⊢
  by_cases hcrowded : SHARD_ADMISSION_CAPACITY ≤ (s.shards i).size
  · rw [if_pos hcrowded] at hfull ⊢
    exact AList.retain_eq_self_of_size_le ((h i).trans hfull)
  · rw [if_neg hcrowded]

/-- The two outcomes of an insertion into a store within its bound. -/
theorem insertRecord_cases (h : s.Bounded) :
    (s.unexpired (s.shardIndex state) now = SHARD_ADMISSION_CAPACITY ∧
        s.insertRecord state record now =
          (.error (.capacityExceeded SHARD_ADMISSION_CAPACITY), s)) ∨
      s.unexpired (s.shardIndex state) now ≠ SHARD_ADMISSION_CAPACITY ∧
        (s.insertRecord state record now).1 = .ok () := by
  simp only [OAuthStateStore.insertRecord]
  by_cases hfull : SHARD_ADMISSION_CAPACITY ≤ (makeRoom (s.shards (s.shardIndex state)) now).size
  · rw [if_pos hfull, makeRoom_eq_self h hfull]
    refine Or.inl ⟨(le_size_makeRoom_iff h).1 hfull, ?_⟩
    simp only [setShard, Function.update_eq_self]
  · rw [if_neg hfull]
    exact Or.inr ⟨fun hcount => hfull ((le_size_makeRoom_iff h).2 hcount), rfl⟩

end OAuthStateStore

open OAuthStateStore in
/-- The admission bound. After any operations no shard is above its bound, an insertion fails exactly if
    its shard holds as many unexpired records as the bound allows, and one that fails leaves the store
    as it was, so that whatever is called afterwards answers as if it had not been attempted. -/
theorem store_admission_bound (hasher : String → UInt64) (defaultTtl : Duration) (ops later : List StoreOp)
    (state : String) (entry : StoredStateEntry) (ttl : Duration) (created now : Instant) :
    let s := (Machine.outputs apply (new hasher defaultTtl) ops).2
    let inserted := s.insertStateSync state entry ttl created now
    (∀ i, (s.shards i).size ≤ SHARD_ADMISSION_CAPACITY) ∧
      (inserted.1 = .error (.capacityExceeded SHARD_ADMISSION_CAPACITY) ↔
        s.unexpired (s.shardIndex state) now = SHARD_ADMISSION_CAPACITY) ∧
      (inserted.1 ≠ .ok () → inserted.2 = s ∧
        (Machine.outputs apply inserted.2 later).1 = (Machine.outputs apply s later).1) := by
  intro s inserted
  have hnew : Bounded (new hasher defaultTtl) := fun _ => Nat.zero_le _
  have hs : s.Bounded := hnew.outputs ops
  refine ⟨hs, ?_⟩
  rcases insertRecord_cases hs with ⟨hcount, hins⟩ | ⟨hcount, hok⟩
  · have hinserted : inserted = (.error (.capacityExceeded SHARD_ADMISSION_CAPACITY), s) := hins
    rw [hinserted]
    exact ⟨⟨fun _ => hcount, fun _ => rfl⟩, fun _ => ⟨rfl, rfl⟩⟩
  · have hinserted : inserted.1 = .ok () := hok
    rw [hinserted]
    refine ⟨⟨fun herror => ?_, fun hfull => absurd hfull hcount⟩, fun hne => absurd rfl hne⟩
    cases herror

/-! ## Interleaved critical sections -/

namespace StoreSystem

variable {s s' s₀ : StoreSystem} {a : StoreAction} {e : StoreEvent}

theorem bounded_step (hb : s.store.Bounded) (h : s.step a = some (s', e)) : s'.store.Bounded := by
  cases stepped h with
  | tick | beginInsert | containsState | beginPrune | beginClear | exchanged | rejected => exact hb
  | insert => exact hb.insertRecord
  | takeState | handleCallback => exact hb.takeStateSync
  | pruneShard => exact hb.pruneShard
  | clearShard => exact hb.clearShard

/-- The same bound under every interleaving: a failing insertion only ends its own task. -/
theorem insert_error_of_exec {tr : List (StoreAction × StoreEvent)} (h0 : s₀.Initial)
    (hr : Exec Exec.anyStep StoreSystem.step s₀ tr s) :
    s.store.Bounded ∧ ∀ state record err s',
      s.step (.insert state record) = some (s', .inserted state record (.error err)) →
        s' = { s with inFlight := s.inFlight.erase (.inserting state record) } := by
  have hb : s.store.Bounded := by
    refine hr.invariant (fun _ s => s.store.Bounded) ?_ fun _ _ _ _ _ hb _ hstep => bounded_step hb hstep
    intro i
    rw [h0.empty i]
    exact Nat.zero_le _
  refine ⟨hb, fun state record err s' h => ?_⟩
  simp only [step] at h
  split at h
  · simp only [Option.some.injEq, Prod.mk.injEq, StoreEvent.inserted.injEq] at h
    obtain ⟨rfl, -, -, herr⟩ := h
    rcases OAuthStateStore.insertRecord_cases hb with ⟨-, hins⟩ | ⟨-, hok⟩
    · rw [hins]
    · rw [hok] at herr
      cases herr
  · cases h

end StoreSystem

end Skyauth
