import Skyauth.ReplayCache
import Skyauth.Lib.Sharded
import Skyauth.Lib.Machine

/-!
# Proofs: the replay cache refines the ideal replay map

The cache forgets entries in three places (the amortised pass, the pass of a full shard, and
`prune_expired`), spreads them over shards and keys them by one concatenated string. None of this can
be observed while the `now_secs` arguments do not go backwards: every operation answers as the ideal
map does. Every pruning pass drops dead entries only, so the two maps agree on what is live
(`Expiring.AgreeAt`), and the live entries of a shard are counted by the pairs that hash to it.
-/

namespace Skyauth

open Expiring

namespace DPoPReplayCache

variable {c : DPoPReplayCache} {jkt jti key : String} {exp now t : Nat} {i : Fin NUM_SHARDS}

theorem persistent_expiredAt : Persistent expiredAt := by
  intro v t t' htt h
  simp only [expiredAt, decide_eq_true_eq] at h ⊢
  omega

theorem any_live (o : Option Nat) (now : Nat) :
    o.any (fun exp => now < exp) = (live expiredAt now o).isSome := by
  cases o with
  | none => rfl
  | some exp =>
    by_cases h : now < exp
    · rw [live_some_of_not_expired (by simp [expiredAt, h])]
      simp [h]
    · rw [live_some_of_expired (by simp [expiredAt]; omega)]
      simp [h]

/-! ## Composite keys -/

/-- The text before the first colon of a composite key is the thumbprint. -/
theorem takeWhile_compositeKey (h : ':' ∉ jkt.toList) :
    (compositeKey jkt jti).toList.takeWhile (· ≠ ':') = jkt.toList := by
  have hall : ∀ x ∈ jkt.toList, decide (x ≠ ':') = true := by
    intro x hx
    simp only [decide_eq_true_eq]
    rintro rfl
    exact h hx
  rw [compositeKey, String.toList_append, String.toList_append, List.append_assoc,
    List.takeWhile_append_of_pos hall]
  simp

/-- A colon-free thumbprint and the identifier can be read back from the composite key. -/
theorem compositeKey_inj {jkt' jti' : String} (h : ':' ∉ jkt.toList) (h' : ':' ∉ jkt'.toList)
    (he : compositeKey jkt jti = compositeKey jkt' jti') : jkt = jkt' ∧ jti = jti' := by
  have hjkt : jkt = jkt' := by
    have hpre : (compositeKey jkt jti).toList.takeWhile (· ≠ ':') = jkt.toList :=
      takeWhile_compositeKey h
    rw [he, takeWhile_compositeKey h'] at hpre
    exact String.toList_inj.1 hpre.symm
  subst hjkt
  refine ⟨rfl, ?_⟩
  simpa [compositeKey, String.append_right_inj] using he

/-! ## What an operation does to the map a lookup goes through -/

@[simp] theorem shardIndex_setShard (s : ReplayShard) (k : String) :
    (c.setShard i s).shardIndex k = c.shardIndex k := rfl

@[simp] theorem shardIndex_bumpHint (k : String) : (c.bumpHint i).shardIndex k = c.shardIndex k := rfl

@[simp] theorem shards_bumpHint : (c.bumpHint i).shards = c.shards := rfl

/-- Replacing a shard by one that shows the same at `t` cannot be seen at `t`. -/
theorem agreeAt_find_setShard {s : ReplayShard}
    (h : AgreeAt expiredAt t (fun k => s.lookup k) (fun k => (c.shards i).lookup k)) :
    AgreeAt expiredAt t (c.setShard i s).find c.find :=
  Sharded.agreeAt_update h

/-- The shard an admission tests for capacity and inserts into. -/
def prepared (c : DPoPReplayCache) (i : Fin NUM_SHARDS) (now : Nat) : ReplayShard :=
  capacityPrune now (hintPrune (c.pruneHints i) now (c.shards i))

theorem agreeAt_hintPrune (admissions : UInt64) (s : ReplayShard) (hnt : now ≤ t) :
    AgreeAt expiredAt t (fun k => (hintPrune admissions now s).lookup k) (fun k => s.lookup k) := by
  unfold hintPrune
  split
  · exact agreeAt_prune persistent_expiredAt hnt s
  · exact AgreeAt.refl _

theorem agreeAt_capacityPrune (s : ReplayShard) (hnt : now ≤ t) :
    AgreeAt expiredAt t (fun k => (capacityPrune now s).lookup k) (fun k => s.lookup k) := by
  unfold capacityPrune
  split
  · exact agreeAt_prune persistent_expiredAt hnt s
  · exact AgreeAt.refl _

/-- The pruning passes of an admission cannot be seen from `now` on. -/
theorem agreeAt_prepared (c : DPoPReplayCache) (i : Fin NUM_SHARDS) (hnt : now ≤ t) :
    AgreeAt expiredAt t (fun k => (c.prepared i now).lookup k) (fun k => (c.shards i).lookup k) :=
  (agreeAt_capacityPrune _ hnt).trans (agreeAt_hintPrune _ _ hnt)

theorem prune_hintPrune (admissions : UInt64) (s : ReplayShard) :
    prune expiredAt now (hintPrune admissions now s) = prune expiredAt now s := by
  unfold hintPrune
  split
  · simp [prune, AList.retain_retain]
  · rfl

/-- An admission fails for lack of space exactly when the live entries alone fill the shard. -/
theorem capacity_le_prepared_iff (c : DPoPReplayCache) (i : Fin NUM_SHARDS) :
    REPLAY_SHARD_CAPACITY ≤ (c.prepared i now).size ↔
      REPLAY_SHARD_CAPACITY ≤ (prune expiredAt now (c.shards i)).size := by
  have hle : (prune expiredAt now (hintPrune (c.pruneHints i) now (c.shards i))).size ≤
      (hintPrune (c.pruneHints i) now (c.shards i)).size := size_prune_le _
  rw [prune_hintPrune] at hle
  unfold prepared capacityPrune
  split
  · rw [prune_hintPrune]
  · omega

theorem size_prepared_le (c : DPoPReplayCache) (i : Fin NUM_SHARDS) :
    (c.prepared i now).size ≤ (c.shards i).size := by
  have hhint : (hintPrune (c.pruneHints i) now (c.shards i)).size ≤ (c.shards i).size := by
    unfold hintPrune
    split
    · exact size_prune_le _
    · exact le_rfl
  unfold prepared capacityPrune
  split
  · exact (size_prune_le _).trans hhint
  · exact hhint

theorem mem_of_mem_prepared {k : String} (h : k ∈ c.prepared i now) : k ∈ c.shards i := by
  rw [← AList.lookup_isSome] at h ⊢
  unfold prepared capacityPrune hintPrune at h
  have hlive : ∀ o : Option Nat, (live expiredAt now o).isSome → o.isSome := by
    intro o ho
    obtain ⟨v, hv⟩ := Option.isSome_iff_exists.1 ho
    rw [(live_eq_some.1 hv).1]
    rfl
  split at h <;> split at h
  · rw [lookup_prune, lookup_prune] at h
    exact hlive _ (hlive _ h)
  · rw [lookup_prune] at h
    exact hlive _ h
  · rw [lookup_prune] at h
    exact hlive _ h
  · exact h

/-- What `check_and_record` can do: detect a live entry and change nothing, or find none and then
    either fail on a shard full of live entries or record the pair. -/
theorem checkAndRecord_cases (c : DPoPReplayCache) (jkt jti : String) (exp now : Nat) :
    let key := compositeKey jkt jti
    let i := c.shardIndex key
    (live expiredAt now (c.find key) ≠ none ∧
      c.checkAndRecord jkt jti exp now = (.error (.replayDetected jti), c)) ∨
    (live expiredAt now (c.find key) = none ∧
      REPLAY_SHARD_CAPACITY ≤ (prune expiredAt now (c.shards i)).size ∧
      c.checkAndRecord jkt jti exp now =
        (.error .replayCacheSaturated, (c.bumpHint i).setShard i (c.prepared i now))) ∨
    (live expiredAt now (c.find key) = none ∧
      (prune expiredAt now (c.shards i)).size < REPLAY_SHARD_CAPACITY ∧
      c.checkAndRecord jkt jti exp now =
        (.ok (), (c.bumpHint i).setShard i ((c.prepared i now).insert key exp))) := by
  intro key i
  have hany : ((c.shards i).lookup key).any (fun e => now < e) =
      (live expiredAt now (c.find key)).isSome := any_live _ _
  unfold checkAndRecord checkAndRecord.insertPrepared
  simp only []
  rw [show ((c.shards (c.shardIndex (compositeKey jkt jti))).lookup (compositeKey jkt jti)).any
    (fun e => now < e) = (live expiredAt now (c.find key)).isSome from hany]
  by_cases hl : live expiredAt now (c.find key) = none
  · right
    rw [hl]
    by_cases hcap : REPLAY_SHARD_CAPACITY ≤ (c.prepared i now).size
    · left
      exact ⟨rfl, (capacity_le_prepared_iff c i).1 hcap, by simp [prepared, i, key] at hcap ⊢; simp [hcap]⟩
    · right
      refine ⟨rfl, ?_, by simp [prepared, i, key] at hcap ⊢; simp [hcap]⟩
      have := mt (capacity_le_prepared_iff c i).2 hcap
      omega
  · left
    exact ⟨hl, by simp [Option.isSome_iff_ne_none, hl]⟩

/-- A saturated admission cannot be seen from `now` on. -/
theorem agreeAt_find_saturated (c : DPoPReplayCache) (i : Fin NUM_SHARDS) (hnt : now ≤ t) :
    AgreeAt expiredAt t ((c.bumpHint i).setShard i (c.prepared i now)).find c.find :=
  agreeAt_find_setShard (c := c.bumpHint i) (agreeAt_prepared c i hnt)

/-- A successful admission shows from `now` on as the one entry it records. -/
theorem agreeAt_find_admitted (c : DPoPReplayCache) (key : String) (exp : Nat) (hnt : now ≤ t) :
    AgreeAt expiredAt t
      ((c.bumpHint (c.shardIndex key)).setShard (c.shardIndex key)
        ((c.prepared (c.shardIndex key) now).insert key exp)).find
      (Function.update c.find key (some exp)) := by
  have hinsert : ((c.bumpHint (c.shardIndex key)).setShard (c.shardIndex key)
      ((c.prepared (c.shardIndex key) now).insert key exp)).find =
        Function.update ((c.bumpHint (c.shardIndex key)).setShard (c.shardIndex key)
          (c.prepared (c.shardIndex key) now)).find key (some exp) :=
    Sharded.find_update_insert
  rw [hinsert]
  exact (agreeAt_find_saturated c _ hnt).update key (some exp)

theorem agreeAt_find_pruneExpired (c : DPoPReplayCache) (hnt : now ≤ t) :
    AgreeAt expiredAt t (c.pruneExpired now).find c.find := by
  intro k
  exact agreeAt_prune persistent_expiredAt hnt (c.shards (c.shardIndex k)) k

end DPoPReplayCache

/-! ## The simulation -/

open DPoPReplayCache

/-- The cache and the ideal map show the same at time `t`: the cache agrees with the ideal map on
    what is live, every stored key is the composite key of a colon-free pair and sits in the shard it
    hashes to, and no shard is above its capacity. -/
structure ReplaySim (hasher : String → UInt64) (t : Nat) (c : DPoPReplayCache) (I : IdealReplayMap) :
    Prop where
  hasher_eq : c.hasher = hasher
  agree : ∀ jkt jti, ':' ∉ jkt.toList →
    live expiredAt t (c.find (compositeKey jkt jti)) = live expiredAt t (I (jkt, jti))
  ideal_colonFree : ∀ p, I p ≠ none → ':' ∉ p.1.toList
  stored : ∀ i k, k ∈ c.shards i → c.shardIndex k = i ∧
    ∃ jkt jti, ':' ∉ jkt.toList ∧ k = compositeKey jkt jti
  size_le : ∀ i, (c.shards i).size ≤ REPLAY_SHARD_CAPACITY

/-- The shard function of a hash function. -/
def shardOf (hasher : String → UInt64) : String → Fin NUM_SHARDS := (DPoPReplayCache.new hasher).shardIndex

namespace ReplaySim

variable {hasher : String → UInt64} {t now : Nat} {c : DPoPReplayCache} {I : IdealReplayMap}

theorem shardIndex_eq (h : ReplaySim hasher t c I) (k : String) : c.shardIndex k = shardOf hasher k := by
  simp [shardOf, DPoPReplayCache.shardIndex, DPoPReplayCache.new, h.hasher_eq]

theorem mono (h : ReplaySim hasher t c I) (htn : t ≤ now) : ReplaySim hasher now c I where
  hasher_eq := h.hasher_eq
  agree := fun jkt jti hj => by
    rw [← live_live persistent_expiredAt htn, h.agree jkt jti hj, live_live persistent_expiredAt htn]
  ideal_colonFree := h.ideal_colonFree
  stored := h.stored
  size_le := h.size_le

theorem consumed_eq (h : ReplaySim hasher t c I) {jkt jti : String} (hj : ':' ∉ jkt.toList) :
    I.consumed (jkt, jti) t = (live expiredAt t (c.find (compositeKey jkt jti))).isSome := by
  rw [h.agree jkt jti hj, IdealReplayMap.consumed, any_live]

/-- The live entries of a shard are the live pairs of the ideal map that hash to it. -/
theorem size_prune_eq (h : ReplaySim hasher t c I) (jkt jti : String) :
    ((prune expiredAt t (c.shards (c.shardIndex (compositeKey jkt jti)))).size : ℕ∞) =
      (I.shardmates (shardOf hasher) (jkt, jti) t).encard := by
  have hinj : Set.InjOn (fun p : String × String => compositeKey p.1 p.2)
      (I.shardmates (shardOf hasher) (jkt, jti) t) := by
    rintro ⟨a, b⟩ ⟨-, ha⟩ ⟨a', b'⟩ ⟨-, ha'⟩ he
    have hne : ∀ p, I.consumed p t = true → I p ≠ none := by
      intro p hp hnone
      simp [IdealReplayMap.consumed, hnone] at hp
    obtain ⟨rfl, rfl⟩ := compositeKey_inj (h.ideal_colonFree _ (hne _ ha))
      (h.ideal_colonFree _ (hne _ ha')) he
    rfl
  rw [size_prune_eq_encard, ← hinj.encard_image]
  congr 1
  ext k
  simp only [Set.mem_ofPred_eq, Set.mem_image, IdealReplayMap.shardmates]
  constructor
  · intro hk
    obtain ⟨v, hv⟩ := Option.isSome_iff_exists.1 hk
    have hmem : k ∈ c.shards (c.shardIndex (compositeKey jkt jti)) := by
      rw [← AList.lookup_isSome, (live_eq_some.1 hv).1]
      rfl
    obtain ⟨hki, a, b, hab, rfl⟩ := h.stored _ _ hmem
    refine ⟨(a, b), ⟨?_, ?_⟩, rfl⟩
    · rw [← h.shardIndex_eq, ← h.shardIndex_eq]
      exact hki
    · rw [h.consumed_eq hab, find, hki]
      exact hk
  · rintro ⟨⟨a, b⟩, ⟨hs, hc⟩, rfl⟩
    rw [← h.shardIndex_eq, ← h.shardIndex_eq] at hs
    have hab : ':' ∉ a.toList := by
      apply h.ideal_colonFree (a, b)
      intro hnone
      simp [IdealReplayMap.consumed, hnone] at hc
    rw [h.consumed_eq hab, find] at hc
    rw [← hs]
    exact hc

/-- The relation after a step that writes only into one shard: the shard keeps its keys up to the
    given one, stays within capacity, and the maps agree again. -/
theorem of_setShard (h : ReplaySim hasher t c I) {i : Fin NUM_SHARDS} {s : ReplayShard}
    {I' : IdealReplayMap}
    (hkeys : ∀ k, k ∈ s → k ∈ c.shards i ∨
      (c.shardIndex k = i ∧ ∃ jkt jti, ':' ∉ jkt.toList ∧ k = compositeKey jkt jti))
    (hsize : s.size ≤ REPLAY_SHARD_CAPACITY)
    (hideal : ∀ p, I' p ≠ none → ':' ∉ p.1.toList)
    (hagree : ∀ jkt jti, ':' ∉ jkt.toList →
      live expiredAt t (((c.bumpHint i).setShard i s).find (compositeKey jkt jti)) =
        live expiredAt t (I' (jkt, jti))) :
    ReplaySim hasher t ((c.bumpHint i).setShard i s) I' where
  hasher_eq := h.hasher_eq
  agree := hagree
  ideal_colonFree := hideal
  stored := by
    intro j k hk
    by_cases hj : j = i
    · subst hj
      have hk' : k ∈ s := by simpa [setShard] using hk
      rcases hkeys k hk' with hk'' | hk''
      · exact h.stored j k hk''
      · exact hk''
    · exact h.stored j k (by simpa [setShard, Function.update_of_ne hj] using hk)
  size_le := by
    intro j
    by_cases hj : j = i
    · subst hj
      simpa [setShard] using hsize
    · simpa [setShard, Function.update_of_ne hj] using h.size_le j

/-- `check_and_record` answers as the ideal map does and keeps the relation. -/
theorem checkAndRecord (h : ReplaySim hasher now c I) {jkt jti : String} (exp : Nat)
    (hj : ':' ∉ jkt.toList) :
    (c.apply (.checkAndRecord jkt jti exp now)).1 =
        (I.apply (shardOf hasher) (.checkAndRecord jkt jti exp now)).1 ∧
      ReplaySim hasher now (c.apply (.checkAndRecord jkt jti exp now)).2
        (I.apply (shardOf hasher) (.checkAndRecord jkt jti exp now)).2 := by
  have hc : I.consumed (jkt, jti) now = (live expiredAt now (c.find (compositeKey jkt jti))).isSome :=
    h.consumed_eq hj
  have hn := h.size_prune_eq jkt jti
  set i := c.shardIndex (compositeKey jkt jti) with hi
  rcases checkAndRecord_cases c jkt jti exp now with ⟨hl, he⟩ | ⟨hl, hcap, he⟩ | ⟨hl, hcap, he⟩
  · have hcons : I.consumed (jkt, jti) now = true := by
      rw [hc, Option.isSome_iff_ne_none]
      exact hl
    simp only [DPoPReplayCache.apply, IdealReplayMap.apply, he, hcons, if_true, true_and]
    exact h
  · have hcons : I.consumed (jkt, jti) now = false := by rw [hc, hl]; rfl
    have hfull : (REPLAY_SHARD_CAPACITY : ℕ∞) ≤ (I.shardmates (shardOf hasher) (jkt, jti) now).encard := by
      rw [← hn]
      exact_mod_cast hcap
    simp only [DPoPReplayCache.apply, IdealReplayMap.apply, he, hcons, hfull, if_true, Bool.false_eq_true,
      if_false, true_and]
    refine h.of_setShard (fun k hk => Or.inl (mem_of_mem_prepared hk))
      ((size_prepared_le c i).trans (h.size_le i)) h.ideal_colonFree ?_
    intro jkt' jti' hj'
    rw [agreeAt_find_saturated c i le_rfl]
    exact h.agree jkt' jti' hj'
  · have hcons : I.consumed (jkt, jti) now = false := by rw [hc, hl]; rfl
    have hroom : ¬ (REPLAY_SHARD_CAPACITY : ℕ∞) ≤
        (I.shardmates (shardOf hasher) (jkt, jti) now).encard := by
      rw [← hn, not_le]
      exact_mod_cast hcap
    simp only [DPoPReplayCache.apply, IdealReplayMap.apply, he, hcons, hroom, Bool.false_eq_true,
      if_false, true_and]
    refine h.of_setShard ?_ ?_ ?_ ?_
    · intro k hk
      rcases (AList.mem_insert _).1 hk with rfl | hk
      · exact Or.inr ⟨rfl, jkt, jti, hj, rfl⟩
      · exact Or.inl (mem_of_mem_prepared hk)
    · have hlt : (c.prepared i now).size < REPLAY_SHARD_CAPACITY := by
        rw [← not_le, capacity_le_prepared_iff, not_le]
        exact hcap
      exact (AList.size_insert_le _ _ _).trans hlt
    · intro p hp
      by_cases hpe : p = (jkt, jti)
      · rw [hpe]
        exact hj
      · rw [Function.update_of_ne hpe] at hp
        exact h.ideal_colonFree p hp
    · intro jkt' jti' hj'
      rw [agreeAt_find_admitted c _ exp le_rfl]
      by_cases hpe : (jkt', jti') = (jkt, jti)
      · obtain ⟨rfl, rfl⟩ := Prod.mk.inj hpe
        rw [Function.update_self, Function.update_self]
      · have hke : compositeKey jkt' jti' ≠ compositeKey jkt jti := by
          intro hke
          obtain ⟨rfl, rfl⟩ := compositeKey_inj hj' hj hke
          exact hpe rfl
        rw [Function.update_of_ne hpe, Function.update_of_ne hke]
        exact h.agree jkt' jti' hj'

theorem pruneExpired (h : ReplaySim hasher now c I) : ReplaySim hasher now (c.pruneExpired now) I where
  hasher_eq := h.hasher_eq
  agree := fun jkt jti hj => by
    rw [agreeAt_find_pruneExpired c le_rfl]
    exact h.agree jkt jti hj
  ideal_colonFree := h.ideal_colonFree
  stored := by
    intro i k hk
    refine h.stored i k ?_
    rw [← AList.lookup_isSome] at hk ⊢
    rw [DPoPReplayCache.pruneExpired, lookup_prune] at hk
    obtain ⟨v, hv⟩ := Option.isSome_iff_exists.1 hk
    rw [(live_eq_some.1 hv).1]
    rfl
  size_le := fun i => (size_prune_le _).trans (h.size_le i)

/-- One operation: equal answers, and the relation is kept at the operation's own time. -/
theorem step (h : ReplaySim hasher t c I) (op : ReplayOp) (ht : t ≤ op.nowSecs) (hop : op.colonFree) :
    (c.apply op).1 = (I.apply (shardOf hasher) op).1 ∧
      ReplaySim hasher op.nowSecs (c.apply op).2 (I.apply (shardOf hasher) op).2 := by
  have h' := h.mono ht
  cases op with
  | checkAndRecord jkt jti exp now => exact h'.checkAndRecord exp hop
  | isConsumed jkt jti now =>
    have hc : I.consumed (jkt, jti) now = _ := h'.consumed_eq hop
    refine ⟨?_, h'⟩
    show ReplayOut.consumed (c.isConsumed jkt jti now) = ReplayOut.consumed (I.consumed (jkt, jti) now)
    rw [hc, DPoPReplayCache.isConsumed, any_live]
    rfl
  | pruneExpired now => exact ⟨rfl, h'.pruneExpired⟩

theorem initial (hasher : String → UInt64) :
    ReplaySim hasher 0 (DPoPReplayCache.new hasher) (fun _ => none) where
  hasher_eq := rfl
  agree := fun _ _ _ => rfl
  ideal_colonFree := fun _ hp => absurd rfl hp
  stored := fun _ k hk => absurd hk (AList.notMem_empty k)
  size_le := fun _ => Nat.zero_le _

end ReplaySim

/-- The replay cache refines the ideal replay map: over every sequence of operations with colon-free
    thumbprints and nondecreasing times, every answer is the answer of the ideal map; after it no
    shard is above its capacity, and every pair the ideal map holds with an expiry past the times seen
    is still stored. -/
theorem replayCache_refines_ideal (hasher : String → UInt64) (ops : List ReplayOp)
    (hcolon : ∀ op ∈ ops, op.colonFree) (hmono : (ops.map ReplayOp.nowSecs).Pairwise (· ≤ ·)) :
    (Machine.outputs DPoPReplayCache.apply (DPoPReplayCache.new hasher) ops).1 =
        (Machine.outputs (IdealReplayMap.apply (shardOf hasher)) (fun _ => none) ops).1 ∧
      (∀ i, ((Machine.outputs DPoPReplayCache.apply (DPoPReplayCache.new hasher) ops).2.shards i).size ≤
        REPLAY_SHARD_CAPACITY) ∧
      ∀ jkt jti exp now, (∀ op ∈ ops, op.nowSecs ≤ now) → now < exp →
        (Machine.outputs (IdealReplayMap.apply (shardOf hasher)) (fun _ => none) ops).2 (jkt, jti) =
          some exp →
        (Machine.outputs DPoPReplayCache.apply (DPoPReplayCache.new hasher) ops).2.find
          (compositeKey jkt jti) = some exp := by
  obtain ⟨hout, t, hsim, htmem, -⟩ := Machine.outputs_eq
    (f := DPoPReplayCache.apply) (g := IdealReplayMap.apply (shardOf hasher))
    (R := fun rest c I => ∃ t, ReplaySim hasher t c I ∧ (t = 0 ∨ ∃ op ∈ ops, op.nowSecs = t) ∧
      (∀ op ∈ rest, op ∈ ops ∧ op.colonFree ∧ t ≤ op.nowSecs) ∧
      (rest.map ReplayOp.nowSecs).Pairwise (· ≤ ·))
    (by
      rintro op rest c I ⟨t, hsim, -, hrest, hsorted⟩
      obtain ⟨hmem, hcol, ht⟩ := hrest op (List.mem_cons_self ..)
      obtain ⟨he, hsim'⟩ := hsim.step op ht hcol
      obtain ⟨hle, htail⟩ := List.pairwise_cons.1 hsorted
      refine ⟨he, op.nowSecs, hsim', Or.inr ⟨op, hmem, rfl⟩, fun op' hop' => ?_, htail⟩
      obtain ⟨h1, h2, -⟩ := hrest op' (List.mem_cons_of_mem _ hop')
      exact ⟨h1, h2, hle _ (List.mem_map_of_mem hop')⟩)
    ops (DPoPReplayCache.new hasher) (fun _ => none)
    ⟨0, ReplaySim.initial hasher, Or.inl rfl,
      fun op hop => ⟨hop, hcolon op hop, Nat.zero_le _⟩, hmono⟩
  refine ⟨hout, hsim.size_le, fun jkt jti exp now hnow hexp hI => ?_⟩
  have htn : t ≤ now := by
    rcases htmem with rfl | ⟨op, hop, rfl⟩
    · exact Nat.zero_le _
    · exact hnow op hop
  have hj : ':' ∉ jkt.toList := hsim.ideal_colonFree (jkt, jti) (by rw [hI]; simp)
  have hlive := (hsim.mono htn).agree jkt jti hj
  rw [hI, live_some_of_not_expired (by simp [expiredAt, hexp])] at hlive
  exact (live_eq_some.1 hlive).1

/-- The refinement on a run that replays a pair whose identifier contains a colon, lets its entry
    expire, records it again and prunes. -/
theorem replayCache_refines_ideal_colon_jti :
    (Machine.outputs DPoPReplayCache.apply (DPoPReplayCache.new fun _ => 0)
        [.checkAndRecord "key" "a:b" 10 5, .isConsumed "key" "a:b" 9, .checkAndRecord "key" "a:b" 30 10,
          .pruneExpired 12]).1 =
      (Machine.outputs (IdealReplayMap.apply (shardOf fun _ => 0)) (fun _ => none)
        [.checkAndRecord "key" "a:b" 10 5, .isConsumed "key" "a:b" 9, .checkAndRecord "key" "a:b" 30 10,
          .pruneExpired 12]).1 :=
  (replayCache_refines_ideal (fun _ => 0)
    [.checkAndRecord "key" "a:b" 10 5, .isConsumed "key" "a:b" 9, .checkAndRecord "key" "a:b" 30 10,
      .pruneExpired 12]
    (by simp [ReplayOp.colonFree]) (by decide)).1

end Skyauth
