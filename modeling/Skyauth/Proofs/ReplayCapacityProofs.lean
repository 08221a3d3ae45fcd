import Skyauth.Proofs.TowerSystemProofs

/-!
# Proofs: what fills the replay cache

The replay cache of the middleware is bounded, and it fails closed when it is full. So it matters who can
fill it: only requests that passed every check of the middleware, and other users of the cache.
-/

namespace Skyauth

open Expiring

/-! ## The cache -/

namespace DPoPReplayCache

variable {c : DPoPReplayCache} {jkt jti key : String} {exp now : Nat} {i : Fin NUM_SHARDS}

/-- Every shard is within its capacity. -/
def Bounded (c : DPoPReplayCache) : Prop := ∀ i, (c.shards i).size ≤ REPLAY_SHARD_CAPACITY

/-- The key is stored in some shard, live or not. -/
def Stores (c : DPoPReplayCache) (key : String) : Prop := ∃ i, key ∈ c.shards i

theorem shards_setShard (s : ReplayShard) : (c.setShard i s).shards = Function.update c.shards i s := rfl

theorem Bounded.setShard {s : ReplayShard} (h : c.Bounded) (hs : s.size ≤ REPLAY_SHARD_CAPACITY) :
    (c.setShard i s).Bounded := by
  intro j
  by_cases hij : j = i
  · subst hij
    rw [shards_setShard, Function.update_self]
    exact hs
  · rw [shards_setShard, Function.update_of_ne hij]
    exact h j

theorem Stores.of_setShard {s : ReplayShard} (h : (c.setShard i s).Stores key) : c.Stores key ∨ key ∈ s := by
  obtain ⟨j, hj⟩ := h
  by_cases hij : j = i
  · subst hij
    rw [shards_setShard, Function.update_self] at hj
    exact Or.inr hj
  · rw [shards_setShard, Function.update_of_ne hij] at hj
    exact Or.inl ⟨j, hj⟩

theorem Bounded.checkAndRecord (h : c.Bounded) : (c.checkAndRecord jkt jti exp now).2.Bounded := by
  have hbump : (c.bumpHint (c.shardIndex (compositeKey jkt jti))).Bounded := h
  rcases checkAndRecord_cases c jkt jti exp now with ⟨-, heq⟩ | ⟨-, -, heq⟩ | ⟨-, hroom, heq⟩
  · rw [heq]
    exact h
  · rw [heq]
    exact hbump.setShard ((size_prepared_le c _).trans (h _))
  · rw [heq]
    refine hbump.setShard ?_
    have hinsert := AList.size_insert_le (c.prepared (c.shardIndex (compositeKey jkt jti)) now)
      (compositeKey jkt jti) exp
    have hprepared := mt (capacity_le_prepared_iff c (c.shardIndex (compositeKey jkt jti))).1 (Nat.not_le.2 hroom)
    omega

/-- A check stores its own key at most, and only if it succeeds. -/
theorem Stores.of_checkAndRecord (h : (c.checkAndRecord jkt jti exp now).2.Stores key) :
    c.Stores key ∨ (c.checkAndRecord jkt jti exp now).1 = .ok () ∧ key = compositeKey jkt jti := by
  rcases checkAndRecord_cases c jkt jti exp now with ⟨-, heq⟩ | ⟨-, -, heq⟩ | ⟨-, -, heq⟩
  · rw [heq] at h
    exact Or.inl h
  · rw [heq] at h
    rcases h.of_setShard with hold | hprepared
    · exact Or.inl hold
    · exact Or.inl ⟨_, mem_of_mem_prepared hprepared⟩
  · rw [heq] at h ⊢
    rcases h.of_setShard with hold | hinserted
    · exact Or.inl hold
    · rcases (AList.mem_insert _).1 hinserted with hkey | hprepared
      · exact Or.inr ⟨rfl, hkey⟩
      · exact Or.inl ⟨_, mem_of_mem_prepared hprepared⟩

theorem Bounded.pruneExpired (h : c.Bounded) : (c.pruneExpired now).Bounded :=
  fun i => (size_prune_le _).trans (h i)

theorem Stores.of_pruneExpired (h : (c.pruneExpired now).Stores key) : c.Stores key := by
  obtain ⟨i, hi⟩ := h
  refine ⟨i, ?_⟩
  rw [← AList.lookup_isSome] at hi ⊢
  obtain ⟨e, he⟩ := Option.isSome_iff_exists.1 hi
  rw [pruneExpired, lookup_prune] at he
  rw [(live_eq_some.1 he).1]
  rfl

end DPoPReplayCache

/-! ## The middleware -/

namespace DPoPVerifier

variable {v : DPoPVerifier} {jkt jti key : String} {exp now : Nat}

/-- The replay cache, if there is one, is within its capacity. -/
def Bounded (v : DPoPVerifier) : Prop := ∀ c, v.replayCache = some c → c.Bounded

def Stores (v : DPoPVerifier) (key : String) : Prop := ∃ c, v.replayCache = some c ∧ c.Stores key

theorem Bounded.record (h : v.Bounded) : (v.record jkt jti exp now).2.Bounded := by
  unfold DPoPVerifier.record
  cases hcache : v.replayCache with
  | none => exact h
  | some c =>
    intro c' hc'
    cases hc'
    exact (h c hcache).checkAndRecord

theorem Stores.of_record (h : (v.record jkt jti exp now).2.Stores key) :
    v.Stores key ∨ (v.record jkt jti exp now).1 = .ok () ∧ key = DPoPReplayCache.compositeKey jkt jti := by
  unfold DPoPVerifier.record at h ⊢
  cases hcache : v.replayCache with
  | none =>
    rw [hcache] at h
    exact Or.inl h
  | some c =>
    rw [hcache] at h
    obtain ⟨c', hc', hstores⟩ := h
    cases hc'
    rcases hstores.of_checkAndRecord with hold | hnew
    · exact Or.inl ⟨c, hcache, hold⟩
    · exact Or.inr hnew

theorem Bounded.pruneReplayCache (h : v.Bounded) : (v.pruneReplayCache now).Bounded := by
  intro c' hc'
  obtain ⟨c, hc, rfl⟩ := Option.map_eq_some_iff.1 hc'
  exact (h c hc).pruneExpired

theorem Stores.of_pruneReplayCache (h : (v.pruneReplayCache now).Stores key) : v.Stores key := by
  obtain ⟨c', hc', hstores⟩ := h
  obtain ⟨c, hc, rfl⟩ := Option.map_eq_some_iff.1 hc'
  exact ⟨c, hc, hstores.of_pruneExpired⟩

end DPoPVerifier

namespace TowerSystem

variable {N B C E V : Type} [Inhabited C] {X : Crates} {svc : OAuthAuthService N B C E V}
  {s₀ s s' : TowerSystem N B C E} {a : TowerAction N B} {e : TowerEvent B}
  {tr : List (TowerAction N B × TowerEvent B)}

/-- The action is that of another user who records this pair, or the commit of an admission for it. -/
def Records (jkt jti : String) (x : TowerAction N B × TowerEvent B) : Prop :=
  (∃ exp now, x.1 = .other jkt jti exp now) ∨
  ∃ i p now, x.2 = .committed i p now ∧ p.admission.jkt = jkt ∧ p.admission.jti = jti

/-- What an action does to the verifier: nothing, a sweep, or the recording of a pair. -/
theorem verifier_of_steps (h : Steps X svc s a s' e) :
    s'.shared.verifier = s.shared.verifier ∨
    (∃ t, s'.shared.verifier = s.shared.verifier.pruneReplayCache t) ∨
    ∃ jkt jti exp now, s'.shared.verifier = (s.shared.verifier.record jkt jti exp now).2 ∧
      ((s.shared.verifier.record jkt jti exp now).1 = .ok () → Records jkt jti (a, e)) := by
  cases h with
  | tick hc => exact Or.inl rfl
  | nonces n => exact Or.inl rfl
  | @other jkt jti exp now hnow =>
    exact Or.inr (Or.inr ⟨jkt, jti, exp, now, rfl, fun _ => Or.inl ⟨exp, now, rfl⟩⟩)
  | pruneExpired hnow => exact Or.inr (Or.inl ⟨_, rfl⟩)
  | call hc he => exact Or.inl (verifier_enter he)
  | @resume i c phase w _ hc ha =>
    generalize c.phase = before at ha
    cases ha with
    | challenged => exact Or.inl (verifier_challenge _ _)
    | @refused p user err v hk =>
      refine Or.inr (Or.inr ⟨_, _, _, _, (congrArg Prod.snd hk).symm, fun hok => ?_⟩)
      cases (congrArg Prod.fst hk).symm.trans hok
    | @admitted p user v hk =>
      exact Or.inr (Or.inr ⟨_, _, _, _, (congrArg Prod.snd hk).symm,
        fun _ => Or.inr ⟨i, p, _, rfl, rfl, rfl⟩⟩)
    | attached => exact Or.inl (verifier_finish _)
    | _ => exact Or.inl rfl

/-- What is known about the cache along a run. -/
structure Accounted (v₀ : DPoPVerifier) (tr : List (TowerAction N B × TowerEvent B))
    (s : TowerSystem N B C E) : Prop where
  bounded : s.shared.verifier.Bounded
  stored : ∀ key, s.shared.verifier.Stores key → v₀.Stores key ∨
    ∃ x ∈ tr, ∃ jkt jti, key = DPoPReplayCache.compositeKey jkt jti ∧ Records jkt jti x

theorem Accounted.step {v₀ : DPoPVerifier} (h : Accounted v₀ tr s) (hs : Steps X svc s a s' e) :
    Accounted v₀ (tr ++ [(a, e)]) s' := by
  have hold : ∀ key, s.shared.verifier.Stores key → v₀.Stores key ∨
      ∃ x ∈ tr ++ [(a, e)], ∃ jkt jti, key = DPoPReplayCache.compositeKey jkt jti ∧ Records jkt jti x := by
    intro key hstores
    rcases h.stored key hstores with hinitial | ⟨x, hx, hrecorded⟩
    · exact Or.inl hinitial
    · exact Or.inr ⟨x, List.mem_append_left _ hx, hrecorded⟩
  rcases verifier_of_steps hs with hv | ⟨t, hv⟩ | ⟨jkt, jti, exp, now, hv, hrecords⟩
  · exact ⟨hv ▸ h.bounded, fun key hstores => hold key (hv ▸ hstores)⟩
  · refine ⟨hv ▸ h.bounded.pruneReplayCache, fun key hstores => hold key ?_⟩
    rw [hv] at hstores
    exact hstores.of_pruneReplayCache
  · refine ⟨hv ▸ h.bounded.record, fun key hstores => ?_⟩
    rw [hv] at hstores
    rcases hstores.of_record with hbefore | ⟨hok, rfl⟩
    · exact hold key hbefore
    · exact Or.inr ⟨(a, e), by simp, jkt, jti, rfl, hrecords hok⟩

end TowerSystem

/-- Requests that are not authenticated cannot fill the replay cache. In every run of any number of calls the
    cache stays within the capacity of its shards, and every entry in it was there at the start, was recorded
    by another user of the cache, or was committed for the proof of a request that passed every check of the
    middleware, its own access token being valid for the key of that proof. -/
theorem replay_cache_holds_earned_entries {N B C E V : Type} [Inhabited C] {X : Crates}
    {svc : OAuthAuthService N B C E V} {s₀ s : TowerSystem N B C E}
    {tr : List (TowerAction N B × TowerEvent B)} (h0 : s₀.shared.verifier.Bounded) (hcalls : s₀.calls = [])
    (hr : Exec Exec.anyStep (TowerSystem.step X svc) s₀ tr s) :
    s.shared.verifier.Bounded ∧
    ∀ key, s.shared.verifier.Stores key → s₀.shared.verifier.Stores key ∨
      ∃ x ∈ tr, ∃ jkt jti, key = DPoPReplayCache.compositeKey jkt jti ∧
        ((∃ exp now, x.1 = .other jkt jti exp now) ∨
          ∃ i p now c user, x.2 = .committed i p now ∧ p.admission.jkt = jkt ∧ p.admission.jti = jti ∧
            s.calls[i]? = some c ∧ ChecksPassed X svc c.entered c.req c.clock₁ c.clock₂ p user) := by
  have haccounted : TowerSystem.Accounted s₀.shared.verifier tr s :=
    hr.invariant (TowerSystem.Accounted s₀.shared.verifier) ⟨h0, fun _ h => Or.inl h⟩
      fun _ _ _ _ _ h _ hs => h.step (TowerSystem.steps_of_step hs)
  have hshows := (TowerSystem.tracks_of_run hcalls hr).shows
  refine ⟨haccounted.bounded, fun key hkey => (haccounted.stored key hkey).imp_right ?_⟩
  rintro ⟨x, hx, jkt, jti, hpair, hother | ⟨i, p, now, he, hjkt, hjti⟩⟩
  · exact ⟨x, hx, jkt, jti, hpair, Or.inl hother⟩
  · have hshown := hshows x hx
    rw [he] at hshown
    obtain ⟨user, c, hc, hchecks⟩ := hshown
    exact ⟨x, hx, jkt, jti, hpair, Or.inr ⟨i, p, now, c, user, he, hjkt, hjti, hc, hchecks⟩⟩

/-- The cache of the sample is empty at the start and nobody else uses it, so what it holds in the end was
    committed for a request. -/
theorem replay_cache_holds_earned_entries_sample : ∃ tr s,
    Exec Exec.anyStep (TowerSystem.step sampleCrates TowerSample.service) TowerSample.start tr s ∧
      tr.length = 4 ∧ s.shared.verifier.Bounded ∧
      ∀ key, s.shared.verifier.Stores key → ∃ x ∈ tr, ∃ jkt jti,
        key = DPoPReplayCache.compositeKey jkt jti ∧
        ((∃ exp now, x.1 = .other jkt jti exp now) ∨ ∃ i p now, x.2 = .committed i p now) := by
  obtain ⟨auth, proof, hauth, hproof⟩ := TowerSample.exists_headers
  have hr := TowerSample.exec_served hauth hproof
  have hbounded : TowerSample.start.shared.verifier.Bounded := by
    intro c hc i
    cases hc
    exact Nat.zero_le _
  obtain ⟨hafter, hstored⟩ := replay_cache_holds_earned_entries hbounded rfl hr
  refine ⟨_, _, hr, rfl, hafter, fun key hkey => ?_⟩
  rcases hstored key hkey with ⟨c, hc, i, hi⟩ | ⟨x, hx, jkt, jti, hpair, hother | ⟨i, p, now, -, -, he, -⟩⟩
  · cases hc
    exact absurd hi (AList.notMem_empty key)
  · exact ⟨x, hx, jkt, jti, hpair, Or.inl hother⟩
  · exact ⟨x, hx, jkt, jti, hpair, Or.inr ⟨i, p, now, he⟩⟩

end Skyauth
