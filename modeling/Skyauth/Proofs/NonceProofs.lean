import Skyauth.NonceSystem
import Skyauth.Proofs.DpopProofs
import Skyauth.Proofs.ReplayCacheProofs

/-!
# Proofs: server nonces and their rate limit

Pruning and the capacity check cannot be seen: the nonces that can be verified at the clock are those of
an ideal table that is never pruned, which a run writes when it returns a nonce and, in single-use mode,
empties when it accepts one. The limiter counts the calls of one second as long as no call reaches it
with an older reading than the one before; an older reading makes it start a second afresh.
-/

namespace Skyauth

open Expiring (AgreeAt live)

/-! ## The limiter -/

namespace InMemoryServerNonceSource

variable {s : InMemoryServerNonceSource} {now : Nat}

/-- What the limiter does to a call of the second it counts, and to one of another second. -/
theorem limit_spec (s : InMemoryServerNonceSource) (now : Nat) :
    let count := if s.issuanceWindowSecs = now then s.issuanceCountInWindow else 0
    (s.limit now).2.issuanceWindowSecs = now ∧
      (s.limit now).2.issuanceRateLimit = s.issuanceRateLimit ∧
      ((s.limit now).1 = true ∧ count < s.issuanceRateLimit ∧
          (s.limit now).2.issuanceCountInWindow = count + 1 ∨
        (s.limit now).1 = false ∧ (s.limit now).2.issuanceCountInWindow = count) := by
  unfold limit window
  by_cases hsame : s.issuanceWindowSecs = now
  · by_cases hfull : s.issuanceRateLimit ≤ s.issuanceCountInWindow
    · simp [hsame, hfull]
    · simp [hsame, hfull, Nat.lt_of_not_le hfull]
  · by_cases hfull : s.issuanceRateLimit = 0
    · simp [hsame, hfull]
    · simp [hsame, hfull, Nat.pos_of_ne_zero hfull]

end InMemoryServerNonceSource

namespace LimiterSystem

variable {s s' : LimiterSystem} {a : LimiterAction} {e : LimiterEvent}
  {tr : List (LimiterAction × LimiterEvent)} {rate : Nat}

/-- What holds in every state of a run whose calls reach the limiter in order: the counter counts the
    calls of its second, and no later second has any yet. -/
structure Counted (rate : Nat) (tr : List (LimiterAction × LimiterEvent)) (s : LimiterSystem) :
    Prop where
  limit : s.source.issuanceRateLimit = rate
  current : passedAt s.source.issuanceWindowSecs tr = s.source.issuanceCountInWindow
  later : ∀ now, s.source.issuanceWindowSecs < now → passedAt now tr = 0
  bounded : ∀ now, passedAt now tr ≤ rate

theorem passedAt_snoc (now : Nat) : passedAt now (tr ++ [(a, e)]) =
    passedAt now tr + if e = .passed now then 1 else 0 := by
  simp [passedAt, List.countP_append, List.countP_singleton]

theorem Counted.silent (h : Counted rate tr s) (hsource : s'.source = s.source)
    (he : ∀ now, e ≠ .passed now) : Counted rate (tr ++ [(a, e)]) s' := by
  have hsame : ∀ now, passedAt now (tr ++ [(a, e)]) = passedAt now tr := by
    intro now
    rw [passedAt_snoc, if_neg (he now), Nat.add_zero]
  refine ⟨by rw [hsource, h.limit], ?_, fun now hnow => ?_, fun now => ?_⟩
  · rw [hsame, hsource, h.current]
  · rw [hsame]
    exact h.later now (hsource ▸ hnow)
  · rw [hsame]
    exact h.bounded now

/-- The critical section of a call that is not behind the counter. -/
theorem Counted.section {now : Nat} (h : Counted rate tr s)
    (hle : s.source.issuanceWindowSecs ≤ now) :
    Counted rate (tr ++ [(.limit now, if (s.source.limit now).1 then .passed now else .refused now)])
      { s with source := (s.source.limit now).2, readings := s.readings.erase now } := by
  obtain ⟨hwindow, hrate, hcases⟩ := s.source.limit_spec now
  -- the calls of this second so far are what the counter starts from
  have hcount : passedAt now tr =
      if s.source.issuanceWindowSecs = now then s.source.issuanceCountInWindow else 0 := by
    by_cases hsame : s.source.issuanceWindowSecs = now
    · rw [if_pos hsame, ← h.current, hsame]
    · rw [if_neg hsame]
      exact h.later now (Nat.lt_of_le_of_ne hle hsame)
  rw [← hcount, h.limit] at hcases
  have hother : ∀ t e, t ≠ now → e = .passed now ∨ e = .refused now →
      passedAt t (tr ++ [(LimiterAction.limit now, e)]) = passedAt t tr := by
    rintro t e ht (rfl | rfl)
    · rw [passedAt_snoc, if_neg fun heq => ht (LimiterEvent.passed.inj heq).symm, Nat.add_zero]
    · rw [passedAt_snoc, if_neg (by simp), Nat.add_zero]
  have hlater : ∀ t, now < t → passedAt t tr = 0 := fun t ht => h.later t (Nat.lt_of_le_of_lt hle ht)
  rcases hcases with ⟨hpass, hlt, hcount'⟩ | ⟨hpass, hcount'⟩
  · rw [hpass, if_pos rfl]
    have hnow : passedAt now (tr ++ [(LimiterAction.limit now, .passed now)]) = passedAt now tr + 1 := by
      rw [passedAt_snoc, if_pos rfl]
    refine ⟨hrate.trans h.limit, ?_, fun t ht => ?_, fun t => ?_⟩
    · rw [hwindow, hnow, hcount']
    · rw [hwindow] at ht
      rw [hother t _ (Nat.ne_of_gt ht) (Or.inl rfl)]
      exact hlater t ht
    · by_cases ht : t = now
      · rw [ht, hnow]
        exact hlt
      · rw [hother t _ ht (Or.inl rfl)]
        exact h.bounded t
  · rw [hpass, if_neg (by simp)]
    have hsame : ∀ t, passedAt t (tr ++ [(LimiterAction.limit now, .refused now)]) = passedAt t tr := by
      intro t
      rw [passedAt_snoc, if_neg (by simp), Nat.add_zero]
    refine ⟨hrate.trans h.limit, ?_, fun t ht => ?_, fun t => ?_⟩
    · rw [hwindow, hsame, hcount']
    · rw [hwindow] at ht
      rw [hsame]
      exact hlater t ht
    · rw [hsame]
      exact h.bounded t

theorem Counted.step (h : Counted rate tr s) (horder : s.InOrder a) (hstep : s.step a = some (s', e)) :
    Counted rate (tr ++ [(a, e)]) s' := by
  cases a with
  | tick now =>
    simp only [LimiterSystem.step] at hstep
    split at hstep
    · cases hstep
      exact h.silent rfl (by simp)
    · cases hstep
  | readClock =>
    simp only [LimiterSystem.step] at hstep
    cases hstep
    exact h.silent rfl (by simp)
  | limit now =>
    simp only [LimiterSystem.step] at hstep
    split at hstep
    · cases hstep
      exact h.section horder
    · cases hstep

theorem Counted.initial (h : s.Initial) : Counted s.source.issuanceRateLimit [] s where
  limit := rfl
  current := by simp [passedAt, h.count]
  later := fun _ _ => rfl
  bounded := fun _ => Nat.zero_le _

end LimiterSystem

/-- As long as no call reaches the limiter behind one that read a later second, the calls of each second
    that pass are at most the rate limit. -/
theorem issuance_rate_limited {s₀ s : LimiterSystem} {tr : List (LimiterAction × LimiterEvent)}
    (hinit : s₀.Initial) (hr : Exec LimiterSystem.InOrder LimiterSystem.step s₀ tr s) (now : Nat) :
    passedAt now tr ≤ s₀.source.issuanceRateLimit :=
  (hr.invariant (fun tr s => LimiterSystem.Counted s₀.source.issuanceRateLimit tr s)
    (LimiterSystem.Counted.initial hinit)
    fun _ _ _ _ _ h horder hstep => h.step horder hstep).bounded now

namespace LimiterSample

def ttl : Duration := Duration.fromSecs 300 Duration.five_minutes_lt

/-- A source that lets one call a second pass. -/
def start : LimiterSystem where
  source := (InMemoryServerNonceSource.new ttl).withIssuanceRateLimit 1
  clock := 5
  readings := []

theorem initial_start : start.Initial := ⟨rfl, rfl, rfl⟩

/-- Two calls of one second, then one of the next. -/
def inOrder : List LimiterAction :=
  [.readClock, .readClock, .limit 5, .limit 5, .tick 6, .readClock, .limit 6]

/-- A call of the next second overtakes the second one. -/
def overtaken : List LimiterAction :=
  [.readClock, .readClock, .limit 5, .tick 6, .readClock, .limit 6, .limit 5]

end LimiterSample

open LimiterSample in
theorem issuance_rate_limited_sample : ∃ tr s,
    Exec LimiterSystem.InOrder LimiterSystem.step start tr s ∧ passedAt 5 tr = 1 ∧
      passedAt 5 tr ≤ 1 := by
  have hrun : (Exec.run (Exec.checked LimiterSystem.InOrder LimiterSystem.step) start inOrder).any
      (fun x => passedAt 5 x.1 = 1) = true := by decide
  cases hres : Exec.run (Exec.checked LimiterSystem.InOrder LimiterSystem.step) start inOrder with
  | none => simp [hres] at hrun
  | some x =>
    have hr : Exec LimiterSystem.InOrder LimiterSystem.step start x.1 x.2 :=
      Exec.of_checked (by simpa using Exec.of_run .nil hres)
    refine ⟨x.1, x.2, hr, ?_, issuance_rate_limited initial_start hr 5⟩
    simpa [hres] using hrun

open LimiterSample in
/-- A call that read its second before the clock moved on, and reaches the limiter after a call of the
    next second, starts its second afresh: two calls of the second pass where one is allowed. -/
theorem issuance_rate_exceeded : ∃ tr s, start.Initial ∧ start.source.issuanceRateLimit = 1 ∧
    Exec Exec.anyStep LimiterSystem.step start tr s ∧ passedAt 5 tr = 2 := by
  have hrun : (Exec.run LimiterSystem.step start overtaken).any (fun x => passedAt 5 x.1 = 2) = true := by
    decide
  cases hres : Exec.run LimiterSystem.step start overtaken with
  | none => simp [hres] at hrun
  | some x =>
    refine ⟨x.1, x.2, initial_start, rfl, by simpa using Exec.of_run .nil hres, ?_⟩
    simpa [hres] using hrun

/-! ## The source as a table that is never pruned -/

namespace InMemoryServerNonceSource

variable {s : InMemoryServerNonceSource} {now t : Nat}

theorem nowSecs_ofSecs (n : Nat) : nowSecs (SystemTime.ofSecs n) = n := by
  rw [nowSecs, SystemTime.unixSecs_ofSecs]
  rfl

/-- The limiter only writes its own fields. -/
theorem limit_fields (s : InMemoryServerNonceSource) (now : Nat) :
    (s.limit now).2.nonces = s.nonces ∧ (s.limit now).2.ttl = s.ttl ∧
      (s.limit now).2.singleUse = s.singleUse := by
  unfold limit window
  dsimp only
  split <;> split <;> exact ⟨rfl, rfl, rfl⟩

theorem agreeAt_prunedNonces (s : InMemoryServerNonceSource) (h : now ≤ t) :
    AgreeAt expiredAt t (fun k => (s.prunedNonces now).lookup k) (fun k => s.nonces.lookup k) := by
  unfold prunedNonces
  split
  · exact Expiring.agreeAt_prune DPoPReplayCache.persistent_expiredAt h s.nonces
  · exact AgreeAt.refl _

theorem size_prunedNonces_le (s : InMemoryServerNonceSource) (now : Nat) :
    (s.prunedNonces now).size ≤ s.nonces.size := by
  unfold prunedNonces
  split
  · exact Expiring.size_prune_le _
  · exact le_refl _

/-- What `generate_nonce` does at a second: it fails and shows the same nonces, or it returns the nonce
    it drew, which then lives for the lifetime of the source. -/
theorem generateNonce_cases (s : InMemoryServerNonceSource) (now : Nat) (raw : List UInt8) :
    let (result, s') := s.generateNonce (SystemTime.ofSecs now) raw
    s'.ttl = s.ttl ∧ s'.singleUse = s.singleUse ∧
      (s.nonces.size ≤ NONCE_CACHE_CAPACITY → s'.nonces.size ≤ NONCE_CACHE_CAPACITY) ∧
      ((∃ e, result = .error e ∧
          AgreeAt expiredAt now (fun k => s'.nonces.lookup k) (fun k => s.nonces.lookup k)) ∨
        result = .ok (base64urlEncode raw) ∧
          AgreeAt expiredAt now (fun k => s'.nonces.lookup k)
            (Function.update (fun k => s.nonces.lookup k) (base64urlEncode raw)
              (some (saturatingAdd now s.ttl.asSecs)))) := by
  rw [generateNonce, nowSecs_ofSecs]
  obtain ⟨hnonces, httl, hsingle⟩ := s.limit_fields now
  cases hlimit : s.limit now with
  | mk passes s₁ =>
    rw [hlimit] at hnonces httl hsingle
    dsimp only at hnonces httl hsingle
    cases passes with
    | false =>
      refine ⟨httl, hsingle, fun h => by rwa [hnonces], Or.inl ⟨_, rfl, ?_⟩⟩
      rw [hnonces]
      exact AgreeAt.refl _
    | true =>
      have hagree := s₁.agreeAt_prunedNonces (le_refl now)
      have hsize := s₁.size_prunedNonces_le now
      rw [hnonces] at hagree hsize
      dsimp only [issue]
      by_cases hfull : NONCE_CACHE_CAPACITY ≤ (s₁.prunedNonces now).size
      · rw [if_pos hfull]
        exact ⟨httl, hsingle, fun h => hsize.trans h, Or.inl ⟨_, rfl, hagree⟩⟩
      · rw [if_neg hfull]
        refine ⟨httl, hsingle, fun _ => ?_, Or.inr ⟨rfl, ?_⟩⟩
        · exact (AList.size_insert_le _ _ _).trans (Nat.lt_of_not_le hfull)
        · rw [AList.lookup_insert_fun, httl]
          exact hagree.update _ _

theorem eq_of_generateNonce_eq_ok {raw : List UInt8} {n : String}
    (h : (s.generateNonce (SystemTime.ofSecs now) raw).1 = .ok n) : n = base64urlEncode raw := by
  have hspec := s.generateNonce_cases now raw
  cases hres : s.generateNonce (SystemTime.ofSecs now) raw with
  | mk result s' =>
    rw [hres] at hspec h
    obtain ⟨-, -, -, ⟨e, rfl, -⟩ | ⟨rfl, -⟩⟩ := hspec
    · cases h
    · cases h
      rfl

/-- What `verify_nonce` does at a second: it accepts the trimmed text if it is a visible nonce, which
    single use then removes. -/
theorem verifyNonce_cases (s : InMemoryServerNonceSource) (nonce : String) (now : Nat) :
    let (result, s') := s.verifyNonce nonce (SystemTime.ofSecs now)
    s'.ttl = s.ttl ∧ s'.singleUse = s.singleUse ∧ s'.nonces.size ≤ s.nonces.size ∧
      result = (live expiredAt now (s.nonces.lookup (Text.trim nonce))).isSome ∧
      (fun k => s'.nonces.lookup k) =
        if s.singleUse = true ∧ result = true then
          Function.update (fun k => s.nonces.lookup k) (Text.trim nonce) none
        else fun k => s.nonces.lookup k := by
  have hlive : ((s.nonces.lookup (Text.trim nonce)).any fun exp => nowSecs (SystemTime.ofSecs now) < exp) =
      (live expiredAt now (s.nonces.lookup (Text.trim nonce))).isSome := by
    rw [nowSecs_ofSecs]
    exact DPoPReplayCache.any_live _ _
  unfold verifyNonce
  dsimp only
  rw [hlive]
  by_cases huse : s.singleUse = true ∧ (live expiredAt now (s.nonces.lookup (Text.trim nonce))).isSome = true
  · rw [if_pos huse]
    refine ⟨rfl, rfl, AList.size_erase_le _ _, huse.2.symm, ?_⟩
    rw [if_pos ⟨huse.1, rfl⟩]
    exact AList.lookup_erase_fun _ _
  · rw [if_neg huse]
    refine ⟨rfl, rfl, le_refl _, rfl, ?_⟩
    rw [if_neg huse]

end InMemoryServerNonceSource

/-- What an event does to the nonce `key` of a table that is never pruned. -/
def NonceEvent.write (ttlSecs : Nat) (singleUse : Bool) (key : String) :
    NonceEvent → Option (Option Nat)
  | .generated (.ok nonce) now =>
    if nonce = key then some (some (saturatingAdd now ttlSecs)) else none
  | .verified nonce true _ => if singleUse = true ∧ Text.trim nonce = key then some none else none
  | _ => none

/-- The event is a call of `verify_nonce` that accepted this nonce. -/
def NonceEvent.Accepts (key : String) (e : NonceEvent) : Prop :=
  ∃ nonce now, e = .verified nonce true now ∧ Text.trim nonce = key

theorem NonceEvent.write_cases (ttlSecs : Nat) (singleUse : Bool) (key : String) (e : NonceEvent) :
    (e.write ttlSecs singleUse key = none ∧ ¬(singleUse = true ∧ e.Accepts key)) ∨
      (e.write ttlSecs singleUse key = some none ∧ singleUse = true ∧ e.Accepts key) ∨
      ∃ now, e = .generated (.ok key) now := by
  cases e with
  | silent => exact Or.inl ⟨rfl, by simp [Accepts]⟩
  | generated result now =>
    cases result with
    | error err => exact Or.inl ⟨rfl, by simp [Accepts]⟩
    | ok nonce =>
      by_cases hkey : nonce = key
      · exact Or.inr (Or.inr ⟨now, by rw [hkey]⟩)
      · exact Or.inl ⟨if_neg hkey, by simp [Accepts]⟩
  | verified nonce result now =>
    cases result with
    | false => exact Or.inl ⟨rfl, by simp [Accepts]⟩
    | true =>
      by_cases huse : singleUse = true ∧ Text.trim nonce = key
      · exact Or.inr (Or.inl ⟨if_pos huse, huse.1, nonce, now, rfl, huse.2⟩)
      · refine Or.inl ⟨if_neg huse, ?_⟩
        rintro ⟨hsingle, nonce', now', heq, hkey⟩
        cases heq
        exact huse ⟨hsingle, hkey⟩

/-- The event is a call of `verify_nonce` on this nonce. -/
def NonceEvent.Verifies (key : String) (e : NonceEvent) : Prop :=
  ∃ nonce result now, e = .verified nonce result now ∧ Text.trim nonce = key

namespace NonceSystem

variable {s s' s₀ : NonceSystem} {a b : NonceAction} {e : NonceEvent}
  {tr : List (NonceAction × NonceEvent)} {ttlSecs : Nat} {singleUse : Bool}

/-- The expiry of each nonce in the table that is never pruned. -/
def ideal (ttlSecs : Nat) (singleUse : Bool) (tr : List (NonceAction × NonceEvent)) (key : String) :
    Option Nat :=
  History.latest (fun x => x.2.write ttlSecs singleUse key) tr

/-- What holds in every state of a run. -/
structure Tracked (ttlSecs : Nat) (singleUse : Bool) (tr : List (NonceAction × NonceEvent))
    (s : NonceSystem) : Prop where
  ttl : s.source.ttl.asSecs = ttlSecs
  mode : s.source.singleUse = singleUse
  clock : s.clock < SYSTEM_TIME_END_SECS
  agree : AgreeAt expiredAt s.clock (fun k => s.source.nonces.lookup k) (ideal ttlSecs singleUse tr)
  size : s.source.nonces.size ≤ NONCE_CACHE_CAPACITY
  returned : ∀ n, n ∈ s.returned ↔ ∃ a g, (a, .generated (.ok n) g) ∈ tr
  times : ∀ a m r t, (a, NonceEvent.verified m r t) ∈ tr → t ≤ s.clock

theorem ideal_snoc (key : String) : ideal ttlSecs singleUse (tr ++ [(a, e)]) key =
    (e.write ttlSecs singleUse key).getD (ideal ttlSecs singleUse tr key) :=
  History.latest_snoc

/-- A step that shows nothing and after which the same nonces can be verified. -/
theorem Tracked.silent (h : Tracked ttlSecs singleUse tr s) (httl : s'.source.ttl = s.source.ttl)
    (hsingle : s'.source.singleUse = s.source.singleUse) (hle : s.clock ≤ s'.clock)
    (hclock : s'.clock < SYSTEM_TIME_END_SECS)
    (hagree : AgreeAt expiredAt s'.clock (fun k => s'.source.nonces.lookup k)
      (fun k => s.source.nonces.lookup k))
    (hsize : s'.source.nonces.size ≤ s.source.nonces.size) (hreturned : s'.returned = s.returned) :
    Tracked ttlSecs singleUse (tr ++ [(a, .silent)]) s' := by
  refine ⟨by rw [httl, h.ttl], by rw [hsingle, h.mode], hclock, ?_, hsize.trans h.size, ?_, ?_⟩
  · have hideal : ideal ttlSecs singleUse (tr ++ [(a, .silent)]) = ideal ttlSecs singleUse tr :=
      funext fun k => ideal_snoc k
    rw [hideal]
    exact hagree.trans (h.agree.mono DPoPReplayCache.persistent_expiredAt hle)
  · intro n
    simp [hreturned, h.returned n]
  · intro a' m r t hmem
    simp only [List.mem_append, List.mem_singleton, Prod.mk.injEq, reduceCtorEq, and_false,
      or_false] at hmem
    exact (h.times a' m r t hmem).trans hle

theorem Tracked.generateNonce (h : Tracked ttlSecs singleUse tr s) (raw : List UInt8) :
    let (result, source) := s.source.generateNonce (SystemTime.ofSecs s.clock) raw
    Tracked ttlSecs singleUse (tr ++ [(a, .generated result s.clock)])
      { s with source := source, returned := result.toOption.toList ++ s.returned } := by
  have hspec := s.source.generateNonce_cases s.clock raw
  cases hres : s.source.generateNonce (SystemTime.ofSecs s.clock) raw with
  | mk result source =>
    rw [hres] at hspec
    obtain ⟨httl, hsingle, hsize, hcases⟩ := hspec
    refine ⟨by rw [← h.ttl, httl], by rw [← h.mode, hsingle], h.clock, ?_, hsize h.size, ?_, ?_⟩
    · rcases hcases with ⟨err, rfl, hagree⟩ | ⟨rfl, hagree⟩
      · have hideal : ideal ttlSecs singleUse (tr ++ [(a, .generated (.error err) s.clock)]) =
            ideal ttlSecs singleUse tr := funext fun k => ideal_snoc k
        rw [hideal]
        exact hagree.trans h.agree
      · have hideal : ideal ttlSecs singleUse
            (tr ++ [(a, .generated (.ok (base64urlEncode raw)) s.clock)]) =
            Function.update (ideal ttlSecs singleUse tr) (base64urlEncode raw)
              (some (saturatingAdd s.clock s.source.ttl.asSecs)) := by
          rw [← History.getD_ite_eq_update, h.ttl]
          exact funext fun k => ideal_snoc k
        rw [hideal]
        exact hagree.trans (h.agree.update _ _)
    · intro n
      rcases hcases with ⟨err, rfl, -⟩ | ⟨rfl, -⟩
      · simp [Except.toOption, h.returned n]
      · simp only [Except.toOption, Option.toList_some, List.singleton_append, List.mem_cons, h.returned n,
          List.mem_append, Prod.mk.injEq, NonceEvent.generated.injEq, Except.ok.injEq, List.not_mem_nil,
          or_false]
        constructor
        · rintro (rfl | ⟨a', g, hmem⟩)
          · exact ⟨a, s.clock, Or.inr ⟨rfl, rfl, rfl⟩⟩
          · exact ⟨a', g, Or.inl hmem⟩
        · rintro ⟨a', g, hmem | ⟨-, rfl, -⟩⟩
          · exact Or.inr ⟨a', g, hmem⟩
          · exact Or.inl rfl
    · intro a' m r t hmem
      simp only [List.mem_append, List.mem_singleton, Prod.mk.injEq, reduceCtorEq, and_false,
        or_false] at hmem
      exact h.times a' m r t hmem

/-- A call of `verify_nonce` answers as the table that is never pruned, and empties it as single use
    says. -/
theorem Tracked.verifyNonce (h : Tracked ttlSecs singleUse tr s) (nonce : String) :
    let (result, source) := s.source.verifyNonce nonce (SystemTime.ofSecs s.clock)
    result = (live expiredAt s.clock (ideal ttlSecs singleUse tr (Text.trim nonce))).isSome ∧
      Tracked ttlSecs singleUse (tr ++ [(a, .verified nonce result s.clock)])
        { s with source := source } := by
  have hspec := s.source.verifyNonce_cases nonce s.clock
  cases hres : s.source.verifyNonce nonce (SystemTime.ofSecs s.clock) with
  | mk result source =>
    rw [hres] at hspec
    obtain ⟨httl, hsingle, hsize, hresult, hlookup⟩ := hspec
    refine ⟨hresult.trans (congrArg Option.isSome (h.agree _)), ?_⟩
    refine ⟨by rw [← h.ttl, httl], by rw [← h.mode, hsingle], h.clock, ?_, hsize.trans h.size, ?_, ?_⟩
    · show AgreeAt expiredAt s.clock (fun k => source.nonces.lookup k) _
      rw [hlookup, h.mode]
      by_cases huse : singleUse = true ∧ result = true
      · rw [if_pos huse]
        have hideal : ideal ttlSecs singleUse (tr ++ [(a, .verified nonce result s.clock)]) =
            Function.update (ideal ttlSecs singleUse tr) (Text.trim nonce) none := by
          rw [← History.getD_ite_eq_update]
          funext k
          rw [ideal_snoc, huse.2]
          simp [NonceEvent.write, huse.1]
        rw [hideal]
        exact h.agree.update _ _
      · rw [if_neg huse]
        have hideal : ideal ttlSecs singleUse (tr ++ [(a, .verified nonce result s.clock)]) =
            ideal ttlSecs singleUse tr := by
          funext k
          rw [ideal_snoc]
          cases result with
          | false => rfl
          | true => simp [NonceEvent.write, show singleUse = false by simpa using huse]
        rw [hideal]
        exact h.agree
    · intro n
      simp [h.returned n]
    · intro a' m r t hmem
      simp only [List.mem_append, List.mem_singleton, Prod.mk.injEq, NonceEvent.verified.injEq] at hmem
      rcases hmem with hmem | ⟨-, -, -, rfl⟩
      · exact h.times a' m r t hmem
      · exact le_refl _

theorem Tracked.initial (h : s.Initial) :
    Tracked s.source.ttl.asSecs s.source.singleUse [] s := by
  refine ⟨rfl, rfl, h.clock, ?_, ?_, ?_, ?_⟩
  · rw [h.nonces]
    exact AgreeAt.refl _
  · rw [h.nonces]
    exact Nat.zero_le _
  · simp [h.returned]
  · simp

theorem Tracked.step (h : Tracked ttlSecs singleUse tr s) (hok : s.Permitted a)
    (hstep : s.step a = some (s', e)) : Tracked ttlSecs singleUse (tr ++ [(a, e)]) s' := by
  cases a with
  | tick now =>
    simp only [NonceSystem.step] at hstep
    split at hstep
    · rename_i hnow
      cases hstep
      exact h.silent rfl rfl hnow.1 hnow.2 (AgreeAt.refl _) (le_refl _) rfl
    · cases hstep
  | generateNonce raw =>
    simp only [NonceSystem.step, Option.some.injEq, Prod.mk.injEq] at hstep
    obtain ⟨rfl, rfl⟩ := hstep
    exact h.generateNonce raw
  | verifyNonce nonce =>
    simp only [NonceSystem.step, Option.some.injEq, Prod.mk.injEq] at hstep
    obtain ⟨rfl, rfl⟩ := hstep
    exact (h.verifyNonce nonce).2
  | pruneExpired now =>
    simp only [NonceSystem.step, Option.some.injEq, Prod.mk.injEq] at hstep
    obtain ⟨rfl, rfl⟩ := hstep
    have hagree := Expiring.agreeAt_prune DPoPReplayCache.persistent_expiredAt
      (show now ≤ s.clock from hok) s.source.nonces
    exact h.silent rfl rfl (le_refl _) h.clock hagree (Expiring.size_prune_le _) rfl

theorem step_generated {n : String} {g : Nat} (h : s.step a = some (s', .generated (.ok n) g)) :
    ∃ raw, a = .generateNonce raw ∧ n = base64urlEncode raw := by
  cases a with
  | tick now =>
    simp only [NonceSystem.step] at h
    split at h <;> cases h
  | generateNonce raw =>
    simp only [NonceSystem.step, Option.some.injEq, Prod.mk.injEq, NonceEvent.generated.injEq] at h
    exact ⟨raw, rfl, InMemoryServerNonceSource.eq_of_generateNonce_eq_ok h.2.1⟩
  | verifyNonce nonce => simp [NonceSystem.step] at h
  | pruneExpired now => simp [NonceSystem.step] at h

theorem step_verified {m : String} {r : Bool} {t : Nat} (h : s.step a = some (s', .verified m r t)) :
    r = (s.source.verifyNonce m (SystemTime.ofSecs s.clock)).1 ∧ t = s.clock := by
  cases a with
  | tick now =>
    simp only [NonceSystem.step] at h
    split at h <;> cases h
  | generateNonce raw => simp [NonceSystem.step] at h
  | verifyNonce nonce =>
    simp only [NonceSystem.step, Option.some.injEq, Prod.mk.injEq, NonceEvent.verified.injEq] at h
    obtain ⟨-, rfl, rfl, rfl⟩ := h
    exact ⟨rfl, rfl⟩
  | pruneExpired now => simp [NonceSystem.step] at h

/-! ## Runs -/

section Runs

variable (hinit : s₀.Initial)

include hinit

theorem tracked_of_run (hr : Exec Permitted NonceSystem.step s₀ tr s) :
    Tracked s₀.source.ttl.asSecs s₀.source.singleUse tr s :=
  hr.invariant _ (.initial hinit) fun _ _ _ _ _ h hok hstep => h.step hok hstep

/-- A nonce that was returned is not drawn again. -/
theorem generated_once {pre post : List (NonceAction × NonceEvent)} {n : String} {g g' : Nat}
    (hr : Exec Permitted NonceSystem.step s₀ tr s)
    (htr : tr = pre ++ (b, .generated (.ok n) g') :: post) : (a, .generated (.ok n) g) ∉ pre := by
  intro hmem
  obtain ⟨s₁, s₂, hpre, hok, hstep⟩ := hr.split_at htr
  obtain ⟨raw, rfl, hraw⟩ := step_generated hstep
  have hreturned := ((tracked_of_run hinit hpre).returned n).2 ⟨a, g, hmem⟩
  exact hok (hraw ▸ hreturned)

/-- A call of `verify_nonce` in a run answers as the table that is never pruned. -/
theorem verified_eq {pre post : List (NonceAction × NonceEvent)} {m : String} {r : Bool} {t : Nat}
    (hr : Exec Permitted NonceSystem.step s₀ tr s) (htr : tr = pre ++ (a, .verified m r t) :: post) :
    t < SYSTEM_TIME_END_SECS ∧ (∀ b m r t', (b, NonceEvent.verified m r t') ∈ pre → t' ≤ t) ∧
      r = (live expiredAt t
        (ideal s₀.source.ttl.asSecs s₀.source.singleUse pre (Text.trim m))).isSome := by
  obtain ⟨s₁, s₂, hpre, hok, hstep⟩ := hr.split_at htr
  have htracked := tracked_of_run hinit hpre
  obtain ⟨rfl, rfl⟩ := step_verified hstep
  exact ⟨htracked.clock, htracked.times, (htracked.verifyNonce (a := a) m).1⟩

/-- The nonce that was returned at `g`, in the table that is never pruned: it stays until single use
    takes it out. -/
theorem ideal_of_generated {pre mid : List (NonceAction × NonceEvent)} {n : String} {g : Nat}
    (hr : Exec Permitted NonceSystem.step s₀ tr s)
    (htr : tr = pre ++ (a, .generated (.ok n) g) :: mid) :
    (ideal s₀.source.ttl.asSecs s₀.source.singleUse tr n =
        some (saturatingAdd g s₀.source.ttl.asSecs) ∧
          ¬(s₀.source.singleUse = true ∧ ∃ x ∈ mid, x.2.Accepts n)) ∨
      ideal s₀.source.ttl.asSecs s₀.source.singleUse tr n = none ∧
        s₀.source.singleUse = true ∧ ∃ x ∈ mid, x.2.Accepts n := by
  -- induction on what followed, of which the nonce's own draw cannot be a part
  induction mid using List.reverseRecOn generalizing tr s with
  | nil =>
    refine Or.inl ⟨?_, by simp⟩
    rw [htr, ideal_snoc]
    simp [NonceEvent.write]
  | append_singleton mid x ih =>
    obtain ⟨b, e⟩ := x
    have hsplit : tr = (pre ++ (a, .generated (.ok n) g) :: mid) ++ (b, e) :: [] := by rw [htr]; simp
    obtain ⟨s₁, -, hmid, -, -⟩ := hr.split_at hsplit
    have hsnoc : (∃ x ∈ mid ++ [(b, e)], x.2.Accepts n) ↔
        (∃ x ∈ mid, x.2.Accepts n) ∨ e.Accepts n := by
      simp only [List.mem_append, List.mem_singleton, or_and_right, exists_or, exists_eq_left]
    rw [hsnoc, hsplit, ideal_snoc]
    rcases e.write_cases s₀.source.ttl.asSecs s₀.source.singleUse n with
      ⟨hwrite, hnot⟩ | ⟨hwrite, hsingle, haccepts⟩ | ⟨g', rfl⟩
    · rw [hwrite, Option.getD_none]
      rcases ih hmid rfl with ⟨hideal, hnone⟩ | ⟨hideal, hsingle, hsome⟩
      · refine Or.inl ⟨hideal, ?_⟩
        rintro ⟨hsingle, hsome | haccepts⟩
        · exact hnone ⟨hsingle, hsome⟩
        · exact hnot ⟨hsingle, haccepts⟩
      · exact Or.inr ⟨hideal, hsingle, Or.inl hsome⟩
    · rw [hwrite, Option.getD_some]
      exact Or.inr ⟨rfl, hsingle, Or.inr haccepts⟩
    · exact absurd (by simp) (generated_once hinit (a := a) (g := g) hr hsplit)

/-- The answer to a call on a nonce that was returned at `g`. -/
theorem verified_iff {pre mid post : List (NonceAction × NonceEvent)} {n m : String} {r : Bool}
    {g t : Nat} (hr : Exec Permitted NonceSystem.step s₀ tr s)
    (htr : tr = pre ++ (a, .generated (.ok n) g) :: (mid ++ (b, .verified m r t) :: post))
    (hm : Text.trim m = n) :
    r = true ↔ t < g + s₀.source.ttl.asSecs ∧
      ¬(s₀.source.singleUse = true ∧ ∃ x ∈ mid, x.2.Accepts n) := by
  have hsplit : tr = (pre ++ (a, .generated (.ok n) g) :: mid) ++ (b, .verified m r t) :: post := by
    rw [htr]
    simp
  obtain ⟨hclock, -, hanswer⟩ := verified_eq hinit hr hsplit
  obtain ⟨s₁, -, hmid, -, -⟩ := hr.split_at hsplit
  rw [hanswer, hm]
  rcases ideal_of_generated hinit hmid rfl with ⟨hideal, hnone⟩ | ⟨hideal, hsome⟩
  · rw [hideal, ← DPoPReplayCache.any_live]
    simp only [hnone, not_false_eq_true, and_true, Option.any_some, decide_eq_true_eq]
    unfold SYSTEM_TIME_END_SECS at hclock
    unfold saturatingAdd U64_MAX
    omega
  · rw [hideal]
    simp [hsome]

/-- In single-use mode a nonce that can still be verified has been accepted by the first call on it. -/
theorem accepted_of_verified {pre mid post : List (NonceAction × NonceEvent)} {n m : String} {r : Bool}
    {g t : Nat} (hr : Exec Permitted NonceSystem.step s₀ tr s)
    (htr : tr = pre ++ (a, .generated (.ok n) g) :: (mid ++ (b, .verified m r t) :: post))
    (ht : t < g + s₀.source.ttl.asSecs) {x : NonceAction × NonceEvent} (hx : x ∈ mid)
    (hverifies : x.2.Verifies n) : ∃ x ∈ mid, x.2.Accepts n := by
  obtain ⟨b', e⟩ := x
  obtain ⟨m', r', t', rfl, hm'⟩ := hverifies
  have hsplit : tr = (pre ++ (a, .generated (.ok n) g) :: mid) ++ (b, .verified m r t) :: post := by
    rw [htr]
    simp
  have hle : t' ≤ t := (verified_eq hinit hr hsplit).2.1 b' m' r' t' (by simp [hx])
  obtain ⟨before, after, rfl⟩ := List.append_of_mem hx
  have hsplit' : tr = pre ++ (a, .generated (.ok n) g) ::
      (before ++ (b', .verified m' r' t') :: (after ++ (b, .verified m r t) :: post)) := by
    rw [htr]
    simp
  by_cases hbefore : ∃ x ∈ before, x.2.Accepts n
  · obtain ⟨x, hmem, haccepts⟩ := hbefore
    exact ⟨x, List.mem_append_left _ hmem, haccepts⟩
  · have hr' : r' = true :=
      (verified_iff hinit hr hsplit' hm').2 ⟨Nat.lt_of_le_of_lt hle ht, fun h => hbefore h.2⟩
    exact ⟨_, hx, m', t', by rw [hr'], hm'⟩

end Runs

end NonceSystem

/-- Server nonces. A nonce returned at second `g` is accepted by a later call exactly if it is not older
    than the lifetime of the source and, in single-use mode, no call on it came before; nothing else is
    accepted, and the table stays within its capacity. -/
theorem server_nonce_lifetime {s₀ s : NonceSystem} {tr : List (NonceAction × NonceEvent)}
    (hinit : s₀.Initial) (hr : Exec NonceSystem.Permitted NonceSystem.step s₀ tr s) :
    (∀ pre a n g rest, tr = pre ++ (a, .generated (.ok n) g) :: rest →
      Text.trim n = n ∧
        ∀ mid b m result t post, rest = mid ++ (b, .verified m result t) :: post → Text.trim m = n →
          (result = true ↔ t < g + s₀.source.ttl.asSecs ∧
            (s₀.source.singleUse = true → ∀ x ∈ mid, ¬x.2.Verifies n))) ∧
      (∀ pre a m t post, tr = pre ++ (a, .verified m true t) :: post →
        ∃ b g, (b, .generated (.ok (Text.trim m)) g) ∈ pre) ∧
      s.source.nonces.size ≤ NONCE_CACHE_CAPACITY := by
  refine ⟨fun pre a n g rest htr => ⟨?_, ?_⟩, fun pre a m t post htr => ?_, ?_⟩
  · obtain ⟨s₁, s₂, -, -, hstep⟩ := hr.split_at htr
    obtain ⟨raw, -, rfl⟩ := NonceSystem.step_generated hstep
    exact Base64.trim_encode raw
  · intro mid b m result t post hrest hm
    rw [hrest] at htr
    have hiff := NonceSystem.verified_iff hinit hr htr hm
    rw [hiff]
    constructor
    · rintro ⟨ht, hnone⟩
      refine ⟨ht, fun hsingle x hx hverifies => hnone ⟨hsingle, ?_⟩⟩
      exact NonceSystem.accepted_of_verified hinit hr htr ht hx hverifies
    · rintro ⟨ht, hfirst⟩
      refine ⟨ht, ?_⟩
      rintro ⟨hsingle, x, hx, nonce, now, heq, hkey⟩
      exact hfirst hsingle x hx ⟨nonce, true, now, heq, hkey⟩
  · obtain ⟨-, -, hanswer⟩ := NonceSystem.verified_eq hinit hr htr
    obtain ⟨exp, hlive⟩ := Option.isSome_iff_exists.1 hanswer.symm
    obtain ⟨before, ⟨b, e⟩, after, rfl, hwrite, -⟩ :=
      History.exists_write_of_latest (Expiring.live_eq_some.1 hlive).1
    rcases e.write_cases s₀.source.ttl.asSecs s₀.source.singleUse (Text.trim m) with
      ⟨hnone, -⟩ | ⟨hnone, -⟩ | ⟨g, rfl⟩
    · rw [hnone] at hwrite
      cases hwrite
    · rw [hnone] at hwrite
      cases hwrite
    · exact ⟨b, g, by simp⟩
  · exact (NonceSystem.tracked_of_run hinit hr).size

namespace NonceSample

def nonce : String := "AQID"

/-- A single-use source with a lifetime of five minutes. -/
def start : NonceSystem where
  source := (InMemoryServerNonceSource.new (Duration.fromSecs 300 Duration.five_minutes_lt)).withSingleUse
  clock := 5
  returned := []

theorem initial_start : start.Initial := ⟨rfl, by decide, rfl⟩

def actions : List NonceAction :=
  [.generateNonce [1, 2, 3], .tick 200, .pruneExpired 200, .verifyNonce nonce, .verifyNonce nonce]

def trace : List (NonceAction × NonceEvent) :=
  [(.generateNonce [1, 2, 3], .generated (.ok nonce) 5), (.tick 200, .silent),
    (.pruneExpired 200, .silent), (.verifyNonce nonce, .verified nonce true 200),
    (.verifyNonce nonce, .verified nonce false 200)]

end NonceSample

open NonceSample in
theorem server_nonce_lifetime_sample : ∃ s,
    Exec NonceSystem.Permitted NonceSystem.step start trace s ∧ 200 < 5 + start.source.ttl.asSecs ∧
      Text.trim nonce = nonce ∧ s.source.nonces.size ≤ NONCE_CACHE_CAPACITY := by
  have hrun : (Exec.run (Exec.checked NonceSystem.Permitted NonceSystem.step) start actions).map
      Prod.fst = some trace := by rfl
  obtain ⟨⟨tr, s⟩, hres, rfl⟩ := Option.map_eq_some_iff.1 hrun
  have hr : Exec NonceSystem.Permitted NonceSystem.step start trace s :=
    Exec.of_checked (by simpa using Exec.of_run .nil hres)
  obtain ⟨hnonces, -, hsize⟩ := server_nonce_lifetime initial_start hr
  obtain ⟨htrim, hverify⟩ := hnonces [] _ nonce 5 _ rfl
  have haccepted := hverify [(.tick 200, .silent), (.pruneExpired 200, .silent)] _ nonce true 200 _ rfl htrim
  exact ⟨s, hr, (haccepted.1 rfl).1, htrim, hsize⟩

end Skyauth
