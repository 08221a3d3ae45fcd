import Skyauth.Admission
import Skyauth.Proofs.DpopProofs
import Skyauth.Proofs.ReplayCacheProofs

/-!
# Proofs: how often one proof is accepted

While the recorded entry of an accepted proof is live, every further admission of the proof is
refused, whatever the other tasks do: pruning at the clock or before drops dead entries only, and the
other proofs have other keys. So a proof is accepted at most once in every run whose admitting calls
come before the expiry of the acceptance.
The condition cannot be dropped: the entry dies at `now + age + skew`, a second at which a proof that
was dated `skew` ahead still passes the age check.
-/

namespace Skyauth

open Expiring DPoPReplayCache

/-! ## Recording a pair -/

namespace DPoPVerifier

/-- The entry of a key in the replay cache of a verifier. -/
def entry (v : DPoPVerifier) (key : String) : Option Nat := v.replayCache.bind (·.find key)

variable {v : DPoPVerifier} {jkt jti key : String} {exp now t : Nat}

theorem isSome_replayCache_record (h : v.replayCache.isSome) :
    (v.record jkt jti exp now).2.replayCache.isSome := by
  obtain ⟨c, hc⟩ := Option.isSome_iff_exists.1 h
  simp [record, hc]

/-- Recording changes nothing but the cache. -/
theorem record_eq_with_cache (v : DPoPVerifier) (jkt jti : String) (exp now : Nat) :
    (v.record jkt jti exp now).2 =
      { v with replayCache := (v.record jkt jti exp now).2.replayCache } := by
  obtain ⟨skew, age, _ | c⟩ := v <;> rfl

/-- Recording does not change when an admission expires. -/
theorem expiresAt_record (v : DPoPVerifier) (jkt jti : String) (exp now : Nat) :
    (v.record jkt jti exp now).2.expiresAt = v.expiresAt := by
  rw [v.record_eq_with_cache jkt jti exp now]
  rfl

/-- Recording does not change the time checks. -/
theorem checkTime_record (v : DPoPVerifier) (jkt jti : String) (exp now : Nat) :
    (v.record jkt jti exp now).2.checkTime = v.checkTime := by
  rw [v.record_eq_with_cache jkt jti exp now]
  rfl

/-- Recording another key leaves a live entry in place. -/
theorem entry_record_of_ne (hne : key ≠ compositeKey jkt jti) (hnt : now ≤ t) {e : Nat}
    (he : v.entry key = some e) (hlive : t < e) : (v.record jkt jti exp now).2.entry key = some e := by
  have hx : expiredAt e t = false := by simp [expiredAt, hlive]
  cases hc : v.replayCache with
  | none => simp [entry, hc] at he
  | some c =>
    have hf : c.find key = some e := by simpa [entry, hc] using he
    rcases checkAndRecord_cases c jkt jti exp now with ⟨-, h⟩ | ⟨-, -, h⟩ | ⟨-, -, h⟩
    · simpa [entry, record, hc, h] using hf
    · simpa [entry, record, hc, h] using (agreeAt_find_saturated c _ hnt).eq_some hf hx
    · have hu : Function.update c.find (compositeKey jkt jti) (some exp) key = some e := by
        rw [Function.update_of_ne hne, hf]
      simpa [entry, record, hc, h] using (agreeAt_find_admitted c _ exp hnt).eq_some hu hx

/-- A live entry makes the next admission of its pair fail without a change. -/
theorem record_of_live {e : Nat} (he : v.entry (compositeKey jkt jti) = some e) (hlive : now < e) :
    v.record jkt jti exp now = (.error (.replayDetected jti), v) := by
  cases hc : v.replayCache with
  | none => simp [entry, hc] at he
  | some c =>
    have hf : c.find (compositeKey jkt jti) = some e := by simpa [entry, hc] using he
    have hl : live expiredAt now (c.find (compositeKey jkt jti)) = some e :=
      live_eq_some.2 ⟨hf, by simp [expiredAt, hlive]⟩
    rcases checkAndRecord_cases c jkt jti exp now with ⟨-, h⟩ | ⟨h, -⟩ | ⟨h, -⟩
    · obtain ⟨skew, age, cache⟩ := v
      simp only at hc
      subst hc
      simp [record, h]
    · simp [hl] at h
    · simp [hl] at h

/-- An admission that succeeds leaves its entry, as far as it is live. -/
theorem entry_record_of_ok (h : v.replayCache.isSome) (hok : (v.record jkt jti exp now).1 = .ok ())
    (hnt : now ≤ t) (hlive : t < exp) :
    (v.record jkt jti exp now).2.entry (compositeKey jkt jti) = some exp := by
  obtain ⟨c, hc⟩ := Option.isSome_iff_exists.1 h
  have hx : expiredAt exp t = false := by simp [expiredAt, hlive]
  rcases checkAndRecord_cases c jkt jti exp now with ⟨-, h⟩ | ⟨-, -, h⟩ | ⟨-, -, h⟩
  · simp [record, hc, h] at hok
  · simp [record, hc, h] at hok
  · simpa [entry, record, hc, h] using
      (agreeAt_find_admitted c _ exp hnt).eq_some (Function.update_self ..) hx

/-- Pruning up to `t` leaves an entry that is live at `t`. -/
theorem entry_pruneExpired {e : Nat} (he : v.entry key = some e) (hlive : t < e) :
    (v.pruneReplayCache t).entry key = some e := by
  cases hc : v.replayCache with
  | none => simp [entry, hc] at he
  | some c =>
    have hf : c.find key = some e := by simpa [entry, hc] using he
    have hx : expiredAt e t = false := by simp [expiredAt, hlive]
    simpa [entry, pruneReplayCache, hc] using (agreeAt_find_pruneExpired c le_rfl).eq_some hf hx

end DPoPVerifier

/-! ## The invariant of the system -/

theorem SystemTime.secs_mono {t t' : SystemTime} (h : t.nanos ≤ t'.nanos) : t.secs ≤ t'.secs :=
  Nat.div_le_div_right (Int.toNat_le_toNat h)

theorem SystemTime.secs_of_unixSecs {t : SystemTime} {n : Nat} (h : t.unixSecs = .ok n) :
    t.secs = n :=
  (SystemTime.unixSecs_eq_ok.1 h).2

/-- Whether a result accepts the proof, as a number. -/
def acceptedBy : AdmissionEvent → Nat
  | some (.ok ()) => 1
  | _ => 0

theorem acceptances_snoc (tr : List (AdmissionAction × AdmissionEvent)) (a : AdmissionAction)
    (ev : AdmissionEvent) : acceptances (tr ++ [(a, ev)]) = acceptances tr + acceptedBy ev := by
  unfold acceptances
  rw [List.countP_append, List.countP_singleton]
  rcases ev with _ | _ | ⟨⟩ <;> rfl

theorem length_noteAccepted (exp : Nat) (accepted : List Nat) (r : Except DPoPError Unit) :
    (noteAccepted exp accepted r).length = accepted.length + acceptedBy (some r) := by
  rcases r with _ | ⟨⟩ <;> rfl

/-- The pair under which a proof is recorded. -/
def IsPairOf (X : Crates) (proofJwt jkt jti : String) : Prop :=
  ∃ claims jwk, decodeProof X proofJwt = .ok (claims, jwk) ∧ jkt = jwk.thumbprint X ∧ jti = claims.jti

theorem IsPairOf.unique {X : Crates} {proofJwt jkt jti jkt' jti' : String}
    (h : IsPairOf X proofJwt jkt jti) (h' : IsPairOf X proofJwt jkt' jti') : jkt = jkt' ∧ jti = jti' := by
  obtain ⟨c, j, hd, rfl, rfl⟩ := h
  obtain ⟨c', j', hd', rfl, rfl⟩ := h'
  simp only [hd, Except.ok.injEq, Prod.mk.injEq] at hd'
  obtain ⟨rfl, rfl⟩ := hd'
  exact ⟨rfl, rfl⟩

/-- Another proof has another composite key. -/
theorem IsPairOf.key_ne {X : Crates} {proofJwt jkt jti jkt' jti' : String}
    (h : IsPairOf X proofJwt jkt jti) (ho : isOtherPair X proofJwt jkt' jti' = true) :
    compositeKey jkt jti ≠ compositeKey jkt' jti' := by
  obtain ⟨c, j, hd, rfl, rfl⟩ := h
  simp only [isOtherPair, hd, Bool.and_eq_true, Bool.not_eq_true', decide_eq_true_eq,
    List.contains_eq_mem, decide_eq_false_iff_not] at ho
  intro hk
  obtain ⟨h1, h2⟩ := compositeKey_inj (colon_notMem_thumbprint X j) ho.1 hk
  exact ho.2 (by rw [h1, h2])

/-- The time checks of the proof passed by a second. -/
def TimelyBy (X : Crates) (proofJwt : String) (v : DPoPVerifier) (now : Nat) : Prop :=
  ∃ now₁ ≤ now, ∀ claims jwk, decodeProof X proofJwt = .ok (claims, jwk) → v.checkTime claims now₁ = .ok ()

/-- What holds along a run whose admitting calls come before expiry. -/
structure AdmissionInv (X : Crates) (proofJwt : String)
    (tr : List (AdmissionAction × AdmissionEvent)) (s : AdmissionState) : Prop where
  enabled : s.verifier.replayCache.isSome
  /-- An admission is for the pair of the proof and was dated by an earlier clock reading. -/
  admission : ∀ a ∈ s.admissions, IsPairOf X proofJwt a.jkt a.jti ∧ a.now ≤ s.clock.secs ∧
    a.expiresAt = s.verifier.expiresAt a.now ∧ TimelyBy X proofJwt s.verifier a.now
  /-- An acceptance came after the time checks. -/
  timely : ∀ e ∈ s.accepted, ∃ now, e = s.verifier.expiresAt now ∧ TimelyBy X proofJwt s.verifier now
  /-- The entry of an acceptance stays in the cache until it expires. -/
  entry : ∀ e ∈ s.accepted, s.clock.secs < e → ∀ jkt jti, IsPairOf X proofJwt jkt jti →
    s.verifier.entry (compositeKey jkt jti) = some e
  once : s.accepted.length ≤ 1
  count : acceptances tr = s.accepted.length

namespace AdmissionInv

variable {X : Crates} {proofJwt : String} {tr : List (AdmissionAction × AdmissionEvent)}
  {s : AdmissionState} {a : AdmissionAction}

theorem initial (h : s.Initial) : AdmissionInv X proofJwt [] s where
  enabled := h.enabled
  admission := by simp [h.no_admission]
  timely := by simp [h.none_accepted]
  entry := by simp [h.none_accepted]
  once := by simp [h.none_accepted]
  count := by simp [h.none_accepted, acceptances]

/-- A step without a result that only advances the clock keeps the invariant. -/
theorem advance (h : AdmissionInv X proofJwt tr s) {clock : SystemTime}
    (hc : s.clock.nanos ≤ clock.nanos) :
    AdmissionInv X proofJwt (tr ++ [(a, none)]) { s with clock := clock } where
  enabled := h.enabled
  admission := fun b hb =>
    ⟨(h.admission b hb).1, (h.admission b hb).2.1.trans (SystemTime.secs_mono hc), (h.admission b hb).2.2⟩
  timely := h.timely
  entry := fun e he hlt => h.entry e he ((SystemTime.secs_mono hc).trans_lt hlt)
  once := h.once
  count := by rw [acceptances_snoc]; exact h.count

/-- A step without a result that keeps the live entries of the proof keeps the invariant. -/
theorem silent (h : AdmissionInv X proofJwt tr s) {v : DPoPVerifier} (hv : v.replayCache.isSome)
    (hexpires : v.expiresAt = s.verifier.expiresAt) (htime : v.checkTime = s.verifier.checkTime)
    (hk : ∀ jkt jti e, IsPairOf X proofJwt jkt jti → s.clock.secs < e →
      s.verifier.entry (compositeKey jkt jti) = some e → v.entry (compositeKey jkt jti) = some e) :
    AdmissionInv X proofJwt (tr ++ [(a, none)]) { s with verifier := v } := by
  refine ⟨hv, ?_, ?_, fun e he hlt jkt jti hp => hk jkt jti e hp hlt (h.entry e he hlt jkt jti hp),
    h.once, by rw [acceptances_snoc]; exact h.count⟩
  · simp only [TimelyBy, hexpires, htime]
    exact h.admission
  · simp only [TimelyBy, hexpires, htime]
    exact h.timely

/-- An admission of the proof before the expiry of every acceptance keeps the invariant: after an
    acceptance it finds the live entry and is refused. -/
theorem recordPair (h : AdmissionInv X proofJwt tr s) {jkt jti : String} {exp now : Nat}
    {clock : SystemTime} (hp : IsPairOf X proofJwt jkt jti) (hnow : now ≤ clock.secs)
    (hexp : exp = s.verifier.expiresAt now) (htimely : TimelyBy X proofJwt s.verifier now)
    (hc : s.clock.nanos ≤ clock.nanos) (hb : ∀ e ∈ s.accepted, clock.secs < e) :
    AdmissionInv X proofJwt (tr ++ [(a, some (s.verifier.record jkt jti exp now).1)])
      { s with verifier := (s.verifier.record jkt jti exp now).2, clock := clock,
               accepted := noteAccepted exp s.accepted (s.verifier.record jkt jti exp now).1 } := by
  have hadv : AdmissionInv X proofJwt (tr ++ [(a, none)]) { s with clock := clock } := h.advance hc
  have hcount : acceptances (tr ++ [(a, some (s.verifier.record jkt jti exp now).1)]) =
      (noteAccepted exp s.accepted (s.verifier.record jkt jti exp now).1).length := by
    rw [acceptances_snoc, length_noteAccepted, h.count]
  rcases hacc : s.accepted with _ | ⟨e₀, rest⟩
  · -- nothing was accepted before, so an entry can only be the one just recorded
    rw [hacc] at hcount
    refine ⟨DPoPVerifier.isSome_replayCache_record h.enabled, ?_, ?_, ?_, ?_, hcount⟩
    · simp only [TimelyBy, DPoPVerifier.expiresAt_record, DPoPVerifier.checkTime_record]
      exact hadv.admission
    · simp only [TimelyBy, DPoPVerifier.expiresAt_record, DPoPVerifier.checkTime_record]
      intro e he
      cases hr : (s.verifier.record jkt jti exp now).1 with
      | error err => simp [noteAccepted, hr] at he
      | ok u =>
        obtain rfl : e = exp := by simpa [noteAccepted, hr] using he
        exact ⟨now, hexp, htimely⟩
    · intro e he hlt jkt' jti' hp'
      obtain ⟨rfl, rfl⟩ := hp.unique hp'
      cases hr : (s.verifier.record jkt jti exp now).1 with
      | error err => simp [noteAccepted, hr] at he
      | ok u =>
        obtain rfl : e = exp := by simpa [noteAccepted, hr] using he
        exact DPoPVerifier.entry_record_of_ok h.enabled hr hnow hlt
    · rw [length_noteAccepted]
      rcases (s.verifier.record jkt jti exp now).1 with _ | ⟨⟩ <;> simp [acceptedBy]
  · have hlive : clock.secs < e₀ := hb e₀ (by simp [hacc])
    have he₀ := h.entry e₀ (by simp [hacc]) ((SystemTime.secs_mono hc).trans_lt hlive) jkt jti hp
    rw [DPoPVerifier.record_of_live he₀ (hnow.trans_lt hlive)] at hcount ⊢
    rw [← hacc]
    exact ⟨h.enabled, hadv.admission, hadv.timely, hadv.entry, h.once, hcount⟩

/-- The result of an action that changes nothing but the clock and accepts nothing. -/
theorem refuse (h : AdmissionInv X proofJwt tr s) {clock : SystemTime} (err : DPoPError)
    (hc : s.clock.nanos ≤ clock.nanos) :
    AdmissionInv X proofJwt (tr ++ [(a, some (.error err))]) { s with clock := clock } := by
  have hadv : AdmissionInv X proofJwt (tr ++ [(a, none)]) { s with clock := clock } := h.advance hc
  exact ⟨h.enabled, hadv.admission, hadv.timely, hadv.entry, h.once,
    by rw [acceptances_snoc]; exact h.count⟩

/-- The pair and the date of an admission that `verify_proof_deferred` returns. -/
theorem of_deferred {e : ProofExpectation} {clock₁ clock₂ : SystemTime} {v : DPoPVerifier}
    {claims : DPoPProofClaims} {jwk : JwkEc} {b : ReplayAdmission}
    (h : v.verifyProofDeferred X proofJwt e none clock₁ clock₂ = .ok (claims, jwk, b)) :
    IsPairOf X proofJwt b.jkt b.jti ∧ b.now = clock₂.secs ∧ b.expiresAt = v.expiresAt clock₂.secs := by
  obtain ⟨hv, now, hn, rfl⟩ := verifyProofDeferred_eq_ok.1 h
  rw [SystemTime.secs_of_unixSecs hn]
  exact ⟨⟨claims, jwk, decodeProof_of_verifyProofNoReplay hv, rfl, rfl⟩, rfl, rfl⟩

/-- It is returned after the time checks. -/
theorem timelyBy_of_deferred {e : ProofExpectation} {clock₁ clock₂ : SystemTime} {v : DPoPVerifier}
    {claims : DPoPProofClaims} {jwk : JwkEc} {b : ReplayAdmission} (h12 : clock₁.nanos ≤ clock₂.nanos)
    (h : v.verifyProofDeferred X proofJwt e none clock₁ clock₂ = .ok (claims, jwk, b)) :
    v.checkTime claims clock₁.secs = .ok () ∧ TimelyBy X proofJwt v clock₂.secs := by
  obtain ⟨hv, -⟩ := verifyProofDeferred_eq_ok.1 h
  obtain ⟨hdecode, -, -, -, -, now, hnow, htime⟩ := verifyProofNoReplay_eq_ok.1 hv
  obtain rfl := SystemTime.secs_of_unixSecs hnow
  refine ⟨htime, clock₁.secs, SystemTime.secs_mono h12, fun claims' jwk' hdecode' => ?_⟩
  cases hdecode.symm.trans hdecode'
  exact htime

/-- A call that passes the time checks comes before the expiry of every acceptance, if it is not in the last
    second of a proof that was dated ahead. -/
theorem lt_expiry (h : AdmissionInv X proofJwt tr s) {claims : DPoPProofClaims} {jwk : JwkEc}
    {clock₁ clock₂ : SystemTime} {e : Nat} (he : e ∈ s.accepted)
    (hdecode : decodeProof X proofJwt = .ok (claims, jwk))
    (htime : s.verifier.checkTime claims clock₁.secs = .ok ())
    (hok : clock₂.secs < e ∨
      e ≤ clock₁.secs ∧ e < U64_MAX ∧ ¬ IsLastSecond X proofJwt s.verifier clock₁ e) :
    clock₂.secs < e := by
  refine hok.resolve_right ?_
  rintro ⟨hexpired, hmax, hlast⟩
  obtain ⟨now₂, rfl, now₁, h12, htimely⟩ := h.timely e he
  have hsat : now₂ + s.verifier.maxProofAge.asSecs + s.verifier.maxClockSkew.asSecs ≤ U64_MAX := by
    simp only [DPoPVerifier.expiresAt, saturatingAdd] at hmax
    omega
  obtain ⟨hiat, hnow⟩ :=
    iat_eq_of_checkTime_after_expiry h12 hsat (htimely claims jwk hdecode) hexpired htime
  have hexp : claims.iat + s.verifier.maxProofAge.asSecs = s.verifier.expiresAt now₂ := by
    simp only [DPoPVerifier.expiresAt, saturatingAdd]
    omega
  exact hlast ⟨claims, jwk, hdecode, hexp, hnow.trans hexp⟩

/-- Every action before expiry keeps the invariant. -/
theorem step {s' : AdmissionState} {ev : AdmissionEvent} (h : AdmissionInv X proofJwt tr s)
    (hok : BeforeExpiry X proofJwt s a) (hs : s.step X proofJwt a = some (s', ev)) :
    AdmissionInv X proofJwt (tr ++ [(a, ev)]) s' := by
  cases a with
  | tick now =>
    obtain ⟨hc, rfl, rfl⟩ : s.clock.nanos ≤ now.nanos ∧ { s with clock := now } = s' ∧ none = ev := by
      simpa [AdmissionState.step] using hs
    exact h.advance hc
  | verifyProof e clock₁ clock₂ =>
    simp only [AdmissionState.step, Option.ite_none_right_eq_some, Option.some.injEq,
      Prod.mk.injEq] at hs
    obtain ⟨⟨h12, hc⟩, rfl, rfl⟩ := hs
    rw [verifyProof_eq]
    cases hd : s.verifier.verifyProofDeferred X proofJwt e none clock₁ clock₂ with
    | error err => exact h.refuse err hc
    | ok p =>
      obtain ⟨claims, jwk, b⟩ := p
      obtain ⟨hp, hnow, hexp⟩ := of_deferred hd
      obtain ⟨htime, htimely⟩ := timelyBy_of_deferred h12 hd
      have hdecode := decodeProof_of_verifyProofNoReplay (verifyProofDeferred_eq_ok.1 hd).1
      have hmap : ∀ r : Except DPoPError Unit,
          (r.map fun _ => (claims, jwk)).map (fun _ => ()) = r := by rintro (_ | ⟨⟩) <;> rfl
      simp only [hmap, ← hexp]
      exact h.recordPair hp hnow.le (by rw [hexp, hnow]) (hnow ▸ htimely) hc fun e' he' =>
        h.lt_expiry he' hdecode htime (hok e' he')
  | verifyProofDeferred e clock₁ clock₂ =>
    simp only [AdmissionState.step, Option.ite_none_right_eq_some] at hs
    obtain ⟨⟨h12, hc⟩, hs⟩ := hs
    have hadv : AdmissionInv X proofJwt (tr ++ [(.verifyProofDeferred e clock₁ clock₂, none)])
        { s with clock := clock₂ } := h.advance hc
    cases hd : s.verifier.verifyProofDeferred X proofJwt e none clock₁ clock₂ with
    | error err =>
      simp only [hd, Option.some.injEq, Prod.mk.injEq] at hs
      obtain ⟨rfl, rfl⟩ := hs
      exact hadv
    | ok p =>
      obtain ⟨claims, jwk, b⟩ := p
      simp only [hd, Option.some.injEq, Prod.mk.injEq] at hs
      obtain ⟨rfl, rfl⟩ := hs
      obtain ⟨hp, hnow, hexp⟩ := of_deferred hd
      obtain ⟨-, htimely⟩ := timelyBy_of_deferred h12 hd
      refine ⟨hadv.enabled, ?_, hadv.timely, hadv.entry, hadv.once, hadv.count⟩
      intro b' hb'
      rcases List.mem_cons.1 hb' with rfl | hb'
      · exact ⟨hp, hnow.le, by rw [hexp, hnow], hnow ▸ htimely⟩
      · exact hadv.admission b' hb'
  | commit b =>
    simp only [AdmissionState.step, Option.ite_none_right_eq_some, Option.some.injEq,
      Prod.mk.injEq] at hs
    obtain ⟨hb, rfl, rfl⟩ := hs
    obtain ⟨hp, hnow, hexp, htimely⟩ := h.admission b hb
    exact h.recordPair hp hnow hexp htimely le_rfl hok
  | other jkt jti exp now =>
    simp only [AdmissionState.step, Option.ite_none_right_eq_some, Option.some.injEq,
      Prod.mk.injEq] at hs
    obtain ⟨⟨ho, hnow⟩, rfl, rfl⟩ := hs
    refine h.silent (DPoPVerifier.isSome_replayCache_record h.enabled)
      (DPoPVerifier.expiresAt_record _ _ _ _ _) (DPoPVerifier.checkTime_record _ _ _ _ _) ?_
    intro jkt' jti' e hp hlt he
    exact DPoPVerifier.entry_record_of_ne (hp.key_ne ho) hnow he hlt
  | pruneExpired =>
    simp only [AdmissionState.step, Option.some.injEq, Prod.mk.injEq] at hs
    obtain ⟨rfl, rfl⟩ := hs
    refine h.silent (by simpa [DPoPVerifier.pruneReplayCache] using h.enabled) rfl rfl ?_
    intro jkt jti e _ hlt he
    exact DPoPVerifier.entry_pruneExpired he hlt

end AdmissionInv

/-! ## Whole runs -/

/-- The proof is accepted at most once, by `verify_proof` and `commit_replay_admission` together, in every run
    whose commits come before the expiry of its acceptance and whose `verify_proof` calls come before or after
    it, except in the last second of a proof that was dated ahead by all of the clock skew. -/
theorem acceptances_le_one_of_beforeExpiry (X : Crates) (proofJwt : String) {s₀ s : AdmissionState}
    {tr : List (AdmissionAction × AdmissionEvent)} (h₀ : s₀.Initial)
    (hr : Exec (BeforeExpiry X proofJwt) (AdmissionState.step X proofJwt) s₀ tr s) :
    acceptances tr ≤ 1 := by
  have hinv : AdmissionInv X proofJwt tr s :=
    hr.invariant (AdmissionInv X proofJwt) (AdmissionInv.initial h₀)
      fun _ _ _ _ _ hi hok hs => hi.step hok hs
  rw [hinv.count]
  exact hinv.once

/-- A `verify_proof` call for a proof that passes the other checks does what its record does. -/
theorem step_verifyProof {X : Crates} {proofJwt : String} {s : AdmissionState} {e : ProofExpectation}
    {clock₁ clock₂ : SystemTime} {claims : DPoPProofClaims} {jwk : JwkEc} {now : Nat}
    (h12 : clock₁.nanos ≤ clock₂.nanos) (hc : s.clock.nanos ≤ clock₂.nanos)
    (hv : s.verifier.verifyProofNoReplay X proofJwt e none clock₁ = .ok (claims, jwk))
    (hn : clock₂.unixSecs = .ok now) :
    s.step X proofJwt (.verifyProof e clock₁ clock₂) =
      let r := s.verifier.record (jwk.thumbprint X) claims.jti (s.verifier.expiresAt now) now
      some ({ s with verifier := r.2, clock := clock₂, accepted :=
                noteAccepted (s.verifier.expiresAt now) s.accepted r.1 }, some r.1) := by
  have hd := verifyProofDeferred_eq_ok.2 ⟨hv, now, hn, rfl⟩
  have hmap : ∀ r : Except DPoPError Unit,
      (r.map fun _ => (claims, jwk)).map (fun _ => ()) = r := by rintro (_ | ⟨⟩) <;> rfl
  simp only [AdmissionState.step, h12, hc, and_self, if_true, verifyProof_eq, hd, hmap,
    DPoPVerifier.commitReplayAdmission, SystemTime.secs_of_unixSecs hn]

/-- A `verify_proof` call has a result whenever it is made. -/
theorem exists_step_verifyProof {X : Crates} {proofJwt : String} {s : AdmissionState} {e : ProofExpectation}
    {clock₁ clock₂ : SystemTime} (h12 : clock₁.nanos ≤ clock₂.nanos) (hc : s.clock.nanos ≤ clock₂.nanos) :
    ∃ s' ev, s.step X proofJwt (.verifyProof e clock₁ clock₂) = some (s', ev) := by
  simp only [AdmissionState.step, h12, hc, and_self, if_true]
  exact ⟨_, _, rfl⟩

/-- The start of a run over a fresh default verifier. -/
def sampleStart : AdmissionState where
  verifier := DPoPVerifier.new fun _ => 0
  clock := ⟨0⟩
  admissions := []
  accepted := []

/-- `verify_proof` of the sample at a second. -/
def sampleVerifyAt (n : Nat) : AdmissionAction :=
  .verifyProof sampleExpectation (SystemTime.ofSecs n) (SystemTime.ofSecs n)

/-- The verifier after the sample was recorded at the earliest second of its window. -/
def sampleRecorded : Except DPoPError Unit × DPoPVerifier :=
  sampleStart.verifier.record (sampleJwk.thumbprint sampleCrates) sampleClaims.jti 1562262916 1562262556

theorem sampleStart_initial : sampleStart.Initial := ⟨rfl, rfl, rfl⟩

theorem sampleRecorded_ok : sampleRecorded.1 = .ok () := by rfl

/-- The state after the first acceptance of the sample. -/
def sampleAccepted : AdmissionState where
  verifier := sampleRecorded.2
  clock := SystemTime.ofSecs 1562262556
  admissions := []
  accepted := [1562262916]

theorem step_sampleStart :
    sampleStart.step sampleCrates sampleProof (sampleVerifyAt 1562262556) =
      some (sampleAccepted, some (.ok ())) := by
  have hexp : sampleStart.verifier.expiresAt 1562262556 = 1562262916 := by decide
  have hr : sampleStart.verifier.record (sampleJwk.thumbprint sampleCrates) sampleClaims.jti 1562262916
      1562262556 = (.ok (), sampleRecorded.2) := Prod.ext sampleRecorded_ok rfl
  have hok : sampleStart.verifier.verifyProofNoReplay sampleCrates sampleProof sampleExpectation none
      (SystemTime.ofSecs 1562262556) = .ok (sampleClaims, sampleJwk) :=
    verifyProofNoReplay_sample rfl rfl le_rfl (by omega)
  rw [sampleVerifyAt, step_verifyProof le_rfl (by decide) hok (SystemTime.unixSecs_ofSecs _)]
  simp only [hexp, hr]
  rfl

/-- `verify_proof` of the sample after its first acceptance gives the result of its record. -/
theorem step_sampleAccepted {n : Nat} (h1 : 1562262556 ≤ n) (h2 : n ≤ 1562262916) :
    ∃ s, sampleAccepted.step sampleCrates sampleProof (sampleVerifyAt n) =
      some (s, some (sampleRecorded.2.record (sampleJwk.thumbprint sampleCrates) sampleClaims.jti
        (sampleRecorded.2.expiresAt n) n).1) ∧ s.clock = SystemTime.ofSecs n ∧
      s.accepted = noteAccepted (sampleRecorded.2.expiresAt n) [1562262916]
        (sampleRecorded.2.record (sampleJwk.thumbprint sampleCrates) sampleClaims.jti
          (sampleRecorded.2.expiresAt n) n).1 := by
  have hv : sampleRecorded.2 =
      { DPoPVerifier.new (fun _ => 0) with replayCache := sampleRecorded.2.replayCache } :=
    DPoPVerifier.record_eq_with_cache _ _ _ _ _
  have hc : sampleAccepted.clock.nanos ≤ (SystemTime.ofSecs n).nanos := by
    simp only [sampleAccepted, SystemTime.ofSecs]
    omega
  have hok : sampleAccepted.verifier.verifyProofNoReplay sampleCrates sampleProof sampleExpectation none
      (SystemTime.ofSecs n) = .ok (sampleClaims, sampleJwk) :=
    verifyProofNoReplay_sample (congrArg DPoPVerifier.maxClockSkew hv)
      (congrArg DPoPVerifier.maxProofAge hv) h1 h2
  exact ⟨_, step_verifyProof le_rfl hc hok (SystemTime.unixSecs_ofSecs n), rfl, rfl⟩

/-- A proof dated `skew` ahead is accepted at the first second of its window and again at the last,
    when its entry has just expired. -/
theorem sampleProof_accepted_twice :
    sampleStart.Initial ∧ ∃ tr s,
      Exec Exec.anyStep (AdmissionState.step sampleCrates sampleProof) sampleStart tr s ∧
      acceptances tr = 2 := by
  obtain ⟨s, hs, -, -⟩ := step_sampleAccepted (n := 1562262916) (by omega) le_rfl
  have hr : (sampleRecorded.2.record (sampleJwk.thumbprint sampleCrates) sampleClaims.jti
      (sampleRecorded.2.expiresAt 1562262916) 1562262916).1 = .ok () := by rfl
  rw [hr] at hs
  exact ⟨sampleStart_initial, _, s, (Exec.nil.snoc trivial step_sampleStart).snoc trivial hs, rfl⟩

/-- A second call is refused by the cache within the lifetime of the entry, and a third one after it by the
    time checks. -/
theorem acceptances_le_one_of_beforeExpiry_sample :
    ∃ tr s, Exec (BeforeExpiry sampleCrates sampleProof) (AdmissionState.step sampleCrates sampleProof)
        sampleStart tr s ∧
      tr.map Prod.fst = [sampleVerifyAt 1562262556, sampleVerifyAt 1562262915, sampleVerifyAt 1562262917] ∧
      acceptances tr ≤ 1 := by
  obtain ⟨s, hs, hclock, haccepted⟩ := step_sampleAccepted (n := 1562262915) (by omega) (by omega)
  have hrefused : (sampleRecorded.2.record (sampleJwk.thumbprint sampleCrates) sampleClaims.jti
      (sampleRecorded.2.expiresAt 1562262915) 1562262915).1 = .error (.replayDetected sampleClaims.jti) := by
    rfl
  rw [hrefused, noteAccepted] at haccepted
  have hfirst : BeforeExpiry sampleCrates sampleProof sampleStart (sampleVerifyAt 1562262556) := by
    simp [BeforeExpiry, sampleVerifyAt, sampleStart]
  have hsecond : BeforeExpiry sampleCrates sampleProof sampleAccepted (sampleVerifyAt 1562262915) := by
    simp [BeforeExpiry, sampleVerifyAt, sampleAccepted, SystemTime.secs, SystemTime.ofSecs]
  have hsecs : (SystemTime.ofSecs 1562262917).secs = 1562262917 := by decide
  have hthird : BeforeExpiry sampleCrates sampleProof s (sampleVerifyAt 1562262917) := by
    intro e he
    rw [haccepted, List.mem_singleton] at he
    subst he
    refine .inr ⟨by rw [hsecs]; omega, by decide, ?_⟩
    rintro ⟨_, _, -, -, hlast⟩
    rw [hsecs] at hlast
    omega
  have hle : s.clock.nanos ≤ (SystemTime.ofSecs 1562262917).nanos := by
    rw [hclock]
    decide
  obtain ⟨s', ev, hs'⟩ := exists_step_verifyProof (X := sampleCrates) (e := sampleExpectation) le_rfl hle
  have hr := ((Exec.nil.snoc hfirst step_sampleStart).snoc hsecond hs).snoc hthird hs'
  exact ⟨_, s', hr, rfl, acceptances_le_one_of_beforeExpiry _ _ sampleStart_initial hr⟩

end Skyauth
