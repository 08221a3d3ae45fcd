import Skyauth.Proofs.TowerSystemProofs
import Skyauth.Proofs.HandshakeProofs

/-!
# Proofs: single-use nonces under the middleware

A nonce is accepted at most once, and a call reaches the inner service only with a nonce that was
accepted for it. So the requests that reach the inner service have different nonces, each of which the
source had returned within its lifetime.
-/

namespace Skyauth

open Expiring (live)

/-! ## A single-use source -/

/-- The event accepts this nonce. -/
def NonceEvent.accepts (key : String) : NonceEvent → Bool
  | .verified nonce true _ => Text.trim nonce == key
  | _ => false

theorem NonceEvent.accepts_iff {key : String} {e : NonceEvent} : e.accepts key = true ↔ e.Accepts key := by
  constructor
  · intro h
    cases e with
    | silent => cases h
    | generated result now => cases h
    | verified nonce result now =>
      cases result with
      | false => cases h
      | true => exact ⟨nonce, now, rfl, by simpa [accepts] using h⟩
  · rintro ⟨nonce, now, rfl, hkey⟩
    simp [accepts, hkey]

namespace NonceSystem

variable {s s' s₀ : NonceSystem} {a : NonceAction} {e : NonceEvent}
  {tr : List (NonceAction × NonceEvent)} {ttlSecs : Nat} {key : String}

/-- The calls of a run that accepted a nonce. -/
def acceptancesOf (key : String) (tr : List (NonceAction × NonceEvent)) : Nat :=
  tr.countP fun x => x.2.accepts key

theorem acceptancesOf_snoc : acceptancesOf key (tr ++ [(a, e)]) =
    acceptancesOf key tr + if e.accepts key = true then 1 else 0 := by
  simp [acceptancesOf, List.countP_append, List.countP_singleton]

/-- A nonce of the table that is never pruned was returned. -/
theorem generated_of_ideal {singleUse : Bool} {exp : Nat}
    (h : ideal ttlSecs singleUse tr key = some exp) :
    ∃ pre b g mid, tr = pre ++ (b, .generated (.ok key) g) :: mid ∧ exp = saturatingAdd g ttlSecs := by
  obtain ⟨pre, ⟨b, e⟩, mid, htr, hwrite, -⟩ := History.exists_write_of_latest h
  rcases e.write_cases ttlSecs singleUse key with ⟨hnone, -⟩ | ⟨hnone, -⟩ | ⟨g, rfl⟩
  · rw [hnone] at hwrite
    cases hwrite
  · rw [hnone] at hwrite
    cases hwrite
  · refine ⟨pre, b, g, mid, htr, ?_⟩
    simpa [NonceEvent.write] using hwrite.symm

/-- In single-use mode: an accepted nonce was returned, and is not in the table any more. -/
structure Spent (ttlSecs : Nat) (key : String) (tr : List (NonceAction × NonceEvent))
    (s : NonceSystem) : Prop where
  tracked : Tracked ttlSecs true tr s
  once : acceptancesOf key tr ≤ 1
  gone : acceptancesOf key tr = 1 → key ∈ s.returned ∧ ideal ttlSecs true tr key = none

theorem Spent.step (h : Spent ttlSecs key tr s) (hok : s.Permitted a)
    (hstep : s.step a = some (s', e)) : Spent ttlSecs key (tr ++ [(a, e)]) s' := by
  have htracked := h.tracked.step hok hstep
  have hreturned : key ∈ s.returned → key ∈ s'.returned := by
    intro hmem
    obtain ⟨b, g, hmem⟩ := (h.tracked.returned key).1 hmem
    exact (htracked.returned key).2 ⟨b, g, by simp [hmem]⟩
  rcases e.write_cases ttlSecs true key with ⟨hwrite, hnot⟩ | ⟨hwrite, -, haccepts⟩ | ⟨g, rfl⟩
  · have hcount : acceptancesOf key (tr ++ [(a, e)]) = acceptancesOf key tr := by
      rw [acceptancesOf_snoc, if_neg fun h => hnot ⟨rfl, NonceEvent.accepts_iff.1 h⟩, Nat.add_zero]
    refine ⟨htracked, hcount ▸ h.once, fun hone => ?_⟩
    obtain ⟨hmem, hnone⟩ := h.gone (hcount ▸ hone)
    refine ⟨hreturned hmem, ?_⟩
    rw [ideal_snoc, hwrite, Option.getD_none, hnone]
  · -- the nonce was in the table, so it had not been accepted
    obtain ⟨m, now, rfl, hkey⟩ := haccepts
    obtain ⟨hr, -⟩ := step_verified hstep
    have hlive : (s.source.verifyNonce m (SystemTime.ofSecs s.clock)).1 =
        (live expiredAt s.clock (ideal ttlSecs true tr (Text.trim m))).isSome :=
      (h.tracked.verifyNonce (a := a) m).1
    rw [← hr, hkey] at hlive
    obtain ⟨exp, hexp⟩ := Option.isSome_iff_exists.1 hlive.symm
    have hideal := (Expiring.live_eq_some.1 hexp).1
    have hzero : acceptancesOf key tr = 0 := by
      have honce := h.once
      have hgone := h.gone
      rw [hideal] at hgone
      by_contra hne
      exact absurd (hgone (by omega)).2 (by simp)
    have hcount : acceptancesOf key (tr ++ [(a, .verified m true now)]) = 1 := by
      rw [acceptancesOf_snoc, hzero, if_pos (NonceEvent.accepts_iff.2 ⟨m, now, rfl, hkey⟩)]
    refine ⟨htracked, hcount.le, fun _ => ⟨hreturned ?_, ?_⟩⟩
    · obtain ⟨pre, b, g, mid, htr, -⟩ := generated_of_ideal hideal
      exact (h.tracked.returned key).2 ⟨b, g, by simp [htr]⟩
    · rw [ideal_snoc, hwrite, Option.getD_some]
  · -- a nonce that is drawn was not returned before, so it was not accepted
    obtain ⟨raw, rfl, hraw⟩ := step_generated hstep
    have hzero : acceptancesOf key tr = 0 := by
      have honce := h.once
      by_contra hne
      exact hok (hraw ▸ (h.gone (by omega)).1)
    have hcount : acceptancesOf key (tr ++ [(NonceAction.generateNonce raw, .generated (.ok key) g)]) =
        0 := by
      rw [acceptancesOf_snoc, hzero]
      rfl
    exact ⟨htracked, by omega, fun hone => by omega⟩

/-- A single-use nonce is accepted at most once. -/
theorem acceptancesOf_le_one (hinit : s₀.Initial) (hsingle : s₀.source.singleUse = true)
    (hr : Exec Permitted NonceSystem.step s₀ tr s) (key : String) : acceptancesOf key tr ≤ 1 := by
  have h0 : Spent s₀.source.ttl.asSecs key [] s₀ :=
    ⟨hsingle ▸ Tracked.initial hinit, Nat.zero_le _, fun h => by cases h⟩
  exact (hr.invariant _ h0 fun _ _ _ _ _ h hok hstep => h.step hok hstep).once

/-- A nonce that is accepted was returned less than the lifetime of the source before. -/
theorem generated_of_accepted (hinit : s₀.Initial) (hr : Exec Permitted NonceSystem.step s₀ tr s)
    {b : NonceAction} {m : String} {t : Nat} (hmem : (b, NonceEvent.verified m true t) ∈ tr) :
    ∃ c g, (c, NonceEvent.generated (.ok (Text.trim m)) g) ∈ tr ∧ t < g + s₀.source.ttl.asSecs := by
  obtain ⟨pre, post, rfl⟩ := List.append_of_mem hmem
  obtain ⟨-, -, hanswer⟩ := verified_eq hinit hr rfl
  obtain ⟨exp, hexp⟩ := Option.isSome_iff_exists.1 hanswer.symm
  obtain ⟨hideal, -⟩ := Expiring.live_eq_some.1 hexp
  obtain ⟨pre₁, c, g, mid, rfl, -⟩ := generated_of_ideal hideal
  have hsplit : (pre₁ ++ (c, .generated (.ok (Text.trim m)) g) :: mid) ++ (b, .verified m true t) :: post =
      pre₁ ++ (c, NonceEvent.generated (.ok (Text.trim m)) g) ::
        (mid ++ (b, .verified m true t) :: post) := by simp
  exact ⟨c, g, by simp, ((verified_iff hinit hr hsplit rfl).1 rfl).1⟩

end NonceSystem

/-! ## The source under the middleware -/

namespace RecordedSource

variable {s s' n₀ : RecordedSource}

/-- The calls on the source are a run. -/
def Runs (n₀ s : RecordedSource) : Prop :=
  Exec NonceSystem.Permitted NonceSystem.step n₀.system s.history s.system

theorem perform_of_step {a : NonceAction} {system : NonceSystem} {e : NonceEvent}
    (h : s.system.step a = some (system, e)) :
    s.perform a = ({ s with system := system, history := s.history ++ [(a, e)] }, e) := by
  rw [perform, h]

/-- A call on the source extends the run, and leaves its past. -/
theorem Runs.perform {a : NonceAction} (h : n₀.Runs s) (hok : s.system.Permitted a) :
    n₀.Runs (s.perform a).1 ∧ s.history <+: (s.perform a).1.history := by
  cases hstep : s.system.step a with
  | none =>
    rw [RecordedSource.perform, hstep]
    exact ⟨h, List.prefix_rfl⟩
  | some x =>
    rw [perform_of_step hstep]
    exact ⟨h.snoc hok hstep, List.prefix_append _ _⟩

theorem generateNonce_eq (s : RecordedSource) :
    (nonceSource.generateNonce s).2 = (s.perform (.generateNonce s.nextDraw)).1 := by
  unfold nonceSource
  dsimp only
  split
  · rename_i heq
    rw [heq]
  · rename_i heq
    rw [heq]

/-- An issue of the middleware extends the run. -/
theorem Runs.generateNonce (h : n₀.Runs s)
    (hfresh : base64urlEncode s.nextDraw ∉ s.system.returned) :
    n₀.Runs (nonceSource.generateNonce s).2 ∧
      s.history <+: (nonceSource.generateNonce s).2.history := by
  rw [generateNonce_eq]
  exact h.perform hfresh

theorem verifyNonce_eq (s : RecordedSource) (nonce : String) :
    ∃ system, s.system.step (.verifyNonce nonce) = some (system,
        .verified nonce (nonceSource.verifyNonce s nonce).1 s.system.clock) ∧
      (nonceSource.verifyNonce s nonce).2 =
        { s with system := system
                 history := s.history ++ [(.verifyNonce nonce,
                   .verified nonce (nonceSource.verifyNonce s nonce).1 s.system.clock)] } := by
  refine ⟨_, rfl, ?_⟩
  rfl

/-- A verification of the middleware extends the run by its event. -/
theorem Runs.verifyNonce (h : n₀.Runs s) (nonce : String) :
    n₀.Runs (nonceSource.verifyNonce s nonce).2 ∧
      (nonceSource.verifyNonce s nonce).2.history = s.history ++ [(.verifyNonce nonce,
        .verified nonce (nonceSource.verifyNonce s nonce).1 s.system.clock)] := by
  obtain ⟨system, hstep, heq⟩ := verifyNonce_eq s nonce
  rw [heq]
  exact ⟨h.snoc trivial hstep, rfl⟩

end RecordedSource

/-! ## Calls and the nonces accepted for them -/

/-- A pending request with this nonce. -/
def Pending.hasNonce (key : String) (p : Pending) : Bool :=
  p.claims.nonce.any fun nonce => Text.trim nonce == key

/-- The request of a call that has passed its screening and has not invoked the inner service. -/
def CallPhase.pending {C E : Type} : CallPhase C E → Option Pending
  | .validating p => some p
  | .committing p _ => some p
  | .invoking p _ => some p
  | _ => none

/-- The call is on its way to the inner service, with this nonce. -/
def TowerCall.awaits {N B C E : Type} (key : String) (c : TowerCall N B C E) : Bool :=
  c.phase.pending.any (·.hasNonce key)

/-- The event is an invocation of the inner service with this nonce. -/
def TowerEvent.invokesWith {B : Type} (key : String) : TowerEvent B → Bool
  | .invoked _ p _ _ => p.hasNonce key
  | _ => false

namespace TowerSystem

/-- The invocations of the inner service in a run with this nonce. -/
def invocationsWith {N B : Type} (key : String) (tr : List (TowerAction N B × TowerEvent B)) : Nat :=
  tr.countP fun x => x.2.invokesWith key

variable {B C E V : Type} [Inhabited C] {X : Crates} {svc : OAuthAuthService RecordedSource B C E V}
  {s s' s₀ : TowerSystem RecordedSource B C E} {a : TowerAction RecordedSource B} {e : TowerEvent B}
  {tr : List (TowerAction RecordedSource B × TowerEvent B)} {w w' : SharedState RecordedSource}
  {key : String}

/-- The nonce of a pending request was accepted. -/
def Backed (history : List (NonceAction × NonceEvent)) (p : Pending) : Prop :=
  ∃ nonce b t, p.claims.nonce = some nonce ∧ (b, NonceEvent.verified nonce true t) ∈ history

/-- What holds along every run: the calls that reached the inner service with a nonce or are on the way
    there are at most those for which it was accepted. -/
structure Tallied (n₀ : RecordedSource) (key : String)
    (tr : List (TowerAction RecordedSource B × TowerEvent B)) (s : TowerSystem RecordedSource B C E) :
    Prop where
  runs : n₀.Runs s.shared.nonces
  tally : invocationsWith key tr + s.calls.countP (·.awaits key) ≤
    NonceSystem.acceptancesOf key s.shared.nonces.history
  pending : ∀ c ∈ s.calls, ∀ p, c.phase.pending = some p → Backed s.shared.nonces.history p
  invoked : ∀ x ∈ tr, ∀ i p req now, x.2 = .invoked i p req now →
    Backed s.shared.nonces.history p

theorem Backed.mono {history history' : List (NonceAction × NonceEvent)} {p : Pending}
    (h : Backed history p) (hp : history <+: history') : Backed history' p := by
  obtain ⟨nonce, b, t, hnonce, hmem⟩ := h
  exact ⟨nonce, b, t, hnonce, hp.subset hmem⟩

theorem acceptancesOf_mono {history history' : List (NonceAction × NonceEvent)} (key : String)
    (hp : history <+: history') :
    NonceSystem.acceptancesOf key history ≤ NonceSystem.acceptancesOf key history' :=
  hp.sublist.countP_le

theorem invocationsWith_snoc : invocationsWith key (tr ++ [(a, e)]) =
    invocationsWith key tr + if e.invokesWith key = true then 1 else 0 := by
  simp [invocationsWith, List.countP_append, List.countP_singleton]

theorem invocationsWith_silent : invocationsWith key (tr ++ [(a, .silent)]) = invocationsWith key tr := by
  rw [invocationsWith_snoc]
  simp [TowerEvent.invokesWith]

omit [Inhabited C] in
/-- An action that invokes nothing and after which no more calls wait. -/
theorem Tallied.silent {n₀ : RecordedSource} (h : Tallied n₀ key tr s)
    (hruns : n₀.Runs s'.shared.nonces)
    (hp : s.shared.nonces.history <+: s'.shared.nonces.history)
    (hcount : s'.calls.countP (·.awaits key) ≤ s.calls.countP (·.awaits key))
    (hcalls : ∀ c ∈ s'.calls, ∀ p, c.phase.pending = some p → c ∈ s.calls) :
    Tallied n₀ key (tr ++ [(a, .silent)]) s' := by
  refine ⟨hruns, ?_, ?_, ?_⟩
  · rw [invocationsWith_silent]
    have htally := h.tally
    have hmono := acceptancesOf_mono key hp
    omega
  · intro c hc p hphase
    exact (h.pending c (hcalls c hc p hphase) p hphase).mono hp
  · intro x hx i p req now he
    rcases List.mem_append.1 hx with hx | hx
    · exact (h.invoked x hx i p req now he).mono hp
    · rw [List.mem_singleton.1 hx] at he
      cases he

/-- What the part of a call that is not awaited does to the source: nothing, or one verification, which
    is of the nonce of the pending request if the request passes. -/
theorem enter_nonces (hsource : svc.nonceSource = some RecordedSource.nonceSource) {req : Request B}
    {clock₁ clock₂ : SystemTime} {phase : CallPhase C E}
    (h : enter X svc w req clock₁ clock₂ = (phase, w')) :
    ((w'.nonces = w.nonces ∨
        ∃ nonce, w'.nonces = (RecordedSource.nonceSource.verifyNonce w.nonces nonce).2) ∧
        phase.pending = none) ∨
      ∃ p nonce, phase = .validating p ∧ p.claims.nonce = some nonce ∧
        (RecordedSource.nonceSource.verifyNonce w.nonces nonce).1 = true ∧
        w'.nonces = (RecordedSource.nonceSource.verifyNonce w.nonces nonce).2 := by
  have hscreened := screened X svc w req clock₁ clock₂
  unfold enter at h
  generalize svc.screen X w req clock₁ clock₂ = outcome at h hscreened
  cases hscreened with
  | rejected r =>
    obtain ⟨rfl, rfl⟩ := Prod.mk.inj h
    exact .inl ⟨.inl rfl, rfl⟩
  | challenged errorCode description =>
    obtain ⟨rfl, rfl⟩ := Prod.mk.inj h
    exact .inl ⟨.inl rfl, rfl⟩
  | refused errorCode description hsource' =>
    obtain ⟨rfl, rfl⟩ := Prod.mk.inj h
    rw [hsource, Option.some.injEq] at hsource'
    subst hsource'
    exact .inl ⟨.inr ⟨_, rfl⟩, rfl⟩
  | passed p hnone =>
    rw [hsource] at hnone
    cases hnone
  | accepted hsource' hnonce hvalid =>
    obtain ⟨rfl, rfl⟩ := Prod.mk.inj h
    rw [hsource, Option.some.injEq] at hsource'
    subst hsource'
    exact .inr ⟨_, _, rfl, hnonce, hvalid, rfl⟩

/-- A new call. -/
theorem Tallied.call {n₀ : RecordedSource} (h : Tallied n₀ key tr s)
    (hsource : svc.nonceSource = some RecordedSource.nonceSource) {req : Request B}
    {clock₁ clock₂ : SystemTime} {phase : CallPhase C E}
    (he : enter X svc s.shared req clock₁ clock₂ = (phase, w)) :
    Tallied n₀ key (tr ++ [(a, .silent)])
      { shared := w, clock := clock₂,
        calls := s.calls ++ [⟨req, clock₁, clock₂, s.shared, phase⟩] } := by
  rcases enter_nonces hsource he with ⟨hnonces, hphase⟩ | ⟨p, nonce, rfl, hnonce, hvalid, hnonces⟩
  · -- the call does not wait for its access token
    have hrest : n₀.Runs w.nonces ∧ s.shared.nonces.history <+: w.nonces.history := by
      rcases hnonces with hnonces | ⟨nonce, hnonces⟩
      · rw [hnonces]
        exact ⟨h.runs, List.prefix_rfl⟩
      · obtain ⟨hruns, hhistory⟩ := h.runs.verifyNonce nonce
        rw [hnonces, hhistory]
        exact ⟨hruns, List.prefix_append _ _⟩
    refine h.silent hrest.1 hrest.2 ?_ ?_
    · have hawaits : TowerCall.awaits key
          (⟨req, clock₁, clock₂, s.shared, phase⟩ : TowerCall RecordedSource B C E) = false := by
        rw [TowerCall.awaits, hphase, Option.any_none]
      rw [List.countP_append, List.countP_singleton, hawaits]
      simp
    · intro c hc p hp
      rcases List.mem_append.1 hc with hc | hc
      · exact hc
      · rw [List.mem_singleton.1 hc, hphase] at hp
        cases hp
  · -- its nonce has been accepted for it
    obtain ⟨hruns, hhistory⟩ := h.runs.verifyNonce nonce
    rw [hvalid] at hhistory
    have hprefix : s.shared.nonces.history <+:
        (RecordedSource.nonceSource.verifyNonce s.shared.nonces nonce).2.history := by
      rw [hhistory]
      exact List.prefix_append _ _
    refine ⟨hnonces ▸ hruns, ?_, ?_, ?_⟩
    · have htally := h.tally
      have hawaits : TowerCall.awaits key
          (⟨req, clock₁, clock₂, s.shared, .validating p⟩ : TowerCall RecordedSource B C E) =
            NonceEvent.accepts key (.verified nonce true s.shared.nonces.system.clock) := by
        simp [TowerCall.awaits, CallPhase.pending, Pending.hasNonce, hnonce, NonceEvent.accepts]
      rw [invocationsWith_silent, hnonces, hhistory, NonceSystem.acceptancesOf_snoc, List.countP_append,
        List.countP_singleton, hawaits]
      omega
    · intro c hc p' hp'
      rw [hnonces]
      rcases List.mem_append.1 hc with hc | hc
      · exact (h.pending c hc p' hp').mono hprefix
      · rw [List.mem_singleton.1 hc] at hp'
        cases hp'
        exact ⟨nonce, .verifyNonce nonce, s.shared.nonces.system.clock, hnonce, by rw [hhistory]; simp⟩
    · intro x hx i p' req' now' hx'
      rw [hnonces]
      rcases List.mem_append.1 hx with hx | hx
      · exact (h.invoked x hx i p' req' now' hx').mono hprefix
      · rw [List.mem_singleton.1 hx] at hx'
        cases hx'

/-- A call that goes on does nothing to the source, or draws a nonce. -/
theorem advances_nonces (hsource : svc.nonceSource = some RecordedSource.nonceSource) {req : Request B}
    {phase phase' : CallPhase C E} {i : Nat} {now : SystemTime}
    (h : Advances X svc i now w req phase phase' w' e) :
    w'.nonces = w.nonces ∨ w'.nonces = (RecordedSource.nonceSource.generateNonce w.nonces).2 := by
  cases h with
  | challenged errorCode description =>
    right
    unfold OAuthAuthService.challenge
    simp only [hsource, Interference.idle, id]
    split <;> rename_i heq <;> rw [heq]
  | attached p user response =>
    unfold OAuthAuthService.finish
    split
    · simp only [hsource, Interference.idle, id]
      right
      split <;> rename_i heq <;> rw [heq]
    · exact .inl rfl
  | _ => exact .inl rfl

/-- A call stays on its way to the inner service until it leaves it, and only a call on its way invokes the
    inner service. -/
theorem Advances.pending_cases {req : Request B} {phase phase' : CallPhase C E} {i : Nat}
    {now : SystemTime} (h : Advances X svc i now w req phase phase' w' e) :
    (phase'.pending = phase.pending ∧ ∀ j p r t, e ≠ .invoked j p r t) ∨
    (phase'.pending = none ∧ ∀ j p r t, e = .invoked j p r t → phase.pending = some p) := by
  cases h with
  | valid hu => exact .inl ⟨rfl, fun _ _ _ _ he => by cases he⟩
  | admitted hk => exact .inl ⟨rfl, fun _ _ _ _ he => by cases he⟩
  | invoked p user =>
    refine .inr ⟨rfl, fun j p' r t he => ?_⟩
    cases he
    rfl
  | _ => exact .inr ⟨rfl, fun _ _ _ _ he => by cases he⟩

/-- What a call adds to the invocations with a nonce it takes from the calls that are on their way. -/
theorem Advances.awaits_le {c : TowerCall RecordedSource B C E} {phase : CallPhase C E} {i : Nat}
    {now : SystemTime} (h : Advances X svc i now w c.req c.phase phase w' e) (key : String) :
    (if e.invokesWith key = true then 1 else 0) +
        (if TowerCall.awaits key { c with phase := phase } = true then 1 else 0) ≤
      if c.awaits key = true then 1 else 0 := by
  rcases h.pending_cases with ⟨hpending, hne⟩ | ⟨hpending, hinvoked⟩
  · have hquiet : e.invokesWith key = false := by
      cases e with
      | invoked j p r t => exact absurd rfl (hne j p r t)
      | _ => rfl
    rw [hquiet, TowerCall.awaits, TowerCall.awaits, hpending]
    simp
  · have hgone : TowerCall.awaits key { c with phase := phase } = false := by
      rw [TowerCall.awaits, hpending, Option.any_none]
    rw [hgone]
    cases e with
    | invoked j p r t =>
      rw [TowerCall.awaits, hinvoked j p r t rfl, Option.any_some]
      exact le_rfl
    | _ => exact Nat.zero_le _

omit [Inhabited C] in
/-- The calls that are on their way, after one call has gone on. -/
theorem countP_set (key : String) {calls : List (TowerCall RecordedSource B C E)} {i : Nat}
    {c : TowerCall RecordedSource B C E} (c' : TowerCall RecordedSource B C E) (hc : calls[i]? = some c) :
    (calls.set i c').countP (·.awaits key) + (if c.awaits key = true then 1 else 0) =
      calls.countP (·.awaits key) + if c'.awaits key = true then 1 else 0 := by
  obtain ⟨hlt, rfl⟩ := List.getElem?_eq_some_iff.1 hc
  rw [List.countP_set hlt]
  have hle : (if calls[i].awaits key = true then 1 else 0) ≤ calls.countP (·.awaits key) := by
    split
    · rename_i hawaits
      exact List.countP_pos_iff.2 ⟨_, List.getElem_mem hlt, hawaits⟩
    · exact Nat.zero_le _
  omega

/-- A call that goes on. -/
theorem Tallied.resume {n₀ : RecordedSource} (h : Tallied n₀ key tr s)
    (hsource : svc.nonceSource = some RecordedSource.nonceSource)
    (hfresh : base64urlEncode s.shared.nonces.nextDraw ∉ s.shared.nonces.system.returned) {i : Nat}
    {c : TowerCall RecordedSource B C E} {phase : CallPhase C E} (hc : s.calls[i]? = some c)
    (ha : Advances X svc i s.clock s.shared c.req c.phase phase w e) :
    Tallied n₀ key (tr ++ [(a, e)])
      { s with shared := w, calls := s.calls.set i { c with phase := phase } } := by
  have hrest : n₀.Runs w.nonces ∧ s.shared.nonces.history <+: w.nonces.history := by
    rcases advances_nonces hsource ha with hnonces | hnonces
    · rw [hnonces]
      exact ⟨h.runs, List.prefix_rfl⟩
    · rw [hnonces]
      exact h.runs.generateNonce hfresh
  have hbacked : ∀ p, c.phase.pending = some p → Backed w.nonces.history p :=
    fun p hp => (h.pending c (List.mem_of_getElem? hc) p hp).mono hrest.2
  refine ⟨hrest.1, ?_, ?_, ?_⟩
  · have htally := h.tally
    have hmono := acceptancesOf_mono key hrest.2
    have hcount := countP_set key { c with phase := phase } hc
    have hle := ha.awaits_le key
    rw [invocationsWith_snoc]
    dsimp only
    omega
  · intro c' hmem p hp
    rcases List.mem_or_eq_of_mem_set hmem with hmem | rfl
    · exact (h.pending c' hmem p hp).mono hrest.2
    · rcases ha.pending_cases with ⟨hsame, -⟩ | ⟨hgone, -⟩
      · exact hbacked p (hsame.symm.trans hp)
      · cases hgone.symm.trans hp
  · intro y hy j p req now he
    rcases List.mem_append.1 hy with hy | hy
    · exact (h.invoked y hy j p req now he).mono hrest.2
    · rw [List.mem_singleton.1 hy] at he
      rcases ha.pending_cases with ⟨-, hne⟩ | ⟨-, hinvoked⟩
      · exact absurd he (hne j p req now)
      · exact hbacked p (hinvoked j p req now he)

theorem Tallied.step {n₀ : RecordedSource} (h : Tallied n₀ key tr s)
    (hsource : svc.nonceSource = some RecordedSource.nonceSource) (hok : RecordedSource.Permitted s a)
    (hs : Steps X svc s a s' e) : Tallied n₀ key (tr ++ [(a, e)]) s' := by
  cases hs with
  | tick hc => exact h.silent h.runs List.prefix_rfl le_rfl fun c hc p _ => hc
  | other hnow => exact h.silent h.runs List.prefix_rfl le_rfl fun c hc p _ => hc
  | pruneExpired hnow => exact h.silent h.runs List.prefix_rfl le_rfl fun c hc p _ => hc
  | nonces n =>
    obtain ⟨b, hb, rfl⟩ := hok
    obtain ⟨hruns, hprefix⟩ := h.runs.perform hb
    exact h.silent hruns hprefix le_rfl fun c hc p _ => hc
  | call hc he => exact h.call hsource he
  | resume hc ha => exact h.resume hsource hok hc ha

end TowerSystem

/-! ### A run of the sample client -/

namespace TowerNonceSample

open ClientSample (crates site request user iatSecs clock nonceBytes nonce secondJti)

/-- A new single-use source whose first draw is the sample nonce. -/
def source : RecordedSource where
  system :=
    { source := (InMemoryServerNonceSource.new
        (Duration.fromSecs 300 Duration.five_minutes_lt)).withSingleUse
      clock := iatSecs
      returned := [] }
  draws := fun n => if n = 0 then nonceBytes else [1]
  history := []

theorem initial_source : source.Initial := ⟨⟨rfl, by decide, rfl⟩, rfl, rfl⟩

/-- The source after another user of it was given the nonce. -/
def issued : RecordedSource := (source.perform (.generateNonce nonceBytes)).1

theorem issued_accepts : (RecordedSource.nonceSource.verifyNonce issued nonce).1 = true := by decide

def service : OAuthAuthService RecordedSource (Option (List UInt8)) WireBody String String where
  inner := fun _ => .ok { status := 200, headers := [], body := default }
  tokenValidator := fun _ _ => .ok user
  nonceSource := some RecordedSource.nonceSource
  requireAth := true
  htuOverride := none

theorem method_visible : ∀ c ∈ request.method.toList, 33 ≤ c.toNat ∧ c.toNat ≤ 126 :=
  (ClientSample.agreement 200).method_visible

theorem service_nonceSource : service.nonceSource = some RecordedSource.nonceSource := rfl

theorem service_validates (token jkt : String) : service.tokenValidator token jkt = .ok user := rfl

def agreement : Agreement crates service RecordedSource.nonceSource site request clock :=
  let A := ClientSample.agreement 200
  { token := A.token, parsedUrl := A.parsedUrl, serverHtu := A.serverHtu,
    normalizedHtu := A.normalizedHtu, now := A.now, user := user,
    nonceSource := service_nonceSource,
    legal := A.legal, method_visible := method_visible, parse := A.parse, clientHtu := A.clientHtu,
    reparse := A.reparse, requestHtu := A.requestHtu, sameHtu := A.sameHtu, clock_secs := A.clock_secs,
    now_lt := A.now_lt, hash_length := A.hash_length, validates := service_validates _ _ }

def start : TowerSystem RecordedSource (Option (List UInt8)) WireBody String where
  shared := { verifier := DPoPVerifier.new fun _ => 0, nonces := source }
  clock := clock
  calls := []

/-- The state once the nonce is out. -/
def offered : TowerSystem RecordedSource (Option (List UInt8)) WireBody String :=
  { start with shared.nonces := issued }

/-- The request that presents the nonce, verified. -/
def pending : Pending := agreement.pending (DPoPVerifier.new fun _ => 0) (some nonce) secondJti

theorem pending_nonce : pending.claims.nonce = some nonce := by
  have hraw : nonceBytes ≠ [] := by decide
  exact (isCarried_encode hraw).extract_eq

theorem checksPassed {req : Request (Option (List UInt8))}
    (h : agreement.Presents (some nonce) secondJti req) :
    ChecksPassed crates service offered.shared req clock clock pending user := by
  obtain ⟨proof, hdpop, hv⟩ := h.proof
  refine ⟨⟨_, h.auth, dpopCredentials_eq_some.1 (dpopCredentials_token agreement.legal.token_visible)⟩,
    ⟨proof, agreement.serverHtu, hdpop, h.htu, hv _⟩, ?_, rfl⟩
  rintro _ ⟨⟩
  exact ⟨nonce, pending_nonce, issued_accepts⟩

/-- The request has been verified and waits for its access token. -/
def waiting (req : Request (Option (List UInt8))) :
    TowerSystem RecordedSource (Option (List UInt8)) WireBody String where
  shared := afterNonceCheck service offered.shared pending
  clock := clock
  calls := [⟨req, clock, clock, offered.shared, .validating pending⟩]

theorem waiting_shared (req : Request (Option (List UInt8))) : (waiting req).shared =
    { offered.shared with nonces := (RecordedSource.nonceSource.verifyNonce issued nonce).2 } := by
  simp only [waiting, afterNonceCheck, service, pending_nonce]
  rfl

/-- The request after its first steps, with the verifier that it then leaves. -/
def underway (req : Request (Option (List UInt8))) (v : DPoPVerifier)
    (phase : CallPhase WireBody String) : TowerSystem RecordedSource (Option (List UInt8)) WireBody String :=
  { waiting req with
    shared.verifier := v
    calls := [⟨req, clock, clock, offered.shared, phase⟩] }

/-- The draws after the first one encode to other texts. -/
theorem permitted_resume (req : Request (Option (List UInt8))) (v : DPoPVerifier)
    (phase : CallPhase WireBody String) : RecordedSource.Permitted (underway req v phase) (.resume 0) := by
  show base64urlEncode (waiting req).shared.nonces.nextDraw ∉ (waiting req).shared.nonces.system.returned
  rw [waiting_shared]
  show base64urlEncode (RecordedSource.nonceSource.verifyNonce issued nonce).2.nextDraw ∉
    (RecordedSource.nonceSource.verifyNonce issued nonce).2.system.returned
  decide

/-- The nonce is issued, and a request with it reaches the inner service. -/
theorem exec_invoked : ∃ req a₁ a₂ s, Exec RecordedSource.Permitted (TowerSystem.step crates service)
    start ([(a₁, .silent), (a₂, .silent)] ++ TowerSystem.wayToInner 0 pending user req clock) s := by
  obtain ⟨-, wire, -, -, hpresents⟩ := agreement.attempt rfl (ClientSample.signs_second 200)
  have hissue : start.step crates service (.nonces issued) = some (offered, .silent) := rfl
  have hcall : offered.step crates service (.call (site.receive wire) clock clock) =
      some (waiting (site.receive wire), .silent) :=
    TowerSystem.step_call (checksPassed hpresents) (le_refl _) (le_refl _)
  obtain ⟨v, hcommit⟩ : ∃ v, (waiting (site.receive wire)).shared.verifier.commitReplayAdmission
      pending.admission = (.ok (), v) := by
    rw [waiting_shared]
    exact ⟨_, Prod.ext (agreement.commit_fresh (ClientSample.fresh_new 200 secondJti)) rfl⟩
  have hvalidated := TowerSystem.step_validate crates service
    (s := waiting (site.receive wire)) (i := 0) rfl rfl rfl
  have hcommitted := TowerSystem.step_commit crates service
    (s := underway (site.receive wire) (waiting (site.receive wire)).shared.verifier
      (.committing pending user)) (i := 0) rfl rfl hcommit
  have hinvoked := TowerSystem.step_invoke crates service
    (s := underway (site.receive wire) v (.invoking pending user)) (i := 0) rfl rfl
  have hnew : RecordedSource.Permitted offered (.call (site.receive wire) clock clock) := by
    show base64urlEncode issued.nextDraw ∉ issued.system.returned
    decide
  have hwaiting := (Exec.nil.snoc ⟨.generateNonce nonceBytes, List.not_mem_nil, rfl⟩ hissue).snoc hnew hcall
  exact ⟨_, _, _, _, ((hwaiting.snoc (permitted_resume _ _ _) hvalidated).snoc (permitted_resume _ _ _)
    hcommitted).snoc (permitted_resume _ _ _) hinvoked⟩

end TowerNonceSample

/-- Single-use nonces: in every run over a new source, with other users of it, no two requests that
    reach the inner service have the same nonce in their proofs, and each has a nonce that the source returned
    less than its lifetime before it was verified. -/
theorem single_use_nonce_reaches_inner_once {B C E V : Type} [Inhabited C] {X : Crates}
    {svc : OAuthAuthService RecordedSource B C E V} {s₀ s : TowerSystem RecordedSource B C E}
    {tr : List (TowerAction RecordedSource B × TowerEvent B)}
    (hsource : svc.nonceSource = some RecordedSource.nonceSource) (h0 : s₀.shared.nonces.Initial)
    (hcalls : s₀.calls = []) (hr : Exec RecordedSource.Permitted (TowerSystem.step X svc) s₀ tr s) :
    (∀ key, TowerSystem.invocationsWith key tr ≤ 1) ∧
    ∀ a i p req now, (a, .invoked i p req now) ∈ tr → ∃ call user nonce b c t g,
      s.calls[i]? = some call ∧ req = call.req.withUser user ∧
      ChecksPassed X svc call.entered call.req call.clock₁ call.clock₂ p user ∧
      p.claims.nonce = some nonce ∧ (b, .verified nonce true t) ∈ s.shared.nonces.history ∧
      (c, .generated (.ok (Text.trim nonce)) g) ∈ s.shared.nonces.history ∧
      t < g + s₀.shared.nonces.system.source.ttl.asSecs := by
  have hinv : ∀ key, TowerSystem.Tallied s₀.shared.nonces key tr s := by
    intro key
    refine hr.invariant _ ⟨?_, ?_, ?_, ?_⟩ fun _ _ _ _ _ h hok hs =>
      h.step hsource hok (TowerSystem.steps_of_step hs)
    · show Exec _ _ _ s₀.shared.nonces.history _
      rw [h0.history]
      exact .nil
    · simp [TowerSystem.invocationsWith, hcalls]
    · simp [hcalls]
    · simp
  refine ⟨fun key => ?_, fun a i p req now hmem => ?_⟩
  · have htally := (hinv key).tally
    have honce := NonceSystem.acceptancesOf_le_one h0.system h0.singleUse (hinv key).runs key
    omega
  · obtain ⟨nonce, b, t, hnonce, hverified⟩ := (hinv "").invoked _ hmem i p req now rfl
    obtain ⟨c, g, hgenerated, hlt⟩ :=
      NonceSystem.generated_of_accepted h0.system (hinv "").runs hverified
    obtain ⟨call, user, hcall, hchecks, hreq⟩ :=
      (TowerSystem.tracks_of_run hcalls hr.toAny).shows _ hmem
    exact ⟨call, user, nonce, b, c, t, g, hcall, hreq, hchecks, hnonce, hverified, hgenerated, hlt⟩

/-- The sample nonce brings one request to the inner service. -/
theorem single_use_nonce_reaches_inner_once_sample : ∃ tr s,
    Exec RecordedSource.Permitted (TowerSystem.step ClientSample.crates TowerNonceSample.service)
      TowerNonceSample.start tr s ∧ TowerSystem.invocationsWith ClientSample.nonce tr = 1 := by
  obtain ⟨req, a₁, a₂, s, hr⟩ := TowerNonceSample.exec_invoked
  obtain ⟨honce, -⟩ := single_use_nonce_reaches_inner_once rfl TowerNonceSample.initial_source rfl hr
  refine ⟨_, s, hr, le_antisymm (honce _) (List.one_le_countP_iff.2 ⟨_,
    List.mem_append_right _ (List.mem_cons_of_mem _ (List.mem_cons_of_mem _ List.mem_cons_self)), ?_⟩)⟩
  have htrim : Text.trim ClientSample.nonce = ClientSample.nonce := by decide
  simp [TowerEvent.invokesWith, Pending.hasNonce, TowerNonceSample.pending_nonce, htrim]

end Skyauth
