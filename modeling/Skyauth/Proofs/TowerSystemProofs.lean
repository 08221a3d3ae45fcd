import Skyauth.TowerSystem
import Skyauth.Proofs.AdmissionProofs
import Skyauth.Proofs.NonceProofs
import Skyauth.Proofs.RequestProofs
import Skyauth.Proofs.TowerProofs

/-!
# Proofs: calls of the middleware side by side

What a call does in a run is what `call` does under some interference, so what is proved of `call` for
every interference holds for every schedule. A proof is admitted to the inner service a second time only
after its first admission has expired.
-/

namespace Skyauth

open DPoPReplayCache (compositeKey)

variable {N B C E V : Type} [Inhabited C] {X : Crates} {svc : OAuthAuthService N B C E V}

/-! ## Calls in a run and calls under interference -/

/-- The rest of the part of a call that is not awaited. -/
def OAuthAuthService.settle (svc : OAuthAuthService N B C E V) (env : Interference N) :
    Screening C × SharedState N → Except (Response C) Pending × SharedState N
  | (.reject r, w) => (.error r, w)
  | (.challenge errorCode description, w) =>
    (.error (svc.challenge env w errorCode description).1,
      (svc.challenge env w errorCode description).2)
  | (.pass p, w) => (.ok p, w)

section Settle

variable (env : Interference N) (w : SharedState N)

theorem settle_reject (r : Response C) : svc.settle env (.reject r, w) = (.error r, w) := rfl

theorem settle_challenge (errorCode : String) (description : Option String) :
    svc.settle env (.challenge errorCode description, w) =
      (.error (svc.challenge env w errorCode description).1,
        (svc.challenge env w errorCode description).2) := rfl

theorem settle_pass (p : Pending) : svc.settle env (.pass p, w) = (.ok p, w) := rfl

theorem checkServerNonce_eq_screen (p : Pending) :
    svc.checkServerNonce env w p = svc.settle env (svc.screenNonce w p) := by
  unfold OAuthAuthService.checkServerNonce OAuthAuthService.screenNonce
  cases svc.nonceSource with
  | none => exact (settle_pass env w p).symm
  | some source =>
    cases p.claims.nonce with
    | none => exact (settle_challenge env w _ _).symm
    | some nonce =>
      cases h : (source.verifyNonce w.nonces nonce).1 with
      | true => simp only [h, if_true, settle_pass]
      | false => simp only [h, Bool.false_eq_true, if_false, settle_challenge]

theorem checkProof_eq_screen (accessToken proof htm htu : String) (clock₁ clock₂ : SystemTime) :
    svc.checkProof X env w accessToken proof htm htu clock₁ clock₂ =
      svc.settle env (svc.screenProof X w accessToken proof htm htu clock₁ clock₂) := by
  unfold OAuthAuthService.checkProof OAuthAuthService.screenProof
  cases w.verifier.verifyProofDeferred X proof (svc.expectedProof X accessToken htm htu) none clock₁
    clock₂ with
  | ok verified =>
    obtain ⟨claims, jwk, admission⟩ := verified
    exact checkServerNonce_eq_screen env w _
  | error e =>
    cases e with
    | replayDetected jti | replayCacheSaturated => exact (settle_reject env w _).symm
    | _ => exact (settle_challenge env w _ _).symm

theorem authenticate_eq_screen (req : Request B) (clock₁ clock₂ : SystemTime) :
    svc.authenticate X env w req clock₁ clock₂ =
      svc.settle env (svc.screen X w req clock₁ clock₂) := by
  unfold OAuthAuthService.authenticate OAuthAuthService.screen
  simp only []
  cases req.headers.get "authorization" with
  | none => exact (settle_reject env w _).symm
  | some auth =>
    cases hauth : auth.toStr with
    | none => simp only [hauth, settle_reject]
    | some authHeader =>
      cases hcred : dpopCredentials authHeader with
      | none => simp only [hauth, hcred, settle_reject]
      | some accessToken =>
        simp only [hauth, hcred]
        cases (req.headers.get "DPoP").orElse fun _ => req.headers.get "dpop" with
        | none =>
          by_cases htrim : Text.trim authHeader = ""
          · simp only [htrim, if_true, settle_reject]
          · simp only [htrim, if_false, settle_challenge]
        | some dpop =>
          cases hdpop : dpop.toStr with
          | none => simp only [hdpop, settle_reject]
          | some proof =>
            simp only [hdpop]
            cases svc.requestHtu req.uri with
            | none => exact (settle_reject env w _).symm
            | some htu => exact checkProof_eq_screen env w _ _ _ _ _ _

end Settle

/-! ## What an action does -/

namespace TowerSystem

variable {s s' s₀ : TowerSystem N B C E} {a : TowerAction N B} {e : TowerEvent B}
  {tr : List (TowerAction N B × TowerEvent B)} {c : TowerCall N B C E} {w w' : SharedState N}
  {req : Request B} {phase phase' : CallPhase C E} {i : Nat} {now : SystemTime}

/-- What a call can do when it goes on. -/
inductive Advances (X : Crates) (svc : OAuthAuthService N B C E V) (i : Nat) (now : SystemTime)
    (w : SharedState N) (req : Request B) :
    CallPhase C E → CallPhase C E → SharedState N → TowerEvent B → Prop where
  | challenged (errorCode : String) (description : Option String) :
      Advances X svc i now w req (.challenging errorCode description)
        (.finished (.ok (svc.challenge (Interference.idle N) w errorCode description).1))
        (svc.challenge (Interference.idle N) w errorCode description).2 .silent
  | invalid {p : Pending} {v : V}
      (hu : svc.tokenValidator p.accessToken (p.jwk.thumbprint X) = .error v) :
      Advances X svc i now w req (.validating p)
        (.finished (.ok (unauthorizedResponse "invalid_token" none none))) w .silent
  | valid {p : Pending} {user : AuthenticatedUser}
      (hu : svc.tokenValidator p.accessToken (p.jwk.thumbprint X) = .ok user) :
      Advances X svc i now w req (.validating p) (.committing p user) w (.validated i p user now)
  | refused {p : Pending} {user : AuthenticatedUser} {err : DPoPError} {v : DPoPVerifier}
      (hk : w.verifier.commitReplayAdmission p.admission = (.error err, v)) :
      Advances X svc i now w req (.committing p user) (.finished (.ok (commitRejection err)))
        { w with verifier := v } .silent
  | admitted {p : Pending} {user : AuthenticatedUser} {v : DPoPVerifier}
      (hk : w.verifier.commitReplayAdmission p.admission = (.ok (), v)) :
      Advances X svc i now w req (.committing p user) (.invoking p user) { w with verifier := v }
        (.committed i p now)
  | invoked (p : Pending) (user : AuthenticatedUser) :
      Advances X svc i now w req (.invoking p user) (.serving p user) w
        (.invoked i p (req.withUser user) now)
  | failed {p : Pending} {user : AuthenticatedUser} {err : E}
      (hi : svc.inner (req.withUser user) = .error err) :
      Advances X svc i now w req (.serving p user) (.finished (.error err)) w .silent
  | served {p : Pending} {user : AuthenticatedUser} {response : Response C}
      (hi : svc.inner (req.withUser user) = .ok response) (hs : isSuccess response.status = true) :
      Advances X svc i now w req (.serving p user) (.attaching p user response) w .silent
  | passedOn {p : Pending} {user : AuthenticatedUser} {response : Response C}
      (hi : svc.inner (req.withUser user) = .ok response) (hs : isSuccess response.status = false) :
      Advances X svc i now w req (.serving p user) (.finished (.ok response)) w .silent
  | attached (p : Pending) (user : AuthenticatedUser) (response : Response C) :
      Advances X svc i now w req (.attaching p user response)
        (.finished (.ok (svc.finish (Interference.idle N) w response).1))
        (svc.finish (Interference.idle N) w response).2 .silent

theorem advances_of_advance (h : advance X svc i now w req phase = some (phase', w', e)) :
    Advances X svc i now w req phase phase' w' e := by
  cases phase with
  | challenging errorCode description =>
    simp only [advance, Option.some.injEq, Prod.mk.injEq] at h
    obtain ⟨rfl, rfl, rfl⟩ := h
    exact .challenged errorCode description
  | validating p =>
    simp only [advance] at h
    cases hu : svc.tokenValidator p.accessToken (p.jwk.thumbprint X) with
    | error v =>
      simp only [hu, Option.some.injEq, Prod.mk.injEq] at h
      obtain ⟨rfl, rfl, rfl⟩ := h
      exact .invalid hu
    | ok user =>
      simp only [hu, Option.some.injEq, Prod.mk.injEq] at h
      obtain ⟨rfl, rfl, rfl⟩ := h
      exact .valid hu
  | committing p user =>
    simp only [advance] at h
    rcases hk : w.verifier.commitReplayAdmission p.admission with ⟨err | ⟨⟩, v⟩
    · simp only [hk, Option.some.injEq, Prod.mk.injEq] at h
      obtain ⟨rfl, rfl, rfl⟩ := h
      exact .refused hk
    · simp only [hk, Option.some.injEq, Prod.mk.injEq] at h
      obtain ⟨rfl, rfl, rfl⟩ := h
      exact .admitted hk
  | invoking p user =>
    simp only [advance, Option.some.injEq, Prod.mk.injEq] at h
    obtain ⟨rfl, rfl, rfl⟩ := h
    exact .invoked p user
  | serving p user =>
    simp only [advance] at h
    cases hi : svc.inner (req.withUser user) with
    | error err =>
      simp only [hi, Option.some.injEq, Prod.mk.injEq] at h
      obtain ⟨rfl, rfl, rfl⟩ := h
      exact .failed hi
    | ok response =>
      cases hs : isSuccess response.status with
      | true =>
        simp only [hi, hs, if_true, Option.some.injEq, Prod.mk.injEq] at h
        obtain ⟨rfl, rfl, rfl⟩ := h
        exact .served hi hs
      | false =>
        simp only [hi, hs, Bool.false_eq_true, if_false, Option.some.injEq, Prod.mk.injEq] at h
        obtain ⟨rfl, rfl, rfl⟩ := h
        exact .passedOn hi hs
  | attaching p user response =>
    simp only [advance, Option.some.injEq, Prod.mk.injEq] at h
    obtain ⟨rfl, rfl, rfl⟩ := h
    exact .attached p user response
  | finished response => simp [advance] at h

/-- No call comes back to its access token. -/
theorem Advances.ne_validating (h : Advances X svc i now w req phase phase' w' e) (p : Pending) :
    phase' ≠ .validating p := by
  intro hphase
  cases h <;> cases hphase

/-- A call shows its own invocations only. -/
theorem Advances.invocationOf_ne (h : Advances X svc i now w req phase phase' w' e) {j : Nat}
    (hij : i ≠ j) : e.invocationOf j = none := by
  cases h with
  | invoked p user => exact if_neg hij
  | _ => rfl

/-- What an action does to the system. -/
inductive Steps (X : Crates) (svc : OAuthAuthService N B C E V) (s : TowerSystem N B C E) :
    TowerAction N B → TowerSystem N B C E → TowerEvent B → Prop where
  | tick {now : SystemTime} (hc : s.clock.nanos ≤ now.nanos) :
      Steps X svc s (.tick now) { s with clock := now } .silent
  | other {jkt jti : String} {exp now : Nat} (hnow : now ≤ s.clock.secs) :
      Steps X svc s (.other jkt jti exp now)
        { s with shared.verifier := (s.shared.verifier.record jkt jti exp now).2 } .silent
  | pruneExpired {now : Nat} (hnow : now ≤ s.clock.secs) :
      Steps X svc s (.pruneExpired now)
        { s with shared.verifier := s.shared.verifier.pruneReplayCache now } .silent
  | nonces (n : N) : Steps X svc s (.nonces n) { s with shared.nonces := n } .silent
  | call {req : Request B} {clock₁ clock₂ : SystemTime} {phase : CallPhase C E} {w : SharedState N}
      (hc : s.clock.nanos ≤ clock₂.nanos)
      (he : enter X svc s.shared req clock₁ clock₂ = (phase, w)) :
      Steps X svc s (.call req clock₁ clock₂)
        { shared := w, clock := clock₂,
          calls := s.calls ++ [⟨req, clock₁, clock₂, s.shared, phase⟩] } .silent
  | resume {i : Nat} {c : TowerCall N B C E} {phase : CallPhase C E} {w : SharedState N}
      {e : TowerEvent B} (hc : s.calls[i]? = some c)
      (ha : Advances X svc i s.clock s.shared c.req c.phase phase w e) :
      Steps X svc s (.resume i)
        { s with shared := w, calls := s.calls.set i { c with phase := phase } } e

theorem steps_of_step (h : s.step X svc a = some (s', e)) : Steps X svc s a s' e := by
  cases a with
  | tick now =>
    simp only [step, Option.ite_none_right_eq_some, Option.some.injEq, Prod.mk.injEq] at h
    obtain ⟨hc, rfl, rfl⟩ := h
    exact .tick hc
  | other jkt jti exp now =>
    simp only [step, Option.ite_none_right_eq_some, Option.some.injEq, Prod.mk.injEq] at h
    obtain ⟨hnow, rfl, rfl⟩ := h
    exact .other hnow
  | pruneExpired now =>
    simp only [step, Option.ite_none_right_eq_some, Option.some.injEq, Prod.mk.injEq] at h
    obtain ⟨hnow, rfl, rfl⟩ := h
    exact .pruneExpired hnow
  | nonces n =>
    simp only [step, Option.some.injEq, Prod.mk.injEq] at h
    obtain ⟨rfl, rfl⟩ := h
    exact .nonces n
  | call req clock₁ clock₂ =>
    simp only [step, Option.ite_none_right_eq_some, Option.some.injEq, Prod.mk.injEq] at h
    obtain ⟨⟨-, hc⟩, rfl, rfl⟩ := h
    exact .call hc rfl
  | resume i =>
    simp only [step, Option.bind_eq_bind, Option.pure_def, Option.bind_eq_some_iff,
      Option.some.injEq, Prod.mk.injEq] at h
    obtain ⟨c, hc, ⟨phase, w, e'⟩, ha, rfl, rfl⟩ := h
    exact .resume hc (advances_of_advance ha)

/-- An action leaves what a call was called with. -/
theorem Steps.call_of_call (h : Steps X svc s a s' e) (hc : s.calls[i]? = some c) :
    ∃ phase, s'.calls[i]? = some { c with phase := phase } := by
  cases h with
  | call => exact ⟨c.phase, by rw [List.getElem?_append_left (List.getElem?_eq_some_iff.1 hc).1]; exact hc⟩
  | @resume j c' phase w _ hc' ha =>
    by_cases hij : j = i
    · subst hij
      obtain rfl := Option.some.inj (hc'.symm.trans hc)
      exact ⟨phase, List.getElem?_set_self (List.getElem?_eq_some_iff.1 hc).1⟩
    · exact ⟨c.phase, by rw [List.getElem?_set_ne hij]; exact hc⟩
  | _ => exact ⟨c.phase, hc⟩

theorem Steps.clock_le (h : Steps X svc s a s' e) : s.clock.nanos ≤ s'.clock.nanos := by
  cases h with
  | tick hc => exact hc
  | call hc => exact hc
  | _ => exact le_rfl

/-! ## Calls in a run and calls under interference -/

/-- What a call under way has done: its phase follows from its request, from the shared state that it
    found, and from what it found when it went on. -/
inductive Follows (X : Crates) (svc : OAuthAuthService N B C E V) (c : TowerCall N B C E) :
    CallPhase C E → List (Request B) → Prop where
  | challenging {errorCode : String} {description : Option String} {w : SharedState N}
      (hs : svc.screen X c.entered c.req c.clock₁ c.clock₂ = (.challenge errorCode description, w)) :
      Follows X svc c (.challenging errorCode description) []
  | validating {p : Pending} {w : SharedState N}
      (hs : svc.screen X c.entered c.req c.clock₁ c.clock₂ = (.pass p, w)) :
      Follows X svc c (.validating p) []
  | committing {p : Pending} {user : AuthenticatedUser} {w : SharedState N}
      (hs : svc.screen X c.entered c.req c.clock₁ c.clock₂ = (.pass p, w))
      (hu : svc.tokenValidator p.accessToken (p.jwk.thumbprint X) = .ok user) :
      Follows X svc c (.committing p user) []
  | invoking {p : Pending} {user : AuthenticatedUser} {w wk : SharedState N}
      (hs : svc.screen X c.entered c.req c.clock₁ c.clock₂ = (.pass p, w))
      (hu : svc.tokenValidator p.accessToken (p.jwk.thumbprint X) = .ok user)
      (hk : (wk.verifier.commitReplayAdmission p.admission).1 = .ok ()) :
      Follows X svc c (.invoking p user) []
  | serving {p : Pending} {user : AuthenticatedUser} {w wk : SharedState N}
      (hs : svc.screen X c.entered c.req c.clock₁ c.clock₂ = (.pass p, w))
      (hu : svc.tokenValidator p.accessToken (p.jwk.thumbprint X) = .ok user)
      (hk : (wk.verifier.commitReplayAdmission p.admission).1 = .ok ()) :
      Follows X svc c (.serving p user) [c.req.withUser user]
  | attaching {p : Pending} {user : AuthenticatedUser} {w wk : SharedState N} {response : Response C}
      (hs : svc.screen X c.entered c.req c.clock₁ c.clock₂ = (.pass p, w))
      (hu : svc.tokenValidator p.accessToken (p.jwk.thumbprint X) = .ok user)
      (hk : (wk.verifier.commitReplayAdmission p.admission).1 = .ok ())
      (hi : svc.inner (c.req.withUser user) = .ok response) :
      Follows X svc c (.attaching p user response) [c.req.withUser user]
  | finished {response : Except E (Response C)} {requests : List (Request B)} {w : SharedState N}
      (env : Interference N)
      (h : svc.call X env c.entered c.req c.clock₁ c.clock₂ =
        { response := response, shared := w, invocations := requests }) :
      Follows X svc c (.finished response) requests

/-- The moves of other tasks that leave these states at the three places. -/
def between (wc wk wa : SharedState N) : Interference N := ⟨fun _ => wc, fun _ => wk, fun _ => wa⟩

theorem beforeCommit_between (w wc wk wa : SharedState N) : (between wc wk wa).beforeCommit w = wk := rfl

theorem challenge_between (w wc wk wa : SharedState N) (errorCode : String)
    (description : Option String) :
    (svc.challenge (between wc wk wa) w errorCode description).1 =
      (svc.challenge (Interference.idle N) wc errorCode description).1 := by
  unfold OAuthAuthService.challenge
  cases svc.nonceSource with
  | none => rfl
  | some source =>
    simp only [between, Interference.idle, id]

theorem finish_between (w wc wk wa : SharedState N) (response : Response C) :
    (svc.finish (between wc wk wa) w response).1 =
      (svc.finish (Interference.idle N) wa response).1 := by
  unfold OAuthAuthService.finish
  cases isSuccess response.status with
  | false => rfl
  | true =>
    cases svc.nonceSource with
    | none => rfl
    | some source =>
      simp only [between, Interference.idle, id, if_true]

section Follows

variable {p : Pending} {user : AuthenticatedUser} {wk : SharedState N}

/-- The part of a call that is not awaited, for a request that passes. -/
theorem authenticate_of_screen (env : Interference N)
    (hs : svc.screen X c.entered c.req c.clock₁ c.clock₂ = (.pass p, w)) :
    svc.authenticate X env c.entered c.req c.clock₁ c.clock₂ = (.ok p, w) := by
  rw [authenticate_eq_screen, hs, settle_pass]

theorem call_failed {err : E} (hs : svc.screen X c.entered c.req c.clock₁ c.clock₂ = (.pass p, w))
    (hu : svc.tokenValidator p.accessToken (p.jwk.thumbprint X) = .ok user)
    (hk : (wk.verifier.commitReplayAdmission p.admission).1 = .ok ())
    (hi : svc.inner (c.req.withUser user) = .error err) :
    Follows X svc c (.finished (.error err)) [c.req.withUser user] := by
  obtain ⟨v, hk⟩ : ∃ v, wk.verifier.commitReplayAdmission p.admission = (.ok (), v) :=
    ⟨_, Prod.ext hk rfl⟩
  apply Follows.finished (between w wk w)
  simp only [OAuthAuthService.call, authenticate_of_screen _ hs, hu, beforeCommit_between, hk, hi]
  rfl

theorem call_served {response : Response C} (wa : SharedState N)
    (hs : svc.screen X c.entered c.req c.clock₁ c.clock₂ = (.pass p, w))
    (hu : svc.tokenValidator p.accessToken (p.jwk.thumbprint X) = .ok user)
    (hk : (wk.verifier.commitReplayAdmission p.admission).1 = .ok ())
    (hi : svc.inner (c.req.withUser user) = .ok response) :
    Follows X svc c (.finished (.ok (svc.finish (Interference.idle N) wa response).1))
      [c.req.withUser user] := by
  obtain ⟨v, hk⟩ : ∃ v, wk.verifier.commitReplayAdmission p.admission = (.ok (), v) :=
    ⟨_, Prod.ext hk rfl⟩
  apply Follows.finished (between w wk wa)
  simp only [OAuthAuthService.call, authenticate_of_screen _ hs, hu, beforeCommit_between, hk, hi,
    finish_between]
  rfl

/-- A call that goes on follows from what it was called with. -/
theorem Follows.advance {requests : List (Request B)} (h : Follows X svc c phase requests)
    (ha : Advances X svc i now w c.req phase phase' w' e) :
    Follows X svc c phase' (requests ++ (e.invocationOf i).toList) := by
  cases ha with
  | challenged errorCode description =>
    cases h with
    | challenging hs =>
      apply Follows.finished (between w w w)
      simp only [OAuthAuthService.call, authenticate_eq_screen, hs, settle_challenge,
        challenge_between]
      rfl
  | invalid hu =>
    cases h with
    | validating hs =>
      apply Follows.finished (between w w w)
      simp only [OAuthAuthService.call, authenticate_of_screen _ hs, hu]
      rfl
  | valid hu =>
    cases h with
    | validating hs => exact .committing hs hu
  | refused hk =>
    cases h with
    | committing hs hu =>
      apply Follows.finished (between w w w)
      simp only [OAuthAuthService.call, authenticate_of_screen _ hs, hu, beforeCommit_between, hk]
      rfl
  | admitted hk =>
    cases h with
    | committing hs hu => exact .invoking hs hu (congrArg Prod.fst hk)
  | invoked p user =>
    cases h with
    | invoking hs hu hk =>
      rw [TowerEvent.invocationOf, if_pos rfl]
      exact .serving hs hu hk
  | failed hi =>
    cases h with
    | serving hs hu hk => exact call_failed hs hu hk hi
  | served hi hsuccess =>
    cases h with
    | serving hs hu hk => exact .attaching hs hu hk hi
  | passedOn hi hsuccess =>
    cases h with
    | serving hs hu hk =>
      have hserved := call_served w hs hu hk hi
      rw [OAuthAuthService.finish, hsuccess, if_neg Bool.false_ne_true] at hserved
      exact hserved
  | attached p user response =>
    cases h with
    | attaching hs hu hk hi => exact call_served w hs hu hk hi

/-- What a call was called with does not change when it goes on. -/
theorem Follows.withPhase {requests : List (Request B)} (h : Follows X svc c phase requests)
    (phase' : CallPhase C E) : Follows X svc { c with phase := phase' } phase requests := by
  cases h with
  | challenging hs => exact .challenging hs
  | validating hs => exact .validating hs
  | committing hs hu => exact .committing hs hu
  | invoking hs hu hk => exact .invoking hs hu hk
  | serving hs hu hk => exact .serving hs hu hk
  | attaching hs hu hk hi => exact .attaching hs hu hk hi
  | finished env h => exact .finished env h

/-- A new call. -/
theorem follows_of_enter {clock₁ clock₂ : SystemTime} {w₀ : SharedState N}
    (h : enter X svc w₀ req clock₁ clock₂ = (phase, w)) :
    Follows X svc ⟨req, clock₁, clock₂, w₀, phase⟩ phase [] := by
  unfold enter at h
  rcases hs : svc.screen X w₀ req clock₁ clock₂ with ⟨r | ⟨errorCode, description⟩ | p, w₁⟩
  · simp only [hs, Prod.mk.injEq] at h
    obtain ⟨rfl, rfl⟩ := h
    apply Follows.finished (Interference.idle N)
    simp only [OAuthAuthService.call, authenticate_eq_screen, hs, settle_reject]
    rfl
  · simp only [hs, Prod.mk.injEq] at h
    obtain ⟨rfl, rfl⟩ := h
    exact .challenging hs
  · simp only [hs, Prod.mk.injEq] at h
    obtain ⟨rfl, rfl⟩ := h
    exact .validating hs

/-- A request that passes and has a valid access token passed the checks of its call. -/
theorem checksPassed_of_screen (hs : svc.screen X c.entered c.req c.clock₁ c.clock₂ = (.pass p, w))
    (hu : svc.tokenValidator p.accessToken (p.jwk.thumbprint X) = .ok user) :
    ChecksPassed X svc c.entered c.req c.clock₁ c.clock₂ p user := by
  have hout : AuthOutcome (fun _ _ => True) c.entered (fun p w => w = afterNonceCheck svc c.entered p ∧
        ∀ user, svc.tokenValidator p.accessToken (p.jwk.thumbprint X) = .ok user →
          ChecksPassed X svc c.entered c.req c.clock₁ c.clock₂ p user)
      (svc.authenticate X (Interference.idle N) c.entered c.req c.clock₁ c.clock₂) :=
    authenticate_outcome (respects_true _) svc c.entered c.req
  rw [authenticate_of_screen _ hs] at hout
  cases hout with
  | passed h => exact h.2 user hu

/-- What a call has asked of the inner service. -/
theorem Follows.invoked {requests : List (Request B)} (h : Follows X svc c phase requests)
    (hne : requests ≠ []) :
    ∃ p user, ChecksPassed X svc c.entered c.req c.clock₁ c.clock₂ p user ∧
      requests = [c.req.withUser user] := by
  cases h with
  | challenging hs => exact absurd rfl hne
  | validating hs => exact absurd rfl hne
  | committing hs hu => exact absurd rfl hne
  | invoking hs hu hk => exact absurd rfl hne
  | serving hs hu hk => exact ⟨_, _, checksPassed_of_screen hs hu, rfl⟩
  | attaching hs hu hk hi => exact ⟨_, _, checksPassed_of_screen hs hu, rfl⟩
  | finished env h =>
    have hcases := call_cases (respects_true env) X svc c.entered c.req c.clock₁ c.clock₂
    rw [h] at hcases
    obtain ⟨p, user, hp, -, hrequests⟩ := hcases.of_invoked hne
    exact ⟨p, user, hp, hrequests⟩

end Follows

/-! ### Runs -/

/-- The call passed every check of the middleware, in the state that it found, with this result. -/
def Passed (X : Crates) (svc : OAuthAuthService N B C E V) (s : TowerSystem N B C E) (i : Nat)
    (p : Pending) (user : AuthenticatedUser) : Prop :=
  ∃ c, s.calls[i]? = some c ∧ ChecksPassed X svc c.entered c.req c.clock₁ c.clock₂ p user

/-- The events of a call come after its checks. -/
def Shows (X : Crates) (svc : OAuthAuthService N B C E V) (s : TowerSystem N B C E) :
    TowerEvent B → Prop
  | .silent => True
  | .validated i p user _ => Passed X svc s i p user
  | .committed i p _ => ∃ user, Passed X svc s i p user
  | .invoked i p req _ => ∃ c user, s.calls[i]? = some c ∧
      ChecksPassed X svc c.entered c.req c.clock₁ c.clock₂ p user ∧ req = c.req.withUser user

theorem Passed.step {p : Pending} {user : AuthenticatedUser} (h : Passed X svc s i p user)
    (hs : Steps X svc s a s' e) : Passed X svc s' i p user := by
  obtain ⟨c, hc, hchecks⟩ := h
  obtain ⟨phase, hc'⟩ := hs.call_of_call hc
  exact ⟨_, hc', hchecks⟩

theorem Shows.step {shown : TowerEvent B} (h : Shows X svc s shown) (hs : Steps X svc s a s' e) :
    Shows X svc s' shown := by
  cases shown with
  | silent => trivial
  | validated i p user now => exact Passed.step h hs
  | committed i p now =>
    obtain ⟨user, h⟩ := h
    exact ⟨user, h.step hs⟩
  | invoked i p req now =>
    obtain ⟨c, user, hc, hchecks, hreq⟩ := h
    obtain ⟨phase, hc'⟩ := hs.call_of_call hc
    exact ⟨_, user, hc', hchecks, hreq⟩

/-- What a call shows when it goes on. -/
theorem Follows.shows {requests : List (Request B)} (h : Follows X svc c phase requests)
    (hc : s.calls[i]? = some c) (ha : Advances X svc i now w c.req phase phase' w' e) :
    Shows X svc s e := by
  cases ha with
  | valid hu =>
    cases h with
    | validating hs => exact ⟨c, hc, checksPassed_of_screen hs hu⟩
  | admitted hk =>
    cases h with
    | committing hs hu => exact ⟨_, c, hc, checksPassed_of_screen hs hu⟩
  | invoked p user =>
    cases h with
    | invoking hs hu hk => exact ⟨c, user, hc, checksPassed_of_screen hs hu, rfl⟩
  | _ => trivial

theorem invocationsOf_snoc (j : Nat) :
    invocationsOf j (tr ++ [(a, e)]) = invocationsOf j tr ++ (e.invocationOf j).toList := by
  unfold invocationsOf
  rw [List.filterMap_append, List.filterMap_cons, List.filterMap_nil]
  cases e.invocationOf j <;> rfl

theorem invocationsOf_silent (j : Nat) :
    invocationsOf j (tr ++ [(a, .silent)]) = invocationsOf j tr := by
  rw [invocationsOf_snoc]
  exact List.append_nil _

/-- Every call in a run follows from what it was called with, and a call that has not come yet has not
    invoked the inner service. What calls have shown came after their checks. -/
structure Tracks (X : Crates) (svc : OAuthAuthService N B C E V)
    (tr : List (TowerAction N B × TowerEvent B)) (s : TowerSystem N B C E) : Prop where
  follows : ∀ i c, s.calls[i]? = some c → Follows X svc c c.phase (invocationsOf i tr)
  fresh : ∀ i, s.calls.length ≤ i → invocationsOf i tr = []
  shows : ∀ x ∈ tr, Shows X svc s x.2

theorem Tracks.silent (h : Tracks X svc tr s) (hs : Steps X svc s a s' .silent)
    (hcalls : s'.calls = s.calls) : Tracks X svc (tr ++ [(a, .silent)]) s' := by
  refine ⟨fun i c hc => ?_, fun i hi => ?_, fun x hx => ?_⟩
  · rw [invocationsOf_silent]
    exact h.follows i c (hcalls ▸ hc)
  · rw [invocationsOf_silent]
    exact h.fresh i (hcalls ▸ hi)
  · rcases List.mem_append.1 hx with hx | hx
    · exact (h.shows x hx).step hs
    · obtain rfl := List.mem_singleton.1 hx
      trivial

theorem Tracks.step (h : Tracks X svc tr s) (hs : Steps X svc s a s' e) :
    Tracks X svc (tr ++ [(a, e)]) s' := by
  have hsteps := hs
  cases hs with
  | tick hc => exact h.silent hsteps rfl
  | other hnow => exact h.silent hsteps rfl
  | pruneExpired hnow => exact h.silent hsteps rfl
  | nonces n => exact h.silent hsteps rfl
  | @call req clock₁ clock₂ phase w hc he =>
    refine ⟨fun i c hi => ?_, fun i hi => ?_, fun x hx => ?_⟩
    · rw [invocationsOf_silent]
      rcases Nat.lt_or_ge i s.calls.length with hlt | hge
      · rw [List.getElem?_append_left hlt] at hi
        exact h.follows i c hi
      · rw [List.getElem?_append_right hge, List.getElem?_singleton,
          Option.ite_none_right_eq_some, Option.some.injEq] at hi
        obtain ⟨-, rfl⟩ := hi
        rw [h.fresh i hge]
        exact follows_of_enter he
    · rw [invocationsOf_silent]
      rw [List.length_append] at hi
      exact h.fresh i (by omega)
    · rcases List.mem_append.1 hx with hx | hx
      · exact (h.shows x hx).step hsteps
      · obtain rfl := List.mem_singleton.1 hx
        trivial
  | @resume i c phase w _ hc ha =>
    have hlt : i < s.calls.length := (List.getElem?_eq_some_iff.1 hc).1
    refine ⟨fun j c' hj => ?_, fun j hj => ?_, fun x hx => ?_⟩
    · rw [invocationsOf_snoc]
      by_cases hij : i = j
      · subst hij
        rw [List.getElem?_set_self hlt, Option.some.injEq] at hj
        rw [← hj]
        exact ((h.follows i c hc).advance ha).withPhase phase
      · rw [List.getElem?_set_ne hij] at hj
        rw [ha.invocationOf_ne hij, Option.toList_none, List.append_nil]
        exact h.follows j c' hj
    · rw [List.length_set] at hj
      rw [invocationsOf_snoc, ha.invocationOf_ne (by omega), Option.toList_none, List.append_nil]
      exact h.fresh j hj
    · rcases List.mem_append.1 hx with hx | hx
      · exact (h.shows x hx).step hsteps
      · obtain rfl := List.mem_singleton.1 hx
        exact ((h.follows i c hc).shows hc ha).step hsteps

theorem tracks_of_run (h0 : s₀.calls = [])
    (hr : Exec Exec.anyStep (step X svc) s₀ tr s) : Tracks X svc tr s := by
  refine hr.invariant _ ⟨?_, ?_, ?_⟩ fun _ _ _ _ _ h _ hs => h.step (steps_of_step hs)
  · simp [h0]
  · intro i _
    rfl
  · simp

end TowerSystem

/-- Every schedule is an interference: in every run of any number of calls, a call that has finished
    answered as `call` does for its request under some interference, with the same requests to the inner
    service; and whatever call has reached the inner service did so once, for a request that passed every
    check of the middleware in the state that the call found. -/
theorem schedule_is_interference {s₀ s : TowerSystem N B C E}
    {tr : List (TowerAction N B × TowerEvent B)} (h0 : s₀.Initial)
    (hr : Exec Exec.anyStep (TowerSystem.step X svc) s₀ tr s) :
    ∀ i c, s.calls[i]? = some c →
      (∀ response, c.phase = .finished response → ∃ env,
        (svc.call X env c.entered c.req c.clock₁ c.clock₂).response = response ∧
        (svc.call X env c.entered c.req c.clock₁ c.clock₂).invocations =
          TowerSystem.invocationsOf i tr) ∧
      (TowerSystem.invocationsOf i tr ≠ [] → ∃ p user,
        ChecksPassed X svc c.entered c.req c.clock₁ c.clock₂ p user ∧
        TowerSystem.invocationsOf i tr = [c.req.withUser user]) := by
  intro i c hc
  have hfollows := (TowerSystem.tracks_of_run h0.calls hr).follows i c hc
  refine ⟨fun response hphase => ?_, hfollows.invoked⟩
  rw [hphase] at hfollows
  cases hfollows with
  | finished env h => exact ⟨env, by rw [h], by rw [h]⟩

/-! ### A run of the sample proof -/

namespace TowerSystem

variable {s : TowerSystem N B C E} {p : Pending} {user : AuthenticatedUser}

/-- A request that passes its checks waits for its access token. -/
theorem step_call {req : Request B} {clock₁ clock₂ : SystemTime}
    (h : ChecksPassed X svc s.shared req clock₁ clock₂ p user) (h12 : clock₁.nanos ≤ clock₂.nanos)
    (hc : s.clock.nanos ≤ clock₂.nanos) :
    s.step X svc (.call req clock₁ clock₂) =
      some ({ shared := afterNonceCheck svc s.shared p, clock := clock₂,
              calls := s.calls ++ [⟨req, clock₁, clock₂, s.shared, .validating p⟩] }, .silent) := by
  have hsettle := authenticate_of_checks (Interference.idle N) h
  rw [authenticate_eq_screen] at hsettle
  rcases hs : svc.screen X s.shared req clock₁ clock₂ with ⟨r | ⟨errorCode, description⟩ | p', w⟩
  · simp [hs, settle_reject] at hsettle
  · simp [hs, settle_challenge] at hsettle
  · rw [hs, settle_pass, Prod.mk.injEq, Except.ok.injEq] at hsettle
    obtain ⟨rfl, rfl⟩ := hsettle
    simp only [step, h12, hc, and_self, if_true, enter, hs]

variable (X) (svc) {i : Nat} {c : TowerCall N B C E}

/-- A call whose access token is valid. -/
theorem step_validate (hc : s.calls[i]? = some c) (hphase : c.phase = .validating p)
    (hu : svc.tokenValidator p.accessToken (p.jwk.thumbprint X) = .ok user) :
    s.step X svc (.resume i) =
      some ({ s with calls := s.calls.set i { c with phase := .committing p user } },
        .validated i p user s.clock) := by
  simp only [step, hc, hphase, advance, hu, Option.bind_eq_bind, Option.bind_some, Option.pure_def]

/-- A call whose admission is committed. -/
theorem step_commit {v : DPoPVerifier} (hc : s.calls[i]? = some c) (hphase : c.phase = .committing p user)
    (hk : s.shared.verifier.commitReplayAdmission p.admission = (.ok (), v)) :
    s.step X svc (.resume i) =
      some ({ s with shared.verifier := v
                     calls := s.calls.set i { c with phase := .invoking p user } },
        .committed i p s.clock) := by
  simp only [step, hc, hphase, advance, hk, Option.bind_eq_bind, Option.bind_some, Option.pure_def]

/-- A call that invokes the inner service. -/
theorem step_invoke (hc : s.calls[i]? = some c) (hphase : c.phase = .invoking p user) :
    s.step X svc (.resume i) =
      some ({ s with calls := s.calls.set i { c with phase := .serving p user } },
        .invoked i p (c.req.withUser user) s.clock) := by
  simp only [step, hc, hphase, advance, Option.bind_eq_bind, Option.bind_some, Option.pure_def]

/-- What a call shows on its way from its access token to the inner service, when nothing comes between. -/
def wayToInner (i : Nat) (p : Pending) (user : AuthenticatedUser) (req : Request B) (now : SystemTime) :
    List (TowerAction N B × TowerEvent B) :=
  [(.resume i, .validated i p user now), (.resume i, .committed i p now),
    (.resume i, .invoked i p (req.withUser user) now)]

/-- A call goes that way if its access token is valid and its admission can be committed. -/
theorem run_wayToInner {v : DPoPVerifier} (hc : s.calls[i]? = some c) (hphase : c.phase = .validating p)
    (hu : svc.tokenValidator p.accessToken (p.jwk.thumbprint X) = .ok user)
    (hk : s.shared.verifier.commitReplayAdmission p.admission = (.ok (), v)) :
    Exec.run (step X svc) s [.resume i, .resume i, .resume i] =
      some (wayToInner i p user c.req s.clock,
        { s with shared.verifier := v, calls := s.calls.set i { c with phase := .serving p user } }) := by
  have hlt : i < s.calls.length := (List.getElem?_eq_some_iff.1 hc).1
  simp only [Exec.run, step, hc, hphase, advance, hu, hk, Option.bind_eq_bind, Option.bind_some,
    Option.pure_def, List.getElem?_set_self, hlt, List.set_set, wayToInner]

end TowerSystem

namespace TowerSample

def user : AuthenticatedUser where
  did := "did:plc:sample"
  accessToken := "token"
  dpopThumbprint := sampleJwk.thumbprint sampleCrates
  scope := none

/-- The endpoint of the sample proof behind the middleware. -/
def service : OAuthAuthService Unit Unit Unit String String where
  inner := fun _ => .ok { status := 200, headers := [], body := () }
  tokenValidator := fun _ _ => .ok user
  nonceSource := none
  requireAth := false
  htuOverride := some fun _ => "https://server.example.com/token"

/-- A request with these credentials and this proof. -/
def request (auth proof : HeaderValue) : Request Unit where
  method := "POST"
  uri := { scheme := none, authority := none, pathAndQuery := none }
  headers := [("authorization", auth), ("dpop", proof)]
  extensions := { session := none, user := none }
  body := ()

/-- The sample proof once it has been verified at a second. -/
def pending (n : Nat) : Pending where
  accessToken := "token"
  claims := sampleClaims
  jwk := sampleJwk
  admission := { jkt := sampleJwk.thumbprint sampleCrates, jti := sampleClaims.jti,
                 expiresAt := n + 360, now := n }

variable {auth proof : HeaderValue} {w : SharedState Unit} {n : Nat}

theorem checksPassed (hauth : auth.toStr = some "DPoP token") (hproof : proof.toStr = some sampleProof)
    (hskew : w.verifier.maxClockSkew = DEFAULT_CLOCK_SKEW_LEEWAY)
    (hage : w.verifier.maxProofAge = DEFAULT_MAX_PROOF_AGE) (h1 : 1562262556 ≤ n)
    (h2 : n ≤ 1562262916) :
    ChecksPassed sampleCrates service w (request auth proof) (SystemTime.ofSecs n) (SystemTime.ofSecs n)
      (pending n) user := by
  have hexp : w.verifier.expiresAt n = n + 360 := by
    have h60 : DEFAULT_CLOCK_SKEW_LEEWAY.asSecs = 60 := by decide
    have h300 : DEFAULT_MAX_PROOF_AGE.asSecs = 300 := by decide
    rw [DPoPVerifier.expiresAt, hskew, hage, h60, h300]
    unfold saturatingAdd U64_MAX
    omega
  have hcred : dpopCredentials "DPoP token" = some "token" := by decide
  refine ⟨⟨"DPoP token", ?_, dpopCredentials_eq_some.1 hcred⟩, ⟨sampleProof, _, ?_, rfl, ?_⟩, ?_, rfl⟩
  · rw [headerText]
    exact hauth
  · rw [headerText]
    exact hproof
  · refine verifyProofDeferred_eq_ok.2 ⟨verifyProofNoReplay_sample hskew hage h1 h2, n,
      SystemTime.unixSecs_ofSecs n, ?_⟩
    rw [hexp]
    rfl
  · intro source hsource
    cases hsource

def start : TowerSystem Unit Unit Unit String where
  shared := { verifier := DPoPVerifier.new fun _ => 0, nonces := () }
  clock := ⟨0⟩
  calls := []

theorem initial_start : start.Initial := ⟨rfl, rfl⟩

/-- The call of a request with the sample proof at a second. -/
def callAt (auth proof : HeaderValue) (n : Nat) : TowerAction Unit Unit :=
  .call (request auth proof) (SystemTime.ofSecs n) (SystemTime.ofSecs n)

/-- What such a call shows on its way to the inner service. -/
def wayAt (auth proof : HeaderValue) (i n : Nat) : List (TowerAction Unit Unit × TowerEvent Unit) :=
  TowerSystem.wayToInner i (pending n) user (request auth proof) (SystemTime.ofSecs n)

/-- A call that waits for its access token, beside earlier calls. -/
def waiting (auth proof : HeaderValue) (n : Nat) (shared : SharedState Unit)
    (calls : List (TowerCall Unit Unit Unit String)) : TowerSystem Unit Unit Unit String where
  shared := shared
  clock := SystemTime.ofSecs n
  calls := calls ++ [⟨request auth proof, SystemTime.ofSecs n, SystemTime.ofSecs n, shared,
    .validating (pending n)⟩]

/-- The first call, once it has reached the inner service. -/
def served (auth proof : HeaderValue) : TowerSystem Unit Unit Unit String where
  shared := { verifier := sampleRecorded.2, nonces := () }
  clock := SystemTime.ofSecs 1562262556
  calls := [⟨request auth proof, SystemTime.ofSecs 1562262556, SystemTime.ofSecs 1562262556,
    start.shared, .serving (pending 1562262556) user⟩]

theorem exec_served (hauth : auth.toStr = some "DPoP token")
    (hproof : proof.toStr = some sampleProof) :
    Exec Exec.anyStep (TowerSystem.step sampleCrates service) start
      ((callAt auth proof 1562262556, .silent) :: wayAt auth proof 0 1562262556) (served auth proof) := by
  have hchecks := checksPassed (w := start.shared) hauth hproof rfl rfl (Nat.le_refl 1562262556) (by omega)
  have hcommit : start.shared.verifier.commitReplayAdmission (pending 1562262556).admission =
      (.ok (), sampleRecorded.2) := Prod.ext sampleRecorded_ok rfl
  have hcall : start.step sampleCrates service (callAt auth proof 1562262556) =
      some (waiting auth proof 1562262556 start.shared [], .silent) :=
    TowerSystem.step_call hchecks (le_refl _) (by decide)
  have hway := TowerSystem.run_wayToInner sampleCrates service
    (s := waiting auth proof 1562262556 start.shared []) (i := 0) rfl rfl rfl hcommit
  exact (Exec.nil.snoc trivial hcall).of_run hway

/-- Printable texts are in headers. -/
theorem exists_headers : ∃ auth proof : HeaderValue, auth.toStr = some "DPoP token" ∧
    proof.toStr = some sampleProof := by
  have hprintable : IsPrintable "DPoP token" := Text.forall_mem_of_all (by decide)
  obtain ⟨auth, -, hauth⟩ := fromStr_printable hprintable
  obtain ⟨proof, -, hproof⟩ := fromStr_printable (isPrintable_of_visible
    (s := sampleProof) fun c hc => visible_compactJwt hc)
  exact ⟨auth, proof, hauth, hproof⟩

end TowerSample

/-- A call of the sample that has finished answered as `call` does under some interference. -/
theorem schedule_is_interference_sample : ∃ req tr s c,
    Exec Exec.anyStep (TowerSystem.step sampleCrates TowerSample.service) TowerSample.start tr s ∧
      s.calls[0]? = some c ∧ c.phase = .finished (.ok { status := 200, headers := [], body := () }) ∧
      ∃ env, (TowerSample.service.call sampleCrates env c.entered c.req c.clock₁ c.clock₂).invocations =
        [req] := by
  obtain ⟨auth, proof, hauth, hproof⟩ := TowerSample.exists_headers
  have hr := ((TowerSample.exec_served hauth hproof).snoc (a := .resume 0) trivial rfl).snoc
    (a := .resume 0) trivial rfl
  obtain ⟨env, -, hrequests⟩ :=
    (schedule_is_interference TowerSample.initial_start hr 0 _ rfl).1 _ rfl
  exact ⟨_, _, _, _, hr, rfl, rfl, env, hrequests⟩

/-! ## What the part of a call that is not awaited does -/

/-- What it can come to. -/
inductive Screened (svc : OAuthAuthService N B C E V) (w : SharedState N) :
    Screening C × SharedState N → Prop where
  | rejected (r : Response C) : Screened svc w (.reject r, w)
  | challenged (errorCode : String) (description : Option String) :
      Screened svc w (.challenge errorCode description, w)
  | refused {source : NonceSource N} {nonce : String} (errorCode : String)
      (description : Option String) (hsource : svc.nonceSource = some source) :
      Screened svc w
        (.challenge errorCode description, { w with nonces := (source.verifyNonce w.nonces nonce).2 })
  | passed (p : Pending) (hsource : svc.nonceSource = none) : Screened svc w (.pass p, w)
  | accepted {p : Pending} {source : NonceSource N} {nonce : String}
      (hsource : svc.nonceSource = some source) (hnonce : p.claims.nonce = some nonce)
      (hvalid : (source.verifyNonce w.nonces nonce).1 = true) :
      Screened svc w (.pass p, { w with nonces := (source.verifyNonce w.nonces nonce).2 })

section Screened

variable {w : SharedState N}

omit [Inhabited C] in
theorem screened_nonce (p : Pending) : Screened svc w (svc.screenNonce w p) := by
  unfold OAuthAuthService.screenNonce
  cases hsource : svc.nonceSource with
  | none => exact .passed p hsource
  | some source =>
    cases hnonce : p.claims.nonce with
    | none => exact .challenged _ _
    | some nonce =>
      cases hvalid : (source.verifyNonce w.nonces nonce).1 with
      | true =>
        simp only [hvalid, if_true]
        exact .accepted hsource hnonce hvalid
      | false =>
        simp only [hvalid, Bool.false_eq_true, if_false]
        exact .refused _ _ hsource

theorem screened_proof (accessToken proof htm htu : String) (clock₁ clock₂ : SystemTime) :
    Screened svc w (svc.screenProof X w accessToken proof htm htu clock₁ clock₂) := by
  unfold OAuthAuthService.screenProof
  split
  · exact screened_nonce _
  · exact .rejected _
  · exact .rejected _
  · exact .challenged _ _

theorem screened (X : Crates) (svc : OAuthAuthService N B C E V) (w : SharedState N) (req : Request B)
    (clock₁ clock₂ : SystemTime) : Screened svc w (svc.screen X w req clock₁ clock₂) := by
  unfold OAuthAuthService.screen
  simp only []
  split
  · exact .rejected _
  · split
    · exact .rejected _
    · split
      · exact .rejected _
      · split
        · split
          · exact .rejected _
          · exact .challenged _ _
        · split
          · exact .rejected _
          · split
            · exact .rejected _
            · exact screened_proof _ _ _ _ _ _

end Screened

/-! ## One proof and the inner service -/

/-- An admission as a verifier makes it by a second. -/
structure ReplayAdmission.MadeBy (v : DPoPVerifier) (now : Nat) (a : ReplayAdmission) : Prop where
  dated : a.now ≤ now
  expiry : a.expiresAt = v.expiresAt a.now

theorem ReplayAdmission.MadeBy.mono {v v' : DPoPVerifier} {now now' : Nat} {a : ReplayAdmission}
    (h : a.MadeBy v now) (hnow : now ≤ now') (hv : v.expiresAt = v'.expiresAt) : a.MadeBy v' now' :=
  ⟨h.dated.trans hnow, by rw [h.expiry, hv]⟩

section Checks

variable {w : SharedState N} {req : Request B} {clock₁ clock₂ : SystemTime} {p : Pending}
  {user : AuthenticatedUser}

omit [Inhabited C] in
/-- The admission of a request that passes its checks is that of its proof, at the time of the call. -/
theorem ChecksPassed.admission (h : ChecksPassed X svc w req clock₁ clock₂ p user) :
    (∃ proof, headerText req.headers "dpop" = some proof ∧
      IsPairOf X proof p.admission.jkt p.admission.jti) ∧
    p.admission.now = clock₂.secs ∧ p.admission.expiresAt = w.verifier.expiresAt clock₂.secs := by
  obtain ⟨proof, htu, hproof, -, hv⟩ := h.proof
  obtain ⟨hpair, hnow, hexp⟩ := AdmissionInv.of_deferred hv
  exact ⟨⟨proof, hproof, hpair⟩, hnow, hexp⟩

omit [Inhabited C] in
theorem ChecksPassed.madeBy (h : ChecksPassed X svc w req clock₁ clock₂ p user) :
    p.admission.MadeBy w.verifier clock₂.secs := by
  obtain ⟨-, hnow, hexp⟩ := h.admission
  exact ⟨hnow.le, by rw [hexp, hnow]⟩

end Checks

/-- What other admissions and prunings up to a second leave of a cache: it stays enabled, and the
    entries that are live at that second stay. -/
structure DPoPVerifier.Keeps (t : Nat) (v v' : DPoPVerifier) : Prop where
  enabled : v.replayCache.isSome → v'.replayCache.isSome
  settings : v'.expiresAt = v.expiresAt
  entry : ∀ key e, v.entry key = some e → t < e → v'.entry key = some e

theorem DPoPVerifier.Keeps.refl (t : Nat) (v : DPoPVerifier) : v.Keeps t v :=
  ⟨id, rfl, fun _ _ h _ => h⟩

/-- An admission replaces no live entry: for the same pair it is refused. -/
theorem keeps_record (v : DPoPVerifier) (jkt jti : String) (exp : Nat) {now t : Nat} (hnow : now ≤ t) :
    v.Keeps t (v.record jkt jti exp now).2 := by
  refine ⟨DPoPVerifier.isSome_replayCache_record, DPoPVerifier.expiresAt_record v jkt jti exp now, ?_⟩
  intro key e he hlive
  by_cases hkey : key = compositeKey jkt jti
  · rw [hkey] at he ⊢
    rw [DPoPVerifier.record_of_live he (hnow.trans_lt hlive)]
    exact he
  · exact DPoPVerifier.entry_record_of_ne hkey hnow he hlive

theorem keeps_pruneReplayCache (v : DPoPVerifier) {now t : Nat} (hnow : now ≤ t) :
    v.Keeps t (v.pruneReplayCache now) :=
  ⟨by simp [DPoPVerifier.pruneReplayCache], rfl, fun _ _ he hlive =>
    DPoPVerifier.entry_pruneExpired he (hnow.trans_lt hlive)⟩

namespace TowerSystem

variable {s s' s₀ : TowerSystem N B C E} {a : TowerAction N B} {e : TowerEvent B}
  {tr : List (TowerAction N B × TowerEvent B)} {v₀ : DPoPVerifier} {w w' : SharedState N}
  {req : Request B} {phase phase' : CallPhase C E} {i : Nat} {now : SystemTime}

/-- A nonce for a challenge or a response leaves the verifier alone. -/
theorem verifier_challenge (errorCode : String) (description : Option String) :
    (svc.challenge (Interference.idle N) w errorCode description).2.verifier = w.verifier := by
  unfold OAuthAuthService.challenge
  cases svc.nonceSource with
  | none => rfl
  | some source =>
    simp only [Interference.idle, id]
    split <;> rfl

theorem verifier_finish (response : Response C) :
    (svc.finish (Interference.idle N) w response).2.verifier = w.verifier := by
  unfold OAuthAuthService.finish
  split
  · cases svc.nonceSource with
    | none => rfl
    | some source =>
      simp only [Interference.idle, id]
      split <;> rfl
  · rfl

theorem verifier_enter {clock₁ clock₂ : SystemTime}
    (h : enter X svc w req clock₁ clock₂ = (phase, w')) : w'.verifier = w.verifier := by
  have hscreened := screened X svc w req clock₁ clock₂
  unfold enter at h
  generalize svc.screen X w req clock₁ clock₂ = outcome at h hscreened
  cases hscreened <;> obtain ⟨-, rfl⟩ := Prod.mk.inj h <;> rfl

/-- What holds of a commit at every later time: its admission was made by the verifier, and is recorded
    until it expires. -/
structure Recorded (v₀ : DPoPVerifier) (s : TowerSystem N B C E) (p : Pending) (now : SystemTime) :
    Prop where
  made : p.admission.MadeBy v₀ now.secs
  entry : s.clock.secs < p.admission.expiresAt →
    s.shared.verifier.entry (compositeKey p.admission.jkt p.admission.jti) =
      some p.admission.expiresAt

/-- Two commits for one pair: the second comes when the admission of the first has expired. -/
def Apart (e e' : TowerEvent B) : Prop :=
  ∀ i p now i' p' now', e = .committed i p now → e' = .committed i' p' now' →
    p.admission.jkt = p'.admission.jkt → p.admission.jti = p'.admission.jti →
      p.admission.expiresAt ≤ now'.secs

/-- What holds along every run. -/
structure Guarded (v₀ : DPoPVerifier) (tr : List (TowerAction N B × TowerEvent B))
    (s : TowerSystem N B C E) : Prop where
  enabled : s.shared.verifier.replayCache.isSome
  settings : s.shared.verifier.expiresAt = v₀.expiresAt
  entered : ∀ c ∈ s.calls, c.clock₂.nanos ≤ s.clock.nanos ∧
    c.entered.verifier.expiresAt = v₀.expiresAt
  recorded : ∀ x ∈ tr, ∀ i p now, x.2 = .committed i p now → Recorded v₀ s p now
  apart : tr.Pairwise fun x y => Apart x.2 y.2

omit [Inhabited C] in
theorem Recorded.keep {p : Pending} (h : Recorded v₀ s p now) (hc : s.clock.nanos ≤ s'.clock.nanos)
    (hk : s.shared.verifier.Keeps s'.clock.secs s'.shared.verifier) : Recorded v₀ s' p now := by
  refine ⟨h.made, fun hlive => ?_⟩
  exact hk.entry _ _ (h.entry ((SystemTime.secs_mono hc).trans_lt hlive)) hlive

omit [Inhabited C] in
/-- An action that commits nothing. -/
theorem Guarded.quiet (h : Guarded v₀ tr s) (he : ∀ i p now, e ≠ .committed i p now)
    (hc : s.clock.nanos ≤ s'.clock.nanos)
    (hk : s.shared.verifier.Keeps s'.clock.secs s'.shared.verifier)
    (hentered : ∀ c ∈ s'.calls, c.clock₂.nanos ≤ s'.clock.nanos ∧
      c.entered.verifier.expiresAt = v₀.expiresAt) :
    Guarded v₀ (tr ++ [(a, e)]) s' := by
  refine ⟨hk.enabled h.enabled, hk.settings.trans h.settings, hentered, ?_, ?_⟩
  · intro x hx i p now hx'
    rcases List.mem_append.1 hx with hx | hx
    · exact (h.recorded x hx i p now hx').keep hc hk
    · rw [List.mem_singleton.1 hx] at hx'
      exact absurd hx' (he i p now)
  · rw [List.pairwise_append]
    refine ⟨h.apart, List.pairwise_singleton _ _, ?_⟩
    intro x _ y hy i p now i' p' now' _ hy'
    rw [List.mem_singleton.1 hy] at hy'
    exact absurd hy' (he i' p' now')

omit [Inhabited C] in
/-- A call that commits: before, no entry of its pair was live at the clock, and now its own is. -/
theorem Guarded.admit (h : Guarded v₀ tr s) {p : Pending} {v : DPoPVerifier}
    (hmade : p.admission.MadeBy v₀ s.clock.secs)
    (hk : s.shared.verifier.commitReplayAdmission p.admission = (.ok (), v))
    (hclock : s'.clock = s.clock) (hv : s'.shared.verifier = v)
    (hentered : ∀ c ∈ s'.calls, c.clock₂.nanos ≤ s'.clock.nanos ∧
      c.entered.verifier.expiresAt = v₀.expiresAt) :
    Guarded v₀ (tr ++ [(a, .committed i p s.clock)]) s' := by
  have hrecord : v = (s.shared.verifier.record p.admission.jkt p.admission.jti p.admission.expiresAt
      p.admission.now).2 := (congrArg Prod.snd hk).symm
  have hkeeps : s.shared.verifier.Keeps s'.clock.secs s'.shared.verifier := by
    rw [hv, hrecord, hclock]
    exact keeps_record _ _ _ _ hmade.dated
  have hc : s.clock.nanos ≤ s'.clock.nanos := by rw [hclock]
  refine ⟨hkeeps.enabled h.enabled, hkeeps.settings.trans h.settings, hentered, ?_, ?_⟩
  · intro x hx j p' now' he
    rcases List.mem_append.1 hx with hx | hx
    · exact (h.recorded x hx j p' now' he).keep hc hkeeps
    · rw [List.mem_singleton.1 hx] at he
      cases he
      refine ⟨hmade, fun hlive => ?_⟩
      rw [hv, hrecord]
      exact DPoPVerifier.entry_record_of_ok h.enabled (congrArg Prod.fst hk) hmade.dated
        (hclock ▸ hlive)
  · rw [List.pairwise_append]
    refine ⟨h.apart, List.pairwise_singleton _ _, ?_⟩
    intro x hx y hy j p₁ now₁ j' p₂ now₂ he he' hjkt hjti
    rw [List.mem_singleton.1 hy] at he'
    cases he'
    -- were the earlier entry still live, this commit would have been refused
    by_contra hlt
    have hlive := (h.recorded x hx j p₁ now₁ he).entry (Nat.lt_of_not_le hlt)
    rw [hjkt, hjti] at hlive
    unfold DPoPVerifier.commitReplayAdmission at hk
    rw [DPoPVerifier.record_of_live hlive (hmade.dated.trans_lt (Nat.lt_of_not_le hlt))] at hk
    cases hk

/-- The admission of a call that is about to commit it. -/
theorem Guarded.madeBy (h : Guarded v₀ tr s) (ht : Tracks X svc tr s) {c : TowerCall N B C E}
    {p : Pending} {user : AuthenticatedUser} (hc : s.calls[i]? = some c)
    (hphase : c.phase = .committing p user) : p.admission.MadeBy v₀ s.clock.secs := by
  obtain ⟨hclock, hsettings⟩ := h.entered c (List.mem_of_getElem? hc)
  have hfollows := ht.follows i c hc
  rw [hphase] at hfollows
  generalize invocationsOf i tr = requests at hfollows
  cases hfollows with
  | committing hs hu =>
    exact (checksPassed_of_screen hs hu).madeBy.mono (SystemTime.secs_mono hclock) hsettings

theorem Guarded.step (h : Guarded v₀ tr s) (ht : Tracks X svc tr s) (hs : Steps X svc s a s' e) :
    Guarded v₀ (tr ++ [(a, e)]) s' := by
  have hclock := hs.clock_le
  cases hs with
  | tick hc =>
    exact h.quiet (by simp) hclock (.refl _ _) fun c hmem =>
      ⟨(h.entered c hmem).1.trans hc, (h.entered c hmem).2⟩
  | other hnow => exact h.quiet (by simp) hclock (keeps_record _ _ _ _ hnow) h.entered
  | pruneExpired hnow => exact h.quiet (by simp) hclock (keeps_pruneReplayCache _ hnow) h.entered
  | nonces n => exact h.quiet (by simp) hclock (.refl _ _) h.entered
  | @call req clock₁ clock₂ phase w hc he =>
    refine h.quiet (by simp) hclock (by rw [verifier_enter he]; exact .refl _ _) fun c hmem => ?_
    rcases List.mem_append.1 hmem with hmem | hmem
    · exact ⟨(h.entered c hmem).1.trans hc, (h.entered c hmem).2⟩
    · rw [List.mem_singleton.1 hmem]
      exact ⟨le_rfl, h.settings⟩
  | @resume i c phase w _ hc ha =>
    have hentered : ∀ c' ∈ s.calls.set i { c with phase := phase }, c'.clock₂.nanos ≤ s.clock.nanos ∧
        c'.entered.verifier.expiresAt = v₀.expiresAt := by
      intro c' hmem
      rcases List.mem_or_eq_of_mem_set hmem with hmem | rfl
      · exact h.entered c' hmem
      · exact h.entered c (List.mem_of_getElem? hc)
    generalize hbefore : c.phase = before at ha
    cases ha with
    | challenged errorCode description =>
      refine h.quiet (by simp) hclock ?_ hentered
      rw [verifier_challenge]
      exact .refl _ _
    | @refused p user err v hk =>
      have hv : v = (s.shared.verifier.commitReplayAdmission p.admission).2 := by rw [hk]
      refine h.quiet (by simp) hclock ?_ hentered
      rw [hv]
      exact keeps_record _ _ _ _ (h.madeBy ht hc hbefore).dated
    | admitted hk => exact h.admit (h.madeBy ht hc hbefore) hk rfl rfl hentered
    | attached p user response =>
      refine h.quiet (by simp) hclock ?_ hentered
      rw [verifier_finish]
      exact .refl _ _
    | _ => exact h.quiet (by simp) hclock (.refl _ _) hentered

theorem guarded_of_run (h0 : s₀.Initial) (hr : Exec Exec.anyStep (step X svc) s₀ tr s) :
    Guarded s₀.shared.verifier tr s := by
  have htracks : Tracks X svc [] s₀ := tracks_of_run h0.calls .nil
  refine (hr.invariant (fun tr s => Tracks X svc tr s ∧ Guarded s₀.shared.verifier tr s)
    ⟨htracks, h0.enabled, rfl, ?_, ?_, List.Pairwise.nil⟩ fun _ _ _ _ _ h _ hs =>
      ⟨h.1.step (steps_of_step hs), h.2.step h.1 (steps_of_step hs)⟩).2
  · simp [h0.calls]
  · simp

/-! ### The way to the inner service -/

theorem enter_ne {clock₁ clock₂ : SystemTime} (h : enter X svc w req clock₁ clock₂ = (phase, w'))
    (p : Pending) (user : AuthenticatedUser) : phase ≠ .committing p user ∧ phase ≠ .invoking p user := by
  unfold enter at h
  split at h <;> obtain ⟨rfl, -⟩ := Prod.mk.inj h <;> exact ⟨nofun, nofun⟩

/-- How a call comes to be where it commits, or where it invokes the inner service. -/
theorem Steps.on_way {p : Pending} {user : AuthenticatedUser} {c : TowerCall N B C E}
    (h : Steps X svc s a s' e) (hc : s'.calls[i]? = some c)
    (hphase : c.phase = .committing p user ∨ c.phase = .invoking p user) :
    s.calls[i]? = some c ∨
    (∃ c₀, s.calls[i]? = some c₀ ∧ c₀.phase = .validating p ∧
      svc.tokenValidator p.accessToken (p.jwk.thumbprint X) = .ok user ∧
      c = { c₀ with phase := .committing p user } ∧ e = .validated i p user s.clock) ∨
    ∃ c₀, s.calls[i]? = some c₀ ∧ c₀.phase = .committing p user ∧
      c = { c₀ with phase := .invoking p user } ∧ e = .committed i p s.clock := by
  cases h with
  | @call req clock₁ clock₂ phase w hle he =>
    rcases Nat.lt_or_ge i s.calls.length with hlt | hge
    · rw [List.getElem?_append_left hlt] at hc
      exact .inl hc
    · rw [List.getElem?_append_right hge, List.getElem?_singleton, Option.ite_none_right_eq_some,
        Option.some.injEq] at hc
      obtain ⟨-, rfl⟩ := hc
      obtain ⟨hcommitting, hinvoking⟩ := enter_ne he p user
      exact absurd hphase (not_or.2 ⟨hcommitting, hinvoking⟩)
  | @resume j c₀ phase w _ hc₀ ha =>
    by_cases hij : j = i
    · subst hij
      rw [List.getElem?_set_self (List.getElem?_eq_some_iff.1 hc₀).1, Option.some.injEq] at hc
      subst hc
      generalize hbefore : c₀.phase = before at ha
      rcases hphase with hphase | hphase
      · obtain rfl : phase = .committing p user := hphase
        cases ha with
        | valid hu => exact .inr (.inl ⟨c₀, hc₀, hbefore, hu, rfl, rfl⟩)
      · obtain rfl : phase = .invoking p user := hphase
        cases ha with
        | admitted hk => exact .inr (.inr ⟨c₀, hc₀, hbefore, rfl, rfl⟩)
    · rw [List.getElem?_set_ne hij] at hc
      exact .inl hc
  | _ => exact .inl hc

/-- A call that invokes the inner service. -/
theorem Steps.of_invoked {p : Pending} (h : Steps X svc s a s' (.invoked i p req now)) :
    now = s.clock ∧ ∃ c user, s.calls[i]? = some c ∧ c.phase = .invoking p user ∧
      req = c.req.withUser user := by
  cases h with
  | @resume _ c phase w _ hc ha =>
    generalize hbefore : c.phase = before at ha
    cases ha with
    | invoked p user => exact ⟨rfl, c, user, hc, hbefore, rfl⟩

/-- The calls that are about to invoke the inner service have committed their admissions. -/
def Logged (tr : List (TowerAction N B × TowerEvent B)) (s : TowerSystem N B C E) : Prop :=
  ∀ i c p user, s.calls[i]? = some c → c.phase = .invoking p user →
    ∃ b t, t.nanos ≤ s.clock.nanos ∧ (b, .committed i p t) ∈ tr

theorem Logged.step (h : Logged tr s) (hs : Steps X svc s a s' e) : Logged (tr ++ [(a, e)]) s' := by
  intro i c p user hc hphase
  rcases hs.on_way hc (.inr hphase) with hc | ⟨_, -, -, -, rfl, -⟩ | ⟨_, -, -, -, rfl⟩
  · obtain ⟨b, t, hle, hmem⟩ := h i c p user hc hphase
    exact ⟨b, t, hle.trans hs.clock_le, List.mem_append_left _ hmem⟩
  · cases hphase
  · exact ⟨a, s.clock, hs.clock_le, List.mem_append_right _ (List.mem_singleton.2 rfl)⟩

/-- An invocation comes after its own commit. -/
def AfterCommit (pre : List (TowerAction N B × TowerEvent B)) (x : TowerAction N B × TowerEvent B) : Prop :=
  ∀ i p req now, x.2 = .invoked i p req now →
    ∃ b t, (b, .committed i p t) ∈ pre ∧ t.nanos ≤ now.nanos

theorem afterCommit_of_run (h0 : s₀.calls = []) (hr : Exec Exec.anyStep (TowerSystem.step X svc) s₀ tr s) :
    History.Justified AfterCommit tr := by
  refine (hr.invariant (fun tr s => Logged tr s ∧ History.Justified AfterCommit tr)
    ⟨?_, History.justified_nil _⟩ fun tr s a s' e h _ hs => ?_).2
  · intro i c p user hc
    simp [h0] at hc
  · have hsteps := steps_of_step hs
    refine ⟨h.1.step hsteps, h.2.snoc ?_⟩
    rintro i p req now rfl
    obtain ⟨rfl, c, user, hc, hphase, -⟩ := hsteps.of_invoked
    obtain ⟨b, t, hle, hmem⟩ := h.1 i c p user hc hphase
    exact ⟨b, t, hmem, hle⟩

/-- No call invokes the inner service twice. -/
theorem Tracks.invokes_once (h : Tracks X svc tr s) :
    tr.Pairwise fun x y => ∀ i p req now i' p' req' now', x.2 = .invoked i p req now →
      y.2 = .invoked i' p' req' now' → i ≠ i' := by
  rw [List.pairwise_iff_forall_sublist]
  rintro ⟨a, _⟩ ⟨b, _⟩ hsub i p req now _ p' req' now' rfl rfl rfl
  obtain ⟨c, -, hc, -, -⟩ := h.shows _ (hsub.subset List.mem_cons_self)
  have htwice := hsub.filterMap fun x => x.2.invocationOf i
  simp only [List.filterMap_cons, TowerEvent.invocationOf, if_true, List.filterMap_nil] at htwice
  have hne : invocationsOf i tr ≠ [] := List.ne_nil_of_mem (htwice.subset List.mem_cons_self)
  obtain ⟨_, user, -, honce⟩ := (h.follows i c hc).invoked hne
  have hlength : 2 ≤ (invocationsOf i tr).length := htwice.length_le
  rw [honce, List.length_singleton] at hlength
  omega

/-- What keeps the commits of one pair apart keeps its invocations apart, in one order or the other. -/
theorem apart_invocations {v : DPoPVerifier} (ht : Tracks X svc tr s)
    (hafter : History.Justified AfterCommit tr)
    (hapart : tr.Pairwise fun x y => ∀ i p now i' p' now',
      x.2 = .committed i p now → y.2 = .committed i' p' now' →
      p.admission.jkt = p'.admission.jkt → p.admission.jti = p'.admission.jti →
        v.expiresAt p.admission.now ≤ now'.secs) :
    tr.Pairwise fun x y => ∀ i p req now i' p' req' now',
      x.2 = .invoked i p req now → y.2 = .invoked i' p' req' now' →
      p.admission.jkt = p'.admission.jkt → p.admission.jti = p'.admission.jti →
        v.expiresAt p.admission.now ≤ now'.secs ∨ v.expiresAt p'.admission.now ≤ now.secs := by
  have hcommit : ∀ x ∈ tr, ∀ i p req now, x.2 = .invoked i p req now →
      ∃ b t, (b, .committed i p t) ∈ tr ∧ t.nanos ≤ now.nanos := by
    intro x hx i p req now he
    obtain ⟨pre, post, rfl⟩ := List.append_of_mem hx
    obtain ⟨b, t, hmem, hle⟩ := hafter pre x post rfl i p req now he
    exact ⟨b, t, List.mem_append_left _ hmem, hle⟩
  -- the two commits are different entries, so they come in one order or the other
  refine ht.invokes_once.imp_of_mem ?_
  intro x y hx hy hne i p req now i' p' req' now' he he' hjkt hjti
  obtain ⟨b, t, hmem, hle⟩ := hcommit x hx i p req now he
  obtain ⟨b', t', hmem', hle'⟩ := hcommit y hy i' p' req' now' he'
  have hentries : (b, TowerEvent.committed (B := B) i p t) ≠ (b', .committed i' p' t') := by
    intro heq
    cases heq
    exact hne i p req now i p req' now' he he' rfl
  have hordered := hapart.imp fun h => Relation.SymmGen.of_rel h
  rcases hordered.forall hmem hmem' hentries with h | h
  · exact .inl ((h i p t i' p' t' rfl rfl hjkt hjti).trans (SystemTime.secs_mono hle'))
  · exact .inr ((h i' p' t' i p t rfl rfl hjkt.symm hjti.symm).trans (SystemTime.secs_mono hle))

end TowerSystem

/-- In every run of any number of calls on any number of threads, over a cache that other users write and
    prune as they like: a request reaches the inner service only after its own admission was committed, and
    two admissions for one proof, or for two proofs that share key and `jti`, are both committed only if the
    second is committed when the first has expired, which is the age limit and the clock skew after the first
    was verified. So of two such requests that reach the inner service, one does so when the admission of the
    other has expired. -/
theorem replay_reaches_inner_after_expiry {s₀ s : TowerSystem N B C E}
    {tr : List (TowerAction N B × TowerEvent B)} (h0 : s₀.Initial)
    (hr : Exec Exec.anyStep (TowerSystem.step X svc) s₀ tr s) :
    (∀ pre a i p req now post, tr = pre ++ (a, .invoked i p req now) :: post → ∃ c user b t,
      s.calls[i]? = some c ∧ ChecksPassed X svc c.entered c.req c.clock₁ c.clock₂ p user ∧
      req = c.req.withUser user ∧
      (∃ proof, headerText req.headers "dpop" = some proof ∧
        IsPairOf X proof p.admission.jkt p.admission.jti) ∧
      p.admission.now = c.clock₂.secs ∧ p.admission.now ≤ t.secs ∧
      (b, .committed i p t) ∈ pre ∧ t.secs ≤ now.secs) ∧
    (tr.Pairwise fun x y => ∀ i p now i' p' now',
      x.2 = .committed i p now → y.2 = .committed i' p' now' →
      p.admission.jkt = p'.admission.jkt → p.admission.jti = p'.admission.jti →
        s₀.shared.verifier.expiresAt p.admission.now ≤ now'.secs) ∧
    tr.Pairwise fun x y => ∀ i p req now i' p' req' now',
      x.2 = .invoked i p req now → y.2 = .invoked i' p' req' now' →
      p.admission.jkt = p'.admission.jkt → p.admission.jti = p'.admission.jti →
        s₀.shared.verifier.expiresAt p.admission.now ≤ now'.secs ∨
        s₀.shared.verifier.expiresAt p'.admission.now ≤ now.secs := by
  have hguarded := TowerSystem.guarded_of_run h0 hr
  have htracks := TowerSystem.tracks_of_run h0.calls hr
  have hafter := TowerSystem.afterCommit_of_run h0.calls hr
  have hapart : tr.Pairwise fun x y => ∀ i p now i' p' now',
      x.2 = .committed i p now → y.2 = .committed i' p' now' →
      p.admission.jkt = p'.admission.jkt → p.admission.jti = p'.admission.jti →
        s₀.shared.verifier.expiresAt p.admission.now ≤ now'.secs := by
    refine hguarded.apart.imp_of_mem ?_
    intro x y hx _ happart i p now i' p' now' he he' hjkt hjti
    rw [← (hguarded.recorded x hx i p now he).made.expiry]
    exact happart i p now i' p' now' he he' hjkt hjti
  refine ⟨fun pre a i p req now post htr => ?_, hapart, ?_⟩
  · obtain ⟨c, user, hc, hchecks, rfl⟩ := htracks.shows (a, .invoked i p req now) (by simp [htr])
    obtain ⟨b, t, hcommitted, hle⟩ := hafter pre _ post htr i p _ now rfl
    have hmade := (hguarded.recorded _ (by rw [htr]; exact List.mem_append_left _ hcommitted) i p t rfl).made
    obtain ⟨hpair, hnow, -⟩ := hchecks.admission
    exact ⟨c, user, b, t, hc, hchecks, rfl, hpair, hnow, hmade.dated, hcommitted, SystemTime.secs_mono hle⟩
  · exact TowerSystem.apart_invocations htracks hafter hapart

/-- The sample proof, dated ahead of the clock, brings a second request to the inner service in the very
    second in which its first admission expires. -/
theorem replay_reaches_inner_after_expiry_sample : ∃ auth proof tr s,
    Exec Exec.anyStep (TowerSystem.step sampleCrates TowerSample.service) TowerSample.start tr s ∧
      tr.map Prod.snd = .silent :: (TowerSample.wayAt auth proof 0 1562262556).map Prod.snd ++
        .silent :: (TowerSample.wayAt auth proof 1 1562262916).map Prod.snd ∧
      TowerSample.start.shared.verifier.expiresAt 1562262556 ≤ 1562262916 := by
  obtain ⟨auth, proof, hauth, hproof⟩ := TowerSample.exists_headers
  have hsettings : sampleRecorded.2 =
      { DPoPVerifier.new (fun _ => 0) with replayCache := sampleRecorded.2.replayCache } :=
    DPoPVerifier.record_eq_with_cache _ _ _ _ _
  have hchecks := TowerSample.checksPassed (w := (TowerSample.served auth proof).shared) hauth hproof
    (congrArg DPoPVerifier.maxClockSkew hsettings) (congrArg DPoPVerifier.maxProofAge hsettings)
    (show 1562262556 ≤ 1562262916 by omega) (le_refl _)
  have hcommit : ((TowerSample.served auth proof).shared.verifier.commitReplayAdmission
      (TowerSample.pending 1562262916).admission).1 = .ok () := by rfl
  have hclock : (SystemTime.ofSecs 1562262556).nanos ≤ (SystemTime.ofSecs 1562262916).nanos := by decide
  have hcall : (TowerSample.served auth proof).step sampleCrates TowerSample.service
      (TowerSample.callAt auth proof 1562262916) =
        some (TowerSample.waiting auth proof 1562262916 (TowerSample.served auth proof).shared
          (TowerSample.served auth proof).calls, .silent) :=
    TowerSystem.step_call hchecks (le_refl _) hclock
  have hway := TowerSystem.run_wayToInner sampleCrates TowerSample.service
    (s := TowerSample.waiting auth proof 1562262916 (TowerSample.served auth proof).shared
      (TowerSample.served auth proof).calls) (i := 1) rfl rfl rfl (Prod.ext hcommit rfl)
  have hr := ((TowerSample.exec_served hauth hproof).snoc trivial hcall).of_run hway
  obtain ⟨-, hapart, -⟩ := replay_reaches_inner_after_expiry TowerSample.initial_start hr
  have hexpired := List.pairwise_iff_getElem.1 hapart 2 6 (by simp [TowerSample.wayAt, TowerSystem.wayToInner])
    (by simp [TowerSample.wayAt, TowerSystem.wayToInner]) (by decide) 0 _ _ 1 _ _ rfl rfl rfl rfl
  have hsecs : (SystemTime.ofSecs 1562262916).secs = 1562262916 := by decide
  exact ⟨auth, proof, _, _, hr, rfl, hexpired.trans_eq hsecs⟩

end Skyauth
