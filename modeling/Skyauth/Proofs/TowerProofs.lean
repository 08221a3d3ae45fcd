import Skyauth.Tower

/-!
# Proofs: what the Tower middleware lets through

A request reaches the inner service exactly when it passes every check of the call and its replay
admission is committed. A call that fails a check before the commit does not write the replay cache.
-/

namespace Skyauth

variable {N B C E V : Type} {X : Crates} {svc : OAuthAuthService N B C E V}
  {env : Interference N} {w w' : SharedState N} {req : Request B} {clock₁ clock₂ : SystemTime}
  {p : Pending} {user : AuthenticatedUser}

/-! ## The checks of a call -/

/-- The text of an `Authorization` header with this token: the scheme `DPoP` in any case, a blank, and the
    token, which may stand between whitespace. -/
def IsCredentials (authHeader token : String) : Prop :=
  ∃ scheme cred, authHeader = scheme ++ " " ++ cred ∧ ' ' ∉ scheme.toList ∧
    Text.eqIgnoreAsciiCase scheme "DPoP" = true ∧ Text.trim cred = token

theorem dpopCredentials_eq_some {authHeader token : String} :
    dpopCredentials authHeader = some token ↔ IsCredentials authHeader token := by
  constructor
  · intro h
    unfold dpopCredentials at h
    split at h
    · rename_i scheme cred hsplit
      split at h
      · rename_i hscheme
        obtain ⟨htext, hblank⟩ := Text.splitOnce_eq_some hsplit
        exact ⟨scheme, cred, htext, hblank, hscheme, Option.some.inj h⟩
      · cases h
    · cases h
  · rintro ⟨scheme, cred, rfl, hblank, hscheme, rfl⟩
    have hsplit : Text.splitOnce ' ' (scheme ++ " " ++ cred) = some (scheme, cred) :=
      Text.splitOnce_append hblank cred
    simp only [dpopCredentials, hsplit, hscheme, if_true]

/-- The checks of a call before it commits its replay admission: the scheme of the credentials, the
    proof for the method and the target URI of the request and for its token, the nonce of the proof,
    and the access token. -/
structure ChecksPassed (X : Crates) (svc : OAuthAuthService N B C E V) (w : SharedState N)
    (req : Request B) (clock₁ clock₂ : SystemTime) (p : Pending) (user : AuthenticatedUser) : Prop where
  scheme : ∃ authHeader, headerText req.headers "authorization" = some authHeader ∧
    IsCredentials authHeader p.accessToken
  proof : ∃ proof htu, headerText req.headers "dpop" = some proof ∧
    svc.requestHtu req.uri = some htu ∧
    w.verifier.verifyProofDeferred X proof
      { htm := req.method
        htu := htu
        nonce := none
        ath := if svc.requireAth then some (computeAccessTokenHash X p.accessToken) else none }
      none clock₁ clock₂ = .ok (p.claims, p.jwk, p.admission)
  nonce : ∀ source, svc.nonceSource = some source →
    ∃ n, p.claims.nonce = some n ∧ (source.verifyNonce w.nonces n).1 = true
  token : svc.tokenValidator p.accessToken (p.jwk.thumbprint X) = .ok user

/-- The shared state after the nonce of a proof was checked. -/
def afterNonceCheck (svc : OAuthAuthService N B C E V) (w : SharedState N) (p : Pending) :
    SharedState N :=
  match svc.nonceSource, p.claims.nonce with
  | some source, some n => { w with nonces := (source.verifyNonce w.nonces n).2 }
  | _, _ => w

/-- The commit of a call that passed its checks. -/
def committed (svc : OAuthAuthService N B C E V) (env : Interference N) (w : SharedState N)
    (p : Pending) : Except DPoPError Unit × DPoPVerifier :=
  (env.beforeCommit (afterNonceCheck svc w p)).verifier.commitReplayAdmission p.admission

/-- The shared state after the commit of a call. -/
def afterCommit (svc : OAuthAuthService N B C E V) (env : Interference N) (w : SharedState N)
    (p : Pending) : SharedState N :=
  { env.beforeCommit (afterNonceCheck svc w p) with verifier := (committed svc env w p).2 }

/-- The service has a nonce source that fails to issue a nonce in this state. -/
def NonceIssueFails (svc : OAuthAuthService N B C E V) (n : N) : Prop :=
  ∃ source err, svc.nonceSource = some source ∧ (source.generateNonce n).1 = .error err

/-- A relation between verifiers that holds across every move of the other tasks, and so across any
    number of them. With equality, the other tasks leave the verifier alone. -/
structure Interference.Respects (env : Interference N) (R : DPoPVerifier → DPoPVerifier → Prop) :
    Prop where
  refl : ∀ v, R v v
  trans : ∀ {a b c}, R a b → R b c → R a c
  challenge : ∀ w, R w.verifier (env.beforeChallenge w).verifier
  commit : ∀ w, R w.verifier (env.beforeCommit w).verifier
  attach : ∀ w, R w.verifier (env.beforeAttach w).verifier

/-- The response is one that the middleware makes itself. -/
def IsRejection [Inhabited C] (r : Response C) : Prop :=
  (∃ errorCode description nonce, r = unauthorizedResponse errorCode description nonce) ∨
    r = serviceUnavailableResponse

theorem afterNonceCheck_verifier : (afterNonceCheck svc w p).verifier = w.verifier := by
  unfold afterNonceCheck
  split <;> rfl

variable [Inhabited C]

/-! ## Rejections -/

theorem isRejection_unauthorized (errorCode : String) (description nonce : Option String) :
    IsRejection (unauthorizedResponse errorCode description nonce : Response C) :=
  Or.inl ⟨errorCode, description, nonce, rfl⟩

theorem isRejection_unavailable : IsRejection (serviceUnavailableResponse : Response C) := Or.inr rfl

theorem isRejection_commitRejection (e : DPoPError) : IsRejection (commitRejection e : Response C) := by
  unfold commitRejection
  split
  · exact isRejection_unavailable
  · exact isRejection_unauthorized _ _ _

/-- A challenge is a rejection and leaves the verifier to the other tasks. -/
theorem challenge_spec (svc : OAuthAuthService N B C E V) (w : SharedState N) (errorCode : String)
    (description : Option String) {R : DPoPVerifier → DPoPVerifier → Prop} (hR : env.Respects R) :
    IsRejection (svc.challenge env w errorCode description).1 ∧
      R w.verifier (svc.challenge env w errorCode description).2.verifier := by
  unfold OAuthAuthService.challenge
  cases svc.nonceSource with
  | none => exact ⟨isRejection_unauthorized _ _ _, hR.refl _⟩
  | some source =>
    have hmove := hR.challenge w
    simp only []
    split
    · exact ⟨isRejection_unauthorized _ _ _, hmove⟩
    · exact ⟨isRejection_unavailable, hmove⟩
    · exact ⟨isRejection_unauthorized _ _ _, hmove⟩

/-- What the part of a call before its first await can do: reject, leaving the verifier to the other
    tasks, or let the request pass. -/
inductive AuthOutcome (R : DPoPVerifier → DPoPVerifier → Prop) (w : SharedState N)
    (pass : Pending → SharedState N → Prop) : Except (Response C) Pending × SharedState N → Prop where
  | rejected {r : Response C} {w' : SharedState N} (hr : IsRejection r)
      (hv : R w.verifier w'.verifier) : AuthOutcome R w pass (.error r, w')
  | passed {p : Pending} {w' : SharedState N} (h : pass p w') : AuthOutcome R w pass (.ok p, w')

theorem AuthOutcome.imp {R : DPoPVerifier → DPoPVerifier → Prop}
    {pass pass' : Pending → SharedState N → Prop} {x : Except (Response C) Pending × SharedState N}
    (h : AuthOutcome R w pass x) (himp : ∀ p w', pass p w' → pass' p w') : AuthOutcome R w pass' x := by
  cases h with
  | rejected hr hv => exact .rejected hr hv
  | passed h => exact .passed (himp _ _ h)

theorem authOutcome_reject {R : DPoPVerifier → DPoPVerifier → Prop} (hR : env.Respects R)
    {pass : Pending → SharedState N → Prop} {r : Response C} (hr : IsRejection r) :
    AuthOutcome R w pass (.error r, w) :=
  .rejected hr (hR.refl _)

theorem authOutcome_challenge {R : DPoPVerifier → DPoPVerifier → Prop} (hR : env.Respects R)
    {pass : Pending → SharedState N → Prop} (errorCode : String) (description : Option String)
    (hw : w'.verifier = w.verifier) :
    AuthOutcome R w pass (.error (svc.challenge env w' errorCode description).1,
      (svc.challenge env w' errorCode description).2) := by
  obtain ⟨h1, h2⟩ := challenge_spec svc w' errorCode description hR
  exact .rejected h1 (hw ▸ h2)

/-! ## Authentication -/

/-- Asking for the proof header in two spellings is asking once: names have no case. -/
theorem get_dpop (headers : HeaderMap) :
    ((headers.get "DPoP").orElse fun _ => headers.get "dpop") = headers.get "dpop" := by
  have hupper : Text.toAsciiLowercase "DPoP" = "dpop" := by decide
  have hlower : Text.toAsciiLowercase "dpop" = "dpop" := by decide
  unfold HeaderMap.get
  rw [hupper, hlower]
  cases headers.lookup "dpop" <;> rfl

/-- The nonce check passes a proof unchanged when its nonce verifies. -/
theorem checkServerNonce_outcome {R : DPoPVerifier → DPoPVerifier → Prop} (hR : env.Respects R)
    (svc : OAuthAuthService N B C E V) (w : SharedState N) (p : Pending) :
    AuthOutcome R w (fun p' w' => p' = p ∧ w' = afterNonceCheck svc w p ∧
        ∀ source, svc.nonceSource = some source →
          ∃ n, p.claims.nonce = some n ∧ (source.verifyNonce w.nonces n).1 = true)
      (svc.checkServerNonce env w p) := by
  unfold OAuthAuthService.checkServerNonce
  cases hs : svc.nonceSource with
  | none => exact .passed ⟨rfl, by simp [afterNonceCheck, hs], by simp⟩
  | some source =>
    cases hn : p.claims.nonce with
    | none => exact authOutcome_challenge hR _ _ rfl
    | some n =>
      simp only []
      split
      · rename_i hvalid
        refine .passed ⟨rfl, by simp [afterNonceCheck, hs, hn], ?_⟩
        rintro source' ⟨⟩
        exact ⟨n, rfl, hvalid⟩
      · exact authOutcome_challenge hR _ _ rfl

/-- The checks on a proof pass a request whose proof verifies and whose nonce does. -/
theorem checkProof_outcome {R : DPoPVerifier → DPoPVerifier → Prop} (hR : env.Respects R)
    (X : Crates) (svc : OAuthAuthService N B C E V) (w : SharedState N)
    (accessToken proof htm htu : String) (clock₁ clock₂ : SystemTime) :
    AuthOutcome R w (fun p w' => p.accessToken = accessToken ∧ w' = afterNonceCheck svc w p ∧
        w.verifier.verifyProofDeferred X proof (svc.expectedProof X accessToken htm htu) none clock₁
          clock₂ = .ok (p.claims, p.jwk, p.admission) ∧
        ∀ source, svc.nonceSource = some source →
          ∃ n, p.claims.nonce = some n ∧ (source.verifyNonce w.nonces n).1 = true)
      (svc.checkProof X env w accessToken proof htm htu clock₁ clock₂) := by
  unfold OAuthAuthService.checkProof
  split
  · rename_i claims jwk admission hv
    refine AuthOutcome.imp (checkServerNonce_outcome hR svc w ⟨accessToken, claims, jwk, admission⟩) ?_
    rintro p w' ⟨rfl, rfl, hn⟩
    exact ⟨rfl, rfl, hv, hn⟩
  · exact authOutcome_reject hR (isRejection_unauthorized _ _ _)
  · exact authOutcome_reject hR isRejection_unavailable
  · exact authOutcome_challenge hR _ _ rfl

/-- A request passes `authenticate` only with DPoP credentials, a proof that verifies and a nonce
    that does. -/
theorem authenticate_outcome {R : DPoPVerifier → DPoPVerifier → Prop} (hR : env.Respects R)
    (svc : OAuthAuthService N B C E V) (w : SharedState N) (req : Request B) :
    AuthOutcome R w (fun p w' => w' = afterNonceCheck svc w p ∧
        ∀ user, svc.tokenValidator p.accessToken (p.jwk.thumbprint X) = .ok user →
          ChecksPassed X svc w req clock₁ clock₂ p user)
      (svc.authenticate X env w req clock₁ clock₂) := by
  unfold OAuthAuthService.authenticate
  simp only [get_dpop]
  split
  · exact authOutcome_reject hR (isRejection_unauthorized _ _ _)
  · rename_i auth hauth
    split
    · exact authOutcome_reject hR (isRejection_unauthorized _ _ _)
    · rename_i authHeader htext
      split
      · exact authOutcome_reject hR (isRejection_unauthorized _ _ _)
      · rename_i accessToken hcred
        split
        · split
          · exact authOutcome_reject hR (isRejection_unauthorized _ _ _)
          · exact authOutcome_challenge hR _ _ rfl
        · rename_i dpop hdpop
          split
          · exact authOutcome_reject hR (isRejection_unauthorized _ _ _)
          · rename_i proof hproof
            split
            · exact authOutcome_reject hR (isRejection_unauthorized _ _ _)
            · rename_i htu hhtu
              refine AuthOutcome.imp
                (checkProof_outcome hR X svc w accessToken proof req.method htu clock₁ clock₂) ?_
              rintro p w' ⟨rfl, rfl, hv, hn⟩
              refine ⟨rfl, fun user hu => ⟨⟨authHeader, ?_, dpopCredentials_eq_some.1 hcred⟩,
                ⟨proof, htu, ?_, hhtu, hv⟩, hn, hu⟩⟩
              · rw [headerText, hauth]
                exact htext
              · rw [headerText, hdpop]
                exact hproof

/-- A request with DPoP credentials, a proof that verifies and a nonce that does passes. -/
theorem authenticate_of_checks (env : Interference N)
    (h : ChecksPassed X svc w req clock₁ clock₂ p user) :
    svc.authenticate X env w req clock₁ clock₂ = (.ok p, afterNonceCheck svc w p) := by
  obtain ⟨⟨authHeader, hauth, hcred⟩, ⟨proof, htu, hdpop, hhtu, hv⟩, hn, -⟩ := h
  obtain ⟨auth, hauth, htext⟩ := Option.bind_eq_some_iff.1 hauth
  obtain ⟨dpop, hdpop, hproof⟩ := Option.bind_eq_some_iff.1 hdpop
  have hcred := dpopCredentials_eq_some.2 hcred
  have hv : w.verifier.verifyProofDeferred X proof (svc.expectedProof X p.accessToken req.method htu) none
      clock₁ clock₂ = .ok (p.claims, p.jwk, p.admission) := hv
  have hnonce : svc.checkServerNonce env w p = (.ok p, afterNonceCheck svc w p) := by
    unfold OAuthAuthService.checkServerNonce afterNonceCheck
    cases hs : svc.nonceSource with
    | none => rfl
    | some source =>
      obtain ⟨n, hclaim, hvalid⟩ := hn source hs
      simp only [hclaim, hvalid, if_true]
  simp only [OAuthAuthService.authenticate, get_dpop]
  simp only [hauth, htext, hcred, hdpop, hproof, hhtu, OAuthAuthService.checkProof, hv]
  exact hnonce

/-! ## Calls -/

/-- What a call can do: reject before the commit, reject at the commit, or invoke the inner service
    once and answer with what `finish` makes of its response. -/
inductive CallCases (X : Crates) (svc : OAuthAuthService N B C E V) (env : Interference N)
    (w : SharedState N) (req : Request B) (clock₁ clock₂ : SystemTime)
    (R : DPoPVerifier → DPoPVerifier → Prop) : CallOutcome N B C E → Prop where
  | rejected {r : Response C} {w' : SharedState N} (hr : IsRejection r)
      (hno : ∀ p user, ¬ ChecksPassed X svc w req clock₁ clock₂ p user)
      (hv : R w.verifier w'.verifier) : CallCases X svc env w req clock₁ clock₂ R ⟨.ok r, w', []⟩
  | refused {p : Pending} {user : AuthenticatedUser} {e : DPoPError} {w' : SharedState N}
      (h : ChecksPassed X svc w req clock₁ clock₂ p user) (hc : (committed svc env w p).1 = .error e) :
      CallCases X svc env w req clock₁ clock₂ R ⟨.ok (commitRejection e), w', []⟩
  | failed {p : Pending} {user : AuthenticatedUser} {e : E} {w' : SharedState N}
      (h : ChecksPassed X svc w req clock₁ clock₂ p user) (hc : (committed svc env w p).1 = .ok ())
      (hi : svc.inner (req.withUser user) = .error e) :
      CallCases X svc env w req clock₁ clock₂ R ⟨.error e, w', [req.withUser user]⟩
  | served {p : Pending} {user : AuthenticatedUser} {response : Response C}
      (h : ChecksPassed X svc w req clock₁ clock₂ p user) (hc : (committed svc env w p).1 = .ok ())
      (hi : svc.inner (req.withUser user) = .ok response) :
      CallCases X svc env w req clock₁ clock₂ R
        ⟨.ok (svc.finish env (afterCommit svc env w p) response).1,
          (svc.finish env (afterCommit svc env w p) response).2, [req.withUser user]⟩

theorem call_cases {R : DPoPVerifier → DPoPVerifier → Prop} (hR : env.Respects R)
    (X : Crates) (svc : OAuthAuthService N B C E V) (w : SharedState N) (req : Request B)
    (clock₁ clock₂ : SystemTime) :
    CallCases X svc env w req clock₁ clock₂ R (svc.call X env w req clock₁ clock₂) := by
  have hout : AuthOutcome R w (fun p w' => w' = afterNonceCheck svc w p ∧
        ∀ user, svc.tokenValidator p.accessToken (p.jwk.thumbprint X) = .ok user →
          ChecksPassed X svc w req clock₁ clock₂ p user)
      (svc.authenticate X env w req clock₁ clock₂) := authenticate_outcome hR svc w req
  have hback : ∀ p user, ChecksPassed X svc w req clock₁ clock₂ p user →
      svc.authenticate X env w req clock₁ clock₂ = (.ok p, afterNonceCheck svc w p) :=
    fun p user h => authenticate_of_checks env h
  unfold OAuthAuthService.call
  generalize svc.authenticate X env w req clock₁ clock₂ = auth at hout hback
  cases hout with
  | rejected hr hv =>
    refine .rejected hr ?_ hv
    intro p user h
    have := hback p user h
    simp at this
  | @passed p w' h =>
    obtain ⟨rfl, hchecks⟩ := h
    simp only []
    cases hu : svc.tokenValidator p.accessToken (p.jwk.thumbprint X) with
    | error e =>
      refine .rejected (isRejection_unauthorized _ _ _) ?_ ?_
      · intro p' user h
        obtain rfl : p = p' := by simpa using (congrArg Prod.fst (hback p' user h))
        rw [h.token] at hu
        cases hu
      · have := hR.commit (afterNonceCheck svc w p)
        rwa [afterNonceCheck_verifier] at this
    | ok user =>
      have h := hchecks user hu
      rcases hc : (env.beforeCommit (afterNonceCheck svc w p)).verifier.commitReplayAdmission
        p.admission with ⟨e | ⟨⟩, v⟩
      · exact .refused h (congrArg Prod.fst hc)
      · simp only []
        cases hi : svc.inner (req.withUser user) with
        | error e => exact .failed h (congrArg Prod.fst hc) hi
        | ok response =>
          have hw : afterCommit svc env w p =
              { env.beforeCommit (afterNonceCheck svc w p) with verifier := v } := by
            rw [afterCommit, committed, hc]
          rw [← hw]
          exact .served h (congrArg Prod.fst hc) hi

/-- A call that passes its checks and its commit is answered with what the inner service returns. -/
theorem call_of_checks {response : Response C} (h : ChecksPassed X svc w req clock₁ clock₂ p user)
    (hc : (committed svc env w p).1 = .ok ()) (hi : svc.inner (req.withUser user) = .ok response) :
    svc.call X env w req clock₁ clock₂ =
      { response := .ok (svc.finish env (afterCommit svc env w p) response).1
        shared := (svc.finish env (afterCommit svc env w p) response).2
        invocations := [req.withUser user] } := by
  have hcommit : (env.beforeCommit (afterNonceCheck svc w p)).verifier.commitReplayAdmission
      p.admission = (.ok (), (committed svc env w p).2) := Prod.ext hc rfl
  simp only [OAuthAuthService.call, authenticate_of_checks env h, h.token, hcommit, hi]
  rfl

/-- A nonce as a proof presents it to a source: without one, nothing is asked of the source. -/
def presentNonce (source : NonceSource N) (s : N) : Option String → Bool × N
  | none => (false, s)
  | some nonce => source.verifyNonce s nonce

/-- A call with a valid proof whose nonce is missing or refused is answered with a challenge that
    carries a fresh nonce. -/
theorem call_of_refused_nonce {source : NonceSource N} {authHeader accessToken proof htu nonce : String}
    {claims : DPoPProofClaims} {jwk : JwkEc} {admission : ReplayAdmission} {s s' : N}
    (hauth : headerText req.headers "authorization" = some authHeader)
    (hcred : dpopCredentials authHeader = some accessToken)
    (hdpop : headerText req.headers "dpop" = some proof) (hhtu : svc.requestHtu req.uri = some htu)
    (hv : w.verifier.verifyProofDeferred X proof (svc.expectedProof X accessToken req.method htu) none
      clock₁ clock₂ = .ok (claims, jwk, admission))
    (hsource : svc.nonceSource = some source)
    (hpresent : presentNonce source w.nonces claims.nonce = (false, s))
    (hissue : source.generateNonce (env.beforeChallenge { w with nonces := s }).nonces =
      (.ok nonce, s')) :
    svc.call X env w req clock₁ clock₂ =
      { response := .ok (unauthorizedResponse "use_dpop_nonce"
          (some "Resource server requires fresh DPoP nonce") (some nonce))
        shared := { env.beforeChallenge { w with nonces := s } with nonces := s' }
        invocations := [] } := by
  obtain ⟨auth, hauth, htext⟩ := Option.bind_eq_some_iff.1 hauth
  obtain ⟨dpop, hdpop, hproof⟩ := Option.bind_eq_some_iff.1 hdpop
  have hcheck : svc.checkServerNonce env w ⟨accessToken, claims, jwk, admission⟩ =
      (.error (unauthorizedResponse "use_dpop_nonce"
        (some "Resource server requires fresh DPoP nonce") (some nonce)),
        { env.beforeChallenge { w with nonces := s } with nonces := s' }) := by
    cases hn : claims.nonce with
    | none =>
      rw [hn] at hpresent
      obtain rfl : w.nonces = s := congrArg Prod.snd hpresent
      simp only [OAuthAuthService.checkServerNonce, hsource, hn, OAuthAuthService.challenge, hissue]
    | some n =>
      rw [hn] at hpresent
      have hpresent : source.verifyNonce w.nonces n = (false, s) := hpresent
      simp only [OAuthAuthService.checkServerNonce, hsource, hn, hpresent, Bool.false_eq_true,
        if_false, OAuthAuthService.challenge, hissue]
  simp only [OAuthAuthService.call, OAuthAuthService.authenticate, get_dpop]
  simp only [hauth, htext, hcred, hdpop, hproof, hhtu, OAuthAuthService.checkProof, hv, hcheck]

/-- The relation that relates all verifiers is respected by every interference. -/
theorem respects_true (env : Interference N) : env.Respects fun _ _ => True :=
  ⟨fun _ => trivial, fun _ _ => trivial, fun _ => trivial, fun _ => trivial, fun _ => trivial⟩

/-- The checks of a call determine the pending request and the user. -/
theorem ChecksPassed.unique {p' : Pending} {user' : AuthenticatedUser}
    (h : ChecksPassed X svc w req clock₁ clock₂ p user)
    (h' : ChecksPassed X svc w req clock₁ clock₂ p' user') : p = p' ∧ user = user' := by
  have env : Interference N := ⟨id, id, id⟩
  have hp : p = p' := by
    have := (authenticate_of_checks env h).symm.trans (authenticate_of_checks env h')
    simpa using congrArg Prod.fst this
  subst hp
  have := h.token.symm.trans h'.token
  exact ⟨rfl, by simpa using this⟩

namespace CallCases

variable {R : DPoPVerifier → DPoPVerifier → Prop} {o : CallOutcome N B C E}

theorem of_invoked (h : CallCases X svc env w req clock₁ clock₂ R o) (hne : o.invocations ≠ []) :
    ∃ p user, ChecksPassed X svc w req clock₁ clock₂ p user ∧ (committed svc env w p).1 = .ok () ∧
      o.invocations = [req.withUser user] := by
  cases h with
  | rejected => exact absurd rfl hne
  | refused => exact absurd rfl hne
  | @failed p user e w' h hc hi => exact ⟨p, user, h, hc, rfl⟩
  | @served p user response h hc hi => exact ⟨p, user, h, hc, rfl⟩

theorem of_committed (h : CallCases X svc env w req clock₁ clock₂ R o)
    (hp : ChecksPassed X svc w req clock₁ clock₂ p user) (hc : (committed svc env w p).1 = .ok ()) :
    o.invocations = [req.withUser user] := by
  cases h with
  | rejected _ hno => exact absurd hp (hno p user)
  | refused h hc' =>
    obtain ⟨rfl, -⟩ := hp.unique h
    rw [hc] at hc'
    cases hc'
  | failed h =>
    obtain ⟨-, rfl⟩ := hp.unique h
    rfl
  | served h =>
    obtain ⟨-, rfl⟩ := hp.unique h
    rfl

theorem of_no_checks (h : CallCases X svc env w req clock₁ clock₂ R o)
    (hno : ∀ p user, ¬ ChecksPassed X svc w req clock₁ clock₂ p user) :
    R w.verifier o.shared.verifier := by
  cases h with
  | rejected _ _ hv => exact hv
  | refused h => exact absurd h (hno _ _)
  | failed h => exact absurd h (hno _ _)
  | served h => exact absurd h (hno _ _)

end CallCases

/-- Complete mediation: a call invokes the inner service only after DPoP credentials, a proof that
    verified for the request, a verified nonce when there is a nonce source, a validated access token
    and a committed replay admission, and then once, with that user in both extensions and otherwise
    with the request as it came; and a call that fails a check before the commit leaves the replay cache
    to the other tasks. -/
theorem call_mediates (X : Crates) (svc : OAuthAuthService N B C E V) (env : Interference N)
    (w : SharedState N) (req : Request B) (clock₁ clock₂ : SystemTime) :
    let o := svc.call X env w req clock₁ clock₂
    (o.invocations ≠ [] → ∃ p user, ChecksPassed X svc w req clock₁ clock₂ p user ∧
      (committed svc env w p).1 = .ok () ∧ o.invocations = [{ req with extensions :=
        { session := some { user := user, session := none }, user := some user } }]) ∧
    (∀ p user, ChecksPassed X svc w req clock₁ clock₂ p user → (committed svc env w p).1 = .ok () →
      o.invocations = [{ req with extensions :=
        { session := some { user := user, session := none }, user := some user } }]) ∧
    ((∀ p user, ¬ ChecksPassed X svc w req clock₁ clock₂ p user) →
      ∀ R, env.Respects R → R w.verifier o.shared.verifier) := by
  have hcases := call_cases (respects_true env) X svc w req clock₁ clock₂
  refine ⟨?_, ?_, ?_⟩
  · exact hcases.of_invoked
  · exact fun p user hp hc => hcases.of_committed hp hc
  · exact fun hno R hR => (call_cases hR X svc w req clock₁ clock₂).of_no_checks hno

end Skyauth
