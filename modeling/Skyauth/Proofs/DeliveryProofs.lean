import Skyauth.Proofs.AnswerProofs

/-!
# Proofs: what a request does to the service behind the middleware

A call of `send_dpop_request` may send its request twice. The service behind the middleware handles at most
one of the two, on any network and whatever other tasks do meanwhile, unless it answers with a nonce challenge
of its own; and a success that the client sees is the answer of the service to the last request that it
handled.
-/

namespace Skyauth

section Delivery

variable {N B E V W : Type} {X : Crates} {svc : OAuthAuthService N B WireBody E V}

/-- A network behind which requests are calls of the service, under any interference. `log` is what the inner
    service has got from this client. A response may get lost, and so may a request. -/
structure Reaches (X : Crates) (svc : OAuthAuthService N B WireBody E V) (net : Network W)
    (log : W → List (Request B)) : Prop where
  pin : ∀ w url, log (net.buildPinnedClient w url).2 = log w
  send : ∀ w request, (∃ e, (net.send w request).1 = .error e ∧ log (net.send w request).2 = log w) ∨
    ∃ env shared req clock₁ clock₂,
      log (net.send w request).2 = log w ++ (svc.call X env shared req clock₁ clock₂).invocations ∧
      ∀ resp, (net.send w request).1 = .ok resp →
        (svc.call X env shared req clock₁ clock₂).response = .ok resp

/-- The response to a request that the inner service has handled in this way. -/
structure Answers (svc : OAuthAuthService N B WireBody E V) (handled : List (Request B))
    (resp : Response WireBody) : Prop where
  challenge : mayChallenge resp.status = true →
    handled = [] ∨ ∃ req, handled = [req] ∧ svc.inner req = .ok resp
  success : isSuccess resp.status = true → ∃ req response, handled = [req] ∧
    svc.inner req = .ok response ∧ response.status = resp.status ∧ response.body = resp.body

/-! ## One request -/

theorem not_success_of_rejection {r : Response WireBody} (h : IsRejection r) : isSuccess r.status = false := by
  rcases h with ⟨errorCode, description, nonce, rfl⟩ | rfl
  · rfl
  · rfl

/-- A response of the inner service that may be a challenge is passed on as it is. -/
theorem finish_of_mayChallenge {env : Interference N} {w : SharedState N} {response : Response WireBody}
    (h : mayChallenge (svc.finish env w response).1.status = true) :
    (svc.finish env w response).1 = response := by
  by_cases hok : isSuccess response.status = true
  · obtain ⟨hfails, hkeeps⟩ := finish_cases svc env w response
    by_cases hissue : NonceIssueFails svc (env.beforeAttach w).nonces
    · rw [hfails ⟨hok, hissue⟩] at h
      cases h
    · rw [(hkeeps fun hboth => hissue hboth.2).1, mayChallenge_of_success hok] at h
      cases h
  · rw [OAuthAuthService.finish, if_neg hok]

/-- A success comes with the status and the body of the inner service. -/
theorem finish_of_isSuccess {env : Interference N} {w : SharedState N} {response : Response WireBody}
    (h : isSuccess (svc.finish env w response).1.status = true) :
    response.status = (svc.finish env w response).1.status ∧
      response.body = (svc.finish env w response).1.body := by
  obtain ⟨hfails, hkeeps⟩ := finish_cases svc env w response
  by_cases hboth : isSuccess response.status = true ∧ NonceIssueFails svc (env.beforeAttach w).nonces
  · rw [hfails hboth] at h
    cases h
  · obtain ⟨hstatus, hbody⟩ := hkeeps hboth
    exact ⟨hstatus.symm, hbody.symm⟩

theorem length_invocations (env : Interference N) (w : SharedState N) (req : Request B)
    (clock₁ clock₂ : SystemTime) : (svc.call X env w req clock₁ clock₂).invocations.length ≤ 1 := by
  have hcases := call_cases (respects_true env) X svc w req clock₁ clock₂
  generalize svc.call X env w req clock₁ clock₂ = o at hcases
  cases hcases <;> simp

theorem answers_call (env : Interference N) (w : SharedState N) (req : Request B)
    (clock₁ clock₂ : SystemTime) {resp : Response WireBody}
    (h : (svc.call X env w req clock₁ clock₂).response = .ok resp) :
    Answers svc (svc.call X env w req clock₁ clock₂).invocations resp := by
  have hcases := call_cases (respects_true env) X svc w req clock₁ clock₂
  generalize svc.call X env w req clock₁ clock₂ = o at hcases h
  cases hcases with
  | rejected hr =>
    cases h
    exact ⟨fun _ => Or.inl rfl, fun hok => absurd hok (by rw [not_success_of_rejection hr]; decide)⟩
  | @refused p user err =>
    cases h
    have hr := not_success_of_rejection (isRejection_commitRejection err)
    exact ⟨fun _ => Or.inl rfl, fun hok => absurd hok (by rw [hr]; decide)⟩
  | failed => cases h
  | @served p user response _ _ hi =>
    cases h
    refine ⟨fun hmay => Or.inr ⟨_, rfl, ?_⟩, fun hok => ⟨_, response, rfl, hi, finish_of_isSuccess hok⟩⟩
    rw [finish_of_mayChallenge hmay]
    exact hi

/-! ## A call of the client -/

variable {net : Network W} {log : W → List (Request B)}

theorem Reaches.transmit (hnet : Reaches X svc net log) (c : Client W) (origin : String)
    (request : Except String ClientRequest) :
    ∃ handled, log (Client.transmit net c origin request).2.world = log c.world ++ handled ∧
      handled.length ≤ 1 ∧
      ∀ resp, (Client.transmit net c origin request).1 = .ok resp → Answers svc handled resp := by
  unfold Client.transmit
  cases request with
  | error e => exact ⟨[], (List.append_nil _).symm, by simp, fun resp h => by cases h⟩
  | ok request =>
    have hsend := hnet.send c.world request
    dsimp only
    rcases hresult : net.send c.world request with ⟨e | resp, world⟩
    · rw [hresult] at hsend
      rcases hsend with ⟨_, -, hlog⟩ | ⟨env, shared, req, clock₁, clock₂, hlog, -⟩
      · exact ⟨[], by simpa using hlog, by simp, fun resp h => by cases h⟩
      · exact ⟨_, hlog, length_invocations env shared req clock₁ clock₂, fun resp h => by cases h⟩
    · rw [hresult] at hsend
      rcases hsend with ⟨_, herror, -⟩ | ⟨env, shared, req, clock₁, clock₂, hlog, hok⟩
      · cases herror
      · refine ⟨_, hlog, length_invocations env shared req clock₁ clock₂, fun resp' h => ?_⟩
        cases h
        exact answers_call env shared req clock₁ clock₂ (hok resp rfl)

/-- A rebuilt response is no success. -/
theorem classify_eq_some {resp rebuilt : Response WireBody} (h : classify X resp = .ok (some rebuilt)) :
    rebuilt.status = resp.status := by
  unfold classify at h
  split at h
  · cases h
  · split at h
    · cases h
    · split at h
      · cases h
      · cases h
        rfl

theorem acceptRetry_success {resp resp' : Response WireBody} (h : Client.acceptRetry X resp = .ok resp')
    (hok : isSuccess resp'.status = true) : resp' = resp := by
  unfold Client.acceptRetry at h
  split at h
  · rename_i hmay
    split at h
    · cases h
    · cases h
    · rename_i rebuilt hclassify
      cases h
      rw [classify_eq_some hclassify] at hok
      rw [mayChallenge_of_success hok] at hmay
      cases hmay
  · split at h
    · split at h
      · cases h
      · cases h
        rfl
    · cases h
      rfl

/-- The handled request of a success. -/
def SucceededFor (svc : OAuthAuthService N B WireBody E V) (handled : List (Request B))
    (result : Except AtprotoOAuthError (Response WireBody)) : Prop :=
  ∀ resp, result = .ok resp → isSuccess resp.status = true → ∃ req response, handled.getLast? = some req ∧
    svc.inner req = .ok response ∧ response.status = resp.status ∧ response.body = resp.body

theorem Answers.succeededFor {handled : List (Request B)} {resp : Response WireBody}
    (h : Answers svc handled resp) (pre : List (Request B)) : SucceededFor svc (pre ++ handled) (.ok resp) := by
  intro resp' heq hok
  cases heq
  obtain ⟨req, response, rfl, hresponse⟩ := h.success hok
  exact ⟨req, response, by simp, hresponse⟩

theorem succeededFor_error (handled : List (Request B)) (e : AtprotoOAuthError) :
    SucceededFor svc handled (.error e) := fun resp h => by cases h

theorem Reaches.retry (hnet : Reaches X svc net log) (c : Client W) (r : DpopRequest) (parsedUrl : Url)
    (status : Nat) (draw : ProofDraw) (pre : List (Request B)) :
    ∃ handled, log (Client.retry X net c r parsedUrl status draw).2.world = log c.world ++ handled ∧
      handled.length ≤ 1 ∧
      SucceededFor svc (pre ++ handled) (Client.retry X net c r parsedUrl status draw).1 := by
  unfold Client.retry
  split
  · exact ⟨[], (List.append_nil _).symm, by simp, succeededFor_error _ _⟩
  · split
    · exact ⟨[], (List.append_nil _).symm, by simp, succeededFor_error _ _⟩
    · rename_i freshNonce _ proof _
      have hpin := hnet.pin c.world parsedUrl
      rcases hpinned : net.buildPinnedClient c.world parsedUrl with ⟨e | hostHeader, world⟩
      · rw [hpinned] at hpin
        exact ⟨[], by simpa using hpin, by simp, succeededFor_error _ _⟩
      · rw [hpinned] at hpin
        obtain ⟨handled, hlog, hlength, hanswers⟩ :=
          hnet.transmit { c with world := world } parsedUrl.origin (r.build hostHeader proof)
        rw [hpin] at hlog
        dsimp only
        rcases htransmit : Client.transmit net { c with world := world } parsedUrl.origin
          (r.build hostHeader proof) with ⟨e | resp, c'⟩
        · rw [htransmit] at hlog
          exact ⟨handled, hlog, hlength, succeededFor_error _ _⟩
        · rw [htransmit] at hlog hanswers
          refine ⟨handled, hlog, hlength, fun resp' haccept hok => ?_⟩
          obtain rfl := acceptRetry_success haccept hok
          exact (hanswers resp' rfl).succeededFor pre resp' rfl hok

/-- What the two attempts of a call come to at the inner service: one request is handled at most, unless it
    has answered the first one with a challenge. -/
def HandledOnce (X : Crates) (svc : OAuthAuthService N B WireBody E V) (handled : List (Request B)) : Prop :=
  handled.length ≤ 1 ∨ ∃ req req' response, handled = [req, req'] ∧ svc.inner req = .ok response ∧
    mayChallenge response.status = true ∧ classify X response = .ok none

theorem Reaches.acceptFirst (hnet : Reaches X svc net log) (c : Client W) (r : DpopRequest) (parsedUrl : Url)
    {resp : Response WireBody} (draw : ProofDraw) {first : List (Request B)} (hfirst : first.length ≤ 1)
    (hanswers : Answers svc first resp) :
    ∃ handled, log (Client.acceptFirst X net c r parsedUrl resp draw).2.world = log c.world ++ handled ∧
      HandledOnce X svc (first ++ handled) ∧
      SucceededFor svc (first ++ handled) (Client.acceptFirst X net c r parsedUrl resp draw).1 := by
  have hdone : HandledOnce X svc (first ++ []) := Or.inl (by simpa using hfirst)
  unfold Client.acceptFirst
  split
  · rename_i hmay
    split
    · exact ⟨[], (List.append_nil _).symm, hdone, succeededFor_error _ _⟩
    · rename_i rebuilt hclassify
      refine ⟨[], (List.append_nil _).symm, hdone, fun resp' heq hok => ?_⟩
      cases heq
      rw [classify_eq_some hclassify] at hok
      rw [mayChallenge_of_success hok] at hmay
      cases hmay
    · rename_i hclassify
      obtain ⟨handled, hlog, hlength, hsucceeded⟩ := hnet.retry c r parsedUrl resp.status draw first
      refine ⟨handled, hlog, ?_, hsucceeded⟩
      -- a challenge was made by the middleware, which handled nothing, or by the inner service itself
      rcases hanswers.challenge hmay with rfl | ⟨req, rfl, hinner⟩
      · exact Or.inl hlength
      · rcases Nat.le_one_iff_eq_zero_or_eq_one.1 hlength with hzero | hone
        · rw [List.eq_nil_of_length_eq_zero hzero]
          exact Or.inl (Nat.le_refl 1)
        · obtain ⟨req', rfl⟩ := List.length_eq_one_iff.1 hone
          exact Or.inr ⟨req, req', resp, rfl, hinner, hmay, hclassify⟩
  · split
    · exact ⟨[], (List.append_nil _).symm, hdone, succeededFor_error _ _⟩
    · refine ⟨[], (List.append_nil _).symm, hdone, ?_⟩
      rw [List.append_nil]
      exact hanswers.succeededFor []

end Delivery

/-- A retry duplicates nothing. Behind the middleware, on a network that may lose requests and responses and
    whatever other tasks do in between, the inner service handles at most one of the requests that a call of
    `send_dpop_request` sends; it handles two only if it has answered the first with a nonce challenge of its
    own. If the call returns a success, its status and body are those with which the inner service answered
    the last request that it handled. -/
theorem retry_handled_once {N B E V W : Type} {X : Crates} {svc : OAuthAuthService N B WireBody E V}
    {net : Network W} {log : W → List (Request B)} (hnet : Reaches X svc net log) (c : Client W)
    (r : DpopRequest) (first second : ProofDraw) :
    ∃ handled, log (Client.sendDpopRequest X net c r first second).2.world = log c.world ++ handled ∧
      HandledOnce X svc handled ∧
      SucceededFor svc handled (Client.sendDpopRequest X net c r first second).1 := by
  have hnone : HandledOnce X svc [] := Or.inl (by simp)
  unfold Client.sendDpopRequest
  split
  · exact ⟨[], (List.append_nil _).symm, hnone, succeededFor_error _ _⟩
  · rename_i parsedUrl _
    have hpin := hnet.pin c.world parsedUrl
    rcases hpinned : net.buildPinnedClient c.world parsedUrl with ⟨e | hostHeader, world⟩
    · rw [hpinned] at hpin
      exact ⟨[], by simpa using hpin, hnone, succeededFor_error _ _⟩
    · rw [hpinned] at hpin
      dsimp only
      split
      · exact ⟨[], by simpa using hpin, hnone, succeededFor_error _ _⟩
      · rename_i proof _
        obtain ⟨handled, hlog, hlength, hanswers⟩ :=
          hnet.transmit { c with world := world } parsedUrl.origin (r.build hostHeader proof)
        rw [hpin] at hlog
        rcases htransmit : Client.transmit net { c with world := world } parsedUrl.origin
          (r.build hostHeader proof) with ⟨e | resp, c'⟩
        · rw [htransmit] at hlog
          exact ⟨handled, hlog, Or.inl hlength, succeededFor_error _ _⟩
        · rw [htransmit] at hlog hanswers
          obtain ⟨handled', hlog', honce, hsucceeded⟩ :=
            hnet.acceptFirst c' r parsedUrl second hlength (hanswers resp rfl)
          refine ⟨handled ++ handled', ?_, honce, hsucceeded⟩
          dsimp only at hlog ⊢
          rw [hlog', hlog, List.append_assoc]

/-- A client that talks to a service alone. -/
theorem reaches_serviceNetwork {N E V : Type} (X : Crates)
    (svc : OAuthAuthService N (Option (List UInt8)) WireBody E V) (site : Endpoint) (clock : SystemTime) :
    Reaches X svc (serviceNetwork X svc site clock) ServiceWorld.invocations where
  pin _ _ := rfl
  send w request := by
    refine Or.inr ⟨Interference.idle N, w.shared, site.receive request, clock, clock, rfl, fun resp h => ?_⟩
    dsimp only [serviceNetwork] at h
    split at h
    · rename_i response hresponse
      cases h
      exact hresponse
    · cases h

/-- The service of the sample handles the request of its client once. -/
theorem retry_handled_once_sample : ∃ handled,
    (Client.sendDpopRequest ClientSample.crates
      (serviceNetwork ClientSample.crates (ClientSample.service 200) ClientSample.site ClientSample.clock)
      ClientSample.client ClientSample.request ⟨ClientSample.clock, ClientSample.firstJti⟩
      ⟨ClientSample.clock, ClientSample.secondJti⟩).2.world.invocations =
        ClientSample.client.world.invocations ++ handled ∧ handled.length ≤ 1 := by
  obtain ⟨handled, hlog, honce, -⟩ := retry_handled_once
    (reaches_serviceNetwork ClientSample.crates (ClientSample.service 200) ClientSample.site
      ClientSample.clock) ClientSample.client ClientSample.request
    ⟨ClientSample.clock, ClientSample.firstJti⟩ ⟨ClientSample.clock, ClientSample.secondJti⟩
  refine ⟨handled, hlog, ?_⟩
  rcases honce with honce | ⟨_, _, response, -, hinner, hmay, -⟩
  · exact honce
  · cases hinner
    cases hmay

end Skyauth
