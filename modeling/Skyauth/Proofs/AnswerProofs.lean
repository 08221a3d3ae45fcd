import Skyauth.Proofs.HandshakeProofs

/-!
# Proofs: who answers

A response made by the middleware comes from a call that did not invoke the inner service, with one
exception: when the nonce source fails after a successful response, that response is replaced. A
response of the inner service reaches the client of the library exactly when it is successful or of
a class in which the client looks for a challenge: with any other, no nonce is handed out.
-/

namespace Skyauth

section Answers

variable {N B C E V : Type} [Inhabited C]

/-- A response of the inner service keeps its status and body, unless it is successful and the nonce
    source fails. -/
theorem finish_cases (svc : OAuthAuthService N B C E V) (env : Interference N) (w : SharedState N)
    (response : Response C) :
    (isSuccess response.status = true ∧ NonceIssueFails svc (env.beforeAttach w).nonces →
      (svc.finish env w response).1 = serviceUnavailableResponse) ∧
    (¬ (isSuccess response.status = true ∧ NonceIssueFails svc (env.beforeAttach w).nonces) →
      (svc.finish env w response).1.status = response.status ∧
      (svc.finish env w response).1.body = response.body) := by
  unfold OAuthAuthService.finish NonceIssueFails
  by_cases hok : isSuccess response.status = true
  · rw [if_pos hok]
    cases hs : svc.nonceSource with
    | none => simp
    | some source =>
      rcases hg : source.generateNonce (env.beforeAttach w).nonces with ⟨err | nonce, n⟩
      · simp [hg, hok]
      · simp [hg]
  · rw [if_neg hok]
    simp [hok]

/-- A call that did not invoke the inner service answers with a rejection of the middleware. A call
    that did invoke it passes on its failure, or its status and body, except that the middleware
    answers 503 in place of a successful response exactly when the nonce source then fails to issue
    a nonce. -/
theorem call_answers (X : Crates) (svc : OAuthAuthService N B C E V) (env : Interference N)
    (w : SharedState N) (req : Request B) (clock₁ clock₂ : SystemTime) :
    let o := svc.call X env w req clock₁ clock₂
    (o.invocations = [] ∧ ∃ r, o.response = .ok r ∧ IsRejection r) ∨
    ∃ p user, ChecksPassed X svc w req clock₁ clock₂ p user ∧ o.invocations = [req.withUser user] ∧
      ((∃ e, svc.inner (req.withUser user) = .error e ∧ o.response = .error e) ∨
      ∃ response r, svc.inner (req.withUser user) = .ok response ∧ o.response = .ok r ∧
        let issueFails := NonceIssueFails svc (env.beforeAttach (afterCommit svc env w p)).nonces
        (isSuccess response.status = true ∧ issueFails → r = serviceUnavailableResponse) ∧
        (¬ (isSuccess response.status = true ∧ issueFails) →
          r.status = response.status ∧ r.body = response.body)) := by
  intro o
  have hcases : CallCases X svc env w req clock₁ clock₂ (fun _ _ => True) o :=
    call_cases (respects_true env) X svc w req clock₁ clock₂
  generalize o = o at hcases
  cases hcases with
  | rejected hr => exact Or.inl ⟨rfl, _, rfl, hr⟩
  | refused => exact Or.inl ⟨rfl, _, rfl, isRejection_commitRejection _⟩
  | @failed p user e w' h _ hi => exact Or.inr ⟨p, user, h, rfl, Or.inl ⟨e, hi, rfl⟩⟩
  | @served p user response h _ hi =>
    exact Or.inr ⟨p, user, h, rfl, Or.inr ⟨response, _, hi, rfl, finish_cases svc env _ response⟩⟩

end Answers

namespace ClientSample

/-- A source with one live nonce, and a count of nonces issued in this second. -/
def issuing (count : Nat) : InMemoryServerNonceSource where
  nonces := (∅ : Table String Nat).insert nonce (iatSecs + 300)
  ttl := Duration.fromSecs 300 Duration.five_minutes_lt
  singleUse := false
  issuanceWindowSecs := iatSecs
  issuanceCountInWindow := count
  issuanceRateLimit := CHALLENGE_ISSUANCE_RATE_LIMIT

/-- The client with the live nonce in its cache, and a service that issued this many nonces. -/
def knowing (count : Nat) : Client (ServiceWorld DrawingSource) where
  nonceCache := (DPoPNonceCache.mk ∅).setNonce parsedUrl.origin nonce
  world :=
    { shared :=
        { verifier := DPoPVerifier.new fun _ => 0
          nonces := { source := issuing count, draws := fun _ => nonceBytes, drawn := 0 } }
      invocations := [] }
  sent := []

theorem getNonce_knowing (count : Nat) :
    (knowing count).nonceCache.getNonce parsedUrl.origin = some nonce :=
  AList.lookup_insert _

/-- The live nonce is accepted and stays. -/
theorem present_knowing (count : Nat) :
    presentNonce (inMemoryNonceSource clock) (knowing count).world.shared.nonces
      (extractDpopNonce (some nonce)) = (true, (knowing count).world.shared.nonces) := by
  have hnonce : IsCarried nonce := isCarried_encode (by decide)
  have hlookup : (issuing count).nonces.lookup (Text.trim nonce) = some (iatSecs + 300) := by
    rw [hnonce.trim_eq]
    exact AList.lookup_insert _
  have hsecs : InMemoryServerNonceSource.nowSecs clock = iatSecs := by
    rw [InMemoryServerNonceSource.nowSecs, clock, SystemTime.unixSecs_ofSecs]
    rfl
  have hverify : (issuing count).verifyNonce nonce clock = (true, issuing count) := by
    have hsingle : (issuing count).singleUse = false := rfl
    simp [InMemoryServerNonceSource.verifyNonce, hlookup, hsecs, hsingle]
  rw [hnonce.extract_eq]
  simp only [presentNonce, inMemoryNonceSource, knowing, hverify]

end ClientSample

/-- A service that issued its last nonce of the second: the inner service answers 200 to a valid
    request, and the caller gets the middleware's 503. -/
theorem unavailable_after_inner_ran :
    ∃ req, ((ClientSample.service 200).call ClientSample.crates (Interference.idle DrawingSource)
        (ClientSample.knowing 64).world.shared req ClientSample.clock ClientSample.clock).invocations.length
          = 1 ∧
      ((ClientSample.service 200).call ClientSample.crates (Interference.idle DrawingSource)
        (ClientSample.knowing 64).world.shared req ClientSample.clock ClientSample.clock).response =
          .ok serviceUnavailableResponse := by
  obtain ⟨proof, request, -, -, hpresents⟩ :=
    (ClientSample.agreement 200).attempt rfl (ClientSample.signs_second 200)
  obtain ⟨v, hcall⟩ := (ClientSample.agreement 200).call_served hpresents
    (ClientSample.present_knowing 64) (ClientSample.fresh_new 200 _) rfl
  refine ⟨ClientSample.site.receive request, ?_, ?_⟩
  · rw [hcall]
    rfl
  · rw [hcall]
    have hfails : NonceIssueFails (ClientSample.service 200)
        (ClientSample.knowing 64).world.shared.nonces :=
      ⟨_, .nonceCacheSaturated, rfl, by rfl⟩
    exact congrArg Except.ok ((finish_cases (ClientSample.service 200)
      (Interference.idle DrawingSource) ⟨v, _⟩ _).1 ⟨rfl, hfails⟩)

/-! ## Delivery to the client -/

section Delivery

variable {N E V : Type} {X : Crates} {svc : OAuthAuthService N (Option (List UInt8)) WireBody E V}
  {source : NonceSource N} {site : Endpoint} {r : DpopRequest} {clock : SystemTime}

theorem requireDpopNonce_of_absent {headers : HeaderMap} (h : headers.get "dpop-nonce" = none) :
    requireDpopNonce headers = .error .responseMissingDpopNonce := by
  rw [requireDpopNonce, headerText, h]
  rfl

/-- With a response that is not successful no nonce is handed out. -/
theorem finish_failure {w : SharedState N} {response : Response WireBody}
    (hok : isSuccess response.status = false) :
    svc.finish (Interference.idle N) w response = (response, w) := by
  simp only [OAuthAuthService.finish, hok, Bool.false_eq_true, if_false]

section Sent

variable {W : Type} (net : Network W) (c : Client W)

theorem sent_transmit (origin : String) (request : ClientRequest) :
    (Client.transmit net c origin (.ok request)).2.sent = c.sent ++ [request] := by
  unfold Client.transmit
  rcases hsend : net.send c.world request with ⟨e | resp, world⟩ <;> simp only [hsend]

/-- A retry keeps what was sent before. -/
theorem sent_prefix_retry (parsedUrl : Url) (status : Nat) (draw : ProofDraw) :
    c.sent <+: (Client.retry X net c r parsedUrl status draw).2.sent := by
  unfold Client.retry
  split
  · exact List.prefix_rfl
  · split
    · exact List.prefix_rfl
    · rename_i proof _
      rcases net.buildPinnedClient c.world parsedUrl with ⟨e | hostHeader, world⟩
      · exact List.prefix_rfl
      · dsimp only
        cases r.build hostHeader proof with
        | error e => exact List.prefix_rfl
        | ok request =>
          have hsent := sent_transmit net { c with world := world } parsedUrl.origin request
          rcases htransmit : Client.transmit net { c with world := world } parsedUrl.origin (.ok request)
            with ⟨e | resp, c'⟩
          · rw [htransmit] at hsent
            exact ⟨[request], hsent.symm⟩
          · rw [htransmit] at hsent
            exact ⟨[request], hsent.symm⟩

theorem sent_prefix_acceptFirst (parsedUrl : Url) (resp : Response WireBody) (draw : ProofDraw) :
    c.sent <+: (Client.acceptFirst X net c r parsedUrl resp draw).2.sent := by
  unfold Client.acceptFirst
  split
  · split
    · exact List.prefix_rfl
    · exact List.prefix_rfl
    · exact sent_prefix_retry net c parsedUrl resp.status draw
  · split
    · exact List.prefix_rfl
    · exact List.prefix_rfl

end Sent

/-- The first attempt of an authenticated request with a valid nonce. If the service forwards a response of a
    class in which no challenge comes, the attempt decides: the client returns what is forwarded if it
    carries a nonce. -/
theorem first_attempt (A : Agreement X svc source site r clock) (c : Client (ServiceWorld N)) {s : N}
    (hnonce : presentNonce source c.world.shared.nonces
      (extractDpopNonce (c.nonceCache.getNonce A.parsedUrl.origin)) = (true, s))
    {jtiBytes : List UInt8} (second : ProofDraw) (hjti : jtiBytes.length = 16)
    (hfresh : A.Fresh c.world.shared.verifier jtiBytes)
    (hsign : A.Signs (c.nonceCache.getNonce A.parsedUrl.origin) jtiBytes) :
    let outcome := Client.sendDpopRequest X (serviceNetwork X svc site clock) c r ⟨clock, jtiBytes⟩
      second
    ∃ request, c.sent ++ [request] <+: outcome.2.sent ∧ ∀ response forwarded,
      svc.inner ((site.receive request).withUser A.user) = .ok response →
      (∀ v, (svc.finish (Interference.idle N) ⟨v, s⟩ response).1 = forwarded) →
      mayChallenge forwarded.status = false →
      (∃ world, (serviceNetwork X svc site clock).send c.world request = (.ok forwarded, world)) ∧
      outcome.2.sent = c.sent ++ [request] ∧
      outcome.1 = ((requireDpopNonce forwarded.headers).mapError .dpop).map fun _ => forwarded := by
  intro outcome
  obtain ⟨proof, request, hproof, hbuild, hpresents⟩ := A.attempt hjti hsign
  have hpin : (serviceNetwork X svc site clock).buildPinnedClient c.world A.parsedUrl =
    (.ok site.host, c.world) := rfl
  refine ⟨request, ?_, fun response forwarded hinner hfinish hstatus => ?_⟩
  · have hsent := sent_transmit (serviceNetwork X svc site clock) c A.parsedUrl.origin request
    simp only [outcome, Client.sendDpopRequest, A.parse, hpin, hproof, hbuild]
    rcases htransmit : Client.transmit (serviceNetwork X svc site clock) c A.parsedUrl.origin (.ok request)
      with ⟨e | resp, c'⟩
    · rw [htransmit] at hsent
      exact hsent ▸ List.prefix_rfl
    · rw [htransmit] at hsent
      rw [← hsent]
      exact sent_prefix_acceptFirst _ c' A.parsedUrl resp second
  · obtain ⟨v, hsend⟩ := A.send_served hpresents hnonce hfresh hinner
    rw [hfinish v] at hsend
    refine ⟨⟨_, hsend⟩, ?_⟩
    simp only [outcome, Client.sendDpopRequest, A.parse, hpin, hproof, hbuild, transmit_ok hsend,
      Client.acceptFirst, hstatus, Bool.false_eq_true, if_false]
    cases requireDpopNonce forwarded.headers with
    | error e => exact ⟨rfl, rfl⟩
    | ok => exact ⟨rfl, rfl⟩

/-- An authenticated request with a valid nonce is sent, and the inner service answers it with a response of
    a class in which no challenge comes and no nonce of its own: the response is forwarded with a
    nonce, and the client returns it, exactly when it is successful. Any other is forwarded without
    one, and the client fails. -/
theorem delivered_iff_success (A : Agreement X svc source site r clock)
    (c : Client (ServiceWorld N)) {s s' : N} {nonce : String}
    (hnonce : presentNonce source c.world.shared.nonces
      (extractDpopNonce (c.nonceCache.getNonce A.parsedUrl.origin)) = (true, s))
    (hissue : source.generateNonce s = (.ok nonce, s')) (hcarried : IsCarried nonce)
    {jtiBytes : List UInt8} (second : ProofDraw) (hjti : jtiBytes.length = 16)
    (hfresh : A.Fresh c.world.shared.verifier jtiBytes)
    (hsign : A.Signs (c.nonceCache.getNonce A.parsedUrl.origin) jtiBytes) :
    let outcome := Client.sendDpopRequest X (serviceNetwork X svc site clock) c r ⟨clock, jtiBytes⟩
      second
    ∃ request, c.sent ++ [request] <+: outcome.2.sent ∧ ∀ response,
      svc.inner ((site.receive request).withUser A.user) = .ok response →
      mayChallenge response.status = false → response.headers.get "dpop-nonce" = none →
      ∃ forwarded world,
        (serviceNetwork X svc site clock).send c.world request = (.ok forwarded, world) ∧
        forwarded.status = response.status ∧ outcome.2.sent = c.sent ++ [request] ∧
        ((headerText forwarded.headers "dpop-nonce").isSome ↔ isSuccess response.status = true) ∧
        ((∃ resp, outcome.1 = .ok resp ∧ resp.status = response.status) ↔
          isSuccess response.status = true) ∧
        (isSuccess response.status = false →
          outcome.1 = .error (.dpop .responseMissingDpopNonce)) := by
  intro outcome
  obtain ⟨request, hfirst, hattempt⟩ := first_attempt A c hnonce second hjti hfresh hsign
  refine ⟨request, hfirst, fun response hinner hstatus hown => ?_⟩
  cases hok : isSuccess response.status with
  | true =>
    have hfinish : ∀ v, (svc.finish (Interference.idle N) ⟨v, s⟩ response).1 =
        { response with headers := response.headers.insertStr "dpop-nonce" nonce } :=
      fun v => congrArg Prod.fst (Agreement.finish_success A.nonceSource hok hissue)
    obtain ⟨⟨world, hsend⟩, hsent, hout⟩ := hattempt response _ hinner hfinish hstatus
    refine ⟨_, world, hsend, rfl, hsent, ?_, ?_, by simp⟩
    · simp [headerText_insertStr hcarried.printable]
    · rw [requireDpopNonce_insertStr hcarried] at hout
      simp only [iff_true]
      exact ⟨_, hout, rfl⟩
  | false =>
    have hfinish : ∀ v, (svc.finish (Interference.idle N) ⟨v, s⟩ response).1 = response :=
      fun v => congrArg Prod.fst (finish_failure hok)
    obtain ⟨⟨world, hsend⟩, hsent, hout⟩ := hattempt response _ hinner hfinish hstatus
    rw [requireDpopNonce_of_absent hown] at hout
    have herror : outcome.1 = .error (.dpop .responseMissingDpopNonce) := hout
    refine ⟨_, world, hsend, rfl, hsent, ?_, ?_, fun _ => herror⟩
    · simp [headerText, hown]
    · rw [herror]
      simp

end Delivery

/-- The inner service answers 404 to an authenticated request with a valid nonce, and the client
    fails for want of a nonce in the response. -/
theorem notFound_not_delivered :
    (Client.sendDpopRequest ClientSample.crates
        (serviceNetwork ClientSample.crates (ClientSample.service 404) ClientSample.site
          ClientSample.clock)
        (ClientSample.knowing 0) ClientSample.request ⟨ClientSample.clock, ClientSample.secondJti⟩
        ⟨ClientSample.clock, ClientSample.firstJti⟩).1 =
      .error (.dpop .responseMissingDpopNonce) := by
  have hcached : (ClientSample.knowing 0).nonceCache.getNonce
      (ClientSample.agreement 404).parsedUrl.origin = some ClientSample.nonce :=
    ClientSample.getNonce_knowing 0
  obtain ⟨request, -, hattempt⟩ := first_attempt (ClientSample.agreement 404)
    (ClientSample.knowing 0) (by rw [hcached]; exact ClientSample.present_knowing 0)
    ⟨ClientSample.clock, ClientSample.firstJti⟩ rfl (ClientSample.fresh_new 404 _)
    (by rw [hcached]; exact ClientSample.signs_second 404)
  obtain ⟨-, -, hout⟩ := hattempt _ _ rfl (fun v => rfl) rfl
  rw [hout]
  rfl

/-- The inner service answers 200 to the same request, and the client returns the response. -/
theorem delivered_iff_success_sample :
    ∃ resp, (Client.sendDpopRequest ClientSample.crates
        (serviceNetwork ClientSample.crates (ClientSample.service 200) ClientSample.site
          ClientSample.clock)
        (ClientSample.knowing 0) ClientSample.request ⟨ClientSample.clock, ClientSample.secondJti⟩
        ⟨ClientSample.clock, ClientSample.firstJti⟩).1 = .ok resp ∧ resp.status = 200 := by
  have hcached : (ClientSample.knowing 0).nonceCache.getNonce
      (ClientSample.agreement 200).parsedUrl.origin = some ClientSample.nonce :=
    ClientSample.getNonce_knowing 0
  have hcan : (ClientSample.knowing 0).world.shared.nonces.source.CanIssue
      (ClientSample.agreement 200).now := by decide
  obtain ⟨s', hissue, -, -⟩ := inMemory_issues (ClientSample.agreement 200).clock_secs hcan
  obtain ⟨request, -, hanswered⟩ := delivered_iff_success (ClientSample.agreement 200)
    (ClientSample.knowing 0) (by rw [hcached]; exact ClientSample.present_knowing 0) hissue
    (isCarried_encode (by decide)) ⟨ClientSample.clock, ClientSample.firstJti⟩ rfl
    (ClientSample.fresh_new 200 _) (by rw [hcached]; exact ClientSample.signs_second 200)
  obtain ⟨_, _, -, -, -, -, hdelivered, -⟩ := hanswered _ rfl rfl rfl
  exact hdelivered.2 rfl

end Skyauth
