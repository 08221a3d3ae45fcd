import Skyauth.Proofs.RequestProofs
import Skyauth.Proofs.TowerProofs
import Skyauth.Proofs.ReplayCacheProofs

/-!
# Proofs: the nonce handshake of client and server

Each exchange of a client with the service is one of two: a proof with a nonce that the source
accepts is served, and any other proof is challenged with a fresh nonce. A client that is challenged
once is served at its second attempt.
-/

namespace Skyauth

section Exchange

variable {N E V : Type} {X : Crates} {svc : OAuthAuthService N (Option (List UInt8)) WireBody E V}
  {source : NonceSource N} {site : Endpoint} {r : DpopRequest} {clock : SystemTime}

/-! ## The setting -/

/-- A request of the client and the service it is meant for fit together: the service derives the
    target URI that the client signs, its validator accepts the client's token and key, and both
    read the same second off the clock. -/
structure Agreement (X : Crates) (svc : OAuthAuthService N (Option (List UInt8)) WireBody E V)
    (source : NonceSource N) (site : Endpoint) (r : DpopRequest) (clock : SystemTime) where
  token : String
  parsedUrl : Url
  serverHtu : String
  normalizedHtu : String
  now : Nat
  user : AuthenticatedUser
  nonceSource : svc.nonceSource = some source
  legal : r.Legal site.host token
  method_visible : ∀ c ∈ r.method.toList, 33 ≤ c.toNat ∧ c.toNat ≤ 126
  parse : X.urlParse r.urlStr = .ok parsedUrl
  clientHtu : normalizeHtu X r.urlStr = .ok normalizedHtu
  /-- What the URL parser printed it reads back. -/
  reparse : normalizeHtu X normalizedHtu = .ok normalizedHtu
  requestHtu : svc.requestHtu (site.uriOf r.urlStr) = some serverHtu
  sameHtu : normalizeHtu X serverHtu = .ok normalizedHtu
  clock_secs : clock.unixSecs = .ok now
  now_lt : now < 2 ^ 63
  hash_length : (X.sha256 (Text.asBytes token)).length = 32
  validates : svc.tokenValidator token (r.dpopKey.jwkThumbprint X) = .ok user

namespace Agreement

variable (A : Agreement X svc source site r clock)

/-- The payload of the proof with this nonce and this `jti`. -/
def payload (nonce : Option String) (jtiBytes : List UInt8) : Json :=
  proofPayload (base64urlEncode jtiBytes) (X.toUppercase (Text.trim r.method)) A.normalizedHtu nonce
    (r.accessToken.map (computeAccessTokenHash X)) A.now

/-- Signing and printing do their job on the proof with this nonce and this `jti`. -/
def Signs (nonce : Option String) (jtiBytes : List UInt8) : Prop :=
  ∃ headerStr payloadStr, SignsProof X r.dpopKey (proofHeader (r.dpopKey.publicJwk X))
    (A.payload nonce jtiBytes) headerStr payloadStr

/-- The claims of that proof. -/
def claims (nonce : Option String) (jtiBytes : List UInt8) : DPoPProofClaims :=
  createdClaims (base64urlEncode jtiBytes) (X.toUppercase (Text.trim r.method)) A.normalizedHtu nonce
    (r.accessToken.map (computeAccessTokenHash X)) A.now

/-- The pending request of a call with that proof. -/
def pending (v : DPoPVerifier) (nonce : Option String) (jtiBytes : List UInt8) : Pending where
  accessToken := A.token
  claims := A.claims nonce jtiBytes
  jwk := r.dpopKey.publicJwk X
  admission := { jkt := r.dpopKey.jwkThumbprint X, jti := base64urlEncode jtiBytes,
                 expiresAt := v.expiresAt A.now, now := A.now }

/-- The replay cache has room for a `jti` that it has not seen. -/
def Fresh (v : DPoPVerifier) (jtiBytes : List UInt8) : Prop :=
  ∀ cache, v.replayCache = some cache →
    let jkt := r.dpopKey.jwkThumbprint X
    let jti := base64urlEncode jtiBytes
    cache.isConsumed jkt jti A.now = false ∧
      (Expiring.prune expiredAt A.now (cache.shards (cache.shardIndex
        (DPoPReplayCache.compositeKey jkt jti)))).size < REPLAY_SHARD_CAPACITY

/-- The request carries the token and a proof with this nonce and this `jti` that verifies. -/
structure Presents (nonce : Option String) (jtiBytes : List UInt8)
    (req : Request (Option (List UInt8))) : Prop where
  auth : headerText req.headers "authorization" = some ("DPoP " ++ A.token)
  htu : svc.requestHtu req.uri = some A.serverHtu
  proof : ∃ proof, headerText req.headers "dpop" = some proof ∧ ∀ v : DPoPVerifier,
    v.verifyProofDeferred X proof (svc.expectedProof X A.token req.method A.serverHtu) none clock clock =
      .ok (A.claims nonce jtiBytes, r.dpopKey.publicJwk X, (A.pending v nonce jtiBytes).admission)

/-! ## What the client sends -/

theorem eqIgnoreAsciiCase_toUppercase {s : String}
    (h : ∀ c ∈ s.toList, 33 ≤ c.toNat ∧ c.toNat ≤ 126) :
    Text.eqIgnoreAsciiCase (X.toUppercase (Text.trim s)) s = true := by
  have htrim : Text.trim s = s :=
    Text.trim_eq_self fun c hc => Base64.not_isWhitespace_of_visible (h c hc)
  have hcase : ∀ n : Fin 128, (Char.ofNat n).toUpper.toLower = (Char.ofNat n).toLower := by decide
  have hupper : s.toList.flatMap (fun c => if c.toNat < 128 then [c.toUpper] else X.unicodeUpper c) =
      s.toList.map Char.toUpper := by
    rw [← List.flatMap_pure_eq_map]
    refine List.flatMap_congr fun c hc => if_pos ?_
    have := h c hc
    omega
  rw [htrim, Text.eqIgnoreAsciiCase, Crates.toUppercase, String.toList_ofList, hupper, List.map_map,
    beq_iff_eq]
  refine List.map_congr_left fun c hc => ?_
  have hlt : c.toNat < 128 := by
    have := h c hc
    omega
  have := hcase ⟨c.toNat, hlt⟩
  rwa [Char.ofNat_toNat] at this

/-- An attempt of the client makes a request that presents its nonce. -/
theorem attempt {nonce : Option String} {jtiBytes : List UInt8} (hjti : jtiBytes.length = 16)
    (hs : A.Signs nonce jtiBytes) :
    ∃ proof request, r.proof X nonce ⟨clock, jtiBytes⟩ = .ok proof ∧
      r.build site.host proof = .ok request ∧ A.Presents nonce jtiBytes (site.receive request) := by
  obtain ⟨headerStr, payloadStr, hs⟩ := hs
  have hnow : A.now < 2 ^ 64 := by
    have := A.now_lt
    omega
  obtain ⟨proof, hproof, hvisible, hdecode⟩ := createProof_spec A.clock_secs hnow A.clientHtu hs
  obtain ⟨headers, hbuild, hdpop, hauth⟩ := build_legal A.legal (isPrintable_of_visible hvisible)
  refine ⟨proof, _, hproof, hbuild, hauth, A.requestHtu, proof, hdpop, fun v => ?_⟩
  refine verifyProofDeferred_created hdecode A.clock_secs hnow hjti
    (eqIgnoreAsciiCase_toUppercase A.method_visible) A.reparse A.sameHtu rfl ?_
  -- without `require_ath` no hash is expected; with it, the hash is the one the client put in
  have hhash : X.sha256 (Text.asBytes A.token) ≠ [] := by
    intro h
    have := A.hash_length
    rw [h] at this
    cases this
  rw [A.legal.token_eq, Option.map_some, computeAccessTokenHash, (isCarried_encode hhash).extract_eq]
  unfold OAuthAuthService.expectedProof
  cases svc.requireAth with
  | false => exact Or.inl rfl
  | true => exact Or.inr rfl

/-! ## What the service answers -/

/-- A fresh `jti` is committed. -/
theorem commit_fresh {v : DPoPVerifier} {nonce : Option String} {jtiBytes : List UInt8}
    (h : A.Fresh v jtiBytes) :
    (v.commitReplayAdmission (A.pending v nonce jtiBytes).admission).1 = .ok () := by
  unfold DPoPVerifier.commitReplayAdmission DPoPVerifier.record
  cases hc : v.replayCache with
  | none => rfl
  | some cache =>
    obtain ⟨hnew, hroom⟩ := h cache hc
    have hlive : Expiring.live expiredAt A.now (cache.find (DPoPReplayCache.compositeKey
        (r.dpopKey.jwkThumbprint X) (base64urlEncode jtiBytes))) = none := by
      rw [DPoPReplayCache.isConsumed, DPoPReplayCache.any_live] at hnew
      simpa using hnew
    rcases DPoPReplayCache.checkAndRecord_cases cache (r.dpopKey.jwkThumbprint X) (base64urlEncode jtiBytes)
      (v.expiresAt A.now) A.now with ⟨h, -⟩ | ⟨-, h, -⟩ | ⟨-, -, h⟩
    · exact absurd hlive h
    · exact absurd h (Nat.not_le.2 hroom)
    · simp only [pending, h]

/-- A proof whose nonce the source accepts is served: the inner service gets the request, and the
    answer is what `finish` makes of its response. -/
theorem call_served {nonce : Option String} {jtiBytes : List UInt8}
    {req : Request (Option (List UInt8))} {w : SharedState N} {s : N} {response : Response WireBody}
    (h : A.Presents nonce jtiBytes req)
    (hpresent : presentNonce source w.nonces (extractDpopNonce nonce) = (true, s))
    (hfresh : A.Fresh w.verifier jtiBytes) (hi : svc.inner (req.withUser A.user) = .ok response) :
    ∃ v, svc.call X (Interference.idle N) w req clock clock =
      { response := .ok (svc.finish (Interference.idle N) ⟨v, s⟩ response).1
        shared := (svc.finish (Interference.idle N) ⟨v, s⟩ response).2
        invocations := [req.withUser A.user] } := by
  obtain ⟨n, hn⟩ : ∃ n, extractDpopNonce nonce = some n := by
    cases hn : extractDpopNonce nonce with
    | none =>
      rw [hn] at hpresent
      cases hpresent
    | some n => exact ⟨n, rfl⟩
  rw [hn] at hpresent
  have hverify : source.verifyNonce w.nonces n = (true, s) := hpresent
  have hclaim : (A.claims nonce jtiBytes).nonce = some n := hn
  obtain ⟨proof, hdpop, hv⟩ := h.proof
  have hchecks : ChecksPassed X svc w req clock clock (A.pending w.verifier nonce jtiBytes) A.user := by
    refine ⟨⟨_, h.auth, dpopCredentials_eq_some.1 (dpopCredentials_token A.legal.token_visible)⟩,
      ⟨proof, A.serverHtu, hdpop, h.htu, hv _⟩, ?_, A.validates⟩
    intro source' hs
    obtain rfl : source = source' := Option.some.inj (A.nonceSource.symm.trans hs)
    exact ⟨n, hclaim, congrArg Prod.fst hverify⟩
  have hnonces : afterNonceCheck svc w (A.pending w.verifier nonce jtiBytes) =
      { w with nonces := s } := by
    simp only [afterNonceCheck, A.nonceSource, pending, hclaim, hverify]
  have hcommit : (committed svc (Interference.idle N) w (A.pending w.verifier nonce jtiBytes)).1 =
      .ok () := by
    rw [committed, hnonces]
    exact A.commit_fresh hfresh
  refine ⟨(committed svc (Interference.idle N) w (A.pending w.verifier nonce jtiBytes)).2, ?_⟩
  have hafter : afterCommit svc (Interference.idle N) w (A.pending w.verifier nonce jtiBytes) =
      ⟨(committed svc (Interference.idle N) w (A.pending w.verifier nonce jtiBytes)).2, s⟩ := by
    rw [afterCommit, hnonces]
    rfl
  rw [call_of_checks hchecks hcommit hi, hafter]

theorem send_served {nonce : Option String} {jtiBytes : List UInt8} {request : ClientRequest}
    {w : ServiceWorld N} {s : N} {response : Response WireBody}
    (h : A.Presents nonce jtiBytes (site.receive request))
    (hpresent : presentNonce source w.shared.nonces (extractDpopNonce nonce) = (true, s))
    (hfresh : A.Fresh w.shared.verifier jtiBytes)
    (hi : svc.inner ((site.receive request).withUser A.user) = .ok response) :
    ∃ v, (serviceNetwork X svc site clock).send w request =
      (.ok (svc.finish (Interference.idle N) ⟨v, s⟩ response).1,
        { shared := (svc.finish (Interference.idle N) ⟨v, s⟩ response).2
          invocations := w.invocations ++ [(site.receive request).withUser A.user] }) := by
  obtain ⟨v, hcall⟩ := A.call_served h hpresent hfresh hi
  exact ⟨v, by simp only [serviceNetwork, hcall]⟩

/-- A proof whose nonce is missing or refused is challenged with a fresh nonce. -/
theorem send_challenged {nonce : Option String} {jtiBytes : List UInt8} {request : ClientRequest}
    {w : ServiceWorld N} {s s' : N} {fresh : String}
    (h : A.Presents nonce jtiBytes (site.receive request))
    (hpresent : presentNonce source w.shared.nonces (extractDpopNonce nonce) = (false, s))
    (hissue : source.generateNonce s = (.ok fresh, s')) :
    (serviceNetwork X svc site clock).send w request =
      (.ok (nonceChallenge fresh), { w with shared := { w.shared with nonces := s' } }) := by
  obtain ⟨proof, hdpop, hv⟩ := h.proof
  have hissue : source.generateNonce ((Interference.idle N).beforeChallenge
      { w.shared with nonces := s }).nonces = (.ok fresh, s') := hissue
  have hcall := call_of_refused_nonce h.auth (dpopCredentials_token A.legal.token_visible) hdpop h.htu
    (hv w.shared.verifier) A.nonceSource hpresent hissue
  simp only [serviceNetwork, hcall, List.append_nil]
  rfl

/-! ## What the client makes of the answers -/

/-- With a successful response the service hands out the next nonce. -/
theorem finish_success {v : DPoPVerifier} {s s' : N} {n : String} {response : Response WireBody}
    (hsource : svc.nonceSource = some source) (hok : isSuccess response.status = true)
    (hissue : source.generateNonce s = (.ok n, s')) :
    svc.finish (Interference.idle N) ⟨v, s⟩ response =
      ({ response with headers := response.headers.insertStr "dpop-nonce" n }, ⟨v, s'⟩) := by
  have hidle : ((Interference.idle N).beforeAttach ⟨v, s⟩).nonces = s := rfl
  simp only [OAuthAuthService.finish, if_pos hok, hsource, hidle, hissue]
  rfl

/-- The ways of a handshake through a nonce source: the first nonce is accepted, or it is refused and
    the nonce of the challenge is accepted. A nonce is issued with every answer. -/
inductive Handshake (source : NonceSource N) (s : N) (nonce : Option String) : Prop where
  | direct {s₁ s₂ : N} {next : String} (accepted : presentNonce source s nonce = (true, s₁))
      (issued : source.generateNonce s₁ = (.ok next, s₂)) (carried : IsCarried next)
  | challenged {s₁ s₂ s₃ s₄ : N} {fresh next : String}
      (refused : presentNonce source s nonce = (false, s₁))
      (offered : source.generateNonce s₁ = (.ok fresh, s₂)) (offer_carried : IsCarried fresh)
      (accepted : source.verifyNonce s₂ fresh = (true, s₃))
      (issued : source.generateNonce s₃ = (.ok next, s₄)) (carried : IsCarried next)

/-- The client got the answer of the inner service, which ran once, with at most two requests. -/
def Completes (svc : OAuthAuthService N (Option (List UInt8)) WireBody E V)
    (c : Client (ServiceWorld N))
    (outcome : Except AtprotoOAuthError (Response WireBody) × Client (ServiceWorld N)) : Prop :=
  ∃ resp c' req response, outcome = (.ok resp, c') ∧
    c'.world.invocations = c.world.invocations ++ [req] ∧ svc.inner req = .ok response ∧
    resp.status = response.status ∧ c'.sent.length ≤ c.sent.length + 2

theorem send_completes (hinner : ∀ req, req.extensions.user = some A.user →
      ∃ response, svc.inner req = .ok response ∧ isSuccess response.status = true)
    (c : Client (ServiceWorld N)) {jti₁ jti₂ : List UInt8} (hjti₁ : jti₁.length = 16)
    (hjti₂ : jti₂.length = 16)
    (hfresh₁ : A.Fresh c.world.shared.verifier jti₁) (hfresh₂ : A.Fresh c.world.shared.verifier jti₂)
    (hsign₁ : A.Signs (c.nonceCache.getNonce A.parsedUrl.origin) jti₁)
    (hsign₂ : ∀ s₁ s₂ fresh, presentNonce source c.world.shared.nonces
        (extractDpopNonce (c.nonceCache.getNonce A.parsedUrl.origin)) = (false, s₁) →
      source.generateNonce s₁ = (.ok fresh, s₂) → A.Signs (some fresh) jti₂)
    (h : Handshake source c.world.shared.nonces
      (extractDpopNonce (c.nonceCache.getNonce A.parsedUrl.origin))) :
    Completes svc c (Client.sendDpopRequest X (serviceNetwork X svc site clock) c r ⟨clock, jti₁⟩
      ⟨clock, jti₂⟩) := by
  obtain ⟨proof, request, hproof, hbuild, hpresents⟩ := A.attempt hjti₁ hsign₁
  -- the first attempt up to its response
  have hfirst : ∀ resp world, (serviceNetwork X svc site clock).send c.world request =
      (.ok resp, world) → Client.sendDpopRequest X (serviceNetwork X svc site clock) c r ⟨clock, jti₁⟩
        ⟨clock, jti₂⟩ = Client.acceptFirst X (serviceNetwork X svc site clock)
          { nonceCache := c.nonceCache.learn A.parsedUrl.origin resp.headers, world := world,
            sent := c.sent ++ [request] } r A.parsedUrl resp ⟨clock, jti₂⟩ := by
    intro resp world hsend
    have hpin : (serviceNetwork X svc site clock).buildPinnedClient c.world A.parsedUrl =
      (.ok site.host, c.world) := rfl
    simp only [Client.sendDpopRequest, A.parse, hpin, hproof, hbuild, transmit_ok hsend]
  cases h with
  | @direct s₁ s₂ next accepted issued carried =>
    obtain ⟨response, hi, hok⟩ := hinner ((site.receive request).withUser A.user) rfl
    obtain ⟨v, hsend⟩ := A.send_served hpresents accepted hfresh₁ hi
    rw [finish_success A.nonceSource hok issued] at hsend
    have hout := hfirst _ _ hsend
    simp only [Client.acceptFirst, mayChallenge_of_success hok, Bool.false_eq_true, if_false,
      requireDpopNonce_insertStr carried] at hout
    exact ⟨_, _, _, response, hout, rfl, hi, rfl, by simp⟩
  | @challenged s₁ s₂ s₃ s₄ fresh next refused offered offer_carried accepted issued carried =>
    obtain ⟨proof₂, request₂, hproof₂, hbuild₂, hpresents₂⟩ :=
      A.attempt hjti₂ (hsign₂ _ _ _ refused offered)
    obtain ⟨response, hi, hok⟩ := hinner ((site.receive request₂).withUser A.user) rfl
    have haccepted : presentNonce source s₂ (extractDpopNonce (some fresh)) = (true, s₃) := by
      rw [offer_carried.extract_eq]
      exact accepted
    obtain ⟨v, hsend₂⟩ := A.send_served
      (w := { c.world with shared := { c.world.shared with nonces := s₂ } })
      hpresents₂ haccepted hfresh₂ hi
    rw [finish_success A.nonceSource hok issued] at hsend₂
    have hout := hfirst _ _ (A.send_challenged hpresents refused offered)
    have hstatus : mayChallenge (nonceChallenge fresh).status = true := rfl
    have hpin : ∀ w, (serviceNetwork X svc site clock).buildPinnedClient w A.parsedUrl =
      (.ok site.host, w) := fun _ => rfl
    simp only [Client.acceptFirst, hstatus, if_true, classify_challenge X offer_carried.printable,
      Client.retry, getNonce_learn_challenge offer_carried, hproof₂, hpin, hbuild₂] at hout
    rw [transmit_ok hsend₂] at hout
    simp only [Client.acceptRetry, mayChallenge_of_success hok, Bool.false_eq_true, if_false, if_pos hok,
      requireDpopNonce_insertStr carried] at hout
    exact ⟨_, _, _, response, hout, rfl, hi, rfl, by simp⟩

end Agreement

/-! ## The in-memory source -/

namespace InMemoryServerNonceSource

/-- Issuing is neither limited by the rate of this second nor by the size of the table. -/
def CanIssue (s : InMemoryServerNonceSource) (now : Nat) : Prop :=
  (s.window now).issuanceCountInWindow < s.issuanceRateLimit ∧
    (s.prunedNonces now).size < NONCE_CACHE_CAPACITY

instance (s : InMemoryServerNonceSource) (now : Nat) : Decidable (s.CanIssue now) :=
  inferInstanceAs (Decidable (_ ∧ _))

theorem window_fields (s : InMemoryServerNonceSource) (now : Nat) :
    (s.window now).issuanceRateLimit = s.issuanceRateLimit ∧ (s.window now).nonces = s.nonces ∧
      (s.window now).ttl = s.ttl := by
  unfold window
  split <;> exact ⟨rfl, rfl, rfl⟩

/-- A source that can issue does: the nonce is the drawn bytes, live for the source's lifetime. -/
theorem generateNonce_of_canIssue {s : InMemoryServerNonceSource} {clock : SystemTime} {now : Nat}
    (hclock : clock.unixSecs = .ok now) (raw : List UInt8) (h : s.CanIssue now) :
    ∃ s', s.generateNonce clock raw = (.ok (base64urlEncode raw), s') ∧
      s'.nonces = (s.prunedNonces now).insert (base64urlEncode raw)
        (saturatingAdd now s.ttl.asSecs) := by
  have hnow : nowSecs clock = now := by rw [nowSecs, hclock]; rfl
  obtain ⟨hlimit, hnonces, httl⟩ := window_fields s now
  have hpruned : { s.window now with
      issuanceCountInWindow := (s.window now).issuanceCountInWindow + 1 }.prunedNonces now =
      s.prunedNonces now := by
    simp only [prunedNonces, hnonces]
  have hpasses : s.limit now =
      (true, { s.window now with issuanceCountInWindow := (s.window now).issuanceCountInWindow + 1 }) :=
    if_neg (by rw [hlimit]; exact Nat.not_le.2 h.1)
  simp only [generateNonce, hnow, hpasses, issue, hpruned]
  rw [if_neg (Nat.not_le.2 h.2), httl]
  exact ⟨_, rfl, rfl⟩

/-- A nonce is accepted in the second it was issued in. -/
theorem verifyNonce_issued {s s' : InMemoryServerNonceSource} {clock : SystemTime} {now : Nat}
    (hclock : clock.unixSecs = .ok now) (hnow : now < 2 ^ 63) (httl : 1 ≤ s.ttl.asSecs)
    {raw : List UInt8} (hraw : raw ≠ [])
    (hs' : s'.nonces = (s.prunedNonces now).insert (base64urlEncode raw)
      (saturatingAdd now s.ttl.asSecs)) :
    (s'.verifyNonce (base64urlEncode raw) clock).1 = true := by
  have hsecs : nowSecs clock = now := by rw [nowSecs, hclock]; rfl
  have hlive : now < saturatingAdd now s.ttl.asSecs := by
    rw [saturatingAdd, U64_MAX]
    omega
  have hany : (s'.nonces.lookup (Text.trim (base64urlEncode raw))).any (fun exp => nowSecs clock < exp) =
      true := by
    rw [(isCarried_encode hraw).trim_eq, hs', AList.lookup_insert, hsecs]
    simpa using hlive
  unfold verifyNonce
  simp only [hany, and_true]
  split <;> rfl

theorem ttl_verifyNonce (s : InMemoryServerNonceSource) (nonce : String) (clock : SystemTime) :
    (s.verifyNonce nonce clock).2.ttl = s.ttl := by
  unfold verifyNonce
  simp only []
  split <;> rfl

end InMemoryServerNonceSource

/-- The states of a source in which a handshake that presents this nonce issues one: after the
    request that is served, and before that, if the nonce is refused, with the challenge. -/
def issueStates (source : NonceSource N) (s : N) (nonce : Option String) : List N :=
  let (accepted, s₁) := presentNonce source s nonce
  if accepted then [s₁]
  else
    match source.generateNonce s₁ with
    | (.ok fresh, s₂) => [s₁, (source.verifyNonce s₂ fresh).2]
    | (.error _, _) => [s₁]

/-- Presenting a nonce leaves the lifetime and the draws of the source alone. -/
theorem presentNonce_fields (s : DrawingSource) (nonce : Option String) (clock : SystemTime) :
    (presentNonce (inMemoryNonceSource clock) s nonce).2.source.ttl = s.source.ttl ∧
      (presentNonce (inMemoryNonceSource clock) s nonce).2.draws = s.draws ∧
      (presentNonce (inMemoryNonceSource clock) s nonce).2.drawn = s.drawn := by
  cases nonce with
  | none => exact ⟨rfl, rfl, rfl⟩
  | some n => exact ⟨s.source.ttl_verifyNonce n clock, rfl, rfl⟩

/-- A drawing source that can issue does. -/
theorem inMemory_issues {s : DrawingSource} {now : Nat} (hclock : clock.unixSecs = .ok now)
    (h : s.source.CanIssue now) :
    ∃ s', (inMemoryNonceSource clock).generateNonce s = (.ok (base64urlEncode (s.draws s.drawn)), s') ∧
      s'.draws = s.draws ∧ s'.source.nonces = (s.source.prunedNonces now).insert
        (base64urlEncode (s.draws s.drawn)) (saturatingAdd now s.source.ttl.asSecs) := by
  obtain ⟨source', hissue, hnonces⟩ :=
    InMemoryServerNonceSource.generateNonce_of_canIssue hclock (s.draws s.drawn) h
  refine ⟨{ s with source := source', drawn := s.drawn + 1 }, ?_, rfl, hnonces⟩
  simp only [inMemoryNonceSource, hissue]

/-- Every handshake goes through an in-memory source that can issue where it has to. -/
theorem inMemory_handshake {s : DrawingSource} {nonce : Option String} {now : Nat}
    (hclock : clock.unixSecs = .ok now) (hnow : now < 2 ^ 63) (httl : 1 ≤ s.source.ttl.asSecs)
    (hdraws : ∀ i, (s.draws i).length = 24)
    (hissue : ∀ s' ∈ issueStates (inMemoryNonceSource clock) s nonce, s'.source.CanIssue now) :
    Agreement.Handshake (inMemoryNonceSource clock) s nonce := by
  have hraw : ∀ i, s.draws i ≠ [] := by
    intro i h
    have := hdraws i
    rw [h] at this
    cases this
  obtain ⟨httl₁, hdraws₁, -⟩ := presentNonce_fields s nonce clock
  rcases hp : presentNonce (inMemoryNonceSource clock) s nonce with ⟨_ | _, s₁⟩
  · rw [hp] at httl₁ hdraws₁
    have hcan₁ : s₁.source.CanIssue now := by
      refine hissue s₁ ?_
      simp only [issueStates, hp, Bool.false_eq_true, if_false]
      split <;> simp
    obtain ⟨s₂, hoffer, hdraws₂, hnonces₂⟩ := inMemory_issues hclock hcan₁
    have hcan₃ := hissue ((inMemoryNonceSource clock).verifyNonce s₂
      (base64urlEncode (s₁.draws s₁.drawn))).2 (by simp [issueStates, hp, hoffer])
    obtain ⟨s₄, hissue₃, -, -⟩ := inMemory_issues hclock hcan₃
    have hverified : ((inMemoryNonceSource clock).verifyNonce s₂
        (base64urlEncode (s₁.draws s₁.drawn))).1 = true :=
      InMemoryServerNonceSource.verifyNonce_issued hclock hnow (httl₁ ▸ httl)
        (by rw [hdraws₁]; exact hraw _) hnonces₂
    have hdraws₃ : ((inMemoryNonceSource clock).verifyNonce s₂
        (base64urlEncode (s₁.draws s₁.drawn))).2.draws = s.draws := hdraws₂.trans hdraws₁
    exact .challenged hp hoffer (isCarried_encode (by rw [hdraws₁]; exact hraw _))
      (Prod.ext hverified rfl) hissue₃ (isCarried_encode (by rw [hdraws₃]; exact hraw _))
  · rw [hp] at hdraws₁
    have hcan₁ : s₁.source.CanIssue now := by
      refine hissue s₁ ?_
      simp only [issueStates, hp, if_true, List.mem_singleton]
    obtain ⟨s₂, hissue₁, -, -⟩ := inMemory_issues hclock hcan₁
    exact .direct hp hissue₁ (isCarried_encode (by rw [hdraws₁]; exact hraw _))

end Exchange

/-! ## The client key at a service -/

namespace ClientSample

def clock : SystemTime := SystemTime.ofSecs iatSecs

def user : AuthenticatedUser where
  did := "did:plc:sample"
  accessToken := "token"
  dpopThumbprint := key.jwkThumbprint crates
  scope := none

def request : DpopRequest where
  dpopKey := key
  method := "GET"
  urlStr := url
  accessToken := some "token"
  bodyBytes := none
  contentType := none

def site : Endpoint where
  host := "pds.example.com"
  uriOf := fun _ =>
    { scheme := some .https
      authority := some { asStr := "pds.example.com", host := "pds.example.com", portU16 := none }
      pathAndQuery := some "/xrpc/app" }

/-- A service whose inner service answers with this status. -/
def service (status : Nat) : OAuthAuthService DrawingSource (Option (List UInt8)) WireBody String String where
  inner := fun _ => .ok { status := status, headers := [], body := default }
  tokenValidator := fun _ _ => .ok user
  nonceSource := some (inMemoryNonceSource clock)
  requireAth := true
  htuOverride := none

theorem defaultHtu_site : defaultHtuFromUri .https (site.uriOf url) = some url := by rfl

def agreement (status : Nat) :
    Agreement crates (service status) (inMemoryNonceSource clock) site request clock where
  token := "token"
  parsedUrl := parsedUrl
  serverHtu := url
  normalizedHtu := url
  now := iatSecs
  user := user
  nonceSource := rfl
  legal := ⟨rfl, by decide, Text.forall_mem_of_all (by decide), by decide, by simp [request]⟩
  method_visible := Text.forall_mem_of_all (by decide)
  parse := urlParse_url
  clientHtu := by rfl
  reparse := by decide +kernel
  requestHtu := defaultHtu_site
  sameHtu := by decide
  clock_secs := SystemTime.unixSecs_ofSecs _
  now_lt := by decide
  hash_length := by
    rw [sha256_token]
    rfl
  validates := rfl

/-- A client with an empty nonce cache and a service that has seen nothing yet. -/
def client : Client (ServiceWorld DrawingSource) where
  nonceCache := { cache := ∅ }
  world :=
    { shared :=
        { verifier := DPoPVerifier.new fun _ => 0
          nonces := { source := InMemoryServerNonceSource.new (Duration.fromSecs 300 Duration.five_minutes_lt)
                      draws := fun _ => nonceBytes
                      drawn := 0 } }
      invocations := [] }
  sent := []

theorem fresh_new (status : Nat) (jtiBytes : List UInt8) :
    (agreement status).Fresh (DPoPVerifier.new fun _ => 0) jtiBytes := by
  rintro cache ⟨⟩
  exact ⟨rfl, by show 0 < REPLAY_SHARD_CAPACITY; decide⟩

theorem ath_eq : request.accessToken.map (computeAccessTokenHash crates) = some ath := by
  rw [request, Option.map_some, computeAccessTokenHash, sha256_token, ath]

theorem method_eq : crates.toUppercase (Text.trim request.method) = "GET" := by rfl

theorem signs_first (status : Nat) : (agreement status).Signs none firstJti := by
  rw [Agreement.Signs, Agreement.payload, method_eq, ath_eq]
  exact ⟨_, _, signsProof none (Or.inl rfl)⟩

theorem signs_second (status : Nat) : (agreement status).Signs (some nonce) secondJti := by
  rw [Agreement.Signs, Agreement.payload, method_eq, ath_eq]
  exact ⟨_, _, signsProof (some nonce) (Or.inr rfl)⟩

end ClientSample

/-! ## The handshake -/

/-- Whatever nonce the client has for the origin, its request is answered by the inner service, which
    runs once, after at most two requests. -/
theorem handshake_completes {E V : Type} {X : Crates}
    {svc : OAuthAuthService DrawingSource (Option (List UInt8)) WireBody E V} {site : Endpoint}
    {r : DpopRequest} {clock : SystemTime}
    (A : Agreement X svc (inMemoryNonceSource clock) site r clock)
    (hinner : ∀ req, req.extensions.user = some A.user →
      ∃ response, svc.inner req = .ok response ∧ isSuccess response.status = true)
    (c : Client (ServiceWorld DrawingSource))
    (httl : 1 ≤ c.world.shared.nonces.source.ttl.asSecs)
    (hdraws : ∀ i, (c.world.shared.nonces.draws i).length = 24)
    (hissue : ∀ s ∈ issueStates (inMemoryNonceSource clock) c.world.shared.nonces
        (extractDpopNonce (c.nonceCache.getNonce A.parsedUrl.origin)), s.source.CanIssue A.now)
    {jti₁ jti₂ : List UInt8} (hjti₁ : jti₁.length = 16) (hjti₂ : jti₂.length = 16)
    (hfresh₁ : A.Fresh c.world.shared.verifier jti₁) (hfresh₂ : A.Fresh c.world.shared.verifier jti₂)
    (hsign₁ : A.Signs (c.nonceCache.getNonce A.parsedUrl.origin) jti₁)
    (hsign₂ : A.Signs (some (base64urlEncode
      (c.world.shared.nonces.draws c.world.shared.nonces.drawn))) jti₂) :
    Agreement.Completes svc c (Client.sendDpopRequest X (serviceNetwork X svc site clock) c r
      ⟨clock, jti₁⟩ ⟨clock, jti₂⟩) := by
  refine A.send_completes hinner c hjti₁ hjti₂ hfresh₁ hfresh₂ hsign₁ ?_
    (inMemory_handshake A.clock_secs A.now_lt httl hdraws hissue)
  intro s₁ s₂ fresh hrefused hoffer
  obtain ⟨-, hdraws₁, hdrawn₁⟩ := presentNonce_fields c.world.shared.nonces
    (extractDpopNonce (c.nonceCache.getNonce A.parsedUrl.origin)) clock
  rw [hrefused] at hdraws₁ hdrawn₁
  have hcan : s₁.source.CanIssue A.now := hissue s₁ (by simp [issueStates, hrefused, hoffer])
  obtain ⟨s', hissued, -, -⟩ := inMemory_issues A.clock_secs hcan
  have hnonce : fresh = base64urlEncode (s₁.draws s₁.drawn) := by
    simpa using congrArg Prod.fst (hoffer.symm.trans hissued)
  have hdraw : s₁.draws s₁.drawn = c.world.shared.nonces.draws c.world.shared.nonces.drawn := by
    rw [show s₁.draws = _ from hdraws₁, show s₁.drawn = _ from hdrawn₁]
  rw [hnonce, hdraw]
  exact hsign₂

/-- From an empty cache the sample client completes with the status of the inner service. -/
theorem handshake_completes_sample :
    Agreement.Completes (ClientSample.service 200) ClientSample.client
      (Client.sendDpopRequest ClientSample.crates
        (serviceNetwork ClientSample.crates (ClientSample.service 200) ClientSample.site
          ClientSample.clock)
        ClientSample.client ClientSample.request ⟨ClientSample.clock, ClientSample.firstJti⟩
        ⟨ClientSample.clock, ClientSample.secondJti⟩) := by
  refine handshake_completes (ClientSample.agreement 200) (fun _ _ => ⟨_, rfl, rfl⟩)
    ClientSample.client (by decide) (fun _ => rfl) ?_ rfl rfl (ClientSample.fresh_new 200 _)
    (ClientSample.fresh_new 200 _) (ClientSample.signs_first 200)
    (ClientSample.signs_second 200)
  decide

end Skyauth
