import Skyauth.NonceRetry
import Skyauth.Proofs.HandshakeProofs

/-!
# Calls that repeat a request

The three functions are runs of their flows. What the server answers to the first request settles the
call or starts a retry, which takes its nonce from the cache and not from the challenge.
-/

namespace Skyauth

/-! ## The functions as runs of their flows -/

section Flows

variable {R S W : Type} {X : Crates} {net : Network W} {c : Client W} {parsedUrl : Url}
  {draw first second : AttemptDraw}

theorem NonceFlow.retry_map (f : NonceFlow R) (g : R → S) (status : Nat) :
    (f.map g).retry net c parsedUrl status draw =
      (f.retry net c parsedUrl status draw).map (Except.map g) id := by
  simp only [NonceFlow.retry, NonceFlow.exchange, NonceFlow.map]
  repeat' split
  all_goals rfl

theorem NonceFlow.acceptFirst_map (f : NonceFlow R) (g : R → S) (resp : Response WireBody) :
    (f.map g).acceptFirst net c parsedUrl resp draw =
      (f.acceptFirst net c parsedUrl resp draw).map (Except.map g) id := by
  have hfirst : (f.map g).first resp = (f.first resp).map (Except.map g) := rfl
  rw [NonceFlow.acceptFirst, NonceFlow.acceptFirst, hfirst, NonceFlow.retry_map]
  cases f.first resp with
  | none => rfl
  | some answer => rfl

theorem NonceFlow.run_map (f : NonceFlow R) (g : R → S) :
    (f.map g).run X net c first second =
      (f.run X net c first second).map (Except.map g) id := by
  simp only [NonceFlow.run, NonceFlow.acceptFirst_map]
  simp only [NonceFlow.exchange, NonceFlow.map]
  repeat' split
  all_goals rfl

theorem DpopRequest.retry_flow (r : DpopRequest) (status : Nat) :
    (r.flow X).retry net c parsedUrl status draw =
      Client.retry X net c r parsedUrl status draw.proof := by
  simp only [NonceFlow.retry, NonceFlow.exchange, Client.retry, Client.transmit, DpopRequest.flow]
  cases c.nonceCache.getNonce parsedUrl.origin with
  | none => rfl
  | some nonce =>
    simp only
    cases r.proof X (some nonce) draw.proof with
    | error e => rfl
    | ok proof => rfl

theorem DpopRequest.acceptFirst_flow (r : DpopRequest) (resp : Response WireBody) :
    (r.flow X).acceptFirst net c parsedUrl resp draw =
      Client.acceptFirst X net c r parsedUrl resp draw.proof := by
  simp only [NonceFlow.acceptFirst, Client.acceptFirst, DpopRequest.retry_flow]
  simp only [DpopRequest.flow]
  by_cases hstatus : mayChallenge resp.status = true
  · simp only [hstatus, if_true]
    rcases classify X resp with e | (_ | rebuilt) <;> rfl
  · simp only [hstatus]
    cases requireDpopNonce resp.headers <;> rfl

/-- `send_dpop_request` is the run of its flow. -/
theorem DpopRequest.run_flow (r : DpopRequest) :
    (r.flow X).run X net c first second = c.sendDpopRequest X net r first.proof second.proof := by
  simp only [NonceFlow.run, DpopRequest.acceptFirst_flow, Client.sendDpopRequest]
  simp only [NonceFlow.exchange, Client.transmit, DpopRequest.flow]
  cases X.urlParse r.urlStr with
  | error e => rfl
  | ok parsedUrl =>
    simp only
    rcases net.buildPinnedClient c.world parsedUrl with ⟨e | hostHeader, world⟩
    · rfl
    · simp only
      cases r.proof X (c.nonceCache.getNonce parsedUrl.origin) first.proof with
      | error e => rfl
      | ok proof => rfl

theorem FormPost.retry_flow (r : FormPost R) (status : Nat) :
    (r.flow X).retry net c parsedUrl status draw = r.retry X net c parsedUrl status draw := by
  simp only [NonceFlow.retry, NonceFlow.exchange, FormPost.retry, FormPost.exchange, FormPost.proof,
    FormPost.flow]
  cases c.nonceCache.getNonce parsedUrl.origin with
  | none => rfl
  | some nonce =>
    simp only
    cases (r.dpopKey.createProof X "POST" r.endpoint (some nonce) none draw.proof.clock
        draw.proof.jtiBytes).mapError AtprotoOAuthError.dpop with
    | error e => rfl
    | ok proof =>
      simp only
      cases r.body draw.assertion with
      | error e => rfl
      | ok bodyBytes => rfl

theorem FormPost.acceptFirst_flow (r : FormPost R) (resp : Response WireBody) :
    (r.flow X).acceptFirst net c parsedUrl resp draw = r.acceptFirst X net c parsedUrl resp draw := by
  simp only [NonceFlow.acceptFirst, FormPost.acceptFirst, FormPost.retry_flow]
  simp only [FormPost.flow]
  split_ifs with hredirect hsuccess
  · rfl
  · rfl
  · cases readBoundedJson X resp with
    | error e => rfl
    | ok json =>
      simp only
      split_ifs
      · rfl
      · rfl

/-- Posting a form is the run of its flow. -/
theorem FormPost.run_flow (r : FormPost R) :
    (r.flow X).run X net c first second = r.run X net c first second := by
  simp only [NonceFlow.run, FormPost.acceptFirst_flow, FormPost.run]
  simp only [NonceFlow.exchange, FormPost.exchange, FormPost.proof, FormPost.flow]
  cases X.urlParse r.endpoint with
  | error e => rfl
  | ok parsedUrl =>
    simp only
    rcases net.buildPinnedClient c.world parsedUrl with ⟨e | hostHeader, world⟩
    · rfl
    · simp only
      cases r.body first.assertion with
      | error e => rfl
      | ok bodyBytes => rfl

/-- Every call is the run of its flow. -/
theorem NonceCall.send_eq_run (call : NonceCall) :
    call.send X net c first second = (call.flow X).run X net c first second := by
  cases call with
  | request r => rw [NonceCall.flow, NonceFlow.run_map, DpopRequest.run_flow]; rfl
  | token r => rw [NonceCall.flow, NonceFlow.run_map, FormPost.run_flow]; rfl
  | par parEndpoint params dpopKey clientAuth =>
    rw [NonceCall.flow, NonceFlow.run_map, FormPost.run_flow]; rfl

end Flows

/-! ## Challenges -/

theorem DpopRequest.first_flow_eq_none {X : Crates} {r : DpopRequest} {resp : Response WireBody} :
    (r.flow X).first resp = none ↔ mayChallenge resp.status = true ∧
      (isRsDpopNonceChallenge resp.headers = true ∨ bodyAsksForNonce X resp = true) := by
  simp only [DpopRequest.flow, classify, bodyAsksForNonce, readBoundedJson]
  by_cases hstatus : mayChallenge resp.status = true
  · simp only [hstatus, if_true, true_and]
    by_cases hheader : isRsDpopNonceChallenge resp.headers = true
    · simp [hheader]
    · cases resp.body.readBoundedBody MAX_OAUTH_RESPONSE_BYTES with
      | error e => simp [hheader, Except.map]
      | ok bytes =>
        by_cases hbody : isUseDpopNonceError (X.jsonFromSlice bytes).toOption = true
        · simp [hheader, hbody, Except.map]
        · simp [hheader, hbody, Except.map]
  · simp [hstatus]

theorem not_challenge_of_success_or_redirection {status : Nat}
    (h : isRedirection status = true ∨ isSuccess status = true) : mayChallenge status = false := by
  simp only [isRedirection, isSuccess, mayChallenge, Bool.and_eq_true, decide_eq_true_eq] at h ⊢
  simp only [Bool.or_eq_false_iff, beq_eq_false_iff_ne]
  omega

theorem FormPost.first_flow_eq_none {R : Type} {X : Crates} {r : FormPost R}
    {resp : Response WireBody} :
    (r.flow X).first resp = none ↔
      mayChallenge resp.status = true ∧ bodyAsksForNonce X resp = true := by
  simp only [FormPost.flow, bodyAsksForNonce]
  split_ifs with hredirect hsuccess
  · simp [not_challenge_of_success_or_redirection (Or.inl hredirect)]
  · simp [not_challenge_of_success_or_redirection (Or.inr hsuccess)]
  · cases readBoundedJson X resp with
    | error e => simp
    | ok json => simp [Bool.and_eq_true]

theorem DpopRequest.proof_flow {X : Crates} {r : DpopRequest} (nonce : Option String)
    (draw : ProofDraw) : (r.flow X).proof nonce draw = (r.proof X nonce draw).mapError .dpop := rfl

/-- What the first response leaves open is what the call takes for a challenge. -/
theorem NonceCall.first_eq_none {X : Crates} {call : NonceCall} {resp : Response WireBody} :
    (call.flow X).first resp = none ↔ call.isChallenge X resp = true := by
  cases call <;>
    simp only [NonceCall.flow, NonceFlow.map, Option.map_eq_none_iff, DpopRequest.first_flow_eq_none,
      FormPost.first_flow_eq_none, NonceCall.isChallenge, Bool.and_eq_true, Bool.or_eq_true]

theorem DpopRequest.first_eq_none {X : Crates} {r : DpopRequest} {resp : Response WireBody} :
    (r.flow X).first resp = none ↔ (NonceCall.request r).isChallenge X resp = true := by
  rw [← NonceCall.first_eq_none]
  exact Option.map_eq_none_iff.symm

/-! ## Answered requests -/

section Answers

variable {R W : Type} {X : Crates} {net : Network W} {f : NonceFlow R} {c : Client W}
  {parsedUrl : Url} {draw first : AttemptDraw} {request : ClientRequest}
  {resp : Response WireBody} {world : W}

/-- The client after a response. -/
def Client.after (c : Client W) (origin : String) (request : ClientRequest)
    (resp : Response WireBody) (world : W) : Client W where
  nonceCache := c.nonceCache.learn origin resp.headers
  world := world
  sent := c.sent ++ [request]

/-- The first attempt of the flow sends this request and gets this response. -/
structure NonceFlow.Answered (X : Crates) (net : Network W) (f : NonceFlow R) (c : Client W)
    (draw : AttemptDraw) (parsedUrl : Url) (request : ClientRequest) (resp : Response WireBody)
    (world : W) : Prop where
  parse : X.urlParse f.urlStr = .ok parsedUrl
  exchanged : ∃ hostHeader pinned draft proof,
    net.buildPinnedClient c.world parsedUrl = (.ok hostHeader, pinned) ∧
    f.draft draw.assertion = .ok draft ∧
    f.proof (c.nonceCache.getNonce parsedUrl.origin) draw.proof = .ok proof ∧
    draft hostHeader proof = .ok request ∧
    net.send pinned request = (.ok resp, world)

/-- The retry of the flow in this state of the client sends this request. -/
def NonceFlow.Repeats (net : Network W) (f : NonceFlow R) (c : Client W) (draw : AttemptDraw)
    (parsedUrl : Url) (request : ClientRequest) (world : W) : Prop :=
  ∃ nonce proof draft hostHeader,
    c.nonceCache.getNonce parsedUrl.origin = some nonce ∧
    f.proof (some nonce) draw.proof = .ok proof ∧
    f.draft draw.assertion = .ok draft ∧
    net.buildPinnedClient c.world parsedUrl = (.ok hostHeader, world) ∧
    draft hostHeader proof = .ok request

theorem NonceFlow.Answered.map {S : Type} (g : R → S)
    (h : f.Answered X net c draw parsedUrl request resp world) :
    (f.map g).Answered X net c draw parsedUrl request resp world := ⟨h.parse, h.exchanged⟩

theorem NonceFlow.Answered.run_eq (h : f.Answered X net c first parsedUrl request resp world)
    (second : AttemptDraw) :
    f.run X net c first second =
      f.acceptFirst net (c.after parsedUrl.origin request resp world) parsedUrl resp second := by
  obtain ⟨hparse, hostHeader, pinned, draft, proof, hpin, hdraft, hproof, hbuild, hsend⟩ := h
  simp only [NonceFlow.run, hparse, hpin, hdraft, hproof, NonceFlow.exchange, hbuild, hsend,
    Client.after]

theorem NonceFlow.Answered.run_settled (h : f.Answered X net c first parsedUrl request resp world)
    (second : AttemptDraw) {answer : Except AtprotoOAuthError R}
    (hfirst : f.first resp = some answer) :
    f.run X net c first second = (answer, c.after parsedUrl.origin request resp world) := by
  rw [h.run_eq, NonceFlow.acceptFirst, hfirst]

theorem NonceFlow.Answered.run_challenged
    (h : f.Answered X net c first parsedUrl request resp world) (second : AttemptDraw)
    (hfirst : f.first resp = none) :
    f.run X net c first second =
      f.retry net (c.after parsedUrl.origin request resp world) parsedUrl resp.status second := by
  rw [h.run_eq, NonceFlow.acceptFirst, hfirst]

/-- Why a retry cannot be made: no nonce is known, or the proof, the body, the connection or a header
    fails. -/
theorem NonceFlow.not_repeats_iff :
    (¬ ∃ request world, f.Repeats net c draw parsedUrl request world) ↔
      c.nonceCache.getNonce parsedUrl.origin = none ∨
      ∃ nonce, c.nonceCache.getNonce parsedUrl.origin = some nonce ∧
        ((∃ e, f.proof (some nonce) draw.proof = .error e) ∨ (∃ e, f.draft draw.assertion = .error e) ∨
        (∃ e world, net.buildPinnedClient c.world parsedUrl = (.error e, world)) ∨
        ∃ proof draft hostHeader world e, f.proof (some nonce) draw.proof = .ok proof ∧
          f.draft draw.assertion = .ok draft ∧
          net.buildPinnedClient c.world parsedUrl = (.ok hostHeader, world) ∧
          draft hostHeader proof = .error e) := by
  unfold NonceFlow.Repeats
  cases c.nonceCache.getNonce parsedUrl.origin with
  | none => simp
  | some nonce =>
    cases hproof : f.proof (some nonce) draw.proof with
    | error e => simp [hproof]
    | ok proof =>
      cases f.draft draw.assertion with
      | error e => simp
      | ok draft =>
        rcases net.buildPinnedClient c.world parsedUrl with ⟨e | hostHeader, world⟩
        · simp
        · cases hbuild : draft hostHeader proof with
          | error e => simp [hproof, hbuild]
          | ok request => simp [hproof, hbuild]

/-- A retry that cannot be made ends in an error, with nothing sent. -/
theorem NonceFlow.retry_of_not_repeats {status : Nat}
    (h : ¬ ∃ request world, f.Repeats net c draw parsedUrl request world) :
    (∃ e, (f.retry net c parsedUrl status draw).1 = .error e) ∧
      (f.retry net c parsedUrl status draw).2.sent = c.sent := by
  cases hnonce : c.nonceCache.getNonce parsedUrl.origin with
  | none => simp [NonceFlow.retry, hnonce]
  | some nonce =>
    cases hproof : f.proof (some nonce) draw.proof with
    | error e => simp [NonceFlow.retry, hnonce, hproof]
    | ok proof =>
      cases hdraft : f.draft draw.assertion with
      | error e => simp [NonceFlow.retry, hnonce, hproof, hdraft]
      | ok draft =>
        rcases hpin : net.buildPinnedClient c.world parsedUrl with ⟨e | hostHeader, world⟩
        · simp [NonceFlow.retry, hnonce, hproof, hdraft, hpin]
        · cases hbuild : draft hostHeader proof with
          | error e =>
            simp [NonceFlow.retry, hnonce, hproof, hdraft, hpin, NonceFlow.exchange, hbuild]
          | ok request =>
            exact absurd ⟨request, world, nonce, proof, draft, hostHeader, hnonce, hproof, hdraft,
              hpin, hbuild⟩ h

/-- A retry that is sent and fails on the way. -/
theorem NonceFlow.Repeats.failed {status : Nat} {e : String} {world' : W}
    (h : f.Repeats net c draw parsedUrl request world)
    (hsend : net.send world request = (.error e, world')) :
    f.retry net c parsedUrl status draw =
      (.error (f.http e), { c with world := world', sent := c.sent ++ [request] }) := by
  obtain ⟨nonce, proof, draft, hostHeader, hnonce, hproof, hdraft, hpin, hbuild⟩ := h
  simp only [NonceFlow.retry, hnonce, hproof, hdraft, hpin, NonceFlow.exchange, hbuild, hsend]

/-- A retry that is answered returns what the flow makes of the answer. -/
theorem NonceFlow.Repeats.answered {status : Nat} {world' : W}
    (h : f.Repeats net c draw parsedUrl request world)
    (hsend : net.send world request = (.ok resp, world')) :
    f.retry net c parsedUrl status draw =
      (f.second resp, c.after parsedUrl.origin request resp world') := by
  obtain ⟨nonce, proof, draft, hostHeader, hnonce, hproof, hdraft, hpin, hbuild⟩ := h
  simp only [NonceFlow.retry, hnonce, hproof, hdraft, hpin, NonceFlow.exchange, hbuild, hsend,
    Client.after]

/-- A retry that can be made is sent. -/
theorem NonceFlow.Repeats.sent {status : Nat}
    (h : f.Repeats net c draw parsedUrl request world) :
    (f.retry net c parsedUrl status draw).2.sent = c.sent ++ [request] := by
  rcases hsend : net.send world request with ⟨e | resp, world'⟩
  · rw [h.failed hsend]
  · rw [h.answered hsend, Client.after]

/-- A response without a nonce leaves the cache as it was. -/
theorem DPoPNonceCache.learn_of_none {cache : DPoPNonceCache} {origin : String} {headers : HeaderMap}
    (h : extractDpopNonce (headerText headers "dpop-nonce") = none) :
    cache.learn origin headers = cache := by
  rw [DPoPNonceCache.learn, h]

end Answers

/-! ## Challenges without a nonce -/

/-- A challenge without a nonce ends the call without a second request if and only if the cache had no
    nonce for the origin before the call, or no request can be made with the nonce it had: the proof with
    it or the body fails, no second connection is made, or a header is illegal. -/
theorem bare_challenge_not_retried_iff {W : Type} {X : Crates} {net : Network W} {c : Client W}
    {call : NonceCall} {first second : AttemptDraw} {parsedUrl : Url} {request : ClientRequest}
    {resp : Response WireBody} {world : W}
    (h : (call.flow X).Answered X net c first parsedUrl request resp world)
    (hchallenge : call.isChallenge X resp = true)
    (hbare : extractDpopNonce (headerText resp.headers "dpop-nonce") = none) :
    ((∃ e, (call.send X net c first second).1 = .error e) ∧
        (call.send X net c first second).2.sent = c.sent ++ [request]) ↔
      c.nonceCache.getNonce parsedUrl.origin = none ∨
      ∃ nonce, c.nonceCache.getNonce parsedUrl.origin = some nonce ∧
        ((∃ e, (call.flow X).proof (some nonce) second.proof = .error e) ∨
        (∃ e, (call.flow X).draft second.assertion = .error e) ∨
        (∃ e world', net.buildPinnedClient world parsedUrl = (.error e, world')) ∨
        ∃ proof draft hostHeader world' e, (call.flow X).proof (some nonce) second.proof = .ok proof ∧
          (call.flow X).draft second.assertion = .ok draft ∧
          net.buildPinnedClient world parsedUrl = (.ok hostHeader, world') ∧
          draft hostHeader proof = .error e) := by
  have hrun := h.run_challenged second (NonceCall.first_eq_none.2 hchallenge)
  have hcache : (c.after parsedUrl.origin request resp world).nonceCache = c.nonceCache :=
    DPoPNonceCache.learn_of_none hbare
  -- The retry reads only the cache and the world, and the cache is the one before the call.
  have hcannot : (¬ ∃ request' world', (call.flow X).Repeats net
      (c.after parsedUrl.origin request resp world) second parsedUrl request' world') ↔ _ :=
    NonceFlow.not_repeats_iff
  rw [hcache] at hcannot
  refine Iff.trans ?_ hcannot
  rw [NonceCall.send_eq_run, hrun]
  constructor
  · rintro ⟨-, hsent⟩ ⟨request', world', hrepeat⟩
    rw [hrepeat.sent] at hsent
    have := congrArg List.length hsent
    simp [Client.after] at this
  · intro hnot
    exact NonceFlow.retry_of_not_repeats hnot

/-! ### A server with a script -/

/-- A server that gives these responses, one to each request. -/
def scriptedNetwork (hostHeader : String) : Network (List (Response WireBody)) where
  buildPinnedClient := fun script _ => (.ok hostHeader, script)
  send := fun script _ =>
    match script with
    | [] => (.error "connection closed before message completed", [])
    | resp :: rest => (.ok resp, rest)

namespace ClientSample

def scripted : Network (List (Response WireBody)) := scriptedNetwork "pds.example.com"

/-- A client with these nonces, before a server with this script. -/
def facing (nonceCache : DPoPNonceCache) (script : List (Response WireBody)) :
    Client (List (Response WireBody)) where
  nonceCache := nonceCache
  world := script
  sent := []

/-- A challenge that brings no nonce. -/
def bareChallenge : Response WireBody where
  status := 401
  headers := HeaderMap.insertStr [] "www-authenticate" "DPoP error=\"use_dpop_nonce\""
  body := default

/-- An answer with this status and the nonce. -/
def answer (status : Nat) : Response WireBody where
  status := status
  headers := HeaderMap.insertStr [] "dpop-nonce" nonce
  body := default

theorem isCarried_nonce : IsCarried nonce := isCarried_encode (by decide)

def draw (jtiBytes : List UInt8) : AttemptDraw := ⟨⟨clock, jtiBytes⟩, ⟨clock, jtiBytes⟩⟩

theorem bareChallenge_spec (X : Crates) :
    (NonceCall.request request).isChallenge X bareChallenge = true ∧
      extractDpopNonce (headerText bareChallenge.headers "dpop-nonce") = none := by
  have hheader : isRsDpopNonceChallenge bareChallenge.headers = true := by rfl
  have hbare : headerText bareChallenge.headers "dpop-nonce" = none := by rfl
  refine ⟨?_, by rw [hbare]; rfl⟩
  simp only [NonceCall.isChallenge, hheader, Bool.true_or, Bool.and_true]
  rfl

/-- The proof without a nonce is made, and the server gives its first response to it. -/
theorem answered_first (resp : Response WireBody) (rest : List (Response WireBody)) :
    ∃ req, (request.flow crates).Answered crates scripted (facing ⟨∅⟩ (resp :: rest))
      (draw firstJti) parsedUrl req resp rest := by
  obtain ⟨proof, req, hproof, hbuild, -⟩ := (agreement 200).attempt rfl (signs_first 200)
  have hnone : (facing ⟨∅⟩ (resp :: rest)).nonceCache.getNonce parsedUrl.origin = none :=
    AList.lookup_empty _
  refine ⟨req, urlParse_url, "pds.example.com", resp :: rest, request.build, proof, rfl, rfl, ?_,
    hbuild, rfl⟩
  rw [hnone, DpopRequest.proof_flow, draw, hproof]
  rfl

/-- After a challenge with the nonce, the proof with the nonce is made. -/
theorem repeats_second (req : ClientRequest) (script rest : List (Response WireBody)) :
    ∃ req', (request.flow crates).Repeats scripted
      ((facing ⟨∅⟩ script).after parsedUrl.origin req (nonceChallenge nonce) rest) (draw secondJti)
      parsedUrl req' rest := by
  obtain ⟨proof, req', hproof, hbuild, -⟩ := (agreement 200).attempt rfl (signs_second 200)
  refine ⟨req', nonce, proof, request.build, "pds.example.com",
    getNonce_learn_challenge isCarried_nonce _ _, ?_, rfl, rfl, hbuild⟩
  rw [DpopRequest.proof_flow, draw, hproof]
  rfl

/-- A third proof, with the nonce. -/
def thirdJti : List UInt8 := List.replicate 16 2

def thirdPayloadStr : String :=
  "\x7b\"ath\":\"" ++ (payloadStart ++ (base64urlEncode thirdJti ++
    ("\",\"nonce\":\"" ++ (nonce ++ "\"\x7d"))))

def thirdSignature : List UInt8 :=
  [199, 206, 2, 206, 82, 253, 41, 224, 232, 114, 247, 219, 244, 186, 239, 33, 214, 45, 154, 196, 177,
    239, 238, 245, 169, 247, 66, 74, 9, 102, 184, 171, 93, 219, 143, 94, 86, 10, 231, 14, 95, 113, 31,
    243, 233, 72, 29, 255, 196, 118, 11, 56, 226, 7, 143, 208, 182, 160, 55, 34, 201, 30, 159, 8]

/-- The external functions, with the printing and signing of the third proof. -/
def repeating : Crates where
  __ := crates
  jsonToString := fun j =>
    if (j.get "jti").bind Json.asStr = some (base64urlEncode thirdJti) then .ok thirdPayloadStr
    else print j
  ecdsaSign := fun _ message =>
    if message = Text.asBytes (signingInput (Text.asBytes headerStr) (Text.asBytes thirdPayloadStr))
    then thirdSignature else sign message

/-- Every proof of the request is made and sent. -/
theorem build_repeating (nonce : Option String) (jtiBytes : List UInt8) :
    ∃ proof req, (request.flow repeating).proof nonce ⟨clock, jtiBytes⟩ = .ok proof ∧
      request.build "pds.example.com" proof = .ok req := by
  have hprint (j : Json) : ∃ text, repeating.jsonToString j = .ok text := by
    simp only [repeating, print]
    repeat' split
    all_goals exact ⟨_, rfl⟩
  have hsign (message : List UInt8) : ∃ signature,
      signP256Raw repeating request.dpopKey.signingKey message = .ok signature := by
    refine ⟨_, if_neg (not_not.2 ?_)⟩
    simp only [repeating]
    split
    · rfl
    · exact length_sign _
  have hclock : clock.unixSecs = .ok iatSecs := SystemTime.unixSecs_ofSecs _
  have hhtu : normalizeHtu repeating request.urlStr = .ok url := by rfl
  obtain ⟨headerStr, hheader⟩ := hprint (proofHeader (request.dpopKey.publicJwk repeating))
  obtain ⟨payloadStr, hpayload⟩ := hprint (proofPayload (base64urlEncode jtiBytes)
    (repeating.toUppercase (Text.trim request.method)) url nonce
    (request.accessToken.map (computeAccessTokenHash repeating)) iatSecs)
  obtain ⟨signature, hsigned⟩ := hsign (Text.asBytes (base64urlEncode (Text.asBytes headerStr) ++ "." ++
    base64urlEncode (Text.asBytes payloadStr)))
  obtain ⟨proof, hproof⟩ : ∃ proof, request.proof repeating nonce ⟨clock, jtiBytes⟩ = .ok proof := by
    simp only [DpopRequest.proof, DPoPKey.createProof, DPoPKey.createProofInternal, hclock, hhtu,
      Option.getD_none, hheader, hpayload, hsigned]
    exact ⟨_, rfl⟩
  obtain ⟨headers, hbuild, -⟩ := build_legal (agreement 200).legal
    (isPrintable_of_visible (visible_createProof hproof))
  exact ⟨proof, _, by rw [DpopRequest.proof_flow, hproof]; rfl, hbuild⟩

/-- A client that has the nonce already. -/
def remembering : Client (List (Response WireBody)) :=
  facing (DPoPNonceCache.setNonce ⟨∅⟩ parsedUrl.origin nonce) [bareChallenge, answer 200]

theorem getNonce_remembering : remembering.nonceCache.getNonce parsedUrl.origin = some nonce :=
  AList.lookup_insert _

end ClientSample

/-- With a nonce in the cache, a challenge that brings none is answered with a second request. -/
theorem stale_nonce_retried :
    (NonceCall.request ClientSample.request).isChallenge ClientSample.repeating
        ClientSample.bareChallenge = true ∧
      extractDpopNonce (headerText ClientSample.bareChallenge.headers "dpop-nonce") = none ∧
      ((NonceCall.request ClientSample.request).send ClientSample.repeating ClientSample.scripted
        ClientSample.remembering (ClientSample.draw ClientSample.secondJti)
        (ClientSample.draw ClientSample.thirdJti)).2.sent.length = 2 := by
  obtain ⟨hchallenge, hbare⟩ := ClientSample.bareChallenge_spec ClientSample.repeating
  refine ⟨hchallenge, hbare, ?_⟩
  obtain ⟨proof₁, req₁, hproof₁, hbuild₁⟩ := ClientSample.build_repeating (some ClientSample.nonce)
    ClientSample.secondJti
  obtain ⟨proof₂, req₂, hproof₂, hbuild₂⟩ := ClientSample.build_repeating (some ClientSample.nonce)
    ClientSample.thirdJti
  have hanswered : (ClientSample.request.flow ClientSample.repeating).Answered ClientSample.repeating
      ClientSample.scripted ClientSample.remembering (ClientSample.draw ClientSample.secondJti)
      ClientSample.parsedUrl req₁ ClientSample.bareChallenge [ClientSample.answer 200] := by
    refine ⟨ClientSample.urlParse_url, _, _, ClientSample.request.build, proof₁, rfl, rfl, ?_, hbuild₁,
      rfl⟩
    rw [ClientSample.getNonce_remembering]
    exact hproof₁
  have hrepeat : (ClientSample.request.flow ClientSample.repeating).Repeats ClientSample.scripted
      (ClientSample.remembering.after ClientSample.parsedUrl.origin req₁ ClientSample.bareChallenge
        [ClientSample.answer 200]) (ClientSample.draw ClientSample.thirdJti) ClientSample.parsedUrl req₂
      [ClientSample.answer 200] := by
    refine ⟨ClientSample.nonce, proof₂, ClientSample.request.build, _, ?_, hproof₂, rfl, rfl, hbuild₂⟩
    rw [Client.after, DPoPNonceCache.learn_of_none hbare]
    exact ClientSample.getNonce_remembering
  have hrun := hanswered.run_challenged (ClientSample.draw ClientSample.thirdJti)
    (DpopRequest.first_eq_none.2 hchallenge)
  rw [NonceCall.send_eq_run, NonceCall.flow, NonceFlow.run_map, hrun]
  rw [Prod.map_snd, id, hrepeat.sent]
  rfl

/-- From an empty cache the same challenge ends the call. -/
theorem bare_challenge_not_retried_sample :
    ∃ req, (∃ e, ((NonceCall.request ClientSample.request).send ClientSample.crates
        ClientSample.scripted (ClientSample.facing ⟨∅⟩ [ClientSample.bareChallenge])
        (ClientSample.draw ClientSample.firstJti) (ClientSample.draw ClientSample.secondJti)).1 =
          .error e) ∧
      ((NonceCall.request ClientSample.request).send ClientSample.crates
        ClientSample.scripted (ClientSample.facing ⟨∅⟩ [ClientSample.bareChallenge])
        (ClientSample.draw ClientSample.firstJti) (ClientSample.draw ClientSample.secondJti)).2.sent =
          [req] := by
  obtain ⟨req, hreq⟩ := ClientSample.answered_first ClientSample.bareChallenge []
  obtain ⟨hchallenge, hbare⟩ := ClientSample.bareChallenge_spec ClientSample.crates
  have hunknown : (ClientSample.facing ⟨∅⟩ [ClientSample.bareChallenge]).nonceCache.getNonce
      ClientSample.parsedUrl.origin = none := AList.lookup_empty _
  exact ⟨req, (bare_challenge_not_retried_iff (hreq.map NonceReply.response) hchallenge hbare).2
    (.inl hunknown)⟩

/-! ## The two places of a response -/

/-- What is made of a response that is no challenge differs between the two attempts only where the
    first asks for a nonce that the retry does not ask for. -/
theorem DpopRequest.first_eq_second_iff {X : Crates} {r : DpopRequest} {resp : Response WireBody}
    (h : (NonceCall.request r).isChallenge X resp = false) :
    ∃ answer, (r.flow X).first resp = some answer ∧
      (answer = (r.flow X).second resp ↔ mayChallenge resp.status = true ∨
        isSuccess resp.status = true ∨ requireDpopNonce resp.headers = .ok ()) := by
  obtain ⟨answer, hanswer⟩ : ∃ answer, (r.flow X).first resp = some answer := by
    refine Option.ne_none_iff_exists'.1 fun hnone => ?_
    rw [DpopRequest.first_eq_none.1 hnone] at h
    cases h
  refine ⟨answer, hanswer, ?_⟩
  simp only [DpopRequest.flow, Client.acceptRetry] at hanswer ⊢
  by_cases hstatus : mayChallenge resp.status = true
  · -- both attempts classify a 400 or 401 in the same way
    simp only [hstatus, if_true, true_or, iff_true] at hanswer ⊢
    rcases hclass : classify X resp with e | (_ | rebuilt)
    · simp only [hclass, Option.some.injEq] at hanswer
      exact hanswer.symm
    · simp [hclass] at hanswer
    · simp only [hclass, Option.some.injEq] at hanswer
      exact hanswer.symm
  · simp only [hstatus, if_false, Option.some.injEq, false_or, Bool.false_eq_true] at hanswer ⊢
    subst hanswer
    cases hrequire : requireDpopNonce resp.headers with
    | error e =>
      by_cases hsuccess : isSuccess resp.status = true
      · simp [hsuccess, Fallible.mapError_error, Except.map]
      · simp [hsuccess, Fallible.mapError_error, Except.map]
    | ok _ =>
      by_cases hsuccess : isSuccess resp.status = true
      · simp [hsuccess, Fallible.mapError_ok, Except.map]
      · simp [hsuccess, Fallible.mapError_ok, Except.map]

/-- A response that is no challenge has the same outcome as an answer to the first request and as an
    answer to the retry if and only if its status is 400, 401 or a success, or it carries a nonce. -/
theorem first_and_retry_agree_iff {W W' : Type} {X : Crates} {r : DpopRequest}
    {resp challenge : Response WireBody} {net : Network W} {net' : Network W'} {c : Client W}
    {c' : Client W'} {first second first' second' : AttemptDraw} {parsedUrl parsedUrl' : Url}
    {request request₁ request₂ : ClientRequest} {world : W} {world₁ world₂ world₃ : W'}
    (hother : (NonceCall.request r).isChallenge X resp = false)
    (hfirst : (r.flow X).Answered X net c first parsedUrl request resp world)
    (hasked : (r.flow X).Answered X net' c' first' parsedUrl' request₁ challenge world₁)
    (hchallenge : (NonceCall.request r).isChallenge X challenge = true)
    (hrepeat : (r.flow X).Repeats net' (c'.after parsedUrl'.origin request₁ challenge world₁) second'
      parsedUrl' request₂ world₂)
    (hretry : net'.send world₂ request₂ = (.ok resp, world₃)) :
    (c.sendDpopRequest X net r first.proof second.proof).1 =
        (c'.sendDpopRequest X net' r first'.proof second'.proof).1 ↔
      mayChallenge resp.status = true ∨ isSuccess resp.status = true ∨
        requireDpopNonce resp.headers = .ok () := by
  obtain ⟨answer, hanswer, hiff⟩ := DpopRequest.first_eq_second_iff hother
  have hopen : (r.flow X).first challenge = none :=
    DpopRequest.first_eq_none.2 hchallenge
  rw [← DpopRequest.run_flow, ← DpopRequest.run_flow, hfirst.run_settled _ hanswer,
    hasked.run_challenged _ hopen, hrepeat.answered hretry]
  exact hiff

namespace ClientSample

/-- A failure of the server, without a nonce. -/
def failure : Response WireBody where
  status := 500
  headers := []
  body := default

theorem isChallenge_nonceChallenge :
    (NonceCall.request request).isChallenge crates (nonceChallenge nonce) = true := by
  have hheader : isRsDpopNonceChallenge (nonceChallenge nonce).headers = true :=
    (nonceChallenge_spec isCarried_nonce.printable).1
  simp only [NonceCall.isChallenge, hheader, Bool.true_or, Bool.and_true]
  rfl

end ClientSample

/-- A failure of the server without a nonce is an error as the first answer, and is returned as the
    answer to the retry. -/
theorem failure_kept_by_retry_only :
    (NonceCall.request ClientSample.request).isChallenge ClientSample.crates ClientSample.failure =
        false ∧
      (Client.sendDpopRequest ClientSample.crates ClientSample.scripted
        (ClientSample.facing ⟨∅⟩ [ClientSample.failure]) ClientSample.request
        (ClientSample.draw ClientSample.firstJti).proof
        (ClientSample.draw ClientSample.secondJti).proof).1 =
          .error (.dpop .responseMissingDpopNonce) ∧
      (Client.sendDpopRequest ClientSample.crates ClientSample.scripted
        (ClientSample.facing ⟨∅⟩ [nonceChallenge ClientSample.nonce, ClientSample.failure])
        ClientSample.request (ClientSample.draw ClientSample.firstJti).proof
        (ClientSample.draw ClientSample.secondJti).proof).1 = .ok ClientSample.failure := by
  obtain ⟨req, hfirst⟩ := ClientSample.answered_first ClientSample.failure []
  obtain ⟨req₁, hasked⟩ := ClientSample.answered_first (nonceChallenge ClientSample.nonce)
    [ClientSample.failure]
  obtain ⟨req₂, hrepeat⟩ := ClientSample.repeats_second req₁ [nonceChallenge ClientSample.nonce,
    ClientSample.failure] [ClientSample.failure]
  have hopen : (ClientSample.request.flow ClientSample.crates).first
      (nonceChallenge ClientSample.nonce) = none :=
    DpopRequest.first_eq_none.2 ClientSample.isChallenge_nonceChallenge
  refine ⟨rfl, ?_, ?_⟩
  · rw [← DpopRequest.run_flow, hfirst.run_settled _ rfl]
    rfl
  · rw [← DpopRequest.run_flow, hasked.run_challenged _ hopen, hrepeat.answered rfl]
    rfl

/-- A 404 with a nonce has the same outcome in both places. -/
theorem first_and_retry_agree_sample :
    (Client.sendDpopRequest ClientSample.crates ClientSample.scripted
        (ClientSample.facing ⟨∅⟩ [ClientSample.answer 404]) ClientSample.request
        (ClientSample.draw ClientSample.firstJti).proof
        (ClientSample.draw ClientSample.secondJti).proof).1 =
      (Client.sendDpopRequest ClientSample.crates ClientSample.scripted
        (ClientSample.facing ⟨∅⟩ [nonceChallenge ClientSample.nonce, ClientSample.answer 404])
        ClientSample.request (ClientSample.draw ClientSample.firstJti).proof
        (ClientSample.draw ClientSample.secondJti).proof).1 := by
  obtain ⟨req, hfirst⟩ := ClientSample.answered_first (ClientSample.answer 404) []
  obtain ⟨req₁, hasked⟩ := ClientSample.answered_first (nonceChallenge ClientSample.nonce)
    [ClientSample.answer 404]
  obtain ⟨req₂, hrepeat⟩ := ClientSample.repeats_second req₁ [nonceChallenge ClientSample.nonce,
    ClientSample.answer 404] [ClientSample.answer 404]
  have hnonce : requireDpopNonce (ClientSample.answer 404).headers = .ok () :=
    requireDpopNonce_insertStr ClientSample.isCarried_nonce []
  exact (first_and_retry_agree_iff rfl hfirst hasked ClientSample.isChallenge_nonceChallenge hrepeat
    rfl).2 (Or.inr (Or.inr hnonce))

end Skyauth
