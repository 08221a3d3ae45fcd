import Skyauth.TokenEndpoint

/-!
# Proofs: what is sent to an authorization server

Every request that posting a form sends is one of its attempts: it goes to the endpoint of the form,
its body is the body of the form, and its proof is signed with the key of the form.
-/

namespace Skyauth

namespace FormPost

variable {R W : Type} {X : Crates} {net : Network W} {r : FormPost R} {draws : List AttemptDraw}
  {c c' : Client W}

/-- A request as an attempt to post the form makes it, with one of these draws. -/
def IsAttempt (X : Crates) (r : FormPost R) (draws : List AttemptDraw) (request : ClientRequest) : Prop :=
  ∃ draw ∈ draws, ∃ hostHeader nonce proof bodyBytes, r.proof X nonce draw = .ok proof ∧
    r.body draw.assertion = .ok bodyBytes ∧ r.build hostHeader proof bodyBytes = .ok request

/-- From `c` to `c'` only attempts to post the form were sent. -/
def Sends (X : Crates) (r : FormPost R) (draws : List AttemptDraw) (c c' : Client W) : Prop :=
  ∃ requests, c'.sent = c.sent ++ requests ∧ ∀ request ∈ requests, IsAttempt X r draws request

theorem build_eq_ok {hostHeader proof : String} {bodyBytes : List UInt8} {request : ClientRequest}
    (h : r.build hostHeader proof bodyBytes = .ok request) :
    request.url = r.endpoint ∧ request.body = some bodyBytes := by
  unfold build at h
  split at h
  · cases h
  · cases h
    exact ⟨rfl, rfl⟩

theorem IsAttempt.url_eq {request : ClientRequest} (h : IsAttempt X r draws request) :
    request.url = r.endpoint := by
  obtain ⟨draw, -, hostHeader, nonce, proof, bodyBytes, -, -, hbuild⟩ := h
  exact (build_eq_ok hbuild).1

theorem Sends.of_eq (h : c'.sent = c.sent) : Sends X r draws c c' := ⟨[], by simp [h], by simp⟩

theorem Sends.trans {c'' : Client W} (h : Sends X r draws c c') (h' : Sends X r draws c' c'') :
    Sends X r draws c c'' := by
  obtain ⟨l, hl, hlr⟩ := h
  obtain ⟨l', hl', hlr'⟩ := h'
  refine ⟨l ++ l', by rw [hl', hl, List.append_assoc], fun request hmem => ?_⟩
  exact (List.mem_append.1 hmem).elim (hlr request) (hlr' request)

/-- One exchange sends its request, if it could be built. -/
theorem sends_exchange {origin hostHeader proof : String} {nonce : Option String} {draw : AttemptDraw}
    {bodyBytes : List UInt8} (hdraw : draw ∈ draws) (hproof : r.proof X nonce draw = .ok proof)
    (hbody : r.body draw.assertion = .ok bodyBytes) (hsent : c'.sent = c.sent) :
    Sends X r draws c (r.exchange net c' origin (r.build hostHeader proof bodyBytes)).2 := by
  unfold exchange
  cases hbuild : r.build hostHeader proof bodyBytes with
  | error e => exact Sends.of_eq hsent
  | ok request =>
    have hattempt : IsAttempt X r draws request := ⟨_, hdraw, _, _, _, _, hproof, hbody, hbuild⟩
    have hone : ∀ q ∈ [request], IsAttempt X r draws q := by
      intro q hq
      rw [List.mem_singleton.1 hq]
      exact hattempt
    dsimp only
    split
    · exact ⟨[request], by rw [← hsent], hone⟩
    · exact ⟨[request], by rw [← hsent], hone⟩

theorem sends_retry {parsedUrl : Url} {status : Nat} {draw : AttemptDraw} (hdraw : draw ∈ draws) :
    Sends X r draws c (r.retry X net c parsedUrl status draw).2 := by
  unfold retry
  split
  · exact Sends.of_eq rfl
  · split
    · exact Sends.of_eq rfl
    · rename_i proof hproof
      split
      · exact Sends.of_eq rfl
      · rename_i bodyBytes hbody
        split
        · exact Sends.of_eq rfl
        · rename_i hostHeader world hpin
          have hsends : Sends X r draws c (r.exchange net { c with world := world } parsedUrl.origin
              (r.build hostHeader proof bodyBytes)).2 := sends_exchange hdraw hproof hbody rfl
          split
          · rename_i heq
            rwa [heq] at hsends
          · rename_i heq
            rwa [heq] at hsends

theorem sends_acceptFirst {parsedUrl : Url} {resp : Response WireBody} {draw : AttemptDraw}
    (hdraw : draw ∈ draws) :
    Sends X r draws c (r.acceptFirst X net c parsedUrl resp draw).2 := by
  unfold acceptFirst
  split
  · exact Sends.of_eq rfl
  · split
    · exact Sends.of_eq rfl
    · split
      · exact Sends.of_eq rfl
      · split
        · exact sends_retry hdraw
        · exact Sends.of_eq rfl

/-- Posting a form sends nothing but attempts to post it. -/
theorem sends_run {first second : AttemptDraw} :
    Sends X r [first, second] c (r.run X net c first second).2 := by
  unfold run
  split
  · exact Sends.of_eq rfl
  · rename_i parsedUrl hparse
    split
    · exact Sends.of_eq rfl
    · rename_i hostHeader world hpin
      dsimp only
      split
      · exact Sends.of_eq rfl
      · rename_i bodyBytes hbody
        split
        · exact Sends.of_eq rfl
        · rename_i proof hproof
          have hsends : Sends X r [first, second] c (r.exchange net { c with world := world } parsedUrl.origin
              (r.build hostHeader proof bodyBytes)).2 :=
            sends_exchange List.mem_cons_self hproof hbody rfl
          split
          · rename_i heq
            rwa [heq] at hsends
          · rename_i heq
            rw [heq] at hsends
            exact hsends.trans (sends_acceptFirst (List.mem_cons_of_mem _ List.mem_cons_self))

/-- A request that was answered was sent. -/
theorem exchange_eq_ok {origin hostHeader proof : String} {bodyBytes : List UInt8}
    {resp : Response WireBody}
    (h : r.exchange net c origin (r.build hostHeader proof bodyBytes) = (.ok resp, c')) :
    ∃ request, r.build hostHeader proof bodyBytes = .ok request ∧ c'.sent = c.sent ++ [request] := by
  unfold exchange at h
  cases hbuild : r.build hostHeader proof bodyBytes with
  | error e =>
    rw [hbuild] at h
    cases h
  | ok request =>
    rw [hbuild] at h
    dsimp only at h
    split at h
    · cases h
    · cases h
      exact ⟨request, rfl, rfl⟩

/-- Who got an answer has sent a request. -/
theorem run_eq_ok {first second : AttemptDraw} {answer : R}
    (h : r.run X net c first second = (.ok answer, c')) :
    ∃ request ∈ c'.sent, IsAttempt X r [first, second] request := by
  unfold run at h
  split at h
  · cases h
  · rename_i parsedUrl hparse
    split at h
    · cases h
    · rename_i hostHeader world hpin
      dsimp only at h
      split at h
      · cases h
      · rename_i bodyBytes hbody
        split at h
        · cases h
        · rename_i proof hproof
          split at h
          · cases h
          · rename_i resp c₁ heq
            obtain ⟨request, hbuild, hsent⟩ := exchange_eq_ok heq
            have hsends : Sends X r [second] c₁ (r.acceptFirst X net c₁ parsedUrl resp second).2 :=
              sends_acceptFirst List.mem_cons_self
            rw [h] at hsends
            obtain ⟨requests, hrequests, -⟩ := hsends
            refine ⟨request, ?_, first, List.mem_cons_self, _, _, _, _, hproof, hbody, hbuild⟩
            rw [hrequests, hsent]
            simp

/-- A form that the server takes at once is posted once. -/
theorem run_of_accepted {first second : AttemptDraw} {parsedUrl : Url} {hostHeader proof : String}
    {world world' : W} {bodyBytes : List UInt8} {request : ClientRequest} {resp : Response WireBody}
    {answer : R} (hparse : X.urlParse r.endpoint = .ok parsedUrl)
    (hpin : net.buildPinnedClient c.world parsedUrl = (.ok hostHeader, world))
    (hbody : r.body first.assertion = .ok bodyBytes)
    (hproof : r.proof X (c.nonceCache.getNonce parsedUrl.origin) first = .ok proof)
    (hbuild : r.build hostHeader proof bodyBytes = .ok request)
    (hsend : net.send world request = (.ok resp, world')) (hsuccess : isSuccess resp.status = true)
    (haccept : r.acceptSuccess resp = .ok answer) :
    r.run X net c first second = (.ok answer,
      { nonceCache := c.nonceCache.learn parsedUrl.origin resp.headers, world := world',
        sent := c.sent ++ [request] }) := by
  have hredirect : isRedirection resp.status = false := by
    simp only [isSuccess, isRedirection, Bool.and_eq_true, decide_eq_true_eq, Bool.and_eq_false_iff,
      decide_eq_false_iff_not] at hsuccess ⊢
    omega
  simp only [run, hparse, hpin, hbody, hproof, exchange, hbuild, hsend, acceptFirst, hredirect, hsuccess,
    haccept, Bool.false_eq_true, if_false, if_true]

end FormPost

end Skyauth
