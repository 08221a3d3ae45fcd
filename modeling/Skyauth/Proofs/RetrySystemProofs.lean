import Skyauth.RetrySystem
import Skyauth.Proofs.NonceRetryProofs

/-!
# Proofs: calls that share a nonce cache

`Progress` says what a call has sent and received at each of its stages. Every move keeps it, so it
holds of every call in every run. A nonce is followed from the response that brought it through the
cache to the proofs it is put in.
-/

namespace Skyauth

/-! ## Attempts -/

/-- Header texts are read back under their names. -/
theorem lookup_mapM_fromStr {texts : List (String × String)} {headers : HeaderMap} (name : String)
    (h : texts.mapM (fun t => (HeaderValue.fromStr t.2).map (t.1, ·)) = some headers) :
    headers.lookup name = (texts.lookup name).bind HeaderValue.fromStr := by
  induction texts generalizing headers with
  | nil =>
    simp only [List.mapM_nil, Option.pure_def, Option.some.injEq] at h
    rw [← h]
    rfl
  | cons t texts ih =>
    obtain ⟨key, text⟩ := t
    simp only [List.mapM_cons, Option.bind_eq_bind, Option.pure_def, Option.bind_eq_some_iff,
      Option.map_eq_some_iff, Option.some.injEq] at h
    obtain ⟨_, ⟨v, hv, rfl⟩, rest, hrest, rfl⟩ := h
    by_cases hname : name = key
    · simp [hname, hv]
    · simp [List.lookup_cons, beq_eq_false_iff_ne.2 hname, ih hrest]

/-- A proof among the header texts is read back. -/
theorem headerText_dpop {texts : List (String × String)} {headers : HeaderMap} {proof : String}
    (h : texts.mapM (fun t => (HeaderValue.fromStr t.2).map (t.1, ·)) = some headers)
    (hlookup : texts.lookup "dpop" = some proof) (hproof : IsPrintable proof) :
    headerText headers "dpop" = some proof := by
  obtain ⟨v, hv, htext⟩ := fromStr_printable hproof
  have hname : Text.toAsciiLowercase "dpop" = "dpop" := by decide
  rw [headerText, HeaderMap.get, hname, lookup_mapM_fromStr "dpop" h, hlookup, Option.bind_some, hv,
    Option.bind_some, htext]

/-- What is built from a proof carries it. -/
structure ClientRequest.Carries (request : ClientRequest) (method url proof : String) : Prop where
  method_eq : request.method = method
  url_eq : request.url = url
  header_eq : headerText request.headers "dpop" = some proof

theorem DpopRequest.carries_build {r : DpopRequest} {hostHeader proof : String}
    {request : ClientRequest} (h : r.build hostHeader proof = .ok request)
    (hproof : IsPrintable proof) :
    request.Carries r.method r.urlStr proof ∧ request.body = r.bodyBytes := by
  unfold DpopRequest.build at h
  split at h
  · cases h
  · rename_i headers hheaders
    cases h
    exact ⟨⟨rfl, rfl, headerText_dpop hheaders rfl hproof⟩, rfl⟩

theorem FormPost.carries_build {R : Type} {r : FormPost R} {hostHeader proof : String}
    {bodyBytes : List UInt8} {request : ClientRequest}
    (h : r.build hostHeader proof bodyBytes = .ok request) (hproof : IsPrintable proof) :
    request.Carries "POST" r.endpoint proof := by
  unfold FormPost.build at h
  split at h
  · cases h
  · rename_i headers hheaders
    cases h
    exact ⟨rfl, rfl, headerText_dpop hheaders rfl hproof⟩

theorem FormPost.carries_draft {R : Type} {X : Crates} {r : FormPost R} {draw : ProofDraw}
    {draft : RequestDraft} {hostHeader proof : String} {request : ClientRequest}
    (hdraft : (r.flow X).draft draw = .ok draft) (hbuild : draft hostHeader proof = .ok request)
    (hproof : IsPrintable proof) : request.Carries "POST" r.endpoint proof := by
  have hbody : (r.body draw).map
    (fun bodyBytes hostHeader proof => r.build hostHeader proof bodyBytes) = .ok draft := hdraft
  cases hb : r.body draw with
  | error e =>
    rw [hb] at hbody
    cases hbody
  | ok bodyBytes =>
    rw [hb] at hbody
    cases hbody
    exact FormPost.carries_build hbuild hproof

/-! ### The parts of an attempt -/

section Parts

variable {R : Type} {f : NonceFlow R} {draw : AttemptDraw} {a : Attempt}

theorem NonceFlow.parts_of_prepare {nonce : Option String} {hostHeader : String}
    (h : f.prepare nonce draw hostHeader = .ok a) :
    ∃ draft, f.draft draw.assertion = .ok draft ∧ f.proof nonce draw.proof = .ok a.proof ∧
      draft hostHeader a.proof = .ok a.request ∧ a.nonce = nonce ∧ a.draw = draw := by
  unfold NonceFlow.prepare at h
  split at h
  · cases h
  rename_i draft hdraft
  split at h
  · cases h
  rename_i proof hproof
  split at h
  · cases h
  rename_i request hbuild
  cases h
  exact ⟨draft, hdraft, hproof, hbuild, rfl, rfl⟩

theorem NonceFlow.parts_of_prepareAgain {nonce : String} {pinned : Except SsrfError String}
    (h : f.prepareAgain nonce draw pinned = .ok a) :
    ∃ draft hostHeader, f.draft draw.assertion = .ok draft ∧
      f.proof (some nonce) draw.proof = .ok a.proof ∧ pinned = .ok hostHeader ∧
      draft hostHeader a.proof = .ok a.request ∧ a.nonce = some nonce ∧ a.draw = draw := by
  unfold NonceFlow.prepareAgain at h
  split at h
  · cases h
  rename_i proof hproof
  split at h
  · cases h
  rename_i draft hdraft
  split at h
  · cases h
  rename_i hostHeader
  split at h
  · cases h
  rename_i request hbuild
  cases h
  exact ⟨draft, hostHeader, hdraft, hproof, rfl, hbuild, rfl, rfl⟩

end Parts

/-- The attempt is one of the call: a request of its method to its URL, with a proof that was created
    for it from the attempt's own nonce and draws. -/
structure NonceCall.IsAttempt (X : Crates) (call : NonceCall) (a : Attempt) : Prop where
  created : call.dpopKey.createProof X call.method call.urlStr a.nonce (call.ath X)
    a.draw.proof.clock a.draw.proof.jtiBytes = .ok a.proof
  carries : a.request.Carries call.method call.urlStr a.proof
  body_eq : ∀ r, call = .request r → a.request.body = r.bodyBytes

namespace NonceCall

variable {X : Crates} {call : NonceCall}

theorem urlStr_flow : (call.flow X).urlStr = call.urlStr := by
  cases call <;> rfl

theorem proof_flow (nonce : Option String) (draw : ProofDraw) :
    (call.flow X).proof nonce draw = (call.dpopKey.createProof X call.method call.urlStr nonce
      (call.ath X) draw.clock draw.jtiBytes).mapError .dpop := by
  cases call <;> rfl

/-- The proof of an attempt is what was created. -/
theorem createProof_of_flow {nonce : Option String} {draw : ProofDraw} {proof : String}
    (h : (call.flow X).proof nonce draw = .ok proof) :
    call.dpopKey.createProof X call.method call.urlStr nonce (call.ath X) draw.clock draw.jtiBytes =
      .ok proof :=
  Fallible.mapError_eq_ok.1 (proof_flow nonce draw ▸ h)

/-- The request of an attempt. -/
theorem carries_draft {draw : ProofDraw} {draft : RequestDraft} {hostHeader proof : String}
    {request : ClientRequest} (hdraft : (call.flow X).draft draw = .ok draft)
    (hbuild : draft hostHeader proof = .ok request) (hproof : IsPrintable proof) :
    request.Carries call.method call.urlStr proof ∧
      ∀ r, call = .request r → request.body = r.bodyBytes := by
  cases call with
  | request r =>
    cases hdraft
    obtain ⟨hcarries, hbody⟩ := DpopRequest.carries_build hbuild hproof
    refine ⟨hcarries, ?_⟩
    rintro _ ⟨⟩
    exact hbody
  | token r => exact ⟨FormPost.carries_draft (X := X) hdraft hbuild hproof, by rintro _ ⟨⟩⟩
  | par parEndpoint params dpopKey clientAuth =>
    exact ⟨FormPost.carries_draft (X := X) hdraft hbuild hproof, by rintro _ ⟨⟩⟩

/-- An attempt put together from its parts is one of the call. -/
theorem isAttempt_of_parts {a : Attempt} {draft : RequestDraft} {hostHeader : String}
    (hdraft : (call.flow X).draft a.draw.assertion = .ok draft)
    (hproof : (call.flow X).proof a.nonce a.draw.proof = .ok a.proof)
    (hbuild : draft hostHeader a.proof = .ok a.request) : call.IsAttempt X a := by
  have hcreated := createProof_of_flow hproof
  obtain ⟨hcarries, hbody⟩ := carries_draft hdraft hbuild
    (isPrintable_of_visible (visible_createProof hcreated))
  exact ⟨hcreated, hcarries, hbody⟩

theorem isAttempt_of_prepare {nonce : Option String} {draw : AttemptDraw} {hostHeader : String}
    {a : Attempt} (h : (call.flow X).prepare nonce draw hostHeader = .ok a) :
    call.IsAttempt X a ∧ a.nonce = nonce := by
  obtain ⟨draft, hdraft, hproof, hbuild, rfl, rfl⟩ := NonceFlow.parts_of_prepare h
  exact ⟨isAttempt_of_parts hdraft hproof hbuild, rfl⟩

theorem isAttempt_of_prepareAgain {nonce : String} {draw : AttemptDraw}
    {pinned : Except SsrfError String} {a : Attempt}
    (h : (call.flow X).prepareAgain nonce draw pinned = .ok a) :
    call.IsAttempt X a ∧ a.nonce = some nonce := by
  obtain ⟨draft, hostHeader, hdraft, hproof, -, hbuild, hnonce, rfl⟩ := NonceFlow.parts_of_prepareAgain h
  rw [← hnonce] at hproof
  exact ⟨isAttempt_of_parts hdraft hproof hbuild, hnonce⟩

end NonceCall

/-! ## The progress of a call -/

/-- What a call has sent and received, in order, when it is at a stage. -/
inductive Progress (X : Crates) (call : NonceCall) :
    List Attempt → List (Response WireBody) → NonceStage → Prop where
  | called : Progress X call [] [] .called
  | connected {url hostHeader} (hurl : X.urlParse call.urlStr = .ok url) :
      Progress X call [] [] (.connected url hostHeader)
  | ready {url hostHeader nonce} (hurl : X.urlParse call.urlStr = .ok url) :
      Progress X call [] [] (.ready url hostHeader nonce)
  | refused {e} : Progress X call [] [] (.returned (.error e))
  | waiting {url a} (hurl : X.urlParse call.urlStr = .ok url) (ha : call.IsAttempt X a) :
      Progress X call [a] [] (.waiting url a)
  | failed {a e} (ha : call.IsAttempt X a) : Progress X call [a] [] (.returned (.error e))
  | settled {a resp result} (ha : call.IsAttempt X a)
      (hfirst : (call.flow X).first resp = some result) : Progress X call [a] [resp] (.returned result)
  | challenged {url a resp} (hurl : X.urlParse call.urlStr = .ok url) (ha : call.IsAttempt X a)
      (hresp : call.isChallenge X resp = true) : Progress X call [a] [resp] (.challenged url resp.status)
  | renewed {url nonce a resp} (hurl : X.urlParse call.urlStr = .ok url) (ha : call.IsAttempt X a)
      (hresp : call.isChallenge X resp = true) : Progress X call [a] [resp] (.renewed url nonce)
  | notRepeated {a resp e} (ha : call.IsAttempt X a) (hresp : call.isChallenge X resp = true) :
      Progress X call [a] [resp] (.returned (.error e))
  | waitingAgain {url a b resp} (hurl : X.urlParse call.urlStr = .ok url) (ha : call.IsAttempt X a)
      (hresp : call.isChallenge X resp = true) (hb : call.IsAttempt X b) :
      Progress X call [a, b] [resp] (.waitingAgain url b)
  | failedAgain {a b resp e} (ha : call.IsAttempt X a) (hresp : call.isChallenge X resp = true)
      (hb : call.IsAttempt X b) : Progress X call [a, b] [resp] (.returned (.error e))
  | repeated {a b resp resp'} (ha : call.IsAttempt X a) (hresp : call.isChallenge X resp = true)
      (hb : call.IsAttempt X b) :
      Progress X call [a, b] [resp, resp'] (.returned ((call.flow X).second resp'))

namespace Progress

variable {X : Crates} {call : NonceCall} {cache cache' : DPoPNonceCache} {stage stage' : NonceStage}
  {move : NonceMove} {event : RetryEvent} {requests : List Attempt}
  {responses : List (Response WireBody)}

/-- Every move of a call keeps its progress. -/
theorem advance (hp : Progress X call requests responses stage)
    (h : call.advance X cache stage move = some ((stage', event), cache')) :
    Progress X call (requests ++ event.attempt?.toList) (responses ++ event.response?.toList) stage' := by
  unfold NonceCall.advance at h
  split at h
  · -- connect
    rename_i pinned
    cases h
    cases hp
    simp only [NonceFlow.connect, NonceCall.urlStr_flow]
    cases hurl : X.urlParse call.urlStr with
    | error e => exact refused
    | ok url =>
      cases pinned with
      | error e => exact refused
      | ok hostHeader => exact connected hurl
  · -- readNonce
    cases h
    cases hp with
    | connected hurl => exact ready hurl
  · -- send
    rename_i url hostHeader nonce draw
    cases hp with
    | ready hurl =>
      cases hprepare : (call.flow X).prepare nonce draw hostHeader with
      | error e =>
        rw [hprepare] at h
        cases h
        exact refused
      | ok a =>
        rw [hprepare] at h
        cases h
        exact waiting hurl (NonceCall.isAttempt_of_prepare hprepare).1
  · -- the first exchange fails
    cases h
    cases hp with
    | waiting hurl ha => exact failed ha
  · -- the first response
    rename_i url a resp
    cases h
    cases hp with
    | waiting hurl ha =>
      cases hfirst : (call.flow X).first resp with
      | none => exact challenged hurl ha (NonceCall.first_eq_none.1 hfirst)
      | some result => exact settled ha hfirst
  · -- renewNonce
    rename_i url status
    cases h
    cases hp with
    | challenged hurl ha hresp =>
      cases cache.getNonce url.origin with
      | none => exact notRepeated ha hresp
      | some nonce => exact renewed hurl ha hresp
  · -- resend
    rename_i url nonce draw pinned
    cases hp with
    | renewed hurl ha hresp =>
      cases hprepare : (call.flow X).prepareAgain nonce draw pinned with
      | error e =>
        rw [hprepare] at h
        cases h
        exact notRepeated ha hresp
      | ok b =>
        rw [hprepare] at h
        cases h
        exact waitingAgain hurl ha hresp (NonceCall.isAttempt_of_prepareAgain hprepare).1
  · -- the second exchange fails
    cases h
    cases hp with
    | waitingAgain hurl ha hresp hb => exact failedAgain ha hresp hb
  · -- the second response
    cases h
    cases hp with
    | waitingAgain hurl ha hresp hb => exact repeated ha hresp hb
  · cases h

end Progress

/-! ## Where nonces come from -/

/-- A run of the system. -/
abbrev RetryRun := List (RetryAction × Nat × RetryEvent)

/-- In the run, a response to a request of this origin brought the nonce. -/
def Learned (X : Crates) (tr : RetryRun) (origin nonce : String) : Prop :=
  ∃ action i a resp url, (action, i, .received a resp) ∈ tr ∧
    X.urlParse a.request.url = .ok url ∧
    DPoPNonceCache.originKey url.origin = DPoPNonceCache.originKey origin ∧
    extractDpopNonce (headerText resp.headers "dpop-nonce") = some nonce

/-- A nonce that the stage holds was learned. -/
def NonceStage.Knows (X : Crates) (tr : RetryRun) : NonceStage → Prop
  | .ready url _ nonce => ∀ n, nonce = some n → Learned X tr url.origin n
  | .renewed url nonce => Learned X tr url.origin nonce
  | _ => True

/-- Every nonce of the cache was learned. -/
def DPoPNonceCache.IsLearned (X : Crates) (tr : RetryRun) (cache : DPoPNonceCache) : Prop :=
  ∀ origin nonce, cache.getNonce origin = some nonce → Learned X tr origin nonce

section Learning

variable {X : Crates} {tr : RetryRun} {call : NonceCall} {cache cache' : DPoPNonceCache}
  {stage stage' : NonceStage} {move : NonceMove} {event : RetryEvent} {requests : List Attempt}
  {responses : List (Response WireBody)}

theorem Learned.mono {origin nonce : String} (h : Learned X tr origin nonce) (suffix : RetryRun) :
    Learned X (tr ++ suffix) origin nonce := by
  obtain ⟨action, i, a, resp, url, hmem, hrest⟩ := h
  exact ⟨action, i, a, resp, url, List.mem_append_left _ hmem, hrest⟩

theorem NonceStage.Knows.mono (h : stage.Knows X tr) (suffix : RetryRun) :
    stage.Knows X (tr ++ suffix) := by
  cases stage with
  | ready url hostHeader nonce => exact fun n hn => (h n hn).mono suffix
  | renewed url nonce => exact Learned.mono h suffix
  | _ => trivial

theorem DPoPNonceCache.IsLearned.mono (h : cache.IsLearned X tr) (suffix : RetryRun) :
    cache.IsLearned X (tr ++ suffix) :=
  fun origin nonce hget => (h origin nonce hget).mono suffix

/-- What the cache holds after a response: the nonce of the response at its origin, or what it held. -/
theorem DPoPNonceCache.getNonce_learn {origin origin' nonce : String} {headers : HeaderMap}
    (h : (cache.learn origin headers).getNonce origin' = some nonce) :
    (originKey origin = originKey origin' ∧
      extractDpopNonce (headerText headers "dpop-nonce") = some nonce) ∨
    cache.getNonce origin' = some nonce := by
  unfold learn at h
  split at h
  · rename_i fresh hfresh
    rcases AList.lookup_of_lookup_insert h with ⟨hkey, hnonce⟩ | hold
    · exact Or.inl ⟨hkey.symm, by rw [hfresh, hnonce]⟩
    · exact Or.inr hold
  · exact Or.inr h

/-- A response makes the cache hold only what was learned. -/
theorem isLearned_learn {url : Url} {a : Attempt} {resp : Response WireBody} {i : Nat}
    {action : RetryAction} (hcache : cache.IsLearned X tr) (ha : call.IsAttempt X a)
    (hurl : X.urlParse call.urlStr = .ok url) :
    (cache.learn url.origin resp.headers).IsLearned X (tr ++ [(action, i, .received a resp)]) := by
  intro origin nonce hget
  rcases DPoPNonceCache.getNonce_learn hget with ⟨hkey, hextract⟩ | hold
  · have hparse : X.urlParse a.request.url = .ok url := by rw [ha.carries.url_eq, hurl]
    exact ⟨action, i, a, resp, url, by simp, hparse, hkey, hextract⟩
  · exact (hcache origin nonce hold).mono _

/-- Every move of a call keeps what is known about nonces. -/
theorem Progress.learned_advance (hp : Progress X call requests responses stage)
    (hcache : cache.IsLearned X tr)
    (h : call.advance X cache stage move = some ((stage', event), cache')) (action : RetryAction)
    (i : Nat) :
    stage'.Knows X (tr ++ [(action, i, event)]) ∧ cache'.IsLearned X (tr ++ [(action, i, event)]) := by
  unfold NonceCall.advance at h
  split at h
  · rename_i pinned
    cases h
    refine ⟨?_, hcache.mono _⟩
    unfold NonceFlow.connect
    repeat' split
    all_goals trivial
  · cases h
    exact ⟨fun n hn => (hcache _ n hn).mono _, hcache.mono _⟩
  · rename_i url hostHeader nonce draw
    cases hprepare : (call.flow X).prepare nonce draw hostHeader <;>
    · rw [hprepare] at h
      cases h
      exact ⟨trivial, hcache.mono _⟩
  · cases h
    exact ⟨trivial, hcache.mono _⟩
  · rename_i url a resp
    cases h
    cases hp with
    | waiting hurl ha =>
      refine ⟨?_, isLearned_learn hcache ha hurl⟩
      cases (call.flow X).first resp <;> trivial
  · rename_i url status
    cases h
    refine ⟨?_, hcache.mono _⟩
    cases hget : cache.getNonce url.origin with
    | none => trivial
    | some nonce => exact (hcache _ nonce hget).mono _
  · rename_i url nonce draw pinned
    cases hprepare : (call.flow X).prepareAgain nonce draw pinned <;>
    · rw [hprepare] at h
      cases h
      exact ⟨trivial, hcache.mono _⟩
  · cases h
    exact ⟨trivial, hcache.mono _⟩
  · cases h
    cases hp with
    | waitingAgain hurl ha hresp hb => exact ⟨trivial, isLearned_learn hcache hb hurl⟩
  · cases h

end Learning

/-! ## Runs of the system -/

namespace RetryEvent

variable {a : Attempt} {resp : Response WireBody}

@[simp] theorem attempt?_silent : silent.attempt? = none := rfl

@[simp] theorem attempt?_sent : (sent a).attempt? = some a := rfl

@[simp] theorem attempt?_received : (received a resp).attempt? = none := rfl

@[simp] theorem response?_silent : silent.response? = none := rfl

end RetryEvent

namespace RetrySystem

variable {X : Crates} {tr : RetryRun} {s s' : RetrySystem} {i j : Nat} {action : RetryAction}
  {event : RetryEvent}

theorem requests_snoc (tr : RetryRun) : requests i (tr ++ [(action, j, event)]) =
    requests i tr ++ (if j = i then event.attempt? else none).toList := by
  by_cases hj : j = i
  · cases event <;> simp [requests, hj, RetryEvent.attempt?]
  · simp [requests, hj]

theorem responses_snoc (tr : RetryRun) : responses i (tr ++ [(action, j, event)]) =
    responses i tr ++ (if j = i then event.response? else none).toList := by
  by_cases hj : j = i
  · cases event <;> simp [responses, hj, RetryEvent.response?]
  · simp [responses, hj]

/-- What holds of a task after a run. -/
def TaskInv (X : Crates) (tr : RetryRun) (i : Nat) : Option NonceTask → Prop
  | none => requests i tr = [] ∧ responses i tr = []
  | some t => Progress X t.call (requests i tr) (responses i tr) t.stage ∧ t.stage.Knows X tr

/-- What holds of the system after a run. -/
structure Inv (X : Crates) (tr : RetryRun) (s : RetrySystem) : Prop where
  task : ∀ i, TaskInv X tr i (s.tasks i)
  cache : s.nonceCache.IsLearned X tr

/-- Tasks that do not act are as they were. -/
theorem taskInv_other {o : Option NonceTask} (h : TaskInv X tr i o) (hne : j ≠ i) :
    TaskInv X (tr ++ [(action, j, event)]) i o := by
  cases o with
  | none => exact ⟨by simp [requests_snoc, hne, h.1], by simp [responses_snoc, hne, h.2]⟩
  | some t => exact ⟨by simpa [requests_snoc, responses_snoc, hne] using h.1, h.2.mono _⟩

/-- A step is the beginning of a call or a move of one. -/
theorem step_cases (h : s.step X action = some (s', j, event)) :
    (∃ call, s.tasks j = none ∧ event = .silent ∧
      s' = { s with tasks := Function.update s.tasks j (some ⟨call, .called⟩) }) ∨
    ∃ t stage move cache, s.tasks j = some t ∧
      t.call.advance X s.nonceCache t.stage move = some ((stage, event), cache) ∧
      s' = { nonceCache := cache, tasks := Function.update s.tasks j (some ⟨t.call, stage⟩) } := by
  cases action with
  | start i call =>
    simp only [step] at h
    split at h
    · cases h
    · rename_i hnone
      cases h
      exact Or.inl ⟨call, hnone, rfl, rfl⟩
  | move i move =>
    simp only [step, Option.bind_eq_bind, Option.pure_def, Option.bind_eq_some_iff,
      Option.some.injEq] at h
    obtain ⟨t, ht, ⟨⟨stage, event⟩, cache⟩, hadvance, hs⟩ := h
    cases hs
    exact Or.inr ⟨t, stage, move, cache, ht, hadvance, rfl⟩

/-- Every step keeps the invariant. -/
theorem Inv.step (hI : Inv X tr s) (h : s.step X action = some (s', j, event)) :
    Inv X (tr ++ [(action, j, event)]) s' := by
  rcases step_cases h with ⟨call, hnone, rfl, rfl⟩ | ⟨t, stage, move, cache, ht, hadvance, rfl⟩
  · refine ⟨fun i => ?_, hI.cache.mono _⟩
    by_cases hij : i = j
    · subst hij
      have hnew := hI.task i
      rw [hnone] at hnew
      simp only [Function.update_self]
      refine ⟨?_, trivial⟩
      simpa [requests_snoc, responses_snoc, hnew.1, hnew.2]
        using Progress.called
    · simp only [Function.update_of_ne hij]
      exact taskInv_other (hI.task i) (Ne.symm hij)
  · have hold := hI.task j
    rw [ht] at hold
    obtain ⟨hknows, hcache⟩ := hold.1.learned_advance hI.cache hadvance action j
    refine ⟨fun i => ?_, hcache⟩
    by_cases hij : i = j
    · subst hij
      simp only [Function.update_self]
      refine ⟨?_, hknows⟩
      simpa [requests_snoc, responses_snoc] using hold.1.advance hadvance
    · simp only [Function.update_of_ne hij]
      exact taskInv_other (hI.task i) (Ne.symm hij)

end RetrySystem

/-! ## A call alone -/

section Alone

variable {R W : Type} {X : Crates} {net : Network W} {f : NonceFlow R} {c : Client W}
  {call : NonceCall} {url : Url} {first second draw : AttemptDraw}

end Alone

/-! ## The discipline of retries -/

namespace RetrySystem

end RetrySystem

end Skyauth
