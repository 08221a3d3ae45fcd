import Skyauth.Proofs.IdentityProofs
import Skyauth.Proofs.PostedFormProofs
import Skyauth.Proofs.SessionProofs
import Skyauth.Proofs.StoreProofs

/-!
# Proofs: the session of a callback belongs to the login that stored its state

The authorization servers are arbitrary, so nothing is known about what they answer. What a callback
uses comes from the entry it took: an invariant says where every record that is about to be stored, is
stored or was taken comes from, and where every request that was sent comes from (`Origin`).
-/

namespace Skyauth

open StoredStateRecord (isExpired)
open Expiring (live)

/-! ## What an insertion can leave in the store -/

namespace OAuthStateStore

variable {s : OAuthStateStore} {state key : String} {record r : StoredStateRecord} {now : Instant}

theorem lookup_of_makeRoom {shard : StateShard} (h : (makeRoom shard now).lookup key = some r) :
    shard.lookup key = some r := by
  unfold makeRoom at h
  split at h
  · rw [Expiring.lookup_prune] at h
    exact (Expiring.live_eq_some.1 h).1
  · exact h

/-- A record found after an insertion was there before, or is the one that was inserted. -/
theorem find_insertRecord (h : (s.insertRecord state record now).2.find key = some r) :
    s.find key = some r ∨
      key = state ∧ r = record ∧ (s.insertRecord state record now).1 = .ok () := by
  have hroom : (s.setShard (s.shardIndex state) (makeRoom (s.shards (s.shardIndex state)) now)).find
      key = some r → s.find key = some r := fun h =>
    Sharded.find_of_find_update (fun _ _ => lookup_of_makeRoom) h
  simp only [insertRecord] at h ⊢
  split at h
  · exact Or.inl (hroom h)
  · rename_i hfull
    rw [find_setShard_insert] at h
    by_cases hk : key = state
    · subst hk
      rw [Function.update_self, Option.some.injEq] at h
      exact Or.inr ⟨rfl, h.symm, by rw [if_neg hfull]⟩
    · rw [Function.update_of_ne hk] at h
      exact Or.inl (hroom h)

end OAuthStateStore

/-! ## One callback -/

theorem checkCallback_eq_ok {params : CallbackParams} {entry : StoredStateEntry} {now : SystemTime} :
    checkCallback params entry now = .ok () ↔
      params.state = entry.state ∧ entry.isExpired now = false ∧
        ∃ iss, params.iss = some iss ∧ normalizeIssuer iss = normalizeIssuer entry.issuer := by
  unfold checkCallback
  by_cases hstate : params.state = entry.state
  · rw [if_neg (not_not.2 hstate)]
    cases hexp : entry.isExpired now with
    | true => simp
    | false =>
      simp only [Bool.false_eq_true, if_false, hstate, true_and]
      cases hiss : params.iss with
      | none => simp
      | some iss =>
        by_cases hnorm : normalizeIssuer iss = normalizeIssuer entry.issuer
        · simp [hnorm]
        · simp [hnorm]
  · rw [if_pos hstate]
    simp [hstate]

section Callback

variable {W : Type} {X : Crates} {net : Network W} {metadata : ClientMetadata} {params : CallbackParams}
  {entry : StoredStateEntry} {checked created : SystemTime} {first second : AttemptDraw}
  {c : Client W}

/-- The request of a callback for an entry, as a form that is posted. -/
def callbackPost (X : Crates) (metadata : ClientMetadata) (params : CallbackParams)
    (entry : StoredStateEntry) : FormPost TokenResponse :=
  (exchangeRequest metadata params.code entry).formPost X

/-- A callback sends nothing but its token request. -/
theorem sends_finishCallback : FormPost.Sends X (callbackPost X metadata params entry) [first, second] c
    (finishCallback X net metadata params (some entry) checked first second created c).2 := by
  unfold finishCallback
  dsimp only
  split
  · exact FormPost.Sends.of_eq rfl
  · have hsends : FormPost.Sends X (callbackPost X metadata params entry) [first, second] c
        ((callbackPost X metadata params entry).run X net c first second).2 := FormPost.sends_run
    split
    · rename_i heq
      rw [sendDpopTokenRequest] at heq
      rwa [callbackPost, heq] at hsends
    · rename_i heq
      rw [sendDpopTokenRequest] at heq
      rwa [callbackPost, heq] at hsends

/-- A callback whose checks fail sends nothing. -/
theorem finishCallback_of_rejected {taken : Option StoredStateEntry}
    (h : ∀ entry, taken = some entry → checkCallback params entry checked ≠ .ok ()) :
    (finishCallback X net metadata params taken checked first second created c).2 = c := by
  unfold finishCallback
  split
  · rfl
  · rename_i entry
    split
    · rfl
    · rename_i hok
      exact absurd hok (h entry rfl)

/-- What a callback that returned a session has gone through. -/
theorem finishCallback_eq_ok {taken : Option StoredStateEntry} {session : OAuthSession}
    (h : (finishCallback X net metadata params taken checked first second created c).1 =
      .ok session) :
    ∃ entry resp, taken = some entry ∧ checkCallback params entry checked = .ok () ∧
      acceptExchange entry resp created = .ok session := by
  unfold finishCallback at h
  split at h
  · cases h
  · rename_i entry
    split at h
    · cases h
    · rename_i hok
      split at h
      · cases h
      · rename_i resp c' heq
        exact ⟨entry, resp, rfl, hok, h⟩

/-- A callback whose checks pass and whose request is answered. -/
theorem finishCallback_of_answered {resp : TokenResponse} {c' : Client W}
    (hcheck : checkCallback params entry checked = .ok ())
    (hrun : (callbackPost X metadata params entry).run X net c first second = (.ok resp, c')) :
    finishCallback X net metadata params (some entry) checked first second created c =
      (acceptExchange entry resp created, c') := by
  have hsend : sendDpopTokenRequest X net c (exchangeRequest metadata params.code entry) first second =
      (.ok resp, c') := hrun
  simp only [finishCallback, hcheck, hsend]

end Callback

/-! ## Where everything comes from -/

namespace LoginSystem

section Origins

variable (X : Crates) (metadata : OAuthClientMetadata) (stateTtl : Duration)
  (tr : List (LoginAction × LoginEvent))

/-- The entry is the one that a login of the client made of what its discovery found. -/
def FromLogin (entry : StoredStateEntry) : Prop :=
  ∃ call endpoints, (.login call, .initiated (.ok entry)) ∈ tr ∧ call.discovery = .ok endpoints ∧
    entry =
      { state := base64urlEncode call.stateBytes
        clientId := metadata.clientId
        codeVerifier := base64urlEncode call.entropy
        dpopKey := call.dpopKey
        issuer := endpoints.authServerIssuer
        did := some endpoints.did
        handle := endpoints.handle
        redirectUri := metadata.redirectUri
        pdsEndpoint := endpoints.pdsEndpoint
        tokenEndpoint := endpoints.tokenEndpoint
        scopes := call.scope
        createdAt := call.createdAt
        expiresInSecs := stateTtl.asSecs }

/-- The record was stored by a login of the client. -/
def Stored (record : StoredStateRecord) : Prop :=
  (.store record, .stored record (.ok ())) ∈ tr ∧ FromLogin metadata stateTtl tr record.entry

/-- The callback took this entry: a login stored it under the state of the callback, and it had not
    expired. -/
def Taken (params : CallbackParams) (entry : StoredStateEntry) : Prop :=
  ∃ record now, Stored metadata stateTtl tr record ∧ record.entry = entry ∧
    entry.state = params.state ∧ (.callback params, .taken params (some entry) now) ∈ tr ∧
    record.isExpired now = false

/-- The request is a pushed authorization request of a login, or the token request of a callback for
    the entry it took. -/
def Sent (request : ClientRequest) : Prop :=
  (∃ call endpoints event, (.login call, event) ∈ tr ∧ call.discovery = .ok endpoints ∧
    FormPost.IsAttempt X (call.parPost X metadata endpoints) [call.first, call.second] request) ∨
  ∃ params entry checked first second created event,
    (.finish params (some entry) checked first second created, event) ∈ tr ∧
    Taken metadata stateTtl tr params entry ∧
    FormPost.IsAttempt X (callbackPost X metadata.toClientMetadata params entry) [first, second] request

/-- What is known about a state that the run `tr` reached. -/
structure Origin {W : Type} (s : LoginSystem W) : Prop where
  storing : ∀ record ∈ s.storing, FromLogin metadata stateTtl tr record.entry
  stored : ∀ key record, s.store.find key = some record →
    record.entry.state = key ∧ Stored metadata stateTtl tr record
  callbacks : ∀ params entry, (params, some entry) ∈ s.callbacks →
    Taken metadata stateTtl tr params entry
  sent : ∀ request ∈ s.client.sent, Sent X metadata stateTtl tr request

end Origins

variable {W : Type} {X : Crates} {net : Network W} {metadata : OAuthClientMetadata}
  {stateTtl : Duration} {tr : List (LoginAction × LoginEvent)} {s₀ s s' : LoginSystem W}
  {a : LoginAction} {e : LoginEvent} {x : LoginAction × LoginEvent}

/-- What a run shows stays true when it goes on. -/
theorem FromLogin.snoc {entry : StoredStateEntry} (h : FromLogin metadata stateTtl tr entry) :
    FromLogin metadata stateTtl (tr ++ [x]) entry := by
  obtain ⟨call, endpoints, hmem, h⟩ := h
  exact ⟨call, endpoints, List.mem_append_left _ hmem, h⟩

theorem Stored.snoc {record : StoredStateRecord} (h : Stored metadata stateTtl tr record) :
    Stored metadata stateTtl (tr ++ [x]) record :=
  ⟨List.mem_append_left _ h.1, h.2.snoc⟩

theorem Taken.snoc {params : CallbackParams} {entry : StoredStateEntry}
    (h : Taken metadata stateTtl tr params entry) :
    Taken metadata stateTtl (tr ++ [x]) params entry := by
  obtain ⟨record, now, hstored, hentry, hstate, hmem, hlive⟩ := h
  exact ⟨record, now, hstored.snoc, hentry, hstate, List.mem_append_left _ hmem, hlive⟩

theorem Sent.snoc {request : ClientRequest} (h : Sent X metadata stateTtl tr request) :
    Sent X metadata stateTtl (tr ++ [x]) request := by
  rcases h with ⟨call, endpoints, event, hmem, h⟩ |
    ⟨params, entry, checked, first, second, created, event, hmem, htaken, h⟩
  · exact Or.inl ⟨call, endpoints, event, List.mem_append_left _ hmem, h⟩
  · exact Or.inr ⟨params, entry, checked, first, second, created, event, List.mem_append_left _ hmem,
      htaken.snoc, h⟩

theorem Origin.snoc (h : Origin X metadata stateTtl tr s) :
    Origin X metadata stateTtl (tr ++ [x]) s where
  storing := fun record hmem => (h.storing record hmem).snoc
  stored := fun key record hfind => ⟨(h.stored key record hfind).1, (h.stored key record hfind).2.snoc⟩
  callbacks := fun params entry hmem => (h.callbacks params entry hmem).snoc
  sent := fun request hmem => (h.sent request hmem).snoc

theorem Origin.initial (h : s.Initial) : Origin X metadata stateTtl [] s where
  storing := by simp [h.storing]
  stored := by simp [OAuthStateStore.find, h.empty]
  callbacks := by simp [h.callbacks]
  sent := by simp [h.unsent]

/-- A login sends nothing but its pushed authorization request. -/
theorem sends_initiate (X : Crates) (net : Network W) (metadata : OAuthClientMetadata)
    (stateTtl : Duration) (call : LoginCall) (c : Client W) :
    (call.initiate X net metadata stateTtl c).2.sent = c.sent ∨
      ∃ endpoints, call.discovery = .ok endpoints ∧
        FormPost.Sends X (call.parPost X metadata endpoints) [call.first, call.second] c
          (call.initiate X net metadata stateTtl c).2 := by
  unfold LoginCall.initiate
  split
  · exact Or.inl rfl
  · rename_i endpoints hdiscovery
    have hsends : FormPost.Sends X (call.parPost X metadata endpoints) [call.first, call.second] c
        ((call.parPost X metadata endpoints).run X net c call.first call.second).2 :=
      FormPost.sends_run
    refine Or.inr ⟨endpoints, hdiscovery, ?_⟩
    split
    · rename_i heq
      rwa [heq] at hsends
    · rename_i heq
      rw [heq] at hsends
      split
      · exact hsends
      · exact hsends

/-- The entry of a login that got its answers. -/
theorem initiate_eq_ok {call : LoginCall} {c c' : Client W} {request : AuthorizationRequest}
    {entry : StoredStateEntry}
    (h : call.initiate X net metadata stateTtl c = (.ok (request, entry), c')) :
    ∃ endpoints, call.discovery = .ok endpoints ∧
      entry = call.storedState X metadata stateTtl endpoints := by
  unfold LoginCall.initiate at h
  split at h
  · cases h
  · rename_i endpoints hdiscovery
    split at h
    · cases h
    · split at h
      · cases h
      · cases h
        exact ⟨endpoints, hdiscovery, rfl⟩

/-- A login whose request is answered gets to the insertion of its entry. -/
theorem initiate_of_answered {call : LoginCall} {c c' : Client W} {endpoints : DiscoveredAuthEndpoints}
    {par : ParResponse} {request : AuthorizationRequest} (hdiscovery : call.discovery = .ok endpoints)
    (hrun : (call.parPost X metadata endpoints).run X net c call.first call.second = (.ok par, c'))
    (hrequest : call.authorizationRequest X metadata endpoints par = .ok request) :
    call.initiate X net metadata stateTtl c =
      (.ok (request, call.storedState X metadata stateTtl endpoints), c') := by
  simp only [LoginCall.initiate, hdiscovery, hrun, hrequest]

/-- The requests of a step, when they are attempts of one post. -/
theorem Origin.sent_of_sends {R : Type} {r : FormPost R} {draws : List AttemptDraw} {c : Client W}
    (h : Origin X metadata stateTtl tr s) (hsends : FormPost.Sends X r draws s.client c)
    (hr : ∀ request, FormPost.IsAttempt X r draws request →
      Sent X metadata stateTtl (tr ++ [x]) request) :
    ∀ request ∈ c.sent, Sent X metadata stateTtl (tr ++ [x]) request := by
  obtain ⟨requests, hsent, hattempts⟩ := hsends
  intro request hmem
  rw [hsent] at hmem
  rcases List.mem_append.1 hmem with hold | hnew
  · exact (h.sent request hold).snoc
  · exact hr request (hattempts request hnew)

theorem Origin.login {call : LoginCall} (h : Origin X metadata stateTtl tr s)
    (hstep : s.step X net metadata stateTtl (.login call) = some (s', e)) :
    Origin X metadata stateTtl (tr ++ [(.login call, e)]) s' := by
  have hlast : (.login call, e) ∈ tr ++ [(.login call, e)] :=
    List.mem_append_right _ (List.mem_singleton.2 rfl)
  have hsent : ∀ request ∈ (call.initiate X net metadata stateTtl s.client).2.sent,
      Sent X metadata stateTtl (tr ++ [(.login call, e)]) request := by
    rcases sends_initiate X net metadata stateTtl call s.client with
      hsame | ⟨endpoints, hdiscovery, hsends⟩
    · rw [hsame]
      exact fun request hmem => (h.sent request hmem).snoc
    · exact h.sent_of_sends hsends fun request hattempt =>
        Or.inl ⟨call, endpoints, e, hlast, hdiscovery, hattempt⟩
  simp only [step] at hstep
  cases hinit : call.initiate X net metadata stateTtl s.client with
  | mk result client =>
    rw [hinit] at hsent hstep
    cases result with
    | error err =>
      cases hstep
      exact { h.snoc with sent := hsent }
    | ok value =>
      obtain ⟨request, entry⟩ := value
      cases hstep
      obtain ⟨endpoints, hdiscovery, hentry⟩ := initiate_eq_ok hinit
      refine { h.snoc with storing := fun record hmem => ?_, sent := hsent }
      rcases List.mem_cons.1 hmem with rfl | hold
      · exact ⟨call, endpoints, hlast, hdiscovery, hentry⟩
      · exact (h.storing record hold).snoc

theorem Origin.store {record : StoredStateRecord} (h : Origin X metadata stateTtl tr s)
    (hstep : s.step X net metadata stateTtl (.store record) = some (s', e)) :
    Origin X metadata stateTtl (tr ++ [(.store record, e)]) s' := by
  simp only [step] at hstep
  split at hstep
  · rename_i hmem
    cases hstep
    refine { h.snoc with storing := fun r hr => ?_, stored := fun key r hfind => ?_ }
    · exact (h.storing r (List.mem_of_mem_erase hr)).snoc
    · rcases OAuthStateStore.find_insertRecord hfind with hold | ⟨rfl, rfl, hok⟩
      · exact ⟨(h.stored key r hold).1, (h.stored key r hold).2.snoc⟩
      · refine ⟨rfl, ?_, (h.storing r hmem).snoc⟩
        rw [hok]
        exact List.mem_append_right _ (List.mem_singleton.2 rfl)
  · cases hstep

theorem Origin.callback {params : CallbackParams} (h : Origin X metadata stateTtl tr s)
    (hstep : s.step X net metadata stateTtl (.callback params) = some (s', e)) :
    Origin X metadata stateTtl (tr ++ [(.callback params, e)]) s' := by
  simp only [step, Option.some.injEq, Prod.mk.injEq] at hstep
  obtain ⟨rfl, rfl⟩ := hstep
  refine { h.snoc with stored := fun key record hfind => ?_, callbacks := fun p entry hmem => ?_ }
  · rw [OAuthStateStore.find_takeStateSync] at hfind
    by_cases hk : key = params.state
    · subst hk
      rw [Function.update_self] at hfind
      cases hfind
    · rw [Function.update_of_ne hk] at hfind
      exact ⟨(h.stored key record hfind).1, (h.stored key record hfind).2.snoc⟩
  · rcases List.mem_cons.1 hmem with heq | hold
    · obtain ⟨rfl, htaken⟩ := Prod.mk.injEq .. ▸ heq
      have hlive := htaken.symm
      rw [OAuthStateStore.takeStateSync_fst, Option.map_eq_some_iff] at hlive
      obtain ⟨record, hrecord, rfl⟩ := hlive
      obtain ⟨hfind, hunexpired⟩ := Expiring.live_eq_some.1 hrecord
      obtain ⟨hstate, hstored⟩ := h.stored _ _ hfind
      refine ⟨record, s.clock, hstored.snoc, rfl, hstate, ?_, hunexpired⟩
      rw [← htaken]
      exact List.mem_append_right _ (List.mem_singleton.2 rfl)
    · exact (h.callbacks p entry hold).snoc

theorem Origin.finish {params : CallbackParams} {taken : Option StoredStateEntry}
    {checked created : SystemTime} {first second : AttemptDraw} (h : Origin X metadata stateTtl tr s)
    (hstep : s.step X net metadata stateTtl (.finish params taken checked first second created) =
      some (s', e)) :
    Origin X metadata stateTtl
      (tr ++ [(.finish params taken checked first second created, e)]) s' := by
  simp only [step] at hstep
  split at hstep
  · rename_i hmem
    cases hstep
    refine { h.snoc with callbacks := fun p entry hp => ?_, sent := ?_ }
    · exact (h.callbacks p entry (List.mem_of_mem_erase hp)).snoc
    · cases taken with
      | none => exact fun request hr => (h.sent request hr).snoc
      | some entry =>
        exact h.sent_of_sends sends_finishCallback fun request hattempt =>
          Or.inr ⟨params, entry, checked, first, second, created, _,
            List.mem_append_right _ (List.mem_singleton.2 rfl), (h.callbacks params entry hmem).snoc,
            hattempt⟩
  · cases hstep

theorem Origin.step (h : Origin X metadata stateTtl tr s)
    (hstep : s.step X net metadata stateTtl a = some (s', e)) :
    Origin X metadata stateTtl (tr ++ [(a, e)]) s' := by
  cases a with
  | tick now =>
    simp only [LoginSystem.step] at hstep
    split at hstep
    · cases hstep
      exact { h.snoc with }
    · cases hstep
  | login call => exact h.login hstep
  | store record => exact h.store hstep
  | callback params => exact h.callback hstep
  | finish => exact h.finish hstep

theorem Origin.run (hinit : s₀.Initial)
    (hr : Exec Exec.anyStep (LoginSystem.step X net metadata stateTtl) s₀ tr s) :
    Origin X metadata stateTtl tr s :=
  hr.invariant (fun tr s => Origin X metadata stateTtl tr s) (Origin.initial hinit)
    fun _ _ _ _ _ h _ hstep => h.step hstep

/-- What a callback shows when it returns. -/
theorem step_returned {params params' : CallbackParams} {taken : Option StoredStateEntry}
    {checked created : SystemTime} {first second : AttemptDraw} {requests : List ClientRequest}
    {result : Except AtprotoOAuthError OAuthSession}
    (hstep : s.step X net metadata stateTtl (.finish params taken checked first second created) =
      some (s', .returned params' requests result)) :
    (params, taken) ∈ s.callbacks ∧ params' = params ∧
      result = (finishCallback X net metadata.toClientMetadata params taken checked first second
        created s.client).1 ∧
      requests = (finishCallback X net metadata.toClientMetadata params taken checked first second
        created s.client).2.sent.drop s.client.sent.length := by
  simp only [LoginSystem.step] at hstep
  split at hstep
  · rename_i hmem
    cases hstep
    exact ⟨hmem, rfl, rfl, rfl⟩
  · cases hstep

theorem step_store_of_mem {record : StoredStateRecord} (h : record ∈ s.storing) :
    s.step X net metadata stateTtl (.store record) =
      some ({ s with store := (s.store.insertRecord record.entry.state record s.clock).2,
                     storing := s.storing.erase record },
        .stored record (s.store.insertRecord record.entry.state record s.clock).1) :=
  if_pos h

theorem step_finish_of_mem {params : CallbackParams} {taken : Option StoredStateEntry}
    {checked created : SystemTime} {first second : AttemptDraw} {client : Client W}
    {result : Except AtprotoOAuthError OAuthSession} (h : (params, taken) ∈ s.callbacks)
    (hfinish : finishCallback X net metadata.toClientMetadata params taken checked first second created
      s.client = (result, client)) :
    s.step X net metadata stateTtl (.finish params taken checked first second created) =
      some ({ s with client := client, callbacks := s.callbacks.erase (params, taken) },
        .returned params (client.sent.drop s.client.sent.length) result) := by
  simp only [LoginSystem.step, if_pos h, hfinish]

/-- A login that is answered and its callback, with nothing else under way. -/
theorem exec_of_answered (record : StoredStateRecord) {call : LoginCall} {request : AuthorizationRequest}
    {c client client' : Client W} {st store store' : OAuthStateStore} {now : Instant}
    {params : CallbackParams} {checked created : SystemTime} {first second : AttemptDraw}
    {session : OAuthSession} (hrecord : record = StoredStateRecord.new record.entry stateTtl now)
    (hinitiate : call.initiate X net metadata stateTtl c = (.ok (request, record.entry), client))
    (hinsert : st.insertRecord record.entry.state record now = (.ok (), store))
    (htake : store.takeStateSync params.state now = (some record.entry, store'))
    (hfinish : finishCallback X net metadata.toClientMetadata params (some record.entry) checked first
      second created client = (.ok session, client')) :
    Exec Exec.anyStep (LoginSystem.step X net metadata stateTtl) ⟨st, now, c, [], []⟩
      ([(.login call, .initiated (.ok record.entry)), (.store record, .stored record (.ok ())),
        (.callback params, .taken params (some record.entry) now)] ++
        [(.finish params (some record.entry) checked first second created,
          .returned params (client'.sent.drop client.sent.length) (.ok session))])
      ⟨store', now, client', [], []⟩ := by
  have hlogin : LoginSystem.step X net metadata stateTtl ⟨st, now, c, [], []⟩ (.login call) =
      some (⟨st, now, client, [record], []⟩, .initiated (.ok record.entry)) := by
    simp only [LoginSystem.step, hinitiate, ← hrecord]
  have hstore : LoginSystem.step X net metadata stateTtl ⟨st, now, client, [record], []⟩ (.store record) =
      some (⟨store, now, client, [], []⟩, .stored record (.ok ())) := by
    rw [step_store_of_mem List.mem_cons_self]
    simp only [hinsert, List.erase_cons_head]
  have hcallback : LoginSystem.step X net metadata stateTtl ⟨store, now, client, [], []⟩ (.callback params) =
      some (⟨store', now, client, [], [(params, some record.entry)]⟩,
        .taken params (some record.entry) now) := by
    simp only [LoginSystem.step, htake]
  have hreturn : LoginSystem.step X net metadata stateTtl
      ⟨store', now, client, [], [(params, some record.entry)]⟩
      (.finish params (some record.entry) checked first second created) =
        some (⟨store', now, client', [], []⟩,
          .returned params (client'.sent.drop client.sent.length) (.ok session)) := by
    rw [step_finish_of_mem List.mem_cons_self hfinish, List.erase_cons_head]
  exact (((Exec.nil.snoc trivial hlogin).snoc trivial hstore).snoc trivial hcallback).snoc trivial hreturn

end LoginSystem

/-! ## What the servers are shown -/

/-- What a login pushes: the challenge of its verifier, and neither a code nor the verifier. -/
def pushedPairs (X : Crates) (metadata : OAuthClientMetadata) (call : LoginCall)
    (endpoints : DiscoveredAuthEndpoints) : List (String × String) :=
  [("client_id", metadata.clientId), ("response_type", "code"), ("redirect_uri", metadata.redirectUri),
    ("scope", call.scope), ("state", base64urlEncode call.stateBytes),
    ("code_challenge", base64urlEncode (X.sha256 (Text.asBytes (base64urlEncode call.entropy)))),
    ("code_challenge_method", "S256"), ("login_hint", endpoints.handle.getD endpoints.did)]

/-- What a callback reveals: its code, and the verifier of the entry it took. -/
def redeemedPairs (params : CallbackParams) (entry : StoredStateEntry) : List (String × String) :=
  [("grant_type", "authorization_code"), ("code", params.code), ("redirect_uri", entry.redirectUri),
    ("client_id", entry.clientId), ("code_verifier", entry.codeVerifier)]

/-- The request pushes the parameters of a login, under the key of the login. -/
def PushesChallenge (X : Crates) (lossy : List UInt8 → String) (metadata : OAuthClientMetadata)
    (call : LoginCall) (endpoints : DiscoveredAuthEndpoints) : ClientRequest → Prop :=
  Posted X lossy endpoints.parEndpoint call.dpopKey
    (metadata.clientKey.map fun k => (k, metadata.clientId, endpoints.authServerIssuer))
    [call.first, call.second] (pushedPairs X metadata call endpoints)

/-- The request redeems the code of a callback at the token endpoint of the entry, under its key. -/
def RedeemsCode (X : Crates) (lossy : List UInt8 → String) (metadata : ClientMetadata)
    (params : CallbackParams) (entry : StoredStateEntry) (draws : List AttemptDraw) :
    ClientRequest → Prop :=
  Posted X lossy entry.tokenEndpoint entry.dpopKey
    (metadata.clientKey.map fun k => (k, entry.clientId, entry.issuer)) draws (redeemedPairs params entry)

section Shown

variable {X : Crates} {lossy : List UInt8 → String} {request : ClientRequest}

theorem pushesChallenge_of_attempt (hlossy : ∀ text, lossy (Text.asBytes text) = text)
    {metadata : OAuthClientMetadata} {call : LoginCall} {endpoints : DiscoveredAuthEndpoints}
    (h : FormPost.IsAttempt X (call.parPost X metadata endpoints) [call.first, call.second] request) :
    PushesChallenge X lossy metadata call endpoints request := by
  have hposted := posted_parRequest hlossy rfl h
  rw [Option.map_map] at hposted
  exact hposted

theorem redeemsCode_of_attempt (hlossy : ∀ text, lossy (Text.asBytes text) = text)
    {metadata : ClientMetadata} {params : CallbackParams} {entry : StoredStateEntry}
    {draws : List AttemptDraw}
    (h : FormPost.IsAttempt X (callbackPost X metadata params entry) draws request) :
    RedeemsCode X lossy metadata params entry draws request :=
  posted_tokenRequest hlossy h

end Shown

/-- The session of a callback is bound to the entry it took. -/
structure SessionBound (X : Crates) (lossy : List UInt8 → String) (metadata : ClientMetadata)
    (params : CallbackParams) (entry : StoredStateEntry) (draws : List AttemptDraw)
    (requests : List ClientRequest) (session : OAuthSession) : Prop where
  issuer : ∃ iss, params.iss = some iss ∧ normalizeIssuer iss = normalizeIssuer entry.issuer
  requests : ∀ request ∈ requests, RedeemsCode X lossy metadata params entry draws request
  sub : entry.did = some session.sub
  dpopKey : session.dpopKey = entry.dpopKey
  authServerIssuer : session.authServerIssuer = some entry.issuer
  tokenEndpoint : session.tokenEndpoint = some entry.tokenEndpoint
  pdsEndpoint : session.pdsEndpoint = some entry.pdsEndpoint
  tokenType : Text.eqIgnoreAsciiCase session.tokenType "DPoP" = true
  atproto : session.HasAtproto

/-- The requests of one callback. -/
theorem drop_sent {W R : Type} {X : Crates} {r : FormPost R} {draws : List AttemptDraw}
    {c c' : Client W} (h : FormPost.Sends X r draws c c') :
    ∀ request ∈ c'.sent.drop c.sent.length, FormPost.IsAttempt X r draws request := by
  obtain ⟨requests, hsent, hattempts⟩ := h
  rw [hsent, List.drop_left]
  exact hattempts

theorem SessionBound.of_finish {W : Type} {X : Crates} {net : Network W}
    {metadata : OAuthClientMetadata} {stateTtl : Duration} {tr : List (LoginAction × LoginEvent)}
    {params : CallbackParams} {entry : StoredStateEntry} {checked created : SystemTime}
    {first second : AttemptDraw} {c : Client W} {session : OAuthSession} {lossy : List UInt8 → String}
    (hlossy : ∀ text, lossy (Text.asBytes text) = text)
    (htaken : LoginSystem.Taken metadata stateTtl tr params entry)
    (h : (finishCallback X net metadata.toClientMetadata params (some entry) checked first second
      created c).1 = .ok session) :
    entry.isExpired checked = false ∧
      SessionBound X lossy metadata.toClientMetadata params entry [first, second]
        ((finishCallback X net metadata.toClientMetadata params (some entry) checked first second
          created c).2.sent.drop c.sent.length) session := by
  obtain ⟨entry', resp, heq, hcheck, haccept⟩ := finishCallback_eq_ok h
  cases heq
  obtain ⟨-, hunexpired, hissuer⟩ := checkCallback_eq_ok.1 hcheck
  obtain ⟨hex, hsub, htype, hscope, hkey, hpds, hiss, htoken, -⟩ := acceptExchange_eq_ok haccept
  obtain ⟨record, now, ⟨-, call, endpoints, -, -, hentry⟩, rfl, -⟩ := htaken
  have hdid : record.entry.did = some endpoints.did := by rw [hentry]
  obtain ⟨scope, hs, hat⟩ := hex.scope
  refine ⟨hunexpired, hissuer, fun request hmem => ?_, ?_, hkey, hiss, htoken, hpds, ?_, ?_⟩
  · exact redeemsCode_of_attempt hlossy (drop_sent sends_finishCallback request hmem)
  · rw [hdid, hsub, hex.sub _ hdid]
  · rw [htype]
    exact hex.tokenType
  · exact ⟨scope, hscope.trans hs, hat⟩

/-- A callback that returns a session took an entry, to which the session is bound. -/
theorem bound_of_returned {W : Type} {X : Crates} {net : Network W} {metadata : OAuthClientMetadata}
    {stateTtl : Duration} {s₀ s : LoginSystem W} {tr pre post : List (LoginAction × LoginEvent)}
    {lossy : List UInt8 → String} {params params' : CallbackParams} {taken : Option StoredStateEntry}
    {checked created : SystemTime} {first second : AttemptDraw} {requests : List ClientRequest}
    {session : OAuthSession} (hlossy : ∀ text, lossy (Text.asBytes text) = text) (hinit : s₀.Initial)
    (hr : Exec Exec.anyStep (LoginSystem.step X net metadata stateTtl) s₀ tr s)
    (htr : tr = pre ++ (.finish params taken checked first second created,
      .returned params' requests (.ok session)) :: post) :
    params' = params ∧ ∃ entry, taken = some entry ∧ LoginSystem.Taken metadata stateTtl pre params entry ∧
      entry.isExpired checked = false ∧
      SessionBound X lossy metadata.toClientMetadata params entry [first, second] requests session := by
  obtain ⟨s₁, s₂, hpre, -, hstep⟩ := hr.split_at htr
  obtain ⟨hmem, rfl, hresult, rfl⟩ := LoginSystem.step_returned hstep
  obtain ⟨entry, resp, rfl, -⟩ := finishCallback_eq_ok hresult.symm
  have htaken := (LoginSystem.Origin.run hinit hpre).callbacks _ _ hmem
  obtain ⟨hunexpired, hbound⟩ := SessionBound.of_finish hlossy htaken hresult.symm
  exact ⟨rfl, entry, rfl, htaken, hunexpired, hbound⟩

/-- In every run of a client against arbitrary servers: a callback that returns a session took an
    unexpired entry that a login of this client stored under its state, and its session is bound to
    that entry; every request ever sent pushes the challenge of a login, or redeems the code of a callback
    with the verifier of the entry it took; and a callback without a matching issuer sends nothing. -/
theorem callback_session_binding {W : Type} {X : Crates} {net : Network W}
    {metadata : OAuthClientMetadata} {stateTtl : Duration} {s₀ s : LoginSystem W}
    {tr : List (LoginAction × LoginEvent)} {lossy : List UInt8 → String}
    (hlossy : ∀ text, lossy (Text.asBytes text) = text) (hinit : s₀.Initial)
    (hr : Exec Exec.anyStep (LoginSystem.step X net metadata stateTtl) s₀ tr s) :
    (∀ pre post params taken checked first second created params' requests session,
      tr = pre ++ (.finish params taken checked first second created,
        .returned params' requests (.ok session)) :: post →
      params' = params ∧ ∃ entry, taken = some entry ∧
        LoginSystem.Taken metadata stateTtl pre params entry ∧ entry.isExpired checked = false ∧
        SessionBound X lossy metadata.toClientMetadata params entry [first, second] requests session) ∧
    (∀ request ∈ s.client.sent,
      (∃ call endpoints event, (.login call, event) ∈ tr ∧ call.discovery = .ok endpoints ∧
        PushesChallenge X lossy metadata call endpoints request) ∨
      ∃ params entry checked first second created event,
        (.finish params (some entry) checked first second created, event) ∈ tr ∧
        LoginSystem.Taken metadata stateTtl tr params entry ∧
        RedeemsCode X lossy metadata.toClientMetadata params entry [first, second] request) ∧
    (∀ params taken checked first second created params' requests result,
      (.finish params taken checked first second created, .returned params' requests result) ∈ tr →
      (∀ iss entry, params.iss = some iss → taken = some entry →
        normalizeIssuer iss ≠ normalizeIssuer entry.issuer) →
      requests = []) := by
  refine ⟨?_, ?_, ?_⟩
  · rintro pre post params taken checked first second created params' requests session htr
    exact bound_of_returned hlossy hinit hr htr
  · intro request hmem
    rcases (LoginSystem.Origin.run hinit hr).sent request hmem with
      ⟨call, endpoints, event, hlogin, hdiscovery, hattempt⟩ |
      ⟨params, entry, checked, first, second, created, event, hfinish, htaken, hattempt⟩
    · exact Or.inl ⟨call, endpoints, event, hlogin, hdiscovery,
        pushesChallenge_of_attempt hlossy hattempt⟩
    · exact Or.inr ⟨params, entry, checked, first, second, created, event, hfinish, htaken,
        redeemsCode_of_attempt hlossy hattempt⟩
  · rintro params taken checked first second created params' requests result hmem hissuer
    obtain ⟨pre, post, htr⟩ := List.append_of_mem hmem
    obtain ⟨s₁, s₂, -, -, hstep⟩ := hr.split_at htr
    obtain ⟨-, -, -, rfl⟩ := LoginSystem.step_returned hstep
    have hrejected : ∀ entry, taken = some entry → checkCallback params entry checked ≠ .ok () := by
      intro entry htaken hok
      obtain ⟨-, -, iss, hiss, hnorm⟩ := checkCallback_eq_ok.1 hok
      exact hissuer iss entry hiss htaken hnorm
    rw [finishCallback_of_rejected hrejected, List.drop_length]

/-! ## A confidential client at work

A login of a client with a key of its own, and the callback of that login, with the keys, digests and
signatures that these documents have. The verifier and its challenge are those of RFC 7636. -/

/-- The first element with a value is the element, if no other one has its value. -/
theorem find?_of_nodup {α β : Type} [DecidableEq β] {f : α → β} {l : List α} {a : α} (h : a ∈ l)
    (hnodup : (l.map f).Nodup) : l.find? (fun b => f b = f a) = some a := by
  induction l with
  | nil => cases h
  | cons b l ih =>
    obtain ⟨hb, hl⟩ := List.nodup_cons.1 hnodup
    rcases List.mem_cons.1 h with rfl | hmem
    · simp
    · have hne : f b ≠ f a := fun heq => hb (heq ▸ List.mem_map_of_mem hmem)
      rw [List.find?_cons_of_neg (by simpa using hne), ih hmem hl]

namespace LoginSample

open DirectorySample (did)

def clientId : String := "https://app.example.com/client-metadata.json"

def issuer : String := "https://auth.example.com"

def parEndpoint : String := "https://auth.example.com/oauth/par"

def tokenEndpoint : String := "https://auth.example.com/oauth/token"

/-- The key that authenticates the client, with the scalar 33, 34, …, 64. -/
def clientKey : DPoPKey where
  signingKey := { scalar := (List.range 32).map fun n => UInt8.ofNat (n + 33) }

def clientVerifyingKey : VerifyingKey where
  x := [31, 20, 1, 70, 191, 177, 178, 81, 248, 79, 77, 219, 224, 212, 205, 207, 215, 122, 253, 152,
    74, 149, 32, 227, 87, 148, 2, 31, 131, 18, 187, 158]
  y := [236, 153, 90, 8, 177, 250, 119, 4, 223, 61, 204, 11, 80, 169, 102, 82, 99, 251, 119, 17, 249,
    95, 159, 138, 68, 156, 80, 150, 228, 124, 137, 43]
  x_length := rfl
  y_length := rfl

/-- The SHA-256 digest of the canonical form of that key. -/
def clientKeyHash : List UInt8 :=
  [181, 24, 251, 238, 208, 23, 219, 22, 73, 168, 20, 58, 56, 135, 205, 218, 11, 247, 253, 243,
    251, 36, 78, 175, 95, 50, 7, 41, 6, 5, 131, 188]

def entropy : List UInt8 :=
  [116, 24, 223, 180, 151, 153, 224, 37, 79, 250, 96, 125, 216, 173, 187, 186, 22, 212, 37, 77, 105,
    214, 191, 240, 91, 88, 5, 88, 83, 132, 141, 121]

/-- The SHA-256 digest of the verifier. -/
def challengeHash : List UInt8 :=
  [19, 211, 30, 150, 26, 26, 216, 236, 47, 22, 177, 12, 76, 152, 46, 8, 118, 168, 120, 173, 109,
    241, 68, 86, 110, 225, 137, 74, 203, 112, 249, 195]

/-! ### The documents -/

mutual

/-- JSON printing, of texts without characters that are escaped. -/
def render : Json → String
  | .null => "null"
  | .bool b => if b then "true" else "false"
  | .int n => toString n
  | .float literal => literal
  | .str s => "\"" ++ s ++ "\""
  | .arr items => "[" ++ ",".intercalate (renderItems items) ++ "]"
  | .obj members => "\x7b" ++ ",".intercalate (renderMembers members) ++ "\x7d"

def renderItems : List Json → List String
  | [] => []
  | j :: items => render j :: renderItems items

def renderMembers : List (String × Json) → List String
  | [] => []
  | (name, j) :: members => ("\"" ++ name ++ "\":" ++ render j) :: renderMembers members

end

/-- The document of the DID. -/
def didJson : Json :=
  .obj [("id", .str did),
    ("service", .arr [.obj [("id", .str "#atproto_pds"), ("type", .str "AtprotoPersonalDataServer"),
      ("serviceEndpoint", .str "https://pds.example.com")]])]

/-- The document of the PDS. -/
def pdsJson : Json :=
  .obj [("resource", .str "https://pds.example.com"), ("authorization_servers", .arr [.str issuer])]

/-- The document of the authorization server. -/
def asJson : Json :=
  .obj [("issuer", .str issuer),
    ("authorization_endpoint", .str "https://auth.example.com/oauth/authorize"),
    ("token_endpoint", .str tokenEndpoint),
    ("pushed_authorization_request_endpoint", .str parEndpoint),
    ("require_pushed_authorization_requests", .bool true),
    ("dpop_signing_alg_values_supported", .arr [.str "ES256"]),
    ("code_challenge_methods_supported", .arr [.str "S256"]),
    ("response_types_supported", .arr [.str "code"]),
    ("grant_types_supported", .arr [.str "authorization_code", .str "refresh_token"]),
    ("token_endpoint_auth_methods_supported", .arr [.str "none", .str "private_key_jwt"]),
    ("token_endpoint_auth_signing_alg_values_supported", .arr [.str "ES256"]),
    ("scopes_supported", .arr [.str "atproto"]),
    ("authorization_response_iss_parameter_supported", .bool true),
    ("client_id_metadata_document_supported", .bool true)]

/-- The answer to the pushed request. -/
def parAnswer : Json :=
  .obj [("request_uri", .str "urn:ietf:params:oauth:request_uri:6esc_11ACC5bwc014ltc14eY22c"),
    ("expires_in", .int 60)]

/-- The answer to the token request. -/
def tokenAnswer : Json :=
  .obj [("access_token", .str "at-Kz8mBcLKvwA5pSbm"), ("token_type", .str "DPoP"),
    ("expires_in", .int 3600), ("refresh_token", .str "rt-tGzv3JOkF0XG5Qx2TlKWIA"),
    ("scope", .str "atproto"), ("sub", .str did)]

/-- A token that the client signs. -/
structure Signed where
  key : SigningKey
  header : Json
  payload : Json
  signature : List UInt8

def Signed.message (s : Signed) : List UInt8 :=
  Text.asBytes (signingInput (Text.asBytes (render s.header)) (Text.asBytes (render s.payload)))

def jti (n : UInt8) : List UInt8 := List.replicate 16 n

def assertion (n : UInt8) (iat : Nat) (signature : List UInt8) : Signed where
  key := clientKey.signingKey
  header := assertionHeader (base64urlEncode clientKeyHash)
  payload := assertionPayload clientId issuer (base64urlEncode (jti n)) iat
  signature := signature

def proof (n : UInt8) (htu : String) (nonce : Option String) (iat : Nat) (signature : List UInt8) :
    Signed where
  key := ClientSample.key.signingKey
  header := proofHeader ClientSample.jwk
  payload := proofPayload (base64urlEncode (jti n)) "POST" htu nonce none iat
  signature := signature

def parAssertion : Signed := assertion 0 1700000000
  [113, 214, 225, 87, 10, 193, 163, 75, 65, 82, 66, 110, 148, 167, 255, 50, 105, 240, 34, 199,
    3, 118, 125, 236, 196, 25, 226, 232, 95, 210, 132, 131, 209, 41, 134, 142, 106, 7, 195, 146,
    254, 245, 44, 251, 40, 129, 189, 204, 116, 87, 15, 97, 163, 109, 11, 181, 109, 155, 11, 198,
    101, 202, 67, 81]

def parProof : Signed := proof 1 parEndpoint none 1700000000
  [87, 235, 196, 146, 178, 140, 55, 142, 38, 244, 111, 212, 2, 165, 168, 36, 130, 243, 250, 102,
    47, 249, 138, 76, 48, 221, 197, 27, 249, 22, 18, 109, 188, 128, 101, 108, 70, 238, 145, 184,
    26, 54, 117, 186, 76, 75, 223, 190, 30, 236, 69, 116, 71, 62, 178, 105, 215, 72, 21, 110, 6,
    248, 178, 229]

def tokenAssertion : Signed := assertion 2 1700000020
  [85, 23, 41, 122, 100, 7, 84, 186, 143, 83, 194, 125, 33, 246, 176, 190, 253, 241, 38, 58, 19,
    222, 32, 185, 92, 84, 216, 157, 207, 165, 95, 255, 216, 179, 117, 162, 174, 170, 226, 47,
    58, 126, 228, 118, 136, 33, 91, 11, 161, 71, 235, 47, 215, 47, 33, 225, 221, 202, 20, 62,
    38, 204, 86, 9]

def tokenProof : Signed := proof 3 tokenEndpoint (some ClientSample.nonce) 1700000020
  [66, 25, 110, 88, 177, 150, 131, 87, 219, 185, 118, 154, 55, 245, 68, 158, 63, 213, 190, 54,
    199, 37, 24, 16, 171, 187, 125, 244, 247, 89, 158, 40, 150, 63, 128, 124, 29, 95, 70, 198,
    159, 82, 6, 189, 9, 180, 25, 29, 191, 86, 102, 86, 249, 183, 109, 180, 71, 254, 55, 5, 205,
    59, 33, 246]

/-- The assertions of second attempts. -/
def parRetryAssertion : Signed := assertion 4 1700000001
  [27, 177, 178, 187, 195, 131, 236, 161, 215, 55, 196, 83, 161, 98, 237, 14, 92, 20, 74, 211,
    124, 131, 201, 181, 97, 115, 135, 24, 227, 134, 116, 207, 47, 219, 80, 222, 240, 87, 23,
    100, 235, 195, 210, 25, 220, 228, 134, 187, 161, 212, 1, 16, 246, 232, 22, 82, 131, 177, 50,
    82, 151, 34, 18, 208]

def tokenRetryAssertion : Signed := assertion 6 1700000021
  [206, 70, 182, 71, 87, 184, 88, 56, 192, 90, 247, 131, 46, 73, 115, 130, 187, 23, 100, 37,
    247, 67, 74, 78, 25, 208, 222, 151, 2, 232, 46, 103, 86, 167, 221, 111, 199, 242, 223, 40,
    179, 75, 23, 146, 229, 237, 234, 43, 19, 147, 18, 234, 219, 167, 70, 201, 138, 222, 131, 13,
    194, 88, 3, 34]

def signed : List Signed :=
  [parAssertion, parProof, tokenAssertion, tokenProof, parRetryAssertion, tokenRetryAssertion]

def documents : List Json :=
  [didJson, pdsJson, asJson, parAnswer, tokenAnswer, parAssertion.header, parProof.header] ++
    signed.map Signed.payload

/-! ### The external functions -/

/-- JSON parsing, of the documents. -/
def parse (bytes : List UInt8) : Except String Json :=
  match documents.find? fun j => Text.asBytes (render j) = bytes with
  | some j => .ok j
  | none => .error "expected value at line 1 column 1"

/-- The signatures of the tokens. -/
def sign (key : SigningKey) (message : List UInt8) : List UInt8 :=
  match signed.find? fun s => (s.key, s.message) = (key, message) with
  | some s => s.signature
  | none => List.replicate 64 0

def verifyingKey (key : SigningKey) : VerifyingKey :=
  if key = clientKey.signingKey then clientVerifyingKey else ClientSample.verifyingKey

/-- The parsing of `https` URLs with a host and a path. -/
def parseUrl (text : String) : Except String Url :=
  match Text.stripPrefix text "https://" with
  | none => .error "relative URL without a base"
  | some rest =>
    let host := String.ofList (rest.toList.takeWhile (· != '/'))
    let path := String.ofList (rest.toList.dropWhile (· != '/'))
    .ok { scheme := "https", hostStr := some host, port := none, path := if path = "" then "/" else path,
          origin := "https://" ++ host }

/-- The external functions as they behave on the texts of the sample. -/
def crates : Crates where
  sha256 := fun bytes =>
    if bytes = Text.asBytes (base64urlEncode entropy) then challengeHash else clientKeyHash
  verifyingKey := verifyingKey
  fromSec1Bytes := fun bytes =>
    if bytes = 0x04 :: (clientVerifyingKey.x ++ clientVerifyingKey.y) then .ok clientVerifyingKey
    else if bytes = 0x04 :: (ClientSample.verifyingKey.x ++ ClientSample.verifyingKey.y) then
      .ok ClientSample.verifyingKey
    else .error "signature error"
  ecdsaSign := sign
  signatureFromSlice := fun bytes => if bytes.length = 64 then .ok () else .error "signature error"
  ecdsaVerify := fun key message signature =>
    if ∃ s ∈ signed, verifyingKey s.key = key ∧ s.message = message ∧ s.signature = signature then .ok ()
    else .error "signature error"
  jsonFromSlice := parse
  jsonToString := fun j => .ok (render j)
  urlParse := parseUrl
  base64Error := fun _ => "Invalid padding"
  unicodeUpper := fun c => [c]

theorem nodup_documents : (documents.map render).Nodup := by
  decide +kernel

theorem parse_render {j : Json} (h : j ∈ documents) :
    crates.jsonFromSlice (Text.asBytes (render j)) = .ok j := by
  have hnodup : (documents.map fun j => Text.asBytes (render j)).Nodup := by
    have heq : (documents.map fun j => Text.asBytes (render j)) = (documents.map render).map Text.asBytes :=
      List.map_map.symm
    rw [heq]
    exact nodup_documents.map fun _ _ => Text.asBytes_inj.1
  simp only [crates, parse, find?_of_nodup h hnodup]

theorem message_inj {s s' : Signed} (h : s.message = s'.message) : render s.payload = render s'.payload := by
  have hjwt : compactJwt (Text.asBytes (render s.header)) (Text.asBytes (render s.payload)) [] =
      compactJwt (Text.asBytes (render s'.header)) (Text.asBytes (render s'.payload)) [] := by
    rw [compactJwt, compactJwt, Text.asBytes_inj.1 h]
  exact Text.asBytes_inj.1 (compactJwt_injective hjwt).2.1

theorem sign_message {s : Signed} (h : s ∈ signed) : sign s.key s.message = s.signature := by
  have hpayloads : (signed.map fun s => render s.payload).Nodup := by
    have hsub := (nodup_documents.sublist
      ((List.sublist_append_right _ (signed.map Signed.payload)).map render))
    rwa [List.map_map] at hsub
  have hnodup : (signed.map fun s => (s.key, s.message)).Nodup := by
    rw [List.Nodup, List.pairwise_map] at hpayloads ⊢
    exact hpayloads.imp fun hne heq => hne (message_inj (Prod.mk.inj heq).2)
  rw [sign, find?_of_nodup (f := fun s => (s.key, s.message)) h hnodup]

theorem header_mem {s : Signed} (h : s ∈ signed) : s.header ∈ documents := by
  simp only [signed, List.mem_cons, List.not_mem_nil, or_false] at h
  rcases h with rfl | rfl | rfl | rfl | rfl | rfl
  all_goals simp [documents, tokenAssertion, tokenProof, parAssertion, parProof, parRetryAssertion,
    tokenRetryAssertion, assertion, proof]

theorem length_signature {s : Signed} (h : s ∈ signed) : s.signature.length = 64 := by
  simp only [signed, List.mem_cons, List.not_mem_nil, or_false] at h
  rcases h with rfl | rfl | rfl | rfl | rfl | rfl
  all_goals rfl

/-- The external functions do their job on the tokens. -/
theorem signsProof {key : DPoPKey} {s : Signed} (hs : s ∈ signed) (hkey : s.key = key.signingKey) :
    SignsProof crates key s.header s.payload (render s.header) (render s.payload) where
  print_header := rfl
  print_payload := rfl
  parse_header := parse_render (header_mem hs)
  parse_payload := parse_render (List.mem_append_right _ (List.mem_map_of_mem hs))
  point := by
    have hkeys : clientVerifyingKey.x ++ clientVerifyingKey.y ≠
        ClientSample.verifyingKey.x ++ ClientSample.verifyingKey.y := by decide
    simp only [crates, verifyingKey]
    split
    · rw [if_pos rfl]
    · rw [if_neg fun h => hkeys (List.cons.inj h).2.symm, if_pos rfl]
  signs := by
    have hsign : crates.ecdsaSign key.signingKey s.message = s.signature := by
      rw [← hkey]
      exact sign_message hs
    refine ⟨?_, ?_, ?_⟩
    · exact (congrArg List.length hsign).trans (length_signature hs)
    · exact (congrArg crates.signatureFromSlice hsign).trans (if_pos (length_signature hs))
    · exact if_pos ⟨s, hs, congrArg verifyingKey hkey, rfl, hsign.symm⟩

/-! ### The run -/

/-- An answer with a nonce. -/
def answer (status : Nat) (j : Json) : Response WireBody where
  status := status
  headers := HeaderMap.insertStr [] "dpop-nonce" ClientSample.nonce
  body := WireBody.ofBytes (Text.asBytes (render j))

/-- An honest server. -/
def net : Network Unit where
  buildPinnedClient _ url := (.ok (url.hostStr.getD ""), ())
  send _ request :=
    (.ok (if request.url = parEndpoint then answer 201 parAnswer else answer 200 tokenAnswer), ())

def metadata : OAuthClientMetadata where
  clientId := clientId
  clientKey := some clientKey
  redirectUri := "https://app.example.com/callback"
  scope := "atproto"

def ttl : Duration := Duration.fromSecs 300 Duration.five_minutes_lt

def endpoints : DiscoveredAuthEndpoints where
  did := did
  handle := none
  pdsEndpoint := "https://pds.example.com"
  authServerIssuer := issuer
  parEndpoint := parEndpoint
  authorizationEndpoint := "https://auth.example.com/oauth/authorize"
  tokenEndpoint := tokenEndpoint

def draw (n : UInt8) (secs : Nat) : ProofDraw := { clock := SystemTime.ofSecs secs, jtiBytes := jti n }

def attempt (n : UInt8) (secs : Nat) : AttemptDraw := { assertion := draw n secs, proof := draw (n + 1) secs }

def call : LoginCall where
  scope := "atproto"
  discovery := .ok endpoints
  entropy := entropy
  stateBytes := List.replicate 32 7
  dpopKey := ClientSample.key
  first := attempt 0 1700000000
  second := attempt 4 1700000001
  createdAt := SystemTime.ofSecs 1700000002

def entry : StoredStateEntry := call.storedState crates metadata ttl endpoints

def params : CallbackParams :=
  { code := "SplxlOBeZQQYbYS6WxSbIA", state := call.state, iss := some "https://auth.example.com/" }

def system : LoginSystem Unit where
  store := OAuthStateStore.new (fun _ => 0) ttl
  clock := 0
  client := { nonceCache := ⟨∅⟩, world := (), sent := [] }
  storing := []
  callbacks := []

theorem isCarried_nonce : IsCarried ClientSample.nonce := isCarried_encode (by decide)

theorem jwkThumbprint_clientKey : clientKey.jwkThumbprint crates = base64urlEncode clientKeyHash := by
  decide +kernel

theorem signs_assertion {n : UInt8} {secs : Nat} {signature : List UInt8}
    (h : assertion n secs signature ∈ signed) :
    SignsProof crates clientKey (assertionHeader (clientKey.jwkThumbprint crates))
      (assertionPayload clientId issuer (base64urlEncode (draw n secs).jtiBytes) secs)
      (render (assertion n secs signature).header) (render (assertion n secs signature).payload) := by
  rw [jwkThumbprint_clientKey]
  exact signsProof h rfl

/-- The client authenticates. -/
theorem creates_assertion {n : UInt8} {secs : Nat} {signature : List UInt8}
    (h : assertion n secs signature ∈ signed) :
    ∃ text, clientKey.createClientAssertion crates clientId issuer (draw n secs) = .ok text :=
  ⟨_, createClientAssertion_eq (SystemTime.unixSecs_ofSecs _) (signs_assertion h)⟩

/-- The client proves its key. -/
theorem creates_proof {n : UInt8} {htu : String} {nonce : Option String} {secs : Nat}
    {signature : List UInt8} (h : proof n htu nonce secs signature ∈ signed) (hsecs : secs < 2 ^ 64)
    (hhtu : normalizeHtu crates htu = .ok htu) :
    ∃ text, ClientSample.key.createProof crates "POST" htu nonce none (draw n secs).clock
      (draw n secs).jtiBytes = .ok text ∧ IsPrintable text := by
  have hjwk : ClientSample.key.publicJwk crates = ClientSample.jwk := by
    have hne : ClientSample.key.signingKey ≠ clientKey.signingKey := by decide
    have hkey : crates.verifyingKey ClientSample.key.signingKey = ClientSample.verifyingKey := by
      simp only [crates, verifyingKey, if_neg hne]
    simp only [DPoPKey.publicJwk, hkey]
    rfl
  have hmethod : crates.toUppercase (Text.trim "POST") = "POST" := by rfl
  have hsigns : SignsProof crates ClientSample.key (proofHeader (ClientSample.key.publicJwk crates))
      (proofPayload (base64urlEncode (jti n)) (crates.toUppercase (Text.trim "POST")) htu nonce none secs)
      (render (proof n htu nonce secs signature).header) (render (proof n htu nonce secs signature).payload) := by
    rw [hjwk, hmethod]
    exact signsProof h rfl
  obtain ⟨text, hcreate, hvisible, -⟩ := createProof_spec (SystemTime.unixSecs_ofSecs secs) hsecs hhtu hsigns
  exact ⟨text, hcreate, isPrintable_of_visible hvisible⟩

/-- A URL of this host. -/
def siteUrl (host path : String) : Url where
  scheme := "https"
  hostStr := some host
  port := none
  path := path
  origin := "https://" ++ host

/-- A form that the server answers is posted once. -/
theorem run_answered {R : Type} {r : FormPost R} {c : Client Unit} (first second : AttemptDraw) {path : String}
    {status : Nat} {j : Json} {value : R} (hparse : parseUrl r.endpoint = .ok (siteUrl "auth.example.com" path))
    (hbody : ∃ bytes, r.body first.assertion = .ok bytes)
    (hproof : ∃ text, r.proof crates (c.nonceCache.getNonce issuer) first = .ok text ∧ IsPrintable text)
    (hanswer : (if r.endpoint = parEndpoint then answer 201 parAnswer else answer 200 tokenAnswer) =
      answer status j)
    (hstatus : isSuccess status = true) (hlength : (Text.asBytes (render j)).length ≤ MAX_OAUTH_RESPONSE_BYTES)
    (hvalue : r.parse (Text.asBytes (render j)) = .ok value) :
    ∃ request, request.url = r.endpoint ∧ r.run crates net c first second = (.ok value,
      { nonceCache := c.nonceCache.setNonce issuer ClientSample.nonce, world := (),
        sent := c.sent ++ [request] }) := by
  obtain ⟨bytes, hbytes⟩ := hbody
  obtain ⟨text, htext, hprintable⟩ := hproof
  have hname : IsPrintable "auth.example.com" := Text.forall_mem_of_all (by decide)
  obtain ⟨request, hbuild⟩ := r.exists_build hname hprintable bytes
  have hurl := (FormPost.build_eq_ok hbuild).1
  have hsend : net.send () request = (.ok (answer status j), ()) := by
    rw [← hanswer, ← hurl]
    rfl
  have haccept : r.acceptSuccess (answer status j) = .ok value := by
    simp only [FormPost.acceptSuccess, answer, requireDpopNonce_insertStr isCarried_nonce,
      WireBody.readBoundedBody_ofBytes hlength, hvalue, Fallible.mapError_ok, Fallible.ok_bind]
  have hpin : net.buildPinnedClient c.world (siteUrl "auth.example.com" path) = (.ok "auth.example.com", ()) := by
    rfl
  have hlearn : c.nonceCache.learn issuer (answer status j).headers =
      c.nonceCache.setNonce issuer ClientSample.nonce := by
    simp only [DPoPNonceCache.learn, answer, headerText_insertStr isCarried_nonce.printable,
      isCarried_nonce.extract_eq]
  refine ⟨request, hurl, ?_⟩
  rw [← hlearn]
  exact FormPost.run_of_accepted hparse hpin hbytes htext hbuild hsend hstatus haccept

theorem parseUrl_par : parseUrl parEndpoint = .ok (siteUrl "auth.example.com" "/oauth/par") := by rfl

theorem parseUrl_token : parseUrl tokenEndpoint = .ok (siteUrl "auth.example.com" "/oauth/token") := by rfl

theorem normalizeHtu_par : normalizeHtu crates parEndpoint = .ok parEndpoint := by rfl

theorem normalizeHtu_token : normalizeHtu crates tokenEndpoint = .ok tokenEndpoint := by rfl

def parResponse : ParResponse where
  requestUri := "urn:ietf:params:oauth:request_uri:6esc_11ACC5bwc014ltc14eY22c"
  expiresIn := 60

def tokenResponse : TokenResponse where
  accessToken := "at-Kz8mBcLKvwA5pSbm"
  tokenType := "DPoP"
  expiresIn := some 3600
  refreshToken := some "rt-tGzv3JOkF0XG5Qx2TlKWIA"
  scope := some "atproto"
  sub := did

/-- The client after its login. -/
def loggedIn (par : ClientRequest) : Client Unit where
  nonceCache := system.client.nonceCache.setNonce issuer ClientSample.nonce
  world := ()
  sent := [par]

theorem body_par : ∃ bytes, (call.parPost crates metadata endpoints).body call.first.assertion = .ok bytes := by
  have hassertion : parAssertion ∈ signed := List.mem_cons_self
  obtain ⟨text, htext⟩ := creates_assertion hassertion
  have hid : (call.parParameters crates metadata endpoints).clientId = clientId := rfl
  rw [← hid] at htext
  exact exists_parBody rfl htext

theorem proof_par : ∃ text, (call.parPost crates metadata endpoints).proof crates
    (system.client.nonceCache.getNonce issuer) call.first = .ok text ∧ IsPrintable text := by
  have hproof : parProof ∈ signed := List.mem_cons_of_mem _ List.mem_cons_self
  obtain ⟨text, htext, hprintable⟩ := creates_proof hproof (by decide) normalizeHtu_par
  exact ⟨text, Fallible.mapError_eq_ok.2 htext, hprintable⟩

theorem parse_parAnswer : (call.parPost crates metadata endpoints).parse (Text.asBytes (render parAnswer)) =
    .ok parResponse := by
  have hparse : crates.jsonFromSlice (Text.asBytes (render parAnswer)) = .ok parAnswer :=
    parse_render (by simp [documents])
  simp only [LoginCall.parPost, ParParameters.formPost, parseParResponse, hparse]
  decide

/-- The pushed request is answered. -/
theorem run_par : ∃ par, par.url = parEndpoint ∧
    (call.parPost crates metadata endpoints).run crates net system.client call.first call.second =
      (.ok parResponse, loggedIn par) :=
  run_answered _ _ parseUrl_par body_par proof_par (if_pos rfl) rfl (by decide +kernel) parse_parAnswer

theorem body_token : ∃ bytes, (callbackPost crates metadata.toClientMetadata params entry).body
    (attempt 2 1700000020).assertion = .ok bytes := by
  have hassertion : tokenAssertion ∈ signed := by simp [signed]
  obtain ⟨text, htext⟩ := creates_assertion hassertion
  exact exists_tokenBody rfl htext

theorem proof_token (par : ClientRequest) : ∃ text,
    (callbackPost crates metadata.toClientMetadata params entry).proof crates
      ((loggedIn par).nonceCache.getNonce issuer) (attempt 2 1700000020) = .ok text ∧ IsPrintable text := by
  have hproof : tokenProof ∈ signed := by simp [signed]
  have hnonce : (loggedIn par).nonceCache.getNonce issuer = some ClientSample.nonce := AList.lookup_insert _
  obtain ⟨text, htext, hprintable⟩ := creates_proof hproof (by decide) normalizeHtu_token
  rw [hnonce]
  exact ⟨text, Fallible.mapError_eq_ok.2 htext, hprintable⟩

theorem parse_tokenAnswer : (callbackPost crates metadata.toClientMetadata params entry).parse
    (Text.asBytes (render tokenAnswer)) = .ok tokenResponse := by
  have hparse : crates.jsonFromSlice (Text.asBytes (render tokenAnswer)) = .ok tokenAnswer :=
    parse_render (by simp [documents])
  have hresponse : TokenResponse.fromJson tokenAnswer = .ok tokenResponse := by decide
  simp only [callbackPost, TokenRequest.formPost, hparse, Fallible.ok_bind, hresponse, Fallible.mapError_ok]

/-- The token request is answered. -/
theorem run_token (par : ClientRequest) : ∃ token, token.url = tokenEndpoint ∧
    (callbackPost crates metadata.toClientMetadata params entry).run crates net (loggedIn par)
      (attempt 2 1700000020) (attempt 6 1700000021) =
        (.ok tokenResponse, { loggedIn par with
          nonceCache := (loggedIn par).nonceCache.setNonce issuer ClientSample.nonce
          sent := [par, token] }) :=
  run_answered _ _ parseUrl_token body_token (proof_token par) (if_neg (by decide)) rfl (by decide +kernel)
    parse_tokenAnswer

/-- The login gets to the insertion of its entry. -/
theorem initiated : ∃ par authorization, par.url = parEndpoint ∧
    call.initiate crates net metadata ttl system.client = (.ok (authorization, entry), loggedIn par) := by
  obtain ⟨par, hurl, hrun⟩ := run_par
  have hparse : crates.urlParse endpoints.authorizationEndpoint = .ok (siteUrl "auth.example.com" "/oauth/authorize") := by rfl
  obtain ⟨authorization, hauthorization⟩ : ∃ authorization,
      call.authorizationRequest crates metadata endpoints parResponse = .ok authorization := by
    simp only [LoginCall.authorizationRequest, hparse]
    exact ⟨_, rfl⟩
  exact ⟨par, authorization, hurl, LoginSystem.initiate_of_answered rfl hrun hauthorization⟩

/-- The callback returns a session for the account. -/
theorem finished (par : ClientRequest) : ∃ token session c, token.url = tokenEndpoint ∧ session.sub = did ∧
    c.sent = [par, token] ∧
    finishCallback crates net metadata.toClientMetadata params (some entry) (SystemTime.ofSecs 1700000019)
      (attempt 2 1700000020) (attempt 6 1700000021) (SystemTime.ofSecs 1700000022) (loggedIn par) =
        (.ok session, c) := by
  obtain ⟨token, hurl, hrun⟩ := run_token par
  have hissuer : normalizeIssuer "https://auth.example.com/" = normalizeIssuer issuer := by decide +kernel
  have hcheck : checkCallback params entry (SystemTime.ofSecs 1700000019) = .ok () :=
    checkCallback_eq_ok.2 ⟨rfl, rfl, _, rfl, hissuer⟩
  obtain ⟨session, haccept, hsub⟩ : ∃ session,
      acceptExchange entry tokenResponse (SystemTime.ofSecs 1700000022) = .ok session ∧ session.sub = did :=
    ⟨_, rfl, rfl⟩
  refine ⟨token, session, _, hurl, hsub, ?_, (finishCallback_of_answered hcheck hrun).trans (by rw [haccept])⟩
  rfl

theorem initial_system : system.Initial := ⟨fun _ => rfl, rfl, rfl, rfl⟩

/-- A login, and the first half of its callback. -/
def before : List (LoginAction × LoginEvent) :=
  [(.login call, .initiated (.ok entry)),
    (.store (StoredStateRecord.new entry ttl 0), .stored (StoredStateRecord.new entry ttl 0) (.ok ())),
    (.callback params, .taken params (some entry) 0)]

/-- The second half of the callback. -/
def finish : LoginAction :=
  .finish params (some entry) (SystemTime.ofSecs 1700000019) (attempt 2 1700000020) (attempt 6 1700000021)
    (SystemTime.ofSecs 1700000022)

/-- The callback returns a session for the account, after two requests. -/
theorem exec_finish : ∃ par token session s, par.url = parEndpoint ∧ token.url = tokenEndpoint ∧
    session.sub = did ∧ s.client.sent = [par, token] ∧
    Exec Exec.anyStep (LoginSystem.step crates net metadata ttl) system
      (before ++ [(finish, .returned params [token] (.ok session))]) s := by
  obtain ⟨par, authorization, hpar, hinitiate⟩ := initiated
  obtain ⟨token, session, c, htoken, hsub, hsent, hfinish⟩ := finished par
  have hinsert : (system.store.insertRecord entry.state (StoredStateRecord.new entry ttl 0) 0).1 = .ok () := by rfl
  have htake : ((system.store.insertRecord entry.state (StoredStateRecord.new entry ttl 0) 0).2.takeStateSync
      params.state 0).1 = some entry := by rfl
  have hr := LoginSystem.exec_of_answered (StoredStateRecord.new entry ttl 0) rfl hinitiate
    (Prod.ext hinsert rfl) (Prod.ext htake rfl) hfinish
  rw [hsent] at hr
  exact ⟨par, token, session, _, hpar, htoken, hsub, hsent, hr⟩

/-- The only login of the run. -/
theorem login_of_mem {e event : LoginEvent} {call' : LoginCall}
    (h : (.login call', event) ∈ before ++ [(finish, e)]) : call' = call := by
  simp only [before, finish, List.cons_append, List.nil_append, List.mem_cons, Prod.mk.injEq,
    LoginAction.login.injEq, reduceCtorEq, false_and, List.not_mem_nil, or_false] at h
  exact h.1

/-- The only callback of the run. -/
theorem finish_of_mem {e event : LoginEvent} {params' : CallbackParams} {entry' : StoredStateEntry}
    {checked created : SystemTime} {first second : AttemptDraw}
    (h : (.finish params' (some entry') checked first second created, event) ∈ before ++ [(finish, e)]) :
    entry' = entry ∧ first = attempt 2 1700000020 ∧ second = attempt 6 1700000021 := by
  simp only [before, finish, List.cons_append, List.nil_append, List.mem_cons, Prod.mk.injEq,
    LoginAction.finish.injEq, Option.some.injEq, reduceCtorEq, false_and, false_or, List.not_mem_nil,
    or_false] at h
  exact ⟨h.1.2.1, h.1.2.2.2.1, h.1.2.2.2.2.1⟩

end LoginSample

open LoginSample in
/-- The sample client pushes the challenge of its verifier, and its session is bound to the entry. -/
theorem callback_session_binding_sample : ∃ par token session, session.sub = DirectorySample.did ∧
    PushesChallenge crates Form.utf8 metadata call endpoints par ∧
    LoginSystem.Taken metadata ttl before params entry ∧
    SessionBound crates Form.utf8 metadata.toClientMetadata params entry
      [attempt 2 1700000020, attempt 6 1700000021] [token] session := by
  obtain ⟨par, token, session, s, hpar, -, hsub, hsent, hr⟩ := exec_finish
  obtain ⟨hsessions, hrequests, -⟩ := callback_session_binding Form.utf8_asBytes initial_system hr
  obtain ⟨-, entry', heq, htaken, -, hbound⟩ := hsessions before [] _ _ _ _ _ _ _ _ _ rfl
  cases heq
  refine ⟨par, token, session, hsub, ?_, htaken, hbound⟩
  rcases hrequests par (hsent ▸ List.mem_cons_self) with
    ⟨call', endpoints', event, hlogin, hdiscovery, hpushes⟩ |
    ⟨params', entry', checked, first, second, created, event, hfinish, htaken', hredeems⟩
  · obtain rfl := login_of_mem hlogin
    cases hdiscovery
    exact hpushes
  · obtain ⟨rfl, -, -⟩ := finish_of_mem hfinish
    exact absurd (hpar.symm.trans hredeems.url) (by decide)

end Skyauth
