import Skyauth.Proofs.LoginProofs
import Skyauth.Proofs.PkceProofs

/-!
# Proofs: the forms that are posted

What an authorization server learns in a login is known: a token request carries the verifier of the
challenge that was pushed before it, under the state of its callback.
-/

namespace Skyauth

/-! ## A login and its callback -/

namespace LoginSystem

section

variable (X : Crates) (metadata : OAuthClientMetadata) (stateTtl : Duration)
  (tr : List (LoginAction × LoginEvent))

/-- The entry is of a login of the run, which pushed this request. -/
def PushedFor (par : ClientRequest) (entry : StoredStateEntry) : Prop :=
  ∃ call event endpoints, (.login call, event) ∈ tr ∧ call.discovery = .ok endpoints ∧
    entry = call.storedState X metadata stateTtl endpoints ∧
    FormPost.IsAttempt X (call.parPost X metadata endpoints) [call.first, call.second] par

/-- The request is pushed by a login, or redeems the code of a callback for an entry whose login has
    pushed a request before. -/
def Founded (pre : List ClientRequest) (request : ClientRequest) : Prop :=
  (∃ entry, PushedFor X metadata stateTtl tr request entry) ∨
  ∃ params entry now checked first second created event,
    (.callback params, .taken params (some entry) now) ∈ tr ∧ entry.state = params.state ∧
    (.finish params (some entry) checked first second created, event) ∈ tr ∧
    FormPost.IsAttempt X (callbackPost X metadata.toClientMetadata params entry) [first, second] request ∧
    ∃ par ∈ pre, PushedFor X metadata stateTtl tr par entry

/-- What is known about the requests of a run. -/
structure Paired {W : Type} (s : LoginSystem W) : Prop where
  logins : ∀ call entry, (.login call, .initiated (.ok entry)) ∈ tr →
    ∃ par ∈ s.client.sent, PushedFor X metadata stateTtl tr par entry
  sent : History.Justified (Founded X metadata stateTtl tr) s.client.sent

end

variable {W : Type} {X : Crates} {net : Network W} {metadata : OAuthClientMetadata}
  {stateTtl : Duration} {tr : List (LoginAction × LoginEvent)} {s₀ s s' : LoginSystem W}
  {a : LoginAction} {e : LoginEvent} {x : LoginAction × LoginEvent}

theorem PushedFor.snoc {par : ClientRequest} {entry : StoredStateEntry}
    (h : PushedFor X metadata stateTtl tr par entry) :
    PushedFor X metadata stateTtl (tr ++ [x]) par entry := by
  obtain ⟨call, event, endpoints, hmem, h⟩ := h
  exact ⟨call, event, endpoints, List.mem_append_left _ hmem, h⟩

theorem Founded.snoc {pre : List ClientRequest} {request : ClientRequest}
    (h : Founded X metadata stateTtl tr pre request) :
    Founded X metadata stateTtl (tr ++ [x]) pre request := by
  rcases h with ⟨entry, h⟩ |
    ⟨params, entry, now, checked, first, second, created, event, htaken, hstate, hfinish, hattempt, par,
      hpar, h⟩
  · exact Or.inl ⟨entry, h.snoc⟩
  · exact Or.inr ⟨params, entry, now, checked, first, second, created, event, List.mem_append_left _ htaken,
      hstate, List.mem_append_left _ hfinish, hattempt, par, hpar, h.snoc⟩

theorem Founded.append {pre : List ClientRequest} (more : List ClientRequest) {request : ClientRequest}
    (h : Founded X metadata stateTtl tr pre request) :
    Founded X metadata stateTtl tr (pre ++ more) request := by
  rcases h with h |
    ⟨params, entry, now, checked, first, second, created, event, htaken, hstate, hfinish, hattempt, par,
      hpar, h⟩
  · exact Or.inl h
  · exact Or.inr ⟨params, entry, now, checked, first, second, created, event, htaken, hstate, hfinish,
      hattempt, par, List.mem_append_left _ hpar, h⟩

/-- A step that sends what is founded. -/
theorem Paired.extend {client : Client W} {requests : List ClientRequest} (h : Paired X metadata stateTtl tr s)
    (hclient : s'.client = client) (hsent : client.sent = s.client.sent ++ requests)
    (hrequests : ∀ request ∈ requests, Founded X metadata stateTtl (tr ++ [x]) s.client.sent request)
    (hlogin : ∀ call entry, x = (.login call, .initiated (.ok entry)) →
      ∃ par ∈ client.sent, PushedFor X metadata stateTtl (tr ++ [x]) par entry) :
    Paired X metadata stateTtl (tr ++ [x]) s' := by
  refine ⟨fun call entry hmem => ?_, ?_⟩
  · rw [hclient]
    rcases List.mem_append.1 hmem with hold | hnew
    · obtain ⟨par, hpar, hpushed⟩ := h.logins call entry hold
      exact ⟨par, hsent ▸ List.mem_append_left _ hpar, hpushed.snoc⟩
    · exact hlogin call entry (List.mem_singleton.1 hnew).symm
  · rw [hclient, hsent]
    exact (h.sent.imp fun _ _ hf => hf.snoc).append (fun _ more _ hf => hf.append more) hrequests

/-- A login that got its answers has pushed its request. -/
theorem pushed_of_initiate {call : LoginCall} {c c' : Client W} {request : AuthorizationRequest}
    {entry : StoredStateEntry}
    (h : call.initiate X net metadata stateTtl c = (.ok (request, entry), c')) :
    ∃ endpoints, call.discovery = .ok endpoints ∧ entry = call.storedState X metadata stateTtl endpoints ∧
      ∃ par ∈ c'.sent,
        FormPost.IsAttempt X (call.parPost X metadata endpoints) [call.first, call.second] par := by
  unfold LoginCall.initiate at h
  split at h
  · cases h
  · rename_i endpoints hdiscovery
    split at h
    · cases h
    · rename_i par c₁ hrun
      split at h
      · cases h
      · cases h
        exact ⟨endpoints, hdiscovery, rfl, FormPost.run_eq_ok hrun⟩

/-- The requests of a login. -/
theorem Paired.login {call : LoginCall} (h : Paired X metadata stateTtl tr s)
    (hstep : s.step X net metadata stateTtl (.login call) = some (s', e)) :
    Paired X metadata stateTtl (tr ++ [(.login call, e)]) s' := by
  have hlast : (.login call, e) ∈ tr ++ [(.login call, e)] :=
    List.mem_append_right _ (List.mem_singleton.2 rfl)
  obtain ⟨requests, hsent, hrequests⟩ : ∃ requests,
      (call.initiate X net metadata stateTtl s.client).2.sent = s.client.sent ++ requests ∧
      ∀ request ∈ requests,
        Founded X metadata stateTtl (tr ++ [(.login call, e)]) s.client.sent request := by
    rcases sends_initiate X net metadata stateTtl call s.client with
      hsame | ⟨endpoints, hdiscovery, requests, hsent, hattempts⟩
    · exact ⟨[], by simp [hsame], by simp⟩
    · exact ⟨requests, hsent, fun request hmem =>
        Or.inl ⟨_, call, e, endpoints, hlast, hdiscovery, rfl, hattempts request hmem⟩⟩
  simp only [step] at hstep
  cases hinit : call.initiate X net metadata stateTtl s.client with
  | mk result client =>
    rw [hinit] at hsent hstep
    cases result with
    | error err =>
      cases hstep
      exact h.extend rfl hsent hrequests fun call' entry heq => by cases heq
    | ok value =>
      obtain ⟨request, entry⟩ := value
      cases hstep
      refine h.extend rfl hsent hrequests fun call' entry' heq => ?_
      cases heq
      obtain ⟨endpoints, hdiscovery, hentry, par, hpar, hattempt⟩ := pushed_of_initiate hinit
      exact ⟨par, hpar, call, _, endpoints, hlast, hdiscovery, hentry, hattempt⟩

/-- The requests of the second half of a callback. -/
theorem Paired.finish {params : CallbackParams} {taken : Option StoredStateEntry}
    {checked created : SystemTime} {first second : AttemptDraw} (h : Paired X metadata stateTtl tr s)
    (horigin : Origin X metadata stateTtl tr s)
    (hstep : s.step X net metadata stateTtl (.finish params taken checked first second created) =
      some (s', e)) :
    Paired X metadata stateTtl (tr ++ [(.finish params taken checked first second created, e)]) s' := by
  simp only [step] at hstep
  split at hstep
  · rename_i hmem
    cases hstep
    cases taken with
    | none => exact h.extend rfl (List.append_nil _).symm (by simp) fun _ _ heq => by cases heq
    | some entry =>
      obtain ⟨record, now, hstored, rfl, hstate, htaken, -⟩ := horigin.callbacks params entry hmem
      obtain ⟨call, endpoints, hlogin, -, -⟩ := hstored.2
      obtain ⟨par, hpar, hpushed⟩ := h.logins call _ hlogin
      obtain ⟨requests, hsent, hattempts⟩ := sends_finishCallback (X := X) (c := s.client)
      exact h.extend rfl hsent
        (fun request hr => Or.inr ⟨params, _, now, checked, first, second, created, _,
          List.mem_append_left _ htaken, hstate, List.mem_append_right _ (List.mem_singleton.2 rfl),
          hattempts request hr, par, hpar, hpushed.snoc⟩)
        fun _ _ heq => by cases heq
  · cases hstep

theorem Paired.step (h : Paired X metadata stateTtl tr s) (horigin : Origin X metadata stateTtl tr s)
    (hstep : s.step X net metadata stateTtl a = some (s', e)) :
    Paired X metadata stateTtl (tr ++ [(a, e)]) s' := by
  cases a with
  | login call => exact h.login hstep
  | finish => exact h.finish horigin hstep
  | tick now =>
    simp only [LoginSystem.step] at hstep
    split at hstep
    · cases hstep
      exact h.extend rfl (List.append_nil _).symm (by simp) fun _ _ heq => by cases heq
    · cases hstep
  | store record =>
    simp only [LoginSystem.step] at hstep
    split at hstep
    · cases hstep
      exact h.extend rfl (List.append_nil _).symm (by simp) fun _ _ heq => by cases heq
    · cases hstep
  | callback params =>
    cases hstep
    exact h.extend rfl (List.append_nil _).symm (by simp) fun _ _ heq => by cases heq

theorem Paired.run (hinit : s₀.Initial)
    (hr : Exec Exec.anyStep (LoginSystem.step X net metadata stateTtl) s₀ tr s) :
    Paired X metadata stateTtl tr s := by
  have h : Paired X metadata stateTtl tr s ∧ Origin X metadata stateTtl tr s := by
    refine hr.invariant (fun tr s => Paired X metadata stateTtl tr s ∧ Origin X metadata stateTtl tr s)
      ⟨⟨by simp, ?_⟩, Origin.initial hinit⟩ fun _ _ _ _ _ h _ hstep => ⟨h.1.step h.2 hstep, h.2.step hstep⟩
    rw [hinit.unsent]
    exact History.justified_nil _
  exact h.1

end LoginSystem

/-- What a server that has kept the pushed parameters checks when a code is redeemed. -/
structure Redeems (X : Crates) (pushed pairs : List (String × String)) : Prop where
  client : ∀ id, ("client_id", id) ∈ pairs ↔ ("client_id", id) ∈ pushed
  redirect : ∀ uri, ("redirect_uri", uri) ∈ pairs ↔ ("redirect_uri", uri) ∈ pushed
  grant : ("response_type", "code") ∈ pushed ∧ ("grant_type", "authorization_code") ∈ pairs
  pkce : ("code_challenge_method", "S256") ∈ pushed ∧ ∃ verifier challenge,
    ("code_verifier", verifier) ∈ pairs ∧ ("code_challenge", challenge) ∈ pushed ∧
      verifyPkce X verifier challenge = .ok ()

theorem pushedPairs_names {X : Crates} {metadata : OAuthClientMetadata} {call : LoginCall}
    {endpoints : DiscoveredAuthEndpoints} : (pushedPairs X metadata call endpoints).map Prod.fst =
      ["client_id", "response_type", "redirect_uri", "scope", "state", "code_challenge",
        "code_challenge_method", "login_hint"] := rfl

theorem redeemedPairs_names {params : CallbackParams} {entry : StoredStateEntry} :
    (redeemedPairs params entry).map Prod.fst =
      ["grant_type", "code", "redirect_uri", "client_id", "code_verifier"] := rfl

section Redeeming

variable {X : Crates} {client : Option (DPoPKey × String × String)} {draws : List AttemptDraw}
  {pairs auth : List (String × String)}

theorem AuthPairs.names (h : AuthPairs X client draws auth) :
    auth.map Prod.fst = [] ∨ auth.map Prod.fst = ["client_assertion_type", "client_assertion"] := by
  rcases h with ⟨-, rfl⟩ | ⟨_, _, _, _, _, -, -, -, rfl⟩
  · exact Or.inl rfl
  · exact Or.inr rfl

/-- Parameters that are there once stay so beside the pairs of the client. -/
theorem AuthPairs.nodup (h : AuthPairs X client draws auth) {names : List String}
    (hpairs : pairs.map Prod.fst = names)
    (hnodup : (names ++ ["client_assertion_type", "client_assertion"]).Nodup) :
    ((pairs ++ auth).map Prod.fst).Nodup := by
  rw [List.map_append, hpairs]
  rcases h.names with hnames | hnames
  · rw [hnames, List.append_nil]
    exact hnodup.of_append_left
  · rw [hnames]
    exact hnodup

/-- A pair is looked for in the parameters only, when the client does not authenticate by it. -/
theorem mem_append_auth (h : AuthPairs X client draws auth) {name value : String}
    (htype : name ≠ "client_assertion_type") (hassertion : name ≠ "client_assertion") :
    (name, value) ∈ pairs ++ auth ↔ (name, value) ∈ pairs := by
  rw [List.mem_append, or_iff_left]
  intro hmem
  have hname := List.mem_map_of_mem (f := Prod.fst) hmem
  rcases h.names with hnames | hnames
  · rw [hnames] at hname
    cases hname
  · rw [hnames] at hname
    simp [htype, hassertion] at hname

end Redeeming

/-- The token request for an entry redeems what its login has pushed. -/
theorem redeems_of_login {X : Crates} (hsha : ∀ data, (X.sha256 data).length = 32)
    {metadata : OAuthClientMetadata} {stateTtl : Duration} {call : LoginCall}
    {endpoints : DiscoveredAuthEndpoints} {params : CallbackParams} {entry : StoredStateEntry}
    {client client' : Option (DPoPKey × String × String)} {draws draws' : List AttemptDraw}
    {auth auth' : List (String × String)} (hentropy : call.entropy.length = 32)
    (hentry : entry = call.storedState X metadata stateTtl endpoints)
    (hauth : AuthPairs X client draws auth) (hauth' : AuthPairs X client' draws' auth') :
    Redeems X (pushedPairs X metadata call endpoints ++ auth) (redeemedPairs params entry ++ auth') where
  client := by
    intro id
    rw [mem_append_auth hauth (by decide) (by decide), mem_append_auth hauth' (by decide) (by decide), hentry]
    simp [pushedPairs, redeemedPairs, LoginCall.storedState]
  redirect := by
    intro uri
    rw [mem_append_auth hauth (by decide) (by decide), mem_append_auth hauth' (by decide) (by decide), hentry]
    simp [pushedPairs, redeemedPairs, LoginCall.storedState]
  grant := by
    simp [pushedPairs, redeemedPairs]
  pkce := by
    refine ⟨by simp [pushedPairs], entry.codeVerifier, _, by simp [redeemedPairs], ?_,
      hentry ▸ verifyPkce_login hsha metadata stateTtl call endpoints hentropy⟩
    simp [pushedPairs, LoginCall.parParameters, ParParameters.new, PkcePair.generate, deriveS256Challenge]

/-- What an authorization server reads in every run of a client, whatever the values contain: each request
    has each of its parameters once. It is the pushed request of a login, or it redeems the code of a
    callback: then the client has pushed a request before, under the state of the callback and signed with
    the same key, which has the same client and redirect URI and the challenge of the verifier. -/
theorem token_request_redeems_pushed_request {W : Type} {X : Crates} {net : Network W}
    {metadata : OAuthClientMetadata} {stateTtl : Duration} {s₀ s : LoginSystem W}
    {tr : List (LoginAction × LoginEvent)} {lossy : List UInt8 → String}
    (hlossy : ∀ text, lossy (Text.asBytes text) = text) (hsha : ∀ data, (X.sha256 data).length = 32)
    (hinit : s₀.Initial) (hr : Exec Exec.anyStep (LoginSystem.step X net metadata stateTtl) s₀ tr s)
    (hentropy : ∀ call event, (.login call, event) ∈ tr → call.entropy.length = 32) :
    History.Justified (fun pre request => ∃ call event endpoints pairs, (.login call, event) ∈ tr ∧
      call.discovery = .ok endpoints ∧ SignedWith X call.dpopKey request ∧ Reads lossy request pairs ∧
      (pairs.map Prod.fst).Nodup ∧
      (request.url = endpoints.parEndpoint ∧ ("state", call.state) ∈ pairs ∧ ("scope", call.scope) ∈ pairs ∨
      request.url = endpoints.tokenEndpoint ∧ ∃ par ∈ pre, ∃ pushed params entry now,
        (.callback params, .taken params (some entry) now) ∈ tr ∧
        par.url = endpoints.parEndpoint ∧ SignedWith X call.dpopKey par ∧ Reads lossy par pushed ∧
        (pushed.map Prod.fst).Nodup ∧ ("state", params.state) ∈ pushed ∧ ("code", params.code) ∈ pairs ∧
        Redeems X pushed pairs)) s.client.sent := by
  refine (LoginSystem.Paired.run hinit hr).sent.imp fun pre request hfounded => ?_
  rcases hfounded with ⟨_, call, event, endpoints, hlogin, hdiscovery, -, hattempt⟩ |
    ⟨params, entry, now, _, _, _, _, _, htaken, hstate, -, htoken, par, hpar, call, event, endpoints, hlogin,
      hdiscovery, hentry, hattempt⟩
  · obtain ⟨-, hurl, -, hproof, auth, hauth, hreads⟩ := pushesChallenge_of_attempt hlossy hattempt
    refine ⟨call, event, endpoints, _, hlogin, hdiscovery, hproof, hreads, hauth.nodup pushedPairs_names (by decide),
      Or.inl ⟨hurl, ?_, ?_⟩⟩
    · simp [pushedPairs, LoginCall.state]
    · simp [pushedPairs]
  · obtain ⟨-, hpushedUrl, -, hpushedProof, pushedAuth, hpushedAuth, hpushed⟩ :=
      pushesChallenge_of_attempt hlossy hattempt
    obtain ⟨-, hurl, -, hproof, auth, hauth, hreads⟩ := redeemsCode_of_attempt hlossy htoken
    have hendpoint : entry.tokenEndpoint = endpoints.tokenEndpoint := by rw [hentry]; rfl
    have hkey : entry.dpopKey = call.dpopKey := by rw [hentry]; rfl
    refine ⟨call, event, endpoints, _, hlogin, hdiscovery, hkey ▸ hproof, hreads,
      hauth.nodup redeemedPairs_names (by decide), Or.inr ⟨hurl.trans hendpoint, par, hpar, _, params, entry, now, htaken,
        hpushedUrl, hpushedProof, hpushed, hpushedAuth.nodup pushedPairs_names (by decide), ?_, ?_,
        redeems_of_login hsha (hentropy call event hlogin) hentry hpushedAuth hauth⟩⟩
    · rw [← hstate, hentry]
      simp [pushedPairs, LoginCall.storedState, LoginCall.state]
    · simp [redeemedPairs]

open LoginSample in
/-- The sample client pushes a request and redeems a code for it. -/
theorem token_request_redeems_pushed_request_sample : ∃ tr s par request pushed pairs,
    Exec Exec.anyStep (LoginSystem.step crates net metadata ttl) system tr s ∧
      s.client.sent = [par, request] ∧ Reads Form.utf8 par pushed ∧ Reads Form.utf8 request pairs ∧
      Redeems crates pushed pairs := by
  obtain ⟨par, request, session, s, hpar, htoken, -, hsent, hexec⟩ := exec_finish
  have hsha : ∀ data, (crates.sha256 data).length = 32 := by
    intro data
    simp only [crates]
    split <;> rfl
  have hjustified := token_request_redeems_pushed_request Form.utf8_asBytes hsha initial_system hexec
    (fun call' event hmem => by rw [login_of_mem hmem]; rfl)
  obtain ⟨call', event, endpoints', pairs, hlogin, hdiscovery, -, hreads, -, hcase⟩ :=
    hjustified [par] request [] hsent
  obtain rfl := login_of_mem hlogin
  cases hdiscovery
  rcases hcase with ⟨hurl, -⟩ | ⟨-, par', hmem, pushed, params', entry', now, -, -, -, hpushed, -, -, -, hredeems⟩
  · rw [htoken] at hurl
    exact absurd hurl (by decide)
  · obtain rfl := List.mem_singleton.1 hmem
    exact ⟨_, s, par', request, pushed, pairs, hexec, hsent, hpushed, hreads, hredeems⟩

end Skyauth
