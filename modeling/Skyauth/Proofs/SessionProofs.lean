import Skyauth.Login
import Skyauth.Proofs.RefreshProofs

/-!
# Proofs: a session from its exchange through its refreshes

What `exchange_code` puts into a session, and what a refresh keeps. A refresh only writes the tokens,
the scope and the expiry, and it checks the new scope against the old one. Since the scope of an
exchanged session is never empty, that check is always made.
-/

namespace Skyauth

/-- The fields that a refresh does not write. -/
structure OAuthSession.SameGrant (s s' : OAuthSession) : Prop where
  sub : s'.sub = s.sub
  tokenType : s'.tokenType = s.tokenType
  dpopKey : s'.dpopKey = s.dpopKey
  pdsEndpoint : s'.pdsEndpoint = s.pdsEndpoint
  authServerIssuer : s'.authServerIssuer = s.authServerIssuer
  tokenEndpoint : s'.tokenEndpoint = s.tokenEndpoint
  createdAt : s'.createdAt = s.createdAt

namespace OAuthSession

variable {s s' s'' session : OAuthSession} {now : SystemTime}

/-- The scope tokens of a session. -/
def scopeTokens (s : OAuthSession) : List String := Text.splitWhitespace (s.scope.getD "")

/-- The scope is present and contains `atproto`. -/
def HasAtproto (s : OAuthSession) : Prop :=
  ∃ scope, s.scope = some scope ∧ "atproto" ∈ Text.splitWhitespace scope

theorem SameGrant.refl (s : OAuthSession) : SameGrant s s := ⟨rfl, rfl, rfl, rfl, rfl, rfl, rfl⟩

theorem SameGrant.trans (h : SameGrant s s') (h' : SameGrant s' s'') : SameGrant s s'' where
  sub := h'.sub.trans h.sub
  tokenType := h'.tokenType.trans h.tokenType
  dpopKey := h'.dpopKey.trans h.dpopKey
  pdsEndpoint := h'.pdsEndpoint.trans h.pdsEndpoint
  authServerIssuer := h'.authServerIssuer.trans h.authServerIssuer
  tokenEndpoint := h'.tokenEndpoint.trans h.tokenEndpoint
  createdAt := h'.createdAt.trans h.createdAt

/-- A scope with a token in it is not the empty text. -/
theorem HasAtproto.getD_ne_empty (h : s.HasAtproto) : s.scope.getD "" ≠ "" := by
  obtain ⟨scope, hs, hat⟩ := h
  rw [hs, Option.getD_some]
  rintro rfl
  simp [Text.splitWhitespace] at hat

/-- What `new` returns: the arguments, and an expiry exactly if a lifetime was given. -/
theorem new_eq_ok {sub accessToken tokenType : String} {refreshToken scope : Option String}
    {expiresInSecs : Option Nat} {dpopKey : DPoPKey} {pds issuer endpoint : Option String}
    (h : new sub accessToken refreshToken tokenType scope expiresInSecs dpopKey pds issuer endpoint
      now = .ok session) :
    Text.eqIgnoreAsciiCase tokenType "DPoP" = true ∧ session.sub = sub ∧
      session.tokenType = tokenType ∧ session.scope = scope ∧ session.dpopKey = dpopKey ∧
      session.pdsEndpoint = pds ∧ session.authServerIssuer = issuer ∧
      session.tokenEndpoint = endpoint ∧ (session.expiresAt = none → expiresInSecs = none) := by
  unfold new at h
  split at h
  · cases h
  · rename_i htype
    dsimp only at h
    split at h
    · cases h
    · rename_i hoverflow
      cases h
      refine ⟨by simpa using htype, rfl, rfl, rfl, rfl, rfl, rfl, rfl, fun hnone => ?_⟩
      have hnone' : expiresInSecs.bind now.checkedAddSecs = none := hnone
      by_contra hsome
      exact hoverflow ⟨Option.isSome_iff_ne_none.2 hsome, by rw [hnone']; rfl⟩

end OAuthSession

/-! ## The exchange -/

/-- What a response has that `exchange_code` accepts for an entry. -/
structure TokenResponse.Exchangeable (entry : StoredStateEntry) (resp : TokenResponse) : Prop where
  tokenType : Text.eqIgnoreAsciiCase resp.tokenType "DPoP" = true
  sub : ∀ did, entry.did = some did → resp.sub = did
  scope : ∃ scope, resp.scope = some scope ∧ "atproto" ∈ Text.splitWhitespace scope

/-- The session of an accepted response is the one of the entry. -/
theorem acceptExchange_eq_ok {entry : StoredStateEntry} {resp : TokenResponse} {now : SystemTime}
    {session : OAuthSession} (h : acceptExchange entry resp now = .ok session) :
    resp.Exchangeable entry ∧ session.sub = resp.sub ∧ session.tokenType = resp.tokenType ∧
      session.scope = resp.scope ∧ session.dpopKey = entry.dpopKey ∧
      session.pdsEndpoint = some entry.pdsEndpoint ∧ session.authServerIssuer = some entry.issuer ∧
      session.tokenEndpoint = some entry.tokenEndpoint ∧
      (session.expiresAt = none → resp.expiresIn = none) := by
  unfold acceptExchange at h
  split_ifs at h with htype hsub
  split at h
  · cases h
  · rename_i hdid
    split at h
    · cases h
    · rename_i scope hscope
      split_ifs at h with hat
      obtain ⟨htype', hs⟩ := OAuthSession.new_eq_ok (Fallible.mapError_eq_ok.1 h)
      refine ⟨⟨htype', fun did hd => ?_, scope, hscope, hat⟩, hs⟩
      by_contra hne
      simp [hd, hne] at hdid

theorem exchangeCode_eq_ok {metadata : ClientMetadata} {code : String} {entry : StoredStateEntry}
    {send : TokenRequest → Except AtprotoOAuthError TokenResponse} {now : SystemTime}
    {session : OAuthSession} : exchangeCode metadata code entry send now = .ok session ↔
      ∃ resp, send (exchangeRequest metadata code entry) = .ok resp ∧
        acceptExchange entry resp now = .ok session :=
  Fallible.bind_eq_ok

/-! ## The refreshes -/

namespace RefreshChain

variable {X : Crates} {metadata : ClientMetadata} {session₀ : OAuthSession} {c c' : RefreshChain}
  {call : RefreshCall} {result : Except AtprotoOAuthError Unit}

/-- What one call does: it fails and changes nothing, or rotates the session to the response. -/
theorem step_cases (h : c.step X metadata call = some (c', result)) :
    (∃ e, result = .error e ∧ c' = c) ∨
      ∃ resp, result = .ok () ∧ call.outcome = .ok resp ∧ resp.Acceptable c.session ∧
        c' = { session := c.session.rotateTokensWithScope resp.accessToken resp.refreshToken
                 resp.expiresIn resp.scope call.now
               accepted := resp } := by
  unfold step refreshSession at h
  cases hlocked : refreshSessionLocked X metadata c.session (fun _ => call.outcome) call.now with
  | error e =>
    simp only [hlocked, Option.some.injEq, Prod.mk.injEq] at h
    exact Or.inl ⟨e, h.2.symm, h.1.symm⟩
  | ok refreshed =>
    obtain ⟨token, request, resp, -, hsend, hacc, rfl⟩ := refreshSessionLocked_rotates hlocked
    have hsend' : call.outcome = .ok resp := hsend
    rw [hlocked] at h
    dsimp only at h
    rw [hsend'] at h
    simp only [Option.some.injEq, Prod.mk.injEq] at h
    exact Or.inr ⟨resp, h.2.symm, hsend', hacc, h.1.symm⟩

/-- What holds between the calls, of a session that started as `session₀`. -/
structure Invariant (session₀ : OAuthSession) (c : RefreshChain) : Prop where
  grant : session₀.SameGrant c.session
  atproto : c.session.HasAtproto
  expiry : c.session.expiresAt = none → c.accepted.expiresIn = none

/-- A rotation keeps what it does not write. -/
theorem sameGrant_rotate (s : OAuthSession) (resp : TokenResponse) (now : SystemTime) :
    s.SameGrant (s.rotateTokensWithScope resp.accessToken resp.refreshToken resp.expiresIn
      resp.scope now) :=
  ⟨rfl, rfl, rfl, rfl, rfl, rfl, rfl⟩

/-- An overflowing lifetime ends the session at once. -/
theorem expiresIn_of_rotate {s : OAuthSession} {accessToken : String}
    {refreshToken scope : Option String} {expiresIn : Option Nat} {now : SystemTime}
    (h : (s.rotateTokensWithScope accessToken refreshToken expiresIn scope now).expiresAt = none) :
    expiresIn = none := by
  have h' : (if expiresIn.isSome ∧ (expiresIn.bind now.checkedAddSecs).isNone then some now
      else expiresIn.bind now.checkedAddSecs) = none := h
  by_cases hoverflow : expiresIn.isSome ∧ (expiresIn.bind now.checkedAddSecs).isNone
  · rw [if_pos hoverflow] at h'
    cases h'
  · rw [if_neg hoverflow] at h'
    by_contra hsome
    exact hoverflow ⟨Option.isSome_iff_ne_none.2 hsome, by rw [h']; rfl⟩

/-- The scope after an accepted response: it still contains `atproto`, and no token is new. -/
theorem scope_of_acceptable {s : OAuthSession} {resp : TokenResponse} {now : SystemTime}
    (hat : s.HasAtproto) (hacc : resp.Acceptable s) :
    let s' := s.rotateTokensWithScope resp.accessToken resp.refreshToken resp.expiresIn resp.scope now
    s'.HasAtproto ∧ s'.scopeTokens ⊆ s.scopeTokens := by
  intro s'
  cases hscope : resp.scope with
  | none =>
    have hsame : s'.scope = s.scope := by simp [s', OAuthSession.rotateTokensWithScope, hscope]
    refine ⟨by rwa [OAuthSession.HasAtproto, hsame], ?_⟩
    rw [OAuthSession.scopeTokens, hsame, ← OAuthSession.scopeTokens]
    exact List.Subset.refl _
  | some scope =>
    have hnew : s'.scope = some scope := by simp [s', OAuthSession.rotateTokensWithScope, hscope]
    obtain ⟨hmem, hsub⟩ := hacc.scope scope hscope
    refine ⟨⟨scope, hnew, hmem⟩, ?_⟩
    rw [OAuthSession.scopeTokens, hnew]
    exact hsub hat.getD_ne_empty

theorem Invariant.step (hinv : Invariant session₀ c) (h : c.step X metadata call = some (c', result)) :
    Invariant session₀ c' := by
  rcases step_cases h with ⟨e, -, rfl⟩ | ⟨resp, -, -, hacc, rfl⟩
  · exact hinv
  · exact ⟨hinv.grant.trans (sameGrant_rotate _ resp _),
      (scope_of_acceptable hinv.atproto hacc).1, expiresIn_of_rotate⟩

/-- The scope tokens after a call are among those before it. -/
theorem Invariant.scopeTokens_subset (hinv : Invariant session₀ c)
    (h : c.step X metadata call = some (c', result)) :
    c'.session.scopeTokens ⊆ c.session.scopeTokens := by
  rcases step_cases h with ⟨e, -, rfl⟩ | ⟨resp, -, -, hacc, rfl⟩
  · exact List.Subset.refl _
  · exact (scope_of_acceptable hinv.atproto hacc).2

theorem Invariant.exchange {entry : StoredStateEntry} {resp : TokenResponse} {now : SystemTime}
    {session : OAuthSession} (h : acceptExchange entry resp now = .ok session) :
    Invariant session { session := session, accepted := resp } := by
  obtain ⟨hex, -, -, hscope, -, -, -, -, hexpiry⟩ := acceptExchange_eq_ok h
  obtain ⟨scope, hs, hat⟩ := hex.scope
  exact ⟨OAuthSession.SameGrant.refl _, ⟨scope, hscope.trans hs, hat⟩, hexpiry⟩

/-- The invariant holds after every sequence of calls. -/
theorem Invariant.run {tr : List (RefreshCall × Except AtprotoOAuthError Unit)} {c₀ : RefreshChain}
    (h₀ : Invariant session₀ c₀) (hr : Exec Exec.anyStep (RefreshChain.step X metadata) c₀ tr c) :
    Invariant session₀ c :=
  hr.invariant (fun _ c => Invariant session₀ c) h₀ fun _ _ _ _ _ hinv _ hstep => hinv.step hstep

end RefreshChain

/-- From the exchange on, through any sequence of refreshes with any outcomes: the grant stays the
    same, `atproto` stays in a scope that only shrinks, a session without expiry comes from a response
    without lifetime, and a failed refresh changes nothing. -/
theorem refresh_chain_invariants {X : Crates} {metadata : ClientMetadata} {code : String}
    {entry : StoredStateEntry} {send : TokenRequest → Except AtprotoOAuthError TokenResponse}
    {created : SystemTime} {session : OAuthSession}
    (hx : exchangeCode metadata code entry send created = .ok session) :
    ∃ resp, send (exchangeRequest metadata code entry) = .ok resp ∧
      ∀ tr c, Exec Exec.anyStep (RefreshChain.step X metadata)
          { session := session, accepted := resp } tr c →
        session.SameGrant c.session ∧ c.session.HasAtproto ∧
          (c.session.expiresAt = none → c.accepted.expiresIn = none) ∧
          ∀ call c' result, c.step X metadata call = some (c', result) →
            c'.session.scopeTokens ⊆ c.session.scopeTokens ∧
              ∀ e, result = .error e → c'.session = c.session := by
  obtain ⟨resp, hsend, haccept⟩ := exchangeCode_eq_ok.1 hx
  refine ⟨resp, hsend, fun tr c hr => ?_⟩
  have hinv := (RefreshChain.Invariant.exchange haccept).run hr
  refine ⟨hinv.grant, hinv.atproto, hinv.expiry, fun call c' result hstep => ?_⟩
  refine ⟨hinv.scopeTokens_subset hstep, ?_⟩
  rintro e rfl
  rcases RefreshChain.step_cases hstep with ⟨_, -, rfl⟩ | ⟨_, hok, -⟩
  · rfl
  · cases hok

namespace SessionSample

def entry : StoredStateEntry where
  state := "s"
  clientId := "c"
  codeVerifier := "v"
  dpopKey := { signingKey := { scalar := [1] } }
  issuer := "https://as"
  did := some "did:plc:a"
  handle := none
  redirectUri := "r"
  pdsEndpoint := "https://pds"
  tokenEndpoint := "https://as/token"
  scopes := "atproto email"
  createdAt := SystemTime.ofSecs 0
  expiresInSecs := 300

def metadata : ClientMetadata := { clientId := "c", clientKey := none }

/-- A token response with this scope and lifetime. -/
def response (scope : String) (expiresIn : Nat) : TokenResponse where
  accessToken := "a"
  tokenType := "dpop"
  expiresIn := some expiresIn
  refreshToken := some "r"
  scope := some scope
  sub := "did:plc:a"

def session : OAuthSession where
  sub := "did:plc:a"
  accessToken := "a"
  refreshToken := some "r"
  tokenType := "dpop"
  scope := some "atproto email"
  expiresAt := some (SystemTime.ofSecs 61)
  dpopKey := entry.dpopKey
  pdsEndpoint := some entry.pdsEndpoint
  authServerIssuer := some entry.issuer
  tokenEndpoint := some entry.tokenEndpoint
  createdAt := SystemTime.ofSecs 1

theorem exchangeCode_session : exchangeCode metadata "x" entry
    (fun _ => .ok (response "atproto email" 60)) (SystemTime.ofSecs 1) = .ok session := by
  rfl

/-- A response whose lifetime overflows, then a failed request. -/
def calls : List RefreshCall :=
  [{ outcome := .ok (response "atproto" (2 ^ 64 - 1)), now := SystemTime.ofSecs 2 },
    { outcome := .error (.token (.http "timed out")), now := SystemTime.ofSecs 3 }]

/-- The state after them: the session ends when the first was accepted. -/
def refreshed : RefreshChain where
  session := { session with scope := some "atproto", expiresAt := some (SystemTime.ofSecs 2) }
  accepted := response "atproto" (2 ^ 64 - 1)

theorem exists_run_refreshed : ∃ tr, Exec Exec.anyStep (RefreshChain.step sampleCrates metadata)
    { session := session, accepted := response "atproto email" 60 } tr refreshed := by
  have hrun : (Exec.run (RefreshChain.step sampleCrates metadata)
      { session := session, accepted := response "atproto email" 60 } calls).map Prod.snd =
        some refreshed := by rfl
  obtain ⟨⟨tr, c⟩, htr, rfl⟩ := Option.map_eq_some_iff.1 hrun
  exact ⟨tr, by simpa using Exec.of_run .nil htr⟩

end SessionSample

open SessionSample in
theorem refresh_chain_invariants_sample :
    session.SameGrant refreshed.session ∧ refreshed.session.HasAtproto ∧
      (refreshed.session.expiresAt = none → refreshed.accepted.expiresIn = none) := by
  obtain ⟨tr, hr⟩ := exists_run_refreshed
  obtain ⟨resp, hsend, hall⟩ := refresh_chain_invariants (X := sampleCrates) exchangeCode_session
  cases hsend
  obtain ⟨hgrant, hatproto, hexpiry, -⟩ := hall tr refreshed hr
  exact ⟨hgrant, hatproto, hexpiry⟩

end Skyauth
