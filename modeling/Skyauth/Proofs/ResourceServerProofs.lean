import Skyauth.Integrations
import Skyauth.ResourceServer
import Skyauth.Lib.History
import Skyauth.Proofs.TokenRegistryProofs
import Skyauth.Proofs.TowerSystemProofs

/-!
# Proofs: a resource server with a registry of tokens

What the registry holds is what was registered and not replaced, revoked or swept since. So in every run of
the server a handler runs only for a token that was registered, when it was validated, to the key of the proof.
-/

namespace Skyauth

/-! ## What the registry holds -/

namespace RegistryAction

/-- The operation registers this record under the digest. -/
def Registers (X : Crates) (digest : List UInt8) (record : RegisteredToken) : RegistryAction → Prop
  | .register token did dpopThumbprint scope expiresAt =>
    X.sha256 token = digest ∧ record = ⟨did, dpopThumbprint, scope, expiresAt⟩
  | .registerSession session =>
    X.sha256 (Text.asBytes session.accessToken) = digest ∧
      record = ⟨session.sub, session.dpopKey.jwkThumbprint X, session.scope, session.expiresAt⟩
  | .revoke _ => False
  | .prune _ => False

/-- The operation neither replaces nor revokes what is registered under the digest, and a sweep leaves this
    record. -/
def Spares (X : Crates) (digest : List UInt8) (record : RegisteredToken) : RegistryAction → Prop
  | .register token _ _ _ _ => X.sha256 token ≠ digest
  | .registerSession session => X.sha256 (Text.asBytes session.accessToken) ≠ digest
  | .revoke token => X.sha256 (Text.asBytes token) ≠ digest
  | .prune now => ∀ exp, record.expiresAt = some exp → now.nanos < exp.nanos

end RegistryAction

namespace InMemoryTokenValidator

variable {X : Crates} {v v' : InMemoryTokenValidator} {digest : List UInt8} {record : RegisteredToken}

theorem lookup_insert_iff {m : Table (List UInt8) RegisteredToken} {key : List UInt8} {new : RegisteredToken} :
    (m.insert key new).lookup digest = some record ↔
      key = digest ∧ record = new ∨ m.lookup digest = some record ∧ key ≠ digest := by
  by_cases h : key = digest
  · subst h
    simp [AList.lookup_insert, eq_comm]
  · rw [AList.lookup_insert_ne (Ne.symm h)]
    simp [h]

theorem lookup_erase_iff {m : Table (List UInt8) RegisteredToken} {key : List UInt8} :
    (m.erase key).lookup digest = some record ↔ m.lookup digest = some record ∧ key ≠ digest := by
  by_cases h : key = digest
  · subst h
    simp [AList.lookup_erase]
  · rw [AList.lookup_erase_ne (Ne.symm h)]
    simp [h]

/-- What one operation leaves. -/
theorem lookup_step {a : RegistryAction} {n : Nat} (h : v.step X a = some (v', n)) :
    v'.tokens.lookup digest = some record ↔
      a.Registers X digest record ∨ v.tokens.lookup digest = some record ∧ a.Spares X digest record := by
  cases a with
  | register token did dpopThumbprint scope expiresAt =>
    cases h
    exact lookup_insert_iff
  | registerSession session =>
    cases h
    exact lookup_insert_iff
  | revoke token =>
    cases h
    rw [RegistryAction.Registers, false_or]
    exact lookup_erase_iff
  | prune now =>
    cases h
    rw [RegistryAction.Registers, false_or, RegistryAction.Spares, ← survives_iff]
    exact (congrArg (· = some record) (AList.lookup_retain _ _ _)).to_iff.trans Option.filter_eq_some_iff

theorem lookup_run {tr : List (RegistryAction × Nat)} (hr : Exec Exec.anyStep (step X) new tr v) :
    v.tokens.lookup digest = some record ↔
      History.Since (fun x => x.1.Registers X digest record) (fun x => x.1.Spares X digest record) tr := by
  refine hr.invariant (fun tr v => v.tokens.lookup digest = some record ↔
      History.Since (fun x => x.1.Registers X digest record) (fun x => x.1.Spares X digest record) tr)
    ⟨fun h => (by cases h), fun h => absurd h (History.not_since_nil _ _)⟩ fun tr v a v' n hinv _ hstep => ?_
  rw [lookup_step hstep, hinv, History.since_snoc]

end InMemoryTokenValidator

open InMemoryTokenValidator in
/-- The answers of the registry, after every run of its operations. A token validates with a key at a time
    exactly if it was registered to that key and has neither been replaced, revoked or swept since nor
    expired, and the user is the registered one. So a session that was registered validates with its own key
    only, as the user that its session extension has. -/
theorem token_validates_iff_registered {X : Crates} {v : InMemoryTokenValidator}
    {tr : List (RegistryAction × Nat)} (hr : Exec Exec.anyStep (step X) new tr v) (now : SystemTime)
    (user : AuthenticatedUser) :
    (∀ token jkt, v.validateSync X token jkt now = .ok user ↔ ∃ record : RegisteredToken,
      History.Since (fun x => x.1.Registers X (X.sha256 (Text.asBytes token)) record)
        (fun x => x.1.Spares X (X.sha256 (Text.asBytes token)) record) tr ∧
      record.LiveAt now ∧ record.dpopThumbprint = jkt ∧ user = record.user token) ∧
    ∀ pre session n post, tr = pre ++ (.registerSession session, n) :: post →
      (∀ x ∈ post, x.1.Spares X (X.sha256 (Text.asBytes session.accessToken))
        ⟨session.sub, session.dpopKey.jwkThumbprint X, session.scope, session.expiresAt⟩) →
      ∀ jkt, v.validateSync X session.accessToken jkt now = .ok user ↔
        (∀ exp, session.expiresAt = some exp → now.nanos ≤ exp.nanos) ∧
        session.dpopKey.jwkThumbprint X = jkt ∧ user = (OAuthSessionExtension.fromSession X session).user := by
  refine ⟨fun token jkt => ?_, fun pre session n post htr hspared jkt => ?_⟩
  · simp only [validateSync_eq_ok, lookup_run hr]
  · have hlookup := (lookup_run hr).2 ⟨pre, (.registerSession session, n), post, htr, ⟨rfl, rfl⟩, hspared⟩
    rw [validateSync_eq_ok, hlookup]
    constructor
    · rintro ⟨record, hrecord, hlive, hjkt, huser⟩
      obtain rfl := Option.some.inj hrecord
      exact ⟨hlive, hjkt, huser⟩
    · rintro ⟨hlive, hjkt, huser⟩
      exact ⟨_, rfl, hlive, hjkt, huser⟩

/-- A token that was registered once more is accepted with the key of the last registration. -/
theorem token_validates_iff_registered_sample : ∃ tr v,
    Exec Exec.anyStep (InMemoryTokenValidator.step ClientSample.crates) InMemoryTokenValidator.new tr v ∧
      v.validateSync ClientSample.crates "at_1" "second" (SystemTime.ofSecs 1) =
        .ok { did := "did:plc:abc", accessToken := "at_1", dpopThumbprint := "second", scope := none } := by
  have hr : Exec Exec.anyStep (InMemoryTokenValidator.step ClientSample.crates) InMemoryTokenValidator.new
      [(.register (Text.asBytes "at_1") "did:plc:abc" "first" none none, 0),
        (.register (Text.asBytes "at_1") "did:plc:abc" "second" none none, 0)] _ :=
    (Exec.nil.snoc trivial rfl).snoc trivial rfl
  refine ⟨_, _, hr, ((token_validates_iff_registered hr _ _).1 _ _).2
    ⟨⟨"did:plc:abc", "second", none, none⟩, ⟨[_], _, [], rfl, ⟨rfl, rfl⟩, by simp⟩, ?_, rfl, rfl⟩⟩
  intro exp hexp
  cases hexp

/-! ## The server -/

namespace ResourceAction

variable {N B : Type}

/-- The action registers this record under the digest. -/
def Registers (X : Crates) (digest : List UInt8) (record : RegisteredToken) : ResourceAction N B → Prop
  | .registry a => a.Registers X digest record
  | .tower _ => False

/-- The action leaves this record where it is. -/
def Spares (X : Crates) (digest : List UInt8) (record : RegisteredToken) : ResourceAction N B → Prop
  | .registry a => a.Spares X digest record
  | .tower _ => True

end ResourceAction

variable {N B C E V : Type} [Inhabited C] {X : Crates} {svc : OAuthAuthService N B C E V}

namespace ResourceServer

/-- The record was registered under the digest, and has been there since. -/
def RegisteredIn (X : Crates) (tr : List (ResourceAction N B × TowerEvent B)) (digest : List UInt8)
    (record : RegisteredToken) : Prop :=
  History.Since (fun x => x.1.Registers X digest record) (fun x => x.1.Spares X digest record) tr

theorem registeredIn_tower (tr : List (ResourceAction N B × TowerEvent B)) {a : TowerAction N B}
    {e : TowerEvent B} {digest : List UInt8} {record : RegisteredToken} :
    RegisteredIn X (tr ++ [(.tower a, e)]) digest record ↔ RegisteredIn X tr digest record := by
  rw [RegisteredIn, History.since_snoc]
  simp [ResourceAction.Registers, ResourceAction.Spares, RegisteredIn]

/-- An invocation of the inner service comes after a validation of its token. Before that, the token was
    registered to the key of its proof and had not been replaced, revoked or swept since; it had not expired
    then. The request passed the checks of the middleware, and what a handler extracts from it is the user of
    the record. -/
def Served (X : Crates) (svc : OAuthAuthService N B C E V)
    (pre : List (ResourceAction N B × TowerEvent B)) (x : ResourceAction N B × TowerEvent B) : Prop :=
  ∀ i p req now, x.2 = .invoked i p req now →
    ∃ (record : RegisteredToken) (registry : InMemoryTokenValidator) (c : TowerCall N B C E)
      (before after : List (ResourceAction N B × TowerEvent B)) (a : ResourceAction N B) (t : SystemTime),
      pre = before ++ (a, .validated i p (record.user p.accessToken) t) :: after ∧
      RegisteredIn X before (X.sha256 (Text.asBytes p.accessToken)) record ∧ record.LiveAt t ∧
      record.dpopThumbprint = p.jwk.thumbprint X ∧
      ChecksPassed X (svc.withTokenStore X registry t) c.entered c.req c.clock₁ c.clock₂ p
        (record.user p.accessToken) ∧
      req = c.req.withUser (record.user p.accessToken) ∧
      axumUser req = .ok (record.user p.accessToken) ∧ actixUser req = .ok (record.user p.accessToken)

/-- The token of a call was registered when it was validated. -/
def Validated (X : Crates) (svc : OAuthAuthService N B C E V)
    (tr : List (ResourceAction N B × TowerEvent B)) (i : Nat) (c : TowerCall N B C E) (p : Pending)
    (user : AuthenticatedUser) : Prop :=
  ∃ (record : RegisteredToken) (registry : InMemoryTokenValidator)
    (before after : List (ResourceAction N B × TowerEvent B)) (a : ResourceAction N B) (t : SystemTime),
    tr = before ++ (a, .validated i p user t) :: after ∧
    RegisteredIn X before (X.sha256 (Text.asBytes p.accessToken)) record ∧ record.LiveAt t ∧
    record.dpopThumbprint = p.jwk.thumbprint X ∧ user = record.user p.accessToken ∧
    ChecksPassed X (svc.withTokenStore X registry t) c.entered c.req c.clock₁ c.clock₂ p user

/-- The calls that wait for their access token have been screened. -/
def Screened (X : Crates) (svc : OAuthAuthService N B C E V) (calls : List (TowerCall N B C E)) : Prop :=
  ∀ c ∈ calls, ∀ p, c.phase = .validating p →
    ∃ w, svc.screen X c.entered c.req c.clock₁ c.clock₂ = (.pass p, w)

/-- What is known along a run. -/
structure Tracks (X : Crates) (svc : OAuthAuthService N B C E V)
    (tr : List (ResourceAction N B × TowerEvent B)) (s : ResourceServer N B C E) : Prop where
  registry : ∀ digest record, s.registry.tokens.lookup digest = some record ↔ RegisteredIn X tr digest record
  screened : Screened X svc s.tower.calls
  validated : ∀ i c p user, s.tower.calls[i]? = some c →
    c.phase = .committing p user ∨ c.phase = .invoking p user → Validated X svc tr i c p user
  served : History.Justified (Served X svc) tr

variable {s₀ s s' : ResourceServer N B C E} {tr : List (ResourceAction N B × TowerEvent B)}
  {e : TowerEvent B}

omit [Inhabited C] in
theorem requestHtu_withTokenStore (registry : InMemoryTokenValidator) (clock : SystemTime) (uri : Uri) :
    (svc.withTokenStore X registry clock).requestHtu uri = svc.requestHtu uri := rfl

omit [Inhabited C] in
theorem expectedProof_withTokenStore (registry : InMemoryTokenValidator) (clock : SystemTime)
    (accessToken htm htu : String) :
    (svc.withTokenStore X registry clock).expectedProof X accessToken htm htu =
      svc.expectedProof X accessToken htm htu := rfl

omit [Inhabited C] in
theorem screenNonce_withTokenStore (registry : InMemoryTokenValidator) (clock : SystemTime)
    (w : SharedState N) (p : Pending) :
    (svc.withTokenStore X registry clock).screenNonce w p = svc.screenNonce w p := rfl

/-- The part of a call before its access token does not see the registry. -/
theorem screen_withTokenStore (registry : InMemoryTokenValidator) (clock : SystemTime) (w : SharedState N)
    (req : Request B) (clock₁ clock₂ : SystemTime) :
    (svc.withTokenStore X registry clock).screen X w req clock₁ clock₂ =
      svc.screen X w req clock₁ clock₂ := by
  simp only [OAuthAuthService.screen, OAuthAuthService.screenProof, requestHtu_withTokenStore,
    expectedProof_withTokenStore, screenNonce_withTokenStore]

/-- A call that has come to its access token has been screened. -/
theorem screen_of_enter {registry : InMemoryTokenValidator} {clock clock₁ clock₂ : SystemTime}
    {w w' : SharedState N} {req : Request B} {p : Pending}
    (h : TowerSystem.enter X (svc.withTokenStore X registry clock) w req clock₁ clock₂ = (.validating p, w')) :
    svc.screen X w req clock₁ clock₂ = (.pass p, w') := by
  unfold TowerSystem.enter at h
  rw [screen_withTokenStore] at h
  split at h
  · cases h
  · cases h
  · rename_i hscreen
    cases h
    exact hscreen

theorem Screened.step {t t' : TowerSystem N B C E} {a : TowerAction N B}
    {registry : InMemoryTokenValidator} {clock : SystemTime} (h : Screened X svc t.calls)
    (hsteps : TowerSystem.Steps X (svc.withTokenStore X registry clock) t a t' e) :
    Screened X svc t'.calls := by
  cases hsteps with
  | tick => exact h
  | other => exact h
  | pruneExpired => exact h
  | nonces => exact h
  | call hc he =>
    intro c hmem p hphase
    rcases List.mem_append.1 hmem with hold | hnew
    · exact h c hold p hphase
    · obtain rfl := List.mem_singleton.1 hnew
      dsimp only at hphase
      subst hphase
      exact ⟨_, screen_of_enter he⟩
  | resume hc ha =>
    intro c hmem p hphase
    rcases List.mem_or_eq_of_mem_set hmem with hold | rfl
    · exact h c hold p hphase
    · exact absurd hphase (ha.ne_validating p)

omit [Inhabited C] in
theorem Validated.snoc {i : Nat} {c : TowerCall N B C E} {p : Pending} {user : AuthenticatedUser}
    (h : Validated X svc tr i c p user) (x : ResourceAction N B × TowerEvent B) :
    Validated X svc (tr ++ [x]) i c p user := by
  obtain ⟨record, registry, before, after, a, t, rfl, hrest⟩ := h
  exact ⟨record, registry, before, after ++ [x], a, t, by simp, hrest⟩

/-- A call that has come from its access token to its commit, or further. -/
theorem Tracks.validated_of_steps {t' : TowerSystem N B C E} {a : TowerAction N B} (h : Tracks X svc tr s)
    (hsteps : TowerSystem.Steps X (svc.withTokenStore X s.registry s.tower.clock) s.tower a t' e) (i : Nat)
    (c : TowerCall N B C E) (p : Pending) (user : AuthenticatedUser) (hc : t'.calls[i]? = some c)
    (hphase : c.phase = .committing p user ∨ c.phase = .invoking p user) :
    Validated X svc (tr ++ [(.tower a, e)]) i c p user := by
  rcases hsteps.on_way hc hphase with hold | ⟨c₀, hc₀, hbefore, hvalid, rfl, rfl⟩ | ⟨c₀, hc₀, hbefore, rfl, rfl⟩
  · exact (h.validated i c p user hold hphase).snoc _
  · -- the registry has just been asked
    obtain ⟨w, hscreen⟩ := h.screened c₀ (List.mem_of_getElem? hc₀) p hbefore
    rw [← screen_withTokenStore s.registry s.tower.clock] at hscreen
    have hchecks := TowerSystem.checksPassed_of_screen hscreen hvalid
    obtain ⟨record, hrecord, hlive, hjkt, huser⟩ := InMemoryTokenValidator.validateSync_eq_ok.1 hvalid
    exact ⟨record, s.registry, tr, [], .tower a, s.tower.clock, rfl, (h.registry _ _).1 hrecord, hlive, hjkt,
      huser, hchecks⟩
  · exact (h.validated i c₀ p user hc₀ (.inl hbefore)).snoc _

/-- A call that reaches the inner service. -/
theorem Tracks.served_of_steps {t' : TowerSystem N B C E} {a : TowerAction N B} (h : Tracks X svc tr s)
    (hsteps : TowerSystem.Steps X (svc.withTokenStore X s.registry s.tower.clock) s.tower a t' e) :
    Served X svc tr (.tower a, e) := by
  rintro i p req now rfl
  obtain ⟨-, c, user, hc, hphase, rfl⟩ := hsteps.of_invoked
  obtain ⟨record, registry, before, after, b, t, htr, hregistered, hlive, hjkt, rfl, hchecks⟩ :=
    h.validated i c p user hc (.inr hphase)
  exact ⟨record, registry, c, before, after, b, t, htr, hregistered, hlive, hjkt, hchecks, rfl, rfl, rfl⟩

/-- An action of the middleware. -/
theorem Tracks.tower_step {a : TowerAction N B} (h : Tracks X svc tr s)
    (hstep : s.step X svc (.tower a) = some (s', e)) : Tracks X svc (tr ++ [(.tower a, e)]) s' := by
  simp only [step, Option.map_eq_some_iff, Prod.mk.injEq] at hstep
  obtain ⟨⟨t, e'⟩, htower, rfl, rfl⟩ := hstep
  have hsteps := TowerSystem.steps_of_step htower
  refine ⟨fun digest record => ?_, h.screened.step hsteps, h.validated_of_steps hsteps,
    h.served.snoc (h.served_of_steps hsteps)⟩
  rw [registeredIn_tower, h.registry]

/-- An operation on the registry. -/
theorem Tracks.registry_step {a : RegistryAction} (h : Tracks X svc tr s)
    (hstep : s.step X svc (.registry a) = some (s', e)) : Tracks X svc (tr ++ [(.registry a, e)]) s' := by
  simp only [step, Option.ite_none_right_eq_some, Option.map_eq_some_iff, Prod.mk.injEq] at hstep
  obtain ⟨-, ⟨registry, n⟩, hregistry, rfl, rfl⟩ := hstep
  refine ⟨fun digest record => ?_, h.screened, fun i c p user hc hphase => ?_,
    h.served.snoc fun i p req now hevent => by cases hevent⟩
  · rw [RegisteredIn, History.since_snoc, InMemoryTokenValidator.lookup_step hregistry, h.registry]
    rfl
  · exact (h.validated i c p user hc hphase).snoc _

theorem tracks_of_run (h0 : s₀.Initial) (hr : Exec Exec.anyStep (step X svc) s₀ tr s) :
    Tracks X svc tr s := by
  refine hr.invariant (Tracks X svc) ⟨fun digest record => ?_, ?_, ?_, History.justified_nil _⟩
    fun tr s a s' e h _ hstep => ?_
  · rw [h0.registry]
    exact ⟨fun h => (by cases h), fun h => absurd h (History.not_since_nil _ _)⟩
  · rw [Screened, h0.tower.calls]
    simp
  · simp [h0.tower.calls]
  · cases a with
    | registry a => exact h.registry_step hstep
    | tower a => exact h.tower_step hstep

end ResourceServer

namespace ResourceSample

open TowerSample (service start callAt pending exists_headers)

variable {auth proof : HeaderValue}

/-- The token of the sample requests. -/
def record : RegisteredToken where
  did := "did:plc:sample"
  dpopThumbprint := sampleJwk.thumbprint sampleCrates
  scope := none
  expiresAt := some (SystemTime.ofSecs 1562262600)

def register : RegistryAction :=
  .register (Text.asBytes "token") record.did record.dpopThumbprint record.scope record.expiresAt

def registered : InMemoryTokenValidator :=
  InMemoryTokenValidator.new.registerToken sampleCrates (Text.asBytes "token") record.did
    record.dpopThumbprint record.scope record.expiresAt

def server : ResourceServer Unit Unit Unit String where
  registry := InMemoryTokenValidator.new
  tower := start

theorem validates {clock : SystemTime} (h : clock.nanos ≤ (SystemTime.ofSecs 1562262600).nanos) :
    registered.validateSync sampleCrates "token" (sampleJwk.thumbprint sampleCrates) clock =
      .ok (record.user "token") := by
  refine InMemoryTokenValidator.validateSync_eq_ok.2 ⟨record, AList.lookup_insert _, ?_, rfl, rfl⟩
  intro exp hexp
  cases hexp
  exact h

/-- A request with the sample proof passes the checks while its token is registered. -/
theorem checksPassed (hauth : auth.toStr = some "DPoP token") (hproof : proof.toStr = some sampleProof)
    {clock : SystemTime} (h : clock.nanos ≤ (SystemTime.ofSecs 1562262600).nanos) :
    ChecksPassed sampleCrates (service.withTokenStore sampleCrates registered clock) start.shared
      (TowerSample.request auth proof) (SystemTime.ofSecs 1562262556) (SystemTime.ofSecs 1562262556)
      (pending 1562262556) (record.user "token") := by
  have hchecks := TowerSample.checksPassed (w := start.shared) hauth hproof rfl rfl (Nat.le_refl 1562262556)
    (by omega)
  exact ⟨hchecks.scheme, hchecks.proof, hchecks.nonce, validates h⟩

/-- The states of the sample call after it came to its access token. -/
def underway (auth proof : HeaderValue) (v : DPoPVerifier) (phase : CallPhase Unit String) :
    TowerSystem Unit Unit Unit String where
  shared := { verifier := v, nonces := () }
  clock := SystemTime.ofSecs 1562262556
  calls := [⟨TowerSample.request auth proof, SystemTime.ofSecs 1562262556, SystemTime.ofSecs 1562262556,
    start.shared, phase⟩]

end ResourceSample

end Skyauth
