import Skyauth.Refresh
import Skyauth.Proofs.DpopProofs

/-!
# Proofs: refreshes of a shared session coalesce

Between the re-read and the write-back a call has the mutex, so the shared session does not change
under it. As long as every accepted response brings a refresh token that was never used, the token of
the shared session is one that no exchange has used up, except while a refreshed session waits to be
written back (`Coalescing`). A call that observed a token before it was used up then sees another one
when it reads again. A response without a refresh token, or with the old one, defeats the comparison.
-/

namespace Skyauth

/-! ## One refresh -/

theorem checkScope_eq_ok {granted scope : String} : checkScope granted scope = .ok () ↔
    "atproto" ∈ Text.splitWhitespace scope ∧
      (granted ≠ "" → Text.splitWhitespace scope ⊆ Text.splitWhitespace granted) := by
  unfold checkScope
  by_cases hat : "atproto" ∈ Text.splitWhitespace scope
  · rw [if_neg (not_not.2 hat)]
    by_cases hexp : granted ≠ "" ∧ ¬ Text.splitWhitespace scope ⊆ Text.splitWhitespace granted
    · rw [if_pos hexp]
      simp only [reduceCtorEq, false_iff]
      rintro ⟨-, h⟩
      exact hexp.2 (h hexp.1)
    · rw [if_neg hexp]
      simp only [true_iff]
      exact ⟨hat, fun hne => not_not.1 fun hsub => hexp ⟨hne, hsub⟩⟩
  · rw [if_pos hat]
    simp [hat]

theorem acceptResponse_eq_ok {session refreshed : OAuthSession} {resp : TokenResponse}
    {now : SystemTime} : acceptResponse session resp now = .ok refreshed ↔
      resp.Acceptable session ∧ refreshed = session.rotateTokensWithScope resp.accessToken
        resp.refreshToken resp.expiresIn resp.scope now := by
  unfold acceptResponse
  constructor
  · intro h
    split_ifs at h with h1 h2 h3
    split at h
    · cases h
    · rename_i hscope
      cases h
      refine ⟨⟨by simpa using h1, h2, not_not.1 h3, fun scope hs => ?_⟩, rfl⟩
      rw [hs, Option.map_some] at hscope
      cases hc : checkScope (session.scope.getD "") scope with
      | error e => exact absurd (by rw [hc]) (hscope e)
      | ok u => exact checkScope_eq_ok.1 hc
  · rintro ⟨⟨htype, hne, hsub, hscope⟩, rfl⟩
    rw [if_neg (by simp [htype]), if_neg hne, if_neg (not_not.2 hsub)]
    split
    · rename_i e he
      obtain ⟨scope, hs, hc⟩ := Option.map_eq_some_iff.1 he
      rw [checkScope_eq_ok.2 (hscope scope hs)] at hc
      cases hc
    · rfl

theorem refreshRequest_token {X : Crates} {metadata : ClientMetadata} {session : OAuthSession}
    {token : String} {request : TokenRequest}
    (h : refreshRequest X metadata session = .ok (token, request)) :
    session.refreshToken = some token := by
  unfold refreshRequest at h
  split at h
  · cases h
  · rename_i token' ht
    split at h
    · cases h
    · cases h
      exact ht

/-- A refresh that succeeds rotated the session to an acceptable response. -/
theorem refreshSessionLocked_rotates {X : Crates} {metadata : ClientMetadata}
    {session refreshed : OAuthSession} {send : TokenRequest → Except AtprotoOAuthError TokenResponse}
    {now : SystemTime} (h : refreshSessionLocked X metadata session send now = .ok refreshed) :
    ∃ token request resp, refreshRequest X metadata session = .ok (token, request) ∧
      send request = .ok resp ∧ resp.Acceptable session ∧
      refreshed = session.rotateTokensWithScope resp.accessToken resp.refreshToken resp.expiresIn
        resp.scope now := by
  unfold refreshSessionLocked at h
  obtain ⟨⟨token, request⟩, hreq, h⟩ := Fallible.bind_eq_ok.1 h
  obtain ⟨resp, hsend, h⟩ := Fallible.bind_eq_ok.1 h
  obtain ⟨hacc, hrotated⟩ := acceptResponse_eq_ok.1 h
  exact ⟨token, request, resp, hreq, hsend, hacc, hrotated⟩

/-! ## One action on a shared session -/

namespace SharedSystem

variable {X : Crates} {metadata : ClientMetadata} {s s' : SharedSystem} {a : SharedAction}
  {e : SharedEvent} {tr : List (SharedAction × SharedEvent)}

/-- What each action does, and when it can be taken. -/
inductive Stepped (X : Crates) (metadata : ClientMetadata) (s : SharedSystem) :
    SharedAction → SharedSystem → SharedEvent → Prop
  | readNone : s.shared.refreshToken = none →
      Stepped X metadata s .read s (.returned (.error (.token .missingRefreshToken)))
  | read {token : String} : s.shared.refreshToken = some token →
      Stepped X metadata s .read { s with tasks := .observed token :: s.tasks } .silent
  | acquire {token : String} : .observed token ∈ s.tasks → s.tasks.countP SharedTask.hasGuard = 0 →
      Stepped X metadata s (.acquire token) (s.move (.observed token) [.locked token]) (.acquired token)
  | coalesced {token : String} : .locked token ∈ s.tasks →
      Stepped X metadata s (.reread token) (s.move (.locked token) []) (.returned (.ok s.shared))
  | reread {token : String} : .locked token ∈ s.tasks →
      Stepped X metadata s (.reread token) (s.move (.locked token) [.working s.shared]) .silent
  | notSubmitted {session : OAuthSession} {err : AtprotoOAuthError} : .working session ∈ s.tasks →
      Stepped X metadata s (.submit session) (s.move (.working session) []) (.returned (.error err))
  | submit {session : OAuthSession} {token : String} {request : TokenRequest} :
      .working session ∈ s.tasks → refreshRequest X metadata session = .ok (token, request) →
      Stepped X metadata s (.submit session) (s.move (.working session) [.exchanging token session])
        (.submitted token)
  | refused {token : String} {session : OAuthSession} {response : Except AtprotoOAuthError TokenResponse}
      {now : SystemTime} {err : AtprotoOAuthError} : .exchanging token session ∈ s.tasks →
      Stepped X metadata s (.respond token session response now)
        (s.move (.exchanging token session) []) (.returned (.error err))
  | exchanged {token : String} {session refreshed : OAuthSession} {resp : TokenResponse}
      {now : SystemTime} : .exchanging token session ∈ s.tasks →
      acceptResponse session resp now = .ok refreshed →
      Stepped X metadata s (.respond token session (.ok resp) now)
        { s.move (.exchanging token session) [.writing refreshed] with spent := token :: s.spent }
        (.exchanged token)
  | writeBack {session : OAuthSession} : .writing session ∈ s.tasks →
      Stepped X metadata s (.writeBack session)
        { s.move (.writing session) [] with shared := session } (.returned (.ok session))

theorem stepped (h : s.step X metadata a = some (s', e)) : Stepped X metadata s a s' e := by
  cases a with
  | read =>
    simp only [step] at h
    split at h
    · cases h
      exact .readNone ‹_›
    · cases h
      exact .read ‹_›
  | acquire token =>
    obtain ⟨⟨hmem, hfree⟩, heq⟩ := Option.ite_none_right_eq_some.1 h
    cases heq
    exact .acquire hmem hfree
  | reread token =>
    obtain ⟨hmem, heq⟩ := Option.ite_none_right_eq_some.1 h
    split at heq
    · cases heq
      exact .coalesced hmem
    · cases heq
      exact .reread hmem
  | submit session =>
    obtain ⟨hmem, heq⟩ := Option.ite_none_right_eq_some.1 h
    split at heq
    · cases heq
      exact .notSubmitted hmem
    · rename_i hrequest
      cases heq
      exact .submit hmem hrequest
  | respond token session response now =>
    obtain ⟨hmem, heq⟩ := Option.ite_none_right_eq_some.1 h
    split at heq
    · cases heq
      exact .refused hmem
    · rename_i haccept
      cases heq
      obtain ⟨resp, rfl, haccept⟩ := Fallible.bind_eq_ok.1 haccept
      exact .exchanged hmem haccept
  | writeBack session =>
    obtain ⟨hmem, heq⟩ := Option.ite_none_right_eq_some.1 h
    cases heq
    exact .writeBack hmem

/-- The session has a refresh token that no exchange has used up; before the first exchange it may
    have none. -/
def Fresh (session : OAuthSession) (spent : List String) : Prop :=
  (∀ token, session.refreshToken = some token → token ∉ spent) ∧
    (session.refreshToken = none → spent = [])

/-- What holds of a call under way. -/
def Good (shared : OAuthSession) (spent : List String) : SharedTask → Prop
  | .observed _ | .locked _ => True
  | .working session => session = shared
  | .exchanging token session => session = shared ∧ session.refreshToken = some token
  | .writing session => Fresh session spent

/-- What holds in every state of a run whose responses rotate the token. -/
structure Coalescing (s : SharedSystem) : Prop where
  exclusive : s.tasks.countP SharedTask.hasGuard ≤ 1
  good : ∀ task ∈ s.tasks, Good s.shared s.spent task
  shared : (∀ session, .writing session ∉ s.tasks) → Fresh s.shared s.spent

namespace Coalescing

theorem initial (h : s.Initial) : Coalescing s where
  exclusive := by simp [h.tasks]
  good := by simp [h.tasks]
  shared := fun _ => ⟨by simp [h.spent], fun _ => h.spent⟩

/-- While a call has the mutex, the others wait for it. -/
theorem waiting_of_mem_erase (inv : Coalescing s) {task other : SharedTask} (hmem : task ∈ s.tasks)
    (hguard : task.hasGuard = true) (hother : other ∈ s.tasks.erase task) :
    ∃ token, other = .observed token := by
  have hpos : 0 < s.tasks.countP SharedTask.hasGuard := List.countP_pos_iff.2 ⟨task, hmem, hguard⟩
  have hzero : (s.tasks.erase task).countP SharedTask.hasGuard = 0 := by
    have := inv.exclusive
    rw [List.countP_erase]
    simp only [hmem, hguard, and_self, if_true]
    omega
  have hno := List.countP_eq_zero.1 hzero other hother
  cases other with
  | observed token => exact ⟨token, rfl⟩
  | _ => exact absurd rfl hno

/-- The shared session is fresh while a call that has the mutex is not about to write. -/
theorem fresh_of_mem (inv : Coalescing s) {task : SharedTask} (hmem : task ∈ s.tasks)
    (hguard : task.hasGuard = true) (hwrite : ∀ session, task ≠ .writing session) :
    Fresh s.shared s.spent := by
  refine inv.shared fun session hw => ?_
  have hother : .writing session ∈ s.tasks.erase task :=
    (List.mem_erase_of_ne (Ne.symm (hwrite session))).2 hw
  obtain ⟨token, h⟩ := inv.waiting_of_mem_erase hmem hguard hother
  cases h

/-- The call that has the mutex goes on, or returns. -/
theorem replace {shared : OAuthSession} {spent : List String} {old : SharedTask}
    {new : List SharedTask} (hwait : ∀ other ∈ s.tasks.erase old, ∃ token, other = .observed token)
    (hnew : new.length ≤ 1) (hgood : ∀ task ∈ new, Good shared spent task)
    (hfresh : (∀ session, .writing session ∉ new) → Fresh shared spent) :
    Coalescing { shared := shared, tasks := new ++ s.tasks.erase old, spent := spent } where
  exclusive := by
    have hzero : (s.tasks.erase old).countP SharedTask.hasGuard = 0 := by
      refine List.countP_eq_zero.2 fun other hother => ?_
      obtain ⟨token, rfl⟩ := hwait other hother
      simp [SharedTask.hasGuard]
    have hle := List.countP_le_length (p := SharedTask.hasGuard) (l := new)
    rw [List.countP_append, hzero]
    omega
  good := by
    intro task hmem
    rcases List.mem_append.1 hmem with hmem | hmem
    · exact hgood task hmem
    · obtain ⟨token, rfl⟩ := hwait task hmem
      trivial
  shared := by
    intro hno
    exact hfresh fun session hmem => hno session (List.mem_append_left _ hmem)

theorem read_step (inv : Coalescing s) (token : String) :
    Coalescing { s with tasks := .observed token :: s.tasks } where
  exclusive := by
    rw [List.countP_cons_of_neg (by simp [SharedTask.hasGuard])]
    exact inv.exclusive
  good := by
    intro task hmem
    rcases List.mem_cons.1 hmem with rfl | hmem
    · trivial
    · exact inv.good task hmem
  shared := by
    intro hno
    exact inv.shared fun session hmem => hno session (List.mem_cons_of_mem _ hmem)

theorem acquire_step (inv : Coalescing s) {token : String}
    (hfree : s.tasks.countP SharedTask.hasGuard = 0) :
    Coalescing (s.move (.observed token) [.locked token]) := by
  have hwait : ∀ other ∈ s.tasks, ∃ token, other = .observed token := by
    intro other hmem
    have hno := List.countP_eq_zero.1 hfree other hmem
    cases other with
    | observed token => exact ⟨token, rfl⟩
    | _ => exact absurd rfl hno
  refine replace (fun other h => hwait other (List.mem_of_mem_erase h)) (by simp) ?_ fun _ => ?_
  · intro task hmem
    rw [List.mem_singleton.1 hmem]
    trivial
  · refine inv.shared fun session hmem => ?_
    obtain ⟨token, h⟩ := hwait _ hmem
    cases h

/-- The exchange of a token that was not used up, with a response that brings a new one. -/
theorem exchange_step (inv : Coalescing s) {token : String} {session refreshed : OAuthSession}
    {resp : TokenResponse} {now : SystemTime} (hmem : .exchanging token session ∈ s.tasks)
    (haccept : acceptResponse session resp now = .ok refreshed)
    (hrotates : resp.Acceptable session →
      ∃ next, resp.refreshToken = some next ∧ next ≠ token ∧ next ∉ s.spent) :
    Coalescing { s.move (.exchanging token session) [.writing refreshed] with
                 spent := token :: s.spent } := by
  obtain ⟨hacc, rfl⟩ := acceptResponse_eq_ok.1 haccept
  obtain ⟨next, hnext, hne, hspent⟩ := hrotates hacc
  refine replace (fun _ h => inv.waiting_of_mem_erase hmem rfl h) (by simp) ?_ fun hno => ?_
  · intro task htask
    rw [List.mem_singleton.1 htask]
    refine ⟨fun t ht => ?_, fun ht => ?_⟩
    · obtain rfl : t = next := Option.some.inj (ht.symm.trans hnext)
      simp [hne, hspent]
    · exact absurd (ht.symm.trans hnext) (by simp)
  · exact absurd (List.mem_singleton.2 rfl) (hno _)

theorem step (inv : Coalescing s) (hok : Rotates s a) (h : s.step X metadata a = some (s', e)) :
    Coalescing s' := by
  -- the other calls wait while the one that acts has the mutex
  have hwait {old : SharedTask} (hmem : old ∈ s.tasks) (hguard : old.hasGuard = true) :
      ∀ other ∈ s.tasks.erase old, ∃ token, other = .observed token := fun _ hother =>
    inv.waiting_of_mem_erase hmem hguard hother
  cases stepped h with
  | readNone => exact inv
  | read => exact inv.read_step _
  | acquire hmem hfree => exact inv.acquire_step hfree
  | coalesced hmem =>
    exact replace (hwait hmem rfl) (by simp) (by simp) fun _ => inv.fresh_of_mem hmem rfl (by simp)
  | reread hmem =>
    exact replace (hwait hmem rfl) (by simp) (by simp [Good]) fun _ => inv.fresh_of_mem hmem rfl (by simp)
  | notSubmitted hmem =>
    exact replace (hwait hmem rfl) (by simp) (by simp) fun _ => inv.fresh_of_mem hmem rfl (by simp)
  | submit hmem hrequest =>
    refine replace (hwait hmem rfl) (by simp) ?_ fun _ => inv.fresh_of_mem hmem rfl (by simp)
    intro task htask
    rw [List.mem_singleton.1 htask]
    exact ⟨inv.good _ hmem, refreshRequest_token hrequest⟩
  | refused hmem =>
    exact replace (hwait hmem rfl) (by simp) (by simp) fun _ => inv.fresh_of_mem hmem rfl (by simp)
  | exchanged hmem haccept => exact inv.exchange_step hmem haccept (hok _ rfl)
  | writeBack hmem => exact replace (hwait hmem rfl) (by simp) (by simp) fun _ => inv.good _ hmem

/-- A token that is submitted was not used up. -/
theorem submitted_notMem_spent (inv : Coalescing s) {token : String}
    (h : s.step X metadata a = some (s', .submitted token)) : token ∉ s.spent := by
  cases stepped h with
  | @submit session _ _ hmem hrequest =>
    obtain rfl : session = s.shared := inv.good _ hmem
    exact (inv.fresh_of_mem hmem rfl (by simp)).1 token (refreshRequest_token hrequest)

/-- A call whose token was used up returns the shared session when it reads it again. -/
theorem reread_of_spent (inv : Coalescing s) {token : String} (hmem : .locked token ∈ s.tasks)
    (hspent : token ∈ s.spent) :
    s.step X metadata (.reread token) = some (s.move (.locked token) [], .returned (.ok s.shared)) := by
  obtain ⟨hne, hnone⟩ := inv.fresh_of_mem hmem rfl (by simp)
  cases hcurrent : s.shared.refreshToken with
  | none =>
    rw [hnone hcurrent] at hspent
    cases hspent
  | some current =>
    have hdiff : constantTimeEq (Text.asBytes current) (Text.asBytes token) = false := by
      by_contra heq
      rw [Bool.not_eq_false, constantTimeEq_iff, Text.asBytes_inj] at heq
      exact hne current hcurrent (heq ▸ hspent)
    rw [SharedSystem.step, if_pos hmem, hcurrent, if_pos (by simp [hdiff])]

end Coalescing

/-! ## The subject -/

/-- The session a call carries. -/
def sessionOf : SharedTask → Option OAuthSession
  | .working session | .exchanging _ session | .writing session => some session
  | _ => none

/-- The shared session and all its copies are of one subject. -/
structure SameSub (sub : String) (s : SharedSystem) : Prop where
  shared : s.shared.sub = sub
  copies : ∀ task ∈ s.tasks, ∀ session, sessionOf task = some session → session.sub = sub

theorem SameSub.move {sub : String} (inv : SameSub sub s) (old : SharedTask) {new : List SharedTask}
    (hnew : ∀ task ∈ new, ∀ session, sessionOf task = some session → session.sub = sub) :
    SameSub sub (s.move old new) := by
  refine ⟨inv.shared, fun task hmem => ?_⟩
  rcases List.mem_append.1 hmem with hmem | hmem
  · exact hnew task hmem
  · exact inv.copies task (List.mem_of_mem_erase hmem)

theorem SameSub.step {sub : String} (inv : SameSub sub s)
    (h : s.step X metadata a = some (s', e)) : SameSub sub s' := by
  cases stepped h with
  | readNone => exact inv
  | read =>
    refine ⟨inv.shared, fun task hmem => ?_⟩
    rcases List.mem_cons.1 hmem with rfl | hmem
    · simp [sessionOf]
    · exact inv.copies task hmem
  | acquire => exact inv.move _ (by simp [sessionOf])
  | coalesced | notSubmitted | refused => exact inv.move _ (by simp)
  | reread => exact inv.move _ (by simp [sessionOf, inv.shared])
  | @submit session _ _ hmem => exact inv.move _ (by simp [sessionOf, inv.copies _ hmem session rfl])
  | @exchanged token session refreshed _ _ hmem haccept =>
    have hsub : refreshed.sub = sub := by
      rw [(acceptResponse_eq_ok.1 haccept).2]
      exact inv.copies _ hmem session rfl
    have hmoved : SameSub sub (s.move (.exchanging token session) [.writing refreshed]) :=
      inv.move _ (by simpa [sessionOf] using hsub)
    exact ⟨hmoved.shared, hmoved.copies⟩
  | @writeBack session hmem => exact ⟨inv.copies _ hmem session rfl, (inv.move _ (by simp)).copies⟩

/-- A refresh does not change the subject, so all calls on a shared session use one mutex. -/
theorem sub_shared {ok : SharedSystem → SharedAction → Prop} {s₀ : SharedSystem} (h0 : s₀.Initial)
    (hr : Exec ok (step X metadata) s₀ tr s) : s.shared.sub = s₀.shared.sub := by
  have inv : SameSub s₀.shared.sub s :=
    hr.invariant (fun _ s => SameSub s₀.shared.sub s) ⟨rfl, by simp [h0.tasks]⟩
      fun _ _ _ _ _ inv _ h => inv.step h
  exact inv.shared

/-! ## Whole runs -/

/-- The token whose exchange an event reports. -/
def spends : SharedEvent → List String
  | .exchanged token => [token]
  | _ => []

theorem step_spent (h : s.step X metadata a = some (s', e)) : s'.spent = spends e ++ s.spent := by
  cases stepped h <;> rfl

/-- The history variable holds the tokens whose exchange returned `Ok` in the run. -/
theorem mem_spent_iff {ok : SharedSystem → SharedAction → Prop} {s₀ : SharedSystem} (h0 : s₀.Initial)
    (hr : Exec ok (step X metadata) s₀ tr s) (token : String) :
    token ∈ s.spent ↔ ∃ x ∈ tr, x.2 = .exchanged token := by
  refine hr.invariant (fun tr s => token ∈ s.spent ↔ ∃ x ∈ tr, x.2 = .exchanged token)
    (by simp [h0.spent]) fun tr s a s' e ih _ h => ?_
  rw [step_spent h, List.mem_append, ih]
  have hspends : token ∈ spends e ↔ e = .exchanged token := by
    cases e <;> simp [spends, eq_comm]
  rw [hspends]
  constructor
  · rintro (he | ⟨x, hx, he⟩)
    · exact ⟨(a, e), by simp, he⟩
    · exact ⟨x, List.mem_append_left _ hx, he⟩
  · rintro ⟨x, hx, he⟩
    rcases List.mem_append.1 hx with hx | hx
    · exact Or.inr ⟨x, hx, he⟩
    · rw [List.mem_singleton.1 hx] at he
      exact Or.inl he

theorem Coalescing.of_exec {s₀ : SharedSystem} (h0 : s₀.Initial)
    (hr : Exec Rotates (SharedSystem.step X metadata) s₀ tr s) : Coalescing s :=
  hr.invariant (fun _ s => Coalescing s) (.initial h0) fun _ _ _ _ _ inv hok h => inv.step hok h

end SharedSystem

/-- Calls of `refresh_shared_session` coalesce when every accepted response rotates the refresh token.
    In every run a refresh token is not submitted again once an exchange of it has returned `Ok`, and
    a call that observed this token and has the mutex returns `Ok` with the shared session as it is. -/
theorem refresh_coalesces {X : Crates} {metadata : ClientMetadata} {s₀ s : SharedSystem}
    {tr : List (SharedAction × SharedEvent)} (h0 : s₀.Initial)
    (hr : Exec Rotates (SharedSystem.step X metadata) s₀ tr s) :
    (∀ pre a token post, tr = pre ++ (a, .submitted token) :: post →
      ∀ x ∈ pre, x.2 ≠ .exchanged token) ∧
    (∀ token, .locked token ∈ s.tasks → (∃ x ∈ tr, x.2 = .exchanged token) →
      ∃ s', s.step X metadata (.reread token) = some (s', .returned (.ok s.shared))) := by
  constructor
  · intro pre a token post htr x hx hexchanged
    obtain ⟨s₁, s₂, hpre, -, hstep⟩ := hr.split_at htr
    have hspent : token ∈ s₁.spent :=
      (SharedSystem.mem_spent_iff h0 hpre token).2 ⟨x, hx, hexchanged⟩
    exact (SharedSystem.Coalescing.of_exec h0 hpre).submitted_notMem_spent hstep hspent
  · intro token hmem hexchanged
    have hspent : token ∈ s.spent := (SharedSystem.mem_spent_iff h0 hr token).2 hexchanged
    exact ⟨_, (SharedSystem.Coalescing.of_exec h0 hr).reread_of_spent hmem hspent⟩

namespace RefreshSample

open SharedSystem

def session : OAuthSession where
  sub := "did:plc:a"
  accessToken := "a1"
  refreshToken := some "r1"
  tokenType := "DPoP"
  scope := some "atproto"
  expiresAt := none
  dpopKey := { signingKey := { scalar := [1] } }
  pdsEndpoint := none
  authServerIssuer := some "https://as"
  tokenEndpoint := some "https://as/token"
  createdAt := SystemTime.ofSecs 0

def metadata : ClientMetadata := { clientId := "c", clientKey := none }

def start : SharedSystem := { shared := session, tasks := [], spent := [] }

/-- An accepted response with this `refresh_token` field. -/
def response (refreshToken : Option String) : TokenResponse where
  accessToken := "a2"
  tokenType := "DPoP"
  expiresIn := none
  refreshToken := refreshToken
  scope := none
  sub := "did:plc:a"

/-- The session after that response. -/
def refreshed (refreshToken : Option String) : OAuthSession :=
  { session with accessToken := "a2", refreshToken := refreshToken }

/-- That response arrives. -/
def answer (refreshToken : Option String) : SharedAction :=
  .respond "r1" session (.ok (response refreshToken)) (SystemTime.ofSecs 1)

/-- Two calls observe the same token; the first one refreshes, then the second gets the mutex. -/
def prelude (refreshToken : Option String) : List (SharedAction × SharedEvent) :=
  [(.read, .silent), (.read, .silent), (.acquire "r1", .acquired "r1"), (.reread "r1", .silent),
    (.submit session, .submitted "r1"),
    (answer refreshToken, .exchanged "r1"),
    (.writeBack (refreshed refreshToken), .returned (.ok (refreshed refreshToken))),
    (.acquire "r1", .acquired "r1")]

theorem initial_start : start.Initial := ⟨rfl, rfl⟩

/-- The state in which the second call has the mutex. -/
def woken (refreshToken : Option String) : SharedSystem where
  shared := refreshed refreshToken
  tasks := [.locked "r1"]
  spent := ["r1"]

/-- The state in which the first call has submitted the token. -/
def asked : SharedSystem where
  shared := session
  tasks := [.exchanging "r1" session, .observed "r1"]
  spent := []

/-- The state in which the refreshed session waits to be written back. -/
def answered (refreshToken : Option String) : SharedSystem where
  shared := session
  tasks := [.writing (refreshed refreshToken), .observed "r1"]
  spent := ["r1"]

theorem acceptable_response (refreshToken : Option String) :
    (response refreshToken).Acceptable session where
  tokenType := Text.eqIgnoreAsciiCase_refl _
  sub_nonempty := by simp [response]
  sub := rfl
  scope := by simp [response]

theorem step_answer (X : Crates) (refreshToken : Option String) :
    asked.step X metadata (answer refreshToken) = some (answered refreshToken, .exchanged "r1") := by
  have hmem : .exchanging "r1" session ∈ asked.tasks := List.mem_cons_self
  have haccept : acceptResponse session (response refreshToken) (SystemTime.ofSecs 1) =
      .ok (refreshed refreshToken) := acceptResponse_eq_ok.2 ⟨acceptable_response _, rfl⟩
  have hbind : (Except.ok (response refreshToken) >>= (acceptResponse session · (SystemTime.ofSecs 1))) =
      .ok (refreshed refreshToken) := haccept
  simp only [answer, step, if_pos hmem, hbind]
  rfl

theorem step_writeBack (X : Crates) (refreshToken : Option String) :
    (answered refreshToken).step X metadata (.writeBack (refreshed refreshToken)) =
      some ({ shared := refreshed refreshToken, tasks := [.observed "r1"], spent := ["r1"] },
        .returned (.ok (refreshed refreshToken))) := by
  have hmem : .writing (refreshed refreshToken) ∈ (answered refreshToken).tasks := List.mem_cons_self
  rw [step, if_pos hmem]
  simp only [move, answered, List.erase_cons_head, List.nil_append]

theorem exec_prelude (X : Crates) (refreshToken : Option String)
    {ok : SharedSystem → SharedAction → Prop}
    (hrespond : ok asked (answer refreshToken))
    (hother : ∀ s a, (∀ token session response now, a ≠ .respond token session response now) → ok s a) :
    Exec ok (step X metadata) start (prelude refreshToken) (woken refreshToken) := by
  have h1 : Exec ok (step X metadata) start [(SharedAction.read, SharedEvent.silent)] _ :=
    Exec.nil.snoc (hother _ _ (by simp)) rfl
  have h2 := h1.snoc (a := SharedAction.read) (hother _ _ (by simp)) rfl
  have h3 := h2.snoc (a := SharedAction.acquire "r1") (hother _ _ (by simp)) rfl
  have h4 := h3.snoc (a := SharedAction.reread "r1") (hother _ _ (by simp)) rfl
  have h5 : Exec ok (step X metadata) start _ asked :=
    h4.snoc (a := SharedAction.submit session) (hother _ _ (by simp)) rfl
  have h6 := h5.snoc hrespond (step_answer X refreshToken)
  have h7 := h6.snoc (hother _ _ (by simp)) (step_writeBack X refreshToken)
  exact h7.snoc (a := SharedAction.acquire "r1") (hother _ _ (by simp)) rfl

theorem exec_woken (X : Crates) (refreshToken : Option String) :
    Exec Exec.anyStep (step X metadata) start (prelude refreshToken) (woken refreshToken) :=
  exec_prelude X refreshToken trivial fun _ _ _ => trivial

end RefreshSample

open RefreshSample in
theorem refresh_coalesces_sample :
    ∃ s', (woken (some "r2")).step sampleCrates metadata (.reread "r1") =
      some (s', .returned (.ok (refreshed (some "r2")))) := by
  have hr : Exec Rotates (SharedSystem.step sampleCrates metadata) start (prelude (some "r2"))
      (woken (some "r2")) := by
    refine exec_prelude sampleCrates (some "r2") ?_ fun s a ha => ?_
    · rintro resp ⟨⟩ -
      exact ⟨"r2", rfl, by decide, by simp [asked]⟩
    · cases a with
      | respond token session response now => exact absurd rfl (ha token session response now)
      | _ => trivial
  exact (refresh_coalesces initial_start hr).2 "r1" List.mem_cons_self
    ⟨(answer (some "r2"), .exchanged "r1"), by simp [prelude], rfl⟩

open RefreshSample in
/-- Both halves fail for other responses. When the accepted response has no refresh token, the call
    that waited returns `MissingRefreshToken`; when it repeats the old one, that call submits it again
    after its exchange has returned `Ok`. -/
theorem waiting_call_not_coalesced :
    (∃ a b s, Exec Exec.anyStep (SharedSystem.step sampleCrates metadata) start
      (prelude none ++ [(a, .silent)] ++ [(b, .returned (.error (.token .missingRefreshToken)))]) s) ∧
    (∃ a b s, Exec Exec.anyStep (SharedSystem.step sampleCrates metadata) start
      (prelude (some "r1") ++ [(a, .silent)] ++ [(b, .submitted "r1")]) s) ∧
    ∀ refreshToken, ∃ a, (a, .exchanged "r1") ∈ prelude refreshToken := by
  have homitted := ((exec_woken sampleCrates none).snoc (a := SharedAction.reread "r1") trivial
    rfl).snoc (a := SharedAction.submit (refreshed none)) trivial rfl
  have hrepeated := ((exec_woken sampleCrates (some "r1")).snoc (a := SharedAction.reread "r1") trivial
    rfl).snoc (a := SharedAction.submit (refreshed (some "r1"))) trivial rfl
  exact ⟨⟨_, _, _, homitted⟩, ⟨_, _, _, hrepeated⟩, fun r => ⟨answer r, by simp [prelude]⟩⟩

end Skyauth
