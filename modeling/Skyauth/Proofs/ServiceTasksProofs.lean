import Skyauth.Lib.History
import Skyauth.ServiceTasks
import Skyauth.Proofs.ServiceAuthProofs

/-!
# Verifications side by side

A call that nothing comes between is `verify_service_jwt_claims` as a function of the verifier. With other
calls in between, the cache may hold the key of a document that another call has fetched, under the second
of that call; a document never comes before the second of the call that asked for it. So an accepted token
is signed with a key that its issuer had less than the lifetime of the cache before the call.
-/

namespace Skyauth

/-! ## The parts of a call -/

namespace ServiceAuthVerifier

variable {v : ServiceAuthVerifier} {did : String} {nowSecs : UInt64} {key : AtprotoVerifyingKey}

/-- The two parts of `resolve_atproto_key` together. -/
theorem resolveAtprotoKey_eq (X : ServiceCrates) (N : NetCrates) (W : World) (v : ServiceAuthVerifier)
    (did : String) (nowSecs : UInt64) (first : String) : v.resolveAtprotoKey X N W did nowSecs first =
    (v.lookupKey did nowSecs).elim
      (v.acceptDocument X did nowSecs first (v.resolver.resolveDid X.toCrates N W did))
      fun found => (found, v.keyCache) := by
  unfold resolveAtprotoKey lookupKey
  cases isValidServiceDid did with
  | false => simp
  | true =>
    cases v.keyCache.getAtprotoKey did nowSecs with
    | none =>
      cases hkey : (v.resolver.resolveDid X.toCrates N W did).mapError AtprotoOAuthError.identity >>=
        extractAtprotoKeyFromDocument X <;> simp [acceptDocument, hkey]
    | some key => simp

theorem getAtprotoKey_of_lookupKey (h : v.lookupKey did nowSecs = some (.ok key)) :
    v.keyCache.getAtprotoKey did nowSecs = some key := by
  unfold lookupKey at h
  split at h
  · cases h
  · obtain ⟨key', hget, hkey⟩ := Option.map_eq_some_iff.1 h
    rw [hget, Except.ok.inj hkey]

/-- A document gives a key that goes into the cache, or an error. -/
theorem acceptDocument_cases (X : ServiceCrates) (v : ServiceAuthVerifier) (did : String)
    (nowSecs : UInt64) (first : String) (answer : Except IdentityError DidDocument) :
    (∃ e, v.acceptDocument X did nowSecs first answer = (.error e, v.keyCache)) ∨
    ∃ doc key, answer = .ok doc ∧ extractAtprotoKeyFromDocument X doc = .ok key ∧
      v.acceptDocument X did nowSecs first answer =
        (.ok key, v.keyCache.insertAtprotoKey did key nowSecs first) := by
  unfold acceptDocument
  cases hkey : answer.mapError AtprotoOAuthError.identity >>= extractAtprotoKeyFromDocument X with
  | error e => exact Or.inl ⟨e, rfl⟩
  | ok key =>
    obtain ⟨doc, hdoc, hextract⟩ := Fallible.bind_eq_ok.1 hkey
    exact Or.inr ⟨doc, key, Fallible.mapError_eq_ok.1 hdoc, hextract, rfl⟩

end ServiceAuthVerifier

namespace ServiceTasks

/-! ## The steps of a verification -/

section

variable {X : ServiceCrates} {N : NetCrates} {s s₀ s₁ : ServiceTasks} {args : JwtArguments} {jwt : ServiceJwt}
  {key : AtprotoVerifyingKey} {nowSecs : UInt64} {did first : String} {world : World}

theorem step_verify_of_found {found : Except AtprotoOAuthError AtprotoVerifyingKey}
    (hparse : parseServiceJwt X args.authHeaderOrToken = .ok jwt)
    (hfound : s.verifier.lookupKey jwt.issuer s.clock = some found) :
    step X N s (.verify args) = some ((s.withKey s.clock args jwt found).1,
      ⟨none, (s.withKey s.clock args jwt found).2⟩) := by
  simp only [step, hparse, hfound]

theorem step_verify_of_miss (hparse : parseServiceJwt X args.authHeaderOrToken = .ok jwt)
    (hmiss : s.verifier.lookupKey jwt.issuer s.clock = none) :
    step X N s (.verify args) =
      some ({ s with tasks := .waiting jwt.issuer s.clock (some (args, jwt)) :: s.tasks }, silent) := by
  simp only [step, hparse, hmiss]

/-- The document that a call waits for comes, and this is what is seen of it. -/
def arrival (X : ServiceCrates) (N : NetCrates) (s : ServiceTasks) (did : String) (nowSecs : UInt64)
    (goal : Option (JwtArguments × ServiceJwt)) (world : World) (first : String)
    (verdict : Option ServiceVerdict) : ServiceTaskAction × ServiceTaskEvent where
  fst := .arrive (.waiting did nowSecs goal) world first
  snd :=
    { resolution := (s.verifier.resolver.resolveDid X.toCrates N world did).toOption.map
        fun doc => ⟨did, doc, s.clock⟩
      verdict := verdict }

theorem step_arrive_resolve {found : Except AtprotoOAuthError AtprotoVerifyingKey} {cache : DidKeyCache}
    (hmem : .waiting did nowSecs none ∈ s.tasks)
    (haccept : s.verifier.acceptDocument X did nowSecs first
      (s.verifier.resolver.resolveDid X.toCrates N world did) = (found, cache)) :
    step X N s (.arrive (.waiting did nowSecs none) world first) =
      some ({ s with verifier.keyCache := cache, tasks := s.tasks.erase (.waiting did nowSecs none) },
        (arrival X N s did nowSecs none world first none).2) := by
  simp only [step, if_pos hmem, haccept, arrival]

theorem step_arrive_check {found : Except AtprotoOAuthError AtprotoVerifyingKey} {cache : DidKeyCache}
    (hmem : .waiting did nowSecs (some (args, jwt)) ∈ s.tasks)
    (haccept : s.verifier.acceptDocument X did nowSecs first
      (s.verifier.resolver.resolveDid X.toCrates N world did) = (found, cache)) :
    step X N s (.arrive (.waiting did nowSecs (some (args, jwt))) world first) =
      some ((withKey { s with
          verifier.keyCache := cache
          tasks := s.tasks.erase (.waiting did nowSecs (some (args, jwt))) } nowSecs args jwt found).1,
        (arrival X N s did nowSecs (some (args, jwt)) world first (withKey { s with
          verifier.keyCache := cache
          tasks := s.tasks.erase (.waiting did nowSecs (some (args, jwt))) } nowSecs args jwt found).2).2) := by
  simp only [step, if_pos hmem, haccept, arrival]

theorem step_check (hmem : .holding key nowSecs args jwt ∈ s.tasks) :
    step X N s (.check (.holding key nowSecs args jwt)) =
      some ({ s with
          verifier.keyCache := (jwt.verifyWith X key s.verifier.keyCache args.expectedAudiences nowSecs
            args.leewaySecs).2
          tasks := s.tasks.erase (.holding key nowSecs args jwt) },
        returned args nowSecs (jwt.verifyWith X key s.verifier.keyCache args.expectedAudiences nowSecs
          args.leewaySecs).1) := by
  simp only [step, if_pos hmem]

/-- A verification that has its key or an error goes on alone. -/
theorem verify_alone_of_key {found : Except AtprotoOAuthError AtprotoVerifyingKey} {cache : DidKeyCache}
    {tr : List (ServiceTaskAction × ServiceTaskEvent)} {a : ServiceTaskAction} {r : Option Resolution}
    (hparse : parseServiceJwt X args.authHeaderOrToken = .ok jwt)
    (hkey : s.verifier.resolveAtprotoKey X N world jwt.issuer s.clock first = (found, cache))
    (hr : Exec Exec.anyStep (step X N) s tr s₁) (hquiet : tr.filterMap (fun x => x.2.verdict) = [])
    (hstep : step X N s₁ a =
      some ((withKey { s with verifier.keyCache := cache } s.clock args jwt found).1,
        ⟨r, (withKey { s with verifier.keyCache := cache } s.clock args jwt found).2⟩)) :
    ∃ tr, Exec Exec.anyStep (step X N) s tr
      { s with verifier.keyCache := (s.verifier.verifyServiceJwtClaims X N world args.authHeaderOrToken
          args.expectedAudiences s.clock args.leewaySecs first).2 } ∧
      tr.filterMap (fun x => x.2.verdict) =
        [⟨args, s.clock, (s.verifier.verifyServiceJwtClaims X N world args.authHeaderOrToken
          args.expectedAudiences s.clock args.leewaySecs first).1⟩] := by
  unfold ServiceAuthVerifier.verifyServiceJwtClaims
  simp only [hparse, hkey]
  cases found with
  | error e =>
    refine ⟨_, hr.snoc trivial hstep, ?_⟩
    simp [hquiet, withKey]
  | ok key =>
    have hcheck := step_check (X := X) (N := N)
      (s := (withKey { s with verifier.keyCache := cache } s.clock args jwt (.ok key)).1)
      (List.mem_cons_self (a := .holding key s.clock args jwt) (l := s.tasks))
    rw [withKey, List.erase_cons_head] at hcheck
    refine ⟨_, (hr.snoc trivial hstep).snoc trivial hcheck, ?_⟩
    simp [hquiet, withKey, returned]

/-- A verification that nothing comes between returns what the function returns, and leaves the cache as
    it does. -/
theorem verify_alone (s : ServiceTasks) (args : JwtArguments) (world : World) (first : String) :
    ∃ tr, Exec Exec.anyStep (step X N) s tr
      { s with verifier.keyCache := (s.verifier.verifyServiceJwtClaims X N world args.authHeaderOrToken
          args.expectedAudiences s.clock args.leewaySecs first).2 } ∧
      tr.filterMap (fun x => x.2.verdict) =
        [⟨args, s.clock, (s.verifier.verifyServiceJwtClaims X N world args.authHeaderOrToken
          args.expectedAudiences s.clock args.leewaySecs first).1⟩] := by
  cases hparse : parseServiceJwt X args.authHeaderOrToken with
  | error e =>
    have hstep : step X N s (.verify args) = some (s, returned args s.clock (.error e)) := by
      simp only [step, hparse]
    unfold ServiceAuthVerifier.verifyServiceJwtClaims
    simp only [hparse]
    exact ⟨_, Exec.nil.snoc trivial hstep, rfl⟩
  | ok jwt =>
    have hkey := s.verifier.resolveAtprotoKey_eq X N world jwt.issuer s.clock first
    cases hlookup : s.verifier.lookupKey jwt.issuer s.clock with
    | some found =>
      rw [hlookup, Option.elim_some] at hkey
      exact verify_alone_of_key hparse hkey Exec.nil rfl (step_verify_of_found hparse hlookup)
    | none =>
      rcases haccept : s.verifier.acceptDocument X jwt.issuer s.clock first
        (s.verifier.resolver.resolveDid X.toCrates N world jwt.issuer) with ⟨found, cache⟩
      rw [hlookup, Option.elim_none, haccept] at hkey
      have harrive := step_arrive_check (N := N)
        (s := { s with tasks := .waiting jwt.issuer s.clock (some (args, jwt)) :: s.tasks })
        List.mem_cons_self haccept
      rw [List.erase_cons_head] at harrive
      exact verify_alone_of_key hparse hkey
        (Exec.nil.snoc trivial (step_verify_of_miss hparse hlookup)) rfl harrive

end

/-! ## What an action does -/

/-- The cases of an action: what is seen of it and the state that it leads to. -/
inductive Move (X : ServiceCrates) (N : NetCrates) (s : ServiceTasks) :
    ServiceTaskAction × ServiceTaskEvent → ServiceTasks → Prop where
  | tick {now : UInt64} (hclock : s.clock ≤ now) : Move X N s (.tick now, silent) { s with clock := now }
  | malformed {args : JwtArguments} {error : AtprotoOAuthError} :
    Move X N s (.verify args, returned args s.clock (.error error)) s
  | found {args : JwtArguments} {jwt : ServiceJwt} {found : Except AtprotoOAuthError AtprotoVerifyingKey}
      (hparse : parseServiceJwt X args.authHeaderOrToken = .ok jwt)
      (hlookup : s.verifier.lookupKey jwt.issuer s.clock = some found) :
    Move X N s (.verify args, ⟨none, (s.withKey s.clock args jwt found).2⟩)
      (s.withKey s.clock args jwt found).1
  | missed {args : JwtArguments} {jwt : ServiceJwt}
      (hparse : parseServiceJwt X args.authHeaderOrToken = .ok jwt) :
    Move X N s (.verify args, silent)
      { s with tasks := .waiting jwt.issuer s.clock (some (args, jwt)) :: s.tasks }
  | known {did : String} : Move X N s (.resolve did, silent) s
  | unknown {did : String} :
    Move X N s (.resolve did, silent) { s with tasks := .waiting did s.clock none :: s.tasks }
  | resolved {did first : String} {nowSecs : UInt64} {world : World}
      {found : Except AtprotoOAuthError AtprotoVerifyingKey} {cache : DidKeyCache}
      (hmem : .waiting did nowSecs none ∈ s.tasks)
      (haccept : s.verifier.acceptDocument X did nowSecs first
        (s.verifier.resolver.resolveDid X.toCrates N world did) = (found, cache)) :
    Move X N s (arrival X N s did nowSecs none world first none)
      { s with verifier.keyCache := cache, tasks := s.tasks.erase (.waiting did nowSecs none) }
  | answered {did first : String} {nowSecs : UInt64} {world : World} {args : JwtArguments}
      {jwt : ServiceJwt} {found : Except AtprotoOAuthError AtprotoVerifyingKey} {cache : DidKeyCache}
      (hmem : .waiting did nowSecs (some (args, jwt)) ∈ s.tasks)
      (haccept : s.verifier.acceptDocument X did nowSecs first
        (s.verifier.resolver.resolveDid X.toCrates N world did) = (found, cache)) :
    Move X N s (arrival X N s did nowSecs (some (args, jwt)) world first (withKey { s with
        verifier.keyCache := cache
        tasks := s.tasks.erase (.waiting did nowSecs (some (args, jwt))) } nowSecs args jwt found).2)
      (withKey { s with
        verifier.keyCache := cache
        tasks := s.tasks.erase (.waiting did nowSecs (some (args, jwt))) } nowSecs args jwt found).1
  | checked {key : AtprotoVerifyingKey} {nowSecs : UInt64} {args : JwtArguments} {jwt : ServiceJwt}
      (hmem : .holding key nowSecs args jwt ∈ s.tasks) :
    Move X N s (.check (.holding key nowSecs args jwt), returned args nowSecs (jwt.verifyWith X key
        s.verifier.keyCache args.expectedAudiences nowSecs args.leewaySecs).1)
      { s with
        verifier.keyCache := (jwt.verifyWith X key s.verifier.keyCache args.expectedAudiences nowSecs
          args.leewaySecs).2
        tasks := s.tasks.erase (.holding key nowSecs args jwt) }
  | cancelled {task : ServiceTask} :
    Move X N s (.cancel task, silent) { s with tasks := s.tasks.erase task }
  | inserted {did first : String} {key : AtprotoVerifyingKey} {nowSecs : UInt64} :
    Move X N s (.insert did key nowSecs first, silent)
      { s with verifier.keyCache := s.verifier.keyCache.insertAtprotoKey did key nowSecs first }
  | invalidated {did : String} : Move X N s (.invalidate did, silent)
      { s with verifier.keyCache := s.verifier.keyCache.invalidate did }
  | cleared : Move X N s (.clearCache, silent)
      { s with verifier.keyCache := .new s.verifier.keyCache.hasher s.verifier.keyCache.ttlSecs }

theorem move_of_step {X : ServiceCrates} {N : NetCrates} {s s' : ServiceTasks} {a : ServiceTaskAction}
    {e : ServiceTaskEvent} (hstep : step X N s a = some (s', e)) : Move X N s (a, e) s' := by
  cases a with
  | tick now =>
    simp only [step, Option.ite_none_right_eq_some, Option.some.injEq, Prod.mk.injEq] at hstep
    obtain ⟨hclock, rfl, rfl⟩ := hstep
    exact .tick hclock
  | verify args =>
    cases hparse : parseServiceJwt X args.authHeaderOrToken with
    | error error =>
      simp only [step, hparse] at hstep
      cases hstep
      exact .malformed
    | ok jwt =>
      cases hlookup : s.verifier.lookupKey jwt.issuer s.clock with
      | none =>
        rw [step_verify_of_miss hparse hlookup] at hstep
        cases hstep
        exact .missed hparse
      | some found =>
        rw [step_verify_of_found hparse hlookup] at hstep
        cases hstep
        exact .found hparse hlookup
  | resolve did =>
    simp only [step] at hstep
    split at hstep
    · cases hstep
      exact .unknown
    · cases hstep
      exact .known
  | arrive task world first =>
    cases task with
    | holding key nowSecs args jwt => cases hstep
    | waiting did nowSecs goal =>
      by_cases hmem : .waiting did nowSecs goal ∈ s.tasks
      · rcases haccept : s.verifier.acceptDocument X did nowSecs first
          (s.verifier.resolver.resolveDid X.toCrates N world did) with ⟨found, cache⟩
        cases goal with
        | none =>
          rw [step_arrive_resolve hmem haccept] at hstep
          cases hstep
          exact .resolved hmem haccept
        | some goal =>
          rw [step_arrive_check hmem haccept] at hstep
          cases hstep
          exact .answered hmem haccept
      · simp only [step, if_neg hmem] at hstep
        cases hstep
  | check task =>
    cases task with
    | waiting did nowSecs goal => cases hstep
    | holding key nowSecs args jwt =>
      by_cases hmem : .holding key nowSecs args jwt ∈ s.tasks
      · rw [step_check hmem] at hstep
        cases hstep
        exact .checked hmem
      · simp only [step, if_neg hmem] at hstep
        cases hstep
  | cancel task =>
    cases hstep
    exact .cancelled
  | insert did key nowSecs first =>
    cases hstep
    exact .inserted
  | invalidate did =>
    cases hstep
    exact .invalidated
  | clearCache =>
    cases hstep
    exact .cleared

/-! ## Where keys come from -/

section

variable {X : ServiceCrates} {N : NetCrates} {resolver : IdentityResolver} {v : ServiceAuthVerifier}
  {tr : List (ServiceTaskAction × ServiceTaskEvent)} {x : ServiceTaskAction × ServiceTaskEvent}
  {s s' s₀ : ServiceTasks} {args : JwtArguments} {jwt : ServiceJwt} {key : AtprotoVerifyingKey}
  {nowSecs t : UInt64} {did first : String}

/-- A key was provided for a DID at a second: it is the key of a document that came then, or another user
    of the cache put it in under that second. -/
def Provides (X : ServiceCrates) (N : NetCrates) (resolver : IdentityResolver)
    (tr : List (ServiceTaskAction × ServiceTaskEvent)) (did : String) (key : AtprotoVerifyingKey)
    (t : UInt64) : Prop :=
  (∃ task world first e doc, (.arrive task world first, e) ∈ tr ∧ e.resolution = some ⟨did, doc, t⟩ ∧
    resolver.resolveDid X.toCrates N world did = .ok doc ∧ doc.id = did ∧
    extractAtprotoKeyFromDocument X doc = .ok key) ∨
  ∃ first e, (.insert did key t first, e) ∈ tr

theorem Provides.snoc (h : Provides X N resolver tr did key t) :
    Provides X N resolver (tr ++ [x]) did key t := by
  rcases h with ⟨task, world, first, e, doc, hmem, hdoc⟩ | ⟨first, e, hmem⟩
  · exact Or.inl ⟨task, world, first, e, doc, List.mem_append_left _ hmem, hdoc⟩
  · exact Or.inr ⟨first, e, List.mem_append_left _ hmem⟩

/-- The key was provided less than the lifetime of the cache before the second, or not before it. -/
def ProvidedFor (X : ServiceCrates) (N : NetCrates) (v : ServiceAuthVerifier)
    (tr : List (ServiceTaskAction × ServiceTaskEvent)) (did : String) (key : AtprotoVerifyingKey)
    (nowSecs : UInt64) : Prop :=
  ∃ t, Provides X N v.resolver tr did key t ∧
    nowSecs.toNat ≤ t.toNat + (v.keyCache.ttlSecs.toNat - 1)

theorem ProvidedFor.snoc (h : ProvidedFor X N v tr did key nowSecs) :
    ProvidedFor X N v (tr ++ [x]) did key nowSecs := by
  obtain ⟨t, hprovides, hage⟩ := h
  exact ⟨t, hprovides.snoc, hage⟩

/-- A call that waits was made before, and one that has a key was provided with it in time. -/
def Based (X : ServiceCrates) (N : NetCrates) (v : ServiceAuthVerifier)
    (tr : List (ServiceTaskAction × ServiceTaskEvent)) (clock : UInt64) : ServiceTask → Prop
  | .waiting did nowSecs goal => nowSecs ≤ clock ∧ ∀ args jwt, goal = some (args, jwt) →
      parseServiceJwt X args.authHeaderOrToken = .ok jwt ∧ jwt.issuer = did
  | .holding key nowSecs args jwt => parseServiceJwt X args.authHeaderOrToken = .ok jwt ∧
      ProvidedFor X N v tr jwt.issuer key nowSecs

theorem Based.snoc {task : ServiceTask} {clock : UInt64} (h : Based X N v tr clock task) :
    Based X N v (tr ++ [x]) clock task := by
  cases task with
  | waiting did nowSecs goal => exact h
  | holding key nowSecs args jwt => exact ⟨h.1, h.2.snoc⟩

theorem Based.tick {task : ServiceTask} {clock now : UInt64} (h : Based X N v tr clock task)
    (hclock : clock ≤ now) : Based X N v tr now task := by
  cases task with
  | waiting did nowSecs goal => exact ⟨UInt64.le_trans h.1 hclock, h.2⟩
  | holding key nowSecs args jwt => exact h

/-- What holds along every run of the verifier `v`. -/
structure Grounded (X : ServiceCrates) (N : NetCrates) (v : ServiceAuthVerifier)
    (tr : List (ServiceTaskAction × ServiceTaskEvent)) (s : ServiceTasks) : Prop where
  resolver : s.verifier.resolver = v.resolver
  ttlSecs : s.verifier.keyCache.ttlSecs = v.keyCache.ttlSecs
  cached : ∀ did entry, s.verifier.keyCache.find did = some entry →
    ∃ t, Provides X N v.resolver tr did entry.atprotoKey t ∧ entry.resolvedAtSecs ≤ t
  tasks : ∀ task ∈ s.tasks, Based X N v tr s.clock task

namespace Grounded

/-- A key of the cache was provided in time for a call that finds it. -/
theorem providedFor_of_lookupKey (h : Grounded X N v tr s)
    (hfound : s.verifier.lookupKey did nowSecs = some (.ok key)) :
    ProvidedFor X N v tr did key nowSecs := by
  obtain ⟨entry, hfind, rfl, hage⟩ := DidKeyCache.getAtprotoKey_eq_some
    (ServiceAuthVerifier.getAtprotoKey_of_lookupKey hfound)
  obtain ⟨t, hprovides, hle⟩ := h.cached did entry hfind
  rw [h.ttlSecs] at hage
  rw [UInt64.le_iff_toNat_le] at hle
  exact ⟨t, hprovides, by omega⟩

theorem snoc (h : Grounded X N v tr s) : Grounded X N v (tr ++ [x]) s where
  resolver := h.resolver
  ttlSecs := h.ttlSecs
  cached did entry hfind := by
    obtain ⟨t, hprovides, hle⟩ := h.cached did entry hfind
    exact ⟨t, hprovides.snoc, hle⟩
  tasks task htask := (h.tasks task htask).snoc

theorem tick {now : UInt64} (h : Grounded X N v tr s) (hclock : s.clock ≤ now) :
    Grounded X N v tr { s with clock := now } :=
  ⟨h.resolver, h.ttlSecs, h.cached, fun task htask => (h.tasks task htask).tick hclock⟩

/-- Calls end. -/
theorem of_subset {tasks : List ServiceTask} (h : Grounded X N v tr s) (hsub : tasks ⊆ s.tasks) :
    Grounded X N v tr { s with tasks := tasks } :=
  ⟨h.resolver, h.ttlSecs, h.cached, fun task htask => h.tasks task (hsub htask)⟩

/-- A call begins or goes on. -/
theorem cons {task : ServiceTask} (h : Grounded X N v tr s) (hbased : Based X N v tr s.clock task) :
    Grounded X N v tr { s with tasks := task :: s.tasks } :=
  ⟨h.resolver, h.ttlSecs, h.cached, List.forall_mem_cons.2 ⟨hbased, h.tasks⟩⟩

/-- The cache gets entries that are provided. -/
theorem set_cache {cache : DidKeyCache} (h : Grounded X N v tr s)
    (httl : cache.ttlSecs = s.verifier.keyCache.ttlSecs)
    (hcached : ∀ did entry, cache.find did = some entry → s.verifier.keyCache.find did = some entry ∨
      ∃ t, Provides X N v.resolver tr did entry.atprotoKey t ∧ entry.resolvedAtSecs ≤ t) :
    Grounded X N v tr { s with verifier.keyCache := cache } where
  resolver := h.resolver
  ttlSecs := by rw [httl, h.ttlSecs]
  cached did entry hfind := by
    rcases hcached did entry hfind with hold | hnew
    · exact h.cached did entry hold
    · exact hnew
  tasks := h.tasks

theorem insertAtprotoKey (h : Grounded X N v tr s) (hprovides : Provides X N v.resolver tr did key t)
    (hle : nowSecs ≤ t) : Grounded X N v tr
      { s with verifier.keyCache := s.verifier.keyCache.insertAtprotoKey did key nowSecs first } := by
  refine h.set_cache rfl ?_
  intro did' entry hfind
  rcases DidKeyCache.find_insertAtprotoKey hfind with ⟨rfl, rfl⟩ | ⟨-, hold⟩
  · exact Or.inr ⟨t, hprovides, hle⟩
  · exact Or.inl hold

theorem invalidate (h : Grounded X N v tr s) (did : String) : Grounded X N v tr
    { s with verifier.keyCache := s.verifier.keyCache.invalidate did } := by
  refine h.set_cache rfl ?_
  intro did' entry hfind
  rw [DidKeyCache.find_invalidate] at hfind
  by_cases hdid : did' = did
  · rw [hdid, Function.update_self] at hfind
    cases hfind
  · rw [Function.update_of_ne hdid] at hfind
    exact Or.inl hfind

/-- A verification gets its key, or an error. -/
theorem withKey {found : Except AtprotoOAuthError AtprotoVerifyingKey} (h : Grounded X N v tr s)
    (hparse : parseServiceJwt X args.authHeaderOrToken = .ok jwt)
    (hkey : ∀ key, found = .ok key → ProvidedFor X N v tr jwt.issuer key nowSecs) :
    Grounded X N v tr (s.withKey nowSecs args jwt found).1 := by
  cases found with
  | error e => exact h
  | ok key => exact h.cons ⟨hparse, hkey key rfl⟩

/-- The document of a call comes, and its key goes into the cache. -/
theorem acceptDocument {goal : Option (JwtArguments × ServiceJwt)} {world : World}
    {found : Except AtprotoOAuthError AtprotoVerifyingKey} {cache : DidKeyCache}
    (verdict : Option ServiceVerdict) (h : Grounded X N v tr s)
    (hmem : .waiting did nowSecs goal ∈ s.tasks)
    (haccept : s.verifier.acceptDocument X did nowSecs first
      (s.verifier.resolver.resolveDid X.toCrates N world did) = (found, cache)) :
    Grounded X N v (tr ++ [arrival X N s did nowSecs goal world first verdict])
      { s with verifier.keyCache := cache, tasks := s.tasks.erase (.waiting did nowSecs goal) } ∧
    ∀ key, found = .ok key → ProvidedFor X N v
      (tr ++ [arrival X N s did nowSecs goal world first verdict]) did key nowSecs := by
  have hmade : nowSecs ≤ s.clock := (h.tasks _ hmem).1
  have herase : s.tasks.erase (.waiting did nowSecs goal) ⊆ s.tasks := List.erase_subset
  rcases s.verifier.acceptDocument_cases X did nowSecs first
    (s.verifier.resolver.resolveDid X.toCrates N world did) with ⟨error, herror⟩ | ⟨doc, key, hdoc, hkey, hok⟩
  · rw [haccept] at herror
    cases herror
    refine ⟨h.snoc.of_subset herase, ?_⟩
    rintro _ ⟨⟩
  · rw [haccept] at hok
    cases hok
    have hprovides : Provides X N v.resolver
        (tr ++ [arrival X N s did nowSecs goal world first verdict]) did key s.clock := by
      unfold arrival
      rw [hdoc]
      rw [h.resolver] at hdoc
      exact Or.inl ⟨_, world, first, _, doc, List.mem_append_right _ (List.mem_singleton_self _), rfl, hdoc,
        IdentityResolver.resolveDid_eq_ok hdoc, hkey⟩
    refine ⟨(h.snoc.insertAtprotoKey hprovides hmade).of_subset herase, ?_⟩
    rintro _ ⟨⟩
    rw [UInt64.le_iff_toNat_le] at hmade
    exact ⟨s.clock, hprovides, by omega⟩

theorem initial (h : s₀.Initial) : Grounded X N s₀.verifier [] s₀ where
  resolver := rfl
  ttlSecs := rfl
  cached did entry hfind := by
    rw [h.empty] at hfind
    cases hfind
  tasks := by
    rw [h.tasks]
    exact List.forall_mem_nil _

end Grounded

/-- What one action preserves. -/
theorem grounded_step (h : Grounded X N v tr s) (hmove : Move X N s x s') :
    Grounded X N v (tr ++ [x]) s' := by
  cases hmove with
  | tick hclock => exact h.snoc.tick hclock
  | malformed | known => exact h.snoc
  | found hparse hlookup =>
    refine h.snoc.withKey hparse ?_
    rintro key rfl
    exact (h.providedFor_of_lookupKey hlookup).snoc
  | missed hparse =>
    refine h.snoc.cons ⟨UInt64.le_refl _, ?_⟩
    rintro _ _ ⟨⟩
    exact ⟨hparse, rfl⟩
  | unknown =>
    refine h.snoc.cons ⟨UInt64.le_refl _, ?_⟩
    rintro _ _ ⟨⟩
  | resolved hmem haccept => exact (h.acceptDocument none hmem haccept).1
  | answered hmem haccept =>
    obtain ⟨hparse, rfl⟩ := (h.tasks _ hmem).2 _ _ rfl
    obtain ⟨hgrounded, hkey⟩ := h.acceptDocument _ hmem haccept
    exact hgrounded.withKey hparse hkey
  | @checked key nowSecs args jwt hmem =>
    have hcache : (jwt.verifyWith X key s.verifier.keyCache args.expectedAudiences nowSecs
        args.leewaySecs).2 = s.verifier.keyCache ∨ _ = _ := ServiceJwt.verifyWith_snd
    rcases hcache with hcache | hcache
    · rw [hcache]
      exact h.snoc.of_subset List.erase_subset
    · rw [hcache]
      exact (h.snoc.invalidate jwt.issuer).of_subset List.erase_subset
  | cancelled => exact h.snoc.of_subset List.erase_subset
  | inserted =>
    exact h.snoc.insertAtprotoKey (Or.inr ⟨_, _, List.mem_append_right _ (List.mem_singleton_self _)⟩)
      (UInt64.le_refl _)
  | @invalidated did => exact h.snoc.invalidate did
  | cleared =>
    refine h.snoc.set_cache rfl ?_
    intro did entry hfind
    cases hfind

theorem grounded_exec (hinit : s₀.Initial) (hr : Exec Exec.anyStep (step X N) s₀ tr s) :
    Grounded X N s₀.verifier tr s :=
  hr.invariant (Grounded X N s₀.verifier) (.initial hinit) fun _ _ _ _ _ h _ hstep => grounded_step h (move_of_step hstep)

end

/-! ## What an accepted token guarantees -/

section

variable {X : ServiceCrates} {N : NetCrates} {v : ServiceAuthVerifier} {s s' s₀ : ServiceTasks}
  {tr : List (ServiceTaskAction × ServiceTaskEvent)}

/-- The claims are those of a token of the call that passes every check under the key. -/
structure AcceptedWith (X : ServiceCrates) (verdict : ServiceVerdict) (claims : ServiceJwtClaims)
    (jwt : ServiceJwt) (key : AtprotoVerifyingKey) (signature : List UInt8) : Prop where
  parsed : parseServiceJwt X verdict.args.authHeaderOrToken = .ok jwt
  own : jwt.claims = claims
  iss : claims.iss = some jwt.issuer
  valid : isValidServiceDid jwt.issuer = true
  signed : jwt.SignedBy X key signature
  exp : ∀ exp, claims.exp = some exp → verdict.nowSecs.toNat ≤ exp.toNat + verdict.args.leewaySecs.toNat
  aud : verdict.args.expectedAudiences ≠ [] →
    ∀ aud, claims.aud = some aud → aud ∈ verdict.args.expectedAudiences

theorem result_of_withKey {nowSecs : UInt64} {args : JwtArguments} {jwt : ServiceJwt}
    {found : Except AtprotoOAuthError AtprotoVerifyingKey} {verdict : ServiceVerdict}
    {claims : ServiceJwtClaims} (h : (s.withKey nowSecs args jwt found).2 = some verdict) :
    verdict.result ≠ .ok claims := by
  cases found with
  | error e =>
    cases h
    rintro ⟨⟩
  | ok key => cases h

/-- Only a verification that uses its key returns claims. -/
theorem holding_of_verdict {x : ServiceTaskAction × ServiceTaskEvent} {verdict : ServiceVerdict}
    {claims : ServiceJwtClaims} (hmove : Move X N s x s') (hverdict : x.2.verdict = some verdict)
    (hclaims : verdict.result = .ok claims) :
    ∃ key jwt, .holding key verdict.nowSecs verdict.args jwt ∈ s.tasks ∧
      (jwt.verifyWith X key s.verifier.keyCache verdict.args.expectedAudiences verdict.nowSecs
        verdict.args.leewaySecs).1 = .ok claims := by
  cases hmove with
  | @checked key _ _ jwt hmem =>
    cases hverdict
    exact ⟨key, jwt, hmem, hclaims⟩
  | malformed =>
    cases hverdict
    cases hclaims
  | found | answered => exact absurd hclaims (result_of_withKey hverdict)
  | tick | missed | known | unknown | resolved | cancelled | inserted | invalidated | cleared =>
    cases hverdict

/-- However calls come between: claims that are returned are those of a token that is signed with a key of
    its issuer, and the key is that of a document that came less than the lifetime of the cache before the
    second of the call, or was put in by another user of the cache under such a second. -/
theorem accepted_key_provided_recently (hinit : s₀.Initial)
    (hr : Exec Exec.anyStep (step X N) s₀ tr s) :
    History.Justified (fun pre x => ∀ verdict claims, x.2.verdict = some verdict →
      verdict.result = .ok claims → ∃ jwt key signature t, AcceptedWith X verdict claims jwt key signature ∧
        Provides X N s₀.verifier.resolver pre jwt.issuer key t ∧
        verdict.nowSecs.toNat ≤ t.toNat + (s₀.verifier.keyCache.ttlSecs.toNat - 1)) tr := by
  rintro pre ⟨a, e⟩ post htr verdict claims hverdict hclaims
  obtain ⟨s₁, s₂, hpre, -, hstep⟩ := hr.split_at htr
  obtain ⟨key, jwt, hholding, hverify⟩ := holding_of_verdict (move_of_step hstep) hverdict hclaims
  obtain ⟨hparse, t, hprovides, hage⟩ := (grounded_exec hinit hpre).tasks _ hholding
  obtain ⟨hsig, hcheck⟩ := ServiceJwt.verifyWith_fst_eq_ok.1 hverify
  obtain ⟨halg, signature, hdecode, hparses, hverifies⟩ := ServiceJwt.checkSignature_eq_ok.1 hsig
  obtain ⟨rfl, hexp, haud, iss, hiss, hvalid⟩ := ServiceJwt.checkClaims_eq_ok.1 hcheck
  obtain rfl := issuer_of_iss hparse hiss
  exact ⟨jwt, key, signature, t,
    ⟨hparse, rfl, hiss, hvalid, ⟨halg, hdecode, hparses, hverifies.1 rfl⟩, ServiceJwt.checkExp_eq_ok.1 hexp,
      ServiceJwt.checkAud_eq_ok.1 haud⟩, hprovides, hage⟩

end

end ServiceTasks

namespace ServiceSample

open DirectorySample (net)

/-- The verifier with an empty cache and the call with the token. -/
def tasks : ServiceTasks where
  verifier := verifier emptyCache
  clock := 1700000000
  tasks := []

def arguments : JwtArguments where
  authHeaderOrToken := token
  expectedAudiences := ["did:web:api.example.com"]
  leewaySecs := 60

end ServiceSample

open ServiceSample in
open DirectorySample (did net) in
theorem accepted_key_provided_recently_sample : ∃ tr s pre x post,
    Exec Exec.anyStep (ServiceTasks.step crates net) tasks tr s ∧ tr = pre ++ x :: post ∧
      x.2.verdict = some ⟨arguments, 1700000000, .ok claims⟩ ∧ ∃ key signature t,
        jwt.SignedBy crates key signature ∧
        ServiceTasks.Provides crates net tasks.verifier.resolver pre did key t ∧
        1700000000 ≤ t.toNat + 899 := by
  obtain ⟨tr, hr, hverdicts⟩ := ServiceTasks.verify_alone (X := crates) (N := net) tasks arguments world ""
  have haccepted : (tasks.verifier.verifyServiceJwtClaims crates net world arguments.authHeaderOrToken
      arguments.expectedAudiences tasks.clock arguments.leewaySecs "").1 = .ok claims :=
    token_accepted emptyCache "" rfl
  rw [haccepted] at hverdicts
  obtain ⟨x, hmem, hverdict⟩ := List.mem_filterMap.1 (hverdicts ▸ List.mem_singleton_self _)
  obtain ⟨pre, post, htr⟩ := List.append_of_mem hmem
  have hinit : tasks.Initial := ⟨rfl, fun _ => rfl⟩
  obtain ⟨jwt', key, signature, t, hchecked, hprovides, hage⟩ :=
    ServiceTasks.accepted_key_provided_recently hinit hr pre x post htr _ claims hverdict rfl
  obtain rfl : jwt = jwt' := Except.ok.inj (parseServiceJwt_token.symm.trans hchecked.parsed)
  exact ⟨tr, _, pre, x, post, hr, htr, hverdict, key, signature, t, hchecked.signed, hprovides, hage⟩

end Skyauth
