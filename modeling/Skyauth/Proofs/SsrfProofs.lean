import Skyauth.SsrfSystem
import Skyauth.Lib.Fallible

/-!
# Proofs: pinned addresses under a hostile name service

Every address that leaves the filter has been checked by it, whatever the name service said. A host is
pinned under the normal form of its name, which is also what a lookup asks for, so a pin answers for
its host until another pin comes. A call of `safe_get` pays for each request but the first with one of
its three redirects.
-/

namespace Skyauth

/-! ## Host names -/

theorem isDot_toLower (c : Char) : (c.toLower == '.') = (c == '.') := by
  rw [Bool.eq_iff_iff, beq_iff_eq, beq_iff_eq]
  exact Text.toLower_eq_iff (by decide) (by decide)

theorem pinKey_eq (host : String) :
    pinKey host = Text.trimEndMatches (· == '.') (Text.toAsciiLowercase host) :=
  (Text.trimEndMatches_toAsciiLowercase isDot_toLower host).symm

theorem pinKey_pinKey (host : String) : pinKey (pinKey host) = pinKey host := by
  rw [pinKey_eq (pinKey host), pinKey, Text.toAsciiLowercase_toAsciiLowercase,
    Text.trimEndMatches_toAsciiLowercase isDot_toLower, Text.trimEndMatches_trimEndMatches]

theorem isBlockedHostname_pinKey (host : String) :
    isBlockedHostname (pinKey host) = isBlockedHostname host := by
  simp only [isBlockedHostname, ← pinKey_eq, pinKey_pinKey]

/-! ## The filter -/

namespace SsrfFilter

variable {X : NetCrates} {f : SsrfFilter} {url : WebUrl} {host hostHeader : String} {ip : IpAddr}
  {addr : SocketAddr} {addrs : List SocketAddr} {answer : DnsAnswer} {port : Nat}

theorem validateIp_eq_ok : f.validateIp X ip = .ok () ↔ f.isIpRestricted ip = false := by
  unfold validateIp
  cases f.isIpRestricted ip <;> simp

theorem validateAll_eq_ok :
    f.validateAll X addrs = .ok () ↔ ∀ addr ∈ addrs, f.isIpRestricted addr.ip = false := by
  induction addrs with
  | nil => simp [validateAll]
  | cons addr rest ih =>
    rw [List.forall_mem_cons, ← ih, validateAll, ← validateIp_eq_ok (X := X)]
    cases f.validateIp X addr.ip <;> simp

theorem mem_ipv4First : addr ∈ ipv4First addrs ↔ addr ∈ addrs := by
  simp only [ipv4First, List.mem_append, List.mem_filter]
  cases addr.ip.isIpv4 <;> simp

/-- The addresses of an answer that is accepted are the addresses of the records, and none of them is
    restricted. -/
theorem checkAnswer_eq_ok (h : f.checkAnswer X host port answer = .ok addrs) :
    ∃ ips, answer = .records ips ∧ (∀ ip ∈ ips, f.isIpRestricted ip = false) ∧
      ∀ addr ∈ addrs, f.isIpRestricted addr.ip = false := by
  cases answer with
  | timedOut => cases h
  | failed e => cases h
  | records ips =>
    simp only [checkAnswer] at h
    split at h
    · cases h
    · split at h
      · cases h
      · rename_i hall
        have hips := validateAll_eq_ok.1 hall
        refine ⟨ips, rfl, fun ip hip => hips _ (List.mem_map_of_mem hip), ?_⟩
        cases h
        intro addr haddr
        split at haddr
        · exact hips addr (mem_ipv4First.1 haddr)
        · exact hips addr haddr

theorem resolveAndPin_eq_ok (h : f.resolveAndPin X url answer = .ok (addr, hostHeader)) :
    f.validateUrl X url = .ok () ∧ f.isIpRestricted addr.ip = false ∧
      ∃ host, url.hostStr = some host ∧ (X.parseIp host = none →
        ∃ ips, answer = .records ips ∧ ∀ ip ∈ ips, f.isIpRestricted ip = false) := by
  simp only [resolveAndPin, Fallible.bind_eq_ok, Fallible.elim_eq_ok] at h
  obtain ⟨_, hurl, host, hhost, h⟩ := h
  refine ⟨hurl, ?_⟩
  cases hparse : X.parseIp host with
  | some ip =>
    simp only [hparse, Fallible.bind_eq_ok, Fallible.pure_eq_ok, Prod.mk.injEq] at h
    obtain ⟨_, hip, rfl, -⟩ := h
    refine ⟨validateIp_eq_ok.1 hip, host, hhost, ?_⟩
    intro hnone
    rw [hparse] at hnone
    cases hnone
  | none =>
    simp only [hparse, Fallible.bind_eq_ok] at h
    obtain ⟨addrs, hanswer, h⟩ := h
    obtain ⟨ips, rfl, hips, haddrs⟩ := checkAnswer_eq_ok hanswer
    cases addrs with
    | nil => cases h
    | cons first rest =>
      simp only [Fallible.pure_eq_ok, Prod.mk.injEq] at h
      obtain ⟨rfl, -⟩ := h
      exact ⟨haddrs _ (List.mem_cons_self ..), host, hhost, fun _ => ⟨ips, rfl, hips⟩⟩

/-- The checks on a URL, one by one. -/
theorem validateUrl_eq_ok : f.validateUrl X url = .ok () ↔ ∃ host, url.hostStr = some host ∧
    f.checkScheme url host = .ok () ∧
    (f.allowInsecureLocalhost = false → isBlockedHostname host = false) ∧
    (f.allowInsecureLocalhost = true → isInternalHostname (pinKey host) = false) ∧
    ∀ ip, X.parseIp host = some ip → f.isIpRestricted ip = false := by
  simp only [validateUrl, Fallible.bind_eq_ok, Fallible.elim_eq_ok]
  constructor
  · rintro ⟨host, hhost, _, hscheme, h⟩
    split at h
    · cases h
    · rename_i hblocked
      split at h
      · cases h
      · rename_i hinternal
        refine ⟨host, hhost, hscheme, fun hmode => ?_, fun hmode => ?_, fun ip hip => ?_⟩
        · simpa [hmode] using hblocked
        · rw [pinKey_eq]
          simpa [hmode] using hinternal
        · rw [hip] at h
          exact validateIp_eq_ok.1 h
  · rintro ⟨host, hhost, hscheme, hblocked, hinternal, hip⟩
    rw [pinKey_eq] at hinternal
    refine ⟨host, hhost, (), hscheme, ?_⟩
    have hpass : (!f.allowInsecureLocalhost && isBlockedHostname host) = false := by
      cases hmode : f.allowInsecureLocalhost with
      | true => rw [Bool.not_true, Bool.false_and]
      | false => rw [hblocked hmode, Bool.and_false]
    have hpass' : (f.allowInsecureLocalhost &&
        isInternalHostname (Text.trimEndMatches (· == '.') (Text.toAsciiLowercase host))) = false := by
      cases hmode : f.allowInsecureLocalhost with
      | true => rw [hinternal hmode, Bool.and_false]
      | false => rw [Bool.false_and]
    rw [hpass, if_neg Bool.false_ne_true, hpass', if_neg Bool.false_ne_true]
    cases hparse : X.parseIp host with
    | some ip => exact validateIp_eq_ok.2 (hip ip hparse)
    | none => rfl

/-- A URL that passes has a host that `resolve` does not refuse by its name. -/
theorem host_of_validateUrl (h : f.validateUrl X url = .ok ()) :
    ∃ host, url.hostStr = some host ∧
      (f.allowInsecureLocalhost = false → isBlockedHostname host = false) ∧
      (f.allowInsecureLocalhost = true → isInternalHostname (pinKey host) = false) := by
  obtain ⟨host, hhost, -, hblocked, hinternal, -⟩ := validateUrl_eq_ok.1 h
  exact ⟨host, hhost, hblocked, hinternal⟩

end SsrfFilter

/-! ## The resolver -/

namespace SsrfDnsResolver

variable {X : NetCrates} {r r' : SsrfDnsResolver} {host name victim key : String} {ip : IpAddr}
  {addrs : List SocketAddr} {answer : DnsAnswer} {table : Table String IpAddr}

/-- What holds of a resolver at any time. -/
structure Sound (r : SsrfDnsResolver) : Prop where
  size : r.pinnedIps.size ≤ MAX_PINNED_HOSTS
  pinned : ∀ host ip, r.pinnedIps.lookup host = some ip → r.filter.isIpRestricted ip = false

theorem sound_new (mode : Bool) : (new mode).Sound where
  size := Nat.zero_le _
  pinned := by
    intro host ip h
    cases h

/-- The table with room for the key holds no other pins than before. -/
theorem makeRoom_eq_some (h : r.makeRoom key victim = some table) :
    (r.pinnedIps.size ≤ MAX_PINNED_HOSTS → key ∈ table ∨ table.size < MAX_PINNED_HOSTS) ∧
      table.size ≤ r.pinnedIps.size ∧ (∀ k ip, table.lookup k = some ip → r.pinnedIps.lookup k = some ip) := by
  unfold makeRoom at h
  split at h
  · rename_i hfull
    split at h
    · rename_i hvictim
      cases h
      have hsize := AList.size_erase_of_mem hvictim
      exact ⟨fun hle => Or.inr (by omega), by omega, fun k ip hk => AList.lookup_of_lookup_erase hk⟩
    · cases h
  · rename_i hroom
    cases h
    refine ⟨fun _ => ?_, le_refl _, fun k ip hk => hk⟩
    by_cases hkey : key ∈ r.pinnedIps
    · exact Or.inl hkey
    · exact Or.inr (Nat.lt_of_not_le fun hle => hroom ⟨hkey, hle⟩)

theorem filter_pinHost (h : r.pinHost X host ip victim = some r') : r'.filter = r.filter := by
  unfold pinHost at h
  split at h
  · cases h
    rfl
  · obtain ⟨table, -, rfl⟩ := Option.map_eq_some_iff.1 h
    rfl

theorem Sound.pinHost (hs : r.Sound) (h : r.pinHost X host ip victim = some r') : r'.Sound := by
  unfold SsrfDnsResolver.pinHost at h
  split at h
  · cases h
    exact hs
  · rename_i hip
    obtain ⟨table, hroom, rfl⟩ := Option.map_eq_some_iff.1 h
    obtain ⟨hspace, hle, hkept⟩ := makeRoom_eq_some hroom
    refine ⟨?_, fun k ip' hk => ?_⟩
    · show AList.size (AList.insert (pinKey host) ip table) ≤ MAX_PINNED_HOSTS
      rcases hspace hs.size with hmem | hlt
      · rw [AList.size_insert_of_mem _ hmem]
        exact hle.trans hs.size
      · exact (AList.size_insert_le _ _ _).trans hlt
    · rcases AList.lookup_of_lookup_insert hk with ⟨rfl, rfl⟩ | hold
      · exact SsrfFilter.validateIp_eq_ok.1 hip
      · exact hs.pinned k ip' (hkept k ip' hold)

/-- An address that the filter lets pass is pinned. -/
theorem getPinnedIp_pinHost (hip : r.filter.isIpRestricted ip = false)
    (h : r.pinHost X host ip victim = some r') : r'.getPinnedIp host = some ip := by
  unfold SsrfDnsResolver.pinHost at h
  rw [SsrfFilter.validateIp_eq_ok.2 hip] at h
  obtain ⟨table, -, rfl⟩ := Option.map_eq_some_iff.1 h
  exact AList.lookup_insert _

theorem resolve_eq_ok (h : r.resolve X name answer = .ok addrs) :
    (∀ addr ∈ addrs, r.filter.isIpRestricted addr.ip = false) ∧
      (r.getPinnedIp name = none →
        ∃ ips, answer = .records ips ∧ ∀ ip ∈ ips, r.filter.isIpRestricted ip = false) := by
  simp only [resolve] at h
  split at h
  · cases h
  · split at h
    · cases h
    · have hkey : r.getPinnedIp (pinKey name) = r.getPinnedIp name := by
        rw [getPinnedIp, pinKey_pinKey]
        rfl
      rw [hkey] at h
      split at h
      · rename_i ip hpinned
        split at h
        · cases h
        · rename_i hip
          cases h
          refine ⟨?_, fun hnone => ?_⟩
          · intro addr haddr
            rw [List.mem_singleton.1 haddr]
            exact SsrfFilter.validateIp_eq_ok.1 hip
          · rw [hpinned] at hnone
            cases hnone
      · obtain ⟨ips, rfl, hips, haddrs⟩ := SsrfFilter.checkAnswer_eq_ok h
        exact ⟨haddrs, fun _ => ⟨ips, rfl, hips⟩⟩

/-- A pin answers for its host, whatever the name service says. -/
theorem resolve_of_pinned (hpinned : r.getPinnedIp host = some ip)
    (hip : r.filter.isIpRestricted ip = false)
    (hblocked : r.filter.allowInsecureLocalhost = false → isBlockedHostname host = false)
    (hinternal : r.filter.allowInsecureLocalhost = true → isInternalHostname (pinKey host) = false)
    (hname : pinKey name = pinKey host) (answer : DnsAnswer) :
    r.resolve X name answer = .ok [{ ip := ip, port := 0 }] := by
  have hlookup : r.getPinnedIp (pinKey host) = some ip := by
    rw [getPinnedIp, pinKey_pinKey]
    exact hpinned
  simp only [resolve, hname, isBlockedHostname_pinKey, hlookup, SsrfFilter.validateIp_eq_ok.2 hip]
  cases hmode : r.filter.allowInsecureLocalhost with
  | false => simp [hblocked hmode]
  | true => simp [hinternal hmode]

end SsrfDnsResolver

/-! ## The system -/

namespace SsrfSystem

variable {X : NetCrates} {s s' s₀ : SsrfSystem} {a : SsrfAction} {e : SsrfEvent}
  {tr : List (SsrfAction × SsrfEvent)} {i : Nat} {f : SsrfFilter} {t : SsrfTask}

/-- A call of `safe_get` within its budget: what it has requested passed the filter, and together with
    the redirects it has left makes this many. -/
structure Within (X : NetCrates) (budget : Nat) (fetch : Fetch) : Prop where
  budget : fetch.requested.length + fetch.redirectsRemaining = budget
  accepted : ∀ url ∈ fetch.requested, fetch.filter.validateUrl X url = .ok ()

/-- The filter of a resolver. -/
def filterAt (s : SsrfSystem) (i : Nat) : Option SsrfFilter := s.resolvers[i]?.map (·.filter)

/-- A call of `build_pinned_client` whose URL and address passed the filter. -/
structure JobOk (X : NetCrates) (job : PinJob) : Prop where
  url : job.filter.validateUrl X job.url = .ok ()
  addr : job.filter.isIpRestricted job.addr.ip = false
  caller : ∀ fetch, job.caller = .safeGet fetch → fetch.filter = job.filter ∧ Within X 3 fetch

/-- A call of `safe_get` that has sent at most four requests, all of them accepted by the filter. -/
def Requests (X : NetCrates) (fetch : Fetch) : Prop :=
  fetch.requested.length ≤ 4 ∧ ∀ url ∈ fetch.requested, fetch.filter.validateUrl X url = .ok ()

theorem Within.requests {budget : Nat} {fetch : Fetch} (h : Within X budget fetch) (hle : budget ≤ 4) :
    Requests X fetch := by
  have hb := h.budget
  exact ⟨by omega, h.accepted⟩

/-- What a task relies on. -/
def TaskOk (X : NetCrates) (s : SsrfSystem) : SsrfTask → Prop
  | .looping _ fetch => Within X 3 fetch
  | .validated job => JobOk X job
  | .pinning job i => JobOk X job ∧ s.filterAt i = some job.filter
  | .sending url _ fetch => fetch.filter.validateUrl X url = .ok () ∧ Within X 3 fetch
  | .awaiting _ fetch => Within X 4 fetch

/-- What holds in every state of a run. -/
structure Safe (X : NetCrates) (s : SsrfSystem) : Prop where
  resolvers : ∀ (i : Nat) (r : SsrfDnsResolver), s.resolvers[i]? = some r → r.Sound
  pool : ∀ key i, s.pool.lookup key = some i → s.filterAt i = some { allowInsecureLocalhost := key.2 }
  tasks : ∀ t ∈ s.tasks, TaskOk X s t

/-- The filters of the resolvers stay, and there may be new resolvers. -/
def Extends (s s' : SsrfSystem) : Prop := ∀ i f, s.filterAt i = some f → s'.filterAt i = some f

theorem Extends.refl (s : SsrfSystem) : Extends s s := fun _ _ h => h

/-- The resolvers stay as they are, and there may be new ones. -/
def Keeps (s s' : SsrfSystem) : Prop :=
  ∀ (i : Nat) (r : SsrfDnsResolver), s.resolvers[i]? = some r → s'.resolvers[i]? = some r

theorem Keeps.extends (h : Keeps s s') : Extends s s' := by
  intro i f hf
  obtain ⟨r, hr, rfl⟩ := Option.map_eq_some_iff.1 hf
  rw [filterAt, h i r hr]
  rfl

theorem TaskOk.mono (h : TaskOk X s t) (hext : Extends s s') : TaskOk X s' t := by
  cases t with
  | pinning job i => exact ⟨h.1, hext i _ h.2⟩
  | _ => exact h

/-- A step that leaves resolvers and pool alone. -/
theorem Safe.of_tasks (h : Safe X s) {tasks : List SsrfTask} (htasks : ∀ t ∈ tasks, TaskOk X s t) :
    Safe X { s with tasks := tasks } where
  resolvers := h.resolvers
  pool := h.pool
  tasks := fun t ht => (htasks t ht).mono (Extends.refl s)

/-- Replacing one task by others. -/
theorem Safe.replace (h : Safe X s) (new : List SsrfTask) (hnew : ∀ t ∈ new, TaskOk X s t)
    (old : SsrfTask) : ∀ t ∈ new ++ s.tasks.erase old, TaskOk X s t := by
  intro t ht
  rcases List.mem_append.1 ht with ht | ht
  · exact hnew t ht
  · exact h.tasks t (List.mem_of_mem_erase ht)

/-! ### The resolvers -/

theorem sound_append {r : SsrfDnsResolver} (h : Safe X s) (hr : r.Sound) {r' : SsrfDnsResolver}
    (hr' : (s.resolvers ++ [r])[i]? = some r') : r'.Sound := by
  rcases List.mem_append.1 (List.mem_of_getElem? hr') with hmem | hmem
  · obtain ⟨j, hj⟩ := List.getElem?_of_mem hmem
    exact h.resolvers j r' hj
  · rw [List.mem_singleton.1 hmem]
    exact hr

/-- A new resolver, with a pool that may have it for its key. -/
theorem Safe.addResolver (h : Safe X s) {key : PooledClientKey} {pool : Table PooledClientKey Nat}
    (hpool : ∀ k j, pool.lookup k = some j →
      k = key ∧ j = s.resolvers.length ∨ s.pool.lookup k = some j) :
    let s' := { s with resolvers := s.resolvers ++ [SsrfDnsResolver.new key.2], pool := pool }
    Safe X s' ∧ Keeps s s' ∧
      s'.filterAt s.resolvers.length = some { allowInsecureLocalhost := key.2 } := by
  intro s'
  have hkeeps : Keeps s s' := by
    intro i r hr
    rw [← hr]
    exact List.getElem?_append_left (List.getElem?_eq_some_iff.1 hr).1
  have hext := hkeeps.extends
  have hnew : s'.filterAt s.resolvers.length = some { allowInsecureLocalhost := key.2 } := by
    rw [filterAt, List.getElem?_concat_length]
    rfl
  refine ⟨⟨fun i r hr => sound_append h (SsrfDnsResolver.sound_new _) hr, fun k j hk => ?_,
    fun t ht => (h.tasks t ht).mono hext⟩, hkeeps, hnew⟩
  rcases hpool k j hk with ⟨rfl, rfl⟩ | hold
  · exact hnew
  · exact hext j _ (h.pool k j hold)

/-- `shared_client_and_resolver` gives a resolver of the mode that is asked for. -/
theorem Safe.sharedResolver (h : Safe X s) {key victim : PooledClientKey}
    (hs : s.sharedResolver key victim = some (i, s')) :
    Safe X s' ∧ Keeps s s' ∧ s'.filterAt i = some { allowInsecureLocalhost := key.2 } := by
  unfold SsrfSystem.sharedResolver at hs
  cases hlookup : s.pool.lookup key with
  | some resolver =>
    rw [hlookup] at hs
    cases hs
    exact ⟨h, fun _ _ hr => hr, h.pool key i hlookup⟩
  | none =>
    simp only [hlookup] at hs
    split at hs
    · split at hs
      · cases hs
        have hpool : ∀ k j, (AList.insert key s.resolvers.length (AList.erase victim s.pool)).lookup k =
            some j → k = key ∧ j = s.resolvers.length ∨ s.pool.lookup k = some j := by
          intro k j hk
          rcases AList.lookup_of_lookup_insert hk with hnew | hold
          · exact Or.inl hnew
          · exact Or.inr (AList.lookup_of_lookup_erase hold)
        exact h.addResolver hpool
      · cases hs
    · cases hs
      exact h.addResolver fun k j hk => AList.lookup_of_lookup_insert hk

/-- `pin_host` on one of the resolvers. -/
theorem Safe.pinOn (h : Safe X s) {host victim : String} {ip : IpAddr}
    (hs : s.pinOn X i host ip victim = some s') :
    Safe X s' ∧ Extends s s' ∧
      (∀ j : Nat, j ≠ i → s'.resolvers[j]? = s.resolvers[j]?) ∧
      (s.filterAt i = some f → f.isIpRestricted ip = false →
        ∃ r, s'.resolvers[i]? = some r ∧ r.filter = f ∧ r.getPinnedIp host = some ip) := by
  simp only [SsrfSystem.pinOn, Option.bind_eq_bind, Option.bind_eq_some_iff, Option.pure_def,
    Option.some.injEq] at hs
  obtain ⟨r, hr, r', hpin, rfl⟩ := hs
  have hfilter := SsrfDnsResolver.filter_pinHost hpin
  have hself : (s.resolvers.set i r')[i]? = some r' :=
    List.getElem?_set_self (List.getElem?_eq_some_iff.1 hr).1
  have hother : ∀ j, j ≠ i → (s.resolvers.set i r')[j]? = s.resolvers[j]? :=
    fun j hj => List.getElem?_set_ne (Ne.symm hj)
  have hext : Extends s { s with resolvers := s.resolvers.set i r' } := by
    intro j f hf
    rw [filterAt] at hf ⊢
    by_cases hj : j = i
    · subst hj
      rw [hr] at hf
      rw [hself, Option.map_some, hfilter]
      exact hf
    · rw [hother j hj]
      exact hf
  refine ⟨⟨fun j r'' hr'' => ?_, fun k j hk => hext j _ (h.pool k j hk),
    fun t ht => (h.tasks t ht).mono hext⟩, hext, hother, fun hf hip => ?_⟩
  · by_cases hj : j = i
    · subst hj
      rw [hself] at hr''
      cases hr''
      exact (h.resolvers j r hr).pinHost hpin
    · rw [hother j hj] at hr''
      exact h.resolvers j r'' hr''
  · rw [filterAt, hr, Option.map_some, Option.some.injEq] at hf
    rw [← hf] at hip
    exact ⟨r', hself, hfilter.trans hf, SsrfDnsResolver.getPinnedIp_pinHost hip hpin⟩

/-! ### One action -/

/-- The host of this URL is pinned to this address, which passed the filter as the URL did. -/
structure PinnedFor (X : NetCrates) (r : SsrfDnsResolver) (url : WebUrl) (host : String) (ip : IpAddr) :
    Prop where
  hostStr : url.hostStr = some host
  pinned : r.getPinnedIp host = some ip
  accepted : r.filter.validateUrl X url = .ok ()
  allowed : r.filter.isIpRestricted ip = false

/-- What one action does. -/
structure StepOk (X : NetCrates) (s : SsrfSystem) (a : SsrfAction) (s' : SsrfSystem) (e : SsrfEvent) :
    Prop where
  safe : Safe X s'
  fetched : ∀ fetch result, e = .fetched fetch result → Requests X fetch
  kept : ∀ (j : Nat) (r : SsrfDnsResolver), ¬a.PinsOn j → s.resolvers[j]? = some r →
    s'.resolvers[j]? = some r
  built : ∀ i url addr hostHeader host, e = .built i url addr hostHeader → url.hostStr = some host →
    X.parseIp host = none → ∃ r, s'.resolvers[i]? = some r ∧ PinnedFor X r url host addr.ip

/-- An action on the tasks only. -/
theorem StepOk.of_tasks {tasks : List SsrfTask} (h : Safe X s) (htasks : ∀ t ∈ tasks, TaskOk X s t)
    (hfetched : ∀ fetch result, e = .fetched fetch result → Requests X fetch)
    (hbuilt : ∀ i url addr hostHeader, e ≠ .built i url addr hostHeader) :
    StepOk X s a { s with tasks := tasks } e where
  safe := h.of_tasks htasks
  fetched := hfetched
  kept := fun _ _ _ hr => hr
  built := fun i url addr hostHeader _ he => absurd he (hbuilt i url addr hostHeader)

theorem validate_eq_ok {filter : SsrfFilter} {url : WebUrl} {answer : DnsAnswer} {caller : PinCaller}
    {t : SsrfTask} (h : validate X filter url answer caller = .ok t)
    (hcaller : ∀ fetch, caller = .safeGet fetch → fetch.filter = filter ∧ Within X 3 fetch) :
    TaskOk X s t := by
  unfold validate at h
  cases hres : filter.resolveAndPin X url answer with
  | error e =>
    rw [hres] at h
    cases h
  | ok value =>
    rw [hres] at h
    cases h
    obtain ⟨addr, hostHeader⟩ := value
    obtain ⟨hurl, haddr, -⟩ := SsrfFilter.resolveAndPin_eq_ok hres
    exact ⟨hurl, haddr, hcaller⟩

theorem stepOk_hop {url : WebUrl} {fetch : Fetch} {answer : DnsAnswer} (h : Safe X s)
    (hstep : s.step X (.hop url fetch answer) = some (s', e)) :
    StepOk X s (.hop url fetch answer) s' e := by
  simp only [step] at hstep
  split at hstep
  · rename_i hmem
    have htask : Within X 3 fetch := h.tasks _ hmem
    split at hstep
    · cases hstep
      refine StepOk.of_tasks h (h.replace [] (by simp) _) ?_ (by simp)
      rintro fetch' result heq
      cases heq
      exact htask.requests (by decide)
    · rename_i task hvalid
      cases hstep
      refine StepOk.of_tasks h (h.replace [task] ?_ _) (by simp) (by simp)
      intro t ht
      rw [List.mem_singleton.1 ht]
      refine validate_eq_ok hvalid ?_
      rintro fetch' heq
      cases heq
      exact ⟨rfl, htask⟩
  · cases hstep

theorem follow_budget {url nextUrl : WebUrl} {redirects left maxBytes : Nat} {response : Response WireBody}
    (h : afterResponse X url redirects maxBytes response = .follow nextUrl left) :
    left + 1 = redirects := by
  unfold afterResponse at h
  split at h
  · split at h
    · cases h
    · rename_i hleft
      split at h
      · cases h
      · split at h
        · cases h
        · split at h
          · cases h
          · cases h
            omega
  · split at h <;> cases h

theorem stepOk_respond {url : WebUrl} {fetch : Fetch} {response : Except String (Response WireBody)}
    (h : Safe X s) (hstep : s.step X (.respond url fetch response) = some (s', e)) :
    StepOk X s (.respond url fetch response) s' e := by
  simp only [step] at hstep
  split at hstep
  · rename_i hmem
    have htask : Within X 4 fetch := h.tasks _ hmem
    have hdone : ∀ result : Except SsrfError (List UInt8), ∀ fetch' result',
        SsrfEvent.fetched fetch result = .fetched fetch' result' → Requests X fetch' := by
      rintro result fetch' result' heq
      cases heq
      exact htask.requests (le_refl 4)
    split at hstep
    · cases hstep
      exact StepOk.of_tasks h (h.replace [] (by simp) _) (hdone _) (by simp)
    · split at hstep
      · cases hstep
        exact StepOk.of_tasks h (h.replace [] (by simp) _) (hdone _) (by simp)
      · rename_i nextUrl left hfollow
        cases hstep
        refine StepOk.of_tasks h (h.replace [_] ?_ _) (by simp) (by simp)
        intro t ht
        rw [List.mem_singleton.1 ht]
        have hleft := follow_budget hfollow
        have hbudget := htask.budget
        exact ⟨by dsimp only; omega, htask.accepted⟩
  · cases hstep

theorem stepOk_share {job : PinJob} {runtime : Option Nat} {victim : PooledClientKey} (h : Safe X s)
    (hstep : s.step X (.share job runtime victim) = some (s', e)) :
    StepOk X s (.share job runtime victim) s' e := by
  simp only [step] at hstep
  split at hstep
  · rename_i hmem
    have htask : JobOk X job := h.tasks _ hmem
    obtain ⟨⟨resolver, s₁⟩, hshared, heq⟩ := Option.map_eq_some_iff.1 hstep
    cases heq
    obtain ⟨hsafe, hkeeps, hfilter⟩ := h.sharedResolver hshared
    refine ⟨hsafe.of_tasks (List.forall_mem_cons.2 ⟨⟨htask, hfilter⟩, fun t ht => ?_⟩), by simp,
      fun j r _ hr => hkeeps j r hr, by simp⟩
    exact (h.tasks t (List.mem_of_mem_erase ht)).mono hkeeps.extends
  · cases hstep

theorem taskOk_resume {job : PinJob} (h : JobOk X job) : ∀ t ∈ resume job, TaskOk X s t := by
  intro t ht
  unfold resume at ht
  split at ht
  · cases ht
  · rename_i fetch hcaller
    obtain ⟨hfilter, hwithin⟩ := h.caller fetch hcaller
    rw [List.mem_singleton.1 ht]
    exact ⟨by rw [hfilter]; exact h.url, hwithin⟩

theorem stepOk_pin {job : PinJob} {victim : String} (h : Safe X s)
    (hstep : s.step X (.pin job i victim) = some (s', e)) : StepOk X s (.pin job i victim) s' e := by
  simp only [step] at hstep
  split at hstep
  · rename_i hmem
    obtain ⟨hjob, hfilter⟩ : JobOk X job ∧ s.filterAt i = some job.filter := h.tasks _ hmem
    have hrest := h.replace (resume job) (taskOk_resume hjob) (.pinning job i)
    split at hstep
    -- an address literal is not pinned
    · rename_i hliteral
      simp only [Option.map_some, Option.some.injEq, Prod.mk.injEq] at hstep
      obtain ⟨rfl, rfl⟩ := hstep
      refine ⟨h.of_tasks hrest, by simp, fun _ _ _ hr => hr, ?_⟩
      rintro j url addr hostHeader host heq hhost hparse
      cases heq
      rw [hhost, Option.getD_some, hparse] at hliteral
      cases hliteral
    · obtain ⟨s₁, hpin, heq⟩ := Option.map_eq_some_iff.1 hstep
      cases heq
      obtain ⟨hsafe, hext, hother, hpinned⟩ := h.pinOn hpin
      obtain ⟨r, hr, hrf, hip⟩ := hpinned hfilter hjob.addr
      refine ⟨hsafe.of_tasks fun t ht => (hrest t ht).mono hext, by simp,
        fun j r hj hr => (hother j (Ne.symm hj)).trans hr, ?_⟩
      rintro j url addr hostHeader host heq hhost -
      cases heq
      rw [hhost, Option.getD_some] at hip
      exact ⟨r, hr, hhost, hip, by rw [hrf]; exact hjob.url, by rw [hrf]; exact hjob.addr⟩
  · cases hstep

theorem stepOk_send {url : WebUrl} {hostHeader : String} {fetch : Fetch} (h : Safe X s)
    (hstep : s.step X (.send url hostHeader fetch) = some (s', e)) :
    StepOk X s (.send url hostHeader fetch) s' e := by
  simp only [step] at hstep
  split at hstep
  · rename_i hmem
    obtain ⟨hurl, hwithin⟩ := h.tasks _ hmem
    cases hstep
    refine StepOk.of_tasks h (h.replace [_] ?_ _) (by simp) (by simp)
    intro t ht
    rw [List.mem_singleton.1 ht]
    have hbudget := hwithin.budget
    refine ⟨by simp only [List.length_append, List.length_singleton]; omega, fun url' hurl' => ?_⟩
    rcases List.mem_append.1 hurl' with hold | hnew
    · exact hwithin.accepted url' hold
    · rw [List.mem_singleton.1 hnew]
      exact hurl
  · cases hstep

theorem stepOk (h : Safe X s) (hstep : s.step X a = some (s', e)) : StepOk X s a s' e := by
  cases a with
  | newResolver mode =>
    simp only [step, Option.some.injEq, Prod.mk.injEq] at hstep
    obtain ⟨rfl, rfl⟩ := hstep
    have hpool : ∀ k j, s.pool.lookup k = some j →
        k = (none, mode) ∧ j = s.resolvers.length ∨ s.pool.lookup k = some j := fun _ _ hk => Or.inr hk
    obtain ⟨hsafe, hkeeps, -⟩ := h.addResolver hpool
    exact ⟨hsafe, by simp, fun j r _ hr => hkeeps j r hr, by simp⟩
  | pinHost resolver host ip victim =>
    obtain ⟨s₁, hpin, heq⟩ := Option.map_eq_some_iff.1 hstep
    cases heq
    obtain ⟨hsafe, -, hother, -⟩ := h.pinOn (f := { allowInsecureLocalhost := true }) hpin
    exact ⟨hsafe, by simp, fun j r hj hr => (hother j (Ne.symm hj)).trans hr, by simp⟩
  | resolve resolver name answer =>
    obtain ⟨r, -, heq⟩ := Option.map_eq_some_iff.1 hstep
    cases heq
    exact StepOk.of_tasks h h.tasks (by simp) (by simp)
  | buildPinnedClient filter url answer =>
    simp only [step] at hstep
    split at hstep
    · cases hstep
      exact StepOk.of_tasks h h.tasks (by simp) (by simp)
    · rename_i task hvalid
      cases hstep
      have hnew : TaskOk X s task := validate_eq_ok hvalid (by simp)
      exact StepOk.of_tasks h (List.forall_mem_cons.2 ⟨hnew, h.tasks⟩) (by simp) (by simp)
  | safeGet filter urlStr maxBytes =>
    have hstart : Within X 3
        { filter := filter, maxBytes := maxBytes, redirectsRemaining := 3, requested := [] } :=
      ⟨rfl, by simp⟩
    simp only [step] at hstep
    split at hstep
    · cases hstep
      refine StepOk.of_tasks h h.tasks ?_ (by simp)
      rintro fetch result heq
      cases heq
      exact hstart.requests (by decide)
    · cases hstep
      exact StepOk.of_tasks h (List.forall_mem_cons.2 ⟨hstart, h.tasks⟩) (by simp) (by simp)
  | hop url fetch answer => exact stepOk_hop h hstep
  | share job runtime victim => exact stepOk_share h hstep
  | pin job resolver victim => exact stepOk_pin h hstep
  | send url hostHeader fetch => exact stepOk_send h hstep
  | respond url fetch response => exact stepOk_respond h hstep

/-! ### A whole run -/

theorem Initial.safe (h : s.Initial) : Safe X s where
  resolvers := by
    intro i r hr
    rw [h.resolvers] at hr
    cases hr
  pool := by
    intro key i hi
    rw [h.pool] at hi
    cases hi
  tasks := by
    intro t ht
    rw [h.tasks] at ht
    cases ht

/-- What holds of a run and the state it leads to. -/
structure RunOk (X : NetCrates) (tr : List (SsrfAction × SsrfEvent)) (s : SsrfSystem) : Prop where
  safe : Safe X s
  fetched : ∀ a fetch result, (a, .fetched fetch result) ∈ tr → Requests X fetch
  built : ∀ pre a i url addr hostHeader post host,
    tr = pre ++ (a, .built i url addr hostHeader) :: post → (∀ x ∈ post, ¬x.1.PinsOn i) →
      url.hostStr = some host → X.parseIp host = none →
        ∃ r, s.resolvers[i]? = some r ∧ PinnedFor X r url host addr.ip

theorem RunOk.snoc (h : RunOk X tr s) (hstep : s.step X a = some (s', e)) :
    RunOk X (tr ++ [(a, e)]) s' := by
  have hok := stepOk h.safe hstep
  refine ⟨hok.safe, fun a' fetch result hmem => ?_, fun pre a' i url addr hostHeader post host htr
    hpost hhost hparse => ?_⟩
  · rcases List.mem_append.1 hmem with hold | hnew
    · exact h.fetched a' fetch result hold
    · cases List.mem_singleton.1 hnew
      exact hok.fetched fetch result rfl
  · rcases List.eq_nil_or_concat post with rfl | ⟨mid, last, rfl⟩
    -- the client has just been built
    · obtain ⟨-, hlast⟩ := List.append_inj' htr rfl
      cases hlast
      exact hok.built i url addr hostHeader host rfl hhost hparse
    -- it was built before, and the last action did not pin on its resolver
    · rw [List.concat_eq_append, ← List.cons_append, ← List.append_assoc] at htr
      obtain ⟨hinit, hlast⟩ := List.append_inj' htr rfl
      cases hlast
      obtain ⟨r, hr, hpinned⟩ := h.built pre a' i url addr hostHeader mid host hinit
        (fun x hx => hpost x (by simp [hx])) hhost hparse
      exact ⟨r, hok.kept i r (hpost (a, e) (by simp)) hr, hpinned⟩

theorem runOk (h0 : s₀.Initial) (hr : Exec Exec.anyStep (step X) s₀ tr s) : RunOk X tr s := by
  refine hr.invariant (RunOk X) ⟨h0.safe, by simp, by simp⟩ ?_
  intro tr s a s' e h _ hstep
  exact h.snoc hstep

theorem PinnedFor.resolve {r : SsrfDnsResolver} {url : WebUrl} {host name : String} {ip : IpAddr}
    (h : PinnedFor X r url host ip) (hname : pinKey name = pinKey host) (answer : DnsAnswer) :
    r.resolve X name answer = .ok [{ ip := ip, port := 0 }] := by
  obtain ⟨host', hhost, hblocked, hinternal⟩ := SsrfFilter.host_of_validateUrl h.accepted
  rw [h.hostStr, Option.some.injEq] at hhost
  subst hhost
  exact SsrfDnsResolver.resolve_of_pinned h.pinned h.allowed hblocked hinternal hname answer

theorem TaskOk.requests {fetch : Fetch} (h : TaskOk X s t) (hfetch : t.fetch = some fetch) :
    Requests X fetch := by
  have hjob : ∀ job : PinJob, JobOk X job → job.fetch = some fetch → Requests X fetch := by
    intro job hok hf
    unfold PinJob.fetch at hf
    split at hf
    · cases hf
    · rename_i hcaller
      cases hf
      exact (hok.caller fetch hcaller).2.requests (by decide)
  cases t with
  | looping url f =>
    cases hfetch
    exact Within.requests h (by decide)
  | validated job => exact hjob job h hfetch
  | pinning job i => exact hjob job h.1 hfetch
  | sending url hostHeader f =>
    cases hfetch
    exact h.2.requests (by decide)
  | awaiting url f =>
    cases hfetch
    exact Within.requests h (le_refl 4)

/-- Along every run, whatever the name service answers to each lookup and wherever the redirects lead.
    A resolver holds at most 1024 pins, none of them restricted; it gives out no restricted address, and
    neither does `resolve_and_pin`; a record that is restricted makes the lookup fail. Once
    `build_pinned_client` has pinned a host on a resolver, that resolver answers with this address until
    the next pin. A call of `safe_get` sends at most four requests, each for a URL that passes the
    filter. -/
theorem ssrf_pinning_safe (h0 : s₀.Initial) (hr : Exec Exec.anyStep (step X) s₀ tr s) :
    (∀ (i : Nat) (r : SsrfDnsResolver), s.resolvers[i]? = some r →
      r.pinnedIps.size ≤ MAX_PINNED_HOSTS ∧
      (∀ host ip, r.pinnedIps.lookup host = some ip → r.filter.validateIp X ip = .ok ()) ∧
      ∀ name answer,
        (∀ addrs, r.resolve X name answer = .ok addrs →
          ∀ addr ∈ addrs, r.filter.isIpRestricted addr.ip = false) ∧
        ∀ ips, answer = .records ips → (∃ ip ∈ ips, r.filter.isIpRestricted ip = true) →
          r.getPinnedIp name = none → ∃ err, r.resolve X name answer = .error err) ∧
    (∀ (f : SsrfFilter) (url : WebUrl) (answer : DnsAnswer),
      (∀ addr hostHeader, f.resolveAndPin X url answer = .ok (addr, hostHeader) →
        f.isIpRestricted addr.ip = false) ∧
      ∀ ips, answer = .records ips → (∃ ip ∈ ips, f.isIpRestricted ip = true) →
        (∀ host, url.hostStr = some host → X.parseIp host = none) →
          ∃ err, f.resolveAndPin X url answer = .error err) ∧
    (∀ pre a i url addr hostHeader post host,
      tr = pre ++ (a, .built i url addr hostHeader) :: post → (∀ x ∈ post, ¬x.1.PinsOn i) →
      url.hostStr = some host → X.parseIp host = none →
        ∃ r, s.resolvers[i]? = some r ∧ ∀ name answer, pinKey name = pinKey host →
          r.resolve X name answer = .ok [{ ip := addr.ip, port := 0 }]) ∧
    (∀ t ∈ s.tasks, ∀ fetch, t.fetch = some fetch → Requests X fetch) ∧
    ∀ a fetch result, (a, .fetched fetch result) ∈ tr → Requests X fetch := by
  have hrun := runOk h0 hr
  refine ⟨fun i r hi => ?_, fun f url answer => ?_, ?_,
    fun t ht fetch hfetch => (hrun.safe.tasks t ht).requests hfetch, hrun.fetched⟩
  · have hsound := hrun.safe.resolvers i r hi
    refine ⟨hsound.size, fun host ip hip => SsrfFilter.validateIp_eq_ok.2 (hsound.pinned host ip hip),
      fun name answer => ⟨fun addrs hok => (SsrfDnsResolver.resolve_eq_ok hok).1, ?_⟩⟩
    rintro ips rfl ⟨ip, hip, hrestricted⟩ hunpinned
    refine Fallible.eq_error_of_ne_ok fun addrs hok => ?_
    obtain ⟨ips', heq, hips⟩ := (SsrfDnsResolver.resolve_eq_ok hok).2 hunpinned
    cases heq
    rw [hips ip hip] at hrestricted
    cases hrestricted
  · refine ⟨fun addr hostHeader hok => (SsrfFilter.resolveAndPin_eq_ok hok).2.1, ?_⟩
    rintro ips rfl ⟨ip, hip, hrestricted⟩ hname
    refine Fallible.eq_error_of_ne_ok fun ⟨addr, hostHeader⟩ hok => ?_
    obtain ⟨-, -, host, hhost, hanswer⟩ := SsrfFilter.resolveAndPin_eq_ok hok
    obtain ⟨ips', heq, hips⟩ := hanswer (hname host hhost)
    cases heq
    rw [hips ip hip] at hrestricted
    cases hrestricted
  · intro pre a i url addr hostHeader post host htr hpost hhost hparse
    obtain ⟨r, hi, hpinned⟩ := hrun.built pre a i url addr hostHeader post host htr hpost hhost hparse
    exact ⟨r, hi, fun name answer hname => hpinned.resolve hname answer⟩

end SsrfSystem

namespace SsrfSample

def directory : WebUrl where
  scheme := "https"
  hostStr := some "plc.directory"
  port := none
  path := "/"
  origin := "https://plc.directory"
  asStr := "https://plc.directory/"

def address : IpAddr := .v4 104 16 1 1

/-- No text of the sample is an address, and one of them is a URL. -/
def crates : NetCrates where
  parseIp := fun _ => none
  ipToString := fun _ => "104.16.1.1"
  urlParse := fun text =>
    if text = directory.asStr then .ok directory else .error "relative URL without a base"
  urlJoin := fun _ _ => .error "relative URL without a base"
  statusDisplay := fun _ => "404 Not Found"

def start : SsrfSystem where
  resolvers := []
  pool := ∅
  tasks := []

def fetch : Fetch where
  filter := { allowInsecureLocalhost := false }
  maxBytes := 1024
  redirectsRemaining := 3
  requested := []

def job : PinJob where
  filter := fetch.filter
  url := directory
  addr := { ip := address, port := 443 }
  hostHeader := "plc.directory"
  caller := .safeGet fetch

/-- A call of `safe_get` up to its first request. -/
def actions : List SsrfAction :=
  [.safeGet fetch.filter directory.asStr fetch.maxBytes, .hop directory fetch (.records [address]),
    .share job none (none, false), .pin job 0 "", .send directory "plc.directory" fetch]

def trace : List (SsrfAction × SsrfEvent) :=
  actions.zip [.silent, .silent, .silent, .built 0 directory job.addr "plc.directory",
    .requested directory "plc.directory"]

theorem initial_start : start.Initial := ⟨rfl, rfl, rfl⟩

theorem run_actions : (Exec.run (SsrfSystem.step crates) start actions).map Prod.fst = some trace := by
  rfl
end SsrfSample

open SsrfSample in
/-- The host is pinned to the address it was validated with, and a loopback record that comes later is
    not followed. -/
theorem ssrf_pinning_safe_sample : ∃ s r,
    start.Initial ∧ Exec Exec.anyStep (SsrfSystem.step crates) start trace s ∧
      s.resolvers[0]? = some r ∧ r.pinnedIps.size ≤ MAX_PINNED_HOSTS ∧
      r.resolve crates "PLC.directory." (.records [.v4 127 0 0 1]) =
        .ok [{ ip := address, port := 0 }] := by
  obtain ⟨⟨tr, s⟩, hres, htr⟩ := Option.map_eq_some_iff.1 run_actions
  have hr : Exec Exec.anyStep (SsrfSystem.step crates) start trace s := by
    rw [← htr]
    simpa using Exec.of_run .nil hres
  obtain ⟨hresolvers, -, hbuilt, -⟩ := SsrfSystem.ssrf_pinning_safe initial_start hr
  have hpost : ∀ x ∈ [(SsrfAction.send directory "plc.directory" fetch,
      SsrfEvent.requested directory "plc.directory")], ¬x.1.PinsOn 0 := by
    intro x hx
    rw [List.mem_singleton.1 hx]
    exact not_false
  obtain ⟨r, hi, hresolve⟩ := hbuilt (trace.take 3) _ 0 directory job.addr "plc.directory" _
    "plc.directory" rfl hpost rfl rfl
  exact ⟨s, r, initial_start, hr, hi, (hresolvers 0 r hi).1,
    hresolve "PLC.directory." _ (by decide +kernel)⟩

end Skyauth
