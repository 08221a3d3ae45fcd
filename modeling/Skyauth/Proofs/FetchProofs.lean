import Skyauth.Proofs.DiscoveryProofs
import Skyauth.Proofs.SsrfProofs

/-!
# Proofs: what `safe_get` fetches

A fetch succeeds exactly if a chain of at most three redirects, every URL of which the filter lets
pass, ends at a response with a body within the limit. What is served at a URL that the filter refuses
is not asked for, so nothing that is built on fetches depends on it: neither the resolution of an
identity nor the discovery of its endpoints.
-/

namespace Skyauth

/-! ## Bodies -/

namespace WireBody

variable {maxBytes : Nat} {bytes : List UInt8}

/-- The loop keeps to the limit, and loses nothing of a body that keeps to it. -/
theorem readChunks_eq_ok {contentLength : Option Nat} {buffer : List UInt8}
    {chunks : List (Except String (List UInt8))} (hbuffer : buffer.length ≤ maxBytes) :
    readChunks maxBytes contentLength buffer chunks = .ok bytes ↔
      ∃ parts : List (List UInt8), chunks = parts.map .ok ∧ bytes = buffer ++ parts.flatten ∧
        bytes.length ≤ maxBytes := by
  induction chunks generalizing buffer with
  | nil =>
    simp only [readChunks, Except.ok.injEq]
    constructor
    · rintro rfl
      exact ⟨[], rfl, by simp, hbuffer⟩
    · rintro ⟨parts, hparts, rfl, -⟩
      obtain rfl : parts = [] := by simpa using hparts.symm
      simp
  | cons chunk chunks ih =>
    cases chunk with
    | error e =>
      constructor
      · intro h
        cases h
      · rintro ⟨parts, hparts, -⟩
        cases parts <;> cases hparts
    | ok chunk =>
      rw [readChunks]
      by_cases hlarge : maxBytes < buffer.length + chunk.length
      · rw [if_pos hlarge]
        constructor
        · intro h
          cases h
        · rintro ⟨parts, hparts, rfl, hlength⟩
          cases parts with
          | nil => cases hparts
          | cons part parts =>
            obtain ⟨hpart, -⟩ := List.cons.inj hparts
            obtain rfl := Except.ok.inj hpart
            simp only [List.flatten_cons, List.length_append] at hlength
            omega
      · rw [if_neg hlarge, ih (by rw [List.length_append]; omega)]
        constructor
        · rintro ⟨parts, rfl, rfl, hlength⟩
          exact ⟨chunk :: parts, rfl, by simp, hlength⟩
        · rintro ⟨parts, hparts, rfl, hlength⟩
          cases parts with
          | nil => cases hparts
          | cons part parts =>
            obtain ⟨hpart, hrest⟩ := List.cons.inj hparts
            obtain rfl := Except.ok.inj hpart
            exact ⟨parts, hrest, by simp, hlength⟩

/-- A body that arrives whole, within the limit in what it announces and in what it is. -/
structure Delivers (body : WireBody) (maxBytes : Nat) (bytes : List UInt8) : Prop where
  announced : ∀ n, body.contentLength = some n → n ≤ maxBytes
  whole : ∃ parts : List (List UInt8), body.chunks = parts.map .ok ∧ bytes = parts.flatten
  bounded : bytes.length ≤ maxBytes

theorem readBoundedBody_eq_ok {body : WireBody} :
    body.readBoundedBody maxBytes = .ok bytes ↔ body.Delivers maxBytes bytes := by
  unfold readBoundedBody
  by_cases hlarge : body.contentLength.any (fun n => maxBytes < n) = true
  · rw [if_pos hlarge]
    obtain ⟨n, hn, hlt⟩ := (Option.any_eq_true _ _).1 hlarge
    constructor
    · intro h
      cases h
    · intro h
      have := h.announced n hn
      simp only [decide_eq_true_eq] at hlt
      omega
  · rw [if_neg hlarge, readChunks_eq_ok (Nat.zero_le _)]
    constructor
    · rintro ⟨parts, hparts, rfl, hlength⟩
      refine ⟨fun n hn => ?_, ⟨parts, hparts, rfl⟩, hlength⟩
      by_contra hlt
      exact hlarge ((Option.any_eq_true _ _).2 ⟨n, hn, by simpa using hlt⟩)
    · rintro ⟨-, ⟨parts, hparts, hbytes⟩, hlength⟩
      exact ⟨parts, hparts, hbytes, hlength⟩

end WireBody

/-! ## Redirects -/

namespace SsrfFilter

section Hops

variable (N : NetCrates) (W : World) (f : SsrfFilter)

/-- The filter lets the URL pass, to be fetched from this address. -/
def Admits (url : WebUrl) (addr : SocketAddr) : Prop :=
  ∃ hostHeader, f.resolveAndPin N url (W.lookupHost (url.hostStr.getD "")) = .ok (addr, hostHeader)

/-- The server of a URL redirects to another. -/
def Redirects (url next : WebUrl) : Prop :=
  ∃ resp value location, W.get url = .ok resp ∧ isRedirection resp.status = true ∧
    resp.headers.get "location" = some value ∧ value.toStr = some location ∧
    N.urlJoin url location = .ok next

/-- The server of a URL answers with a body. -/
def Answers (url : WebUrl) (maxBytes : Nat) (bytes : List UInt8) : Prop :=
  ∃ resp, W.get url = .ok resp ∧ isRedirection resp.status = false ∧ isSuccess resp.status = true ∧
    resp.body.Delivers maxBytes bytes

/-- A fetch that gets a body, with the URLs that it asks for. -/
inductive Fetched (maxBytes : Nat) : Nat → WebUrl → List WebUrl → List UInt8 → Prop where
  | body {left : Nat} {url : WebUrl} {bytes : List UInt8} (admitted : ∃ addr, f.Admits N W url addr)
      (answer : Answers W url maxBytes bytes) : Fetched maxBytes left url [] bytes
  | redirect {left : Nat} {url next : WebUrl} {urls : List WebUrl} {bytes : List UInt8}
      (admitted : ∃ addr, f.Admits N W url addr) (redirects : Redirects N W url next)
      (rest : Fetched maxBytes left next urls bytes) : Fetched maxBytes (left + 1) url (next :: urls) bytes

end Hops

variable {N : NetCrates} {W : World} {f : SsrfFilter} {maxBytes left : Nat} {url : WebUrl}
  {bytes : List UInt8}

theorem afterResponse_finish {resp : Response WireBody} :
    afterResponse N url left maxBytes resp = .finish (.ok bytes) ↔
      isRedirection resp.status = false ∧ isSuccess resp.status = true ∧
        resp.body.Delivers maxBytes bytes := by
  unfold afterResponse
  cases hredirect : isRedirection resp.status with
  | true =>
    simp only [if_true, Bool.true_eq_false, false_and, iff_false]
    repeat' split
    all_goals simp
  | false =>
    simp only [Bool.false_eq_true, if_false, true_and]
    cases hsuccess : isSuccess resp.status with
    | true => simp [WireBody.readBoundedBody_eq_ok]
    | false => simp

theorem afterResponse_follow {resp : Response WireBody} {next : WebUrl} {left' : Nat} :
    afterResponse N url left maxBytes resp = .follow next left' ↔
      left ≠ 0 ∧ left' = left - 1 ∧ isRedirection resp.status = true ∧ ∃ value location,
        resp.headers.get "location" = some value ∧ value.toStr = some location ∧
        N.urlJoin url location = .ok next := by
  unfold afterResponse
  cases hredirect : isRedirection resp.status with
  | false =>
    simp only [Bool.false_eq_true, if_false, false_and, and_false, iff_false]
    split <;> simp
  | true =>
    simp only [if_true, true_and]
    by_cases hleft : left = 0
    · simp [hleft]
    · rw [if_neg hleft]
      cases hvalue : resp.headers.get "location" with
      | none => simp
      | some value =>
        cases hlocation : value.toStr with
        | none => simp [hlocation]
        | some location =>
          cases hjoin : N.urlJoin url location with
          | error e => simp [hlocation, hjoin]
          | ok next' =>
            simp only [hlocation, hjoin, hleft, FetchStep.follow.injEq, Option.some.injEq, ne_eq,
              not_false_eq_true, true_and]
            constructor
            · rintro ⟨rfl, rfl⟩
              exact ⟨rfl, value, location, rfl, hlocation, hjoin⟩
            · rintro ⟨rfl, value', location', rfl, hlocation', hjoin'⟩
              rw [hlocation] at hlocation'
              cases hlocation'
              rw [hjoin] at hjoin'
              cases hjoin'
              exact ⟨rfl, rfl⟩

/-- One hop: the filter is asked first, then the server. -/
theorem safeGetHop_eq_ok {step : FetchStep} :
    f.safeGetHop N W maxBytes left url = .ok step ↔
      (∃ addr, f.Admits N W url addr) ∧
        ∃ resp, W.get url = .ok resp ∧ afterResponse N url left maxBytes resp = step := by
  simp only [safeGetHop, Fallible.bind_eq_ok, Fallible.mapError_eq_ok, Fallible.pure_eq_ok, Admits]
  constructor
  · rintro ⟨⟨addr, hostHeader⟩, hpin, resp, hget, hstep⟩
    exact ⟨⟨addr, hostHeader, hpin⟩, resp, hget, hstep⟩
  · rintro ⟨⟨addr, hostHeader, hpin⟩, resp, hget, hstep⟩
    exact ⟨⟨addr, hostHeader⟩, hpin, resp, hget, hstep⟩

theorem safeGetHop_finish :
    f.safeGetHop N W maxBytes left url = .ok (.finish (.ok bytes)) ↔
      (∃ addr, f.Admits N W url addr) ∧ Answers W url maxBytes bytes := by
  rw [safeGetHop_eq_ok]
  simp only [afterResponse_finish]
  rfl

theorem safeGetHop_follow {next : WebUrl} {left' : Nat} :
    f.safeGetHop N W maxBytes left url = .ok (.follow next left') ↔
      (∃ addr, f.Admits N W url addr) ∧ left ≠ 0 ∧ left' = left - 1 ∧ Redirects N W url next := by
  rw [safeGetHop_eq_ok]
  simp only [afterResponse_follow]
  constructor
  · rintro ⟨hadmitted, resp, hget, hleft, hleft', hredirect, value, location, h⟩
    exact ⟨hadmitted, hleft, hleft', resp, value, location, hget, hredirect, h⟩
  · rintro ⟨hadmitted, hleft, hleft', resp, value, location, hget, hredirect, h⟩
    exact ⟨hadmitted, resp, hget, hleft, hleft', hredirect, value, location, h⟩

/-- The loop, by induction on the redirects that are left. -/
theorem safeGetFrom_eq_ok :
    f.safeGetFrom N W maxBytes left url = .ok bytes ↔
      ∃ urls, f.Fetched N W maxBytes left url urls bytes := by
  induction left generalizing url with
  | zero =>
    rw [safeGetFrom, Fallible.bind_eq_ok]
    constructor
    · rintro ⟨step, hhop, hstep⟩
      cases step with
      | finish result =>
        obtain rfl : result = .ok bytes := hstep
        obtain ⟨hadmitted, hanswer⟩ := safeGetHop_finish.1 hhop
        exact ⟨[], .body hadmitted hanswer⟩
      | follow next left' => cases hstep
    · rintro ⟨urls, h⟩
      cases h with
      | body hadmitted hanswer => exact ⟨_, safeGetHop_finish.2 ⟨hadmitted, hanswer⟩, rfl⟩
  | succ left ih =>
    rw [safeGetFrom, Fallible.bind_eq_ok]
    constructor
    · rintro ⟨step, hhop, hstep⟩
      cases step with
      | finish result =>
        obtain rfl : result = .ok bytes := hstep
        obtain ⟨hadmitted, hanswer⟩ := safeGetHop_finish.1 hhop
        exact ⟨[], .body hadmitted hanswer⟩
      | follow next left' =>
        obtain ⟨hadmitted, -, -, hredirects⟩ := safeGetHop_follow.1 hhop
        obtain ⟨urls, hrest⟩ := ih.1 hstep
        exact ⟨next :: urls, .redirect hadmitted hredirects hrest⟩
    · rintro ⟨urls, h⟩
      cases h with
      | body hadmitted hanswer => exact ⟨_, safeGetHop_finish.2 ⟨hadmitted, hanswer⟩, rfl⟩
      | redirect hadmitted hredirects hrest =>
        exact ⟨_, safeGetHop_follow.2 ⟨hadmitted, Nat.succ_ne_zero left, rfl, hredirects⟩,
          ih.2 ⟨_, hrest⟩⟩

/-- A fetch as a chain of URLs. -/
theorem fetched_iff {urls : List WebUrl} :
    f.Fetched N W maxBytes left url urls bytes ↔
      urls.length ≤ left ∧ (url :: urls).IsChain (Redirects N W) ∧
        (∀ u ∈ url :: urls, ∃ addr, f.Admits N W u addr) ∧
        ∃ last, (url :: urls).getLast? = some last ∧ Answers W last maxBytes bytes := by
  constructor
  · intro h
    induction h with
    | body hadmitted hanswer =>
      exact ⟨Nat.zero_le _, .singleton _, by simpa using hadmitted, _, rfl, hanswer⟩
    | redirect hadmitted hredirects _ ih =>
      obtain ⟨hlength, hchain, hall, last, hlast, hanswer⟩ := ih
      refine ⟨Nat.succ_le_succ hlength, .cons_cons hredirects hchain, ?_, last, ?_, hanswer⟩
      · exact List.forall_mem_cons.2 ⟨hadmitted, hall⟩
      · rw [List.getLast?_cons_cons]
        exact hlast
  · rintro ⟨hlength, hchain, hall, last, hlast, hanswer⟩
    induction urls generalizing left url with
    | nil =>
      cases hlast
      exact .body (hall _ List.mem_cons_self) hanswer
    | cons next urls ih =>
      obtain ⟨left, rfl⟩ : ∃ n, left = n + 1 := ⟨left - 1, by rw [List.length_cons] at hlength; omega⟩
      obtain ⟨hhead, hrest⟩ := List.forall_mem_cons.1 hall
      cases hchain with
      | cons_cons hredirects hchain =>
        rw [List.getLast?_cons_cons] at hlast
        exact .redirect hhead hredirects (ih (Nat.le_of_succ_le_succ hlength) hchain hrest hlast)

/-- What the filter lets pass outside test mode: `https`, to an address that is not restricted. -/
theorem Admits.secure {addr : SocketAddr} (hmode : f.allowInsecureLocalhost = false)
    (h : f.Admits N W url addr) : url.scheme = "https" ∧ isRestrictedIp addr.ip = false := by
  obtain ⟨hostHeader, hpin⟩ := h
  obtain ⟨hurl, haddr, -⟩ := resolveAndPin_eq_ok hpin
  obtain ⟨host, -, hscheme, -⟩ := validateUrl_eq_ok.1 hurl
  constructor
  · unfold checkScheme at hscheme
    by_contra hne
    simp [hne, hmode] at hscheme
  · simpa [isIpRestricted, hmode] using haddr

/-- What the filter lets pass in test mode: also `http` to this machine, by its usual names, and its
    addresses. -/
theorem Admits.permitted {addr : SocketAddr} (h : f.Admits N W url addr) :
    (url.scheme = "https" ∨ url.scheme = "http" ∧
      ∃ host ∈ ["localhost", "127.0.0.1", "::1", "[::1]"], url.hostStr = some host) ∧
    (isRestrictedIp addr.ip = false ∨ addr.ip.isLoopback = true) := by
  obtain ⟨hostHeader, hpin⟩ := h
  obtain ⟨hurl, haddr, -⟩ := resolveAndPin_eq_ok hpin
  obtain ⟨host, hhost, hscheme, -⟩ := validateUrl_eq_ok.1 hurl
  constructor
  · unfold checkScheme at hscheme
    split at hscheme
    · exact Or.inl (by assumption)
    · split at hscheme
      · rename_i hlocal
        exact Or.inr ⟨hlocal.1, host, by simpa using hlocal.2.2, hhost⟩
      · cases hscheme
  · unfold isIpRestricted at haddr
    split at haddr
    · rename_i hloopback
      exact Or.inr (Bool.and_eq_true_iff.1 hloopback).2
    · exact Or.inl haddr

/-- A fetch succeeds exactly if at most three redirects, to URLs that all pass the filter, lead to a
    body that is whole and within the limit. -/
theorem safeGet_iff_redirect_chain {urlStr : String} :
    f.safeGet N W urlStr maxBytes = .ok bytes ↔ ∃ url urls last, N.urlParse urlStr = .ok url ∧
      urls.length ≤ 3 ∧ (url :: urls).IsChain (Redirects N W) ∧
      (∀ u ∈ url :: urls, ∃ addr, f.Admits N W u addr ∧
        (f.allowInsecureLocalhost = false → u.scheme = "https" ∧ isRestrictedIp addr.ip = false)) ∧
      (url :: urls).getLast? = some last ∧ Answers W last maxBytes bytes := by
  unfold safeGet
  cases hparse : N.urlParse urlStr with
  | error e => simp
  | ok url =>
    simp only [safeGetFrom_eq_ok, fetched_iff, Except.ok.injEq]
    constructor
    · rintro ⟨urls, hlength, hchain, hall, last, hlast, hanswer⟩
      refine ⟨url, urls, last, rfl, hlength, hchain, fun u hu => ?_, hlast, hanswer⟩
      obtain ⟨addr, hadmits⟩ := hall u hu
      exact ⟨addr, hadmits, fun hmode => hadmits.secure hmode⟩
    · rintro ⟨_, urls, last, rfl, hlength, hchain, hall, hlast, hanswer⟩
      refine ⟨urls, hlength, hchain, fun u hu => ?_, last, hlast, hanswer⟩
      obtain ⟨addr, hadmits, -⟩ := hall u hu
      exact ⟨addr, hadmits⟩

end SsrfFilter

/-! ## Servers that the filter refuses -/

/-- The worlds differ at most in what is served at URLs that the filter refuses. -/
structure AgreeWhereAdmitted (N : NetCrates) (f : SsrfFilter) (W W' : World) : Prop where
  lookupHost : W.lookupHost = W'.lookupHost
  doh : W.doh = W'.doh
  get : ∀ url addr, f.Admits N W url addr → W.get url = W'.get url

namespace AgreeWhereAdmitted

variable {X : Crates} {U : UrlParser X} {N : NetCrates} {W W' : World}

theorem safeGetHop {f : SsrfFilter} (h : AgreeWhereAdmitted N f W W') (maxBytes left : Nat)
    (url : WebUrl) : f.safeGetHop N W maxBytes left url = f.safeGetHop N W' maxBytes left url := by
  unfold SsrfFilter.safeGetHop
  rw [← h.lookupHost]
  cases hpin : f.resolveAndPin N url (W.lookupHost (url.hostStr.getD "")) with
  | error e => rfl
  | ok pinned =>
    rw [Fallible.ok_bind, Fallible.ok_bind, h.get url pinned.1 ⟨pinned.2, hpin⟩]

theorem safeGetFrom {f : SsrfFilter} (h : AgreeWhereAdmitted N f W W') (maxBytes left : Nat)
    (url : WebUrl) : f.safeGetFrom N W maxBytes left url = f.safeGetFrom N W' maxBytes left url := by
  induction left generalizing url with
  | zero => rw [SsrfFilter.safeGetFrom, SsrfFilter.safeGetFrom, h.safeGetHop]
  | succ left ih =>
    rw [SsrfFilter.safeGetFrom, SsrfFilter.safeGetFrom, h.safeGetHop]
    refine congrArg (f.safeGetHop N W' maxBytes (left + 1) url >>= ·) (funext fun step => ?_)
    cases step with
    | finish result => rfl
    | follow next left' => exact ih next

theorem safeGet {f : SsrfFilter} (h : AgreeWhereAdmitted N f W W') :
    f.safeGet N W = f.safeGet N W' := by
  funext urlStr maxBytes
  unfold SsrfFilter.safeGet
  cases N.urlParse urlStr with
  | error e => rfl
  | ok url => exact h.safeGetFrom maxBytes 3 url

theorem safeGetJson {T : Type} {fromJson : Json → Except String T} {f : SsrfFilter}
    (h : AgreeWhereAdmitted N f W W') :
    f.safeGetJson X N W fromJson = f.safeGetJson X N W' fromJson := by
  funext urlStr maxBytes
  rw [SsrfFilter.safeGetJson, SsrfFilter.safeGetJson, h.safeGet]

variable {r : IdentityResolver}

theorem resolveHandle (h : AgreeWhereAdmitted N r.ssrfFilter W W') :
    r.resolveHandle X N W = r.resolveHandle X N W' := by
  funext handle
  have htxt : r.resolveTxt X N W = r.resolveTxt X N W' := by
    funext name
    simp only [IdentityResolver.resolveTxt, standardResolveTxt, h.doh]
  simp only [IdentityResolver.resolveHandle, IdentityResolver.resolveHandleDns, htxt,
    IdentityResolver.resolveHandleHttps, h.safeGet]

theorem resolveDid (h : AgreeWhereAdmitted N r.ssrfFilter W W') :
    r.resolveDid X N W = r.resolveDid X N W' := by
  funext did
  simp only [IdentityResolver.resolveDid, IdentityResolver.resolveDidPlc, IdentityResolver.resolveDidWeb,
    IdentityResolver.fetchDocument, h.safeGetJson]

theorem resolveIdent (h : AgreeWhereAdmitted N r.ssrfFilter W W') :
    r.resolveIdent X N W = r.resolveIdent X N W' := by
  funext input
  simp only [IdentityResolver.resolveIdent, h.resolveHandle, h.resolveDid]

end AgreeWhereAdmitted

/-- What is served at URLs that the filter refuses has no influence: the discovery answers the same in two
    worlds that differ only there. They need to agree on what is served over `https` from an address that
    is not restricted and, in test mode only, by this machine. -/
theorem discovery_ignores_restricted_servers {X : Crates} {U : UrlParser X} {N : NetCrates}
    {W V : World} {r : IdentityResolver} (hlookup : W.lookupHost = V.lookupHost) (hdoh : W.doh = V.doh)
    (hget : ∀ url addr, r.ssrfFilter.Admits N W url addr →
      (url.scheme = "https" ∧ isRestrictedIp addr.ip = false ∨
        r.ssrfFilter.allowInsecureLocalhost = true ∧
        (url.scheme = "https" ∨ url.scheme = "http" ∧
          ∃ host ∈ ["localhost", "127.0.0.1", "::1", "[::1]"], url.hostStr = some host) ∧
        (isRestrictedIp addr.ip = false ∨ addr.ip.isLoopback = true)) →
      W.get url = V.get url) (input : String) :
    discoverOauthEndpoints U N W r input = discoverOauthEndpoints U N V r input := by
  have h : AgreeWhereAdmitted N r.ssrfFilter W V := by
    refine ⟨hlookup, hdoh, fun url addr hadmits => ?_⟩
    refine hget url addr hadmits ?_
    cases hmode : r.ssrfFilter.allowInsecureLocalhost with
    | false => exact Or.inl (hadmits.secure hmode)
    | true => exact Or.inr ⟨rfl, hadmits.permitted⟩
  simp only [discoverOauthEndpoints, fetchProtectedResourceMetadata, fetchAuthServerMetadata,
    fetchServerDocument, h.resolveIdent, h.safeGetJson]

/-- The sample world, in which a server on this machine passes off the document of the DID as any other. -/
def DiscoverySample.forgedWorld : World :=
  { DiscoverySample.world with
    get := fun url =>
      if url.hostStr = some "localhost" then
        .ok { status := 200, headers := [],
              body := .ofBytes (Text.asBytes (LoginSample.render LoginSample.didJson)) }
      else DiscoverySample.world.get url }

open DiscoverySample in
/-- The sample discovery finds the same in the forged world. -/
theorem discovery_ignores_restricted_servers_sample :
    discoverOauthEndpoints parser net forgedWorld resolver DirectorySample.did =
      .ok (assembleEndpoints identity pdsMetadata asMetadata) := by
  have hget : ∀ url addr, resolver.ssrfFilter.Admits net world url addr →
      world.get url = forgedWorld.get url := by
    rintro url addr ⟨hostHeader, hpin⟩
    obtain ⟨host, hhost, hblocked, -⟩ :=
      SsrfFilter.host_of_validateUrl (SsrfFilter.resolveAndPin_eq_ok hpin).1
    have hlocal : isBlockedHostname "localhost" = true := by decide
    have hne : url.hostStr ≠ some "localhost" := by
      intro he
      obtain rfl : host = "localhost" := Option.some.inj (hhost.symm.trans he)
      have := hblocked rfl
      rw [hlocal] at this
      cases this
    exact (if_neg hne).symm
  have hsame := discovery_ignores_restricted_servers (U := parser) (N := net) (W := world)
    (V := forgedWorld) (r := resolver) rfl rfl (fun url addr hadmits _ => hget url addr hadmits)
    DirectorySample.did
  exact hsame.symm.trans discovers

end Skyauth
