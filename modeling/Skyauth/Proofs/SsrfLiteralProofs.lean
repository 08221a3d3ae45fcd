import Skyauth.Proofs.SsrfProofs

/-!
# Proofs: hosts that are addresses

The host of a URL may be an address. An IPv4 address is written in dotted decimal, which is read as the
address it is; an IPv6 address stands in brackets, which the parser of addresses does not take, so that
the check of the address is passed by.
-/

namespace Skyauth

/-! ## The parser -/

namespace IpAddr

theorem parse_dotted (o0 o1 o2 o3 : UInt8) :
    parse (Address.dotted o0 o1 o2 o3) = some (v4 o0 o1 o2 o3) := by
  rw [parse, Address.readIpv4Addr_dotted]
  rfl

theorem parse_bracket (text : String) : parse ("[" ++ text) = none := by
  have htext : ("[" ++ text).toList = '[' :: text.toList := by simp
  rw [parse, htext, Address.readIpv4Addr_eq_none (by decide),
    Address.readIpv6Addr_eq_none (by decide) (by decide) (by decide)]

end IpAddr

/-- The host of a URL that is an address, as a URL is written: dotted decimal, or brackets about a text
    of an IPv6 address. -/
inductive LiteralHost : String → IpAddr → Prop
  | v4 (o0 o1 o2 o3 : UInt8) : LiteralHost (Address.dotted o0 o1 o2 o3) (.v4 o0 o1 o2 o3)
  | v6 {text : String} {s0 s1 s2 s3 s4 s5 s6 s7 : UInt16}
      (hparse : IpAddr.parse text = some (.v6 s0 s1 s2 s3 s4 s5 s6 s7)) :
      LiteralHost ("[" ++ text ++ "]") (.v6 s0 s1 s2 s3 s4 s5 s6 s7)

/-! ## Names -/

/-- The names that are blocked end in a letter or a digit. -/
theorem isInternalHostname_bracket {host : String} (h : host.toList.getLast? = some ']') :
    isInternalHostname host = false := by
  have hne : ∀ name : String, name.toList.getLast? ≠ some ']' → (host == name) = false := by
    intro name hname
    rw [beq_eq_false_iff_ne]
    rintro rfl
    exact hname h
  have hends : ∀ ending : String, ending ≠ "" → ending.toList.getLast? ≠ some ']' →
      Text.endsWith host ending = false := by
    intro ending hempty hending
    rw [← Bool.not_eq_true]
    intro hsuffix
    exact hending ((Text.getLast_of_endsWith hsuffix hempty).symm.trans h)
  rw [isInternalHostname, hne _ (by decide), hne _ (by decide), hne _ (by decide), hne _ (by decide),
    hends _ (by decide) (by decide), hends _ (by decide) (by decide), hends _ (by decide) (by decide)]
  rfl

theorem getLast_pinKey {host : String} (h : host.toList.getLast? = some ']') :
    (pinKey host).toList.getLast? = some ']' := by
  obtain ⟨before, hhost⟩ := List.getLast?_eq_some_iff.1 h
  rw [pinKey, Text.trimEndMatches, hhost, List.rdropWhile_concat_neg _ _ _ (by decide), Text.toAsciiLowercase,
    String.toList_ofList, String.toList_ofList, List.map_append, List.map_singleton, List.getLast?_concat]
  rfl

theorem isBlockedHostname_bracket {host : String} (h : host.toList.getLast? = some ']') :
    isBlockedHostname host = false := by
  rw [isBlockedHostname, ← pinKey_eq]
  have hlast := getLast_pinKey h
  have hname : (pinKey host == "localhost") = false := by
    rw [beq_eq_false_iff_ne]
    intro heq
    rw [heq] at hlast
    exact absurd hlast (by decide)
  rw [hname, isInternalHostname_bracket hlast]
  rfl

/-! ## The filter -/

namespace SsrfFilter

variable {N : NetCrates} {f : SsrfFilter} {url : WebUrl} {host text : String} {ip : IpAddr}

/-- An IPv6 address in brackets passes over `https`, whichever it is. -/
theorem validateUrl_bracket (hparse : N.parseIp = IpAddr.parse) (hscheme : url.scheme = "https")
    (hhost : url.hostStr = some ("[" ++ text ++ "]")) : f.validateUrl N url = .ok () := by
  have hlast : ("[" ++ text ++ "]").toList.getLast? = some ']' := by
    rw [String.toList_append]
    exact List.getLast?_concat
  refine validateUrl_eq_ok.2 ⟨_, hhost, ?_, fun _ => isBlockedHostname_bracket hlast,
    fun _ => isInternalHostname_bracket (getLast_pinKey hlast), ?_⟩
  · rw [checkScheme, if_pos hscheme]
  · intro ip hip
    rw [hparse, String.append_assoc, IpAddr.parse_bracket] at hip
    cases hip

/-- Over `http` only the loopback address passes, and only where it may. -/
theorem loopback_of_http (hscheme : url.scheme = "http") (hhost : url.hostStr = some ("[" ++ text ++ "]"))
    (h : f.validateUrl N url = .ok ()) : f.allowInsecureLocalhost = true ∧ text = "::1" := by
  obtain ⟨host, hsome, hcheck, -⟩ := validateUrl_eq_ok.1 h
  rw [hhost, Option.some.injEq] at hsome
  subst hsome
  have hbracket : ∀ name : String, name.toList.head? ≠ some '[' → "[" ++ text ++ "]" ≠ name := by
    rintro name hname rfl
    exact hname (by simp)
  rw [checkScheme, hscheme, if_neg (by decide)] at hcheck
  split_ifs at hcheck with hlocal
  obtain ⟨-, hmode, hnames⟩ := hlocal
  refine ⟨hmode, ?_⟩
  rcases hnames with hname | hname | hname | hname
  · exact absurd hname (hbracket _ (by decide))
  · exact absurd hname (hbracket _ (by decide))
  · exact absurd hname (hbracket _ (by decide))
  · have htext : text.toList ++ [']'] = "::1".toList ++ [']'] := by
      simpa using congrArg String.toList hname
    exact String.toList_inj.1 (List.append_cancel_right htext)

/-- An address that is restricted does not pass as the host of a URL, except in brackets over `https`. -/
theorem validateUrl_literal_iff (hparse : N.parseIp = IpAddr.parse)
    (hscheme : url.scheme = "https" ∨ url.scheme = "http") (hhost : url.hostStr = some host)
    (hliteral : LiteralHost host ip) (f : SsrfFilter) :
    (f.validateUrl N url = .ok () → f.isIpRestricted ip = false) ↔
      url.scheme = "http" ∨ ip.isIpv4 = true ∨ f.isIpRestricted ip = false := by
  constructor
  · intro hsafe
    rcases hscheme with hhttps | hhttp
    · cases hliteral with
      | v4 o0 o1 o2 o3 => exact Or.inr (Or.inl rfl)
      | v6 htext => exact Or.inr (Or.inr (hsafe (validateUrl_bracket hparse hhttps hhost)))
    · exact Or.inl hhttp
  · intro hcase hok
    cases hliteral with
    | v4 o0 o1 o2 o3 =>
      obtain ⟨host, hsome, -, -, -, hip⟩ := validateUrl_eq_ok.1 hok
      rw [hhost, Option.some.injEq] at hsome
      subst hsome
      exact hip _ (by rw [hparse, IpAddr.parse_dotted])
    | v6 htext =>
      rcases hcase with hhttp | hv4 | hfree
      · obtain ⟨hmode, rfl⟩ := loopback_of_http hhttp hhost hok
        have hloopback : IpAddr.parse "::1" = some (.v6 0 0 0 0 0 0 0 1) := by rfl
        rw [hloopback] at htext
        cases htext
        rw [isIpRestricted, hmode]
        rfl
      · cases hv4
      · exact hfree

end SsrfFilter

namespace LiteralSample

def net : NetCrates where
  parseIp := IpAddr.parse
  ipToString := fun _ => "fd00::1"
  urlParse := fun _ => .error "relative URL without a base"
  urlJoin := fun _ _ => .error "relative URL without a base"
  statusDisplay := fun _ => "404 Not Found"

/-- An address of a private network. -/
def url : WebUrl where
  scheme := "https"
  hostStr := some "[fd00::1]"
  port := none
  path := "/"
  origin := "https://[fd00::1]"
  asStr := "https://[fd00::1]/"

theorem literalHost_url : LiteralHost "[fd00::1]" (.v6 0xfd00 0 0 0 0 0 0 1) := by
  have hparse : IpAddr.parse "fd00::1" = some (.v6 0xfd00 0 0 0 0 0 0 1) := by rfl
  exact LiteralHost.v6 hparse

theorem validateUrl_literal_iff_sample :
    (({ allowInsecureLocalhost := false } : SsrfFilter).validateUrl net url = .ok () →
      ({ allowInsecureLocalhost := false } : SsrfFilter).isIpRestricted (.v6 0xfd00 0 0 0 0 0 0 1) = false) ↔
    url.scheme = "http" ∨ (IpAddr.v6 0xfd00 0 0 0 0 0 0 1).isIpv4 = true ∨
      ({ allowInsecureLocalhost := false } : SsrfFilter).isIpRestricted (.v6 0xfd00 0 0 0 0 0 0 1) = false :=
  SsrfFilter.validateUrl_literal_iff rfl (Or.inl rfl) rfl literalHost_url _

/-- The address in brackets passes, and it is restricted. -/
theorem validateUrl_private_passes :
    LiteralHost "[fd00::1]" (.v6 0xfd00 0 0 0 0 0 0 1) ∧ url.hostStr = some "[fd00::1]" ∧
    ({ allowInsecureLocalhost := false } : SsrfFilter).validateUrl net url = .ok () ∧
    ({ allowInsecureLocalhost := false } : SsrfFilter).isIpRestricted (.v6 0xfd00 0 0 0 0 0 0 1) = true :=
  ⟨literalHost_url, rfl, by rfl, by decide⟩

end LiteralSample

end Skyauth
