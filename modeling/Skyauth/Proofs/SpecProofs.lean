import Skyauth.FormalModels
import Skyauth.Proofs.ExpectationProofs
import Skyauth.Proofs.HtuProofs
import Skyauth.Proofs.PkceProofs

/-!
# Proofs: the specifications of the kernels

The specifications of comparisons, verifiers and addresses agree with the kernels on every input. Those
of target URIs are about a text: they hold of a normalized URI exactly under conditions on its
components, and the one that looks for default ports finds them in the path as well.
-/

namespace Skyauth

/-! ## Comparisons -/

/-- The gathered differences vanish when there were none before and every pair is equal. -/
theorem foldl_xor_eq_zero {pairs : List (UInt8 × UInt8)} {diff : UInt8} :
    pairs.foldl (fun diff p => diff ||| (p.1 ^^^ p.2)) diff = 0 ↔
      diff = 0 ∧ ∀ p ∈ pairs, p.1 = p.2 := by
  induction pairs generalizing diff with
  | nil => simp
  | cons p pairs ih =>
    rw [List.foldl_cons, ih, UInt8.or_eq_zero_iff, UInt8.xor_eq_zero_iff, List.forall_mem_cons, and_assoc]

theorem zip_all_eq_iff {a b : List UInt8} (h : a.length = b.length) :
    (∀ p ∈ a.zip b, p.1 = p.2) ↔ a = b := by
  induction a generalizing b with
  | nil =>
    cases b with
    | nil => simp
    | cons y b => cases h
  | cons x a ih =>
    cases b with
    | nil => cases h
    | cons y b =>
      rw [List.zip_cons_cons, List.forall_mem_cons, ih (Nat.succ.inj h), List.cons.injEq]

theorem specConstantTimeEqModel_iff {a b : List UInt8} :
    ConstantTimeEqSpec.specConstantTimeEqModel a b = true ↔ a = b := by
  by_cases h : a.length = b.length
  · simp only [ConstantTimeEqSpec.specConstantTimeEqModel, h, ne_eq, not_true_eq_false, if_false,
      beq_iff_eq]
    rw [foldl_xor_eq_zero, zip_all_eq_iff h]
    simp
  · have hne : a ≠ b := fun heq => h (congrArg List.length heq)
    simp [ConstantTimeEqSpec.specConstantTimeEqModel, h, hne]

theorem specSliceEq_iff {a b : List UInt8} : ConstantTimeEqSpec.specSliceEq a b = true ↔ a = b := by
  by_cases h : a.length = b.length
  · rw [← zip_all_eq_iff h]
    simp [ConstantTimeEqSpec.specSliceEq, h]
  · have hne : a ≠ b := fun heq => h (congrArg List.length heq)
    simp [ConstantTimeEqSpec.specSliceEq, h, hne]

/-! ## Verifiers -/

theorem isUnreservedChar_eq (byte : UInt8) : PkceFormalSpec.isUnreservedChar byte = isUnreservedByte byte := by
  unfold PkceFormalSpec.isUnreservedChar isUnreservedByte isAsciiAlphanumeric
  ac_rfl

theorem specValidateVerifier_iff {bytes : List UInt8} :
    PkceFormalSpec.specValidateVerifier bytes = true ↔ validateVerifierBytes bytes = .ok () := by
  have hlen : PkceFormalSpec.isValidVerifierLen bytes.length = isValidVerifierLength bytes.length := rfl
  rw [validateVerifierBytes_eq_ok, PkceFormalSpec.specValidateVerifier, hlen, ← isValidVerifierLength_iff]
  cases isValidVerifierLength bytes.length with
  | false => simp
  | true => simp [isUnreservedChar_eq]

/-! ## Addresses -/

section Addresses

open SsrfFormalSpec

theorem specIsRestrictedIpv4_eq (o0 o1 o2 o3 : UInt8) :
    specIsRestrictedIpv4 o0 o1 o2 o3 = isRestrictedIpv4Octets o0 o1 o2 o3 := by
  simp only [specIsRestrictedIpv4, isRestrictedIpv4Octets, ge_iff_le, Bool.and_assoc]

/-- A segment from its octets. -/
theorem segment_toNat (s : UInt16) : s.toNat = 256 * (s >>> 8).toUInt8.toNat + s.toUInt8.toNat := by
  have hlt := s.toNat_lt
  have h8 : (8 : UInt16).toNat % 16 = 8 := by decide
  rw [UInt16.toNat_toUInt8, UInt16.toNat_toUInt8, UInt16.toNat_shiftRight, h8,
    Nat.shiftRight_eq_div_pow]
  omega

theorem segment_eq_of_octets {s t : UInt16} (hi : (s >>> 8).toUInt8 = (t >>> 8).toUInt8)
    (lo : s.toUInt8 = t.toUInt8) : s = t := by
  rw [← UInt16.toNat_inj, segment_toNat s, segment_toNat t, hi, lo]

theorem toUInt8_and_ff (s : UInt16) : (s &&& 0xff).toUInt8 = s.toUInt8 := by
  have hff : (0xff : UInt16).toNat = 2 ^ 8 - 1 := by decide
  rw [← UInt8.toNat_inj, UInt16.toNat_toUInt8, UInt16.toNat_toUInt8, UInt16.toNat_and, hff,
    Nat.and_two_pow_sub_one_eq_mod, Nat.mod_mod]

/-- The embedded address of a mapped one, by its segments. -/
theorem toIpv4Mapped_octets (s0 s1 s2 s3 s4 s5 s6 s7 : UInt16) :
    toIpv4Mapped (octets [s0, s1, s2, s3, s4, s5, s6, s7]) =
      if s0 = 0 ∧ s1 = 0 ∧ s2 = 0 ∧ s3 = 0 ∧ s4 = 0 ∧ s5 = 0xffff then
        some ((s6 >>> 8).toUInt8, s6.toUInt8, (s7 >>> 8).toUInt8, s7.toUInt8)
      else none := by
  by_cases h : s0 = 0 ∧ s1 = 0 ∧ s2 = 0 ∧ s3 = 0 ∧ s4 = 0 ∧ s5 = 0xffff
  · rw [if_pos h]
    obtain ⟨rfl, rfl, rfl, rfl, rfl, rfl⟩ := h
    rfl
  · rw [if_neg h]
    unfold toIpv4Mapped
    split
    · rename_i a b c d heq
      simp only [octets, List.flatMap_cons, List.flatMap_nil, List.cons_append, List.nil_append,
        List.cons.injEq] at heq
      obtain ⟨h0, h0', h1, h1', h2, h2', h3, h3', h4, h4', h5, h5', -⟩ := heq
      exact absurd ⟨segment_eq_of_octets h0 h0', segment_eq_of_octets h1 h1', segment_eq_of_octets h2 h2',
        segment_eq_of_octets h3 h3', segment_eq_of_octets h4 h4', segment_eq_of_octets h5 h5'⟩ h
    · rfl

/-- The check of the embedded address, by the segments. -/
theorem mapped_any_eq (s0 s1 s2 s3 s4 s5 s6 s7 : UInt16) :
    (toIpv4Mapped (octets [s0, s1, s2, s3, s4, s5, s6, s7])).any
        (fun o => specIsRestrictedIpv4 o.1 o.2.1 o.2.2.1 o.2.2.2) =
      (s0 == 0 && s1 == 0 && s2 == 0 && s3 == 0 && s4 == 0 && s5 == 0xffff &&
        isRestrictedEmbedded s6 s7) := by
  simp only [toIpv4Mapped_octets, isRestrictedEmbedded, toUInt8_and_ff]
  by_cases h : s0 = 0 ∧ s1 = 0 ∧ s2 = 0 ∧ s3 = 0 ∧ s4 = 0 ∧ s5 = 0xffff
  · obtain ⟨rfl, rfl, rfl, rfl, rfl, rfl⟩ := h
    simp [specIsRestrictedIpv4_eq]
  · rw [if_neg h, Option.any_none, eq_comm, Bool.and_eq_false_iff]
    refine Or.inl (Bool.eq_false_iff.2 fun hall => h ?_)
    simpa [and_assoc] using hall

theorem specIsRestrictedIp_eq (ip : IpAddr) : specIsRestrictedIp ip = isRestrictedIp ip := by
  cases ip with
  | v4 o0 o1 o2 o3 => exact specIsRestrictedIpv4_eq o0 o1 o2 o3
  | v6 s0 s1 s2 s3 s4 s5 s6 s7 =>
    rw [specIsRestrictedIp, specIsRestrictedIpv6, mapped_any_eq]
    simp only [isRestrictedIp, isRestrictedIpv6Segments, isRestrictedEmbedded, specIsRestrictedIpv4_eq,
      List.cons_beq_cons, beq_self_eq_true, Bool.and_true, Bool.and_assoc]

end Addresses

/-- The specifications agree with the kernels on every input: the bytes that are gathered by `xor` and
    `or` vanish exactly for equal texts, a verifier is accepted by both or by neither, and an address is
    restricted for both or for neither, also where one reads the embedded address from the octets and the
    other from the segments. -/
theorem kernels_meet_formal_specs :
    (∀ a b, ConstantTimeEqSpec.specConstantTimeEqModel a b = constantTimeEq a b ∧
      ConstantTimeEqSpec.specSliceEq a b = constantTimeEq a b ∧
      ConstantTimeEqSpec.verifySoundness a b = true) ∧
    (∀ verifier, PkceFormalSpec.specValidateVerifier (Text.asBytes verifier) = true ↔
      validateVerifier verifier = .ok ()) ∧
    ∀ ip, SsrfFormalSpec.specIsRestrictedIp ip = isRestrictedIp ip := by
  refine ⟨fun a b => ?_, fun verifier => ?_, specIsRestrictedIp_eq⟩
  · have hmodel : ConstantTimeEqSpec.specConstantTimeEqModel a b = constantTimeEq a b := by
      rw [Bool.eq_iff_iff, specConstantTimeEqModel_iff, constantTimeEq_iff]
    have hslice : ConstantTimeEqSpec.specSliceEq a b = constantTimeEq a b := by
      rw [Bool.eq_iff_iff, specSliceEq_iff, constantTimeEq_iff]
    refine ⟨hmodel, hslice, ?_⟩
    rw [ConstantTimeEqSpec.verifySoundness, hmodel, hslice, beq_self_eq_true]
  · rw [specValidateVerifier_iff, validateVerifierBytes_eq_ok, validateVerifier_eq_ok]

/-! ## Target URIs -/

/-- A colon, digits and a slash. -/
def PortMark (digits : List Char) : List Char := ':' :: (digits ++ ['/'])

theorem portMark_append (digits rest : List Char) :
    PortMark digits ++ rest = ':' :: (digits ++ '/' :: rest) := by
  simp [PortMark]

section Marks

variable {digits before after rest : List Char} {host : String} {text : List Char}

/-- An authority that ends like a port has that port. -/
theorem PlainHost.port_eq (hhost : PlainHost host) (htext : IsPortText text)
    (hdigits : ∀ c ∈ digits, c.isDigit = true) (h : host.toList ++ text = before ++ ':' :: digits) :
    text = ':' :: digits := by
  rcases List.append_eq_append_iff.1 h with ⟨more, rfl, hmore⟩ | ⟨more, hsplit, hmore⟩
  · rcases htext with rfl | ⟨digits', rfl, hdigits'⟩
    · simp at hmore
    · cases more with
      | nil => exact hmore
      | cons c more =>
        have hcolon : ':' ∈ digits' := by simp [(List.cons.inj hmore).2]
        exact absurd (hdigits' _ hcolon) (by decide)
  · obtain rfl := hhost.not_port hsplit (Or.inr ⟨digits, rfl, hdigits⟩) hmore
    exact hmore.symm

/-- A port that stands before a slash in a URI is the port of its authority or stands in the path. -/
theorem mark_of_authority (hhost : PlainHost host) (htext : IsPortText text)
    (hdigits : ∀ c ∈ digits, c.isDigit = true)
    (h : host.toList ++ text ++ '/' :: rest = before ++ (PortMark digits ++ after)) :
    text = ':' :: digits ∨ ∃ before', '/' :: rest = before' ++ (PortMark digits ++ after) := by
  have hslash : '/' ∉ digits := fun hmem => absurd (hdigits _ hmem) (by decide)
  rcases List.append_eq_append_iff.1 h with ⟨more, -, hmore⟩ | ⟨more, hsplit, hmore⟩
  · exact Or.inr ⟨more, hmore⟩
  · rw [portMark_append] at hmore
    cases more with
    | nil => exact absurd (List.head_eq_of_cons_eq hmore) (by decide)
    | cons c more =>
      obtain ⟨rfl, htail⟩ := List.cons.inj hmore
      have hnone : '/' ∉ more := by
        intro hmem
        have hauthority : '/' ∈ host.toList ++ text := by simp [hsplit, hmem]
        exact (List.mem_append.1 hauthority).elim hhost.1 htext.no_slash
      obtain ⟨rfl, -⟩ := Text.append_cons_inj hslash hnone htail
      exact Or.inl (hhost.port_eq htext hdigits hsplit)

/-- The colon after the scheme is no port. -/
theorem mark_of_uri {name tail : List Char} (hname : ':' ∉ name) (hdigits : ∀ c ∈ digits, c.isDigit = true)
    (hne : digits ≠ [])
    (h : name ++ ':' :: '/' :: '/' :: tail = before ++ (PortMark digits ++ after)) :
    ∃ before', tail = before' ++ (PortMark digits ++ after) := by
  rw [portMark_append] at h
  rw [portMark_append]
  have hhead : ∀ c l, c :: l = digits ++ '/' :: after → c.isDigit = true := by
    intro c l hc
    cases digits with
    | nil => exact absurd rfl hne
    | cons d ds =>
      rw [(List.cons.inj hc).1]
      exact hdigits d (List.mem_cons_self ..)
  rcases List.append_eq_append_iff.1 h with ⟨more, -, hmore⟩ | ⟨more, rfl, hmore⟩
  · rcases more with _ | ⟨c, _ | ⟨c', _ | ⟨c'', more⟩⟩⟩
    · exact absurd (hhead _ _ (List.cons.inj hmore).2) (by decide)
    · exact absurd (List.head_eq_of_cons_eq (List.cons.inj hmore).2) (by decide)
    · exact absurd (List.head_eq_of_cons_eq (List.cons.inj (List.cons.inj hmore).2).2) (by decide)
    · exact ⟨more, (List.cons.inj (List.cons.inj (List.cons.inj hmore).2).2).2⟩
  · cases more with
    | nil => exact absurd (hhead _ _ (List.cons.inj hmore).2.symm) (by decide)
    | cons c more =>
      obtain rfl := (List.cons.inj hmore).1
      simp at hname

end Marks

/-- What `Url::parse` gives for a URI with a host: no query and no fragment in its parts, a colon only
    between the brackets of the host, a path from the root. -/
structure ParsedParts (host : String) (port : Option Nat) (path : String) : Prop where
  plain : PlainHost host
  host_clean : '?' ∉ host.toList ∧ '#' ∉ host.toList
  port_lt : ∀ p ∈ port, p < 2 ^ 16
  rooted : Text.startsWith path "/" = true
  path_clean : '?' ∉ path.toList ∧ '#' ∉ path.toList

/-- The path names a port, before a slash or at its end. -/
def PathNamesPort (path : String) (port : Nat) : Prop :=
  Text.contains path (":" ++ toString port ++ "/") = true ∨ Text.endsWith path (":" ++ toString port) = true

section Uris

variable {scheme : HtuScheme} {host path : String} {port : Option Nat}

theorem defaultPort_lt (scheme : HtuScheme) : scheme.defaultPort < 2 ^ 16 := by
  cases scheme <;> decide

theorem portText_toList_ne (hport : ∀ p ∈ port, p < 2 ^ 16) :
    (portText scheme (effectivePort scheme port)).toList ≠
      ':' :: (toString scheme.defaultPort).toList := by
  intro h
  unfold portText at h
  split at h
  · cases h
  · rename_i hne
    refine hne (decimalPortStr_inj (effectivePort_lt scheme hport) (defaultPort_lt scheme) ?_)
    rw [decimalPortStr_eq (defaultPort_lt scheme), ← String.toList_inj, h, String.toList_append]
    rfl

theorem defaultPort_digits (scheme : HtuScheme) :
    (∀ c ∈ (toString scheme.defaultPort).toList, c.isDigit = true) ∧
      (toString scheme.defaultPort).toList ≠ [] := by
  rw [Nat.toString_eq_repr, Nat.toList_repr]
  exact ⟨fun c hc => Nat.isDigit_of_mem_toDigits (by decide) (by decide) hc, Nat.toDigits_ne_nil⟩

theorem contains_append_right {a b pattern : String} (h : Text.contains b pattern = true) :
    Text.contains (a ++ b) pattern = true := by
  obtain ⟨x, y, rfl⟩ := Text.contains_iff.1 h
  exact Text.contains_iff.2 ⟨a ++ x, y, by simp only [String.append_assoc]⟩

/-- The default port stands before a slash of a normalized URI exactly if it does so in the path. -/
theorem contains_defaultPort_iff (scheme : HtuScheme) (h : ParsedParts host port path) :
    Text.contains (buildNormalizedHtu scheme host port path) (":" ++ toString scheme.defaultPort ++ "/") =
      Text.contains path (":" ++ toString scheme.defaultPort ++ "/") := by
  have hmark : (":" ++ toString scheme.defaultPort ++ "/").toList =
      PortMark (toString scheme.defaultPort).toList := by
    rw [String.toList_append, String.toList_append]
    rfl
  have hcolon : ':' ∉ scheme.asStr.toList := by cases scheme <;> decide
  obtain ⟨hdigits, hne⟩ := defaultPort_digits scheme
  rw [buildNormalizedHtu_eq h.rooted]
  obtain ⟨rest, hrest⟩ := Text.startsWith_iff.1 h.rooted
  rw [Bool.eq_iff_iff]
  constructor
  · intro hcontains
    obtain ⟨a, b, hsplit⟩ := Text.contains_iff.1 hcontains
    have hlist := congrArg String.toList hsplit
    rw [hrest, toList_uri, String.toList_append, String.toList_append, hmark,
      List.append_assoc a.toList] at hlist
    obtain ⟨before, hlist⟩ := mark_of_uri hcolon hdigits hne hlist
    rcases mark_of_authority h.plain (isPortText_portText (effectivePort_lt scheme h.port_lt)) hdigits hlist
      with hport | ⟨before', hpath⟩
    · exact absurd hport (portText_toList_ne h.port_lt)
    · refine Text.contains_iff.2 ⟨String.ofList before', b, ?_⟩
      rw [hrest, ← String.toList_inj, String.toList_append, String.toList_append, String.toList_append, hmark,
        List.append_assoc]
      have hbefore : (String.ofList before').toList = before' := String.toList_ofList
      rw [hbefore]
      exact hpath
  · exact contains_append_right

/-- The default port stands at the end of a normalized URI exactly if it does so in the path. -/
theorem endsWith_defaultPort_iff (scheme : HtuScheme) (h : ParsedParts host port path) :
    Text.endsWith (buildNormalizedHtu scheme host port path) (":" ++ toString scheme.defaultPort) =
      Text.endsWith path (":" ++ toString scheme.defaultPort) := by
  obtain ⟨rest, hrest⟩ := Text.startsWith_iff.1 h.rooted
  generalize hauthority : scheme.asStr ++ "://" ++ host ++ portText scheme (effectivePort scheme port) =
    authority
  have hlist : (authority ++ path).toList = authority.toList ++ path.toList := String.toList_append
  rw [buildNormalizedHtu_eq h.rooted, hauthority, Bool.eq_iff_iff, Text.endsWith, Text.endsWith,
    List.isSuffixOf_iff_suffix, List.isSuffixOf_iff_suffix, hlist]
  constructor
  · rintro ⟨a, hsplit⟩
    rcases List.append_eq_append_iff.1 hsplit with ⟨more, -, hmore⟩ | ⟨more, -, hmore⟩
    · -- the path would be a part of the port
      have hslash : '/' ∈ (":" ++ toString scheme.defaultPort).toList := by
        rw [hmore, hrest, String.toList_append]
        exact List.mem_append_right _ (List.mem_append_left _ (by decide))
      have hnone : '/' ∉ (":" ++ toString scheme.defaultPort).toList := by cases scheme <;> decide
      exact absurd hslash hnone
    · exact ⟨more, hmore.symm⟩
  · rintro ⟨before, hbefore⟩
    exact ⟨authority.toList ++ before, by rw [List.append_assoc, hbefore]⟩

theorem startsWith_scheme (scheme : HtuScheme) (rest : String) :
    Text.startsWith (scheme.asStr ++ "://" ++ rest) "https://" = (scheme == .https) ∧
      Text.startsWith (scheme.asStr ++ "://" ++ rest) "http://" = (scheme == .http) := by
  unfold Text.startsWith
  rw [String.toList_append]
  cases scheme with
  | http => exact ⟨rfl, rfl⟩
  | https => exact ⟨rfl, rfl⟩

theorem specNoDefaultPorts_buildNormalizedHtu (h : ParsedParts host port path) :
    DPoPHtuFormalSpec.specNoDefaultPorts (buildNormalizedHtu scheme host port path) = true ↔
      ¬PathNamesPort path scheme.defaultPort := by
  have hcontains := contains_defaultPort_iff scheme h
  have hends := endsWith_defaultPort_iff scheme h
  have hstarts := startsWith_scheme scheme
    (host ++ (portText scheme (effectivePort scheme port) ++ path))
  rw [PathNamesPort, ← hcontains, ← hends, not_or, DPoPHtuFormalSpec.specNoDefaultPorts]
  rw [← String.append_assoc, ← String.append_assoc, ← buildNormalizedHtu_eq h.rooted] at hstarts
  rw [hstarts.1, hstarts.2]
  cases scheme with
  | http =>
    have hport : ":" ++ toString HtuScheme.http.defaultPort = ":80" := by decide
    have hmark : ":80" ++ "/" = ":80/" := by decide
    rw [hport, hmark]
    simp
  | https =>
    have hport : ":" ++ toString HtuScheme.https.defaultPort = ":443" := by decide
    have hmark : ":443" ++ "/" = ":443/" := by decide
    rw [hport, hmark]
    simp

theorem stripPrefix_lowercase {rest : String} :
    Text.stripPrefix (host ++ rest) (Text.toAsciiLowercase host) =
      if Text.toAsciiLowercase host = host then some rest else none := by
  by_cases h : Text.toAsciiLowercase host = host
  · rw [if_pos h, h, Text.stripPrefix_append]
  · rw [if_neg h]
    cases hstrip : Text.stripPrefix (host ++ rest) (Text.toAsciiLowercase host) with
    | none => rfl
    | some rest' =>
      -- lower case keeps the length, so that the hosts are cut alike
      have hlist := congrArg String.toList (Text.stripPrefix_eq_some.1 hstrip)
      rw [String.toList_append, String.toList_append] at hlist
      have hlength : host.toList.length = (Text.toAsciiLowercase host).toList.length := by
        simp [Text.toAsciiLowercase]
      exact absurd (String.toList_inj.1 (List.append_inj hlist hlength).1).symm h

/-- What follows the scheme of a normalized URI. -/
theorem stripPrefix_buildNormalizedHtu :
    Text.stripPrefix (buildNormalizedHtu scheme host port path) (scheme.asStr ++ "://") =
      some (host ++ (portText scheme (effectivePort scheme port) ++ if path = "" then "/" else path)) := by
  rw [Text.stripPrefix_eq_some, ← String.append_assoc, ← String.append_assoc]
  cases port with
  | none =>
    have hdefault : portText scheme (effectivePort scheme none) = "" := if_pos rfl
    rw [hdefault]
    rfl
  | some p => rfl

/-- Whether the invariants hold of a normalized URI depends on its components only. -/
theorem invariantsHold_buildNormalizedHtu :
    invariantsHold scheme host port path (buildNormalizedHtu scheme host port path) = true ↔
      (∀ c ∈ host.toList ++ path.toList, c ≠ '?' ∧ c ≠ '#') ∧ Text.toAsciiLowercase host = host ∧
        (effectivePort scheme port = scheme.defaultPort → startsWithExplicitPort path.toList = false) := by
  have hclean : (host.toList.any (fun c => c == '?' || c == '#') ||
      path.toList.any (fun c => c == '?' || c == '#')) = false ↔
      ∀ c ∈ host.toList ++ path.toList, c ≠ '?' ∧ c ≠ '#' := by
    rw [← List.any_append, List.any_eq_false]
    simp
  have hpath : startsWithExplicitPort (if path = "" then "/" else path).toList =
      startsWithExplicitPort path.toList := by
    by_cases hempty : path = ""
    · rw [if_pos hempty, hempty]
      rfl
    · rw [if_neg hempty]
  have hdefault : portText scheme scheme.defaultPort = "" := if_pos rfl
  rw [← hclean, invariantsHold, if_neg (not_not.2 rfl), stripPrefix_buildNormalizedHtu]
  simp only [stripPrefix_lowercase]
  cases host.toList.any (fun c => c == '?' || c == '#') || path.toList.any (fun c => c == '?' || c == '#')
    with
  | true => simp
  | false =>
    by_cases hlower : Text.toAsciiLowercase host = host
    · simp only [Bool.false_eq_true, if_false, if_true, hlower, true_and]
      cases port with
      | none =>
        simp only [effectivePort, Option.getD_none, hdefault, String.empty_append]
        rw [hpath]
        simp
      | some p =>
        by_cases hp : p = scheme.defaultPort
        · simp only [effectivePort, Option.getD_some, hp, hdefault, String.empty_append]
          rw [hpath]
          simp
        · have htext : portText scheme p = decimalPortStr p := if_neg hp
          simp only [effectivePort, Option.getD_some, htext, hp, if_false, false_implies, iff_true]
          exact Text.startsWith_iff.2 ⟨_, rfl⟩
    · simp [hlower]

theorem mem_toAsciiLowercase {c : Char} (hupper : ¬(65 ≤ c.toNat ∧ c.toNat ≤ 90))
    (hlower : ¬(97 ≤ c.toNat ∧ c.toNat ≤ 122)) {s : String} :
    c ∈ (Text.toAsciiLowercase s).toList ↔ c ∈ s.toList := by
  simp only [Text.toAsciiLowercase, String.toList_ofList, List.mem_map, Text.toLower_eq_iff hupper hlower,
    exists_eq_right]

theorem PlainHost.lowercase (h : PlainHost host) : PlainHost (Text.toAsciiLowercase host) := by
  refine ⟨fun hmem => h.1 ((mem_toAsciiLowercase (by decide) (by decide)).1 hmem), ?_⟩
  intro before after hsplit
  rw [Text.toAsciiLowercase, String.toList_ofList, List.map_eq_append_iff] at hsplit
  obtain ⟨before', rest, hhost, rfl, hrest⟩ := hsplit
  obtain ⟨c, after', rfl, hc, rfl⟩ := List.map_eq_cons_iff.1 hrest
  obtain rfl := (Text.toLower_eq_iff (by decide) (by decide)).1 hc
  obtain ⟨hopen, hclose⟩ := h.2 before' after' hhost
  exact ⟨List.mem_map.2 ⟨'[', hopen, rfl⟩, List.mem_map.2 ⟨']', hclose, rfl⟩⟩

theorem ParsedParts.lowercase (h : ParsedParts host port path) :
    ParsedParts (Text.toAsciiLowercase host) port path where
  plain := h.plain.lowercase
  host_clean := ⟨fun hmem => h.host_clean.1 ((mem_toAsciiLowercase (by decide) (by decide)).1 hmem),
    fun hmem => h.host_clean.2 ((mem_toAsciiLowercase (by decide) (by decide)).1 hmem)⟩
  port_lt := h.port_lt
  rooted := h.rooted
  path_clean := h.path_clean

/-- A character that is in no part of a URI and is none of its punctuation is not in it. -/
theorem notMem_buildNormalizedHtu {c : Char} (scheme : HtuScheme) (h : ParsedParts host port path)
    (hfixed : ∀ scheme : HtuScheme, c ∉ scheme.asStr.toList ++ "://".toList) (hport : c ≠ ':' ∧ c.isDigit = false)
    (hhost : c ∉ host.toList) (hpath : c ∉ path.toList) :
    c ∉ (buildNormalizedHtu scheme host port path).toList := by
  rw [buildNormalizedHtu_eq h.rooted]
  simp only [String.toList_append, List.mem_append, not_or]
  have hscheme := hfixed scheme
  rw [List.mem_append, not_or] at hscheme
  refine ⟨⟨⟨hscheme, hhost⟩, fun hmem => ?_⟩, hpath⟩
  have htext : IsPortText (portText scheme (effectivePort scheme port)).toList :=
    isPortText_portText (effectivePort_lt scheme h.port_lt)
  rcases htext with hnone | ⟨digits, htext, hdigits⟩
  · rw [hnone] at hmem
    cases hmem
  · rw [htext] at hmem
    rcases List.mem_cons.1 hmem with hcolon | hmem
    · exact hport.1 hcolon
    · rw [hdigits _ hmem] at hport
      cases hport.2

end Uris

/-- A normalized target URI keeps the invariants of its components and has a scheme of the web, no query
    and no fragment. That it has no default port is, for the check on its text, a matter of the path: the
    authority never has one, but a path may name it. -/
theorem normalized_htu_meets_specs {X : Crates} {uri out : String} (h : normalizeHtu X uri = .ok out)
    (hparts : ∀ parsed host, X.urlParse (Text.trim uri) = .ok parsed → parsed.hostStr = some host →
      ParsedParts host parsed.port parsed.path) :
    ∃ parsed scheme host, X.urlParse (Text.trim uri) = .ok parsed ∧
      HtuScheme.parse parsed.scheme = some scheme ∧ parsed.hostStr = some host ∧
      invariantsHold scheme (Text.toAsciiLowercase host) parsed.port parsed.path out = true ∧
      DPoPHtuFormalSpec.specHasNoQuery out = true ∧ DPoPHtuFormalSpec.specHasNoFragment out = true ∧
      DPoPHtuFormalSpec.specValidScheme out = true ∧
      (DPoPHtuFormalSpec.specNoDefaultPorts out = true ↔ ¬PathNamesPort parsed.path scheme.defaultPort) := by
  obtain ⟨-, parsed, scheme, host, hparse, hscheme, hhost, hbuild⟩ := normalizeHtu_eq_ok.1 h
  have hp := (hparts parsed host hparse hhost).lowercase
  have hne : parsed.path ≠ "" := by
    intro hempty
    have hrooted := hp.rooted
    rw [hempty] at hrooted
    cases hrooted
  rw [if_neg hne] at hbuild
  subst hbuild
  refine ⟨parsed, scheme, host, hparse, hscheme, hhost, ?_, ?_, ?_, ?_,
    specNoDefaultPorts_buildNormalizedHtu hp⟩
  · refine invariantsHold_buildNormalizedHtu.2
      ⟨fun c hc => ?_, Text.toAsciiLowercase_toAsciiLowercase host, fun _ => ?_⟩
    · rcases List.mem_append.1 hc with hc | hc
      · exact ⟨fun heq => hp.host_clean.1 (heq ▸ hc), fun heq => hp.host_clean.2 (heq ▸ hc)⟩
      · exact ⟨fun heq => hp.path_clean.1 (heq ▸ hc), fun heq => hp.path_clean.2 (heq ▸ hc)⟩
    · obtain ⟨rest, hrest⟩ := Text.startsWith_iff.1 hp.rooted
      rw [hrest, String.toList_append]
      rfl
  · have hnone := notMem_buildNormalizedHtu scheme hp (c := '?')
      (by intro s; cases s <;> decide) (by decide) hp.host_clean.1 hp.path_clean.1
    simpa [DPoPHtuFormalSpec.specHasNoQuery] using hnone
  · have hnone := notMem_buildNormalizedHtu scheme hp (c := '#')
      (by intro s; cases s <;> decide) (by decide) hp.host_clean.2 hp.path_clean.2
    simpa [DPoPHtuFormalSpec.specHasNoFragment] using hnone
  · have hstarts := startsWith_scheme scheme (Text.toAsciiLowercase host ++
      (portText scheme (effectivePort scheme parsed.port) ++ parsed.path))
    rw [← String.append_assoc, ← String.append_assoc, ← buildNormalizedHtu_eq hp.rooted] at hstarts
    rw [DPoPHtuFormalSpec.specValidScheme, hstarts.1, hstarts.2]
    cases scheme <;> rfl

/-- The target of a request whose path names a port. -/
def portInPath : Crates :=
  { sampleCrates with
    urlParse := fun _ => .ok { scheme := "https", hostStr := some "pds.example", port := none,
                               path := "/a:443/b", origin := "https://pds.example" } }

theorem portInPath_parts : ParsedParts "pds.example" none "/a:443/b" where
  plain := plainHost_of_name (by decide) (by decide)
  host_clean := by decide
  port_lt := fun _ hp => by cases hp
  rooted := by decide
  path_clean := by decide

theorem normalized_htu_meets_specs_sample :
    normalizeHtu portInPath "https://pds.example/a:443/b" = .ok "https://pds.example/a:443/b" ∧
    DPoPHtuFormalSpec.specNoDefaultPorts "https://pds.example/a:443/b" = false := by
  have hnormal : normalizeHtu portInPath "https://pds.example/a:443/b" =
      .ok "https://pds.example/a:443/b" := by rfl
  refine ⟨hnormal, ?_⟩
  obtain ⟨parsed, scheme, host, hparse, hscheme, hhost, -, -, -, -, hports⟩ :=
    normalized_htu_meets_specs hnormal fun parsed host hparse hhost => by
      cases hparse
      cases hhost
      exact portInPath_parts
  cases hparse
  cases hscheme
  rw [← Bool.not_eq_true, hports, not_not]
  exact Or.inl (by decide)

end Skyauth
