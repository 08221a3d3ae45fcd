import Skyauth.Dpop

/-!
# Proofs: normalized request URIs

A normalized URI says its components: scheme, host, path, and the port that a request goes to. The scheme
ends at its colon, the authority at the first slash, and in the authority a port is what follows the
colon that no bracket closes after.
-/

namespace Skyauth

/-! ## Ports -/

theorem digitChar_eq {n : Nat} (h : n < 10) : Char.ofNat ('0'.toNat + n) = Nat.digitChar n := by
  have hall : ∀ m : Fin 10, Char.ofNat ('0'.toNat + m.val) = Nat.digitChar m.val := by decide
  exact hall ⟨n, h⟩

/-- The loop writes the decimal numeral from its end. -/
theorem reverse_portDigits {room n : Nat} (hpos : 0 < n) (hroom : n < 10 ^ room) :
    (portDigits room n).reverse = Nat.toDigits 10 n := by
  induction room generalizing n with
  | zero => omega
  | succ room ih =>
    have hmod : n % 10 < 10 := Nat.mod_lt n (by decide)
    rw [portDigits, if_pos hpos, List.reverse_cons, digitChar_eq hmod]
    by_cases hlast : n < 10
    · have hzero : portDigits room (n / 10) = [] := by
        rw [Nat.div_eq_of_lt hlast]
        cases room <;> rfl
      rw [hzero, Nat.mod_eq_of_lt hlast, Nat.toDigits_of_lt_base hlast]
      rfl
    · have hdiv : n / 10 < 10 ^ room := by
        rw [Nat.pow_succ] at hroom
        omega
      rw [ih (by omega) hdiv, Nat.toDigits_of_base_le (n := n) (by decide) (by omega)]

/-- A port is written as its decimal numeral. -/
theorem decimalPortStr_eq {port : Nat} (h : port < 2 ^ 16) : decimalPortStr port = ":" ++ toString port := by
  rw [← String.toList_inj, String.toList_append, Nat.toString_eq_repr, Nat.toList_repr, decimalPortStr]
  simp only [String.toList_ofList]
  split
  · rename_i hzero
    rw [hzero]
    rfl
  · rename_i hzero
    rw [reverse_portDigits (Nat.pos_of_ne_zero hzero) (by omega)]
    rfl

theorem decimalPortStr_inj {port port' : Nat} (h : port < 2 ^ 16) (h' : port' < 2 ^ 16)
    (heq : decimalPortStr port = decimalPortStr port') : port = port' := by
  rw [decimalPortStr_eq h, decimalPortStr_eq h', ← String.toList_inj, String.toList_append,
    String.toList_append, List.append_cancel_left_eq, Nat.toString_eq_repr, Nat.toString_eq_repr,
    Nat.toList_repr, Nat.toList_repr] at heq
  rw [← Nat.ofDigitChars_ten_toDigits (n := port), heq, Nat.ofDigitChars_ten_toDigits]

/-! ## Authorities -/

/-- A host without a slash, in which a colon stands only between brackets. -/
def PlainHost (host : String) : Prop :=
  '/' ∉ host.toList ∧
    ∀ before after, host.toList = before ++ ':' :: after → '[' ∈ before ∧ ']' ∈ after

theorem plainHost_of_name {host : String} (hslash : '/' ∉ host.toList) (hcolon : ':' ∉ host.toList) :
    PlainHost host :=
  ⟨hslash, fun before _ h =>
    absurd (h ▸ List.mem_append_right before (List.mem_cons_self ..)) hcolon⟩

theorem plainHost_of_literal {literal : String} (hslash : '/' ∉ literal.toList) :
    PlainHost ("[" ++ literal ++ "]") := by
  have hlist : ("[" ++ literal ++ "]").toList = '[' :: (literal.toList ++ [']']) := by
    simp only [String.toList_append]
    rfl
  constructor
  · rw [hlist]
    simp [hslash]
  · intro before after h
    rw [hlist] at h
    constructor
    · cases before with
      | nil => exact absurd (List.head_eq_of_cons_eq h) (by decide)
      | cons c before => exact List.head_eq_of_cons_eq h ▸ List.mem_cons_self ..
    · rw [← List.cons_append] at h
      rcases List.eq_nil_or_concat after with rfl | ⟨after, c, rfl⟩
      · obtain ⟨-, hlast⟩ := List.append_inj' h rfl
        exact absurd hlast (by decide)
      · rw [List.concat_eq_append, ← List.cons_append, ← List.append_assoc] at h
        obtain ⟨-, hlast⟩ := List.append_inj' h rfl
        obtain rfl := (List.cons.inj hlast).1
        simp

/-- What stands between host and path for the port that a request goes to. -/
def portText (scheme : HtuScheme) (port : Nat) : String :=
  if port = scheme.defaultPort then "" else decimalPortStr port

/-- The port that a request goes to. -/
def effectivePort (scheme : HtuScheme) (port : Option Nat) : Nat := port.getD scheme.defaultPort

/-- Nothing, or a colon and digits. -/
def IsPortText (text : List Char) : Prop :=
  text = [] ∨ ∃ digits, text = ':' :: digits ∧ ∀ c ∈ digits, c.isDigit = true

variable {scheme scheme' : HtuScheme} {host host' path path' : String} {port port' : Option Nat}

theorem buildNormalizedHtu_eq (hpath : Text.startsWith path "/" = true) :
    buildNormalizedHtu scheme host port path =
      scheme.asStr ++ "://" ++ host ++ portText scheme (effectivePort scheme port) ++ path := by
  have hne : path ≠ "" := by
    rintro rfl
    cases hpath
  simp only [buildNormalizedHtu, if_neg hne]
  cases port with
  | none =>
    have hdefault : portText scheme (effectivePort scheme none) = "" := if_pos rfl
    rw [hdefault]
  | some p => rfl

theorem effectivePort_lt (scheme : HtuScheme) (hport : ∀ p ∈ port, p < 2 ^ 16) :
    effectivePort scheme port < 2 ^ 16 := by
  cases port with
  | none => cases scheme <;> decide
  | some p => exact hport p rfl

theorem isPortText_portText {p : Nat} (hp : p < 2 ^ 16) : IsPortText (portText scheme p).toList := by
  unfold portText
  split
  · exact Or.inl rfl
  · refine Or.inr ⟨Nat.toDigits 10 p, ?_, fun c hc => ?_⟩
    · rw [decimalPortStr_eq hp, String.toList_append, Nat.toString_eq_repr, Nat.toList_repr]
      rfl
    · exact Nat.isDigit_of_mem_toDigits (by decide) (by decide) hc

theorem IsPortText.no_slash {text : List Char} (h : IsPortText text) : '/' ∉ text := by
  rcases h with rfl | ⟨digits, rfl, hdigits⟩
  · exact List.not_mem_nil
  · intro hmem
    rcases List.mem_cons.1 hmem with hcolon | hmem
    · exact absurd hcolon (by decide)
    · exact absurd (hdigits _ hmem) (by decide)

/-- A host does not end in a part of a port. -/
theorem PlainHost.not_port {before rest : List Char} {text text' : List Char} (hhost : PlainHost host)
    (hsplit : host.toList = before ++ rest) (htext : IsPortText text) (h : text = rest ++ text') :
    rest = [] := by
  cases rest with
  | nil => rfl
  | cons c rest =>
    rcases htext with rfl | ⟨digits, rfl, hdigits⟩
    · cases h
    · obtain ⟨rfl, rfl⟩ := List.cons.inj h
      have hbracket := (hhost.2 before rest hsplit).2
      exact absurd (hdigits _ (List.mem_append_left _ hbracket)) (by decide)

/-- Host and port can be told from the authority. -/
theorem authority_inj {text text' : List Char} (hhost : PlainHost host) (hhost' : PlainHost host')
    (htext : IsPortText text) (htext' : IsPortText text')
    (h : host.toList ++ text = host'.toList ++ text') : host = host' ∧ text = text' := by
  rcases List.append_eq_append_iff.1 h with ⟨rest, hsplit, hrest⟩ | ⟨rest, hsplit, hrest⟩
  · obtain rfl := hhost'.not_port hsplit htext hrest
    rw [List.append_nil] at hsplit
    exact ⟨String.toList_inj.1 hsplit.symm, hrest⟩
  · obtain rfl := hhost.not_port hsplit htext' hrest
    rw [List.append_nil] at hsplit
    exact ⟨String.toList_inj.1 hsplit, hrest.symm⟩

theorem decimalPortStr_ne_empty (p : Nat) : decimalPortStr p ≠ "" := by
  intro h
  have hlist := congrArg String.toList h
  rw [decimalPortStr] at hlist
  simp only [String.toList_ofList] at hlist
  cases hlist

theorem portText_inj {p p' : Nat} (hp : p < 2 ^ 16) (hp' : p' < 2 ^ 16)
    (h : portText scheme p = portText scheme p') : p = p' := by
  unfold portText at h
  split_ifs at h with hdefault hdefault'
  · rw [hdefault, hdefault']
  · exact absurd h.symm (decimalPortStr_ne_empty p')
  · exact absurd h (decimalPortStr_ne_empty p)
  · exact decimalPortStr_inj hp hp' h

/-! ## URIs -/

theorem scheme_inj {rest rest' : List Char}
    (h : scheme.asStr.toList ++ ':' :: rest = scheme'.asStr.toList ++ ':' :: rest') :
    scheme = scheme' ∧ rest = rest' := by
  have hcolon : ∀ s : HtuScheme, ':' ∉ s.asStr.toList := by
    intro s
    cases s <;> decide
  obtain ⟨hname, hrest⟩ := Text.append_cons_inj (hcolon scheme) (hcolon scheme') h
  refine ⟨?_, hrest⟩
  cases scheme <;> cases scheme'
  · rfl
  · exact absurd hname (by decide)
  · exact absurd hname (by decide)
  · rfl

/-- Where a normalized URI is cut. -/
theorem toList_uri (text rest : String) :
    (scheme.asStr ++ "://" ++ host ++ text ++ ("/" ++ rest)).toList =
      scheme.asStr.toList ++ ':' :: '/' :: '/' :: (host.toList ++ text.toList ++ '/' :: rest.toList) := by
  simp only [String.toList_append, List.append_assoc]
  rfl

/-- Normalized URIs are equal exactly when their components are, the port as the one that a request goes
    to. A port is written in decimal, and different ports differently. -/
theorem buildNormalizedHtu_inj (hhost : PlainHost host) (hhost' : PlainHost host')
    (hport : ∀ p ∈ port, p < 2 ^ 16) (hport' : ∀ p ∈ port', p < 2 ^ 16)
    (hpath : Text.startsWith path "/" = true) (hpath' : Text.startsWith path' "/" = true) :
    (buildNormalizedHtu scheme host port path = buildNormalizedHtu scheme' host' port' path' ↔
      scheme = scheme' ∧ host = host' ∧ path = path' ∧
        effectivePort scheme port = effectivePort scheme' port') ∧
      ∀ p < 2 ^ 16, decimalPortStr p = ":" ++ toString p ∧
        ∀ p' < 2 ^ 16, decimalPortStr p = decimalPortStr p' → p = p' := by
  refine ⟨?_, fun p hp => ⟨decimalPortStr_eq hp, fun p' hp' h => decimalPortStr_inj hp hp' h⟩⟩
  rw [buildNormalizedHtu_eq hpath, buildNormalizedHtu_eq hpath']
  constructor
  · intro h
    obtain ⟨rest, rfl⟩ := Text.startsWith_iff.1 hpath
    obtain ⟨rest', rfl⟩ := Text.startsWith_iff.1 hpath'
    have hp := effectivePort_lt scheme hport
    have hp' := effectivePort_lt scheme' hport'
    have htext : IsPortText (portText scheme (effectivePort scheme port)).toList :=
      isPortText_portText hp
    have htext' : IsPortText (portText scheme' (effectivePort scheme' port')).toList :=
      isPortText_portText hp'
    -- the three cuts: at the colon of the scheme, at the first slash, before the port
    have hlist := congrArg String.toList h
    rw [toList_uri, toList_uri] at hlist
    obtain ⟨rfl, hlist⟩ := scheme_inj hlist
    obtain ⟨hauthority, hrest⟩ := Text.append_cons_inj
      (fun hmem => (List.mem_append.1 hmem).elim hhost.1 htext.no_slash)
      (fun hmem => (List.mem_append.1 hmem).elim hhost'.1 htext'.no_slash)
      (List.cons.inj (List.cons.inj hlist).2).2
    obtain ⟨rfl, hporttext⟩ := authority_inj hhost hhost' htext htext' hauthority
    obtain rfl := String.toList_inj.1 hrest
    exact ⟨rfl, rfl, rfl, portText_inj hp hp' (String.toList_inj.1 hporttext)⟩
  · rintro ⟨rfl, rfl, rfl, hport⟩
    rw [hport]

theorem buildNormalizedHtu_inj_sample :
    (buildNormalizedHtu .https "[2001:db8::1]" (some 443) "/token" =
        buildNormalizedHtu .https "example.com" (some 8443) "/token" ↔
      HtuScheme.https = HtuScheme.https ∧ "[2001:db8::1]" = "example.com" ∧ "/token" = "/token" ∧
        effectivePort .https (some 443) = effectivePort .https (some 8443)) ∧
      decimalPortStr 8443 = ":" ++ toString 8443 := by
  have hliteral : PlainHost "[2001:db8::1]" := @plainHost_of_literal "2001:db8::1" (by decide)
  have hname : PlainHost "example.com" := plainHost_of_name (by decide) (by decide)
  have h := @buildNormalizedHtu_inj .https .https "[2001:db8::1]" "example.com" "/token" "/token"
    (some 443) (some 8443) hliteral hname (by decide) (by decide) (by decide) (by decide)
  exact ⟨h.1, (h.2 8443 (by decide)).1⟩

end Skyauth
