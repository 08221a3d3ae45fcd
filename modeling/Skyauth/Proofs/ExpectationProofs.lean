import Skyauth.Proofs.RoundTripProofs

/-!
# Proofs: which expectations a created proof meets

A proof that `create_proof_internal` made is accepted by `verify_proof_no_replay` for its method in any
case, its target in any form with the same normal form, and its nonce and access token hash or none, in
the window of time around its creation.
-/

namespace Skyauth

variable {X : Crates}

/-! ## Normal forms -/

/-- `Url::parse` reads a normal form back into the components it was built from. -/
def Reparses (X : Crates) (htu normalizedHtu : String) : Prop :=
  ∀ parsed host, X.urlParse (Text.trim htu) = .ok parsed → parsed.hostStr = some host →
    ∃ parsed', X.urlParse (Text.trim normalizedHtu) = .ok parsed' ∧ parsed'.scheme = parsed.scheme ∧
      parsed'.hostStr = some (Text.toAsciiLowercase host) ∧ parsed'.port = parsed.port ∧
      parsed'.path = if parsed.path = "" then "/" else parsed.path

theorem normalizeHtu_eq_ok {htu normalizedHtu : String} : normalizeHtu X htu = .ok normalizedHtu ↔
    Text.trim htu ≠ "" ∧ ∃ parsed scheme host, X.urlParse (Text.trim htu) = .ok parsed ∧
      HtuScheme.parse parsed.scheme = some scheme ∧ parsed.hostStr = some host ∧
      buildNormalizedHtu scheme (Text.toAsciiLowercase host) parsed.port
        (if parsed.path = "" then "/" else parsed.path) = normalizedHtu := by
  unfold normalizeHtu
  by_cases hempty : Text.trim htu = ""
  · simp [hempty]
  · cases hparse : X.urlParse (Text.trim htu) with
    | error err => simp [hempty, hparse]
    | ok parsed =>
      cases hscheme : HtuScheme.parse parsed.scheme with
      | none => simp [hempty, hparse, hscheme]
      | some scheme =>
        cases hhost : parsed.hostStr with
        | none => simp [hempty, hparse, hscheme, hhost]
        | some host => simp [hempty, hparse, hscheme, hhost]

theorem trim_buildNormalizedHtu_ne_empty (scheme : HtuScheme) (host : String) (port : Option Nat)
    (path : String) : Text.trim (buildNormalizedHtu scheme host port path) ≠ "" := by
  rw [ne_eq, Text.trim_eq_empty_iff]
  intro h
  have hcolon : ':' ∈ (buildNormalizedHtu scheme host port path).toList := by
    simp [buildNormalizedHtu]
  have := h _ hcolon
  revert this
  decide

/-- A normal form is its own. -/
theorem normalizeHtu_normalized {htu normalizedHtu : String} (h : normalizeHtu X htu = .ok normalizedHtu)
    (hreparse : Reparses X htu normalizedHtu) : normalizeHtu X normalizedHtu = .ok normalizedHtu := by
  obtain ⟨-, parsed, scheme, host, hparse, hscheme, hhost, hbuild⟩ := normalizeHtu_eq_ok.1 h
  obtain ⟨parsed', hparse', hscheme', hhost', hport', hpath'⟩ := hreparse parsed host hparse hhost
  have hpath : (if parsed'.path = "" then "/" else parsed'.path) =
      if parsed.path = "" then "/" else parsed.path := by
    rw [hpath']
    split <;> simp [*]
  refine normalizeHtu_eq_ok.2 ⟨?_, parsed', scheme, _, hparse', by rw [hscheme', hscheme], hhost', ?_⟩
  · rw [← hbuild]
    exact trim_buildNormalizedHtu_ne_empty _ _ _ _
  · rw [Text.toAsciiLowercase_toAsciiLowercase, hport', hpath, hbuild]

/-! ## Methods -/

/-- The upper case of an ASCII method is the method up to case. -/
theorem eqIgnoreAsciiCase_toUppercase {htm : String} (hascii : ∀ c ∈ htm.toList, c.toNat < 128)
    (other : String) :
    Text.eqIgnoreAsciiCase (X.toUppercase htm) other = Text.eqIgnoreAsciiCase htm other := by
  have hupper : (X.toUppercase htm).toList = htm.toList.map Char.toUpper := by
    rw [Crates.toUppercase, String.toList_ofList, ← List.flatMap_pure_eq_map]
    exact List.flatMap_congr fun c hc => if_pos (hascii c hc)
  have hlower : (X.toUppercase htm).toList.map Char.toLower = htm.toList.map Char.toLower := by
    rw [hupper, List.map_map]
    exact List.map_congr_left fun c _ => Text.toLower_toUpper c
  rw [Text.eqIgnoreAsciiCase, hlower, Text.eqIgnoreAsciiCase]

/-! ## Expectations -/

/-- Text that a claim carries as it is. -/
def IsTrimmed (o : Option String) : Prop := ∀ s, o = some s → s ≠ "" ∧ Text.trim s = s

theorem IsTrimmed.extract_eq {o : Option String} (h : IsTrimmed o) : extractDpopNonce o = o := by
  cases o with
  | none => rfl
  | some s =>
    obtain ⟨hne, htrim⟩ := h s rfl
    rw [extractDpopNonce, Option.bind_some, htrim, if_neg hne]

/-- The window of time of a created proof, in unbounded numbers: the saturation never shows, since `iat`
    is at most the largest number. -/
theorem checkTime_createdClaims {v : DPoPVerifier} {jti htm htu : String} {nonce ath : Option String}
    {iatSecs now : Nat} (hiat : iatSecs < 2 ^ 64) :
    v.checkTime (createdClaims jti htm htu nonce ath iatSecs) now = .ok () ↔
      iatSecs ≤ now + v.maxClockSkew.asSecs ∧ now ≤ iatSecs + v.maxProofAge.asSecs := by
  rw [checkTime_eq_ok]
  simp only [createdClaims, saturatingAdd, U64_MAX]
  constructor
  · rintro ⟨hfuture, hage, -⟩
    omega
  · rintro ⟨hfuture, hage⟩
    refine ⟨by omega, by omega, ?_⟩
    intro exp h
    cases h

/-- What a proof with these claims is accepted for. -/
theorem verify_created_iff {v : DPoPVerifier} {proofJwt jti htm normalizedHtu : String} {jwk : JwkEc}
    {e : ProofExpectation} {nonce ath : Option String} {iatSecs now : Nat}
    {nowOverride : Option SystemTime} {clock : SystemTime} {result : DPoPProofClaims × JwkEc}
    (hdecode : decodeProof X proofJwt =
      .ok (createdClaims jti htm normalizedHtu nonce ath iatSecs, jwk))
    (hnormal : normalizeHtu X normalizedHtu = .ok normalizedHtu) (hnonce : IsTrimmed nonce)
    (hath : IsTrimmed ath) (hjti : Text.trim jti ≠ "")
    (hlen : (Text.asBytes jti).length ≤ MAX_JTI_LENGTH) (hiat : iatSecs < 2 ^ 64)
    (hclock : (nowOverride.getD clock).unixSecs = .ok now) :
    v.verifyProofNoReplay X proofJwt e nowOverride clock = .ok result ↔
      result = (createdClaims jti htm normalizedHtu nonce ath iatSecs, jwk) ∧
      Text.eqIgnoreAsciiCase htm e.htm = true ∧ normalizeHtu X e.htu = .ok normalizedHtu ∧
      (e.nonce = none ∨ e.nonce = nonce) ∧ (e.ath = none ∨ e.ath = ath) ∧
      iatSecs ≤ now + v.maxClockSkew.asSecs ∧ now ≤ iatSecs + v.maxProofAge.asSecs := by
  have htarget : checkTarget X (createdClaims jti htm normalizedHtu nonce ath iatSecs) e.htm e.htu =
      .ok () ↔ Text.eqIgnoreAsciiCase htm e.htm = true ∧ normalizeHtu X e.htu = .ok normalizedHtu := by
    rw [checkTarget_eq_ok]
    refine and_congr_right fun _ => ⟨?_, fun h => ⟨_, h, hnormal⟩⟩
    rintro ⟨normalized, hexpected, hclaim⟩
    obtain rfl : normalizedHtu = normalized := Except.ok.inj (hnormal.symm.trans hclaim)
    exact hexpected
  have hnonceCheck : checkNonce (createdClaims jti htm normalizedHtu nonce ath iatSecs) e.nonce = .ok () ↔
      e.nonce = none ∨ e.nonce = nonce := by
    rw [checkNonce, checkBound_eq_ok, createdClaims, hnonce.extract_eq]
  have hathCheck : checkAth (createdClaims jti htm normalizedHtu nonce ath iatSecs) e.ath = .ok () ↔
      e.ath = none ∨ e.ath = ath := by
    rw [checkAth, checkBound_eq_ok, createdClaims, hath.extract_eq]
  obtain ⟨claims, jwk'⟩ := result
  rw [verifyProofNoReplay_eq_ok, hdecode]
  simp only [Except.ok.injEq, Prod.mk.injEq]
  constructor
  · rintro ⟨⟨rfl, rfl⟩, -, htarget', hnonce', hath', now', hclock', htime⟩
    obtain rfl : now = now' := Except.ok.inj (hclock.symm.trans hclock')
    obtain ⟨hmethod, huri⟩ := htarget.1 htarget'
    exact ⟨⟨rfl, rfl⟩, hmethod, huri, hnonceCheck.1 hnonce', hathCheck.1 hath',
      (checkTime_createdClaims hiat).1 htime⟩
  · rintro ⟨⟨rfl, rfl⟩, hmethod, huri, hnonce', hath', htime⟩
    exact ⟨⟨rfl, rfl⟩, checkJti_eq_ok.2 ⟨hjti, hlen⟩, htarget.2 ⟨hmethod, huri⟩, hnonceCheck.2 hnonce',
      hathCheck.2 hath', now, hclock, (checkTime_createdClaims hiat).2 htime⟩

/-- A created proof verifies exactly for the method, the target, the nonce and the access token hash it
    was created with, where an expected nonce or hash of `None` asks for nothing, and within the window
    of time; the key that is returned is the one that signed it. -/
theorem created_proof_accepted_iff {key : DPoPKey} {htm htu normalizedHtu headerStr payloadStr jti : String}
    {nonce ath : Option String} {iatSecs : Nat} {jtiBytes : List UInt8}
    (hascii : ∀ c ∈ htm.toList, c.toNat < 128) (htrim : Text.trim htm = htm)
    (hhtu : normalizeHtu X htu = .ok normalizedHtu) (hreparse : Reparses X htu normalizedHtu)
    (hnonce : IsTrimmed nonce) (hath : IsTrimmed ath) (hjti : Text.trim jti ≠ "")
    (hlen : (Text.asBytes jti).length ≤ MAX_JTI_LENGTH) (hiat : iatSecs < 2 ^ 64)
    (hsign : SignsProof X key (proofHeader (key.publicJwk X))
      (proofPayload jti (X.toUppercase (Text.trim htm)) normalizedHtu nonce ath iatSecs) headerStr
      payloadStr) :
    ∃ proofJwt, key.createProofInternal X htm htu nonce ath iatSecs (some jti) jtiBytes = .ok proofJwt ∧
      ∀ (v : DPoPVerifier) (e : ProofExpectation) (nowOverride : Option SystemTime) (clock : SystemTime)
        (now : Nat), (nowOverride.getD clock).unixSecs = .ok now →
        ((∃ claims jwk, v.verifyProofNoReplay X proofJwt e nowOverride clock = .ok (claims, jwk)) ↔
          Text.eqIgnoreAsciiCase htm e.htm = true ∧ normalizeHtu X e.htu = .ok normalizedHtu ∧
          (e.nonce = none ∨ e.nonce = nonce) ∧ (e.ath = none ∨ e.ath = ath) ∧
          iatSecs ≤ now + v.maxClockSkew.asSecs ∧ now ≤ iatSecs + v.maxProofAge.asSecs) ∧
        ∀ claims jwk, v.verifyProofNoReplay X proofJwt e nowOverride clock = .ok (claims, jwk) →
          jwk.thumbprint X = key.jwkThumbprint X := by
  have hoverride : (some jti).getD (base64urlEncode jtiBytes) = jti := rfl
  obtain ⟨proofJwt, hcreate, -, hdecode⟩ := createProofInternal_spec hoverride hiat hhtu hsign
  refine ⟨proofJwt, hcreate, fun v e nowOverride clock now hclock => ?_⟩
  have hverify := fun result => @verify_created_iff X v proofJwt jti _ normalizedHtu _ e nonce ath iatSecs
    now nowOverride clock result hdecode (normalizeHtu_normalized hhtu hreparse) hnonce hath hjti hlen hiat
    hclock
  rw [htrim, eqIgnoreAsciiCase_toUppercase hascii] at hverify
  constructor
  · constructor
    · rintro ⟨claims, jwk, hok⟩
      exact ((hverify _).1 hok).2
    · intro hexpect
      exact ⟨_, _, (hverify _).2 ⟨rfl, hexpect⟩⟩
  · intro claims jwk hok
    obtain ⟨heq, -⟩ := (hverify _).1 hok
    rw [(Prod.mk.inj heq).2]
    rfl

namespace ClientSample

theorem normalizeHtu_url : normalizeHtu crates url = .ok url := by rfl

theorem reparses_url : Reparses crates url url := by
  intro parsed host hparse hhost
  rw [show Text.trim url = url from rfl] at hparse ⊢
  obtain rfl : parsedUrl = parsed := Except.ok.inj (urlParse_url.symm.trans hparse)
  obtain rfl : "pds.example.com" = host := Option.some.inj hhost
  exact ⟨parsedUrl, hparse, rfl, rfl, rfl, rfl⟩

theorem isTrimmed_some {s : String} (h : IsCarried s) : IsTrimmed (some s) := by
  rintro t ⟨⟩
  exact ⟨h.ne_empty, h.trim_eq⟩

theorem isTrimmed_nonce : IsTrimmed (some nonce) := isTrimmed_some (isCarried_encode (by decide))

theorem isTrimmed_ath : IsTrimmed (some ath) := isTrimmed_some (isCarried_encode (by decide))

theorem jti_spec : Text.trim (base64urlEncode secondJti) ≠ "" ∧
    (Text.asBytes (base64urlEncode secondJti)).length ≤ MAX_JTI_LENGTH := by
  have hlen : secondJti.length = 16 := rfl
  have hcheck := checkJti_eq_ok.1 (checkJti_createdClaims hlen "GET" url none none iatSecs)
  exact hcheck

theorem signsProof_nonce : SignsProof crates key (proofHeader (key.publicJwk crates))
    (proofPayload (base64urlEncode secondJti) (crates.toUppercase (Text.trim "GET")) url (some nonce)
      (some ath) iatSecs) headerStr (payloadStr (some nonce)) := by
  rw [show crates.toUppercase (Text.trim "GET") = "GET" from rfl]
  exact signsProof (some nonce) (Or.inr rfl)

end ClientSample

/-- A verifier with the default window. -/
def windowVerifier : DPoPVerifier where
  maxClockSkew := DEFAULT_CLOCK_SKEW_LEEWAY
  maxProofAge := DEFAULT_MAX_PROOF_AGE
  replayCache := none

open ClientSample in
/-- A proof with a nonce is accepted where no nonce is expected. -/
theorem nonce_not_expected_accepted : ∃ proofJwt result,
    key.createProofInternal crates "GET" url (some nonce) (some ath) iatSecs
      (some (base64urlEncode secondJti)) [] = .ok proofJwt ∧
    windowVerifier.verifyProofNoReplay crates proofJwt
      { htm := "GET", htu := url, nonce := none, ath := some ath } none
      (SystemTime.ofSecs iatSecs) = .ok result := by
  have hoverride : (some (base64urlEncode secondJti)).getD (base64urlEncode []) =
      base64urlEncode secondJti := rfl
  have hclock : (none.getD (SystemTime.ofSecs iatSecs)).unixSecs = .ok iatSecs :=
    SystemTime.unixSecs_ofSecs iatSecs
  have hmethod : Text.eqIgnoreAsciiCase (crates.toUppercase (Text.trim "GET")) "GET" = true := rfl
  obtain ⟨proofJwt, hcreate, -, hdecode⟩ := createProofInternal_spec hoverride (by decide)
    normalizeHtu_url signsProof_nonce
  exact ⟨proofJwt, _, hcreate, (verify_created_iff hdecode normalizeHtu_url isTrimmed_nonce isTrimmed_ath
    jti_spec.1 jti_spec.2 (by decide) hclock).2 ⟨rfl, hmethod, normalizeHtu_url, Or.inl rfl, Or.inr rfl,
      Nat.le_add_right _ _, Nat.le_add_right _ _⟩⟩

open ClientSample in
theorem created_proof_accepted_sample : ∃ proofJwt claims jwk,
    key.createProofInternal crates "GET" url (some nonce) (some ath) iatSecs
      (some (base64urlEncode secondJti)) [] = .ok proofJwt ∧
    windowVerifier.verifyProofNoReplay crates proofJwt
      { htm := "get", htu := url, nonce := some nonce, ath := some ath } none
      (SystemTime.ofSecs iatSecs) = .ok (claims, jwk) ∧
    jwk.thumbprint crates = key.jwkThumbprint crates := by
  have hclock : (none.getD (SystemTime.ofSecs iatSecs)).unixSecs = .ok iatSecs :=
    SystemTime.unixSecs_ofSecs iatSecs
  have hascii : ∀ c ∈ "GET".toList, c.toNat < 128 := by simp
  obtain ⟨proofJwt, hcreate, hverify⟩ := @created_proof_accepted_iff crates key "GET" url url _ _ _ _ _ _ []
    hascii rfl normalizeHtu_url reparses_url isTrimmed_nonce isTrimmed_ath jti_spec.1
    jti_spec.2 (by decide) signsProof_nonce
  obtain ⟨hiff, hkey⟩ := hverify windowVerifier
    { htm := "get", htu := url, nonce := some nonce, ath := some ath } none (SystemTime.ofSecs iatSecs)
    iatSecs hclock
  obtain ⟨claims, jwk, hok⟩ := hiff.2 ⟨rfl, normalizeHtu_url, Or.inr rfl, Or.inr rfl,
    Nat.le_add_right _ _, Nat.le_add_right _ _⟩
  exact ⟨proofJwt, claims, jwk, hcreate, hok, hkey claims jwk hok⟩

end Skyauth
