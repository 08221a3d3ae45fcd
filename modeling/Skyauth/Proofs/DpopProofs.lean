import Skyauth.Dpop
import Skyauth.Lib.Fallible

/-!
# Proofs: verifying DPoP proofs

When a proof is accepted, which parts of the result depend on the token alone, and how the
single-phase and the two-phase admission relate.
-/

namespace Skyauth

open Fallible

variable {X : Crates} {v : DPoPVerifier} {proofJwt : String} {e : ProofExpectation}
  {nowOverride : Option SystemTime} {clock clock₁ clock₂ : SystemTime} {claims : DPoPProofClaims}
  {jwk : JwkEc}

/-! ## Comparisons and clocks -/

theorem constantTimeEq_iff {a b : List UInt8} : constantTimeEq a b = true ↔ a = b := by
  unfold constantTimeEq
  constructor
  · intro h
    split at h
    · cases h
    · exact eq_of_beq h
  · rintro rfl
    simp

theorem SystemTime.unixSecs_eq_ok {t : SystemTime} {n : Nat} :
    t.unixSecs = .ok n ↔ 0 ≤ t.nanos ∧ t.nanos.toNat / 1000000000 = n := by
  unfold SystemTime.unixSecs
  split
  · constructor
    · intro h; cases h
    · rintro ⟨h, -⟩; omega
  · simp only [Except.ok.injEq]
    constructor
    · intro h; exact ⟨by omega, h⟩
    · exact fun h => h.2

theorem SystemTime.unixSecs_ofSecs (n : Nat) : (SystemTime.ofSecs n).unixSecs = .ok n := by
  rw [SystemTime.unixSecs_eq_ok]
  simp only [SystemTime.ofSecs]
  omega

/-! ## Thumbprints -/

/-- A thumbprint is base64url text, so it has no colon. -/
theorem colon_notMem_thumbprint (X : Crates) (jwk : JwkEc) : ':' ∉ (jwk.thumbprint X).toList := by
  intro h
  have := Base64.isSymbol_of_mem_encode h
  revert this
  decide

/-! ## Compact tokens -/

/-- What is encoded is decoded. -/
theorem base64urlDecode_encode (X : Crates) (data : List UInt8) :
    base64urlDecode X (base64urlEncode data) = .ok data := by
  unfold base64urlDecode base64urlEncode
  rw [Base64.trim_encode, Base64.decodeNoPad_encode]

/-- The text that is signed. -/
def signingInput (header payload : List UInt8) : String :=
  base64urlEncode header ++ "." ++ base64urlEncode payload

/-- The compact form of a signed token. -/
def compactJwt (header payload signature : List UInt8) : String :=
  signingInput header payload ++ "." ++ base64urlEncode signature

theorem base64urlEncode_inj {data data' : List UInt8} (h : base64urlEncode data = base64urlEncode data') :
    data = data' := by
  have hdecode := Base64.decodeNoPad_encode data
  rw [show Base64.encode data = Base64.encode data' from h, Base64.decodeNoPad_encode] at hdecode
  exact (Option.some.inj hdecode).symm

theorem dot_notMem_encode (data : List UInt8) : '.' ∉ (base64urlEncode data).toList := by
  intro h
  have := Base64.isSymbol_of_mem_encode h
  revert this
  decide

theorem visible_encode {data : List UInt8} {c : Char} (h : c ∈ (base64urlEncode data).toList) :
    33 ≤ c.toNat ∧ c.toNat ≤ 126 :=
  Base64.visible_of_isSymbol (Base64.isSymbol_of_mem_encode h)

theorem visible_compactJwt {header payload signature : List UInt8} {c : Char}
    (h : c ∈ (compactJwt header payload signature).toList) : 33 ≤ c.toNat ∧ c.toNat ≤ 126 := by
  have hdot : c ∈ ".".toList → 33 ≤ c.toNat ∧ c.toNat ≤ 126 := by
    intro h
    obtain rfl : c = '.' := by simpa using h
    decide
  simp only [compactJwt, signingInput, String.toList_append, List.mem_append] at h
  rcases h with (((h | h) | h) | h) | h
  · exact visible_encode h
  · exact hdot h
  · exact visible_encode h
  · exact hdot h
  · exact visible_encode h

theorem trim_compactJwt (header payload signature : List UInt8) :
    Text.trim (compactJwt header payload signature) = compactJwt header payload signature :=
  Text.trim_eq_self fun _ hc => Base64.not_isWhitespace_of_visible (visible_compactJwt hc)

/-- A compact token splits into its three parts. -/
theorem split_compactJwt (header payload signature : List UInt8) :
    Text.split '.' (compactJwt header payload signature) =
      [base64urlEncode header, base64urlEncode payload, base64urlEncode signature] := by
  have hdot : "." = String.singleton '.' := rfl
  rw [compactJwt, signingInput, hdot, Text.split_append, Text.split_append,
    Text.split_eq_singleton (dot_notMem_encode _), Text.split_eq_singleton (dot_notMem_encode _),
    Text.split_eq_singleton (dot_notMem_encode _)]
  rfl

/-- The parts of a signed token are determined by it. -/
theorem compactJwt_injective {header payload signature header' payload' signature' : List UInt8}
    (h : compactJwt header payload signature = compactJwt header' payload' signature') :
    header = header' ∧ payload = payload' ∧ signature = signature' := by
  have hsplit := congrArg (Text.split '.') h
  rw [split_compactJwt, split_compactJwt] at hsplit
  simp only [List.cons.injEq, and_true] at hsplit
  exact ⟨base64urlEncode_inj hsplit.1, base64urlEncode_inj hsplit.2.1, base64urlEncode_inj hsplit.2.2⟩

/-- A point of the curve is read back from its coordinates. -/
theorem toVerifyingKey_encode {key : VerifyingKey}
    (h : X.fromSec1Bytes (0x04 :: (key.x ++ key.y)) = .ok key) :
    JwkEc.toVerifyingKey X { kty := "EC", crv := "P-256", x := base64urlEncode key.x,
                             y := base64urlEncode key.y } = .ok key := by
  simp only [JwkEc.toVerifyingKey, base64urlDecodeFixed, base64urlDecode_encode, bind, Except.bind,
    VerifyingKey.x_length, VerifyingKey.y_length, ne_eq, not_true_eq_false, if_false,
    verifyingKeyFromCoordinates, h]

theorem verifyP256Raw_eq_ok {key : VerifyingKey} {message signature : List UInt8} :
    verifyP256Raw X key message signature = .ok () ↔ signature.length = 64 ∧
      X.signatureFromSlice signature = .ok () ∧ X.ecdsaVerify key message signature = .ok () := by
  unfold verifyP256Raw
  by_cases hlen : signature.length = 64
  · cases hparse : X.signatureFromSlice signature with
    | error e => simp [hlen]
    | ok _ =>
      cases hverify : X.ecdsaVerify key message signature with
      | error e => simp [hlen]
      | ok _ => simp [hlen]
  · simp [hlen]

/-- A compact token decodes when its parts parse, its key is usable and its signature verifies. -/
theorem decodeProof_compactJwt {header payload signature : List UInt8} {headerVal payloadVal : Json}
    {key : VerifyingKey} (hh : X.jsonFromSlice header = .ok headerVal)
    (hj : proofJwk headerVal = .ok jwk) (hk : jwk.toVerifyingKey X = .ok key)
    (hs : verifyP256Raw X key (Text.asBytes (signingInput header payload)) signature = .ok ())
    (hp : X.jsonFromSlice payload = .ok payloadVal)
    (hc : DPoPProofClaims.fromJson payloadVal = .ok claims) :
    decodeProof X (compactJwt header payload signature) = .ok (claims, jwk) := by
  have hs' : verifyP256Raw X key (Text.asBytes (base64urlEncode header ++ "." ++
      base64urlEncode payload)) signature = .ok () := hs
  unfold decodeProof
  rw [trim_compactJwt, split_compactJwt]
  simp only [base64urlDecode_encode, Fallible.mapError_ok, bind, Except.bind, hh, hj, hk, hs', hp, hc]
  rfl

/-! ## Acceptance -/

theorem checkJti_eq_ok : checkJti claims = .ok () ↔
    Text.trim claims.jti ≠ "" ∧ (Text.asBytes claims.jti).length ≤ MAX_JTI_LENGTH := by
  unfold checkJti
  by_cases hblank : Text.trim claims.jti = ""
  · simp [hblank]
  · by_cases hlong : MAX_JTI_LENGTH < (Text.asBytes claims.jti).length
    · simp [hblank, hlong]
    · simp [hblank, hlong, Nat.not_lt.1 hlong]

theorem checkTarget_eq_ok {htm htu : String} : checkTarget X claims htm htu = .ok () ↔
    Text.eqIgnoreAsciiCase claims.htm htm = true ∧
      ∃ normalized, normalizeHtu X htu = .ok normalized ∧ normalizeHtu X claims.htu = .ok normalized := by
  unfold checkTarget
  cases Text.eqIgnoreAsciiCase claims.htm htm with
  | false => simp [bind, Except.bind]
  | true =>
    cases normalizeHtu X htu with
    | error err => simp [bind, Except.bind]
    | ok expected =>
      cases normalizeHtu X claims.htu with
      | error err => simp [bind, Except.bind]
      | ok actual =>
        by_cases h : actual = expected
        · simp [bind, Except.bind, pure, Except.pure, h]
        · simp [bind, Except.bind, h]

/-- Nothing is asked for, or just what there is. -/
theorem checkBound_eq_ok {expected actual : Option String} {mismatch : String → String → DPoPError}
    {missing : DPoPError} :
    checkBound expected actual mismatch missing = .ok () ↔ expected = none ∨ expected = actual := by
  unfold checkBound
  cases expected with
  | none => simp
  | some e =>
    cases actual with
    | none => simp
    | some a =>
      by_cases h : e = a
      · simp [h, constantTimeEq_iff.2]
      · have hne : constantTimeEq (Text.asBytes e) (Text.asBytes a) ≠ true := fun heq =>
          h (Text.asBytes_inj.1 (constantTimeEq_iff.1 heq))
        simp [h, hne]

/-- A proof passes `verify_proof_no_replay` when it decodes and passes every check. -/
theorem verifyProofNoReplay_eq_ok :
    v.verifyProofNoReplay X proofJwt e nowOverride clock = .ok (claims, jwk) ↔
      decodeProof X proofJwt = .ok (claims, jwk) ∧ checkJti claims = .ok () ∧
      checkTarget X claims e.htm e.htu = .ok () ∧ checkNonce claims e.nonce = .ok () ∧
      checkAth claims e.ath = .ok () ∧
      ∃ now, (nowOverride.getD clock).unixSecs = .ok now ∧ v.checkTime claims now = .ok () := by
  unfold DPoPVerifier.verifyProofNoReplay
  simp only [bind_eq_ok, mapError_eq_ok, pure_eq_ok, Prod.exists, Prod.mk.injEq]
  constructor
  · rintro ⟨c, j, hd, ⟨⟩, h1, ⟨⟩, h2, ⟨⟩, h3, ⟨⟩, h4, now, hn, ⟨⟩, h5, rfl, rfl⟩
    exact ⟨hd, h1, h2, h3, h4, now, hn, h5⟩
  · rintro ⟨hd, h1, h2, h3, h4, now, hn, h5⟩
    exact ⟨claims, jwk, hd, (), h1, (), h2, (), h3, (), h4, now, hn, (), h5, rfl, rfl⟩

/-- What an accepted proof says depends on the token alone. -/
theorem decodeProof_of_verifyProofNoReplay
    (h : v.verifyProofNoReplay X proofJwt e nowOverride clock = .ok (claims, jwk)) :
    decodeProof X proofJwt = .ok (claims, jwk) :=
  (verifyProofNoReplay_eq_ok.1 h).1

/-- The time checks pass exactly in the window around `iat` and up to `exp`. -/
theorem checkTime_eq_ok {now : Nat} :
    v.checkTime claims now = .ok () ↔
      claims.iat ≤ saturatingAdd now v.maxClockSkew.asSecs ∧
      now - claims.iat ≤ v.maxProofAge.asSecs ∧
      ∀ exp, claims.exp = some exp → now ≤ saturatingAdd exp v.maxClockSkew.asSecs := by
  unfold DPoPVerifier.checkTime
  simp only []
  split
  · simp; omega
  · split
    · simp; omega
    · cases hexp : claims.exp with
      | none => simp; omega
      | some exp =>
        simp only [Option.some.injEq, forall_eq']
        split
        · simp; omega
        · simp; omega

/-- A deferred verification that succeeds returns the admission of the decoded proof at its second
    clock reading. -/
theorem verifyProofDeferred_eq_ok {a : ReplayAdmission} :
    v.verifyProofDeferred X proofJwt e nowOverride clock₁ clock₂ = .ok (claims, jwk, a) ↔
      v.verifyProofNoReplay X proofJwt e nowOverride clock₁ = .ok (claims, jwk) ∧
      ∃ now, clock₂.unixSecs = .ok now ∧
        a = { jkt := jwk.thumbprint X, jti := claims.jti, expiresAt := v.expiresAt now, now := now } := by
  unfold DPoPVerifier.verifyProofDeferred
  simp only [bind_eq_ok, mapError_eq_ok, pure_eq_ok, Prod.exists, Prod.mk.injEq]
  constructor
  · rintro ⟨c, j, h, now, hn, rfl, rfl, rfl⟩
    exact ⟨h, now, hn, rfl⟩
  · rintro ⟨h, now, hn, rfl⟩
    exact ⟨claims, jwk, h, now, hn, rfl, rfl, rfl⟩

/-- `verify_proof` is `verify_proof_deferred` with the admission committed at once. -/
theorem verifyProof_eq (X : Crates) (v : DPoPVerifier) (proofJwt : String) (e : ProofExpectation)
    (nowOverride : Option SystemTime) (clock₁ clock₂ : SystemTime) :
    v.verifyProof X proofJwt e nowOverride clock₁ clock₂ =
      match v.verifyProofDeferred X proofJwt e nowOverride clock₁ clock₂ with
      | .error err => (.error err, v)
      | .ok (claims, jwk, a) =>
        ((v.commitReplayAdmission a).1.map fun _ => (claims, jwk), (v.commitReplayAdmission a).2) := by
  unfold DPoPVerifier.verifyProof DPoPVerifier.verifyProofDeferred
  cases v.verifyProofNoReplay X proofJwt e nowOverride clock₁ with
  | error err => rfl
  | ok p =>
    obtain ⟨claims, jwk⟩ := p
    cases clock₂.unixSecs with
    | error err => rfl
    | ok now =>
      simp only [Fallible.ok_bind, Fallible.mapError_ok, pure, Except.pure,
        DPoPVerifier.commitReplayAdmission]
      rcases v.record (jwk.thumbprint X) claims.jti (v.expiresAt now) now with ⟨_ | ⟨⟩, v'⟩ <;> rfl

/-- A replay entry outlives the acceptance of a proof except for one second: a proof accepted at
    `now₂` that still passes the time checks once its entry has expired was dated `skew` ahead, and
    the clock shows the last second of its age. -/
theorem iat_eq_of_checkTime_after_expiry {now₁ now₂ now : Nat} (h12 : now₁ ≤ now₂)
    (hsat : now₂ + v.maxProofAge.asSecs + v.maxClockSkew.asSecs ≤ U64_MAX)
    (h1 : v.checkTime claims now₁ = .ok ()) (he : v.expiresAt now₂ ≤ now)
    (h : v.checkTime claims now = .ok ()) :
    claims.iat = now₂ + v.maxClockSkew.asSecs ∧ now = claims.iat + v.maxProofAge.asSecs := by
  obtain ⟨hfuture, -, -⟩ := checkTime_eq_ok.1 h1
  obtain ⟨-, hage, -⟩ := checkTime_eq_ok.1 h
  simp only [saturatingAdd, DPoPVerifier.expiresAt] at hfuture he
  omega

/-! ## The token request proof of the repository's tests -/

/-- The public key of the proof. -/
def sampleVerifyingKey : VerifyingKey where
  x := [151, 203, 69, 174, 28, 126, 223, 139, 85, 222, 20, 72, 9, 16, 216, 247, 48, 164, 14, 90, 65,
    132, 94, 54, 81, 5, 31, 89, 80, 22, 4, 91]
  y := [245, 81, 56, 141, 255, 206, 147, 250, 58, 227, 54, 211, 78, 87, 46, 52, 150, 163, 30, 107,
    122, 191, 212, 195, 86, 181, 52, 9, 219, 198, 68, 48]
  x_length := rfl
  y_length := rfl

/-- The key of the proof in JWK form. -/
def sampleJwk : JwkEc where
  kty := "EC"
  crv := "P-256"
  x := base64urlEncode sampleVerifyingKey.x
  y := base64urlEncode sampleVerifyingKey.y

/-- The claims of the proof. -/
def sampleClaims : DPoPProofClaims where
  jti := "-BwC3ESc6acc2lTc"
  htm := "POST"
  htu := "https://server.example.com/token"
  iat := 1562262616
  exp := none
  nonce := none
  ath := none

/-- The header document of the proof, with the coordinates of its key. -/
def sampleHeaderVal (x y : String) : Json :=
  .obj [("typ", .str "dpop+jwt"), ("alg", .str "ES256"),
    ("jwk", .obj [("kty", .str "EC"), ("x", .str x), ("y", .str y), ("crv", .str "P-256")])]

/-- The header of the proof, as its bytes and as the document they hold. -/
def sampleHeader : List UInt8 × Json :=
  (Text.asBytes ("\x7b\"typ\":\"dpop+jwt\",\"alg\":\"ES256\",\"jwk\":\x7b\"kty\":\"EC\",\"x\":\"" ++
      sampleJwk.x ++ "\",\"y\":\"" ++ sampleJwk.y ++ "\",\"crv\":\"P-256\"\x7d\x7d"),
    sampleHeaderVal sampleJwk.x sampleJwk.y)

/-- The payload of the proof, as its bytes and as the document they hold. -/
def samplePayload : List UInt8 × Json :=
  (Text.asBytes ("\x7b\"jti\":\"-BwC3ESc6acc2lTc\",\"htm\":\"POST\"," ++
      "\"htu\":\"https://server.example.com/token\",\"iat\":1562262616\x7d"),
    .obj [("jti", .str "-BwC3ESc6acc2lTc"), ("htm", .str "POST"),
      ("htu", .str "https://server.example.com/token"), ("iat", .int 1562262616)])

/-- The signature of the proof. -/
def sampleSignature : List UInt8 := 
  [219, 225, 177, 3, 164, 252, 148, 254, 47, 126, 184, 60, 191, 225, 93, 88, 253, 0, 211, 55,
    107, 143, 200, 160, 136, 194, 239, 169, 19, 20, 191, 9, 208, 131, 131, 237, 20, 182, 221, 45,
    120, 142, 74, 197, 244, 199, 179, 85, 99, 225, 77, 200, 146, 187, 210, 119, 219, 87, 126, 241,
    69, 148, 247, 46]

/-- The proof `test_rfc9449_figure2_token_request_vector` verifies. -/
def sampleProof : String := compactJwt sampleHeader.1 samplePayload.1 sampleSignature

/-- JSON parsing on the documents of the proof. -/
def sampleJson (bytes : List UInt8) : Except String Json :=
  if bytes = sampleHeader.1 then .ok sampleHeader.2
  else if bytes = samplePayload.1 then .ok samplePayload.2
  else .error "expected value at line 1 column 1"

/-- Signature verification on the proof. -/
def sampleVerify (key : VerifyingKey) (message signature : List UInt8) : Except String Unit :=
  if key = sampleVerifyingKey ∧ message = Text.asBytes (signingInput sampleHeader.1 samplePayload.1)
    ∧ signature = sampleSignature then .ok () else .error "signature error"

/-- The external functions as they behave on the proof. -/
def sampleCrates : Crates where
  sha256 := fun _ =>
    [209, 151, 14, 8, 228, 89, 53, 140, 190, 13, 106, 106, 171, 125, 35, 103, 34, 70, 29, 51, 116,
      119, 97, 224, 148, 21, 119, 186, 40, 46, 3, 130]
  verifyingKey := fun _ => sampleVerifyingKey
  fromSec1Bytes := fun bytes =>
    if bytes = 0x04 :: (sampleVerifyingKey.x ++ sampleVerifyingKey.y) then .ok sampleVerifyingKey
    else .error "signature error"
  ecdsaSign := fun _ _ => sampleSignature
  signatureFromSlice := fun _ => .ok ()
  ecdsaVerify := sampleVerify
  jsonFromSlice := sampleJson
  jsonToString := fun _ => .error "key must be a string"
  urlParse := fun s =>
    if s = "https://server.example.com/token" then
      .ok { scheme := "https", hostStr := some "server.example.com", port := none, path := "/token",
            origin := "https://server.example.com" }
    else .error "relative URL without a base"
  base64Error := fun _ => "Invalid padding"
  unicodeUpper := fun c => [c]

theorem samplePayload_ne_sampleHeader : samplePayload.1 ≠ sampleHeader.1 := by
  intro h
  have h2 : (samplePayload.1.drop 2).head? = (sampleHeader.1.drop 2).head? := by rw [h]
  revert h2
  decide

theorem toVerifyingKey_sampleJwk : sampleJwk.toVerifyingKey sampleCrates = .ok sampleVerifyingKey := by
  have hpoint : sampleCrates.fromSec1Bytes (0x04 :: (sampleVerifyingKey.x ++ sampleVerifyingKey.y)) =
      .ok sampleVerifyingKey := by
    simp only [sampleCrates, if_true]
  exact toVerifyingKey_encode hpoint

theorem proofJwk_sampleHeaderVal (x y : String) :
    proofJwk (sampleHeaderVal x y) = .ok { kty := "EC", crv := "P-256", x := x, y := y } := rfl

theorem decodeProof_sample : decodeProof sampleCrates sampleProof = .ok (sampleClaims, sampleJwk) := by
  have hheader : sampleCrates.jsonFromSlice sampleHeader.1 = .ok sampleHeader.2 := by
    simp only [sampleCrates, sampleJson, if_true]
  have hpayload : sampleCrates.jsonFromSlice samplePayload.1 = .ok samplePayload.2 := by
    simp only [sampleCrates, sampleJson, if_neg samplePayload_ne_sampleHeader, if_true]
  have hverify : sampleCrates.ecdsaVerify sampleVerifyingKey
      (Text.asBytes (signingInput sampleHeader.1 samplePayload.1)) sampleSignature = .ok () := by
    simp only [sampleCrates, sampleVerify, and_self, if_true]
  have hsig : verifyP256Raw sampleCrates sampleVerifyingKey
      (Text.asBytes (signingInput sampleHeader.1 samplePayload.1)) sampleSignature = .ok () :=
    verifyP256Raw_eq_ok.2 ⟨rfl, rfl, hverify⟩
  have hclaims : DPoPProofClaims.fromJson samplePayload.2 = .ok sampleClaims := rfl
  rw [sampleProof]
  exact decodeProof_compactJwt hheader (proofJwk_sampleHeaderVal _ _) toVerifyingKey_sampleJwk hsig
    hpayload hclaims

/-- What the endpoint of the sample expects. -/
def sampleExpectation : ProofExpectation where
  htm := "POST"
  htu := "https://server.example.com/token"
  nonce := none
  ath := none

/-- With the default tolerances the sample is valid from 60 s before to 300 s after its date. -/
theorem verifyProofNoReplay_sample {n : Nat} (hs : v.maxClockSkew = DEFAULT_CLOCK_SKEW_LEEWAY)
    (ha : v.maxProofAge = DEFAULT_MAX_PROOF_AGE) (h1 : 1562262556 ≤ n) (h2 : n ≤ 1562262916) :
    v.verifyProofNoReplay sampleCrates sampleProof sampleExpectation none (SystemTime.ofSecs n) =
      .ok (sampleClaims, sampleJwk) := by
  have hjti : checkJti sampleClaims = .ok () :=
    checkJti_eq_ok.2 ⟨by decide, by decide⟩
  refine verifyProofNoReplay_eq_ok.2 ⟨decodeProof_sample, hjti, by decide +kernel, rfl, rfl, n,
    SystemTime.unixSecs_ofSecs n, checkTime_eq_ok.2 ?_⟩
  have hskew : DEFAULT_CLOCK_SKEW_LEEWAY.asSecs = 60 := by decide
  have hage : DEFAULT_MAX_PROOF_AGE.asSecs = 300 := by decide
  simp only [hs, ha, hskew, hage, sampleClaims, saturatingAdd, U64_MAX]
  exact ⟨by omega, by omega, by simp⟩

end Skyauth
