import Skyauth.Proofs.DpopProofs

/-!
# Proofs: a created proof verifies

What `create_proof` writes, `verify_proof_no_replay` reads back: the key and the claims of a decoded
proof are those it was created with. The JSON printer and parser and the signature scheme are taken
to do their job on the documents of the proof at hand (`SignsProof`).
-/

namespace Skyauth

section Created

variable {X : Crates} {key : DPoPKey}

/-- The claims of a proof created with these arguments. -/
def createdClaims (jti htm htu : String) (nonce ath : Option String) (iatSecs : Nat) :
    DPoPProofClaims where
  jti := jti
  htm := htm
  htu := htu
  iat := iatSecs
  exp := none
  nonce := extractDpopNonce nonce
  ath := extractDpopNonce ath

/-- The external functions do their job on a proof with this header and payload: what is printed
    parses back, the public key is a point of the curve, and what is signed verifies. -/
structure SignsProof (X : Crates) (key : DPoPKey) (header payload : Json) (headerStr payloadStr : String) :
    Prop where
  print_header : X.jsonToString header = .ok headerStr
  print_payload : X.jsonToString payload = .ok payloadStr
  parse_header : X.jsonFromSlice (Text.asBytes headerStr) = .ok header
  parse_payload : X.jsonFromSlice (Text.asBytes payloadStr) = .ok payload
  point : X.fromSec1Bytes (0x04 :: ((X.verifyingKey key.signingKey).x ++
    (X.verifyingKey key.signingKey).y)) = .ok (X.verifyingKey key.signingKey)
  signs : let message := Text.asBytes (signingInput (Text.asBytes headerStr) (Text.asBytes payloadStr))
    let signature := X.ecdsaSign key.signingKey message
    signature.length = 64 ∧ X.signatureFromSlice signature = .ok () ∧
      X.ecdsaVerify (X.verifyingKey key.signingKey) message signature = .ok ()

theorem proofJwk_proofHeader (x y : String) :
    proofJwk (proofHeader { kty := "EC", crv := "P-256", x := x, y := y }) =
      .ok { kty := "EC", crv := "P-256", x := x, y := y } := rfl

theorem toVerifyingKey_publicJwk
    (h : X.fromSec1Bytes (0x04 :: ((X.verifyingKey key.signingKey).x ++
      (X.verifyingKey key.signingKey).y)) = .ok (X.verifyingKey key.signingKey)) :
    (key.publicJwk X).toVerifyingKey X = .ok (X.verifyingKey key.signingKey) :=
  toVerifyingKey_encode h

theorem toU64Field_natCast {n : Nat} (h : n < 2 ^ 64) : Json.toU64Field (.int n) = .ok n := by
  have h : (0 : Int) ≤ n ∧ (n : Int) < 2 ^ 64 := by omega
  simp only [Json.toU64Field, h, and_self, if_true, Int.toNat_natCast]

/-- An object is a set of claims when each member it has is of its field's type. -/
theorem fromJson_obj {members : List (String × Json)} {jti htm htu : String} {iatSecs : Nat}
    {nonce ath : Option String} (hjti : Json.member members "jti" = .ok (some (.str jti)))
    (hhtm : Json.member members "htm" = .ok (some (.str htm)))
    (hhtu : Json.member members "htu" = .ok (some (.str htu)))
    (hiat : Json.member members "iat" = .ok (some (.int iatSecs)))
    (hexp : Json.member members "exp" = .ok none)
    (hnonce : Json.member members "nonce" = .ok (nonce.map .str))
    (hath : Json.member members "ath" = .ok (ath.map .str)) (h : iatSecs < 2 ^ 64) :
    DPoPProofClaims.fromJson (.obj members) =
      .ok { jti := jti, htm := htm, htu := htu, iat := iatSecs, exp := none, nonce := nonce,
            ath := ath } := by
  -- each field is decoded on its own: unfolding them together makes the kernel evaluate `2 ^ 64`
  have hstr : ∀ name s : String, Json.required name Json.toStringField (some (.str s)) = .ok s :=
    fun _ _ => rfl
  have hu64 : Json.required "iat" Json.toU64Field (some (.int iatSecs)) = .ok iatSecs := by
    rw [Json.required, toU64Field_natCast h]
  have hnone : Json.optional Json.toU64Field none = .ok none := rfl
  have hoption : ∀ o : Option String, Json.optional Json.toStringField (o.map .str) = .ok o := by
    rintro (_ | s) <;> rfl
  simp only [DPoPProofClaims.fromJson, Fallible.bind_eq_ok, Fallible.pure_eq_ok, hjti, hhtm, hhtu, hiat,
    hexp, hnonce, hath, hstr, hu64, hnone, hoption, Except.ok.injEq, exists_eq_left']

theorem trimmedMember_eq (name : String) (o : Option String) :
    trimmedMember name o = (extractDpopNonce o).elim [] fun v => [(name, .str v)] := by
  cases o with
  | none => rfl
  | some v =>
    simp only [trimmedMember, extractDpopNonce, Option.bind_some]
    split <;> rfl

theorem fromJson_proofPayload (jti htm htu : String) (nonce ath : Option String) {iatSecs : Nat}
    (h : iatSecs < 2 ^ 64) :
    DPoPProofClaims.fromJson (proofPayload jti htm htu nonce ath iatSecs) =
      .ok (createdClaims jti htm htu nonce ath iatSecs) := by
  rw [proofPayload, trimmedMember_eq, trimmedMember_eq, createdClaims]
  cases extractDpopNonce nonce <;> cases extractDpopNonce ath <;>
    exact fromJson_obj rfl rfl rfl rfl rfl rfl rfl h

/-- A proof that is created is visible text and decodes to the key and the claims it was created
    with. -/
theorem createProofInternal_spec {htm htu normalizedHtu headerStr payloadStr jti : String}
    {nonce ath jtiOverride : Option String} {iatSecs : Nat} {jtiBytes : List UInt8}
    (hjti : jtiOverride.getD (base64urlEncode jtiBytes) = jti) (hiat : iatSecs < 2 ^ 64)
    (hhtu : normalizeHtu X htu = .ok normalizedHtu)
    (h : SignsProof X key (proofHeader (key.publicJwk X))
      (proofPayload jti (X.toUppercase (Text.trim htm)) normalizedHtu nonce ath iatSecs) headerStr
      payloadStr) :
    ∃ proofJwt, key.createProofInternal X htm htu nonce ath iatSecs jtiOverride jtiBytes = .ok proofJwt ∧
      (∀ c ∈ proofJwt.toList, 33 ≤ c.toNat ∧ c.toNat ≤ 126) ∧
      decodeProof X proofJwt =
        .ok (createdClaims jti (X.toUppercase (Text.trim htm)) normalizedHtu nonce ath iatSecs,
          key.publicJwk X) := by
  obtain ⟨hlen, hparse, hverify⟩ := h.signs
  have hsig : verifyP256Raw X (X.verifyingKey key.signingKey)
      (Text.asBytes (signingInput (Text.asBytes headerStr) (Text.asBytes payloadStr)))
      (X.ecdsaSign key.signingKey
        (Text.asBytes (signingInput (Text.asBytes headerStr) (Text.asBytes payloadStr)))) = .ok () :=
    verifyP256Raw_eq_ok.2 ⟨hlen, hparse, hverify⟩
  have hsign : signP256Raw X key.signingKey (Text.asBytes (base64urlEncode (Text.asBytes headerStr) ++
      "." ++ base64urlEncode (Text.asBytes payloadStr))) = .ok (X.ecdsaSign key.signingKey
        (Text.asBytes (signingInput (Text.asBytes headerStr) (Text.asBytes payloadStr)))) :=
    if_neg (not_not.2 hlen)
  refine ⟨compactJwt (Text.asBytes headerStr) (Text.asBytes payloadStr) _, ?_,
    fun c hc => visible_compactJwt hc,
    decodeProof_compactJwt h.parse_header (proofJwk_proofHeader _ _) (toVerifyingKey_publicJwk h.point)
      hsig h.parse_payload (fromJson_proofPayload _ _ _ nonce ath hiat)⟩
  simp only [DPoPKey.createProofInternal, hjti, hhtu, h.print_header, h.print_payload, hsign]
  rfl

theorem createProof_spec {htm htu normalizedHtu headerStr payloadStr : String}
    {nonce ath : Option String} {clock : SystemTime} {now : Nat} {jtiBytes : List UInt8}
    (hclock : clock.unixSecs = .ok now) (hnow : now < 2 ^ 64)
    (hhtu : normalizeHtu X htu = .ok normalizedHtu)
    (h : SignsProof X key (proofHeader (key.publicJwk X))
      (proofPayload (base64urlEncode jtiBytes) (X.toUppercase (Text.trim htm)) normalizedHtu nonce ath
        now) headerStr payloadStr) :
    ∃ proofJwt, key.createProof X htm htu nonce ath clock jtiBytes = .ok proofJwt ∧
      (∀ c ∈ proofJwt.toList, 33 ≤ c.toNat ∧ c.toNat ≤ 126) ∧
      decodeProof X proofJwt =
        .ok (createdClaims (base64urlEncode jtiBytes) (X.toUppercase (Text.trim htm)) normalizedHtu
          nonce ath now, key.publicJwk X) := by
  have hcreate : key.createProof X htm htu nonce ath clock jtiBytes =
      key.createProofInternal X htm htu nonce ath now none jtiBytes := by
    simp only [DPoPKey.createProof, hclock]
  rw [hcreate]
  exact createProofInternal_spec rfl hnow hhtu h

/-- Whatever the external functions do, a proof that is created is visible text. -/
theorem visible_createProof {htm htu proofJwt : String} {nonce ath : Option String}
    {clock : SystemTime} {jtiBytes : List UInt8}
    (h : key.createProof X htm htu nonce ath clock jtiBytes = .ok proofJwt) :
    ∀ c ∈ proofJwt.toList, 33 ≤ c.toNat ∧ c.toNat ≤ 126 := by
  simp only [DPoPKey.createProof, DPoPKey.createProofInternal] at h
  split at h
  · cases h
  split at h
  · cases h
  split at h
  · cases h
  · cases h
  split at h
  · cases h
  · cases h
    exact fun c hc => visible_compactJwt hc

/-! ## Acceptance -/

theorem toList_encode_ne_nil {data : List UInt8} (h : data ≠ []) : (base64urlEncode data).toList ≠ [] := by
  intro hnil
  have hdec : Base64.decodeNoPad (base64urlEncode data) = some data := Base64.decodeNoPad_encode data
  rw [Base64.decodeNoPad, hnil] at hdec
  simp only [Base64.decodeChars, Option.some.injEq] at hdec
  exact h hdec.symm

/-- Text that comes through a claim or a header unchanged. -/
structure IsCarried (text : String) : Prop where
  visible : ∀ c ∈ text.toList, 33 ≤ c.toNat ∧ c.toNat ≤ 126
  ne_empty : text ≠ ""

theorem IsCarried.trim_eq {text : String} (h : IsCarried text) : Text.trim text = text :=
  Text.trim_eq_self fun c hc => Base64.not_isWhitespace_of_visible (h.visible c hc)

theorem IsCarried.extract_eq {text : String} (h : IsCarried text) :
    extractDpopNonce (some text) = some text := by
  rw [extractDpopNonce, Option.bind_some, h.trim_eq, if_neg h.ne_empty]

theorem isCarried_encode {data : List UInt8} (h : data ≠ []) : IsCarried (base64urlEncode data) where
  visible := fun _ hc => visible_encode hc
  ne_empty := by
    intro h0
    exact toList_encode_ne_nil h (by rw [h0]; rfl)

/-- A `jti` of random bytes passes its check. -/
theorem checkJti_createdClaims {jtiBytes : List UInt8} (hlen : jtiBytes.length = 16) (htm htu : String)
    (nonce ath : Option String) (now : Nat) :
    checkJti (createdClaims (base64urlEncode jtiBytes) htm htu nonce ath now) = .ok () := by
  have hcarried : IsCarried (base64urlEncode jtiBytes) := by
    refine isCarried_encode ?_
    rintro rfl
    cases hlen
  have hbytes : (Text.asBytes (base64urlEncode jtiBytes)).length ≤ MAX_JTI_LENGTH := by
    rw [base64urlEncode, Base64.length_asBytes_encode, hlen]
    decide
  refine checkJti_eq_ok.2 ⟨?_, hbytes⟩
  rw [createdClaims, hcarried.trim_eq]
  exact hcarried.ne_empty

/-- A proof is accepted in the second it was created in, for the method and the target it was created
    for and the access token it is bound to. -/
theorem verifyProofDeferred_created {v : DPoPVerifier} {proofJwt htm htu : String} {jwk : JwkEc}
    {e : ProofExpectation} {nonce ath : Option String} {clock : SystemTime} {now : Nat}
    {jtiBytes : List UInt8}
    (hd : decodeProof X proofJwt =
      .ok (createdClaims (base64urlEncode jtiBytes) htm htu nonce ath now, jwk))
    (hclock : clock.unixSecs = .ok now) (hnow : now < 2 ^ 64) (hjti : jtiBytes.length = 16)
    (hhtm : Text.eqIgnoreAsciiCase htm e.htm = true) (hhtu : normalizeHtu X htu = .ok htu)
    (hehtu : normalizeHtu X e.htu = .ok htu) (henonce : e.nonce = none)
    (heath : e.ath = none ∨ e.ath = extractDpopNonce ath) :
    v.verifyProofDeferred X proofJwt e none clock clock =
      .ok (createdClaims (base64urlEncode jtiBytes) htm htu nonce ath now, jwk,
        { jkt := jwk.thumbprint X, jti := base64urlEncode jtiBytes, expiresAt := v.expiresAt now,
          now := now }) := by
  have hnonce : checkNonce (createdClaims (base64urlEncode jtiBytes) htm htu nonce ath now) e.nonce =
      .ok () := checkBound_eq_ok.2 (Or.inl henonce)
  have hath : checkAth (createdClaims (base64urlEncode jtiBytes) htm htu nonce ath now) e.ath =
      .ok () := checkBound_eq_ok.2 heath
  refine verifyProofDeferred_eq_ok.2 ⟨verifyProofNoReplay_eq_ok.2 ⟨hd,
    checkJti_createdClaims hjti _ _ _ _ _, checkTarget_eq_ok.2 ⟨hhtm, htu, hehtu, hhtu⟩, hnonce, hath,
    now, hclock, checkTime_eq_ok.2 ?_⟩, now, hclock, rfl⟩
  simp only [createdClaims, saturatingAdd, U64_MAX]
  refine ⟨by omega, by omega, ?_⟩
  intro exp h
  cases h

end Created

/-! ## A client key with two proofs

The key with the scalar 1, 2, …, 32 and the two proofs it signs in one second for a `GET` of one
resource with the access token `token`: one without a nonce, and one with the nonce of 24 zero
bytes. -/

namespace ClientSample

def verifyingKey : VerifyingKey where
  x := [81, 92, 61, 110, 185, 227, 150, 185, 4, 211, 254, 202, 127, 84, 253, 205, 12, 193, 233, 151,
    191, 55, 93, 202, 81, 90, 208, 166, 195, 180, 3, 95]
  y := [69, 54, 190, 58, 80, 243, 24, 251, 249, 165, 71, 89, 2, 162, 33, 80, 43, 239, 13, 87, 224, 140,
    83, 178, 204, 10, 86, 241, 125, 159, 147, 84]
  x_length := rfl
  y_length := rfl

def key : DPoPKey where
  signingKey := { scalar := (List.range 32).map fun n => UInt8.ofNat (n + 1) }

def jwk : JwkEc where
  kty := "EC"
  crv := "P-256"
  x := base64urlEncode verifyingKey.x
  y := base64urlEncode verifyingKey.y

def url : String := "https://pds.example.com/xrpc/app"

def iatSecs : Nat := 1700000000

/-- The SHA-256 digest of `token`. -/
def tokenHash : List UInt8 :=
  [60, 70, 158, 157, 108, 88, 117, 211, 122, 67, 243, 83, 212, 248, 142, 97, 252, 248, 18, 198,
    110, 238, 52, 87, 70, 90, 64, 176, 218, 65, 83, 224]

/-- The SHA-256 digest of the canonical form of the key. -/
def jwkHash : List UInt8 :=
  [233, 74, 22, 192, 48, 164, 46, 53, 116, 39, 234, 80, 27, 199, 52, 76, 124, 91, 86, 16, 92, 165,
    29, 0, 100, 56, 159, 183, 86, 37, 228, 51]

def firstSignature : List UInt8 :=
  [198, 17, 208, 65, 173, 52, 244, 11, 108, 176, 131, 74, 50, 129, 203, 72, 112, 116, 23, 146,
    169, 93, 219, 7, 66, 76, 39, 4, 116, 32, 231, 212, 18, 165, 73, 153, 172, 9, 181, 126, 177, 79,
    100, 133, 114, 137, 55, 39, 30, 67, 195, 77, 112, 205, 235, 224, 62, 20, 225, 212, 52, 104, 15,
    244]

def secondSignature : List UInt8 :=
  [73, 197, 250, 161, 136, 70, 108, 5, 34, 114, 151, 152, 5, 121, 224, 70, 146, 210, 0, 107, 228,
    7, 156, 17, 11, 92, 130, 131, 162, 32, 63, 45, 190, 89, 178, 251, 201, 184, 199, 17, 42, 228,
    114, 44, 148, 67, 180, 196, 145, 14, 119, 57, 147, 241, 105, 114, 218, 244, 132, 189, 74, 22,
    231, 139]

def firstJti : List UInt8 := List.replicate 16 0

def secondJti : List UInt8 := List.replicate 16 1

def nonceBytes : List UInt8 := List.replicate 24 0

def nonce : String := base64urlEncode nonceBytes

def ath : String := base64urlEncode tokenHash

/-- The payload of the proof with a nonce, or of the one without. -/
def payload : Option String → Json
  | none => proofPayload (base64urlEncode firstJti) "GET" url none (some ath) iatSecs
  | some nonce => proofPayload (base64urlEncode secondJti) "GET" url (some nonce) (some ath) iatSecs

def headerStr : String :=
  "\x7b\"alg\":\"" ++ ("ES256\",\"jwk\":\x7b\"crv\":\"P-256\",\"kty\":\"EC\",\"x\":\"" ++ (jwk.x ++
    ("\",\"y\":\"" ++ (jwk.y ++ "\"\x7d,\"typ\":\"dpop+jwt\"\x7d"))))

/-- What the two payloads have in common. -/
def payloadStart : String :=
  ath ++ ("\",\"htm\":\"GET\",\"htu\":\"" ++ (url ++ "\",\"iat\":1700000000,\"jti\":\""))

def payloadStr : Option String → String
  | none => "\x7b\"ath\":\"" ++ (payloadStart ++ (base64urlEncode firstJti ++ "\"\x7d"))
  | some nonce =>
    "\x7b\"ath\":\"" ++ (payloadStart ++ (base64urlEncode secondJti ++
      ("\",\"nonce\":\"" ++ (nonce ++ "\"\x7d"))))

/-- JSON printing on the documents of the proofs. -/
def print (j : Json) : Except String String :=
  if (j.get "alg").isSome then .ok headerStr
  else if (j.get "nonce").isSome then .ok (payloadStr (some nonce))
  else .ok (payloadStr none)

/-- JSON parsing on the documents of the proofs. -/
def parse (bytes : List UInt8) : Except String Json :=
  if bytes = Text.asBytes headerStr then .ok (proofHeader jwk)
  else if bytes = Text.asBytes (payloadStr none) then .ok (payload none)
  else if bytes = Text.asBytes (payloadStr (some nonce)) then .ok (payload (some nonce))
  else .error "expected value at line 1 column 1"

/-- The signatures of the key on the proofs. -/
def sign (message : List UInt8) : List UInt8 :=
  if message = Text.asBytes (signingInput (Text.asBytes headerStr)
    (Text.asBytes (payloadStr (some nonce)))) then secondSignature else firstSignature

def verify (message signature : List UInt8) : Except String Unit :=
  if signature = sign message then .ok () else .error "signature error"

def parsedUrl : Url where
  scheme := "https"
  hostStr := some "pds.example.com"
  port := none
  path := "/xrpc/app"
  origin := "https://pds.example.com"

/-- The external functions as they behave on the proofs. -/
def crates : Crates where
  sha256 := fun bytes => if bytes = Text.asBytes "token" then tokenHash else jwkHash
  verifyingKey := fun _ => verifyingKey
  fromSec1Bytes := fun bytes =>
    if bytes = 0x04 :: (verifyingKey.x ++ verifyingKey.y) then .ok verifyingKey
    else .error "signature error"
  ecdsaSign := fun _ => sign
  signatureFromSlice := fun _ => .ok ()
  ecdsaVerify := fun _ => verify
  jsonFromSlice := parse
  jsonToString := print
  urlParse := fun s => if s = url then .ok parsedUrl else .error "relative URL without a base"
  base64Error := fun _ => "Invalid padding"
  unicodeUpper := fun c => [c]

theorem sha256_token : crates.sha256 (Text.asBytes "token") = tokenHash := by
  simp only [crates, if_true]

theorem urlParse_url : crates.urlParse url = .ok parsedUrl := by
  simp only [crates, if_true]

theorem payloadStr_ne_headerStr (o : Option String) :
    Text.asBytes (payloadStr o) ≠ Text.asBytes headerStr := by
  have hstart : Text.asBytes "\x7b\"ath\":\"" ≠ Text.asBytes "\x7b\"alg\":\"" := by decide
  have hlen : (Text.asBytes "\x7b\"ath\":\"").length = (Text.asBytes "\x7b\"alg\":\"").length := by
    rfl
  intro h
  cases o <;>
  · simp only [payloadStr, headerStr, Text.asBytes_append] at h
    exact hstart (List.append_inj_left h hlen)

theorem payloadStr_inj : Text.asBytes (payloadStr (some nonce)) ≠ Text.asBytes (payloadStr none) := by
  have hjti : Text.asBytes (base64urlEncode secondJti) ≠ Text.asBytes (base64urlEncode firstJti) := by
    decide
  have hlen : (Text.asBytes (base64urlEncode secondJti)).length =
      (Text.asBytes (base64urlEncode firstJti)).length := by rfl
  intro h
  simp only [payloadStr, Text.asBytes_append, List.append_cancel_left_eq] at h
  exact hjti (List.append_inj_left h hlen)

theorem length_sign (message : List UInt8) : (sign message).length = 64 := by
  unfold sign
  split <;> rfl

theorem verify_sign (message : List UInt8) : verify message (sign message) = .ok () := by
  simp only [verify, if_true]

theorem ecdsaSign_crates (k : SigningKey) (message : List UInt8) :
    crates.ecdsaSign k message = sign message := rfl

theorem ecdsaVerify_crates (k : VerifyingKey) (message signature : List UInt8) :
    crates.ecdsaVerify k message signature = verify message signature := rfl

theorem publicJwk : key.publicJwk crates = jwk := rfl

/-- The external functions do their job on both proofs. -/
theorem signsProof (o : Option String) (h : o = none ∨ o = some nonce) :
    SignsProof crates key (proofHeader (key.publicJwk crates)) (payload o) headerStr (payloadStr o) where
  print_header := rfl
  print_payload := by
    rcases h with rfl | rfl
    · rfl
    · rfl
  parse_header := by
    rw [publicJwk]
    simp only [crates, parse, if_true]
  parse_payload := by
    rcases h with rfl | rfl
    · simp only [crates, parse, if_neg (payloadStr_ne_headerStr _), if_true]
    · simp only [crates, parse, if_neg (payloadStr_ne_headerStr _), if_neg payloadStr_inj, if_true]
  point := by simp only [crates, if_true]
  signs := by
    have hslice : ∀ signature, crates.signatureFromSlice signature = .ok () := fun _ => rfl
    simp only [ecdsaSign_crates, ecdsaVerify_crates, length_sign, verify_sign, hslice, and_self]

end ClientSample

end Skyauth
