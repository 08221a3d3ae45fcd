import Skyauth.Proofs.RoundTripProofs

/-!
# Proofs: thumbprints of keys

A thumbprint is the hash of the coordinates as they are written, and the decoder lets a coordinate be
written in more than one way: padded, and with white space around it. Written plainly, a coordinate is
the encoding of its bytes, and the thumbprint is that of the key.
-/

namespace Skyauth

variable {X : Crates}

/-! ## Coordinates -/

/-- A text without padding and white space. -/
def IsPlain (text : String) : Prop := ∀ c ∈ text.toList, c ≠ '=' ∧ Text.isWhitespace c = false

theorem isPlain_encode (data : List UInt8) : IsPlain (base64urlEncode data) := by
  intro c hc
  have hsymbol := Base64.isSymbol_of_mem_encode hc
  refine ⟨?_, Base64.not_isWhitespace_of_visible (Base64.visible_of_isSymbol hsymbol)⟩
  rintro rfl
  cases hsymbol

theorem base64urlDecodeFixed_eq_ok {n : Nat} {text : String} {bytes : List UInt8}
    (h : base64urlDecodeFixed X n text = .ok bytes) :
    bytes.length = n ∧ base64urlDecode X text = .ok bytes := by
  obtain ⟨bytes', hdecode, h⟩ := Fallible.bind_eq_ok.1 h
  split at h
  · cases h
  · rename_i hlength
    cases h
    exact ⟨not_not.1 hlength, hdecode⟩

/-- What is decoded is the encoding, or the encoding with padding, between white space. -/
theorem base64urlDecode_eq_ok {text : String} {bytes : List UInt8}
    (h : base64urlDecode X text = .ok bytes) :
    Text.trim text = base64urlEncode bytes ∨
      (Text.trim text).toList = Base64.pad (Base64.encodeChars bytes) := by
  unfold base64urlDecode at h
  split at h
  · rename_i data hdata
    cases h
    exact Or.inl (Base64.decodeNoPad_eq_some hdata)
  · split at h
    · rename_i data hdata
      cases h
      exact Or.inr (Base64.decodePadded_eq_some hdata)
    · cases h

/-- A plain text that is decoded is the encoding of its bytes. -/
theorem eq_encode_of_isPlain {text : String} {bytes : List UInt8}
    (h : base64urlDecode X text = .ok bytes) (hplain : IsPlain text) : text = base64urlEncode bytes := by
  have htrim : Text.trim text = text := Text.trim_eq_self fun c hc => (hplain c hc).2
  rcases base64urlDecode_eq_ok h with hencode | hpad
  · rw [← htrim, hencode]
  · rw [htrim] at hpad
    have hnil : List.replicate ((4 - (Base64.encodeChars bytes).length % 4) % 4) '=' = [] := by
      rw [List.eq_nil_iff_forall_not_mem]
      intro c hc
      have hmem : c ∈ text.toList := by
        rw [hpad]
        exact List.mem_append_right _ hc
      exact (hplain c hmem).1 (List.eq_of_mem_replicate hc)
    rw [Base64.pad, hnil, List.append_nil] at hpad
    rw [base64urlEncode, Base64.encode, ← hpad, String.ofList_toList]

/-- There is no quotation mark in a text that is decoded. -/
theorem no_quote_of_decode {text : String} {bytes : List UInt8} (h : base64urlDecode X text = .ok bytes) :
    '"' ∉ text.toList := by
  intro hmem
  have hsymbol : '"' ∉ Base64.encodeChars bytes := fun hquote =>
    absurd (Base64.isSymbol_of_mem_encodeChars bytes _ hquote) (by decide)
  have htrim : '"' ∉ (Text.trim text).toList := by
    rcases base64urlDecode_eq_ok h with hencode | hpad
    · rw [hencode, base64urlEncode, Base64.encode, String.toList_ofList]
      exact hsymbol
    · rw [hpad]
      intro hquote
      rcases List.mem_append.1 hquote with hquote | hquote
      · exact hsymbol hquote
      · exact absurd (List.eq_of_mem_replicate hquote) (by decide)
  obtain ⟨a, b, htext, ha, hb⟩ := Text.trimMatches_decomp Text.isWhitespace text
  rw [htext, String.toList_append, String.toList_append] at hmem
  rcases List.mem_append.1 hmem with hmem | hmem
  · rcases List.mem_append.1 hmem with hmem | hmem
    · exact absurd (ha _ hmem) (by decide)
    · exact htrim hmem
  · exact absurd (hb _ hmem) (by decide)

/-! ## Documents -/

/-- The bytes that are hashed: the canonical document. -/
def JwkEc.hashedBytes (jwk : JwkEc) : List UInt8 :=
  Text.asBytes
    ("\x7b\"crv\":\"P-256\",\"kty\":\"EC\",\"x\":\"" ++ jwk.x ++ "\",\"y\":\"" ++ jwk.y ++ "\"\x7d")

theorem JwkEc.thumbprint_eq (jwk : JwkEc) :
    jwk.thumbprint X = base64urlEncode (X.sha256 jwk.hashedBytes) := rfl

/-- The document is cut at the first quotation mark after a coordinate. -/
theorem JwkEc.hashedBytes_inj {jwk jwk' : JwkEc} (hx : '"' ∉ jwk.x.toList) (hx' : '"' ∉ jwk'.x.toList)
    (h : jwk.hashedBytes = jwk'.hashedBytes) : jwk.x = jwk'.x ∧ jwk.y = jwk'.y := by
  have hmid : "\",\"y\":\"".toList = '"' :: ",\"y\":\"".toList := by decide
  rw [hashedBytes, hashedBytes, Text.asBytes_inj, ← String.toList_inj] at h
  simp only [String.toList_append, List.append_assoc, hmid, List.cons_append] at h
  obtain ⟨hx, hy⟩ := Text.append_cons_inj hx hx' (List.append_cancel_left h)
  have hy := List.append_cancel_right (List.append_cancel_left hy)
  exact ⟨String.toList_inj.1 hx, String.toList_inj.1 hy⟩

/-! ## Thumbprints -/

/-- An uncompressed point is read as the key with its coordinates. -/
def ReadsPoints (X : Crates) : Prop :=
  ∀ (x y : List UInt8) (key : VerifyingKey), x.length = 32 → y.length = 32 →
    X.fromSec1Bytes (0x04 :: (x ++ y)) = .ok key → key.x = x ∧ key.y = y

/-- No two documents of these keys have the same hash. -/
def NoCollision (X : Crates) (jwks : List JwkEc) : Prop :=
  ∀ jwk ∈ jwks, ∀ jwk' ∈ jwks, X.sha256 jwk.hashedBytes = X.sha256 jwk'.hashedBytes →
    jwk.hashedBytes = jwk'.hashedBytes

section Thumbprint

variable {jwk jwk' : JwkEc} {vk : VerifyingKey} {key : DPoPKey}

theorem JwkEc.decode_of_toVerifyingKey (hpoints : ReadsPoints X) (h : jwk.toVerifyingKey X = .ok vk) :
    base64urlDecode X jwk.x = .ok vk.x ∧ base64urlDecode X jwk.y = .ok vk.y := by
  obtain ⟨xBytes, hx, h⟩ := Fallible.bind_eq_ok.1 h
  obtain ⟨yBytes, hy, h⟩ := Fallible.bind_eq_ok.1 h
  obtain ⟨hxlength, hx⟩ := base64urlDecodeFixed_eq_ok hx
  obtain ⟨hylength, hy⟩ := base64urlDecodeFixed_eq_ok hy
  unfold verifyingKeyFromCoordinates at h
  split at h
  · rename_i key hkey
    cases h
    obtain ⟨hvx, hvy⟩ := hpoints xBytes yBytes vk hxlength hylength hkey
    rw [hvx, hvy]
    exact ⟨hx, hy⟩
  · cases h

/-- The thumbprint of a JWK is that of its key exactly if the coordinates are written plainly. -/
theorem thumbprint_eq_jwkThumbprint_iff (hpoints : ReadsPoints X) (h : jwk.toVerifyingKey X = .ok vk)
    (hkey : X.verifyingKey key.signingKey = vk)
    (hcollision : X.sha256 jwk.hashedBytes = X.sha256 (key.publicJwk X).hashedBytes →
      jwk.hashedBytes = (key.publicJwk X).hashedBytes) :
    jwk.thumbprint X = key.jwkThumbprint X ↔ IsPlain jwk.x ∧ IsPlain jwk.y := by
  obtain ⟨hx, hy⟩ := JwkEc.decode_of_toVerifyingKey hpoints h
  have hpublic : (key.publicJwk X).x = base64urlEncode vk.x ∧ (key.publicJwk X).y = base64urlEncode vk.y := by
    rw [← hkey]
    exact ⟨rfl, rfl⟩
  constructor
  · intro heq
    have hbytes := hcollision (base64urlEncode_inj heq)
    have hquote : '"' ∉ (key.publicJwk X).x.toList := by
      rw [hpublic.1]
      exact fun hmem => absurd (Base64.isSymbol_of_mem_encode hmem) (by decide)
    obtain ⟨heqx, heqy⟩ := JwkEc.hashedBytes_inj (no_quote_of_decode hx) hquote hbytes
    rw [heqx, heqy, hpublic.1, hpublic.2]
    exact ⟨isPlain_encode _, isPlain_encode _⟩
  · rintro ⟨hplainx, hplainy⟩
    rw [DPoPKey.jwkThumbprint, JwkEc.thumbprint, JwkEc.thumbprint, hpublic.1, hpublic.2,
      eq_encode_of_isPlain hx hplainx, eq_encode_of_isPlain hy hplainy]

/-- Two JWKs of one key have the thumbprint of the key exactly if none of their coordinates is padded
    or has white space in it. -/
theorem thumbprint_canonical_iff (hpoints : ReadsPoints X) (h : jwk.toVerifyingKey X = .ok vk)
    (h' : jwk'.toVerifyingKey X = .ok vk) (hkey : X.verifyingKey key.signingKey = vk)
    (hcollision : NoCollision X [jwk, jwk', key.publicJwk X]) :
    (jwk.thumbprint X = jwk'.thumbprint X ∧ jwk.thumbprint X = key.jwkThumbprint X) ↔
      (IsPlain jwk.x ∧ IsPlain jwk.y) ∧ IsPlain jwk'.x ∧ IsPlain jwk'.y := by
  have hplain := thumbprint_eq_jwkThumbprint_iff hpoints h hkey
    (hcollision _ (by simp) _ (by simp))
  have hplain' := thumbprint_eq_jwkThumbprint_iff hpoints h' hkey
    (hcollision _ (by simp) _ (by simp))
  rw [← hplain, ← hplain']
  constructor
  · rintro ⟨heq, hthumbprint⟩
    exact ⟨hthumbprint, heq ▸ hthumbprint⟩
  · rintro ⟨hthumbprint, hthumbprint'⟩
    exact ⟨hthumbprint.trans hthumbprint'.symm, hthumbprint⟩

end Thumbprint

/-! ## A padded coordinate -/

namespace ThumbprintSample

open ClientSample (jwk verifyingKey key jwkHash)

/-- The key of the client, with padding after its first coordinate. -/
def paddedJwk : JwkEc := { jwk with x := jwk.x ++ "=" }

/-- The SHA-256 digest of the document of that spelling. -/
def paddedHash : List UInt8 :=
  [99, 156, 69, 198, 78, 209, 134, 134, 249, 73, 141, 187, 227, 145, 13, 130, 148, 29, 87, 115, 144,
    119, 72, 84, 51, 43, 90, 255, 224, 148, 193, 179]

/-- The external functions as they behave on both spellings. -/
def crates : Crates :=
  { ClientSample.crates with
    sha256 := fun bytes => if bytes = paddedJwk.hashedBytes then paddedHash else jwkHash }

theorem base64urlDecode_paddedJwk : base64urlDecode crates paddedJwk.x = .ok verifyingKey.x := by rfl

theorem fromSec1Bytes_verifyingKey :
    crates.fromSec1Bytes (0x04 :: (verifyingKey.x ++ verifyingKey.y)) = .ok verifyingKey := by
  simp only [crates, ClientSample.crates, if_true]

theorem toVerifyingKey_jwk : jwk.toVerifyingKey crates = .ok verifyingKey :=
  toVerifyingKey_encode fromSec1Bytes_verifyingKey

theorem toVerifyingKey_paddedJwk : paddedJwk.toVerifyingKey crates = .ok verifyingKey := by
  have hy : base64urlDecode crates paddedJwk.y = .ok verifyingKey.y := base64urlDecode_encode _ _
  simp only [JwkEc.toVerifyingKey, base64urlDecodeFixed, base64urlDecode_paddedJwk, hy, Fallible.ok_bind,
    VerifyingKey.x_length, VerifyingKey.y_length, ne_eq, not_true_eq_false, if_false,
    verifyingKeyFromCoordinates, fromSec1Bytes_verifyingKey]

theorem hashedBytes_ne : jwk.hashedBytes ≠ paddedJwk.hashedBytes := by
  intro h
  have hquote : '"' ∉ jwk.x.toList := no_quote_of_decode (base64urlDecode_encode crates verifyingKey.x)
  have hx := (JwkEc.hashedBytes_inj hquote (no_quote_of_decode base64urlDecode_paddedJwk) h).1
  have hlength := congrArg (·.toList.length) hx
  simp only [paddedJwk, String.toList_append, List.length_append] at hlength
  have hone : "=".toList.length = 1 := rfl
  omega

theorem sha256_ne : crates.sha256 jwk.hashedBytes ≠ crates.sha256 paddedJwk.hashedBytes := by
  simp only [crates, if_neg hashedBytes_ne, if_true]
  decide

theorem readsPoints : ReadsPoints crates := by
  intro x y vk hx hy h
  simp only [crates, ClientSample.crates] at h
  split at h
  · rename_i hbytes
    cases h
    obtain ⟨hvx, hvy⟩ := List.append_inj (List.cons.inj hbytes).2 (by rw [hx]; rfl)
    exact ⟨hvx.symm, hvy.symm⟩
  · cases h

theorem noCollision : NoCollision crates [jwk, paddedJwk, key.publicJwk crates] := by
  have hpublic : key.publicJwk crates = jwk := rfl
  rw [hpublic]
  intro j hj j' hj' hhash
  simp only [List.mem_cons, List.not_mem_nil, or_false] at hj hj'
  rcases hj with rfl | rfl | rfl <;> rcases hj' with rfl | rfl | rfl
  · rfl
  · exact absurd hhash sha256_ne
  · rfl
  · exact absurd hhash.symm sha256_ne
  · rfl
  · exact absurd hhash.symm sha256_ne
  · rfl
  · exact absurd hhash sha256_ne
  · rfl

theorem thumbprint_canonical_iff_sample :
    (jwk.thumbprint crates = paddedJwk.thumbprint crates ∧
      jwk.thumbprint crates = key.jwkThumbprint crates) ↔
      (IsPlain jwk.x ∧ IsPlain jwk.y) ∧ IsPlain paddedJwk.x ∧ IsPlain paddedJwk.y :=
  thumbprint_canonical_iff readsPoints toVerifyingKey_jwk toVerifyingKey_paddedJwk rfl noCollision

/-- Two spellings of one key, with two thumbprints. -/
theorem thumbprint_padded :
    jwk.toVerifyingKey crates = .ok verifyingKey ∧ paddedJwk.toVerifyingKey crates = .ok verifyingKey ∧
      jwk.thumbprint crates ≠ paddedJwk.thumbprint crates := by
  refine ⟨toVerifyingKey_jwk, toVerifyingKey_paddedJwk, ?_⟩
  rw [JwkEc.thumbprint_eq, JwkEc.thumbprint_eq]
  exact fun h => sha256_ne (base64urlEncode_inj h)

end ThumbprintSample

end Skyauth
