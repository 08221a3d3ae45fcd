import Skyauth.ServiceAuth
import Skyauth.Lib.Exec
import Skyauth.Proofs.DidKeyCacheProofs
import Skyauth.Proofs.IdentityProofs
import Skyauth.Proofs.RoundTripProofs

/-!
# Proofs: tokens of other services

A token that is accepted is signed by a key of its issuer's document, which was resolved for this call
or not longer ago than the lifetime of the cache. That it has an expiry or an audience is not checked.
A stale key in the cache is dropped when a signature does not verify under it, which it is not asked
to do for an algorithm of the other curve.
-/

namespace Skyauth

/-! ## Where the keys come from -/

/-- Every entry is the key of a document that was resolved for its DID, at the second of the entry. -/
def DidKeyCache.From (X : ServiceCrates) (history : List Resolution) (c : DidKeyCache) : Prop :=
  ∀ did entry, c.find did = some entry → ∃ res ∈ history, res.did = did ∧ res.doc.id = did ∧
    res.atSecs = entry.resolvedAtSecs ∧ extractAtprotoKeyFromDocument X res.doc = .ok entry.atprotoKey

namespace DidKeyCache.From

variable {X : ServiceCrates} {history history' : List Resolution} {c : DidKeyCache} {did first : String}
  {now : UInt64} {key : AtprotoVerifyingKey}

theorem mono (h : c.From X history) (hsub : ∀ res ∈ history, res ∈ history') : c.From X history' := by
  intro did entry hfind
  obtain ⟨res, hmem, hres⟩ := h did entry hfind
  exact ⟨res, hsub res hmem, hres⟩

theorem insertAtprotoKey (h : c.From X history) {doc : DidDocument}
    (hres : { did := did, doc := doc, atSecs := now } ∈ history) (hid : doc.id = did)
    (hkey : extractAtprotoKeyFromDocument X doc = .ok key) :
    (c.insertAtprotoKey did key now first).From X history := by
  intro did' entry hfind
  rcases find_insertAtprotoKey hfind with ⟨rfl, rfl⟩ | ⟨-, hold⟩
  · exact ⟨_, hres, rfl, hid, rfl, hkey⟩
  · exact h did' entry hold

theorem invalidate (h : c.From X history) : (c.invalidate did).From X history := by
  intro did' entry hfind
  rw [find_invalidate] at hfind
  by_cases hd : did' = did
  · rw [hd, Function.update_self] at hfind
    cases hfind
  · rw [Function.update_of_ne hd] at hfind
    exact h did' entry hfind

end DidKeyCache.From

/-! ## The checks -/

section

variable {X : ServiceCrates} {jwt : ServiceJwt} {key : AtprotoVerifyingKey} {nowSecs leewaySecs : UInt64}
  {expectedAudiences : List String} {claims : ServiceJwtClaims}

/-- The algorithm of a curve. -/
def AtprotoVerifyingKey.alg : AtprotoVerifyingKey → String
  | secp256k1 _ => "ES256K"
  | p256 _ => "ES256"

/-- These bytes parse as a signature of the curve of the key. -/
def AtprotoVerifyingKey.Parses (X : ServiceCrates) (signature : List UInt8) : AtprotoVerifyingKey → Prop
  | secp256k1 _ => X.k256SignatureFromSlice signature = .ok ()
  | p256 _ => X.signatureFromSlice signature = .ok ()

/-- These bytes verify as a signature of the message under the key. -/
def AtprotoVerifyingKey.Verifies (X : ServiceCrates) (message signature : List UInt8) :
    AtprotoVerifyingKey → Prop
  | secp256k1 vk => X.k256Verify vk message signature = .ok ()
  | p256 vk => X.ecdsaVerify vk message signature = .ok ()

/-- The token is signed with this key, under the algorithm of its curve. -/
structure ServiceJwt.SignedBy (X : ServiceCrates) (jwt : ServiceJwt) (key : AtprotoVerifyingKey)
    (signature : List UInt8) : Prop where
  alg : jwt.alg = key.alg
  decodes : decodeSegment X jwt.signatureB64 = .ok signature
  parses : key.Parses X signature
  verifies : key.Verifies X jwt.signingInput signature

theorem isAlgBoundToCurve_eq_true {alg : String} :
    isAlgBoundToCurve key.curveId (algIdFromStr alg) = true ↔ alg = key.alg := by
  unfold algIdFromStr
  by_cases h : alg = "ES256K"
  · cases key <;> simp [h, AtprotoVerifyingKey.alg, isAlgBoundToCurve, AtprotoVerifyingKey.curveId,
      CURVE_SECP256K1, CURVE_P256, ALG_ES256K]
  · by_cases h' : alg = "ES256"
    · cases key <;> simp [h', AtprotoVerifyingKey.alg, isAlgBoundToCurve, AtprotoVerifyingKey.curveId,
        CURVE_SECP256K1, CURVE_P256, ALG_ES256]
    · cases key <;> simp [h, h', AtprotoVerifyingKey.alg, isAlgBoundToCurve,
        AtprotoVerifyingKey.curveId, CURVE_SECP256K1, CURVE_P256, ALG_NONE]

theorem AtprotoVerifyingKey.verify_eq_ok {message signature : List UInt8} {b : Bool} :
    key.verify X message signature = .ok b ↔
      key.Parses X signature ∧ (b = true ↔ key.Verifies X message signature) := by
  have hisOk : ∀ x : Except String Unit, (Except.ok x.isOk : Except AtprotoOAuthError Bool) = .ok b ↔
      (b = true ↔ x = .ok ()) := by
    intro x
    cases x <;> cases b <;> simp [Except.isOk, Except.toBool]
  cases key with
  | secp256k1 vk =>
    unfold verify Parses Verifies
    cases X.k256SignatureFromSlice signature <;> simp [hisOk]
  | p256 vk =>
    unfold verify Parses Verifies
    cases X.signatureFromSlice signature <;> simp [hisOk]

/-- What the checks against a key come to. -/
theorem ServiceJwt.checkSignature_eq_ok {b : Bool} : jwt.checkSignature X key = .ok b ↔
    jwt.alg = key.alg ∧ ∃ signature, decodeSegment X jwt.signatureB64 = .ok signature ∧
      key.Parses X signature ∧ (b = true ↔ key.Verifies X jwt.signingInput signature) := by
  unfold checkSignature
  rw [← isAlgBoundToCurve_eq_true]
  cases isAlgBoundToCurve key.curveId (algIdFromStr jwt.alg) with
  | false => simp
  | true => simp [Fallible.bind_eq_ok, Fallible.mapError_eq_ok, AtprotoVerifyingKey.verify_eq_ok]

theorem isServiceJwtExpValid_eq_true {exp : UInt64} :
    isServiceJwtExpValid exp nowSecs leewaySecs = true ↔
      nowSecs.toNat ≤ exp.toNat + leewaySecs.toNat := by
  have hnow := nowSecs.toNat_lt
  have hleeway := leewaySecs.toNat_lt
  have hmax : (0xffffffffffffffff - leewaySecs).toNat = 18446744073709551615 - leewaySecs.toNat := by
    rw [UInt64.toNat_sub_of_le]
    · rfl
    · rw [UInt64.le_iff_toNat_le]
      show leewaySecs.toNat ≤ 18446744073709551615
      omega
  unfold isServiceJwtExpValid
  split
  -- the sum would not fit, so it is beyond every second
  · rename_i hover
    rw [gt_iff_lt, UInt64.lt_iff_toNat_lt, hmax] at hover
    simp only [true_iff]
    omega
  · rename_i hfits
    rw [gt_iff_lt, UInt64.lt_iff_toNat_lt, hmax] at hfits
    rw [decide_eq_true_eq, UInt64.le_iff_toNat_le, UInt64.toNat_add, Nat.mod_eq_of_lt (by omega)]

namespace ServiceJwt

theorem checkExp_eq_ok : jwt.checkExp nowSecs leewaySecs = .ok () ↔
    ∀ exp, jwt.claims.exp = some exp → nowSecs.toNat ≤ exp.toNat + leewaySecs.toNat := by
  unfold checkExp
  cases jwt.claims.exp with
  | none => simp
  | some exp => simp [Fallible.rejectIf_eq_ok, isServiceJwtExpValid_eq_true]

theorem checkAud_eq_ok : jwt.checkAud expectedAudiences = .ok () ↔
    (expectedAudiences ≠ [] → ∀ aud, jwt.claims.aud = some aud → aud ∈ expectedAudiences) := by
  unfold checkAud
  by_cases h : expectedAudiences = []
  · simp [h]
  · cases jwt.claims.aud with
    | none => simp [h]
    | some aud => simp [h, Fallible.rejectIf_eq_ok]

theorem checkClaims_eq_ok : jwt.checkClaims expectedAudiences nowSecs leewaySecs = .ok claims ↔
    jwt.claims = claims ∧ jwt.checkExp nowSecs leewaySecs = .ok () ∧
      jwt.checkAud expectedAudiences = .ok () ∧
      ∃ iss, jwt.claims.iss = some iss ∧ isValidServiceDid iss = true := by
  simp only [checkClaims, Fallible.bind_eq_ok, Fallible.rejectIf_eq_ok, Fallible.pure_eq_ok]
  have hviewer : ¬(jwt.claims.iss = none ∨ jwt.claims.viewerDid = none) ↔
      ∃ iss, jwt.claims.iss = some iss ∧ isValidServiceDid iss = true := by
    unfold ServiceJwtClaims.viewerDid
    cases jwt.claims.iss with
    | none => simp
    | some iss => simp
  constructor
  · rintro ⟨_, hexp, _, haud, _, hiss, rfl⟩
    exact ⟨rfl, hexp, haud, hviewer.1 hiss⟩
  · rintro ⟨rfl, hexp, haud, hiss⟩
    exact ⟨(), hexp, (), haud, (), hviewer.2 hiss, rfl⟩

variable {cache : DidKeyCache}

theorem verifyWith_of_error {e : AtprotoOAuthError} (h : jwt.checkSignature X key = .error e) :
    jwt.verifyWith X key cache expectedAudiences nowSecs leewaySecs = (.error e, cache) := by
  rw [verifyWith, h]

theorem verifyWith_of_false (h : jwt.checkSignature X key = .ok false) :
    jwt.verifyWith X key cache expectedAudiences nowSecs leewaySecs =
      (.error (.token .invalidSignature), cache.invalidate jwt.issuer) := by
  rw [verifyWith, h]

theorem verifyWith_of_true (h : jwt.checkSignature X key = .ok true) :
    jwt.verifyWith X key cache expectedAudiences nowSecs leewaySecs =
      (jwt.checkClaims expectedAudiences nowSecs leewaySecs, cache) := by
  rw [verifyWith, h]

theorem verifyWith_fst_eq_ok :
    (jwt.verifyWith X key cache expectedAudiences nowSecs leewaySecs).1 = .ok claims ↔
      jwt.checkSignature X key = .ok true ∧
        jwt.checkClaims expectedAudiences nowSecs leewaySecs = .ok claims := by
  rcases h : jwt.checkSignature X key with e | b
  · simp [verifyWith_of_error h]
  · cases b
    · simp [verifyWith_of_false h]
    · simp [verifyWith_of_true h]

theorem verifyWith_snd :
    (jwt.verifyWith X key cache expectedAudiences nowSecs leewaySecs).2 = cache ∨
      (jwt.verifyWith X key cache expectedAudiences nowSecs leewaySecs).2 =
        cache.invalidate jwt.issuer := by
  rcases h : jwt.checkSignature X key with e | b
  · simp [verifyWith_of_error h]
  · cases b
    · simp [verifyWith_of_false h]
    · simp [verifyWith_of_true h]

end ServiceJwt

theorem parseServiceJwt_issuer {token : String} (h : parseServiceJwt X token = .ok jwt) :
    jwt.claims.iss.or jwt.claims.sub = some jwt.issuer := by
  simp only [parseServiceJwt, Fallible.bind_eq_ok] at h
  obtain ⟨_, -, h⟩ := h
  split at h
  · simp only [Fallible.bind_eq_ok] at h
    obtain ⟨_, -, _, -, h⟩ := h
    split at h
    · cases h
    · simp only [Fallible.bind_eq_ok, Fallible.elim_eq_ok, Fallible.pure_eq_ok] at h
      obtain ⟨_, -, _, hissuer, rfl⟩ := h
      exact hissuer
  all_goals cases h

/-- The final check makes `iss` mandatory, so the fallback to `sub` is not taken for an accepted token. -/
theorem issuer_of_iss {token iss : String} (h : parseServiceJwt X token = .ok jwt)
    (hiss : jwt.claims.iss = some iss) : iss = jwt.issuer := by
  have hor := parseServiceJwt_issuer h
  rw [hiss, Option.some_or, Option.some.injEq] at hor
  exact hor

end

/-! ## A token in compact form -/

/-- A token that comes without a scheme is taken as it is. -/
theorem extractBearerToken_compactJwt (header payload signature : List UInt8) :
    extractBearerToken (compactJwt header payload signature) =
      .ok (compactJwt header payload signature) := by
  have hdot : '.' ∈ (compactJwt header payload signature).toList := by
    simp [compactJwt, signingInput]
  have hempty : compactJwt header payload signature ≠ "" := by
    intro h
    rw [h] at hdot
    cases hdot
  have hbearer : Text.eqIgnoreAsciiCase (compactJwt header payload signature) "Bearer" = false := by
    rw [Text.eqIgnoreAsciiCase, beq_eq_false_iff_ne]
    intro h
    have hmem : '.'.toLower ∈ (compactJwt header payload signature).toList.map Char.toLower :=
      List.mem_map_of_mem hdot
    rw [h] at hmem
    revert hmem
    decide
  have hwhole : Text.splitOnceP Text.isWhitespace (compactJwt header payload signature) = none :=
    Text.splitOnceP_eq_none fun _ hc => Base64.not_isWhitespace_of_visible (visible_compactJwt hc)
  simp only [extractBearerToken, trim_compactJwt, if_neg hempty, hbearer, Bool.false_eq_true, if_false,
    hwhole]

theorem decodeSegment_encode (X : ServiceCrates) (data : List UInt8) :
    decodeSegment X (base64urlEncode data) = .ok data := by
  rw [decodeSegment, base64urlEncode, Base64.decodeNoPad_encode]

theorem encode_ne_empty {data : List UInt8} (h : data ≠ []) : base64urlEncode data ≠ "" := by
  intro hempty
  have hdecode : Base64.decodeNoPad (base64urlEncode data) = some data := Base64.decodeNoPad_encode data
  rw [hempty] at hdecode
  exact h (Option.some.inj hdecode).symm

/-- A token in compact form whose parts parse. -/
theorem parseServiceJwt_compactJwt {X : ServiceCrates} {header payload signature : List UInt8}
    {joseHeader : ServiceJwtHeader} {claims : ServiceJwtClaims} {issuer : String}
    (hheader : X.jsonFromSlice header >>= ServiceJwtHeader.fromJson = .ok joseHeader)
    (halg : algIdFromStr joseHeader.alg ≠ ALG_NONE)
    (hpayload : X.jsonFromSlice payload >>= ServiceJwtClaims.fromJson = .ok claims)
    (hissuer : claims.iss.or claims.sub = some issuer) (hsignature : signature ≠ []) :
    parseServiceJwt X (compactJwt header payload signature) =
      .ok { headerB64 := base64urlEncode header, payloadB64 := base64urlEncode payload,
            signatureB64 := base64urlEncode signature, alg := joseHeader.alg, claims := claims,
            issuer := issuer } := by
  have hclaims : parseServiceJwtClaimsUnverified X (compactJwt header payload signature) = .ok claims := by
    rw [parseServiceJwtClaimsUnverified, trim_compactJwt, split_compactJwt]
    simp only [if_neg (encode_ne_empty hsignature), decodeSegment_encode, Fallible.mapError_ok,
      Fallible.ok_bind, hpayload]
  rw [parseServiceJwt, extractBearerToken_compactJwt, Fallible.ok_bind, split_compactJwt]
  simp only [decodeSegment_encode, Fallible.mapError_ok, Fallible.ok_bind, hheader, if_neg halg, hclaims,
    hissuer, Option.elim_some]
  rfl

/-! ## A call -/

namespace ServiceAuthVerifier

variable {X : ServiceCrates} {N : NetCrates} {W : World} {v : ServiceAuthVerifier}
  {did token first : String} {expectedAudiences : List String} {nowSecs leewaySecs : UInt64}
  {key : AtprotoVerifyingKey} {claims : ServiceJwtClaims} {jwt : ServiceJwt}

theorem resolveAtprotoKey_of_cached (hvalid : isValidServiceDid did = true)
    (hcached : v.keyCache.getAtprotoKey did nowSecs = some key) :
    v.resolveAtprotoKey X N W did nowSecs first = (.ok key, v.keyCache) := by
  rw [resolveAtprotoKey, if_neg (by simp [hvalid]), hcached]

theorem resolveAtprotoKey_of_resolved {doc : DidDocument} (hvalid : isValidServiceDid did = true)
    (hmiss : v.keyCache.getAtprotoKey did nowSecs = none)
    (hdoc : v.resolver.resolveDid X.toCrates N W did = .ok doc)
    (hkey : extractAtprotoKeyFromDocument X doc = .ok key) :
    v.resolveAtprotoKey X N W did nowSecs first =
      (.ok key, v.keyCache.insertAtprotoKey did key nowSecs first) := by
  rw [resolveAtprotoKey, if_neg (by simp [hvalid]), hmiss, hdoc]
  simp only [Fallible.mapError_ok, Fallible.ok_bind, hkey]

/-- The key comes from the cache, or from the document and is then put into the cache. -/
theorem resolveAtprotoKey_cases (X : ServiceCrates) (N : NetCrates) (W : World) (v : ServiceAuthVerifier)
    (did : String) (nowSecs : UInt64) (first : String) :
    (∃ e, v.resolveAtprotoKey X N W did nowSecs first = (.error e, v.keyCache)) ∨
    isValidServiceDid did = true ∧
      ((∃ key, v.keyCache.getAtprotoKey did nowSecs = some key) ∨
        v.keyCache.getAtprotoKey did nowSecs = none ∧
          ∃ doc key, v.resolver.resolveDid X.toCrates N W did = .ok doc ∧
            extractAtprotoKeyFromDocument X doc = .ok key) := by
  by_cases hvalid : isValidServiceDid did = true
  · cases hcached : v.keyCache.getAtprotoKey did nowSecs with
    | some key => exact Or.inr ⟨hvalid, Or.inl ⟨key, rfl⟩⟩
    | none =>
      cases hkey : (v.resolver.resolveDid X.toCrates N W did).mapError AtprotoOAuthError.identity >>=
          extractAtprotoKeyFromDocument X with
      | error e =>
        refine Or.inl ⟨e, ?_⟩
        rw [resolveAtprotoKey, if_neg (by simp [hvalid]), hcached]
        simp only [hkey]
      | ok key =>
        obtain ⟨doc, hdoc, hextract⟩ := Fallible.bind_eq_ok.1 hkey
        exact Or.inr ⟨hvalid, Or.inr ⟨rfl, doc, key, Fallible.mapError_eq_ok.1 hdoc, hextract⟩⟩
  · refine Or.inl ⟨.identity (.invalidDidSyntax ("Invalid issuer DID: '" ++ did ++ "'")), ?_⟩
    rw [resolveAtprotoKey, if_pos (by simp [hvalid])]

/-- What it takes to be accepted. -/
theorem verifyServiceJwtClaims_eq_ok :
    (v.verifyServiceJwtClaims X N W token expectedAudiences nowSecs leewaySecs first).1 = .ok claims ↔
      ∃ jwt key, parseServiceJwt X token = .ok jwt ∧
        (v.resolveAtprotoKey X N W jwt.issuer nowSecs first).1 = .ok key ∧
        jwt.checkSignature X key = .ok true ∧
        jwt.checkClaims expectedAudiences nowSecs leewaySecs = .ok claims := by
  unfold verifyServiceJwtClaims
  cases hparse : parseServiceJwt X token with
  | error e => simp
  | ok jwt =>
    rcases hresolve : v.resolveAtprotoKey X N W jwt.issuer nowSecs first with ⟨result, cache⟩
    cases result with
    | error e => simp [hresolve]
    | ok key => simp [hresolve, ServiceJwt.verifyWith_fst_eq_ok]

/-- A token of an issuer that is not in the cache is accepted on the key of the document. -/
theorem verifyServiceJwtClaims_of_miss (v : ServiceAuthVerifier) {doc : DidDocument}
    {new : AtprotoVerifyingKey} (hparse : parseServiceJwt X token = .ok jwt)
    (hmiss : v.keyCache.getAtprotoKey jwt.issuer nowSecs = none)
    (hdoc : v.resolver.resolveDid X.toCrates N W jwt.issuer = .ok doc)
    (hnew : extractAtprotoKeyFromDocument X doc = .ok new) :
    (v.verifyServiceJwtClaims X N W token expectedAudiences nowSecs leewaySecs first).1 = .ok claims ↔
      isValidServiceDid jwt.issuer = true ∧ jwt.checkSignature X new = .ok true ∧
        jwt.checkClaims expectedAudiences nowSecs leewaySecs = .ok claims := by
  rw [verifyServiceJwtClaims_eq_ok]
  constructor
  · rintro ⟨jwt', key, hparse', hresolve, hsig, hclaims⟩
    rw [hparse] at hparse'
    cases hparse'
    rcases resolveAtprotoKey_cases X N W v jwt.issuer nowSecs first with ⟨e, he⟩ | ⟨hvalid, -⟩
    · rw [he] at hresolve
      cases hresolve
    · rw [resolveAtprotoKey_of_resolved hvalid hmiss hdoc hnew] at hresolve
      cases hresolve
      exact ⟨hvalid, hsig, hclaims⟩
  · rintro ⟨hvalid, hsig, hclaims⟩
    refine ⟨jwt, new, hparse, ?_, hsig, hclaims⟩
    rw [resolveAtprotoKey_of_resolved hvalid hmiss hdoc hnew]

/-- A token on a key in the cache. -/
theorem verifyServiceJwtClaims_of_cached (hparse : parseServiceJwt X token = .ok jwt)
    (hvalid : isValidServiceDid jwt.issuer = true)
    (hcached : v.keyCache.getAtprotoKey jwt.issuer nowSecs = some key) :
    v.verifyServiceJwtClaims X N W token expectedAudiences nowSecs leewaySecs first =
      jwt.verifyWith X key v.keyCache expectedAudiences nowSecs leewaySecs := by
  rw [verifyServiceJwtClaims, hparse]
  simp only [resolveAtprotoKey_of_cached hvalid hcached]

/-- What a call does to the cache: it may put a key in, and may drop the entry of the issuer. -/
theorem verifyServiceJwtClaims_cache (X : ServiceCrates) (N : NetCrates) (W : World)
    (v : ServiceAuthVerifier) (token : String) (expectedAudiences : List String)
    (nowSecs leewaySecs : UInt64) (first : String) :
    let after := (v.verifyServiceJwtClaims X N W token expectedAudiences nowSecs leewaySecs first).2
    after = v.keyCache ∨ ∃ jwt, parseServiceJwt X token = .ok jwt ∧
      (after = (v.resolveAtprotoKey X N W jwt.issuer nowSecs first).2 ∨
        after = (v.resolveAtprotoKey X N W jwt.issuer nowSecs first).2.invalidate jwt.issuer) := by
  unfold verifyServiceJwtClaims
  cases hparse : parseServiceJwt X token with
  | error e => exact Or.inl rfl
  | ok jwt =>
    refine Or.inr ⟨jwt, rfl, ?_⟩
    rcases hresolve : v.resolveAtprotoKey X N W jwt.issuer nowSecs first with ⟨result, cache⟩
    cases result with
    | error e => exact Or.inl (by simp [hresolve])
    | ok key => simpa [hresolve] using ServiceJwt.verifyWith_snd

end ServiceAuthVerifier

/-! ## Runs -/

namespace ServiceAuthSystem

variable {X : ServiceCrates} {N : NetCrates} {s₀ s s' : ServiceAuthSystem}

theorem from_resolve {W : World} {v : ServiceAuthVerifier} {history : List Resolution} {did first : String}
    {nowSecs : UInt64} (h : v.keyCache.From X history) :
    (v.resolveAtprotoKey X N W did nowSecs first).2.From X (history ++ resolved X N W v did nowSecs) := by
  have hkept : v.keyCache.From X (history ++ resolved X N W v did nowSecs) :=
    h.mono fun res hmem => List.mem_append_left _ hmem
  rcases ServiceAuthVerifier.resolveAtprotoKey_cases X N W v did nowSecs first with
    ⟨e, he⟩ | ⟨hvalid, ⟨key, hcached⟩ | ⟨hmiss, doc, key, hdoc, hkey⟩⟩
  · rw [he]
    exact hkept
  · rw [ServiceAuthVerifier.resolveAtprotoKey_of_cached hvalid hcached]
    exact hkept
  · rw [ServiceAuthVerifier.resolveAtprotoKey_of_resolved hvalid hmiss hdoc hkey]
    refine hkept.insertAtprotoKey (List.mem_append_right _ ?_) (IdentityResolver.resolveDid_eq_ok hdoc) hkey
    rw [resolved, if_neg (by simp [hvalid]), hmiss, hdoc]
    exact List.mem_singleton_self _

theorem from_verify {v : ServiceAuthVerifier} {history : List Resolution} (call : ServiceCall)
    (h : v.keyCache.From X history) :
    (v.verifyServiceJwtClaims X N call.world call.authHeaderOrToken call.expectedAudiences call.nowSecs
      call.leewaySecs call.first).2.From X (history ++ resolvedBy X N v call) := by
  rcases ServiceAuthVerifier.verifyServiceJwtClaims_cache X N call.world v call.authHeaderOrToken
    call.expectedAudiences call.nowSecs call.leewaySecs call.first with
    hsame | ⟨jwt, hparse, hresolve⟩
  · rw [hsame]
    exact h.mono fun res hmem => List.mem_append_left _ hmem
  · have hfrom : (v.resolveAtprotoKey X N call.world jwt.issuer call.nowSecs call.first).2.From X
        (history ++ resolvedBy X N v call) := by
      rw [resolvedBy, hparse]
      exact from_resolve h
    rcases hresolve with hsame | hdropped
    · rw [hsame]
      exact hfrom
    · rw [hdropped]
      exact hfrom.invalidate

theorem from_step {a : ServiceAuthAction} {out : Option (Except AtprotoOAuthError ServiceJwtClaims)}
    (h : s.verifier.keyCache.From X s.history) (hstep : step X N s a = some (s', out)) :
    s'.verifier.keyCache.From X s'.history := by
  cases a with
  | verify call =>
    cases hstep
    exact from_verify call h
  | resolve W did nowSecs first =>
    cases hstep
    exact from_resolve h
  | invalidate did =>
    cases hstep
    exact h.invalidate
  | clearCache =>
    cases hstep
    intro did entry hfind
    cases hfind

/-- In every run the cache holds keys of documents that the run has resolved. -/
theorem from_exec {tr : List (ServiceAuthAction × Option (Except AtprotoOAuthError ServiceJwtClaims))}
    (h₀ : s₀.verifier.keyCache.From X s₀.history) (hrun : Exec Exec.anyStep (step X N) s₀ tr s) :
    s.verifier.keyCache.From X s.history := by
  refine hrun.invariant (fun _ s => s.verifier.keyCache.From X s.history) h₀ ?_
  intro tr s a s' out h _ hstep
  exact from_step h hstep

end ServiceAuthSystem

/-! ## A sample -/

namespace ServiceSample

open DirectorySample (did net)

/-- The document of the DID, with the key with the scalar 1, 2, …, 32. -/
def text : String :=
  "\x7b\"id\":\"did:plc:aaaaaaaaaaaaaaaaaaaaaaaa\",\"verificationMethod\":" ++
    "[\x7b\"id\":\"#atproto\",\"type\":\"Multikey\",\"controller\":\"did:plc:aaaaaaaaaaaaaaaaaaaaaaaa\"," ++
    "\"publicKeyMultibase\":\"zDnaeVuZeVRqvscGkiEoR9PFFra2xZUMp97ZPuGFK1VLU7iYN\"\x7d]\x7d"

def json : Json :=
  .obj [("id", .str did), ("verificationMethod", .arr [.obj [("id", .str "#atproto"),
    ("type", .str "Multikey"), ("controller", .str did),
    ("publicKeyMultibase", .str "zDnaeVuZeVRqvscGkiEoR9PFFra2xZUMp97ZPuGFK1VLU7iYN")]])]

def document : DidDocument where
  id := did
  alsoKnownAs := []
  verificationMethod :=
    [{ id := "#atproto", keyType := "Multikey", controller := did
       publicKeyMultibase := some "zDnaeVuZeVRqvscGkiEoR9PFFra2xZUMp97ZPuGFK1VLU7iYN" }]
  service := []

def headerStr : String := "\x7b\"alg\":\"ES256\",\"typ\":\"JWT\"\x7d"

/-- The payload of a token that names its issuer and nothing else. -/
def barePayloadStr : String := "\x7b\"iss\":\"did:plc:aaaaaaaaaaaaaaaaaaaaaaaa\"\x7d"

def payloadStr : String :=
  "\x7b\"iss\":\"did:plc:aaaaaaaaaaaaaaaaaaaaaaaa\",\"aud\":\"did:web:api.example.com\"," ++
    "\"exp\":1700000300\x7d"

def bareClaims : ServiceJwtClaims where
  iss := some did
  sub := none
  aud := none
  lxm := none
  exp := none
  iat := none
  jti := none

def claims : ServiceJwtClaims :=
  { bareClaims with aud := some "did:web:api.example.com", exp := some 1700000300 }

def message (payload : String) : List UInt8 :=
  Text.asBytes (signingInput (Text.asBytes headerStr) (Text.asBytes payload))

def bareSignature : List UInt8 :=
  [157, 20, 18, 86, 13, 170, 209, 7, 115, 13, 209, 71, 126, 234, 239, 133, 124, 151, 28, 87,
    134, 175, 172, 213, 0, 90, 99, 66, 12, 34, 151, 35, 198, 0, 210, 253, 152, 232, 103, 136, 193,
    160, 128, 203, 67, 34, 114, 137, 26, 232, 136, 219, 239, 78, 68, 200, 136, 11, 253, 211, 254,
    166, 134, 43]

def signature : List UInt8 :=
  [144, 61, 44, 149, 208, 39, 194, 200, 167, 116, 232, 128, 34, 175, 25, 234, 125, 110, 244, 9,
    229, 174, 169, 14, 116, 174, 206, 163, 213, 182, 168, 206, 77, 40, 239, 208, 202, 18, 44, 175,
    173, 30, 43, 99, 97, 63, 42, 3, 54, 214, 85, 67, 144, 55, 176, 85, 99, 176, 57, 126, 107, 95,
    196, 89]

/-- The external functions as they behave on the document and the two tokens. -/
def crates : ServiceCrates where
  toCrates := { ClientSample.crates with
    fromSec1Bytes := fun bytes =>
      if bytes = compressedSec1 ClientSample.verifyingKey.x ClientSample.verifyingKey.y then
        .ok ClientSample.verifyingKey
      else .error "signature error"
    signatureFromSlice := fun bytes => if bytes.length = 64 then .ok () else .error "signature error"
    ecdsaVerify := fun key bytes sig =>
      if key = ClientSample.verifyingKey ∧ (bytes = message barePayloadStr ∧ sig = bareSignature ∨
        bytes = message payloadStr ∧ sig = signature) then .ok ()
      else .error "signature error"
    jsonFromSlice := fun bytes =>
      if bytes = Text.asBytes headerStr then .ok (.obj [("alg", .str "ES256"), ("typ", .str "JWT")])
      else if bytes = Text.asBytes barePayloadStr then .ok (.obj [("iss", .str did)])
      else if bytes = Text.asBytes payloadStr then
        .ok (.obj [("iss", .str did), ("aud", .str "did:web:api.example.com"), ("exp", .int 1700000300)])
      else if bytes = Text.asBytes text then .ok json
      else .error "expected value at line 1 column 1" }
  k256FromSec1Bytes := fun _ => .error "signature error"
  k256SignatureFromSlice := fun bytes => if bytes.length = 64 then .ok () else .error "signature error"
  k256Verify := fun _ _ _ => .error "signature error"
  base64NoPadError := fun _ => "Invalid padding"

def world : World := DirectorySample.world text

def verifier (cache : DidKeyCache) : ServiceAuthVerifier where
  resolver := DirectorySample.resolver fun _ => []
  keyCache := cache

def emptyCache : DidKeyCache := .new (fun _ => 0) DID_KEY_CACHE_TTL_SECS

def bareToken : String :=
  compactJwt (Text.asBytes headerStr) (Text.asBytes barePayloadStr) bareSignature

def token : String := compactJwt (Text.asBytes headerStr) (Text.asBytes payloadStr) signature

def bareJwt : ServiceJwt where
  headerB64 := base64urlEncode (Text.asBytes headerStr)
  payloadB64 := base64urlEncode (Text.asBytes barePayloadStr)
  signatureB64 := base64urlEncode bareSignature
  alg := "ES256"
  claims := bareClaims
  issuer := did

def jwt : ServiceJwt :=
  { bareJwt with
    payloadB64 := base64urlEncode (Text.asBytes payloadStr)
    signatureB64 := base64urlEncode signature
    claims := claims }

theorem asBytes_ne {s t : String} (h : s ≠ t) : Text.asBytes s ≠ Text.asBytes t := by
  rw [ne_eq, Text.asBytes_inj]
  exact h

theorem jsonFromSlice_header : crates.jsonFromSlice (Text.asBytes headerStr) =
    .ok (.obj [("alg", .str "ES256"), ("typ", .str "JWT")]) := by
  simp only [crates, if_true]

theorem jsonFromSlice_barePayload : crates.jsonFromSlice (Text.asBytes barePayloadStr) =
    .ok (.obj [("iss", .str did)]) := by
  have hheader : Text.asBytes barePayloadStr ≠ Text.asBytes headerStr := asBytes_ne (by decide)
  simp only [crates, if_neg hheader, if_true]

theorem jsonFromSlice_payload : crates.jsonFromSlice (Text.asBytes payloadStr) =
    .ok (.obj [("iss", .str did), ("aud", .str "did:web:api.example.com"), ("exp", .int 1700000300)]) := by
  have hheader : Text.asBytes payloadStr ≠ Text.asBytes headerStr := asBytes_ne (by decide)
  have hbare : Text.asBytes payloadStr ≠ Text.asBytes barePayloadStr := asBytes_ne (by decide)
  simp only [crates, if_neg hheader, if_neg hbare, if_true]

theorem jsonFromSlice_text : crates.jsonFromSlice (Text.asBytes text) = .ok json := by
  have hheader : Text.asBytes text ≠ Text.asBytes headerStr := asBytes_ne (by decide)
  have hbare : Text.asBytes text ≠ Text.asBytes barePayloadStr := asBytes_ne (by decide)
  have hpayload : Text.asBytes text ≠ Text.asBytes payloadStr := asBytes_ne (by decide)
  simp only [crates, if_neg hheader, if_neg hbare, if_neg hpayload, if_true]

theorem header_parses : crates.jsonFromSlice (Text.asBytes headerStr) >>= ServiceJwtHeader.fromJson =
    .ok { alg := "ES256", typ := some "JWT" } := by
  rw [jsonFromSlice_header]
  rfl

theorem parseServiceJwt_bareToken : parseServiceJwt crates bareToken = .ok bareJwt := by
  refine parseServiceJwt_compactJwt header_parses (by decide) ?_ rfl (List.cons_ne_nil _ _)
  rw [jsonFromSlice_barePayload]
  rfl

theorem parseServiceJwt_token : parseServiceJwt crates token = .ok jwt := by
  refine parseServiceJwt_compactJwt header_parses (by decide) ?_ rfl (List.cons_ne_nil _ _)
  rw [jsonFromSlice_payload]
  rfl

theorem resolveDid_sample (cache : DidKeyCache) :
    (verifier cache).resolver.resolveDid crates.toCrates net world did = .ok document :=
  DirectorySample.resolveDid_did (by decide +kernel) jsonFromSlice_text rfl rfl

theorem extractKey_document :
    extractAtprotoKeyFromDocument crates document = .ok (.p256 ClientSample.verifyingKey) := by
  rfl

theorem ecdsaVerify_bareSignature : crates.ecdsaVerify ClientSample.verifyingKey (message barePayloadStr)
    bareSignature = .ok () := by
  simp only [crates, and_self, true_or, if_true]

theorem ecdsaVerify_signature : crates.ecdsaVerify ClientSample.verifyingKey (message payloadStr)
    signature = .ok () := by
  simp only [crates, and_self, or_true, if_true]

theorem checkSignature_bareJwt :
    bareJwt.checkSignature crates (.p256 ClientSample.verifyingKey) = .ok true :=
  ServiceJwt.checkSignature_eq_ok.2
    ⟨rfl, _, decodeSegment_encode _ _, rfl, iff_of_true rfl ecdsaVerify_bareSignature⟩

theorem checkSignature_jwt : jwt.checkSignature crates (.p256 ClientSample.verifyingKey) = .ok true :=
  ServiceJwt.checkSignature_eq_ok.2
    ⟨rfl, _, decodeSegment_encode _ _, rfl, iff_of_true rfl ecdsaVerify_signature⟩

theorem checkClaims_bareJwt :
    bareJwt.checkClaims ["did:web:api.example.com"] 1700000000 60 = .ok bareClaims := by
  rfl

theorem checkClaims_jwt : jwt.checkClaims ["did:web:api.example.com"] 1700000000 60 = .ok claims := by
  rfl

theorem token_accepted (cache : DidKeyCache) (first : String)
    (h : cache.getAtprotoKey did 1700000000 = none) :
    ((verifier cache).verifyServiceJwtClaims crates net world token ["did:web:api.example.com"] 1700000000
      60 first).1 = .ok claims :=
  (ServiceAuthVerifier.verifyServiceJwtClaims_of_miss (verifier cache) parseServiceJwt_token h
    (resolveDid_sample cache) extractKey_document).2
      ⟨by decide +kernel, checkSignature_jwt, checkClaims_jwt⟩

end ServiceSample

/-! ## What an accepted token guarantees -/

namespace ServiceAuthVerifier

variable {X : ServiceCrates} {N : NetCrates} {W : World} {v : ServiceAuthVerifier}
  {did token first : String} {expectedAudiences : List String} {nowSecs leewaySecs : UInt64}
  {key : AtprotoVerifyingKey} {claims : ServiceJwtClaims} {jwt : ServiceJwt}

/-- The key of the document of a DID, which is resolved for this call or was less than the lifetime of
    the cache ago. -/
def KeyInForce (X : ServiceCrates) (N : NetCrates) (W : World) (v : ServiceAuthVerifier)
    (history : List Resolution) (did : String) (nowSecs : UInt64) (key : AtprotoVerifyingKey) : Prop :=
  (∃ doc, v.resolver.resolveDid X.toCrates N W did = .ok doc ∧ doc.id = did ∧
    extractAtprotoKeyFromDocument X doc = .ok key) ∨
  ∃ res ∈ history, res.did = did ∧ res.doc.id = did ∧ extractAtprotoKeyFromDocument X res.doc = .ok key ∧
    nowSecs.toNat < res.atSecs.toNat + v.keyCache.ttlSecs.toNat

theorem keyInForce_of_resolve {history : List Resolution} (hfrom : v.keyCache.From X history)
    (h : (v.resolveAtprotoKey X N W did nowSecs first).1 = .ok key) :
    KeyInForce X N W v history did nowSecs key := by
  rcases resolveAtprotoKey_cases X N W v did nowSecs first with
    ⟨e, he⟩ | ⟨hvalid, ⟨key', hcached⟩ | ⟨hmiss, doc, key', hdoc, hkey⟩⟩
  · rw [he] at h
    cases h
  · rw [resolveAtprotoKey_of_cached hvalid hcached] at h
    cases h
    obtain ⟨entry, hfind, rfl, hage⟩ := DidKeyCache.getAtprotoKey_eq_some hcached
    obtain ⟨res, hmem, hdid, hid, hat, hkey⟩ := hfrom did entry hfind
    exact Or.inr ⟨res, hmem, hdid, hid, hkey, by rw [hat]; exact hage⟩
  · rw [resolveAtprotoKey_of_resolved hvalid hmiss hdoc hkey] at h
    cases h
    exact Or.inl ⟨doc, hdoc, IdentityResolver.resolveDid_eq_ok hdoc, hkey⟩

/-- The token has an expiry, and an audience where one is expected. -/
def Complete (X : ServiceCrates) (token : String) (expectedAudiences : List String) : Prop :=
  ∀ jwt, parseServiceJwt X token = .ok jwt →
    jwt.claims.exp ≠ none ∧ (expectedAudiences ≠ [] → jwt.claims.aud ≠ none)

/-- Whatever a verifier has been asked before: a token that is accepted guarantees what it should exactly
    if it has an expiry, and an audience where one is expected. -/
theorem accepted_guarantees_iff {s₀ s : ServiceAuthSystem}
    {tr : List (ServiceAuthAction × Option (Except AtprotoOAuthError ServiceJwtClaims))}
    (h₀ : s₀.verifier.keyCache.From X s₀.history)
    (hrun : Exec Exec.anyStep (ServiceAuthSystem.step X N) s₀ tr s)
    (haccepted : (s.verifier.verifyServiceJwtClaims X N W token expectedAudiences nowSecs leewaySecs
      first).1 = .ok claims) :
    (∃ jwt iss key signature, parseServiceJwt X token = .ok jwt ∧ jwt.claims = claims ∧
      claims.iss = some iss ∧ isValidServiceDid iss = true ∧
      KeyInForce X N W s.verifier s.history iss nowSecs key ∧ jwt.SignedBy X key signature ∧
      (∃ exp, claims.exp = some exp ∧ nowSecs.toNat ≤ exp.toNat + leewaySecs.toNat) ∧
      (expectedAudiences ≠ [] → ∃ aud ∈ expectedAudiences, claims.aud = some aud)) ↔
    Complete X token expectedAudiences := by
  constructor
  · rintro ⟨jwt, iss, key, signature, hparse, rfl, -, -, -, -, ⟨exp, hexp, -⟩, haud⟩ jwt' hparse'
    rw [hparse] at hparse'
    cases hparse'
    refine ⟨by simp [hexp], fun hne => ?_⟩
    obtain ⟨aud, -, haud⟩ := haud hne
    simp [haud]
  · intro hcomplete
    obtain ⟨jwt, key, hparse, hresolve, hsig, hclaims⟩ := verifyServiceJwtClaims_eq_ok.1 haccepted
    obtain ⟨rfl, hexp, haud, iss, hiss, hvalid⟩ := ServiceJwt.checkClaims_eq_ok.1 hclaims
    obtain ⟨halg, signature, hdecode, hparses, hverifies⟩ := ServiceJwt.checkSignature_eq_ok.1 hsig
    obtain ⟨hhasExp, hhasAud⟩ := hcomplete jwt hparse
    have hissuer := issuer_of_iss hparse hiss
    refine ⟨jwt, iss, key, signature, hparse, rfl, hiss, hvalid, ?_,
      ⟨halg, hdecode, hparses, hverifies.1 rfl⟩, ?_, fun hne => ?_⟩
    · rw [hissuer]
      exact keyInForce_of_resolve (ServiceAuthSystem.from_exec h₀ hrun) hresolve
    · obtain ⟨exp, hsome⟩ := Option.ne_none_iff_exists'.1 hhasExp
      exact ⟨exp, hsome, ServiceJwt.checkExp_eq_ok.1 hexp exp hsome⟩
    · obtain ⟨aud, hsome⟩ := Option.ne_none_iff_exists'.1 (hhasAud hne)
      exact ⟨aud, ServiceJwt.checkAud_eq_ok.1 haud hne aud hsome, hsome⟩

end ServiceAuthVerifier

open ServiceSample in
open DirectorySample (net) in
/-- A token with neither an expiry nor an audience is accepted where an audience is expected. -/
theorem bare_token_accepted : ∃ claims, ((verifier emptyCache).verifyServiceJwtClaims crates net world
    bareToken ["did:web:api.example.com"] 1700000000 60 "").1 = .ok claims ∧
      claims.exp = none ∧ claims.aud = none :=
  ⟨bareClaims, (ServiceAuthVerifier.verifyServiceJwtClaims_of_miss (verifier emptyCache) parseServiceJwt_bareToken rfl
    (resolveDid_sample emptyCache) extractKey_document).2
      ⟨by rfl, checkSignature_bareJwt, checkClaims_bareJwt⟩, rfl, rfl⟩

open ServiceSample in
open DirectorySample (did net) in
theorem token_guarantees : ∃ key signature, jwt.claims = claims ∧
    ServiceAuthVerifier.KeyInForce crates net world (verifier emptyCache) [] did 1700000000 key ∧
      jwt.SignedBy crates key signature := by
  have haccepted := token_accepted emptyCache "" rfl
  have hcomplete : ServiceAuthVerifier.Complete crates token ["did:web:api.example.com"] := by
    intro jwt' hparse
    rw [parseServiceJwt_token] at hparse
    cases hparse
    exact ⟨Option.some_ne_none _, fun _ => Option.some_ne_none _⟩
  have h₀ : emptyCache.From crates [] := by
    intro did entry hfind
    cases hfind
  obtain ⟨jwt', iss, key, signature, hparse, hclaims, hiss, -, hkey, hsigned, -, -⟩ :=
    (@ServiceAuthVerifier.accepted_guarantees_iff crates net world token "" _ _ _ claims
      ⟨verifier emptyCache, []⟩ _ [] h₀ .nil haccepted).2 hcomplete
  rw [parseServiceJwt_token] at hparse
  cases hparse
  cases hiss
  exact ⟨key, signature, hclaims, hkey, hsigned⟩

/-! ## A key that has been replaced -/

namespace ServiceAuthVerifier

variable {X : ServiceCrates} {N : NetCrates} {W : World} {v : ServiceAuthVerifier}
  {token first : String} {expectedAudiences : List String} {nowSecs leewaySecs : UInt64}
  {claims : ServiceJwtClaims} {jwt : ServiceJwt}

theorem curve_ne : CURVE_SECP256K1 ≠ CURVE_P256 := by decide

theorem alg_eq_iff {old new : AtprotoVerifyingKey} : old.alg = new.alg ↔ old.curveId = new.curveId := by
  cases old <;> cases new <;>
    simp [AtprotoVerifyingKey.alg, AtprotoVerifyingKey.curveId, curve_ne, curve_ne.symm]

theorem parses_congr {old new : AtprotoVerifyingKey} {signature : List UInt8}
    (h : old.curveId = new.curveId) : old.Parses X signature ↔ new.Parses X signature := by
  cases old with
  | secp256k1 =>
    cases new with
    | secp256k1 => rfl
    | p256 => exact absurd h curve_ne
  | p256 =>
    cases new with
    | secp256k1 => exact absurd h curve_ne.symm
    | p256 => rfl

/-- Whether a key gets as far as verifying the signature depends on its curve alone. -/
theorem exists_checkSignature_iff {old new : AtprotoVerifyingKey} {b : Bool}
    (hnew : jwt.checkSignature X new = .ok b) :
    (∃ b', jwt.checkSignature X old = .ok b') ↔ old.curveId = new.curveId := by
  obtain ⟨halg, signature, hdecode, hparses, -⟩ := ServiceJwt.checkSignature_eq_ok.1 hnew
  constructor
  · rintro ⟨b', hold⟩
    exact alg_eq_iff.1 ((ServiceJwt.checkSignature_eq_ok.1 hold).1.symm.trans halg)
  · intro hcurve
    have halg' : jwt.alg = old.alg := halg.trans (alg_eq_iff.2 hcurve).symm
    have hparses' : old.Parses X signature := (parses_congr hcurve).2 hparses
    by_cases hverifies : old.Verifies X jwt.signingInput signature
    · exact ⟨true, ServiceJwt.checkSignature_eq_ok.2
        ⟨halg', signature, hdecode, hparses', iff_of_true rfl hverifies⟩⟩
    · exact ⟨false, ServiceJwt.checkSignature_eq_ok.2
        ⟨halg', signature, hdecode, hparses', iff_of_false Bool.false_ne_true hverifies⟩⟩

/-- A token that is signed with the key of the document is rejected on another key in the cache. The
    call drops that key, and the token is accepted the next time, exactly if the two keys are on the
    same curve: otherwise the algorithm is refused before the signature is looked at. -/
theorem rotation_recovers_iff {old new : AtprotoVerifyingKey} {doc : DidDocument} {e : AtprotoOAuthError}
    {first' : String} (hparse : parseServiceJwt X token = .ok jwt)
    (hdoc : v.resolver.resolveDid X.toCrates N W jwt.issuer = .ok doc)
    (hnew : extractAtprotoKeyFromDocument X doc = .ok new)
    (hfresh : (verifyServiceJwtClaims X N W
      { v with keyCache := .new v.keyCache.hasher v.keyCache.ttlSecs } token expectedAudiences nowSecs
      leewaySecs first).1 = .ok claims)
    (hcached : v.keyCache.getAtprotoKey jwt.issuer nowSecs = some old)
    (hrejected : (v.verifyServiceJwtClaims X N W token expectedAudiences nowSecs leewaySecs first).1 =
      .error e) :
    let after := (v.verifyServiceJwtClaims X N W token expectedAudiences nowSecs leewaySecs first).2
    (after.find jwt.issuer = none ∧
      (verifyServiceJwtClaims X N W { v with keyCache := after } token expectedAudiences nowSecs
        leewaySecs first').1 = .ok claims) ↔ old.curveId = new.curveId := by
  intro after
  obtain ⟨hvalid, hsig, hclaims⟩ := (verifyServiceJwtClaims_of_miss
    { v with keyCache := .new v.keyCache.hasher v.keyCache.ttlSecs } hparse
    (DidKeyCache.getAtprotoKey_eq_none (DidKeyCache.find_new ..)) hdoc hnew).1 hfresh
  have hcall : v.verifyServiceJwtClaims X N W token expectedAudiences nowSecs leewaySecs first = _ :=
    verifyServiceJwtClaims_of_cached hparse hvalid hcached
  have hcurve : (∃ b, jwt.checkSignature X old = .ok b) ↔ old.curveId = new.curveId :=
    exists_checkSignature_iff hsig
  rw [← hcurve]
  cases hold : jwt.checkSignature X old with
  | error err =>
    -- refused before the signature is looked at: nothing is dropped
    refine iff_of_false ?_ (by simp)
    rintro ⟨hnone, -⟩
    have hafter : after = v.keyCache := by
      show (v.verifyServiceJwtClaims X N W token expectedAudiences nowSecs leewaySecs first).2 = _
      rw [hcall, ServiceJwt.verifyWith_of_error hold]
    obtain ⟨entry, hfind, -⟩ := DidKeyCache.getAtprotoKey_eq_some hcached
    rw [hafter, hfind] at hnone
    cases hnone
  | ok b =>
    cases b with
    | false =>
      have hafter : after = v.keyCache.invalidate jwt.issuer := by
        show (v.verifyServiceJwtClaims X N W token expectedAudiences nowSecs leewaySecs first).2 = _
        rw [hcall, ServiceJwt.verifyWith_of_false hold]
      have hnone : after.find jwt.issuer = none := by
        rw [hafter, DidKeyCache.find_invalidate, Function.update_self]
      refine iff_of_true ⟨hnone, ?_⟩ ⟨false, rfl⟩
      exact (verifyServiceJwtClaims_of_miss { v with keyCache := after } hparse
        (DidKeyCache.getAtprotoKey_eq_none hnone) hdoc hnew).2 ⟨hvalid, hsig, hclaims⟩
    | true =>
      -- the old key would do for the token, which is rejected
      rw [hcall, ServiceJwt.verifyWith_of_true hold, hclaims] at hrejected
      cases hrejected

end ServiceAuthVerifier

namespace ServiceSample

open DirectorySample (did net)

/-- The generator of P-256. -/
def oldP256 : VerifyingKey where
  x := [107, 23, 209, 242, 225, 44, 66, 71, 248, 188, 230, 229, 99, 164, 64, 242, 119, 3, 125, 129,
    45, 235, 51, 160, 244, 161, 57, 69, 216, 152, 194, 150]
  y := [79, 227, 66, 226, 254, 26, 127, 155, 142, 231, 235, 74, 124, 15, 158, 22, 43, 206, 51, 87,
    107, 49, 94, 206, 203, 182, 64, 104, 55, 191, 81, 245]
  x_length := rfl
  y_length := rfl

/-- The generator of secp256k1. -/
def oldSecp256k1 : Secp256k1VerifyingKey where
  x := [121, 190, 102, 126, 249, 220, 187, 172, 85, 160, 98, 149, 206, 135, 11, 7, 2, 155, 252, 219,
    45, 206, 40, 217, 89, 242, 129, 91, 22, 248, 23, 152]
  y := [72, 58, 218, 119, 38, 163, 196, 101, 93, 164, 251, 252, 14, 17, 8, 168, 253, 23, 180, 72,
    166, 133, 84, 25, 156, 71, 208, 143, 251, 16, 212, 184]
  x_length := rfl
  y_length := rfl

/-- A verifier that has resolved the DID a minute ago, when its document had another key. -/
def stale (old : AtprotoVerifyingKey) : ServiceAuthVerifier :=
  verifier (emptyCache.insertAtprotoKey did old 1699999940 "")

theorem getAtprotoKey_stale (old : AtprotoVerifyingKey) :
    (stale old).keyCache.getAtprotoKey did 1700000000 = some old :=
  DidKeyCache.getAtprotoKey_insertAtprotoKey (by decide)

theorem ecdsaVerify_oldP256 : crates.ecdsaVerify oldP256 (message payloadStr) signature ≠ .ok () := by
  have hkey : oldP256 ≠ ClientSample.verifyingKey := by decide
  simp only [crates, hkey, false_and, if_false]
  exact nofun

theorem checkSignature_oldP256 : jwt.checkSignature crates (.p256 oldP256) = .ok false :=
  ServiceJwt.checkSignature_eq_ok.2
    ⟨rfl, _, decodeSegment_encode _ _, rfl, iff_of_false Bool.false_ne_true ecdsaVerify_oldP256⟩

theorem checkSignature_oldSecp256k1 : jwt.checkSignature crates (.secp256k1 oldSecp256k1) =
    .error (algMismatch "ES256" (.secp256k1 oldSecp256k1)) := by
  rfl

/-- A call on the old key. -/
theorem verify_stale (old : AtprotoVerifyingKey) :
    (stale old).verifyServiceJwtClaims crates net world token ["did:web:api.example.com"] 1700000000 60 "" =
      jwt.verifyWith crates old (stale old).keyCache ["did:web:api.example.com"] 1700000000 60 :=
  ServiceAuthVerifier.verifyServiceJwtClaims_of_cached parseServiceJwt_token (by rfl)
    (getAtprotoKey_stale old)

theorem verify_oldP256 :
    (stale (.p256 oldP256)).verifyServiceJwtClaims crates net world token ["did:web:api.example.com"]
      1700000000 60 "" =
        (.error (.token .invalidSignature), (stale (.p256 oldP256)).keyCache.invalidate did) := by
  rw [verify_stale, ServiceJwt.verifyWith_of_false checkSignature_oldP256]
  rfl

theorem verify_oldSecp256k1 :
    (stale (.secp256k1 oldSecp256k1)).verifyServiceJwtClaims crates net world token
      ["did:web:api.example.com"] 1700000000 60 "" =
        (.error (algMismatch "ES256" (.secp256k1 oldSecp256k1)),
          (stale (.secp256k1 oldSecp256k1)).keyCache) := by
  rw [verify_stale, ServiceJwt.verifyWith_of_error checkSignature_oldSecp256k1]

end ServiceSample

open ServiceSample in
open DirectorySample (did net) in
/-- A token that is accepted on an empty cache is rejected on an old key of the other curve, which stays
    in the cache, and rejected again. -/
theorem other_curve_rotation_stuck :
    let old := AtprotoVerifyingKey.secp256k1 oldSecp256k1
    let call := (stale old).verifyServiceJwtClaims crates net world token ["did:web:api.example.com"]
      1700000000 60 ""
    ((verifier emptyCache).verifyServiceJwtClaims crates net world token ["did:web:api.example.com"]
      1700000000 60 "").1 = .ok claims ∧
    (stale old).keyCache.getAtprotoKey did 1700000000 = some old ∧
    call.1 = .error (algMismatch "ES256" old) ∧
    call.2.getAtprotoKey did 1700000000 = some old ∧
    (ServiceAuthVerifier.verifyServiceJwtClaims crates net world { stale old with keyCache := call.2 } token
      ["did:web:api.example.com"] 1700000000 60 "").1 = .error (algMismatch "ES256" old) := by
  intro old call
  have hcall : call = (.error (algMismatch "ES256" old), (stale old).keyCache) := verify_oldSecp256k1
  refine ⟨token_accepted emptyCache "" rfl, getAtprotoKey_stale old, by rw [hcall], ?_, ?_⟩
  · rw [hcall]
    exact getAtprotoKey_stale old
  · rw [hcall]
    exact congrArg Prod.fst verify_oldSecp256k1

open ServiceSample in
open DirectorySample (did net) in
theorem same_curve_rotation_recovers :
    let old := AtprotoVerifyingKey.p256 oldP256
    let call := (stale old).verifyServiceJwtClaims crates net world token ["did:web:api.example.com"]
      1700000000 60 ""
    call.2.find did = none ∧
    (ServiceAuthVerifier.verifyServiceJwtClaims crates net world { stale old with keyCache := call.2 } token
      ["did:web:api.example.com"] 1700000000 60 "").1 = .ok claims := by
  have hdoc : (stale (.p256 oldP256)).resolver.resolveDid crates.toCrates net world jwt.issuer =
      .ok document := resolveDid_sample _
  have hcached : (stale (.p256 oldP256)).keyCache.getAtprotoKey jwt.issuer 1700000000 =
      some (.p256 oldP256) := getAtprotoKey_stale _
  exact (ServiceAuthVerifier.rotation_recovers_iff parseServiceJwt_token hdoc extractKey_document
    (token_accepted (.new _ _) "" rfl) hcached (congrArg Prod.fst verify_oldP256)).2 rfl

end Skyauth
