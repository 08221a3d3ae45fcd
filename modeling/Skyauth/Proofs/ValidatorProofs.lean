import Skyauth.Validator
import Skyauth.Proofs.RoundTripProofs

/-!
# Proofs: which access tokens are accepted

A token that `sign_jwt` wrote decodes to the claims it was signed with, under the selected key and no
other. What is left of `verify_token_sync` are the checks on the claims; each succeeds under one
condition, and the token is accepted when all of them hold.
-/

namespace Skyauth

/-! ## Claims that are written and read back -/

theorem toUInt64Field_ofU64 (n : UInt64) : (Json.ofU64 n).toUInt64Field = .ok n := by
  rw [Json.ofU64, Json.toUInt64Field, toU64Field_natCast n.toNat_lt, Except.map, UInt64.ofNat_toNat]

/-- The audience as it is read back: `null` is no audience. -/
def readAudience : Option Json → Option Json
  | some .null => none
  | aud => aud

theorem optional_audience (aud : Option Json) :
    Json.optional (fun j => (.ok j : Except String Json)) aud = .ok (readAudience aud) := by
  rcases aud with _ | j
  · rfl
  · cases j <;> rfl

theorem optional_ofU64 (o : Option UInt64) :
    Json.optional Json.toUInt64Field (o.map .ofU64) = .ok o := by
  cases o with
  | none => rfl
  | some n =>
    show (Json.ofU64 n).toUInt64Field.map some = _
    rw [toUInt64Field_ofU64]
    rfl

theorem optional_str (o : Option String) : Json.optional Json.toStringField (o.map .str) = .ok o := by
  cases o <;> rfl

section Members

variable {T : Type} {members : List (String × Json)} {name key : String} {value : Json}
  {encode : T → Json} {o : Option T}

/-- No member has this name. -/
def Absent (name : String) (members : List (String × Json)) : Prop := ∀ m ∈ members, m.1 ≠ name

@[simp] theorem absent_nil : Absent name [] := by simp [Absent]

@[simp] theorem absent_cons :
    Absent name ((key, value) :: members) ↔ key ≠ name ∧ Absent name members := by
  simp [Absent]

@[simp] theorem absent_optional : Absent name (optionalMember key encode o ++ members) ↔
    (o = none ∨ key ≠ name) ∧ Absent name members := by
  cases o <;> simp [optionalMember]

theorem member_of_absent (h : Absent name members) : Json.member members name = .ok none := by
  have hfilter : members.filter (fun m => m.1 == name) = [] :=
    List.filter_eq_nil_iff.2 fun m hm => by simpa using h m hm
  have hlookup : members.lookup name = none := by
    rw [List.lookup_eq_none_iff]
    intro m hm
    simpa using (h m hm).symm
  simp [Json.member, hfilter, hlookup]

theorem member_cons_self (h : Absent name members) :
    Json.member ((name, value) :: members) name = .ok (some value) := by
  have hfilter : members.filter (fun m => m.1 == name) = [] :=
    List.filter_eq_nil_iff.2 fun m hm => by simpa using h m hm
  simp [Json.member, hfilter]

theorem member_cons_of_ne (h : key ≠ name) :
    Json.member ((key, value) :: members) name = Json.member members name := by
  have hkey : (key == name) = false := beq_eq_false_iff_ne.2 h
  have hname : (name == key) = false := beq_eq_false_iff_ne.2 h.symm
  simp [Json.member, List.lookup_cons, hkey, hname]

theorem member_optional_self (h : Absent name members) :
    Json.member (optionalMember name encode o ++ members) name = .ok (o.map encode) := by
  cases o with
  | none => exact member_of_absent h
  | some v => exact member_cons_self h

theorem member_optional_of_ne (h : key ≠ name) :
    Json.member (optionalMember key encode o ++ members) name = Json.member members name := by
  cases o with
  | none => rfl
  | some v => exact member_cons_of_ne h

end Members

namespace JwtAccessTokenClaims

/-- An object is a set of claims when each member it has is what the claim is written as. -/
theorem fromJson_obj {members : List (String × Json)} (claims : JwtAccessTokenClaims)
    (hiss : Json.member members "iss" = .ok (some (.str claims.iss)))
    (hsub : Json.member members "sub" = .ok (some (.str claims.sub)))
    (hclient : Json.member members "client_id" = .ok (some (.str claims.clientId)))
    (haud : Json.member members "aud" = .ok claims.aud)
    (hexp : Json.member members "exp" = .ok (some (.ofU64 claims.exp)))
    (hnbf : Json.member members "nbf" = .ok (claims.nbf.map .ofU64))
    (hiat : Json.member members "iat" = .ok (some (.ofU64 claims.iat)))
    (hjti : Json.member members "jti" = .ok (some (.str claims.jti)))
    (hscope : Json.member members "scope" = .ok (claims.scope.map .str))
    (hcnf : Json.member members "cnf" = .ok (some (.obj [("jkt", .str claims.cnf.jkt)]))) :
    fromJson (.obj members) = .ok { claims with aud := readAudience claims.aud } := by
  have hstr : ∀ name s : String, Json.required name Json.toStringField (some (.str s)) = .ok s :=
    fun _ _ => rfl
  have hu64 : ∀ name n, Json.required name Json.toUInt64Field (some (.ofU64 n)) = .ok n :=
    fun _ n => toUInt64Field_ofU64 n
  have hjkt : ∀ cnf : CnfClaim, Json.required "cnf" CnfClaim.fromJson
      (some (.obj [("jkt", .str cnf.jkt)])) = .ok cnf := fun _ => rfl
  simp only [fromJson, Fallible.bind_eq_ok, Fallible.pure_eq_ok, hiss, hsub, hclient, haud, hexp, hnbf,
    hiat, hjti, hscope, hcnf, hstr, hu64, hjkt, optional_audience, optional_ofU64, optional_str,
    Except.ok.injEq, exists_eq_left']

theorem fromJson_toJson (claims : JwtAccessTokenClaims) :
    fromJson claims.toJson = .ok { claims with aud := readAudience claims.aud } := by
  unfold toJson
  simp only [List.cons_append, List.nil_append, List.append_assoc]
  -- every name is written once, so each member is found past the others
  apply fromJson_obj claims <;>
    simp [member_cons_self, member_cons_of_ne, member_optional_self, member_optional_of_ne]

end JwtAccessTokenClaims

/-! ## The selected key -/

namespace JwtAccessTokenValidator

variable {v : JwtAccessTokenValidator} {claims : JwtAccessTokenClaims} {key : VerifyingKey}
  {kid : Option String} {now : Nat}

/-- The key that a token is verified with: the registered key of its key ID, the default key if there
    are no registered keys, and without a key ID the default key or else the only registered one. -/
def Selects (v : JwtAccessTokenValidator) (kid : Option String) (key : VerifyingKey) : Prop :=
  match kid with
  | some kid => v.trustedKeys.lookup kid = some key ∨ v.trustedKeys = ∅ ∧ v.defaultKey = some key
  | none =>
    v.defaultKey = some key ∨ v.defaultKey = none ∧ ∃ kid, v.trustedKeys.entries = [⟨kid, key⟩]

theorem selectKey_eq_some : v.selectKey kid = some key ↔ v.Selects kid key := by
  cases kid with
  | some kid =>
    simp only [selectKey, Selects]
    cases hlookup : v.trustedKeys.lookup kid with
    | some registered =>
      have hne : v.trustedKeys ≠ ∅ := by
        intro hempty
        rw [hempty] at hlookup
        cases hlookup
      simp [hne]
    | none =>
      have hempty : v.trustedKeys.size = 0 ↔ v.trustedKeys = ∅ := by
        rw [AList.size, List.length_eq_zero_iff, AList.ext_iff]
        rfl
      by_cases h : v.trustedKeys = ∅
      · simp [h]
      · simp [hempty, h]
  | none =>
    simp only [selectKey, Selects]
    cases hdefault : v.defaultKey with
    | some key' => simp
    | none =>
      rw [AList.size]
      rcases hentries : v.trustedKeys.entries with _ | ⟨⟨kid, key'⟩, _ | ⟨e, rest⟩⟩
      · simp
      · simp
      · simp

/-! ## The checks on the claims -/

theorem checkLifetime_eq_ok : v.checkLifetime claims now = .ok () ↔
    saturatingAdd now v.clockSkewLeeway.asSecs < claims.exp.toNat ∧
      ∀ nbf, claims.nbf = some nbf → nbf.toNat ≤ saturatingAdd now v.clockSkewLeeway.asSecs := by
  simp only [checkLifetime]
  by_cases hexp : claims.exp.toNat ≤ saturatingAdd now v.clockSkewLeeway.asSecs
  · rw [if_pos hexp]
    simp [Nat.not_lt.2 hexp]
  · rw [if_neg hexp]
    cases claims.nbf with
    | none => simp [Nat.lt_of_not_le hexp]
    | some nbf =>
      by_cases hnbf : saturatingAdd now v.clockSkewLeeway.asSecs < nbf.toNat
      · simp [hnbf, Nat.not_le.2 hnbf]
      · simp [hnbf, Nat.lt_of_not_le hexp, Nat.le_of_not_lt hnbf]

theorem checkIssuer_eq_ok : v.checkIssuer claims = .ok () ↔
    Text.trim claims.iss ≠ "" ∧ v.expectedIssuer = some claims.iss := by
  unfold checkIssuer
  by_cases hblank : Text.trim claims.iss = ""
  · simp [hblank]
  · rw [if_neg hblank]
    cases v.expectedIssuer with
    | none => simp
    | some expIss =>
      by_cases hiss : claims.iss = expIss
      · subst hiss
        simp [hblank]
      · simp [hiss, Ne.symm hiss]

/-- The audience claim is this text or a list that has it. -/
def HasAudience (expAud : String) (aud : Option Json) : Prop :=
  aud = some (.str expAud) ∨ ∃ items, aud = some (.arr items) ∧ .str expAud ∈ items

theorem matchesAudience_iff {expAud : String} {aud : Option Json} :
    matchesAudience expAud aud = true ↔ HasAudience expAud aud := by
  have hitem : ∀ item : Json, item.asStr.any (· == expAud) = true ↔ item = .str expAud := by
    intro item
    cases item <;> simp [Json.asStr]
  rcases aud with _ | aud
  · simp [matchesAudience, HasAudience]
  · cases aud with
    | arr items => simp [matchesAudience, HasAudience, hitem]
    | _ => simp [matchesAudience, HasAudience]

theorem HasAudience.readAudience_eq {expAud : String} {aud : Option Json} :
    HasAudience expAud (readAudience aud) ↔ HasAudience expAud aud := by
  rcases aud with _ | aud
  · rfl
  · cases aud with
    | null => simp [readAudience, HasAudience]
    | _ => rfl

theorem checkAudience_eq_ok {X : Crates} : v.checkAudience X claims = .ok () ↔
    ∃ expAud, v.expectedAudience = some expAud ∧ HasAudience expAud claims.aud := by
  unfold checkAudience
  cases haud : claims.aud with
  | none => simp [HasAudience]
  | some aud =>
    cases v.expectedAudience with
    | none => simp
    | some expAud =>
      simp only [Option.isNone_some, Bool.false_eq_true, if_false, Option.some.injEq, exists_eq_left',
        ← matchesAudience_iff]
      by_cases hmatch : matchesAudience expAud (some aud) = true
      · simp [hmatch]
      · simp [hmatch]

theorem checkSubject_eq_ok : v.checkSubject claims = .ok () ↔
    Text.trim claims.sub ≠ "" ∧ ∀ sub, v.expectedSubject = some sub → claims.sub = sub := by
  unfold checkSubject
  by_cases hblank : Text.trim claims.sub = ""
  · simp [hblank]
  · rw [if_neg hblank]
    cases v.expectedSubject with
    | none => simp [hblank]
    | some expSub =>
      by_cases hsub : claims.sub = expSub
      · subst hsub
        simp [hblank]
      · simp [hsub]

theorem checkScopes_eq_ok : v.checkScopes claims = .ok () ↔
    ∀ scope ∈ v.requiredScopes, scope ∈ Text.splitWhitespace (claims.scope.getD "") := by
  unfold checkScopes
  simp only [List.all_eq_true, List.contains_iff_mem]
  by_cases hall : ∀ scope ∈ v.requiredScopes, scope ∈ Text.splitWhitespace (claims.scope.getD "")
  · rw [if_pos hall]
    exact ⟨fun _ => hall, fun _ => rfl⟩
  · rw [if_neg hall]
    exact ⟨fun hok => (by cases hok), fun h => absurd h hall⟩

theorem checkBinding_eq_ok {jkt : String} : checkBinding claims jkt = .ok () ↔ claims.cnf.jkt = jkt := by
  unfold checkBinding
  by_cases h : constantTimeEq (Text.asBytes claims.cnf.jkt) (Text.asBytes jkt) = true
  · rw [if_pos h]
    simp [Text.asBytes_inj.1 (constantTimeEq_iff.1 h)]
  · rw [if_neg h]
    refine ⟨fun hok => (by cases hok), fun heq => absurd ?_ h⟩
    rw [heq]
    exact constantTimeEq_iff.2 rfl

/-! ## Signed tokens -/

/-- The external functions do their job on a token with this header and payload: what is printed
    parses back, and what is signed verifies under the key of the signer and no other. -/
structure SignsToken (X : Crates) (key : SigningKey) (header payload : Json)
    (headerStr payloadStr : String) : Prop where
  print_header : X.jsonToString header = .ok headerStr
  print_payload : X.jsonToString payload = .ok payloadStr
  parse_header : X.jsonFromSlice (Text.asBytes headerStr) = .ok header
  parse_payload : X.jsonFromSlice (Text.asBytes payloadStr) = .ok payload
  signs : let message := Text.asBytes (signingInput (Text.asBytes headerStr) (Text.asBytes payloadStr))
    let signature := X.ecdsaSign key message
    signature.length = 64 ∧ X.signatureFromSlice signature = .ok () ∧
      ∀ verifyingKey, X.ecdsaVerify verifyingKey message signature = .ok () ↔
        verifyingKey = X.verifyingKey key

variable {X : ValidatorCrates} {signingKey : SigningKey} {headerStr payloadStr : String}

/-- The token that `sign_jwt` writes. -/
theorem signJwt_eq_ok (h : SignsToken X.toCrates signingKey (accessTokenHeader kid) claims.toJson headerStr
    payloadStr) :
    claims.signJwt X.toCrates signingKey kid =
      .ok (compactJwt (Text.asBytes headerStr) (Text.asBytes payloadStr) (X.ecdsaSign signingKey
        (Text.asBytes (signingInput (Text.asBytes headerStr) (Text.asBytes payloadStr))))) := by
  have hsign : signP256Raw X.toCrates signingKey (Text.asBytes (base64urlEncode (Text.asBytes headerStr) ++
      "." ++ base64urlEncode (Text.asBytes payloadStr))) = .ok (X.ecdsaSign signingKey
        (Text.asBytes (signingInput (Text.asBytes headerStr) (Text.asBytes payloadStr)))) :=
    if_neg (not_not.2 h.signs.1)
  simp only [JwtAccessTokenClaims.signJwt, h.print_header, h.print_payload, hsign, Fallible.mapError_ok, bind,
    Except.bind]
  rfl

theorem accessTokenKid_header (kid : Option String) :
    accessTokenKid X (accessTokenHeader kid) = .ok kid := by
  cases kid <;> rfl

/-- A signed token decodes under the key of its signer and no other. -/
theorem decodeToken_signed {read : JwtAccessTokenClaims}
    (h : SignsToken X.toCrates signingKey (accessTokenHeader kid) claims.toJson headerStr payloadStr) :
    v.decodeToken X (compactJwt (Text.asBytes headerStr) (Text.asBytes payloadStr)
        (X.ecdsaSign signingKey
          (Text.asBytes (signingInput (Text.asBytes headerStr) (Text.asBytes payloadStr))))) = .ok read ↔
      v.Selects kid (X.verifyingKey signingKey) ∧
        read = { claims with aud := readAudience claims.aud } := by
  obtain ⟨hlen, hparse, hverify⟩ := h.signs
  have hsig : ∀ key, verifyP256Raw X.toCrates key
      (Text.asBytes (base64urlEncode (Text.asBytes headerStr) ++ "." ++
        base64urlEncode (Text.asBytes payloadStr)))
      (X.ecdsaSign signingKey
        (Text.asBytes (signingInput (Text.asBytes headerStr) (Text.asBytes payloadStr)))) = .ok () ↔
        key = X.verifyingKey signingKey := by
    intro key
    constructor
    · intro hok
      exact (hverify key).1 (verifyP256Raw_eq_ok.1 hok).2.2
    · intro heq
      exact verifyP256Raw_eq_ok.2 ⟨hlen, hparse, (hverify key).2 heq⟩
  unfold decodeToken
  rw [trim_compactJwt, split_compactJwt]
  simp only [Fallible.bind_eq_ok, Fallible.mapError_eq_ok, Fallible.elim_eq_ok, base64urlDecode_encode,
    h.parse_header, accessTokenKid_header, h.parse_payload, JwtAccessTokenClaims.fromJson_toJson, hsig,
    selectKey_eq_some, Except.ok.injEq, exists_eq_left', exists_const]
  constructor
  · rintro ⟨key, hselects, rfl, rfl⟩
    exact ⟨hselects, rfl⟩
  · rintro ⟨hselects, rfl⟩
    exact ⟨_, hselects, rfl, rfl⟩

theorem verifyTokenSync_eq_ok {token jkt : String} {clock : SystemTime} {user : AuthenticatedUser}
    (hclock : clock.unixSecs = .ok now) :
    v.verifyTokenSync X token jkt clock = .ok user ↔
      ∃ claims, v.decodeToken X token = .ok claims ∧ v.checkLifetime claims now = .ok () ∧
        v.checkIssuer claims = .ok () ∧ v.checkAudience X.toCrates claims = .ok () ∧
        v.checkSubject claims = .ok () ∧ v.checkScopes claims = .ok () ∧
        checkBinding claims jkt = .ok () ∧
        { did := claims.sub, accessToken := token, dpopThumbprint := jkt, scope := claims.scope } =
          user := by
  simp only [verifyTokenSync, hclock, Fallible.bind_eq_ok, Fallible.mapError_eq_ok, Fallible.pure_eq_ok,
    Except.ok.injEq, exists_eq_left', Unique.exists_iff]

end JwtAccessTokenValidator

open JwtAccessTokenValidator in
/-- The tokens that are accepted. A token signed with a key is accepted exactly if that key is the
    selected one and every claim is as the configuration wants it; the user is then the subject, bound to
    the thumbprint that was presented. -/
theorem signed_token_accepted_iff {X : ValidatorCrates} {v : JwtAccessTokenValidator}
    {claims : JwtAccessTokenClaims} {signingKey : SigningKey} {kid : Option String} {jkt : String}
    {clock : SystemTime} {now : Nat} {headerStr payloadStr : String}
    (hsign : SignsToken X.toCrates signingKey (accessTokenHeader kid) claims.toJson headerStr payloadStr)
    (hclock : clock.unixSecs = .ok now) :
    ∃ token, claims.signJwt X.toCrates signingKey kid = .ok token ∧
      ((∃ user, v.verifyTokenSync X token jkt clock = .ok user) ↔
        v.Selects kid (X.verifyingKey signingKey) ∧
          saturatingAdd now v.clockSkewLeeway.asSecs < claims.exp.toNat ∧
          (∀ nbf, claims.nbf = some nbf → nbf.toNat ≤ saturatingAdd now v.clockSkewLeeway.asSecs) ∧
          Text.trim claims.iss ≠ "" ∧ v.expectedIssuer = some claims.iss ∧
          (∃ expAud, v.expectedAudience = some expAud ∧ HasAudience expAud claims.aud) ∧
          Text.trim claims.sub ≠ "" ∧ (∀ sub, v.expectedSubject = some sub → claims.sub = sub) ∧
          (∀ scope ∈ v.requiredScopes, scope ∈ Text.splitWhitespace (claims.scope.getD "")) ∧
          claims.cnf.jkt = jkt) ∧
      ∀ user, v.verifyTokenSync X token jkt clock = .ok user →
        user.did = claims.sub ∧ user.dpopThumbprint = jkt := by
  refine ⟨_, signJwt_eq_ok hsign, ?_, fun user huser => ?_⟩
  · simp only [verifyTokenSync_eq_ok hclock, decodeToken_signed hsign, checkLifetime_eq_ok,
      checkIssuer_eq_ok, checkAudience_eq_ok, checkSubject_eq_ok, checkScopes_eq_ok, checkBinding_eq_ok]
    constructor
    · rintro ⟨user, read, ⟨hselects, rfl⟩, ⟨hexp, hnbf⟩, ⟨hiss, hexpIss⟩, ⟨expAud, hexpAud, haud⟩,
        ⟨hsub, hexpSub⟩, hscopes, hjkt, -⟩
      exact ⟨hselects, hexp, hnbf, hiss, hexpIss, ⟨expAud, hexpAud, HasAudience.readAudience_eq.1 haud⟩,
        hsub, hexpSub, hscopes, hjkt⟩
    · rintro ⟨hselects, hexp, hnbf, hiss, hexpIss, ⟨expAud, hexpAud, haud⟩, hsub, hexpSub, hscopes, hjkt⟩
      exact ⟨_, _, ⟨hselects, rfl⟩, ⟨hexp, hnbf⟩, ⟨hiss, hexpIss⟩,
        ⟨expAud, hexpAud, HasAudience.readAudience_eq.2 haud⟩, ⟨hsub, hexpSub⟩, hscopes, hjkt, rfl⟩
  · obtain ⟨read, hdecode, -, -, -, -, -, -, rfl⟩ := (verifyTokenSync_eq_ok hclock).1 huser
    obtain ⟨-, rfl⟩ := (decodeToken_signed hsign).1 hdecode
    exact ⟨rfl, rfl⟩

namespace TokenSample

def claims : JwtAccessTokenClaims :=
  ((JwtAccessTokenClaims.new "https://as.example.com" "did:plc:abc" 2000000000 "k"
    (SystemTime.ofSecs 1700000000) (List.replicate 16 0)).withAudience "https://rs.example.com").withScope
      "atproto"

def validator : JwtAccessTokenValidator :=
  (((JwtAccessTokenValidator.new.withVerifyingKey ClientSample.verifyingKey).withExpectedIssuer
    "https://as.example.com").withExpectedAudience "https://rs.example.com").withRequiredScope "atproto"

def headerStr : String := "\x7b\"alg\":\"ES256\",\"typ\":\"at+jwt\"\x7d"

def payloadStr : String :=
  "\x7b\"iss\":\"https://as.example.com\",\"sub\":\"did:plc:abc\"," ++
    "\"client_id\":\"https://app.example.com/client-metadata.json\"," ++
    "\"aud\":\"https://rs.example.com\",\"exp\":2000000000,\"iat\":1700000000," ++
    "\"jti\":\"AAAAAAAAAAAAAAAAAAAAAA\",\"scope\":\"atproto\",\"cnf\":\x7b\"jkt\":\"k\"\x7d\x7d"

/-- The signature of the token under the key with the scalar 1, 2, …, 32. -/
def signature : List UInt8 :=
  [140, 218, 58, 47, 141, 191, 186, 219, 251, 16, 174, 29, 142, 162, 5, 233, 177, 246, 58, 119,
    80, 18, 181, 165, 255, 182, 213, 233, 168, 141, 176, 159, 45, 96, 43, 127, 191, 57, 182, 234,
    170, 75, 145, 158, 143, 107, 40, 148, 13, 227, 73, 46, 40, 88, 104, 182, 16, 194, 51, 171, 16,
    33, 110, 218]

/-- The external functions as they behave on the token. -/
def crates : ValidatorCrates where
  toCrates := { ClientSample.crates with
    ecdsaSign := fun _ _ => signature
    ecdsaVerify := fun key _ sig =>
      if key = ClientSample.verifyingKey ∧ sig = signature then .ok () else .error "signature error"
    jsonFromSlice := fun bytes =>
      if bytes = Text.asBytes headerStr then .ok (accessTokenHeader none)
      else if bytes = Text.asBytes payloadStr then .ok claims.toJson
      else .error "expected value at line 1 column 1"
    jsonToString := fun j => if (j.get "alg").isSome then .ok headerStr else .ok payloadStr }
  strDebug := fun s => "\"" ++ s ++ "\""

theorem signsToken : JwtAccessTokenValidator.SignsToken crates.toCrates ClientSample.key.signingKey
    (accessTokenHeader none) claims.toJson headerStr payloadStr where
  print_header := rfl
  print_payload := rfl
  parse_header := by simp only [crates, if_true]
  parse_payload := by
    have hne : Text.asBytes payloadStr ≠ Text.asBytes headerStr := by
      rw [ne_eq, Text.asBytes_inj]
      decide
    simp only [crates, if_neg hne, if_true]
  signs := by
    refine ⟨rfl, rfl, fun key => ?_⟩
    show (if key = ClientSample.verifyingKey ∧ signature = signature then _ else _) = _ ↔
      key = ClientSample.verifyingKey
    by_cases h : key = ClientSample.verifyingKey
    · simp [h]
    · simp [h]

end TokenSample

open TokenSample in
theorem signed_token_accepted_sample :
    ∃ token user, claims.signJwt crates.toCrates ClientSample.key.signingKey none = .ok token ∧
      validator.verifyTokenSync crates token "k" (SystemTime.ofSecs 1800000000) = .ok user ∧
      user.did = "did:plc:abc" ∧ user.dpopThumbprint = "k" := by
  have hnbf : claims.nbf = none := rfl
  have hsubject : validator.expectedSubject = none := rfl
  obtain ⟨token, htoken, hiff, huser⟩ := @signed_token_accepted_iff crates validator claims
    ClientSample.key.signingKey none "k" _ _ _ _ signsToken (SystemTime.unixSecs_ofSecs 1800000000)
  obtain ⟨user, hok⟩ := hiff.2 ⟨Or.inl rfl, by decide, by simp [hnbf], by decide, rfl,
    ⟨_, rfl, Or.inl rfl⟩, by decide, by simp [hsubject], by decide, rfl⟩
  exact ⟨token, user, htoken, hok, huser user hok⟩

/-! ## The leeway -/

theorem saturatingAdd_mono {a b c : Nat} (h : b ≤ c) : saturatingAdd a b ≤ saturatingAdd a c := by
  unfold saturatingAdd
  omega

theorem Duration.asSecs_mono {d d' : Duration} (h : d.nanos ≤ d'.nanos) : d.asSecs ≤ d'.asSecs :=
  Nat.div_le_div_right h

namespace JwtAccessTokenValidator

/-- Only the checks on `exp` and `nbf` read the leeway. -/
theorem verifyTokenSync_withClockSkew {X : ValidatorCrates} {v : JwtAccessTokenValidator}
    {token jkt : String} {clock : SystemTime} {now : Nat} {user : AuthenticatedUser} (leeway : Duration)
    (hclock : clock.unixSecs = .ok now) :
    (v.withClockSkew leeway).verifyTokenSync X token jkt clock = .ok user ↔
      ∃ claims, v.decodeToken X token = .ok claims ∧
        (saturatingAdd now leeway.asSecs < claims.exp.toNat ∧
          ∀ nbf, claims.nbf = some nbf → nbf.toNat ≤ saturatingAdd now leeway.asSecs) ∧
        v.checkIssuer claims = .ok () ∧ v.checkAudience X.toCrates claims = .ok () ∧
        v.checkSubject claims = .ok () ∧ v.checkScopes claims = .ok () ∧
        checkBinding claims jkt = .ok () ∧
        { did := claims.sub, accessToken := token, dpopThumbprint := jkt, scope := claims.scope } =
          user := by
  have hselect : (v.withClockSkew leeway).selectKey = v.selectKey := by
    funext kid
    cases kid <;> rfl
  have hdecode : (v.withClockSkew leeway).decodeToken X token = v.decodeToken X token := by
    unfold decodeToken
    rw [hselect]
  rw [verifyTokenSync_eq_ok hclock, hdecode]
  simp only [checkLifetime_eq_ok]
  exact Iff.rfl

end JwtAccessTokenValidator

open JwtAccessTokenValidator in
/-- A token that is accepted is accepted with more leeway exactly if it does not expire within that
    leeway: the leeway is added to the clock before the comparison with `exp`, too. -/
theorem accepted_with_more_leeway_iff {X : ValidatorCrates} {v : JwtAccessTokenValidator}
    {token jkt : String} {clock : SystemTime} {leeway leeway' : Duration} {user : AuthenticatedUser}
    (hle : leeway.nanos ≤ leeway'.nanos)
    (hok : (v.withClockSkew leeway).verifyTokenSync X token jkt clock = .ok user) :
    ∃ claims now, v.decodeToken X token = .ok claims ∧ clock.unixSecs = .ok now ∧
      ((∃ user', (v.withClockSkew leeway').verifyTokenSync X token jkt clock = .ok user') ↔
        saturatingAdd now leeway'.asSecs < claims.exp.toNat) := by
  obtain ⟨now, hclock⟩ : ∃ now, clock.unixSecs = .ok now := by
    simp only [verifyTokenSync, Fallible.bind_eq_ok, Fallible.mapError_eq_ok] at hok
    obtain ⟨-, -, now, hclock, -⟩ := hok
    exact ⟨now, hclock⟩
  obtain ⟨claims, hdecode, ⟨-, hnbf⟩, hrest⟩ := (verifyTokenSync_withClockSkew leeway hclock).1 hok
  refine ⟨claims, now, hdecode, hclock, ?_⟩
  simp only [verifyTokenSync_withClockSkew leeway' hclock]
  constructor
  · rintro ⟨user', claims', hdecode', ⟨hexp, -⟩, -⟩
    obtain rfl : claims = claims' := Except.ok.inj (hdecode.symm.trans hdecode')
    exact hexp
  · intro hexp
    -- of the two checks that read the leeway the one on `nbf` gets weaker
    have hsecs : saturatingAdd now leeway.asSecs ≤ saturatingAdd now leeway'.asSecs :=
      saturatingAdd_mono (Duration.asSecs_mono hle)
    exact ⟨user, claims, hdecode, ⟨hexp, fun nbf h => le_trans (hnbf nbf h) hsecs⟩, hrest⟩

namespace TokenSample

/-- The signed token. -/
def token : String :=
  compactJwt (Text.asBytes headerStr) (Text.asBytes payloadStr) signature

/-- With any leeway, the token is accepted up to the leeway before it expires. -/
theorem verify_iff {leeway : Duration} {clock : SystemTime} {now : Nat} (hclock : clock.unixSecs = .ok now) :
    (∃ user, (validator.withClockSkew leeway).verifyTokenSync crates token "k" clock = .ok user) ↔
      saturatingAdd now leeway.asSecs < 2000000000 := by
  have hdecode : ∀ read, validator.decodeToken crates token = .ok read ↔ read = claims := fun read =>
    (JwtAccessTokenValidator.decodeToken_signed signsToken).trans
      ⟨fun h => h.2, fun h => ⟨Or.inl rfl, h⟩⟩
  have hnbf : claims.nbf = none := rfl
  simp only [JwtAccessTokenValidator.verifyTokenSync_withClockSkew leeway hclock, hdecode]
  constructor
  · rintro ⟨user, claims', rfl, ⟨hexp, -⟩, -⟩
    exact hexp
  · intro hexp
    refine ⟨_, claims, rfl, ⟨hexp, by simp [hnbf]⟩, ?_, ?_, ?_, ?_, rfl, rfl⟩
    all_goals decide

end TokenSample

open TokenSample in
/-- A token that is 90 seconds from its expiry is accepted with a leeway of one minute and rejected with
    one of two minutes. -/
theorem more_leeway_rejects : ∃ leeway leeway' : Duration, leeway.nanos ≤ leeway'.nanos ∧
    (∃ user, (validator.withClockSkew leeway).verifyTokenSync crates token "k"
      (SystemTime.ofSecs 1999999910) = .ok user) ∧
    ¬ ∃ user, (validator.withClockSkew leeway').verifyTokenSync crates token "k"
      (SystemTime.ofSecs 1999999910) = .ok user := by
  refine ⟨Duration.fromSecs 60 Duration.minute_lt, Duration.fromSecs 120 (by decide), by decide, ?_, ?_⟩
  · rw [verify_iff (SystemTime.unixSecs_ofSecs 1999999910)]
    decide
  · rw [verify_iff (SystemTime.unixSecs_ofSecs 1999999910)]
    decide

open TokenSample in
theorem accepted_with_an_hour_of_leeway :
    ∃ user, (validator.withClockSkew (Duration.fromSecs 3600 (by decide))).verifyTokenSync crates token
      "k" (SystemTime.ofSecs 1800000000) = .ok user := by
  have hclock := SystemTime.unixSecs_ofSecs 1800000000
  have hminute : saturatingAdd 1800000000 (Duration.fromSecs 60 Duration.minute_lt).asSecs < 2000000000 := by
    decide
  obtain ⟨user, hok⟩ := (verify_iff hclock).2 hminute
  obtain ⟨read, now, hdecode, hnow, hiff⟩ := accepted_with_more_leeway_iff
    (show (Duration.fromSecs 60 Duration.minute_lt).nanos ≤ (Duration.fromSecs 3600 (by decide)).nanos by decide)
    hok
  obtain rfl : now = 1800000000 := Except.ok.inj (hnow.symm.trans hclock)
  obtain ⟨-, rfl⟩ := (JwtAccessTokenValidator.decodeToken_signed signsToken).1 hdecode
  exact hiff.2 (by decide)

end Skyauth
