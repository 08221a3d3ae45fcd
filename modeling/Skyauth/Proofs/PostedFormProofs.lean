import Skyauth.Lib.Form
import Skyauth.Proofs.RequestProofs
import Skyauth.Proofs.TokenEndpointProofs

/-!
# Proofs: what a server reads in a posted form

A server that parses a posted form reads the pairs that were put into it, whatever they contain. So every
attempt to post a token request or a pushed authorization request shows exactly its parameters and the
credentials of the client, under a proof of the key of the form (`Posted`).
-/

namespace Skyauth

/-! ## Forms -/

/-- The bytes of one encoded byte. -/
def formBytes (b : UInt8) : List UInt8 := Text.asBytes (formByte b)

/-- A hex digit as it is written, and how it is read. -/
theorem upperDigit_spec {d : Nat} (h : d < 16) :
    ((Nat.digitChar d).toUpper).toNat < 128 ∧
      Hex.toDigit 16 ((Nat.digitChar d).toUpper) = some d ∧
      (Nat.digitChar d).toUpper ≠ '+' ∧ (Nat.digitChar d).toUpper ≠ '&' ∧ (Nat.digitChar d).toUpper ≠ '=' := by
  have hall : ∀ m : Fin 16, ((Nat.digitChar m).toUpper).toNat < 128 ∧
      Hex.toDigit 16 ((Nat.digitChar m).toUpper) = some m.val ∧
      (Nat.digitChar m).toUpper ≠ '+' ∧ (Nat.digitChar m).toUpper ≠ '&' ∧
      (Nat.digitChar m).toUpper ≠ '=' := by decide
  exact hall ⟨d, h⟩

theorem asBytes_singleton {c : Char} (h : c.toNat < 128) :
    Text.asBytes (String.singleton c) = [UInt8.ofNat c.toNat] := by
  rw [Text.asBytes_of_ascii (by simpa using h), String.toList_singleton]
  rfl

/-- A character that is no special one is written as another byte than the special one. -/
theorem ofNat_toNat_ne {c d : Char} (hc : c.toNat < 128) (hd : d.toNat < 128) (h : c ≠ d) :
    UInt8.ofNat c.toNat ≠ UInt8.ofNat d.toNat := by
  intro heq
  have hnat := congrArg UInt8.toNat heq
  rw [UInt8.toNat_ofNat', UInt8.toNat_ofNat', Nat.mod_eq_of_lt (by omega), Nat.mod_eq_of_lt (by omega)]
    at hnat
  exact h (Char.toNat_inj.1 hnat)

theorem charOf_ofNat {c : Char} (h : c.toNat < 128) : Char.ofNat (UInt8.ofNat c.toNat).toNat = c := by
  rw [UInt8.toNat_ofNat', Nat.mod_eq_of_lt (by omega), Char.ofNat_toNat]

/-- The ways in which a byte is written. -/
theorem formBytes_cases (b : UInt8) :
    (formBytes b = [b] ∧ b ≠ 37 ∧ b ≠ 43 ∧ b ≠ 38 ∧ b ≠ 61) ∨ (formBytes b = [43] ∧ b = 32) ∨
      ∃ hi lo, formBytes b = [37, hi, lo] ∧ Form.escaped hi lo = some b ∧
        (hi ≠ 43 ∧ hi ≠ 38 ∧ hi ≠ 61) ∧ lo ≠ 43 ∧ lo ≠ 38 ∧ lo ≠ 61 := by
  have hchar := Hex.toNat_charOf b
  have hb := b.toNat_lt
  simp only [formBytes, formByte]
  split_ifs with hplain hblank
  · refine Or.inl ⟨?_, ?_⟩
    · have hascii : (Char.ofNat b.toNat).toNat < 128 := by
        simp only [Bool.or_eq_true, Bool.and_eq_true, decide_eq_true_eq, beq_iff_eq] at hplain
        rcases hplain with (((⟨-, hlt⟩ | h) | h) | h) | h
        · rw [hchar]
          exact UInt8.lt_iff_toNat_lt.1 hlt
        all_goals
          rw [h]
          decide
      rw [asBytes_singleton hascii, hchar, UInt8.ofNat_toNat]
    · refine ⟨?_, ?_, ?_, ?_⟩
      all_goals
        rintro rfl
        revert hplain
        decide
  · refine Or.inr (Or.inl ⟨by decide, ?_⟩)
    have hnat := congrArg Char.toNat (beq_iff_eq.1 hblank)
    rw [hchar] at hnat
    exact UInt8.toNat_inj.1 hnat
  · obtain ⟨hhi, hhigh, hhi'⟩ := upperDigit_spec (d := b.toNat / 16) (by omega)
    obtain ⟨hlo, hlow, hlo'⟩ := upperDigit_spec (d := b.toNat % 16) (by omega)
    have hbyte : 16 * (b.toNat / 16) + b.toNat % 16 = b.toNat := Nat.div_add_mod b.toNat 16
    refine Or.inr (Or.inr ⟨UInt8.ofNat (Nat.digitChar (b.toNat / 16)).toUpper.toNat,
      UInt8.ofNat (Nat.digitChar (b.toNat % 16)).toUpper.toNat, ?_, ?_, ?_, ?_⟩)
    · rw [Text.asBytes_append, Text.asBytes_append, asBytes_singleton hhi, asBytes_singleton hlo]
      rfl
    · rw [Form.escaped, charOf_ofNat hhi, charOf_ofNat hlo, hhigh, hlow]
      simp only [Option.bind_eq_bind, Option.bind_some, Option.pure_def, hbyte, UInt8.ofNat_toNat]
    · exact ⟨ofNat_toNat_ne hhi (by decide) hhi'.1, ofNat_toNat_ne hhi (by decide) hhi'.2.1,
        ofNat_toNat_ne hhi (by decide) hhi'.2.2⟩
    · exact ⟨ofNat_toNat_ne hlo (by decide) hlo'.1, ofNat_toNat_ne hlo (by decide) hlo'.2.1,
        ofNat_toNat_ne hlo (by decide) hlo'.2.2⟩

theorem faithful_formBytes : Form.Faithful formBytes where
  no_separator := by
    intro b
    rcases formBytes_cases b with ⟨h, -, -, hamp, heq⟩ | ⟨h, -⟩ | ⟨hi, lo, h, -, hhi, hlo⟩
    · rw [h]
      simp [Ne.symm hamp, Ne.symm heq]
    · rw [h]
      decide
    · rw [h]
      simp [Ne.symm hhi.2.1, Ne.symm hhi.2.2, Ne.symm hlo.2.1, Ne.symm hlo.2.2]
  decodes := by
    intro b rest
    rw [Form.component, Form.replacePlus_append]
    rcases formBytes_cases b with ⟨h, hpercent, hplus, -⟩ | ⟨h, rfl⟩ | ⟨hi, lo, h, hescaped, hhi, hlo⟩
    · have hkeep : Form.replacePlus [b] = [b] := by simp [Form.replacePlus, hplus]
      rw [h, hkeep, List.singleton_append, Form.percentDecode_cons hpercent]
      rfl
    · have hblank : Form.replacePlus [43] = [32] := rfl
      rw [h, hblank, List.singleton_append, Form.percentDecode_cons (by decide)]
      rfl
    · have hkeep : Form.replacePlus [37, hi, lo] = [37, hi, lo] := by
        simp [Form.replacePlus, hhi.1, hlo.1]
      rw [h, hkeep]
      exact Form.percentDecode_escaped hescaped _

theorem asBytes_join (l : List String) : Text.asBytes (String.join l) = l.flatMap Text.asBytes := by
  have hfold : ∀ s : String, Text.asBytes (l.foldl (· ++ ·) s) = Text.asBytes s ++ l.flatMap Text.asBytes := by
    induction l with
    | nil => intro s; simp
    | cons a l ih =>
      intro s
      rw [List.foldl_cons, ih, Text.asBytes_append, List.flatMap_cons, List.append_assoc]
  have hempty : Text.asBytes "" = [] := by decide
  rw [String.join, hfold, hempty, List.nil_append]

theorem asBytes_formText (s : String) : Text.asBytes (formText s) = (Text.asBytes s).flatMap formBytes := by
  rw [formText, asBytes_join, List.flatMap_map]
  rfl

theorem asBytes_pair (p : String × String) :
    Text.asBytes (formText p.1 ++ "=" ++ formText p.2) = Form.piece formBytes p := by
  have heq : Text.asBytes "=" = [61] := by decide
  rw [Text.asBytes_append, Text.asBytes_append, asBytes_formText, asBytes_formText, heq, Form.piece,
    List.append_assoc, List.singleton_append]

theorem appendPair_ne_empty (text : String) (p : String × String) : appendPair text p ≠ "" := by
  intro h
  have hlist := congrArg String.toList h
  simp [appendPair] at hlist

/-- Pairs after the first one. -/
theorem asBytes_foldl_appendPair (pairs : List (String × String)) {text : String} (h : text ≠ "") :
    Text.asBytes (pairs.foldl appendPair text) =
      Text.asBytes text ++ pairs.flatMap fun p => 38 :: Form.piece formBytes p := by
  induction pairs generalizing text with
  | nil => simp
  | cons p pairs ih =>
    have hamp : Text.asBytes "&" = [38] := by decide
    have hpair : appendPair text p = text ++ "&" ++ (formText p.1 ++ "=" ++ formText p.2) := by
      simp only [appendPair, if_neg h, String.append_assoc]
    rw [List.foldl_cons, ih (appendPair_ne_empty text p), hpair, Text.asBytes_append, Text.asBytes_append,
      asBytes_pair, hamp, List.flatMap_cons]
    simp

theorem asBytes_formUrlencoded (pairs : List (String × String)) :
    Text.asBytes (formUrlencoded pairs) = Form.serialize formBytes pairs := by
  cases pairs with
  | nil => decide
  | cons p pairs =>
    have hfirst : appendPair "" p = formText p.1 ++ "=" ++ formText p.2 := by
      rw [appendPair, if_pos rfl, String.empty_append]
    rw [formUrlencoded, List.foldl_cons, asBytes_foldl_appendPair _ (appendPair_ne_empty "" p), hfirst,
      asBytes_pair, Form.serialize_cons]

/-- A form is read as it was written. -/
theorem parse_formUrlencoded {lossy : List UInt8 → String} (hlossy : ∀ s, lossy (Text.asBytes s) = s)
    (pairs : List (String × String)) :
    Form.parse lossy (Text.asBytes (formUrlencoded pairs)) = pairs := by
  rw [asBytes_formUrlencoded, faithful_formBytes.parse_serialize hlossy]

/-! ## What is posted -/

/-- The text of an assertion. -/
theorem createClientAssertion_eq {X : Crates} {key : DPoPKey} {clientId audience : String} {draw : ProofDraw}
    {iat : Nat} (hclock : draw.clock.unixSecs = .ok iat)
    {headerStr payloadStr : String}
    (hsigns : SignsProof X key (assertionHeader (key.jwkThumbprint X))
      (assertionPayload clientId audience (base64urlEncode draw.jtiBytes) iat) headerStr payloadStr) :
    key.createClientAssertion X clientId audience draw =
      .ok (compactJwt (Text.asBytes headerStr) (Text.asBytes payloadStr) (X.ecdsaSign key.signingKey
        (Text.asBytes (signingInput (Text.asBytes headerStr) (Text.asBytes payloadStr))))) := by
  have hsign : signP256Raw X key.signingKey (Text.asBytes (base64urlEncode (Text.asBytes headerStr) ++
      "." ++ base64urlEncode (Text.asBytes payloadStr))) = .ok (X.ecdsaSign key.signingKey
        (Text.asBytes (signingInput (Text.asBytes headerStr) (Text.asBytes payloadStr)))) :=
    if_neg (not_not.2 hsigns.signs.1)
  simp only [DPoPKey.createClientAssertion, hclock, hsigns.print_header, hsigns.print_payload, hsign,
    Fallible.mapError_ok, bind, Except.bind]
  rfl

/-- A client with a key can write its token request. -/
theorem exists_tokenBody {X : Crates} {r : TokenRequest} {key : DPoPKey} {clientId audience assertion : String}
    {draw : ProofDraw} (hauth : r.clientAuth = some (key, clientId, audience))
    (h : key.createClientAssertion X clientId audience draw = .ok assertion) :
    ∃ bytes, (r.formPost X).body draw = .ok bytes := by
  simp only [TokenRequest.formPost, buildTokenFormBody, hauth, h]
  exact ⟨_, rfl⟩

/-- A client with a key can write its pushed request. -/
theorem exists_parBody {X : Crates} {params : ParParameters} {endpoint : String} {dpopKey key : DPoPKey}
    {clientAuth : Option (DPoPKey × String)} {audience assertion : String} {draw : ProofDraw}
    (hauth : clientAuth = some (key, audience))
    (h : key.createClientAssertion X params.clientId audience draw = .ok assertion) :
    ∃ bytes, (params.formPost X endpoint dpopKey clientAuth).body draw = .ok bytes := by
  simp only [ParParameters.formPost, parFormBody, hauth, h]
  exact ⟨_, rfl⟩

/-- A request with legal header values is built. -/
theorem FormPost.exists_build {R : Type} (r : FormPost R) {hostHeader proof : String}
    (hhost : IsPrintable hostHeader) (hproof : IsPrintable proof) (bodyBytes : List UInt8) :
    ∃ request, r.build hostHeader proof bodyBytes = .ok request := by
  obtain ⟨host, hh, -⟩ := fromStr_printable hhost
  obtain ⟨value, hp, -⟩ := fromStr_printable hproof
  obtain ⟨form, hf, -⟩ := fromStr_printable (s := "application/x-www-form-urlencoded")
    (Text.forall_mem_of_all (by decide))
  obtain ⟨json, hj, -⟩ := fromStr_printable (s := "application/json") (Text.forall_mem_of_all (by decide))
  refine ⟨{ method := "POST", url := r.endpoint, body := some bodyBytes,
            headers := [("host", host), ("content-type", form), ("accept", json), ("dpop", value)] }, ?_⟩
  simp only [FormPost.build, FormPost.headerTexts, List.mapM_cons, List.mapM_nil, hh, hp, hf, hj,
    Option.map_some, Option.bind_eq_bind, Option.bind_some, Option.pure_def]

/-! ## What a server reads -/

/-- What a server reads from a request. -/
def Reads (lossy : List UInt8 → String) (request : ClientRequest) (pairs : List (String × String)) : Prop :=
  ∃ body, request.body = some body ∧ Form.parse lossy body = pairs

/-- The pairs that authenticate the client, none for a public one. -/
def AuthPairs (X : Crates) (auth : Option (DPoPKey × String × String)) (draws : List AttemptDraw)
    (pairs : List (String × String)) : Prop :=
  auth = none ∧ pairs = [] ∨ ∃ key clientId audience assertion, ∃ draw ∈ draws,
    auth = some (key, clientId, audience) ∧
      key.createClientAssertion X clientId audience draw.assertion = .ok assertion ∧
      pairs = [("client_assertion_type", "urn:ietf:params:oauth:client-assertion-type:jwt-bearer"),
        ("client_assertion", assertion)]

/-- The request has a proof of the key for its own URL. -/
def SignedWith (X : Crates) (key : DPoPKey) (request : ClientRequest) : Prop :=
  ∃ nonce, ∃ draw : ProofDraw, ∃ proof value,
    key.createProof X "POST" request.url nonce none draw.clock draw.jtiBytes = .ok proof ∧
    HeaderValue.fromStr proof = some value ∧ ("dpop", value) ∈ request.headers

/-- All that a request shows: it is a `POST` to the URL under a proof of the key, with these pairs and the
    ones that authenticate the client. -/
structure Posted (X : Crates) (lossy : List UInt8 → String) (url : String) (key : DPoPKey)
    (auth : Option (DPoPKey × String × String)) (draws : List AttemptDraw) (pairs : List (String × String))
    (request : ClientRequest) : Prop where
  method : request.method = "POST"
  url : request.url = url
  headers : request.headers.map Prod.fst = ["host", "content-type", "accept", "dpop"]
  proof : SignedWith X key request
  body : ∃ credentials, AuthPairs X auth draws credentials ∧ Reads lossy request (pairs ++ credentials)

section Server

variable {X : Crates} {lossy : List UInt8 → String} {draws : List AttemptDraw} {request : ClientRequest}

theorem FormPost.build_headers {R : Type} {r : FormPost R} {hostHeader proof : String}
    {bodyBytes : List UInt8} (h : r.build hostHeader proof bodyBytes = .ok request) :
    request.method = "POST" ∧ request.headers.map Prod.fst = ["host", "content-type", "accept", "dpop"] ∧
      ∃ value, HeaderValue.fromStr proof = some value ∧ ("dpop", value) ∈ request.headers := by
  unfold FormPost.build at h
  split at h
  · cases h
  · rename_i headers hheaders
    cases h
    simp only [FormPost.headerTexts, List.mapM_cons, List.mapM_nil, Option.bind_eq_bind, Option.pure_def,
      Option.bind_eq_some_iff, Option.map_eq_some_iff, Option.some.injEq] at hheaders
    obtain ⟨_, ⟨_, -, rfl⟩, _, ⟨_, ⟨_, -, rfl⟩, _, ⟨_, ⟨_, -, rfl⟩, _, ⟨_, ⟨value, hvalue, rfl⟩, _, rfl, rfl⟩,
      rfl⟩, rfl⟩, rfl⟩ := hheaders
    exact ⟨rfl, rfl, value, hvalue, by simp⟩

/-- An attempt shows what a server reads in its body. -/
theorem FormPost.IsAttempt.posted {R : Type} {r : FormPost R} {auth : Option (DPoPKey × String × String)}
    {pairs : List (String × String)} (h : FormPost.IsAttempt X r draws request)
    (hbody : ∀ draw ∈ draws, ∀ body, r.body draw.assertion = .ok body →
      ∃ credentials, AuthPairs X auth draws credentials ∧ Form.parse lossy body = pairs ++ credentials) :
    Posted X lossy r.endpoint r.dpopKey auth draws pairs request := by
  obtain ⟨draw, hdraw, hostHeader, nonce, proof, bodyBytes, hproof, hbytes, hbuild⟩ := h
  obtain ⟨hurl, hrequest⟩ := FormPost.build_eq_ok hbuild
  obtain ⟨hmethod, hheaders, value, hvalue, hmem⟩ := FormPost.build_headers hbuild
  rw [FormPost.proof, Fallible.mapError_eq_ok, ← hurl] at hproof
  obtain ⟨credentials, hauth, hparse⟩ := hbody draw hdraw bodyBytes hbytes
  exact ⟨hmethod, hurl, hheaders, ⟨nonce, draw.proof, proof, value, hproof, hvalue, hmem⟩,
    credentials, hauth, bodyBytes, hrequest, hparse⟩

/-- A token request is read as its form and the pairs of the client. -/
theorem posted_tokenRequest (hlossy : ∀ s, lossy (Text.asBytes s) = s) {r : TokenRequest}
    (h : FormPost.IsAttempt X (r.formPost X) draws request) :
    Posted X lossy r.tokenEndpoint r.dpopKey r.clientAuth draws r.form request := by
  refine h.posted fun draw hdraw body hbody => ?_
  simp only [TokenRequest.formPost, buildTokenFormBody] at hbody
  cases hauth : r.clientAuth with
  | none =>
    rw [hauth] at hbody
    cases hbody
    refine ⟨[], Or.inl ⟨rfl, rfl⟩, ?_⟩
    rw [parse_formUrlencoded hlossy, List.append_nil]
  | some auth =>
    obtain ⟨key, clientId, audience⟩ := auth
    rw [hauth] at hbody
    cases hassertion : key.createClientAssertion X clientId audience draw.assertion with
    | error e =>
      simp [hassertion] at hbody
    | ok assertion =>
      simp only [hassertion, Except.ok.injEq] at hbody
      refine ⟨_, Or.inr ⟨key, clientId, audience, assertion, draw, hdraw, rfl, hassertion, rfl⟩, ?_⟩
      rw [← hbody, formUrlencoded, ← List.foldl_append]
      exact parse_formUrlencoded hlossy _

/-- A pushed authorization request is read as its parameters and the pairs of the client. -/
theorem posted_parRequest (hlossy : ∀ s, lossy (Text.asBytes s) = s) {params : ParParameters}
    {endpoint : String} {dpopKey : DPoPKey} {clientAuth : Option (DPoPKey × String)}
    (hnone : params.clientAssertion = none)
    (h : FormPost.IsAttempt X (params.formPost X endpoint dpopKey clientAuth) draws request) :
    Posted X lossy endpoint dpopKey (clientAuth.map fun a => (a.1, params.clientId, a.2)) draws
      params.encodePairs request := by
  refine h.posted fun draw hdraw body hbody => ?_
  simp only [ParParameters.formPost, parFormBody] at hbody
  cases clientAuth with
  | none =>
    cases hbody
    refine ⟨[], Or.inl ⟨rfl, rfl⟩, ?_⟩
    rw [ParParameters.toFormUrlencoded, parse_formUrlencoded hlossy, List.append_nil]
  | some auth =>
    obtain ⟨key, audience⟩ := auth
    cases hassertion : key.createClientAssertion X params.clientId audience draw.assertion with
    | error e => simp [hassertion] at hbody
    | ok assertion =>
      simp only [hassertion, Except.ok.injEq] at hbody
      refine ⟨_, Or.inr ⟨key, params.clientId, audience, assertion, draw, hdraw, rfl, hassertion, rfl⟩, ?_⟩
      rw [← hbody, ParParameters.toFormUrlencoded, parse_formUrlencoded hlossy]
      simp [ParParameters.encodePairs, assertionPairs, CLIENT_ASSERTION_TYPE_JWT_BEARER, hnone]

end Server

end Skyauth
