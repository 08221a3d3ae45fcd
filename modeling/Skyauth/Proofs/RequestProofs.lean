import Skyauth.Deployment
import Skyauth.Proofs.RoundTripProofs

/-!
# Proofs: the client's requests and the middleware's headers

What the client writes into a request the middleware reads, and what the middleware writes into a
challenge the client reads.
-/

namespace Skyauth

/-! ## Header values -/

/-- Printable ASCII text. -/
def IsPrintable (s : String) : Prop := ∀ c ∈ s.toList, 32 ≤ c.toNat ∧ c.toNat ≤ 126

theorem IsPrintable.append {a b : String} (ha : IsPrintable a) (hb : IsPrintable b) :
    IsPrintable (a ++ b) := by
  intro c hc
  rw [String.toList_append, List.mem_append] at hc
  exact hc.elim (ha c) (hb c)

theorem isPrintable_of_visible {s : String} (h : ∀ c ∈ s.toList, 33 ≤ c.toNat ∧ c.toNat ≤ 126) :
    IsPrintable s := by
  intro c hc
  have := h c hc
  omega

/-- Printable text is a legal header value, and reads back. -/
theorem fromStr_printable {s : String} (h : IsPrintable s) :
    ∃ v, HeaderValue.fromStr s = some v ∧ v.toStr = some s := by
  have hbytes : Text.asBytes s = s.toList.map fun c => UInt8.ofNat c.toNat :=
    Text.asBytes_of_ascii fun c hc => by have := h c hc; omega
  have hnat : ∀ c ∈ s.toList, (UInt8.ofNat c.toNat).toNat = c.toNat := fun c hc => by
    have := h c hc
    rw [UInt8.toNat_ofNat']
    omega
  have hvisible : (Text.asBytes s).all isVisibleHeaderByte = true := by
    rw [hbytes, List.all_map, List.all_eq_true]
    intro c hc
    obtain ⟨hlow, hhigh⟩ := h c hc
    have h1 : 32 ≤ UInt8.ofNat c.toNat := UInt8.le_iff_toNat_le.2 (by rw [hnat c hc]; exact hlow)
    have h2 : UInt8.ofNat c.toNat < 127 :=
      UInt8.lt_iff_toNat_lt.2 (by rw [hnat c hc]; exact Nat.lt_succ_of_le hhigh)
    simp [isVisibleHeaderByte, h1, h2]
  have hvalid : (Text.asBytes s).all isValidHeaderByte = true := by
    rw [List.all_eq_true] at hvisible ⊢
    intro b hb
    have := hvisible b hb
    simp only [isVisibleHeaderByte, isValidHeaderByte, Bool.or_eq_true, Bool.and_eq_true,
      decide_eq_true_eq, bne_iff_ne] at this ⊢
    exact this.imp_left fun h => ⟨h.1, UInt8.ne_of_lt h.2⟩
  refine ⟨⟨Text.asBytes s, hvalid⟩, dif_pos hvalid, ?_⟩
  have hchars : (Text.asBytes s).map (fun b => Char.ofNat b.toNat) = s.toList := by
    rw [hbytes, List.map_map]
    refine (List.map_congr_left fun c hc => ?_).trans (List.map_id _)
    simp only [Function.comp, hnat c hc, Char.ofNat_toNat, id]
  rw [HeaderValue.toStr, if_pos hvisible, hchars, String.ofList_toList]

theorem lookup_append_singleton {l : HeaderMap} {name : String} {v : HeaderValue}
    (h : l.lookup name = none) : (l ++ [(name, v)]).lookup name = some v := by
  rw [List.lookup_append, h]
  simp

namespace HeaderMap

variable {headers : HeaderMap} {name other text : String} {v : HeaderValue}

theorem insertStr_eq_insert (h : HeaderValue.fromStr text = some v) :
    headers.insertStr name text = headers.insert name v := by
  rw [insertStr, h]

theorem getAll_insert_self : (headers.insert name v).getAll name = [v] := by
  simp [getAll, insert, List.filter_filter]

theorem getAll_insert_of_ne (h : Text.toAsciiLowercase name ≠ Text.toAsciiLowercase other) :
    (headers.insert other v).getAll name = headers.getAll name := by
  have hkept : (headers.filter fun x => x.1 != Text.toAsciiLowercase other).filter
      (fun x => x.1 == Text.toAsciiLowercase name) =
        headers.filter fun x => x.1 == Text.toAsciiLowercase name := by
    rw [List.filter_filter]
    apply List.filter_congr
    intro x _
    by_cases hx : x.1 = Text.toAsciiLowercase name
    · simp [hx, h]
    · simp [hx]
  rw [getAll, insert, List.filter_append, hkept]
  simp [getAll, h.symm]

end HeaderMap

/-- A header that is inserted is the one that is read. -/
theorem headerText_insertStr {s : String} (h : IsPrintable s) (headers : HeaderMap) (name : String) :
    headerText (headers.insertStr name s) name = some s := by
  obtain ⟨v, hv, hstr⟩ := fromStr_printable h
  have hfresh : (headers.filter fun x => x.1 != Text.toAsciiLowercase name).lookup
      (Text.toAsciiLowercase name) = none := by
    rw [List.lookup_eq_none_iff]
    intro x hx
    have hne : x.1 ≠ Text.toAsciiLowercase name := bne_iff_ne.1 (List.mem_filter.1 hx).2
    simpa using hne.symm
  rw [headerText, HeaderMap.insertStr, hv]
  simp only [HeaderMap.get, HeaderMap.insert, lookup_append_singleton hfresh, Option.bind_some, hstr]

/-! ## Requests -/

theorem dpopCredentials_token {token : String} (h : ∀ c ∈ token.toList, 33 ≤ c.toNat ∧ c.toNat ≤ 126) :
    dpopCredentials ("DPoP " ++ token) = some token := by
  have hsplit : Text.splitOnce ' ' ("DPoP " ++ token) = some ("DPoP", token) := by
    have hlit : "DPoP " = "DPoP" ++ String.singleton ' ' := by decide
    rw [hlit]
    exact Text.splitOnce_append (by decide) token
  have htrim : Text.trim token = token :=
    Text.trim_eq_self fun c hc => Base64.not_isWhitespace_of_visible (h c hc)
  have hscheme : Text.eqIgnoreAsciiCase "DPoP" "DPoP" = true := Text.eqIgnoreAsciiCase_refl _
  simp only [dpopCredentials, hsplit, hscheme, if_true, htrim]

/-- The texts of a client are legal: its token is visible text, and the values it does not make
    itself are header values. -/
structure DpopRequest.Legal (r : DpopRequest) (host token : String) : Prop where
  token_eq : r.accessToken = some token
  token_ne_empty : token ≠ ""
  token_visible : ∀ c ∈ token.toList, 33 ≤ c.toNat ∧ c.toNat ≤ 126
  host_legal : (HeaderValue.fromStr host).isSome
  contentType_legal : ∀ ct, r.contentType = some ct → (HeaderValue.fromStr ct).isSome

/-- A legal request is sent, with the proof and the token in the headers the middleware reads. -/
theorem build_legal {r : DpopRequest} {host token proof : String} (h : r.Legal host token)
    (hproof : IsPrintable proof) :
    ∃ headers, r.build host proof =
        .ok { method := r.method, url := r.urlStr, headers := headers, body := r.bodyBytes } ∧
      headerText headers "dpop" = some proof ∧
      headerText headers "authorization" = some ("DPoP " ++ token) := by
  obtain ⟨hv, hhost⟩ := Option.isSome_iff_exists.1 h.host_legal
  obtain ⟨pv, hpv, hptext⟩ := fromStr_printable hproof
  obtain ⟨av, hav, hatext⟩ := fromStr_printable (s := "DPoP " ++ token)
    (IsPrintable.append (Text.forall_mem_of_all (by decide)) (isPrintable_of_visible h.token_visible))
  have hdpop : Text.toAsciiLowercase "dpop" = "dpop" := by decide
  have hauth : Text.toAsciiLowercase "authorization" = "authorization" := by decide
  have hread : ∀ rest : HeaderMap,
      headerText ([("host", hv), ("dpop", pv), ("authorization", av)] ++ rest) "dpop" = some proof ∧
      headerText ([("host", hv), ("dpop", pv), ("authorization", av)] ++ rest) "authorization" =
        some ("DPoP " ++ token) := by
    intro rest
    simp [headerText, HeaderMap.get, hdpop, hauth, List.lookup_cons, hptext, hatext]
  cases hct : r.contentType with
  | none =>
    refine ⟨[("host", hv), ("dpop", pv), ("authorization", av)] ++ [], ?_, hread []⟩
    simp [DpopRequest.build, DpopRequest.headerTexts, h.token_eq, hct, hhost, hpv, hav]
  | some ct =>
    obtain ⟨cv, hcv⟩ := Option.isSome_iff_exists.1 (h.contentType_legal ct hct)
    refine ⟨[("host", hv), ("dpop", pv), ("authorization", av)] ++ [("content-type", cv)], ?_, hread _⟩
    simp [DpopRequest.build, DpopRequest.headerTexts, h.token_eq, hct, hhost, hpv, hav, hcv]

/-! ## Challenges -/

/-- Blanks around a piece do not matter. -/
theorem isNonceErrorParam_append_left {a piece : String}
    (ha : ∀ c ∈ a.toList, Text.isWhitespace c = true) :
    isNonceErrorParam (a ++ piece) = isNonceErrorParam piece := by
  have htrim : Text.trim (a ++ piece) = Text.trim piece := Text.trimMatches_append_left ha
  rw [isNonceErrorParam, htrim, isNonceErrorParam]

theorem isNonceErrorParam_append_right {piece b : String}
    (hb : ∀ c ∈ b.toList, Text.isWhitespace c = true) :
    isNonceErrorParam (piece ++ b) = isNonceErrorParam piece := by
  have htrim : Text.trim (piece ++ b) = Text.trim piece := Text.trimMatches_append_right hb
  rw [isNonceErrorParam, htrim, isNonceErrorParam]

theorem comma_notMem_of_blank {a : String} (ha : ∀ c ∈ a.toList, Text.isWhitespace c = true) :
    ',' ∉ a.toList := fun hc => absurd (ha _ hc) (by decide)

/-- Blanks before a text do not matter to its pieces. -/
theorem any_split_append_left {a text : String} (ha : ∀ c ∈ a.toList, Text.isWhitespace c = true) :
    (Text.split ',' (a ++ text)).any isNonceErrorParam =
      (Text.split ',' text).any isNonceErrorParam := by
  rcases Text.split_cases ',' text with ⟨hnot, hsplit⟩ | ⟨first, rest, hfirst, rfl, hsplit⟩
  · have hwhole : ',' ∉ (a ++ text).toList := by
      rw [String.toList_append, List.mem_append]
      exact not_or.2 ⟨comma_notMem_of_blank ha, hnot⟩
    rw [Text.split_eq_singleton hwhole, hsplit, List.any_cons, List.any_cons,
      isNonceErrorParam_append_left ha]
  · have hpiece : ',' ∉ (a ++ first).toList := by
      rw [String.toList_append, List.mem_append]
      exact not_or.2 ⟨comma_notMem_of_blank ha, hfirst⟩
    have hshape : a ++ (first ++ String.singleton ',' ++ rest) =
        (a ++ first) ++ String.singleton ',' ++ rest := by
      simp only [String.append_assoc]
    rw [hshape, Text.split_append, Text.split_eq_singleton hpiece, hsplit, List.singleton_append,
      List.any_cons, List.any_cons, isNonceErrorParam_append_left ha]

/-- Blanks after a text do not matter to its pieces. -/
theorem any_split_append_right {text b : String} (hb : ∀ c ∈ b.toList, Text.isWhitespace c = true) :
    (Text.split ',' (text ++ b)).any isNonceErrorParam =
      (Text.split ',' text).any isNonceErrorParam := by
  -- the induction is on the length of the text, one piece at a time
  induction hn : text.toList.length using Nat.strong_induction_on generalizing text with
  | _ n ih =>
    rcases Text.split_cases ',' text with ⟨hnot, hsplit⟩ | ⟨first, rest, hfirst, rfl, hsplit⟩
    · have hwhole : ',' ∉ (text ++ b).toList := by
        rw [String.toList_append, List.mem_append]
        exact not_or.2 ⟨hnot, comma_notMem_of_blank hb⟩
      rw [Text.split_eq_singleton hwhole, hsplit, List.any_cons, List.any_cons,
        isNonceErrorParam_append_right hb]
    · have hshape : first ++ String.singleton ',' ++ rest ++ b =
          first ++ String.singleton ',' ++ (rest ++ b) := by
        simp only [String.append_assoc]
      have hshorter : rest.toList.length < n := by
        rw [← hn]
        simp
        omega
      rw [hshape, Text.split_append, Text.split_eq_singleton hfirst, hsplit, List.singleton_append,
        List.any_cons, List.any_cons, ih _ hshorter rfl]

/-- A challenge of the scheme `DPoP` asks for a nonce when one of the pieces of its text does. -/
theorem isNonceChallenge_dpop (text : String) :
    isNonceChallenge ("DPoP" ++ " " ++ text) = (Text.split ',' text).any isNonceErrorParam := by
  have hspace : ∀ c ∈ " ".toList, Text.isWhitespace c = true := Text.forall_mem_of_all (by decide)
  obtain ⟨a, b, htext, ha, hb⟩ := Text.trimMatches_decomp Text.isWhitespace text
  by_cases hempty : Text.trim text = ""
  · -- nothing but blanks: the scheme is not even followed by one after trimming
    have hblank := Text.trim_eq_empty_iff.1 hempty
    have htrim : Text.trim ("DPoP" ++ " " ++ text) = "DPoP" := by
      rw [String.append_assoc]
      refine (Text.trimMatches_append_right ?_).trans (by decide)
      simp only [String.toList_append, List.mem_append]
      rintro c (hc | hc)
      · exact hspace c hc
      · exact hblank c hc
    have hright : (Text.split ',' text).any isNonceErrorParam = false := by
      have := @any_split_append_left text "" hblank
      rw [String.append_empty] at this
      rw [this]
      decide
    rw [hright, isNonceChallenge, htrim]
    decide
  · obtain ⟨m, z, hlast, hz⟩ := Text.trimMatches_last hempty
    have htrim : Text.trim ("DPoP" ++ " " ++ text) =
        "DPoP" ++ String.singleton ' ' ++ (a ++ Text.trim text) := by
      have hshape : "DPoP" ++ " " ++ text =
          "DPoP" ++ (" " ++ a ++ m) ++ String.singleton z ++ b := by
        rw [htext, hlast]
        simp only [String.append_assoc]
      have hkept : "DPoP" ++ String.singleton ' ' ++ (a ++ Text.trim text) =
          "DPoP" ++ (" " ++ a ++ m) ++ String.singleton z := by
        rw [Text.trim, hlast]
        simp only [String.append_assoc]
        rfl
      rw [hshape, hkept]
      refine (Text.trimMatches_append_right hb).trans (Text.trimMatches_between ?_ ?_ ?_ ?_ _)
      · exact Text.forall_mem_of_all (by decide)
      · decide
      · simpa using hz
      · rw [← String.toList_inj.ne]
        simp
    have hscheme : Text.eqIgnoreAsciiCase "DPoP" "DPoP" = true := Text.eqIgnoreAsciiCase_refl _
    obtain ⟨t, hstart, ht⟩ := Text.trimStartMatches_decomp Text.isWhitespace (a ++ Text.trim text)
    have hpieces : (Text.split ',' (Text.trimStart (a ++ Text.trim text))).any isNonceErrorParam =
        (Text.split ',' text).any isNonceErrorParam := by
      calc (Text.split ',' (Text.trimStart (a ++ Text.trim text))).any isNonceErrorParam
          = (Text.split ',' (t ++ Text.trimStart (a ++ Text.trim text))).any isNonceErrorParam :=
            (any_split_append_left ht).symm
        _ = (Text.split ',' (a ++ Text.trim text)).any isNonceErrorParam := by
            rw [show t ++ Text.trimStart (a ++ Text.trim text) = a ++ Text.trim text from hstart.symm]
        _ = (Text.split ',' (a ++ Text.trim text ++ b)).any isNonceErrorParam :=
            (any_split_append_right hb).symm
        _ = (Text.split ',' text).any isNonceErrorParam := by
            rw [show a ++ Text.trim text ++ b = text from htext.symm]
    rw [isNonceChallenge, htrim, Text.splitOnce_append (by decide)]
    simp only [hscheme, Bool.true_and, hpieces]

/-- The challenge for a nonce. -/
def nonceChallenge (nonce : String) : Response WireBody :=
  unauthorizedResponse "use_dpop_nonce" (some "Resource server requires fresh DPoP nonce") (some nonce)

/-- The `WWW-Authenticate` value of `unauthorized_response` for the error `use_dpop_nonce`. -/
theorem isNonceChallenge_text (description : String) :
    isNonceChallenge ("DPoP error=\"" ++ "use_dpop_nonce" ++ "\", error_description=\"" ++ description ++
      "\"") = true := by
  have hshape : "DPoP error=\"" ++ "use_dpop_nonce" ++ "\", error_description=\"" ++ description ++ "\"" =
      "DPoP" ++ " " ++ ("error=\"use_dpop_nonce\"" ++ String.singleton ',' ++
        (" error_description=\"" ++ description ++ "\"")) := by
    rw [← String.toList_inj]
    simp
  have hparam : isNonceErrorParam "error=\"use_dpop_nonce\"" = true := by rfl
  rw [hshape, isNonceChallenge_dpop, Text.split_append, Text.split_eq_singleton (by decide),
    List.any_append, List.any_cons, hparam]
  rfl

/-- The client takes the middleware's challenge for one, and reads the nonce in it. -/
theorem nonceChallenge_spec {nonce : String} (h : IsPrintable nonce) :
    isRsDpopNonceChallenge (nonceChallenge nonce).headers = true ∧
      headerText (nonceChallenge nonce).headers "dpop-nonce" = some nonce := by
  refine ⟨?_, headerText_insertStr h _ _⟩
  have hprintable : IsPrintable ("DPoP error=\"" ++ "use_dpop_nonce" ++ "\", error_description=\"" ++
      "Resource server requires fresh DPoP nonce" ++ "\"") := by
    refine IsPrintable.append (IsPrintable.append (IsPrintable.append (IsPrintable.append ?_ ?_) ?_) ?_)
      ?_ <;> exact Text.forall_mem_of_all (by decide)
  obtain ⟨v, hv, hstr⟩ := fromStr_printable hprintable
  obtain ⟨nv, hnv, -⟩ := fromStr_printable h
  have hnames : Text.toAsciiLowercase "www-authenticate" ≠ Text.toAsciiLowercase "dpop-nonce" := by
    decide
  have hall : HeaderMap.getAll (nonceChallenge nonce).headers "www-authenticate" = [v] := by
    show HeaderMap.getAll ((HeaderMap.insertStr [] "www-authenticate" _).insertStr "dpop-nonce" nonce)
      "www-authenticate" = [v]
    rw [HeaderMap.insertStr_eq_insert hv, HeaderMap.insertStr_eq_insert hnv,
      HeaderMap.getAll_insert_of_ne hnames, HeaderMap.getAll_insert_self]
  simp only [isRsDpopNonceChallenge, hall, List.filterMap_cons, hstr, List.filterMap_nil, List.any_cons,
    isNonceChallenge_text, Bool.true_or]

/-! ## Nonces in responses -/

theorem IsCarried.printable {nonce : String} (h : IsCarried nonce) : IsPrintable nonce :=
  isPrintable_of_visible h.visible

/-- A response that carries a nonce satisfies the client. -/
theorem requireDpopNonce_insertStr {nonce : String} (h : IsCarried nonce) (headers : HeaderMap) :
    requireDpopNonce (headers.insertStr "dpop-nonce" nonce) = .ok () := by
  rw [requireDpopNonce, headerText_insertStr h.printable, Option.any_some, h.trim_eq]
  exact if_pos (by simpa using h.ne_empty)

/-- The nonce of a challenge is the client's nonce from then on. -/
theorem getNonce_learn_challenge {nonce : String} (h : IsCarried nonce) (cache : DPoPNonceCache)
    (origin : String) :
    (cache.learn origin (nonceChallenge nonce).headers).getNonce origin = some nonce := by
  rw [DPoPNonceCache.learn, (nonceChallenge_spec h.printable).2, h.extract_eq]
  exact AList.lookup_insert _

theorem classify_challenge (X : Crates) {nonce : String} (h : IsPrintable nonce) :
    classify X (nonceChallenge nonce) = .ok none :=
  if_pos (nonceChallenge_spec h).1

theorem mayChallenge_of_success {status : Nat} (h : isSuccess status = true) :
    mayChallenge status = false := by
  simp only [isSuccess, mayChallenge, Bool.and_eq_true, decide_eq_true_eq, Bool.or_eq_false_iff,
    beq_eq_false_iff_ne] at h ⊢
  omega

theorem transmit_ok {W : Type} {net : Network W} {c : Client W} {origin : String}
    {request : ClientRequest} {resp : Response WireBody} {world : W}
    (h : net.send c.world request = (.ok resp, world)) :
    Client.transmit net c origin (.ok request) =
      (.ok resp, { nonceCache := c.nonceCache.learn origin resp.headers, world := world,
                   sent := c.sent ++ [request] }) := by
  simp only [Client.transmit, h]

end Skyauth
