import Skyauth.IdentityResolver
import Skyauth.Lib.Fallible
import Skyauth.Lib.Label

/-!
# Proofs: which handle an identity is reported with

A handle that was typed in is reported with the DID its records name. A DID is reported with the
handle that its document claims, and nothing makes the records of that handle name the DID.
-/

namespace Skyauth

variable {X : Crates} {N : NetCrates} {W : World}

/-! ## Handles -/

/-- A text as it is checked. -/
def handleForm (raw : String) : String :=
  Text.toAsciiLowercase (Text.trimStartMatches (· == '@') (Text.trim raw))

theorem normalizeHandle_eq_ok {raw handle : String} :
    normalizeHandle N raw = .ok handle ↔ handleForm raw = handle ∧ checkHandle N handle = .ok () := by
  simp only [normalizeHandle, Fallible.bind_eq_ok, Fallible.pure_eq_ok]
  constructor
  · rintro ⟨_, hcheck, rfl⟩
    exact ⟨rfl, hcheck⟩
  · rintro ⟨rfl, hcheck⟩
    exact ⟨(), hcheck, rfl⟩

/-- The check that a label begins with a letter or a digit is one of the others over again. -/
theorem checkHandleLabel_eq_ok {label : String} :
    checkHandleLabel label = .ok () ↔ Label.IsLabel 63 label := by
  constructor
  · intro h
    unfold checkHandleLabel at h
    split_ifs at h with hlength hends hfirst hchars
    obtain ⟨hne, hmax⟩ := not_or.1 hlength
    rw [Bool.or_eq_true, not_or, Bool.not_eq_true, Bool.not_eq_true] at hends
    rw [Bool.not_eq_true', Bool.not_eq_false] at hchars
    exact Label.isLabel_iff.2 ⟨hne, Nat.le_of_not_lt hmax, hends.1, hends.2, hchars⟩
  · intro h
    obtain ⟨c, rest, hlabel, hc⟩ := h.exists_head
    obtain ⟨hne, hmax, hstart, hend, hchars⟩ := Label.isLabel_iff.1 h
    have hfirst : (label.toList.headD '\x00').isAlphanum = true := by rw [hlabel]; exact hc
    have hchars : (label.toList.all fun c => c.isAlphanum || c == '-') = true := hchars
    unfold checkHandleLabel
    rw [if_neg (not_or.2 ⟨hne, Nat.not_lt.2 hmax⟩), hstart, hend, hfirst, hchars]
    rfl

/-- The checks on a text in normal form, one by one. -/
theorem checkHandle_iff {handle : String} : checkHandle N handle = .ok () ↔
    (handle ≠ "" ∧ handle.utf8ByteSize ≤ 244) ∧
    (N.parseIp handle = none ∧ Text.startsWith handle "[" = false ∧
      ∃ c ∈ handle.toList, ¬(c.isDigit = true ∨ c = '.')) ∧
    2 ≤ (Text.split '.' handle).length ∧
    (∀ label ∈ Text.split '.' handle, Label.IsLabel 63 label) ∧
    (Text.split '.' handle).getLastD "" ∉ DISALLOWED_HANDLE_TLDS ∧ handle ≠ "handle.invalid" := by
  have hliteral : ¬((N.parseIp handle).isSome || Text.startsWith handle "[" ||
      handle.toList.all fun c => c.isDigit || c == '.') = true ↔
      N.parseIp handle = none ∧ Text.startsWith handle "[" = false ∧
        ∃ c ∈ handle.toList, ¬(c.isDigit = true ∨ c = '.') := by
    simp only [Bool.or_eq_true, not_or, Option.isSome_iff_ne_none, not_not, Bool.not_eq_true, and_assoc,
      List.all_eq_false, beq_iff_eq, ne_eq]
  have hlabels : ∀ a : Unit, (Text.split '.' handle).forM checkHandleLabel = .ok a ↔
      ∀ label ∈ Text.split '.' handle, Label.IsLabel 63 label := by
    intro a
    rw [Fallible.forM_eq_ok]
    exact forall₂_congr fun label _ => checkHandleLabel_eq_ok
  simp only [checkHandle, Fallible.bind_eq_ok, Fallible.rejectIf_eq_ok, exists_and_left, exists_const,
    hlabels, hliteral, Nat.not_lt, and_assoc, ne_eq]

/-- A character of a handle. -/
def isHandleChar (c : Char) : Bool := c.isAlphanum || c == '-' || c == '.'

theorem isHandleChar_of_labels {handle : String}
    (h : ∀ label ∈ Text.split '.' handle, Label.IsLabel 63 label) :
    ∀ c ∈ handle.toList, isHandleChar c = true := by
  intro c hc
  rcases Label.char_of_labels h hc with rfl | hlabel
  · rfl
  · exact Bool.or_eq_true_iff.2 (Or.inl hlabel)

theorem checkHandle_chars {handle : String} (h : checkHandle N handle = .ok ()) :
    ∀ c ∈ handle.toList, isHandleChar c = true := by
  obtain ⟨-, -, -, hlabels, -⟩ := checkHandle_iff.1 h
  exact isHandleChar_of_labels hlabels

theorem isHandleChar_toNat {c : Char} (h : isHandleChar c = true) : 45 ≤ c.toNat ∧ c.toNat ≤ 122 := by
  simp only [isHandleChar, Bool.or_eq_true, beq_iff_eq] at h
  rcases h with (h | rfl) | rfl
  · have hranges := Label.isAlphanum_toNat h
    omega
  · decide
  · decide

theorem trim_of_chars {handle : String} (h : ∀ c ∈ handle.toList, isHandleChar c = true) :
    Text.trim handle = handle := by
  refine Text.trim_eq_self fun c hc => Base64.not_isWhitespace_of_visible ?_
  have hc := isHandleChar_toNat (h c hc)
  omega

theorem trimStart_of_chars {handle : String} (h : ∀ c ∈ handle.toList, isHandleChar c = true) :
    Text.trimStartMatches (· == '@') handle = handle := by
  refine Text.trimStartMatches_eq_self fun c hc => beq_eq_false_iff_ne.2 ?_
  rintro rfl
  exact absurd (h _ hc) (by decide)

/-- A normalized handle is its own normal form. -/
theorem normalizeHandle_normalizeHandle {raw handle : String} (h : normalizeHandle N raw = .ok handle) :
    normalizeHandle N handle = .ok handle := by
  obtain ⟨hform, hcheck⟩ := normalizeHandle_eq_ok.1 h
  have hchars := checkHandle_chars hcheck
  have hlower : Text.toAsciiLowercase handle = handle := by
    rw [← hform, handleForm, Text.toAsciiLowercase_toAsciiLowercase]
  refine normalizeHandle_eq_ok.2 ⟨?_, hcheck⟩
  rw [handleForm, trim_of_chars hchars, trimStart_of_chars hchars, hlower]

/-- A handle is not the local host, so what it publishes is asked for over TLS. -/
theorem not_localhost {handle : String} (h : checkHandle N handle = .ok ()) :
    (handle == "localhost" || Text.startsWith handle "localhost:") = false := by
  rw [Bool.or_eq_false_iff, beq_eq_false_iff_ne]
  constructor
  · rintro rfl
    obtain ⟨-, -, hlength, -⟩ := checkHandle_iff.1 h
    exact absurd hlength (by decide)
  · by_contra hstart
    obtain ⟨rest, hrest⟩ := List.isPrefixOf_iff_prefix.1 (Bool.not_eq_false _ ▸ hstart)
    have hcolon : ':' ∈ handle.toList := by
      rw [← hrest]
      exact List.mem_append_left _ (by decide)
    exact absurd (checkHandle_chars h _ hcolon) (by decide)

theorem extractPrimaryHandle_eq_some {doc : DidDocument} {handle : String}
    (h : doc.extractPrimaryHandle N = some handle) : normalizeHandle N handle = .ok handle := by
  obtain ⟨aka, -, haka⟩ := List.exists_of_findSome?_eq_some h
  obtain ⟨candidate, -, hcandidate⟩ := Option.bind_eq_some_iff.1 haka
  cases hn : normalizeHandle N candidate with
  | error e =>
    rw [hn] at hcandidate
    cases hcandidate
  | ok handle' =>
    rw [hn] at hcandidate
    cases hcandidate
    exact normalizeHandle_normalizeHandle hn

/-! ## Records -/

/-- What `resolve_handle_dns` makes of the DIDs that the records name. -/
def namedDid (handle : String) : List String → Except IdentityError (Option String)
  | [] => .ok none
  | firstDid :: rest => do
    let _ ← validateDidSyntax firstDid
    if rest.any (· ≠ firstDid) then .error (.ambiguousHandleResolution handle) else .ok (some firstDid)

theorem validateDidSyntax_ne_dns (did msg : String) : validateDidSyntax did ≠ .error (.dns msg) := by
  intro h
  simp only [validateDidSyntax] at h
  split at h
  · cases h
  · split at h
    · split at h
      · split at h <;> cases h
      · split at h
        · split at h <;> cases h
        · cases h
    · cases h

theorem namedDid_eq_none {handle : String} {dids : List String} :
    namedDid handle dids = .ok none ↔ dids = [] := by
  cases dids with
  | nil => simp [namedDid]
  | cons firstDid rest =>
    simp only [namedDid, Fallible.bind_eq_ok, reduceCtorEq, iff_false]
    rintro ⟨_, -, h⟩
    split at h <;> cases h

theorem namedDid_eq_some {handle did : String} {dids : List String} :
    namedDid handle dids = .ok (some did) ↔
      dids ≠ [] ∧ (∀ d ∈ dids, d = did) ∧ ∃ method, validateDidSyntax did = .ok method := by
  cases dids with
  | nil => simp [namedDid]
  | cons firstDid rest =>
    simp only [namedDid, Fallible.bind_eq_ok, ne_eq, reduceCtorEq, not_false_eq_true, true_and,
      List.forall_mem_cons]
    constructor
    · rintro ⟨method, hmethod, h⟩
      split at h
      · cases h
      · rename_i hrest
        cases h
        exact ⟨⟨rfl, by simpa using hrest⟩, method, hmethod⟩
    · rintro ⟨⟨rfl, hrest⟩, method, hmethod⟩
      refine ⟨method, hmethod, ?_⟩
      rw [if_neg (by simpa using hrest)]

theorem namedDid_ne_dns {handle : String} {dids : List String} (msg : String) :
    namedDid handle dids ≠ .error (.dns msg) := by
  intro h
  cases dids with
  | nil => cases h
  | cons firstDid rest =>
    rw [namedDid] at h
    cases hmethod : validateDidSyntax firstDid with
    | error e =>
      rw [hmethod, Fallible.error_bind] at h
      cases h
      exact validateDidSyntax_ne_dns firstDid msg hmethod
    | ok method =>
      rw [hmethod, Fallible.ok_bind] at h
      split at h <;> cases h

namespace IdentityResolver

variable {r : IdentityResolver} {handle did : String}

/-- What a handle publishes in its well-known document. -/
def wellKnown (N : NetCrates) (W : World) (r : IdentityResolver) (handle : String) : Option String :=
  match r.ssrfFilter.safeGet N W ("https://" ++ handle ++ "/.well-known/atproto-did") 2048 with
  | .ok bytes => (Text.fromUtf8 bytes).map Text.trim
  | .error _ => none

/-- The records of a handle name this DID: the TXT records that name one all do, or there is no such
    record and the well-known document does. -/
structure Names (X : Crates) (N : NetCrates) (W : World) (r : IdentityResolver) (handle did : String) :
    Prop where
  valid : ∃ method, validateDidSyntax did = .ok method
  published : (∃ records, r.resolveTxt X N W ("_atproto." ++ handle) = .ok records ∧
      didValues records ≠ [] ∧ ∀ d ∈ didValues records, d = did) ∨
    ((∃ records, r.resolveTxt X N W ("_atproto." ++ handle) = .ok records ∧ didValues records = []) ∨
      ∃ msg, r.resolveTxt X N W ("_atproto." ++ handle) = .error (.dns msg)) ∧
      r.wellKnown N W handle = some did

theorem resolveHandleHttps_eq_ok (hn : normalizeHandle N handle = .ok handle) :
    r.resolveHandleHttps N W handle = .ok did ↔
      r.wellKnown N W handle = some did ∧ ∃ method, validateDidSyntax did = .ok method := by
  have hlocal := not_localhost (normalizeHandle_eq_ok.1 hn).2
  simp only [resolveHandleHttps, Fallible.bind_eq_ok, hn, Except.ok.injEq, exists_eq_left', hlocal,
    Bool.and_false, Bool.false_eq_true, if_false, Fallible.mapError_eq_ok, Fallible.elim_eq_ok,
    Fallible.pure_eq_ok, wellKnown]
  constructor
  · rintro ⟨bytes, hbytes, text, htext, method, hmethod, rfl⟩
    have hbytes : r.ssrfFilter.safeGet N W ("https://" ++ handle ++ "/.well-known/atproto-did") 2048 =
        .ok bytes := hbytes
    simp only [hbytes, htext, Option.map_some, true_and]
    exact ⟨method, hmethod⟩
  · rintro ⟨hbody, method, hmethod⟩
    split at hbody
    · rename_i bytes hbytes
      obtain ⟨text, htext, rfl⟩ := Option.map_eq_some_iff.1 hbody
      exact ⟨bytes, hbytes, text, htext, method, hmethod, rfl⟩
    · cases hbody

theorem resolveHandleDns_eq (hn : normalizeHandle N handle = .ok handle) :
    r.resolveHandleDns X N W handle =
      (r.resolveTxt X N W ("_atproto." ++ handle) >>= fun records =>
        namedDid handle (didValues records)) := by
  rw [resolveHandleDns, hn, Fallible.ok_bind]
  rfl

theorem names_iff {records : List String}
    (hrecords : r.resolveTxt X N W ("_atproto." ++ handle) = .ok records) :
    Names X N W r handle did ↔ namedDid handle (didValues records) = .ok (some did) ∨
      namedDid handle (didValues records) = .ok none ∧ r.wellKnown N W handle = some did ∧
        ∃ method, validateDidSyntax did = .ok method := by
  rw [namedDid_eq_none, namedDid_eq_some]
  constructor
  · rintro ⟨hvalid, ⟨records', hok, hne, hall⟩ | ⟨⟨records', hok, hnil⟩ | ⟨msg, herror⟩, hbody⟩⟩
    · rw [hrecords] at hok
      cases hok
      exact Or.inl ⟨hne, hall, hvalid⟩
    · rw [hrecords] at hok
      cases hok
      exact Or.inr ⟨hnil, hbody, hvalid⟩
    · rw [hrecords] at herror
      cases herror
  · rintro (⟨hne, hall, hvalid⟩ | ⟨hnil, hbody, hvalid⟩)
    · exact ⟨hvalid, Or.inl ⟨records, hrecords, hne, hall⟩⟩
    · exact ⟨hvalid, Or.inr ⟨Or.inl ⟨records, hrecords, hnil⟩, hbody⟩⟩

theorem names_of_error {e : IdentityError}
    (herror : r.resolveTxt X N W ("_atproto." ++ handle) = .error e) :
    Names X N W r handle did ↔ (∃ msg, e = .dns msg) ∧ r.wellKnown N W handle = some did ∧
      ∃ method, validateDidSyntax did = .ok method := by
  constructor
  · rintro ⟨hvalid, ⟨records', hok, hne, hall⟩ | ⟨⟨records', hok, hnil⟩ | ⟨msg, hdns⟩, hbody⟩⟩
    · rw [herror] at hok
      cases hok
    · rw [herror] at hok
      cases hok
    · rw [herror] at hdns
      cases hdns
      exact ⟨⟨msg, rfl⟩, hbody, hvalid⟩
  · rintro ⟨⟨msg, rfl⟩, hbody, hvalid⟩
    exact ⟨hvalid, Or.inr ⟨Or.inr ⟨msg, herror⟩, hbody⟩⟩

/-- A handle resolves to the DID that its records name. -/
theorem resolveHandle_eq_ok (hn : normalizeHandle N handle = .ok handle) :
    r.resolveHandle X N W handle = .ok did ↔ Names X N W r handle did := by
  rw [resolveHandle, hn, Fallible.ok_bind, resolveHandleDns_eq hn]
  cases hrecords : r.resolveTxt X N W ("_atproto." ++ handle) with
  | error e =>
    rw [names_of_error hrecords, Fallible.error_bind]
    cases e with
    | dns msg => simp [resolveHandleHttps_eq_ok hn]
    | _ => simp
  | ok records =>
    rw [names_iff hrecords, Fallible.ok_bind]
    cases hnamed : namedDid handle (didValues records) with
    | ok named =>
      cases named with
      | none => simp [resolveHandleHttps_eq_ok hn]
      | some d => simp [Fallible.pure_eq_ok]
    | error e =>
      cases e with
      | dns msg => exact absurd hnamed (namedDid_ne_dns msg)
      | _ => simp

end IdentityResolver

/-! ## Documents -/

theorem WireBody.readBoundedBody_ofBytes {bytes : List UInt8} {maxBytes : Nat}
    (h : bytes.length ≤ maxBytes) : (WireBody.ofBytes bytes).readBoundedBody maxBytes = .ok bytes := by
  have hlt : ¬maxBytes < bytes.length := Nat.not_lt.2 h
  simp [WireBody.readBoundedBody, WireBody.ofBytes, WireBody.readChunks, hlt]

/-- A URL that passes the filter and is served with success. -/
theorem SsrfFilter.safeGet_of_served {f : SsrfFilter} {urlStr : String} {url : WebUrl}
    {pinned : SocketAddr × String} {bytes : List UInt8} {maxBytes : Nat}
    (hparse : N.urlParse urlStr = .ok url)
    (hpin : f.resolveAndPin N url (W.lookupHost (url.hostStr.getD "")) = .ok pinned)
    (hget : W.get url = .ok { status := 200, headers := [], body := .ofBytes bytes })
    (hlength : bytes.length ≤ maxBytes) : f.safeGet N W urlStr maxBytes = .ok bytes := by
  have hhop : f.safeGetHop N W maxBytes 3 url = .ok (.finish (.ok bytes)) := by
    rw [safeGetHop, hpin, Fallible.ok_bind, hget]
    show Except.ok (afterResponse N url 3 maxBytes _) = _
    simp only [afterResponse, isRedirection, isSuccess, WireBody.readBoundedBody_ofBytes hlength]
    rfl
  rw [safeGet, hparse]
  show f.safeGetFrom N W maxBytes 3 url = .ok bytes
  rw [safeGetFrom, hhop, Fallible.ok_bind]

namespace IdentityResolver

variable {r : IdentityResolver} {handle did : String}

/-- A DID of the directory whose document is served. -/
theorem resolveDid_of_served {url : WebUrl} {pinned : SocketAddr × String} {bytes : List UInt8}
    {json : Json} {doc : DidDocument} (hmethod : validateDidSyntax did = .ok .plc)
    (hparse : N.urlParse (Text.trimEndMatches (· == '/') r.plcDirectoryUrl ++ "/" ++ did) = .ok url)
    (hpin : r.ssrfFilter.resolveAndPin N url (W.lookupHost (url.hostStr.getD "")) = .ok pinned)
    (hget : W.get url = .ok { status := 200, headers := [], body := .ofBytes bytes })
    (hlength : bytes.length ≤ MAX_OAUTH_RESPONSE_BYTES) (hjson : X.jsonFromSlice bytes = .ok json)
    (hdoc : DidDocument.fromJson json = .ok doc) (hid : doc.id = did) :
    r.resolveDid X N W did = .ok doc := by
  rw [resolveDid, hmethod, Fallible.ok_bind]
  show r.resolveDidPlc X N W did = .ok doc
  rw [resolveDidPlc, hmethod, Fallible.ok_bind, fetchDocument, SsrfFilter.safeGetJson,
    SsrfFilter.safeGet_of_served hparse hpin hget hlength, Fallible.ok_bind, hjson, Fallible.ok_bind, hdoc]
  simp only [Fallible.mapError_ok, Fallible.ok_bind, DidDocument.validateId, hid, if_true]
  rfl

/-! ## Identities -/

theorem fetchDocument_eq_ok {url : String} {doc : DidDocument}
    (h : r.fetchDocument X N W did url = .ok doc) : doc.id = did := by
  simp only [fetchDocument, Fallible.bind_eq_ok, Fallible.pure_eq_ok] at h
  obtain ⟨_, -, _, hid, rfl⟩ := h
  unfold DidDocument.validateId at hid
  split at hid
  · assumption
  · cases hid

theorem resolveDid_eq_ok {doc : DidDocument} (h : r.resolveDid X N W did = .ok doc) : doc.id = did := by
  simp only [resolveDid, Fallible.bind_eq_ok] at h
  obtain ⟨method, -, h⟩ := h
  cases method with
  | plc =>
    simp only [resolveDidPlc, Fallible.bind_eq_ok] at h
    obtain ⟨_, -, h⟩ := h
    exact fetchDocument_eq_ok h
  | web =>
    simp only [resolveDidWeb, Fallible.bind_eq_ok] at h
    obtain ⟨_, -, _, -, h⟩ := h
    exact fetchDocument_eq_ok h

/-- A handle that is reported for a typed-in handle resolves to the DID that is reported with it. A
    handle that is reported for a DID does so exactly if its records happen to name that DID: the
    document alone decides which handle is reported. -/
theorem reported_handle_resolves_iff (X : Crates) (N : NetCrates) (W : World) (r : IdentityResolver)
    (input : String) :
    (∀ id handle, r.resolveIdent X N W input = .ok id → id.handle = some handle →
      id.didDoc.id = id.did ∧ r.resolveHandle X N W handle = .ok id.did) ↔
    (Text.startsWith (Text.trim input) "did:" = true →
      ∀ doc pdsEndpoint handle, r.resolveDid X N W (Text.trim input) = .ok doc →
        doc.extractPdsEndpoint X = .ok pdsEndpoint → doc.extractPrimaryHandle N = some handle →
          Names X N W r handle (Text.trim input)) := by
  unfold resolveIdent
  by_cases hdid : Text.startsWith (Text.trim input) "did:" = true
  · simp only [hdid, if_true, Fallible.bind_eq_ok, Fallible.pure_eq_ok, true_imp_iff]
    constructor
    · intro h doc pdsEndpoint handle hdoc hpds hhandle
      obtain ⟨-, hresolves⟩ := h _ handle ⟨doc, hdoc, pdsEndpoint, hpds, rfl⟩ hhandle
      exact (resolveHandle_eq_ok (extractPrimaryHandle_eq_some hhandle)).1 hresolves
    · rintro h _ handle ⟨doc, hdoc, pdsEndpoint, hpds, rfl⟩ hhandle
      have hnames := h doc pdsEndpoint handle hdoc hpds hhandle
      exact ⟨resolveDid_eq_ok hdoc,
        (resolveHandle_eq_ok (extractPrimaryHandle_eq_some hhandle)).2 hnames⟩
  · simp only [hdid, Bool.false_eq_true, if_false, Fallible.bind_eq_ok, Fallible.pure_eq_ok,
      false_imp_iff, iff_true]
    rintro _ handle ⟨handle', -, did, hresolves, doc, hdoc, _, -, pdsEndpoint, -, rfl⟩ hhandle
    cases hhandle
    exact ⟨resolveDid_eq_ok hdoc, hresolves⟩

end IdentityResolver

namespace DirectorySample

def did : String := "did:plc:aaaaaaaaaaaaaaaaaaaaaaaa"

def url : WebUrl where
  scheme := "https"
  hostStr := some "plc.directory"
  port := none
  path := "/did:plc:aaaaaaaaaaaaaaaaaaaaaaaa"
  origin := "https://plc.directory"
  asStr := "https://plc.directory/did:plc:aaaaaaaaaaaaaaaaaaaaaaaa"

def net : NetCrates where
  parseIp := fun _ => none
  ipToString := fun _ => "104.16.1.1"
  urlParse := fun text => if text = url.asStr then .ok url else .error "relative URL without a base"
  urlJoin := fun _ _ => .error "relative URL without a base"
  statusDisplay := fun _ => "404 Not Found"

/-- The directory serves this document for the DID. -/
def world (text : String) : World where
  lookupHost := fun _ => .records [.v4 104 16 1 1]
  get := fun requested =>
    if requested = url then .ok { status := 200, headers := [], body := .ofBytes (Text.asBytes text) }
    else .error "connection refused"
  doh := fun _ => .error "connection refused"

/-- A resolver with these TXT records. -/
def resolver (records : String → List String) : IdentityResolver where
  ssrfFilter := { allowInsecureLocalhost := false }
  plcDirectoryUrl := DEFAULT_PLC_DIRECTORY
  dnsResolver := some fun name => .ok (records name)

theorem urlParse_did :
    net.urlParse (Text.trimEndMatches (· == '/') DEFAULT_PLC_DIRECTORY ++ "/" ++ did) = .ok url := by
  rfl

theorem resolveAndPin_url {records : String → List String} {text : String} :
    (resolver records).ssrfFilter.resolveAndPin net url
      ((world text).lookupHost (url.hostStr.getD "")) =
        .ok ({ ip := .v4 104 16 1 1, port := 443 }, "plc.directory") := by
  rfl

theorem resolveDid_did {X : Crates} {records : String → List String} {text : String} {json : Json}
    {doc : DidDocument} (hlength : (Text.asBytes text).length ≤ MAX_OAUTH_RESPONSE_BYTES)
    (hjson : X.jsonFromSlice (Text.asBytes text) = .ok json) (hdoc : DidDocument.fromJson json = .ok doc)
    (hid : doc.id = did) : (resolver records).resolveDid X net (world text) did = .ok doc :=
  IdentityResolver.resolveDid_of_served rfl urlParse_did resolveAndPin_url rfl hlength hjson hdoc hid

end DirectorySample

namespace ImpostorSample

open DirectorySample (did net)

/-- The DID of the account that the handle belongs to. -/
def owner : String := "did:plc:bbbbbbbbbbbbbbbbbbbbbbbb"

/-- The document of the impostor, as it is served. -/
def text : String :=
  "\x7b\"id\":\"did:plc:aaaaaaaaaaaaaaaaaaaaaaaa\",\"alsoKnownAs\":[\"at://alice.bsky.social\"]," ++
    "\"service\":[\x7b\"id\":\"#atproto_pds\",\"type\":\"AtprotoPersonalDataServer\"," ++
    "\"serviceEndpoint\":\"https://pds.attacker.com\"\x7d]\x7d"

def json : Json :=
  .obj [("id", .str did), ("alsoKnownAs", .arr [.str "at://alice.bsky.social"]),
    ("service", .arr [.obj [("id", .str "#atproto_pds"), ("type", .str "AtprotoPersonalDataServer"),
      ("serviceEndpoint", .str "https://pds.attacker.com")]])]

def document : DidDocument where
  id := did
  alsoKnownAs := ["at://alice.bsky.social"]
  verificationMethod := []
  service := [{ id := "#atproto_pds", serviceType := "AtprotoPersonalDataServer",
                serviceEndpoint := "https://pds.attacker.com" }]

def pdsUrl : Url where
  scheme := "https"
  hostStr := some "pds.attacker.com"
  port := none
  path := "/"
  origin := "https://pds.attacker.com"

def crates : Crates where
  sha256 := fun _ => []
  verifyingKey := fun _ => ⟨List.replicate 32 0, List.replicate 32 0, rfl, rfl⟩
  fromSec1Bytes := fun _ => .error "signature error"
  ecdsaSign := fun _ _ => []
  signatureFromSlice := fun _ => .error "signature error"
  ecdsaVerify := fun _ _ _ => .error "signature error"
  jsonFromSlice := fun bytes => if bytes = Text.asBytes text then .ok json else .error "expected value"
  jsonToString := fun _ => .ok text
  urlParse := fun url =>
    if url = "https://pds.attacker.com" then .ok pdsUrl else .error "relative URL without a base"
  base64Error := fun _ => ""
  unicodeUpper := fun c => [c]

def world : World := DirectorySample.world text

/-- A resolver with the TXT records of the handle, which name its owner. -/
def resolver : IdentityResolver := DirectorySample.resolver fun name =>
  if name = "_atproto.alice.bsky.social" then ["did=" ++ owner] else []

theorem jsonFromSlice_text : crates.jsonFromSlice (Text.asBytes text) = .ok json := by
  simp [crates]

theorem resolveDid_impostor : resolver.resolveDid crates net world did = .ok document :=
  DirectorySample.resolveDid_did (by decide +kernel) jsonFromSlice_text rfl rfl

theorem resolveHandle_alice :
    resolver.resolveHandle crates net world "alice.bsky.social" = .ok owner := by
  rfl

end ImpostorSample

open ImpostorSample in
open DirectorySample (did net) in
/-- The document of a DID claims the handle of somebody else, and the handle is reported. -/
theorem impostor_handle_reported : ∃ id, resolver.resolveIdent crates net world did = .ok id ∧
    id.handle = some "alice.bsky.social" ∧
      resolver.resolveHandle crates net world "alice.bsky.social" ≠ .ok id.did := by
  have hident : resolver.resolveIdent crates net world did =
      .ok { did := did, handle := some "alice.bsky.social", didDoc := document,
            pdsEndpoint := "https://pds.attacker.com" } := by
    have htrim : Text.trim did = did := by rfl
    have hdid : Text.startsWith did "did:" = true := by rfl
    simp only [IdentityResolver.resolveIdent, htrim, hdid, if_true, resolveDid_impostor, Fallible.ok_bind]
    rfl
  refine ⟨_, hident, rfl, ?_⟩
  rw [resolveHandle_alice]
  intro h
  exact absurd (Except.ok.inj h) (by decide)

end Skyauth
