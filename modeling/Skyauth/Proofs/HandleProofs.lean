import Skyauth.Proofs.IdentityProofs

/-!
# Proofs: handles, their records and the documents that claim them

The normal form of a handle is a dotted name in lower case, and a text in normal form is left alone.
What the TXT records of a handle say depends only on which DIDs they name, and the well-known document is
asked for only if they name none or cannot be had. The handle that is read off a document and the handles
that it is taken to claim are not spelled in the same way.
-/

namespace Skyauth

variable {X : Crates} {N : NetCrates} {W : World}

/-! ## Handles -/

/-- What the standard parser takes for an address: text with a colon in it, or digits and dots. -/
def ParsesAddresses (N : NetCrates) : Prop :=
  ∀ text ip, N.parseIp text = some ip →
    ':' ∈ text.toList ∨ ∀ c ∈ text.toList, c.isDigit = true ∨ c = '.'

/-- The standard parser is one. -/
theorem parsesAddresses (hparse : N.parseIp = IpAddr.parse) : ParsesAddresses N := by
  intro text ip hip
  rw [hparse, IpAddr.parse] at hip
  split at hip
  · rename_i rest hread
    split_ifs at hip with hrest
    have hconsumes := Address.consumes_readIpv4Addr (P := fun c => c.isDigit = true ∨ c = '.')
      (fun c hc => Or.inl (Address.isDigit_of_isDigitOf hc)) (Or.inr rfl)
    obtain ⟨used, htext, hused⟩ := hconsumes _ _ _ hread
    rw [htext, hrest, List.append_nil]
    exact Or.inr hused
  · split at hip
    · rename_i hread
      exact Or.inl (Address.colon_of_readIpv6Addr hread)
    · cases hip

/-- The grammar of handles. -/
structure IsHandle (handle : String) : Prop where
  bytes_pos : 1 ≤ handle.utf8ByteSize
  bytes_le : handle.utf8ByteSize ≤ 244
  labels_length : 2 ≤ (Text.split '.' handle).length
  labels : ∀ label ∈ Text.split '.' handle, Label.IsLabel 63 label ∧
    ∀ c ∈ label.toList, c.isLower = true ∨ c.isDigit = true ∨ c = '-'
  tld : (Text.split '.' handle).getLastD "" ∉ DISALLOWED_HANDLE_TLDS
  not_numeric : ∃ c ∈ handle.toList, ¬(c.isDigit = true ∨ c = '.')

/-- The characters of a normal form. -/
theorem not_upper_of_mem {s : String} {c : Char} (h : c ∈ (Text.toAsciiLowercase s).toList) :
    ¬(65 ≤ c.toNat ∧ c.toNat ≤ 90) := by
  rw [Text.toAsciiLowercase, String.toList_ofList] at h
  obtain ⟨d, -, rfl⟩ := List.mem_map.1 h
  rw [Text.toNat_toLower]
  split <;> omega

theorem isLabelChar_lower {c : Char} (h : Label.isLabelChar c = true)
    (hlower : ¬(65 ≤ c.toNat ∧ c.toNat ≤ 90)) : c.isLower = true ∨ c.isDigit = true ∨ c = '-' := by
  rw [Label.isLabelChar, Bool.or_eq_true, Text.isAlphanum_iff, Text.isUpper_iff, beq_iff_eq] at h
  tauto

namespace IsHandle

variable {handle : String}

theorem ne_empty (h : IsHandle handle) : handle ≠ "" := by
  rintro rfl
  exact absurd h.bytes_pos (by decide)

theorem chars (h : IsHandle handle) : ∀ c ∈ handle.toList, isHandleChar c = true :=
  isHandleChar_of_labels fun label hlabel => (h.labels label hlabel).1

/-- A handle is in lower case. -/
theorem toAsciiLowercase (h : IsHandle handle) : Text.toAsciiLowercase handle = handle := by
  have hlower : ∀ c ∈ handle.toList, c.toLower = c := by
    intro c hc
    rcases @Text.mem_split '.' _ _ hc with rfl | ⟨label, hlabel, hmem⟩
    · rfl
    · rw [← Char.toNat_inj, Text.toNat_toLower, if_neg]
      rcases (h.labels label hlabel).2 c hmem with hl | hd | rfl
      · rw [Text.isLower_iff] at hl
        omega
      · rw [Text.isDigit_iff] at hd
        omega
      · decide
  rw [Text.toAsciiLowercase, List.map_congr_left hlower, List.map_id', String.ofList_toList]

theorem trim (h : IsHandle handle) : Text.trim handle = handle := trim_of_chars h.chars

theorem trimStart (h : IsHandle handle) : Text.trimStartMatches (· == '@') handle = handle :=
  trimStart_of_chars h.chars

theorem handleForm_eq (h : IsHandle handle) : handleForm handle = handle := by
  rw [handleForm, h.trim, h.trimStart, h.toAsciiLowercase]

theorem dot_mem (h : IsHandle handle) : '.' ∈ handle.toList := by
  by_contra hdot
  have hlength := h.labels_length
  rw [Text.split_eq_singleton hdot] at hlength
  exact Nat.not_succ_le_self 1 hlength

/-- A handle is not taken for an address. -/
theorem parseIp_eq_none (h : IsHandle handle) (haddr : ParsesAddresses N) : N.parseIp handle = none := by
  cases hparse : N.parseIp handle with
  | none => rfl
  | some ip =>
    rcases haddr handle ip hparse with hcolon | hnumeric
    · exact absurd (h.chars _ hcolon) (by decide)
    · obtain ⟨c, hc, hother⟩ := h.not_numeric
      exact absurd (hnumeric c hc) hother

theorem not_bracket (h : IsHandle handle) : Text.startsWith handle "[" = false := by
  rw [← Bool.not_eq_true]
  intro hstart
  obtain ⟨rest, rfl⟩ := Text.startsWith_iff.1 hstart
  have hmem : '[' ∈ ("[" ++ rest).toList := by
    rw [String.toList_append]
    exact List.mem_append_left _ (by decide)
  exact absurd (h.chars _ hmem) (by decide)

end IsHandle

/-- On a text in normal form the checks are the grammar. The one for `handle.invalid` comes after its
    TLD has been refused. -/
theorem checkHandle_handleForm (haddr : ParsesAddresses N) (raw : String) :
    checkHandle N (handleForm raw) = .ok () ↔ IsHandle (handleForm raw) := by
  have hupper : ∀ c ∈ (handleForm raw).toList, ¬(65 ≤ c.toNat ∧ c.toNat ≤ 90) := fun c hc =>
    not_upper_of_mem hc
  generalize handleForm raw = handle at hupper ⊢
  rw [checkHandle_iff]
  constructor
  · rintro ⟨⟨hne, hbytes⟩, ⟨-, -, hnumeric⟩, hlength, hlabels, htld, -⟩
    refine ⟨?_, hbytes, hlength, fun label hlabel => ⟨hlabels label hlabel, fun c hc => ?_⟩, htld, hnumeric⟩
    · exact Nat.pos_of_ne_zero fun hzero => hne (String.utf8ByteSize_eq_zero_iff.1 hzero)
    · exact isLabelChar_lower ((hlabels label hlabel).chars c hc)
        (hupper c (Text.mem_of_mem_split hlabel hc))
  · intro h
    refine ⟨⟨h.ne_empty, h.bytes_le⟩, ⟨h.parseIp_eq_none haddr, h.not_bracket, h.not_numeric⟩,
      h.labels_length, fun label hlabel => (h.labels label hlabel).1, h.tld, ?_⟩
    rintro rfl
    exact absurd h.tld (by decide)

/-- The normal form of a text is a handle exactly if it is of the grammar, and handles are their own normal
    form, also where a default domain might be added. -/
theorem normalizeHandle_iff (haddr : ParsesAddresses N) (s n : String) :
    (normalizeHandle N s = .ok n ↔
      n = Text.toAsciiLowercase (Text.trimStartMatches (· == '@') (Text.trim s)) ∧ IsHandle n) ∧
    (IsHandle n → normalizeHandle N n = .ok n ∧ normalizeUserHandle N n = .ok n) := by
  have hfixed : IsHandle n → normalizeHandle N n = .ok n := by
    intro h
    have hcheck := (checkHandle_handleForm haddr n).2 (by rw [h.handleForm_eq]; exact h)
    rw [h.handleForm_eq] at hcheck
    exact normalizeHandle_eq_ok.2 ⟨h.handleForm_eq, hcheck⟩
  refine ⟨?_, fun h => ⟨hfixed h, ?_⟩⟩
  · rw [normalizeHandle_eq_ok]
    constructor
    · rintro ⟨rfl, hcheck⟩
      exact ⟨rfl, (checkHandle_handleForm haddr s).1 hcheck⟩
    · rintro ⟨rfl, h⟩
      exact ⟨rfl, (checkHandle_handleForm haddr s).2 h⟩
  · rw [normalizeUserHandle, normalizeHandleWithDefaultDomain]
    simp only [h.trim, h.trimStart, h.toAsciiLowercase, Fallible.rejectIf, if_neg h.ne_empty,
      if_neg (not_not.2 h.dot_mem), hfixed h]
    rfl

/-- With the standard parser of addresses. -/
def HandleSample.net : NetCrates := { DirectorySample.net with parseIp := IpAddr.parse }

open HandleSample (net) in
theorem normalizeHandle_iff_sample :
    normalizeHandle net " @Alice.bsky.social" = .ok "alice.bsky.social" ∧
    IsHandle "alice.bsky.social" ∧
    normalizeUserHandle net "alice.bsky.social" = .ok "alice.bsky.social" := by
  have haddr : ParsesAddresses net := parsesAddresses rfl
  have hnormal : normalizeHandle net " @Alice.bsky.social" = .ok "alice.bsky.social" := by rfl
  obtain ⟨hexact, hfixed⟩ := normalizeHandle_iff haddr " @Alice.bsky.social" "alice.bsky.social"
  have hhandle := (hexact.1 hnormal).2
  exact ⟨hnormal, hhandle, (hfixed hhandle).2⟩

/-! ## The records of a handle -/

/-- A TXT record that names a DID. -/
def NamesDid (records : List String) (did : String) : Prop := did ≠ "" ∧ "did=" ++ did ∈ records

theorem mem_didValues {records : List String} {did : String} :
    did ∈ didValues records ↔ NamesDid records did := by
  simp only [didValues, NamesDid, List.mem_filter, List.mem_map, decide_eq_true_eq]
  constructor
  · rintro ⟨⟨record, ⟨hmem, hstart⟩, rfl⟩, hne⟩
    obtain ⟨did, rfl⟩ := Text.startsWith_iff.1 hstart
    rw [Text.stripPrefix_append, Option.getD_some] at hne ⊢
    exact ⟨hne, hmem⟩
  · rintro ⟨hne, hmem⟩
    refine ⟨⟨_, ⟨hmem, Text.startsWith_iff.2 ⟨did, rfl⟩⟩, ?_⟩, hne⟩
    rw [Text.stripPrefix_append, Option.getD_some]

/-- Records in another order, with records repeated and with others that do not start with `did=`. -/
inductive Rearranged : List String → List String → Prop
  | perm {records records' : List String} : records.Perm records' → Rearranged records records'
  | repeated {records more : List String} : more ⊆ records → Rearranged records (records ++ more)
  | others {records more : List String} : (∀ record ∈ more, Text.startsWith record "did=" = false) →
      Rearranged records (records ++ more)
  | trans {first second third : List String} : Rearranged first second → Rearranged second third →
      Rearranged first third

theorem Rearranged.namesDid {records records' : List String} (h : Rearranged records records')
    (did : String) : NamesDid records did ↔ NamesDid records' did := by
  induction h with
  | perm hperm => rw [NamesDid, NamesDid, hperm.mem_iff]
  | repeated hmore =>
    rw [NamesDid, NamesDid, List.mem_append, or_iff_left_of_imp (@hmore _)]
  | others hmore =>
    refine and_congr_right fun _ => ?_
    rw [List.mem_append, or_iff_left]
    intro hmem
    exact absurd (Text.startsWith_iff.2 ⟨did, rfl⟩) (Bool.eq_false_iff.1 (hmore _ hmem))
  | trans _ _ ih ih' => exact ih.trans ih'

namespace IdentityResolver

variable {r : IdentityResolver} {raw handle : String} {records : List String}

theorem resolveHandleDns_of_records (hn : normalizeHandle N raw = .ok handle)
    (hrecords : r.resolveTxt X N W ("_atproto." ++ handle) = .ok records) :
    r.resolveHandleDns X N W raw = namedDid handle (didValues records) := by
  rw [resolveHandleDns, hn, Fallible.ok_bind, hrecords]
  rfl

theorem resolveHandleDns_eq_some (hn : normalizeHandle N raw = .ok handle)
    (hrecords : r.resolveTxt X N W ("_atproto." ++ handle) = .ok records) (did : String) :
    r.resolveHandleDns X N W raw = .ok (some did) ↔ (∃ d, NamesDid records d) ∧
      (∀ d, NamesDid records d → d = did) ∧ ∃ method, validateDidSyntax did = .ok method := by
  rw [resolveHandleDns_of_records hn hrecords, namedDid_eq_some, ne_eq, List.eq_nil_iff_forall_not_mem]
  simp only [mem_didValues, not_forall, not_not]

theorem resolveHandleDns_eq_none (hn : normalizeHandle N raw = .ok handle)
    (hrecords : r.resolveTxt X N W ("_atproto." ++ handle) = .ok records) :
    r.resolveHandleDns X N W raw = .ok none ↔ ¬∃ d, NamesDid records d := by
  rw [resolveHandleDns_of_records hn hrecords, namedDid_eq_none, List.eq_nil_iff_forall_not_mem]
  simp only [mem_didValues, not_exists]

/-- The answer goes by what the records name. -/
theorem resolveHandleDns_congr {r' : IdentityResolver} {records' : List String}
    (hn : normalizeHandle N raw = .ok handle)
    (hrecords : r.resolveTxt X N W ("_atproto." ++ handle) = .ok records)
    (hrecords' : r'.resolveTxt X N W ("_atproto." ++ handle) = .ok records')
    (hnames : ∀ did, NamesDid records did ↔ NamesDid records' did) (answer : Option String) :
    r.resolveHandleDns X N W raw = .ok answer ↔ r'.resolveHandleDns X N W raw = .ok answer := by
  cases answer with
  | none =>
    rw [resolveHandleDns_eq_none hn hrecords, resolveHandleDns_eq_none hn hrecords']
    simp only [hnames]
  | some did =>
    rw [resolveHandleDns_eq_some hn hrecords, resolveHandleDns_eq_some hn hrecords']
    simp only [hnames]

/-- `resolve_handle` with the outcome of the HTTPS lookup left open. -/
def resolveHandleBy (X : Crates) (N : NetCrates) (W : World) (r : IdentityResolver)
    (https : String → Except IdentityError String) (handle : String) : Except IdentityError String := do
  let normalized ← normalizeHandle N handle
  match r.resolveHandleDns X N W normalized with
  | .ok (some did) => return did
  | .ok none => https normalized
  | .error (.dns _) => https normalized
  | .error e => .error e

theorem resolveHandle_eq_by (handle : String) :
    r.resolveHandle X N W handle = r.resolveHandleBy X N W (r.resolveHandleHttps N W) handle := by
  unfold resolveHandle resolveHandleBy
  refine bind_congr fun normalized => ?_
  cases r.resolveHandleDns X N W normalized with
  | ok answer => cases answer <;> rfl
  | error e => cases e <;> rfl

/-- The outcome of the HTTPS lookup makes a difference. -/
def ConsultsHttps (X : Crates) (N : NetCrates) (W : World) (r : IdentityResolver) (raw : String) : Prop :=
  ∃ https https', r.resolveHandleBy X N W https raw ≠ r.resolveHandleBy X N W https' raw

/-- The answers of the name service after which the well-known document is asked for. -/
def FallsBack (X : Crates) (N : NetCrates) (W : World) (r : IdentityResolver) (raw : String) : Prop :=
  r.resolveHandleDns X N W raw = .ok none ∨ ∃ msg, r.resolveHandleDns X N W raw = .error (.dns msg)

theorem resolveHandleDns_raw (hn : normalizeHandle N raw = .ok handle) :
    r.resolveHandleDns X N W raw = r.resolveHandleDns X N W handle := by
  rw [resolveHandleDns, resolveHandleDns, hn, normalizeHandle_normalizeHandle hn]

theorem resolveHandleBy_of_fallsBack (hn : normalizeHandle N raw = .ok handle)
    (h : r.FallsBack X N W raw) (https : String → Except IdentityError String) :
    r.resolveHandleBy X N W https raw = https handle := by
  rw [FallsBack, resolveHandleDns_raw hn] at h
  rw [resolveHandleBy, hn, Fallible.ok_bind]
  rcases h with h | ⟨msg, h⟩
  · rw [h]
  · rw [h]

theorem resolveHandleBy_of_not_fallsBack (hn : normalizeHandle N raw = .ok handle)
    (h : ¬r.FallsBack X N W raw) (https https' : String → Except IdentityError String) :
    r.resolveHandleBy X N W https raw = r.resolveHandleBy X N W https' raw := by
  rw [FallsBack, resolveHandleDns_raw hn, not_or] at h
  obtain ⟨hnone, hdns⟩ := h
  rw [resolveHandleBy, resolveHandleBy, hn, Fallible.ok_bind, Fallible.ok_bind]
  cases hanswer : r.resolveHandleDns X N W handle with
  | ok answer =>
    cases answer with
    | none => exact absurd hanswer hnone
    | some did => rfl
  | error e =>
    cases e with
    | dns msg => exact absurd ⟨msg, hanswer⟩ hdns
    | _ => rfl

theorem consultsHttps_iff (hn : normalizeHandle N raw = .ok handle) :
    r.ConsultsHttps X N W raw ↔ r.FallsBack X N W raw := by
  constructor
  · rintro ⟨https, https', hne⟩
    by_contra h
    exact hne (resolveHandleBy_of_not_fallsBack hn h https https')
  · intro h
    refine ⟨fun _ => .ok "", fun _ => .ok "did=", ?_⟩
    rw [resolveHandleBy_of_fallsBack hn h, resolveHandleBy_of_fallsBack hn h]
    intro heq
    exact absurd (Except.ok.inj heq) (by decide)

/-- A record that names a DID settles the matter, for good or ill. -/
theorem not_fallsBack_of_namesDid (hn : normalizeHandle N raw = .ok handle)
    (hrecords : r.resolveTxt X N W ("_atproto." ++ handle) = .ok records) (hnames : ∃ d, NamesDid records d) :
    ¬r.FallsBack X N W raw := by
  rintro (hnone | ⟨msg, hdns⟩)
  · exact (resolveHandleDns_eq_none hn hrecords).1 hnone hnames
  · rw [resolveHandleDns_of_records hn hrecords] at hdns
    exact namedDid_ne_dns msg hdns

/-- The TXT records of a handle are read as a set of DIDs, and the well-known document is asked for only
    if they name none or the name service fails: `resolve_handle` with any other outcome of the HTTPS lookup
    is the same otherwise. -/
theorem resolveHandle_records (hn : normalizeHandle N raw = .ok handle) :
    (∀ records, r.resolveTxt X N W ("_atproto." ++ handle) = .ok records →
      (∀ did, r.resolveHandleDns X N W raw = .ok (some did) ↔ (∃ d, NamesDid records d) ∧
        (∀ d, NamesDid records d → d = did) ∧ ∃ method, validateDidSyntax did = .ok method) ∧
      (r.resolveHandleDns X N W raw = .ok none ↔ ¬∃ d, NamesDid records d) ∧
      (∀ (r' : IdentityResolver) records', Rearranged records records' →
        r'.resolveTxt X N W ("_atproto." ++ handle) = .ok records' → ∀ answer,
          r.resolveHandleDns X N W raw = .ok answer ↔ r'.resolveHandleDns X N W raw = .ok answer) ∧
      ((∃ d, NamesDid records d) → ¬r.ConsultsHttps X N W raw)) ∧
    (r.ConsultsHttps X N W raw ↔ r.resolveHandleDns X N W raw = .ok none ∨
      ∃ msg, r.resolveHandleDns X N W raw = .error (.dns msg)) ∧
    (r.ConsultsHttps X N W raw → r.resolveHandle X N W raw = r.resolveHandleHttps N W handle) ∧
    r.resolveHandle X N W raw = r.resolveHandleBy X N W (r.resolveHandleHttps N W) raw := by
  refine ⟨fun records hrecords => ⟨resolveHandleDns_eq_some hn hrecords,
    resolveHandleDns_eq_none hn hrecords, ?_, ?_⟩, consultsHttps_iff hn, ?_, resolveHandle_eq_by raw⟩
  · intro r' records' hrearranged hrecords' answer
    exact resolveHandleDns_congr hn hrecords hrecords' hrearranged.namesDid answer
  · intro hnames hconsults
    exact not_fallsBack_of_namesDid hn hrecords hnames ((consultsHttps_iff hn).1 hconsults)
  · intro hconsults
    rw [resolveHandle_eq_by]
    exact resolveHandleBy_of_fallsBack hn ((consultsHttps_iff hn).1 hconsults) _

open DirectorySample (net) in
open ImpostorSample in
theorem resolveHandle_records_sample :
    resolver.resolveHandleDns crates net world "@Alice.bsky.social" = .ok (some owner) ∧
    ¬resolver.ConsultsHttps crates net world "@Alice.bsky.social" := by
  have hn : normalizeHandle net "@Alice.bsky.social" = .ok "alice.bsky.social" := by rfl
  have hrecords : resolver.resolveTxt crates net world ("_atproto." ++ "alice.bsky.social") =
      .ok ["did=" ++ owner] := by rfl
  obtain ⟨hanswers, -, -⟩ := resolveHandle_records hn
  obtain ⟨hsome, -, -, hsettled⟩ := hanswers _ hrecords
  have hnames : NamesDid ["did=" ++ owner] owner := ⟨by decide, List.mem_singleton_self _⟩
  refine ⟨(hsome owner).2 ⟨⟨owner, hnames⟩, ?_, .plc, by rfl⟩, hsettled ⟨owner, hnames⟩⟩
  rintro did ⟨-, hmem⟩
  exact String.append_right_inj "did=" |>.1 (List.mem_singleton.1 hmem)

end IdentityResolver

/-! ## The handle of a document -/

/-- A candidate as it is read, in its own case. -/
def handleText (raw : String) : String := Text.trimStartMatches (· == '@') (Text.trim raw)

namespace DidDocument

variable {doc : DidDocument} {handle text : String}

/-- The text after `at://` of the first entry that is read as a handle. -/
def firstCandidate (N : NetCrates) (doc : DidDocument) : Option String :=
  doc.alsoKnownAs.findSome? fun aka =>
    (Text.stripPrefix aka "at://").filter fun text => (normalizeHandle N text).toOption.isSome

theorem extractPrimaryHandle_eq (doc : DidDocument) : doc.extractPrimaryHandle N =
    (doc.firstCandidate N).bind fun text => (normalizeHandle N text).toOption := by
  rw [extractPrimaryHandle, firstCandidate]
  induction doc.alsoKnownAs with
  | nil => rfl
  | cons aka rest ih =>
    rw [List.findSome?_cons, List.findSome?_cons]
    cases Text.stripPrefix aka "at://" with
    | none => exact ih
    | some text =>
      cases hnormal : (normalizeHandle N text).toOption with
      | none => simpa [Option.filter, hnormal] using ih
      | some handle => simp [Option.filter, hnormal]

theorem firstCandidate_eq_some (h : doc.firstCandidate N = some text) :
    "at://" ++ text ∈ doc.alsoKnownAs ∧
      ∃ handle, normalizeHandle N text = .ok handle ∧ doc.extractPrimaryHandle N = some handle := by
  obtain ⟨aka, haka, hfilter⟩ := List.exists_of_findSome?_eq_some h
  obtain ⟨hstrip, hsome⟩ := Option.filter_eq_some_iff.1 hfilter
  rw [Text.stripPrefix_eq_some] at hstrip
  subst hstrip
  refine ⟨haka, ?_⟩
  rw [extractPrimaryHandle_eq, h]
  cases hnormal : normalizeHandle N text with
  | error e =>
    rw [hnormal] at hsome
    cases hsome
  | ok handle => exact ⟨handle, rfl, by rw [Option.bind_some, hnormal]; rfl⟩

/-- An entry links to a handle in whatever case it is written. -/
theorem verifyHandleBidirectional_eq_ok : doc.verifyHandleBidirectional handle = .ok () ↔
    ∃ aka ∈ doc.alsoKnownAs, Text.eqIgnoreAsciiCase aka ("at://" ++ handleText handle) = true := by
  have hmatches : doc.matchesHandle handle = true ↔
      ∃ aka ∈ doc.alsoKnownAs, Text.eqIgnoreAsciiCase aka ("at://" ++ handleText handle) = true := by
    simp only [matchesHandle, List.any_eq_true, beq_iff_eq, Text.eqIgnoreAsciiCase_iff,
      Text.toAsciiLowercase_append]
    rfl
  rw [verifyHandleBidirectional, ← hmatches]
  split <;> simp [*]

/-- The handle of a document is linked to as the candidate it was read from is spelled. -/
theorem verifyHandleBidirectional_normalizeHandle (h : normalizeHandle N text = .ok handle) :
    doc.verifyHandleBidirectional handle = .ok () ↔
      ∃ aka ∈ doc.alsoKnownAs, Text.eqIgnoreAsciiCase aka ("at://" ++ handleText text) = true := by
  have hfixed := (normalizeHandle_eq_ok.1 (normalizeHandle_normalizeHandle h)).1
  obtain ⟨rfl, -⟩ := normalizeHandle_eq_ok.1 h
  rw [verifyHandleBidirectional_eq_ok]
  simp only [Text.eqIgnoreAsciiCase_iff, Text.toAsciiLowercase_append]
  have hlower : Text.toAsciiLowercase (handleText (handleForm text)) = handleForm text := hfixed
  rw [hlower]
  rfl

/-- The primary handle of a document is one that it links to, unless it was read from an entry with white
    space or an `@` about the handle and no entry has the handle without them. -/
theorem extractPrimaryHandle_linked_iff (N : NetCrates) (doc : DidDocument) :
    (∀ handle, doc.extractPrimaryHandle N = some handle →
      doc.verifyHandleBidirectional handle = .ok ()) ↔
    ∀ text, doc.firstCandidate N = some text →
      (Text.trim text = text ∧ text.toList.head? ≠ some '@') ∨
      ∃ aka ∈ doc.alsoKnownAs, Text.eqIgnoreAsciiCase aka
        ("at://" ++ Text.trimStartMatches (· == '@') (Text.trim text)) = true := by
  constructor
  · intro hlinked text htext
    obtain ⟨-, handle, hnormal, hprimary⟩ := firstCandidate_eq_some htext
    exact Or.inr ((verifyHandleBidirectional_normalizeHandle hnormal).1 (hlinked handle hprimary))
  · intro hspelled handle hprimary
    rw [extractPrimaryHandle_eq] at hprimary
    obtain ⟨text, htext, -⟩ := Option.bind_eq_some_iff.1 hprimary
    obtain ⟨hmem, handle', hnormal, hprimary'⟩ := firstCandidate_eq_some htext
    rw [← extractPrimaryHandle_eq, hprimary'] at hprimary
    cases hprimary
    rw [verifyHandleBidirectional_normalizeHandle hnormal]
    rcases hspelled text htext with ⟨htrim, hat⟩ | hentry
    · refine ⟨_, hmem, ?_⟩
      rw [handleText, htrim, Text.trimStartMatches_of_head hat]
      exact Text.eqIgnoreAsciiCase_refl _
    · exact hentry

/-- The document of the counterexample: its only entry has an `@` before the handle. -/
def atSignDocument : DidDocument :=
  { id := "did:plc:ewvi7nxzyoun6zhxrhs64oiz"
    alsoKnownAs := ["at://@alice.bsky.social"]
    verificationMethod := []
    service := [] }

theorem extractPrimaryHandle_not_linked :
    atSignDocument.extractPrimaryHandle DirectorySample.net = some "alice.bsky.social" ∧
    atSignDocument.verifyHandleBidirectional "alice.bsky.social" =
      .error (.handleDidMismatch "alice.bsky.social") := by
  constructor <;> rfl

end DidDocument

end Skyauth
