import Skyauth.Xrpc
import Skyauth.Lib.Label
import Skyauth.Lib.Fallible

/-!
# Proofs: method identifiers and the paths they make

The validator accepts the identifiers of the grammar, with slashes before them. What it accepts goes into
the path of a request as one component: nothing in it ends the component or climbs out of it.
-/

namespace Skyauth

/-! ## The grammar -/

/-- An identifier: at least three labels with dots between them, the first one beginning with a letter and
    the last one made of a letter and then letters and digits. -/
structure IsNsid (nsid : String) : Prop where
  bytes : nsid.utf8ByteSize ≤ 317
  segments : 3 ≤ (Text.split '.' nsid).length
  labels : ∀ seg ∈ Text.split '.' nsid, Label.IsLabel 63 seg
  first : ∃ c rest, ((Text.split '.' nsid).headD "").toList = c :: rest ∧ c.isAlpha = true
  name : ∃ c rest, ((Text.split '.' nsid).getLastD "").toList = c :: rest ∧ c.isAlpha = true ∧
    ∀ d ∈ rest, d.isAlphanum = true

/-- A run of slashes. -/
def slashes (k : Nat) : String := String.ofList (List.replicate k '/')

theorem isNsidSegment_iff {seg : String} : isNsidSegment seg = true ↔ Label.IsLabel 63 seg := by
  have hmax : decide (NSID_MAX_SEGMENT_LENGTH < seg.utf8ByteSize) = false ↔ seg.utf8ByteSize ≤ 63 := by
    rw [decide_eq_false_iff_not, Nat.not_lt]
    rfl
  rw [Label.isLabel_iff, isNsidSegment]
  simp only [Bool.not_eq_true', Bool.or_eq_false_iff, beq_eq_false_iff_ne, hmax, Bool.not_eq_false',
    and_assoc]
  rfl

theorem head_any_iff {text : List Char} {p : Char → Bool} :
    text.head?.any p = true ↔ ∃ c rest, text = c :: rest ∧ p c = true := by
  cases text with
  | nil => simp
  | cons c rest => simp

theorem isNsidName_iff {name : String} : isNsidName name = true ↔
    ∃ c rest, name.toList = c :: rest ∧ c.isAlpha = true ∧ ∀ d ∈ rest, d.isAlphanum = true := by
  rw [isNsidName, Bool.and_eq_true, head_any_iff]
  constructor
  · rintro ⟨⟨c, rest, hname, hc⟩, hall⟩
    refine ⟨c, rest, hname, hc, fun d hd => ?_⟩
    rw [hname] at hall
    simp only [List.any_cons, Bool.not_or, Bool.not_not, Bool.and_eq_true, Bool.not_eq_true',
      List.any_eq_false, Bool.not_eq_false] at hall
    exact hall.2 d hd
  · rintro ⟨c, rest, hname, hc, hrest⟩
    refine ⟨⟨c, rest, hname, hc⟩, ?_⟩
    rw [hname]
    simp only [List.any_cons, Bool.not_or, Bool.not_not, Bool.and_eq_true, Bool.not_eq_true',
      List.any_eq_false, Bool.not_eq_false]
    exact ⟨by rw [Char.isAlphanum, hc, Bool.true_or], hrest⟩

/-- The characters of an identifier. -/
theorem IsNsid.char {nsid : String} (h : IsNsid nsid) {c : Char} (hc : c ∈ nsid.toList) :
    c = '.' ∨ Label.isLabelChar c = true := Label.char_of_labels h.labels hc

theorem IsNsid.notMem {nsid : String} (h : IsNsid nsid) {c : Char} (hdot : c ≠ '.')
    (hlabel : Label.isLabelChar c = false) : c ∉ nsid.toList := fun hc =>
  (h.char hc).elim hdot fun htrue => absurd htrue (by rw [hlabel]; decide)

theorem IsNsid.ne_empty {nsid : String} (h : IsNsid nsid) : nsid ≠ "" := by
  rintro rfl
  exact absurd h.segments (by decide)

theorem trimStartMatches_slashes {nsid : String} (h : IsNsid nsid) (k : Nat) :
    Text.trimStartMatches (· == '/') (slashes k ++ nsid) = nsid := by
  have hslash : ∀ c ∈ nsid.toList, (c == '/') = false := fun c hc =>
    beq_eq_false_iff_ne.2 fun heq => h.notMem (by decide) (by decide) (heq ▸ hc)
  have hrun : ∀ c ∈ List.replicate k '/', (c == '/') = true := fun c hc =>
    beq_iff_eq.2 (List.eq_of_mem_replicate hc)
  rw [Text.trimStartMatches, slashes, String.toList_append, String.toList_ofList,
    List.dropWhile_append_of_pos hrun, Text.dropWhile_eq_self_of_all_not hslash, String.ofList_toList]

theorem exists_slashes (nsid : String) :
    ∃ k, nsid = slashes k ++ Text.trimStartMatches (· == '/') nsid := by
  obtain ⟨start, hnsid, hstart⟩ := Text.trimStartMatches_decomp (· == '/') nsid
  have hrun : start = slashes start.toList.length := by
    rw [← String.toList_inj, slashes, String.toList_ofList]
    exact List.eq_replicate_of_mem fun c hc => beq_iff_eq.1 (hstart c hc)
  exact ⟨start.toList.length, by rw [← hrun]; exact hnsid⟩

/-- The checks on the text after the slashes are the grammar; the search for dots that meet and for two
    forbidden characters adds nothing to it. -/
theorem isValidNsid_trimmed {nsid : String} :
    isValidNsid nsid = true ↔ IsNsid (Text.trimStartMatches (· == '/') nsid) := by
  unfold isValidNsid
  generalize Text.trimStartMatches (· == '/') nsid = trimmed
  constructor
  · intro h
    simp only [] at h
    split_ifs at h with hlength hforbidden hcount hlabels hfirst
    refine ⟨?_, ?_, ?_, ?_, isNsidName_iff.1 h⟩
    · exact Nat.le_of_not_lt (not_or.1 hlength).2
    · exact Nat.le_of_not_lt hcount
    · intro seg hseg
      have hall : (Text.split '.' trimmed).all isNsidSegment = true := by simpa using hlabels
      exact isNsidSegment_iff.1 (List.all_eq_true.1 hall seg hseg)
    · have hany : ((Text.split '.' trimmed).headD "").toList.head?.any Char.isAlpha = true := by
        simpa using hfirst
      exact head_any_iff.1 hany
  · intro h
    have hlength : ¬(trimmed = "" ∨ NSID_MAX_LENGTH < trimmed.utf8ByteSize) :=
      not_or.2 ⟨h.ne_empty, Nat.not_lt.2 h.bytes⟩
    have hcount : ¬(Text.split '.' trimmed).length < NSID_MIN_SEGMENTS := Nat.not_lt.2 h.segments
    have hdots : ¬Text.contains trimmed ".." = true := by
      rw [Label.not_contains_dots h.labels]
      decide
    have hback : '\\' ∉ trimmed.toList := h.notMem (by decide) (by decide)
    have hpercent : '%' ∉ trimmed.toList := h.notMem (by decide) (by decide)
    have hlabels : (Text.split '.' trimmed).all isNsidSegment = true :=
      List.all_eq_true.2 fun seg hseg => isNsidSegment_iff.2 (h.labels seg hseg)
    simp only []
    rw [if_neg hlength, if_neg (not_or.2 ⟨hdots, not_or.2 ⟨hback, hpercent⟩⟩), if_neg hcount, hlabels,
      head_any_iff.2 h.first]
    exact isNsidName_iff.2 h.name

/-- What is accepted is an identifier of the grammar after slashes. -/
theorem isValidNsid_iff {nsid : String} :
    isValidNsid nsid = true ↔ ∃ k n, nsid = slashes k ++ n ∧ IsNsid n := by
  rw [isValidNsid_trimmed]
  constructor
  · intro h
    obtain ⟨k, hk⟩ := exists_slashes nsid
    exact ⟨k, _, hk, h⟩
  · rintro ⟨k, n, rfl, hn⟩
    rw [trimStartMatches_slashes hn]
    exact hn

/-! ## Paths -/

/-- A path as its part before the trailing slashes, and these. -/
theorem exists_trailing_slashes (path : String) :
    ∃ k, path = Text.trimEndMatches (· == '/') path ++ slashes k := by
  have hsplit : path.toList.rdropWhile (· == '/') ++ path.toList.rtakeWhile (· == '/') = path.toList :=
    List.rdropWhile_append_rtakeWhile
  have hrun : path.toList.rtakeWhile (· == '/') =
      List.replicate (path.toList.rtakeWhile (· == '/')).length '/' :=
    Text.rtakeWhile_eq_replicate (fun c hc => beq_iff_eq.1 hc) _
  refine ⟨(path.toList.rtakeWhile (· == '/')).length, ?_⟩
  rw [← String.toList_inj, String.toList_append, Text.trimEndMatches, String.toList_ofList, slashes,
    String.toList_ofList, ← hrun, hsplit]

theorem trimEndMatches_last (path : String) :
    (Text.trimEndMatches (· == '/') path).toList.getLast? ≠ some '/' := by
  rw [Text.trimEndMatches, String.toList_ofList]
  intro hlast
  have hne : path.toList.rdropWhile (· == '/') ≠ [] := by
    intro hnil
    rw [hnil] at hlast
    cases hlast
  have hnot := List.rdropWhile_last_not (· == '/') path.toList hne
  rw [List.getLast?_eq_getLast_of_ne_nil hne, Option.some.injEq] at hlast
  exact hnot (beq_iff_eq.2 hlast)

/-- The URL of a request with an accepted identifier. -/
theorem xrpcUrl_eq_ok {U : UrlCrates} {session : OAuthSession} {endpoint n : String} {url : WebUrl}
    (k : Nat) (queryParams : List (String × String)) (hn : IsNsid n)
    (hendpoint : session.pdsEndpoint = some endpoint) (hurl : U.parse endpoint = .ok url) :
    xrpcUrl U session (slashes k ++ n) queryParams =
      .ok (if queryParams ≠ [] then
          U.extendPairs (U.setPath url (Text.trimEndMatches (· == '/') url.path ++ "/xrpc/" ++ n))
            queryParams
        else U.setPath url (Text.trimEndMatches (· == '/') url.path ++ "/xrpc/" ++ n)) := by
  have hvalid : validateXrpcNsid (slashes k ++ n) = .ok () :=
    if_pos (isValidNsid_iff.2 ⟨k, n, rfl, hn⟩)
  rw [xrpcUrl, hvalid, Fallible.ok_bind, hendpoint, Option.elim_some, Fallible.ok_bind, hurl]
  simp only [Fallible.mapError_ok, Fallible.ok_bind, trimStartMatches_slashes hn]
  rfl

/-- Identifiers are accepted by their grammar, and an accepted one is the last component of the path that
    a request is sent to: after the path of the endpoint without its trailing slashes, and with nothing in
    it that has a meaning in a path. -/
theorem nsid_confined (nsid : String) :
    (isValidNsid nsid = true ↔ ∃ k n, nsid = slashes k ++ n ∧ IsNsid n) ∧
      ∀ k n, nsid = slashes k ++ n → IsNsid n →
        (∀ c ∈ ['/', '\\', '%', '?', '#'], c ∉ n.toList) ∧
        (∀ c ∈ n.toList, Text.isWhitespace c = false) ∧ Text.contains n ".." = false ∧
        ∀ (W : Type) (X : Crates) (U : UrlCrates) (net : Network W) (client : Client W)
          (session : OAuthSession) (endpoint : String) (url : WebUrl)
          (queryParams : List (String × String)) (first second : ProofDraw),
          session.pdsEndpoint = some endpoint → U.parse endpoint = .ok url →
          ∃ basePath j, url.path = basePath ++ slashes j ∧ basePath.toList.getLast? ≠ some '/' ∧
            client.sendXrpcRequest X U net session nsid queryParams first second =
              let target := U.setPath url (basePath ++ "/xrpc/" ++ n)
              client.sendDpopRequest X net
                { dpopKey     := session.dpopKey
                  method      := "GET"
                  urlStr      :=
                    (if queryParams ≠ [] then U.extendPairs target queryParams else target).asStr
                  accessToken := some session.accessToken
                  bodyBytes   := none
                  contentType := none } first second := by
  refine ⟨isValidNsid_iff, ?_⟩
  rintro k n rfl hn
  refine ⟨?_, ?_, Label.not_contains_dots hn.labels, ?_⟩
  · intro c hc
    have hmark : c ≠ '.' ∧ Label.isLabelChar c = false := by
      simp only [List.mem_cons, List.not_mem_nil, or_false] at hc
      rcases hc with rfl | rfl | rfl | rfl | rfl <;> decide
    exact hn.notMem hmark.1 hmark.2
  · intro c hc
    refine Base64.not_isWhitespace_of_visible ?_
    rcases hn.char hc with rfl | hlabel
    · decide
    · exact Label.isLabelChar_visible hlabel
  · intro W X U net client session endpoint url queryParams first second hendpoint hurl
    obtain ⟨j, hj⟩ := exists_trailing_slashes url.path
    refine ⟨_, j, hj, trimEndMatches_last url.path, ?_⟩
    rw [Client.sendXrpcRequest, xrpcUrl_eq_ok k queryParams hn hendpoint hurl]

theorem nsid_confined_sample :
    ∃ k n, "/com.atproto.repo.describeRepo" = slashes k ++ n ∧ IsNsid n :=
  (nsid_confined "/com.atproto.repo.describeRepo").1.1 (by decide)

end Skyauth
