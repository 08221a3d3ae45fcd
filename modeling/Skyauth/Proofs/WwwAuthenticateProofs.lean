import Skyauth.WwwAuthenticate
import Skyauth.Proofs.RequestProofs

/-!
# Proofs: challenges and their grammar

`is_rs_dpop_nonce_challenge` splits a challenge at every comma. A parameter without a comma in its
value is read as the grammar reads it, unless it is written with backslashes; a quoted string with
commas comes apart, and its pieces are read as parameters.
-/

namespace Skyauth

/-! ## Characters -/

/-- A character of a token is no blank and no delimiter. -/
theorem isTchar_spec {c : Char} (h : isTchar c = true) :
    isFieldChar c = true ∧ Text.isWhitespace c = false ∧ c ≠ ',' ∧ c ≠ '=' ∧ c ≠ '"' := by
  rw [isTchar, Bool.or_eq_true] at h
  rcases h with h | h
  · have hvisible : 33 ≤ c.toNat ∧ c.toNat ≤ 126 := by
      rw [Text.isAlphanum_iff, Text.isUpper_iff, Text.isLower_iff, Text.isDigit_iff] at h
      omega
    refine ⟨?_, Base64.not_isWhitespace_of_visible hvisible, ?_, ?_, ?_⟩
    · simp only [isFieldChar, Bool.or_eq_true, Bool.and_eq_true, decide_eq_true_eq]
      omega
    all_goals
      rintro rfl
      revert h
      decide
  · have hall : ∀ d ∈ "!#$%&'*+-.^_`|~".toList, isFieldChar d = true ∧ Text.isWhitespace d = false ∧
        d ≠ ',' ∧ d ≠ '=' ∧ d ≠ '"' := Text.forall_mem_of_all (by decide)
    exact hall c (List.contains_iff_mem.1 h)

theorem isBlank_spec {c : Char} (h : isBlank c = true) :
    isFieldChar c = true ∧ Text.isWhitespace c = true ∧ c ≠ ',' ∧ c ≠ '=' := by
  rw [isBlank, Bool.or_eq_true, beq_iff_eq, beq_iff_eq] at h
  rcases h with rfl | rfl <;> decide

/-- A character of `error` or `use_dpop_nonce`, in either case, is no blank and no delimiter. -/
theorem of_eqIgnoreAsciiCase {s word : String} (h : Text.eqIgnoreAsciiCase s word = true)
    (hword : ∀ c ∈ word.toList.map Char.toLower, "eorus_dpnc".toList.contains c = true) {c : Char}
    (hc : c ∈ s.toList) :
    Text.isWhitespace c = false ∧ c ≠ ',' ∧ c ≠ '=' ∧ c ≠ '"' ∧ c ≠ '\\' := by
  rw [Text.eqIgnoreAsciiCase, beq_iff_eq] at h
  have hlower : c.toLower ∈ "eorus_dpnc".toList :=
    List.contains_iff_mem.1 (hword _ (h ▸ List.mem_map_of_mem hc))
  have hvisible : 33 ≤ c.toNat ∧ c.toNat ≤ 126 := by
    have hrange : ∀ d ∈ "eorus_dpnc".toList, 95 ≤ d.toNat ∧ d.toNat ≤ 122 :=
      Text.forall_mem_of_all (by decide)
    have hl := hrange _ hlower
    rw [Text.toNat_toLower] at hl
    split at hl <;> omega
  refine ⟨Base64.not_isWhitespace_of_visible hvisible, ?_, ?_, ?_, ?_⟩
  all_goals
    rintro rfl
    revert hlower
    decide

theorem of_eq_error {s : String} (h : Text.eqIgnoreAsciiCase s "error" = true) {c : Char}
    (hc : c ∈ s.toList) :
    Text.isWhitespace c = false ∧ c ≠ ',' ∧ c ≠ '=' ∧ c ≠ '"' ∧ c ≠ '\\' :=
  of_eqIgnoreAsciiCase h (List.all_eq_true.1 (by decide)) hc

theorem of_eq_useDpopNonce {s : String} (h : Text.eqIgnoreAsciiCase s "use_dpop_nonce" = true)
    {c : Char} (hc : c ∈ s.toList) :
    Text.isWhitespace c = false ∧ c ≠ ',' ∧ c ≠ '=' ∧ c ≠ '"' ∧ c ≠ '\\' :=
  of_eqIgnoreAsciiCase h (List.all_eq_true.1 (by decide)) hc

theorem ne_empty_of_eqIgnoreAsciiCase {s word : String} (h : Text.eqIgnoreAsciiCase s word = true)
    (hword : word ≠ "") : s ≠ "" := by
  rintro rfl
  rw [Text.eqIgnoreAsciiCase, beq_iff_eq, eq_comm] at h
  exact hword (String.toList_inj.1 (List.map_eq_nil_iff.1 h))

/-! ## Pieces -/

/-- What a piece is read as that has a name, a sign and a value, with blanks between them. -/
theorem isNonceErrorParam_of_parts {b₁ name b₂ b₃ value b₄ m last : String}
    (hblank : ∀ b ∈ [b₁, b₂, b₃, b₄], ∀ c ∈ b.toList, Text.isWhitespace c = true)
    (hname : ∀ c ∈ name.toList, Text.isWhitespace c = false ∧ c ≠ '=') (hne : name ≠ "")
    (hvalue : Text.trim value = value) (hshape : value = m ++ last) (hlast : last ≠ "")
    (hvisible : ∀ c ∈ last.toList, Text.isWhitespace c = false) :
    isNonceErrorParam (b₁ ++ (name ++ b₂ ++ "=" ++ (b₃ ++ value)) ++ b₄) =
      (Text.eqIgnoreAsciiCase name "error" &&
        Text.eqIgnoreAsciiCase (Text.trimMatches (· == '"') value) "use_dpop_nonce") := by
  simp only [List.forall_mem_cons] at hblank
  obtain ⟨hb₁, hb₂, hb₃, hb₄, -⟩ := hblank
  have hnameBlank : ∀ c ∈ name.toList, Text.isWhitespace c = false := fun c hc => (hname c hc).1
  -- the name and the end of the value are no blanks, so only the outer blanks are trimmed
  have htrim : Text.trim (name ++ b₂ ++ "=" ++ (b₃ ++ value)) = name ++ b₂ ++ "=" ++ (b₃ ++ value) := by
    have hsplit : name ++ b₂ ++ "=" ++ (b₃ ++ value) = name ++ (b₂ ++ "=" ++ b₃ ++ m) ++ last := by
      rw [hshape]
      simp only [String.append_assoc]
    rw [hsplit]
    exact Text.trimMatches_between hnameBlank hne hvisible hlast _
  have hpiece : Text.trim (b₁ ++ (name ++ b₂ ++ "=" ++ (b₃ ++ value)) ++ b₄) =
      name ++ b₂ ++ String.singleton '=' ++ (b₃ ++ value) :=
    (Text.trimMatches_append hb₁ hb₄).trans htrim
  have hsign : '=' ∉ (name ++ b₂).toList := by
    rw [String.toList_append, List.mem_append]
    rintro (hc | hc)
    · exact (hname _ hc).2 rfl
    · exact absurd (hb₂ _ hc) (by decide)
  have hkeyTrim : Text.trim (name ++ b₂) = name :=
    (Text.trimMatches_append_right hb₂).trans (Text.trimMatches_eq_self hnameBlank)
  have hvalueTrim : Text.trim (b₃ ++ value) = value := (Text.trimMatches_append_left hb₃).trans hvalue
  rw [isNonceErrorParam, hpiece, Text.splitOnce_append hsign]
  simp only [hkeyTrim, hvalueTrim]

/-- The parts of a piece that is taken for the parameter. -/
theorem looksLikeNonceError_of_param {piece : String} (h : isNonceErrorParam piece = true) :
    LooksLikeNonceError piece := by
  unfold isNonceErrorParam at h
  split at h
  · cases h
  rename_i key value hsplit
  rw [Bool.and_eq_true] at h
  obtain ⟨hsign, -⟩ := Text.splitOnce_eq_some hsplit
  obtain ⟨a, b, hpiece, ha, hb⟩ := Text.trimMatches_decomp Text.isWhitespace piece
  obtain ⟨ka, kb, hkey, hka, hkb⟩ := Text.trimMatches_decomp Text.isWhitespace key
  obtain ⟨va, vb, hvalue, hva, hvb⟩ := Text.trimMatches_decomp Text.isWhitespace value
  obtain ⟨qa, qb, hquoted, hqa, hqb⟩ := Text.trimMatches_decomp (· == '"') (Text.trim value)
  refine ⟨a ++ ka, Text.trim key, kb, va, qa, Text.trimMatches (· == '"') (Text.trim value), qb,
    vb ++ b, ?_, ?_, ?_, h.1, h.2⟩
  · calc piece = a ++ (key ++ String.singleton '=' ++ value) ++ b := by rw [← hsign]; exact hpiece
      _ = a ++ ((ka ++ Text.trim key ++ kb) ++ "=" ++ (va ++ Text.trim value ++ vb)) ++ b := by
        rw [show ka ++ Text.trim key ++ kb = key from hkey.symm,
          show va ++ Text.trim value ++ vb = value from hvalue.symm]
        rfl
      _ = _ := by
        rw [← hquoted]
        simp only [String.append_assoc]
  · simp only [List.forall_mem_cons, String.toList_append, List.mem_append]
    refine ⟨?_, hkb, hva, ?_, by simp⟩
    · rintro c (hc | hc)
      · exact ha c hc
      · exact hka c hc
    · rintro c (hc | hc)
      · exact hvb c hc
      · exact hb c hc
  · simp only [List.forall_mem_cons]
    refine ⟨?_, ?_, by simp⟩
    · intro c hc
      exact beq_iff_eq.1 (hqa c hc)
    · intro c hc
      exact beq_iff_eq.1 (hqb c hc)

theorem isNonceErrorParam_of_looksLike {piece : String} (h : LooksLikeNonceError piece) :
    isNonceErrorParam piece = true := by
  obtain ⟨b₁, name, b₂, b₃, q₁, value, q₂, b₄, rfl, hblank, hquote, hname, hvalue⟩ := h
  simp only [List.forall_mem_cons] at hquote
  obtain ⟨hq₁, hq₂, -⟩ := hquote
  have hquoteChar : Text.isWhitespace '"' = false := by decide
  have hwritten : ∀ c ∈ (q₁ ++ value ++ q₂).toList, Text.isWhitespace c = false := by
    simp only [String.toList_append, List.mem_append]
    rintro c ((hc | hc) | hc)
    · rw [hq₁ c hc, hquoteChar]
    · exact (of_eq_useDpopNonce hvalue hc).1
    · rw [hq₂ c hc, hquoteChar]
  have hne : q₁ ++ value ++ q₂ ≠ "" := by
    intro hnil
    have hleft := (String.append_eq_empty_iff.1 hnil).1
    exact ne_empty_of_eqIgnoreAsciiCase hvalue (by decide) (String.append_eq_empty_iff.1 hleft).2
  have hunquoted : Text.trimMatches (· == '"') (q₁ ++ value ++ q₂) = value := by
    rw [Text.trimMatches_append (fun c hc => beq_iff_eq.2 (hq₁ c hc))
      (fun c hc => beq_iff_eq.2 (hq₂ c hc))]
    exact Text.trimMatches_eq_self fun c hc =>
      beq_eq_false_iff_ne.2 (of_eq_useDpopNonce hvalue hc).2.2.2.1
  have hletters : ∀ c ∈ name.toList, Text.isWhitespace c = false ∧ c ≠ '=' := fun c hc =>
    ⟨(of_eq_error hname hc).1, (of_eq_error hname hc).2.2.1⟩
  rw [isNonceErrorParam_of_parts hblank hletters (ne_empty_of_eqIgnoreAsciiCase hname (by decide))
    (Text.trim_eq_self hwritten) String.empty_append.symm hne hwritten, hunquoted, hname, hvalue]
  rfl

/-- A piece is taken for the parameter if and only if it looks like it. -/
theorem isNonceErrorParam_iff {piece : String} :
    isNonceErrorParam piece = true ↔ LooksLikeNonceError piece :=
  ⟨looksLikeNonceError_of_param, isNonceErrorParam_of_looksLike⟩

/-! ## Values -/

theorem Token.spec (t : Token) {c : Char} (hc : c ∈ t.text.toList) :
    isFieldChar c = true ∧ Text.isWhitespace c = false ∧ c ≠ ',' ∧ c ≠ '=' ∧ c ≠ '"' :=
  isTchar_spec (t.legal c hc)

theorem Ows.blank (b : Ows) : ∀ c ∈ b.text.toList, Text.isWhitespace c = true :=
  fun c hc => (isBlank_spec (b.legal c hc)).2.1

/-- A quoted string without backslashes is written as it is meant, and has no quotes. -/
theorem written_eq_of_no_pair {content : List QuotedChar}
    (h : ∀ q ∈ content, q.isPair = false) :
    content.flatMap QuotedChar.written = content.map QuotedChar.value ∧
      '"' ∉ content.map QuotedChar.value := by
  induction content with
  | nil => simp
  | cons q content ih =>
    obtain ⟨hwritten, hquote⟩ := ih fun r hr => h r (List.mem_cons_of_mem _ hr)
    have hq := h q (List.mem_cons_self ..)
    cases q with
    | pair c hc => cases hq
    | plain c hc =>
      have hne : c ≠ '"' := by
        simp only [isQdtext, Bool.and_eq_true, bne_iff_ne] at hc
        exact hc.1.2
      refine ⟨by simp [hwritten, QuotedChar.written, QuotedChar.value], ?_⟩
      simp only [List.map_cons, List.mem_cons, not_or, QuotedChar.value]
      exact ⟨hne.symm, hquote⟩

/-- A backslash in a quoted string is written. -/
theorem backslash_mem_of_pair {content : List QuotedChar} (h : content.any QuotedChar.isPair = true) :
    '\\' ∈ content.flatMap QuotedChar.written := by
  obtain ⟨q, hq, hpair⟩ := List.any_eq_true.1 h
  refine List.mem_flatMap.2 ⟨q, hq, ?_⟩
  cases q with
  | plain c hc => cases hpair
  | pair c hc => simp [QuotedChar.written]

namespace ParamValue

/-- A value without backslashes is written as it is meant, and has no quotes. -/
theorem written_eq_value {v : ParamValue} (h : v.hasPair = false) :
    v.written = v.value ∧ '"' ∉ v.value.toList := by
  cases v with
  | token t => exact ⟨rfl, fun hc => (t.spec hc).2.2.2.2 rfl⟩
  | quoted content =>
    have hplain : ∀ q ∈ content, q.isPair = false := fun q hq => by
      simpa using List.any_eq_false.1 h q hq
    obtain ⟨hwritten, hquote⟩ := written_eq_of_no_pair hplain
    exact ⟨by rw [written, value, hwritten], by simpa [value] using hquote⟩

/-- The comparison of the source, which strips quotes and knows no backslashes. -/
theorem eq_stripped_iff {v : ParamValue} :
    Text.eqIgnoreAsciiCase (Text.trimMatches (· == '"') v.written) "use_dpop_nonce" = true ↔
      Text.eqIgnoreAsciiCase v.value "use_dpop_nonce" = true ∧ v.hasPair = false := by
  have hplain (hpair : v.hasPair = false) : Text.trimMatches (· == '"') v.written = v.value := by
    obtain ⟨hwritten, hquote⟩ := written_eq_value hpair
    rw [hwritten]
    refine Text.trimMatches_eq_self fun c hc => beq_eq_false_iff_ne.2 ?_
    rintro rfl
    exact hquote hc
  constructor
  · intro h
    have hpair : v.hasPair = false := by
      cases v with
      | token t => rfl
      | quoted content =>
        by_contra hne
        -- the backslash would survive the stripping of quotes
        have hmem : '\\' ∈ (quoted content).written.toList := by
          simpa [written] using backslash_mem_of_pair (Bool.eq_true_of_not_eq_false hne)
        obtain ⟨a, b, hshape, ha, hb⟩ :=
          Text.trimMatches_decomp (· == '"') (quoted content).written
        rw [hshape, String.toList_append, String.toList_append, List.mem_append, List.mem_append] at hmem
        rcases hmem with (hc | hc) | hc
        · exact absurd (ha _ hc) (by decide)
        · exact (of_eq_useDpopNonce h hc).2.2.2.2 rfl
        · exact absurd (hb _ hc) (by decide)
    exact ⟨hplain hpair ▸ h, hpair⟩
  · rintro ⟨h, hpair⟩
    rwa [hplain hpair]

/-- A value ends in a character that is no blank, and its text is not trimmed. -/
theorem trim_text (v : ParamValue) : Text.trim v.text = v.text ∧
    ∃ m last, v.text = m ++ last ∧ last ≠ "" ∧ ∀ c ∈ last.toList, Text.isWhitespace c = false := by
  cases v with
  | token t =>
    have hblank : ∀ c ∈ t.text.toList, Text.isWhitespace c = false := fun c hc => (t.spec hc).2.1
    exact ⟨Text.trim_eq_self hblank, "", t.text, by simp [text], t.ne_empty, hblank⟩
  | quoted content =>
    have hquote : ∀ c ∈ "\"".toList, Text.isWhitespace c = false := Text.forall_mem_of_all (by decide)
    exact ⟨Text.trimMatches_between hquote (by decide) hquote (by decide) _,
      "\"" ++ (quoted content).written, "\"", rfl, by decide, hquote⟩

theorem trimMatches_text (v : ParamValue) :
    Text.trimMatches (· == '"') v.text = Text.trimMatches (· == '"') v.written := by
  cases v with
  | token t => rfl
  | quoted content =>
    have hquote : ∀ c ∈ "\"".toList, (c == '"') = true := Text.forall_mem_of_all (by decide)
    exact Text.trimMatches_append hquote hquote

theorem comma_mem_text {v : ParamValue} : ',' ∈ v.text.toList ↔ ',' ∈ v.written.toList := by
  cases v with
  | token t => rfl
  | quoted content => simp [text]

end ParamValue

/-! ## Parameters -/

namespace AuthParam

variable {p : AuthParam}

/-- The text of a parameter has the commas of its value. -/
theorem comma_mem_text : ',' ∈ p.text.toList ↔ ',' ∈ p.value.written.toList := by
  have hname : ',' ∉ p.name.text.toList := fun hc => (p.name.spec hc).2.2.1 rfl
  have hblank (b : Ows) : ',' ∉ b.text.toList := comma_notMem_of_blank b.blank
  have hsign : ',' ∉ "=".toList := by decide
  simp only [text, String.toList_append, List.mem_append, hname, hblank, hsign,
    ParamValue.comma_mem_text, false_or, or_false]

/-- The whole of a parameter is read as the grammar reads it, but for backslashes. -/
theorem isNonceErrorParam_text :
    isNonceErrorParam p.text = (p.isNonceError && !p.value.hasPair) := by
  obtain ⟨hvalue, m, last, hshape, hlast, hvisible⟩ := p.value.trim_text
  have hblank : ∀ b ∈ [p.before.text, p.beforeSign.text, p.afterSign.text, p.after.text],
      ∀ c ∈ b.toList, Text.isWhitespace c = true := by
    simp only [List.forall_mem_cons]
    exact ⟨p.before.blank, p.beforeSign.blank, p.afterSign.blank, p.after.blank, by simp⟩
  have hname : ∀ c ∈ p.name.text.toList, Text.isWhitespace c = false ∧ c ≠ '=' := fun c hc =>
    ⟨(p.name.spec hc).2.1, (p.name.spec hc).2.2.2.1⟩
  rw [text, isNonceErrorParam_of_parts hblank hname p.name.ne_empty hvalue hshape hlast hvisible,
    ParamValue.trimMatches_text, isNonceError, Bool.eq_iff_iff]
  simp only [Bool.and_eq_true, ParamValue.eq_stripped_iff, Bool.not_eq_true', and_assoc]

/-- A parameter that is the error without backslashes has no comma. -/
theorem comma_notMem_of_plain (h : p.isNonceError = true) (hpair : p.value.hasPair = false) :
    ',' ∉ p.value.written.toList := by
  rw [isNonceError, Bool.and_eq_true] at h
  rw [(ParamValue.written_eq_value hpair).1]
  exact fun hc => (of_eq_useDpopNonce h.2 hc).2.1 rfl

/-- The pieces of a parameter: it is the error without backslashes, or it comes apart and one of its
    pieces looks like the error. -/
theorem any_split_text :
    (Text.split ',' p.text).any isNonceErrorParam = true ↔
      (p.isNonceError && !p.value.hasPair) = true ∨
        ',' ∈ p.value.written.toList ∧ ∃ piece ∈ Text.split ',' p.text, LooksLikeNonceError piece := by
  simp only [List.any_eq_true, isNonceErrorParam_iff]
  by_cases hcomma : ',' ∈ p.value.written.toList
  · have hplain : ¬ (p.isNonceError && !p.value.hasPair) = true := by
      rw [Bool.and_eq_true, Bool.not_eq_true']
      exact fun h => comma_notMem_of_plain h.1 h.2 hcomma
    simp only [hcomma, true_and, hplain, Bool.false_eq_true, false_or]
  · rw [Text.split_eq_singleton (comma_mem_text.not.2 hcomma)]
    simp only [List.mem_singleton, exists_eq_left, hcomma, false_and, or_false,
      ← isNonceErrorParam_iff, isNonceErrorParam_text]

end AuthParam

/-- The pieces of a list of parameters are the pieces of the parameters. -/
theorem any_split_joinParams (params : List AuthParam) :
    (Text.split ',' (joinParams params)).any isNonceErrorParam =
      params.any fun p => (Text.split ',' p.text).any isNonceErrorParam := by
  induction params with
  | nil => decide
  | cons p rest ih =>
    cases rest with
    | nil => simp [joinParams]
    | cons q rest =>
      have hsplit : Text.split ',' (joinParams (p :: q :: rest)) =
          Text.split ',' p.text ++ Text.split ',' (joinParams (q :: rest)) :=
        Text.split_append ',' p.text (joinParams (q :: rest))
      rw [hsplit, List.any_append, ih]
      rfl

/-- What the source makes of the text of a challenge. -/
theorem isNonceChallenge_challengeText (params : List AuthParam) :
    isNonceChallenge (challengeText params) = true ↔
      asksPlainly params = true ∨ MisreadPiece params := by
  rw [challengeText, isNonceChallenge_dpop, any_split_joinParams, asksPlainly, MisreadPiece,
    List.any_eq_true, List.any_eq_true]
  simp only [AuthParam.any_split_text, and_or_left, exists_or]

theorem asksForNonce_iff {params : List AuthParam} :
    asksForNonce params = true ↔ asksPlainly params = true ∨ asksInPairs params = true := by
  simp only [asksForNonce, asksPlainly, asksInPairs, List.any_eq_true]
  constructor
  · rintro ⟨p, hp, herror⟩
    by_cases hpair : p.value.hasPair = true
    · exact Or.inr ⟨p, hp, by simp [herror, hpair]⟩
    · exact Or.inl ⟨p, hp, by simp [herror, hpair]⟩
  · rintro (⟨p, hp, h⟩ | ⟨p, hp, h⟩)
    · exact ⟨p, hp, (Bool.and_eq_true_iff.1 h).1⟩
    · exact ⟨p, hp, (Bool.and_eq_true_iff.1 h).1⟩

/-! ## Header values -/

theorem isFieldChar_quoted {content : List QuotedChar} :
    ∀ c ∈ content.flatMap QuotedChar.written, isFieldChar c = true := by
  intro c hc
  obtain ⟨q, -, hq⟩ := List.mem_flatMap.1 hc
  cases q with
  | plain d hd =>
    obtain rfl : c = d := by simpa [QuotedChar.written] using hq
    exact (Bool.and_eq_true_iff.1 (Bool.and_eq_true_iff.1 hd).1).1
  | pair d hd =>
    obtain rfl | rfl : c = '\\' ∨ c = d := by simpa [QuotedChar.written] using hq
    · decide
    · exact hd

theorem AuthParam.isFieldChar_text (p : AuthParam) : ∀ c ∈ p.text.toList, isFieldChar c = true := by
  have hblank (b : Ows) : ∀ c ∈ b.text.toList, isFieldChar c = true :=
    fun c hc => (isBlank_spec (b.legal c hc)).1
  have hvalue : ∀ c ∈ p.value.text.toList, isFieldChar c = true := by
    cases p.value with
    | token t => exact fun c hc => (t.spec hc).1
    | quoted content =>
      have hquote : ∀ c ∈ "\"".toList, isFieldChar c = true := Text.forall_mem_of_all (by decide)
      simp only [ParamValue.text, ParamValue.written, String.toList_append, String.toList_ofList,
        List.mem_append]
      rintro c ((hc | hc) | hc)
      · exact hquote c hc
      · exact isFieldChar_quoted c hc
      · exact hquote c hc
  have hsign : ∀ c ∈ "=".toList, isFieldChar c = true := Text.forall_mem_of_all (by decide)
  simp only [text, String.toList_append, List.mem_append]
  rintro c ((hc | (((hc | hc) | hc) | hc | hc)) | hc)
  · exact hblank _ c hc
  · exact (p.name.spec hc).1
  · exact hblank _ c hc
  · exact hsign c hc
  · exact hblank _ c hc
  · exact hvalue c hc
  · exact hblank _ c hc

theorem isFieldChar_challengeText (params : List AuthParam) :
    ∀ c ∈ (challengeText params).toList, isFieldChar c = true := by
  have hjoin : ∀ c ∈ (joinParams params).toList, isFieldChar c = true := by
    induction params with
    | nil => simp [joinParams]
    | cons p rest ih =>
      cases rest with
      | nil => exact p.isFieldChar_text
      | cons q rest =>
        have hcomma : ∀ c ∈ ",".toList, isFieldChar c = true := Text.forall_mem_of_all (by decide)
        simp only [joinParams, String.toList_append, List.mem_append]
        rintro c ((hc | hc) | hc)
        · exact p.isFieldChar_text c hc
        · exact hcomma c hc
        · exact ih c hc
  have hscheme : ∀ c ∈ ("DPoP" ++ " ").toList, isFieldChar c = true :=
    Text.forall_mem_of_all (by decide)
  rw [challengeText]
  intro c hc
  rw [String.toList_append, List.mem_append] at hc
  exact hc.elim (hscheme c) (hjoin c)

theorem isFieldChar_lt {c : Char} (h : isFieldChar c = true) : c.toNat < 256 := by
  simp only [isFieldChar, Bool.or_eq_true, Bool.and_eq_true, decide_eq_true_eq, beq_iff_eq] at h
  rcases h with (rfl | h) | h
  · decide
  · omega
  · omega

theorem toNat_fieldByte {c : Char} (h : isFieldChar c = true) : (UInt8.ofNat c.toNat).toNat = c.toNat := by
  rw [UInt8.toNat_ofNat', Nat.mod_eq_of_lt (isFieldChar_lt h)]

/-- A byte of header text is legal in a header, and visible if and only if it is ASCII. -/
theorem fieldByte_spec {c : Char} (h : isFieldChar c = true) :
    isValidHeaderByte (UInt8.ofNat c.toNat) = true ∧
      (isVisibleHeaderByte (UInt8.ofNat c.toNat) = true ↔ c.toNat < 128) := by
  have hbyte := toNat_fieldByte h
  simp only [isFieldChar, Bool.or_eq_true, Bool.and_eq_true, decide_eq_true_eq, beq_iff_eq,
    ← Char.toNat_inj] at h
  simp only [isValidHeaderByte, isVisibleHeaderByte, Bool.or_eq_true, Bool.and_eq_true, decide_eq_true_eq,
    beq_iff_eq, bne_iff_ne, ne_eq, UInt8.le_iff_toNat_le, UInt8.lt_iff_toNat_lt, ← UInt8.toNat_inj, hbyte]
  have htab : '\t'.toNat = 9 := rfl
  have h32 : (32 : UInt8).toNat = 32 := rfl
  have h127 : (127 : UInt8).toNat = 127 := rfl
  have h9 : (9 : UInt8).toNat = 9 := rfl
  omega

/-- Every challenge of the grammar can be sent. -/
theorem valid_challengeText (params : List AuthParam) :
    (fieldBytes (challengeText params)).all isValidHeaderByte = true := by
  rw [fieldBytes, List.all_map, List.all_eq_true]
  intro c hc
  exact (fieldByte_spec (isFieldChar_challengeText params c hc)).1

section HeaderText

variable {v : HeaderValue} {text : String}

theorem all_visible_iff (hv : v.bytes = fieldBytes text)
    (hfield : ∀ c ∈ text.toList, isFieldChar c = true) :
    v.bytes.all isVisibleHeaderByte = true ↔ IsAscii text := by
  rw [hv, fieldBytes, List.all_map, List.all_eq_true]
  exact forall₂_congr fun c hc => (fieldByte_spec (hfield c hc)).2

theorem toStr_of_ascii (hv : v.bytes = fieldBytes text)
    (hfield : ∀ c ∈ text.toList, isFieldChar c = true) (hascii : IsAscii text) :
    v.toStr = some text := by
  have hchars : v.bytes.map (fun b => Char.ofNat b.toNat) = text.toList := by
    rw [hv, fieldBytes, List.map_map]
    refine (List.map_congr_left fun c hc => ?_).trans (List.map_id _)
    show Char.ofNat (UInt8.ofNat c.toNat).toNat = c
    rw [toNat_fieldByte (hfield c hc), Char.ofNat_toNat]
  rw [HeaderValue.toStr, if_pos ((all_visible_iff hv hfield).2 hascii), hchars, String.ofList_toList]

theorem toStr_of_not_ascii (hv : v.bytes = fieldBytes text)
    (hfield : ∀ c ∈ text.toList, isFieldChar c = true) (hascii : ¬ IsAscii text) :
    v.toStr = none := by
  rw [HeaderValue.toStr, if_neg (mt (all_visible_iff hv hfield).1 hascii)]

end HeaderText

/-- What the source makes of a challenge that stands alone in the headers. -/
theorem isRsDpopNonceChallenge_iff {params : List AuthParam} {v : HeaderValue} {headers : HeaderMap}
    (hv : v.bytes = fieldBytes (challengeText params))
    (hheaders : headers.getAll "www-authenticate" = [v]) :
    isRsDpopNonceChallenge headers = true ↔
      IsAscii (challengeText params) ∧ (asksPlainly params = true ∨ MisreadPiece params) := by
  have hfield := isFieldChar_challengeText params
  rw [isRsDpopNonceChallenge, hheaders, ← isNonceChallenge_challengeText]
  by_cases hascii : IsAscii (challengeText params)
  · simp [toStr_of_ascii hv hfield hascii, hascii]
  · simp [toStr_of_not_ascii hv hfield hascii, hascii]

/-! ## The reading of challenges -/

namespace ChallengeSample

def noBlanks : Ows := ⟨"", Text.forall_mem_of_all (by decide)⟩

def oneBlank : Ows := ⟨" ", Text.forall_mem_of_all (by decide)⟩

/-- A quoted string without backslashes. -/
def plainChars (s : String) (h : ∀ c ∈ s.toList, isQdtext c = true) : List QuotedChar :=
  s.toList.attach.map fun c => .plain c.1 (h c.1 c.2)

def quotedParam (before : Ows) (name : Token) (content : List QuotedChar) : AuthParam where
  before := before
  name := name
  beforeSign := noBlanks
  afterSign := noBlanks
  value := .quoted content
  after := noBlanks

def error : Token := ⟨"error", by decide, Text.forall_mem_of_all (by decide)⟩

def errorDescription : Token := ⟨"error_description", by decide, Text.forall_mem_of_all (by decide)⟩

/-- A description that quotes an error. -/
def misleadingDescription : AuthParam :=
  quotedParam oneBlank errorDescription
    (plainChars "retry, error=use_dpop_nonce" (Text.forall_mem_of_all (by decide)))

def misleading : List AuthParam :=
  [quotedParam noBlanks error (plainChars "invalid_token" (Text.forall_mem_of_all (by decide))),
    misleadingDescription]

def misleadingValue : HeaderValue where
  bytes := fieldBytes (challengeText misleading)
  valid := valid_challengeText misleading

/-- A request for a nonce, with a comma in its description. -/
def asking : List AuthParam :=
  [quotedParam noBlanks error (plainChars "use_dpop_nonce" (Text.forall_mem_of_all (by decide))),
    quotedParam oneBlank errorDescription
      (plainChars "fresh nonce, please" (Text.forall_mem_of_all (by decide)))]

def askingValue : HeaderValue where
  bytes := fieldBytes (challengeText asking)
  valid := valid_challengeText asking

end ChallengeSample

/-- The source reads a challenge as the grammar does if and only if: in ASCII text, some parameter is
    the error without backslashes, or the error with backslashes is there exactly if a quoted string
    comes apart into a piece that looks like the error; in other text, the error is not there. -/
theorem read_by_grammar_iff {params : List AuthParam} {v : HeaderValue} {headers : HeaderMap}
    (hv : v.bytes = fieldBytes (challengeText params))
    (hheaders : headers.getAll "www-authenticate" = [v]) :
    (isRsDpopNonceChallenge headers = true ↔ asksForNonce params = true) ↔
      IsAscii (challengeText params) ∧
          (asksPlainly params = true ∨ (asksInPairs params = true ↔ MisreadPiece params)) ∨
        ¬ IsAscii (challengeText params) ∧ asksForNonce params = false := by
  rw [isRsDpopNonceChallenge_iff hv hheaders, ← Bool.not_eq_true, asksForNonce_iff]
  tauto

/-- A description that quotes the error makes the source see a challenge where the grammar sees none. -/
theorem description_taken_for_challenge :
    challengeText ChallengeSample.misleading =
        "DPoP error=\"invalid_token\", error_description=\"retry, error=use_dpop_nonce\"" ∧
      asksForNonce ChallengeSample.misleading = false ∧
      isRsDpopNonceChallenge [("www-authenticate", ChallengeSample.misleadingValue)] = true := by
  refine ⟨by decide +kernel, by decide, (isRsDpopNonceChallenge_iff rfl rfl).2 ⟨?_, Or.inr ?_⟩⟩
  · exact Text.forall_mem_of_all (by decide +kernel)
  · have hpiece : isNonceErrorParam " error=use_dpop_nonce\"" = true := by decide +kernel
    exact ⟨ChallengeSample.misleadingDescription, List.mem_cons_of_mem _ (List.mem_cons_self ..),
      by decide +kernel, " error=use_dpop_nonce\"", by decide +kernel, isNonceErrorParam_iff.1 hpiece⟩

/-- A request for a nonce is read as one. -/
theorem asking_read_by_grammar :
    isRsDpopNonceChallenge [("www-authenticate", ChallengeSample.askingValue)] = true ↔
      asksForNonce ChallengeSample.asking = true := by
  have hascii : IsAscii (challengeText ChallengeSample.asking) :=
    Text.forall_mem_of_all (by decide +kernel)
  have hplain : asksPlainly ChallengeSample.asking = true := by decide +kernel
  exact (read_by_grammar_iff rfl rfl).2 (Or.inl ⟨hascii, Or.inl hplain⟩)

end Skyauth
