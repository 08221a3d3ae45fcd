import Skyauth.IdentityResolver
import Skyauth.Lib.Fallible

/-!
# Proofs: the syntax of a `did:plc`

`validate_did_syntax` looks at the first three components of a DID. A `did:plc` whose identifier is
well formed is accepted with whatever follows it after another colon, and that is part of the URL
`resolve_did_plc` builds.
-/

namespace Skyauth

/-- The identifier of a `did:plc`: 24 characters out of `[a-z0-9]`. -/
def IsPlcIdentifier (id : String) : Prop :=
  id.toList.length = 24 ∧ ∀ c ∈ id.toList, c.isLower = true ∨ c.isDigit = true

/-- A `did:plc` and nothing else. -/
def IsPlcDid (did : String) : Prop := ∃ id, IsPlcIdentifier id ∧ did = "did:plc:" ++ id

/-- A `did:plc` that goes on after another colon. -/
def IsExtendedPlcDid (did : String) : Prop :=
  ∃ id rest, IsPlcIdentifier id ∧ did = "did:plc:" ++ id ++ ":" ++ rest

theorem toNat_lt_of_isLower_or_isDigit {c : Char} (h : c.isLower = true ∨ c.isDigit = true) :
    c.toNat < 128 ∧ c ≠ ':' := by
  rw [Text.isLower_iff, Text.isDigit_iff] at h
  refine ⟨by omega, ?_⟩
  · rintro rfl
    revert h
    decide

/-- Of these characters each has one byte. -/
theorem isPlcIdentifier_iff {id : String} : isPlcIdentifier id = true ↔ IsPlcIdentifier id := by
  simp only [isPlcIdentifier, IsPlcIdentifier, Bool.and_eq_true, beq_iff_eq, List.all_eq_true,
    Bool.or_eq_true]
  refine and_congr_left fun hchars => ?_
  rw [Text.utf8ByteSize_of_ascii fun c hc => (toNat_lt_of_isLower_or_isDigit (hchars c hc)).1]

theorem IsPlcIdentifier.colon_notMem {id : String} (h : IsPlcIdentifier id) : ':' ∉ id.toList := by
  intro hc
  exact (toNat_lt_of_isLower_or_isDigit (h.2 _ hc)).2 rfl

theorem split_did (rest : String) :
    Text.split ':' ("did:" ++ rest) = "did" :: Text.split ':' rest := by
  rw [show "did:" ++ rest = "did" ++ String.singleton ':' ++ rest from rfl, Text.split_append,
    Text.split_eq_singleton (by decide)]
  rfl

/-- The components that are looked at. -/
theorem validateDidSyntax_components {s method id : String} {rest : List String}
    (hstart : Text.startsWith (Text.trim s) "did:" = true)
    (hsplit : Text.split ':' (Text.trim s) = "did" :: method :: id :: rest) :
    validateDidSyntax s = .ok .plc ↔ method = "plc" ∧ IsPlcIdentifier id := by
  simp only [validateDidSyntax, hstart, hsplit, Bool.not_true, Bool.false_eq_true, if_false,
    ← isPlcIdentifier_iff]
  by_cases hplc : method = "plc"
  · by_cases hid : isPlcIdentifier id = true
    · simp [hplc, hid]
    · simp [hplc, hid]
  · rw [if_neg hplc]
    split_ifs <;> simp [hplc]

theorem did_plc_append (tail : String) :
    "did:plc:" ++ tail = "did:" ++ ("plc" ++ String.singleton ':' ++ tail) := by
  rw [← String.append_assoc, ← String.append_assoc]
  rfl

theorem split_did_plc (tail : String) :
    Text.split ':' ("did:plc:" ++ tail) = "did" :: "plc" :: Text.split ':' tail := by
  rw [did_plc_append, split_did, Text.split_append, Text.split_eq_singleton (by decide)]
  rfl

/-- The accepted texts: the first three components are `did`, `plc` and an identifier. -/
theorem validateDidSyntax_eq_plc {s : String} : validateDidSyntax s = .ok .plc ↔
    IsPlcDid (Text.trim s) ∨ IsExtendedPlcDid (Text.trim s) := by
  constructor
  · intro h
    have hstart : Text.startsWith (Text.trim s) "did:" = true := by
      by_contra hno
      rw [Bool.not_eq_true] at hno
      simp only [validateDidSyntax, hno, Bool.not_false, if_true, reduceCtorEq] at h
    obtain ⟨rest, ht⟩ := Text.startsWith_iff.1 hstart
    have hsplit := split_did rest
    rw [← ht] at hsplit
    rcases Text.split_cases ':' rest with ⟨-, hrest⟩ | ⟨method, tail, -, hrest, hpieces⟩
    · rw [hrest] at hsplit
      simp only [validateDidSyntax, hstart, hsplit, Bool.not_true, Bool.false_eq_true, if_false,
        reduceCtorEq] at h
    rw [hpieces] at hsplit
    rcases Text.split_cases ':' tail with ⟨-, htail⟩ | ⟨id, more, -, hmore, htail⟩
    · rw [htail] at hsplit
      obtain ⟨rfl, hid⟩ := (validateDidSyntax_components hstart hsplit).1 h
      exact Or.inl ⟨tail, hid, by rw [ht, hrest, did_plc_append]⟩
    · rw [htail] at hsplit
      obtain ⟨rfl, hid⟩ := (validateDidSyntax_components hstart hsplit).1 h
      refine Or.inr ⟨id, more, hid, ?_⟩
      rw [ht, hrest, hmore, ← did_plc_append, ← String.append_assoc, ← String.append_assoc]
      rfl
  · have haccept : ∀ {id tail : String} {rest : List String}, IsPlcIdentifier id →
        Text.trim s = "did:plc:" ++ tail → Text.split ':' tail = id :: rest →
        validateDidSyntax s = .ok .plc := by
      intro id tail rest hid ht htail
      have hstart : Text.startsWith (Text.trim s) "did:" = true :=
        Text.startsWith_iff.2 ⟨_, ht.trans (did_plc_append tail)⟩
      have hsplit : Text.split ':' (Text.trim s) = "did" :: "plc" :: id :: rest := by
        rw [ht, split_did_plc, htail]
      exact (validateDidSyntax_components hstart hsplit).2 ⟨rfl, hid⟩
    rintro (⟨id, hid, ht⟩ | ⟨id, rest, hid, ht⟩)
    · exact haccept hid ht (Text.split_eq_singleton hid.colon_notMem)
    · rw [String.append_assoc, String.append_assoc] at ht
      have hsplit : Text.split ':' (id ++ (":" ++ rest)) = id :: Text.split ':' rest := by
        rw [← String.append_assoc, show (":" : String) = String.singleton ':' from rfl, Text.split_append,
          Text.split_eq_singleton hid.colon_notMem, List.singleton_append]
      exact haccept hid ht hsplit

/-- A `did:plc` with an extension is none without. -/
theorem IsExtendedPlcDid.not_isPlcDid {did : String} (h : IsExtendedPlcDid did) : ¬ IsPlcDid did := by
  obtain ⟨id, rest, -, rfl⟩ := h
  rintro ⟨id', hid', heq⟩
  rw [String.append_assoc, String.append_assoc, String.append_right_inj] at heq
  refine hid'.colon_notMem ?_
  rw [← heq]
  simp

/-! ## The URL of the directory -/

namespace IdentityResolver

/-- The URL that `resolve_did_plc` builds. -/
def plcUrl (r : IdentityResolver) (did : String) : String :=
  Text.trimEndMatches (· == '/') r.plcDirectoryUrl ++ "/" ++ did

theorem resolveDidPlc_of_valid {X : Crates} {N : NetCrates} {W : World} {r : IdentityResolver}
    {did : String} {method : DidMethod} (h : validateDidSyntax did = .ok method) :
    r.resolveDidPlc X N W did = r.fetchDocument X N W did (r.plcUrl did) := by
  rw [resolveDidPlc, h, Fallible.ok_bind]
  rfl

end IdentityResolver

/-- A text is accepted as a `did:plc` just if it is one, and the URLs built from the accepted ones that
    are trimmed are the directory's with such a DID appended, exactly if the text is not a `did:plc` that
    goes on after another colon. -/
theorem did_plc_syntax_iff (s : String) :
    ((validateDidSyntax s = .ok .plc ↔ IsPlcDid (Text.trim s)) ∧
      (validateDidSyntax s = .ok .plc → Text.trim s = s →
        ∀ (X : Crates) (N : NetCrates) (W : World) (r : IdentityResolver),
          r.resolveDidPlc X N W s = r.fetchDocument X N W s (r.plcUrl s) ∧
          ∃ id, IsPlcIdentifier id ∧
            r.plcUrl s = Text.trimEndMatches (· == '/') r.plcDirectoryUrl ++ "/" ++ ("did:plc:" ++ id))) ↔
      ¬ IsExtendedPlcDid (Text.trim s) := by
  constructor
  · rintro ⟨hiff, -⟩ hext
    exact hext.not_isPlcDid (hiff.1 (validateDidSyntax_eq_plc.2 (Or.inr hext)))
  · intro hext
    have hiff : validateDidSyntax s = .ok .plc ↔ IsPlcDid (Text.trim s) := by
      rw [validateDidSyntax_eq_plc]
      exact or_iff_left hext
    refine ⟨hiff, fun hok htrim X N W r => ⟨IdentityResolver.resolveDidPlc_of_valid hok, ?_⟩⟩
    obtain ⟨id, hid, hs⟩ := hiff.1 hok
    rw [htrim] at hs
    exact ⟨id, hid, by rw [IdentityResolver.plcUrl, hs]⟩

/-- A path behind the identifier is accepted and becomes part of the URL. -/
theorem did_plc_with_path_accepted :
    let did := "did:plc:aaaaaaaaaaaaaaaaaaaaaaaa:x/../../admin"
    validateDidSyntax did = .ok .plc ∧ Text.trim did = did ∧ ¬ IsPlcDid did ∧
      ∀ r : IdentityResolver, r.plcDirectoryUrl = DEFAULT_PLC_DIRECTORY →
        r.plcUrl did = "https://plc.directory/did:plc:aaaaaaaaaaaaaaaaaaaaaaaa:x/../../admin" := by
  have htrim : Text.trim "did:plc:aaaaaaaaaaaaaaaaaaaaaaaa:x/../../admin" =
      "did:plc:aaaaaaaaaaaaaaaaaaaaaaaa:x/../../admin" := by rfl
  have hid : IsPlcIdentifier "aaaaaaaaaaaaaaaaaaaaaaaa" := isPlcIdentifier_iff.1 (by rfl)
  have hext : IsExtendedPlcDid "did:plc:aaaaaaaaaaaaaaaaaaaaaaaa:x/../../admin" :=
    ⟨"aaaaaaaaaaaaaaaaaaaaaaaa", "x/../../admin", hid, rfl⟩
  refine ⟨validateDidSyntax_eq_plc.2 (Or.inr (by rw [htrim]; exact hext)), htrim, hext.not_isPlcDid, ?_⟩
  intro r hr
  rw [IdentityResolver.plcUrl, hr]
  rfl

end Skyauth
