import Skyauth.Login
import Skyauth.Proofs.DpopProofs

/-!
# Proofs: generated PKCE pairs verify

A verifier made of 32 to 96 random bytes has a length and an alphabet that the validator takes, and its
own challenge matches it. Outside of that range `generate_with_entropy_size` reports the length that the
verifier would have had; the product in that report is the only arithmetic that can overflow.
-/

namespace Skyauth

/-! ## The validator -/

theorem validateFrom_eq_ok {position : Nat} {bytes : List UInt8} :
    validateFrom position bytes = .ok () ↔ ∀ byte ∈ bytes, isUnreservedByte byte = true := by
  induction bytes generalizing position with
  | nil => simp [validateFrom]
  | cons byte rest ih =>
    rw [validateFrom, List.forall_mem_cons]
    cases hbyte : isUnreservedByte byte with
    | false => simp
    | true => simpa using ih

theorem isValidVerifierLength_iff {len : Nat} : isValidVerifierLength len = true ↔ 43 ≤ len ∧ len ≤ 128 := by
  rw [isValidVerifierLength, Bool.and_eq_true, decide_eq_true_eq, decide_eq_true_eq]
  rfl

theorem validateVerifierBytes_eq_ok {bytes : List UInt8} :
    validateVerifierBytes bytes = .ok () ↔
      (43 ≤ bytes.length ∧ bytes.length ≤ 128) ∧ ∀ byte ∈ bytes, isUnreservedByte byte = true := by
  rw [validateVerifierBytes, ← isValidVerifierLength_iff]
  cases isValidVerifierLength bytes.length with
  | false => simp
  | true => simpa using validateFrom_eq_ok

theorem validateVerifier_eq_ok {verifier : String} :
    validateVerifier verifier = .ok () ↔
      (43 ≤ (Text.asBytes verifier).length ∧ (Text.asBytes verifier).length ≤ 128) ∧
        ∀ byte ∈ Text.asBytes verifier, isUnreservedByte byte = true := by
  rw [← validateVerifierBytes_eq_ok, validateVerifier]
  split <;> simp_all

/-! ## Encoded bytes -/

theorem isUnreservedByte_encodeSymbol :
    ∀ n < 64, isUnreservedByte (UInt8.ofNat (Base64.encodeSymbol n).toNat) = true := by
  decide

/-- The URL-safe alphabet is part of the unreserved set. -/
theorem isUnreservedByte_of_isSymbol {c : Char} (h : Base64.isSymbol c = true) :
    isUnreservedByte (UInt8.ofNat c.toNat) = true := by
  obtain ⟨n, hn⟩ := Option.isSome_iff_exists.1 h
  obtain ⟨hlt, rfl⟩ := Base64.decodeSymbol_eq_some hn
  exact isUnreservedByte_encodeSymbol n hlt

theorem divCeil_three (n : Nat) : divCeil n 3 = (n + 2) / 3 := by
  unfold divCeil
  split <;> omega

theorem length_asBytes_base64urlEncode (data : List UInt8) :
    (Text.asBytes (base64urlEncode data)).length = divCeil (4 * data.length) 3 := by
  rw [base64urlEncode, Base64.length_asBytes_encode, divCeil_three, Nat.mul_comm]

/-- Between 32 and 96 bytes make a verifier. -/
theorem validateVerifier_base64urlEncode {data : List UInt8} (hmin : 32 ≤ data.length)
    (hmax : data.length ≤ 96) : validateVerifier (base64urlEncode data) = .ok () := by
  refine validateVerifier_eq_ok.2 ⟨?_, ?_⟩
  · rw [length_asBytes_base64urlEncode, divCeil_three]
    omega
  · rw [base64urlEncode, Base64.asBytes_encode]
    intro byte hbyte
    obtain ⟨c, hc, rfl⟩ := List.mem_map.1 hbyte
    exact isUnreservedByte_of_isSymbol (Base64.isSymbol_of_mem_encode hc)

/-! ## Challenges -/

section

variable {X : Crates}

/-- A valid verifier matches its own challenge. -/
theorem verifyPkce_deriveS256Challenge (hsha : ∀ data, (X.sha256 data).length = 32) {verifier : String}
    (h : validateVerifier verifier = .ok ()) :
    verifyPkce X verifier (deriveS256Challenge X verifier) = .ok () := by
  have hlength : (Text.asBytes (deriveS256Challenge X verifier)).length = 43 := by
    rw [deriveS256Challenge, length_asBytes_base64urlEncode, hsha, divCeil_three]
  rw [verifyPkce, h, Fallible.ok_bind, if_neg (by simp [hlength]), if_pos (constantTimeEq_iff.2 rfl)]

theorem PkcePair.verify_generate (hsha : ∀ data, (X.sha256 data).length = 32) {entropy : List UInt8}
    (hmin : 32 ≤ entropy.length) (hmax : entropy.length ≤ 96) :
    (PkcePair.generate X entropy).verify X (PkcePair.generate X entropy).verifier = .ok () :=
  verifyPkce_deriveS256Challenge hsha (validateVerifier_base64urlEncode hmin hmax)

/-- The verifier that a callback sends matches the challenge that its login has pushed. -/
theorem verifyPkce_login (hsha : ∀ data, (X.sha256 data).length = 32) (metadata : OAuthClientMetadata)
    (stateTtl : Duration) (l : LoginCall) (endpoints : DiscoveredAuthEndpoints)
    (hentropy : l.entropy.length = 32) :
    verifyPkce X (l.storedState X metadata stateTtl endpoints).codeVerifier
      (l.parParameters X metadata endpoints).codeChallenge = .ok () :=
  PkcePair.verify_generate hsha (by omega) (by omega)

/-! ## Sizes -/

namespace PkcePair

variable {mode : Checked.Overflow} {rng : Rng} {n : UInt64}

theorem validateVerifier_fillBytes (hmin : 32 ≤ n.toNat) (hmax : n.toNat ≤ 96) :
    validateVerifier (base64urlEncode (rng.fillBytes n.toNat)) = .ok () := by
  rw [← rng.length_fillBytes n.toNat] at hmin hmax
  exact validateVerifier_base64urlEncode hmin hmax

theorem generateWithEntropySize_of_mem (hmin : 32 ≤ n.toNat) (hmax : n.toNat ≤ 96) :
    generateWithEntropySize X mode rng n = some (.ok (generate X (rng.fillBytes n.toNat))) := by
  have hrange : (decide (32 ≤ n) && decide (n ≤ 96)) = true := by
    simpa [UInt64.le_iff_toNat_le] using ⟨hmin, hmax⟩
  rw [generateWithEntropySize, hrange, if_neg (by decide), fromVerifier,
    validateVerifier_fillBytes hmin hmax]
  rfl

theorem generateWithEntropySize_of_not_mem (h : ¬(32 ≤ n.toNat ∧ n.toNat ≤ 96)) :
    generateWithEntropySize X mode rng n = (Checked.mul 64 mode n.toNat 4).map fun product =>
      .error (.invalidVerifierLength (divCeil product 3) 43 128) := by
  have hrange : (decide (32 ≤ n) && decide (n ≤ 96)) = false := by
    rw [Bool.eq_false_iff]
    simpa [UInt64.le_iff_toNat_le] using h
  rw [generateWithEntropySize, hrange, if_pos (by decide)]
  cases Checked.mul 64 mode n.toNat 4 <;> rfl

theorem generateWithEntropySize_eq_ok {pair : PkcePair}
    (h : generateWithEntropySize X mode rng n = some (.ok pair)) :
    (32 ≤ n.toNat ∧ n.toNat ≤ 96) ∧ pair = generate X (rng.fillBytes n.toNat) := by
  by_cases hrange : 32 ≤ n.toNat ∧ n.toNat ≤ 96
  · rw [generateWithEntropySize_of_mem hrange.1 hrange.2] at h
    exact ⟨hrange, (Except.ok.inj (Option.some.inj h)).symm⟩
  · rw [generateWithEntropySize_of_not_mem hrange] at h
    obtain ⟨product, -, herror⟩ := Option.map_eq_some_iff.1 h
    cases herror

/-- The panic of a build with overflow checks. -/
theorem generateWithEntropySize_panics_iff :
    generateWithEntropySize X .panics rng n = none ↔ 2 ^ 62 ≤ n.toNat := by
  by_cases hrange : 32 ≤ n.toNat ∧ n.toNat ≤ 96
  · rw [generateWithEntropySize_of_mem hrange.1 hrange.2]
    simp only [reduceCtorEq, false_iff]
    omega
  · rw [generateWithEntropySize_of_not_mem hrange, Option.map_eq_none_iff, Checked.mul]
    constructor
    · intro h
      by_contra hlt
      rw [Checked.fit_of_lt (by omega)] at h
      cases h
    · intro h
      exact Checked.fit_panics_of_le (by omega)

end PkcePair

/-- A source that draws only zeros. -/
def zeroRng : Rng where
  fillBytes n := List.replicate n 0
  length_fillBytes _ := List.length_replicate

/-- What is asked of the generation of a pair from `n` random bytes, whatever they are. -/
def GeneratesSoundly (X : Crates) (n : UInt64) : Prop :=
  ∀ rng : Rng,
    PkcePair.generateWithEntropySize X .panics rng n ≠ none ∧
    ∀ mode : Checked.Overflow,
      ((∃ pair, PkcePair.generateWithEntropySize X mode rng n = some (.ok pair)) ↔
        32 ≤ n.toNat ∧ n.toNat ≤ 96) ∧
      ∀ pair, PkcePair.generateWithEntropySize X mode rng n = some (.ok pair) →
        (Text.asBytes pair.verifier).length = divCeil (4 * n.toNat) 3 ∧
        43 ≤ (Text.asBytes pair.verifier).length ∧ (Text.asBytes pair.verifier).length ≤ 128 ∧
        validateVerifier pair.verifier = .ok () ∧
        verifyPkce X pair.verifier pair.challenge = .ok ()

/-- The generation is sound at the sizes whose product with 4 is a `usize`, and only there. -/
theorem generate_with_entropy_size_sound_iff (X : Crates) (hsha : ∀ data, (X.sha256 data).length = 32)
    (n : UInt64) : GeneratesSoundly X n ↔ n.toNat < 2 ^ 62 := by
  constructor
  · intro h
    have hpanic := (h zeroRng).1
    rw [ne_eq, PkcePair.generateWithEntropySize_panics_iff] at hpanic
    omega
  · intro hlt rng
    refine ⟨?_, fun mode => ⟨⟨?_, ?_⟩, ?_⟩⟩
    · rw [ne_eq, PkcePair.generateWithEntropySize_panics_iff]
      omega
    · rintro ⟨pair, h⟩
      exact (PkcePair.generateWithEntropySize_eq_ok h).1
    · rintro ⟨hmin, hmax⟩
      exact ⟨_, PkcePair.generateWithEntropySize_of_mem hmin hmax⟩
    · intro pair h
      obtain ⟨⟨hmin, hmax⟩, rfl⟩ := PkcePair.generateWithEntropySize_eq_ok h
      have hvalid := @PkcePair.validateVerifier_fillBytes rng n hmin hmax
      have hlength := length_asBytes_base64urlEncode (rng.fillBytes n.toNat)
      rw [rng.length_fillBytes] at hlength
      obtain ⟨hbounds, -⟩ := validateVerifier_eq_ok.1 hvalid
      exact ⟨hlength, hbounds.1, hbounds.2, hvalid, verifyPkce_deriveS256Challenge hsha hvalid⟩

theorem generate_with_entropy_size_sound_at_64 : GeneratesSoundly sampleCrates 64 :=
  (generate_with_entropy_size_sound_iff sampleCrates (fun _ => rfl) 64).2 (by decide)

/-- The report of a size of `2 ^ 62` bytes: with overflow checks there is none, and without them it says
    that the verifier would be empty. -/
theorem generate_with_entropy_size_overflows :
    PkcePair.generateWithEntropySize sampleCrates .panics zeroRng 0x4000000000000000 = none ∧
    PkcePair.generateWithEntropySize sampleCrates .wraps zeroRng 0x4000000000000000 =
      some (.error (.invalidVerifierLength 0 43 128)) ∧
    ¬ GeneratesSoundly sampleCrates 0x4000000000000000 := by
  have hpanics : PkcePair.generateWithEntropySize sampleCrates .panics zeroRng 0x4000000000000000 = none :=
    PkcePair.generateWithEntropySize_panics_iff.2 (by decide)
  exact ⟨hpanics, by rfl, fun h => (h zeroRng).1 hpanics⟩

end

end Skyauth
