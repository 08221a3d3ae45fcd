import Skyauth.Sealed
import Skyauth.Lib.Fallible

/-!
# Proofs: sealed envelopes and their keys

An envelope is opened by the key that sealed it, under the associated data it was sealed with; one that
was sealed without associated data is opened under any. The cipher is taken to be ideal: it decrypts what
has been encrypted and nothing else.

A key is read from hex one pair of characters at a time, and each pair as a number, so that a sign in
place of the first digit is let through.
-/

namespace Skyauth

/-! ## The ideal cipher -/

/-- One encryption. -/
structure Encryption where
  key : ByteArrayN 32
  nonce : ByteArrayN 12
  aad : List UInt8
  plaintext : List UInt8
  ciphertext : List UInt8
  deriving DecidableEq

/-- AES-256-GCM as an ideal cipher, with the encryptions that have been made. -/
structure IdealCipher (X : SealCrates) (made : Set Encryption) : Prop where
  /-- What is decrypted has been encrypted, and the other way round. -/
  decrypt_iff : ∀ e : Encryption,
    X.decrypt e.key e.nonce e.ciphertext e.aad = some e.plaintext ↔ e ∈ made
  /-- Nonce and ciphertext belong to one encryption. -/
  distinct : ∀ e ∈ made, ∀ e' ∈ made, e.nonce = e'.nonce → e.ciphertext = e'.ciphertext → e = e'
  /-- The tag is at the end of the ciphertext. -/
  tag : ∀ e ∈ made, e.ciphertext.length = e.plaintext.length + 16

variable {X : SealCrates} {made : Set Encryption}

theorem IdealCipher.decrypt_made (ideal : IdealCipher X made) {e : Encryption} (he : e ∈ made) :
    X.decrypt e.key e.nonce e.ciphertext e.aad = some e.plaintext := (ideal.decrypt_iff e).2 he

/-- The ciphertext of an encryption is refused under another key or other associated data. -/
theorem IdealCipher.decrypt_other (ideal : IdealCipher X made) {e : Encryption} (he : e ∈ made)
    {key : ByteArrayN 32} {aad : List UInt8} (hne : ¬(key = e.key ∧ aad = e.aad)) :
    X.decrypt key e.nonce e.ciphertext aad = none := by
  cases hdec : X.decrypt key e.nonce e.ciphertext aad with
  | none => rfl
  | some plaintext =>
    have hmade : (⟨key, e.nonce, aad, plaintext, e.ciphertext⟩ : Encryption) ∈ made :=
      (ideal.decrypt_iff _).1 hdec
    have heq := ideal.distinct _ hmade e he rfl rfl
    exact absurd ⟨congrArg Encryption.key heq, congrArg Encryption.aad heq⟩ hne

/-! ## Opening -/

namespace SealedBox

variable {box : SealedBox} {nonce : ByteArrayN 12} {plaintext aad ciphertext : List UInt8}
  {envelope : String}

theorem sealWithAad_eq_ok (h : box.sealWithAad X nonce plaintext aad = .ok envelope) :
    ∃ ciphertext, X.encrypt box.key nonce plaintext aad = .ok ciphertext ∧
      envelope = SEALED_ENVELOPE_PREFIX ++ Base64.encodeStandard (nonce.toList ++ ciphertext) := by
  unfold sealWithAad at h
  split at h
  · cases h
  · rename_i ciphertext hencrypt
    cases h
    exact ⟨ciphertext, hencrypt, rfl⟩

/-- White space around an envelope is not part of it, and there is none inside. -/
theorem trim_envelope (data : List UInt8) :
    Text.trim (SEALED_ENVELOPE_PREFIX ++ Base64.encodeStandard data) =
      SEALED_ENVELOPE_PREFIX ++ Base64.encodeStandard data := by
  have hvisible : ∀ c ∈ SEALED_ENVELOPE_PREFIX.toList, 33 ≤ c.toNat ∧ c.toNat ≤ 126 :=
    Text.forall_mem_of_all (by decide)
  refine Text.trim_eq_self fun c hc => Base64.not_isWhitespace_of_visible ?_
  rw [String.toList_append] at hc
  rcases List.mem_append.1 hc with hc | hc
  · exact hvisible c hc
  · exact Base64.visible_of_mem_encodeStandard hc

/-- The payload of an envelope is taken apart as it was put together. -/
theorem openWithAad_envelope (hlength : 16 ≤ ciphertext.length) (associated : List UInt8) :
    box.openWithAad X
        (SEALED_ENVELOPE_PREFIX ++ Base64.encodeStandard (nonce.toList ++ ciphertext)) associated =
      box.openPayload X nonce ciphertext associated := by
  have hnonce : nonce.toList.length = 12 := nonce.2
  have hfull : ¬(nonce.toList ++ ciphertext).length < 28 := by
    rw [List.length_append]
    omega
  have htake : (nonce.toList ++ ciphertext).take 12 = nonce.toList := List.take_left' hnonce
  have hdrop : (nonce.toList ++ ciphertext).drop 12 = ciphertext := List.drop_left' hnonce
  simp only [openWithAad, trim_envelope, Text.stripPrefix_append, Base64.decodeStandard_encodeStandard]
  rw [dif_neg hfull]
  simp only [htake, hdrop]
  rfl

/-- A payload that is too short for nonce and tag is refused before anything is decrypted. -/
theorem openWithAad_truncated {raw encoded : String} {combined : List UInt8}
    (hstrip : Text.stripPrefix (Text.trim raw) SEALED_ENVELOPE_PREFIX = some encoded)
    (hdecode : Base64.decodeStandard encoded = some combined) (hshort : combined.length < 28)
    (associated : List UInt8) :
    box.openWithAad X raw associated = .error (.invalidEnvelope "Sealed payload is truncated") := by
  simp only [openWithAad, hstrip, hdecode]
  rw [dif_pos hshort]

theorem openPayload_of_decrypt (h : X.decrypt box.key nonce ciphertext aad = some plaintext) :
    box.openPayload X nonce ciphertext aad = .ok plaintext := by
  simp only [openPayload, decrypt, h]

/-- The fallback to no associated data. -/
theorem openPayload_fallback {associated : List UInt8}
    (h : X.decrypt box.key nonce ciphertext associated = none)
    (hempty : X.decrypt box.key nonce ciphertext [] = some plaintext) :
    box.openPayload X nonce ciphertext associated = .ok plaintext := by
  have hne : associated ≠ [] := by
    rintro rfl
    rw [hempty] at h
    cases h
  simp only [openPayload, decrypt, h, hempty, ne_eq, hne, not_false_eq_true, if_true]

theorem openPayload_refused {associated : List UInt8}
    (h : X.decrypt box.key nonce ciphertext associated = none)
    (hempty : X.decrypt box.key nonce ciphertext [] = none) :
    box.openPayload X nonce ciphertext associated =
      .error (.open "Authentication tag mismatch or invalid key while opening sealed payload") := by
  simp only [openPayload, decrypt, h, hempty, ite_self]

/-- What a sealed envelope is opened to: under its own key the plaintext, if it is asked for under its
    associated data or has none, and otherwise an error. A payload that is too short for an envelope is
    refused, whatever the cipher does. -/
theorem openWithAad_sealWithAad (ideal : IdealCipher X made)
    (hseal : box.sealWithAad X nonce plaintext aad = .ok envelope)
    (hmade : ∀ c, X.encrypt box.key nonce plaintext aad = .ok c →
      (⟨box.key, nonce, aad, plaintext, c⟩ : Encryption) ∈ made) :
    (∀ associated, associated = aad ∨ aad = [] →
      box.openWithAad X envelope associated = .ok plaintext) ∧
    (∀ associated, ¬(associated = aad ∨ aad = []) →
      ∃ msg, box.openWithAad X envelope associated = .error (.open msg)) ∧
    (∀ other : SealedBox, other ≠ box → ∀ associated,
      ∃ msg, other.openWithAad X envelope associated = .error (.open msg)) ∧
    ∀ (other : SealedBox) (raw encoded : String) (combined : List UInt8),
      Text.stripPrefix (Text.trim raw) SEALED_ENVELOPE_PREFIX = some encoded →
      Base64.decodeStandard encoded = some combined → combined.length < 28 →
      ∀ decrypt associated, other.openWithAad { X with decrypt := decrypt } raw associated =
        .error (.invalidEnvelope "Sealed payload is truncated") := by
  obtain ⟨ciphertext, hencrypt, rfl⟩ := sealWithAad_eq_ok hseal
  have hmem := hmade ciphertext hencrypt
  have hlength : 16 ≤ ciphertext.length := by
    have htag := ideal.tag _ hmem
    simp only at htag
    omega
  -- the two calls of the cipher for this ciphertext
  have hown : X.decrypt box.key nonce ciphertext aad = some plaintext := ideal.decrypt_made hmem
  have hother : ∀ {key : ByteArrayN 32} {associated : List UInt8},
      ¬(key = box.key ∧ associated = aad) → X.decrypt key nonce ciphertext associated = none :=
    fun hne => ideal.decrypt_other hmem hne
  refine ⟨fun associated h => ?_, fun associated h => ?_, fun other hne associated => ?_,
    fun other raw encoded combined hstrip hdecode hshort decrypt associated => ?_⟩
  · rw [openWithAad_envelope hlength]
    by_cases hsame : associated = aad
    · rw [hsame]
      exact openPayload_of_decrypt hown
    · obtain rfl := h.resolve_left hsame
      exact openPayload_fallback (hother fun hboth => hsame hboth.2) hown
  · obtain ⟨hne, hsealed⟩ := not_or.1 h
    rw [openWithAad_envelope hlength]
    exact ⟨_, openPayload_refused (hother fun hboth => hne hboth.2)
      (hother fun hboth => hsealed hboth.2.symm)⟩
  · have hkey : other.key ≠ box.key := fun heq => hne (by cases other; cases box; cases heq; rfl)
    rw [openWithAad_envelope hlength]
    exact ⟨_, openPayload_refused (hother fun hboth => hkey hboth.1)
      (hother fun hboth => hkey hboth.1)⟩
  · exact openWithAad_truncated hstrip hdecode hshort associated

end SealedBox

namespace SealSample

/-- The text `tok` sealed with the associated data `did`. -/
def encryption : Encryption where
  key        := ⟨(List.range' 1 32).map UInt8.ofNat, rfl⟩
  nonce      := ⟨(List.range' 1 12).map UInt8.ofNat, rfl⟩
  aad        := [100, 105, 100]
  plaintext  := [116, 111, 107]
  ciphertext := [218, 65, 199, 177, 91, 71, 19, 201, 127, 75, 154, 51, 79, 74, 208, 70, 137, 54, 75]

theorem length_zeros : (List.replicate 32 (0 : UInt8)).length = 32 := List.length_replicate

/-- AES-256-GCM, so far as this encryption goes. -/
def crates : SealCrates where
  encrypt key nonce msg aad :=
    if key = encryption.key ∧ nonce = encryption.nonce ∧ msg = encryption.plaintext ∧
        aad = encryption.aad then .ok encryption.ciphertext
    else .error "aead::Error"
  decrypt key nonce msg aad :=
    if key = encryption.key ∧ nonce = encryption.nonce ∧ msg = encryption.ciphertext ∧
        aad = encryption.aad then some encryption.plaintext
    else none
  sha256 _ := ⟨List.replicate 32 0, length_zeros⟩
  base64Error _ := "Invalid input length"
  utf8Error _ := "invalid utf-8 sequence of 1 bytes from index 0"

def box : SealedBox := ⟨encryption.key⟩

theorem idealCipher : IdealCipher crates {encryption} where
  decrypt_iff := by
    rintro ⟨key, nonce, aad, plaintext, ciphertext⟩
    rw [Set.mem_singleton_iff]
    constructor
    · intro h
      simp only [crates] at h
      split at h
      · rename_i hargs
        obtain ⟨rfl, rfl, rfl, rfl⟩ := hargs
        cases h
        rfl
      · cases h
    · intro h
      rw [h]
      rfl
  distinct := by
    rintro e rfl e' rfl - -
    rfl
  tag := by
    rintro e rfl
    rfl

theorem sealWithAad_box : box.sealWithAad crates encryption.nonce encryption.plaintext encryption.aad =
    .ok "enc:v1:AQIDBAUGBwgJCgsM2kHHsVtHE8l/S5ozT0rQRok2Sw==" := by rfl

end SealSample

theorem SealedBox.openWithAad_sealWithAad_sample :
    SealSample.box.sealWithAad SealSample.crates SealSample.encryption.nonce [116, 111, 107]
        [100, 105, 100] = .ok "enc:v1:AQIDBAUGBwgJCgsM2kHHsVtHE8l/S5ozT0rQRok2Sw==" ∧
      SealSample.box.openWithAad SealSample.crates
        "enc:v1:AQIDBAUGBwgJCgsM2kHHsVtHE8l/S5ozT0rQRok2Sw==" [100, 105, 100] =
          .ok [116, 111, 107] ∧
      ∃ msg, SealSample.box.openWithAad SealSample.crates
        "enc:v1:AQIDBAUGBwgJCgsM2kHHsVtHE8l/S5ozT0rQRok2Sw==" [] = .error (.open msg) := by
  have h := SealedBox.openWithAad_sealWithAad SealSample.idealCipher SealSample.sealWithAad_box
    (by
      intro c hc
      cases hc
      exact Set.mem_singleton _)
  exact ⟨SealSample.sealWithAad_box, h.1 _ (Or.inl rfl), h.2.1 _ (by decide)⟩

/-! ## Keys in hex -/

namespace SealedBox

variable {X : SealCrates} {key : List UInt8} {cs : List Char}

/-- A byte as a character. -/
def charOf (b : UInt8) : Char := Char.ofNat b.toNat

/-- What `from_hex` makes of text: the strict decoder but for the sign, which counts as a zero. -/
def decodePairs : List Char → Option (List UInt8)
  | hi :: lo :: rest => do
    let high ← Hex.leadDigit hi
    let low ← Hex.toDigit 16 lo
    let tail ← decodePairs rest
    return UInt8.ofNat (16 * high + low) :: tail
  | [_] => none
  | [] => some []

theorem fromHexPair_eq_ok {a b v : UInt8} :
    fromHexPair X [a, b] = .ok v ↔ ∃ high low, Hex.leadDigit (charOf a) = some high ∧
      Hex.toDigit 16 (charOf b) = some low ∧ v = UInt8.ofNat (16 * high + low) := by
  unfold fromHexPair
  cases hutf8 : Text.fromUtf8 [a, b] with
  | some pair =>
    simp only [Fallible.mapError_eq_ok]
    exact Hex.u8FromStrRadix_pair (Text.asBytes_of_fromUtf8 hutf8)
  | none =>
    simp only [reduceCtorEq, false_iff]
    rintro ⟨high, low, hhigh, hlow, -⟩
    -- the digits and the sign are ASCII, so two of them are text
    have ha := (Hex.leadDigit_lt hhigh).2
    have hb := (Hex.toDigit_eq_some hlow).2.1
    have hascii : ∀ c ∈ (String.ofList [charOf a, charOf b]).toList, c.toNat < 128 := by
      intro c hc
      rw [String.toList_ofList] at hc
      rcases List.mem_cons.1 hc with rfl | hc
      · exact ha
      · rw [List.mem_singleton.1 hc]
        exact hb
    have hbytes : Text.asBytes (String.ofList [charOf a, charOf b]) = [a, b] := by
      rw [Text.asBytes_of_ascii hascii, String.toList_ofList]
      simp only [List.map_cons, List.map_nil, charOf, Hex.toNat_charOf, UInt8.ofNat_toNat]
    rw [← hbytes, Text.fromUtf8_asBytes] at hutf8
    cases hutf8

theorem mapM_fromHexPair {bytes : List UInt8} (heven : bytes.length % 2 = 0) :
    (asChunks2 bytes).mapM (fromHexPair X) = .ok key ↔ decodePairs (bytes.map charOf) = some key := by
  induction bytes using asChunks2.induct generalizing key with
  | case1 a b rest ih =>
    have heven : rest.length % 2 = 0 := by
      simp only [List.length_cons] at heven
      omega
    simp only [asChunks2, List.mapM_cons, Fallible.bind_eq_ok, fromHexPair_eq_ok, ih heven,
      Fallible.pure_eq_ok, List.map_cons, decodePairs, Option.bind_eq_bind, Option.bind_eq_some_iff,
      Option.pure_def, Option.some.injEq]
    constructor
    · rintro ⟨v, ⟨high, low, hhigh, hlow, rfl⟩, tail, htail, rfl⟩
      exact ⟨high, hhigh, low, hlow, tail, htail, rfl⟩
    · rintro ⟨high, hhigh, low, hlow, tail, htail, rfl⟩
      exact ⟨_, ⟨high, low, hhigh, hlow, rfl⟩, tail, htail, rfl⟩
  | case2 bytes hshort =>
    match bytes, hshort, heven with
    | [], _, _ =>
      simp only [asChunks2, List.mapM_nil, Fallible.pure_eq_ok, List.map_nil, decodePairs,
        Option.some.injEq]
    | [a], _, heven => cases heven
    | a :: b :: rest, hshort, _ => exact absurd rfl (hshort a b rest)

theorem ascii_of_decodePairs (h : decodePairs cs = some key) : ∀ c ∈ cs, c.toNat < 128 := by
  induction cs using decodePairs.induct generalizing key with
  | case1 hi lo rest ih =>
    simp only [decodePairs, Option.bind_eq_bind, Option.bind_eq_some_iff] at h
    obtain ⟨high, hhigh, low, hlow, tail, htail, -⟩ := h
    intro c hc
    rcases List.mem_cons.1 hc with rfl | hc
    · exact (Hex.leadDigit_lt hhigh).2
    · rcases List.mem_cons.1 hc with rfl | hc
      · exact (Hex.toDigit_eq_some hlow).2.1
      · exact ih htail c hc
  | case2 c => cases h
  | case3 => exact fun c hc => absurd hc List.not_mem_nil

theorem length_of_decodePairs (h : decodePairs cs = some key) : cs.length = 2 * key.length := by
  induction cs using decodePairs.induct generalizing key with
  | case1 hi lo rest ih =>
    simp only [decodePairs, Option.bind_eq_bind, Option.bind_eq_some_iff, Option.pure_def,
      Option.some.injEq] at h
    obtain ⟨high, -, low, -, tail, htail, rfl⟩ := h
    simp only [List.length_cons, ih htail]
    omega
  | case2 c => cases h
  | case3 =>
    cases h
    rfl

theorem map_charOf_asBytes {s : String} (h : ∀ c ∈ s.toList, c.toNat < 128) :
    (Text.asBytes s).map charOf = s.toList := by
  rw [Text.asBytes_of_ascii h, List.map_map]
  refine (List.map_congr_left fun c hc => ?_).trans (List.map_id _)
  have hbyte : (UInt8.ofNat c.toNat).toNat = c.toNat := by
    rw [UInt8.toNat_ofNat', Nat.mod_eq_of_lt (by have := h c hc; omega)]
  rw [Function.comp_apply, charOf, hbyte, Char.ofNat_toNat, id]

/-- Which texts are read, and to which keys. -/
theorem fromHex_eq_ok {s : String} {box : SealedBox} :
    fromHex X s = .ok box ↔ s.toList.length = 64 ∧ decodePairs s.toList = some box.key.toList := by
  constructor
  · intro h
    simp only [fromHex] at h
    split at h
    · cases h
    · rename_i hlength
      have hlength : (Text.asBytes s).length = 64 := not_not.1 hlength
      obtain ⟨key, hkey, h⟩ := Fallible.bind_eq_ok.1 h
      rw [mapM_fromHexPair (by rw [hlength])] at hkey
      have hascii : ∀ c ∈ s.toList, c.toNat < 128 := by
        refine Text.ascii_of_asBytes fun b hb => ?_
        have hchar := ascii_of_decodePairs hkey (charOf b) (List.mem_map_of_mem hb)
        rwa [charOf, Hex.toNat_charOf] at hchar
      have hmap := map_charOf_asBytes hascii
      rw [hmap] at hkey
      rw [← List.length_map charOf, hmap] at hlength
      split at h
      · cases h
        exact ⟨hlength, hkey⟩
      · cases h
  · rintro ⟨hlength, hkey⟩
    have hmap := map_charOf_asBytes (ascii_of_decodePairs hkey)
    have hbytes : (Text.asBytes s).length = 64 := by rw [← hlength, ← hmap, List.length_map]
    have hpairs : (asChunks2 (Text.asBytes s)).mapM (fromHexPair X) = .ok box.key.toList := by
      rw [mapM_fromHexPair (by rw [hbytes]), hmap, hkey]
    simp only [fromHex]
    rw [if_neg (not_not.2 hbytes), hpairs, Fallible.ok_bind, dif_pos (show box.key.toList.length = 32 from box.key.2)]
    rfl

/-- Every pair is two digits, or a sign and a digit. -/
def signedPairs : List Char → Bool
  | hi :: lo :: rest => (hi == '+' || Hex.isHexDigit hi) && Hex.isHexDigit lo && signedPairs rest
  | [_] => false
  | [] => true

/-- A text of 32 pairs with a sign in one of them. -/
def HasSign (s : String) : Prop :=
  s.toList.length = 64 ∧ '+' ∈ s.toList ∧ signedPairs s.toList = true

theorem isSome_leadDigit (c : Char) : (Hex.leadDigit c).isSome = (c == '+' || Hex.isHexDigit c) := by
  unfold Hex.leadDigit
  split
  · rename_i hc
    rw [hc]
    rfl
  · rename_i hc
    rw [beq_eq_false_iff_ne.2 hc, Bool.false_or]
    rfl

theorem isSome_decodePairs (cs : List Char) : (decodePairs cs).isSome = signedPairs cs := by
  induction cs using decodePairs.induct with
  | case1 hi lo rest ih =>
    rw [signedPairs, ← isSome_leadDigit, ← ih, decodePairs, Hex.isHexDigit]
    cases Hex.leadDigit hi <;> cases Hex.toDigit 16 lo <;> cases decodePairs rest <;> rfl
  | case2 c => rfl
  | case3 => rfl

theorem decodePairs_eq_decode (h : '+' ∉ cs) : decodePairs cs = Hex.decode cs := by
  induction cs using decodePairs.induct with
  | case1 hi lo rest ih =>
    simp only [List.mem_cons, not_or] at h
    have hlead : Hex.leadDigit hi = Hex.toDigit 16 hi := if_neg (Ne.symm h.1)
    rw [decodePairs, Hex.decode, hlead, ih h.2.2]
  | case2 c => rfl
  | case3 => rfl

theorem not_plus_of_isHexDigit (h : ∀ c ∈ cs, Hex.isHexDigit c = true) : '+' ∉ cs := fun hmem =>
  absurd (h _ hmem) (by decide)

/-- A text is read as hex is: if it is 64 hex digits, and then to the bytes they write. -/
structure ReadsHex (X : SealCrates) (s : String) : Prop where
  accepts : (∃ box, fromHex X s = .ok box) ↔
    s.toList.length = 64 ∧ ∀ c ∈ s.toList, Hex.isHexDigit c = true
  decodes : ∀ box, fromHex X s = .ok box → Hex.decode s.toList = some box.key.toList

/-- The decoded bytes make a key. -/
theorem fromHex_of_decode {s : String} (hlength : s.toList.length = 64)
    (h : Hex.decode s.toList = some key) : ∃ box, fromHex X s = .ok box ∧ box.key.toList = key := by
  have hplus := not_plus_of_isHexDigit (Hex.isHexDigit_of_decode h)
  have hkey : key.length = 32 := by
    have hdouble := Hex.length_of_decode h
    omega
  exact ⟨⟨⟨key, hkey⟩⟩, fromHex_eq_ok.2 ⟨hlength, (decodePairs_eq_decode hplus).trans h⟩, rfl⟩

theorem readsHex_iff {s : String} : ReadsHex X s ↔ ¬HasSign s := by
  constructor
  · rintro ⟨haccepts, -⟩ ⟨hlength, hplus, hpairs⟩
    rw [← isSome_decodePairs] at hpairs
    obtain ⟨key, hkey⟩ := Option.isSome_iff_exists.1 hpairs
    have hkeyLength : key.length = 32 := by
      have hdouble := length_of_decodePairs hkey
      omega
    obtain ⟨-, hdigits⟩ := haccepts.1 ⟨⟨⟨key, hkeyLength⟩⟩, fromHex_eq_ok.2 ⟨hlength, hkey⟩⟩
    exact not_plus_of_isHexDigit hdigits hplus
  · intro hsign
    have hdecode : ∀ box, fromHex X s = .ok box → Hex.decode s.toList = some box.key.toList := by
      intro box hbox
      obtain ⟨hlength, hkey⟩ := fromHex_eq_ok.1 hbox
      have hplus : '+' ∉ s.toList := fun hmem =>
        hsign ⟨hlength, hmem, by rw [← isSome_decodePairs, hkey]; rfl⟩
      rw [← decodePairs_eq_decode hplus, hkey]
    refine ⟨⟨?_, ?_⟩, hdecode⟩
    · rintro ⟨box, hbox⟩
      exact ⟨(fromHex_eq_ok.1 hbox).1, Hex.isHexDigit_of_decode (hdecode box hbox)⟩
    · rintro ⟨hlength, hdigits⟩
      obtain ⟨key, hkey⟩ := Hex.exists_decode (by rw [hlength]) hdigits
      obtain ⟨box, hbox, -⟩ := fromHex_of_decode hlength hkey
      exact ⟨box, hbox⟩

theorem fromHex_encode (upper : Bool) (box : SealedBox) :
    fromHex X (Hex.encode upper box.key.toList) = .ok box := by
  have hkey : box.key.toList.length = 32 := box.key.2
  have hlength : (Hex.encode upper box.key.toList).toList.length = 64 := by
    rw [Hex.length_encode, hkey]
  obtain ⟨box', hbox, heq⟩ := fromHex_of_decode (X := X) hlength (Hex.decode_encode upper _)
  rw [hbox]
  cases box
  cases box'
  congr 2
  exact Subtype.ext heq

/-- Two texts are read as hex is, and to the same key exactly if they are equal but for their case,
    unless one of them is made of 32 pairs with a sign among them. The encodings of a key, which have no
    sign, are read back. -/
theorem fromHex_law (X : SealCrates) (s t : String) (box : SealedBox) :
    (ReadsHex X s ∧ ReadsHex X t ∧
      (∀ a b, fromHex X s = .ok a → fromHex X t = .ok b →
        (a = b ↔ Text.eqIgnoreAsciiCase s t = true)) ∧
      ∀ upper, fromHex X (Hex.encode upper box.key.toList) = .ok box) ↔
    ¬HasSign s ∧ ¬HasSign t := by
  rw [readsHex_iff, readsHex_iff]
  constructor
  · rintro ⟨hs, ht, -⟩
    exact ⟨hs, ht⟩
  · rintro ⟨hs, ht⟩
    refine ⟨hs, ht, fun a b ha hb => ?_, fun upper => fromHex_encode upper box⟩
    have hinj := Hex.decode_inj ((readsHex_iff.2 hs).decodes a ha) ((readsHex_iff.2 ht).decodes b hb)
    have hkeys : a = b ↔ a.key.toList = b.key.toList := by
      constructor
      · rintro rfl
        rfl
      · intro heq
        cases a
        cases b
        congr 1
        exact Subtype.ext heq
    rw [hkeys, hinj, Text.eqIgnoreAsciiCase, beq_iff_eq]

/-- A sign in the first pair: no hex digit, and yet it is read. -/
theorem fromHex_sign :
    (∃ box, fromHex SealSample.crates
        "+10000000000000000000000000000000000000000000000000000000000000f" = .ok box) ∧
      ¬∀ c ∈ "+10000000000000000000000000000000000000000000000000000000000000f".toList,
        Hex.isHexDigit c = true := by
  refine ⟨⟨⟨⟨1 :: List.replicate 30 0 ++ [15], rfl⟩⟩, fromHex_eq_ok.2 ⟨by decide, by decide⟩⟩, ?_⟩
  intro h
  exact absurd (h '+' (by decide)) (by decide)

end SealedBox

end Skyauth
