import Skyauth.Proofs.MultikeyProofs

/-!
# Proofs: the base-58 codec is a bijection

A text of base-58 symbols denotes a number, and so does a list of bytes. `bs58_decode` takes a text that
does not start with the symbol of 0 to the bytes of its number, without a leading zero byte, and
`bs58_encode` takes these back to the text. The loops keep the carry below the factor of the pass, so that
nothing leaves the range of `u32` however long the input is.
-/

namespace Skyauth

/-! ## What a text denotes -/

/-- The symbols, in the order of their digits. -/
def base58Symbols : List Char := "123456789ABCDEFGHJKLMNPQRSTUVWXYZabcdefghijkmnopqrstuvwxyz".toList

/-- The number that a text denotes, highest digit first. -/
def base58Value (text : String) : ℕ := text.toList.foldl (fun n c => n * 58 + base58Symbols.idxOf c) 0

/-- The number that bytes denote, highest first. -/
def bigEndian (bytes : List UInt8) : ℕ := bytes.foldl (fun n b => n * 256 + b.toNat) 0

/-- Bytes for the number, with no byte to spare in front. -/
def IsMinimalBigEndian (bytes : List UInt8) (n : ℕ) : Prop := bigEndian bytes = n ∧ bytes.head? ≠ some 0

/-- A text that the decoder takes: symbols only, and not that of 0 in front. -/
def IsBase58 (text : String) : Prop :=
  (∀ c ∈ text.toList, c ∈ base58Symbols) ∧ text.toList.head? ≠ some '1'

/-! ## Symbols and bytes -/

theorem base58Symbols_facts : ∀ c ∈ base58Symbols,
    c.toNat < 128 ∧ BASE58_ALPHABET.idxOf (UInt8.ofNat c.toNat) = base58Symbols.idxOf c ∧
      Char.ofNat (BASE58_ALPHABET.getD (base58Symbols.idxOf c) 0).toNat = c ∧
      base58Symbols.idxOf c < 58 ∧ (base58Symbols.idxOf c = 0 → c = '1') :=
  Text.forall_mem_of_all (by decide +kernel)

theorem BASE58_ALPHABET_eq : BASE58_ALPHABET = base58Symbols.map fun c => UInt8.ofNat c.toNat :=
  Text.asBytes_of_ascii fun c hc => (base58Symbols_facts c hc).1

theorem mem_base58Symbols {c : Char} (hascii : c.toNat < 128)
    (hmem : UInt8.ofNat c.toNat ∈ BASE58_ALPHABET) : c ∈ base58Symbols := by
  rw [BASE58_ALPHABET_eq] at hmem
  obtain ⟨c', hc', hbyte⟩ := List.mem_map.1 hmem
  have hascii' := (base58Symbols_facts c' hc').1
  have hcode := congrArg UInt8.toNat hbyte
  rw [UInt8.toNat_ofNat', UInt8.toNat_ofNat'] at hcode
  have heq : c' = c := Char.toNat_inj.1 (by omega)
  exact heq ▸ hc'

variable {text : String}

theorem asBytes_of_symbols (h : ∀ c ∈ text.toList, c ∈ base58Symbols) :
    Text.asBytes text = text.toList.map fun c => UInt8.ofNat c.toNat :=
  Text.asBytes_of_ascii fun c hc => (base58Symbols_facts c (h c hc)).1

/-- The bytes of a text are looked up one by one; only those of symbols are found. -/
theorem asBytes_mem_iff :
    (∀ b ∈ Text.asBytes text, b ∈ BASE58_ALPHABET) ↔ ∀ c ∈ text.toList, c ∈ base58Symbols := by
  constructor
  · intro h c hc
    have hbyte : ∀ b ∈ BASE58_ALPHABET, b.toNat < 128 := by decide +kernel
    have hascii := Text.ascii_of_asBytes fun b hb => hbyte b (h b hb)
    rw [Text.asBytes_of_ascii hascii] at h
    exact mem_base58Symbols (hascii c hc) (h _ (List.mem_map_of_mem hc))
  · intro h
    rw [asBytes_of_symbols h, BASE58_ALPHABET_eq]
    intro b hb
    obtain ⟨c, hc, rfl⟩ := List.mem_map.1 hb
    exact List.mem_map_of_mem (h c hc)

/-- The digits of a text, highest first. -/
def base58Digits (text : String) : List ℕ := text.toList.map base58Symbols.idxOf

theorem map_idxOf_asBytes (h : ∀ c ∈ text.toList, c ∈ base58Symbols) :
    (Text.asBytes text).map BASE58_ALPHABET.idxOf = base58Digits text := by
  rw [asBytes_of_symbols h, List.map_map]
  exact List.map_congr_left fun c hc => (base58Symbols_facts c (h c hc)).2.1

theorem base58Digits_lt (h : ∀ c ∈ text.toList, c ∈ base58Symbols) : ∀ d ∈ base58Digits text, d < 58 := by
  intro d hd
  obtain ⟨c, hc, rfl⟩ := List.mem_map.1 hd
  exact (base58Symbols_facts c (h c hc)).2.2.2.1

theorem base58Digits_head (h : IsBase58 text) : ∀ d, (base58Digits text).head? = some d → d ≠ 0 := by
  rintro d hd rfl
  rw [base58Digits, List.head?_map, Option.map_eq_some_iff] at hd
  obtain ⟨c, hc, hzero⟩ := hd
  obtain rfl := (base58Symbols_facts c (h.1 c (List.mem_of_mem_head? hc))).2.2.2.2 hzero
  exact h.2 hc

theorem base58Value_eq (text : String) : base58Value text = Nat.ofDigits 58 (base58Digits text).reverse := by
  rw [← Radix.foldl_eq_ofDigits, base58Digits, List.foldl_map]
  rfl

/-! ## Decoding -/

/-- The bytes that the loop of `bs58_decode` makes of a text. -/
def decodedBytes (text : String) : List UInt8 := ((base58Digits text).foldl mulAdd58 []).reverse

theorem bs58DecodeFrom_eq_ok {out bytes result : List UInt8} :
    bs58DecodeFrom out bytes = .ok result ↔
      (∀ b ∈ bytes, b ∈ BASE58_ALPHABET) ∧
        (bytes.map BASE58_ALPHABET.idxOf).foldl mulAdd58 out = result := by
  induction bytes generalizing out with
  | nil => simp [bs58DecodeFrom]
  | cons byte rest ih =>
    rw [bs58DecodeFrom, List.forall_mem_cons]
    split
    · rename_i hmem
      rw [ih, List.map_cons, List.foldl_cons]
      simp only [hmem, true_and]
    · rename_i hmem
      simp [hmem]

theorem bs58Decode_eq_ok {bytes : List UInt8} :
    bs58Decode text = .ok bytes ↔ IsBase58 text ∧ bytes = decodedBytes text := by
  by_cases hempty : text = ""
  · subst hempty
    simp [bs58Decode, IsBase58, decodedBytes, base58Digits, eq_comm]
  rw [bs58Decode, if_neg hempty]
  by_cases hone : Text.startsWith text "1" = true
  · have hhead : text.toList.head? = some '1' := Text.startsWith_char.1 hone
    rw [if_pos hone]
    simp [IsBase58, hhead]
  · have hhead : text.toList.head? ≠ some '1' := fun h => hone (Text.startsWith_char.2 h)
    rw [if_neg hone]
    constructor
    · intro h
      obtain ⟨result, hresult, hbytes⟩ : ∃ result,
          bs58DecodeFrom [] (Text.asBytes text) = .ok result ∧ result.reverse = bytes := by
        cases hfrom : bs58DecodeFrom [] (Text.asBytes text) with
        | error e => rw [hfrom] at h; cases h
        | ok result => rw [hfrom] at h; exact ⟨result, rfl, Except.ok.inj h⟩
      obtain ⟨hmem, hfold⟩ := bs58DecodeFrom_eq_ok.1 hresult
      have hsymbols := asBytes_mem_iff.1 hmem
      rw [map_idxOf_asBytes hsymbols] at hfold
      exact ⟨⟨hsymbols, hhead⟩, by rw [← hbytes, ← hfold, decodedBytes]⟩
    · rintro ⟨⟨hsymbols, -⟩, rfl⟩
      have hfrom : bs58DecodeFrom [] (Text.asBytes text) = .ok ((base58Digits text).foldl mulAdd58 []) :=
        bs58DecodeFrom_eq_ok.2 ⟨asBytes_mem_iff.2 hsymbols, by rw [map_idxOf_asBytes hsymbols]⟩
      rw [hfrom]
      rfl

theorem toNats_decodedBytes (text : String) :
    toNats (decodedBytes text) = (Radix.convert 256 58 4 (base58Digits text)).reverse := by
  rw [decodedBytes, toNats, List.map_reverse, ← toNats, toNats_foldl toNats_mulAdd58]
  rfl

theorem bigEndian_eq (bytes : List UInt8) : bigEndian bytes = Nat.ofDigits 256 (toNats bytes).reverse := by
  rw [← Radix.foldl_eq_ofDigits, toNats, List.foldl_map]
  rfl

/-- The decoder computes the number of the text, with as few bytes as it has. -/
theorem isMinimal_decodedBytes (h : ∀ c ∈ text.toList, c ∈ base58Symbols) :
    IsMinimalBigEndian (decodedBytes text) (base58Value text) := by
  have hdigits : toNats (decodedBytes text) = (Nat.digits 256 (base58Value text)).reverse := by
    rw [toNats_decodedBytes, Radix.convert_eq (by decide) (by decide) (base58Digits_lt h), base58Value_eq]
  refine ⟨by rw [bigEndian_eq, hdigits, List.reverse_reverse, Nat.ofDigits_digits], fun hzero => ?_⟩
  refine Radix.head?_reverse_digits_ne_zero 256 (base58Value text) ?_
  rw [← hdigits, toNats, List.head?_map, hzero]
  rfl

/-- Encoding what was decoded. -/
theorem bs58Encode_decodedBytes (hne : text ≠ "") (h : IsBase58 text) :
    bs58Encode (decodedBytes text) = text := by
  have hround := @Radix.convert_convert 58 256 6 4 (by decide) (by decide) (by decide) (by decide) _
    (base58Digits_lt h.1) (base58Digits_head h)
  rw [← toNats_decodedBytes] at hround
  have hminimal := isMinimal_decodedBytes h.1
  rcases hbytes : decodedBytes text with _ | ⟨first, rest⟩
  · rw [hbytes] at hround
    have hnil : text.toList = [] := List.map_eq_nil_iff.1 hround.symm
    exact absurd (String.toList_inj.1 hnil) hne
  · rw [hbytes] at hround hminimal
    have hfirst : first ≠ 0 := fun h0 => hminimal.2 (by rw [h0]; rfl)
    rw [← toNats_bs58Digits hfirst] at hround
    have htext : (bs58Digits (first :: rest)).reverse.map (fun d => Char.ofNat (symbol d).toNat) =
        (base58Digits text).map fun n => Char.ofNat (BASE58_ALPHABET.getD n 0).toNat := by
      rw [← hround, toNats, ← List.map_reverse, List.map_map]
      rfl
    rw [bs58Encode_eq hfirst, htext, base58Digits, List.map_map, ← String.toList_inj, String.toList_ofList]
    exact (List.map_congr_left (g := id) fun c hc => (base58Symbols_facts c (h.1 c hc)).2.2.1).trans
      (List.map_id _)

/-! ## In `u32` arithmetic -/

section U32

variable {mode : Checked.Overflow} {base factor : Nat} {push : Nat → List UInt8}

/-- With digits below the base and a carry below the factor, every product and sum of a pass is below
    the product of the two. -/
theorem mulAddU32_eq (pass : List UInt8 → Nat → List UInt8) (hfits : base * factor ≤ 2 ^ 32)
    (hnil : ∀ c, pass [] c = push c)
    (hcons : ∀ d rest c, pass (d :: rest) c =
      UInt8.ofNat ((d.toNat * factor + c) % base) :: pass rest ((d.toNat * factor + c) / base))
    {digits : List UInt8} (hdigits : ∀ d ∈ digits, d.toNat < base) {c : Nat} (hc : c < factor) :
    mulAddU32 mode base factor push digits c = some (pass digits c) := by
  induction digits generalizing c with
  | nil => rw [mulAddU32, hnil]
  | cons d rest ih =>
    obtain ⟨hd, hrest⟩ := List.forall_mem_cons.1 hdigits
    have hacc : d.toNat * factor + c < 2 ^ 32 := by
      calc d.toNat * factor + c < d.toNat * factor + factor := by omega
        _ = (d.toNat + 1) * factor := by ring
        _ ≤ base * factor := Nat.mul_le_mul_right factor hd
        _ ≤ 2 ^ 32 := hfits
    have hproduct : Checked.mul 32 mode d.toNat factor = some (d.toNat * factor) :=
      Checked.fit_of_lt (by omega)
    have hsum : Checked.add 32 mode (d.toNat * factor) c = some (d.toNat * factor + c) :=
      Checked.fit_of_lt hacc
    simp only [mulAddU32, hproduct, hsum, Option.bind_eq_bind, Option.bind_some,
      ih hrest (Radix.carry_lt hd hc), hcons]
    rfl

theorem mulAdd58U32_eq (out : List UInt8) {c : Nat} (hc : c < 58) :
    mulAdd58U32 mode out c = some (mulAdd58 out c) := by
  have hbytes : ∀ d ∈ out, d.toNat < 256 := fun d _ => d.toNat_lt
  unfold mulAdd58U32
  exact mulAddU32_eq mulAdd58 (by decide) (fun _ => rfl) (fun _ _ _ => rfl) hbytes hc

theorem mulAdd256U32_eq {digits : List UInt8} (hdigits : ∀ d ∈ digits, d.toNat < 58) (b : UInt8) :
    mulAdd256U32 mode digits b.toNat = some (mulAdd256 digits b.toNat) := by
  have hcarry : b.toNat < 256 := b.toNat_lt
  unfold mulAdd256U32
  exact mulAddU32_eq mulAdd256 (by decide) (fun _ => rfl) (fun _ _ _ => rfl) hdigits hcarry

theorem bs58DecodeFromU32_eq (out bytes : List UInt8) :
    bs58DecodeFromU32 mode out bytes = some (bs58DecodeFrom out bytes) := by
  induction bytes generalizing out with
  | nil => rfl
  | cons byte rest ih =>
    rw [bs58DecodeFromU32, bs58DecodeFrom]
    split
    · rename_i hmem
      have hdigit : BASE58_ALPHABET.idxOf byte < 58 := List.idxOf_lt_length_of_mem hmem
      rw [mulAdd58U32_eq out hdigit, Option.bind_eq_bind, Option.bind_some, ih]
    · rfl

theorem bs58DecodeU32_eq (text : String) : bs58DecodeU32 mode text = some (bs58Decode text) := by
  rw [bs58DecodeU32, bs58Decode]
  split
  · rfl
  · split
    · rfl
    · rw [bs58DecodeFromU32_eq]
      rfl

theorem foldlM_mulAdd256U32 (bytes : List UInt8) {digits : List UInt8}
    (hdigits : ∀ d ∈ digits, d.toNat < 58) :
    bytes.foldlM (fun digits b => mulAdd256U32 mode digits b.toNat) digits =
      some (bytes.foldl (fun digits b => mulAdd256 digits b.toNat) digits) := by
  induction bytes generalizing digits with
  | nil => rfl
  | cons b bytes ih =>
    rw [List.foldlM_cons, mulAdd256U32_eq hdigits, Option.bind_eq_bind, Option.bind_some,
      ih (mulAdd256_lt digits b.toNat), List.foldl_cons]

/-- The digits are indices of the alphabet. -/
theorem mapM_alphabet {digits : List UInt8} (hdigits : ∀ d ∈ digits, d.toNat < 58) :
    (digits.mapM fun d => BASE58_ALPHABET[d.toNat]?) = some (digits.map symbol) := by
  induction digits with
  | nil => rfl
  | cons d digits ih =>
    obtain ⟨hd, hrest⟩ := List.forall_mem_cons.1 hdigits
    have hindex : d.toNat < BASE58_ALPHABET.length := hd
    have hget : BASE58_ALPHABET[d.toNat]? = some (symbol d) := by
      rw [symbol, List.getD_eq_getElem?_getD, List.getElem?_eq_getElem hindex, Option.getD_some]
    rw [List.mapM_cons, hget, ih hrest]
    rfl

theorem bs58EncodeU32_eq (bytes : List UInt8) : bs58EncodeU32 mode bytes = some (bs58Encode bytes) := by
  have hdigits : bytes.foldlM (fun digits b => mulAdd256U32 mode digits b.toNat) [0] =
      some (bs58Digits bytes) :=
    foldlM_mulAdd256U32 bytes (by simp)
  have hlt : ∀ d ∈ (bs58Digits bytes).reverse, d.toNat < 58 := fun d hd =>
    bs58Digits_lt bytes d (List.mem_reverse.1 hd)
  simp only [bs58EncodeU32, hdigits, Option.bind_eq_bind, Option.bind_some, mapM_alphabet hlt, List.map_map]
  rfl

end U32

/-- The codec is a bijection between the byte strings that do not start with 0 and the texts that do not
    start with the symbol of 0, through the number that both denote, and it never overflows. -/
theorem bs58_codec_bijective :
    (∀ (first : UInt8) (rest : List UInt8), first ≠ 0 →
      bs58Decode (bs58Encode (first :: rest)) = .ok (first :: rest)) ∧
    (∀ (text : String) (bytes : List UInt8), text ≠ "" → bs58Decode text = .ok bytes →
      bs58Encode bytes = text) ∧
    (∀ text : String, (∃ bytes, bs58Decode text = .ok bytes) ↔
      text = "" ∨ (∀ c ∈ text.toList, c ∈ base58Symbols) ∧ text.toList.head? ≠ some '1') ∧
    (∀ (text : String) (bytes : List UInt8), bs58Decode text = .ok bytes →
      IsMinimalBigEndian bytes (base58Value text)) ∧
    (∀ (mode : Checked.Overflow) (text : String),
      bs58DecodeU32 mode text = some (bs58Decode text)) ∧
    (∀ (mode : Checked.Overflow) (bytes : List UInt8),
      bs58EncodeU32 mode bytes = some (bs58Encode bytes)) ∧
    ∀ bytes : List UInt8, ∀ d ∈ bs58Digits bytes, d.toNat < 58 := by
  refine ⟨fun first rest hfirst => bs58Decode_bs58Encode hfirst, ?_, ?_, ?_, fun _ => bs58DecodeU32_eq,
    fun _ => bs58EncodeU32_eq, bs58Digits_lt⟩
  · intro text bytes hne h
    obtain ⟨htext, rfl⟩ := bs58Decode_eq_ok.1 h
    exact bs58Encode_decodedBytes hne htext
  · intro text
    constructor
    · rintro ⟨bytes, h⟩
      exact Or.inr (bs58Decode_eq_ok.1 h).1
    · rintro (rfl | htext)
      · exact ⟨[], rfl⟩
      · exact ⟨decodedBytes text, bs58Decode_eq_ok.2 ⟨htext, rfl⟩⟩
  · intro text bytes h
    obtain ⟨htext, rfl⟩ := bs58Decode_eq_ok.1 h
    exact isMinimal_decodedBytes htext.1

end Skyauth
