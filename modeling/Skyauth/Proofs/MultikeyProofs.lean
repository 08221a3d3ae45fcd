import Skyauth.Multikey
import Skyauth.Lib.Radix
import Skyauth.Proofs.RoundTripProofs

/-!
# Proofs: multikeys are read back, on their curve

The loops of `bs58_encode` and `bs58_decode` are passes of a change of base, from 256 to 58 and back. The
bytes of a multikey begin with a prefix that is not zero, so nothing is lost on the way, and the prefix
tells the curve.
-/

namespace Skyauth

/-! ## The passes -/

/-- Digits as numbers. -/
def toNats (digits : List UInt8) : List Nat := digits.map UInt8.toNat

theorem toNats_injective {a b : List UInt8} (h : toNats a = toNats b) : a = b :=
  List.map_injective_iff.2 (fun _ _ => UInt8.toNat_inj.1) h

theorem toNat_ofNat_mod {n m : Nat} (hpos : 0 < m) (hm : m ≤ 256) :
    (UInt8.ofNat (n % m)).toNat = n % m := by
  rw [UInt8.toNat_ofNat']
  exact Nat.mod_eq_of_lt (lt_of_lt_of_le (Nat.mod_lt n hpos) hm)

section Passes

/-! The two directions run the same loops over different bases; each fact is stated for any functions with
these recursions. -/

variable {base factor fuel : Nat}

theorem toNats_carry {carry : Nat → Nat → List UInt8} (hpos : 0 < base) (hbase : base ≤ 256)
    (hzero : ∀ c, carry 0 c = [])
    (hsucc : ∀ fuel c, carry (fuel + 1) c =
      if c = 0 then [] else UInt8.ofNat (c % base) :: carry fuel (c / base)) (fuel c : Nat) :
    toNats (carry fuel c) = Radix.carry base fuel c := by
  induction fuel generalizing c with
  | zero =>
    rw [hzero]
    rfl
  | succ fuel ih =>
    rw [hsucc, Radix.carry]
    by_cases h0 : c = 0
    · rw [if_pos h0, if_pos h0]
      rfl
    · rw [if_neg h0, if_neg h0, toNats, List.map_cons, toNat_ofNat_mod hpos hbase]
      exact congrArg _ (ih (c / base))

theorem toNats_mulAdd {pass : List UInt8 → Nat → List UInt8} (hpos : 0 < base) (hbase : base ≤ 256)
    (hnil : ∀ c, toNats (pass [] c) = Radix.carry base fuel c)
    (hcons : ∀ d rest c, pass (d :: rest) c =
      UInt8.ofNat ((d.toNat * factor + c) % base) :: pass rest ((d.toNat * factor + c) / base))
    (digits : List UInt8) (c : Nat) :
    toNats (pass digits c) = Radix.mulAdd base factor fuel (toNats digits) c := by
  induction digits generalizing c with
  | nil => exact hnil c
  | cons d rest ih =>
    rw [hcons, toNats, List.map_cons, toNat_ofNat_mod hpos hbase]
    exact congrArg _ (ih _)

theorem toNats_foldl {pass : List UInt8 → Nat → List UInt8}
    (hpass : ∀ digits c, toNats (pass digits c) = Radix.mulAdd base factor fuel (toNats digits) c)
    (ds : List Nat) (digits : List UInt8) :
    toNats (ds.foldl pass digits) = ds.foldl (Radix.mulAdd base factor fuel) (toNats digits) := by
  induction ds generalizing digits with
  | nil => rfl
  | cons d ds ih => rw [List.foldl_cons, ih, hpass, List.foldl_cons]

end Passes

theorem toNats_mulAdd58 (out : List UInt8) (c : Nat) :
    toNats (mulAdd58 out c) = Radix.mulAdd 256 58 4 (toNats out) c :=
  toNats_mulAdd (by decide) le_rfl
    (toNats_carry (by decide) le_rfl (fun _ => rfl) (fun _ _ => rfl) 4) (fun _ _ _ => rfl) out c

theorem toNats_mulAdd256 (digits : List UInt8) (c : Nat) :
    toNats (mulAdd256 digits c) = Radix.mulAdd 58 256 6 (toNats digits) c :=
  toNats_mulAdd (by decide) (by decide)
    (toNats_carry (by decide) (by decide) (fun _ => rfl) (fun _ _ => rfl) 6) (fun _ _ _ => rfl) digits c

/-! ## Encoding -/

/-- The digits of `bs58_encode`, lowest first. -/
def bs58Digits (bytes : List UInt8) : List UInt8 :=
  bytes.foldl (fun digits b => mulAdd256 digits b.toNat) [0]

theorem mulAdd256_lt (digits : List UInt8) (c : Nat) : ∀ d ∈ mulAdd256 digits c, d.toNat < 58 := by
  intro d hd
  have hmem : d.toNat ∈ toNats (mulAdd256 digits c) := List.mem_map_of_mem hd
  rw [toNats_mulAdd256] at hmem
  exact Radix.lt_of_mem_mulAdd (by decide) _ hmem

/-- Every digit that is stored is one of the alphabet. -/
theorem bs58Digits_lt (bytes : List UInt8) : ∀ d ∈ bs58Digits bytes, d.toNat < 58 := by
  induction bytes using List.reverseRecOn with
  | nil => simp [bs58Digits]
  | append_singleton bytes b _ =>
    rw [bs58Digits, List.foldl_append]
    exact mulAdd256_lt _ _

/-- The loop starts from the digit 0 and not from no digits; after a first byte that is not 0 there is
    no difference. -/
theorem toNats_bs58Digits {first : UInt8} {rest : List UInt8} (hfirst : first ≠ 0) :
    toNats (bs58Digits (first :: rest)) = Radix.convert 58 256 6 (toNats (first :: rest)) := by
  have hpos : 0 < first.toNat := Nat.pos_of_ne_zero fun h => hfirst (UInt8.toNat_inj.1 h)
  have hlt : first.toNat < 256 := first.toNat_lt
  have hstart : Radix.mulAdd 58 256 6 [0] first.toNat = Nat.digits 58 first.toNat := by
    have hcarry : Radix.carry 58 6 (first.toNat / 58) = Nat.digits 58 (first.toNat / 58) :=
      Radix.carry_eq_digits (by decide) (lt_of_le_of_lt (Nat.div_le_self _ _)
        (lt_trans hlt (by decide)))
    rw [Nat.digits_def' (by decide) hpos, ← hcarry]
    simp [Radix.mulAdd]
  have hempty : Radix.mulAdd 58 256 6 [] first.toNat = Nat.digits 58 first.toNat :=
    Radix.carry_eq_digits (by decide) (lt_trans hlt (by decide))
  rw [bs58Digits, ← List.foldl_map (f := UInt8.toNat) (g := mulAdd256), toNats_foldl toNats_mulAdd256,
    Radix.convert]
  show (toNats rest).foldl _ (Radix.mulAdd 58 256 6 [0] first.toNat) =
    (toNats rest).foldl _ (Radix.mulAdd 58 256 6 [] first.toNat)
  rw [hstart, hempty]

/-! ## The alphabet -/

/-- The symbol of a digit. -/
def symbol (d : UInt8) : UInt8 := BASE58_ALPHABET.getD d.toNat 0

theorem symbol_facts : ∀ n < 58, (BASE58_ALPHABET.getD n 0).toNat < 128 ∧
    BASE58_ALPHABET.getD n 0 ∈ BASE58_ALPHABET ∧ BASE58_ALPHABET.idxOf (BASE58_ALPHABET.getD n 0) = n ∧
    (n ≠ 0 → BASE58_ALPHABET.getD n 0 ≠ 49) := by
  decide +kernel

/-- Reading symbols adds their digits one after the other. -/
theorem bs58DecodeFrom_symbols {ds : List UInt8} (hds : ∀ d ∈ ds, d.toNat < 58) (out : List UInt8) :
    bs58DecodeFrom out (ds.map symbol) = .ok (ds.foldl (fun out d => mulAdd58 out d.toNat) out) := by
  induction ds generalizing out with
  | nil => rfl
  | cons d ds ih =>
    obtain ⟨hd, hrest⟩ := List.forall_mem_cons.1 hds
    obtain ⟨-, hmem, hidx, -⟩ := symbol_facts d.toNat hd
    rw [List.map_cons, bs58DecodeFrom, if_pos (show symbol d ∈ BASE58_ALPHABET from hmem), ih hrest,
      List.foldl_cons, show BASE58_ALPHABET.idxOf (symbol d) = d.toNat from hidx]

/-! ## Base 58 is read back -/

section

variable {first : UInt8} {rest : List UInt8}

theorem toNats_lt (bytes : List UInt8) : ∀ n ∈ toNats bytes, n < 256 := by
  intro n hn
  obtain ⟨b, -, rfl⟩ := List.mem_map.1 hn
  exact b.toNat_lt

/-- The digits as `Nat.digits` gives them. -/
theorem toNats_bs58Digits_eq (hfirst : first ≠ 0) : toNats (bs58Digits (first :: rest)) =
    Nat.digits 58 (Nat.ofDigits 256 (toNats (first :: rest)).reverse) := by
  rw [toNats_bs58Digits hfirst, Radix.convert_eq (by decide) (by decide) (toNats_lt _)]

/-- Changing the base there and back. -/
theorem foldl_mulAdd58_bs58Digits (hfirst : first ≠ 0) :
    (((bs58Digits (first :: rest)).reverse).foldl (fun out d => mulAdd58 out d.toNat) []).reverse =
      first :: rest := by
  apply toNats_injective
  have hlead : ∀ d, (toNats (first :: rest)).head? = some d → d ≠ 0 := by
    rintro d hd rfl
    exact hfirst (UInt8.toNat_inj.1 (Option.some.inj hd))
  have hround := @Radix.convert_convert 256 58 4 6 (by decide) (by decide) (by decide) (by decide) _
    (toNats_lt (first :: rest)) hlead
  rw [← toNats_bs58Digits hfirst] at hround
  rw [toNats, List.map_reverse, ← toNats, ← List.foldl_map (f := UInt8.toNat) (g := mulAdd58),
    toNats_foldl toNats_mulAdd58]
  simpa [toNats, Radix.convert] using hround

/-- The highest digit is not 0. -/
theorem bs58Digits_reverse (hfirst : first ≠ 0) :
    ∃ d ds, (bs58Digits (first :: rest)).reverse = d :: ds ∧ d ≠ 0 := by
  have hround := @foldl_mulAdd58_bs58Digits first rest hfirst
  rcases hrev : (bs58Digits (first :: rest)).reverse with _ | ⟨d, ds⟩
  · rw [hrev] at hround
    cases hround
  · refine ⟨d, ds, rfl, ?_⟩
    rintro rfl
    refine Radix.head?_reverse_digits_ne_zero 58 (Nat.ofDigits 256 (toNats (first :: rest)).reverse) ?_
    rw [← toNats_bs58Digits_eq hfirst, toNats, ← List.map_reverse, hrev]
    rfl

/-- The text of the digits, highest first. -/
theorem bs58Encode_eq (hfirst : first ≠ 0) : bs58Encode (first :: rest) =
    String.ofList ((bs58Digits (first :: rest)).reverse.map fun d => Char.ofNat (symbol d).toNat) := by
  have hzeros : (first :: rest).takeWhile (· == 0) = [] := by simp [hfirst]
  simp only [bs58Encode, hzeros, List.map_nil, List.nil_append]
  rfl

theorem toNat_ofNat_symbol {d : UInt8} (hd : d.toNat < 58) :
    (Char.ofNat (symbol d).toNat).toNat = (symbol d).toNat := by
  have hlt : (symbol d).toNat < 128 := (symbol_facts d.toNat hd).1
  rw [Char.ofNat, dif_pos (Or.inl (by omega))]
  rfl

theorem asBytes_bs58Encode (hfirst : first ≠ 0) :
    Text.asBytes (bs58Encode (first :: rest)) = (bs58Digits (first :: rest)).reverse.map symbol := by
  have hlt : ∀ d ∈ (bs58Digits (first :: rest)).reverse, d.toNat < 58 := fun d hd =>
    bs58Digits_lt _ d (List.mem_reverse.1 hd)
  have hascii : ∀ c ∈ (bs58Encode (first :: rest)).toList, c.toNat < 128 := by
    intro c hc
    rw [bs58Encode_eq hfirst, String.toList_ofList] at hc
    obtain ⟨d, hd, rfl⟩ := List.mem_map.1 hc
    rw [toNat_ofNat_symbol (hlt d hd)]
    exact (symbol_facts d.toNat (hlt d hd)).1
  rw [Text.asBytes_of_ascii hascii, bs58Encode_eq hfirst, String.toList_ofList, List.map_map]
  refine List.map_congr_left fun d hd => ?_
  rw [Function.comp_apply, toNat_ofNat_symbol (hlt d hd), UInt8.ofNat_toNat]

theorem bs58Decode_bs58Encode (hfirst : first ≠ 0) :
    bs58Decode (bs58Encode (first :: rest)) = .ok (first :: rest) := by
  obtain ⟨d, ds, hrev, hd⟩ := @bs58Digits_reverse first rest hfirst
  have hlt : ∀ d ∈ (bs58Digits (first :: rest)).reverse, d.toNat < 58 := fun d hd =>
    bs58Digits_lt _ d (List.mem_reverse.1 hd)
  have hdlt : d.toNat < 58 := hlt d (by rw [hrev]; exact List.mem_cons_self ..)
  have htext : (bs58Encode (first :: rest)).toList = Char.ofNat (symbol d).toNat ::
      ds.map fun d => Char.ofNat (symbol d).toNat := by
    rw [bs58Encode_eq hfirst, hrev, String.toList_ofList, List.map_cons]
  have hne : bs58Encode (first :: rest) ≠ "" := by
    intro h
    rw [h] at htext
    cases htext
  have hone : Text.startsWith (bs58Encode (first :: rest)) "1" = false := by
    rw [Text.startsWith, htext]
    have hchar : Char.ofNat (symbol d).toNat ≠ '1' := by
      intro h
      have hcode := congrArg Char.toNat h
      rw [toNat_ofNat_symbol hdlt] at hcode
      refine (symbol_facts d.toNat hdlt).2.2.2 (fun h0 => hd (UInt8.toNat_inj.1 h0)) ?_
      exact UInt8.toNat_inj.1 hcode
    simp [List.isPrefixOf, hchar.symm]
  rw [bs58Decode, if_neg hne, hone, if_neg (by decide), asBytes_bs58Encode hfirst,
    bs58DecodeFrom_symbols hlt]
  exact congrArg Except.ok (foldl_mulAdd58_bs58Digits hfirst)

/-- A text of base 58 digits behind the letter `z`. -/
theorem decodeMultikey_bs58Encode (X : ServiceCrates) (hfirst : first ≠ 0) :
    decodeMultikey X ("z" ++ bs58Encode (first :: rest)) = .ok (first :: rest) := by
  obtain ⟨d, ds, hrev, -⟩ := @bs58Digits_reverse first rest hfirst
  have hbytes : Text.asBytes ("z" ++ bs58Encode (first :: rest)) =
      122 :: symbol d :: ds.map symbol := by
    rw [Text.asBytes_append, asBytes_bs58Encode hfirst, hrev]
    rfl
  have hafter : afterMultibase ("z" ++ bs58Encode (first :: rest)) = bs58Encode (first :: rest) := by
    rw [← String.toList_inj, afterMultibase]
    simp
  have hhead : (first :: rest).head? ≠ some 0x00 := by simpa using hfirst
  simp only [decodeMultikey, hbytes, hafter, if_true, bs58Decode_bs58Encode hfirst, Fallible.ok_bind,
    if_neg hhead]
  rfl

end

/-! ## Curves -/

/-- A compressed SEC1 key. -/
def IsCompressedKey (k : List UInt8) : Prop := k.length = 33 ∧ (k.head? = some 2 ∨ k.head? = some 3)

/-- The prefixes of the keys of a curve: the varint code, and for secp256k1 its first byte alone. -/
def MultikeyPrefix (curve : UInt8) ( pre : List UInt8) : Prop :=
  curve = CURVE_SECP256K1 ∧ (pre = MULTIKEY_SECP256K1_VARINT ∨ pre = [MULTIKEY_SECP256K1_LEGACY_PREFIX]) ∨
    curve = CURVE_P256 ∧ pre = MULTIKEY_P256_VARINT

/-- Every compressed key has a point with that form. -/
theorem exists_compressedSec1 {k : List UInt8} (hk : IsCompressedKey k) :
    ∃ x y, x.length = 32 ∧ y.length = 32 ∧ compressedSec1 x y = k := by
  obtain ⟨hlen, hhead⟩ := hk
  rcases k with _ | ⟨tag, x⟩
  · simp at hlen
  have hx : x.length = 32 := by simpa using hlen
  rcases hhead with h | h
  · obtain rfl : tag = 2 := Option.some.inj h
    exact ⟨x, List.replicate 32 0, hx, rfl, rfl⟩
  · obtain rfl : tag = 3 := Option.some.inj h
    exact ⟨x, List.replicate 32 1, hx, rfl, rfl⟩

theorem isCompressedKey_cons {tag : UInt8} {x : List UInt8} :
    IsCompressedKey (tag :: x) ↔ x.length = 32 ∧ (tag = 2 ∨ tag = 3) := by
  simp [IsCompressedKey]

section Kernels

variable {b0 b1 b2 : UInt8}

theorem kernels_varint (htag : b2 = 2 ∨ b2 = 3) :
    classifyMultikeyHeader 35 0xe7 0x01 b2 = CURVE_SECP256K1 ∧ multikeySec1Offset 35 0xe7 0x01 b2 = 2 := by
  rcases htag with rfl | rfl <;> decide

theorem kernels_legacy (htag : b1 = 2 ∨ b1 = 3) :
    classifyMultikeyHeader 34 0xe7 b1 b2 = CURVE_SECP256K1 ∧ multikeySec1Offset 34 0xe7 b1 b2 = 1 := by
  rcases htag with rfl | rfl <;> simp [classifyMultikeyHeader, multikeySec1Offset, CURVE_SECP256K1]

theorem kernels_p256 (htag : b2 = 2 ∨ b2 = 3) :
    classifyMultikeyHeader 35 0x80 0x24 b2 = CURVE_P256 ∧ multikeySec1Offset 35 0x80 0x24 b2 = 2 := by
  rcases htag with rfl | rfl <;> decide

/-- The kernel names a curve in these three cases only. -/
theorem classifyMultikeyHeader_ne_none {len : Nat}
    (h : classifyMultikeyHeader len b0 b1 b2 ≠ CURVE_NONE) :
    len = 35 ∧ b0 = 0xe7 ∧ b1 = 0x01 ∧ (b2 = 2 ∨ b2 = 3) ∨
      len = 34 ∧ b0 = 0xe7 ∧ (b1 = 2 ∨ b1 = 3) ∨
      len = 35 ∧ b0 = 0x80 ∧ b1 = 0x24 ∧ (b2 = 2 ∨ b2 = 3) := by
  unfold classifyMultikeyHeader at h
  simp only [Bool.or_eq_true, Bool.and_eq_true, beq_iff_eq, and_assoc] at h
  split at h
  · rename_i hsecp
    exact hsecp.imp_right Or.inl
  · split at h
    · rename_i hp256
      exact Or.inr (Or.inr hp256)
    · exact absurd rfl h

/-- What the kernels say decides what is read. -/
theorem classifyMultikeyBytes_of_kernels {rest : List UInt8} {len offset : Nat} {curve : UInt8}
    (hlen : (b0 :: b1 :: b2 :: rest).length = len) (hcurve : curve ≠ CURVE_NONE) (hoffset : offset ≠ 0)
    (h : classifyMultikeyHeader len b0 b1 b2 = curve ∧ multikeySec1Offset len b0 b1 b2 = offset) :
    classifyMultikeyBytes (b0 :: b1 :: b2 :: rest) =
      some (curve, (b0 :: b1 :: b2 :: rest).drop offset) := by
  simp only [classifyMultikeyBytes, hlen, h.1, h.2]
  exact if_neg (not_or.2 ⟨hcurve, hoffset⟩)

end Kernels

/-- A prefix of a curve before a compressed key is read as such. -/
theorem classifyMultikeyBytes_append {k pre : List UInt8} {curve : UInt8}
    (hpre : MultikeyPrefix curve pre) (hk : IsCompressedKey k) :
    classifyMultikeyBytes (pre ++ k) = some (curve, k) := by
  rcases k with _ | ⟨tag, _ | ⟨x0, x⟩⟩
  · simp [IsCompressedKey] at hk
  · simp [IsCompressedKey] at hk
  obtain ⟨hlen, htag⟩ := isCompressedKey_cons.1 hk
  rw [List.length_cons] at hlen
  rcases hpre with ⟨rfl, rfl | rfl⟩ | ⟨rfl, rfl⟩
  · exact classifyMultikeyBytes_of_kernels (by simp [hlen]) (by decide) (by decide) (kernels_varint htag)
  · exact classifyMultikeyBytes_of_kernels (by simp [hlen]) (by decide) (by decide) (kernels_legacy htag)
  · exact classifyMultikeyBytes_of_kernels (by simp [hlen]) (by decide) (by decide) (kernels_p256 htag)

/-- Bytes that are read as a key of a curve are a prefix of the curve before that key. -/
theorem eq_append_of_classifyMultikeyBytes {bytes k : List UInt8} {curve : UInt8}
    (h : classifyMultikeyBytes bytes = some (curve, k)) :
    ∃ pre, MultikeyPrefix curve pre ∧ IsCompressedKey k ∧ bytes = pre ++ k := by
  rcases bytes with _ | ⟨b0, _ | ⟨b1, _ | ⟨b2, rest⟩⟩⟩
  · cases h
  · cases h
  · cases h
  have hcurve : classifyMultikeyHeader (b0 :: b1 :: b2 :: rest).length b0 b1 b2 ≠ CURVE_NONE := by
    intro hnone
    simp only [classifyMultikeyBytes, hnone, true_or, if_true, reduceCtorEq] at h
  -- in each of the three cases the bytes are a prefix before a compressed key, which is read as such
  obtain ⟨pre, curve', k', hpre, hk, hbytes⟩ : ∃ pre curve' k', MultikeyPrefix curve' pre ∧
      IsCompressedKey k' ∧ b0 :: b1 :: b2 :: rest = pre ++ k' := by
    rcases classifyMultikeyHeader_ne_none hcurve with ⟨hlen, rfl, rfl, htag⟩ | ⟨hlen, rfl, htag⟩ |
      ⟨hlen, rfl, rfl, htag⟩
    · exact ⟨_, _, b2 :: rest, Or.inl ⟨rfl, Or.inl rfl⟩,
        isCompressedKey_cons.2 ⟨by simpa using hlen, htag⟩, rfl⟩
    · exact ⟨_, _, b1 :: b2 :: rest, Or.inl ⟨rfl, Or.inr rfl⟩,
        isCompressedKey_cons.2 ⟨by simpa using hlen, htag⟩, rfl⟩
    · exact ⟨_, _, b2 :: rest, Or.inr ⟨rfl, rfl⟩,
        isCompressedKey_cons.2 ⟨by simpa using hlen, htag⟩, rfl⟩
  rw [hbytes, classifyMultikeyBytes_append hpre hk] at h
  obtain ⟨rfl, rfl⟩ := Prod.mk.inj (Option.some.inj h)
  exact ⟨pre, hpre, hk, hbytes⟩

/-- Multikeys are unambiguous. A key that is encoded for a curve is decoded to that curve and that key,
    and bytes that are read as a key of a curve are a prefix of that curve before the key, which they are
    in one way only. -/
theorem multikey_round_trip (X : ServiceCrates) :
    (∀ k, IsCompressedKey k →
      (∃ key : Secp256k1VerifyingKey, compressedSec1 key.x key.y = k) ∧
      (∃ key : VerifyingKey, compressedSec1 key.x key.y = k) ∧
      (∀ key : Secp256k1VerifyingKey, compressedSec1 key.x key.y = k →
        (decodeMultikey X (encodeMultikeySecp256k1 key)).map classifyMultikeyBytes =
          .ok (some (CURVE_SECP256K1, k))) ∧
      ∀ key : VerifyingKey, compressedSec1 key.x key.y = k →
        (decodeMultikey X (encodeMultikeyP256 key)).map classifyMultikeyBytes =
          .ok (some (CURVE_P256, k))) ∧
    ∀ s bytes curve k, decodeMultikey X s = .ok bytes → classifyMultikeyBytes bytes = some (curve, k) →
      ∃ pre, MultikeyPrefix curve pre ∧ IsCompressedKey k ∧ bytes = pre ++ k ∧
        ∀ curve' pre' k', MultikeyPrefix curve' pre' → IsCompressedKey k' → bytes = pre' ++ k' →
          curve' = curve ∧ k' = k := by
  refine ⟨fun k hk => ⟨?_, ?_, ?_, ?_⟩, ?_⟩
  · obtain ⟨x, y, hx, hy, rfl⟩ := exists_compressedSec1 hk
    exact ⟨⟨x, y, hx, hy⟩, rfl⟩
  · obtain ⟨x, y, hx, hy, rfl⟩ := exists_compressedSec1 hk
    exact ⟨⟨x, y, hx, hy⟩, rfl⟩
  · rintro key rfl
    have hread := classifyMultikeyBytes_append (Or.inl ⟨rfl, Or.inl rfl⟩) hk
    rw [encodeMultikeySecp256k1, MULTIKEY_SECP256K1_VARINT, List.cons_append,
      decodeMultikey_bs58Encode X (by decide)]
    exact congrArg Except.ok hread
  · rintro key rfl
    have hread := classifyMultikeyBytes_append (Or.inr ⟨rfl, rfl⟩) hk
    rw [encodeMultikeyP256, MULTIKEY_P256_VARINT, List.cons_append,
      decodeMultikey_bs58Encode X (by decide)]
    exact congrArg Except.ok hread
  · intro s bytes curve k _ h
    obtain ⟨pre, hpre, hk, hbytes⟩ := eq_append_of_classifyMultikeyBytes h
    refine ⟨pre, hpre, hk, hbytes, fun curve' pre' k' hpre' hk' hbytes' => ?_⟩
    rw [hbytes', classifyMultikeyBytes_append hpre' hk'] at h
    exact Prod.mk.inj (Option.some.inj h)

end Skyauth
