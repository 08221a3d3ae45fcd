import Skyauth.Lib.Text
import Mathlib.Tactic.NormNum
import Mathlib.Data.UInt

/-!
# Base64

The URL-safe alphabet: encoding without padding, and the two strict decoders: the one that requires
the absence of padding and the one that requires canonical padding. Both reject symbols outside the
alphabet, impossible lengths and a last symbol whose unused bits are not zero. The decoders undo the
encoder, and what they accept is what the encoder writes.

The standard alphabet has two other symbols, and is used with padding.
-/

namespace Base64

/-- The symbol of a six-bit value in the URL-safe alphabet. -/
def encodeSymbol (n : Nat) : Char :=
  if n < 26 then Char.ofNat (n + 65)
  else if n < 52 then Char.ofNat (n + 71)
  else if n < 62 then Char.ofNat (n - 4)
  else if n = 62 then '-'
  else '_'

/-- The six-bit value of a symbol. -/
def decodeSymbol (c : Char) : Option Nat :=
  let n := c.toNat
  if 65 ≤ n ∧ n ≤ 90 then some (n - 65)
  else if 97 ≤ n ∧ n ≤ 122 then some (n - 71)
  else if 48 ≤ n ∧ n ≤ 57 then some (n + 4)
  else if c = '-' then some 62
  else if c = '_' then some 63
  else none

/-- Unpadded encoding, three bytes at a time. -/
def encodeChars : List UInt8 → List Char
  | a :: b :: c :: rest =>
    encodeSymbol (a.toNat / 4) ::
    encodeSymbol (a.toNat % 4 * 16 + b.toNat / 16) ::
    encodeSymbol (b.toNat % 16 * 4 + c.toNat / 64) ::
    encodeSymbol (c.toNat % 64) :: encodeChars rest
  | [a, b] =>
    [encodeSymbol (a.toNat / 4), encodeSymbol (a.toNat % 4 * 16 + b.toNat / 16),
      encodeSymbol (b.toNat % 16 * 4)]
  | [a] => [encodeSymbol (a.toNat / 4), encodeSymbol (a.toNat % 4 * 16)]
  | [] => []

/-- The byte with the given value. -/
def byte (n : Nat) : UInt8 := UInt8.ofNat n

/-- Decoding of text without padding, four symbols at a time. -/
def decodeChars : List Char → Option (List UInt8)
  | w :: x :: y :: z :: rest => do
    let w ← decodeSymbol w
    let x ← decodeSymbol x
    let y ← decodeSymbol y
    let z ← decodeSymbol z
    let tail ← decodeChars rest
    return byte (w * 4 + x / 16) :: byte (x % 16 * 16 + y / 4) :: byte (y % 4 * 64 + z) :: tail
  | [w, x, y] => do
    let w ← decodeSymbol w
    let x ← decodeSymbol x
    let y ← decodeSymbol y
    if y % 4 = 0 then return [byte (w * 4 + x / 16), byte (x % 16 * 16 + y / 4)] else none
  | [w, x] => do
    let w ← decodeSymbol w
    let x ← decodeSymbol x
    if x % 16 = 0 then return [byte (w * 4 + x / 16)] else none
  | [_] => none
  | [] => some []

/-- Unpadded URL-safe encoding. -/
def encode (data : List UInt8) : String := String.ofList (encodeChars data)

/-- The decoder that requires the absence of padding. -/
def decodeNoPad (s : String) : Option (List UInt8) := decodeChars s.toList

/-- The decoder that requires canonical padding: the text is filled up with `=` to a multiple of
    four symbols. -/
def decodePadded (s : String) : Option (List UInt8) :=
  let body := s.toList.rdropWhile (· = '=')
  let pad := s.toList.length - body.length
  if s.toList.length % 4 = 0 ∧ pad ≤ 2 then decodeChars body else none

/-- Text filled up with `=` to a multiple of four symbols. -/
def pad (symbols : List Char) : List Char :=
  symbols ++ List.replicate ((4 - symbols.length % 4) % 4) '='

/-- Exchanges the symbols in which the two alphabets differ. -/
def swapSymbol (c : Char) : Char :=
  if c = '-' then '+'
  else if c = '+' then '-'
  else if c = '_' then '/'
  else if c = '/' then '_'
  else c

/-- Padded encoding in the standard alphabet. -/
def encodeStandard (data : List UInt8) : String :=
  String.ofList ((pad (encodeChars data)).map swapSymbol)

/-- The decoder of the standard alphabet, which requires canonical padding. -/
def decodeStandard (s : String) : Option (List UInt8) :=
  decodePadded (String.ofList (s.toList.map swapSymbol))

/-! ## The decoders undo the encoder -/

theorem decodeSymbol_encodeSymbol {n : Nat} (h : n < 64) : decodeSymbol (encodeSymbol n) = some n := by
  have : ∀ m : Fin 64, decodeSymbol (encodeSymbol m) = some m.val := by decide
  exact this ⟨n, h⟩

theorem byte_eq {n : Nat} {b : UInt8} (h : n = b.toNat) : byte n = b := by
  rw [h, byte, UInt8.ofNat_toNat]

theorem decodeChars_encodeChars (data : List UInt8) : decodeChars (encodeChars data) = some data := by
  induction data using encodeChars.induct with
  | case1 a b c rest ih =>
    have ha := a.toNat_lt
    have hb := b.toNat_lt
    have hc := c.toNat_lt
    have h1 : a.toNat / 4 * 4 + (a.toNat % 4 * 16 + b.toNat / 16) / 16 = a.toNat := by omega
    have h2 : (a.toNat % 4 * 16 + b.toNat / 16) % 16 * 16 + (b.toNat % 16 * 4 + c.toNat / 64) / 4 =
        b.toNat := by omega
    have h3 : (b.toNat % 16 * 4 + c.toNat / 64) % 4 * 64 + c.toNat % 64 = c.toNat := by omega
    simp only [encodeChars, decodeChars]
    rw [decodeSymbol_encodeSymbol (by omega), decodeSymbol_encodeSymbol (by omega),
      decodeSymbol_encodeSymbol (by omega), decodeSymbol_encodeSymbol (by omega), ih]
    simp only [Option.bind_eq_bind, Option.bind_some, Option.pure_def, byte_eq h1, byte_eq h2, byte_eq h3]
  | case2 a b =>
    have ha := a.toNat_lt
    have hb := b.toNat_lt
    have h1 : a.toNat / 4 * 4 + (a.toNat % 4 * 16 + b.toNat / 16) / 16 = a.toNat := by omega
    have h2 : (a.toNat % 4 * 16 + b.toNat / 16) % 16 * 16 + (b.toNat % 16 * 4) / 4 = b.toNat := by omega
    simp only [encodeChars, decodeChars]
    rw [decodeSymbol_encodeSymbol (by omega), decodeSymbol_encodeSymbol (by omega),
      decodeSymbol_encodeSymbol (by omega)]
    simp only [Option.bind_eq_bind, Option.bind_some, Option.pure_def, byte_eq h1, byte_eq h2,
      if_true, show b.toNat % 16 * 4 % 4 = 0 by omega]
  | case3 a =>
    have ha := a.toNat_lt
    have h1 : a.toNat / 4 * 4 + (a.toNat % 4 * 16) / 16 = a.toNat := by omega
    simp only [encodeChars, decodeChars]
    rw [decodeSymbol_encodeSymbol (by omega), decodeSymbol_encodeSymbol (by omega)]
    simp only [Option.bind_eq_bind, Option.bind_some, Option.pure_def, byte_eq h1, Nat.mul_mod_left,
      if_true]
  | case4 => rfl

theorem decodeNoPad_encode (data : List UInt8) : decodeNoPad (encode data) = some data := by
  rw [decodeNoPad, encode, String.toList_ofList, decodeChars_encodeChars]

/-- Six bits a symbol. -/
theorem length_encodeChars (data : List UInt8) :
    (encodeChars data).length = (data.length * 4 + 2) / 3 := by
  induction data using encodeChars.induct with
  | case1 a b c rest ih =>
    simp only [encodeChars, List.length_cons, ih]
    omega
  | case2 a b => simp [encodeChars]
  | case3 a => simp [encodeChars]
  | case4 => simp [encodeChars]

theorem length_encode (data : List UInt8) :
    (encode data).toList.length = (data.length * 4 + 2) / 3 := by
  rw [encode, String.toList_ofList, length_encodeChars]

/-! ## The alphabet -/

/-- The symbols of the URL-safe alphabet. -/
def isSymbol (c : Char) : Bool := (decodeSymbol c).isSome

theorem isSymbol_encodeSymbol {n : Nat} (h : n < 64) : isSymbol (encodeSymbol n) = true := by
  rw [isSymbol, decodeSymbol_encodeSymbol h]
  rfl

theorem isSymbol_of_mem_encodeChars (data : List UInt8) :
    ∀ c ∈ encodeChars data, isSymbol c = true := by
  induction data using encodeChars.induct with
  | case1 a b c rest ih =>
    have ha := a.toNat_lt
    have hb := b.toNat_lt
    have hc := c.toNat_lt
    intro ch hch
    simp only [encodeChars, List.mem_cons] at hch
    rcases hch with rfl | rfl | rfl | rfl | hch
    · exact isSymbol_encodeSymbol (by omega)
    · exact isSymbol_encodeSymbol (by omega)
    · exact isSymbol_encodeSymbol (by omega)
    · exact isSymbol_encodeSymbol (by omega)
    · exact ih ch hch
  | case2 a b =>
    have ha := a.toNat_lt
    have hb := b.toNat_lt
    intro ch hch
    simp only [encodeChars, List.mem_cons, List.not_mem_nil, or_false] at hch
    rcases hch with rfl | rfl | rfl <;> exact isSymbol_encodeSymbol (by omega)
  | case3 a =>
    have ha := a.toNat_lt
    intro ch hch
    simp only [encodeChars, List.mem_cons, List.not_mem_nil, or_false] at hch
    rcases hch with rfl | rfl <;> exact isSymbol_encodeSymbol (by omega)
  | case4 => intro ch hch; simp [encodeChars] at hch

theorem isSymbol_of_mem_encode {data : List UInt8} {c : Char} (h : c ∈ (encode data).toList) :
    isSymbol c = true := by
  rw [encode, String.toList_ofList] at h
  exact isSymbol_of_mem_encodeChars data c h

/-- Symbols are visible ASCII characters. -/
theorem visible_of_isSymbol {c : Char} (h : isSymbol c = true) : 33 ≤ c.toNat ∧ c.toNat ≤ 126 := by
  unfold isSymbol decodeSymbol at h
  simp only [] at h
  split at h
  · omega
  · split at h
    · omega
    · split at h
      · omega
      · split at h
        · rename_i hc; subst hc; decide
        · split at h
          · rename_i hc; subst hc; decide
          · simp at h

/-- Each symbol is one byte. -/
theorem asBytes_encode (data : List UInt8) :
    Text.asBytes (encode data) = (encode data).toList.map fun c => UInt8.ofNat c.toNat :=
  Text.asBytes_of_ascii fun _ hc => by
    have hvisible := visible_of_isSymbol (isSymbol_of_mem_encode hc)
    omega

theorem length_asBytes_encode (data : List UInt8) :
    (Text.asBytes (encode data)).length = (data.length * 4 + 2) / 3 := by
  rw [asBytes_encode, List.length_map, length_encode]

theorem not_isWhitespace_of_visible {c : Char} (h : 33 ≤ c.toNat ∧ c.toNat ≤ 126) :
    Text.isWhitespace c = false := by
  unfold Text.isWhitespace
  simp only [Bool.or_eq_false_iff, Bool.and_eq_false_iff, decide_eq_false_iff_not, beq_eq_false_iff_ne]
  omega

/-! ## What the decoders accept -/

/-- A symbol is the symbol of its value. -/
theorem decodeSymbol_eq_some {c : Char} {n : Nat} (h : decodeSymbol c = some n) :
    n < 64 ∧ encodeSymbol n = c := by
  have hof : ∀ k, k = c.toNat → Char.ofNat k = c := by
    rintro k rfl
    exact Char.ofNat_toNat c
  simp only [decodeSymbol] at h
  split at h
  · cases h
    refine ⟨by omega, ?_⟩
    rw [encodeSymbol, if_pos (by omega)]
    exact hof _ (by omega)
  · split at h
    · cases h
      refine ⟨by omega, ?_⟩
      rw [encodeSymbol, if_neg (by omega), if_pos (by omega)]
      exact hof _ (by omega)
    · split at h
      · cases h
        refine ⟨by omega, ?_⟩
        rw [encodeSymbol, if_neg (by omega), if_neg (by omega), if_pos (by omega)]
        exact hof _ (by omega)
      · split at h
        · rename_i hc
          cases h
          exact ⟨by decide, hc.symm⟩
        · split at h
          · rename_i hc
            cases h
            exact ⟨by decide, hc.symm⟩
          · cases h

theorem toNat_byte {n : Nat} (h : n < 256) : (byte n).toNat = n := by
  rw [byte, UInt8.toNat_ofNat', Nat.mod_eq_of_lt h]

/-- Only the encoding of some bytes is decoded to them: there is no second spelling. -/
theorem decodeChars_eq_some {cs : List Char} {data : List UInt8} (h : decodeChars cs = some data) :
    cs = encodeChars data := by
  induction cs using decodeChars.induct generalizing data with
  | case1 w x y z rest ih =>
    simp only [decodeChars, Option.bind_eq_bind, Option.bind_eq_some_iff, Option.pure_def,
      Option.some.injEq] at h
    obtain ⟨w', hw, x', hx, y', hy, z', hz, tail, htail, rfl⟩ := h
    obtain ⟨hw64, rfl⟩ := decodeSymbol_eq_some hw
    obtain ⟨hx64, rfl⟩ := decodeSymbol_eq_some hx
    obtain ⟨hy64, rfl⟩ := decodeSymbol_eq_some hy
    obtain ⟨hz64, rfl⟩ := decodeSymbol_eq_some hz
    simp only [encodeChars, toNat_byte (show w' * 4 + x' / 16 < 256 by omega),
      toNat_byte (show x' % 16 * 16 + y' / 4 < 256 by omega),
      toNat_byte (show y' % 4 * 64 + z' < 256 by omega), ih htail,
      show (w' * 4 + x' / 16) / 4 = w' by omega,
      show (w' * 4 + x' / 16) % 4 * 16 + (x' % 16 * 16 + y' / 4) / 16 = x' by omega,
      show (x' % 16 * 16 + y' / 4) % 16 * 4 + (y' % 4 * 64 + z') / 64 = y' by omega,
      show (y' % 4 * 64 + z') % 64 = z' by omega]
  | case2 w x y =>
    simp only [decodeChars, Option.bind_eq_bind, Option.bind_eq_some_iff] at h
    obtain ⟨w', hw, x', hx, y', hy, h⟩ := h
    obtain ⟨hw64, rfl⟩ := decodeSymbol_eq_some hw
    obtain ⟨hx64, rfl⟩ := decodeSymbol_eq_some hx
    obtain ⟨hy64, rfl⟩ := decodeSymbol_eq_some hy
    split at h
    · cases h
      simp only [encodeChars, toNat_byte (show w' * 4 + x' / 16 < 256 by omega),
        toNat_byte (show x' % 16 * 16 + y' / 4 < 256 by omega),
        show (w' * 4 + x' / 16) / 4 = w' by omega,
        show (w' * 4 + x' / 16) % 4 * 16 + (x' % 16 * 16 + y' / 4) / 16 = x' by omega,
        show (x' % 16 * 16 + y' / 4) % 16 * 4 = y' by omega]
    · cases h
  | case3 w x =>
    simp only [decodeChars, Option.bind_eq_bind, Option.bind_eq_some_iff] at h
    obtain ⟨w', hw, x', hx, h⟩ := h
    obtain ⟨hw64, rfl⟩ := decodeSymbol_eq_some hw
    obtain ⟨hx64, rfl⟩ := decodeSymbol_eq_some hx
    split at h
    · cases h
      simp only [encodeChars, toNat_byte (show w' * 4 + x' / 16 < 256 by omega),
        show (w' * 4 + x' / 16) / 4 = w' by omega,
        show (w' * 4 + x' / 16) % 4 * 16 = x' by omega]
    · cases h
  | case4 w => cases h
  | case5 =>
    cases h
    rfl

theorem decodeNoPad_eq_some {s : String} {data : List UInt8} (h : decodeNoPad s = some data) :
    s = encode data := by
  rw [encode, ← decodeChars_eq_some h, String.ofList_toList]

/-! ## Padding -/

theorem ne_pad_of_mem_encodeChars {data : List UInt8} {c : Char} (h : c ∈ encodeChars data) : c ≠ '=' := by
  rintro rfl
  exact absurd (isSymbol_of_mem_encodeChars data _ h) (by decide)

theorem rdropWhile_pad (data : List UInt8) :
    (pad (encodeChars data)).rdropWhile (· = '=') = encodeChars data := by
  have hpad : ∀ c ∈ List.replicate ((4 - (encodeChars data).length % 4) % 4) '=',
      decide (c = '=') = true := by
    intro c hc
    rw [List.eq_of_mem_replicate hc]
    rfl
  rw [pad, Text.rdropWhile_append_of_pos hpad]
  exact Text.rdropWhile_eq_self_of_all_not fun c hc =>
    decide_eq_false (ne_pad_of_mem_encodeChars hc)

/-- The decoder that requires padding undoes the encoder that pads. -/
theorem decodePadded_pad (data : List UInt8) :
    decodePadded (String.ofList (pad (encodeChars data))) = some data := by
  have hlength := length_encodeChars data
  simp only [decodePadded, String.toList_ofList, rdropWhile_pad]
  rw [if_pos, decodeChars_encodeChars]
  rw [pad, List.length_append, List.length_replicate]
  omega

/-- What it accepts is the encoding, padded. -/
theorem decodePadded_eq_some {s : String} {data : List UInt8} (h : decodePadded s = some data) :
    s.toList = pad (encodeChars data) := by
  simp only [decodePadded] at h
  split at h
  · rename_i hcond
    have hbody := decodeChars_eq_some h
    have hsplit : s.toList.rdropWhile (· = '=') ++ s.toList.rtakeWhile (· = '=') = s.toList :=
      List.rdropWhile_append_rtakeWhile
    have hfill : s.toList.rtakeWhile (· = '=') =
        List.replicate (s.toList.rtakeWhile (· = '=')).length '=' :=
      Text.rtakeWhile_eq_replicate (fun c hc => of_decide_eq_true hc) _
    have hlength := congrArg List.length hsplit
    rw [List.length_append] at hlength
    rw [hbody] at hsplit hlength hcond
    rw [pad, ← hsplit]
    nth_rewrite 1 [hfill]
    congr 2
    omega
  · cases h

theorem swapSymbol_swapSymbol (c : Char) : swapSymbol (swapSymbol c) = c := by
  unfold swapSymbol
  split_ifs <;> simp_all

theorem decodeStandard_encodeStandard (data : List UInt8) :
    decodeStandard (encodeStandard data) = some data := by
  have hswap : ((pad (encodeChars data)).map swapSymbol).map swapSymbol = pad (encodeChars data) := by
    rw [List.map_map]
    exact List.map_id'' swapSymbol_swapSymbol _
  rw [decodeStandard, encodeStandard, String.toList_ofList, hswap, decodePadded_pad]

theorem visible_of_mem_encodeStandard {data : List UInt8} {c : Char}
    (h : c ∈ (encodeStandard data).toList) : 33 ≤ c.toNat ∧ c.toNat ≤ 126 := by
  rw [encodeStandard, String.toList_ofList] at h
  obtain ⟨symbol, hsymbol, rfl⟩ := List.mem_map.1 h
  have hvisible : 33 ≤ symbol.toNat ∧ symbol.toNat ≤ 126 := by
    rcases List.mem_append.1 hsymbol with hmem | hmem
    · exact visible_of_isSymbol (isSymbol_of_mem_encodeChars data symbol hmem)
    · rw [List.eq_of_mem_replicate hmem]
      decide
  unfold swapSymbol
  split_ifs
  · decide
  · decide
  · decide
  · decide
  · exact hvisible

/-- Encoded text has no whitespace, so trimming leaves it alone. -/
theorem trim_encode (data : List UInt8) : Text.trim (encode data) = encode data :=
  Text.trim_eq_self fun _ hc =>
    not_isWhitespace_of_visible (visible_of_isSymbol (isSymbol_of_mem_encode hc))

end Base64
