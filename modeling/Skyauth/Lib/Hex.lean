import Skyauth.Lib.Text
import Mathlib.Tactic.SplitIfs

/-!
# Hexadecimal text

Bytes as pairs of hex digits, in either case of the letters, and the strict decoder. The decoder undoes
both encoders, and two texts that it accepts give the same bytes exactly when they are equal but for
the case of the letters.

`u8FromStrRadix` is how a byte is read from text that is taken to be a number: it allows a sign in
front of the digits, so that of the texts of two bytes it accepts more than the pairs of digits.
-/

namespace Hex

/-! ## Digits -/

/-- The value of a digit in a radix of at most 36 (`char::to_digit`). -/
def toDigit (radix : Nat) (c : Char) : Option Nat :=
  let n := c.toNat
  let d := if 48 ≤ n ∧ n ≤ 57 then n - 48
    else if 97 ≤ n ∧ n ≤ 122 then n - 87
    else if 65 ≤ n ∧ n ≤ 90 then n - 55
    else radix
  if d < radix then some d else none

/-- The digits of base 16. -/
def isHexDigit (c : Char) : Bool := (toDigit 16 c).isSome

/-- The digit of a value below 16. -/
def digit (upper : Bool) (n : Nat) : Char :=
  if n < 10 then Char.ofNat (n + 48) else Char.ofNat (n + if upper then 55 else 87)

/-! ## Bytes -/

/-- Two digits for each byte, the high one first. -/
def encode (upper : Bool) (data : List UInt8) : String :=
  String.ofList (data.flatMap fun b => [digit upper (b.toNat / 16), digit upper (b.toNat % 16)])

/-- The strict decoder. -/
def decode : List Char → Option (List UInt8)
  | hi :: lo :: rest => do
    let high ← toDigit 16 hi
    let low ← toDigit 16 lo
    let tail ← decode rest
    return UInt8.ofNat (16 * high + low) :: tail
  | [_] => none
  | [] => some []

/-! ## Numbers -/

/-- Why a text is no number (`IntErrorKind`). -/
inductive IntErrorKind where
  | empty
  | invalidDigit
  | posOverflow
  deriving Repr, DecidableEq

def IntErrorKind.display : IntErrorKind → String
  | empty => "cannot parse integer from empty string"
  | invalidDigit => "invalid digit found in string"
  | posOverflow => "number too large to fit in target type"

/-- The loop over the digits of a `u8`. -/
def readDigits (radix : Nat) : Nat → List UInt8 → Except IntErrorKind UInt8
  | result, [] => .ok (UInt8.ofNat result)
  | result, b :: rest =>
    match toDigit radix (Char.ofNat b.toNat) with
    | none => .error .invalidDigit
    | some d =>
      if 255 < result * radix + d then .error .posOverflow else readDigits radix (result * radix + d) rest

/-- `u8::from_str_radix`: a sign `+` may stand before the digits. -/
def u8FromStrRadix (src : String) (radix : Nat) : Except IntErrorKind UInt8 :=
  match Text.asBytes src with
  | [] => .error .empty
  | [b] =>
    if b.toNat = '+'.toNat ∨ b.toNat = '-'.toNat then .error .invalidDigit else readDigits radix 0 [b]
  | b :: rest => readDigits radix 0 (if b.toNat = '+'.toNat then rest else b :: rest)

/-! ## The decoder undoes the encoders -/

theorem toDigit_digit (upper : Bool) {n : Nat} (h : n < 16) : toDigit 16 (digit upper n) = some n := by
  have hall : ∀ m : Fin 16, toDigit 16 (digit upper m) = some m.val := by
    cases upper <;> decide
  exact hall ⟨n, h⟩

/-- A digit is, but for its case, the digit of its value. -/
theorem toDigit_eq_some {c : Char} {d : Nat} (h : toDigit 16 c = some d) :
    d < 16 ∧ c.toNat < 128 ∧ c.toLower = digit false d := by
  have hof : ∀ k, k = c.toLower.toNat → c.toLower = Char.ofNat k := by
    rintro k rfl
    exact (Char.ofNat_toNat _).symm
  have hlower := Text.toNat_toLower c
  rw [toDigit, Option.ite_none_right_eq_some, Option.some.injEq] at h
  obtain ⟨hlt, rfl⟩ := h
  refine ⟨hlt, ?_⟩
  split_ifs at hlt ⊢ with h1 h2 h3
  · refine ⟨by omega, ?_⟩
    rw [digit, if_pos (by omega)]
    rw [if_neg (by omega)] at hlower
    exact hof _ (by omega)
  · refine ⟨by omega, ?_⟩
    rw [digit, if_neg (by omega)]
    rw [if_neg (by omega)] at hlower
    refine hof _ ?_
    simp only [Bool.false_eq_true, if_false]
    omega
  · refine ⟨by omega, ?_⟩
    rw [digit, if_neg (by omega)]
    rw [if_pos (by omega)] at hlower
    refine hof _ ?_
    simp only [Bool.false_eq_true, if_false]
    omega
  · omega

theorem decode_encode (upper : Bool) (data : List UInt8) :
    decode (encode upper data).toList = some data := by
  rw [encode, String.toList_ofList]
  induction data with
  | nil => rfl
  | cons b rest ih =>
    have hb := b.toNat_lt
    have hbyte : 16 * (b.toNat / 16) + b.toNat % 16 = b.toNat := Nat.div_add_mod b.toNat 16
    simp only [List.flatMap_cons, List.cons_append, List.nil_append, decode]
    rw [toDigit_digit upper (by omega), toDigit_digit upper (by omega), ih]
    simp only [Option.bind_eq_bind, Option.bind_some, Option.pure_def, hbyte, UInt8.ofNat_toNat]

theorem length_encode (upper : Bool) (data : List UInt8) :
    (encode upper data).toList.length = 2 * data.length := by
  rw [encode, String.toList_ofList]
  induction data with
  | nil => rfl
  | cons b rest ih =>
    simp only [List.flatMap_cons, List.length_append, List.length_cons, List.length_nil, ih]
    omega

/-! ## What the decoder accepts -/

/-- Text that is decoded is, but for its case, what the encoder writes. -/
theorem decode_eq_some {cs : List Char} {data : List UInt8} (h : decode cs = some data) :
    cs.map Char.toLower = (encode false data).toList := by
  rw [encode, String.toList_ofList]
  induction cs using decode.induct generalizing data with
  | case1 hi lo rest ih =>
    simp only [decode, Option.bind_eq_bind, Option.bind_eq_some_iff, Option.pure_def,
      Option.some.injEq] at h
    obtain ⟨high, hhigh, low, hlow, tail, htail, rfl⟩ := h
    obtain ⟨hhigh16, -, hhi⟩ := toDigit_eq_some hhigh
    obtain ⟨hlow16, -, hlo⟩ := toDigit_eq_some hlow
    have hbyte : (UInt8.ofNat (16 * high + low)).toNat = 16 * high + low := by
      rw [UInt8.toNat_ofNat', Nat.mod_eq_of_lt (by omega)]
    have hdiv : (16 * high + low) / 16 = high := by omega
    have hmod : (16 * high + low) % 16 = low := by omega
    rw [List.map_cons, List.map_cons, ih htail, hhi, hlo, List.flatMap_cons, hbyte, hdiv, hmod]
    rfl
  | case2 c => cases h
  | case3 =>
    cases h
    rfl

/-- Two texts give the same bytes if they are equal but for their case, and only then. -/
theorem decode_inj {cs cs' : List Char} {data data' : List UInt8} (h : decode cs = some data)
    (h' : decode cs' = some data') :
    data = data' ↔ cs.map Char.toLower = cs'.map Char.toLower := by
  rw [decode_eq_some h, decode_eq_some h']
  constructor
  · rintro rfl
    rfl
  · intro heq
    have hdecode := decode_encode false data
    rw [heq, decode_encode] at hdecode
    exact (Option.some.inj hdecode).symm

theorem length_of_decode {cs : List Char} {data : List UInt8} (h : decode cs = some data) :
    cs.length = 2 * data.length := by
  rw [← length_encode false data, ← decode_eq_some h, List.length_map]

theorem isHexDigit_of_decode {cs : List Char} {data : List UInt8} (h : decode cs = some data) :
    ∀ c ∈ cs, isHexDigit c = true := by
  induction cs using decode.induct generalizing data with
  | case1 hi lo rest ih =>
    simp only [decode, Option.bind_eq_bind, Option.bind_eq_some_iff] at h
    obtain ⟨high, hhigh, low, hlow, tail, htail, -⟩ := h
    intro c hc
    rcases List.mem_cons.1 hc with rfl | hc
    · rw [isHexDigit, hhigh]
      rfl
    · rcases List.mem_cons.1 hc with rfl | hc
      · rw [isHexDigit, hlow]
        rfl
      · exact ih htail c hc
  | case2 c => cases h
  | case3 => exact fun c hc => absurd hc List.not_mem_nil

/-- An even number of digits is decoded. -/
theorem exists_decode {cs : List Char} (heven : cs.length % 2 = 0) (h : ∀ c ∈ cs, isHexDigit c = true) :
    ∃ data, decode cs = some data := by
  induction cs using decode.induct with
  | case1 hi lo rest ih =>
    simp only [List.forall_mem_cons] at h
    obtain ⟨high, hhigh⟩ := Option.isSome_iff_exists.1 h.1
    obtain ⟨low, hlow⟩ := Option.isSome_iff_exists.1 h.2.1
    obtain ⟨tail, htail⟩ := ih (by simp only [List.length_cons] at heven; omega) h.2.2
    refine ⟨UInt8.ofNat (16 * high + low) :: tail, ?_⟩
    rw [decode, hhigh, hlow, htail]
    rfl
  | case2 c => cases heven
  | case3 => exact ⟨[], rfl⟩

/-! ## A byte as a number -/

/-- The value of the first character of a pair that is read as a number. -/
def leadDigit (c : Char) : Option Nat := if c = '+' then some 0 else toDigit 16 c

theorem leadDigit_lt {c : Char} {d : Nat} (h : leadDigit c = some d) : d < 16 ∧ c.toNat < 128 := by
  unfold leadDigit at h
  split at h
  · rename_i hc
    cases h
    exact ⟨by decide, by rw [hc]; decide⟩
  · exact ⟨(toDigit_eq_some h).1, (toDigit_eq_some h).2.1⟩

/-- A byte as a character (`as char`). -/
theorem toNat_charOf (b : UInt8) : (Char.ofNat b.toNat).toNat = b.toNat := by
  have hvalid : b.toNat.isValidChar := Or.inl (by have := b.toNat_lt; omega)
  rw [Char.ofNat, dif_pos hvalid]
  rfl

theorem charOf_eq_plus {b : UInt8} : b.toNat = '+'.toNat ↔ Char.ofNat b.toNat = '+' := by
  constructor
  · intro h
    rw [h]
    rfl
  · intro h
    rw [← h, toNat_charOf]

/-- Of the texts of two bytes, those are read that are two digits, or a sign and a digit. -/
theorem u8FromStrRadix_pair {src : String} {a b v : UInt8} (h : Text.asBytes src = [a, b]) :
    u8FromStrRadix src 16 = .ok v ↔ ∃ high low, leadDigit (Char.ofNat a.toNat) = some high ∧
      toDigit 16 (Char.ofNat b.toNat) = some low ∧ v = UInt8.ofNat (16 * high + low) := by
  simp only [u8FromStrRadix, h, leadDigit, charOf_eq_plus]
  split_ifs with hsign
  · simp only [Option.some.injEq, readDigits]
    cases hlow : toDigit 16 (Char.ofNat b.toNat) with
    | none => simp
    | some low =>
      have hlt := (toDigit_eq_some hlow).1
      simp only [Nat.zero_mul, Nat.zero_add]
      rw [if_neg (by omega)]
      constructor
      · intro hv
        cases hv
        exact ⟨0, low, rfl, rfl, by rw [Nat.mul_zero, Nat.zero_add]⟩
      · rintro ⟨_, _, rfl, hlow', rfl⟩
        cases hlow'
        rw [Nat.mul_zero, Nat.zero_add]
  · simp only [readDigits]
    cases hhigh : toDigit 16 (Char.ofNat a.toNat) with
    | none => simp
    | some high =>
      have hhigh16 := (toDigit_eq_some hhigh).1
      simp only [Nat.zero_mul, Nat.zero_add]
      rw [if_neg (by omega)]
      cases hlow : toDigit 16 (Char.ofNat b.toNat) with
      | none => simp
      | some low =>
        have hlow16 := (toDigit_eq_some hlow).1
        simp only []
        rw [if_neg (by omega), Nat.mul_comm high 16]
        constructor
        · intro hv
          cases hv
          exact ⟨high, low, rfl, rfl, rfl⟩
        · rintro ⟨_, _, hhigh', hlow', rfl⟩
          cases hhigh'
          cases hlow'
          rfl

end Hex
