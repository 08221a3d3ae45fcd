import Skyauth.Lib.Hex

/-!
# Form data

The parser of `application/x-www-form-urlencoded` text. The pairs stand between ampersands; name and value
are cut at the first equals sign; a plus stands for a blank, and a percent sign with two hex digits for a
byte. A percent sign that stands otherwise is itself. The bytes of names and values are text in UTF-8; how
bytes that are none are read is left open.

An encoding of bytes is faithful if it keeps the separators out and the parser undoes it. The parser then
reads back the pairs that are written with it, whatever they are.
-/

namespace Form

/-- The byte of an escape, by its two digits. -/
def escaped (hi lo : UInt8) : Option UInt8 := do
  let high ← Hex.toDigit 16 (Char.ofNat hi.toNat)
  let low ← Hex.toDigit 16 (Char.ofNat lo.toNat)
  return UInt8.ofNat (16 * high + low)

def percentDecode : List UInt8 → List UInt8
  | b :: hi :: lo :: rest =>
    match if b = 37 then escaped hi lo else none with
    | some byte => byte :: percentDecode rest
    | none => b :: percentDecode (hi :: lo :: rest)
  | [b, c] => [b, c]
  | [b] => [b]
  | [] => []

def replacePlus (bytes : List UInt8) : List UInt8 := bytes.map fun b => if b = 43 then 32 else b

/-- The bytes that a name or value stands for. -/
def component (bytes : List UInt8) : List UInt8 := percentDecode (replacePlus bytes)

/-- A decoder that drops what is no UTF-8. -/
def utf8 (bytes : List UInt8) : String := (Text.fromUtf8 bytes).getD ""

theorem utf8_asBytes (text : String) : utf8 (Text.asBytes text) = text := by
  rw [utf8, Text.fromUtf8_asBytes, Option.getD_some]

/-- The name and the value of a piece. -/
def pair (lossy : List UInt8 → String) (piece : List UInt8) : String × String :=
  (lossy (component (piece.takeWhile (· ≠ 61))), lossy (component (piece.dropWhile (· ≠ 61)).tail))

/-- The pairs of a text, with the reading of bytes as text. -/
def parse (lossy : List UInt8 → String) (input : List UInt8) : List (String × String) :=
  ((input.splitOn 38).filter (· ≠ [])).map (pair lossy)

/-! ## Reading back -/

theorem percentDecode_cons {b : UInt8} (h : b ≠ 37) (rest : List UInt8) :
    percentDecode (b :: rest) = b :: percentDecode rest := by
  rcases rest with _ | ⟨hi, _ | ⟨lo, rest⟩⟩
  · rfl
  · rfl
  · rw [percentDecode, if_neg h]

theorem percentDecode_escaped {hi lo byte : UInt8} (h : escaped hi lo = some byte) (rest : List UInt8) :
    percentDecode (37 :: hi :: lo :: rest) = byte :: percentDecode rest := by
  rw [percentDecode, if_pos rfl, h]

theorem replacePlus_append (a b : List UInt8) : replacePlus (a ++ b) = replacePlus a ++ replacePlus b :=
  List.map_append

/-- An encoding of bytes that the parser undoes. -/
structure Faithful (encode : UInt8 → List UInt8) : Prop where
  no_separator : ∀ b, 38 ∉ encode b ∧ 61 ∉ encode b
  decodes : ∀ b rest, component (encode b ++ rest) = b :: component rest

/-- A pair as a piece. -/
def piece (encode : UInt8 → List UInt8) (p : String × String) : List UInt8 :=
  (Text.asBytes p.1).flatMap encode ++ 61 :: (Text.asBytes p.2).flatMap encode

/-- The text of some pairs. -/
def serialize (encode : UInt8 → List UInt8) (pairs : List (String × String)) : List UInt8 :=
  [38].intercalate (pairs.map (piece encode))

variable {encode : UInt8 → List UInt8} {lossy : List UInt8 → String}

theorem serialize_cons (p : String × String) (pairs : List (String × String)) :
    serialize encode (p :: pairs) = piece encode p ++ pairs.flatMap fun q => 38 :: piece encode q := by
  unfold serialize
  induction pairs generalizing p with
  | nil => simp
  | cons q pairs ih =>
    rw [List.map_cons, List.map_cons, List.intercalate_cons_cons, ← List.map_cons, ih q]
    simp

theorem Faithful.component_flatMap (h : Faithful encode) (bytes : List UInt8) :
    component (bytes.flatMap encode) = bytes := by
  induction bytes with
  | nil => rfl
  | cons b bytes ih => rw [List.flatMap_cons, h.decodes, ih]

theorem Faithful.notMem_flatMap (h : Faithful encode) (bytes : List UInt8) :
    38 ∉ bytes.flatMap encode ∧ 61 ∉ bytes.flatMap encode := by
  constructor
  · intro hmem
    obtain ⟨b, -, hb⟩ := List.mem_flatMap.1 hmem
    exact (h.no_separator b).1 hb
  · intro hmem
    obtain ⟨b, -, hb⟩ := List.mem_flatMap.1 hmem
    exact (h.no_separator b).2 hb

theorem Faithful.notMem_piece (h : Faithful encode) (p : String × String) : 38 ∉ piece encode p := by
  intro hmem
  rcases List.mem_append.1 hmem with hname | hvalue
  · exact (h.notMem_flatMap _).1 hname
  · rcases List.mem_cons.1 hvalue with heq | hvalue
    · exact absurd heq (by decide)
    · exact (h.notMem_flatMap _).1 hvalue

/-- A piece is read as the pair it was made of. -/
theorem Faithful.pair_piece (h : Faithful encode) (hlossy : ∀ s, lossy (Text.asBytes s) = s)
    (p : String × String) : pair lossy (piece encode p) = p := by
  have hname : ∀ b ∈ (Text.asBytes p.1).flatMap encode, decide (b ≠ 61) = true := by
    intro b hb
    rw [decide_eq_true_eq]
    rintro rfl
    exact (h.notMem_flatMap _).2 hb
  rw [pair, piece, List.takeWhile_append_of_pos hname, List.dropWhile_append_of_pos hname]
  simp [h.component_flatMap, hlossy]

/-- The pairs that are written are the pairs that are read. -/
theorem Faithful.parse_serialize (h : Faithful encode) (hlossy : ∀ s, lossy (Text.asBytes s) = s)
    (pairs : List (String × String)) : parse lossy (serialize encode pairs) = pairs := by
  cases pairs with
  | nil => rfl
  | cons p pairs =>
    have hfree : ∀ l ∈ (p :: pairs).map (piece encode), 38 ∉ l := by
      intro l hl
      obtain ⟨q, -, rfl⟩ := List.mem_map.1 hl
      exact h.notMem_piece q
    have hfilter : ((p :: pairs).map (piece encode)).filter (· ≠ []) = (p :: pairs).map (piece encode) := by
      refine List.filter_eq_self.2 fun l hl => ?_
      obtain ⟨q, -, rfl⟩ := List.mem_map.1 hl
      simp [piece]
    have hpair : (pair lossy ∘ piece encode) = id := funext (h.pair_piece hlossy)
    rw [parse, serialize, List.splitOn_intercalate _ hfree (by simp), hfilter, List.map_map, hpair,
      List.map_id]

end Form
