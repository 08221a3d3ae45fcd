import Skyauth.Identity
import Skyauth.Lib.Checked

/-!
# Multikeys

The public keys of a DID document (`src/service_auth.rs` with the kernels of
`src/kernels/service_auth_bytes.rs`): their multibase text, the base-58 codec, and the prefix that
tells the curve.
-/

namespace Skyauth

/-! ## Kernels -/

def CURVE_NONE : UInt8 := 0

def CURVE_SECP256K1 : UInt8 := 1

def CURVE_P256 : UInt8 := 2

def ALG_NONE : UInt8 := 0

def ALG_ES256K : UInt8 := 1

def ALG_ES256 : UInt8 := 2

def classifyMultikeyHeader (len : Nat) (b0 b1 b2 : UInt8) : UInt8 :=
  if (len == 35 && b0 == 0xe7 && b1 == 0x01 && (b2 == 0x02 || b2 == 0x03)) ||
      (len == 34 && b0 == 0xe7 && (b1 == 0x02 || b1 == 0x03)) then 1
  else if len == 35 && b0 == 0x80 && b1 == 0x24 && (b2 == 0x02 || b2 == 0x03) then 2
  else 0

def multikeySec1Offset (len : Nat) (b0 b1 b2 : UInt8) : Nat :=
  if len == 35 && (b2 == 0x02 || b2 == 0x03) &&
      ((b0 == 0xe7 && b1 == 0x01) || (b0 == 0x80 && b1 == 0x24)) then 2
  else if len == 34 && b0 == 0xe7 && (b1 == 0x02 || b1 == 0x03) then 1
  else 0

def isAlgBoundToCurve (curveId algId : UInt8) : Bool :=
  (curveId == 1 && algId == 1) || (curveId == 2 && algId == 2)

/-- The expiry with the leeway, in machine numbers. -/
def isServiceJwtExpValid (exp nowSecs leewaySecs : UInt64) : Bool :=
  if exp > 0xffffffffffffffff - leewaySecs then true else nowSecs ≤ exp + leewaySecs

/-- The curve of a key and its SEC1 bytes. -/
def classifyMultikeyBytes : List UInt8 → Option (UInt8 × List UInt8)
  | b0 :: b1 :: b2 :: rest =>
    let bytes := b0 :: b1 :: b2 :: rest
    let curve := classifyMultikeyHeader bytes.length b0 b1 b2
    let offset := multikeySec1Offset bytes.length b0 b1 b2
    if curve = CURVE_NONE ∨ offset = 0 then none else some (curve, bytes.drop offset)
  | _ => none

def algIdFromStr (alg : String) : UInt8 :=
  if alg = "ES256K" then ALG_ES256K else if alg = "ES256" then ALG_ES256 else ALG_NONE

/-! ## Base 58 -/

def BASE58_ALPHABET : List UInt8 :=
  Text.asBytes "123456789ABCDEFGHJKLMNPQRSTUVWXYZabcdefghijkmnopqrstuvwxyz"

/-- A byte as `{:#04x}` prints it. -/
def hexByte (b : UInt8) : String :=
  "0x" ++ String.ofList [Nat.digitChar (b.toNat / 16), Nat.digitChar (b.toNat % 16)]

/-- The bytes of a carry, lowest first; a `u32` has at most four (`while carry > 0`). -/
def carryBytes : Nat → Nat → List UInt8
  | 0, _ => []
  | fuel + 1, carry =>
    if carry = 0 then [] else UInt8.ofNat (carry % 256) :: carryBytes fuel (carry / 256)

/-- The number times 58 plus the carry, lowest byte first. -/
def mulAdd58 : List UInt8 → Nat → List UInt8
  | [], carry => carryBytes 4 carry
  | b :: rest, carry =>
    let acc := b.toNat * 58 + carry
    UInt8.ofNat (acc % 256) :: mulAdd58 rest (acc / 256)

/-- The loop of `bs58_decode`. -/
def bs58DecodeFrom (out : List UInt8) : List UInt8 → Except CryptoError (List UInt8)
  | [] => .ok out
  | byte :: rest =>
    if byte ∈ BASE58_ALPHABET then bs58DecodeFrom (mulAdd58 out (BASE58_ALPHABET.idxOf byte)) rest
    else .error (.invalidKey ("Invalid base58 character " ++ hexByte byte))

def bs58Decode (input : String) : Except CryptoError (List UInt8) :=
  if input = "" then .ok []
  else if Text.startsWith input "1" then
    .error (.invalidKey "Malformed base58 key: leading zero byte")
  else (bs58DecodeFrom [] (Text.asBytes input)).map List.reverse

/-- The base-58 digits of a carry, lowest first; a `u32` has at most six. -/
def carryDigits : Nat → Nat → List UInt8
  | 0, _ => []
  | fuel + 1, carry =>
    if carry = 0 then [] else UInt8.ofNat (carry % 58) :: carryDigits fuel (carry / 58)

/-- The number times 256 plus the carry, lowest digit first. -/
def mulAdd256 : List UInt8 → Nat → List UInt8
  | [], carry => carryDigits 6 carry
  | d :: rest, carry =>
    let val := d.toNat * 256 + carry
    UInt8.ofNat (val % 58) :: mulAdd256 rest (val / 58)

def bs58Encode (bytes : List UInt8) : String :=
  let digits := bytes.foldl (fun digits b => mulAdd256 digits b.toNat) [0]
  let zeros := (bytes.takeWhile (· == 0)).map fun _ => '1'
  String.ofList (zeros ++ digits.reverse.map fun d =>
    Char.ofNat ((BASE58_ALPHABET.getD d.toNat 0).toNat))

/-! ### In `u32` arithmetic

The functions above compute with numbers of any size. Here the products and sums are those of `u32`, and
the place of a symbol is an index into the alphabet. -/

/-- One pass over the digits of a number: each times `factor` plus the carry, with `push` for what is left
    of the carry. -/
def mulAddU32 (mode : Checked.Overflow) (base factor : Nat) (push : Nat → List UInt8) :
    List UInt8 → Nat → Option (List UInt8)
  | [], carry => some (push carry)
  | d :: rest, carry => do
    let product ← Checked.mul 32 mode d.toNat factor
    let acc ← Checked.add 32 mode product carry
    let rest ← mulAddU32 mode base factor push rest (acc / base)
    return UInt8.ofNat (acc % base) :: rest

def mulAdd58U32 (mode : Checked.Overflow) : List UInt8 → Nat → Option (List UInt8) :=
  mulAddU32 mode 256 58 (carryBytes 4)

def mulAdd256U32 (mode : Checked.Overflow) : List UInt8 → Nat → Option (List UInt8) :=
  mulAddU32 mode 58 256 (carryDigits 6)

def bs58DecodeFromU32 (mode : Checked.Overflow) (out : List UInt8) :
    List UInt8 → Option (Except CryptoError (List UInt8))
  | [] => some (.ok out)
  | byte :: rest =>
    if byte ∈ BASE58_ALPHABET then do
      let out ← mulAdd58U32 mode out (BASE58_ALPHABET.idxOf byte)
      bs58DecodeFromU32 mode out rest
    else some (.error (.invalidKey ("Invalid base58 character " ++ hexByte byte)))

/-- `bs58_decode`, or `none` if it panics. -/
def bs58DecodeU32 (mode : Checked.Overflow) (input : String) : Option (Except CryptoError (List UInt8)) :=
  if input = "" then some (.ok [])
  else if Text.startsWith input "1" then
    some (.error (.invalidKey "Malformed base58 key: leading zero byte"))
  else do
    let result ← bs58DecodeFromU32 mode [] (Text.asBytes input)
    return result.map List.reverse

/-- `bs58_encode`, or `none` if it panics. -/
def bs58EncodeU32 (mode : Checked.Overflow) (bytes : List UInt8) : Option String := do
  let digits ← bytes.foldlM (fun digits b => mulAdd256U32 mode digits b.toNat) [0]
  let zeros := (bytes.takeWhile (· == 0)).map fun _ => '1'
  let symbols ← digits.reverse.mapM fun d => BASE58_ALPHABET[d.toNat]?
  return String.ofList (zeros ++ symbols.map fun b => Char.ofNat b.toNat)

/-! ## Keys -/

/-- A secp256k1 public key, given by its affine coordinates. -/
structure Secp256k1VerifyingKey where
  x : List UInt8
  y : List UInt8
  x_length : x.length = 32
  y_length : y.length = 32

theorem Secp256k1VerifyingKey.eq_iff {a b : Secp256k1VerifyingKey} : a.x = b.x ∧ a.y = b.y ↔ a = b := by
  cases a
  cases b
  simp

instance : DecidableEq Secp256k1VerifyingKey := fun _ _ =>
  decidable_of_iff _ Secp256k1VerifyingKey.eq_iff

/-- What service authentication takes from outside besides the functions of `Crates`. -/
structure ServiceCrates extends Crates where
  /-- `k256::ecdsa::VerifyingKey::from_sec1_bytes`. -/
  k256FromSec1Bytes : List UInt8 → Except String Secp256k1VerifyingKey
  /-- `k256::ecdsa::Signature::from_slice`. -/
  k256SignatureFromSlice : List UInt8 → Except String Unit
  /-- `Verifier::verify` of a secp256k1 key. -/
  k256Verify : Secp256k1VerifyingKey → List UInt8 → List UInt8 → Except String Unit
  /-- The text of the decoding error of the unpadded Base64 engine. -/
  base64NoPadError : String → String

/-- The signing key of a DID document (`AtprotoVerifyingKey`). -/
inductive AtprotoVerifyingKey where
  | secp256k1 (key : Secp256k1VerifyingKey)
  | p256 (key : VerifyingKey)
  deriving DecidableEq

def AtprotoVerifyingKey.curveId : AtprotoVerifyingKey → UInt8
  | secp256k1 _ => CURVE_SECP256K1
  | p256 _ => CURVE_P256

def MULTIKEY_SECP256K1_VARINT : List UInt8 := [0xe7, 0x01]

def MULTIKEY_SECP256K1_LEGACY_PREFIX : UInt8 := 0xe7

def MULTIKEY_P256_VARINT : List UInt8 := [0x80, 0x24]

def COMPRESSED_EC_PUBLIC_KEY_LEN : Nat := 33

/-- The text without its first character, which is one byte long. -/
def afterMultibase (multibase : String) : String := String.ofList (multibase.toList.drop 1)

def decodeMultikey (X : ServiceCrates) (multibase : String) : Except CryptoError (List UInt8) := do
  match Text.asBytes multibase with
  | first :: _ :: _ =>
    let decoded ←
      if first = 122 then bs58Decode (afterMultibase multibase)
      else if first = 117 then
        match Base64.decodeNoPad (afterMultibase multibase) with
        | some bytes => .ok bytes
        | none =>
          .error (.base64Decode ("Malformed base64url multibase: " ++
            X.base64NoPadError (afterMultibase multibase)))
      else .error (.invalidKey ("Unsupported multibase prefix byte " ++ hexByte first))
    return if decoded.head? = some 0x00 then decoded.tail else decoded
  | _ => .error (.invalidKey "Malformed multibase key: too short")

/-- The compressed SEC1 form of a point. -/
def compressedSec1 (x y : List UInt8) : List UInt8 :=
  (if (y.getLastD 0).toNat % 2 = 0 then 0x02 else 0x03) :: x

def encodeMultikeySecp256k1 (key : Secp256k1VerifyingKey) : String :=
  "z" ++ bs58Encode (MULTIKEY_SECP256K1_VARINT ++ compressedSec1 key.x key.y)

def encodeMultikeyP256 (key : VerifyingKey) : String :=
  "z" ++ bs58Encode (MULTIKEY_P256_VARINT ++ compressedSec1 key.x key.y)

/-- A list of bytes as `{:?}` prints it. -/
def debugBytes (bytes : List UInt8) : String :=
  "[" ++ String.intercalate ", " (bytes.map fun b => toString b.toNat) ++ "]"

/-- The error for bytes that no curve is read from. -/
def multikeyError (methodId : String) (keyBytes : List UInt8) : CryptoError :=
  if (MULTIKEY_SECP256K1_VARINT.isPrefixOf keyBytes &&
        keyBytes.length == MULTIKEY_SECP256K1_VARINT.length + COMPRESSED_EC_PUBLIC_KEY_LEN) ||
      (keyBytes.head? == some MULTIKEY_SECP256K1_LEGACY_PREFIX &&
        keyBytes.length == 1 + COMPRESSED_EC_PUBLIC_KEY_LEN) then
    .invalidKey ("Invalid secp256k1 public key in '" ++ methodId ++
      "': invalid compressed SEC1 tag byte")
  else if MULTIKEY_P256_VARINT.isPrefixOf keyBytes &&
      keyBytes.length == MULTIKEY_P256_VARINT.length + COMPRESSED_EC_PUBLIC_KEY_LEN then
    .invalidKey ("Invalid P-256 public key in '" ++ methodId ++ "': invalid compressed SEC1 tag byte")
  else
    .invalidKey ("Verification method '" ++ methodId ++ "' is not a secp256k1 or P-256 Multikey (len " ++
      toString keyBytes.length ++ ", prefix " ++ debugBytes (keyBytes.take 2) ++ ")")

/-- The key of these bytes, which the kernel has classified or not. -/
def keyOfBytes (X : ServiceCrates) (methodId : String) (keyBytes : List UInt8) :
    Except CryptoError AtprotoVerifyingKey :=
  match classifyMultikeyBytes keyBytes with
  | some (curveId, sec1Bytes) =>
    if curveId = CURVE_SECP256K1 then
      match X.k256FromSec1Bytes sec1Bytes with
      | .ok key => .ok (.secp256k1 key)
      | .error e => .error (.invalidKey ("Invalid secp256k1 public key in '" ++ methodId ++ "': " ++ e))
    else if curveId = CURVE_P256 then
      match X.fromSec1Bytes sec1Bytes with
      | .ok key => .ok (.p256 key)
      | .error e => .error (.invalidKey ("Invalid P-256 public key in '" ++ methodId ++ "': " ++ e))
    else .error (multikeyError methodId keyBytes)
  | none => .error (multikeyError methodId keyBytes)

def extractAtprotoKeyFromDocument (X : ServiceCrates) (doc : DidDocument) :
    Except AtprotoOAuthError AtprotoVerifyingKey := do
  let method ← doc.extractSigningKey.elim (.error (.identity (.malformedDidDocument
    ("DID document '" ++ doc.id ++ "' has no #atproto verification method")))) .ok
  let raw ← method.publicKeyMultibase.elim (.error (.identity (.malformedDidDocument
    ("Verification method '" ++ method.id ++ "' carries no publicKeyMultibase")))) .ok
  let keyBytes ← (decodeMultikey X raw).mapError .crypto
  (keyOfBytes X method.id keyBytes).mapError .crypto

end Skyauth
