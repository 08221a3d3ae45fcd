import Skyauth.Error
import Skyauth.Lib.Base64
import Skyauth.Lib.Hex
import Mathlib.Data.Vector.Defs

/-!
# Sealed envelopes

`SealedBox` of `src/sealed.rs`: AES-256-GCM under a key that is given, hashed from a passphrase or read
from hex, and the envelope `enc:v1:<base64>` around nonce and ciphertext. The nonce that is drawn for an
envelope is an argument.
-/

namespace Skyauth

/-- A `[u8; N]`. -/
abbrev ByteArrayN (n : Nat) := List.Vector UInt8 n

/-- What the sealing takes from outside. -/
structure SealCrates where
  /-- `Aes256Gcm::encrypt`: of key, nonce, message and associated data. -/
  encrypt : ByteArrayN 32 → ByteArrayN 12 → List UInt8 → List UInt8 → Except String (List UInt8)
  /-- `Aes256Gcm::decrypt`: of key, nonce, ciphertext and associated data. -/
  decrypt : ByteArrayN 32 → ByteArrayN 12 → List UInt8 → List UInt8 → Option (List UInt8)
  /-- SHA-256. -/
  sha256 : List UInt8 → ByteArrayN 32
  /-- The text of the decoding error of the standard Base64 engine. -/
  base64Error : String → String
  /-- The text of the error of bytes that are not UTF-8. -/
  utf8Error : List UInt8 → String

def SEALED_ENVELOPE_PREFIX : String := "enc:v1:"

/-- A sealing key (`SealedBox`). -/
structure SealedBox where
  key : ByteArrayN 32
  deriving DecidableEq

/-- The chunks of `as_chunks::<2>`, without what is left over. -/
def asChunks2 : List UInt8 → List (List UInt8)
  | a :: b :: rest => [a, b] :: asChunks2 rest
  | _ => []

namespace SealedBox

def fromSecretPassphrase (X : SealCrates) (secret : String) : SealedBox where
  key := X.sha256 (Text.asBytes secret)

/-! ## Keys in hex -/

/-- One byte of a key. -/
def fromHexPair (X : SealCrates) (chunk : List UInt8) : Except CryptoError UInt8 :=
  match Text.fromUtf8 chunk with
  | none => .error (.invalidKey ("Key is not valid UTF-8: " ++ X.utf8Error chunk))
  | some pair =>
    (Hex.u8FromStrRadix pair 16).mapError fun e => .invalidKey ("Key is not valid hex: " ++ e.display)

def fromHex (X : SealCrates) (hex : String) : Except CryptoError SealedBox :=
  let bytes := Text.asBytes hex
  if bytes.length ≠ 64 then
    .error (.invalidKey ("Expected a 64-character hex key, got " ++ toString bytes.length ++
      " characters"))
  else do
    let key ← (asChunks2 bytes).mapM (fromHexPair X)
    if h : key.length = 32 then return { key := ⟨key, h⟩ }
    else .error (.invalidKey "Key must decode to 32 bytes")

/-! ## Envelopes -/

def sealWithAad (X : SealCrates) (box : SealedBox) (nonceBytes : ByteArrayN 12)
    (plaintext aad : List UInt8) : Except CryptoError String :=
  match X.encrypt box.key nonceBytes plaintext aad with
  | .error e => .error (.seal ("AES-256-GCM sealing failed: " ++ e))
  | .ok ciphertext =>
    .ok (SEALED_ENVELOPE_PREFIX ++ Base64.encodeStandard (nonceBytes.toList ++ ciphertext))

def «seal» (X : SealCrates) (box : SealedBox) (nonceBytes : ByteArrayN 12) (plaintext : List UInt8) :
    Except CryptoError String :=
  box.sealWithAad X nonceBytes plaintext []

/-- Decryption under one associated data. -/
def decrypt (X : SealCrates) (box : SealedBox) (nonce : ByteArrayN 12)
    (ciphertext associated : List UInt8) : Except CryptoError (List UInt8) :=
  match X.decrypt box.key nonce ciphertext associated with
  | some plaintext => .ok plaintext
  | none =>
    .error (.open "Authentication tag mismatch or invalid key while opening sealed payload")

/-- What `open_with_aad` makes of a decoded payload of full length. -/
def openPayload (X : SealCrates) (box : SealedBox) (nonce : ByteArrayN 12)
    (ciphertext aad : List UInt8) : Except CryptoError (List UInt8) :=
  match box.decrypt X nonce ciphertext aad with
  | .ok plaintext => .ok plaintext
  | .error err =>
    if aad ≠ [] then
      match box.decrypt X nonce ciphertext [] with
      | .ok plaintext => .ok plaintext
      | .error _ => .error err
    else .error err

def openWithAad (X : SealCrates) (box : SealedBox) (raw : String) (aad : List UInt8) :
    Except CryptoError (List UInt8) :=
  let raw := Text.trim raw
  match Text.stripPrefix raw SEALED_ENVELOPE_PREFIX with
  -- an old record, which is not encrypted
  | none => .ok (Text.asBytes raw)
  | some encoded =>
    match Base64.decodeStandard encoded with
    | none => .error (.base64Decode ("Sealed payload Base64 decode: " ++ X.base64Error encoded))
    | some combined =>
      if h : combined.length < 28 then .error (.invalidEnvelope "Sealed payload is truncated")
      else
        box.openPayload X ⟨combined.take 12, by rw [List.length_take]; omega⟩ (combined.drop 12) aad

def «open» (X : SealCrates) (box : SealedBox) (raw : String) : Except CryptoError (List UInt8) :=
  box.openWithAad X raw []

def openStringWithAad (X : SealCrates) (box : SealedBox) (raw : String) (aad : List UInt8) :
    Except CryptoError String := do
  let bytes ← box.openWithAad X raw aad
  match Text.fromUtf8 bytes with
  | some text => .ok text
  | none => .error (.utf8 (X.utf8Error bytes))

def openString (X : SealCrates) (box : SealedBox) (raw : String) : Except CryptoError String :=
  box.openStringWithAad X raw []

end SealedBox

end Skyauth
