import Skyauth.Crates
import Skyauth.Error
import Skyauth.Lib.Base64

/-!
# Cryptographic helpers

The helpers of `src/crypto.rs` and `src/kernels/ct_eq.rs` that proofs and their verification use.
-/

namespace Skyauth

def constantTimeEq (a b : List UInt8) : Bool :=
  if a.length ≠ b.length then false else a == b

/-- `base64url_encode`. -/
def base64urlEncode (data : List UInt8) : String := Base64.encode data

/-- `base64url_decode`: without padding, else with padding, both on the trimmed text. -/
def base64urlDecode (X : Crates) (input : String) : Except CryptoError (List UInt8) :=
  match Base64.decodeNoPad (Text.trim input) with
  | some data => .ok data
  | none =>
    match Base64.decodePadded (Text.trim input) with
    | some data => .ok data
    | none =>
      .error (.base64Decode ("Invalid base64url data: " ++ X.base64Error (Text.trim input)))

/-- `base64url_decode_fixed`. -/
def base64urlDecodeFixed (X : Crates) (n : Nat) (input : String) : Except CryptoError (List UInt8) := do
  let bytes ← base64urlDecode X input
  if bytes.length ≠ n then
    .error (.base64Decode ("Expected " ++ toString n ++ " bytes after base64url decode, got " ++
      toString bytes.length))
  else .ok bytes

/-- `sign_p256_raw`. -/
def signP256Raw (X : Crates) (key : SigningKey) (message : List UInt8) :
    Except CryptoError (List UInt8) :=
  let bytes := X.ecdsaSign key message
  if bytes.length ≠ 64 then
    .error (.ecdsaSign ("Signature generated unexpected length " ++ toString bytes.length ++
      ", expected 64"))
  else .ok bytes

/-- `verify_p256_raw`. -/
def verifyP256Raw (X : Crates) (key : VerifyingKey) (message signature : List UInt8) :
    Except CryptoError Unit :=
  if signature.length ≠ 64 then
    .error (.ecdsaVerify ("Invalid IEEE P1363 signature length: expected 64 bytes, got " ++
      toString signature.length))
  else
    match X.signatureFromSlice signature with
    | .error e => .error (.ecdsaVerify ("Failed to parse signature: " ++ e))
    | .ok () =>
      match X.ecdsaVerify key message signature with
      | .error e => .error (.ecdsaVerify ("Signature verification failed: " ++ e))
      | .ok () => .ok ()

/-- `verifying_key_from_coordinates`: the uncompressed SEC1 point. -/
def verifyingKeyFromCoordinates (X : Crates) (x y : List UInt8) : Except CryptoError VerifyingKey :=
  match X.fromSec1Bytes (0x04 :: (x ++ y)) with
  | .ok key => .ok key
  | .error e => .error (.invalidPoint ("Invalid P-256 public key point: " ++ e))

/-- `jwk_thumbprint_ec_p256`: the hash of the canonical JSON form of the key. -/
def jwkThumbprintEcP256 (X : Crates) (x y : String) : String :=
  let canonicalJson := "\x7b\"crv\":\"P-256\",\"kty\":\"EC\",\"x\":\"" ++ x ++ "\",\"y\":\"" ++ y ++ "\"\x7d"
  base64urlEncode (X.sha256 (Text.asBytes canonicalJson))

/-- `compute_access_token_hash` of `src/dpop.rs`. -/
def computeAccessTokenHash (X : Crates) (accessToken : String) : String :=
  base64urlEncode (X.sha256 (Text.asBytes accessToken))

end Skyauth
