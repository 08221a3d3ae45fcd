import Skyauth.Session
import Skyauth.Lib.Fallible

/-!
# Persisted sessions

The JSON form of an `OAuthSession` (`src/session.rs`): the derived `Serialize`, and the `Deserialize`
written by hand, which reads the fields and then checks them again. A key is kept as a PKCS#8 PEM text,
a time as its seconds and nanoseconds since the Unix epoch.
-/

namespace Skyauth

open Fallible (rejectIf)

/-- What persisting a session takes from outside besides the functions of `Crates`. -/
structure PersistCrates extends Crates where
  /-- `EncodePrivateKey::to_pkcs8_pem`. -/
  toPkcs8Pem : SigningKey → Except String String
  /-- `DecodePrivateKey::from_pkcs8_pem`. -/
  fromPkcs8Pem : String → Except String SigningKey

/-! ## Fields -/

namespace Json

/-- A value of type `Option<T>`; `None` is `null`. -/
def ofOption {T : Type} (encode : T → Json) : Option T → Json
  | none => .null
  | some v => encode v

/-- A field of type `u32`. -/
def toU32Field : Json → Except String Nat
  | .int n =>
    if 0 ≤ n ∧ n < 2 ^ 32 then .ok n.toNat else .error "invalid value: integer, expected u32"
  | _ => .error "invalid type: expected u32"

end Json

namespace SystemTime

/-- The `Serialize` of a time. -/
def toJson (t : SystemTime) : Except String Json :=
  if t.nanos < 0 then .error "SystemTime must be later than UNIX_EPOCH"
  else .ok (.obj [("secs_since_epoch", .int (t.nanos / 1000000000)),
    ("nanos_since_epoch", .int (t.nanos % 1000000000))])

/-- The time this long after the epoch, if it can be represented. -/
def ofParts (secs nanos : Nat) : Except String SystemTime :=
  if 2 ^ 64 ≤ secs + nanos / 1000000000 then
    .error "overflow deserializing SystemTime epoch offset"
  else if 2 ^ 63 * 1000000000 ≤ secs * 1000000000 + nanos then
    .error "overflow deserializing SystemTime"
  else .ok ⟨(secs * 1000000000 + nanos : Nat)⟩

/-- The `Deserialize` of a time, which refuses other members. -/
def fromJson : Json → Except String SystemTime
  | .arr [secs, nanos] => do ofParts (← secs.toU64Field) (← nanos.toU32Field)
  | .arr _ => .error "invalid length, expected struct SystemTime"
  | .obj members => do
    rejectIf (∃ m ∈ members, m.1 ≠ "secs_since_epoch" ∧ m.1 ≠ "nanos_since_epoch")
      "unknown field, expected `secs_since_epoch` or `nanos_since_epoch`"
    let secs ← Json.required "secs_since_epoch" Json.toU64Field
      (← Json.member members "secs_since_epoch")
    let nanos ← Json.required "nanos_since_epoch" Json.toU32Field
      (← Json.member members "nanos_since_epoch")
    ofParts secs nanos
  | _ => .error "invalid type, expected struct SystemTime"

end SystemTime

namespace DPoPKey

def toPkcs8Pem (X : PersistCrates) (key : DPoPKey) : Except CryptoError String :=
  (X.toPkcs8Pem key.signingKey).mapError fun e => .pem ("Failed to export PKCS#8 PEM: " ++ e)

def fromPkcs8Pem (X : PersistCrates) (pem : String) : Except CryptoError DPoPKey :=
  ((X.fromPkcs8Pem pem).mapError fun e => .pem ("Invalid PKCS#8 PEM key: " ++ e)).map fun signingKey =>
    { signingKey := signingKey }

/-- The `Serialize` of a key. -/
def toJson (X : PersistCrates) (key : DPoPKey) : Except String Json :=
  ((key.toPkcs8Pem X).mapError CryptoError.display).map .str

/-- The `Deserialize` of a key. -/
def fromJson (X : PersistCrates) (j : Json) : Except String DPoPKey := do
  let s ← j.toStringField
  (fromPkcs8Pem X s).mapError CryptoError.display

end DPoPKey

/-! ## Sessions -/

namespace OAuthSession

/-- The derived `Serialize`, in order of declaration. -/
def toJson (X : PersistCrates) (s : OAuthSession) : Except String Json := do
  let expiresAt ← match s.expiresAt with
    | none => .ok .null
    | some t => t.toJson
  let dpopKey ← s.dpopKey.toJson X
  let createdAt ← s.createdAt.toJson
  return .obj [("sub", .str s.sub), ("access_token", .str s.accessToken),
    ("refresh_token", .ofOption .str s.refreshToken), ("token_type", .str s.tokenType),
    ("scope", .ofOption .str s.scope), ("expires_at", expiresAt), ("dpop_key", dpopKey),
    ("pds_endpoint", .ofOption .str s.pdsEndpoint),
    ("auth_server_issuer", .ofOption .str s.authServerIssuer),
    ("token_endpoint", .ofOption .str s.tokenEndpoint), ("created_at", createdAt)]

/-- The derived `Deserialize` of the fields (`RawSession`). -/
def rawFromJson (X : PersistCrates) : Json → Except String OAuthSession
  | .arr [sub, accessToken, refreshToken, tokenType, scope, expiresAt, dpopKey, pdsEndpoint,
      authServerIssuer, tokenEndpoint, createdAt] => do
    return { sub := ← sub.toStringField, accessToken := ← accessToken.toStringField
             refreshToken := ← refreshToken.toOptionField Json.toStringField
             tokenType := ← tokenType.toStringField
             scope := ← scope.toOptionField Json.toStringField
             expiresAt := ← expiresAt.toOptionField SystemTime.fromJson
             dpopKey := ← DPoPKey.fromJson X dpopKey
             pdsEndpoint := ← pdsEndpoint.toOptionField Json.toStringField
             authServerIssuer := ← authServerIssuer.toOptionField Json.toStringField
             tokenEndpoint := ← tokenEndpoint.toOptionField Json.toStringField
             createdAt := ← SystemTime.fromJson createdAt }
  | .arr _ => .error "invalid length, expected struct RawSession with 11 elements"
  | .obj members => do
    return { sub := ← Json.required "sub" Json.toStringField (← Json.member members "sub")
             accessToken := ← Json.required "access_token" Json.toStringField
               (← Json.member members "access_token")
             refreshToken := ← Json.optional Json.toStringField (← Json.member members "refresh_token")
             tokenType := ← Json.required "token_type" Json.toStringField
               (← Json.member members "token_type")
             scope := ← Json.optional Json.toStringField (← Json.member members "scope")
             expiresAt := ← Json.optional SystemTime.fromJson (← Json.member members "expires_at")
             dpopKey := ← Json.required "dpop_key" (DPoPKey.fromJson X)
               (← Json.member members "dpop_key")
             pdsEndpoint := ← Json.optional Json.toStringField (← Json.member members "pds_endpoint")
             authServerIssuer := ← Json.optional Json.toStringField
               (← Json.member members "auth_server_issuer")
             tokenEndpoint := ← Json.optional Json.toStringField
               (← Json.member members "token_endpoint")
             createdAt := ← Json.required "created_at" SystemTime.fromJson
               (← Json.member members "created_at") }
  | _ => .error "invalid type, expected struct RawSession"

/-- The checks of `deserialize` on the fields. -/
def checkRestored (raw : OAuthSession) : Except String Unit := do
  rejectIf ((!Text.eqIgnoreAsciiCase raw.tokenType "DPoP") = true)
    ("OAuthSession deserialization rejected: token_type must be 'DPoP', got '" ++ raw.tokenType ++ "'")
  rejectIf (Text.trim raw.sub = "")
    "OAuthSession deserialization rejected: `sub` must be a non-empty DID"
  rejectIf (Text.trim raw.accessToken = "")
    "OAuthSession deserialization rejected: `access_token` must be non-empty"

/-- `OAuthSession::deserialize`. -/
def fromJson (X : PersistCrates) (j : Json) : Except String OAuthSession := do
  let raw ← rawFromJson X j
  checkRestored raw
  return raw

/-- `serde_json::to_string` of a session. -/
def serialize (X : PersistCrates) (s : OAuthSession) : Except String String :=
  s.toJson X >>= X.jsonToString

/-- `serde_json::from_str` of a session. -/
def deserialize (X : PersistCrates) (text : String) : Except String OAuthSession :=
  X.jsonFromSlice (Text.asBytes text) >>= fromJson X

end OAuthSession

end Skyauth
