import Skyauth.Lib.Text
import Mathlib.Algebra.Group.Nat.Defs
import Mathlib.Algebra.Group.Int.Defs

/-!
# What the code takes from other crates

The data types of the external crates that the modelled functions handle, and the structure `Crates`
of the external functions they call. Every statement about the modelled code is for an arbitrary
`Crates`; what a result needs to know about an external function is a hypothesis of that result.
-/

namespace Skyauth

/-! ## Time -/

/-- `std::time::SystemTime`, as nanoseconds relative to the Unix epoch. -/
structure SystemTime where
  nanos : Int
  deriving Repr, DecidableEq

/-- `duration_since(UNIX_EPOCH)` in whole seconds, or the text of the error for a time before it. -/
def SystemTime.unixSecs (t : SystemTime) : Except String Nat :=
  if t.nanos < 0 then .error "second time provided was later than self"
  else .ok (t.nanos.toNat / 1000000000)

/-- The moment a whole number of seconds after the epoch. -/
def SystemTime.ofSecs (n : Nat) : SystemTime := ⟨(n : Int) * 1000000000⟩

/-- `std::time::Duration`, in nanoseconds; its whole seconds fit a `u64`. -/
structure Duration where
  nanos : Nat
  nanos_lt : nanos < 2 ^ 64 * 1000000000
  deriving Repr, DecidableEq

def Duration.asSecs (d : Duration) : Nat := d.nanos / 1000000000

/-- `Duration::from_secs` of a `u64`. -/
def Duration.fromSecs (n : Nat) (h : n < 2 ^ 64) : Duration := ⟨n * 1000000000, by omega⟩

theorem Duration.minute_lt : 60 < 2 ^ 64 := by decide

theorem Duration.five_minutes_lt : 300 < 2 ^ 64 := by decide

/-! ## JSON -/

/-- A JSON document as it is written: an object keeps its members in order, duplicates included. -/
inductive Json where
  | null
  | bool (b : Bool)
  | int (n : Int)
  | float (literal : String)
  | str (s : String)
  | arr (items : List Json)
  | obj (members : List (String × Json))
  deriving Inhabited

namespace Json

/-- `Value::get` with a string index: the value of the last member of that name. -/
def get (j : Json) (name : String) : Option Json :=
  match j with
  | .obj members => members.reverse.lookup name
  | _ => none

def asStr : Json → Option String
  | .str s => some s
  | _ => none

/-- The member a derived deserializer reads for a field, which refuses a repeated member. -/
def member (members : List (String × Json)) (name : String) : Except String (Option Json) :=
  if 1 < (members.filter (fun m => m.1 == name)).length then
    .error ("duplicate field `" ++ name ++ "`")
  else .ok (members.lookup name)

/-- A field of type `String`. -/
def toStringField : Json → Except String String
  | .str s => .ok s
  | _ => .error "invalid type: expected a string"

/-- A field of type `u64`. -/
def toU64Field : Json → Except String Nat
  | .int n =>
    if 0 ≤ n ∧ n < 2 ^ 64 then .ok n.toNat else .error "invalid value: integer, expected u64"
  | _ => .error "invalid type: expected u64"

/-- A field of type `Option<T>`: `null` is `None`. -/
def toOptionField {T : Type} (decode : Json → Except String T) : Json → Except String (Option T)
  | .null => .ok none
  | j => (decode j).map some

/-- A field that must be present. -/
def required {T : Type} (name : String) (decode : Json → Except String T) :
    Option Json → Except String T
  | none => .error ("missing field `" ++ name ++ "`")
  | some j => decode j

/-- A field of type `Option<T>`, which may be absent. -/
def optional {T : Type} (decode : Json → Except String T) : Option Json → Except String (Option T)
  | none => .ok none
  | some j => toOptionField decode j

end Json

/-! ## URLs and keys -/

/-- The components of a parsed `url::Url` that the code reads. -/
structure Url where
  scheme : String
  hostStr : Option String
  port : Option Nat
  path : String
  /-- `origin().ascii_serialization()`. -/
  origin : String
  deriving Repr, DecidableEq

/-- A P-256 public key, given by its affine coordinates. -/
structure VerifyingKey where
  x : List UInt8
  y : List UInt8
  x_length : x.length = 32
  y_length : y.length = 32
  deriving DecidableEq

/-- A P-256 private key, given by the bytes of its scalar. -/
structure SigningKey where
  scalar : List UInt8
  deriving Repr, DecidableEq

/-- The external functions. -/
structure Crates where
  /-- SHA-256. -/
  sha256 : List UInt8 → List UInt8
  /-- The public key of a private key. -/
  verifyingKey : SigningKey → VerifyingKey
  /-- `VerifyingKey::from_sec1_bytes`. -/
  fromSec1Bytes : List UInt8 → Except String VerifyingKey
  /-- `Signer::sign`, in the 64-byte form. -/
  ecdsaSign : SigningKey → List UInt8 → List UInt8
  /-- `Signature::from_slice`, which refuses scalars out of range. -/
  signatureFromSlice : List UInt8 → Except String Unit
  /-- `Verifier::verify`. -/
  ecdsaVerify : VerifyingKey → List UInt8 → List UInt8 → Except String Unit
  /-- `serde_json::from_slice`. -/
  jsonFromSlice : List UInt8 → Except String Json
  /-- `serde_json::to_string`. -/
  jsonToString : Json → Except String String
  /-- `Url::parse`. -/
  urlParse : String → Except String Url
  /-- The text of the decoding error of the padded Base64 engine. -/
  base64Error : String → String
  /-- The Unicode uppercase mapping of a character outside ASCII. -/
  unicodeUpper : Char → List Char

def Crates.toUppercase (X : Crates) (s : String) : String :=
  String.ofList (s.toList.flatMap fun c => if c.toNat < 128 then [c.toUpper] else X.unicodeUpper c)

end Skyauth
