import Skyauth.Session

/-!
# HTTP messages

The parts of the `http` crate that the middleware and the client handle, and the extensions that the
middleware attaches to a request.
-/

namespace Skyauth

/-- A byte that a header value may hold. -/
def isValidHeaderByte (b : UInt8) : Bool := (32 ≤ b && b != 127) || b == 9

/-- A byte that `HeaderValue::to_str` lets through. -/
def isVisibleHeaderByte (b : UInt8) : Bool := (32 ≤ b && b < 127) || b == 9

/-- A header value (`HeaderValue`). -/
structure HeaderValue where
  bytes : List UInt8
  valid : bytes.all isValidHeaderByte = true
  deriving DecidableEq

namespace HeaderValue

def fromStr (s : String) : Option HeaderValue :=
  if h : (Text.asBytes s).all isValidHeaderByte = true then some ⟨Text.asBytes s, h⟩ else none

/-- `HeaderValue::to_str`: visible ASCII only, so every byte is one character. -/
def toStr (v : HeaderValue) : Option String :=
  if v.bytes.all isVisibleHeaderByte then
    some (String.ofList (v.bytes.map fun b => Char.ofNat b.toNat))
  else none

end HeaderValue

/-- A header map: names in lower case, several values of a name in the order they came. -/
abbrev HeaderMap := List (String × HeaderValue)

namespace HeaderMap

/-- `HeaderMap::get`: the first value of a name, in whatever case it is asked for. -/
def get (h : HeaderMap) (name : String) : Option HeaderValue := h.lookup (Text.toAsciiLowercase name)

def getAll (h : HeaderMap) (name : String) : List HeaderValue :=
  (h.filter fun x => x.1 == Text.toAsciiLowercase name).map Prod.snd

/-- `HeaderMap::insert`: replaces all values of a name. -/
def insert (h : HeaderMap) (name : String) (v : HeaderValue) : HeaderMap :=
  (h.filter fun x => x.1 != Text.toAsciiLowercase name) ++ [(Text.toAsciiLowercase name, v)]

/-- Inserts a text if it is a legal header value, and does nothing otherwise. -/
def insertStr (h : HeaderMap) (name value : String) : HeaderMap :=
  match HeaderValue.fromStr value with
  | some v => h.insert name v
  | none => h

end HeaderMap

/-- The text of a header, if it is there and readable. -/
def headerText (headers : HeaderMap) (name : String) : Option String :=
  (headers.get name).bind HeaderValue.toStr

/-- A URI scheme (`http::uri::Scheme`). -/
inductive Scheme where
  | http
  | https
  | other (s : String)
  deriving Repr, DecidableEq

def Scheme.asStr : Scheme → String
  | http => "http"
  | https => "https"
  | other s => s

/-- A URI authority: its text and the host and port in it. -/
structure Authority where
  asStr : String
  host : String
  portU16 : Option Nat
  deriving Repr, DecidableEq

/-- A request URI (`http::Uri`). -/
structure Uri where
  scheme : Option Scheme
  authority : Option Authority
  pathAndQuery : Option String
  deriving Repr, DecidableEq

/-- The user of an authenticated request (`AuthenticatedUser`). -/
structure AuthenticatedUser where
  did : String
  accessToken : String
  dpopThumbprint : String
  scope : Option String
  deriving Repr, DecidableEq

/-- The session extension of a request (`OAuthSessionExtension`). -/
structure OAuthSessionExtension where
  user : AuthenticatedUser
  session : Option OAuthSession
  deriving Repr, DecidableEq

def OAuthSessionExtension.new (user : AuthenticatedUser) : OAuthSessionExtension where
  user := user
  session := none

/-- The extensions of a request that the middleware writes. -/
structure Extensions where
  session : Option OAuthSessionExtension
  user : Option AuthenticatedUser
  deriving Repr, DecidableEq

/-- A request with a body of type `B`. -/
structure Request (B : Type) where
  method : String
  uri : Uri
  headers : HeaderMap
  extensions : Extensions
  body : B

/-- A response with a body of type `B`. -/
structure Response (B : Type) where
  status : Nat
  headers : HeaderMap
  body : B

def isSuccess (status : Nat) : Bool := 200 ≤ status && status < 300

end Skyauth
