import Skyauth.Request

/-!
# Challenges by their grammar

What a `WWW-Authenticate` value of the scheme `DPoP` says by the syntax of RFC 6750 § 3 and RFC 7235: a
list of parameters whose values are tokens or quoted strings. This is what
`is_rs_dpop_nonce_challenge` is measured by; it is not how the source reads a challenge.
-/

namespace Skyauth

/-! ## Characters -/

def isTchar (c : Char) : Bool := c.isAlphanum || "!#$%&'*+-.^_`|~".toList.contains c

/-- A character of a header field: a blank, a visible one, or a byte beyond ASCII. -/
def isFieldChar (c : Char) : Bool :=
  c == '\t' || (32 ≤ c.toNat && c.toNat ≤ 126) || (128 ≤ c.toNat && c.toNat ≤ 255)

/-- A character that stands for itself in a quoted string. -/
def isQdtext (c : Char) : Bool := isFieldChar c && c != '"' && c != '\\'

def isBlank (c : Char) : Bool := c == ' ' || c == '\t'

structure Token where
  text : String
  ne_empty : text ≠ ""
  legal : ∀ c ∈ text.toList, isTchar c = true

/-- Optional blanks. -/
structure Ows where
  text : String
  legal : ∀ c ∈ text.toList, isBlank c = true

/-- A character of a quoted string, as itself or behind a backslash. -/
inductive QuotedChar where
  | plain (c : Char) (h : isQdtext c = true)
  | pair (c : Char) (h : isFieldChar c = true)

namespace QuotedChar

def value : QuotedChar → Char
  | plain c _ => c
  | pair c _ => c

def written : QuotedChar → List Char
  | plain c _ => [c]
  | pair c _ => ['\\', c]

def isPair : QuotedChar → Bool
  | plain .. => false
  | pair .. => true

end QuotedChar

/-! ## Parameters -/

inductive ParamValue where
  | token (t : Token)
  | quoted (content : List QuotedChar)

namespace ParamValue

/-- The value that is meant. -/
def value : ParamValue → String
  | token t => t.text
  | quoted content => String.ofList (content.map QuotedChar.value)

/-- The value as it is written, without the quotes. -/
def written : ParamValue → String
  | token t => t.text
  | quoted content => String.ofList (content.flatMap QuotedChar.written)

def text : ParamValue → String
  | token t => t.text
  | quoted content => "\"" ++ (quoted content).written ++ "\""

def hasPair : ParamValue → Bool
  | token _ => false
  | quoted content => content.any QuotedChar.isPair

end ParamValue

/-- A parameter, with the blanks around its parts. -/
structure AuthParam where
  before : Ows
  name : Token
  beforeSign : Ows
  afterSign : Ows
  value : ParamValue
  after : Ows

namespace AuthParam

def text (p : AuthParam) : String :=
  p.before.text ++ (p.name.text ++ p.beforeSign.text ++ "=" ++ (p.afterSign.text ++ p.value.text)) ++
    p.after.text

/-- The parameter is the error `use_dpop_nonce`. -/
def isNonceError (p : AuthParam) : Bool :=
  Text.eqIgnoreAsciiCase p.name.text "error" &&
    Text.eqIgnoreAsciiCase p.value.value "use_dpop_nonce"

end AuthParam

/-! ## Challenges -/

/-- The parameters of a challenge, separated by commas. -/
def joinParams : List AuthParam → String
  | [] => ""
  | [p] => p.text
  | p :: q :: rest => p.text ++ "," ++ joinParams (q :: rest)

/-- A challenge of the scheme `DPoP`. -/
def challengeText (params : List AuthParam) : String := "DPoP" ++ " " ++ joinParams params

/-- The bytes of header text. -/
def fieldBytes (text : String) : List UInt8 := text.toList.map fun c => UInt8.ofNat c.toNat

/-- The challenge asks for a nonce. -/
def asksForNonce (params : List AuthParam) : Bool := params.any AuthParam.isNonceError

/-- The challenge asks for a nonce in a parameter that is written without backslashes. -/
def asksPlainly (params : List AuthParam) : Bool :=
  params.any fun p => p.isNonceError && !p.value.hasPair

/-- The challenge asks for a nonce in a parameter that is written with backslashes. -/
def asksInPairs (params : List AuthParam) : Bool :=
  params.any fun p => p.isNonceError && p.value.hasPair

/-- Text that has the look of the parameter: the name and the value with blanks around them, and any
    number of quotes at the value. -/
def LooksLikeNonceError (text : String) : Prop :=
  ∃ b₁ name b₂ b₃ q₁ value q₂ b₄ : String,
    text = b₁ ++ (name ++ b₂ ++ "=" ++ (b₃ ++ (q₁ ++ value ++ q₂))) ++ b₄ ∧
    (∀ b ∈ [b₁, b₂, b₃, b₄], ∀ c ∈ b.toList, Text.isWhitespace c = true) ∧
    (∀ q ∈ [q₁, q₂], ∀ c ∈ q.toList, c = '"') ∧
    Text.eqIgnoreAsciiCase name "error" = true ∧
    Text.eqIgnoreAsciiCase value "use_dpop_nonce" = true

/-- A quoted string is cut at its commas, and one of the pieces has the look of the parameter. -/
def MisreadPiece (params : List AuthParam) : Prop :=
  ∃ p ∈ params, ',' ∈ p.value.written.toList ∧
    ∃ piece ∈ Text.split ',' p.text, LooksLikeNonceError piece

def IsAscii (text : String) : Prop := ∀ c ∈ text.toList, c.toNat < 128

end Skyauth
