import Skyauth.Crypto
import Skyauth.Lib.Checked

/-!
# PKCE

Code verifiers and their S256 challenges (`src/pkce.rs` with the kernels of `src/kernels/pkce_bytes.rs`).
-/

namespace Skyauth

/-! ## Kernels -/

def VERIFIER_MIN_LENGTH : Nat := 43

def VERIFIER_MAX_LENGTH : Nat := 128

/-- `u8::is_ascii_alphanumeric`. -/
def isAsciiAlphanumeric (byte : UInt8) : Bool :=
  (48 ≤ byte && byte ≤ 57) || (65 ≤ byte && byte ≤ 90) || (97 ≤ byte && byte ≤ 122)

def isUnreservedByte (byte : UInt8) : Bool :=
  isAsciiAlphanumeric byte || byte == 45 || byte == 46 || byte == 95 || byte == 126

def isValidVerifierLength (len : Nat) : Bool := len ≥ VERIFIER_MIN_LENGTH && len ≤ VERIFIER_MAX_LENGTH

inductive VerifierByteError where
  | invalidLength (len : Nat)
  | invalidCharacter (byte : UInt8) (position : Nat)
  deriving Repr, DecidableEq

/-- The loop of `validate_verifier_bytes`, from a position on. -/
def validateFrom (position : Nat) : List UInt8 → Except VerifierByteError Unit
  | [] => .ok ()
  | byte :: rest =>
    if !isUnreservedByte byte then .error (.invalidCharacter byte position)
    else validateFrom (position + 1) rest

def validateVerifierBytes (verifier : List UInt8) : Except VerifierByteError Unit :=
  if !isValidVerifierLength verifier.length then .error (.invalidLength verifier.length)
  else validateFrom 0 verifier

/-! ## Verifiers and challenges -/

def deriveS256Challenge (X : Crates) (verifier : String) : String :=
  base64urlEncode (X.sha256 (Text.asBytes verifier))

def validateVerifier (verifier : String) : Except PkceError Unit :=
  match validateVerifierBytes (Text.asBytes verifier) with
  | .ok () => .ok ()
  | .error (.invalidLength len) =>
    .error (.invalidVerifierLength len VERIFIER_MIN_LENGTH VERIFIER_MAX_LENGTH)
  | .error (.invalidCharacter byte position) =>
    .error (.invalidVerifierCharacter (Char.ofNat byte.toNat) position)

def verifyPkce (X : Crates) (verifier expectedChallenge : String) : Except PkceError Unit := do
  validateVerifier verifier
  if (Text.asBytes expectedChallenge).length ≠ 43 then
    .error (.invalidChallengeLength (Text.asBytes expectedChallenge).length)
  else if constantTimeEq (Text.asBytes (deriveS256Challenge X verifier))
      (Text.asBytes expectedChallenge) then .ok ()
  else .error .challengeMismatch

/-! ## Pairs -/

/-- A PKCE pair (`PkcePair`), always for the method `S256`. -/
structure PkcePair where
  verifier : String
  challenge : String
  deriving Repr, DecidableEq

/-- `rand::rng`: it fills a buffer of any size. -/
structure Rng where
  fillBytes : Nat → List UInt8
  length_fillBytes : ∀ n, (fillBytes n).length = n

/-- `usize::div_ceil`. -/
def divCeil (n d : Nat) : Nat := if 0 < n % d then n / d + 1 else n / d

namespace PkcePair

/-- `PkcePair::generate`, with the random bytes it draws. -/
def generate (X : Crates) (entropy : List UInt8) : PkcePair where
  verifier := base64urlEncode entropy
  challenge := deriveS256Challenge X (base64urlEncode entropy)

def fromVerifier (X : Crates) (verifier : String) : Except PkceError PkcePair := do
  validateVerifier verifier
  return { verifier := verifier, challenge := deriveS256Challenge X verifier }

/-- `PkcePair::generate_with_entropy_size` on a 64-bit machine, or `none` if it panics. -/
def generateWithEntropySize (X : Crates) (mode : Checked.Overflow) (rng : Rng) (entropyBytes : UInt64) :
    Option (Except PkceError PkcePair) :=
  if !(32 ≤ entropyBytes && entropyBytes ≤ 96) then do
    -- the length that the verifier would have, for the error
    let product ← Checked.mul 64 mode entropyBytes.toNat 4
    return .error (.invalidVerifierLength (divCeil product 3) 43 128)
  else some (fromVerifier X (base64urlEncode (rng.fillBytes entropyBytes.toNat)))

def verify (X : Crates) (pair : PkcePair) (candidateVerifier : String) : Except PkceError Unit :=
  verifyPkce X candidateVerifier pair.challenge

end PkcePair

end Skyauth
